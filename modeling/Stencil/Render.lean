import Stencil.Engine
import Stencil.Markup
import Stencil.Registry

/-!
Rendering. A body gets a reader of its context and a caller of its functions,
runs under a capture, and its captured text is the result. A function has no
bindings of its own; it acts on its arguments, the channel, and the templates it
renders. Recursion is on the action: only a stored body leads elsewhere, and the
surroundings say what it means.
-/

namespace Stencil

/-- What rendering finds around it: the files, and the bodies held by the
catalog with their meaning. -/
structure Surroundings where
  files : FileTree
  holds : String → Bool
  stored : String → Bindings → Engine Value

def Bindings.none : Bindings where
  lookup _ fallback := pure (fallback.getD .null)
  invoke name _ := throw (Registry.missing Registry.empty name)

/-- Reads a page, renders it in full, and writes its text once. -/
def runPage (files : FileTree) (path : String) (bindings : Bindings) : Engine Value := do
  match files.readText path with
  | .error error => throw (.layered ("Failed to read template body: " ++ path) (.file error))
  | .ok source =>
      match ← (Markup.render source).run bindings with
      | .error fault => throw (.layered ("Failed to evaluate template body: " ++ path) fault)
      | .ok text =>
          Engine.write text
          return .null

def siteOf (name : Option String) (body : Body) (functions : Registry) : RenderSite :=
  ⟨name.getD body.describe, body.location?, functions.names⟩

mutual

def Action.run (around : Surroundings) (bindings : Bindings) : Action → Engine Value
  | .done value => return value
  | .fail fault => throw fault
  | .write text next => do
      Engine.write text
      next.run around bindings
  | .depth next => do (next (← Engine.depth)).run around bindings
  | .lookup key fallback next => do
      (next (← Engine.attempt (bindings.lookup key fallback))).run around bindings
  | .invoke name args next => do
      (next (← Engine.attempt (bindings.invoke name args))).run around bindings
  | .capture part next => do
      (next (← Engine.attempt (Engine.captured (part.run around bindings)))).run around bindings
  | .render template supply next => do
      (next (← Engine.attempt (template.run around supply))).run around bindings
  | .locate location next => (next (around.holds location)).run around bindings

def Body.run (around : Surroundings) (bindings : Bindings) : Body → Engine Value
  | .program action _ => action.run around bindings
  | .page path => runPage around.files path bindings
  | .stored location => around.stored location bindings

def Template.run (around : Surroundings) (supply : Supply) : Template → Engine (Value × String)
  | .mk name body defaults functions =>
      let site := siteOf name body functions
      match supply.toContext with
      | .error fault => throw (.setup site fault)
      | .ok context => do
          let bindings : Bindings :=
            { lookup := fun key fallback => Engine.answer (context.resolve defaults key fallback)
              invoke := fun called args => callNamed around functions called args
                (throw (Registry.missing functions called)) }
          match ← Engine.attempt (Engine.captured (body.run around bindings)) with
          | .ok rendition => return rendition
          | .error fault => throw (.evaluation site context.summary fault)

def callNamed (around : Surroundings) :
    List (String × (List Value → Action)) → String → List Value → Engine Value → Engine Value
  | [], _, _, absent => absent
  | (known, function) :: rest, name, args, absent =>
      if name == known then (function args).run around Bindings.none
      else callNamed around rest name args absent

end

/-- The capabilities of a template's body: its context over its defaults, and its
own functions. -/
def Template.bindings (around : Surroundings) (context : Context) (template : Template) :
    Bindings where
  lookup key fallback := Engine.answer (context.resolve template.defaults key fallback)
  invoke name args := callNamed around template.functions name args
    (throw (Registry.missing template.functions name))

def maxStoredDepth : Nat := 2000

end Stencil
