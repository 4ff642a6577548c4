import Stencil.Context

/-!
What a body or a function does, as a finite tree of steps. Each step that can be
answered names how it goes on for every answer, so a body may act on what it
reads and may go on after a failure. A template is a body with a default context
and a registry of functions, and a step may render one.
-/

namespace Stencil

mutual

inductive Action where
  | done (value : Value)
  | fail (fault : Fault)
  | write (text : String) (next : Action)
  /-- The number of active captures. -/
  | depth (next : Nat → Action)
  | lookup (key : String) (fallback : Option Value) (next : Except Fault Value → Action)
  | invoke (name : String) (args : List Value) (next : Except Fault Value → Action)
  /-- Runs a part under a capture of its own and takes its value and text. -/
  | capture (part : Action) (next : Except Fault (Value × String) → Action)
  /-- Renders a template and takes the body's value and the text. -/
  | render (template : Template) (supply : Supply)
      (next : Except Fault (Value × String) → Action)
  /-- Whether the catalog holds a body at a location. -/
  | locate (location : String) (next : Bool → Action)

inductive Body where
  | program (action : Action) (location : Option String)
  /-- A page file, read anew whenever it is rendered. -/
  | page (path : String)
  /-- Whatever body the catalog holds at the location when it is rendered. -/
  | stored (location : String)

inductive Template where
  | mk (name : Option String) (body : Body) (defaults : List (String × Value))
      (functions : List (String × (List Value → Action)))

end

instance : Inhabited Action := ⟨.done .null⟩

instance : Inhabited Template := ⟨.mk none (.program default none) [] []⟩

abbrev Function := List Value → Action

/-- Functions by name, in the order of the names. -/
abbrev Registry := List (String × Function)

namespace Body

def location? : Body → Option String
  | .program _ location => location
  | .page path => some path
  | .stored location => some location

def describe (body : Body) : String := body.location?.getD "<inline>"

end Body

namespace Template

def name? : Template → Option String
  | .mk name _ _ _ => name

def body : Template → Body
  | .mk _ body _ _ => body

def defaults : Template → Fields
  | .mk _ _ defaults _ => defaults

def functions : Template → Registry
  | .mk _ _ _ functions => functions

def location? (template : Template) : Option String := template.body.location?

def displayName (template : Template) : String :=
  template.name?.getD template.body.describe

end Template

namespace Action

def andThen (action : Action) (next : Except Fault Value → Action) : Action :=
  match action with
  | .done value => next (.ok value)
  | .fail fault => next (.error fault)
  | .write text rest => .write text (rest.andThen next)
  | .depth rest => .depth fun count => (rest count).andThen next
  | .lookup key fallback rest => .lookup key fallback fun reply => (rest reply).andThen next
  | .invoke name args rest => .invoke name args fun reply => (rest reply).andThen next
  | .capture part rest => .capture part fun reply => (rest reply).andThen next
  | .render template supply rest =>
      .render template supply fun reply => (rest reply).andThen next
  | .locate location rest => .locate location fun held => (rest held).andThen next

def ofExcept : Except Fault Value → Action
  | .ok value => .done value
  | .error fault => .fail fault

end Action

end Stencil
