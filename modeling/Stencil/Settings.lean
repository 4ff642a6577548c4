import Stencil.Builtin
import Stencil.Factory

/-!
Settings of the engine: where page files are, whether templates get the builtin
functions, and the default context of every template.
-/

namespace Stencil

structure Settings where
  templateDir : Option String
  builtins : Bool
  defaults : Fields

namespace Settings

def initial : Settings := ⟨none, true, []⟩

def functions (settings : Settings) : Registry :=
  if settings.builtins then Builtin.registry else Registry.empty

/-- A factory of page templates; functions given on top win over builtins. -/
def factoryWith (settings : Settings) (extra : Registry) : Factory :=
  ⟨.pages settings.templateDir, settings.defaults, settings.functions.extend extra⟩

def factory (settings : Settings) : Factory := settings.factoryWith Registry.empty

def isInitial (settings : Settings) : Bool :=
  settings.templateDir.isNone && settings.builtins && settings.defaults.isEmpty

def toValue (settings : Settings) : Value :=
  .object ((match settings.templateDir with
      | some directory => [("template_dir", .string directory)]
      | none => []) ++
    [("builtins", .bool settings.builtins)] ++
    (if settings.defaults.isEmpty then [] else [("defaults", .object settings.defaults)]))

end Settings

end Stencil
