import Stencil.Action
import Stencil.Suggestion

/-! Functions by name. A later function under a name replaces the earlier one. -/

namespace Stencil.Registry

def empty : Registry := []

def register (registry : Registry) (name : String) (function : Function) : Registry :=
  insertSorted name function registry

/-- Copies the entries of `other`, which win. -/
def extend (registry other : Registry) : Registry :=
  other.foldl (fun grown entry => register grown entry.1 entry.2) registry

def ofList (entries : List (String × Function)) : Registry := extend empty entries

def find? (registry : Registry) (name : String) : Option Function := registry.lookup name

def contains (registry : Registry) (name : String) : Bool := (registry.find? name).isSome

def names (registry : Registry) : List String := registry.map Prod.fst

def size (registry : Registry) : Nat := registry.length

def isEmpty (registry : Registry) : Bool := List.isEmpty registry

def missing (registry : Registry) (name : String) : Fault :=
  .missingFunction name (suggestionsFor name registry.names)

/-- What calling a name does: what its function does, else it fails. -/
def call (registry : Registry) (name : String) (args : List Value) : Action :=
  match registry.find? name with
  | some function => function args
  | none => .fail (registry.missing name)

end Stencil.Registry

namespace Stencil.Template

def withDefault (template : Template) (key : String) (value : Value) : Template :=
  .mk template.name? template.body (template.defaults.insert key value) template.functions

def site (template : Template) : RenderSite :=
  ⟨template.displayName, template.location?, template.functions.names⟩

end Stencil.Template
