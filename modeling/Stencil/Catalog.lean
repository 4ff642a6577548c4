import Stencil.Render

/-!
A catalog of bodies by location. Locations agree when their parts do. A template
made from a location looks its body up whenever it is rendered, so a body that is
replaced or removed changes templates that already exist.
-/

namespace Stencil

structure Catalog where
  bodies : List (String × Action)

namespace Catalog

def empty : Catalog := ⟨[]⟩

def sameLocation (a b : String) : Bool := Path.parts a == Path.parts b

def find? (catalog : Catalog) (location : String) : Option Action :=
  (catalog.bodies.find? fun entry => sameLocation entry.1 location).map Prod.snd

def contains (catalog : Catalog) (location : String) : Bool := (catalog.find? location).isSome

/-- A location that is there keeps its spelling and takes the new body. -/
def insert (catalog : Catalog) (location : String) (body : Action) : Catalog :=
  if catalog.contains location then
    ⟨catalog.bodies.map fun entry =>
      if sameLocation entry.1 location then (entry.1, body) else entry⟩
  else ⟨catalog.bodies ++ [(location, body)]⟩

def remove (catalog : Catalog) (location : String) : Catalog :=
  ⟨catalog.bodies.filter fun entry => !sameLocation entry.1 location⟩

def locations (catalog : Catalog) : List String := catalog.bodies.map Prod.fst

/-- The meaning of stored bodies that lead at most `depth` levels on. -/
def meaning (catalog : Catalog) (files : FileTree) : Nat → String → Bindings → Engine Value
  | 0, _, _ => throw (.message "Stored template bodies are nested too deeply")
  | depth + 1, location, bindings =>
      match catalog.find? location with
      | none => throw (.unknownLocation location)
      | some action =>
          action.run ⟨files, catalog.contains, meaning catalog files depth⟩ bindings

/-- The surroundings in which stored bodies lead at most `reach` levels on. -/
def within (catalog : Catalog) (files : FileTree) (reach : Nat) : Surroundings :=
  ⟨files, catalog.contains, catalog.meaning files reach⟩

def surroundings (catalog : Catalog) (files : FileTree) : Surroundings :=
  catalog.within files maxStoredDepth

end Catalog

end Stencil
