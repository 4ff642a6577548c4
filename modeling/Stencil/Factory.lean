import Stencil.Catalog

/-!
Making templates from locations. A factory finds the body, in the catalog or
among page files, and gives every template the same defaults and functions.
-/

namespace Stencil

/-- Where a factory finds bodies. Relative locations of pages are taken from the
base directory, if there is one. -/
inductive BodySource where
  | catalog
  | pages (base : Option String)

structure Factory where
  source : BodySource
  defaults : Fields
  functions : Registry

namespace BodySource

def body (source : BodySource) (catalog : Catalog) (location : String) : Except Fault Body :=
  match source with
  | .catalog =>
      if catalog.contains location then .ok (.stored location)
      else .error (.unknownLocation location)
  | .pages base =>
      if location.isEmpty then .error (.badLocation "" "path is empty")
      else match base with
        | some directory => .ok (.page (Path.join directory location))
        | none => .ok (.page location)

end BodySource

/-- The template is named by the location as it was given. -/
def Factory.template (factory : Factory) (catalog : Catalog) (location : String) :
    Except Fault Template := do
  let body ← factory.source.body catalog location
  return .mk (some location) body factory.defaults factory.functions

end Stencil
