import Stencil.Catalog
import Stencil.Factory
import Stencil.Value.Inspect

/-!
Descriptions of templates and what belongs to them, for diagnosis. Bodies and
services show their kind alone, for there is nothing to look at in them.
-/

namespace Stencil

def Registry.inspect (registry : Registry) : String := inspectSet (registry.names.map inspectText)

def Template.inspect (template : Template) : String :=
  inspectRecord "Template"
    [("name", inspectText template.displayName),
      ("default_context", inspectTexts template.defaults.keys),
      ("functions", template.functions.inspect)]

def Context.inspect (context : Context) : String :=
  match context with
  | .empty => "Context::Empty"
  | .map fields => "Context::Map(" ++ fields.inspect ++ ")"
  | .indexable object =>
      inspectRecord "Context::Indexable" [("keys", inspectOption (object.keys.map inspectTexts))]
  | .service _ => "Context::Service(..)"

def Supply.inspect (supply : Supply) : String :=
  match supply.toContext with
  | .ok taken => taken.inspect
  | .error (.badShape found) => inspectRecord "InvalidShape" [("found", inspectText found)]
  | .error fault => fault.text

def inspectPartly (name : String) (parts : List (String × String)) : String :=
  name ++ " \x7b " ++ String.join (parts.map fun part => part.1 ++ ": " ++ part.2 ++ ", ") ++
    ".. \x7d"

def Factory.inspect (factory : Factory) : String :=
  inspectPartly "TemplateFactory"
    [("default_context", factory.defaults.inspect), ("functions", factory.functions.inspect)]

def Catalog.inspect (catalog : Catalog) : String :=
  inspectSet (catalog.locations.map inspectPath)

def Bindings.description : String :=
  inspectPartly "Bindings" [("names", inspectTexts Bindings.names)]

def Body.inspect : Body → String
  | .page path => inspectRecord "FileEvaluator" [("path", inspectPath path)]
  | .program .. => "FnEvaluator(<inline>)"
  | .stored location => inspectPartly "CatalogEvaluator" [("location", inspectPath location)]

end Stencil
