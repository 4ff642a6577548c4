import Stencil.Path

/-! The formats of data files, told by the extension in either case. -/

namespace Stencil

inductive DataFormat where
  | json | toml | yaml
  deriving DecidableEq

namespace DataFormat

def ofPath? (path : String) : Option DataFormat :=
  match (Path.extension? path).map String.toLower with
  | some "json" => some .json
  | some "toml" => some .toml
  | some "yaml" | some "yml" => some .yaml
  | _ => none

def name : DataFormat → String
  | .json => "json"
  | .toml => "toml"
  | .yaml => "yaml"

end DataFormat

end Stencil
