import Stencil.Fault
import Stencil.Json
import Stencil.Toml
import Stencil.Yaml

/-!
Reading a data file as one value. The extension tells the format, and is looked
at before the file is.
-/

namespace Stencil

def DataFormat.parse? : DataFormat → String → Option Value
  | .json => Json.parse?
  | .toml => Toml.parse?
  | .yaml => Yaml.parse?

def FileTree.readData (tree : FileTree) (path : String) : Except Fault Value := do
  match DataFormat.ofPath? path with
  | none => .error (.command (.unsupportedFormat path))
  | some format =>
      match tree.readText path with
      | .error error => .error (.layered ("Failed to read data file: " ++ path) (.file error))
      | .ok text =>
          match format.parse? text with
          | some value => .ok value
          | none =>
              .error (.layered ("Failed to parse data file: " ++ path) (.malformed format))

end Stencil
