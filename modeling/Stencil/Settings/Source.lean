import Stencil.DataFile
import Stencil.Settings

/-!
Where settings come from. A file that is named must be there; the file at home
counts only if it is; without either the initial settings hold.
-/

namespace Stencil

namespace Settings

/-- The settings that a table gives. Keys that say nothing here do not count. -/
def ofValue? : Value → Option Settings
  | .object fields => do
      let templateDir ← match Fields.get? fields "template_dir" with
        | none => some none
        | some (.string directory) => some (some directory)
        | some _ => none
      let builtins ← match Fields.get? fields "builtins" with
        | none => some initial.builtins
        | some (.bool b) => some b
        | some _ => none
      let defaults ← match Fields.get? fields "defaults" with
        | none => some initial.defaults
        | some (.object entries) => some entries
        | some _ => none
      return ⟨templateDir, builtins, defaults⟩
  | _ => none

def mistakeLead : String := "Failed to parse config file: "

def read (files : FileTree) (path : String) : Except Fault Settings :=
  match files.readText path with
  | .error error => .error (.layered ("Failed to read config file: " ++ path) (.file error))
  | .ok text =>
      match (Toml.parse? text).bind ofValue? with
      | some settings => .ok settings
      | none => .error (.layered (mistakeLead ++ path) (.malformed .toml))

end Settings

/-- What may name a settings file: the command, the environment, and last the
directory of the user. -/
structure SettingsSource where
  named : Option String
  environment : Option String
  home : String

namespace SettingsSource

/-- The file that must be there, if one is named. An empty name in the
environment names none. -/
def required? (source : SettingsSource) : Option String :=
  source.named <|> source.environment.filter fun path => !path.isEmpty

def homeFile (source : SettingsSource) : String :=
  Path.join (Path.join source.home ".isotemplate") "config.toml"

def paths (source : SettingsSource) : List String := [source.required?.getD source.homeFile]

def load (source : SettingsSource) (files : FileTree) : Except Fault Settings :=
  match source.required? with
  | some path =>
      if files.exists? path then Settings.read files path
      else .error (.command (.configNotFound path))
  | none =>
      if files.exists? source.homeFile then Settings.read files source.homeFile
      else .ok Settings.initial

end SettingsSource

end Stencil
