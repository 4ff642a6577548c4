import Stencil.Report
import Stencil.Settings.Source
import Stencil.Unicode.Blank

/-!
What a user is told about a fault: one failure of the command, with details and
a suggestion where there are any. A failed render anywhere in the chain comes
first, then what the layers of explanation hold, then causes of known kinds.
-/

namespace Stencil

structure Diagnosis where
  fault : CommandFault
  details : Option String
  suggestion : Option String

namespace Diagnosis

def text (d : Diagnosis) : String :=
  d.fault.text ++
    (match d.details with
      | some details => "\nDetails: " ++ details
      | none => "") ++
    (match d.suggestion with
      | some suggestion => "\nSuggestion: " ++ suggestion
      | none => "")

def styled (colored : Bool) (codes label : String) : String :=
  if colored then "\x1b[" ++ codes ++ "m" ++ label ++ "\x1b[0m" else label

def terminalText (d : Diagnosis) (colored : Bool) : String :=
  let line (codes label text : String) : String :=
    styled colored codes label ++ ": " ++ text ++ "\n"
  line "1;31" "error" d.fault.text ++
    (d.details.map (line "33" "details")).getD "" ++
    (d.suggestion.map (line "32" "suggestion")).getD ""

end Diagnosis

namespace CommandFault

def details? : CommandFault → Option String
  | .configNotFound _ => some "A configuration file named explicitly must exist"
  | _ => none

def suggestion? : CommandFault → Option String
  | .configNotFound path =>
      some ("Create " ++ path ++
        ", or unset ISOTEMPLATE_CONFIG / drop --config to use the defaults")
  | .unsupportedFormat _ => some "Use a .json, .toml, .yaml or .yml file"
  | .invalidContext .. =>
      some "The top level of a context file must be a table/object of keys"
  | .invalidAssignment _ =>
      some "Use --set key=value, e.g. --set name=alice or --set 'tags=[\"a\"]'"
  | .templateNotFound _ => some "Check the template path and the configured template_dir"
  | _ => none

end CommandFault

namespace Fault

def chainText (fault : Fault) : String :=
  let numbered := fault.causeTexts.mapIdx fun i text => s!"\n  {i + 1}: {text}"
  if numbered.isEmpty then fault.text
  else fault.text ++ "\n\nCaused by:" ++ String.join numbered

def renderSuggestion (fault : Fault) : String :=
  match fault.find? .missingFunction, fault.find? .context with
  | some _, _ =>
      "Call one of the available functions, or register the missing one. " ++
        "Run 'isotemplate functions' to list them"
  | none, some (.badShape _) => "Pass the context as a key/value mapping"
  | none, _ =>
      "Check template syntax: values are read with c(key=\"...\") and functions called with " ++
        "f(name=\"...\", args=[...]); no other variables or functions are available"

def renderDiagnosis (fault : Fault) (site : RenderSite) : Diagnosis :=
  ⟨.renderFailed site.template,
    some (String.ofList (Unicode.trimRight fault.report.toList)),
    some fault.renderSuggestion⟩

/-- The diagnosis of a file that could not be used, if its kind tells enough. -/
def fileDiagnosis? (fault : Fault) (error : FileError) : Option Diagnosis :=
  match error.kind with
  | .permissionDenied =>
      some ⟨.permissionDenied "file access" "unknown", some fault.chainText,
        some "Check file ownership and permissions"⟩
  | .notFound =>
      some ⟨.fileSystem "file access" "unknown", some fault.chainText,
        some "Check that the file or directory exists and the path is correct"⟩
  | _ => none

/-- The diagnosis of a settings file with a mistake in it. The outermost layer
must name the file. -/
def settingsDiagnosis? (fault : Fault) (mistake : String) : Option Diagnosis :=
  if Settings.mistakeLead.isPrefixOf fault.text then
    let file := String.ofList (fault.text.toList.drop Settings.mistakeLead.length)
    some ⟨.configSyntax file mistake, some mistake,
      some ("Check the TOML syntax. " ++
        "Recognised keys are template_dir, builtins and a [defaults] table")⟩
  else none

def firstFile? (fault : Fault) : Option FileError :=
  fault.chain.findSome? fun
    | .file error => some error
    | _ => none

def firstTomlMistake? (fault : Fault) : Option String :=
  fault.chain.findSome? fun
    | .malformed .toml => some (Fault.malformed .toml).text
    | _ => none

def firstRender? (fault : Fault) : Option (Fault × RenderSite) :=
  fault.chain.findSome? fun link => link.site?.map fun site => (link, site)

def causeDiagnosis (fault : Fault) : Diagnosis :=
  (fault.firstFile?.bind fault.fileDiagnosis? <|>
    fault.firstTomlMistake?.bind fault.settingsDiagnosis?).getD
    ⟨.other fault.chainText, none, none⟩

def diagnosis (fault : Fault) : Diagnosis :=
  match fault.firstRender? with
  | some (failed, site) => failed.renderDiagnosis site
  | none =>
      match fault.bare with
      | .command known => ⟨known, known.details?, known.suggestion?⟩
      | .unknownLocation _ | .badLocation .. =>
          ⟨.other fault.bare.text, none,
            some "Check the template path and the configured template_dir"⟩
      | _ => fault.causeDiagnosis

end Fault

end Stencil
