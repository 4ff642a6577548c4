import Stencil.Command.Arguments
import Stencil.Command.Run
import Stencil.Diagnosis
import Stencil.FileTree.Disk

/-!
The command line. What the command needs from the disk is read into a tree, the
command is carried out on the tree, and what it changed is written back.
-/

namespace Stencil.CommandLine

def usage : String :=
  "Usage: isotemplate [OPTIONS] <COMMAND>\n\n" ++
    "Commands:\n" ++
    "  render TEMPLATE [--context FILE] [--set KEY=VALUE]... [-o, --output FILE]\n" ++
    "  functions [--format text|json]\n" ++
    "  help [COMMAND]\n\n" ++
    "Options:\n" ++
    "  -v, --verbose        Enable verbose output\n" ++
    "  -q, --quiet          Suppress all log output\n" ++
    "  -c, --config FILE    Path to the engine configuration file\n" ++
    "  -h, --help           Print help\n" ++
    "  -V, --version        Print version\n"

def errorOf : IO.Error → FileError
  | .noFileOrDirectory .. => .notFound
  | .permissionDenied .. => .forbidden
  | error => ⟨.other "Other", toString error⟩

def unlessDenied {α : Type} (action otherwise : IO α) : IO α := do
  try action
  catch
    | .permissionDenied .. => otherwise
    | error => throw error

def inspect (path : String) : IO FileTree.Sight := do
  let place ← IO.FS.realPath path
  if ← place.isDir then
    unlessDenied (do let _ ← place.readDir; return .there .directory)
      (return .unreadable .directory)
  else
    unlessDenied (return .there (.file (← IO.FS.readBinFile place)))
      (return .unreadable (.file .empty))

def look (path : String) : IO FileTree.Sight := do
  try inspect path
  catch
    | .noFileOrDirectory .. | .inappropriateType .. => return .nothing
    | .permissionDenied .. => return .hidden
    | error => throw error

def observe (tree : FileTree) (paths : List String) : IO FileTree :=
  (paths.flatMap Path.ancestry).foldlM (fun tree path => return tree.note path (← look path)) tree

def writeBack (path : String) (node : FileNode) : IO Unit :=
  match node with
  | .directory => IO.FS.createDirAll path
  | .file content => IO.FS.writeBinFile path content

/-- Writes the changes until the disk refuses one, and gives the path of that one. -/
def store (changes : List (String × FileNode)) : IO (Option String) :=
  changes.foldlM (fun refused (path, node) =>
    match refused with
    | some path => return some path
    | none => unlessDenied (do writeBack path node; return none) (return some path)) none

/-- Whether a place may be written or the console takes a text shows only when it is
tried; the command is carried out once more with what has been learnt. -/
def perform (command : FileTree → Console → Outcome) (files : FileTree) : IO Outcome := do
  let outcome := command files .free
  let (files, outcome) ← match ← store (files.changes outcome.files) with
    | none => pure (files, outcome)
    | some path =>
        let files := files.refuse path
        pure (files, command files .free)
  try
    IO.print outcome.console
    (← IO.getStdout).flush
    return outcome
  catch error => return command files (.broken (errorOf error))

def carryOut (invocation : Invocation) : IO UInt32 := do
  let environment ← IO.getEnv "ISOTEMPLATE_CONFIG"
  let home := (← IO.getEnv "HOME").getD ""
  let source : SettingsSource := ⟨invocation.settingsFile, environment, home⟩
  let files ← observe FileTree.empty source.paths
  let files ← match source.load files with
    | .ok settings => observe files (invocation.command.paths settings)
    | .error _ => pure files
  let outcome ← perform (fun files console => invocation.run environment home files console) files
  match outcome.result with
  | .ok () => return 0
  | .error fault =>
      let errors ← IO.getStderr
      errors.putStr (fault.diagnosis.terminalText (← errors.isTty))
      return 1

end Stencil.CommandLine

def main (arguments : List String) : IO UInt32 := do
  match Stencil.Invocation.ofArguments arguments with
  | .ok invocation => Stencil.CommandLine.carryOut invocation
  | .error .version =>
      IO.println "isotemplate 0.1.0"
      return 0
  | .error rejection =>
      if rejection.exitCode = 0 then IO.print Stencil.CommandLine.usage
      else IO.eprint Stencil.CommandLine.usage
      return rejection.exitCode.toUInt32
