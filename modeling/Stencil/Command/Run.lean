import Stencil.Catalog
import Stencil.Command.Basic
import Stencil.Settings.Source

/-!
Carrying a command out on a file tree and a console. What the console shows is
collected, and the tree comes back as the command left it, whether or not it
failed.
-/

namespace Stencil

structure Outcome where
  files : FileTree
  console : String
  result : Except Fault Unit

namespace Outcome

def failed (files : FileTree) (fault : Fault) : Outcome := ⟨files, "", .error fault⟩

def printed (files : FileTree) (text : String) : Outcome := ⟨files, text, .ok ()⟩

end Outcome

/-- A console takes a text whole, or stops after so many characters with an error. -/
structure Console where
  stops? : String → Option (Nat × FileError)

namespace Console

def free : Console := ⟨fun _ => none⟩

def broken (error : FileError) : Console := ⟨fun _ => some (0, error)⟩

def put (console : Console) (files : FileTree) (text : String) : Outcome :=
  match console.stops? text with
  | none => Outcome.printed files text
  | some (count, error) =>
      ⟨files, String.ofList (text.toList.take count),
        .error (.layered "Failed to write to stdout" (.file error))⟩

end Console

namespace FileTree

def deliver (files : FileTree) (path text : String) : Outcome :=
  let write (files : FileTree) : Outcome :=
    match files.writeText path text with
    | .ok files => Outcome.printed files ""
    | .error error =>
        Outcome.failed files (.layered ("Failed to write output file: " ++ path) (.file error))
  match (Path.parent? path).filter fun parent => !parent.isEmpty with
  | none => write files
  | some parent =>
      match makeDirectories (parent.length + 1) files parent with
      | (files, .ok ()) => write files
      | (files, .error error) =>
          Outcome.failed files
            (.layered ("Failed to create output directory: " ++ parent) (.file error))

end FileTree

namespace PageOrder

/-- The text of the page. The file must be there before rendering begins. -/
def text (order : PageOrder) (settings : Settings) (files : FileTree) : Except Fault String := do
  let context ← order.context files
  let template ← settings.factory.template Catalog.empty order.template
  match template.location? with
  | some location =>
      if !files.isFile location then throw (.command (.templateNotFound location))
  | none => pure ()
  let rendition := template.run (Catalog.empty.surroundings files) (.context (.map context))
  let (_, text) ← (rendition.run World.fresh).1
  return text

def run (order : PageOrder) (settings : Settings) (files : FileTree) (console : Console) :
    Outcome :=
  match order.text settings files with
  | .error fault => Outcome.failed files fault
  | .ok text =>
      match order.output with
      | some path => files.deliver path text
      | none => console.put files text

end PageOrder

namespace ListLayout

def listing (layout : ListLayout) (names : List String) : String :=
  match layout with
  | .json => (Value.array (names.map .string)).indentedJson ++ "\n"
  | .text =>
      if names.isEmpty then "No functions registered\n"
      else String.join (names.map (· ++ "\n"))

end ListLayout

namespace Command

def run (settings : Settings) (files : FileTree) (console : Console) : Command → Outcome
  | .render order => order.run settings files console
  | .functions layout => Outcome.printed files (layout.listing settings.functions.names)

end Command

/-- The paths that carrying a command out looks at or writes to. -/
def Command.paths (settings : Settings) : Command → List String
  | .functions _ => []
  | .render order =>
      let template := match settings.factory.template Catalog.empty order.template with
        | .ok template => template.location?
        | .error _ => none
      order.contextFile.toList ++ template.toList ++ order.output.toList

def Invocation.run (invocation : Invocation) (environment : Option String) (home : String)
    (files : FileTree) (console : Console := Console.free) : Outcome :=
  match SettingsSource.load ⟨invocation.settingsFile, environment, home⟩ files with
  | .error fault => Outcome.failed files fault
  | .ok settings => invocation.command.run settings files console

end Stencil
