import Stencil.Path

/-!
A file tree as seen from a working directory. A place is the list of names that
lead to it; the working directory is the empty list. Places above it and the
root exist as directories that hold nothing known. A place may bar those who come
from reading, from writing or, if it is a directory, from looking a name up. Every
operation is a function of the tree, and its failures carry the system's kind and
wording.
-/

namespace Stencil

inductive FileErrorKind where
  | notFound | permissionDenied | isADirectory | notADirectory | alreadyExists
  | invalidData | invalidInput
  | other (name : String)
  deriving DecidableEq

structure FileError where
  kind : FileErrorKind
  text : String
  deriving DecidableEq

namespace FileError

def notFound : FileError := ⟨.notFound, "No such file or directory (os error 2)"⟩

def isADirectory : FileError := ⟨.isADirectory, "Is a directory (os error 21)"⟩

def notADirectory : FileError := ⟨.notADirectory, "Not a directory (os error 20)"⟩

def alreadyExists : FileError := ⟨.alreadyExists, "File exists (os error 17)"⟩

def forbidden : FileError := ⟨.permissionDenied, "Permission denied (os error 13)"⟩

def notUtf8 : FileError := ⟨.invalidData, "stream did not contain valid UTF-8"⟩

def wholeTree : FileError := ⟨.other "Other", "failed to create whole tree"⟩

end FileError

/-- The names that lead from the working directory to a place. -/
abbrev Place := List String

inductive FileNode where
  | file (content : ByteArray)
  | directory

instance : DecidableEq FileNode
  | .file a, .file b =>
      if same : a.data = b.data then isTrue (by cases a; cases b; simp_all)
      else isFalse (by intro equal; cases equal; exact same rfl)
  | .directory, .directory => isTrue rfl
  | .file _, .directory | .directory, .file _ => isFalse (by simp)

inductive Access where
  | read
  /-- Changing a file, or what a directory holds. -/
  | write
  /-- Looking a name up in a directory. -/
  | search
  deriving DecidableEq

structure FileTree where
  entries : List (Place × FileNode)
  barred : List (Place × Access) := []

namespace FileTree

def empty : FileTree := { entries := [] }

/-- The working directory, what lies above it, and the root need no entry. -/
def isGiven (place : Place) : Bool := place.all (· == "..") || place == ["/"]

def node? (tree : FileTree) (place : Place) : Option FileNode :=
  if isGiven place then some .directory else tree.entries.lookup place

def put (tree : FileTree) (place : Place) (node : FileNode) : FileTree :=
  let entries :=
    if tree.entries.any fun entry => entry.1 == place then
      tree.entries.map fun entry => if entry.1 == place then (place, node) else entry
    else tree.entries ++ [(place, node)]
  { tree with entries }

def remove (tree : FileTree) (place : Place) : FileTree :=
  { tree with entries := tree.entries.filter fun entry => entry.1 != place }

def bars (tree : FileTree) (place : Place) (access : Access) : Bool :=
  tree.barred.contains (place, access)

def bar (tree : FileTree) (place : Place) (access : Access) : FileTree :=
  { tree with barred := (place, access) :: tree.barred }

/-- One step up. Above the working directory the steps are counted. -/
def up (place : Place) : Place :=
  if place = ["/"] then place
  else if place.all (· == "..") then place ++ [".."]
  else place.dropLast

def onward (place : Place) (name : String) : Place :=
  if name = "" ∨ name = "." then place
  else if name = ".." then up place
  else place ++ [name]

/-- Goes one name on from a place, which must be a directory. An empty name only asks for
that; every other one is looked up. -/
def follow (tree : FileTree) (place : Place) (name : String) : Except FileError Place :=
  match tree.node? place with
  | none => .error .notFound
  | some (.file _) => .error .notADirectory
  | some .directory =>
      if name ≠ "" ∧ tree.bars place .search then .error .forbidden
      else .ok (onward place name)

def walk (tree : FileTree) (place : Place) (names : List String) : Except FileError Place :=
  names.foldlM tree.follow place

def startOf (path : String) : Place := if Path.isAbsolute path then ["/"] else []

/-- The place a path names, whether or not something is there. A path that ends
in a slash or a dot passes through what it names. -/
def locate (tree : FileTree) (path : String) : Except FileError Place :=
  if path.isEmpty then .error .notFound
  else tree.walk (startOf path) (Path.segments path)

def resolve (tree : FileTree) (path : String) : Except FileError FileNode := do
  match tree.node? (← tree.locate path) with
  | some node => .ok node
  | none => .error .notFound

def exists? (tree : FileTree) (path : String) : Bool :=
  match tree.resolve path with
  | .ok _ => true
  | .error _ => false

def isFile (tree : FileTree) (path : String) : Bool :=
  match tree.resolve path with
  | .ok (.file _) => true
  | _ => false

def isDirectory (tree : FileTree) (path : String) : Bool :=
  match tree.resolve path with
  | .ok .directory => true
  | _ => false

def readText (tree : FileTree) (path : String) : Except FileError String := do
  let place ← tree.locate path
  match tree.node? place with
  | none => .error .notFound
  | some node =>
      if tree.bars place .read then .error .forbidden
      else match node with
        | .directory => .error .isADirectory
        | .file content =>
            match String.fromUTF8? content with
            | some text => .ok text
            | none => .error .notUtf8

/-- A path that asks for a directory by its ending. -/
def endsOpen (path : String) : Bool :=
  match (Path.segments path).getLast? with
  | some last => last == "" || last == "." || last == ".."
  | none => true

def withoutSlashes (path : String) : String :=
  match path.toList.reverse.dropWhile (· == '/') with
  | [] => path
  | reversed => String.ofList reversed.reverse

def writeBytes (tree : FileTree) (path : String) (content : ByteArray) :
    Except FileError FileTree := do
  if endsOpen path then
    let _ ← tree.locate (withoutSlashes path)
    throw .isADirectory
  else
    let place ← tree.locate path
    match tree.node? place with
    | some .directory => throw .isADirectory
    | some (.file _) =>
        if tree.bars place .write then throw .forbidden
        else return tree.put place (.file content)
    | none =>
        if tree.bars (up place) .write then throw .forbidden
        else return tree.put place (.file content)

def writeText (tree : FileTree) (path text : String) : Except FileError FileTree :=
  tree.writeBytes path text.toUTF8

def makeDirectory (tree : FileTree) (path : String) : Except FileError FileTree := do
  let place ← tree.locate (withoutSlashes path)
  match tree.node? place with
  | some _ => throw .alreadyExists
  | none =>
      if tree.bars (up place) .write then throw .forbidden
      else return tree.put place .directory

/-- Makes a directory and those it needs. What was made stays if a later step
fails, so the tree comes with the outcome. -/
def makeDirectories (fuel : Nat) (tree : FileTree) (path : String) :
    FileTree × Except FileError Unit :=
  match fuel with
  | 0 => (tree, .error .wholeTree)
  | fuel + 1 =>
      if path.isEmpty then (tree, .ok ())
      else
        let finish (tree : FileTree) : FileTree × Except FileError Unit :=
          match tree.makeDirectory path with
          | .ok grown => (grown, .ok ())
          | .error error => (tree, if tree.isDirectory path then .ok () else .error error)
        match tree.makeDirectory path with
        | .error error =>
            if error = .notFound then
              match Path.parent? path with
              | none => (tree, .error .wholeTree)
              | some parent =>
                  match makeDirectories fuel tree parent with
                  | (grown, .ok ()) => finish grown
                  | failed => failed
            else finish tree
        | .ok grown => (grown, .ok ())

def addEntry (tree : FileTree) (path : String) (node : FileNode) : FileTree :=
  let names := (Path.segments path).filter fun name => name != "" && name != "."
  let ancestors := (List.range names.length).map fun count => names.take count
  let grown := ancestors.foldl (fun tree place =>
    if (tree.node? place).isSome then tree else tree.put place .directory) tree
  match node with
  | .directory => if (grown.node? names).isSome then grown else grown.put names .directory
  | .file _ => grown.put names node

end FileTree

end Stencil
