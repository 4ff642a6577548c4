import Stencil.FileTree

/-!
Between a tree and a disk: which paths have to be looked at for one that is
needed, where a thing found at a path belongs in the tree, which place it is that
refuses an access, and what has to be written back afterwards.
-/

namespace Stencil

def Path.ancestry (path : String) : List String :=
  let names := segments path
  let taken := (List.range names.length).map fun count =>
    String.intercalate "/" (names.take (count + 1))
  taken.filter fun path => !path.isEmpty

namespace FileTree

/-- The place that a path names if every part of it is a directory. -/
def placeOf (path : String) : Place := (Path.segments path).foldl onward (startOf path)

def holderOf (path : String) : Place :=
  (Path.segments path).dropLast.foldl onward (startOf path)

def pathOf (place : Place) : String :=
  match place with
  | "/" :: names => "/" ++ String.intercalate "/" names
  | names => String.intercalate "/" names

inductive Sight where
  | nothing
  | there (node : FileNode)
  /-- Something is there, and may not be read. -/
  | unreadable (node : FileNode)
  /-- The name may not even be looked up. -/
  | hidden

def note (tree : FileTree) (path : String) (sight : Sight) : FileTree :=
  let found (node : FileNode) :=
    if isGiven (placeOf path) then tree else tree.put (placeOf path) node
  match sight with
  | .nothing => tree
  | .there node => found node
  | .unreadable node => (found node).bar (placeOf path) .read
  | .hidden => tree.bar (holderOf path) .search

def refuse (tree : FileTree) (path : String) : FileTree :=
  tree.bar (if (tree.node? (placeOf path)).isSome then placeOf path else holderOf path) .write

/-- What is there afterwards and was not there before, in the order of making. -/
def changes (before after : FileTree) : List (String × FileNode) :=
  (after.entries.filter fun entry => before.node? entry.1 ≠ some entry.2).map fun entry =>
    (pathOf entry.1, entry.2)

end FileTree

end Stencil
