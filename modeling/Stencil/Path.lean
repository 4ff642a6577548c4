/-!
Paths as texts with `/` between their parts. Joining keeps a path as it was
written; two paths name the same place when their parts agree, where repeated
slashes and inner or trailing dots do not count.
-/

namespace Stencil.Path

def splitOn (separator : Char) : List Char → List (List Char)
  | [] => [[]]
  | c :: rest =>
      if c = separator then [] :: splitOn separator rest
      else match splitOn separator rest with
        | [] => [[c]]
        | part :: parts => (c :: part) :: parts

def segments (path : String) : List String :=
  (splitOn '/' path.toList).map String.ofList

def isAbsolute (path : String) : Bool := path.toList.head? == some '/'

/-- The parts that tell paths apart. A leading slash and a leading dot are
parts of their own. -/
def parts (path : String) : List String :=
  let names := (segments path).filter fun segment => segment != "" && segment != "."
  if isAbsolute path then "/" :: names
  else if (segments path).head? = some "." then "." :: names
  else names

/-- An absolute path replaces the base; else one slash stands between them. -/
def join (base path : String) : String :=
  if isAbsolute path || base.isEmpty then path
  else if base.toList.getLast? = some '/' then base ++ path
  else base ++ "/" ++ path

/-- Drops slashes and single dots from the end of a reversed path, as far as
they do not begin it. -/
def trimEnd : Nat → List Char → List Char
  | 0, reversed => reversed
  | fuel + 1, reversed =>
      match reversed with
      | '/' :: c :: rest => trimEnd fuel (c :: rest)
      | '.' :: '/' :: c :: rest => trimEnd fuel (c :: rest)
      | ['.', '/'] => ['/']
      | _ => reversed

def fileName? (path : String) : Option String :=
  match (parts path).getLast? with
  | some name => if name = "/" ∨ name = "." ∨ name = ".." then none else some name
  | none => none

def parent? (path : String) : Option String :=
  match (parts path).getLast? with
  | none => none
  | some "/" => none
  | some _ =>
      let reversed := trimEnd path.length path.toList.reverse
      let left := reversed.dropWhile (· != '/')
      some (String.ofList (trimEnd path.length left).reverse)

/-- What follows the last dot of the file name, unless that dot begins it. -/
def extension? (path : String) : Option String := do
  let name ← fileName? path
  let reversed := name.toList.reverse
  let after := reversed.takeWhile (· != '.')
  match reversed.dropWhile (· != '.') with
  | '.' :: _ :: _ => some (String.ofList after.reverse)
  | _ => none

end Stencil.Path
