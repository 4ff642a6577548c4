/-!
A place in a YAML text: what is left to read, and how far along, on which line
and in which column it stands.
-/

namespace Stencil.Yaml

def isBlank (c : Char) : Bool := c == ' ' || c == '\t'

def isBreak (c : Char) : Bool :=
  c == '\n' || c == '\r' || c == '\x85' || c == '\u2028' || c == '\u2029'

def isWord (c : Char) : Bool := c.isAlphanum || c == '-' || c == '_'

def isAllowed (c : Char) : Bool :=
  let code := c.toNat
  c == '\t' || c == '\n' || c == '\r' || (0x20 ≤ code && code ≤ 0x7E) || code == 0x85 ||
    (0xA0 ≤ code && code ≤ 0xFFFD) || 0x10000 ≤ code

def endsWord : List Char → Bool
  | [] => true
  | c :: _ => isBlank c || isBreak c

structure Cursor where
  rest : List Char
  index : Nat
  line : Nat
  column : Nat

namespace Cursor

def ofText (text : String) : Cursor := ⟨text.toList, 0, 0, 0⟩

def head? (here : Cursor) : Option Char := here.rest.head?

def skip (here : Cursor) (count : Nat) : Cursor :=
  { here with
    rest := here.rest.drop count
    index := here.index + count
    column := here.column + count }

def span (here : Cursor) (test : Char → Bool) : List Char × Cursor :=
  let run := here.rest.takeWhile test
  (run, here.skip run.length)

def skipWhile (here : Cursor) (test : Char → Bool) : Cursor := (here.span test).2

def newLine (here : Cursor) (count : Nat) : Cursor :=
  ⟨here.rest.drop count, here.index + count, here.line + 1, 0⟩

/-- The line break that stands here, if one does. All but the two separators
read as a line feed. -/
def takeBreak (here : Cursor) : List Char × Cursor :=
  match here.rest with
  | '\r' :: '\n' :: _ => (['\n'], here.newLine 2)
  | c :: _ =>
      if c == '\u2028' || c == '\u2029' then ([c], here.newLine 1)
      else if isBreak c then (['\n'], here.newLine 1)
      else ([], here)
  | [] => ([], here)

def atMark (here : Cursor) (mark : String) : Bool :=
  here.column == 0 && mark.toList.isPrefixOf here.rest && endsWord (here.rest.drop 3)

def atDocumentMark (here : Cursor) : Bool := here.atMark "---" || here.atMark "..."

def endOfLine? (here : Cursor) : Option Cursor :=
  let here := here.skipWhile isBlank
  let here := if here.head? = some '#' then here.skipWhile fun c => !isBreak c else here
  match here.rest with
  | [] => some here
  | c :: _ => if isBreak c then some here.takeBreak.2 else none

end Cursor

end Stencil.Yaml
