import Stencil.Unicode.Code
import Stencil.Yaml.Cursor

/-!
The texts of YAML scalars: plain, quoted and block. Line breaks inside plain and
quoted scalars fold into one space, or into one break less than there are.
-/

namespace Stencil.Yaml

/-- White space between two words: blanks of one line, or a first line break
and those after it. -/
structure Gap where
  blanks : List Char
  broken : Bool
  leading : List Char
  trailing : List Char

namespace Gap

def none : Gap := ⟨[], false, [], []⟩

/-- The gap after a line break that does not count. -/
def opened : Gap := ⟨[], true, [], []⟩

def fold (gap : Gap) : List Char :=
  if !gap.broken then gap.blanks
  else if gap.leading = ['\n'] then (if gap.trailing.isEmpty then [' '] else gap.trailing)
  else gap.leading ++ gap.trailing

def addBlank (gap : Gap) (c : Char) : Gap :=
  if gap.broken then gap else { gap with blanks := gap.blanks ++ [c] }

def addBreak (gap : Gap) (text : List Char) : Gap :=
  if gap.broken then { gap with trailing := gap.trailing ++ text }
  else ⟨[], true, text, gap.trailing⟩

/-- Reads on over white space. On a new line no tab may stand before the margin. -/
def read? (margin : Nat) : Nat → Gap → Cursor → Option (Gap × Cursor)
  | 0, _, _ => .none
  | fuel + 1, gap, here =>
      match here.rest with
      | [] => some (gap, here)
      | c :: _ =>
          if isBlank c then
            if gap.broken && here.column < margin && c == '\t' then .none
            else read? margin fuel (gap.addBlank c) (here.skip 1)
          else if isBreak c then
            let (text, after) := here.takeBreak
            read? margin fuel (gap.addBreak text) after
          else some (gap, here)

end Gap

/-! ## Plain scalars -/

def isFlowMark (c : Char) : Bool := c == ',' || c == '[' || c == ']' || c == '\x7b' || c == '\x7d'

/-- The characters of a plain scalar up to white space or a mark that ends it.
Between brackets a colon may not stand right before a mark. -/
def plainWord (inFlow : Bool) : List Char → Option (List Char)
  | [] => some []
  | c :: rest =>
      let beforeMark := match rest with
        | d :: _ => isFlowMark d || d == '?'
        | [] => false
      if isBlank c || isBreak c then some []
      else if inFlow && c == ':' && beforeMark then none
      else if c == ':' && endsWord rest then some []
      else if inFlow && isFlowMark c then some []
      else (plainWord inFlow rest).map (c :: ·)

/-- The text of a plain scalar and the gap after it. Outside brackets it ends on
a line that begins before the margin. -/
def plainText (inFlow : Bool) (margin : Nat) :
    Nat → Gap → Cursor → Option (List Char × Gap × Cursor)
  | 0, _, _ => none
  | fuel + 1, gap, here =>
      if here.atDocumentMark || here.head? == some '#' then some ([], gap, here)
      else do
        let word ← plainWord inFlow here.rest
        let text := if word.isEmpty then [] else gap.fold ++ word
        let gap := if word.isEmpty then gap else Gap.none
        let after := here.skip word.length
        if after.rest.isEmpty || !endsWord after.rest then return (text, gap, after)
        let (gap, after) ← gap.read? margin (after.rest.length + 1) after
        if !inFlow && after.column < margin then return (text, gap, after)
        let (more, gap, last) ← plainText inFlow margin fuel gap after
        return (text ++ more, gap, last)

/-! ## Quoted scalars -/

def simpleEscape? : Char → Option Char
  | '0' => some '\x00'
  | 'a' => some '\x07'
  | 'b' => some '\x08'
  | 't' | '\t' => some '\t'
  | 'n' => some '\n'
  | 'v' => some '\x0b'
  | 'f' => some '\x0c'
  | 'r' => some '\r'
  | 'e' => some '\x1b'
  | ' ' => some ' '
  | '"' => some '"'
  | '/' => some '/'
  | '\\' => some '\\'
  | 'N' => some '\x85'
  | '_' => some '\xa0'
  | 'L' => some '\u2028'
  | 'P' => some '\u2029'
  | _ => none

def escape? : List Char → Option (Char × Nat)
  | [] => none
  | mark :: rest =>
      let coded (count : Nat) : Option (Char × Nat) :=
        if rest.length < count then none
        else (Unicode.ofHex? (rest.take count)).map fun c => (c, count + 1)
      match mark with
      | 'x' => coded 2
      | 'u' => coded 4
      | 'U' => coded 8
      | c => (simpleEscape? c).map fun c => (c, 1)

/-- The characters up to white space or the closing quote. A backslash at the
end of a line ends them too and takes the break away. -/
def quotedWord (q : Char) : Nat → Cursor → Option (List Char × Bool × Cursor)
  | 0, _ => none
  | fuel + 1, here =>
      match here.rest with
      | [] => some ([], false, here)
      | c :: rest =>
          let next := rest.head?
          let keep (kept : Char) (count : Nat) : Option (List Char × Bool × Cursor) := do
            let (chars, joined, last) ← quotedWord q fuel (here.skip count)
            return (kept :: chars, joined, last)
          if isBlank c || isBreak c then some ([], false, here)
          else if q = '\'' ∧ c = '\'' ∧ next = some '\'' then keep '\'' 2
          else if c = q then some ([], false, here)
          else if q = '"' ∧ c = '\\' then
            if next.any isBreak then some ([], true, (here.skip 1).takeBreak.2)
            else do
              let (kept, count) ← escape? rest
              keep kept (count + 1)
          else keep c 1

def quotedText (q : Char) : Nat → Cursor → Option (List Char × Cursor)
  | 0, _ => none
  | fuel + 1, here => do
      if here.atDocumentMark || here.rest.isEmpty then none
      let (word, joined, after) ← quotedWord q (here.rest.length + 1) here
      if after.head? = some q then return (word, after.skip 1)
      let start := if joined then Gap.opened else Gap.none
      let (gap, after) ← start.read? 0 (after.rest.length + 1) after
      let (more, last) ← quotedText q fuel after
      return (word ++ gap.fold ++ more, last)

/-! ## Block scalars -/

inductive Chomp where
  | strip | clip | keep

/-- What stands after the mark: chomping, and how far the text is indented,
zero if that is not said; in either order. -/
def blockHeader (here : Cursor) : Option (Chomp × Nat × Cursor) :=
  let chomp? : Option Char → Option Chomp
    | some '+' => some .keep
    | some '-' => some .strip
    | _ => none
  let digit? (here : Cursor) : Option (Nat × Cursor) :=
    match here.head? with
    | some c =>
        if c = '0' then none
        else if c.isDigit then some (c.toNat - '0'.toNat, here.skip 1)
        else some (0, here)
    | none => some (0, here)
  match chomp? here.head? with
  | some chomp => (digit? (here.skip 1)).map fun (step, after) => (chomp, step, after)
  | none => do
      let (step, after) ← digit? here
      match if step = 0 then none else chomp? after.head? with
      | some chomp => some (chomp, step, after.skip 1)
      | none => some (.clip, step, after)

/-- Empty lines before the next line of text, with the widest column reached.
The indent is zero while it is unknown. No tab may stand before it. -/
def blockBreaks (indent : Nat) : Nat → Nat → Cursor → Option (List Char × Nat × Cursor)
  | 0, _, _ => none
  | fuel + 1, widest, here =>
      let spaces := (here.rest.takeWhile (· == ' ')).length
      let here := here.skip (if indent = 0 then spaces else min spaces (indent - here.column))
      let widest := max widest here.column
      match here.rest with
      | [] => some ([], widest, here)
      | c :: _ =>
          if (indent = 0 ∨ here.column < indent) ∧ c = '\t' then none
          else if isBreak c then do
            let (text, after) := here.takeBreak
            let (more, widest, last) ← blockBreaks indent fuel widest after
            return (text ++ more, widest, last)
          else some ([], widest, here)

/-- A break that may still fold, whether its line began with a blank, and the
breaks after it. -/
structure Pending where
  leading : List Char
  indented : Bool
  trailing : List Char

/-- A single break between two lines that begin with no blank folds. -/
def Pending.join (pending : Pending) (folded indented : Bool) : List Char :=
  if folded && pending.leading == ['\n'] && !pending.indented && !indented then
    if pending.trailing.isEmpty then [' '] else pending.trailing
  else pending.leading ++ pending.trailing

def blockLines (folded : Bool) (indent : Nat) :
    Nat → Pending → Cursor → Option (List Char × Pending × Cursor)
  | 0, _, _ => none
  | fuel + 1, pending, here =>
      match here.rest with
      | [] => some ([], pending, here)
      | c :: _ =>
          if here.column ≠ indent then some ([], pending, here)
          else do
            let (line, after) := here.span fun c => !isBreak c
            let (leading, after) := after.takeBreak
            let (trailing, _, after) ← blockBreaks indent (after.rest.length + 1) 0 after
            let (more, pending', last) ←
              blockLines folded indent fuel ⟨leading, isBlank c, trailing⟩ after
            return (pending.join folded (isBlank c) ++ line ++ more, pending', last)

/-- The text of a block scalar, read from after its mark. `margin` is the first
column inside the collection around it. -/
def blockText (folded : Bool) (margin : Nat) (here : Cursor) : Option (List Char × Cursor) := do
  let (chomp, step, after) ← blockHeader here
  let after ← after.endOfLine?
  let told := if step = 0 then 0 else margin - 1 + step
  let (trailing, widest, after) ← blockBreaks told (after.rest.length + 1) 0 after
  let indent := if told = 0 then max widest (max margin 1) else told
  let (text, pending, last) ←
    blockLines folded indent (after.rest.length + 1) ⟨[], false, trailing⟩ after
  match chomp with
  | .strip => return (text, last)
  | .clip => return (text ++ pending.leading, last)
  | .keep => return (text ++ pending.leading ++ pending.trailing, last)

end Stencil.Yaml
