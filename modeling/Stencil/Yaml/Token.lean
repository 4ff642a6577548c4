import Stencil.Yaml.Scalar

/-!
The tokens of a YAML text. Indentation becomes tokens that open and close block
collections. A key is known as one only at the colon after it, so `Scan` keeps,
for every level of brackets, the place where a key may have begun.
-/

namespace Stencil.Yaml

inductive Token where
  | version (major minor : Nat)
  | tagLead (handle lead : String)
  | documentStart | documentEnd
  | openBlockSequence | openBlockMapping | closeBlock
  | openSequence | closeSequence | openMapping | closeMapping
  | item | comma | key | value
  | alias (label : String)
  | anchor (label : String)
  | tag (handle suffix : String)
  | scalar (text : String) (isPlain : Bool)
  deriving DecidableEq

/-! ## Tags and directives -/

def isTagChar (verbatim : Bool) (c : Char) : Bool :=
  isWord c || ";/?:@&=+$.!~*'()%".toList.contains c ||
    (verbatim && (c == ',' || c == '[' || c == ']'))

def percentOctets : Nat → List Char → Option (List UInt8 × List Char)
  | 0, rest => some ([], rest)
  | count + 1, '%' :: a :: b :: rest => do
      let octet ← natOfDigits? 16 [a, b]
      let (octets, rest) ← percentOctets count rest
      some (octet.toUInt8 :: octets, rest)
  | _ + 1, _ => none

def widthOf? (octet : UInt8) : Option Nat :=
  if octet < 0x80 then some 1
  else if 0xC0 ≤ octet ∧ octet < 0xE0 then some 2
  else if 0xE0 ≤ octet ∧ octet < 0xF0 then some 3
  else if 0xF0 ≤ octet ∧ octet < 0xF8 then some 4
  else none

def percentChar? (input : List Char) : Option (Char × List Char) := do
  let (first, _) ← percentOctets 1 input
  let (octets, rest) ← percentOctets (← widthOf? (first.headD 0)) input
  let text ← String.fromUTF8? ⟨octets.toArray⟩
  some (← text.toList.head?, rest)

def tagText (verbatim : Bool) : Nat → Cursor → Option (List Char × Cursor)
  | 0, _ => none
  | fuel + 1, here =>
      match here.rest with
      | [] => some ([], here)
      | c :: _ =>
          if !isTagChar verbatim c then some ([], here)
          else do
            let (c, after) ←
              if c = '%' then do
                let (c, rest) ← percentChar? here.rest
                some (c, here.skip (here.rest.length - rest.length))
              else some (c, here.skip 1)
            let (chars, last) ← tagText verbatim fuel after
            some (c :: chars, last)

def tagUri? (verbatim : Bool) (here : Cursor) : Option (List Char × Cursor) :=
  tagText verbatim (here.rest.length + 1) here

def tagHandle? (here : Cursor) : Option (List Char × Cursor) :=
  if here.head? ≠ some '!' then none
  else
    let (word, after) := (here.skip 1).span isWord
    if after.head? = some '!' then some ('!' :: word ++ ['!'], after.skip 1)
    else some ('!' :: word, after)

/-- A tag and the cursor after it. A lone mark is a tag of its own. -/
def tag? (inFlow : Bool) (here : Cursor) : Option (Token × Cursor) := do
  let (handle, suffix, after) ←
    if here.rest[1]? = some '<' then do
      let (uri, after) ← tagUri? true (here.skip 2)
      if uri.isEmpty ∨ after.head? ≠ some '>' then none
      some ([], uri, after.skip 1)
    else do
      let (handle, after) ← tagHandle? here
      if 1 < handle.length ∧ handle.getLast? = some '!' then do
        let (uri, after) ← tagUri? false after
        if uri.isEmpty then none
        some (handle, uri, after)
      else do
        let (uri, after) ← tagUri? false after
        let suffix := handle.drop 1 ++ uri
        if suffix.isEmpty then some ([], ['!'], after) else some (['!'], suffix, after)
  if endsWord after.rest ∨ (inFlow ∧ after.head? = some ',') then
    some (.tag (String.ofList handle) (String.ofList suffix), after)
  else none

def versionNumber? (here : Cursor) : Option (Nat × Cursor) :=
  let (digits, after) := here.span Char.isDigit
  if digits.isEmpty ∨ 9 < digits.length then none else some (natOfDigits digits, after)

def directive? (here : Cursor) : Option (Token × Cursor) := do
  let (name, after) := (here.skip 1).span isWord
  if !endsWord after.rest then none
  let after := after.skipWhile isBlank
  if name = "YAML".toList then
    let (major, after) ← versionNumber? after
    if after.head? ≠ some '.' then none
    let (minor, after) ← versionNumber? (after.skip 1)
    some (.version major minor, ← after.endOfLine?)
  else if name = "TAG".toList then
    let (handle, after) ← tagHandle? after
    if handle ≠ ['!'] ∧ handle.getLast? ≠ some '!' then none
    if !after.head?.any isBlank then none
    let (lead, after) ← tagUri? true (after.skipWhile isBlank)
    if lead.isEmpty ∨ !endsWord after.rest then none
    some (.tagLead (String.ofList handle) (String.ofList lead), ← after.endOfLine?)
  else none

def label? (here : Cursor) : Option (String × Cursor) :=
  let (word, after) := here.span isWord
  let ends := endsWord after.rest || after.head?.any "?:,]\x7d%@\x60".toList.contains
  if word.isEmpty || !ends then none else some (String.ofList word, after)

/-! ## Scanning -/

/-- A place where a key may have begun: how many tokens stood before it, and
where it is. A key at the margin of its collection must be one. -/
structure KeyStart where
  count : Nat
  start : Cursor
  required : Bool

structure Scan where
  here : Cursor
  /-- The tokens so far, the newest first. -/
  tokens : List Token
  /-- The columns of the open block collections, the innermost first. -/
  columns : List Nat
  /-- For every open bracket, and last for what is outside them. -/
  keys : List (Option KeyStart)
  keyAllowed : Bool

namespace Scan

def ofText (text : String) : Scan :=
  let here := Cursor.ofText text
  -- A byte order mark does not count but takes a column.
  ⟨if here.head? = some '\ufeff' then here.skip 1 else here, [], [], [none], true⟩

def inFlow (s : Scan) : Bool := 1 < s.keys.length

def margin (s : Scan) : Nat :=
  match s.columns with
  | [] => 0
  | column :: _ => column + 1

def push (s : Scan) (token : Token) : Scan := { s with tokens := token :: s.tokens }

def pushAt (s : Scan) (count : Nat) (token : Token) : Scan :=
  let later := s.tokens.length - count
  { s with tokens := s.tokens.take later ++ token :: s.tokens.drop later }

/-- Opens a block collection if the column lies inside the innermost one. -/
def roll (s : Scan) (column count : Nat) (token : Token) : Scan :=
  if s.inFlow ∨ column < s.margin then s
  else { s.pushAt count token with columns := column :: s.columns }

/-- Closes the block collections whose margin lies beyond a limit. -/
def unroll (s : Scan) (limit : Nat) : Scan :=
  if s.inFlow then s
  else
    let closed := (s.columns.takeWhile fun column => limit < column + 1).length
    { s with
      tokens := List.replicate closed .closeBlock ++ s.tokens
      columns := s.columns.drop closed }

def dropKey? (s : Scan) : Option Scan :=
  match s.keys with
  | some start :: keys => if start.required then none else some { s with keys := none :: keys }
  | _ => some s

def saveKey? (s : Scan) : Option Scan := do
  if !s.keyAllowed then return s
  let s ← s.dropKey?
  let required := !s.inFlow && s.margin == s.here.column + 1
  return { s with keys := some ⟨s.tokens.length, s.here, required⟩ :: s.keys.drop 1 }

def maxKey : Nat := 1024

def dropStale? (s : Scan) : Option Scan := do
  let stale (start : KeyStart) : Bool :=
    start.start.line < s.here.line || start.start.index + maxKey < s.here.index
  if s.keys.any fun key => key.any fun start => stale start && start.required then none
  else return { s with keys := s.keys.map fun key => key.filter fun start => !stale start }

def skipSpace : Nat → Scan → Scan
  | 0, s => s
  | fuel + 1, s =>
      let here := s.here.skipWhile fun c =>
        c == ' ' || ((s.inFlow || !s.keyAllowed) && c == '\t')
      let here := if here.head? = some '#' then here.skipWhile fun c => !isBreak c else here
      if here.head?.any isBreak then
        skipSpace fuel
          { s with here := here.takeBreak.2, keyAllowed := s.keyAllowed || !s.inFlow }
      else { s with here }

def mark (s : Scan) (token : Token) (count : Nat) (keyAllowed : Bool) : Scan :=
  { s.push token with here := s.here.skip count, keyAllowed }

def keyToken? (s : Scan) (token : Token) (after : Cursor) : Option Scan := do
  return { (← s.saveKey?).push token with here := after, keyAllowed := false }

def openBracket? (s : Scan) (token : Token) : Option Scan := do
  let s ← s.saveKey?
  return { s.mark token 1 true with keys := none :: s.keys }

def closeBracket? (s : Scan) (token : Token) : Option Scan := do
  let s ← s.dropKey?
  return { s.mark token 1 false with keys := if s.inFlow then s.keys.drop 1 else s.keys }

def entry? (s : Scan) (opener token : Token) (keyAllowed : Bool) : Option Scan := do
  if !s.inFlow && !s.keyAllowed then none
  let s ← (s.roll s.here.column s.tokens.length opener).dropKey?
  return s.mark token 1 keyAllowed

/-- The colon makes a key of what may have been one. -/
def value? (s : Scan) : Option Scan :=
  match s.keys with
  | some key :: keys =>
      let s := (s.pushAt key.count .key).roll key.start.column key.count .openBlockMapping
      some ({ s with keys := none :: keys }.mark .value 1 false)
  | _ =>
      if s.inFlow then some (s.mark .value 1 false)
      else if !s.keyAllowed then none
      else some ((s.roll s.here.column s.tokens.length .openBlockMapping).mark .value 1 true)

def documentMark? (s : Scan) (token : Token) : Option Scan := do
  return (← (s.unroll 0).dropKey?).mark token 3 false

def blockScalar? (s : Scan) (folded : Bool) : Option Scan := do
  let s ← s.dropKey?
  let (text, after) ← blockText folded s.margin (s.here.skip 1)
  return { s.push (.scalar (String.ofList text) false) with here := after, keyAllowed := true }

def quotedScalar? (s : Scan) (q : Char) : Option Scan := do
  let (text, after) ← quotedText q (s.here.rest.length + 1) (s.here.skip 1)
  s.keyToken? (.scalar (String.ofList text) false) after

def plainScalar? (s : Scan) : Option Scan := do
  let (text, gap, after) ←
    plainText s.inFlow s.margin (s.here.rest.length + 1) Gap.none s.here
  let s ← s.keyToken? (.scalar (String.ofList text) true) after
  return { s with keyAllowed := gap.broken }

def isIndicator (c : Char) : Bool := "-?:,[]\x7b\x7d#&*!|>'\"%@\x60".toList.contains c

def token? (s : Scan) : Option Scan :=
  let here := s.here
  match here.rest with
  | [] => some s
  | c :: rest =>
      if c = '%' ∧ here.column = 0 then do
        let s ← (s.unroll 0).dropKey?
        let (token, after) ← directive? here
        return { s.push token with here := after, keyAllowed := false }
      else if here.atMark "---" then s.documentMark? .documentStart
      else if here.atMark "..." then s.documentMark? .documentEnd
      else if c = '[' then s.openBracket? .openSequence
      else if c = '\x7b' then s.openBracket? .openMapping
      else if c = ']' then s.closeBracket? .closeSequence
      else if c = '\x7d' then s.closeBracket? .closeMapping
      else if c = ',' then do return (← s.dropKey?).mark .comma 1 true
      else if c = '-' ∧ endsWord rest then s.entry? .openBlockSequence .item true
      else if c = '?' ∧ (s.inFlow ∨ endsWord rest) then
        s.entry? .openBlockMapping .key (!s.inFlow)
      else if c = ':' ∧ (s.inFlow ∨ endsWord rest) then s.value?
      else if c = '*' then do
        let (label, after) ← label? (here.skip 1)
        s.keyToken? (.alias label) after
      else if c = '&' then do
        let (label, after) ← label? (here.skip 1)
        s.keyToken? (.anchor label) after
      else if c = '!' then do
        let (token, after) ← tag? s.inFlow here
        s.keyToken? token after
      else if c = '|' ∧ !s.inFlow then s.blockScalar? false
      else if c = '>' ∧ !s.inFlow then s.blockScalar? true
      else if c = '\'' ∨ c = '"' then s.quotedScalar? c
      else if !isIndicator c && !isBlank c then s.plainScalar?
      else if c = '-' ∧ !rest.head?.any isBlank then s.plainScalar?
      else if !s.inFlow ∧ (c = '?' ∨ c = ':') then s.plainScalar?
      else none

def run : Nat → Scan → Option (List Token)
  | 0, _ => none
  | fuel + 1, s => do
      let s ← (skipSpace (s.here.rest.length + 1) s).dropStale?
      let s := s.unroll (s.here.column + 1)
      if s.here.rest.isEmpty then return (← (s.unroll 0).dropKey?).tokens.reverse
      else run fuel (← s.token?)

end Scan

def tokens? (text : String) : Option (List Token) :=
  if text.toList.all isAllowed then Scan.run (text.length + 1) (Scan.ofText text) else none

end Stencil.Yaml
