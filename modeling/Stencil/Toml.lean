import Stencil.Json
import Stencil.Toml.Scalar
import Stencil.Toml.Table
import Stencil.Unicode.Code

/-!
Reading TOML documents. Every table comes out sorted by key. Inline tables may
run over lines and end in a comma, and strings may escape by two digits.
-/

namespace Stencil.Toml

def isBlank (c : Char) : Bool := c == ' ' || c == '\t'

def skipBlanks (input : List Char) : List Char := input.dropWhile isBlank

def isControl (c : Char) : Bool := (c.toNat < 0x20 && c != '\t') || c.toNat == 0x7F

def newline? : List Char → Option (List Char)
  | '\n' :: rest => some rest
  | '\r' :: '\n' :: rest => some rest
  | _ => none

def comment? (input : List Char) : Option (List Char) :=
  match input with
  | '#' :: rest =>
      let rest := rest.dropWhile fun c => !isControl c
      match rest with
      | [] => some []
      | _ => if (newline? rest).isSome then some rest else none
  | _ => some input

def lineEnd? (input : List Char) : Option (List Char) := do
  let rest ← comment? (skipBlanks input)
  match rest with
  | [] => some []
  | _ => newline? rest

def skipLines : Nat → List Char → Option (List Char)
  | 0, _ => none
  | fuel + 1, input =>
      match skipBlanks input with
      | '#' :: rest => do skipLines fuel (← comment? ('#' :: rest))
      | rest =>
          match newline? rest with
          | some rest => skipLines fuel rest
          | none => some rest

def simpleEscape? : Char → Option Char
  | 'b' => some '\x08'
  | 't' => some '\t'
  | 'n' => some '\n'
  | 'f' => some '\x0c'
  | 'r' => some '\r'
  | 'e' => some '\x1b'
  | '"' => some '"'
  | '\\' => some '\\'
  | _ => none

def escape? (input : List Char) : Option (Char × List Char) :=
  let coded (count : Nat) (rest : List Char) : Option (Char × List Char) := do
    if rest.length < count then none
    let c ← Unicode.ofHex? (rest.take count)
    some (c, rest.drop count)
  match input with
  | 'u' :: rest => coded 4 rest
  | 'U' :: rest => coded 8 rest
  | 'x' :: rest => coded 2 rest
  | c :: rest => (simpleEscape? c).map fun c => (c, rest)
  | [] => none

def basicString : Nat → List Char → Option (List Char × List Char)
  | 0, _ => none
  | fuel + 1, input =>
      match input with
      | [] => none
      | '"' :: rest => some ([], rest)
      | '\\' :: rest => do
          let (c, rest) ← escape? rest
          let (chars, rest) ← basicString fuel rest
          some (c :: chars, rest)
      | c :: rest =>
          if isControl c then none
          else (basicString fuel rest).map fun (chars, rest) => (c :: chars, rest)

def literalString (input : List Char) : Option (List Char × List Char) :=
  let chars := input.takeWhile fun c => c != '\'' && !isControl c
  match input.dropWhile fun c => c != '\'' && !isControl c with
  | '\'' :: rest => some (chars, rest)
  | _ => none

def quoteRun (q : Char) (input : List Char) : Nat := ((input.take 5).takeWhile (· == q)).length

/-- A text over lines up to three quotes; up to two more belong to it. A
backslash at the end of a line swallows the white space after it. -/
def longString (q : Char) : Nat → List Char → Option (List Char × List Char)
  | 0, _ => none
  | fuel + 1, input =>
      match input with
      | [] => none
      | c :: rest =>
          if c = q then
            let run := quoteRun q input
            if 3 ≤ run then some (List.replicate (run - 3) q, input.drop run)
            else (longString q fuel rest).map fun (chars, rest) => (c :: chars, rest)
          else if c = '\\' ∧ q = '"' then
            match newline? (skipBlanks rest) with
            | some after =>
                longString q fuel (after.dropWhile fun c => isBlank c || c == '\n' || c == '\r')
            | none => do
                let (c, rest) ← escape? rest
                let (chars, rest) ← longString q fuel rest
                some (c :: chars, rest)
          else
            match newline? input with
            | some after => do
                let (chars, rest) ← longString q fuel after
                some (input.take (input.length - after.length) ++ chars, rest)
            | none =>
                if isControl c then none
                else (longString q fuel rest).map fun (chars, rest) => (c :: chars, rest)

def string? (input : List Char) : Option (String × List Char) := do
  let long (q : Char) (rest : List Char) : Option (List Char × List Char) :=
    longString q (rest.length + 1) ((newline? rest).getD rest)
  let (chars, rest) ← match input with
    | '"' :: '"' :: '"' :: rest => long '"' rest
    | '\'' :: '\'' :: '\'' :: rest => long '\'' rest
    | '"' :: rest => basicString (rest.length + 1) rest
    | '\'' :: rest => literalString rest
    | _ => none
  some (String.ofList chars, rest)

def isBare (c : Char) : Bool :=
  ('a' ≤ c && c ≤ 'z') || ('A' ≤ c && c ≤ 'Z') || isDigit c || c == '-' || c == '_'

def simpleKey (input : List Char) : Option (String × List Char) :=
  match input with
  | '"' :: '"' :: '"' :: _ => none
  | '\'' :: '\'' :: '\'' :: _ => none
  | '"' :: _ | '\'' :: _ => string? input
  | _ =>
      let chars := input.takeWhile isBare
      if chars.isEmpty then none else some (String.ofList chars, input.dropWhile isBare)

def dottedKey : Nat → List Char → Option (List String × List Char)
  | 0, _ => none
  | fuel + 1, input => do
      let (first, rest) ← simpleKey (skipBlanks input)
      match skipBlanks rest with
      | '.' :: rest =>
          let (more, rest) ← dottedKey fuel rest
          some (first :: more, rest)
      | rest => some ([first], rest)

def isScalarChar (c : Char) : Bool :=
  isBare c || c == '+' || c == '.' || c == ':'

/-- The characters of a scalar. A time may follow a date after one space. -/
def scalarRun (input : List Char) : List Char × List Char :=
  let run := input.takeWhile isScalarChar
  let rest := input.dropWhile isScalarChar
  match rest with
  | ' ' :: c :: after =>
      if isDigit c && run.length == 10 && (date? run).isSome then
        (run ++ ' ' :: (c :: after).takeWhile isScalarChar, (c :: after).dropWhile isScalarChar)
      else (run, rest)
  | _ => (run, rest)

mutual

/-- `depth` is how many arrays and inline tables may still be opened. -/
def valueOf (fuel depth : Nat) (input : List Char) : Option (Value × List Char) :=
  match fuel with
  | 0 => none
  | fuel + 1 =>
      match input with
      | [] => none
      | '"' :: _ | '\'' :: _ => (string? input).map fun (s, rest) => (.string s, rest)
      | '[' :: rest =>
          match depth with
          | 0 => none
          | depth + 1 => do
              let (items, rest) ← arrayItems fuel depth rest
              some (.array items, rest)
      | '\x7b' :: rest =>
          match depth with
          | 0 => none
          | depth + 1 => do
              let (entries, rest) ← inlineEntries fuel depth [] rest
              some ((Item.table .headed entries).close, rest)
      | _ => do
          let (run, rest) := scalarRun input
          some (← scalar? run, rest)

def arrayItems (fuel depth : Nat) (input : List Char) : Option (List Value × List Char) :=
  match fuel with
  | 0 => none
  | fuel + 1 => do
      match ← skipLines (input.length + 1) input with
      | ']' :: rest => some ([], rest)
      | start =>
          let (v, rest) ← valueOf fuel depth start
          match ← skipLines (rest.length + 1) rest with
          | ',' :: rest =>
              let (more, rest) ← arrayItems fuel depth rest
              some (v :: more, rest)
          | ']' :: rest => some ([v], rest)
          | _ => none

def inlineEntries (fuel depth : Nat) (entries : Entries) (input : List Char) :
    Option (Entries × List Char) :=
  match fuel with
  | 0 => none
  | fuel + 1 => do
      match ← skipLines (input.length + 1) input with
      | '\x7d' :: rest => some (entries, rest)
      | start =>
          let (keys, rest) ← dottedKey (start.length + 1) start
          match rest with
          | '=' :: rest =>
              let (v, rest) ← valueOf fuel depth (skipBlanks rest)
              let entries ← entries.addValue keys.dropLast (keys.getLast?.getD "") v .headed
              match ← skipLines (rest.length + 1) rest with
              | ',' :: rest => inlineEntries fuel depth entries rest
              | '\x7d' :: rest => some (entries, rest)
              | _ => none
          | _ => none

end

def maxDepth : Nat := 80

def addEntry (header : List String) (entries : Entries) (input : List Char) :
    Option (Entries × List Char) := do
  let (keys, rest) ← dottedKey (input.length + 1) input
  match rest with
  | '=' :: rest =>
      let (v, rest) ← valueOf (2 * rest.length + 2) maxDepth (skipBlanks rest)
      let rest ← lineEnd? rest
      let entries ← entries.descend false
        (fun kind inner => inner.addValue keys.dropLast (keys.getLast?.getD "") v kind)
        header .headed
      some (entries, rest)
  | _ => none

def document : Nat → List String → Entries → List Char → Option Entries
  | 0, _, _, _ => none
  | fuel + 1, header, entries, input => do
      match ← skipLines (input.length + 1) input with
      | [] => some entries
      | '[' :: '[' :: rest =>
          let (keys, rest) ← dottedKey (rest.length + 1) rest
          match rest with
          | ']' :: ']' :: rest =>
              let entries ← entries.openRow keys.dropLast (keys.getLast?.getD "")
              document fuel keys entries (← lineEnd? rest)
          | _ => none
      | '[' :: rest =>
          let (keys, rest) ← dottedKey (rest.length + 1) rest
          match rest with
          | ']' :: rest =>
              let entries ← entries.openTable keys.dropLast (keys.getLast?.getD "")
              document fuel keys entries (← lineEnd? rest)
          | _ => none
      | start =>
          let (entries, rest) ← addEntry header entries start
          document fuel header entries rest

/-- Reads a document; a byte order mark before it does not count. -/
def parse? (text : String) : Option Value := do
  let input := match text.toList with
    | '\ufeff' :: rest => rest
    | chars => chars
  let entries ← document (input.length + 1) [] [] input
  some (Item.table .headed entries).close

end Stencil.Toml
