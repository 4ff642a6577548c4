import Stencil.Value.Text

/-!
Reading JSON text. The reader accepts exactly one value with blanks around it,
at most 127 levels deep, with no leniency of any kind.
-/

namespace Stencil.Json

def isSpace (c : Char) : Bool := c == ' ' || c == '\n' || c == '\r' || c == '\t'

def skipSpace (input : List Char) : List Char := input.dropWhile isSpace

def readQuad : List Char → Option (Nat × List Char)
  | a :: b :: c :: d :: rest => do
      let code ← natOfDigits? 16 [a, b, c, d]
      some (code, rest)
  | _ => none

def isHighSurrogate (code : Nat) : Bool := 0xD800 ≤ code && code ≤ 0xDBFF

def isLowSurrogate (code : Nat) : Bool := 0xDC00 ≤ code && code ≤ 0xDFFF

/-- The character after `\u`. A high surrogate needs the low one after it. -/
def readEscapedCode (input : List Char) : Option (Char × List Char) := do
  let (high, rest) ← readQuad input
  if isHighSurrogate high then
    match rest with
    | '\\' :: 'u' :: rest =>
        let (low, rest) ← readQuad rest
        if isLowSurrogate low then
          some (Char.ofNat (0x10000 + (high - 0xD800) * 0x400 + (low - 0xDC00)), rest)
        else none
    | _ => none
  else if isLowSurrogate high then none
  else some (Char.ofNat high, rest)

def plainEscape? : Char → Option Char
  | '"' => some '"'
  | '\\' => some '\\'
  | '/' => some '/'
  | 'b' => some '\x08'
  | 'f' => some '\x0c'
  | 'n' => some '\n'
  | 'r' => some '\r'
  | 't' => some '\t'
  | _ => none

def readString (fuel : Nat) (input : List Char) : Option (List Char × List Char) :=
  match fuel with
  | 0 => none
  | fuel + 1 =>
      match input with
      | [] => none
      | '"' :: rest => some ([], rest)
      | '\\' :: 'u' :: rest => do
          let (c, rest) ← readEscapedCode rest
          let (chars, rest) ← readString fuel rest
          some (c :: chars, rest)
      | '\\' :: escape :: rest => do
          let c ← plainEscape? escape
          let (chars, rest) ← readString fuel rest
          some (c :: chars, rest)
      | c :: rest =>
          if c.toNat < 0x20 ∨ c = '\\' then none
          else do
            let (chars, rest) ← readString fuel rest
            some (c :: chars, rest)

/-- A numeral has digits before a point, after a point and after an exponent
mark, and no zero in front of other digits. -/
def readNumber (input : List Char) : Option (Number × List Char) :=
  let unsigned := match input with
    | '-' :: rest => rest
    | _ => input
  let whole := unsigned.takeWhile isDigit
  let rest := unsigned.dropWhile isDigit
  if whole.isEmpty ∨ (whole.head? = some '0' ∧ 1 < whole.length) then none
  else
    let isWhole := match rest with
      | c :: _ => c != '.' && c != 'e' && c != 'E'
      | [] => true
    let (numeral, after) := Numeral.scan input
    let asFloat : Option (Number × List Char) := do
      let x ← numeral.scaled?
      some (.real x, after)
    if isWhole then
      let size : Int := (natOfDigits whole : Nat)
      let value := if numeral.negative then -size else size
      if numeral.negative ∧ value = 0 then asFloat
      else match Number.ofInt? value with
        | some n => some (n, rest)
        | none => asFloat
    else
      let fractionMissing := match rest with
        | '.' :: c :: _ => !isDigit c
        | ['.'] => true
        | _ => false
      let exponentMissing := match after with
        | c :: _ => c == 'e' || c == 'E'
        | [] => false
      if fractionMissing || exponentMissing then none else asFloat

def dropWord (word : String) (input : List Char) : Option (List Char) :=
  if word.toList.isPrefixOf input then some (input.drop word.length) else none

mutual

def readValue (fuel depth : Nat) (input : List Char) : Option (Value × List Char) :=
  match fuel with
  | 0 => none
  | fuel + 1 =>
      match skipSpace input with
      | [] => none
      | c :: rest =>
          if c = '"' then do
            let (chars, rest) ← readString (rest.length + 1) rest
            some (.string (String.ofList chars), rest)
          else if c = '[' then
            match depth with
            | 0 => none
            | depth + 1 =>
                match skipSpace rest with
                | ']' :: rest => some (.array [], rest)
                | _ => do
                    let (items, rest) ← readItems fuel depth rest
                    some (.array items, rest)
          else if c = '\x7b' then
            match depth with
            | 0 => none
            | depth + 1 =>
                match skipSpace rest with
                | '\x7d' :: rest => some (.object [], rest)
                | _ => do
                    let (entries, rest) ← readEntries fuel depth rest
                    some (.object (Fields.ofList entries), rest)
          else if c = 'n' then do
            some (.null, ← dropWord "null" (c :: rest))
          else if c = 't' then do
            some (.bool true, ← dropWord "true" (c :: rest))
          else if c = 'f' then do
            some (.bool false, ← dropWord "false" (c :: rest))
          else do
            let (n, rest) ← readNumber (c :: rest)
            some (.number n, rest)

def readItems (fuel depth : Nat) (input : List Char) : Option (List Value × List Char) :=
  match fuel with
  | 0 => none
  | fuel + 1 => do
      let (value, rest) ← readValue fuel depth input
      match skipSpace rest with
      | ',' :: rest =>
          let (values, rest) ← readItems fuel depth rest
          some (value :: values, rest)
      | ']' :: rest => some ([value], rest)
      | _ => none

def readEntries (fuel depth : Nat) (input : List Char) :
    Option (List (String × Value) × List Char) :=
  match fuel with
  | 0 => none
  | fuel + 1 =>
      match skipSpace input with
      | '"' :: rest => do
          let (chars, rest) ← readString (rest.length + 1) rest
          match skipSpace rest with
          | ':' :: rest =>
              let (value, rest) ← readValue fuel depth rest
              let entry := (String.ofList chars, value)
              match skipSpace rest with
              | ',' :: rest =>
                  let (entries, rest) ← readEntries fuel depth rest
                  some (entry :: entries, rest)
              | '\x7d' :: rest => some ([entry], rest)
              | _ => none
          | _ => none
      | _ => none

end

def maxDepth : Nat := 127

/-- Every call reads at least one character or opens a level on the same one. -/
def parse? (text : String) : Option Value :=
  let input := text.toList
  match readValue (2 * input.length + 2) maxDepth input with
  | some (value, rest) => if (skipSpace rest).isEmpty then some value else none
  | none => none

end Stencil.Json
