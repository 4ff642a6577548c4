import Stencil.Value.Basic

/-!
The JSON text of values, compact and indented, and the text a body prints for
a value: strings as they are, nothing for null, JSON text for the rest.
-/

namespace Stencil

def hexDigit (n : Nat) : Char := (Nat.digitChar (n % 16))

def hexQuad (n : Nat) : List Char :=
  [hexDigit (n / 4096), hexDigit (n / 256), hexDigit (n / 16), hexDigit n]

def escapeJsonChar (c : Char) : List Char :=
  if c = '"' then ['\\', '"']
  else if c = '\\' then ['\\', '\\']
  else if c = '\n' then ['\\', 'n']
  else if c = '\r' then ['\\', 'r']
  else if c = '\t' then ['\\', 't']
  else if c = '\x08' then ['\\', 'b']
  else if c = '\x0c' then ['\\', 'f']
  else if c.toNat < 0x20 then '\\' :: 'u' :: hexQuad c.toNat
  else [c]

def quoteJson (text : String) : List Char :=
  '"' :: text.toList.flatMap escapeJsonChar ++ ['"']

namespace Value

mutual

def jsonChars : Value → List Char
  | .null => "null".toList
  | .bool true => "true".toList
  | .bool false => "false".toList
  | .number n => n.text.toList
  | .string s => quoteJson s
  | .array [] => ['[', ']']
  | .array (v :: vs) => '[' :: v.jsonChars ++ jsonRestItems vs
  | .object [] => ['\x7b', '\x7d']
  | .object ((k, v) :: rest) =>
      '\x7b' :: quoteJson k ++ ':' :: v.jsonChars ++ jsonRestEntries rest

def jsonRestItems : List Value → List Char
  | [] => [']']
  | v :: vs => ',' :: v.jsonChars ++ jsonRestItems vs

def jsonRestEntries : List (String × Value) → List Char
  | [] => ['\x7d']
  | (k, v) :: rest => ',' :: quoteJson k ++ ':' :: v.jsonChars ++ jsonRestEntries rest

end

def json (v : Value) : String := String.ofList v.jsonChars

def newLine (depth : Nat) : List Char := '\n' :: List.replicate (2 * depth) ' '

mutual

/-- One item or entry a line, two spaces a level. -/
def indentedChars (depth : Nat) : Value → List Char
  | .array (v :: vs) =>
      '[' :: newLine (depth + 1) ++ v.indentedChars (depth + 1) ++ indentedRestItems depth vs
  | .object ((k, v) :: rest) =>
      '\x7b' :: newLine (depth + 1) ++ quoteJson k ++ ':' :: ' ' :: v.indentedChars (depth + 1) ++
        indentedRestEntries depth rest
  | .array [] => ['[', ']']
  | .object [] => ['\x7b', '\x7d']
  | .null => Value.null.jsonChars
  | .bool b => (Value.bool b).jsonChars
  | .number n => (Value.number n).jsonChars
  | .string s => (Value.string s).jsonChars

def indentedRestItems (depth : Nat) : List Value → List Char
  | [] => newLine depth ++ [']']
  | v :: vs =>
      ',' :: newLine (depth + 1) ++ v.indentedChars (depth + 1) ++ indentedRestItems depth vs

def indentedRestEntries (depth : Nat) : List (String × Value) → List Char
  | [] => newLine depth ++ ['\x7d']
  | (k, v) :: rest =>
      ',' :: newLine (depth + 1) ++ quoteJson k ++ ':' :: ' ' :: v.indentedChars (depth + 1) ++
        indentedRestEntries depth rest

end

def indentedJson (v : Value) : String := String.ofList (v.indentedChars 0)

def text : Value → String
  | .null => ""
  | .string s => s
  | v => v.json

end Value

end Stencil
