import Stencil.Unicode.GraphemeTable
import Stencil.Unicode.Blank
import Stencil.Unicode.Unprintable
import Stencil.Value.Text

/-!
Descriptions of values for diagnosis: every value with its constructor, strings
quoted so that each character can be told.
-/

namespace Stencil

def isAttaching (c : Char) : Bool :=
  Unicode.inRanges Unicode.extendRanges c && !(0x1F3FB ≤ c.toNat && c.toNat ≤ 0x1F3FF)

def inspectChar (c : Char) : List Char :=
  if c = '\x00' then ['\\', '0']
  else if c = '\t' then ['\\', 't']
  else if c = '\n' then ['\\', 'n']
  else if c = '\r' then ['\\', 'r']
  else if c = '"' then ['\\', '"']
  else if c = '\\' then ['\\', '\\']
  else if 0x20 ≤ c.toNat ∧ c.toNat < 0x7F then [c]
  else if isAttaching c || Unicode.inRanges Unicode.unprintableRanges c then
    '\\' :: 'u' :: '\x7b' :: Nat.toDigits 16 c.toNat ++ ['\x7d']
  else [c]

def inspectText (text : String) : String :=
  String.ofList ('"' :: text.toList.flatMap inspectChar ++ ['"'])

/-- Paths are quoted as texts are, with a backslash before single quotes too. -/
def inspectPath (path : String) : String :=
  let quoted (c : Char) : List Char := if c = '\'' then ['\\', c] else inspectChar c
  String.ofList ('"' :: path.toList.flatMap quoted ++ ['"'])

def inspectList (opening closing : String) (items : List String) : String :=
  opening ++ String.intercalate ", " items ++ closing

def inspectRecord (name : String) (parts : List (String × String)) : String :=
  name ++ " \x7b " ++ String.intercalate ", " (parts.map fun part => part.1 ++ ": " ++ part.2) ++
    " \x7d"

def inspectSet (items : List String) : String := inspectList "\x7b" "\x7d" items

def inspectTexts (items : List String) : String := inspectList "[" "]" (items.map inspectText)

def inspectOption : Option String → String
  | none => "None"
  | some text => "Some(" ++ text ++ ")"

namespace Value

mutual

def inspect : Value → String
  | .null => "Null"
  | .bool b => "Bool(" ++ toString b ++ ")"
  | .number n => "Number(" ++ n.text ++ ")"
  | .string s => "String(" ++ inspectText s ++ ")"
  | .array items => "Array " ++ inspectList "[" "]" (inspectItems items)
  | .object entries => "Object " ++ inspectSet (inspectEntries entries)

def inspectItems : List Value → List String
  | [] => []
  | v :: rest => v.inspect :: inspectItems rest

def inspectEntries : List (String × Value) → List String
  | [] => []
  | (k, v) :: rest => (inspectText k ++ ": " ++ v.inspect) :: inspectEntries rest

end

end Value

def Fields.inspect (fields : Fields) : String := inspectSet (Value.inspectEntries fields)

end Stencil
