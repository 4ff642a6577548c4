import Stencil.Number.Decimal
import Stencil.Value.Basic

/-!
Finding a value inside another. A pointer is a text of parts between dots; a
part in double quotes may hold dots. In a part, `~1` stands for a slash and `~0`
for a tilde.
-/

namespace Stencil.Markup

/-- Replaces every occurrence of a pattern, from the left. An empty pattern
occurs before every character and at the end. -/
def replaceChars (pattern replacement : List Char) : Nat → List Char → List Char
  | 0, input => input
  | fuel + 1, input =>
      if pattern.isEmpty then
        replacement ++ match input with
          | [] => []
          | c :: rest => c :: replaceChars pattern replacement fuel rest
      else if pattern.isPrefixOf input then
        replacement ++ replaceChars pattern replacement fuel (input.drop pattern.length)
      else match input with
        | [] => []
        | c :: rest => c :: replaceChars pattern replacement fuel rest

def replaceText (text pattern replacement : String) : String :=
  String.ofList (replaceChars pattern.toList replacement.toList (text.length + 1) text.toList)

def splitChars (pattern : List Char) : Nat → List Char → List Char → List (List Char)
  | 0, current, _ => [current.reverse]
  | fuel + 1, current, input =>
      if pattern.isPrefixOf input then
        current.reverse :: splitChars pattern fuel [] (input.drop pattern.length)
      else match input with
        | [] => [current.reverse]
        | c :: rest => splitChars pattern fuel (c :: current) rest

/-- An empty pattern splits before, between and after all characters. -/
def splitText (text pattern : String) : List String :=
  if pattern.isEmpty then
    "" :: text.toList.map (fun c => String.ofList [c]) ++ [""]
  else (splitChars pattern.toList (text.length + 1) [] text.toList).map String.ofList

def containsText (text part : String) : Bool :=
  part.isEmpty || 1 < (splitText text part).length

/-- The parts of a pointer in which quotes hold dots together. -/
def quotedParts : Nat → List Char → List (List Char)
  | 0, _ => []
  | fuel + 1, input =>
      match input with
      | [] => []
      | '.' :: rest => quotedParts fuel rest
      | '"' :: rest =>
          if rest.contains '"' then
            rest.takeWhile (· != '"') :: quotedParts fuel ((rest.dropWhile (· != '"')).drop 1)
          else input.takeWhile (· != '.') :: quotedParts fuel (input.dropWhile (· != '.'))
      | _ => input.takeWhile (· != '.') :: quotedParts fuel (input.dropWhile (· != '.'))

def withoutQuotes (chars : List Char) : List Char :=
  ((chars.dropWhile (· == '"')).reverse.dropWhile (· == '"')).reverse

def pointerParts (pointer : String) : List String :=
  let chars := pointer.toList
  let parts :=
    if chars.contains '"' then
      (quotedParts (chars.length + 1) chars).map fun part => String.ofList (withoutQuotes part)
    else splitText pointer "."
  parts.map fun part => replaceText (replaceText part "~1" "/") "~0" "~"

/-- An index has no sign and no needless zero. -/
def index? (part : String) : Option Nat :=
  let chars := part.toList
  if chars.isEmpty || !chars.all isDigit || (chars.head? == some '0' && 1 < chars.length) then none
  else some (natOfDigits chars)

def follow : Value → List String → Option Value
  | v, [] => some v
  | .object entries, part :: rest => do follow (← entries.lookup part) rest
  | .array items, part :: rest => do follow (← items[← index? part]?) rest
  | _, _ :: _ => none

def point (v : Value) (pointer : String) : Option Value := follow v (pointerParts pointer)

end Stencil.Markup
