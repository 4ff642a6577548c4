import Stencil.Value.Basic

/-!
What YAML scalars mean. A plain scalar is null, a boolean, a whole number or a
float if it reads as one, and else text; a quoted one is text. A tag of the
standard set asks for one meaning.
-/

namespace Stencil.Yaml

def isNull (text : String) : Bool :=
  text == "null" || text == "Null" || text == "NULL" || text == "~"

def bool? (text : String) : Option Bool :=
  if text = "true" ∨ text = "True" ∨ text = "TRUE" then some true
  else if text = "false" ∨ text = "False" ∨ text = "FALSE" then some false
  else none

def isPadded (chars : List Char) : Bool :=
  let digits := match chars with
    | '-' :: rest | '+' :: rest => rest
    | _ => chars
  1 < digits.length && digits.head? == some '0' && digits.all isDigit

def digits? (base : Nat) (digits : List Char) : Option Nat :=
  if digits.isEmpty then none else natOfDigits? base digits

def whole? (chars : List Char) : Option Int := do
  let (negative, rest) := match chars with
    | '-' :: rest => (true, rest)
    | '+' :: rest => (false, rest)
    | _ => (false, chars)
  let based := match rest with
    | '0' :: 'x' :: digits => digits? 16 digits
    | '0' :: 'o' :: digits => digits? 8 digits
    | '0' :: 'b' :: digits => digits? 2 digits
    | _ => none
  let size ← match based with
    | some size => some size
    | none => if isPadded chars then none else digits? 10 rest
  return if negative then -(size : Int) else size

/-- Whether 128 bits hold no such number, without a sign or with one. -/
def tooLarge (value : Int) : Bool :=
  decide (value < -0x80000000000000000000000000000000) ||
    decide (0x100000000000000000000000000000000 ≤ value)

/-- Floats need a digit; the point and the exponent may be missing. Infinity and
no-number become null, and so does nothing else. -/
def float? (chars : List Char) : Option Value :=
  let unsigned := match chars with
    | '+' :: rest => rest
    | _ => chars
  let doubled := match chars with
    | '+' :: '+' :: _ | '+' :: '-' :: _ => true
    | _ => false
  let infinite := [".inf", ".Inf", ".INF"].any fun name =>
    name.toList == unsigned || '-' :: name.toList == chars
  let unknown := [".nan", ".NaN", ".NAN"].any fun name => name.toList == chars
  if doubled then none
  else if infinite || unknown then some .null
  else
    let (numeral, rest) := Numeral.scan unsigned
    if !rest.isEmpty ∨ (numeral.whole.isEmpty ∧ numeral.fraction.isEmpty) then none
    else numeral.nearest?.map fun x => .number (.real x)

/-- The meaning of a plain scalar. A whole number outside the range is refused
as long as 128 bits hold it. -/
def plain? (text : String) : Option Value :=
  let chars := text.toList
  if text.isEmpty || isNull text then some .null
  else match bool? text with
    | some b => some (.bool b)
    | none =>
        match (whole? chars).filter fun value => !tooLarge value with
        | some value => (Number.ofInt? value).map .number
        | none =>
            match if isPadded chars then none else float? chars with
            | some v => some v
            | none => some (.string text)

/-- The meaning of a scalar; absent if it does not fit its tag. A tag that begins
with a mark is of no known kind. -/
def scalar? (tag : Option String) (text : String) (isPlain : Bool) : Option Value :=
  match tag with
  | none => if isPlain then plain? text else some (.string text)
  | some "tag:yaml.org,2002:null" => if isNull text then some .null else none
  | some "tag:yaml.org,2002:bool" => (bool? text).map .bool
  | some "tag:yaml.org,2002:int" => do
      some (.number (← Number.ofInt? (← whole? text.toList)))
  | some "tag:yaml.org,2002:float" => float? text.toList
  | some tag => if tag.toList.head? = some '!' then none else some (.string text)

end Stencil.Yaml
