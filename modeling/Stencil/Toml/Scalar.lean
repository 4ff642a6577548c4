import Stencil.Unicode.Blank
import Stencil.Value.Basic

/-!
The simple values of TOML: words, numbers, dates and times. Each is a run of
characters without white space, but for the space that may part a date from a
time. A date or time becomes an object of one entry with its normal text.
-/

namespace Stencil.Toml

def ungroup : List Char → Option (List Char)
  | [] => none
  | [c] => if c = '_' then none else some [c]
  | c :: '_' :: rest => if c = '_' then none else (ungroup rest).map (c :: ·)
  | c :: rest => if c = '_' then none else (ungroup rest).map (c :: ·)

def digitsOf (base : Nat) (chars : List Char) : Option Nat := do
  natOfDigits? base (← ungroup chars)

def decimalDigits (chars : List Char) : Option (List Char) := do
  let digits ← ungroup chars
  if !digits.all isDigit then none
  else if digits.head? = some '0' ∧ 1 < digits.length then none
  else some digits

def splitSign (chars : List Char) : Option Bool × List Char :=
  match chars with
  | '-' :: rest => (some true, rest)
  | '+' :: rest => (some false, rest)
  | _ => (none, chars)

/-- Whole numbers; a prefix names another base and takes no sign. -/
def integer? (chars : List Char) : Option Value := do
  let (sign, rest) := splitSign chars
  let size ← match sign, rest with
    | none, '0' :: 'x' :: digits => digitsOf 16 digits
    | none, '0' :: 'o' :: digits => digitsOf 8 digits
    | none, '0' :: 'b' :: digits => digitsOf 2 digits
    | _, digits => (decimalDigits digits).map natOfDigits
  let n ← Number.ofInt? (if sign = some true then -(size : Int) else size)
  some (.number n)

/-- Floats have a fraction or an exponent; one too large is refused, and infinity
and no-number are null. -/
def float? (chars : List Char) : Option Value := do
  let (sign, rest) := splitSign chars
  if rest = "inf".toList ∨ rest = "nan".toList then return .null
  let whole := rest.takeWhile fun c => isDigit c || c == '_'
  let rest := rest.dropWhile fun c => isDigit c || c == '_'
  let whole ← decimalDigits whole
  let (fraction, rest) ← match rest with
    | '.' :: rest => do
        let run := rest.takeWhile fun c => isDigit c || c == '_'
        some (← ungroup run, rest.dropWhile fun c => isDigit c || c == '_')
    | _ => some ([], rest)
  let (exponent, scaled) ← match rest with
    | [] => some ((0 : Int), false)
    | mark :: rest =>
        if mark = 'e' ∨ mark = 'E' then do
          let (sign, digits) := splitSign rest
          let digits ← ungroup digits
          if !digits.all isDigit then none
          let size : Int := (natOfDigits digits : Nat)
          some (if sign = some true then -size else size, true)
        else none
  if fraction.isEmpty && !scaled then none
  let x ← (Numeral.mk (sign == some true) whole fraction exponent).nearest?
  some (.number (.real x))

/-! Dates and times. -/

def twoDigits (chars : List Char) : Option (Nat × List Char) :=
  match chars with
  | a :: b :: rest => if isDigit a && isDigit b then some (natOfDigits [a, b], rest) else none
  | _ => none

def pad (width n : Nat) : List Char :=
  let digits := Nat.toDigits 10 n
  List.replicate (width - digits.length) '0' ++ digits

def isLeap (year : Nat) : Bool := (year % 4 == 0 && year % 100 != 0) || year % 400 == 0

def daysIn (year month : Nat) : Nat :=
  if month = 2 then (if isLeap year then 29 else 28)
  else if month = 4 ∨ month = 6 ∨ month = 9 ∨ month = 11 then 30
  else 31

def date? (chars : List Char) : Option (List Char × List Char) :=
  match chars with
  | a :: b :: c :: d :: '-' :: rest => do
      if !([a, b, c, d].all isDigit) then none
      let (month, rest) ← twoDigits rest
      match rest with
      | '-' :: rest => do
          let (day, rest) ← twoDigits rest
          if month < 1 ∨ 12 < month ∨ day < 1 ∨ daysIn (natOfDigits [a, b, c, d]) month < day then
            none
          else some ([a, b, c, d] ++ '-' :: pad 2 month ++ '-' :: pad 2 day, rest)
      | _ => none
  | _ => none

/-- The fraction of a second to nine places, without zeros at its end. -/
def fractionText (digits : List Char) : List Char :=
  let kept := ((digits.take 9).reverse.dropWhile (· == '0')).reverse
  if kept.isEmpty then [] else '.' :: kept

/-- A time in its normal text, and the rest. Seconds may be left out. -/
def time? (chars : List Char) : Option (List Char × List Char) := do
  let (hour, rest) ← twoDigits chars
  match rest with
  | ':' :: rest => do
      let (minute, rest) ← twoDigits rest
      if 23 < hour ∨ 59 < minute then none
      let (second, fraction, rest) ← match rest with
        | ':' :: rest => do
            let (second, rest) ← twoDigits rest
            match rest with
            | '.' :: rest =>
                let digits := rest.takeWhile isDigit
                if digits.isEmpty then none
                else some (second, fractionText digits, rest.dropWhile isDigit)
            | _ => some (second, [], rest)
        | _ => some (0, [], rest)
      if 60 < second then none
      some (pad 2 hour ++ ':' :: pad 2 minute ++ ':' :: pad 2 second ++ fraction, rest)
  | _ => none

def offset? (chars : List Char) : Option (List Char) :=
  match chars with
  | [c] => if c = 'Z' ∨ c = 'z' then some ['Z'] else none
  | sign :: rest =>
      if sign = '+' ∨ sign = '-' then do
        let (hours, rest) ← twoDigits rest
        match rest with
        | ':' :: rest => do
            let (minutes, rest) ← twoDigits rest
            if !rest.isEmpty ∨ 23 < hours ∨ 59 < minutes then none
            let sign := if hours = 0 ∧ minutes = 0 then '+' else sign
            some (sign :: pad 2 hours ++ ':' :: pad 2 minutes)
        | _ => none
      else none
  | [] => none

def moment (chars : List Char) : Value :=
  .object [("$__toml_private_datetime", .string (String.ofList chars))]

def dateTime? (chars : List Char) : Option Value :=
  match date? chars with
  | some (date, []) => some (moment date)
  | some (date, mark :: rest) =>
      if mark = 'T' ∨ mark = 't' ∨ mark = ' ' then do
        let (time, rest) ← time? rest
        if rest.isEmpty then some (moment (date ++ 'T' :: time))
        else some (moment (date ++ 'T' :: time ++ (← offset? rest)))
      else none
  | none =>
      match time? chars with
      | some (time, []) => some (moment time)
      | _ => none

def scalar? (chars : List Char) : Option Value :=
  if chars = "true".toList then some (.bool true)
  else if chars = "false".toList then some (.bool false)
  else match integer? chars with
    | some v => some v
    | none =>
        match float? chars with
        | some v => some v
        | none => dateTime? chars

end Stencil.Toml
