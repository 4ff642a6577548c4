import Stencil.Number.Binary64

/-!
Reading decimal numerals. A numeral is taken apart into its sign, its digits as
one whole number, and the power of ten that scales them. `Numeral.nearest?` is
the binary64 number nearest to it; `Numeral.scaled?` is the quicker reading
that rounds the leading digits first and scales them afterwards.
-/

namespace Stencil

def digitValue? (c : Char) : Option Nat :=
  if '0' ≤ c ∧ c ≤ '9' then some (c.toNat - '0'.toNat) else none

def hexValue? (c : Char) : Option Nat :=
  if '0' ≤ c ∧ c ≤ '9' then some (c.toNat - '0'.toNat)
  else if 'a' ≤ c ∧ c ≤ 'f' then some (c.toNat - 'a'.toNat + 10)
  else if 'A' ≤ c ∧ c ≤ 'F' then some (c.toNat - 'A'.toNat + 10)
  else none

def natOfDigits? (base : Nat) (digits : List Char) : Option Nat :=
  digits.foldl (fun total c => do
    let value ← hexValue? c
    if value < base then some ((← total) * base + value) else none) (some 0)

def natOfDigits (digits : List Char) : Nat := (natOfDigits? 10 digits).getD 0

def isDigit (c : Char) : Bool := '0' ≤ c && c ≤ '9'

structure Numeral where
  negative : Bool
  whole : List Char
  fraction : List Char
  exponent : Int

namespace Numeral

/-- Takes digits, a fraction and an exponent from the front. The digits on
either side of the point may be missing; a reader that needs them asks. -/
def scan (input : List Char) : Numeral × List Char :=
  let (negative, input) := match input with
    | '-' :: rest => (true, rest)
    | '+' :: rest => (false, rest)
    | _ => (false, input)
  let whole := input.takeWhile isDigit
  let input := input.dropWhile isDigit
  let (fraction, input) := match input with
    | '.' :: rest => (rest.takeWhile isDigit, rest.dropWhile isDigit)
    | _ => ([], input)
  let scale (minus : Bool) (rest : List Char) : Numeral × List Char :=
    let digits := rest.takeWhile isDigit
    if digits.isEmpty then (⟨negative, whole, fraction, 0⟩, input)
    else
      let size : Int := (natOfDigits digits : Nat)
      (⟨negative, whole, fraction, if minus then -size else size⟩, rest.dropWhile isDigit)
  match input with
  | c :: rest =>
      if c = 'e' ∨ c = 'E' then
        match rest with
        | '-' :: rest => scale true rest
        | '+' :: rest => scale false rest
        | _ => scale false rest
      else (⟨negative, whole, fraction, 0⟩, input)
  | [] => (⟨negative, whole, fraction, 0⟩, input)

/-- The number nearest to the numeral. Exponents far out of range are settled
by the count of digits alone. -/
def nearest? (n : Numeral) : Option Binary64 :=
  let digits := natOfDigits (n.whole ++ n.fraction)
  if digits = 0 then some { Binary64.zero with negative := n.negative }
  else
    let exponent := n.exponent - n.fraction.length
    let top := exponent + (Nat.toDigits 10 digits).length
    if 310 < top then none
    else if top < -330 then some { Binary64.zero with negative := n.negative }
    else Binary64.ofRatio? n.negative (digits * tenTo exponent.toNat) (tenTo (-exponent).toNat)

def gather (digits : List Char) (word : Nat) : Nat × Nat :=
  match digits with
  | [] => (word, 0)
  | c :: rest =>
      let next := word * 10 + (digitValue? c).getD 0
      if next < 0x10000000000000000 then gather rest next else (word, digits.length)

/-- Divides by powers of ten that a binary64 number can hold, one at a time. -/
def scaleDown (fuel : Nat) (x : Binary64) (places : Nat) : Option Binary64 :=
  match fuel with
  | 0 => some { Binary64.zero with negative := x.negative }
  | fuel + 1 =>
      if places ≤ 308 then do x.div? (← Binary64.ofInt? (tenTo places))
      else if x.units = 0 then some x
      else do scaleDown fuel (← x.div? (← Binary64.ofInt? (tenTo 308))) (places - 308)

/-- The leading digits that fit a word, rounded, then multiplied or divided by
the power of ten that is left and rounded again. Absent on overflow. -/
def scaled? (n : Numeral) : Option Binary64 :=
  let (word, unread) := gather n.whole 0
  let (word, used) :=
    let (next, left) := gather n.fraction word
    (next, n.fraction.length - left)
  let exponent := n.exponent + unread - used
  let sign (x : Binary64) : Binary64 := { x with negative := n.negative }
  if word = 0 then some (sign Binary64.zero)
  else if 308 < exponent then none
  else if 0 ≤ exponent then do
    let x ← (← Binary64.ofInt? word).mul? (← Binary64.ofInt? (tenTo exponent.toNat))
    some (sign x)
  else do
    let x ← scaleDown 8 (← Binary64.ofInt? word) (-exponent).toNat
    some (sign x)

end Numeral

end Stencil
