/-!
Finite binary64 numbers and their arithmetic. A number is its sign and its
magnitude, the low 63 bits of the usual word, so magnitudes order as the
numbers do. Every operation computes exactly on whole multiples of the least
positive number and rounds once, to the nearest, ties to the even neighbour.
A result with no finite value is absent.
-/

namespace Stencil

def twoTo (exponent : Nat) : Nat := Nat.pow 2 exponent

def tenTo (exponent : Nat) : Nat := Nat.pow 10 exponent

/-- Infinity would have the least magnitude that is not finite. -/
structure Binary64 where
  negative : Bool
  magnitude : Nat
  finite : magnitude < 0x7FF0000000000000
  deriving DecidableEq

namespace Binary64

def zero : Binary64 := ⟨false, 0, by decide⟩

instance : Inhabited Binary64 := ⟨zero⟩

/-- The leading bit of a significand, which a magnitude does not store; the
exponent stands above its place. -/
def hiddenBit : Nat := 0x10000000000000

/-- The significand and the binary exponent: the size of `x` is
`x.significand * twoTo x.shift` times the least positive number. -/
def significand (x : Binary64) : Nat :=
  if x.magnitude < hiddenBit then x.magnitude else hiddenBit + x.magnitude % hiddenBit

def shift (x : Binary64) : Nat := x.magnitude / hiddenBit - 1

def units (x : Binary64) : Nat := x.significand * twoTo x.shift

def signedUnits (x : Binary64) : Int := if x.negative then -(x.units : Int) else x.units

def unitsPerOne : Nat := twoTo 1074

def roundHalfEven (numerator denominator : Nat) : Nat :=
  let quotient := numerator / denominator
  let twice := 2 * (numerator % denominator)
  if twice < denominator then quotient
  else if denominator < twice then quotient + 1
  else quotient + quotient % 2

/-- The magnitude nearest to a quotient. Rounding up to the next power of two
carries into the exponent by itself. -/
def magnitudeOfRatio (numerator denominator : Nat) : Nat :=
  let scaled := numerator * unitsPerOne
  let shift := (scaled / denominator).log2 - 52
  shift * hiddenBit + roundHalfEven scaled (denominator * twoTo shift)

def ofMagnitude? (negative : Bool) (magnitude : Nat) : Option Binary64 :=
  if finite : magnitude < 0x7FF0000000000000 then some ⟨negative, magnitude, finite⟩ else none

def ofRatio? (negative : Bool) (numerator denominator : Nat) : Option Binary64 :=
  ofMagnitude? negative (magnitudeOfRatio numerator denominator)

def ofInt? (value : Int) : Option Binary64 := ofRatio? (value < 0) value.natAbs 1

def neg (x : Binary64) : Binary64 := { x with negative := !x.negative }

/-- A sum of exactly zero is negative only when both parts are. -/
def add? (x y : Binary64) : Option Binary64 :=
  let sum := x.signedUnits + y.signedUnits
  if sum = 0 then some { zero with negative := x.negative && y.negative }
  else ofRatio? (sum < 0) sum.natAbs unitsPerOne

def sub? (x y : Binary64) : Option Binary64 := x.add? y.neg

def mul? (x y : Binary64) : Option Binary64 :=
  ofRatio? (x.negative != y.negative) (x.units * y.units) (unitsPerOne * unitsPerOne)

def div? (x y : Binary64) : Option Binary64 :=
  if y.units = 0 then none else ofRatio? (x.negative != y.negative) x.units y.units

/-- The remainder of the division toward zero. It has the sign of `x`. -/
def rem? (x y : Binary64) : Option Binary64 :=
  if y.units = 0 then none else ofRatio? x.negative (x.units % y.units) unitsPerOne

/-- Equality of the numbers: the two zeros are equal. -/
def alike (x y : Binary64) : Bool := x.signedUnits == y.signedUnits

def less (x y : Binary64) : Bool := x.signedUnits < y.signedUnits

def atMost (x y : Binary64) : Bool := x.signedUnits ≤ y.signedUnits

def isWhole (x : Binary64) : Bool := x.units % unitsPerOne == 0

def truncate (x : Binary64) : Int :=
  let whole : Int := (x.units / unitsPerOne : Nat)
  if x.negative then -whole else whole

end Binary64

end Stencil
