import Stencil.Number.Binary64

/-!
The shortest decimal text that reads back as a given binary64 number. For one,
two, … seventeen digits the two neighbours of the number on that decimal grid
are tried. The first grid with a neighbour inside the rounding interval of the
number wins, and of two such neighbours the nearer. A layout says how the
digits are set: which exponents are written positionally, whether whole numbers
keep a point, and how an exponent is marked.
-/

namespace Stencil

/-- Decimal digits without trailing zeros, and the power of ten of the first. -/
structure Decimal where
  digits : List Char
  exponent : Int

structure FloatLayout where
  /-- The least and the greatest exponent written positionally; all, if absent. -/
  positional : Option (Int × Int)
  /-- A whole number written positionally ends in `.0`. -/
  wholePoint : Bool
  plusSign : Bool
  /-- Of two nearest texts the larger is chosen, else the even one. -/
  tieUp : Bool

namespace Binary64

def decimalExponent (numerator denominator : Nat) : Int :=
  if denominator ≤ numerator then
    ((Nat.toDigits 10 (numerator / denominator)).length : Int) - 1
  else
    let places := (Nat.toDigits 10 (denominator / numerator)).length
    if denominator ≤ numerator * tenTo (places - 1) then 1 - (places : Int) else -(places : Int)

/-- The interval of the quotients that round to `x`, in quarters of the least
positive number. Below a power of two the spacing halves. -/
def roundingInterval (x : Binary64) : Nat × Nat :=
  let spacing := twoTo x.shift
  let below := if x.significand = hiddenBit ∧ 0 < x.shift then spacing else 2 * spacing
  (4 * x.units - below, 4 * x.units + 2 * spacing)

/-- The nearest text of `x` on the grid `10 ^ step`, if one lies in its interval. -/
def nearestOnGrid (tieUp : Bool) (x : Binary64) (step : Int) : Option Nat :=
  let up := tenTo (-step).toNat
  let grid := 4 * unitsPerOne * tenTo step.toNat
  let value := 4 * x.units * up
  let (low, high) := x.roundingInterval
  let inside (candidate : Nat) : Bool :=
    let point := candidate * grid
    if x.significand % 2 = 0 then low * up ≤ point && point ≤ high * up
    else low * up < point && point < high * up
  let below := value / grid
  let above := below + 1
  match inside below, inside above with
  | false, false => none
  | true, false => some below
  | false, true => some above
  | true, true =>
      let left := value - below * grid
      let right := above * grid - value
      if left < right then some below
      else if right < left then some above
      else if tieUp || below % 2 = 1 then some above
      else some below

def stripZeros (digits : List Char) : List Char :=
  (digits.reverse.dropWhile (· == '0')).reverse

/-- Seventeen digits tell any two numbers apart, so one of the grids has a hit. -/
def shortest (tieUp : Bool) (x : Binary64) : Decimal :=
  let first := decimalExponent x.units unitsPerOne
  let hit := (List.range 17).findSome? fun (count : Nat) =>
    let step := first - count
    (x.nearestOnGrid tieUp step).map fun candidate => (candidate, step)
  let (candidate, step) := hit.getD (x.units, 0)
  let digits := Nat.toDigits 10 candidate
  ⟨stripZeros digits, step + digits.length - 1⟩

end Binary64

namespace FloatLayout

def positionalText (layout : FloatLayout) (decimal : Decimal) : List Char :=
  if decimal.exponent < 0 then
    '0' :: '.' :: List.replicate (-decimal.exponent - 1).toNat '0' ++ decimal.digits
  else
    let width := decimal.exponent.toNat + 1
    let whole := decimal.digits.take width
    let fraction := decimal.digits.drop width
    whole ++ List.replicate (width - whole.length) '0' ++
      (if fraction.isEmpty then (if layout.wholePoint then ['.', '0'] else [])
        else '.' :: fraction)

def scientificText (layout : FloatLayout) (decimal : Decimal) : List Char :=
  let fraction := decimal.digits.drop 1
  decimal.digits.take 1 ++ (if fraction.isEmpty then [] else '.' :: fraction) ++ ['e'] ++
    (if decimal.exponent < 0 then ['-'] else if layout.plusSign then ['+'] else []) ++
    Nat.toDigits 10 decimal.exponent.natAbs

def text (layout : FloatLayout) (x : Binary64) : String :=
  let sign := if x.negative then ['-'] else []
  let size :=
    if x.units = 0 then (if layout.wholePoint then ['0', '.', '0'] else ['0'])
    else
      let decimal := x.shortest layout.tieUp
      match layout.positional with
      | none => layout.positionalText decimal
      | some (lowest, highest) =>
          if lowest ≤ decimal.exponent ∧ decimal.exponent ≤ highest then
            layout.positionalText decimal
          else layout.scientificText decimal
  String.ofList (sign ++ size)

end FloatLayout

end Stencil
