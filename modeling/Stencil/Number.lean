import Stencil.Number.Decimal
import Stencil.Number.Shortest

/-!
Numbers are whole numbers that a 64-bit word holds, or finite binary64 numbers. The two kinds
stay apart: `1` and `1.0` are different values, though `Number.toReal` lets them be compared.
-/

namespace Stencil

structure Whole where
  value : Int
  lower : -0x8000000000000000 ≤ value
  upper : value < 0x10000000000000000
  deriving DecidableEq

inductive Number where
  | whole (n : Whole)
  | real (x : Binary64)
  deriving DecidableEq

/-- Floats in data have a point or an exponent, so they read back as floats. -/
def jsonFloat : FloatLayout := ⟨some (-5, 15), true, true, false⟩

/-- Floats on a page are written out in full, without a point if they are whole. -/
def pageFloat : FloatLayout := ⟨none, false, false, true⟩

def literalFloat : FloatLayout := ⟨some (-5, 15), true, false, true⟩

namespace Whole

def ofInt? (value : Int) : Option Whole :=
  if lower : -0x8000000000000000 ≤ value then
    if upper : value < 0x10000000000000000 then some ⟨value, lower, upper⟩ else none
  else none

def least : Int := -0x8000000000000000

def greatestSigned : Int := 0x7FFFFFFFFFFFFFFF

def greatest : Int := 0xFFFFFFFFFFFFFFFF

def clampSigned (value : Int) : Int :=
  if value < least then least else if greatestSigned < value then greatestSigned else value

end Whole

namespace Number

def ofInt? (value : Int) : Option Number := (Whole.ofInt? value).map .whole

def ofNat (value : Nat) : Number :=
  if upper : (value : Int) < 0x10000000000000000 then .whole ⟨value, by omega, upper⟩
  else .whole ⟨0xFFFFFFFFFFFFFFFF, by decide, by decide⟩

/-- The number as a float. Every 64-bit whole number has a nearest one. -/
def toReal : Number → Binary64
  | .whole n => (Binary64.ofInt? n.value).getD Binary64.zero
  | .real x => x

def signed? : Number → Option Int
  | .whole n => if n.value ≤ Whole.greatestSigned then some n.value else none
  | .real _ => none

def unsigned? : Number → Option Nat
  | .whole n => if 0 ≤ n.value then some n.value.toNat else none
  | .real _ => none

/-- Whole numbers equal whole numbers and floats equal floats. -/
def alike : Number → Number → Bool
  | .whole m, .whole n => m.value == n.value
  | .real x, .real y => x.alike y
  | _, _ => false

def textIn (layout : FloatLayout) : Number → String
  | .whole n => toString n.value
  | .real x => layout.text x

def text : Number → String := textIn jsonFloat

end Number

end Stencil
