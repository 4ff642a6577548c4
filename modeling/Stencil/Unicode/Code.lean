import Stencil.Number.Decimal

/-! Characters by their code points. A surrogate is no character. -/

namespace Stencil.Unicode

def ofCode? (code : Nat) : Option Char :=
  if valid : code.isValidChar then some (Char.ofNatAux code valid) else none

def ofHex? (digits : List Char) : Option Char := do ofCode? (← natOfDigits? 16 digits)

end Stencil.Unicode
