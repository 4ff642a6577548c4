/-!
The property White_Space, and cutting such characters off the ends of a text.
-/

namespace Stencil.Unicode

def inRanges (ranges : List (Nat × Nat)) (c : Char) : Bool :=
  ranges.any fun (first, last) => first ≤ c.toNat && c.toNat ≤ last

def blankRanges : List (Nat × Nat) :=
  [(0x0009, 0x000D), (0x0020, 0x0020), (0x0085, 0x0085), (0x00A0, 0x00A0), (0x1680, 0x1680),
   (0x2000, 0x200A), (0x2028, 0x2029), (0x202F, 0x202F), (0x205F, 0x205F), (0x3000, 0x3000)]

def isBlank (c : Char) : Bool := inRanges blankRanges c

def trimLeft (chars : List Char) : List Char := chars.dropWhile isBlank

def trimRight (chars : List Char) : List Char := (chars.reverse.dropWhile isBlank).reverse

def trim (chars : List Char) : List Char := trimRight (trimLeft chars)

end Stencil.Unicode

namespace Stencil

def trimText (text : String) : String := String.ofList (Unicode.trim text.toList)

end Stencil
