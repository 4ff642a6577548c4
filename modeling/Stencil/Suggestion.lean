/-!
Names that may have been meant: at most three of the known names, nearest
first, whose edit distance to the given one is at most half its length in
bytes.
-/

namespace Stencil

/-- The next row of distances. `diagonal` is the distance above and to the
left, `left` the one just written. -/
def nextRow (c : Char) : List Char → Nat → Nat → List Nat → List Nat
  | d :: target, diagonal, left, above :: row =>
      let here := min (min (above + 1) (left + 1)) (diagonal + if c = d then 0 else 1)
      here :: nextRow c target above here row
  | _, _, _, _ => []

/-- The distances from what has been read of the source to every beginning of
the target, the empty one first. -/
def distanceRow (target : List Char) (row : List Nat) (c : Char) : List Nat :=
  match row with
  | [] => []
  | first :: rest => (first + 1) :: nextRow c target first (first + 1) rest

/-- The least number of insertions, deletions and replacements of characters. -/
def editDistance (source target : List Char) : Nat :=
  (source.foldl (distanceRow target) (List.range (target.length + 1))).getLast?.getD 0

/-- The order of names is kept among equally near ones. -/
def suggestionsFor (name : String) (known : List String) : List String :=
  let scored := known.map fun other => (other, editDistance name.toList other.toList)
  let near := (scored.mergeSort fun a b => a.2 ≤ b.2).filter fun entry =>
    entry.2 ≤ name.utf8ByteSize * 50 / 100
  (near.take 3).map Prod.fst

end Stencil
