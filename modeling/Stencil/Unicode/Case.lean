import Stencil.Unicode.Blank
import Stencil.Unicode.CaseTable

/-!
Full upper and lower case of texts. Only a sigma looks at its neighbours: it
takes its final form after a cased letter with none following.
-/

namespace Stencil.Unicode

namespace CaseRun

def maps (run : CaseRun) (code : Nat) : Bool :=
  run.first ≤ code && code ≤ run.last && (code - run.first) % run.stride == 0

end CaseRun

/-- A listed sequence, else the run that maps the character, else itself. -/
def mapCase (sequences : List (Nat × List Nat)) (runs : List CaseRun) (c : Char) : List Char :=
  match sequences.lookup c.toNat with
  | some codes => codes.map Char.ofNat
  | none =>
      match runs.find? (·.maps c.toNat) with
      | some run => [Char.ofNat ((c.toNat : Int) + run.distance).toNat]
      | none => [c]

def upperChar (c : Char) : List Char := mapCase upperSequences upperRuns c

def lowerChar (c : Char) : List Char := mapCase lowerSequences lowerRuns c

def isCased (c : Char) : Bool := inRanges casedRanges c

def isCaseIgnorable (c : Char) : Bool := inRanges caseIgnorableRanges c

/-- The first character that is not ignorable is a cased letter. -/
def casedNext (chars : List Char) : Bool :=
  match chars.dropWhile isCaseIgnorable with
  | c :: _ => isCased c
  | [] => false

def lowerAfter (before : List Char) : List Char → List Char
  | [] => []
  | c :: rest =>
      let here :=
        if c = 'Σ' then (if casedNext before && !casedNext rest then ['ς'] else ['σ'])
        else lowerChar c
      here ++ lowerAfter (c :: before) rest

def upper (chars : List Char) : List Char := chars.flatMap upperChar

def lower (chars : List Char) : List Char := lowerAfter [] chars

end Stencil.Unicode

namespace Stencil

def upperText (text : String) : String := String.ofList (Unicode.upper text.toList)

def lowerText (text : String) : String := String.ofList (Unicode.lower text.toList)

end Stencil
