import Stencil.Unicode.Blank
import Stencil.Unicode.GraphemeTable

/-!
Extended grapheme clusters: the units a reader takes for one character. The
text is walked once. What the walk remembers of the cluster before the next
character is its last class, whether a run of regional indicators is odd, how
far an emoji joined by a joiner has come, and how far a consonant conjunct has.
-/

namespace Stencil.Unicode

inductive BreakClass where
  | other | carriageReturn | lineFeed | control | extend | joiner | regional | prepend
  | spacing | leading | vowel | trailing | leadingVowel | leadingVowelTrailing
  deriving DecidableEq

def breakClass (c : Char) : BreakClass :=
  let code := c.toNat
  if code = 0x0D then .carriageReturn
  else if code = 0x0A then .lineFeed
  else if code < 0x7F ∧ 0x20 ≤ code then .other
  else if code = 0x200D then .joiner
  else if 0xAC00 ≤ code ∧ code ≤ 0xD7A3 then
    if (code - 0xAC00) % 28 = 0 then .leadingVowel else .leadingVowelTrailing
  else if inRanges [(0x1100, 0x115F), (0xA960, 0xA97C)] c then .leading
  else if inRanges [(0x1160, 0x11A7), (0xD7B0, 0xD7C6)] c then .vowel
  else if inRanges [(0x11A8, 0x11FF), (0xD7CB, 0xD7FB)] c then .trailing
  else if inRanges [(0x1F1E6, 0x1F1FF)] c then .regional
  else if inRanges extendRanges c then .extend
  else if inRanges spacingMarkRanges c then .spacing
  else if inRanges prependRanges c then .prepend
  else if inRanges controlRanges c then .control
  else .other

/-- How much of a joined sequence the walk has seen: nothing, its first part, or
its first part and the link that may join a second. -/
inductive Joining where
  | none | started | linked
  deriving DecidableEq

structure ClusterState where
  last : BreakClass
  oddRegional : Bool
  emoji : Joining
  conjunct : Joining

def isPictographic (c : Char) : Bool := inRanges pictographicRanges c

def isConjunctConsonant (c : Char) : Bool := inRanges conjunctConsonantRanges c

def isConjunctLinker (c : Char) : Bool := inRanges conjunctLinkerRanges c

namespace ClusterState

def start (c : Char) : ClusterState :=
  let kind := breakClass c
  ⟨kind, kind == .regional, if isPictographic c then .started else .none,
    if isConjunctConsonant c then .started else .none⟩

def joins (state : ClusterState) (c : Char) : Bool :=
  let next := breakClass c
  match state.last, next with
  | .carriageReturn, .lineFeed => true
  | .carriageReturn, _ | .lineFeed, _ | .control, _ => false
  | _, .carriageReturn | _, .lineFeed | _, .control => false
  | .leading, .leading | .leading, .vowel | .leading, .leadingVowel
  | .leading, .leadingVowelTrailing => true
  | .leadingVowel, .vowel | .leadingVowel, .trailing | .vowel, .vowel | .vowel, .trailing => true
  | .leadingVowelTrailing, .trailing | .trailing, .trailing => true
  | _, .extend | _, .joiner | _, .spacing => true
  | .prepend, _ => true
  | .regional, .regional => state.oddRegional
  | _, _ =>
      (state.conjunct == .linked && isConjunctConsonant c) ||
        (state.emoji == .linked && isPictographic c)

def step (state : ClusterState) (c : Char) : ClusterState :=
  let fresh := start c
  let oddRegional := if fresh.last = .regional then !state.oddRegional else false
  let emoji :=
    if fresh.emoji = .started then .started
    else if state.emoji = .started ∧ fresh.last = .extend then .started
    else if state.emoji = .started ∧ fresh.last = .joiner then .linked
    else .none
  let conjunct :=
    if fresh.conjunct = .started then .started
    else if state.conjunct ≠ .none ∧ isConjunctLinker c then .linked
    else if fresh.last = .extend ∨ fresh.last = .joiner then state.conjunct
    else .none
  ⟨fresh.last, oddRegional, emoji, conjunct⟩

end ClusterState

def clustersFrom (state : ClusterState) (current : List Char) : List Char → List (List Char)
  | [] => [current.reverse]
  | c :: rest =>
      if state.joins c then clustersFrom (state.step c) (c :: current) rest
      else current.reverse :: clustersFrom (ClusterState.start c) [c] rest

def clusters : List Char → List (List Char)
  | [] => []
  | c :: rest => clustersFrom (ClusterState.start c) [c] rest

end Stencil.Unicode
