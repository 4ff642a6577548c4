import Mathlib.Order.Bounds.Basic
import Mathlib.Order.Nat
import Stencil.Suggestion

/-!
The table of distances computes the least number of edits. Its rows hold the distances between
beginnings of the two texts, so a step along a row is a step of the recursion on what has been
read, the last character first. That recursion changes by at most one with every edit, which is
why no sequence of edits is shorter.
-/

namespace Stencil

inductive Edit : List Char → List Char → Prop where
  | insert (before : List Char) (c : Char) (after : List Char) :
      Edit (before ++ after) (before ++ c :: after)
  | delete (before : List Char) (c : Char) (after : List Char) :
      Edit (before ++ c :: after) (before ++ after)
  | replace (before : List Char) (c d : Char) (after : List Char) :
      Edit (before ++ c :: after) (before ++ d :: after)

/-- A number of edits, one after the other. -/
inductive Edits : Nat → List Char → List Char → Prop where
  | none (text : List Char) : Edits 0 text text
  | more {count : Nat} {source next target : List Char} (first : Edit source next)
      (rest : Edits count next target) : Edits (count + 1) source target

/-- The distance by recursion on the first characters. -/
def distance : List Char → List Char → Nat
  | [], target => target.length
  | c :: source, [] => (c :: source).length
  | c :: source, d :: target =>
      min (min (distance source (d :: target) + 1) (distance (c :: source) target + 1))
        (distance source target + if c = d then 0 else 1)
termination_by source target => source.length + target.length

@[simp] theorem distance_nil (target : List Char) : distance [] target = target.length := by
  rw [distance]

@[simp] theorem distance_to_nil (source : List Char) : distance source [] = source.length := by
  cases source <;> rw [distance]

theorem distance_cons (c d : Char) (source target : List Char) :
    distance (c :: source) (d :: target) =
      min (min (distance source (d :: target) + 1) (distance (c :: source) target + 1))
        (distance source target + if c = d then 0 else 1) := by
  rw [distance]

/-! The rows of the table. -/

/-- The distances from a text to the ever longer beginnings of the target, when some of it has
been read. Texts are kept with their last character first. -/
def rowAfter (source : List Char) : List Char → List Char → List Nat
  | _, [] => []
  | read, d :: target => distance source (d :: read) :: rowAfter source (d :: read) target

theorem next_row_row_after (c : Char) (source read target : List Char) :
    nextRow c target (distance source read) (distance (c :: source) read)
      (rowAfter source read target) = rowAfter (c :: source) read target := by
  induction target generalizing read with
  | nil => rfl
  | cons d target ih =>
      simp only [rowAfter, nextRow]
      rw [← distance_cons c d source read, ih (d :: read)]

theorem foldl_distance_row (source target read : List Char) :
    source.foldl (distanceRow target) (distance read [] :: rowAfter read [] target) =
      distance (source.reverse ++ read) [] :: rowAfter (source.reverse ++ read) [] target := by
  induction source generalizing read with
  | nil => rfl
  | cons c source ih =>
      have grown : distance read [] + 1 = distance (c :: read) [] := by simp
      rw [List.foldl_cons, distanceRow, grown, next_row_row_after, ih, List.reverse_cons,
        List.append_assoc, List.singleton_append]

theorem row_after_nil (read target : List Char) :
    rowAfter [] read target = List.range' (read.length + 1) target.length := by
  induction target generalizing read with
  | nil => rfl
  | cons d target ih =>
      rw [rowAfter, ih, distance_nil, List.length_cons, List.length_cons, List.range'_succ]

theorem get_last_row (source read target : List Char) :
    (distance source read :: rowAfter source read target).getLast? =
      some (distance source (target.reverse ++ read)) := by
  induction target generalizing read with
  | nil => rfl
  | cons d target ih =>
      rw [rowAfter, List.getLast?_cons_cons, ih, List.reverse_cons, List.append_assoc,
        List.singleton_append]

theorem edit_distance_eq (source target : List Char) :
    editDistance source target = distance source.reverse target.reverse := by
  have start : List.range (target.length + 1) = distance [] [] :: rowAfter [] [] target := by
    rw [row_after_nil, List.range_eq_range', List.range'_succ, distance_nil, List.length_nil]
  rw [editDistance, start, foldl_distance_row, get_last_row]
  simp

/-! As many edits lead from one text to the other. -/

theorem Edit.cons (c : Char) {source target : List Char} (edit : Edit source target) :
    Edit (c :: source) (c :: target) := by
  cases edit with
  | insert before d after => exact .insert (c :: before) d after
  | delete before d after => exact .delete (c :: before) d after
  | replace before d e after => exact .replace (c :: before) d e after

theorem Edits.cons (c : Char) {count : Nat} {source target : List Char}
    (edits : Edits count source target) : Edits count (c :: source) (c :: target) := by
  induction edits with
  | none text => exact .none (c :: text)
  | more first _ ih => exact .more (first.cons c) ih

theorem edits_distance (source target : List Char) :
    Edits (distance source target) source target := by
  induction source generalizing target with
  | nil =>
      induction target with
      | nil =>
          rw [distance_nil]
          exact .none []
      | cons d target ih =>
          rw [distance_nil] at ih ⊢
          exact .more (.insert [] d []) (ih.cons d)
  | cons c source ih =>
      induction target with
      | nil =>
          have rest := ih []
          rw [distance_to_nil] at rest ⊢
          exact .more (.delete [] c source) rest
      | cons d target ihTarget =>
          have deleted : Edits (distance source (d :: target) + 1) (c :: source) (d :: target) :=
            .more (.delete [] c source) (ih (d :: target))
          have inserted : Edits (distance (c :: source) target + 1) (c :: source) (d :: target) :=
            .more (.insert [] d (c :: source)) (ihTarget.cons d)
          have kept : Edits (distance source target + if c = d then 0 else 1)
              (c :: source) (d :: target) := by
            by_cases same : c = d
            · rw [if_pos same, same]
              exact (ih target).cons d
            · rw [if_neg same]
              exact .more (.replace [] c d source) ((ih target).cons d)
          rw [distance_cons]
          let leads := fun count => Edits count (c :: source) (d :: target)
          exact min_rec' leads (min_rec' leads deleted inserted) kept

/-! One edit changes no distance by more than one. -/

theorem distance_delete (c : Char) (source target : List Char) :
    distance (c :: source) target ≤ distance source target + 1 := by
  cases target with
  | nil => simp
  | cons d target =>
      rw [distance_cons]
      omega

theorem distance_insert (d : Char) (source target : List Char) :
    distance source (d :: target) ≤ distance source target + 1 := by
  cases source with
  | nil => simp
  | cons c source =>
      rw [distance_cons]
      omega

theorem distance_shorter (c : Char) (source target : List Char) :
    distance source target ≤ distance (c :: source) target + 1 := by
  induction target with
  | nil =>
      rw [distance_to_nil, distance_to_nil, List.length_cons]
      omega
  | cons d target ih =>
      have more := distance_insert d source target
      rw [distance_cons]
      omega

theorem distance_replace (c d : Char) (source target : List Char) :
    distance (c :: source) target ≤ distance (d :: source) target + 1 := by
  induction target with
  | nil => simp
  | cons e target ih =>
      have less := distance_delete c source (e :: target)
      have more := distance_insert e (c :: source) target
      have kept : distance (c :: source) (e :: target) ≤ distance source target + 1 := by
        rw [distance_cons]
        split <;> omega
      rw [distance_cons d e]
      omega

theorem distance_behind (c : Char) {source next : List Char}
    (near : ∀ target, distance source target ≤ distance next target + 1) (target : List Char) :
    distance (c :: source) target ≤ distance (c :: next) target + 1 := by
  induction target with
  | nil =>
      have lengths := near []
      simpa using lengths
  | cons d target ih =>
      have tail := near target
      have whole := near (d :: target)
      rw [distance_cons, distance_cons]
      omega

theorem Edit.distance_le {source next : List Char} (edit : Edit source next)
    (target : List Char) : distance source target ≤ distance next target + 1 := by
  -- The edit takes place behind a beginning that both texts have.
  have behind : ∀ (before one other : List Char),
      (∀ target, distance one target ≤ distance other target + 1) →
      ∀ target, distance (before ++ one) target ≤ distance (before ++ other) target + 1 := by
    intro before one other near
    induction before with
    | nil => exact near
    | cons c before ih => exact distance_behind c ih
  cases edit with
  | insert before c after => exact behind before _ _ (distance_shorter c after) target
  | delete before c after => exact behind before _ _ (distance_delete c after) target
  | replace before c d after => exact behind before _ _ (distance_replace c d after) target

theorem distance_self (text : List Char) : distance text text = 0 := by
  induction text with
  | nil => simp
  | cons c text ih => simp [distance_cons, ih]

theorem Edits.distance_le {count : Nat} {source target : List Char}
    (edits : Edits count source target) : distance source target ≤ count := by
  induction edits with
  | none text => exact (distance_self text).le
  | more first _ ih => exact (first.distance_le _).trans (Nat.add_le_add_right ih 1)

/-! The least number of edits. -/

theorem Edit.reverse {source target : List Char} (edit : Edit source target) :
    Edit source.reverse target.reverse := by
  cases edit with
  | insert before c after =>
      simpa using Edit.insert after.reverse c before.reverse
  | delete before c after =>
      simpa using Edit.delete after.reverse c before.reverse
  | replace before c d after =>
      simpa using Edit.replace after.reverse c d before.reverse

theorem Edits.reverse {count : Nat} {source target : List Char}
    (edits : Edits count source target) : Edits count source.reverse target.reverse := by
  induction edits with
  | none text => exact .none text.reverse
  | more first _ ih => exact .more first.reverse ih

theorem edits_edit_distance (source target : List Char) :
    Edits (editDistance source target) source target := by
  have edits := (edits_distance source.reverse target.reverse).reverse
  rwa [← edit_distance_eq, List.reverse_reverse, List.reverse_reverse] at edits

theorem Edits.edit_distance_le {count : Nat} {source target : List Char}
    (edits : Edits count source target) : editDistance source target ≤ count := by
  rw [edit_distance_eq]
  exact edits.reverse.distance_le

theorem edit_distance_least (source target : List Char) :
    IsLeast {count | Edits count source target} (editDistance source target) :=
  ⟨edits_edit_distance source target, fun _ edits => edits.edit_distance_le⟩

/-! Lengths and common characters. -/

theorem edit_distance_nil (source : List Char) : editDistance source [] = source.length := by
  rw [edit_distance_eq, List.reverse_nil, distance_to_nil, List.length_reverse]

theorem Edits.length_le {count : Nat} {source target : List Char}
    (edits : Edits count source target) : target.length ≤ source.length + count := by
  induction edits with
  | none text => exact Nat.le_refl _
  | more first _ ih =>
      cases first <;>
        simp only [List.length_append, List.length_cons] at ih ⊢ <;> omega

theorem edit_distance_append (source more : List Char) :
    editDistance source (source ++ more) = more.length := by
  have added : Edits more.length source (source ++ more) := by
    induction source with
    | nil => simpa using edits_distance [] more
    | cons c source ih => exact ih.cons c
  have atMost := added.edit_distance_le
  have atLeast := (edits_edit_distance source (source ++ more)).length_le
  rw [List.length_append] at atLeast
  omega

/-- If two texts have no character in common, every one of the first has to go. -/
theorem length_le_distance {source target : List Char} (apart : ∀ c ∈ source, c ∉ target) :
    source.length ≤ distance source target := by
  induction source generalizing target with
  | nil => simp
  | cons c source ih =>
      have tail : ∀ e ∈ source, e ∉ target :=
        fun e inside => apart e (List.mem_cons_of_mem c inside)
      have deleted := ih tail
      induction target with
      | nil => simp
      | cons d target ihTarget =>
          have none : ∀ e ∈ c :: source, e ∉ target := fun e inside member =>
            apart e inside (List.mem_cons_of_mem d member)
          have rest : ∀ e ∈ source, e ∉ target := fun e inside =>
            none e (List.mem_cons_of_mem c inside)
          have differ : c ≠ d := by
            rintro rfl
            exact apart c List.mem_cons_self List.mem_cons_self
          have inserted := ihTarget none rest (ih rest)
          have replaced := ih rest
          rw [distance_cons, if_neg differ]
          rw [List.length_cons] at inserted ⊢
          omega

theorem length_le_edit_distance {source target : List Char} (apart : ∀ c ∈ source, c ∉ target) :
    source.length ≤ editDistance source target := by
  rw [edit_distance_eq, ← List.length_reverse]
  apply length_le_distance
  intro c inside
  rw [List.mem_reverse] at inside ⊢
  exact apart c inside

end Stencil
