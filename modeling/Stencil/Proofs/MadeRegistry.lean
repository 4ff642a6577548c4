import Stencil.Proofs.ByteOrder
import Stencil.Registry

/-!
What holds of every registry that can be made. Its names ascend, so none is there twice, and a
name is one of them exactly when a function is found under it.
-/

namespace Stencil

variable {α : Type}

theorem mem_keys_insert_sorted (key other : String) (value : α) (entries : List (String × α)) :
    other ∈ (insertSorted key value entries).map Prod.fst ↔
      other = key ∨ other ∈ entries.map Prod.fst := by
  induction entries with
  | nil => simp [insertSorted]
  | cons entry rest ih =>
      obtain ⟨known, held⟩ := entry
      simp only [insertSorted]
      by_cases less : key < known
      · rw [if_pos less, List.map_cons, List.mem_cons]
      · rw [if_neg less]
        by_cases same : key = known
        · subst same
          simp
        · rw [if_neg same, List.map_cons, List.mem_cons, ih, List.map_cons, List.mem_cons]
          exact or_left_comm

theorem insert_sorted_ascends (key : String) (value : α) {entries : List (String × α)}
    (ascends : (entries.map Prod.fst).Pairwise (· < ·)) :
    ((insertSorted key value entries).map Prod.fst).Pairwise (· < ·) := by
  induction entries with
  | nil => exact List.pairwise_singleton _ _
  | cons entry rest ih =>
      obtain ⟨known, held⟩ := entry
      obtain ⟨first, later⟩ := List.pairwise_cons.mp ascends
      simp only [insertSorted]
      by_cases less : key < known
      · rw [if_pos less]
        apply List.pairwise_cons.mpr
        refine ⟨?_, ascends⟩
        intro other member
        rcases List.mem_cons.mp member with same | behind
        · rw [same]
          exact less
        · exact String.lt_trans less (first other behind)
      · rw [if_neg less]
        by_cases same : key = known
        · rw [if_pos same]
          subst same
          exact ascends
        · rw [if_neg same]
          apply List.pairwise_cons.mpr
          refine ⟨?_, ih later⟩
          intro other member
          rcases (mem_keys_insert_sorted key other value rest).mp member with new | old
          · rw [new]
            exact (text_lt_or_gt same).resolve_left less
          · exact first other old

namespace Registry

/-- Registries come from the empty one by registering functions and by taking over those of
other registries. -/
inductive Made : Registry → Prop where
  | empty : Made Registry.empty
  | register {registry : Registry} (made : Made registry) (name : String) (function : Function) :
      Made (registry.register name function)
  | extend {registry other : Registry} (made : Made registry) (taken : Made other) :
      Made (registry.extend other)

theorem contains_iff (registry : Registry) (name : String) :
    registry.contains name = true ↔ name ∈ registry.names := by
  rw [contains, find?, List.lookup_isSome_iff, names, List.mem_map]
  constructor
  · rintro ⟨entry, member, same⟩
    exact ⟨entry, member, (eq_of_beq same).symm⟩
  · rintro ⟨entry, member, same⟩
    exact ⟨entry, member, by simp [same]⟩

theorem extend_ascends {registry : Registry} (ascends : registry.names.Pairwise (· < ·))
    (other : Registry) : (registry.extend other).names.Pairwise (· < ·) := by
  unfold extend
  induction other generalizing registry with
  | nil => exact ascends
  | cons entry rest ih => exact ih (insert_sorted_ascends entry.1 entry.2 ascends)

theorem Made.ascends {registry : Registry} (made : registry.Made) :
    registry.names.Pairwise (· < ·) := by
  induction made with
  | empty => exact .nil
  | register _ name function ih => exact insert_sorted_ascends name function ih
  | extend _ _ ih _ => exact extend_ascends ih _

theorem call_absent {registry : Registry} {name : String}
    (absent : registry.contains name = false) (args : List Value) :
    registry.call name args = .fail (registry.missing name) := by
  unfold call
  cases found : registry.find? name with
  | none => rfl
  | some function =>
      rw [contains, found] at absent
      cases absent

end Registry

end Stencil
