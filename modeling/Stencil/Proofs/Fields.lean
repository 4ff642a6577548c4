import Stencil.Value.Basic

/-!
What is found under a key after entries have been placed over others. An entry
that is placed is found under its key and hides nothing else, in a list that keeps
its order as in one that is sorted. So of two layers the upper one is found where
it has an entry, be it null, and the lower one elsewhere. Entries that are placed one
by one under keys of their own stay as they are.
-/

namespace Stencil

variable {α : Type}

theorem lookup_entry {Key : Type} [BEq Key] [LawfulBEq Key] [DecidableEq Key] (known key : Key)
    (value : α) (rest : List (Key × α)) :
    ((known, value) :: rest).lookup key = if key = known then some value else rest.lookup key := by
  rw [List.lookup_cons]
  by_cases same : key = known
  · simp [same]
  · have apart : (key == known) = false := by simpa using same
    simp [apart, same]

theorem mem_of_lookup {entries : List (String × α)} {key : String} {value : α}
    (found : entries.lookup key = some value) : (key, value) ∈ entries := by
  obtain ⟨before, after, split, _⟩ := List.lookup_eq_some_iff.mp found
  rw [split]
  exact List.mem_append_right before List.mem_cons_self

theorem lookup_insert_sorted (key other : String) (value : α) (entries : List (String × α)) :
    (insertSorted key value entries).lookup other =
      if other = key then some value else entries.lookup other := by
  induction entries with
  | nil => exact lookup_entry key other value []
  | cons entry rest ih =>
      obtain ⟨known, held⟩ := entry
      simp only [insertSorted]
      by_cases less : key < known
      · rw [if_pos less]
        exact lookup_entry key other value _
      · rw [if_neg less]
        by_cases equal : key = known
        · subst equal
          rw [if_pos rfl, lookup_entry, lookup_entry]
          by_cases same : other = key <;> simp [same]
        · rw [if_neg equal, lookup_entry, lookup_entry, ih]
          by_cases same : other = key <;> simp [same, equal]

/-- Holds of every way to place an entry that hides nothing else. -/
theorem lookup_placed (place : List (String × α) → String → α → List (String × α))
    (placed : ∀ entries key value other, (place entries key value).lookup other =
      if other = key then some value else entries.lookup other)
    (base top : List (String × α)) (distinct : (top.map Prod.fst).Nodup) (key : String) :
    (top.foldl (fun grown entry => place grown entry.1 entry.2) base).lookup key =
      (top.lookup key).or (base.lookup key) := by
  induction top generalizing base with
  | nil => rfl
  | cons entry rest ih =>
      obtain ⟨known, value⟩ := entry
      obtain ⟨absent, apart⟩ := List.nodup_cons.mp distinct
      rw [List.foldl_cons, ih (place base known value) apart, placed, lookup_entry]
      by_cases same : key = known
      · have missing : rest.lookup key = none := by
          apply List.lookup_eq_none_iff.mpr
          intro found member
          have other : key ≠ found.1 := by
            intro equal
            apply absent
            rw [← same, equal]
            exact List.mem_map.mpr ⟨found, member, rfl⟩
          simpa using other
        rw [missing, if_pos same, if_pos same]
        rfl
      · simp [same]

theorem lookup_sort_by_key (entries : List (String × α))
    (distinct : (entries.map Prod.fst).Nodup) (key : String) :
    (sortByKey entries).lookup key = entries.lookup key := by
  have placed := lookup_placed (fun sorted known value => insertSorted known value sorted)
    (fun entries known value other => lookup_insert_sorted known other value entries)
    [] entries distinct key
  rw [List.lookup_nil, Option.or_none] at placed
  exact placed

namespace Fields

theorem get?_insert (fields : Fields) (key : String) (value : Value) (other : String) :
    (fields.insert key value).get? other =
      if other = key then some value else fields.get? other := by
  unfold get?
  induction fields with
  | nil => exact lookup_entry key other value []
  | cons entry rest ih =>
      obtain ⟨known, held⟩ := entry
      simp only [insert]
      by_cases equal : known = key
      · subst equal
        rw [if_pos rfl, lookup_entry, lookup_entry]
        by_cases same : other = known <;> simp [same]
      · rw [if_neg equal, lookup_entry, lookup_entry, ih]
        by_cases same : other = key
        · have apart : key ≠ known := fun same => equal same.symm
          simp [same, apart]
        · simp [same]

theorem get?_overlay (base top : Fields) (distinct : top.keys.Nodup) (key : String) :
    (base.overlay top).get? key = (top.get? key).or (base.get? key) :=
  lookup_placed insert get?_insert base top distinct key

/-- An entry under a new key goes to the end. -/
theorem insert_absent {fields : Fields} {key : String} (absent : key ∉ fields.keys)
    (value : Value) : fields.insert key value = fields ++ [(key, value)] := by
  induction fields with
  | nil => rfl
  | cons entry rest ih =>
      obtain ⟨known, held⟩ := entry
      obtain ⟨other, later⟩ := not_or.mp fun found => absent (List.mem_cons.mpr found)
      rw [insert, if_neg (Ne.symm other), ih later, List.cons_append]

/-- Entries under keys that are all new follow the others as they are. -/
theorem overlay_distinct {base top : Fields} (distinct : (base.keys ++ top.keys).Nodup) :
    base.overlay top = base ++ top := by
  induction top generalizing base with
  | nil => exact (List.append_nil base).symm
  | cons entry rest ih =>
      obtain ⟨key, value⟩ := entry
      have absent : key ∉ base.keys := by
        intro member
        exact (List.nodup_append.mp distinct).2.2 key member key List.mem_cons_self rfl
      have grown : ((base ++ [(key, value)] : Fields).keys ++ keys rest).Nodup := by
        simpa [keys] using distinct
      have placed := ih grown
      rw [List.append_assoc] at placed
      rw [overlay, List.foldl_cons, insert_absent absent]
      exact placed

theorem of_list_distinct {entries : Fields} (distinct : entries.keys.Nodup) :
    ofList entries = entries :=
  @overlay_distinct [] entries distinct

end Fields

end Stencil
