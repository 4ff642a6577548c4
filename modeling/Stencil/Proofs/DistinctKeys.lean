import Mathlib.Data.List.Nodup
import Stencil.DataFile
import Stencil.Proofs.Fields
import Stencil.Proofs.MadeRegistry

/-!
Objects list every key once. Placing an entry under a key that is there keeps the keys as they
are, and under a new one adds that at the end. However a data file is read, its objects are made
by placing entries one after the other, so a key that a file repeats is listed once.
-/

namespace Stencil

namespace Fields

theorem keys_insert (fields : Fields) (key : String) (value : Value) :
    (fields.insert key value).keys =
      if key ∈ fields.keys then fields.keys else fields.keys ++ [key] := by
  by_cases known : key ∈ fields.keys
  · rw [if_pos known]
    induction fields with
    | nil => cases known
    | cons entry rest ih =>
        obtain ⟨first, held⟩ := entry
        rw [insert]
        by_cases same : first = key
        · rw [if_pos same]
          rfl
        · rw [if_neg same]
          have later : key ∈ keys rest :=
            (List.mem_cons.mp known).resolve_left fun equal => same equal.symm
          exact congrArg (first :: ·) (ih later)
  · rw [if_neg known, insert_absent known, keys, List.map_append]
    rfl

theorem nodup_insert {fields : Fields} (distinct : fields.keys.Nodup) (key : String)
    (value : Value) : (fields.insert key value).keys.Nodup := by
  rw [keys_insert]
  split
  · exact distinct
  · rename_i absent
    exact List.Nodup.append distinct (List.nodup_singleton key) (List.disjoint_singleton.mpr absent)

theorem nodup_overlay {base : Fields} (distinct : base.keys.Nodup) (top : Fields) :
    (base.overlay top).keys.Nodup := by
  unfold overlay
  induction top generalizing base with
  | nil => exact distinct
  | cons entry rest ih => exact ih (nodup_insert distinct entry.1 entry.2)

/-- The keys that are new follow the others, in the order in which they first come. -/
theorem keys_overlay (base top : Fields) :
    (base.overlay top).keys =
      base.keys ++ (top.keys.filter fun key => key ∉ base.keys).eraseDups := by
  unfold overlay
  induction top generalizing base with
  | nil => exact (List.append_nil base.keys).symm
  | cons entry rest ih =>
      obtain ⟨key, value⟩ := entry
      rw [List.foldl_cons, ih, keys_insert]
      change _ = base.keys ++ ((key :: keys rest).filter fun key => key ∉ base.keys).eraseDups
      by_cases known : key ∈ base.keys
      · rw [if_pos known, List.filter_cons_of_neg (by simpa using known)]
      · rw [if_neg known, List.filter_cons_of_pos (by simpa using known), List.eraseDups_cons,
          List.filter_filter, List.append_assoc, List.singleton_append]
        have apart : (fun other => decide (other ∉ base.keys ++ [key])) =
            fun other => !other == key && decide (other ∉ base.keys) := by
          funext other
          by_cases same : other = key <;> simp [same]
        rw [apart]

end Fields

theorem sort_by_key_ascends {α : Type} (entries : List (String × α)) :
    ((sortByKey entries).map Prod.fst).Pairwise (· < ·) := by
  have grown : ∀ sorted : List (String × α), (sorted.map Prod.fst).Pairwise (· < ·) →
      ((entries.foldl (fun sorted entry => insertSorted entry.1 entry.2 sorted) sorted).map
        Prod.fst).Pairwise (· < ·) := by
    induction entries with
    | nil => exact fun _ ascends => ascends
    | cons entry rest ih =>
        exact fun _ ascends => ih _ (insert_sorted_ascends entry.1 entry.2 ascends)
  exact grown [] .nil

def Value.Keyed : Value → Prop
  | .object fields => (Fields.keys fields).Nodup
  | _ => True

theorem Value.keyed_of_list (entries : Fields) : Keyed (.object (Fields.ofList entries)) :=
  @Fields.nodup_overlay [] List.nodup_nil entries

theorem Value.keyed_sort_by_key (entries : Fields) : Keyed (.object (sortByKey entries)) :=
  (sort_by_key_ascends entries).imp String.ne_of_lt

def ReadsKeyed {Rest : Type} (outcome : Option (Value × Rest)) : Prop :=
  ∀ value rest, outcome = some (value, rest) → value.Keyed

section

variable {α Rest : Type}

theorem ReadsKeyed.nothing : ReadsKeyed (none : Option (Value × Rest)) := nofun

theorem ReadsKeyed.found {value : Value} (keyed : value.Keyed) (rest : Rest) :
    ReadsKeyed (some (value, rest)) := by
  intro other later same
  cases same
  exact keyed

theorem ReadsKeyed.bind {first : Option α} {next : α → Option (Value × Rest)}
    (follows : ∀ result, first = some result → ReadsKeyed (next result)) :
    ReadsKeyed (first >>= next) := by
  cases first with
  | none => exact ReadsKeyed.nothing
  | some result => exact follows result rfl

end

theorem Json.read_value_keyed (fuel depth : Nat) (input : List Char) :
    ReadsKeyed (readValue fuel depth input) := by
  cases fuel with
  | zero => exact .nothing
  | succ fuel =>
      simp only [readValue]
      split
      · exact .nothing
      · split
        · exact .bind fun _ _ => .found (by trivial) _
        · split
          · split
            · exact .nothing
            · split
              · exact .found (by trivial) _
              · exact .bind fun _ _ => .found (by trivial) _
          · split
            · split
              · exact .nothing
              · split
                · exact .found (by exact List.nodup_nil) _
                · exact .bind fun _ _ => .found (Value.keyed_of_list _) _
            · split
              · exact .bind fun _ _ => .found (by trivial) _
              · split
                · exact .bind fun _ _ => .found (by trivial) _
                · split
                  · exact .bind fun _ _ => .found (by trivial) _
                  · exact .bind fun _ _ => .found (by trivial) _

namespace Yaml

theorem float?_keyed {chars : List Char} {value : Value} (read : float? chars = some value) :
    value.Keyed := by
  unfold float? at read
  extract_lets unsigned doubled infinite unknown at read
  split at read
  · cases read
  · split at read
    · cases read
      trivial
    · cases scanned : Numeral.scan unsigned with
      | mk numeral rest =>
          rw [scanned] at read
          dsimp only at read
          split at read
          · cases read
          · obtain ⟨x, _, rfl⟩ := Option.map_eq_some_iff.mp read
            trivial

theorem plain?_keyed {text : String} {value : Value} (read : plain? text = some value) :
    value.Keyed := by
  simp only [plain?] at read
  split at read
  · cases read
    trivial
  · split at read
    · cases read
      trivial
    · split at read
      · obtain ⟨n, _, rfl⟩ := Option.map_eq_some_iff.mp read
        trivial
      · split at read
        · rename_i found
          cases read
          split at found
          · cases found
          · exact float?_keyed found
        · cases read
          trivial

theorem scalar?_keyed {tag : Option String} {text : String} {isPlain : Bool} {value : Value}
    (read : scalar? tag text isPlain = some value) : value.Keyed := by
  unfold scalar? at read
  split at read
  · split at read
    · exact plain?_keyed read
    · cases read
      trivial
  · split at read
    · cases read
      trivial
    · cases read
  · obtain ⟨b, _, rfl⟩ := Option.map_eq_some_iff.mp read
    trivial
  · obtain ⟨whole, _, fits⟩ := Option.bind_eq_some_iff.mp read
    obtain ⟨n, _, same⟩ := Option.bind_eq_some_iff.mp fits
    cases same
    trivial
  · exact float?_keyed read
  · split at read
    · cases read
    · cases read
      trivial

theorem Anchors.follow_keyed (anchors : Anchors) (id : Nat) (here : Place)
    {read : Place → Option (Value × Place)} (keyed : ∀ target, ReadsKeyed (read target)) :
    ReadsKeyed (anchors.follow id here read) := by
  unfold follow
  split
  · exact .nothing
  · exact .bind fun events _ => .bind fun result found => .found (keyed _ _ _ found) _

/-- By induction on the levels that are left, of which an alias takes one. -/
theorem value?_keyed (anchors : Anchors) (fuel depth : Nat) (here : Place) :
    ReadsKeyed (value? anchors fuel depth here) := by
  induction fuel generalizing here with
  | zero => exact .nothing
  | succ fuel ih =>
      simp only [value?]
      split
      · exact .nothing
      · exact .nothing
      · exact anchors.follow_keyed _ _ ih
      · exact .bind fun _ found => .found (scalar?_keyed found) _
      · split
        · exact .bind fun _ _ => .found (by trivial) _
        · exact .nothing
      · split
        · exact .bind fun _ _ => .found (Value.keyed_of_list _) _
        · exact .nothing

theorem parse?_keyed {text : String} {value : Value} (parsed : parse? text = some value) :
    value.Keyed := by
  obtain ⟨tokens, _, parsed⟩ := Option.bind_eq_some_iff.mp parsed
  obtain ⟨events, _, parsed⟩ := Option.bind_eq_some_iff.mp parsed
  obtain ⟨numbered, _, parsed⟩ := Option.bind_eq_some_iff.mp parsed
  split at parsed
  · cases parsed
    trivial
  · obtain ⟨⟨found, left⟩, read, same⟩ := Option.bind_eq_some_iff.mp parsed
    cases same
    exact value?_keyed _ _ _ _ value left read

end Yaml

theorem Json.parse?_keyed {text : String} {value : Value} (parsed : parse? text = some value) :
    value.Keyed := by
  simp only [parse?] at parsed
  split at parsed
  · rename_i found rest read
    split at parsed
    · cases parsed
      exact read_value_keyed _ _ _ value rest read
    · cases parsed
  · cases parsed

theorem Toml.parse?_keyed {text : String} {value : Value} (parsed : parse? text = some value) :
    value.Keyed := by
  obtain ⟨entries, _, same⟩ := Option.bind_eq_some_iff.mp parsed
  cases same
  rw [Item.close]
  exact Value.keyed_sort_by_key _

/-- An object in a data file lists every key once. -/
theorem DataFormat.parse?_keyed {format : DataFormat} {text : String} {value : Value}
    (parsed : format.parse? text = some value) : value.Keyed := by
  cases format with
  | json => exact Json.parse?_keyed parsed
  | toml => exact Toml.parse?_keyed parsed
  | yaml => exact Yaml.parse?_keyed parsed

end Stencil
