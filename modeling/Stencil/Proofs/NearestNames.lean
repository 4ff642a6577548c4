import Mathlib.Data.List.Sort
import Stencil.Proofs.EditDistance
import Stencil.Proofs.MadeRegistry
import Stencil.Proofs.Rendering

/-!
Which names are suggested for one that is not registered. The registered names that are near
enough are ranked by their edit distance and, where that is equal, by their bytes, and the first
three are suggested. How the registry was made does not matter. The limit is half of the length
in bytes while the distance counts characters, so for a name with longer characters it is not
half of the name.
-/

namespace Stencil

/-- Sorting by distance keeps the order of the names among equally distant ones. -/
theorem merge_sort_ranked {entries : List (String × Nat)}
    (ascends : (entries.map Prod.fst).Pairwise (· < ·)) :
    (entries.mergeSort fun a b => a.2 ≤ b.2).Pairwise fun a b =>
      a.2 < b.2 ∨ a.2 = b.2 ∧ a.1 < b.1 := by
  have transitive : ∀ a b c : String × Nat, decide (a.2 ≤ b.2) = true →
      decide (b.2 ≤ c.2) = true → decide (a.2 ≤ c.2) = true := by
    intro a b c first second
    simp only [decide_eq_true_eq] at first second ⊢
    omega
  have total : ∀ a b : String × Nat, (decide (a.2 ≤ b.2) || decide (b.2 ≤ a.2)) = true := by
    intro a b
    simp only [Bool.or_eq_true, decide_eq_true_eq]
    omega
  induction entries with
  | nil =>
      rw [List.mergeSort_nil]
      exact .nil
  | cons entry rest ih =>
      obtain ⟨first, later⟩ := List.pairwise_cons.mp ascends
      have sorted := List.pairwise_mergeSort transitive total (entry :: rest)
      obtain ⟨before, after, placed, split, greater⟩ :=
        List.mergeSort_cons transitive total entry rest
      have ranked := ih later
      rw [split, List.pairwise_append] at ranked
      rw [placed] at sorted ⊢
      obtain ⟨rankedBefore, rankedAfter, across⟩ := ranked
      obtain ⟨_, sortedAfter, _⟩ := List.pairwise_append.mp sorted
      have entryFirst : ∀ other ∈ after,
          entry.2 < other.2 ∨ entry.2 = other.2 ∧ entry.1 < other.1 := by
        intro other member
        have atMost : entry.2 ≤ other.2 := by
          simpa using (List.pairwise_cons.mp sortedAfter).1 other member
        have inRest : other ∈ rest := by
          have inSorted : other ∈ rest.mergeSort fun a b => a.2 ≤ b.2 := by
            rw [split]
            exact List.mem_append_right before member
          exact List.mem_mergeSort.mp inSorted
        have named := first other.1 (List.mem_map.mpr ⟨other, inRest, rfl⟩)
        rcases Nat.lt_or_eq_of_le atMost with less | same
        · exact .inl less
        · exact .inr ⟨same, named⟩
      apply List.pairwise_append.mpr
      refine ⟨rankedBefore, List.pairwise_cons.mpr ⟨entryFirst, rankedAfter⟩, ?_⟩
      intro one inBefore other member
      rcases List.mem_cons.mp member with same | inAfter
      · rw [same]
        left
        simpa using greater one inBefore
      · exact across one inBefore other inAfter

/-- Of two names the first is nearer to a given one, or as near and before the other. -/
def Nearer (name one other : String) : Prop :=
  editDistance name.toList one.toList < editDistance name.toList other.toList ∨
    editDistance name.toList one.toList = editDistance name.toList other.toList ∧
      utf8Bytes one < utf8Bytes other

instance (name one other : String) : Decidable (Nearer name one other) :=
  inferInstanceAs (Decidable (_ ∨ _))

/-- The names from which suggestions are taken, the nearest first. -/
def rankedNames (name : String) (known : List String) : List String :=
  (((known.map fun other => (other, editDistance name.toList other.toList)).mergeSort
      fun a b => a.2 ≤ b.2).filter fun entry => entry.2 ≤ name.utf8ByteSize * 50 / 100).map Prod.fst

theorem suggestions_for_eq (name : String) (known : List String) :
    suggestionsFor name known = (rankedNames name known).take 3 := by
  rw [suggestionsFor, rankedNames, List.map_take]

theorem mem_ranked_names (name other : String) (known : List String) :
    other ∈ rankedNames name known ↔
      other ∈ known ∧ editDistance name.toList other.toList ≤ name.utf8ByteSize / 2 := by
  have half : name.utf8ByteSize * 50 / 100 = name.utf8ByteSize / 2 := by omega
  simp only [rankedNames, half, List.mem_map, List.mem_filter, List.mem_mergeSort,
    decide_eq_true_eq]
  constructor
  · rintro ⟨_, ⟨⟨near, member, rfl⟩, close⟩, rfl⟩
    exact ⟨member, close⟩
  · rintro ⟨member, close⟩
    exact ⟨_, ⟨⟨other, member, rfl⟩, close⟩, rfl⟩

theorem ranked_names_ordered (name : String) {known : List String}
    (ascends : known.Pairwise (· < ·)) : (rankedNames name known).Pairwise (Nearer name) := by
  let scored := known.map fun other => (other, editDistance name.toList other.toList)
  have names : scored.map Prod.fst = known := by
    rw [List.map_map]
    exact List.map_id' known
  have ranked := merge_sort_ranked (names.symm ▸ ascends)
  have scores : ∀ entry ∈ scored.mergeSort (fun a b => a.2 ≤ b.2),
      entry.2 = editDistance name.toList entry.1.toList := by
    intro entry member
    obtain ⟨other, _, rfl⟩ := List.mem_map.mp (List.mem_mergeSort.mp member)
    rfl
  have nearer : (scored.mergeSort fun a b => a.2 ≤ b.2).Pairwise fun one other =>
      Nearer name one.1 other.1 := by
    apply ranked.imp_of_mem
    intro one other inOne inOther order
    rw [Nearer, ← scores one inOne, ← scores other inOther, ← lt_iff_bytes_lt]
    exact order
  exact List.pairwise_map.mpr (nearer.filter _)

theorem Nearer.apart {name one other : String} (nearer : Nearer name one other) : one ≠ other := by
  rintro rfl
  rcases nearer with less | ⟨_, less⟩
  · exact Nat.lt_irrefl _ less
  · exact List.lt_irrefl _ less

/-- A ranking is the only one of its names. -/
theorem ranking_unique {name : String} {ranked again : List String}
    (ordered : ranked.Pairwise (Nearer name)) (reordered : again.Pairwise (Nearer name))
    (same : ∀ other, other ∈ ranked ↔ other ∈ again) : ranked = again := by
  have irreflexive : Std.Irrefl (Nearer name) := ⟨fun _ nearer => nearer.apart rfl⟩
  have antisymmetric : Std.Antisymm (Nearer name) := by
    constructor
    intro one other nearer further
    rcases nearer with less | ⟨equal, less⟩ <;> rcases further with more | ⟨_, more⟩
    · omega
    · omega
    · omega
    · exact absurd more (List.lt_asymm less)
  exact ordered.eq_of_mem_iff reordered same

/-- What is not among the first of a ranking comes after all that is. -/
theorem nearer_than_rest {name other : String} {ranked : List String} {count : Nat}
    (ordered : ranked.Pairwise (Nearer name)) (member : other ∈ ranked)
    (unlisted : other ∉ ranked.take count) : ∀ listed ∈ ranked.take count,
    Nearer name listed other := by
  intro listed inFirst
  rw [← List.take_append_drop count ranked] at ordered member
  have inRest := (List.mem_append.mp member).resolve_left unlisted
  exact (List.pairwise_append.mp ordered).2.2 listed inFirst other inRest

theorem Registry.Made.names_eq {registry again : Registry} (made : registry.Made)
    (remade : again.Made) (same : ∀ name, again.contains name = registry.contains name) :
    again.names = registry.names := by
  have members : ∀ name, name ∈ again.names ↔ name ∈ registry.names := by
    intro name
    rw [← Registry.contains_iff, ← Registry.contains_iff, same name]
  have irreflexive : Std.Irrefl fun one other : String => one < other := ⟨String.lt_irrefl⟩
  have antisymmetric : Std.Antisymm fun one other : String => one < other :=
    ⟨fun _ _ less more => absurd more (String.lt_asymm less)⟩
  exact remade.ascends.eq_of_mem_iff made.ascends members

/-- A call of a name that is not registered fails and suggests the first three of the registered
names that are near enough, the nearest first and equally near ones by their bytes. So each
suggestion is registered and none is there twice, every near name that is left out comes after
those that are listed, and another registry of the same names suggests the same. -/
theorem missing_name_suggests_nearest (registry : Registry) (made : registry.Made) (name : String)
    (absent : registry.contains name = false) :
    ∃ ranked : List String,
      (∀ args, registry.call name args = .fail (.missingFunction name (ranked.take 3))) ∧
      (∀ (template : Template) (around : Surroundings) (context : Context) (args : List Value),
        template.functions = registry → (template.bindings around context).invoke name args =
          throw (.missingFunction name (ranked.take 3))) ∧
      (∀ other : String, IsLeast {count | Edits count name.toList other.toList}
        (editDistance name.toList other.toList)) ∧
      (∀ other : String, other ∈ ranked ↔ registry.contains other = true ∧
        editDistance name.toList other.toList ≤ name.utf8ByteSize / 2) ∧
      ranked.Pairwise (Nearer name) ∧
      (∀ other ∈ ranked.take 3, registry.contains other = true) ∧
      (ranked.take 3).Nodup ∧
      (∀ other ∈ ranked, other ∉ ranked.take 3 → ∀ listed ∈ ranked.take 3,
        Nearer name listed other) ∧
      ∀ again : Registry, again.Made →
        (∀ other, again.contains other = registry.contains other) →
        ∀ args, again.call name args = registry.call name args := by
  have ordered := ranked_names_ordered name made.ascends
  have members : ∀ other : String, other ∈ rankedNames name registry.names ↔
      registry.contains other = true ∧
        editDistance name.toList other.toList ≤ name.utf8ByteSize / 2 := by
    intro other
    rw [mem_ranked_names, registry.contains_iff]
  have suggested : registry.missing name =
      .missingFunction name ((rankedNames name registry.names).take 3) := by
    rw [Registry.missing, suggestions_for_eq]
  refine ⟨rankedNames name registry.names, ?_, ?_, ?_, members, ordered, ?_, ?_, ?_, ?_⟩
  · intro args
    rw [Registry.call_absent absent, suggested]
  · intro template around context args own
    have unbound : registry.find? name = none := by
      simpa [Registry.contains] using absent
    change callNamed around template.functions name args _ = _
    rw [call_named_found, own, unbound, suggested]
  · exact fun other => edit_distance_least name.toList other.toList
  · exact fun other listed => ((members other).mp (List.mem_of_mem_take listed)).1
  · exact (ordered.sublist (List.take_sublist 3 _)).imp Nearer.apart
  · exact fun other member unlisted => nearer_than_rest ordered member unlisted
  · intro again remade same args
    have names := made.names_eq remade same
    have missing : again.contains name = false := (same name).trans absent
    rw [Registry.call_absent absent, Registry.call_absent missing, Registry.missing,
      Registry.missing, names]

def rhymes : Registry :=
  ["rat", "dog", "cat", "hat", "bat"].foldl
    (fun grown name => Registry.register grown name fun _ => .done (.string name)) Registry.empty

theorem rhymes_made : rhymes.Made := by
  refine .register (.register (.register (.register (.register .empty _ _) _ _) _ _) _ _) _ _

/-- The four are equally near, so the first three by name are suggested. -/
theorem missing_name_suggests_nearest_rhyme :
    (rhymes.Made ∧ rhymes.contains "mat" = false) ∧
    ∃ ranked : List String,
      (∀ args, rhymes.call "mat" args = .fail (.missingFunction "mat" (ranked.take 3))) ∧
      ranked.take 3 = ["bat", "cat", "hat"] ∧ ranked.Pairwise (Nearer "mat") := by
  have absent : rhymes.contains "mat" = false := by decide +kernel
  obtain ⟨ranked, called, _, _, members, ordered, _⟩ :=
    missing_name_suggests_nearest rhymes rhymes_made "mat" absent
  have names : rhymes.names = ["bat", "cat", "dog", "hat", "rat"] := by decide +kernel
  have reordered : ["bat", "cat", "hat", "rat"].Pairwise (Nearer "mat") := by decide +kernel
  have near : ∀ other ∈ rhymes.names,
      (editDistance "mat".toList other.toList ≤ "mat".utf8ByteSize / 2 ↔
        other ∈ ["bat", "cat", "hat", "rat"]) := by
    rw [names]
    simp only [List.forall_mem_cons]
    decide +kernel
  have within : ∀ other ∈ ["bat", "cat", "hat", "rat"], other ∈ rhymes.names := by
    rw [names]
    simp
  have same : ranked = ["bat", "cat", "hat", "rat"] := by
    apply ranking_unique ordered reordered
    intro other
    rw [members, rhymes.contains_iff]
    exact ⟨fun both => (near other both.1).mp both.2,
      fun listed => ⟨within other listed, (near other (within other listed)).mpr listed⟩⟩
  exact ⟨⟨rhymes_made, absent⟩, ranked, called, congrArg (List.take 3) same, ordered⟩

/-- A call of a name fails because it is not registered, and another name is suggested. -/
structure Registry.Suggests (registry : Registry) (name other : String) : Prop where
  made : registry.Made
  absent : registry.contains name = false
  listed : ∃ suggestions, other ∈ suggestions ∧
    ∀ args, registry.call name args = .fail (.missingFunction name suggestions)

theorem suggests_iff {registry : Registry} (made : registry.Made) (name other : String) :
    registry.Suggests name other ↔
      registry.contains name = false ∧ other ∈ suggestionsFor name registry.names := by
  constructor
  · rintro ⟨_, absent, suggestions, member, called⟩
    have failed := called []
    rw [Registry.call_absent absent, Registry.missing] at failed
    injection failed with fault
    injection fault with _ same
    exact ⟨absent, same ▸ member⟩
  · rintro ⟨absent, member⟩
    exact ⟨made, absent, _, member, Registry.call_absent absent⟩

theorem Registry.Suggests.near {registry : Registry} {name other : String}
    (suggests : registry.Suggests name other) :
    other ≠ name ∧ editDistance name.toList other.toList ≤ name.utf8ByteSize / 2 := by
  obtain ⟨absent, member⟩ := (suggests_iff suggests.made name other).mp suggests
  rw [suggestions_for_eq] at member
  obtain ⟨known, near⟩ := (mem_ranked_names name other _).mp (List.mem_of_mem_take member)
  refine ⟨?_, near⟩
  rintro rfl
  rw [(registry.contains_iff other).mpr known] at absent
  cases absent

/-- Every name within the limit is suggested by some registry. -/
theorem near_suggested {name other : String} (apart : other ≠ name)
    (near : editDistance name.toList other.toList ≤ name.utf8ByteSize / 2) :
    ∃ registry : Registry, registry.Suggests name other := by
  let registry := Registry.empty.register other fun _ => .done .null
  have made : registry.Made := .register .empty other _
  have names : registry.names = [other] := rfl
  refine ⟨registry, (suggests_iff made name other).mpr ⟨?_, ?_⟩⟩
  · rw [← Bool.not_eq_true, registry.contains_iff, names, List.mem_singleton]
    exact fun same => apart same.symm
  · have ranked : other ∈ rankedNames name [other] :=
      (mem_ranked_names name other [other]).mpr ⟨List.mem_singleton_self other, near⟩
    have single : (rankedNames name [other]).length ≤ 3 := by
      rw [rankedNames, List.length_map]
      have filtered := List.length_filter_le (fun entry => entry.2 ≤ name.utf8ByteSize * 50 / 100)
        (([other].map fun other => (other, editDistance name.toList other.toList)).mergeSort
          fun a b => a.2 ≤ b.2)
      rw [List.length_mergeSort, List.length_map, List.length_singleton] at filtered
      omega
    rw [names, suggestions_for_eq, List.take_of_length_le single]
    exact ranked

/-- Twice the distance of a suggestion is at most the number of bytes of the name. It is at most
the number of characters, whatever is registered, exactly if that has the same half. And every
suggestion has a character of the name exactly if there are fewer than two bytes to a character,
or none at all. -/
theorem suggestions_within_half_of_bytes (name : String) :
    (∀ (registry : Registry) (other : String), registry.Suggests name other →
      2 * editDistance name.toList other.toList ≤ name.utf8ByteSize) ∧
    ((∀ (registry : Registry) (other : String), registry.Suggests name other →
        2 * editDistance name.toList other.toList ≤ name.length) ↔
      name.utf8ByteSize / 2 ≤ name.length / 2) ∧
    ((∀ (registry : Registry) (other : String), registry.Suggests name other →
        ∃ c ∈ name.toList, c ∈ other.toList) ↔
      name = "" ∨ name.utf8ByteSize / 2 < name.length) := by
  refine ⟨?_, ⟨?_, ?_⟩, ⟨?_, ?_⟩⟩
  · intro registry other suggests
    have near := suggests.near.2
    omega
  · intro bounded
    by_cases short : name.utf8ByteSize / 2 = 0
    · omega
    · let more := List.replicate (name.utf8ByteSize / 2) 'x'
      let other := String.ofList (name.toList ++ more)
      have far : editDistance name.toList other.toList = name.utf8ByteSize / 2 := by
        rw [String.toList_ofList, edit_distance_append, List.length_replicate]
      have apart : other ≠ name := by
        intro same
        rw [same, (edit_distance_least name.toList name.toList).unique
          ⟨.none name.toList, fun _ _ => Nat.zero_le _⟩] at far
        exact short far.symm
      obtain ⟨registry, suggests⟩ := near_suggested apart far.le
      have bound := bounded registry other suggests
      omega
  · intro half registry other suggests
    have near := suggests.near.2
    omega
  · intro shared
    by_cases empty : name = ""
    · exact .inl empty
    · right
      by_contra long
      have whole : editDistance name.toList "".toList = name.length := by
        rw [String.toList_empty, edit_distance_nil, String.length_toList]
      obtain ⟨registry, suggests⟩ :=
        near_suggested (Ne.symm empty) (whole.trans_le (not_lt.mp long))
      obtain ⟨c, _, inside⟩ := shared registry "" suggests
      cases inside
  · intro short registry other suggests
    obtain ⟨apart, near⟩ := suggests.near
    by_contra unshared
    have disjoint : ∀ c ∈ name.toList, c ∉ other.toList :=
      fun c inName inOther => unshared ⟨c, inName, inOther⟩
    have far := length_le_edit_distance disjoint
    rw [String.length_toList] at far
    rcases short with rfl | less
    · have grown := (edits_edit_distance "".toList other.toList).length_le
      have nothing : other.toList.length = 0 := by
        rw [String.toList_empty, List.length_nil, Nat.zero_add] at grown
        exact Nat.le_zero.mp (grown.trans near)
      exact apart (String.toList_eq_nil_iff.mp (List.eq_nil_of_length_eq_zero nothing))
    · omega

/-- For a name of one accented letter a name of one other letter is suggested. -/
theorem accented_name_suggests_unlike :
    (Registry.empty.register "x" fun _ => .done .null).Suggests "é" "x" ∧
    "é".length < 2 * editDistance "é".toList "x".toList ∧
    ∀ c ∈ "é".toList, c ∉ "x".toList := by
  refine ⟨(suggests_iff (.register .empty _ _) "é" "x").mpr ⟨?_, ?_⟩, ?_, ?_⟩
  · decide +kernel
  · decide +kernel
  · decide +kernel
  · intro c accented plain
    have unlike : 'é' ≠ 'x' := by decide
    exact unlike ((List.mem_singleton.mp accented).symm.trans (List.mem_singleton.mp plain))

end Stencil
