import Mathlib.Data.List.TakeWhile
import Stencil.Path

/-!
The names on a path. Slashes and single dots between them do not count, and neither do those at
the end. The parent of a path has the same names but for the last, begins alike, is shorter, and
has no slash or dot left over at its end.
-/

namespace Stencil.Path

def isName (segment : String) : Bool := segment != "" && segment != "."

theorem some_of_is_name {segment : String} (named : isName segment = true) : segment ≠ "" := by
  rintro rfl
  cases named

/-- The segments that are followed, in order. -/
def names (path : String) : List String := (segments path).filter isName

theorem some_of_names {path : String} (named : names path ≠ []) : path ≠ "" := by
  rintro rfl
  have blank : names "" = [] := by decide
  exact named blank

/-- Nothing comes after the last name. -/
def EndsInName (path : String) : Prop :=
  ∃ before name, segments path = before ++ [name] ∧ isName name = true

theorem is_name_of_list (chars : List Char) :
    isName (String.ofList chars) = true ↔ chars ≠ [] ∧ chars ≠ ['.'] := by
  have dot : String.ofList chars = "." ↔ chars = ['.'] := String.ofList_inj
  rw [isName, Bool.and_eq_true, bne_iff_ne, bne_iff_ne, Ne, Ne, String.ofList_eq_empty_iff, dot]

theorem split_on_eq (separator : Char) (chars : List Char) :
    splitOn separator chars = chars.splitOn separator := by
  induction chars with
  | nil => rfl
  | cons c rest ih =>
      rw [splitOn, List.splitOn_cons_eq_if_modifyHead, ih]
      by_cases same : c = separator
      · rw [if_pos same, if_pos (beq_iff_eq.mpr same)]
      · rw [if_neg same, if_neg (fun equal => same (beq_iff_eq.mp equal))]
        cases split : rest.splitOn separator with
        | nil => exact absurd split (List.splitOn_ne_nil separator rest)
        | cons part parts => rfl

/-- A slash stands between two paths and belongs to neither. -/
theorem segments_slash (before after : List Char) :
    segments (String.ofList (before ++ '/' :: after)) =
      segments (String.ofList before) ++ segments (String.ofList after) := by
  simp only [segments, String.toList_ofList, split_on_eq]
  rw [List.splitOn_append_cons_self, List.map_append]

theorem segments_part {part : List Char} (plain : '/' ∉ part) :
    segments (String.ofList part) = [String.ofList part] := by
  rw [segments, String.toList_ofList, split_on_eq, List.splitOn_eq_singleton plain]
  rfl

theorem names_slash (before after : List Char) :
    names (String.ofList (before ++ '/' :: after)) =
      names (String.ofList before) ++ names (String.ofList after) := by
  rw [names, segments_slash, List.filter_append]
  rfl

theorem no_slash_of_mem_split_on {chars part : List Char} (member : part ∈ splitOn '/' chars) :
    '/' ∉ part := by
  induction chars generalizing part with
  | nil =>
      rw [List.mem_singleton.mp member]
      exact List.not_mem_nil
  | cons c rest ih =>
      rw [splitOn] at member
      split at member
      · rcases List.mem_cons.mp member with rfl | later
        · exact List.not_mem_nil
        · exact ih later
      · rename_i other
        split at member
        · rw [List.mem_singleton.mp member, List.mem_singleton]
          exact Ne.symm other
        · rename_i head parts first
          rw [first] at ih
          rcases List.mem_cons.mp member with rfl | later
          · rw [List.mem_cons, not_or]
            exact ⟨Ne.symm other, ih List.mem_cons_self⟩
          · exact ih (List.mem_cons_of_mem head later)

theorem root_not_mem_names (path : String) : "/" ∉ names path := by
  intro member
  obtain ⟨part, inside, same⟩ := List.mem_map.mp (List.mem_filter.mp member).1
  have slash : part = ['/'] := String.ofList_inj.mp same
  rw [slash] at inside
  exact no_slash_of_mem_split_on inside List.mem_cons_self

/-- Trimming takes no name away. -/
theorem names_trim_end (fuel : Nat) (reversed : List Char) :
    names (String.ofList (trimEnd fuel reversed).reverse) =
      names (String.ofList reversed.reverse) := by
  fun_induction trimEnd fuel reversed with
  | case1 reversed => rfl
  | case2 fuel c rest ih =>
      rw [ih, List.reverse_cons (a := '/'), names_slash]
      exact (List.append_nil _).symm
  | case3 fuel c rest ih =>
      rw [ih, List.reverse_cons (a := '.'), List.reverse_cons (a := '/'), List.append_assoc]
      exact ((names_slash _ _).trans (List.append_nil _)).symm
  | case4 fuel => rfl
  | case5 fuel reversed => rfl

theorem get_last_trim_end (fuel : Nat) (reversed : List Char) :
    (trimEnd fuel reversed).getLast? = reversed.getLast? := by
  fun_induction trimEnd fuel reversed with
  | case1 reversed => rfl
  | case2 fuel c rest ih => rw [ih, List.getLast?_cons_cons]
  | case3 fuel c rest ih => rw [ih, List.getLast?_cons_cons, List.getLast?_cons_cons]
  | case4 fuel => rfl
  | case5 fuel reversed => rfl

theorem length_trim_end (fuel : Nat) (reversed : List Char) :
    (trimEnd fuel reversed).length ≤ reversed.length := by
  fun_induction trimEnd fuel reversed with
  | case1 reversed => exact Nat.le_refl _
  | case2 fuel c rest ih => exact Nat.le_succ_of_le ih
  | case3 fuel c rest ih => exact Nat.le_succ_of_le (Nat.le_succ_of_le ih)
  | case4 fuel => decide
  | case5 fuel reversed => exact Nat.le_refl _

/-- A reversed path at the end of which nothing is left to trim. -/
inductive Trimmed : List Char → Prop
  | nothing : Trimmed []
  | root : Trimmed ['/']
  | here : Trimmed ['.']
  | name (part left : List Char) (plain : '/' ∉ part)
      (named : isName (String.ofList part.reverse) = true)
      (apart : left = [] ∨ ∃ more, left = '/' :: more) : Trimmed (part ++ left)

theorem drop_while_apart (chars : List Char) :
    chars.dropWhile (· != '/') = [] ∨ ∃ more, chars.dropWhile (· != '/') = '/' :: more := by
  induction chars with
  | nil => exact .inl rfl
  | cons c rest ih =>
      by_cases slash : c = '/'
      · subst slash
        exact .inr ⟨rest, rfl⟩
      · rw [List.dropWhile_cons, if_pos (bne_iff_ne.mpr slash)]
        exact ih

/-- Every other path has a name before the slash that comes first. -/
theorem trimmed_of_apart {part left : List Char} (plain : '/' ∉ part) (some : part ≠ [])
    (apart : left = [] ∨ ∃ more, left = '/' :: more)
    (dotted : part = ['.'] → left = []) : Trimmed (part ++ left) := by
  by_cases dot : part = ['.']
  · rw [dotted dot, dot]
    exact .here
  · refine .name part left plain ((is_name_of_list _).mpr ⟨?_, ?_⟩) apart
    · exact fun none => some (List.reverse_eq_nil_iff.mp none)
    · intro same
      have dotted : part = ['.'].reverse := List.reverse_eq_iff.mp same
      exact dot dotted

theorem trimmed_trim_end (fuel : Nat) (reversed : List Char) (enough : reversed.length ≤ fuel) :
    Trimmed (trimEnd fuel reversed) := by
  fun_induction trimEnd fuel reversed with
  | case1 reversed =>
      rw [List.length_eq_zero_iff.mp (Nat.le_zero.mp enough)]
      exact .nothing
  | case2 fuel c rest ih => exact ih (Nat.le_of_succ_le_succ enough)
  | case3 fuel c rest ih => exact ih (by simp only [List.length_cons] at enough ⊢; omega)
  | case4 fuel => exact .root
  | case5 fuel reversed slash dot root =>
      cases reversed with
      | nil => exact .nothing
      | cons c rest =>
          by_cases first : c = '/'
          · subst first
            cases rest with
            | nil => exact .root
            | cons d rest => exact absurd rfl (slash d rest)
          · have whole := List.takeWhile_append_dropWhile (p := (· != '/')) (l := rest)
            have apart := drop_while_apart rest
            have plain : '/' ∉ c :: rest.takeWhile (· != '/') := by
              rw [List.mem_cons, not_or]
              refine ⟨Ne.symm first, ?_⟩
              exact fun member => absurd (List.mem_takeWhile_imp member) (by decide)
            generalize rest.takeWhile (· != '/') = part at whole plain
            generalize rest.dropWhile (· != '/') = left at whole apart
            subst whole
            refine trimmed_of_apart plain nofun apart ?_
            intro dotted
            cases dotted
            rcases apart with none | ⟨more, rfl⟩
            · exact none
            · cases more with
              | nil => exact absurd rfl root
              | cons d more => exact absurd rfl (dot d more)

theorem segments_named {part left : List Char} (plain : '/' ∉ part)
    (apart : left = [] ∨ ∃ more, left = '/' :: more) :
    ∃ before, segments (String.ofList (part ++ left).reverse) =
        before ++ [String.ofList part.reverse] ∧
      before.filter isName = names (String.ofList left.reverse) := by
  have whole : segments (String.ofList part.reverse) = [String.ofList part.reverse] :=
    segments_part fun member => plain (List.mem_reverse.mp member)
  rcases apart with rfl | ⟨more, rfl⟩
  · exact ⟨[], by rw [List.append_nil, whole]; rfl, rfl⟩
  · refine ⟨segments (String.ofList more.reverse), ?_, ?_⟩
    · rw [List.reverse_append, List.reverse_cons, List.append_assoc, List.singleton_append,
        segments_slash, whole]
    · rw [List.reverse_cons, names_slash]
      exact (List.append_nil _).symm

theorem is_absolute_eq (path : String) :
    isAbsolute path = (path.toList.reverse.getLast? == some '/') := by
  rw [isAbsolute, List.getLast?_reverse]

structure IsParent (above path : String) : Prop where
  names : names above = (names path).dropLast
  absolute : isAbsolute above = isAbsolute path
  shorter : above.length < path.length
  trimmed : Trimmed above.toList.reverse

theorem IsParent.child_some {above path : String} (isParent : IsParent above path) : path ≠ "" := by
  rintro rfl
  exact absurd isParent.shorter (Nat.not_lt_zero _)

/-- What stands before the last name, or nothing, is the parent. -/
theorem is_parent_named {path : String} {part left : List Char} (fuel : Nat)
    (enough : left.length ≤ fuel) (plain : '/' ∉ part)
    (named : isName (String.ofList part.reverse) = true)
    (apart : left = [] ∨ ∃ more, left = '/' :: more)
    (kept : names path = names (String.ofList (part ++ left).reverse))
    (first : path.toList.reverse.getLast? = (part ++ left).getLast?)
    (shorter : (part ++ left).length ≤ path.length) :
    IsParent (String.ofList (trimEnd fuel left).reverse) path where
  names := by
    obtain ⟨before, split, same⟩ := segments_named plain apart
    rw [names_trim_end, kept, ← same, Path.names, split, List.filter_append,
      List.filter_cons_of_pos named, List.filter_nil, List.dropLast_concat]
  absolute := by
    rw [is_absolute_eq, is_absolute_eq, first, String.toList_ofList, List.reverse_reverse,
      get_last_trim_end, List.getLast?_append]
    rcases apart with rfl | ⟨more, rfl⟩
    · have other : part.getLast? ≠ some '/' := fun last => plain (List.mem_of_getLast? last)
      rw [List.getLast?_nil, Option.none_or, beq_eq_false_iff_ne.mpr other]
      rfl
    · rw [List.getLast?_cons]
      rfl
  shorter := by
    have some : 0 < part.length := by
      rw [← List.length_reverse]
      exact List.length_pos_iff.mpr ((is_name_of_list _).mp named).1
    have trimmed := length_trim_end fuel left
    rw [String.length_ofList, List.length_reverse]
    rw [List.length_append] at shorter
    omega
  trimmed := by
    rw [String.toList_ofList, List.reverse_reverse]
    exact trimmed_trim_end fuel left enough

theorem parent_is_parent {path above : String} (found : parent? path = some above) :
    IsParent above path := by
  unfold parent? at found
  split at found
  · cases found
  · cases found
  · rename_i last relative known
    have enough : path.toList.reverse.length ≤ path.length := by
      rw [List.length_reverse, String.length_toList]
    have trimmed := trimmed_trim_end path.length path.toList.reverse enough
    have kept := names_trim_end path.length path.toList.reverse
    have first := get_last_trim_end path.length path.toList.reverse
    have shorter := (length_trim_end path.length path.toList.reverse).trans enough
    rw [List.reverse_reverse, String.ofList_toList] at kept
    generalize trimEnd path.length path.toList.reverse = reversed at *
    cases trimmed with
    | nothing =>
        have blank : path.toList = [] :=
          List.reverse_eq_nil_iff.mp (List.getLast?_eq_none_iff.mp first.symm)
        rw [String.toList_eq_nil_iff.mp blank] at known
        have nowhere : (parts "").getLast? = none := by decide
        cases nowhere.symm.trans known
    | root =>
        have absolute : isAbsolute path = true := by
          rw [is_absolute_eq, ← first]
          rfl
        have single : parts path = ["/"] := by
          have split : parts path = "/" :: names path := if_pos absolute
          rw [split, ← kept]
          rfl
        rw [single] at known
        cases known
        exact absurd rfl relative
    | here =>
        have nothing : trimEnd path.length (List.dropWhile (· != '/') ['.']) = [] :=
          List.length_eq_zero_iff.mp (Nat.le_zero.mp (length_trim_end path.length []))
        dsimp only at found
        rw [nothing] at found
        cases found
        refine ⟨?_, ?_, shorter, .nothing⟩
        · rw [← kept]
          rfl
        · rw [is_absolute_eq path, ← first]
          rfl
    | name part left plain named apart =>
        cases found
        have other : ∀ c ∈ part, (c != '/') = true := by
          intro c member
          rw [bne_iff_ne]
          rintro rfl
          exact plain member
        have rest : (part ++ left).dropWhile (· != '/') = left := by
          rw [List.dropWhile_append_of_pos other]
          rcases apart with rfl | ⟨more, rfl⟩ <;> rfl
        rw [rest]
        refine is_parent_named path.length ?_ plain named apart kept.symm first.symm shorter
        rw [List.length_append] at shorter
        exact Nat.le_trans (Nat.le_add_left _ _) shorter

/-- The names come last among the parts of a path. -/
theorem parts_eq (path : String) : ∃ start, parts path = start ++ names path := by
  have split : parts path = if isAbsolute path then "/" :: names path
      else if (segments path).head? = some "." then "." :: names path else names path := rfl
  rw [split]
  split
  · exact ⟨["/"], rfl⟩
  · split
    · exact ⟨["."], rfl⟩
    · exact ⟨[], rfl⟩

/-- A path without a parent has no names. -/
theorem names_of_orphan {path : String} (orphan : parent? path = none) : names path = [] := by
  rcases List.eq_nil_or_concat (names path) with none | ⟨before, name, split⟩
  · exact none
  · rw [List.concat_eq_append] at split
    obtain ⟨start, whole⟩ := parts_eq path
    have last : (parts path).getLast? = some name := by
      rw [whole, split, ← List.append_assoc, List.getLast?_concat]
    unfold parent? at orphan
    rw [last] at orphan
    dsimp only at orphan
    split at orphan
    · rename_i absent
      cases absent
    · rename_i root
      cases root
      have member : "/" ∈ names path := by
        rw [split]
        exact List.mem_append_right before List.mem_cons_self
      exact absurd member (root_not_mem_names path)
    · cases orphan

/-- A trimmed path that has a name ends in one. -/
theorem ends_in_name_of_trimmed {path : String} (trimmed : Trimmed path.toList.reverse)
    (named : names path ≠ []) : EndsInName path := by
  have whole : path = String.ofList path.toList.reverse.reverse := by
    rw [List.reverse_reverse, String.ofList_toList]
  rw [whole] at named ⊢
  generalize path.toList.reverse = reversed at trimmed named
  cases trimmed with
  | nothing => exact absurd rfl named
  | root => exact absurd rfl named
  | here => exact absurd rfl named
  | name part left plain isNamed apart =>
      obtain ⟨before, split, _⟩ := segments_named plain apart
      exact ⟨before, String.ofList part.reverse, split, isNamed⟩

theorem EndsInName.names {path : String} (ends : EndsInName path) :
    ∃ before name, segments path = before ++ [name] ∧ isName name = true ∧
      names path = before.filter isName ++ [name] := by
  obtain ⟨before, name, split, named⟩ := ends
  refine ⟨before, name, split, named, ?_⟩
  rw [Path.names, split, List.filter_append, List.filter_cons_of_pos named, List.filter_nil]

end Stencil.Path
