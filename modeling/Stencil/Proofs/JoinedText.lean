import Mathlib.Algebra.GroupWithZero.Nat
import Stencil.Proofs.BuiltinFailure

/-!
Joined texts. Concatenating values is joining them by nothing. What is joined may be cut in two
and joined part by part, its length is that of the parts and of the separators between them, and
if the separator is a character that the parts do not have, splitting there gives the parts back.
-/

namespace Stencil.Builtin

theorem intercalate_nothing (parts : List String) :
    String.intercalate "" parts = String.join parts := by
  induction parts with
  | nil => rfl
  | cons part rest ih =>
      rw [String.join_cons, ← ih]
      cases rest with
      | nil => rw [String.intercalate_singleton, String.intercalate_nil, String.append_empty]
      | cons next rest => rw [String.intercalate_cons_cons, String.append_empty]

theorem length_intercalate (separator : String) {parts : List String} (some : parts ≠ []) :
    (separator.intercalate parts).length =
      (parts.map String.length).sum + (parts.length - 1) * separator.length := by
  induction parts with
  | nil => exact absurd rfl some
  | cons part rest ih =>
      cases rest with
      | nil => simp
      | cons next rest =>
          have later := ih (List.cons_ne_nil next rest)
          rw [String.intercalate_cons_cons, String.length_append, String.length_append, later]
          simp only [List.map_cons, List.sum_cons, List.length_cons, Nat.add_sub_cancel,
            Nat.succ_mul]
          omega

/-- Splitting at a character undoes joining by it. -/
theorem split_on_intercalate {parts : List String} (some : parts ≠ []) {separator : String}
    {c : Char} (single : separator.toList = [c]) (absent : ∀ part ∈ parts, c ∉ part.toList) :
    ((separator.intercalate parts).toList.splitOn c).map String.ofList = parts := by
  have apart : ∀ chars ∈ parts.map String.toList, c ∉ chars := by
    intro chars member
    obtain ⟨part, inside, rfl⟩ := List.mem_map.mp member
    exact absent part inside
  have nonempty : parts.map String.toList ≠ [] := fun none => some (List.map_eq_nil_iff.mp none)
  rw [String.toList_intercalate, single, List.splitOn_intercalate c apart nonempty, List.map_map]
  simp [Function.comp_def]

theorem join_items_append {xs ys : List Value} (first : xs ≠ []) (second : ys ≠ [])
    (separator : String) : joinItems (xs ++ ys) separator =
      joinItems xs separator ++ separator ++ joinItems ys separator := by
  rw [joinItems, List.map_append]
  exact String.intercalate_append_of_ne_nil (fun none => first (List.map_eq_nil_iff.mp none))
    (fun none => second (List.map_eq_nil_iff.mp none))

theorem length_join_items {items : List Value} (some : items ≠ []) (separator : String) :
    (joinItems items separator).length = (items.map fun item => item.text.length).sum +
      (items.length - 1) * separator.length := by
  rw [joinItems, length_intercalate _ fun none => some (List.map_eq_nil_iff.mp none),
    List.map_map, List.length_map]
  rfl

theorem split_on_join_items {items : List Value} (some : items ≠ []) {separator : String} {c : Char}
    (single : separator.toList = [c]) (absent : ∀ item ∈ items, c ∉ item.text.toList) :
    ((joinItems items separator).toList.splitOn c).map String.ofList = items.map Value.text := by
  refine split_on_intercalate (fun none => some (List.map_eq_nil_iff.mp none)) single ?_
  intro part member
  obtain ⟨item, inside, rfl⟩ := List.mem_map.mp member
  exact absent item inside

section

variable (functions : Registry)

theorem concat_call (items : List Value) :
    (register functions).call "concat" items = .done (.string (joinItems items "")) := by
  rw [call_listed functions rfl, joinItems, intercalate_nothing]
  rfl

theorem join_call_bare (items : List Value) :
    (register functions).call "join" [.array items] = .done (.string (joinItems items "")) := by
  rw [call_listed functions rfl]
  rfl

theorem join_call (items : List Value) {separator : Value} (scalar : ¬separator.IsNested) :
    (register functions).call "join" [.array items, separator] =
      .done (.string (joinItems items separator.text)) := by
  rw [call_listed functions rfl]
  cases separator with
  | array inner => exact absurd (.inl ⟨inner, rfl⟩) scalar
  | object fields => exact absurd (.inr ⟨fields, rfl⟩) scalar
  | _ => rfl

theorem length_call (text : String) :
    (register functions).call "length" [.string text] = .done (Value.ofNat text.length) := by
  rw [call_listed functions rfl]
  rfl

end

/-- Concatenating, joining and measuring fit together, whatever the values are and for every
separator that is a text, a number, a boolean or null. -/
theorem joined_text_laws (functions : Registry) (xs ys : List Value) (separator : Value)
    (scalar : ¬separator.IsNested) :
    let call := (register functions).call
    let joined := fun items => joinItems items separator.text
    (∀ items, call "join" [.array items, separator] = .done (.string (joined items))) ∧
    call "concat" xs = .done (.string (joinItems xs "")) ∧
    call "join" [.array xs] = call "concat" xs ∧
    call "join" [.array xs, .string ""] = call "concat" xs ∧
    (xs ≠ [] → ys ≠ [] → joined (xs ++ ys) = joined xs ++ separator.text ++ joined ys) ∧
    joined [] = "" ∧
    (xs ≠ [] → call "length" [.string (joined xs)] =
      .done (Value.ofNat ((xs.map fun item => item.text.length).sum +
        (xs.length - 1) * separator.text.length))) ∧
    ∀ c, separator.text.toList = [c] → xs ≠ [] → (∀ item ∈ xs, c ∉ item.text.toList) →
      ((joined xs).toList.splitOn c).map String.ofList = xs.map Value.text := by
  intro call joined
  refine ⟨?calls, ?concat, ?bare, ?empty, ?append, rfl, ?length, ?split⟩
  case calls => exact fun items => join_call functions items scalar
  case concat => exact concat_call functions xs
  case bare => exact (join_call_bare functions xs).trans (concat_call functions xs).symm
  case empty =>
    have nothing : ¬(Value.string "").IsNested := by simp [Value.IsNested]
    exact (join_call functions xs nothing).trans (concat_call functions xs).symm
  case append => exact fun first second => join_items_append first second separator.text
  case length =>
    intro some
    rw [← length_join_items some]
    exact length_call functions _
  case split => exact fun c single some absent => split_on_join_items some single absent

/-- Empty texts at both ends, a text of two bytes, and a number as the separator. -/
theorem joined_text_laws_sevens :
    let xs := [Value.null, .string "é", .array [], .null]
    let separator := Value.ofNat 7
    ¬separator.IsNested ∧ xs ≠ [] ∧ separator.text.toList = ['7'] ∧
    (∀ item ∈ xs, '7' ∉ item.text.toList) ∧
    joinItems xs separator.text = "7é7[]7" ∧
    registry.call "length" [.string "7é7[]7"] = .done (Value.ofNat 6) ∧
    joinItems (xs ++ xs) separator.text = "7é7[]7" ++ separator.text ++ "7é7[]7" ∧
    ("7é7[]7".toList.splitOn '7').map String.ofList = ["", "é", "[]", ""] := by
  intro xs separator
  have scalar : ¬separator.IsNested := by simp [Value.IsNested, separator, Value.ofNat]
  have some : xs ≠ [] := List.cons_ne_nil _ _
  have text : separator.text = "7" := by decide +kernel
  have joined : joinItems xs separator.text = "7é7[]7" := by decide +kernel
  have single : separator.text.toList = ['7'] := by rw [text]; rfl
  have absent : ∀ item ∈ xs, '7' ∉ item.text.toList := by decide +kernel
  obtain ⟨_, _, _, _, append, _, length, split⟩ :=
    joined_text_laws Registry.empty xs xs separator scalar
  have measured := length some
  have whole := append some some
  have parts := split '7' single some absent
  have items : xs.map Value.text = ["", "é", "[]", ""] := by decide +kernel
  have count : (xs.map fun item => item.text.length).sum +
      (xs.length - 1) * separator.text.length = 6 := by decide +kernel
  dsimp only at measured whole parts
  rw [joined, count] at measured
  rw [joined] at whole
  rw [joined, items] at parts
  exact ⟨scalar, some, single, absent, joined, measured, whole, parts⟩

end Stencil.Builtin
