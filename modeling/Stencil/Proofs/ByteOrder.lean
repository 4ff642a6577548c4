import Mathlib.Data.List.Lex
import Stencil.Value.Basic

/-!
Texts are in the same order by code points and by the bytes of UTF-8. The encoding of a
character is a leading byte with bytes of six bits each after it. Encodings of one length ascend
with the code points, and a longer encoding has a greater leading byte, so two texts are told
apart in their bytes where they are told apart in their characters.
-/

namespace Stencil

def utf8Bytes (text : String) : List UInt8 := text.toUTF8.data.toList

theorem utf8_bytes_eq (text : String) :
    utf8Bytes text = text.toList.flatMap String.utf8EncodeChar := by
  rw [utf8Bytes, String.toUTF8_eq_toByteArray, ← String.utf8Encode_toList]
  exact List.toList_data_toByteArray

/-- Whatever comes after them, the codes of two numbers below a bound are in the order of the
numbers. -/
def Ascends (bound : Nat) (code : Nat → List UInt8) : Prop :=
  ∀ m n, m < n → n < bound → ∀ after later, code m ++ after < code n ++ later

/-- A leading byte of which the encoded number takes the lower part. -/
def leading (width offset number : Nat) : List UInt8 := [UInt8.ofNat (number % width + offset)]

/-- A code with one more byte, which takes the six lowest bits of the number. -/
def continued (code : Nat → List UInt8) (number : Nat) : List UInt8 :=
  code (number / 64) ++ [UInt8.ofNat (number % 64 + 128)]

theorem byte_lt {m n : Nat} (less : m < n) (small : n < 256) :
    UInt8.ofNat m < UInt8.ofNat n := by
  rw [UInt8.lt_iff_toNat_lt, UInt8.toNat_ofNat', UInt8.toNat_ofNat']
  omega

theorem ascends_leading (width offset : Nat) (fits : width + offset ≤ 256) :
    Ascends width (leading width offset) := by
  intro m n less bound after later
  have first : m % width = m := Nat.mod_eq_of_lt (Nat.lt_trans less bound)
  have second : n % width = n := Nat.mod_eq_of_lt bound
  rw [leading, leading, first, second, List.singleton_append, List.singleton_append,
    List.cons_lt_cons_iff]
  left
  exact byte_lt (by omega) (by omega)

theorem Ascends.continued {bound : Nat} {code : Nat → List UInt8} (ascends : Ascends bound code) :
    Ascends (bound * 64) (continued code) := by
  intro m n less below after later
  rw [Stencil.continued, Stencil.continued, List.append_assoc, List.append_assoc]
  by_cases apart : m / 64 < n / 64
  · exact ascends _ _ apart (by omega) _ _
  · have same : m / 64 = n / 64 := by omega
    rw [same]
    apply List.Lex.append_left
    change _ ++ after < _ ++ later
    rw [List.singleton_append, List.singleton_append, List.cons_lt_cons_iff]
    left
    exact byte_lt (by omega) (by omega)

/-- One to four bytes, by the size of the code point. -/
theorem utf8_encode_char_cases (c : Char) :
    (c.toNat < 0x80 ∧ String.utf8EncodeChar c = leading 0x80 0 c.toNat) ∨
    (0x80 ≤ c.toNat ∧ c.toNat < 0x800 ∧
      String.utf8EncodeChar c = continued (leading 0x20 0xC0) c.toNat) ∨
    (0x800 ≤ c.toNat ∧ c.toNat < 0x10000 ∧
      String.utf8EncodeChar c = continued (continued (leading 0x10 0xE0)) c.toNat) ∨
    (0x10000 ≤ c.toNat ∧ c.toNat < 0x110000 ∧
      String.utf8EncodeChar c = continued (continued (continued (leading 8 0xF0))) c.toNat) := by
  have highest : c.toNat < 0x110000 := by
    have valid := c.valid
    unfold UInt32.isValidChar Nat.isValidChar at valid
    change c.val.toNat < 0x110000
    omega
  have shape := String.utf8EncodeChar.eq_1 c
  change _ = if c.toNat ≤ 127 then _ else if c.toNat ≤ 2047 then _ else
    if c.toNat ≤ 65535 then _ else _ at shape
  have twice : c.val.toNat / 4096 = c.val.toNat / 64 / 64 := by rw [Nat.div_div_eq_div_mul]
  have thrice : c.val.toNat / 262144 = c.val.toNat / 64 / 64 / 64 := by
    rw [Nat.div_div_eq_div_mul, Nat.div_div_eq_div_mul]
  by_cases one : c.toNat < 0x80
  · rw [if_pos (by omega)] at shape
    refine .inl ⟨one, ?_⟩
    rw [shape, leading, Nat.mod_eq_of_lt one]
    rfl
  · rw [if_neg (by omega)] at shape
    by_cases two : c.toNat < 0x800
    · rw [if_pos (by omega)] at shape
      exact .inr (.inl ⟨by omega, two, shape⟩)
    · rw [if_neg (by omega)] at shape
      by_cases three : c.toNat < 0x10000
      · rw [if_pos (by omega), twice] at shape
        exact .inr (.inr (.inl ⟨by omega, three, shape⟩))
      · rw [if_neg (by omega), twice, thrice] at shape
        exact .inr (.inr (.inr ⟨by omega, highest, shape⟩))

/-- The leading byte tells how many bytes there are. -/
theorem utf8_encode_char_leads (c : Char) :
    ∃ first rest, String.utf8EncodeChar c = UInt8.ofNat first :: rest ∧ first < 256 ∧
      (c.toNat < 0x80 ↔ first < 0x80) ∧ (c.toNat < 0x800 ↔ first < 0xE0) ∧
      (c.toNat < 0x10000 ↔ first < 0xF0) := by
  rcases utf8_encode_char_cases c with ⟨_, code⟩ | ⟨_, _, code⟩ | ⟨_, _, code⟩ | ⟨_, _, code⟩
  all_goals
    refine ⟨_, _, code, ?_⟩
    omega

theorem utf8_encode_char_lt {c d : Char} (less : c < d) (after later : List UInt8) :
    String.utf8EncodeChar c ++ after < String.utf8EncodeChar d ++ later := by
  have below : c.toNat < d.toNat := less
  by_cases longer : (c.toNat < 0x80 ∧ 0x80 ≤ d.toNat) ∨ (c.toNat < 0x800 ∧ 0x800 ≤ d.toNat) ∨
      (c.toNat < 0x10000 ∧ 0x10000 ≤ d.toNat)
  · obtain ⟨first, rest, code, _, _, _, _⟩ := utf8_encode_char_leads c
    obtain ⟨other, more, codeOther, small, _, _, _⟩ := utf8_encode_char_leads d
    rw [code, codeOther, List.cons_append, List.cons_append, List.cons_lt_cons_iff]
    exact .inl (byte_lt (by omega) small)
  · have one := ascends_leading 0x80 0 (by decide)
    have two := (ascends_leading 0x20 0xC0 (by decide)).continued
    have three := (ascends_leading 0x10 0xE0 (by decide)).continued.continued
    have four := (ascends_leading 8 0xF0 (by decide)).continued.continued.continued
    -- The encodings are of one length, so one of the four ways of encoding is that of both.
    rcases utf8_encode_char_cases c with ⟨_, code⟩ | ⟨_, _, code⟩ | ⟨_, _, code⟩ | ⟨_, _, code⟩ <;>
      rcases utf8_encode_char_cases d with
        ⟨_, same⟩ | ⟨_, _, same⟩ | ⟨_, _, same⟩ | ⟨_, _, same⟩ <;>
      rw [code, same] <;>
      first
        | omega
        | exact one _ _ below (by omega) _ _
        | exact two _ _ below (by omega) _ _
        | exact three _ _ below (by omega) _ _
        | exact four _ _ below (by omega) _ _

theorem flat_map_lt {one other : List Char} (less : one < other) :
    one.flatMap String.utf8EncodeChar < other.flatMap String.utf8EncodeChar := by
  induction one generalizing other with
  | nil =>
      cases other with
      | nil => exact absurd less (List.lt_irrefl [])
      | cons d other =>
          obtain ⟨first, rest, code, _⟩ := utf8_encode_char_leads d
          rw [List.flatMap_nil, List.flatMap_cons, code]
          exact List.nil_lt_cons _ _
  | cons c one ih =>
      cases other with
      | nil => exact absurd less (List.not_lt_nil _)
      | cons d other =>
          rw [List.flatMap_cons, List.flatMap_cons]
          rcases List.cons_lt_cons_iff.mp less with apart | ⟨same, later⟩
          · exact utf8_encode_char_lt apart _ _
          · rw [same]
            exact List.Lex.append_left _ (ih later) _

theorem text_lt_or_gt {one other : String} (apart : one ≠ other) : one < other ∨ other < one := by
  by_cases less : one < other
  · exact .inl less
  · right
    apply String.not_le.mp
    intro atMost
    exact apart (String.le_antisymm atMost (String.not_lt.mp less))

/-- The order of code points is the order of bytes. -/
theorem lt_iff_bytes_lt (one other : String) : one < other ↔ utf8Bytes one < utf8Bytes other := by
  have forward : ∀ a b : String, a < b → utf8Bytes a < utf8Bytes b := by
    intro a b less
    rw [utf8_bytes_eq, utf8_bytes_eq]
    exact flat_map_lt (String.lt_iff.mp less)
  refine ⟨forward one other, fun less => ?_⟩
  by_cases same : one = other
  · rw [same] at less
    exact absurd less (List.lt_irrefl _)
  · rcases text_lt_or_gt same with before | after
    · exact before
    · exact absurd less (List.lt_asymm (forward other one after))

end Stencil
