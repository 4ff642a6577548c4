import Mathlib.Tactic.SplitIfs
import Stencil.Json
import Stencil.Proofs.LiteralReading

/-!
Strings and whole numbers are read back from their JSON text. Each character of a string is
escaped on its own and read back on its own, so a string is read up to its closing quote whatever
follows. A number is read to its end if what follows does not go on with it.
-/

namespace Stencil.Json

open Markup.Grammar (digits_all digits_begin nat_of_digits_to_digits)

/-- Four hexadecimal digits are read as the number they write. -/
theorem read_quad_hex_quad {code : Nat} (low : code < 0x20) (rest : List Char) :
    readQuad (hexQuad code ++ rest) = some (code, rest) := by
  have digits : ∀ code < 0x20, natOfDigits? 16 (hexQuad code) = some code := by decide
  have read : natOfDigits? 16 [hexDigit (code / 4096), hexDigit (code / 256),
      hexDigit (code / 16), hexDigit code] = some code := digits code low
  simp only [hexQuad, List.cons_append, List.nil_append, readQuad, read]
  rfl

theorem read_escaped_code_hex_quad {c : Char} (low : c.toNat < 0x20) (rest : List Char) :
    readEscapedCode (hexQuad c.toNat ++ rest) = some (c, rest) := by
  have noHigh : isHighSurrogate c.toNat = false := by
    simp only [isHighSurrogate, Bool.and_eq_false_iff, decide_eq_false_iff_not]
    omega
  have noLow : isLowSurrogate c.toNat = false := by
    simp only [isLowSurrogate, Bool.and_eq_false_iff, decide_eq_false_iff_not]
    omega
  simp only [readEscapedCode, read_quad_hex_quad low, Option.bind_eq_bind, Option.bind_some, noHigh,
    noLow, Bool.false_eq_true, if_false, Char.ofNat_toNat]

/-- A character is read from its escaped form, and then what follows is. -/
theorem read_string_escaped (fuel : Nat) (c : Char) (input : List Char) :
    readString (fuel + 1) (escapeJsonChar c ++ input) =
      (readString fuel input).map fun read => (c :: read.1, read.2) := by
  have short : ∀ mark : Char, mark ≠ 'u' → plainEscape? mark = some c →
      readString (fuel + 1) ('\\' :: mark :: input) =
        (readString fuel input).map fun read => (c :: read.1, read.2) := by
    intro mark other plain
    rw [readString]
    · simp only [plain]
      cases readString fuel input <;> rfl
    · exact other
  unfold escapeJsonChar
  split_ifs with quote slash line feed tab back form low
  · exact short '"' (by decide) (by rw [quote]; rfl)
  · exact short '\\' (by decide) (by rw [slash]; rfl)
  · exact short 'n' (by decide) (by rw [line]; rfl)
  · exact short 'r' (by decide) (by rw [feed]; rfl)
  · exact short 't' (by decide) (by rw [tab]; rfl)
  · exact short 'b' (by decide) (by rw [back]; rfl)
  · exact short 'f' (by decide) (by rw [form]; rfl)
  · simp only [List.cons_append, readString, read_escaped_code_hex_quad low, Option.bind_eq_bind,
      Option.bind_some]
    cases readString fuel input <;> rfl
  · have plain : ¬ (c.toNat < 0x20 ∨ c = '\\') := by
      rintro (control | same)
      · exact low control
      · exact slash same
    rw [List.singleton_append, readString]
    · rw [if_neg plain]
      cases readString fuel input <;> rfl
    · exact quote
    · intro rest same
      exact absurd same slash
    · intro escape rest same
      exact absurd same slash

theorem read_string_quoted (chars : List Char) {fuel : Nat} (enough : chars.length < fuel)
    (rest : List Char) :
    readString fuel (chars.flatMap escapeJsonChar ++ '"' :: rest) = some (chars, rest) := by
  induction chars generalizing fuel with
  | nil =>
      obtain ⟨fuel, rfl⟩ := Nat.exists_eq_add_one_of_ne_zero (Nat.ne_of_gt enough)
      rfl
  | cons c chars ih =>
      have left : fuel ≠ 0 := Nat.ne_of_gt (Nat.zero_lt_of_lt enough)
      obtain ⟨fuel, rfl⟩ := Nat.exists_eq_add_one_of_ne_zero left
      rw [List.flatMap_cons, List.append_assoc, read_string_escaped,
        ih (Nat.lt_of_succ_lt_succ enough)]
      rfl

theorem length_le_escaped (chars : List Char) :
    chars.length ≤ (chars.flatMap escapeJsonChar).length := by
  induction chars with
  | nil => exact Nat.le_refl 0
  | cons c chars ih =>
      have written : 1 ≤ (escapeJsonChar c).length := by
        unfold escapeJsonChar
        split_ifs <;> simp
      rw [List.flatMap_cons, List.length_append, List.length_cons]
      omega

/-- The string after an opening quote, with as much fuel as the reader of values gives it. -/
theorem read_string_text (text : String) (rest : List Char) :
    let input := text.toList.flatMap escapeJsonChar ++ '"' :: rest
    readString (input.length + 1) input = some (text.toList, rest) := by
  intro input
  apply read_string_quoted
  have long := length_le_escaped text.toList
  simp only [input, List.length_append]
  omega

def Follows (rest : List Char) : Prop := ∀ c ∈ rest.head?, c ∈ [',', ']', '\x7d']

theorem Follows.stops {rest : List Char} (follows : Follows rest) {c : Char} {more : List Char}
    (begins : rest = c :: more) :
    isDigit c = false ∧ c ≠ '.' ∧ c ≠ 'e' ∧ c ≠ 'E' := by
  have closer : c ∈ [',', ']', '\x7d'] := follows c (by rw [begins]; rfl)
  simp only [List.mem_cons, List.not_mem_nil, or_false] at closer
  rcases closer with rfl | rfl | rfl <;> decide

theorem whole_text (n : Whole) : (Number.whole n).text.toList =
    (if n.value < 0 then ['-'] else []) ++ Nat.toDigits 10 n.value.natAbs := by
  have shown : (Number.whole n).text = toString n.value := rfl
  rw [shown, Int.toString_eq_repr, Int.repr_eq_if]
  by_cases negative : n.value < 0
  · have size : (-n.value).toNat = n.value.natAbs := by omega
    rw [if_neg (Int.not_le.mpr negative), if_pos negative, String.toList_append,
      Nat.toList_repr, size]
    rfl
  · have size : n.value.toNat = n.value.natAbs := by omega
    rw [if_pos (Int.not_lt.mp negative), if_neg negative, Nat.toList_repr, size, List.nil_append]

/-- A number begins neither with a blank nor like any other value. -/
theorem whole_begins (n : Whole) : ∃ c rest, (Number.whole n).text.toList = c :: rest ∧
    isSpace c = false ∧ c ∉ ['"', '[', ']', '\x7b', 'n', 't', 'f'] := by
  rw [whole_text]
  by_cases negative : n.value < 0
  · rw [if_pos negative]
    exact ⟨'-', _, rfl, by decide, by decide⟩
  · obtain ⟨c, digits, shape, digit, _⟩ := digits_begin n.value.natAbs
    have apart : ∀ d, isDigit d = false → c ≠ d := by
      rintro d other rfl
      rw [digit] at other
      cases other
    rw [if_neg negative, shape]
    refine ⟨c, digits, rfl, ?_, ?_⟩
    · simp [isSpace, apart ' ' (by decide), apart '\n' (by decide), apart '\r' (by decide),
        apart '\t' (by decide)]
    · simp only [List.mem_cons, List.not_mem_nil, or_false, not_or]
      exact ⟨apart _ (by decide), apart _ (by decide), apart _ (by decide), apart _ (by decide),
        apart _ (by decide), apart _ (by decide), apart _ (by decide)⟩

/-- Whether a numeral begins with a minus sign, and what follows the sign if it has one. -/
def signed (input : List Char) : Bool × List Char :=
  match input with
  | '-' :: rest => (true, rest)
  | '+' :: rest => (false, rest)
  | _ => (false, input)

theorem signed_digit {c : Char} (digit : isDigit c = true) (rest : List Char) :
    signed (c :: rest) = (false, c :: rest) := by
  unfold signed
  split
  · rename_i same
    cases same
    cases digit
  · rename_i same
    cases same
    cases digit
  · rfl

theorem scan_negative (input : List Char) :
    (Numeral.scan input).1.negative = (signed input).1 := by
  unfold Numeral.scan
  dsimp only
  split
  · split
    · split
      · split <;> rfl
      · split <;> rfl
      · split <;> rfl
    · rfl
  · rfl

theorem of_int_whole (n : Whole) : Number.ofInt? n.value = some (.whole n) := by
  rw [Number.ofInt?, Whole.ofInt?, dif_pos n.lower, dif_pos n.upper]
  rfl

theorem digits_taken (size : Nat) {rest : List Char} (follows : Follows rest) :
    (Nat.toDigits 10 size ++ rest).takeWhile isDigit = Nat.toDigits 10 size ∧
      (Nat.toDigits 10 size ++ rest).dropWhile isDigit = rest := by
  rw [List.takeWhile_append_of_pos (digits_all size),
    List.dropWhile_append_of_pos (digits_all size)]
  cases rest with
  | nil => simp
  | cons c more => simp [(follows.stops rfl).1]

theorem follows_ends (rest : List Char) : Follows rest →
    (match rest with
      | c :: _ => c != '.' && c != 'e' && c != 'E'
      | [] => true) = true := by
  intro follows
  cases rest with
  | nil => rfl
  | cons c more =>
      obtain ⟨_, noPoint, noMark, noCapital⟩ := follows.stops rfl
      simp [noPoint, noMark, noCapital]

theorem read_number_whole (n : Whole) {rest : List Char} (follows : Follows rest) :
    readNumber ((Number.whole n).text.toList ++ rest) = some (.whole n, rest) := by
  obtain ⟨c, digits, shape, digit, zero⟩ := digits_begin n.value.natAbs
  obtain ⟨taken, left⟩ := digits_taken n.value.natAbs follows
  have ends := follows_ends rest follows
  have size := nat_of_digits_to_digits n.value.natAbs
  have noZero : ¬ (c = '0' ∧ 1 < (c :: digits).length) := by
    rintro ⟨first, long⟩
    rw [(zero first).2] at long
    exact Nat.lt_irrefl 1 long
  have noMinus : c ≠ '-' := by
    rintro rfl
    cases digit
  rw [whole_text]
  rw [shape] at taken left size ⊢
  rw [List.cons_append] at taken left
  by_cases negative : n.value < 0
  · have value : -(n.value.natAbs : Int) = n.value := by omega
    have nonzero : n.value ≠ 0 := by omega
    rw [if_pos negative]
    unfold readNumber
    simp only [List.cons_append, List.nil_append, taken, left, List.isEmpty_cons,
      Bool.false_eq_true, false_or, List.head?_cons, Option.some.injEq, if_neg noZero,
      scan_negative, signed, size, if_true, value, nonzero, and_false, if_false, of_int_whole]
    exact if_pos ends
  · have value : (n.value.natAbs : Int) = n.value := by omega
    rw [if_neg negative, List.nil_append]
    unfold readNumber
    simp only [List.cons_append, List.cons.injEq, noMinus, false_and, imp_false,
      not_false_eq_true, implies_true, taken, left, List.isEmpty_cons, Bool.false_eq_true,
      false_or, List.head?_cons, Option.some.injEq, if_neg noZero, scan_negative,
      signed_digit digit, size, if_false, value, of_int_whole]
    exact if_pos ends

end Stencil.Json
