import Stencil.Proofs.Pieces

/-!
Reading literals back. What is written for a literal or an array of literals is read as
that again, provided that what follows closes it: a comma or a closing bracket, maybe after
some white space. There no operator, filter or further part can begin.
-/

namespace Stencil.Markup.Grammar

def At (c : Char) (input : List Char) : Prop := ∃ after, skip input = c :: after

def closers : List Char := [',', ')', ']', '\x7d']

def Closed (input : List Char) : Prop := ∃ c ∈ closers, At c input

theorem skip_cons {c : Char} (dark : isSpace c = false) (rest : List Char) :
    skip (c :: rest) = c :: rest := by
  rw [skip, List.dropWhile_cons, if_neg (by simp [dark])]

/-- A character of a kind that has no white space is not white space. -/
theorem dark_of_kind (kind : Char → Bool)
    (none : [' ', '\t', '\r', '\n'].all (fun c => !kind c) = true) {c : Char}
    (own : kind c = true) : isSpace c = false := by
  cases blank : isSpace c with
  | false => rfl
  | true =>
      simp only [isSpace, Bool.or_eq_true, beq_iff_eq] at blank
      have other := List.all_eq_true.mp none c (by simpa [or_assoc] using blank)
      rw [own] at other
      cases other

theorem At.cons {c : Char} (dark : isSpace c = false) (rest : List Char) : At c (c :: rest) :=
  ⟨rest, skip_cons dark rest⟩

theorem symbol_none {input : List Char} {c d : Char} {w : String} {ws : List Char}
    (here : At c input) (starts : w.toList = d :: ws) (other : d ≠ c) :
    symbol w input = none := by
  obtain ⟨after, shape⟩ := here
  simp [symbol, exactly, shape, starts, List.isPrefixOf, other]

theorem word_none {input : List Char} {w : String} (no : symbol w input = none) :
    word w input = none := by
  simp [word, no]

theorem symbol_closed {input : List Char} {d : Char} {w : String} {ws : List Char}
    (closed : Closed input) (starts : w.toList = d :: ws) (open_ : d ∉ closers) :
    symbol w input = none := by
  obtain ⟨c, closer, here⟩ := closed
  exact symbol_none here starts fun same => open_ (same ▸ closer)

/-! Where a term is closed, nothing goes on. -/

theorem math_op_closed {input : List Char} (closed : Closed input) : mathOp input = none := by
  obtain ⟨c, closer, after, shape⟩ := closed
  simp only [closers, List.mem_cons, List.not_mem_nil, or_false] at closer
  rcases closer with rfl | rfl | rfl | rfl <;> simp [mathOp, shape]

theorem comparison_op_closed {input : List Char} (closed : Closed input) :
    comparisonOp input = none := by
  obtain ⟨c, closer, after, shape⟩ := closed
  simp only [closers, List.mem_cons, List.not_mem_nil, or_false] at closer
  rcases closer with rfl | rfl | rfl | rfl <;> simp [comparisonOp, shape]

theorem connective_closed {input : List Char} (closed : Closed input) :
    connective input = none := by
  have noOr : word "or" input = none := word_none (symbol_closed closed rfl (by decide))
  have noAnd : word "and" input = none := word_none (symbol_closed closed rfl (by decide))
  simp [connective, noOr, noAnd]

theorem filters_of_closed (levels : Nat) {input : List Char} (closed : Closed input) :
    filtersOf levels input = ([], input) := by
  have noBar : symbol "|" input = none := symbol_closed closed rfl (by decide)
  cases levels with
  | zero => rw [filtersOf]
  | succ levels => rw [filtersOf, noBar]; rfl

theorem concat_rest_closed (levels : Nat) {input : List Char} (closed : Closed input) :
    concatRest levels input = ([], input) := by
  have noTilde : symbol "~" input = none := symbol_closed closed rfl (by decide)
  cases levels with
  | zero => rw [concatRest]
  | succ levels => rw [concatRest, noTilde]; rfl

theorem math_parts_closed (levels : Nat) {input : List Char} (closed : Closed input) :
    mathParts levels input = ([], input) := by
  cases levels with
  | zero => rw [mathParts]
  | succ levels => rw [mathParts, math_op_closed closed]; rfl

theorem arithmetic_rest_closed (levels : Nat) {input : List Char} (closed : Closed input) :
    arithmeticRest levels input = ([], input) := by
  cases levels with
  | zero => rw [arithmeticRest]
  | succ levels => rw [arithmeticRest, math_op_closed closed]; rfl

theorem logical_rest_closed (levels : Nat) {input : List Char} (closed : Closed input) :
    logicalRest levels input = ([], input) := by
  cases levels with
  | zero => rw [logicalRest]
  | succ levels => rw [logicalRest, connective_closed closed]; rfl

theorem comparison_rest_closed (levels : Nat) {input : List Char} (closed : Closed input) :
    comparisonRest levels input = none := by
  cases levels with
  | zero => rw [comparisonRest]
  | succ levels => rw [comparisonRest, comparison_op_closed closed]; rfl

theorem membership_of_closed (levels : Nat) (item : Expr) {input : List Char}
    (closed : Closed input) : membershipOf levels item input = none := by
  have noNot : word "not" input = none := word_none (symbol_closed closed rfl (by decide))
  have noIn : symbol "in" input = none := symbol_closed closed rfl (by decide)
  cases levels with
  | zero => rw [membershipOf]
  | succ levels => rw [membershipOf, noNot]; simp [noIn]

/-! From a term to the expressions around it. -/

theorem operand_of_text {levels : Nat} {input rest : List Char} {e : Expr}
    (read : textFiltered levels input = some (e, rest)) :
    operandOf (levels + 1) input = some ((e, true), rest) := by
  rw [operandOf, read]

theorem operand_of_term {levels : Nat} {input rest : List Char} {e : Expr}
    (noText : textFiltered levels input = none)
    (read : termFiltered levels input = some (e, rest)) :
    operandOf (levels + 1) input = some ((e, false), rest) := by
  rw [operandOf, noText, read]
  rfl

theorem condition_operand {levels : Nat} {input rest : List Char} {e : Expr} {isText : Bool}
    (closed : Closed rest) (read : operandOf levels input = some ((e, isText), rest)) :
    condition (levels + 1) input = some (e, rest) := by
  rw [condition, read]
  cases isText with
  | true => simp [membership_of_closed _ _ closed, comparison_rest_closed _ closed]
  | false =>
      simp [membership_of_closed _ _ closed, math_parts_closed _ closed, joinParts, climb,
        comparison_rest_closed _ closed]

theorem logical_part_condition {levels : Nat} {input rest : List Char} {term : Term}
    (noNot : word "not" input = none)
    (read : condition levels input = some (.ofTerm term, rest)) :
    logicalPart (levels + 1) input = some (.ofTerm term, rest) := by
  rw [logicalPart, noNot]
  simp only [read]
  rfl

theorem value_part {levels : Nat} {input rest : List Char} {e : Expr} (closed : Closed rest)
    (read : logicalPart levels input = some (e, rest)) :
    value (levels + 2) input = some (e, rest) := by
  rw [value, logical, read]
  simp [logical_rest_closed _ closed, climb]

theorem term_filtered_atom {levels : Nat} {input rest : List Char} {term : Term}
    (closed : Closed rest) (noGroup : symbol "(" input = none)
    (read : atom levels input = some (term, rest)) :
    termFiltered (levels + 3) input = some (.ofTerm term, rest) := by
  rw [termFiltered, arithmetic, arithmeticPart, noGroup]
  simp [read, arithmetic_rest_closed _ closed, climb, filters_of_closed _ closed, Expr.ofTerm]

theorem concatenation_alone {levels : Nat} {input rest : List Char} {term : Term}
    (closed : Closed rest) (read : concatPart levels input = some (term, rest)) :
    concatenation (levels + 1) input = none := by
  rw [concatenation, read]
  simp [concat_rest_closed _ closed]

/-! What cannot begin with a character. -/

theorem name_none {c : Char} {input : List Char} (here : At c input)
    (no : isNameStart c = false) : name input = none := by
  obtain ⟨after, shape⟩ := here
  simp [name, shape, nameChars, no]

theorem path_none {c : Char} {input : List Char} (here : At c input)
    (no : isNameStart c = false) : path input = none := by
  obtain ⟨after, shape⟩ := here
  simp [path, shape, pathChars, nameChars, no]

theorem quoted_none {c : Char} {input : List Char} (here : At c input)
    (no : c ∉ ['"', '\'', '\x60']) : quoted input = none := by
  obtain ⟨after, shape⟩ := here
  simp only [List.mem_cons, List.not_mem_nil, or_false] at no
  simp [quoted, shape, no]

theorem boolean_none {c : Char} {input : List Char} (here : At c input)
    (no : c ∉ ['t', 'f', 'T', 'F']) : boolean input = none := by
  simp only [List.mem_cons, List.not_mem_nil, or_false, not_or] at no
  obtain ⟨small, smallF, big, bigF⟩ := no
  rw [boolean, symbol_none here rfl (Ne.symm small), symbol_none here rfl (Ne.symm smallF),
    symbol_none here rfl (Ne.symm big), symbol_none here rfl (Ne.symm bigF)]

theorem whole_chars_none {c : Char} {input : List Char} (here : At c input)
    (no : c ≠ '-' ∧ isDigit c = false) : wholeChars (skip input) = none := by
  obtain ⟨after, shape⟩ := here
  obtain ⟨noMinus, noDigit⟩ := no
  have noZero : c ≠ '0' := by
    intro zero
    subst zero
    cases noDigit
  simp [shape, wholeChars, noMinus, noDigit]

theorem whole_none {c : Char} {input : List Char} (here : At c input)
    (no : c ≠ '-' ∧ isDigit c = false) : whole input = none := by
  simp [whole, whole_chars_none here no]

theorem real_none {c : Char} {input : List Char} (here : At c input)
    (no : c ≠ '-' ∧ isDigit c = false) : real input = none := by
  simp [real, whole_chars_none here no]

theorem call_of_none (levels : Nat) {input : List Char} (no : name input = none) :
    callOf levels input = none := by
  cases levels with
  | zero => rw [callOf]
  | succ levels => rw [callOf, no]; rfl

theorem macro_call_of_none (levels : Nat) {input : List Char} (no : name input = none) :
    macroCallOf levels input = none := by
  cases levels with
  | zero => rw [macroCallOf]
  | succ levels => rw [macroCallOf, no]; rfl

theorem test_of_none (levels : Nat) {input : List Char} (no : path input = none) :
    testOf levels input = none := by
  cases levels with
  | zero => rw [testOf]
  | succ levels => rw [testOf, no]; rfl

/-! Texts in quotes. -/

theorem mark_cases (quote : Quote) : quote.mark ∈ ['"', '\'', '\x60'] := by
  cases quote <;> decide

theorem quoted_written (text : Quoted) (plain : text.Plain) {input rest : List Char}
    (start : skip input = text.chars ++ rest) : quoted input = some (text.text, rest) := by
  obtain ⟨quote, s⟩ := text
  have other : ∀ c ∈ s.toList, (c != quote.mark) = true := by
    intro c inside
    rw [bne_iff_ne]
    intro same
    exact plain quote (same ▸ inside)
  have marked := mark_cases quote
  simp only [List.mem_cons, List.not_mem_nil, or_false] at marked
  simp only [Quoted.chars, List.cons_append, List.append_assoc] at start
  simp [quoted, start, marked, List.dropWhile_append_of_pos other,
    List.takeWhile_append_of_pos other]

theorem logical_part_text (levels : Nat) (text : Quoted) (plain : text.Plain)
    {input rest : List Char} (closed : Closed rest)
    (start : skip input = text.chars ++ rest) :
    logicalPart (levels + 6) input = some (literalExpr (.text text), rest) := by
  have here : At text.quote.mark input := ⟨_, start⟩
  have marked := mark_cases text.quote
  have noName : name input = none := name_none here (by cases text.quote <;> decide)
  have noNumber : text.quote.mark ≠ '-' ∧ isDigit text.quote.mark = false := by
    cases text.quote <;> decide
  have noNot : word "not" input = none :=
    word_none (symbol_none here rfl (by cases text.quote <;> decide))
  have read := quoted_written text plain start
  have part : concatPart (levels + 1) input = some (.text text.text, rest) := by
    rw [concatPart, call_of_none _ noName, real_none here noNumber, whole_none here noNumber, read]
  have alone := concatenation_alone closed part
  apply logical_part_condition noNot
  apply condition_operand closed
  apply operand_of_text
  rw [textFiltered, alone, read]
  simp [filters_of_closed _ closed, Expr.ofTerm, literalTerm]

/-! Whole numbers. -/

theorem is_digit_eq (c : Char) : isDigit c = c.isDigit := rfl

theorem digits_all (n : Nat) : ∀ c ∈ Nat.toDigits 10 n, isDigit c = true := by
  intro c member
  rw [is_digit_eq]
  exact Nat.isDigit_of_mem_toDigits (by decide) (by decide) member

/-- The digits of a number begin with zero only if there is no other digit. -/
theorem digits_begin (n : Nat) : ∃ c rest, Nat.toDigits 10 n = c :: rest ∧
    isDigit c = true ∧ (c = '0' → n = 0 ∧ rest = []) := by
  induction n using Nat.strongRecOn with
  | ind n ih =>
      by_cases small : n < 10
      · have digit : ∀ m < 10, isDigit (Nat.digitChar m) = true ∧
            (Nat.digitChar m = '0' → m = 0) := by decide
        obtain ⟨own, zero⟩ := digit n small
        exact ⟨_, [], Nat.toDigits_of_lt_base small, own, fun same => ⟨zero same, rfl⟩⟩
      · obtain ⟨c, rest, shape, own, zero⟩ := ih (n / 10) (by omega)
        rw [Nat.toDigits_of_base_le (by decide) (by omega), shape]
        refine ⟨c, _, rfl, own, ?_⟩
        intro same
        have := (zero same).1
        omega

theorem hex_value_digit {c : Char} (digit : isDigit c = true) :
    hexValue? c = some (c.toNat - '0'.toNat) ∧ c.toNat - '0'.toNat < 10 := by
  simp only [isDigit, Bool.and_eq_true, decide_eq_true_eq] at digit
  refine ⟨by rw [hexValue?, if_pos digit], ?_⟩
  have upper : c.toNat ≤ '9'.toNat := digit.2
  have nine : '9'.toNat = 57 := rfl
  have zero : '0'.toNat = 48 := rfl
  omega

theorem nat_of_digits_eq (digits : List Char) (all : ∀ c ∈ digits, isDigit c = true) :
    natOfDigits digits = Nat.ofDigitChars 10 digits 0 := by
  have run : ∀ total, digits.foldl (fun total c => do
      let value ← hexValue? c
      if value < 10 then some ((← total) * 10 + value) else none) (some total) =
        some (Nat.ofDigitChars 10 digits total) := by
    induction digits with
    | nil => exact fun _ => rfl
    | cons c rest ih =>
        intro total
        obtain ⟨value, small⟩ := hex_value_digit (all c List.mem_cons_self)
        have later := ih fun d inside => all d (List.mem_cons_of_mem _ inside)
        rw [Nat.ofDigitChars_cons, Nat.mul_comm 10, ← later, List.foldl_cons]
        simp only [value, Option.bind_eq_bind, Option.bind_some, small, if_true]
  rw [natOfDigits, natOfDigits?, run]
  rfl

theorem nat_of_digits_to_digits (n : Nat) : natOfDigits (Nat.toDigits 10 n) = n := by
  rw [nat_of_digits_eq _ (digits_all n), Nat.ofDigitChars_ten_toDigits]

/-- What closes a literal is neither a digit nor a point. -/
theorem Closed.begins {input : List Char} (closed : Closed input) :
    ∃ c rest, input = c :: rest ∧ isDigit c = false ∧ c ≠ '.' := by
  obtain ⟨c, closer, after, shape⟩ := closed
  cases input with
  | nil => cases shape
  | cons d rest =>
      refine ⟨d, rest, rfl, ?_⟩
      cases blank : isSpace d with
      | true =>
          have stops : ∀ kind : Char → Bool,
              [' ', '\t', '\r', '\n'].all (fun c => !kind c) = true → kind d ≠ true := by
            intro kind none own
            rw [dark_of_kind kind none own] at blank
            cases blank
          refine ⟨by simpa using stops isDigit (by decide), ?_⟩
          simpa using stops (· == '.') (by decide)
      | false =>
          rw [skip_cons blank] at shape
          cases shape
          simp only [closers, List.mem_cons, List.not_mem_nil, or_false] at closer
          rcases closer with rfl | rfl | rfl | rfl <;> decide

theorem whole_chars_written (minus : Bool) (size : Nat) {rest : List Char}
    (closed : Closed rest) :
    wholeChars ((Literal.whole minus size).chars ++ rest) =
      some ((Literal.whole minus size).chars, rest) := by
  obtain ⟨d, after, begins, stops, _⟩ := closed.begins
  obtain ⟨c, digits, shape, digit, zero⟩ := digits_begin size
  have more : ∀ e ∈ digits, isDigit e = true := by
    intro e inside
    exact digits_all size e (shape ▸ List.mem_cons_of_mem _ inside)
  have noMinus : c ≠ '-' := by
    intro same
    subst same
    cases digit
  have taken : (digits ++ rest).takeWhile isDigit = digits := by
    rw [List.takeWhile_append_of_pos more, begins]
    simp [stops]
  have left : (digits ++ rest).dropWhile isDigit = rest := by
    rw [List.dropWhile_append_of_pos more, begins]
    simp [stops]
  -- A zero is read alone, so what follows it must not be a digit of the same number.
  by_cases alone : c = '0'
  · obtain ⟨_, nothing⟩ := zero alone
    subst nothing alone
    cases minus <;> simp [Literal.chars, shape, wholeChars]
  · cases minus <;> simp [Literal.chars, shape, wholeChars, noMinus, digit, taken, left]

theorem whole_number_written (minus : Bool) (size : Nat) :
    wholeNumber (Literal.whole minus size).chars = Literal.number minus size := by
  obtain ⟨c, digits, shape, digit, _⟩ := digits_begin size
  have read := nat_of_digits_to_digits size
  have noMinus : c ≠ '-' := by
    intro same
    subst same
    cases digit
  cases minus with
  | true => simp [Literal.chars, wholeNumber, Literal.number, read]
  | false =>
      rw [shape] at read
      simp [Literal.chars, wholeNumber, Literal.number, shape, noMinus, read]

theorem is_name_start_digit {c : Char} (digit : isDigit c = true) : isNameStart c = false := by
  simp only [isDigit, Bool.and_eq_true, decide_eq_true_eq] at digit
  have upper : c.val.toNat ≤ 57 := digit.2
  have small : 'a'.val.toNat = 97 := rfl
  have big : 'A'.val.toNat = 65 := rfl
  have line : c ≠ '_' := by
    intro same
    subst same
    exact absurd upper (by decide)
  have noSmall : ¬ 'a' ≤ c := by
    rw [Char.le_def, UInt32.le_iff_toNat_le]
    omega
  have noBig : ¬ 'A' ≤ c := by
    rw [Char.le_def, UInt32.le_iff_toNat_le]
    omega
  simp [isNameStart, noSmall, noBig, line]

/-- How a whole number begins. -/
theorem whole_begins (minus : Bool) (size : Nat) {input rest : List Char}
    (start : skip input = (Literal.whole minus size).chars ++ rest) :
    ∃ c, At c input ∧ isNameStart c = false ∧ c ∉ ['"', '\'', '\x60'] ∧
      c ∉ ['t', 'f', 'T', 'F'] ∧ c ≠ '(' ∧ c ≠ 'n' := by
  cases minus with
  | true => exact ⟨'-', ⟨_, start⟩, by decide, by decide, by decide, by decide, by decide⟩
  | false =>
      obtain ⟨c, digits, shape, digit, _⟩ := digits_begin size
      have apart : ∀ d, isDigit d = false → c ≠ d := by
        intro d other same
        rw [same, other] at digit
        cases digit
      refine ⟨c, ⟨digits ++ rest, ?_⟩, is_name_start_digit digit, ?_, ?_, apart _ (by decide),
        apart _ (by decide)⟩
      · rw [start]
        simp [Literal.chars, shape]
      · simp only [List.mem_cons, List.not_mem_nil, or_false, not_or]
        exact ⟨apart _ (by decide), apart _ (by decide), apart _ (by decide)⟩
      · simp only [List.mem_cons, List.not_mem_nil, or_false, not_or]
        exact ⟨apart _ (by decide), apart _ (by decide), apart _ (by decide), apart _ (by decide)⟩

theorem logical_part_whole (levels : Nat) (minus : Bool) (size : Nat) {input rest : List Char}
    (closed : Closed rest) (start : skip input = (Literal.whole minus size).chars ++ rest) :
    logicalPart (levels + 7) input = some (literalExpr (.whole minus size), rest) := by
  obtain ⟨c, here, noStart, noQuote, noBool, noGroup, noN⟩ := whole_begins minus size start
  have noName : name input = none := name_none here noStart
  have noPath : path input = none := path_none here noStart
  have chars := whole_chars_written minus size closed
  rw [← start] at chars
  have read : whole input = some (.whole (Literal.number minus size), rest) := by
    simp [whole, chars, whole_number_written]
  have noReal : real input = none := by
    obtain ⟨d, after, begins, _, noPoint⟩ := closed.begins
    simp [real, chars, begins, noPoint]
  have part : concatPart (levels + 2) input =
      some (.whole (Literal.number minus size), rest) := by
    rw [concatPart, call_of_none _ noName, noReal, read]
  have noText : textFiltered (levels + 4) input = none := by
    rw [textFiltered, concatenation_alone closed part, quoted_none here noQuote]
    rfl
  have leaf : atom (levels + 1) input = some (.whole (Literal.number minus size), rest) := by
    rw [atom, boolean_none here noBool, test_of_none _ noPath, macro_call_of_none _ noName,
      call_of_none _ noName, noPath, noReal, read]
  apply logical_part_condition (word_none (symbol_none here rfl (Ne.symm noN)))
  apply condition_operand closed
  apply operand_of_term noText
  exact term_filtered_atom closed (symbol_none here rfl (Ne.symm noGroup)) leaf

theorem logical_part_literal (levels : Nat) (literal : Literal) (plain : literal.Plain)
    {input rest : List Char} (closed : Closed rest)
    (start : skip input = literal.chars ++ rest) :
    logicalPart (levels + 7) input = some (literalExpr literal, rest) := by
  cases literal with
  | text quoted => exact logical_part_text (levels + 1) quoted plain closed start
  | whole minus size => exact logical_part_whole levels minus size closed start

/-! Arrays. -/

theorem literal_begins (literal : Literal) :
    ∃ c rest, literal.chars = c :: rest ∧ isSpace c = false := by
  cases literal with
  | text quoted => exact ⟨_, _, rfl, by cases quoted.quote <;> decide⟩
  | whole minus size =>
      obtain ⟨c, digits, shape, digit, _⟩ := digits_begin size
      cases minus with
      | true => exact ⟨'-', _, rfl, by decide⟩
      | false => exact ⟨c, digits, shape, dark_of_kind isDigit (by decide) digit⟩

theorem bracket_alone {c : Char} (bracket : c = '[' ∨ c = ']') :
    isNameStart c = false ∧ (c ≠ '-' ∧ isDigit c = false) ∧ c ∉ ['"', '\'', '\x60'] := by
  rcases bracket with rfl | rfl <;> decide

theorem concat_part_none (levels : Nat) {c : Char} {input : List Char} (here : At c input)
    (bracket : c = '[' ∨ c = ']') : concatPart levels input = none := by
  obtain ⟨noStart, noNumber, noQuote⟩ := bracket_alone bracket
  cases levels with
  | zero => rw [concatPart]
  | succ levels =>
      rw [concatPart, call_of_none _ (name_none here noStart), real_none here noNumber,
        whole_none here noNumber, quoted_none here noQuote, path_none here noStart]
      rfl

theorem text_filtered_none (levels : Nat) {c : Char} {input : List Char} (here : At c input)
    (bracket : c = '[' ∨ c = ']') : textFiltered levels input = none := by
  have noQuote : quoted input = none := quoted_none here (bracket_alone bracket).2.2
  have noConcat : ∀ levels, concatenation levels input = none := by
    intro levels
    cases levels with
    | zero => rw [concatenation]
    | succ levels => rw [concatenation, concat_part_none levels here bracket]; rfl
  cases levels with
  | zero => rw [textFiltered]
  | succ levels => rw [textFiltered, noConcat, noQuote]; rfl

theorem term_filtered_none (levels : Nat) {c : Char} {input : List Char} (here : At c input)
    (bracket : c = '[' ∨ c = ']') : termFiltered levels input = none := by
  obtain ⟨noStart, noNumber, _⟩ := bracket_alone bracket
  have noBool : boolean input = none :=
    boolean_none here (by rcases bracket with rfl | rfl <;> decide)
  have noGroup : symbol "(" input = none :=
    symbol_none here rfl (by rcases bracket with rfl | rfl <;> decide)
  have noName := name_none here noStart
  have noPath := path_none here noStart
  have noAtom : ∀ levels, atom levels input = none := by
    intro levels
    cases levels with
    | zero => rw [atom]
    | succ levels =>
        rw [atom, noBool, test_of_none _ noPath, macro_call_of_none _ noName, call_of_none _ noName,
          noPath, real_none here noNumber, whole_none here noNumber]
  have noPart : ∀ levels, arithmeticPart levels input = none := by
    intro levels
    cases levels with
    | zero => rw [arithmeticPart]
    | succ levels => rw [arithmeticPart, noGroup]; exact noAtom levels
  have noMath : ∀ levels, arithmetic levels input = none := by
    intro levels
    cases levels with
    | zero => rw [arithmetic]
    | succ levels => rw [arithmetic, noPart]; rfl
  cases levels with
  | zero => rw [termFiltered]
  | succ levels => rw [termFiltered, noMath]; rfl

/-- Nothing but an array begins with a bracket. -/
theorem logical_part_none (levels : Nat) {c : Char} {input : List Char} (here : At c input)
    (bracket : c = '[' ∨ c = ']') : logicalPart levels input = none := by
  have noNot : word "not" input = none :=
    word_none (symbol_none here rfl (by rcases bracket with rfl | rfl <;> decide))
  have noGroup : symbol "(" input = none :=
    symbol_none here rfl (by rcases bracket with rfl | rfl <;> decide)
  have noOperand : ∀ levels, operandOf levels input = none := by
    intro levels
    cases levels with
    | zero => rw [operandOf]
    | succ levels =>
        rw [operandOf, text_filtered_none _ here bracket, term_filtered_none _ here bracket]
        rfl
  have noCondition : ∀ levels, condition levels input = none := by
    intro levels
    cases levels with
    | zero => rw [condition]
    | succ levels => rw [condition, noOperand]; rfl
  cases levels with
  | zero => rw [logicalPart]
  | succ levels =>
      rw [logicalPart, noNot]
      simp [noCondition, noGroup]

def furtherItems (more : List Literal) : List Char :=
  more.flatMap fun literal => ',' :: ' ' :: literal.chars

theorem array_items_written (more : List Literal) (literal : Literal) (levels : Nat)
    (enough : more.length + 8 ≤ levels) (plain : ∀ item ∈ literal :: more, item.Plain)
    {input rest : List Char}
    (start : skip input = literal.chars ++ (furtherItems more ++ ']' :: rest)) :
    arrayItems levels input = ((literal :: more).map literalExpr, ']' :: rest) := by
  -- Each item takes one level, and the last one needs eight to be read itself.
  induction more generalizing literal levels input with
  | nil =>
      obtain ⟨n, rfl⟩ : ∃ n, levels = n + 8 := ⟨levels - 8, by omega⟩
      have closed : Closed (']' :: rest) := ⟨']', by decide, At.cons (by decide) rest⟩
      have first := logical_part_literal n literal (plain literal List.mem_cons_self) closed start
      have noComma : symbol "," (']' :: rest) = none :=
        symbol_none (At.cons (by decide) rest) rfl (by decide)
      rw [arrayItems, first]
      simp [noComma]
  | cons next more ih =>
      obtain ⟨n, rfl⟩ : ∃ n, levels = n + 8 := ⟨levels - 8, by omega⟩
      have after : furtherItems (next :: more) ++ ']' :: rest =
          ',' :: ' ' :: (next.chars ++ (furtherItems more ++ ']' :: rest)) := by
        simp [furtherItems]
      rw [after] at start
      have closed : Closed (',' :: ' ' :: (next.chars ++ (furtherItems more ++ ']' :: rest))) :=
        ⟨',', by decide, At.cons (by decide) _⟩
      have first := logical_part_literal n literal (plain literal List.mem_cons_self) closed start
      obtain ⟨c, chars, shape, dark⟩ := literal_begins next
      have begins : skip (' ' :: (next.chars ++ (furtherItems more ++ ']' :: rest))) =
          next.chars ++ (furtherItems more ++ ']' :: rest) := by
        rw [shape]
        exact skip_cons dark _
      have later := ih next (n + 7) (by simp only [List.length_cons] at enough; omega)
        (fun item inside => plain item (List.mem_cons_of_mem _ inside)) begins
      rw [arrayItems, first]
      have comma : symbol "," (',' :: ' ' :: (next.chars ++ (furtherItems more ++ ']' :: rest))) =
          some (' ' :: (next.chars ++ (furtherItems more ++ ']' :: rest))) := rfl
      simp only [comma, later, List.map_cons]

theorem array_filtered_written (levels : Nat) (literals : List Literal)
    (enough : literals.length + 8 ≤ levels) (plain : ∀ literal ∈ literals, literal.Plain)
    {input rest : List Char} (closed : Closed rest)
    (start : skip input = (Argument.many literals).chars ++ rest) :
    arrayFiltered (levels + 1) input = some (argumentExpr (.many literals), rest) := by
  have opened : symbol "[" input =
      some (separated (literals.map Literal.chars) ++ ']' :: rest) := by
    rw [symbol, start]
    simp [Argument.chars, exactly]
    rfl
  have items : arrayItems levels (separated (literals.map Literal.chars) ++ ']' :: rest) =
      (literals.map literalExpr, ']' :: rest) := by
    cases literals with
    | nil =>
        obtain ⟨n, rfl⟩ : ∃ n, levels = n + 1 := ⟨levels - 1, by simp at enough; omega⟩
        rw [arrayItems]
        simp [separated, logical_part_none n (At.cons (by decide) rest) (.inr rfl)]
    | cons literal more =>
        obtain ⟨c, chars, shape, dark⟩ := literal_begins literal
        apply array_items_written more literal levels (by simp at enough; omega) plain
        rw [List.map_cons, separated, shape, List.cons_append, List.cons_append,
          skip_cons dark, furtherItems, List.flatMap_map]
        simp
  have shut : symbol "]" (']' :: rest) = some rest := rfl
  rw [arrayFiltered, opened]
  simp [items, shut, filters_of_closed _ closed, argumentExpr, Expr.ofTerm]

theorem separated_length (parts : List (List Char)) :
    parts.length ≤ (separated parts).length + 1 := by
  cases parts with
  | nil => exact Nat.zero_le _
  | cons first rest =>
      have further : rest.length ≤ (rest.flatMap fun next => ',' :: ' ' :: next).length := by
        induction rest with
        | nil => exact Nat.le_refl _
        | cons next rest ih =>
            simp only [List.flatMap_cons, List.length_append, List.length_cons]
            omega
      simp only [separated, List.length_append, List.length_cons]
      omega

/-- What is written for an argument is read as that argument. -/
theorem value_argument (argument : Argument) (plain : argument.Plain) {levels : Nat}
    (enough : argument.chars.length + 9 ≤ levels) {input rest : List Char}
    (closed : Closed rest) (start : skip input = argument.chars ++ rest) :
    value levels input = some (argumentExpr argument, rest) := by
  cases argument with
  | one literal =>
      obtain ⟨n, rfl⟩ : ∃ n, levels = n + 9 := ⟨levels - 9, by omega⟩
      exact value_part closed (logical_part_literal n literal plain closed start)
  | many literals =>
      have size := separated_length (literals.map Literal.chars)
      simp only [Argument.chars, List.length_append, List.length_cons, List.length_nil,
        List.length_map] at enough size
      obtain ⟨n, rfl⟩ : ∃ n, levels = n + 2 := ⟨levels - 2, by omega⟩
      have here : At '[' input := ⟨_, start⟩
      have noLogic : logical (n + 1) input = none := by
        rw [logical, logical_part_none n here (.inl rfl)]
        rfl
      rw [value, noLogic]
      exact array_filtered_written n literals (by omega) plain closed start

theorem skip_argument (argument : Argument) (rest : List Char) :
    skip (argument.chars ++ rest) = argument.chars ++ rest := by
  cases argument with
  | one literal =>
      obtain ⟨c, chars, shape, dark⟩ := literal_begins literal
      rw [Argument.chars, shape]
      exact skip_cons dark _
  | many literals => exact skip_cons (by decide) _

end Stencil.Markup.Grammar
