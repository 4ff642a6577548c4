import Stencil.Builtin

/-!
Text that is escaped for markup. It has no character left that could open a tag or end an
attribute, and an ampersand in it always begins an entity. Since escaping replaces the ampersands
of the text as well, what was an entity before is told apart from what has become one, and
replacing the entities from left to right gives the text back.
-/

namespace Stencil.Builtin

/-- What escaped characters are written as. -/
def entities : List (List Char) :=
  ["&amp;".toList, "&lt;".toList, "&gt;".toList, "&quot;".toList, "&#x27;".toList]

def unescape : List Char → List Char
  | '&' :: 'a' :: 'm' :: 'p' :: ';' :: rest => '&' :: unescape rest
  | '&' :: 'l' :: 't' :: ';' :: rest => '<' :: unescape rest
  | '&' :: 'g' :: 't' :: ';' :: rest => '>' :: unescape rest
  | '&' :: 'q' :: 'u' :: 'o' :: 't' :: ';' :: rest => '"' :: unescape rest
  | '&' :: '#' :: 'x' :: '2' :: '7' :: ';' :: rest => '\'' :: unescape rest
  | c :: rest => c :: unescape rest
  | [] => []

def unescapeHtml (text : String) : String := String.ofList (unescape text.toList)

/-- A character is written as an entity, or is as good as it stands. -/
theorem escape_char_cases (c : Char) :
    escapeChar c ∈ entities ∨
      escapeChar c = [c] ∧ c ≠ '&' ∧ c ∉ ['<', '>', '"', '\''] := by
  unfold escapeChar
  split
  · exact .inl (by decide)
  · exact .inl (by decide)
  · exact .inl (by decide)
  · exact .inl (by decide)
  · exact .inl (by decide)
  · rename_i amp less greater double single
    refine .inr ⟨rfl, amp, ?_⟩
    simp only [List.mem_cons, List.not_mem_nil, or_false, not_or]
    exact ⟨less, greater, double, single⟩

theorem unescape_other {c : Char} (other : c ≠ '&') (rest : List Char) :
    unescape (c :: rest) = c :: unescape rest := by
  rw [unescape.eq_def]
  split <;> simp_all

/-- Whatever comes after it, an escaped character is read back as itself. -/
theorem unescape_escape_char (c : Char) (rest : List Char) :
    unescape (escapeChar c ++ rest) = c :: unescape rest := by
  unfold escapeChar
  split
  · rfl
  · rfl
  · rfl
  · rfl
  · rfl
  · rename_i other _ _ _ _
    exact unescape_other other rest

theorem unescape_escaped (chars : List Char) : unescape (chars.flatMap escapeChar) = chars := by
  induction chars with
  | nil => rfl
  | cons c rest ih => rw [List.flatMap_cons, unescape_escape_char, ih]

/-- No entity has one of these characters, and only the first character of an entity is an
ampersand. -/
theorem entity_safe {entity : List Char} (member : entity ∈ entities) :
    (∀ c ∈ ['<', '>', '"', '\''], c ∉ entity) ∧ '&' ∉ entity.tail := by
  simp only [entities, List.mem_cons, List.not_mem_nil, or_false] at member
  rcases member with rfl | rfl | rfl | rfl | rfl <;> simp

theorem escaped_safe (chars : List Char) :
    ∀ c ∈ ['<', '>', '"', '\''], c ∉ chars.flatMap escapeChar := by
  intro c risky escaped
  obtain ⟨source, _, member⟩ := List.mem_flatMap.mp escaped
  rcases escape_char_cases source with entity | ⟨same, _, safe⟩
  · exact (entity_safe entity).1 c risky member
  · rw [same, List.mem_singleton] at member
    rw [member] at risky
    exact safe risky

/-- An ampersand in an escaped character is the beginning of all of it. -/
theorem escape_char_amp {c : Char} {before after : List Char}
    (split : escapeChar c = before ++ '&' :: after) : before = [] ∧ escapeChar c ∈ entities := by
  rcases escape_char_cases c with entity | ⟨same, other, _⟩
  · refine ⟨?_, entity⟩
    cases before with
    | nil => rfl
    | cons first before =>
        have later : '&' ∈ (escapeChar c).tail := by
          rw [split]
          exact List.mem_append_right before List.mem_cons_self
        exact absurd later (entity_safe entity).2
  · have own : '&' ∈ escapeChar c := by
      rw [split]
      exact List.mem_append_right before List.mem_cons_self
    rw [same, List.mem_singleton] at own
    exact absurd own.symm other

theorem escaped_amp {chars before after : List Char}
    (split : chars.flatMap escapeChar = before ++ '&' :: after) :
    ∃ entity ∈ entities, entity <+: '&' :: after := by
  induction chars generalizing before with
  | nil => exact absurd split.symm (List.append_ne_nil_of_right_ne_nil before nofun)
  | cons c rest ih =>
      rw [List.flatMap_cons] at split
      rcases List.append_eq_append_iff.mp split with ⟨later, _, further⟩ | ⟨inner, own, further⟩
      · exact ih further
      · cases inner with
        | nil => exact @ih [] further.symm
        | cons first inner =>
            obtain ⟨same, behind⟩ := List.cons.inj further
            subst same
            obtain ⟨nothing, entity⟩ := escape_char_amp own
            refine ⟨escapeChar c, entity, ?_⟩
            rw [own, nothing, behind]
            exact ⟨rest.flatMap escapeChar, rfl⟩

theorem escape_html_to_list (text : String) :
    (escapeHtml text).toList = text.toList.flatMap escapeChar := String.toList_ofList

theorem unescape_html_escape_html (text : String) : unescapeHtml (escapeHtml text) = text := by
  rw [unescapeHtml, escape_html_to_list, unescape_escaped, String.ofList_toList]

theorem escape_html_append (first second : String) :
    escapeHtml (first ++ second) = escapeHtml first ++ escapeHtml second := by
  rw [escapeHtml, String.toList_append, List.flatMap_append, String.ofList_append]
  rfl

/-- What the builtin makes of a text is safe to stand in markup, and nothing of the text is lost:
the entities read back to it, so no two texts are escaped alike, and parts are escaped one by
one. -/
theorem escaped_text_safe_and_whole (text : String) :
    registry.call "escape_html" [.string text] = .done (.string (escapeHtml text)) ∧
    (∀ c ∈ ['<', '>', '"', '\''], c ∉ (escapeHtml text).toList) ∧
    (∀ before after, (escapeHtml text).toList = before ++ '&' :: after →
      ∃ entity ∈ entities, entity <+: '&' :: after) ∧
    unescapeHtml (escapeHtml text) = text ∧
    (∀ other, escapeHtml other = escapeHtml text → other = text) ∧
    ∀ other, escapeHtml (text ++ other) = escapeHtml text ++ escapeHtml other := by
  refine ⟨rfl, ?_, ?_, unescape_html_escape_html text, ?_, escape_html_append text⟩
  · rw [escape_html_to_list]
    exact escaped_safe text.toList
  · intro before after split
    rw [escape_html_to_list] at split
    exact escaped_amp split
  · intro other same
    rw [← unescape_html_escape_html other, same, unescape_html_escape_html]

/-- An entity in the text is escaped once more. -/
example : escapeHtml "<b>it's &amp;</b>" =
    "&lt;b&gt;it&#x27;s &amp;amp;&lt;/b&gt;" := by decide

end Stencil.Builtin
