import Stencil.Assignment
import Stencil.Builtin
import Stencil.Command.Basic
import Stencil.DataFile
import Stencil.Proofs.FileChange
import Stencil.Proofs.JsonToken

/-!
JSON text that has been written is read back as the value it was written from, if that has no
floats in it and is not nested too deeply. So a value that a page prints as JSON can be given
again as an assignment or in a file, and is the same, its entries in the same order.
-/

namespace Stencil

mutual

/-- How deep arrays and objects are nested. -/
def Value.depth : Value → Nat
  | .array items => itemsDepth items + 1
  | .object entries => entriesDepth entries + 1
  | .null | .bool _ | .number _ | .string _ => 0

def itemsDepth : List Value → Nat
  | [] => 0
  | v :: vs => max v.depth (itemsDepth vs)

def entriesDepth : List (String × Value) → Nat
  | [] => 0
  | (_, v) :: rest => max v.depth (entriesDepth rest)

end

mutual

/-- All numbers in the value are whole, and no object in it has a key twice. -/
def Value.Lossless : Value → Prop
  | .null | .bool _ | .number (.whole _) | .string _ => True
  | .number (.real _) => False
  | .array items => ItemsLossless items
  | .object entries => (Fields.keys entries).Nodup ∧ EntriesLossless entries

def ItemsLossless : List Value → Prop
  | [] => True
  | v :: vs => v.Lossless ∧ ItemsLossless vs

def EntriesLossless : List (String × Value) → Prop
  | [] => True
  | (_, v) :: rest => v.Lossless ∧ EntriesLossless rest

end

namespace Json

def itemsChars : List Value → List Char
  | [] => []
  | v :: vs => v.jsonChars ++ Value.jsonRestItems vs

def entriesChars : List (String × Value) → List Char
  | [] => []
  | (k, v) :: rest => quoteJson k ++ ':' :: v.jsonChars ++ Value.jsonRestEntries rest

theorem json_chars_array (v : Value) (vs : List Value) :
    (Value.array (v :: vs)).jsonChars = '[' :: itemsChars (v :: vs) := rfl

theorem json_chars_object (entry : String × Value) (rest : List (String × Value)) :
    (Value.object (entry :: rest)).jsonChars = '\x7b' :: entriesChars (entry :: rest) := rfl

theorem json_rest_items_cons (v : Value) (vs : List Value) :
    Value.jsonRestItems (v :: vs) = ',' :: itemsChars (v :: vs) := rfl

theorem json_rest_entries_cons (entry : String × Value) (rest : List (String × Value)) :
    Value.jsonRestEntries (entry :: rest) = ',' :: entriesChars (entry :: rest) := rfl

theorem follows_items (vs : List Value) (rest : List Char) :
    Follows (Value.jsonRestItems vs ++ rest) := by
  intro c first
  cases vs with
  | nil =>
      cases first
      decide
  | cons w ws =>
      rw [json_rest_items_cons] at first
      cases first
      decide

theorem follows_entries (entries : List (String × Value)) (rest : List Char) :
    Follows (Value.jsonRestEntries entries ++ rest) := by
  intro c first
  cases entries with
  | nil =>
      cases first
      decide
  | cons entry entries =>
      rw [json_rest_entries_cons] at first
      cases first
      decide

theorem skip_space_dark {c : Char} (dark : isSpace c = false) (rest : List Char) :
    skipSpace (c :: rest) = c :: rest := by
  rw [skipSpace, List.dropWhile_cons, dark]
  rfl

/-- A value begins with neither a blank nor a closing bracket. -/
theorem json_chars_begins (v : Value) (lossless : v.Lossless) :
    ∃ c rest, v.jsonChars = c :: rest ∧ isSpace c = false ∧ c ≠ ']' := by
  cases v with
  | null => exact ⟨'n', _, rfl, by decide, by decide⟩
  | bool b =>
      cases b with
      | true => exact ⟨'t', _, rfl, by decide, by decide⟩
      | false => exact ⟨'f', _, rfl, by decide, by decide⟩
  | number n =>
      cases n with
      | whole n =>
          obtain ⟨c, rest, shape, dark, apart⟩ := whole_begins n
          refine ⟨c, rest, shape, dark, ?_⟩
          rintro rfl
          exact apart (by decide)
      | real x => cases lossless
  | string s => exact ⟨'"', _, rfl, by decide, by decide⟩
  | array items =>
      cases items with
      | nil => exact ⟨'[', _, rfl, by decide, by decide⟩
      | cons v vs => exact ⟨'[', _, json_chars_array v vs, by decide, by decide⟩
  | object entries =>
      cases entries with
      | nil => exact ⟨'\x7b', _, rfl, by decide, by decide⟩
      | cons entry rest => exact ⟨'\x7b', _, json_chars_object entry rest, by decide, by decide⟩

theorem read_value_string (fuel depth : Nat) (text : String) (rest : List Char) :
    readValue (fuel + 1) depth (quoteJson text ++ rest) = some (.string text, rest) := by
  have quoted : quoteJson text ++ rest =
      '"' :: (text.toList.flatMap escapeJsonChar ++ '"' :: rest) := by
    simp [quoteJson]
  rw [quoted, readValue, skip_space_dark (by decide)]
  simp only [if_true, read_string_text, Option.bind_eq_bind, Option.bind_some, String.ofList_toList]

theorem read_value_number (fuel depth : Nat) (n : Whole) {rest : List Char}
    (follows : Follows rest) :
    readValue (fuel + 1) depth ((Number.whole n).text.toList ++ rest) =
      some (.number (.whole n), rest) := by
  obtain ⟨c, more, shape, dark, apart⟩ := whole_begins n
  have read := read_number_whole n follows
  simp only [List.mem_cons, List.not_mem_nil, or_false, not_or] at apart
  rw [shape, List.cons_append] at read ⊢
  rw [readValue, skip_space_dark dark]
  simp only [apart, if_false, read, Option.bind_eq_bind, Option.bind_some]

/-- An array is read if its items are read one level further down. -/
theorem read_value_array {fuel : Nat} {v : Value} {vs : List Value} (first : v.Lossless)
    {rest : List Char}
    (read : ∀ depth, readItems fuel depth (itemsChars (v :: vs) ++ rest) =
      if itemsDepth (v :: vs) ≤ depth then some (v :: vs, rest) else none) (depth : Nat) :
    readValue (fuel + 1) depth ((Value.array (v :: vs)).jsonChars ++ rest) =
      if (Value.array (v :: vs)).depth ≤ depth then some (.array (v :: vs), rest) else none := by
  obtain ⟨c, more, shape, dark, opens⟩ := json_chars_begins v first
  have begins : itemsChars (v :: vs) ++ rest = c :: (more ++ Value.jsonRestItems vs ++ rest) := by
    rw [itemsChars, shape, List.cons_append, List.cons_append]
  rw [json_chars_array, List.cons_append, readValue, skip_space_dark (by decide)]
  cases depth with
  | zero => rfl
  | succ depth =>
      have skipped : skipSpace (itemsChars (v :: vs) ++ rest) = itemsChars (v :: vs) ++ rest := by
        rw [begins, skip_space_dark dark]
      simp only [skipped, Char.reduceEq, if_false, if_true, Value.depth, Nat.add_le_add_iff_right]
      split
      · rename_i closed
        rw [begins] at closed
        exact absurd (List.cons.inj closed).1 opens
      · rw [read depth]
        split_ifs <;> rfl

theorem read_value_object {fuel : Nat} {entry : String × Value} {entries : List (String × Value)}
    (distinct : (Fields.keys (entry :: entries)).Nodup) {rest : List Char}
    (read : ∀ depth, readEntries fuel depth (entriesChars (entry :: entries) ++ rest) =
      if entriesDepth (entry :: entries) ≤ depth then some (entry :: entries, rest) else none)
    (depth : Nat) :
    readValue (fuel + 1) depth ((Value.object (entry :: entries)).jsonChars ++ rest) =
      if (Value.object (entry :: entries)).depth ≤ depth then
        some (.object (entry :: entries), rest)
      else none := by
  obtain ⟨k, v⟩ := entry
  have skipped : skipSpace (entriesChars ((k, v) :: entries) ++ rest) =
      entriesChars ((k, v) :: entries) ++ rest := skip_space_dark (by decide) _
  rw [json_chars_object, List.cons_append, readValue, skip_space_dark (by decide)]
  cases depth with
  | zero => rfl
  | succ depth =>
      simp only [skipped, Char.reduceEq, if_false, if_true, Value.depth, Nat.add_le_add_iff_right]
      split
      · rename_i closed
        cases closed
      · rw [read depth]
        split_ifs
        · simp only [Option.bind_eq_bind, Option.bind_some, Fields.of_list_distinct distinct]
        · rfl

/-- Items are read if the first is, and the others are where there are any. -/
theorem read_items_cons {fuel depth : Nat} {v : Value} {vs : List Value} {rest : List Char}
    (first : readValue fuel depth (v.jsonChars ++ (Value.jsonRestItems vs ++ rest)) =
      if v.depth ≤ depth then some (v, Value.jsonRestItems vs ++ rest) else none)
    (later : vs ≠ [] → readItems fuel depth (itemsChars vs ++ rest) =
      if itemsDepth vs ≤ depth then some (vs, rest) else none) :
    readItems (fuel + 1) depth (itemsChars (v :: vs) ++ rest) =
      if itemsDepth (v :: vs) ≤ depth then some (v :: vs, rest) else none := by
  rw [itemsChars, List.append_assoc, readItems, first, itemsDepth]
  simp only [Nat.max_le]
  by_cases shallow : v.depth ≤ depth
  · rw [if_pos shallow]
    cases vs with
    | nil =>
        rw [if_pos ⟨shallow, Nat.zero_le depth⟩]
        rfl
    | cons w ws =>
        have read := later (List.cons_ne_nil w ws)
        simp only [json_rest_items_cons, List.cons_append, Option.bind_eq_bind, Option.bind_some,
          skip_space_dark (show isSpace ',' = false by decide), read, shallow, true_and]
        split_ifs <;> rfl
  · rw [if_neg shallow, if_neg fun both => shallow both.1]
    rfl

theorem read_entries_cons {fuel depth : Nat} {k : String} {v : Value}
    {entries : List (String × Value)} {rest : List Char}
    (first : readValue fuel depth (v.jsonChars ++ (Value.jsonRestEntries entries ++ rest)) =
      if v.depth ≤ depth then some (v, Value.jsonRestEntries entries ++ rest) else none)
    (later : entries ≠ [] → readEntries fuel depth (entriesChars entries ++ rest) =
      if entriesDepth entries ≤ depth then some (entries, rest) else none) :
    readEntries (fuel + 1) depth (entriesChars ((k, v) :: entries) ++ rest) =
      if entriesDepth ((k, v) :: entries) ≤ depth then some ((k, v) :: entries, rest)
      else none := by
  have shape : entriesChars ((k, v) :: entries) ++ rest =
      '"' :: (k.toList.flatMap escapeJsonChar ++
        '"' :: ':' :: (v.jsonChars ++ (Value.jsonRestEntries entries ++ rest))) := by
    simp [entriesChars, quoteJson]
  rw [shape, readEntries, skip_space_dark (by decide), entriesDepth]
  simp only [read_string_text, Option.bind_eq_bind, Option.bind_some,
    skip_space_dark (show isSpace ':' = false by decide), first, Nat.max_le, String.ofList_toList]
  by_cases shallow : v.depth ≤ depth
  · rw [if_pos shallow]
    cases entries with
    | nil =>
        rw [if_pos ⟨shallow, Nat.zero_le depth⟩]
        rfl
    | cons entry entries =>
        have read := later (List.cons_ne_nil entry entries)
        simp only [json_rest_entries_cons, List.cons_append, Option.bind_some,
          skip_space_dark (show isSpace ',' = false by decide), read, shallow, true_and]
        split_ifs <;> rfl
  · rw [if_neg shallow, if_neg fun both => shallow both.1]
    rfl

mutual

/-- One case for each kind of value. An array or an object is as deep as the deepest of what is
in it, and one level more. -/
theorem read_value_json : (v : Value) → v.Lossless → ∀ {fuel : Nat} (depth : Nat)
    {rest : List Char}, 2 * v.jsonChars.length ≤ fuel → Follows rest →
    readValue fuel depth (v.jsonChars ++ rest) =
      if v.depth ≤ depth then some (v, rest) else none
  | v, lossless, 0, depth, rest, enough, follows => by
      obtain ⟨c, more, shape, _⟩ := json_chars_begins v lossless
      rw [shape] at enough
      cases enough
  | .null, _, fuel + 1, depth, rest, _, _ => rfl
  | .bool true, _, fuel + 1, depth, rest, _, _ => rfl
  | .bool false, _, fuel + 1, depth, rest, _, _ => rfl
  | .number (.whole n), _, fuel + 1, depth, rest, _, follows =>
      read_value_number fuel depth n follows
  | .string text, _, fuel + 1, depth, rest, _, _ => read_value_string fuel depth text rest
  | .array [], _, fuel + 1, 0, rest, _, _ => rfl
  | .array [], _, fuel + 1, depth + 1, rest, _, _ => rfl
  | .array (v :: vs), lossless, fuel + 1, depth, rest, enough, _ => by
      rw [json_chars_array, List.length_cons] at enough
      apply read_value_array lossless.1
      intro level
      exact read_items_json (v :: vs) lossless (List.cons_ne_nil v vs) level (by omega)
  | .object [], _, fuel + 1, 0, rest, _, _ => rfl
  | .object [], _, fuel + 1, depth + 1, rest, _, _ => rfl
  | .object (entry :: entries), lossless, fuel + 1, depth, rest, enough, _ => by
      rw [json_chars_object, List.length_cons] at enough
      apply read_value_object lossless.1
      intro level
      exact read_entries_json (entry :: entries) lossless.2 (List.cons_ne_nil entry entries) level
        (by omega)

theorem read_items_json : (items : List Value) → ItemsLossless items → items ≠ [] →
    ∀ {fuel : Nat} (depth : Nat) {rest : List Char}, 2 * (itemsChars items).length ≤ fuel →
    readItems fuel depth (itemsChars items ++ rest) =
      if itemsDepth items ≤ depth then some (items, rest) else none
  | [], _, nonempty, _, _, _, _ => absurd rfl nonempty
  | v :: vs, lossless, _, fuel, depth, rest, enough => by
      have long : 1 ≤ (Value.jsonRestItems vs).length := by
        cases vs <;> exact Nat.le_add_left 1 _
      rw [itemsChars, List.length_append] at enough
      obtain ⟨fuel, rfl⟩ : ∃ less, fuel = less + 1 := ⟨fuel - 1, by omega⟩
      apply read_items_cons
      · exact read_value_json v lossless.1 depth (by omega) (follows_items vs rest)
      · intro more
        apply read_items_json vs lossless.2 more depth
        cases vs with
        | nil => exact absurd rfl more
        | cons w ws =>
            rw [json_rest_items_cons, List.length_cons] at enough
            omega

theorem read_entries_json : (entries : List (String × Value)) → EntriesLossless entries →
    entries ≠ [] → ∀ {fuel : Nat} (depth : Nat) {rest : List Char},
    2 * (entriesChars entries).length ≤ fuel →
    readEntries fuel depth (entriesChars entries ++ rest) =
      if entriesDepth entries ≤ depth then some (entries, rest) else none
  | [], _, nonempty, _, _, _, _ => absurd rfl nonempty
  | (k, v) :: entries, lossless, _, fuel, depth, rest, enough => by
      rw [entriesChars, List.length_append, List.length_append, List.length_cons] at enough
      obtain ⟨fuel, rfl⟩ : ∃ less, fuel = less + 1 := ⟨fuel - 1, by omega⟩
      apply read_entries_cons
      · exact read_value_json v lossless.1 depth (by omega) (follows_entries entries rest)
      · intro more
        apply read_entries_json entries lossless.2 more depth
        cases entries with
        | nil => exact absurd rfl more
        | cons entry entries =>
            rw [json_rest_entries_cons, List.length_cons] at enough
            omega

end

/-- Written text is read as the value, unless the value is nested too deeply. -/
theorem parse?_json (v : Value) (lossless : v.Lossless) :
    parse? v.json = if v.depth ≤ maxDepth then some v else none := by
  have follows : Follows [] := nofun
  have read := read_value_json v lossless maxDepth
    (Nat.le_add_right (2 * v.jsonChars.length) 2) follows
  rw [List.append_nil] at read
  rw [parse?, Value.json, String.toList_ofList]
  simp only [read]
  split_ifs <;> rfl

end Json

/-- Whatever functions the builtins are laid over, `json` is the builtin. -/
theorem Builtin.find?_json (functions : Registry) :
    (Builtin.register functions).find? "json" = some fun args => .ofExcept (Builtin.json args) := by
  simp [Builtin.register, Builtin.table, Registry.register, Registry.find?, lookup_insert_sorted]

theorem Assignment.parse_json {key raw : String} (unsigned : '=' ∉ key.toList)
    (named : trimText key ≠ "") {v : Value} (read : Json.parse? raw = some v) :
    Assignment.parse (key ++ "=" ++ raw) = .ok ⟨trimText key, v⟩ := by
  have shape : (key ++ "=" ++ raw).toList = key.toList ++ '=' :: raw.toList := by
    simp [String.toList_append]
  have before : ∀ c ∈ key.toList, (c != '=') = true := by
    intro c member
    exact bne_iff_ne.mpr fun same => unsigned (same ▸ member)
  have nonempty : (trimText key).isEmpty = false := by
    simpa using named
  have taken : (key.toList ++ '=' :: raw.toList).takeWhile (· != '=') = key.toList := by
    rw [List.takeWhile_append_of_pos before]
    simp
  have left : (key.toList ++ '=' :: raw.toList).dropWhile (· != '=') = '=' :: raw.toList := by
    rw [List.dropWhile_append_of_pos before]
    simp
  unfold parse
  simp only [shape, taken, left, String.ofList_toList, nonempty, read, Bool.false_eq_true, if_false,
    Option.getD_some]

theorem FileTree.read_data_json {tree : FileTree} {path text : String}
    (json : DataFormat.ofPath? path = some .json) (whole : tree.readText path = .ok text)
    {v : Value} (read : Json.parse? text = some v) : tree.readData path = .ok v := by
  have parsed : DataFormat.json.parse? text = some v := read
  unfold readData
  rw [json]
  dsimp only
  rw [whole]
  dsimp only
  rw [parsed]

/-- The JSON text that the builtin writes for a value is printed as it is and is read back as the
same value, whether it stands behind an equals sign or in a file. So on the command line the
value can be set under a key, and an object can be the context. -/
theorem json_text_reads_back (v : Value) (lossless : v.Lossless)
    (shallow : v.depth ≤ Json.maxDepth) :
    (∀ functions more,
      (Builtin.register functions).call "json" (v :: more) = .done (.string v.json)) ∧
    (Value.string v.json).text = v.json ∧
    (∀ key : String, '=' ∉ key.toList → trimText key ≠ "" →
      Assignment.parse (key ++ "=" ++ v.json) = .ok ⟨trimText key, v⟩ ∧
      ∀ (order : PageOrder) (files : FileTree), order.contextFile = none →
        order.assignments = [key ++ "=" ++ v.json] →
        order.context files = .ok [(trimText key, v)]) ∧
    ∀ (files : FileTree) (path : String) (place : Place), DataFormat.ofPath? path = some .json →
      files.locate path = .ok place → files.node? place = some (.file v.json.toUTF8) →
      files.bars place .read = false →
      files.readData path = .ok v ∧
      ∀ (order : PageOrder) (fields : Fields), v = .object fields →
        order.contextFile = some path → order.assignments = [] →
        order.context files = .ok fields := by
  have read : Json.parse? v.json = some v := by
    rw [Json.parse?_json v lossless, if_pos shallow]
  refine ⟨?_, rfl, ?_, ?_⟩
  · intro functions more
    rw [Registry.call, Builtin.find?_json]
    rfl
  · intro key unsigned named
    have parsed := Assignment.parse_json unsigned named read
    refine ⟨parsed, ?_⟩
    intro order files noFile assigned
    simp only [PageOrder.context, noFile, assigned, List.foldlM_cons, List.foldlM_nil, parsed]
    rfl
  · intro files path place json led holds readable
    have parsed := FileTree.read_data_json json (FileTree.read_text_at led holds readable) read
    refine ⟨parsed, ?_⟩
    intro order fields same given assigned
    simp only [PageOrder.context, PageOrder.fileContext, given, assigned, List.foldlM_nil, parsed,
      same]
    rfl

def ledger : Value :=
  .object [
    ("b", .array [.number ((Number.ofInt? Whole.least).getD (Number.ofNat 0)),
      .number ((Number.ofInt? Whole.greatest).getD (Number.ofNat 0)), .null]),
    ("a\"é", .object [("\n\x01", .bool true), ("", .array [])]),
    ("", .string "\\ 🙂")]

theorem ledger_lossless : ledger.Lossless :=
  ⟨by decide, ⟨trivial, trivial, trivial, trivial⟩, ⟨by decide, trivial, trivial, trivial⟩,
    trivial, trivial⟩

theorem json_text_reads_back_ledger :
    (ledger.Lossless ∧ ledger.depth ≤ Json.maxDepth) ∧
    ledger.json = "\x7b\"b\":[-9223372036854775808,18446744073709551615,null],\"a\\\"é\":\x7b" ++
      "\"\\n\\u0001\":true,\"\":[]\x7d,\"\":\"\\\\ 🙂\"\x7d" ∧
    Assignment.parse (" data " ++ "=" ++ ledger.json) = .ok ⟨"data", ledger⟩ ∧
    FileTree.readData { entries := [(["data.json"], .file ledger.json.toUTF8)] } "data.json" =
      .ok ledger := by
  have shallow : ledger.depth ≤ Json.maxDepth := by decide
  obtain ⟨_, _, assigned, stored⟩ := json_text_reads_back ledger ledger_lossless shallow
  have trimmed : trimText " data " = "data" := by decide +kernel
  have parsed := (assigned " data " (by decide) (by rw [trimmed]; decide)).1
  rw [trimmed] at parsed
  refine ⟨⟨ledger_lossless, shallow⟩, by decide +kernel, parsed,
    (stored _ "data.json" ["data.json"] ?_ rfl rfl rfl).1⟩
  decide +kernel

end Stencil
