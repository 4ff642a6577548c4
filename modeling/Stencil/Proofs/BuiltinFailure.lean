import Stencil.Proofs.RegistryHistory

/-!
How builtins fail. A builtin fails on the arguments that it cannot take, and on no others; its
failure is a message that begins with its name. It looks at its first argument, or at its first
two, and does nothing besides, so further arguments change nothing and nothing is written.
-/

namespace Stencil

def Value.IsNested (value : Value) : Prop :=
  (∃ items, value = .array items) ∨ ∃ entries, value = .object entries

def Value.IsAtom (value : Value) : Prop :=
  value = .null ∨ (∃ b, value = .bool b) ∨ ∃ n, value = .number n

namespace Builtin

variable {α β : Type}

def Fails (outcome : Except Fault α) : Prop := ∃ fault, outcome = .error fault

/-- If this fails, then with a message that begins with the name of the function. -/
def Names (function : String) (outcome : Except Fault α) : Prop :=
  ∀ fault, outcome = .error fault →
    ∃ rest, fault = .message ("Function '" ++ function ++ "'" ++ rest)

theorem names_ok (function : String) (result : α) : Names function (.ok result) := nofun

theorem names_message {function text : String} (rest : String)
    (split : text = "Function '" ++ function ++ ("'" ++ rest)) :
    Names function (.error (.message text) : Except Fault α) := by
  intro fault failed
  cases failed
  exact ⟨rest, by rw [split, ← String.append_assoc]⟩

theorem Names.bind {function : String} {first : Except Fault α} {next : α → Except Fault β}
    (named : Names function first) (later : ∀ result, Names function (next result)) :
    Names function (first >>= next) := by
  cases first with
  | error fault =>
      intro other failed
      cases failed
      exact named fault rfl
  | ok result => exact later result

theorem argument_names (function : String) (args : List Value) (index : Nat) :
    Names function (argument function args index) := by
  unfold argument
  split
  · exact names_ok function _
  · refine names_message (" expects at least " ++ toString (index + 1) ++ " argument(s), got " ++
      toString args.length) ?_
    simp only [String.append_assoc]
    rfl

theorem argument_take (function : String) (args : List Value) (count : Nat) :
    argument function (args.take (count + 1)) 0 = argument function args 0 := by
  cases args <;> rfl

theorem first_fails_iff (function : String) (args : List Value) (next : Value → Except Fault α) :
    Fails (argument function args 0 >>= next) ↔
      args = [] ∨ ∃ first rest, args = first :: rest ∧ Fails (next first) := by
  cases args with
  | nil => exact ⟨fun _ => .inl rfl, fun _ => ⟨_, rfl⟩⟩
  | cons first rest =>
      constructor
      · exact fun fails => .inr ⟨first, rest, rfl, fails⟩
      · rintro (none | ⟨_, _, same, fails⟩)
        · cases none
        · cases same
          exact fails

theorem map_fails_iff (outcome : Except Fault α) (change : α → β) :
    Fails (outcome >>= fun result => .ok (change result)) ↔ Fails outcome := by
  cases outcome with
  | error fault => exact ⟨fun _ => ⟨fault, rfl⟩, fun _ => ⟨fault, rfl⟩⟩
  | ok result => exact ⟨nofun, nofun⟩

/-- The text of a value, unless it is nested. -/
def scalarText (function : String) (position : Nat) (value : Value) : Except Fault String :=
  match value with
  | .array _ | .object _ =>
      .error (.message (s!"Function '{function}' expects a scalar argument at position " ++
        s!"{position}, got {value.describe}"))
  | _ => .ok value.text

theorem scalar_eq (function : String) (args : List Value) (index : Nat) :
    scalar function args index =
      argument function args index >>= scalarText function (index + 1) := rfl

theorem scalar_text_names (function : String) (position : Nat) (value : Value) :
    Names function (scalarText function position value) := by
  unfold scalarText
  split
  · refine names_message (" expects a scalar argument at position " ++ toString position ++
      ", got an array") ?_
    simp only [String.append_assoc]
    rfl
  · refine names_message (" expects a scalar argument at position " ++ toString position ++
      ", got an object") ?_
    simp only [String.append_assoc]
    rfl
  · exact names_ok function _

theorem scalar_text_fails_iff (function : String) (position : Nat) (value : Value) :
    Fails (scalarText function position value) ↔ value.IsNested := by
  cases value <;> simp [Fails, scalarText, Value.IsNested]

/-- The failures name the function, and if there is a limit then no more arguments are looked
at. -/
structure Regular (function : String) (limit : Option Nat)
    (compute : List Value → Except Fault Value) : Prop where
  names : ∀ args, Names function (compute args)
  few : ∀ count ∈ limit, ∀ args, compute (args.take count) = compute args

def changing (function : String) (change : String → String) (args : List Value) :
    Except Fault Value :=
  scalar function args 0 >>= fun text => .ok (.string (change text))

theorem changing_listed {name : String}
    (member : name ∈ ["upper", "lower", "trim", "escape_html"]) :
    ∃ change, table.lookup name = some (changing name change) := by
  simp only [List.mem_cons, List.not_mem_nil, or_false] at member
  rcases member with rfl | rfl | rfl | rfl
  · exact ⟨upperText, rfl⟩
  · exact ⟨lowerText, rfl⟩
  · exact ⟨trimText, rfl⟩
  · exact ⟨escapeHtml, rfl⟩

theorem changing_fails_iff (function : String) (change : String → String) (args : List Value) :
    Fails (changing function change args) ↔
      args = [] ∨ ∃ first rest, args = first :: rest ∧ first.IsNested := by
  simp only [changing, map_fails_iff, scalar_eq, first_fails_iff, scalar_text_fails_iff]

theorem changing_regular (function : String) (change : String → String) :
    Regular function (some 1) (changing function change) where
  names args := by
    rw [changing, scalar_eq]
    refine ((argument_names function args 0).bind ?_).bind fun text => names_ok function _
    exact scalar_text_names function 1
  few := by
    rintro _ ⟨⟩ args
    rw [changing, changing, scalar_eq, scalar_eq, argument_take]

theorem json_eq (args : List Value) :
    json args = argument "json" args 0 >>= fun value => .ok (.string value.json) := rfl

theorem json_fails_iff (args : List Value) : Fails (json args) ↔ args = [] := by
  rw [json_eq, first_fails_iff]
  constructor
  · rintro (none | ⟨first, rest, _, _, failed⟩)
    · exact none
    · cases failed
  · exact .inl

theorem json_regular : Regular "json" (some 1) json where
  names args := (argument_names "json" args 0).bind fun value => names_ok "json" _
  few := by
    rintro _ ⟨⟩ args
    rw [json_eq, json_eq, argument_take]

def measure (value : Value) : Except Fault Value :=
  match value with
  | .string s => .ok (Value.ofNat s.length)
  | .array items => .ok (Value.ofNat items.length)
  | .object entries => .ok (Value.ofNat entries.length)
  | other => .error (.message s!"Function 'length' cannot measure {other.describe}")

theorem length_eq (args : List Value) : length args = argument "length" args 0 >>= measure := by
  rw [length]
  congr 1

theorem measure_fails_iff (value : Value) : Fails (measure value) ↔ value.IsAtom := by
  cases value <;> simp [Fails, measure, Value.IsAtom]

theorem measure_names (value : Value) : Names "length" (measure value) := by
  unfold measure
  split
  · exact names_ok "length" _
  · exact names_ok "length" _
  · exact names_ok "length" _
  · refine names_message (" cannot measure " ++ value.describe) ?_
    simp only [← String.append_assoc]
    rfl

theorem length_fails_iff (args : List Value) : Fails (length args) ↔
    args = [] ∨ ∃ first rest, args = first :: rest ∧ first.IsAtom := by
  simp only [length_eq, first_fails_iff, measure_fails_iff]

theorem length_regular : Regular "length" (some 1) length where
  names args := by
    rw [length_eq]
    exact (argument_names "length" args 0).bind measure_names
  few := by
    rintro _ ⟨⟩ args
    rw [length_eq, length_eq, argument_take]

def separator (args : List Value) : Except Fault String :=
  if args.length < 2 then .ok "" else scalar "join" args 1

/-- What is joined, with the separator that is still to be had. -/
def joining (separator : Except Fault String) (first : Value) : Except Fault Value :=
  match first with
  | .array items => separator >>= fun text => .ok (.string (joinItems items text))
  | other => .error (.message s!"Function 'join' expects an array, got {other.describe}")

theorem join_eq (args : List Value) :
    join args = argument "join" args 0 >>= joining (separator args) := by
  rw [join]
  congr 1
  funext first
  cases first with
  | array items =>
      simp only [joining, separator]
      split <;> rfl
  | _ => rfl

theorem separator_fails_iff (args : List Value) : Fails (separator args) ↔
    ∃ first second rest, args = first :: second :: rest ∧ second.IsNested := by
  unfold separator
  match args with
  | [] => exact ⟨nofun, nofun⟩
  | [first] => exact ⟨nofun, nofun⟩
  | first :: second :: rest =>
      have two : ¬(first :: second :: rest).length < 2 := by simp
      have known : scalar "join" (first :: second :: rest) 1 = scalarText "join" 2 second := rfl
      rw [if_neg two, known, scalar_text_fails_iff]
      constructor
      · exact fun nested => ⟨first, second, rest, rfl, nested⟩
      · rintro ⟨_, _, _, same, nested⟩
        cases same
        exact nested

theorem separator_names (args : List Value) : Names "join" (separator args) := by
  unfold separator
  split
  · exact names_ok "join" _
  · rw [scalar_eq]
    exact (argument_names "join" args 1).bind (scalar_text_names "join" 2)

theorem separator_take (args : List Value) : separator (args.take 2) = separator args := by
  match args with
  | [] => rfl
  | [first] => rfl
  | first :: second :: rest =>
      have two : ¬(first :: second :: rest).length < 2 := by simp
      rw [separator, separator, if_neg two]
      rfl

theorem joining_fails_iff (separator : Except Fault String) (first : Value) :
    Fails (joining separator first) ↔ (∀ items, first ≠ .array items) ∨ Fails separator := by
  unfold joining
  split
  · rename_i items
    rw [map_fails_iff]
    exact ⟨.inr, fun either => either.resolve_left fun other => other items rfl⟩
  · rename_i other
    exact ⟨fun _ => .inl other, fun _ => ⟨_, rfl⟩⟩

theorem joining_names {separator : Except Fault String} (named : Names "join" separator)
    (first : Value) : Names "join" (joining separator first) := by
  unfold joining
  split
  · exact named.bind fun text => names_ok "join" _
  · refine names_message (" expects an array, got " ++ first.describe) ?_
    simp only [← String.append_assoc]
    rfl

theorem join_fails_iff (args : List Value) : Fails (join args) ↔
    args = [] ∨ (∃ first rest, args = first :: rest ∧ ∀ items, first ≠ .array items) ∨
      ∃ first second rest, args = first :: second :: rest ∧ second.IsNested := by
  rw [join_eq, first_fails_iff, ← separator_fails_iff]
  simp only [joining_fails_iff]
  constructor
  · rintro (none | ⟨first, rest, same, other | fails⟩)
    · exact .inl none
    · exact .inr (.inl ⟨first, rest, same, other⟩)
    · exact .inr (.inr fails)
  · rintro (none | ⟨first, rest, same, other⟩ | fails)
    · exact .inl none
    · exact .inr ⟨first, rest, same, .inl other⟩
    · obtain ⟨first, second, rest, same, _⟩ := (separator_fails_iff args).mp fails
      exact .inr ⟨first, second :: rest, same, .inr fails⟩

theorem join_regular : Regular "join" (some 2) join where
  names args := by
    rw [join_eq]
    exact (argument_names "join" args 0).bind (joining_names (separator_names args))
  few := by
    rintro _ ⟨⟩ args
    rw [join_eq, join_eq, argument_take, separator_take]

theorem concat_succeeds (args : List Value) : ¬Fails (concat args) := by
  rintro ⟨fault, failed⟩
  cases failed

theorem concat_regular : Regular "concat" none concat where
  names _ := names_ok "concat" _
  few := nofun

/-- How many arguments a builtin looks at. One of them takes as many as there are. -/
def limit? (name : String) : Option Nat :=
  if name = "concat" then none else if name = "join" then some 2 else some 1

theorem listed_regular {name : String} {compute : List Value → Except Fault Value}
    (listed : table.lookup name = some compute) : Regular name (limit? name) compute := by
  have member := mem_of_lookup listed
  simp only [table, List.mem_cons, Prod.mk.injEq, List.not_mem_nil, or_false] at member
  rcases member with ⟨rfl, rfl⟩ | ⟨rfl, rfl⟩ | ⟨rfl, rfl⟩ | ⟨rfl, rfl⟩ | ⟨rfl, rfl⟩ | ⟨rfl, rfl⟩ |
    ⟨rfl, rfl⟩ | ⟨rfl, rfl⟩
  · exact concat_regular
  · exact changing_regular "escape_html" escapeHtml
  · exact join_regular
  · exact json_regular
  · exact length_regular
  · exact changing_regular "lower" lowerText
  · exact changing_regular "trim" trimText
  · exact changing_regular "upper" upperText

theorem listed_of_mem {name : String} (member : name ∈ names) :
    ∃ compute, table.lookup name = some compute := by
  cases found : table.lookup name with
  | some compute => exact ⟨compute, rfl⟩
  | none =>
      have absent : Registry.find? entries name = none := by
        rw [entries_find?, function?, found]
        rfl
      have unlisted := (Registry.find?_eq_none_iff entries name).mp absent
      rw [entries_names] at unlisted
      exact absurd member unlisted

section

variable {name : String} {compute : List Value → Except Fault Value} (registry : Registry)

theorem find?_listed (listed : table.lookup name = some compute) :
    (register registry).find? name = some (computing compute) := by
  rw [find?_register, function?, listed]
  rfl

theorem call_listed (listed : table.lookup name = some compute) (args : List Value) :
    (register registry).call name args = .ofExcept (compute args) := by
  have runs := ((register registry).runs_found name).call args
  rw [find?_listed registry listed] at runs
  exact runs

/-- A body that calls a builtin gets what that computes, and nothing else happens. -/
theorem invoke_listed (listed : table.lookup name = some compute) (args : List Value)
    {template : Template} (owned : template.functions = register registry)
    (around : Surroundings) (context : Context) (world : World) :
    ((template.bindings around context).invoke name args).run world = (compute args, world) := by
  have runs := ((register registry).runs_found name).invoke template owned around context args
  rw [find?_listed registry listed] at runs
  rw [runs]
  change ((Action.ofExcept (compute args)).run around Bindings.none).run world = _
  cases compute args <;> rfl

theorem call_fails_iff (listed : table.lookup name = some compute) (args : List Value) :
    (∃ fault, (register registry).call name args = .fail fault) ↔ Fails (compute args) := by
  rw [call_listed registry listed]
  cases compute args with
  | error fault => exact ⟨fun _ => ⟨fault, rfl⟩, fun _ => ⟨fault, rfl⟩⟩
  | ok value => exact ⟨nofun, nofun⟩

end

/-- The builtins fail on just these arguments. A failure is a message that begins with the name of
the builtin, so it is no missing function. Only so many arguments are looked at, and a body that
calls a builtin finds the world as it was. -/
theorem builtins_fail_as_documented (registry : Registry) (args : List Value) :
    let call := fun name args => (register registry).call name args
    let fails := fun name => ∃ fault, call name args = .fail fault
    (∀ name ∈ ["upper", "lower", "trim", "escape_html"], fails name ↔
      args = [] ∨ ∃ first rest, args = first :: rest ∧ first.IsNested) ∧
    (fails "json" ↔ args = []) ∧
    (fails "join" ↔
      args = [] ∨ (∃ first rest, args = first :: rest ∧ ∀ items, first ≠ .array items) ∨
        ∃ first second rest, args = first :: second :: rest ∧ second.IsNested) ∧
    (fails "length" ↔ args = [] ∨ ∃ first rest, args = first :: rest ∧ first.IsAtom) ∧
    ¬fails "concat" ∧
    ∀ name ∈ names, ∃ outcome,
      call name args = .ofExcept outcome ∧
      Names name outcome ∧
      (∀ count ∈ limit? name, call name (args.take count) = .ofExcept outcome) ∧
      ∀ template : Template, template.functions = register registry →
        ∀ around context world,
          ((template.bindings around context).invoke name args).run world = (outcome, world) := by
  intro call fails
  refine ⟨?_, ?_, ?_, ?_, ?_, ?_⟩
  · intro name member
    obtain ⟨change, listed⟩ := changing_listed member
    exact (call_fails_iff registry listed args).trans (changing_fails_iff name change args)
  · exact (call_fails_iff registry rfl args).trans (json_fails_iff args)
  · exact (call_fails_iff registry rfl args).trans (join_fails_iff args)
  · exact (call_fails_iff registry rfl args).trans (length_fails_iff args)
  · exact fun failed => concat_succeeds args ((call_fails_iff registry rfl args).mp failed)
  · intro name member
    obtain ⟨compute, listed⟩ := listed_of_mem member
    have regular := listed_regular listed
    refine ⟨compute args, call_listed registry listed args, regular.names args, ?_, ?_⟩
    · intro count within
      exact (call_listed registry listed _).trans
        (congrArg Action.ofExcept (regular.few count within args))
    · intro template owned around context world
      exact invoke_listed registry listed args owned around context world

/-- The first argument is of no use to one of them and the second to the other, and a third makes
no difference. -/
theorem builtins_fail_as_documented_nested :
    let args := [Value.array [.null], .object []]
    let template := Template.mk none (.program default none) [] registry
    "upper" ∈ ["upper", "lower", "trim", "escape_html"] ∧
    (∃ fault, registry.call "upper" args = .fail fault) ∧
    (∃ fault, registry.call "join" args = .fail fault) ∧
    "join" ∈ names ∧ 2 ∈ limit? "join" ∧ template.functions = register Registry.empty ∧
    ∃ outcome, Names "join" outcome ∧
      registry.call "join" ((args ++ [Value.bool true]).take 2) = .ofExcept outcome ∧
      ((template.bindings (Catalog.empty.surroundings FileTree.empty) (.map [])).invoke "join"
        (args ++ [Value.bool true])).run World.fresh = (outcome, World.fresh) := by
  intro args template
  have textual : "upper" ∈ ["upper", "lower", "trim", "escape_html"] := List.mem_cons_self
  have listed : "join" ∈ names := by decide
  have nested : (Value.object []).IsNested := .inr ⟨[], rfl⟩
  obtain ⟨changes, _, joins, _⟩ := builtins_fail_as_documented Registry.empty args
  obtain ⟨_, _, _, _, _, regular⟩ :=
    builtins_fail_as_documented Registry.empty (args ++ [Value.bool true])
  obtain ⟨outcome, _, named, few, runs⟩ := regular "join" listed
  exact ⟨textual, (changes "upper" textual).mpr (.inr ⟨_, _, rfl, .inl ⟨_, rfl⟩⟩),
    joins.mpr (.inr (.inr ⟨_, _, _, rfl, nested⟩)), listed, rfl, rfl, outcome, named, few 2 rfl,
    runs template rfl _ _ _⟩

end Builtin

end Stencil
