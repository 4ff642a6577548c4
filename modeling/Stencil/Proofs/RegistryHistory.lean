import Mathlib.Data.List.Induction
import Stencil.Proofs.Fields
import Stencil.Proofs.MadeRegistry
import Stencil.Proofs.Rendering
import Stencil.Settings

/-!
Histories of registries. Functions are registered one by one, the builtins are laid over a
registry, and a registry takes over the functions that another one has at the time. A name calls
the function that it was given last, whichever of the three has given it, and what is done to
other registries afterwards does not matter.
-/

namespace Stencil

/-- An operation on one of several registries, which are told apart by their numbers. Registering
in a chain, where every call hands the registry on, is registering one after the other. -/
inductive Registration where
  | register (target : Nat) (name : String) (function : Function)
  | builtins (target : Nat)
  | extend (target source : Nat)

namespace Builtin

def computing (compute : List Value → Except Fault Value) : Function :=
  fun args => .ofExcept (compute args)

def function? (name : String) : Option Function := (table.lookup name).map computing

end Builtin

namespace Registration

def target : Registration → Nat
  | .register target _ _ => target
  | .builtins target => target
  | .extend target _ => target

/-- What an operation makes of its target. -/
def change (registries : Nat → Registry) : Registration → Registry
  | .register target name function => (registries target).register name function
  | .builtins target => Builtin.register (registries target)
  | .extend target source => (registries target).extend (registries source)

def apply (registries : Nat → Registry) (operation : Registration) (number : Nat) : Registry :=
  if number = operation.target then operation.change registries else registries number

/-- The registries after a history that begins with empty ones. -/
def after (history : List Registration) : Nat → Registry :=
  history.foldl apply fun _ => Registry.empty

/-- The function that an operation gives to a name in its target. From another registry it is
the one that this holds at the time. -/
def given? (registries : Nat → Registry) (name : String) : Registration → Option Function
  | .register _ known function => if name = known then some function else none
  | .builtins _ => Builtin.function? name
  | .extend _ source => (registries source).find? name

def Gives (registries : Nat → Registry) (number : Nat) (name : String) (function : Function)
    (operation : Registration) : Prop :=
  operation.target = number ∧ operation.given? registries name = some function

/-- The function that a history has given to a name last, with the operation that has given it. -/
def GivenLast (history : List Registration) (number : Nat) (name : String)
    (function : Function) : Prop :=
  ∃ earlier operation later, history = earlier ++ operation :: later ∧
    operation.Gives (after earlier) number name function ∧
    ∀ between other rest, later = between ++ other :: rest →
      ∀ another, ¬ other.Gives (after (earlier ++ operation :: between)) number name another

theorem after_append (history : List Registration) (operation : Registration) :
    after (history ++ [operation]) = operation.apply (after history) := by
  rw [after, List.foldl_append]
  rfl

end Registration

namespace Registry

theorem find?_register (registry : Registry) (known : String) (function : Function)
    (name : String) : (registry.register known function).find? name =
      if name = known then some function else registry.find? name :=
  lookup_insert_sorted known name function registry

theorem find?_extend (registry : Registry) {other : Registry} (distinct : other.names.Nodup)
    (name : String) : (registry.extend other).find? name =
      (other.find? name).or (registry.find? name) :=
  lookup_placed (fun grown known function => register grown known function)
    (fun grown known function name => find?_register grown known function name)
    registry other distinct name

def outcome (registry : Registry) (name : String) : Option Function → Function
  | some function => function
  | none => fun _ => .fail (registry.missing name)

/-- Calling the name runs the function that is found for it on the arguments as they are, for a
caller of the registry and for the body of every template that owns it. -/
structure Runs (registry : Registry) (name : String) (found : Option Function) : Prop where
  call : ∀ args, registry.call name args = registry.outcome name found args
  invoke : ∀ template : Template, template.functions = registry → ∀ around context args,
    (template.bindings around context).invoke name args =
      (registry.outcome name found args).run around Bindings.none

theorem runs_found (registry : Registry) (name : String) :
    registry.Runs name (registry.find? name) where
  call args := by
    unfold Registry.call
    cases registry.find? name <;> rfl
  invoke template owned around context args := by
    subst owned
    refine (call_named_found around template.functions name args _).trans ?_
    cases template.functions.find? name <;> rfl

theorem call_found {registry : Registry} {name : String} {function : Function}
    (found : registry.find? name = some function) (args : List Value) :
    registry.call name args = function args := by
  rw [Registry.call, found]

theorem call_missing {registry : Registry} {name : String} (absent : registry.find? name = none)
    (args : List Value) : registry.call name args =
      .fail (.missingFunction name (suggestionsFor name registry.names)) := by
  rw [Registry.call, absent]
  rfl

theorem find?_eq_none_iff (registry : Registry) (name : String) :
    registry.find? name = none ↔ name ∉ registry.names := by
  rw [← contains_iff, contains, Option.not_isSome_iff_eq_none]

end Registry

theorem lookup_map {α β : Type} (change : α → β) (entries : List (String × α)) (key : String) :
    (entries.map fun entry => (entry.1, change entry.2)).lookup key =
      (entries.lookup key).map change := by
  induction entries with
  | nil => rfl
  | cons entry rest ih =>
      obtain ⟨known, held⟩ := entry
      rw [List.map_cons, lookup_entry, lookup_entry, ih]
      split <;> rfl

namespace Builtin

def entries : Registry := table.map fun entry => (entry.1, computing entry.2)

theorem entries_names : Registry.names entries = names := by
  rw [Registry.names, entries, List.map_map]
  rfl

theorem entries_find? (name : String) : Registry.find? entries name = function? name :=
  lookup_map computing table name

theorem register_eq (registry : Registry) : register registry = registry.extend entries := by
  rw [Registry.extend, entries, List.foldl_map]
  rfl

theorem find?_register (registry : Registry) (name : String) :
    (register registry).find? name = (function? name).or (registry.find? name) := by
  have distinct : (Registry.names entries).Nodup := by
    rw [entries_names]
    decide
  rw [register_eq, registry.find?_extend distinct, entries_find?]

end Builtin

theorem Settings.functions_find? (settings : Settings) (name : String) :
    settings.functions.find? name =
      if settings.builtins then Builtin.function? name else none := by
  rw [functions]
  split
  · rw [Builtin.registry, Builtin.find?_register]
    exact Option.or_none
  · rfl

namespace Registration

variable {registries : Nat → Registry}

theorem change_ascends (ascends : ∀ number, (registries number).names.Pairwise (· < ·))
    (operation : Registration) : (operation.change registries).names.Pairwise (· < ·) := by
  cases operation with
  | register target name function => exact insert_sorted_ascends name function (ascends target)
  | builtins target =>
      rw [change, Builtin.register_eq]
      exact Registry.extend_ascends (ascends target) Builtin.entries
  | extend target source => exact Registry.extend_ascends (ascends target) (registries source)

theorem after_ascends (history : List Registration) (number : Nat) :
    (after history number).names.Pairwise (· < ·) := by
  induction history using List.reverseRecOn generalizing number with
  | nil => exact .nil
  | append_singleton history operation ih =>
      rw [after_append, apply]
      split
      · exact change_ascends ih operation
      · exact ih number

/-- A name calls what the operation gives it, and else what it called before. -/
theorem change_find? (ascends : ∀ number, (registries number).names.Pairwise (· < ·))
    (operation : Registration) (name : String) : (operation.change registries).find? name =
      (operation.given? registries name).or ((registries operation.target).find? name) := by
  cases operation with
  | register target known function =>
      rw [change, Registry.find?_register, given?]
      split <;> rfl
  | builtins target => exact Builtin.find?_register _ name
  | extend target source =>
      exact Registry.find?_extend _ ((ascends source).imp String.ne_of_lt) name

theorem apply_find?_iff (ascends : ∀ number, (registries number).names.Pairwise (· < ·))
    (operation : Registration) (number : Nat) (name : String) (function : Function) :
    (operation.apply registries number).find? name = some function ↔
      operation.Gives registries number name function ∨
        (∀ another, ¬ operation.Gives registries number name another) ∧
          (registries number).find? name = some function := by
  unfold apply Gives
  by_cases here : number = operation.target
  · subst here
    rw [if_pos rfl, change_find? ascends]
    cases operation.given? registries name <;> simp
  · simp [here, Ne.symm here]

theorem given_last_append (history : List Registration) (operation : Registration) (number : Nat)
    (name : String) (function : Function) :
    GivenLast (history ++ [operation]) number name function ↔
      operation.Gives (after history) number name function ∨
        (∀ another, ¬ operation.Gives (after history) number name another) ∧
          GivenLast history number name function := by
  constructor
  · rintro ⟨earlier, giver, later, split, gives, silent⟩
    rcases List.eq_nil_or_concat later with rfl | ⟨later, last, rfl⟩
    · obtain ⟨rfl, same⟩ := List.append_inj' split rfl
      cases same
      exact .inl gives
    · rw [List.concat_eq_append, ← List.cons_append, ← List.append_assoc] at split
      obtain ⟨rfl, same⟩ := List.append_inj' split rfl
      cases same
      refine .inr ⟨silent later operation [] List.concat_eq_append, earlier, giver, later, rfl,
        gives, ?_⟩
      intro between other rest inside
      apply silent between other (rest ++ [operation])
      rw [List.concat_eq_append, inside, List.append_assoc, List.cons_append]
  · rintro (gives | ⟨quiet, earlier, giver, later, split, gives, silent⟩)
    · refine ⟨history, operation, [], rfl, gives, ?_⟩
      intro between other rest inside
      exact absurd inside.symm (List.append_ne_nil_of_right_ne_nil between nofun)
    · refine ⟨earlier, giver, later ++ [operation], ?_, gives, ?_⟩
      · rw [split, List.append_assoc, List.cons_append]
      · intro between other rest inside
        rcases List.eq_nil_or_concat rest with rfl | ⟨rest, last, rfl⟩
        · obtain ⟨rfl, same⟩ := List.append_inj' inside rfl
          cases same
          rw [← split]
          exact quiet
        · rw [List.concat_eq_append, ← List.cons_append, ← List.append_assoc] at inside
          exact silent between other rest (List.append_inj' inside rfl).1

/-- One step after the other, what a name calls is what it has been given last. -/
theorem after_find?_iff (history : List Registration) (number : Nat) (name : String)
    (function : Function) :
    (after history number).find? name = some function ↔ GivenLast history number name function := by
  induction history using List.reverseRecOn with
  | nil =>
      constructor
      · nofun
      · rintro ⟨earlier, operation, later, split, _⟩
        exact absurd split.symm (List.append_ne_nil_of_right_ne_nil earlier nofun)
  | append_singleton history operation ih =>
      rw [after_append, apply_find?_iff (after_ascends history), given_last_append, ih]

/-- Whatever is done to other registries, a registry stays as it is. -/
theorem foldl_apply_other (later : List Registration) {number : Nat}
    (apart : ∀ operation ∈ later, operation.target ≠ number) (registries : Nat → Registry) :
    later.foldl apply registries number = registries number := by
  induction later generalizing registries with
  | nil => rfl
  | cons operation rest ih =>
      rw [List.foldl_cons, ih (fun other member => apart other (List.mem_cons_of_mem _ member)),
        apply, if_neg (Ne.symm (apart operation List.mem_cons_self))]

/-- A registry that takes over another one has what both held at the time. -/
theorem after_extend_find? (earlier : List Registration) (number source : Nat)
    {later : List Registration} (apart : ∀ operation ∈ later, operation.target ≠ number)
    (name : String) :
    (after (earlier ++ .extend number source :: later) number).find? name =
      ((after earlier source).find? name).or ((after earlier number).find? name) := by
  have unmoved : after (earlier ++ .extend number source :: later) number =
      (after earlier number).extend (after earlier source) := by
    rw [after, List.foldl_append, List.foldl_cons, foldl_apply_other later apart]
    exact if_pos rfl
  rw [unmoved]
  exact change_find? (after_ascends earlier) (.extend number source) name

/-- After every history, a registry lists its names in the order of their bytes, counts them and
knows them, and a name runs the function that it has been given last, or fails as missing if
there is none. Laid over the settings the registry comes first, and the builtins come second if
they are enabled. -/
theorem registries_follow_history (history : List Registration) (number : Nat) :
    let registry := after history number
    (registry.names.Pairwise fun name later => utf8Bytes name < utf8Bytes later) ∧
    registry.size = registry.names.length ∧
    (registry.isEmpty = true ↔ registry.names = []) ∧
    (∀ name, registry.contains name = true ↔ name ∈ registry.names) ∧
    (∀ name,
      (name ∈ registry.names ∧ ∃ function, GivenLast history number name function ∧
        registry.Runs name (some function)) ∨
      (name ∉ registry.names ∧ (∀ function, ¬ GivenLast history number name function) ∧
        registry.Runs name none ∧ ∀ args, registry.call name args =
          .fail (.missingFunction name (suggestionsFor name registry.names)))) ∧
    (∀ earlier source later, history = earlier ++ .extend number source :: later →
      (∀ operation ∈ later, operation.target ≠ number) →
      ∀ name, registry.Runs name
        (((after earlier source).find? name).or ((after earlier number).find? name))) ∧
    ∀ (settings : Settings) (name : String),
      let functions := (settings.factoryWith registry).functions
      functions.Runs name ((registry.find? name).or
        (if settings.builtins then Builtin.function? name else none)) ∧
      ∀ args,
        (∀ function, registry.find? name = some function →
          functions.call name args = function args) ∧
        (∀ compute, registry.find? name = none → settings.builtins = true →
          Builtin.table.lookup name = some compute →
          functions.call name args = .ofExcept (compute args)) ∧
        (registry.find? name = none →
          (settings.builtins = true → Builtin.table.lookup name = none) →
          functions.call name args =
            .fail (.missingFunction name (suggestionsFor name functions.names))) := by
  intro registry
  have ascends : registry.names.Pairwise (· < ·) := after_ascends history number
  refine ⟨?bytes, ?size, ?empty, registry.contains_iff, ?runs, ?snapshot, ?mixed⟩
  case bytes => exact ascends.imp (lt_iff_bytes_lt _ _).mp
  case size => exact (List.length_map Prod.fst).symm
  case empty => rw [Registry.isEmpty, List.isEmpty_iff, Registry.names, List.map_eq_nil_iff]
  case runs =>
    intro name
    have runs := registry.runs_found name
    cases found : registry.find? name with
    | some function =>
        rw [found] at runs
        left
        refine ⟨?_, function, (after_find?_iff history number name function).mp found, runs⟩
        rw [← registry.contains_iff, Registry.contains, found]
        rfl
    | none =>
        rw [found] at runs
        right
        refine ⟨(registry.find?_eq_none_iff name).mp found, ?_, runs, Registry.call_missing found⟩
        intro function given
        have known := (after_find?_iff history number name function).mpr given
        cases found.symm.trans known
  case snapshot =>
    intro earlier source later split apart name
    have runs := registry.runs_found name
    have found : registry.find? name = _ :=
      (congrArg (fun history => (after history number).find? name) split).trans
        (after_extend_find? earlier number source apart name)
    rwa [found] at runs
  case mixed =>
    intro settings name functions
    have found : functions.find? name = _ :=
      Registry.find?_extend settings.functions (ascends.imp String.ne_of_lt) name
    rw [settings.functions_find?] at found
    refine ⟨found ▸ Registry.runs_found _ name, fun args => ⟨?_, ?_, ?_⟩⟩
    · intro function own
      rw [own, Option.some_or] at found
      exact Registry.call_found found args
    · intro compute other enabled listed
      rw [other, Option.none_or, if_pos enabled, Builtin.function?, listed] at found
      exact Registry.call_found found args
    · intro other unlisted
      rw [other, Option.none_or] at found
      apply Registry.call_missing
      rw [found]
      split
      · rename_i enabled
        rw [Builtin.function?, unlisted enabled]
        rfl
      · rfl

end Registration

end Stencil
