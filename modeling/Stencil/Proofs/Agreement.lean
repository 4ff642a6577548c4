import Stencil.Proofs.Account

/-!
What an account depends on. Two runs of one body agree in text and outcome when
their replies agree, whatever services were asked on the way, and at two depths
they can differ only after a step has read the depth.
-/

namespace Stencil

namespace Account

variable {α β : Type}

/-- Agreement that need not last past a look at the depth, unless the depths are
the `same`. -/
def Agrees (same : Prop) (first second : Account α) : Prop :=
  (first.sawDepth = true → same) → first.text = second.text ∧ first.outcome = second.outcome

theorem agrees_same (same : Prop) (account : Account α) : account.Agrees same account :=
  fun _ => ⟨rfl, rfl⟩

theorem agrees_weaken {same other : Prop} {first second : Account α}
    (implied : other → same) (agreed : first.Agrees same second) :
    first.Agrees other second :=
  fun seen => agreed fun saw => implied (seen saw)

/-- What comes later need only agree if what came earlier ended alike. -/
theorem agrees_before {same : Prop} {first second : Account α}
    {next other : Except Fault α → Account β} (agreed : first.Agrees same second)
    (follows : ∀ outcome, (next outcome).Agrees same (other outcome)) :
    (first.before (next first.outcome)).Agrees same (second.before (other second.outcome)) := by
  intro seen
  have earlier := agreed fun saw => seen (by simp [before, saw])
  have later := follows first.outcome fun saw => seen (by simp [before, saw])
  rw [← earlier.2]
  constructor
  · simp only [before, earlier.1, later.1]
  · exact later.2

theorem agrees_then {same : Prop} {first second : Account α} {next other : α → Account β}
    (agreed : first.Agrees same second)
    (follows : ∀ result, (next result).Agrees same (other result)) :
    (first.andThen next).Agrees same (second.andThen other) := by
  apply agrees_before agreed
  intro outcome
  cases outcome with
  | ok result => exact follows result
  | error fault => exact agrees_same same _

theorem agrees_enclosed {same : Prop} {first second : Account α}
    (agreed : first.Agrees same second) : first.enclosed.Agrees same second.enclosed := by
  intro seen
  obtain ⟨text, outcome⟩ := agreed seen
  refine ⟨rfl, ?_⟩
  simp only [enclosed, text, outcome]

end Account

structure Replies.Agree (first second : Replies) : Prop where
  lookup : ∀ key fallback, (first.lookup key fallback).Agrees True (second.lookup key fallback)
  invoke : ∀ depth other name args,
    (first.invoke depth name args).Agrees (depth = other) (second.invoke other name args)

theorem Replies.Agree.lookup_agrees {first second : Replies} (agreed : first.Agree second)
    (same : Prop) (key : String) (fallback : Option Value) :
    (first.lookup key fallback).Agrees same (second.lookup key fallback) :=
  Account.agrees_weaken (fun _ => trivial) (agreed.lookup key fallback)

/-- Stored bodies depend on their replies and, where they read it, on the depth. -/
def Vicinity.Steady (around : Vicinity) : Prop :=
  ∀ location (first second : Replies), first.Agree second → ∀ depth other,
    (around.stored location first depth).Agrees (depth = other)
      (around.stored location second other)

theorem Replies.none_agree : Replies.none.Agree Replies.none where
  lookup _ _ := Account.agrees_same _ _
  invoke _ _ _ _ := Account.agrees_same _ _

theorem Dialog.account_agrees {α : Type} {first second : Replies} (agreed : first.Agree second)
    (depth other : Nat) (dialog : Dialog α) :
    (dialog.account first depth).Agrees (depth = other) (dialog.account second other) := by
  induction dialog with
  | done answer => exact Account.agrees_same _ _
  | lookup key fallback next ih =>
      exact Account.agrees_before (agreed.lookup_agrees _ key fallback) ih
  | invoke name args next ih =>
      exact Account.agrees_before (agreed.invoke depth other name args) ih

theorem page_account_agrees {first second : Replies} (agreed : first.Agree second)
    (depth other : Nat) (files : FileTree) (path : String) :
    (pageAccount files path first depth).Agrees (depth = other)
      (pageAccount files path second other) := by
  unfold pageAccount
  cases files.readText path with
  | error error => exact Account.agrees_same _ _
  | ok source =>
      apply Account.agrees_then (Dialog.account_agrees agreed depth other (Markup.render source))
      intro page
      exact Account.agrees_same _ _

mutual

/-- One case for each kind of step. Only the step that reads the depth can tell
two depths apart, and a capture runs one level up in both runs. -/
theorem Action.account_agrees {around : Vicinity} (steady : around.Steady)
    {first second : Replies} (agreed : first.Agree second) : (action : Action) →
    (depth other : Nat) → (action.account around first depth).Agrees (depth = other)
      (action.account around second other)
  | .done _, _, _ => Account.agrees_same _ _
  | .fail _, _, _ => Account.agrees_same _ _
  | .write text next, depth, other =>
      Account.agrees_before (Account.agrees_same _ (Account.wrote text))
        fun _ => next.account_agrees steady agreed depth other
  | .depth next, depth, other => by
      intro seen
      obtain rfl : depth = other := seen rfl
      exact Account.agrees_before (Account.agrees_same _ (Account.sawLevel depth))
        (fun _ => (next depth).account_agrees steady agreed depth depth) seen
  | .lookup key fallback next, depth, other =>
      Account.agrees_before (agreed.lookup_agrees _ key fallback)
        fun outcome => (next outcome).account_agrees steady agreed depth other
  | .invoke name args next, depth, other =>
      Account.agrees_before (agreed.invoke depth other name args)
        fun outcome => (next outcome).account_agrees steady agreed depth other
  | .capture part next, depth, other => by
      have inner := part.account_agrees steady agreed (depth + 1) (other + 1)
      have level : depth = other → depth + 1 = other + 1 := congrArg Nat.succ
      exact Account.agrees_before (Account.agrees_enclosed (Account.agrees_weaken level inner))
        fun outcome => (next outcome).account_agrees steady agreed depth other
  | .render template supply next, depth, other =>
      Account.agrees_before (template.account_agrees steady supply depth other)
        fun outcome => (next outcome).account_agrees steady agreed depth other
  | .locate location next, depth, other =>
      (next (around.holds location)).account_agrees steady agreed depth other

theorem Body.account_agrees {around : Vicinity} (steady : around.Steady)
    {first second : Replies} (agreed : first.Agree second) : (body : Body) →
    (depth other : Nat) → (body.account around first depth).Agrees (depth = other)
      (body.account around second other)
  | .program action _, depth, other => action.account_agrees steady agreed depth other
  | .page path, depth, other => page_account_agrees agreed depth other around.files path
  | .stored location, depth, other => steady location first second agreed depth other

theorem Template.account_agrees {around : Vicinity} (steady : around.Steady)
    (supply : Supply) : (template : Template) →
    (depth other : Nat) → (template.account around supply depth).Agrees (depth = other)
      (template.account around supply other)
  | .mk name body defaults functions, depth, other => by
      simp only [Template.account]
      cases supply.toContext with
      | error fault => exact Account.agrees_same _ _
      | ok context =>
          let template : Template := .mk name body defaults functions
          have agreed : (template.replies around context).Agree
              (template.replies around context) :=
            ⟨fun key fallback => Account.agrees_same _ _,
              fun depth other called args =>
                call_account_agrees steady called args _ functions depth other⟩
          have inner := body.account_agrees steady agreed (depth + 1) (other + 1)
          have level : depth = other → depth + 1 = other + 1 := congrArg Nat.succ
          exact Account.agrees_before
            (Account.agrees_enclosed (Account.agrees_weaken level inner))
            fun outcome => Account.agrees_same _ (.ended (reported _ context outcome))

theorem call_account_agrees {around : Vicinity} (steady : around.Steady) (name : String)
    (args : List Value) (absent : Account Value) :
    (functions : List (String × (List Value → Action))) → (depth other : Nat) →
    (callAccount around functions name args depth absent).Agrees (depth = other)
      (callAccount around functions name args other absent)
  | [], _, _ => Account.agrees_same _ _
  | (called, function) :: rest, depth, other => by
      have found := (function args).account_agrees steady Replies.none_agree depth other
      have later := call_account_agrees steady name args absent rest depth other
      simp only [callAccount]
      by_cases same : (name == called) = true
      · simpa only [if_pos same] using found
      · simpa only [if_neg same] using later

end

theorem Catalog.vicinity_steady (catalog : Catalog) (files : FileTree) (reach : Nat) :
    (catalog.vicinity files reach).Steady := by
  induction reach with
  | zero =>
      intro location first second agreed depth other
      exact Account.agrees_same _ _
  | succ reach ih =>
      intro location first second agreed depth other
      simp only [vicinity, accounts]
      cases catalog.find? location with
      | none => exact Account.agrees_same _ _
      | some action => exact action.account_agrees ih agreed depth other

end Stencil
