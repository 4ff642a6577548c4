import Stencil.Proofs.Inquiry

/-!
Two runs side by side. If whatever the first run asks for at its own level is answered alike
in the second, the two end alike and write the same. Failures need not be the same: it is
enough that they are alike in a way that the body does not look behind, such as being
the same but for the names that are suggested in place of a missing function.
-/

namespace Stencil

namespace Fault

def unsuggested : Fault → Fault
  | .missingFunction name _ => .missingFunction name []
  | .lookup key cause => .lookup key cause.unsuggested
  | .stage text cause => .stage text cause.unsuggested
  | .setup site cause => .setup site cause.unsuggested
  | .evaluation site context cause => .evaluation site context cause.unsuggested
  | .raised fault => .raised fault.unsuggested
  | .forwarded fault => .forwarded fault.unsuggested
  | .layered text inner => .layered text inner.unsuggested
  | fault => fault

theorem text_unsuggested (fault : Fault) : fault.unsuggested.text = fault.text := by
  induction fault with
  | raised fault ih | forwarded fault ih => exact ih
  | _ => rfl

theorem cause_texts_unsuggested (fault : Fault) :
    fault.unsuggested.causeTexts = fault.causeTexts := by
  unfold causeTexts
  induction fault with
  | lookup key cause ih | stage text cause ih | setup site cause ih
  | evaluation site context cause ih | layered text cause ih =>
      simp only [unsuggested, causes, List.map_cons, ih]
      exact congrArg (· :: _) cause.text_unsuggested
  | raised fault ih | forwarded fault ih => exact ih
  | _ => rfl

/-- A way for faults to be alike that their texts do not tell apart, and that is kept by
what a page puts around a fault. -/
structure Likeness (like : Fault → Fault → Prop) : Prop where
  same : ∀ fault, like fault fault
  text : ∀ {one other : Fault}, like one other → one.text = other.text
  causes : ∀ {one other : Fault}, like one other → one.causeTexts = other.causeTexts
  stage : ∀ (step : String) {one other : Fault}, like one other →
    like (.stage step one) (.stage step other)
  forwarded : ∀ {one other : Fault}, like one other → like (.forwarded one) (.forwarded other)
  layered : ∀ (text : String) {one other : Fault}, like one other →
    like (.layered text one) (.layered text other)

def AlikeUnsuggested (one other : Fault) : Prop := one.unsuggested = other.unsuggested

theorem likeness_unsuggested : Likeness AlikeUnsuggested where
  same _ := rfl
  text {one other} same := by
    rw [← one.text_unsuggested, ← other.text_unsuggested]
    exact congrArg Fault.text same
  causes {one other} same := by
    rw [← one.cause_texts_unsuggested, ← other.cause_texts_unsuggested]
    exact congrArg causeTexts same
  stage step _ _ same := congrArg (stage step) same
  forwarded same := congrArg forwarded same
  layered text _ _ same := congrArg (layered text) same

theorem likeness_eq : Likeness Eq where
  same _ := rfl
  text same := congrArg Fault.text same
  causes same := congrArg causeTexts same
  stage step _ _ same := congrArg (stage step) same
  forwarded same := congrArg forwarded same
  layered text _ _ same := congrArg (layered text) same

end Fault

/-- Two ends with the same result or with faults that are alike. -/
inductive EndsAlike {α : Type} (like : Fault → Fault → Prop) :
    Except Fault α → Except Fault α → Prop
  | ok (result : α) : EndsAlike like (.ok result) (.ok result)
  | error {one other : Fault} (alike : like one other) : EndsAlike like (.error one) (.error other)

namespace EndsAlike

variable {α : Type} {like : Fault → Fault → Prop}

theorem same (likeness : Fault.Likeness like) (outcome : Except Fault α) :
    EndsAlike like outcome outcome := by
  cases outcome with
  | ok result => exact .ok result
  | error fault => exact .error (likeness.same fault)

theorem eq {one other : Except Fault α} (alike : EndsAlike Eq one other) : one = other := by
  cases alike with
  | ok result => rfl
  | error same => rw [same]

end EndsAlike

/-- Two actions that do the same, step for step, and go on alike when they are given ends
that are alike. What only depends on values must go on alike for the same ends only. -/
inductive Action.Alike (like : Fault → Fault → Prop) : Action → Action → Prop
  | done (value : Value) : Alike like (.done value) (.done value)
  | fail {one other : Fault} (alike : like one other) : Alike like (.fail one) (.fail other)
  | write (text : String) {one other : Action} (after : Alike like one other) :
      Alike like (.write text one) (.write text other)
  | depth {one other : Nat → Action} (after : ∀ count, Alike like (one count) (other count)) :
      Alike like (.depth one) (.depth other)
  | lookup (key : String) (fallback : Option Value) {one other : Except Fault Value → Action}
      (after : ∀ reply, Alike like (one reply) (other reply)) :
      Alike like (.lookup key fallback one) (.lookup key fallback other)
  | invoke (name : String) (args : List Value) {one other : Except Fault Value → Action}
      (after : ∀ reply answer, EndsAlike like reply answer →
        Alike like (one reply) (other answer)) :
      Alike like (.invoke name args one) (.invoke name args other)
  | capture {part piece : Action} {one other : Except Fault (Value × String) → Action}
      (within : Alike like part piece)
      (after : ∀ reply answer, EndsAlike like reply answer →
        Alike like (one reply) (other answer)) :
      Alike like (.capture part one) (.capture piece other)
  | render (template : Template) (supply : Supply)
      {one other : Except Fault (Value × String) → Action}
      (after : ∀ reply, Alike like (one reply) (other reply)) :
      Alike like (.render template supply one) (.render template supply other)
  | locate (location : String) {one other : Bool → Action}
      (after : ∀ held, Alike like (one held) (other held)) :
      Alike like (.locate location one) (.locate location other)

/-- An action goes on as it does for ends that are the same. -/
theorem Action.alike_eq (action : Action) : action.Alike Eq action := by
  cases action with
  | done value => exact .done value
  | fail fault => exact .fail rfl
  | write text next => exact .write text next.alike_eq
  | depth next => exact .depth fun count => (next count).alike_eq
  | lookup key fallback next =>
      exact .lookup key fallback fun reply => (next reply).alike_eq
  | invoke name args next =>
      apply Alike.invoke name args
      intro reply answer same
      rw [← same.eq]
      exact (next reply).alike_eq
  | capture part next =>
      apply Alike.capture part.alike_eq
      intro reply answer same
      rw [← same.eq]
      exact (next reply).alike_eq
  | render template supply next =>
      exact .render template supply fun reply => (next reply).alike_eq
  | locate location next => exact .locate location fun held => (next held).alike_eq
termination_by structural action

inductive Dialog.Alike {α : Type} (like : Fault → Fault → Prop) (told : α → α → Prop) :
    Dialog α → Dialog α → Prop
  | done {one other : α} (holds : told one other) : Alike like told (.done one) (.done other)
  | lookup (key : String) (fallback : Option Value) {one other : Except Fault Value → Dialog α}
      (after : ∀ reply, Alike like told (one reply) (other reply)) :
      Alike like told (.lookup key fallback one) (.lookup key fallback other)
  | invoke (name : String) (args : List Value) {one other : Except Fault Value → Dialog α}
      (after : ∀ reply answer, EndsAlike like reply answer →
        Alike like told (one reply) (other answer)) :
      Alike like told (.invoke name args one) (.invoke name args other)

theorem Dialog.alike_bind {α β : Type} {like : Fault → Fault → Prop} {told : α → α → Prop}
    {wanted : β → β → Prop} {one other : Dialog α} {next further : α → Dialog β}
    (first : one.Alike like told other)
    (follows : ∀ answer reply, told answer reply →
      (next answer).Alike like wanted (further reply)) :
    (one >>= next).Alike like wanted (other >>= further) := by
  change (one.bind next).Alike like wanted (other.bind further)
  induction first with
  | done holds => exact follows _ _ holds
  | lookup key fallback _ ih => exact .lookup key fallback ih
  | invoke name args _ ih => exact .invoke name args ih

/-- Two runs that end alike and leave the same channel. -/
structure Matched {α : Type} (like : Fault → Fault → Prop)
    (one other : Except Fault α × World) : Prop where
  ends : EndsAlike like one.1 other.1
  channel : one.2.channel = other.2.channel

namespace Engine

variable {α : Type} {like : Fault → Fault → Prop}

/-- What is told of a computation are its end and its channel; of the world before it,
only the channel counts. -/
theorem Tells.matched {act : Engine α} {account : Nat → Account α} (told : act.Tells account)
    {world later : World} (same : world.channel = later.channel) :
    Matched Eq (act.run world) (act.run later) := by
  constructor
  · rw [told world, told later, same]
    exact EndsAlike.same Fault.likeness_eq _
  · rw [told world, told later]
    simp only [World.after, same]

theorem matched_weaken (likeness : Fault.Likeness like) {one other : Except Fault α × World}
    (matched : Matched Eq one other) : Matched like one other where
  ends := by
    rw [matched.ends.eq]
    exact EndsAlike.same likeness _
  channel := matched.channel

theorem matched_captured {act other : Engine α} {world later : World}
    (same : world.channel = later.channel)
    (inner : Matched like (act.run world.opened) (other.run later.opened)) :
    Matched like ((captured act).run world) ((captured other).run later) := by
  obtain ⟨ends, channel⟩ := inner
  rw [run_captured, run_captured]
  dsimp only
  rw [← channel, ← same]
  constructor
  · generalize (act.run world.opened).1 = ended at ends
    generalize (other.run later.opened).1 = answered at ends
    cases ends with
    | ok result => exact .ok _
    | error alike => exact .error alike
  · rfl

end Engine

end Stencil
