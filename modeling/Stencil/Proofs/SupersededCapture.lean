import Stencil.Proofs.CaptureDiscipline

/-!
Captures whose level was taken away while their handle lives on. A handle says no more than
how deep its level lies. As long as the stack does not come up to that level again, the end
of such a capture does nothing. Once another capture has begun there, it is that one which
ends, and its text goes to the late caller.
-/

namespace Stencil

/-- An open capture: its number, its level, and what has been written under it. -/
structure Holding where
  number : Nat
  level : Nat
  text : String
  deriving DecidableEq

namespace Session

/-- A capture is open until the stack no longer reaches up to its level. -/
def remaining (roll : List Holding) (depth : Nat) : List Holding :=
  roll.filter fun holding => holding.level ≤ depth

/-- The captures of a session that are open after one use more, the innermost first. -/
def rollStep (session : Session) (roll : List Holding) (use : CaptureUse) : List Holding :=
  match use with
  | .begin => ⟨session.begun.length, session.channel.depth + 1, ""⟩ :: roll
  | .write text =>
      match roll with
      | [] => []
      | top :: rest => { top with text := top.text ++ text } :: rest
  | .finish _ | .drop _ | .leak _ => remaining roll (session.step use).2.channel.depth

def roll (session : Session) (held : List Holding) : List CaptureUse → List Holding
  | [] => held
  | use :: rest => (session.step use).2.roll (session.rollStep held use) rest

/-- Every open capture has the level next to the one below it. -/
def Leveled (base : Nat) : List Holding → Prop
  | [] => True
  | holding :: below => holding.level = base + below.length + 1 ∧ Leveled base below

/-- The open captures are what lies on the stack above `base` levels. Every handle that can
still be used belongs to a level above those, and where that level is open now, it is open
for the capture itself or for a later one. -/
structure Follows (base : Nat) (roll : List Holding) (session : Session) : Prop where
  leveled : Leveled base roll
  stacked : ∃ below, below.length = base ∧
    session.channel.captures = roll.map Holding.text ++ below
  above : ∀ number capture, session.handle? number = some capture → base < capture.level
  begun : ∀ holding ∈ roll, holding.number < session.begun.length
  own : ∀ holding ∈ roll, ∀ capture, session.handle? holding.number = some capture →
    capture.level = holding.level
  later : ∀ number capture, session.handle? number = some capture →
    ∀ holding ∈ roll, holding.level = capture.level → number ≤ holding.number

end Session

namespace Channel

/-- A release does nothing if the stack does not reach up to the level. -/
theorem release_gone {channel : Channel} {capture : Capture}
    (gone : channel.depth < capture.level) : channel.release capture = ("", channel) := by
  have all : channel.upTo capture.level = channel.captures := by
    have nothing : channel.captures.length - capture.level = 0 :=
      Nat.sub_eq_zero_of_le (Nat.le_of_lt gone)
    rw [upTo, nothing, List.drop_zero]
  have short : ¬channel.captures.length = capture.level := Nat.ne_of_lt gone
  simp only [release, all, if_neg short]

end Channel

namespace Session

variable {base : Nat} {roll : List Holding} {session : Session}

theorem handle?_begun {number : Nat} {capture : Capture}
    (known : session.handle? number = some capture) : number < session.begun.length := by
  rw [handle?, Option.join_eq_some_iff] at known
  exact (List.getElem?_eq_some_iff.mp known).1

theorem handle?_spend {number other : Nat} {channel : Channel} {capture : Capture}
    (known : (session.spend number channel).handle? other = some capture) :
    session.handle? other = some capture := by
  simp only [handle?, spend, List.getElem?_set] at known ⊢
  split at known
  · split at known <;> cases known
  · exact known

theorem handle?_begin {number : Nat} {capture : Capture}
    (known : (session.step .begin).2.handle? number = some capture) :
    session.handle? number = some capture ∨
      number = session.begun.length ∧ capture.level = session.channel.depth + 1 := by
  simp only [handle?, step, Option.join_eq_some_iff] at known ⊢
  rcases Nat.lt_trichotomy number session.begun.length with old | new | beyond
  · rw [List.getElem?_append_left old] at known
    exact .inl known
  · subst new
    rw [List.getElem?_concat_length] at known
    cases known
    exact .inr ⟨rfl, rfl⟩
  · have outside : (session.begun ++ [some session.channel.begin.1]).length ≤ number := by
      rw [List.length_append]
      exact beyond
    rw [List.getElem?_eq_none outside] at known
    cases known

theorem Leveled.level_le (leveled : Leveled base roll) :
    ∀ holding ∈ roll, holding.level ≤ base + roll.length := by
  induction roll with
  | nil => nofun
  | cons top rest ih =>
      intro holding member
      rw [List.length_cons]
      rcases List.mem_cons.mp member with same | below
      · rw [same, leveled.1]
        omega
      · have lower := ih leveled.2 holding below
        omega

/-- Every level above the base that the stack reaches is open for some capture. -/
theorem Leveled.reached (leveled : Leveled base roll) {level : Nat} (above : base < level)
    (within : level ≤ base + roll.length) : ∃ holding ∈ roll, holding.level = level := by
  induction roll with
  | nil =>
      rw [List.length_nil] at within
      omega
  | cons top rest ih =>
      rw [List.length_cons] at within
      by_cases own : level = base + rest.length + 1
      · exact ⟨top, List.mem_cons_self, by rw [leveled.1, own]⟩
      · obtain ⟨holding, member, same⟩ := ih leveled.2 (by omega)
        exact ⟨holding, List.mem_cons_of_mem top member, same⟩

/-- The levels of the captures that began inside an open one lie above its own. -/
theorem Leveled.split (leveled : Leveled base roll) {holding : Holding}
    (member : holding ∈ roll) :
    ∃ inner outer, roll = inner ++ holding :: outer ∧ Leveled base outer ∧
      holding.level = base + outer.length + 1 ∧
      ∀ other ∈ inner, holding.level < other.level := by
  induction roll with
  | nil => cases member
  | cons top rest ih =>
      rcases List.mem_cons.mp member with first | below
      · exact ⟨[], rest, by rw [first, List.nil_append], leveled.2, by rw [first, leveled.1],
          nofun⟩
      · obtain ⟨inner, outer, shape, lower, place, higher⟩ := ih leveled.2 below
        refine ⟨top :: inner, outer, by rw [shape, List.cons_append], lower, place, ?_⟩
        intro other within
        rcases List.mem_cons.mp within with first | deeper
        · rw [first, leveled.1]
          exact Nat.lt_succ_of_le (leveled.2.level_le holding below)
        · exact higher other deeper

theorem Leveled.remaining_all (leveled : Leveled base roll) {depth : Nat}
    (deep : base + roll.length ≤ depth) : remaining roll depth = roll := by
  rw [remaining, List.filter_eq_self]
  intro holding member
  exact decide_eq_true (Nat.le_trans (leveled.level_le holding member) deep)

theorem Follows.depth (follows : session.Follows base roll) :
    session.channel.depth = base + roll.length := by
  obtain ⟨below, size, stacked⟩ := follows.stacked
  rw [Channel.depth, stacked, List.length_append, List.length_map, size, Nat.add_comm]

/-- A release at the level of an open capture ends that capture and those above it. -/
theorem Follows.release (follows : session.Follows base roll) {holding : Holding}
    (member : holding ∈ roll) :
    let released := session.channel.release ⟨holding.level⟩
    released = (holding.text,
      ⟨session.channel.upTo (holding.level - 1), session.channel.console⟩) ∧
    (∃ below, below.length = base ∧
      released.2.captures = (remaining roll released.2.depth).map Holding.text ++ below) ∧
    remaining roll released.2.depth ⊆ roll ∧ Leveled base (remaining roll released.2.depth) ∧
    released.2.depth < session.channel.depth := by
  obtain ⟨inner, outer, shape, leveled, place, higher⟩ := follows.leveled.split member
  obtain ⟨below, size, stacked⟩ := follows.stacked
  let under : Channel := ⟨outer.map Holding.text ++ below, session.channel.console⟩
  have depth : under.captures.length = base + outer.length := by
    rw [List.length_append, List.length_map, size, Nat.add_comm]
  have whole : session.channel.captures =
      inner.map Holding.text ++ holding.text :: under.captures := by
    rw [stacked, shape, List.map_append, List.map_cons, List.append_assoc, List.cons_append]
  have level : under.begin.1 = ⟨holding.level⟩ := by
    rw [place, ← depth]
    rfl
  have ended : session.channel.release ⟨holding.level⟩ = (holding.text, under) := by
    rw [← level]
    exact Channel.release_own whole rfl
  have lower : session.channel.upTo (holding.level - 1) = under.captures := by
    rw [place, ← depth, Nat.add_sub_cancel]
    have split : session.channel.captures =
        (inner.map Holding.text ++ [holding.text]) ++ under.captures := by
      rw [whole, List.append_assoc, List.singleton_append]
    exact Channel.up_to_below split
  have kept : remaining roll under.depth = outer := by
    have gone : inner.filter (fun other => other.level ≤ under.depth) = [] := by
      rw [List.filter_eq_nil_iff]
      intro other within
      have high := higher other within
      simp only [Channel.depth, depth, decide_eq_true_eq]
      omega
    have ends : ¬decide (holding.level ≤ under.depth) = true := by
      simp only [Channel.depth, depth, decide_eq_true_eq]
      omega
    have stays := leveled.remaining_all (Nat.le_of_eq depth.symm)
    rw [shape, remaining, List.filter_append, gone, List.nil_append, List.filter_cons, if_neg ends]
    exact stays
  dsimp only
  rw [ended, kept, lower]
  refine ⟨rfl, ⟨below, size, rfl⟩, ?_, leveled, ?_⟩
  · rw [shape]
    exact fun other within => List.mem_append_right inner (List.mem_cons_of_mem holding within)
  · have longer : session.channel.captures.length = inner.length + (under.captures.length + 1) := by
      simp [whole]
    change under.captures.length < session.channel.captures.length
    omega

/-- Nothing is open at the level of a handle if the stack does not come up to it. -/
theorem Follows.vacant (follows : session.Follows base roll) {number : Nat}
    {capture : Capture} (known : session.handle? number = some capture)
    (vacant : ∀ holding ∈ roll, holding.level ≠ capture.level) :
    session.channel.release capture = ("", session.channel) := by
  apply Channel.release_gone
  apply Nat.lt_of_not_le
  intro reached
  rw [follows.depth] at reached
  obtain ⟨holding, member, same⟩ :=
    follows.leveled.reached (follows.above number capture known) reached
  exact vacant holding member same

theorem follows_start (channel : Channel) :
    Follows channel.depth [] ⟨channel, []⟩ where
  leveled := trivial
  stacked := ⟨channel.captures, rfl, rfl⟩
  above number _ known := absurd (handle?_begun known) (Nat.not_lt_zero number)
  begun := nofun
  own := nofun
  later := nofun

/-- Spending a handle whose release takes the stack down to some of the open captures, or
leaves it as it is. -/
theorem Follows.spend (follows : session.Follows base roll) (number : Nat) {channel : Channel}
    {outer : List Holding} (kept : outer ⊆ roll) (leveled : Leveled base outer)
    (stacked : ∃ below, below.length = base ∧
      channel.captures = outer.map Holding.text ++ below) :
    (session.spend number channel).Follows base outer where
  leveled := leveled
  stacked := stacked
  above other capture known := follows.above other capture (handle?_spend known)
  begun holding member := by
    rw [Session.spend, List.length_set]
    exact follows.begun holding (kept member)
  own holding member capture known :=
    follows.own holding (kept member) capture (handle?_spend known)
  later other capture known holding member :=
    follows.later other capture (handle?_spend known) holding (kept member)

theorem Follows.released (follows : session.Follows base roll) {number : Nat}
    {capture : Capture} (known : session.handle? number = some capture) :
    (session.spend number (session.channel.release capture).2).Follows base
      (remaining roll (session.channel.release capture).2.depth) := by
  by_cases taken : ∃ holding ∈ roll, holding.level = capture.level
  · obtain ⟨holding, member, same⟩ := taken
    obtain ⟨_, stacked, kept, leveled, _⟩ := follows.release member
    rw [same] at stacked kept leveled
    exact follows.spend number kept leveled stacked
  · have vacant : ∀ holding ∈ roll, holding.level ≠ capture.level :=
      fun holding member same => taken ⟨holding, member, same⟩
    rw [follows.vacant known vacant,
      follows.leveled.remaining_all (Nat.le_of_eq follows.depth.symm)]
    exact follows.spend number (List.Subset.refl roll) follows.leveled follows.stacked

theorem Follows.begin (follows : session.Follows base roll) :
    (session.step .begin).2.Follows base (session.rollStep roll .begin) where
  leveled := ⟨by rw [follows.depth], follows.leveled⟩
  stacked := by
    obtain ⟨below, size, stacked⟩ := follows.stacked
    exact ⟨below, size, congrArg (List.cons "") stacked⟩
  above number capture known := by
    rcases handle?_begin known with old | new
    · exact follows.above number capture old
    · rw [new.2, follows.depth]
      omega
  begun holding member := by
    have longer : (session.step .begin).2.begun.length = session.begun.length + 1 :=
      List.length_append
    rw [longer]
    rcases List.mem_cons.mp member with first | rest
    · rw [first]
      exact Nat.lt_succ_self _
    · exact Nat.lt_succ_of_lt (follows.begun holding rest)
  own holding member capture known := by
    rcases List.mem_cons.mp member with first | rest
    · rw [first] at known ⊢
      rcases handle?_begin known with old | new
      · exact absurd (handle?_begun old) (Nat.lt_irrefl _)
      · exact new.2
    · rcases handle?_begin known with old | new
      · exact follows.own holding rest capture old
      · exact absurd new.1 (Nat.ne_of_lt (follows.begun holding rest))
  later number capture known holding member same := by
    rcases List.mem_cons.mp member with first | rest
    · rw [first]
      rcases handle?_begin known with old | new
      · exact Nat.le_of_lt (handle?_begun old)
      · exact Nat.le_of_eq new.1
    · rcases handle?_begin known with old | new
      · exact follows.later number capture old holding rest same
      · -- the new level lies above all that were open
        have lower := follows.leveled.level_le holding rest
        rw [same, new.2, follows.depth] at lower
        omega

theorem mem_roll_step_write {text : String} {holding : Holding}
    (member : holding ∈ session.rollStep roll (.write text)) :
    ∃ old ∈ roll, holding.number = old.number ∧ holding.level = old.level := by
  cases roll with
  | nil => cases member
  | cons top rest =>
      rcases List.mem_cons.mp member with first | later
      · exact ⟨top, List.mem_cons_self, by rw [first], by rw [first]⟩
      · exact ⟨holding, List.mem_cons_of_mem top later, rfl, rfl⟩

/-- A text goes to the innermost open capture, or below them if there is none. -/
theorem Follows.write (follows : session.Follows base roll) (text : String) :
    (session.step (.write text)).2.Follows base (session.rollStep roll (.write text)) where
  leveled := by
    cases roll with
    | nil => trivial
    | cons top rest => exact follows.leveled
  stacked := by
    obtain ⟨below, size, stacked⟩ := follows.stacked
    cases roll with
    | nil =>
        rw [List.map_nil, List.nil_append] at stacked
        cases below with
        | nil => exact ⟨[], size, by simp [Session.step, Channel.write, stacked, rollStep]⟩
        | cons top rest =>
            exact ⟨(top ++ text) :: rest, size,
              by simp [Session.step, Channel.write, stacked, rollStep]⟩
    | cons top rest =>
        exact ⟨below, size, by simp [Session.step, Channel.write, stacked, rollStep]⟩
  above := follows.above
  begun holding member := by
    obtain ⟨old, known, number, _⟩ := mem_roll_step_write member
    rw [number]
    exact follows.begun old known
  own holding member capture handle := by
    obtain ⟨old, known, number, level⟩ := mem_roll_step_write member
    rw [number] at handle
    rw [level]
    exact follows.own old known capture handle
  later number capture handle holding member same := by
    obtain ⟨old, known, numbered, level⟩ := mem_roll_step_write member
    rw [numbered]
    exact follows.later number capture handle old known (level ▸ same)

/-- One use more, and the open captures are still those on the stack. -/
theorem Follows.step (follows : session.Follows base roll) (use : CaptureUse) :
    (session.step use).2.Follows base (session.rollStep roll use) := by
  have unchanged : remaining roll session.channel.depth = roll :=
    follows.leveled.remaining_all (Nat.le_of_eq follows.depth.symm)
  cases use with
  | begin => exact follows.begin
  | write text => exact follows.write text
  | finish number =>
      simp only [rollStep, Session.step]
      cases known : session.handle? number with
      | some capture => exact follows.released known
      | none => exact unchanged.symm ▸ follows
  | drop number =>
      simp only [rollStep, Session.step]
      cases known : session.handle? number with
      | some capture => exact follows.released known
      | none => exact unchanged.symm ▸ follows
  | leak number =>
      have kept : session.rollStep roll (.leak number) = roll := unchanged
      rw [kept]
      exact follows.spend number (List.Subset.refl roll) follows.leveled follows.stacked

theorem Follows.after (follows : session.Follows base roll) (uses : List CaptureUse) :
    (session.after uses).Follows base (session.roll roll uses) := by
  induction uses generalizing session roll with
  | nil => exact follows
  | cons use rest ih => exact ih (follows.step use)

end Session

/-- What becomes of a capture whose level was taken away by the release of an outer one, when
at last it is finished or dropped itself. The open captures are those on the stack, each with
what has been written under it. If none is open at the level of the late capture, its end
changes nothing and gives no text. If one is, which then began later, it is that capture which
ends, with those above it: its text is what finishing gives, and the levels below stay. -/
theorem superseded_capture_ends_holder (base : Channel) (uses : List CaptureUse)
    (number : Nat) (capture : Capture)
    (usable : ((Session.mk base []).after uses).handle? number = some capture)
    (superseded : ∀ holding ∈ (Session.mk base []).roll [] uses, holding.number ≠ number) :
    let session := (Session.mk base []).after uses
    let roll := (Session.mk base []).roll [] uses
    session.channel.captures = roll.map Holding.text ++ session.channel.upTo base.depth ∧
    ((∀ holding ∈ roll, holding.level ≠ capture.level) →
      session.step (.finish number) = (some "", session.spend number session.channel) ∧
      session.step (.drop number) = (none, session.spend number session.channel)) ∧
    ∀ holding ∈ roll, holding.level = capture.level →
      let left : Channel := ⟨session.channel.upTo (capture.level - 1), session.channel.console⟩
      number < holding.number ∧ left.depth < session.channel.depth ∧
      session.step (.finish number) = (some holding.text, session.spend number left) ∧
      session.step (.drop number) = (none, session.spend number left) := by
  intro session roll
  have follows : session.Follows base.depth roll := (Session.follows_start base).after uses
  have finished : session.step (.finish number) =
      (some (session.channel.release capture).1,
        session.spend number (session.channel.release capture).2) := by
    simp only [Session.step, show session.handle? number = some capture from usable]
  have dropped : session.step (.drop number) =
      (none, session.spend number (session.channel.release capture).2) := by
    simp only [Session.step, show session.handle? number = some capture from usable]
  refine ⟨?_, ?_, ?_⟩
  · obtain ⟨below, size, stacked⟩ := follows.stacked
    rw [← size, Channel.up_to_below stacked]
    exact stacked
  · intro vacant
    rw [finished, dropped, follows.vacant usable vacant]
    exact ⟨rfl, rfl⟩
  · intro holding member same left
    obtain ⟨ended, _, _, _, shorter⟩ := follows.release member
    have earlier : number ≤ holding.number :=
      follows.later number capture usable holding member same
    have apart : holding.number ≠ number := superseded holding member
    rw [same] at ended shorter
    rw [finished, dropped, ended]
    rw [ended] at shorter
    exact ⟨Nat.lt_of_le_of_ne earlier apart.symm, shorter, rfl, rfl⟩

/-- Two captures, one inside the other, and the outer one is finished. Then two more begin,
and under the second of them a text is written. -/
def reopened : List CaptureUse := [.begin, .begin, .finish 0, .begin, .begin, .write "x"]

/-- The inner one of the first two comes late and ends the last one. -/
theorem superseded_capture_ends_holder_reopened :
    let session := (Session.mk Channel.fresh []).after reopened
    let roll := (Session.mk Channel.fresh []).roll [] reopened
    session.handle? 1 = some ⟨2⟩ ∧ roll = [⟨3, 2, "x"⟩, ⟨2, 1, ""⟩] ∧
    (∀ holding ∈ roll, holding.number ≠ 1) ∧
    session.step (.finish 1) = (some "x", session.spend 1 ⟨[""], ""⟩) := by
  intro session roll
  have usable : session.handle? 1 = some ⟨2⟩ := by decide
  have superseded : ∀ holding ∈ roll, holding.number ≠ 1 := by decide
  have last : (⟨3, 2, "x"⟩ : Holding) ∈ roll := by decide
  obtain ⟨_, _, ends⟩ :=
    superseded_capture_ends_holder Channel.fresh reopened 1 ⟨2⟩ usable superseded
  obtain ⟨_, _, finished, _⟩ := ends ⟨3, 2, "x"⟩ last rfl
  exact ⟨usable, by decide, superseded, finished⟩

/-- A late end is not without effect: it takes a text that was written under a capture that
began after the level of its own was taken away, and that one is left with nothing. -/
theorem late_end_takes_later_text :
    ¬∀ (base : Channel) (uses : List CaptureUse) (number : Nat) (capture : Capture),
      ((Session.mk base []).after uses).handle? number = some capture →
      (∀ holding ∈ (Session.mk base []).roll [] uses, holding.number ≠ number) →
      let session := (Session.mk base []).after uses
      (session.step (.finish number)).1 = some "" ∧
      (session.step (.finish number)).2.channel = session.channel ∧
      (session.step (.drop number)).2.channel = session.channel := by
  intro inert
  have text := (inert Channel.fresh reopened 1 ⟨2⟩ (by decide) (by decide)).1
  exact absurd text (by decide)

end Stencil
