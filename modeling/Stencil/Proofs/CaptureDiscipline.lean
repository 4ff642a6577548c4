import Stencil.Channel

/-!
What may go on while a capture is held. Captures that begin later may be finished, dropped
or leaked in any order, or never; a release may take several of their levels at once. The
depth of the stack never falls below the level of the capture that is held, so that its
text is what has been written at that level, and the stack below it comes back untouched.
-/

namespace Stencil

/-- What may be done with the channel while a capture is held. Captures that have begun
since are known by number, in the order in which they began. -/
inductive CaptureUse where
  | begin
  | write (text : String)
  | finish (number : Nat)
  | drop (number : Nat)
  /-- The handle is forgotten; its level stays. -/
  | leak (number : Nat)
  deriving DecidableEq

/-- A channel with the captures begun since some moment. A capture can be used up once:
after that its number stands for nothing. -/
structure Session where
  channel : Channel
  begun : List (Option Capture)

namespace Session

def start (channel : Channel) : Session := ⟨channel.begin.2, []⟩

def handle? (session : Session) (number : Nat) : Option Capture := (session.begun[number]?).join

def spend (session : Session) (number : Nat) (channel : Channel) : Session :=
  ⟨channel, session.begun.set number none⟩

/-- Finishing a capture gives its text; nothing else gives one. -/
def step (session : Session) : CaptureUse → Option String × Session
  | .begin =>
      let (capture, channel) := session.channel.begin
      (none, ⟨channel, session.begun ++ [some capture]⟩)
  | .write text => (none, { session with channel := session.channel.write text })
  | .finish number =>
      match session.handle? number with
      | some capture =>
          let (text, channel) := session.channel.release capture
          (some text, session.spend number channel)
      | none => (none, session)
  | .drop number =>
      match session.handle? number with
      | some capture => (none, session.spend number (session.channel.release capture).2)
      | none => (none, session)
  | .leak number => (none, session.spend number session.channel)

def after (session : Session) (uses : List CaptureUse) : Session :=
  uses.foldl (fun session use => (session.step use).2) session

def writes (session : Session) (level : Nat) : CaptureUse → String
  | .write text => if session.channel.depth = level then text else ""
  | _ => ""

/-- All texts written while the stack was as deep as a level, in order. -/
def written (session : Session) (level : Nat) : List CaptureUse → String
  | [] => ""
  | use :: rest => session.writes level use ++ (session.step use).2.written level rest

/-- A capture over `base` is held: its level holds `text`, later captures lie above it, and
every handle that can still be used belongs to one of those. -/
structure Keeps (base : Channel) (text : String) (session : Session) : Prop where
  stacked : ∃ inner, session.channel.captures = inner ++ text :: base.captures
  console : session.channel.console = base.console
  above : ∀ capture, some capture ∈ session.begun → base.begin.1.level < capture.level

end Session

namespace Channel

/-- A release at a higher level takes away from what lies above, and from nothing else. -/
theorem release_above {channel : Channel} {capture : Capture} {inner below : List String}
    (stacked : channel.captures = inner ++ below) (higher : below.length < capture.level) :
    ∃ left, (channel.release capture).2 = ⟨left ++ below, channel.console⟩ := by
  have short : channel.captures.length - capture.level ≤ inner.length := by
    rw [stacked, List.length_append]
    omega
  have kept : channel.upTo capture.level =
      inner.drop (channel.captures.length - capture.level) ++ below := by
    rw [upTo, stacked, List.drop_append_of_le_length (by rwa [← stacked])]
  simp only [release, kept]
  split
  next same =>
    cases rest : inner.drop (channel.captures.length - capture.level) with
    | nil =>
        -- the level would then be one of those below
        rw [rest, List.nil_append] at same
        omega
    | cons top left => exact ⟨left, rfl⟩
  next => exact ⟨_, rfl⟩

theorem up_to_below {channel : Channel} {inner below : List String}
    (stacked : channel.captures = inner ++ below) : channel.upTo below.length = below := by
  have above : channel.captures.length - below.length = inner.length := by
    rw [stacked, List.length_append]
    omega
  rw [upTo, above, stacked, List.drop_left]

/-- What was left open above a capture goes with it. -/
theorem release_own {channel base : Channel} {text : String} {inner : List String}
    (stacked : channel.captures = inner ++ text :: base.captures)
    (console : channel.console = base.console) :
    channel.release base.begin.1 = (text, base) := by
  have kept : channel.upTo base.begin.1.level = text :: base.captures := up_to_below stacked
  have level : (text :: base.captures).length = base.begin.1.level := rfl
  simp only [release, kept, if_pos level]
  rw [console]

theorem peek_own {channel base : Channel} {text : String} {inner : List String}
    (stacked : channel.captures = inner ++ text :: base.captures) :
    channel.peek base.begin.1 = text := by
  have kept : channel.upTo base.begin.1.level = text :: base.captures := up_to_below stacked
  have level : (text :: base.captures).length = base.begin.1.level := rfl
  simp only [peek, kept, if_pos level, List.head?_cons, Option.getD_some]

end Channel

namespace Session

theorem keeps_start (base : Channel) : (start base).Keeps base "" where
  stacked := ⟨[], rfl⟩
  console := rfl
  above _ member := absurd member List.not_mem_nil

variable {base : Channel} {text : String} {session : Session}

theorem Keeps.spend (kept : session.Keeps base text) (number : Nat) {channel : Channel}
    (stacked : ∃ inner, channel.captures = inner ++ text :: base.captures)
    (console : channel.console = base.console) :
    (session.spend number channel).Keeps base text where
  stacked := stacked
  console := console
  above capture member := by
    rcases List.mem_or_eq_of_mem_set member with old | gone
    · exact kept.above capture old
    · cases gone

theorem Keeps.release (kept : session.Keeps base text) {number : Nat} {capture : Capture}
    (known : session.handle? number = some capture) :
    (session.spend number (session.channel.release capture).2).Keeps base text := by
  have member : some capture ∈ session.begun :=
    List.mem_of_getElem? (Option.join_eq_some_iff.mp known)
  obtain ⟨inner, stacked⟩ := kept.stacked
  obtain ⟨left, released⟩ := Channel.release_above stacked (kept.above capture member)
  rw [released]
  exact kept.spend number ⟨left, rfl⟩ kept.console

/-- Each use leaves the capture held, and adds to its text what it writes at its level. -/
theorem Keeps.step (kept : session.Keeps base text) (use : CaptureUse) :
    (session.step use).2.Keeps base (text ++ session.writes base.begin.1.level use) := by
  obtain ⟨inner, stacked⟩ := kept.stacked
  cases use with
  | begin =>
      simp only [Session.step, writes, String.append_empty]
      refine ⟨⟨"" :: inner, ?_⟩, kept.console, ?_⟩
      · simp [Channel.begin, stacked]
      · intro capture member
        rcases List.mem_append.mp member with old | new
        · exact kept.above capture old
        · cases List.mem_singleton.mp new
          simp only [Channel.begin, stacked, List.length_cons, List.length_append]
          omega
  | write word =>
      simp only [Session.step, writes, Channel.depth, Channel.write, stacked]
      cases inner with
      | nil =>
          have level : ([] ++ text :: base.captures).length = base.begin.1.level := rfl
          rw [if_pos level]
          exact ⟨⟨[], rfl⟩, kept.console, kept.above⟩
      | cons top rest =>
          have level : ¬((top :: rest) ++ text :: base.captures).length = base.begin.1.level := by
            simp only [Channel.begin, List.length_append, List.length_cons]
            omega
          rw [if_neg level, String.append_empty]
          exact ⟨⟨(top ++ word) :: rest, rfl⟩, kept.console, kept.above⟩
  | finish number =>
      simp only [Session.step, writes, String.append_empty]
      split
      next capture known => exact kept.release known
      next => exact kept
  | drop number =>
      simp only [Session.step, writes, String.append_empty]
      split
      next capture known => exact kept.release known
      next => exact kept
  | leak number =>
      simp only [Session.step, writes, String.append_empty]
      exact kept.spend number kept.stacked kept.console

theorem Keeps.after (kept : session.Keeps base text) (uses : List CaptureUse) :
    (session.after uses).Keeps base (text ++ session.written base.begin.1.level uses) := by
  induction uses generalizing session text with
  | nil =>
      simp only [written, String.append_empty]
      exact kept
  | cons use rest ih =>
      have later := ih (kept.step use)
      rw [String.append_assoc] at later
      exact later

end Session

/-- Whatever is done while a capture is held, it shows what was written at its own level.
Its end gives that text and brings back the stack as it was before it began. No use but a
write at its level changes what it shows, and none changes the levels below it. -/
theorem held_capture_undisturbed (channel : Channel) (uses : List CaptureUse) :
    let capture := channel.begin.1
    let session := (Session.start channel).after uses
    let text := (Session.start channel).written capture.level uses
    session.channel.peek capture = text ∧
    session.channel.release capture = (text, channel) ∧
    capture.level ≤ session.channel.depth ∧
    session.channel.upTo channel.depth = channel.captures ∧
    session.channel.console = channel.console ∧
    ∀ use, (session.step use).2.channel.peek capture =
      text ++ session.writes capture.level use := by
  intro _ session text
  have kept : session.Keeps channel ("" ++ text) := (Session.keeps_start channel).after uses
  rw [String.empty_append] at kept
  obtain ⟨inner, stacked⟩ := kept.stacked
  have depth : session.channel.depth = inner.length + 1 + channel.depth := by
    simp only [Channel.depth, stacked, List.length_append, List.length_cons]
    omega
  refine ⟨Channel.peek_own stacked, Channel.release_own stacked kept.console, ?_, ?_,
    kept.console, ?_⟩
  · rw [depth]
    change channel.depth + 1 ≤ _
    omega
  · have split : session.channel.captures = (inner ++ [text]) ++ channel.captures := by
      rw [stacked, List.append_assoc]
      rfl
    exact Channel.up_to_below split
  · intro use
    obtain ⟨_, further⟩ := (kept.step use).stacked
    exact Channel.peek_own further

/-- Two captures begin inside another one. The outer of the two is dropped first and takes
the other along, whose own end comes too late to matter. -/
example :
    let uses : List CaptureUse := [.write "a", .begin, .write "b", .begin, .write "c", .drop 0,
      .write "d", .finish 1, .begin, .leak 2]
    (Session.start Channel.fresh).written 1 uses = "ad" ∧
      (((Session.start Channel.fresh).after uses).channel.release ⟨1⟩) =
        ("ad", Channel.fresh) := by
  decide

end Stencil
