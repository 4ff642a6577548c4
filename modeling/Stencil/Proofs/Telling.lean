import Stencil.Proofs.Account
import Stencil.Proofs.Channel

/-!
An account tells all of a computation: in every world the computation ends as its
account does and writes and asks exactly what the account holds, and of the world
the account depends on the number of captures only. This is proved once for each
way to build a computation, and then for actions, bodies and templates together.
-/

namespace Stencil

def World.after {α : Type} (world : World) (account : Account α) : World :=
  ⟨world.channel.write account.text, world.asked ++ account.asked⟩

def World.opened (world : World) : World := ⟨world.channel.begin.2, world.asked⟩

namespace World

variable {α β : Type}

theorem after_ended (world : World) (outcome : Except Fault α) :
    world.after (Account.ended outcome) = world := by
  simp [after, Account.ended, Channel.write_nothing]

theorem after_before (world : World) (earlier : Account α) (later : Account β) :
    (world.after earlier).after later = world.after (earlier.before later) := by
  simp [after, Account.before, Channel.write_twice, List.append_assoc]

/-- What went on under a capture leaves nothing at the level of its owner. -/
theorem after_enclosed (world : World) (account : Account α) :
    world.after account.enclosed = ⟨world.channel, world.asked ++ account.asked⟩ := by
  simp [after, Account.enclosed, Channel.write_nothing]

theorem depth_after (world : World) (account : Account α) :
    (world.after account).channel.depth = world.channel.depth :=
  Channel.depth_write world.channel account.text

end World

namespace Engine

variable {α β : Type}

theorem run_bind (act : Engine α) (next : α → Engine β) (world : World) :
    (act >>= next).run world =
      match act.run world with
      | (.ok value, later) => (next value).run later
      | (.error fault, later) => (.error fault, later) := by
  have opened : (act >>= next).run world =
      ExceptT.bindCont next (act.run world).1 (act.run world).2 := rfl
  rw [opened]
  rcases act.run world with ⟨outcome, later⟩
  cases outcome <;> rfl

theorem run_attempt (act : Engine α) (world : World) :
    (attempt act).run world = (.ok (act.run world).1, (act.run world).2) := rfl

theorem run_begin (world : World) :
    (begin : Engine Capture).run world = (.ok world.channel.begin.1, world.opened) := rfl

theorem run_release (capture : Capture) (world : World) :
    (release capture).run world =
      (.ok (world.channel.release capture).1,
        ⟨(world.channel.release capture).2, world.asked⟩) := rfl

theorem run_attempted (act : Engine α) (next : Except Fault α → Engine β) (world : World) :
    (attempt act >>= next).run world = (next (act.run world).1).run (act.run world).2 := by
  rw [run_bind, run_attempt]

/-- A part runs over a new level, which is gone when it has ended, be it by a failure. -/
theorem run_captured (act : Engine α) (world : World) :
    (captured act).run world =
      let inner := act.run world.opened
      let released := inner.2.channel.release world.channel.begin.1
      (match inner.1 with
        | .ok result => .ok (result, released.1)
        | .error fault => .error fault, ⟨released.2, inner.2.asked⟩) := by
  rw [captured, run_bind, run_begin]
  dsimp only
  rw [run_attempted]
  cases ended : (act.run world.opened).1 with
  | ok result =>
      dsimp only
      rw [run_bind, run_release]
      rfl
  | error fault =>
      dsimp only
      rw [run_bind, run_release]
      rfl

/-- In every world a computation does what its account at that depth holds. -/
def Tells (act : Engine α) (account : Nat → Account α) : Prop :=
  ∀ world, act.run world =
    ((account world.channel.depth).outcome, world.after (account world.channel.depth))

theorem tells_pure (value : α) :
    (pure value : Engine α).Tells fun _ => .ended (.ok value) := by
  intro world
  rw [World.after_ended]
  rfl

theorem tells_throw (fault : Fault) :
    (throw fault : Engine α).Tells fun _ => .ended (.error fault) := by
  intro world
  rw [World.after_ended]
  rfl

theorem tells_answer (reply : List Question × Except Fault α) :
    (answer reply).Tells fun _ => .answered reply := by
  intro world
  obtain ⟨asked, outcome⟩ := reply
  simp only [World.after, Account.answered, Channel.write_nothing]
  cases outcome <;> rfl

theorem tells_write (text : String) : (write text).Tells fun _ => .wrote text := by
  intro world
  simp only [World.after, Account.wrote, List.append_nil]
  rfl

theorem tells_depth : (depth : Engine Nat).Tells .sawLevel := by
  intro world
  simp only [World.after, Account.sawLevel, Channel.write_nothing, List.append_nil]
  rfl

theorem tells_attempt {act : Engine α} {account : Nat → Account α} (told : act.Tells account) :
    (attempt act).Tells fun depth =>
      { account depth with outcome := .ok (account depth).outcome } := by
  intro world
  rw [run_attempt, told world]
  rfl

/-- What comes later goes on at the same depth, since no computation leaves a
capture open or closes one it has not begun. -/
theorem tells_bind {act : Engine α} {next : α → Engine β}
    {first : Nat → Account α} {rest : α → Nat → Account β}
    (told : act.Tells first) (follows : ∀ result, (next result).Tells (rest result)) :
    (act >>= next).Tells fun depth => (first depth).andThen fun result => rest result depth := by
  intro world
  rw [run_bind, told world]
  have level := World.depth_after world (first world.channel.depth)
  dsimp only [Account.andThen]
  rw [← World.after_before]
  cases (first world.channel.depth).outcome with
  | ok result =>
      have later := follows result (world.after (first world.channel.depth))
      rw [level] at later
      exact later
  | error fault =>
      rw [Account.resumed, World.after_ended]
      rfl

/-- A capture runs its part one level up and leaves its own level as it was,
whether or not the part fails. -/
theorem tells_captured {act : Engine α} {account : Nat → Account α} (told : act.Tells account) :
    (captured act).Tells fun depth => (account (depth + 1)).enclosed := by
  intro world
  have inner := told world.opened
  have level : world.opened.channel.depth = world.channel.depth + 1 :=
    Channel.depth_begin world.channel
  rw [level] at inner
  rw [World.after_enclosed, run_captured, inner]
  dsimp only
  generalize account (world.channel.depth + 1) = told
  obtain ⟨text, asked, sawDepth, outcome⟩ := told
  have restored := Channel.release_begun world.channel text
  cases outcome <;> simp only [World.after, World.opened, restored, Account.enclosed]

end Engine

structure Bindings.Tell (bindings : Bindings) (replies : Replies) : Prop where
  lookup : ∀ key fallback,
    (bindings.lookup key fallback).Tells fun _ => replies.lookup key fallback
  invoke : ∀ name args,
    (bindings.invoke name args).Tells fun depth => replies.invoke depth name args

structure Surroundings.Tell (around : Surroundings) (vicinity : Vicinity) : Prop where
  files : around.files = vicinity.files
  holds : around.holds = vicinity.holds
  stored : ∀ location bindings replies, bindings.Tell replies →
    (around.stored location bindings).Tells (vicinity.stored location replies)

theorem Bindings.none_tell : Bindings.none.Tell Replies.none where
  lookup _ _ := Engine.tells_pure _
  invoke _ _ := Engine.tells_throw _

theorem Dialog.run_tells {α : Type} {bindings : Bindings} {replies : Replies}
    (bound : bindings.Tell replies) (dialog : Dialog α) :
    (dialog.run bindings).Tells (dialog.account replies) := by
  induction dialog with
  | done answer => exact Engine.tells_pure answer
  | lookup key fallback next ih =>
      have reply := Engine.tells_attempt (bound.lookup key fallback)
      exact Engine.tells_bind reply ih
  | invoke name args next ih =>
      have reply := Engine.tells_attempt (bound.invoke name args)
      exact Engine.tells_bind reply ih

theorem run_page_tells {bindings : Bindings} {replies : Replies}
    (bound : bindings.Tell replies) (files : FileTree) (path : String) :
    (runPage files path bindings).Tells (pageAccount files path replies) := by
  unfold runPage pageAccount
  cases files.readText path with
  | error error => exact Engine.tells_throw _
  | ok source =>
      apply Engine.tells_bind (Dialog.run_tells bound (Markup.render source))
      intro page
      cases page with
      | error fault => exact Engine.tells_throw _
      | ok text => exact Engine.tells_bind (Engine.tells_write text) fun _ => Engine.tells_pure _

mutual

/-- One case for each kind of step: a step does what its account holds, and what
follows it does by induction. -/
theorem Action.run_tells {around : Surroundings} {vicinity : Vicinity}
    (known : around.Tell vicinity) {bindings : Bindings} {replies : Replies}
    (bound : bindings.Tell replies) : (action : Action) →
    (action.run around bindings).Tells fun depth => action.account vicinity replies depth
  | .done value => Engine.tells_pure value
  | .fail fault => Engine.tells_throw fault
  | .write text next =>
      Engine.tells_bind (Engine.tells_write text) fun _ => next.run_tells known bound
  | .depth next =>
      Engine.tells_bind Engine.tells_depth fun count => (next count).run_tells known bound
  | .lookup key fallback next =>
      Engine.tells_bind (Engine.tells_attempt (bound.lookup key fallback))
        fun reply => (next reply).run_tells known bound
  | .invoke name args next =>
      Engine.tells_bind (Engine.tells_attempt (bound.invoke name args))
        fun reply => (next reply).run_tells known bound
  | .capture part next =>
      Engine.tells_bind (Engine.tells_attempt (Engine.tells_captured (part.run_tells known bound)))
        fun reply => (next reply).run_tells known bound
  | .render template supply next =>
      Engine.tells_bind (Engine.tells_attempt (template.run_tells known supply))
        fun reply => (next reply).run_tells known bound
  | .locate location next => by
      have same : around.holds location = vicinity.holds location := by rw [known.holds]
      have held := (next (around.holds location)).run_tells known bound
      simpa only [Action.run, Action.account, same] using held

theorem Body.run_tells {around : Surroundings} {vicinity : Vicinity}
    (known : around.Tell vicinity) {bindings : Bindings} {replies : Replies}
    (bound : bindings.Tell replies) : (body : Body) →
    (body.run around bindings).Tells fun depth => body.account vicinity replies depth
  | .program action _ => action.run_tells known bound
  | .page path => by
      have page := run_page_tells bound vicinity.files path
      simpa only [Body.run, Body.account, known.files] using page
  | .stored location => known.stored location bindings replies bound

theorem Template.run_tells {around : Surroundings} {vicinity : Vicinity}
    (known : around.Tell vicinity) (supply : Supply) : (template : Template) →
    (template.run around supply).Tells fun depth => template.account vicinity supply depth
  | .mk name body defaults functions => by
      simp only [Template.run, Template.account]
      cases supply.toContext with
      | error fault => exact Engine.tells_throw _
      | ok context =>
          let template : Template := .mk name body defaults functions
          have bound : (template.bindings around context).Tell
              (template.replies vicinity context) :=
            ⟨fun key fallback => Engine.tells_answer _,
              fun called args => call_named_tells known called args _ _
                (Engine.tells_throw _) functions⟩
          have captured := Engine.tells_captured (body.run_tells known bound)
          have reply : ∀ outcome : Except Fault (Value × String), Engine.Tells
              (match outcome with
                | .ok rendition => pure rendition
                | .error fault =>
                    throw (.evaluation (siteOf name body functions) context.summary fault))
              fun _ => .ended (reported (siteOf name body functions) context outcome) := by
            intro outcome
            cases outcome with
            | ok rendition => exact Engine.tells_pure rendition
            | error fault => exact Engine.tells_throw _
          exact Engine.tells_bind (Engine.tells_attempt captured) reply

theorem call_named_tells {around : Surroundings} {vicinity : Vicinity}
    (known : around.Tell vicinity) (name : String) (args : List Value)
    (absent : Engine Value) (account : Account Value)
    (absence : absent.Tells fun _ => account) :
    (functions : List (String × (List Value → Action))) →
    (callNamed around functions name args absent).Tells fun depth =>
      callAccount vicinity functions name args depth account
  | [] => absence
  | (called, function) :: rest => by
      have found := (function args).run_tells known Bindings.none_tell
      have later := call_named_tells known name args absent account absence rest
      simp only [callNamed, callAccount]
      by_cases same : (name == called) = true
      · simpa only [if_pos same] using found
      · simpa only [if_neg same] using later

end

theorem Catalog.within_tell (catalog : Catalog) (files : FileTree) (reach : Nat) :
    (catalog.within files reach).Tell (catalog.vicinity files reach) := by
  induction reach with
  | zero =>
      refine ⟨rfl, rfl, ?_⟩
      intro location bindings replies bound
      exact Engine.tells_throw _
  | succ reach ih =>
      refine ⟨rfl, rfl, ?_⟩
      intro location bindings replies bound
      simp only [within, vicinity, meaning, accounts]
      cases catalog.find? location with
      | none => exact Engine.tells_throw _
      | some action => exact action.run_tells ih bound

end Stencil
