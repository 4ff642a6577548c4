import Stencil.Channel
import Stencil.Context
import Stencil.Dialog

/-!
The effects of rendering: output to the channel, questions to services, and
failure. A failure keeps what has been written and asked.
-/

namespace Stencil

structure World where
  channel : Channel
  /-- What services have been asked, in order. -/
  asked : List Question

namespace World

def fresh : World := ⟨Channel.fresh, []⟩

end World

abbrev Engine := ExceptT Fault (StateM World)

/-- The two capabilities of a body: reading a key and calling a function. -/
structure Bindings where
  lookup : String → Option Value → Engine Value
  invoke : String → List Value → Engine Value

namespace Bindings

def names : List String := ["c", "f"]

end Bindings

namespace Engine

variable {α : Type}

def attempt (act : Engine α) : Engine (Except Fault α) := fun world =>
  let (outcome, world) := act.run world
  (.ok outcome, world)

def write (text : String) : Engine Unit :=
  modify fun world => { world with channel := world.channel.write text }

def depth : Engine Nat := do
  return (← get).channel.depth

def begin : Engine Capture := do
  let world ← get
  let (capture, channel) := world.channel.begin
  set { world with channel }
  return capture

def release (capture : Capture) : Engine String := do
  let world ← get
  let (text, channel) := world.channel.release capture
  set { world with channel }
  return text

/-- Runs under a capture of its own. The capture is released either way; on a
failure its text is dropped. -/
def captured (act : Engine α) : Engine (α × String) := do
  let capture ← begin
  match ← attempt act with
  | .ok result => return (result, ← release capture)
  | .error fault =>
      let _ ← release capture
      throw fault

def answer (reply : List Question × Except Fault α) : Engine α := do
  modify fun world => { world with asked := world.asked ++ reply.1 }
  match reply.2 with
  | .ok value => return value
  | .error fault => throw fault

end Engine

def Dialog.run {α : Type} (bindings : Bindings) : Dialog α → Engine α
  | .done answer => pure answer
  | .lookup key fallback next => do
      (next (← Engine.attempt (bindings.lookup key fallback))).run bindings
  | .invoke name args next => do
      (next (← Engine.attempt (bindings.invoke name args))).run bindings

end Stencil
