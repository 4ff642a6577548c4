/-!
The output channel: a stack of captures over the console. Text goes to the
innermost capture, and to the console if there is none. A capture is held by
its level, the depth of the stack once it had begun. Releasing it discards what
was left open above it and takes its own text, unless its level is gone.
-/

namespace Stencil

structure Channel where
  /-- The captured texts, innermost first. -/
  captures : List String
  console : String
  deriving DecidableEq

structure Capture where
  level : Nat
  deriving DecidableEq

namespace Channel

def fresh : Channel := ⟨[], ""⟩

def depth (channel : Channel) : Nat := channel.captures.length

def write (channel : Channel) (text : String) : Channel :=
  match channel.captures with
  | [] => { channel with console := channel.console ++ text }
  | top :: rest => { channel with captures := (top ++ text) :: rest }

def begin (channel : Channel) : Capture × Channel :=
  let captures := "" :: channel.captures
  (⟨captures.length⟩, { channel with captures })

def upTo (channel : Channel) (level : Nat) : List String :=
  channel.captures.drop (channel.captures.length - level)

def release (channel : Channel) (capture : Capture) : String × Channel :=
  let captures := channel.upTo capture.level
  if captures.length = capture.level then
    match captures with
    | [] => ("", { channel with captures := [] })
    | top :: rest => (top, { channel with captures := rest })
  else ("", { channel with captures })

/-- The text captured so far; nothing once the level is gone. -/
def peek (channel : Channel) (capture : Capture) : String :=
  let captures := channel.upTo capture.level
  if captures.length = capture.level then captures.head?.getD "" else ""

end Channel

end Stencil
