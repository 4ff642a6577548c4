import Stencil.Engine

/-!
Laws of the output channel. Text written twice is text written once, and a
capture that has just been written to gives its text back and leaves the
channel as it was before it began.
-/

namespace Stencil.Channel

theorem write_nothing (channel : Channel) : channel.write "" = channel := by
  obtain ⟨captures, console⟩ := channel
  cases captures <;> simp [write]

theorem write_twice (channel : Channel) (first second : String) :
    (channel.write first).write second = channel.write (first ++ second) := by
  obtain ⟨captures, console⟩ := channel
  cases captures <;> simp [write, String.append_assoc]

theorem depth_write (channel : Channel) (text : String) :
    (channel.write text).depth = channel.depth := by
  obtain ⟨captures, console⟩ := channel
  cases captures <;> simp [write, depth]

theorem depth_begin (channel : Channel) : channel.begin.2.depth = channel.depth + 1 := rfl

/-- Nothing below the new level is touched by a write to it, so that its release
restores the levels below with their texts, and the console. -/
theorem release_begun (channel : Channel) (text : String) :
    (channel.begin.2.write text).release channel.begin.1 = (text, channel) := by
  obtain ⟨captures, console⟩ := channel
  simp [begin, write, release, upTo]

end Stencil.Channel
