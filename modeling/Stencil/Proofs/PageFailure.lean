import Stencil.Proofs.FaultStory
import Stencil.Proofs.PageEvaluation

/-!
What the failure of a page tells. Around what went wrong lie the layer of the file
and steps that name the place. What went wrong is one message of the page, or a
refused request: then the complaint about it comes next, and after it all that was
told by the failure behind it, as it was told there.
-/

namespace Stencil

namespace Fault

theorem story_own (fault inner : Fault) (shape : fault.parts = fault :: inner.parts)
    (own : fault.standsIn = false) : fault.story = fault.text :: inner.story := by
  rw [story, shape, messages_own _ _ own, story]

theorem cause_texts_of_story (fault : Fault) (texts : List String)
    (told : fault.story = fault.text :: texts) : fault.causeTexts = texts := by
  have whole := fault.text_cause_texts
  rw [told] at whole
  exact (List.cons.inj whole).2

theorem story_under (steps : List String) (fault : Fault) :
    (fault.under steps).story = steps ++ fault.story := by
  induction steps with
  | nil => rfl
  | cons step rest ih =>
      have told := story_own (.stage step (fault.under rest)) (fault.under rest) rfl rfl
      rw [ih] at told
      exact told

end Fault

theorem Asking.story_refused (asking : Asking) (fault : Fault) :
    (asking.refused fault).story = asking.complaint :: fault.story := by
  cases asking with
  | value key fallback => exact Fault.story_own _ fault rfl rfl
  | call name args =>
      have carried : (Fault.forwarded fault).story = fault.story := by
        rw [Fault.story, Fault.parts, Fault.messages_stand_in _ _ rfl, Fault.story]
      rw [← carried]
      exact Fault.story_own _ (.forwarded fault) rfl rfl

namespace Markup

def keeps (source : String) : Bool :=
  match bind source with
  | .ok book => book.keeps
  | .error _ => true

example : keeps "\x7b\x7b f(name=\"x\") \x7d\x7d" = true := by decide +kernel

example : keeps "\x7b\x7b 1 + f(name=\"x\") \x7d\x7d" = false := by decide +kernel

theorem settled_unreachable {α : Type} (care : Care) (node : Node) (fault : Fault)
    (found : unreachable node = some fault) : Settled care [] (.error fault : Except Fault α) := by
  unfold unreachable at found
  split at found
  · split at found
    · cases found
      exact Settled.message care _
    · cases found
      exact Settled.message care _
  · split at found
    · cases found
    · cases found
      exact Settled.message care _
  · cases found

/-- Nothing has been asked when a page turns out to be no page. -/
theorem settled_bind {α : Type} (care : Care) (source : String) (fault : Fault)
    (failed : bind source = .error fault) : Settled care [] (.error fault : Except Fault α) := by
  have unreadable : ∀ reason, Settled care [] (.error (unparsed reason) : Except Fault α) := by
    intro reason
    have message : Settled care [] (.error (.message reason) : Except Fault α) :=
      Settled.message care reason
    exact message.stage .reading
  unfold bind at failed
  split at failed
  · cases failed
    exact unreadable _
  · split at failed
    · cases failed
      exact unreadable _
    · dsimp only at failed
      split at failed
      · cases failed
        exact unreadable _
      · cases failed
        exact unreadable _
      · split at failed
        · rename_i found
          cases failed
          obtain ⟨node, _, other⟩ := List.exists_of_findSome?_eq_some found
          exact settled_unreachable care node fault other
        · cases failed

/-- However a page is answered, it ends as it should. -/
theorem render_settled (source : String) (care : Care) (asks : care ≠ .silent)
    (kept : care = .firm → keeps source = true) :
    (render source).Ends fun exchanges outcome => Settled care exchanges outcome := by
  unfold render
  cases bound : bind source with
  | error fault => exact settled_bind care source fault bound
  | ok book =>
      have whole : care = .firm → book.keeps = true := by
        intro firm
        have held := kept firm
        rw [keeps, bound] at held
        exact held
      have page := settles_render_page book care asks whole book.nodes
        fun firm => Book.nodes_keep (whole firm)
      apply Dialog.ends_bind
      apply Dialog.ends_mono _ _ (page [Frame.plain .page []])
      intro exchanges answer settled
      change Settled care (exchanges ++ []) answer.1
      rw [List.append_nil]
      exact settled

/-- A page that keeps failures fails with the first one, and asks no more. -/
theorem Settled.refusal {α : Type} {exchanges : List Exchange} {outcome : Except Fault α}
    (settled : Settled .firm exchanges outcome) {asking : Asking} {fault : Fault}
    (member : ⟨asking, .error fault⟩ ∈ exchanges) :
    ∃ steps, (∀ step ∈ steps, Step step) ∧
      outcome = .error (.under steps (asking.refused fault)) := by
  have never : ∀ some : List Exchange, Care.firm.Calm some →
      ⟨asking, .error fault⟩ ∈ some → False := by
    intro some calm inside
    obtain ⟨value, answered⟩ := calm _ inside
    cases answered
  cases settled with
  | ok result calm => exact (never _ calm member).elim
  | own steps named text calm => exact (never _ calm member).elim
  | refused steps named other cause earlier later split last =>
      obtain ⟨calm, nothing⟩ := last
      subst nothing
      rw [split] at member
      rcases List.mem_append.mp member with before | here
      · exact (never _ calm before).elim
      · cases List.mem_singleton.mp here
        exact ⟨steps, named, rfl⟩

/-- The texts of a page's failure: the layer of the file, then steps, then what was
told inside. -/
def Tells (path : String) (inside texts : List String) : Prop :=
  ∃ steps, (∀ step ∈ steps, Step step) ∧
    texts = ("Failed to evaluate template body: " ++ path) :: (steps ++ inside)

end Markup

end Stencil
