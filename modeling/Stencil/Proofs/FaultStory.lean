import Stencil.Report

/-!
What a fault tells. A fault is made of parts, each inside the one before it. Some
parts stand in for the next one and have no message of their own. The texts of a
fault and its causes are the messages of the other parts, each once and from the
outside in, so what is inside a fault tells its own texts at the end of them.
-/

namespace Stencil.Fault

def parts (fault : Fault) : List Fault :=
  fault :: match fault with
    | .lookup _ inner | .stage _ inner | .setup _ inner | .evaluation _ _ inner
    | .raised inner | .forwarded inner | .layered _ inner => inner.parts
    | .message _ | .missingFunction .. | .badShape _ | .unknownLocation _ | .badLocation ..
    | .file _ | .malformed _ | .command _ => []

/-- Whether a fault only carries another one, whose text it repeats. -/
def standsIn : Fault → Bool
  | .raised _ | .forwarded _ => true
  | _ => false

/-- The messages of parts, without those that only stand in for another one. -/
def messages (parts : List Fault) : List String :=
  (parts.filter fun part => !part.standsIn).map text

def story (fault : Fault) : List String := messages fault.parts

theorem messages_append (outer inner : List Fault) :
    messages (outer ++ inner) = messages outer ++ messages inner := by
  simp only [messages, List.filter_append, List.map_append]

theorem messages_own (fault : Fault) (rest : List Fault) (own : fault.standsIn = false) :
    messages (fault :: rest) = fault.text :: messages rest := by
  simp [messages, own]

theorem messages_stand_in (fault : Fault) (rest : List Fault) (carries : fault.standsIn = true) :
    messages (fault :: rest) = messages rest := by
  simp [messages, carries]

/-- No text is lost and none is told twice. -/
theorem text_cause_texts (fault : Fault) : fault.text :: fault.causeTexts = fault.story := by
  induction fault with
  | message | missingFunction | badShape | unknownLocation | badLocation | file | malformed
  | command => rfl
  | lookup _ inner ih | stage _ inner ih | setup _ inner ih | layered _ inner ih
  | evaluation _ _ inner ih =>
      rw [story, parts, messages_own _ _ rfl]
      exact congrArg (List.cons _) ih
  | raised inner ih | forwarded inner ih =>
      rw [story, parts, messages_stand_in _ _ rfl]
      exact ih

/-- Induction on what lies inside a fault: nothing, or one other fault. -/
@[elab_as_elim]
theorem parts_induction {motive : Fault → Prop}
    (alone : ∀ fault : Fault, fault.parts = [fault] → motive fault)
    (around : ∀ whole inner : Fault, whole.parts = whole :: inner.parts → motive inner →
      motive whole) (fault : Fault) : motive fault := by
  induction fault with
  | message | missingFunction | badShape | unknownLocation | badLocation | file | malformed
  | command => exact alone _ rfl
  | lookup _ inner ih | stage _ inner ih | setup _ inner ih | layered _ inner ih
  | evaluation _ _ inner ih | raised inner ih | forwarded inner ih => exact around _ inner rfl ih

/-- The parts of a part are the end of the parts of the whole. -/
theorem parts_of_part (fault part : Fault) (member : part ∈ fault.parts) :
    ∃ outer, fault.parts = outer ++ part.parts := by
  induction fault using parts_induction with
  | alone fault nothing =>
      rw [nothing] at member
      exact ⟨[], by rw [List.mem_singleton.mp member, List.nil_append]⟩
  | around whole inner shape ih =>
      rw [shape] at member
      rcases List.mem_cons.mp member with same | below
      · exact ⟨[], by rw [same, List.nil_append]⟩
      · obtain ⟨outer, split⟩ := ih below
        exact ⟨whole :: outer, by rw [shape, split, List.cons_append]⟩

/-- A fault inside another one tells its own text and then its own causes, after
what is around it has been told. -/
theorem story_of_part (fault part : Fault) (member : part ∈ fault.parts) :
    ∃ outer, fault.parts = outer ++ part.parts ∧
      fault.story = messages outer ++ part.text :: part.causeTexts := by
  obtain ⟨outer, split⟩ := parts_of_part fault part member
  refine ⟨outer, split, ?_⟩
  rw [text_cause_texts part, story, split, messages_append, story]

theorem report_of_site (fault : Fault) (site : RenderSite) (known : fault.site? = some site) :
    fault.report = fault.heading site ++ String.join (fault.causeTexts.map arrowLine) ++
      fault.hintLines site := by
  simp only [report, known, causeLines]

end Stencil.Fault
