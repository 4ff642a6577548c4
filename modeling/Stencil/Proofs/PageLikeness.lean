import Stencil.Proofs.LockStep
import Stencil.Proofs.PageParts

/-!
A page does not look behind the failures that it is answered with. It puts steps on top of
them, or drops them, and of one that it takes up itself it reads the text. So answered
alike it ends alike, its variables being the same.
-/

namespace Stencil.Markup

namespace Page

variable {α β : Type} {like : Fault → Fault → Prop}

def EndedAlike (like : Fault → Fault → Prop) (one other : Except Fault α × Scope) : Prop :=
  EndsAlike like one.1 other.1 ∧ one.2 = other.2

/-- Whatever its variables are, a part that is answered alike ends alike. -/
def Blind (like : Fault → Fault → Prop) (α : Type) (act : Page α) : Prop :=
  ∀ scope, (act.run.run scope).Alike like (EndedAlike like) (act.run.run scope)

theorem blind_pure (result : α) : Blind like α (pure result) :=
  fun _ => .done ⟨.ok result, rfl⟩

theorem blind_raise (likeness : Fault.Likeness like) (fault : Fault) :
    Blind like α (throw fault) :=
  fun _ => .done ⟨.error (likeness.same fault), rfl⟩

theorem blind_get : Blind like Scope get := fun scope => .done ⟨.ok scope, rfl⟩

theorem blind_modify (change : Scope → Scope) : Blind like Unit (modify change) :=
  fun _ => .done ⟨.ok (), rfl⟩

theorem blind_bind {act : Page α} {next : α → Page β} (first : Blind like α act)
    (follows : ∀ result, Blind like β (next result)) : Blind like β (act >>= next) := by
  intro scope
  have opened : (act >>= next).run.run scope = (act.run.run scope >>= fun answer =>
      (ExceptT.bindCont next answer.1).run answer.2) := rfl
  rw [opened]
  apply Dialog.alike_bind (first scope)
  rintro ⟨outcome, later⟩ ⟨ended, left⟩ ⟨ends, same⟩
  cases same
  cases ends with
  | ok result => exact follows result later
  | error alike => exact .done ⟨.error alike, rfl⟩

/-- What is done with a part whose failure is a result goes on with alike ends. -/
theorem blind_attempted {act : Page α} {next : Except Fault α → Page β}
    (first : Blind like α act)
    (follows : ∀ outcome ended, EndsAlike like outcome ended → ∀ scope,
      ((next outcome).run.run scope).Alike like (EndedAlike like)
        ((next ended).run.run scope)) :
    Blind like β (attempt act >>= next) := by
  intro scope
  have opened : (attempt act >>= next).run.run scope = ((act.run.run scope >>= fun answer =>
      pure (Except.ok answer.1, answer.2)) >>= fun answer =>
        (ExceptT.bindCont next answer.1).run answer.2) := rfl
  rw [opened, bind_assoc]
  apply Dialog.alike_bind (first scope)
  rintro ⟨outcome, later⟩ ⟨ended, left⟩ ⟨ends, same⟩
  cases same
  exact follows outcome ended ends later

theorem blind_caught {act : Page α} {next : Except Fault α → Page β}
    (likeness : Fault.Likeness like) (first : Blind like α act)
    (follows : ∀ result, Blind like β (next (.ok result)))
    (fails : ∀ fault : Fault, next (.error fault) = failure fault.text) :
    Blind like β (attempt act >>= next) := by
  apply blind_attempted first
  intro outcome ended ends scope
  cases ends with
  | ok result => exact follows result scope
  | error alike =>
      rw [fails, fails, likeness.text alike]
      exact blind_raise likeness _ scope

theorem blind_tested {act : Page α} {truth : Except Fault α → Bool} (first : Blind like α act)
    (constant : ∀ one other : Fault, truth (.error one) = truth (.error other)) :
    Blind like Bool (do return truth (← attempt act)) := by
  apply blind_attempted first
  intro outcome ended ends scope
  cases ends with
  | ok result => exact .done ⟨.ok _, rfl⟩
  | @error one other _ =>
      rw [constant one other]
      exact .done ⟨.ok _, rfl⟩

theorem blind_within {act : Page α} (likeness : Fault.Likeness like) (step : String)
    (inner : Blind like α act) : Blind like α (within step act) := by
  apply blind_attempted inner
  intro outcome ended ends scope
  cases ends with
  | ok result => exact .done ⟨.ok result, rfl⟩
  | error alike => exact .done ⟨.error (likeness.stage step alike), rfl⟩

theorem blind_read_key (likeness : Fault.Likeness like) (args : Fields) :
    Blind like Value (readKey args) := by
  unfold readKey
  split
  · intro scope
    apply Dialog.Alike.lookup
    intro reply
    cases reply with
    | ok value => exact .done ⟨.ok value, rfl⟩
    | error fault => exact .done ⟨.error (likeness.same _), rfl⟩
  · exact blind_raise likeness _

theorem blind_call_out (likeness : Fault.Likeness like) (args : Fields) :
    Blind like Value (callOut args) := by
  unfold callOut
  split
  · intro scope
    apply Dialog.Alike.invoke
    intro reply answer ends
    cases ends with
    | ok value => exact .done ⟨.ok value, rfl⟩
    | error alike => exact .done ⟨.error (likeness.stage _ (likeness.forwarded alike)), rfl⟩
  · exact blind_raise likeness _

theorem blind_closed (likeness : Fault.Likeness like) (book : Book) :
    Closed (Blind like) book fun _ => True where
  pure := blind_pure
  raise := blind_raise likeness
  get := blind_get
  modify := blind_modify
  bind := blind_bind
  caught := blind_caught likeness
  tested _ _ _ _ _ first constant := blind_tested first constant
  within step _ inner := blind_within likeness step inner
  read := blind_read_key likeness
  call := blind_call_out likeness

end Page

open Page

variable {like : Fault → Fault → Prop}

theorem render_page_blind (likeness : Fault.Likeness like) (book : Book) (nodes : List Node) :
    Blind like String (renderPage book nodes) := by
  induction nodes with
  | nil => exact blind_pure ""
  | cons node rest ih =>
      have first : Blind like String (renderNode book maxLevels node) :=
        (parts (Blind like) (blind_closed likeness book) (fun _ _ => trivial) maxLevels).node node
          fun _ _ => trivial
      simp only [renderPage]
      apply blind_attempted first
      intro outcome ended ends scope
      cases ends with
      | ok output =>
          have others : Blind like String (do return output ++ (← renderPage book rest)) :=
            blind_bind ih fun more => blind_pure (output ++ more)
          exact others scope
      | error alike => exact .done ⟨.error (likeness.stage scope.placement alike), rfl⟩

/-- Answered alike, a page ends alike. -/
theorem render_alike (likeness : Fault.Likeness like) (source : String) :
    (render source).Alike like (EndsAlike like) (render source) := by
  unfold render
  cases bind source with
  | error fault => exact .done (.error (likeness.same fault))
  | ok book =>
      apply Dialog.alike_bind (render_page_blind likeness book book.nodes [Frame.plain .page []])
      intro answer reply ended
      exact .done ended.1

end Stencil.Markup
