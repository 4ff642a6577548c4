import Stencil.Proofs.Telling

/-!
What a dialog has asked and been told. A claim about the end of a dialog may
speak of its exchanges. If it holds however the dialog is answered, it holds of
every run, with the exchanges that the run had.
-/

namespace Stencil

inductive Asking where
  | value (key : String) (fallback : Option Value)
  | call (name : String) (args : List Value)

structure Exchange where
  asking : Asking
  reply : Except Fault Value

namespace Dialog

variable {α β : Type}

theorem bind_done (dialog : Dialog α) : dialog.bind .done = dialog := by
  induction dialog with
  | done answer => rfl
  | lookup key fallback next ih => exact congrArg (Dialog.lookup key fallback) (funext ih)
  | invoke name args next ih => exact congrArg (Dialog.invoke name args) (funext ih)

theorem bind_bind {γ : Type} (dialog : Dialog α) (next : α → Dialog β) (last : β → Dialog γ) :
    (dialog.bind next).bind last = dialog.bind fun answer => (next answer).bind last := by
  induction dialog with
  | done answer => rfl
  | lookup key fallback rest ih => exact congrArg (Dialog.lookup key fallback) (funext ih)
  | invoke name args rest ih => exact congrArg (Dialog.invoke name args) (funext ih)

instance : LawfulMonad Dialog :=
  LawfulMonad.mk' Dialog bind_done (fun _ _ => rfl) bind_bind

/-- Whatever is answered, the exchanges and the answer of the dialog are as told. -/
def Ends : Dialog α → (List Exchange → α → Prop) → Prop
  | .done answer, told => told [] answer
  | .lookup key fallback next, told =>
      ∀ reply, (next reply).Ends fun later answer =>
        told (⟨.value key fallback, reply⟩ :: later) answer
  | .invoke name args next, told =>
      ∀ reply, (next reply).Ends fun later answer =>
        told (⟨.call name args, reply⟩ :: later) answer

theorem ends_mono (dialog : Dialog α) {told other : List Exchange → α → Prop}
    (implied : ∀ exchanges answer, told exchanges answer → other exchanges answer)
    (ends : dialog.Ends told) : dialog.Ends other := by
  induction dialog generalizing told other with
  | done answer => exact implied [] answer ends
  | lookup key fallback next ih =>
      intro reply
      exact ih reply (fun later answer => implied _ answer) (ends reply)
  | invoke name args next ih =>
      intro reply
      exact ih reply (fun later answer => implied _ answer) (ends reply)

theorem ends_always (dialog : Dialog α) {told : List Exchange → α → Prop}
    (holds : ∀ exchanges answer, told exchanges answer) : dialog.Ends told := by
  induction dialog generalizing told with
  | done answer => exact holds [] answer
  | lookup key fallback next ih =>
      intro reply
      exact ih reply fun later answer => holds _ answer
  | invoke name args next ih =>
      intro reply
      exact ih reply fun later answer => holds _ answer

theorem ends_bind (dialog : Dialog α) (next : α → Dialog β) {told : List Exchange → β → Prop}
    (ends : dialog.Ends fun earlier answer =>
      (next answer).Ends fun later result => told (earlier ++ later) result) :
    (dialog >>= next).Ends told := by
  change (dialog.bind next).Ends told
  induction dialog generalizing told with
  | done answer => exact ends
  | lookup key fallback rest ih =>
      intro reply
      exact ih reply (ends reply)
  | invoke name args rest ih =>
      intro reply
      exact ih reply (ends reply)

def exchanges (bindings : Bindings) : Dialog α → World → List Exchange
  | .done _, _ => []
  | .lookup key fallback next, world =>
      let reply := (bindings.lookup key fallback).run world
      ⟨.value key fallback, reply.1⟩ :: (next reply.1).exchanges bindings reply.2
  | .invoke name args next, world =>
      let reply := (bindings.invoke name args).run world
      ⟨.call name args, reply.1⟩ :: (next reply.1).exchanges bindings reply.2

theorem run_ends (bindings : Bindings) (dialog : Dialog α) {told : List Exchange → α → Prop}
    (ends : dialog.Ends told) (world : World) :
    ∃ answer later, (dialog.run bindings).run world = (.ok answer, later) ∧
      told (dialog.exchanges bindings world) answer := by
  induction dialog generalizing told world with
  | done answer => exact ⟨answer, world, rfl, ends⟩
  | lookup key fallback next ih =>
      obtain ⟨answer, later, ran, holds⟩ :=
        ih ((bindings.lookup key fallback).run world).1 (ends _)
          ((bindings.lookup key fallback).run world).2
      refine ⟨answer, later, ?_, holds⟩
      rw [run, Engine.run_attempted]
      exact ran
  | invoke name args next ih =>
      obtain ⟨answer, later, ran, holds⟩ :=
        ih ((bindings.invoke name args).run world).1 (ends _)
          ((bindings.invoke name args).run world).2
      refine ⟨answer, later, ?_, holds⟩
      rw [run, Engine.run_attempted]
      exact ran

end Dialog

end Stencil
