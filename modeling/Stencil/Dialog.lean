import Stencil.Fault
import Stencil.Value.Basic

/-!
A computation that may ask for values and for calls, and nothing else, while it
works towards an answer. A dialog is finite: whatever it is answered, it ends.
-/

namespace Stencil

inductive Dialog (α : Type) where
  | done (answer : α)
  | lookup (key : String) (fallback : Option Value) (next : Except Fault Value → Dialog α)
  | invoke (name : String) (args : List Value) (next : Except Fault Value → Dialog α)

namespace Dialog

variable {α β : Type}

def bind (dialog : Dialog α) (next : α → Dialog β) : Dialog β :=
  match dialog with
  | .done answer => next answer
  | .lookup key fallback rest => .lookup key fallback fun reply => (rest reply).bind next
  | .invoke name args rest => .invoke name args fun reply => (rest reply).bind next

instance : Monad Dialog where
  pure := .done
  bind := .bind

def askValue (key : String) (fallback : Option Value) : Dialog (Except Fault Value) :=
  .lookup key fallback .done

def askCall (name : String) (args : List Value) : Dialog (Except Fault Value) :=
  .invoke name args .done

end Dialog

end Stencil
