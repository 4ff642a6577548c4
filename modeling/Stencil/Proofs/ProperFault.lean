import Stencil.Proofs.FaultSearch
import Stencil.Proofs.LastingFault

/-!
Rendering makes proper faults out of proper ones. Bodies, functions and services may
fail as they like, as long as they put up no stand-ins themselves; what they are told
on the way may be passed on under any layers. Then whatever a render fails with has its
stand-ins only where pages put them.
-/

namespace Stencil

def ProperOutcome {α : Type} (outcome : Except Fault α) : Prop :=
  ∀ fault, outcome = .error fault → fault.Proper

def Context.Proper : Context → Prop
  | .service source => ∀ key, ProperOutcome (source.get key)
  | _ => True

def Supply.Proper : Supply → Prop
  | .context given => given.Proper
  | .present inner | .lent inner => inner.Proper
  | _ => True

mutual

/-- What an action fails with is proper, whatever proper failures it is told of. -/
def Action.Proper : Action → Prop
  | .done _ => True
  | .fail fault => fault.Proper
  | .write _ next => next.Proper
  | .depth next => ∀ count, (next count).Proper
  | .lookup _ _ next => ∀ reply, ProperOutcome reply → (next reply).Proper
  | .invoke _ _ next => ∀ reply, ProperOutcome reply → (next reply).Proper
  | .capture part next => part.Proper ∧ ∀ reply, ProperOutcome reply → (next reply).Proper
  | .render template supply next =>
      template.Proper ∧ supply.Proper ∧ ∀ reply, ProperOutcome reply → (next reply).Proper
  | .locate _ next => ∀ held, (next held).Proper

def Body.Proper : Body → Prop
  | .program action _ => action.Proper
  | .page _ | .stored _ => True

def Template.Proper : Template → Prop
  | .mk _ body _ functions => body.Proper ∧ FunctionsProper functions

def FunctionsProper : List (String × (List Value → Action)) → Prop
  | [] => True
  | (_, function) :: rest => (∀ args, (function args).Proper) ∧ FunctionsProper rest

end

def Catalog.Proper (catalog : Catalog) : Prop :=
  ∀ location action, catalog.find? location = some action → action.Proper

namespace Engine

def Proper {α : Type} (act : Engine α) : Prop := ∀ world, ProperOutcome (act.run world).1

end Engine

structure Bindings.Proper (bindings : Bindings) : Prop where
  lookup : ∀ key fallback, (bindings.lookup key fallback).Proper
  invoke : ∀ name args, (bindings.invoke name args).Proper

def Surroundings.Proper (around : Surroundings) : Prop :=
  ∀ location bindings, bindings.Proper → (around.stored location bindings).Proper

theorem Fault.proper_lasting : Fault.Lasting Fault.Proper where
  message _ := .alone _ rfl
  file _ := .alone _ rfl
  unknownLocation _ := .alone _ rfl
  refused _ _ := .setup _ _ (.alone _ rfl)
  lookup := .lookup
  stage := .stage
  carried := .carried
  layered := .layered
  evaluation := .evaluation

theorem Registry.missing_proper (registry : Registry) (name : String) :
    (Registry.missing registry name).Proper :=
  .alone _ rfl

theorem Context.Proper.keeps {context : Context} (proper : context.Proper) :
    context.Keeps Fault.Proper := by
  cases context with
  | empty | map _ | indexable _ => trivial
  | service source => exact proper

theorem Supply.Proper.keeps {supply : Supply} (proper : supply.Proper) :
    supply.Keeps Fault.Proper := by
  induction supply with
  | nothing | absent | value _ => trivial
  | context given => exact Context.Proper.keeps proper
  | present inner ih | lent inner ih => exact ih proper

mutual

/-- A failed call of any name is proper, so proper actions may call whatever they like. -/
theorem Action.Proper.keeps {callable : String → Prop} (every : ∀ name, callable name) :
    (action : Action) → action.Proper → action.Keeps Fault.Proper callable
  | .done _, _ => trivial
  | .fail _, proper => proper
  | .write _ next, proper => Action.Proper.keeps every next proper
  | .depth next, proper => fun count => Action.Proper.keeps every (next count) (proper count)
  | .lookup _ _ next, proper =>
      fun reply told => Action.Proper.keeps every (next reply) (proper reply told)
  | .invoke name _ next, proper =>
      ⟨every name, fun reply told => Action.Proper.keeps every (next reply) (proper reply told)⟩
  | .capture part next, proper =>
      ⟨Action.Proper.keeps every part proper.1,
        fun reply told => Action.Proper.keeps every (next reply) (proper.2 reply told)⟩
  | .render template _ next, proper =>
      ⟨Template.Proper.keeps template proper.1, Supply.Proper.keeps proper.2.1,
        fun reply told => Action.Proper.keeps every (next reply) (proper.2.2 reply told)⟩
  | .locate _ next, proper => fun held => Action.Proper.keeps every (next held) (proper held)

theorem Body.Proper.keeps {callable : String → Prop} (every : ∀ name, callable name) :
    (body : Body) → body.Proper → body.Keeps Fault.Proper callable
  | .program action _, proper => Action.Proper.keeps every action proper
  | .page _, _ | .stored _, _ => every

theorem Template.Proper.keeps : (template : Template) → template.Proper →
    template.Keeps Fault.Proper
  | .mk _ body _ functions, proper =>
      ⟨Body.Proper.keeps (fun name _ => Registry.missing_proper functions name) body proper.1,
        FunctionsProper.keep functions proper.2⟩

theorem FunctionsProper.keep : (functions : List (String × (List Value → Action))) →
    FunctionsProper functions → FunctionsKeep Fault.Proper functions
  | [], _ => trivial
  | (_, function) :: rest, proper =>
      ⟨fun args => Action.Proper.keeps (Registry.missing_proper Registry.empty)
          (function args) (proper.1 args),
        FunctionsProper.keep rest proper.2⟩

end

theorem Template.run_proper {around : Surroundings} (known : around.Proper) {supply : Supply}
    (given : supply.Proper) (template : Template) (proper : template.Proper) :
    (template.run around supply).Proper := by
  have near : around.Keeps Fault.Proper := by
    intro location bindings bound
    exact known location bindings ⟨bound.lookup, fun name args => bound.invoke name args trivial⟩
  exact template.run_keeps Fault.proper_lasting near (Supply.Proper.keeps given)
    (Template.Proper.keeps template proper)

theorem Catalog.within_proper {catalog : Catalog} (stock : catalog.Proper) (files : FileTree)
    (reach : Nat) : (catalog.within files reach).Proper := by
  have kept : catalog.Keeps Fault.Proper := by
    intro location action found
    exact Action.Proper.keeps (fun _ => trivial) action (stock location action found)
  intro location bindings bound
  exact Catalog.within_keeps Fault.proper_lasting kept files reach location bindings
    ⟨bound.lookup, fun name args _ => bound.invoke name args⟩

end Stencil
