import Stencil.Proofs.Exchange
import Stencil.Proofs.PlainFault

/-!
How a part of a page ends, and what it has to do with what it asked. A failure is
a message of the page, or what was raised behind a refused request, under steps
that only name the place. This is kept by every way to put parts of a page
together. How much is kept of a refused request depends on the care that is asked
for.
-/

namespace Stencil

def Fault.under (steps : List String) (fault : Fault) : Fault := steps.foldr .stage fault

namespace Asking

def complaint : Asking → String
  | .value key _ => "\x60c\x60 could not resolve \"" ++ key ++ "\""
  | .call name _ => "\x60f\x60 could not invoke \"" ++ name ++ "\""

/-- The failure of a request. A function is one of the program's, so what it
raised is only carried. -/
def refused (asking : Asking) (fault : Fault) : Fault :=
  match asking with
  | .value .. => .stage asking.complaint fault
  | .call .. => .stage asking.complaint (.forwarded fault)

end Asking

namespace Markup

inductive Step : String → Prop where
  | function (name : String) : Step ("Function call '" ++ name ++ "' failed")
  | filter (name : String) : Step ("Filter call '" ++ name ++ "' failed")
  | test (name : String) : Step ("Test call '" ++ name ++ "' failed")
  | placed (scope : Scope) : Step scope.placement
  | reading : Step ("Failed to parse '" ++ pageName ++ "'")

/-- How much is asked of a part of a page: nothing, or that it fails as soon as a
request is refused, or that it asks for nothing at all. -/
inductive Care where
  | any | firm | silent
  deriving DecidableEq

namespace Care

def Calm : Care → List Exchange → Prop
  | .any, _ => True
  | .firm, exchanges => ∀ exchange ∈ exchanges, ∃ value, exchange.reply = .ok value
  | .silent, exchanges => exchanges = []

def Last : Care → List Exchange → List Exchange → Prop
  | .any, _, _ => True
  | .firm, earlier, later => Calm .firm earlier ∧ later = []
  | .silent, _, _ => False

theorem calm_nil (care : Care) : care.Calm [] := by
  cases care with
  | any => trivial
  | firm => intro exchange member; cases member
  | silent => rfl

theorem calm_append {care : Care} {earlier later : List Exchange} (before : care.Calm earlier)
    (after : care.Calm later) : care.Calm (earlier ++ later) := by
  cases care with
  | any => trivial
  | firm =>
      intro exchange member
      rcases List.mem_append.mp member with first | second
      · exact before exchange first
      · exact after exchange second
  | silent =>
      change earlier = [] at before
      change later = [] at after
      rw [before, after]
      rfl

theorem last_after {care : Care} {first earlier later : List Exchange} (calm : care.Calm first)
    (last : care.Last earlier later) : care.Last (first ++ earlier) later := by
  cases care with
  | any => trivial
  | firm => exact ⟨calm_append calm last.1, last.2⟩
  | silent => exact last

end Care

variable {α β : Type}

inductive Settled (care : Care) (exchanges : List Exchange) : Except Fault α → Prop where
  | ok (result : α) (calm : care.Calm exchanges) : Settled care exchanges (.ok result)
  | own (steps : List String) (named : ∀ step ∈ steps, Step step) (text : String)
      (calm : care.Calm exchanges) :
      Settled care exchanges (.error (.under steps (.message text)))
  | refused (steps : List String) (named : ∀ step ∈ steps, Step step) (asking : Asking)
      (fault : Fault) (earlier later : List Exchange)
      (split : exchanges = earlier ++ ⟨asking, .error fault⟩ :: later)
      (last : care.Last earlier later) :
      Settled care exchanges (.error (.under steps (asking.refused fault)))

namespace Settled

theorem message (care : Care) (text : String) :
    Settled care [] (.error (.message text) : Except Fault α) := by
  have none : ∀ step ∈ ([] : List String), Step step := by
    intro step member
    cases member
  exact .own [] none text (Care.calm_nil care)

/-- Earlier exchanges that went well change nothing. -/
theorem after {care : Care} {earlier later : List Exchange} {outcome : Except Fault α}
    (calm : care.Calm earlier) (settled : Settled care later outcome) :
    Settled care (earlier ++ later) outcome := by
  cases settled with
  | ok result quiet => exact .ok result (Care.calm_append calm quiet)
  | own steps named text quiet => exact .own steps named text (Care.calm_append calm quiet)
  | refused steps named asking fault before behind split last =>
      refine .refused steps named asking fault (earlier ++ before) behind ?_
        (Care.last_after calm last)
      rw [split, List.append_assoc]

theorem stage {care : Care} {exchanges : List Exchange} {fault : Fault} {step : String}
    (known : Step step) (settled : Settled care exchanges (.error fault : Except Fault α)) :
    Settled care exchanges (.error (.stage step fault) : Except Fault β) := by
  have more : ∀ steps : List String, (∀ step ∈ steps, Step step) →
      ∀ other ∈ step :: steps, Step other := by
    intro steps named other member
    rcases List.mem_cons.mp member with same | below
    · rw [same]
      exact known
    · exact named other below
  cases settled with
  | own steps named text calm => exact .own (step :: steps) (more steps named) text calm
  | refused steps named asking fault earlier later split last =>
      exact .refused (step :: steps) (more steps named) asking fault earlier later split last

theorem cast {care : Care} {exchanges : List Exchange} {fault : Fault}
    (settled : Settled care exchanges (.error fault : Except Fault α)) :
    Settled care exchanges (.error fault : Except Fault β) := by
  cases settled with
  | own steps named text calm => exact .own steps named text calm
  | refused steps named asking fault earlier later split last =>
      exact .refused steps named asking fault earlier later split last

theorem calm {care : Care} {exchanges : List Exchange} {result : α}
    (settled : Settled care exchanges (.ok result)) : care.Calm exchanges := by
  cases settled with
  | ok _ calm => exact calm

theorem nothing_asked {exchanges : List Exchange} {outcome : Except Fault α}
    (settled : Settled .silent exchanges outcome) : exchanges = [] := by
  cases settled with
  | ok result calm => exact calm
  | own steps named text calm => exact calm
  | refused steps named asking fault earlier later split last => exact False.elim last

end Settled

namespace Page

/-- However it is answered and whatever its variables are, a part ends as told. -/
def Settles (care : Care) (act : Page α) : Prop :=
  ∀ scope, (act.run.run scope).Ends fun exchanges answer => Settled care exchanges answer.1

variable {care : Care}

theorem settles_pure (result : α) : Settles care (pure result) :=
  fun _ => .ok result (Care.calm_nil care)

theorem settles_failure (text : String) : Settles care (failure text : Page α) :=
  fun _ => Settled.message care text

theorem settles_get : Settles care (get : Page Scope) :=
  fun scope => .ok scope (Care.calm_nil care)

theorem settles_modify (change : Scope → Scope) : Settles care (modify change : Page Unit) :=
  fun _ => .ok () (Care.calm_nil care)

theorem settles_of_except {outcome : Except Fault α} (plain : Plain outcome) :
    Settles care (ofExcept outcome : Page α) := by
  intro scope
  cases outcome with
  | ok result => exact .ok result (Care.calm_nil care)
  | error fault =>
      obtain ⟨text, same⟩ := plain fault rfl
      subst same
      exact Settled.message care text

theorem settles_bind {act : Page α} {next : α → Page β} (first : Settles care act)
    (follows : ∀ result, Settles care (next result)) : Settles care (act >>= next) := by
  intro scope
  have opened : (act >>= next).run.run scope = (act.run.run scope >>= fun answer =>
      (ExceptT.bindCont next answer.1).run answer.2) := rfl
  rw [opened]
  apply Dialog.ends_bind
  apply Dialog.ends_mono _ _ (first scope)
  intro earlier answer settled
  obtain ⟨outcome, later⟩ := answer
  cases outcome with
  | error fault =>
      change Settled care (earlier ++ []) (.error fault)
      rw [List.append_nil]
      exact settled.cast
  | ok result =>
      apply Dialog.ends_mono _ _ (follows result later)
      intro exchanges other after
      exact after.after settled.calm

/-- What is done with a part whose failure is a result. -/
theorem settles_caught {act : Page α} {next : Except Fault α → Page β}
    (follows : ∀ scope, (act.run.run scope).Ends fun earlier answer =>
      ((next answer.1).run.run answer.2).Ends fun later result =>
        Settled care (earlier ++ later) result.1) :
    Settles care (attempt act >>= next) := by
  intro scope
  have opened : (attempt act >>= next).run.run scope = ((act.run.run scope >>= fun answer =>
      pure (Except.ok answer.1, answer.2)) >>= fun answer =>
        (ExceptT.bindCont next answer.1).run answer.2) := rfl
  rw [opened]
  apply Dialog.ends_bind
  apply Dialog.ends_bind
  apply Dialog.ends_mono _ _ (follows scope)
  intro earlier answer ends
  change ((next answer.1).run.run answer.2).Ends fun later result =>
    Settled care ((earlier ++ []) ++ later) result.1
  rw [List.append_nil]
  exact ends

/-- A failure may be dropped where nothing is asked for, or where no care is taken. -/
theorem settles_dropped {act : Page α} {next : Except Fault α → Page β}
    (quiet : care ≠ .any → Settles .silent act) (follows : ∀ outcome, Settles care (next outcome)) :
    Settles care (attempt act >>= next) := by
  apply settles_caught
  intro scope
  by_cases loose : care = .any
  · subst loose
    apply Dialog.ends_always
    intro earlier answer
    apply Dialog.ends_mono _ _ (follows answer.1 answer.2)
    intro later result settled
    have loose : Care.any.Calm earlier := trivial
    exact Settled.after loose settled
  · apply Dialog.ends_mono _ _ (quiet loose scope)
    intro earlier answer silent
    apply Dialog.ends_mono _ _ (follows answer.1 answer.2)
    intro later result settled
    rw [silent.nothing_asked]
    exact settled

theorem settles_within {step : String} {act : Page α} (known : Step step)
    (inner : Settles care act) : Settles care (within step act) := by
  apply settles_caught
  intro scope
  apply Dialog.ends_mono _ _ (inner scope)
  intro earlier answer settled
  obtain ⟨outcome, later⟩ := answer
  cases outcome with
  | ok result =>
      change Settled care (earlier ++ []) (.ok result)
      rw [List.append_nil]
      exact settled
  | error fault =>
      change Settled care (earlier ++ []) (.error (.stage step fault))
      rw [List.append_nil]
      exact settled.stage known

theorem settles_map_m (items : List α) {act : α → Page β}
    (each : ∀ item ∈ items, Settles care (act item)) : Settles care (items.mapM act) := by
  induction items with
  | nil => exact settles_pure []
  | cons item rest ih =>
      rw [List.mapM_cons]
      apply settles_bind (each item List.mem_cons_self)
      intro result
      apply settles_bind (ih fun other member => each other (List.mem_cons_of_mem item member))
      intro results
      exact settles_pure (result :: results)

theorem settles_foldl_m (items : List α) {act : β → α → Page β}
    (each : ∀ item ∈ items, ∀ state, Settles care (act state item)) (state : β) :
    Settles care (items.foldlM act state) := by
  induction items generalizing state with
  | nil => exact settles_pure state
  | cons item rest ih =>
      rw [List.foldlM_cons]
      apply settles_bind (each item List.mem_cons_self state)
      intro result
      exact ih (fun other member => each other (List.mem_cons_of_mem item member)) result

end Page

open Page

theorem settled_refusal {care : Care} (asks : care ≠ .silent) (asking : Asking) (fault : Fault) :
    Settled care [⟨asking, .error fault⟩] (.error (asking.refused fault) : Except Fault α) := by
  have last : care.Last [] [] := by
    cases care with
    | any => trivial
    | firm => exact ⟨Care.calm_nil .firm, rfl⟩
    | silent => exact asks rfl
  exact .refused [] (fun step member => absurd member List.not_mem_nil) asking fault [] [] rfl last

theorem settled_answer {care : Care} (asks : care ≠ .silent) (asking : Asking) (value : Value)
    (result : α) : Settled care [⟨asking, .ok value⟩] (.ok result) := by
  apply Settled.ok
  cases care with
  | any => trivial
  | firm =>
      intro exchange member
      rw [List.mem_singleton.mp member]
      exact ⟨value, rfl⟩
  | silent => exact absurd rfl asks

theorem settles_read_key {care : Care} (asks : care ≠ .silent) (args : Fields) :
    Settles care (readKey args) := by
  unfold readKey
  split
  · intro scope reply
    cases reply with
    | ok value => exact settled_answer asks _ value value
    | error fault => exact settled_refusal asks (.value _ _) fault
  · exact settles_failure _

theorem settles_call_out {care : Care} (asks : care ≠ .silent) (args : Fields) :
    Settles care (callOut args) := by
  unfold callOut
  split
  · intro scope reply
    cases reply with
    | ok value => exact settled_answer asks _ value value
    | error fault => exact settled_refusal asks (.call _ _) fault
  · exact settles_failure _

theorem settles_function {care : Care} (asks : care ≠ .silent) (name : String)
    (function : Fields → Page Value) (found : function? name = some function) (args : Fields) :
    Settles care (function args) := by
  unfold function? at found
  split at found
  · cases found
    exact settles_read_key asks args
  · split at found
    · cases found
      exact settles_call_out asks args
    · split at found
      · cases found
        exact settles_of_except (plain_range args)
      · split at found
        · cases found
          exact settles_of_except (plain_throwing args)
        · split at found
          · cases found
            exact settles_failure _
          · cases found

end Markup

end Stencil
