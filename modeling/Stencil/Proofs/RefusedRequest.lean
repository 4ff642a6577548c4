import Stencil.Proofs.PageEvaluation
import Stencil.Proofs.PageParts
import Stencil.Proofs.TagEvaluation

/-!
What a refused request comes to. A page that is refused a request asks no more and fails, with
one exception: where a variable is tested for truth, and its filters ask for something that is
refused, the variable counts as false, and the page goes on as if nothing had happened.
-/

namespace Stencil

namespace Dialog

variable {α β : Type}

/-- The dialog comes to an answer with these exchanges. -/
inductive Comes : Dialog α → List Exchange → α → Prop
  | done (answer : α) : Comes (.done answer) [] answer
  | lookup (key : String) (fallback : Option Value) {next : Except Fault Value → Dialog α}
      (reply : Except Fault Value) {later : List Exchange} {answer : α}
      (rest : Comes (next reply) later answer) :
      Comes (.lookup key fallback next) (⟨.value key fallback, reply⟩ :: later) answer
  | invoke (name : String) (args : List Value) {next : Except Fault Value → Dialog α}
      (reply : Except Fault Value) {later : List Exchange} {answer : α}
      (rest : Comes (next reply) later answer) :
      Comes (.invoke name args next) (⟨.call name args, reply⟩ :: later) answer

theorem comes_done_iff (given : α) (exchanges : List Exchange) (answer : α) :
    (Dialog.done given).Comes exchanges answer ↔ exchanges = [] ∧ answer = given := by
  constructor
  · rintro ⟨⟩
    exact ⟨rfl, rfl⟩
  · rintro ⟨rfl, rfl⟩
    exact .done answer

/-- One dialog comes after the other, and so do their exchanges. -/
theorem comes_bind {dialog : Dialog α} {next : α → Dialog β} {exchanges : List Exchange}
    {result : β} (comes : (dialog.bind next).Comes exchanges result) :
    ∃ earlier later answer, exchanges = earlier ++ later ∧ dialog.Comes earlier answer ∧
      (next answer).Comes later result := by
  induction dialog generalizing exchanges with
  | done answer => exact ⟨[], exchanges, answer, rfl, .done answer, comes⟩
  | lookup key fallback rest ih =>
      cases comes with
      | lookup _ _ reply comes =>
          obtain ⟨earlier, later, answer, split, first, second⟩ := ih reply comes
          exact ⟨_ :: earlier, later, answer, by rw [split, List.cons_append],
            .lookup key fallback reply first, second⟩
  | invoke name args rest ih =>
      cases comes with
      | invoke _ _ reply comes =>
          obtain ⟨earlier, later, answer, split, first, second⟩ := ih reply comes
          exact ⟨_ :: earlier, later, answer, by rw [split, List.cons_append],
            .invoke name args reply first, second⟩

/-- What holds however the dialog is answered holds of what it comes to. -/
theorem Ends.told {dialog : Dialog α} {told : List Exchange → α → Prop} (ends : dialog.Ends told)
    {exchanges : List Exchange} {answer : α} (comes : dialog.Comes exchanges answer) :
    told exchanges answer := by
  induction comes generalizing told with
  | done answer => exact ends
  | lookup key fallback reply _ ih => exact ih (ends reply)
  | invoke name args reply _ ih => exact ih (ends reply)

end Dialog

namespace Markup

/-- These are the exchanges of a variable that the page tests for truth, with its filters, and
they end in a failure. -/
def Book.Drops (book : Book) (exchanges : List Exchange) : Prop :=
  ∃ e ∈ book.conditions, (∃ path, e.term = .path path) ∧ ∃ levels scope fault later,
    ((evalExpr book levels e).run.run scope).Comes exchanges (.error fault, later)

/-- A request that is refused is the last one of a page that has failed, or the last one of a
variable that is tested for truth. -/
def Book.Heeds (book : Book) (exchanges : List Exchange) (failed : Prop) : Prop :=
  ∀ earlier asking fault later, exchanges = earlier ++ ⟨asking, .error fault⟩ :: later →
    (later = [] ∧ failed) ∨
      ∃ before within, earlier = before ++ within ∧
        book.Drops (within ++ [⟨asking, .error fault⟩])

def Book.testsSilently (book : Book) : Bool :=
  book.conditions.all fun e =>
    match e.term with
    | .path _ => e.keeps .dropped
    | _ => true

namespace Book

variable {book : Book} {exchanges : List Exchange} {failed : Prop}

theorem Drops.nothing_asked (drops : book.Drops exchanges) (silent : book.testsSilently = true) :
    exchanges = [] := by
  obtain ⟨e, member, ⟨path, named⟩, levels, scope, fault, later, comes⟩ := drops
  have fits : e.Fits .silent .value := by
    have kept := List.all_eq_true.mp silent e member
    rw [named] at kept
    exact kept
  have settles := (settling book levels .silent nofun).expr e fits
  exact ((settles scope).told comes).nothing_asked

theorem heeds_nil : book.Heeds [] failed := by
  intro earlier asking fault later split
  exact absurd split.symm (List.append_ne_nil_of_right_ne_nil earlier nofun)

theorem Heeds.mono {other : Prop} (heeds : book.Heeds exchanges failed)
    (implied : failed → other) : book.Heeds exchanges other := by
  intro earlier asking fault later split
  exact (heeds earlier asking fault later split).imp_left fun last => ⟨last.1, implied last.2⟩

/-- What has gone on after its refusals goes on. -/
theorem Heeds.append {later : List Exchange} (first : book.Heeds exchanges False)
    (second : book.Heeds later failed) : book.Heeds (exchanges ++ later) failed := by
  intro earlier asking fault rest split
  have behind : ∀ middle, earlier = exchanges ++ middle →
      later = middle ++ ⟨asking, .error fault⟩ :: rest →
      (rest = [] ∧ failed) ∨ ∃ before within, earlier = before ++ within ∧
        book.Drops (within ++ [⟨asking, .error fault⟩]) := by
    rintro middle rfl inside
    rcases second middle asking fault rest inside with last | ⟨before, within, rfl, drops⟩
    · exact .inl last
    · exact .inr ⟨exchanges ++ before, within, (List.append_assoc _ _ _).symm, drops⟩
  rcases List.append_eq_append_iff.mp split with ⟨middle, parts, inside⟩ | ⟨middle, parts, inside⟩
  · exact behind middle parts inside
  · cases middle with
    | nil =>
        rw [List.append_nil] at parts
        exact behind [] (by rw [parts, List.append_nil]) inside.symm
    | cons refusal middle =>
        obtain ⟨rfl, _⟩ := List.cons.inj inside
        exact .inr ((first earlier asking fault middle parts).resolve_left fun last => last.2)

/-- Where nothing is asked for in a test, a refused request is the last one of a failed page. -/
theorem Heeds.last (heeds : book.Heeds exchanges failed) (silent : book.testsSilently = true)
    {earlier later : List Exchange} {asking : Asking} {fault : Fault}
    (split : exchanges = earlier ++ ⟨asking, .error fault⟩ :: later) : later = [] ∧ failed := by
  rcases heeds earlier asking fault later split with last | ⟨before, within, _, drops⟩
  · exact last
  · exact absurd (drops.nothing_asked silent) (List.append_ne_nil_of_right_ne_nil within nofun)

/-- One request. If it is refused, nothing follows but a failure. -/
theorem heeds_single {asking : Asking} {reply : Except Fault Value}
    (fails : ∀ fault, reply = .error fault → failed) : book.Heeds [⟨asking, reply⟩] failed := by
  intro earlier other fault later split
  rcases List.append_eq_singleton_iff.mp split.symm with ⟨_, same⟩ | ⟨_, empty⟩
  · cases same
    exact .inl ⟨rfl, fails fault rfl⟩
  · cases empty

/-- The exchanges of a variable that is tested for truth, if it fails. -/
theorem Heeds.tested {e : Expr} {levels : Nat} {scope later : Scope} {fault : Fault}
    (heeds : book.Heeds exchanges failed) (member : e ∈ book.conditions)
    (named : ∃ path, e.term = .path path)
    (comes : ((evalExpr book levels e).run.run scope).Comes exchanges (.error fault, later)) :
    book.Heeds exchanges False := by
  intro earlier asking refusal rest split
  rcases heeds earlier asking refusal rest split with ⟨rfl, _⟩ | dropped
  · rw [split] at comes
    exact .inr ⟨[], earlier, rfl, e, member, named, levels, scope, fault, later, comes⟩
  · exact .inr dropped

end Book

def Heeding {α : Type} (book : Book) (dialog : Dialog (Except Fault α × Scope)) : Prop :=
  ∀ exchanges outcome later, dialog.Comes exchanges (outcome, later) →
    book.Heeds exchanges (∃ fault, outcome = .error fault)

section

variable {α β : Type} {book : Book}

theorem heeding_done (answer : Except Fault α × Scope) : Heeding book (.done answer) := by
  intro exchanges outcome later comes
  obtain ⟨rfl, _⟩ := (Dialog.comes_done_iff _ _ _).mp comes
  exact Book.heeds_nil

theorem heeding_bind {dialog : Dialog (Except Fault α × Scope)}
    {next : Except Fault α × Scope → Dialog (Except Fault β × Scope)}
    (first : Heeding book dialog)
    (follows : ∀ result scope, Heeding book (next (.ok result, scope)))
    (fails : ∀ fault scope, ∃ raised left,
      next (.error fault, scope) = .done (.error raised, left)) :
    Heeding book (dialog.bind next) := by
  intro exchanges outcome later comes
  obtain ⟨earlier, rest, ⟨ended, middle⟩, rfl, before, after⟩ := Dialog.comes_bind comes
  have heeds := first earlier ended middle before
  cases ended with
  | ok result =>
      have calm : book.Heeds earlier False := heeds.mono nofun
      exact calm.append (follows result middle rest outcome later after)
  | error fault =>
      obtain ⟨raised, left, done⟩ := fails fault middle
      rw [done, Dialog.comes_done_iff] at after
      obtain ⟨rfl, same⟩ := after
      cases same
      rw [List.append_nil]
      exact heeds.mono fun _ => ⟨raised, rfl⟩

end

namespace Page

variable {α β : Type} {book : Book}

def Heedful (book : Book) (α : Type) (act : Page α) : Prop :=
  ∀ scope, Heeding book (act.run.run scope)

theorem run_attempted (act : Page α) (next : Except Fault α → Page β) (scope : Scope) :
    (attempt act >>= next).run.run scope =
      (act.run.run scope).bind fun answer => (next answer.1).run.run answer.2 := by
  have opened : (attempt act >>= next).run.run scope = ((act.run.run scope >>= fun answer =>
      pure (Except.ok answer.1, answer.2)) >>= fun answer =>
        (ExceptT.bindCont next answer.1).run answer.2) := rfl
  rw [opened, bind_assoc]
  rfl

theorem heedful_attempted {act : Page α} {next : Except Fault α → Page β}
    (first : Heedful book α act) (follows : ∀ result, Heedful book β (next (.ok result)))
    (fails : ∀ fault scope, ∃ raised left,
      (next (.error fault)).run.run scope = .done (.error raised, left)) :
    Heedful book β (attempt act >>= next) := by
  intro scope
  rw [run_attempted]
  exact heeding_bind (first scope) follows fails

theorem heedful_bind {act : Page α} {next : α → Page β} (first : Heedful book α act)
    (follows : ∀ result, Heedful book β (next result)) : Heedful book β (act >>= next) := by
  intro scope
  have opened : (act >>= next).run.run scope = (act.run.run scope).bind fun answer =>
      (ExceptT.bindCont next answer.1).run answer.2 := rfl
  rw [opened]
  exact heeding_bind (first scope) follows fun fault left => ⟨fault, left, rfl⟩

/-- A variable whose failure counts as false. -/
theorem heedful_tested {levels : Nat} {e : Expr} {truth : Except Fault Value → Bool}
    (member : e ∈ book.conditions) (named : ∃ path, e.term = .path path)
    (first : Heedful book Value (evalExpr book levels e)) :
    Heedful book Bool (do return truth (← attempt (evalExpr book levels e))) := by
  intro scope
  rw [run_attempted]
  intro exchanges outcome later comes
  obtain ⟨earlier, rest, ⟨ended, middle⟩, rfl, before, after⟩ := Dialog.comes_bind comes
  obtain ⟨rfl, _⟩ := (Dialog.comes_done_iff _ _ _).mp after
  have heeds := first scope earlier ended middle before
  rw [List.append_nil]
  cases ended with
  | ok result => exact heeds.mono nofun
  | error fault => exact (heeds.tested member named before).mono nofun

theorem heedful_within {act : Page α} (step : String) (inner : Heedful book α act) :
    Heedful book α (within step act) :=
  heedful_attempted inner (fun _ _ => heeding_done _) fun fault scope =>
    ⟨.stage step fault, scope, rfl⟩

theorem heeding_asked (asking : Asking) (scope : Scope) :
    Heeding book (asking.dialog.bind fun reply => .done (answered asking reply, scope)) := by
  intro exchanges outcome later comes
  have single : ∃ reply, exchanges = [⟨asking, reply⟩] ∧ outcome = answered asking reply := by
    cases asking with
    | value key fallback =>
        cases comes with
        | lookup _ _ reply rest =>
            obtain ⟨rfl, same⟩ := (Dialog.comes_done_iff _ _ _).mp rest
            exact ⟨reply, rfl, congrArg Prod.fst same⟩
    | call name args =>
        cases comes with
        | invoke _ _ reply rest =>
            obtain ⟨rfl, same⟩ := (Dialog.comes_done_iff _ _ _).mp rest
            exact ⟨reply, rfl, congrArg Prod.fst same⟩
  obtain ⟨reply, rfl, rfl⟩ := single
  apply Book.heeds_single
  rintro fault rfl
  exact ⟨asking.refused fault, rfl⟩

theorem heedful_read_key (args : Fields) : Heedful book Value (readKey args) := by
  unfold readKey
  split
  · rename_i key _
    intro scope
    refine (congrArg (Heeding book) ?_).mpr (heeding_asked (.value key (args.get? "default")) scope)
    exact congrArg (Dialog.lookup key _) (funext fun reply => by cases reply <;> rfl)
  · exact fun _ => heeding_done _

theorem heedful_call_out (args : Fields) : Heedful book Value (callOut args) := by
  unfold callOut
  split
  · rename_i name _
    extract_lets given
    intro scope
    refine (congrArg (Heeding book) ?_).mpr (heeding_asked (.call name given) scope)
    exact congrArg (Dialog.invoke name _) (funext fun reply => by cases reply <;> rfl)
  · exact fun _ => heeding_done _

theorem heedful_closed (book : Book) : Closed (Heedful book) book (· ∈ book.conditions) where
  pure _ _ := heeding_done _
  raise _ _ := heeding_done _
  get _ := heeding_done _
  modify _ _ := heeding_done _
  bind := heedful_bind
  caught first follows fails := by
    apply heedful_attempted first follows
    intro fault scope
    rw [fails]
    exact ⟨_, scope, rfl⟩
  tested _ _ _ member named first _ := heedful_tested member named first
  within step _ inner := heedful_within step inner
  read := heedful_read_key
  call := heedful_call_out

end Page

open Page

theorem render_page_heedful (book : Book) (nodes : List Node)
    (inside : Among (· ∈ book.conditions) (nodesConditions nodes)) :
    Heedful book String (renderPage book nodes) := by
  induction nodes with
  | nil => exact fun _ => heeding_done _
  | cons node rest ih =>
      obtain ⟨here, others⟩ := (among_append _ _).mp inside
      have whole : Among (· ∈ book.conditions) book.conditions := fun _ member => member
      have first : Heedful book String (renderNode book maxLevels node) :=
        (parts (Heedful book) (heedful_closed book) whole maxLevels).node node here
      simp only [renderPage]
      apply heedful_attempted first
      · intro output
        exact heedful_bind (ih others) fun more _ => heeding_done _
      · intro fault scope
        exact ⟨.stage scope.placement fault, scope, rfl⟩

/-- However a page is answered, it heeds what it is refused. -/
theorem render_heeds {source : String} {book : Book} (bound : bind source = .ok book)
    {exchanges : List Exchange} {outcome : Except Fault String}
    (comes : (render source).Comes exchanges outcome) :
    book.Heeds exchanges (∃ fault, outcome = .error fault) := by
  rw [render, bound] at comes
  obtain ⟨earlier, later, ⟨ended, left⟩, rfl, before, after⟩ := Dialog.comes_bind comes
  obtain ⟨rfl, rfl⟩ := (Dialog.comes_done_iff _ _ _).mp after
  have whole : Among (· ∈ book.conditions) book.conditions := fun _ member => member
  rw [List.append_nil]
  exact render_page_heedful book book.nodes whole.nodes _ _ _ _ before

end Markup

end Stencil
