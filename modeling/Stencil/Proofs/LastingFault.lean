import Stencil.Catalog
import Stencil.Proofs.RenderFailure
import Stencil.Proofs.Rendering

/-!
What is true of the faults that rendering ends with. A property lasts if it holds of the faults
that rendering itself makes up and stays when a fault is carried out of a page, a lookup or a
render. If it holds of what bodies, functions and services fail with, and of the lookups of
functions that fail, then it holds of whatever a render fails with.
-/

namespace Stencil

/-- What holds of a fault holds of it under all that rendering may put around it. -/
structure Fault.Lasting (holds : Fault → Prop) : Prop where
  message : ∀ text, holds (.message text)
  file : ∀ error, holds (.file error)
  unknownLocation : ∀ location, holds (.unknownLocation location)
  refused : ∀ site found, holds (.setup site (.badShape found))
  lookup : ∀ key cause, holds cause → holds (.lookup key cause)
  stage : ∀ text cause, holds cause → holds (.stage text cause)
  carried : ∀ text fault, holds fault → holds (.stage text (.forwarded fault))
  layered : ∀ text inner, holds inner → holds (.layered text inner)
  evaluation : ∀ site context cause, holds cause → holds (.evaluation site context cause)

def Keeping {α : Type} (holds : Fault → Prop) (outcome : Except Fault α) : Prop :=
  ∀ fault, outcome = .error fault → holds fault

section Given

variable (holds : Fault → Prop)

def Context.Keeps : Context → Prop
  | .service source => ∀ key, Keeping holds (source.get key)
  | _ => True

def Supply.Keeps : Supply → Prop
  | .context given => given.Keeps holds
  | .present inner | .lent inner => inner.Keeps
  | _ => True

mutual

/-- What an action fails with has the property if what it is told of has, and it calls only
names that may be called. -/
def Action.Keeps (callable : String → Prop) : Action → Prop
  | .done _ => True
  | .fail fault => holds fault
  | .write _ next => next.Keeps callable
  | .depth next => ∀ count, (next count).Keeps callable
  | .lookup _ _ next => ∀ reply, Keeping holds reply → (next reply).Keeps callable
  | .invoke name _ next =>
      callable name ∧ ∀ reply, Keeping holds reply → (next reply).Keeps callable
  | .capture part next =>
      part.Keeps callable ∧ ∀ reply, Keeping holds reply → (next reply).Keeps callable
  | .render template supply next =>
      template.Keeps ∧ supply.Keeps holds ∧
        ∀ reply, Keeping holds reply → (next reply).Keeps callable
  | .locate _ next => ∀ held, (next held).Keeps callable

def Body.Keeps (callable : String → Prop) : Body → Prop
  | .program action _ => action.Keeps callable
  | .page _ | .stored _ => ∀ name, callable name

/-- Its body may call a name that has no function if the failure to find one has the property. -/
def Template.Keeps : Template → Prop
  | .mk _ body _ functions =>
      body.Keeps (fun name => Registry.contains functions name = false →
          holds (Registry.missing functions name)) ∧
        FunctionsKeep functions

def FunctionsKeep : List (String × (List Value → Action)) → Prop
  | [] => True
  | (_, function) :: rest =>
      (∀ args, (function args).Keeps fun name => holds (Registry.missing Registry.empty name)) ∧
        FunctionsKeep rest

end

def Catalog.Keeps (catalog : Catalog) : Prop :=
  ∀ location action, catalog.find? location = some action → action.Keeps holds fun _ => True

end Given

variable {holds : Fault → Prop}

theorem keeping_ok {α : Type} (result : α) : Keeping holds (.ok result) := by
  intro fault failed
  cases failed

theorem keeping_error {α : Type} {fault : Fault} (held : holds fault) :
    Keeping holds (.error fault : Except Fault α) := by
  intro other failed
  cases failed
  exact held

namespace Engine

variable {α β : Type}

def Keeps (holds : Fault → Prop) (act : Engine α) : Prop :=
  ∀ world, Keeping holds (act.run world).1

theorem keeps_pure (value : α) : (pure value : Engine α).Keeps holds :=
  fun _ => keeping_ok value

theorem keeps_throw {fault : Fault} (held : holds fault) : (throw fault : Engine α).Keeps holds :=
  fun _ => keeping_error held

/-- What is done with an outcome may rest on the property of its failure. -/
theorem keeps_attempted {act : Engine α} {next : Except Fault α → Engine β}
    (first : act.Keeps holds)
    (follows : ∀ outcome, Keeping holds outcome → (next outcome).Keeps holds) :
    (attempt act >>= next).Keeps holds := by
  intro world
  rw [run_attempted]
  exact follows _ (first world) _

theorem keeps_captured {act : Engine α} (part : act.Keeps holds) : (captured act).Keeps holds :=
  fun world fault failed => part world.opened fault (captured_failed act world fault failed)

theorem keeps_answer {reply : List Question × Except Fault α} (kept : Keeping holds reply.2) :
    (answer reply).Keeps holds := by
  obtain ⟨asked, outcome⟩ := reply
  cases outcome with
  | ok value => exact fun _ => keeping_ok value
  | error fault => exact fun _ => keeping_error (kept fault rfl)

end Engine

structure Bindings.Keeps (holds : Fault → Prop) (callable : String → Prop)
    (bindings : Bindings) : Prop where
  lookup : ∀ key fallback, (bindings.lookup key fallback).Keeps holds
  invoke : ∀ name args, callable name → (bindings.invoke name args).Keeps holds

def Surroundings.Keeps (holds : Fault → Prop) (around : Surroundings) : Prop :=
  ∀ location bindings, bindings.Keeps holds (fun _ => True) →
    (around.stored location bindings).Keeps holds

theorem Bindings.Keeps.mono {callable fewer : String → Prop} {bindings : Bindings}
    (bound : bindings.Keeps holds callable) (every : ∀ name, fewer name → callable name) :
    bindings.Keeps holds fewer where
  lookup := bound.lookup
  invoke name args called := bound.invoke name args (every name called)

theorem Bindings.none_keeps :
    Bindings.none.Keeps holds fun name => holds (Registry.missing Registry.empty name) where
  lookup _ _ := Engine.keeps_pure _
  invoke _ _ held := Engine.keeps_throw held

/-- Only a value can be refused as a context, and then nothing lies behind it. -/
theorem Supply.refused_bad_shape (supply : Supply) (fault : Fault)
    (refused : supply.toContext = .error fault) : ∃ found, fault = .badShape found := by
  induction supply with
  | nothing | absent | context given => cases refused
  | present inner ih | lent inner ih => exact ih refused
  | value v =>
      cases v with
      | null | object _ => cases refused
      | bool _ | number _ | string _ | array _ =>
          cases refused
          exact ⟨_, rfl⟩

theorem Supply.Keeps.accepted {supply : Supply} (kept : supply.Keeps holds) {context : Context}
    (given : supply.toContext = .ok context) : context.Keeps holds := by
  induction supply with
  | nothing | absent =>
      cases given
      trivial
  | context other =>
      cases given
      exact kept
  | present inner ih | lent inner ih => exact ih kept given
  | value v =>
      cases v with
      | null | object _ =>
          cases given
          trivial
      | bool _ | number _ | string _ | array _ => cases given

theorem Fault.Lasting.under (lasting : Fault.Lasting holds) (steps : List String) {fault : Fault}
    (held : holds fault) : holds (fault.under steps) := by
  induction steps with
  | nil => exact held
  | cons step rest ih => exact lasting.stage step _ ih

theorem Asking.refused_keeps (lasting : Fault.Lasting holds) (asking : Asking) {fault : Fault}
    (held : holds fault) : holds (asking.refused fault) := by
  cases asking with
  | value key fallback => exact lasting.stage _ fault held
  | call name args => exact lasting.carried _ fault held

theorem Context.resolve_keeps (lasting : Fault.Lasting holds) {context : Context}
    (kept : context.Keeps holds) (defaults : Fields) (key : String) (fallback : Option Value) :
    Keeping holds (context.resolve defaults key fallback).2 := by
  have found : Keeping holds (context.find key).2 := by
    cases context with
    | empty | map _ | indexable _ => exact keeping_ok _
    | service source =>
        simp only [find]
        split
        · cases given : source.get key with
          | ok value => exact keeping_ok _
          | error cause => exact keeping_error (lasting.lookup key cause (kept key cause given))
        · exact keeping_ok _
  unfold resolve
  split
  · rename_i asked fault failed
    rw [failed] at found
    exact keeping_error (found fault rfl)
  · exact keeping_ok _
  · exact keeping_ok _

theorem Dialog.exchanges_keep {α : Type} {bindings : Bindings}
    (bound : bindings.Keeps holds fun _ => True) (dialog : Dialog α) (world : World) :
    ∀ exchange ∈ dialog.exchanges bindings world, Keeping holds exchange.reply := by
  induction dialog generalizing world with
  | done answer =>
      intro exchange member
      cases member
  | lookup key fallback next ih =>
      intro exchange member
      rcases List.mem_cons.mp member with same | later
      · rw [same]
        exact bound.lookup key fallback world
      · exact ih _ _ exchange later
  | invoke name args next ih =>
      intro exchange member
      rcases List.mem_cons.mp member with same | later
      · rw [same]
        exact bound.invoke name args trivial world
      · exact ih _ _ exchange later

theorem run_page_keeps (lasting : Fault.Lasting holds) {bindings : Bindings}
    (bound : bindings.Keeps holds fun _ => True) (files : FileTree) (path : String) :
    (runPage files path bindings).Keeps holds := by
  intro world raised failed
  rcases run_page_failed files path bindings world raised failed with unread | evaluated
  · obtain ⟨error, _, same⟩ := unread
    rw [same]
    exact lasting.layered _ _ (lasting.file error)
  · obtain ⟨source, fault, _, ran, same⟩ := evaluated
    have ends := Markup.render_settled source .any (by decide) nofun
    obtain ⟨answer, later, run, settled⟩ :=
      Dialog.run_ends bindings (Markup.render source) ends world
    rw [run] at ran
    cases ran
    rw [same]
    apply lasting.layered
    cases settled with
    | own steps named text calm => exact lasting.under steps (lasting.message text)
    | refused steps named asking cause earlier after split last =>
        have held : holds cause := by
          apply Dialog.exchanges_keep bound (Markup.render source) world ⟨asking, .error cause⟩
          · rw [split]
            exact List.mem_append_right earlier List.mem_cons_self
          · rfl
        exact lasting.under steps (asking.refused_keeps lasting held)

/-- Of functions that keep the property a call does, if the failure to find one has it. -/
theorem call_named_keeps {around : Surroundings} {functions : Registry} {name : String}
    {args : List Value} {absent : Engine Value}
    (found : ∀ function, functions.find? name = some function →
      ((function args).run around Bindings.none).Keeps holds)
    (absence : functions.contains name = false → absent.Keeps holds) :
    (callNamed around functions name args absent).Keeps holds := by
  rw [call_named_found]
  cases known : functions.find? name with
  | some function => exact found function known
  | none =>
      apply absence
      rw [Registry.contains, known]
      rfl

mutual

/-- One case for each kind of step. What follows a step that is answered keeps the property
because the answer has it. -/
theorem Action.run_keeps (lasting : Fault.Lasting holds) {around : Surroundings}
    (near : around.Keeps holds) {callable : String → Prop} {bindings : Bindings}
    (bound : bindings.Keeps holds callable) : (action : Action) → action.Keeps holds callable →
    (action.run around bindings).Keeps holds
  | .done value, _ => Engine.keeps_pure value
  | .fail _, kept => Engine.keeps_throw kept
  | .write text next, kept => fun world =>
      next.run_keeps lasting near bound kept ((Engine.write text).run world).2
  | .depth next, kept => fun world =>
      (next world.channel.depth).run_keeps lasting near bound (kept world.channel.depth) world
  | .lookup key fallback next, kept =>
      Engine.keeps_attempted (bound.lookup key fallback)
        fun reply told => (next reply).run_keeps lasting near bound (kept reply told)
  | .invoke name args next, kept =>
      Engine.keeps_attempted (bound.invoke name args kept.1)
        fun reply told => (next reply).run_keeps lasting near bound (kept.2 reply told)
  | .capture part next, kept =>
      Engine.keeps_attempted (Engine.keeps_captured (part.run_keeps lasting near bound kept.1))
        fun reply told => (next reply).run_keeps lasting near bound (kept.2 reply told)
  | .render template _ next, kept =>
      Engine.keeps_attempted (template.run_keeps lasting near kept.2.1 kept.1)
        fun reply told => (next reply).run_keeps lasting near bound (kept.2.2 reply told)
  | .locate location next, kept =>
      (next (around.holds location)).run_keeps lasting near bound (kept (around.holds location))

theorem Body.run_keeps (lasting : Fault.Lasting holds) {around : Surroundings}
    (near : around.Keeps holds) {callable : String → Prop} {bindings : Bindings}
    (bound : bindings.Keeps holds callable) : (body : Body) → body.Keeps holds callable →
    (body.run around bindings).Keeps holds
  | .program action _, kept => action.run_keeps lasting near bound kept
  | .page path, kept =>
      run_page_keeps lasting (bound.mono fun name _ => kept name) around.files path
  | .stored location, kept => near location bindings (bound.mono fun name _ => kept name)

theorem Template.run_keeps (lasting : Fault.Lasting holds) {around : Surroundings}
    (near : around.Keeps holds) {supply : Supply} (given : supply.Keeps holds) :
    (template : Template) → template.Keeps holds → (template.run around supply).Keeps holds
  | .mk name body defaults functions, kept => by
      intro world fault failed
      let template : Template := .mk name body defaults functions
      rcases template.run_failed around supply world fault failed with refused | evaluated
      · obtain ⟨cause, shape, same⟩ := refused
        obtain ⟨found, bad⟩ := supply.refused_bad_shape cause shape
        rw [same, bad]
        exact lasting.refused _ found
      · obtain ⟨context, raised, accepted, ended, same⟩ := evaluated
        have bound : (template.bindings around context).Keeps holds fun name =>
            Registry.contains functions name = false → holds (Registry.missing functions name) :=
          ⟨fun key fallback => Engine.keeps_answer
              (Context.resolve_keeps lasting (given.accepted accepted) defaults key fallback),
            fun called args held => call_named_keeps
              (fun function known =>
                functions_run_keep lasting near functions kept.2 called function known args)
              fun absent => Engine.keeps_throw (held absent)⟩
        rw [same]
        apply lasting.evaluation
        exact body.run_keeps lasting near bound kept.1 world.opened raised ended

theorem functions_run_keep (lasting : Fault.Lasting holds) {around : Surroundings}
    (near : around.Keeps holds) : (functions : List (String × (List Value → Action))) →
    FunctionsKeep holds functions → ∀ name function, functions.lookup name = some function →
    ∀ args, ((function args).run around Bindings.none).Keeps holds
  | [], _, _, _, known, _ => by cases known
  | (called, function) :: rest, kept, name, other, known, args => by
      have found := (function args).run_keeps lasting near Bindings.none_keeps (kept.1 args)
      rw [List.lookup_cons] at known
      cases same : name == called with
      | true =>
          rw [same] at known
          cases known
          exact found
      | false =>
          rw [same] at known
          exact functions_run_keep lasting near rest kept.2 name other known args

end

theorem Catalog.within_keeps (lasting : Fault.Lasting holds) {catalog : Catalog}
    (stock : catalog.Keeps holds) (files : FileTree) (reach : Nat) :
    (catalog.within files reach).Keeps holds := by
  induction reach with
  | zero =>
      intro location bindings bound
      exact Engine.keeps_throw (lasting.message _)
  | succ reach ih =>
      intro location bindings bound
      simp only [within, meaning]
      cases found : catalog.find? location with
      | none => exact Engine.keeps_throw (lasting.unknownLocation location)
      | some action => exact action.run_keeps lasting ih bound (stock location action found)

end Stencil
