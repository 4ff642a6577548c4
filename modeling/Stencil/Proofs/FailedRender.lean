import Stencil.Proofs.ProperFault

/-!
Where the failed renders inside a fault come from. The renders that fail in a run can be
listed, at whatever depth they take place. Bodies and functions that make up no failed render
of their own may pass on what they are told, wrapped or in part. Then every failed render
inside the fault that a run ends with is one of those in the list.
-/

namespace Stencil

namespace Fault

/-- The failed renders in a fault, itself included, from the outside in. -/
def renders (fault : Fault) : List Fault :=
  fault.parts.filter fun part => part.family? == some .render

def Within (known : Fault → Prop) (fault : Fault) : Prop := ∀ render ∈ fault.renders, known render

variable {known : Fault → Prop} {fault inner : Fault}

theorem renders_render (shape : fault.parts = fault :: inner.parts)
    (own : fault.family? = some .render) : fault.renders = fault :: inner.renders := by
  rw [renders, shape, List.filter_cons_of_pos (by simp [own]), renders]

theorem renders_around (shape : fault.parts = fault :: inner.parts)
    (other : fault.family? ≠ some .render) : fault.renders = inner.renders := by
  rw [renders, shape, List.filter_cons_of_neg (by simp [other]), renders]

theorem renders_alone (nothing : fault.parts = [fault]) (other : fault.family? ≠ some .render) :
    fault.renders = [] := by
  rw [renders, nothing, List.filter_cons_of_neg (by simp [other]), List.filter_nil]

theorem within_render (shape : fault.parts = fault :: inner.parts)
    (own : fault.family? = some .render) (itself : known fault) (below : inner.Within known) :
    fault.Within known := by
  rw [Within, renders_render shape own]
  intro render member
  rcases List.mem_cons.mp member with same | deeper
  · rw [same]
    exact itself
  · exact below render deeper

theorem within_around (shape : fault.parts = fault :: inner.parts)
    (other : fault.family? ≠ some .render) (below : inner.Within known) :
    fault.Within known := by
  rw [Within, renders_around shape other]
  exact below

theorem within_alone (nothing : fault.parts = [fault]) (other : fault.family? ≠ some .render) :
    fault.Within known := by
  rw [Within, renders_alone nothing other]
  exact nofun

theorem within_layered (text : String) (below : inner.Within known) :
    (Fault.layered text inner).Within known :=
  within_around rfl nofun below

theorem within_under (steps : List String) (below : fault.Within known) :
    (fault.under steps).Within known := by
  induction steps with
  | nil => exact below
  | cons step rest ih => exact within_around rfl nofun ih

end Fault

/-- Only known renders have failed inside what an outcome fails with, if it fails. -/
def RelayedOutcome {α : Type} (known : Fault → Prop) (outcome : Except Fault α) : Prop :=
  ∀ fault, outcome = .error fault → fault.Within known

section Relays

variable (known : Fault → Prop)

def Context.Relays : Context → Prop
  | .service source => ∀ key, RelayedOutcome known (source.get key)
  | _ => True

def Supply.Relays : Supply → Prop
  | .context given => given.Relays known
  | .present inner | .lent inner => inner.Relays
  | _ => True

mutual

/-- If only known renders have failed inside what an action is told, then none but known
ones have failed inside what it fails with. -/
def Action.Relays : Action → Prop
  | .done _ => True
  | .fail fault => fault.Within known
  | .write _ next => next.Relays
  | .depth next => ∀ count, (next count).Relays
  | .lookup _ _ next => ∀ reply, RelayedOutcome known reply → (next reply).Relays
  | .invoke _ _ next => ∀ reply, RelayedOutcome known reply → (next reply).Relays
  | .capture part next =>
      part.Relays ∧ ∀ reply, RelayedOutcome known reply → (next reply).Relays
  | .render template supply next =>
      template.Relays ∧ supply.Relays known ∧
        ∀ reply, RelayedOutcome known reply → (next reply).Relays
  | .locate _ next => ∀ held, (next held).Relays

def Body.Relays : Body → Prop
  | .program action _ => action.Relays
  | .page _ | .stored _ => True

def Template.Relays : Template → Prop
  | .mk _ body _ functions => body.Relays ∧ FunctionsRelay functions

def FunctionsRelay : List (String × (List Value → Action)) → Prop
  | [] => True
  | (_, function) :: rest => (∀ args, (function args).Relays) ∧ FunctionsRelay rest

end

end Relays

/-- A render that failed, and what it failed with. -/
structure FailedRender where
  template : Template
  around : Surroundings
  supply : Supply
  world : World
  fault : Fault
  failed : ((template.run around supply).run world).1 = .error fault

namespace FailedRender

def ofRun (template : Template) (around : Surroundings) (supply : Supply) (world : World) :
    List FailedRender :=
  match failed : ((template.run around supply).run world).1 with
  | .ok _ => []
  | .error fault => [⟨template, around, supply, world, fault, failed⟩]

theorem mem_of_run {template : Template} {around : Surroundings} {supply : Supply} {world : World}
    {fault : Fault} (failed : ((template.run around supply).run world).1 = .error fault) :
    (⟨template, around, supply, world, fault, failed⟩ : FailedRender) ∈
      ofRun template around supply world := by
  unfold ofRun
  split
  · rename_i rendition ended
    rw [ended] at failed
    cases failed
  · rename_i other ended
    have same : other = fault := Except.error.inj (ended.symm.trans failed)
    subst same
    exact List.mem_singleton_self _

theorem site (render : FailedRender) : render.fault.site? = some render.template.site :=
  render.template.site_of_failed render.around render.supply render.world render.fault
    render.failed

end FailedRender

/-- Whatever renders are known, those that failed elsewhere among them, it makes up no other
ones. Functions may hold on to what they were told outside the run. -/
def Template.Candid (template : Template) (elsewhere : FailedRender → Prop) : Prop :=
  ∀ known : Fault → Prop, (∀ render, elsewhere render → known render.fault) →
    template.Relays known

def Supply.Candid (supply : Supply) (elsewhere : FailedRender → Prop) : Prop :=
  ∀ known : Fault → Prop, (∀ render, elsewhere render → known render.fault) →
    supply.Relays known

def Catalog.Candid (catalog : Catalog) (elsewhere : FailedRender → Prop) : Prop :=
  ∀ location action, catalog.find? location = some action →
    ∀ known : Fault → Prop, (∀ render, elsewhere render → known render.fault) →
      action.Relays known

abbrev CallFailures := String → List Value → World → List FailedRender

abbrev StoredFailures := String → Bindings → CallFailures → World → List FailedRender

def Dialog.failures {α : Type} (bindings : Bindings) (calls : CallFailures) :
    Dialog α → World → List FailedRender
  | .done _, _ => []
  | .lookup key fallback next, world =>
      let reply := (bindings.lookup key fallback).run world
      (next reply.1).failures bindings calls reply.2
  | .invoke name args next, world =>
      let reply := (bindings.invoke name args).run world
      calls name args world ++ (next reply.1).failures bindings calls reply.2

def pageFailures (files : FileTree) (path : String) (bindings : Bindings) (calls : CallFailures)
    (world : World) : List FailedRender :=
  match files.readText path with
  | .error _ => []
  | .ok source => (Markup.render source).failures bindings calls world

mutual

def Action.failures (around : Surroundings) (stored : StoredFailures) (bindings : Bindings)
    (calls : CallFailures) : Action → World → List FailedRender
  | .done _, _ => []
  | .fail _, _ => []
  | .write text next, world =>
      next.failures around stored bindings calls ((Engine.write text).run world).2
  | .depth next, world => (next world.channel.depth).failures around stored bindings calls world
  | .lookup key fallback next, world =>
      let reply := (bindings.lookup key fallback).run world
      (next reply.1).failures around stored bindings calls reply.2
  | .invoke name args next, world =>
      let reply := (bindings.invoke name args).run world
      calls name args world ++ (next reply.1).failures around stored bindings calls reply.2
  | .capture part next, world =>
      let captured := (Engine.captured (part.run around bindings)).run world
      part.failures around stored bindings calls world.opened ++
        (next captured.1).failures around stored bindings calls captured.2
  | .render template supply next, world =>
      let rendered := (template.run around supply).run world
      template.failures around stored supply world ++
        (next rendered.1).failures around stored bindings calls rendered.2
  | .locate location next, world =>
      (next (around.holds location)).failures around stored bindings calls world

def Body.failures (around : Surroundings) (stored : StoredFailures) (bindings : Bindings)
    (calls : CallFailures) : Body → World → List FailedRender
  | .program action _, world => action.failures around stored bindings calls world
  | .page path, world => pageFailures around.files path bindings calls world
  | .stored location, world => stored location bindings calls world

/-- The render itself comes last, if it fails. -/
def Template.failures (around : Surroundings) (stored : StoredFailures) (supply : Supply) :
    Template → World → List FailedRender
  | .mk name body defaults functions, world =>
      let template := Template.mk name body defaults functions
      (match supply.toContext with
        | .error _ => []
        | .ok context =>
            body.failures around stored (template.bindings around context)
              (fun called args => callFailures around stored functions called args)
              world.opened) ++
        FailedRender.ofRun template around supply world

def callFailures (around : Surroundings) (stored : StoredFailures) :
    List (String × (List Value → Action)) → String → List Value → World → List FailedRender
  | [], _, _, _ => []
  | (known, function) :: rest, name, args, world =>
      if name == known then
        (function args).failures around stored Bindings.none (fun _ _ _ => []) world
      else callFailures around stored rest name args world

end

namespace Catalog

def failures (catalog : Catalog) (files : FileTree) : Nat → StoredFailures
  | 0, _, _, _, _ => []
  | depth + 1, location, bindings, calls, world =>
      match catalog.find? location with
      | none => []
      | some action =>
          action.failures (catalog.within files depth) (failures catalog files depth)
            bindings calls world

/-- The renders that fail while a template is rendered, the render itself included. -/
def failuresOf (catalog : Catalog) (files : FileTree) (reach : Nat) (template : Template)
    (supply : Supply) (world : World) : List FailedRender :=
  template.failures (catalog.within files reach) (catalog.failures files reach) supply world

end Catalog

namespace Engine

variable {α β : Type} {known : Fault → Prop}

def Relays (known : Fault → Prop) (act : Engine α) (failures : World → List FailedRender) :
    Prop :=
  ∀ world, (∀ failed ∈ failures world, known failed.fault) →
    RelayedOutcome known (act.run world).1

theorem relays_ended {act : Engine α} {failures : World → List FailedRender}
    (relayed : ∀ world, RelayedOutcome known (act.run world).1) : act.Relays known failures :=
  fun world _ => relayed world

theorem relays_attempted {act : Engine α} {next : Except Fault α → Engine β}
    {first : World → List FailedRender} {rest : Except Fault α → World → List FailedRender}
    (relays : act.Relays known first)
    (follows : ∀ outcome, RelayedOutcome known outcome →
      (next outcome).Relays known (rest outcome)) :
    (attempt act >>= next).Relays known fun world =>
      first world ++ rest (act.run world).1 (act.run world).2 := by
  intro world listed
  rw [run_attempted]
  obtain ⟨earlier, later⟩ := List.forall_mem_append.mp listed
  exact follows _ (relays world earlier) _ later

theorem relays_captured {act : Engine α} {failures : World → List FailedRender}
    (relays : act.Relays known failures) :
    (captured act).Relays known fun world => failures world.opened :=
  fun world listed fault failed =>
    relays world.opened listed fault (captured_failed act world fault failed)

end Engine

theorem relayed_outcome_ok {α : Type} (known : Fault → Prop) (result : α) :
    RelayedOutcome known (.ok result) := by
  intro fault failed
  cases failed

theorem relayed_outcome_error {α : Type} {known : Fault → Prop} {fault : Fault}
    (within : fault.Within known) : RelayedOutcome known (.error fault : Except Fault α) := by
  intro other failed
  cases failed
  exact within

/-- What a body finds: reading brings up known renders only, and so do calls if those that
fail in them are known. -/
structure Bindings.Relay (known : Fault → Prop) (bindings : Bindings) (calls : CallFailures) :
    Prop where
  lookup : ∀ key fallback, (bindings.lookup key fallback).Relays known fun _ => []
  invoke : ∀ name args, (bindings.invoke name args).Relays known (calls name args)

def Surroundings.Relay (known : Fault → Prop) (around : Surroundings) (stored : StoredFailures) :
    Prop :=
  ∀ location bindings calls, bindings.Relay known calls →
    (around.stored location bindings).Relays known (stored location bindings calls)

variable {known : Fault → Prop}

theorem Registry.missing_within (registry : Registry) (name : String) :
    (Registry.missing registry name).Within known :=
  Fault.within_alone rfl nofun

theorem Bindings.none_relay : Bindings.none.Relay known fun _ _ _ => [] where
  lookup _ _ := Engine.relays_ended fun _ => relayed_outcome_ok known _
  invoke name _ := Engine.relays_ended fun _ =>
    relayed_outcome_error (Registry.missing_within Registry.empty name)

theorem Context.resolve_relayed {context : Context} (relays : context.Relays known)
    (defaults : Fields) (key : String) (fallback : Option Value) :
    RelayedOutcome known (context.resolve defaults key fallback).2 := by
  have looked : ∀ cause : Fault, cause.Within known → (Fault.lookup key cause).Within known :=
    fun _ => Fault.within_around rfl nofun
  have found : RelayedOutcome known (context.find key).2 := by
    cases context with
    | empty | map _ | indexable _ => exact relayed_outcome_ok known _
    | service source =>
        simp only [find]
        split
        · cases given : source.get key with
          | ok value => exact relayed_outcome_ok known _
          | error cause => exact relayed_outcome_error (looked cause (relays key cause given))
        · exact relayed_outcome_ok known _
  unfold resolve
  split
  · rename_i asked fault failed
    rw [failed] at found
    exact relayed_outcome_error (found fault rfl)
  · exact relayed_outcome_ok known _
  · exact relayed_outcome_ok known _

theorem Engine.relays_answer {α : Type} {reply : List Question × Except Fault α}
    (relayed : RelayedOutcome known reply.2) {failures : World → List FailedRender} :
    (answer reply).Relays known failures := by
  obtain ⟨asked, outcome⟩ := reply
  cases outcome with
  | ok value => exact relays_ended fun _ => relayed_outcome_ok known value
  | error fault => exact relays_ended fun _ => relayed_outcome_error (relayed fault rfl)

theorem Supply.Relays.accepted {supply : Supply} (relays : supply.Relays known)
    {context : Context} (given : supply.toContext = .ok context) : context.Relays known := by
  induction supply with
  | nothing | absent =>
      cases given
      trivial
  | context other =>
      cases given
      exact relays
  | present inner ih | lent inner ih => exact ih relays given
  | value v =>
      cases v with
      | null | object _ =>
          cases given
          trivial
      | bool _ | number _ | string _ | array _ => cases given

theorem Dialog.exchanges_relayed {α : Type} {bindings : Bindings} {calls : CallFailures}
    (bound : bindings.Relay known calls) (dialog : Dialog α) (world : World)
    (listed : ∀ failed ∈ dialog.failures bindings calls world, known failed.fault) :
    ∀ exchange ∈ dialog.exchanges bindings world, RelayedOutcome known exchange.reply := by
  induction dialog generalizing world with
  | done answer => exact nofun
  | lookup key fallback next ih =>
      intro exchange member
      rcases List.mem_cons.mp member with same | later
      · rw [same]
        exact bound.lookup key fallback world nofun
      · exact ih _ _ listed exchange later
  | invoke name args next ih =>
      obtain ⟨called, rest⟩ := List.forall_mem_append.mp listed
      intro exchange member
      rcases List.mem_cons.mp member with same | later
      · rw [same]
        exact bound.invoke name args world called
      · exact ih _ _ rest exchange later

theorem Asking.refused_within (asking : Asking) {fault : Fault} (within : fault.Within known) :
    (asking.refused fault).Within known := by
  cases asking with
  | value key fallback => exact Fault.within_around rfl nofun within
  | call name args =>
      have carried : (Fault.forwarded fault).Within known := Fault.within_around rfl nofun within
      exact Fault.within_around rfl nofun carried

/-- What a page adds to a refusal holds no failed render. -/
theorem run_page_relays {bindings : Bindings} {calls : CallFailures}
    (bound : bindings.Relay known calls) (files : FileTree) (path : String) :
    (runPage files path bindings).Relays known (pageFailures files path bindings calls) := by
  intro world listed raised failed
  rcases run_page_failed files path bindings world raised failed with unread | evaluated
  · obtain ⟨error, _, same⟩ := unread
    rw [same]
    exact Fault.within_layered _ (Fault.within_alone rfl nofun)
  · obtain ⟨source, fault, read, ran, same⟩ := evaluated
    rw [pageFailures, read] at listed
    have ends := Markup.render_settled source .any (by decide) nofun
    obtain ⟨answer, later, run, settled⟩ :=
      Dialog.run_ends bindings (Markup.render source) ends world
    rw [run] at ran
    cases ran
    rw [same]
    apply Fault.within_layered
    cases settled with
    | own steps named text calm => exact Fault.within_under steps (Fault.within_alone rfl nofun)
    | refused steps named asking cause earlier after split last =>
        have relayed := Dialog.exchanges_relayed bound (Markup.render source) world listed
        have told : (⟨asking, .error cause⟩ : Exchange) ∈
            (Markup.render source).exchanges bindings world := by
          rw [split]
          exact List.mem_append_right earlier List.mem_cons_self
        exact Fault.within_under steps (asking.refused_within (relayed _ told cause rfl))

mutual

/-- One case for each kind of step. What a step is told comes from renders that the list
holds, and so does what follows. -/
theorem Action.run_relays {around : Surroundings} {stored : StoredFailures}
    (near : around.Relay known stored) {bindings : Bindings} {calls : CallFailures}
    (bound : bindings.Relay known calls) : (action : Action) → action.Relays known →
    (action.run around bindings).Relays known (action.failures around stored bindings calls)
  | .done value, _ => Engine.relays_ended fun _ => relayed_outcome_ok known value
  | .fail _, relays => Engine.relays_ended fun _ => relayed_outcome_error relays
  | .write text next, relays => fun world =>
      next.run_relays near bound relays ((Engine.write text).run world).2
  | .depth next, relays => fun world =>
      (next world.channel.depth).run_relays near bound (relays world.channel.depth) world
  | .lookup key fallback next, relays =>
      Engine.relays_attempted (bound.lookup key fallback)
        fun reply told => (next reply).run_relays near bound (relays reply told)
  | .invoke name args next, relays =>
      Engine.relays_attempted (bound.invoke name args)
        fun reply told => (next reply).run_relays near bound (relays reply told)
  | .capture part next, relays =>
      Engine.relays_attempted (Engine.relays_captured (part.run_relays near bound relays.1))
        fun reply told => (next reply).run_relays near bound (relays.2 reply told)
  | .render template _ next, relays =>
      Engine.relays_attempted (template.run_relays near relays.2.1 relays.1)
        fun reply told => (next reply).run_relays near bound (relays.2.2 reply told)
  | .locate location next, relays =>
      (next (around.holds location)).run_relays near bound (relays (around.holds location))

theorem Body.run_relays {around : Surroundings} {stored : StoredFailures}
    (near : around.Relay known stored) {bindings : Bindings} {calls : CallFailures}
    (bound : bindings.Relay known calls) : (body : Body) → body.Relays known →
    (body.run around bindings).Relays known (body.failures around stored bindings calls)
  | .program action _, relays => action.run_relays near bound relays
  | .page path, _ => run_page_relays bound around.files path
  | .stored location, _ => near location bindings calls bound

theorem Template.run_relays {around : Surroundings} {stored : StoredFailures}
    (near : around.Relay known stored) {supply : Supply} (given : supply.Relays known) :
    (template : Template) → template.Relays known →
    (template.run around supply).Relays known (template.failures around stored supply)
  | .mk name body defaults functions, relays => by
      intro world listed fault failed
      let template : Template := .mk name body defaults functions
      obtain ⟨inside, own⟩ := List.forall_mem_append.mp listed
      have itself : known fault := own _ (FailedRender.mem_of_run failed)
      rcases template.run_failed around supply world fault failed with refused | evaluated
      · obtain ⟨cause, shape, same⟩ := refused
        obtain ⟨found, bad⟩ := supply.refused_bad_shape cause shape
        rw [same] at itself ⊢
        rw [bad] at itself ⊢
        exact Fault.within_render rfl rfl itself (Fault.within_alone rfl nofun)
      · obtain ⟨context, raised, accepted, ended, same⟩ := evaluated
        have bound : (template.bindings around context).Relay known
            (callFailures around stored functions) :=
          ⟨fun key fallback => Engine.relays_answer
              (Context.resolve_relayed (given.accepted accepted) defaults key fallback),
            fun called args => call_named_relays near called args
              (fun _ => relayed_outcome_error (Registry.missing_within functions called))
              functions relays.2⟩
        rw [accepted] at inside
        rw [same] at itself ⊢
        exact Fault.within_render rfl rfl itself
          (body.run_relays near bound relays.1 world.opened inside raised ended)

theorem call_named_relays {around : Surroundings} {stored : StoredFailures}
    (near : around.Relay known stored) (name : String) (args : List Value)
    {absent : Engine Value} (absence : ∀ world, RelayedOutcome known (absent.run world).1) :
    (functions : List (String × (List Value → Action))) → FunctionsRelay known functions →
    (callNamed around functions name args absent).Relays known
      (callFailures around stored functions name args)
  | [], _ => Engine.relays_ended absence
  | (called, function) :: rest, relays => by
      have found := (function args).run_relays near Bindings.none_relay (relays.1 args)
      have later := call_named_relays near name args absence rest relays.2
      intro world
      simp only [callNamed, callFailures]
      by_cases same : (name == called) = true
      · rw [if_pos same, if_pos same]
        exact found world
      · rw [if_neg same, if_neg same]
        exact later world

end

theorem Catalog.within_relay {catalog : Catalog} {elsewhere : FailedRender → Prop}
    (stock : catalog.Candid elsewhere) (held : ∀ render, elsewhere render → known render.fault)
    (files : FileTree) (reach : Nat) :
    (catalog.within files reach).Relay known (catalog.failures files reach) := by
  have unknown : ∀ location, (Fault.unknownLocation location).Within known :=
    fun _ => Fault.within_alone rfl nofun
  induction reach with
  | zero =>
      intro location bindings calls bound
      exact Engine.relays_ended fun _ => relayed_outcome_error (Fault.within_alone rfl nofun)
  | succ reach ih =>
      intro location bindings calls bound world
      simp only [within, meaning, failures]
      cases found : catalog.find? location with
      | none =>
          intro _
          exact relayed_outcome_error (unknown location)
      | some action =>
          exact action.run_relays ih bound (stock location action found known held) world

/-- Every failed render inside what a render fails with took place in that run, or elsewhere
if it was held on to. -/
theorem Catalog.renders_took_place {catalog : Catalog} {elsewhere : FailedRender → Prop}
    (stock : catalog.Candid elsewhere) (files : FileTree) (reach : Nat) {template : Template}
    (made : template.Candid elsewhere) {supply : Supply} (given : supply.Candid elsewhere)
    (world : World) (fault : Fault)
    (failed : ((template.run (catalog.within files reach) supply).run world).1 = .error fault) :
    ∀ render ∈ fault.renders, ∃ listed : FailedRender,
      (listed ∈ catalog.failuresOf files reach template supply world ∨ elsewhere listed) ∧
      listed.fault = render := by
  let known : Fault → Prop := fun render => ∃ listed : FailedRender,
    (listed ∈ catalog.failuresOf files reach template supply world ∨ elsewhere listed) ∧
    listed.fault = render
  have held : ∀ render, elsewhere render → known render.fault :=
    fun render apart => ⟨render, .inr apart, rfl⟩
  have near : (catalog.within files reach).Relay known (catalog.failures files reach) :=
    Catalog.within_relay stock held files reach
  exact template.run_relays near (given known held) (made known held) world
    (fun listed member => ⟨listed, .inl member, rfl⟩) fault failed

end Stencil
