import Stencil.Proofs.Exchange
import Stencil.Proofs.RenderFailure

/-!
What a run asks for, in order: each key that is read and each function that is called, by
the body of the render itself or further down, by the bodies of renders inside it. What
services have been asked when the run is over is told by this alone. Each key read from a
service is one question whether it has it and, if it has, at once one question for it.
-/

namespace Stencil

/-- A key that a body reads or a function that it calls. -/
structure Inquiry where
  /-- How many renders and calls lie between the run and the body that asks. -/
  level : Nat
  /-- The context of that body. -/
  context : Context
  asking : Asking

/-- A body that asks: the context it reads, and what its calls ask for in turn. -/
structure Asker where
  context : Context
  calls : String → List Value → World → List Inquiry

namespace Inquiry

def deeper (inquiry : Inquiry) : Inquiry := { inquiry with level := inquiry.level + 1 }

end Inquiry

def Asker.none : Asker := ⟨.empty, fun _ _ _ => []⟩

abbrev StoredInquiries := String → Bindings → Asker → World → List Inquiry

def Dialog.inquiries {α : Type} (bindings : Bindings) (asker : Asker) :
    Dialog α → World → List Inquiry
  | .done _, _ => []
  | .lookup key fallback next, world =>
      let reply := (bindings.lookup key fallback).run world
      ⟨0, asker.context, .value key fallback⟩ :: (next reply.1).inquiries bindings asker reply.2
  | .invoke name args next, world =>
      let reply := (bindings.invoke name args).run world
      ⟨0, asker.context, .call name args⟩ ::
        (asker.calls name args world ++ (next reply.1).inquiries bindings asker reply.2)

def pageInquiries (files : FileTree) (path : String) (bindings : Bindings) (asker : Asker)
    (world : World) : List Inquiry :=
  match files.readText path with
  | .error _ => []
  | .ok source => (Markup.render source).inquiries bindings asker world

mutual

def Action.inquiries (around : Surroundings) (stored : StoredInquiries) (bindings : Bindings)
    (asker : Asker) : Action → World → List Inquiry
  | .done _, _ => []
  | .fail _, _ => []
  | .write text next, world =>
      next.inquiries around stored bindings asker ((Engine.write text).run world).2
  | .depth next, world =>
      (next world.channel.depth).inquiries around stored bindings asker world
  | .lookup key fallback next, world =>
      let reply := (bindings.lookup key fallback).run world
      ⟨0, asker.context, .value key fallback⟩ ::
        (next reply.1).inquiries around stored bindings asker reply.2
  | .invoke name args next, world =>
      let reply := (bindings.invoke name args).run world
      ⟨0, asker.context, .call name args⟩ :: (asker.calls name args world ++
        (next reply.1).inquiries around stored bindings asker reply.2)
  | .capture part next, world =>
      let captured := (Engine.captured (part.run around bindings)).run world
      part.inquiries around stored bindings asker world.opened ++
        (next captured.1).inquiries around stored bindings asker captured.2
  | .render template supply next, world =>
      let rendered := (template.run around supply).run world
      (template.inquiries around stored supply world).map Inquiry.deeper ++
        (next rendered.1).inquiries around stored bindings asker rendered.2
  | .locate location next, world =>
      (next (around.holds location)).inquiries around stored bindings asker world

def Body.inquiries (around : Surroundings) (stored : StoredInquiries) (bindings : Bindings)
    (asker : Asker) : Body → World → List Inquiry
  | .program action _, world => action.inquiries around stored bindings asker world
  | .page path, world => pageInquiries around.files path bindings asker world
  | .stored location, world => stored location bindings asker world

/-- A render whose context is refused asks for nothing. -/
def Template.inquiries (around : Surroundings) (stored : StoredInquiries) (supply : Supply) :
    Template → World → List Inquiry
  | .mk name body defaults functions, world =>
      match supply.toContext with
      | .error _ => []
      | .ok context =>
          body.inquiries around stored
            ((Template.mk name body defaults functions).bindings around context)
            ⟨context, fun called args => callInquiries around stored functions called args⟩
            world.opened

def callInquiries (around : Surroundings) (stored : StoredInquiries) :
    List (String × (List Value → Action)) → String → List Value → World → List Inquiry
  | [], _, _, _ => []
  | (known, function) :: rest, name, args, world =>
      if name == known then
        ((function args).inquiries around stored Bindings.none Asker.none world).map
          Inquiry.deeper
      else callInquiries around stored rest name args world

end

namespace Catalog

def inquiries (catalog : Catalog) (files : FileTree) : Nat → StoredInquiries
  | 0, _, _, _, _ => []
  | depth + 1, location, bindings, asker, world =>
      match catalog.find? location with
      | none => []
      | some action =>
          action.inquiries (catalog.within files depth) (inquiries catalog files depth)
            bindings asker world

/-- What the render of a template asks for, all the way down. -/
def inquiriesOf (catalog : Catalog) (files : FileTree) (reach : Nat) (template : Template)
    (supply : Supply) (world : World) : List Inquiry :=
  template.inquiries (catalog.within files reach) (catalog.inquiries files reach) supply world

end Catalog

namespace Context

/-- What reading a key asks a service: whether it has the key and, if so, for the value. -/
def questions (context : Context) (key : String) : List Question :=
  match context with
  | .service source =>
      ⟨source.label, .has, key⟩ ::
        (if source.has key = true then [⟨source.label, .get, key⟩] else [])
  | _ => []

/-- Neither the defaults nor the fallback have anything to do with the questions. -/
theorem resolve_questions (context : Context) (defaults : Fields) (key : String)
    (fallback : Option Value) :
    (context.resolve defaults key fallback).1 = context.questions key := by
  have same : (context.resolve defaults key fallback).1 = (context.find key).1 := by
    unfold resolve
    split <;> simp [*]
  rw [same]
  cases context with
  | service source =>
      simp only [find, questions]
      split <;> rfl
  | _ => rfl

end Context

namespace Inquiry

def questions (inquiry : Inquiry) : List Question :=
  match inquiry.asking with
  | .value key _ => inquiry.context.questions key
  | .call .. => []

def consults (label : String) (inquiry : Inquiry) : Bool :=
  match inquiry.context, inquiry.asking with
  | .service source, .value _ _ => source.label == label
  | _, _ => false

def fetches (label : String) (inquiry : Inquiry) : Bool :=
  match inquiry.context, inquiry.asking with
  | .service source, .value key _ => source.label == label && source.has key
  | _, _ => false

theorem questions_deeper (inquiries : List Inquiry) :
    (inquiries.map deeper).flatMap questions = inquiries.flatMap questions := by
  rw [List.flatMap_map]
  rfl

end Inquiry

namespace Question

def goesTo (label : String) (question : Question) : Bool := question.service == label

def gets (label : String) (question : Question) : Bool :=
  question.service == label && question.request == .get

end Question

namespace Inquiry

/-- The questions of one inquiry all go to the service that it consults. -/
theorem filter_questions (label : String) (inquiry : Inquiry) :
    inquiry.questions.filter (Question.goesTo label) =
      if inquiry.consults label then inquiry.questions else [] := by
  obtain ⟨level, context, asking⟩ := inquiry
  cases asking with
  | call name args => simp [questions]
  | value key fallback =>
      cases context with
      | service source =>
          cases held : source.has key <;> by_cases same : source.label = label <;>
            simp [questions, consults, Context.questions, Question.goesTo, held, same]
      | _ => simp [questions, Context.questions]

theorem count_questions (label : String) (inquiry : Inquiry) :
    inquiry.questions.countP (Question.gets label) = if inquiry.fetches label then 1 else 0 := by
  obtain ⟨level, context, asking⟩ := inquiry
  cases asking with
  | call name args => simp [questions, fetches]
  | value key fallback =>
      cases context with
      | service source =>
          cases held : source.has key <;> by_cases same : source.label = label <;>
            simp [questions, fetches, Context.questions, Question.gets, held, same]
      | _ => simp [questions, fetches, Context.questions]

theorem filter_flat_map_questions (label : String) (inquiries : List Inquiry) :
    (inquiries.flatMap questions).filter (Question.goesTo label) =
      (inquiries.filter (consults label)).flatMap questions := by
  induction inquiries with
  | nil => rfl
  | cons inquiry rest ih =>
      rw [List.flatMap_cons, List.filter_append, ih, filter_questions, List.filter_cons]
      split <;> rfl

theorem count_flat_map_questions (label : String) (inquiries : List Inquiry) :
    (inquiries.flatMap questions).countP (Question.gets label) =
      inquiries.countP (fetches label) := by
  induction inquiries with
  | nil => rfl
  | cons inquiry rest ih =>
      rw [List.flatMap_cons, List.countP_append, ih, count_questions, List.countP_cons,
        Nat.add_comm]

end Inquiry

namespace Engine

variable {α β : Type}

/-- All that services are asked in a run is told by what the run asks for. -/
def Asks (act : Engine α) (inquiries : World → List Inquiry) : Prop :=
  ∀ world, (act.run world).2.asked =
    world.asked ++ (inquiries world).flatMap Inquiry.questions

theorem asks_nothing {act : Engine α} (quiet : ∀ world, (act.run world).2.asked = world.asked) :
    act.Asks fun _ => [] := by
  intro world
  rw [quiet, List.flatMap_nil, List.append_nil]

theorem asks_answer (reply : List Question × Except Fault α) (world : World) :
    ((answer reply).run world).2.asked = world.asked ++ reply.1 := by
  obtain ⟨asked, outcome⟩ := reply
  cases outcome <;> rfl

theorem asks_attempted {act : Engine α} {next : Except Fault α → Engine β}
    {first : World → List Inquiry} {rest : Except Fault α → World → List Inquiry}
    (asks : act.Asks first) (follows : ∀ outcome, (next outcome).Asks (rest outcome)) :
    (attempt act >>= next).Asks fun world =>
      first world ++ rest (act.run world).1 (act.run world).2 := by
  intro world
  rw [run_attempted, follows, asks, List.flatMap_append, List.append_assoc]

theorem asks_captured {act : Engine α} {inquiries : World → List Inquiry}
    (asks : act.Asks inquiries) : (captured act).Asks fun world => inquiries world.opened := by
  intro world
  rw [run_captured]
  exact asks world.opened

end Engine

structure Bindings.Ask (bindings : Bindings) (asker : Asker) : Prop where
  lookup : ∀ key fallback world, ((bindings.lookup key fallback).run world).2.asked =
    world.asked ++ asker.context.questions key
  invoke : ∀ name args, (bindings.invoke name args).Asks (asker.calls name args)

theorem Bindings.none_ask : Bindings.none.Ask Asker.none where
  lookup _ _ world := (List.append_nil world.asked).symm
  invoke _ _ := Engine.asks_nothing fun _ => rfl

theorem Bindings.Ask.reading {bindings : Bindings} {asker : Asker} (bound : bindings.Ask asker)
    (key : String) (fallback : Option Value) :
    (bindings.lookup key fallback).Asks fun _ => [⟨0, asker.context, .value key fallback⟩] := by
  intro world
  rw [bound.lookup, List.flatMap_singleton]
  rfl

theorem Bindings.Ask.calling {bindings : Bindings} {asker : Asker} (bound : bindings.Ask asker)
    (name : String) (args : List Value) :
    (bindings.invoke name args).Asks fun world =>
      ⟨0, asker.context, .call name args⟩ :: asker.calls name args world :=
  bound.invoke name args

def Surroundings.Ask (around : Surroundings) (stored : StoredInquiries) : Prop :=
  ∀ location bindings asker, bindings.Ask asker →
    (around.stored location bindings).Asks (stored location bindings asker)

theorem Dialog.run_asks {α : Type} {bindings : Bindings} {asker : Asker}
    (bound : bindings.Ask asker) (dialog : Dialog α) :
    (dialog.run bindings).Asks (dialog.inquiries bindings asker) := by
  induction dialog with
  | done answer => exact Engine.asks_nothing fun _ => rfl
  | lookup key fallback next ih => exact Engine.asks_attempted (bound.reading key fallback) ih
  | invoke name args next ih => exact Engine.asks_attempted (bound.calling name args) ih

theorem run_page_asks {bindings : Bindings} {asker : Asker} (bound : bindings.Ask asker)
    (files : FileTree) (path : String) :
    (runPage files path bindings).Asks (pageInquiries files path bindings asker) := by
  unfold runPage pageInquiries
  cases files.readText path with
  | error error => exact Engine.asks_nothing fun _ => rfl
  | ok source =>
      intro world
      dsimp only
      rw [Engine.run_bind, ← Dialog.run_asks bound (Markup.render source) world]
      rcases (Dialog.run bindings (Markup.render source)).run world with ⟨outcome, later⟩
      cases outcome with
      | error fault => rfl
      | ok page => cases page <;> rfl

mutual

/-- One case for each kind of step. What follows a step asks on from the world in which
the step has left it. -/
theorem Action.run_asks {around : Surroundings} {stored : StoredInquiries}
    (known : around.Ask stored) {bindings : Bindings} {asker : Asker}
    (bound : bindings.Ask asker) : (action : Action) →
    (action.run around bindings).Asks (action.inquiries around stored bindings asker)
  | .done _ => Engine.asks_nothing fun _ => rfl
  | .fail _ => Engine.asks_nothing fun _ => rfl
  | .write text next => fun world =>
      next.run_asks known bound ((Engine.write text).run world).2
  | .depth next => fun world => (next world.channel.depth).run_asks known bound world
  | .lookup key fallback next =>
      Engine.asks_attempted (bound.reading key fallback)
        fun reply => (next reply).run_asks known bound
  | .invoke name args next =>
      Engine.asks_attempted (bound.calling name args)
        fun reply => (next reply).run_asks known bound
  | .capture part next =>
      Engine.asks_attempted (Engine.asks_captured (part.run_asks known bound))
        fun reply => (next reply).run_asks known bound
  | .render template supply next => by
      have inner : (template.run around supply).Asks fun world =>
          (template.inquiries around stored supply world).map Inquiry.deeper := by
        intro world
        rw [Inquiry.questions_deeper]
        exact template.run_asks known supply world
      exact Engine.asks_attempted inner fun reply => (next reply).run_asks known bound
  | .locate location next => (next (around.holds location)).run_asks known bound

theorem Body.run_asks {around : Surroundings} {stored : StoredInquiries}
    (known : around.Ask stored) {bindings : Bindings} {asker : Asker}
    (bound : bindings.Ask asker) : (body : Body) →
    (body.run around bindings).Asks (body.inquiries around stored bindings asker)
  | .program action _ => action.run_asks known bound
  | .page path => run_page_asks bound around.files path
  | .stored location => known location bindings asker bound

theorem Template.run_asks {around : Surroundings} {stored : StoredInquiries}
    (known : around.Ask stored) (supply : Supply) : (template : Template) →
    (template.run around supply).Asks (template.inquiries around stored supply)
  | .mk name body defaults functions => by
      intro world
      cases shape : supply.toContext with
      | error fault =>
          simp only [Template.run, Template.inquiries, shape]
          exact (List.append_nil world.asked).symm
      | ok context =>
          let template : Template := .mk name body defaults functions
          have bound : (template.bindings around context).Ask
              ⟨context, fun called args => callInquiries around stored functions called args⟩ := by
            constructor
            · intro key fallback world
              rw [← context.resolve_questions defaults key fallback]
              exact Engine.asks_answer _ world
            · intro called args
              exact call_named_asks known called args _ (fun _ => rfl) functions
          rw [template.run_within around supply world context shape]
          simp only [Template.inquiries, shape]
          exact Engine.asks_captured (body.run_asks known bound) world

theorem call_named_asks {around : Surroundings} {stored : StoredInquiries}
    (known : around.Ask stored) (name : String) (args : List Value) (absent : Engine Value)
    (quiet : ∀ world, (absent.run world).2.asked = world.asked) :
    (functions : List (String × (List Value → Action))) →
    (callNamed around functions name args absent).Asks
      (callInquiries around stored functions name args)
  | [] => Engine.asks_nothing quiet
  | (called, function) :: rest => by
      have found := (function args).run_asks known Bindings.none_ask
      have later := call_named_asks known name args absent quiet rest
      intro world
      simp only [callNamed, callInquiries]
      by_cases same : (name == called) = true
      · rw [if_pos same, if_pos same, Inquiry.questions_deeper]
        exact found world
      · rw [if_neg same, if_neg same]
        exact later world

end

theorem Catalog.within_ask (catalog : Catalog) (files : FileTree) (reach : Nat) :
    (catalog.within files reach).Ask (catalog.inquiries files reach) := by
  induction reach with
  | zero =>
      intro location bindings asker bound
      exact Engine.asks_nothing fun _ => rfl
  | succ reach ih =>
      intro location bindings asker bound world
      simp only [within, meaning, inquiries]
      cases catalog.find? location with
      | none => exact (List.append_nil world.asked).symm
      | some action => exact action.run_asks ih bound world

/-- What is asked for at the level of a body is asked of its own context. -/
def Inquiry.Own (context : Context) (inquiries : List Inquiry) : Prop :=
  ∀ inquiry ∈ inquiries, inquiry.level = 0 → inquiry.context = context

namespace Inquiry

variable {context : Context}

theorem own_nil : Own context [] := fun _ member => absurd member List.not_mem_nil

theorem own_cons (asking : Asking) {rest : List Inquiry} (after : Own context rest) :
    Own context (⟨0, context, asking⟩ :: rest) := by
  intro inquiry member
  rcases List.mem_cons.mp member with here | later
  · intro _
    rw [here]
  · exact after inquiry later

theorem own_append {earlier later : List Inquiry} (before : Own context earlier)
    (after : Own context later) : Own context (earlier ++ later) := by
  intro inquiry member
  rcases List.mem_append.mp member with first | second
  · exact before inquiry first
  · exact after inquiry second

theorem own_deeper (inquiries : List Inquiry) : Own context (inquiries.map deeper) := by
  intro inquiry member own
  obtain ⟨other, _, same⟩ := List.mem_map.mp member
  rw [← same] at own
  cases own

end Inquiry

/-- What calls lead to is asked for further down. -/
def Asker.Apart (asker : Asker) : Prop :=
  ∀ name args world, Inquiry.Own asker.context (asker.calls name args world)

theorem Dialog.inquiries_own {α : Type} (bindings : Bindings) {asker : Asker}
    (apart : asker.Apart) (dialog : Dialog α) (world : World) :
    Inquiry.Own asker.context (dialog.inquiries bindings asker world) := by
  induction dialog generalizing world with
  | done answer => exact Inquiry.own_nil
  | lookup key fallback next ih => exact Inquiry.own_cons _ (ih _ _)
  | invoke name args next ih =>
      exact Inquiry.own_cons _ (Inquiry.own_append (apart name args world) (ih _ _))

theorem page_inquiries_own (files : FileTree) (path : String) (bindings : Bindings)
    {asker : Asker} (apart : asker.Apart) (world : World) :
    Inquiry.Own asker.context (pageInquiries files path bindings asker world) := by
  unfold pageInquiries
  split
  · exact Inquiry.own_nil
  · exact Dialog.inquiries_own bindings apart _ world

def StoredInquiries.Own (stored : StoredInquiries) : Prop :=
  ∀ location bindings (asker : Asker), asker.Apart → ∀ world,
    Inquiry.Own asker.context (stored location bindings asker world)

theorem Action.inquiries_own (around : Surroundings) (stored : StoredInquiries)
    (bindings : Bindings) {asker : Asker} (apart : asker.Apart) : (action : Action) →
    (world : World) →
    Inquiry.Own asker.context (action.inquiries around stored bindings asker world)
  | .done _, _ => Inquiry.own_nil
  | .fail _, _ => Inquiry.own_nil
  | .write _ next, _ => next.inquiries_own around stored bindings apart _
  | .depth next, world =>
      (next world.channel.depth).inquiries_own around stored bindings apart world
  | .lookup _ _ next, _ =>
      Inquiry.own_cons _ ((next _).inquiries_own around stored bindings apart _)
  | .invoke name args next, world =>
      Inquiry.own_cons _ (Inquiry.own_append (apart name args world)
        ((next _).inquiries_own around stored bindings apart _))
  | .capture part next, _ =>
      Inquiry.own_append (part.inquiries_own around stored bindings apart _)
        ((next _).inquiries_own around stored bindings apart _)
  | .render _ _ next, _ =>
      Inquiry.own_append (Inquiry.own_deeper _)
        ((next _).inquiries_own around stored bindings apart _)
  | .locate location next, world =>
      (next (around.holds location)).inquiries_own around stored bindings apart world

theorem Body.inquiries_own (around : Surroundings) {stored : StoredInquiries}
    (known : stored.Own) (bindings : Bindings) {asker : Asker} (apart : asker.Apart)
    (body : Body) (world : World) :
    Inquiry.Own asker.context (body.inquiries around stored bindings asker world) := by
  cases body with
  | program action location => exact action.inquiries_own around stored bindings apart world
  | page path => exact page_inquiries_own around.files path bindings apart world
  | stored location => exact known location bindings asker apart world

theorem Catalog.inquiries_own (catalog : Catalog) (files : FileTree) (reach : Nat) :
    (catalog.inquiries files reach).Own := by
  intro location bindings asker apart world
  cases reach with
  | zero => exact Inquiry.own_nil
  | succ reach =>
      simp only [inquiries]
      split
      · exact Inquiry.own_nil
      · exact Action.inquiries_own _ _ bindings apart _ world

theorem call_inquiries_apart (around : Surroundings) (stored : StoredInquiries)
    (context : Context) (functions : Registry) :
    Asker.Apart ⟨context, callInquiries around stored functions⟩ := by
  intro name args world
  induction functions with
  | nil => exact Inquiry.own_nil
  | cons entry rest ih =>
      obtain ⟨known, function⟩ := entry
      simp only [callInquiries]
      split
      · exact Inquiry.own_deeper _
      · exact ih

theorem Catalog.inquiries_of_own (catalog : Catalog) (files : FileTree) (reach : Nat)
    (template : Template) (supply : Supply) (world : World) (inquiry : Inquiry)
    (member : inquiry ∈ catalog.inquiriesOf files reach template supply world)
    (own : inquiry.level = 0) : supply.toContext = .ok inquiry.context := by
  obtain ⟨name, body, defaults, functions⟩ := template
  simp only [inquiriesOf, Template.inquiries] at member
  split at member
  · cases member
  · rename_i context accepted
    have apart := call_inquiries_apart (catalog.within files reach)
      (catalog.inquiries files reach) context functions
    rw [accepted, Body.inquiries_own _ (catalog.inquiries_own files reach) _ apart body _ inquiry
      member own]

/-- The questions that services are asked in a run are those of the keys read in it, one
after the other, and no others: each key is asked for once whether it is there and, if it is
and not otherwise, at once for its value. So it is for each service by itself, and it is
asked for a value as often as a key is read that it has. What the body of a render reads, it
reads from the context of that render. -/
theorem services_asked_as_read (catalog : Catalog) (files : FileTree) (reach : Nat)
    (template : Template) (supply : Supply) (world : World) :
    let inquiries := catalog.inquiriesOf files reach template supply world
    let asked := ((template.run (catalog.within files reach) supply).run world).2.asked
    asked = world.asked ++ inquiries.flatMap Inquiry.questions ∧
    (∀ label, asked.filter (Question.goesTo label) =
      world.asked.filter (Question.goesTo label) ++
        (inquiries.filter (Inquiry.consults label)).flatMap Inquiry.questions) ∧
    (∀ label, asked.countP (Question.gets label) =
      world.asked.countP (Question.gets label) + inquiries.countP (Inquiry.fetches label)) ∧
    ∀ inquiry ∈ inquiries, inquiry.level = 0 → supply.toContext = .ok inquiry.context := by
  intro inquiries asked
  have whole : asked = world.asked ++ inquiries.flatMap Inquiry.questions :=
    template.run_asks (catalog.within_ask files reach) supply world
  refine ⟨whole, ?_, ?_, catalog.inquiries_of_own files reach template supply world⟩
  · intro label
    rw [whole, List.filter_append, Inquiry.filter_flat_map_questions]
  · intro label
    rw [whole, List.countP_append, Inquiry.count_flat_map_questions]

/-- A value that is asked for and cannot be had leaves its question, and nothing is asked of
the service for a key that it does not have, nor for what a render inside finds in a context
of its own. -/
example :
    let store : Service :=
      ⟨"store", fun key => key != "c", fun key =>
        if key = "a" then .ok .null else .error (.message "out of reach")⟩
    let inside : Template := .mk none (.program (.lookup "a" none .ofExcept) none) [] []
    let reading : Action := .lookup "c" none fun _ => .lookup "b" none fun _ =>
      .render inside .nothing fun _ => .lookup "a" none fun _ => .fail (.message "over")
    (((Template.mk none (.program reading none) [] []).run (Catalog.empty.within FileTree.empty 0)
        (.context (.service store))).run World.fresh).2.asked =
      [⟨"store", .has, "c"⟩, ⟨"store", .has, "b"⟩, ⟨"store", .get, "b"⟩,
        ⟨"store", .has, "a"⟩, ⟨"store", .get, "a"⟩] := rfl

end Stencil
