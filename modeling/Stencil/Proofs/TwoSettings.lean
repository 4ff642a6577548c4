import Stencil.Proofs.ContextShape
import Stencil.Proofs.PageLikeness

/-!
A render depends on what it reads. One template is rendered in two settings, each with a
context, defaults and functions of its own. If each key that the body reads in the first
setting resolves the same in the second, and each function that it calls is the same in
both or missing in both, then the renders end alike. What is not read does not count. The
names that are suggested for a missing function come from all functions there are; so a body
that acts on them reads more than it asks for.
-/

namespace Stencil

/-- What is asked of one setting is answered alike by another. -/
def Bindings.AnswersAlike (like : Fault → Fault → Prop) (first second : Bindings) :
    Asking → Prop
  | .value key fallback => ∀ world later : World, world.channel = later.channel →
      Matched Eq ((first.lookup key fallback).run world) ((second.lookup key fallback).run later)
  | .call name args => ∀ world later : World, world.channel = later.channel →
      Matched like ((first.invoke name args).run world) ((second.invoke name args).run later)

def Inquiry.AnsweredAlike (like : Fault → Fault → Prop) (first second : Bindings)
    (inquiries : List Inquiry) : Prop :=
  ∀ inquiry ∈ inquiries, inquiry.level = 0 → first.AnswersAlike like second inquiry.asking

namespace Inquiry.AnsweredAlike

variable {like : Fault → Fault → Prop} {first second : Bindings}

theorem head {inquiry : Inquiry} {rest : List Inquiry}
    (answered : AnsweredAlike like first second (inquiry :: rest)) (own : inquiry.level = 0) :
    first.AnswersAlike like second inquiry.asking :=
  answered inquiry List.mem_cons_self own

theorem tail {inquiry : Inquiry} {rest : List Inquiry}
    (answered : AnsweredAlike like first second (inquiry :: rest)) :
    AnsweredAlike like first second rest :=
  fun other member => answered other (List.mem_cons_of_mem inquiry member)

theorem left {earlier later : List Inquiry}
    (answered : AnsweredAlike like first second (earlier ++ later)) :
    AnsweredAlike like first second earlier :=
  fun other member => answered other (List.mem_append_left later member)

theorem right {earlier later : List Inquiry}
    (answered : AnsweredAlike like first second (earlier ++ later)) :
    AnsweredAlike like first second later :=
  fun other member => answered other (List.mem_append_right earlier member)

end Inquiry.AnsweredAlike

variable {like : Fault → Fault → Prop}

theorem Dialog.run_matched {α : Type} {told : α → α → Prop} {first second : Bindings}
    (asker : Asker) {one other : Dialog α} (alike : one.Alike like told other)
    (world later : World) (same : world.channel = later.channel)
    (answered : Inquiry.AnsweredAlike like first second (one.inquiries first asker world)) :
    ∃ answer left reply gone, (one.run first).run world = (.ok answer, left) ∧
      (other.run second).run later = (.ok reply, gone) ∧ told answer reply ∧
      left.channel = gone.channel := by
  induction alike generalizing world later with
  | done holds => exact ⟨_, world, _, later, rfl, rfl, holds, same⟩
  | lookup key fallback _ ih =>
      simp only [inquiries] at answered
      have reply := answered.head rfl world later same
      simp only [run]
      rw [Engine.run_attempted, Engine.run_attempted, ← reply.ends.eq]
      exact ih _ _ _ reply.channel answered.tail
  | invoke name args _ ih =>
      simp only [inquiries] at answered
      have reply := answered.head rfl world later same
      simp only [run]
      rw [Engine.run_attempted, Engine.run_attempted]
      exact ih _ _ reply.ends _ _ reply.channel answered.tail.right

theorem run_page_matched (likeness : Fault.Likeness like) {first second : Bindings}
    (asker : Asker) (files : FileTree) (path : String) (world later : World)
    (same : world.channel = later.channel)
    (answered : Inquiry.AnsweredAlike like first second
      (pageInquiries files path first asker world)) :
    Matched like ((runPage files path first).run world)
      ((runPage files path second).run later) := by
  unfold pageInquiries at answered
  unfold runPage
  cases read : files.readText path with
  | error error => exact ⟨.error (likeness.same _), same⟩
  | ok source =>
      rw [read] at answered
      obtain ⟨answer, left, reply, gone, ran, answers, alike, channel⟩ :=
        Dialog.run_matched asker (Markup.render_alike likeness source) world later same answered
      dsimp only
      rw [Engine.run_bind, Engine.run_bind, ran, answers]
      cases alike with
      | ok text => exact ⟨.ok _, congrArg (fun channel => channel.write text) channel⟩
      | error alike => exact ⟨.error (likeness.layered _ alike), channel⟩

/-- One case for each kind of step. A part under a capture asks at the level of its owner;
what a nested render asks does not count, for nothing of either setting gets there. -/
theorem Action.run_matched {around : Surroundings} {vicinity : Vicinity}
    (known : around.Tell vicinity) (stored : StoredInquiries)
    {first second : Bindings} (asker : Asker) {one other : Action}
    (alike : one.Alike like other) (world later : World) (same : world.channel = later.channel)
    (answered : Inquiry.AnsweredAlike like first second
      (one.inquiries around stored first asker world)) :
    Matched like ((one.run around first).run world) ((other.run around second).run later) := by
  induction alike generalizing world later with
  | done value => exact ⟨.ok value, same⟩
  | fail alike => exact ⟨.error alike, same⟩
  | write text _ ih =>
      simp only [inquiries] at answered
      simp only [run]
      exact ih _ _ (congrArg (fun channel => channel.write text) same) answered
  | @depth one other _ ih =>
      simp only [inquiries] at answered
      have counted : later.channel.depth = world.channel.depth :=
        congrArg Channel.depth same.symm
      have followed : Matched like (((one world.channel.depth).run around first).run world)
          (((other later.channel.depth).run around second).run later) := by
        rw [counted]
        exact ih _ _ _ same answered
      exact followed
  | lookup key fallback _ ih =>
      simp only [inquiries] at answered
      have reply := answered.head rfl world later same
      simp only [run]
      rw [Engine.run_attempted, Engine.run_attempted, ← reply.ends.eq]
      exact ih _ _ _ reply.channel answered.tail
  | invoke name args _ ih =>
      simp only [inquiries] at answered
      have reply := answered.head rfl world later same
      simp only [run]
      rw [Engine.run_attempted, Engine.run_attempted]
      exact ih _ _ reply.ends _ _ reply.channel answered.tail.right
  | capture _ _ inner ih =>
      simp only [inquiries] at answered
      have opened : world.opened.channel = later.opened.channel :=
        congrArg (fun channel => channel.begin.2) same
      have captured := Engine.matched_captured same (inner _ _ opened answered.left)
      simp only [run]
      rw [Engine.run_attempted, Engine.run_attempted]
      exact ih _ _ captured.ends _ _ captured.channel answered.right
  | render template supply _ ih =>
      simp only [inquiries] at answered
      have rendered := (template.run_tells known supply).matched same
      simp only [run]
      rw [Engine.run_attempted, Engine.run_attempted, ← rendered.ends.eq]
      exact ih _ _ _ rendered.channel answered.right
  | locate location _ ih =>
      simp only [inquiries] at answered
      simp only [run]
      exact ih _ _ _ same answered

/-- A body that goes on alike after calls that have failed alike. A page always does. -/
def Body.Indifferent (like : Fault → Fault → Prop) (catalog : Catalog) : Body → Prop
  | .program action _ => action.Alike like action
  | .page _ => True
  | .stored location => ∀ action, catalog.find? location = some action → action.Alike like action

/-- A body that may act on failures is indifferent to what is the same. -/
theorem Body.indifferent_eq (catalog : Catalog) (body : Body) : body.Indifferent Eq catalog := by
  cases body with
  | program action location => exact action.alike_eq
  | page path => trivial
  | stored location => exact fun action _ => action.alike_eq

theorem Body.run_matched (likeness : Fault.Likeness like) (catalog : Catalog)
    (files : FileTree) (reach : Nat) {first second : Bindings} (asker : Asker) (body : Body)
    (indifferent : body.Indifferent like catalog) (world : World)
    (answered : Inquiry.AnsweredAlike like first second
      (body.inquiries (catalog.within files reach) (catalog.inquiries files reach) first asker
        world)) :
    Matched like ((body.run (catalog.within files reach) first).run world)
      ((body.run (catalog.within files reach) second).run world) := by
  cases body with
  | program action location =>
      exact Action.run_matched (catalog.within_tell files reach) _ asker indifferent
        world world rfl answered
  | page path => exact run_page_matched likeness asker files path world world rfl answered
  | stored location =>
      have refused : ∀ fault : Fault, Matched like
          ((throw fault : Engine Value).run world) ((throw fault : Engine Value).run world) :=
        fun fault => ⟨.error (likeness.same fault), rfl⟩
      cases reach with
      | zero => exact refused _
      | succ reach =>
          simp only [Body.inquiries, Catalog.inquiries] at answered
          simp only [Body.run, Catalog.within, Catalog.meaning]
          cases found : catalog.find? location with
          | none => exact refused _
          | some action =>
              rw [found] at answered
              exact Action.run_matched (catalog.within_tell files reach) _ asker
                (indifferent action found) world world rfl answered

namespace Template

variable {context another : Context} {template other : Template}

/-- A key that resolves the same is answered the same. -/
theorem lookup_matched (around : Surroundings) (key : String) (fallback : Option Value)
    (resolved : (context.resolve template.defaults key fallback).2 =
      (another.resolve other.defaults key fallback).2) :
    (template.bindings around context).AnswersAlike like (other.bindings around another)
      (.value key fallback) := by
  have answers : ∀ (reply : List Question × Except Fault Value) (world : World),
      ((Engine.answer reply).run world).1 = reply.2 ∧
        ((Engine.answer reply).run world).2.channel = world.channel := by
    intro reply world
    obtain ⟨asked, outcome⟩ := reply
    cases outcome <;> exact ⟨rfl, rfl⟩
  intro world later same
  obtain ⟨ended, kept⟩ := answers (context.resolve template.defaults key fallback) world
  obtain ⟨answered, left⟩ := answers (another.resolve other.defaults key fallback) later
  constructor
  · simp only [bindings]
    rw [ended, answered, resolved]
    exact EndsAlike.same Fault.likeness_eq _
  · simp only [bindings]
    rw [kept, left, same]

/-- The same function does the same; where there is none, the refusals are alike. -/
theorem invoke_matched (likeness : Fault.Likeness like) {around : Surroundings}
    {vicinity : Vicinity} (known : around.Tell vicinity) (name : String) (args : List Value)
    (bound : template.functions.find? name = other.functions.find? name)
    (missing : template.functions.find? name = none →
      like (template.functions.missing name) (other.functions.missing name)) :
    (template.bindings around context).AnswersAlike like (other.bindings around another)
      (.call name args) := by
  intro world later same
  simp only [bindings]
  rw [call_named_found, call_named_found, ← bound]
  cases found : template.functions.find? name with
  | none => exact ⟨.error (missing found), same⟩
  | some function =>
      have ran := ((function args).run_tells known Bindings.none_tell).matched same
      exact Engine.matched_weaken likeness ran

/-- Of ends that are alike a render reports alike, wherever it is and whatever its context. -/
theorem reported_matched (likeness : Fault.Likeness like) (site another : RenderSite)
    (context given : Context) {one other : Except Fault (Value × String)}
    (alike : EndsAlike like one other) :
    AlikeRenders (reported site context one) (reported another given other) := by
  cases alike with
  | ok rendition => rfl
  | @error fault raised alike =>
      refine ⟨rfl, ?_⟩
      have told : ∀ site context (cause : Fault),
          (Fault.evaluation site context cause).causeTexts = cause.text :: cause.causeTexts :=
        fun _ _ _ => rfl
      rw [told, told, likeness.text alike, likeness.causes alike]

end Template

/-- The askings of the body of a render, without those further down. -/
def Catalog.askings (catalog : Catalog) (files : FileTree) (reach : Nat) (template : Template)
    (supply : Supply) (world : World) : List Asking :=
  ((catalog.inquiriesOf files reach template supply world).filter (·.level == 0)).map
    Inquiry.asking

theorem Template.run_alike_settings (likeness : Fault.Likeness like) (catalog : Catalog)
    (files : FileTree) (reach : Nat) (name : Option String) (body : Body)
    (indifferent : body.Indifferent like catalog)
    {supply given : Supply} {context another : Context}
    (accepted : supply.toContext = .ok context) (agreed : given.toContext = .ok another)
    (defaults others : Fields) (functions registry : Registry) (world : World)
    (reads : ∀ key fallback, .value key fallback ∈ catalog.askings files reach
        (.mk name body defaults functions) supply world →
      (context.resolve defaults key fallback).2 = (another.resolve others key fallback).2)
    (calls : ∀ called args, .call called args ∈ catalog.askings files reach
        (.mk name body defaults functions) supply world →
      functions.find? called = registry.find? called ∧
        (functions.find? called = none →
          like (functions.missing called) (registry.missing called))) :
    AlikeRenders
      (((Template.mk name body defaults functions).run (catalog.within files reach)
        supply).run world).1
      (((Template.mk name body others registry).run (catalog.within files reach)
        given).run world).1 := by
  let around := catalog.within files reach
  let template : Template := .mk name body defaults functions
  let other : Template := .mk name body others registry
  let asker : Asker :=
    ⟨context, fun called args =>
      callInquiries around (catalog.inquiries files reach) functions called args⟩
  have asked : ∀ inquiry ∈ body.inquiries around (catalog.inquiries files reach)
      (template.bindings around context) asker world.opened, inquiry.level = 0 →
      inquiry.asking ∈ catalog.askings files reach template supply world := by
    intro inquiry member own
    have listed : inquiry ∈ catalog.inquiriesOf files reach template supply world := by
      simp only [template, Catalog.inquiriesOf, Template.inquiries, accepted]
      exact member
    exact List.mem_map_of_mem (List.mem_filter.mpr ⟨listed, beq_iff_eq.mpr own⟩)
  have answered : Inquiry.AnsweredAlike like (template.bindings around context)
      (other.bindings around another) (body.inquiries around (catalog.inquiries files reach)
        (template.bindings around context) asker world.opened) := by
    intro inquiry member own
    have mine := asked inquiry member own
    obtain ⟨level, reader, asking⟩ := inquiry
    cases asking with
    | value key fallback => exact Template.lookup_matched around key fallback (reads _ _ mine)
    | call called args =>
        obtain ⟨bound, missing⟩ := calls called args mine
        exact Template.invoke_matched likeness (catalog.within_tell files reach) called args
          bound missing
  have inner := body.run_matched likeness catalog files reach asker indifferent world.opened
    answered
  have captured := Engine.matched_captured rfl inner
  rw [template.run_within around supply world context accepted,
    other.run_within around given world another agreed]
  exact Template.reported_matched likeness _ _ context another captured.ends

/-- A render ends alike in every setting in which the keys that it reads resolve the same
and the functions that it calls are the same or missing as well, whatever else there is to
read or to call. What a body can see besides are the names suggested for a missing function:
either it makes no use of them, or they are the same. -/
theorem render_follows_what_it_reads (catalog : Catalog) (files : FileTree) (reach : Nat)
    (name : Option String) (body : Body) {supply given : Supply} {context another : Context}
    (accepted : supply.toContext = .ok context) (agreed : given.toContext = .ok another)
    (defaults others : Fields) (functions registry : Registry) (world : World)
    (reads : ∀ key fallback, .value key fallback ∈ catalog.askings files reach
        (.mk name body defaults functions) supply world →
      (context.resolve defaults key fallback).2 = (another.resolve others key fallback).2)
    (calls : ∀ called args, .call called args ∈ catalog.askings files reach
        (.mk name body defaults functions) supply world →
      functions.find? called = registry.find? called)
    (unseen : body.Indifferent Fault.AlikeUnsuggested catalog ∨
      ∀ called args, .call called args ∈ catalog.askings files reach
          (.mk name body defaults functions) supply world →
        functions.find? called = none → functions.missing called = registry.missing called) :
    AlikeRenders
      (((Template.mk name body defaults functions).run (catalog.within files reach)
        supply).run world).1
      (((Template.mk name body others registry).run (catalog.within files reach)
        given).run world).1 := by
  rcases unseen with indifferent | suggested
  · apply Template.run_alike_settings Fault.likeness_unsuggested catalog files reach name body
      indifferent accepted agreed defaults others functions registry world reads
    intro called args asked
    refine ⟨calls called args asked, fun _ => ?_⟩
    have unsuggested : ∀ entries : Registry,
        (entries.missing called).unsuggested = .missingFunction called [] := fun _ => rfl
    rw [Fault.AlikeUnsuggested, unsuggested, unsuggested]
  · apply Template.run_alike_settings Fault.likeness_eq catalog files reach name body
      (body.indifferent_eq catalog) accepted agreed defaults others functions registry world reads
    intro called args asked
    exact ⟨calls called args asked, suggested called args asked⟩

def brokenService : Service where
  label := "store"
  has key := key == "x" || key == "y"
  get key := if key == "x" then .ok (.string "held") else .error (.message "out of reach")

def undeterred : Action :=
  .lookup "x" none fun reply => .invoke "gret" [] fun _ => .ofExcept reply

theorem undeterred_indifferent : undeterred.Alike Fault.AlikeUnsuggested undeterred := by
  apply Action.Alike.lookup
  intro reply
  apply Action.Alike.invoke
  intro _ _ _
  cases reply with
  | ok value => exact .done value
  | error fault => exact .fail rfl

theorem render_follows_what_it_reads_undeterred :
    let greet : Registry := [("greet", fun _ => .done .null)]
    let template := fun defaults functions =>
      Template.mk none (.program undeterred none) defaults functions
    let supply : Supply := .context (.service brokenService)
    let given : Supply := .value (.object [("x", .string "held"), ("u", .null)])
    let outcome := fun defaults functions supply =>
      (((template defaults functions).run (Catalog.empty.within FileTree.empty 0)
        supply).run World.fresh).1
    Catalog.empty.askings FileTree.empty 0 (template [("z", .null)] greet) supply World.fresh =
      [.value "x" none, .call "gret" []] ∧
    AlikeRenders (outcome [("z", .null)] greet supply) (outcome [] [] given) ∧
    outcome [("z", .null)] greet supply = .ok (.string "held", "") := by
  intro greet template supply given outcome
  have asked : Catalog.empty.askings FileTree.empty 0 (template [("z", .null)] greet) supply
      World.fresh = [.value "x" none, .call "gret" []] := rfl
  refine ⟨asked, ?_, rfl⟩
  apply render_follows_what_it_reads Catalog.empty FileTree.empty 0 none
    (.program undeterred none) rfl rfl [("z", .null)] [] greet [] World.fresh
  · intro key fallback member
    rw [asked] at member
    simp only [List.mem_cons, Asking.value.injEq, List.not_mem_nil, or_false,
      reduceCtorEq] at member
    obtain ⟨rfl, rfl⟩ := member
    rfl
  · intro called args member
    rw [asked] at member
    simp only [List.mem_cons, Asking.call.injEq, List.not_mem_nil, or_false, false_or,
      reduceCtorEq] at member
    obtain ⟨rfl, rfl⟩ := member
    rfl
  · exact .inl undeterred_indifferent

def suggesting : Action :=
  .invoke "gret" [] fun reply =>
    match reply with
    | .error (.missingFunction _ names) => .done (.string (String.intercalate ", " names))
    | outcome => .ofExcept outcome

/-- A context that is none ends a render that reads nothing; and a body may give what is
suggested for a function that is missing in both settings. -/
theorem read_alike_rendered_apart :
    let outcome := fun action functions supply =>
      (((Template.mk none (.program action none) [] functions).run
        (Catalog.empty.within FileTree.empty 0) supply).run World.fresh).1
    let asked := fun action functions supply =>
      Catalog.empty.askings FileTree.empty 0 (.mk none (.program action none) [] functions)
        supply World.fresh
    let writing : Action := .write "hi" (.done .null)
    let greet : Registry := [("greet", fun _ => .done .null)]
    (asked writing [] (.value (.bool true)) = [] ∧ asked writing [] .nothing = [] ∧
      ¬AlikeRenders (outcome writing [] (.value (.bool true))) (outcome writing [] .nothing)) ∧
    asked suggesting [] .nothing = [.call "gret" []] ∧
    Registry.find? [] "gret" = none ∧ greet.find? "gret" = none ∧
    ¬AlikeRenders (outcome suggesting [] .nothing) (outcome suggesting greet .nothing) := by
  intro outcome asked writing greet
  refine ⟨⟨rfl, rfl, ?_⟩, rfl, rfl, rfl, ?_⟩
  · exact id
  · have alone : suggestionsFor "gret" [] = [] := by decide +kernel
    have near : suggestionsFor "gret" ["greet"] = ["greet"] := by decide +kernel
    have bare : outcome suggesting [] .nothing =
        .ok (.string (String.intercalate ", " (suggestionsFor "gret" [])), "") := rfl
    have helped : outcome suggesting greet .nothing =
        .ok (.string (String.intercalate ", " (suggestionsFor "gret" ["greet"])), "") := rfl
    have apart : "" ≠ "greet" := by decide
    rw [bare, helped, alone, near]
    intro same
    exact apart (Value.string.inj (Prod.mk.inj same).1)

end Stencil
