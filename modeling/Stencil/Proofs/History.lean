import Mathlib.Data.List.Induction
import Stencil.Factory
import Stencil.Proofs.Account
import Stencil.Proofs.FaultSearch
import Stencil.Proofs.RenderFailure

/-!
Histories of catalogs, files and templates. Nothing is kept from one use to the next but
what was put there: a template renders the body that its location has at that moment, and
what a catalog holds at a location is what the last insertion or removal there has left,
through whichever handle and however the location was spelled.
-/

namespace Stencil

namespace Catalog

theorem same_location_iff (a b : String) :
    sameLocation a b = true ↔ Path.parts a = Path.parts b := by
  rw [sameLocation, beq_iff_eq]

theorem same_location_trans {a b : String} (same : sameLocation a b = true) (other : String) :
    sameLocation b other = sameLocation a other := by
  rw [sameLocation, sameLocation, (same_location_iff a b).mp same]

theorem same_location_comm (a b : String) : sameLocation a b = sameLocation b a :=
  BEq.comm

theorem find?_same (catalog : Catalog) {a b : String} (same : sameLocation a b = true) :
    catalog.find? a = catalog.find? b := by
  have parts := (same_location_iff a b).mp same
  simp only [find?, sameLocation, parts]

theorem find?_eq_none_iff (catalog : Catalog) (location : String) :
    catalog.find? location = none ↔
      ∀ entry ∈ catalog.bodies, sameLocation entry.1 location = false := by
  simp [find?]

theorem contains_eq (catalog : Catalog) (location : String) :
    catalog.contains location = (catalog.find? location).isSome := rfl

/-- An insertion is found at every spelling of its location and nowhere else. -/
theorem find?_insert (catalog : Catalog) (place : String) (body : Action) (location : String) :
    (catalog.insert place body).find? location =
      if sameLocation place location then some body else catalog.find? location := by
  cases held : catalog.contains place with
  | true =>
      rw [insert, if_pos held, find?, List.find?_map, Option.map_map]
      have keeps : ((fun entry : String × Action => sameLocation entry.1 location) ∘
          fun entry => if sameLocation entry.1 place then (entry.1, body) else entry) =
          fun entry => sameLocation entry.1 location := by
        funext entry
        dsimp only [Function.comp_apply]
        split <;> rfl
      rw [keeps]
      cases found : catalog.bodies.find? fun entry => sameLocation entry.1 location with
      | none =>
          have nothing : catalog.find? location = none := by rw [find?, found]; rfl
          rw [nothing]
          split
          next same => simp [contains_eq, catalog.find?_same same, nothing] at held
          next => rfl
      | some entry =>
          have there : sameLocation entry.1 location = true := by
            simpa using List.find?_some found
          have whole : catalog.find? location = some entry.2 := by rw [find?, found]; rfl
          rw [whole, same_location_comm place location, same_location_trans there place]
          dsimp only [Option.map_some, Function.comp_apply]
          split <;> rfl
  | false =>
      rw [insert, if_neg (by simp [held]), find?, List.find?_append, Option.map_or]
      have nothing : catalog.find? place = none := by simpa [contains_eq] using held
      cases same : sameLocation place location with
      | true =>
          rw [← find?, ← catalog.find?_same same, nothing]
          simp [same]
      | false =>
          rw [← find?]
          simp [same]

theorem find?_remove (catalog : Catalog) (place location : String) :
    (catalog.remove place).find? location =
      if sameLocation place location then none else catalog.find? location := by
  rw [remove, find?, List.find?_filter]
  split
  next same =>
    rw [Option.map_eq_none_iff, List.find?_eq_none]
    intro entry _
    simp [same_location_comm entry.1, same_location_trans same]
  next other =>
    rw [find?]
    congr 2
    funext entry
    cases there : sameLocation entry.1 location with
    | false => simp
    | true =>
        rw [← same_location_trans there, same_location_comm location]
        simpa using other

/-- No two bodies of a catalog are at the same location. -/
def Distinct (catalog : Catalog) : Prop :=
  catalog.bodies.Pairwise fun one other => sameLocation one.1 other.1 = false

theorem Distinct.insert {catalog : Catalog} (distinct : catalog.Distinct) (place : String)
    (body : Action) : (catalog.insert place body).Distinct := by
  cases held : catalog.contains place with
  | true =>
      rw [Catalog.insert, if_pos held, Distinct, List.pairwise_map]
      apply distinct.imp
      intro one other apart
      split <;> split <;> exact apart
  | false =>
      rw [Catalog.insert, if_neg (by simp [held]), Distinct, List.pairwise_append]
      have nothing : catalog.find? place = none := by simpa [contains_eq] using held
      refine ⟨distinct, List.pairwise_singleton _ _, ?_⟩
      intro one there other only
      rw [List.mem_singleton.mp only]
      exact (catalog.find?_eq_none_iff place).mp nothing one there

theorem Distinct.remove {catalog : Catalog} (distinct : catalog.Distinct) (place : String) :
    (catalog.remove place).Distinct :=
  List.Pairwise.filter _ distinct

end Catalog

/-- A handle on a catalog. The handles on one catalog are clones of one another and differ
in their number alone; what is done through one of them is done to the catalog. -/
structure Handle where
  catalog : Nat
  clone : Nat

structure Made where
  handle : Handle
  factory : Factory
  location : String
  template : Template

/-- What a program holds that makes and renders templates. -/
structure Workshop where
  catalogs : Nat → Catalog
  files : FileTree
  made : List Made
  world : World

inductive Use where
  | insert (handle : Handle) (location : String) (body : Action)
  | remove (handle : Handle) (location : String)
  | contains (handle : Handle) (location : String)
  /-- Any operation on files, be it a write or a deletion. -/
  | files (operation : FileTree → Except FileError FileTree)
  | make (handle : Handle) (factory : Factory) (location : String)
  /-- Renders one of the templates made so far, by its number. -/
  | render (number : Nat) (supply : Supply)

inductive Answer where
  | done
  | held (held : Bool)
  | fileError (error : FileError)
  | made (outcome : Except Fault Template)
  | rendered (outcome : Except Fault (Value × String))
  | noTemplate

namespace Workshop

def start (files : FileTree) (world : World) : Workshop :=
  ⟨fun _ => Catalog.empty, files, [], world⟩

def change (shop : Workshop) (handle : Handle) (operation : Catalog → Catalog) : Workshop :=
  { shop with catalogs := fun catalog =>
      if catalog = handle.catalog then operation (shop.catalogs catalog)
      else shop.catalogs catalog }

def render (shop : Workshop) (handle : Handle) (template : Template) (supply : Supply) :
    Except Fault (Value × String) × World :=
  (template.run ((shop.catalogs handle.catalog).surroundings shop.files) supply).run shop.world

def step (shop : Workshop) : Use → Answer × Workshop
  | .insert handle location body => (.done, shop.change handle (·.insert location body))
  | .remove handle location =>
      (.held ((shop.catalogs handle.catalog).contains location),
        shop.change handle (·.remove location))
  | .contains handle location =>
      (.held ((shop.catalogs handle.catalog).contains location), shop)
  | .files operation =>
      match operation shop.files with
      | .ok files => (.done, { shop with files })
      | .error error => (.fileError error, shop)
  | .make handle factory location =>
      match factory.template (shop.catalogs handle.catalog) location with
      | .ok template =>
          (.made (.ok template),
            { shop with made := shop.made ++ [⟨handle, factory, location, template⟩] })
      | .error fault => (.made (.error fault), shop)
  | .render number supply =>
      match shop.made[number]? with
      | none => (.noTemplate, shop)
      | some made =>
          let (outcome, world) := shop.render made.handle made.template supply
          (.rendered outcome, { shop with world })

def after (shop : Workshop) (uses : List Use) : Workshop :=
  uses.foldl (fun shop use => (shop.step use).2) shop

end Workshop

/-- What a use puts at a location of a catalog, be it a body or nothing, if it changes it. -/
def Use.puts? (catalog : Nat) (location : String) : Use → Option (Option Action)
  | .insert handle place body =>
      if handle.catalog = catalog ∧ Catalog.sameLocation place location then some (some body)
      else none
  | .remove handle place =>
      if handle.catalog = catalog ∧ Catalog.sameLocation place location then some none else none
  | _ => none

/-- What the most recent insertion or removal at a location has put there. -/
def latest (uses : List Use) (catalog : Nat) (location : String) : Option Action :=
  (uses.filterMap (Use.puts? catalog location)).getLast?.getD none

def Use.isRender : Use → Bool
  | .render .. => true
  | _ => false

theorem latest_append (uses : List Use) (use : Use) (catalog : Nat) (location : String) :
    latest (uses ++ [use]) catalog location =
      (use.puts? catalog location).getD (latest uses catalog location) := by
  rw [latest, List.filterMap_append]
  cases puts : use.puts? catalog location <;> simp [puts, latest]

namespace Workshop

theorem after_append (shop : Workshop) (uses : List Use) (use : Use) :
    shop.after (uses ++ [use]) = ((shop.after uses).step use).2 := by
  rw [after, List.foldl_append]
  rfl

/-- A use changes what a catalog holds at a location as far as it puts something there. -/
theorem step_find? (shop : Workshop) (use : Use) (catalog : Nat) (location : String) :
    ((shop.step use).2.catalogs catalog).find? location =
      (use.puts? catalog location).getD ((shop.catalogs catalog).find? location) := by
  cases use with
  | insert handle place body =>
      by_cases here : catalog = handle.catalog
      · subst here
        simp only [step, change, if_true, Catalog.find?_insert, Use.puts?, true_and]
        split <;> rfl
      · simp [step, change, Use.puts?, here, Ne.symm here]
  | remove handle place =>
      by_cases here : catalog = handle.catalog
      · subst here
        simp only [step, change, if_true, Catalog.find?_remove, Use.puts?, true_and]
        split <;> rfl
      · simp [step, change, Use.puts?, here, Ne.symm here]
  | contains handle place => rfl
  | files operation =>
      simp only [step]
      split <;> rfl
  | make handle factory place =>
      simp only [step]
      split <;> rfl
  | render number supply =>
      simp only [step]
      split <;> rfl

theorem after_find? (files : FileTree) (world : World) (uses : List Use) (catalog : Nat)
    (location : String) :
    (((start files world).after uses).catalogs catalog).find? location =
      latest uses catalog location := by
  induction uses using List.reverseRecOn with
  | nil => rfl
  | append_singleton uses use ih => rw [after_append, step_find?, latest_append, ih]

theorem step_distinct (shop : Workshop) (use : Use)
    (distinct : ∀ catalog, (shop.catalogs catalog).Distinct) (catalog : Nat) :
    ((shop.step use).2.catalogs catalog).Distinct := by
  cases use with
  | insert handle place body =>
      simp only [step, change]
      split
      next => exact (distinct catalog).insert place body
      next => exact distinct catalog
  | remove handle place =>
      simp only [step, change]
      split
      next => exact (distinct catalog).remove place
      next => exact distinct catalog
  | contains handle place => exact distinct catalog
  | files operation =>
      simp only [step]
      split <;> exact distinct catalog
  | make handle factory place =>
      simp only [step]
      split <;> exact distinct catalog
  | render number supply =>
      simp only [step]
      split <;> exact distinct catalog

theorem after_distinct (files : FileTree) (world : World) (uses : List Use) (catalog : Nat) :
    (((start files world).after uses).catalogs catalog).Distinct := by
  induction uses using List.reverseRecOn generalizing catalog with
  | nil => exact List.Pairwise.nil
  | append_singleton uses use ih =>
      rw [after_append]
      exact step_distinct _ use ih catalog

end Workshop

def Made.Genuine (made : Made) : Prop :=
  ∃ catalog, made.factory.template catalog made.location = .ok made.template

namespace Workshop

theorem step_genuine (shop : Workshop) (use : Use) (genuine : ∀ made ∈ shop.made, made.Genuine) :
    ∀ made ∈ (shop.step use).2.made, made.Genuine := by
  cases use with
  | insert handle place body => exact genuine
  | remove handle place => exact genuine
  | contains handle place => exact genuine
  | files operation =>
      simp only [step]
      split <;> exact genuine
  | make handle factory place =>
      simp only [step]
      split
      next template new =>
        intro made member
        rcases List.mem_append.mp member with old | only
        · exact genuine made old
        · rw [List.mem_singleton.mp only]
          exact ⟨_, new⟩
      next => exact genuine
  | render number supply =>
      simp only [step]
      split <;> exact genuine

theorem after_genuine (files : FileTree) (world : World) (uses : List Use) :
    ∀ made ∈ ((start files world).after uses).made, made.Genuine := by
  induction uses using List.reverseRecOn with
  | nil => exact nofun
  | append_singleton uses use ih =>
      rw [after_append]
      exact step_genuine _ use ih

theorem step_render (shop : Workshop) (number : Nat) (supply : Supply) (world : World) :
    { (shop.step (.render number supply)).2 with world } = { shop with world } := by
  simp only [step]
  split <;> rfl

theorem step_in_world (shop : Workshop) (use : Use) (still : use.isRender = false)
    (world : World) :
    ({ shop with world }.step use).2 = { (shop.step use).2 with world } := by
  cases use with
  | files operation =>
      simp only [step]
      split <;> rfl
  | make handle factory place =>
      simp only [step]
      split <;> rfl
  | render number supply => cases still
  | _ => rfl

/-- Renders can be left out of a history: they change no catalog, no file and no template. -/
theorem after_without_renders (files : FileTree) (world : World) (uses : List Use) :
    (start files world).after (uses.filter fun use => !use.isRender) =
      { (start files world).after uses with world } := by
  induction uses using List.reverseRecOn with
  | nil => rfl
  | append_singleton uses use ih =>
      rw [List.filter_append, after_append]
      cases kind : use.isRender with
      | false =>
          have kept : [use].filter (fun use => !use.isRender) = [use] := by simp [kind]
          rw [kept, after_append, ih, step_in_world _ use kind]
      | true =>
          have dropped : [use].filter (fun use => !use.isRender) = [] := by simp [kind]
          rw [dropped, List.append_nil, ih]
          cases use with
          | render number supply => exact (step_render _ number supply world).symm
          | _ => cases kind

end Workshop

theorem Factory.template_catalog (factory : Factory) (source : factory.source = .catalog)
    (catalog : Catalog) (location : String) :
    factory.template catalog location =
      if (catalog.find? location).isSome then
        .ok (.mk (some location) (.stored location) factory.defaults factory.functions)
      else .error (.unknownLocation location) := by
  rw [template, source, BodySource.body, Catalog.contains_eq]
  split <;> rfl

theorem Factory.template_pages (factory : Factory) (source : factory.source ≠ .catalog)
    (one other : Catalog) (location : String) :
    factory.template one location = factory.template other location := by
  unfold template
  cases kind : factory.source with
  | catalog => exact absurd kind source
  | pages base => rfl

/-- A stored template has for its body whatever the catalog holds at its location. -/
theorem Factory.template_stored {factory : Factory} (source : factory.source = .catalog)
    {catalog : Catalog} {location : String} {template : Template}
    (made : factory.template catalog location = .ok template) :
    template = .mk (some location) (.stored location) factory.defaults factory.functions := by
  rw [factory.template_catalog source] at made
  split at made
  · exact (Except.ok.inj made).symm
  · cases made

/-- A made template is made alike again whenever it can be. -/
theorem Made.Genuine.again {made : Made} (genuine : made.Genuine) {catalog : Catalog}
    {fresh : Template} (again : made.factory.template catalog made.location = .ok fresh) :
    fresh = made.template := by
  obtain ⟨earlier, first⟩ := genuine
  by_cases source : made.factory.source = .catalog
  · rw [Factory.template_stored source first, Factory.template_stored source again]
  · rw [made.factory.template_pages source earlier catalog, again] at first
    exact Except.ok.inj first

theorem Template.run_refused (around : Surroundings) (supply : Supply) (template : Template)
    (world : World) (fault : Fault) (refused : supply.toContext = .error fault) :
    ((template.run around supply).run world).1 = .error (.setup template.site fault) := by
  obtain ⟨name, body, defaults, functions⟩ := template
  rw [Template.run, refused]
  rfl

/-- A render ends as its body does under a capture. -/
theorem Template.run_reported (around : Surroundings) (supply : Supply) (template : Template)
    (world : World) (context : Context) (accepted : supply.toContext = .ok context) :
    ((template.run around supply).run world).1 =
      reported template.site context ((Engine.captured
        (template.body.run around (template.bindings around context))).run world).1 := by
  rw [template.run_within around supply world context accepted]

theorem Catalog.stored_held (catalog : Catalog) (files : FileTree) (location : String)
    (body : Action) (held : catalog.find? location = some body) (bindings : Bindings) :
    (catalog.surroundings files).stored location bindings =
      body.run (catalog.within files (maxStoredDepth - 1)) bindings := by
  change catalog.meaning files (1999 + 1) location bindings = _
  rw [meaning, held]
  rfl

theorem Catalog.stored_unknown (catalog : Catalog) (files : FileTree) (location : String)
    (nothing : catalog.find? location = none) (bindings : Bindings) :
    (catalog.surroundings files).stored location bindings = throw (.unknownLocation location) := by
  change catalog.meaning files (1999 + 1) location bindings = _
  rw [meaning, nothing]

namespace Workshop

structure Answers (shop : Workshop) (handle : Handle) (location : String)
    (held : Option Action) : Prop where
  contains : (shop.step (.contains handle location)).1 = .held held.isSome
  remove : (shop.step (.remove handle location)).1 = .held held.isSome
  make : ∀ factory : Factory, factory.source = .catalog →
    (shop.step (.make handle factory location)).1 = .made (
      if held.isSome then
        .ok (.mk (some location) (.stored location) factory.defaults factory.functions)
      else .error (.unknownLocation location))

/-- A template made earlier renders as one does that is made now, through any handle on the
same catalog: the answers agree, and so does all that is there afterwards. -/
def RendersFresh (shop : Workshop) (number : Nat) (made : Made) : Prop :=
  ∀ handle : Handle, handle.catalog = made.handle.catalog → ∀ fresh,
    (shop.step (.make handle made.factory made.location)).1 = .made (.ok fresh) →
    let later := (shop.step (.make handle made.factory made.location)).2
    ∀ supply,
      later.step (.render number supply) = later.step (.render shop.made.length supply) ∧
      (later.step (.render number supply)).1 = (shop.step (.render number supply)).1

structure RendersHeld (shop : Workshop) (number : Nat) (made : Made) (held : Option Action) :
    Prop where
  refused : ∀ supply fault, supply.toContext = .error fault →
    (shop.step (.render number supply)).1 = .rendered (.error (.setup made.template.site fault))
  unknown : held = none → ∀ supply context, supply.toContext = .ok context →
    ∃ fault, (shop.step (.render number supply)).1 = .rendered (.error fault) ∧
      fault = .evaluation made.template.site context.summary (.unknownLocation made.location) ∧
      fault.find? .factory = some (.unknownLocation made.location)
  runs : ∀ body, held = some body → ∀ supply context, supply.toContext = .ok context →
    let catalog := shop.catalogs made.handle.catalog
    let bindings := made.template.bindings (catalog.surroundings shop.files) context
    (shop.step (.render number supply)).1 = .rendered (reported made.template.site context
      ((Engine.captured (body.run (catalog.within shop.files (maxStoredDepth - 1))
        bindings)).run shop.world).1)

theorem answers_found (shop : Workshop) (handle : Handle) (location : String) :
    shop.Answers handle location ((shop.catalogs handle.catalog).find? location) where
  contains := rfl
  remove := rfl
  make factory source := by
    simp only [step]
    rw [factory.template_catalog source]
    split <;> split <;> simp_all

theorem step_make (shop : Workshop) (handle : Handle) (factory : Factory) (location : String)
    (template : Template)
    (made : factory.template (shop.catalogs handle.catalog) location = .ok template) :
    shop.step (.make handle factory location) =
      (.made (.ok template),
        { shop with made := shop.made ++ [⟨handle, factory, location, template⟩] }) := by
  simp only [step, made]

theorem step_render_of (shop : Workshop) (number : Nat) (made : Made)
    (there : shop.made[number]? = some made) (supply : Supply) :
    shop.step (.render number supply) =
      (.rendered (shop.render made.handle made.template supply).1,
        { shop with world := (shop.render made.handle made.template supply).2 }) := by
  simp only [step, there]

theorem renders_fresh (shop : Workshop) (number : Nat) (made : Made)
    (there : shop.made[number]? = some made) (genuine : made.Genuine) :
    shop.RendersFresh number made := by
  intro handle clone fresh answer
  have again : made.factory.template (shop.catalogs handle.catalog) made.location = .ok fresh := by
    simp only [step] at answer
    split at answer
    next template new =>
      rw [new]
      exact Answer.made.inj answer
    next => cases Answer.made.inj answer
  have same := genuine.again again
  subst same
  rw [shop.step_make handle made.factory made.location _ again]
  intro later supply
  have old : later.made[number]? = some made := by
    rw [← there]
    exact List.getElem?_append_left (List.getElem?_eq_some_iff.mp there).1
  have new : later.made[shop.made.length]? =
      some ⟨handle, made.factory, made.location, made.template⟩ := List.getElem?_concat_length
  rw [later.step_render_of number made old, later.step_render_of _ _ new,
    shop.step_render_of number made there]
  simp only [render, clone]
  exact ⟨trivial, rfl⟩

theorem renders_held (shop : Workshop) (number : Nat) (made : Made)
    (there : shop.made[number]? = some made) (genuine : made.Genuine)
    (source : made.factory.source = .catalog) :
    shop.RendersHeld number made
      ((shop.catalogs made.handle.catalog).find? made.location) := by
  obtain ⟨handle, factory, location, template⟩ := made
  obtain ⟨earlier, first⟩ := genuine
  have stored : template.body = .stored location :=
    congrArg Template.body (Factory.template_stored source first)
  constructor
  · intro supply fault refused
    rw [shop.step_render_of number _ there]
    exact congrArg Answer.rendered (template.run_refused _ supply shop.world fault refused)
  · intro nothing supply context accepted
    refine ⟨_, ?_, rfl, rfl⟩
    rw [shop.step_render_of number _ there]
    apply congrArg Answer.rendered
    apply template.run_raises _ supply shop.world context accepted
    rw [stored, Body.run, Catalog.stored_unknown _ _ _ nothing]
    rfl
  · intro body held supply context accepted catalog bindings
    rw [shop.step_render_of number _ there]
    apply congrArg Answer.rendered
    rw [render, template.run_reported _ supply shop.world context accepted, stored, Body.run,
      Catalog.stored_held _ _ _ _ held]

end Workshop

/-- The templates of a history render as fresh ones do, and what a catalog holds is what
was last put there. Where it holds nothing, a render with a proper context fails in the
evaluation, for a location that is not known; a body that is put there again is the one
that runs. Renders change nothing of this. -/
theorem renders_follow_history (files : FileTree) (world : World) (uses : List Use) :
    let shop := (Workshop.start files world).after uses
    (∀ handle location, shop.Answers handle location (latest uses handle.catalog location)) ∧
    (∀ catalog, (shop.catalogs catalog).Distinct) ∧
    (∀ number made, shop.made[number]? = some made →
      shop.RendersFresh number made ∧
      (made.factory.source ≠ .catalog →
        (shop.step (.make made.handle made.factory made.location)).1 =
          .made (.ok made.template)) ∧
      (made.factory.source = .catalog →
        shop.RendersHeld number made (latest uses made.handle.catalog made.location) ∧
        ∀ handle place body, handle.catalog = made.handle.catalog →
          Catalog.sameLocation place made.location = true →
          (shop.step (.insert handle place body)).2.RendersHeld number made (some body))) ∧
    (Workshop.start files world).after (uses.filter fun use => !use.isRender) =
      { shop with world } := by
  intro shop
  have found := Workshop.after_find? files world uses
  refine ⟨?_, Workshop.after_distinct files world uses, ?_,
    Workshop.after_without_renders files world uses⟩
  · intro handle location
    rw [← found]
    exact shop.answers_found handle location
  · intro number made there
    have genuine := Workshop.after_genuine files world uses made (List.mem_of_getElem? there)
    refine ⟨shop.renders_fresh number made there genuine, ?_, ?_⟩
    · intro source
      obtain ⟨earlier, first⟩ := genuine
      rw [made.factory.template_pages source earlier (shop.catalogs made.handle.catalog)] at first
      rw [shop.step_make _ _ _ _ first]
    · intro source
      constructor
      · rw [← found]
        exact shop.renders_held number made there genuine source
      · intro handle place body clone same
        have put : ((shop.step (.insert handle place body)).2.catalogs
            made.handle.catalog).find? made.location = some body := by
          rw [Workshop.step_find?, Use.puts?, if_pos ⟨clone, same⟩]
          rfl
        rw [← put]
        exact Workshop.renders_held _ number made there genuine source

/-- A body that writes a word, and a history in which one body gives way to another: the
first is removed through a clone and by another spelling, and rendered while it is gone. -/
def saying (word : String) : Action := .write word (.done .null)

def moving : List Use :=
  [.insert ⟨0, 0⟩ "mail/hello" (saying "old"), .make ⟨0, 0⟩ ⟨.catalog, [], []⟩ "mail/hello",
    .render 0 .nothing, .remove ⟨0, 1⟩ "mail//hello/", .render 0 .nothing,
    .insert ⟨0, 1⟩ "mail/./hello" (saying "new")]

theorem renders_follow_history_moving :
    let shop := (Workshop.start FileTree.empty World.fresh).after moving
    let stored : Made := ⟨⟨0, 0⟩, ⟨.catalog, [], []⟩, "mail/hello",
      .mk (some "mail/hello") (.stored "mail/hello") [] []⟩
    (shop.made[0]? = some stored ∧ stored.factory.source = .catalog) ∧
    latest moving 0 "mail/hello" = some (saying "new") ∧
    (shop.step (.remove ⟨0, 2⟩ "mail/hello")).1 = .held true ∧
    shop.RendersHeld 0 stored (some (saying "new")) ∧
    (shop.step (.render 0 .nothing)).1 = .rendered (.ok (.null, "new")) := by
  intro shop stored
  have newest : latest moving 0 "mail/hello" = some (saying "new") := by rfl
  obtain ⟨answers, _, renders, _⟩ :=
    renders_follow_history FileTree.empty World.fresh moving
  have removed := (answers ⟨0, 2⟩ "mail/hello").remove
  have held := ((renders 0 stored rfl).2.2 rfl).1
  rw [newest] at removed held
  exact ⟨⟨rfl, rfl⟩, newest, removed, held, by rfl⟩

/-- A template whose body is gone does not always fail for its location. Rendered with what
is no context, it fails before it looks for a body. -/
theorem gone_body_behind_refused_context :
    let uses : List Use := [.insert ⟨0, 0⟩ "hello" (saying "old"),
      .make ⟨0, 0⟩ ⟨.catalog, [], []⟩ "hello", .remove ⟨0, 0⟩ "hello"]
    let shop := (Workshop.start FileTree.empty World.fresh).after uses
    latest uses 0 "hello" = none ∧
    ∃ fault, (shop.step (.render 0 (.value (.bool true)))).1 = .rendered (.error fault) ∧
      fault.find? .factory = none ∧
      ∀ site context cause, fault ≠ .evaluation site context cause := by
  refine ⟨rfl, _, rfl, rfl, nofun⟩

end Stencil
