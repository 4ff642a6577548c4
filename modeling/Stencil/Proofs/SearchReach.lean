import Stencil.Diagnosis
import Stencil.Proofs.FaultSearch
import Stencil.Proofs.LastingFault

/-!
What a search in a failed render finds. It finds the first of the causes that count, so
it misses nothing but what the body of a nested render raised with nothing in between,
and what a stand-in holds that a body passed on. A fault that is passed on as it is
through nested renders is therefore found by the render whose body raised it and by none
around that one.
-/

namespace Stencil

/-- A failure can be shown by computing it. -/
theorem exists_failure {α : Type} {outcome : Except Fault α} {tells : Fault → Prop}
    [DecidablePred tells]
    (shown : (match outcome with
      | .ok _ => false
      | .error fault => decide (tells fault)) = true) :
    ∃ fault, outcome = .error fault ∧ tells fault := by
  cases outcome with
  | ok result => cases shown
  | error fault => exact ⟨fault, rfl, of_decide_eq_true shown⟩

theorem Template.render_of_failed (around : Surroundings) (supply : Supply) (template : Template)
    (world : World) (fault : Fault)
    (failed : ((template.run around supply).run world).1 = .error fault) :
    fault.family? = some .render := by
  rcases template.run_failed around supply world fault failed with refused | evaluated
  · obtain ⟨cause, _, same⟩ := refused
    rw [same]
    rfl
  · obtain ⟨context, raised, _, _, same⟩ := evaluated
    rw [same]
    rfl

/-- What keeps a body from being run is a context of the wrong shape, and holds nothing else. -/
theorem Template.counted_of_refused (around : Surroundings) (supply : Supply) (template : Template)
    (world : World) (site : RenderSite) (cause : Fault)
    (failed : ((template.run around supply).run world).1 = .error (.setup site cause)) :
    (Fault.setup site cause).counted = [cause] ∧
      ∀ family, (Fault.setup site cause).find? family =
        [cause].find? (·.family? == some family) := by
  rcases template.run_failed around supply world _ failed with refused | evaluated
  · obtain ⟨other, shape, same⟩ := refused
    obtain ⟨found, bad⟩ := supply.refused_bad_shape other shape
    cases same
    rw [bad]
    refine ⟨rfl, fun family => ?_⟩
    cases family <;> rfl
  · obtain ⟨context, raised, _, _, same⟩ := evaluated
    cases same

/-- In a failed render a search finds the first cause that counts. -/
theorem Template.search_counted (around : Surroundings) (supply : Supply) (template : Template)
    (world : World) (fault : Fault)
    (failed : ((template.run around supply).run world).1 = .error fault)
    (family : Fault.Family) :
    fault.find? family = fault.counted.find? (·.family? == some family) := by
  have render := template.render_of_failed around supply world fault failed
  cases fault with
  | setup site cause =>
      obtain ⟨alone, first⟩ := template.counted_of_refused around supply world site cause failed
      rw [alone, first family]
  | evaluation site context raised => exact raised.reached?_counted family
  | _ => cases render

/-- A search finds the first counted cause of its family and fails only if there is none. The
causes are the parts of the fault, from the outside in, and tell one text each; those that count
come in the same order. A refused context counts alone. Of an evaluation counts what its body
raised, and every cause that has a place of its own in the chain, or is carried by a stand-in that
has one: what lies under a layer of explanation, and what a page has forwarded, with layers or
without. -/
theorem search_finds_counted (catalog : Catalog) (files : FileTree) (reach : Nat)
    (template : Template) (supply : Supply) (world : World) (fault : Fault)
    (failed : ((template.run (catalog.within files reach) supply).run world).1 =
      .error fault) (family : Fault.Family) :
    fault.find? family = fault.counted.find? (·.family? == some family) ∧
    (fault.find? family = none ↔ ∀ cause ∈ fault.counted, cause.family? ≠ some family) ∧
    fault.find? family ≠ some fault ∧
    fault.causeTexts =
      ((fault.links.map Prod.snd).filter fun part => !part.standsIn).map Fault.text ∧
    fault.counted.Sublist (fault.links.map Prod.snd) ∧
    (∀ site cause, fault = .setup site cause → fault.counted = [cause]) ∧
    ∀ site context raised, fault = .evaluation site context raised →
      (∀ part, part ∈ fault.counted ↔ part.standsIn = false ∧
        (part = raised ∨ raised = .forwarded part ∨
          fault.Places part ∨ fault.Places (.forwarded part))) ∧
      (∀ text inner, .layered text inner ∈ fault.parts → inner.standsIn = false →
        inner ∈ fault.counted) ∧
      ∀ text inner, .stage text (.forwarded inner) ∈ fault.parts → inner.standsIn = false →
        inner ∈ fault.counted := by
  have first := template.search_counted _ supply world fault failed family
  have render := template.render_of_failed _ supply world fault failed
  have own : fault.standsIn = false := by
    cases fault with
    | raised | forwarded => cases render
    | _ => rfl
  refine ⟨first, ?_, fault.find?_ne_whole family first, ?_, fault.counted_sublist, ?_, ?_⟩
  · rw [first, List.find?_eq_none]
    simp
  · have told := fault.text_cause_texts
    rw [Fault.story, Fault.parts_links, Fault.messages_own _ _ own] at told
    exact (List.cons.inj told).2
  · rintro site cause rfl
    exact (template.counted_of_refused _ supply world site cause failed).1
  · rintro site context raised rfl
    have counts := Fault.mem_counted_iff site context raised
    refine ⟨counts, ?_, ?_⟩
    · intro text inner layered own
      refine (counts inner).mpr ⟨own, .inr (.inr (.inl ⟨.layered text inner, ?_, rfl⟩))⟩
      exact Fault.links_of_part layered List.mem_cons_self
    · intro text inner forwarded own
      refine (counts inner).mpr ⟨own, .inr (.inr (.inr ⟨.stage text (.forwarded inner), ?_, rfl⟩))⟩
      exact Fault.links_of_part forwarded List.mem_cons_self

/-- A page whose function renders a template. The inner body calls a function that is not
there and says on what occasion; the function passes its failure on as it is. -/
def signing : Template :=
  .mk none (.page "letter") [] [("sign", fun _ =>
    .render (.mk none (.program (.invoke "shot" [] fun
      | .ok value => .done value
      | .error fault => .fail (.layered "while signing" fault)) none) []
        [("shout", fun _ => .done .null)]) .nothing fun
      | .ok _ => .done .null
      | .error fault => .fail fault)]

def signingFiles : FileTree :=
  { entries := [(["letter"], .file "\x7b\x7b f(name=\"sign\") \x7d\x7d".toUTF8)] }

/-- The missing function lies below a layer and is found; the layer itself, which the inner
body raised, does not count. -/
theorem search_finds_counted_signing :
    ∃ fault, ((signing.run (Catalog.empty.within signingFiles 0) .nothing).run
        World.fresh).1 = .error fault ∧
      fault.find? .missingFunction =
        fault.counted.find? (·.family? == some .missingFunction) ∧
      (fault.find? .missingFunction).map Fault.text =
        some ("Could not invoke function \"shot\": " ++
          "function does not exist or is not callable") ∧
      fault.causeTexts = ["Failed to evaluate template body: letter",
        "Failed to render '__tera_one_off'", "Function call 'f' failed",
        "\x60f\x60 could not invoke \"sign\"", "Could not render template", "while signing",
        "Could not invoke function \"shot\": function does not exist or is not callable"] ∧
      fault.counted.map Fault.text = ["Failed to evaluate template body: letter",
        "Failed to render '__tera_one_off'", "Function call 'f' failed",
        "\x60f\x60 could not invoke \"sign\"", "Could not render template",
        "Could not invoke function \"shot\": function does not exist or is not callable"] := by
  refine (exists_failure ?_).imp fun fault ⟨failed, shown⟩ => ⟨failed, ?_, shown⟩
  · decide +kernel
  · exact (search_finds_counted Catalog.empty signingFiles 0 signing .nothing World.fresh fault
      failed .missingFunction).1

def misspelled : Template :=
  .mk none (.program (.invoke "shot" [] .ofExcept) none) [] [("shout", fun _ => .done .null)]

/-- A body that passes on what a body run with its bindings has failed with, as that failed, and
says on what occasion. -/
def checking : Template :=
  .mk none (.program (.invoke "shot" [] fun
    | .ok value => .done value
    | .error fault => .fail (.layered "while checking" (.raised fault))) none) []
    [("shout", fun _ => .done .null)]

def petition : Template :=
  .mk none (.page "letter") [] [("sign", fun _ => .render misspelled .nothing fun
    | .ok _ => .done .null
    | .error fault => .fail fault)]

/-- Neither render finds the missing function. Behind the first it lies under a layer, in what
stands in for what a body raised; behind the second it lies under layers of a page, in a nested
render that was forwarded. -/
theorem passed_on_missing_function_lost :
    (∃ fault, ((checking.run (Catalog.empty.within signingFiles 0) .nothing).run
        World.fresh).1 = .error fault ∧
      (fault.find? .missingFunction).isSome = false ∧
      fault.links.map (fun link => (link.2.standsIn, link.2.text)) = [(false, "while checking"),
        (true, "Could not invoke function \"shot\": function does not exist or is not callable"),
        (false,
          "Could not invoke function \"shot\": function does not exist or is not callable")]) ∧
    ∃ fault, ((petition.run (Catalog.empty.within signingFiles 0) .nothing).run
        World.fresh).1 = .error fault ∧
      (fault.find? .missingFunction).isSome = false ∧
      fault.causeTexts = ["Failed to evaluate template body: letter",
        "Failed to render '__tera_one_off'", "Function call 'f' failed",
        "\x60f\x60 could not invoke \"sign\"", "Could not render template",
        "Could not invoke function \"shot\": function does not exist or is not callable"] := by
  constructor
  · exact exists_failure (by decide +kernel)
  · exact exists_failure (by decide +kernel)

/-- Runs in which the body of a template fails with what a render inside it has failed with,
be that in the body or in a function, and so on down to a body that raises a fault. -/
inductive Nesting (raised : Fault) :
    List (RenderSite × ContextSummary) → Surroundings → Template → Supply → World → Prop where
  | body (around : Surroundings) (template : Template) (supply : Supply) (world : World)
      (context : Context) (accepted : supply.toContext = .ok context)
      (ended : ((template.body.run around (template.bindings around context)).run
        world.opened).1 = .error raised) :
      Nesting raised [(template.site, context.summary)] around template supply world
  | passed (around : Surroundings) (template : Template) (supply : Supply) (world : World)
      (context : Context) (accepted : supply.toContext = .ok context)
      (renders : List (RenderSite × ContextSummary)) (nearby : Surroundings) (inner : Template)
      (given : Supply) (within : World) (below : Nesting raised renders nearby inner given within)
      (ended : ∀ fault, ((inner.run nearby given).run within).1 = .error fault →
        ((template.body.run around (template.bindings around context)).run world.opened).1 =
          .error fault) :
      Nesting raised ((template.site, context.summary) :: renders) around template supply world

theorem Nesting.fails {raised : Fault} {renders : List (RenderSite × ContextSummary)}
    {around : Surroundings} {template : Template} {supply : Supply} {world : World}
    (nested : Nesting raised renders around template supply world) :
    ((template.run around supply).run world).1 = .error (raised.behind renders) := by
  induction nested with
  | body around template supply world context accepted ended =>
      exact template.run_raises around supply world context accepted raised ended
  | passed around template supply world context accepted renders nearby inner given within below
      ended ih =>
      exact template.run_raises around supply world context accepted _ (ended _ ih)

theorem Nesting.some_render {raised : Fault} {renders : List (RenderSite × ContextSummary)}
    {around : Surroundings} {template : Template} {supply : Supply} {world : World}
    (nested : Nesting raised renders around template supply world) :
    ∃ context rest, renders = (template.site, context) :: rest := by
  cases nested with
  | body _ _ _ _ context _ _ => exact ⟨context.summary, [], rfl⟩
  | passed _ _ _ _ context _ rest _ _ _ _ _ _ => exact ⟨context.summary, rest, rfl⟩

/-- What a body raises is found by its own render. If that render fails inside another one
and its failure is passed on as it is, however often, the outermost one finds only what
lies behind the fault. So for a function that is missing there is no hint in the report
and no advice to call another one. -/
theorem raised_found_by_own_render {raised : Fault}
    {renders : List (RenderSite × ContextSummary)} {around : Surroundings} {template : Template}
    {supply : Supply} {world : World}
    (nested : Nesting raised renders around template supply world) (family : Fault.Family)
    (typed : raised.family? = some family) (other : family ≠ .render) :
    ∃ fault, ((template.run around supply).run world).1 = .error fault ∧
      (renders.length = 1 → fault.find? family = some raised) ∧
      (1 < renders.length → fault.find? family =
        (raised.causes.map Fault.seen).find? (·.family? == some family)) ∧
      (1 < renders.length → family = .missingFunction →
        fault.find? .missingFunction = none ∧ fault.hintLines template.site = "" ∧
        ∀ context, fault.renderSuggestion ≠
          (Fault.evaluation template.site context raised).renderSuggestion) := by
  refine ⟨raised.behind renders, nested.fails, ?_⟩
  obtain ⟨context, rest, shape⟩ := nested.some_render
  have beyond : 1 < renders.length → (raised.behind renders).find? family =
      (raised.causes.map Fault.seen).find? (·.family? == some family) := by
    intro deep
    rw [shape] at deep ⊢
    cases rest with
    | nil => exact absurd deep (Nat.lt_irrefl 1)
    | cons render others => exact Fault.reached?_behind render others raised family other
  refine ⟨?_, beyond, ?_⟩
  · intro alone
    rw [shape] at alone ⊢
    cases rest with
    | nil => exact Fault.reached?_typed typed
    | cons render others => cases alone
  · intro deep missing
    subst missing
    have nothing : (raised.behind renders).find? .missingFunction = none := by
      rw [beyond deep]
      cases raised with
      | missingFunction name suggestions => rfl
      | _ => cases typed
    refine ⟨nothing, ?_, ?_⟩
    · simp only [Fault.hintLines, nothing]
    · intro summary
      have found : (Fault.evaluation template.site summary raised).find? .missingFunction =
          some raised := Fault.reached?_typed typed
      simp only [Fault.renderSuggestion, nothing, found]
      split
      · rename_i impossible
        cases impossible
      · decide
      · decide

def relaying : Template :=
  .mk none (.program (.render misspelled .nothing fun
    | .ok rendition => .write rendition.2 (.done .null)
    | .error fault => .fail fault) none) [] [("shout", fun _ => .done .null)]

theorem relaying_nests (around : Surroundings) (world : World) :
    Nesting (.missingFunction "shot" ["shout"])
      [(relaying.site, Context.empty.summary), (misspelled.site, Context.empty.summary)]
      around relaying .nothing world := by
  apply Nesting.passed around relaying .nothing world .empty rfl _ around misspelled .nothing
    world.opened
  · apply Nesting.body around misspelled .nothing world.opened .empty rfl
    have suggested : suggestionsFor "shot" ["shout"] = ["shout"] := by decide +kernel
    have missing : Registry.missing misspelled.functions "shot" =
        .missingFunction "shot" ["shout"] := congrArg (Fault.missingFunction "shot") suggested
    exact congrArg Except.error missing
  · intro fault failed
    change (((Action.render misspelled .nothing _).run around _).run world.opened).1 = _
    rw [Action.run, Engine.run_attempted, failed]
    rfl

theorem raised_found_by_own_render_relaying :
    let around := Catalog.empty.surroundings FileTree.empty
    let raised := Fault.missingFunction "shot" ["shout"]
    let renders := [(relaying.site, Context.empty.summary),
      (misspelled.site, Context.empty.summary)]
    (Nesting raised renders around relaying .nothing World.fresh ∧
      raised.family? = some .missingFunction ∧ Fault.Family.missingFunction ≠ .render) ∧
    ∃ fault, ((relaying.run around .nothing).run World.fresh).1 = .error fault ∧
      fault.find? .missingFunction = none ∧ fault.hintLines relaying.site = "" := by
  intro around raised renders
  have nested := relaying_nests around World.fresh
  obtain ⟨fault, failed, _, _, lost⟩ :=
    raised_found_by_own_render nested .missingFunction rfl (by decide)
  obtain ⟨nothing, silent, _⟩ := lost (by decide) rfl
  exact ⟨⟨nested, rfl, by decide⟩, fault, failed, nothing, silent⟩

/-- The same body alone is found to have called a wrong name, and behind one more render
it is not. -/
theorem relaying_hides_missing_function :
    let around := Catalog.empty.surroundings FileTree.empty
    (∃ fault, ((misspelled.run around .nothing).run World.fresh).1 = .error fault ∧
      (fault.find? .missingFunction).isSome = true ∧
      fault.hintLines misspelled.site = "\nDid you mean: shout?\n") ∧
    ∃ fault, ((relaying.run around .nothing).run World.fresh).1 = .error fault ∧
      (fault.find? .missingFunction).isSome = false ∧ fault.hintLines relaying.site = "" := by
  constructor
  · exact exists_failure (by decide +kernel)
  · exact exists_failure (by decide +kernel)

end Stencil
