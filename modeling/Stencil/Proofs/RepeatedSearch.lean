import Stencil.Proofs.SearchReach
import Stencil.Proofs.VisitedRenders

/-!
Which failed renders searches visit that each start from the one found last: all inside the
fault but those that are hidden in a stand-in which a body has passed on. Every one of them has
taken place in the run, unless it was held on to from elsewhere, and the last one visited knows
what its body has raised.
-/

namespace Stencil

theorem FailedRender.searched (render : FailedRender) : render.fault.Searched :=
  render.template.search_counted render.around render.supply render.world render.fault
    render.failed

/-- Whatever bodies and functions do with a failure they are told of, searches that each
start from the failed render found last visit the failed renders inside the fault from the
outside in and each once: all of them but the hidden ones, so all of them where no body or
function has put up a stand-in of its own. Each of them took place in the run, or elsewhere if it
was held on to, and names the template that failed there. Whatever the body of the last one
visited raised is found there by its type, also under layers of explanation and also if the
outermost render does not find it; and if none is hidden, everything inside it is. -/
theorem repeated_search_visits_renders (elsewhere : FailedRender → Prop) (catalog : Catalog)
    (files : FileTree) (reach : Nat) (template : Template) (supply : Supply) (world : World)
    (fault : Fault) (stocked : catalog.Candid elsewhere) (made : template.Candid elsewhere)
    (given : supply.Candid elsewhere)
    (failed : ((template.run (catalog.within files reach) supply).run world).1 =
      .error fault) :
    fault.Visits fault.visited ∧
    fault.visited.Sublist fault.nested ∧
    (∀ render ∈ fault.nested, render ∈ fault.visited ↔ ¬fault.Hidden render) ∧
    (fault :: fault.nested).Pairwise (fun outer inner =>
      inner ∈ outer.links.map Prod.snd ∧ inner ≠ outer) ∧
    (∀ render ∈ fault :: fault.nested, ∃ listed : FailedRender,
      (listed ∈ catalog.failuresOf files reach template supply world ∨ elsewhere listed) ∧
      listed.fault = render ∧ render.site? = some listed.template.site) ∧
    (∀ site context raised family, fault.lastVisited = .evaluation site context raised →
      raised.bare.family? = some family → fault.lastVisited.find? family = some raised.bare) ∧
    (catalog.Proper ∧ template.Proper ∧ supply.Proper →
      fault.visited = fault.nested ∧ ∀ family, fault.innermost.find? family =
        (fault.innermost.links.map Prod.snd).find? (·.family? == some family)) := by
  have own := template.render_of_failed _ supply world fault failed
  have shape := Fault.renders_nested own
  have tookPlace : ∀ render ∈ fault :: fault.nested, ∃ listed : FailedRender,
      (listed ∈ catalog.failuresOf files reach template supply world ∨ elsewhere listed) ∧
      listed.fault = render := by
    rw [← shape]
    exact Catalog.renders_took_place stocked files reach made given world fault failed
  have searched : ∀ render ∈ fault :: fault.nested, render.Searched := by
    intro render member
    obtain ⟨listed, _, same⟩ := tookPlace render member
    rw [← same]
    exact listed.searched
  have among := Fault.visited_sublist own
  have met : ∀ render ∈ fault :: fault.visited, render.Searched :=
    fun render member => searched render ((among.cons_cons fault).subset member)
  refine ⟨Fault.visits_remaining _ fault own rfl met, among, fun render => Fault.visited_iff own,
    fault.pairwise_renders _ shape, ?_, ?_, ?_⟩
  · intro render member
    obtain ⟨listed, held, same⟩ := tookPlace render member
    refine ⟨listed, held, same, ?_⟩
    rw [← same]
    exact listed.site
  · intro site context raised family last typed
    have known := met fault.lastVisited (List.getLast_mem _)
    rw [last] at known ⊢
    exact known.find_raised typed
  · -- Nothing is hidden in a proper fault, so the last visited render is the innermost.
    rintro ⟨stock, make, gift⟩
    have around := Catalog.within_proper stock files reach
    have proper := template.run_proper around gift make world fault failed
    have last : fault.innermost ∈ fault :: fault.nested := List.getLast_mem _
    rw [← shape] at last
    have typed : fault.innermost.family? = some .render := eq_of_beq (List.mem_filter.mp last).2
    have inside := proper.render last
    rw [shape] at last
    exact ⟨proper.visited own,
      (searched _ last).find_everything typed inside (fault.renders_last _ shape)⟩

def consulting : Template :=
  .mk none (.page "letter") [] [("sign", fun _ => .render relaying .nothing fun
    | .ok _ => .done .null
    | .error fault => .fail (.layered "while signing" fault))]

theorem misspelled_proper : misspelled.Proper := by
  refine ⟨?_, fun _ => trivial, trivial⟩
  intro reply told
  cases reply with
  | ok value => trivial
  | error fault => exact told fault rfl

theorem consulting_proper : consulting.Proper := by
  have relayed : relaying.Proper := by
    refine ⟨⟨misspelled_proper, trivial, ?_⟩, fun _ => trivial, trivial⟩
    intro reply told
    cases reply with
    | ok rendition => trivial
    | error fault => exact told fault rfl
  refine ⟨trivial, fun _ => ⟨relayed, trivial, ?_⟩, trivial⟩
  intro reply told
  cases reply with
  | ok rendition => trivial
  | error fault => exact .layered _ fault (told fault rfl)

theorem misspelled_candid (elsewhere : FailedRender → Prop) : misspelled.Candid elsewhere := by
  intro known _
  refine ⟨?_, fun _ => trivial, trivial⟩
  intro reply told
  cases reply with
  | ok value => trivial
  | error fault => exact told fault rfl

theorem consulting_candid (elsewhere : FailedRender → Prop) : consulting.Candid elsewhere := by
  intro known held
  have relayed : relaying.Relays known := by
    refine ⟨⟨misspelled_candid elsewhere known held, trivial, ?_⟩, fun _ => trivial, trivial⟩
    intro reply told
    cases reply with
    | ok rendition => trivial
    | error fault => exact told fault rfl
  refine ⟨trivial, fun _ => ⟨relayed, trivial, ?_⟩, trivial⟩
  intro reply told
  cases reply with
  | ok rendition => trivial
  | error fault => exact Fault.within_layered _ (told fault rfl)

theorem empty_catalog_proper : Catalog.empty.Proper := by
  intro location action found
  cases found

theorem empty_catalog_candid (elsewhere : FailedRender → Prop) :
    Catalog.empty.Candid elsewhere := by
  intro location action found
  cases found

/-- The render of the page does not find the missing function, which the innermost body called;
the last render visited finds it. -/
theorem repeated_search_visits_renders_consulting :
    let nowhere : FailedRender → Prop := fun _ => False
    (Catalog.empty.Candid nowhere ∧ consulting.Candid nowhere ∧
      Supply.nothing.Candid nowhere) ∧
    (Catalog.empty.Proper ∧ consulting.Proper ∧ Supply.nothing.Proper) ∧
    ∃ fault, ((consulting.run (Catalog.empty.within signingFiles 0) .nothing).run
        World.fresh).1 = .error fault ∧
      fault.Visits fault.visited ∧ fault.visited = fault.nested ∧
      fault.nested.map Fault.site? = [some relaying.site, some misspelled.site] ∧
      (fault.find? .missingFunction).isSome = false ∧
      (fault.lastVisited.find? .missingFunction).map Fault.text =
        some ("Could not invoke function \"shot\": " ++
          "function does not exist or is not callable") := by
  intro nowhere
  have stocked := empty_catalog_candid nowhere
  have made := consulting_candid nowhere
  have given : Supply.nothing.Candid nowhere := fun _ _ => trivial
  have proper := And.intro empty_catalog_proper (And.intro consulting_proper trivial)
  refine ⟨⟨stocked, made, given⟩, proper, ?_⟩
  obtain ⟨fault, failed, shown⟩ : ∃ fault, ((consulting.run
      (Catalog.empty.within signingFiles 0) .nothing).run World.fresh).1 = .error fault ∧
      fault.nested.map Fault.site? = [some relaying.site, some misspelled.site] ∧
      (fault.find? .missingFunction).isSome = false ∧
      (fault.lastVisited.find? .missingFunction).map Fault.text =
        some ("Could not invoke function \"shot\": " ++
          "function does not exist or is not callable") := exists_failure (by decide +kernel)
  obtain ⟨visits, _, _, _, _, _, unhidden⟩ := repeated_search_visits_renders nowhere Catalog.empty
    signingFiles 0 consulting .nothing World.fresh fault stocked made given failed
  exact ⟨fault, failed, visits, (unhidden proper).1, shown⟩

/-- A body that passes on what a body run with its bindings has failed with, which rendered a
template and passed on the failure of that. -/
def entrusting : Template :=
  .mk none (.program (.render misspelled .nothing fun
    | .ok rendition => .write rendition.2 (.done .null)
    | .error fault => .fail (.raised fault)) none) [] []

/-- A page that fails of itself after it has asked a function for a default and dropped what
that failed with. -/
def dropping : Template :=
  .mk none (.page "letter") [] [("sign", fun _ => .render misspelled .nothing fun
    | .ok rendition => .done (.string rendition.2)
    | .error fault => .fail fault)]

def droppingFiles : FileTree :=
  { entries := [(["letter"], .file ("\x7b% if x | default(value=f(name=\"sign\")) %\x7d" ++
    "\x7b% else %\x7d\x7b\x7b throw(message=\"gone\") \x7d\x7d\x7b% endif %\x7d").toUTF8)] }

/-- No search comes upon the failed render inside. In the first run it is there, in what stands in
for what a body raised; in the second the page has asked for it and dropped what it failed with. -/
theorem nested_render_not_visited :
    (∃ fault, ((entrusting.run (Catalog.empty.within signingFiles 0) .nothing).run
        World.fresh).1 = .error fault ∧
      fault.nested.map Fault.site? = [some misspelled.site] ∧
      (fault.find? .render).isSome = false) ∧
    ((misspelled.run (Catalog.empty.within droppingFiles 0) .nothing).run
      World.fresh).1.isOk = false ∧
    ∃ fault, ((dropping.run (Catalog.empty.within droppingFiles 0) .nothing).run
        World.fresh).1 = .error fault ∧
      fault.causeTexts = ["Failed to evaluate template body: letter",
        "Failed to render '__tera_one_off'", "Function call 'throw' failed", "gone"] ∧
      (fault.find? .render).isSome = false := by
  refine ⟨exists_failure ?_, ?_, exists_failure ?_⟩
  · decide +kernel
  · decide +kernel
  · decide +kernel

end Stencil
