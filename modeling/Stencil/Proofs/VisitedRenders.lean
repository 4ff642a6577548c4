import Stencil.Proofs.FailedRender

/-!
Searching again and again for a failed render. Each search starts where the last one ended. One
misses what lies right inside a stand-in or a nested render, and the next one takes it up where
it was met in the chain; what never is remains hidden, and everything else is visited from the
outside in. Where nothing but pages has put up stand-ins, no failed render is hidden.
-/

namespace Stencil

namespace Fault

variable {fault : Fault}

/-- The failed renders inside a fault, from the outside in. -/
def nested (fault : Fault) : List Fault :=
  (fault.links.map Prod.snd).filter fun part => part.family? == some .render

def innermost (fault : Fault) : Fault := (fault :: fault.nested).getLast (List.cons_ne_nil _ _)

/-- What a search for a failed render comes upon if each one found is searched in turn,
until there is nothing more to be found. -/
inductive Visits : Fault → List Fault → Prop where
  | stop (fault : Fault) (nothing : fault.find? .render = none) : Visits fault []
  | step (fault found : Fault) (rest : List Fault) (next : fault.find? .render = some found)
      (onward : Visits found rest) : Visits fault (found :: rest)

/-- A search in the fault finds the first cause that counts. -/
def Searched (fault : Fault) : Prop :=
  ∀ family, fault.find? family = fault.counted.find? (·.family? == some family)

theorem renders_nested (own : fault.family? = some .render) :
    fault.renders = fault :: fault.nested := by
  rw [renders, parts_links, List.filter_cons_of_pos (by simp [own])]
  rfl

/-- A failed render holds the failed renders that follow it in the list. -/
theorem renders_head {found : Fault} {rest : List Fault} (shape : fault.renders = found :: rest) :
    found.renders = found :: rest := by
  induction fault using parts_induction with
  | alone fault nothing =>
      by_cases own : fault.family? = some .render
      · rw [renders_nested own] at shape
        cases shape
        exact renders_nested own
      · rw [renders_alone nothing own] at shape
        cases shape
  | around whole inner parts ih =>
      by_cases own : whole.family? = some .render
      · have same := (renders_nested own).symm.trans shape
        rw [← (List.cons.inj same).1, shape, (List.cons.inj same).1]
      · exact ih ((renders_around parts own).symm.trans shape)

def isForwarded : Fault → Bool
  | .forwarded _ => true
  | _ => false

/-- The failed renders that searches come upon from a fault on, one search after the other. The
fault may have a place in the chain that is searched, or may have none. -/
def visitedFrom (placed : Bool) : Fault → List Fault
  | .lookup _ inner | .stage _ inner | .layered _ inner => inner.visitedFrom true
  | .setup site inner =>
      if placed then .setup site inner :: inner.visitedFrom true else inner.visitedFrom true
  | .evaluation site context inner =>
      if placed then .evaluation site context inner :: inner.visitedFrom true
      else inner.visitedFrom false
  | .raised inner => inner.visitedFrom false
  | .forwarded inner => inner.visitedFrom (placed && !inner.isForwarded)
  | .message _ | .missingFunction .. | .badShape _ | .unknownLocation _ | .badLocation ..
  | .file _ | .malformed _ | .command _ => []

def visited : Fault → List Fault
  | .setup _ cause | .evaluation _ _ cause => cause.visitedFrom true
  | _ => []

def lastVisited (fault : Fault) : Fault :=
  (fault :: fault.visited).getLast (List.cons_ne_nil _ _)

/-- What has no place in any chain that is searched: what a stand-in of a body holds, what is
carried twice, and all that lies right inside such a thing and gets no place by that. -/
inductive Hidden (whole : Fault) : Fault → Prop where
  | passedOn (inner : Fault) (linked : (.raised inner, inner) ∈ whole.links) : Hidden whole inner
  | doubled (inner : Fault)
      (linked : (.forwarded (.forwarded inner), .forwarded inner) ∈ whole.links) :
      Hidden whole (.forwarded inner)
  | within (outer inner : Fault) (hidden : Hidden whole outer)
      (linked : (outer, inner) ∈ whole.links) (unseated : outer.places = false) :
      Hidden whole inner

def visits : Option Fault → List Fault
  | some found => found :: found.visited
  | none => []

theorem visited_from_eq (fault : Fault) :
    fault.visitedFrom true =
        visits ((fault :: fault.exposed true).find? (·.family? == some .render)) ∧
      fault.visitedFrom false =
        visits ((fault.exposed false).find? (·.family? == some .render)) := by
  induction fault with
  | message | missingFunction | badShape | unknownLocation | badLocation | file | malformed
  | command => exact ⟨rfl, rfl⟩
  | lookup _ inner ih | stage _ inner ih | layered _ inner ih => exact ⟨ih.1, ih.1⟩
  | setup _ inner ih => exact ⟨rfl, ih.1⟩
  | evaluation _ _ inner ih => exact ⟨rfl, ih.2⟩
  | raised inner ih => exact ⟨ih.2, ih.2⟩
  | forwarded inner ih =>
      cases inner with
      | forwarded further => exact ⟨ih.2, ih.2⟩
      | _ => exact ⟨ih.1, ih.2⟩

/-- A failed render holds what it failed with, and nothing around that. -/
theorem cause_of_render (own : fault.family? = some .render) :
    ∃ cause, fault.links = (fault, cause) :: cause.links ∧ fault.nested = cause.renders ∧
      fault.visited = cause.visitedFrom true ∧
      fault.counted = (cause :: cause.exposed true).filter fun part => !part.standsIn := by
  cases fault with
  | setup site cause | evaluation site context cause =>
      refine ⟨cause, rfl, ?_, rfl, rfl⟩
      rw [renders, cause.parts_links]
      rfl
  | _ => cases own

/-- A search finds the first that is to be visited. -/
theorem Searched.visited (searched : fault.Searched) (own : fault.family? = some .render) :
    fault.visited = visits (fault.find? .render) := by
  obtain ⟨cause, _, _, visited, counted⟩ := cause_of_render own
  rw [searched .render, visited, counted, find?_own]
  exact cause.visited_from_eq.1

theorem visits_remaining (remaining : List Fault) (fault : Fault)
    (own : fault.family? = some .render) (same : fault.visited = remaining)
    (searched : ∀ render ∈ fault :: remaining, render.Searched) : fault.Visits remaining := by
  induction remaining generalizing fault with
  | nil =>
      rw [(searched fault List.mem_cons_self).visited own] at same
      cases found : fault.find? .render with
      | none => exact .stop fault found
      | some render =>
          rw [found] at same
          cases same
  | cons render rest ih =>
      rw [(searched fault List.mem_cons_self).visited own] at same
      cases found : fault.find? .render with
      | none =>
          rw [found] at same
          cases same
      | some first =>
          rw [found] at same
          obtain ⟨rfl, onward⟩ := List.cons.inj same
          have met := (searched fault List.mem_cons_self .render).symm.trans found
          have typed := List.find?_some met
          refine .step fault first rest found (ih first (eq_of_beq typed) onward ?_)
          exact fun render member => searched render (List.mem_cons_of_mem _ member)

theorem visited_from_sublist (fault : Fault) (placed : Bool) :
    (fault.visitedFrom placed).Sublist fault.renders := by
  have around : ∀ whole inner : Fault, whole.parts = whole :: inner.parts →
      whole.family? ≠ some .render → (inner.visitedFrom true).Sublist inner.renders →
      (inner.visitedFrom true).Sublist whole.renders := by
    intro whole inner shape other below
    rw [renders_around shape other]
    exact below
  induction fault generalizing placed with
  | message | missingFunction | badShape | unknownLocation | badLocation | file | malformed
  | command => exact List.nil_sublist _
  | lookup _ inner ih | stage _ inner ih | layered _ inner ih | raised inner ih
  | forwarded inner ih => exact ih _
  | setup site inner ih =>
      cases placed with
      | true => exact (ih true).cons_cons _
      | false => exact (ih true).cons _
  | evaluation site context inner ih =>
      cases placed with
      | true => exact (ih true).cons_cons _
      | false => exact (ih false).cons _

theorem visited_sublist (own : fault.family? = some .render) :
    fault.visited.Sublist fault.nested := by
  obtain ⟨cause, _, nested, visited, _⟩ := cause_of_render own
  rw [nested, visited]
  exact cause.visited_from_sublist true

/-- A part lies right inside one other part only. -/
theorem outer_unique {whole outer other inner : Fault} (linked : (outer, inner) ∈ whole.links)
    (also : (other, inner) ∈ whole.links) : outer = other := by
  induction whole using links_induction with
  | alone fault nothing unlinked =>
      rw [unlinked] at linked
      cases linked
  | around whole next shape links ih =>
      -- The first link leads to what is next, which is deeper than all that it holds.
      rw [links] at linked also
      rcases List.mem_cons.mp linked with first | inside
      · rcases List.mem_cons.mp also with same | beneath
        · cases first
          cases same
          rfl
        · cases first
          exact absurd (Fault.link_deeper _ _ beneath) (Nat.lt_irrefl _)
      · rcases List.mem_cons.mp also with same | beneath
        · cases same
          exact absurd (Fault.link_deeper _ _ inside) (Nat.lt_irrefl _)
        · exact ih inside beneath

theorem hidden_iff {whole outer inner : Fault} (linked : (outer, inner) ∈ whole.links) :
    whole.Hidden inner ↔ outer = .raised inner ∨
      (outer = .forwarded inner ∧ inner.isForwarded = true) ∨
      (whole.Hidden outer ∧ outer.places = false) := by
  constructor
  · intro hidden
    cases hidden with
    | passedOn _ also => exact .inl (outer_unique linked also)
    | doubled _ also => exact .inr (.inl ⟨outer_unique linked also, rfl⟩)
    | within other _ hidden also unseated =>
        rw [outer_unique linked also]
        exact .inr (.inr ⟨hidden, unseated⟩)
  · rintro (rfl | ⟨rfl, carried⟩ | ⟨hidden, unseated⟩)
    · exact .passedOn inner linked
    · cases inner with
      | forwarded further => exact .doubled further linked
      | _ => cases carried
    · exact .within outer inner hidden linked unseated

theorem not_hidden_whole (whole : Fault) : ¬whole.Hidden whole := by
  have inside : ∀ outer, (outer, whole) ∉ whole.links :=
    fun outer linked => Nat.lt_irrefl _ (whole.link_deeper _ linked)
  intro hidden
  cases hidden with
  | passedOn _ linked => exact inside _ linked
  | doubled _ linked => exact inside _ linked
  | within outer _ _ linked _ => exact inside _ linked

/-- Searches come upon nothing that is hidden. -/
theorem not_hidden_of_visited {whole render : Fault} (fault : Fault) (placed : Bool)
    (inside : fault.links ⊆ whole.links) (seated : placed = true → ¬whole.Hidden fault)
    (found : render ∈ fault.visitedFrom placed) : ¬whole.Hidden render := by
  induction fault generalizing placed with
  | message | missingFunction | badShape | unknownLocation | badLocation | file | malformed
  | command => cases found
  | lookup _ inner ih | stage _ inner ih | layered _ inner ih =>
      obtain ⟨linked, below⟩ := List.cons_subset.mp inside
      refine ih true below ?_ found
      rw [hidden_iff linked]
      simp [places]
  | setup site inner ih =>
      obtain ⟨linked, below⟩ := List.cons_subset.mp inside
      have onward : render ∈ inner.visitedFrom true → ¬whole.Hidden render := by
        refine ih true below ?_
        rw [hidden_iff linked]
        simp [places]
      cases placed with
      | false => exact onward found
      | true =>
          rcases List.mem_cons.mp found with rfl | further
          · exact seated rfl
          · exact onward further
  | evaluation site context inner ih =>
      obtain ⟨linked, below⟩ := List.cons_subset.mp inside
      cases placed with
      | false => exact ih false below nofun found
      | true =>
          rcases List.mem_cons.mp found with rfl | further
          · exact seated rfl
          · -- What its body raised takes the place that the failed render has in the chain.
            refine ih true below ?_ further
            rw [hidden_iff linked]
            simpa [places] using seated
  | raised inner ih => exact ih false (List.cons_subset.mp inside).2 nofun found
  | forwarded inner ih =>
      obtain ⟨linked, below⟩ := List.cons_subset.mp inside
      refine ih _ below ?_ found
      intro both
      obtain ⟨placed, single⟩ := Bool.and_eq_true_iff.mp both
      rw [hidden_iff linked]
      simp only [Bool.not_eq_true'] at single
      simpa [places, single] using seated placed

/-- What searches do not come upon is hidden. -/
theorem visited_or_hidden {whole render : Fault} (fault : Fault) (placed : Bool)
    (inside : fault.links ⊆ whole.links) (unseated : placed = false → whole.Hidden fault)
    (member : render ∈ fault.renders) :
    render ∈ fault.visitedFrom placed ∨ whole.Hidden render := by
  induction fault generalizing placed with
  | message | missingFunction | badShape | unknownLocation | badLocation | file | malformed
  | command => cases member
  | lookup _ inner ih | stage _ inner ih | layered _ inner ih =>
      exact ih true (List.cons_subset.mp inside).2 nofun member
  | setup site inner ih =>
      have onward : render ∈ inner.renders →
          render ∈ inner.visitedFrom true ∨ whole.Hidden render :=
        ih true (List.cons_subset.mp inside).2 nofun
      rcases List.mem_cons.mp member with rfl | further
      · cases placed with
        | false => exact .inr (unseated rfl)
        | true => exact .inl List.mem_cons_self
      · refine (onward further).imp_left fun found => ?_
        cases placed with
        | false => exact found
        | true => exact List.mem_cons_of_mem _ found
  | evaluation site context inner ih =>
      obtain ⟨linked, below⟩ := List.cons_subset.mp inside
      cases placed with
      | false =>
          have hidden := unseated rfl
          rcases List.mem_cons.mp member with rfl | further
          · exact .inr hidden
          · exact ih false below (fun _ => .within _ inner hidden linked rfl) further
      | true =>
          rcases List.mem_cons.mp member with rfl | further
          · exact .inl List.mem_cons_self
          · exact (ih true below nofun further).imp_left (List.mem_cons_of_mem _)
  | raised inner ih =>
      obtain ⟨linked, below⟩ := List.cons_subset.mp inside
      exact ih false below (fun _ => .passedOn inner linked) member
  | forwarded inner ih =>
      obtain ⟨linked, below⟩ := List.cons_subset.mp inside
      refine ih _ below ?_ member
      intro passed
      -- It is hidden with the carrier, or because it is a carrier itself.
      rw [hidden_iff linked]
      rcases Bool.and_eq_false_iff.mp passed with unplaced | twice
      · exact .inr (.inr ⟨unseated unplaced, rfl⟩)
      · exact .inr (.inl ⟨rfl, by simpa using twice⟩)

/-- Searches visit the failed renders inside that are not hidden. -/
theorem visited_iff (own : fault.family? = some .render) {render : Fault}
    (member : render ∈ fault.nested) : render ∈ fault.visited ↔ ¬fault.Hidden render := by
  obtain ⟨cause, shape, nested, visited, _⟩ := cause_of_render own
  have linked : (fault, cause) ∈ fault.links := shape ▸ List.mem_cons_self
  have below : cause.links ⊆ fault.links := shape ▸ List.subset_cons_self _ _
  have seated : ¬fault.Hidden cause := by
    rw [hidden_iff linked]
    rintro (rfl | ⟨rfl, _⟩ | ⟨itself, _⟩)
    · cases own
    · cases own
    · exact not_hidden_whole fault itself
  rw [nested] at member
  rw [visited]
  refine ⟨not_hidden_of_visited cause true below fun _ => seated, fun seen => ?_⟩
  exact (visited_or_hidden cause true below nofun member).resolve_right seen

theorem render_of_renders {rest : List Fault} (shape : fault.renders = fault :: rest) :
    fault.family? = some .render := by
  have member : fault ∈ fault.renders := by
    rw [shape]
    exact List.mem_cons_self
  exact eq_of_beq (List.mem_filter.mp member).2

theorem nested_of_renders {rest : List Fault} (shape : fault.renders = fault :: rest) :
    fault.nested = rest :=
  (List.cons.inj ((renders_nested (render_of_renders shape)).symm.trans shape)).2

theorem renders_tail {found : Fault} {rest : List Fault}
    (shape : fault.renders = fault :: found :: rest) : found.renders = found :: rest := by
  have inside : ∀ cause : Fault, fault.parts = fault :: cause.parts →
      found.renders = found :: rest := by
    intro cause around
    have same := renders_render around (render_of_renders shape)
    exact renders_head (List.cons.inj (same.symm.trans shape)).2
  cases fault with
  | setup site cause | evaluation site context cause => exact inside cause rfl
  | _ => cases render_of_renders shape

/-- Layers of explanation have no family of their own. -/
theorem find?_exposed_bare {family : Family} (typed : fault.bare.family? = some family) :
    (fault :: fault.exposed true).find? (·.family? == some family) = some fault.bare := by
  induction fault with
  | layered text inner ih => exact ih typed
  | _ => exact List.find?_cons_of_pos (by simpa [bare] using typed)

/-- What the body of a failed render raised is found there by its family. -/
theorem Searched.find_raised {site : RenderSite} {context : ContextSummary} {raised : Fault}
    (searched : (Fault.evaluation site context raised).Searched) {family : Family}
    (typed : raised.bare.family? = some family) :
    (Fault.evaluation site context raised).find? family = some raised.bare := by
  rw [searched family, counted, find?_own]
  exact find?_exposed_bare typed

/-- Where pages alone put up stand-ins, no failed render is hidden. -/
theorem Proper.visited_from (proper : fault.Proper) : fault.visitedFrom true = fault.renders := by
  induction proper with
  | alone fault nothing =>
      cases fault with
      | lookup | stage | setup | evaluation | raised | forwarded | layered => cases nothing
      | _ => rfl
  | lookup key cause below ih | stage text cause below ih | layered text cause below ih =>
      exact ih
  | carried text inner below ih =>
      have single : inner.isForwarded = false := by
        cases inner with
        | forwarded => cases below.own
        | _ => rfl
      have through : (Fault.stage text (.forwarded inner)).visitedFrom true =
          inner.visitedFrom (true && !inner.isForwarded) := rfl
      rw [through, single]
      exact ih
  | setup site cause below ih | evaluation site context cause below ih =>
      exact congrArg (List.cons _) ih

theorem Proper.visited (proper : fault.Proper) (own : fault.family? = some .render) :
    fault.visited = fault.nested := by
  have whole : fault.visitedFrom true = fault :: fault.visited := by
    cases fault with
    | setup | evaluation => rfl
    | _ => cases own
  have same := whole.symm.trans (proper.visited_from.trans (renders_nested own))
  exact (List.cons.inj same).2

/-- Where pages alone put up stand-ins and no render has failed inside, a search comes upon all
that is there. -/
theorem Proper.find?_exposed (proper : fault.Proper) (alone : fault.renders = [])
    (family : Family) :
    (fault :: fault.exposed true).find? (·.family? == some family) =
      fault.parts.find? (·.family? == some family) := by
  have deeper : ∀ whole inner : Fault, whole.parts = whole :: inner.parts →
      (inner :: inner.exposed true).find? (·.family? == some family) =
        inner.parts.find? (·.family? == some family) →
      (whole :: inner :: inner.exposed true).find? (·.family? == some family) =
        whole.parts.find? (·.family? == some family) := by
    intro whole inner shape below
    rw [shape, List.find?_cons, below, List.find?_cons]
  induction proper with
  | alone fault nothing =>
      cases fault with
      | lookup | stage | setup | evaluation | raised | forwarded | layered => cases nothing
      | _ => rfl
  | lookup key cause below ih | stage text cause below ih | layered text cause below ih =>
      exact deeper _ cause rfl (ih alone)
  | carried text inner below ih =>
      -- A carrier has no family, so only what it carries could be found in its place.
      have same : inner.exposed false = inner.exposed true := by
        cases inner with
        | forwarded => cases below.own
        | _ => rfl
      have beneath := deeper (.stage text inner) inner rfl (ih alone)
      rw [← same] at beneath
      exact beneath
  | setup site cause below ih | evaluation site context cause below ih => cases alone

theorem Searched.find_everything (searched : fault.Searched)
    (own : fault.family? = some .render) (proper : fault.Proper) (alone : fault.nested = [])
    (family : Family) :
    fault.find? family = (fault.links.map Prod.snd).find? (·.family? == some family) := by
  have inside : ∀ whole cause : Fault, whole.Searched → cause.Proper →
      whole.links = (whole, cause) :: cause.links → whole.nested = [] →
      whole.counted = (cause :: cause.exposed true).filter (fun part => !part.standsIn) →
      whole.find? family = (whole.links.map Prod.snd).find? (·.family? == some family) := by
    intro whole cause searched below shape alone counts
    have parts : whole.links.map Prod.snd = cause.parts := by
      rw [shape, List.map_cons, ← cause.parts_links]
    rw [nested, parts] at alone
    rw [searched family, counts, find?_own, parts]
    exact below.find?_exposed alone family
  cases proper with
  | setup site cause below | evaluation site context cause below =>
      exact inside _ cause searched below rfl alone rfl
  | alone _ nothing =>
      cases fault with
      | setup | evaluation => cases nothing
      | _ => cases own
  | _ => cases own

theorem pairwise_renders (remaining : List Fault) (fault : Fault)
    (shape : fault.renders = fault :: remaining) :
    (fault :: remaining).Pairwise fun outer inner =>
      inner ∈ outer.links.map Prod.snd ∧ inner ≠ outer := by
  induction remaining generalizing fault with
  | nil => exact List.pairwise_singleton _ _
  | cons found rest ih =>
      refine List.pairwise_cons.mpr ⟨?_, ih found (renders_tail shape)⟩
      intro inner member
      rw [← nested_of_renders shape] at member
      have inside := (List.mem_filter.mp member).1
      refine ⟨inside, ?_⟩
      obtain ⟨link, linked, same⟩ := List.mem_map.mp inside
      intro itself
      have shorter := fault.link_deeper link linked
      rw [same, itself] at shorter
      exact Nat.lt_irrefl _ shorter

theorem renders_last (remaining : List Fault) (fault : Fault)
    (shape : fault.renders = fault :: remaining) :
    ((fault :: remaining).getLast (List.cons_ne_nil _ _)).nested = [] := by
  induction remaining generalizing fault with
  | nil => exact nested_of_renders shape
  | cons found rest ih =>
      rw [List.getLast_cons_cons]
      exact ih found (renders_tail shape)

/-- What lies in a proper fault is proper itself, unless it only stands in for something. -/
theorem Proper.part (proper : fault.Proper) {part : Fault} (member : part ∈ fault.parts)
    (own : part.standsIn = false) : part.Proper := by
  have deeper : ∀ whole inner : Fault, whole.parts = whole :: inner.parts → whole.Proper →
      (part ∈ inner.parts → part.Proper) → part ∈ whole.parts → part.Proper := by
    intro whole inner shape itself below found
    rw [shape] at found
    rcases List.mem_cons.mp found with same | inside
    · rw [same]
      exact itself
    · exact below inside
  induction proper with
  | alone fault nothing =>
      rw [parts_links, nothing] at member
      rw [List.mem_singleton.mp member]
      exact .alone fault nothing
  | lookup key cause below ih => exact deeper _ cause rfl (.lookup key cause below) ih member
  | stage text cause below ih => exact deeper _ cause rfl (.stage text cause below) ih member
  | setup site cause below ih => exact deeper _ cause rfl (.setup site cause below) ih member
  | evaluation site context cause below ih =>
      exact deeper _ cause rfl (.evaluation site context cause below) ih member
  | layered text inner below ih => exact deeper _ inner rfl (.layered text inner below) ih member
  | carried text inner below ih =>
      apply deeper _ (.forwarded inner) rfl (.carried text inner below) _ member
      intro inside
      rcases List.mem_cons.mp inside with carrier | further
      · rw [carrier] at own
        cases own
      · exact ih further

theorem Proper.render (proper : fault.Proper) {render : Fault} (member : render ∈ fault.renders) :
    render.Proper := by
  obtain ⟨part, typed⟩ := List.mem_filter.mp member
  apply proper.part part
  cases render with
  | raised | forwarded => cases typed
  | _ => rfl

end Fault

end Stencil
