import Stencil.Proofs.FaultStory

/-!
How far a search in a failed render reaches. Every part of a fault is linked to the
part around it. A search comes upon all of them in order but those right inside a
failed evaluation further in, and those right inside a stand-in: neither leaves them a
place of their own in the chain. Only a carrier that has such a place is looked
through. Pages put one below their complaints; a body puts up stand-ins only where it
passes one on as a fault of its own.
-/

namespace Stencil.Fault

/-- Every part inside a fault with the part around it, from the outside in. -/
def links (fault : Fault) : List (Fault × Fault) :=
  match fault with
  | .lookup _ inner | .stage _ inner | .setup _ inner | .evaluation _ _ inner
  | .raised inner | .forwarded inner | .layered _ inner => (fault, inner) :: inner.links
  | .message _ | .missingFunction .. | .badShape _ | .unknownLocation _ | .badLocation ..
  | .file _ | .malformed _ | .command _ => []

/-- Whether what is right inside has a place of its own in the chain. -/
def places : Fault → Bool
  | .lookup .. | .stage .. | .setup .. | .layered .. => true
  | _ => false

/-- A part inside a fault that has a place of its own in the chain. -/
def Places (fault part : Fault) : Prop :=
  ∃ outer, (outer, part) ∈ fault.links ∧ outer.places = true

/-- What a search comes upon inside a fault, which it may have met or not. -/
def exposed (met : Bool) : Fault → List Fault
  | .lookup _ inner | .stage _ inner | .setup _ inner | .layered _ inner =>
      inner :: inner.exposed true
  | .evaluation _ _ inner | .raised inner => inner.exposed false
  | .forwarded inner => if met then inner :: inner.exposed false else inner.exposed false
  | .message _ | .missingFunction .. | .badShape _ | .unknownLocation _ | .badLocation ..
  | .file _ | .malformed _ | .command _ => []

/-- The causes of a failed render that count for a search: what stopped it, and what lies
open inside that. -/
def counted : Fault → List Fault
  | .setup _ cause | .evaluation _ _ cause =>
      (cause :: cause.exposed true).filter fun part => !part.standsIn
  | _ => []

/-- Faults whose only stand-ins are those that pages put below their complaints. -/
inductive Proper : Fault → Prop where
  | alone (fault : Fault) (nothing : fault.links = []) : Proper fault
  | lookup (key : String) (cause : Fault) (below : cause.Proper) : Proper (.lookup key cause)
  | stage (text : String) (cause : Fault) (below : cause.Proper) : Proper (.stage text cause)
  | carried (text : String) (fault : Fault) (below : fault.Proper) :
      Proper (.stage text (.forwarded fault))
  | setup (site : RenderSite) (cause : Fault) (below : cause.Proper) :
      Proper (.setup site cause)
  | evaluation (site : RenderSite) (context : ContextSummary) (cause : Fault)
      (below : cause.Proper) : Proper (.evaluation site context cause)
  | layered (text : String) (inner : Fault) (below : inner.Proper) :
      Proper (.layered text inner)

/-- Induction on what lies inside a fault, with the link to it. -/
@[elab_as_elim]
theorem links_induction {motive : Fault → Prop}
    (alone : ∀ fault : Fault, fault.parts = [fault] → fault.links = [] → motive fault)
    (around : ∀ whole inner : Fault, whole.parts = whole :: inner.parts →
      whole.links = (whole, inner) :: inner.links → motive inner → motive whole)
    (fault : Fault) : motive fault := by
  induction fault with
  | message | missingFunction | badShape | unknownLocation | badLocation | file | malformed
  | command => exact alone _ rfl rfl
  | lookup _ inner ih | stage _ inner ih | setup _ inner ih | layered _ inner ih
  | evaluation _ _ inner ih | raised inner ih | forwarded inner ih =>
      exact around _ inner rfl rfl ih

theorem parts_links (fault : Fault) : fault.parts = fault :: fault.links.map Prod.snd := by
  induction fault using links_induction with
  | alone fault nothing unlinked => rw [nothing, unlinked, List.map_nil]
  | around whole inner shape linked ih => rw [shape, linked, List.map_cons, ih]

theorem link_deeper (fault : Fault) (link : Fault × Fault) (member : link ∈ fault.links) :
    link.2.parts.length < fault.parts.length := by
  induction fault using links_induction with
  | alone fault nothing unlinked =>
      rw [unlinked] at member
      cases member
  | around whole inner shape linked ih =>
      rw [linked] at member
      rw [shape, List.length_cons]
      rcases List.mem_cons.mp member with same | below
      · rw [same]
        exact Nat.lt_succ_self _
      · exact Nat.lt_succ_of_lt (ih below)

theorem Proper.own {fault : Fault} (proper : fault.Proper) : fault.standsIn = false := by
  cases proper with
  | alone _ nothing =>
      cases fault with
      | raised inner | forwarded inner => cases nothing
      | _ => rfl
  | lookup | stage | carried | setup | evaluation | layered => rfl

theorem family_stands_in {fault : Fault} (stands : fault.standsIn = true) :
    fault.family? = none := by
  cases fault with
  | raised | forwarded => rfl
  | _ => cases stands

/-- Of every family a search finds the same faults in a chain, seen through what is
forwarded, as lie open in the fault. The filtered lists are equal and not just their
heads, because below a failed render the head drops out on both sides. -/
theorem filter_chain (family : Family) (fault : Fault)
    (below : (fault.causes.map Fault.seen).filter (·.family? == some family) =
      (fault.exposed false).filter (·.family? == some family)) :
    (fault.chain.map Fault.seen).filter (·.family? == some family) =
      (fault :: fault.exposed true).filter (·.family? == some family) := by
  rw [chain, List.map_cons, List.filter_cons, List.filter_cons, below]
  cases fault with
  | forwarded inner =>
      have carried : (Fault.forwarded inner).exposed true = inner :: inner.exposed false := rfl
      rw [carried, List.filter_cons]
      rfl
  | _ => rfl

theorem filter_causes (family : Family) (fault : Fault) :
    (fault.causes.map Fault.seen).filter (·.family? == some family) =
      (fault.exposed false).filter (·.family? == some family) := by
  induction fault with
  | message | missingFunction | badShape | unknownLocation | badLocation | file | malformed
  | command => rfl
  | lookup _ inner ih | stage _ inner ih | setup _ inner ih | layered _ inner ih =>
      exact filter_chain family inner ih
  | evaluation _ _ inner ih | raised inner ih | forwarded inner ih => exact ih

theorem find?_own (family : Family) (faults : List Fault) :
    (faults.filter fun part => !part.standsIn).find? (·.family? == some family) =
      faults.find? (·.family? == some family) := by
  rw [List.find?_filter]
  congr 1
  funext part
  cases stands : part.standsIn with
  | false => simp only [Bool.not_false, true_and, Bool.decide_eq_true]
  | true => simp [family_stands_in stands]

/-- What a body has raised is searched for the first that counts. -/
theorem reached?_counted (family : Family) (raised : Fault) :
    raised.reached? family = ((raised :: raised.exposed true).filter
      fun part => !part.standsIn).find? (·.family? == some family) := by
  rw [find?_own, reached?, ← List.head?_filter, ← List.head?_filter,
    filter_chain family raised (filter_causes family raised)]

theorem places_around {whole inner : Fault} (shape : whole.links = (whole, inner) :: inner.links)
    (part : Fault) :
    whole.Places part ↔ whole.places = true ∧ part = inner ∨ inner.Places part := by
  unfold Places
  rw [shape]
  constructor
  · rintro ⟨outer, linked, seats⟩
    rcases List.mem_cons.mp linked with same | below
    · cases same
      exact .inl ⟨seats, rfl⟩
    · exact .inr ⟨outer, below, seats⟩
  · rintro (⟨seats, rfl⟩ | ⟨outer, below, seats⟩)
    · exact ⟨whole, List.mem_cons_self, seats⟩
    · exact ⟨outer, List.mem_cons_of_mem _ below, seats⟩

/-- What lies right inside has no place of its own, and all else has the one it had. -/
theorem places_beyond {whole inner : Fault} (shape : whole.links = (whole, inner) :: inner.links)
    (unseated : whole.places = false) (part : Fault) : whole.Places part ↔ inner.Places part := by
  rw [places_around shape, unseated]
  simp

/-- What a search comes upon has a place of its own, or is carried by what has one. -/
theorem mem_exposed_iff (fault part : Fault) (met : Bool) :
    part ∈ fault.exposed met ↔ fault.Places part ∨ fault.Places (.forwarded part) ∨
      met = true ∧ fault = .forwarded part := by
  have seated : ∀ (met : Bool) (whole inner : Fault), whole.links = (whole, inner) :: inner.links →
      whole.places = true → (part ∈ inner.exposed true ↔ inner.Places part ∨
        inner.Places (.forwarded part) ∨ true = true ∧ inner = .forwarded part) →
      (part ∈ inner :: inner.exposed true ↔ whole.Places part ∨ whole.Places (.forwarded part) ∨
        met = true ∧ whole = .forwarded part) := by
    intro met whole inner shape seats below
    have plain : whole ≠ .forwarded part := by
      rintro rfl
      cases seats
    rw [List.mem_cons, below, places_around shape, places_around shape]
    simp only [seats, plain, true_and, and_false, or_false]
    grind
  -- What has no place of its own is passed by, and what it may carry is passed by with it.
  have unseated : ∀ (met : Bool) (whole inner : Fault),
      whole.links = (whole, inner) :: inner.links → whole.places = false →
      (met = true → whole ≠ .forwarded part) →
      (part ∈ inner.exposed false ↔ inner.Places part ∨
        inner.Places (.forwarded part) ∨ false = true ∧ inner = .forwarded part) →
      (part ∈ inner.exposed false ↔ whole.Places part ∨ whole.Places (.forwarded part) ∨
        met = true ∧ whole = .forwarded part) := by
    intro met whole inner shape unseated plain below
    rw [below, places_beyond shape unseated, places_beyond shape unseated]
    simp only [Bool.false_eq_true, false_and, or_false]
    grind
  induction fault generalizing met with
  | message | missingFunction | badShape | unknownLocation | badLocation | file | malformed
  | command => simp [exposed, Places, links]
  | lookup _ inner ih | stage _ inner ih | setup _ inner ih | layered _ inner ih =>
      exact seated met _ inner rfl rfl (ih true)
  | evaluation _ _ inner ih | raised inner ih =>
      exact unseated met _ inner rfl rfl (fun _ => nofun) (ih false)
  | forwarded inner ih =>
      cases met with
      | false => exact unseated false _ inner rfl rfl nofun (ih false)
      | true =>
          have carried : (Fault.forwarded inner).exposed true = inner :: inner.exposed false := rfl
          have shape : (Fault.forwarded inner).links =
              (.forwarded inner, inner) :: inner.links := rfl
          have below : part ∈ inner.exposed false ↔
              inner.Places part ∨ inner.Places (.forwarded part) := (ih false).trans (by simp)
          rw [carried, List.mem_cons, below, places_beyond shape rfl, places_beyond shape rfl]
          simp only [true_and, forwarded.injEq]
          grind

theorem exposed_sublist (fault : Fault) (met : Bool) :
    (fault.exposed met).Sublist (fault.links.map Prod.snd) := by
  induction fault generalizing met with
  | message | missingFunction | badShape | unknownLocation | badLocation | file | malformed
  | command => exact List.Sublist.slnil
  | lookup _ inner ih | stage _ inner ih | setup _ inner ih | layered _ inner ih =>
      exact (ih true).cons_cons inner
  | evaluation _ _ inner ih | raised inner ih => exact (ih false).cons inner
  | forwarded inner ih =>
      cases met with
      | false => exact (ih false).cons inner
      | true => exact (ih false).cons_cons inner

theorem counted_sublist (fault : Fault) : fault.counted.Sublist (fault.links.map Prod.snd) := by
  cases fault with
  | setup _ cause | evaluation _ _ cause =>
      exact List.filter_sublist.trans ((cause.exposed_sublist true).cons_cons cause)
  | _ => exact List.nil_sublist _

/-- Of an evaluation counts what its body raised, and what has a place in the chain, each also if
it is carried there. -/
theorem mem_counted_iff (site : RenderSite) (context : ContextSummary) (raised part : Fault) :
    part ∈ (Fault.evaluation site context raised).counted ↔ part.standsIn = false ∧
      (part = raised ∨ raised = .forwarded part ∨
        (Fault.evaluation site context raised).Places part ∨
        (Fault.evaluation site context raised).Places (.forwarded part)) := by
  have shape : (Fault.evaluation site context raised).links =
      (.evaluation site context raised, raised) :: raised.links := rfl
  rw [counted, List.mem_filter, List.mem_cons, mem_exposed_iff, places_beyond shape rfl,
    places_beyond shape rfl]
  simp only [Bool.not_eq_true', true_and]
  grind

theorem links_of_part {fault part : Fault} (member : part ∈ fault.parts) :
    part.links ⊆ fault.links := by
  induction fault using links_induction with
  | alone fault nothing unlinked =>
      rw [nothing] at member
      rw [List.mem_singleton.mp member]
      exact List.Subset.refl _
  | around whole inner shape linked ih =>
      rw [shape] at member
      rcases List.mem_cons.mp member with rfl | below
      · exact List.Subset.refl _
      · rw [linked]
        exact List.subset_cons_of_subset _ (ih below)

theorem find?_ne_whole (family : Family) (fault : Fault)
    (counts : fault.find? family = fault.counted.find? (·.family? == some family)) :
    fault.find? family ≠ some fault := by
  intro itself
  rw [counts] at itself
  have inside := fault.counted_sublist.subset (List.mem_of_find?_eq_some itself)
  obtain ⟨link, linked, same⟩ := List.mem_map.mp inside
  have shorter := fault.link_deeper link linked
  rw [same] at shorter
  exact Nat.lt_irrefl _ shorter

def behind (renders : List (RenderSite × ContextSummary)) (raised : Fault) : Fault :=
  renders.foldr (fun render inner => .evaluation render.1 render.2 inner) raised

/-- The chain goes past nested renders without a look at what their bodies raised. -/
theorem causes_behind (renders : List (RenderSite × ContextSummary)) (raised : Fault)
    (family : Family) :
    ((behind renders raised).causes.map Fault.seen).find? (·.family? == some family) =
      (raised.causes.map Fault.seen).find? (·.family? == some family) := by
  induction renders with
  | nil => rfl
  | cons render rest ih => exact ih

theorem reached?_behind (render : RenderSite × ContextSummary)
    (renders : List (RenderSite × ContextSummary)) (raised : Fault) (family : Family)
    (other : family ≠ .render) :
    (behind (render :: renders) raised).reached? family =
      (raised.causes.map Fault.seen).find? (·.family? == some family) := by
  have apart : ((behind (render :: renders) raised).family? == some family) = false := by
    have different : Family.render ≠ family := fun same => other same.symm
    simpa [behind, family?] using different
  rw [reached?, chain, List.map_cons]
  have same : (behind (render :: renders) raised).seen = behind (render :: renders) raised := rfl
  rw [same, List.find?_cons_of_neg (by simp [apart])]
  exact causes_behind (render :: renders) raised family

theorem reached?_typed {raised : Fault} {family : Family} (typed : raised.family? = some family) :
    raised.reached? family = some raised := by
  have same : raised.seen = raised := by
    cases raised with
    | forwarded inner => cases typed
    | _ => rfl
  rw [reached?, chain, List.map_cons, same, List.find?_cons_of_pos (by simp [typed])]

end Stencil.Fault
