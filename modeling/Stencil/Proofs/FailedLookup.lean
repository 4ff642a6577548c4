import Stencil.Proofs.LastingFault
import Stencil.Proofs.NearestNames

/-!
Which missing function a report is about. It is one that a lookup did not find, in whichever
registry was asked: that of the template that failed, that of a template rendered inside it, or
one that a body or a function asks on its own. The suggestions come from the registry that was
asked. Where there are none the report lists the functions of the template that failed, and among
them may be one of the missing name.
-/

namespace Stencil

namespace Fault

theorem self_part (fault : Fault) : fault ∈ fault.parts := by
  unfold parts
  exact List.mem_cons_self

theorem part_trans {fault part inner : Fault} (member : part ∈ fault.parts)
    (inside : inner ∈ part.parts) : inner ∈ fault.parts := by
  obtain ⟨outer, split⟩ := parts_of_part fault part member
  rw [split]
  exact List.mem_append_right outer inside

/-- The causes of a fault are parts of it, but for the stand-ins that the chain puts up. -/
theorem part_of_cause (fault : Fault) {cause : Fault} (member : cause ∈ fault.causes) :
    cause ∈ fault.parts ∨ ∃ inner ∈ fault.parts, cause = .raised inner := by
  have deeper : ∀ whole inner : Fault, whole.parts = whole :: inner.parts →
      (cause ∈ inner.causes →
        cause ∈ inner.parts ∨ ∃ part ∈ inner.parts, cause = .raised part) →
      cause = inner ∨ cause = .raised inner ∨ cause ∈ inner.causes →
      cause ∈ whole.parts ∨ ∃ part ∈ whole.parts, cause = .raised part := by
    intro whole inner shape within found
    rw [shape]
    rcases found with same | standIn | further
    · exact .inl (List.mem_cons_of_mem _ (same ▸ inner.self_part))
    · exact .inr ⟨inner, List.mem_cons_of_mem _ inner.self_part, standIn⟩
    · rcases within further with part | ⟨part, inside, same⟩
      · exact .inl (List.mem_cons_of_mem _ part)
      · exact .inr ⟨part, List.mem_cons_of_mem _ inside, same⟩
  induction fault with
  | message | missingFunction | badShape | unknownLocation | badLocation | file | malformed
  | command => cases member
  | lookup _ inner ih | stage _ inner ih | setup _ inner ih | layered _ inner ih =>
      exact deeper _ inner rfl ih ((List.mem_cons.mp member).imp_right .inr)
  | evaluation _ _ inner ih => exact deeper _ inner rfl ih (.inr (List.mem_cons.mp member))
  | raised inner ih | forwarded inner ih => exact deeper _ inner rfl ih (.inr (.inr member))

theorem reached?_part {family : Family} {raised found : Fault}
    (reached : raised.reached? family = some found) : found ∈ raised.parts := by
  rw [reached?] at reached
  have typed := List.find?_some reached
  obtain ⟨link, linked, seen⟩ := List.mem_map.mp (List.mem_of_find?_eq_some reached)
  have part : link ∈ raised.parts := by
    rcases List.mem_cons.mp linked with same | cause
    · exact same ▸ raised.self_part
    · refine (raised.part_of_cause cause).resolve_right ?_
      rintro ⟨inner, _, standIn⟩
      rw [← seen, standIn] at typed
      cases typed
  cases link with
  | forwarded inner =>
      rw [← seen]
      exact part_trans part (List.mem_cons_of_mem _ inner.self_part)
  | _ =>
      rw [← seen]
      exact part

theorem first_of_origin {family : Family} {links : List Fault} {found : Fault}
    (first : firstOf? family links = some found) :
    found ∈ links ∧ found.family? = some family ∨
      ∃ raised, .raised raised ∈ links ∧ raised.reached? family = some found := by
  induction links with
  | nil => cases first
  | cons link rest ih =>
      have next : (if link.family? = some family then some link else firstOf? family rest) =
            some found →
          found ∈ link :: rest ∧ found.family? = some family ∨
            ∃ raised, .raised raised ∈ link :: rest ∧ raised.reached? family = some found := by
        intro chosen
        by_cases typed : link.family? = some family
        · rw [if_pos typed] at chosen
          cases chosen
          exact .inl ⟨List.mem_cons_self, typed⟩
        · rw [if_neg typed] at chosen
          rcases ih chosen with ⟨member, kind⟩ | ⟨raised, member, reached⟩
          · exact .inl ⟨List.mem_cons_of_mem _ member, kind⟩
          · exact .inr ⟨raised, List.mem_cons_of_mem _ member, reached⟩
      cases link with
      | raised raised => exact .inr ⟨raised, List.mem_cons_self, first⟩
      | _ => exact next first

/-- A search finds nothing but parts of the fault. -/
theorem find?_part {family : Family} {fault found : Fault}
    (search : fault.find? family = some found) : found ∈ fault.parts := by
  have first : firstOf? family fault.causes = some found := by
    cases fault with
    | setup | evaluation => exact search
    | _ => cases search
  rcases first_of_origin first with ⟨member, typed⟩ | ⟨raised, member, reached⟩
  · refine (fault.part_of_cause member).resolve_right ?_
    rintro ⟨inner, _, standIn⟩
    rw [standIn] at typed
    cases typed
  · have part : raised ∈ fault.parts := by
      rcases fault.part_of_cause member with standIn | ⟨inner, inside, same⟩
      · exact part_trans standIn (List.mem_cons_of_mem _ raised.self_part)
      · cases same
        exact inside
    exact part_trans part (reached?_part reached)

/-- Every missing function in the fault was looked up in vain in one of the registries, and what
is suggested for it is like it there. -/
def Consulted (consulted : Registry → Prop) (fault : Fault) : Prop :=
  ∀ name suggestions, .missingFunction name suggestions ∈ fault.parts →
    ∃ registry, consulted registry ∧ registry.contains name = false ∧
      suggestions = suggestionsFor name registry.names

variable {consulted : Registry → Prop}

theorem consulted_around {fault inner : Fault} (shape : fault.parts = fault :: inner.parts)
    (other : fault.family? ≠ some .missingFunction) (within : inner.Consulted consulted) :
    fault.Consulted consulted := by
  intro name suggestions member
  rw [shape] at member
  rcases List.mem_cons.mp member with same | inside
  · rw [← same] at other
    exact absurd rfl other
  · exact within name suggestions inside

theorem consulted_alone {fault : Fault} (nothing : fault.parts = [fault])
    (other : fault.family? ≠ some .missingFunction) : fault.Consulted consulted := by
  intro name suggestions member
  rw [nothing] at member
  rw [← List.mem_singleton.mp member] at other
  exact absurd rfl other

theorem consulted_lasting : Fault.Lasting (Fault.Consulted consulted) where
  message _ := consulted_alone rfl nofun
  file _ := consulted_alone rfl nofun
  unknownLocation _ := consulted_alone rfl nofun
  refused _ _ := consulted_around rfl nofun (consulted_alone rfl nofun)
  lookup _ _ := consulted_around rfl nofun
  stage _ _ := consulted_around rfl nofun
  carried _ _ within := consulted_around rfl nofun (consulted_around rfl nofun within)
  layered _ _ := consulted_around rfl nofun
  evaluation _ _ _ := consulted_around rfl nofun

end Fault

variable {consulted : Registry → Prop}

theorem Registry.missing_consulted {registry : Registry} (known : consulted registry)
    {name : String} (absent : registry.contains name = false) :
    (registry.missing name).Consulted consulted := by
  intro other suggestions member
  cases List.mem_singleton.mp member
  exact ⟨registry, known, absent, rfl⟩

def Fault.Lists (fault : Fault) (template : Template) : Prop :=
  template.functions.names ≠ [] ∧
    fault.hintLines template.site =
      "\nAvailable functions: " ++ Fault.joinNames template.functions.names ++ "\n"

theorem Fault.hint_lines_missing {fault : Fault} (template : Template) {name : String}
    {suggestions : List String}
    (found : fault.find? .missingFunction = some (.missingFunction name suggestions)) :
    (suggestions = [] → template.functions.names ≠ [] → fault.Lists template) ∧
    (suggestions ≠ [] → fault.hintLines template.site =
      "\nDid you mean: " ++ Fault.joinNames suggestions ++ "?\n") := by
  constructor
  · rintro rfl some
    refine ⟨some, ?_⟩
    have listed : template.site.functions.isEmpty = false := by
      simpa [Template.site] using some
    simp only [hintLines, found, listed]
    rfl
  · intro some
    cases suggestions with
    | nil => exact absurd rfl some
    | cons first rest => simp only [hintLines, found]

/-- Only a missing function without suggestions has functions listed. -/
theorem Fault.Lists.about {fault : Fault} {template : Template} (lists : fault.Lists template) :
    ∃ name, fault.find? .missingFunction = some (.missingFunction name []) := by
  have second := congrArg (fun hint => hint.toList[1]?) lists.2
  unfold hintLines at second
  split at second
  · rename_i name found
    exact ⟨name, found⟩
  · simp [String.toList_append] at second
  · simp [String.toList_append] at second

theorem suggested_contained {registry : Registry} {name other : String}
    (absent : registry.contains name = false)
    (member : other ∈ suggestionsFor name registry.names) :
    registry.contains other = true ∧ other ≠ name := by
  rw [suggestions_for_eq] at member
  obtain ⟨known, _⟩ := (mem_ranked_names name other _).mp (List.mem_of_mem_take member)
  have contained := (registry.contains_iff other).mpr known
  refine ⟨contained, ?_⟩
  rintro rfl
  rw [contained] at absent
  cases absent

/-- The missing function that a report is about was looked up in vain in a registry, from which
come the suggestions, so they never name it. Functions of the template that failed are listed
exactly if nothing is suggested. They are those of the registry that was asked if this is the
template's own; the missing name can be among them only if the template has functions that the
registry has not. -/
theorem missing_function_reported (consulted : Registry → Prop) (catalog : Catalog)
    (files : FileTree) (reach : Nat) (template : Template) (supply : Supply) (world : World)
    (fault : Fault) (stocked : catalog.Keeps (Fault.Consulted consulted))
    (made : template.Keeps (Fault.Consulted consulted))
    (given : supply.Keeps (Fault.Consulted consulted))
    (failed : ((template.run (catalog.within files reach) supply).run world).1 =
      .error fault) :
    fault.report = fault.heading template.site ++ fault.causeLines ++
      fault.hintLines template.site ∧
    (fault.Lists template ↔ template.functions.names ≠ [] ∧
      ∃ name, fault.find? .missingFunction = some (.missingFunction name [])) ∧
    ∀ name suggestions,
      fault.find? .missingFunction = some (.missingFunction name suggestions) →
      ∃ registry, consulted registry ∧ registry.contains name = false ∧
        registry.missing name = .missingFunction name suggestions ∧
        (suggestions ≠ [] → fault.hintLines template.site =
          "\nDid you mean: " ++ Fault.joinNames suggestions ++ "?\n") ∧
        (∀ other ∈ suggestions, registry.contains other = true ∧ other ≠ name) ∧
        ((∀ other ∈ template.functions.names, registry.contains other = true) →
          name ∉ template.functions.names) := by
  refine ⟨?_, ⟨?_, ?_⟩, ?_⟩
  · exact fault.report_of_site _ (template.site_of_failed _ supply world fault failed)
  · exact fun lists => ⟨lists.1, lists.about⟩
  · rintro ⟨some, name, found⟩
    exact (Fault.hint_lines_missing template found).1 rfl some
  · intro name suggestions found
    have near := Catalog.within_keeps Fault.consulted_lasting stocked files reach
    have kept : fault.Consulted consulted :=
      template.run_keeps Fault.consulted_lasting near given made world fault failed
    obtain ⟨registry, known, absent, same⟩ := kept name suggestions (Fault.find?_part found)
    refine ⟨registry, known, absent, ?_, (Fault.hint_lines_missing template found).2, ?_, ?_⟩
    · rw [Registry.missing, same]
    · intro other member
      exact suggested_contained absent (same ▸ member)
    · intro every member
      rw [every name member] at absent
      cases absent

def mixer : Registry := [("volume", fun _ => .done (.string "low"))]

def greeter : Template :=
  .mk none (.program (.invoke "relay" [] .ofExcept) none) []
    [("greet", fun _ => .done (.string "hello")), ("relay", mixer.call "greet")]

theorem mixer_lacks_greet : mixer.contains "greet" = false := by decide

theorem mixer_call_greet : mixer.call "greet" = fun _ => .fail (.missingFunction "greet" []) := by
  have suggested : suggestionsFor "greet" mixer.names = [] := by decide +kernel
  funext args
  rw [Registry.call_absent mixer_lacks_greet, Registry.missing, suggested]

theorem greeter_consulted :
    greeter.Keeps (Fault.Consulted (· = mixer)) := by
  refine ⟨⟨?_, ?_⟩, fun _ => trivial, ?_, trivial⟩
  · intro unknown
    cases unknown
  · intro reply told
    cases reply with
    | ok value => trivial
    | error fault => exact told fault rfl
  · intro args
    rw [Registry.call_absent mixer_lacks_greet]
    exact @Registry.missing_consulted (· = mixer) mixer rfl "greet" mixer_lacks_greet

theorem greeter_fails :
    ((greeter.run (Catalog.empty.within FileTree.empty 0) .nothing).run World.fresh).1 =
      .error (.evaluation greeter.site Context.empty.summary (.missingFunction "greet" [])) := by
  rw [greeter, mixer_call_greet]
  rfl

/-- The mixer is the one registry in which a name is missing. -/
theorem missing_function_reported_greeter :
    (Catalog.empty.Keeps (Fault.Consulted (· = mixer)) ∧
      greeter.Keeps (Fault.Consulted (· = mixer)) ∧
      Supply.nothing.Keeps (Fault.Consulted (· = mixer))) ∧
    ∃ fault, ((greeter.run (Catalog.empty.within FileTree.empty 0) .nothing).run
        World.fresh).1 = .error fault ∧
      fault.Lists greeter ∧
      mixer.contains "greet" = false ∧ mixer.missing "greet" = .missingFunction "greet" [] ∧
      fault.report = "ERROR: Template Render Failed\n\nTemplate: <inline>\nContext: (empty)\n\n" ++
        "Could not render template\n  → Could not invoke function \"greet\": " ++
        "function does not exist or is not callable\n\nAvailable functions: greet, relay\n" := by
  have stocked : Catalog.empty.Keeps (Fault.Consulted (· = mixer)) := by
    intro location action found
    cases found
  refine ⟨⟨stocked, greeter_consulted, trivial⟩, _, greeter_fails, ?_⟩
  obtain ⟨_, lists, looked⟩ := missing_function_reported (· = mixer)
    Catalog.empty FileTree.empty 0 greeter .nothing World.fresh _ stocked greeter_consulted
    trivial greeter_fails
  obtain ⟨registry, same, absent, missing, _⟩ := looked "greet" [] rfl
  rw [same] at absent missing
  refine ⟨lists.mpr ⟨?_, "greet", rfl⟩, absent, missing, ?_⟩
  · exact List.cons_ne_nil _ _
  · decide +kernel

/-- The report says that there is no function `greet` and lists it among those to call. -/
theorem report_lists_missing_name :
    ∃ fault, ((greeter.run (Catalog.empty.within FileTree.empty 0) .nothing).run
        World.fresh).1 = .error fault ∧
      fault.find? .missingFunction = some (.missingFunction "greet" []) ∧
      fault.hintLines greeter.site =
        "\nAvailable functions: " ++ Fault.joinNames greeter.functions.names ++ "\n" ∧
      "greet" ∈ greeter.functions.names ∧ mixer.contains "greet" = false :=
  ⟨_, greeter_fails, rfl, rfl, List.mem_cons_self, mixer_lacks_greet⟩

end Stencil
