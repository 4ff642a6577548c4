import Stencil.Proofs.PageFailure

/-!
What a failed render tells. Below its own message come the texts of what its body
raised, as they are: a render that failed inside another one tells its message and
then its own causes. In the body of a page a refused request tells the complaint of
the page and then the texts of the refusal. The report shows these texts, one on a
line.
-/

namespace Stencil

theorem Engine.captured_failed {α : Type} (act : Engine α) (world : World) (fault : Fault)
    (failed : ((captured act).run world).1 = .error fault) :
    (act.run world.opened).1 = .error fault := by
  rw [run_captured] at failed
  dsimp only at failed
  cases ended : (act.run world.opened).1 with
  | ok result =>
      rw [ended] at failed
      cases failed
  | error raised =>
      rw [ended] at failed
      cases failed
      rfl

theorem Engine.captured_raises {α : Type} (act : Engine α) (world : World) (fault : Fault)
    (raised : (act.run world.opened).1 = .error fault) :
    ((captured act).run world).1 = .error fault := by
  rw [run_captured]
  dsimp only
  rw [raised]

theorem Template.run_accepted (around : Surroundings) (supply : Supply) (template : Template)
    (context : Context) (accepted : supply.toContext = .ok context) :
    template.run around supply = (do
      match ← Engine.attempt (Engine.captured
          (template.body.run around (template.bindings around context))) with
      | .ok rendition => return rendition
      | .error fault => throw (.evaluation template.site context.summary fault)) := by
  obtain ⟨name, body, defaults, functions⟩ := template
  rw [Template.run]
  simp only [accepted]
  rfl

/-- A render is its body under a capture; how that ends is reported. -/
theorem Template.run_within (around : Surroundings) (supply : Supply) (template : Template)
    (world : World) (context : Context) (accepted : supply.toContext = .ok context) :
    (template.run around supply).run world =
      let captured := (Engine.captured
        (template.body.run around (template.bindings around context))).run world
      (reported template.site context captured.1, captured.2) := by
  rw [template.run_accepted around supply context accepted, Engine.run_attempted]
  rcases (Engine.captured
    (template.body.run around (template.bindings around context))).run world with ⟨outcome, later⟩
  cases outcome <;> rfl

/-- A render fails because its context is none, or because its body fails. -/
theorem Template.run_failed (around : Surroundings) (supply : Supply) (template : Template)
    (world : World) (fault : Fault)
    (failed : ((template.run around supply).run world).1 = .error fault) :
    (∃ cause, supply.toContext = .error cause ∧ fault = .setup template.site cause) ∨
    ∃ context raised, supply.toContext = .ok context ∧
      ((template.body.run around (template.bindings around context)).run world.opened).1 =
        .error raised ∧
      fault = .evaluation template.site context.summary raised := by
  cases shape : supply.toContext with
  | error cause =>
      left
      obtain ⟨name, body, defaults, functions⟩ := template
      rw [Template.run, shape] at failed
      cases failed
      exact ⟨cause, rfl, rfl⟩
  | ok context =>
      right
      rw [template.run_within around supply world context shape] at failed
      dsimp only at failed
      cases ended : ((Engine.captured (template.body.run around
          (template.bindings around context))).run world).1 with
      | ok rendition =>
          rw [ended] at failed
          cases failed
      | error raised =>
          rw [ended] at failed
          cases failed
          exact ⟨context, raised, rfl, Engine.captured_failed _ world raised ended, rfl⟩

/-- A body that fails is what makes the render fail. -/
theorem Template.run_raises (around : Surroundings) (supply : Supply) (template : Template)
    (world : World) (context : Context) (accepted : supply.toContext = .ok context)
    (raised : Fault)
    (ended : ((template.body.run around (template.bindings around context)).run
      world.opened).1 = .error raised) :
    ((template.run around supply).run world).1 =
      .error (.evaluation template.site context.summary raised) := by
  have captured := Engine.captured_raises _ world raised ended
  rw [template.run_within around supply world context accepted]
  dsimp only
  rw [captured]
  rfl

theorem Template.site_of_failed (around : Surroundings) (supply : Supply) (template : Template)
    (world : World) (fault : Fault)
    (failed : ((template.run around supply).run world).1 = .error fault) :
    fault.site? = some template.site := by
  rcases template.run_failed around supply world fault failed with refused | evaluated
  · obtain ⟨cause, _, same⟩ := refused
    rw [same]
    rfl
  · obtain ⟨context, raised, _, _, same⟩ := evaluated
    rw [same]
    rfl

/-- A page fails because it cannot be read, or as its dialog does. -/
theorem run_page_failed (files : FileTree) (path : String) (bindings : Bindings) (world : World)
    (raised : Fault) (failed : ((runPage files path bindings).run world).1 = .error raised) :
    (∃ error, files.readText path = .error error ∧
      raised = .layered ("Failed to read template body: " ++ path) (.file error)) ∨
    ∃ source fault, files.readText path = .ok source ∧
      (((Markup.render source).run bindings).run world).1 = .ok (.error fault) ∧
      raised = .layered ("Failed to evaluate template body: " ++ path) fault := by
  unfold runPage at failed
  cases read : files.readText path with
  | error error =>
      left
      rw [read] at failed
      cases failed
      exact ⟨error, rfl, rfl⟩
  | ok source =>
      right
      rw [read] at failed
      dsimp only at failed
      have ends := Markup.render_settled source .any (by decide) nofun
      obtain ⟨answer, later, ran, _⟩ := Dialog.run_ends bindings (Markup.render source) ends world
      rw [Engine.run_bind, ran] at failed
      cases answer with
      | ok text =>
          dsimp only at failed
          rw [Engine.run_bind] at failed
          cases failed
      | error fault =>
          cases failed
          exact ⟨source, fault, rfl, congrArg Prod.fst ran, rfl⟩

/-- What the failure of a page tells: that the file could not be read; or, under the
layer of the file and the steps of the page, a message of the page or a complaint
about a refused request of this run and then all that the refusal tells. If the page
keeps failures, a refused request is what it fails for. -/
def PageStory (files : FileTree) (path : String) (bindings : Bindings) (world : World)
    (texts : List String) : Prop :=
  (∃ error, files.readText path = .error error ∧
    texts = ["Failed to read template body: " ++ path, error.text]) ∨
  ∃ source, files.readText path = .ok source ∧
    let exchanges := (Markup.render source).exchanges bindings world
    ((∃ text, Markup.Tells path [text] texts) ∨
      ∃ asking fault, ⟨asking, .error fault⟩ ∈ exchanges ∧
        Markup.Tells path (asking.complaint :: fault.story) texts) ∧
    (Markup.keeps source = true → ∀ asking fault, ⟨asking, .error fault⟩ ∈ exchanges →
      Markup.Tells path (asking.complaint :: fault.story) texts)

theorem page_tells (path : String) (steps : List String)
    (named : ∀ step ∈ steps, Markup.Step step) (inner : Fault) :
    Markup.Tells path inner.story
      (Fault.layered ("Failed to evaluate template body: " ++ path) (inner.under steps)).story := by
  refine ⟨steps, named, ?_⟩
  rw [Fault.story_own _ (inner.under steps) rfl rfl, Fault.story_under]
  rfl

theorem run_page_story (files : FileTree) (path : String) (bindings : Bindings) (world : World)
    (raised : Fault) (failed : ((runPage files path bindings).run world).1 = .error raised) :
    PageStory files path bindings world raised.story := by
  rcases run_page_failed files path bindings world raised failed with unread | evaluated
  · obtain ⟨error, read, same⟩ := unread
    left
    refine ⟨error, read, ?_⟩
    rw [same]
    rfl
  · obtain ⟨source, fault, read, ran, same⟩ := evaluated
    right
    refine ⟨source, read, ?_, ?_⟩
    · have ends := Markup.render_settled source .any (by decide) nofun
      obtain ⟨answer, later, run, settled⟩ :=
        Dialog.run_ends bindings (Markup.render source) ends world
      rw [run] at ran
      cases ran
      rw [same]
      cases settled with
      | own steps named text calm =>
          left
          exact ⟨text, page_tells path steps named (.message text)⟩
      | refused steps named asking cause earlier after split last =>
          right
          refine ⟨asking, cause, ?_, ?_⟩
          · rw [split]
            exact List.mem_append_right earlier List.mem_cons_self
          · rw [← asking.story_refused cause]
            exact page_tells path steps named (asking.refused cause)
    · intro kept asking cause member
      have ends := Markup.render_settled source .firm (by decide) fun _ => kept
      obtain ⟨answer, later, run, settled⟩ :=
        Dialog.run_ends bindings (Markup.render source) ends world
      rw [run] at ran
      cases ran
      obtain ⟨steps, named, refused⟩ := settled.refusal member
      cases refused
      rw [same, ← asking.story_refused cause]
      exact page_tells path steps named (asking.refused cause)

/-- The texts below a failed render are those of what stopped it, whole and in
order. Inside them each failure, be it of another render, tells its own text and
then its own causes, and no text of a part is left out or repeated. -/
theorem render_failure_tells (catalog : Catalog) (files : FileTree) (reach : Nat)
    (template : Template) (supply : Supply) (world : World) (fault : Fault)
    (failed : ((template.run (catalog.within files reach) supply).run world).1 =
      .error fault) :
    let bindings := template.bindings (catalog.within files reach)
    let raises := fun (context : Context) (raised : Fault) =>
      ((template.body.run (catalog.within files reach) (bindings context)).run
        world.opened).1 = .error raised
    ((∃ cause, supply.toContext = .error cause ∧ fault.causeTexts = cause.story) ∨
      ∃ context raised, supply.toContext = .ok context ∧ raises context raised ∧
        fault.causeTexts = raised.story ∧
        ∀ path, template.body = .page path →
          PageStory files path (bindings context) world.opened fault.causeTexts) ∧
    fault.text :: fault.causeTexts = fault.story ∧
    (∀ part ∈ fault.parts, ∃ outer, fault.parts = outer ++ part.parts ∧
      fault.story = Fault.messages outer ++ part.text :: part.causeTexts) ∧
    fault.report = fault.heading template.site ++
      String.join (fault.causeTexts.map Fault.arrowLine) ++ fault.hintLines template.site := by
  intro bindings raises
  have site := template.site_of_failed _ supply world fault failed
  refine ⟨?_, fault.text_cause_texts, fault.story_of_part, fault.report_of_site _ site⟩
  rcases template.run_failed _ supply world fault failed with refused | evaluated
  · obtain ⟨cause, shape, same⟩ := refused
    left
    refine ⟨cause, shape, ?_⟩
    rw [same]
    exact Fault.cause_texts_of_story _ _ (Fault.story_own _ cause rfl rfl)
  · obtain ⟨context, raised, accepted, ended, same⟩ := evaluated
    right
    have texts : fault.causeTexts = raised.story := by
      rw [same]
      exact Fault.cause_texts_of_story _ _ (Fault.story_own _ raised rfl rfl)
    refine ⟨context, raised, accepted, ended, texts, ?_⟩
    intro path page
    rw [page, Body.run] at ended
    rw [texts]
    exact run_page_story files path _ _ raised ended

/-- A page that calls a function, which renders a body that fails and says where. -/
def drawing : Template :=
  .mk none (.page "p") [] [("x", fun _ =>
    .render (.mk none (.program (.fail (.message "boom")) none) [] []) .nothing fun
      | .ok _ => .done .null
      | .error fault => .fail (.layered "while drawing" fault))]

def drawingFiles : FileTree :=
  { entries := [(["p"], .file "\x7b\x7b f(name=\"x\") \x7d\x7d".toUTF8)] }

theorem render_failure_tells_drawing :
    ∃ fault, ((drawing.run (Catalog.empty.within drawingFiles 0) .nothing).run
        World.fresh).1 = .error fault ∧
      fault.causeTexts = ["Failed to evaluate template body: p",
        "Failed to render '__tera_one_off'", "Function call 'f' failed",
        "\x60f\x60 could not invoke \"x\"", "while drawing", "Could not render template",
        "boom"] ∧
      fault.text :: fault.causeTexts = fault.story ∧
      fault.report = fault.heading drawing.site ++
        String.join (fault.causeTexts.map Fault.arrowLine) ++ fault.hintLines drawing.site := by
  have shown : (match ((drawing.run (Catalog.empty.within drawingFiles 0) .nothing).run
      World.fresh).1 with
    | .ok _ => false
    | .error fault => fault.causeTexts == ["Failed to evaluate template body: p",
        "Failed to render '__tera_one_off'", "Function call 'f' failed",
        "\x60f\x60 could not invoke \"x\"", "while drawing", "Could not render template",
        "boom"]) = true := by decide +kernel
  cases failed : ((drawing.run (Catalog.empty.within drawingFiles 0) .nothing).run
      World.fresh).1 with
  | ok rendition =>
      rw [failed] at shown
      cases shown
  | error fault =>
      rw [failed] at shown
      obtain ⟨_, told, _, report⟩ := render_failure_tells Catalog.empty drawingFiles 0 drawing
        .nothing World.fresh fault failed
      exact ⟨fault, rfl, eq_of_beq shown, told, report⟩

end Stencil
