import Stencil.Proofs.RenderFailure
import Stencil.Proofs.StageFault

/-!
Which fault a command reports. Rendering a page goes through stages: the settings, the
context file, the assignments from left to right, the location of the page, the rendering
and the output. The first stage that fails decides what is told, and nothing that comes
after it matters.
-/

namespace Stencil

namespace PageOrder

/-- What the command tells if a stage fails. Every stage asks only that those before it have
gone well. -/
inductive Reports (order : PageOrder) (source : SettingsSource) (files : FileTree)
    (console : Console) : CommandFault → Prop
  | settings (told : CommandFault) (fails : source.Fails files told) :
      Reports order source files console told
  | contextFile (settings : Settings) (told : CommandFault)
      (settled : source.InForce files settings) (fails : order.FileFails files told) :
      Reports order source files console told
  | assignment (settings : Settings) (fields : Fields) (earlier : List String) (bad : String)
      (later : List String) (settled : source.InForce files settings)
      (based : order.base files = .ok fields)
      (split : order.assignments = earlier ++ bad :: later)
      (fine : ∀ assignment ∈ earlier, ¬ Assignment.Malformed assignment)
      (malformed : Assignment.Malformed bad) :
      Reports order source files console (.invalidAssignment bad)
  | location (settings : Settings) (fields : Fields) (settled : source.InForce files settings)
      (merged : order.context files = .ok fields) (unlocated : order.template.isEmpty = true) :
      Reports order source files console (.other "Invalid template location '': path is empty")
  | page (settings : Settings) (fields : Fields) (settled : source.InForce files settings)
      (merged : order.context files = .ok fields) (located : order.template.isEmpty = false)
      (absent : files.isFile (settings.pageFile order.template) = false) :
      Reports order source files console (.templateNotFound (settings.pageFile order.template))
  | rendering (settings : Settings) (fields : Fields) (fault : Fault)
      (settled : source.InForce files settings) (merged : order.context files = .ok fields)
      (located : order.template.isEmpty = false)
      (present : files.isFile (settings.pageFile order.template) = true)
      (failed : (((settings.page order.template).run (Catalog.empty.surroundings files)
        (.context (.map fields))).run World.fresh).1 = .error fault) :
      Reports order source files console (.renderFailed order.template)
  | output (path text : String) (told : CommandFault) (given : order.output = some path)
      (renders : order.Renders source files text) (fails : files.OutputFails path text told) :
      Reports order source files console told
  | console (text : String) (count : Nat) (error : FileError) (given : order.output = none)
      (renders : order.Renders source files text)
      (stops : console.stops? text = some (count, error)) :
      Reports order source files console (error.told "Failed to write to stdout")

variable {order : PageOrder} {source : SettingsSource} {files : FileTree} {console : Console}
  {told : CommandFault} {settings : Settings} {fields : Fields}

theorem told_rendering {fault : Fault}
    (failed : (((settings.page order.template).run (Catalog.empty.surroundings files)
      (.context (.map fields))).run World.fresh).1 = .error fault) :
    fault.diagnosis.fault = .renderFailed order.template :=
  Fault.told_render fault (settings.page order.template).site
    (Template.site_of_failed _ _ _ _ fault failed)

theorem context_reported (settled : source.InForce files settings)
    (tells : Tells (order.context files) told) : order.Reports source files console told := by
  rw [context_eq] at tells
  cases based : order.base files with
  | error fault =>
      rw [based] at tells
      have fails := (order.base_tells_iff files told).mp ⟨fault, based, (tells_error _ _).mp tells⟩
      exact .contextFile settings told settled fails
  | ok base =>
      rw [based] at tells
      obtain ⟨earlier, bad, later, split, fine, malformed, rfl⟩ :=
        (assignments_tell_iff _ _ _).mp tells
      exact .assignment settings base earlier bad later settled based split fine malformed

/-- Before the output the stages fail one by one. -/
theorem text_reported (settled : source.InForce files settings)
    (tells : Tells (order.text settings files) told) : order.Reports source files console told := by
  rw [text_staged] at tells
  cases merged : order.context files with
  | error fault =>
      rw [merged] at tells
      exact context_reported settled ⟨fault, merged, (tells_error _ _).mp tells⟩
  | ok fields =>
      rw [merged] at tells
      dsimp only at tells
      cases located : order.template.isEmpty with
      | true =>
          rw [located, if_pos rfl, tells_error] at tells
          rw [← tells]
          exact .location settings fields settled merged located
      | false =>
          rw [located] at tells
          cases present : files.isFile (settings.pageFile order.template) with
          | false =>
              simp only [present, Bool.false_eq_true, if_false, tells_error] at tells
              rw [← tells]
              exact .page settings fields settled merged located present
          | true =>
              simp only [present, Bool.false_eq_true, if_false, if_true] at tells
              cases rendered : (((settings.page order.template).run
                  (Catalog.empty.surroundings files) (.context (.map fields))).run
                  World.fresh).1 with
              | ok rendition =>
                  rw [rendered] at tells
                  exact absurd tells (not_tells_ok _ _)
              | error fault =>
                  rw [rendered] at tells
                  have shown : fault.diagnosis.fault = told := (tells_error _ _).mp tells
                  rw [← shown, told_rendering rendered]
                  exact .rendering settings fields fault settled merged located present rendered

theorem run_reported (settled : source.InForce files settings)
    (tells : Tells (order.run settings files console).result told) :
    order.Reports source files console told := by
  unfold PageOrder.run at tells
  cases staged : order.text settings files with
  | error fault =>
      rw [staged] at tells
      exact text_reported settled ⟨fault, staged, (tells_error _ _).mp tells⟩
  | ok text =>
      rw [staged] at tells
      -- There is a text, so what has failed is to put it out.
      obtain ⟨fields, value, stages⟩ :=
        (order.text_ok_iff source settings files text settled).mp staged
      cases given : order.output with
      | none =>
          rw [given] at tells
          obtain ⟨count, error, stops, rfl⟩ := (console.put_tells_iff files text told).mp tells
          exact .console text count error given ⟨settings, fields, value, stages⟩ stops
      | some path =>
          rw [given] at tells
          exact .output path text told given ⟨settings, fields, value, stages⟩
            ((files.deliver_tells_iff path text told).mp tells)

theorem told_of_context (settings : Settings)
    (tells : Tells (order.context files) told) : Tells (order.text settings files) told := by
  obtain ⟨fault, failed, shown⟩ := tells
  refine ⟨fault, ?_, shown⟩
  rw [text_staged, failed]

theorem told_of_text (tells : Tells (order.text settings files) told) :
    Tells (order.run settings files console).result told := by
  obtain ⟨fault, failed, shown⟩ := tells
  refine ⟨fault, ?_, shown⟩
  rw [PageOrder.run, failed]
  rfl

end PageOrder

theorem Invocation.run_settled {source : SettingsSource} {files : FileTree} {settings : Settings}
    (settled : source.InForce files settings) (order : PageOrder) (console : Console)
    (verbose quiet : Bool) :
    (Invocation.mk (.render order) verbose quiet source.named).run source.environment source.home
      files console = order.run settings files console := by
  have loaded := (source.load_ok_iff files settings).mpr settled
  unfold Invocation.run
  rw [loaded]
  rfl

/-- One case for each stage: those before it go well, so the command gets that far. -/
theorem PageOrder.Reports.tells {order : PageOrder} {source : SettingsSource} {files : FileTree}
    {console : Console} {told : CommandFault} (reports : order.Reports source files console told)
    (verbose quiet : Bool) :
    Tells ((Invocation.mk (.render order) verbose quiet source.named).run source.environment
      source.home files console).result told := by
  cases reports with
  | settings _ fails =>
      obtain ⟨fault, failed, shown⟩ := (source.load_tells_iff files told).mpr fails
      refine ⟨fault, ?_, shown⟩
      unfold Invocation.run
      rw [failed]
      rfl
  | contextFile settings _ settled fails =>
      obtain ⟨fault, failed, shown⟩ := (order.base_tells_iff files told).mpr fails
      rw [Invocation.run_settled settled]
      apply told_of_text (told_of_context settings ⟨fault, ?_, shown⟩)
      rw [context_eq, failed]
  | assignment settings fields earlier bad later settled based split fine malformed =>
      rw [Invocation.run_settled settled]
      apply told_of_text (told_of_context settings _)
      rw [context_eq, based]
      exact (assignments_tell_iff _ _ _).mpr ⟨earlier, bad, later, split, fine, malformed, rfl⟩
  | location settings fields settled merged unlocated =>
      rw [Invocation.run_settled settled]
      apply told_of_text
      rw [text_staged, merged]
      dsimp only
      rw [if_pos unlocated, tells_error]
      rfl
  | page settings fields settled merged located absent =>
      rw [Invocation.run_settled settled]
      apply told_of_text
      rw [text_staged, merged]
      simp only [located, absent, Bool.false_eq_true, if_false, tells_error]
      rfl
  | rendering settings fields fault settled merged located present failed =>
      rw [Invocation.run_settled settled]
      apply told_of_text
      rw [text_staged, merged]
      simp only [located, present, failed, Bool.false_eq_true, if_false, if_true]
      exact (tells_error _ _).mpr (told_rendering failed)
  | output path text _ given renders fails =>
      obtain ⟨settings, fields, value, stages⟩ := renders
      have staged := (order.text_ok_iff source settings files text stages.settled).mpr
        ⟨fields, value, stages⟩
      rw [Invocation.run_settled stages.settled, PageOrder.run, staged, given]
      exact (files.deliver_tells_iff path text told).mpr fails
  | console text count error given renders stops =>
      obtain ⟨settings, fields, value, stages⟩ := renders
      have staged := (order.text_ok_iff source settings files text stages.settled).mpr
        ⟨fields, value, stages⟩
      rw [Invocation.run_settled stages.settled, PageOrder.run, staged, given]
      exact (console.put_tells_iff files text _).mpr ⟨count, error, stops, rfl⟩

/-- A command tells the fault of the first stage that fails, and tells it by its kind. No later
stage is asked about. If none fails there is nothing to tell. Of a file that could not be used
a missing one and one without permission are told as such, of whatever stage it is, and
all others by the texts of the chain. -/
theorem render_command_reports_first_fault (order : PageOrder) (verbose quiet : Bool)
    (named environment : Option String) (home : String) (files : FileTree) (console : Console)
    (told : CommandFault) :
    let outcome :=
      (Invocation.mk (.render order) verbose quiet named).run environment home files console
    (Tells outcome.result told ↔
      order.Reports ⟨named, environment, home⟩ files console told) ∧
    ∀ headline error,
      (Fault.layered headline (.file error)).diagnosis.fault = error.told headline := by
  intro outcome
  let source : SettingsSource := ⟨named, environment, home⟩
  refine ⟨⟨?_, fun reports => reports.tells verbose quiet⟩, Fault.told_file⟩
  intro tells
  cases loaded : source.load files with
  | error fault =>
      have same : outcome = .failed files fault := by
        simp only [outcome, Invocation.run, source] at loaded ⊢
        rw [loaded]
      rw [same] at tells
      apply PageOrder.Reports.settings
      exact (source.load_tells_iff files told).mp ⟨fault, loaded, (tells_error _ _).mp tells⟩
  | ok settings =>
      have settled := (source.load_ok_iff files settings).mp loaded
      have same : outcome = order.run settings files console :=
        Invocation.run_settled settled order console verbose quiet
      rw [same] at tells
      exact PageOrder.run_reported settled tells

def lockedContext : FileTree :=
  (FileTree.empty.addEntry "ctx.json" (.file "\x7b\x7d".toUTF8)).bar ["ctx.json"] .read

/-- A context file that may not be read is told as such and not by the texts. -/
theorem forbidden_context_told_by_kind :
    let order : PageOrder := ⟨"t.tera", some "ctx.json", [], none⟩
    let outcome := (Invocation.mk (.render order) false false none).run none "home" lockedContext
    lockedContext.isFile "ctx.json" = true ∧
    lockedContext.readText "ctx.json" = .error .forbidden ∧
    Tells outcome.result (.permissionDenied "file access" "unknown") ∧
    ¬ Tells outcome.result
      (.explained "Failed to read data file: ctx.json" FileError.forbidden.text) := by
  intro order outcome
  have refused : lockedContext.readText "ctx.json" = .error .forbidden := rfl
  have known : DataFormat.ofPath? "ctx.json" = some .json := by decide +kernel
  have unnamed : SettingsSource.selected? ⟨none, none, "home"⟩ lockedContext = none := by
    decide +kernel
  have reports : order.Reports ⟨none, none, "home"⟩ lockedContext .free
      (.permissionDenied "file access" "unknown") :=
    .contextFile _ _ (.initial unnamed) (.unread "ctx.json" .json .forbidden rfl known refused)
  have tells : Tells outcome.result (.permissionDenied "file access" "unknown") :=
    reports.tells false false
  refine ⟨rfl, refused, tells, fun explained => ?_⟩
  cases tells.unique explained

end Stencil
