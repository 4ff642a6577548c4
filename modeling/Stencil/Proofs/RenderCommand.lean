import Stencil.Proofs.FileChange
import Stencil.Proofs.Rendering

/-!
The command that renders a page. It renders the page first and puts the text out last, so a
command that cannot render leaves nothing behind. What it reads are the settings in force,
the context file and the page, each found by its path; no other file matters to it.
-/

namespace Stencil

namespace SettingsSource

/-- The files that may hold the settings, the first choice first. -/
def choices (source : SettingsSource) (files : FileTree) : List String :=
  source.named.toList ++ (source.environment.filter fun path => !path.isEmpty).toList ++
    if files.exists? source.homeFile then [source.homeFile] else []

def selected? (source : SettingsSource) (files : FileTree) : Option String :=
  (source.choices files).head?

/-- The settings are those in the file of first choice, or the initial ones if there is no
file to choose. -/
inductive InForce (source : SettingsSource) (files : FileTree) : Settings → Prop
  | initial (unnamed : source.selected? files = none) : InForce source files Settings.initial
  | file (path text : String) (settings : Settings)
      (selected : source.selected? files = some path) (read : files.readText path = .ok text)
      (said : (Toml.parse? text).bind Settings.ofValue? = some settings) :
      InForce source files settings

theorem selected_required (source : SettingsSource) (files : FileTree) :
    source.selected? files = source.required?.or
      (if files.exists? source.homeFile then some source.homeFile else none) := by
  obtain ⟨named, environment, home⟩ := source
  unfold selected? choices required?
  cases named with
  | some path => rfl
  | none =>
      cases environment.filter fun path => !path.isEmpty with
      | some path => rfl
      | none =>
          dsimp only
          split <;> rfl

end SettingsSource

theorem FileTree.exists?_of_read {files : FileTree} {path text : String}
    (read : files.readText path = .ok text) : files.exists? path = true := by
  obtain ⟨content, found⟩ := FileTree.resolve_of_read read
  rw [FileTree.exists?, found]

theorem Settings.read_ok_iff (files : FileTree) (path : String) (settings : Settings) :
    Settings.read files path = .ok settings ↔ ∃ text, files.readText path = .ok text ∧
      (Toml.parse? text).bind Settings.ofValue? = some settings := by
  unfold Settings.read
  cases files.readText path with
  | error error => simp
  | ok text =>
      cases said : (Toml.parse? text).bind Settings.ofValue? with
      | none => simp [said]
      | some found => simp [said]

/-- Loading gives the settings in force, and fails if there are none. -/
theorem SettingsSource.load_ok_iff (source : SettingsSource) (files : FileTree)
    (settings : Settings) :
    source.load files = .ok settings ↔ source.InForce files settings := by
  have selection := source.selected_required files
  have chosen : ∀ path, source.selected? files = some path →
      (Settings.read files path = .ok settings ↔ source.InForce files settings) := by
    intro path selected
    rw [Settings.read_ok_iff]
    constructor
    · rintro ⟨text, read, said⟩
      exact .file path text settings selected read said
    · intro inForce
      cases inForce with
      | initial unnamed =>
          rw [selected] at unnamed
          cases unnamed
      | file other text settings chosen read said =>
          rw [selected] at chosen
          cases chosen
          exact ⟨text, read, said⟩
  unfold load
  cases named : source.required? with
  | some path =>
      rw [named] at selection
      rw [← chosen path selection]
      dsimp only
      split
      · rfl
      · rename_i absent
        rw [Settings.read_ok_iff]
        constructor
        · nofun
        · rintro ⟨text, read, _⟩
          exact absurd (FileTree.exists?_of_read read) absent
  | none =>
      rw [named] at selection
      dsimp only
      split
      · rename_i present
        rw [if_pos present] at selection
        exact chosen _ selection
      · rename_i absent
        rw [if_neg absent] at selection
        constructor
        · intro same
          cases same
          exact .initial selection
        · intro inForce
          cases inForce with
          | initial unnamed => rfl
          | file path text settings selected read said =>
              rw [selection] at selected
              cases selected

def Settings.pageFile (settings : Settings) (location : String) : String :=
  match settings.templateDir with
  | some directory => Path.join directory location
  | none => location

def Settings.page (settings : Settings) (location : String) : Template :=
  .mk (some location) (.page (settings.pageFile location)) settings.defaults settings.functions

theorem Settings.factory_template (settings : Settings) (location : String) :
    settings.factory.template Catalog.empty location =
      if location.isEmpty then .error (.badLocation "" "path is empty")
      else .ok (settings.page location) := by
  unfold Factory.template BodySource.body Settings.page Settings.pageFile
  simp only [factory, factoryWith]
  split
  · rfl
  · cases settings.templateDir <;> rfl

namespace PageOrder

/-- All that has to go well before there is a text: the settings are in force, the context
is read and the assignments are laid over it, the page is there, and it renders. -/
structure Stages (order : PageOrder) (source : SettingsSource) (files : FileTree)
    (settings : Settings) (fields : Fields) (value : Value) (text : String) : Prop where
  settled : source.InForce files settings
  merged : order.context files = .ok fields
  located : order.template.isEmpty = false
  present : files.isFile (settings.pageFile order.template) = true
  rendered : (((settings.page order.template).run (Catalog.empty.surroundings files)
    (.context (.map fields))).run World.fresh).1 = .ok (value, text)

/-- The command has this text to put out. -/
def Renders (order : PageOrder) (source : SettingsSource) (files : FileTree)
    (text : String) : Prop :=
  ∃ settings fields value, order.Stages source files settings fields value text

theorem text_staged (order : PageOrder) (settings : Settings) (files : FileTree) :
    order.text settings files =
      match order.context files with
      | .error fault => .error fault
      | .ok fields =>
          if order.template.isEmpty then .error (.badLocation "" "path is empty")
          else if files.isFile (settings.pageFile order.template) then
            (((settings.page order.template).run (Catalog.empty.surroundings files)
              (.context (.map fields))).run World.fresh).1.map Prod.snd
          else .error (.command (.templateNotFound (settings.pageFile order.template))) := by
  unfold PageOrder.text
  rw [settings.factory_template]
  cases order.context files with
  | error fault => rfl
  | ok fields =>
      cases order.template.isEmpty with
      | true => rfl
      | false =>
          have place : (settings.page order.template).location? =
              some (settings.pageFile order.template) := rfl
          simp only [bind, Except.bind, Bool.false_eq_true, if_false, place]
          cases files.isFile (settings.pageFile order.template) with
          | false => rfl
          | true =>
              simp only [Bool.not_true, Bool.false_eq_true, if_false, if_true, pure, Except.pure]
              cases (((settings.page order.template).run (Catalog.empty.surroundings files)
                (.context (.map fields))).run World.fresh).1 <;> rfl

theorem text_ok_iff (order : PageOrder) (source : SettingsSource) (settings : Settings)
    (files : FileTree) (text : String) (settled : source.InForce files settings) :
    order.text settings files = .ok text ↔
      ∃ fields value, order.Stages source files settings fields value text := by
  rw [text_staged]
  constructor
  · intro done
    cases merged : order.context files with
    | error fault =>
        rw [merged] at done
        cases done
    | ok fields =>
        rw [merged] at done
        dsimp only at done
        split at done
        · cases done
        · rename_i located
          split at done
          · rename_i present
            cases rendered : (((settings.page order.template).run
                (Catalog.empty.surroundings files) (.context (.map fields))).run
                World.fresh).1 with
            | error fault =>
                rw [rendered] at done
                cases done
            | ok rendition =>
                rw [rendered] at done
                cases done
                exact ⟨fields, rendition.1, settled, merged, (Bool.not_eq_true _).mp located,
                  present, rendered⟩
          · cases done
  · rintro ⟨fields, value, stages⟩
    rw [stages.merged]
    simp only [stages.located, stages.present, stages.rendered, Bool.false_eq_true, if_false,
      if_true]
    rfl

end PageOrder

/-- What has become of the files and the console once a text has been put out. The console may
refuse it, and the output file may be one that can be written and not read. -/
def Outcome.PutsOut (outcome : Outcome) (output : Option String) (files : FileTree)
    (console : Console) (text : String) : Prop :=
  match output with
  | none => outcome.files = files ∧
      match console.stops? text with
      | none => outcome.console = text ∧ outcome.result = .ok ()
      | some (count, error) => outcome.console = String.ofList (text.toList.take count) ∧
          outcome.result = .error (.layered "Failed to write to stdout" (.file error))
  | some path => outcome.console = "" ∧
      ((∃ fault, outcome.result = .error fault) ∧ files.Extends outcome.files ∨
      outcome.result = .ok () ∧ outcome.files.barred = files.barred ∧
        ∃ place, outcome.files.locate path = .ok place ∧
        outcome.files.node? place = some (.file text.toUTF8) ∧
        (files.bars place .read = false → outcome.files.readText path = .ok text) ∧
        ∀ other, other ≠ place → outcome.files.node? other = files.node? other ∨
          (files.node? other = none ∧ outcome.files.node? other = some .directory))

theorem Console.put_puts_out (console : Console) (files : FileTree) (text : String) :
    (console.put files text).PutsOut none files console text := by
  unfold put Outcome.PutsOut
  cases console.stops? text with
  | none => exact ⟨rfl, rfl, rfl⟩
  | some stop => exact ⟨rfl, rfl, rfl⟩

theorem FileTree.deliver_puts_out (files : FileTree) (console : Console) (path text : String) :
    (files.deliver path text).PutsOut (some path) files console text := by
  obtain ⟨grown, extended, refused | delivered⟩ := files.deliver_cases path text
  · obtain ⟨fault, same⟩ := refused
    rw [same]
    exact ⟨rfl, .inl ⟨⟨fault, rfl⟩, extended⟩⟩
  · obtain ⟨written, done, same⟩ := delivered
    rw [same]
    obtain ⟨place, located, there, read, barred, others⟩ := write_text_read done
    refine ⟨rfl, .inr ⟨rfl, barred.trans extended.barred, place, located, there, ?_, ?_⟩⟩
    · intro readable
      exact read (by rw [bars_of_barred extended.barred, readable])
    · intro other apart
      change written.node? other = files.node? other ∨
        (files.node? other = none ∧ written.node? other = some .directory)
      rw [others other apart]
      exact extended.nodes other

namespace Builtin

def Computes (functions : Registry) : Prop :=
  ∀ entry ∈ functions, ∃ compute : List Value → Except Fault Value,
    ∀ args, entry.2 args = .ofExcept (compute args)

theorem register_computes {functions : Registry} (known : Computes functions) (name : String)
    (compute : List Value → Except Fault Value) :
    Computes (Registry.register functions name fun args => .ofExcept (compute args)) := by
  unfold Registry.register
  induction functions with
  | nil =>
      intro entry member
      cases List.mem_singleton.mp member
      exact ⟨compute, fun _ => rfl⟩
  | cons head rest ih =>
      have own : ∃ given : List Value → Except Fault Value, ∀ args,
          (name, fun args => Action.ofExcept (compute args)).2 args = .ofExcept (given args) :=
        ⟨compute, fun _ => rfl⟩
      have first := known head List.mem_cons_self
      have later : Computes rest := fun entry member => known entry (List.mem_cons_of_mem _ member)
      intro entry member
      simp only [insertSorted] at member
      split at member
      · rcases List.mem_cons.mp member with same | held
        · rw [same]
          exact own
        · exact known entry held
      · split at member
        · rcases List.mem_cons.mp member with same | held
          · rw [same]
            exact own
          · exact later entry held
        · rcases List.mem_cons.mp member with same | held
          · rw [same]
            exact first
          · exact ih later entry held

theorem registry_computes : Computes registry := by
  have grown : ∀ (entries : List (String × (List Value → Except Fault Value)))
      (functions : Registry), Computes functions → Computes (entries.foldl (fun grown entry =>
        Registry.register grown entry.1 fun args => .ofExcept (entry.2 args)) functions) := by
    intro entries
    induction entries with
    | nil => exact fun _ known => known
    | cons entry rest ih => exact fun _ known => ih _ (register_computes known entry.1 entry.2)
  exact grown table Registry.empty nofun

end Builtin

theorem Settings.functions_compute (settings : Settings) :
    Builtin.Computes settings.functions := by
  unfold Settings.functions
  split
  · exact Builtin.registry_computes
  · exact nofun

/-- Functions that compute find nothing around them. -/
theorem call_named_computes (around other : Surroundings) {functions : Registry}
    (computes : Builtin.Computes functions) (name : String) (args : List Value)
    (absent : Engine Value) :
    callNamed around functions name args absent = callNamed other functions name args absent := by
  rw [call_named_found, call_named_found]
  cases found : functions.find? name with
  | none => rfl
  | some function =>
      obtain ⟨compute, computed⟩ := computes (name, function) (mem_of_lookup found)
      have shape : function args = .ofExcept (compute args) := computed args
      dsimp only
      rw [shape]
      cases compute args <;> rfl

/-- Of the files a page with such functions needs its own alone. -/
theorem Settings.page_run (settings : Settings) (location : String) (files others : FileTree)
    (same : files.readText (settings.pageFile location) =
      others.readText (settings.pageFile location)) (supply : Supply) :
    (settings.page location).run (Catalog.empty.surroundings files) supply =
      (settings.page location).run (Catalog.empty.surroundings others) supply := by
  let other := Catalog.empty.surroundings others
  have invokes : (fun called args => callNamed (Catalog.empty.surroundings files)
        settings.functions called args (throw (Registry.missing settings.functions called))) =
      fun called args => callNamed other settings.functions called args
        (throw (Registry.missing settings.functions called)) := by
    funext called args
    exact call_named_computes _ other settings.functions_compute called args _
  have pages : ∀ bindings, runPage files (settings.pageFile location) bindings =
      runPage others (settings.pageFile location) bindings := by
    intro bindings
    unfold runPage
    rw [same]
  have bodies : ∀ bindings,
      (Body.page (settings.pageFile location)).run (Catalog.empty.surroundings files) bindings =
        (Body.page (settings.pageFile location)).run other bindings := pages
  rw [page, Template.run, Template.run]
  simp only [invokes, bodies, other]

variable {changed : Place → Prop} {files others : FileTree}

namespace FileTree.AlikeBut

/-- The settings in force are in no file that has changed. -/
theorem load (alike : AlikeBut changed files others) (source : SettingsSource)
    (unread : ∀ path, source.selected? files = some path →
      ∀ place, files.locate path = .ok place → ¬changed place) :
    source.load files = source.load others := by
  have selection := source.selected_required files
  have reading : ∀ path, source.selected? files = some path →
      Settings.read files path = Settings.read others path := by
    intro path selected
    unfold Settings.read
    rw [alike.read_text path (unread path selected)]
  unfold SettingsSource.load
  cases named : source.required? with
  | some path =>
      rw [named] at selection
      dsimp only
      rw [← alike.exists?, reading path selection]
  | none =>
      rw [named] at selection
      dsimp only
      rw [← alike.exists?]
      split
      · rename_i present
        rw [if_pos present] at selection
        exact reading _ selection
      · rfl

theorem context (alike : AlikeBut changed files others) (order : PageOrder)
    (unread : ∀ path, order.contextFile = some path →
      ∀ place, files.locate path = .ok place → ¬changed place) :
    order.context files = order.context others := by
  unfold PageOrder.context
  cases named : order.contextFile with
  | none => rfl
  | some path =>
      have same : files.readData path = others.readData path := by
        unfold FileTree.readData
        rw [alike.read_text path (unread path named)]
      simp only [PageOrder.fileContext, same]

theorem text (alike : AlikeBut changed files others) (order : PageOrder) (settings : Settings)
    (unread : ∀ path, order.contextFile = some path →
      ∀ place, files.locate path = .ok place → ¬changed place)
    (apart : ∀ place, files.locate (settings.pageFile order.template) = .ok place →
      ¬changed place) :
    order.text settings files = order.text settings others := by
  have pages := settings.page_run order.template files others (alike.read_text _ apart)
  rw [order.text_staged, order.text_staged, alike.context order unread, alike.is_file]
  simp only [pages]

end FileTree.AlikeBut

/-- The files that the command reads. Where a text is put out is not among them. -/
def PageOrder.reads (order : PageOrder) (source : SettingsSource) (files : FileTree) :
    List String :=
  (source.selected? files).toList ++ order.contextFile.toList ++
    match source.load files with
    | .ok settings => [settings.pageFile order.template]
    | .error _ => []

theorem Console.put_alike (console : Console) (alike : FileTree.AlikeBut changed files others)
    (text : String) :
    Outcome.AlikeBut changed (console.put files text) (console.put others text) := by
  unfold put
  cases console.stops? text with
  | none => exact ⟨alike, rfl, rfl⟩
  | some stop => exact ⟨alike, rfl, rfl⟩

theorem Invocation.render_alike (alike : FileTree.AlikeBut changed files others)
    (order : PageOrder) (verbose quiet : Bool) (named environment : Option String)
    (home : String) (console : Console)
    (unread : ∀ path ∈ order.reads ⟨named, environment, home⟩ files,
      ∀ place, files.locate path = .ok place → ¬changed place) :
    Outcome.AlikeBut changed
      ((Invocation.mk (.render order) verbose quiet named).run environment home files console)
      ((Invocation.mk (.render order) verbose quiet named).run environment home others
        console) := by
  let source : SettingsSource := ⟨named, environment, home⟩
  have selected : ∀ path, source.selected? files = some path →
      ∀ place, files.locate path = .ok place → ¬changed place := by
    intro path chosen
    apply unread
    simp [PageOrder.reads, source, chosen]
  have given : ∀ path, order.contextFile = some path →
      ∀ place, files.locate path = .ok place → ¬changed place := by
    intro path chosen
    apply unread
    simp [PageOrder.reads, chosen]
  unfold Invocation.run
  rw [← alike.load source selected]
  cases loaded : source.load files with
  | error fault => exact ⟨alike, rfl, rfl⟩
  | ok settings =>
      have page : ∀ place, files.locate (settings.pageFile order.template) = .ok place →
          ¬changed place := by
        apply unread
        simp [PageOrder.reads, source, loaded]
      simp only [Command.run, PageOrder.run]
      rw [← alike.text order settings given page]
      cases order.text settings files with
      | error fault => exact ⟨alike, rfl, rfl⟩
      | ok text =>
          cases order.output with
          | none => exact console.put_alike alike text
          | some path => exact FileTree.deliver_alike alike path text

/-- Either no text is to be had, and then nothing has happened; or it goes to the console or to
its file. -/
theorem PageOrder.run_stages (order : PageOrder) (source : SettingsSource) (files : FileTree)
    (console : Console) (verbose quiet : Bool) :
    let outcome := (Invocation.mk (.render order) verbose quiet source.named).run
      source.environment source.home files console
    (∃ fault, outcome = .failed files fault ∧ ∀ text, ¬order.Renders source files text) ∨
      ∃ text, order.Renders source files text ∧ outcome = match order.output with
        | some path => files.deliver path text
        | none => console.put files text := by
  dsimp only
  unfold Invocation.run
  cases loaded : source.load files with
  | error fault =>
      left
      refine ⟨fault, rfl, ?_⟩
      rintro text ⟨settings, fields, value, stages⟩
      have known := (source.load_ok_iff files settings).mpr stages.settled
      rw [loaded] at known
      cases known
  | ok settings =>
      have settled := (source.load_ok_iff files settings).mp loaded
      simp only [Command.run, PageOrder.run]
      cases staged : order.text settings files with
      | error fault =>
          left
          refine ⟨fault, rfl, ?_⟩
          rintro text ⟨found, fields, value, stages⟩
          have known := (source.load_ok_iff files found).mpr stages.settled
          rw [loaded] at known
          cases known
          have done := (order.text_ok_iff source settings files text settled).mpr
            ⟨fields, value, stages⟩
          rw [staged] at done
          cases done
      | ok text =>
          right
          obtain ⟨fields, value, stages⟩ :=
            (order.text_ok_iff source settings files text settled).mp staged
          exact ⟨text, ⟨settings, fields, value, stages⟩, rfl⟩

theorem PageOrder.run_cases (order : PageOrder) (source : SettingsSource) (files : FileTree)
    (console : Console) (verbose quiet : Bool) :
    let outcome := (Invocation.mk (.render order) verbose quiet source.named).run
      source.environment source.home files console
    (∃ fault, outcome = .failed files fault ∧ ∀ text, ¬order.Renders source files text) ∨
      ∃ text, order.Renders source files text ∧
        outcome.PutsOut order.output files console text := by
  rcases order.run_stages source files console verbose quiet with failed | ⟨text, renders, same⟩
  · exact .inl failed
  · refine .inr ⟨text, renders, ?_⟩
    rw [same]
    cases order.output with
    | none => exact console.put_puts_out files text
    | some path => exact files.deliver_puts_out console path text

/-- Rendering a page is all or nothing. Unless every stage goes well there is no text, and
then nothing is printed and no file or directory has changed. The text is the one that the
page renders to with the merged context, the defaults and the functions of the settings in
force; it is all that is printed, or it goes to its file, and besides that file there are at
most new directories. Rendering itself does not touch the console. And the contents of files
that the command does not read, such as settings that were not selected, do not matter to
it. -/
theorem render_command_whole (order : PageOrder) (verbose quiet : Bool)
    (named environment : Option String) (home : String) (files : FileTree) (console : Console) :
    let source : SettingsSource := ⟨named, environment, home⟩
    let run := fun files =>
      (Invocation.mk (.render order) verbose quiet named).run environment home files console
    ((∃ fault, run files = .failed files fault ∧ ∀ text, ¬order.Renders source files text) ∨
      ∃ text, order.Renders source files text ∧
        (run files).PutsOut order.output files console text) ∧
    (∀ (settings : Settings) (fields : Fields), (((settings.page order.template).run
      (Catalog.empty.surroundings files) (.context (.map fields))).run World.fresh).2.channel =
        Channel.fresh) ∧
    ∀ changed others, FileTree.AlikeBut changed files others →
      (∀ path ∈ order.reads source files, ∀ place, files.locate path = .ok place →
        ¬changed place) →
      Outcome.AlikeBut changed (run files) (run others) := by
  intro source run
  refine ⟨?_, ?_, ?_⟩
  · exact order.run_cases source files console verbose quiet
  · intro settings fields
    have told := (settings.page order.template).run_tells
      (Catalog.empty.within_tell files maxStoredDepth) (.context (.map fields)) World.fresh
    have silent := (settings.page order.template).account_text
      (Catalog.empty.vicinity files maxStoredDepth) (.context (.map fields))
      World.fresh.channel.depth
    rw [Catalog.surroundings, told]
    simp only [World.after, silent, Channel.write_nothing]
    rfl
  · intro changed others alike unread
    exact Invocation.render_alike alike order verbose quiet named environment home console unread

def homeSettings : Place := ["home", ".isotemplate", "config.toml"]

def treeWithHome (settings : String) : FileTree :=
  (((FileTree.empty.addEntry "a.toml" (.file "".toUTF8)).addEntry "home/.isotemplate"
    .directory).addEntry "t.tera" (.file "\x7b\x7b c(key=\"g\") \x7d\x7d".toUTF8)).put
      homeSettings (.file settings.toUTF8)

theorem tree_with_home_alike (was is : String) :
    FileTree.AlikeBut (· = homeSettings) (treeWithHome was) (treeWithHome is) :=
  FileTree.AlikeBut.of_put _ homeSettings was.toUTF8 is.toUTF8

theorem render_command_whole_home :
    let source : SettingsSource := ⟨some "a.toml", some "b.toml", "home"⟩
    let order : PageOrder := ⟨"t.tera", none, ["g=1"], some "out/page.txt"⟩
    let run := fun files => (Invocation.mk (.render order) false false source.named).run
      source.environment source.home files .free
    FileTree.AlikeBut (· = homeSettings) (treeWithHome "") (treeWithHome "builtins = 3") ∧
    order.reads source (treeWithHome "") = ["a.toml", "t.tera"] ∧
    Outcome.AlikeBut (· = homeSettings) (run (treeWithHome ""))
      (run (treeWithHome "builtins = 3")) ∧
    (run (treeWithHome "")).console = "" ∧
    ((run (treeWithHome "")).files.readText "out/page.txt").toOption = some "1" := by
  intro source order run
  have read : order.reads source (treeWithHome "") = ["a.toml", "t.tera"] := by decide +kernel
  have named : (treeWithHome "").locate "a.toml" = .ok ["a.toml"] := rfl
  have page : (treeWithHome "").locate "t.tera" = .ok ["t.tera"] := rfl
  have alike := tree_with_home_alike "" "builtins = 3"
  obtain ⟨_, _, unread⟩ := render_command_whole order false false source.named source.environment
    source.home (treeWithHome "") .free
  have apart : ["a.toml"] ≠ homeSettings ∧ ["t.tera"] ≠ homeSettings := by decide
  refine ⟨alike, read, unread _ _ alike ?_, ?_, ?_⟩
  · intro path member place located changed
    change path ∈ order.reads source (treeWithHome "") at member
    rw [read] at member
    rcases List.mem_cons.mp member with first | rest
    · rw [first, named] at located
      cases located
      exact apart.1 changed
    · rw [List.mem_singleton.mp rest, page] at located
      cases located
      exact apart.2 changed
  · decide +kernel
  · decide +kernel

/-- The settings at home are not selected, but they are read all the same where they are given
as the context. -/
theorem unselected_settings_as_context :
    let source : SettingsSource := ⟨some "a.toml", none, "home"⟩
    let order : PageOrder := ⟨"t.tera", some source.homeFile, [], none⟩
    let outcome := fun settings => (Invocation.mk (.render order) false false source.named).run
      source.environment source.home (treeWithHome settings)
    (∀ settings, source.selected? (treeWithHome settings) = some "a.toml") ∧
    FileTree.AlikeBut (· = homeSettings) (treeWithHome "g = 1") (treeWithHome "g = 2") ∧
    (outcome "g = 1").console = "1" ∧ (outcome "g = 2").console = "2" := by
  intro source order outcome
  refine ⟨fun _ => rfl, tree_with_home_alike _ _, ?_, ?_⟩
  · decide +kernel
  · decide +kernel

end Stencil
