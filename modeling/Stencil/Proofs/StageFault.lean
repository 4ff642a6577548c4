import Stencil.Proofs.LayeredDiagnosis
import Stencil.Proofs.RenderCommand

/-!
How each stage of rendering a page fails, and how that is told: the settings, the context
file, the assignments from left to right, and the output. A stage may have several faults
at once; the one it comes upon first is what it fails with.
-/

namespace Stencil

def CommandFault.explained (headline cause : String) : CommandFault :=
  .other (headline ++ "\n\nCaused by:\n  1: " ++ cause)

/-- How a file that could not be used is told. A kind of its own is told as such, and any
other kind by the texts. -/
def FileError.told (headline : String) (error : FileError) : CommandFault :=
  match error.kind with
  | .notFound => .fileSystem "file access" "unknown"
  | .permissionDenied => .permissionDenied "file access" "unknown"
  | _ => .explained headline error.text

/-- The outcome is a failure that is told like this. -/
def Tells {α : Type} (outcome : Except Fault α) (told : CommandFault) : Prop :=
  ∃ fault, outcome = .error fault ∧ fault.diagnosis.fault = told

@[simp] theorem not_tells_ok {α : Type} (result : α) (told : CommandFault) :
    ¬ Tells (.ok result) told := by
  rintro ⟨fault, failed, _⟩
  cases failed

@[simp] theorem tells_error {α : Type} (fault : Fault) (told : CommandFault) :
    Tells (.error fault : Except Fault α) told ↔ fault.diagnosis.fault = told := by
  constructor
  · rintro ⟨other, same, shown⟩
    cases same
    exact shown
  · exact fun shown => ⟨fault, rfl, shown⟩

theorem Tells.unique {α : Type} {outcome : Except Fault α} {told other : CommandFault}
    (tells : Tells outcome told) (also : Tells outcome other) : told = other := by
  obtain ⟨fault, failed, rfl⟩ := tells
  rw [failed, tells_error] at also
  exact also

namespace Fault

theorem chain_text_layered (headline : String) {inner : Fault} (nothing : inner.causes = []) :
    (Fault.layered headline inner).chainText =
      headline ++ "\n\nCaused by:\n  1: " ++ inner.text := by
  have told : (Fault.layered headline inner).causeTexts = [inner.text] := by
    rw [causeTexts, causes, nothing]
    rfl
  have numbered : String.join [s!"\n  {0 + 1}: {inner.text}"] = "\n  1: " ++ inner.text := by
    simp only [String.join, List.foldl, String.empty_append]
    rfl
  have lead : "\n\nCaused by:\n  1: " = "\n\nCaused by:" ++ "\n  1: " := by decide
  unfold chainText
  rw [told]
  change headline ++ "\n\nCaused by:" ++ String.join [s!"\n  {0 + 1}: {inner.text}"] = _
  rw [numbered, lead, String.append_assoc, String.append_assoc, String.append_assoc]

theorem told_file (headline : String) (error : FileError) :
    (Fault.layered headline (.file error)).diagnosis.fault = error.told headline := by
  let fault : Fault := .layered headline (.file error)
  have chained : CommandFault.other fault.chainText = .explained headline error.text :=
    congrArg CommandFault.other (chain_text_layered headline rfl)
  have cause : fault.diagnosis = ((fault.fileDiagnosis? error <|> none).getD
      ⟨.other fault.chainText, none, none⟩) := rfl
  rw [cause]
  unfold fileDiagnosis? FileError.told
  cases error.kind with
  | notFound | permissionDenied => rfl
  | _ => exact chained

theorem names_settings_iff (fault : Fault) :
    fault.namesSettings = true ↔ Settings.mistakeLead.toList <+: fault.text.toList := by
  unfold namesSettings String.isPrefixOf
  exact String.startsWith_string_iff

theorem names_settings_lead (path : String) (inner : Fault) :
    (Fault.layered (Settings.mistakeLead ++ path) inner).namesSettings = true :=
  (names_settings_iff _).mpr ⟨path.toList, String.toList_append.symm⟩

/-- The settings file with the mistake is told by its path exactly. -/
theorem told_settings_mistake (path : String) :
    (Fault.layered (Settings.mistakeLead ++ path) (.malformed .toml)).diagnosis.fault =
      .configSyntax path "<toml error>" := by
  let fault : Fault := .layered (Settings.mistakeLead ++ path) (.malformed .toml)
  have rest : String.ofList ((Settings.mistakeLead ++ path).toList.drop
      Settings.mistakeLead.length) = path := by
    rw [String.toList_append, ← String.length_toList, List.drop_left, String.ofList_toList]
  have cause : fault.diagnosis = ((none <|> fault.settingsDiagnosis? "<toml error>").getD
      ⟨.other fault.chainText, none, none⟩) := rfl
  have named : Settings.mistakeLead.isPrefixOf fault.text = true := names_settings_lead path _
  rw [cause, settingsDiagnosis?, if_pos named]
  exact congrArg (CommandFault.configSyntax · "<toml error>") rest

def dataMistakeLead : String := "Failed to parse data file: "

theorem names_settings_data (path : String) (inner : Fault) :
    (Fault.layered (dataMistakeLead ++ path) inner).namesSettings = false := by
  apply Bool.eq_false_iff.mpr
  intro named
  have settings : Settings.mistakeLead.toList <+: (dataMistakeLead ++ path).toList :=
    (names_settings_iff (.layered (dataMistakeLead ++ path) inner)).mp named
  have data : dataMistakeLead.toList <+: (dataMistakeLead ++ path).toList :=
    ⟨path.toList, String.toList_append.symm⟩
  have shorter : dataMistakeLead.toList.length ≤ Settings.mistakeLead.toList.length := by decide
  have same := List.prefix_of_prefix_length_le data settings shorter
  revert same
  decide

/-- A mistake in a data file is no mistake in the settings, also if the file is a table. -/
theorem told_data_mistake (path : String) (format : DataFormat) :
    (Fault.layered (dataMistakeLead ++ path) (.malformed format)).diagnosis.fault =
      .explained (dataMistakeLead ++ path) (Fault.malformed format).text := by
  let fault : Fault := .layered (dataMistakeLead ++ path) (.malformed format)
  have chained : CommandFault.other fault.chainText = .explained _ (Fault.malformed format).text :=
    congrArg CommandFault.other (chain_text_layered (dataMistakeLead ++ path) rfl)
  have unnamed (mistake : String) : fault.settingsDiagnosis? mistake = none :=
    settings_diagnosis_unnamed (names_settings_data path _) mistake
  have cause : fault.diagnosis = ((none <|> fault.firstTomlMistake?.bind
      fault.settingsDiagnosis?).getD ⟨.other fault.chainText, none, none⟩) := rfl
  rw [cause]
  cases fault.firstTomlMistake? with
  | none => exact chained
  | some mistake =>
      rw [Option.bind_some, unnamed]
      exact chained

theorem told_render (fault : Fault) (site : RenderSite) (known : fault.site? = some site) :
    fault.diagnosis.fault = .renderFailed site.template := by
  have first : fault.firstRender? = some (fault, site) := by
    rw [firstRender?, chain, List.findSome?_cons, known]
    rfl
  rw [diagnosis, first]
  rfl

end Fault

namespace SettingsSource

/-- How the settings fail to load, and how that is told. -/
inductive Fails (source : SettingsSource) (files : FileTree) : CommandFault → Prop
  | missing (path : String) (selected : source.selected? files = some path)
      (absent : files.exists? path = false) : Fails source files (.configNotFound path)
  | unread (path : String) (error : FileError) (selected : source.selected? files = some path)
      (present : files.exists? path = true) (refused : files.readText path = .error error) :
      Fails source files (error.told ("Failed to read config file: " ++ path))
  | rejected (path text : String) (selected : source.selected? files = some path)
      (read : files.readText path = .ok text)
      (mistaken : (Toml.parse? text).bind Settings.ofValue? = none) :
      Fails source files (.configSyntax path "<toml error>")

theorem load_selected (source : SettingsSource) (files : FileTree) :
    source.load files =
      match source.selected? files with
      | none => .ok Settings.initial
      | some path =>
          if files.exists? path then Settings.read files path
          else .error (.command (.configNotFound path)) := by
  rw [source.selected_required files, load]
  cases source.required? with
  | some path => rfl
  | none =>
      cases present : files.exists? source.homeFile with
      | true => simp [present]
      | false => simp

theorem load_tells_iff (source : SettingsSource) (files : FileTree) (told : CommandFault) :
    Tells (source.load files) told ↔ source.Fails files told := by
  rw [load_selected]
  constructor
  · cases selected : source.selected? files with
    | none => simp
    | some path =>
        dsimp only
        cases present : files.exists? path with
        | false =>
            simp only [Bool.false_eq_true, if_false, tells_error]
            rintro rfl
            exact .missing path selected present
        | true =>
            rw [if_pos rfl, Settings.read]
            cases read : files.readText path with
            | error error =>
                simp only [tells_error, Fault.told_file]
                rintro rfl
                exact .unread path error selected present read
            | ok text =>
                dsimp only
                cases said : (Toml.parse? text).bind Settings.ofValue? with
                | some settings => simp
                | none =>
                    simp only [tells_error, Fault.told_settings_mistake]
                    rintro rfl
                    exact .rejected path text selected read said
  · intro fails
    cases fails with
    | missing path selected absent =>
        simp only [selected, absent, Bool.false_eq_true, if_false, tells_error]
        rfl
    | unread path error selected present refused =>
        simp only [selected, present, if_true, Settings.read, refused, tells_error,
          Fault.told_file]
    | rejected path text selected read mistaken =>
        simp only [selected, FileTree.exists?_of_read read, if_true, Settings.read, read, mistaken,
          tells_error, Fault.told_settings_mistake]

end SettingsSource

namespace Assignment

def keyText (source : String) : String :=
  trimText (String.ofList (source.toList.takeWhile (· != '=')))

/-- No equals sign, or nothing but blanks before the first one. -/
def Malformed (source : String) : Prop :=
  '=' ∉ source.toList ∨ (keyText source).isEmpty = true

theorem parse_eq (source : String) :
    parse source =
      match source.toList.dropWhile (· != '=') with
      | [] => .error (.command (.invalidAssignment source))
      | _ :: raw =>
          if (keyText source).isEmpty then .error (.command (.invalidAssignment source))
          else .ok ⟨keyText source,
            (Json.parse? (String.ofList raw)).getD (.string (String.ofList raw))⟩ := rfl

theorem drop_while_sign (chars : List Char) : chars.dropWhile (· != '=') = [] ↔ '=' ∉ chars := by
  induction chars with
  | nil => simp
  | cons c rest ih =>
      rw [List.dropWhile_cons]
      by_cases sign : c = '='
      · simp [sign]
      · have other : (c != '=') = true := bne_iff_ne.mpr sign
        rw [if_pos other, ih, List.mem_cons, not_or]
        exact ⟨fun none => ⟨fun same => sign same.symm, none⟩, fun both => both.2⟩

theorem parse_cases (source : String) :
    (Malformed source ∧ parse source = .error (.command (.invalidAssignment source))) ∨
      (¬ Malformed source ∧ ∃ assignment, parse source = .ok assignment) := by
  rw [parse_eq]
  have signs := drop_while_sign source.toList
  cases rest : source.toList.dropWhile (· != '=') with
  | nil => exact .inl ⟨.inl (signs.mp rest), rfl⟩
  | cons sign raw =>
      dsimp only
      cases blank : (keyText source).isEmpty with
      | true => exact .inl ⟨.inr blank, rfl⟩
      | false =>
          right
          refine ⟨?_, _, rfl⟩
          rintro (missing | empty)
          · rw [signs.mpr missing] at rest
            cases rest
          · rw [blank] at empty
            cases empty

end Assignment

namespace PageOrder

def base (order : PageOrder) (files : FileTree) : Except Fault Fields :=
  match order.contextFile with
  | some path => fileContext files path
  | none => .ok []

def assign (fields : Fields) (source : String) : Except Fault Fields :=
  (Assignment.parse source).map fun assignment => fields.insert assignment.key assignment.value

theorem context_eq (order : PageOrder) (files : FileTree) :
    order.context files =
      match order.base files with
      | .error fault => .error fault
      | .ok fields => order.assignments.foldlM assign fields := by
  have same : (fun fields source => do
      let assignment ← Assignment.parse source
      return fields.insert assignment.key assignment.value) = assign := by
    funext fields source
    unfold assign
    cases Assignment.parse source <;> rfl
  unfold context base
  rw [same]
  cases order.contextFile with
  | none => rfl
  | some path =>
      dsimp only [bind, Except.bind]
      cases fileContext files path <;> rfl

/-- How the context file fails, and how that is told. -/
inductive FileFails (order : PageOrder) (files : FileTree) : CommandFault → Prop
  | unsupported (path : String) (given : order.contextFile = some path)
      (unknown : DataFormat.ofPath? path = none) : FileFails order files (.unsupportedFormat path)
  | unread (path : String) (format : DataFormat) (error : FileError)
      (given : order.contextFile = some path) (known : DataFormat.ofPath? path = some format)
      (refused : files.readText path = .error error) :
      FileFails order files (error.told ("Failed to read data file: " ++ path))
  | unparsed (path text : String) (format : DataFormat) (given : order.contextFile = some path)
      (known : DataFormat.ofPath? path = some format) (read : files.readText path = .ok text)
      (mistaken : format.parse? text = none) :
      FileFails order files
        (.explained ("Failed to parse data file: " ++ path) ("<" ++ format.name ++ " error>"))
  | noTable (path text : String) (format : DataFormat) (value : Value)
      (given : order.contextFile = some path) (known : DataFormat.ofPath? path = some format)
      (read : files.readText path = .ok text) (parsed : format.parse? text = some value)
      (other : ∀ fields, value ≠ .object fields) :
      FileFails order files
        (.invalidContext path ("expected a table of keys, found " ++ value.describe))

theorem base_given {order : PageOrder} {path : String} (given : order.contextFile = some path)
    (files : FileTree) :
    order.base files =
      match DataFormat.ofPath? path with
      | none => .error (.command (.unsupportedFormat path))
      | some format =>
          match files.readText path with
          | .error error => .error (.layered ("Failed to read data file: " ++ path) (.file error))
          | .ok text =>
              match format.parse? text with
              | none =>
                  .error (.layered ("Failed to parse data file: " ++ path) (.malformed format))
              | some (.object fields) => .ok fields
              | some value => .error (.command (.invalidContext path
                  ("expected a table of keys, found " ++ value.describe))) := by
  have shape : order.base files = fileContext files path := by rw [base, given]
  rw [shape]
  unfold fileContext FileTree.readData
  cases DataFormat.ofPath? path with
  | none => rfl
  | some format =>
      dsimp only
      cases files.readText path with
      | error error => rfl
      | ok text =>
          dsimp only
          cases format.parse? text with
          | none => rfl
          | some value => cases value <;> rfl

theorem base_tells_iff (order : PageOrder) (files : FileTree) (told : CommandFault) :
    Tells (order.base files) told ↔ order.FileFails files told := by
  constructor
  · cases given : order.contextFile with
    | none => simp [base, given]
    | some path =>
        rw [base_given given]
        cases known : DataFormat.ofPath? path with
        | none =>
            rw [tells_error]
            rintro rfl
            exact .unsupported path given known
        | some format =>
            dsimp only
            cases read : files.readText path with
            | error error =>
                rw [tells_error, Fault.told_file]
                rintro rfl
                exact .unread path format error given known read
            | ok text =>
                dsimp only
                cases parsed : format.parse? text with
                | none =>
                    rw [tells_error, ← Fault.dataMistakeLead, Fault.told_data_mistake]
                    rintro rfl
                    exact .unparsed path text format given known read parsed
                | some value =>
                    cases value with
                    | object fields => simp
                    | _ =>
                        rw [tells_error]
                        rintro rfl
                        exact .noTable path text format _ given known read parsed nofun
  · intro fails
    cases fails with
    | unsupported path given unknown =>
        rw [base_given given, unknown, tells_error]
        rfl
    | unread path format error given known refused =>
        rw [base_given given, known]
        simp only [refused, tells_error, Fault.told_file]
    | unparsed path text format given known read mistaken =>
        rw [base_given given, known]
        simp only [read, mistaken, tells_error]
        exact Fault.told_data_mistake path format
    | noTable path text format value given known read parsed other =>
        rw [base_given given, known]
        simp only [read, parsed]
        cases value with
        | object fields => exact absurd rfl (other fields)
        | _ =>
            rw [tells_error]
            rfl

/-- Assignments fail with the first that is malformed. -/
theorem assignments_tell_iff (sources : List String) (fields : Fields) (told : CommandFault) :
    Tells (sources.foldlM assign fields) told ↔
      ∃ earlier bad later, sources = earlier ++ bad :: later ∧
        (∀ source ∈ earlier, ¬ Assignment.Malformed source) ∧ Assignment.Malformed bad ∧
        told = .invalidAssignment bad := by
  induction sources generalizing fields with
  | nil => simp [pure, Except.pure]
  | cons source rest ih =>
      rw [List.foldlM_cons]
      rcases Assignment.parse_cases source with ⟨malformed, refused⟩ | ⟨fine, assignment, parsed⟩
      · have stopped : (assign fields source >>= fun grown => rest.foldlM assign grown) =
            .error (.command (.invalidAssignment source)) := by
          rw [assign, refused]
          rfl
        rw [stopped, tells_error]
        constructor
        · rintro rfl
          exact ⟨[], source, rest, rfl, nofun, malformed, rfl⟩
        · rintro ⟨earlier, bad, later, split, fine, _, shown⟩
          cases earlier with
          | nil =>
              cases split
              exact shown.symm
          | cons first others =>
              cases split
              exact absurd malformed (fine source List.mem_cons_self)
      · have onward : (assign fields source >>= fun grown => rest.foldlM assign grown) =
            rest.foldlM assign (fields.insert assignment.key assignment.value) := by
          rw [assign, parsed]
          rfl
        rw [onward, ih]
        constructor
        · rintro ⟨earlier, bad, later, split, others, malformed, shown⟩
          refine ⟨source :: earlier, bad, later, by rw [split, List.cons_append], ?_, malformed,
            shown⟩
          exact List.forall_mem_cons.mpr ⟨fine, others⟩
        · rintro ⟨earlier, bad, later, split, others, malformed, shown⟩
          cases earlier with
          | nil =>
              cases split
              exact absurd malformed fine
          | cons first earlier =>
              cases split
              exact ⟨earlier, bad, later, rfl, (List.forall_mem_cons.mp others).2, malformed, shown⟩

end PageOrder

theorem Console.put_tells_iff (console : Console) (files : FileTree) (text : String)
    (told : CommandFault) :
    Tells (console.put files text).result told ↔
      ∃ count error, console.stops? text = some (count, error) ∧
        told = error.told "Failed to write to stdout" := by
  unfold put
  cases stops : console.stops? text with
  | none => simp [Outcome.printed]
  | some stop =>
      obtain ⟨count, error⟩ := stop
      dsimp only
      rw [tells_error, Fault.told_file]
      constructor
      · exact fun shown => ⟨count, error, rfl, shown.symm⟩
      · rintro ⟨_, _, same, shown⟩
        cases same
        exact shown.symm

namespace FileTree

def neededDirectory? (path : String) : Option String :=
  (Path.parent? path).filter fun parent => !parent.isEmpty

/-- How the tree is once the directories for an output file are there. -/
inductive Ready (files : FileTree) (path : String) : FileTree → Prop
  | unchanged (unneeded : neededDirectory? path = none) : Ready files path files
  | grown (parent : String) (after : FileTree) (needed : neededDirectory? path = some parent)
      (made : makeDirectories (parent.length + 1) files parent = (after, .ok ())) :
      Ready files path after

/-- How the output fails, and how that is told. -/
inductive OutputFails (files : FileTree) (path text : String) : CommandFault → Prop
  | directory (parent : String) (after : FileTree) (error : FileError)
      (needed : neededDirectory? path = some parent)
      (refused : makeDirectories (parent.length + 1) files parent = (after, .error error)) :
      OutputFails files path text (error.told ("Failed to create output directory: " ++ parent))
  | file (after : FileTree) (error : FileError) (ready : files.Ready path after)
      (refused : after.writeText path text = .error error) :
      OutputFails files path text (error.told ("Failed to write output file: " ++ path))

theorem write_out_tells_iff (files : FileTree) (path text : String) (told : CommandFault) :
    Tells (files.writeOut path text).result told ↔
      ∃ error, files.writeText path text = .error error ∧
        error.told ("Failed to write output file: " ++ path) = told := by
  unfold writeOut
  cases files.writeText path text with
  | ok written => simp [Outcome.printed]
  | error error => simp [Outcome.failed, Fault.told_file]

theorem deliver_tells_iff (files : FileTree) (path text : String) (told : CommandFault) :
    Tells (files.deliver path text).result told ↔ files.OutputFails path text told := by
  rw [deliver_eq, ← neededDirectory?]
  constructor
  · cases needed : neededDirectory? path with
    | none =>
        dsimp only
        rw [write_out_tells_iff]
        rintro ⟨error, refused, rfl⟩
        exact .file files error (.unchanged needed) refused
    | some parent =>
        dsimp only
        rcases made : makeDirectories (parent.length + 1) files parent with ⟨after, done | error⟩
        · dsimp only [Outcome.failed]
          rw [tells_error, Fault.told_file]
          rintro rfl
          exact .directory parent after _ needed made
        · dsimp only
          rw [write_out_tells_iff]
          rintro ⟨error, refused, rfl⟩
          exact .file after error (.grown parent after needed made) refused
  · intro fails
    cases fails with
    | directory parent after error needed refused =>
        rw [needed]
        dsimp only
        rw [refused]
        exact (tells_error _ _).mpr (Fault.told_file _ error)
    | file after error ready refused =>
        cases ready with
        | unchanged unneeded =>
            rw [unneeded]
            exact (write_out_tells_iff ..).mpr ⟨error, refused, rfl⟩
        | grown parent _ needed made =>
            rw [needed]
            dsimp only
            rw [made]
            exact (write_out_tells_iff ..).mpr ⟨error, refused, rfl⟩

end FileTree

end Stencil
