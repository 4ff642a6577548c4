import Stencil.Diagnosis

/-!
What layers of explanation do to a diagnosis. Failed renders, failures of the command,
locations, files and mistakes are found through any number of layers. But the settings file
that holds a mistake is known by the outermost text alone, so there, and nowhere else, a
layer can make a known failure unknown or an unknown one known.
-/

namespace Stencil

/-- The same failure of the command, with the same advice. -/
def Diagnosis.Alike (one other : Diagnosis) : Prop :=
  one.fault.ctorIdx = other.fault.ctorIdx ∧ one.suggestion = other.suggestion

instance (one other : Diagnosis) : Decidable (one.Alike other) :=
  inferInstanceAs (Decidable (_ ∧ _))

theorem Diagnosis.Alike.refl (one : Diagnosis) : one.Alike one := ⟨rfl, rfl⟩

namespace Fault

def namesSettings (fault : Fault) : Bool := Settings.mistakeLead.isPrefixOf fault.text

/-- A mistake in a text and nothing that counts before that, so that the outermost text
decides what it is a mistake in. -/
structure ToldByText (fault : Fault) : Prop where
  unrendered : fault.firstRender? = none
  unnamed : ∀ known, fault.bare ≠ .command known
  unlocated : fault.bare.family? ≠ some .factory
  unfiled : fault.firstFile?.bind fault.fileDiagnosis? = none
  mistaken : fault.firstTomlMistake?.isSome = true

/-- The same is found in both faults, whatever their texts are. -/
structure SameFindings (one other : Fault) : Prop where
  render : one.firstRender? = other.firstRender?
  bare : one.bare = other.bare
  file : one.firstFile? = other.firstFile?
  mistake : one.firstTomlMistake? = other.firstTomlMistake?

theorem SameFindings.refl (fault : Fault) : fault.SameFindings fault := ⟨rfl, rfl, rfl, rfl⟩

theorem SameFindings.layered {one other : Fault} (same : one.SameFindings other)
    (text : String) : (Fault.layered text one).SameFindings other :=
  ⟨same.render, same.bare, same.file, same.mistake⟩

theorem same_findings_with_layers (texts : List String) {one other : Fault}
    (same : one.SameFindings other) : (one.withLayers texts).SameFindings other := by
  induction texts generalizing one with
  | nil => exact same
  | cons text rest ih => exact ih (same.layered text)

/-- Whether a file tells enough does not depend on the texts. -/
theorem file_diagnosis_alike (one other : Fault) (file : Option FileError) :
    (file.bind one.fileDiagnosis? = none ∧ file.bind other.fileDiagnosis? = none) ∨
    ∃ first second, file.bind one.fileDiagnosis? = some first ∧
      file.bind other.fileDiagnosis? = some second ∧ first.Alike second := by
  cases file with
  | none => exact .inl ⟨rfl, rfl⟩
  | some error =>
      simp only [Option.bind_some, fileDiagnosis?]
      cases error.kind with
      | permissionDenied | notFound => exact .inr ⟨_, _, rfl, rfl, rfl, rfl⟩
      | _ => exact .inl ⟨rfl, rfl⟩

theorem settings_diagnosis_named {fault : Fault} (named : fault.namesSettings = true)
    (mistake : String) :
    ∃ file, fault.settingsDiagnosis? mistake = some ⟨.configSyntax file mistake, some mistake,
      some ("Check the TOML syntax. " ++
        "Recognised keys are template_dir, builtins and a [defaults] table")⟩ :=
  ⟨_, if_pos named⟩

theorem settings_diagnosis_unnamed {fault : Fault} (unnamed : fault.namesSettings = false)
    (mistake : String) : fault.settingsDiagnosis? mistake = none :=
  if_neg (ne_true_of_eq_false unnamed)

/-- Where a mistake is all that is known, the outermost texts have to agree. -/
theorem mistake_alike (one other : Fault) (mistake : String) :
    ((one.settingsDiagnosis? mistake).getD ⟨.other one.chainText, none, none⟩).Alike
        ((other.settingsDiagnosis? mistake).getD ⟨.other other.chainText, none, none⟩) ↔
      one.namesSettings = other.namesSettings := by
  cases first : one.namesSettings with
  | true =>
      obtain ⟨file, told⟩ := settings_diagnosis_named first mistake
      cases second : other.namesSettings with
      | true =>
          obtain ⟨elsewhere, retold⟩ := settings_diagnosis_named second mistake
          rw [told, retold]
          exact ⟨fun _ => rfl, fun _ => ⟨rfl, rfl⟩⟩
      | false =>
          rw [told, settings_diagnosis_unnamed second]
          exact ⟨fun alike => (nomatch alike.2), nofun⟩
  | false =>
      rw [settings_diagnosis_unnamed first]
      cases second : other.namesSettings with
      | true =>
          obtain ⟨elsewhere, retold⟩ := settings_diagnosis_named second mistake
          rw [retold]
          exact ⟨fun alike => (nomatch alike.2), nofun⟩
      | false =>
          rw [settings_diagnosis_unnamed second]
          exact ⟨fun _ => rfl, fun _ => ⟨rfl, rfl⟩⟩

theorem cause_diagnosis_alike {one other : Fault} (same : one.SameFindings other) :
    one.causeDiagnosis.Alike other.causeDiagnosis ↔
      (other.firstFile?.bind other.fileDiagnosis? = none →
        other.firstTomlMistake?.isSome = true → one.namesSettings = other.namesSettings) := by
  unfold causeDiagnosis
  rw [same.file, same.mistake]
  rcases file_diagnosis_alike one other other.firstFile? with unfiled | filed
  · rw [unfiled.1, unfiled.2]
    cases other.firstTomlMistake? with
    | none => exact ⟨fun _ _ => nofun, fun _ => ⟨rfl, rfl⟩⟩
    | some mistake =>
        exact (mistake_alike one other mistake).trans
          ⟨fun agree _ _ => agree, fun all => all rfl rfl⟩
  · obtain ⟨first, second, told, retold, alike⟩ := filed
    rw [told, retold]
    exact ⟨fun _ => nofun, fun _ => alike⟩

/-- One case for each way in which a failure is known. -/
theorem diagnosis_alike {one other : Fault} (same : one.SameFindings other) :
    one.diagnosis.Alike other.diagnosis ↔
      (other.ToldByText → one.namesSettings = other.namesSettings) := by
  have found {claim : Prop} (alike : one.diagnosis.Alike other.diagnosis)
      (elsewise : ¬ other.ToldByText) :
      one.diagnosis.Alike other.diagnosis ↔ (other.ToldByText → claim) :=
    ⟨fun _ told => absurd told elsewise, fun _ => alike⟩
  cases rendered : other.firstRender? with
  | some render =>
      apply found
      · simp only [diagnosis, same.render, rendered]
        exact .refl _
      · intro told
        exact nomatch rendered.symm.trans told.unrendered
  | none =>
      cases bare : other.bare with
      | command known =>
          apply found
          · simp only [diagnosis, same.render, rendered, same.bare, bare]
            exact .refl _
          · exact fun told => told.unnamed known bare
      | unknownLocation _ | badLocation _ _ =>
          apply found
          · simp only [diagnosis, same.render, rendered, same.bare, bare]
            exact .refl _
          · exact fun told => told.unlocated (by rw [bare]; rfl)
      | _ =>
          have causes : one.diagnosis.Alike other.diagnosis ↔
              one.causeDiagnosis.Alike other.causeDiagnosis := by
            simp only [diagnosis, same.render, rendered, same.bare, bare]
          rw [causes, cause_diagnosis_alike same]
          constructor
          · exact fun agree told => agree told.unfiled told.mistaken
          · intro agree unfiled mistaken
            refine agree ⟨rendered, ?_, ?_, unfiled, mistaken⟩
            · rw [bare]
              exact nofun
            · rw [bare]
              exact nofun

/-- Under any number of layers a fault is told as the same failure with the same advice,
unless a mistake is all that is known of it and only one of the two outermost texts names a
settings file. -/
theorem layers_keep_diagnosis_iff (fault : Fault) (texts : List String) :
    (fault.withLayers texts).diagnosis.Alike fault.diagnosis ↔
      (fault.ToldByText → (fault.withLayers texts).namesSettings = fault.namesSettings) :=
  diagnosis_alike (same_findings_with_layers texts (.refl fault))

/-- One more layer, and a mistake in a settings file is not known as one any more. -/
theorem layer_hides_settings_mistake :
    ¬ ∀ (fault : Fault) (text : String),
      (Fault.layered text fault).diagnosis.Alike fault.diagnosis := by
  intro stable
  have kept := stable (.layered "Failed to parse config file: /etc/isotemplate.toml"
    (.malformed .toml)) "starting up"
  revert kept
  decide +kernel

end Fault

end Stencil
