import Mathlib.Data.List.TakeWhile
import Stencil.Proofs.DistinctKeys
import Stencil.Proofs.PieceAgreement
import Stencil.Proofs.StageFault

/-!
The context of the command that renders a page. The assignments are laid over the table of the
context file one after the other, so a key has the value that it is assigned last, and it keeps
its place or follows in the order of the first assignments. A page then reads the merged fields
before the defaults of the settings, and these before the default that it gives itself.
-/

namespace Stencil

namespace Fields

/-- Of the entries that are laid over the others, the last one under a key is found. -/
theorem get?_overlay_last (base top : Fields) (key : String) :
    (base.overlay top).get? key = (top.reverse.lookup key).or (base.get? key) := by
  unfold overlay
  induction top generalizing base with
  | nil => rfl
  | cons entry rest ih =>
      obtain ⟨known, value⟩ := entry
      have single : List.lookup key [(known, value)] = if key = known then some value else none :=
        lookup_entry known key value []
      rw [List.foldl_cons, ih, get?_insert, List.reverse_cons, List.lookup_append, single,
        Option.or_assoc]
      split <;> rfl

end Fields

theorem drop_while_all {α : Type} (p : α → Bool) (items : List α) :
    (∀ item ∈ items.dropWhile p, p item = true) ↔ ∀ item ∈ items, p item = true := by
  constructor
  · intro later item member
    rw [← List.takeWhile_append_dropWhile (p := p) (l := items)] at member
    rcases List.mem_append.mp member with before | after
    · exact List.mem_takeWhile_imp before
    · exact later item after
  · intro all item member
    exact all item (List.dropWhile_suffix p |>.mem member)

theorem trim_text_is_empty (chars : List Char) :
    (trimText (String.ofList chars)).isEmpty = true ↔
      ∀ c ∈ chars, Unicode.isBlank c = true := by
  rw [trimText, String.toList_ofList, String.isEmpty_iff, String.ofList_eq_empty_iff,
    Unicode.trim, Unicode.trimRight, List.reverse_eq_nil_iff, List.dropWhile_eq_nil_iff,
    ← drop_while_all Unicode.isBlank chars]
  simp only [List.mem_reverse, Unicode.trimLeft]

namespace Assignment

/-- There is an equals sign, and something that is not blank before the first one. -/
def WellFormed (source : String) : Prop :=
  '=' ∈ source.toList ∧ ∃ c ∈ source.toList.takeWhile (· != '='), Unicode.isBlank c = false

-- The characters before the sign are gone through, not all characters that there are.
instance (source : String) : Decidable (WellFormed source) :=
  have := List.decidableBEx (Unicode.isBlank · = false) (source.toList.takeWhile (· != '='))
  inferInstanceAs (Decidable (_ ∧ _))

/-- What stands after the first equals sign, as it is. -/
def valueText (source : String) : String :=
  String.ofList (source.toList.dropWhile (· != '=')).tail

def entry (source : String) : String × Value :=
  (keyText source, (Json.parse? (valueText source)).getD (.string (valueText source)))

/-- What the last of the assignments to a key gives it, if there is one. -/
def said? (sources : List String) (key : String) : Option Value :=
  (sources.map entry).reverse.lookup key

theorem malformed_iff (source : String) : Malformed source ↔ ¬ WellFormed source := by
  unfold WellFormed Malformed keyText
  rw [trim_text_is_empty, not_and_or]
  simp

theorem parse_entry (source : String) :
    parse source =
      if WellFormed source then .ok ⟨(entry source).1, (entry source).2⟩
      else .error (.command (.invalidAssignment source)) := by
  have malformed := malformed_iff source
  by_cases formed : WellFormed source
  · have fine : ¬ Malformed source := fun wrong => malformed.mp wrong formed
    obtain ⟨signed, named⟩ := not_or.mp fine
    rw [if_pos formed, parse_eq]
    cases rest : source.toList.dropWhile (· != '=') with
    | nil => exact absurd ((drop_while_sign source.toList).mp rest) signed
    | cons sign raw =>
        dsimp only
        rw [if_neg named, entry, valueText, rest]
        rfl
  · rw [if_neg formed]
    rcases parse_cases source with ⟨_, refused⟩ | ⟨fine, _⟩
    · exact refused
    · exact absurd (malformed.mpr formed) fine

end Assignment

/-- An answer that takes no question is there at once. -/
theorem Engine.answer_unasked {α : Type} (result : α) :
    (answer ([], .ok result) : Engine α) = pure result := by
  funext world
  exact (tells_answer ([], .ok result) world).trans (tells_pure result world).symm

/-- A request of a page for a key, wherever in the page it is made. -/
theorem read_key_reading {bindings : Bindings} {read : String → Option Value → Value}
    (reads : ∀ key preset, bindings.lookup key preset = pure (read key preset)) (args : Fields)
    (key : String) (named : args.get? "key" = some (.string key)) (scope : Markup.Scope) :
    ((Markup.readKey args).run.run scope).run bindings =
      pure (.ok (read key (args.get? "default")), scope) := by
  rw [Markup.readKey, named]
  change (Dialog.lookup key (args.get? "default") _).run bindings = _
  rw [Dialog.run, reads]
  rfl

namespace PageOrder

/-- Assignments fail with the first that is not well formed; if there is none, all of them are
laid over the fields. -/
theorem foldl_m_assign (sources : List String) (fields : Fields) :
    sources.foldlM assign fields =
      match sources.find? fun source => ¬ Assignment.WellFormed source with
      | some bad => .error (.command (.invalidAssignment bad))
      | none => .ok (fields.overlay (sources.map Assignment.entry)) := by
  induction sources generalizing fields with
  | nil => rfl
  | cons source rest ih =>
      rw [List.foldlM_cons, assign, Assignment.parse_entry]
      by_cases formed : Assignment.WellFormed source
      · rw [if_pos formed, List.find?_cons_of_neg (by simpa using formed)]
        exact ih _
      · rw [if_neg formed, List.find?_cons_of_pos (by simpa using formed)]
        rfl

inductive Supplies (order : PageOrder) (files : FileTree) : Fields → Prop
  | nothing (ungiven : order.contextFile = none) : Supplies order files []
  | file (path text : String) (format : DataFormat) (fields : Fields)
      (given : order.contextFile = some path) (known : DataFormat.ofPath? path = some format)
      (read : files.readText path = .ok text)
      (parsed : format.parse? text = some (.object fields)) : Supplies order files fields

variable {order : PageOrder} {files : FileTree} {base : Fields}

theorem Supplies.base_eq (supplied : order.Supplies files base) : order.base files = .ok base := by
  cases supplied with
  | nothing ungiven => rw [PageOrder.base, ungiven]
  | file path text format fields given known read parsed =>
      rw [base_given given, known]
      simp only [read, parsed]

theorem Supplies.distinct (supplied : order.Supplies files base) : base.keys.Nodup := by
  cases supplied with
  | nothing _ => exact .nil
  | file _ _ _ _ _ _ _ parsed => exact DataFormat.parse?_keyed parsed

theorem Supplies.context (supplied : order.Supplies files base) :
    order.context files =
      match order.assignments.find? fun source => ¬ Assignment.WellFormed source with
      | some bad => .error (.command (.invalidAssignment bad))
      | none => .ok (base.overlay (order.assignments.map Assignment.entry)) := by
  rw [context_eq, supplied.base_eq]
  exact foldl_m_assign order.assignments base

theorem Supplies.context_ok_iff (supplied : order.Supplies files base) (fields : Fields) :
    order.context files = .ok fields ↔
      (∀ source ∈ order.assignments, Assignment.WellFormed source) ∧
        fields = base.overlay (order.assignments.map Assignment.entry) := by
  rw [supplied.context]
  cases search : order.assignments.find? fun source => ¬ Assignment.WellFormed source with
  | some bad =>
      have wrong : ¬ Assignment.WellFormed bad := by simpa using List.find?_some search
      constructor
      · nofun
      · rintro ⟨formed, _⟩
        exact absurd (formed bad (List.mem_of_find?_eq_some search)) wrong
  | none =>
      have formed : ∀ source ∈ order.assignments, Assignment.WellFormed source := by
        simpa using List.find?_eq_none.mp search
      constructor
      · rintro ⟨⟩
        exact ⟨formed, rfl⟩
      · rintro ⟨_, rfl⟩
        rfl

theorem Supplies.context_error_iff (supplied : order.Supplies files base) (fault : Fault) :
    order.context files = .error fault ↔ ∃ earlier bad later,
      order.assignments = earlier ++ bad :: later ∧
      (∀ source ∈ earlier, Assignment.WellFormed source) ∧ ¬ Assignment.WellFormed bad ∧
      fault = .command (.invalidAssignment bad) := by
  rw [supplied.context]
  constructor
  · intro failed
    cases search : order.assignments.find? fun source => ¬ Assignment.WellFormed source with
    | none =>
        rw [search] at failed
        cases failed
    | some bad =>
        rw [search] at failed
        cases failed
        obtain ⟨wrong, earlier, later, split, formed⟩ := List.find?_eq_some_iff_append.mp search
        exact ⟨earlier, bad, later, split, by simpa using formed, by simpa using wrong, rfl⟩
  · rintro ⟨earlier, bad, later, split, formed, wrong, rfl⟩
    have search : (order.assignments.find? fun source => ¬ Assignment.WellFormed source) =
        some bad :=
      List.find?_eq_some_iff_append.mpr
        ⟨by simpa using wrong, earlier, later, split, by simpa using formed⟩
    rw [search]

/-- What the command lets a page read under a key: the last assignment, else the context file,
else the defaults of the settings, else the default of the page, else null. -/
def reading (order : PageOrder) (base defaults : Fields) (key : String)
    (preset : Option Value) : Value :=
  ((((Assignment.said? order.assignments key).or (base.get? key)).or (defaults.get? key)).or
    preset).getD .null

theorem bindings_reading (settings : Settings) (around : Surroundings) {fields : Fields}
    (found : ∀ key, fields.get? key =
      (Assignment.said? order.assignments key).or (base.get? key))
    (key : String) (preset : Option Value) :
    ((settings.page order.template).bindings around (.map fields)).lookup key preset =
      pure (order.reading base settings.defaults key preset) := by
  have resolved : (Context.map fields).resolve settings.defaults key preset =
      ([], .ok (order.reading base settings.defaults key preset)) := by
    rw [reading, ← found, Context.resolve, Context.find]
    cases fields.get? key with
    | some value => rfl
    | none => cases settings.defaults.get? key <;> cases preset <;> rfl
  change Engine.answer ((Context.map fields).resolve settings.defaults key preset) = _
  rw [resolved]
  exact Engine.answer_unasked _

/-- The text of the command is what its page renders to over the merged fields. -/
theorem text_page (settings : Settings) {fields : Fields}
    (merged : order.context files = .ok fields) (located : order.template.isEmpty = false)
    (present : files.isFile (settings.pageFile order.template) = true) :
    let page := settings.page order.template
    let bindings := page.bindings (Catalog.empty.surroundings files) (.map fields)
    order.text settings files = (reported page.site (.map fields)
      ((Engine.captured (runPage files (settings.pageFile order.template) bindings)).run
        World.fresh).1).map Prod.snd := by
  intro page bindings
  rw [text_staged, merged]
  dsimp only
  rw [located, present, if_neg nofun, if_pos rfl]
  rw [page.run_within (Catalog.empty.surroundings files) (.context (.map fields)) World.fresh
    (.map fields) rfl]
  rfl

/-- The context is there exactly if all assignments are well formed, else the command refuses the
first that is not. Every key has the value that it is assigned last, or that of the file. The
keys of the file keep their order, new ones follow in the order in which they are assigned
first, and none is there twice. So the page reads the last assignment, else the file, else the
defaults of the settings, else its own default, else null. -/
theorem merged_context_read (settings : Settings) (supplied : order.Supplies files base) :
    ((∃ fields, order.context files = .ok fields) ↔
      ∀ source ∈ order.assignments, Assignment.WellFormed source) ∧
    (∀ fault, order.context files = .error fault ↔ ∃ earlier bad later,
      order.assignments = earlier ++ bad :: later ∧
      (∀ source ∈ earlier, Assignment.WellFormed source) ∧ ¬ Assignment.WellFormed bad ∧
      fault = .command (.invalidAssignment bad)) ∧
    ∀ fields, order.context files = .ok fields →
      fields.keys = base.keys ++ ((order.assignments.map Assignment.keyText).filter fun key =>
        key ∉ base.keys).eraseDups ∧
      fields.keys.Nodup ∧
      (∀ key, fields.get? key = (Assignment.said? order.assignments key).or (base.get? key)) ∧
      (order.template.isEmpty = false → files.isFile (settings.pageFile order.template) = true →
        let page := settings.page order.template
        let bindings := page.bindings (Catalog.empty.surroundings files) (.map fields)
        order.text settings files = (reported page.site (.map fields)
          ((Engine.captured (runPage files (settings.pageFile order.template) bindings)).run
            World.fresh).1).map Prod.snd ∧
        (∀ key preset, bindings.lookup key preset =
          pure (order.reading base settings.defaults key preset)) ∧
        ∀ (args : Fields) (scope : Markup.Scope) (key : String),
          args.get? "key" = some (.string key) →
          ((Markup.readKey args).run.run scope).run bindings =
            pure (.ok (order.reading base settings.defaults key (args.get? "default")),
              scope)) := by
  refine ⟨?succeeds, supplied.context_error_iff, ?merged⟩
  case succeeds =>
    constructor
    · rintro ⟨fields, done⟩
      exact ((supplied.context_ok_iff fields).mp done).1
    · intro formed
      exact ⟨_, (supplied.context_ok_iff _).mpr ⟨formed, rfl⟩⟩
  case merged =>
    intro fields done
    have overlaid := ((supplied.context_ok_iff fields).mp done).2
    have found : ∀ key, fields.get? key =
        (Assignment.said? order.assignments key).or (base.get? key) := by
      intro key
      rw [overlaid, Fields.get?_overlay_last]
      rfl
    have named : Fields.keys (order.assignments.map Assignment.entry) =
        order.assignments.map Assignment.keyText := List.map_map
    refine ⟨?_, ?_, found, ?_⟩
    · rw [overlaid, Fields.keys_overlay, named]
    · rw [overlaid]
      exact Fields.nodup_overlay supplied.distinct _
    · intro located present page bindings
      have reads := order.bindings_reading settings (Catalog.empty.surroundings files) found
      refine ⟨text_page settings done located present, reads, ?_⟩
      intro args scope key asked
      exact read_key_reading reads args key asked scope

def repeatedOrder : PageOrder :=
  ⟨"t.tera", some "c.json", ["b=3", " n =x=y", "b=null", "n=[1"], none⟩

def repeatedTree : FileTree :=
  (FileTree.empty.addEntry "c.json" (.file "\x7b\"b\":1,\"a\":2\x7d".toUTF8)).addEntry "t.tera"
    (.file "\x7b\x7b c(key=\"b\") \x7d\x7d".toUTF8)

/-- A key of the file is assigned twice, and so is a new one that has blanks around it once. -/
theorem merged_context_read_repeated :
    let base : Fields := [("b", Value.ofNat 1), ("a", Value.ofNat 2)]
    let defaults : Fields := [("b", .bool true), ("d", .bool false)]
    let page := Settings.page ⟨none, true, defaults⟩ "t.tera"
    repeatedOrder.Supplies repeatedTree base ∧
    ∃ fields, repeatedOrder.context repeatedTree = .ok fields ∧
      fields.keys = ["b", "a", "n"] ∧
      fields.get? "b" = some .null ∧ fields.get? "n" = some (.string "[1") ∧
      let lookup := (page.bindings (Catalog.empty.surroundings repeatedTree) (.map fields)).lookup
      lookup "b" (some (.string "own")) = pure .null ∧
      lookup "d" (some (.string "own")) = pure (.bool false) ∧
      lookup "e" (some (.string "own")) = pure (.string "own") := by
  intro base defaults page
  have read : repeatedTree.readText "c.json" = .ok "\x7b\"b\":1,\"a\":2\x7d" :=
    outcome_ok (by decide +kernel)
  have parsed : DataFormat.json.parse? "\x7b\"b\":1,\"a\":2\x7d" = some (.object base) := by
    decide +kernel
  have known : DataFormat.ofPath? "c.json" = some .json := by decide +kernel
  have supplied : repeatedOrder.Supplies repeatedTree base :=
    .file "c.json" _ .json base rfl known read parsed
  obtain ⟨succeeds, _, merged⟩ := merged_context_read ⟨none, true, defaults⟩ supplied
  obtain ⟨fields, done⟩ := succeeds.mpr (by decide +kernel)
  obtain ⟨keys, _, found, reads⟩ := merged fields done
  obtain ⟨_, lookups, _⟩ := reads (by decide +kernel) (by decide +kernel)
  refine ⟨supplied, fields, done, keys.trans ?_, (found "b").trans ?_, (found "n").trans ?_,
    (lookups "b" _).trans (congrArg pure ?_), (lookups "d" _).trans (congrArg pure ?_),
    (lookups "e" _).trans (congrArg pure ?_)⟩
  all_goals decide +kernel

end PageOrder

end Stencil
