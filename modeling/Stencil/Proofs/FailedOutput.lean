import Stencil.Proofs.MissingDirectory
import Stencil.Proofs.StageFault

/-!
An output that fails. No file is touched then, and what can be left behind are directories on the
way to the output file. There are some exactly if the directory of the file was missing and could
be made, which takes a path with a step back, or one that asks for a directory by its ending, to
fail after all.
-/

namespace Stencil

/-- The directories that lead to a path. -/
inductive Path.Above : String → String → Prop
  | parent {path above : String} (next : parent? path = some above) : Above path above
  | further {path between above : String} (before : Above path between)
      (next : parent? between = some above) : Above path above

theorem Path.Above.trimmed {path above : String} (leads : Above path above) :
    Trimmed above.toList.reverse := by
  cases leads with
  | parent next => exact (parent_is_parent next).trimmed
  | further before next => exact (parent_is_parent next).trimmed

namespace FileTree

open Stencil.Path (EndsInName)

/-- The same but for directories that lead to the path and were missing. -/
structure ExtendsTo (path : String) (tree grown : FileTree) : Prop where
  nodes : ∀ place, grown.node? place = tree.node? place ∨
    (tree.node? place = none ∧ grown.node? place = some .directory ∧
      ∃ above, Path.Above path above ∧ grown.locate above = .ok place)
  barred : grown.barred = tree.barred

variable {path above : String} {tree grown full : FileTree}

namespace ExtendsTo

theorem same (path : String) (tree : FileTree) : ExtendsTo path tree tree :=
  ⟨fun _ => .inl rfl, rfl⟩

theorem grows (extended : ExtendsTo path tree grown) : tree.Extends grown := by
  refine ⟨fun place => ?_, extended.barred⟩
  rcases extended.nodes place with kept | ⟨free, made, _⟩
  · exact .inl kept
  · exact .inr ⟨free, made⟩

theorem trans (first : ExtendsTo path tree grown) (second : ExtendsTo path grown full) :
    ExtendsTo path tree full := by
  have kept := second.grows.keeps
  refine ⟨fun place => ?_, second.barred.trans first.barred⟩
  rcases second.nodes place with same | ⟨free, made, leads⟩
  · rcases first.nodes place with unmoved | ⟨free, made, above, leads, led⟩
    · exact .inl (same.trans unmoved)
    · exact .inr ⟨free, same.trans made, above, leads, locate_kept kept above place led⟩
  · rcases first.nodes place with unmoved | ⟨_, made, _⟩
    · exact .inr ⟨unmoved.symm.trans free, made, leads⟩
    · cases free.symm.trans made

end ExtendsTo

theorem make_directory_extends_to (leads : Path.Above path above)
    (made : tree.makeDirectory above = .ok grown) : ExtendsTo path tree grown := by
  have extended := make_directory_extends made
  refine ⟨fun other => ?_, extended.barred⟩
  unfold makeDirectory at made
  rw [without_slashes_trimmed leads.trimmed] at made
  cases led : tree.locate above with
  | error error =>
      rw [led] at made
      cases made
  | ok place =>
      simp only [led, bind, Except.bind] at made
      cases held : tree.node? place with
      | some node =>
          rw [held] at made
          cases made
      | none =>
          simp only [held] at made
          split at made
          · cases made
          · cases made
            rw [node?_put]
            split
            · rename_i here
              obtain ⟨rfl, _⟩ := here
              exact .inr ⟨held, rfl, above, leads, locate_kept extended.keeps above other led⟩
            · exact .inl rfl

theorem make_last_extends_to (tree : FileTree) (leads : Path.Above path above) :
    ExtendsTo path tree (tree.makeLast above).1 := by
  unfold makeLast
  cases made : tree.makeDirectory above with
  | ok grown => exact make_directory_extends_to leads made
  | error error => exact .same path tree

theorem make_directories_extends_to (fuel : Nat) (tree : FileTree) (leads : Path.Above path above) :
    ExtendsTo path tree (makeDirectories fuel tree above).1 := by
  induction fuel generalizing above with
  | zero => exact .same path tree
  | succ fuel ih =>
      by_cases some : above = ""
      · subst some
        exact .same path tree
      · cases made : tree.makeDirectory above with
        | ok grown =>
            rw [make_directories_made fuel some made]
            exact make_directory_extends_to leads made
        | error error =>
            by_cases lost : error = .notFound
            · subst lost
              cases parent : Path.parent? above with
              | none =>
                  rw [make_directories_orphan fuel some made parent]
                  exact .same path tree
              | some further =>
                  rw [make_directories_above fuel some made parent]
                  have first := ih (.further leads parent)
                  generalize makeDirectories fuel tree further = result at first ⊢
                  obtain ⟨grown, outcome⟩ := result
                  cases outcome with
                  | ok _ => exact first.trans (make_last_extends_to grown leads)
                  | error error => exact first
            · rw [make_directories_refused fuel some made lost]
              exact make_last_extends_to tree leads

/-- The output file needs a directory, and looking that up finds nothing. -/
def Lacks (files : FileTree) (path : String) : Prop :=
  ∃ parent, neededDirectory? path = some parent ∧ files.resolve parent = .error .notFound

/-- The first of the missing directories may be made. -/
def Admits (files : FileTree) (path : String) : Prop :=
  ∀ parent place, neededDirectory? path = some parent → files.Missing parent place →
    files.bars (up place) .write = false

theorem needed_directory_eq_some {path parent : String}
    (needed : neededDirectory? path = some parent) :
    Path.parent? path = some parent ∧ parent ≠ "" := by
  obtain ⟨found, some⟩ := Option.filter_eq_some_iff.mp needed
  refine ⟨found, ?_⟩
  rintro rfl
  cases some

/-- An output that fails leaves the tree as its directories have been made. -/
theorem deliver_failed {files : FileTree} {path text : String} {fault : Fault}
    (failed : (files.deliver path text).result = .error fault) :
    (files.deliver path text).files = match neededDirectory? path with
      | none => files
      | some parent => (makeDirectories (parent.length + 1) files parent).1 := by
  have write : ∀ grown : FileTree, (grown.writeOut path text).result = .error fault →
      (grown.writeOut path text).files = grown := by
    intro grown refused
    unfold writeOut at refused ⊢
    cases written : grown.writeText path text with
    | ok after =>
        rw [written] at refused
        cases refused
    | error error => rfl
  rw [deliver_eq, ← neededDirectory?] at failed ⊢
  cases needed : neededDirectory? path with
  | none =>
      rw [needed] at failed
      exact write files failed
  | some parent =>
      rw [needed] at failed
      dsimp only at failed ⊢
      generalize makeDirectories (parent.length + 1) files parent = made at failed ⊢
      obtain ⟨grown, outcome⟩ := made
      cases outcome with
      | ok _ => exact write grown failed
      | error error => rfl

theorem deliver_extends_to {files : FileTree} {path text : String} {fault : Fault}
    (failed : (files.deliver path text).result = .error fault) :
    ExtendsTo path files (files.deliver path text).files := by
  rw [deliver_failed failed]
  split
  · exact .same path files
  · rename_i parent needed
    exact make_directories_extends_to _ files (.parent (needed_directory_eq_some needed).1)

/-- A failed output leaves a trace exactly where the directory of the file was missing and could
be made. -/
theorem deliver_leaves_iff {files : FileTree} {path text : String} {fault : Fault}
    (failed : (files.deliver path text).result = .error fault) :
    (files.deliver path text).files ≠ files ↔ files.Lacks path ∧ files.Admits path := by
  rw [deliver_failed failed]
  cases needed : neededDirectory? path with
  | none =>
      constructor
      · exact fun differs => absurd rfl differs
      · rintro ⟨⟨parent, same, _⟩, _⟩
        cases needed.symm.trans same
  | some parent =>
      obtain ⟨found, some⟩ := needed_directory_eq_some needed
      have trimmed := (Path.parent_is_parent found).trimmed
      have enough := Nat.lt_succ_self parent.length
      constructor
      · intro differs
        refine ⟨⟨parent, needed, ?_⟩, ?_⟩
        · by_contra present
          exact differs (make_directories_present _ trimmed some present)
        · intro other place same missing
          cases needed.symm.trans same
          by_contra barred
          have refused := missing.refused ((Bool.not_eq_false _).mp barred) trimmed enough
          exact differs (congrArg Prod.fst refused)
      · rintro ⟨⟨other, same, absent⟩, admits⟩
        cases needed.symm.trans same
        obtain ⟨place, missing⟩ := files.missing_of_resolve trimmed some absent
        have made := missing.leaves (admits parent place needed missing) trimmed enough
        intro unchanged
        dsimp only at unchanged
        rw [unchanged, missing.free] at made
        cases made

theorem ends_in_name_of_closed {path : String} (closed : endsOpen path = false) :
    EndsInName path := by
  unfold endsOpen at closed
  split at closed
  · rename_i last found
    obtain ⟨before, split⟩ := List.getLast?_eq_some_iff.mp found
    obtain ⟨named, _⟩ := Bool.or_eq_false_iff.mp closed
    refine ⟨before, last, split, ?_⟩
    rw [Path.isName, bne, bne, ← Bool.not_or, named]
    rfl
  · cases closed

/-- By a path that leads only down, and ends in a name, nothing can come in between. -/
theorem deliver_lacking {files : FileTree} {path : String} (rooted : files.Rooted)
    (lacks : files.Lacks path) (admits : files.Admits path) (plain : ".." ∉ Path.segments path)
    (closed : endsOpen path = false) (text : String) :
    ∃ written, files.deliver path text = .printed written "" := by
  obtain ⟨parent, needed, absent⟩ := lacks
  obtain ⟨found, some⟩ := needed_directory_eq_some needed
  have isParent := Path.parent_is_parent found
  have named : ".." ∉ Path.names path := fun member => plain (List.mem_filter.mp member).1
  have above_plain : ".." ∉ Path.names parent := by
    rw [isParent.names]
    exact fun member => named ((List.dropLast_sublist _).subset member)
  obtain ⟨place, missing⟩ := files.missing_of_resolve isParent.trimmed some absent
  obtain ⟨grown, made, bare⟩ := missing.made rooted (admits parent place needed missing)
    isParent.trimmed above_plain (Nat.lt_succ_self parent.length)
  obtain ⟨led, allowed, free, _⟩ := bare.locate_child isParent (ends_in_name_of_closed closed) named
  refine ⟨grown.put (startOf path ++ Path.names path) (.file text.toUTF8), ?_⟩
  have here := free []
  rw [List.append_nil] at here
  rw [deliver_eq, ← neededDirectory?, needed]
  dsimp only
  rw [made]
  simp only [writeOut, writeText, writeBytes, closed, led, bind, Except.bind, here, allowed]
  rfl

end FileTree

/-- A failed output touches no file. Everything that was there is as it was, and what may have
come are directories on the way to the output file that were missing. There is no trace at all
unless the page has rendered and the directory of its output file was missing and could be made;
and where files stand in directories there is none unless the path steps back or asks for a
directory. -/
theorem failed_output_touches_no_file (order : PageOrder) (verbose quiet : Bool)
    (named environment : Option String) (home : String) (files : FileTree) (console : Console)
    (path : String) (fault : Fault) (given : order.output = some path) :
    let source : SettingsSource := ⟨named, environment, home⟩
    let outcome :=
      (Invocation.mk (.render order) verbose quiet named).run environment home files console
    outcome.result = .error fault →
    FileTree.ExtendsTo path files outcome.files ∧
    (outcome.files ≠ files ↔
      (∃ text, order.Renders source files text) ∧ files.Lacks path ∧ files.Admits path) ∧
    (files.Rooted → ".." ∉ Path.segments path → FileTree.endsOpen path = false →
      outcome.files = files) := by
  intro source outcome failed
  have stages := order.run_stages source files console verbose quiet
  rw [given] at stages
  rcases stages with ⟨_, same, unrendered⟩ | ⟨text, renders, same⟩
  · have kept : outcome.files = files := congrArg Outcome.files same
    refine ⟨kept ▸ .same path files, ⟨fun differs => absurd kept differs, ?_⟩, fun _ _ _ => kept⟩
    rintro ⟨⟨text, renders⟩, _⟩
    exact absurd renders (unrendered text)
  · have delivered : outcome = files.deliver path text := same
    rw [delivered] at failed ⊢
    have leaves := FileTree.deliver_leaves_iff failed
    refine ⟨FileTree.deliver_extends_to failed, ⟨?_, ?_⟩, ?_⟩
    · exact fun differs => ⟨⟨text, renders⟩, leaves.mp differs⟩
    · exact fun both => leaves.mpr both.2
    · intro rooted plain closed
      by_contra differs
      obtain ⟨lacks, admits⟩ := leaves.mp differs
      obtain ⟨written, done⟩ := FileTree.deliver_lacking rooted lacks admits plain closed text
      rw [done] at failed
      cases failed

def onePage : FileTree := FileTree.empty.put ["t.tera"] (.file "hi".toUTF8)

theorem one_page_rooted : onePage.Rooted :=
  @FileTree.rooted_put _ FileTree.rooted_empty [] "t.tera" rfl rfl _

def renderTo (path : String) : Outcome :=
  (Invocation.mk (.render ⟨"t.tera", none, [], some path⟩) false false none).run none "home" onePage

theorem Outcome.failed_of_not_ok {outcome : Outcome} (failed : outcome.result.isOk = false) :
    ∃ fault, outcome.result = .error fault := by
  cases ended : outcome.result with
  | ok _ =>
      rw [ended] at failed
      cases failed
  | error fault => exact ⟨fault, rfl⟩

theorem failed_output_touches_no_file_blocked :
    let back := "out/../t.tera/x"
    let down := "t.tera/x"
    (∃ fault, (renderTo back).result = .error fault) ∧
    (renderTo back).files.node? ["out"] = some .directory ∧
    FileTree.ExtendsTo back onePage (renderTo back).files ∧ onePage.Lacks back ∧
    (∃ fault, (renderTo down).result = .error fault) ∧
    onePage.Rooted ∧ ".." ∉ Path.segments down ∧ FileTree.endsOpen down = false ∧
    (renderTo down).files = onePage := by
  intro back down
  obtain ⟨fault, failed⟩ : ∃ fault, (renderTo back).result = .error fault :=
    Outcome.failed_of_not_ok (by decide +kernel)
  obtain ⟨other, blocked⟩ : ∃ fault, (renderTo down).result = .error fault :=
    Outcome.failed_of_not_ok (by decide +kernel)
  have made : (renderTo back).files.node? ["out"] = some .directory := by decide +kernel
  have free : onePage.node? ["out"] = none := by decide +kernel
  have plain : ".." ∉ Path.segments down := by decide
  have closed : FileTree.endsOpen down = false := by decide
  obtain ⟨extended, leaves, _⟩ := failed_output_touches_no_file ⟨"t.tera", none, [], some back⟩
    false false none none "home" onePage .free back fault rfl failed
  obtain ⟨_, _, kept⟩ := failed_output_touches_no_file ⟨"t.tera", none, [], some down⟩
    false false none none "home" onePage .free down other rfl blocked
  have differs : (renderTo back).files ≠ onePage := by
    intro same
    rw [same, free] at made
    cases made
  exact ⟨⟨fault, failed⟩, made, extended, (leaves.mp differs).2.1, ⟨other, blocked⟩,
    one_page_rooted, plain, closed, kept one_page_rooted plain closed⟩

/-- The directory of the output file has been made when the path turns out to ask for a
directory. -/
theorem failed_output_leaves_directory :
    (∃ fault, (renderTo "out/page/").result = .error fault) ∧
    onePage.node? ["out"] = none ∧
    (renderTo "out/page/").files.node? ["out"] = some .directory := by
  refine ⟨Outcome.failed_of_not_ok (by decide +kernel), ?_, ?_⟩
  · decide +kernel
  · decide +kernel

end Stencil
