import Stencil.Command.Run
import Stencil.Proofs.Fields

/-!
What changes when a file is written. Where a path leads depends only on which places are
directories, so a text that has been written is read back by the same path, and the way to
it may be made without moving anything that is there. In the same way trees in which only
the contents of some files differ are told apart by nothing but reading those files.
-/

namespace Stencil

namespace FileTree

theorem node?_given {place : Place} (tree : FileTree) (given : isGiven place = true) :
    tree.node? place = some .directory := by
  rw [node?, if_pos given]

theorem is_given_of_no_directory {tree : FileTree} {place : Place}
    (free : tree.node? place ≠ some .directory) : isGiven place = false := by
  rw [← Bool.not_eq_true]
  exact fun given => free (node?_given tree given)

theorem lookup_replaced (entries : List (Place × FileNode)) (place other : Place)
    (node : FileNode) :
    (entries.map fun entry => if entry.1 == place then (place, node) else entry).lookup other =
      if other = place then (entries.lookup place).map fun _ => node
      else entries.lookup other := by
  induction entries with
  | nil => simp
  | cons entry rest ih =>
      obtain ⟨known, held⟩ := entry
      rw [List.map_cons, lookup_entry, lookup_entry]
      by_cases same : known = place
      · rw [if_pos (beq_iff_eq.mpr same), lookup_entry, ih]
        by_cases asked : other = place <;> simp [asked, same]
      · have apart : ¬(known == place) = true := fun equal => same (beq_iff_eq.mp equal)
        rw [if_neg apart, lookup_entry, ih]
        by_cases asked : other = place <;> simp [asked, Ne.symm same]

theorem lookup_added (entries : List (Place × FileNode)) (place other : Place)
    (node : FileNode) (absent : (entries.any fun entry => entry.1 == place) = false) :
    (entries ++ [(place, node)]).lookup other =
      if other = place then some node else entries.lookup other := by
  induction entries with
  | nil => exact lookup_entry place other node []
  | cons entry rest ih =>
      obtain ⟨known, held⟩ := entry
      obtain ⟨here, later⟩ := Bool.or_eq_false_iff.mp absent
      have apart : known ≠ place := beq_eq_false_iff_ne.mp here
      rw [List.cons_append, lookup_entry, lookup_entry, ih later]
      by_cases asked : other = place
      · simp [asked, Ne.symm apart]
      · simp [asked]

theorem lookup_present (entries : List (Place × FileNode)) (place : Place)
    (present : (entries.any fun entry => entry.1 == place) = true) :
    ∃ node, entries.lookup place = some node := by
  induction entries with
  | nil => cases present
  | cons entry rest ih =>
      obtain ⟨known, held⟩ := entry
      rw [lookup_entry]
      by_cases same : place = known
      · exact ⟨held, if_pos same⟩
      · rw [if_neg same]
        rcases Bool.or_eq_true_iff.mp present with here | later
        · exact absurd (beq_iff_eq.mp here).symm same
        · exact ih later

/-- What is put at a place is there, and nothing else changes. A place that needs no entry
stays the directory that it is. -/
theorem node?_put (tree : FileTree) (place : Place) (node : FileNode) (other : Place) :
    (tree.put place node).node? other =
      if other = place ∧ isGiven place = false then some node else tree.node? other := by
  have listed : (tree.put place node).entries.lookup other =
      if other = place then some node else tree.entries.lookup other := by
    unfold put
    split
    · rename_i present
      obtain ⟨held, found⟩ := lookup_present tree.entries place present
      rw [lookup_replaced, found]
      rfl
    · rename_i absent
      exact lookup_added tree.entries place other node (Bool.not_eq_true _ ▸ absent)
  rw [node?, node?, listed]
  by_cases same : other = place
  · subst same
    cases isGiven other <;> simp
  · simp [same]

@[simp]
theorem put_barred (tree : FileTree) (place : Place) (node : FileNode) :
    (tree.put place node).barred = tree.barred := rfl

theorem bars_of_barred {tree grown : FileTree} (same : grown.barred = tree.barred)
    (place : Place) (access : Access) : grown.bars place access = tree.bars place access := by
  rw [bars, bars, same]

/-- A name is followed from a directory that may be searched, and from nowhere else. -/
theorem follow_ok_iff (tree : FileTree) (place next : Place) (name : String) :
    tree.follow place name = .ok next ↔ tree.node? place = some .directory ∧
      (name ≠ "" → tree.bars place .search = false) ∧ next = onward place name := by
  unfold follow
  cases tree.node? place with
  | none => simp
  | some node =>
      cases node with
      | file content => simp
      | directory =>
          by_cases refused : name ≠ "" ∧ tree.bars place .search = true
          · simp [refused]
          · rw [if_neg refused, Except.ok.injEq]
            constructor
            · intro led
              refine ⟨rfl, fun named => ?_, led.symm⟩
              exact Bool.not_eq_true _ ▸ fun barred => refused ⟨named, barred⟩
            · exact fun leads => leads.2.2.symm

theorem walk_cons (tree : FileTree) (place : Place) (name : String) (rest : List String) :
    tree.walk place (name :: rest) =
      tree.follow place name >>= fun next => tree.walk next rest := rfl

theorem walk_cons_ok_iff (tree : FileTree) (place final : Place) (name : String)
    (rest : List String) :
    tree.walk place (name :: rest) = .ok final ↔
      (tree.node? place = some .directory ∧ (name ≠ "" → tree.bars place .search = false)) ∧
        tree.walk (onward place name) rest = .ok final := by
  rw [walk_cons]
  cases followed : tree.follow place name with
  | error error =>
      constructor
      · rintro ⟨⟩
      · rintro ⟨⟨directory, searched⟩, _⟩
        rw [(tree.follow_ok_iff place _ name).mpr ⟨directory, searched, rfl⟩] at followed
        cases followed
  | ok next =>
      obtain ⟨directory, searched, rfl⟩ := (tree.follow_ok_iff place next name).mp followed
      exact ⟨fun led => ⟨⟨directory, searched⟩, led⟩, fun leads => leads.2⟩

/-- Whatever was a directory is one, and no place bars more or less than it did. -/
structure Keeps (tree grown : FileTree) : Prop where
  directory : ∀ place, tree.node? place = some .directory →
    grown.node? place = some .directory
  barred : grown.barred = tree.barred

/-- A path leads where it led as long as no directory is gone. -/
theorem walk_kept {tree grown : FileTree} (kept : tree.Keeps grown) (names : List String)
    (place final : Place) (led : tree.walk place names = .ok final) :
    grown.walk place names = .ok final := by
  induction names generalizing place with
  | nil => exact led
  | cons name rest ih =>
      rw [walk_cons_ok_iff] at led ⊢
      obtain ⟨⟨held, searched⟩, onwards⟩ := led
      rw [bars_of_barred kept.barred]
      exact ⟨⟨kept.directory place held, searched⟩, ih _ onwards⟩

theorem locate_kept {tree grown : FileTree} (kept : tree.Keeps grown) (path : String)
    (place : Place) (led : tree.locate path = .ok place) : grown.locate path = .ok place := by
  unfold locate at led ⊢
  split
  · rename_i none
    rw [if_pos none] at led
    cases led
  · rename_i some
    rw [if_neg some] at led
    exact walk_kept kept _ _ place led

theorem from_utf8_to_utf8 (text : String) : String.fromUTF8? text.toUTF8 = some text := by
  simp only [String.fromUTF8?, String.toUTF8_eq_toByteArray, dif_pos text.isValidUTF8]
  rfl

theorem write_text_ok {tree written : FileTree} {path text : String}
    (done : tree.writeText path text = .ok written) :
    ∃ place, tree.locate path = .ok place ∧ tree.node? place ≠ some .directory ∧
      written = tree.put place (.file text.toUTF8) := by
  unfold writeText writeBytes at done
  split at done
  · cases led : tree.locate (withoutSlashes path) <;> rw [led] at done <;> cases done
  · cases led : tree.locate path with
    | error error =>
        rw [led] at done
        cases done
    | ok place =>
        rw [led] at done
        refine ⟨place, rfl, ?_⟩
        cases held : tree.node? place with
        | none =>
            simp only [bind, Except.bind, held] at done
            split at done
            · cases done
            · cases done
              exact ⟨nofun, rfl⟩
        | some node =>
            cases node with
            | directory =>
                simp only [bind, Except.bind, held] at done
                cases done
            | file content =>
                simp only [bind, Except.bind, held] at done
                split at done
                · cases done
                · cases done
                  exact ⟨nofun, rfl⟩

theorem resolve_lost {tree : FileTree} {path : String} {error : FileError}
    (lost : tree.locate path = .error error) : tree.resolve path = .error error := by
  rw [resolve, lost]
  rfl

theorem resolve_free {tree : FileTree} {path : String} {place : Place}
    (led : tree.locate path = .ok place) (free : tree.node? place = none) :
    tree.resolve path = .error .notFound := by
  simp only [resolve, led, free, bind, Except.bind]

theorem resolve_held {tree : FileTree} {path : String} {place : Place} {node : FileNode}
    (led : tree.locate path = .ok place) (held : tree.node? place = some node) :
    tree.resolve path = .ok node := by
  simp only [resolve, led, held, bind, Except.bind]

theorem read_text_at {tree : FileTree} {path : String} {place : Place} {text : String}
    (led : tree.locate path = .ok place) (held : tree.node? place = some (.file text.toUTF8))
    (readable : tree.bars place .read = false) : tree.readText path = .ok text := by
  simp only [readText, led, held, readable, bind, Except.bind, from_utf8_to_utf8,
    Bool.false_eq_true, if_false]

theorem resolve_of_read {tree : FileTree} {path text : String}
    (read : tree.readText path = .ok text) :
    ∃ content, tree.resolve path = .ok (.file content) := by
  unfold readText at read
  cases led : tree.locate path with
  | error error =>
      rw [led] at read
      cases read
  | ok place =>
      simp only [led, bind, Except.bind] at read
      cases held : tree.node? place with
      | none =>
          rw [held] at read
          cases read
      | some node =>
          simp only [held] at read
          split at read
          · cases read
          · cases node with
            | directory => cases read
            | file content => exact ⟨content, resolve_held led held⟩

/-- What has been written is read back by the same path, unless that place may be written and
not read. No other place has changed. -/
theorem write_text_read {tree written : FileTree} {path text : String}
    (done : tree.writeText path text = .ok written) :
    ∃ place, written.locate path = .ok place ∧ written.node? place = some (.file text.toUTF8) ∧
      (tree.bars place .read = false → written.readText path = .ok text) ∧
      written.barred = tree.barred ∧
      ∀ other, other ≠ place → written.node? other = tree.node? other := by
  obtain ⟨place, led, free, same⟩ := write_text_ok done
  have placed := node?_put tree place (.file text.toUTF8)
  have needed := is_given_of_no_directory free
  have there : written.node? place = some (.file text.toUTF8) := by
    rw [same, placed place, if_pos ⟨rfl, needed⟩]
  have others : ∀ other, other ≠ place → written.node? other = tree.node? other := by
    intro other apart
    rw [same, placed other, if_neg fun both => apart both.1]
  have barred : written.barred = tree.barred := by rw [same, put_barred]
  have kept : tree.Keeps written := by
    refine ⟨fun other directory => ?_, barred⟩
    have apart : other ≠ place := by
      rintro rfl
      exact free directory
    rw [others other apart, directory]
  have located := locate_kept kept path place led
  refine ⟨place, located, there, fun readable => ?_, barred, others⟩
  exact read_text_at located there (by rw [bars_of_barred barred, readable])

/-- The same but for directories where nothing was. -/
structure Extends (tree grown : FileTree) : Prop where
  nodes : ∀ place, grown.node? place = tree.node? place ∨
    (tree.node? place = none ∧ grown.node? place = some .directory)
  barred : grown.barred = tree.barred

namespace Extends

theorem same (tree : FileTree) : tree.Extends tree := ⟨fun _ => .inl rfl, rfl⟩

theorem trans {tree grown full : FileTree} (first : tree.Extends grown)
    (second : grown.Extends full) : tree.Extends full := by
  refine ⟨fun place => ?_, second.barred.trans first.barred⟩
  rcases second.nodes place with kept | ⟨free, made⟩
  · rcases first.nodes place with unmoved | ⟨open', directory⟩
    · exact .inl (kept.trans unmoved)
    · exact .inr ⟨open', kept.trans directory⟩
  · rcases first.nodes place with unmoved | ⟨_, directory⟩
    · exact .inr ⟨unmoved.symm.trans free, made⟩
    · rw [free] at directory
      cases directory

theorem keeps {tree grown : FileTree} (extended : tree.Extends grown) : tree.Keeps grown := by
  refine ⟨fun place directory => ?_, extended.barred⟩
  rcases extended.nodes place with kept | ⟨free, _⟩
  · exact kept.trans directory
  · rw [free] at directory
    cases directory

end Extends

theorem make_directory_extends {tree grown : FileTree} {path : String}
    (made : tree.makeDirectory path = .ok grown) : tree.Extends grown := by
  unfold makeDirectory at made
  cases led : tree.locate (withoutSlashes path) with
  | error error =>
      rw [led] at made
      cases made
  | ok place =>
      simp only [led, bind, Except.bind] at made
      cases held : tree.node? place with
      | some node =>
          rw [held] at made
          cases made
      | none =>
          simp only [held] at made
          split at made
          · cases made
          · cases made
            refine ⟨fun other => ?_, rfl⟩
            rw [node?_put]
            split
            · rename_i here
              rw [here.1]
              exact .inr ⟨held, rfl⟩
            · exact .inl rfl

/-- The last step on the way to a directory, once those above it are there. -/
def makeLast (tree : FileTree) (path : String) : FileTree × Except FileError Unit :=
  match tree.makeDirectory path with
  | .ok grown => (grown, .ok ())
  | .error error => (tree, if tree.isDirectory path then .ok () else .error error)

theorem make_last_extends (tree : FileTree) (path : String) :
    tree.Extends (tree.makeLast path).1 := by
  unfold makeLast
  cases made : tree.makeDirectory path with
  | ok grown => exact make_directory_extends made
  | error error => exact Extends.same tree

/-- Whether or not the directories can all be made, nothing else is touched. -/
theorem make_directories_extends (fuel : Nat) (tree : FileTree) (path : String) :
    tree.Extends (makeDirectories fuel tree path).1 := by
  induction fuel generalizing path with
  | zero => exact Extends.same tree
  | succ fuel ih =>
      rw [makeDirectories]
      split
      · exact Extends.same tree
      · cases made : tree.makeDirectory path with
        | ok grown => exact make_directory_extends made
        | error error =>
            dsimp only
            split
            · cases Path.parent? path with
              | none => exact Extends.same tree
              | some parent =>
                  dsimp only
                  -- What is above comes first, and stays if the last step fails.
                  have above := ih parent
                  generalize makeDirectories fuel tree parent = made at above ⊢
                  obtain ⟨grown, outcome⟩ := made
                  cases outcome with
                  | ok _ => exact above.trans (make_last_extends grown path)
                  | error error => exact above
            · exact make_last_extends tree path

/-- Trees in which only the contents of some files differ. -/
structure AlikeBut (changed : Place → Prop) (one other : FileTree) : Prop where
  nodes : ∀ place, one.node? place = other.node? place ∨
    (changed place ∧ ∃ was is, one.node? place = some (.file was) ∧
      other.node? place = some (.file is))
  barred : one.barred = other.barred

variable {changed : Place → Prop} {one other : FileTree}

namespace AlikeBut

theorem node? (alike : AlikeBut changed one other) {place : Place} (unchanged : ¬changed place) :
    one.node? place = other.node? place := by
  rcases alike.nodes place with same | ⟨differs, _⟩
  · exact same
  · exact absurd differs unchanged

/-- Only the content of what is there can differ. -/
theorem kind (alike : AlikeBut changed one other) (place : Place) :
    (one.node? place = none ∧ other.node? place = none) ∨
    (one.node? place = some .directory ∧ other.node? place = some .directory) ∨
    ∃ was is, one.node? place = some (.file was) ∧ other.node? place = some (.file is) := by
  rcases alike.nodes place with same | ⟨_, files⟩
  · cases held : one.node? place with
    | none => exact .inl ⟨rfl, same.symm.trans held⟩
    | some node =>
        right
        cases node with
        | directory => exact .inl ⟨rfl, same.symm.trans held⟩
        | file content => exact .inr ⟨content, content, rfl, same.symm.trans held⟩
  · exact .inr (.inr files)

theorem bars (alike : AlikeBut changed one other) (place : Place) (access : Access) :
    one.bars place access = other.bars place access :=
  bars_of_barred alike.barred place access

theorem follow (alike : AlikeBut changed one other) : one.follow = other.follow := by
  funext place name
  unfold FileTree.follow
  rw [alike.bars]
  rcases alike.kind place with ⟨none, gone⟩ | ⟨here, there⟩ | ⟨was, is, here, there⟩
  · rw [none, gone]
  · rw [here, there]
  · rw [here, there]

theorem locate (alike : AlikeBut changed one other) (path : String) :
    one.locate path = other.locate path := by
  unfold FileTree.locate walk
  rw [alike.follow]

theorem resolve (alike : AlikeBut changed one other) (path : String) :
    (∃ error, one.resolve path = .error error ∧ other.resolve path = .error error) ∨
    (one.resolve path = .ok .directory ∧ other.resolve path = .ok .directory) ∨
    ∃ was is, one.resolve path = .ok (.file was) ∧ other.resolve path = .ok (.file is) := by
  have same := alike.locate path
  cases led : one.locate path with
  | error error =>
      exact .inl ⟨error, resolve_lost led, resolve_lost (same.symm.trans led)⟩
  | ok place =>
      have leads := same.symm.trans led
      rcases alike.kind place with ⟨none, gone⟩ | ⟨here, there⟩ | ⟨was, is, here, there⟩
      · exact .inl ⟨_, resolve_free led none, resolve_free leads gone⟩
      · exact .inr (.inl ⟨resolve_held led here, resolve_held leads there⟩)
      · exact .inr (.inr ⟨was, is, resolve_held led here, resolve_held leads there⟩)

theorem exists? (alike : AlikeBut changed one other) (path : String) :
    one.exists? path = other.exists? path := by
  unfold FileTree.exists?
  rcases alike.resolve path with ⟨_, here, there⟩ | ⟨here, there⟩ | ⟨_, _, here, there⟩ <;>
    rw [here, there]

theorem is_file (alike : AlikeBut changed one other) (path : String) :
    one.isFile path = other.isFile path := by
  unfold FileTree.isFile
  rcases alike.resolve path with ⟨_, here, there⟩ | ⟨here, there⟩ | ⟨_, _, here, there⟩ <;>
    rw [here, there]

theorem is_directory (alike : AlikeBut changed one other) (path : String) :
    one.isDirectory path = other.isDirectory path := by
  unfold FileTree.isDirectory
  rcases alike.resolve path with ⟨_, here, there⟩ | ⟨here, there⟩ | ⟨_, _, here, there⟩ <;>
    rw [here, there]

/-- A file that has not changed is read the same. -/
theorem read_text (alike : AlikeBut changed one other) (path : String)
    (unchanged : ∀ place, one.locate path = .ok place → ¬changed place) :
    one.readText path = other.readText path := by
  unfold FileTree.readText
  rw [← alike.locate path]
  cases led : one.locate path with
  | error error => rfl
  | ok place =>
      simp only [bind, Except.bind]
      rw [alike.node? (unchanged place led), alike.bars]

theorem put (alike : AlikeBut changed one other) (place : Place) (node : FileNode) :
    AlikeBut changed (one.put place node) (other.put place node) := by
  refine ⟨fun asked => ?_, alike.barred⟩
  rw [node?_put, node?_put]
  split
  · exact .inl rfl
  · exact alike.nodes asked

/-- Other content at one place. -/
theorem of_put (tree : FileTree) (place : Place) (was is : ByteArray) :
    AlikeBut (· = place) (tree.put place (.file was)) (tree.put place (.file is)) := by
  refine ⟨fun asked => ?_, rfl⟩
  rw [node?_put, node?_put]
  split
  · rename_i here
    exact .inr ⟨here.1, was, is, rfl, rfl⟩
  · exact .inl rfl

end AlikeBut

inductive GrownAlike (changed : Place → Prop) :
    Except FileError FileTree → Except FileError FileTree → Prop
  | ok {one other : FileTree} (alike : AlikeBut changed one other) :
      GrownAlike changed (.ok one) (.ok other)
  | error (error : FileError) : GrownAlike changed (.error error) (.error error)

theorem make_directory_alike (alike : AlikeBut changed one other) (path : String) :
    GrownAlike changed (one.makeDirectory path) (other.makeDirectory path) := by
  unfold makeDirectory
  rw [← alike.locate]
  cases one.locate (withoutSlashes path) with
  | error error => exact .error error
  | ok place =>
      simp only [bind, Except.bind, alike.bars]
      rcases alike.kind place with ⟨none, gone⟩ | ⟨here, there⟩ | ⟨_, _, here, there⟩
      · rw [none, gone]
        dsimp only
        split
        · exact .error _
        · exact .ok (alike.put place .directory)
      · rw [here, there]
        exact .error _
      · rw [here, there]
        exact .error _

theorem write_text_alike (alike : AlikeBut changed one other) (path text : String) :
    GrownAlike changed (one.writeText path text) (other.writeText path text) := by
  unfold writeText writeBytes
  rw [← alike.locate, ← alike.locate]
  split
  · cases one.locate (withoutSlashes path) <;> exact .error _
  · cases one.locate path with
    | error error => exact .error error
    | ok place =>
        simp only [bind, Except.bind, alike.bars]
        rcases alike.kind place with ⟨none, gone⟩ | ⟨here, there⟩ | ⟨_, _, here, there⟩
        · rw [none, gone]
          dsimp only
          split
          · exact .error _
          · exact .ok (alike.put place _)
        · rw [here, there]
          exact .error _
        · rw [here, there]
          dsimp only
          split
          · exact .error _
          · exact .ok (alike.put place _)

theorem make_last_alike (alike : AlikeBut changed one other) (path : String) :
    AlikeBut changed (one.makeLast path).1 (other.makeLast path).1 ∧
      (one.makeLast path).2 = (other.makeLast path).2 := by
  have made := make_directory_alike alike path
  unfold makeLast
  rw [alike.is_directory path]
  generalize one.makeDirectory path = first at made ⊢
  generalize other.makeDirectory path = second at made ⊢
  cases made with
  | ok grown => exact ⟨grown, rfl⟩
  | error error => exact ⟨alike, rfl⟩

theorem make_directories_alike (fuel : Nat) (alike : AlikeBut changed one other)
    (path : String) :
    AlikeBut changed (makeDirectories fuel one path).1 (makeDirectories fuel other path).1 ∧
      (makeDirectories fuel one path).2 = (makeDirectories fuel other path).2 := by
  induction fuel generalizing path with
  | zero => exact ⟨alike, rfl⟩
  | succ fuel ih =>
      rw [makeDirectories, makeDirectories]
      split
      · exact ⟨alike, rfl⟩
      · have made := make_directory_alike alike path
        generalize one.makeDirectory path = first at made ⊢
        generalize other.makeDirectory path = second at made ⊢
        cases made with
        | ok grown => exact ⟨grown, rfl⟩
        | error error =>
            dsimp only
            split
            · cases Path.parent? path with
              | none => exact ⟨alike, rfl⟩
              | some parent =>
                  have above := ih parent
                  dsimp only
                  generalize makeDirectories fuel one parent = first at above ⊢
                  generalize makeDirectories fuel other parent = second at above ⊢
                  obtain ⟨grown, outcome⟩ := first
                  obtain ⟨full, ended⟩ := second
                  obtain ⟨closer, same⟩ := above
                  cases same
                  cases outcome with
                  | ok _ => exact make_last_alike closer path
                  | error error => exact ⟨closer, rfl⟩
            · exact make_last_alike alike path

end FileTree

structure Outcome.AlikeBut (changed : Place → Prop) (one other : Outcome) : Prop where
  files : FileTree.AlikeBut changed one.files other.files
  console : one.console = other.console
  result : one.result = other.result

namespace FileTree

variable {changed : Place → Prop} {one other : FileTree}

def writeOut (files : FileTree) (path text : String) : Outcome :=
  match files.writeText path text with
  | .ok written => .printed written ""
  | .error error => .failed files (.layered ("Failed to write output file: " ++ path) (.file error))

theorem deliver_eq (files : FileTree) (path text : String) :
    files.deliver path text =
      match (Path.parent? path).filter fun parent => !parent.isEmpty with
      | none => files.writeOut path text
      | some parent =>
          match makeDirectories (parent.length + 1) files parent with
          | (grown, .ok ()) => grown.writeOut path text
          | (grown, .error error) =>
              .failed grown
                (.layered ("Failed to create output directory: " ++ parent) (.file error)) := rfl

/-- A text is delivered into a tree that has grown by directories at most: it is written
there, or else nothing is. -/
theorem deliver_cases (files : FileTree) (path text : String) :
    ∃ grown, files.Extends grown ∧
      ((∃ fault, files.deliver path text = .failed grown fault) ∨
        ∃ written, grown.writeText path text = .ok written ∧
          files.deliver path text = .printed written "") := by
  have write : ∀ grown : FileTree, (∃ fault, grown.writeOut path text = .failed grown fault) ∨
      ∃ written, grown.writeText path text = .ok written ∧
        grown.writeOut path text = .printed written "" := by
    intro grown
    unfold writeOut
    cases grown.writeText path text with
    | ok written => exact .inr ⟨written, rfl, rfl⟩
    | error error => exact .inl ⟨_, rfl⟩
  rw [deliver_eq]
  split
  · exact ⟨files, Extends.same files, write files⟩
  · rename_i parent _
    have extended := make_directories_extends (parent.length + 1) files parent
    generalize makeDirectories (parent.length + 1) files parent = made at extended ⊢
    obtain ⟨grown, outcome⟩ := made
    refine ⟨grown, extended, ?_⟩
    cases outcome with
    | ok _ => exact write grown
    | error error => exact .inl ⟨_, rfl⟩

theorem write_out_alike (alike : AlikeBut changed one other) (path text : String) :
    Outcome.AlikeBut changed (one.writeOut path text) (other.writeOut path text) := by
  have written := write_text_alike alike path text
  unfold writeOut
  generalize one.writeText path text = first at written ⊢
  generalize other.writeText path text = second at written ⊢
  cases written with
  | ok alike => exact ⟨alike, rfl, rfl⟩
  | error error => exact ⟨alike, rfl, rfl⟩

theorem deliver_alike (alike : AlikeBut changed one other) (path text : String) :
    Outcome.AlikeBut changed (one.deliver path text) (other.deliver path text) := by
  rw [deliver_eq, deliver_eq]
  split
  · exact write_out_alike alike path text
  · rename_i parent _
    have made := make_directories_alike (parent.length + 1) alike parent
    generalize makeDirectories (parent.length + 1) one parent = first at made ⊢
    generalize makeDirectories (parent.length + 1) other parent = second at made ⊢
    obtain ⟨grown, outcome⟩ := first
    obtain ⟨full, ended⟩ := second
    obtain ⟨closer, same⟩ := made
    cases same
    cases outcome with
    | ok _ => exact write_out_alike closer path text
    | error error => exact ⟨closer, rfl, rfl⟩

end FileTree

end Stencil
