import Mathlib.Data.List.Induction
import Stencil.Proofs.FileChange
import Stencil.Proofs.PathNames

/-!
Directories that are missing. A path leads to nothing if a directory is missing on its way
before anything else stands in it; then the directories are made from the first missing one on,
and otherwise none is. If no name of the path leads back, all of them can be made and the last
holds nothing. Making one takes the leave to write in the directory that is to hold it; a
directory that has just been made refuses nothing.
-/

namespace Stencil

namespace FileTree

open Stencil.Path (names isName EndsInName IsParent)

/-- A way leads through a directory that may be searched, and through nothing else. -/
def through (tree : FileTree) (place : Place) : Except FileError Place :=
  match tree.node? place with
  | none => .error .notFound
  | some (.file _) => .error .notADirectory
  | some .directory => if tree.bars place .search then .error .forbidden else .ok place

def enter (tree : FileTree) (place : Place) (names : List String) : Except FileError Place :=
  tree.walk place names >>= tree.through

theorem onward_idle {segment : String} (idle : ¬isName segment = true) (place : Place) :
    onward place segment = place := by
  rw [isName, Bool.and_eq_true, bne_iff_ne, bne_iff_ne, ← not_or, not_not] at idle
  exact if_pos idle

theorem onward_plain {name : String} (named : isName name = true) (plain : name ≠ "..")
    (place : Place) : onward place name = place ++ [name] := by
  rw [isName, Bool.and_eq_true, bne_iff_ne, bne_iff_ne, ← not_or] at named
  rw [onward, if_neg named, if_neg plain]

variable (tree : FileTree)

theorem through_cases (place : Place) :
    tree.through place = .ok place ∨ ∃ error, tree.through place = .error error := by
  rw [through]
  split
  · exact .inr ⟨_, rfl⟩
  · exact .inr ⟨_, rfl⟩
  · split
    · exact .inr ⟨_, rfl⟩
    · exact .inl rfl

theorem through_directory {place : Place} (directory : tree.node? place = some .directory)
    (searched : tree.bars place .search = false) : tree.through place = .ok place := by
  rw [through, directory, searched]
  rfl

theorem through_ok {place : Place} (fine : tree.through place = .ok place) :
    tree.node? place = some .directory ∧ tree.bars place .search = false := by
  rw [through] at fine
  split at fine
  · cases fine
  · cases fine
  · rename_i directory
    split at fine
    · cases fine
    · rename_i searched
      exact ⟨directory, (Bool.not_eq_true _).mp searched⟩

/-- A slash asks for a directory, and that is all. -/
theorem follow_slash (place : Place) :
    tree.follow place "" = tree.through place ∨ tree.follow place "" = .ok place := by
  rw [follow, through]
  cases tree.node? place with
  | none => exact .inl rfl
  | some node =>
      cases node with
      | file content => exact .inl rfl
      | directory => exact .inr rfl

/-- To go on by a name, or by a dot, is to go through the place first. -/
theorem follow_through (place : Place) {segment : String} (some : segment ≠ "") :
    tree.follow place segment = (tree.through place).map (onward · segment) := by
  rw [follow, through]
  cases tree.node? place with
  | none => rfl
  | some node =>
      cases node with
      | file content => rfl
      | directory =>
          dsimp only
          by_cases barred : tree.bars place .search = true
          · rw [if_pos ⟨some, barred⟩, if_pos barred]
            rfl
          · rw [if_neg fun both => barred both.2, if_neg barred]
            rfl

theorem walk_append (place : Place) (before after : List String) :
    tree.walk place (before ++ after) =
      tree.walk place before >>= fun between => tree.walk between after :=
  List.foldlM_append

theorem through_again (place : Place) :
    (tree.through place >>= tree.through) = tree.through place := by
  rcases tree.through_cases place with fine | ⟨error, refused⟩
  · rw [fine]
    exact fine
  · rw [refused]
    rfl

theorem enter_follow (place : Place) (segment : String) (rest : List String) :
    tree.enter place (segment :: rest) =
      tree.follow place segment >>= fun between => tree.enter between rest :=
  bind_assoc (tree.follow place segment) (tree.walk · rest) tree.through

/-- The place that names are followed from is gone through, whatever the names are. A slash
alone asks for less than that, but what comes after it, or the end, asks for it. -/
theorem through_enter (place : Place) (rest : List String) :
    (tree.through place >>= fun place => tree.enter place rest) = tree.enter place rest := by
  induction rest generalizing place with
  | nil => exact tree.through_again place
  | cons segment rest ih =>
      rcases tree.through_cases place with fine | ⟨error, refused⟩
      · rw [fine]
        rfl
      · have stopped : tree.enter place rest = .error error := by
          rw [← ih, refused]
          rfl
        rw [refused, enter_follow]
        by_cases some : segment = ""
        · subst some
          rcases tree.follow_slash place with same | idle
          · rw [same, refused]
            rfl
          · rw [idle]
            exact stopped.symm
        · rw [tree.follow_through place some, refused]
          rfl

theorem enter_cons (place : Place) (segment : String) (rest : List String) :
    tree.enter place (segment :: rest) =
      tree.through place >>= fun place => tree.enter (onward place segment) rest := by
  rw [← through_enter]
  rcases tree.through_cases place with fine | ⟨error, refused⟩
  · obtain ⟨directory, searched⟩ := tree.through_ok fine
    have followed := (tree.follow_ok_iff place _ segment).mpr ⟨directory, fun _ => searched, rfl⟩
    rw [fine]
    change tree.enter place (segment :: rest) = tree.enter (onward place segment) rest
    rw [enter_follow, followed]
    rfl
  · rw [refused]
    rfl

/-- Segments that are no names do not matter. -/
theorem enter_names (place : Place) (segments : List String) :
    tree.enter place (segments.filter isName) = tree.enter place segments := by
  induction segments generalizing place with
  | nil => rfl
  | cons segment rest ih =>
      by_cases named : isName segment = true
      · rw [List.filter_cons_of_pos named, enter_cons, enter_cons]
        exact congrArg _ (funext fun place => ih (onward place segment))
      · rw [List.filter_cons_of_neg named, ih, enter_cons]
        simp only [onward_idle named]
        exact (tree.through_enter place rest).symm

/-- Names that lead only downwards lead to the place that they spell. -/
theorem enter_plain {names : List String} (named : ∀ name ∈ names, isName name = true)
    (plain : ".." ∉ names) {place final : Place} (entered : tree.enter place names = .ok final) :
    final = place ++ names := by
  induction names generalizing place with
  | nil =>
      rcases tree.through_cases place with fine | ⟨error, refused⟩
      · cases fine.symm.trans entered
        exact (List.append_nil final).symm
      · cases refused.symm.trans entered
  | cons name rest ih =>
      rw [List.mem_cons, not_or] at plain
      obtain ⟨here, later⟩ := List.forall_mem_cons.mp named
      rw [enter_cons] at entered
      rcases tree.through_cases place with fine | ⟨error, refused⟩
      · rw [fine] at entered
        rw [ih later plain.2 entered, onward_plain here (Ne.symm plain.1), List.append_assoc,
          List.singleton_append]
      · rw [refused] at entered
        cases entered

theorem not_is_empty {path : String} (some : path ≠ "") : ¬path.isEmpty = true :=
  fun none => some (String.isEmpty_iff.mp none)

theorem locate_some {path : String} (some : path ≠ "") :
    tree.locate path = tree.walk (startOf path) (Path.segments path) := by
  rw [locate, if_neg (not_is_empty some)]

theorem enter_path {path : String} (some : path ≠ "") :
    tree.enter (startOf path) (names path) = tree.locate path >>= tree.through := by
  rw [names, enter_names, enter, tree.locate_some some]

/-- To go in by a path fails for want of something exactly if the path leads to nothing. -/
theorem enter_missing_iff {path : String} (some : path ≠ "") :
    tree.enter (startOf path) (names path) = .error .notFound ↔
      tree.resolve path = .error .notFound := by
  rw [tree.enter_path some, resolve]
  cases tree.locate path with
  | error error =>
      simp only [bind, Except.bind]
      exact ⟨fun same => Except.error.inj same ▸ rfl, fun same => Except.error.inj same ▸ rfl⟩
  | ok place =>
      simp only [bind, Except.bind, through]
      cases tree.node? place with
      | none => simp only
      | some node =>
          constructor
          · intro lost
            cases node with
            | file content => cases lost
            | directory =>
                dsimp only at lost
                split at lost <;> cases lost
          · intro absent
            cases absent

theorem locate_name {path : String} (ends : EndsInName path) :
    ∃ above name, names path = above ++ [name] ∧ isName name = true ∧
      tree.locate path = (tree.enter (startOf path) above).map (onward · name) := by
  obtain ⟨before, name, split, named, same⟩ := ends.names
  have some : path ≠ "" := by
    apply Path.some_of_names
    rw [same]
    exact List.append_ne_nil_of_right_ne_nil _ (List.cons_ne_nil name [])
  refine ⟨_, name, same, named, ?_⟩
  rw [tree.locate_some some, split, walk_append, enter_names, enter]
  cases tree.walk (startOf path) before with
  | error error => rfl
  | ok between =>
      change tree.walk between [name] = (tree.through between).map (onward · name)
      rw [walk_cons, tree.follow_through between (Path.some_of_is_name named)]
      cases tree.through between <;> rfl

theorem start_of_directory (path : String) : tree.node? (startOf path) = some .directory := by
  apply node?_given
  unfold startOf
  split <;> rfl

/-- Where a path starts is there, so one that leads to nothing has names. -/
theorem names_of_missing {path : String}
    (missing : tree.enter (startOf path) (names path) = .error .notFound) : names path ≠ [] := by
  intro none
  rw [none] at missing
  have stopped : tree.through (startOf path) = .error .notFound := missing
  rw [through, tree.start_of_directory path] at stopped
  dsimp only at stopped
  split at stopped <;> cases stopped

theorem start_of_parent {above path : String} (parent : IsParent above path) :
    startOf above = startOf path := by
  rw [startOf, startOf, parent.absolute]

theorem without_slashes_trimmed {path : String} (trimmed : Path.Trimmed path.toList.reverse) :
    withoutSlashes path = path := by
  have ends : path.toList.reverse.dropWhile (· == '/') = [] ∨
      path.toList.reverse.dropWhile (· == '/') = path.toList.reverse := by
    generalize path.toList.reverse = reversed at trimmed
    cases trimmed with
    | nothing => exact .inl rfl
    | root => exact .inl rfl
    | here => exact .inr rfl
    | name part left plain named apart =>
        cases part with
        | nil => cases named
        | cons c part =>
            have other : ¬(c == '/') = true := by
              rw [beq_iff_eq]
              rintro rfl
              exact plain List.mem_cons_self
            exact .inr (List.dropWhile_cons_of_neg other)
  unfold withoutSlashes
  rcases ends with all | none
  · rw [all]
  · rw [none]
    split
    · rfl
    · rw [List.reverse_reverse, String.ofList_toList]

/-- The place of the first directory that is missing on the way to a path. -/
inductive Missing : String → Place → Prop
  | here {path : String} {place : Place} (led : tree.locate path = .ok place)
      (free : tree.node? place = none) : Missing path place
  | above {path above : String} {place : Place} (parent : Path.parent? path = some above)
      (lost : tree.locate path = .error .notFound) (before : Missing above place) :
      Missing path place

theorem missing_of_resolve {path : String} (trimmed : Path.Trimmed path.toList.reverse)
    (some : path ≠ "") (absent : tree.resolve path = .error .notFound) :
    ∃ place, tree.Missing path place := by
  induction size : path.length using Nat.strong_induction_on generalizing path with
  | _ length ih =>
      have entered := (tree.enter_missing_iff some).mpr absent
      have named := tree.names_of_missing entered
      cases led : tree.locate path with
      | ok place =>
          cases held : tree.node? place with
          | none => exact ⟨place, .here led held⟩
          | some node => cases (resolve_held led held).symm.trans absent
      | error error =>
          cases parent : Path.parent? path with
          | none => exact absurd (Path.names_of_orphan parent) named
          | some above =>
              have isParent := Path.parent_is_parent parent
              obtain ⟨before, name, split, _, located⟩ :=
                tree.locate_name (Path.ends_in_name_of_trimmed trimmed named)
              have shorter : names above = before := by
                rw [isParent.names, split, List.dropLast_concat]
              have lost : error = .notFound :=
                Except.error.inj ((resolve_lost led).symm.trans absent)
              subst lost
              -- What stops the way to the path has stopped the way to its parent already.
              have stopped : tree.enter (startOf above) (names above) = .error .notFound := by
                rw [start_of_parent isParent, shorter]
                cases entered : tree.enter (startOf path) before with
                | ok place =>
                    rw [led, entered] at located
                    cases located
                | error error =>
                    rw [led, entered] at located
                    exact located.symm
              have above_some := Path.some_of_names (tree.names_of_missing stopped)
              have shorter : above.length < length := size ▸ isParent.shorter
              obtain ⟨place, before⟩ := ih above.length shorter isParent.trimmed above_some
                ((tree.enter_missing_iff above_some).mp stopped) rfl
              exact ⟨place, .above parent led before⟩

section

variable {tree} {path above : String} {grown : FileTree}

theorem make_directories_made (fuel : Nat) (some : path ≠ "")
    (made : tree.makeDirectory path = .ok grown) :
    makeDirectories (fuel + 1) tree path = (grown, .ok ()) := by
  rw [makeDirectories, if_neg (not_is_empty some), made]

theorem make_directories_refused (fuel : Nat) (some : path ≠ "") {error : FileError}
    (refused : tree.makeDirectory path = .error error) (other : error ≠ .notFound) :
    makeDirectories (fuel + 1) tree path = tree.makeLast path := by
  rw [makeDirectories, if_neg (not_is_empty some), refused]
  exact if_neg other

theorem make_directories_above (fuel : Nat) (some : path ≠ "")
    (lost : tree.makeDirectory path = .error .notFound)
    (parent : Path.parent? path = Option.some above) :
    makeDirectories (fuel + 1) tree path =
      match makeDirectories fuel tree above with
      | (grown, .ok ()) => grown.makeLast path
      | failed => failed := by
  rw [makeDirectories, if_neg (not_is_empty some), lost]
  dsimp only
  rw [if_pos rfl, parent]
  rfl

theorem make_directories_orphan (fuel : Nat) (some : path ≠ "")
    (lost : tree.makeDirectory path = .error .notFound) (orphan : Path.parent? path = none) :
    makeDirectories (fuel + 1) tree path = (tree, .error .wholeTree) := by
  rw [makeDirectories, if_neg (not_is_empty some), lost]
  dsimp only
  rw [if_pos rfl, orphan]

theorem make_directory_free {place : Place} (trimmed : Path.Trimmed path.toList.reverse)
    (led : tree.locate path = .ok place) (free : tree.node? place = none) :
    tree.makeDirectory path = if tree.bars (up place) .write then .error .forbidden
      else .ok (tree.put place .directory) := by
  simp only [makeDirectory, without_slashes_trimmed trimmed, led, bind, Except.bind, free]
  rfl

theorem make_directory_lost {error : FileError} (trimmed : Path.Trimmed path.toList.reverse)
    (lost : tree.locate path = .error error) : tree.makeDirectory path = .error error := by
  simp only [makeDirectory, without_slashes_trimmed trimmed, lost, bind, Except.bind]

/-- Where the way to a path is lost, the directories above it come first. -/
theorem make_directories_lost (trimmed : Path.Trimmed path.toList.reverse)
    (lost : tree.locate path = .error .notFound) (parent : Path.parent? path = some above)
    {fuel : Nat} (enough : path.length < fuel) :
    ∃ less, above.length < less ∧ makeDirectories fuel tree path =
      match makeDirectories less tree above with
      | (grown, .ok ()) => grown.makeLast path
      | failed => failed := by
  obtain ⟨less, rfl⟩ := Nat.exists_eq_succ_of_ne_zero (Nat.ne_zero_of_lt enough)
  have isParent := Path.parent_is_parent parent
  refine ⟨less, Nat.lt_of_lt_of_le isParent.shorter (Nat.le_of_lt_succ enough), ?_⟩
  exact make_directories_above less isParent.child_some (make_directory_lost trimmed lost) parent

theorem locate_some_of_ok {place : Place} (led : tree.locate path = .ok place) : path ≠ "" := by
  rintro rfl
  cases led

/-- Where something stands on the way, or at its end, nothing is made. -/
theorem make_directories_present (fuel : Nat) (trimmed : Path.Trimmed path.toList.reverse)
    (some : path ≠ "") (present : tree.resolve path ≠ .error .notFound) :
    (makeDirectories (fuel + 1) tree path).1 = tree := by
  have refused : ∃ error, tree.makeDirectory path = .error error ∧ error ≠ .notFound := by
    cases led : tree.locate path with
    | error error =>
        refine ⟨error, make_directory_lost trimmed led, ?_⟩
        rintro rfl
        exact present (resolve_lost led)
    | ok place =>
        cases held : tree.node? place with
        | none => exact absurd (resolve_free led held) present
        | some node =>
            refine ⟨.alreadyExists, ?_, by decide⟩
            simp only [makeDirectory, without_slashes_trimmed trimmed, led, bind, Except.bind, held]
            rfl
  obtain ⟨error, refused, other⟩ := refused
  rw [make_directories_refused fuel some refused other, makeLast, refused]

theorem Missing.free {place : Place} (missing : tree.Missing path place) :
    tree.node? place = none := by
  induction missing with
  | here _ free => exact free
  | above _ _ _ ih => exact ih

/-- Where the way ends in nothing, a directory is made. -/
theorem Missing.leaves {place : Place} (missing : tree.Missing path place)
    (granted : tree.bars (up place) .write = false)
    (trimmed : Path.Trimmed path.toList.reverse) {fuel : Nat} (enough : path.length < fuel) :
    (makeDirectories fuel tree path).1.node? place = some .directory := by
  induction missing generalizing fuel with
  | @here path place led free =>
      obtain ⟨fuel, rfl⟩ := Nat.exists_eq_succ_of_ne_zero (Nat.ne_zero_of_lt enough)
      have made := make_directory_free trimmed led free
      rw [granted] at made
      have unneeded : isGiven place = false := is_given_of_no_directory (by rw [free]; nofun)
      rw [make_directories_made fuel (locate_some_of_ok led) made, node?_put,
        if_pos ⟨rfl, unneeded⟩]
  | @above path above place parent lost before ih =>
      obtain ⟨less, room, step⟩ := make_directories_lost trimmed lost parent enough
      have made := ih granted (Path.parent_is_parent parent).trimmed room
      rw [step]
      generalize makeDirectories less tree above = result at made ⊢
      obtain ⟨grown, outcome⟩ := result
      cases outcome with
      | ok _ => exact (make_last_extends grown path).keeps.directory place made
      | error error => exact made

/-- Where the first directory may not be made, none is. -/
theorem Missing.refused {place : Place} (missing : tree.Missing path place)
    (barred : tree.bars (up place) .write = true)
    (trimmed : Path.Trimmed path.toList.reverse) {fuel : Nat} (enough : path.length < fuel) :
    makeDirectories fuel tree path = (tree, .error .forbidden) := by
  induction missing generalizing fuel with
  | @here path place led free =>
      obtain ⟨fuel, rfl⟩ := Nat.exists_eq_succ_of_ne_zero (Nat.ne_zero_of_lt enough)
      have refused := make_directory_free trimmed led free
      rw [if_pos barred] at refused
      have absent : tree.isDirectory path = false := by
        rw [isDirectory, resolve_free led free]
      rw [make_directories_refused fuel (locate_some_of_ok led) refused (by decide), makeLast,
        refused, absent]
      rfl
  | @above path above place parent lost before ih =>
      obtain ⟨less, room, step⟩ := make_directories_lost trimmed lost parent enough
      rw [step, ih barred (Path.parent_is_parent parent).trimmed room]

end

/-- Whatever there is stands in a directory, and nothing is refused where there is nothing. -/
structure Rooted (tree : FileTree) : Prop where
  held : ∀ place name, tree.node? (place ++ [name]) ≠ none → tree.node? place = some .directory
  granted : ∀ place access, tree.node? place = none → tree.bars place access = false

theorem rooted_empty : empty.Rooted := by
  refine ⟨fun place name held => ?_, fun _ _ _ => rfl⟩
  have given : isGiven (place ++ [name]) = true := by
    by_contra listed
    rw [node?, if_neg listed] at held
    exact held rfl
  apply node?_given
  rw [isGiven, Bool.or_eq_true] at given ⊢
  rcases given with above | root
  · rw [List.all_append, Bool.and_eq_true] at above
    exact .inl above.1
  · rw [(List.append_inj' (beq_iff_eq.mp root) rfl : place = [] ∧ _).1]
    exact .inl rfl

/-- What is put into a directory where nothing was is rooted. -/
theorem rooted_put {tree : FileTree} (rooted : tree.Rooted) {place : Place} {name : String}
    (directory : tree.node? place = some .directory)
    (free : tree.node? (place ++ [name]) = none) (node : FileNode) :
    (tree.put (place ++ [name]) node).Rooted := by
  have unchanged : ∀ other, tree.node? other = some .directory →
      (tree.put (place ++ [name]) node).node? other = some .directory := by
    intro other there
    rw [node?_put, if_neg, there]
    rintro ⟨rfl, _⟩
    cases free.symm.trans there
  constructor
  · intro other last held
    rw [node?_put] at held
    split at held
    · rename_i here
      rw [(List.append_inj' here.1 rfl).1]
      exact unchanged place directory
    · exact unchanged other (rooted.held other last held)
  · intro other access absent
    rw [node?_put] at absent
    split at absent
    · cases absent
    · exact rooted.granted other access absent

variable {tree} in
theorem Rooted.below (rooted : tree.Rooted) {place : Place} (free : tree.node? place = none)
    (below : List String) : tree.node? (place ++ below) = none := by
  induction below using List.reverseRecOn with
  | nil => rw [List.append_nil, free]
  | append_singleton below name ih =>
      rw [← List.append_assoc]
      by_contra held
      have directory := rooted.held (place ++ below) name held
      rw [ih] at directory
      cases directory

/-- The names of the path lead down to a directory that holds nothing and refuses nothing. -/
structure Bare (tree : FileTree) (path : String) : Prop where
  entered : tree.enter (startOf path) (names path) = .ok (startOf path ++ names path)
  free : ∀ below, below ≠ [] → tree.node? (startOf path ++ names path ++ below) = none
  granted : ∀ below access, tree.bars (startOf path ++ names path ++ below) access = false

theorem up_child {name : String} (named : name ≠ "/") (plain : name ≠ "..") (place : Place) :
    up (place ++ [name]) = place := by
  have below : place ++ [name] ≠ ["/"] := by
    intro root
    have ends := congrArg List.getLast? root
    rw [List.getLast?_concat] at ends
    exact named (Option.some.inj ends)
  have down : ¬(place ++ [name]).all (· == "..") = true := by
    rw [List.all_append, Bool.and_eq_true]
    exact fun both => plain (by simpa using both.2)
  rw [up, if_neg below, if_neg down, List.dropLast_concat]

section

variable {tree} {path above : String}

theorem bare_of_made {place : Place} (plain : ".." ∉ names path)
    (led : tree.locate path = .ok place) (free : tree.node? place = none)
    (below : ∀ below, below ≠ [] → tree.node? (place ++ below) = none)
    (granted : ∀ below access, tree.bars (place ++ below) access = false) :
    (tree.put place .directory).Bare path := by
  have unneeded : isGiven place = false := is_given_of_no_directory (by rw [free]; nofun)
  have placed := node?_put tree place .directory
  have kept : tree.Keeps (tree.put place .directory) := by
    refine ⟨fun other directory => ?_, rfl⟩
    rw [placed]
    split
    · rfl
    · exact directory
  have searched : (tree.put place .directory).bars place .search = false := by
    have here := granted [] .search
    rw [List.append_nil] at here
    rw [bars_of_barred kept.barred, here]
  have entered : (tree.put place .directory).enter (startOf path) (names path) = .ok place := by
    rw [enter_path _ (locate_some_of_ok led), locate_kept kept path place led]
    refine through_directory _ ?_ searched
    rw [placed, if_pos ⟨rfl, unneeded⟩]
  have spelled : place = startOf path ++ names path :=
    enter_plain _ (fun name member => (List.mem_filter.mp member).2) plain entered
  refine ⟨spelled ▸ entered, ?_, ?_⟩
  · intro rest some
    rw [← spelled, placed, if_neg, below rest some]
    rintro ⟨same, _⟩
    exact some (List.append_cancel_left (same.trans (List.append_nil place).symm))
  · intro rest access
    rw [← spelled, bars_of_barred kept.barred, granted rest access]

/-- What a bare directory is to hold is located in it, is not there, and may be made. -/
theorem Bare.locate_child (bare : tree.Bare above) (isParent : IsParent above path)
    (ends : EndsInName path) (plain : ".." ∉ names path) :
    tree.locate path = .ok (startOf path ++ names path) ∧
      tree.bars (up (startOf path ++ names path)) .write = false ∧
      (∀ below, tree.node? (startOf path ++ names path ++ below) = none) ∧
      ∀ below access, tree.bars (startOf path ++ names path ++ below) access = false := by
  obtain ⟨before, name, split, named, located⟩ := tree.locate_name ends
  have above_names : names above = before := by
    rw [isParent.names, split, List.dropLast_concat]
  have member : name ∈ names path := split ▸ List.mem_append_right before List.mem_cons_self
  have last : name ≠ ".." := by
    rintro rfl
    exact plain member
  have slash : name ≠ "/" := by
    rintro rfl
    exact Path.root_not_mem_names path member
  have entered := bare.entered
  have free := bare.free
  have granted := bare.granted
  rw [start_of_parent isParent, above_names] at entered free granted
  have here := granted [] .write
  rw [List.append_nil] at here
  rw [located, entered, split, ← List.append_assoc, up_child slash last]
  refine ⟨congrArg Except.ok (onward_plain named last _), here, ?_, ?_⟩
  · intro below
    rw [List.append_assoc]
    exact free _ nofun
  · intro below access
    rw [List.append_assoc]
    exact granted _ access

/-- If no name leads back, all the directories that are missing can be made. -/
theorem Missing.made {place : Place} (missing : tree.Missing path place) (rooted : tree.Rooted)
    (writable : tree.bars (up place) .write = false)
    (trimmed : Path.Trimmed path.toList.reverse) (plain : ".." ∉ names path)
    {fuel : Nat} (enough : path.length < fuel) :
    ∃ grown, makeDirectories fuel tree path = (grown, .ok ()) ∧ grown.Bare path := by
  induction missing generalizing fuel with
  | @here path place led free =>
      obtain ⟨fuel, rfl⟩ := Nat.exists_eq_succ_of_ne_zero (Nat.ne_zero_of_lt enough)
      have made := make_directory_free trimmed led free
      rw [writable] at made
      refine ⟨tree.put place .directory, ?_, ?_⟩
      · exact make_directories_made fuel (locate_some_of_ok led) made
      · refine bare_of_made plain led free (fun below _ => rooted.below free below) ?_
        exact fun below access => rooted.granted _ access (rooted.below free below)
  | @above path above place parent lost before ih =>
      obtain ⟨less, room, step⟩ := make_directories_lost trimmed lost parent enough
      have isParent := Path.parent_is_parent parent
      have above_plain : ".." ∉ names above := by
        rw [isParent.names]
        exact fun member => plain ((List.dropLast_sublist (names path)).subset member)
      obtain ⟨grown, made, bare⟩ := ih writable isParent.trimmed above_plain room
      have named : names path ≠ [] := by
        apply tree.names_of_missing
        rw [tree.enter_path isParent.child_some, lost]
        rfl
      -- The parent is bare once it has been made, so that it takes the next directory.
      obtain ⟨led, allowed, free, granted⟩ := bare.locate_child isParent
        (Path.ends_in_name_of_trimmed trimmed named) plain
      have here : grown.node? (startOf path ++ names path) = none := by
        rw [← List.append_nil (startOf path ++ names path)]
        exact free []
      have last := make_directory_free trimmed led here
      rw [allowed] at last
      refine ⟨grown.put (startOf path ++ names path) .directory, ?_, ?_⟩
      · rw [step, made]
        dsimp only
        rw [makeLast, last]
        rfl
      · exact bare_of_made plain led here (fun below _ => free below) granted

end

end FileTree

end Stencil
