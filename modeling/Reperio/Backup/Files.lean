import Mathlib.Data.List.Infix
import Reperio.Python.Value
import Reperio.Storage.Directory

/-!
# Trees of files

The calls of `pathlib` that make directories and files, on a tree without links
below the places that are named. A place is written from the inside out, its own
name first, so that what follows is the directory that holds it. The system may
refuse the name of a place: at once, or when it has found the directory.
-/

namespace Reperio.Backup

open Python Storage

abbrev Place := List PyStr

/-- What stands at a place. -/
inductive Node where
  | directory
  | file (content : List UInt8)
  -- whether something is there when the link is followed
  | symlink (reaches : Bool)
  | special
  deriving DecidableEq

abbrev Files := Directory Place Node

/-- Where a name is refused: at once, or only below a directory. -/
inductive Refusal where
  | atOnce
  | inDirectory
  deriving DecidableEq

/-- The two kinds of `OSError` that are told apart. -/
inductive CallError where
  | fileNotFound
  | other
  deriving DecidableEq

section

variable (refusal : Place → Option Refusal) (files : Files)

/-- Going to a directory by way of those that hold it. -/
def walk : Place → Except CallError Unit
  | [] => .ok ()
  | name :: above => do
      walk above
      match files.read (name :: above) with
      | some .directory => .ok ()
      | none => .error (if refusal (name :: above) = none then .fileNotFound else .other)
      | some _ => .error .other

/-- `os.mkdir`. -/
def makeDirectory : Place → Except CallError Files
  | [] => .error .other
  | name :: above =>
    if refusal (name :: above) = some .atOnce then .error .other
    else do
      walk refusal files above
      if refusal (name :: above) = none ∧ files.read (name :: above) = none then
        .ok (files.write (name :: above) .directory)
      else .error .other

/-- `path.is_dir()`; where it raises, the caller raises as well. -/
def isDir (place : Place) : Bool :=
  decide (refusal place ≠ some .atOnce ∧ files.read place = some .directory)

/-- `path.mkdir(parents=True, exist_ok=True)`. -/
def mkdir : Place → Except CallError Unit × Files
  | [] => (.ok (), files)
  | name :: above =>
    match makeDirectory refusal files (name :: above) with
    | .ok made => (.ok (), made)
    | .error .other =>
      (if isDir refusal files (name :: above) then .ok () else .error .other, files)
    | .error .fileNotFound =>
      match mkdir above with
      | (.error error, made) => (.error error, made)
      | (.ok (), made) =>
        match makeDirectory refusal made (name :: above) with
        | .ok made => (.ok (), made)
        | .error error =>
          (if error = .other ∧ isDir refusal made (name :: above) = true then .ok ()
            else .error error, made)

/-- `path.write_bytes(content)`. -/
def writeBytes (content : List UInt8) : Place → Except CallError Files
  | [] => .error .other
  | name :: above =>
    if refusal (name :: above) = some .atOnce then .error .other
    else do
      walk refusal files above
      if refusal (name :: above) = none then
        match files.read (name :: above) with
        | none | some (.file _) => .ok (files.write (name :: above) (.file content))
        | some _ => .error .other
      else .error .other

end

/-! ## Trees -/

/-- What stands somewhere stands in a directory. -/
structure IsTree (files : Files) : Prop where
  top : files.read [] = some .directory
  above : ∀ {name : PyStr} {place : Place} {node : Node},
    files.read (name :: place) = some node → files.read place = some .directory

/-- Files of which each one is in a directory. -/
structure FileTree where
  files : Files
  isTree : IsTree files

variable {refusal : Place → Option Refusal} {files after : Files} {place : Place} {name : PyStr}

namespace IsTree

theorem read_suffix (tree : IsTree files) {other : Place} {node : Node}
    (found : files.read place = some node) (isSuffix : other <:+ place)
    (different : other ≠ place) :
    files.read other = some .directory := by
  obtain ⟨names, rfl⟩ := isSuffix
  induction names generalizing node with
  | nil => exact absurd rfl different
  | cons name names ih =>
    have inside := tree.above found
    by_cases same : other = names ++ other
    · rw [same]
      exact inside
    · exact ih inside same

/-- Something new, in a directory. -/
theorem write (tree : IsTree files) {node : Node} (isAbove : files.read place = some .directory)
    (noDirectory : files.read (name :: place) ≠ some .directory) :
    IsTree (files.write (name :: place) node) := by
  have kept : ∀ {other}, files.read other = some .directory →
      (files.write (name :: place) node).read other = some .directory := by
    intro other isDirectory
    rw [Directory.read_write_of_ne]
    · exact isDirectory
    · rintro rfl
      exact noDirectory isDirectory
  constructor
  · exact kept tree.top
  · intro other above node found
    by_cases same : other :: above = name :: place
    · obtain ⟨-, rfl⟩ := List.cons.inj same
      exact kept isAbove
    · rw [Directory.read_write_of_ne same] at found
      exact kept (tree.above found)

theorem walk_eq_ok_iff (tree : IsTree files) :
    walk refusal files place = .ok () ↔ files.read place = some .directory := by
  induction place with
  | nil => exact iff_of_true rfl tree.top
  | cons name above ih =>
    rw [walk]
    constructor
    · intro walked
      obtain ⟨_, -, walked⟩ := bind_eq_ok walked
      split at walked
      · assumption
      · cases walked
      · cases walked
    · intro found
      rw [ih.mpr (tree.above found), found]
      rfl

theorem makeDirectory_eq_ok_iff (tree : IsTree files) :
    makeDirectory refusal files (name :: place) = .ok after ↔
      refusal (name :: place) = none ∧ files.read place = some .directory ∧
        files.read (name :: place) = none ∧ files.write (name :: place) .directory = after := by
  rw [makeDirectory]
  constructor
  · intro made
    split at made
    · cases made
    obtain ⟨_, walked, made⟩ := bind_eq_ok made
    split at made
    · rename_i free
      exact ⟨free.1, tree.walk_eq_ok_iff.mp walked, free.2, Except.ok.inj made⟩
    · cases made
  · rintro ⟨allowed, isAbove, free, rfl⟩
    rw [if_neg (by simp [allowed]), tree.walk_eq_ok_iff.mpr isAbove]
    exact if_pos ⟨allowed, free⟩

theorem writeBytes_eq_ok_iff (tree : IsTree files) {content : List UInt8} :
    writeBytes refusal files content (name :: place) = .ok after ↔
      refusal (name :: place) = none ∧ files.read place = some .directory ∧
        (∀ node ∈ files.read (name :: place), ∃ old, node = .file old) ∧
        files.write (name :: place) (.file content) = after := by
  rw [writeBytes]
  constructor
  · intro written
    split at written
    · cases written
    obtain ⟨_, walked, written⟩ := bind_eq_ok written
    split at written
    · rename_i allowed
      refine ⟨allowed, tree.walk_eq_ok_iff.mp walked, ?_⟩
      split at written
      · rename_i missing
        exact ⟨by simp [missing], Except.ok.inj written⟩
      · rename_i old found
        exact ⟨by simp [found], Except.ok.inj written⟩
      · cases written
    · cases written
  · rintro ⟨allowed, isAbove, isFile, rfl⟩
    rw [if_neg (by simp [allowed]), tree.walk_eq_ok_iff.mpr isAbove]
    refine (if_pos allowed).trans ?_
    cases found : files.read (name :: place) with
    | none => rfl
    | some node =>
      obtain ⟨old, rfl⟩ := isFile node found
      rfl

end IsTree

/-! ## What a call changes -/

/-- What becomes of a place when directories and files are made. -/
inductive Change (refusal : Place → Option Refusal) (before after : Option Node) (place : Place) :
    Prop
  | kept (same : after = before)
  | directory (allowed : refusal place = none) (missing : before = none)
      (made : after = some .directory)
  | file (allowed : refusal place = none) (old : ∀ node ∈ before, ∃ content, node = .file content)
      (content : List UInt8) (made : after = some (.file content))

namespace Change

variable {before between later : Option Node}

theorem trans (first : Change refusal before between place)
    (second : Change refusal between later place) : Change refusal before later place := by
  cases second with
  | kept same => exact same ▸ first
  | directory allowed missing made =>
    cases first with
    | kept same => exact .directory allowed (same ▸ missing) made
    | directory _ _ found => simp [missing] at found
    | file _ _ _ found => simp [missing] at found
  | file allowed old content made =>
    cases first with
    | kept same => exact .file allowed (same ▸ old) content made
    | directory _ _ found =>
      obtain ⟨content, isFile⟩ := old .directory found
      cases isFile
    | file _ older _ _ => exact .file allowed older content made

theorem isSome (change : Change refusal before later place) (found : before.isSome) :
    later.isSome := by
  cases change with
  | kept same => exact same ▸ found
  | directory _ _ made => rw [made]; rfl
  | file _ _ _ made => rw [made]; rfl

theorem allowed (change : Change refusal before later place)
    (old : before.isSome → refusal place = none) (found : later.isSome) : refusal place = none := by
  cases change with
  | kept same => exact old (same ▸ found)
  | directory allowed _ _ => exact allowed
  | file allowed _ _ _ => exact allowed

end Change

/-- Making a directory, with those above it that are missing. -/
structure Makes (refusal : Place → Option Refusal) (before after : Files) (place : Place) :
    Prop where
  isTree : IsTree after
  changes (other : Place) : after.read other = before.read other ∨
    other <:+ place ∧ refusal other = none ∧ before.read other = none ∧
      after.read other = some .directory

namespace Makes

variable {between : Files}

theorem refl (tree : IsTree files) : Makes refusal files files place := ⟨tree, fun _ => .inl rfl⟩

theorem directory (tree : IsTree files)
    (made : makeDirectory refusal files (name :: place) = .ok after) :
    Makes refusal files after (name :: place) ∧ after.read (name :: place) = some .directory := by
  obtain ⟨allowed, isAbove, missing, rfl⟩ := tree.makeDirectory_eq_ok_iff.mp made
  refine ⟨⟨tree.write isAbove (by simp [missing]), fun other => ?_⟩, Directory.read_write_self⟩
  by_cases same : other = name :: place
  · subst same
    exact .inr ⟨List.suffix_refl _, allowed, missing, Directory.read_write_self⟩
  · exact .inl (Directory.read_write_of_ne same)

theorem inside (first : Makes refusal files between place)
    (second : Makes refusal between after (name :: place)) :
    Makes refusal files after (name :: place) := by
  refine ⟨second.isTree, fun other => ?_⟩
  cases second.changes other with
  | inl same =>
    cases first.changes other with
    | inl same' => exact .inl (same.trans same')
    | inr made =>
      exact .inr ⟨made.1.trans (List.suffix_cons name place), made.2.1, made.2.2.1,
        same.trans made.2.2.2⟩
  | inr made =>
    cases first.changes other with
    | inl same => exact .inr ⟨made.1, made.2.1, same ▸ made.2.2.1, made.2.2.2⟩
    | inr found => simp [made.2.2.1] at found

theorem change (makes : Makes refusal files after place) (other : Place) :
    Change refusal (files.read other) (after.read other) other := by
  cases makes.changes other with
  | inl same => exact .kept same
  | inr made => exact .directory made.2.1 made.2.2.1 made.2.2.2

end Makes

theorem makes_mkdir (tree : IsTree files) (place : Place) :
    Makes refusal files (mkdir refusal files place).2 place := by
  induction place with
  | nil => exact .refl tree
  | cons name above ih =>
    rw [mkdir]
    split
    · rename_i made isMade
      exact (Makes.directory tree isMade).1
    · exact .refl tree
    · rename_i missing
      split
      · rename_i error made failed
        rw [failed] at ih
        exact ih.inside (.refl ih.isTree)
      · rename_i made succeeded
        rw [succeeded] at ih
        split
        · rename_i isMade
          exact ih.inside (Makes.directory ih.isTree isMade).1
        · exact ih.inside (.refl ih.isTree)

/-! ## When a directory is made -/

theorem isDir_eq_true_iff : isDir refusal files place = true ↔
    refusal place ≠ some .atOnce ∧ files.read place = some .directory :=
  decide_eq_true_iff

/-- The place is a directory, or can become one with those above it. -/
def Makeable (refusal : Place → Option Refusal) (files : Files) : Place → Prop
  | [] => True
  | name :: above =>
    refusal (name :: above) ≠ some .atOnce ∧ (files.read (name :: above) = some .directory ∨
        files.read (name :: above) = none ∧ refusal (name :: above) = none ∧
          (files.read above = some .directory ∨ Makeable refusal files above))

theorem IsTree.walk_of_makeable (tree : IsTree files) (makeable : Makeable refusal files place)
    (noDirectory : files.read place ≠ some .directory) :
    walk refusal files place = .error .fileNotFound := by
  induction place with
  | nil => exact absurd tree.top noDirectory
  | cons name above ih =>
    obtain ⟨missing, allowed, isAbove⟩ := makeable.2.resolve_left noDirectory
    rw [walk, missing, if_pos allowed]
    by_cases found : files.read above = some .directory
    · rw [tree.walk_eq_ok_iff.mpr found]
      rfl
    · rw [ih (isAbove.resolve_left found) found]
      rfl

theorem IsTree.makeDirectory_of_makeable (tree : IsTree files)
    (makeable : Makeable refusal files place) (noDirectory : files.read place ≠ some .directory)
    (allowed : refusal (name :: place) ≠ some .atOnce) :
    makeDirectory refusal files (name :: place) = .error .fileNotFound := by
  rw [makeDirectory, if_neg allowed, tree.walk_of_makeable makeable noDirectory]
  rfl

theorem IsTree.of_makeDirectory_eq_notFound (tree : IsTree files)
    (missing : makeDirectory refusal files (name :: place) = .error .fileNotFound) :
    refusal (name :: place) ≠ some .atOnce ∧ files.read place ≠ some .directory := by
  rw [makeDirectory] at missing
  split at missing
  · cases missing
  rename_i allowed
  refine ⟨allowed, fun found => ?_⟩
  rw [tree.walk_eq_ok_iff.mpr found] at missing
  change (if _ then _ else _) = _ at missing
  split at missing <;> cases missing

theorem IsTree.read_eq_none (tree : IsTree files)
    (noDirectory : files.read place ≠ some .directory) : files.read (name :: place) = none := by
  by_contra found
  obtain ⟨node, found⟩ := Option.ne_none_iff_exists'.mp found
  exact noDirectory (tree.above found)

theorem mkdir_eq_ok (tree : IsTree files) (made : (mkdir refusal files place).1 = .ok ()) :
    (mkdir refusal files place).2.read place = some .directory := by
  cases place with
  | nil => exact tree.top
  | cons name above =>
    rw [mkdir] at made ⊢
    split at made
    · rename_i isMade
      exact (Makes.directory tree isMade).2
    · split at made
      · rename_i isDirectory
        exact (isDir_eq_true_iff.mp isDirectory).2
      · cases made
    · split at made
      · cases made
      · rename_i between succeeded
        have isTree : IsTree between := by
          have makes : Makes refusal files _ above := makes_mkdir tree above
          rw [succeeded] at makes
          exact makes.isTree
        split at made
        · rename_i isMade
          exact (Makes.directory isTree isMade).2
        · split at made
          · rename_i isDirectory
            exact (isDir_eq_true_iff.mp isDirectory.2).2
          · cases made

theorem mkdir_eq_ok_iff (tree : IsTree files) :
    (mkdir refusal files place).1 = .ok () ↔ Makeable refusal files place := by
  induction place with
  | nil => exact iff_of_true rfl trivial
  | cons name above ih =>
    rw [mkdir, Makeable]
    split
    · rename_i made isMade
      obtain ⟨allowed, isAbove, missing, -⟩ := tree.makeDirectory_eq_ok_iff.mp isMade
      exact iff_of_true rfl ⟨by simp [allowed], .inr ⟨missing, allowed, .inl isAbove⟩⟩
    · rename_i refused
      constructor
      · intro made
        split at made
        · rename_i isDirectory
          obtain ⟨allowed, found⟩ := isDir_eq_true_iff.mp isDirectory
          exact ⟨allowed, .inl found⟩
        · cases made
      · rintro ⟨allowed, found | ⟨missing, isAllowed, isAbove⟩⟩
        · rw [if_pos (isDir_eq_true_iff.mpr ⟨allowed, found⟩)]
        · by_cases found : files.read above = some .directory
          · rw [tree.makeDirectory_eq_ok_iff.mpr ⟨isAllowed, found, missing, rfl⟩] at refused
            cases refused
          · rw [tree.makeDirectory_of_makeable (isAbove.resolve_left found) found
              allowed] at refused
            cases refused
    · rename_i notFound
      obtain ⟨allowed, noDirectory⟩ := tree.of_makeDirectory_eq_notFound notFound
      have missing : files.read (name :: above) = none := tree.read_eq_none noDirectory
      have makes : Makes refusal files _ above := makes_mkdir tree above
      have isMade : (mkdir refusal files above).1 = .ok () →
          (mkdir refusal files above).2.read above = some .directory := mkdir_eq_ok tree
      split
      · rename_i failed
        rw [failed] at ih
        refine iff_of_false (by simp) ?_
        rintro ⟨-, found | ⟨-, -, isAbove⟩⟩
        · simp [missing] at found
        · cases ih.mpr (isAbove.resolve_left noDirectory)
      · rename_i made succeeded
        rw [succeeded] at makes isMade ih
        have stillMissing : made.read (name :: above) = none := by
          cases makes.changes (name :: above) with
          | inl same => exact same.trans missing
          | inr changed => exact absurd changed.1.length_le (by simp)
        split
        · rename_i isDirectory
          obtain ⟨isAllowed, -⟩ := makes.isTree.makeDirectory_eq_ok_iff.mp isDirectory
          exact iff_of_true rfl ⟨allowed, .inr ⟨missing, isAllowed, .inr (ih.mp rfl)⟩⟩
        · rename_i failed
          rw [if_neg (by simp [isDir_eq_true_iff, stillMissing])]
          refine iff_of_false (by simp) ?_
          rintro ⟨-, found | ⟨-, isAllowed, -⟩⟩
          · simp [missing] at found
          · rw [makes.isTree.makeDirectory_eq_ok_iff.mpr
              ⟨isAllowed, isMade rfl, stillMissing, rfl⟩] at failed
            cases failed

/-- A directory that is there is not made again. -/
theorem mkdir_of_read (tree : IsTree files) (found : files.read place = some .directory) :
    (mkdir refusal files place).2 = files := by
  cases place with
  | nil => rfl
  | cons name above =>
    rw [mkdir]
    split
    · rename_i made
      cases (tree.makeDirectory_eq_ok_iff.mp made).2.2.1.symm.trans found
    · rfl
    · rename_i notFound
      exact absurd (tree.above found) (tree.of_makeDirectory_eq_notFound notFound).2

/-! ## In an empty directory -/

/-- Nothing stands inside the place. -/
def HoldsNothing (files : Files) (root : Place) : Prop :=
  ∀ name names, files.read (name :: (names ++ root)) = none

/-- Making these directories inside a place makes the first of them, at least. -/
def Begins (refusal : Place → Option Refusal) (root : Place) : List PyStr → Prop
  | [] => False
  | [name] => refusal (name :: root) = none
  | name :: other :: names =>
    refusal (name :: (other :: names ++ root)) ≠ some .atOnce ∧ Begins refusal root (other :: names)

section

variable {root : Place} {names : List PyStr}

theorem HoldsNothing.isDir_eq_false (empty : HoldsNothing files root) :
    isDir refusal files (name :: (names ++ root)) = false := by
  refine Bool.eq_false_iff.mpr fun isDirectory => ?_
  cases (empty name names).symm.trans (isDir_eq_true_iff.mp isDirectory).2

/-- What is made is not taken away. -/
theorem HoldsNothing.before (empty : HoldsNothing after root)
    (changes : ∀ place, Change refusal (files.read place) (after.read place) place) :
    HoldsNothing files root := by
  intro name names
  cases found : files.read (name :: (names ++ root)) with
  | none => rfl
  | some node =>
    have kept := (changes (name :: (names ++ root))).isSome (by rw [found]; rfl)
    rw [empty name names] at kept
    cases kept

theorem HoldsNothing.walk_of_begins (empty : HoldsNothing files root) (tree : IsTree files)
    (isRoot : files.read root = some .directory) (begins : Begins refusal root names) :
    walk refusal files (names ++ root) = .error .fileNotFound := by
  induction names with
  | nil => exact begins.elim
  | cons name names ih =>
    rw [List.cons_append, walk]
    cases names with
    | nil =>
      have missing : files.read (name :: root) = none := empty name []
      have allowed : refusal (name :: root) = none := begins
      rw [List.nil_append, tree.walk_eq_ok_iff.mpr isRoot, missing, if_pos allowed]
      rfl
    | cons other names =>
      rw [ih begins.2]
      rfl

/-- Nothing is made when not even the first can be made. -/
theorem HoldsNothing.mkdir_of_not_begins (empty : HoldsNothing files root) (tree : IsTree files)
    (isRoot : files.read root = some .directory)
    (notBegins : ¬ Begins refusal root (name :: names)) :
    ∃ error, mkdir refusal files (name :: (names ++ root)) = (.error error, files) := by
  induction names generalizing name with
  | nil =>
    rw [List.nil_append, mkdir]
    split
    · rename_i made
      exact absurd (tree.makeDirectory_eq_ok_iff.mp made).1 notBegins
    · have noDirectory : isDir refusal files (name :: ([] ++ root)) = false := empty.isDir_eq_false
      rw [List.nil_append] at noDirectory
      exact ⟨.other, by rw [noDirectory]; rfl⟩
    · rename_i notFound
      exact absurd isRoot (tree.of_makeDirectory_eq_notFound notFound).2
  | cons other names ih =>
    rw [mkdir]
    split
    · rename_i made
      have found := (tree.makeDirectory_eq_ok_iff.mp made).2.1
      cases (empty other names).symm.trans found
    · exact ⟨.other, by rw [empty.isDir_eq_false]; rfl⟩
    · rename_i notFound
      have allowed := (tree.of_makeDirectory_eq_notFound notFound).1
      obtain ⟨error, failed⟩ := @ih other fun begins => notBegins ⟨allowed, begins⟩
      exact ⟨error, by rw [List.cons_append, failed]⟩

/-- The first one stays, whatever happens to the others. -/
theorem HoldsNothing.mkdir_of_begins (empty : HoldsNothing files root) (tree : IsTree files)
    (isRoot : files.read root = some .directory) (begins : Begins refusal root (name :: names)) :
    ¬ HoldsNothing (mkdir refusal files (name :: (names ++ root))).2 root := by
  induction names generalizing name with
  | nil =>
    intro stillEmpty
    have missing : files.read (name :: root) = none := empty name []
    have made := tree.makeDirectory_eq_ok_iff.mpr ⟨begins, isRoot, missing, rfl⟩
    have found := stillEmpty name []
    rw [List.nil_append, mkdir, made] at found
    cases Directory.read_write_self.symm.trans found
  | cons other names ih =>
    have walked := empty.walk_of_begins tree isRoot begins.2
    have missing : makeDirectory refusal files (name :: (other :: names ++ root)) =
        .error .fileNotFound := by
      rw [makeDirectory, if_neg begins.1, walked]
      rfl
    have begun := @ih other begins.2
    have makes : Makes refusal files _ _ := makes_mkdir tree (other :: (names ++ root))
    rw [mkdir, missing, List.cons_append]
    intro stillEmpty
    apply begun
    revert stillEmpty makes
    rcases mkdir refusal files (other :: (names ++ root)) with ⟨_ | _, made⟩
    · exact fun _ stillEmpty => stillEmpty
    · intro makes stillEmpty
      dsimp only at stillEmpty
      split at stillEmpty
      · rename_i isMade
        exact stillEmpty.before (Makes.directory makes.isTree isMade).1.change
      · exact stillEmpty

end

end Reperio.Backup
