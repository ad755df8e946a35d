import Mathlib.Data.List.Sort
import Reperio.Backup.Files
import Reperio.Backup.Manifest

/-!
# Restoring a backup

`restore_state_backup`: the checks on the archive as a whole, and then one member
after the other, checked and written before the next is looked at. The restore
directory is named by the place where it stands, without links.
-/

namespace Reperio.Backup

open Python Storage

/-! ## The restore -/

/-- `root / name`, where `..` leads out of a directory. -/
def locate (root : Place) (name : PyStr) : Place := let path := PurePath.ofText name
  path.parts.foldl (fun place part => if part = .ofString ".." then place.drop 1 else part :: place)
    (if path.isAbsolute then [] else root)

section

variable (platform : Platform) (refusal : Place → Option Refusal)

/-- The restore directory is empty, or nothing stands there that can be followed. -/
def checkRoot (root : Place) (files : Files) : Except BackupError Unit := match files.read root with
  | none | some (.symlink false) => .ok ()
  | some .directory =>
    if files.any fun entry => decide (entry.1 ≠ [] ∧ entry.1.drop 1 = root) then
      .error (.diagnosticsBackupError "restore_not_empty" "restore directory must be empty")
    else .ok ()
  | some _ =>
    .error (.diagnosticsBackupError "unsafe_restore_root" "restore directory is unsafe")

/-- What is checked before anything is made: the entries of the manifest and the members that are to
be restored. There is no archive where it cannot be opened or listed. -/
def prepare (maxSchemaVersion : ℤ) (root : Place) (files : Files) (archive : Option (List Member)) :
    Except BackupError (ManifestEntries × List Member) := do
  checkRoot root files
  let members ← archive.elim (.error .raised) .ok
  let manifest ← loadManifest platform members
  let version ← (platform.toInt ((manifest.get? "schema_version").getD (.int 0))).mapError
    fun _ => .raised
  if maxSchemaVersion < version then
    .error (.diagnosticsBackupError "future_schema" "backup schema is newer than supported")
  else do
    let expected ← manifestEntries manifest
    let data := members.filter fun member => member.name ≠ manifestName
    if (data.map Member.name).Nodup then return (expected, data)
    else .error (.diagnosticsBackupError "duplicate_member" "archive contains duplicate data")

def checkMember (expected : ManifestEntries) (member : Member) :
    Except BackupError (List UInt8) := do
  validateMember member.name member.kind
  match expected.find? member.name with
  | none =>
    .error (.diagnosticsBackupError "unexpected_member" "archive contains unmanifested data")
  | some entry =>
    -- a member of the kind that is left has data
    match member.content with
    | none => .error .raised
    | some content =>
      if platform.sha256 content ≠ entry.digest then
        .error (.diagnosticsBackupError "integrity_mismatch" "backup member hash mismatch")
      else if content.length ≠ entry.sizeBytes then
        .error (.diagnosticsBackupError "integrity_mismatch" "backup member size mismatch")
      else .ok content

def storeMember (files : Files) (target : Place) (content : List UInt8) :
    Except BackupError Unit × Files :=
  match mkdir refusal files (target.drop 1) with
  | (.error _, made) => (.error .raised, made)
  | (.ok (), made) =>
    match writeBytes refusal made content target with
    | .error _ => (.error .raised, made)
    | .ok written => (.ok (), written)

def restoreMember (expected : ManifestEntries) (root : Place) (files : Files) (member : Member) :
    Except BackupError Unit × Files :=
  match checkMember platform expected member with
  | .error error => (.error error, files)
  | .ok content => storeMember refusal files (locate root member.name) content

def restoreMembers (expected : ManifestEntries) (root : Place) :
    Files → List Member → Except BackupError Unit × Files
  | files, [] => (.ok (), files)
  | files, member :: members =>
    match restoreMember platform refusal expected root files member with
    | (.error error, made) => (.error error, made)
    | (.ok (), made) => restoreMembers expected root made members

/-- `restore_state_backup`. -/
def restoreStateBackup (maxSchemaVersion : ℤ) (root : Place) (files : Files)
    (archive : Option (List Member)) : Except BackupError (List PyStr) × Files :=
  match prepare platform maxSchemaVersion root files archive with
  | .error error => (.error error, files)
  | .ok (expected, data) =>
    match mkdir refusal files root with
    | (.error _, made) => (.error .raised, made)
    | (.ok (), made) =>
      match restoreMembers platform refusal expected root made data with
      | (.error error, restored) => (.error error, restored)
      | (.ok (), restored) =>
        if ∀ entry ∈ expected.entries, entry.path ∈ data.map Member.name then
          (.ok ((data.map Member.name).insertionSort (· ≤ ·)), restored)
        else
          (.error (.diagnosticsBackupError "missing_member" "backup member is missing"), restored)

end

variable {platform : Platform} {refusal : Place → Option Refusal} {files made after : Files}
variable {root place target : Place} {names : List PyStr} {name : PyStr} {content : List UInt8}
variable {expected : ManifestEntries} {member : Member} {members data : List Member}
variable {maxSchemaVersion schemaVersion : ℤ} {entries : List ManifestEntry}

/-- A manifest that was written for these entries is accepted with them. -/
theorem prepare_written (empty : checkRoot root files = .ok ())
    (written : manifestBytes platform schemaVersion entries = .ok content)
    (joined : ∀ entry ∈ entries, entry.path.joined = entry.path ∧
      entry.digest.joined = entry.digest)
    (others : ∀ member ∈ data, member.name ≠ manifestName)
    (sameInt : platform.toInt (.int schemaVersion) = .ok schemaVersion)
    (known : schemaVersion ≤ maxSchemaVersion)
    (distinct : (entries.map ManifestEntry.path).Nodup)
    (valid : ∀ entry ∈ entries, IsValidEntry entry) (names : (data.map Member.name).Nodup) :
    prepare platform maxSchemaVersion root files (some (manifestMember content :: data)) =
      .ok (⟨entries, distinct⟩, data) := by
  have version : ((readManifest schemaVersion entries).get? "schema_version").getD (.int 0) =
      .int schemaVersion := rfl
  have isData : (manifestMember content :: data).filter (fun member => member.name ≠ manifestName) =
      data := by
    rw [List.filter_cons, if_neg (by simp [manifestMember]), List.filter_eq_self]
    exact fun member isMember => decide_eq_true (others member isMember)
  rw [prepare, empty]
  change (loadManifest platform (manifestMember content :: data) >>= _) = _
  rw [loadManifest_written written joined others]
  change ((platform.toInt (((readManifest schemaVersion entries).get? "schema_version").getD
    (.int 0))).mapError _ >>= _) = _
  rw [version, sameInt]
  change (if _ then _ else _) = _
  rw [if_neg (not_lt.mpr known), manifestEntries_readManifest distinct valid]
  change (if _ then _ else _) = _
  rw [isData, if_pos names]
  rfl

/-! ## Places of members -/

/-- The directories and the name of a member, from the inside out. -/
def components (name : PyStr) : List PyStr := (PurePath.ofText name).parts.reverse

theorem locate_of_isSafe (safe : IsSafe name) : locate root name = components name ++ root := by
  have isRelative : (PurePath.ofText name).root = [] := by
    simpa [PurePath.isAbsolute] using safe.relative
  have noParent : .ofString ".." ∉ (PurePath.ofText name).parts := by
    have parts := safe.noParent
    rwa [PurePath.allParts, if_pos isRelative] at parts
  have walked : ∀ (parts : List PyStr) (place : Place), .ofString ".." ∉ parts →
      parts.foldl (fun place part => if part = .ofString ".." then place.drop 1 else part :: place)
        place = parts.reverse ++ place := by
    intro parts
    induction parts with
    | nil => exact fun _ _ => rfl
    | cons part parts ih =>
      intro place noParent
      rw [List.mem_cons, not_or] at noParent
      rw [List.foldl_cons, if_neg (Ne.symm noParent.1), ih _ noParent.2, List.reverse_cons,
        List.append_assoc]
      rfl
  unfold locate components
  dsimp only
  rw [safe.relative, walked _ _ noParent]
  rfl

/-- A place inside of another one. -/
def Inside (root place : Place) : Prop := root <:+ place ∧ place ≠ root

theorem inside_append (name : PyStr) (names : List PyStr) : Inside root (name :: (names ++ root)) :=
  ⟨(List.suffix_append names root).trans (List.suffix_cons _ _), fun same => by
    have lengths := congrArg List.length same
    rw [List.length_cons, List.length_append] at lengths
    omega⟩

theorem Inside.exists_names (inside : Inside root place) :
    ∃ name names, place = name :: (names ++ root) := by
  obtain ⟨⟨names, rfl⟩, different⟩ := inside
  cases names with
  | nil => exact absurd rfl different
  | cons name names => exact ⟨name, names, rfl⟩

/-! ## Checks -/

/-- The member has the data that its entry in the manifest describes. -/
structure Checks (platform : Platform) (expected : ManifestEntries) (member : Member)
    (content : List UInt8) : Prop where
  isRegular : member.kind = .regular
  isSafe : IsSafe member.name
  isContent : member.content = some content
  entry : ∃ entry ∈ expected.find? member.name,
    platform.sha256 content = entry.digest ∧ content.length = entry.sizeBytes

theorem checkMember_eq_ok_iff :
    checkMember platform expected member = .ok content ↔
      Checks platform expected member content := by
  unfold checkMember
  constructor
  · intro checked
    obtain ⟨_, valid, checked⟩ := bind_eq_ok checked
    obtain ⟨isRegular, isSafe⟩ := validateMember_eq_ok_iff.mp valid
    split at checked
    · cases checked
    rename_i entry found
    split at checked
    · cases checked
    rename_i content' isContent
    split at checked
    · cases checked
    rename_i digest
    split at checked
    · cases checked
    rename_i size
    obtain rfl := Except.ok.inj checked
    exact ⟨isRegular, isSafe, isContent, entry, found, not_not.mp digest, not_not.mp size⟩
  · rintro ⟨isRegular, isSafe, isContent, entry, found, digest, size⟩
    rw [validateMember_eq_ok_iff.mpr ⟨isRegular, isSafe⟩, Option.mem_def.mp found, isContent]
    change (if _ then _ else if _ then _ else _) = _
    rw [if_neg (not_not.mpr digest), if_neg (not_not.mpr size)]

/-! ## What the restore changes -/

/-- Directories and files are made inside of a directory. -/
structure Grows (refusal : Place → Option Refusal) (root : Place) (before after : Files) :
    Prop where
  isTree : IsTree after
  isRoot : after.read root = some .directory
  inside (place : Place) : Change refusal (before.read place) (after.read place) place
  outside (place : Place) (isOutside : ¬ Inside root place) : after.read place = before.read place

namespace Grows

theorem refl (tree : IsTree files) (isRoot : files.read root = some .directory) :
    Grows refusal root files files :=
  ⟨tree, isRoot, fun _ => .kept rfl, fun _ _ => rfl⟩

theorem trans (first : Grows refusal root files made) (second : Grows refusal root made after) :
    Grows refusal root files after where
  isTree := second.isTree
  isRoot := second.isRoot
  inside place := (first.inside place).trans (second.inside place)
  outside place isOutside := (second.outside place isOutside).trans (first.outside place isOutside)

theorem of_makes (tree : IsTree files) (isRoot : files.read root = some .directory)
    (isTarget : root <:+ target) (makes : Makes refusal files after (target.drop 1)) :
    Grows refusal root files after := by
  have outside : ∀ place, ¬ Inside root place → after.read place = files.read place := by
    intro place isOutside
    cases makes.changes place with
    | inl same => exact same
    | inr made =>
      obtain ⟨isSuffix, -, missing, -⟩ := made
      have isSuffix : place <:+ target := isSuffix.trans (List.drop_suffix 1 target)
      have above : place <:+ root := by
        cases List.suffix_or_suffix_of_suffix isSuffix isTarget with
        | inl above => exact above
        | inr below =>
          by_cases same : place = root
          · exact same ▸ List.suffix_refl _
          · exact absurd ⟨below, same⟩ isOutside
      by_cases same : place = root
      · cases (same ▸ isRoot).symm.trans missing
      · cases (tree.read_suffix isRoot above same).symm.trans missing
  have stillRoot := (outside root fun inside => inside.2 rfl).trans isRoot
  exact ⟨makes.isTree, stillRoot, makes.change, outside⟩

theorem of_write (tree : IsTree files) (isRoot : files.read root = some .directory)
    (isTarget : root <:+ target) (written : writeBytes refusal files content target = .ok after) :
    Grows refusal root files after ∧ target ≠ root ∧ after.read target = some (.file content) := by
  cases target with
  | nil => cases written
  | cons name above =>
    obtain ⟨allowed, isAbove, old, rfl⟩ := tree.writeBytes_eq_ok_iff.mp written
    have noDirectory : files.read (name :: above) ≠ some .directory := by
      intro found
      obtain ⟨content, isFile⟩ := old .directory found
      cases isFile
    have different : name :: above ≠ root := fun same => noDirectory (same ▸ isRoot)
    refine ⟨⟨tree.write isAbove noDirectory, ?_, ?_, ?_⟩, different, Directory.read_write_self⟩
    · rw [Directory.read_write_of_ne (Ne.symm different)]
      exact isRoot
    · intro place
      by_cases same : place = name :: above
      · subst same
        exact .file allowed old content Directory.read_write_self
      · exact .kept (Directory.read_write_of_ne same)
    · intro place isOutside
      refine Directory.read_write_of_ne ?_
      rintro rfl
      exact isOutside ⟨isTarget, different⟩

end Grows

/-! ## Steps and runs -/

theorem storeMember_grows (tree : IsTree files) (isRoot : files.read root = some .directory)
    (isTarget : root <:+ target) :
    Grows refusal root files (storeMember refusal files target content).2 := by
  have makes : Makes refusal files _ _ := makes_mkdir tree (target.drop 1)
  unfold storeMember
  split
  · rename_i failed
    rw [failed] at makes
    exact .of_makes tree isRoot isTarget makes
  · rename_i succeeded
    rw [succeeded] at makes
    have grows := Grows.of_makes tree isRoot isTarget makes
    split
    · exact grows
    · rename_i written
      exact grows.trans (Grows.of_write grows.isTree grows.isRoot isTarget written).1

theorem storeMember_eq_ok (tree : IsTree files) (isRoot : files.read root = some .directory)
    (isTarget : root <:+ target) (stored : (storeMember refusal files target content).1 = .ok ()) :
    target ≠ root ∧
      (storeMember refusal files target content).2.read target = some (.file content) := by
  have makes : Makes refusal files _ _ := makes_mkdir tree (target.drop 1)
  unfold storeMember at stored ⊢
  split at stored
  · cases stored
  rename_i succeeded
  rw [succeeded] at makes
  have grows := Grows.of_makes tree isRoot isTarget makes
  split at stored
  · cases stored
  rename_i written
  exact (Grows.of_write grows.isTree grows.isRoot isTarget written).2

theorem locate_suffix (safe : IsSafe name) : root <:+ locate root name :=
  locate_of_isSafe safe ▸ List.suffix_append _ _

theorem restoreMember_grows (tree : IsTree files) (isRoot : files.read root = some .directory) :
    Grows refusal root files (restoreMember platform refusal expected root files member).2 := by
  unfold restoreMember
  split
  · exact .refl tree isRoot
  · rename_i checked
    exact storeMember_grows tree isRoot (locate_suffix (checkMember_eq_ok_iff.mp checked).isSafe)

theorem restoreMember_eq_ok (tree : IsTree files) (isRoot : files.read root = some .directory)
    (restored : (restoreMember platform refusal expected root files member).1 = .ok ()) :
    ∃ content, Checks platform expected member content ∧ locate root member.name ≠ root ∧
      (restoreMember platform refusal expected root files member).2.read (locate root member.name) =
        some (.file content) := by
  unfold restoreMember at restored ⊢
  split at restored
  · cases restored
  rename_i content checked
  have checks := checkMember_eq_ok_iff.mp checked
  have stored := storeMember_eq_ok tree isRoot (locate_suffix checks.isSafe) restored
  exact ⟨content, checks, stored⟩

theorem restoreMembers_grows (tree : IsTree files) (isRoot : files.read root = some .directory) :
    Grows refusal root files (restoreMembers platform refusal expected root files members).2 := by
  induction members generalizing files with
  | nil => exact .refl tree isRoot
  | cons member members ih =>
    have grows : Grows refusal root files
        (restoreMember platform refusal expected root files member).2 :=
      restoreMember_grows tree isRoot
    rw [restoreMembers]
    split
    · rename_i failed
      rw [failed] at grows
      exact grows
    · rename_i succeeded
      rw [succeeded] at grows
      exact grows.trans (ih grows.isTree grows.isRoot)

/-! ## Where the files come from -/

/-- What stands at a place after members were restored. -/
inductive Origin (platform : Platform) (expected : ManifestEntries) (root : Place)
    (members : List Member) (before after : Option Node) (place : Place) : Prop
  | kept (same : after = before)
  | directory (missing : before = none) (made : after = some .directory)
  | member (member : Member) (isMember : member ∈ members) (content : List UInt8)
      (checks : Checks platform expected member content) (located : locate root member.name = place)
      (written : after = some (.file content))

theorem storeMember_read (tree : IsTree files) (place : Place) :
    (storeMember refusal files target content).2.read place = files.read place ∨
      files.read place = none ∧
        (storeMember refusal files target content).2.read place = some .directory ∨
      place = target ∧
        (storeMember refusal files target content).2.read place = some (.file content) := by
  have makes : Makes refusal files _ _ := makes_mkdir tree (target.drop 1)
  have unwritten {made : Files} (makes : Makes refusal files made (target.drop 1)) :
      made.read place = files.read place ∨
        files.read place = none ∧ made.read place = some .directory := by
    cases makes.changes place with
    | inl same => exact .inl same
    | inr made => exact .inr made.2.2
  unfold storeMember
  split
  · rename_i failed
    rw [failed] at makes
    exact (unwritten makes).imp_right .inl
  · rename_i made succeeded
    rw [succeeded] at makes
    split
    · exact (unwritten makes).imp_right .inl
    · rename_i written isWritten
      by_cases same : place = target
      · subst same
        cases place with
        | nil => cases isWritten
        | cons name above =>
          obtain ⟨-, -, -, rfl⟩ := makes.isTree.writeBytes_eq_ok_iff.mp isWritten
          exact .inr (.inr ⟨rfl, Directory.read_write_self⟩)
      · have same : written.read place = made.read place := by
          cases target with
          | nil => cases isWritten
          | cons name above =>
            obtain ⟨-, -, -, rfl⟩ := makes.isTree.writeBytes_eq_ok_iff.mp isWritten
            exact Directory.read_write_of_ne same
        rw [same]
        exact (unwritten makes).imp_right .inl

theorem restoreMember_origin (tree : IsTree files) (place : Place) :
    Origin platform expected root [member] (files.read place)
      ((restoreMember platform refusal expected root files member).2.read place) place := by
  unfold restoreMember
  split
  · exact .kept rfl
  · rename_i content checked
    rcases storeMember_read tree place with same | ⟨missing, made⟩ | ⟨located, written⟩
    · exact .kept same
    · exact .directory missing made
    · exact .member member List.mem_cons_self content (checkMember_eq_ok_iff.mp checked)
        located.symm written

theorem Origin.trans {first later : List Member} {before between last : Option Node}
    (start : Origin platform expected root first before between place)
    (next : Origin platform expected root later between last place) :
    Origin platform expected root (first ++ later) before last place := by
  cases next with
  | kept same =>
    cases start with
    | kept same' => exact .kept (same.trans same')
    | directory missing made => exact .directory missing (same.trans made)
    | member member isMember content checks located written =>
      exact .member member (List.mem_append_left _ isMember) content checks located
        (same.trans written)
  | directory missing made =>
    cases start with
    | kept same => exact .directory (same.symm.trans missing) made
    | directory _ found => cases missing.symm.trans found
    | member _ _ _ _ _ found => cases missing.symm.trans found
  | member member isMember content checks located written =>
    exact .member member (List.mem_append_right _ isMember) content checks located written

theorem restoreMembers_origin (tree : IsTree files) (isRoot : files.read root = some .directory)
    (place : Place) :
    Origin platform expected root members (files.read place)
      ((restoreMembers platform refusal expected root files members).2.read place) place := by
  induction members generalizing files with
  | nil => exact .kept rfl
  | cons member members ih =>
    have start : Origin platform expected root [member] _
        ((restoreMember platform refusal expected root files member).2.read place) place :=
      restoreMember_origin tree place
    have grows : Grows refusal root files
        (restoreMember platform refusal expected root files member).2 :=
      restoreMember_grows tree isRoot
    rw [restoreMembers]
    split
    · rename_i made failed
      rw [failed] at start
      have rest : Origin platform expected root members (made.read place) (made.read place) place :=
        .kept rfl
      exact start.trans rest
    · rename_i succeeded
      rw [succeeded] at start grows
      exact start.trans (ih grows.isTree grows.isRoot)

/-- Every member has its file in the end, unless another one was written over it. -/
theorem restoreMembers_eq_ok (tree : IsTree files) (isRoot : files.read root = some .directory)
    (restored : (restoreMembers platform refusal expected root files members).1 = .ok ()) :
    ∀ member ∈ members, (∃ content, Checks platform expected member content) ∧
      locate root member.name ≠ root ∧
      ∃ other ∈ members, ∃ content, Checks platform expected other content ∧
        locate root other.name = locate root member.name ∧
        (restoreMembers platform refusal expected root files members).2.read
          (locate root member.name) = some (.file content) := by
  induction members generalizing files with
  | nil => exact fun _ isMember => (List.not_mem_nil isMember).elim
  | cons member members ih =>
    have grows : Grows refusal root files
        (restoreMember platform refusal expected root files member).2 :=
      restoreMember_grows tree isRoot
    have stored := @restoreMember_eq_ok platform refusal files root expected member tree isRoot
    rw [restoreMembers] at restored ⊢
    split at restored
    · cases restored
    rename_i made succeeded
    rw [succeeded] at grows stored
    obtain ⟨content, checks, different, written⟩ := stored rfl
    intro later isMember
    cases List.mem_cons.mp isMember with
    | inl same =>
      subst same
      refine ⟨⟨content, checks⟩, different, ?_⟩
      have origin : Origin platform expected root members _
          ((restoreMembers platform refusal expected root made members).2.read
            (locate root later.name)) (locate root later.name) :=
        restoreMembers_origin grows.isTree grows.isRoot _
      cases origin with
      | kept same => exact ⟨later, List.mem_cons_self, content, checks, rfl, same.trans written⟩
      | directory missing _ => cases missing.symm.trans written
      | member other isOther content checks located written =>
        exact ⟨other, List.mem_cons_of_mem _ isOther, content, checks, located, written⟩
    | inr isLater =>
      obtain ⟨checked, different, other, isOther, found⟩ :=
        ih grows.isTree grows.isRoot restored later isLater
      exact ⟨checked, different, other, List.mem_cons_of_mem _ isOther, found⟩

end Reperio.Backup
