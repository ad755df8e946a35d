import Reperio.Backup.Restore

/-!
# When a restore is sound

A restore that goes wrong leaves what it wrote before, so that the next one finds
the directory not empty; and members whose names differ may stand for the same
file. It is all or nothing exactly when, as soon as the first member has an
effect, all members can be restored side by side (`restoresSoundly_iff`).
-/

namespace Reperio.Backup

open Python Storage

variable {platform : Platform} {refusal : Place → Option Refusal} {files made after : Files}
variable {root place target : Place} {names : List PyStr} {name : PyStr} {content : List UInt8}
variable {expected : ManifestEntries} {member : Member} {members data : List Member}
variable {targets : List Place} {maxSchemaVersion : ℤ} {archive : Option (List Member)}

/-! ## Files side by side -/

/-- Files can be written at all of these places, in any order. -/
structure Storable (refusal : Place → Option Refusal) (root : Place) (targets : List Place) :
    Prop where
  named : ∀ target ∈ targets, target ≠ root
  allowed : ∀ target ∈ targets, ∀ place, Inside root place → place <:+ target → refusal place = none
  apart : ∀ target ∈ targets, ∀ other ∈ targets, target <:+ other → target = other

/-- Some of the files are there, with the directories that hold them, and nothing else. -/
def Laid (root : Place) (targets : List Place) (files : Files) : Prop :=
  ∀ place, Inside root place → ∀ node ∈ files.read place,
    (node = .directory ∧ ∃ target ∈ targets, place <:+ target ∧ place ≠ target) ∨
      (∃ content, node = .file content) ∧ place ∈ targets

/-- The directory itself is one that can be named. -/
def RootAllowed (refusal : Place → Option Refusal) (root : Place) : Prop :=
  root = [] ∨ refusal root ≠ some .atOnce

theorem Makeable.rootAllowed (makeable : Makeable refusal files root) :
    RootAllowed refusal root := by
  cases root with
  | nil => exact .inl rfl
  | cons name above => exact .inr makeable.1

theorem RootAllowed.makeable (allowed : RootAllowed refusal root)
    (isRoot : files.read root = some .directory) : Makeable refusal files root := by
  cases root with
  | nil => exact trivial
  | cons name above => exact ⟨allowed.resolve_left (List.cons_ne_nil _ _), .inl isRoot⟩

theorem Laid.makes (laid : Laid root targets files) (isTarget : target ∈ targets)
    (makes : Makes refusal files made place) (isAbove : place <:+ target)
    (different : place ≠ target) :
    Laid root targets made := by
  intro other inside node found
  cases makes.changes other with
  | inl same => exact laid other inside node (same ▸ found)
  | inr isMade =>
    obtain rfl := Option.some.inj (found.symm.trans isMade.2.2.2)
    refine .inl ⟨rfl, target, isTarget, isMade.1.trans isAbove, ?_⟩
    rintro rfl
    exact different (isAbove.eq_of_length_le isMade.1.length_le)

namespace Storable

variable (storable : Storable refusal root targets)

include storable

theorem makeable (laid : Laid root targets files) (isRoot : files.read root = some .directory)
    (rootAllowed : RootAllowed refusal root) (isTarget : target ∈ targets)
    (isAbove : names ++ root <:+ target) (different : names ++ root ≠ target) :
    Makeable refusal files (names ++ root) := by
  induction names with
  | nil => exact rootAllowed.makeable isRoot
  | cons name names ih =>
    have inside : Inside root (name :: (names ++ root)) := inside_append name names
    have allowed := storable.allowed target isTarget _ inside isAbove
    refine ⟨by simp [allowed], ?_⟩
    cases found : files.read (name :: (names ++ root)) with
    | none =>
      have shorter : names ++ root <:+ target := (List.suffix_cons _ _).trans isAbove
      have shorterNe : names ++ root ≠ target := by
        rintro rfl
        have lengths := isAbove.length_le
        rw [List.cons_append, List.length_cons] at lengths
        omega
      exact .inr ⟨rfl, allowed, .inr (ih shorter shorterNe)⟩
    | some node =>
      rcases laid _ inside node found with ⟨rfl, -⟩ | ⟨-, isFile⟩
      · exact .inl rfl
      · exact absurd (storable.apart _ isFile target isTarget isAbove) different

theorem storeMember (tree : IsTree files) (isRoot : files.read root = some .directory)
    (rootAllowed : RootAllowed refusal root) (laid : Laid root targets files)
    (isTarget : target ∈ targets) (below : root <:+ target) :
    (storeMember refusal files target content).1 = .ok () ∧
      Laid root targets (Backup.storeMember refusal files target content).2 := by
  obtain ⟨name, names, rfl⟩ := Inside.exists_names ⟨below, storable.named target isTarget⟩
  have isAbove : names ++ root <:+ name :: (names ++ root) := List.suffix_cons _ _
  have different : names ++ root ≠ name :: (names ++ root) := fun same => by
    have lengths := congrArg List.length same
    rw [List.length_cons] at lengths
    omega
  have makeable := storable.makeable laid isRoot rootAllowed isTarget isAbove different
  have isMade := (mkdir_eq_ok_iff tree).mpr makeable
  have isDirectory := mkdir_eq_ok tree isMade
  have makes : Makes refusal files _ _ := makes_mkdir tree (names ++ root)
  have laidMade := laid.makes isTarget makes isAbove different
  rcases result : mkdir refusal files (names ++ root) with ⟨_, made⟩
  rw [result] at isMade isDirectory makes laidMade
  obtain rfl : _ = Except.ok () := isMade
  have inside : Inside root (name :: (names ++ root)) := inside_append name names
  have old : ∀ node ∈ made.read (name :: (names ++ root)), ∃ content, node = .file content := by
    intro node found
    rcases laidMade _ inside node found with ⟨rfl, other, isOther, isSuffix, notSame⟩ | ⟨isFile, -⟩
    · exact absurd (storable.apart _ isTarget other isOther isSuffix) notSame
    · exact isFile
  have written : writeBytes refusal made content (name :: (names ++ root)) =
      .ok (made.write (name :: (names ++ root)) (.file content)) :=
    makes.isTree.writeBytes_eq_ok_iff.mpr
      ⟨storable.allowed _ isTarget _ inside (List.suffix_refl _), isDirectory, old, rfl⟩
  have stored : Backup.storeMember refusal files (name :: (names ++ root)) content =
      (.ok (), made.write (name :: (names ++ root)) (.file content)) := by
    rw [Backup.storeMember, List.drop_one, List.tail_cons, result]
    dsimp only
    rw [written]
  rw [stored]
  refine ⟨rfl, fun place inside node found => ?_⟩
  by_cases same : place = name :: (names ++ root)
  · subst same
    obtain rfl := Option.some.inj (found.symm.trans Directory.read_write_self)
    exact .inr ⟨⟨content, rfl⟩, isTarget⟩
  · exact laidMade place inside node ((Directory.read_write_of_ne same).symm.trans found)

end Storable

theorem restoreMembers_of_storable (tree : IsTree files)
    (storable : Storable refusal root (data.map fun member => locate root member.name))
    (checked : ∀ member ∈ data, ∃ content, Checks platform expected member content)
    (isRoot : files.read root = some .directory) (rootAllowed : RootAllowed refusal root)
    (laid : Laid root (data.map fun member => locate root member.name) files)
    (isData : members ⊆ data) :
    (restoreMembers platform refusal expected root files members).1 = .ok () := by
  induction members generalizing files with
  | nil => rfl
  | cons member members ih =>
    have isMember : member ∈ data := isData List.mem_cons_self
    obtain ⟨content, checks⟩ := checked member isMember
    have isTarget : locate root member.name ∈ data.map fun member => locate root member.name :=
      List.mem_map_of_mem isMember
    have below : root <:+ locate root member.name := locate_suffix checks.isSafe
    have stored : restoreMember platform refusal expected root files member =
        storeMember refusal files (locate root member.name) content := by
      rw [restoreMember, checkMember_eq_ok_iff.mpr checks]
    have grows : Grows refusal root files
        (storeMember refusal files (locate root member.name) content).2 :=
      storeMember_grows tree isRoot below
    have ⟨isOk, isLaid⟩ : (storeMember refusal files (locate root member.name) content).1 = .ok () ∧
        Laid root _ (storeMember refusal files (locate root member.name) content).2 :=
      storable.storeMember tree isRoot rootAllowed laid isTarget below
    rw [restoreMembers, stored]
    revert isOk isLaid grows
    rcases storeMember refusal files (locate root member.name) content with ⟨_ | _, made⟩
    · rintro - ⟨⟩
    · intro grows _ isLaid
      exact ih grows.isTree grows.isRoot isLaid fun _ later => isData (List.mem_cons_of_mem _ later)

/-! ## The first member -/

/-- With nothing inside the directory, writing this file makes something there. -/
def Starts (refusal : Place → Option Refusal) (root : Place) : List PyStr → Prop
  | [] => False
  | [name] => refusal (name :: root) = none
  | _ :: other :: names => Begins refusal root (other :: names)

theorem HoldsNothing.laid (empty : HoldsNothing files root) : Laid root targets files := by
  intro place inside node found
  obtain ⟨name, names, rfl⟩ := inside.exists_names
  cases (empty name names).symm.trans found

section

variable (empty : HoldsNothing files root) (tree : IsTree files)
variable (isRoot : files.read root = some .directory)

include empty tree isRoot

theorem storeMember_of_not_starts (notStarts : ¬ Starts refusal root names) :
    ∃ error, storeMember refusal files (names ++ root) content = (.error error, files) := by
  have unwritten : (names = [] ∨ ∃ name, names = [name]) →
      ∀ written, writeBytes refusal files content (names ++ root) ≠ .ok written := by
    rintro (rfl | ⟨name, rfl⟩) written isWritten
    · exact (Grows.of_write tree isRoot (List.suffix_refl root) isWritten).2.1 rfl
    · exact notStarts (tree.writeBytes_eq_ok_iff.mp isWritten).1
  have inRoot : files.read ((names ++ root).drop 1) = some .directory →
      (names = [] ∨ ∃ name, names = [name]) →
      ∃ error, storeMember refusal files (names ++ root) content = (.error error, files) := by
    intro isAbove short
    have same : (mkdir refusal files ((names ++ root).drop 1)).2 = files :=
      mkdir_of_read tree isAbove
    refine ⟨.raised, ?_⟩
    rw [storeMember]
    revert same
    rcases mkdir refusal files ((names ++ root).drop 1) with ⟨_ | _, made⟩
    · rintro rfl
      rfl
    · rintro rfl
      dsimp only
      cases result : writeBytes refusal made content (names ++ root) with
      | error _ => rfl
      | ok written => exact absurd result (unwritten short written)
  match names with
  | [] =>
    refine inRoot ?_ (.inl rfl)
    cases root with
    | nil => exact isRoot
    | cons name above => exact tree.above isRoot
  | [name] => exact inRoot isRoot (.inr ⟨name, rfl⟩)
  | name :: other :: names =>
    obtain ⟨error, failed⟩ := empty.mkdir_of_not_begins tree isRoot notStarts
    refine ⟨.raised, ?_⟩
    rw [storeMember, List.cons_append, List.drop_one, List.tail_cons, List.cons_append, failed]

theorem storeMember_of_starts (rootAllowed : RootAllowed refusal root)
    (starts : Starts refusal root names) :
    ¬ HoldsNothing (storeMember refusal files (names ++ root) content).2 root := by
  match names with
  | [] => exact starts.elim
  | [name] =>
    have isMade : (mkdir refusal files root).1 = .ok () :=
      (mkdir_eq_ok_iff tree).mpr (rootAllowed.makeable isRoot)
    have same : (mkdir refusal files root).2 = files := mkdir_of_read tree isRoot
    have missing : files.read (name :: root) = none := empty name []
    have written : writeBytes refusal files content (name :: root) =
        .ok (files.write (name :: root) (.file content)) :=
      tree.writeBytes_eq_ok_iff.mpr ⟨starts, isRoot, by simp [missing], rfl⟩
    rw [List.singleton_append, storeMember, List.drop_one, List.tail_cons]
    rcases result : mkdir refusal files root with ⟨_, made⟩
    rw [result] at isMade same
    dsimp only at isMade same
    subst isMade same
    dsimp only
    rw [written]
    intro stillEmpty
    cases (stillEmpty name []).symm.trans Directory.read_write_self
  | name :: other :: names =>
    have begun := empty.mkdir_of_begins tree isRoot starts
    have makes : Makes refusal files _ _ := makes_mkdir tree (other :: (names ++ root))
    rw [List.cons_append, storeMember, List.drop_one, List.tail_cons, List.cons_append]
    intro stillEmpty
    apply begun
    revert stillEmpty makes
    rcases mkdir refusal files (other :: (names ++ root)) with ⟨_ | _, made⟩
    · exact fun _ stillEmpty => stillEmpty
    · intro makes stillEmpty
      have isAbove : root <:+ name :: (other :: (names ++ root)) :=
        (inside_append other names).1.trans (List.suffix_cons _ _)
      have grows := Grows.of_makes tree isRoot isAbove makes
      dsimp only at stillEmpty
      split at stillEmpty
      · exact stillEmpty
      · rename_i written
        exact stillEmpty.before (Grows.of_write grows.isTree grows.isRoot isAbove written).1.inside

end

/-- The first member makes something in the directory. -/
def HasEffect (platform : Platform) (refusal : Place → Option Refusal) (root : Place)
    (expected : ManifestEntries) (member : Member) : Prop :=
  (∃ content, Checks platform expected member content) ∧
    Starts refusal root (components member.name)

section

variable (empty : HoldsNothing files root) (tree : IsTree files)
variable (isRoot : files.read root = some .directory)

include empty tree isRoot

theorem restoreMember_of_not_hasEffect
    (noEffect : ¬ HasEffect platform refusal root expected member) :
    ∃ error, restoreMember platform refusal expected root files member = (.error error, files) := by
  rw [restoreMember]
  cases result : checkMember platform expected member with
  | error error => exact ⟨error, rfl⟩
  | ok content =>
    have checks := checkMember_eq_ok_iff.mp result
    have notStarts := fun starts => noEffect ⟨⟨content, checks⟩, starts⟩
    dsimp only
    rw [locate_of_isSafe checks.isSafe]
    exact storeMember_of_not_starts empty tree isRoot notStarts

theorem restoreMember_of_hasEffect (rootAllowed : RootAllowed refusal root)
    (effect : HasEffect platform refusal root expected member) :
    ¬ HoldsNothing (restoreMember platform refusal expected root files member).2 root := by
  obtain ⟨⟨content, checks⟩, starts⟩ := effect
  rw [restoreMember, checkMember_eq_ok_iff.mpr checks]
  dsimp only
  rw [locate_of_isSafe checks.isSafe]
  exact storeMember_of_starts empty tree isRoot rootAllowed starts

/-- What the first member made stays, whatever happens to the others. -/
theorem restoreMembers_of_hasEffect (rootAllowed : RootAllowed refusal root)
    (effect : HasEffect platform refusal root expected member) :
    ¬ HoldsNothing (restoreMembers platform refusal expected root files (member :: members)).2
      root := by
  have begun := restoreMember_of_hasEffect empty tree isRoot rootAllowed effect
  have grows : Grows refusal root files
      (restoreMember platform refusal expected root files member).2 :=
    restoreMember_grows tree isRoot
  rw [restoreMembers]
  revert begun grows
  rcases restoreMember platform refusal expected root files member with ⟨_ | _, made⟩
  · exact fun begun _ => begun
  · intro begun grows stillEmpty
    have later : Grows refusal root made
        (restoreMembers platform refusal expected root made members).2 :=
      restoreMembers_grows grows.isTree grows.isRoot
    exact begun (stillEmpty.before later.inside)

end

/-! ## Sound restores -/

/-- The restore writes in the directory only; it returns when the directory holds the files of the
manifest, each with its digest and size, and no others; and when it raises, the directory is as
empty as before. -/
structure RestoresSoundly (platform : Platform) (root : Place) (before : Files)
    (archive : Option (List Member)) (outcome : Except BackupError (List PyStr) × Files) :
    Prop where
  outside (place : Place) (isOutside : ¬ Inside root place) :
    outcome.2.read place = before.read place ∨
      place <:+ root ∧ before.read place = none ∧ outcome.2.read place = some .directory
  restored (names : List PyStr) (returned : outcome.1 = .ok names) :
    ∃ members ∈ archive, ∃ manifest, loadManifest platform members = .ok manifest ∧
      ∃ expected, manifestEntries manifest = .ok expected ∧
        (∀ entry ∈ expected.entries, ∃ content,
          outcome.2.read (locate root entry.path) = some (.file content) ∧
            platform.sha256 content = entry.digest ∧ content.length = entry.sizeBytes) ∧
        ∀ place, Inside root place → ∀ node ∈ outcome.2.read place, node ≠ .directory →
          ∃ entry ∈ expected.entries, locate root entry.path = place
  retriable (error : BackupError) (raised : outcome.1 = .error error) (place : Place)
    (isInside : Inside root place) : outcome.2.read place = before.read place

/-- Every member passes its checks, every entry has its member, all files can be written side by
side, and entries that stand for one file agree about it. -/
structure Restorable (platform : Platform) (refusal : Place → Option Refusal) (root : Place)
    (expected : ManifestEntries) (data : List Member) : Prop where
  checked : ∀ member ∈ data, ∃ content, Checks platform expected member content
  present : ∀ entry ∈ expected.entries, entry.path ∈ data.map Member.name
  storable : Storable refusal root (data.map fun member => locate root member.name)
  agree : ∀ first ∈ expected.entries, ∀ second ∈ expected.entries,
    locate root first.path = locate root second.path →
      first.digest = second.digest ∧ first.sizeBytes = second.sizeBytes

theorem prepare_eq_ok (prepared : prepare platform maxSchemaVersion root files archive =
      .ok (expected, data)) :
    checkRoot root files = .ok () ∧ ∃ members ∈ archive,
      (∃ manifest, loadManifest platform members = .ok manifest ∧
        manifestEntries manifest = .ok expected) ∧
      data = members.filter fun member => member.name ≠ manifestName := by
  unfold prepare at prepared
  obtain ⟨_, isEmpty, prepared⟩ := bind_eq_ok prepared
  obtain ⟨members, isArchive, prepared⟩ := bind_eq_ok prepared
  obtain ⟨manifest, isManifest, prepared⟩ := bind_eq_ok prepared
  obtain ⟨version, -, prepared⟩ := bind_eq_ok prepared
  split at prepared
  · cases prepared
  obtain ⟨entries, areEntries, prepared⟩ := bind_eq_ok prepared
  dsimp only at prepared
  split at prepared
  · cases prepared
    refine ⟨isEmpty, members, ?_, ⟨manifest, isManifest, areEntries⟩, rfl⟩
    cases archive with
    | none => cases isArchive
    | some archive => exact congrArg some (Except.ok.inj isArchive)
  · cases prepared

theorem checkRoot_eq_ok (tree : IsTree files) (checked : checkRoot root files = .ok ()) :
    HoldsNothing files root := by
  intro name names
  by_contra present
  obtain ⟨node, found⟩ := Option.ne_none_iff_exists'.mp present
  have inside : Inside root (name :: (names ++ root)) := inside_append name names
  have isRoot : files.read root = some .directory :=
    tree.read_suffix found inside.1 (Ne.symm inside.2)
  rw [checkRoot, isRoot] at checked
  dsimp only at checked
  split at checked
  · cases checked
  rename_i noChild
  have notLast : name :: names ≠ [] := List.cons_ne_nil _ _
  have isChild : (name :: names).getLast notLast :: root <:+ name :: (names ++ root) := by
    refine ⟨(name :: names).dropLast, ?_⟩
    rw [List.append_cons, List.dropLast_append_getLast, List.cons_append]
  have child : ∃ node, files.read ((name :: names).getLast notLast :: root) = some node := by
    by_cases same : (name :: names).getLast notLast :: root = name :: (names ++ root)
    · exact ⟨node, same ▸ found⟩
    · exact ⟨_, tree.read_suffix found isChild same⟩
  obtain ⟨node, found⟩ := child
  refine noChild (List.any_eq_true.mpr ⟨_, Directory.mem_of_read found, ?_⟩)
  exact decide_eq_true ⟨List.cons_ne_nil _ _, rfl⟩

theorem Makes.read_of_inside (makes : Makes refusal files made root) (inside : Inside root place) :
    made.read place = files.read place := by
  refine (makes.changes place).resolve_right fun changed => inside.2 ?_
  exact changed.1.eq_of_length_le inside.1.length_le

/-- What a restore does that has made its directory. -/
theorem restoreStateBackup_outside {outcome : Files} (makes : Makes refusal files made root)
    (grows : Grows refusal root made outcome) (isOutside : ¬ Inside root place) :
    outcome.read place = files.read place ∨
      place <:+ root ∧ files.read place = none ∧ outcome.read place = some .directory := by
  rw [grows.outside place isOutside]
  exact (makes.changes place).imp_right fun changed => ⟨changed.1, changed.2.2⟩

/-- The files that are there when all members were restored. -/
theorem Restorable.restored (restorable : Restorable platform refusal root expected data)
    (tree : IsTree made) (isRoot : made.read root = some .directory)
    (ran : (restoreMembers platform refusal expected root made data).1 = .ok ())
    {entry : ManifestEntry} (isEntry : entry ∈ expected.entries) :
    ∃ content, (restoreMembers platform refusal expected root made data).2.read
        (locate root entry.path) = some (.file content) ∧
      platform.sha256 content = entry.digest ∧ content.length = entry.sizeBytes := by
  obtain ⟨member, isMember, isName⟩ := List.mem_map.mp (restorable.present entry isEntry)
  obtain ⟨-, -, other, isOther, content, checks, located, written⟩ :=
    restoreMembers_eq_ok tree isRoot ran member isMember
  obtain ⟨found, isFound, digest, size⟩ := checks.entry
  obtain ⟨isFound, isPath⟩ := ManifestEntries.mem_of_find? isFound
  have same : locate root found.path = locate root entry.path := by rw [isPath, located, isName]
  obtain ⟨sameDigest, sameSize⟩ := restorable.agree found isFound entry isEntry same
  rw [isName] at written
  exact ⟨content, written, digest.trans sameDigest, size.trans sameSize⟩

theorem restorable_of_restored (tree : IsTree made) (isRoot : made.read root = some .directory)
    (empty : HoldsNothing made root)
    (ran : (restoreMembers platform refusal expected root made data).1 = .ok ())
    (present : ∀ entry ∈ expected.entries, entry.path ∈ data.map Member.name)
    (restored : ∀ entry ∈ expected.entries, ∃ content,
      (restoreMembers platform refusal expected root made data).2.read (locate root entry.path) =
          some (.file content) ∧
        platform.sha256 content = entry.digest ∧ content.length = entry.sizeBytes) :
    Restorable platform refusal root expected data := by
  have stored := restoreMembers_eq_ok tree isRoot ran
  have grows : Grows refusal root made
      (restoreMembers platform refusal expected root made data).2 :=
    restoreMembers_grows tree isRoot
  have below : ∀ member ∈ data, root <:+ locate root member.name := by
    intro member isMember
    obtain ⟨⟨content, checks⟩, -⟩ := stored member isMember
    exact locate_suffix checks.isSafe
  have isFile : ∀ member ∈ data, ∃ content,
      (restoreMembers platform refusal expected root made data).2.read (locate root member.name) =
        some (.file content) := by
    intro member isMember
    obtain ⟨-, -, -, -, content, -, -, written⟩ := stored member isMember
    exact ⟨content, written⟩
  constructor
  · exact fun member isMember => (stored member isMember).1
  · exact present
  · constructor
    · simp only [List.forall_mem_map]
      exact fun member isMember => (stored member isMember).2.1
    · simp only [List.forall_mem_map]
      intro member isMember place inside isAbove
      obtain ⟨content, written⟩ := isFile member isMember
      have present :
        ((restoreMembers platform refusal expected root made data).2.read place).isSome := by
        by_cases same : place = locate root member.name
        · rw [same, written]
          rfl
        · rw [grows.isTree.read_suffix written isAbove same]
          rfl
      obtain ⟨name, names, rfl⟩ := inside.exists_names
      refine (grows.inside _).allowed (fun old => ?_) present
      rw [empty name names] at old
      cases old
    · simp only [List.forall_mem_map]
      intro member isMember other isOther isAbove
      obtain ⟨content, written⟩ := isFile member isMember
      obtain ⟨otherContent, otherWritten⟩ := isFile other isOther
      by_contra different
      cases written.symm.trans (grows.isTree.read_suffix otherWritten isAbove different)
  · intro first isFirst second isSecond same
    obtain ⟨content, found, digest, size⟩ := restored first isFirst
    obtain ⟨content', found', digest', size'⟩ := restored second isSecond
    rw [same, found'] at found
    obtain rfl := Node.file.inj (Option.some.inj found)
    exact ⟨digest.symm.trans digest', size.symm.trans size'⟩

theorem restoresSoundly_of_error {error : BackupError}
    (outside : ∀ place, ¬ Inside root place → after.read place = files.read place ∨
      place <:+ root ∧ files.read place = none ∧ after.read place = some .directory)
    (inside : ∀ place, Inside root place → after.read place = files.read place) :
    RestoresSoundly platform root files archive (.error error, after) :=
  ⟨outside, fun _ returned => (by cases returned), fun _ _ => inside⟩

section

variable (tree : IsTree files) (prepared : prepare platform maxSchemaVersion root files archive =
  .ok (expected, data))
variable (isMade : mkdir refusal files root = (.ok (), made))

include prepared isMade

theorem restoreStateBackup_of_failed {error : BackupError}
    (ran : restoreMembers platform refusal expected root made data = (.error error, after)) :
    restoreStateBackup platform refusal maxSchemaVersion root files archive =
      (.error error, after) := by
  rw [restoreStateBackup, prepared]
  dsimp only
  rw [isMade]
  dsimp only
  rw [ran]

theorem restoreStateBackup_of_ran
    (ran : restoreMembers platform refusal expected root made data = (.ok (), after)) :
    restoreStateBackup platform refusal maxSchemaVersion root files archive =
      if ∀ entry ∈ expected.entries, entry.path ∈ data.map Member.name then
        (.ok ((data.map Member.name).insertionSort (· ≤ ·)), after)
      else
        (.error (.diagnosticsBackupError "missing_member" "backup member is missing"), after) := by
  rw [restoreStateBackup, prepared]
  dsimp only
  rw [isMade]
  dsimp only
  rw [ran]

include tree

theorem mkdir_restoreRoot : Makes refusal files made root ∧ made.read root = some .directory ∧
    HoldsNothing made root ∧ RootAllowed refusal root := by
  have makes : Makes refusal files _ root := makes_mkdir tree root
  have isRoot : (mkdir refusal files root).1 = .ok () →
      (mkdir refusal files root).2.read root = some .directory := mkdir_eq_ok tree
  have makeable : Makeable refusal files root := (mkdir_eq_ok_iff tree).mp (by rw [isMade])
  rw [isMade] at makes isRoot
  refine ⟨makes, isRoot rfl, fun name names => ?_, makeable.rootAllowed⟩
  rw [makes.read_of_inside (inside_append name names)]
  exact checkRoot_eq_ok tree (prepare_eq_ok prepared).1 name names

end

/-- When the first member has an effect, the restore is sound if all members can be restored. -/
theorem restoresSoundly_of_restorable (tree : IsTree files)
    (prepared : prepare platform maxSchemaVersion root files archive = .ok (expected, data))
    (isMade : mkdir refusal files root = (.ok (), made))
    (restorable : Restorable platform refusal root expected data) :
    RestoresSoundly platform root files archive
      (restoreStateBackup platform refusal maxSchemaVersion root files archive) := by
  obtain ⟨makes, isRoot, empty, rootAllowed⟩ := mkdir_restoreRoot tree prepared isMade
  have ran : (restoreMembers platform refusal expected root made data).1 = .ok () :=
    restoreMembers_of_storable makes.isTree restorable.storable restorable.checked isRoot
      rootAllowed empty.laid (List.Subset.refl data)
  have grows : Grows refusal root made
      (restoreMembers platform refusal expected root made data).2 :=
    restoreMembers_grows makes.isTree isRoot
  have origin : ∀ place, Origin platform expected root data (made.read place)
      ((restoreMembers platform refusal expected root made data).2.read place) place :=
    restoreMembers_origin makes.isTree isRoot
  have restored : ∀ entry ∈ expected.entries, _ := fun entry isEntry =>
    restorable.restored makes.isTree isRoot ran isEntry
  rcases result : restoreMembers platform refusal expected root made data with ⟨_, after⟩
  rw [result] at ran grows origin restored
  obtain rfl : _ = Except.ok () := ran
  rw [restoreStateBackup_of_ran prepared isMade result, if_pos restorable.present]
  refine ⟨fun place => restoreStateBackup_outside makes grows, ?_,
    fun _ raised => (by cases raised)⟩
  intro _ _
  obtain ⟨-, members, isArchive, ⟨manifest, isManifest, areEntries⟩, -⟩ := prepare_eq_ok prepared
  refine ⟨members, isArchive, manifest, isManifest, expected, areEntries, restored, ?_⟩
  intro place inside node found noDirectory
  cases origin place with
  | kept same =>
    obtain ⟨name, names, rfl⟩ := inside.exists_names
    cases (empty name names).symm.trans (same.symm.trans found)
  | directory _ isDirectory =>
    exact absurd (Option.some.inj (found.symm.trans isDirectory)) noDirectory
  | member member isMember content checks located written =>
    obtain ⟨entry, isEntry, -⟩ := checks.entry
    obtain ⟨isEntry, isPath⟩ := ManifestEntries.mem_of_find? isEntry
    exact ⟨entry, isEntry, isPath ▸ located⟩

/-- A restore that raises after the first member had an effect leaves the directory not empty. -/
theorem restorable_of_restoresSoundly (tree : IsTree files)
    (prepared : prepare platform maxSchemaVersion root files archive =
      .ok (expected, member :: members))
    (isMade : mkdir refusal files root = (.ok (), made))
    (effect : HasEffect platform refusal root expected member)
    (sound : RestoresSoundly platform root files archive
      (restoreStateBackup platform refusal maxSchemaVersion root files archive)) :
    Restorable platform refusal root expected (member :: members) := by
  obtain ⟨makes, isRoot, empty, rootAllowed⟩ := mkdir_restoreRoot tree prepared isMade
  obtain ⟨checked, loaded, isArchive, ⟨manifest, isManifest, areEntries⟩, -⟩ :=
    prepare_eq_ok prepared
  have emptyBefore : HoldsNothing files root := checkRoot_eq_ok tree checked
  have notEmpty : ¬ HoldsNothing
      (restoreMembers platform refusal expected root made (member :: members)).2 root :=
    restoreMembers_of_hasEffect empty makes.isTree isRoot rootAllowed effect
  have restorable := @restorable_of_restored platform refusal made root expected (member :: members)
    makes.isTree isRoot empty
  rcases result : restoreMembers platform refusal expected root made (member :: members) with
    ⟨error | _, after⟩
  · rw [restoreStateBackup_of_failed prepared isMade result] at sound
    rw [result] at notEmpty
    refine absurd (fun name names => ?_) notEmpty
    rw [sound.retriable error rfl _ (inside_append name names)]
    exact emptyBefore name names
  · rw [restoreStateBackup_of_ran prepared isMade result] at sound
    rw [result] at notEmpty restorable
    split at sound
    · rename_i present
      obtain ⟨loaded', isArchive', manifest', isManifest', expected', areEntries', restored, -⟩ :=
        sound.restored _ rfl
      obtain rfl := Option.some.inj (isArchive.symm.trans isArchive')
      obtain rfl := Except.ok.inj (isManifest.symm.trans isManifest')
      obtain rfl := Except.ok.inj (areEntries.symm.trans areEntries')
      exact restorable rfl present restored
    · refine absurd (fun name names => ?_) notEmpty
      rw [sound.retriable _ rfl _ (inside_append name names)]
      exact emptyBefore name names

/-- Without an effect of the first member, nothing is made in the directory at all. -/
theorem restoresSoundly_of_not_hasEffect (tree : IsTree files)
    (prepared : prepare platform maxSchemaVersion root files archive = .ok (expected, data))
    (isMade : mkdir refusal files root = (.ok (), made))
    (noEffect : ¬ ∃ first ∈ data.head?, HasEffect platform refusal root expected first) :
    RestoresSoundly platform root files archive
      (restoreStateBackup platform refusal maxSchemaVersion root files archive) := by
  obtain ⟨makes, isRoot, empty, -⟩ := mkdir_restoreRoot tree prepared isMade
  have grows : Grows refusal root made made := .refl makes.isTree isRoot
  have outside : ∀ place, ¬ Inside root place → made.read place = files.read place ∨
      place <:+ root ∧ files.read place = none ∧ made.read place = some .directory :=
    fun place => restoreStateBackup_outside makes grows
  have inside : ∀ place, Inside root place → made.read place = files.read place :=
    fun place => makes.read_of_inside
  cases data with
  | nil =>
    by_cases present : ∀ entry ∈ expected.entries, entry.path ∈ ([] : List PyStr)
    · refine restoresSoundly_of_restorable tree prepared isMade
        ⟨by simp, present, ⟨by simp, by simp, by simp⟩, ?_⟩
      exact fun first isFirst => absurd (present first isFirst) List.not_mem_nil
    · rw [restoreStateBackup_of_ran prepared isMade rfl, List.map_nil, if_neg present]
      exact restoresSoundly_of_error outside inside
  | cons member members =>
    have notFirst : ¬ HasEffect platform refusal root expected member :=
      fun effect => noEffect ⟨member, rfl, effect⟩
    obtain ⟨error, failed⟩ := restoreMember_of_not_hasEffect empty makes.isTree isRoot notFirst
    have ran : restoreMembers platform refusal expected root made (member :: members) =
        (.error error, made) := by
      rw [restoreMembers, failed]
    rw [restoreStateBackup_of_failed prepared isMade ran]
    exact restoresSoundly_of_error outside inside

/-- A restore is sound exactly when all members can be restored as soon as the first has an effect.
-/
theorem restoresSoundly_iff (tree : FileTree) :
    RestoresSoundly platform root tree.files archive
      (restoreStateBackup platform refusal maxSchemaVersion root tree.files archive) ↔
      ∀ expected data,
        prepare platform maxSchemaVersion root tree.files archive = .ok (expected, data) →
        Makeable refusal tree.files root →
        (∃ first ∈ data.head?, HasEffect platform refusal root expected first) →
        Restorable platform refusal root expected data := by
  have isTree := tree.isTree
  have makes : Makes refusal tree.files _ root := makes_mkdir isTree root
  have makeable : (mkdir refusal tree.files root).1 = .ok () ↔ Makeable refusal tree.files root :=
    mkdir_eq_ok_iff isTree
  constructor
  · rintro sound expected data prepared isMakeable ⟨first, isFirst, effect⟩
    have isOk := makeable.mpr isMakeable
    rcases isMade : mkdir refusal tree.files root with ⟨_, made⟩
    rw [isMade] at isOk
    obtain rfl : _ = Except.ok () := isOk
    cases data with
    | nil => cases isFirst
    | cons member members =>
      obtain rfl := Option.some.inj isFirst
      exact restorable_of_restoresSoundly isTree prepared isMade effect sound
  · intro condition
    cases prepared : prepare platform maxSchemaVersion root tree.files archive with
    | error error =>
      rw [restoreStateBackup, prepared]
      exact restoresSoundly_of_error (fun _ _ => .inl rfl) fun _ _ => rfl
    | ok found =>
      obtain ⟨expected, data⟩ := found
      rcases isMade : mkdir refusal tree.files root with ⟨_ | _, made⟩
      · rw [isMade] at makes
        rw [restoreStateBackup, prepared]
        dsimp only
        rw [isMade]
        refine restoresSoundly_of_error (fun place _ => ?_) fun place => makes.read_of_inside
        exact (makes.changes place).imp_right fun changed => ⟨changed.1, changed.2.2⟩
      · by_cases effect : ∃ first ∈ data.head?, HasEffect platform refusal root expected first
        · have isMakeable := makeable.mp (by rw [isMade])
          exact restoresSoundly_of_restorable isTree prepared isMade
            (condition expected data prepared isMakeable effect)
        · exact restoresSoundly_of_not_hasEffect isTree prepared isMade effect

/-! ## A member without an entry -/

/-- The digest of an empty file, which is all that is restored here. -/
def emptyDigest : PyStr :=
  .ofString "e3b0c44298fc1c149afbf4c8996fb92427ae41e4649b934ca495991b7852b855"

def emptyPlatform : Platform where
  sha256 _ := emptyDigest
  toInt value :=
    match value with
    | .int number => .ok number
    | _ => .error .typeError
  linkTarget _ _ := none
  recursionLimit := 1000

def emptyEntry : ManifestEntry where
  path := .ofString "settings.json"
  digest := emptyDigest
  sizeBytes := 0

def emptyMember (name : String) : Member where
  name := .ofString name
  kind := .regular
  content := some []

/-- The manifest lists the settings, and behind them comes a member that it does not list. -/
def unmanifestedArchive : List Member :=
  manifestMember ((manifestBytes emptyPlatform 7 [emptyEntry]).toOption.getD []) ::
    ["settings.json", "notes.txt"].map emptyMember

def emptyDisk : FileTree where
  files := [([], .directory)]
  isTree :=
    { top := rfl
      above := fun found => by cases found }

theorem isSafe_settings : IsSafe (.ofString "settings.json") :=
  ⟨by decide, by decide, by decide⟩

theorem isValidEntry_emptyEntry : IsValidEntry emptyEntry :=
  ⟨by decide, by decide, by decide, by decide, isSafe_settings⟩

theorem manifestBytes_emptyEntry : ∃ content, manifestBytes emptyPlatform 7 [emptyEntry] =
    .ok content := by
  have isOk : (manifestBytes emptyPlatform 7 [emptyEntry]).toOption.isSome = true := by decide
  obtain ⟨content, isContent⟩ := Option.isSome_iff_exists.mp isOk
  exact ⟨content, eq_ok_of_toOption isContent⟩

/-- The restore raises, and leaves the settings in the directory. -/
theorem unmanifested_not_restoresSoundly :
    ¬ RestoresSoundly emptyPlatform [.ofString "restore"] emptyDisk.files (some unmanifestedArchive)
      (restoreStateBackup emptyPlatform (fun _ => none) 7 [.ofString "restore"] emptyDisk.files
        (some unmanifestedArchive)) := by
  intro sound
  obtain ⟨content, written⟩ := manifestBytes_emptyEntry
  have isArchive : unmanifestedArchive =
      manifestMember content :: ["settings.json", "notes.txt"].map emptyMember := by
    rw [unmanifestedArchive, written]
    rfl
  rw [isArchive] at sound
  have joined : ∀ entry ∈ [emptyEntry], entry.path.joined = entry.path ∧
      entry.digest.joined = entry.digest :=
    List.forall_mem_singleton.mpr ⟨PyStr.joined_ofString _, PyStr.joined_ofString _⟩
  have others : ∀ member ∈ ["settings.json", "notes.txt"].map emptyMember,
      member.name ≠ manifestName := by decide
  have prepared : prepare emptyPlatform 7 [.ofString "restore"] emptyDisk.files _ = _ :=
    prepare_written rfl written joined others rfl (le_refl 7) (by decide)
      (List.forall_mem_singleton.mpr isValidEntry_emptyEntry) (by decide)
  have effect : HasEffect emptyPlatform (fun _ => none) [.ofString "restore"]
    ⟨[emptyEntry], by decide⟩ (emptyMember "settings.json") :=
    ⟨⟨[], rfl, isSafe_settings, rfl, emptyEntry, by decide, rfl, rfl⟩, by
      have isName : components (.ofString "settings.json") = [.ofString "settings.json"] := by
        decide
      rw [emptyMember, isName]
      rfl⟩
  have restorable := restorable_of_restoresSoundly emptyDisk.isTree prepared rfl effect sound
  obtain ⟨_, checks⟩ := restorable.checked (emptyMember "notes.txt") (by decide)
  obtain ⟨entry, isEntry, -⟩ := checks.entry
  have missing : ManifestEntries.find? ⟨[emptyEntry], by decide⟩ (.ofString "notes.txt") =
    none := by
    decide
  cases missing.symm.trans isEntry

end Reperio.Backup
