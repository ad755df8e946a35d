import Reperio.Backup.RestoreSoundness
import Reperio.Backup.StateBackup

/-!
# When a backup restores

The backup selects files by following links, while the restore refuses links of
both kinds. So a backup restores exactly when no selected file is reached by a
symbolic link, and none is stored under a second name (`restoresBackup_iff`).
-/

namespace Reperio.Backup

open Python Storage

/-- `hashlib` and `int` as far as a backup relies on them. -/
structure IsLawful (platform : Platform) : Prop where
  toInt (value : ℤ) : platform.toInt (.int value) = .ok value
  digestLength (content : List UInt8) : (platform.sha256 content).length = 64
  digestHex (content : List UInt8) : (platform.sha256 content).all isHexDigit = true

variable {platform : Platform} {state : StateDirectory} {includeDerivatives : Bool}
variable {entry other : PurePath × StateNode} {path : PurePath} {node : StateNode}

/-! ## Selected files -/

/-- What is known of a selected entry. -/
structure IsSelected (state : StateDirectory) (entry : PurePath × StateNode) : Prop where
  mem : entry ∈ state.nodes
  isFile : entry.2.isFile = true
  first : ∃ first ∈ entry.1.parts.head?, first ∉ excludedNames
  listed : entry.1.parts.length = 1 → entry.1.name ∈ includeFiles

variable {allowedDirs : List PyStr} {inodes : Directory (ℕ × ℕ) PyStr}
    {entries : List (PurePath × StateNode)}

theorem isSelected_of_childEntries {child : PurePath × StateNode} (isChild : child ∈ state.nodes)
    (single : child.1.parts.length = 1) (isEntry : entry ∈ childEntries state allowedDirs child) :
    IsSelected state entry ∧ entry.1.parts.head? = child.1.parts.head? := by
  obtain ⟨name, isName⟩ := List.length_eq_one_iff.mp single
  have isName' : child.1.name = name := by rw [PurePath.name, isName]; rfl
  unfold childEntries at isEntry
  rw [isName'] at isEntry
  split at isEntry
  · cases isEntry
  rename_i included
  split at isEntry
  · rename_i isFile
    obtain rfl := List.mem_singleton.mp isEntry
    have listed : entry.1.name ∈ includeFiles := isName' ▸ isFile.2
    exact ⟨⟨isChild, isFile.1, ⟨name, by rw [isName]; rfl, included⟩, fun _ => listed⟩, rfl⟩
  · split at isEntry
    · obtain ⟨isNode, isBelow⟩ := List.mem_filter.mp isEntry
      obtain ⟨below, isFile⟩ := Bool.and_eq_true_iff.mp isBelow
      obtain ⟨deep, isHead⟩ := of_decide_eq_true below
      refine ⟨⟨isNode, isFile, ⟨name, isHead, included⟩, fun single => absurd single deep⟩, ?_⟩
      rw [isHead, isName]
      rfl
    · cases isEntry

theorem isSelected_of_mem (isEntry : entry ∈ stateEntries state includeDerivatives) :
    IsSelected state entry := by
  rw [stateEntries, List.mem_insertionSort, List.mem_flatMap] at isEntry
  obtain ⟨child, isChild, isEntry⟩ := isEntry
  obtain ⟨isChild, single⟩ := List.mem_filter.mp isChild
  exact (isSelected_of_childEntries isChild (of_decide_eq_true single) isEntry).1

theorem StateDirectory.eq_of_path (isNode : entry ∈ state.nodes) (isOther : other ∈ state.nodes)
    (same : entry.1 = other.1) : entry = other :=
  List.inj_on_of_nodup_map state.distinct isNode isOther same

theorem nodup_childEntries {child : PurePath × StateNode} :
    (childEntries state allowedDirs child).Nodup := by
  unfold childEntries
  split
  · exact List.nodup_nil
  · split
    · exact List.nodup_singleton _
    · split
      · exact (List.Nodup.of_map _ state.distinct).filter _
      · exact List.nodup_nil

/-- No two children of the state directory select the same file. -/
theorem nodup_stateEntries : ((stateEntries state includeDerivatives).map Prod.fst).Nodup := by
  have nodup : (stateEntries state includeDerivatives).Nodup := by
    rw [stateEntries, (List.perm_insertionSort _ _).nodup_iff, List.nodup_flatMap]
    refine ⟨fun child _ => nodup_childEntries, ?_⟩
    refine ((List.Nodup.of_map _ state.distinct).filter _).pairwise_of_forall_ne ?_
    intro child isChild other isOther different entry inFirst inSecond
    obtain ⟨isChild, single⟩ := List.mem_filter.mp isChild
    obtain ⟨isOther, otherSingle⟩ := List.mem_filter.mp isOther
    have heads := (isSelected_of_childEntries isChild (of_decide_eq_true single) inFirst).2
    have otherHeads :=
      (isSelected_of_childEntries isOther (of_decide_eq_true otherSingle) inSecond).2
    obtain ⟨name, isName⟩ := List.length_eq_one_iff.mp (of_decide_eq_true single)
    obtain ⟨otherName, isOtherName⟩ := List.length_eq_one_iff.mp (of_decide_eq_true otherSingle)
    rw [heads, isName, isOtherName] at otherHeads
    obtain rfl := Option.some.inj otherHeads
    refine different (state.eq_of_path isChild isOther ?_)
    apply PurePath.ext
    · rw [(state.relative child isChild).1, (state.relative other isOther).1]
    · rw [isName, isOtherName]
  refine nodup.map_on fun entry isEntry other isOther same => ?_
  exact state.eq_of_path (isSelected_of_mem isEntry).mem (isSelected_of_mem isOther).mem same

theorem nodup_texts :
    ((stateEntries state includeDerivatives).map fun entry => entry.1.text).Nodup := by
  have mapped := (@nodup_stateEntries state includeDerivatives).map PurePath.text_injective
  rwa [List.map_map] at mapped

/-! ## Names of selected files -/

theorem components_text (path : PurePath) : components path.text = path.parts.reverse := by
  rw [components, PurePath.ofText_text]

namespace IsSelected

variable (selected : IsSelected state entry)

include selected

theorem relative : entry.1.root = [] ∧ entry.1.parts ≠ [] := state.relative entry selected.mem

theorem isSafe : IsSafe entry.1.text := by
  obtain ⟨relative, -⟩ := selected.relative
  have allParts : entry.1.allParts = entry.1.parts := if_pos relative
  constructor <;> rw [PurePath.ofText_text]
  · rw [PurePath.isAbsolute, relative]
    rfl
  · rw [allParts]
    exact fun isPart => (state.areNames entry selected.mem _ isPart).noParent rfl
  · rw [allParts]
    obtain ⟨first, isFirst, included⟩ := selected.first
    rintro ⟨other, isOther, excluded⟩
    obtain rfl := Option.some.inj (isFirst.symm.trans isOther)
    exact included excluded

theorem joined : entry.1.text.joined = entry.1.text := by
  obtain ⟨relative, notEmpty⟩ := selected.relative
  apply PyStr.joined_of_not_high
  rw [PurePath.text, if_neg fun both => notEmpty both.2, relative, List.nil_append]
  exact forall_mem_intercalate (by decide) fun part isPart =>
    (state.areNames entry selected.mem part isPart).noPair

theorem text_ne_manifestName : entry.1.text ≠ manifestName := by
  intro same
  have isPath : entry.1 = PurePath.ofText manifestName := by rw [← same, PurePath.ofText_text]
  have single : (PurePath.ofText manifestName).parts.length = 1 := by decide
  have notListed : (PurePath.ofText manifestName).name ∉ includeFiles := by decide
  exact notListed (isPath ▸ selected.listed (isPath ▸ single))

theorem isValidEntry (lawful : IsLawful platform) : IsValidEntry (entryOf platform entry) where
  named := by
    intro empty
    have isPath : entry.1 = PurePath.ofText [] := by
      rw [← PurePath.ofText_text entry.1]
      exact congrArg PurePath.ofText empty
    exact selected.relative.2 (by rw [isPath]; rfl)
  other := selected.text_ne_manifestName
  length := lawful.digestLength _
  hex := lawful.digestHex _
  isSafe := selected.isSafe

end IsSelected

theorem joined_of_hex {digest : PyStr} (hex : digest.all isHexDigit = true) :
    digest.joined = digest := by
  apply PyStr.joined_of_not_high
  intro point isPoint
  have isDigit := of_decide_eq_true (List.all_eq_true.mp hex point isPoint)
  have notHigh : ∀ point ∈ PyStr.ofString "0123456789abcdef", isHighSurrogate point = false := by
    intro point isPoint
    obtain ⟨char, -, rfl⟩ := List.mem_map.mp isPoint
    exact (isScalar_ofChar char).not_high
  exact notHigh point isDigit

/-- What holds an entry is a directory. -/
theorem StateDirectory.isDir_of_prefix {parts : List PyStr} {size : ℕ} :
    ∀ {entry}, entry ∈ state.nodes → entry.1.parts.length = size → parts <+: entry.1.parts →
      parts ≠ [] → parts ≠ entry.1.parts →
      ∃ holder ∈ state.nodes, holder.1.parts = parts ∧ holder.2.isDir = true := by
  induction size with
  | zero =>
    intro entry isNode isSize
    exact absurd (List.length_eq_zero_iff.mp isSize) (state.relative entry isNode).2
  | succ size ih =>
    intro entry isNode isSize isPrefix notEmpty different
    have shorter : parts.length < entry.1.parts.length :=
      lt_of_le_of_ne isPrefix.length_le fun same => different (isPrefix.eq_of_length same)
    have deep : entry.1.parts.length ≠ 1 := by
      have positive := List.length_pos_iff.mpr notEmpty
      omega
    have isHeld : ∃ node : StateNode, (entry.1.parent, node) ∈ state.nodes ∧ node.isDir = true := by
      cases state.held entry isNode deep with
      | inl isDirectory => exact ⟨_, isDirectory, rfl⟩
      | inr isLink => exact ⟨_, isLink.2, rfl⟩
    obtain ⟨node, isParent, isDir⟩ := isHeld
    by_cases same : parts = entry.1.parts.dropLast
    · exact ⟨_, isParent, same.symm, isDir⟩
    · have lengths : entry.1.parts.dropLast.length = size := by
        rw [List.length_dropLast, isSize]
        rfl
      have above : parts <+: entry.1.parts.dropLast :=
        List.prefix_of_prefix_length_le isPrefix (List.dropLast_prefix _) (by omega)
      exact ih isParent lengths above notEmpty same

theorem StateNode.isDir_of_isFile (isFile : node.isFile = true) : node.isDir = false := by
  match node with
  | .file .. => rfl
  | .symlink (.file _) => rfl
  | .symlink .directory => cases isFile
  | .symlink .other => cases isFile
  | .directory => cases isFile
  | .other => cases isFile

/-- No selected file stands above another one. -/
theorem IsSelected.eq_of_prefix (selected : IsSelected state entry)
    (otherSelected : IsSelected state other)
    (isPrefix : entry.1.parts <+: other.1.parts) : entry = other := by
  have sameRoot : ∀ holder ∈ state.nodes, holder.1.parts = entry.1.parts → holder = entry := by
    intro holder isHolder same
    refine state.eq_of_path isHolder selected.mem (PurePath.ext ?_ same)
    rw [(state.relative holder isHolder).1, selected.relative.1]
  by_contra different
  have partsDiffer : entry.1.parts ≠ other.1.parts := fun same =>
    different (sameRoot other otherSelected.mem same.symm).symm
  obtain ⟨holder, isHolder, sameParts, isDir⟩ :=
    state.isDir_of_prefix otherSelected.mem rfl isPrefix selected.relative.2 partsDiffer
  obtain rfl := sameRoot holder isHolder sameParts
  rw [StateNode.isDir_of_isFile selected.isFile] at isDir
  cases isDir

/-! ## Kinds of members -/

/-- The second file is a further name of the first one, as `tarfile` can tell. -/
def SecondName : StateNode → StateNode → Prop
  | .file inode _ _, .file other links _ => inode = other ∧ inode.1 ≠ 0 ∧ 1 < links
  | _, _ => False

theorem addMember_kind_iff {name : PyStr} : (addMember inodes name node).1.kind = .regular ↔
      ∃ inode links content, node = .file inode links content ∧
        ¬ (1 < links ∧ ∃ stored ∈ inodes.read inode, stored ≠ name) := by
  cases node with
  | file inode links content =>
    rw [addMember]
    split
    · rename_i linked
      refine iff_of_false (by simp) ?_
      rintro ⟨inode', links', content', same, notLinked⟩
      cases same
      exact notLinked linked
    · rename_i notLinked
      exact iff_of_true rfl ⟨inode, links, content, rfl, notLinked⟩
  | symlink target => exact iff_of_false (by simp [addMember]) (by simp)
  | directory => exact iff_of_false (by simp [addMember]) (by simp)
  | other => exact iff_of_false (by simp [addMember]) (by simp)

/-- What is stored as a file under another name can only be stored as a link under this one. -/
theorem addMember_next {name next : PyStr} {first second : StateNode} (different : name ≠ next)
    (isRegular : (addMember inodes name first).1.kind = .regular) :
    (addMember (addMember inodes name first).2 next second).1.kind = .regular ↔
      (addMember inodes next second).1.kind = .regular ∧ ¬ SecondName first second := by
  obtain ⟨inode, links, content, rfl, notLinked⟩ := addMember_kind_iff.mp isRegular
  have nextInodes : (addMember inodes name (.file inode links content)).2 =
      if inode.1 = 0 then inodes else inodes.write inode name := by
    rw [addMember, if_neg notLinked]
  rw [nextInodes]
  match second with
  | .symlink _ => exact iff_of_false (by simp [addMember]) (by simp [addMember])
  | .directory => exact iff_of_false (by simp [addMember]) (by simp [addMember])
  | .other => exact iff_of_false (by simp [addMember]) (by simp [addMember])
  | .file inode' links' content' =>
    have kinds : ∀ inodes : Directory (ℕ × ℕ) PyStr,
        (addMember inodes next (.file inode' links' content')).1.kind = .regular ↔
          ¬ (1 < links' ∧ ∃ stored ∈ inodes.read inode', stored ≠ next) := by
      intro inodes
      rw [addMember_kind_iff]
      constructor
      · rintro ⟨_, _, _, same, notLinked⟩
        cases same
        exact notLinked
      · exact fun notLinked => ⟨_, _, _, rfl, notLinked⟩
    rw [kinds, kinds, SecondName]
    by_cases unknown : inode.1 = 0
    · simp [unknown]
    · rw [if_neg unknown]
      by_cases same : inode = inode'
      · subst same
        rw [Directory.read_write_self]
        simp only [Option.mem_def, Option.some.injEq, exists_eq_left']
        tauto
      · rw [Directory.read_write_of_ne (Ne.symm same)]
        simp [same]

def regularMember (entry : PurePath × StateNode) : Member where
  name := entry.1.text
  kind := .regular
  content := some entry.2.readBytes

theorem addMember_of_regular
    (isRegular : (addMember inodes entry.1.text entry.2).1.kind = .regular) :
    (addMember inodes entry.1.text entry.2).1 = regularMember entry := by
  obtain ⟨path, node⟩ := entry
  obtain ⟨inode, links, content, rfl, notLinked⟩ := addMember_kind_iff.mp isRegular
  rw [addMember, if_neg notLinked]
  rfl

theorem addMembers_cons :
    addMembers inodes (entry :: entries) = (addMember inodes entry.1.text entry.2).1 ::
      addMembers (addMember inodes entry.1.text entry.2).2 entries := rfl

theorem names_addMembers :
    (addMembers inodes entries).map Member.name = entries.map fun entry => entry.1.text := by
  induction entries generalizing inodes with
  | nil => rfl
  | cons entry entries ih =>
    have named : (addMember inodes entry.1.text entry.2).1.name = entry.1.text := by
      cases entry.2 with
      | file inode links content =>
        rw [addMember]
        split <;> rfl
      | _ => rfl
    rw [addMembers_cons, List.map_cons, List.map_cons, ih, named]

/-- All members are files exactly when no entry is a link and none is a further name of an earlier
one. -/
theorem addMembers_regular_iff (distinct : (entries.map fun entry => entry.1.text).Nodup) :
    (∀ member ∈ addMembers inodes entries, member.kind = .regular) ↔
      (∀ entry ∈ entries, (addMember inodes entry.1.text entry.2).1.kind = .regular) ∧
        entries.Pairwise fun first second => ¬ SecondName first.2 second.2 := by
  induction entries generalizing inodes with
  | nil => simp [addMembers]
  | cons entry entries ih =>
    obtain ⟨path, node⟩ := entry
    rw [List.map_cons, List.nodup_cons] at distinct
    rw [addMembers_cons, List.forall_mem_cons, List.forall_mem_cons, List.pairwise_cons,
      ih distinct.2]
    have next : (addMember inodes path.text node).1.kind = .regular → ∀ entry ∈ entries,
        ((addMember (addMember inodes path.text node).2 entry.1.text entry.2).1.kind = .regular ↔
          (addMember inodes entry.1.text entry.2).1.kind = .regular ∧
            ¬ SecondName node entry.2) := by
      intro isRegular entry isEntry
      refine addMember_next (fun same => distinct.1 ?_) isRegular
      exact List.mem_map.mpr ⟨entry, isEntry, same.symm⟩
    constructor
    · rintro ⟨isRegular, later, apart⟩
      have each := fun entry isEntry => (next isRegular entry isEntry).mp (later entry isEntry)
      exact ⟨⟨isRegular, fun entry isEntry => (each entry isEntry).1⟩,
        fun entry isEntry => (each entry isEntry).2, apart⟩
    · rintro ⟨⟨isRegular, later⟩, notSecond, apart⟩
      exact ⟨isRegular, fun entry isEntry => (next isRegular entry isEntry).mpr
        ⟨later entry isEntry, notSecond entry isEntry⟩, apart⟩

theorem addMembers_of_regular
    (areRegular : ∀ member ∈ addMembers inodes entries, member.kind = .regular) :
    addMembers inodes entries = entries.map regularMember := by
  induction entries generalizing inodes with
  | nil => rfl
  | cons entry entries ih =>
    rw [addMembers_cons, List.forall_mem_cons] at areRegular
    rw [addMembers_cons, List.map_cons, ih areRegular.2, addMember_of_regular areRegular.1]

/-! ## Restoring it -/

variable {stateRoot archivePath : PurePath} {workersPaused : Bool} {schemaVersion : ℤ}
variable {result : BackupResult} {members : List Member} {root : Place} {files : Files}

theorem createStateBackup_eq_ok (created : createStateBackup platform stateRoot archivePath state
      workersPaused includeDerivatives schemaVersion = .ok (result, members)) :
    ∃ manifest, manifestBytes platform schemaVersion
        ((stateEntries state includeDerivatives).map (entryOf platform)) = .ok manifest ∧
      members = manifestMember manifest ::
        addMembers [] (stateEntries state includeDerivatives) := by
  unfold createStateBackup at created
  split at created
  · cases created
  split at created
  · cases created
  obtain ⟨manifest, isManifest, created⟩ := bind_eq_ok created
  cases written : manifestBytes platform schemaVersion
      ((stateEntries state includeDerivatives).map (entryOf platform)) with
  | error error =>
    rw [written] at isManifest
    cases isManifest
  | ok bytes =>
    rw [written] at isManifest
    obtain rfl := Except.ok.inj isManifest
    exact ⟨bytes, rfl, (Prod.mk.inj (Except.ok.inj created)).2.symm⟩

theorem checkRoot_of_empty (isRoot : files.read root = some .directory)
    (empty : HoldsNothing files root) : checkRoot root files = .ok () := by
  rw [checkRoot, isRoot]
  refine if_neg fun hasChild => ?_
  obtain ⟨⟨place, node⟩, isEntry, isChild⟩ := List.any_eq_true.mp hasChild
  obtain ⟨notTop, isAbove⟩ := of_decide_eq_true isChild
  cases place with
  | nil => exact notTop rfl
  | cons name above =>
    obtain rfl : above = root := isAbove
    exact Directory.read_eq_none_iff.mp (empty name []) _ isEntry rfl

theorem IsSelected.locate (selected : IsSelected state entry) :
    locate root entry.1.text = entry.1.parts.reverse ++ root := by
  rw [locate_of_isSafe selected.isSafe, components_text]

/-- Selected files are restored side by side. -/
theorem IsSelected.eq_of_suffix (selected : IsSelected state entry)
    (otherSelected : IsSelected state other)
    (isSuffix : Backup.locate root entry.1.text <:+ Backup.locate root other.1.text) : entry =
      other := by
  rw [selected.locate, otherSelected.locate] at isSuffix
  refine selected.eq_of_prefix otherSelected (List.reverse_suffix.mp ?_)
  obtain ⟨above, same⟩ := isSuffix
  rw [← List.append_assoc] at same
  exact ⟨above, List.append_cancel_right same⟩

theorem prepare_backup (lawful : IsLawful platform)
    (isRoot : files.read root = some .directory) (empty : HoldsNothing files root)
    {manifest : List UInt8}
    (written : manifestBytes platform schemaVersion
      ((stateEntries state includeDerivatives).map (entryOf platform)) = .ok manifest) :
    ∃ distinct, prepare platform schemaVersion root files
        (some (manifestMember manifest :: addMembers [] (stateEntries state includeDerivatives))) =
      .ok (⟨(stateEntries state includeDerivatives).map (entryOf platform), distinct⟩,
        addMembers [] (stateEntries state includeDerivatives)) := by
  have nodup := @nodup_texts state includeDerivatives
  have distinct : (((stateEntries state includeDerivatives).map (entryOf platform)).map
      ManifestEntry.path).Nodup := by
    rw [List.map_map]
    exact nodup
  refine ⟨distinct, ?_⟩
  apply prepare_written (checkRoot_of_empty isRoot empty) written
  · rw [List.forall_mem_map]
    exact fun entry isEntry =>
      ⟨(isSelected_of_mem isEntry).joined, joined_of_hex (lawful.digestHex _)⟩
  · intro member isMember
    have isName := List.mem_map_of_mem (f := Member.name) isMember
    rw [names_addMembers] at isName
    obtain ⟨entry, isEntry, sameName⟩ := List.mem_map.mp isName
    exact sameName ▸ (isSelected_of_mem isEntry).text_ne_manifestName
  · exact lawful.toInt _
  · exact le_refl _
  · rw [List.forall_mem_map]
    exact fun entry isEntry => (isSelected_of_mem isEntry).isValidEntry lawful
  · rw [names_addMembers]
    exact nodup

/-- The restore returns, and brings back what could be read at the path of every entry. -/
structure RestoresBackup (root : Place) (entries : List (PurePath × StateNode))
    (outcome : Except BackupError (List PyStr) × Files) : Prop where
  returned : ∃ names, outcome.1 = .ok names
  recreated : ∀ entry ∈ entries,
    outcome.2.read (locate root entry.1.text) = some (.file entry.2.readBytes)

section

variable {entries : List (PurePath × StateNode)}
variable {distinct : ((entries.map (entryOf platform)).map ManifestEntry.path).Nodup}

theorem checks_regularMember (selected : IsSelected state entry) (isEntry : entry ∈ entries) :
    Checks platform ⟨entries.map (entryOf platform), distinct⟩ (regularMember entry)
      entry.2.readBytes := by
  have isExpected : entryOf platform entry ∈
      (⟨entries.map (entryOf platform), distinct⟩ : ManifestEntries).entries :=
    List.mem_map_of_mem isEntry
  exact ⟨rfl, selected.isSafe, rfl, entryOf platform entry, ManifestEntries.find?_of_mem isExpected,
    rfl, rfl⟩

theorem restorable_regular (selected : ∀ entry ∈ entries, IsSelected state entry) :
    Restorable platform (fun _ => none) root ⟨entries.map (entryOf platform), distinct⟩
      (entries.map regularMember) := by
  have targets : (entries.map regularMember).map (fun member => locate root member.name) =
      entries.map fun entry => locate root entry.1.text := List.map_map
  constructor
  · rw [List.forall_mem_map]
    exact fun entry isEntry => ⟨_, checks_regularMember (selected entry isEntry) isEntry⟩
  · rw [List.forall_mem_map]
    intro entry isEntry
    rw [List.map_map]
    exact List.mem_map.mpr ⟨entry, isEntry, rfl⟩
  · rw [targets]
    constructor
    · rw [List.forall_mem_map]
      intro entry isEntry same
      rw [(selected entry isEntry).locate] at same
      have nothing := List.append_left_eq_self.mp same
      exact (selected entry isEntry).relative.2 (List.reverse_eq_nil_iff.mp nothing)
    · exact fun _ _ _ _ _ => rfl
    · rw [List.forall_mem_map]
      intro entry isEntry
      rw [List.forall_mem_map]
      intro other isOther isSuffix
      rw [(selected entry isEntry).eq_of_suffix (selected other isOther) isSuffix]
  · simp only [List.forall_mem_map]
    intro entry isEntry other isOther same
    have isSuffix : locate root entry.1.text <:+ locate root other.1.text := by
      rw [show locate root entry.1.text = locate root other.1.text from same]
    rw [(selected entry isEntry).eq_of_suffix (selected other isOther) isSuffix]
    exact ⟨rfl, rfl⟩

/-- Files that are all stored as files come back with their contents. -/
theorem recreated_of_ran (tree : IsTree files) (isRoot : files.read root = some .directory)
    (selected : ∀ entry ∈ entries, IsSelected state entry)
    (ran : (restoreMembers platform (fun _ => none) ⟨entries.map (entryOf platform), distinct⟩ root
      files (entries.map regularMember)).1 = .ok ()) (isEntry : entry ∈ entries) :
    (restoreMembers platform (fun _ => none) ⟨entries.map (entryOf platform), distinct⟩ root files
      (entries.map regularMember)).2.read (locate root entry.1.text) =
        some (.file entry.2.readBytes) := by
  obtain ⟨-, -, member, isMember, content, checks, located, written⟩ :=
    restoreMembers_eq_ok tree isRoot ran (regularMember entry) (List.mem_map_of_mem isEntry)
  obtain ⟨other, isOther, rfl⟩ := List.mem_map.mp isMember
  have isSuffix : locate root other.1.text <:+ locate root entry.1.text := by
    rw [show locate root other.1.text = locate root entry.1.text from located]
  obtain rfl := (selected other isOther).eq_of_suffix (selected entry isEntry) isSuffix
  obtain rfl := Option.some.inj checks.isContent
  exact written

end

theorem areRegular_iff : (∀ member ∈ addMembers [] (stateEntries state includeDerivatives),
      member.kind = .regular) ↔
    (∀ entry ∈ stateEntries state includeDerivatives, ∀ target, entry.2 ≠ .symlink target) ∧
      (stateEntries state includeDerivatives).Pairwise fun first second =>
        ¬ SecondName first.2 second.2 := by
  rw [addMembers_regular_iff nodup_texts]
  refine and_congr_left fun _ => forall₂_congr fun entry isEntry => ?_
  have isFile := (isSelected_of_mem isEntry).isFile
  rw [addMember_kind_iff]
  constructor
  · rintro ⟨inode, links, content, same, -⟩ target isLink
    cases same.symm.trans isLink
  · intro noLink
    obtain ⟨path, node⟩ := entry
    match node with
    | .file inode links content => exact ⟨inode, links, content, rfl, by simp⟩
    | .symlink target => exact absurd rfl (noLink target)
    | .directory => cases isFile
    | .other => cases isFile

section

variable (lawful : IsLawful platform) (tree : FileTree)
variable (isRoot : tree.files.read root = some .directory) (empty : HoldsNothing tree.files root)
variable (created : createStateBackup platform stateRoot archivePath state workersPaused
  includeDerivatives schemaVersion = .ok (result, members))

include isRoot

theorem mkdir_emptyRoot : mkdir (fun _ => none) tree.files root = (.ok (), tree.files) := by
  have rootAllowed : RootAllowed (fun _ => none) root := .inr (by simp)
  have isOk := (mkdir_eq_ok_iff tree.isTree).mpr (rootAllowed.makeable isRoot)
  exact Prod.ext isOk (mkdir_of_read tree.isTree isRoot)

include lawful empty created

/-- The restore refuses every member that is not a file. -/
theorem areRegular_of_returned {names : List PyStr}
    (returned : (restoreStateBackup platform (fun _ => none) schemaVersion root tree.files
      (some members)).1 = .ok names) :
    ∀ member ∈ addMembers [] (stateEntries state includeDerivatives), member.kind = .regular := by
  obtain ⟨manifest, written, rfl⟩ := createStateBackup_eq_ok created
  obtain ⟨distinct, prepared⟩ := prepare_backup lawful isRoot empty written
  have isMade := mkdir_emptyRoot tree isRoot
  intro member isMember
  rcases ran : restoreMembers platform (fun _ => none) _ root tree.files
    (addMembers [] (stateEntries state includeDerivatives)) with ⟨error | _, after⟩
  · rw [restoreStateBackup_of_failed prepared isMade ran] at returned
    cases returned
  · have stored := restoreMembers_eq_ok tree.isTree isRoot (by rw [ran]) member isMember
    obtain ⟨⟨content, checks⟩, -⟩ := stored
    exact checks.isRegular

/-- Every file that is inside the directory in the end is that of an entry. -/
theorem exists_entry_of_restored {names : List PyStr} {place : Place} {content : List UInt8}
    (returned : (restoreStateBackup platform (fun _ => none) schemaVersion root tree.files
      (some members)).1 = .ok names) (inside : Inside root place)
    (found : (restoreStateBackup platform (fun _ => none) schemaVersion root tree.files
      (some members)).2.read place = some (.file content)) :
    ∃ entry ∈ stateEntries state includeDerivatives, locate root entry.1.text = place := by
  obtain ⟨manifest, written, rfl⟩ := createStateBackup_eq_ok created
  obtain ⟨distinct, prepared⟩ := prepare_backup lawful isRoot empty written
  have isMade := mkdir_emptyRoot tree isRoot
  have origin : Origin platform ⟨_, distinct⟩ root
      (addMembers [] (stateEntries state includeDerivatives)) (tree.files.read place)
      ((restoreMembers platform (fun _ => none) ⟨_, distinct⟩ root tree.files
        (addMembers [] (stateEntries state includeDerivatives))).2.read place) place :=
    restoreMembers_origin tree.isTree isRoot place
  rcases ran : restoreMembers platform (fun _ => none) ⟨_, distinct⟩ root tree.files
    (addMembers [] (stateEntries state includeDerivatives)) with ⟨error | _, after⟩
  · rw [restoreStateBackup_of_failed prepared isMade ran] at returned
    cases returned
  rw [restoreStateBackup_of_ran prepared isMade ran] at returned found
  have isAfter : after.read place = some (.file content) := by
    split at found
    · exact found
    · exact found
  rw [ran] at origin
  cases origin with
  | kept same =>
    obtain ⟨name, names, rfl⟩ := inside.exists_names
    cases (empty name names).symm.trans (same.symm.trans isAfter)
  | directory _ made => cases made.symm.trans isAfter
  | member member isMember _ _ located _ =>
    have isName := List.mem_map_of_mem (f := Member.name) isMember
    rw [names_addMembers] at isName
    obtain ⟨entry, isEntry, sameName⟩ := List.mem_map.mp isName
    exact ⟨entry, isEntry, sameName ▸ located⟩

theorem restoresBackup_of_areRegular (areRegular : ∀ member ∈
      addMembers [] (stateEntries state includeDerivatives), member.kind = .regular) :
    RestoresBackup root (stateEntries state includeDerivatives)
      (restoreStateBackup platform (fun _ => none) schemaVersion root tree.files
        (some members)) := by
  obtain ⟨manifest, written, rfl⟩ := createStateBackup_eq_ok created
  obtain ⟨distinct, prepared⟩ := prepare_backup lawful isRoot empty written
  have isMade := mkdir_emptyRoot tree isRoot
  have selected : ∀ entry ∈ stateEntries state includeDerivatives, IsSelected state entry :=
    fun entry => isSelected_of_mem
  have rootAllowed : RootAllowed (fun _ => none) root := .inr (by simp)
  rw [addMembers_of_regular areRegular] at prepared ⊢
  have restorable : Restorable platform (fun _ => none) root ⟨_, distinct⟩ _ :=
    restorable_regular selected
  have isRan := restoreMembers_of_storable tree.isTree restorable.storable restorable.checked
    isRoot rootAllowed empty.laid (List.Subset.refl _)
  have recreated := fun (entry : PurePath × StateNode) isEntry =>
    @recreated_of_ran platform state entry root tree.files _ distinct tree.isTree isRoot selected
      isRan isEntry
  rcases ran : restoreMembers platform (fun _ => none) ⟨_, distinct⟩ root tree.files
    ((stateEntries state includeDerivatives).map regularMember) with ⟨_, after⟩
  rw [ran] at isRan recreated
  obtain rfl : _ = Except.ok () := isRan
  rw [restoreStateBackup_of_ran prepared isMade ran, if_pos restorable.present]
  exact ⟨⟨_, rfl⟩, recreated⟩

end

/-- A backup restores into an empty directory exactly when every selected file is stored as a file.
-/
theorem restoresBackup_iff (lawful : IsLawful platform) (tree : FileTree)
    (isRoot : tree.files.read root = some .directory) (empty : HoldsNothing tree.files root)
    (created : createStateBackup platform stateRoot archivePath state workersPaused
      includeDerivatives schemaVersion = .ok (result, members)) :
    RestoresBackup root (stateEntries state includeDerivatives)
      (restoreStateBackup platform (fun _ => none) schemaVersion root tree.files (some members)) ↔
      (∀ entry ∈ stateEntries state includeDerivatives, ∀ target, entry.2 ≠ .symlink target) ∧
        (stateEntries state includeDerivatives).Pairwise fun first second =>
          ¬ SecondName first.2 second.2 := by
  rw [← areRegular_iff]
  constructor
  · rintro ⟨⟨names, returned⟩, -⟩
    exact areRegular_of_returned lawful tree isRoot empty created returned
  · exact restoresBackup_of_areRegular lawful tree isRoot empty created

/-! ## A checkpoint behind a link -/

theorem isFileName_ofString {text : String} (noParent : PyStr.ofString text ≠ .ofString "..") :
    IsFileName (.ofString text) := by
  refine ⟨noParent, fun point isPoint => ?_⟩
  obtain ⟨char, -, rfl⟩ := List.mem_map.mp isPoint
  exact (isScalar_ofChar char).not_high

def settingsPath : PurePath := .ofText (.ofString "settings.json")

def checkpointsPath : PurePath := .ofText (.ofString "checkpoints")

def latestPath : PurePath := .ofText (.ofString "checkpoints/latest")

/-- Settings and one checkpoint, both empty. -/
def sampleState (latest : StateNode) : StateDirectory where
  nodes := [(settingsPath, .file (1, 1) 1 []), (checkpointsPath, .directory), (latestPath, latest)]
  relative := by
    simp only [List.forall_mem_cons]
    exact ⟨by decide, by decide, by decide, nofun⟩
  areNames := by
    have parts : settingsPath.parts = [.ofString "settings.json"] ∧
        checkpointsPath.parts = [.ofString "checkpoints"] ∧
        latestPath.parts = ["checkpoints", "latest"].map PyStr.ofString := by decide
    simp only [List.forall_mem_cons, parts.1, parts.2.1, parts.2.2, List.map_cons]
    exact ⟨⟨isFileName_ofString (by decide), nofun⟩, ⟨isFileName_ofString (by decide), nofun⟩,
      ⟨isFileName_ofString (by decide), isFileName_ofString (by decide), nofun⟩, nofun⟩
  distinct := by
    have distinct : [settingsPath, checkpointsPath, latestPath].Nodup := by decide
    exact distinct
  held := by
    have single : settingsPath.parts.length = 1 ∧ checkpointsPath.parts.length = 1 ∧
        latestPath.parent = checkpointsPath := by decide
    simp only [List.forall_mem_cons]
    refine ⟨fun deep => absurd single.1 deep, fun deep => absurd single.2.1 deep, fun _ => ?_,
      nofun⟩
    rw [single.2.2]
    exact .inl (by simp)

theorem emptyPlatform_isLawful : IsLawful emptyPlatform where
  toInt _ := rfl
  digestLength _ := rfl
  digestHex _ := by
    have isHex : emptyDigest.all isHexDigit = true := by decide
    exact isHex

/-- There is a backup of the sample, whatever its checkpoint is. -/
theorem exists_sampleBackup (latest : StateNode)
    (isSome : (createStateBackup emptyPlatform (.ofText (.ofString "/state"))
      (.ofText (.ofString "/backup.tar")) (sampleState latest) true false 7).toOption.isSome =
        true) :
    ∃ result members, createStateBackup emptyPlatform (.ofText (.ofString "/state"))
      (.ofText (.ofString "/backup.tar")) (sampleState latest) true false 7 =
        .ok (result, members) := by
  obtain ⟨⟨result, members⟩, isResult⟩ := Option.isSome_iff_exists.mp isSome
  exact ⟨result, members, eq_ok_of_toOption isResult⟩

theorem emptyDisk_holdsNothing : HoldsNothing emptyDisk.files [] := fun _ _ => rfl

/-- With a checkpoint that is a file of its own everything is restored. -/
theorem sampleState_restoresBackup : ∃ result members,
    createStateBackup emptyPlatform (.ofText (.ofString "/state"))
      (.ofText (.ofString "/backup.tar"))
      (sampleState (.file (2, 1) 1 [])) true false 7 = .ok (result, members) ∧
    RestoresBackup [] (stateEntries (sampleState (.file (2, 1) 1 [])) false)
      (restoreStateBackup emptyPlatform (fun _ => none) 7 [] emptyDisk.files (some members)) := by
  obtain ⟨result, members, created⟩ := exists_sampleBackup (.file (2, 1) 1 []) (by decide)
  have isEntries : stateEntries (sampleState (.file (2, 1) 1 [])) false =
      [(latestPath, .file (2, 1) 1 []), (settingsPath, .file (1, 1) 1 [])] := by decide
  refine ⟨result, members, created, ?_⟩
  refine (restoresBackup_iff emptyPlatform_isLawful emptyDisk rfl emptyDisk_holdsNothing
    created).mpr ?_
  rw [isEntries]
  simp [SecondName]

/-- The link is stored as a link, and the restore refuses it. -/
theorem linkedCheckpoint_not_restoresBackup : ∃ result members,
    createStateBackup emptyPlatform (.ofText (.ofString "/state"))
      (.ofText (.ofString "/backup.tar"))
      (sampleState (.symlink (.file []))) true false 7 = .ok (result, members) ∧
    ¬ RestoresBackup [] (stateEntries (sampleState (.symlink (.file []))) false)
      (restoreStateBackup emptyPlatform (fun _ => none) 7 [] emptyDisk.files (some members)) := by
  obtain ⟨result, members, created⟩ := exists_sampleBackup (.symlink (.file [])) (by decide)
  have isEntry : (latestPath, .symlink (.file [])) ∈
      stateEntries (sampleState (.symlink (.file []))) false := by decide
  refine ⟨result, members, created, fun restores => ?_⟩
  obtain ⟨names, returned⟩ := restores.returned
  have areRegular := areRegular_of_returned emptyPlatform_isLawful emptyDisk rfl
    emptyDisk_holdsNothing created returned
  exact (areRegular_iff.mp areRegular).1 _ isEntry _ rfl

end Reperio.Backup
