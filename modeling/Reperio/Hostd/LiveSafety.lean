import Reperio.Hostd.Mountinfo

/-!
# When a live inspection fails closed

A mount of the source is missed when its path is not accepted or white space tears
its line in the mount table, or when a directory or a device file on the way to its
device cannot be read. The inspection fails closed exactly if something else speaks
against the source then.
-/

namespace Reperio.Hostd

open Python

/-! ## The kernel -/

/-- A host with its mount table and what sysfs says, of which anything may fail to be read. -/
structure KernelHost where
  strings : Strings
  table : List KernelMount
  tableIsReadable : Bool
  sysfs : Sysfs
  sysfsIsDirectory : Bool

def KernelHost.live (host : KernelHost) : LiveHost where
  strings := host.strings
  mountinfo := if host.tableIsReadable then some (host.table.flatMap KernelMount.line) else none
  sysfs := host.sysfs
  sysfsIsDirectory := host.sysfsIsDirectory

/-- Sysfs says that a device is held by another, whether that can be read or not. -/
def SaysHeld (sysfs : Sysfs) (parent child : PyStr) : Prop :=
  ∃ directory, sysfs.lookup parent = some directory ∧ ∃ entry ∈ directory.entries,
    entry.majorMinor = child ∧ validMajorMinor child = true

/-- A source device, or one that holds it as sysfs says. -/
def Backed (sysfs : Sysfs) (device : PyDict) (node : PyStr) : Prop :=
  ∃ first ∈ sourceMajorMinors device, Relation.ReflTransGen (SaysHeld sysfs) first node

/-- Some mount of the source is read-write. -/
def MountedReadWrite (host : KernelHost) (device : PyDict) : Prop :=
  ∃ mount ∈ host.table, mount.isReadOnly = false ∧ Backed host.sysfs device mount.majorMinor

/-! ## What is read -/

/-- The entry of a holder can be read, and so can its directory. -/
def ReadEntry (sysfs : Sysfs) (parent : PyStr) (entry : HolderEntry) : Prop :=
  ∃ directory, sysfs.lookup parent = some directory ∧ directory.isReadable = true ∧
    entry ∈ directory.entries ∧ entry.isReadable = true ∧ validMajorMinor entry.majorMinor = true

/-- A source device, or one that is found through entries that can be read. -/
def Found (sysfs : Sysfs) (device : PyDict) (node : PyStr) : Prop :=
  ∃ first ∈ sourceMajorMinors device, Relation.ReflTransGen
    (fun parent child => ∃ entry, ReadEntry sysfs parent entry ∧ entry.majorMinor = child) first
      node

theorem childOf_holderRecord (entry : HolderEntry) :
    childOf (holderRecord entry) = entry.majorMinor := by
  rw [childOf, TextDict.get, TextDict.get?, holderRecord, List.lookup_cons_self]
  rfl

variable {sysfs : Sysfs} {device : PyDict} {node : PyStr}

theorem mem_next_readableGraph {parent : PyStr} {record : TextDict} :
    record ∈ (readableGraph sysfs).next parent ↔
      ∃ entry, ReadEntry sysfs parent entry ∧ holderRecord entry = record := by
  have next : (readableGraph sysfs).next parent =
      ((sysfs.lookup parent).map readDirectory).getD [] := by
    unfold readableGraph
    induction sysfs with
    | nil => rfl
    | cons item rest ih =>
      rw [List.map_cons, next_graphOf_cons, ih, List.lookup_cons]
      by_cases same : parent = item.1
      · simp [same]
      · have unequal : (parent == item.1) = false := beq_eq_false_iff_ne.mpr same
        simp [same, unequal]
  rw [next]
  unfold ReadEntry
  cases sysfs.lookup parent with
  | none => simp
  | some directory =>
    rw [Option.map_some, Option.getD_some, readDirectory]
    constructor
    · intro isRecord
      split at isRecord
      · rename_i readable
        rcases List.mem_map.mp isRecord with ⟨entry, isEntry, rfl⟩
        rcases List.mem_filter.mp isEntry with ⟨isEntry, both⟩
        rcases Bool.and_eq_true_iff.mp both with ⟨entryReadable, valid⟩
        exact ⟨entry, ⟨directory, rfl, readable, (List.mem_insertionSort _).mp isEntry,
          entryReadable, valid⟩, rfl⟩
      · cases isRecord
    · rintro ⟨entry, ⟨other, same, readable, isEntry, entryReadable, valid⟩, rfl⟩
      obtain rfl := Option.some.inj same
      rw [if_pos readable]
      refine List.mem_map_of_mem (List.mem_filter.mpr ⟨(List.mem_insertionSort _).mpr isEntry, ?_⟩)
      rw [entryReadable, valid]
      rfl

theorem reached_iff_found :
    FiniteGraph.Reached (readableGraph sysfs) childOf (sourceMajorMinors device) node ↔
      Found sysfs device node := by
  have steps : ∀ parent child,
      (∃ record ∈ (readableGraph sysfs).next parent, childOf record = child) ↔
        ∃ entry, ReadEntry sysfs parent entry ∧ entry.majorMinor = child := by
    intro parent child
    simp only [mem_next_readableGraph]
    constructor
    · rintro ⟨record, ⟨entry, isRead, rfl⟩, rfl⟩
      exact ⟨entry, isRead, (childOf_holderRecord entry).symm⟩
    · rintro ⟨entry, isRead, rfl⟩
      exact ⟨holderRecord entry, ⟨entry, isRead, rfl⟩, childOf_holderRecord entry⟩
  unfold FiniteGraph.Reached Found
  simp only [steps]

theorem validMajorMinor_of_found (found : Found sysfs device node) :
    validMajorMinor node = true := by
  rcases found with ⟨first, isSource, path⟩
  cases path with
  | refl => exact validMajorMinor_of_mem_source isSource
  | tail _ step =>
    rcases step with ⟨entry, ⟨_, _, _, _, _, valid⟩, rfl⟩
    exact valid

/-- What is recorded of the holders is what can be read on the way from the source. -/
theorem recorded_iff {parent : PyStr} {record : TextDict} :
    Recorded (some (readHolderGraph (sourceMajorMinors device) sysfs)) parent record ↔
      Found sysfs device parent ∧ ∃ entry, ReadEntry sysfs parent entry ∧
        holderRecord entry = record := by
  have visited := (@FiniteGraph.walk_spec _ _ _ (readableGraph sysfs) childOf
    (sourceMajorMinors device)).1
  unfold Recorded readHolderGraph
  rw [Option.getD_some]
  constructor
  · rintro ⟨⟨records, isItem, isRecord⟩, _⟩
    rcases List.mem_filterMap.mp isItem with ⟨other, isVisited, same⟩
    split at same
    · cases same
    · cases same
      exact ⟨reached_iff_found.mp ((visited parent).mp (List.mem_reverse.mp isVisited)),
        mem_next_readableGraph.mp isRecord⟩
  · rintro ⟨found, entry, isRead, rfl⟩
    have isRecord := mem_next_readableGraph.mpr ⟨entry, isRead, rfl⟩
    refine ⟨⟨_, List.mem_filterMap.mpr ⟨parent, ?_, if_neg (List.ne_nil_of_mem isRecord)⟩,
      isRecord⟩, validMajorMinor_of_found found, ?_⟩
    · exact List.mem_reverse.mpr ((visited parent).mpr (reached_iff_found.mpr found))
    · rw [childOf_holderRecord]
      rcases isRead with ⟨_, _, _, _, _, valid⟩
      exact valid

theorem related_iff_found :
    Related device (some (readHolderGraph (sourceMajorMinors device) sysfs)) node ↔
      Found sysfs device node := by
  constructor
  · rintro ⟨first, isSource, path⟩
    induction path with
    | refl => exact ⟨first, isSource, .refl⟩
    | tail _ step ih =>
      rcases step with ⟨record, isRecorded, rfl⟩
      rcases recorded_iff.mp isRecorded with ⟨_, entry, isRead, rfl⟩
      rcases ih with ⟨other, isOther, before⟩
      exact ⟨other, isOther, before.tail ⟨entry, isRead, (childOf_holderRecord entry).symm⟩⟩
  · rintro ⟨first, isSource, path⟩
    induction path with
    | refl => exact ⟨first, isSource, .refl⟩
    | @tail parent _ before step ih =>
      rcases step with ⟨entry, isRead, rfl⟩
      rcases ih with ⟨other, isOther, related⟩
      refine ⟨other, isOther, related.tail ⟨holderRecord entry, ?_, childOf_holderRecord entry⟩⟩
      exact recorded_iff.mpr ⟨⟨first, isSource, before⟩, entry, isRead, rfl⟩

/-! ## The inspection -/

/-- A mount of a device that is found is seen as a read-write one. -/
def ShowsReadWrite (host : KernelHost) (device : PyDict) : Prop :=
  ∃ mount ∈ host.table, ∃ node, mount.Seen node ∧ Found host.sysfs device node

/-- The names of the holders that are read begin as those of a device mapper or an array, and none
is there twice with different facts. -/
def FoundSupported (sysfs : Sysfs) (device : PyDict) : Prop :=
  ∀ parent, Found sysfs device parent → ∀ entry, ReadEntry sysfs parent entry →
    (entry.name.startsWith "dm-" = true ∨ entry.name.startsWith "md" = true) ∧
      ∀ other, ReadEntry sysfs parent other → other.majorMinor = entry.majorMinor →
        holderType other.name = holderType entry.name ∧
          safeName (safeName other.name) = safeName (safeName entry.name)

theorem holderType_mem_iff (name : PyStr) : safeType (holderType name) ∈ supportedHolderTypes ↔
    name.startsWith "dm-" = true ∨ name.startsWith "md" = true := by
  unfold holderType
  by_cases mapper : name.startsWith "dm-" = true
  · rw [if_pos mapper, eq_true mapper, true_or, iff_true]
    decide
  · by_cases array : name.startsWith "md" = true
    · rw [if_neg mapper, if_pos array, eq_true array, or_true, iff_true]
      decide
    · rw [if_neg mapper, if_neg array, or_iff_right mapper, iff_false_right array]
      decide

theorem safeType_holderType (name : PyStr) : safeType (holderType name) = holderType name := by
  unfold holderType
  split
  · decide
  · split
    · decide
    · decide

theorem holderOf_eq_iff {parent : PyStr} {first second : HolderEntry}
    (same : first.majorMinor = second.majorMinor) :
    holderOf parent (holderRecord first) = holderOf parent (holderRecord second) ↔
      holderType first.name = holderType second.name ∧
        safeName (safeName first.name) = safeName (safeName second.name) := by
  have facts : ∀ entry : HolderEntry, holderOf parent (holderRecord entry) =
      { majorMinor := entry.majorMinor, holderType := holderType entry.name,
        holderName := safeName (safeName entry.name), parentMajorMinor := parent } := by
    intro entry
    have isType : (holderRecord entry).get "holder_type" (.ofString "unsupported") =
        holderType entry.name := rfl
    have isName : (holderRecord entry).get "holder_name" entry.majorMinor = safeName entry.name :=
      rfl
    rw [holderOf, childOf_holderRecord, isType, isName, safeType_holderType]
  rw [facts, facts, Holder.mk.injEq, same]
  tauto

theorem holdersSupported_iff :
    HoldersSupported device (some (readHolderGraph (sourceMajorMinors device) sysfs)) ↔
      FoundSupported sysfs device := by
  unfold HoldersSupported FoundSupported
  constructor
  · intro supported parent found entry isRead
    have isRecorded := recorded_iff.mpr ⟨found, entry, isRead, rfl⟩
    rcases supported parent (related_iff_found.mpr found) _ isRecorded with ⟨isSupported, same⟩
    refine ⟨(holderType_mem_iff _).mp isSupported, fun other isOther sameNumber => ?_⟩
    refine (holderOf_eq_iff sameNumber).mp
      (same _ (recorded_iff.mpr ⟨found, other, isOther, rfl⟩) ?_)
    rw [childOf_holderRecord, childOf_holderRecord, sameNumber]
  · intro supported parent related record isRecorded
    rcases recorded_iff.mp isRecorded with ⟨found, entry, isRead, rfl⟩
    rcases supported parent found entry isRead with ⟨isSupported, same⟩
    refine ⟨(holderType_mem_iff _).mpr isSupported, fun other isOther sameChild => ?_⟩
    rcases recorded_iff.mp isOther with ⟨_, otherEntry, otherRead, rfl⟩
    rw [childOf_holderRecord, childOf_holderRecord] at sameChild
    exact (holderOf_eq_iff sameChild).mpr (same otherEntry otherRead sameChild)

theorem noneWritable_iff (strings : Strings) (table : List KernelMount) (sysfs : Sysfs)
    (device : PyDict) :
    NoneWritable strings device
        ((linesOf (table.flatMap KernelMount.line)).filterMap (mountRecord strings))
        (some (readHolderGraph (sourceMajorMinors device) sysfs)) ↔
      ∀ mount ∈ table, ∀ node, mount.Seen node → ¬ Found sysfs device node := by
  unfold NoneWritable
  constructor
  · intro none mount isMount node seen found
    rcases (@exists_readAs_iff strings _ _).mpr
      ⟨⟨mount, isMount, seen⟩, validMajorMinor_of_found found⟩
      with ⟨line, isLine, record, isRecord, shown, isShown, writable, rfl⟩
    exact none record (List.mem_filterMap.mpr ⟨line, isLine, isRecord⟩) shown isShown
      (related_iff_found.mpr found) writable
  · intro none record isRecord shown isShown related writable
    rcases List.mem_filterMap.mp isRecord with ⟨line, isLine, isRecord⟩
    rcases (exists_readAs_iff.mp ⟨line, isLine, record, isRecord, shown, isShown, writable, rfl⟩).1
      with ⟨mount, isMount, seen⟩
    exact none mount isMount _ seen (related_iff_found.mp related)

/-- What is needed for a source to be called safe. -/
theorem inspectLive_isSafe_iff (host : KernelHost) (device : PyDict) :
    (inspectLiveStorageState host.live device).safeForPreparation = true ↔
      host.tableIsReadable = true ∧ host.sysfsIsDirectory = true ∧ sourceMajorMinors device ≠ [] ∧
        ¬ShowsReadWrite host device ∧ FoundSupported host.sysfs device := by
  unfold inspectLiveStorageState LiveHost.missing
  cases readable : host.tableIsReadable with
  | false =>
    have unread : host.live.mountinfo = none := by
      rw [KernelHost.live, readable]
      rfl
    rw [unread]
    simp [readMountinfo]
  | true =>
    have isRead : host.live.mountinfo = some (host.table.flatMap KernelMount.line) := by
      rw [KernelHost.live, readable]
      rfl
    rw [isRead, readMountinfo]
    cases isDirectory : host.sysfsIsDirectory with
    | false =>
      have noDirectory : host.live.sysfsIsDirectory = false := isDirectory
      rw [noDirectory]
      simp
    | true =>
      have hasDirectory : host.live.sysfsIsDirectory = true := isDirectory
      rw [hasDirectory, if_pos (by rfl), isSafe_iff]
      dsimp only [KernelHost.live]
      rw [noneWritable_iff, holdersSupported_iff]
      have shows : (∀ mount ∈ host.table, ∀ node, mount.Seen node →
          ¬ Found host.sysfs device node) ↔ ¬ ShowsReadWrite host device := by
        rw [ShowsReadWrite]
        push Not
        rfl
      rw [shows]
      simp

/-- A source with a read-write mount is not called safe, exactly if whenever it has one, something
else speaks against it: the table or sysfs cannot be read, a mount of a device that is found is seen
as a read-write one, or a holder that is found is not supported. -/
theorem failsClosed_iff (host : KernelHost) (device : PyDict) : (MountedReadWrite host device →
      (inspectLiveStorageState host.live device).safeForPreparation = false) ↔
    (MountedReadWrite host device →
      host.tableIsReadable = false ∨ host.sysfsIsDirectory = false ∨ ShowsReadWrite host device ∨
        ¬FoundSupported host.sysfs device) := by
  refine imp_congr_right fun mounted => ?_
  have some : sourceMajorMinors device ≠ [] := by
    rcases mounted with ⟨_, _, _, first, isSource, _⟩
    exact List.ne_nil_of_mem isSource
  rw [← Bool.not_eq_true, inspectLive_isSafe_iff]
  simp only [ne_eq, some, not_false_eq_true, true_and]
  rw [← Bool.not_eq_true, ← Bool.not_eq_true]
  tauto

/-! ## A mount point with a newline -/

/-- The escape of the newline is undone, and then the path is refused. -/
def brokenMount : KernelMount where
  mountId := 36
  parentId := 25
  majorMinor := .ofString "8:17"
  valid := by decide
  root := .ofString "/"
  mountPoint := .ofString "/mnt/a\nb"
  isReadOnly := false
  fstype := .ofString "ext4"
  source := .ofString "/dev/sdb1"
  superOptions := .ofString "rw"

def brokenHost : KernelHost where
  strings := { shown := fun _ => [], lower := id }
  table := [brokenMount]
  tableIsReadable := true
  sysfs := []
  sysfsIsDirectory := true

theorem unbroken_brokenMount : brokenMount.Unbroken := by
  have whole : brokenMount.fields.all (fun field =>
      !field.isEmpty && field.all fun point => !point.isSpace) = true := by
    decide
  simpa [KernelMount.Unbroken] using whole

theorem live_inspection_misses :
    ¬∀ (host : KernelHost) (device : PyDict), MountedReadWrite host device →
      (inspectLiveStorageState host.live device).safeForPreparation = false := by
  intro closed
  have isSource : PyStr.ofString "8:17" ∈ sourceMajorMinors
    [(.str "major_minor", .str "8:17")] := by
    decide
  have called : (inspectLiveStorageState brokenHost.live
      [(.str "major_minor", .str "8:17")]).safeForPreparation = true := by
    refine inspectLive_isSafe_iff _ _ |>.mpr ⟨rfl, rfl, List.ne_nil_of_mem isSource, ?_, ?_⟩
    · rintro ⟨mount, isMount, node, seen, _⟩
      obtain rfl := List.mem_singleton.mp isMount
      rcases seen with ⟨_, _, _, accepted⟩ | ⟨torn, _⟩
      · exact absurd (accepted.2.2 (.ofChar '\n') (by decide)) (by decide)
      · exact torn unbroken_brokenMount
    · rintro parent _ entry ⟨_, isListed, _⟩
      cases isListed
  have safe := closed brokenHost [(.str "major_minor", .str "8:17")]
    ⟨brokenMount, List.mem_cons_self, rfl, _, isSource, .refl⟩
  rw [called] at safe
  cases safe

end Reperio.Hostd
