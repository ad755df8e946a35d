import Reperio.Hostd.StorageInspection

/-!
# When a source is safe to prepare

The nodes and the edges that the two worklists find are those that the recorded
holders lead to, and an edge that is recorded with different facts is not
supported. So a source is safe exactly if nothing on it, or stacked on it, is
mounted read-write or held by something else.
-/

namespace Reperio.Hostd

open Python

/-- The device is a source device or stacked on one. -/
def Related (device : PyDict) (holders : Option Holders) (node : PyStr) : Prop :=
  ∃ first ∈ sourceMajorMinors device,
    Relation.ReflTransGen (fun parent child => Holds holders child parent) first node

/-! ## The graph of holders -/

/-- The sanitized facts of all records of one parent. -/
def recordsOf (holders : Holders) (parent : PyStr) : List Holder :=
  ((validRecords holders).filter fun item => item.1 = parent).map fun item =>
    holderOf item.1 item.2

theorem next_holderGraph (holders : Holders) (parent : PyStr) :
    (holderGraph holders).next parent = (recordsOf holders parent).foldl addHolder [] := by
  rw [holderGraph, next_foldl_update addHolder, next_graphOf_nil, List.filter_map, List.map_map]
  rfl

variable {holders : Option Holders} {holder : Holder} {device : PyDict}

theorem mem_recordsOf {parent : PyStr} : holder ∈ recordsOf (holders.getD []) parent ↔
      ∃ record, Recorded holders parent record ∧ holderOf parent record = holder := by
  unfold recordsOf
  rw [List.mem_map]
  constructor
  · rintro ⟨⟨other, record⟩, isItem, rfl⟩
    rcases List.mem_filter.mp isItem with ⟨isRecord, same⟩
    obtain rfl : other = parent := of_decide_eq_true same
    exact ⟨record, mem_validRecords.mp isRecord, rfl⟩
  · rintro ⟨record, isRecorded, rfl⟩
    exact ⟨(parent, record),
      List.mem_filter.mpr ⟨mem_validRecords.mpr isRecorded, decide_eq_true rfl⟩, rfl⟩

theorem nodup_next (holders : Holders) (parent : PyStr) :
    (((holderGraph holders).next parent).map Holder.majorMinor).Nodup := by
  rw [next_holderGraph]
  induction recordsOf holders parent using List.reverseRecOn with
  | nil => exact List.nodup_nil
  | append_singleton records holder ih =>
    rw [List.foldl_append]
    exact nodup_addHolder ih holder

theorem mem_iff_find? {holders : List Holder} (distinct : (holders.map Holder.majorMinor).Nodup) :
    holder ∈ holders ↔
      holders.find? (fun other => other.majorMinor = holder.majorMinor) = some holder := by
  refine ⟨fun member => ?_, List.mem_of_find?_eq_some⟩
  induction holders with
  | nil => cases member
  | cons first rest ih =>
    rw [List.map_cons, List.nodup_cons] at distinct
    rcases List.mem_cons.mp member with rfl | later
    · rw [List.find?_cons, decide_eq_true rfl]
    · have different : first.majorMinor ≠ holder.majorMinor := by
        intro same
        exact distinct.1 (same ▸ List.mem_map_of_mem later)
      rw [List.find?_cons, decide_eq_false different]
      exact ih distinct.2 later

/-- An edge is what its records come to. -/
theorem mem_next_iff {parent : PyStr} : holder ∈ (holderGraph (holders.getD [])).next parent ↔
      summary ((recordsOf (holders.getD []) parent).filter fun other =>
        other.majorMinor = holder.majorMinor) = some holder := by
  rw [mem_iff_find? (nodup_next _ _), next_holderGraph, find?_foldl_addHolder]

/-- The records that an edge stands for: the edge is one of them, if they agree, and is ambiguous
otherwise. -/
theorem next_cases {parent : PyStr}
    (isEdge : holder ∈ (holderGraph (holders.getD [])).next parent) :
    holder.parentMajorMinor = parent ∧ ∃ record, Recorded holders parent record ∧
      childOf record = holder.majorMinor ∧
      ((holder = holderOf parent record ∧ ∀ other, Recorded holders parent other →
          childOf other = holder.majorMinor → holderOf parent other = holderOf parent record) ∨
        (holder.holderType = .ofString "unsupported" ∧ ∃ other, Recorded holders parent other ∧
          childOf other = childOf record ∧ holderOf parent other ≠ holderOf parent record)) := by
  rw [mem_next_iff] at isEdge
  cases isRecords : (recordsOf (holders.getD []) parent).filter fun other =>
      other.majorMinor = holder.majorMinor with
  | nil =>
    rw [isRecords] at isEdge
    cases isEdge
  | cons first rest =>
    have members : ∀ other, other ∈ first :: rest ↔
        other ∈ recordsOf (holders.getD []) parent ∧ other.majorMinor = holder.majorMinor := by
      intro other
      rw [← isRecords, List.mem_filter, decide_eq_true_iff]
    rcases (members first).mp List.mem_cons_self with ⟨isFirst, sameChild⟩
    rcases mem_recordsOf.mp isFirst with ⟨record, isRecorded, rfl⟩
    rw [isRecords, summary] at isEdge
    obtain rfl := Option.some.inj isEdge
    split
    · rename_i same
      refine ⟨rfl, record, isRecorded, rfl, Or.inl ⟨rfl, fun other isOther isChild => ?_⟩⟩
      rcases List.mem_cons.mp ((members (holderOf parent other)).mpr
        ⟨mem_recordsOf.mpr ⟨other, isOther, rfl⟩, isChild.trans (by rw [if_pos same])⟩) with
        isSame | later
      · exact isSame
      · exact of_decide_eq_true (List.all_eq_true.mp same _ later)
    · rename_i differs
      rw [Bool.not_eq_true, List.all_eq_false] at differs
      rcases differs with ⟨other, isOther, different⟩
      rcases (members other).mp (List.mem_cons_of_mem _ isOther) with ⟨isOther, otherChild⟩
      rcases mem_recordsOf.mp isOther with ⟨otherRecord, otherRecorded, rfl⟩
      refine ⟨rfl, record, isRecorded, rfl, Or.inr ⟨rfl, otherRecord, otherRecorded, ?_, ?_⟩⟩
      · exact otherChild.trans sameChild.symm
      · simpa using different

theorem exists_edge {parent : PyStr} {record : TextDict}
    (isRecorded : Recorded holders parent record) :
    ∃ holder ∈ (holderGraph (holders.getD [])).next parent, holder.majorMinor = childOf record := by
  have isRecord : holderOf parent record ∈ (recordsOf (holders.getD []) parent).filter fun other =>
      other.majorMinor = childOf record :=
    List.mem_filter.mpr ⟨mem_recordsOf.mpr ⟨record, isRecorded, rfl⟩, decide_eq_true rfl⟩
  cases isRecords : (recordsOf (holders.getD []) parent).filter fun other =>
      other.majorMinor = childOf record with
  | nil =>
    rw [isRecords] at isRecord
    cases isRecord
  | cons first rest =>
    have isFirst : first ∈ first :: rest := List.mem_cons_self
    rw [← isRecords] at isFirst
    have sameChild : first.majorMinor = childOf record :=
      of_decide_eq_true (List.mem_filter.mp isFirst).2
    refine ⟨if rest.all fun holder => holder = first then first else first.ambiguous, ?_, ?_⟩
    · have keepsChild : (if rest.all fun holder => holder = first then first
          else first.ambiguous).majorMinor = childOf record := by
        split
        · exact sameChild
        · exact sameChild
      rw [mem_next_iff, keepsChild, isRecords, summary]
    · split
      · exact sameChild
      · exact sameChild

theorem holds_iff_edge {parent child : PyStr} : Holds holders child parent ↔
      ∃ holder ∈ (holderGraph (holders.getD [])).next parent, holder.majorMinor = child := by
  constructor
  · rintro ⟨record, isRecorded, rfl⟩
    exact exists_edge isRecorded
  · rintro ⟨holder, isEdge, rfl⟩
    rcases (next_cases isEdge).2 with ⟨record, isRecorded, isChild, _⟩
    exact ⟨record, isRecorded, isChild⟩

theorem reached_iff_related {node : PyStr} :
    FiniteGraph.Reached (holderGraph (holders.getD [])) Holder.majorMinor (sourceMajorMinors device)
      node ↔ Related device holders node := by
  unfold FiniteGraph.Reached Related
  simp only [holds_iff_edge]

/-! ## The worklists -/

theorem withDescendants_spec (device : PyDict) (holders : Option Holders) :
    (∀ node, node ∈ withDescendants (sourceMajorMinors device) (holderGraph (holders.getD [])) ↔
      Related device holders node) ∧
    (withDescendants (sourceMajorMinors device) (holderGraph (holders.getD []))).Nodup := by
  rcases @FiniteGraph.traverse_spec _ _ _ _ (holderGraph (holders.getD [])) Holder.majorMinor
    Holder.majorMinor (sourceMajorMinors device) (sourceMajorMinors device) (fun _ _ same => same)
    (fun _ isStart => isStart) with ⟨closed, taken, seen, distinct⟩
  unfold withDescendants
  rw [seen]
  constructor
  · intro node
    rw [List.mem_append]
    constructor
    · rintro (isMark | isSource)
      · rcases List.mem_map.mp isMark with ⟨holder, isTaken, rfl⟩
        rcases (taken holder isTaken).2 with ⟨parent, reached, isEdge⟩
        exact reached_iff_related.mp (reached.next isEdge)
      · exact ⟨node, isSource, Relation.ReflTransGen.refl⟩
    · rintro ⟨first, isSource, path⟩
      rcases Relation.ReflTransGen.cases_tail path with rfl | ⟨parent, before, step⟩
      · exact Or.inr isSource
      · rcases holds_iff_edge.mp step with ⟨holder, isEdge, rfl⟩
        exact (closed parent (reached_iff_related.mpr ⟨first, isSource, before⟩) holder isEdge).symm
  · refine List.nodup_append.mpr ⟨distinct, List.nodup_dedup _, ?_⟩
    rintro _ isMark _ isSource rfl
    rcases List.mem_map.mp isMark with ⟨holder, isTaken, rfl⟩
    exact (taken holder isTaken).1 isSource

theorem mem_relatedHolders :
    holder ∈ relatedHolders (sourceMajorMinors device) (holderGraph (holders.getD [])) ↔
      Related device holders holder.parentMajorMinor ∧
        holder ∈ (holderGraph (holders.getD [])).next holder.parentMajorMinor := by
  rcases @FiniteGraph.traverse_spec _ _ _ _ (holderGraph (holders.getD [])) Holder.edge
    Holder.majorMinor (sourceMajorMinors device) [] (fun _ _ same => congrArg Prod.snd same)
    nofun with ⟨closed, taken, _⟩
  have found : ∀ other, other ∈ ((holderGraph (holders.getD [])).traverse Holder.edge
      Holder.majorMinor ⟨[], [], sourceMajorMinors device⟩).taken →
      Related device holders other.parentMajorMinor ∧
        other ∈ (holderGraph (holders.getD [])).next other.parentMajorMinor := by
    intro other isTaken
    rcases (taken other isTaken).2 with ⟨parent, reached, isEdge⟩
    rw [(next_cases isEdge).1]
    exact ⟨reached_iff_related.mp reached, isEdge⟩
  rw [relatedHolders, List.mem_insertionSort]
  refine ⟨found holder, ?_⟩
  rintro ⟨related, isEdge⟩
  have isTaken := (closed _ (reached_iff_related.mpr related) holder isEdge).resolve_left
    List.not_mem_nil
  rcases List.mem_map.mp isTaken with ⟨other, isTaken, sameEdge⟩
  have otherEdge := (found other isTaken).2
  rw [show other.parentMajorMinor = holder.parentMajorMinor from congrArg Prod.fst sameEdge]
    at otherEdge
  have unique := List.inj_on_of_nodup_map (nodup_next _ _) otherEdge isEdge
    (congrArg Prod.snd sameEdge)
  exact unique ▸ isTaken

/-! ## Safety -/

/-- Nothing is mounted read-write on a related device. -/
def NoneWritable (strings : Strings) (device : PyDict) (mounts : List PyDict)
    (holders : Option Holders) : Prop :=
  ∀ record ∈ mounts, ∀ mount, normalizeMount strings record = some mount →
    Related device holders mount.majorMinor → mount.mode ≠ .readWrite

/-- All holders of related devices have a supported type, and none is recorded with different facts.
-/
def HoldersSupported (device : PyDict) (holders : Option Holders) : Prop :=
  ∀ parent, Related device holders parent → ∀ record, Recorded holders parent record →
    (holderOf parent record).holderType ∈ supportedHolderTypes ∧
      ∀ other, Recorded holders parent other → childOf other = childOf record →
        holderOf parent other = holderOf parent record

theorem holderBlockers_eq_nil_iff :
    holderBlockers (relatedHolders (sourceMajorMinors device) (holderGraph (holders.getD []))) =
      [] ↔ HoldersSupported device holders := by
  unfold holderBlockers
  rw [List.map_eq_nil_iff, List.filter_eq_nil_iff]
  constructor
  · intro supported parent related record isRecorded
    rcases exists_edge isRecorded with ⟨holder, isEdge, isChild⟩
    rcases next_cases isEdge with ⟨isParent, first, firstRecorded, firstChild, cases⟩
    have isSupported : holder.holderType ∈ supportedHolderTypes := by
      by_contra unsupported
      refine supported holder (mem_relatedHolders.mpr ?_) (decide_eq_true unsupported)
      rw [isParent]
      exact ⟨related, isEdge⟩
    rcases cases with ⟨rfl, same⟩ | ⟨isUnsupported, _⟩
    · have isFirst := same record isRecorded isChild.symm
      rw [isFirst]
      exact ⟨isSupported, fun other isOther otherChild =>
        same other isOther (otherChild.trans isChild.symm)⟩
    · have notSupported : PyStr.ofString "unsupported" ∉ supportedHolderTypes := by decide
      rw [isUnsupported] at isSupported
      exact absurd isSupported notSupported
  · intro supported holder isRelated unsupported
    rcases mem_relatedHolders.mp isRelated with ⟨related, isEdge⟩
    rcases (next_cases isEdge).2 with ⟨record, isRecorded, isChild, cases⟩
    rcases supported _ related record isRecorded with ⟨isSupported, same⟩
    rcases cases with ⟨isRecord, _⟩ | ⟨_, other, isOther, otherChild, different⟩
    · rw [isRecord] at unsupported
      exact of_decide_eq_true unsupported isSupported
    · exact different (same other isOther otherChild)

theorem mountBlockers_eq_nil_iff {strings : Strings} {mounts : List PyDict} :
    mountBlockers (relatedMounts strings
      (withDescendants (sourceMajorMinors device) (holderGraph (holders.getD []))) mounts) = [] ↔
      NoneWritable strings device mounts holders := by
  have related := (withDescendants_spec device holders).1
  unfold mountBlockers relatedMounts NoneWritable
  rw [List.map_eq_nil_iff, List.filter_eq_nil_iff]
  constructor
  · intro none record isRecord mount isMount isRelated writable
    refine none mount (List.mem_filter.mpr ⟨List.mem_filterMap.mpr ⟨record, isRecord, isMount⟩, ?_⟩)
      (decide_eq_true writable)
    exact decide_eq_true ((related _).mpr isRelated)
  · intro none mount isMount writable
    rcases List.mem_filter.mp isMount with ⟨found, isRelated⟩
    rcases List.mem_filterMap.mp found with ⟨record, isRecord, isMount⟩
    exact none record isRecord mount isMount ((related _).mp (of_decide_eq_true isRelated))
      (of_decide_eq_true writable)

theorem isSafe_iff {strings : Strings} {mounts : List PyDict} :
    (inspectStorageState strings device mounts holders).safeForPreparation = true ↔
      sourceMajorMinors device ≠ [] ∧ NoneWritable strings device mounts holders ∧
        HoldersSupported device holders := by
  change List.isEmpty (_ ++ _ ++ _) = true ↔ _
  rw [List.isEmpty_iff, List.append_eq_nil_iff, List.append_eq_nil_iff, and_assoc,
    mountBlockers_eq_nil_iff, holderBlockers_eq_nil_iff]
  refine and_congr ?_ Iff.rfl
  unfold topologyBlockers
  cases sourceMajorMinors device with
  | nil => simp
  | cons first rest => simp

/-- The inspection says that a source is safe exactly if it has a device number, nothing is mounted
read-write on a related device, and all holders of related devices are supported; and the
relationships are the related devices. -/
theorem safeForPreparation_iff (strings : Strings) (device : PyDict) (mounts : List PyDict)
    (holders : Option Holders) :
    ((inspectStorageState strings device mounts holders).safeForPreparation = true ↔
      sourceMajorMinors device ≠ [] ∧ NoneWritable strings device mounts holders ∧
        HoldersSupported device holders) ∧
    (∀ node, node ∈ (inspectStorageState strings device mounts holders).relationships ↔
      Related device holders node) ∧
    (inspectStorageState strings device mounts holders).relationships.Nodup := by
  rcases withDescendants_spec device holders with ⟨related, distinct⟩
  refine ⟨isSafe_iff, fun node => ?_, ?_⟩
  · exact mem_sortedNodes.trans (related node)
  · exact (List.perm_insertionSort _ _).nodup_iff.mpr distinct

end Reperio.Hostd
