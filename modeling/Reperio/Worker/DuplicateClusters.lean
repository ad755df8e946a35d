import Mathlib.Combinatorics.SimpleGraph.Connectivity.Connected
import Reperio.Python.Agreement
import Reperio.Python.Urls
import Reperio.Worker.DuplicateGroups

/-!
# What duplicate groups are made of

A cluster of images or videos is everything that a chain of close pairs leads to
(`mem_clusters`), and the groups are those of the clusters (`mem_groups`). Where no two
candidates have the same id, the clusters are the connected components of a graph on
the candidates.
-/

namespace Reperio.Duplicates

open Python Encoding Relational UnionFind
open Urls (isScalar_append isScalar_ofString toString?_isSome_iff)

/-! ## Chains of close pairs -/

variable {rootOf : PyStr → PyStr} {cluster : List DuplicateCandidate}
    {first second : DuplicateCandidate}

section Clusters

variable {close : DuplicateCandidate → DuplicateCandidate → Bool} {items : List DuplicateCandidate}
  {cluster : List DuplicateCandidate}

theorem mem_closePairs {one other : PyStr} :
    (one, other) ∈ closePairs close items ↔ ∃ left right, [left, right].Sublist items ∧
      close left right = true ∧ left.findingId = one ∧ right.findingId = other := by
  induction items with
  | nil => simp [closePairs]
  | cons item items ih =>
    rw [closePairs, List.mem_append, ih]
    constructor
    · rintro (isFirst | ⟨left, right, isPair, isClose⟩)
      · obtain ⟨right, isRight, same⟩ := List.mem_map.mp isFirst
        obtain ⟨isIn, isClose⟩ := List.mem_filter.mp isRight
        cases same
        exact ⟨item, right, (List.singleton_sublist.mpr isIn).cons_cons item, isClose, rfl, rfl⟩
      · exact ⟨left, right, isPair.cons item, isClose⟩
    · rintro ⟨left, right, isPair, isClose, rfl, rfl⟩
      cases isPair with
      | cons _ later => exact Or.inr ⟨left, right, later, isClose, rfl, rfl⟩
      | cons_cons _ isRight =>
        have isIn := List.singleton_sublist.mp isRight
        exact Or.inl (List.mem_map.mpr ⟨right, List.mem_filter.mpr ⟨isIn, isClose⟩, rfl⟩)

/-- A chain of close pairs leads from one id to another. -/
def Linked (close : DuplicateCandidate → DuplicateCandidate → Bool)
    (items : List DuplicateCandidate) : PyStr → PyStr → Prop :=
  Relation.EqvGen fun one other => (one, other) ∈ closePairs close items

open Classical in
/-- The items that a chain leads to. -/
noncomputable def linkedTo (close : DuplicateCandidate → DuplicateCandidate → Bool)
    (items : List DuplicateCandidate) (findingId : PyStr) : List DuplicateCandidate :=
  items.filter fun item => Linked close items findingId item.findingId

theorem mem_linkedTo {findingId : PyStr} {item : DuplicateCandidate} :
    item ∈ linkedTo close items findingId ↔
      item ∈ items ∧ Linked close items findingId item.findingId := by
  classical
  rw [linkedTo, List.mem_filter, decide_eq_true_iff]

theorem withRoots_eq {listed : List PyStr} {parent : PyStr → PyStr}
    (forest : IsForest listed parent) (roots : ∀ value, RootOf parent value (rootOf value))
    {turns : ℕ} (enough : ∀ item ∈ items, (below listed item.findingId).length < turns) :
    withRoots turns parent items = items.map fun item => (rootOf item.findingId, item) := by
  induction items generalizing parent with
  | nil => rfl
  | cons item items ih =>
    obtain ⟨first, later⟩ := List.forall_mem_cons.mp enough
    have found := (forest.find_rootOf first).unique (roots item.findingId)
    have stay (value : PyStr) := (forest.rootOf_find turns item.findingId value _).mpr (roots value)
    rw [withRoots, List.map_cons]
    dsimp only
    rw [found, ih (forest.find turns item.findingId) stay later]

/-- The roots that are looked up tell apart what no chain connects. -/
theorem exists_rootOf (close : DuplicateCandidate → DuplicateCandidate → Bool)
    (items : List DuplicateCandidate) :
    ∃ rootOf : PyStr → PyStr,
      (∀ first second, rootOf first = rootOf second ↔ Linked close items first second) ∧
        withRoots items.length (unionAll items.length id (closePairs close items)) items =
          items.map fun item => (rootOf item.findingId, item) := by
  let listed := items.map DuplicateCandidate.findingId
  have turns : listed.length = items.length := List.length_map _
  have arePairs : ∀ pair ∈ closePairs close items, pair.1 ∈ listed ∧ pair.2 ∈ listed := by
    rintro ⟨one, other⟩ isPair
    obtain ⟨left, right, isIn, -, rfl, rfl⟩ := mem_closePairs.mp isPair
    exact ⟨List.mem_map_of_mem (isIn.subset (by simp)), List.mem_map_of_mem (isIn.subset (by simp))⟩
  have forest := (isForest_id.sameRoot_unionAll arePairs).1
  choose rootOf roots using forest.exists_root
  refine ⟨rootOf, fun first second => ?_, ?_⟩
  · rw [Linked, ← sameRoot_unionAll_id arePairs]
    constructor
    · intro same
      exact ⟨rootOf first, roots first, same ▸ roots second⟩
    · rintro ⟨root, isFirst, isSecond⟩
      exact ((roots first).unique isFirst).trans ((roots second).unique isSecond).symm
  · rw [turns] at forest roots
    refine withRoots_eq forest roots fun item isIn => ?_
    rw [← turns]
    exact length_below_lt_length (List.mem_map_of_mem isIn)

/-- Each list of items with one root is one group. -/
theorem mem_groupByRoot {key : PyStr} :
    (key, cluster) ∈ groupByKey (items.map fun item => (rootOf item.findingId, item)) ↔
      cluster ≠ [] ∧ cluster = items.filter fun item => rootOf item.findingId = key := by
  rw [mem_groupByKey, itemsOf, List.filter_map, List.map_map]
  simp [Function.comp_def]

theorem mem_clusters
    (sorted : items.Pairwise fun first second => first.findingId ≤ second.findingId) :
    cluster ∈ clusters items close ↔
      ∃ item ∈ items, cluster = linkedTo close items item.findingId ∧ 2 ≤ cluster.length := by
  classical
  rw [clusters]
  split
  · rename_i few
    refine iff_of_false List.not_mem_nil ?_
    rintro ⟨item, isIn, rfl, severals⟩
    have fewer := List.length_filter_le
      (fun other => decide (Linked close items item.findingId other.findingId)) items
    rw [linkedTo] at severals
    omega
  · obtain ⟨rootOf, linked, roots⟩ := exists_rootOf close items
    dsimp only
    rw [roots]
    have sameItems (item : DuplicateCandidate) :
        (items.filter fun other => rootOf other.findingId = rootOf item.findingId) =
          linkedTo close items item.findingId := by
      refine List.filter_congr fun other _ => ?_
      rw [decide_eq_decide, eq_comm, linked]
    have inOrder (item : DuplicateCandidate) :
        orderBy DuplicateCandidate.findingId (linkedTo close items item.findingId) =
          linkedTo close items item.findingId :=
      (sorted.sublist List.filter_sublist).insertionSort_eq
    simp only [List.mem_map, List.mem_filter, decide_eq_true_eq, Prod.exists, mem_groupByRoot]
    constructor
    · rintro ⟨key, cluster, ⟨⟨nonempty, isCluster⟩, severals⟩, rfl⟩
      obtain ⟨item, isIn⟩ := List.exists_mem_of_ne_nil cluster nonempty
      rw [isCluster, List.mem_filter, decide_eq_true_iff] at isIn
      rw [← isIn.2, sameItems] at isCluster
      rw [isCluster] at severals ⊢
      rw [inOrder]
      exact ⟨item, isIn.1, rfl, severals⟩
    · rintro ⟨item, isIn, rfl, severals⟩
      refine ⟨rootOf item.findingId, _, ⟨⟨?_, (sameItems item).symm⟩, severals⟩, inOrder item⟩
      exact List.ne_nil_of_length_pos (by omega)

/-- No id is in two clusters. -/
theorem pairwise_clusters (close : DuplicateCandidate → DuplicateCandidate → Bool)
    (items : List DuplicateCandidate) :
    (clusters items close).Pairwise fun first second =>
      ∀ one ∈ first, ∀ other ∈ second, one.findingId ≠ other.findingId := by
  rw [clusters]
  split
  · exact List.Pairwise.nil
  · obtain ⟨rootOf, -, roots⟩ := exists_rootOf close items
    dsimp only
    rw [roots, List.pairwise_map]
    refine List.Pairwise.filter _ ?_
    refine (List.pairwise_map.mp (nodup_keys_groupByKey _)).imp_of_mem ?_
    rintro ⟨key, first⟩ ⟨otherKey, second⟩ isFirst isSecond different one isOne other isOther same
    rw [mem_orderBy, (mem_groupByRoot.mp isFirst).2, List.mem_filter, decide_eq_true_iff] at isOne
    rw [mem_orderBy, (mem_groupByRoot.mp isSecond).2, List.mem_filter,
      decide_eq_true_iff] at isOther
    refine different ?_
    rw [← isOne.2, same, isOther.2]

end Clusters

/-! ## Values -/

section Values

variable {α : Type} {read : DuplicateCandidate → Reading α} {items : List DuplicateCandidate}

theorem Reading.value?_eq_some {reading : Reading α} {value : α} :
    reading.value? = some value ↔ reading = .valid value := by
  cases reading <;> simp [Reading.value?]

theorem mem_validItems {item : DuplicateCandidate} {value : α} :
    (item, value) ∈ validItems read items ↔ item ∈ items ∧ read item = .valid value := by
  simp only [validItems, List.mem_filterMap, Option.map_eq_some_iff, Reading.value?_eq_some,
    Prod.mk.injEq]
  constructor
  · rintro ⟨item, isIn, value, isValid, rfl, rfl⟩
    exact ⟨isIn, isValid⟩
  · rintro ⟨isIn, isValid⟩
    exact ⟨item, isIn, value, isValid, rfl, rfl⟩

theorem map_fst_validItems_sublist (read : DuplicateCandidate → Reading α)
    (items : List DuplicateCandidate) : ((validItems read items).map Prod.fst).Sublist items := by
  induction items with
  | nil => exact List.Sublist.refl []
  | cons item items ih =>
    rw [validItems, List.filterMap_cons]
    cases (read item).value? with
    | none => exact ih.cons item
    | some value => exact ih.cons_cons item

theorem itemsOf_validItems [DecidableEq α] (value : α) :
    itemsOf ((validItems read items).map Prod.swap) value =
      items.filter fun item => read item = .valid value := by
  induction items with
  | nil => rfl
  | cons item items ih =>
    rw [validItems, List.filterMap_cons, List.filter_cons, ← ih]
    cases isRead : read item with
    | skipped => simp [Reading.value?, validItems]
    | invalid => simp [Reading.value?, validItems]
    | valid other =>
      by_cases same : other = value
      · simp [Reading.value?, validItems, itemsOf, same]
      · simp [Reading.value?, validItems, itemsOf, same]

end Values

/-! ## Clusters of the same content -/

theorem haveOneSize_iff {members : List DuplicateCandidate} (nonempty : members ≠ []) :
    haveOneSize members = true ↔
      ∀ first ∈ members, ∀ second ∈ members, first.sizeBytes = second.sizeBytes := by
  rw [haveOneSize, decide_eq_true_iff, List.length_eq_one_iff]
  constructor
  · rintro ⟨size, isSize⟩
    have same (item : DuplicateCandidate) (isIn : item ∈ members) : item.sizeBytes = size := by
      have isThere : item.sizeBytes ∈ (members.map DuplicateCandidate.sizeBytes).dedup :=
        List.mem_dedup.mpr (List.mem_map_of_mem isIn)
      rw [isSize] at isThere
      exact List.mem_singleton.mp isThere
    intro first isFirst second isSecond
    rw [same first isFirst, same second isSecond]
  · intro same
    obtain ⟨first, isFirst⟩ := List.exists_mem_of_ne_nil members nonempty
    refine ⟨first.sizeBytes, List.perm_singleton.mp ?_⟩
    refine (List.perm_ext_iff_of_nodup (List.nodup_dedup _) (List.nodup_singleton _)).mpr
      fun size => ?_
    rw [List.mem_dedup, List.mem_map, List.mem_singleton]
    constructor
    · rintro ⟨item, isIn, rfl⟩
      exact same item isIn first isFirst
    · rintro rfl
      exact ⟨first, isFirst, rfl⟩

/-- All of at least two candidates with one digest, if their sizes agree. -/
def IsExactCluster (items cluster : List DuplicateCandidate) : Prop :=
  ∃ digest, cluster = (items.filter fun item => readDigest item = .valid digest) ∧
    2 ≤ cluster.length ∧ ∀ first ∈ cluster, ∀ second ∈ cluster, first.sizeBytes = second.sizeBytes

theorem mem_byHash {items : List DuplicateCandidate} {digest : PyStr} :
    (digest, cluster) ∈ byHash items ↔
      cluster ≠ [] ∧ cluster = items.filter fun item => readDigest item = .valid digest := by
  rw [byHash, mem_orderBy, mem_groupByKey, itemsOf_validItems]

theorem mem_exactClusters {items : List DuplicateCandidate} :
    cluster ∈ exactClusters items ↔ IsExactCluster items cluster := by
  simp only [exactClusters, List.mem_map, List.mem_filter, Bool.and_eq_true, decide_eq_true_eq,
    Prod.exists, mem_byHash]
  constructor
  · rintro ⟨digest, cluster, ⟨⟨nonempty, isCluster⟩, severals, oneSize⟩, rfl⟩
    exact ⟨digest, isCluster, severals, (haveOneSize_iff nonempty).mp oneSize⟩
  · rintro ⟨digest, isCluster, severals, oneSize⟩
    have nonempty : cluster ≠ [] := List.ne_nil_of_length_pos (by omega)
    exact ⟨digest, cluster,
      ⟨⟨nonempty, isCluster⟩, severals, (haveOneSize_iff nonempty).mpr oneSize⟩, rfl⟩

/-- No candidate has two digests. -/
theorem pairwise_exactClusters (items : List DuplicateCandidate) :
    (exactClusters items).Pairwise List.Disjoint := by
  rw [exactClusters, List.pairwise_map]
  refine List.Pairwise.filter _ ?_
  have distinct : (byHash items).Pairwise fun first second => first.1 ≠ second.1 := by
    refine List.pairwise_map.mp ?_
    exact (((perm_orderBy _ _).map _).nodup_iff).mpr (nodup_keys_groupByKey _)
  refine distinct.imp_of_mem ?_
  rintro ⟨digest, first⟩ ⟨otherDigest, second⟩ isFirst isSecond different item inFirst inSecond
  rw [(mem_byHash.mp isFirst).2, List.mem_filter, decide_eq_true_iff] at inFirst
  rw [(mem_byHash.mp isSecond).2, List.mem_filter, decide_eq_true_iff] at inSecond
  exact different (Reading.valid.inj (inFirst.2.symm.trans inSecond.2))

/-! ## All clusters -/

section Build

variable (hexdigest : List UInt8 → PyStr) (config : DuplicateGroupingConfig)
  {items cluster : List DuplicateCandidate} {kind : GroupKind}

/-- The valid candidates that a chain of related values leads to. -/
noncomputable def closeTo {α : Type} (read : DuplicateCandidate → Reading α) (related : α → α →
  Bool) (items : List DuplicateCandidate) (findingId : PyStr) : List DuplicateCandidate :=
  linkedTo (areClose related (validItems read items)) ((validItems read items).map Prod.fst)
    findingId

/-- At least two candidates, which are all that a chain leads to from one of them. -/
def IsCloseCluster {α : Type} (read : DuplicateCandidate → Reading α) (related : α → α → Bool)
    (items cluster : List DuplicateCandidate) : Prop :=
  ∃ item ∈ (validItems read items).map Prod.fst,
    cluster = closeTo read related items item.findingId ∧ 2 ≤ cluster.length

/-- What is put into one group. -/
def IsCluster (items cluster : List DuplicateCandidate) : GroupKind → Prop
  | .exactSha256 => IsExactCluster items cluster
  | .imagePerceptual => IsCloseCluster readImage (imageRelated config) items cluster
  | .videoKeyframe => IsCloseCluster (readVideo config) (videoRelated config) items cluster

/-- The clusters with the kinds of their groups. -/
def allClusters (items : List DuplicateCandidate) : List (GroupKind × List DuplicateCandidate) :=
  (exactClusters items).map (Prod.mk .exactSha256) ++
    (imageClusters config items).map (Prod.mk .imagePerceptual) ++
    (videoClusters config items).map (Prod.mk .videoKeyframe)

def groupOf (items : List DuplicateCandidate) :
    GroupKind × List DuplicateCandidate → Except DuplicateError DuplicateGroup
  | (.exactSha256, cluster) => exactGroup hexdigest cluster
  | (.imagePerceptual, cluster) => imageGroup hexdigest config items cluster
  | (.videoKeyframe, cluster) => videoGroup hexdigest config items cluster

theorem unsortedGroups_eq (items : List DuplicateCandidate) :
    unsortedGroups hexdigest config items =
      (allClusters config items).mapM (groupOf hexdigest config items) := by
  simp only [unsortedGroups, allClusters, List.mapM_append, List.mapM_map, bind_assoc, pure_bind]
  rfl

theorem mem_allClusters
    (sorted : items.Pairwise fun first second => first.findingId ≤ second.findingId) :
    (kind, cluster) ∈ allClusters config items ↔ IsCluster config items cluster kind := by
  have valid {α : Type} (read : DuplicateCandidate → Reading α) :
      ((validItems read items).map Prod.fst).Pairwise fun first second =>
        first.findingId ≤ second.findingId :=
    sorted.sublist (map_fst_validItems_sublist read items)
  cases kind with
  | exactSha256 => simp [allClusters, mem_exactClusters, IsCluster]
  | imagePerceptual =>
    simp only [allClusters, imageClusters, List.mem_append, List.mem_map, Prod.mk.injEq,
      reduceCtorEq, false_and, and_false, exists_false, true_and, exists_eq_right, false_or,
      or_false]
    exact mem_clusters (valid readImage)
  | videoKeyframe =>
    simp only [allClusters, videoClusters, List.mem_append, List.mem_map, Prod.mk.injEq,
      reduceCtorEq, false_and, and_false, exists_false, true_and, exists_eq_right, false_or]
    exact mem_clusters (valid (readVideo config))

/-! ## Groups of clusters -/

/-- What becomes of a candidate in a group. -/
def memberOf (items cluster : List DuplicateCandidate) :
    GroupKind → DuplicateCandidate → DuplicateMember
  | .exactSha256, item => toMember none none item
  | .imagePerceptual, item =>
    toMember (distanceToCanonical cluster (validItems readImage items) item) none item
  | .videoKeyframe, item =>
    toMember none (framesInCanonical config cluster (validItems (readVideo config) items) item) item

/-- The members in the order of the cluster. -/
def membersOf (items : List DuplicateCandidate) (kind : GroupKind)
    (cluster : List DuplicateCandidate) : List DuplicateMember :=
  cluster.map (memberOf config items cluster kind)

@[simp]
theorem memberOf_findingId (item : DuplicateCandidate) :
    (memberOf config items cluster kind item).findingId = item.findingId := by cases kind <;> rfl

@[simp]
theorem memberOf_sourcePaths (item : DuplicateCandidate) :
    (memberOf config items cluster kind item).sourcePaths = item.sourcePaths := by
      cases kind <;> rfl

@[simp]
theorem memberOf_sizeBytes (item : DuplicateCandidate) :
    (memberOf config items cluster kind item).sizeBytes = item.sizeBytes := by cases kind <;> rfl

@[simp]
theorem memberOf_contentSha256 (item : DuplicateCandidate) :
    (memberOf config items cluster kind item).contentSha256 = item.contentSha256 := by
  cases kind <;> rfl

theorem map_findingId_membersOf :
    (membersOf config items kind cluster).map DuplicateMember.findingId =
      cluster.map DuplicateCandidate.findingId := by
  simp [membersOf, Function.comp_def]

theorem isScalar_intercalate {parts : List PyStr} :
    PyStr.IsScalar (List.intercalate [0] parts) ↔ ∀ part ∈ parts, part.IsScalar := by
  induction parts with
  | nil => simp [PyStr.IsScalar]
  | cons part parts ih =>
    cases parts with
    | nil => simp [List.intercalate_singleton]
    | cons next parts =>
      rw [List.intercalate_cons_cons, isScalar_append, isScalar_append, ih, List.forall_mem_cons]
      simp [PyStr.IsScalar]

theorem exists_encodeUtf8_iff {text : PyStr} :
    (∃ data, encodeUtf8 text = .ok data) ↔ text.IsScalar := by
  rw [← toString?_isSome_iff, encodeUtf8]
  cases text.toString? <;> simp

theorem isScalar_rawId {algorithm : PyStr} {members : List DuplicateMember} :
    (rawId kind algorithm members).IsScalar ↔
      algorithm.IsScalar ∧ ∀ member ∈ members, member.findingId.IsScalar := by
  have text : kind.text.IsScalar := by cases kind <;> exact isScalar_ofString _
  rw [rawId, isScalar_intercalate, List.forall_mem_cons, List.forall_mem_cons]
  simp only [mem_orderBy, List.forall_mem_map]
  exact and_iff_right text

section Group

variable {algorithm : PyStr} {threshold : Option ℤ} {members : List DuplicateMember}
  {warnings : List PyStr} {result : DuplicateGroup}

/-- What `_group` does with its members. -/
structure Represents (kind : GroupKind) (members : List DuplicateMember) (result : DuplicateGroup) :
    Prop where
  kind_eq : result.groupKind = kind
  members_eq : result.members = orderBy DuplicateMember.findingId members
  canonical : ∃ canonical, canonicalMember members = some canonical ∧
    result.canonicalFindingId = canonical.findingId ∧
      result.canonicalPreviewUri = shownPath canonical.findingId members

theorem represents_of_group
    (returned : group hexdigest kind algorithm threshold members warnings = .ok result) :
    Represents kind members result := by
  unfold group at returned
  cases isCanonical : canonicalMember members with
  | none =>
    rw [isCanonical] at returned
    cases returned
  | some canonical =>
    rw [isCanonical] at returned
    obtain ⟨data, -, isResult⟩ := bind_eq_ok returned
    cases isResult
    exact ⟨rfl, rfl, canonical, isCanonical, rfl, rfl⟩

theorem exists_group_iff (nonempty : members ≠ []) (plain : algorithm.IsScalar) :
    (∃ result, group hexdigest kind algorithm threshold members warnings = .ok result) ↔
      ∀ member ∈ members, member.findingId.IsScalar := by
  have hasHead : (orderBy (memberPreference members) members) ≠ [] :=
    fun isEmpty => nonempty (orderBy_eq_nil.mp isEmpty)
  obtain ⟨canonical, others, isOrder⟩ := List.exists_cons_of_ne_nil hasHead
  have scalar : (rawId kind algorithm members).IsScalar ↔
      ∀ member ∈ members, member.findingId.IsScalar := by
    rw [isScalar_rawId]
    exact and_iff_right plain
  rw [← scalar, ← exists_encodeUtf8_iff, group, canonicalMember, isOrder]
  cases encodeUtf8 (rawId kind algorithm members) with
  | error error => exact ⟨nofun, nofun⟩
  | ok data => exact ⟨fun _ => ⟨data, rfl⟩, fun _ => ⟨_, rfl⟩⟩

end Group

theorem represents_of_groupOf {result : DuplicateGroup}
    (returned : groupOf hexdigest config items (kind, cluster) = .ok result) :
    Represents kind (membersOf config items kind cluster) result := by
  cases kind with
  | exactSha256 => exact represents_of_group hexdigest returned
  | imagePerceptual => exact represents_of_group hexdigest returned
  | videoKeyframe =>
    obtain ⟨frames, -, isGroup⟩ := bind_eq_ok returned
    exact represents_of_group hexdigest isGroup

/-- The text of a number is not too long. -/
def HasText (value : ℤ) : Prop := (Nat.toDigits 10 value.natAbs).length ≤ intMaxStrDigits

theorem exists_groupOf_iff (nonempty : cluster ≠ []) :
    (∃ result, groupOf hexdigest config items (kind, cluster) = .ok result) ↔
      (∀ item ∈ cluster, item.findingId.IsScalar) ∧
        (kind = .videoKeyframe → HasText config.videoMinMatchingFrames) := by
  have hasMembers : membersOf config items kind cluster ≠ [] := by simpa [membersOf] using nonempty
  have ids : (∀ member ∈ membersOf config items kind cluster, member.findingId.IsScalar) ↔
      ∀ item ∈ cluster, item.findingId.IsScalar := by
    rw [← List.forall_mem_map, map_findingId_membersOf, List.forall_mem_map]
  cases kind with
  | exactSha256 =>
    rw [← ids]
    exact (exists_group_iff hexdigest hasMembers (isScalar_ofString _)).trans (by simp)
  | imagePerceptual =>
    rw [← ids]
    exact (exists_group_iff hexdigest hasMembers (isScalar_ofString _)).trans (by simp)
  | videoKeyframe =>
    rw [← ids]
    by_cases hasText : HasText config.videoMinMatchingFrames
    · have frames : intText config.videoMinMatchingFrames =
          .ok (.ofChars (renderInt config.videoMinMatchingFrames)) := if_pos hasText
      rw [groupOf, videoGroup, frames]
      exact (exists_group_iff hexdigest hasMembers (isScalar_ofString _)).trans (by simp [hasText])
    · have frames : intText config.videoMinMatchingFrames = .error .valueError := if_neg hasText
      rw [groupOf, videoGroup, frames]
      simp [hasText, bind, Except.bind]

section Result

variable {candidates : List DuplicateCandidate} {options : Option DuplicateGroupingConfig}
  {result : DuplicateGroupingResult}

theorem groups_of_build
    (returned : buildDuplicateGroups hexdigest candidates options = .ok result) :
    ∃ groups, result.groups = orderBy (fun group => toLex (group.groupKind.text, group.groupId))
      groups ∧
      (allClusters (options.getD {}) (orderBy DuplicateCandidate.findingId candidates)).mapM
        (groupOf hexdigest (options.getD {}) (orderBy DuplicateCandidate.findingId candidates)) =
          .ok groups := by
  unfold buildDuplicateGroups at returned
  obtain ⟨groups, isGroups, isResult⟩ := bind_eq_ok returned
  cases isResult
  rw [unsortedGroups_eq] at isGroups
  exact ⟨groups, rfl, isGroups⟩

/-- The groups are those of the clusters. -/
theorem mem_groups (returned : buildDuplicateGroups hexdigest candidates options = .ok result)
    {found : DuplicateGroup} :
    found ∈ result.groups ↔ ∃ kind cluster,
      IsCluster (options.getD {}) (orderBy DuplicateCandidate.findingId candidates) cluster kind ∧
        groupOf hexdigest (options.getD {}) (orderBy DuplicateCandidate.findingId candidates)
          (kind, cluster) = .ok found := by
  obtain ⟨groups, isResult, isGroups⟩ := groups_of_build hexdigest returned
  have sorted := pairwise_orderBy DuplicateCandidate.findingId candidates
  rw [isResult, mem_orderBy]
  constructor
  · intro isFound
    obtain ⟨⟨kind, cluster⟩, isCluster, isGroup⟩ := exists_of_mapM_ok isGroups found isFound
    exact ⟨kind, cluster, (mem_allClusters _ sorted).mp isCluster, isGroup⟩
  · rintro ⟨kind, cluster, isCluster, isGroup⟩
    obtain ⟨other, isOther, isFound⟩ :=
      exists_of_mapM_eq_ok isGroups ((mem_allClusters _ sorted).mpr isCluster)
    rw [isGroup] at isOther
    cases isOther
    exact isFound

theorem IsCluster.severals (isCluster : IsCluster config items cluster kind) :
    2 ≤ cluster.length := by
  cases kind with
  | exactSha256 =>
    obtain ⟨digest, -, severals, -⟩ := isCluster
    exact severals
  | imagePerceptual =>
    obtain ⟨item, -, -, severals⟩ := isCluster
    exact severals
  | videoKeyframe =>
    obtain ⟨item, -, -, severals⟩ := isCluster
    exact severals

theorem IsCluster.nonempty (isCluster : IsCluster config items cluster kind) : cluster ≠ [] :=
  List.ne_nil_of_length_pos (lt_of_lt_of_le (by decide) isCluster.severals)

/-- A cluster has the order of the candidates. -/
theorem IsCluster.sublist (isCluster : IsCluster config items cluster kind) :
    cluster.Sublist items := by
  cases kind with
  | exactSha256 =>
    obtain ⟨digest, rfl, -⟩ := isCluster
    exact List.filter_sublist
  | imagePerceptual =>
    obtain ⟨item, -, rfl, -⟩ := isCluster
    exact List.filter_sublist.trans (map_fst_validItems_sublist readImage items)
  | videoKeyframe =>
    obtain ⟨item, -, rfl, -⟩ := isCluster
    exact List.filter_sublist.trans (map_fst_validItems_sublist (readVideo config) items)

/-- There is a result unless a cluster has an id that cannot be encoded, or a warning of a video
group a number that is too long. -/
theorem exists_build_iff :
    (∃ result, buildDuplicateGroups hexdigest candidates options = .ok result) ↔ ∀ kind cluster,
        IsCluster (options.getD {}) (orderBy DuplicateCandidate.findingId candidates) cluster kind →
          (∀ item ∈ cluster, item.findingId.IsScalar) ∧
            (kind = .videoKeyframe → HasText (options.getD {}).videoMinMatchingFrames) := by
  have sorted := pairwise_orderBy DuplicateCandidate.findingId candidates
  constructor
  · rintro ⟨result, returned⟩ kind cluster isCluster
    obtain ⟨groups, -, isGroups⟩ := groups_of_build hexdigest returned
    obtain ⟨group, isGroup, -⟩ :=
      exists_of_mapM_eq_ok isGroups ((mem_allClusters _ sorted).mpr isCluster)
    exact (exists_groupOf_iff hexdigest _ isCluster.nonempty).mp ⟨group, isGroup⟩
  · intro encodable
    have each : ∀ item ∈ allClusters (options.getD {})
      (orderBy DuplicateCandidate.findingId candidates),
        ∃ group, groupOf hexdigest (options.getD {})
          (orderBy DuplicateCandidate.findingId candidates) item = .ok group := by
      rintro ⟨kind, cluster⟩ isListed
      have isCluster := (mem_allClusters (options.getD {}) sorted).mp isListed
      exact (exists_groupOf_iff hexdigest _ isCluster.nonempty).mpr
        (encodable kind cluster isCluster)
    obtain ⟨groups, isGroups⟩ := exists_mapM_eq_ok each
    rw [← unsortedGroups_eq] at isGroups
    rw [buildDuplicateGroups]
    dsimp only
    rw [isGroups]
    exact ⟨_, rfl⟩

/-! ## Candidates of the same content -/

/-- Two members of one group of the same content. -/
def DuplicateGroupingResult.GroupsTogether (result : DuplicateGroupingResult)
    (first second : DuplicateCandidate) : Prop :=
  ∃ group ∈ result.groups, group.groupKind = .exactSha256 ∧
    [toMember none none first, toMember none none second].Subperm group.members

theorem readDigest_congr (same : first.contentSha256 = second.contentSha256) :
    readDigest first = readDigest second := by
  rw [readDigest, readDigest, same]

theorem mem_warnings (returned : buildDuplicateGroups hexdigest candidates options = .ok result)
    {warning : PyStr}
    (isWarning : warning ∈ exactWarnings (orderBy DuplicateCandidate.findingId candidates)) :
    warning ∈ result.warnings := by
  unfold buildDuplicateGroups at returned
  obtain ⟨groups, -, isResult⟩ := bind_eq_ok returned
  cases isResult
  have isListed := List.mem_append_left
    (invalidWarnings "invalid_video_keyframe_hash" (readVideo (options.getD {}))
      (orderBy DuplicateCandidate.findingId candidates))
    (List.mem_append_left (invalidWarnings "invalid_perceptual_hash" readImage
      (orderBy DuplicateCandidate.findingId candidates)) isWarning)
  have isSeen : warning ∈ seenAfter id [] _ := key_mem_seenAfter id isListed
  obtain isNone | ⟨found, isFound, rfl⟩ := (mem_seenAfter id).mp isSeen
  · cases isNone
  · exact isFound

/-- The members of a group have one digest and one size. -/
theorem sizes_of_groupsTogether {digest : PyStr}
    (returned : buildDuplicateGroups hexdigest candidates options = .ok result)
    (readFirst : readDigest first = .valid digest) (together : result.GroupsTogether first second) :
    ∀ other ∈ candidates, readDigest other = .valid digest → other.sizeBytes = first.sizeBytes := by
  obtain ⟨group, isGroup, isExact, arePair⟩ := together
  obtain ⟨kind, cluster, isCluster, isGroup⟩ := (mem_groups hexdigest returned).mp isGroup
  have represents := represents_of_groupOf hexdigest _ isGroup
  rw [represents.kind_eq] at isExact
  subst isExact
  obtain ⟨ofCluster, isFilter, -, oneSize⟩ := isCluster
  have isMember := arePair.subset List.mem_cons_self
  rw [represents.members_eq, mem_orderBy] at isMember
  obtain ⟨item, isIn, sameMember⟩ := List.mem_map.mp isMember
  have sameDigest : item.contentSha256 = first.contentSha256 :=
    congrArg DuplicateMember.contentSha256 sameMember
  have sameSize : item.sizeBytes = first.sizeBytes := congrArg DuplicateMember.sizeBytes sameMember
  have inFilter := isIn
  rw [isFilter, List.mem_filter, decide_eq_true_iff, readDigest_congr sameDigest,
    readFirst] at inFilter
  intro other isOther readOther
  rw [← sameSize]
  refine oneSize other ?_ item isIn
  rw [isFilter, List.mem_filter, decide_eq_true_iff, readOther]
  exact ⟨mem_orderBy.mpr isOther, inFilter.2⟩

/-- Two candidates with a digest are two of those that have it. -/
theorem pair_subperm_filter {digest : PyStr} (arePair : [first, second].Subperm candidates)
    (readFirst : readDigest first = .valid digest)
    (readSecond : readDigest second = .valid digest) :
    [first, second].Subperm ((orderBy DuplicateCandidate.findingId candidates).filter
      fun item => readDigest item = .valid digest) := by
  have sorted := (perm_orderBy DuplicateCandidate.findingId candidates).symm.subperm
  have kept := (arePair.trans sorted).filter fun item => decide (readDigest item = .valid digest)
  simpa [List.filter_cons, readFirst, readSecond] using kept

theorem groupsTogether_of_sizes {digest : PyStr}
    (returned : buildDuplicateGroups hexdigest candidates options = .ok result)
    (arePair : [first, second].Subperm candidates) (readFirst : readDigest first = .valid digest)
    (readSecond : readDigest second = .valid digest)
    (sizes : ∀ other ∈ candidates, readDigest other = .valid digest →
      other.sizeBytes = first.sizeBytes) : result.GroupsTogether first second := by
  let items := orderBy DuplicateCandidate.findingId candidates
  let cluster := items.filter fun item => readDigest item = .valid digest
  have inCluster : [first, second].Subperm cluster :=
    pair_subperm_filter arePair readFirst readSecond
  have isCluster : IsCluster (options.getD {}) items cluster .exactSha256 := by
    refine ⟨digest, rfl, inCluster.length_le, fun one isOne other isOther => ?_⟩
    rw [List.mem_filter, decide_eq_true_iff, mem_orderBy] at isOne isOther
    rw [sizes one isOne.1 isOne.2, sizes other isOther.1 isOther.2]
  have encodable := (exists_build_iff hexdigest).mp ⟨result, returned⟩ _ _ isCluster
  obtain ⟨group, isGroup⟩ := (exists_groupOf_iff hexdigest _ isCluster.nonempty).mpr encodable
  have represents := represents_of_groupOf hexdigest _ isGroup
  refine ⟨group, (mem_groups hexdigest returned).mpr ⟨_, _, isCluster, isGroup⟩,
    represents.kind_eq, ?_⟩
  rw [represents.members_eq]
  obtain ⟨pair, isPair, inOrder⟩ := inCluster
  have isMapped : [toMember none none first, toMember none none second].Subperm
      (cluster.map (toMember none none)) :=
    ⟨pair.map (toMember none none), isPair.map _, inOrder.map _⟩
  exact isMapped.trans (perm_orderBy _ _).symm.subperm

theorem mismatch_of_sizes {other : DuplicateCandidate} {digest : PyStr}
    (returned : buildDuplicateGroups hexdigest candidates options = .ok result)
    (arePair : [first, second].Subperm candidates) (readFirst : readDigest first = .valid digest)
    (readSecond : readDigest second = .valid digest) (isOther : other ∈ candidates)
    (readOther : readDigest other = .valid digest) (differs : other.sizeBytes ≠ first.sizeBytes) :
    PyStr.ofString "sha256_size_mismatch:" ++ digest ∈ result.warnings := by
  let items := orderBy DuplicateCandidate.findingId candidates
  let cluster := items.filter fun item => readDigest item = .valid digest
  have inCluster : [first, second].Subperm cluster :=
    pair_subperm_filter arePair readFirst readSecond
  have otherIn : other ∈ cluster := by
    rw [List.mem_filter, decide_eq_true_iff, mem_orderBy]
    exact ⟨isOther, readOther⟩
  have nonempty : cluster ≠ [] := List.ne_nil_of_mem otherIn
  refine mem_warnings hexdigest returned (List.mem_append_right _ (List.mem_map.mpr ?_))
  refine ⟨(digest, cluster), List.mem_filter.mpr ⟨mem_byHash.mpr ⟨nonempty, rfl⟩, ?_⟩, rfl⟩
  rw [Bool.and_eq_true, decide_eq_true_iff, Bool.not_eq_true', Bool.eq_false_iff, ne_eq,
    haveOneSize_iff nonempty]
  refine ⟨inCluster.length_le, fun oneSize => differs ?_⟩
  exact oneSize other otherIn first (inCluster.subset List.mem_cons_self)

/-- Candidates with one spelled digest and one size are grouped together unless another candidate
with the digest has a different size, which is warned of. -/
theorem exactDuplicates_grouped :
    (∀ result, buildDuplicateGroups hexdigest candidates options = .ok result →
      ∀ first second digest, [first, second].Subperm candidates →
        readDigest first = .valid digest → readDigest second = .valid digest →
          first.sizeBytes = second.sizeBytes →
            (result.GroupsTogether first second ↔ ∀ other ∈ candidates,
              readDigest other = .valid digest → other.sizeBytes = first.sizeBytes) ∧
            ((∃ other ∈ candidates, readDigest other = .valid digest ∧
              other.sizeBytes ≠ first.sizeBytes) →
                PyStr.ofString "sha256_size_mismatch:" ++ digest ∈ result.warnings)) ∧
    ((∀ item ∈ candidates, item.findingId.IsScalar) →
      HasText (options.getD {}).videoMinMatchingFrames →
        ∃ result, buildDuplicateGroups hexdigest candidates options = .ok result) := by
  constructor
  · intro result returned first second digest arePair readFirst readSecond _
    refine ⟨⟨sizes_of_groupsTogether hexdigest returned readFirst,
      groupsTogether_of_sizes hexdigest returned arePair readFirst readSecond⟩, ?_⟩
    rintro ⟨other, isOther, readOther, differs⟩
    exact mismatch_of_sizes hexdigest returned arePair readFirst readSecond isOther readOther
      differs
  · intro scalar hasText
    rw [exists_build_iff]
    intro kind cluster isCluster
    refine ⟨fun item isIn => ?_, fun _ => hasText⟩
    exact scalar item (mem_orderBy.mp (isCluster.sublist.subset isIn))

end Result

end Build

def sampleCopy (findingId : String) (sizeBytes : ℤ) : DuplicateCandidate where
  findingId := .ofString findingId
  contentSha256 := some (List.replicate 64 (.ofChar 'e'))
  sizeBytes := some sizeBytes
  sourcePaths := []
  mediaKind := .ofString "other"

def mismatchedCopies : List DuplicateCandidate :=
  [sampleCopy "a" 10, sampleCopy "b" 10, sampleCopy "c" 11]

/-- A third candidate with the digest has a different size. -/
theorem mismatchedCopies_not_grouped :
    [sampleCopy "a" 10, sampleCopy "b" 10].Subperm mismatchedCopies ∧
      readDigest (sampleCopy "a" 10) = .valid (List.replicate 64 (.ofChar 'e')) ∧
      readDigest (sampleCopy "b" 10) = .valid (List.replicate 64 (.ofChar 'e')) ∧
        ∃ result, buildDuplicateGroups (fun _ => []) mismatchedCopies none = .ok result ∧
          ¬result.GroupsTogether (sampleCopy "a" 10) (sampleCopy "b" 10) := by
  have arePair : [sampleCopy "a" 10, sampleCopy "b" 10].Sublist mismatchedCopies :=
    ((List.nil_sublist _).cons_cons _).cons_cons _
  have built : (buildDuplicateGroups (fun _ => []) mismatchedCopies none).toOption.map
      DuplicateGroupingResult.groups = some [] := by decide
  obtain ⟨result, returned, noGroups⟩ := Option.map_eq_some_iff.mp built
  refine ⟨arePair.subperm, by decide, by decide, result, eq_ok_of_toOption returned, ?_⟩
  rintro ⟨group, isGroup, -⟩
  rw [noGroups] at isGroup
  cases isGroup

end Reperio.Duplicates
