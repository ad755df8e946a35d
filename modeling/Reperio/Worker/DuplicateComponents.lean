import Mathlib.Order.CompletePartialOrder
import Reperio.Worker.DuplicateClusters

/-!
# Clusters as connected components

Candidates with different ids are the vertices of a graph, whose edges join those that
are close to each other. The groups of images and of videos are its connected components
with more than one vertex. Nothing here depends on the order of the candidates.
-/

namespace Reperio.Duplicates

open Python Encoding Relational UnionFind

/-! ## Graphs of candidates -/

/-- Valid candidates with related values, the one with the lesser id first. -/
def closeGraph {α : Type} (read : DuplicateCandidate → Reading α) (related : α → α → Bool)
    (candidates : List DuplicateCandidate) : SimpleGraph DuplicateCandidate :=
  SimpleGraph.fromRel fun left right => left.findingId < right.findingId ∧
    left ∈ candidates ∧ right ∈ candidates ∧ ∃ leftValue rightValue,
      read left = .valid leftValue ∧ read right = .valid rightValue ∧
        related leftValue rightValue = true

/-- Images whose hashes are within the threshold. -/
def imageGraph (config : DuplicateGroupingConfig) (candidates : List DuplicateCandidate) :
    SimpleGraph DuplicateCandidate :=
  SimpleGraph.fromRel fun left right => left ∈ candidates ∧ right ∈ candidates ∧
    ∃ leftHash rightHash, readImage left = .valid leftHash ∧ readImage right = .valid rightHash ∧
      (hamming leftHash rightHash : ℤ) ≤ config.imageHammingThreshold

/-- Videos of which the one with the lesser id has enough of its frames in the other one. -/
def videoGraph (config : DuplicateGroupingConfig) (candidates : List DuplicateCandidate) :
    SimpleGraph DuplicateCandidate :=
  SimpleGraph.fromRel fun left right => left.findingId < right.findingId ∧
    left ∈ candidates ∧ right ∈ candidates ∧ ∃ leftFrames rightFrames,
      readVideo config left = .valid leftFrames ∧ readVideo config right = .valid rightFrames ∧
        config.videoMinMatchingFrames ≤
          matchingFrames leftFrames rightFrames config.videoFrameHammingThreshold

/-- The ids of the vertices of each connected component that has more than one. -/
def componentIds (graph : SimpleGraph DuplicateCandidate) : Set (Set PyStr) :=
  {ids | ∃ component : graph.ConnectedComponent, component.supp.Nontrivial ∧
    ids = DuplicateCandidate.findingId '' component.supp}

theorem hamming_comm (left right : ℕ) : hamming left right = hamming right left := by
  rw [hamming, hamming, Nat.xor_comm]

theorem videoGraph_eq (config : DuplicateGroupingConfig) (candidates : List DuplicateCandidate) :
    videoGraph config candidates =
      closeGraph (readVideo config) (videoRelated config) candidates := by
  simp only [videoGraph, closeGraph, videoRelated, decide_eq_true_eq]

section Distinct

variable {candidates : List DuplicateCandidate}
  (distinct : (candidates.map DuplicateCandidate.findingId).Nodup)

include distinct

theorem eq_of_findingId_eq {first second : DuplicateCandidate} (isFirst : first ∈ candidates)
    (isSecond : second ∈ candidates) (same : first.findingId = second.findingId) : first = second :=
  List.inj_on_of_nodup_map distinct isFirst isSecond same

/-- A distance has no direction, so that the order of ids does not matter for images. -/
theorem imageGraph_eq (config : DuplicateGroupingConfig) :
    imageGraph config candidates = closeGraph readImage (imageRelated config) candidates := by
  ext left right
  simp only [imageGraph, closeGraph, imageRelated, SimpleGraph.fromRel_adj, decide_eq_true_eq]
  refine and_congr_right fun different => ⟨fun adjacent => ?_, fun adjacent => ?_⟩
  · have close : left ∈ candidates ∧ right ∈ candidates ∧ ∃ leftHash rightHash,
        readImage left = .valid leftHash ∧ readImage right = .valid rightHash ∧
          (hamming leftHash rightHash : ℤ) ≤ config.imageHammingThreshold := by
      rcases adjacent with close | ⟨isRight, isLeft, rightHash, leftHash, right, left, near⟩
      · exact close
      · exact ⟨isLeft, isRight, leftHash, rightHash, left, right, hamming_comm _ _ ▸ near⟩
    obtain ⟨isLeft, isRight, leftHash, rightHash, readLeft, readRight, near⟩ := close
    have apart : left.findingId ≠ right.findingId :=
      fun same => different (eq_of_findingId_eq distinct isLeft isRight same)
    rcases lt_or_gt_of_ne apart with less | greater
    · exact Or.inl ⟨less, isLeft, isRight, leftHash, rightHash, readLeft, readRight, near⟩
    · refine Or.inr ⟨greater, isRight, isLeft, rightHash, leftHash, readRight, readLeft, ?_⟩
      rwa [hamming_comm]
  · exact adjacent.imp (fun close => close.2) fun close => close.2

end Distinct

/-! ## Chains and paths -/

variable {left right other : DuplicateCandidate}

section Paths

variable {α : Type} {read : DuplicateCandidate → Reading α} {related : α → α → Bool}
  {items : List DuplicateCandidate}

theorem lookup_of_mem {values : List (DuplicateCandidate × α)} {item : DuplicateCandidate}
    {value : α}
    (distinct : (values.map fun value => value.1.findingId).Nodup) (isIn : (item, value) ∈ values) :
    lookup item.findingId values = some value := by
  have isFound : (values.find? fun value => value.1.findingId = item.findingId).isSome :=
    List.find?_isSome.mpr ⟨(item, value), isIn, decide_eq_true rfl⟩
  obtain ⟨found, isFound⟩ := Option.isSome_iff_exists.mp isFound
  have sameId : found.1.findingId = item.findingId := by simpa using List.find?_some isFound
  have same : found = (item, value) :=
    List.inj_on_of_nodup_map distinct (List.mem_of_find?_eq_some isFound) isIn sameId
  rw [lookup, isFound, same]
  rfl

/-- In an increasing list the lesser one of two items comes first. -/
theorem pair_sublist_iff
    (increasing : items.Pairwise fun first second => first.findingId < second.findingId) :
    [left, right].Sublist items ↔ left ∈ items ∧ right ∈ items ∧
      left.findingId < right.findingId := by
  constructor
  · intro isPair
    have ordered := List.Pairwise.sublist isPair increasing
    exact ⟨isPair.subset (by simp), isPair.subset (by simp), by simpa using ordered⟩
  · rintro ⟨isLeft, isRight, less⟩
    obtain ⟨front, back, rfl⟩ := List.append_of_mem isLeft
    obtain ⟨-, later, earlier⟩ := List.pairwise_append.mp increasing
    have inBack : right ∈ back := by
      rcases List.mem_append.mp isRight with inFront | inRest
      · exact absurd (earlier right inFront left List.mem_cons_self) less.asymm
      · rcases List.mem_cons.mp inRest with rfl | inBack
        · exact absurd less (lt_irrefl _)
        · exact inBack
    exact ((List.singleton_sublist.mpr inBack).cons_cons left).trans (List.sublist_append_right _ _)

theorem mem_valid {item : DuplicateCandidate} : item ∈ (validItems read items).map Prod.fst ↔
      item ∈ items ∧ ∃ value, read item = .valid value := by
  simp only [List.mem_map, Prod.exists, mem_validItems]
  constructor
  · rintro ⟨item, value, ⟨isIn, isValid⟩, rfl⟩
    exact ⟨isIn, value, isValid⟩
  · rintro ⟨isIn, value, isValid⟩
    exact ⟨item, value, ⟨isIn, isValid⟩, rfl⟩

variable (increasing : items.Pairwise fun first second => first.findingId < second.findingId)

include increasing

theorem nodup_findingIds_valid :
    ((validItems read items).map fun value => value.1.findingId).Nodup := by
  have sorted := increasing.sublist (map_fst_validItems_sublist read items)
  exact List.pairwise_map.mpr ((List.pairwise_map.mp sorted).imp ne_of_lt)

theorem areClose_iff {leftValue rightValue : α} (isLeft : (left, leftValue) ∈ validItems read items)
    (isRight : (right, rightValue) ∈ validItems read items) :
    areClose related (validItems read items) left right = related leftValue rightValue := by
  rw [areClose, lookup_of_mem (nodup_findingIds_valid increasing) isLeft,
    lookup_of_mem (nodup_findingIds_valid increasing) isRight]

/-- The pairs that are joined are the edges of the graph. -/
theorem pair_iff_rel : ([left, right].Sublist ((validItems read items).map Prod.fst) ∧
      areClose related (validItems read items) left right = true) ↔
        left.findingId < right.findingId ∧ left ∈ items ∧ right ∈ items ∧ ∃ leftValue rightValue,
          read left = .valid leftValue ∧ read right = .valid rightValue ∧
            related leftValue rightValue = true := by
  have sorted := increasing.sublist (map_fst_validItems_sublist read items)
  rw [pair_sublist_iff sorted, mem_valid, mem_valid]
  constructor
  · rintro ⟨⟨⟨isLeft, leftValue, readLeft⟩, ⟨isRight, rightValue, readRight⟩, less⟩, isClose⟩
    rw [areClose_iff increasing (mem_validItems.mpr ⟨isLeft, readLeft⟩)
      (mem_validItems.mpr ⟨isRight, readRight⟩)] at isClose
    exact ⟨less, isLeft, isRight, leftValue, rightValue, readLeft, readRight, isClose⟩
  · rintro ⟨less, isLeft, isRight, leftValue, rightValue, readLeft, readRight, isClose⟩
    refine ⟨⟨⟨isLeft, leftValue, readLeft⟩, ⟨isRight, rightValue, readRight⟩, less⟩, ?_⟩
    rwa [areClose_iff increasing (mem_validItems.mpr ⟨isLeft, readLeft⟩)
      (mem_validItems.mpr ⟨isRight, readRight⟩)]

theorem reachable_of_linked {one other : PyStr}
    (linked : Linked (areClose related (validItems read items))
      ((validItems read items).map Prod.fst) one other) :
    one = other ∨ ∃ left ∈ items, ∃ right ∈ items, left.findingId = one ∧ right.findingId = other ∧
      (closeGraph read related items).Reachable left right := by
  have distinct : (items.map DuplicateCandidate.findingId).Nodup :=
    List.pairwise_map.mpr (increasing.imp ne_of_lt)
  induction linked with
  | rel one other joined =>
    obtain ⟨left, right, isPair, isClose, rfl, rfl⟩ := mem_closePairs.mp joined
    have isRel := (pair_iff_rel increasing).mp ⟨isPair, isClose⟩
    have different : left ≠ right := fun same => isRel.1.ne (congrArg _ same)
    have adjacent : (closeGraph read related items).Adj left right := by
      rw [closeGraph, SimpleGraph.fromRel_adj]
      exact ⟨different, Or.inl isRel⟩
    exact Or.inr ⟨left, isRel.2.1, right, isRel.2.2.1, rfl, rfl, adjacent.reachable⟩
  | refl one => exact Or.inl rfl
  | symm one other _ ih =>
    rcases ih with same | ⟨left, isLeft, right, isRight, isOne, isOther, reachable⟩
    · exact Or.inl same.symm
    · exact Or.inr ⟨right, isRight, left, isLeft, isOther, isOne, reachable.symm⟩
  | trans one middle other _ _ before after =>
    rcases before with rfl | ⟨left, isLeft, right, isRight, isOne, isMiddle, reachable⟩
    · exact after
    · rcases after with rfl | ⟨next, isNext, last, isLast, sameMiddle, isOther, further⟩
      · exact Or.inr ⟨left, isLeft, right, isRight, isOne, isMiddle, reachable⟩
      · have same := eq_of_findingId_eq distinct isRight isNext (isMiddle.trans sameMiddle.symm)
        subst same
        exact Or.inr ⟨left, isLeft, last, isLast, isOne, isOther, reachable.trans further⟩

theorem linked_of_reachable (reachable : (closeGraph read related items).Reachable left right) :
    Linked (areClose related (validItems read items)) ((validItems read items).map Prod.fst)
      left.findingId right.findingId ∧ (left ∈ (validItems read items).map Prod.fst →
          right ∈ (validItems read items).map Prod.fst) := by
  rw [SimpleGraph.reachable_iff_reflTransGen] at reachable
  induction reachable with
  | refl => exact ⟨.refl _, id⟩
  | tail _ adjacent ih =>
    rw [closeGraph, SimpleGraph.fromRel_adj, ← pair_iff_rel increasing,
      ← pair_iff_rel increasing] at adjacent
    rcases adjacent.2 with ⟨isPair, isClose⟩ | ⟨isPair, isClose⟩
    · have joined := mem_closePairs.mpr ⟨_, _, isPair, isClose, rfl, rfl⟩
      exact ⟨.trans _ _ _ ih.1 (.rel _ _ joined), fun _ => isPair.subset (by simp)⟩
    · have joined := mem_closePairs.mpr ⟨_, _, isPair, isClose, rfl, rfl⟩
      exact ⟨.trans _ _ _ ih.1 (.symm _ _ (.rel _ _ joined)), fun _ => isPair.subset (by simp)⟩

/-- A chain leads to what a path leads to. -/
theorem mem_closeTo_iff {item : DuplicateCandidate}
    (isIn : item ∈ (validItems read items).map Prod.fst) :
    other ∈ closeTo read related items item.findingId ↔
      (closeGraph read related items).Reachable item other := by
  have distinct : (items.map DuplicateCandidate.findingId).Nodup :=
    List.pairwise_map.mpr (increasing.imp ne_of_lt)
  rw [closeTo, mem_linkedTo]
  constructor
  · rintro ⟨isOther, linked⟩
    have inItems := mem_valid.mp isIn
    have otherIn := mem_valid.mp isOther
    rcases reachable_of_linked increasing linked
      with same | ⟨left, isLeft, right, isRight, isItem, same, path⟩
    · rw [eq_of_findingId_eq distinct inItems.1 otherIn.1 same]
    · rwa [eq_of_findingId_eq distinct isLeft inItems.1 isItem,
        eq_of_findingId_eq distinct isRight otherIn.1 same] at path
  · intro reachable
    obtain ⟨linked, stays⟩ := linked_of_reachable increasing reachable
    exact ⟨stays isIn, linked⟩

/-- Only valid candidates have edges. -/
theorem mem_valid_of_reachable {item : DuplicateCandidate}
    (reachable : (closeGraph read related items).Reachable item other) (different : item ≠ other) :
    item ∈ (validItems read items).map Prod.fst := by
  rw [SimpleGraph.reachable_iff_reflTransGen] at reachable
  rcases Relation.ReflTransGen.cases_head reachable with same | ⟨next, adjacent, -⟩
  · exact absurd same different
  · rw [closeGraph, SimpleGraph.fromRel_adj, ← pair_iff_rel increasing,
      ← pair_iff_rel increasing] at adjacent
    rcases adjacent.2 with ⟨isPair, -⟩ | ⟨isPair, -⟩
    · exact isPair.subset (by simp)
    · exact isPair.subset (by simp)

omit increasing in
theorem two_le_length_iff {cluster : List DuplicateCandidate} (distinct : cluster.Nodup) :
    2 ≤ cluster.length ↔ {item | item ∈ cluster}.Nontrivial := by
  cases cluster with
  | nil => simp [Set.Nontrivial]
  | cons first cluster =>
    cases cluster with
    | nil => simp [Set.Nontrivial]
    | cons second cluster =>
      have apart : first ≠ second := fun same => by simp [same] at distinct
      refine iff_of_true (by simp) ⟨first, by simp, second, by simp, apart⟩

theorem nodup_closeTo (findingId : PyStr) : (closeTo read related items findingId).Nodup := by
  have sorted := increasing.sublist (map_fst_validItems_sublist read items)
  refine List.Nodup.filter _ (sorted.imp fun less same => ?_)
  exact less.ne (congrArg _ same)

/-- The clusters are the components with more than one vertex. -/
theorem componentIds_closeGraph : componentIds (closeGraph read related items) =
      {ids | ∃ cluster, IsCloseCluster read related items cluster ∧
        ids = DuplicateCandidate.findingId '' {item | item ∈ cluster}} := by
  have supp (item : DuplicateCandidate) (isIn : item ∈ (validItems read items).map Prod.fst) :
      ((closeGraph read related items).connectedComponentMk item).supp =
        {other | other ∈ closeTo read related items item.findingId} := by
    ext other
    rw [SimpleGraph.ConnectedComponent.mem_supp_iff, SimpleGraph.ConnectedComponent.eq,
      Set.mem_ofPred_eq, mem_closeTo_iff increasing isIn]
    exact ⟨SimpleGraph.Reachable.symm, SimpleGraph.Reachable.symm⟩
  ext ids
  constructor
  · rintro ⟨component, nontrivial, rfl⟩
    obtain ⟨item, rfl⟩ := component.exists_rep
    obtain ⟨other, isOther, different⟩ := nontrivial.exists_ne item
    have reachable := SimpleGraph.ConnectedComponent.exact
      ((SimpleGraph.ConnectedComponent.mem_supp_iff _ _).mp isOther)
    have isIn := mem_valid_of_reachable increasing reachable.symm different.symm
    have isSupp := supp item isIn
    refine ⟨_, ⟨item, isIn, rfl, ?_⟩, congrArg _ isSupp⟩
    rw [two_le_length_iff (nodup_closeTo increasing _), ← isSupp]
    exact nontrivial
  · rintro ⟨cluster, ⟨item, isIn, rfl, severals⟩, rfl⟩
    refine ⟨(closeGraph read related items).connectedComponentMk item, ?_, ?_⟩
    · rw [supp item isIn]
      exact (two_le_length_iff (nodup_closeTo increasing _)).mp severals
    · rw [supp item isIn]

/-- What is in a cluster has an edge. -/
theorem exists_closeCluster_iff {item : DuplicateCandidate} :
    (∃ cluster, IsCloseCluster read related items cluster ∧ item ∈ cluster) ↔
      ∃ other, (closeGraph read related items).Adj item other := by
  constructor
  · rintro ⟨cluster, ⟨first, isFirst, rfl, severals⟩, isIn⟩
    obtain ⟨other, isOther, different⟩ :=
      ((two_le_length_iff (nodup_closeTo increasing _)).mp severals).exists_ne item
    have reachable := ((mem_closeTo_iff increasing isFirst).mp isIn).symm.trans
      ((mem_closeTo_iff increasing isFirst).mp isOther)
    rw [SimpleGraph.reachable_iff_reflTransGen] at reachable
    rcases Relation.ReflTransGen.cases_head reachable with same | ⟨next, adjacent, -⟩
    · exact absurd same.symm different
    · exact ⟨next, adjacent⟩
  · rintro ⟨other, adjacent⟩
    have isValid := mem_valid_of_reachable increasing adjacent.reachable adjacent.ne
    have isIn : item ∈ closeTo read related items item.findingId :=
      (mem_closeTo_iff increasing isValid).mpr (SimpleGraph.Reachable.refl item)
    have isOther : other ∈ closeTo read related items item.findingId :=
      (mem_closeTo_iff increasing isValid).mpr adjacent.reachable
    refine ⟨_, ⟨item, isValid, rfl, ?_⟩, isIn⟩
    exact (two_le_length_iff (nodup_closeTo increasing _)).mpr
      ⟨item, isIn, other, isOther, adjacent.ne⟩

end Paths

/-- There is another candidate with the digest, and all that have it agree on the size. -/
def HasSameContent (candidates : List DuplicateCandidate) (item : DuplicateCandidate) : Prop :=
  ∃ digest, readDigest item = .valid digest ∧
    (∃ other ∈ candidates, other ≠ item ∧ readDigest other = .valid digest) ∧
      ∀ other ∈ candidates, readDigest other = .valid digest → other.sizeBytes = item.sizeBytes

theorem exists_exactCluster_iff {items : List DuplicateCandidate} (distinct : items.Nodup)
    {item : DuplicateCandidate} (isItem : item ∈ items) :
    (∃ cluster, IsExactCluster items cluster ∧ item ∈ cluster) ↔ HasSameContent items item := by
  have inCluster (digest : PyStr) (other : DuplicateCandidate) :
      other ∈ items.filter (fun item => readDigest item = .valid digest) ↔
        other ∈ items ∧ readDigest other = .valid digest := by
    rw [List.mem_filter, decide_eq_true_iff]
  constructor
  · rintro ⟨cluster, ⟨digest, rfl, severals, oneSize⟩, isIn⟩
    obtain ⟨other, isOther, different⟩ :=
      ((two_le_length_iff (distinct.filter _)).mp severals).exists_ne item
    obtain ⟨otherIn, readOther⟩ := (inCluster digest other).mp isOther
    refine ⟨digest, ((inCluster digest item).mp isIn).2, ⟨other, otherIn, different, readOther⟩, ?_⟩
    intro third isThird readThird
    exact oneSize third ((inCluster digest third).mpr ⟨isThird, readThird⟩) item isIn
  · rintro ⟨digest, readItem, ⟨other, isOther, different, readOther⟩, sizes⟩
    have isIn := (inCluster digest item).mpr ⟨isItem, readItem⟩
    refine ⟨_, ⟨digest, rfl, ?_, ?_⟩, isIn⟩
    · refine (two_le_length_iff (distinct.filter _)).mpr ?_
      exact ⟨item, isIn, other, (inCluster digest other).mpr ⟨isOther, readOther⟩, different.symm⟩
    · intro first isFirst second isSecond
      obtain ⟨firstIn, readFirst⟩ := (inCluster digest first).mp isFirst
      obtain ⟨secondIn, readSecond⟩ := (inCluster digest second).mp isSecond
      rw [sizes first firstIn readFirst, sizes second secondIn readSecond]

/-! ## Groups as components -/

/-- The ids of the members. -/
def DuplicateGroup.ids (group : DuplicateGroup) : Set PyStr :=
  {findingId | ∃ member ∈ group.members, member.findingId = findingId}

/-- The ids of each group of a kind. -/
def DuplicateGroupingResult.idsOf (result : DuplicateGroupingResult) (kind : GroupKind) :
    Set (Set PyStr) :=
  {ids | ∃ group ∈ result.groups, group.groupKind = kind ∧ ids = group.ids}

/-- The groups of images and of videos are components, and no two groups of a kind share a
candidate. -/
structure DuplicateGroupingResult.IsPartition (config : DuplicateGroupingConfig)
    (candidates : List DuplicateCandidate) (result : DuplicateGroupingResult) : Prop where
  images : result.idsOf .imagePerceptual = componentIds (imageGraph config candidates)
  videos : result.idsOf .videoKeyframe = componentIds (videoGraph config candidates)
  apart : result.groups.Pairwise fun first second =>
    first.groupKind = second.groupKind → Disjoint first.ids second.ids
  once : ∀ group ∈ result.groups, (group.members.map DuplicateMember.findingId).Nodup

theorem pairwise_of_forall₂ {α β : Type} {related : α → β → Prop} {before : α → α → Prop}
    {after : β → β → Prop} {items : List α} {others : List β}
    (paired : List.Forall₂ related items others) (pairwise : items.Pairwise before)
    (each : ∀ first second other otherSecond, related first other → related second otherSecond →
      before first second → after other otherSecond) : others.Pairwise after := by
  induction paired with
  | nil => exact .nil
  | cons isRelated paired ih =>
    obtain ⟨first, later⟩ := List.pairwise_cons.mp pairwise
    refine List.pairwise_cons.mpr ⟨fun other isOther => ?_, ih later⟩
    refine forall_mem_of_forall₂ paired (fun item isItem result itemRelated => ?_) other isOther
    exact each _ _ _ _ isRelated itemRelated (first item isItem)

section Result

variable (hexdigest : List UInt8 → PyStr) {config : DuplicateGroupingConfig}
  {items cluster : List DuplicateCandidate} {kind : GroupKind} {group : DuplicateGroup}

theorem ids_of_groupOf (returned : groupOf hexdigest config items (kind, cluster) = .ok group) :
    group.ids = DuplicateCandidate.findingId '' {item | item ∈ cluster} := by
  have represents := represents_of_groupOf hexdigest config returned
  ext findingId
  have mapped : findingId ∈ (membersOf config items kind cluster).map DuplicateMember.findingId ↔
      findingId ∈ cluster.map DuplicateCandidate.findingId := by rw [map_findingId_membersOf]
  simp only [List.mem_map] at mapped
  simp only [DuplicateGroup.ids, represents.members_eq, mem_orderBy, Set.mem_ofPred_eq,
    Set.mem_image, mapped]

theorem nodup_of_groupOf (returned : groupOf hexdigest config items (kind, cluster) = .ok group)
    (distinct : (cluster.map DuplicateCandidate.findingId).Nodup) :
    (group.members.map DuplicateMember.findingId).Nodup := by
  have represents := represents_of_groupOf hexdigest config returned
  rw [represents.members_eq, ((perm_orderBy _ _).map _).nodup_iff, map_findingId_membersOf]
  exact distinct

variable {candidates : List DuplicateCandidate} {options : Option DuplicateGroupingConfig}
  (distinct : (candidates.map DuplicateCandidate.findingId).Nodup)

include distinct

theorem increasing_orderBy :
    (orderBy DuplicateCandidate.findingId candidates).Pairwise fun first second =>
      first.findingId < second.findingId := pairwise_lt_orderBy distinct

omit distinct in
theorem closeGraph_orderBy {α : Type} (read : DuplicateCandidate → Reading α)
    (related : α → α → Bool) (candidates : List DuplicateCandidate) :
    closeGraph read related (orderBy DuplicateCandidate.findingId candidates) =
      closeGraph read related candidates := by
  simp only [closeGraph, mem_orderBy]

/-- No two clusters of a kind share an id. -/
theorem pairwise_allClusters :
    (allClusters config (orderBy DuplicateCandidate.findingId candidates)).Pairwise
      fun first second => first.1 = second.1 →
        ∀ one ∈ first.2, ∀ other ∈ second.2, one.findingId ≠ other.findingId := by
  have ofKind {clusters : List (List DuplicateCandidate)} (kind : GroupKind)
      (apart : clusters.Pairwise fun first second =>
        ∀ one ∈ first, ∀ other ∈ second, one.findingId ≠ other.findingId) :
      (clusters.map (Prod.mk kind)).Pairwise fun first second => first.1 = second.1 →
        ∀ one ∈ first.2, ∀ other ∈ second.2, one.findingId ≠ other.findingId :=
    List.pairwise_map.mpr (apart.imp fun isApart (_ : kind = kind) => isApart)
  have exact : (exactClusters (orderBy DuplicateCandidate.findingId candidates)).Pairwise
      fun first second => ∀ one ∈ first, ∀ other ∈ second, one.findingId ≠ other.findingId := by
    refine (pairwise_exactClusters _).imp_of_mem fun {first second} isFirst isSecond apart => ?_
    intro one isOne other isOther same
    obtain ⟨_, rfl, -⟩ := mem_exactClusters.mp isFirst
    obtain ⟨_, rfl, -⟩ := mem_exactClusters.mp isSecond
    have oneIn := mem_orderBy.mp (List.mem_filter.mp isOne).1
    have otherIn := mem_orderBy.mp (List.mem_filter.mp isOther).1
    rw [eq_of_findingId_eq distinct oneIn otherIn same] at isOne
    exact apart isOne isOther
  rw [allClusters, List.pairwise_append, List.pairwise_append]
  refine ⟨⟨ofKind _ exact, ofKind _ (pairwise_clusters _ _), ?_⟩, ofKind _ (pairwise_clusters _ _),
    ?_⟩
  · intro first isFirst second isSecond same
    obtain ⟨_, -, rfl⟩ := List.mem_map.mp isFirst
    obtain ⟨_, -, rfl⟩ := List.mem_map.mp isSecond
    cases same
  · intro first isFirst second isSecond same
    obtain ⟨_, -, rfl⟩ := List.mem_map.mp isSecond
    rcases List.mem_append.mp isFirst with isExact | isImage
    · obtain ⟨_, -, rfl⟩ := List.mem_map.mp isExact
      cases same
    · obtain ⟨_, -, rfl⟩ := List.mem_map.mp isImage
      cases same

theorem isPartition_of_build (result : DuplicateGroupingResult)
    (returned : buildDuplicateGroups hexdigest candidates options = .ok result) :
    result.IsPartition (options.getD {}) candidates := by
  have increasing := increasing_orderBy distinct
  have distinctItems : ((orderBy DuplicateCandidate.findingId candidates).map
      DuplicateCandidate.findingId).Nodup :=
    ((perm_orderBy _ _).map _).nodup_iff.mpr distinct
  -- the ids of the groups of a kind are those of its clusters, each of which has a group
  have idsOf (kind : GroupKind) : result.idsOf kind = {ids | ∃ cluster,
      IsCluster (options.getD {}) (orderBy DuplicateCandidate.findingId candidates) cluster kind ∧
        ids = DuplicateCandidate.findingId '' {item | item ∈ cluster}} := by
    ext ids
    constructor
    · rintro ⟨group, isGroup, rfl, rfl⟩
      obtain ⟨kind, cluster, isCluster, isGroup⟩ := (mem_groups hexdigest returned).mp isGroup
      have sameKind := (represents_of_groupOf hexdigest _ isGroup).kind_eq
      exact ⟨cluster, sameKind ▸ isCluster, ids_of_groupOf hexdigest isGroup⟩
    · rintro ⟨cluster, isCluster, rfl⟩
      have encodable := (exists_build_iff hexdigest).mp ⟨result, returned⟩ kind cluster isCluster
      obtain ⟨group, isGroup⟩ := (exists_groupOf_iff hexdigest _ isCluster.nonempty).mpr encodable
      exact ⟨group, (mem_groups hexdigest returned).mpr ⟨kind, cluster, isCluster, isGroup⟩,
        (represents_of_groupOf hexdigest _ isGroup).kind_eq,
        (ids_of_groupOf hexdigest isGroup).symm⟩
  constructor
  · rw [idsOf, imageGraph_eq distinct, ← closeGraph_orderBy, componentIds_closeGraph increasing]
    rfl
  · rw [idsOf, videoGraph_eq, ← closeGraph_orderBy, componentIds_closeGraph increasing]
    rfl
  · obtain ⟨groups, isResult, isGroups⟩ := groups_of_build hexdigest returned
    rw [isResult]
    refine ((perm_orderBy _ groups).pairwise_iff fun apart same => (apart same.symm).symm).mpr ?_
    refine pairwise_of_forall₂ (forall₂_of_mapM_ok isGroups) (pairwise_allClusters distinct) ?_
    rintro ⟨kind, first⟩ ⟨otherKind, second⟩ group other isGroup isOther apart sameKind
    rw [(represents_of_groupOf hexdigest _ isGroup).kind_eq,
      (represents_of_groupOf hexdigest _ isOther).kind_eq] at sameKind
    rw [ids_of_groupOf hexdigest isGroup, ids_of_groupOf hexdigest isOther, Set.disjoint_left]
    rintro _ ⟨one, isOne, rfl⟩ ⟨other, isOther, same⟩
    exact apart sameKind one isOne other isOther same.symm
  · intro group isGroup
    obtain ⟨kind, cluster, isCluster, isGroup⟩ := (mem_groups hexdigest returned).mp isGroup
    exact nodup_of_groupOf hexdigest isGroup ((isCluster.sublist.map _).nodup distinctItems)

/-- A candidate is in some group. -/
def IsGrouped (config : DuplicateGroupingConfig) (candidates : List DuplicateCandidate)
    (item : DuplicateCandidate) : Prop :=
  HasSameContent candidates item ∨ (∃ other, (imageGraph config candidates).Adj item other) ∨
    ∃ other, (videoGraph config candidates).Adj item other

theorem isGrouped_iff {item : DuplicateCandidate} (isItem : item ∈ candidates) :
    IsGrouped config candidates item ↔ ∃ kind cluster,
      IsCluster config (orderBy DuplicateCandidate.findingId candidates) cluster kind ∧
        item ∈ cluster := by
  have increasing := increasing_orderBy distinct
  have nodup : (orderBy DuplicateCandidate.findingId candidates).Nodup :=
    (perm_orderBy _ _).nodup_iff.mpr (List.Nodup.of_map _ distinct)
  have sameContent : HasSameContent candidates item ↔ ∃ cluster,
      IsExactCluster (orderBy DuplicateCandidate.findingId candidates) cluster ∧
        item ∈ cluster := by
    rw [exists_exactCluster_iff nodup (mem_orderBy.mpr isItem)]
    simp only [HasSameContent, mem_orderBy]
  rw [IsGrouped, sameContent, imageGraph_eq distinct, videoGraph_eq, ← closeGraph_orderBy readImage,
    ← closeGraph_orderBy (readVideo config), ← exists_closeCluster_iff increasing,
    ← exists_closeCluster_iff increasing]
  constructor
  · rintro (isExact | isImage | isVideo)
    · exact ⟨.exactSha256, isExact⟩
    · exact ⟨.imagePerceptual, isImage⟩
    · exact ⟨.videoKeyframe, isVideo⟩
  · rintro ⟨kind, isKind⟩
    cases kind with
    | exactSha256 => exact Or.inl isKind
    | imagePerceptual => exact Or.inr (Or.inl isKind)
    | videoKeyframe => exact Or.inr (Or.inr isKind)

/-- There is a result unless the id of a candidate in a group cannot be encoded, or the number of
frames in the warning of a video group has too many digits. -/
theorem exists_build_of_distinct :
    (∃ result, buildDuplicateGroups hexdigest candidates options = .ok result) ↔
      (∀ item ∈ candidates, IsGrouped (options.getD {}) candidates item → item.findingId.IsScalar) ∧
        (videoGraph (options.getD {}) candidates ≠ ⊥ →
          HasText (options.getD {}).videoMinMatchingFrames) := by
  have increasing := increasing_orderBy distinct
  have someVideo : videoGraph (options.getD {}) candidates ≠ ⊥ ↔ ∃ cluster,
      IsCluster (options.getD {}) (orderBy DuplicateCandidate.findingId candidates) cluster
        .videoKeyframe := by
    rw [SimpleGraph.ne_bot_iff_exists_adj, videoGraph_eq, ← closeGraph_orderBy]
    constructor
    · rintro ⟨item, adjacent⟩
      obtain ⟨cluster, isCluster, -⟩ := (exists_closeCluster_iff increasing).mpr adjacent
      exact ⟨cluster, isCluster⟩
    · rintro ⟨cluster, isCluster⟩
      obtain ⟨item, isIn⟩ := List.exists_mem_of_ne_nil cluster isCluster.nonempty
      exact ⟨item, (exists_closeCluster_iff increasing).mp ⟨cluster, isCluster, isIn⟩⟩
  rw [exists_build_iff, someVideo]
  constructor
  · intro encodable
    refine ⟨fun item isItem isGrouped => ?_, fun ⟨cluster, isCluster⟩ => ?_⟩
    · obtain ⟨kind, cluster, isCluster, isIn⟩ := (isGrouped_iff distinct isItem).mp isGrouped
      exact (encodable kind cluster isCluster).1 item isIn
    · exact (encodable .videoKeyframe cluster isCluster).2 rfl
  · rintro ⟨scalar, hasText⟩ kind cluster isCluster
    refine ⟨fun item isIn => ?_, fun isVideo => hasText ⟨cluster, isVideo ▸ isCluster⟩⟩
    have isItem := mem_orderBy.mp (isCluster.sublist.subset isIn)
    exact scalar item isItem ((isGrouped_iff distinct isItem).mpr ⟨kind, cluster, isCluster, isIn⟩)

/-- The groups of images and of videos are the components of their graphs, in whichever order the
candidates come. -/
theorem buildDuplicateGroups_components :
    (∀ other, candidates.Perm other → buildDuplicateGroups hexdigest other options =
      buildDuplicateGroups hexdigest candidates options) ∧
    (∀ result, buildDuplicateGroups hexdigest candidates options = .ok result →
      result.IsPartition (options.getD {}) candidates) ∧
    ((∃ result, buildDuplicateGroups hexdigest candidates options = .ok result) ↔
      (∀ item ∈ candidates, IsGrouped (options.getD {}) candidates item → item.findingId.IsScalar) ∧
        (videoGraph (options.getD {}) candidates ≠ ⊥ →
          HasText (options.getD {}).videoMinMatchingFrames)) := by
  refine ⟨fun other perm => ?_, isPartition_of_build hexdigest distinct,
    exists_build_of_distinct hexdigest distinct⟩
  have sameOrder : orderBy DuplicateCandidate.findingId candidates =
      orderBy DuplicateCandidate.findingId other :=
    orderBy_congr _ perm fun first isFirst second isSecond same =>
      eq_of_findingId_eq distinct isFirst isSecond same
  rw [buildDuplicateGroups, buildDuplicateGroups, sameOrder]

end Result

def sampleImage (findingId : PyStr) (perceptualHash : String) : DuplicateCandidate where
  findingId := findingId
  contentSha256 := none
  sizeBytes := some 10
  sourcePaths := [.ofString "/photo.jpg"]
  mediaKind := .ofString "image"
  perceptualHash := some (.ofString perceptualHash)

/-- The digest of the one group of the images below. -/
def sampleHexdigest (_ : List UInt8) : PyStr :=
  .ofString "f987c962e7edd3e22623ee0810179f3232bbd5bb2bcb8fd22ebdf23faeae7f69"

def twoImages : List DuplicateCandidate :=
  [sampleImage (.ofString "second") "fffe", sampleImage (.ofString "first") "ffff"]

theorem buildDuplicateGroups_components_twoImages :
    ∃ result, buildDuplicateGroups sampleHexdigest twoImages none = .ok result ∧
      result.IsPartition {} twoImages ∧ result.groups.length = 1 := by
  have distinct : (twoImages.map DuplicateCandidate.findingId).Nodup := by decide
  have built : (buildDuplicateGroups sampleHexdigest twoImages none).toOption.map
      (fun result => result.groups.length) = some 1 := by decide
  obtain ⟨result, returned, severals⟩ := Option.map_eq_some_iff.mp built
  have returned := eq_ok_of_toOption returned
  have partition := (buildDuplicateGroups_components sampleHexdigest distinct).2.1 result returned
  exact ⟨result, returned, partition, severals⟩

/-- An image whose id is a lone surrogate, and one that looks the same. -/
def surrogateImages : List DuplicateCandidate :=
  [sampleImage [0xD800] "ffff", sampleImage (.ofString "first") "ffff"]

theorem surrogateImages_not_grouped : (surrogateImages.map DuplicateCandidate.findingId).Nodup ∧
      ¬∃ result, buildDuplicateGroups sampleHexdigest surrogateImages none = .ok result ∧
        result.idsOf .imagePerceptual = componentIds (imageGraph {} surrogateImages) := by
  have raises : buildDuplicateGroups sampleHexdigest surrogateImages none =
      .error .unicodeEncodeError := by decide
  refine ⟨by decide, ?_⟩
  rintro ⟨result, returned, -⟩
  rw [raises] at returned
  cases returned

end Reperio.Duplicates
