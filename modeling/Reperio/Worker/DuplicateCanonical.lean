import Mathlib.Data.LawfulXor.Basic
import Mathlib.Data.List.Find
import Mathlib.Data.Nat.Digits.Lemmas
import Reperio.Worker.DuplicateClusters

/-!
# The member that stands for a group

The member that a group names is chosen by the source paths of its members, and the one
that distances and frames are measured to by the previews of its candidates. The two
choices agree on what they are used for exactly under a condition on each cluster
(`canonicals_agree_iff`).
-/

namespace Reperio.Duplicates

open Python Encoding Relational

/-! ## Least members -/

/-- Nothing in the list comes before the item. -/
def IsPreferred {α κ : Type} [LinearOrder κ] (key : α → κ) (items : List α) (item : α) : Prop :=
  item ∈ items ∧ ∀ other ∈ items, key item ≤ key other

variable {α : Type} {first second : DuplicateCandidate}

theorem isPreferred_of_head {κ : Type} [LinearOrder κ] {key : α → κ} {items : List α} {item : α}
    (isHead : (orderBy key items).head? = some item) : IsPreferred key items item := by
  obtain ⟨rest, isOrder⟩ := List.head?_eq_some_iff.mp isHead
  have sorted := pairwise_orderBy key items
  have same (other : α) : other ∈ items ↔ other ∈ item :: rest := by rw [← isOrder, mem_orderBy]
  rw [isOrder, List.pairwise_cons] at sorted
  refine ⟨(same item).mpr List.mem_cons_self, fun other isOther => ?_⟩
  rcases List.mem_cons.mp ((same other).mp isOther) with rfl | later
  · exact le_refl _
  · exact sorted.1 other later

theorem findingId_of_preference_eq {hidden otherHidden : Bool} {size otherSize : Option ℤ}
    {paths otherPaths : List PyStr} {findingId otherId : PyStr}
    (same : preference hidden size paths findingId =
      preference otherHidden otherSize otherPaths otherId) :
    findingId = otherId := by
  unfold preference at same
  exact congrArg (fun key : Preference => (ofLex (ofLex (ofLex key).2).2).2) same

theorem hamming_eq_zero_iff {left right : ℕ} : hamming left right = 0 ↔ left = right := by
  rw [hamming, List.count_eq_zero, ← xor_eq_zero_iff]
  constructor
  · intro noOne
    by_contra differs
    have nonempty : Nat.digits 2 (left ^^^ right) ≠ [] := Nat.digits_ne_nil_iff_ne_zero.mpr differs
    have isLast := List.getLast_mem nonempty
    have small := Nat.digits_lt_base (by decide) isLast
    have nonzero := Nat.getLast_digit_ne_zero 2 differs
    have isOne : (Nat.digits 2 (left ^^^ right)).getLast nonempty = 1 := by omega
    rw [isOne] at isLast
    exact noOne isLast
  · intro same
    simp [same]

/-! ## The candidates that are preferred -/

/-- The first source path that members of a cluster show for an id. -/
def firstPath (cluster : List DuplicateCandidate) (findingId : PyStr) : Option PyStr :=
  (cluster.find? fun item => decide (item.findingId = findingId) &&
    !item.sourcePaths.isEmpty).bind fun item => item.sourcePaths.head?

/-- The preference of `_canonical_member`: by source paths. -/
def pathPreference (cluster : List DuplicateCandidate) (item : DuplicateCandidate) : Preference :=
  preference (firstPath cluster item.findingId).isNone item.sizeBytes item.sourcePaths
    item.findingId

section Canonical

variable {config : DuplicateGroupingConfig} {items cluster : List DuplicateCandidate}
  {kind : GroupKind}

theorem shownPath_membersOf (findingId : PyStr) :
    shownPath findingId (membersOf config items kind cluster) = firstPath cluster findingId := by
  rw [shownPath, firstPath, membersOf, List.find?_map, Option.bind_map]
  simp

/-- The member that a group names is the candidate that is preferred by its paths. -/
theorem exists_preferred {canonical : DuplicateMember}
    (isCanonical : canonicalMember (membersOf config items kind cluster) = some canonical) :
    ∃ shown, IsPreferred (pathPreference cluster) cluster shown ∧
      canonical.findingId = shown.findingId := by
  have samePreference (item : DuplicateCandidate) :
      memberPreference (membersOf config items kind cluster)
        (memberOf config items cluster kind item) = pathPreference cluster item := by
    rw [memberPreference, pathPreference, shownPath_membersOf]
    simp
  obtain ⟨isMember, isLeast⟩ := isPreferred_of_head isCanonical
  obtain ⟨shown, isIn, rfl⟩ := List.mem_map.mp isMember
  refine ⟨shown, ⟨isIn, fun other isOther => ?_⟩, memberOf_findingId _ _⟩
  have before := isLeast _ (List.mem_map_of_mem isOther)
  rwa [samePreference, samePreference] at before

theorem findingId_of_preferred (isFirst : IsPreferred (pathPreference cluster) cluster first)
    (isSecond : IsPreferred (pathPreference cluster) cluster second) :
    first.findingId = second.findingId :=
  findingId_of_preference_eq
    (le_antisymm (isFirst.2 second isSecond.1) (isSecond.2 first isFirst.1))

/-- The candidate that distances and frames are measured to is preferred by its preview. -/
theorem exists_canonical (nonempty : cluster ≠ []) :
    ∃ measured, canonical cluster = some measured ∧
      IsPreferred candidatePreference cluster measured := by
  have hasHead : orderBy candidatePreference cluster ≠ [] :=
    fun isEmpty => nonempty (orderBy_eq_nil.mp isEmpty)
  obtain ⟨measured, rest, isOrder⟩ := List.exists_cons_of_ne_nil hasHead
  have isHead : canonical cluster = some measured := by rw [canonical, isOrder, List.head?_cons]
  exact ⟨measured, isHead, isPreferred_of_head isHead⟩

theorem findingId_of_measured (isFirst : IsPreferred candidatePreference cluster first)
    (isSecond : IsPreferred candidatePreference cluster second) :
    first.findingId = second.findingId :=
  findingId_of_preference_eq
    (le_antisymm (isFirst.2 second isSecond.1) (isSecond.2 first isFirst.1))

/-! ## The candidate with an id -/

/-- The candidates that groups of a kind are made of. -/
def validCandidates (config : DuplicateGroupingConfig) (items : List DuplicateCandidate) :
    GroupKind → List DuplicateCandidate
  | .exactSha256 => (validItems readDigest items).map Prod.fst
  | .imagePerceptual => (validItems readImage items).map Prod.fst
  | .videoKeyframe => (validItems (readVideo config) items).map Prod.fst

/-- The candidate that a group names: the first valid one with that id and the content of a member.
-/
def DuplicateGroup.canonicalCandidate (config : DuplicateGroupingConfig)
    (items : List DuplicateCandidate) (group : DuplicateGroup) : Option DuplicateCandidate :=
  (validCandidates config items group.groupKind).find? fun item =>
    decide (item.findingId = group.canonicalFindingId) &&
      decide (item.contentSha256 ∈ group.members.map DuplicateMember.contentSha256)

theorem readDigest_eq_valid {item : DuplicateCandidate} {digest : PyStr}
    (isValid : readDigest item = .valid digest) : item.contentSha256 = some digest := by
  unfold readDigest at isValid
  split at isValid
  · cases isValid
  · rename_i isDigest
    split at isValid
    · rw [isDigest, Reading.valid.inj isValid]
    · cases isValid

theorem map_fst_validItems (read : DuplicateCandidate → Reading α) :
    (validItems read items).map Prod.fst = items.filter fun item => (read item).value?.isSome := by
  induction items with
  | nil => rfl
  | cons item items ih =>
    rw [validItems, List.filterMap_cons, List.filter_cons, ← ih]
    cases (read item).value? with
    | none => rfl
    | some value => rfl

variable (config) in
theorem exactCluster_eq {digest : PyStr} :
    items.filter (fun item => readDigest item = .valid digest) =
      (validCandidates config items .exactSha256).filter
        fun item => readDigest item = .valid digest := by
  rw [validCandidates, map_fst_validItems, List.filter_filter]
  refine List.filter_congr fun item _ => ?_
  cases isRead : readDigest item <;> simp [Reading.value?]

/-- Among the valid candidates with the content of a member, those with the id of a member are in
the cluster. -/
theorem IsCluster.find?_eq (isCluster : IsCluster config items cluster kind)
    {shown : DuplicateCandidate} (isShown : shown ∈ cluster) :
    ((validCandidates config items kind).find? fun item =>
      decide (item.findingId = shown.findingId) &&
        decide (item.contentSha256 ∈ cluster.map DuplicateCandidate.contentSha256)) =
      cluster.find? fun item => item.findingId = shown.findingId := by
  classical
  have ofClose {α : Type} {read : DuplicateCandidate → Reading α} {related : α → α → Bool}
      (isClose : IsCloseCluster read related items cluster) :
      (((validItems read items).map Prod.fst).find? fun item =>
        decide (item.findingId = shown.findingId) &&
          decide (item.contentSha256 ∈ cluster.map DuplicateCandidate.contentSha256)) =
        cluster.find? fun item => item.findingId = shown.findingId := by
    obtain ⟨first, -, rfl, -⟩ := isClose
    conv_rhs => rw [closeTo, linkedTo, List.find?_filter]
    refine List.find?_congr fun item isIn => ?_
    by_cases same : item.findingId = shown.findingId
    · have linked := (mem_linkedTo.mp isShown).2
      have isMember : item ∈ closeTo read related items first.findingId :=
        mem_linkedTo.mpr ⟨isIn, same ▸ linked⟩
      have isContent := List.mem_map_of_mem (f := DuplicateCandidate.contentSha256) isMember
      simp [same, linked, isContent]
    · simp [same]
  cases kind with
  | imagePerceptual => exact ofClose isCluster
  | videoKeyframe => exact ofClose isCluster
  | exactSha256 =>
    obtain ⟨digest, isFilter, -⟩ := isCluster
    have content {item : DuplicateCandidate} (isIn : item ∈ cluster) :
        item.contentSha256 = some digest := by
      rw [isFilter, List.mem_filter, decide_eq_true_iff] at isIn
      exact readDigest_eq_valid isIn.2
    conv_rhs => rw [isFilter, exactCluster_eq config, List.find?_filter]
    refine List.find?_congr fun item isIn => ?_
    obtain ⟨⟨item, found⟩, isValid, rfl⟩ := List.mem_map.mp isIn
    have isRead := (mem_validItems.mp isValid).2
    have sameContent : item.contentSha256 ∈ cluster.map DuplicateCandidate.contentSha256 ↔
        readDigest item = .valid digest := by
      rw [isRead, readDigest_eq_valid isRead]
      constructor
      · intro isContent
        obtain ⟨other, isOther, same⟩ := List.mem_map.mp isContent
        rw [content isOther] at same
        rw [Option.some.inj same]
      · intro same
        rw [Reading.valid.inj same, ← content isShown]
        exact List.mem_map_of_mem isShown
    simp only [sameContent]
    simp [and_comm]

/-! ## One canonical member -/

variable (config items) in
/-- The distance between the hashes of two ids. -/
def hashDistance (one other : PyStr) : Option ℕ := do
  let hash ← lookup one (validItems readImage items)
  return hamming hash (← lookup other (validItems readImage items))

variable (config items) in
/-- How many frames of the one id the other one has. -/
def framesShared (one other : PyStr) : Option ℕ := do
  let frames ← lookup one (validItems (readVideo config) items)
  return matchingFrames frames (← lookup other (validItems (readVideo config) items))
    config.videoFrameHammingThreshold

/-- Everything that a group says of its canonical member is about the candidate with its id. -/
structure DuplicateGroup.HasOneCanonical (config : DuplicateGroupingConfig)
    (items : List DuplicateCandidate) (group : DuplicateGroup) : Prop where
  zero : group.groupKind = .imagePerceptual → ∀ member ∈ group.members,
    member.findingId = group.canonicalFindingId → member.distance = some 0
  distances : group.groupKind = .imagePerceptual → ∀ member ∈ group.members,
    ∃ distance, hashDistance items member.findingId group.canonicalFindingId = some distance ∧
      member.distance = some distance
  frames : group.groupKind = .videoKeyframe → ∀ member ∈ group.members,
    ∃ frames, framesShared config items member.findingId group.canonicalFindingId = some frames ∧
      member.matchingFrames = some frames
  preview : ∃ candidate, group.canonicalCandidate config items = some candidate ∧
    group.canonicalPreviewUri = candidate.previewUri

variable (config items) in
/-- Two ids can stand for one member of a cluster: they have one hash, or every member has as many
frames in common with each of them, and the first path of the one is its preview. -/
def AgreeAt (kind : GroupKind) (cluster : List DuplicateCandidate) (shown measured : PyStr) :
    Prop :=
  (match kind with
    | .exactSha256 => True
    | .imagePerceptual =>
      lookup shown (validItems readImage items) = lookup measured (validItems readImage items)
    | .videoKeyframe => ∀ item ∈ cluster,
        framesShared config items item.findingId measured =
          framesShared config items item.findingId shown) ∧
  firstPath cluster shown =
    (cluster.find? fun item => item.findingId = shown).bind DuplicateCandidate.previewUri

/-- The candidate that is preferred by its paths agrees with the one that is preferred by its
preview. -/
def CanonicalsAgree (config : DuplicateGroupingConfig) (items : List DuplicateCandidate)
    (kind : GroupKind) (cluster : List DuplicateCandidate) : Prop :=
  ∀ shown measured, IsPreferred (pathPreference cluster) cluster shown →
    IsPreferred candidatePreference cluster measured →
      AgreeAt config items kind cluster shown.findingId measured.findingId

theorem exists_lookup {read : DuplicateCandidate → Reading α} {item : DuplicateCandidate}
    (isValid : item ∈ (validItems read items).map Prod.fst) :
    ∃ value, lookup item.findingId (validItems read items) = some value := by
  obtain ⟨found, isIn, rfl⟩ := List.mem_map.mp isValid
  have isFound : ((validItems read items).find? fun value =>
      value.1.findingId = found.1.findingId).isSome :=
    List.find?_isSome.mpr ⟨found, isIn, decide_eq_true rfl⟩
  obtain ⟨other, isOther⟩ := Option.isSome_iff_exists.mp isFound
  exact ⟨other.2, by rw [lookup, isOther, Option.map_some]⟩

theorem IsCloseCluster.exists_lookup {read : DuplicateCandidate → Reading α}
    {related : α → α → Bool} (isClose : IsCloseCluster read related items cluster)
    {item : DuplicateCandidate} (isIn : item ∈ cluster) :
    ∃ value, lookup item.findingId (validItems read items) = some value := by
  obtain ⟨first, -, rfl, -⟩ := isClose
  exact Duplicates.exists_lookup (mem_linkedTo.mp isIn).1

section Measured

variable {shown measured : DuplicateCandidate} (isShown : shown ∈ cluster)
  (isMeasured : measured ∈ cluster)

include isShown isMeasured

theorem distances_iff
    (hasHash : ∀ item ∈ cluster, ∃ hash, lookup item.findingId (validItems readImage items) =
      some hash) :
    ((∀ item ∈ cluster, item.findingId = shown.findingId →
        hashDistance items item.findingId measured.findingId = some 0) ∧
      ∀ item ∈ cluster, ∃ distance,
        hashDistance items item.findingId shown.findingId = some distance ∧
          hashDistance items item.findingId measured.findingId = some distance) ↔
      lookup shown.findingId (validItems readImage items) =
        lookup measured.findingId (validItems readImage items) := by
  obtain ⟨shownHash, isShownHash⟩ := hasHash shown isShown
  obtain ⟨measuredHash, isMeasuredHash⟩ := hasHash measured isMeasured
  constructor
  · rintro ⟨zero, -⟩
    have isZero := zero shown isShown rfl
    simp only [hashDistance, isShownHash, isMeasuredHash, Option.bind_eq_bind, Option.bind_some,
      Option.pure_def, Option.some.injEq, hamming_eq_zero_iff] at isZero
    rw [isShownHash, isMeasuredHash, isZero]
  · intro same
    have sameDistance (one : PyStr) : hashDistance items one measured.findingId =
        hashDistance items one shown.findingId := by rw [hashDistance, hashDistance, same]
    refine ⟨fun item isIn isSame => ?_, fun item isIn => ?_⟩
    · rw [sameDistance, isSame]
      simp [hashDistance, isShownHash, hamming_eq_zero_iff]
    · obtain ⟨hash, isHash⟩ := hasHash item isIn
      refine ⟨hamming hash shownHash, ?_, ?_⟩
      · simp [hashDistance, isHash, isShownHash]
      · rw [sameDistance]
        simp [hashDistance, isHash, isShownHash]

omit isMeasured in
theorem frames_iff (measured : DuplicateCandidate) (hasFrames : ∀ item ∈ cluster, ∃ frames,
      lookup item.findingId (validItems (readVideo config) items) = some frames) :
    (∀ item ∈ cluster, ∃ frames,
        framesShared config items item.findingId shown.findingId = some frames ∧
          framesShared config items item.findingId measured.findingId = some frames) ↔
      ∀ item ∈ cluster, framesShared config items item.findingId measured.findingId =
        framesShared config items item.findingId shown.findingId := by
  obtain ⟨shownFrames, isShownFrames⟩ := hasFrames shown isShown
  refine forall₂_congr fun item isIn => ⟨?_, fun same => ?_⟩
  · rintro ⟨frames, isCount, sameCount⟩
    rw [isCount, sameCount]
  · obtain ⟨frames, isFrames⟩ := hasFrames item isIn
    have isCount : framesShared config items item.findingId shown.findingId =
        some (matchingFrames frames shownFrames config.videoFrameHammingThreshold) := by
      simp [framesShared, isFrames, isShownFrames]
    exact ⟨_, isCount, same.trans isCount⟩

end Measured

/-- A group is about one canonical member exactly if the two choices agree on its cluster. -/
theorem hasOneCanonical_iff {hexdigest : List UInt8 → PyStr} {group : DuplicateGroup}
    (isCluster : IsCluster config items cluster kind)
    (returned : groupOf hexdigest config items (kind, cluster) = .ok group) :
    group.HasOneCanonical config items ↔ CanonicalsAgree config items kind cluster := by
  have represents := represents_of_groupOf hexdigest config returned
  obtain ⟨canonical, isCanonical, sameId, samePreview⟩ := represents.canonical
  obtain ⟨shown, isShown, isId⟩ := exists_preferred isCanonical
  obtain ⟨measured, isHead, isMeasured⟩ := exists_canonical isCluster.nonempty
  rw [isId] at sameId samePreview
  rw [shownPath_membersOf] at samePreview
  have members (holds : DuplicateMember → Prop) : (∀ member ∈ group.members, holds member) ↔
      ∀ item ∈ cluster, holds (memberOf config items cluster kind item) := by
    simp only [represents.members_eq, mem_orderBy, membersOf, List.forall_mem_map]
  have agree : CanonicalsAgree config items kind cluster ↔
      AgreeAt config items kind cluster shown.findingId measured.findingId := by
    refine ⟨fun agree => agree shown measured isShown isMeasured,
      fun agree other third isOther isThird => ?_⟩
    rwa [findingId_of_preferred isOther isShown, findingId_of_measured isThird isMeasured]
  have candidate : group.canonicalCandidate config items =
      cluster.find? fun item => item.findingId = shown.findingId := by
    have contents (content : Option PyStr) :
        content ∈ group.members.map DuplicateMember.contentSha256 ↔
          content ∈ cluster.map DuplicateCandidate.contentSha256 := by
      simp [represents.members_eq, membersOf]
    rw [DuplicateGroup.canonicalCandidate, represents.kind_eq, sameId]
    simp only [contents]
    exact isCluster.find?_eq isShown.1
  have hasCandidate : (cluster.find? fun item => item.findingId = shown.findingId).isSome :=
    List.find?_isSome.mpr ⟨shown, isShown.1, decide_eq_true rfl⟩
  obtain ⟨found, isFound⟩ := Option.isSome_iff_exists.mp hasCandidate
  have preview : (∃ candidate, group.canonicalCandidate config items = some candidate ∧
      group.canonicalPreviewUri = candidate.previewUri) ↔
        firstPath cluster shown.findingId = (cluster.find? fun item =>
          item.findingId = shown.findingId).bind DuplicateCandidate.previewUri := by
    rw [candidate, isFound, samePreview]
    simp
  have notKind {other : GroupKind} (different : kind ≠ other) : group.groupKind ≠ other :=
    represents.kind_eq ▸ different
  rw [agree]
  cases kind with
  | exactSha256 =>
    refine Iff.trans ?_ (and_congr_right fun _ : True => preview)
    refine ⟨fun one => ⟨trivial, one.preview⟩, fun agrees => ⟨?_, ?_, ?_, agrees.2⟩⟩
    · exact fun isImage => absurd isImage (notKind nofun)
    · exact fun isImage => absurd isImage (notKind nofun)
    · exact fun isVideo => absurd isVideo (notKind nofun)
  | imagePerceptual =>
    have hasHash := distances_iff isShown.1 isMeasured.1
      fun item isIn => IsCloseCluster.exists_lookup isCluster isIn
    have distance (item : DuplicateCandidate) :
        (memberOf config items cluster .imagePerceptual item).distance =
          hashDistance items item.findingId measured.findingId := by
      simp [memberOf, toMember, distanceToCanonical, isHead, hashDistance]
    refine Iff.trans ?_ (and_congr hasHash preview)
    constructor
    · intro one
      have zero := (members _).mp (one.zero represents.kind_eq)
      have distances := (members _).mp (one.distances represents.kind_eq)
      simp only [memberOf_findingId, sameId, distance] at zero distances
      exact ⟨⟨zero, distances⟩, one.preview⟩
    · rintro ⟨⟨zero, distances⟩, isPreview⟩
      refine ⟨fun _ => (members _).mpr ?_, fun _ => (members _).mpr ?_, ?_, isPreview⟩
      · simpa only [memberOf_findingId, sameId, distance] using zero
      · simpa only [memberOf_findingId, sameId, distance] using distances
      · exact fun isVideo => absurd isVideo (notKind nofun)
  | videoKeyframe =>
    have hasFrames := frames_iff isShown.1 measured
      fun item isIn => IsCloseCluster.exists_lookup isCluster isIn
    have frames (item : DuplicateCandidate) :
        (memberOf config items cluster .videoKeyframe item).matchingFrames =
          framesShared config items item.findingId measured.findingId := by
      simp [memberOf, toMember, framesInCanonical, isHead, framesShared]
    refine Iff.trans ?_ (and_congr hasFrames preview)
    constructor
    · intro one
      have shared := (members _).mp (one.frames represents.kind_eq)
      simp only [memberOf_findingId, sameId, frames] at shared
      exact ⟨shared, one.preview⟩
    · rintro ⟨shared, isPreview⟩
      refine ⟨?_, ?_, fun _ => (members _).mpr ?_, isPreview⟩
      · exact fun isImage => absurd isImage (notKind nofun)
      · exact fun isImage => absurd isImage (notKind nofun)
      · simpa only [memberOf_findingId, sameId, frames] using shared

end Canonical

/-! ## All groups -/

section Result

variable (hexdigest : List UInt8 → PyStr) (candidates : List DuplicateCandidate)
  (options : Option DuplicateGroupingConfig)

/-- Every group that is returned has one canonical member exactly if the choices agree on every
cluster, or nothing is returned at all. -/
theorem canonicals_agree_iff :
    (∀ result, buildDuplicateGroups hexdigest candidates options = .ok result →
      ∀ group ∈ result.groups,
        group.HasOneCanonical (options.getD {}) (orderBy DuplicateCandidate.findingId candidates)) ↔
    ((∀ kind cluster,
        IsCluster (options.getD {}) (orderBy DuplicateCandidate.findingId candidates) cluster kind →
          (∀ item ∈ cluster, item.findingId.IsScalar) ∧
            (kind = .videoKeyframe → HasText (options.getD {}).videoMinMatchingFrames)) →
      ∀ kind cluster,
        IsCluster (options.getD {}) (orderBy DuplicateCandidate.findingId candidates) cluster kind →
          CanonicalsAgree (options.getD {}) (orderBy DuplicateCandidate.findingId candidates) kind
            cluster) := by
  constructor
  · intro agreeing encodable kind cluster isCluster
    obtain ⟨result, returned⟩ := (exists_build_iff hexdigest).mpr encodable
    obtain ⟨group, isGroup⟩ :=
      (exists_groupOf_iff hexdigest _ isCluster.nonempty).mpr (encodable kind cluster isCluster)
    have isIn := (mem_groups hexdigest returned).mpr ⟨kind, cluster, isCluster, isGroup⟩
    exact (hasOneCanonical_iff isCluster isGroup).mp (agreeing result returned group isIn)
  · intro agree result returned group isIn
    obtain ⟨kind, cluster, isCluster, isGroup⟩ := (mem_groups hexdigest returned).mp isIn
    have encodable := (exists_build_iff hexdigest).mp ⟨result, returned⟩
    exact (hasOneCanonical_iff isCluster isGroup).mpr (agree encodable kind cluster isCluster)

end Result

/-- A large image without a preview and a small one that has one. -/
def previewedImages : List DuplicateCandidate :=
  [{ findingId := .ofString "large"
     contentSha256 := none
     sizeBytes := some 20
     sourcePaths := [.ofString "/large.jpg"]
     mediaKind := .ofString "image"
     perceptualHash := some (.ofString "ff") },
   { findingId := .ofString "small"
     contentSha256 := none
     sizeBytes := some 10
     sourcePaths := [.ofString "/small.jpg"]
     mediaKind := .ofString "image"
     previewUri := some (.ofString "/small.jpg")
     perceptualHash := some (.ofString "fe") }]

/-- The large image is named, and distances are measured to the small one. -/
theorem previewedImages_not_oneCanonical :
    ¬∀ result, buildDuplicateGroups (fun _ => []) previewedImages none = .ok result →
      ∀ group ∈ result.groups,
        group.HasOneCanonical {} (orderBy DuplicateCandidate.findingId previewedImages) := by
  intro agreeing
  have built : (buildDuplicateGroups (fun _ => []) previewedImages none).toOption.map (fun result =>
      result.groups.any fun group => decide (group.groupKind = .imagePerceptual) &&
        group.members.any fun member => decide (member.findingId = group.canonicalFindingId) &&
          decide (member.distance = some 1)) = some true := by decide
  obtain ⟨result, returned, isAny⟩ := Option.map_eq_some_iff.mp built
  obtain ⟨group, isGroup, isWrong⟩ := List.any_eq_true.mp isAny
  simp only [Bool.and_eq_true, decide_eq_true_eq, List.any_eq_true] at isWrong
  obtain ⟨isImage, member, isMember, isCanonical, isOne⟩ := isWrong
  have zero := (agreeing result (eq_ok_of_toOption returned) group isGroup).zero isImage member
    isMember isCanonical
  rw [isOne] at zero
  cases zero

end Reperio.Duplicates
