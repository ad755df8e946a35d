import Mathlib.Data.List.GetD
import Reperio.Scanner.Fat12

/-!
# Certain chains

An allocated entry whose chain is `certain` was found as its size says: from its
first cluster on, one cluster after the other, up to an end marker. The loop of
`_allocated_chain` also stops, without a word, at a link to a number beyond the
table. Chains are as promised exactly when no such link ends the run of clusters
that the entry asks for (`certainIsIntact_iff`).
-/

namespace Reperio.Fat12

/-- What a certain chain promises about the table. -/
structure IntactChain (firstCluster sizeBytes : ℕ) (fat : List ℕ) (geometry : Fat12Geometry)
    (chain : List ℕ) : Prop where
  consecutive : chain = List.range' firstCluster chain.length
  linked : ∀ index, index + 1 < chain.length →
    fat.getD (chain.getD index 0) 0 = chain.getD (index + 1) 0
  ended : ∀ last ∈ chain.getLast?, fat12EocMin ≤ fat.getD last 0
  sized : sizeBytes ≠ 0 → chain.length = clustersForSize sizeBytes geometry

/-- A chain that is reported as certain is intact. -/
def CertainIsIntact (firstCluster sizeBytes : ℕ) (fat : List ℕ) (geometry : Fat12Geometry) : Prop :=
  (allocatedChain firstCluster sizeBytes fat geometry).clusters ≠ [] →
    (allocatedChain firstCluster sizeBytes fat geometry).confidence = .certain →
      IntactChain firstCluster sizeBytes fat geometry
        (allocatedChain firstCluster sizeBytes fat geometry).clusters

/-- So many clusters of the table, from the first one on, each but the last linked to the next. -/
structure LinkedRun (fat : List ℕ) (firstCluster count : ℕ) : Prop where
  lower : 2 ≤ firstCluster
  upper : firstCluster + count ≤ fat.length
  linked : ∀ index, index + 1 < count → fat.getD (firstCluster + index) 0 = firstCluster + index + 1
  below : ∀ index, index + 1 < count → firstCluster + index + 1 < fat12ReservedMin

/-- The run of clusters that the entry asks for ends in a link to a cluster that is not followed:
one beyond the table, or one beyond the clusters of the floppy. -/
structure LeavesTable (firstCluster sizeBytes : ℕ) (fat : List ℕ) (geometry : Fat12Geometry)
    (count link : ℕ) : Prop where
  run : LinkedRun fat firstCluster (count + 1)
  within : count ≤ geometry.clusterCount
  sized : sizeBytes ≠ 0 → count + 1 = clustersForSize sizeBytes geometry
  isLink : fat.getD (firstCluster + count) 0 = link
  lower : 2 ≤ link
  upper : link < fat12ReservedMin
  unfollowed : fat.length ≤ link ∨ count = geometry.clusterCount

/-! ## Following links -/

/-- The clusters that the links of the table lead to, up to a place where the loop stops without a
warning. -/
inductive Walk (fat : List ℕ) : ℕ → ℕ → List ℕ → Prop
  | capped (cursor : ℕ) : Walk fat 0 cursor []
  | outside {steps cursor : ℕ} (leaves : ¬(2 ≤ cursor ∧ cursor < fat.length)) :
      Walk fat (steps + 1) cursor []
  | ended {steps cursor : ℕ} (inside : 2 ≤ cursor ∧ cursor < fat.length)
      (ends : fat12EocMin ≤ fat.getD cursor 0) : Walk fat (steps + 1) cursor [cursor]
  | linked {steps cursor : ℕ} {clusters : List ℕ} (inside : 2 ≤ cursor ∧ cursor < fat.length)
      (lower : 2 ≤ fat.getD cursor 0) (upper : fat.getD cursor 0 < fat12ReservedMin)
      (rest : Walk fat steps (fat.getD cursor 0) clusters) :
      Walk fat (steps + 1) cursor (cursor :: clusters)

variable {steps cursor firstCluster first : ℕ} {geometry : Fat12Geometry}

theorem followChain_walk {fat : List ℕ} {chain : List ℕ}
    (intact : (followChain fat steps cursor chain).status = .allocatedIntact) :
    ∃ clusters, (followChain fat steps cursor chain).clusters = chain ++ clusters ∧
      Walk fat steps cursor clusters := by
  induction steps generalizing cursor chain with
  | zero => exact ⟨[], (List.append_nil chain).symm, Walk.capped cursor⟩
  | succ steps ih =>
    rw [followChain] at intact ⊢
    split at intact
    · rename_i leaves
      rw [if_pos leaves]
      exact ⟨[], (List.append_nil chain).symm, Walk.outside leaves⟩
    rename_i inside
    rw [if_neg inside]
    rw [not_not] at inside
    split at intact
    · cases intact
    rename_i fresh
    rw [if_neg fresh]
    dsimp only at intact ⊢
    split at intact
    · rename_i ends
      rw [if_pos ends]
      exact ⟨[cursor], rfl, Walk.ended inside ends⟩
    rename_i notEnd
    rw [if_neg notEnd]
    split at intact
    · cases intact
    rename_i notBad
    rw [if_neg notBad]
    split at intact
    · cases intact
    rename_i taken
    rw [if_neg taken]
    split at intact
    · cases intact
    rename_i isLink
    rw [if_neg isLink]
    rcases not_or.mp isLink with ⟨notReserved, lower⟩
    rcases ih intact with ⟨clusters, found, rest⟩
    refine ⟨cursor :: clusters, ?_, Walk.linked inside ?_ ?_ rest⟩
    · rw [found, List.append_assoc]
      rfl
    · exact Nat.le_of_not_lt lower
    · exact Nat.lt_of_not_le notReserved

/-- One step of the loop along a link. -/
theorem followChain_link {fat : List ℕ} {chain : List ℕ} (inside : 2 ≤ cursor ∧ cursor < fat.length)
    (fresh : cursor ∉ chain) (lower : 2 ≤ fat.getD cursor 0)
    (upper : fat.getD cursor 0 < fat12ReservedMin) :
    followChain fat (steps + 1) cursor chain =
      followChain fat steps (fat.getD cursor 0) (chain ++ [cursor]) := by
  rw [followChain, if_neg (not_not.mpr inside), if_neg fresh]
  dsimp only
  unfold fat12ReservedMin at upper
  have notEnd : ¬fat12EocMin ≤ fat.getD cursor 0 := by
    unfold fat12EocMin
    omega
  have notBad : fat.getD cursor 0 ≠ fat12BadCluster := by
    unfold fat12BadCluster
    omega
  have taken : fat.getD cursor 0 ≠ 0 := by omega
  have isLink : ¬(fat12ReservedMin ≤ fat.getD cursor 0 ∨ fat.getD cursor 0 < 2) := by
    unfold fat12ReservedMin
    omega
  rw [if_neg notEnd, if_neg notBad, if_neg taken, if_neg isLink]

theorem not_mem_range'_end (first count : ℕ) : first + count ∉ List.range' first count := by
  intro member
  rw [List.mem_range'_1] at member
  omega

/-- The loop goes along a run of linked clusters up to its last one. -/
theorem followChain_run {fat : List ℕ} {count : ℕ} (run : LinkedRun fat firstCluster (count + 1))
    {passed : ℕ} (within : passed ≤ count) (steps : ℕ) :
    followChain fat (steps + passed) firstCluster [] =
      followChain fat steps (firstCluster + passed) (List.range' firstCluster passed) := by
  induction passed generalizing steps with
  | zero => rfl
  | succ passed ih =>
    have lower := run.lower
    have upper := run.upper
    have linked := run.linked passed (by omega)
    have below := run.below passed (by omega)
    rw [← Nat.add_assoc, Nat.add_right_comm, ih (by omega),
      followChain_link ⟨by omega, by omega⟩ (not_mem_range'_end _ _) (by omega) (by omega),
      linked, ← List.range'_1_concat]
    rfl

/-! ## Certain chains -/

/-- A chain with confidence `certain` passed both checks as it was. -/
theorem Followed.unchanged_of_certain {followed : Followed} {expected : ℕ}
    (certain : ((followed.checkLength expected).checkOrder).confidence = .certain) :
    (followed.checkLength expected).checkOrder = followed ∧ followed.status = .allocatedIntact ∧
      isContiguous followed.clusters = true ∧
        (expected ≠ 0 → followed.clusters.length = expected) := by
  unfold Followed.confidence at certain
  split at certain
  · cases certain
  split at certain
  · rename_i intact
    rcases intact with ⟨status, quiet⟩
    rw [List.isEmpty_iff] at quiet
    unfold Followed.checkOrder at status quiet ⊢
    split at status
    · cases status
    rename_i ordered
    rw [if_neg ordered] at quiet ⊢
    have contiguous : isContiguous (followed.checkLength expected).clusters = true := by
      by_contra broken
      exact ordered ⟨status, by simpa using broken⟩
    unfold Followed.checkLength at status quiet contiguous ⊢
    split at status
    · cases status
    rename_i long
    rw [if_neg long] at quiet contiguous ⊢
    split at quiet
    · cases (List.append_eq_nil_iff.mp quiet).2
    rename_i short
    rw [if_neg short] at status contiguous ⊢
    exact ⟨rfl, status, contiguous, by omega⟩
  · cases certain

theorem eq_range'_of_isContiguous {rest : List ℕ}
    (contiguous : isContiguous (first :: rest) = true) :
    first :: rest = List.range' first (first :: rest).length := by
  induction rest generalizing first with
  | nil => rfl
  | cons second rest ih =>
    unfold isContiguous at contiguous
    rw [List.tail_cons, List.zip_cons_cons, List.all_cons, Bool.and_eq_true,
      decide_eq_true_iff] at contiguous
    rcases contiguous with ⟨next, later⟩
    dsimp only at next
    rw [List.length_cons, List.range'_succ, ← next, ← ih later]

theorem Walk.head {fat : List ℕ} {clusters : List ℕ}
    (walk : Walk fat steps cursor (first :: clusters)) : first = cursor := by
  cases walk with
  | ended => rfl
  | linked => rfl

/-- A run that the loop went along stops at an end marker or at a link that is not followed. -/
theorem Walk.run {fat : List ℕ} {count : ℕ}
    (walk : Walk fat steps firstCluster (List.range' firstCluster (count + 1))) :
    LinkedRun fat firstCluster (count + 1) ∧ count + 1 ≤ steps ∧
      (fat12EocMin ≤ fat.getD (firstCluster + count) 0 ∨ (2 ≤ fat.getD (firstCluster + count) 0 ∧
          fat.getD (firstCluster + count) 0 < fat12ReservedMin ∧
            (fat.length ≤ fat.getD (firstCluster + count) 0 ∨ count + 1 = steps))) := by
  induction count generalizing steps firstCluster with
  | zero =>
    have single {inside : 2 ≤ firstCluster ∧ firstCluster < fat.length} :
        LinkedRun fat firstCluster 1 := by
      refine ⟨inside.1, inside.2, ?_, ?_⟩
      · intro index small
        omega
      · intro index small
        omega
    cases walk with
    | ended inside ends => exact ⟨@single inside, by omega, Or.inl ends⟩
    | linked inside lower upper rest =>
      refine ⟨@single inside, by omega, Or.inr ⟨lower, upper, ?_⟩⟩
      cases rest with
      | capped => exact Or.inr rfl
      | outside leaves =>
        left
        rw [Nat.add_zero]
        omega
  | succ count ih =>
    rw [List.range'_succ] at walk
    cases walk with
    | linked inside lower upper rest =>
      have next : fat.getD firstCluster 0 = firstCluster + 1 := by
        rw [List.range'_succ] at rest
        exact rest.head.symm
      rw [next] at rest upper
      rcases ih rest with ⟨run, steps, stop⟩
      have place : firstCluster + 1 + count = firstCluster + (count + 1) := by omega
      rw [place] at stop
      refine ⟨⟨inside.1, ?_, ?_, ?_⟩, by omega, ?_⟩
      · have bound := run.upper
        omega
      · intro index small
        cases index with
        | zero => exact next
        | succ index =>
          have linked := run.linked index (by omega)
          rw [Nat.add_right_comm firstCluster 1 index] at linked
          exact linked
      · intro index small
        cases index with
        | zero => exact upper
        | succ index =>
          have below := run.below index (by omega)
          omega
      · refine stop.imp_right fun unmarked => ⟨unmarked.1, unmarked.2.1, ?_⟩
        exact unmarked.2.2.imp_right fun last => congrArg Nat.succ last

theorem getD_range' {count index : ℕ} (small : index < count) :
    (List.range' first count).getD index 0 = first + index := by
  rw [List.getD_eq_getElem _ _ (by rwa [List.length_range']), List.getElem_range', Nat.one_mul]

theorem LinkedRun.intact {fat : List ℕ} {sizeBytes count : ℕ}
    (run : LinkedRun fat firstCluster (count + 1))
    (ended : fat12EocMin ≤ fat.getD (firstCluster + count) 0)
    (sized : sizeBytes ≠ 0 → count + 1 = clustersForSize sizeBytes geometry) :
    IntactChain firstCluster sizeBytes fat geometry (List.range' firstCluster (count + 1)) := by
  refine ⟨?_, ?_, ?_, ?_⟩
  · rw [List.length_range']
  · intro index small
    rw [List.length_range'] at small
    rw [getD_range' (by omega), getD_range' small, run.linked index small]
    rfl
  · intro last isLast
    rw [List.range'_1_concat, List.getLast?_concat, Option.mem_some_iff] at isLast
    rw [← isLast]
    exact ended
  · intro nonempty
    rw [List.length_range']
    exact sized nonempty

/-- What the loop makes of a run that leaves the table: nothing is found to be wrong. -/
theorem LeavesTable.followChain {fat : List ℕ} {sizeBytes count link : ℕ}
    (leaves : LeavesTable firstCluster sizeBytes fat geometry count link) :
    followChain fat (geometry.clusterCount + 1) firstCluster [] =
      ⟨List.range' firstCluster (count + 1), .allocatedIntact, []⟩ := by
  have within := leaves.within
  have lower := leaves.run.lower
  have upper := leaves.run.upper
  have linkLower := leaves.lower
  have linkUpper := leaves.upper
  rw [← leaves.isLink] at linkLower linkUpper
  have steps : geometry.clusterCount + 1 = (geometry.clusterCount - count + 1) + count := by omega
  rw [steps, followChain_run leaves.run (Nat.le_refl count),
    followChain_link ⟨by omega, by omega⟩ (not_mem_range'_end _ _) linkLower linkUpper,
    leaves.isLink, ← List.range'_1_concat]
  rcases leaves.unfollowed with beyond | last
  · cases geometry.clusterCount - count with
    | zero => rfl
    | succ left =>
      rw [Fat12.followChain, if_pos]
      omega
  · rw [last, Nat.sub_self]
    rfl

theorem isContiguous_range' (first count : ℕ) : isContiguous (List.range' first count) = true := by
  induction count generalizing first with
  | zero => rfl
  | succ count ih =>
    cases count with
    | zero => rfl
    | succ count =>
      have later := ih (first + 1)
      unfold isContiguous at later ⊢
      rw [List.range'_succ, List.range'_succ, List.tail_cons, List.zip_cons_cons,
        List.all_cons, Bool.and_eq_true, decide_eq_true_iff]
      rw [List.range'_succ, List.tail_cons] at later
      exact ⟨rfl, later⟩

theorem clustersForSize_eq_zero {sizeBytes : ℕ} {geometry : Fat12Geometry}
    (supported : geometry ∈ supportedGeometries) :
    clustersForSize sizeBytes geometry = 0 ↔ sizeBytes = 0 := by
  have clusterSize : 0 < geometry.clusterSize := by
    have all : ∀ geometry ∈ supportedGeometries, 0 < geometry.clusterSize := by decide
    exact all geometry supported
  unfold clustersForSize
  split
  · rename_i empty
    exact ⟨fun _ => empty, fun _ => rfl⟩
  · rename_i nonempty
    refine ⟨fun none => ?_, fun empty => absurd empty nonempty⟩
    rw [Nat.div_eq_zero_iff_lt clusterSize] at none
    omega

/-- A run that leaves the table is reported as certain, as it is. -/
theorem LeavesTable.allocatedChain {fat : List ℕ} {sizeBytes count link : ℕ}
    (supported : geometry ∈ supportedGeometries)
    (leaves : LeavesTable firstCluster sizeBytes fat geometry count link) :
    allocatedChain firstCluster sizeBytes fat geometry =
      ⟨List.range' firstCluster (count + 1), .certain, .allocatedIntact, []⟩ := by
  have lower := leaves.run.lower
  have upper := leaves.run.upper
  have length :
    ((⟨List.range' firstCluster (count + 1), .allocatedIntact, []⟩ : Followed).checkLength
      (clustersForSize sizeBytes geometry)) =
        ⟨List.range' firstCluster (count + 1), .allocatedIntact, []⟩ := by
    have none := @clustersForSize_eq_zero sizeBytes geometry supported
    have sized := leaves.sized
    unfold Followed.checkLength
    rw [List.length_range', if_neg (by omega), if_neg (by omega)]
  have order :
    ((⟨List.range' firstCluster (count + 1), .allocatedIntact, []⟩ : Followed).checkOrder) =
      ⟨List.range' firstCluster (count + 1), .allocatedIntact, []⟩ := by
    unfold Followed.checkOrder
    rw [isContiguous_range']
    rfl
  unfold Fat12.allocatedChain
  rw [if_neg (by omega), if_neg (by omega), leaves.followChain, length, order]
  rfl

/-- Certain chains are as promised exactly when the run of clusters that the entry asks for does
not end in a link that is not followed. -/
theorem certainIsIntact_iff {geometry : Fat12Geometry} (supported : geometry ∈ supportedGeometries)
    (firstCluster sizeBytes : ℕ) (fat : List ℕ) :
    CertainIsIntact firstCluster sizeBytes fat geometry ↔
      ¬∃ count link, LeavesTable firstCluster sizeBytes fat geometry count link := by
  constructor
  · rintro promise ⟨count, link, leaves⟩
    unfold CertainIsIntact at promise
    rw [leaves.allocatedChain supported] at promise
    have last := (promise (by simp) rfl).ended (firstCluster + count) (by
      rw [List.range'_1_concat, List.getLast?_concat]
      rfl)
    rw [leaves.isLink] at last
    have upper := leaves.upper
    unfold fat12EocMin at last
    unfold fat12ReservedMin at upper
    omega
  · intro stays nonempty certain
    unfold Fat12.allocatedChain at nonempty certain ⊢
    split at nonempty
    · exact absurd rfl nonempty
    rename_i present
    rw [if_neg present] at certain ⊢
    split at nonempty
    · exact absurd rfl nonempty
    rename_i inside
    rw [if_neg inside] at certain ⊢
    dsimp only at nonempty certain ⊢
    rcases Followed.unchanged_of_certain certain with ⟨unchanged, intact, contiguous, sized⟩
    rw [unchanged] at nonempty ⊢
    rcases followChain_walk intact with ⟨clusters, found, walk⟩
    rw [List.nil_append] at found
    rw [found] at nonempty contiguous sized ⊢
    cases clusters with
    | nil => exact absurd rfl nonempty
    | cons first rest =>
      have head := walk.head
      rw [head] at contiguous sized walk ⊢
      have run := eq_range'_of_isContiguous contiguous
      rw [List.length_cons] at run sized
      rw [run] at walk ⊢
      have size : sizeBytes ≠ 0 → rest.length + 1 = clustersForSize sizeBytes geometry := by
        intro positive
        exact sized ((clustersForSize_eq_zero supported).not.mpr positive)
      rcases walk.run with ⟨linked, steps, ended | ⟨lower, upper, unfollowed⟩⟩
      · exact linked.intact ended size
      · refine absurd ⟨rest.length, fat.getD (firstCluster + rest.length) 0, ?_⟩ stays
        exact ⟨linked, by omega, size, rfl, lower, upper, unfollowed.imp_right (by omega)⟩

/-! ## A link beyond the table -/

/-- The first cluster of a floppy of 360 KiB is linked to the number 1024, which no cluster has. -/
def strayFat : List ℕ := [0xFFD, 0xFFF, 1024] ++ List.replicate 353 0

theorem strayFat_not_certainIsIntact :
    ∃ geometry ∈ supportedGeometries, strayFat.length = geometry.clusterCount + 2 ∧
      ¬CertainIsIntact 2 512 strayFat geometry := by
  refine ⟨⟨"360 KiB", 720, 2, 112, 2, 9, 2, 40, 0xFD, 512, 1, 2⟩, by decide, by decide +kernel, ?_⟩
  intro promise
  have ended := (promise (by decide +kernel) (by decide +kernel)).ended 2 (by decide +kernel)
  exact absurd ended (by decide)

theorem certainIsIntact_emptyFloppy :
    CertainIsIntact 2 512 ([0xFFD, 0xFFF, 0xFFF] ++ List.replicate 353 0)
        ⟨"360 KiB", 720, 2, 112, 2, 9, 2, 40, 0xFD, 512, 1, 2⟩ ↔
      ¬∃ count link, LeavesTable 2 512 ([0xFFD, 0xFFF, 0xFFF] ++ List.replicate 353 0)
        ⟨"360 KiB", 720, 2, 112, 2, 9, 2, 40, 0xFD, 512, 1, 2⟩ count link :=
  certainIsIntact_iff (by decide) 2 512 ([0xFFD, 0xFFF, 0xFFF] ++ List.replicate 353 0)

end Reperio.Fat12
