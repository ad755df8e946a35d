import Reperio.Checkpoints.Eligibility
import Reperio.Hostd.RemovableSources

/-!
# When a scan is approved

The approval of a launch looks at less than the readiness of a source: not at the
blockers of its storage state. These block the read-only preparation as well, so
both say the same, and what they say is that everything about the source is in order.
-/

namespace Reperio.Hostd

open Python MediaIdentity MediumCheckpoints

/-- The preparation returns, and the launch of the source is not refused. -/
def Approved (interpreter : Interpreter) (device : PyDict) (ops : ReadOnlyOps)
    (storageState : Option PyDict) : Prop :=
  ∃ prepared, prepareRemovableSource interpreter device ops storageState = .ok prepared ∧
    requireScanLaunchApproval interpreter.display device prepared = .ok ()

/-- The preparation returns a source that is ready. -/
def Ready (interpreter : Interpreter) (device : PyDict) (ops : ReadOnlyOps)
    (storageState : Option PyDict) : Prop :=
  ∃ prepared, prepareRemovableSource interpreter device ops storageState = .ok prepared ∧
    prepared.readyForScan = true

/-- The device has a valid record of a medium that is there and has a fingerprint. -/
def IdentityProven (device : PyDict) : Prop :=
  ∃ record signals fingerprint, device.get "medium_identity" = .dict record ∧ IsValid record ∧
    (PyDict.get record "has_medium").truthy = true ∧
    PyDict.get record "medium_signals" = .dict signals ∧
    PyDict.get signals "sampled_fingerprint_sha256" = .text fingerprint ∧ fingerprint.length = 64

/-- Everything about the source is in order. -/
structure Launchable (device : PyDict) (ops : ReadOnlyOps) (storageState : Option PyDict) :
    Prop where
  removable : sourceKindForDevice device ∈ removableSourceKinds
  identity : IdentityProven device
  isPrepared : IsPrepared ops device storageState

/-- The mounts of the storage state, if it has any, can be iterated over. -/
def MountsIterable (storageState : Option PyDict) : Prop :=
  ∃ mounts, listOf ((PyDict.get? (storageState.getD []) "mounts").getD (.list [])) = .ok mounts

/-! ## The identity of the medium -/

variable {device : PyDict} {interpreter : Interpreter} {ops : ReadOnlyOps}
    {storageState : Option PyDict} {prepared : PreparedSource}

theorem proveMediumIdentity_of_proven (proven : IdentityProven device) :
    proveMediumIdentity device = .ok (true, [], true) := by
  rcases proven with ⟨record, signals, fingerprint, isRecord, ⟨validation, validated, valid⟩,
    present, isSignals, isFingerprint, length⟩
  unfold proveMediumIdentity
  rw [isRecord]
  dsimp only
  rw [validated]
  simp only [bind, Except.bind, valid, present, isSignals, isFingerprint, length]
  rfl

/-- What is not proved is blocked. -/
theorem proveMediumIdentity_cases {proven present : Bool} {blockers : List String}
    (returned : proveMediumIdentity device = .ok (proven, blockers, present)) :
    (proven = true ∧ blockers = [] ∧ IdentityProven device) ∨
      (proven = false ∧ blockers ≠ [] ∧ ¬IdentityProven device) := by
  have blocked : ∀ {reason : String} {isPresent : Bool},
      proveMediumIdentity device = .ok (false, [reason], isPresent) →
        (proven = true ∧ blockers = [] ∧ IdentityProven device) ∨
          (proven = false ∧ blockers ≠ [] ∧ ¬IdentityProven device) := by
    intro reason isPresent isBlocked
    cases returned.symm.trans isBlocked
    refine Or.inr ⟨rfl, List.cons_ne_nil _ _, fun isProven => ?_⟩
    cases isBlocked.symm.trans (proveMediumIdentity_of_proven isProven)
  have computed := returned
  unfold proveMediumIdentity at computed
  split at computed
  · rename_i record isRecord
    rcases bind_eq_ok computed with ⟨validation, validated, computed⟩
    dsimp only at computed
    by_cases valid : validation.valid = true
    · by_cases isPresent : (PyDict.get record "has_medium").truthy = true
      · rw [valid, isPresent, if_neg (by decide), if_neg (by decide)] at computed
        cases isSignals : PyDict.get record "medium_signals" with
        | dict signals =>
          rw [isSignals] at computed
          dsimp only at computed
          split at computed
          · rename_i fingerprint isFingerprint
            split at computed
            · cases computed
              exact blocked returned
            · rename_i length
              cases computed
              exact Or.inl ⟨rfl, rfl, record, signals, fingerprint, isRecord,
                ⟨validation, validated, valid⟩, isPresent, isSignals, isFingerprint,
                not_not.mp length⟩
          · cases computed
            exact blocked returned
        | _ =>
          rw [isSignals] at computed
          cases computed
          exact blocked returned
      · rw [valid, if_neg (by decide), if_pos (by simpa using isPresent)] at computed
        cases computed
        exact blocked returned
    · rw [if_pos (by simpa using valid)] at computed
      cases computed
      exact blocked returned
  · cases computed
    exact blocked returned

/-! ## The preparation -/

theorem eraseDups_eq_nil_iff {items : List String} : items.eraseDups = [] ↔ items = [] := by
  cases items with
  | nil => simp
  | cons item items => simp [List.eraseDups_cons]

/-- The kind of a removable source is read off a text. -/
theorem hashable_deviceType (removable : sourceKindForDevice device ∈ removableSourceKinds) :
    (device.get "device_type").hashable = true := by
  cases isType : device.get "device_type" with
  | list items =>
    unfold sourceKindForDevice at removable
    cases isRemovable : (device.get "removable").truthy with
    | _ => simp [isType, isRemovable, isText, removableSourceKinds] at removable
  | dict items =>
    unfold sourceKindForDevice at removable
    cases isRemovable : (device.get "removable").truthy with
    | _ => simp [isType, isRemovable, isText, removableSourceKinds] at removable
  | _ => rfl

theorem physicalLockReport_total (interpreter : Interpreter)
    (removable : sourceKindForDevice device ∈ removableSourceKinds) :
    ∃ report, physicalLockReport interpreter device = .ok report := by
  unfold physicalLockReport
  dsimp only
  rw [hashable_deviceType removable, if_neg (by decide)]
  split
  · exact ⟨_, rfl⟩
  · split
    · exact ⟨_, rfl⟩
    · split
      · exact ⟨_, rfl⟩
      · exact ⟨_, rfl⟩

/-- A clear state has no notes that block. -/
theorem automountNotes_of_clear {strings : Strings} {state : PyDict} (isClear : IsClear state)
    {notes : List PyStr × List String}
    (returned : automountNotes strings (some state) = .ok notes) :
    notes.1 = [] ∧ MountsIterable (some state) := by
  rcases isClear with ⟨complete, _, noBlockers⟩
  unfold automountNotes at returned
  rw [Option.getD_some] at returned
  cases isState : state.isEmpty with
  | true =>
    rw [List.isEmpty_iff.mp isState] at complete
    cases complete
  | false =>
    dsimp only at returned
    rw [isState, if_neg (by decide)] at returned
    rcases bind_eq_ok returned with ⟨blockers, isBlockers, returned⟩
    rcases bind_eq_ok returned with ⟨mounts, isMounts, isNotes⟩
    cases noBlockers.symm.trans isBlockers
    cases isNotes
    exact ⟨rfl, mounts, isMounts⟩

theorem automountNotes_total {strings : Strings} {state : PyDict} (isClear : IsClear state)
    (iterable : MountsIterable (some state)) :
    ∃ notes, automountNotes strings (some state) = .ok notes := by
  rcases isClear with ⟨_, _, noBlockers⟩
  rcases iterable with ⟨mounts, isMounts⟩
  unfold automountNotes
  rw [Option.getD_some] at isMounts ⊢
  dsimp only
  split
  · exact ⟨_, rfl⟩
  · rw [noBlockers, isMounts]
    exact ⟨_, rfl⟩

theorem prepareReadOnly_total {strings : Strings} {device : PyDict} {ops : ReadOnlyOps}
    {state : PyDict} (isClear : IsClear state) :
    ∃ result, prepareReadOnly strings device ops (some state) = .ok result := by
  unfold prepareReadOnly
  rw [storageBlockers_eq_nil_iff.mpr ⟨state, rfl, isClear⟩]
  cases isBlocked : targetBlockers device (targetsOf device) with
  | nil =>
    refine ⟨prepareTargets ops device (targetsOf device), ?_⟩
    simp only [isBlocked]
    rfl
  | cons blocker blockers =>
    refine ⟨untouched device (blocker :: blockers), ?_⟩
    simp only [isBlocked]
    rfl

/-- The identity and the read-only state of a source that is prepared, and what blocks it. -/
theorem prepareRemovableSource_cases
    (returned : prepareRemovableSource interpreter device ops storageState = .ok prepared) :
    (Launchable device ops storageState ∧ MountsIterable storageState ∧
      prepared.mediumIdentityProven = true ∧ prepared.readOnlyVerified = true ∧
      prepared.blockers = [] ∧ prepared.automountBlockers = []) ∨
    (¬Launchable device ops storageState ∧ prepared.blockers ≠ []) := by
  by_cases removable : sourceKindForDevice device ∈ removableSourceKinds
  · unfold prepareRemovableSource at returned
    simp only [if_neg (not_not.mpr removable)] at returned
    rcases bind_eq_ok returned with ⟨⟨proven, identityBlockers, present⟩, identity, returned⟩
    rcases bind_eq_ok returned with ⟨readOnly, isReadOnly, returned⟩
    rcases bind_eq_ok returned with ⟨notes, isNotes, returned⟩
    rcases bind_eq_ok returned with ⟨report, _, isPrepared⟩
    cases isPrepared
    rcases prepareReadOnly_spec isReadOnly with ⟨prepared, unblocked⟩
    rcases proveMediumIdentity_cases identity with ⟨rfl, rfl, isProven⟩ | ⟨rfl, blocked, unproven⟩
    · by_cases isPrepared : IsPrepared ops device storageState
      · have verified := prepared.mpr isPrepared
        rcases isPrepared.1 with ⟨state, rfl, isClear⟩
        rcases automountNotes_of_clear isClear isNotes with ⟨noNotes, iterable⟩
        refine Or.inl ⟨⟨removable, isProven, isPrepared⟩, iterable, rfl, verified, ?_, noNotes⟩
        rw [eraseDups_eq_nil_iff, unblocked.mpr verified]
        rfl
      · refine Or.inr ⟨fun launchable => isPrepared launchable.isPrepared, fun noBlockers => ?_⟩
        rw [eraseDups_eq_nil_iff, List.nil_append, List.map_eq_nil_iff] at noBlockers
        exact isPrepared (prepared.mp (unblocked.mp noBlockers))
    · refine Or.inr ⟨fun launchable => unproven launchable.identity, fun noBlockers => ?_⟩
      rw [eraseDups_eq_nil_iff, List.append_eq_nil_iff] at noBlockers
      exact blocked noBlockers.1
  · refine Or.inr ⟨fun launchable => removable launchable.removable, ?_⟩
    unfold prepareRemovableSource at returned
    simp only [if_pos removable] at returned
    cases returned
    exact List.cons_ne_nil _ _

theorem prepareRemovableSource_total (launchable : Launchable device ops storageState)
    (iterable : MountsIterable storageState) :
    ∃ prepared, prepareRemovableSource interpreter device ops storageState = .ok prepared := by
  rcases launchable with ⟨removable, isProven, ⟨state, rfl, isClear⟩, _⟩
  rcases @prepareReadOnly_total interpreter.toStrings device ops _ isClear with
    ⟨readOnly, isReadOnly⟩
  rcases @automountNotes_total interpreter.toStrings _ isClear iterable with ⟨notes, isNotes⟩
  rcases physicalLockReport_total interpreter removable with ⟨report, isReport⟩
  unfold prepareRemovableSource
  simp only [if_neg (not_not.mpr removable), proveMediumIdentity_of_proven isProven, isReadOnly,
    isNotes, isReport]
  exact ⟨_, rfl⟩

/-! ## Approval -/

theorem approval_eq_ok_iff {display : Display} :
    requireScanLaunchApproval display device prepared = .ok () ↔
      prepared.mediumIdentityProven = true ∧ prepared.readOnlyVerified = true ∧
        prepared.blockers = [] := by
  unfold requireScanLaunchApproval
  rw [← List.isEmpty_iff, ← and_assoc, ← Bool.and_eq_true, ← Bool.and_eq_true]
  split
  · rename_i approved
    exact iff_of_true rfl approved
  · rename_i refused
    exact iff_of_false nofun refused

theorem readyForScan_iff : prepared.readyForScan = true ↔
      (prepared.mediumIdentityProven = true ∧ prepared.readOnlyVerified = true ∧
        prepared.blockers = []) ∧ prepared.automountBlockers = [] := by
  unfold PreparedSource.readyForScan
  rw [Bool.and_eq_true, Bool.and_eq_true, Bool.and_eq_true, List.isEmpty_iff, List.isEmpty_iff,
    and_assoc (a := prepared.mediumIdentityProven = true)]

theorem approved_iff_launchable : Approved interpreter device ops storageState ↔
      Launchable device ops storageState ∧ MountsIterable storageState := by
  constructor
  · rintro ⟨prepared, returned, approved⟩
    have noBlockers := (approval_eq_ok_iff.mp approved).2.2
    rcases prepareRemovableSource_cases returned with ⟨launchable, iterable, _⟩ | ⟨_, blocked⟩
    · exact ⟨launchable, iterable⟩
    · exact absurd noBlockers blocked
  · rintro ⟨launchable, iterable⟩
    rcases prepareRemovableSource_total launchable iterable with ⟨prepared, returned⟩
    rcases prepareRemovableSource_cases returned with
      ⟨_, _, proven, verified, noBlockers, _⟩ | ⟨unlaunchable, _⟩
    · exact ⟨prepared, returned, approval_eq_ok_iff.mpr ⟨proven, verified, noBlockers⟩⟩
    · exact absurd launchable unlaunchable

theorem ready_iff_launchable : Ready interpreter device ops storageState ↔
      Launchable device ops storageState ∧ MountsIterable storageState := by
  constructor
  · rintro ⟨prepared, returned, ready⟩
    exact approved_iff_launchable.mp
      ⟨prepared, returned, approval_eq_ok_iff.mpr (readyForScan_iff.mp ready).1⟩
  · rintro ⟨launchable, iterable⟩
    rcases prepareRemovableSource_total launchable iterable with ⟨prepared, returned⟩
    rcases prepareRemovableSource_cases returned with
      ⟨_, _, proven, verified, noBlockers, noNotes⟩ | ⟨unlaunchable, _⟩
    · exact ⟨prepared, returned, readyForScan_iff.mpr ⟨⟨proven, verified, noBlockers⟩, noNotes⟩⟩
    · exact absurd launchable unlaunchable

/-- A launch is approved exactly if the source is ready, and that exactly if everything about it is
in order and the mounts of its storage state can be listed. -/
theorem launchApproval_iff (interpreter : Interpreter) (device : PyDict) (ops : ReadOnlyOps)
    (storageState : Option PyDict) :
    (Approved interpreter device ops storageState ↔ Ready interpreter device ops storageState) ∧
    (Ready interpreter device ops storageState ↔
      Launchable device ops storageState ∧ MountsIterable storageState) :=
  ⟨approved_iff_launchable.trans ready_iff_launchable.symm, ready_iff_launchable⟩

/-! A card in a reader that is in order, with a storage state whose mounts are null. -/

def cardRecord : PyDict := mediumIdentityRecord (.ofString "reader_1") (normalizeMediumSignals
    [(.str "size_bytes", .int 33554432),
      (.str "sampled_fingerprint_sha256",
        .str "abababababababababababababababababababababababababababababababab")])
    "reader-plus-medium" []

def cardReader : PyDict :=
  [(.str "kernel_name", .str "mmcblk0"), (.str "major_minor", .str "179:0"),
    (.str "device_type", .str "sd_card"), (.str "removable", .bool true),
    (.str "source_id", .str "reader_src"), (.str "medium_identity", .dict cardRecord),
    (.str "children", .list [])]

def safeState (mounts : PyValue) : PyDict :=
  [(.str "inspection_complete", .bool true), (.str "safe_for_preparation", .bool true),
    (.str "blockers", .list []), (.str "mounts", mounts)]

def obedientOps : ReadOnlyOps where
  setReadOnly _ := .ok ()
  verifyReadOnly _ := .ok true

def cardTarget : Target where
  kernelName := .ofString "mmcblk0"
  majorMinor := .ofString "179:0"

theorem cardReader_launchable (mounts : PyValue) :
    Launchable cardReader obedientOps (some (safeState mounts)) where
  removable := by decide
  identity := ⟨cardRecord, _, _, rfl, ⟨⟨true, []⟩, eq_ok_of_toOption (by decide), rfl⟩, by decide,
      rfl, rfl, by decide⟩
  isPrepared := by
    refine ⟨⟨_, rfl, rfl, rfl, rfl⟩, [cardTarget], ⟨⟨[], rfl, .cons ?_ .nil⟩, ?_, ?_⟩, ?_⟩
    · exact ⟨cardReader, rfl, rfl, by decide, rfl, by decide⟩
    · exact List.nodup_singleton _
    · exact List.nodup_singleton _
    · intro target _
      exact ⟨rfl, rfl⟩

theorem null_mounts_refuse :
    ¬∀ (interpreter : Interpreter) (device : PyDict) (ops : ReadOnlyOps) (state : PyDict)
      (blockers : List PyValue), state.get? "blockers" = some (.list blockers) →
        (Approved interpreter device ops (some state) ↔ Ready interpreter device ops (some state)) ∧
        (Ready interpreter device ops (some state) ↔ Launchable device ops (some state)) := by
  intro decides
  have ready := (decides
    { shown := fun _ => [], lower := id, display := ⟨fun _ => true, []⟩, isWord := fun _ => false }
    cardReader obedientOps (safeState .none) [] rfl).2.mpr (cardReader_launchable .none)
  rcases (ready_iff_launchable.mp ready).2 with ⟨mounts, isMounts⟩
  cases isMounts

end Reperio.Hostd
