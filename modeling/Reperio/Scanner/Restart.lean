import Reperio.Python.LoadedText
import Reperio.Scanner.Messages
import Reperio.Scanner.SafeStop
import Reperio.Scanner.Scheduler

/-!
# Restarting from a checkpoint

`restart_from_checkpoint` of `scanner/lifecycle.py`: the checkpoint that was
loaded is validated, and what may run next is planned, each for itself. The
stage of the checkpoint has no part in the plan.
-/

namespace Reperio.Scanner

open Python

/-! ## Checkpoints -/

/-- What is looked at of a loaded `CheckpointRecord`. The keys of a dictionary differ. -/
structure LoadedCheckpoint where
  sourceFingerprint : PyValue
  stage : PyValue
  checkpointVersion : PyValue
  cursor : PyValue
  counters : PyValue
  distinctKeys : cursor.Everywhere PyValue.DistinctKeys

def supportedCheckpointVersion : ℤ := 1
def maxCheckpointPayloadBytes : ℕ := 1048576

/-- A text of 64 hexadecimal digits. -/
def fingerprint? : PyValue → Option PyStr
  | .text points =>
    if points.length = 64 ∧
      points.all fun point => decide (point ∈ PyStr.ofString "0123456789abcdef")
    then some points
    else none
  | _ => none

def Stage.ofValue? : PyValue → Option Stage
  | .text points => Stage.ofName? points
  | _ => none

/-! ## Snapshots -/

def invalidCheckpoint (message : String) : StopError := .lifecycle ⟨"invalid_checkpoint", message⟩

mutual

/-- `_materialize_json`, which takes mappings and lists apart and puts them together again. -/
def materializeJson (label : String) : ℕ → PyValue → Except StopError PyValue
  | 0, _ => .error (.raised .recursionError)
  | calls + 1, .dict items => do return .dict (← materializePairs label calls items)
  | calls + 1, .list items => do return .list (← materializeItems label calls items)
  | _ + 1, .none => .ok .none
  | _ + 1, .bool value => .ok (.bool value)
  | _ + 1, .int value => .ok (.int value)
  | _ + 1, .float value => .ok (.float value)
  | _ + 1, .text points => .ok (.text points)
  | _ + 1, .other => .ok .other

def materializeItems (label : String) : ℕ → List PyValue → Except StopError (List PyValue)
  | _, [] => .ok []
  | calls, item :: items => do
      return (← materializeJson label calls item) :: (← materializeItems label calls items)

def materializePairs (label : String) :
    ℕ → List (PyValue × PyValue) → Except StopError (List (PyValue × PyValue))
  | _, [] => .ok []
  | calls, (.text points, value) :: items => do
      let child ← materializeJson label calls value
      return (.text points, child) :: (← materializePairs label calls items)
  | _, _ :: _ => .error (invalidCheckpoint (label ++ " keys must be strings"))

end

variable (room : Room)

/-- `json.loads(json.dumps(…))` with the bound on what is written between them. -/
def snapshotText (label : String) (normalized : PyValue) : Except StopError PyValue := do
  let encoded ← (dumps false room.nesting normalized).mapError .raised
  if maxCheckpointPayloadBytes < (utf8 encoded).length then
    throw (.lifecycle ⟨"checkpoint_too_large", label ++ " exceeds the bounded limit"⟩)
  else (loads room.nesting encoded).mapError .raised

/-- `except (TypeError, ValueError, RecursionError, OverflowError)`. -/
def StopError.canonical (label : String) : StopError → StopError
  | .raised .typeError => invalidCheckpoint (label ++ " is not canonical JSON")
  | .raised .valueError => invalidCheckpoint (label ++ " is not canonical JSON")
  | .raised .jsonDecodeError => invalidCheckpoint (label ++ " is not canonical JSON")
  | .raised .recursionError => invalidCheckpoint (label ++ " is not canonical JSON")
  | .raised .overflowError => invalidCheckpoint (label ++ " is not canonical JSON")
  | error => error

def snapshotMapping (label : String) : PyValue → Except StopError PyDict
  | .dict items => do
      let snapshot ←
        (materializeJson label room.calls (.dict items) >>= snapshotText room label).mapError
          (StopError.canonical label)
      match snapshot with
      | .dict snapshot => return snapshot
      | _ => throw (invalidCheckpoint (label ++ " must be an object"))
  | _ => .error (invalidCheckpoint (label ++ " must be an object"))

/-! ## Validation -/

def safeReason (reason fallback : String) : String :=
  if maxFieldChars < reason.length ∨ reason.toList.any fun char => char ∈ ['\x00', '\n', '\r'] then
    fallback
  else reason

/-- `_checkpoint_snapshot_error`: why a checkpoint is rejected, or its cursor. Nothing is given for
what is no record. -/
def checkpointSnapshot (checkpoint : Option LoadedCheckpoint) (currentSourceFingerprint : PyStr) :
    Except StopError (String ⊕ PyDict) :=
  match checkpoint with
  | none => .ok (.inl "checkpoint record is malformed; restart stage")
  | some record =>
    if !record.sourceFingerprint.eq (.text currentSourceFingerprint) then
      .ok (.inl "checkpoint source fingerprint mismatch; restart stage")
    else
      match record.checkpointVersion with
      | .int version =>
        if version ≠ supportedCheckpointVersion then
          .ok (.inl "unsupported checkpoint version; restart stage")
        else
          match Stage.ofValue? record.stage with
          | none => .ok (.inl "checkpoint stage is unknown; restart stage")
          | some _ =>
            let snapshots := do
              let cursor ← snapshotMapping room "checkpoint cursor" record.cursor
              let _ ← snapshotMapping room "checkpoint counters" record.counters
              return cursor
            match snapshots with
            | .ok cursor => .ok (.inr cursor)
            | .error (.lifecycle error) =>
              .ok (.inl (safeReason error.message
                "checkpoint record is malformed; restart stage"))
            | .error (.raised error) => .error (.raised error)
      | _ => .ok (.inl "unsupported checkpoint version; restart stage")

/-! ## Restarting -/

/-- What is done after a restart. -/
inductive RestartStatus where
  | blocked
  | restartStage
  | resume
  deriving DecidableEq, Repr

/-- What is run after a restart, and from where. -/
structure RestartDecision where
  status : RestartStatus
  runnable : List Stage
  reason : String
  cursor : Option PyDict := none

/-- `_restart_plan`. -/
def lifecyclePlan (completedStages : List PyStr) (config : SchedulerConfig) :
    Except StopError StagePlan :=
  (restartPlan completedStages config).mapError fun error =>
    match error with
    | .schedulerError message => .lifecycle ⟨"invalid_restart_plan", message⟩
    | .raised error => .raised error

def restartFromCheckpoint (loadCheckpoint : Except PyError (Option LoadedCheckpoint))
    (completedStages : List PyStr)
    (expectedSourceFingerprint currentSourceFingerprint : PyValue) (config : SchedulerConfig) :
    Except StopError RestartDecision := do
  match fingerprint? expectedSourceFingerprint, fingerprint? currentSourceFingerprint with
  | some expected, some current =>
    if current ≠ expected then
      return ⟨.blocked, [], "source reconnect fingerprint mismatch", none⟩
    else
      match loadCheckpoint with
      | .error (.checkpointError message restartStage) =>
        let plan ← lifecyclePlan completedStages config
        return {
          status := if restartStage then .restartStage else .blocked
          runnable := if restartStage then plan.runnable else []
          reason := safeReason message "checkpoint cannot be trusted; restart stage" }
      | .error error => throw (.raised error)
      | .ok checkpoint =>
        match ← checkpointSnapshot room checkpoint current with
        | .inl validationError =>
          let plan ← lifecyclePlan completedStages config
          return ⟨.restartStage, plan.runnable, validationError, none⟩
        | .inr cursor =>
          let plan ← lifecyclePlan completedStages config
          return ⟨.resume, plan.runnable, "checkpoint validated", some cursor⟩
  | _, _ => return ⟨.blocked, [], "source fingerprint is invalid", none⟩

/-! ## Snapshots of cursors -/

variable {label : String}

theorem materializeItems_eq_ok {items results : List PyValue} {calls : ℕ}
    (each : ∀ item ∈ items, ∀ {calls result}, materializeJson label calls item = .ok result →
      result = item ∧ item.Everywhere PyValue.TextKeys)
    (materialized : materializeItems label calls items = .ok results) :
    results = items ∧ ∀ item ∈ items, item.Everywhere PyValue.TextKeys := by
  induction items generalizing results with
  | nil =>
    cases materialized
    exact ⟨rfl, nofun⟩
  | cons item items ih =>
    rw [materializeItems] at materialized
    rcases bind_eq_ok materialized with ⟨first, isFirst, materialized⟩
    rcases bind_eq_ok materialized with ⟨rest, isRest, isResult⟩
    cases isResult
    rw [List.forall_mem_cons] at each
    rcases each.1 isFirst with ⟨rfl, firstKeys⟩
    rcases ih each.2 isRest with ⟨rfl, restKeys⟩
    exact ⟨rfl, List.forall_mem_cons.mpr ⟨firstKeys, restKeys⟩⟩

theorem materializePairs_eq_ok {items results : List (PyValue × PyValue)} {calls : ℕ}
    (each : ∀ item ∈ items, ∀ {calls result}, materializeJson label calls item.2 = .ok result →
      result = item.2 ∧ item.2.Everywhere PyValue.TextKeys)
    (materialized : materializePairs label calls items = .ok results) :
    results = items ∧ ∀ item ∈ items, (∃ points, item.1 = .text points) ∧
      item.2.Everywhere PyValue.TextKeys := by
  induction items generalizing results with
  | nil =>
    cases materialized
    exact ⟨rfl, nofun⟩
  | cons item items ih =>
    rcases item with ⟨key, value⟩
    cases key with
    | text points =>
      rw [materializePairs] at materialized
      rcases bind_eq_ok materialized with ⟨child, isChild, materialized⟩
      rcases bind_eq_ok materialized with ⟨rest, isRest, isResult⟩
      cases isResult
      rw [List.forall_mem_cons] at each
      rcases each.1 isChild with ⟨rfl, childKeys⟩
      rcases ih each.2 isRest with ⟨rfl, restKeys⟩
      exact ⟨rfl, List.forall_mem_cons.mpr ⟨⟨⟨points, rfl⟩, childKeys⟩, restKeys⟩⟩
    | _ => cases materialized

/-- Nothing changes in what is materialized, and all its keys are strings. -/
theorem materializeJson_eq_ok {value : PyValue} :
    ∀ {calls result}, materializeJson label calls value = .ok result →
      result = value ∧ value.Everywhere PyValue.TextKeys := by
  induction value using PyValue.induct with
  | leaf value isLeaf =>
    intro calls result materialized
    cases isLeaf with
    | _ =>
      cases calls with
      | zero => cases materialized
      | succ calls =>
        cases materialized
        exact ⟨rfl, trivial⟩
  | list items ih =>
    intro calls result materialized
    cases calls with
    | zero => cases materialized
    | succ calls =>
      rw [materializeJson] at materialized
      rcases bind_eq_ok materialized with ⟨results, areResults, isResult⟩
      cases isResult
      rcases materializeItems_eq_ok ih areResults with ⟨rfl, textKeys⟩
      exact ⟨rfl, PyValue.everywhere_list_iff.mpr ⟨trivial, textKeys⟩⟩
  | dict items ih =>
    intro calls result materialized
    cases calls with
    | zero => cases materialized
    | succ calls =>
      rw [materializeJson] at materialized
      rcases bind_eq_ok materialized with ⟨results, areResults, isResult⟩
      cases isResult
      rcases materializePairs_eq_ok (fun item isItem => (ih item isItem).2) areResults with
        ⟨rfl, textKeys⟩
      refine ⟨rfl, PyValue.everywhere_dict_iff.mpr ⟨fun item isItem => (textKeys item isItem).1,
        fun item isItem => ⟨?_, (textKeys item isItem).2⟩⟩⟩
      rcases (textKeys item isItem).1 with ⟨points, isText⟩
      rw [isText]
      trivial

theorem snapshotMapping_eq_ok {value : PyValue} {snapshot : PyDict}
    (taken : snapshotMapping room label value = .ok snapshot) :
    value.Everywhere PyValue.TextKeys ∧ ∃ text, dumps false room.nesting value = .ok text ∧
      loads room.nesting text = .ok (.dict snapshot) := by
  unfold snapshotMapping at taken
  split at taken
  · rename_i items
    rcases bind_eq_ok taken with ⟨read, isRead, taken⟩
    rw [mapError_eq_ok] at isRead
    rcases bind_eq_ok isRead with ⟨normalized, isNormalized, isRead⟩
    rcases materializeJson_eq_ok isNormalized with ⟨rfl, textKeys⟩
    rw [snapshotText] at isRead
    rcases bind_eq_ok isRead with ⟨text, isText, isRead⟩
    split at isRead
    · cases isRead
    split at taken
    · cases taken
      exact ⟨textKeys, text, mapError_eq_ok.mp isText, mapError_eq_ok.mp isRead⟩
    · cases taken
  · cases taken

theorem everywhere_inKeyOrder {value : PyValue} :
    value.inKeyOrder.Everywhere PyValue.JoinedText ↔ value.Everywhere PyValue.JoinedText := by
  induction value using PyValue.induct with
  | leaf value isLeaf => rw [isLeaf.inKeyOrder]
  | list items ih =>
    rw [PyValue.inKeyOrder, PyValue.inKeyOrderItems_eq_map, PyValue.everywhere_list_iff,
      PyValue.everywhere_list_iff, List.forall_mem_map]
    exact and_congr Iff.rfl (forall₂_congr ih)
  | dict items ih =>
    rw [PyValue.inKeyOrder_dict, PyValue.everywhere_dict_iff, PyValue.everywhere_dict_iff,
      List.forall_mem_map]
    simp only [List.mem_insertionSort]
    exact and_congr Iff.rfl (forall₂_congr fun item isItem =>
      and_congr Iff.rfl (ih item isItem).2)

/-- A snapshot is the same as its mapping unless two surrogates in a string are read as one. -/
theorem same_snapshot_iff {value : PyValue} {snapshot : PyDict}
    (distinctKeys : value.Everywhere PyValue.DistinctKeys)
    (taken : snapshotMapping room label value = .ok snapshot) :
    (PyValue.dict snapshot).Same value ↔ value.Everywhere PyValue.JoinedText := by
  rcases snapshotMapping_eq_ok room taken with ⟨textKeys, text, written, read⟩
  constructor
  · intro same
    rw [← everywhere_inKeyOrder, ← same, everywhere_inKeyOrder]
    exact joinedText_of_loads read
  · intro joined
    rcases bind_eq_ok written with ⟨json, isJson, isText⟩
    obtain rfl := Except.ok.inj isText
    rw [loads_render (fits_toJson value isJson)] at read
    rcases ofJson_toJson textKeys distinctKeys joined isJson with ⟨isJoined, ordered⟩
    rw [isJoined, ordered] at read
    rw [PyValue.Same, ← Except.ok.inj read, PyValue.inKeyOrder_inKeyOrder textKeys]

/-! ## Whose cursor it is -/

/-- The decision runs the stage of the checkpoint, and the cursor is the one of the checkpoint. -/
def HandsOver (loadCheckpoint : Except PyError (Option LoadedCheckpoint))
    (decision : RestartDecision) : Prop :=
  ∃ record stage cursor, loadCheckpoint = .ok (some record) ∧
    record.stage = .text (.ofString stage.name) ∧ stage ∈ decision.runnable ∧
    decision.cursor = some cursor ∧ (PyValue.dict cursor).Same record.cursor

/-- The stage of the checkpoint is the next to run: it is pending, enabled and ready, and fewer
stages before it are ready than the I/O budget allows for. -/
def IsNext (record : LoadedCheckpoint) (completedStages : List PyStr) (config : SchedulerConfig) :
    Prop :=
  ∃ limits completed stage, validateConfig config = .ok limits ∧
    completedStages.mapM Stage.ofName? = some completed ∧
    record.stage = .text (.ofString stage.name) ∧
    isReady limits (restartStatuses completed) stage = true ∧
    (readyBefore limits (restartStatuses completed) stage).length < limits.maxIoCost

variable {room} {loadCheckpoint : Except PyError (Option LoadedCheckpoint)}
  {completedStages : List PyStr} {expectedSourceFingerprint currentSourceFingerprint : PyValue}
  {config : SchedulerConfig} {decision : RestartDecision}

theorem checkpointSnapshot_eq_inr {checkpoint : Option LoadedCheckpoint} {current : PyStr}
    {cursor : PyDict} (accepted : checkpointSnapshot room checkpoint current = .ok (.inr cursor)) :
    ∃ record stage, checkpoint = some record ∧ Stage.ofValue? record.stage = some stage ∧
      snapshotMapping room "checkpoint cursor" record.cursor = .ok cursor := by
  unfold checkpointSnapshot at accepted
  split at accepted
  · cases accepted
  rename_i record
  split at accepted
  · cases accepted
  split at accepted
  · split at accepted
    · cases accepted
    split at accepted
    · cases accepted
    rename_i stage isStage
    refine ⟨record, stage, rfl, isStage, ?_⟩
    dsimp only at accepted
    split at accepted
    · rename_i taken
      cases accepted
      rcases bind_eq_ok taken with ⟨first, isCursor, taken⟩
      rcases bind_eq_ok taken with ⟨_, _, isFirst⟩
      cases isFirst
      exact isCursor
    · cases accepted
    · cases accepted
  · cases accepted

/-- A restart that resumes has validated a checkpoint and, beside it, made a plan. -/
theorem restartFromCheckpoint_resume
    (returned : restartFromCheckpoint room loadCheckpoint completedStages expectedSourceFingerprint
      currentSourceFingerprint config = .ok decision)
    (resumes : decision.status = .resume) :
    ∃ current checkpoint cursor plan, loadCheckpoint = .ok checkpoint ∧
      checkpointSnapshot room checkpoint current = .ok (.inr cursor) ∧
      restartPlan completedStages config = .ok plan ∧ decision.runnable = plan.runnable ∧
      decision.cursor = some cursor := by
  unfold restartFromCheckpoint at returned
  split at returned
  · rename_i expected current _ _
    split at returned
    · cases returned
      cases resumes
    split at returned
    · rename_i message restartStage
      rcases bind_eq_ok returned with ⟨plan, _, returned⟩
      cases returned
      cases restartStage <;> cases resumes
    · cases returned
    · rename_i checkpoint
      rcases bind_eq_ok returned with ⟨snapshot, isSnapshot, returned⟩
      cases snapshot with
      | inl validationError =>
        rcases bind_eq_ok returned with ⟨plan, _, returned⟩
        cases returned
        cases resumes
      | inr cursor =>
        rcases bind_eq_ok returned with ⟨plan, isPlan, returned⟩
        cases returned
        exact ⟨current, checkpoint, cursor, plan, rfl, isSnapshot,
          mapError_eq_ok.mp isPlan, rfl, rfl⟩
  · cases returned
    cases resumes

/-- A restart hands the cursor to its own stage exactly when that stage is the next to run, and when
the cursor is read as it was written. -/
theorem handsOver_iff
    (returned : restartFromCheckpoint room loadCheckpoint completedStages expectedSourceFingerprint
      currentSourceFingerprint config = .ok decision)
    (resumes : decision.status = .resume) :
    HandsOver loadCheckpoint decision ↔ ∃ record, loadCheckpoint = .ok (some record) ∧
      IsNext record completedStages config ∧ record.cursor.Everywhere PyValue.JoinedText := by
  rcases restartFromCheckpoint_resume returned resumes with
    ⟨current, checkpoint, cursor, plan, isLoaded, accepted, isPlan, runnable, isCursor⟩
  rcases checkpointSnapshot_eq_inr accepted with ⟨record, stage, rfl, isStage, taken⟩
  rcases restartPlan_runnable isPlan with ⟨limits, completed, areLimits, areCompleted, runs⟩
  have same := same_snapshot_iff room record.distinctKeys taken
  constructor
  · rintro ⟨other, stage, otherCursor, isOther, isStage, runsStage, isOtherCursor, isSame⟩
    rw [isLoaded] at isOther
    cases isOther
    rw [isCursor] at isOtherCursor
    cases isOtherCursor
    rw [runnable, runs] at runsStage
    exact ⟨record, isLoaded, ⟨limits, completed, stage, areLimits, areCompleted, isStage,
      runsStage.1, runsStage.2⟩, same.mp isSame⟩
  · rintro ⟨other, isOther, ⟨_, _, stage, sameLimits, sameCompleted, isStage, ready, within⟩,
      joined⟩
    rw [isLoaded] at isOther
    cases isOther
    rw [areLimits] at sameLimits
    cases sameLimits
    rw [areCompleted] at sameCompleted
    cases sameCompleted
    refine ⟨record, stage, cursor, isLoaded, isStage, ?_, isCursor, same.mpr joined⟩
    rw [runnable, runs]
    exact ⟨ready, within⟩

/-! A checkpoint with an empty cursor. -/

def sampleFingerprint : PyStr := List.replicate 64 (.ofChar 'a')

def sampleCheckpoint (stage : Stage) : LoadedCheckpoint where
  sourceFingerprint := .text sampleFingerprint
  stage := .text (.ofString stage.name)
  checkpointVersion := .int 1
  cursor := .dict []
  counters := .dict []
  distinctKeys := PyValue.everywhere_dict_iff.mpr ⟨List.nodup_nil, nofun⟩

def sampleRoom : Room := ⟨100, 100⟩

/-- The stages before enumeration are completed. -/
def firstStages : List PyStr := ["validation", "volumes"].map .ofString

theorem restart_sample (stage : Stage) (completedStages : List PyStr) {plan : StagePlan}
    (isPlan : restartPlan completedStages {} = .ok plan) :
    restartFromCheckpoint sampleRoom (.ok (some (sampleCheckpoint stage))) completedStages
        (.text sampleFingerprint) (.text sampleFingerprint) {} =
      .ok ⟨.resume, plan.runnable, "checkpoint validated", some []⟩ := by
  have isFingerprint : fingerprint? (.text sampleFingerprint) = some sampleFingerprint := by decide
  have accepted : checkpointSnapshot sampleRoom (some (sampleCheckpoint stage)) sampleFingerprint =
      .ok (.inr []) := by
    have same : (sampleCheckpoint stage).sourceFingerprint.eq (.text sampleFingerprint) = true := by
      change PyValue.eq (.text sampleFingerprint) (.text sampleFingerprint) = true
      decide
    have isStage : Stage.ofValue? (sampleCheckpoint stage).stage = some stage := by
      cases stage <;> decide
    rw [checkpointSnapshot]
    dsimp only
    rw [same, isStage]
    rfl
  rw [restartFromCheckpoint, isFingerprint]
  dsimp only
  rw [if_neg (not_not_intro rfl), accepted, lifecyclePlan, isPlan]
  rfl

theorem firstStages_plan : restartPlan firstStages {} =
      .ok ⟨[.enumeration], [.artifacts, .carving, .enrichment, .finalization]⟩ := by
  decide

theorem handsOver_sample : HandsOver (.ok (some (sampleCheckpoint .enumeration)))
        ⟨.resume, [.enumeration], "checkpoint validated", some []⟩ ↔
      ∃ record, (.ok (some (sampleCheckpoint .enumeration)) : Except PyError _) =
        .ok (some record) ∧
        IsNext record firstStages {} ∧ record.cursor.Everywhere PyValue.JoinedText :=
  handsOver_iff (restart_sample .enumeration firstStages firstStages_plan) rfl

/-- The checkpoint of the carving, when artifacts are the next to run. -/
theorem carving_cursor_misplaced :
    restartFromCheckpoint sampleRoom (.ok (some (sampleCheckpoint .carving)))
        (["validation", "volumes", "enumeration"].map .ofString)
        (.text sampleFingerprint) (.text sampleFingerprint) {} =
      .ok ⟨.resume, [.artifacts], "checkpoint validated", some []⟩ ∧
    ¬HandsOver (.ok (some (sampleCheckpoint .carving)))
      ⟨.resume, [.artifacts], "checkpoint validated", some []⟩ := by
  have isPlan : restartPlan (["validation", "volumes", "enumeration"].map .ofString) {} =
      .ok ⟨[.artifacts], [.carving, .enrichment, .finalization]⟩ := by decide
  refine ⟨restart_sample .carving _ isPlan, ?_⟩
  rintro ⟨record, stage, cursor, isRecord, isStage, runs, _, _⟩
  cases isRecord
  rw [List.mem_singleton.mp runs] at isStage
  exact absurd (PyValue.text.inj isStage) (by decide)

end Reperio.Scanner
