import Reperio.Checkpoints.Medium
import Reperio.Relational.Links

/-!
# The chain of checkpoints

Any number of saves on one connection, by either module, successful or not.
The rows of a job and a stage stay a linked chain in the order of the
successful saves: the row inserted last is the only one that is not
superseded, whatever the timestamps are, and from there the references lead
back through all the others.
-/

namespace Reperio

open Python Relational Concurrency Checkpoints

variable {runtime : Runtime}

namespace Checkpoints

theorem run_issue_bind {α : Type} (statement : CheckpointStatement)
    (next : statement.Reply → CheckpointProgram α) (catalog : Catalog runtime) :
    (issue statement >>= next).run CheckpointStatement.perform catalog =
      (next (statement.perform catalog).2).run CheckpointStatement.perform
        (statement.perform catalog).1 := rfl

/-- What the transaction does to the row it supersedes. -/
def link (checkpointId : String) (previous : Option String) (row : Checkpoint) : Checkpoint :=
  if some row.checkpointId = previous then
    { row with supersededByCheckpointId := some checkpointId }
  else row

@[simp]
theorem link_checkpointId (checkpointId : String) (previous : Option String) (row : Checkpoint) :
    (link checkpointId previous row).checkpointId = row.checkpointId := by
  unfold link
  split <;> rfl

@[simp]
theorem link_supersedes (checkpointId : String) (previous : Option String) (row : Checkpoint) :
    (link checkpointId previous row).supersedesCheckpointId = row.supersedesCheckpointId := by
  unfold link
  split <;> rfl

theorem ofStage_link (jobId stage checkpointId : String) (previous : Option String)
    (row : Checkpoint) :
    CheckpointStatement.ofStage jobId stage (link checkpointId previous row) =
      CheckpointStatement.ofStage jobId stage row := by
  unfold link
  split <;> rfl

theorem link_none (checkpointId : String) (row : Checkpoint) :
    link checkpointId none row = row := rfl

/-- The checkpoint that a save of a job and a stage supersedes. -/
def latestId (catalog : Catalog runtime) (jobId stage : String) : Option String :=
  ((CheckpointStatement.selectLatest jobId stage).perform catalog).2.map Checkpoint.checkpointId

theorem insert_cases (catalog : Catalog runtime) (row : Checkpoint) :
    ((CheckpointStatement.insert row).perform catalog = (catalog, .error .integrityError)) ∨
    ∃ checkpoints, catalog.checkpoints.insert row = some checkpoints ∧
      (CheckpointStatement.insert row).perform catalog = ({ catalog with checkpoints }, .ok 1) := by
  have performed : (CheckpointStatement.insert row).perform catalog =
      CheckpointStatement.insertRow catalog row := rfl
  rw [performed]
  delta CheckpointStatement.insertRow
  cases inserted : catalog.checkpoints.insert row with
  | none => exact Or.inl rfl
  | some checkpoints =>
    dsimp only
    split
    · exact Or.inr ⟨checkpoints, rfl, rfl⟩
    · exact Or.inl rfl

theorem setSupersededBy_cases (catalog : Catalog runtime) (supersededBy checkpointId : String) :
    ((CheckpointStatement.setSupersededBy supersededBy checkpointId).perform catalog =
      (catalog, .error .integrityError)) ∨
    ∃ checkpoints count,
      checkpoints.rows = catalog.checkpoints.rows.map (link supersededBy (some checkpointId)) ∧
      (CheckpointStatement.setSupersededBy supersededBy checkpointId).perform catalog =
        ({ catalog with checkpoints }, .ok count) := by
  have performed : (CheckpointStatement.setSupersededBy supersededBy checkpointId).perform catalog =
      CheckpointStatement.updateRow catalog supersededBy checkpointId := rfl
  rw [performed, CheckpointStatement.updateRow]
  split
  · exact Or.inl rfl
  · rename_i checkpoints count updated
    split
    · refine Or.inr ⟨checkpoints, count, ?_, rfl⟩
      rw [(Table.update_eq_some.mp updated).1, Table.updated]
      refine List.map_congr_left fun row _ => ?_
      by_cases same : row.checkpointId = checkpointId
      · rw [if_pos (decide_eq_true same), link, if_pos (congrArg some same)]
      · rw [if_neg (decide_eq_true_iff.not.mpr same), link,
          if_neg (fun isSame => same (Option.some.inj isSame))]
    · exact Or.inl rfl

theorem mem_of_selectLatest {catalog : Catalog runtime} {jobId stage : String} {row : Checkpoint}
    (found : ((CheckpointStatement.selectLatest jobId stage).perform catalog).2 = some row) :
    row ∈ catalog.checkpoints.rows :=
  List.mem_of_mem_filter (mem_of_mem_orderLimit (List.mem_of_head? found))

theorem exists_of_latestId {catalog : Catalog runtime} {jobId stage checkpointId : String}
    (latest : latestId catalog jobId stage = some checkpointId) :
    ∃ row ∈ catalog.checkpoints.rows, row.checkpointId = checkpointId := by
  rcases Option.map_eq_some_iff.mp latest with ⟨row, isFirst, isId⟩
  exact ⟨row, mem_of_selectLatest isFirst, isId⟩

theorem run_storeBehind {previous : Option String} {row : Checkpoint}
    {injectFailureAfterInsert : Bool} {catalog after : Catalog runtime}
    (isOld : ∀ checkpointId ∈ previous, ∃ old ∈ catalog.checkpoints.rows,
      old.checkpointId = checkpointId)
    (returned : (storeBehind previous row injectFailureAfterInsert).run CheckpointStatement.perform
      catalog = (after, .ok ())) :
    (∀ old ∈ catalog.checkpoints.rows, old.checkpointId ≠ row.checkpointId) ∧
      after.checkpoints.rows = catalog.checkpoints.rows.map (link row.checkpointId previous) ++
          [{ row with supersedesCheckpointId := previous }] := by
  unfold storeBehind at returned
  rw [Program.run_ofExcept_bind] at returned
  cases bound : Jobs.bindInteger row.checkpointVersion with
  | error error => rw [bound] at returned; cases returned
  | ok _ =>
  rw [bound] at returned
  dsimp only at returned
  rw [run_issue_bind (.insert { row with supersedesCheckpointId := previous })] at returned
  rcases insert_cases catalog { row with supersedesCheckpointId := previous } with
    failed | ⟨checkpoints, inserted, stored⟩
  · rw [failed] at returned
    cases returned
  rw [stored, Program.run_ofExcept_bind] at returned
  dsimp only at returned
  rcases Table.insert_eq_some.mp inserted with ⟨_, fresh, rows⟩
  refine ⟨fresh, ?_⟩
  split at returned
  · cases returned
  cases previous with
  | none =>
    cases returned
    rw [rows, List.map_congr_left fun row _ => link_none _ row, List.map_id']
  | some checkpointId =>
    rw [run_issue_bind (.setSupersededBy row.checkpointId checkpointId)] at returned
    rcases setSupersededBy_cases { catalog with checkpoints } row.checkpointId checkpointId with
      failed | ⟨linked, count, linkedRows, updated⟩
    · rw [failed] at returned
      cases returned
    · rw [updated] at returned
      cases returned
      rcases isOld checkpointId rfl with ⟨old, member, rfl⟩
      have notNew : some row.checkpointId ≠ some old.checkpointId :=
        fun same => fresh old member (Option.some.inj same).symm
      rw [linkedRows, rows, List.map_append, List.map_singleton, link, if_neg notNew]

/-- A transaction that returns has stored its row and linked the one before it. -/
theorem run_storeCheckpoint {row : Checkpoint} {injectFailureAfterInsert : Bool}
    {catalog after : Catalog runtime}
    (returned : (storeCheckpoint row injectFailureAfterInsert).run CheckpointStatement.perform
      catalog = (after, .ok ())) :
    (∀ old ∈ catalog.checkpoints.rows, old.checkpointId ≠ row.checkpointId) ∧
      after.checkpoints.rows = catalog.checkpoints.rows.map
          (link row.checkpointId (latestId catalog row.jobId row.stage)) ++
        [{ row with supersedesCheckpointId := latestId catalog row.jobId row.stage }] :=
  run_storeBehind (fun _ isLatest => exists_of_latestId isLatest) returned

/-! ## Saves -/

/-- A call of either module that saves a checkpoint. -/
inductive SaveCall where
  | stage (new : NewCheckpoint)
  | medium (new : MediumCheckpoints.NewMediumCheckpoint)

namespace SaveCall

def jobId : SaveCall → String
  | stage new => new.jobId
  | medium new => new.jobId

def stageName : SaveCall → String
  | stage new => new.stage
  | medium new => new.stage

def checkpointId : SaveCall → String
  | stage new => new.checkpointId
  | medium new => new.checkpointId

def isOfStage (jobId stage : String) (call : SaveCall) : Bool :=
  decide (call.jobId = jobId) && decide (call.stageName = stage)

def program (runtime : Runtime) : SaveCall → CheckpointCall Unit
  | stage new => saveCheckpoint runtime new
  | medium new => MediumCheckpoints.saveMediumCheckpoint runtime new

/-- The row that a call stores, before it is linked. -/
def row (runtime : Runtime) : SaveCall → Except PyError Checkpoint
  | stage new => newRow runtime new
  | medium new => MediumCheckpoints.newRow runtime new

def injectsFailure : SaveCall → Bool
  | stage new => new.injectFailureAfterInsert
  | medium _ => false

theorem program_eq (runtime : Runtime) (call : SaveCall) :
    call.program runtime = Program.ofExcept (call.row runtime) >>= fun row =>
      (storeCheckpoint row call.injectsFailure).atomically .operationalError := by
  cases call <;> rfl

/-- The new row is of the job and the stage of the call and not yet linked. -/
structure StoresRow (call : SaveCall) (row : Checkpoint) : Prop where
  checkpointId : row.checkpointId = call.checkpointId
  jobId : row.jobId = call.jobId
  stage : row.stage = call.stageName
  superseded : row.supersededByCheckpointId = none

end SaveCall

theorem SaveCall.storesRow {call : SaveCall} {row : Checkpoint}
    (isRow : call.row runtime = .ok row) : call.StoresRow row := by
  cases call with
  | stage new =>
    simp only [SaveCall.row, newRow] at isRow
    rcases bind_eq_ok isRow with ⟨version, _, isRow⟩
    rcases bind_eq_ok isRow with ⟨cursorJson, _, isRow⟩
    rcases bind_eq_ok isRow with ⟨countersJson, _, isRow⟩
    rcases bind_eq_ok isRow with ⟨integritySha256, _, isRow⟩
    cases isRow
    exact ⟨rfl, rfl, rfl, rfl⟩
  | medium new =>
    simp only [SaveCall.row, MediumCheckpoints.newRow] at isRow
    rcases bind_eq_ok isRow with ⟨mediumKey, _, isRow⟩
    rcases bind_eq_ok isRow with ⟨mediumJson, _, isRow⟩
    rcases bind_eq_ok isRow with ⟨cursorJson, _, isRow⟩
    rcases bind_eq_ok isRow with ⟨countersJson, _, isRow⟩
    rcases bind_eq_ok isRow with ⟨integritySha256, _, isRow⟩
    cases isRow
    exact ⟨rfl, rfl, rfl, rfl⟩

/-! ## Archives -/

/-- A connection and, in order, the calls that returned on it. -/
structure Archive (runtime : Runtime) where
  session : Session (Catalog runtime)
  saved : List SaveCall

namespace Archive

/-- A catalog without checkpoints. -/
def start (catalog : Catalog runtime) : Archive runtime :=
  ⟨.settled { catalog with checkpoints := .empty }, []⟩

def save (archive : Archive runtime) (call : SaveCall) : Archive runtime :=
  match (call.program runtime).run (Command.execute CheckpointStatement.perform)
    archive.session with
  | (session, .ok ()) => ⟨session, archive.saved ++ [call]⟩
  | (session, .error _) => ⟨session, archive.saved⟩

def saveAll (archive : Archive runtime) (calls : List SaveCall) : Archive runtime :=
  calls.foldl save archive

/-- The rows of a job and a stage, in the order of their insertion. -/
def rows (archive : Archive runtime) (jobId stage : String) : List Checkpoint :=
  archive.session.committed.checkpoints.rows.filter (CheckpointStatement.ofStage jobId stage)

/-- The checkpoints of a job and a stage whose saves returned, in the order of the saves. -/
def savedIds (archive : Archive runtime) (jobId stage : String) : List String :=
  (archive.saved.filter (SaveCall.isOfStage jobId stage)).map SaveCall.checkpointId

/-- What every save keeps. -/
structure Chained (archive : Archive runtime) : Prop where
  settled : archive.session.working = none
  saved : ∀ jobId stage,
    (archive.rows jobId stage).map Checkpoint.checkpointId = archive.savedIds jobId stage
  linked : ∀ jobId stage, Linked Checkpoint.checkpointId Checkpoint.supersedesCheckpointId
    Checkpoint.supersededByCheckpointId (archive.rows jobId stage)

theorem chained_start (catalog : Catalog runtime) : (start catalog).Chained where
  settled := rfl
  saved _ _ := rfl
  linked _ _ := .nil

/-- The call returns. -/
def Returns (archive : Archive runtime) (call : SaveCall) : Prop :=
  ((call.program runtime).run (Command.execute CheckpointStatement.perform)
    archive.session).2 = .ok ()

theorem saved_save {archive : Archive runtime} {call : SaveCall} (returns : archive.Returns call) :
    (archive.save call).saved = archive.saved ++ [call] := by
  unfold Returns at returns
  unfold save
  generalize (call.program runtime).run (Command.execute CheckpointStatement.perform)
    archive.session = result at returns ⊢
  rcases result with ⟨session, error | _⟩
  · cases returns
  · rfl

/-- What a call leaves behind is decided by its transaction. -/
theorem save_of_row {catalog after : Catalog runtime} {saved : List SaveCall} {call : SaveCall}
    {row : Checkpoint} {result : Except PyError Unit} (isRow : call.row runtime = .ok row)
    (stored : (storeCheckpoint row call.injectsFailure).run CheckpointStatement.perform catalog =
      (after, result)) :
    ((Archive.mk (.settled catalog) saved).Returns call ↔ result = .ok ()) ∧
      (Archive.mk (.settled catalog) saved).save call =
        match (motive := Except PyError Unit → Archive runtime) result with
        | .ok _ => ⟨.settled after, saved ++ [call]⟩
        | .error _ => ⟨.settled catalog, saved⟩ := by
  have run := Program.run_atomically CheckpointStatement.perform PyError.operationalError
    (storeCheckpoint row call.injectsFailure) catalog
  simp only [Returns, save, SaveCall.program_eq, Program.run_ofExcept_bind, isRow, run, stored]
  rcases result with error | _
  · exact ⟨Iff.rfl, rfl⟩
  · exact ⟨Iff.rfl, rfl⟩

/-- A save raises and leaves all as it was, or returns with its row stored behind the chain. -/
theorem save_cases {archive : Archive runtime} (settled : archive.session.working = none)
    (call : SaveCall) :
    (¬archive.Returns call ∧ archive.save call = archive) ∨
    ∃ row after, archive.Returns call ∧ call.row runtime = .ok row ∧
      archive.save call = ⟨.settled after, archive.saved ++ [call]⟩ ∧
      after.checkpoints.rows = archive.session.committed.checkpoints.rows.map
          (link row.checkpointId (latestId archive.session.committed row.jobId row.stage)) ++
        [{ row with
            supersedesCheckpointId :=
              latestId archive.session.committed row.jobId row.stage }] := by
  rcases archive with ⟨⟨catalog, working⟩, saved⟩
  obtain rfl : working = none := settled
  cases isRow : call.row runtime with
  | error error =>
    refine Or.inl ⟨?_, ?_⟩
    · simp only [Returns, SaveCall.program_eq, Program.run_ofExcept_bind, isRow]
      exact nofun
    · simp only [save, SaveCall.program_eq, Program.run_ofExcept_bind, isRow]
  | ok row =>
    generalize stored : (storeCheckpoint row call.injectsFailure).run
      CheckpointStatement.perform catalog = result
    rcases result with ⟨after, error | _⟩
    · rcases @save_of_row _ _ _ saved _ _ _ isRow stored with ⟨returns, saves⟩
      exact Or.inl ⟨fun isOk => absurd (returns.mp isOk) nofun, saves⟩
    · rcases @save_of_row _ _ _ saved _ _ _ isRow stored with ⟨returns, saves⟩
      exact Or.inr ⟨row, after, returns.mpr rfl, rfl, saves, (run_storeCheckpoint stored).2⟩

/-- Only the last row of the chain is not superseded. -/
theorem Chained.filter_heads {archive : Archive runtime} (chained : archive.Chained)
    (jobId stage : String) :
    archive.session.committed.checkpoints.rows.filter (fun row =>
      CheckpointStatement.ofStage jobId stage row && row.supersededByCheckpointId.isNone) =
      (archive.rows jobId stage).getLast?.toList := by
  rw [← (chained.linked jobId stage).filter_head, rows, List.filter_filter]
  simp only [Bool.and_comm]

/-- A load finds the last row of the chain. -/
theorem Chained.selectLatest {archive : Archive runtime} (chained : archive.Chained)
    (jobId stage : String) :
    ((CheckpointStatement.selectLatest jobId stage).perform archive.session.committed).2 =
      (archive.rows jobId stage).getLast? := by
  simp only [CheckpointStatement.perform, chained.filter_heads]
  cases (archive.rows jobId stage).getLast? <;> rfl

/-- The row a save supersedes is the last one of the chain. -/
theorem Chained.latestId {archive : Archive runtime} (chained : archive.Chained)
    (jobId stage : String) :
    Checkpoints.latestId archive.session.committed jobId stage =
      (archive.rows jobId stage).getLast?.map Checkpoint.checkpointId := by
  rw [Checkpoints.latestId, chained.selectLatest]

theorem nodup_ids (archive : Archive runtime) (jobId stage : String) :
    ((archive.rows jobId stage).map Checkpoint.checkpointId).Nodup :=
  List.pairwise_map.mpr (archive.session.committed.checkpoints.apart.filter _)

theorem mem_rows {archive : Archive runtime} {jobId stage : String} {row : Checkpoint} :
    row ∈ archive.rows jobId stage ↔
      row ∈ archive.session.committed.checkpoints.rows ∧ row.jobId = jobId ∧ row.stage = stage := by
  rw [rows, List.mem_filter, CheckpointStatement.ofStage, Bool.and_eq_true, decide_eq_true_eq,
    decide_eq_true_eq]

/-- The rows of a chain change only when the save is of the same job and stage. -/
theorem Chained.rows_after {archive : Archive runtime} (chained : archive.Chained)
    {row : Checkpoint} {after : Catalog runtime} {saved : List SaveCall} {previous : Option String}
    (latest : Checkpoints.latestId archive.session.committed row.jobId row.stage = previous)
    (stored : after.checkpoints.rows =
      archive.session.committed.checkpoints.rows.map (link row.checkpointId previous) ++
        [{ row with supersedesCheckpointId := previous }])
    (jobId stage : String) :
    (Archive.mk (.settled after) saved).rows jobId stage =
      if row.jobId = jobId ∧ row.stage = stage then
        (archive.rows jobId stage).map (link row.checkpointId previous) ++
          [{ row with supersedesCheckpointId := previous }]
      else archive.rows jobId stage := by
  have old :
    (archive.session.committed.checkpoints.rows.map (link row.checkpointId previous)).filter
      (CheckpointStatement.ofStage jobId stage) =
      (archive.rows jobId stage).map (link row.checkpointId previous) := by
    rw [List.filter_map, rows]
    congr 2
    funext other
    exact ofStage_link jobId stage row.checkpointId previous other
  have new : CheckpointStatement.ofStage jobId stage { row with supersedesCheckpointId :=
    previous } = decide (row.jobId = jobId ∧ row.stage = stage) :=
    (Bool.decide_and _ _).symm
  change after.checkpoints.rows.filter _ = _
  rw [stored, List.filter_append, old, List.filter_singleton, new]
  split
  · rename_i same
    rw [decide_eq_true same]
    rfl
  · rename_i different
    rw [decide_eq_false different, cond_false, List.append_nil]
    refine (List.map_congr_left fun other member => ?_).trans (List.map_id _)
    refine if_neg fun isPrevious => different ?_
    rw [chained.latestId, ← isPrevious] at latest
    rcases Option.map_eq_some_iff.mp latest with ⟨last, isLast, sameId⟩
    rcases mem_rows.mp (List.mem_of_getLast? isLast) with ⟨lastMember, lastJob, lastStage⟩
    rcases mem_rows.mp member with ⟨otherMember, otherJob, otherStage⟩
    obtain rfl := archive.session.committed.checkpoints.eq_of_key_eq lastMember otherMember sameId
    exact ⟨lastJob.symm.trans otherJob, lastStage.symm.trans otherStage⟩

/-- A step keeps the chains. -/
theorem Chained.save {archive : Archive runtime} (chained : archive.Chained) (call : SaveCall) :
    (archive.save call).Chained := by
  rcases save_cases chained.settled call with
    ⟨_, unchanged⟩ | ⟨row, after, _, isRow, saved, stored⟩
  · rw [unchanged]
    exact chained
  have stores := SaveCall.storesRow isRow
  rw [saved]
  have rowsAfter := @chained.rows_after _ _ row after (archive.saved ++ [call]) _ rfl stored
  have idsAfter : ∀ jobId stage, (Archive.mk (.settled after) (archive.saved ++ [call])).savedIds
      jobId stage = if row.jobId = jobId ∧ row.stage = stage then
        archive.savedIds jobId stage ++ [row.checkpointId]
      else archive.savedIds jobId stage := by
    intro jobId stage
    have isOfStage : call.isOfStage jobId stage =
      decide (row.jobId = jobId ∧ row.stage = stage) := by
      rw [stores.jobId, stores.stage, Bool.decide_and]
      rfl
    rw [savedIds, List.filter_append, List.filter_singleton, isOfStage, List.map_append,
      stores.checkpointId]
    split
    · rename_i same
      rw [decide_eq_true same]
      rfl
    · rename_i different
      rw [decide_eq_false different, cond_false, List.map_nil, List.append_nil]
      rfl
  refine ⟨rfl, fun jobId stage => ?_, fun jobId stage => ?_⟩
  · rw [rowsAfter, idsAfter]
    split
    · rw [List.map_append, List.map_map, ← chained.saved]
      simp [Function.comp_def]
    · exact chained.saved jobId stage
  · rw [rowsAfter]
    split
    · rename_i same
      rcases same with ⟨rfl, rfl⟩
      have latest := chained.latestId row.jobId row.stage
      refine (chained.linked _ _).append (fun old _ => link_checkpointId _ _ old)
        (fun old _ => link_supersedes _ _ old) ?_ ?_ latest stores.superseded
      · intro last isLast
        rw [latest, Option.mem_def.mp isLast, Option.map_some, link, if_pos rfl]
      · intro other isOther
        rw [latest, link, if_neg]
        intro isLast
        rcases Option.map_eq_some_iff.mp isLast.symm with ⟨last, lastRow, sameId⟩
        have unique := nodup_ids archive row.jobId row.stage
        rw [← List.dropLast_append_getLast? last lastRow, List.map_append,
          List.nodup_append] at unique
        exact unique.2.2 _ (List.mem_map_of_mem isOther) _ List.mem_cons_self sameId.symm
    · exact chained.linked jobId stage

/-- After a save that returned, a load finds its row. -/
theorem Chained.selectLatest_save {archive : Archive runtime} (chained : archive.Chained)
    {call : SaveCall} {row : Checkpoint} (returns : archive.Returns call)
    (isRow : call.row runtime = .ok row) :
    ∃ previous, ((CheckpointStatement.selectLatest row.jobId row.stage).perform
      (archive.save call).session.committed).2 =
        some { row with supersedesCheckpointId := previous } := by
  rcases save_cases chained.settled call with
    ⟨raises, _⟩ | ⟨other, after, _, isOther, saved, stored⟩
  · exact absurd returns raises
  obtain rfl := Except.ok.inj (isRow.symm.trans isOther)
  refine ⟨Checkpoints.latestId archive.session.committed row.jobId row.stage, ?_⟩
  rw [(chained.save call).selectLatest, saved,
    @chained.rows_after _ _ row after _ _ rfl stored, if_pos ⟨rfl, rfl⟩]
  exact List.getLast?_concat

theorem Chained.saveAll {archive : Archive runtime} (chained : archive.Chained)
    (calls : List SaveCall) : (archive.saveAll calls).Chained := by
  induction calls generalizing archive with
  | nil => exact chained
  | cons call calls ih => exact ih (chained.save call)

/-- One row of a job and a stage can be resumed, and it leads to all the others. -/
structure ResumableHead (archive : Archive runtime) (jobId stage : String) (head : Checkpoint) :
    Prop where
  stored : head ∈ archive.rows jobId stage
  unique : ∀ row ∈ archive.rows jobId stage, row.supersededByCheckpointId = none ↔ row = head
  lastSaved : (archive.savedIds jobId stage).getLast? = some head.checkpointId
  history : ∀ steps, (archive.rows jobId stage).length ≤ steps →
    walkBack Checkpoint.supersedesCheckpointId archive.session.committed.checkpoints.lookup steps
      (some head.checkpointId) = (archive.savedIds jobId stage).reverse
  nodup : (archive.savedIds jobId stage).Nodup
  inverse : ∀ first ∈ archive.rows jobId stage, ∀ second ∈ archive.rows jobId stage,
    first.supersedesCheckpointId = some second.checkpointId ↔
      second.supersededByCheckpointId = some first.checkpointId

theorem single_resumable_head (catalog : Catalog runtime) (calls : List SaveCall)
    {jobId stage : String} (stored : ((start catalog).saveAll calls).rows jobId stage ≠ []) :
    ∃ head, ((start catalog).saveAll calls).ResumableHead jobId stage head := by
  have chained := (chained_start catalog).saveAll calls
  generalize (start catalog).saveAll calls = archive at chained stored ⊢
  have linked := chained.linked jobId stage
  have unique := nodup_ids archive jobId stage
  have heads := linked.filter_head
  cases isLast : (archive.rows jobId stage).getLast? with
  | none => exact absurd (List.getLast?_eq_none_iff.mp isLast) stored
  | some head =>
  rw [isLast, Option.toList_some] at heads
  have headMember := List.mem_of_getLast? isLast
  refine ⟨head, headMember, fun row member => ?_, ?_, fun steps enough => ?_, ?_,
    fun first firstMember second secondMember =>
      linked.previous_iff_following unique firstMember secondMember⟩
  · have isHead : row ∈ (archive.rows jobId stage).filter
        (fun row => row.supersededByCheckpointId.isNone) ↔ row = head := by
      rw [heads, List.mem_singleton]
    rw [← isHead, List.mem_filter, Option.isNone_iff_eq_none]
    exact (and_iff_right member).symm
  · rw [← chained.saved, List.getLast?_map, isLast]
    rfl
  · have finds : ∀ row ∈ archive.rows jobId stage,
        archive.session.committed.checkpoints.lookup row.checkpointId = some row :=
      fun row member => Table.lookup_of_mem (mem_rows.mp member).1
    have walked := linked.walkBack finds enough
    rw [isLast, Option.map_some] at walked
    rw [walked, chained.saved]
  · rw [← chained.saved]
    exact unique

/-- Two saves with equal timestamps, and a failing one between them. -/
def sampleCalls : List SaveCall := [.stage { NewCheckpoint.sample with checkpointId := "ckpt-2" },
    .stage { NewCheckpoint.sample with
      checkpointId := "ckpt-3", injectFailureAfterInsert := true },
    .stage { NewCheckpoint.sample with checkpointId := "ckpt-1" }]

theorem single_resumable_head_of_samples : ∃ head,
    ((start (sampleCatalog sampleRuntime)).saveAll sampleCalls).ResumableHead "job-1" "inventory"
      head ∧ head.checkpointId = "ckpt-1" := by
  have saved : ((start (sampleCatalog sampleRuntime)).saveAll sampleCalls).savedIds "job-1"
    "inventory" = ["ckpt-2", "ckpt-1"] := by decide +kernel
  have stored : ((start (sampleCatalog sampleRuntime)).saveAll sampleCalls).rows "job-1"
    "inventory" ≠ [] := by
    intro none
    rw [← ((chained_start (sampleCatalog sampleRuntime)).saveAll sampleCalls).saved, none] at saved
    cases saved
  rcases single_resumable_head _ sampleCalls stored with ⟨head, resumable⟩
  have last := resumable.lastSaved
  rw [saved] at last
  exact ⟨head, resumable, (Option.some.inj last).symm⟩

end Archive

end Checkpoints

end Reperio
