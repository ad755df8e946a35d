import Mathlib.Algebra.Group.Nat.Defs
import Reperio.Concurrency.Program
import Reperio.Storage.Directory
import Reperio.Worker.ExportPaths

/-!
# Local export

`worker/local_export.py`: one item is copied under a temporary name, verified, and put
in place by a rename. Any call of the file system may fail with an `OSError`, and what a
writer does to the temporary file is up to it. A failure that comes after the rename is
reported like one before it (`allOrNothing_iff`).
-/

namespace Reperio.Worker

open Python Concurrency Storage

abbrev Bytes := List UInt8

/-! ## Calls -/

/-- What the code raises: `ExportError` with its code, an `OSError` with its number, or another
exception, which nothing catches. -/
inductive Raised where
  | exportError (code : String)
  | osError (errno : Option ℤ)
  | other
  deriving DecidableEq

/-- The calls of an export. Those of the copying loop carry what was copied before. -/
inductive FileCall where
  | resolveRoot
  | isDirectory
  | finalExists
  | resolveSource
  | openSource
  | readSource (copied : ℕ)
  | write (copied : ℕ) (chunk : Bytes)
  | progress (copied : ℕ)
  | closeSource
  | statCopy
  | readCopy
  | openCopy
  | syncCopy
  | closeCopy
  | replace
  | openDirectory
  | syncDirectory
  | closeDirectory
  | copyExists
  | unlinkCopy
  deriving DecidableEq

abbrev FileCall.Result : FileCall → Type
  | isDirectory => Bool
  | finalExists => Bool
  -- whether the path, its links followed, is in the directory that it names
  | resolveSource => Bool
  | readSource _ => Bytes
  | statCopy => ℕ
  | readCopy => Bytes
  | copyExists => Bool
  | _ => Unit

abbrev ExportProgram := Program FileCall fun call => Except Raised call.Result

/-- A call that raises what it replies. -/
def perform (call : FileCall) : ExportProgram Raised call.Result := .execute call Program.ofExcept

/-- The outcome of a program, as a value. -/
def attempt {α : Type} (program : ExportProgram Raised α) :
    ExportProgram Raised (Except Raised α) :=
  Program.handle (fun error => .done (.error error)) (program >>= fun result => .done (.ok result))

/-- A body, and the call that closes what it works on in any case. What that raises comes before
what the body raises. -/
def closing {α : Type} (close : FileCall) (body : ExportProgram Raised α) :
    ExportProgram Raised α := do
  let outcome ← attempt body
  let _ ← perform close
  Program.ofExcept outcome

/-- `except OSError`: another exception in its place. -/
def onOsError {α : Type} (code : String) (program : ExportProgram Raised α) :
    ExportProgram Raised α :=
  program.handle fun error =>
    match error with
    | .osError _ => .raise (.exportError code)
    | error => .raise error

/-! ## Steps -/

/-- How the export of an item ends. -/
inductive ExportState where
  | completed
  | failed
  deriving DecidableEq

/-- What the export of an item returns. -/
structure ExportResult where
  itemId : PyStr
  state : ExportState
  destinationPath : Option PyStr
  size : ℕ
  sha256 : Option PyStr
  verified : Bool
  error : Option PyStr
  updatedAt : PyStr
  deriving DecidableEq

def ExportResult.failure (item : ExportItem) (error now : PyStr) : ExportResult where
  itemId := item.exportItemId
  state := .failed
  destinationPath := none
  size := 0
  sha256 := none
  verified := false
  error := some error
  updatedAt := now

/-- `prepare_copy`, but for the names. -/
def prepareCopy (replace : Bool) : ExportProgram Raised Unit := do
  let _ ← perform .resolveRoot
  if !(← perform .isDirectory) then throw (.exportError "destination_missing")
  else
    if (← perform .finalExists) && !replace then throw (.exportError "destination_exists")
    else return ()

/-- The loop over the chunks. It ends, as every chunk adds to what is copied and a source that grows
beyond the expected size is given up. -/
def copyChunks (item : ExportItem) (copied : Bytes) : ExportProgram Raised Bytes :=
  .execute (.readSource copied.length) fun reply =>
    match reply with
    | .error error => .raise error
    | .ok chunk =>
      if _empty : chunk = [] then .done copied
      else if _grown : item.expectedSize < (copied ++ chunk).length then
        .raise (.exportError "source_changed")
      else
        (perform (.write copied.length chunk)).bind fun _ =>
          (perform (.progress (copied ++ chunk).length)).bind fun _ =>
            copyChunks item (copied ++ chunk)
termination_by item.expectedSize.toNat - copied.length
decreasing_by
  have positive : 0 < chunk.length := List.length_pos_iff.mpr _empty
  rw [List.length_append] at _grown ⊢
  omega

/-- `copy_stream`: the size and the digest of what was read. -/
def copyStream (sha256 : Bytes → PyStr) (item : ExportItem) : ExportProgram Raised (ℕ × PyStr) := do
  if !(← perform .resolveSource) then throw (.exportError "source_outside_scratch")
  else
    let copied ← onOsError "copy_io_failed" do
      let _ ← perform .openSource
      closing .closeSource (copyChunks item [])
    if (copied.length : ℤ) ≠ item.expectedSize then throw (.exportError "source_changed")
    else return (copied.length, sha256 copied)

/-- `verify_copy`. -/
def verifyCopy (sha256 : Bytes → PyStr) (item : ExportItem) : ExportProgram Raised Unit := do
  let size : ℕ ← perform .statCopy
  if (size : ℤ) ≠ item.expectedSize then throw (.exportError "verification_failed")
  else
    if sha256 (← perform .readCopy) ≠ item.expectedSha256 then
      throw (.exportError "verification_failed")
    else return ()

/-- `_fsync_file`. -/
def fsyncFile : ExportProgram Raised Unit := do
  let _ ← perform .openCopy
  closing .closeCopy (perform .syncCopy)

/-- `finalize_copy` up to the rename. -/
def publishCopy : ExportProgram Raised Unit := do
  fsyncFile
  onOsError "finalize_failed" (perform .replace)

/-- `_fsync_dir`. -/
def syncDirectory : ExportProgram Raised Unit := do
  match ← attempt (perform .openDirectory) with
  | .error (.osError _) => return ()
  | .error error => throw error
  | .ok _ => closing .closeDirectory (perform .syncDirectory)

/-- `cleanup_partial`. -/
def cleanupPartial : ExportProgram Raised Bool := (do
    let existed ← perform .copyExists
    let _ ← perform .unlinkCopy
    return existed).handle fun error =>
      match error with
      | .osError _ => .done false
      | error => .raise error

/-- Copying, verifying and renaming. -/
def publish (sha256 : Bytes → PyStr) (item : ExportItem) : ExportProgram Raised (ℕ × PyStr) := do
  let copied ← copyStream sha256 item
  verifyCopy sha256 item
  publishCopy
  return copied

def finalName (item : ExportItem) : PyStr := item.exportItemId ++ .ofString ".final"

/-- The result of an item that is in place, at a path below the resolved root. -/
def completedResult (item : ExportItem) (root now : PyStr) (copied : ℕ × PyStr) : ExportResult where
  itemId := item.exportItemId
  state := .completed
  destinationPath := some (root ++ .ofChar '/' :: finalName item)
  size := copied.1
  sha256 := some copied.2
  verified := decide (copied.2 = item.expectedSha256)
  error := none
  updatedAt := now

/-- `f"unexpected_{error.errno}"`. -/
def unexpected (errno : Option ℤ) : PyStr := .ofString "unexpected_" ++ match errno with
    | none => .ofString "None"
    | some errno => .ofChars (renderInt errno)

/-- The handlers of the second `try`. -/
def failedResult (item : ExportItem) (now : PyStr) (error : Raised) :
    ExportProgram Raised ExportResult :=
  match error with
  | .exportError code => do
      let _ ← cleanupPartial
      return .failure item (.ofString code) now
  | .osError errno => do
      let _ ← cleanupPartial
      return .failure item (unexpected errno) now
  | .other => .raise .other

def exportLocalItem (sha256 : Bytes → PyStr) (item : ExportItem) (root now : PyStr)
    (replace : Bool) : ExportProgram Raised ExportResult := do
  match ← attempt (prepareCopy replace) with
  | .error (.exportError code) => return .failure item (.ofString code) now
  | .error error => throw error
  | .ok () =>
    (do
      let copied ← publish sha256 item
      syncDirectory
      return completedResult item root now copied).handle (failedResult item now)

/-! ## The file system -/

/-- What an export meets: which calls fail and with which number, and what is behind the others. -/
structure World where
  fault : FileCall → Option (Option ℤ)
  isDirectory : Bool
  sourceInside : Bool
  -- what is read of the source when some of it is copied
  source : ℕ → Bytes
  -- what a writer makes of the temporary file, and how it ends
  writer : ℕ → Bytes → Option Bytes → Option Bytes × Except Raised Unit
  progress : ℕ → Except Raised Unit
  -- `secrets.token_hex(8)`
  token : PyStr

def partialName (world : World) (item : ExportItem) : PyStr :=
  .ofChar '.' :: (item.exportItemId ++ .ofChar '.' :: (world.token ++ .ofString ".partial"))

theorem partialName_ne_finalName (world : World) (item : ExportItem) :
    partialName world item ≠ finalName item := by
  intro same
  have suffixes := congrArg (fun name => name.reverse[2]?) same
  have ofPartial : (PyStr.ofString ".partial").reverse = .ofChar 'l' :: .ofChar 'a' ::
    .ofChar 'i' :: (PyStr.ofString ".part").reverse := rfl
  have ofFinal : (PyStr.ofString ".final").reverse = .ofChar 'l' :: .ofChar 'a' :: .ofChar 'n' ::
      (PyStr.ofString ".fi").reverse := rfl
  simp only [partialName, finalName, List.reverse_cons, List.reverse_append, ofPartial, ofFinal,
    List.cons_append, List.getElem?_cons_succ, List.getElem?_cons_zero,
    Option.some.injEq] at suffixes
  exact absurd suffixes (by decide)

abbrev Folder := Directory PyStr Bytes

/-- `ENOENT`. -/
def missing : Raised := .osError (some 2)

/-- What a writer leaves under a name. -/
def put (folder : Folder) (name : PyStr) : Option Bytes → Folder
  | none => folder.remove name
  | some content => folder.write name content

/-- The effect of a call on the destination, and its reply. A call that fails leaves it as it is;
what a writer does before it fails is in the hands of the writer. -/
def step (world : World) (item : ExportItem) (call : FileCall) (folder : Folder) :
    Folder × Except Raised call.Result :=
  match world.fault call with
  | some errno => (folder, .error (.osError errno))
  | none =>
    match call with
    | .resolveRoot => (folder, .ok ())
    | .isDirectory => (folder, .ok world.isDirectory)
    | .finalExists => (folder, .ok (folder.read (finalName item)).isSome)
    | .resolveSource => (folder, .ok world.sourceInside)
    | .openSource => (folder, .ok ())
    | .readSource copied => (folder, .ok (world.source copied))
    | .write copied chunk =>
      let (content, outcome) := world.writer copied chunk (folder.read (partialName world item))
      (put folder (partialName world item) content, outcome)
    | .progress copied => (folder, world.progress copied)
    | .closeSource => (folder, .ok ())
    | .statCopy =>
      match folder.read (partialName world item) with
      | none => (folder, .error missing)
      | some content => (folder, .ok content.length)
    | .readCopy =>
      match folder.read (partialName world item) with
      | none => (folder, .error missing)
      | some content => (folder, .ok content)
    | .openCopy =>
      match folder.read (partialName world item) with
      | none => (folder, .error missing)
      | some _ => (folder, .ok ())
    | .syncCopy => (folder, .ok ())
    | .closeCopy => (folder, .ok ())
    | .replace =>
      match folder.read (partialName world item) with
      | none => (folder, .error missing)
      | some content =>
        ((folder.remove (partialName world item)).write (finalName item) content, .ok ())
    | .openDirectory => (folder, .ok ())
    | .syncDirectory => (folder, .ok ())
    | .closeDirectory => (folder, .ok ())
    | .copyExists => (folder, .ok (folder.read (partialName world item)).isSome)
    | .unlinkCopy => (folder.remove (partialName world item), .ok ())

variable {world : World} {item : ExportItem} {folder : Folder}

theorem read_put_of_ne {name other : PyStr} (different : other ≠ name) (content : Option Bytes) :
    (put folder name content).read other = folder.read other := by
  cases content with
  | none => exact Directory.read_remove_of_ne different
  | some content => exact Directory.read_write_of_ne different

variable {call : FileCall} {α : Type}

/-- No call but the rename touches the final file. -/
theorem read_step (notReplace : call ≠ .replace) :
    (step world item call folder).1.read (finalName item) = folder.read (finalName item) := by
  have different := (partialName_ne_finalName world item).symm
  unfold step
  cases world.fault call with
  | some errno => rfl
  | none =>
    cases call with
    | write copied chunk => exact read_put_of_ne different _
    | unlinkCopy => exact Directory.read_remove_of_ne different
    | replace => exact absurd rfl notReplace
    | statCopy => cases folder.read (partialName world item) <;> rfl
    | readCopy => cases folder.read (partialName world item) <;> rfl
    | openCopy => cases folder.read (partialName world item) <;> rfl
    | _ => rfl

/-- The final file is the one that it was at first. -/
def SameFinal (item : ExportItem) (first folder : Folder) : Prop :=
  folder.read (finalName item) = first.read (finalName item)

theorem sameFinal_run (world : World) (item : ExportItem) {program : ExportProgram Raised α}
    (issues : program.Issues fun call => call ≠ .replace) (folder : Folder) :
    SameFinal item folder (program.run (step world item) folder).1 := by
  have kept : ∀ call state, call ≠ .replace → SameFinal item folder state →
      SameFinal item folder (step world item call state).1 :=
    fun call state notReplace same => (read_step notReplace).trans same
  exact issues.run_preserves kept rfl

/-! ## Calls of the steps -/

theorem issues_perform {allowed : FileCall → Prop} (isAllowed : allowed call) :
    (perform call).Issues allowed := by
  refine ⟨isAllowed, fun reply => ?_⟩
  cases reply <;> trivial

theorem issues_attempt {allowed : FileCall → Prop} {program : ExportProgram Raised α}
    (issues : program.Issues allowed) : (attempt program).Issues allowed := by
  refine Program.Issues.handle (Program.Issues.bind issues fun result => ?_) fun error => ?_
  · exact Program.issues_done _
  · exact Program.issues_done _

theorem issues_ofExcept {allowed : FileCall → Prop} (value : Except Raised α) :
    (Program.ofExcept value : ExportProgram Raised α).Issues allowed := by
  cases value <;> trivial

theorem issues_closing {allowed : FileCall → Prop} {close : FileCall}
    {body : ExportProgram Raised α} (isAllowed : allowed close) (issues : body.Issues allowed) :
    (closing close body).Issues allowed :=
  (issues_attempt issues).bind fun outcome =>
    (issues_perform isAllowed).bind fun _ => issues_ofExcept outcome

theorem issues_onOsError {allowed : FileCall → Prop} {code : String}
    {program : ExportProgram Raised α} (issues : program.Issues allowed) :
    (onOsError code program).Issues allowed := by
  refine issues.handle fun error => ?_
  cases error <;> trivial

theorem issues_copyChunks (item : ExportItem) (copied : Bytes) :
    (copyChunks item copied).Issues fun call => call ≠ .replace := by
  fun_induction copyChunks item copied with
  | case1 copied ih =>
    refine ⟨by simp, fun reply => ?_⟩
    cases reply with
    | error error => trivial
    | ok chunk =>
      dsimp only
      split
      · trivial
      · rename_i notEmpty
        split
        · trivial
        · rename_i fits
          exact (issues_perform (by simp)).bind fun _ => (issues_perform (by simp)).bind fun _ =>
            ih chunk notEmpty fits

theorem issues_copyStream (sha256 : Bytes → PyStr) (item : ExportItem) :
    (copyStream sha256 item).Issues fun call => call ≠ .replace := by
  refine (issues_perform (by decide)).bind fun inside => ?_
  split
  · trivial
  · refine (issues_onOsError ((issues_perform (by decide)).bind fun _ =>
      issues_closing (by decide) (issues_copyChunks item []))).bind fun copied => ?_
    split <;> trivial

theorem issues_cleanupPartial : cleanupPartial.Issues fun call => call ≠ .replace := by
  refine ((issues_perform (by decide)).bind fun existed => (issues_perform (by decide)).bind
    fun _ => Program.issues_done existed).handle fun error => ?_
  cases error <;> trivial

/-! ## Runs of the steps -/

/-- A call that changes nothing. -/
def FileCall.IsRead : FileCall → Prop
  | write _ _ => False
  | replace => False
  | unlinkCopy => False
  | _ => True

theorem fst_step_of_isRead (isRead : call.IsRead) (folder : Folder) :
    (step world item call folder).1 = folder := by
  unfold step
  cases world.fault call with
  | some errno => rfl
  | none =>
    cases call with
    | write copied chunk => exact isRead.elim
    | replace => exact isRead.elim
    | unlinkCopy => exact isRead.elim
    | statCopy => cases folder.read (partialName world item) <;> rfl
    | readCopy => cases folder.read (partialName world item) <;> rfl
    | openCopy => cases folder.read (partialName world item) <;> rfl
    | _ => rfl

theorem fst_run_of_isRead (world : World) (item : ExportItem) {program : ExportProgram Raised α}
    (issues : program.Issues FileCall.IsRead) (folder : Folder) :
    (program.run (step world item) folder).1 = folder := by
  have kept : ∀ (call : FileCall) state, call.IsRead → state = folder →
      (step world item call state).1 = folder :=
    fun call state isRead same => (fst_step_of_isRead isRead state).trans same
  exact issues.run_preserves kept rfl

theorem isRead_prepareCopy (replace : Bool) : (prepareCopy replace).Issues FileCall.IsRead := by
  refine (issues_perform trivial).bind fun _ => (issues_perform trivial).bind fun isDirectory => ?_
  split
  · trivial
  · refine (issues_perform trivial).bind fun present => ?_
    split <;> trivial

theorem isRead_verifyCopy (sha256 : Bytes → PyStr) (item : ExportItem) :
    (verifyCopy sha256 item).Issues FileCall.IsRead := by
  refine (issues_perform trivial).bind fun size => ?_
  split
  · trivial
  · refine (issues_perform trivial).bind fun content => ?_
    split <;> trivial

theorem isRead_fsyncFile : fsyncFile.Issues FileCall.IsRead :=
  (issues_perform trivial).bind fun _ => issues_closing trivial (issues_perform trivial)

theorem run_perform (call : FileCall) (folder : Folder) :
    (perform call).run (step world item) folder = step world item call folder := by
  change (Program.ofExcept (step world item call folder).2).run _ (step world item call folder).1 =
    _
  rw [Program.run_ofExcept]

theorem run_attempt (program : ExportProgram Raised α) (folder : Folder) :
    (attempt program).run (step world item) folder =
      ((program.run (step world item) folder).1, .ok (program.run (step world item) folder).2) := by
  rw [attempt, Program.run_handle, Program.run_bind]
  rcases program.run (step world item) folder with ⟨after, error | result⟩ <;> rfl

theorem statCopy_ok {after : Folder} {size : ℕ}
    (replied : step world item .statCopy folder = (after, .ok size)) :
    after = folder ∧ ∃ content, folder.read (partialName world item) = some content ∧
      content.length = size := by
  unfold step at replied
  cases fault : world.fault .statCopy with
  | some errno =>
    rw [fault] at replied
    cases replied
  | none =>
    rw [fault] at replied
    cases read : folder.read (partialName world item) with
    | none =>
      rw [read] at replied
      cases replied
    | some content =>
      rw [read] at replied
      cases replied
      exact ⟨rfl, content, rfl, rfl⟩

theorem readCopy_ok {after : Folder} {content : Bytes}
    (replied : step world item .readCopy folder = (after, .ok content)) :
    folder.read (partialName world item) = some content := by
  unfold step at replied
  cases fault : world.fault .readCopy with
  | some errno =>
    rw [fault] at replied
    cases replied
  | none =>
    rw [fault] at replied
    cases read : folder.read (partialName world item) with
    | none =>
      rw [read] at replied
      cases replied
    | some content =>
      rw [read] at replied
      cases replied
      rfl

/-- What is verified is what has been copied under the temporary name. -/
theorem exists_verified {sha256 : Bytes → PyStr} {folder : Folder}
    (verified : ((verifyCopy sha256 item).run (step world item) folder).2 = .ok ()) :
    ∃ content, folder.read (partialName world item) = some content ∧
      (content.length : ℤ) = item.expectedSize ∧ sha256 content = item.expectedSha256 := by
  rw [verifyCopy, Program.run_bind, run_perform] at verified
  rcases stat : step world item .statCopy folder with ⟨after, error | size⟩
  · rw [stat] at verified
    cases verified
  · rw [stat] at verified
    rcases statCopy_ok stat with ⟨rfl, content, isContent, rfl⟩
    dsimp only at verified
    split at verified
    · cases verified
    · rename_i sameSize
      rw [Program.run_bind, run_perform] at verified
      rcases read : step world item .readCopy after with ⟨last, error | other⟩
      · rw [read] at verified
        cases verified
      · rw [read] at verified
        have same := readCopy_ok read
        rw [isContent, Option.some.injEq] at same
        subst same
        dsimp only at verified
        split at verified
        · cases verified
        · rename_i sameHash
          exact ⟨content, isContent, not_not.mp sameSize, not_not.mp sameHash⟩

/-- A rename that succeeds puts the copy in place, and one that fails changes nothing. -/
theorem read_replace (world : World) (item : ExportItem) (folder : Folder) :
    (∃ content, (step world item .replace folder).2 = .ok () ∧
        folder.read (partialName world item) = some content ∧
        (step world item .replace folder).1.read (finalName item) = some content) ∨
      ∃ errno, step world item .replace folder = (folder, .error (.osError errno)) := by
  unfold step
  cases world.fault .replace with
  | some errno => exact Or.inr ⟨errno, rfl⟩
  | none =>
    cases read : folder.read (partialName world item) with
    | none => exact Or.inr ⟨some 2, rfl⟩
    | some content =>
      refine Or.inl ⟨content, rfl, rfl, ?_⟩
      exact Directory.read_write_self

/-- The expected content is in place. -/
def InPlace (sha256 : Bytes → PyStr) (item : ExportItem) (folder : Folder) : Prop :=
  ∃ content, folder.read (finalName item) = some content ∧
    (content.length : ℤ) = item.expectedSize ∧ sha256 content = item.expectedSha256

/-- Up to the rename an export puts the expected content in place or leaves the final file alone. -/
theorem publish_cases (world : World) (item : ExportItem) (sha256 : Bytes → PyStr)
    (folder : Folder) :
    (∃ after copied, (publish sha256 item).run (step world item) folder = (after, .ok copied) ∧
        InPlace sha256 item after) ∨
      ∃ after error, (publish sha256 item).run (step world item) folder = (after, .error error) ∧
        SameFinal item folder after := by
  have sameCopied := sameFinal_run world item (issues_copyStream sha256 item) folder
  rw [publish, Program.run_bind]
  rcases copyRun : (copyStream sha256 item).run (step world item)
    folder with ⟨copiedTo, error | copied⟩
  · rw [copyRun] at sameCopied
    exact Or.inr ⟨copiedTo, error, rfl, sameCopied⟩
  · rw [copyRun] at sameCopied
    have unchanged := fst_run_of_isRead world item (isRead_verifyCopy sha256 item) copiedTo
    dsimp only
    rw [Program.run_bind]
    rcases verifyRun : (verifyCopy sha256 item).run (step world item)
      copiedTo with ⟨after, error | _⟩
    · rw [verifyRun] at unchanged
      subst unchanged
      exact Or.inr ⟨after, error, rfl, sameCopied⟩
    · rcases exists_verified (congrArg Prod.snd verifyRun)
        with ⟨content, isContent, sameSize, sameHash⟩
      rw [verifyRun] at unchanged
      subst unchanged
      have unsynced := fst_run_of_isRead world item isRead_fsyncFile after
      dsimp only
      rw [publishCopy, Program.run_bind, Program.run_bind]
      rcases syncRun : fsyncFile.run (step world item) after with ⟨synced, error | _⟩
      · rw [syncRun] at unsynced
        subst unsynced
        exact Or.inr ⟨synced, error, rfl, sameCopied⟩
      · rw [syncRun] at unsynced
        subst unsynced
        dsimp only
        rw [onOsError, Program.run_handle, run_perform]
        rcases read_replace world item synced
          with ⟨other, replaced, isOther, inPlace⟩ | ⟨errno, failed⟩
        · rw [isContent, Option.some.injEq] at isOther
          subst isOther
          rcases outcome : step world item .replace synced with ⟨last, reply⟩
          rw [outcome] at replaced inPlace
          cases replaced
          exact Or.inl ⟨last, copied, rfl, content, inPlace, sameSize, sameHash⟩
        · rw [failed]
          exact Or.inr ⟨synced, .exportError "finalize_failed", rfl, sameCopied⟩

/-- The directory is opened, but cannot be synced or closed. -/
def SyncFails (world : World) : Prop := world.fault .openDirectory = none ∧
    (world.fault .syncDirectory ≠ none ∨ world.fault .closeDirectory ≠ none)

theorem run_syncDirectory (world : World) (item : ExportItem) (folder : Folder) :
    (¬SyncFails world → syncDirectory.run (step world item) folder = (folder, .ok ())) ∧
      (SyncFails world → ∃ errno,
        syncDirectory.run (step world item) folder = (folder, .error (.osError errno))) := by
  rw [syncDirectory, Program.run_bind, run_attempt, run_perform]
  cases opened : world.fault .openDirectory with
  | some errno =>
    have replied : step world item .openDirectory folder = (folder, .error (.osError errno)) := by
      unfold step
      rw [opened]
    rw [replied]
    refine ⟨fun _ => rfl, fun fails => ?_⟩
    rw [SyncFails, opened] at fails
    cases fails.1
  | none =>
    have replied : step world item .openDirectory folder = (folder, .ok ()) := by
      unfold step
      rw [opened]
    rw [replied]
    dsimp only
    rw [closing, Program.run_bind, run_attempt, run_perform]
    have synced : step world item .syncDirectory folder =
        (folder, match world.fault .syncDirectory with
          | some errno => .error (.osError errno)
          | none => .ok ()) := by
      unfold step
      cases world.fault .syncDirectory <;> rfl
    have closed : step world item .closeDirectory folder =
        (folder, match world.fault .closeDirectory with
          | some errno => .error (.osError errno)
          | none => .ok ()) := by
      unfold step
      cases world.fault .closeDirectory <;> rfl
    rw [synced]
    dsimp only
    rw [Program.run_bind, run_perform, closed]
    cases syncFault : world.fault .syncDirectory with
    | some errno =>
      cases closeFault : world.fault .closeDirectory with
      | some other => simp [SyncFails, opened, syncFault]
      | none => simp [SyncFails, opened, syncFault, Program.ofExcept]
    | none =>
      cases closeFault : world.fault .closeDirectory with
      | some other => simp [SyncFails, opened, closeFault]
      | none => simp [SyncFails, syncFault, closeFault, Program.ofExcept]

/-! ## All or nothing -/

/-- An item that is completed is in place, and one that has failed has left the final file alone. -/
def AllOrNothing (sha256 : Bytes → PyStr) (item : ExportItem) (before : Folder)
    (run : Folder × Except Raised ExportResult) : Prop :=
  ∀ result, run.2 = .ok result → match result.state with
    | .completed => InPlace sha256 item run.1
    | .failed => SameFinal item before run.1

/-- What an export has put in place when its rename succeeds. -/
def published (world : World) (sha256 : Bytes → PyStr) (item : ExportItem) (replace : Bool)
    (folder : Folder) : Option Bytes :=
  match (prepareCopy replace >>= fun _ => publish sha256 item).run (step world item) folder with
  | (after, .ok _) => after.read (finalName item)
  | (_, .error _) => none

theorem run_cleanupPartial (world : World) (item : ExportItem) (folder : Folder) :
    ∃ after existed, cleanupPartial.run (step world item) folder = (after, .ok existed) := by
  have present : (∃ existed, step world item .copyExists folder = (folder, .ok existed)) ∨
      ∃ errno, step world item .copyExists folder = (folder, .error (.osError errno)) := by
    unfold step
    cases world.fault .copyExists with
    | some errno => exact Or.inr ⟨errno, rfl⟩
    | none => exact Or.inl ⟨_, rfl⟩
  have unlink : (∃ after, step world item .unlinkCopy folder = (after, .ok ())) ∨
      ∃ errno, step world item .unlinkCopy folder = (folder, .error (.osError errno)) := by
    unfold step
    cases world.fault .unlinkCopy with
    | some errno => exact Or.inr ⟨errno, rfl⟩
    | none => exact Or.inl ⟨_, rfl⟩
  rw [cleanupPartial, Program.run_handle, Program.run_bind, run_perform]
  rcases present with ⟨existed, replied⟩ | ⟨errno, failed⟩
  · rw [replied]
    dsimp only
    rw [Program.run_bind, run_perform]
    rcases unlink with ⟨after, replied⟩ | ⟨errno, failed⟩
    · rw [replied]
      exact ⟨after, existed, rfl⟩
    · rw [failed]
      exact ⟨folder, false, rfl⟩
  · rw [failed]
    exact ⟨folder, false, rfl⟩

/-- A failure is reported after the clean-up, which leaves the final file alone. -/
theorem run_failedResult (world : World) (item : ExportItem) (now : PyStr) (error : Raised)
    (folder : Folder) :
    SameFinal item folder ((failedResult item now error).run (step world item) folder).1 ∧
      (error ≠ .other → ∃ text,
        ((failedResult item now error).run (step world item) folder).2 =
          .ok (.failure item text now)) ∧
      (error = .other →
        ((failedResult item now error).run (step world item) folder).2 = .error .other) := by
  have same := sameFinal_run world item issues_cleanupPartial folder
  rcases run_cleanupPartial world item folder with ⟨after, existed, cleaned⟩
  rw [cleaned] at same
  cases error with
  | exportError code =>
    rw [failedResult, Program.run_bind, cleaned]
    exact ⟨same, fun _ => ⟨_, rfl⟩, fun impossible => by cases impossible⟩
  | osError errno =>
    rw [failedResult, Program.run_bind, cleaned]
    exact ⟨same, fun _ => ⟨_, rfl⟩, fun impossible => by cases impossible⟩
  | other => exact ⟨rfl, fun different => absurd rfl different, fun _ => rfl⟩

theorem sameFinal_of_run_failedResult {now : PyStr} {error : Raised} {first folder : Folder}
    (same : SameFinal item first folder) (sha256 : Bytes → PyStr) :
    AllOrNothing sha256 item first
      ((failedResult item now error).run (step world item) folder) := by
  rcases run_failedResult world item now error folder with ⟨kept, fails, raises⟩
  intro result isResult
  by_cases isOther : error = .other
  · rw [raises isOther] at isResult
    cases isResult
  · rcases fails isOther with ⟨text, isFailure⟩
    rw [isFailure] at isResult
    cases isResult
    exact kept.trans same

/-- An export is all or nothing unless the directory cannot be synced or closed after the rename has
changed the final file. -/
theorem allOrNothing_iff (world : World) (sha256 : Bytes → PyStr) (item : ExportItem)
    (root now : PyStr) (replace : Bool) (folder : Folder) :
    AllOrNothing sha256 item folder
        ((exportLocalItem sha256 item root now replace).run (step world item) folder) ↔
      ¬(SyncFails world ∧ ∃ content, published world sha256 item replace folder = some content ∧
        folder.read (finalName item) ≠ some content) := by
  have unprepared := fst_run_of_isRead world item (isRead_prepareCopy replace) folder
  rw [exportLocalItem, published, Program.run_bind, Program.run_bind, run_attempt]
  rcases prepareRun : (prepareCopy replace).run (step world item) folder with ⟨prepared, error | _⟩
  · rw [prepareRun] at unprepared
    subst unprepared
    simp only [reduceCtorEq, false_and, exists_false, and_false, not_false_iff, iff_true]
    intro result isResult
    cases error with
    | exportError code =>
      cases isResult
      exact rfl
    | osError errno => cases isResult
    | other => cases isResult
  · rw [prepareRun] at unprepared
    subst unprepared
    dsimp only
    rw [Program.run_handle, Program.run_bind]
    rcases publish_cases world item sha256 prepared with
      ⟨after, copied, isPublished, inPlace⟩ | ⟨after, error, failed, same⟩
    · rw [isPublished]
      dsimp only
      rw [Program.run_bind]
      rcases run_syncDirectory world item after with ⟨synced, unsynced⟩
      by_cases fails : SyncFails world
      · rcases unsynced fails with ⟨errno, syncFailed⟩
        rcases run_failedResult world item now (.osError errno) after with
          ⟨kept, isFailure, _⟩
        rcases isFailure (by simp) with ⟨text, isFailure⟩
        rw [syncFailed]
        dsimp only
        rcases inPlace with ⟨content, isContent, _⟩
        simp only [fails, true_and, isContent, Option.some.injEq, exists_eq_left', not_not]
        constructor
        · intro allOrNothing
          have same := allOrNothing _ isFailure
          rw [← isContent, ← kept]
          exact same.symm
        · intro same result isResult
          rw [isFailure] at isResult
          cases isResult
          exact (kept.trans isContent).trans same.symm
      · rw [synced fails]
        simp only [fails, false_and, not_false_iff, iff_true]
        intro result isResult
        cases isResult
        exact inPlace
    · rw [failed]
      simp only [reduceCtorEq, false_and, exists_false, and_false, not_false_iff, iff_true]
      exact sameFinal_of_run_failedResult same sha256

/-- `_default_writer`, which appends. -/
def appendChunk (_ : ℕ) (chunk : Bytes) (content : Option Bytes) :
    Option Bytes × Except Raised Unit :=
  (some (content.getD [] ++ chunk), .ok ())

/-- A host where nothing fails but the sync of the destination directory. -/
def unsyncedWorld : World where
  fault call := if call = .syncDirectory then some (some 5) else none
  isDirectory := true
  sourceInside := true
  source copied := if copied = 0 then [7] else []
  writer := appendChunk
  progress _ := .ok ()
  token := []

def oneByteItem : ExportItem where
  exportItemId := .ofString "a"
  sourcePath := .ofString "/s"
  expectedSize := 1
  expectedSha256 := []

def unsyncedRun : Folder × Except Raised ExportResult :=
  (exportLocalItem (fun _ => []) oneByteItem [] [] false).run (step unsyncedWorld oneByteItem) []

theorem unsynced_not_allOrNothing :
    ¬∀ (world : World) (sha256 : Bytes → PyStr) (item : ExportItem) (root now : PyStr)
      (replace : Bool) (folder : Folder), AllOrNothing sha256 item folder
        ((exportLocalItem sha256 item root now replace).run (step world item) folder) := by
  intro allOrNothing
  have state : unsyncedRun.2.toOption.map (·.state) = some .failed := by decide +kernel
  have content : unsyncedRun.1.read (finalName oneByteItem) = some [7] := by decide +kernel
  rcases Option.map_eq_some_iff.mp state with ⟨result, isResult, hasFailed⟩
  have same := allOrNothing unsyncedWorld (fun _ => []) oneByteItem [] [] false [] result
    (eq_ok_of_toOption isResult)
  rw [hasFailed] at same
  have unchanged : unsyncedRun.1.read (finalName oneByteItem) = none := same
  rw [content] at unchanged
  cases unchanged

end Reperio.Worker
