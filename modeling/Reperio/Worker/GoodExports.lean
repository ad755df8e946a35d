import Reperio.Worker.LocalExport

/-!
# Exports of good items

An item whose size and digest are those of its source, on a host where no call fails. The
temporary file is there only because a chunk has been written to it. A source without
bytes is read in no chunk, and the check of the copy finds no file.
-/

namespace Reperio.Worker

open Python Concurrency Storage

/-- `COPY_CHUNK_BYTES`. -/
def copyChunkBytes : ℕ := 1024 * 1024

/-- Nothing fails, the writer is the default one, and the source is a file of that content. -/
structure Undisturbed (world : World) (content : Bytes) : Prop where
  faultless : ∀ call, world.fault call = none
  isDirectory : world.isDirectory = true
  sourceInside : world.sourceInside = true
  source : ∀ copied, world.source copied = (content.drop copied).take copyChunkBytes
  writer : world.writer = appendChunk
  progress : ∀ copied, world.progress copied = .ok ()

/-- The item has the size and the digest of the content. -/
structure Describes (sha256 : Bytes → PyStr) (item : ExportItem) (content : Bytes) : Prop where
  size : item.expectedSize = content.length
  digest : item.expectedSha256 = sha256 content

/-- A result that is completed and verified, and the content in place. -/
def Exported (item : ExportItem) (content : Bytes) (run : Folder × Except Raised ExportResult) :
    Prop :=
  ∃ result, run.2 = .ok result ∧ result.state = .completed ∧ result.verified = true ∧
    run.1.read (finalName item) = some content

/-- What chunks make of the temporary file: without a chunk it is not opened. -/
def appended (old : Option Bytes) (copied : Bytes) : Option Bytes :=
  if copied = [] then old else some (old.getD [] ++ copied)

theorem appended_append (old : Option Bytes) (copied : Bytes) {chunk : Bytes}
    (notEmpty : chunk ≠ []) :
    appended old (copied ++ chunk) = some ((appended old copied).getD [] ++ chunk) := by
  unfold appended
  rw [if_neg (by simp [notEmpty])]
  split
  · rename_i noneCopied
    rw [noneCopied, List.nil_append]
  · rw [Option.getD_some, List.append_assoc]

variable {old : Option Bytes}

/-- The copy is the content when it is written to a new or an empty file, and is written at all. -/
theorem appended_eq_some_iff {content : Bytes} :
    appended old content = some content ↔ (old = none ∧ content ≠ []) ∨ old = some [] := by
  unfold appended
  cases old with
  | none => by_cases noContent : content = [] <;> simp [noContent]
  | some first => by_cases noContent : content = [] <;> simp [noContent]

/-- A copy of another content is of another size. -/
theorem length_appended_ne {content copy : Bytes} (isCopy : appended old content = some copy)
    (different : copy ≠ content) : copy.length ≠ content.length := by
  unfold appended at isCopy
  split at isCopy
  · rename_i noContent
    subst noContent
    rw [List.length_nil, Ne, List.length_eq_zero_iff]
    exact different
  · cases isCopy
    intro sameLength
    rw [List.length_append, Nat.add_eq_right, List.length_eq_zero_iff] at sameLength
    rw [sameLength] at different
    exact different rfl

variable {world : World} {item : ExportItem} {content : Bytes} {folder : Folder}
  {sha256 : Bytes → PyStr}

/-! ## Calls that do not fail -/

theorem Undisturbed.step_write (undisturbed : Undisturbed world content) (copied : ℕ)
    (chunk : Bytes) : ∃ after, step world item (.write copied chunk) folder = (after, .ok ()) ∧
      after.read (partialName world item) =
        some ((folder.read (partialName world item)).getD [] ++ chunk) := by
  unfold step
  rw [undisturbed.faultless, undisturbed.writer]
  exact ⟨_, rfl, Directory.read_write_self⟩

theorem Undisturbed.step_progress (undisturbed : Undisturbed world content) (copied : ℕ) :
    step world item (.progress copied) folder = (folder, .ok ()) := by
  unfold step
  rw [undisturbed.faultless]
  exact congrArg (Prod.mk folder) (undisturbed.progress copied)

theorem Undisturbed.step_readSource (undisturbed : Undisturbed world content) (copied : ℕ) :
    step world item (.readSource copied) folder =
      (folder, .ok ((content.drop copied).take copyChunkBytes)) := by
  unfold step
  rw [undisturbed.faultless]
  exact congrArg (fun chunk => (folder, Except.ok chunk)) (undisturbed.source copied)

theorem run_perform_bind {α : Type} (call : FileCall) (rest : call.Result → ExportProgram Raised α)
    (folder : Folder) :
    ((perform call).bind rest).run (step world item) folder = match step world item call folder with
      | (after, .ok reply) => (rest reply).run (step world item) after
      | (after, .error error) => (after, .error error) := by
  change (perform call >>= rest).run (step world item) folder = _
  rw [Program.run_bind, run_perform]
  rcases step world item call folder with ⟨after, error | reply⟩ <;> rfl

/-! ## The loop -/

/-- The loop ends with the whole source, and has written it chunk by chunk. -/
theorem Undisturbed.run_copyChunks (undisturbed : Undisturbed world content)
    (size : item.expectedSize = content.length) {copied : Bytes}
    (isPrefix : copied = content.take copied.length)
    (written : folder.read (partialName world item) = appended old copied) :
    ∃ after, (copyChunks item copied).run (step world item) folder = (after, .ok content) ∧
      after.read (partialName world item) = appended old content := by
  fun_induction copyChunks item copied generalizing folder with
  | case1 copied ih =>
    rw [Program.run, undisturbed.step_readSource]
    have split := List.take_append_drop copied.length content
    rw [← isPrefix] at split
    rcases isChunk : (content.drop copied.length).take copyChunkBytes with _ | ⟨byte, bytes⟩
    · have rest : content.drop copied.length = [] := by
        rw [List.take_eq_nil_iff] at isChunk
        exact isChunk.resolve_left (by decide)
      rw [rest, List.append_nil] at split
      subst split
      exact ⟨folder, rfl, written⟩
    · have longer : copied ++ byte :: bytes = content.take (copied ++ byte :: bytes).length := by
        rw [← isChunk, List.length_append, List.take_add, ← isPrefix, List.length_take,
          ← List.take_eq_take_min]
      have fits : ¬item.expectedSize < (copied ++ byte :: bytes).length := by
        have bounded := congrArg List.length longer
        rw [List.length_take] at bounded
        omega
      rcases undisturbed.step_write copied.length (byte :: bytes)
        with ⟨after, wrote, isWritten⟩
      dsimp only
      rw [dif_neg (by simp), dif_neg fits, run_perform_bind, wrote]
      dsimp only
      rw [run_perform_bind, undisturbed.step_progress]
      refine ih (byte :: bytes) (by simp) fits longer ?_
      rw [isWritten, written, appended_append old copied (by simp)]

/-! ## The steps -/

theorem Undisturbed.run_prepareCopy (undisturbed : Undisturbed world content) (replace : Bool)
    (noFinal : folder.read (finalName item) = none) :
    (prepareCopy replace).run (step world item) folder = (folder, .ok ()) := by
  have resolved : step world item .resolveRoot folder = (folder, .ok ()) := by
    unfold step
    rw [undisturbed.faultless]
  have directory : step world item .isDirectory folder = (folder, .ok true) := by
    unfold step
    rw [undisturbed.faultless, ← undisturbed.isDirectory]
  have absent : step world item .finalExists folder = (folder, .ok false) := by
    unfold step
    rw [undisturbed.faultless, noFinal]
    rfl
  rw [prepareCopy, Program.run_bind, run_perform, resolved]
  dsimp only
  rw [Program.run_bind, run_perform, directory]
  dsimp only
  rw [if_neg (by decide), Program.run_bind, run_perform, absent]
  rfl

theorem Undisturbed.run_copyStream (undisturbed : Undisturbed world content)
    (describes : Describes sha256 item content) (folder : Folder) :
    ∃ after, (copyStream sha256 item).run (step world item) folder =
        (after, .ok (content.length, sha256 content)) ∧
      after.read (partialName world item) =
        appended (folder.read (partialName world item)) content := by
  have inside : step world item .resolveSource folder = (folder, .ok true) := by
    unfold step
    rw [undisturbed.faultless, ← undisturbed.sourceInside]
  have opened : step world item .openSource folder = (folder, .ok ()) := by
    unfold step
    rw [undisturbed.faultless]
  have nothingCopied : ([] : Bytes) = content.take ([] : Bytes).length := rfl
  have nothingWritten : folder.read (partialName world item) =
      appended (folder.read (partialName world item)) [] := rfl
  rcases undisturbed.run_copyChunks describes.size nothingCopied nothingWritten with
    ⟨after, copied, written⟩
  have closed : step world item .closeSource after = (after, .ok ()) := by
    unfold step
    rw [undisturbed.faultless]
  refine ⟨after, ?_, written⟩
  rw [copyStream, Program.run_bind, run_perform, inside]
  dsimp only
  rw [if_neg (by decide), Program.run_bind, onOsError, Program.run_handle, Program.run_bind,
    run_perform, opened]
  dsimp only
  rw [closing, Program.run_bind, run_attempt, copied]
  dsimp only
  rw [Program.run_bind, run_perform, closed]
  dsimp only
  rw [Program.run_ofExcept]
  dsimp only
  rw [if_neg (not_not.mpr describes.size.symm)]
  rfl

theorem Undisturbed.run_verifyCopy (undisturbed : Undisturbed world content)
    (describes : Describes sha256 item content)
    (isCopy : folder.read (partialName world item) = some content) :
    (verifyCopy sha256 item).run (step world item) folder = (folder, .ok ()) := by
  have size : step world item .statCopy folder = (folder, .ok content.length) := by
    unfold step
    rw [undisturbed.faultless, isCopy]
  have read : step world item .readCopy folder = (folder, .ok content) := by
    unfold step
    rw [undisturbed.faultless, isCopy]
  rw [verifyCopy, Program.run_bind, run_perform, size]
  dsimp only
  rw [if_neg (not_not.mpr describes.size.symm), Program.run_bind, run_perform, read]
  dsimp only
  rw [if_neg (not_not.mpr describes.digest.symm)]
  rfl

theorem Undisturbed.run_publishCopy (undisturbed : Undisturbed world content)
    (isCopy : folder.read (partialName world item) = some content) :
    ∃ after, publishCopy.run (step world item) folder = (after, .ok ()) ∧
      after.read (finalName item) = some content := by
  have opened : step world item .openCopy folder = (folder, .ok ()) := by
    unfold step
    rw [undisturbed.faultless, isCopy]
  have synced : step world item .syncCopy folder = (folder, .ok ()) := by
    unfold step
    rw [undisturbed.faultless]
  have closed : step world item .closeCopy folder = (folder, .ok ()) := by
    unfold step
    rw [undisturbed.faultless]
  have replaced : step world item .replace folder =
      ((folder.remove (partialName world item)).write (finalName item) content, .ok ()) := by
    unfold step
    rw [undisturbed.faultless, isCopy]
  refine ⟨(folder.remove (partialName world item)).write (finalName item) content, ?_,
    Directory.read_write_self⟩
  rw [publishCopy, Program.run_bind, fsyncFile, Program.run_bind, run_perform, opened]
  dsimp only
  rw [closing, Program.run_bind, run_attempt, run_perform, synced]
  dsimp only
  rw [Program.run_bind, run_perform, closed]
  dsimp only
  rw [Program.run_ofExcept]
  dsimp only
  rw [onOsError, Program.run_handle, run_perform, replaced]

theorem Undisturbed.run_publish (undisturbed : Undisturbed world content)
    (describes : Describes sha256 item content)
    (isCopy : appended (folder.read (partialName world item)) content = some content) :
    ∃ after, (publish sha256 item).run (step world item) folder =
        (after, .ok (content.length, sha256 content)) ∧
      after.read (finalName item) = some content := by
  rcases undisturbed.run_copyStream describes folder with ⟨copied, copyRun, written⟩
  rw [isCopy] at written
  rcases undisturbed.run_publishCopy written with ⟨after, published, inPlace⟩
  refine ⟨after, ?_, inPlace⟩
  rw [publish, Program.run_bind, copyRun]
  dsimp only
  rw [Program.run_bind, undisturbed.run_verifyCopy describes written]
  dsimp only
  rw [Program.run_bind, published]
  rfl

/-- What the check finds under the temporary name is the content, or the check fails. -/
theorem Undisturbed.run_publish_error (undisturbed : Undisturbed world content)
    (describes : Describes sha256 item content)
    (notCopy : appended (folder.read (partialName world item)) content ≠ some content) :
    ∃ after error, (publish sha256 item).run (step world item) folder = (after, .error error) := by
  rcases undisturbed.run_copyStream describes folder with ⟨copied, copyRun, written⟩
  rw [publish, Program.run_bind, copyRun]
  dsimp only
  rw [Program.run_bind]
  rcases verifyRun : (verifyCopy sha256 item).run (step world item) copied with ⟨after, error | _⟩
  · exact ⟨after, error, rfl⟩
  · rcases exists_verified (congrArg Prod.snd verifyRun) with ⟨copy, isCopy, sameSize, _⟩
    rw [written] at isCopy
    rw [isCopy, Ne, Option.some.injEq] at notCopy
    rw [describes.size] at sameSize
    exact absurd (Int.ofNat_inj.mp sameSize) (length_appended_ne isCopy notCopy)

/-- Another file than the content under the temporary name is never put in place. -/
theorem Undisturbed.not_exported (undisturbed : Undisturbed world content)
    (describes : Describes sha256 item content) (noFinal : folder.read (finalName item) = none)
    (notCopy : appended (folder.read (partialName world item)) content ≠ some content)
    (root now : PyStr) (replace : Bool) :
    ¬Exported item content
      ((exportLocalItem sha256 item root now replace).run (step world item) folder) := by
  rw [exportLocalItem, Program.run_bind, run_attempt, undisturbed.run_prepareCopy replace noFinal]
  dsimp only
  rw [Program.run_handle, Program.run_bind]
  rcases undisturbed.run_publish_error describes notCopy with ⟨after, error, failed⟩
  rw [failed]
  dsimp only
  rintro ⟨result, isResult, isCompleted, -⟩
  rcases run_failedResult world item now error after with ⟨-, isFailure, raises⟩
  by_cases isOther : error = .other
  · rw [raises isOther] at isResult
    cases isResult
  · rcases isFailure isOther with ⟨text, isFailure⟩
    rw [isFailure] at isResult
    cases isResult
    cases isCompleted

/-- A good item is exported if and only if its source has a byte and the temporary name is that of
no file, or an empty file has that name already. -/
theorem exported_iff (undisturbed : Undisturbed world content)
    (describes : Describes sha256 item content) (noFinal : folder.read (finalName item) = none)
    (root now : PyStr) (replace : Bool) :
    Exported item content
      ((exportLocalItem sha256 item root now replace).run (step world item) folder) ↔
      (folder.read (partialName world item) = none ∧ content ≠ []) ∨
        folder.read (partialName world item) = some [] := by
  rw [← appended_eq_some_iff]
  constructor
  · intro exported
    by_contra notCopy
    exact undisturbed.not_exported describes noFinal notCopy root now replace exported
  · intro isCopy
    rcases undisturbed.run_publish describes isCopy with ⟨after, published, inPlace⟩
    have synced : ¬SyncFails world := by
      rintro ⟨-, syncFails | closeFails⟩
      · exact syncFails (undisturbed.faultless _)
      · exact closeFails (undisturbed.faultless _)
    rw [exportLocalItem, Program.run_bind, run_attempt, undisturbed.run_prepareCopy replace noFinal]
    dsimp only
    rw [Program.run_handle, Program.run_bind, published]
    dsimp only
    rw [Program.run_bind, (run_syncDirectory world item after).1 synced]
    exact ⟨_, rfl, rfl, decide_eq_true describes.digest.symm, inPlace⟩

/-- A host where nothing fails, and a source. -/
def calmWorld (content : Bytes) : World where
  fault _ := none
  isDirectory := true
  sourceInside := true
  source copied := (content.drop copied).take copyChunkBytes
  writer := appendChunk
  progress _ := .ok ()
  token := []

theorem undisturbed_calmWorld (content : Bytes) : Undisturbed (calmWorld content) content where
  faultless _ := rfl
  isDirectory := rfl
  sourceInside := rfl
  source _ := rfl
  writer := rfl
  progress _ := rfl

/-- A digest that tells any two contents apart. -/
def contentDigest (content : Bytes) : PyStr := content.map fun byte => Fin.ofNat 0x110000 byte.toNat

/-- A content of one byte more than a chunk. -/
def twoChunks : Bytes := List.replicate (copyChunkBytes + 1) 7

def twoChunksItem : ExportItem :=
  { oneByteItem with
    expectedSize := twoChunks.length
    expectedSha256 := contentDigest twoChunks }

theorem exported_iff_twoChunks :
    Exported twoChunksItem twoChunks ((exportLocalItem contentDigest twoChunksItem [] [] false).run
      (step (calmWorld twoChunks) twoChunksItem) []) := by
  have notEmpty : twoChunks ≠ [] := by
    rw [twoChunks, List.replicate_succ]
    exact List.cons_ne_nil _ _
  exact (exported_iff (undisturbed_calmWorld twoChunks) ⟨rfl, rfl⟩ rfl [] [] false).mpr
    (Or.inl ⟨rfl, notEmpty⟩)

def emptyItem : ExportItem := { oneByteItem with expectedSize := 0 }

theorem emptyItem_not_exported :
    ¬∀ (world : World) (sha256 : Bytes → PyStr) (item : ExportItem) (content : Bytes)
      (folder : Folder) (root now : PyStr) (replace : Bool), Undisturbed world content →
        Describes sha256 item content → folder.read (finalName item) = none →
        folder.read (partialName world item) = none →
        Exported item content
          ((exportLocalItem sha256 item root now replace).run (step world item) folder) := by
  intro exports
  have undisturbed := undisturbed_calmWorld []
  have describes : Describes (fun _ => []) emptyItem [] := ⟨rfl, rfl⟩
  have noFinal : Directory.read ([] : Folder) (finalName emptyItem) = none := rfl
  refine undisturbed.not_exported describes noFinal ?_ [] [] false
    (exports (calmWorld []) (fun _ => []) emptyItem [] [] [] [] false undisturbed describes rfl rfl)
  rw [Ne, appended_eq_some_iff]
  rintro (⟨-, notEmpty⟩ | present)
  · exact notEmpty rfl
  · cases present

end Reperio.Worker
