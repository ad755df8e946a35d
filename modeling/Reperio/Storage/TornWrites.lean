import Mathlib.Data.List.Infix

/-!
# Writes that can be torn

A file that is opened to be written over is empty at first, and then it grows byte
by byte, so that a program that is stopped leaves any beginning of what it was
writing. Several files are written one after the other: where that is stopped, one
of them is not there as a whole (`exists_unfinished`).
-/

namespace Reperio.Storage

/-- Files that are read and written by their paths. -/
structure FileAccess (Disk Path File : Type) where
  read : Disk → Path → Option File
  put : Disk → Path → File → Disk
  read_put_self (disk : Disk) (path : Path) (file : File) : read (put disk path file) path =
    some file
  read_put_of_ne {path other : Path} (disk : Disk) (file : File) (different : other ≠ path) :
    read (put disk path file) other = read disk other

namespace FileAccess

variable {Disk Path File Byte : Type} (access : FileAccess Disk Path File) (file : List Byte → File)

def after (disk : Disk) (steps : List (Path × File)) : Disk :=
  steps.foldl (fun disk step => access.put disk step.1 step.2) disk

/-- What a file holds while it is written. -/
def writeSteps (path : Path) (content : List Byte) : List (Path × File) :=
  content.inits.map fun start => (path, file start)

def stepsOf (writes : List (Path × List Byte)) : List (Path × File) :=
  writes.flatMap fun write => writeSteps file write.1 write.2

variable {access file} {disk : Disk} {path : Path} {content : List Byte}
  {steps : List (Path × File)}
variable {writes : List (Path × List Byte)} {count : ℕ}

theorem after_append {more : List (Path × File)} :
    access.after disk (steps ++ more) = access.after (access.after disk steps) more :=
  List.foldl_append

/-- A path that is not written keeps its file. -/
theorem read_after_of_forall_ne (others : ∀ step ∈ steps, path ≠ step.1) :
    access.read (access.after disk steps) path = access.read disk path := by
  induction steps generalizing disk with
  | nil => rfl
  | cons step steps ih =>
    rw [List.forall_mem_cons] at others
    exact (ih others.2).trans (access.read_put_of_ne _ _ others.1)

theorem path_of_mem_writeSteps {step : Path × File} (isStep : step ∈ writeSteps file path content) :
    step.1 = path := by
  obtain ⟨start, -, rfl⟩ := List.mem_map.mp isStep
  rfl

theorem length_writeSteps : (writeSteps file path content).length = content.length + 1 := by
  rw [writeSteps, List.length_map, List.length_inits]

theorem read_after_take_writeSteps (bound : count ≤ content.length) :
    access.read (access.after disk ((writeSteps file path content).take (count + 1))) path =
      some (file (content.take count)) := by
  have inside : count < (writeSteps file path content).length := by
    rw [length_writeSteps]
    omega
  have last : (writeSteps file path content)[count] = (path, file (content.take count)) := by
    simp [writeSteps]
  rw [List.take_succ_eq_append_getElem inside, after_append, last]
  exact access.read_put_self _ _ _

theorem read_after_writeSteps :
    access.read (access.after disk (writeSteps file path content)) path = some (file content) := by
  have whole := @read_after_take_writeSteps _ _ _ _ access file disk path content _ le_rfl
  rwa [List.take_length, ← @length_writeSteps _ _ _ file path, List.take_length] at whole

theorem mem_paths_of_mem_stepsOf {step : Path × File} (isStep : step ∈ stepsOf file writes) :
    step.1 ∈ writes.map Prod.fst := by
  obtain ⟨write, isWrite, isStep⟩ := List.mem_flatMap.mp isStep
  rw [path_of_mem_writeSteps isStep]
  exact List.mem_map_of_mem isWrite

/-- In the end there is every file as a whole. -/
theorem read_after_stepsOf (distinct : (writes.map Prod.fst).Nodup) : ∀ write ∈ writes,
      access.read (access.after disk (stepsOf file writes)) write.1 = some (file write.2) := by
  induction writes generalizing disk with
  | nil => exact fun _ isWrite => (List.not_mem_nil isWrite).elim
  | cons first writes ih =>
    rw [List.map_cons, List.nodup_cons] at distinct
    rw [stepsOf, List.flatMap_cons, after_append, List.forall_mem_cons]
    refine ⟨?_, ih distinct.2⟩
    have later : ∀ step ∈ stepsOf file writes, first.1 ≠ step.1 := by
      intro step isStep same
      exact distinct.1 (same ▸ mem_paths_of_mem_stepsOf isStep)
    exact (read_after_of_forall_ne later).trans read_after_writeSteps

/-- Where the writes are stopped, some file is what it was before, or is cut off. -/
theorem exists_unfinished (distinct : (writes.map Prod.fst).Nodup)
    (stopped : count < (stepsOf file writes).length) : ∃ write ∈ writes,
      access.read (access.after disk ((stepsOf file writes).take count)) write.1 =
          access.read disk write.1 ∨
        ∃ size < write.2.length,
          access.read (access.after disk ((stepsOf file writes).take count)) write.1 =
            some (file (write.2.take size)) := by
  induction writes generalizing disk count with
  | nil => exact absurd stopped (Nat.not_lt_zero _)
  | cons first writes ih =>
    rw [List.map_cons, List.nodup_cons] at distinct
    rw [stepsOf, List.flatMap_cons, List.length_append, length_writeSteps] at stopped
    rw [stepsOf, List.flatMap_cons, List.take_append, length_writeSteps, after_append]
    by_cases inFirst : count ≤ first.2.length
    · refine ⟨first, List.mem_cons_self, ?_⟩
      rw [Nat.sub_eq_zero_of_le (by omega), List.take_zero]
      cases count with
      | zero => exact .inl rfl
      | succ count => exact .inr ⟨count, inFirst, read_after_take_writeSteps (by omega)⟩
    · have whole : (writeSteps file first.1 first.2).take count =
        writeSteps file first.1 first.2 := by
        rw [List.take_of_length_le]
        rw [length_writeSteps]
        omega
      rw [whole]
      obtain ⟨write, isWrite, unfinished⟩ :=
        @ih (access.after disk (writeSteps file first.1 first.2)) (count - (first.2.length + 1))
          distinct.2 (by rw [stepsOf]; omega)
      refine ⟨write, List.mem_cons_of_mem _ isWrite, unfinished.imp_left fun same => same.trans ?_⟩
      refine read_after_of_forall_ne fun step isStep same => distinct.1 ?_
      rw [← path_of_mem_writeSteps isStep, ← same]
      exact List.mem_map_of_mem isWrite

end FileAccess

end Reperio.Storage
