import Mathlib.Algebra.BigOperators.Group.List.Basic
import Mathlib.Algebra.GroupWithZero.Nat
import Mathlib.Algebra.Order.BigOperators.Group.List
import Mathlib.Algebra.Order.Group.Nat
import Mathlib.Data.List.Sigma

/-!
# Directories of files

A directory is the list of its files, each under its name. Writing a file
replaces the one of that name, and the size of a directory is the sum of the
sizes of its files.
-/

namespace Reperio.Storage

variable {Name File : Type} [DecidableEq Name]

abbrev Directory (Name File : Type) := List (Name × File)

namespace Directory

def read (directory : Directory Name File) (name : Name) : Option File :=
  (directory.find? fun entry => entry.1 = name).map Prod.snd

def remove (directory : Directory Name File) (name : Name) : Directory Name File :=
  directory.filter fun entry => entry.1 ≠ name

def write (directory : Directory Name File) (name : Name) (file : File) : Directory Name File :=
  (name, file) :: directory.remove name

/-- The size of all files together. -/
def size (sizeOf : File → ℕ) (directory : Directory Name File) : ℕ :=
  (directory.map fun entry => sizeOf entry.2).sum

/-- Every name is that of one file only. -/
def Distinct (directory : Directory Name File) : Prop := (directory.map Prod.fst).Nodup

variable {directory : Directory Name File} {name other : Name} {file : File}

@[simp]
theorem read_nil : read ([] : Directory Name File) name = none := rfl

theorem read_cons (entry : Name × File) :
    read (entry :: directory) name = if entry.1 =
      name then some entry.2 else read directory name := by
  unfold read
  rw [List.find?_cons]
  split
  · rename_i same
    rw [if_pos (of_decide_eq_true same)]
    rfl
  · rename_i different
    rw [if_neg (of_decide_eq_false different)]

theorem read_remove_of_ne (different : other ≠ name) :
    (directory.remove name).read other = directory.read other := by
  rw [read, read, remove, List.find?_filter]
  congr 2
  funext entry
  by_cases same : entry.1 = other
  · simp [same, different]
  · simp [same]

@[simp]
theorem read_write_self : (directory.write name file).read name = some file := by
  rw [write, read_cons, if_pos rfl]

theorem read_write_of_ne (different : other ≠ name) :
    (directory.write name file).read other = directory.read other := by
  rw [write, read_cons, if_neg (Ne.symm different), read_remove_of_ne different]

theorem read_eq_none_iff : directory.read name = none ↔ ∀ entry ∈ directory, entry.1 ≠ name := by
  rw [read, Option.map_eq_none_iff, List.find?_eq_none]
  simp

theorem mem_of_read (found : directory.read name = some file) : (name, file) ∈ directory := by
  rcases Option.map_eq_some_iff.mp found with ⟨entry, first, rfl⟩
  have same : entry.1 = name := by simpa using List.find?_some first
  rw [← same]
  exact List.mem_of_find?_eq_some first

theorem remove_of_read_none (missing : directory.read name = none) :
    directory.remove name = directory := by
  rw [read_eq_none_iff] at missing
  exact List.filter_eq_self.mpr fun entry member => decide_eq_true (missing entry member)

@[simp]
theorem remove_singleton : Directory.remove [(name, file)] name = [] := by
  rw [remove, List.filter_cons, if_neg (by simp), List.filter_nil]

@[simp]
theorem read_singleton : Directory.read [(name, file)] name = some file := by
  rw [read_cons, if_pos rfl]

@[simp]
theorem remove_write_self : (directory.write name file).remove name = directory.remove name := by
  rw [write, remove, List.filter_cons, if_neg (by simp), remove, List.filter_filter]
  simp

theorem Distinct.remove (distinct : directory.Distinct) (name : Name) :
    (directory.remove name).Distinct :=
  distinct.sublist (List.Sublist.map _ List.filter_sublist)

theorem Distinct.remove_head {entry : Name × File} {rest : Directory Name File}
    (distinct : Distinct (entry :: rest)) : Directory.remove (entry :: rest) entry.1 = rest := by
  unfold Distinct at distinct
  rw [List.map_cons, List.nodup_cons] at distinct
  rw [Directory.remove, List.filter_cons, if_neg (by simp), List.filter_eq_self]
  intro other member
  refine decide_eq_true ?_
  intro same
  exact distinct.1 (List.mem_map.mpr ⟨other, member, same⟩)

omit [DecidableEq Name] in
theorem Distinct.tail {entry : Name × File} {rest : Directory Name File}
    (distinct : Distinct (entry :: rest)) : Distinct rest :=
  (List.nodup_cons.mp distinct).2

theorem Distinct.write (distinct : directory.Distinct) (name : Name) (file : File) :
    (directory.write name file).Distinct := by
  unfold Distinct Directory.write
  rw [List.map_cons, List.nodup_cons]
  refine ⟨?_, distinct.remove name⟩
  rintro member
  rcases List.mem_map.mp member with ⟨entry, kept, same⟩
  exact (of_decide_eq_true (List.mem_filter.mp kept).2) same

theorem Distinct.read_of_mem (distinct : directory.Distinct) (member : (name, file) ∈ directory) :
    directory.read name = some file := by
  induction directory with
  | nil => cases member
  | cons entry rest ih =>
    unfold Distinct at distinct
    rw [List.map_cons, List.nodup_cons] at distinct
    rw [read_cons]
    rcases List.mem_cons.mp member with rfl | later
    · rw [if_pos rfl]
    · have different : entry.1 ≠ name := by
        rintro rfl
        exact distinct.1 (List.mem_map.mpr ⟨_, later, rfl⟩)
      rw [if_neg different]
      exact ih distinct.2 later

/-! ## Sizes -/

variable (sizeOf : File → ℕ)

theorem size_write :
    (directory.write name file).size sizeOf = sizeOf file +
      (directory.remove name).size sizeOf := by
  rw [write, size, List.map_cons, List.sum_cons, size]

/-- What removing a file frees. -/
theorem Distinct.size_remove (distinct : directory.Distinct) (name : Name) :
    (directory.remove name).size sizeOf + ((directory.read name).elim 0 sizeOf) =
      directory.size sizeOf := by
  induction directory with
  | nil => rfl
  | cons entry rest ih =>
    unfold Distinct at distinct
    rw [List.map_cons, List.nodup_cons] at distinct
    rw [read_cons, size, size, List.map_cons, List.sum_cons, Directory.remove, List.filter_cons]
    by_cases same : entry.1 = name
    · have missing : Directory.read rest name = none := by
        rw [read_eq_none_iff]
        rintro other member rfl
        exact distinct.1 (List.mem_map.mpr ⟨other, member, same.symm⟩)
      rw [if_pos same, if_neg (by simp [same]), ← Directory.remove, remove_of_read_none missing]
      exact Nat.add_comm _ _
    · rw [if_neg same, if_pos (by simp [same]), List.map_cons, List.sum_cons]
      have rests := ih distinct.2
      rw [size, size, Directory.remove] at rests
      omega

theorem size_le_of_read (found : directory.read name = some file) :
    sizeOf file ≤ directory.size sizeOf := by
  have member : sizeOf file ∈ directory.map fun entry => sizeOf entry.2 :=
    List.mem_map.mpr ⟨_, mem_of_read found, rfl⟩
  exact List.single_le_sum (fun _ _ => Nat.zero_le _) _ member

end Directory

end Reperio.Storage
