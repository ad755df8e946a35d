import Mathlib.Data.List.Basic
import Mathlib.Tactic.Basic

/-!
# Chunks of a list

A list is cut into chunks of one size, the last of which may be shorter. Put
together again in order, as many of them as are needed give the list back.

Windows may also overlap: each one begins a fixed number of items before the end of
the one in front of it. They cover the list, and what is left of them without the
overlaps is the list again (`Cover.reassemble`).
-/

namespace Reperio.Encoding

variable {α : Type}

/-- The number of chunks that items of the given number fill. -/
def chunkCount (size length : ℕ) : ℕ := (length + size - 1) / size

def chunk (size : ℕ) (items : List α) (index : ℕ) : List α := (items.drop (index * size)).take size

theorem le_chunkCount_mul {size : ℕ} (positive : 0 < size) (length : ℕ) :
    length ≤ chunkCount size length * size := by
  have division := Nat.div_add_mod (length + size - 1) size
  have remainder := Nat.mod_lt (length + size - 1) positive
  rw [chunkCount, Nat.mul_comm]
  omega

theorem chunkCount_le_iff {size : ℕ} (positive : 0 < size) {length count : ℕ} :
    chunkCount size length ≤ count ↔ length ≤ count * size := by
  rw [chunkCount, Nat.div_le_iff_le_mul_add_pred positive, Nat.mul_comm]
  omega

theorem length_chunk_le (size : ℕ) (items : List α) (index : ℕ) :
    (chunk size items index).length ≤ size := by
  rw [chunk, List.length_take]
  omega

theorem mem_of_mem_chunk {size : ℕ} {items : List α} {index : ℕ} {item : α}
    (member : item ∈ chunk size items index) : item ∈ items :=
  List.mem_of_mem_drop (List.mem_of_mem_take member)

/-- The first chunks are the first items. -/
theorem flatMap_chunk (size : ℕ) (items : List α) (count : ℕ) :
    (List.range count).flatMap (chunk size items) = items.take (count * size) := by
  induction count with
  | zero => simp
  | succ count ih =>
    rw [List.range_succ, List.flatMap_append, ih, List.flatMap_singleton, Nat.succ_mul,
      List.take_add]
    rfl

theorem flatMap_chunk_chunkCount {size : ℕ} (positive : 0 < size) (items : List α) :
    (List.range (chunkCount size items.length)).flatMap (chunk size items) = items := by
  rw [flatMap_chunk]
  apply List.take_of_length_le
  exact le_chunkCount_mul positive items.length

/-! ## Overlapping windows -/

/-- A stretch of a text, from a position up to another one. -/
structure Window where
  start : ℕ
  stop : ℕ
  deriving DecidableEq

/-- The characters of a window. -/
def Window.of (text : List α) (window : Window) : List α :=
  (text.drop window.start).take (window.stop - window.start)

theorem Window.length_of {text : List α} {window : Window} (inside : window.stop ≤ text.length) :
    (window.of text).length = window.stop - window.start := by
  rw [Window.of, List.length_take, List.length_drop]
  omega

/-- Windows from a position to the end of a text of that length: all but the last are longer than
the overlap, and each one but the first begins that far before the end of the one in front of it. -/
inductive Cover (length overlap : ℕ) : ℕ → List Window → Prop where
  | last {start : ℕ} (notEmpty : start < length) : Cover length overlap start [⟨start, length⟩]
  | more {start stop next : ℕ} {windows : List Window} (longer : start + overlap < stop)
      (inside : stop < length) (back : next + overlap = stop)
      (rest : Cover length overlap next windows) :
      Cover length overlap start (⟨start, stop⟩ :: windows)

namespace Cover

variable {length overlap start : ℕ} {windows : List Window}

theorem exists_first (cover : Cover length overlap start windows) :
    ∃ stop rest, windows = ⟨start, stop⟩ :: rest := by
  cases cover with
  | last notEmpty => exact ⟨_, _, rfl⟩
  | more longer inside back rest => exact ⟨_, _, rfl⟩

theorem inside (cover : Cover length overlap start windows) :
    ∀ window ∈ windows, window.start < window.stop ∧ window.stop ≤ length := by
  induction cover with
  | last notEmpty =>
    intro window isLast
    rw [List.mem_singleton.mp isLast]
    exact ⟨notEmpty, Nat.le_refl _⟩
  | more longer inside back rest ih =>
    intro window isIn
    rcases List.mem_cons.mp isIn with rfl | later
    · exact ⟨Nat.lt_of_le_of_lt (Nat.le_add_right _ _) longer, Nat.le_of_lt inside⟩
    · exact ih window later

theorem chained (cover : Cover length overlap start windows) :
    windows.IsChain fun window next => next.start + overlap = window.stop := by
  induction cover with
  | last notEmpty => exact .singleton _
  | more longer inside back rest ih =>
    obtain ⟨stop, others, rfl⟩ := rest.exists_first
    exact .cons_cons back ih

theorem reaches_end (cover : Cover length overlap start windows) :
    windows.getLast?.map Window.stop = some length := by
  induction cover with
  | last notEmpty => rfl
  | more longer inside back rest ih =>
    obtain ⟨stop, others, rfl⟩ := rest.exists_first
    rw [List.getLast?_cons_cons]
    exact ih

/-- A window that begins before the end of the one in front of it ends behind that. -/
theorem first_longer {stop : ℕ} {rest : List Window}
    (cover : Cover length overlap start (⟨start, stop⟩ :: rest)) (more : start + overlap < length) :
    start + overlap < stop := by
  cases cover with
  | last notEmpty => exact more
  | more longer inside back rest => exact longer

/-- The first window, followed by the others without what they share with the one in front. -/
theorem reassemble {text : List α} (cover : Cover text.length overlap start windows) :
    (windows.map (Window.of text)).head?.getD [] ++
      (windows.map (Window.of text)).tail.flatMap (List.drop overlap) = text.drop start := by
  induction cover with
  | last notEmpty =>
    simp only [List.map_cons, List.map_nil, List.head?_cons, Option.getD_some, List.tail_cons,
      List.flatMap_nil, List.append_nil]
    exact List.take_of_length_le (Nat.le_of_eq List.length_drop)
  | @more start stop next windows longer inside back rest ih =>
    obtain ⟨nextStop, others, rfl⟩ := rest.exists_first
    have reaches := rest.first_longer (by omega)
    have nextInside := (rest.inside ⟨next, nextStop⟩ List.mem_cons_self).2
    have shared : overlap ≤ (Window.of text ⟨next, nextStop⟩).length := by
      rw [Window.length_of nextInside]
      exact Nat.le_sub_of_add_le (Nat.add_comm next overlap ▸ Nat.le_of_lt reaches)
    simp only [List.map_cons, List.head?_cons, Option.getD_some, List.tail_cons,
      List.flatMap_cons] at ih ⊢
    have behind := congrArg (List.drop overlap) ih
    rw [List.drop_append_of_le_length shared, List.drop_drop] at behind
    have isStop : text.drop (next + overlap) = (text.drop start).drop (stop - start) := by
      rw [List.drop_drop]
      congr 1
      omega
    rw [behind, isStop]
    exact List.take_append_drop _ _

end Cover

end Reperio.Encoding
