import Mathlib.Data.List.Basic

/-!
# Lines of a stream

A stream cut after each mark. Lines that end in their only mark are what their
concatenation is cut into (`splitAfter_flatten`).

Items may also be cut at breaks, which are in no line themselves. What stands behind
the last break is a line when there is anything. Where there are more breaks, the
lines are cut further, and a line without further breaks is not cut.
-/

namespace Reperio.Encoding

section Marks

variable {α : Type} [DecidableEq α]

/-- One piece up to each mark, and one for what stands behind the last. -/
def splitAfter (mark : α) : List α → List (List α)
  | [] => []
  | item :: items =>
    if item = mark then [item] :: splitAfter mark items
    else
      match splitAfter mark items with
      | [] => [[item]]
      | line :: lines => (item :: line) :: lines

/-- The mark is there exactly once, at the end. -/
def IsLine (mark : α) (line : List α) : Prop := ∃ body, line = body ++ [mark] ∧ mark ∉ body

theorem splitAfter_append {mark : α} {body : List α} (unmarked : mark ∉ body) (rest : List α) :
    splitAfter mark (body ++ mark :: rest) = (body ++ [mark]) :: splitAfter mark rest := by
  induction body with
  | nil => rw [List.nil_append, splitAfter, if_pos rfl, List.nil_append]
  | cons item body ih =>
    rw [List.mem_cons, not_or] at unmarked
    rw [List.cons_append, splitAfter, if_neg (Ne.symm unmarked.1), ih unmarked.2]
    rfl

theorem splitAfter_flatten {mark : α} {lines : List (List α)}
    (areLines : ∀ line ∈ lines, IsLine mark line) : splitAfter mark lines.flatten = lines := by
  induction lines with
  | nil => rfl
  | cons line lines ih =>
    rw [List.forall_mem_cons] at areLines
    rcases areLines with ⟨⟨body, rfl, unmarked⟩, areLines⟩
    rw [List.flatten_cons, List.append_assoc, List.singleton_append, splitAfter_append unmarked,
      ih areLines]

end Marks

/-! ## Lines between breaks -/

variable {α : Type} {isBreak : α → Bool}

def splitBreaks (isBreak : α → Bool) : List α → List (List α)
  | [] => []
  | item :: items =>
    if isBreak item then [] :: splitBreaks isBreak items
    else
      match splitBreaks isBreak items with
      | [] => [[item]]
      | line :: lines => (item :: line) :: lines

/-- What is made of the items before a break does not depend on what follows. -/
theorem exists_splitBreaks_append (isBreak : α → Bool) (body : List α) :
    ∃ line lines, line <+: body ∧
      ((∀ item ∈ body, isBreak item = false) → line = body ∧ lines = []) ∧
      ∀ mark rest, isBreak mark = true →
        splitBreaks isBreak (body ++ mark :: rest) = line ::
          (lines ++ splitBreaks isBreak rest) := by
  induction body with
  | nil =>
    refine ⟨[], [], List.prefix_refl _, fun _ => ⟨rfl, rfl⟩, fun mark rest isMark => ?_⟩
    rw [List.nil_append, splitBreaks, if_pos isMark, List.nil_append]
  | cons item body ih =>
    rcases ih with ⟨line, lines, isPrefix, unbroken, split⟩
    cases broken : isBreak item with
    | true =>
      refine ⟨[], line :: lines, List.nil_prefix, fun none => ?_, fun mark rest isMark => ?_⟩
      · rw [none item List.mem_cons_self] at broken
        cases broken
      · rw [List.cons_append, splitBreaks, if_pos broken, split mark rest isMark, List.cons_append]
    | false =>
      refine ⟨item :: line, lines, List.cons_prefix_cons.mpr ⟨rfl, isPrefix⟩, fun none => ?_,
        fun mark rest isMark => ?_⟩
      · rcases unbroken (List.forall_mem_cons.mp none).right with ⟨whole, noMore⟩
        exact ⟨congrArg _ whole, noMore⟩
      · rw [List.cons_append, splitBreaks, broken, if_neg Bool.false_ne_true,
          split mark rest isMark]

/-- A break stands between two lines. -/
theorem exists_eq_append_of_splitBreaks {items line next : List α} {lines : List (List α)}
    (split : splitBreaks isBreak items = line :: next :: lines) :
    ∃ mark rest, isBreak mark = true ∧ items = line ++ mark :: rest ∧
      splitBreaks isBreak rest = next :: lines := by
  induction items generalizing line with
  | nil => cases split
  | cons item items ih =>
    rw [splitBreaks] at split
    by_cases broken : isBreak item = true
    · rw [if_pos broken] at split
      rcases List.cons.inj split with ⟨rfl, others⟩
      exact ⟨item, items, broken, rfl, others⟩
    · rw [if_neg broken] at split
      cases others : splitBreaks isBreak items with
      | nil =>
        rw [others] at split
        cases split
      | cons first rest =>
        rw [others] at split
        rcases List.cons.inj split with ⟨rfl, rfl⟩
        rcases ih others with ⟨mark, rest, isMark, rfl, remaining⟩
        exact ⟨mark, rest, isMark, rfl, remaining⟩

/-- With further breaks in none of the lines, the lines are the same. -/
theorem splitBreaks_eq_of_unbroken {isFurther : α → Bool} {items : List α}
    (further : ∀ item, isBreak item = true → isFurther item = true)
    (unbroken : ∀ line ∈ splitBreaks isBreak items, ∀ item ∈ line, isFurther item = false) :
    splitBreaks isFurther items = splitBreaks isBreak items := by
  induction items with
  | nil => rfl
  | cons item items ih =>
    rw [splitBreaks] at unbroken ⊢
    rw [splitBreaks]
    by_cases broken : isBreak item = true
    · rw [if_pos broken] at unbroken ⊢
      rw [if_pos (further item broken), ih (List.forall_mem_cons.mp unbroken).right]
    · rw [if_neg broken] at unbroken ⊢
      cases others : splitBreaks isBreak items with
      | nil =>
        rw [others] at unbroken ih
        have solid := unbroken [item] List.mem_cons_self item List.mem_cons_self
        rw [solid, if_neg Bool.false_ne_true, ih nofun]
      | cons line lines =>
        rw [others] at unbroken ih
        rcases List.forall_mem_cons.mp unbroken with ⟨first, later⟩
        rcases List.forall_mem_cons.mp first with ⟨solid, first⟩
        rw [solid, if_neg Bool.false_ne_true, ih (List.forall_mem_cons.mpr ⟨first, later⟩)]

theorem splitBreaks_append_break {mark : α} (isMark : isBreak mark = true) (body rest : List α) :
    splitBreaks isBreak (body ++ mark :: rest) =
      splitBreaks isBreak (body ++ [mark]) ++ splitBreaks isBreak rest := by
  rcases exists_splitBreaks_append isBreak body with ⟨line, lines, _, _, split⟩
  rw [split mark rest isMark, split mark [] isMark, splitBreaks, List.append_nil, List.cons_append]

/-- A break at the end of items that do not end with one adds no line. -/
theorem splitBreaks_concat_break {mark last : α} (isMark : isBreak mark = true)
    (isLast : isBreak last = false) (body : List α) :
    splitBreaks isBreak (body ++ [last, mark]) = splitBreaks isBreak (body ++ [last]) := by
  induction body with
  | nil => simp [splitBreaks, isLast, isMark]
  | cons item body ih => rw [List.cons_append, List.cons_append, splitBreaks, splitBreaks, ih]

theorem splitBreaks_of_unbroken {items : List α} (some : items ≠ [])
    (unbroken : ∀ item ∈ items, isBreak item = false) : splitBreaks isBreak items = [items] := by
  induction items with
  | nil => exact absurd rfl some
  | cons item items ih =>
    rw [List.forall_mem_cons] at unbroken
    rw [splitBreaks, unbroken.1, if_neg Bool.false_ne_true]
    cases items with
    | nil => rfl
    | cons next items => rw [ih (List.cons_ne_nil _ _) unbroken.2]

/-- What is no break is in a line. -/
theorem exists_mem_splitBreaks {items : List α} {item : α} (isItem : item ∈ items)
    (solid : isBreak item = false) : ∃ line ∈ splitBreaks isBreak items, item ∈ line := by
  induction items with
  | nil => cases isItem
  | cons first items ih =>
    rw [splitBreaks]
    by_cases broken : isBreak first = true
    · rw [if_pos broken]
      rcases List.mem_cons.mp isItem with rfl | isItem
      · rw [broken] at solid
        cases solid
      · rcases ih isItem with ⟨line, isLine, inLine⟩
        exact ⟨line, List.mem_cons_of_mem _ isLine, inLine⟩
    · rw [if_neg broken]
      cases others : splitBreaks isBreak items with
      | nil =>
        refine ⟨[first], List.mem_singleton_self _, ?_⟩
        rcases List.mem_cons.mp isItem with rfl | isItem
        · exact List.mem_singleton_self _
        · rcases ih isItem with ⟨line, isLine, _⟩
          rw [others] at isLine
          cases isLine
      | cons line lines =>
        rcases List.mem_cons.mp isItem with rfl | isItem
        · exact ⟨_, List.mem_cons_self, List.mem_cons_self⟩
        · rcases ih isItem with ⟨found, isFound, inFound⟩
          rw [others] at isFound
          rcases List.mem_cons.mp isFound with rfl | isFound
          · exact ⟨_, List.mem_cons_self, List.mem_cons_of_mem _ inFound⟩
          · exact ⟨found, List.mem_cons_of_mem _ isFound, inFound⟩

end Reperio.Encoding
