import Mathlib.Data.List.Infix
import Mathlib.Tactic.Basic

/-!
# Patterns with wildcards

A pattern is a list of pieces. A sequence stands for any items, a single one for any item,
and a literal for the items with the key that it has. Between two sequences, literals
match what they occur in. For a text to stand for itself in a pattern, its wildcards are
replaced: `String.replace` with a text of one character puts its replacement in place of
every such character and leaves the others as they are.
-/

namespace Reperio.Encoding

/-- A piece of a pattern. -/
inductive Wildcard (α : Type) where
  | sequence
  | single
  | literal (item : α)
  deriving DecidableEq, Repr

namespace Wildcard

variable {α κ : Type} (key : α → κ)

def Matches : List (Wildcard α) → List α → Prop
  | [], text => text = []
  | sequence :: pieces, text => ∃ front back, text = front ++ back ∧ Matches pieces back
  | single :: pieces, text => ∃ item rest, text = item :: rest ∧ Matches pieces rest
  | literal wanted :: pieces, text =>
    ∃ item rest, text = item :: rest ∧ key wanted = key item ∧ Matches pieces rest

variable {key} {text : List α}

/-- Literals match a front with the keys that they have. -/
theorem matches_literals_append {word : List α} {pieces : List (Wildcard α)} :
    Matches key (word.map literal ++ pieces) text ↔
      ∃ front back, text = front ++ back ∧ front.map key = word.map key ∧
        Matches key pieces back := by
  induction word generalizing text with
  | nil => simp
  | cons wanted word ih =>
    simp only [List.map_cons, List.cons_append, Matches, ih]
    constructor
    · rintro ⟨item, _, rfl, sameKey, front, back, rfl, sameKeys, rest⟩
      refine ⟨item :: front, back, rfl, ?_, rest⟩
      rw [List.map_cons, sameKey, sameKeys]
    · rintro ⟨front, back, rfl, sameKeys, rest⟩
      cases front with
      | nil => cases sameKeys
      | cons item front =>
        rw [List.map_cons, List.cons.injEq] at sameKeys
        exact ⟨item, front ++ back, rfl, sameKeys.1.symm, front, back, rfl, sameKeys.2, rest⟩

/-- Literals between two sequences match the texts that they occur in. -/
theorem matches_surrounded {word : List α} :
    Matches key (sequence :: (word.map literal ++ [sequence])) text ↔
      word.map key <:+: text.map key := by
  simp only [Matches, matches_literals_append]
  constructor
  · rintro ⟨front, _, rfl, middle, back, rfl, sameKeys, -⟩
    refine ⟨front.map key, back.map key, ?_⟩
    rw [← sameKeys, List.map_append, List.map_append, List.append_assoc]
  · rintro ⟨front, back, same⟩
    rcases List.map_eq_append_iff.mp same.symm with ⟨both, last, rfl, isBoth, rfl⟩
    rcases List.map_eq_append_iff.mp isBoth with ⟨first, middle, rfl, rfl, sameKeys⟩
    exact ⟨first, middle ++ last, List.append_assoc .., middle, last, rfl, sameKeys, last, [],
      (List.append_nil last).symm, rfl⟩

end Wildcard

/-! ## Replacing a character -/

open String.Slice.Pattern String.Slice.Pattern.Model

/-- The characters, with a text in place of each of one kind. -/
def substitute (char : Char) (replacement text : List Char) : List Char :=
  text.flatMap fun other => if other = char then replacement else [other]

variable {char : Char} {replacement : List Char}

theorem substitute_append (first second : List Char) :
    substitute char replacement (first ++ second) =
      substitute char replacement first ++ substitute char replacement second :=
  List.flatMap_append

theorem substitute_of_notMem {text : List Char} (absent : char ∉ text) :
    substitute char replacement text = text := by
  induction text with
  | nil => rfl
  | cons other text ih =>
    rw [List.mem_cons, not_or] at absent
    rw [substitute, List.flatMap_cons, if_neg (Ne.symm absent.1)]
    exact congrArg (other :: ·) (ih absent.2)

/-- A character between two positions where its text is nowhere found is another one. -/
theorem notMem_of_not_matchesAt {pattern : String} (isChar : pattern.toList = [char])
    {slice : String.Slice} {start stop : slice.Pos} {front middle back : String}
    (startSplits : start.Splits front (middle ++ back))
    (stopSplits : stop.Splits (front ++ middle) back)
    (never : ∀ position, start ≤ position → position < stop → ¬MatchesAt pattern position) :
    char ∉ middle.toList := by
  intro member
  rcases List.append_of_mem member with ⟨before, after, split⟩
  have whole : slice.copy = (front ++ String.ofList before) ++
    (pattern ++ (String.ofList after ++ back)) := by
    rw [startSplits.eq_append]
    apply String.toList_injective
    simp [split, isChar]
  have splits := String.Slice.Pos.splits_ofEqAppend whole
  refine never _ ?_ ?_ (ForwardStringSearcher.matchesAt_iff_splits.mpr ⟨_, _, splits⟩)
  · refine (startSplits.le_iff_exists_eq_append splits).mpr ⟨String.ofList before, rfl, ?_⟩
    apply String.toList_injective
    simp [split, isChar]
  · refine (splits.lt_iff_exists_eq_append stopSplits).mpr
      ⟨pattern ++ String.ofList after, ?_, ?_, ?_⟩
    · intro empty
      have noChar := congrArg String.toList empty
      simp [isChar] at noChar
    · apply String.toList_injective
      simp [split, isChar]
    · rw [String.append_assoc]

/-- What `String.replace` does at each step of a search. -/
def replaceStep (slice : String.Slice) (replacement : String) (sofar : String) :
    SearchStep slice → String
  | .matched _ _ => sofar ++ String.ToSlice.toSlice replacement
  | .rejected start stop => sofar ++ slice.slice! start stop

theorem toList_foldl_replaceStep {pattern replacement : String} (isChar : pattern.toList = [char])
    {slice : String.Slice} {position : slice.Pos} {steps : List (SearchStep slice)}
    (valid : IsValidSearchFrom pattern position steps) {front back : String}
    (splits : position.Splits front back) (sofar : String) :
    (steps.foldl (replaceStep slice replacement) sofar).toList =
      sofar.toList ++ substitute char replacement.toList back.toList := by
  induction valid generalizing front back sofar with
  | endPos =>
    have atEnd := String.Slice.splits_endPos_iff.mp splits
    rw [atEnd.2]
    simp [substitute]
  | matched isMatch valid ih =>
    rcases ForwardStringSearcher.isLongestMatchAt_iff_splits.mp isMatch with
      ⟨other, rest, startSplits, stopSplits⟩
    rw [(splits.eq startSplits).2, List.foldl_cons, ih stopSplits, replaceStep]
    simp [isChar, substitute, String.ToSlice.toSlice]
  | mismatched before never valid ih =>
    rename_i steps start stop
    rcases (splits.le_iff_exists_eq_append stop.splits).mp (Std.le_of_lt before) with
      ⟨middle, sameFront, sameBack⟩
    have stopSplits := stop.splits
    rw [sameFront] at stopSplits
    rw [sameBack] at splits ⊢
    have absent := notMem_of_not_matchesAt isChar splits stopSplits never
    have between : (slice.slice! start stop).copy = middle := by
      rw [← String.Slice.slice_eq_slice! (h := Std.le_of_lt before)]
      exact (String.Slice.copy_slice_eq_iff_splits.mpr ⟨_, _, splits, stopSplits⟩).2
    rw [List.foldl_cons, ih stopSplits, replaceStep, String.toList_append, substitute_append,
      substitute_of_notMem absent]
    simp [between]

theorem toList_replace {pattern replacement : String} (isChar : pattern.toList = [char])
    (text : String) :
    (text.replace pattern replacement).toList = substitute char replacement.toList text.toList := by
  have notEmpty : pattern ≠ "" := by
    rintro rfl
    cases isChar
  have valid :=
    (ForwardStringSearcher.lawfulToForwardSearcherModel notEmpty).isValidSearchFrom_toList
    text.toSlice
  have folded := @toList_foldl_replaceStep _ _ replacement isChar _ _ _ valid _ _
    (String.Slice.splits_startPos text.toSlice) ""
  rw [String.toList_empty, List.nil_append, String.copy_toSlice] at folded
  rw [← folded, String.replace, String.Slice.replace, ← Std.Iter.foldl_toList]
  congr 3
  funext sofar step
  cases step <;> rfl

end Reperio.Encoding
