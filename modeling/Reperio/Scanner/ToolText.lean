import Mathlib.Data.List.DropRight
import Reperio.Hostd.StorageInspection
import Reperio.Python.Timestamp
import Reperio.Scanner.PhotorecSession

/-!
# Texts of the Sleuth Kit

What `scanner/filesystem_enumeration.py` and `scanner/partition_discovery.py` share in
reading the output of a tool: its lines, numbers and blanks, and the text of its errors.
-/

namespace Reperio.Scanner.SleuthKit

open Python Photorec

/-- `MAX_TOOL_OUTPUT_CHARS`. -/
def maxToolOutputChars : ℕ := 1048576

/-- What the functions of both modules raise: `FilesystemEnumerationError` or
`PartitionDiscoveryError` with its code and message, or what `int` raises. -/
inductive ToolError where
  | refused (code message : String)
  | valueError
  deriving DecidableEq

/-! ## Characters -/

/-- `\d`, with the value of the digit. -/
def decimal? (point : CodePoint) : Option ℕ :=
  (decimalZeros.find? fun start => decide (start ≤ point.val ∧ point.val < start + 10)).map
    fun start => point.val - start

def isDecimal (point : CodePoint) : Bool := (decimal? point).isSome

/-- `int(digits)` of a text that `\d+` matches. -/
def intOf (digits : PyStr) : Except ToolError ℕ :=
  if intMaxStrDigits < digits.length then .error .valueError
  else .ok ((digits.filterMap decimal?).foldl (fun number digit => 10 * number + digit) 0)

/-- `text.strip(characters)`, of the characters of a kind. -/
def stripWhile (kind : CodePoint → Bool) (text : PyStr) : PyStr :=
  ((text.dropWhile kind).reverse.dropWhile kind).reverse

/-- `" ".join(value.replace("\x00", " ").split())[:240]`. -/
def sanitizeText (value : PyStr) : PyStr := ([CodePoint.ofChar ' '].intercalate
    (Hostd.words (value.map fun point => if point.val = 0 then .ofChar ' ' else point))).take 240

/-- `isinstance(value, int)` of what is no boolean, if it is positive and at most a bound. -/
def positiveInt? (value : PyValue) (bound : Option ℕ) : Option ℕ := match value with
  | .int value =>
    if 0 < value ∧ bound.all (fun bound : ℕ => decide (value ≤ bound)) then some value.toNat
    else none
  | _ => none

/-! ## Lines -/

theorem isLineBreak_newline : isLineBreak (.ofChar '\n') = true := by decide

/-- What the joining of breaks makes of the text before a newline does not depend on what follows.
-/
theorem exists_joinBreaks_append (text : PyStr) :
    ∃ body, ∀ rest, joinBreaks (text ++ .ofChar '\n' :: rest) =
      body ++ .ofChar '\n' :: joinBreaks rest := by
  induction text with
  | nil =>
    refine ⟨[], fun rest => ?_⟩
    rw [List.nil_append, joinBreaks, if_neg (fun joined => absurd joined.1 (by decide)),
      List.nil_append]
  | cons point text ih =>
    rcases ih with ⟨body, joined⟩
    have next (rest : PyStr) : (text ++ CodePoint.ofChar '\n' :: rest).head? =
        (text ++ [CodePoint.ofChar '\n']).head? := by
      cases text <;> rfl
    by_cases isJoined : point.val = 13 ∧ ((text ++ [CodePoint.ofChar '\n']).head?.any
        fun next => next.val = 10) = true
    · refine ⟨body, fun rest => ?_⟩
      rw [List.cons_append, joinBreaks, next, if_pos isJoined, joined]
    · refine ⟨point :: body, fun rest => ?_⟩
      rw [List.cons_append, joinBreaks, next, if_neg isJoined, joined, List.cons_append]

theorem splitAtBreaks_append (body rest : PyStr) : splitAtBreaks (body ++ .ofChar '\n' :: rest) =
      splitAtBreaks (body ++ [.ofChar '\n']) ++ splitAtBreaks rest := by
  induction body with
  | nil =>
    rw [List.nil_append, splitAtBreaks, if_pos isLineBreak_newline]
    rfl
  | cons point body ih =>
    rw [List.cons_append, List.cons_append, splitAtBreaks, splitAtBreaks]
    split
    · rw [ih, List.cons_append]
    · rw [ih]
      cases lines : splitAtBreaks (body ++ [.ofChar '\n']) with
      | nil =>
        exfalso
        cases body with
        | nil =>
          rw [List.nil_append, splitAtBreaks, if_pos isLineBreak_newline] at lines
          cases lines
        | cons point body =>
          rw [List.cons_append, splitAtBreaks] at lines
          split at lines
          · cases lines
          · split at lines <;> cases lines
      | cons line lines => rfl

/-- The lines of a text that is cut behind a newline. -/
theorem splitLines_append (text rest : PyStr) : splitLines (text ++ .ofChar '\n' :: rest) =
      splitLines (text ++ [.ofChar '\n']) ++ splitLines rest := by
  rcases exists_joinBreaks_append text with ⟨body, joined⟩
  rw [splitLines, splitLines, splitLines, joined, joined, splitAtBreaks_append]
  rfl

/-- The first line of a text that ends in a newline goes up to the first break. -/
theorem exists_splitLines_newline (text : PyStr) : ∃ lines, splitLines (text ++ [.ofChar '\n']) =
      text.takeWhile (fun point => !isLineBreak point) :: lines := by
  rw [splitLines]
  induction text with
  | nil => exact ⟨[], by decide⟩
  | cons point text ih =>
    rcases ih with ⟨lines, split⟩
    rw [List.cons_append, joinBreaks]
    split
    · rename_i isReturn
      have broken : isLineBreak point = true := by
        rw [isLineBreak, isReturn.1]
        rfl
      rw [List.takeWhile_cons_of_neg (by rw [broken]; decide)]
      cases text with
      | nil => exact ⟨[], by decide⟩
      | cons next text =>
        have newline : isLineBreak next = true := by
          have isNewline := of_decide_eq_true isReturn.2
          rw [isLineBreak, isNewline]
          rfl
        rw [List.takeWhile_cons_of_neg (by rw [newline]; decide)] at split
        exact ⟨lines, split⟩
    · rw [splitAtBreaks]
      split
      · rename_i broken
        rw [List.takeWhile_cons_of_neg (by rw [broken]; decide)]
        exact ⟨_, rfl⟩
      · rename_i unbroken
        rw [split, List.takeWhile_cons_of_pos (by simpa using unbroken)]
        exact ⟨lines, rfl⟩

/-- A text without breaks is one line. -/
theorem splitLines_newline {text : PyStr} (unbroken : ∀ point ∈ text, isLineBreak point = false) :
    splitLines (text ++ [.ofChar '\n']) = [text] := by
  rw [splitLines]
  induction text with
  | nil => decide
  | cons point text ih =>
    rw [List.forall_mem_cons] at unbroken
    have noReturn : point.val ≠ 13 := by
      intro isReturn
      rw [isLineBreak, isReturn] at unbroken
      exact absurd unbroken.1 (by decide)
    rw [List.cons_append, joinBreaks, if_neg (fun joined => noReturn joined.1), splitAtBreaks,
      if_neg (by rw [unbroken.1]; decide), ih unbroken.2]

theorem splitLines_flatMap {α : Type} (print : α → PyStr) (items : List α) :
    splitLines (items.flatMap fun item => print item ++ [.ofChar '\n']) =
      items.flatMap fun item => splitLines (print item ++ [.ofChar '\n']) := by
  induction items with
  | nil => rfl
  | cons item items ih =>
    rw [List.flatMap_cons, List.append_assoc, List.singleton_append, splitLines_append, ih,
      List.flatMap_cons]

/-! ## Blanks -/

theorem strip_append_of_not_isSpace {point : CodePoint} (solid : point.isSpace = false)
    {text : PyStr} (rest : PyStr) (starts : text.head?.all (fun first => !first.isSpace) = true) :
    PyStr.strip (text ++ point :: rest) =
      text ++ point :: (rest.reverse.dropWhile CodePoint.isSpace).reverse := by
  have leading : (text ++ point :: rest).dropWhile CodePoint.isSpace = text ++ point :: rest := by
    cases text with
    | nil => exact List.dropWhile_cons_of_neg (by rw [solid]; decide)
    | cons first text => exact List.dropWhile_cons_of_neg (by simpa using starts)
  rw [PyStr.strip, leading, List.reverse_append, List.reverse_cons, List.append_assoc,
    List.singleton_append]
  by_cases blank : ∀ other ∈ rest.reverse, CodePoint.isSpace other = true
  · rw [List.dropWhile_append_of_pos blank, List.dropWhile_cons_of_neg (by rw [solid]; decide),
      List.dropWhile_eq_nil_iff.mpr blank]
    simp
  · have remains : ¬(rest.reverse.dropWhile CodePoint.isSpace).isEmpty = true :=
      fun isEmpty => blank (List.dropWhile_eq_nil_iff.mp (List.isEmpty_iff.mp isEmpty))
    rw [List.dropWhile_append, if_neg remains]
    simp

theorem rstrip_cons (kind : CodePoint → Bool) (point : CodePoint) (text : PyStr) :
    ((point :: text).reverse.dropWhile kind).reverse =
      if (text.reverse.dropWhile kind).reverse = [] ∧ kind point = true then []
      else point :: (text.reverse.dropWhile kind).reverse := by
  rw [List.reverse_cons, List.dropWhile_append]
  by_cases blank : text.reverse.dropWhile kind = []
  · by_cases isKind : kind point = true <;> simp [blank, isKind]
  · simp [blank]

/-- The two ends of a text are stripped in either order. -/
theorem dropWhile_rstrip (kind : CodePoint → Bool) (text : PyStr) :
    (text.reverse.dropWhile kind).reverse.dropWhile kind =
      ((text.dropWhile kind).reverse.dropWhile kind).reverse := by
  induction text with
  | nil => rfl
  | cons point text ih =>
    rw [rstrip_cons]
    by_cases isKind : kind point = true
    · rw [List.dropWhile_cons_of_pos isKind, ← ih]
      split
      · rename_i blank
        rw [blank.1]
      · rw [List.dropWhile_cons_of_pos isKind]
    · rw [List.dropWhile_cons_of_neg isKind, rstrip_cons, if_neg (fun both => isKind both.2),
        List.dropWhile_cons_of_neg isKind]

theorem strip_rstrip (text : PyStr) :
    PyStr.strip (text.reverse.dropWhile CodePoint.isSpace).reverse = PyStr.strip text := by
  rw [PyStr.strip, dropWhile_rstrip CodePoint.isSpace text, List.reverse_reverse,
    List.dropWhile_idempotent, PyStr.strip]

/-- What is stripped at both ends, in either order, can be stripped no more. -/
theorem strip_dropWhile_rstrip (text : PyStr) :
    PyStr.strip ((text.reverse.dropWhile CodePoint.isSpace).reverse.dropWhile CodePoint.isSpace) =
      PyStr.strip text := by
  rw [PyStr.strip, List.dropWhile_idempotent, dropWhile_rstrip CodePoint.isSpace text,
    List.reverse_reverse, List.dropWhile_idempotent, PyStr.strip]

end Reperio.Scanner.SleuthKit
