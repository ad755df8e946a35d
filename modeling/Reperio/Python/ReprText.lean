import Mathlib.Data.List.Infix
import Mathlib.Data.List.Perm.Subperm
import Reperio.Python.Repr

/-!
# What `repr` shows of a text

Backslashes are doubled, an apostrophe may get one in front, and characters that cannot
be printed are spelled out. So a text is found in the `repr` of all texts it occurs in
when only characters that are shown as they are stand between an apostrophe and
backslashes at the ends, and no other text is (`infix_reprText_iff`).
-/

namespace Reperio.Python

variable (display : Display)

def backslash : CodePoint := .ofChar '\\'

def apostrophe : CodePoint := .ofChar '\''

/-- Shown as it is in every text. -/
def isPlain (point : CodePoint) : Bool :=
  decide (point ≠ backslash) && decide (point ≠ apostrophe) && decide (32 ≤ point.val) &&
    decide (point.val ≠ 127) && (decide (point.val < 127) || display.isPrintable point)

/-- Shown, though perhaps with a backslash in front. -/
def isLegible (point : CodePoint) : Bool :=
  isPlain display point || decide (point = backslash) || decide (point = apostrophe)

def isBackslash (point : CodePoint) : Bool := decide (point = backslash)

/-- The text without an apostrophe at the beginning. -/
def withoutApostrophe : PyStr → PyStr
  | [] => []
  | point :: points => if point = apostrophe then points else point :: points

/-- Plain characters, and backslashes behind them. -/
def endsPlain : PyStr → Bool
  | [] => true
  | point :: points => isPlain display point && endsPlain points ||
      isBackslash point && points.all isBackslash

/-- Nothing but backslashes, an apostrophe, plain characters and backslashes, in this order. -/
def isShown (value : PyStr) : Bool :=
  endsPlain display (withoutApostrophe (value.dropWhile isBackslash))

/-! ## One character -/

variable {point quoteMark : CodePoint} {points : PyStr}

section

variable {display}

theorem reprPoint_plain (plain : isPlain display point = true) (differs : point ≠ quoteMark) :
    reprPoint display quoteMark point = [point] := by
  simp only [isPlain, Bool.and_eq_true, Bool.or_eq_true, decide_eq_true_eq] at plain
  obtain ⟨⟨⟨⟨notBackslash, _⟩, atLeast⟩, notDelete⟩, printable⟩ := plain
  have unmarked : ¬(point = quoteMark ∨ point = .ofChar '\\') := not_or.mpr ⟨differs, notBackslash⟩
  rw [reprPoint, if_neg unmarked, if_neg (by omega), if_neg (by omega), if_neg (by omega),
    if_neg (by omega), if_pos printable]

theorem reprPoint_backslash (quoteMark : CodePoint) :
    reprPoint display quoteMark backslash = [backslash, backslash] :=
  if_pos (Or.inr rfl)

theorem reprPoint_self (quoteMark : CodePoint) :
    reprPoint display quoteMark quoteMark = [backslash, quoteMark] :=
  if_pos (Or.inl rfl)

theorem isPlain_ascii (atLeast : 32 ≤ point.val) (below : point.val < 127)
    (notBackslash : point ≠ backslash) (notApostrophe : point ≠ apostrophe) :
    isPlain display point = true := by
  simp only [isPlain, Bool.and_eq_true, Bool.or_eq_true, decide_eq_true_eq]
  exact ⟨⟨⟨⟨notBackslash, notApostrophe⟩, atLeast⟩, by omega⟩, Or.inl below⟩

theorem isLegible_ascii (atLeast : 32 ≤ point.val) (below : point.val < 127) :
    isLegible display point = true := by
  rw [isLegible, Bool.or_eq_true, Bool.or_eq_true, decide_eq_true_eq, decide_eq_true_eq]
  by_cases notBackslash : point = backslash
  · exact Or.inl (Or.inr notBackslash)
  · by_cases notApostrophe : point = apostrophe
    · exact Or.inr notApostrophe
    · exact Or.inl (Or.inl (isPlain_ascii atLeast below notBackslash notApostrophe))

theorem isLegible_hexDigit {value : ℕ} (digit : value < 16) :
    isLegible display (.ofChar (hexDigit value)) = true := by
  have ascii : ∀ value < 16, 32 ≤ (CodePoint.ofChar (hexDigit value)).val ∧
      (CodePoint.ofChar (hexDigit value)).val < 127 := by decide
  exact isLegible_ascii (ascii value digit).1 (ascii value digit).2

theorem isLegible_of_mem_hexEscape {kind : Char}
    (kindAscii : isLegible display (.ofChar kind) = true) (width value : ℕ)
    (isIn : point ∈ hexEscape kind width value) : isLegible display point = true := by
  rw [hexEscape, PyStr.ofChars, List.map_cons, List.map_cons, List.mem_cons, List.mem_cons,
    List.map_map, List.mem_map] at isIn
  rcases isIn with rfl | rfl | ⟨place, _, rfl⟩
  · exact isLegible_ascii (by decide) (by decide)
  · exact kindAscii
  · exact isLegible_hexDigit (Nat.mod_lt _ (by decide))

/-- `repr` shows nothing that is not legible. -/
theorem isLegible_of_mem_reprPoint {shown : CodePoint}
    (quoteLegible : isLegible display quoteMark = true)
    (isIn : shown ∈ reprPoint display quoteMark point) : isLegible display shown = true := by
  have ascii {text : String}
      (isAscii : (PyStr.ofString text).all fun point => 32 ≤ point.val ∧ point.val < 127)
      (isIn : shown ∈ PyStr.ofString text) : isLegible display shown = true := by
    have bounds := of_decide_eq_true (List.all_eq_true.mp isAscii shown isIn)
    exact isLegible_ascii bounds.1 bounds.2
  have escape {kind : Char} {width : ℕ} (kindLegible : isLegible display (.ofChar kind) = true)
      (isIn : shown ∈ hexEscape kind width point) : isLegible display shown = true :=
    isLegible_of_mem_hexEscape kindLegible width point isIn
  unfold reprPoint at isIn
  split_ifs at isIn with marked tab newline carriage control printable latin basic
  · rw [List.mem_pair] at isIn
    rcases isIn with rfl | rfl
    · exact isLegible_ascii (by decide) (by decide)
    · rcases marked with rfl | rfl
      · exact quoteLegible
      · exact isLegible_ascii (by decide) (by decide)
  · exact ascii (by decide +kernel) isIn
  · exact ascii (by decide +kernel) isIn
  · exact ascii (by decide +kernel) isIn
  · exact escape (isLegible_ascii (by decide) (by decide)) isIn
  · rw [List.mem_singleton] at isIn
    rw [isIn, isLegible, Bool.or_eq_true, Bool.or_eq_true, decide_eq_true_eq, decide_eq_true_eq]
    by_cases isApostrophe : point = apostrophe
    · exact Or.inr isApostrophe
    · refine Or.inl (Or.inl ?_)
      simp only [isPlain, Bool.and_eq_true, Bool.or_eq_true, decide_eq_true_eq]
      exact ⟨⟨⟨⟨fun same => marked (Or.inr same), isApostrophe⟩, by omega⟩, by omega⟩, printable⟩
  · exact escape (isLegible_ascii (by decide) (by decide)) isIn
  · exact escape (isLegible_ascii (by decide) (by decide)) isIn
  · exact escape (isLegible_ascii (by decide) (by decide)) isIn

end

/-! ## A text -/

/-- The mark at both ends of the `repr` of a text. -/
def markOf (points : PyStr) : CodePoint :=
  if apostrophe ∈ points ∧ .ofChar '"' ∉ points then .ofChar '"' else apostrophe

/-- What stands between the marks. -/
def reprBody (quoteMark : CodePoint) (points : PyStr) : PyStr :=
  points.flatMap (reprPoint display quoteMark)

section

variable {display}

theorem reprText_eq (points : PyStr) : reprText display points =
    markOf points :: (reprBody display (markOf points) points ++ [markOf points]) := rfl

theorem markOf_cases (points : PyStr) :
    markOf points = apostrophe ∨ markOf points = .ofChar '"' ∧ .ofChar '"' ∉ points := by
  unfold markOf
  split
  · rename_i only
    exact Or.inr ⟨rfl, only.2⟩
  · exact Or.inl rfl

theorem markOf_of_mem (isIn : .ofChar '"' ∈ points) : markOf points = apostrophe :=
  if_neg fun only => only.2 isIn

/-- A text with a character that is not legible is not found in its `repr`. -/
theorem isLegible_of_mem_reprText {shown : CodePoint} (isIn : shown ∈ reprText display points) :
    isLegible display shown = true := by
  have markLegible : isLegible display (markOf points) = true := by
    cases markOf_cases points with
    | inl isApostrophe => exact isApostrophe ▸ isLegible_ascii (by decide) (by decide)
    | inr isQuote => exact isQuote.1 ▸ isLegible_ascii (by decide) (by decide)
  rw [reprText_eq, List.mem_cons, List.mem_append, List.mem_singleton, reprBody,
    List.mem_flatMap] at isIn
  rcases isIn with rfl | ⟨point, _, isIn⟩ | rfl
  · exact markLegible
  · exact isLegible_of_mem_reprPoint markLegible isIn
  · exact markLegible

theorem reprBody_append (quoteMark : CodePoint) (first second : PyStr) :
    reprBody display quoteMark (first ++ second) =
      reprBody display quoteMark first ++ reprBody display quoteMark second :=
  List.flatMap_append

theorem reprBody_plain (plain : ∀ point ∈ points, isPlain display point = true)
    (absent : quoteMark ∉ points) : reprBody display quoteMark points = points := by
  induction points with
  | nil => rfl
  | cons point points ih =>
    rw [List.forall_mem_cons] at plain
    rw [List.mem_cons, not_or] at absent
    rw [reprBody, List.flatMap_cons, reprPoint_plain plain.1 (Ne.symm absent.1), ← reprBody,
      ih plain.2 absent.2]
    rfl

theorem reprBody_backslashes (quoteMark : CodePoint) (count : ℕ) :
    reprBody display quoteMark (List.replicate count backslash) =
      List.replicate (count + count) backslash := by
  induction count with
  | zero => rfl
  | succ count ih =>
    have twice : count + 1 + (count + 1) = count + count + 1 + 1 := by omega
    rw [List.replicate_succ, reprBody, List.flatMap_cons, reprPoint_backslash, ← reprBody, ih,
      twice,
      List.replicate_succ, List.replicate_succ]
    rfl

theorem eq_replicate_of_all (all : points.all isBackslash = true) :
    points = List.replicate points.length backslash :=
  List.eq_replicate_of_mem fun point isIn => of_decide_eq_true (List.all_eq_true.mp all point isIn)

theorem exists_of_endsPlain (ends : endsPlain display points = true) :
    ∃ (middle : PyStr) (rest : ℕ), (∀ point ∈ middle, isPlain display point = true) ∧
      points = middle ++ List.replicate rest backslash := by
  induction points with
  | nil => exact ⟨[], 0, nofun, rfl⟩
  | cons point points ih =>
    rw [endsPlain, Bool.or_eq_true, Bool.and_eq_true, Bool.and_eq_true] at ends
    rcases ends with ⟨plain, ends⟩ | ends
    · obtain ⟨middle, rest, allPlain, rfl⟩ := ih ends
      exact ⟨point :: middle, rest, List.forall_mem_cons.mpr ⟨plain, allPlain⟩, rfl⟩
    · refine ⟨[], (point :: points).length, nofun, eq_replicate_of_all ?_⟩
      rw [List.all_cons, ends.1, ends.2]
      rfl

/-- The parts of a text that is shown. -/
theorem exists_of_isShown {value : PyStr} (shown : isShown display value = true) :
    ∃ (front : ℕ) (quoted middle : PyStr) (rest : ℕ), (quoted = [] ∨ quoted = [apostrophe]) ∧
      (∀ point ∈ middle, isPlain display point = true) ∧
      value = List.replicate front backslash ++ quoted ++ middle ++ List.replicate rest
      backslash := by
  have inner : ∃ quoted, (quoted = [] ∨ quoted = [apostrophe]) ∧
      value.dropWhile isBackslash = quoted ++ withoutApostrophe (value.dropWhile isBackslash) := by
    cases value.dropWhile isBackslash with
    | nil => exact ⟨[], Or.inl rfl, rfl⟩
    | cons point points =>
      rw [withoutApostrophe]
      split
      · rename_i isApostrophe
        exact ⟨[apostrophe], Or.inr rfl, by rw [isApostrophe]; rfl⟩
      · exact ⟨[], Or.inl rfl, rfl⟩
  obtain ⟨quoted, isQuoted, inner⟩ := inner
  obtain ⟨middle, rest, plain, parts⟩ := exists_of_endsPlain shown
  refine ⟨(value.takeWhile isBackslash).length, quoted, middle, rest, isQuoted, plain, ?_⟩
  rw [← eq_replicate_of_all List.all_takeWhile, List.append_assoc, ← parts, List.append_assoc,
    ← inner,
    List.takeWhile_append_dropWhile]

/-- Backslashes with an apostrophe behind them are still there when both have become more. -/
theorem suffix_reprBody_quoted {mark : CodePoint} (isMark : mark = apostrophe ∨ mark = .ofChar '"')
    (count : ℕ) :
    List.replicate count backslash ++ [apostrophe] <:+
      reprBody display mark (List.replicate count backslash ++ [apostrophe]) := by
  rw [reprBody_append, reprBody_backslashes]
  rcases isMark with rfl | rfl
  · have shown : reprBody display apostrophe [apostrophe] = [backslash] ++ [apostrophe] :=
      (reprPoint_self apostrophe : reprPoint display apostrophe apostrophe = _)
    have twoParts : List.replicate (count + count) backslash ++ [backslash] =
        List.replicate (count + 1) backslash ++ List.replicate count backslash := by
      rw [← List.replicate_succ', List.replicate_append_replicate, Nat.add_right_comm]
    rw [shown, ← List.append_assoc, twoParts, List.append_assoc]
    exact List.suffix_append _ _
  · have shown : reprBody display (.ofChar '"') [apostrophe] = [apostrophe] := rfl
    rw [shown, ← List.replicate_append_replicate, List.append_assoc]
    exact List.suffix_append _ _

/-- A text that is shown is found among what stands between the marks. -/
theorem infix_reprBody_of_isShown {value : PyStr} (shown : isShown display value = true)
    {mark : CodePoint} (isMark : mark = apostrophe ∨ mark = .ofChar '"' ∧ .ofChar '"' ∉ value) :
    value <:+: reprBody display mark value := by
  obtain ⟨front, quoted, middle, rest, isQuoted, plain, rfl⟩ := exists_of_isShown shown
  have absent : mark ∉ middle := by
    intro isIn
    rcases isMark with rfl | ⟨rfl, notIn⟩
    · exact absurd (plain _ isIn) (by simp [isPlain])
    · exact notIn (by simp [isIn])
  have quotedShown : List.replicate front backslash ++ quoted <:+
      reprBody display mark (List.replicate front backslash ++ quoted) := by
    rcases isQuoted with rfl | rfl
    · rw [List.append_nil, reprBody_backslashes, ← List.replicate_append_replicate]
      exact List.suffix_append _ _
    · exact suffix_reprBody_quoted (isMark.imp_right And.left) front
  obtain ⟨more, quotedShown⟩ := quotedShown
  refine ⟨more, List.replicate rest backslash, ?_⟩
  rw [reprBody_append, reprBody_append, ← quotedShown, reprBody_plain plain absent,
    reprBody_backslashes, ← List.replicate_append_replicate]
  simp only [List.append_assoc]

/-- A text that is shown is found in the `repr` of every text that it occurs in. -/
theorem infix_reprText_of_isShown {value : PyStr} (shown : isShown display value = true)
    {text : PyStr} (occurs : value <:+: text) : value <:+: reprText display text := by
  obtain ⟨front, rest, rfl⟩ := occurs
  have isMark := (markOf_cases (front ++ value ++ rest)).imp_right fun isQuote =>
    And.intro isQuote.1 fun isIn => isQuote.2
      (List.mem_append_left _ (List.mem_append_right _ isIn))
  rw [reprText_eq, reprBody_append, reprBody_append]
  refine List.infix_cons ((infix_reprBody_of_isShown shown isMark).trans ?_)
  exact (List.infix_append _ _ _).trans (List.prefix_append _ _).isInfix

end

/-! ## Runs of backslashes -/

/-- Each other character with the number of backslashes in front of it, after some that came
before. -/
def runsFrom : ℕ → PyStr → List (ℕ × CodePoint)
  | _, [] => []
  | count, point :: points =>
    if point = backslash then runsFrom (count + 1) points
    else (count, point) :: runsFrom 0 points

/-- How many backslashes stand at the end. -/
def lastRun : ℕ → PyStr → ℕ
  | count, [] => count
  | count, point :: points => lastRun (if point = backslash then count + 1 else 0) points

/-- What becomes of a character and the backslashes in front of it between apostrophes. -/
def escapedRun (run : ℕ × CodePoint) : ℕ × CodePoint :=
  (2 * run.1 + (if run.2 = apostrophe then 1 else 0), run.2)

theorem runsFrom_append (count : ℕ) (first second : PyStr) : runsFrom count (first ++ second) =
      runsFrom count first ++ runsFrom (lastRun count first) second := by
  induction first generalizing count with
  | nil => rfl
  | cons point points ih =>
    rw [List.cons_append, runsFrom, runsFrom, lastRun]
    split
    · exact ih (count + 1)
    · rw [ih 0, List.cons_append]

/-- The backslashes in front change the first run only. -/
theorem runsFrom_congr (first second : ℕ) (points : PyStr) :
    (runsFrom first points).map Prod.snd = (runsFrom second points).map Prod.snd ∧
      (runsFrom first points).tail = (runsFrom second points).tail := by
  induction points generalizing first second with
  | nil => exact ⟨rfl, rfl⟩
  | cons point points ih =>
    rw [runsFrom, runsFrom]
    split
    · exact ih (first + 1) (second + 1)
    · exact ⟨rfl, rfl⟩

/-- A text within another has its runs there, but for the first. -/
theorem exists_of_infix {value text : PyStr} (occurs : value <:+: text) :
    ∃ before runs after, runsFrom 0 text = before ++ runs ++ after ∧
      runs.map Prod.snd = (runsFrom 0 value).map Prod.snd ∧
        runs.tail = (runsFrom 0 value).tail := by
  obtain ⟨front, rest, rfl⟩ := occurs
  rw [runsFrom_append, runsFrom_append]
  exact ⟨_, _, _, rfl, runsFrom_congr (lastRun 0 front) 0 value⟩

section

variable {display}

theorem runsFrom_reprBody (legible : points.all (isLegible display) = true) (count : ℕ) :
    runsFrom (2 * count) (reprBody display apostrophe points) =
      (runsFrom count points).map escapedRun := by
  induction points generalizing count with
  | nil => rfl
  | cons point points ih =>
    rw [List.all_cons, Bool.and_eq_true] at legible
    rw [reprBody, List.flatMap_cons, ← reprBody, runsFrom]
    by_cases isBackslash : point = backslash
    · rw [if_pos isBackslash, ← ih legible.2 (count + 1), isBackslash, reprPoint_backslash]
      rfl
    · rw [if_neg isBackslash, List.map_cons, ← ih legible.2 0]
      by_cases isApostrophe : point = apostrophe
      · rw [isApostrophe, reprPoint_self]
        rfl
      · have plain : isPlain display point = true := by
          simpa [isLegible, isBackslash, isApostrophe] using legible.1
        rw [reprPoint_plain plain isApostrophe, List.singleton_append, runsFrom, if_neg isBackslash,
          escapedRun, if_neg isApostrophe]
        rfl

theorem fst_le_escapedRun (run : ℕ × CodePoint) : 2 * run.1 ≤ (escapedRun run).1 :=
    Nat.le_add_right _ _

theorem all_isBackslash_of_runs {count : ℕ}
    (unchanged : ∀ run ∈ runsFrom (count + 1) points, escapedRun run = run) :
    points.all isBackslash = true := by
  induction points generalizing count with
  | nil => rfl
  | cons point points ih =>
    rw [runsFrom] at unchanged
    split at unchanged
    · rename_i same
      rw [List.all_cons, ih unchanged, isBackslash, decide_eq_true same]
      rfl
    · have grows := fst_le_escapedRun (count + 1, point)
      rw [unchanged _ List.mem_cons_self] at grows
      omega

/-- Where no backslash and no apostrophe is escaped before another character, there is none. -/
theorem endsPlain_of_runs (legible : points.all (isLegible display) = true)
    (unchanged : ∀ run ∈ runsFrom 0 points, escapedRun run = run) :
    endsPlain display points = true := by
  induction points with
  | nil => rfl
  | cons point points ih =>
    rw [List.all_cons, Bool.and_eq_true] at legible
    rw [runsFrom] at unchanged
    rw [endsPlain, Bool.or_eq_true, Bool.and_eq_true, Bool.and_eq_true]
    split at unchanged
    · rename_i isBackslash
      exact Or.inr ⟨decide_eq_true isBackslash, all_isBackslash_of_runs unchanged⟩
    · rename_i notBackslash
      rw [List.forall_mem_cons] at unchanged
      refine Or.inl ⟨?_, ih legible.2 unchanged.2⟩
      have notApostrophe : point ≠ apostrophe := by
        intro isApostrophe
        have same := congrArg Prod.fst unchanged.1
        rw [escapedRun, if_pos isApostrophe] at same
        exact Nat.noConfusion same
      simpa [isLegible, notBackslash, notApostrophe] using legible.1

theorem tail_runsFrom (count : ℕ) (points : PyStr) :
    (runsFrom count points).tail = runsFrom 0 (points.dropWhile isBackslash).tail := by
  induction points generalizing count with
  | nil => rfl
  | cons point points ih =>
    rw [runsFrom, List.dropWhile_cons]
    split
    · rename_i same
      rw [isBackslash, if_pos (decide_eq_true same)]
      exact ih (count + 1)
    · rename_i differs
      rw [if_neg (by simpa [isBackslash] using differs)]
      rfl

/-- A legible text that is not shown has something to escape behind its first character. -/
theorem isShown_of_runs {value : PyStr} (legible : value.all (isLegible display) = true)
    (unchanged : ∀ run ∈ (runsFrom 0 value).tail, escapedRun run = run) :
    isShown display value = true := by
  rw [tail_runsFrom] at unchanged
  have innerLegible : (value.dropWhile isBackslash).all (isLegible display) = true := by
    rw [List.all_eq_true] at legible ⊢
    exact fun point isIn => legible point ((List.dropWhile_suffix _).subset isIn)
  rw [isShown]
  cases isInner : value.dropWhile isBackslash with
  | nil => rfl
  | cons point points =>
    rw [isInner, List.tail_cons] at unchanged
    rw [isInner, List.all_cons, Bool.and_eq_true] at innerLegible
    have ends := endsPlain_of_runs innerLegible.2 unchanged
    rw [withoutApostrophe]
    split
    · exact ends
    · rename_i notApostrophe
      have notBackslash : point ≠ backslash := by
        have stays := List.head?_dropWhile_not isBackslash value
        rw [isInner] at stays
        exact of_decide_eq_false stays
      rw [endsPlain, Bool.or_eq_true, Bool.and_eq_true]
      refine Or.inl ⟨?_, ends⟩
      simpa [isLegible, notBackslash, notApostrophe] using innerLegible.1

end

/-! ## A text around a value -/

/-- Between letters that do not occur at its ends a text is found only where it stands. -/
theorem length_eq_of_framed {α : Type} {mark letter quoted behind : α} {chars before after : List α}
    (two : 2 ≤ chars.length) (notFirst : letter ∉ chars.take 2)
    (notLast : behind ∉ chars.drop (chars.length - 2))
    (framed : before ++ chars ++ after =
      mark :: letter :: quoted :: letter :: (chars ++ [behind, mark])) : before.length = 4 := by
  have lengths := congrArg List.length framed
  simp only [List.length_append, List.length_cons, List.length_nil] at lengths
  have found (offset : ℕ) (within : offset < chars.length) : chars[offset]? =
      (mark :: letter :: quoted :: letter :: (chars ++ [behind, mark]))[before.length +
        offset]? := by
    rw [← framed, List.append_assoc, List.getElem?_append_right (Nat.le_add_right _ _),
      Nat.add_sub_cancel_left, List.getElem?_append_left within]
  have noLetter (offset : ℕ) (early : offset < 2) : chars[offset]? ≠ some letter := by
    intro isLetter
    rw [← List.getElem?_take_of_lt early] at isLetter
    exact notFirst (List.mem_of_getElem? isLetter)
  have noBehind (offset : ℕ) : chars[chars.length - 2 + offset]? ≠ some behind := by
    intro isBehind
    rw [← List.getElem?_drop] at isBehind
    exact notLast (List.mem_of_getElem? isBehind)
  have last : (mark :: letter :: quoted :: letter :: (chars ++ [behind, mark]))[4 + chars.length]? =
      some behind := by
    rw [Nat.add_comm]
    simp
  have few : before.length = 0 ∨ before.length = 1 ∨ before.length = 2 ∨ before.length = 3 ∨
      before.length = 4 ∨ before.length = 5 ∨ before.length = 6 := by omega
  rcases few with few | few | few | few | few | few | few
  · exact absurd (by rw [found 1 (by omega), few]; rfl) (noLetter 1 (by omega))
  · exact absurd (by rw [found 0 (by omega), few]; rfl) (noLetter 0 (by omega))
  · exact absurd (by rw [found 1 (by omega), few]; rfl) (noLetter 1 (by omega))
  · exact absurd (by rw [found 0 (by omega), few]; rfl) (noLetter 0 (by omega))
  · exact few
  · refine absurd ?_ (noBehind 1)
    rw [found _ (by omega), few, ← last]
    exact congrArg _ (by omega)
  · refine absurd ?_ (noBehind 0)
    rw [found _ (by omega), few, ← last]
    exact congrArg _ (by omega)

section

variable {display}

theorem exists_letter {avoided : PyStr} (few : avoided.length < 5) :
    ∃ letter, isPlain display letter = true ∧ letter ∉ avoided := by
  by_contra none
  push Not at none
  have within : PyStr.ofString "abcde" ⊆ avoided := by
    intro letter isLetter
    refine none letter ?_
    have ascii := List.all_eq_true.mp (by decide +kernel : (PyStr.ofString "abcde").all fun point =>
      decide (97 ≤ point.val ∧ point.val < 102)) letter isLetter
    have bounds := of_decide_eq_true ascii
    refine isPlain_ascii (by omega) (by omega) ?_ ?_
    · rintro rfl
      exact absurd bounds (by decide)
    · rintro rfl
      exact absurd bounds (by decide)
  have count := (List.subperm_of_subset (by decide +kernel : (PyStr.ofString "abcde").Nodup)
    within).length_le
  have five : (PyStr.ofString "abcde").length = 5 := by decide
  omega

theorem lastRun_concat (count : ℕ) (points : PyStr) (differs : point ≠ backslash) :
    lastRun count (points ++ [point]) = 0 := by
  induction points generalizing count with
  | nil => exact if_neg differs
  | cons first points ih => exact ih _

theorem ne_backslash_of_plain (plain : isPlain display point = true) : point ≠ backslash := by
  rintro rfl
  simp [isPlain] at plain

theorem ne_apostrophe_of_plain (plain : isPlain display point = true) : point ≠ apostrophe := by
  rintro rfl
  simp [isPlain] at plain

theorem runsFrom_cons (differs : point ≠ backslash) (count : ℕ) (points : PyStr) :
    runsFrom count (point :: points) = (count, point) :: runsFrom 0 points := by
  rw [runsFrom, if_neg differs]

theorem escapedRun_zero (differs : point ≠ apostrophe) : escapedRun (0, point) = (0, point) := by
  rw [escapedRun, if_neg differs]
  rfl

/-- The runs of the `repr` of a text with a quote in it. -/
theorem runsFrom_reprText {value : PyStr} (legible : value.all (isLegible display) = true)
    {letter behind : CodePoint} (plain : isPlain display letter = true)
    (behindPlain : isPlain display behind = true) :
    ∃ last, runsFrom 0 (reprText display (letter :: .ofChar '"' :: letter :: (value ++ [behind]))) =
      (0, apostrophe) :: (0, letter) :: (0, .ofChar '"') :: (0, letter) ::
        ((runsFrom 0 value).map escapedRun ++ [(last, behind), (0, apostrophe)]) := by
  have quotePlain : isPlain display (.ofChar '"') = true :=
    isPlain_ascii (by decide) (by decide) (by decide) (by decide)
  have plainLegible {point : CodePoint} (plain : isPlain display point = true) :
      isLegible display point = true := by
    rw [isLegible, plain]
    rfl
  have whole :
      (letter :: .ofChar '"' :: letter :: (value ++ [behind])).all (isLegible display) = true := by
    simp [legible, plainLegible plain, plainLegible quotePlain, plainLegible behindPlain]
  have ends : lastRun 0 (reprBody display apostrophe
      (letter :: .ofChar '"' :: letter :: (value ++ [behind]))) = 0 := by
    rw [← List.cons_append, ← List.cons_append, ← List.cons_append, reprBody_append, reprBody,
      reprBody, List.flatMap_singleton, reprPoint_plain behindPlain
      (ne_apostrophe_of_plain behindPlain)]
    exact lastRun_concat 0 _ (ne_backslash_of_plain behindPlain)
  rw [reprText_eq, markOf_of_mem (List.mem_cons_of_mem _ List.mem_cons_self),
    runsFrom_cons (by decide), runsFrom_append, ends, runsFrom_reprBody whole 0,
    runsFrom_cons (ne_backslash_of_plain plain), runsFrom_cons (by decide),
    runsFrom_cons (ne_backslash_of_plain plain), runsFrom_append,
    runsFrom_cons (ne_backslash_of_plain behindPlain), runsFrom_cons (by decide)]
  refine ⟨(escapedRun (lastRun 0 value, behind)).1, ?_⟩
  simp only [List.map_cons, List.map_append, escapedRun_zero (ne_apostrophe_of_plain plain),
    escapedRun_zero (ne_apostrophe_of_plain quotePlain)]
  simp [runsFrom, escapedRun]

/-- A legible text that is not shown occurs in a text whose `repr` does not have it. -/
theorem exists_not_infix_reprText {value : PyStr} (notShown : isShown display value = false) :
    ∃ text, value <:+: text ∧ ¬ value <:+: reprText display text := by
  by_cases legible : value.all (isLegible display) = true
  · -- letters around the value keep it from being found at another place
    obtain ⟨letter, plain, notFirst⟩ : ∃ letter, isPlain display letter = true ∧
        letter ∉ ((runsFrom 0 value).map Prod.snd).take 2 :=
      exists_letter (by rw [List.length_take]; omega)
    obtain ⟨behind, behindPlain, notLast⟩ : ∃ behind, isPlain display behind = true ∧
        behind ∉ ((runsFrom 0 value).map Prod.snd).drop
          (((runsFrom 0 value).map Prod.snd).length - 2) :=
      exists_letter (by rw [List.length_drop]; omega)
    refine ⟨letter :: .ofChar '"' :: letter :: (value ++ [behind]),
      ⟨[letter, .ofChar '"', letter], [behind], rfl⟩, fun found => ?_⟩
    obtain ⟨before, runs, after, parts, sameChars, sameTail⟩ := exists_of_infix found
    obtain ⟨last, framed⟩ := runsFrom_reprText legible plain behindPlain
    have two : 2 ≤ ((runsFrom 0 value).map Prod.snd).length := by
      by_contra short
      have noTail : (runsFrom 0 value).tail = [] := by
        rw [← List.length_eq_zero_iff, List.length_tail]
        rw [List.length_map] at short
        omega
      have shown : isShown display value = true :=
        isShown_of_runs legible (by rw [noTail]; exact nofun)
      exact Bool.false_ne_true (notShown.symm.trans shown)
    have chars := congrArg (List.map Prod.snd) (parts.symm.trans framed)
    simp only [List.map_append, List.map_cons, List.map_map, sameChars] at chars
    have position : (before.map Prod.snd).length = 4 :=
      length_eq_of_framed two notFirst notLast chars
    have inPlace : runs = (runsFrom 0 value).map escapedRun := by
      have sameLength := congrArg List.length sameChars
      rw [List.length_map, List.length_map] at sameLength
      rw [List.length_map] at position
      rw [framed, List.append_assoc] at parts
      have inTwo : before ++ (runs ++ after) = [(0, apostrophe), (0, letter), (0, .ofChar '"'),
          (0, letter)] ++
            ((runsFrom 0 value).map escapedRun ++ [(last, behind), (0, apostrophe)]) :=
        parts.symm
      have inRest := List.append_inj_right inTwo position
      exact List.append_inj_left inRest (by rw [List.length_map, sameLength])
    rw [inPlace, ← List.map_tail] at sameTail
    have unchanged : ∀ run ∈ (runsFrom 0 value).tail, escapedRun run = run :=
      List.map_inj_left.mp (sameTail.trans (List.map_id _).symm)
    exact Bool.false_ne_true (notShown.symm.trans (isShown_of_runs legible unchanged))
  · refine ⟨value, List.infix_rfl, fun found => legible ?_⟩
    rw [List.all_eq_true]
    exact fun point isIn => isLegible_of_mem_reprText (found.subset isIn)

/-- A text is found in the `repr` of every text that it occurs in exactly when it is shown. -/
theorem isShown_iff {value : PyStr} : isShown display value = true ↔
    ∀ text, value <:+: text → value <:+: reprText display text := by
  constructor
  · exact fun shown text occurs => infix_reprText_of_isShown shown occurs
  · intro found
    by_contra notShown
    obtain ⟨text, occurs, missing⟩ := exists_not_infix_reprText (Bool.eq_false_iff.mpr notShown)
    exact missing (found text occurs)

end

end Reperio.Python
