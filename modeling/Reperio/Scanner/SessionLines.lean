import Mathlib.Data.List.TakeWhile
import Reperio.Encoding.Breaks
import Reperio.Scanner.PhotorecSession

/-!
# The lines of a session

`scanner/photorec_resume.py`: a session is validated in the lines that
`splitlines` finds, which ends a line at more than the line feeds at which
PhotoRec ends its own. The two readings are compared here.
-/

namespace Reperio.Scanner.Photorec

open Python Encoding

/-! ## The lines of the validation -/

def IsSessionRange (line : PyStr) : Prop :=
  ∃ start stop, sessionRange? line = some (start, stop) ∧ start ≤ stop ∧ stop ≤ maxRangeValue

theorem validateSessionRanges_eq_ok {lines : List PyStr}
    (valid : validateSessionRanges lines = .ok ()) : ∀ line ∈ lines, IsSessionRange line := by
  induction lines with
  | nil => exact fun _ isLine => absurd isLine List.not_mem_nil
  | cons line lines ih =>
    rw [validateSessionRanges] at valid
    cases isRange : sessionRange? line with
    | none =>
      rw [isRange] at valid
      cases valid
    | some range =>
      rcases range with ⟨start, stop⟩
      rw [isRange] at valid
      dsimp only at valid
      split at valid
      · cases valid
      · rename_i bounds
        refine List.forall_mem_cons.mpr ⟨⟨start, stop, isRange, ?_, ?_⟩, ih valid⟩
        · omega
        · omega

/-- What the lines of a session must look like. -/
structure AcceptedLines (timestamp source command : PyStr) (ranges : List PyStr) : Prop where
  isTimestamp : isTimestamp timestamp = true
  namesSource : .ofChar ' ' ∈ source
  isCommand : command.strip ≠ []
  areRanges : ∀ line ∈ ranges, IsSessionRange line

variable {source : PyStr}

theorem validateSessionText_eq_ok {text : PyStr} (valid : validateSessionText text = .ok source) :
    ∃ timestamp command ranges, splitLines text = timestamp :: source :: command :: ranges ∧
      AcceptedLines timestamp source command ranges := by
  unfold validateSessionText at valid
  split at valid
  · rename_i timestamp line command ranges isSplit
    split at valid
    · cases valid
    rename_i isTimestamp
    split at valid
    · cases valid
    rename_i namesSource
    split at valid
    · cases valid
    rename_i isCommand
    split at valid
    · cases valid
    split at valid
    · cases valid
    rcases bind_eq_ok valid with ⟨_, areRanges, valid⟩
    split at valid
    · cases valid
    cases valid
    refine ⟨timestamp, command, ranges, isSplit, ?_, ?_, ?_, validateSessionRanges_eq_ok areRanges⟩
    · simpa using isTimestamp
    · rw [Bool.or_eq_true, not_or, decide_eq_true_iff, not_not] at namesSource
      exact namesSource.left
    · rwa [List.isEmpty_iff] at isCommand
  · cases valid

/-! ## The lines of the tool -/

def isLineFeed (point : CodePoint) : Bool := decide (point = .ofChar '\n')

theorem isLineBreak_of_isLineFeed (point : CodePoint) (isFeed : isLineFeed point = true) :
    isLineBreak point = true := by
  rw [of_decide_eq_true isFeed]
  decide

/-- Lines end at line feeds, of which each may have a carriage return before it. -/
def toolLines (text : PyStr) : List PyStr := splitBreaks isLineFeed (joinBreaks text)

/-- What the lines of a session are to PhotoRec. -/
structure ToolReads (source : PyStr) (lines : List PyStr) : Prop where
  timestamp : ∃ line, lines[0]? = some line ∧ isTimestamp line = true
  source : ∃ line, lines[1]? = some line ∧ .ofChar ' ' ∈ line ∧ firstWord line = source
  command : ∃ line, lines[2]? = some line ∧ line.strip ≠ []
  someRange : lines.drop 3 ≠ []
  areRanges : ∀ line ∈ lines.drop 3, IsSessionRange line

/-- The text of the session has these lines and names this source, as the tool reads it. -/
def ToolAgrees (data : List UInt8) : Prop :=
  ∃ text source, sessionText data = .ok text ∧ sessionSource data = .ok source ∧
    ToolReads source (toolLines text)

/-- There are four lines, and breaks that are no line feeds are in the second and the third only. -/
structure BreaksInMiddle (lines : List PyStr) : Prop where
  enough : 4 ≤ lines.length
  unbroken : ∀ line ∈ lines.take 1 ++ lines.drop 3, ∀ point ∈ line, isLineBreak point = false

def KeepsLines (data : List UInt8) : Prop :=
  ∃ text, sessionText data = .ok text ∧ BreaksInMiddle (toolLines text)

theorem splitAtBreaks_eq_splitBreaks (text : PyStr) :
    splitAtBreaks text = splitBreaks isLineBreak text := by
  induction text with
  | nil => rfl
  | cons point text ih =>
    rw [splitAtBreaks, splitBreaks, ih]
    cases splitBreaks isLineBreak text <;> rfl

/-! ### Lines without breaks -/

theorem isLineBreak_of_isAsciiDigit {point : CodePoint} (isDigit : isAsciiDigit point = true) :
    isLineBreak point = false := by
  rw [isAsciiDigit, Bool.and_eq_true, decide_eq_true_iff, decide_eq_true_iff] at isDigit
  rw [isLineBreak, decide_eq_false_iff_not]
  intro isBreak
  simp only [List.mem_cons, List.not_mem_nil, or_false] at isBreak
  omega

theorem unbroken_of_isTimestamp {line : PyStr} (isStamp : isTimestamp line = true) :
    ∀ point ∈ line, isLineBreak point = false := by
  cases line with
  | nil => exact fun _ isPoint => absurd isPoint List.not_mem_nil
  | cons point digits =>
    simp only [isTimestamp, Bool.and_eq_true, decide_eq_true_iff, List.all_eq_true] at isStamp
    rcases isStamp with ⟨⟨⟨rfl, _⟩, _⟩, areDigits⟩
    refine List.forall_mem_cons.mpr ⟨by decide, fun point isPoint => ?_⟩
    exact isLineBreak_of_isAsciiDigit (areDigits point isPoint)

theorem eq_append_of_partition {mark : Char} {text before behind : PyStr}
    (parted : partition mark text = some (before, behind)) :
    text = before ++ .ofChar mark :: behind := by
  unfold partition at parted
  induction text generalizing before with
  | nil => cases parted
  | cons point text ih =>
    by_cases isMark : point = .ofChar mark
    · rw [List.dropWhile_cons_of_neg (by simpa using isMark),
        List.takeWhile_cons_of_neg (by simpa using isMark)] at parted
      cases parted
      rw [isMark, List.nil_append]
    · rw [List.dropWhile_cons_of_pos (by simpa using isMark),
        List.takeWhile_cons_of_pos (by simpa using isMark)] at parted
      cases rest : text.dropWhile fun point => point ≠ .ofChar mark with
      | nil =>
        rw [rest] at parted
        cases parted
      | cons next others =>
        rw [rest] at parted ih
        cases parted
        rw [List.cons_append, ← ih rfl]

/-- A range is written in digits, with a mark between them. -/
theorem exists_of_isSessionRange {line : PyStr} (isRange : IsSessionRange line) :
    ∃ start stop, line = start ++ .ofChar '-' :: stop ∧ start ≠ [] ∧
      (∀ point ∈ start, isAsciiDigit point = true) ∧ ∀ point ∈ stop, isAsciiDigit point = true := by
  rcases isRange with ⟨_, _, isRange, _⟩
  unfold sessionRange? at isRange
  cases parted : partition '-' line with
  | none =>
    rw [parted] at isRange
    cases isRange
  | some halves =>
    rcases halves with ⟨start, stop⟩
    rw [parted, Option.bind_eq_bind, Option.bind_some] at isRange
    dsimp only at isRange
    split at isRange
    · cases isRange
    rename_i areDigits
    simp only [Bool.or_eq_true, not_or, List.isEmpty_iff, Bool.not_eq_true', Bool.not_eq_false,
      List.all_eq_true] at areDigits
    exact ⟨start, stop, eq_append_of_partition parted, areDigits.1.1.1, areDigits.1.2, areDigits.2⟩

theorem unbroken_of_isSessionRange {line : PyStr} (isRange : IsSessionRange line) :
    ∀ point ∈ line, isLineBreak point = false := by
  rcases exists_of_isSessionRange isRange with ⟨start, stop, rfl, _, areStart, areStop⟩
  intro point isPoint
  rcases List.mem_append.mp isPoint with inStart | behind
  · exact isLineBreak_of_isAsciiDigit (areStart point inStart)
  · rcases List.mem_cons.mp behind with rfl | inStop
    · decide
    · exact isLineBreak_of_isAsciiDigit (areStop point inStop)

/-! ### Blank lines -/

theorem strip_ne_nil_iff {line : PyStr} :
    line.strip ≠ [] ↔ ∃ point ∈ line, point.isSpace = false := by
  rw [PyStr.strip, ne_eq, List.reverse_eq_nil_iff, List.dropWhile_eq_nil_iff, not_forall]
  constructor
  · rintro ⟨point, other⟩
    rw [Classical.not_imp, List.mem_reverse] at other
    refine ⟨point, (List.dropWhile_sublist _).mem other.left, ?_⟩
    simpa using other.right
  · rintro ⟨point, isPoint, solid⟩
    have parts := List.takeWhile_append_dropWhile (p := CodePoint.isSpace) (l := line)
    rw [← parts, List.mem_append] at isPoint
    rcases isPoint with blank | inRest
    · rw [List.mem_takeWhile_imp blank] at solid
      cases solid
    · refine ⟨point, ?_⟩
      rw [Classical.not_imp, List.mem_reverse, solid]
      exact ⟨inRest, Bool.false_ne_true⟩

theorem strip_ne_nil_of_isPrefix {line longer : PyStr} (isPrefix : line <+: longer)
    (notBlank : line.strip ≠ []) : longer.strip ≠ [] := by
  rw [strip_ne_nil_iff] at notBlank ⊢
  rcases notBlank with ⟨point, isPoint, solid⟩
  exact ⟨point, isPrefix.subset isPoint, solid⟩

theorem isSpace_of_isAsciiDigit {point : CodePoint} (isDigit : isAsciiDigit point = true) :
    point.isSpace = false := by
  rw [isAsciiDigit, Bool.and_eq_true, decide_eq_true_iff, decide_eq_true_iff] at isDigit
  rw [CodePoint.isSpace, Bool.or_eq_false_iff, Bool.and_eq_false_iff, decide_eq_false_iff_not,
    decide_eq_false_iff_not]
  refine ⟨fun isSpace => ?_, Or.inl (by omega)⟩
  simp only [List.mem_cons, List.not_mem_nil, or_false] at isSpace
  omega

theorem strip_ne_nil_of_isSessionRange {line : PyStr} (isRange : IsSessionRange line) :
    line.strip ≠ [] := by
  rcases exists_of_isSessionRange isRange with ⟨start, stop, rfl, someStart, areStart, _⟩
  rcases List.exists_mem_of_ne_nil start someStart with ⟨point, isPoint⟩
  exact strip_ne_nil_iff.mpr
    ⟨point, List.mem_append_left _ isPoint, isSpace_of_isAsciiDigit (areStart point isPoint)⟩

theorem firstWord_of_isPrefix {line longer : PyStr} (isPrefix : line <+: longer)
    (hasBlank : .ofChar ' ' ∈ line) : firstWord longer = firstWord line := by
  rcases isPrefix with ⟨rest, rfl⟩
  unfold firstWord
  induction line with
  | nil => cases hasBlank
  | cons point line ih =>
    by_cases isBlank : point = .ofChar ' '
    · rw [List.cons_append, List.takeWhile_cons_of_neg (by simpa using isBlank),
        List.takeWhile_cons_of_neg (by simpa using isBlank)]
    · have later := (List.mem_cons.mp hasBlank).resolve_left (Ne.symm isBlank)
      rw [List.cons_append, List.takeWhile_cons_of_pos (by simpa using isBlank),
        List.takeWhile_cons_of_pos (by simpa using isBlank), ih later]

/-! ## Agreement -/

theorem ToolReads.breaksInMiddle {lines : List PyStr} (reads : ToolReads source lines) :
    BreaksInMiddle lines := by
  constructor
  · by_contra tooFew
    exact reads.someRange (List.drop_eq_nil_of_le (by omega))
  · intro line isLine
    rcases List.mem_append.mp isLine with isFirst | later
    · rcases reads.timestamp with ⟨first, hasFirst, isTimestamp⟩
      rw [List.take_one, List.head?_eq_getElem?, hasFirst, Option.toList_some,
        List.mem_singleton] at isFirst
      rw [isFirst]
      exact unbroken_of_isTimestamp isTimestamp
    · exact unbroken_of_isSessionRange (reads.areRanges line later)

/-- Where the other breaks are in the second and the third line only, the validation has seen
what the tool reads: these two are cut, and the lines after them are not. -/
theorem toolReads_of_breaksInMiddle {text timestamp command : PyStr} {ranges : List PyStr}
    (isSplit : splitLines text = timestamp :: source :: command :: ranges)
    (accepted : AcceptedLines timestamp source command ranges)
    (middle : BreaksInMiddle (toolLines text)) : ToolReads (firstWord source) (toolLines text) := by
  rcases middle with ⟨enough, unbroken⟩
  match areLines : toolLines text with
  | [] | [_] | [_, _] | [_, _, _] =>
    rw [areLines] at enough
    simp at enough
  | first :: second :: third :: fourth :: others =>
    rw [areLines] at unbroken
    rcases exists_eq_append_of_splitBreaks areLines with ⟨feed, rest, isFeed, body, areLines⟩
    have isBreak := isLineBreak_of_isLineFeed feed isFeed
    rcases exists_eq_append_of_splitBreaks areLines with ⟨feed', rest', isFeed', body', areLines⟩
    have isBreak' := isLineBreak_of_isLineFeed feed' isFeed'
    rcases exists_eq_append_of_splitBreaks
      areLines with ⟨feed'', rest'', isFeed'', body'', areLines⟩
    have isBreak'' := isLineBreak_of_isLineFeed feed'' isFeed''
    have whole : splitBreaks isLineBreak rest'' = fourth :: others := by
      rw [← areLines]
      apply splitBreaks_eq_of_unbroken isLineBreak_of_isLineFeed
      rw [areLines]
      exact fun line isLine => unbroken line (List.mem_append_right _ isLine)
    rcases exists_splitBreaks_append isLineBreak first with ⟨_, _, _, uncut, cut⟩
    rcases uncut (unbroken first (List.mem_append_left _ List.mem_cons_self)) with
      ⟨isWhole, noPieces⟩
    rw [isWhole, noPieces] at cut
    rcases exists_splitBreaks_append isLineBreak second with ⟨piece', pieces', isPrefix, _, cut'⟩
    rcases exists_splitBreaks_append isLineBreak third with ⟨piece'', pieces'', isPrefix', _, cut''⟩
    rw [splitLines, splitAtBreaks_eq_splitBreaks, body, cut feed rest isBreak, body',
      cut' feed' rest' isBreak', body'', cut'' feed'' rest'' isBreak'', whole,
      List.nil_append] at isSplit
    rcases List.cons.inj isSplit with ⟨rfl, behindFirst⟩
    rcases List.cons.inj behindFirst with ⟨rfl, behind⟩
    refine ⟨⟨_, rfl, accepted.isTimestamp⟩, ⟨_, rfl, isPrefix.subset accepted.namesSource,
      firstWord_of_isPrefix isPrefix accepted.namesSource⟩, ⟨_, rfl, ?_⟩, List.cons_ne_nil _ _, ?_⟩
    · -- the third line begins with the command, or with a range
      cases pieces' with
      | nil =>
        rcases List.cons.inj behind with ⟨rfl, _⟩
        exact strip_ne_nil_of_isPrefix isPrefix' accepted.isCommand
      | cons cutOff pieces' =>
        rcases List.cons.inj behind with ⟨_, rfl⟩
        apply strip_ne_nil_of_isPrefix isPrefix'
        apply strip_ne_nil_of_isSessionRange
        apply accepted.areRanges
        exact List.mem_append_right _ List.mem_cons_self
    · intro line isLine
      apply accepted.areRanges
      cases pieces' with
      | nil =>
        rcases List.cons.inj behind with ⟨_, rfl⟩
        exact List.mem_append_right _ isLine
      | cons cutOff pieces' =>
        rcases List.cons.inj behind with ⟨_, rfl⟩
        exact List.mem_append_right _ (List.mem_cons_of_mem _ (List.mem_append_right _ isLine))

/-- A session that is accepted has the lines that the tool reads when the breaks that are no line
feeds are in its second and third line, and when these are not its last. -/
theorem toolAgrees_iff {data : List UInt8} (accepted : validateSessionData data = .ok ()) :
    ToolAgrees data ↔ KeepsLines data := by
  rcases bind_eq_ok accepted with ⟨text, isText, accepted⟩
  rcases bind_eq_ok accepted with ⟨source, isValid, _⟩
  have isSource : sessionSource data = .ok (firstWord source) := by
    rw [sessionSource, isText]
    change (validateSessionText text >>= fun source => pure (firstWord source)) = _
    rw [isValid]
    rfl
  constructor
  · rintro ⟨text, source, isText, _, reads⟩
    exact ⟨text, isText, reads.breaksInMiddle⟩
  · rintro ⟨text', isText', middle⟩
    rw [isText] at isText'
    cases isText'
    rcases validateSessionText_eq_ok isValid with ⟨timestamp, command, ranges, isSplit, lines⟩
    exact ⟨text, firstWord source, isText, isSource,
      toolReads_of_breaksInMiddle isSplit lines middle⟩

theorem sessionText_utf8 {text : String} (bounded : (utf8 text).length ≤ sessionMaxBytes)
    (some_text : utf8 text ≠ []) (noNul : 0 ∉ utf8 text) :
    sessionText (utf8 text) = .ok (.ofString text) := by
  have stripped : stripNul (utf8 text) = utf8 text := by
    rw [stripNul, List.dropWhile_eq_self_iff.mpr, List.reverse_reverse]
    intro positive
    rw [decide_eq_true_iff]
    intro isNul
    apply noNul
    rw [← isNul, ← List.mem_reverse]
    exact List.getElem_mem positive
  rw [sessionText, stripped, utf8Decode_utf8, if_neg, if_neg]
  · rw [Bool.or_eq_true, not_or, List.isEmpty_iff, decide_eq_true_iff]
    exact ⟨some_text, noNul⟩
  · rw [Bool.or_eq_true, not_or, List.isEmpty_iff, decide_eq_true_iff, Nat.not_lt]
    exact ⟨some_text, bounded⟩

def sampleSession : List UInt8 := utf8 "#17\n/dev/sdb 1\ncmd\n1-2\r\n3-9\n"

theorem sessionText_sampleSession :
    sessionText sampleSession = .ok (.ofString "#17\n/dev/sdb 1\ncmd\n1-2\r\n3-9\n") :=
  sessionText_utf8 (by decide) (by decide) (by decide)

theorem toolAgrees_sampleSession : ToolAgrees sampleSession := by
  have areLines : toolLines (.ofString "#17\n/dev/sdb 1\ncmd\n1-2\r\n3-9\n") =
      ["#17", "/dev/sdb 1", "cmd", "1-2", "3-9"].map .ofString := by decide
  refine (toolAgrees_iff ?_).mpr ⟨_, sessionText_sampleSession, ?_⟩
  · rw [validateSessionData, sessionText_sampleSession]
    rfl
  · rw [areLines]
    refine ⟨by decide, List.forall_mem_cons.mpr ⟨?_, List.forall_mem_cons.mpr ⟨?_, ?_⟩⟩⟩
    · exact unbroken_of_isTimestamp (by decide)
    · exact unbroken_of_isSessionRange ⟨1, 2, by decide, by decide, by decide⟩
    · exact List.forall_mem_singleton.mpr
        (unbroken_of_isSessionRange ⟨3, 9, by decide, by decide, by decide⟩)

/-- A session whose second line begins behind a line separator. -/
def separatedSession : List UInt8 := utf8 "#17\u2028/dev/sdb 1\ncmd\n1-2\n"

theorem sessionText_separatedSession :
    sessionText separatedSession = .ok (.ofString "#17\u2028/dev/sdb 1\ncmd\n1-2\n") :=
  sessionText_utf8 (by decide) (by decide) (by decide)

theorem separatedSession_disagrees :
    validateSessionData separatedSession = .ok () ∧ ¬ToolAgrees separatedSession := by
  constructor
  · rw [validateSessionData, sessionText_separatedSession]
    rfl
  · rintro ⟨text, source, isText, _, reads⟩
    rw [sessionText_separatedSession] at isText
    cases isText
    exact absurd reads.someRange (by decide)

end Reperio.Scanner.Photorec
