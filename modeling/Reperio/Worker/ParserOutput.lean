import Reperio.Encoding.Breaks
import Reperio.Python.Agreement
import Reperio.Python.JsonSoundness
import Reperio.Python.Utf8
import Reperio.Worker.ParserSandbox

/-!
# The output of a parser

`_parse_json_lines` of `worker/parser_sandbox.py`: what a parser wrote, decoded as UTF-8,
split into lines and each line read as a JSON object. Lines are those of
`str.splitlines`, which also breaks at characters that may stand in a JSON string.
-/

namespace Reperio.Worker

open Python Encoding

/-- Where `str.splitlines` breaks. -/
def isLineBreak (char : Char) : Bool :=
  decide (char.toNat ∈ [10, 11, 12, 13, 28, 29, 30, 133, 8232, 8233])

/-- A carriage return and the newline behind it are one break. -/
def joinReturns : List Char → List Char
  | '\r' :: '\n' :: text => '\n' :: joinReturns text
  | char :: text => char :: joinReturns text
  | [] => []

/-- `text.splitlines()`. -/
def splitlines (text : List Char) : List (List Char) := splitBreaks isLineBreak (joinReturns text)

/-- `not line.strip()`. -/
def isBlankLine (line : List Char) : Bool := line.all fun char => (CodePoint.ofChar char).isSpace

/-- The record on a line. -/
def recordOf (limit : ℕ) (line : List Char) : Except SandboxError PyDict :=
  match loads limit (String.ofList line) with
  | .ok (.dict items) => .ok items
  | .ok _ => .error (.parserSandboxError "invalid_stdout" "parser stdout record must be an object")
  | .error .jsonDecodeError =>
    .error (.parserSandboxError "invalid_stdout" "parser stdout must be JSON lines")
  | .error error => .error (.raised error)

/-- `_parse_json_lines`. -/
def parseJsonLines (limit : ℕ) (stdout : List UInt8) : Except SandboxError (List PyDict) :=
  match utf8Decode stdout with
  | none => .error (.parserSandboxError "invalid_stdout" "parser stdout must be UTF-8")
  | some text =>
    ((splitlines text.toList).filter fun line => !isBlankLine line).mapM (recordOf limit)

/-! ## Lines -/

theorem joinReturns_eq_self {text : List Char} (noReturn : '\r' ∉ text) : joinReturns text =
    text := by
  fun_induction joinReturns text with
  | case1 => exact absurd List.mem_cons_self noReturn
  | case2 char text _ ih => rw [ih fun isReturn => noReturn (List.mem_cons_of_mem _ isReturn)]
  | case3 => rfl

theorem isLineBreak_newline : isLineBreak '\n' = true := by decide

/-- An object on one line, however it is laid out and escaped there. -/
structure SerializedRecord where
  text : List Char
  members : List (PyStr × Json)
  spells : SpellsText (.object members) text
  noControl : ∀ char ∈ text, 32 ≤ char.toNat

namespace SerializedRecord

variable (record : SerializedRecord)

/-- The object, as a dictionary. -/
def items : PyDict :=
  (collectItems (ofJsonMembers record.members)).map fun item => (.text item.1, item.2)

/-- No character of the text breaks a line. -/
def Unbroken : Prop := ∀ char ∈ record.text, isLineBreak char = false

/-- The decoder reads the object. -/
def Readable (limit : ℕ) : Prop := Json.Fits true limit (.object record.members)

/-- The lines that the text is split into, blank ones left out. -/
def lines : List (List Char) :=
  (splitBreaks isLineBreak record.text).filter fun line => !isBlankLine line

end SerializedRecord

/-- The bytes of objects that line feeds join. -/
def joinedRecords (records : List SerializedRecord) : List UInt8 :=
  utf8 (String.ofList (['\n'].intercalate (records.map SerializedRecord.text)))

namespace SerializedRecord

variable {record : SerializedRecord}

theorem recordOf_eq_ok_iff (limit : ℕ) (items : PyDict) :
    recordOf limit record.text = .ok items ↔ record.Readable limit ∧ record.items = items := by
  have read := record.spells.gives_parse limit
  rw [recordOf, loads, String.toList_ofList]
  rcases read with ⟨fits, read⟩ | ⟨tooMuch, error, failed⟩
  · have readable : record.Readable limit := fits
    rw [read, and_iff_right readable]
    exact ⟨fun same => Except.ok.inj same, fun same => congrArg _ same⟩
  · rw [failed]
    refine ⟨fun read => ?_, fun both => absurd both.1 tooMuch⟩
    cases error <;> cases read

theorem solid_of_blank {char : Char} (inText : char ∈ record.text) (isBlank : char ∈ blanks) :
    isLineBreak char = false := by
  have visible := record.noControl char inText
  simp only [blanks, List.mem_cons, List.not_mem_nil, or_false] at isBlank
  rcases isBlank with rfl | rfl | rfl | rfl
  · decide
  · exact absurd visible (by decide)
  · exact absurd visible (by decide)
  · exact absurd visible (by decide)

theorem exists_last (record : SerializedRecord) :
    ∃ body last, record.text = body ++ [last] ∧ isLineBreak last = false := by
  rcases record.spells.braces with ⟨_, after, _, blankAfter, _, ⟨start, isText⟩⟩
  rcases List.eq_nil_or_concat after with rfl | ⟨middle, last, rfl⟩
  · exact ⟨start, '\x7d', isText.symm, by decide⟩
  · have inText : last ∈ record.text := by
      rw [← isText]
      simp
    refine ⟨start ++ '\x7d' :: middle, last, ?_, solid_of_blank inText (blankAfter (by simp))⟩
    rw [← isText, List.append_assoc, List.cons_append, List.concat_eq_append]

theorem isBlankLine_eq_false {line : List Char} {char : Char}
    (notSpace : (CodePoint.ofChar char).isSpace = false) (inLine : char ∈ line) :
    isBlankLine line = false :=
  List.all_eq_false.mpr ⟨char, inLine, by rw [notSpace]; exact Bool.false_ne_true⟩

/-- The opening brace stands before the first break, and the closing brace behind it. -/
theorem braces_around {body rest : List Char} {mark : Char}
    (isText : record.text = body ++ mark :: rest)
    (isMark : isLineBreak mark = true) : '\x7b' ∈ body ∧ '\x7d' ∈ rest := by
  rcases record.spells.braces with ⟨before, after, blankBefore, blankAfter, opening, closing⟩
  have isIn : mark ∈ record.text := by
    rw [isText]
    simp
  constructor
  · have upTo : body ++ [mark] <+: record.text := ⟨rest, by rw [isText]; simp⟩
    rcases List.prefix_or_prefix_of_prefix opening upTo with shorter | longer
    · have found := shorter.subset (List.mem_append_right before List.mem_cons_self)
      rcases List.mem_append.mp found with inBody | isLast
      · exact inBody
      · rw [← List.mem_singleton.mp isLast] at isMark
        cases isMark
    · have found := longer.subset (List.mem_append_right body List.mem_cons_self)
      rcases List.mem_append.mp found with inBefore | isLast
      · have solid := solid_of_blank isIn (blankBefore inBefore)
        rw [isMark] at solid
        cases solid
      · rw [List.mem_singleton.mp isLast] at isMark
        cases isMark
  · have behind : mark :: rest <:+ record.text := ⟨body, isText.symm⟩
    rcases List.suffix_or_suffix_of_suffix closing behind with shorter | longer
    · rcases List.mem_cons.mp (shorter.subset List.mem_cons_self) with isLast | inRest
      · rw [← isLast] at isMark
        cases isMark
      · exact inRest
    · rcases List.mem_cons.mp (longer.subset List.mem_cons_self) with isLast | inAfter
      · rw [isLast] at isMark
        cases isMark
      · have solid := solid_of_blank isIn (blankAfter inAfter)
        rw [isMark] at solid
        cases solid

theorem lines_of_unbroken (unbroken : record.Unbroken) : record.lines = [record.text] := by
  rcases record.spells.braces with ⟨before, _, _, _, opening, _⟩
  have brace := opening.subset (List.mem_append_right before List.mem_cons_self)
  rw [lines, splitBreaks_of_unbroken (List.ne_nil_of_mem brace) unbroken,
    List.filter_cons_of_pos (by rw [isBlankLine_eq_false (by decide) brace]; rfl), List.filter_nil]

/-- A character that is no blank keeps the line that it is in. -/
theorem length_filter_pos {text : List Char} {char : Char} (inText : char ∈ text)
    (solid : isLineBreak char = false) (notSpace : (CodePoint.ofChar char).isSpace = false) :
    0 < ((splitBreaks isLineBreak text).filter fun line => !isBlankLine line).length := by
  rcases exists_mem_splitBreaks inText solid with ⟨line, isLine, inLine⟩
  refine List.length_pos_of_mem (List.mem_filter.mpr ⟨isLine, ?_⟩)
  rw [isBlankLine_eq_false notSpace inLine, Bool.not_false]

theorem two_le_length_lines (broken : ¬ record.Unbroken) : 2 ≤ record.lines.length := by
  rw [Unbroken] at broken
  push Not at broken
  rcases broken with ⟨mark, inText, notSolid⟩
  have isMark : isLineBreak mark = true := by simpa using notSolid
  rcases List.append_of_mem inText with ⟨body, rest, isText⟩
  rcases braces_around isText isMark with ⟨opening, closing⟩
  have first := length_filter_pos (List.mem_append_left [mark] opening) (by decide) (by decide)
  have second := length_filter_pos closing (by decide) (by decide)
  rw [lines, isText, splitBreaks_append_break isMark, List.filter_append, List.length_append]
  omega

theorem splitBreaks_text_append (record : SerializedRecord) (rest : List Char) :
    splitBreaks isLineBreak (record.text ++ '\n' :: rest) =
      splitBreaks isLineBreak record.text ++ splitBreaks isLineBreak rest := by
  rcases record.exists_last with ⟨body, last, isText, solid⟩
  rw [splitBreaks_append_break isLineBreak_newline, isText, List.append_assoc,
    List.singleton_append, splitBreaks_concat_break isLineBreak_newline solid]

end SerializedRecord

theorem filter_splitlines_joined (records : List SerializedRecord) :
    (splitlines (['\n'].intercalate (records.map SerializedRecord.text))).filter
        (fun line => !isBlankLine line) =
      records.flatMap SerializedRecord.lines := by
  have noReturn : ∀ char ∈ ['\n'].intercalate (records.map SerializedRecord.text), char ≠ '\r' := by
    refine forall_mem_intercalate (by decide) fun text isText char inText => ?_
    rcases List.mem_map.mp isText with ⟨record, _, rfl⟩
    rintro rfl
    exact absurd (record.noControl _ inText) (by decide)
  rw [splitlines, joinReturns_eq_self fun isReturn => noReturn _ isReturn rfl]
  clear noReturn
  induction records with
  | nil => rfl
  | cons record records ih =>
    cases records with
    | nil => rw [List.map_singleton, List.intercalate_singleton, List.flatMap_singleton]; rfl
    | cons next records =>
      rw [List.map_cons, List.map_cons, List.intercalate_cons_cons, ← List.map_cons,
        List.append_assoc, List.singleton_append, record.splitBreaks_text_append,
        List.filter_append, ih]
      rfl

theorem SerializedRecord.length_lines_pos (record : SerializedRecord) :
    0 < record.lines.length := by
  by_cases unbroken : record.Unbroken
  · rw [lines_of_unbroken unbroken]
    exact Nat.one_pos
  · exact lt_of_lt_of_le Nat.two_pos (two_le_length_lines unbroken)

theorem length_le_length_lines (records : List SerializedRecord) :
    records.length ≤ (records.flatMap SerializedRecord.lines).length := by
  induction records with
  | nil => exact le_rfl
  | cons record records ih =>
    have some := record.length_lines_pos
    rw [List.flatMap_cons, List.length_append, List.length_cons]
    omega

variable {records : List SerializedRecord}

/-- Broken texts make too many lines. -/
theorem unbroken_of_length_eq
    (sameLength : (records.flatMap SerializedRecord.lines).length = records.length) :
    ∀ record ∈ records, record.Unbroken := by
  induction records with
  | nil => exact nofun
  | cons record records ih =>
    have some := record.length_lines_pos
    have others := length_le_length_lines records
    rw [List.flatMap_cons, List.length_append, List.length_cons] at sameLength
    refine List.forall_mem_cons.mpr ⟨?_, ih (by omega)⟩
    by_contra broken
    have more := SerializedRecord.two_le_length_lines broken
    omega

theorem lines_of_all_unbroken (unbroken : ∀ record ∈ records, record.Unbroken) :
    records.flatMap SerializedRecord.lines = records.map SerializedRecord.text := by
  rw [List.map_eq_flatMap]
  exact List.flatMap_congr fun record isRecord =>
    record.lines_of_unbroken (unbroken record isRecord)

theorem mapM_recordOf_eq_ok_iff (limit : ℕ) (records : List SerializedRecord) :
    (records.map SerializedRecord.text).mapM (recordOf limit) =
        .ok (records.map SerializedRecord.items) ↔
      ∀ record ∈ records, record.Readable limit := by
  constructor
  · intro read
    have paired := List.forall₂_map_left_iff.mp (List.forall₂_map_right_iff.mp
      (forall₂_of_mapM_ok read))
    exact fun record isRecord => ((record.recordOf_eq_ok_iff limit _).mp
      (List.forall₂_same.mp paired record isRecord)).1
  · intro readable
    refine mapM_eq_ok_of_forall₂ (List.forall₂_map_left_iff.mpr (List.forall₂_map_right_iff.mpr ?_))
    exact List.forall₂_same.mpr fun record isRecord =>
      (record.recordOf_eq_ok_iff limit _).mpr ⟨readable record isRecord, rfl⟩

/-- Records are read back exactly when no character of their texts breaks a line and the decoder
can read each. -/
theorem parseJsonLines_joined_iff (limit : ℕ) (records : List SerializedRecord) :
    parseJsonLines limit (joinedRecords records) = .ok (records.map SerializedRecord.items) ↔
      ∀ record ∈ records, record.Unbroken ∧ record.Readable limit := by
  rw [parseJsonLines, joinedRecords, utf8Decode_utf8]
  dsimp only
  rw [String.toList_ofList, filter_splitlines_joined]
  constructor
  · intro read
    have sameLength := (forall₂_of_mapM_ok read).length_eq
    rw [List.length_map] at sameLength
    have unbroken := unbroken_of_length_eq sameLength
    rw [lines_of_all_unbroken unbroken, mapM_recordOf_eq_ok_iff] at read
    exact fun record isRecord => ⟨unbroken record isRecord, read record isRecord⟩
  · intro both
    rw [lines_of_all_unbroken fun record isRecord => (both record isRecord).1,
      mapM_recordOf_eq_ok_iff]
    exact fun record isRecord => (both record isRecord).2

/-! ## Errors -/

/-- The lines of an output, if it is UTF-8. -/
def outputLines (stdout : List UInt8) : List (List Char) := match utf8Decode stdout with
  | none => []
  | some text => (splitlines text.toList).filter fun line => !isBlankLine line

/-- The line spells an object, neither too deep nor with an integer that is too long. -/
def SpellsObject (limit : ℕ) (line : List Char) : Prop :=
  ∃ members, SpellsText (.object members) line ∧ (Json.object members).Fits true limit

/-- The first line that spells no object opens one array or object too many, or has an integer that
is too long, where it is still well formed. -/
def BurstsLines (limit : ℕ) (lines : List (List Char)) : Prop :=
  ∃ before line after, lines = before ++ line :: after ∧
    (∀ earlier ∈ before, SpellsObject limit earlier) ∧ BurstsText limit line

variable {limit : ℕ} {line : List Char}

theorem ofJson_eq_dict {json : Json} {items : PyDict} (isDict : ofJson json = .dict items) :
    ∃ members, json = .object members := by
  cases json with
  | object members => exact ⟨members, rfl⟩
  | _ => cases isDict

/-- What is read as a record spells an object. -/
theorem exists_recordOf_iff :
    (∃ items, recordOf limit line = .ok items) ↔ SpellsObject limit line := by
  simp only [SpellsObject, ← Json.parse_eq_ok_iff]
  rw [recordOf, loads, String.toList_ofList]
  constructor
  · rintro ⟨items, read⟩
    cases parsed : Json.parse limit line with
    | error error =>
      rw [parsed] at read
      cases error <;> cases read
    | ok json =>
      rw [parsed] at read
      dsimp only at read
      split at read
      · rename_i isDict
        rcases ofJson_eq_dict (Except.ok.inj isDict) with ⟨members, rfl⟩
        exact ⟨members, rfl⟩
      · cases read
      · cases read
      · cases read
  · rintro ⟨members, parsed⟩
    rw [parsed]
    exact ⟨_, rfl⟩

/-- Another exception comes from where the interpreter stops the decoder. -/
theorem exists_raised_iff :
    (∃ error, recordOf limit line = .error (.raised error)) ↔ BurstsText limit line := by
  rw [← Json.parse_stops_iff, recordOf, loads, String.toList_ofList]
  cases parsed : Json.parse limit line with
  | ok json =>
    refine ⟨?_, fun stops => ?_⟩
    · rintro ⟨error, raised⟩
      dsimp only at raised
      split at raised
      · cases raised
      · cases raised
      · rename_i failed
        cases failed
      · rename_i failed
        cases failed
    · rcases stops with ⟨error, _, failed⟩
      cases failed
  | error error =>
    cases error with
    | malformed =>
      refine ⟨?_, ?_⟩
      · rintro ⟨error, raised⟩
        cases raised
      · rintro ⟨error, isReason, failed⟩
        exact absurd (Except.error.inj failed).symm isReason
    | tooManyDigits => exact ⟨fun _ => ⟨.tooManyDigits, by decide, rfl⟩, fun _ => ⟨_, rfl⟩⟩
    | tooDeep => exact ⟨fun _ => ⟨.tooDeep, by decide, rfl⟩, fun _ => ⟨_, rfl⟩⟩

/-- Whatever a parser writes, `_parse_json_lines` returns or raises its own error exactly when the
first line that spells no object does not burst the decoder. -/
theorem parseJsonLines_contained_iff (limit : ℕ) (stdout : List UInt8) :
    (∀ error, parseJsonLines limit stdout ≠ .error (.raised error)) ↔
      ¬ BurstsLines limit (outputLines stdout) := by
  rw [parseJsonLines, outputLines]
  cases utf8Decode stdout with
  | none =>
    refine ⟨fun _ bursts => ?_, fun _ _ => nofun⟩
    rcases bursts with ⟨before, line, after, isLines, _⟩
    exact absurd isLines.symm (List.append_ne_nil_of_right_ne_nil _ (List.cons_ne_nil _ _))
  | some text =>
    dsimp only
    rw [← not_exists, not_iff_not]
    simp only [mapM_eq_error_iff, exists_recordOf_iff]
    constructor
    · rintro ⟨error, before, line, after, isLines, earlier, raised⟩
      exact ⟨before, line, after, isLines, earlier, exists_raised_iff.mp ⟨error, raised⟩⟩
    · rintro ⟨before, line, after, isLines, earlier, bursts⟩
      rcases exists_raised_iff.mpr bursts with ⟨error, raised⟩
      exact ⟨error, before, line, after, isLines, earlier, raised⟩

/-- What is meant to be decoded comes back, and whatever is not is refused: both hold exactly for
records that keep to their lines and to what the decoder can read, and for outputs whose first line
that spells no object does not burst the decoder. -/
theorem parseJsonLines_iff (limit : ℕ) : (∀ records : List SerializedRecord,
      parseJsonLines limit (joinedRecords records) = .ok (records.map SerializedRecord.items) ↔
        ∀ record ∈ records, record.Unbroken ∧ record.Readable limit) ∧
    ∀ stdout, (∀ error, parseJsonLines limit stdout ≠ .error (.raised error)) ↔
      ¬ BurstsLines limit (outputLines stdout) :=
  ⟨parseJsonLines_joined_iff limit, parseJsonLines_contained_iff limit⟩

/-- An object whose value is a line separator. -/
def separatorRecord : SerializedRecord where
  text := ['\x7b', '"', 'a', '"', ':', '"', '\u2028', '"', '\x7d']
  members := [(joinSurrogates [.ofChar 'a'], .text (joinSurrogates [.ofChar '\u2028']))]
  spells := by
    refine ⟨[], _, [], List.nil_subset _, List.nil_subset _, rfl, ?_⟩
    refine @Spells.object _ [] _ _ (List.nil_subset _) ?_
    refine @Spells.lastMember _ _ _ [] [] ['"', '\u2028', '"', '\x7d'] [] _ (List.nil_subset _) ?_
      ?_
    · exact .plain (by decide) (by decide) (by decide) .quote
    · exact .text (.plain (by decide) (by decide) (by decide) .quote)
  noControl := by
    simp only [List.forall_mem_cons]
    exact ⟨by decide, by decide, by decide, by decide, by decide, by decide, by decide, by decide,
      by decide, nofun⟩

theorem separatorRecord_not_read :
    parseJsonLines 1000 (joinedRecords [separatorRecord]) ≠ .ok [separatorRecord.items] := by
  intro read
  have unbroken := ((parseJsonLines_joined_iff 1000 [separatorRecord]).mp read separatorRecord
    List.mem_cons_self).1
  have solid := unbroken '\u2028' (by decide)
  cases solid

end Reperio.Worker
