import Reperio.Api.Review
import Reperio.Encoding.Wildcards

/-!
# Searching for a text

`_escape_like` and the condition of `_finding_where` on the title and the summary. The
wildcards of a text that is searched for are escaped, so that SQLite takes each of its
characters for itself.
-/

namespace Reperio.Review

open Catalog Encoding

/-! ## What `LIKE` matches -/

/-- The pieces of a pattern with the escape character `\`, which must not come last. -/
def likePieces : List Char → Option (List (Wildcard Char))
  | [] => some []
  | '%' :: pattern => (likePieces pattern).map (.sequence :: ·)
  | '_' :: pattern => (likePieces pattern).map (.single :: ·)
  | ['\\'] => none
  | '\\' :: char :: pattern => (likePieces pattern).map (.literal char :: ·)
  | char :: pattern => (likePieces pattern).map (.literal char :: ·)

/-- `text LIKE pattern ESCAPE '\'`: letters of ASCII match in either case. -/
def IsLike (pattern text : String) : Prop :=
  ∃ pieces, likePieces pattern.toList = some pieces ∧
    Wildcard.Matches Char.toLower pieces text.toList

/-- The text is a part of the other one, but for the case of ASCII letters. -/
def Occurs (q text : String) : Prop := q.toList.map Char.toLower <:+: text.toList.map Char.toLower

instance (q text : String) : Decidable (Occurs q text) := inferInstanceAs (Decidable (_ <:+: _))

/-- The rest of a pattern, behind a first piece. -/
theorem exists_map_cons {pieces? : Option (List (Wildcard Char))} {first : Wildcard Char}
    {text : List Char} :
    (∃ pieces, pieces?.map (first :: ·) = some pieces ∧ Wildcard.Matches Char.toLower pieces text) ↔
      ∃ pieces, pieces? = some pieces ∧ Wildcard.Matches Char.toLower (first :: pieces) text := by
  cases pieces? <;> simp

theorem matches_literal_iff {char : Char} {pieces : List (Wildcard Char)} {text : List Char} :
    Wildcard.Matches Char.toLower (.literal char :: pieces) text ↔
      text.head?.any (sameLetter char) = true ∧ Wildcard.Matches Char.toLower pieces text.tail := by
  cases text with
  | nil => simp [Wildcard.Matches]
  | cons other text => simp [Wildcard.Matches, sameLetter]

/-- The matcher goes through the pieces, with every rest of the text behind a sequence. -/
theorem matchesPattern_iff {pattern text : List Char} : matchesPattern pattern text = true ↔
      ∃ pieces, likePieces pattern = some pieces ∧ Wildcard.Matches Char.toLower pieces text := by
  fun_induction likePieces pattern generalizing text with
  | case1 => simp [matchesPattern, Wildcard.Matches]
  | case2 pattern ih =>
    rw [exists_map_cons, matchesPattern, List.any_eq_true]
    simp only [List.mem_tails, ih, Wildcard.Matches]
    constructor
    · rintro ⟨_, ⟨front, rfl⟩, pieces, isPattern, rest⟩
      exact ⟨pieces, isPattern, front, _, rfl, rest⟩
    · rintro ⟨pieces, isPattern, front, back, rfl, rest⟩
      exact ⟨back, ⟨front, rfl⟩, pieces, isPattern, rest⟩
  | case3 pattern ih =>
    rw [exists_map_cons, matchesPattern, Bool.and_eq_true, ih]
    cases text <;> simp [Wildcard.Matches]
  | case4 => simp [matchesPattern]
  | case5 char pattern ih =>
    rw [exists_map_cons, matchesPattern, Bool.and_eq_true, ih, ← exists_and_left]
    simp only [matches_literal_iff, and_left_comm]
  | case6 char pattern notSequence notSingle notLast notEscape ih =>
    rw [exists_map_cons, matchesPattern, Bool.and_eq_true, ih, ← exists_and_left]
    · simp only [matches_literal_iff, and_left_comm]
    · exact notSequence
    · exact notSingle
    · exact notLast
    · exact notEscape

/-! ## Escaping -/

def escapeChar (char : Char) : List Char :=
  if char = '\\' ∨ char = '%' ∨ char = '_' then ['\\', char] else [char]

/-- The replacements leave each other alone: the backslashes that the later ones put in are not
doubled. -/
theorem toList_escapeLike (value : String) :
    (escapeLike value).toList = value.toList.flatMap escapeChar := by
  rw [escapeLike, toList_replace (by rfl : "_".toList = ['_']),
    toList_replace (by rfl : "%".toList = ['%']), toList_replace (by rfl : "\\".toList = ['\\'])]
  induction value.toList with
  | nil => rfl
  | cons char chars ih =>
    rw [substitute, substitute, substitute] at ih ⊢
    rw [List.flatMap_cons, List.flatMap_append, List.flatMap_append, ih, List.flatMap_cons]
    congr 1
    unfold escapeChar
    by_cases isBackslash : char = '\\'
    · subst isBackslash
      rfl
    · by_cases isPercent : char = '%'
      · subst isPercent
        rfl
      · by_cases isLow : char = '_' <;> simp [isBackslash, isPercent, isLow]

theorem likePieces_escapeChar (char : Char) (rest : List Char) :
    likePieces (escapeChar char ++ rest) = (likePieces rest).map (.literal char :: ·) := by
  unfold escapeChar
  split
  · rfl
  · rename_i ordinary
    rw [not_or, not_or] at ordinary
    rw [List.singleton_append, likePieces]
    · exact ordinary.2.1
    · exact ordinary.2.2
    · exact fun isBackslash _ => ordinary.1 isBackslash
    · exact fun _ _ isBackslash _ => ordinary.1 isBackslash

/-- An escaped text is read as its characters. -/
theorem likePieces_escaped (chars rest : List Char) :
    likePieces (chars.flatMap escapeChar ++ rest) =
      (likePieces rest).map (chars.map .literal ++ ·) := by
  induction chars with
  | nil => simp
  | cons char chars ih =>
    rw [List.flatMap_cons, List.append_assoc, likePieces_escapeChar, ih, Option.map_map]
    rfl

/-- The pattern of a search matches the texts that what is searched for occurs in. -/
theorem isLike_iff_occurs {q text : String} :
    IsLike ("%" ++ escapeLike q ++ "%") text ↔ Occurs q text := by
  have pieces : likePieces ("%" ++ escapeLike q ++ "%").toList =
      some (.sequence :: (q.toList.map .literal ++ [.sequence])) := by
    rw [String.toList_append, String.toList_append, toList_escapeLike]
    change (likePieces (q.toList.flatMap escapeChar ++ ['%'])).map (.sequence :: ·) = _
    rw [likePieces_escaped]
    rfl
  unfold IsLike
  rw [pieces]
  simp only [Option.some.injEq, exists_eq_left', Wildcard.matches_surrounded]
  rfl

/-! ## The filter -/

/-- SQLite answers whether the texts match the pattern, as it documents `LIKE`. -/
def AnswersLike (sql : SqlFunctions) (pattern : String) (texts : List String) : Prop :=
  ∀ text ∈ texts, ∃ answer, sql.like text pattern = some answer ∧
    (answer = true ↔ IsLike pattern text)

theorem answersLike_sampleFunctions {pattern : String} (small : pattern.utf8ByteSize ≤ 50000)
    (texts : List String) : AnswersLike sampleFunctions pattern texts := by
  intro text _
  exact ⟨matchesPattern pattern.toList text.toList, if_pos small, matchesPattern_iff⟩

/-- A title with every character that is escaped. -/
def wildcardFinding : Finding := { sampleFinding with title := "A 50%_\\b" }

end Reperio.Review
