import Mathlib.Data.List.TakeWhile
import Reperio.Python.JsonGrammar

/-!
# What the decoder accepts

The decoder reads a text exactly when the text spells a value that is not too deep for it
and whose integers are not too long (`Json.parse_eq_ok_iff`). The interpreter stops it
exactly when a text that is well formed so far opens one array or object too many or has an
integer that is too long (`Json.parse_stops_iff`).
-/

namespace Reperio.Python

/-! ## Where the interpreter stops the decoder -/

/-- An integer of more digits than are converted. -/
def IsLongInteger (text : List Char) : Prop := ∃ (negative : Bool) (digits rest : List Char),
    text = (if negative then ['-'] else []) ++ (digits ++ rest) ∧ digits.head? ≠ some '0' ∧
      (∀ char ∈ digits, char.isDigit = true) ∧ intMaxStrDigits < digits.length ∧ NoDigit rest ∧
      (scanFraction rest).1 = [] ∧ (scanExponent rest).1 = none

/-- What is read from a place of a text on. -/
inductive Part where
  | value
  | items
  | members

/-- Behind a beginning that is well formed the text opens an array or object when no level is
left, or has an integer that is too long. -/
inductive Bursts : Part → ℕ → List Char → Prop where
  | deep {bracket : Char} {rest : List Char} (opens : bracket = '[' ∨ bracket = '\x7b') :
      Bursts .value 0 (bracket :: rest)
  | long {limit : ℕ} {text : List Char} (isLong : IsLongInteger text) : Bursts .value limit text
  | list {limit : ℕ} {space text : List Char} (areBlank : space ⊆ blanks)
      (bursts : Bursts .items limit text) : Bursts .value (limit + 1) ('[' :: (space ++ text))
  | object {limit : ℕ} {space text : List Char} (areBlank : space ⊆ blanks)
      (bursts : Bursts .members limit text) : Bursts .value (limit + 1) ('\x7b' :: (space ++ text))
  | item {limit : ℕ} {text : List Char} (bursts : Bursts .value limit text) :
      Bursts .items limit text
  | nextItem {limit : ℕ} {item : Json} {text space next more : List Char}
      (areBlank : space ++ next ⊆ blanks)
      (spells : Spells (.value item) text (space ++ ',' :: (next ++ more)))
      (fits : item.Fits true limit) (bursts : Bursts .items limit more) : Bursts .items limit text
  | member {limit : ℕ} {units : PyStr} {text colon before valueText : List Char}
      (areBlank : colon ++ before ⊆ blanks)
      (spellsKey : SpellsUnits text units (colon ++ ':' :: (before ++ valueText)))
      (bursts : Bursts .value limit valueText) : Bursts .members limit ('"' :: text)
  | nextMember {limit : ℕ} {units : PyStr} {value : Json}
      {text colon before valueText space next more : List Char}
      (areBlank : colon ++ before ++ space ++ next ⊆ blanks)
      (spellsKey : SpellsUnits text units (colon ++ ':' :: (before ++ valueText)))
      (spells : Spells (.value value) valueText (space ++ ',' :: (next ++ more)))
      (fits : value.Fits true limit) (bursts : Bursts .members limit more) :
      Bursts .members limit ('"' :: text)

/-! ## What a result says of the text -/

/-- A result that was read is spelled by the text, and an error of the interpreter has its reason
there. -/
def Tells {α : Type} (spelled : α → Prop) (bursts : Prop) : Except ParseError α → Prop
  | .ok found => spelled found
  | .error .malformed => True
  | .error _ => bursts

section

variable {α β : Type} {spelled : α → Prop} {spelledNext : β → Prop} {bursts burstsNext : Prop}

theorem Tells.bind {result : Except ParseError α} {next : α → Except ParseError β}
    (tells : Tells spelled bursts result)
    (tellsNext : ∀ found, spelled found → Tells spelledNext bursts (next found)) :
    Tells spelledNext bursts (result >>= next) := by
  rcases result with error | found
  · cases error <;> exact tells
  · exact tellsNext found tells

theorem Tells.mono {result : Except ParseError α} {wider : α → Prop}
    (tells : Tells spelled bursts result) (ok : ∀ found, spelled found → wider found)
    (error : bursts → burstsNext) : Tells wider burstsNext result := by
  rcases result with failure | found
  · cases failure
    · trivial
    · exact error tells
    · exact error tells
  · exact ok found tells

end

theorem exists_blanks (chars : List Char) :
    ∃ space, space ⊆ blanks ∧ chars = space ++ skipSpace chars :=
  ⟨chars.takeWhile fun char => decide (char ∈ [' ', '\t', '\n', '\r']),
    fun _ isIn => by simpa [blanks] using List.mem_takeWhile_imp isIn,
    List.takeWhile_append_dropWhile.symm⟩

theorem scanUnits_tells (text : List Char) :
    Tells (fun found => SpellsUnits text found.1 found.2) False (scanUnits text) := by
  fun_induction scanUnits text with
  | case1 => trivial
  | case2 rest => exact .quote
  | case3 => trivial
  | case4 first second third fourth rest unit isUnit ih =>
    exact ih.bind fun found spells => .unit isUnit spells
  | case5 => trivial
  | case6 escape rest _ point isPoint ih =>
    exact ih.bind fun found spells => .escape isPoint spells
  | case7 => trivial
  | case8 char rest notQuote _ notEscape visible ih =>
    refine ih.bind fun found spells => ?_
    refine .plain (Nat.le_of_not_lt visible) ?_ ?_ spells
    · rintro rfl
      exact notQuote rfl
    · rintro rfl
      have some := Nat.zero_lt_of_lt spells.length_lt
      rcases List.exists_cons_of_length_pos some with ⟨escape, others, rfl⟩
      exact notEscape escape others rfl rfl

theorem scanString_tells (text : List Char) :
    Tells (fun found => ∃ units, SpellsUnits text units found.2 ∧ joinSurrogates units = found.1)
      False (scanString text) :=
  (scanUnits_tells text).bind fun found spells => ⟨found.1, spells, rfl⟩

/-! ## Numbers -/

/-- Digits without a leading zero are those of the number. -/
theorem toDigits_ofDigitChars {digits : List Char} (nonempty : digits ≠ [])
    (areDigits : ∀ char ∈ digits, char.isDigit = true)
    (noZero : digits = ['0'] ∨ digits.head? ≠ some '0') :
    Nat.toDigits 10 (Nat.ofDigitChars 10 digits 0) = digits := by
  induction digits using List.reverseRecOn with
  | nil => exact absurd rfl nonempty
  | append_singleton digits last ih =>
    have isDigit := Char.isDigit_iff_toNat.mp (areDigits last (by simp))
    have small : last.toNat - '0'.toNat < 10 := by
      have high : last.toNat ≤ 57 := isDigit.2
      have zero : '0'.toNat = 48 := rfl
      omega
    have shown : Nat.digitChar (last.toNat - '0'.toNat) = last := by
      rw [← Char.toNat_inj, Nat.toNat_digitChar_of_lt_ten small]
      exact Nat.add_sub_cancel' isDigit.1
    rw [Nat.ofDigitChars_append, Nat.ofDigitChars_cons, Nat.ofDigitChars_nil]
    rcases digits with _ | ⟨first, digits⟩
    · rw [Nat.ofDigitChars_nil, Nat.mul_zero, Nat.zero_add, Nat.toDigits_of_lt_base small, shown]
      rfl
    · have notZero : first ≠ '0' := by
        rintro rfl
        rcases noZero with tooLong | notZero
        · simp at tooLong
        · exact notZero rfl
      have same :=
        ih (List.cons_ne_nil _ _) (fun char isIn => areDigits char (List.mem_append_left _ isIn))
        (Or.inr (by simpa using notZero))
      have positive : 0 < Nat.ofDigitChars 10 (first :: digits) 0 := by
        refine Nat.pos_of_ne_zero fun isZero => notZero ?_
        rw [isZero] at same
        exact (List.cons.inj same).1.symm
      rw [← Nat.toDigits_append_toDigits (by decide) positive small, same,
        Nat.toDigits_of_lt_base small, shown]

theorem scanFraction_split (chars : List Char) :
    chars = fractionText (scanFraction chars).1 ++ (scanFraction chars).2 ∧
      ∀ char ∈ (scanFraction chars).1, char.isDigit = true := by
  unfold scanFraction
  split
  · rename_i rest
    split
    · exact ⟨rfl, fun _ isIn => absurd isIn List.not_mem_nil⟩
    · rename_i some
      refine ⟨?_, fun char isIn => List.mem_takeWhile_imp isIn⟩
      have whole : rest.takeWhile Char.isDigit ++ rest.dropWhile Char.isDigit = rest :=
        List.takeWhile_append_dropWhile
      rw [fractionText, List.cons_append, whole]
      exact mt List.isEmpty_iff.mpr some
  · exact ⟨rfl, fun _ isIn => absurd isIn List.not_mem_nil⟩

theorem scanSign_split (chars : List Char) :
    ∃ sign, chars = signText sign ++ (scanSign chars).2 ∧ (scanSign chars).1 = sign.getD false := by
  unfold scanSign
  split
  · exact ⟨some true, rfl, rfl⟩
  · exact ⟨some false, rfl, rfl⟩
  · exact ⟨none, rfl, rfl⟩

theorem scanExponent_split {chars : List Char} (ends : Ends (scanExponent chars).2) :
    SpellsExponent chars (scanExponent chars).1 (scanExponent chars).2 := by
  unfold scanExponent at ends ⊢
  split
  · exact .absent ends
  · rename_i letter rest
    dsimp only at ends ⊢
    split
    · rename_i isLetter
      rw [if_pos isLetter] at ends
      split
      · rename_i isEmpty
        rw [if_pos isEmpty] at ends
        exact .absent ends
      · rename_i some
        rw [if_neg some] at ends
        rcases scanSign_split rest with ⟨sign, shown, isSign⟩
        have whole : (scanSign rest).2.takeWhile Char.isDigit ++
            (scanSign rest).2.dropWhile Char.isDigit = (scanSign rest).2 :=
          List.takeWhile_append_dropWhile
        have spells := SpellsExponent.present isLetter sign (mt List.isEmpty_iff.mpr some)
          (fun char isIn => List.mem_takeWhile_imp isIn) ends
        rw [whole, ← shown, ← isSign] at spells
        exact spells
    · rename_i other
      rw [if_neg other] at ends
      exact .absent ends

theorem scanExponent_none {chars : List Char} (none : (scanExponent chars).1 = none) :
    (scanExponent chars).2 = chars := by
  unfold scanExponent at none ⊢
  split
  · rfl
  · dsimp only at none ⊢
    split
    · rename_i isLetter
      rw [if_pos isLetter] at none
      split
      · rfl
      · rename_i some
        rw [if_neg some] at none
        cases none
    · rfl

/-- The digits in front of a point, and what is behind them. -/
theorem exists_whole (chars : List Char) :
    ∃ whole behind, chars = whole ++ behind ∧ wholeLength chars = whole.length ∧
      (∀ char ∈ whole, char.isDigit = true) ∧
      (whole = ['0'] ∨ whole.head? ≠ some '0' ∧ NoDigit behind) := by
  unfold wholeLength
  split
  · rename_i rest
    exact ⟨['0'], rest, rfl, rfl, by simp, Or.inl rfl⟩
  · rename_i notZero
    refine ⟨chars.takeWhile Char.isDigit, chars.dropWhile Char.isDigit,
      List.takeWhile_append_dropWhile.symm, rfl, fun char isIn => List.mem_takeWhile_imp isIn,
      Or.inr ⟨?_, ?_⟩⟩
    · intro isZero
      cases chars with
      | nil => cases isZero
      | cons char chars =>
        rw [List.takeWhile_cons] at isZero
        split at isZero
        · exact notZero chars (congrArg (· :: chars) (Option.some.inj isZero))
        · cases isZero
    · intro char isHead
      have stops := List.head?_dropWhile_not Char.isDigit chars
      rw [isHead] at stops
      simpa using stops

/-- A number is spelled where something follows that ends it. -/
theorem scanUnsigned_tells (limit : ℕ) (negative : Bool) (chars : List Char) :
    Tells (fun found => Ends found.2 →
        Spells (.value found.1) ((if negative then ['-'] else []) ++ chars) found.2 ∧
          found.1.Fits true limit)
      (IsLongInteger ((if negative then ['-'] else []) ++ chars))
      (scanUnsigned negative chars) := by
  rcases exists_whole chars with ⟨whole, behind, rfl, count, areDigits, noZero⟩
  simp only [scanUnsigned, count, List.take_left, List.drop_left, List.isEmpty_iff]
  by_cases isEmpty : whole = []
  · rw [if_pos isEmpty]
    trivial
  have shown := toDigits_ofDigitChars isEmpty areDigits (noZero.imp_right And.left)
  rcases scanFraction_split behind with ⟨split, areFraction⟩
  rw [if_neg isEmpty]
  by_cases isInt : ((scanFraction behind).1.isEmpty &&
      (scanExponent (scanFraction behind).2).1.isNone) = true
  · rw [if_pos isInt]
    rw [Bool.and_eq_true, List.isEmpty_iff, Option.isNone_iff_eq_none] at isInt
    rw [isInt.1, fractionText, List.nil_append] at split
    rw [scanExponent_none isInt.2, ← split]
    by_cases short : whole.length ≤ intMaxStrDigits
    · rw [if_pos short]
      intro ends
      have spells := SpellsNumber.int negative (Nat.ofDigitChars 10 whole 0) ends
      rw [shown] at spells
      refine ⟨.number spells, ?_⟩
      rw [Json.Fits, natAbs_signed, shown]
      exact short
    · rw [if_neg short]
      have many : whole ≠ ['0'] := by
        rintro rfl
        exact short (by decide)
      refine ⟨negative, whole, behind, rfl, (noZero.resolve_left many).1, areDigits,
        Nat.lt_of_not_le short, (noZero.resolve_left many).2, isInt.1, ?_⟩
      rw [split]
      exact isInt.2
  · rw [if_neg isInt]
    intro ends
    have spells := SpellsNumber.float negative (Nat.ofDigitChars 10 whole 0) areFraction
      (scanExponent_split ends) (Bool.not_eq_true _ ▸ isInt)
    rw [shown, ← split] at spells
    refine ⟨.number spells, ?_⟩
    rw [Json.Fits, PyFloat.allowed]
    split <;> rfl

theorem scanNumber_tells (limit : ℕ) (text : List Char) :
    Tells (fun found => Ends found.2 → Spells (.value found.1) text found.2 ∧
      found.1.Fits true limit) (IsLongInteger text) (scanNumber text) := by
  unfold scanNumber
  split
  · exact scanUnsigned_tells limit true _
  · exact scanUnsigned_tells limit false _

/-! ## Values -/

theorem scanLiteral_spells {limit : ℕ} {text : List Char} {found : Json × List Char}
    (isFound : scanLiteral text = some found) :
    Spells (.value found.1) text found.2 ∧ found.1.Fits true limit := by
  rcases List.exists_of_findSome?_eq_some isFound with ⟨⟨word, json⟩, isLiteral, isFound⟩
  split at isFound
  · rename_i begins
    obtain rfl := Option.some.inj isFound
    rcases List.isPrefixOf_iff_prefix.mp begins with ⟨rest, rfl⟩
    rw [List.drop_left]
    refine ⟨.literal isLiteral, ?_⟩
    simp only [literals, List.mem_cons, Prod.mk.injEq, List.not_mem_nil, or_false] at isLiteral
    rcases isLiteral with ⟨_, rfl⟩ | ⟨_, rfl⟩ | ⟨_, rfl⟩ | ⟨_, rfl⟩ | ⟨_, rfl⟩ | ⟨_, rfl⟩ <;>
      trivial
  · cases isFound

theorem ends_of_blanks {space : List Char} (areBlank : space ⊆ blanks) : Ends space := by
  have ends := ends_append areBlank (nofun : Ends [])
  rwa [List.append_nil] at ends

theorem ends_before {space rest : List Char} {char : Char} (areBlank : space ⊆ blanks)
    (closes : char ∈ [',', ']', '\x7d']) : Ends (space ++ char :: rest) := by
  refine ends_append areBlank fun first isFirst => ?_
  obtain rfl := Option.some.inj isFirst
  simp only [List.mem_cons, List.not_mem_nil, or_false] at closes ⊢
  tauto

/-- What the results of the three scanners say of the text. -/
structure ScansTell (fuel : ℕ) : Prop where
  value : ∀ limit text, Tells (fun found => Ends found.2 →
    Spells (.value found.1) text found.2 ∧ found.1.Fits true limit) (Bursts .value limit text)
    (scanValue fuel limit text)
  items : ∀ limit text, Tells (fun found => Spells (.items found.1) text found.2 ∧
    Json.FitsItems true limit found.1) (Bursts .items limit text) (scanItems fuel limit text)
  members : ∀ limit text, Tells (fun found => Spells (.members found.1) text found.2 ∧
    Json.FitsMembers true limit found.1) (Bursts .members limit text) (scanMembers fuel limit text)

namespace ScansTell

variable {fuel : ℕ} (tell : ScansTell fuel) (limit : ℕ) (text : List Char)

include tell

theorem value_succ : Tells (fun found => Ends found.2 →
    Spells (.value found.1) text found.2 ∧ found.1.Fits true limit) (Bursts .value limit text)
    (scanValue (fuel + 1) limit text) := by
  rcases text with _ | ⟨char, rest⟩
  · trivial
  by_cases isQuote : char = '"'
  · subst isQuote
    rw [scanValue]
    refine ((scanString_tells rest).mono (fun _ => id) False.elim).bind fun found spells => ?_
    rcases spells with ⟨units, spells, joined⟩
    intro _
    dsimp only
    rw [← joined]
    exact ⟨.text spells, trivial⟩
  by_cases isBracket : char = '['
  · subst isBracket
    rcases limit with _ | limit
    · exact .deep (Or.inl rfl)
    rcases exists_blanks rest with ⟨space, areBlank, split⟩
    rw [scanValue]
    split
    · rename_i behind closes
      rw [closes] at split
      rw [split]
      exact fun _ => ⟨.emptyList areBlank, Nat.succ_pos limit, trivial⟩
    · have read := (tell.items limit (skipSpace rest)).mono (fun _ => id) (Bursts.list areBlank)
      rw [← split] at read
      refine read.bind fun found spells => fun _ => ⟨?_, Nat.succ_pos limit, spells.2⟩
      have whole := Spells.list areBlank spells.1
      rwa [← split] at whole
  by_cases isBrace : char = '\x7b'
  · subst isBrace
    rcases limit with _ | limit
    · exact .deep (Or.inr rfl)
    rcases exists_blanks rest with ⟨space, areBlank, split⟩
    rw [scanValue]
    split
    · rename_i behind closes
      rw [closes] at split
      rw [split]
      exact fun _ => ⟨.emptyObject areBlank, Nat.succ_pos limit, trivial⟩
    · have read := (tell.members limit (skipSpace rest)).mono (fun _ => id) (Bursts.object areBlank)
      rw [← split] at read
      refine read.bind fun found spells => fun _ => ⟨?_, Nat.succ_pos limit, spells.2⟩
      have whole := Spells.object areBlank spells.1
      rwa [← split] at whole
  rw [scanValue_bare (by simp [isQuote, isBracket, isBrace])]
  split
  · rename_i found isFound
    exact fun _ => scanLiteral_spells isFound
  · exact (scanNumber_tells limit _).mono (fun _ => id) .long

theorem items_succ : Tells (fun found => Spells (.items found.1) text found.2 ∧
    Json.FitsItems true limit found.1) (Bursts .items limit text)
    (scanItems (fuel + 1) limit text) := by
  rw [scanItems]
  refine ((tell.value limit text).mono (fun _ => id) .item).bind fun found spells => ?_
  rcases found with ⟨item, rest⟩
  rcases exists_blanks rest with ⟨space, areBlank, split⟩
  dsimp only at spells ⊢
  split
  · rename_i behind closes
    rw [closes] at split
    rw [split] at spells
    rcases spells (ends_before areBlank (by decide)) with ⟨spells, fits⟩
    exact ⟨.lastItem areBlank spells, fits, trivial⟩
  · rename_i behind comma
    rw [comma] at split
    rw [split] at spells
    rcases spells (ends_before areBlank (by decide)) with ⟨spells, fits⟩
    rcases exists_blanks behind with ⟨next, nextBlank, nextSplit⟩
    rw [nextSplit] at spells
    have blank := List.append_subset.mpr ⟨areBlank, nextBlank⟩
    refine ((tell.items limit (skipSpace behind)).mono (fun _ => id)
      (.nextItem blank spells fits)).bind fun more spellsMore => ?_
    exact ⟨.nextItem blank spells spellsMore.1, fits, spellsMore.2⟩
  · trivial

theorem members_succ : Tells (fun found => Spells (.members found.1) text found.2 ∧
    Json.FitsMembers true limit found.1) (Bursts .members limit text)
    (scanMembers (fuel + 1) limit text) := by
  rcases text with _ | ⟨char, rest⟩
  · trivial
  by_cases isQuote : char = '"'
  · subst isQuote
    rw [scanMembers]
    refine ((scanString_tells rest).mono (fun _ => id) False.elim).bind fun found spells => ?_
    rcases found with ⟨key, behindKey⟩
    rcases spells with ⟨units, spellsKey, rfl⟩
    rcases exists_blanks behindKey with ⟨colon, colonBlank, split⟩
    dsimp only at spellsKey ⊢
    split
    · rename_i behind isColon
      rw [isColon] at split
      rcases exists_blanks behind with ⟨before, beforeBlank, beforeSplit⟩
      rw [split, beforeSplit] at spellsKey
      have keyBlank := List.append_subset.mpr ⟨colonBlank, beforeBlank⟩
      refine ((tell.value limit (skipSpace behind)).mono (fun _ => id)
        (.member keyBlank spellsKey)).bind fun found spells => ?_
      rcases found with ⟨value, rest⟩
      rcases exists_blanks rest with ⟨space, areBlank, split⟩
      have blank := List.append_subset.mpr ⟨keyBlank, areBlank⟩
      dsimp only at spells ⊢
      split
      · rename_i last closes
        rw [closes] at split
        rw [split] at spells
        rcases spells (ends_before areBlank (by decide)) with ⟨spells, fits⟩
        exact ⟨.lastMember blank spellsKey spells, fits, trivial⟩
      · rename_i behindComma comma
        rw [comma] at split
        rw [split] at spells
        rcases spells (ends_before areBlank (by decide)) with ⟨spells, fits⟩
        rcases exists_blanks behindComma with ⟨next, nextBlank, nextSplit⟩
        rw [nextSplit] at spells
        have allBlank := List.append_subset.mpr ⟨blank, nextBlank⟩
        refine ((tell.members limit (skipSpace behindComma)).mono (fun _ => id)
          (.nextMember allBlank spellsKey spells fits)).bind fun more spellsMore => ?_
        exact ⟨.nextMember allBlank spellsKey spells spellsMore.1, fits, spellsMore.2⟩
      · trivial
    · trivial
  · rw [scanMembers]
    · trivial
    · intro _ _ _ same
      exact isQuote (List.cons.inj same).1

end ScansTell

theorem scansTell (fuel : ℕ) : ScansTell fuel := by
  induction fuel with
  | zero =>
    refine ⟨fun _ _ => trivial, fun _ _ => trivial, fun limit text => ?_⟩
    rw [scanMembers]
    · trivial
    · exact fun _ _ isSucc => absurd isSucc (Nat.succ_ne_zero _).symm
  | succ fuel ih => exact ⟨ih.value_succ, ih.items_succ, ih.members_succ⟩

/-! ## Whole texts -/

/-- Behind blanks the text bursts the decoder. -/
def BurstsText (limit : ℕ) (text : List Char) : Prop :=
  ∃ space body, space ⊆ blanks ∧ text = space ++ body ∧ Bursts .value limit body

theorem Json.parse_tells (limit : ℕ) (text : List Char) :
    Tells (fun json => SpellsText json text ∧ json.Fits true limit) (BurstsText limit text)
      (Json.parse limit text) := by
  rcases exists_blanks text with ⟨space, areBlank, split⟩
  rw [Json.parse]
  split
  · trivial
  · have read := (scansTell (2 * text.length + 1)).value limit (skipSpace text)
    split
    · rename_i error failed
      rw [failed] at read
      cases error with
      | malformed => trivial
      | _ => exact ⟨space, _, areBlank, split, read⟩
    · rename_i json rest isRead
      rw [isRead] at read
      rcases exists_blanks rest with ⟨after, afterBlank, afterSplit⟩
      split
      · rename_i isEnd
        rw [List.isEmpty_iff.mp isEnd, List.append_nil] at afterSplit
        subst afterSplit
        rcases read (ends_of_blanks afterBlank) with ⟨spells, fits⟩
        exact ⟨⟨space, _, rest, areBlank, afterBlank, split, spells⟩, fits⟩
      · trivial

/-- The decoder reads exactly the texts that spell a value that fits. -/
theorem Json.parse_eq_ok_iff {limit : ℕ} {text : List Char} {json : Json} :
    Json.parse limit text = .ok json ↔ SpellsText json text ∧ json.Fits true limit := by
  constructor
  · intro read
    have tells := Json.parse_tells limit text
    rwa [read] at tells
  · rintro ⟨spells, fits⟩
    exact ((spells.gives_parse limit).resolve_right fun other => other.1 fits).2

/-- The interpreter stops the reading. -/
def Stops {α : Type} (result : Except ParseError α) : Prop :=
  ∃ error, error ≠ .malformed ∧ result = .error error

theorem Stops.bind {α β : Type} {result : Except ParseError α} (stops : Stops result)
    (next : α → Except ParseError β) : Stops (result >>= next) := by
  rcases stops with ⟨error, isReason, rfl⟩
  exact ⟨error, isReason, rfl⟩

theorem Stops.map {α β : Type} {result : Except ParseError α} (stops : Stops result)
    (change : α → β) : Stops (result.map change) := by
  rcases stops with ⟨error, isReason, rfl⟩
  exact ⟨error, isReason, rfl⟩

/-- With enough fuel the interpreter stops the reading of a part. -/
def Part.StopsAt (limit : ℕ) (text : List Char) (fuel : ℕ) : Part → Prop
  | .value => 2 * text.length < fuel → Stops (scanValue fuel limit text)
  | .items => 2 * text.length + 1 < fuel → Stops (scanItems fuel limit text)
  | .members => 2 * text.length + 1 < fuel → Stops (scanMembers fuel limit text)

theorem IsLongInteger.numberText {text : List Char} (isLong : IsLongInteger text) :
    NumberText text ∧ Stops (scanNumber text) := by
  rcases isLong with ⟨negative, digits, rest, rfl, noZero, areDigits, long, ends, noFraction,
    noPower⟩
  rcases List.exists_cons_of_length_pos (Nat.zero_lt_of_lt long) with ⟨digit, others, rfl⟩
  have isDigit := areDigits digit List.mem_cons_self
  refine ⟨⟨negative, digit, others ++ rest, isDigit, rfl⟩, .tooManyDigits, nofun, ?_⟩
  rw [List.cons_append, scanNumber_signed isDigit, ← List.cons_append]
  have count : wholeLength (digit :: others ++ rest) = (digit :: others).length := by
    unfold wholeLength
    split
    · rename_i isZero
      exact absurd (congrArg some (List.cons.inj isZero).1) noZero
    · rw [takeWhile_digits areDigits ends]
  have noTail := (scanFraction_split rest).1
  rw [noFraction, fractionText, List.nil_append] at noTail
  rw [scanUnsigned, count]
  simp only [List.take_left, List.drop_left, noFraction, ← noTail, noPower, List.isEmpty_nil,
    Option.isNone_none, Bool.and_self, if_true, if_neg (Nat.not_le_of_lt long), List.isEmpty_cons,
    Bool.false_eq_true, if_false]

theorem Bursts.starts {part : Part} {limit : ℕ} {text : List Char}
    (bursts : Bursts part limit text) :
    ∃ char tail, text = char :: tail ∧ StartsValue char ∧ (part = .members → char = '"') := by
  induction bursts with
  | deep opens =>
    rcases opens with rfl | rfl <;> exact ⟨_, _, rfl, Or.inr (by decide), nofun⟩
  | long isLong =>
    rcases isLong.numberText.1 with ⟨negative, digit, tail, isDigit, rfl⟩
    cases negative with
    | true => exact ⟨'-', _, rfl, Or.inr (by decide), nofun⟩
    | false => exact ⟨digit, _, rfl, Or.inl isDigit, nofun⟩
  | list _ _ _ => exact ⟨'[', _, rfl, Or.inr (by decide), nofun⟩
  | object _ _ _ => exact ⟨'\x7b', _, rfl, Or.inr (by decide), nofun⟩
  | item _ ih =>
    rcases ih with ⟨char, tail, rfl, starts, _⟩
    exact ⟨char, tail, rfl, starts, nofun⟩
  | nextItem _ spells _ _ _ =>
    rcases spells.starts with ⟨char, tail, rfl, starts, _⟩
    exact ⟨char, tail, rfl, starts, nofun⟩
  | member _ _ _ _ | nextMember _ _ _ _ _ _ =>
    exact ⟨'"', _, rfl, Or.inr (by decide), fun _ => rfl⟩

theorem Bursts.skipSpace_eq {part : Part} {limit : ℕ} {space text : List Char}
    (bursts : Bursts part limit text) (areBlank : space ⊆ blanks) :
    skipSpace (space ++ text) = text := by
  rcases bursts.starts with ⟨char, tail, rfl, starts, _⟩
  rw [skipSpace_append areBlank, starts.skipSpace]

/-- The item in front of what bursts the decoder is read. -/
theorem Spells.read {json : Json} {text rest : List Char} {fuel limit : ℕ}
    (spells : Spells (.value json) text rest) (fits : json.Fits true limit)
    (enough : text.length ≤ fuel + rest.length) :
    scanValue fuel limit text = .ok (json, rest) :=
  ((spells.readFrom enough).resolve_right fun other => other.1 fits).2

theorem Bursts.stopsAt {part : Part} {limit : ℕ} {text : List Char}
    (bursts : Bursts part limit text) (fuel : ℕ) : part.StopsAt limit text fuel := by
  induction bursts generalizing fuel with
  | deep opens =>
    intro enough
    rcases fuel with _ | fuel
    · exact absurd enough (Nat.not_lt_zero _)
    rcases opens with rfl | rfl <;> exact ⟨.tooDeep, nofun, rfl⟩
  | @long limit text isLong =>
    intro enough
    rcases fuel with _ | fuel
    · exact absurd enough (Nat.not_lt_zero _)
    have read := isLong.numberText.1.scanValue fuel limit []
    rw [List.append_nil] at read
    rw [read]
    exact isLong.numberText.2
  | @list limit space text areBlank bursts ih =>
    intro enough
    rcases fuel with _ | fuel
    · exact absurd enough (Nat.not_lt_zero _)
    simp only [List.length_cons, List.length_append] at enough
    have stops := ih fuel (by omega)
    rcases bursts.starts with ⟨char, tail, rfl, starts, _⟩
    rw [scanValue_items (bursts.skipSpace_eq areBlank) starts]
    exact stops.map _
  | @object limit space text areBlank bursts ih =>
    intro enough
    rcases fuel with _ | fuel
    · exact absurd enough (Nat.not_lt_zero _)
    simp only [List.length_cons, List.length_append] at enough
    have stops := ih fuel (by omega)
    rcases bursts.starts with ⟨char, tail, rfl, starts, isQuote⟩
    obtain rfl := isQuote rfl
    rw [scanValue_members (bursts.skipSpace_eq areBlank)]
    exact stops.map _
  | item bursts ih =>
    intro enough
    rcases fuel with _ | fuel
    · exact absurd enough (Nat.not_lt_zero _)
    rw [scanItems]
    exact (ih fuel (by omega)).bind _
  | nextItem areBlank spells fits bursts ih =>
    intro enough
    rcases fuel with _ | fuel
    · exact absurd enough (Nat.not_lt_zero _)
    have shorter := spells.length_lt
    simp only [List.length_cons, List.length_append] at shorter
    rw [List.append_subset] at areBlank
    have read := spells.read fits (by omega : _ ≤ fuel + _)
    rw [scanItems_next read (skipSpace_before areBlank.1 (by decide) _),
      bursts.skipSpace_eq areBlank.2]
    exact (ih fuel (by omega)).map _
  | member areBlank spellsKey bursts ih =>
    intro enough
    rcases fuel with _ | fuel
    · exact absurd enough (Nat.not_lt_zero _)
    have shorter := spellsKey.length_lt
    simp only [List.length_cons, List.length_append] at shorter enough
    rw [List.append_subset] at areBlank
    have stops := ih fuel (by omega)
    rw [← bursts.skipSpace_eq areBlank.2] at stops
    rw [scanMembers, spellsKey.scanString]
    simp only [bind, Except.bind, skipSpace_before areBlank.1 (by decide : ':' ∉ blanks)]
    exact stops.bind _
  | nextMember areBlank spellsKey spells fits bursts ih =>
    intro enough
    rcases fuel with _ | fuel
    · exact absurd enough (Nat.not_lt_zero _)
    have shorterKey := spellsKey.length_lt
    have shorter := spells.length_lt
    simp only [List.length_cons, List.length_append] at shorter shorterKey enough
    simp only [List.append_subset] at areBlank
    have read := spells.read fits (by omega : _ ≤ fuel + _)
    have stops := ih fuel (by omega)
    rw [← bursts.skipSpace_eq areBlank.2] at stops
    rw [← spells.skipSpace_eq areBlank.1.1.2] at read
    rw [scanMembers, spellsKey.scanString]
    simp only [bind, Except.bind, skipSpace_before areBlank.1.1.1 (by decide : ':' ∉ blanks), read,
      skipSpace_before areBlank.1.2 (by decide : ',' ∉ blanks)]
    exact stops.bind _

/-- The interpreter stops the decoder exactly on the texts that burst it. -/
theorem Json.parse_stops_iff (limit : ℕ) (text : List Char) :
    Stops (Json.parse limit text) ↔ BurstsText limit text := by
  constructor
  · rintro ⟨error, isReason, failed⟩
    have tells := Json.parse_tells limit text
    rw [failed] at tells
    cases error with
    | malformed => exact absurd rfl isReason
    | _ => exact tells
  · rintro ⟨space, body, areBlank, rfl, bursts⟩
    have noMark : (space ++ body).head? ≠ some (Char.ofNat 0xFEFF) := by
      rcases bursts.starts with ⟨char, tail, rfl, starts, _⟩
      exact starts.noMark areBlank tail
    have stops := bursts.stopsAt (2 * (space ++ body).length + 1) (by
      rw [List.length_append]
      omega)
    rcases stops with ⟨error, isReason, failed⟩
    rw [Json.parse, if_neg noMark, bursts.skipSpace_eq areBlank, failed]
    exact ⟨error, isReason, rfl⟩

end Reperio.Python
