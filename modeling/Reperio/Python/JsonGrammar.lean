import Reperio.Python.JsonScan

/-!
# The grammar of JSON texts

The texts that spell a value, with any blanks between its parts, any way of writing
its numbers and any escapes in its strings, and with the literals `NaN` and `Infinity`
of Python. The decoder reads a text that spells a value exactly when the value is not
too deep for it and its integers are not too long (`SpellsText.gives_parse`).
-/

namespace Reperio.Python

/-! ## Leaves -/

/-- What stands before the closing quote spells the units of a string. -/
inductive SpellsUnits : List Char → PyStr → List Char → Prop where
  | quote {rest : List Char} : SpellsUnits ('"' :: rest) [] rest
  | plain {char : Char} {text rest : List Char} {units : PyStr} (visible : 32 ≤ char.toNat)
      (notQuote : char ≠ '"') (notEscape : char ≠ '\\') (spells : SpellsUnits text units rest) :
      SpellsUnits (char :: text) (.ofChar char :: units) rest
  | escape {letter : Char} {point : CodePoint} {text rest : List Char} {units : PyStr}
      (isEscape : simpleEscape? letter = some point) (spells : SpellsUnits text units rest) :
      SpellsUnits ('\\' :: letter :: text) (point :: units) rest
  | unit {first second third fourth : Char} {unit : CodePoint} {text rest : List Char} {units :
    PyStr} (isUnit : hexUnit? first second third fourth = some unit)
      (spells : SpellsUnits text units rest) :
      SpellsUnits ('\\' :: 'u' :: first :: second :: third :: fourth :: text) (unit :: units) rest

def signText : Option Bool → List Char
  | none => []
  | some true => ['-']
  | some false => ['+']

/-- A power of ten, or none. -/
inductive SpellsExponent : List Char → Option ℤ → List Char → Prop where
  | absent {rest : List Char} (ends : Ends rest) : SpellsExponent rest none rest
  | present {letter : Char} {digits rest : List Char} (isLetter : letter = 'e' ∨ letter = 'E')
      (sign : Option Bool) (nonempty : digits ≠ [])
      (areDigits : ∀ char ∈ digits, char.isDigit = true) (ends : Ends rest) :
      SpellsExponent (letter :: (signText sign ++ (digits ++ rest)))
        (some (signed (sign.getD false) (Nat.ofDigitChars 10 digits 0))) rest

/-- What follows a number ends it. -/
inductive SpellsNumber : List Char → Json → List Char → Prop where
  | int {rest : List Char} (negative : Bool) (magnitude : ℕ) (ends : Ends rest) :
      SpellsNumber ((if negative then ['-'] else []) ++ (Nat.toDigits 10 magnitude ++ rest))
        (.int (signed negative magnitude)) rest
  | float {fraction power rest : List Char} {exponent : Option ℤ} (negative : Bool) (whole : ℕ)
      (areDigits : ∀ char ∈ fraction, char.isDigit = true)
      (spells : SpellsExponent power exponent rest)
      (notInt : (fraction.isEmpty && exponent.isNone) = false) :
      SpellsNumber ((if negative then ['-'] else []) ++
          (Nat.toDigits 10 whole ++ (fractionText fraction ++ power)))
        (.float (.read negative (Nat.ofDigitChars 10 (Nat.toDigits 10 whole ++ fraction) 0)
          (exponent.getD 0 - fraction.length))) rest

/-! ## Values -/

/-- What a part of a text spells. -/
inductive Form where
  | value (json : Json)
  | items (items : List Json)
  | members (members : List (PyStr × Json))

/-- The text before the rest spells a value, the items of an array up to its bracket, or the
members of an object up to its brace. -/
inductive Spells : Form → List Char → List Char → Prop where
  | literal {word rest : List Char} {json : Json} (isLiteral : (word, json) ∈ literals) :
      Spells (.value json) (word ++ rest) rest
  | number {json : Json} {text rest : List Char} (spells : SpellsNumber text json rest) :
      Spells (.value json) text rest
  | text {text rest : List Char} {units : PyStr} (spells : SpellsUnits text units rest) :
      Spells (.value (.text (joinSurrogates units))) ('"' :: text) rest
  | emptyList {space rest : List Char} (areBlank : space ⊆ blanks) :
      Spells (.value (.list [])) ('[' :: (space ++ ']' :: rest)) rest
  | list {items : List Json} {space text rest : List Char} (areBlank : space ⊆ blanks)
      (spells : Spells (.items items) text rest) :
      Spells (.value (.list items)) ('[' :: (space ++ text)) rest
  | emptyObject {space rest : List Char} (areBlank : space ⊆ blanks) :
      Spells (.value (.object [])) ('\x7b' :: (space ++ '\x7d' :: rest)) rest
  | object {members : List (PyStr × Json)} {space text rest : List Char} (areBlank : space ⊆ blanks)
      (spells : Spells (.members members) text rest) :
      Spells (.value (.object members)) ('\x7b' :: (space ++ text)) rest
  | lastItem {item : Json} {text space rest : List Char} (areBlank : space ⊆ blanks)
      (spells : Spells (.value item) text (space ++ ']' :: rest)) :
      Spells (.items [item]) text rest
  | nextItem {item : Json} {items : List Json} {text space next more rest : List Char}
      (areBlank : space ++ next ⊆ blanks)
      (spells : Spells (.value item) text (space ++ ',' :: (next ++ more)))
      (spellsMore : Spells (.items items) more rest) :
      Spells (.items (item :: items)) text rest
  | lastMember {units : PyStr} {value : Json} {text colon before valueText space rest : List Char}
      (areBlank : colon ++ before ++ space ⊆ blanks)
      (spellsKey : SpellsUnits text units (colon ++ ':' :: (before ++ valueText)))
      (spells : Spells (.value value) valueText (space ++ '\x7d' :: rest)) :
      Spells (.members [(joinSurrogates units, value)]) ('"' :: text) rest
  | nextMember {units : PyStr} {value : Json} {members : List (PyStr × Json)}
      {text colon before valueText space next more rest : List Char}
      (areBlank : colon ++ before ++ space ++ next ⊆ blanks)
      (spellsKey : SpellsUnits text units (colon ++ ':' :: (before ++ valueText)))
      (spells : Spells (.value value) valueText (space ++ ',' :: (next ++ more)))
      (spellsMore : Spells (.members members) more rest) :
      Spells (.members ((joinSurrogates units, value) :: members)) ('"' :: text) rest

/-! ## How the leaves are read -/

variable {rest : List Char} {units : PyStr} {exponent : Option ℤ}

theorem SpellsUnits.scan {text : List Char} (spells : SpellsUnits text units rest) :
    scanUnits text = .ok (units, rest) := by
  induction spells with
  | quote => rw [scanUnits]
  | plain visible notQuote notEscape spells ih =>
    rw [scanUnits_plain notQuote notEscape visible, ih]
    rfl
  | escape isEscape spells ih =>
    have notUnit : ∀ {letter : Char} {point : CodePoint}, simpleEscape? letter = some point →
        letter ≠ 'u' := by
      rintro letter point isEscape rfl
      cases isEscape
    rw [scanUnits_simple (notUnit isEscape) isEscape, ih]
    rfl
  | unit isUnit spells ih =>
    rw [scanUnits, isUnit]
    simp only [ih]
    rfl

theorem SpellsUnits.length_lt {text : List Char} (spells : SpellsUnits text units rest) :
    rest.length < text.length := by
  induction spells with
  | quote => simp
  | plain _ _ _ _ ih => exact Nat.lt_succ_of_lt ih
  | escape _ _ ih =>
    simp only [List.length_cons]
    omega
  | unit _ _ ih =>
    simp only [List.length_cons]
    omega

theorem SpellsUnits.scanString {text : List Char} (spells : SpellsUnits text units rest) :
    scanString text = .ok (joinSurrogates units, rest) := by
  rw [Python.scanString, spells.scan]
  rfl

theorem scanSign_signText (sign : Option Bool) {digits : List Char} (rest : List Char)
    (nonempty : digits ≠ []) (areDigits : ∀ char ∈ digits, char.isDigit = true) :
    scanSign (signText sign ++ (digits ++ rest)) = (sign.getD false, digits ++ rest) := by
  match sign with
  | some true => rfl
  | some false => rfl
  | none =>
    rcases List.exists_cons_of_ne_nil nonempty with ⟨digit, digits, rfl⟩
    have isDigit := areDigits digit List.mem_cons_self
    rw [signText, List.nil_append, List.cons_append]
    unfold scanSign
    split
    · rename_i same
      cases same
      cases isDigit
    · rename_i same
      cases same
      cases isDigit
    · rfl

theorem SpellsExponent.scan {text : List Char} (spells : SpellsExponent text exponent rest) :
    scanExponent text = (exponent, rest) ∧ NoDigit text ∧ text.head? ≠ some '.' := by
  cases spells with
  | absent ends =>
    refine ⟨?_, ends.noDigit, ends.noPoint⟩
    exact @scanExponent_text none _ (by simp) ends
  | @present letter digits _ isLetter sign nonempty areDigits ends =>
    refine ⟨?_, ?_, ?_⟩
    · rw [scanExponent, if_pos isLetter, scanSign_signText sign rest nonempty areDigits]
      simp only [takeWhile_digits areDigits ends.noDigit, dropWhile_digits areDigits ends.noDigit,
        List.isEmpty_iff, if_neg nonempty]
    · rintro char isHead
      cases isHead
      rcases isLetter with rfl | rfl <;> rfl
    · rintro isHead
      cases isHead
      rcases isLetter with same | same <;> cases same

/-! ## Results under a condition -/

/-- Under a condition the result is a value, and otherwise an error. -/
def Gives {ε α : Type} (result : Except ε α) (holds : Prop) (value : α) : Prop :=
  holds ∧ result = .ok value ∨ ¬ holds ∧ ∃ error, result = .error error

theorem Gives.ok {ε α : Type} (value : α) : Gives (.ok value : Except ε α) True value :=
  Or.inl ⟨trivial, rfl⟩

theorem Gives.congr {ε α : Type} {result : Except ε α} {holds same : Prop} {value : α}
    (gives : Gives result holds value) (iff : holds ↔ same) : Gives result same value :=
  propext iff ▸ gives

theorem Gives.bind {ε α β : Type} {result : Except ε α} {next : α → Except ε β}
    {holds holdsNext : Prop} {value : α} {final : β} (gives : Gives result holds value)
    (givesNext : Gives (next value) holdsNext final) :
    Gives (result >>= next) (holds ∧ holdsNext) final := by
  rcases gives with ⟨here, rfl⟩ | ⟨notHere, error, rfl⟩
  · exact givesNext.congr (and_iff_right here).symm
  · exact Or.inr ⟨fun both => notHere both.1, error, rfl⟩

theorem Gives.map {ε α β : Type} {result : Except ε α} {holds : Prop} {value : α}
    (gives : Gives result holds value) (change : α → β) :
    Gives (result.map change) holds (change value) := by
  rcases gives with ⟨here, rfl⟩ | ⟨notHere, error, rfl⟩
  · exact Or.inl ⟨here, rfl⟩
  · exact Or.inr ⟨notHere, error, rfl⟩

/-! ## Numbers -/

theorem head_toDigits (number : ℕ) (rest : List Char) :
    ∃ digit tail, Nat.toDigits 10 number ++ rest = digit :: tail ∧ digit.isDigit = true := by
  cases digits : Nat.toDigits 10 number with
  | nil => exact absurd digits Nat.toDigits_ne_nil
  | cons digit tail =>
    exact ⟨digit, tail ++ rest, rfl, isDigit_of_mem_toDigits (digits ▸ List.mem_cons_self)⟩

theorem SpellsNumber.numberText {text : List Char} {json : Json}
    (spells : SpellsNumber text json rest) : NumberText text := by
  cases spells with
  | int negative magnitude ends =>
    rcases head_toDigits magnitude rest with ⟨digit, tail, shown, isDigit⟩
    exact ⟨negative, digit, tail, isDigit, by rw [shown]⟩
  | @float fraction power _ _ negative whole _ _ _ =>
    rcases head_toDigits whole (fractionText fraction ++ power) with ⟨digit, tail, shown, isDigit⟩
    exact ⟨negative, digit, tail, isDigit, by rw [shown]⟩

theorem SpellsExponent.length_le {text : List Char} (spells : SpellsExponent text exponent rest) :
    rest.length ≤ text.length := by
  cases spells with
  | absent => exact le_rfl
  | present =>
    simp only [List.length_cons, List.length_append]
    omega

theorem SpellsNumber.length_lt {text : List Char} {json : Json}
    (spells : SpellsNumber text json rest) : rest.length < text.length := by
  cases spells with
  | int negative magnitude ends =>
    have some := List.length_pos_iff.mpr (@Nat.toDigits_ne_nil magnitude 10)
    simp only [List.length_append]
    omega
  | float negative whole areDigits spells notInt =>
    have some := List.length_pos_iff.mpr (@Nat.toDigits_ne_nil whole 10)
    have power := spells.length_le
    simp only [List.length_append]
    omega

theorem scanNumber_toDigits (negative : Bool) (number : ℕ) (rest : List Char) :
    scanNumber ((if negative then ['-'] else []) ++ (Nat.toDigits 10 number ++ rest)) =
      scanUnsigned negative (Nat.toDigits 10 number ++ rest) := by
  rcases head_toDigits number rest with ⟨digit, tail, shown, isDigit⟩
  rw [shown, scanNumber_signed isDigit]

theorem natAbs_signed (negative : Bool) (magnitude : ℕ) :
    (signed negative magnitude).natAbs = magnitude := by
  cases negative
  · exact Int.natAbs_natCast magnitude
  · exact (Int.natAbs_neg _).trans (Int.natAbs_natCast magnitude)

/-- A number is read unless it is an integer that is too long. -/
theorem SpellsNumber.gives {text : List Char} {json : Json} (spells : SpellsNumber text json rest)
    (limit : ℕ) : Gives (scanNumber text) (json.Fits true limit) (json, rest) := by
  cases spells with
  | int negative magnitude ends =>
    have read := @scanUnsigned_parts _ [] rest rest none negative
      Nat.toDigits_ne_nil (fun _ => isDigit_of_mem_toDigits) (toDigits_zero_or_head magnitude)
      (by simp) ends.noDigit ends.noPoint (@scanExponent_text none rest (by simp) ends)
    rw [scanNumber_toDigits]
    rw [fractionText, List.nil_append] at read
    rw [read, Json.Fits, natAbs_signed, Nat.ofDigitChars_ten_toDigits]
    by_cases short : (Nat.toDigits 10 magnitude).length ≤ intMaxStrDigits
    · exact Or.inl ⟨short, if_pos short⟩
    · exact Or.inr ⟨short, _, if_neg short⟩
  | float negative whole areDigits spells notInt =>
    rcases spells.scan with ⟨read, noDigit, noPoint⟩
    rw [scanNumber_toDigits, scanUnsigned_parts negative Nat.toDigits_ne_nil
      (fun _ => isDigit_of_mem_toDigits) (toDigits_zero_or_head whole) areDigits noDigit noPoint
      read,
      notInt, if_neg Bool.false_ne_true]
    refine (Gives.ok _).congr ⟨fun _ => ?_, fun _ => trivial⟩
    rw [Json.Fits, PyFloat.allowed]
    split <;> rfl

/-! ## How a text is read -/

theorem literal_pos : ∀ literal ∈ literals, 0 < literal.1.length := by decide

namespace Spells

variable {form : Form} {text rest : List Char}

theorem length_lt (spells : Spells form text rest) : rest.length < text.length := by
  induction spells with
  | literal isLiteral =>
    rw [List.length_append, Nat.lt_add_left_iff_pos]
    exact literal_pos _ isLiteral
  | number spells => exact spells.length_lt
  | text spells => exact Nat.lt_succ_of_lt spells.length_lt
  | emptyList areBlank | emptyObject areBlank =>
    simp only [List.length_cons, List.length_append]
    omega
  | list areBlank spells ih | object areBlank spells ih =>
    simp only [List.length_cons, List.length_append]
    omega
  | lastItem areBlank spells ih =>
    simp only [List.length_cons, List.length_append] at ih
    omega
  | nextItem areBlank spells spellsMore ih ihMore =>
    simp only [List.length_cons, List.length_append] at ih
    omega
  | lastMember areBlank spellsKey spells ih =>
    have key := spellsKey.length_lt
    simp only [List.length_cons, List.length_append] at ih key ⊢
    omega
  | nextMember areBlank spellsKey spells spellsMore ih ihMore =>
    have key := spellsKey.length_lt
    simp only [List.length_cons, List.length_append] at ih key ⊢
    omega

theorem starts (spells : Spells form text rest) :
    ∃ char tail, text = char :: tail ∧ StartsValue char ∧
      ∀ members, form = .members members → char = '"' := by
  induction spells with
  | literal isLiteral =>
    simp only [literals, List.mem_cons, Prod.mk.injEq, List.not_mem_nil, or_false] at isLiteral
    rcases isLiteral with ⟨rfl, _⟩ | ⟨rfl, _⟩ | ⟨rfl, _⟩ | ⟨rfl, _⟩ | ⟨rfl, _⟩ | ⟨rfl, _⟩ <;>
      exact ⟨_, _, rfl, Or.inr (by decide), by simp⟩
  | number spells =>
    rcases spells.numberText with ⟨negative, digit, tail, isDigit, rfl⟩
    cases negative with
    | true => exact ⟨'-', _, rfl, Or.inr (by decide), by simp⟩
    | false => exact ⟨digit, _, rfl, Or.inl isDigit, by simp⟩
  | text spells => exact ⟨'"', _, rfl, Or.inr (by decide), by simp⟩
  | emptyList _ | list _ _ _ => exact ⟨'[', _, rfl, Or.inr (by decide), by simp⟩
  | emptyObject _ | object _ _ _ => exact ⟨'\x7b', _, rfl, Or.inr (by decide), by simp⟩
  | lastItem _ _ ih | nextItem _ _ _ ih _ =>
    rcases ih with ⟨char, tail, rfl, starts, _⟩
    exact ⟨char, tail, rfl, starts, by simp⟩
  | lastMember _ _ _ _ | nextMember _ _ _ _ _ _ =>
    exact ⟨'"', _, rfl, Or.inr (by decide), fun _ _ => rfl⟩

theorem skipSpace_eq (spells : Spells form text rest) {space : List Char}
    (areBlank : space ⊆ blanks) : skipSpace (space ++ text) = text := by
  rcases spells.starts with ⟨char, tail, rfl, starts, _⟩
  rw [skipSpace_append areBlank, starts.skipSpace]

end Spells

theorem skipSpace_before {char : Char} {space : List Char} (areBlank : space ⊆ blanks)
    (visible : char ∉ blanks) (rest : List Char) : skipSpace (space ++ char :: rest) =
    char :: rest := by
  rw [skipSpace_append areBlank, skipSpace_cons visible]

/-- What the decoder makes of a text that spells it. -/
def Form.ReadFrom (fuel limit : ℕ) (text rest : List Char) : Form → Prop
  | .value json => Gives (scanValue fuel limit text) (json.Fits true limit) (json, rest)
  | .items jsons =>
    Gives (scanItems fuel limit text) (Json.FitsItems true limit jsons) (jsons, rest)
  | .members pairs =>
    Gives (scanMembers fuel limit text) (Json.FitsMembers true limit pairs) (pairs, rest)

theorem Spells.readFrom {form : Form} {text : List Char} (spells : Spells form text rest) :
    ∀ {fuel limit : ℕ}, text.length ≤ fuel + rest.length → form.ReadFrom fuel limit text rest := by
  induction spells with
  | @literal word rest json isLiteral =>
    intro fuel limit enough
    rcases fuel with _ | fuel
    · have shorter := (Spells.literal isLiteral : Spells _ _ rest).length_lt
      omega
    simp only [literals, List.mem_cons, Prod.mk.injEq, List.not_mem_nil, or_false] at isLiteral
    rcases isLiteral with ⟨rfl, rfl⟩ | ⟨rfl, rfl⟩ | ⟨rfl, rfl⟩ | ⟨rfl, rfl⟩ | ⟨rfl, rfl⟩ |
      ⟨rfl, rfl⟩ <;> exact (Gives.ok _).congr ⟨fun _ => by trivial, fun _ => trivial⟩
  | number spells =>
    intro fuel limit enough
    rcases fuel with _ | fuel
    · exact absurd spells.length_lt (by omega)
    have read := spells.numberText.scanValue fuel limit []
    rw [List.append_nil] at read
    rw [Form.ReadFrom, read]
    exact spells.gives limit
  | text spells =>
    intro fuel limit enough
    rcases fuel with _ | fuel
    · exact absurd (Spells.text spells).length_lt (by omega)
    rw [Form.ReadFrom, scanValue, spells.scanString]
    exact Gives.ok _
  | emptyList areBlank =>
    intro fuel limit enough
    rcases fuel with _ | fuel
    · simp only [List.length_cons, List.length_append] at enough
      omega
    rcases limit with _ | limit
    · exact Or.inr ⟨fun fits => absurd fits.1 (lt_irrefl 0), .tooDeep, rfl⟩
    rw [Form.ReadFrom, scanValue, skipSpace_before areBlank (by decide)]
    exact (Gives.ok _).congr ⟨fun _ => ⟨Nat.succ_pos limit, trivial⟩, fun _ => trivial⟩
  | emptyObject areBlank =>
    intro fuel limit enough
    rcases fuel with _ | fuel
    · simp only [List.length_cons, List.length_append] at enough
      omega
    rcases limit with _ | limit
    · exact Or.inr ⟨fun fits => absurd fits.1 (lt_irrefl 0), .tooDeep, rfl⟩
    rw [Form.ReadFrom, scanValue, skipSpace_before areBlank (by decide)]
    exact (Gives.ok _).congr ⟨fun _ => ⟨Nat.succ_pos limit, trivial⟩, fun _ => trivial⟩
  | list areBlank spells ih =>
    intro fuel limit enough
    rcases fuel with _ | fuel
    · exact absurd (Spells.list areBlank spells).length_lt (by omega)
    rcases limit with _ | limit
    · exact Or.inr ⟨fun fits => absurd fits.1 (lt_irrefl 0), .tooDeep, rfl⟩
    simp only [List.length_cons, List.length_append] at enough
    have read := @ih fuel limit (by omega)
    rcases spells.starts with ⟨char, tail, rfl, starts, _⟩
    have skipped := spells.skipSpace_eq areBlank
    rw [Form.ReadFrom, scanValue_items skipped starts]
    exact (Gives.map read _).congr (and_iff_right (Nat.succ_pos limit)).symm
  | object areBlank spells ih =>
    intro fuel limit enough
    rcases fuel with _ | fuel
    · exact absurd (Spells.object areBlank spells).length_lt (by omega)
    rcases limit with _ | limit
    · exact Or.inr ⟨fun fits => absurd fits.1 (lt_irrefl 0), .tooDeep, rfl⟩
    simp only [List.length_cons, List.length_append] at enough
    have read := @ih fuel limit (by omega)
    rcases spells.starts with ⟨char, tail, rfl, starts, isQuote⟩
    have skipped := spells.skipSpace_eq areBlank
    obtain rfl := isQuote _ rfl
    rw [Form.ReadFrom, scanValue_members skipped]
    exact (Gives.map read _).congr (and_iff_right (Nat.succ_pos limit)).symm
  | @lastItem item text space rest areBlank spells ih =>
    intro fuel limit enough
    have shorter := spells.length_lt
    simp only [List.length_cons, List.length_append] at ih shorter
    rcases fuel with _ | fuel
    · omega
    have read := @ih fuel limit (by omega)
    rw [Form.ReadFrom, scanItems]
    refine (Gives.bind read ?_).congr Iff.rfl
    dsimp only
    rw [skipSpace_before areBlank (by decide)]
    exact Gives.ok _
  | nextItem areBlank spells spellsMore ih ihMore =>
    intro fuel limit enough
    have shorter := spells.length_lt
    have shorterMore := spellsMore.length_lt
    simp only [List.length_cons, List.length_append] at ih shorter
    rcases fuel with _ | fuel
    · omega
    have read := @ih fuel limit (by omega)
    have readMore := @ihMore fuel limit (by omega)
    rw [List.append_subset] at areBlank
    rw [Form.ReadFrom, scanItems]
    refine Gives.bind read ?_
    rw [← spellsMore.skipSpace_eq areBlank.2] at readMore
    dsimp only
    rw [skipSpace_before areBlank.1 (by decide)]
    exact (@Gives.bind _ _ _ _ (fun found => .ok (_ :: found.1, found.2)) _ _ _ _ readMore
      (Gives.ok _)).congr (and_iff_left trivial)
  | lastMember areBlank spellsKey spells ih =>
    intro fuel limit enough
    have shorterKey := spellsKey.length_lt
    have shorter := spells.length_lt
    simp only [List.length_cons, List.length_append] at ih shorter shorterKey enough
    rcases fuel with _ | fuel
    · omega
    have read := @ih fuel limit (by omega)
    simp only [List.append_subset] at areBlank
    rw [Form.ReadFrom, scanMembers, spellsKey.scanString]
    refine ((Gives.ok _).bind ?_).congr (and_iff_right trivial)
    rw [← spells.skipSpace_eq areBlank.1.2] at read
    dsimp only
    rw [skipSpace_before areBlank.1.1 (by decide)]
    refine Gives.bind read ?_
    dsimp only
    rw [skipSpace_before areBlank.2 (by decide)]
    exact Gives.ok _
  | nextMember areBlank spellsKey spells spellsMore ih ihMore =>
    intro fuel limit enough
    have shorterKey := spellsKey.length_lt
    have shorter := spells.length_lt
    have shorterMore := spellsMore.length_lt
    simp only [List.length_cons, List.length_append] at ih shorter shorterKey enough
    rcases fuel with _ | fuel
    · omega
    have read := @ih fuel limit (by omega)
    have readMore := @ihMore fuel limit (by omega)
    simp only [List.append_subset] at areBlank
    rw [Form.ReadFrom, scanMembers, spellsKey.scanString]
    refine ((Gives.ok _).bind ?_).congr (and_iff_right trivial)
    rw [← spells.skipSpace_eq areBlank.1.1.2] at read
    dsimp only
    rw [skipSpace_before areBlank.1.1.1 (by decide)]
    rw [← spellsMore.skipSpace_eq areBlank.2] at readMore
    refine Gives.bind read ?_
    dsimp only
    rw [skipSpace_before areBlank.1.2 (by decide)]
    exact (@Gives.bind _ _ _ _ (fun found => .ok (_ :: found.1, found.2)) _ _ _ _ readMore
      (Gives.ok _)).congr (and_iff_left trivial)

/-- A whole text: a value between blanks. -/
def SpellsText (json : Json) (text : List Char) : Prop :=
  ∃ before body after, before ⊆ blanks ∧ after ⊆ blanks ∧ text = before ++ body ∧
    Spells (.value json) body after

/-- A text that spells a value is read as it, unless it is too deep or has integers that are too
long. -/
theorem SpellsText.gives_parse {json : Json} {text : List Char} (spells : SpellsText json text)
    (limit : ℕ) : Gives (Json.parse limit text) (json.Fits true limit) json := by
  rcases spells with ⟨before, body, after, blankBefore, blankAfter, rfl, spells⟩
  have read : Form.ReadFrom (2 * (before ++ body).length + 1) limit body after (.value json) :=
    spells.readFrom (by
      rw [List.length_append]
      omega)
  rw [Form.ReadFrom] at read
  have noMark : (before ++ body).head? ≠ some (Char.ofNat 0xFEFF) := by
    rcases spells.starts with ⟨char, tail, rfl, starts, _⟩
    exact starts.noMark blankBefore tail
  rw [Json.parse, if_neg noMark, spells.skipSpace_eq blankBefore]
  have nothing : skipSpace after = [] := by
    have skipped := skipSpace_append blankAfter []
    rw [List.append_nil] at skipped
    exact skipped
  rcases read with ⟨fits, read⟩ | ⟨tooMuch, error, failed⟩
  · refine Or.inl ⟨fits, ?_⟩
    rw [read]
    dsimp only
    rw [nothing]
    rfl
  · refine Or.inr ⟨tooMuch, error, ?_⟩
    rw [failed]

/-! ## Where an object ends -/

theorem SpellsUnits.suffix {text : List Char} (spells : SpellsUnits text units rest) :
    rest <:+ text := by
  induction spells with
  | quote => exact List.suffix_cons _ _
  | plain _ _ _ _ ih => exact ih.trans (List.suffix_cons _ _)
  | escape _ _ ih => exact ih.trans ⟨[_, _], rfl⟩
  | unit _ _ ih => exact ih.trans ⟨[_, _, _, _, _, _], rfl⟩

theorem SpellsExponent.suffix {text : List Char} (spells : SpellsExponent text exponent rest) :
    rest <:+ text := by
  cases spells with
  | absent => exact List.suffix_refl _
  | present =>
    rw [← List.append_assoc]
    exact (List.suffix_append _ _).trans (List.suffix_cons _ _)

theorem SpellsNumber.suffix {text : List Char} {json : Json}
    (spells : SpellsNumber text json rest) : rest <:+ text := by
  cases spells with
  | int negative magnitude ends =>
    rw [← List.append_assoc]
    exact List.suffix_append _ _
  | float negative whole areDigits spells notInt =>
    rw [← List.append_assoc, ← List.append_assoc]
    exact spells.suffix.trans (List.suffix_append _ _)

theorem suffix_of_append_cons {before text : List Char} {char : Char}
    (suffix : before ++ char :: rest <:+ text) : char :: rest <:+ text :=
  (List.suffix_append _ _).trans suffix

theorem suffix_behind {before next more text : List Char} {char : Char}
    (suffix : before ++ char :: (next ++ more) <:+ text) : more <:+ text :=
  (List.suffix_append _ _).trans ((List.suffix_cons _ _).trans (suffix_of_append_cons suffix))

theorem Spells.suffix {form : Form} {text : List Char} (spells : Spells form text rest) :
    rest <:+ text ∧ ∀ members, form = .members members → '\x7d' :: rest <:+ text := by
  induction spells with
  | literal _ => exact ⟨List.suffix_append _ _, nofun⟩
  | number spells => exact ⟨spells.suffix, nofun⟩
  | text spells => exact ⟨spells.suffix.trans (List.suffix_cons _ _), nofun⟩
  | emptyList _ | emptyObject _ =>
    refine ⟨?_, nofun⟩
    exact ((List.suffix_cons _ _).trans (List.suffix_append _ _)).trans (List.suffix_cons _ _)
  | list _ _ ih | object _ _ ih =>
    exact ⟨(ih.1.trans (List.suffix_append _ _)).trans (List.suffix_cons _ _), nofun⟩
  | lastItem _ _ ih => exact ⟨(List.suffix_cons _ _).trans (suffix_of_append_cons ih.1), nofun⟩
  | nextItem _ _ _ ih ihMore => exact ⟨ihMore.1.trans (suffix_behind ih.1), nofun⟩
  | lastMember _ spellsKey _ ih =>
    have brace := ((suffix_of_append_cons ih.1).trans (suffix_behind spellsKey.suffix)).trans
      (List.suffix_cons '"' _)
    exact ⟨(List.suffix_cons _ _).trans brace, fun _ _ => brace⟩
  | nextMember _ spellsKey _ _ ih ihMore =>
    have brace := (((ihMore.2 _ rfl).trans (suffix_behind ih.1)).trans
      (suffix_behind spellsKey.suffix)).trans (List.suffix_cons '"' _)
    exact ⟨(List.suffix_cons _ _).trans brace, fun _ _ => brace⟩

/-- The text of an object begins and ends with its braces, but for blanks. -/
theorem SpellsText.braces {members : List (PyStr × Json)} {text : List Char}
    (spells : SpellsText (.object members) text) :
    ∃ before after, before ⊆ blanks ∧ after ⊆ blanks ∧ before ++ ['\x7b'] <+: text ∧
      '\x7d' :: after <:+ text := by
  rcases spells with ⟨before, body, after, blankBefore, blankAfter, rfl, spells⟩
  refine ⟨before, after, blankBefore, blankAfter, ?_, ?_⟩
  · cases spells with
    | literal isLiteral => simp [literals] at isLiteral
    | number spells => cases spells
    | emptyObject _ | object _ _ => exact (List.prefix_append_right_inj before).mpr ⟨_, rfl⟩
  · refine List.IsSuffix.trans ?_ (List.suffix_append before _)
    cases spells with
    | literal isLiteral => simp [literals] at isLiteral
    | number spells => cases spells
    | emptyObject _ => exact (List.suffix_append _ _).trans (List.suffix_cons _ _)
    | object _ spells =>
      exact ((spells.suffix.2 _ rfl).trans (List.suffix_append _ _)).trans (List.suffix_cons _ _)

end Reperio.Python
