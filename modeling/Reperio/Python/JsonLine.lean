import Reperio.Python.JsonCanonical

/-!
# JSON on a line

What the encoder writes is printable ASCII, so that a line break can end it, and
the decoder reads it back with the line break. A decoder that refuses the literals
`NaN` and `Infinity` reads whatever was written without them.
-/

namespace Reperio.Python

/-! ## Refused literals -/

/-- Outside of strings, the letters that only the refused literals have are made unreadable. The
flag says whether a string is open. -/
def markConstants : Bool → List Char → List Char
  | true, '\\' :: escaped :: rest => '\\' :: escaped :: markConstants true rest
  | inString, '"' :: rest => '"' :: markConstants (!inString) rest
  | true, char :: rest => char :: markConstants true rest
  | false, char :: rest =>
    (if char = 'N' ∨ char = 'I' then '?' else char) :: markConstants false rest
  | _, [] => []

/-- `json.loads(text, parse_constant=…)`, where the constants raise `ValueError`. An unreadable
literal is refused where the constant would be, with a class of that. -/
def loadsStrict (limit : ℕ) (text : String) : Except PyError PyValue :=
  loads limit (String.ofList (markConstants false text.toList))

/-- The characters are left alone, whatever follows. -/
def Unmarked (chars : List Char) : Prop :=
  ∀ rest, markConstants false (chars ++ rest) = chars ++ markConstants false rest

theorem Unmarked.append {first second : List Char} (firstUnmarked : Unmarked first)
    (secondUnmarked : Unmarked second) : Unmarked (first ++ second) := by
  intro rest
  rw [List.append_assoc, firstUnmarked, secondUnmarked, List.append_assoc]

/-- Printable ASCII, which is left alone. -/
def LineText (chars : List Char) : Prop :=
  (∀ char ∈ chars, 32 ≤ char.toNat ∧ char.toNat < 127) ∧ Unmarked chars

theorem LineText.append {first second : List Char} (firstText : LineText first)
    (secondText : LineText second) : LineText (first ++ second) :=
  ⟨List.forall_mem_append.mpr ⟨firstText.1, secondText.1⟩, firstText.2.append secondText.2⟩

variable {chars : List Char} {members : List (PyStr × Json)}

theorem lineText_of_plain
    (plain : ∀ char ∈ chars,
    (32 ≤ char.toNat ∧ char.toNat < 127) ∧ char ≠ '"' ∧ char ≠ 'N' ∧ char ≠ 'I') :
    LineText chars := by
  refine ⟨fun char isChar => (plain char isChar).1, fun rest => ?_⟩
  induction chars with
  | nil => rfl
  | cons char chars ih =>
    rw [List.forall_mem_cons] at plain
    rcases plain with ⟨⟨_, notQuote, notN, notI⟩, plain⟩
    rw [List.cons_append, markConstants, if_neg (not_or.mpr ⟨notN, notI⟩), ih plain]
    · rfl
    · exact notQuote

/-! ## Strings -/

/-- What stands between the quotes of a string. -/
inductive Escaped : List Char → Prop where
  | nil : Escaped []
  | plain {char : Char} {rest : List Char} (printable : 32 ≤ char.toNat ∧ char.toNat < 127)
      (notQuote : char ≠ '"') (notEscape : char ≠ '\\') (escaped : Escaped rest) :
      Escaped (char :: rest)
  | pair {char : Char} {rest : List Char} (printable : 32 ≤ char.toNat ∧ char.toNat < 127)
      (escaped : Escaped rest) : Escaped ('\\' :: char :: rest)

theorem Escaped.append {first second : List Char} (firstEscaped : Escaped first)
    (secondEscaped : Escaped second) : Escaped (first ++ second) := by
  induction firstEscaped with
  | nil => exact secondEscaped
  | plain printable notQuote notEscape _ ih => exact .plain printable notQuote notEscape ih
  | pair printable _ ih => exact .pair printable ih

theorem hexDigit_plain : ∀ value < 16,
    (32 ≤ (hexDigit value).toNat ∧ (hexDigit value).toNat < 127) ∧
    hexDigit value ≠ '"' ∧ hexDigit value ≠ '\\' := by
  decide

theorem escaped_escapeUnit (unit : ℕ) : Escaped (escapeUnit unit) := by
  have digit : ∀ {value : ℕ} {rest : List Char}, Escaped rest →
      Escaped (hexDigit (value % 16) :: rest) := by
    intro value rest escaped
    rcases hexDigit_plain (value % 16) (Nat.mod_lt _ (by decide))
      with ⟨printable, notQuote, notEscape⟩
    exact .plain printable notQuote notEscape escaped
  exact .pair (by decide) (digit (digit (digit (digit .nil))))

theorem escaped_escapePoint (point : CodePoint) : Escaped (escapePoint point.val) := by
  have simple : ∀ char ∈ ['"', '\\', 'n', 'r', 't', 'b', 'f'], Escaped ['\\', char] := by
    intro char isChar
    refine .pair ?_ .nil
    revert char
    simp
  unfold escapePoint
  split
  · exact simple '"' (by decide)
  rename_i notQuote
  split
  · exact simple '\\' (by decide)
  rename_i notEscape
  split
  · exact simple 'n' (by decide)
  split
  · exact simple 'r' (by decide)
  split
  · exact simple 't' (by decide)
  split
  · exact simple 'b' (by decide)
  split
  · exact simple 'f' (by decide)
  split
  · rename_i printable
    have number : (Char.ofNat point.val).toNat = point.val := by
      rw [Char.ofNat, dif_pos (Or.inl (by omega))]
      rfl
    refine .plain (by omega) ?_ ?_ .nil
    · intro isQuote
      rw [isQuote] at number
      exact notQuote number.symm
    · intro isEscape
      rw [isEscape] at number
      exact notEscape number.symm
  split
  · exact escaped_escapeUnit _
  · exact (escaped_escapeUnit _).append (escaped_escapeUnit _)

theorem Escaped.printable (escaped : Escaped chars) :
    ∀ char ∈ chars, 32 ≤ char.toNat ∧ char.toNat < 127 := by
  induction escaped with
  | nil => exact fun _ member => absurd member List.not_mem_nil
  | plain printable _ _ _ ih => exact List.forall_mem_cons.mpr ⟨printable, ih⟩
  | pair printable _ ih =>
    exact List.forall_mem_cons.mpr ⟨by decide, List.forall_mem_cons.mpr ⟨printable, ih⟩⟩

theorem Escaped.markConstants (escaped : Escaped chars) (rest : List Char) :
    markConstants true (chars ++ rest) = chars ++ Python.markConstants true rest := by
  induction escaped with
  | nil => rfl
  | @plain char others _ notQuote notEscape _ ih =>
    rw [List.cons_append, List.cons_append, ← ih, Python.markConstants.eq_def]
    split
    · rename_i same
      exact absurd (List.cons.inj same).1 notEscape
    · rename_i same
      exact absurd (List.cons.inj same).1 notQuote
    · rename_i same
      cases same
      rfl
    · rename_i isFalse _
      cases isFalse
    · rename_i same
      cases same
  | pair _ _ ih =>
    rw [List.cons_append, List.cons_append, Python.markConstants, ih]
    rfl

theorem lineText_quote (points : PyStr) : LineText (quote points) := by
  have escaped : Escaped (points.flatMap fun point => escapePoint point.val) := by
    induction points with
    | nil => exact .nil
    | cons point points ih => exact (escaped_escapePoint point).append ih
  unfold quote
  refine ⟨List.forall_mem_cons.mpr ⟨by decide, List.forall_mem_append.mpr ⟨escaped.printable, ?_⟩⟩,
    ?_⟩
  · exact fun char isQuote => List.mem_singleton.mp isQuote ▸ by decide
  · intro rest
    have closed : markConstants true ('"' :: rest) = '"' :: markConstants false rest := rfl
    have opened : ∀ chars, markConstants false ('"' :: chars) = '"' :: markConstants true chars :=
      fun chars => rfl
    rw [List.cons_append, opened, List.append_assoc, escaped.markConstants, List.singleton_append,
      closed, List.cons_append, List.append_assoc, List.singleton_append]

/-! ## Numbers -/

/-- The characters of numbers. -/
def IsNumeric (char : Char) : Prop := char.isDigit = true ∨ char ∈ ['-', '+', '.', 'e']

theorem lineText_of_numeric (numeric : ∀ char ∈ chars, IsNumeric char) : LineText chars := by
  refine lineText_of_plain fun char isChar => ?_
  rcases numeric char isChar with isDigit | isSign
  · rw [Char.isDigit, Bool.and_eq_true, decide_eq_true_iff, decide_eq_true_iff] at isDigit
    have low : 48 ≤ char.toNat := isDigit.1
    have high : char.toNat ≤ 57 := isDigit.2
    refine ⟨by omega, ?_, ?_, ?_⟩
    all_goals
      rintro rfl
      revert low high
      decide
  · clear isChar numeric
    revert char
    simp

theorem isNumeric_of_mem_toDigits {number : ℕ} {char : Char}
    (isDigit : char ∈ Nat.toDigits 10 number) : IsNumeric char :=
  Or.inl (isDigit_of_mem_toDigits isDigit)

theorem isNumeric_renderInt {value : ℤ} : ∀ char ∈ renderInt value, IsNumeric char := by
  intro char isChar
  rcases List.mem_append.mp isChar with isSign | isDigit
  · split at isSign
    · rw [List.mem_singleton.mp isSign]
      exact Or.inr (by decide)
    · cases isSign
  · exact isNumeric_of_mem_toDigits isDigit

theorem isNumeric_layoutFloat {digits : List Char} (numeric : ∀ char ∈ digits, char.isDigit = true)
    (point : ℤ) : ∀ char ∈ layoutFloat digits point, IsNumeric char := by
  have zeros : ∀ count, ∀ char ∈ List.replicate count '0', IsNumeric char :=
    fun count char isZero => Or.inl (isDigit_of_mem_zeros isZero)
  have digit : ∀ char ∈ digits, IsNumeric char := fun char isDigit => Or.inl (numeric char isDigit)
  have dot : IsNumeric '.' := Or.inr (by decide)
  have zero : IsNumeric '0' := Or.inl rfl
  unfold layoutFloat
  split
  · split
    · simp only [List.forall_mem_cons, List.forall_mem_append]
      exact ⟨zero, dot, zeros _, digit⟩
    · split
      · simp only [List.forall_mem_cons, List.forall_mem_append]
        exact ⟨⟨digit, zeros _⟩, dot, zero, nofun⟩
      · simp only [List.forall_mem_cons, List.forall_mem_append]
        exact ⟨fun char isChar => digit char (List.mem_of_mem_take isChar), dot,
          fun char isChar => digit char (List.mem_of_mem_drop isChar)⟩
  · dsimp only
    simp only [List.forall_mem_cons, List.forall_mem_append]
    refine ⟨?_, Or.inr (by decide), ?_, zeros _, fun char => isNumeric_of_mem_toDigits⟩
    · rcases digits with _ | ⟨first, _ | ⟨second, others⟩⟩
      · exact nofun
      · exact digit
      · simp only [List.forall_mem_cons] at digit ⊢
        exact ⟨digit.1, dot, digit.2⟩
    · split
      · exact Or.inr (by decide)
      · exact Or.inr (by decide)

theorem isNumeric_reprFinite {negative : Bool} {digits : ℕ} {exponent : ℤ} :
    ∀ char ∈ reprFinite negative digits exponent, IsNumeric char := by
  intro char isChar
  rcases List.mem_append.mp isChar with isSign | isDigit
  · split at isSign
    · rw [List.mem_singleton.mp isSign]
      exact Or.inr (by decide)
    · cases isSign
  · exact isNumeric_layoutFloat (fun _ => isDigit_of_mem_toDigits) _ char isDigit

/-! ## Values -/

theorem lineText_char {char : Char} (plain : (32 ≤ char.toNat ∧ char.toNat < 127) ∧ char ≠ '"' ∧
    char ≠ 'N' ∧ char ≠ 'I') : LineText [char] :=
  lineText_of_plain fun _ isChar => List.mem_singleton.mp isChar ▸ plain

theorem lineText_renderItems {items : List Json} (each : ∀ item ∈ items, LineText item.render) :
    LineText (Json.renderItems items) := by
  induction items with
  | nil => exact lineText_char (by decide)
  | cons item items ih =>
    rw [List.forall_mem_cons] at each
    cases items with
    | nil => exact each.1.append (lineText_char (by decide))
    | cons other items =>
      rw [Json.renderItems]
      exact each.1.append (@LineText.append [','] _ (lineText_char (by decide)) (ih each.2))

theorem lineText_renderMembers (each : ∀ member ∈ members, LineText member.2.render) :
    LineText (Json.renderMembers members) := by
  have colon : LineText [':'] := lineText_char (by decide)
  induction members with
  | nil => exact lineText_char (by decide)
  | cons member members ih =>
    rw [List.forall_mem_cons] at each
    rcases member with ⟨key, value⟩
    cases members with
    | nil =>
      rw [Json.renderMembers]
      exact (lineText_quote key).append (colon.append (each.1.append (lineText_char (by decide))))
    | cons other members =>
      rw [Json.renderMembers]
      exact (lineText_quote key).append (colon.append (each.1.append
        (@LineText.append [','] _ (lineText_char (by decide)) (ih each.2))))

/-- Whatever is written without the refused literals is printable and is left alone. -/
theorem lineText_render {json : Json} : ∀ {limit}, json.Fits false limit →
    LineText json.render := by
  induction json using Json.induct with
  | leaf json isLeaf =>
    intro limit fits
    cases isLeaf with
    | null => exact lineText_of_plain (by simp [Json.render])
    | bool value =>
      cases value with
      | true => exact lineText_of_plain (by simp [Json.render])
      | false => exact lineText_of_plain (by simp [Json.render])
    | int value => exact lineText_of_numeric isNumeric_renderInt
    | float value =>
      have allowed : value.allowed false = true := fits
      rw [Json.render]
      unfold PyFloat.allowed at allowed
      split at allowed
      · rename_i negative digits exponent isFinite
        rw [isFinite]
        exact lineText_of_numeric isNumeric_reprFinite
      · cases allowed
    | text points => exact lineText_quote points
  | list items ih =>
    rintro limit ⟨_, fits⟩
    rw [Json.fitsItems_iff] at fits
    exact @LineText.append ['['] _ (lineText_char (by decide))
      (lineText_renderItems fun item isItem => ih item isItem (fits item isItem))
  | object members ih =>
    rintro limit ⟨_, fits⟩
    rw [Json.fitsMembers_iff] at fits
    exact @LineText.append ['\x7b'] _ (lineText_char (by decide))
      (lineText_renderMembers fun member isMember => ih member isMember (fits member isMember))

/-! ## Reading -/

/-- An object is read back from its line. -/
theorem parse_line {allowNan : Bool} {limit : ℕ}
    (fits : (Json.object members).Fits allowNan limit) :
    Json.parse limit ((Json.object members).render ++ ['\n']) =
      .ok (Json.object members).joined := by
  have read := Json.parse_renderLaid_append .compact fits 0 (by decide : ['\n'] ⊆ blanks)
  rwa [Json.renderLaid_compact] at read

theorem loadsStrict_line {limit : ℕ} (fits : (Json.object members).Fits false limit) :
    loadsStrict limit (String.ofList (Json.object members).render ++ "\n") =
      .ok (ofJson (Json.object members).joined) := by
  have unmarked := (lineText_render fits).2 ['\n']
  have lineBreak : markConstants false ['\n'] = ['\n'] := rfl
  rw [lineBreak] at unmarked
  have chars : (String.ofList (Json.object members).render ++ "\n").toList =
      (Json.object members).render ++ ['\n'] := by
    rw [String.toList_append, String.toList_ofList]
    rfl
  rw [loadsStrict, chars, unmarked, loads, String.toList_ofList, parse_line fits]

end Reperio.Python
