import Reperio.Python.JsonLayout
import Reperio.Python.Utf8

/-!
# JSON texts that are cut off

What spells a value other than a number spells it in front of any text, so that the text
of an object cannot be read when it is cut off (`Json.parse_cut`), nor the file that the
encoder writes of a dictionary (`not_loads_of_cut`).
-/

namespace Reperio.Python

variable {chars rest more : List Char} {limit level : ℕ} {members : List (PyStr × Json)}

theorem SpellsUnits.append {units : PyStr} (spells : SpellsUnits chars units rest)
    (more : List Char) : SpellsUnits (chars ++ more) units (rest ++ more) := by
  induction spells with
  | quote => exact .quote
  | plain visible notQuote notEscape _ ih => exact .plain visible notQuote notEscape ih
  | escape isEscape _ ih => exact .escape isEscape ih
  | unit isUnit _ ih => exact .unit isUnit ih

theorem Ends.append (ends : Ends rest) (some : rest ≠ []) (more : List Char) :
    Ends (rest ++ more) := by
  cases rest with
  | nil => exact absurd rfl some
  | cons char rest => exact ends

theorem SpellsExponent.append {exponent : Option ℤ} (spells : SpellsExponent chars exponent rest)
    (some : rest ≠ []) (more : List Char) :
    SpellsExponent (chars ++ more) exponent (rest ++ more) := by
  cases spells with
  | absent ends => exact .absent (ends.append some more)
  | present isLetter sign nonempty areDigits ends =>
    have spells := SpellsExponent.present isLetter sign nonempty areDigits (ends.append some more)
    simp only [List.cons_append, List.append_assoc]
    exact spells

theorem SpellsNumber.append {json : Json} (spells : SpellsNumber chars json rest) (some : rest ≠ [])
    (more : List Char) : SpellsNumber (chars ++ more) json (rest ++ more) := by
  cases spells with
  | int negative magnitude ends =>
    rw [List.append_assoc, List.append_assoc]
    exact .int negative magnitude (ends.append some more)
  | float negative whole areDigits spells notInt =>
    rw [List.append_assoc, List.append_assoc, List.append_assoc]
    exact .float negative whole areDigits (spells.append some more) notInt

def Form.IsNumber : Form → Prop
  | .value (.int _) => True
  | .value (.float _) => True
  | _ => False

/-- Only a number needs something behind it that ends it. -/
theorem Spells.append {form : Form} (spells : Spells form chars rest) (more : List Char)
    (some : form.IsNumber → rest ≠ []) : Spells form (chars ++ more) (rest ++ more) := by
  induction spells with
  | literal isLiteral =>
    rw [List.append_assoc]
    exact .literal isLiteral
  | number spells =>
    refine .number (spells.append (some ?_) more)
    cases spells <;> trivial
  | text spells => exact .text (spells.append more)
  | emptyList areBlank =>
    rw [List.cons_append, List.append_assoc]
    exact .emptyList areBlank
  | emptyObject areBlank =>
    rw [List.cons_append, List.append_assoc]
    exact .emptyObject areBlank
  | list areBlank _ ih =>
    rw [List.cons_append, List.append_assoc]
    exact .list areBlank (ih nofun)
  | object areBlank _ ih =>
    rw [List.cons_append, List.append_assoc]
    exact .object areBlank (ih nofun)
  | lastItem areBlank _ ih =>
    have spells := ih fun _ => by simp
    rw [List.append_assoc] at spells
    exact .lastItem areBlank spells
  | nextItem areBlank _ _ ih ihMore =>
    have spells := ih fun _ => by simp
    rw [List.append_assoc, List.cons_append, List.append_assoc] at spells
    exact .nextItem areBlank spells (ihMore nofun)
  | lastMember areBlank spellsKey _ ih =>
    have key := spellsKey.append more
    have spells := ih fun _ => by simp
    rw [List.append_assoc, List.cons_append, List.append_assoc] at key
    rw [List.append_assoc] at spells
    exact .lastMember areBlank key spells
  | nextMember areBlank spellsKey _ _ ih ihMore =>
    have key := spellsKey.append more
    have spells := ih fun _ => by simp
    rw [List.append_assoc, List.cons_append, List.append_assoc] at key spells
    exact .nextMember areBlank key spells (ihMore nofun)

/-- A number does not begin with a brace. -/
theorem not_isNumber_of_brace {text : List Char} {json : Json}
    (spells : Spells (.value json) text rest) (brace : text = '\x7b' :: chars) :
    ¬ Form.IsNumber (.value json) := by
  intro isNumber
  cases spells with
  | literal isLiteral =>
    simp only [literals, List.mem_cons, Prod.mk.injEq, List.not_mem_nil, or_false] at isLiteral
    rcases isLiteral with ⟨rfl, _⟩ | ⟨rfl, _⟩ | ⟨rfl, _⟩ | ⟨rfl, _⟩ | ⟨rfl, _⟩ | ⟨rfl, _⟩ <;>
      cases brace
  | number spells =>
    rcases spells.numberText with ⟨negative, digit, tail, isDigit, rfl⟩
    cases negative with
    | true => cases brace
    | false =>
      cases brace
      cases isDigit
  | _ => exact isNumber

/-- Nothing but the whole text of an object can be read. -/
theorem Json.parse_cut {layout : Layout} {allowNan : Bool}
    (fits : (Json.object members).Fits allowNan limit) {json : Json}
    (isWhole : chars ++ more = (Json.object members).renderLaid layout level) (isCut : more ≠ []) :
    Json.parse limit chars ≠ .ok json := by
  intro read
  rcases Json.parse_eq_ok_iff.mp read
    with ⟨⟨before, body, after, areBlank, _, rfl, spells⟩, fitsCut⟩
  have spellsWhole := Json.spells_renderLaid layout (.object members) level (nofun : Ends [])
  rw [List.append_nil] at spellsWhole
  -- nothing stands before the brace
  have isBody : body ++ more = (Json.object members).renderLaid layout level := by
    have skipped := spellsWhole.skipSpace_eq (List.nil_subset _)
    rw [List.nil_append, ← isWhole, List.append_assoc, skipSpace_append areBlank] at skipped
    rcases spells.starts with ⟨char, tail, rfl, starts, _⟩
    rw [List.cons_append, starts.skipSpace] at skipped
    rw [← isWhole, List.append_assoc, List.cons_append]
    exact skipped
  have isBrace : ∃ tail, body = '\x7b' :: tail := by
    rcases spells.starts with ⟨char, tail, rfl, _⟩
    rw [Json.renderLaid] at isBody
    exact ⟨tail, by rw [(List.cons.inj isBody).1]⟩
  rcases isBrace with ⟨tail, brace⟩
  have spellsMore := spells.append more fun isNumber =>
    absurd isNumber (not_isNumber_of_brace spells brace)
  rw [isBody] at spellsMore
  have same := (spellsWhole.read fits.joined (Nat.le_add_right _ _)).symm.trans
    (spellsMore.read fitsCut (Nat.le_add_right _ _))
  exact isCut (List.append_eq_nil_iff.mp (Prod.mk.inj (Except.ok.inj same)).2.symm).2

/-- What is left of the file of a dictionary when it is cut off cannot be read. -/
theorem not_loads_of_cut {allowNan : Bool} {items : PyDict} {text start : String} {count : ℕ}
    {value : PyValue} (written : dumpsSpaced allowNan limit (.dict items) = .ok text)
    (isCut : count < (utf8 text).length)
    (decoded : utf8Decode ((utf8 text).take count) = some start) :
    loads limit start ≠ .ok value := by
  obtain ⟨json, isJson, isText⟩ := bind_eq_ok written
  cases isText
  have fits := fits_toJson _ isJson
  obtain ⟨members, rfl⟩ : ∃ members, json = .object members := by
    cases limit with
    | zero => cases isJson
    | succ limit =>
      obtain ⟨members, -, isObject⟩ := bind_eq_ok isJson
      cases isObject
      exact ⟨members, rfl⟩
  have isStart := utf8Decode_eq_some_iff.mp decoded
  obtain ⟨after, isText⟩ := exists_append_of_utf8_prefix (isStart ▸ List.take_prefix count _)
  have isWhole : start.toList ++ after.toList = (Json.object members).renderLaid .spaced 0 := by
    rw [← String.toList_append, ← isText, String.toList_ofList, Json.renderSpaced_eq _ 0]
  have notEmpty : after.toList ≠ [] := by
    intro nothing
    have noBytes : utf8 after = [] := by rw [utf8, nothing, List.flatMap_nil]
    have short := congrArg List.length isStart
    rw [List.length_take_of_le isCut.le] at short
    rw [isText, utf8_append, noBytes, List.append_nil, ← short] at isCut
    exact lt_irrefl _ isCut
  intro read
  unfold loads at read
  split at read
  · rename_i json isJson
    exact Json.parse_cut fits isWhole notEmpty isJson
  · cases read

end Reperio.Python
