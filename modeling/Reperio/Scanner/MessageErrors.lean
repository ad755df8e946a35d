import Reperio.Scanner.MessageRoundTrip

/-!
# What decoding a message raises

Whatever a worker writes, reading a line of it should give a message or the error
of the protocol, and nothing else. The only operation of the validation that is
not defined on every JSON value is the lookup of the type in a set.
-/

namespace Reperio.Scanner

open Python

/-! ## Errors of the validation -/

/-- The error is one of the protocol, or says that the recursion is too deep. -/
def MessageError.IsExpected (error : MessageError) : Prop :=
  (∃ message, error = .scannerMessageError message) ∨ error = .raised .recursionError

theorem MessageError.isExpected_protocol (message : String) :
    (MessageError.scannerMessageError message).IsExpected := Or.inl ⟨message, rfl⟩

variable {error : MessageError} {object : PyDict} {room : Room}

theorem validateText_error {points : PyStr} (raised : validateText points = .error error) :
    error.IsExpected := by
  unfold validateText at raised
  split at raised
  · cases raised
    exact MessageError.isExpected_protocol _
  · split at raised
    · cases raised
      exact MessageError.isExpected_protocol _
    · cases raised

theorem validateItems_error {limit : ℕ} {items : List PyValue}
    (each : ∀ item ∈ items, validateValue limit item = .error error → error.IsExpected)
    (raised : validateItems limit items = .error error) : error.IsExpected := by
  induction items with
  | nil =>
    rw [validateItems] at raised
    cases raised
  | cons item items ih =>
    rw [List.forall_mem_cons] at each
    rw [validateItems] at raised
    rcases bind_eq_error raised with first | ⟨_, _, later⟩
    · exact each.1 first
    · exact ih each.2 later

theorem validatePairs_error {limit : ℕ} {items : List (PyValue × PyValue)}
    (each : ∀ item ∈ items, (validateValue limit item.1 = .error error → error.IsExpected) ∧
      (validateValue limit item.2 = .error error → error.IsExpected))
    (raised : validatePairs limit items = .error error) : error.IsExpected := by
  induction items with
  | nil =>
    rw [validatePairs] at raised
    cases raised
  | cons item items ih =>
    rw [List.forall_mem_cons] at each
    rcases item with ⟨key, value⟩
    cases key with
    | text points =>
      rw [validatePairs] at raised
      rcases bind_eq_error raised with isKey | ⟨_, _, raised⟩
      · exact each.1.1 isKey
      rcases bind_eq_error raised with isValue | ⟨_, _, later⟩
      · exact each.1.2 isValue
      · exact ih each.2 later
    | _ =>
      rw [validatePairs] at raised
      · cases raised
        exact MessageError.isExpected_protocol _
      · intro points second isText
        cases isText

theorem validateValue_error {value : PyValue} : ∀ {limit : ℕ} {error : MessageError},
    validateValue limit value = .error error → error.IsExpected := by
  induction value using PyValue.induct with
  | leaf value isLeaf =>
    intro limit error raised
    rcases limit with _ | limit
    · rw [validateValue] at raised
      cases raised
      exact Or.inr rfl
    cases isLeaf with
    | text points => exact validateText_error raised
    | float value =>
      rw [validateValue] at raised
      split at raised
      · cases raised
      · cases raised
        exact MessageError.isExpected_protocol _
    | other =>
      cases raised
      exact MessageError.isExpected_protocol _
    | _ => cases raised
  | list items ih =>
    intro limit error raised
    rcases limit with _ | limit
    · cases raised
      exact Or.inr rfl
    rw [validateValue] at raised
    exact validateItems_error (fun item isItem => ih item isItem) raised
  | dict items ih =>
    intro limit error raised
    rcases limit with _ | limit
    · cases raised
      exact Or.inr rfl
    rw [validateValue] at raised
    exact validatePairs_error (fun item isItem => ⟨(ih item isItem).1, (ih item isItem).2⟩) raised

theorem validateFindings_error {payload : PyDict}
    (raised : validateFindings payload = .error error) : error.IsExpected := by
  unfold validateFindings at raised
  split at raised
  · split at raised
    · cases raised
    · cases raised
      exact MessageError.isExpected_protocol _
  · cases raised
    exact MessageError.isExpected_protocol _

/-- The object is of this version and names its type by a list or an object. -/
def HasUnhashableType (object : PyDict) : Prop :=
  (object.get "protocol_version").eq (.int protocolVersion) = true ∧
    (object.get "type").hashable = false

theorem validateDecodedObject_of_unhashable (room : Room) (unhashable : HasUnhashableType object) :
    validateDecodedObject room object = .error (.raised .typeError) := by
  rw [validateDecodedObject, unhashable.1, unhashable.2]
  rfl

theorem validateDecodedObject_error (hashable : ¬HasUnhashableType object)
    (raised : validateDecodedObject room object = .error error) : error.IsExpected := by
  unfold validateDecodedObject at raised
  split at raised
  · cases raised
    exact MessageError.isExpected_protocol _
  rename_i version
  rw [Bool.not_eq_true, Bool.not_eq_false'] at version
  split at raised
  · rename_i isUnhashable
    rw [Bool.not_eq_true'] at isUnhashable
    exact absurd ⟨version, isUnhashable⟩ hashable
  split at raised
  · cases raised
    exact MessageError.isExpected_protocol _
  split at raised
  · cases raised
    exact MessageError.isExpected_protocol _
  split at raised
  · split at raised
    · cases raised
      exact MessageError.isExpected_protocol _
    rcases bind_eq_error raised with invalid | ⟨_, _, raised⟩
    · exact validateValue_error invalid
    split at raised
    · rcases bind_eq_error raised with invalid | ⟨_, _, raised⟩
      · exact validateFindings_error invalid
      · cases raised
    · cases raised
  · cases raised
    exact MessageError.isExpected_protocol _

/-! ## Errors of the decoding -/

/-- A type of the protocol comes with the enumeration; the rest of what a message must be. -/
structure IsWellFormed (message : ScannerMessage) : Prop where
  nonnegative : 0 ≤ message.sequence
  required : ∀ field ∈ message.messageType.requiredFields, (message.payload.get? field).isSome =
    true

/-- A well formed message, or the error of the protocol. -/
def IsContained : Except MessageError ScannerMessage → Prop
  | .ok message => IsWellFormed message
  | .error (.scannerMessageError _) => True
  | .error (.raised _) => False

/-- The line is read as an object of this version with a list or an object for its type. -/
def IsUnhashableLine (room : Room) (line : List UInt8) : Prop :=
  line.getLast? = some 10 ∧ line.length ≤ maxLineBytes ∧
    ∃ text decoded, utf8Decode line = some text ∧
      loadsStrict room.nesting text = .ok (.dict decoded) ∧ HasUnhashableType decoded

theorem isContained_validation (hashable : ¬HasUnhashableType object) :
    IsContained ((validateDecodedObject room object).mapError MessageError.validation) := by
  cases validated : validateDecodedObject room object with
  | ok message =>
    have isMessage := validateDecodedObject_eq_ok_iff.mp validated
    exact ⟨isMessage.nonnegative, isMessage.required⟩
  | error error =>
    rcases validateDecodedObject_error hashable validated with ⟨message, rfl⟩ | rfl
    · exact True.intro
    · exact True.intro

/-- Of a line that is read as some value it is the value that counts. -/
theorem isUnhashableLine_iff {line : List UInt8} {text : String} {value : PyValue}
    (ends : line.getLast? = some 10) (short : line.length ≤ maxLineBytes)
    (isText : utf8Decode line = some text) (loaded : loadsStrict room.nesting text = .ok value) :
    IsUnhashableLine room line ↔ ∃ decoded, value = .dict decoded ∧ HasUnhashableType decoded := by
  constructor
  · rintro ⟨_, _, other, decoded, isOther, isObject, unhashable⟩
    rw [isText] at isOther
    rw [← Option.some.inj isOther, loaded] at isObject
    exact ⟨decoded, Except.ok.inj isObject, unhashable⟩
  · rintro ⟨decoded, rfl, unhashable⟩
    exact ⟨ends, short, text, decoded, isText, loaded, unhashable⟩

/-- Nothing else escapes exactly when the line does not name its type by a list or an object. -/
theorem decodeLine_contained_iff (room : Room) (line : List UInt8) :
    IsContained (decodeLine room line) ↔ ¬IsUnhashableLine room line := by
  unfold decodeLine
  split
  · rename_i truncated
    exact iff_of_true True.intro fun unhashable => truncated unhashable.1
  split
  · rename_i long
    exact iff_of_true True.intro fun unhashable => absurd unhashable.2.1 (not_le_of_gt long)
  rename_i ends short
  rw [not_ne_iff] at ends
  split
  · rename_i undecoded
    refine iff_of_true True.intro ?_
    rintro ⟨_, _, text, _, isText, _⟩
    rw [undecoded] at isText
    cases isText
  rename_i text isText
  cases loaded : loadsStrict room.nesting text with
  | error error =>
    refine iff_of_true ?_ ?_
    · cases error <;> exact True.intro
    · rintro ⟨_, _, other, decoded, isOther, isObject, _⟩
      rw [isText] at isOther
      rw [← Option.some.inj isOther, loaded] at isObject
      cases isObject
  | ok value =>
    rw [isUnhashableLine_iff ends (Nat.not_lt.mp short) isText loaded]
    cases value with
    | dict decoded =>
      by_cases unhashable : HasUnhashableType decoded
      · refine iff_of_false ?_ (not_not_intro ⟨decoded, rfl, unhashable⟩)
        change ¬IsContained ((validateDecodedObject room decoded).mapError _)
        rw [validateDecodedObject_of_unhashable room unhashable]
        exact not_false
      · refine iff_of_true (isContained_validation unhashable) ?_
        rintro ⟨other, isObject, isUnhashable⟩
        rw [← PyValue.dict.inj isObject] at isUnhashable
        exact unhashable isUnhashable
    | _ =>
      refine iff_of_true True.intro ?_
      rintro ⟨_, isObject, _⟩
      cases isObject

/-! A worker that names its type by a list: `{"protocol_version":1,"type":[]}`. -/

def listTypeMembers : List (PyStr × Json) :=
  [(.ofString "protocol_version", .int 1), (.ofString "type", .list [])]

def listTypeText : String := String.ofList (Json.object listTypeMembers).render ++ "\n"

theorem listTypeMembers_fits : (Json.object listTypeMembers).Fits false 100 := by
  have oneDigit : (Nat.toDigits 10 1).length ≤ intMaxStrDigits := by decide
  simpa [listTypeMembers, Json.Fits, Json.FitsMembers, Json.FitsItems] using oneDigit

theorem listTypeLine_escapes : ¬IsContained (decodeLine ⟨100, 100⟩ (utf8 listTypeText)) := by
  have ends : (utf8 listTypeText).getLast? = some 10 := by
    rw [listTypeText, utf8_append, List.getLast?_append_of_ne_nil] <;> decide
  have short : (utf8 listTypeText).length = 33 := by decide
  have loaded : loadsStrict 100 listTypeText =
      .ok (ofJson (Json.object listTypeMembers).joined) := loadsStrict_line listTypeMembers_fits
  rw [decodeLine, if_neg (not_ne_iff.mpr ends), short, if_neg (by decide), utf8Decode_utf8]
  dsimp only
  rw [loaded]
  exact not_false

end Reperio.Scanner
