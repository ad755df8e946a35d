import Reperio.Encoding.Breaks
import Reperio.Python.KeyOrder
import Reperio.Scanner.Messages

/-!
# Messages are read as they were written

An encoded message is one line of ASCII, and the decoder validates on it what the
encoder has validated. So a stream of messages is cut into its lines, and each of
them gives back the message, but for the order of the items of its dictionaries.
-/

namespace Reperio

open Python

variable {room : Room} {message : ScannerMessage} {messageType sequence : PyValue}
    {payload : PyDict}

namespace Scanner

/-! ## What is valid -/

theorem validateItems_eq_ok_iff {limit : ℕ} {items : List PyValue} :
    validateItems limit items = .ok () ↔ ∀ item ∈ items, validateValue limit item = .ok () := by
  induction items with
  | nil => simp [validateItems]
  | cons item items ih =>
    rw [List.forall_mem_cons, ← ih, validateItems]
    constructor
    · intro valid
      rcases bind_eq_ok valid with ⟨_, isValid, valid⟩
      exact ⟨isValid, valid⟩
    · rintro ⟨isValid, valid⟩
      rw [isValid]
      exact valid

theorem validatePairs_eq_ok_iff {limit : ℕ} {items : List (PyValue × PyValue)} :
    validatePairs limit items = .ok () ↔ ∀ item ∈ items, (∃ points, item.1 = .text points) ∧
      validateValue limit item.1 = .ok () ∧ validateValue limit item.2 = .ok () := by
  induction items with
  | nil => simp [validatePairs]
  | cons item items ih =>
    rcases item with ⟨key, value⟩
    rw [List.forall_mem_cons, ← ih]
    cases key with
    | text points =>
      rw [validatePairs]
      constructor
      · intro valid
        rcases bind_eq_ok valid with ⟨_, validKey, valid⟩
        rcases bind_eq_ok valid with ⟨_, validValue, valid⟩
        exact ⟨⟨⟨points, rfl⟩, validKey, validValue⟩, valid⟩
      · rintro ⟨⟨_, validKey, validValue⟩, valid⟩
        dsimp only at validKey validValue
        rw [validKey, validValue]
        exact valid
    | _ =>
      constructor
      · intro valid
        cases valid
      · rintro ⟨⟨⟨points, isText⟩, _⟩, _⟩
        cases isText

theorem textKeys_of_valid {value : PyValue} : ∀ {limit}, validateValue limit value = .ok () →
    value.Everywhere PyValue.TextKeys := by
  induction value using PyValue.induct with
  | leaf value isLeaf =>
    intro limit _
    cases isLeaf with
    | _ => trivial
  | list items ih =>
    intro limit valid
    rcases limit with _ | limit
    · cases valid
    rw [validateValue, validateItems_eq_ok_iff] at valid
    exact PyValue.everywhere_list_iff.mpr
      ⟨trivial, fun item isItem => ih item isItem (valid item isItem)⟩
  | dict items ih =>
    intro limit valid
    rcases limit with _ | limit
    · cases valid
    rw [validateValue, validatePairs_eq_ok_iff] at valid
    refine PyValue.everywhere_dict_iff.mpr ⟨fun item isItem => (valid item isItem).1, ?_⟩
    intro item isItem
    rcases valid item isItem with ⟨_, validKey, validValue⟩
    exact ⟨(ih item isItem).1 validKey, (ih item isItem).2 validValue⟩

/-- The order of the items does not matter to the validation. -/
theorem validateValue_inKeyOrder {value : PyValue} : ∀ {limit}, validateValue limit value = .ok () →
    validateValue limit value.inKeyOrder = .ok () := by
  induction value using PyValue.induct with
  | leaf value isLeaf =>
    intro limit valid
    rw [isLeaf.inKeyOrder]
    exact valid
  | list items ih =>
    intro limit valid
    rcases limit with _ | limit
    · cases valid
    rw [validateValue, validateItems_eq_ok_iff] at valid
    rw [PyValue.inKeyOrder, PyValue.inKeyOrderItems_eq_map, validateValue, validateItems_eq_ok_iff]
    exact List.forall_mem_map.mpr fun item isItem => ih item isItem (valid item isItem)
  | dict items ih =>
    intro limit valid
    rcases limit with _ | limit
    · cases valid
    rw [validateValue, validatePairs_eq_ok_iff] at valid
    rw [PyValue.inKeyOrder_dict, validateValue, validatePairs_eq_ok_iff]
    refine List.forall_mem_map.mpr fun item isItem => ?_
    rw [List.mem_insertionSort] at isItem
    rcases valid item isItem with ⟨isText, validKey, validValue⟩
    exact ⟨isText, validKey, (ih item isItem).2 validValue⟩

/-- The object is a message with these fields. -/
structure IsMessage (room : Room) (object : PyDict) (message : ScannerMessage) : Prop where
  version : (object.get "protocol_version").eq (.int protocolVersion) = true
  isType : object.get "type" = .str message.messageType.name
  isSequence : object.get "sequence" = .int message.sequence
  nonnegative : 0 ≤ message.sequence
  isPayload : object.get "payload" = .dict message.payload
  required : ∀ field ∈ message.messageType.requiredFields, (message.payload.get? field).isSome =
    true
  valid : validateValue room.calls (.dict message.payload) = .ok ()
  findings : message.messageType = .findingBatch → validateFindings message.payload = .ok ()

theorem validateDecodedObject_eq_ok_iff {object : PyDict} :
    validateDecodedObject room object = .ok message ↔ IsMessage room object message := by
  unfold validateDecodedObject
  constructor
  · intro validated
    split at validated
    · cases validated
    rename_i version
    split at validated
    · cases validated
    split at validated
    · cases validated
    rename_i messageType isType
    split at validated
    · cases validated
    rename_i sequence isSequence
    split at validated
    · rename_i payload isPayload
      split at validated
      · cases validated
      rename_i required
      rcases bind_eq_ok validated with ⟨_, valid, validated⟩
      have inRange : object.get "sequence" = .int sequence ∧ 0 ≤ sequence := by
        unfold sequenceOf at isSequence
        split at isSequence
        · rename_i isInt
          split at isSequence
          · cases isSequence
            exact ⟨isInt, ‹_›⟩
          · cases isSequence
        · cases isSequence
      have fields : ∀ field ∈ messageType.requiredFields, (PyDict.get? payload field).isSome =
        true := by
        intro field isField
        simp only [Bool.not_eq_true, List.any_eq_false, Option.isNone_iff_eq_none] at required
        exact Option.isSome_iff_ne_none.mpr (required field isField)
      rw [Bool.not_eq_true, Bool.not_eq_false'] at version
      split at validated
      · rename_i isBatch
        rcases bind_eq_ok validated with ⟨_, findings, validated⟩
        cases validated
        exact ⟨version, MessageType.ofValue?_eq_some_iff.mp isType, inRange.1, inRange.2, isPayload,
          fields, valid, fun _ => findings⟩
      · rename_i notBatch
        cases validated
        exact ⟨version, MessageType.ofValue?_eq_some_iff.mp isType, inRange.1, inRange.2, isPayload,
          fields, valid, fun isBatch => absurd isBatch notBatch⟩
    · cases validated
  · rintro ⟨version, isType, isSequence, nonnegative, isPayload, required, valid, findings⟩
    have found : MessageType.ofValue? (.str message.messageType.name) = some message.messageType :=
      MessageType.ofValue?_eq_some_iff.mpr rfl
    have hashable : (PyValue.str message.messageType.name).hashable = true := rfl
    have inRange : sequenceOf (.int message.sequence) = some message.sequence := if_pos nonnegative
    have complete : (message.messageType.requiredFields.any fun field =>
        (message.payload.get? field).isNone) = false := by
      rw [List.any_eq_false]
      intro field isField isNone
      have isSome := required field isField
      rw [Option.isNone_iff_eq_none.mp isNone] at isSome
      cases isSome
    rw [version, isType, isSequence, isPayload, hashable]
    simp only [found, inRange, complete, valid]
    by_cases isBatch : message.messageType = .findingBatch
    · simp only [if_pos isBatch, findings isBatch]
      rfl
    · simp only [if_neg isBatch]
      rfl

/-! ## Objects -/

theorem scalarText_str (text : String) : (PyValue.str text).ScalarText := by
  intro point isPoint
  rcases List.mem_map.mp isPoint with ⟨char, _, rfl⟩
  exact isScalar_ofChar char

theorem distinct_messageObject (messageType sequence : PyValue) (payload : PyDict) :
    ((messageObject messageType sequence payload).map Prod.fst).Nodup := by
  have distinct :
    (["protocol_version", "type", "sequence", "payload"].map PyStr.ofString).Nodup := by
    decide
  exact distinct.map (f := PyValue.text) fun _ _ => PyValue.text.inj

theorem textKeys_messageObject (messageType sequence : PyValue) (payload : PyDict) :
    (PyValue.dict (messageObject messageType sequence payload)).TextKeys := by
  unfold messageObject PyValue.TextKeys
  simp only [List.forall_mem_cons]
  exact ⟨⟨_, rfl⟩, ⟨_, rfl⟩, ⟨_, rfl⟩, ⟨_, rfl⟩, nofun⟩

theorem everywhere_messageObject {holds : PyValue → Prop}
    (here : holds (.dict (messageObject messageType sequence payload)))
    (texts : ∀ text, holds (.str text)) (numbers : ∀ number, holds (.int number))
    (isType : messageType.Everywhere holds) (isSequence : sequence.Everywhere holds)
    (isPayload : (PyValue.dict payload).Everywhere holds) :
    (PyValue.dict (messageObject messageType sequence payload)).Everywhere holds := by
  refine PyValue.everywhere_dict_iff.mpr ⟨here, ?_⟩
  unfold messageObject
  simp only [List.forall_mem_cons]
  exact ⟨⟨texts _, numbers _⟩, ⟨texts _, isType⟩, ⟨texts _, isSequence⟩, ⟨texts _, isPayload⟩,
    nofun⟩

/-- What was validated before it was written is validated after it was read. -/
theorem isMessage_ordered {object : PyDict} (distinct : (object.map Prod.fst).Nodup)
    (distinctPayload : (message.payload.map Prod.fst).Nodup)
    (version : object.get "protocol_version" = .int protocolVersion)
    (isMessage : IsMessage room object message) :
    IsMessage room object.ordered { message with payload := message.payload.ordered } where
  version := by
    rw [PyDict.get_ordered distinct, version]
    decide
  isType := by
    rw [PyDict.get_ordered distinct, isMessage.isType]
    rfl
  isSequence := by
    rw [PyDict.get_ordered distinct, isMessage.isSequence]
    rfl
  nonnegative := isMessage.nonnegative
  isPayload := by
    rw [PyDict.get_ordered distinct, isMessage.isPayload]
    exact PyValue.inKeyOrder_dict _
  required := by
    intro field isField
    rw [PyDict.get?_ordered distinctPayload, Option.isSome_map]
    exact isMessage.required field isField
  valid := by
    have ordered := validateValue_inKeyOrder isMessage.valid
    rw [PyValue.inKeyOrder_dict] at ordered
    exact ordered
  findings := by
    intro isBatch
    have findings := isMessage.findings isBatch
    unfold validateFindings at findings ⊢
    rw [PyDict.get_ordered distinctPayload]
    cases isFindings : message.payload.get "findings" with
    | list items =>
      rw [isFindings] at findings
      rw [PyValue.inKeyOrder, PyValue.inKeyOrderItems_eq_map]
      dsimp only at findings ⊢
      rw [List.length_map]
      exact findings
    | _ =>
      rw [isFindings] at findings
      cases findings

/-! ## Lines -/

/-- What the encoder has validated and written. -/
theorem encodeMessage_eq_ok {line : List UInt8}
    (encoded : encodeMessage room messageType sequence payload = .ok line) :
    ∃ message json, IsMessage room (messageObject messageType sequence payload) message ∧
      toJson false room.nesting (.dict (messageObject messageType sequence payload)) = .ok json ∧
      line = utf8 (String.ofList json.render) ++ [10] ∧ line.length ≤ maxLineBytes := by
  rcases bind_eq_ok encoded with ⟨written, isWritten, encoded⟩
  split at encoded
  · cases encoded
  rename_i short
  cases encoded
  cases isObject : encodeObject room (messageObject messageType sequence payload) with
  | error error =>
    rw [isObject] at isWritten
    cases isWritten
  | ok bytes =>
    rw [isObject] at isWritten
    cases isWritten
    rcases bind_eq_ok isObject with ⟨message, validated, isObject⟩
    rcases bind_eq_ok isObject with ⟨text, isText, isObject⟩
    cases isObject
    cases dumped : dumps false room.nesting
      (.dict (messageObject messageType sequence payload)) with
    | error error =>
      rw [dumped] at isText
      cases isText
    | ok dump =>
      rw [dumped] at isText
      cases isText
      rcases bind_eq_ok dumped with ⟨json, isJson, dumped⟩
      cases dumped
      exact ⟨message, json, validateDecodedObject_eq_ok_iff.mp validated, isJson, rfl,
        Nat.le_of_not_lt short⟩

theorem isLine_encodeMessage {line : List UInt8}
    (encoded : encodeMessage room messageType sequence payload = .ok line) :
    Encoding.IsLine 10 line := by
  rcases encodeMessage_eq_ok encoded with ⟨_, json, _, written, rfl, _⟩
  refine ⟨_, rfl, @notMem_utf8_of_ascii _ 10 (by decide) fun char isChar => ?_⟩
  rw [String.toList_ofList] at isChar
  have printable := (lineText_render (fits_toJson _ written)).1 char isChar
  omega

/-- A line is read as the message that was written, its items in the order of their keys. -/
theorem decodeLine_encodeMessage {line : List UInt8}
    (distinct : (PyValue.dict payload).Everywhere PyValue.DistinctKeys)
    (scalar : (PyValue.dict payload).Everywhere PyValue.ScalarText)
    (encoded : encodeMessage room messageType sequence payload = .ok line) :
    ∃ message, decodeLine room line = .ok message ∧ messageType = .str message.messageType.name ∧
      sequence = .int message.sequence ∧ message.payload = payload.ordered := by
  rcases encodeMessage_eq_ok encoded with ⟨message, json, isMessage, written, rfl, short⟩
  have isType : messageType = .str message.messageType.name := isMessage.isType
  have isSequence : sequence = .int message.sequence := isMessage.isSequence
  have isPayload : payload = message.payload := PyValue.dict.inj isMessage.isPayload
  subst isType isSequence isPayload
  have distinctObject := distinct_messageObject (.str message.messageType.name)
    (.int message.sequence) message.payload
  have distinctPayload : (message.payload.map Prod.fst).Nodup :=
    (PyValue.everywhere_dict_iff.mp distinct).1
  refine ⟨{ message with payload := message.payload.ordered }, ?_, rfl, rfl, rfl⟩
  have textKeys : (PyValue.dict (messageObject (.str message.messageType.name)
      (.int message.sequence) message.payload)).Everywhere PyValue.TextKeys :=
    everywhere_messageObject (textKeys_messageObject _ _ _) (fun _ => trivial) (fun _ => trivial)
      trivial trivial (textKeys_of_valid isMessage.valid)
  have distinctKeys : (PyValue.dict (messageObject (.str message.messageType.name)
      (.int message.sequence) message.payload)).Everywhere PyValue.DistinctKeys :=
    everywhere_messageObject distinctObject (fun _ => trivial) (fun _ => trivial) trivial trivial
      distinct
  have scalarTexts : (PyValue.dict (messageObject (.str message.messageType.name)
      (.int message.sequence) message.payload)).Everywhere PyValue.ScalarText :=
    everywhere_messageObject trivial scalarText_str (fun _ => trivial) (scalarText_str _) trivial
      scalar
  rcases ofJson_toJson textKeys distinctKeys (PyValue.Everywhere.joinedText scalarTexts)
    written with ⟨joined, isOrdered⟩
  have isObject : ∃ members, json = .object members := by
    rcases room with ⟨calls, nesting⟩
    rcases nesting with _ | nesting
    · cases written
    rcases bind_eq_ok written with ⟨members, _, isJson⟩
    cases isJson
    exact ⟨members, rfl⟩
  rcases isObject with ⟨members, rfl⟩
  have read := loadsStrict_line (fits_toJson _ written)
  rw [joined, isOrdered, PyValue.inKeyOrder_dict] at read
  have decodedText : utf8Decode (utf8 (String.ofList (Json.object members).render) ++ [10]) =
      some (String.ofList (Json.object members).render ++ "\n") := by
    rw [← utf8Decode_utf8, utf8_append]
    rfl
  have validated := validateDecodedObject_eq_ok_iff.mpr
    (isMessage_ordered distinctObject distinctPayload rfl isMessage)
  unfold decodeLine
  rw [if_neg (by rw [List.getLast?_append]; simp), if_neg (Nat.not_lt.mpr short), decodedText]
  dsimp only
  rw [read]
  change (validateDecodedObject room (PyDict.ordered _)).mapError _ = _
  rw [validated]
  rfl

/-! ## Streams -/

/-- What a message is encoded from. -/
structure MessageParts where
  messageType : PyValue
  sequence : PyValue
  payload : PyDict

/-- The line is what the encoder makes of the parts. -/
def IsEncoded (room : Room) (parts : MessageParts) (line : List UInt8) : Prop :=
  encodeMessage room parts.messageType parts.sequence parts.payload = .ok line

/-- The decoder reads the parts off the line. -/
def ReadsBack (room : Room) (parts : MessageParts) (line : List UInt8) : Prop :=
  ∃ message, decodeLine room line = .ok message ∧
    parts.messageType = .str message.messageType.name ∧ parts.sequence = .int message.sequence ∧
    PyValue.Same (.dict message.payload) (.dict parts.payload)

theorem readsBack_of_isEncoded {parts : MessageParts} {line : List UInt8}
    (distinct : (PyValue.dict parts.payload).Everywhere PyValue.DistinctKeys)
    (scalar : (PyValue.dict parts.payload).Everywhere PyValue.ScalarText)
    (encoded : IsEncoded room parts line) : ReadsBack room parts line := by
  rcases decodeLine_encodeMessage distinct scalar encoded with
    ⟨message, decoded, isType, isSequence, isPayload⟩
  refine ⟨message, decoded, isType, isSequence, ?_⟩
  rcases encodeMessage_eq_ok encoded with ⟨validated, _, isMessage, _⟩
  have samePayload : parts.payload = validated.payload := PyValue.dict.inj isMessage.isPayload
  have textKeys := textKeys_of_valid isMessage.valid
  rw [← samePayload] at textKeys
  have again := PyValue.inKeyOrder_inKeyOrder textKeys
  rw [PyValue.inKeyOrder_dict] at again
  rw [PyValue.Same, PyValue.inKeyOrder_dict parts.payload, isPayload]
  exact again

/-- Messages that are encoded one after the other are cut into their lines, and read back line by
line. -/
theorem stream_round_trip (room : Room) (stream : List MessageParts) (lines : List (List UInt8))
    (distinct : ∀ parts ∈ stream, (PyValue.dict parts.payload).Everywhere PyValue.DistinctKeys)
    (scalar : ∀ parts ∈ stream, (PyValue.dict parts.payload).Everywhere PyValue.ScalarText)
    (encoded : List.Forall₂ (IsEncoded room) stream lines) :
    (∀ line ∈ lines, Encoding.IsLine 10 line) ∧ Encoding.splitAfter 10 lines.flatten = lines ∧
      List.Forall₂ (ReadsBack room) stream lines := by
  have areLines : ∀ line ∈ lines, Encoding.IsLine 10 line :=
    forall_mem_of_forall₂ encoded fun _ _ _ isEncoded => isLine_encodeMessage isEncoded
  refine ⟨areLines, Encoding.splitAfter_flatten areLines, ?_⟩
  rw [List.forall₂_iff_zip] at encoded ⊢
  refine ⟨encoded.1, fun isPair => ?_⟩
  have isParts := (List.of_mem_zip isPair).1
  exact readsBack_of_isEncoded (distinct _ isParts) (scalar _ isParts) (encoded.2 isPair)

def progressParts : MessageParts where
  messageType := .str "progress"
  sequence := .int 7
  payload := [(.str "stage", .str "scan"), (.str "completed", .int 1), (.str "total", .int 2)]

def progressLine : List UInt8 :=
  utf8
    "\x7b\"payload\":\x7b\"completed\":1,\"stage\":\"scan\",\"total\":2\x7d,\"protocol_version\":1,\"sequence\":7,\"type\":\"progress\"\x7d" ++
    [10]

theorem stream_round_trip_progress :
    Encoding.splitAfter 10 (progressLine ++ progressLine) = [progressLine, progressLine] ∧
      ReadsBack ⟨100, 100⟩ progressParts progressLine := by
  have encoded : IsEncoded ⟨100, 100⟩ progressParts progressLine := eq_ok_of_toOption (by decide)
  have distinct : (PyValue.dict progressParts.payload).Everywhere PyValue.DistinctKeys := by
    refine PyValue.everywhere_dict_iff.mpr ⟨?_, ?_⟩
    · have keys : (["stage", "completed", "total"].map PyStr.ofString).Nodup := by decide
      exact keys.map (f := PyValue.text) fun _ _ => PyValue.text.inj
    · unfold progressParts
      simp only [List.forall_mem_cons]
      exact ⟨⟨trivial, trivial⟩, ⟨trivial, trivial⟩, ⟨trivial, trivial⟩, nofun⟩
  have scalar : (PyValue.dict progressParts.payload).Everywhere PyValue.ScalarText := by
    refine PyValue.everywhere_dict_iff.mpr ⟨trivial, ?_⟩
    unfold progressParts
    simp only [List.forall_mem_cons]
    exact ⟨⟨scalarText_str _, scalarText_str _⟩, ⟨scalarText_str _, trivial⟩,
      ⟨scalarText_str _, trivial⟩, nofun⟩
  have read :=
    stream_round_trip ⟨100, 100⟩ [progressParts, progressParts] [progressLine, progressLine]
    (by simpa using distinct) (by simpa using scalar) (.cons encoded (.cons encoded .nil))
  rcases read with ⟨_, cut, _ | ⟨readsBack, _⟩⟩
  refine ⟨?_, readsBack⟩
  rw [List.flatten_cons, List.flatten_cons, List.flatten_nil, List.append_nil] at cut
  exact cut

end Scanner

end Reperio
