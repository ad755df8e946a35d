import Reperio.Encoding.EventStream
import Reperio.Events.Append
import Reperio.Python.JsonLine
import Reperio.Python.LoadedText

/-!
# Streaming events

`format_sse` of `event_outbox.py` and `stream_case_events` of `app.py`: the events
of a case as an event stream. JSON escapes every line break, and the type of an
event that was appended holds none, so that a client reads one message for each
event.
-/

namespace Reperio.Events

open Python Relational Concurrency Encoding

variable {runtime : Runtime}

/-! ## Formatting -/

def caseValue : Option String → PyValue
  | none => .none
  | some caseId => .str caseId

def sseItems (event : Event) (payload : PyValue) : PyDict :=
  [(.str "case_id", caseValue event.caseId), (.str "created_at", .str event.createdAt),
    (.str "event_id", .str event.eventId), (.str "payload", payload),
    (.str "sequence", .int event.sequence), (.str "type", .str event.eventType)]

/-- `format_sse`, with the payload as it was decoded. -/
def formatSse (runtime : Runtime) (event : Event) (payload : PyValue) : Except PyError String := do
  let data ← canonicalJson runtime (sseItems event payload)
  return "id: " ++ Nat.repr event.sequence ++ "\nevent: " ++ event.eventType ++ "\ndata: " ++
    data ++ "\n\n"

/-- `_event_from_row`, of which `format_sse` sees the payload. -/
def decodePayload (runtime : Runtime) (event : Event) : Except PyError PyValue :=
  loads runtime.recursionLimit event.payloadJson

/-- An event of the stream: `list_events` decodes its row. -/
def streamEvent (runtime : Runtime) (event : Event) : Except PyError String := do
  formatSse runtime event (← decodePayload runtime event)

/-! ## Events of the stream -/

/-- `append_event` has returned the event. -/
def Appended (runtime : Runtime) (event : Event) : Prop :=
  ∃ (catalog next : Catalog runtime) (new : NewEvent),
    (appendEvent runtime new).run OutboxStatement.perform catalog = (next, .ok event)

/-- The payload can be written with one level of recursion less. -/
def LeavesLevel (runtime : Runtime) (event : Event) : Prop :=
  ∃ payload text, decodePayload runtime event = .ok payload ∧
    dumps false (runtime.recursionLimit - 1) payload = .ok text

/-- The message is about the event, and its data decodes to the event's items. -/
structure Carries (runtime : Runtime) (event : Event) (message : EventStream.Message) : Prop where
  lastEventId : String.ofList message.lastEventId = Nat.repr event.sequence
  name : String.ofList message.event = event.eventType
  data : ∃ payload data, decodePayload runtime event = .ok payload ∧
    loads runtime.recursionLimit (String.ofList message.data) = .ok data ∧
      data.Same (.dict (sseItems event payload))

/-- What is known of the row of an event that was appended. -/
structure Stored (runtime : Runtime) (event : Event) : Prop where
  eventType : isEventType event.eventType = true
  sequence : event.sequence ≤ 9223372036854775807
  payload : ∃ json : Json, event.payloadJson = String.ofList json.render ∧
    json.Fits false runtime.recursionLimit ∧ runtime.jsonValid event.payloadJson = true

/-- The `json_valid` of the table accepts no JSON that is nested deeper than some depth (SQLite's is
1000), and the interpreter goes deeper. -/
def CapsDepth (runtime : Runtime) : Prop :=
  ∃ depth < runtime.recursionLimit, ∀ (json : Json) (limit : ℕ), json.Fits false limit →
    runtime.jsonValid (String.ofList json.render) = true → json.Fits false depth

variable {payload : PyDict} {event : Event} {limit : ℕ}

theorem exists_json_of_canonicalJson {text : String}
    (written : canonicalJson runtime payload = .ok text) :
    ∃ json : Json, text = String.ofList json.render ∧ json.Fits false runtime.recursionLimit := by
  unfold canonicalJson at written
  split at written
  · rename_i other isOther
    rcases bind_eq_ok isOther with ⟨json, isJson, isText⟩
    obtain rfl := Except.ok.inj written
    exact ⟨json, (Except.ok.inj isText).symm, fits_toJson _ isJson⟩
  · cases written
  · cases written

theorem Appended.stored (appended : Appended runtime event) : Stored runtime event := by
  rcases appended with ⟨catalog, next, new, ran⟩
  rcases run_appendEvent new catalog with
    ⟨accepts, payloadJson, events, written, inserted, returned⟩ | ⟨_, error, raised⟩
  · obtain rfl := Except.ok.inj (Prod.mk.inj (returned.symm.trans ran)).2
    rcases exists_json_of_canonicalJson written with ⟨json, isText, fits⟩
    have valid := (insert_eventRow_iff.mp ⟨events, inserted⟩).1
    exact ⟨accepts.eventType, accepts.sequence, json, isText, fits, valid⟩
  · cases (Prod.mk.inj (raised.symm.trans ran)).2

/-- What the table accepted is not as deep as the interpreter goes. -/
theorem Stored.leavesLevel (stored : Stored runtime event) (caps : CapsDepth runtime) :
    LeavesLevel runtime event := by
  rcases stored.payload with ⟨json, isText, fits, valid⟩
  rcases caps with ⟨depth, deeper, capped⟩
  rw [isText] at valid
  have shallow := Json.fits_mono (Nat.le_sub_one_of_lt deeper) (capped json _ fits valid)
  refine ⟨ofJson json.joined, _, ?_, dumps_ofJson_joined shallow⟩
  rw [decodePayload, isText]
  exact loads_render fits

theorem checkInt_of_le {value : ℕ} (small : value ≤ 9223372036854775807) :
    checkInt value = .ok (value : ℤ) := by
  refine if_pos ?_
  rw [Int.natAbs_natCast]
  have short : (Nat.toDigits 10 value).length ≤ 19 :=
    (Nat.length_toDigits_le_iff (by decide) (by decide)).mpr (by omega)
  exact short.trans (by decide)

/-- The data of an event is a JSON object whose payload stands one level deeper. -/
theorem exists_json_sseItems (small : event.sequence ≤ 9223372036854775807) {payload : PyValue}
    {json : Json} (written : toJson false limit payload = .ok json) :
    ∃ data, toJson false (limit + 1) (.dict (sseItems event payload)) = .ok data := by
  have values : ∃ members : List (PyStr × Json), toJsonValues false limit (sseItems event payload) =
        members.map fun member => (.text member.1, .ok member.2) := by
    have case : ∃ caseJson, toJson false limit (caseValue event.caseId) = .ok caseJson := by
      cases event.caseId with
      | none => exact ⟨_, rfl⟩
      | some caseId => exact ⟨_, rfl⟩
    rcases case with ⟨caseJson, isCase⟩
    have number : toJson false limit (.int event.sequence) = .ok (.int event.sequence) := by
      rw [toJson, checkInt_of_le small]
      rfl
    refine ⟨[(.ofString "case_id", caseJson),
      (.ofString "created_at", .text (.ofString event.createdAt)),
      (.ofString "event_id", .text (.ofString event.eventId)), (.ofString "payload", json),
      (.ofString "sequence", .int event.sequence),
        (.ofString "type", .text (.ofString event.eventType))],
      ?_⟩
    rw [toJsonValues_eq_map, sseItems]
    simp only [List.map_cons, List.map_nil, isCase, written, number]
    rfl
  rcases values with ⟨members, areMembers⟩
  refine ⟨.object (members.insertionSort fun first second => first.1 ≤ second.1), ?_⟩
  rw [toJson, areMembers, toJsonMembers_text]
  rfl

theorem everywhere_sseItems {holds : PyValue → Prop} {payload : PyValue}
    (outer : holds (.dict (sseItems event payload))) (text : ∀ text, holds (.str text))
    (none : holds .none) (int : ∀ value, holds (.int value)) (inner : payload.Everywhere holds) :
    (PyValue.dict (sseItems event payload)).Everywhere holds := by
  have case : (caseValue event.caseId).Everywhere holds := by
    cases event.caseId with
    | none => exact none
    | some caseId => exact text caseId
  refine ⟨outer, text _, case, text _, text _, text _, text _, text _, inner, text _, int _, text _,
    text _, trivial⟩

/-! ## Messages -/

theorem isLine_repr (sequence : ℕ) : EventStream.IsLine (Nat.repr sequence).toList ∧
    Char.ofNat 0 ∉ (Nat.repr sequence).toList := by
  have digits : ∀ char ∈ (Nat.repr sequence).toList, char.isDigit = true := by
    rw [Nat.repr_eq_ofList_toDigits, String.toList_ofList]
    exact fun char => Nat.isDigit_of_mem_toDigits (by decide) (by decide)
  refine ⟨fun char member => ⟨?_, ?_⟩, fun member => absurd (digits _ member) (by decide)⟩
  · rintro rfl
    exact absurd (digits _ member) (by decide)
  · rintro rfl
    exact absurd (digits _ member) (by decide)

theorem isLine_of_isEventType {eventType : String} (isType : isEventType eventType = true) :
    EventStream.IsLine eventType.toList ∧ eventType.toList ≠ [] := by
  rw [isEventType, Bool.and_eq_true, Bool.and_eq_true] at isType
  rcases isType with ⟨⟨named, _⟩, clean⟩
  rw [Bool.not_eq_true', List.any_eq_false] at clean
  refine ⟨fun char member => ⟨?_, ?_⟩, fun empty => ?_⟩
  · rintro rfl
    exact clean _ member (by decide)
  · rintro rfl
    exact clean _ member (by decide)
  · obtain rfl : eventType = "" := String.toList_injective empty
    cases named

theorem isLine_render {json : Json} (fits : json.Fits false limit) :
    EventStream.IsLine json.render := by
  intro char member
  have printable := (lineText_render fits).1 char member
  constructor
  · rintro rfl
    exact absurd printable.1 (by decide)
  · rintro rfl
    exact absurd printable.1 (by decide)

theorem text_eq_block (event : Event) (data : List Char) :
    "id: " ++ Nat.repr event.sequence ++ "\nevent: " ++ event.eventType ++ "\ndata: " ++
        String.ofList data ++ "\n\n" =
      String.ofList (EventStream.block
        ⟨(Nat.repr event.sequence).toList, event.eventType.toList, data⟩) := by
  apply String.toList_injective
  have first : "id: ".toList = ['i', 'd', ':', ' '] := rfl
  have second : "\nevent: ".toList = ['\n', 'e', 'v', 'e', 'n', 't', ':', ' '] := rfl
  have third : "\ndata: ".toList = ['\n', 'd', 'a', 't', 'a', ':', ' '] := rfl
  have last : "\n\n".toList = ['\n', '\n'] := rfl
  simp only [String.toList_append, String.toList_ofList, first, second, third, last,
    EventStream.block, EventStream.fieldLine, List.append_assoc, List.cons_append, List.nil_append]

/-- The text of an event is a block, of a message about the event. -/
theorem Stored.exists_message (stored : Stored runtime event) (caps : CapsDepth runtime) :
    ∃ message : EventStream.Message,
      streamEvent runtime event = .ok (String.ofList (EventStream.block message)) ∧
        message.IsPlain ∧ Carries runtime event message := by
  rcases stored.leavesLevel caps with ⟨payload, text, decoded, written⟩
  rcases bind_eq_ok written with ⟨json, isJson, _⟩
  have nested : 0 < runtime.recursionLimit := by
    rcases caps with ⟨depth, deeper, _⟩
    exact Nat.zero_lt_of_lt deeper
  rcases Nat.exists_eq_succ_of_ne_zero nested.ne' with ⟨limit, isLimit⟩
  rw [isLimit, Nat.succ_sub_one] at isJson
  rcases exists_json_sseItems stored.sequence isJson with ⟨data, isData⟩
  have fits := fits_toJson _ isData
  have canonical : canonicalJson runtime (sseItems event payload) =
    .ok (String.ofList data.render) := by
    rw [canonicalJson, dumps, isLimit, isData]
    rfl
  rcases isLine_of_isEventType stored.eventType with ⟨typeLine, named⟩
  refine ⟨⟨(Nat.repr event.sequence).toList, event.eventType.toList, data.render⟩, ?_,
    ⟨(isLine_repr _).1, (isLine_repr _).2, typeLine, named, isLine_render fits⟩,
    String.ofList_toList, String.ofList_toList, payload, ofJson data.joined, decoded, ?_, ?_⟩
  · rw [streamEvent, decoded]
    dsimp only [Bind.bind, Except.bind]
    rw [formatSse, canonical]
    exact congrArg Except.ok (text_eq_block event data.render)
  · rw [isLimit]
    exact loads_render fits
  · rcases keys_of_loads decoded with ⟨textKeys, distinctKeys⟩
    have itemsText : (PyValue.dict (sseItems event payload)).Everywhere PyValue.TextKeys :=
      everywhere_sseItems (by simp [sseItems, PyValue.TextKeys, PyValue.str]) (fun _ => trivial)
        trivial (fun _ => trivial) textKeys
    have itemsDistinct : (PyValue.dict (sseItems event payload)).Everywhere
      PyValue.DistinctKeys := by
      refine everywhere_sseItems ?_ (fun _ => trivial) trivial (fun _ => trivial) distinctKeys
      change (["case_id", "created_at", "event_id", "payload", "sequence", "type"].map
        PyValue.str).Nodup
      exact List.Nodup.map PyValue.str_injective (by decide)
    have itemsJoined : (PyValue.dict (sseItems event payload)).Everywhere PyValue.JoinedText :=
      everywhere_sseItems trivial PyStr.joined_ofString trivial (fun _ => trivial)
        (joinedText_of_loads decoded)
    rcases ofJson_toJson itemsText itemsDistinct itemsJoined isData with ⟨joined, inOrder⟩
    rw [PyValue.Same, joined, inOrder]
    exact PyValue.inKeyOrder_inKeyOrder itemsText

theorem exists_messages {events : List Event} (stored : ∀ event ∈ events, Stored runtime event)
    (caps : CapsDepth runtime) :
    ∃ messages : List EventStream.Message, events.mapM (streamEvent runtime) =
        .ok (messages.map fun message => String.ofList (EventStream.block message)) ∧
      (∀ message ∈ messages, message.IsPlain) ∧ List.Forall₂ (Carries runtime) events messages := by
  induction events with
  | nil => exact ⟨[], rfl, fun _ member => absurd member List.not_mem_nil, .nil⟩
  | cons event events ih =>
    rcases List.forall_mem_cons.mp stored with ⟨storedFirst, storedRest⟩
    rcases storedFirst.exists_message caps with ⟨message, isText, isPlain, carries⟩
    rcases ih storedRest with ⟨messages, areTexts, arePlain, carryRest⟩
    refine ⟨message :: messages, ?_, List.forall_mem_cons.mpr ⟨isPlain, arePlain⟩,
      .cons carries carryRest⟩
    rw [List.mapM_cons, isText, areTexts]
    rfl

/-- A client reads one message for each event of a stream, in order, about that event. -/
theorem events_round_trip (caps : CapsDepth runtime) {events : List Event}
    (appended : ∀ event ∈ events, Appended runtime event) :
    ∃ texts, events.mapM (streamEvent runtime) = .ok texts ∧
      List.Forall₂ (Carries runtime) events (EventStream.parse (texts.flatMap String.toList)) := by
  rcases exists_messages (fun event member => (appended event member).stored) caps with
    ⟨messages, areTexts, arePlain, carry⟩
  refine ⟨_, areTexts, ?_⟩
  have blocks : (messages.map fun message => String.ofList (EventStream.block message)).flatMap
      String.toList = messages.flatMap EventStream.block := by
    rw [List.flatMap_map]
    exact List.flatMap_congr fun message _ => String.toList_ofList
  rw [blocks, EventStream.parse_blocks arePlain]
  exact carry

/-! The first event of a case, with an empty payload. -/

theorem length_le_utf8ByteSize (chars : List Char) :
    chars.length ≤ (String.ofList chars).utf8ByteSize := by
  induction chars with
  | nil => exact Nat.zero_le _
  | cons char chars ih =>
    rw [← List.singleton_append, String.ofList_append, String.utf8ByteSize_append,
      ← String.singleton_eq_ofList, String.utf8ByteSize_singleton, List.length_append,
      List.length_singleton]
    exact Nat.add_le_add char.utf8Size_pos ih

theorem capsDepth_sample : CapsDepth .sample := by
  refine ⟨1000, by decide, fun json limit fits valid => Json.fits_of_length_render fits ?_⟩
  have short : (String.ofList json.render).utf8ByteSize ≤ 2000 := of_decide_eq_true valid
  exact ((length_le_utf8ByteSize json.render).trans short).trans_lt (by decide)

def emptyEvent : Event := eventRow (.initial .sample ["case-1"]) .sample "\x7b\x7d"

theorem appended_emptyEvent : Appended .sample emptyEvent := by
  have written : canonicalJson .sample [] = .ok "\x7b\x7d" := by decide
  rcases run_appendEvent NewEvent.sample (.initial .sample ["case-1"]) with
    ⟨_, _, events, again, _, returned⟩ | ⟨rejects, _⟩
  · obtain rfl := Except.ok.inj (written.symm.trans again)
    exact ⟨_, _, _, returned⟩
  · refine absurd ?_ rejects
    exact {
      eventId := (by decide : isPublicId "event-1" = true)
      caseId := (by decide : isPublicId "case-1" = true)
      jobId := fun _ given => by cases given
      eventType := (by decide : isEventType "job.state" = true)
      payload := ⟨_, written, by decide⟩
      sequence := (by decide : 1 ≤ 9223372036854775807)
      created := (by decide : timestampCheck "2026-08-11T14:40:00Z" = true)
      case := List.mem_singleton_self _
      job := fun _ given => by cases given
      fresh := rfl }

theorem events_round_trip_emptyEvent :
    ∃ texts, [emptyEvent].mapM (streamEvent .sample) = .ok texts ∧
    List.Forall₂ (Carries .sample) [emptyEvent] (EventStream.parse (texts.flatMap String.toList)) :=
  events_round_trip capsDepth_sample (List.forall_mem_singleton.mpr appended_emptyEvent)

end Reperio.Events
