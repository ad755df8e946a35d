import Reperio.Encoding.Firsts
import Reperio.Scanner.MessageRoundTrip

/-!
# Streams of messages

`decode_stream` reads line by line and leaves out a message whose replay key has
been seen. The key is made of the type, the sequence and one text out of the
payload, not of the payload itself.
-/

namespace Reperio.Scanner

open Python Encoding

/-- Type, sequence and the text that scopes them, if there is one. -/
structure ReplayKey where
  messageType : MessageType
  sequence : ℤ
  scope : Option PyStr
  deriving DecidableEq

-- `str(value)` of a value that is not a string
variable (shown : PyValue → PyStr)

/-- `str(value)`. -/
def strOf : PyValue → PyStr
  | .text points => points
  | value => shown value

/-- `str(idempotency_key) if idempotency_key is not None else None`. -/
def scopedKey : PyValue → Option PyStr
  | .none => none
  | value => some (strOf shown value)

def ScannerMessage.replayKey (message : ScannerMessage) : ReplayKey :=
  let stage := message.payload.get "stage"
  let scope := scopedKey shown
    ((message.payload.get "idempotency_key").orElse (message.payload.get "batch_id"))
  { messageType := message.messageType
    sequence := message.sequence
    scope := if scope.any fun text => !text.isEmpty then scope
      else if stage.truthy then some (strOf shown stage)
      else none }

variable (room : Room)

def decodeStreamFrom : List ReplayKey → List (List UInt8) →
    Except MessageError (List ScannerMessage)
  | _, [] => .ok []
  | seen, line :: lines => do
      let message ← decodeLine room line
      if message.replayKey shown ∈ seen then decodeStreamFrom seen lines
      else return message :: (← decodeStreamFrom (message.replayKey shown :: seen) lines)

def decodeStream (lines : List (List UInt8)) : Except MessageError (List ScannerMessage) :=
  decodeStreamFrom shown room [] lines

variable {messages : List ScannerMessage}

/-- The messages of valid lines, the first of every replay key. -/
theorem decodeStreamFrom_eq {lines : List (List UInt8)}
    (decoded : lines.mapM (decodeLine room) = .ok messages) (seen : List ReplayKey) :
    decodeStreamFrom shown room seen lines =
      .ok (firsts (ScannerMessage.replayKey shown) seen messages) := by
  induction lines generalizing messages seen with
  | nil =>
    cases decoded
    rfl
  | cons line lines ih =>
    rw [List.mapM_cons] at decoded
    rcases bind_eq_ok decoded with ⟨message, isMessage, decoded⟩
    rcases bind_eq_ok decoded with ⟨others, areOthers, decoded⟩
    rw [← Except.ok.inj decoded, decodeStreamFrom, firsts, isMessage]
    change (if message.replayKey shown ∈ seen then decodeStreamFrom shown room seen lines
      else _) = _
    split
    · exact ih areOthers seen
    · rw [ih areOthers]
      rfl

theorem decodeStream_eq {lines : List (List UInt8)}
    (decoded : lines.mapM (decodeLine room) = .ok messages) :
    decodeStream shown room lines = .ok (firsts (ScannerMessage.replayKey shown) [] messages) :=
  decodeStreamFrom_eq shown room decoded []

/-- What a stream of valid lines gives: messages in order, none of which is left out but for one
with its replay key that was passed on before, and the same with lines replayed. -/
structure SuppressesReplays (lines : List (List UInt8)) (messages : List ScannerMessage) :
    Prop where
  inOrder : ∃ kept, decodeStream shown room lines = .ok kept ∧ kept.Sublist messages
  decided : ∀ front line back message, lines = front ++ line :: back →
    decodeLine room line = .ok message →
    ∃ before, decodeStream shown room front = .ok before ∧
      ((∃ earlier ∈ before, earlier.replayKey shown = message.replayKey shown) ∧
          decodeStream shown room lines = decodeStream shown room (front ++ back) ∨
        (¬∃ earlier ∈ before, earlier.replayKey shown = message.replayKey shown) ∧
          ∃ later, decodeStream shown room lines = .ok (before ++ message :: later))
  replayed : ∀ others, Replays lines others →
    decodeStream shown room others = decodeStream shown room lines

theorem decodeStream_suppresses {lines : List (List UInt8)} {messages : List ScannerMessage}
    (decoded : lines.mapM (decodeLine room) = .ok messages) :
    SuppressesReplays shown room lines messages where
  inOrder := ⟨_, decodeStream_eq shown room decoded, firsts_sublist _ _ _⟩
  decided := by
    rintro front line back message rfl isMessage
    rcases mapM_append_eq_ok decoded with ⟨frontMessages, backMessages, readFront, readBack, rfl⟩
    rw [List.mapM_cons, isMessage] at readBack
    rcases bind_eq_ok readBack with ⟨_, isSame, readBack⟩
    cases isSame
    rcases bind_eq_ok readBack with ⟨rest, readRest, areBack⟩
    cases areBack
    have readOthers : (front ++ back).mapM (decodeLine room) = .ok (frontMessages ++ rest) := by
      simp only [List.mapM_append, readFront, readRest]
      rfl
    rw [decodeStream_eq shown room decoded, decodeStream_eq shown room readOthers]
    refine ⟨_, decodeStream_eq shown room readFront, ?_⟩
    by_cases dropped : ∃ earlier ∈ firsts (ScannerMessage.replayKey shown) [] frontMessages,
        earlier.replayKey shown = message.replayKey shown
    · exact Or.inl ⟨dropped, congrArg Except.ok (firsts_drop dropped)⟩
    · have passed : ∃ later, firsts (ScannerMessage.replayKey shown) []
          (frontMessages ++ message :: rest) =
            firsts (ScannerMessage.replayKey shown) [] frontMessages ++ message :: later :=
        firsts_keep dropped
      rcases passed with ⟨later, isKept⟩
      exact Or.inr ⟨dropped, later, congrArg Except.ok isKept⟩
  replayed := by
    intro others replays
    rcases replays.mapM decoded with ⟨otherMessages, readOthers, replays⟩
    rw [decodeStream_eq shown room readOthers, decodeStream_eq shown room decoded,
      firsts_replays replays]

/-! ## A message that is lost -/

/-- What a worker can do, told by one number. -/
def capabilityPayload (level : ℤ) : PyDict := [(.str "capabilities", .int level)]

def capabilityMessage (level : ℤ) : ScannerMessage where
  messageType := .capabilities
  sequence := 0
  payload := capabilityPayload level

def capabilityLine (level : String) : List UInt8 :=
  utf8 ("\x7b\"payload\":\x7b\"capabilities\":" ++ level ++
    "\x7d,\"protocol_version\":1,\"sequence\":0,\"type\":\"capabilities\"\x7d") ++ [10]

theorem decode_capabilityLine {level : ℤ} {shownLevel : String}
    (encoded : encodeMessage ⟨100, 100⟩ (.str "capabilities") (.int 0) (capabilityPayload level) =
      .ok (capabilityLine shownLevel)) :
    decodeLine ⟨100, 100⟩ (capabilityLine shownLevel) = .ok (capabilityMessage level) := by
  have distinct : (PyValue.dict (capabilityPayload level)).Everywhere PyValue.DistinctKeys := by
    refine PyValue.everywhere_dict_iff.mpr ⟨List.nodup_singleton _, ?_⟩
    simp only [capabilityPayload, List.mem_singleton, forall_eq]
    exact ⟨trivial, trivial⟩
  have scalar : (PyValue.dict (capabilityPayload level)).Everywhere PyValue.ScalarText := by
    refine PyValue.everywhere_dict_iff.mpr ⟨trivial, ?_⟩
    simp only [capabilityPayload, List.mem_singleton, forall_eq]
    exact ⟨scalarText_str _, trivial⟩
  rcases decodeLine_encodeMessage distinct scalar encoded with
    ⟨message, decoded, isType, isSequence, isPayload⟩
  have sameType : message.messageType = .capabilities := by
    have named := MessageType.ofValue?_eq_some_iff.mpr isType
    have isCapabilities : MessageType.ofValue? (.str "capabilities") = some .capabilities :=
      MessageType.ofValue?_eq_some_iff.mpr rfl
    rw [isCapabilities] at named
    exact (Option.some.inj named).symm
  have samePayload : message.payload = capabilityPayload level := isPayload
  rcases message with ⟨messageType, sequence, payload⟩
  dsimp only at sameType samePayload isSequence
  rw [decoded, sameType, samePayload, ← PyValue.int.inj isSequence]
  rfl

theorem decode_capabilityLines :
    decodeLine ⟨100, 100⟩ (capabilityLine "1") = .ok (capabilityMessage 1) ∧
      decodeLine ⟨100, 100⟩ (capabilityLine "2") = .ok (capabilityMessage 2) := by
  constructor
  · apply decode_capabilityLine
    exact eq_ok_of_toOption (by decide)
  · apply decode_capabilityLine
    exact eq_ok_of_toOption (by decide)

theorem decoded_capabilities :
    [capabilityLine "1", capabilityLine "2"].mapM (decodeLine ⟨100, 100⟩) =
      .ok [capabilityMessage 1, capabilityMessage 2] := by
  rw [List.mapM_cons, List.mapM_cons, List.mapM_nil, decode_capabilityLines.1,
    decode_capabilityLines.2]
  rfl

theorem decodeStream_suppresses_capabilities :
    SuppressesReplays (fun _ => []) ⟨100, 100⟩ [capabilityLine "1", capabilityLine "2"]
      [capabilityMessage 1, capabilityMessage 2] :=
  decodeStream_suppresses (fun _ => []) ⟨100, 100⟩ decoded_capabilities

/-- The second of two messages is lost, though its payload is another one. -/
theorem second_capabilities_lost :
    [capabilityLine "1", capabilityLine "2"].mapM (decodeLine ⟨100, 100⟩) =
        .ok [capabilityMessage 1, capabilityMessage 2] ∧
      PyValue.eq (.dict (capabilityPayload 1)) (.dict (capabilityPayload 2)) = false ∧
      decodeStream (fun _ => []) ⟨100, 100⟩ [capabilityLine "1", capabilityLine "2"] =
        .ok [capabilityMessage 1] := by
  refine ⟨decoded_capabilities, by decide, ?_⟩
  have sameKey : (capabilityMessage 2).replayKey (fun _ => []) =
      (capabilityMessage 1).replayKey fun _ => [] := rfl
  rw [decodeStream_eq _ _ decoded_capabilities, firsts, if_neg List.not_mem_nil, firsts, sameKey,
    if_pos List.mem_cons_self, firsts]

end Reperio.Scanner
