import Mathlib.Data.List.Basic
import Mathlib.Data.List.Forall2

/-!
# Event streams

The client's side of Server-Sent Events: a stream is cut into lines, a line sets
a field of the message under way, and an empty line dispatches it. `block` is a
message as a server writes it, with an identifier, an event name and one line of
data; a stream of such blocks is read as their messages.
-/

namespace Reperio.Encoding.EventStream

/-- An event as the client dispatches it. -/
structure Message where
  lastEventId : List Char
  event : List Char
  data : List Char
  deriving DecidableEq

/-- The message under way; the identifier outlives it. -/
structure Buffers where
  lastEventId : List Char := []
  event : List Char := []
  data : List Char := []

/-! ## Lines -/

/-- The lines, which end at a carriage return, a line feed or both, after what the first one has so
far. What no break ends is no line. -/
def linesAfter : List Char → List Char → List (List Char)
  | _, [] => []
  | line, '\r' :: '\n' :: rest => line :: linesAfter [] rest
  | line, '\r' :: rest => line :: linesAfter [] rest
  | line, '\n' :: rest => line :: linesAfter [] rest
  | line, char :: rest => linesAfter (line ++ [char]) rest

def IsLine (line : List Char) : Prop := ∀ char ∈ line, char ≠ '\r' ∧ char ≠ '\n'

theorem linesAfter_append {body : List Char} (isLine : IsLine body) (line rest : List Char) :
    linesAfter line (body ++ '\n' :: rest) = (line ++ body) :: linesAfter [] rest := by
  induction body generalizing line with
  | nil => rw [List.nil_append, linesAfter, List.append_nil]
  | cons char body ih =>
    rcases List.forall_mem_cons.mp isLine with ⟨⟨notReturn, notFeed⟩, isRest⟩
    rw [List.cons_append, linesAfter, ih isRest, List.append_assoc]
    · rfl
    · exact fun _ same _ => notReturn same
    · exact notReturn
    · exact notFeed

/-! ## Fields -/

/-- One space after the colon is no part of the value. -/
def dropSpace : List Char → List Char
  | ' ' :: value => value
  | value => value

def fieldName (line : List Char) : List Char := line.takeWhile (· ≠ ':')

def fieldValue (line : List Char) : List Char := dropSpace (line.dropWhile (· ≠ ':')).tail

def setField (buffers : Buffers) (name value : List Char) : Buffers :=
  if name = "event".toList then { buffers with event := value }
  else if name = "data".toList then { buffers with data := buffers.data ++ value ++ ['\n'] }
  else if name = "id".toList then
    if Char.ofNat 0 ∈ value then buffers else { buffers with lastEventId := value }
  else buffers

/-! ## Messages -/

/-- The messages of the lines. A line that starts with a colon is a comment, and a message without
data is not dispatched. -/
def messagesAfter : Buffers → List (List Char) → List Message
  | _, [] => []
  | buffers, [] :: lines =>
    if buffers.data = [] then messagesAfter { buffers with event := [] } lines
    else
      ⟨buffers.lastEventId, if buffers.event = [] then "message".toList else buffers.event,
        buffers.data.dropLast⟩ :: messagesAfter { lastEventId := buffers.lastEventId } lines
  | buffers, (':' :: _) :: lines => messagesAfter buffers lines
  | buffers, line :: lines =>
    messagesAfter (setField buffers (fieldName line) (fieldValue line)) lines

def parse (stream : List Char) : List Message := messagesAfter {} (linesAfter [] stream)

/-! ## Blocks -/

/-- A field with a name that holds no colon. -/
def fieldLine (name value : List Char) : List Char := name ++ ':' :: ' ' :: value

def block (message : Message) : List Char := fieldLine ['i', 'd'] message.lastEventId ++ '\n' ::
    (fieldLine ['e', 'v', 'e', 'n', 't'] message.event ++ '\n' ::
      (fieldLine ['d', 'a', 't', 'a'] message.data ++ ['\n', '\n']))

/-- A message that one block can carry. -/
structure Message.IsPlain (message : Message) : Prop where
  lastEventId : IsLine message.lastEventId
  noNull : Char.ofNat 0 ∉ message.lastEventId
  event : IsLine message.event
  named : message.event ≠ []
  data : IsLine message.data

section Blocks

variable {message : Message} {buffers : Buffers}

theorem messagesAfter_fieldLine {char : Char} {name : List Char} (noColon : ':' ∉ char :: name)
    (value : List Char) (lines : List (List Char)) :
    messagesAfter buffers (fieldLine (char :: name) value :: lines) =
      messagesAfter (setField buffers (char :: name) value) lines := by
  have plain : ∀ other ∈ char :: name, decide (other ≠ ':') = true := by
    intro other member
    exact decide_eq_true fun same => noColon (same ▸ member)
  have isName : fieldName (fieldLine (char :: name) value) = char :: name := by
    rw [fieldName, fieldLine, List.takeWhile_append_of_pos plain]
    simp
  have isValue : fieldValue (fieldLine (char :: name) value) = value := by
    rw [fieldValue, fieldLine, List.dropWhile_append_of_pos plain]
    rfl
  have notComment : char ≠ ':' := fun same => noColon (same ▸ List.mem_cons_self)
  have dispatched : messagesAfter buffers (fieldLine (char :: name) value :: lines) =
      messagesAfter (setField buffers (fieldName (fieldLine (char :: name) value))
        (fieldValue (fieldLine (char :: name) value))) lines := by
    rw [fieldLine, List.cons_append, messagesAfter]
    · exact List.cons_ne_nil _ _
    · exact fun tail same => notComment (List.cons.inj same).1
  rw [dispatched, isName, isValue]

theorem isLine_fieldLine {name value : List Char} (nameLine : IsLine name)
    (valueLine : IsLine value) : IsLine (fieldLine name value) := by
  refine List.forall_mem_append.mpr ⟨nameLine, ?_⟩
  exact List.forall_mem_cons.mpr ⟨by decide, List.forall_mem_cons.mpr ⟨by decide, valueLine⟩⟩

theorem linesAfter_block (isPlain : message.IsPlain) (rest : List Char) :
    linesAfter [] (block message ++ rest) = fieldLine ['i', 'd'] message.lastEventId ::
        fieldLine ['e', 'v', 'e', 'n', 't'] message.event ::
          fieldLine ['d', 'a', 't', 'a'] message.data :: [] :: linesAfter [] rest := by
  have idLine := isLine_fieldLine (by simp [IsLine] : IsLine ['i', 'd']) isPlain.lastEventId
  have eventLine := isLine_fieldLine (by simp [IsLine] : IsLine ['e', 'v', 'e', 'n', 't'])
    isPlain.event
  have dataLine := isLine_fieldLine (by simp [IsLine] : IsLine ['d', 'a', 't', 'a'])
    isPlain.data
  rw [block, List.append_assoc, List.cons_append, linesAfter_append idLine, List.append_assoc,
    List.cons_append, linesAfter_append eventLine, List.append_assoc, List.cons_append,
    linesAfter_append dataLine]
  rfl

theorem messagesAfter_block (isPlain : message.IsPlain) (lastEventId rest : List Char) :
    messagesAfter { lastEventId } (linesAfter [] (block message ++ rest)) =
      message :: messagesAfter { lastEventId := message.lastEventId } (linesAfter [] rest) := by
  have setId : setField { lastEventId } ['i', 'd'] message.lastEventId =
      { lastEventId := message.lastEventId } := if_neg isPlain.noNull
  have setOthers : setField (setField { lastEventId := message.lastEventId }
      ['e', 'v', 'e', 'n', 't'] message.event) ['d', 'a', 't', 'a'] message.data =
        ⟨message.lastEventId, message.event, message.data ++ ['\n']⟩ := rfl
  have someData : message.data ++ ['\n'] ≠ [] := List.append_ne_nil_of_right_ne_nil _ (by decide)
  rw [linesAfter_block isPlain, messagesAfter_fieldLine (by decide), setId,
    messagesAfter_fieldLine (by decide), messagesAfter_fieldLine (by decide), setOthers,
    messagesAfter, if_neg someData, if_neg isPlain.named, List.dropLast_concat]

end Blocks

/-- A stream of blocks is read as the messages that were written. -/
theorem parse_blocks {messages : List Message} (arePlain : ∀ message ∈ messages, message.IsPlain) :
    parse (messages.flatMap block) = messages := by
  have after : ∀ lastEventId,
      messagesAfter { lastEventId } (linesAfter [] (messages.flatMap block)) = messages := by
    induction messages with
    | nil => exact fun _ => rfl
    | cons message messages ih =>
      intro lastEventId
      rcases List.forall_mem_cons.mp arePlain with ⟨isPlain, restPlain⟩
      rw [List.flatMap_cons, messagesAfter_block isPlain, ih restPlain]
  exact after []

end Reperio.Encoding.EventStream
