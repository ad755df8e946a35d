import Mathlib.Data.List.Infix
import Reperio.Python.JsonCanonical
import Reperio.Python.Operators

/-!
# Redaction of audit payloads

`redact` of `hostd/safety_audit.py`: what a payload holds under a sensitive key
and the content of bytes never reach a record of the safety audit. A mapping is
read through the texts of its keys, so keys with one text collide and the last
of them counts.
-/

namespace Reperio.Hostd.SafetyAudit

open Python

/-! ## Payloads -/

/-- A name of a type, which never holds a null character. -/
abbrev TypeName := { points : PyStr // ∀ point ∈ points, point.val ≠ 0 }

/-- A value as `redact` tells values apart. -/
inductive Payload where
  | none
  | bool (value : Bool)
  | int (value : ℤ)
  | float (value : PyFloat)
  | text (points : PyStr)
  -- `bytes`, `bytearray` or `memoryview`
  | bytes (content : List UInt8)
  -- any sequence that is no string
  | sequence (items : List Payload)
  -- the items as they are enumerated, each key as `str` shows it
  | mapping (items : List (PyStr × Payload))
  -- any other object, with `type(value).__name__`
  | unsupported (typeName : TypeName)

def redacted : PyStr := .ofString "[REDACTED]"

def devicePathRedacted : PyStr := .ofString "[DEVICE_PATH_REDACTED]"

def sensitiveKeyParts : List String :=
  ["credential", "password", "secret", "token", "sample_bytes", "private_key", "seed",
    "authorization", "cookie", "api_key", "mnemonic", "keystore", "wallet"]

def asciiLower (point : CodePoint) : CodePoint :=
  if 65 ≤ point.val ∧ point.val ≤ 90 then Fin.ofNat 0x110000 (point.val + 32) else point

/-- What the interpreter knows about lower case: wherever ASCII characters stand in a text, they
are lowered one by one. -/
structure Lowering where
  lower : PyStr → PyStr
  ascii : ∀ before part after : PyStr, (∀ point ∈ part, point.val < 128) →
    part.map asciiLower <:+: lower (before ++ part ++ after)

/-- `_safe_string`. -/
def safeString (value : PyStr) : PyStr :=
  let cleaned := (value.filter fun point => decide (point.val ≠ 0)).take 512
  if PyStr.startsWith cleaned "/dev/" then devicePathRedacted else cleaned

/-- `f"[UNSUPPORTED:{name}]"`. -/
def unsupportedText (typeName : TypeName) : PyStr :=
  .ofString "[UNSUPPORTED:" ++ typeName.val ++ .ofString "]"

section Redact

variable (lowering : Lowering)

def isSensitiveKey (key : PyStr) : Bool :=
  sensitiveKeyParts.any fun part => decide (PyStr.ofString part <:+: lowering.lower key)

mutual

/-- `redact`, which calls itself at most this deep. -/
def redact : ℕ → Payload → Except PyError Payload
  | 0, _ => .error .recursionError
  | limit + 1, .mapping items => do
      return .mapping (collectItems (← redactItems limit items))
  | _ + 1, .bytes _ => .ok (.text redacted)
  | limit + 1, .sequence items => do return .sequence (← redactAll limit items)
  | _ + 1, .text points => .ok (.text (safeString points))
  | _ + 1, .float value =>
    .ok (if value.allowed false then .float value else .text (.ofString "non_finite_number"))
  | _ + 1, .int value => .ok (.int value)
  | _ + 1, .bool value => .ok (.bool value)
  | _ + 1, .none => .ok .none
  | _ + 1, .unsupported typeName => .ok (.text (unsupportedText typeName))

def redactAll : ℕ → List Payload → Except PyError (List Payload)
  | _, [] => .ok []
  | limit, item :: items => do return (← redact limit item) :: (← redactAll limit items)

/-- The values of a mapping; what is under a sensitive key is not looked at. -/
def redactItems : ℕ → List (PyStr × Payload) → Except PyError (List (PyStr × Payload))
  | _, [] => .ok []
  | limit, (key, child) :: items => do
      let value ← if isSensitiveKey lowering key then .ok (.text redacted) else redact limit child
      return (key, value) :: (← redactItems limit items)

end

end Redact

/-! ## Payloads that differ in secrets -/

section Alike

variable (lowering : Lowering)

mutual

/-- The payloads are equal but for what is under sensitive keys and for the content of bytes. -/
def Alike : Payload → Payload → Prop
  | .bytes _, .bytes _ => True
  | .sequence items, .sequence others => AlikeAll items others
  | .mapping items, .mapping others => AlikeItems items others
  | value, other => value = other

def AlikeAll : List Payload → List Payload → Prop
  | [], [] => True
  | item :: items, other :: others => Alike item other ∧ AlikeAll items others
  | _, _ => False

def AlikeItems : List (PyStr × Payload) → List (PyStr × Payload) → Prop
  | [], [] => True
  | (key, value) :: items, (otherKey, other) :: others =>
    key = otherKey ∧ (isSensitiveKey lowering key = true ∨ Alike value other) ∧
      AlikeItems items others
  | _, _ => False

end

mutual

/-- Every object of an unsupported type that is not under a sensitive key has a type with a name of
at most 498 characters. -/
def NamesFit : Payload → Prop
  | .sequence items => NamesFitAll items
  | .mapping items => NamesFitItems items
  | .unsupported typeName => typeName.val.length ≤ 498
  | _ => True

def NamesFitAll : List Payload → Prop
  | [] => True
  | item :: items => NamesFit item ∧ NamesFitAll items

def NamesFitItems : List (PyStr × Payload) → Prop
  | [] => True
  | (key, child) :: items =>
    (isSensitiveKey lowering key = true ∨ NamesFit child) ∧ NamesFitItems items

end

end Alike

namespace Payload

/-- A value that holds no others. -/
inductive IsLeaf : Payload → Prop where
  | none : IsLeaf .none
  | bool (value : Bool) : IsLeaf (.bool value)
  | int (value : ℤ) : IsLeaf (.int value)
  | float (value : PyFloat) : IsLeaf (.float value)
  | text (points : PyStr) : IsLeaf (.text points)
  | bytes (content : List UInt8) : IsLeaf (.bytes content)
  | unsupported (typeName : TypeName) : IsLeaf (.unsupported typeName)

section Induction

variable {motive : Payload → Prop} (leaf : ∀ value, IsLeaf value → motive value)
  (sequence : ∀ items, (∀ item ∈ items, motive item) → motive (sequence items))
  (mapping : ∀ items : List (PyStr × Payload), (∀ item ∈ items, motive item.2) →
    motive (mapping items))

-- they are used through each other only
set_option linter.unusedSectionVars false
include leaf sequence mapping

mutual

theorem induct (value : Payload) : motive value := by
  match value with
  | .sequence items => exact sequence items (inductAll items)
  | .mapping items => exact mapping items (inductItems items)
  | .none => exact leaf _ .none
  | .bool value => exact leaf _ (.bool value)
  | .int value => exact leaf _ (.int value)
  | .float value => exact leaf _ (.float value)
  | .text points => exact leaf _ (.text points)
  | .bytes content => exact leaf _ (.bytes content)
  | .unsupported typeName => exact leaf _ (.unsupported typeName)

theorem inductAll (items : List Payload) : ∀ item ∈ items, motive item := by
  match items with
  | [] => exact fun _ member => absurd member List.not_mem_nil
  | item :: items => exact List.forall_mem_cons.mpr ⟨induct item, inductAll items⟩

theorem inductItems (items : List (PyStr × Payload)) : ∀ item ∈ items, motive item.2 := by
  match items with
  | [] => exact fun _ member => absurd member List.not_mem_nil
  | (key, child) :: items =>
    exact List.forall_mem_cons.mpr ⟨induct child, inductItems items⟩

end

end Induction

end Payload

/-! ## Noninterference -/

variable {limit : ℕ}

section Noninterference

variable {lowering : Lowering}

theorem redactAll_eq {items others : List Payload} (alike : AlikeAll lowering items others)
    (each : ∀ item ∈ items, ∀ other, Alike lowering item other →
      redact lowering limit item = redact lowering limit other) :
    redactAll lowering limit items = redactAll lowering limit others := by
  induction items generalizing others with
  | nil =>
    cases others with
    | nil => rfl
    | cons other others => cases alike
  | cons item items ih =>
    cases others with
    | nil => cases alike
    | cons other others =>
      rcases List.forall_mem_cons.mp each with ⟨first, rest⟩
      rw [redactAll, redactAll, first other alike.1, ih alike.2 rest]

theorem redactItems_eq {items others : List (PyStr × Payload)}
    (alike : AlikeItems lowering items others)
    (each : ∀ item ∈ items, ∀ other, Alike lowering item.2 other →
      redact lowering limit item.2 = redact lowering limit other) :
    redactItems lowering limit items = redactItems lowering limit others := by
  induction items generalizing others with
  | nil =>
    cases others with
    | nil => rfl
    | cons other others => cases alike
  | cons item items ih =>
    rcases item with ⟨key, child⟩
    cases others with
    | nil => cases alike
    | cons other others =>
      rcases other with ⟨otherKey, other⟩
      rcases List.forall_mem_cons.mp each with ⟨first, rest⟩
      rcases alike with ⟨rfl, secret | same, alikeRest⟩
      · rw [redactItems, redactItems, if_pos secret, if_pos secret, ih alikeRest rest]
      · rw [redactItems, redactItems, first other same, ih alikeRest rest]

theorem redact_eq_of_alike (limit : ℕ) {value other : Payload}
    (alike : Alike lowering value other) :
    redact lowering limit value = redact lowering limit other := by
  induction value using Payload.induct generalizing limit other with
  | leaf value isLeaf =>
    cases isLeaf with
    | bytes content =>
      cases other with
      | bytes _ =>
        cases limit with
        | zero => rfl
        | succ limit => rfl
      | _ => cases alike
    | _ => exact congrArg (redact lowering limit) alike
  | sequence items ih =>
    cases other with
    | sequence others =>
      cases limit with
      | zero => rfl
      | succ limit =>
        rw [redact, redact, redactAll_eq alike fun item member _ => ih item member limit]
    | _ => cases alike
  | mapping items ih =>
    cases other with
    | mapping others =>
      cases limit with
      | zero => rfl
      | succ limit =>
        rw [redact, redact, redactItems_eq alike fun item member _ => ih item member limit]
    | _ => cases alike

/-- A part of a sensitive key makes a key sensitive, in whatever case its letters are. -/
theorem isSensitiveKey_of_part {before part after : PyStr}
    (isPart : part.map asciiLower ∈ sensitiveKeyParts.map PyStr.ofString) :
    isSensitiveKey lowering (before ++ part ++ after) = true := by
  rcases List.mem_map.mp isPart with ⟨name, isName, isLowered⟩
  have ascii : ∀ point ∈ part, point.val < 128 := by
    intro point member
    have names : sensitiveKeyParts.all fun name =>
        (PyStr.ofString name).all fun other => decide (other.val < 128) := by
      decide
    have low : (asciiLower point).val < 128 := by
      refine of_decide_eq_true (List.all_eq_true.mp (List.all_eq_true.mp names name isName) _ ?_)
      rw [isLowered]
      exact List.mem_map_of_mem member
    unfold asciiLower at low
    split at low
    · omega
    · exact low
  refine List.any_eq_true.mpr ⟨name, isName, decide_eq_true ?_⟩
  rw [isLowered]
  exact lowering.ascii before part after ascii

end Noninterference

/-! ## Idempotence -/

section Idempotence

variable {lowering : Lowering}

theorem safeString_safeString (points : PyStr) :
    safeString (safeString points) = safeString points := by
  unfold safeString
  dsimp only
  split
  · rfl
  · rename_i notDevice
    have clean : ∀ point ∈ (points.filter fun point => decide (point.val ≠ 0)).take 512,
        decide (point.val ≠ 0) = true := by
      intro point member
      exact (List.mem_filter.mp (List.mem_of_mem_take member)).2
    rw [List.filter_eq_self.mpr clean, List.take_take, Nat.min_self, if_neg notDevice]

theorem safeString_of_short {points : PyStr} (clean : ∀ point ∈ points, point.val ≠ 0)
    (short : points.length ≤ 512) (notDevice : ¬PyStr.startsWith points "/dev/" = true) :
    safeString points = points := by
  have kept : (points.filter fun point => decide (point.val ≠ 0)) = points :=
    List.filter_eq_self.mpr fun point member => decide_eq_true (clean point member)
  rw [safeString, kept, List.take_of_length_le short]
  exact if_neg notDevice

theorem length_unsupportedText (typeName : TypeName) :
    (unsupportedText typeName).length = typeName.val.length + 14 := by
  have opening : (PyStr.ofString "[UNSUPPORTED:").length = 13 := rfl
  have closing : (PyStr.ofString "]").length = 1 := rfl
  rw [unsupportedText, List.length_append, List.length_append, opening, closing]
  omega

theorem safeString_unsupportedText {typeName : TypeName} (fits : typeName.val.length ≤ 498) :
    safeString (unsupportedText typeName) = unsupportedText typeName := by
  have notDevice : PyStr.startsWith (unsupportedText typeName) "/dev/" = false := rfl
  refine safeString_of_short ?_ ?_ (by simp [notDevice])
  · have opening : (PyStr.ofString "[UNSUPPORTED:").all fun point => decide (point.val ≠ 0) := by
      decide
    have closing : (PyStr.ofString "]").all fun point => decide (point.val ≠ 0) := by decide
    simp only [List.all_eq_true, decide_eq_true_eq] at opening closing
    exact List.forall_mem_append.mpr ⟨List.forall_mem_append.mpr ⟨opening, typeName.2⟩, closing⟩
  · rw [length_unsupportedText]
    omega

variable (lowering) in
/-- To redact the item of a mapping once more changes nothing. -/
def Settled (limit : ℕ) (item : PyStr × Payload) : Prop :=
  if isSensitiveKey lowering item.1 then item.2 = .text redacted
  else redact lowering limit item.2 = .ok item.2

theorem redactItems_of_settled {items : List (PyStr × Payload)}
    (settled : ∀ item ∈ items, Settled lowering limit item) :
    redactItems lowering limit items = .ok items := by
  induction items with
  | nil => rfl
  | cons item items ih =>
    rcases List.forall_mem_cons.mp settled with ⟨first, rest⟩
    rcases item with ⟨key, child⟩
    rw [redactItems, ih rest]
    unfold Settled at first
    split at first
    · rename_i secret
      obtain rfl : child = .text redacted := first
      rw [if_pos secret]
      rfl
    · rename_i notSecret
      rw [if_neg notSecret, first]
      rfl

theorem settled_of_redactItems {items results : List (PyStr × Payload)}
    (fits : NamesFitItems lowering items)
    (each : ∀ item ∈ items, NamesFit lowering item.2 → ∀ result,
      redact lowering limit item.2 = .ok result → redact lowering limit result = .ok result)
    (ran : redactItems lowering limit items = .ok results) :
    ∀ item ∈ results, Settled lowering limit item := by
  induction items generalizing results with
  | nil =>
    cases ran
    exact fun _ member => absurd member List.not_mem_nil
  | cons item items ih =>
    rcases List.forall_mem_cons.mp each with ⟨first, rest⟩
    rcases item with ⟨key, child⟩
    rcases fits with ⟨fitsFirst, fitsRest⟩
    rw [redactItems] at ran
    split at ran
    · rename_i secret
      rcases bind_eq_ok ran with ⟨value, isValue, ran⟩
      rcases bind_eq_ok ran with ⟨others, isRest, ran⟩
      cases ran
      cases isValue
      refine List.forall_mem_cons.mpr ⟨?_, ih fitsRest rest isRest⟩
      rw [Settled, if_pos secret]
    · rename_i notSecret
      rcases bind_eq_ok ran with ⟨value, isValue, ran⟩
      rcases bind_eq_ok ran with ⟨others, isRest, ran⟩
      cases ran
      refine List.forall_mem_cons.mpr ⟨?_, ih fitsRest rest isRest⟩
      rw [Settled, if_neg notSecret]
      exact first (fitsFirst.resolve_left notSecret) value isValue

theorem redactAll_of_redactAll {items results : List Payload} (fits : NamesFitAll lowering items)
    (each : ∀ item ∈ items, NamesFit lowering item → ∀ result,
      redact lowering limit item = .ok result → redact lowering limit result = .ok result)
    (ran : redactAll lowering limit items = .ok results) :
    redactAll lowering limit results = .ok results := by
  induction items generalizing results with
  | nil =>
    cases ran
    rfl
  | cons item items ih =>
    rcases List.forall_mem_cons.mp each with ⟨first, rest⟩
    rw [redactAll] at ran
    rcases bind_eq_ok ran with ⟨value, isValue, ran⟩
    rcases bind_eq_ok ran with ⟨others, isRest, ran⟩
    cases ran
    rw [redactAll, first fits.1 value isValue, ih fits.2 rest isRest]
    rfl

theorem redact_zero (value : Payload) : redact lowering 0 value = .error .recursionError := by
  cases value <;> rfl

/-- What was redacted is left as it is. -/
theorem redact_redact {value result : Payload} (fits : NamesFit lowering value)
    (ran : redact lowering limit value = .ok result) :
    redact lowering limit result = .ok result := by
  induction value using Payload.induct generalizing limit result with
  | leaf value isLeaf =>
    rcases limit with _ | limit
    · rw [redact_zero] at ran
      cases ran
    · cases isLeaf with
      | bytes content =>
        cases ran
        rfl
      | text points =>
        cases ran
        rw [redact, safeString_safeString]
      | float value =>
        cases ran
        split
        · rename_i isFinite
          rw [redact, if_pos isFinite]
        · rfl
      | unsupported typeName =>
        cases ran
        rw [redact, safeString_unsupportedText fits]
      | _ =>
        cases ran
        rfl
  | sequence items ih =>
    rcases limit with _ | limit
    · rw [redact_zero] at ran
      cases ran
    · rw [redact] at ran
      rcases bind_eq_ok ran with ⟨results, isResults, ran⟩
      cases ran
      rw [redact, redactAll_of_redactAll fits (fun item member fits result ran =>
        ih item member fits ran) isResults]
      rfl
  | mapping items ih =>
    rcases limit with _ | limit
    · rw [redact_zero] at ran
      cases ran
    · rw [redact] at ran
      rcases bind_eq_ok ran with ⟨results, isResults, ran⟩
      cases ran
      have settled := settled_of_redactItems fits (fun item member fits result ran =>
        ih item member fits ran) isResults
      rw [redact, redactItems_of_settled fun item member => settled item (mem_collectItems member)]
      dsimp only [Bind.bind, Except.bind]
      rw [collectItems_of_nodup (nodup_keys_collectItems results)]
      rfl

variable (lowering) in
/-- Payloads that differ in secrets are redacted alike, where a sensitive part of a key counts in
any case of its letters; what was redacted is left as it is, unless a name of a type is too long. -/
theorem redact_hides (limit : ℕ) :
    (∀ before part after : PyStr, part.map asciiLower ∈ sensitiveKeyParts.map PyStr.ofString →
        isSensitiveKey lowering (before ++ part ++ after) = true) ∧
      (∀ value other, Alike lowering value other →
        redact lowering limit value = redact lowering limit other) ∧
      ∀ value, NamesFit lowering value →
        (redact lowering limit value >>= redact lowering limit) = redact lowering limit value := by
  refine ⟨fun before part after => isSensitiveKey_of_part,
    fun value other => redact_eq_of_alike limit, fun value fits => ?_⟩
  rcases ran : redact lowering limit value with error | result
  · rfl
  · exact redact_redact fits ran

end Idempotence

/-! ## A name of a type that is too long -/

def sampleLowering : Lowering where
  lower text := text.map asciiLower
  ascii before part after _ := by
    rw [List.map_append, List.map_append]
    exact List.infix_append _ _ _

theorem length_safeString_le (points : PyStr) : (safeString points).length ≤ 512 := by
  unfold safeString
  dsimp only
  split
  · decide
  · exact List.length_take_le _ _

def longName : TypeName := ⟨List.replicate 499 (.ofChar 'A'), fun point member => by
    rw [List.eq_of_mem_replicate member]
    decide⟩

/-- Keys `1` and `"1"` of a mapping collide, and the last one counts. -/
def collidingItems : List (PyStr × Payload) :=
  [(.ofString "1", .bool true), (.ofString "1", .bool false)]

/-- The text of a long name is cut when it is redacted once more; and mappings with the same items
in another order need not be redacted alike. -/
theorem redact_cuts_long_name :
    (redact sampleLowering 1000 (.unsupported longName) >>= redact sampleLowering 1000) ≠
        redact sampleLowering 1000 (.unsupported longName) ∧
      redact sampleLowering 1000 (.mapping collidingItems) =
        .ok (.mapping [(.ofString "1", .bool false)]) ∧
      redact sampleLowering 1000 (.mapping collidingItems.reverse) =
        .ok (.mapping [(.ofString "1", .bool true)]) := by
  have plain : isSensitiveKey sampleLowering (.ofString "1") = false := by
    refine List.any_eq_false.mpr fun part member inside => ?_
    have long : sensitiveKeyParts.all fun part => decide (1 < (PyStr.ofString part).length) := by
      decide
    have longer := of_decide_eq_true (List.all_eq_true.mp long part member)
    have short := (of_decide_eq_true inside).length_le
    have single : (sampleLowering.lower (.ofString "1")).length = 1 := rfl
    omega
  refine ⟨fun same => ?_, ?_, ?_⟩
  · have cut : safeString (unsupportedText longName) = unsupportedText longName :=
      Payload.text.inj (Except.ok.inj same)
    have short := length_safeString_le (unsupportedText longName)
    rw [cut, length_unsupportedText, longName, List.length_replicate] at short
    omega
  · simp only [redact, redactItems, collidingItems, plain]
    rfl
  · simp only [redact, redactItems, collidingItems, plain, List.reverse_cons, List.reverse_nil,
      List.nil_append, List.cons_append]
    rfl

end Reperio.Hostd.SafetyAudit
