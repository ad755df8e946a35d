import Mathlib.Data.List.Basic
import Mathlib.Tactic.Basic

/-!
# Base64

The encoding with the characters `-` and `_`, padded, and the strict decoding:
the two alphabets are both read, padding may end the text and nothing may follow
it. What is encoded is decoded again (`decode_encode`).
-/

namespace Reperio.Encoding.Base64

/-- The character of six bits. -/
def charOf (value : ℕ) : UInt8 := if value < 26 then UInt8.ofNat (65 + value)
  else if value < 52 then UInt8.ofNat (71 + value)
  else if value < 62 then UInt8.ofNat (value - 4)
  else if value = 62 then 45
  else 95

/-- The six bits of a character of either alphabet. -/
def valueOf (char : UInt8) : Option ℕ := if 65 ≤ char ∧ char ≤ 90 then some (char.toNat - 65)
  else if 97 ≤ char ∧ char ≤ 122 then some (char.toNat - 71)
  else if 48 ≤ char ∧ char ≤ 57 then some (char.toNat + 4)
  else if char = 45 ∨ char = 43 then some 62
  else if char = 95 ∨ char = 47 then some 63
  else none

def padding : UInt8 := 61

def encode : List UInt8 → List UInt8
  | [] => []
  | [first] =>
    [charOf (first.toNat / 4), charOf (first.toNat % 4 * 16), padding, padding]
  | [first, second] =>
    [charOf (first.toNat / 4), charOf (first.toNat % 4 * 16 + second.toNat / 16),
      charOf (second.toNat % 16 * 4), padding]
  | first :: second :: third :: rest =>
    charOf (first.toNat / 4) :: charOf (first.toNat % 4 * 16 + second.toNat / 16) ::
      charOf (second.toNat % 16 * 4 + third.toNat / 64) :: charOf (third.toNat % 64) ::
        encode rest

/-- Where the decoding is: the characters of the group that were read, the bits they left, the
padding after them, and whether there was any padding so far. -/
structure Progress where
  place : ℕ := 0
  left : ℕ := 0
  pads : ℕ := 0
  padded : Bool := false

/-- What is decoded from the rest of a text, nothing when it is malformed. -/
def decodeFrom (progress : Progress) : List UInt8 → Option (List UInt8)
  | [] => if progress.place = 0 then some [] else none
  | char :: chars =>
    if char = padding then
      if 2 ≤ progress.place ∧ 4 ≤ progress.place + (progress.pads + 1) then
        if chars.isEmpty then some [] else none
      else
        decodeFrom { progress with
          pads := if 2 ≤ progress.place then progress.pads + 1 else progress.pads
          padded := true } chars
    else
      match valueOf char with
      | none => none
      | some value =>
        if progress.padded then none
        else
          match progress.place with
          | 0 => decodeFrom { place := 1, left := value } chars
          | 1 =>
            (decodeFrom { place := 2, left := value % 16 } chars).map
              (UInt8.ofNat (progress.left * 4 + value / 16) :: ·)
          | 2 =>
            (decodeFrom { place := 3, left := value % 4 } chars).map
              (UInt8.ofNat (progress.left * 16 + value / 4) :: ·)
          | _ =>
            (decodeFrom {} chars).map (UInt8.ofNat (progress.left * 64 + value) :: ·)

/-- `base64.b64decode(text, altchars=b"-_", validate=True)`. -/
def decode (text : List UInt8) : Option (List UInt8) :=
  if text.head? = some padding then none else decodeFrom {} text

/-- What is decoded where characters of neither alphabet are skipped and nothing behind the padding
is read: `place` characters of the group were read, and `pads` of the padding. -/
def decodeSkipping (place left pads : ℕ) : List UInt8 → Option (List UInt8)
  | [] => if place = 0 then some [] else none
  | char :: chars =>
    if char = padding then
      if 2 ≤ place ∧ 4 ≤ place + (pads + 1) then some []
      else decodeSkipping place left (if 2 ≤ place then pads + 1 else pads) chars
    else
      match valueOf char with
      | none => decodeSkipping place left pads chars
      | some value =>
        match place with
        | 0 => decodeSkipping 1 value 0 chars
        | 1 => (decodeSkipping 2 (value % 16) 0 chars).map
            (UInt8.ofNat (left * 4 + value / 16) :: ·)
        | 2 => (decodeSkipping 3 (value % 4) 0 chars).map
            (UInt8.ofNat (left * 16 + value / 4) :: ·)
        | _ => (decodeSkipping 0 0 0 chars).map (UInt8.ofNat (left * 64 + value) :: ·)

/-- `base64.urlsafe_b64decode(text)`. -/
def urlsafeDecode (text : List UInt8) : Option (List UInt8) := decodeSkipping 0 0 0 text

/-! ## Characters -/

theorem valueOf_charOf {value : ℕ} (small : value < 64) : valueOf (charOf value) = some value := by
  have all : ∀ value < 64, valueOf (charOf value) = some value := by decide
  exact all value small

theorem charOf_ne_padding {value : ℕ} (small : value < 64) : charOf value ≠ padding := by
  have all : ∀ value < 64, charOf value ≠ padding := by decide
  exact all value small

section Steps

variable {value left : ℕ} (small : value < 64) (chars : List UInt8)

include small

theorem decodeFrom_first :
    decodeFrom {} (charOf value :: chars) = decodeFrom { place := 1, left := value } chars := by
  rw [decodeFrom, if_neg (charOf_ne_padding small), valueOf_charOf small]
  rfl

theorem decodeFrom_second : decodeFrom { place := 1, left } (charOf value :: chars) =
      (decodeFrom { place := 2, left := value % 16 } chars).map
        (UInt8.ofNat (left * 4 + value / 16) :: ·) := by
  rw [decodeFrom, if_neg (charOf_ne_padding small), valueOf_charOf small]
  rfl

theorem decodeFrom_third : decodeFrom { place := 2, left } (charOf value :: chars) =
      (decodeFrom { place := 3, left := value % 4 } chars).map
        (UInt8.ofNat (left * 16 + value / 4) :: ·) := by
  rw [decodeFrom, if_neg (charOf_ne_padding small), valueOf_charOf small]
  rfl

theorem decodeFrom_fourth : decodeFrom { place := 3, left } (charOf value :: chars) =
      (decodeFrom {} chars).map (UInt8.ofNat (left * 64 + value) :: ·) := by
  rw [decodeFrom, if_neg (charOf_ne_padding small), valueOf_charOf small]
  rfl

end Steps

/-! ## Round trip -/

theorem ofNat_eq {byte : UInt8} {number : ℕ} (same : number = byte.toNat) :
    UInt8.ofNat number = byte := by
  rw [same, UInt8.ofNat_toNat]

theorem decodeFrom_encode (bytes : List UInt8) : decodeFrom {} (encode bytes) = some bytes := by
  fun_induction encode bytes with
  | case1 => rfl
  | case2 first =>
    have bound := first.toNat_lt
    rw [decodeFrom_first (by omega), decodeFrom_second (by omega)]
    have same : first.toNat / 4 * 4 + first.toNat % 4 * 16 / 16 = first.toNat := by omega
    rw [ofNat_eq same]
    rfl
  | case3 first second =>
    have firstBound := first.toNat_lt
    have secondBound := second.toNat_lt
    rw [decodeFrom_first (by omega), decodeFrom_second (by omega), decodeFrom_third (by omega)]
    have isFirst : first.toNat / 4 * 4 + (first.toNat % 4 * 16 + second.toNat / 16) / 16 =
        first.toNat := by
      omega
    have isSecond : (first.toNat % 4 * 16 + second.toNat / 16) % 16 * 16 +
        second.toNat % 16 * 4 / 4 = second.toNat := by
      omega
    rw [ofNat_eq isFirst, ofNat_eq isSecond]
    rfl
  | case4 first second third rest ih =>
    have firstBound := first.toNat_lt
    have secondBound := second.toNat_lt
    have thirdBound := third.toNat_lt
    rw [decodeFrom_first (by omega), decodeFrom_second (by omega), decodeFrom_third (by omega),
      decodeFrom_fourth (by omega), ih]
    have isFirst : first.toNat / 4 * 4 + (first.toNat % 4 * 16 + second.toNat / 16) / 16 =
        first.toNat := by
      omega
    have isSecond : (first.toNat % 4 * 16 + second.toNat / 16) % 16 * 16 +
        (second.toNat % 16 * 4 + third.toNat / 64) / 4 = second.toNat := by
      omega
    have isThird : (second.toNat % 16 * 4 + third.toNat / 64) % 4 * 64 + third.toNat % 64 =
        third.toNat := by
      omega
    rw [ofNat_eq isFirst, ofNat_eq isSecond, ofNat_eq isThird]
    rfl

/-- What is encoded is decoded again. -/
theorem decode_encode (bytes : List UInt8) : decode (encode bytes) = some bytes := by
  have starts : (encode bytes).head? ≠ some padding := by
    have other : ∀ byte : UInt8, charOf (byte.toNat / 4) ≠ padding := by
      intro byte
      have bound := byte.toNat_lt
      exact charOf_ne_padding (by omega)
    fun_cases encode bytes with
    | case1 => nofun
    | case2 first => exact fun same => other first (Option.some.inj same)
    | case3 first second => exact fun same => other first (Option.some.inj same)
    | case4 first second third rest => exact fun same => other first (Option.some.inj same)
  rw [decode, if_neg starts, decodeFrom_encode]

/-- What the strict decoding reads is read the same without it. -/
theorem decodeSkipping_of_decodeFrom (progress : Progress) (chars : List UInt8) :
    ∀ bytes, decodeFrom progress chars = some bytes →
      decodeSkipping progress.place progress.left progress.pads chars = some bytes := by
  fun_induction decodeFrom progress chars with
  | case1 progress isStart =>
    intro bytes decoded
    rw [decodeSkipping, if_pos isStart, decoded]
  | case2 => nofun
  | case3 progress chars full isLast =>
    intro bytes decoded
    rw [decodeSkipping, if_pos rfl, if_pos full, decoded]
  | case4 => nofun
  | case5 progress chars notFull ih =>
    intro bytes decoded
    rw [decodeSkipping, if_pos rfl, if_neg notFull]
    exact ih bytes decoded
  | case6 => nofun
  | case7 => nofun
  | case8 progress char chars notPadding value isValue notPadded isPlace ih =>
    intro bytes decoded
    rw [decodeSkipping, if_neg notPadding, isValue, isPlace]
    exact ih bytes decoded
  | case9 progress char chars notPadding value isValue notPadded isPlace ih =>
    intro bytes decoded
    obtain ⟨rest, isRest, rfl⟩ := Option.map_eq_some_iff.mp decoded
    rw [decodeSkipping, if_neg notPadding, isValue, isPlace]
    exact Option.map_eq_some_iff.mpr ⟨rest, ih rest isRest, rfl⟩
  | case10 progress char chars notPadding value isValue notPadded isPlace ih =>
    intro bytes decoded
    obtain ⟨rest, isRest, rfl⟩ := Option.map_eq_some_iff.mp decoded
    rw [decodeSkipping, if_neg notPadding, isValue, isPlace]
    exact Option.map_eq_some_iff.mpr ⟨rest, ih rest isRest, rfl⟩
  | case11 progress char chars notPadding value isValue notPadded notFirst notSecond notThird ih =>
    intro bytes decoded
    obtain ⟨rest, isRest, rfl⟩ := Option.map_eq_some_iff.mp decoded
    rw [decodeSkipping, if_neg notPadding, isValue]
    dsimp only
    split
    · exact absurd ‹_› notFirst
    · exact absurd ‹_› notSecond
    · exact absurd ‹_› notThird
    · exact Option.map_eq_some_iff.mpr ⟨rest, ih rest isRest, rfl⟩

theorem urlsafeDecode_encode (bytes : List UInt8) : urlsafeDecode (encode bytes) = some bytes :=
  decodeSkipping_of_decodeFrom {} _ bytes (decodeFrom_encode bytes)

/-- The padding makes the length a multiple of four. -/
theorem length_encode (bytes : List UInt8) :
    (encode bytes).length = (bytes.length + 2) / 3 * 4 := by
  fun_induction encode bytes with
  | case1 => rfl
  | case2 first => simp
  | case3 first second => simp
  | case4 first second third rest ih =>
    rw [List.length_cons, List.length_cons, List.length_cons, List.length_cons, ih,
      List.length_cons, List.length_cons, List.length_cons]
    omega

theorem charOf_ascii (value : ℕ) : (charOf value).toNat < 128 := by
  unfold charOf
  split
  · rw [UInt8.toNat_ofNat']
    omega
  split
  · rw [UInt8.toNat_ofNat']
    omega
  split
  · rw [UInt8.toNat_ofNat']
    omega
  split
  · decide
  · decide

/-- The text is ASCII. -/
theorem ascii_encode (bytes : List UInt8) : ∀ char ∈ encode bytes, char.toNat < 128 := by
  fun_induction encode bytes with
  | case1 => nofun
  | case2 first =>
    simp only [List.forall_mem_cons, charOf_ascii, true_and]
    exact ⟨by decide, by decide, nofun⟩
  | case3 first second =>
    simp only [List.forall_mem_cons, charOf_ascii, true_and]
    exact ⟨by decide, nofun⟩
  | case4 first second third rest ih =>
    simp only [List.forall_mem_cons, charOf_ascii, true_and]
    exact ih

example : (["AAAA====", "AAA=", "AB==", "A===", "=AAA", "AA==AA==", "A=A="].map fun text =>
    decode (text.toList.map fun char => UInt8.ofNat char.toNat)) =
      [some [0, 0, 0], some [0, 0], some [0], none, none, none, none] := by
  decide

end Reperio.Encoding.Base64
