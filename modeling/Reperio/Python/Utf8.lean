import Mathlib.Data.List.Basic

/-!
# UTF-8

Texts as bytes. Only the scalar values of Unicode are encoded and decoded, each
in its shortest form. A prefix of the bytes of a text can be decoded exactly when it
ends between two characters: no character's bytes begin another's.
-/

namespace Reperio

/-- `text.encode("utf-8")`. -/
def utf8 (text : String) : List UInt8 := text.toList.flatMap String.utf8EncodeChar

/-- `data.decode("utf-8")`, if it does not raise. -/
def utf8Decode (bytes : List UInt8) : Option String :=
  bytes.toByteArray.utf8Decode?.map fun chars => String.ofList chars.toList

theorem utf8Decode_utf8 (text : String) : utf8Decode (utf8 text) = some text := by
  have decoded := @List.utf8Decode?_utf8Encode text.toList
  unfold utf8Decode utf8
  unfold List.utf8Encode at decoded
  rw [decoded, Option.map_some, String.ofList_toList]

theorem utf8_append (first second : String) :
    utf8 (first ++ second) = utf8 first ++ utf8 second := by
  rw [utf8, String.toList_append, List.flatMap_append]
  rfl

/-- A character of ASCII is one byte. -/
theorem utf8EncodeChar_of_ascii {char : Char} (ascii : char.toNat < 128) :
    String.utf8EncodeChar char = [UInt8.ofNat char.toNat] := by
  unfold String.utf8EncodeChar
  exact if_pos (Nat.le_of_lt_succ ascii)

theorem notMem_utf8_of_ascii {text : String} {byte : ℕ} (small : byte < 128)
    (others : ∀ char ∈ text.toList, char.toNat < 128 ∧ char.toNat ≠ byte) :
    UInt8.ofNat byte ∉ utf8 text := by
  intro member
  rcases List.mem_flatMap.mp member with ⟨char, isChar, isByte⟩
  rcases others char isChar with ⟨ascii, different⟩
  rw [utf8EncodeChar_of_ascii ascii, List.mem_singleton] at isByte
  have same := congrArg UInt8.toNat isByte
  rw [UInt8.toNat_ofNat', UInt8.toNat_ofNat'] at same
  omega

/-! ## Where encoded text can be cut -/

theorem utf8Decode_eq_some_iff {bytes : List UInt8} {text : String} :
    utf8Decode bytes = some text ↔ bytes = utf8 text := by
  constructor
  · intro decoded
    rcases Option.map_eq_some_iff.mp decoded with ⟨chars, isChars, rfl⟩
    have isSome : bytes.toByteArray.utf8Decode?.isSome := by
      rw [isChars]
      rfl
    have encoded := ByteArray.utf8Encode_get_utf8Decode? (h := isSome)
    have found : bytes.toByteArray.utf8Decode?.get isSome = chars :=
        Option.get_of_eq_some isSome isChars
    rw [found] at encoded
    have same := congrArg (fun array : ByteArray => array.data.toList) encoded
    simpa [utf8, List.utf8Encode] using same.symm
  · rintro rfl
    exact utf8Decode_utf8 text

/-- The bytes of two texts begin with the same character, if one is a prefix of the other. -/
theorem char_eq_of_utf8EncodeChar_append {first second : Char} {firstRest secondRest : List UInt8}
    (same : String.utf8EncodeChar first ++ firstRest = String.utf8EncodeChar second ++ secondRest) :
    first = second := by
  have decoded : ∀ (char : Char) (rest : List UInt8),
      (String.utf8EncodeChar char ++ rest).toByteArray.utf8DecodeChar? 0 = some char := by
    intro char rest
    rw [List.toByteArray_append]
    exact ByteArray.utf8DecodeChar?_utf8EncodeChar_append
  have firstDecoded := decoded first firstRest
  rw [same, decoded] at firstDecoded
  exact (Option.some.inj firstDecoded).symm

/-- A text whose bytes begin another's is where that one begins. -/
theorem exists_append_of_utf8_prefix {before text : String} (isPrefix : utf8 before <+: utf8 text) :
    ∃ after, text = before ++ after := by
  have chars : ∀ first second : List Char,
      first.flatMap String.utf8EncodeChar <+: second.flatMap String.utf8EncodeChar →
      first <+: second := by
    intro first
    induction first with
    | nil => exact fun second _ => List.nil_prefix
    | cons char first ih =>
      intro second isPrefix
      rcases isPrefix with ⟨rest, isRest⟩
      rw [List.flatMap_cons, List.append_assoc] at isRest
      cases second with
      | nil => exact absurd (List.append_eq_nil_iff.mp isRest).1 String.utf8EncodeChar_ne_nil
      | cons other second =>
        rw [List.flatMap_cons] at isRest
        obtain rfl := char_eq_of_utf8EncodeChar_append isRest
        exact List.cons_prefix_cons.mpr ⟨rfl, ih second ⟨rest, List.append_cancel_left isRest⟩⟩
  rcases chars _ _ isPrefix with ⟨after, isAfter⟩
  refine ⟨.ofList after, ?_⟩
  rw [← String.toList_inj, String.toList_append, String.toList_ofList, isAfter]

/-- The text ends at the position, or a character of it begins there. -/
def CutsAt (text : String) (position : ℕ) : Prop :=
  (utf8 text).length ≤ position ∨ ∃ before after, text = before ++ after ∧
  (utf8 before).length = position

theorem isSome_utf8Decode_take_iff (text : String) (position : ℕ) :
    (utf8Decode ((utf8 text).take position)).isSome = true ↔ CutsAt text position := by
  constructor
  · intro isSome
    rcases Option.isSome_iff_exists.mp isSome with ⟨before, decoded⟩
    have isBefore := utf8Decode_eq_some_iff.mp decoded
    rcases exists_append_of_utf8_prefix (isBefore ▸ List.take_prefix position (utf8 text))
      with ⟨after, rfl⟩
    by_cases long : position ≤ (utf8 (before ++ after)).length
    · refine .inr ⟨before, after, rfl, ?_⟩
      rw [← isBefore, List.length_take, Nat.min_eq_left long]
    · exact .inl (Nat.le_of_not_le long)
  · rintro (short | ⟨before, after, rfl, rfl⟩)
    · rw [List.take_of_length_le short, utf8Decode_utf8]
      rfl
    · rw [utf8_append, List.take_left, utf8Decode_utf8]
      rfl

end Reperio
