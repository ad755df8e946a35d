import Reperio.Scanner.Fat12

/-!
# Packed allocation tables

How the entries of a FAT12 table are packed, two of them in three bytes, and that
`_decode_fat` reads from such bytes what was packed: every entry of which both bytes are
there, whatever is behind them and wherever they are cut.
-/

namespace Reperio.Fat12

/-! ## Packing -/

/-- Three bytes for two entries: the middle byte holds the high bits of the first and the low bits
of the second. -/
def packPair (low high : ℕ) : List UInt8 :=
  [UInt8.ofNat (low % 256), UInt8.ofNat (low / 256 % 16 + high % 16 * 16), UInt8.ofNat (high / 16)]

/-- `encode_fat` of `tests/test_fat12_recovery.py`: behind an odd number of entries stands a zero.
-/
def encodeFat : List ℕ → List UInt8
  | [] => []
  | [last] => packPair last 0
  | low :: high :: values => packPair low high ++ encodeFat values

/-- Where the two bytes of an entry begin. -/
def entryOffset (index : ℕ) : ℕ := index + index / 2

theorem entryOffset_add_two (index : ℕ) : entryOffset (index + 2) = entryOffset index + 3 := by
  unfold entryOffset
  omega

/-- What is read at an entry whose two bytes are there. -/
def entryAt (raw : List UInt8) (index : ℕ) : ℕ :=
  if index % 2 = 1 then wordAt raw (entryOffset index) / 16 % 4096
  else wordAt raw (entryOffset index) % 4096

theorem length_decodeFat (raw : List UInt8) (count : ℕ) : (decodeFat raw count).length = count := by
  rw [decodeFat, List.length_map, List.length_range]

theorem getElem?_decodeFat {raw : List UInt8} {count index : ℕ} (inside : index < count) :
    (decodeFat raw count)[index]? =
      some (if entryOffset index + 1 < raw.length then entryAt raw index else 0) := by
  rw [decodeFat, List.getElem?_map, List.getElem?_range inside, Option.map_some]
  congr 1
  unfold entryAt entryOffset
  by_cases complete : index + index / 2 + 1 < raw.length
  · rw [if_pos complete, if_neg (by omega)]
  · rw [if_neg complete, if_pos (by omega)]

/-! ## Reading what was packed -/

section Pair

variable {low high : ℕ} (rest : List UInt8)

theorem wordAt_packPair_first (lowSmall : low < 4096) :
    wordAt (packPair low high ++ rest) 0 = low + high % 16 * 4096 := by
  unfold wordAt byteAt packPair
  simp only [List.cons_append, List.nil_append, List.getD_cons_zero, List.getD_cons_succ,
    UInt8.toNat_ofNat']
  omega

theorem wordAt_packPair_second (highSmall : high < 4096) :
    wordAt (packPair low high ++ rest) 1 = low / 256 % 16 + high * 16 := by
  unfold wordAt byteAt packPair
  simp only [List.cons_append, List.nil_append, List.getD_cons_zero, List.getD_cons_succ,
    UInt8.toNat_ofNat']
  omega

theorem entryAt_packPair_zero (lowSmall : low < 4096) :
    entryAt (packPair low high ++ rest) 0 = low := by
  have word : wordAt (packPair low high ++ rest) 0 = low + high % 16 * 4096 :=
    wordAt_packPair_first rest lowSmall
  unfold entryAt entryOffset
  rw [if_neg (by decide), word]
  omega

theorem entryAt_packPair_one (highSmall : high < 4096) :
    entryAt (packPair low high ++ rest) 1 = high := by
  have word : wordAt (packPair low high ++ rest) 1 = low / 256 % 16 + high * 16 :=
    wordAt_packPair_second rest highSmall
  unfold entryAt entryOffset
  rw [if_pos rfl, word]
  omega

theorem entryAt_packPair_add_two (index : ℕ) :
    entryAt (packPair low high ++ rest) (index + 2) = entryAt rest index := by
  unfold entryAt
  rw [entryOffset_add_two, Nat.add_mod_right]
  rfl

end Pair

/-- The entries of a packed table stand where they are looked for, with anything behind them. -/
theorem entryAt_encodeFat {values : List ℕ} (twelveBit : ∀ value ∈ values, value < 4096)
    (rest : List UInt8) {index : ℕ} (inTable : index < values.length) :
    entryAt (encodeFat values ++ rest) index = values[index] := by
  fun_induction encodeFat values generalizing index with
  | case1 => cases inTable
  | case2 last =>
    obtain rfl : index = 0 := Nat.lt_one_iff.mp inTable
    exact entryAt_packPair_zero rest (twelveBit last List.mem_cons_self)
  | case3 low high values ih =>
    rw [List.append_assoc]
    rw [List.forall_mem_cons, List.forall_mem_cons] at twelveBit
    match index, inTable with
    | 0, _ => exact entryAt_packPair_zero _ twelveBit.1
    | 1, _ => exact entryAt_packPair_one _ twelveBit.2.1
    | index + 2, inTable =>
      rw [entryAt_packPair_add_two]
      exact ih twelveBit.2.2 (by simpa using inTable)

/-- An entry whose bytes are left when a table is cut is read as if it were not cut. -/
theorem entryAt_take {raw : List UInt8} {length index : ℕ}
    (complete : entryOffset index + 1 < length) :
    entryAt (raw.take length) index = entryAt raw index := by
  have same (offset : ℕ) (before : offset < length) : byteAt (raw.take length) offset =
    byteAt raw offset := by
    unfold byteAt
    rw [List.getD_eq_getElem?_getD, List.getD_eq_getElem?_getD, List.getElem?_take_of_lt before]
  unfold entryAt wordAt
  rw [same _ (by omega), same _ complete]

theorem length_encodeFat (values : List ℕ) :
    (encodeFat values).length = (values.length + 1) / 2 * 3 := by
  fun_induction encodeFat values with
  | case1 => rfl
  | case2 last => simp only [packPair, List.length_cons, List.length_nil]
  | case3 low high values ih =>
    rw [List.length_append, ih, List.length_cons, List.length_cons]
    simp only [packPair, List.length_cons, List.length_nil]
    omega

/-- A packed table is long enough for all its entries, also for the last of an odd number. -/
theorem entryOffset_lt_length {values : List ℕ} {index : ℕ} (inTable : index < values.length) :
    entryOffset index + 1 < (encodeFat values).length := by
  rw [length_encodeFat]
  unfold entryOffset
  omega

/-- What `_decode_fat` makes of a packed table, cut anywhere or followed by anything: the entries of
which both bytes are there, and a zero for each of the others. -/
theorem decodeFat_inverts_encodeFat {values : List ℕ} (twelveBit : ∀ value ∈ values, value < 4096)
    (rest : List UInt8) :
    (∀ count, count ≤ values.length →
      decodeFat (encodeFat values ++ rest) count = values.take count) ∧
    ∀ length count index, (inTable : index < values.length) → index < count →
      (decodeFat ((encodeFat values ++ rest).take length) count)[index]? =
        some (if entryOffset index + 1 < length then values[index] else 0) := by
  have entries (length count index : ℕ) (inTable : index < values.length) (inside : index < count) :
      (decodeFat ((encodeFat values ++ rest).take length) count)[index]? =
        some (if entryOffset index + 1 < length then values[index] else 0) := by
    have packed := entryOffset_lt_length inTable
    rw [getElem?_decodeFat inside, List.length_take, List.length_append]
    congr 1
    by_cases complete : entryOffset index + 1 < length
    · rw [if_pos complete, if_pos (by omega), entryAt_take complete,
        entryAt_encodeFat twelveBit rest inTable]
    · rw [if_neg complete, if_neg (by omega)]
  refine ⟨fun count bounded => ?_, entries⟩
  refine List.ext_getElem? fun index => ?_
  by_cases inside : index < count
  · have inTable : index < values.length := by omega
    have whole := entries (encodeFat values ++ rest).length count index inTable inside
    have packed := entryOffset_lt_length inTable
    rw [List.take_length, List.length_append, if_pos (by omega)] at whole
    rw [whole, List.getElem?_take_of_lt inside, List.getElem?_eq_getElem inTable]
  · rw [List.getElem?_eq_none (by rw [length_decodeFat]; omega),
      List.getElem?_eq_none (by rw [List.length_take]; omega)]

/-- An odd number of entries, with the high bits of neighbours in one byte. -/
theorem decodeFat_inverts_encodeFat_three :
    decodeFat (encodeFat [0xFF0, 0xFFF, 0xABC]) 3 = [0xFF0, 0xFFF, 0xABC] := by
  have small : ∀ value ∈ [0xFF0, 0xFFF, 0xABC], value < 4096 := by decide
  have packed := (decodeFat_inverts_encodeFat small []).1 3 (by decide)
  rwa [List.append_nil] at packed

end Reperio.Fat12
