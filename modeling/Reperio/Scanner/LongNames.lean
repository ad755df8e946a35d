import Mathlib.Data.List.DropRight
import Reperio.Encoding.Chunks
import Reperio.Scanner.Fat12Scan

/-!
# Long names

The long name of a FAT12 entry is stored in slots before it, thirteen UTF-16
units in each. A slot carries its number, a mark on the last one and a checksum
of the short name it belongs to. The parser takes all slots that stand directly
before an entry for one name, in any order.
-/

namespace Reperio.Fat12

open Encoding

/-! ## UTF-16 -/

/-- The units of a character. -/
def charUnits (char : Char) : List ℕ := if char.toNat < 0x10000 then [char.toNat]
  else [0xD800 + (char.toNat - 0x10000) / 1024, 0xDC00 + (char.toNat - 0x10000) % 1024]

def encodeUtf16 (text : List Char) : List ℕ := text.flatMap charUnits

variable {unit : ℕ}

theorem charUnits_lt {char : Char} (member : unit ∈ charUnits char) : unit < 0x10000 := by
  have bounded : char.toNat < 0x110000 := by
    rcases char.valid with low | ⟨_, high⟩
    · exact lt_trans low (by omega)
    · exact high
  rw [charUnits] at member
  split at member
  · rw [List.mem_singleton] at member
    omega
  · simp only [List.mem_cons, List.not_mem_nil, or_false] at member
    omega

theorem encodeUtf16_lt {text : List Char} (member : unit ∈ encodeUtf16 text) : unit < 0x10000 := by
  rcases List.mem_flatMap.mp member with ⟨char, _, isUnit⟩
  exact charUnits_lt isUnit

theorem decodeUtf16_basic (basic : unit < 0xD800 ∨ 0xDFFF < unit) (units : List ℕ) :
    decodeUtf16 (unit :: units) = (decodeUtf16 units).map fun chars => Char.ofNat unit ::
      chars := by
  rw [decodeUtf16.eq_def]
  dsimp only
  rw [if_neg (by omega), if_neg (by omega)]

theorem decodeUtf16_pair {high low : ℕ} (isHigh : 0xD800 ≤ high ∧ high < 0xDC00)
    (isLow : 0xDC00 ≤ low ∧ low < 0xE000) (units : List ℕ) :
    decodeUtf16 (high :: low :: units) = (decodeUtf16 units).map fun chars =>
      Char.ofNat (0x10000 + (high - 0xD800) * 1024 + (low - 0xDC00)) :: chars := by
  rw [decodeUtf16.eq_def]
  dsimp only
  rw [if_pos isHigh, if_pos isLow]

theorem decodeUtf16_charUnits (char : Char) (units : List ℕ) :
    decodeUtf16 (charUnits char ++ units) = (decodeUtf16 units).map fun chars => char :: chars := by
  have isChar : Char.ofNat char.toNat = char := Char.ofNat_toNat char
  have valid : char.toNat < 0xD800 ∨ 0xDFFF < char.toNat ∧ char.toNat < 0x110000 := char.valid
  rw [charUnits]
  split
  · rename_i basic
    have isUnit : char.toNat < 0xD800 ∨ 0xDFFF < char.toNat := by omega
    have isBasic := decodeUtf16_basic isUnit units
    rwa [isChar] at isBasic
  · rename_i supplementary
    have isNumber : 0x10000 + (0xD800 + (char.toNat - 0x10000) / 1024 - 0xD800) * 1024 +
        (0xDC00 + (char.toNat - 0x10000) % 1024 - 0xDC00) = char.toNat := by omega
    have isHigh : 0xD800 ≤ 0xD800 + (char.toNat - 0x10000) / 1024 ∧
        0xD800 + (char.toNat - 0x10000) / 1024 < 0xDC00 := by omega
    have isLow : 0xDC00 ≤ 0xDC00 + (char.toNat - 0x10000) % 1024 ∧
        0xDC00 + (char.toNat - 0x10000) % 1024 < 0xE000 := by omega
    have isPair := decodeUtf16_pair isHigh isLow units
    rwa [isNumber, isChar] at isPair

/-- What is stored for a text is read back as that text. -/
theorem decodeUtf16_encodeUtf16 (text : List Char) :
    decodeUtf16 (encodeUtf16 text) = some text := by
  induction text with
  | nil => rfl
  | cons char text ih =>
    rw [encodeUtf16, List.flatMap_cons, decodeUtf16_charUnits]
    rw [encodeUtf16] at ih
    rw [ih]
    rfl

/-! ## Words -/

/-- `struct.pack("<H", unit)`. -/
def unitBytes (unit : ℕ) : List UInt8 := [UInt8.ofNat unit, UInt8.ofNat (unit / 256)]

/-- `struct.unpack_from("<H", data, offset)` for the even offsets of the data. -/
def wordsOf (data : List UInt8) : List ℕ :=
  (List.range (data.length / 2)).map fun index => wordAt data (2 * index)

theorem length_flatMap_unitBytes (units : List ℕ) :
    (units.flatMap unitBytes).length = 2 * units.length := by
  induction units with
  | nil => rfl
  | cons unit units ih =>
    rw [List.flatMap_cons, List.length_append, ih, List.length_cons, unitBytes]
    simp only [List.length_cons, List.length_nil]
    omega

theorem wordAt_unitBytes (bounded : unit < 0x10000) (data : List UInt8) :
    wordAt (unitBytes unit ++ data) 0 = unit := by
  simp only [wordAt, byteAt, unitBytes, List.cons_append, List.nil_append, List.getD_cons_zero,
    List.getD_cons_succ, UInt8.toNat_ofNat']
  omega

theorem wordsOf_flatMap_unitBytes {units : List ℕ} (bounded : ∀ unit ∈ units, unit < 0x10000) :
    wordsOf (units.flatMap unitBytes) = units := by
  rw [wordsOf, length_flatMap_unitBytes, Nat.mul_div_cancel_left _ (by omega)]
  induction units with
  | nil => rfl
  | cons unit units ih =>
    rcases List.forall_mem_cons.mp bounded with ⟨isWord, areWords⟩
    rw [List.flatMap_cons, List.length_cons, List.range_succ_eq_map, List.map_cons,
      wordAt_unitBytes isWord, List.map_map]
    congr 1
    exact ih areWords

/-! ## The fields of a slot -/

def sequenceOf (raw : List UInt8) : ℕ := byteAt raw 0 % 32

def isLastSlot (raw : List UInt8) : Bool := decide (byteAt raw 0 / 64 % 2 = 1)

def unitsOf (raw : List UInt8) : List ℕ :=
  wordsOf (slice raw 1 10 ++ slice raw 14 12 ++ slice raw 28 4)

/-- The slot has a number, and the checksum of the short name. -/
def Fits (checksum : UInt8) (raw : List UInt8) : Prop :=
  sequenceOf raw ≠ 0 ∧ raw.getD 13 0 = checksum

instance (checksum : UInt8) (raw : List UInt8) : Decidable (Fits checksum raw) :=
  inferInstanceAs (Decidable (_ ∧ _))

/-- The parts with those of one more slot, which replaces one of the same number. -/
def LongName.insert (parts : LongName) (raw : List UInt8) : LongName where
  expectedCount := if isLastSlot raw then some (sequenceOf raw) else parts.expectedCount
  ordered := (sequenceOf raw, unitsOf raw) :: parts.ordered.filter fun part =>
    part.1 ≠ sequenceOf raw

theorem LongName.add_eq (checksum : UInt8) (parts : LongName) (raw : List UInt8) :
    parts.add checksum raw = if Fits checksum raw then some (parts.insert raw) else none := by
  by_cases fits : Fits checksum raw
  · have accepted : ¬(byteAt raw 0 % 32 = 0 ∨ raw.getD 13 0 ≠ checksum) := by
      rintro (unnumbered | differs)
      · exact fits.1 unnumbered
      · exact differs fits.2
    rw [if_pos fits, LongName.add]
    simp only [if_neg accepted, LongName.insert, isLastSlot, sequenceOf, decide_eq_true_eq]
    rfl
  · have refused : byteAt raw 0 % 32 = 0 ∨ raw.getD 13 0 ≠ checksum := by
      by_contra accepted
      rw [not_or, not_not] at accepted
      exact fits accepted
    rw [if_neg fits, LongName.add]
    simp only [if_pos refused]

/-- One slot that does not fit spoils the name. -/
theorem foldlM_add (checksum : UInt8) (entries : List (List UInt8)) (parts : LongName) :
    entries.foldlM (LongName.add checksum) parts =
      if ∀ raw ∈ entries, Fits checksum raw then some (entries.foldl LongName.insert parts)
      else none := by
  induction entries generalizing parts with
  | nil => simp
  | cons raw entries ih =>
    rw [List.foldlM_cons, LongName.add_eq]
    by_cases fits : Fits checksum raw
    · rw [if_pos fits]
      simp only [List.forall_mem_cons, fits, true_and, List.foldl_cons]
      exact ih (parts.insert raw)
    · rw [if_neg fits, if_neg fun all => fits (all raw List.mem_cons_self)]
      rfl

/-! ## What the slots make up -/

theorem lookup_filter_of_ne {ordered : List (ℕ × List ℕ)} {number other : ℕ}
    (differ : number ≠ other) :
    (ordered.filter fun part => part.1 ≠ other).lookup number = ordered.lookup number := by
  induction ordered with
  | nil => rfl
  | cons part ordered ih =>
    rcases part with ⟨key, units⟩
    by_cases isOther : key = other
    · rw [List.filter_cons_of_neg (by simpa using isOther), ih, List.lookup_cons]
      have notNumber : (number == key) = false := by
        rw [beq_eq_false_iff_ne, isOther]
        exact differ
      rw [notNumber]
    · rw [List.filter_cons_of_pos (by simpa using isOther), List.lookup_cons, List.lookup_cons, ih]

theorem LongName.lookup_insert_self (parts : LongName) (raw : List UInt8) :
    (parts.insert raw).ordered.lookup (sequenceOf raw) = some (unitsOf raw) := by
  rw [LongName.insert, List.lookup_cons, beq_self_eq_true]

variable {raw : List UInt8}

theorem LongName.lookup_insert_of_ne (parts : LongName) {number : ℕ}
    (differ : number ≠ sequenceOf raw) :
    (parts.insert raw).ordered.lookup number = parts.ordered.lookup number := by
  rw [LongName.insert, List.lookup_cons, beq_false_of_ne differ]
  exact lookup_filter_of_ne differ

theorem LongName.mem_insert (parts : LongName) (raw : List UInt8) (number : ℕ) :
    number ∈ (parts.insert raw).ordered.map Prod.fst ↔
      number ∈ parts.ordered.map Prod.fst ∨ sequenceOf raw = number := by
  rw [LongName.insert, List.map_cons, List.mem_cons]
  by_cases isNumber : number = sequenceOf raw
  · simp [isNumber]
  · simp only [isNumber, Ne.symm isNumber, false_or, or_false, List.mem_map, List.mem_filter]
    constructor
    · rintro ⟨part, ⟨member, _⟩, isPart⟩
      exact ⟨part, member, isPart⟩
    · rintro ⟨part, member, isPart⟩
      refine ⟨part, ⟨member, ?_⟩, isPart⟩
      rw [isPart]
      simpa using isNumber

variable {entries : List (List UInt8)}

theorem mem_foldl_insert (parts : LongName) (number : ℕ) :
    number ∈ (entries.foldl LongName.insert parts).ordered.map Prod.fst ↔
      number ∈ parts.ordered.map Prod.fst ∨ ∃ raw ∈ entries, sequenceOf raw = number := by
  induction entries generalizing parts with
  | nil => simp
  | cons raw entries ih =>
    rw [List.foldl_cons, ih, LongName.mem_insert, List.exists_mem_cons_iff, or_assoc]

theorem lookup_foldl_insert_of_ne {number : ℕ}
    (differ : ∀ raw ∈ entries, number ≠ sequenceOf raw) (parts : LongName) :
    (entries.foldl LongName.insert parts).ordered.lookup number = parts.ordered.lookup number := by
  induction entries generalizing parts with
  | nil => rfl
  | cons raw entries ih =>
    rcases List.forall_mem_cons.mp differ with ⟨differs, others⟩
    rw [List.foldl_cons, ih others, LongName.lookup_insert_of_ne parts differs]

/-- Of slots with different numbers each is found under its own. -/
theorem lookup_foldl_insert (distinct : (entries.map sequenceOf).Nodup) (member : raw ∈ entries)
    (parts : LongName) :
    (entries.foldl LongName.insert parts).ordered.lookup (sequenceOf raw) = some (unitsOf raw) := by
  induction entries generalizing parts with
  | nil => cases member
  | cons first entries ih =>
    rw [List.map_cons, List.nodup_cons] at distinct
    rcases distinct with ⟨isNew, distinct⟩
    rcases List.mem_cons.mp member with isFirst | later
    · subst isFirst
      rw [List.foldl_cons, lookup_foldl_insert_of_ne, LongName.lookup_insert_self]
      intro other isOther same
      exact isNew (List.mem_map.mpr ⟨other, isOther, same.symm⟩)
    · exact ih distinct later (parts.insert first)

/-- The number of parts is that of the marked slot, when no other number is marked. -/
theorem expectedCount_foldl_insert {count : ℕ} (parts : LongName)
    (counted : parts.expectedCount = some count ∨ ∃ raw ∈ entries, isLastSlot raw = true)
    (marked : ∀ raw ∈ entries, isLastSlot raw = true → sequenceOf raw = count) :
    (entries.foldl LongName.insert parts).expectedCount = some count := by
  induction entries generalizing parts with
  | nil =>
    rcases counted with isCount | ⟨raw, member, _⟩
    · exact isCount
    · cases member
  | cons raw entries ih =>
    rcases List.forall_mem_cons.mp marked with ⟨isMarked, others⟩
    refine ih (parts.insert raw) ?_ others
    cases isLast : isLastSlot raw with
    | true =>
      left
      simp only [LongName.insert, isLast, if_true, isMarked isLast]
    | false =>
      rcases counted with isCount | ⟨last, member, lastMarked⟩
      · left
        simp only [LongName.insert, isLast, Bool.false_eq_true, if_false, isCount]
      · right
        rcases List.mem_cons.mp member with isRaw | later
        · rw [isRaw, isLast] at lastMarked
          cases lastMarked
        · exact ⟨last, later, lastMarked⟩

/-! ## The slots of a name -/

/-- The units of a slot: what is left is a terminator and padding. -/
def padUnits (units : List ℕ) : List ℕ := (units ++ 0 :: List.replicate 13 0xFFFF).take 13

def slotCount (text : List Char) : ℕ := chunkCount 13 (encodeUtf16 text).length

/-- The bytes of a slot, with its order byte, the checksum and the 26 bytes of its units. -/
def slotBytes (order checksum : UInt8) (stored : List UInt8) : List UInt8 :=
  order :: (stored.take 10 ++ 0x0F :: 0 :: checksum ::
    ((stored.drop 10).take 12 ++ 0 :: 0 :: stored.drop 22))

def longNameSlot (checksum : UInt8) (text : List Char) (sequence : ℕ) : List UInt8 :=
  slotBytes (.ofNat (if sequence = slotCount text then sequence + 0x40 else sequence)) checksum
    ((padUnits (chunk 13 (encodeUtf16 text) (sequence - 1))).flatMap unitBytes)

/-- The slots of a name by their numbers. -/
def nameSlots (checksum : UInt8) (text : List Char) : List (List UInt8) :=
  (List.range' 1 (slotCount text)).map (longNameSlot checksum text)

/-- The name can be stored: at least one unit, at most 255, and none that ends or pads a name. -/
structure Storable (text : List Char) : Prop where
  nonempty : text ≠ []
  bounded : (encodeUtf16 text).length ≤ 255
  plain : ∀ unit ∈ encodeUtf16 text, unit ≠ 0 ∧ unit ≠ 0xFFFF

theorem length_padUnits (units : List ℕ) : (padUnits units).length = 13 := by
  simp only [padUnits, List.length_take, List.length_append, List.length_cons,
    List.length_replicate]
  omega

/-- Terminator and padding are removed again. -/
theorem filter_padUnits {units : List ℕ} (short : units.length ≤ 13)
    (plain : ∀ unit ∈ units, unit ≠ 0 ∧ unit ≠ 0xFFFF) :
    ((padUnits units).filter fun unit => unit ≠ 0 ∧ unit ≠ 0xFFFF) = units := by
  have kept : (units.filter fun unit => unit ≠ 0 ∧ unit ≠ 0xFFFF) = units := by
    rw [List.filter_eq_self]
    intro unit member
    exact decide_eq_true (plain unit member)
  have removed : (((0 :: List.replicate 13 0xFFFF).take (13 - units.length)).filter
      fun unit => unit ≠ 0 ∧ unit ≠ 0xFFFF) = [] := by
    rw [List.filter_eq_nil_iff]
    intro unit member
    have isPadding := List.mem_of_mem_take member
    simp only [List.mem_cons, List.mem_replicate] at isPadding
    rcases isPadding with rfl | ⟨_, rfl⟩ <;> simp
  rw [padUnits, List.take_append, List.take_of_length_le short, List.filter_append, kept, removed,
    List.append_nil]

theorem padUnits_lt {units : List ℕ} (bounded : ∀ unit ∈ units, unit < 0x10000) :
    ∀ unit ∈ padUnits units, unit < 0x10000 := by
  intro unit member
  rcases List.mem_append.mp (List.mem_of_mem_take member) with isUnit | isPadding
  · exact bounded unit isUnit
  · simp only [List.mem_cons, List.mem_replicate] at isPadding
    rcases isPadding with rfl | ⟨_, rfl⟩ <;> omega

section Slot

variable {stored : List UInt8} (order checksum : UInt8)

theorem length_slotBytes (isStored : stored.length = 26) :
    (slotBytes order checksum stored).length = directoryEntrySize := by
  simp [slotBytes, isStored, directoryEntrySize]

theorem attributes_slotBytes (isStored : stored.length = 26) :
    (slotBytes order checksum stored).getD 11 0 = 0x0F := by
  simp [slotBytes, List.getD_eq_getElem?_getD, isStored]

theorem checksum_slotBytes (isStored : stored.length = 26) :
    (slotBytes order checksum stored).getD 13 0 = checksum := by
  simp [slotBytes, List.getD_eq_getElem?_getD, isStored]

theorem unitsOf_slotBytes (isStored : stored.length = 26) :
    unitsOf (slotBytes order checksum stored) = wordsOf stored := by
  have first : slice (slotBytes order checksum stored) 1 10 = stored.take 10 := by
    simp [slice, slotBytes, isStored]
  have second : slice (slotBytes order checksum stored) 14 12 = (stored.drop 10).take 12 := by
    simp [slice, slotBytes, List.drop_append, List.take_append, isStored]
  have third : slice (slotBytes order checksum stored) 28 4 = stored.drop 22 := by
    have firstGone : (stored.take 10).drop 27 = [] :=
      List.drop_eq_nil_of_le (by rw [List.length_take]; omega)
    have secondGone : ((stored.drop 10).take 12).drop 14 = [] :=
      List.drop_eq_nil_of_le (by rw [List.length_take]; omega)
    have wholeRest : (stored.drop 22).take 4 = stored.drop 22 :=
      List.take_of_length_le (by rw [List.length_drop]; omega)
    simp [slice, slotBytes, List.drop_append, isStored, firstGone, secondGone, wholeRest]
  have whole : stored.take 10 ++ (stored.drop 10).take 12 ++ stored.drop 22 = stored := by
    rw [← List.take_add, List.take_append_drop]
  rw [unitsOf, first, second, third, whole]

end Slot

section Name

variable {text : List Char} (storable : Storable text) (checksum : UInt8)
include storable

theorem Storable.slotCount_le : slotCount text ≤ 20 := by
  rw [slotCount, chunkCount_le_iff (by omega)]
  have bounded := storable.bounded
  omega

theorem Storable.slotCount_pos : 0 < slotCount text := by
  by_contra none
  have atMost : slotCount text ≤ 0 := by omega
  rw [slotCount, chunkCount_le_iff (by omega)] at atMost
  have isEmpty : encodeUtf16 text = [] := List.length_eq_zero_iff.mp (by omega)
  have decoded := decodeUtf16_encodeUtf16 text
  rw [isEmpty] at decoded
  exact storable.nonempty (Option.some.inj decoded).symm

variable {sequence : ℕ} (isNumber : 1 ≤ sequence ∧ sequence ≤ slotCount text)
include isNumber

theorem Storable.byteAt_longNameSlot : byteAt (longNameSlot checksum text sequence) 0 =
      if sequence = slotCount text then sequence + 0x40 else sequence := by
  have few := storable.slotCount_le
  rw [longNameSlot, slotBytes, byteAt, List.getD_cons_zero, UInt8.toNat_ofNat']
  split <;> omega

theorem Storable.sequenceOf_longNameSlot :
    sequenceOf (longNameSlot checksum text sequence) = sequence := by
  have few := storable.slotCount_le
  rw [sequenceOf, storable.byteAt_longNameSlot checksum isNumber]
  split <;> omega

theorem Storable.isLastSlot_longNameSlot :
    isLastSlot (longNameSlot checksum text sequence) = true ↔ sequence = slotCount text := by
  have few := storable.slotCount_le
  rw [isLastSlot, decide_eq_true_eq, storable.byteAt_longNameSlot checksum isNumber]
  split <;> omega

end Name

theorem length_storedUnits (text : List Char) (sequence : ℕ) :
    ((padUnits (chunk 13 (encodeUtf16 text) (sequence - 1))).flatMap unitBytes).length = 26 := by
  rw [length_flatMap_unitBytes, length_padUnits]

theorem unitsOf_longNameSlot (checksum : UInt8) (text : List Char) (sequence : ℕ) :
    unitsOf (longNameSlot checksum text sequence) =
      padUnits (chunk 13 (encodeUtf16 text) (sequence - 1)) := by
  rw [longNameSlot, unitsOf_slotBytes _ _ (length_storedUnits text sequence)]
  apply wordsOf_flatMap_unitBytes
  apply padUnits_lt
  intro unit member
  exact encodeUtf16_lt (mem_of_mem_chunk member)

/-- The units of the slots, in order and without padding, are those of the name. -/
theorem Storable.filter_units {text : List Char} (storable : Storable text) :
    (((List.range' 1 (slotCount text)).flatMap fun sequence =>
      padUnits (chunk 13 (encodeUtf16 text) (sequence - 1))).filter
        fun unit => unit ≠ 0 ∧ unit ≠ 0xFFFF) = encodeUtf16 text := by
  have unpadded (index : ℕ) :
      ((padUnits (chunk 13 (encodeUtf16 text) index)).filter fun unit => unit ≠ 0 ∧ unit ≠ 0xFFFF) =
        chunk 13 (encodeUtf16 text) index :=
    filter_padUnits (length_chunk_le 13 _ index) fun unit member =>
      storable.plain unit (mem_of_mem_chunk member)
  rw [List.filter_flatMap, List.range'_eq_map_range, List.flatMap_map]
  simp only [Nat.add_sub_cancel_left, unpadded]
  exact flatMap_chunk_chunkCount (by omega) (encodeUtf16 text)

/-! ## Decoding -/

theorem decodeLfn_of_not_fits {entries : List (List UInt8)} {shortName : List UInt8}
    (member : raw ∈ entries) (misfit : ¬Fits (lfnChecksum shortName) raw) :
    decodeLfn entries shortName false = (none, some "fat12_lfn_invalid") := by
  have present : ¬(entries.isEmpty = true ∨ false = true) := by
    simp [List.ne_nil_of_mem member]
  rw [decodeLfn, if_neg present, foldlM_add, if_neg fun all => misfit (all raw member)]

section Decoding

variable {text : List Char} {shortName : List UInt8} {slots : List (List UInt8)}

/-- The slots of a name are the slots of its numbers. -/
theorem mem_slots (arranged : slots.Perm (nameSlots (lfnChecksum shortName) text))
    {raw : List UInt8} :
    raw ∈ slots ↔ ∃ sequence, (1 ≤ sequence ∧ sequence ≤ slotCount text) ∧
      longNameSlot (lfnChecksum shortName) text sequence = raw := by
  rw [arranged.mem_iff, nameSlots, List.mem_map]
  simp only [List.mem_range'_1]
  constructor
  · rintro ⟨sequence, isNumber, isSlot⟩
    exact ⟨sequence, ⟨isNumber.1, by omega⟩, isSlot⟩
  · rintro ⟨sequence, isNumber, isSlot⟩
    exact ⟨sequence, ⟨isNumber.1, by omega⟩, isSlot⟩

variable (storable : Storable text)
  (arranged : slots.Perm (nameSlots (lfnChecksum shortName) text))
include storable arranged

theorem fits_of_mem_slots {raw : List UInt8} (member : raw ∈ slots) :
    Fits (lfnChecksum shortName) raw := by
  rcases (mem_slots arranged).mp member with ⟨sequence, isNumber, rfl⟩
  refine ⟨?_, checksum_slotBytes _ _ (length_storedUnits text sequence)⟩
  rw [storable.sequenceOf_longNameSlot _ isNumber]
  omega

theorem distinct_slots : (slots.map sequenceOf).Nodup := by
  have numbers : (nameSlots (lfnChecksum shortName) text).map sequenceOf =
      List.range' 1 (slotCount text) := by
    rw [nameSlots, List.map_map]
    refine (List.map_congr_left ?_).trans (List.map_id _)
    intro sequence member
    rw [List.mem_range'_1] at member
    exact storable.sequenceOf_longNameSlot _ ⟨member.1, by omega⟩
  rw [(arranged.map sequenceOf).nodup_iff, numbers]
  exact List.nodup_range'

/-- All slots fit: the parts found are those of the name, whatever was found before. -/
theorem lookup_slots (parts : LongName) {sequence : ℕ}
    (isNumber : 1 ≤ sequence ∧ sequence ≤ slotCount text) :
    (slots.foldl LongName.insert parts).ordered.lookup sequence =
      some (padUnits (chunk 13 (encodeUtf16 text) (sequence - 1))) := by
  have member : longNameSlot (lfnChecksum shortName) text sequence ∈ slots :=
    (mem_slots arranged).mpr ⟨sequence, isNumber, rfl⟩
  have found := lookup_foldl_insert (distinct_slots storable arranged) member parts
  rwa [storable.sequenceOf_longNameSlot _ isNumber, unitsOf_longNameSlot] at found

theorem expectedCount_slots (parts : LongName) :
    (slots.foldl LongName.insert parts).expectedCount = some (slotCount text) := by
  apply expectedCount_foldl_insert
  · right
    have isNumber : 1 ≤ slotCount text ∧ slotCount text ≤ slotCount text :=
      ⟨storable.slotCount_pos, le_rfl⟩
    exact ⟨_, (mem_slots arranged).mpr ⟨slotCount text, isNumber, rfl⟩,
      (storable.isLastSlot_longNameSlot _ isNumber).mpr rfl⟩
  · intro raw member isLast
    rcases (mem_slots arranged).mp member with ⟨sequence, isNumber, rfl⟩
    rw [storable.sequenceOf_longNameSlot _ isNumber]
    exact (storable.isLastSlot_longNameSlot _ isNumber).mp isLast

/-- The numbers found are those of the name exactly when no stray slot has a greater one. -/
theorem numbers_iff {strays : List (List UInt8)}
    (fits : ∀ stray ∈ strays, Fits (lfnChecksum shortName) stray) :
    ((slots.foldl LongName.insert (strays.foldl LongName.insert ⟨none, []⟩)).ordered.map
        Prod.fst).toFinset = Finset.Icc 1 (slotCount text) ↔
      ∀ stray ∈ strays, sequenceOf stray ≤ slotCount text := by
  have isNumber (number : ℕ) : number ∈ ((slots.foldl LongName.insert
      (strays.foldl LongName.insert ⟨none, []⟩)).ordered.map Prod.fst).toFinset ↔
        (∃ stray ∈ strays, sequenceOf stray = number) ∨ 1 ≤ number ∧ number ≤ slotCount text := by
    rw [List.mem_toFinset, mem_foldl_insert, mem_foldl_insert]
    simp only [List.map_nil, List.not_mem_nil, false_or]
    apply or_congr_right
    constructor
    · rintro ⟨raw, member, rfl⟩
      rcases (mem_slots arranged).mp member with ⟨sequence, isNumber, rfl⟩
      rwa [storable.sequenceOf_longNameSlot _ isNumber]
    · intro isNumber
      exact ⟨_, (mem_slots arranged).mpr ⟨number, isNumber, rfl⟩,
        storable.sequenceOf_longNameSlot _ isNumber⟩
  constructor
  · intro same stray member
    have isStray := (isNumber (sequenceOf stray)).mpr (Or.inl ⟨stray, member, rfl⟩)
    rw [same, Finset.mem_Icc] at isStray
    exact isStray.2
  · intro bounded
    ext number
    rw [isNumber, Finset.mem_Icc, or_iff_right_iff_imp]
    rintro ⟨stray, member, rfl⟩
    have numbered := (fits stray member).1
    exact ⟨by omega, bounded stray member⟩

/-- The slot is no obstacle to the name of the given short name and number of parts. -/
theorem decodeLfn_slots (strays : List (List UInt8)) : decodeLfn (strays ++ slots) shortName false =
      if ∀ stray ∈ strays, Fits (lfnChecksum shortName) stray ∧ sequenceOf stray ≤ slotCount text
      then (some (String.ofList text), none) else (none, some "fat12_lfn_invalid") := by
  have isSlot := (mem_slots arranged).mpr
    ⟨1, ⟨le_rfl, storable.slotCount_pos⟩, rfl⟩
  by_cases fits : ∀ stray ∈ strays, Fits (lfnChecksum shortName) stray
  · have present : ¬((strays ++ slots).isEmpty = true ∨ false = true) := by
      simp [List.ne_nil_of_mem isSlot]
    have allFit : ∀ raw ∈ strays ++ slots, Fits (lfnChecksum shortName) raw := by
      intro raw member
      rcases List.mem_append.mp member with isStray | isSlot
      · exact fits raw isStray
      · exact fits_of_mem_slots storable arranged isSlot
    have numbers := numbers_iff storable arranged fits
    have counted := expectedCount_slots storable arranged
      (strays.foldl LongName.insert ⟨none, []⟩)
    have found (sequence : ℕ) (isNumber : 1 ≤ sequence ∧ sequence ≤ slotCount text) :=
      lookup_slots storable arranged (strays.foldl LongName.insert ⟨none, []⟩) isNumber
    rw [decodeLfn, if_neg present, foldlM_add, if_pos allFit, List.foldl_append]
    generalize slots.foldl LongName.insert (strays.foldl LongName.insert ⟨none, []⟩) = parts at *
    rcases parts with ⟨expectedCount, ordered⟩
    dsimp only at counted numbers found
    rw [counted]
    by_cases bounded : ∀ stray ∈ strays, sequenceOf stray ≤ slotCount text
    · have harmless : ∀ stray ∈ strays, Fits (lfnChecksum shortName) stray ∧
          sequenceOf stray ≤ slotCount text := fun stray member =>
        ⟨fits stray member, bounded stray member⟩
      have units : ((List.range' 1 (slotCount text)).flatMap fun index =>
          (ordered.lookup index).getD []) = (List.range' 1 (slotCount text)).flatMap fun sequence =>
            padUnits (chunk 13 (encodeUtf16 text) (sequence - 1)) := by
        apply List.flatMap_congr
        intro sequence member
        rw [List.mem_range'_1] at member
        rw [found sequence ⟨member.1, by omega⟩]
        rfl
      dsimp only
      rw [if_neg (not_not_intro (numbers.mpr bounded)), if_pos harmless, units,
        storable.filter_units, decodeUtf16_encodeUtf16]
    · have harmful : ¬∀ stray ∈ strays, Fits (lfnChecksum shortName) stray ∧
          sequenceOf stray ≤ slotCount text := fun harmless =>
        bounded fun stray member => (harmless stray member).2
      dsimp only
      rw [if_pos fun same => bounded (numbers.mp same), if_neg harmful]
  · have harmful : ¬∀ stray ∈ strays, Fits (lfnChecksum shortName) stray ∧
        sequenceOf stray ≤ slotCount text := fun harmless =>
      fits fun stray member => (harmless stray member).1
    rw [if_neg harmful]
    push Not at fits
    rcases fits with ⟨stray, member, misfit⟩
    exact decodeLfn_of_not_fits (List.mem_append_left _ member) misfit

end Decoding

/-! ## Directories -/

def isLfnSlot (raw : List UInt8) : Bool := decide (raw.getD 11 0 = 0x0F)

/-- A whole slot that does not end the directory. -/
structure IsLive (raw : List UInt8) : Prop where
  whole : raw.length = directoryEntrySize
  inUse : byteAt raw 0 ≠ 0

/-- The slots that are still pending after the given ones: those since the last other entry. -/
def pendingAfter (pending slots : List (List UInt8)) : List (List UInt8) :=
  slots.foldl (fun pending raw => if isLfnSlot raw then pending ++ [raw] else []) pending

theorem pendingAfter_eq_rtakeWhile (slots : List (List UInt8)) :
    pendingAfter [] slots = slots.rtakeWhile isLfnSlot := by
  induction slots using List.reverseRecOn with
  | nil => rfl
  | append_singleton slots raw ih =>
    rw [pendingAfter, List.foldl_append, List.foldl_cons, List.foldl_nil]
    rw [pendingAfter] at ih
    cases isLfn : isLfnSlot raw with
    | true => rw [if_pos rfl, ih, List.rtakeWhile_concat_pos _ _ _ isLfn]
    | false => rw [if_neg (by simp), List.rtakeWhile_concat_neg _ _ _ (by simp [isLfn])]

variable {slots : List (List UInt8)}

section Directory

variable (geometry : Fat12Geometry) (fat : List ℕ) (unreadableSectors : Finset ℤ)

theorem slice_flatten (slots : List (List UInt8)) (rest : List UInt8)
    (whole : ∀ raw ∈ slots, raw.length = directoryEntrySize) :
    (slots.flatten ++ rest).drop (slots.length * directoryEntrySize) = rest := by
  have length : slots.flatten.length = slots.length * directoryEntrySize := by
    rw [List.length_flatten, List.map_eq_replicate_iff.mpr whole, List.sum_replicate_nat]
  rw [← length, List.drop_left]

/-- Live slots are read one after the other, and leave the pending ones to what follows. -/
theorem parseEntries_slots (root rest : List UInt8) (slots : List (List UInt8)) (start count : ℕ)
    (pending : List (List UInt8)) (live : ∀ raw ∈ slots, IsLive raw)
    (isRoot : root.drop (start * directoryEntrySize) = slots.flatten ++ rest) :
    ∃ entries, (∀ entry ∈ entries, entry.entryIndex < start + slots.length) ∧
      parseEntries root geometry fat unreadableSectors
          (List.range' start (slots.length + count)) pending =
        entries ++ parseEntries root geometry fat unreadableSectors
          (List.range' (start + slots.length) count) (pendingAfter pending slots) := by
  induction slots generalizing start pending with
  | nil =>
    refine ⟨[], by simp, ?_⟩
    simp [pendingAfter]
  | cons raw slots ih =>
    rcases List.forall_mem_cons.mp live with ⟨isLive, live⟩
    have isRaw : slice root (start * directoryEntrySize) directoryEntrySize = raw := by
      rw [slice, isRoot, List.flatten_cons, List.append_assoc, ← isLive.whole, List.take_left]
    have isRest : root.drop ((start + 1) * directoryEntrySize) = slots.flatten ++ rest := by
      rw [Nat.succ_mul, ← List.drop_drop, isRoot, List.flatten_cons, List.append_assoc,
        ← isLive.whole, List.drop_left]
    have continues : ¬(raw.length ≠ directoryEntrySize ∨ byteAt raw 0 = 0) := by
      rintro (short | ends)
      · exact short isLive.whole
      · exact isLive.inUse ends
    have further (next : List (List UInt8)) := ih (start + 1) next live isRest
    have indices : List.range' start ((raw :: slots).length + count) =
        start :: List.range' (start + 1) (slots.length + count) := by
      rw [List.length_cons, Nat.add_right_comm, List.range'_succ]
    have after : start + (raw :: slots).length = start + 1 + slots.length := by
      rw [List.length_cons]
      omega
    rw [indices, parseEntries, after]
    simp only [isRaw, if_neg continues]
    by_cases isLfn : raw.getD 11 0 = 0x0F
    · rcases further (pending ++ [raw]) with ⟨entries, before, parsed⟩
      refine ⟨entries, before, ?_⟩
      rw [if_pos isLfn, parsed, pendingAfter, pendingAfter, List.foldl_cons, isLfnSlot,
        decide_eq_true isLfn, if_pos rfl]
    · rcases further [] with ⟨entries, before, parsed⟩
      have cleared : pendingAfter pending (raw :: slots) = pendingAfter [] slots := by
        rw [pendingAfter, pendingAfter, List.foldl_cons, isLfnSlot, decide_eq_false isLfn,
          if_neg Bool.false_ne_true]
      rw [if_neg isLfn, cleared, parsed]
      split
      · exact ⟨entries, before, rfl⟩
      · refine ⟨_ :: entries, ?_, (List.cons_append ..).symm⟩
        intro entry member
        rcases List.mem_cons.mp member with rfl | later
        · change start < start + 1 + slots.length
          omega
        · exact before entry later

/-- An entry of its own that is in use: no part of a long name, no label and not deleted. -/
structure IsAllocated (raw : List UInt8) : Prop where
  live : IsLive raw
  present : byteAt raw 0 ≠ 0xE5
  notLabel : raw.getD 11 0 &&& 0x08 = 0

theorem IsAllocated.not_lfn (allocated : IsAllocated raw) : raw.getD 11 0 ≠ 0x0F := by
  intro isLfn
  have notLabel := allocated.notLabel
  rw [isLfn] at notLabel
  exact absurd notLabel (by decide)

/-- What the directory reports for the slot of the given index. -/
def reported (root : List UInt8) (index : ℕ) : Option Fat12Entry :=
  (parseRootDirectory root geometry fat unreadableSectors).find? fun entry =>
    entry.entryIndex = index

theorem reported_eq {shortEntry : List UInt8} (rest : List UInt8) (live : ∀ raw ∈ slots, IsLive raw)
    (allocated : IsAllocated shortEntry) (inTable : slots.length < geometry.rootEntries) :
    reported geometry fat unreadableSectors (slots.flatten ++ (shortEntry ++ rest)) slots.length =
      some (parseEntry slots.length shortEntry (slots.rtakeWhile isLfnSlot) geometry fat
        unreadableSectors) := by
  rcases Nat.exists_eq_add_of_lt inTable with ⟨further, isTable⟩
  have isRoot : (slots.flatten ++ (shortEntry ++ rest)).drop (0 * directoryEntrySize) =
      slots.flatten ++ (shortEntry ++ rest) := by
    rw [Nat.zero_mul, List.drop_zero]
  rcases parseEntries_slots geometry fat unreadableSectors _ (shortEntry ++ rest) slots 0
    (further + 1) [] live isRoot with ⟨entries, before, parsed⟩
  have isEntry : slice (slots.flatten ++ (shortEntry ++ rest))
      (slots.length * directoryEntrySize) directoryEntrySize = shortEntry := by
    rw [slice, slice_flatten slots _ fun raw member => (live raw member).whole,
      ← allocated.live.whole, List.take_left]
  have continues : ¬(shortEntry.length ≠ directoryEntrySize ∨ byteAt shortEntry 0 = 0) := by
    rintro (short | ends)
    · exact short allocated.live.whole
    · exact allocated.live.inUse ends
  have skipped : entries.find? (fun entry => entry.entryIndex = slots.length) = none := by
    rw [List.find?_eq_none]
    intro entry member isIndex
    have earlier := before entry member
    rw [decide_eq_true_eq] at isIndex
    omega
  rw [reported, parseRootDirectory, isTable, List.range_eq_range', Nat.add_assoc, parsed,
    List.find?_append, skipped, Option.none_or, Nat.zero_add, List.range'_succ, parseEntries]
  simp only [isEntry, if_neg continues, if_neg allocated.not_lfn, allocated.notLabel, ne_eq,
    not_true_eq_false, if_false]
  rw [pendingAfter_eq_rtakeWhile, List.find?_cons_of_pos]
  exact decide_eq_true rfl

end Directory

/-! ## Warnings -/

theorem followChain_warnings (fat : List ℕ) (steps cursor : ℕ) (chain : List ℕ) :
    "fat12_lfn_invalid" ∉ (followChain fat steps cursor chain).warnings := by
  induction steps generalizing cursor chain with
  | zero => simp [followChain]
  | succ steps ih =>
    rw [followChain]
    dsimp only
    split_ifs
    all_goals first | exact ih _ _ | simp

theorem Followed.checkLength_warnings {followed : Followed} (expected : ℕ)
    (clean : "fat12_lfn_invalid" ∉ followed.warnings) :
    "fat12_lfn_invalid" ∉ (followed.checkLength expected).warnings := by
  unfold Followed.checkLength
  split_ifs
  · simp [clean]
  · simp [clean]
  · exact clean

theorem Followed.checkOrder_warnings {followed : Followed}
    (clean : "fat12_lfn_invalid" ∉ followed.warnings) :
    "fat12_lfn_invalid" ∉ followed.checkOrder.warnings := by
  unfold Followed.checkOrder
  split_ifs
  · simp [clean]
  · exact clean

/-- The clusters of an entry give no cause to doubt its name. -/
theorem allocatedChain_warnings (firstCluster sizeBytes : ℕ) (fat : List ℕ)
    (geometry : Fat12Geometry) :
    "fat12_lfn_invalid" ∉ (allocatedChain firstCluster sizeBytes fat geometry).warnings := by
  unfold allocatedChain
  split_ifs
  · simp
  · simp
  · exact Followed.checkOrder_warnings
      (Followed.checkLength_warnings _ (followChain_warnings fat _ _ _))

section Entry

variable {raw : List UInt8} (allocated : IsAllocated raw) (index : ℕ)
  (pending : List (List UInt8)) (geometry : Fat12Geometry) (fat : List ℕ)
  (unreadableSectors : Finset ℤ)
include allocated

theorem parseEntry_of_named {text : List Char} (nonempty : text ≠ [])
    (decoded : decodeLfn pending (raw.take 11) false = (some (String.ofList text), none)) :
    (parseEntry index raw pending geometry fat unreadableSectors).name = String.ofList text ∧
      "fat12_lfn_invalid" ∉
        (parseEntry index raw pending geometry fat unreadableSectors).warnings := by
  have named : (String.ofList text).isEmpty = false := by
    rw [← Bool.not_eq_true, String.isEmpty_iff]
    intro isEmpty
    exact nonempty (String.ofList_injective isEmpty)
  constructor
  · simp [parseEntry, allocated.present, decoded, named]
  · simp only [parseEntry, allocated.present, decide_false, decoded, if_false, List.mem_eraseDups,
      Option.toList_none, List.nil_append, List.mem_append, not_or]
    refine ⟨allocatedChain_warnings _ _ _ _, ?_⟩
    split <;> simp

theorem parseEntry_of_invalid
    (decoded : decodeLfn pending (raw.take 11) false = (none, some "fat12_lfn_invalid")) :
    (parseEntry index raw pending geometry fat unreadableSectors).name =
        (parseEntry index raw pending geometry fat unreadableSectors).shortName ∧
      "fat12_lfn_invalid" ∈
        (parseEntry index raw pending geometry fat unreadableSectors).warnings := by
  constructor
  · simp [parseEntry, allocated.present, decoded]
  · simp [parseEntry, allocated.present, decoded, List.mem_eraseDups]

end Entry

/-! ## A name in a directory -/

/-- A directory with the slots of a name, in any order, directly before their entry. -/
structure StoredName where
  text : List Char
  storable : Storable text
  preceding : List (List UInt8)
  slots : List (List UInt8)
  shortEntry : List UInt8
  rest : List UInt8
  precedingLive : ∀ raw ∈ preceding, IsLive raw
  arranged : slots.Perm (nameSlots (lfnChecksum (shortEntry.take 11)) text)
  allocated : IsAllocated shortEntry

namespace StoredName

variable (stored : StoredName)

/-- The bytes of the directory when the given slots stand where those of the name do. -/
def rootWith (slots : List (List UInt8)) : List UInt8 :=
  (stored.preceding ++ slots).flatten ++ (stored.shortEntry ++ stored.rest)

def index : ℕ := stored.preceding.length + stored.slots.length

/-- The slots of a long name that stand directly before those of this one. -/
def strays : List (List UInt8) := stored.preceding.rtakeWhile isLfnSlot

/-- One of the slots stores another checksum. -/
def Damages (damaged : List (List UInt8)) : Prop :=
  ∃ before raw after checksum, stored.slots = before ++ raw :: after ∧
    checksum ≠ raw.getD 13 0 ∧ damaged = before ++ raw.set 13 checksum :: after

/-- The stray slot carries the checksum of the entry and the number of one of its parts. -/
def Harmless (stray : List UInt8) : Prop :=
  Fits (lfnChecksum (stored.shortEntry.take 11)) stray ∧ sequenceOf stray ≤ slotCount stored.text

instance (stray : List UInt8) : Decidable (stored.Harmless stray) :=
  inferInstanceAs (Decidable (_ ∧ _))

theorem isLfnSlot_of_mem (member : raw ∈ stored.slots) : isLfnSlot raw = true := by
  rcases (mem_slots stored.arranged).mp member with ⟨sequence, _, rfl⟩
  exact decide_eq_true (attributes_slotBytes _ _ (length_storedUnits _ sequence))

theorem isLive_of_mem (member : raw ∈ stored.slots) : IsLive raw := by
  rcases (mem_slots stored.arranged).mp member with ⟨sequence, isNumber, rfl⟩
  refine ⟨length_slotBytes _ _ (length_storedUnits _ sequence), ?_⟩
  rw [stored.storable.byteAt_longNameSlot _ isNumber]
  split <;> omega

end StoredName

theorem rtakeWhile_append_of_all (all : ∀ raw ∈ slots, isLfnSlot raw = true)
    (preceding : List (List UInt8)) :
    (preceding ++ slots).rtakeWhile isLfnSlot = preceding.rtakeWhile isLfnSlot ++ slots := by
  induction slots using List.reverseRecOn with
  | nil => rw [List.append_nil, List.append_nil]
  | append_singleton slots raw ih =>
    have isLfn := all raw (List.mem_append_right _ (List.mem_singleton_self raw))
    rw [← List.append_assoc, List.rtakeWhile_concat_pos _ _ _ isLfn,
      ih fun other member => all other (List.mem_append_left _ member), List.append_assoc]

namespace StoredName

variable (stored : StoredName) (geometry : Fat12Geometry) (fat : List ℕ)
  (unreadableSectors : Finset ℤ)

/-- The entry is made from the strays and the slots that stand where those of the name do. -/
theorem reported_rootWith (live : ∀ raw ∈ slots, IsLive raw)
    (all : ∀ raw ∈ slots, isLfnSlot raw = true) (same : slots.length = stored.slots.length)
    (inTable : stored.index < geometry.rootEntries) :
    reported geometry fat unreadableSectors (stored.rootWith slots) stored.index =
      some (parseEntry stored.index stored.shortEntry (stored.strays ++ slots) geometry fat
        unreadableSectors) := by
  have isIndex : (stored.preceding ++ slots).length = stored.index := by
    rw [List.length_append, same, index]
  have allLive : ∀ raw ∈ stored.preceding ++ slots, IsLive raw := by
    intro raw member
    rcases List.mem_append.mp member with precedes | isSlot
    · exact stored.precedingLive raw precedes
    · exact live raw isSlot
  have found := reported_eq geometry fat unreadableSectors stored.rest allLive stored.allocated
    (by rw [isIndex]; exact inTable)
  rwa [isIndex, rtakeWhile_append_of_all all] at found

/-- The entry has the stored name, and nothing is said against it. -/
def IsReported (slots : List (List UInt8)) : Prop :=
  ∃ entry, reported geometry fat unreadableSectors (stored.rootWith slots) stored.index =
      some entry ∧
    entry.name = String.ofList stored.text ∧ "fat12_lfn_invalid" ∉ entry.warnings

/-- The entry has its short name and a warning. -/
def FallsBack (slots : List (List UInt8)) : Prop :=
  ∃ entry, reported geometry fat unreadableSectors (stored.rootWith slots) stored.index =
      some entry ∧
    entry.name = entry.shortName ∧ "fat12_lfn_invalid" ∈ entry.warnings

theorem not_isReported_of_fallsBack
    (fallsBack : stored.FallsBack geometry fat unreadableSectors slots) :
    ¬stored.IsReported geometry fat unreadableSectors slots := by
  rintro ⟨entry, isEntry, _, clean⟩
  rcases fallsBack with ⟨other, isOther, _, warned⟩
  rw [isEntry] at isOther
  rw [← Option.some.inj isOther] at warned
  exact clean warned

/-- With its own slots the entry has its name, unless a stray slot spoils it. -/
theorem reported_slots (inTable : stored.index < geometry.rootEntries) :
    if ∀ stray ∈ stored.strays, stored.Harmless stray then
      stored.IsReported geometry fat unreadableSectors stored.slots
    else stored.FallsBack geometry fat unreadableSectors stored.slots := by
  have found := stored.reported_rootWith geometry fat unreadableSectors
    (fun raw => stored.isLive_of_mem) (fun raw => stored.isLfnSlot_of_mem) rfl inTable
  have decoded : decodeLfn (stored.strays ++ stored.slots) (stored.shortEntry.take 11) false =
      if ∀ stray ∈ stored.strays, stored.Harmless stray then
        (some (String.ofList stored.text), none)
      else (none, some "fat12_lfn_invalid") :=
    decodeLfn_slots stored.storable stored.arranged stored.strays
  split
  · rename_i harmless
    rw [if_pos harmless] at decoded
    exact ⟨_, found, parseEntry_of_named stored.allocated _ _ _ _ _ stored.storable.nonempty
      decoded⟩
  · rename_i harmful
    rw [if_neg harmful] at decoded
    exact ⟨_, found, parseEntry_of_invalid stored.allocated _ _ _ _ _ decoded⟩

theorem fallsBack_of_damages (inTable : stored.index < geometry.rootEntries)
    {damaged : List (List UInt8)} (damages : stored.Damages damaged) :
    stored.FallsBack geometry fat unreadableSectors damaged := by
  rcases damages with ⟨before, raw, after, checksum, isSlots, differs, rfl⟩
  have isSlot : raw ∈ stored.slots := by
    rw [isSlots]
    exact List.mem_append_right _ List.mem_cons_self
  have isLive := stored.isLive_of_mem isSlot
  have isLfn := stored.isLfnSlot_of_mem isSlot
  have fits := fits_of_mem_slots stored.storable stored.arranged isSlot
  have others {other : List UInt8} (member : other ∈ before ++ after) : other ∈ stored.slots := by
    rw [isSlots]
    rcases List.mem_append.mp member with earlier | later
    · exact List.mem_append_left _ earlier
    · exact List.mem_append_right _ (List.mem_cons_of_mem _ later)
  have misfit : ¬Fits (lfnChecksum (stored.shortEntry.take 11)) (raw.set 13 checksum) := by
    rintro ⟨_, isChecksum⟩
    rw [List.getD_eq_getElem?_getD, List.getElem?_set_self (by rw [isLive.whole]; decide)]
      at isChecksum
    exact differs (isChecksum.trans fits.2.symm)
  have damagedLive : IsLive (raw.set 13 checksum) := by
    refine ⟨by rw [List.length_set, isLive.whole], ?_⟩
    rw [byteAt, List.getD_eq_getElem?_getD, List.getElem?_set_ne (by decide),
      ← List.getD_eq_getElem?_getD]
    exact isLive.inUse
  have damagedLfn : isLfnSlot (raw.set 13 checksum) = true := by
    rw [isLfnSlot, List.getD_eq_getElem?_getD, List.getElem?_set_ne (by decide),
      ← List.getD_eq_getElem?_getD]
    exact isLfn
  refine ⟨_, stored.reported_rootWith geometry fat unreadableSectors ?_ ?_ ?_ inTable, ?_⟩
  · intro other member
    rcases List.mem_append.mp member with earlier | later
    · exact stored.isLive_of_mem (others (List.mem_append_left _ earlier))
    · rcases List.mem_cons.mp later with rfl | later
      · exact damagedLive
      · exact stored.isLive_of_mem (others (List.mem_append_right _ later))
  · intro other member
    rcases List.mem_append.mp member with earlier | later
    · exact stored.isLfnSlot_of_mem (others (List.mem_append_left _ earlier))
    · rcases List.mem_cons.mp later with rfl | later
      · exact damagedLfn
      · exact stored.isLfnSlot_of_mem (others (List.mem_append_right _ later))
  · simp [isSlots]
  · apply parseEntry_of_invalid stored.allocated
    have isPending : raw.set 13 checksum ∈
        stored.strays ++ (before ++ raw.set 13 checksum :: after) :=
      List.mem_append_right _ (List.mem_append_right _ List.mem_cons_self)
    exact decodeLfn_of_not_fits isPending misfit

/-- The name is reported exactly when no stray slot spoils it, and the short name is when a
checksum of its own slots is altered. -/
theorem name_reported_iff (inTable : stored.index < geometry.rootEntries) :
    (stored.IsReported geometry fat unreadableSectors stored.slots ↔
        ∀ stray ∈ stored.strays, stored.Harmless stray) ∧
      ∀ damaged, stored.Damages damaged →
        stored.FallsBack geometry fat unreadableSectors damaged := by
  refine ⟨?_, fun damaged => stored.fallsBack_of_damages geometry fat unreadableSectors inTable⟩
  have decided := stored.reported_slots geometry fat unreadableSectors inTable
  by_cases harmless : ∀ stray ∈ stored.strays, stored.Harmless stray
  · rw [if_pos harmless] at decided
    exact iff_of_true decided harmless
  · rw [if_neg harmless] at decided
    exact iff_of_false
      (stored.not_isReported_of_fallsBack geometry fat unreadableSectors decided) harmless

end StoredName

/-! A file in use, alone and behind a slot that a deleted file has left. -/

/-- The entry of a file `LONG.TXT` without contents. -/
def longTxt : List UInt8 :=
  [76, 79, 78, 71, 32, 32, 32, 32, 84, 88, 84, 0x20] ++ List.replicate 20 0

theorem longTxt_allocated : IsAllocated longTxt := by
  refine ⟨⟨?_, ?_⟩, ?_, ?_⟩ <;> decide

def longText : List Char := ['l', 'o', 'n', 'g', '.', 't', 'x', 't', ' ', 'f', 'i', 'l', 'e', 's']

theorem longText_storable : Storable longText := by
  refine ⟨?_, ?_, ?_⟩ <;> decide

/-- The slot of a deleted file: its first byte is overwritten, the rest is left. -/
def deletedSlot : List UInt8 := (longNameSlot 0 ['o', 'l', 'd'] 1).set 0 0xE5

theorem deletedSlot_live : IsLive deletedSlot := by
  refine ⟨?_, ?_⟩ <;> decide

/-- The file with its name stored behind the given slots. -/
def longFile (preceding : List (List UInt8)) (live : ∀ raw ∈ preceding, IsLive raw) :
    StoredName where
  text := longText
  storable := longText_storable
  preceding := preceding
  slots := nameSlots (lfnChecksum (longTxt.take 11)) longText
  shortEntry := longTxt
  rest := []
  precedingLive := live
  arranged := List.Perm.refl _
  allocated := longTxt_allocated

theorem nothing_live : ∀ raw ∈ ([] : List (List UInt8)), IsLive raw := nofun

theorem deletedSlots_live : ∀ raw ∈ [deletedSlot], IsLive raw := by
  intro raw member
  rw [List.mem_singleton.mp member]
  exact deletedSlot_live

def loneFile : StoredName := longFile [] nothing_live

def fileBehindDeleted : StoredName := longFile [deletedSlot] deletedSlots_live

def floppy360 : Fat12Geometry := ⟨"360 KiB", 720, 2, 112, 2, 9, 2, 40, 0xFD, 512, 1, 2⟩

theorem name_reported_sample : (loneFile.IsReported floppy360 [] ∅ loneFile.slots ↔
        ∀ stray ∈ loneFile.strays, loneFile.Harmless stray) ∧
      ∀ damaged, loneFile.Damages damaged → loneFile.FallsBack floppy360 [] ∅ damaged :=
  loneFile.name_reported_iff floppy360 [] ∅ (by decide)

/-- A slot that a deleted file has left costs the file behind it its name. -/
theorem deletedSlot_spoils_name : fileBehindDeleted.index < floppy360.rootEntries ∧
      fileBehindDeleted.FallsBack floppy360 [] ∅ fileBehindDeleted.slots ∧
      ¬fileBehindDeleted.IsReported floppy360 [] ∅ fileBehindDeleted.slots := by
  have inTable : fileBehindDeleted.index < floppy360.rootEntries := by decide
  have isStray : deletedSlot ∈ fileBehindDeleted.strays := by decide
  have harmful : ¬fileBehindDeleted.Harmless deletedSlot := by decide
  have spoiled := fileBehindDeleted.reported_slots floppy360 [] ∅ inTable
  rw [if_neg fun harmless => harmful (harmless deletedSlot isStray)] at spoiled
  exact ⟨inTable, spoiled, fileBehindDeleted.not_isReported_of_fallsBack floppy360 [] ∅ spoiled⟩

end Reperio.Fat12
