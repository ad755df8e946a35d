import Mathlib.Algebra.Group.Nat.Defs
import Mathlib.Data.List.Basic
import Mathlib.Tactic.Basic

/-!
# Length-prefixed fields

A sequence of byte strings written one after the other, each behind its length
as a big-endian number of a fixed width. No two sequences are written alike
(`frames?_injective`).
-/

namespace Reperio.Encoding

/-- The `width` lowest bytes of a number, the highest one first. -/
def bigEndian : ℕ → ℕ → List UInt8
  | 0, _ => []
  | width + 1, value => bigEndian width (value / 256) ++ [UInt8.ofNat value]

/-- Nothing when a field is too long for its length to be written. -/
def frames? (width : ℕ) : List (List UInt8) → Option (List UInt8)
  | [] => some []
  | field :: fields =>
    if field.length < 256 ^ width then
      (frames? width fields).map fun rest => bigEndian width field.length ++ (field ++ rest)
    else none

variable {width : ℕ}

theorem exists_frames? {fields : List (List UInt8)}
    (short : ∀ field ∈ fields, field.length < 256 ^ width) :
    ∃ stream, frames? width fields = some stream := by
  induction fields with
  | nil => exact ⟨[], rfl⟩
  | cons field fields ih =>
    rcases ih fun other member => short other (List.mem_cons_of_mem field member) with
      ⟨rest, isRest⟩
    rw [frames?, if_pos (short field List.mem_cons_self), isRest]
    exact ⟨_, rfl⟩

@[simp]
theorem length_bigEndian (width value : ℕ) : (bigEndian width value).length = width := by
  induction width generalizing value with
  | zero => rfl
  | succ width ih => rw [bigEndian, List.length_append, ih, List.length_singleton]

theorem bigEndian_injective {first second : ℕ} (firstSmall : first < 256 ^ width)
    (secondSmall : second < 256 ^ width) (same : bigEndian width first = bigEndian width second) :
    first = second := by
  induction width generalizing first second with
  | zero => omega
  | succ width ih =>
    rw [bigEndian, bigEndian] at same
    rcases List.append_inj' same rfl with ⟨high, low⟩
    rw [Nat.pow_succ] at firstSmall secondSmall
    have highSame := ih (Nat.div_lt_of_lt_mul (by omega)) (Nat.div_lt_of_lt_mul (by omega)) high
    have lowSame : first % 256 = second % 256 := by
      have bytes := congrArg UInt8.toNat (List.singleton_inj.mp low)
      rwa [UInt8.toNat_ofNat', UInt8.toNat_ofNat'] at bytes
    omega

theorem frames?_injective (positive : 0 < width) {first second : List (List UInt8)}
    {stream : List UInt8} (firstFrames : frames? width first = some stream)
    (secondFrames : frames? width second = some stream) : first = second := by
  have notNil : ∀ {field fields}, frames? width (field :: fields) ≠ some [] := by
    intro field fields isNil
    rw [frames?] at isNil
    split at isNil
    · rcases Option.map_eq_some_iff.mp isNil with ⟨rest, _, empty⟩
      have size := congrArg List.length empty
      rw [List.length_append, length_bigEndian] at size
      exact absurd size (by simp; omega)
    · cases isNil
  induction first generalizing second stream with
  | nil =>
    cases firstFrames
    cases second with
    | nil => rfl
    | cons field fields => exact absurd secondFrames notNil
  | cons field fields ih =>
    cases second with
    | nil =>
      cases secondFrames
      exact absurd firstFrames notNil
    | cons other others =>
      rw [frames?] at firstFrames secondFrames
      split at firstFrames
      · split at secondFrames
        · rename_i fieldSmall otherSmall
          rcases Option.map_eq_some_iff.mp firstFrames with ⟨rest, isRest, rfl⟩
          rcases Option.map_eq_some_iff.mp secondFrames with ⟨otherRest, isOtherRest, same⟩
          rcases List.append_inj same (by simp) with ⟨sizes, bodies⟩
          have length := bigEndian_injective otherSmall fieldSmall sizes
          rcases List.append_inj bodies length with ⟨rfl, rfl⟩
          rw [ih isRest isOtherRest]
        · cases secondFrames
      · cases firstFrames

end Reperio.Encoding
