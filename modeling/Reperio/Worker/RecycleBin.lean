import Reperio.Encoding.Utf16

/-!
# Recycle Bin metadata

`worker/recycle_bin.py`: the `$I` files of a Windows Recycle Bin, which say where a
deleted file was. Windows writes a version, a size and a time of eight bytes each
before the path; the parser looks for the size of version 1 in the upper half of the
version, and for the path of either version inside the time. Nothing that Windows
writes in version 1 is read back, and in version 2 only a path that its own time
happens to spell (`parse_layout_iff`).
-/

namespace Reperio.Worker.RecycleBin

open Encoding Fat12

/-! ## The parser -/

/-- What a `$I` file says of a deleted file. -/
structure WindowsMeta where
  originalPath : List Char
  sizeBytes : ℕ
  metaVersion : ℕ
  deriving DecidableEq, Repr

/-- `data[first:last]`. -/
def slice (first last : ℕ) (data : List UInt8) : List UInt8 := (data.take last).drop first

/-- `_uint32`. -/
def uint32 (data : List UInt8) (offset : ℕ) : ℤ :=
  if offset + 4 ≤ data.length then fromLittle (slice offset (offset + 4) data) else -1

/-- `text.rstrip("\x00")`. -/
def rstripNul (text : List Char) : List Char := text.rdropWhile (· = '\x00')

/-- The size and the bytes of the path. -/
def windowsFields (data : List UInt8) (version : ℤ) : Option (ℤ × List UInt8) :=
  if version = 1 then some (uint32 data 4, slice 8 (8 + 520) data)
  else if version = 2 then
    let pathLength := uint32 data 16
    some (fromLittle (slice 8 16 data), slice 20 (20 + (max 0 (min pathLength 520)).toNat) data)
  else none

def parseWindowsIFile (data : List UInt8) : Option WindowsMeta := if data.length < 24 then none
  else
    let version := uint32 data 0
    match windowsFields data version with
    | none => none
    | some (sizeBytes, pathBytes) =>
      if sizeBytes < 0 then none
      else
        let path := rstripNul (utf16Decode pathBytes)
        if path = [] ∨ 260 < path.length then none
        else some ⟨path, sizeBytes.toNat, version.toNat⟩

/-! ## What Windows writes -/

/-- The versions of the format. -/
inductive Version where
  | one
  | two
  deriving DecidableEq, Repr

def Version.number : Version → ℕ
  | one => 1
  | two => 2

/-- A file that was deleted: its path without NUL, its size and the time of the deletion. -/
structure Deleted where
  path : List Char
  size : ℕ
  fileTime : ℕ
  noNul : '\x00' ∉ path
  short : (encodeUtf16 path).length ≤ 259
  size_lt : size < 2 ^ 63
  fileTime_lt : fileTime < 2 ^ 64

def pathBytes (path : List Char) : List UInt8 := (encodeUtf16 path).flatMap unitBytes

/-- The path as it is stored: padded with NUL to 520 bytes, or with its number of units before it.
-/
def storedPath (path : List Char) : Version → List UInt8
  | .one => pathBytes path ++ List.replicate (520 - (pathBytes path).length) 0
  | .two => toLittle 4 ((encodeUtf16 path).length + 1) ++ (pathBytes path ++ [0, 0])

def layout (version : Version) (deleted : Deleted) : List UInt8 :=
  toLittle 8 version.number ++ (toLittle 8 deleted.size ++
    (toLittle 8 deleted.fileTime ++ storedPath deleted.path version))

/-- The path is what the upper half of the time and the number of units spell, as far as the lower
half of the time says. -/
def SpeltByTime (deleted : Deleted) : Prop := deleted.path ≠ [] ∧ deleted.fileTime % 2 ^ 32 ≤ 8 ∧
    deleted.path = rstripNul (utf16Decode ((toLittle 4 (deleted.fileTime / 2 ^ 32) ++
      toLittle 4 ((encodeUtf16 deleted.path).length + 1)).take (deleted.fileTime % 2 ^ 32)))

instance : DecidablePred SpeltByTime := fun _ => inferInstanceAs (Decidable (_ ∧ _ ∧ _))

/-! ## The fields that are read -/

theorem slice_append {first second : List UInt8} {length : ℕ} (isLength : first.length = length)
    (start last : ℕ) :
    slice (length + start) (length + last) (first ++ second) = slice start last second := by
  subst isLength
  rw [slice, slice, List.take_length_add_append, List.drop_length_add_append]

theorem slice_toLittle (count value : ℕ) (rest : List UInt8) :
    slice 0 count (toLittle count value ++ rest) = toLittle count value := by
  rw [slice, List.drop_zero]
  exact List.take_left' (length_toLittle count value)

theorem uint32_of_slice {data : List UInt8} {offset value : ℕ} (long : offset + 4 ≤ data.length)
    (isSlice : slice offset (offset + 4) data = toLittle 4 value) :
    uint32 data offset = (value % 2 ^ 32 : ℕ) := by
  rw [uint32, if_pos long, isSlice, fromLittle_toLittle]
  rfl

theorem length_layout (version : Version) (deleted : Deleted) :
    (layout version deleted).length = 24 + (storedPath deleted.path version).length := by
  simp only [layout, List.length_append, length_toLittle]
  omega

theorem layout_two (deleted : Deleted) :
    layout .two deleted = toLittle 8 2 ++
      (toLittle 8 deleted.size ++ (toLittle 4 deleted.fileTime ++
      (toLittle 4 (deleted.fileTime / 2 ^ 32) ++ storedPath deleted.path .two))) := by
  rw [layout, toLittle_add 4 4 deleted.fileTime, List.append_assoc]
  rfl

/-- What is returned for a size and bytes that stand for a path. -/
def metaOf (version size : ℕ) (bytes : List UInt8) : Option WindowsMeta :=
  let path := rstripNul (utf16Decode bytes)
  if path = [] ∨ 260 < path.length then none else some ⟨path, size, version⟩

theorem metaOf_eq_some_iff {version size : ℕ} {bytes : List UInt8} {result : WindowsMeta} :
    metaOf version size bytes = some result ↔
    result.originalPath ≠ [] ∧ result.originalPath.length ≤ 260 ∧
      result = ⟨rstripNul (utf16Decode bytes), size, version⟩ := by
  unfold metaOf
  dsimp only
  constructor
  · intro isResult
    split at isResult
    · cases isResult
    · rename_i fits
      cases isResult
      rw [not_or, not_lt] at fits
      exact ⟨fits.1, fits.2, rfl⟩
  · rintro ⟨nonempty, short, rfl⟩
    exact if_neg (not_or.mpr ⟨nonempty, not_lt.mpr short⟩)

theorem parse_of_fields {data : List UInt8} {version size : ℕ} {bytes : List UInt8}
    (long : 24 ≤ data.length) (isVersion : uint32 data 0 = version)
    (fields : windowsFields data version = some ((size : ℤ), bytes)) :
    parseWindowsIFile data = metaOf version size bytes := by
  rw [parseWindowsIFile, if_neg (not_lt.mpr long), isVersion]
  dsimp only
  rw [fields]
  exact if_neg (not_lt.mpr (Int.natCast_nonneg size))

/-- Of version 1 no size is read, and what follows the version is taken for the path. -/
theorem parse_layout_one (deleted : Deleted) : parseWindowsIFile (layout .one deleted) =
      metaOf 1 0 ((toLittle 8 deleted.size ++ (toLittle 8 deleted.fileTime ++
        storedPath deleted.path .one)).take 520) := by
  have long : 24 ≤ (layout .one deleted).length := by
    rw [length_layout]
    exact Nat.le_add_right _ _
  have parts : layout .one deleted = toLittle 4 1 ++ (toLittle 4 0 ++ (toLittle 8 deleted.size ++
    (toLittle 8 deleted.fileTime ++ storedPath deleted.path .one))) := rfl
  have version : uint32 (layout .one deleted) 0 = (1 : ℕ) := by
    have isSlice : slice 0 (0 + 4) (layout .one deleted) = toLittle 4 1 := by
      rw [parts, slice_toLittle]
    exact uint32_of_slice (by omega) isSlice
  have size : uint32 (layout .one deleted) 4 = (0 : ℕ) := by
    have isSlice : slice 4 (4 + 4) (layout .one deleted) = toLittle 4 0 := by
      rw [parts, slice_append (length_toLittle 4 1) 0 4, slice_toLittle]
    exact uint32_of_slice (by omega) isSlice
  refine parse_of_fields long version ?_
  rw [windowsFields, if_pos Nat.cast_one, size, parts, slice_append (length_toLittle 4 1) 4 524,
    slice_append (length_toLittle 4 0) 0 520, slice, List.drop_zero]

/-- Of version 2 the path is looked for in the upper half of the time, its length in the lower. -/
theorem parse_layout_two (deleted : Deleted) : parseWindowsIFile (layout .two deleted) =
      metaOf 2 deleted.size
      ((toLittle 4 (deleted.fileTime / 2 ^ 32) ++ storedPath deleted.path .two).take
        (min (deleted.fileTime % 2 ^ 32) 520)) := by
  have long : 24 ≤ (layout .two deleted).length := by
    rw [length_layout]
    exact Nat.le_add_right _ _
  have parts := layout_two deleted
  have version : uint32 (layout .two deleted) 0 = (2 : ℕ) := by
    have isSlice : slice 0 (0 + 4) (layout .two deleted) = toLittle 4 2 := by
      rw [parts, toLittle_add 4 4 2, List.append_assoc, slice_toLittle]
    exact uint32_of_slice (by omega) isSlice
  have pathLength : uint32 (layout .two deleted) 16 = (deleted.fileTime % 2 ^ 32 : ℕ) := by
    refine uint32_of_slice (by omega) ?_
    rw [parts, slice_append (length_toLittle 8 2) 8 12, slice_append (length_toLittle 8 _) 0 4,
      slice_toLittle]
  have size : slice 8 16 (layout .two deleted) = toLittle 8 deleted.size := by
    rw [parts, slice_append (length_toLittle 8 2) 0 8, slice_toLittle]
  have path : ∀ count, slice 20 (20 + count) (layout .two deleted) =
      (toLittle 4 (deleted.fileTime / 2 ^ 32) ++ storedPath deleted.path .two).take count := by
    intro count
    have start : 20 + count = 8 + (8 + (4 + count)) := by omega
    rw [parts, start, slice_append (length_toLittle 8 2) 12 (8 + (4 + count)),
      slice_append (length_toLittle 8 _) 4 (4 + count), slice_append (length_toLittle 4 _) 0 count,
      slice,
      List.drop_zero]
  have bounded : (max 0 (min ((deleted.fileTime % 2 ^ 32 : ℕ) : ℤ) 520)).toNat =
      min (deleted.fileTime % 2 ^ 32) 520 := by
    omega
  have isSize : fromLittle (toLittle 8 deleted.size) = deleted.size := by
    have := deleted.size_lt
    rw [fromLittle_toLittle]
    exact Nat.mod_eq_of_lt (by omega)
  refine parse_of_fields long version ?_
  rw [windowsFields, if_neg (by decide), if_pos Nat.cast_two]
  dsimp only
  rw [pathLength, size, isSize, bounded, path]

/-! ## What is read back -/

theorem rstripNul_append {before after : List Char} {char : Char} (notNul : char ≠ '\x00') :
    ∃ rest, rstripNul (before ++ char :: after) = before ++ char :: rest := by
  unfold rstripNul
  induction after using List.reverseRecOn with
  | nil => exact ⟨[], List.rdropWhile_concat_neg _ _ _ (by simpa using notNul)⟩
  | append_singleton after last ih =>
    have parts : before ++ char :: (after ++ [last]) = (before ++ char :: after) ++
        [last] := by simp
    rw [parts]
    by_cases isNul : last = '\x00'
    · rw [List.rdropWhile_concat_pos _ _ _ (by simpa using isNul)]
      exact ih
    · exact ⟨after ++ [last],
        (List.rdropWhile_concat_neg _ _ _ (by simpa using isNul)).trans parts.symm⟩

/-- A NUL before another character stays in a text. -/
theorem nul_mem_rstripNul {before after : List Char} {char : Char} (notNul : char ≠ '\x00') :
    '\x00' ∈ rstripNul (before ++ '\x00' :: char :: after) := by
  rcases @rstripNul_append (before ++ ['\x00']) after _ notNul with ⟨rest, stripped⟩
  rw [List.append_assoc, List.singleton_append] at stripped
  rw [stripped]
  simp

theorem head_rstripNul {char : Char} {text : List Char} (nonempty : rstripNul (char :: text) ≠ []) :
    char ∈ rstripNul (char :: text) := by
  have isPrefix : rstripNul (char :: text) <+: char :: text := List.rdropWhile_prefix _ _
  cases stripped : rstripNul (char :: text) with
  | nil => exact absurd stripped nonempty
  | cons first rest =>
    rw [stripped, List.cons_prefix_cons] at isPrefix
    rw [isPrefix.1]
    exact List.mem_cons_self

theorem not_read_one (deleted : Deleted) :
    parseWindowsIFile (layout .one deleted) ≠ some ⟨deleted.path, deleted.size, 1⟩ := by
  rw [parse_layout_one]
  intro isRead
  rcases metaOf_eq_some_iff.mp isRead with ⟨nonempty, _, same⟩
  rw [WindowsMeta.mk.injEq] at same
  rcases same with ⟨isPath, isSize, _⟩
  have decoded : ∀ rest : List UInt8, utf16Decode ((toLittle 8 0 ++ rest).take 520) =
      '\x00' :: utf16Decode ((toLittle 6 0 ++ rest).take 518) := fun _ => utf16Decode_nul _
  rw [isSize, decoded] at isPath
  rw [isPath] at nonempty
  exact deleted.noNul (isPath ▸ head_rstripNul nonempty)

theorem charUnits_eq_cons {char : Char} (notNul : char ≠ '\x00') :
    ∃ unit units, charUnits char = unit :: units ∧ unit ≠ 0 := by
  rw [charUnits]
  split
  · refine ⟨_, _, rfl, fun isZero => notNul ?_⟩
    rw [← Char.ofNat_toNat char, isZero]
  · exact ⟨_, _, rfl, by omega⟩

theorem length_le_units (path : List Char) : path.length ≤ (encodeUtf16 path).length := by
  induction path with
  | nil => exact Nat.le_refl 0
  | cons char path ih =>
    have some : 1 ≤ (charUnits char).length := by
      rw [charUnits]
      split
      · exact Nat.le_refl 1
      · exact Nat.le_succ 1
    rw [encodeUtf16] at ih ⊢
    rw [List.flatMap_cons, List.length_append, List.length_cons]
    omega

/-- A path does not begin with NUL, however far it is read. -/
theorem head_pathBytes {path : List Char} (noNul : '\x00' ∉ path) (nonempty : path ≠ [])
    (rest : List UInt8)
    {count : ℕ} (positive : 0 < count) :
    ∃ char chars, utf16Decode ((pathBytes path ++ rest).take count) = char :: chars ∧
    char ≠ '\x00' := by
  cases path with
  | nil => exact absurd rfl nonempty
  | cons char path =>
    rw [List.mem_cons, not_or] at noNul
    rcases charUnits_eq_cons (Ne.symm noNul.1) with ⟨unit, units, areUnits, notZero⟩
    have bounded : unit < 0x10000 := by
      have isUnit : unit ∈ charUnits char := by
        rw [areUnits]
        exact List.mem_cons_self
      exact charUnits_lt isUnit
    rw [pathBytes, encodeUtf16, List.flatMap_cons, areUnits, List.cons_append, List.flatMap_cons,
      unitBytes,
      List.append_assoc]
    rcases count with _ | _ | count
    · exact absurd positive (Nat.lt_irrefl 0)
    · refine head_utf16Decode (List.cons_ne_nil _ _) fun isNul => ?_
      exact Option.some_ne_none (0 : ℕ) (isNul.symm.trans rfl)
    · refine head_utf16Decode (List.cons_ne_nil _ _) fun isNul => ?_
      have same := Option.some.inj isNul
      rw [UInt8.toNat_ofNat', UInt8.toNat_ofNat'] at same
      omega

/-- When the lower half of the time is large, the number of units is read as part of the path, and
the upper half of it is NUL. -/
theorem nul_mem_of_long (deleted : Deleted) (nonempty : deleted.path ≠ []) {count : ℕ}
    (long : 8 < count) :
    '\x00' ∈ rstripNul (utf16Decode ((toLittle 4 (deleted.fileTime / 2 ^ 32) ++
      storedPath deleted.path .two).take count)) := by
  have small : ((encodeUtf16 deleted.path).length + 1) / 256 ^ 2 = 0 := by
    have := deleted.short
    exact Nat.div_eq_of_lt (by omega)
  have parts : toLittle 4 (deleted.fileTime / 2 ^ 32) ++ storedPath deleted.path .two =
      (toLittle 4 (deleted.fileTime / 2 ^ 32) ++ toLittle 2 ((encodeUtf16 deleted.path).length + 1))
      ++ 0 :: 0 :: (pathBytes deleted.path ++ [0, 0]) := by
    rw [storedPath, toLittle_add 2 2 ((encodeUtf16 deleted.path).length + 1), small,
      List.append_assoc, List.append_assoc]
    rfl
  have before : (toLittle 4 (deleted.fileTime / 2 ^ 32) ++
      toLittle 2 ((encodeUtf16 deleted.path).length + 1)).length = 6 := by
    rw [List.length_append, length_toLittle, length_toLittle]
  rcases Nat.exists_eq_add_of_lt long with ⟨more, rfl⟩
  rw [parts, show 8 + more + 1 = 6 + (more + 1 + 2) by omega, ← before, List.take_length_add_append,
    List.take_succ_cons, List.take_succ_cons]
  rcases utf16Decode_append_nul (by rw [before])
    ((pathBytes deleted.path ++ [0, 0]).take (more + 1)) with
    ⟨start, decoded⟩
  rcases head_pathBytes deleted.noNul nonempty [0, 0] (Nat.succ_pos more)
    with ⟨char, chars, head, notNul⟩
  rw [decoded, head]
  exact nul_mem_rstripNul notNul

theorem read_two_iff (deleted : Deleted) :
    parseWindowsIFile (layout .two deleted) = some ⟨deleted.path, deleted.size, 2⟩ ↔
    SpeltByTime deleted := by
  rw [parse_layout_two, metaOf_eq_some_iff, SpeltByTime, WindowsMeta.mk.injEq]
  dsimp only
  refine and_congr_right fun nonempty => ?_
  rcases Nat.lt_or_ge 8 (deleted.fileTime % 2 ^ 32) with long | short
  · refine iff_of_false ?_ fun spelt => absurd spelt.1 (not_le.mpr long)
    rintro ⟨_, isPath, _⟩
    have isNul := nul_mem_of_long deleted nonempty (lt_min long (by omega : 8 < 520))
    rw [← isPath] at isNul
    exact deleted.noNul isNul
  · have fits : deleted.path.length ≤ 260 := by
      have := length_le_units deleted.path
      have := deleted.short
      omega
    have inHeader : deleted.fileTime % 2 ^ 32 ≤ (toLittle 4 (deleted.fileTime / 2 ^ 32) ++
        toLittle 4 ((encodeUtf16 deleted.path).length + 1)).length := by
      rwa [List.length_append, length_toLittle, length_toLittle]
    rw [min_eq_left (short.trans (by omega)), storedPath, ← List.append_assoc,
      List.take_append_of_le_length inHeader]
    simp only [fits, short, true_and, and_true]

/-- A deleted file is read back exactly when version 2 was written and its time spells its path. -/
theorem parse_layout_iff (version : Version) (deleted : Deleted) :
    parseWindowsIFile (layout version deleted) = some ⟨deleted.path, deleted.size, version.number⟩ ↔
      version = .two ∧ SpeltByTime deleted := by
  cases version with
  | one => exact iff_of_false (not_read_one deleted) nofun
  | two =>
    rw [Version.number, read_two_iff]
    exact (and_iff_right rfl).symm

/-- A text file that was deleted in July 2026. -/
def deletedNote : Deleted where
  path := "C:\\note.txt".toList
  size := 10
  fileTime := 134284608000000000
  noNul := by decide
  short := by decide
  size_lt := by decide
  fileTime_lt := by decide

theorem deletedNote_not_read :
    parseWindowsIFile (layout .one deletedNote) ≠ some ⟨deletedNote.path, 10, 1⟩ ∧
      parseWindowsIFile (layout .two deletedNote) ≠ some ⟨deletedNote.path, 10, 2⟩ := by
  decide +kernel

end Reperio.Worker.RecycleBin
