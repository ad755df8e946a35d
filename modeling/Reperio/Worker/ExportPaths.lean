import Reperio.Encoding.Candidates
import Reperio.Python.JsonRoundTrip
import Reperio.Python.Operators
import Reperio.Python.PurePath
import Reperio.Python.Utf8

/-!
# Export paths

`worker/export_manifest.py`, as far as it plans where exported items go: the names of
a source path are cleaned one by one, the path is cut to what a destination takes, and
a number is put behind a path that is taken already.
-/

namespace Reperio.Worker

open Python Encoding

/-! ## Items -/

/-- `ExportItem` of `worker/local_export.py`. -/
structure ExportItem where
  exportItemId : PyStr
  sourcePath : PyStr
  expectedSize : ℤ
  expectedSha256 : PyStr
  deriving DecidableEq

/-- Where an item goes. -/
structure PlannedPath where
  exportItemId : PyStr
  sourceDisplayPath : PyStr
  destinationPath : PyStr
  provenance : PyStr
  warnings : List PyStr
  deriving DecidableEq

/-- A name that is safe, with what was changed. -/
structure SanitizedComponent where
  name : PyStr
  warnings : List PyStr
  deriving DecidableEq

/-- `PROVENANCE_KINDS`. -/
def provenanceKinds : List PyStr :=
  ["allocated", "hidden", "trashed", "deleted", "carved"].map PyStr.ofString

def allocated : PyStr := .ofString "allocated"

def carved : PyStr := .ofString "carved"

/-! ## Letters -/

/-- What the interpreter knows about upper case: `str.upper` takes every character on its own. -/
structure Casing where
  upperOf : CodePoint → PyStr
  ascii : ∀ point : CodePoint, point.val < 128 → upperOf point =
    [if 97 ≤ point.val ∧ point.val ≤ 122 then Fin.ofNat 0x110000 (point.val - 32) else point]

/-- `text.upper()`. -/
def Casing.upper (casing : Casing) (text : PyStr) : PyStr := text.flatMap casing.upperOf

/-- `_key`. -/
def Casing.key (casing : Casing) (caseInsensitive : Bool) (value : PyStr) : PyStr :=
  if caseInsensitive then casing.upper value else value

/-! ## Components -/

/-- `RESERVED_WINDOWS_NAMES`. -/
def reservedWindowsNames : List PyStr :=
  ["CON", "PRN", "AUX", "NUL", "COM1", "COM2", "COM3", "COM4", "COM5", "COM6", "COM7", "COM8",
    "COM9", "LPT1", "LPT2", "LPT3", "LPT4", "LPT5", "LPT6", "LPT7", "LPT8", "LPT9"].map PyStr.ofString

def dot : CodePoint := .ofChar '.'

/-- `INVALID_UNICODE_REPLACEMENT`. -/
def replacement : CodePoint := Fin.ofNat 0x110000 0xFFFD

def isControl (point : CodePoint) : Bool := decide (point.val < 32) || decide (point.val = 127)

/-- `text.rstrip(".")`. -/
def stripDots (text : PyStr) : PyStr := (text.reverse.dropWhile fun point => point = dot).reverse

def replaceControls (name : PyStr) : PyStr :=
  name.map fun point => if isControl point then replacement else point

/-- The name without control characters, without blanks around it and without dots behind it. -/
def cleaned (name : PyStr) : PyStr := stripDots (PyStr.strip (replaceControls name))

/-- `text.split(".")[0]`. -/
def baseName (text : PyStr) : PyStr := text.takeWhile fun point => point ≠ dot

def Casing.isReserved (casing : Casing) (name : PyStr) : Bool :=
  decide (baseName (casing.upper name) ∈ reservedWindowsNames)

def unnamed : PyStr := .ofString "unnamed"

def cleanedOrUnnamed (name : PyStr) : PyStr := if cleaned name = [] then unnamed else cleaned name

def sanitizeComponent (casing : Casing) (name : PyStr) : SanitizedComponent :=
  let isReserved := casing.isReserved (cleanedOrUnnamed name)
  let result := if isReserved then .ofChar '_' :: cleanedOrUnnamed name else cleanedOrUnnamed name
  { name := result
    warnings := ((if name.any fun point => decide (point.val < 32) then
        [PyStr.ofString "control_character"] else []) ++
      (if cleaned name = [] then [PyStr.ofString "empty_name"] else []) ++
      (if isReserved then [PyStr.ofString "reserved_name"] else []) ++
      if PyStr.toString? result = none then [PyStr.ofString "invalid_unicode"] else []).eraseDups }

/-! ## Relative paths -/

def isSeparator (point : CodePoint) : Bool :=
  decide (point = .ofChar '/') || decide (point = .ofChar '\\')

/-- The parts of a path. Runs of separators are cut as one in the source; the empty parts between
them are dropped here with those at the ends. -/
def partsOf (displayPath : PyStr) : List PyStr :=
  (displayPath.splitOnP isSeparator).filter fun part => part ≠ [] ∧ part ≠ PyStr.ofString "."

/-- The loop over the parts, with the keys of the components before them. -/
def sanitizeParts (casing : Casing) (caseInsensitive : Bool) :
    List PyStr → List PyStr → List PyStr × List PyStr
  | _, [] => ([], [])
  | seen, part :: parts =>
    if part = PyStr.ofString ".." then
      let (names, warnings) := sanitizeParts casing caseInsensitive seen parts
      (names, .ofString "path_traversal" :: warnings)
    else
      let component := sanitizeComponent casing part
      let key := casing.key caseInsensitive component.name
      let (names, warnings) := sanitizeParts casing caseInsensitive (key :: seen) parts
      (component.name :: names, component.warnings ++
        (if key ∈ seen then [PyStr.ofString "duplicate_component"] else []) ++ warnings)

/-- `len(text.encode("utf-8"))`, unless it raises `UnicodeEncodeError`. -/
def encodedLength (text : PyStr) : Except PyError ℕ := match text.toString? with
  | none => .error .valueError
  | some text => .ok (utf8 text).length

/-- The bytes of a character that can be encoded. -/
def encodedSize (point : CodePoint) : ℕ := (String.utf8EncodeChar (Char.ofNat point.val)).length

/-- The characters whose bytes are among the first ones: what is left of a character that is cut is
ignored. -/
def fitting : ℕ → PyStr → PyStr
  | _, [] => []
  | bytes, point :: text =>
    if encodedSize point ≤ bytes then point :: fitting (bytes - encodedSize point) text else []

/-- `_truncate_to_bytes`, of a text that is too long. -/
def truncateToBytes (value : PyStr) (maxBytes : ℕ) : PyStr :=
  if fitting (maxBytes - 1) value = [] then value.take (maxBytes - 1)
  else fitting (maxBytes - 1) value

/-- `MAX_LOCAL_PATH_BYTES` or `MAX_REMOTE_PATH_BYTES`. -/
def maxPathBytes (destinationKind : PyStr) : ℕ :=
  if destinationKind = PyStr.ofString "local" then 4096 else 1024

def slashPath (names : List PyStr) : PyStr := [CodePoint.ofChar '/'].intercalate names

def safeRelativePath (casing : Casing) (displayPath destinationKind : PyStr)
    (caseInsensitive : Bool) : Except PyError (PyStr × List PyStr) := do
  let (names, warnings) := sanitizeParts casing caseInsensitive [] (partsOf displayPath)
  let relative := slashPath names
  if maxPathBytes destinationKind < (← encodedLength relative) then
    return (truncateToBytes relative (maxPathBytes destinationKind),
      (warnings ++ [PyStr.ofString "long_path_truncated"]).eraseDups)
  else return (relative, warnings.eraseDups)

/-! ## Carved names -/

/-- `text.rsplit(mark, 1)[-1]`. -/
def behindLast (mark : Char) (text : PyStr) : PyStr :=
  (text.reverse.takeWhile fun point => point ≠ .ofChar mark).reverse

/-- `_stem_of`. -/
def stemOf (path : PyStr) : PyStr :=
  let base := behindLast '\\' (behindLast '/' (path.reverse.dropWhile isSeparator).reverse)
  if base = [] then carved else base

/-- `_carved_stem`. -/
def carvedStem (item : ExportItem) : PyStr :=
  stemOf item.sourcePath ++ .ofString "_size_" ++ .ofChars (renderInt item.expectedSize)

/-- `carved_destination_name`, without an extension. -/
def carvedDestinationName (item : ExportItem) : PyStr := .ofString "carved/" ++ carvedStem item

/-! ## Collisions -/

def suffix (counter : ℕ) : PyStr := .ofString "__" ++ .ofChars (Nat.toDigits 10 counter)

/-- The paths that are tried in turn. -/
def candidate (relative : PyStr) : ℕ → PyStr
  | 0 => relative
  | counter + 1 => relative ++ suffix (counter + 1)

variable {point : CodePoint}

theorem isDigit_of_mem_digits {counter : ℕ}
    (isPoint : point ∈ PyStr.ofChars (Nat.toDigits 10 counter)) :
    48 ≤ point.val ∧ point.val ≤ 57 := by
  rcases List.mem_map.mp isPoint with ⟨char, isChar, rfl⟩
  have isDigit : char.isDigit = true := Nat.isDigit_of_mem_toDigits (by decide) (by decide) isChar
  simp only [Char.isDigit, Bool.and_eq_true, decide_eq_true_iff, UInt32.le_iff_toNat_le] at isDigit
  have low : 48 ≤ char.toNat := isDigit.1
  have high : char.toNat ≤ 57 := isDigit.2
  have value : (CodePoint.ofChar char).val = char.toNat := by
    rw [CodePoint.ofChar, Fin.val_ofNat]
    exact Nat.mod_eq_of_lt (by omega)
  omega

theorem mem_suffix {counter : ℕ} (isPoint : point ∈ suffix counter) :
    point.val = 95 ∨ 48 ≤ point.val ∧ point.val ≤ 57 := by
  have isMark : PyStr.ofString "__" = [Fin.ofNat 0x110000 95, Fin.ofNat 0x110000 95] := rfl
  rw [suffix, List.mem_append, isMark] at isPoint
  rcases isPoint with inMark | inDigits
  · simp only [List.mem_cons, List.not_mem_nil, or_false, or_self] at inMark
    rw [inMark]
    exact Or.inl rfl
  · exact Or.inr (isDigit_of_mem_digits inDigits)

theorem suffix_injective : Function.Injective suffix := by
  intro first second same
  have digits :=
    List.map_injective_iff.mpr CodePoint.ofChar_injective (List.append_cancel_left same)
  exact natRepr_injective (by
    rw [Nat.repr_eq_ofList_toDigits, Nat.repr_eq_ofList_toDigits, digits])

namespace Casing

variable (casing : Casing)

theorem upper_append (first second : PyStr) :
    casing.upper (first ++ second) = casing.upper first ++ casing.upper second :=
  List.flatMap_append

theorem upper_suffix (counter : ℕ) : casing.upper (suffix counter) = suffix counter := by
  have kept : ∀ point ∈ suffix counter, casing.upperOf point = [point] := by
    intro point isPoint
    have isSuffix := mem_suffix isPoint
    rw [casing.ascii point (by omega), if_neg (by omega)]
  rw [upper, List.flatMap_congr kept, List.flatMap_singleton']

theorem key_candidate (caseInsensitive : Bool) (relative : PyStr) (counter : ℕ) :
    casing.key caseInsensitive (candidate relative counter) =
      candidate (casing.key caseInsensitive relative) counter := by
  cases caseInsensitive with
  | false => rfl
  | true =>
    cases counter with
    | zero => rfl
    | succ counter =>
      change casing.upper (relative ++ suffix (counter + 1)) = _
      rw [upper_append, upper_suffix]
      rfl

end Casing

theorem candidate_injective (relative : PyStr) : Function.Injective (candidate relative) := by
  have marked (counter : ℕ) : relative ≠ relative ++ suffix (counter + 1) := by
    intro same
    exact List.append_ne_nil_of_left_ne_nil (List.cons_ne_nil _ _) _
      (List.self_eq_append_right.mp same)
  intro first second same
  cases first with
  | zero =>
    cases second with
    | zero => rfl
    | succ second => exact absurd same (marked second)
  | succ first =>
    cases second with
    | zero => exact absurd same.symm (marked first)
    | succ second => exact suffix_injective (List.append_cancel_left same)

theorem key_candidate_injective (casing : Casing) (caseInsensitive : Bool) (relative : PyStr) :
    Function.Injective fun counter => casing.key caseInsensitive (candidate relative counter) := by
  intro first second same
  simp only [Casing.key_candidate] at same
  exact candidate_injective _ same

/-- `_unique`: the loop ends, as different candidates have different keys. -/
def unique (casing : Casing) (relative : PyStr) (used : List PyStr) (caseInsensitive : Bool) :
    PyStr :=
  candidate relative
    (firstFree (fun counter => casing.key caseInsensitive (candidate relative counter))
      (key_candidate_injective casing caseInsensitive relative) used 0
      fun _ lt => absurd lt (Nat.not_lt_zero _))

theorem key_unique_notMem (casing : Casing) (relative : PyStr) (used : List PyStr)
    (caseInsensitive : Bool) :
    casing.key caseInsensitive (unique casing relative used caseInsensitive) ∉ used :=
  firstFree_notMem (key_candidate_injective casing caseInsensitive relative) 0 _

theorem exists_unique_eq_candidate (casing : Casing) (relative : PyStr) (used : List PyStr)
    (caseInsensitive : Bool) :
    ∃ counter, unique casing relative used caseInsensitive = candidate relative counter :=
  ⟨_, rfl⟩

/-! ## The plan -/

/-- The path that an item asks for, with the warnings about its source path. -/
def relativeOf (casing : Casing) (destinationKind : PyStr) (caseInsensitive : Bool)
    (provenance : PyStr) (item : ExportItem) : Except PyError (PyStr × List PyStr) := do
  let (relative, pathWarnings) ← safeRelativePath casing item.sourcePath destinationKind
    caseInsensitive
  if provenance = carved then return (carvedDestinationName item, pathWarnings)
  else return (relative, pathWarnings)

def provenanceFor (provenanceOf : PyStr → Option PyStr) (item : ExportItem) : PyStr :=
  (provenanceOf item.exportItemId).getD allocated

def planOf (item : ExportItem) (provenance final : PyStr) (pathWarnings : List PyStr) :
    PlannedPath where
  exportItemId := item.exportItemId
  sourceDisplayPath := item.sourcePath
  destinationPath := final
  provenance := if provenance ∈ provenanceKinds then provenance else allocated
  warnings := pathWarnings

/-- The loop over the items, with the keys that are used before them. -/
def planItems (casing : Casing) (destinationKind : PyStr) (caseInsensitive : Bool)
    (provenanceOf : PyStr → Option PyStr) :
    List PyStr → List ExportItem → Except PyError (List PlannedPath × List PyStr)
  | _, [] => .ok ([], [])
  | used, item :: items => do
      let provenance := provenanceFor provenanceOf item
      let (relative, pathWarnings) ←
        relativeOf casing destinationKind caseInsensitive provenance item
      let final := unique casing relative used caseInsensitive
      let (plans, warnings) ← planItems casing destinationKind caseInsensitive provenanceOf
        (casing.key caseInsensitive final :: used) items
      return (planOf item provenance final pathWarnings :: plans,
        pathWarnings ++
          (if final ≠ relative then [PyStr.ofString "collision:" ++ relative] else []) ++ warnings)

def planExportPaths (casing : Casing) (items : List ExportItem) (destinationKind : PyStr)
    (caseInsensitive : Bool) (provenanceOf : PyStr → Option PyStr) :
    Except PyError (List PlannedPath × List PyStr) := do
  let (plans, warnings) ← planItems casing destinationKind caseInsensitive provenanceOf [] items
  return (plans, warnings.eraseDups)

/-! ## Distinct paths -/

/-- A text of Unicode, without surrogates. -/
def IsValid (text : PyStr) : Prop := text.toString?.isSome = true

instance (text : PyStr) : Decidable (IsValid text) := inferInstanceAs (Decidable (_ = true))

theorem isValid_iff {text : PyStr} :
    IsValid text ↔ ∀ point ∈ text, point.val < 0xD800 ∨ 0xE000 ≤ point.val := by
  rw [IsValid, PyStr.toString?]
  split
  · rename_i scalar
    simpa using scalar
  · rename_i surrogate
    simpa using surrogate

theorem encodedLength_of_isValid {text : PyStr} (valid : IsValid text) :
    ∃ length, encodedLength text = .ok length := by
  rw [IsValid, Option.isSome_iff_exists] at valid
  rcases valid with ⟨encoded, isEncoded⟩
  exact ⟨_, by rw [encodedLength, isEncoded]⟩

theorem isValid_strip {text : PyStr} (valid : IsValid text) : IsValid (PyStr.strip text) := by
  rw [isValid_iff] at valid ⊢
  intro point isPoint
  rw [PyStr.strip, List.mem_reverse] at isPoint
  have inner := List.mem_reverse.mp ((List.dropWhile_suffix _).subset isPoint)
  exact valid point ((List.dropWhile_suffix _).subset inner)

theorem isValid_stripDots {text : PyStr} (valid : IsValid text) : IsValid (stripDots text) := by
  rw [isValid_iff] at valid ⊢
  intro point isPoint
  rw [stripDots, List.mem_reverse] at isPoint
  exact valid point (List.mem_reverse.mp ((List.dropWhile_suffix _).subset isPoint))

theorem isValid_cleaned {name : PyStr} (valid : IsValid name) : IsValid (cleaned name) := by
  apply isValid_stripDots
  apply isValid_strip
  rw [isValid_iff] at valid ⊢
  intro point isPoint
  rcases List.mem_map.mp isPoint with ⟨original, isOriginal, rfl⟩
  split
  · exact Or.inr (by decide)
  · exact valid original isOriginal

theorem isValid_cons {text : PyStr} (scalar : point.val < 0xD800) (valid : IsValid text) :
    IsValid (point :: text) := by
  rw [isValid_iff] at valid ⊢
  rw [List.forall_mem_cons]
  exact ⟨Or.inl scalar, valid⟩

theorem isValid_sanitizeComponent (casing : Casing) {name : PyStr} (valid : IsValid name) :
    IsValid (sanitizeComponent casing name).name := by
  have validResult : IsValid (cleanedOrUnnamed name) := by
    rw [cleanedOrUnnamed]
    split
    · decide
    · exact isValid_cleaned valid
  rw [sanitizeComponent]
  simp only
  split
  · exact isValid_cons (by decide) validResult
  · exact validResult

theorem isValid_sanitizeParts (casing : Casing) (caseInsensitive : Bool) {parts : List PyStr}
    (valid : ∀ part ∈ parts, IsValid part) (seen : List PyStr) :
    ∀ name ∈ (sanitizeParts casing caseInsensitive seen parts).1, IsValid name := by
  induction parts generalizing seen with
  | nil => simp [sanitizeParts]
  | cons part parts ih =>
    rw [List.forall_mem_cons] at valid
    rw [sanitizeParts]
    split
    · exact ih valid.2 seen
    · rw [List.forall_mem_cons]
      exact ⟨isValid_sanitizeComponent casing valid.1, ih valid.2 _⟩

theorem isValid_slashPath {names : List PyStr} (valid : ∀ name ∈ names, IsValid name) :
    IsValid (slashPath names) := by
  induction names with
  | nil => decide
  | cons name names ih =>
    rw [List.forall_mem_cons] at valid
    cases names with
    | nil =>
      rw [slashPath, List.intercalate_singleton]
      exact valid.1
    | cons next names =>
      have later := ih valid.2
      rw [slashPath, List.intercalate_cons_cons, isValid_iff]
      rw [slashPath, isValid_iff] at later
      have first := isValid_iff.mp valid.1
      intro point isPoint
      rw [List.mem_append, List.mem_append, List.mem_singleton] at isPoint
      rcases isPoint with (inName | rfl) | inLater
      · exact first point inName
      · exact Or.inl (by decide)
      · exact later point inLater

theorem isValid_partsOf {displayPath : PyStr} (valid : IsValid displayPath) :
    ∀ part ∈ partsOf displayPath, IsValid part := by
  intro part isPart
  rw [isValid_iff] at valid ⊢
  exact fun point isPoint => 
    valid point (forall_mem_of_mem_splitOnP (List.mem_filter.mp isPart).1 point isPoint).1

theorem exists_relativeOf (casing : Casing) (destinationKind : PyStr) (caseInsensitive : Bool)
    (provenance : PyStr) {item : ExportItem} (valid : IsValid item.sourcePath) :
    ∃ result, relativeOf casing destinationKind caseInsensitive provenance item = .ok result := by
  have names := isValid_sanitizeParts casing caseInsensitive (isValid_partsOf valid) []
  rcases encodedLength_of_isValid (isValid_slashPath names) with ⟨length, isLength⟩
  rw [relativeOf, safeRelativePath]
  simp only [isLength, bind, Except.bind, pure, Except.pure]
  split_ifs <;> exact ⟨_, rfl⟩

theorem planItems_cons {casing : Casing} {destinationKind : PyStr} {caseInsensitive : Bool}
    {provenanceOf : PyStr → Option PyStr} {used pathWarnings warnings : List PyStr}
    {item : ExportItem}
    {items : List ExportItem} {relative : PyStr} {plans : List PlannedPath}
    (isRelative : relativeOf casing destinationKind caseInsensitive
      (provenanceFor provenanceOf item) item = .ok (relative, pathWarnings))
    (isPlanned : planItems casing destinationKind caseInsensitive provenanceOf
      (casing.key caseInsensitive (unique casing relative used caseInsensitive) :: used) items =
        .ok (plans, warnings)) :
    ∃ allWarnings, planItems casing destinationKind caseInsensitive provenanceOf used
      (item :: items) =
      .ok
        (planOf item (provenanceFor provenanceOf item) (unique casing relative used caseInsensitive)
        pathWarnings :: plans, allWarnings) := by
  rw [planItems]
  simp only [isRelative, bind, Except.bind, isPlanned, pure, Except.pure]
  exact ⟨_, rfl⟩

/-- The loop gives every item a plan with a key that is not used. -/
theorem exists_planItems (casing : Casing) (destinationKind : PyStr) (caseInsensitive : Bool)
    (provenanceOf : PyStr → Option PyStr) {items : List ExportItem}
    (valid : ∀ item ∈ items, IsValid item.sourcePath) (used : List PyStr) :
    ∃ plans warnings,
      planItems casing destinationKind caseInsensitive provenanceOf used items =
        .ok (plans, warnings) ∧
        (plans.map fun plan => (plan.exportItemId, plan.sourceDisplayPath)) =
          (items.map fun item => (item.exportItemId, item.sourcePath)) ∧
        (plans.map fun plan => casing.key caseInsensitive plan.destinationPath).Nodup ∧
        ∀ plan ∈ plans, casing.key caseInsensitive plan.destinationPath ∉ used := by
  induction items generalizing used with
  | nil => exact ⟨[], [], rfl, rfl, List.nodup_nil, by simp⟩
  | cons item items ih =>
    rw [List.forall_mem_cons] at valid
    rcases exists_relativeOf casing destinationKind caseInsensitive
      (provenanceFor provenanceOf item) valid.1 with ⟨⟨relative, pathWarnings⟩, isRelative⟩
    rcases ih valid.2
      (casing.key caseInsensitive (unique casing relative used caseInsensitive) :: used)
      with ⟨plans, warnings, isPlanned, inOrder, distinct, fresh⟩
    rcases planItems_cons isRelative isPlanned with ⟨allWarnings, isResult⟩
    refine ⟨_, allWarnings, isResult, ?_, ?_, ?_⟩
    · rw [List.map_cons, inOrder, List.map_cons, planOf]
    · rw [List.map_cons, List.nodup_cons]
      refine ⟨fun isLater => ?_, distinct⟩
      rcases List.mem_map.mp isLater with ⟨plan, isPlan, same⟩
      exact fresh plan isPlan (same ▸ List.mem_cons_self)
    · rw [List.forall_mem_cons]
      exact ⟨key_unique_notMem casing relative used caseInsensitive, fun plan isPlan isUsed =>
        fresh plan isPlan (List.mem_cons_of_mem _ isUsed)⟩

/-- Planning ends with one plan for each item, in order, and no two of them collide. -/
theorem planExportPaths_distinct (casing : Casing) (items : List ExportItem)
    (destinationKind : PyStr) (caseInsensitive : Bool) (provenanceOf : PyStr → Option PyStr)
    (valid : ∀ item ∈ items, IsValid item.sourcePath) :
    ∃ plans warnings, planExportPaths casing items destinationKind caseInsensitive provenanceOf =
          .ok (plans, warnings) ∧
        (plans.map fun plan => (plan.exportItemId, plan.sourceDisplayPath)) =
          (items.map fun item => (item.exportItemId, item.sourcePath)) ∧
        (plans.map fun plan => casing.key caseInsensitive plan.destinationPath).Nodup := by
  rcases exists_planItems casing destinationKind caseInsensitive provenanceOf valid [] with
    ⟨plans, warnings, isPlanned, inOrder, distinct, _⟩
  refine ⟨plans, warnings.eraseDups, ?_, inOrder, distinct⟩
  rw [planExportPaths, isPlanned]
  rfl

/-- What the interpreter knows about the letters of ASCII. -/
def asciiCasing : Casing where
  upperOf point :=
    [if 97 ≤ point.val ∧ point.val ≤ 122 then Fin.ofNat 0x110000 (point.val - 32) else point]
  ascii _ _ := rfl

def sampleItem (path : PyStr) : ExportItem where
  exportItemId := []
  sourcePath := path
  expectedSize := 0
  expectedSha256 := []

/-- The second item has the name that a collision of the others gives. -/
def collidingItems : List ExportItem :=
  ["a", "A__1", "A"].map fun path => sampleItem (.ofString path)

theorem planExportPaths_distinct_colliding : ∃ plans warnings,
      planExportPaths asciiCasing collidingItems (.ofString "local") true (fun _ => none) =
          .ok (plans, warnings) ∧
        (plans.map fun plan => (plan.exportItemId, plan.sourceDisplayPath)) =
          (collidingItems.map fun item => (item.exportItemId, item.sourcePath)) ∧
        (plans.map fun plan => asciiCasing.key true plan.destinationPath).Nodup :=
  planExportPaths_distinct asciiCasing collidingItems (.ofString "local") true (fun _ => none)
    (by decide)

end Reperio.Worker
