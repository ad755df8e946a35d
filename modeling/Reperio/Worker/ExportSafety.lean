import Mathlib.Data.List.TakeWhile
import Reperio.Worker.ExportPaths

/-!
# Safe export paths

What the steps of the clean-up leave of a hostile name. Every component of a path that
is not cut is clean, also when a number is put behind it (`planExportPaths_clean`). The
plan as a whole promises less: paths of different items are not compared as directories
(`planExportPaths_unsafe`).
-/

namespace Reperio.Worker

open Python Encoding

/-! ## Clean components -/

/-- What the clean-up of a name promises. -/
structure IsClean (casing : Casing) (name : PyStr) : Prop where
  notEmpty : name ≠ []
  noDot : name.getLast? ≠ some dot
  noControl : ∀ point ∈ name, isControl point = false
  noSeparator : .ofChar '/' ∉ name
  notReserved : casing.isReserved name = false

variable {casing : Casing} {point : CodePoint} {destinationKind : PyStr} {caseInsensitive : Bool}

theorem IsClean.ne_dots {name : PyStr} (clean : IsClean casing name) :
    name ≠ PyStr.ofString "." ∧ name ≠ PyStr.ofString ".." := by
  constructor
  · rintro rfl
    exact clean.noDot rfl
  · rintro rfl
    exact clean.noDot rfl

theorem getLast?_stripDots (text : PyStr) : (stripDots text).getLast? ≠ some dot := by
  rw [stripDots, List.getLast?_reverse]
  intro isDot
  have first := List.head?_dropWhile_not (fun point => decide (point = dot)) text.reverse
  rw [isDot] at first
  simp at first

theorem mem_strip {text : PyStr} (isPoint : point ∈ PyStr.strip text) : point ∈ text := by
  rw [PyStr.strip, List.mem_reverse] at isPoint
  have inner := List.mem_reverse.mp ((List.dropWhile_suffix _).subset isPoint)
  exact (List.dropWhile_suffix _).subset inner

theorem mem_stripDots {text : PyStr} (isPoint : point ∈ stripDots text) : point ∈ text := by
  rw [stripDots, List.mem_reverse] at isPoint
  exact List.mem_reverse.mp ((List.dropWhile_suffix _).subset isPoint)

theorem mem_cleaned {name : PyStr} (isPoint : point ∈ cleaned name) :
    isControl point = false ∧ (point = replacement ∨ point ∈ name) := by
  rcases List.mem_map.mp (mem_strip (mem_stripDots isPoint)) with ⟨original, isOriginal, rfl⟩
  split
  · exact ⟨by decide, Or.inl rfl⟩
  · rename_i plain
    exact ⟨Bool.eq_false_iff.mpr plain, Or.inr isOriginal⟩

theorem baseName_append {first second : PyStr} (hasDot : dot ∈ first) :
    baseName (first ++ second) = baseName first := by
  rw [baseName, List.takeWhile_append, if_neg]
  · rfl
  · intro whole
    have all := List.takeWhile_eq_self_iff.mp
      (List.IsPrefix.eq_of_length (List.takeWhile_prefix _) whole)
    exact absurd (all dot hasDot) (by simp)

theorem baseName_append_of_notMem {first : PyStr} (second : PyStr) (noDot : dot ∉ first) :
    baseName (first ++ second) = first ++ baseName second := by
  have all : ∀ point ∈ first, decide (point ≠ dot) = true := by
    rintro point isPoint
    exact decide_eq_true fun isDot => noDot (isDot ▸ isPoint)
  rw [baseName, List.takeWhile_append_of_pos all, baseName]

def underscore : CodePoint := .ofChar '_'

theorem notReserved_of_mem {base : PyStr} (isMark : underscore ∈ base) :
    base ∉ reservedWindowsNames := by
  have unmarked : reservedWindowsNames.all (fun name => decide (underscore ∉ name)) = true := by
    decide
  intro isReserved
  exact of_decide_eq_true (List.all_eq_true.mp unmarked base isReserved) isMark

theorem isReserved_underscore (casing : Casing) (name : PyStr) :
    casing.isReserved (underscore :: name) = false := by
  have mark : casing.upperOf underscore = [underscore] := casing.ascii underscore (by decide)
  have upper : casing.upper (underscore :: name) = underscore :: casing.upper name := by
    rw [Casing.upper, List.flatMap_cons, mark]
    rfl
  rw [Casing.isReserved, upper]
  apply decide_eq_false
  apply notReserved_of_mem
  rw [baseName, List.takeWhile_cons_of_pos (by decide)]
  exact List.mem_cons_self

/-- A cleaned name is clean. -/
theorem isClean_sanitizeComponent (casing : Casing) {name : PyStr}
    (noSeparator : .ofChar '/' ∉ name) : IsClean casing (sanitizeComponent casing name).name := by
  have notEmpty : cleanedOrUnnamed name ≠ [] := by
    rw [cleanedOrUnnamed]
    split
    · decide
    · assumption
  have noDot : (cleanedOrUnnamed name).getLast? ≠ some dot := by
    rw [cleanedOrUnnamed]
    split
    · decide
    · exact getLast?_stripDots _
  have noControl : ∀ point ∈ cleanedOrUnnamed name, isControl point = false := by
    rw [cleanedOrUnnamed]
    split
    · have plain : unnamed.all (fun point => !isControl point) = true := by decide
      simpa using plain
    · exact fun point isPoint => (mem_cleaned isPoint).1
  have noSlash : .ofChar '/' ∉ cleanedOrUnnamed name := by
    rw [cleanedOrUnnamed]
    split
    · decide
    · intro isSlash
      rcases (mem_cleaned isSlash).2 with isReplacement | inName
      · exact absurd isReplacement (by decide)
      · exact noSeparator inName
  rw [sanitizeComponent]
  cases isReserved : casing.isReserved (cleanedOrUnnamed name) with
  | false =>
    simp only [Bool.false_eq_true, if_false]
    exact ⟨notEmpty, noDot, noControl, noSlash, isReserved⟩
  | true =>
    simp only [if_true]
    refine ⟨List.cons_ne_nil _ _, ?_, ?_, ?_, isReserved_underscore casing _⟩
    · rw [List.getLast?_cons_of_ne_nil notEmpty]
      exact noDot
    · rw [List.forall_mem_cons]
      exact ⟨by decide, noControl⟩
    · rw [List.mem_cons, not_or]
      exact ⟨by decide, noSlash⟩

/-- A collision suffix keeps a component clean. -/
theorem IsClean.append_suffix {name : PyStr} (clean : IsClean casing name) (counter : ℕ) :
    IsClean casing (name ++ suffix counter) := by
  have notEmpty : suffix counter ≠ [] := List.append_ne_nil_of_left_ne_nil (List.cons_ne_nil _ _) _
  have values {point : CodePoint} (isPoint : point ∈ suffix counter) : point ≠ dot ∧
      isControl point = false ∧ point ≠ .ofChar '/' := by
    have isSuffix := mem_suffix isPoint
    have dotValue : dot.val = 46 := by decide
    have slashValue : (CodePoint.ofChar '/').val = 47 := by decide
    refine ⟨fun isDot => ?_, ?_, fun isSlash => ?_⟩
    · rw [isDot] at isSuffix
      omega
    · rw [isControl, decide_eq_false (by omega), decide_eq_false (by omega)]
      rfl
    · rw [isSlash] at isSuffix
      omega
  constructor
  · exact List.append_ne_nil_of_left_ne_nil clean.notEmpty _
  · rw [List.getLast?_append_of_ne_nil _ notEmpty]
    intro isDot
    exact (values (List.mem_of_getLast? isDot)).1 rfl
  · intro point isPoint
    rcases List.mem_append.mp isPoint with inName | inSuffix
    · exact clean.noControl point inName
    · exact (values inSuffix).2.1
  · intro isSlash
    rcases List.mem_append.mp isSlash with inName | inSuffix
    · exact clean.noSeparator inName
    · exact (values inSuffix).2.2 rfl
  · have notReserved := of_decide_eq_false clean.notReserved
    rw [Casing.isReserved, casing.upper_append, casing.upper_suffix]
    apply decide_eq_false
    by_cases hasDot : dot ∈ casing.upper name
    · rwa [baseName_append hasDot]
    · rw [baseName_append_of_notMem _ hasDot]
      apply notReserved_of_mem
      apply List.mem_append_right
      rw [suffix, baseName]
      exact (List.mem_cons_self : underscore ∈ underscore :: _)

/-! ## Clean paths -/

theorem noSeparator_of_mem_partsOf {displayPath part : PyStr}
    (isPart : part ∈ partsOf displayPath) : .ofChar '/' ∉ part := by
  intro isSlash
  have unmarked := (forall_mem_of_mem_splitOnP (List.mem_filter.mp isPart).1 _ isSlash).2
  exact absurd unmarked (by decide)

/-- The parts that name something: no steps upwards. -/
def namesOf (displayPath : PyStr) : List PyStr :=
  (partsOf displayPath).filter fun part => part ≠ PyStr.ofString ".."

def sanitizedNames (casing : Casing) (displayPath : PyStr) : List PyStr :=
  (namesOf displayPath).map fun part => (sanitizeComponent casing part).name

theorem fst_sanitizeParts (casing : Casing) (caseInsensitive : Bool) (seen parts : List PyStr) :
    (sanitizeParts casing caseInsensitive seen parts).1 =
      (parts.filter fun part => part ≠ PyStr.ofString "..").map
        fun part => (sanitizeComponent casing part).name := by
  induction parts generalizing seen with
  | nil => rfl
  | cons part parts ih =>
    rw [sanitizeParts]
    split
    · rename_i isUp
      rw [List.filter_cons_of_neg (by simp [isUp])]
      exact ih seen
    · rename_i isName
      rw [List.filter_cons_of_pos (by simpa using isName), List.map_cons]
      exact congrArg _ (ih _)

theorem isClean_sanitizedNames (casing : Casing) (displayPath : PyStr) :
    ∀ name ∈ sanitizedNames casing displayPath, IsClean casing name := by
  intro name isName
  rcases List.mem_map.mp isName with ⟨part, isPart, rfl⟩
  exact isClean_sanitizeComponent casing (noSeparator_of_mem_partsOf (List.mem_filter.mp isPart).1)

theorem splitOn_slashPath {names : List PyStr} (notEmpty : names ≠ [])
    (separated : ∀ name ∈ names, .ofChar '/' ∉ name) : (slashPath names).splitOn (.ofChar '/') =
      names :=
  List.splitOn_intercalate _ separated notEmpty

theorem slashPath_append (names : List PyStr) (last text : PyStr) :
    slashPath (names ++ [last]) ++ text = slashPath (names ++ [last ++ text]) := by
  induction names with
  | nil => rw [List.nil_append, List.nil_append, slashPath, slashPath, List.intercalate_singleton,
      List.intercalate_singleton]
  | cons name names ih =>
    rw [slashPath, slashPath] at ih ⊢
    cases names with
    | nil =>
      rw [List.singleton_append, List.singleton_append, List.intercalate_cons_cons,
        List.intercalate_cons_cons, List.intercalate_singleton, List.intercalate_singleton,
        List.append_assoc]
    | cons next names =>
      rw [List.cons_append, List.cons_append, List.cons_append, List.cons_append,
        List.intercalate_cons_cons, List.intercalate_cons_cons, List.append_assoc]
      exact congrArg _ ih

/-- What holds of the components of a path, and with a number behind them, holds of the components
of the path with a number behind it. -/
theorem forall_mem_splitOn_candidate {Holds : PyStr → Prop}
    (separated : ∀ name, Holds name → .ofChar '/' ∉ name)
    (suffixed : ∀ name counter, Holds name → Holds (name ++ suffix counter)) {names : List PyStr}
    (notEmpty : names ≠ []) (hold : ∀ name ∈ names, Holds name) (counter : ℕ) :
    ∀ component ∈ (candidate (slashPath names) counter).splitOn (.ofChar '/'), Holds component := by
  cases counter with
  | zero =>
    rw [candidate, splitOn_slashPath notEmpty fun name isName => separated name (hold name isName)]
    exact hold
  | succ counter =>
    rcases List.eq_nil_or_concat names with rfl | ⟨others, last, rfl⟩
    · exact absurd rfl notEmpty
    · rw [List.concat_eq_append] at hold ⊢
      have numbered : ∀ name ∈ others ++ [last ++ suffix (counter + 1)], Holds name := by
        intro name isName
        rcases List.mem_append.mp isName with isOther | isLast
        · exact hold name (List.mem_append_left _ isOther)
        · rw [List.mem_singleton.mp isLast]
          exact suffixed last _ (hold last (List.mem_append_right _ (List.mem_singleton_self _)))
      rw [candidate, slashPath_append, splitOn_slashPath (by simp)
        fun name isName => separated name (numbered name isName)]
      exact numbered

/-! ## Blanks at the end -/

def blank : CodePoint := .ofChar ' '

/-- A name whose dots, if it ends in dots, do not hide a blank. -/
def HidesNoBlank (name : PyStr) : Prop := (PyStr.strip (replaceControls name)).getLast? ≠ some dot

theorem getLast?_strip_ne_blank (text : PyStr) : (PyStr.strip text).getLast? ≠ some blank := by
  rw [PyStr.strip, List.getLast?_reverse]
  intro isBlank
  have first :=
    List.head?_dropWhile_not CodePoint.isSpace (text.dropWhile CodePoint.isSpace).reverse
  rw [isBlank] at first
  exact absurd first (by decide)

theorem stripDots_of_getLast? {text : PyStr} (noDot : text.getLast? ≠ some dot) :
    stripDots text = text := by
  rw [stripDots]
  cases reversed : text.reverse with
  | nil => rw [List.dropWhile_nil, List.reverse_nil, ← List.reverse_eq_nil_iff.mp reversed]
  | cons last others =>
    have isLast : text.getLast? = some last := by
      rw [← List.head?_reverse, reversed, List.head?_cons]
    have different : last ≠ dot := fun isDot => noDot (isLast.trans (congrArg some isDot))
    rw [List.dropWhile_cons_of_neg (by simpa using different), ← reversed, List.reverse_reverse]

theorem getLast?_sanitizeComponent (casing : Casing) {name : PyStr}
    (hidesNoBlank : HidesNoBlank name) :
    (sanitizeComponent casing name).name.getLast? ≠ some blank := by
  have result : (cleanedOrUnnamed name).getLast? ≠ some blank := by
    rw [cleanedOrUnnamed]
    split
    · decide
    · rw [cleaned, stripDots_of_getLast? hidesNoBlank]
      exact getLast?_strip_ne_blank _
  rw [sanitizeComponent]
  simp only
  split
  · cases isResult : cleanedOrUnnamed name with
    | nil => decide
    | cons point text =>
      rw [List.getLast?_cons_cons, ← isResult]
      exact result
  · exact result

theorem getLast?_append_suffix (name : PyStr) (counter : ℕ) :
    (name ++ suffix counter).getLast? ≠ some blank := by
  have notEmpty : suffix counter ≠ [] := List.append_ne_nil_of_left_ne_nil (List.cons_ne_nil _ _) _
  rw [List.getLast?_append_of_ne_nil _ notEmpty]
  intro isBlank
  have isSuffix := mem_suffix (List.mem_of_getLast? isBlank)
  have value : blank.val = 32 := by decide
  omega

/-! ## Lengths -/

/-- The bytes of a text that can be encoded. -/
def byteLength (text : PyStr) : ℕ := (text.map encodedSize).sum

theorem encodedLength_eq {text : PyStr} {length : ℕ} (encoded : encodedLength text = .ok length) :
    byteLength text = length := by
  rw [encodedLength, PyStr.toString?] at encoded
  split at encoded
  · cases encoded
  · rename_i result isText
    split at isText
    · cases isText
      cases encoded
      rw [utf8, String.toList_ofList, List.length_flatMap, List.map_map, byteLength]
      rfl
    · cases isText

theorem byteLength_fitting_le (bytes : ℕ) (text : PyStr) :
    byteLength (fitting bytes text) ≤ bytes := by
  induction text generalizing bytes with
  | nil => exact Nat.zero_le _
  | cons point text ih =>
    rw [fitting]
    split
    · rename_i fits
      have rest := ih (bytes - encodedSize point)
      rw [byteLength, List.map_cons, List.sum_cons]
      rw [byteLength] at rest
      omega
    · exact Nat.zero_le _

theorem encodedSize_le (point : CodePoint) : encodedSize point ≤ 4 := by
  rw [encodedSize, String.length_utf8EncodeChar]
  exact Char.utf8Size_le_four _

theorem byteLength_truncateToBytes_le {value : PyStr} {maxBytes : ℕ} (large : 5 ≤ maxBytes) :
    byteLength (truncateToBytes value maxBytes) ≤ maxBytes := by
  rw [truncateToBytes]
  split
  · rename_i nothing
    cases value with
    | nil =>
      rw [List.take_nil]
      exact Nat.zero_le _
    | cons point text =>
      have fits : encodedSize point ≤ maxBytes - 1 := (encodedSize_le point).trans (by omega)
      rw [fitting, if_pos fits] at nothing
      cases nothing
  · exact (byteLength_fitting_le _ _).trans (Nat.sub_le _ _)

theorem le_maxPathBytes (destinationKind : PyStr) : 5 ≤ maxPathBytes destinationKind := by
  rw [maxPathBytes]
  split <;> decide

/-- A path is within the limit of the destination, and only cut when it would not be. -/
theorem safeRelativePath_eq {displayPath relative : PyStr} {warnings : List PyStr}
    (isRelative : safeRelativePath casing displayPath destinationKind caseInsensitive =
      .ok (relative, warnings)) :
    byteLength relative ≤ maxPathBytes destinationKind ∧
      (byteLength (slashPath (sanitizedNames casing displayPath)) ≤ maxPathBytes destinationKind →
        relative = slashPath (sanitizedNames casing displayPath)) := by
  rw [safeRelativePath] at isRelative
  rcases bind_eq_ok isRelative with ⟨length, isLength, isRelative⟩
  have names := fst_sanitizeParts casing caseInsensitive [] (partsOf displayPath)
  have lengths := encodedLength_eq isLength
  rw [names] at isRelative lengths
  change byteLength (slashPath (sanitizedNames casing displayPath)) = length at lengths
  split at isRelative
  · rename_i long
    cases isRelative
    refine ⟨byteLength_truncateToBytes_le (le_maxPathBytes destinationKind), fun fits => ?_⟩
    omega
  · rename_i short
    cases isRelative
    exact ⟨by change byteLength (slashPath (sanitizedNames casing displayPath)) ≤ _; omega,
      fun _ => rfl⟩

/-! ## Clean plans -/

/-- What is promised of the destination of an item. -/
structure CleanPath (casing : Casing) (destinationKind source destination : PyStr) : Prop where
  bounded : ∃ relative counter, destination = candidate relative counter ∧
    byteLength relative ≤ maxPathBytes destinationKind
  clean : namesOf source ≠ [] →
    byteLength (slashPath (sanitizedNames casing source)) ≤ maxPathBytes destinationKind →
      destination.head? ≠ some (.ofChar '/') ∧
      (∀ component ∈ destination.splitOn (.ofChar '/'), IsClean casing component ∧
        component ≠ PyStr.ofString "." ∧ component ≠ PyStr.ofString "..") ∧
      ((∀ name ∈ namesOf source, HidesNoBlank name) →
        ∀ component ∈ destination.splitOn (.ofChar '/'), component.getLast? ≠ some blank)

theorem cleanPath_candidate {source relative : PyStr} {warnings : List PyStr}
    (isRelative : safeRelativePath casing source destinationKind caseInsensitive =
      .ok (relative, warnings)) (counter : ℕ) :
    CleanPath casing destinationKind source (candidate relative counter) := by
  rcases safeRelativePath_eq isRelative with ⟨bounded, uncut⟩
  refine ⟨⟨relative, counter, rfl, bounded⟩, fun hasName fits => ?_⟩
  rw [uncut fits]
  have notEmpty : sanitizedNames casing source ≠ [] := mt List.map_eq_nil_iff.mp hasName
  have clean := forall_mem_splitOn_candidate (fun _ clean => IsClean.noSeparator clean)
    (fun _ counter clean => IsClean.append_suffix clean counter) notEmpty
    (isClean_sanitizedNames casing source) counter
  refine ⟨?_, fun component isComponent => ⟨clean component isComponent,
    (clean component isComponent).ne_dots⟩, fun hidesNoBlank => ?_⟩
  · intro isRoot
    cases isPath : candidate (slashPath (sanitizedNames casing source)) counter with
    | nil =>
      rw [isPath] at isRoot
      cases isRoot
    | cons point path =>
      rw [isPath, List.head?_cons, Option.some.injEq] at isRoot
      rw [isPath, isRoot, List.splitOn_cons_eq_if_modifyHead, if_pos (beq_self_eq_true _)] at clean
      exact (clean [] List.mem_cons_self).notEmpty rfl
  · have solid : ∀ component ∈
        (candidate (slashPath (sanitizedNames casing source)) counter).splitOn (.ofChar '/'),
        IsClean casing component ∧ component.getLast? ≠ some blank := forall_mem_splitOn_candidate
      (fun _ both => both.1.noSeparator)
      (fun name counter both => ⟨both.1.append_suffix counter, getLast?_append_suffix name counter⟩)
      notEmpty (fun name isName => ⟨isClean_sanitizedNames casing source name isName, by
        rcases List.mem_map.mp isName with ⟨part, isPart, rfl⟩
        exact getLast?_sanitizeComponent casing (hidesNoBlank part isPart)⟩) counter
    exact fun component isComponent => (solid component isComponent).2

theorem exists_planItems_clean (casing : Casing) (destinationKind : PyStr) (caseInsensitive : Bool)
    (provenanceOf : PyStr → Option PyStr) {items : List ExportItem}
    (valid : ∀ item ∈ items, IsValid item.sourcePath) (used : List PyStr) :
    ∃ plans warnings,
      planItems casing destinationKind caseInsensitive provenanceOf used items =
        .ok (plans, warnings) ∧
        List.Forall₂ (fun item plan => provenanceFor provenanceOf item ≠ carved →
          CleanPath casing destinationKind item.sourcePath plan.destinationPath) items plans := by
  induction items generalizing used with
  | nil => exact ⟨[], [], rfl, .nil⟩
  | cons item items ih =>
    rw [List.forall_mem_cons] at valid
    rcases exists_relativeOf casing destinationKind caseInsensitive
      (provenanceFor provenanceOf item) valid.1 with ⟨⟨relative, pathWarnings⟩, isRelative⟩
    rcases ih valid.2
      (casing.key caseInsensitive (unique casing relative used caseInsensitive) :: used)
      with ⟨plans, warnings, isPlanned, clean⟩
    rcases planItems_cons isRelative isPlanned with ⟨allWarnings, isResult⟩
    refine ⟨_, allWarnings, isResult, .cons (fun notCarved => ?_) clean⟩
    rw [relativeOf] at isRelative
    rcases bind_eq_ok isRelative with ⟨⟨path, others⟩, isPath, isRelative⟩
    simp only [if_neg notCarved] at isRelative
    cases isRelative
    rcases exists_unique_eq_candidate casing relative used caseInsensitive with ⟨counter, isFinal⟩
    rw [planOf, isFinal]
    exact cleanPath_candidate isPath counter

/-- Planning does not raise, and the path of an item that is not carved is within the limit of the
destination but for a collision suffix. When it need not be cut and the source path names anything,
it is relative and its components are clean. -/
theorem planExportPaths_clean (casing : Casing) (items : List ExportItem) (destinationKind : PyStr)
    (caseInsensitive : Bool) (provenanceOf : PyStr → Option PyStr)
    (valid : ∀ item ∈ items, IsValid item.sourcePath) :
    ∃ plans warnings, planExportPaths casing items destinationKind caseInsensitive provenanceOf =
          .ok (plans, warnings) ∧
        List.Forall₂ (fun item plan => provenanceFor provenanceOf item ≠ carved →
          CleanPath casing destinationKind item.sourcePath plan.destinationPath) items plans := by
  rcases exists_planItems_clean casing destinationKind caseInsensitive provenanceOf valid [] with
    ⟨plans, warnings, isPlanned, clean⟩
  refine ⟨plans, warnings.eraseDups, ?_, clean⟩
  rw [planExportPaths, isPlanned]
  rfl

def hostileItems : List ExportItem :=
  ["a ./b", "..", "a"].map fun path => sampleItem (.ofString path)

theorem planExportPaths_clean_hostile : ∃ plans warnings,
      planExportPaths asciiCasing hostileItems (.ofString "local") false (fun _ => none) =
          .ok (plans, warnings) ∧
        List.Forall₂ (fun item plan => provenanceFor (fun _ => none) item ≠ carved →
          CleanPath asciiCasing (.ofString "local") item.sourcePath plan.destinationPath)
          hostileItems plans :=
  planExportPaths_clean asciiCasing hostileItems (.ofString "local") false (fun _ => none)
    (by decide)

/-! ## What is not promised -/

/-- A path that is safe on every destination. Control characters are those of the category `Cc`. -/
def SafePath (casing : Casing) (destinationKind path : PyStr) : Prop :=
  path ≠ [] ∧ path.head? ≠ some (.ofChar '/') ∧ byteLength path ≤ maxPathBytes destinationKind ∧
    ∀ component ∈ path.splitOn (.ofChar '/'), component ≠ [] ∧ component ≠ PyStr.ofString "." ∧
      component ≠ PyStr.ofString ".." ∧
      (∀ point ∈ component, ¬(point.val < 32 ∨ 127 ≤ point.val ∧ point.val < 160)) ∧
      component.getLast? ≠ some dot ∧ component.getLast? ≠ some blank ∧
      casing.isReserved component = false ∧ byteLength component ≤ 255

def SafePlans (casing : Casing) (destinationKind : PyStr)
    (result : Except PyError (List PlannedPath × List PyStr)) : Prop :=
  ∃ plans warnings, result = .ok (plans, warnings) ∧
    (∀ plan ∈ plans, SafePath casing destinationKind plan.destinationPath) ∧
    ∀ first ∈ plans, ∀ second ∈ plans,
      ¬first.destinationPath ++ [.ofChar '/'] <+: second.destinationPath

/-- The destinations that are planned for local copies of some paths. -/
def destinationsOf (provenance : PyStr) (paths : List PyStr) : Option (List PyStr) :=
  (planExportPaths asciiCasing (paths.map sampleItem) (.ofString "local") false
    fun _ => some provenance).toOption.map fun result => result.1.map (·.destinationPath)

/-- A character of four bytes. -/
def wide : CodePoint := Fin.ofNat 0x110000 0x10000

/-- What is planned for hostile paths: one below a file, one that leads nowhere, one whose dots hide
a blank, one with a control character beyond ASCII, one of 256 bytes, one that cannot be encoded,
and one of a carved file. -/
theorem planExportPaths_unsafe :
    (¬∀ (casing : Casing) (items : List ExportItem) (destinationKind : PyStr)
      (caseInsensitive : Bool)
      (provenanceOf : PyStr → Option PyStr), SafePlans casing destinationKind
        (planExportPaths casing items destinationKind caseInsensitive provenanceOf)) ∧
    destinationsOf allocated [.ofString "a", .ofString "a/b"] =
      some [.ofString "a", .ofString "a/b"] ∧
    destinationsOf allocated [.ofString ".."] = some [[]] ∧
    destinationsOf allocated [.ofString "a ."] = some [.ofString "a "] ∧
    destinationsOf allocated [[Fin.ofNat 0x110000 0x80]] = some [[Fin.ofNat 0x110000 0x80]] ∧
    destinationsOf allocated [List.replicate 64 wide] = some [List.replicate 64 wide] ∧
    destinationsOf allocated [[Fin.ofNat 0x110000 0xD800]] = none ∧
    destinationsOf carved [.ofString "\n"] = some [.ofString "carved/\n_size_0"] := by
  refine ⟨fun safe => ?_, by decide +kernel, by decide +kernel, by decide +kernel,
    by decide +kernel, by decide +kernel, by decide +kernel, by decide +kernel⟩
  rcases safe asciiCasing (["a", "a/b"].map fun path => sampleItem (.ofString path))
    (.ofString "local")
    false (fun _ => some allocated) with ⟨plans, warnings, isPlanned, _, separate⟩
  have destinations : (planExportPaths asciiCasing (["a", "a/b"].map fun path =>
      sampleItem (.ofString path)) (.ofString "local") false fun _ => some allocated).toOption.map
        (fun result => result.1.map (·.destinationPath)) =
          some [.ofString "a", .ofString "a/b"] := by
    decide +kernel
  rw [isPlanned] at destinations
  have paths : plans.map (·.destinationPath) = [.ofString "a", .ofString "a/b"] :=
    Option.some.inj destinations
  have isFile : PyStr.ofString "a" ∈ plans.map (·.destinationPath) := paths ▸ List.mem_cons_self
  have isBelow : PyStr.ofString "a/b" ∈ plans.map (·.destinationPath) :=
    paths ▸ List.mem_cons_of_mem _ List.mem_cons_self
  rcases List.mem_map.mp isFile with ⟨file, fileMember, fileName⟩
  rcases List.mem_map.mp isBelow with ⟨below, belowMember, belowName⟩
  apply separate file fileMember below belowMember
  rw [fileName, belowName]
  decide

end Reperio.Worker
