import Reperio.Scanner.FilesystemEnumeration

/-!
# Listings of entries

What `fls -r -p` prints, as the tool documents it, against what
`scanner/filesystem_enumeration.py` reads of it. The regular expression takes the type in
the metadata for a mark of allocation and knows neither the star nor `(realloc)`, so a
listing is read as printed only under narrow conditions (`readsEntries_iff`).
-/

namespace Reperio.Scanner.SleuthKit

open Python Photorec

/-! ## What is printed -/

/-- The type that `fls` prints for a name. -/
inductive NameType where
  | directory
  | regular
  | symlink
  | virtual
  | virtualDirectory
  | undefined
  deriving DecidableEq

def NameType.char : NameType → CodePoint
  | directory => .ofChar 'd'
  | regular => .ofChar 'r'
  | symlink => .ofChar 'l'
  | virtual => .ofChar 'v'
  | virtualDirectory => .ofChar 'V'
  | undefined => .ofChar '-'

/-- An entry as the tool knows it: its type by the name and by the metadata, and its address with
the numbers of an attribute. -/
structure ListedEntry where
  nameType : NameType
  metaType : NameType
  deleted : Bool
  address : ℕ
  attributes : List ℕ
  realloc : Bool
  path : PyStr
  deriving DecidableEq

def ListedEntry.addressText (entry : ListedEntry) : PyStr :=
  [CodePoint.ofChar '-'].intercalate ((entry.address :: entry.attributes).map decimal)

/-- What is printed before the colon. -/
def ListedEntry.head (entry : ListedEntry) : PyStr :=
  [entry.nameType.char, slash, entry.metaType.char, .ofChar ' '] ++
    ((if entry.deleted then [.ofChar '*', .ofChar ' '] else []) ++
      (entry.addressText ++ if entry.realloc then PyStr.ofString "(realloc)" else []))

/-- `<t>/<t> [* ]<addr>[(realloc)]:<TAB><path>`. -/
def ListedEntry.print (entry : ListedEntry) : PyStr :=
  entry.head ++ .ofChar ':' :: .ofChar '\t' :: entry.path

def entryListing (entries : List ListedEntry) : PyStr :=
  entries.flatMap fun entry => entry.print ++ [.ofChar '\n']

/-- One entry is returned for each that is printed, in order, with its address, its path and whether
it is allocated, without a warning of lines that are not read. -/
def ReadsEntries (entries : List ListedEntry)
    (result : Except ToolError (List FilesystemEntry × List PyStr)) : Prop :=
  ∃ returned, result = .ok returned ∧
    (returned.1.map fun entry => (entry.objectId, entry.path, entry.allocated)) =
      (entries.map fun entry => (entry.addressText, entry.path, !entry.deleted)) ∧
    unparsedLine ∉ returned.2 ∧ batchTruncated ∉ returned.2

/-! ## Addresses -/

theorem isDecimal_ascii : ∀ digit : Fin 10, isDecimal (Fin.ofNat 0x110000 (48 + digit)) = true := by
  decide

theorem isDecimal_digit {char : Char} (isDigit : char.isDigit = true) :
    isDecimal (.ofChar char) = true := by
  simp only [Char.isDigit, Bool.and_eq_true, decide_eq_true_iff, UInt32.le_iff_toNat_le] at isDigit
  have low : 48 ≤ char.toNat := isDigit.1
  have high : char.toNat ≤ 57 := isDigit.2
  have ascii := isDecimal_ascii ⟨char.toNat - 48, by omega⟩
  rwa [show 48 + (char.toNat - 48) = char.toNat by omega] at ascii

variable {point : CodePoint} {limit : ℕ} {entries : List ListedEntry}

theorem isDecimal_of_mem_decimal {number : ℕ} (isPoint : point ∈ decimal number) :
    isDecimal point = true := by
  rcases List.mem_map.mp isPoint with ⟨char, isChar, rfl⟩
  exact isDecimal_digit (Nat.isDigit_of_mem_toDigits (by decide) (by decide) isChar)

theorem decimal_ne_nil (number : ℕ) : decimal number ≠ [] := by
  rw [decimal, PyStr.ofChars, Ne, List.map_eq_nil_iff]
  exact Nat.toDigits_ne_nil

theorem not_isDecimal_dash : isDecimal (.ofChar '-') = false := by decide

theorem splitOn_addressText (entry : ListedEntry) :
    entry.addressText.splitOn (.ofChar '-') = (entry.address :: entry.attributes).map decimal := by
  apply List.splitOn_intercalate
  · intro text isText isDash
    rcases List.mem_map.mp isText with ⟨number, _, rfl⟩
    exact absurd (isDecimal_of_mem_decimal isDash) (by rw [not_isDecimal_dash]; decide)
  · exact List.cons_ne_nil _ _

theorem isAddress_addressText (entry : ListedEntry) : isAddress entry.addressText = true := by
  rw [isAddress, splitOn_addressText, List.all_eq_true]
  intro text isText
  rcases List.mem_map.mp isText with ⟨number, _, rfl⟩
  rw [Bool.and_eq_true, decide_eq_true_iff, List.all_eq_true]
  exact ⟨decimal_ne_nil number, fun point => isDecimal_of_mem_decimal⟩

theorem isAddressChar_of_mem_intercalate {numbers : List ℕ}
    (isPoint : point ∈ [CodePoint.ofChar '-'].intercalate (numbers.map decimal)) :
    isAddressChar point = true := by
  have inPieces : ∀ piece ∈ numbers.map decimal, ∀ point ∈ piece, isAddressChar point = true := by
    rw [List.forall_mem_map]
    intro number _ point isDigit
    rw [isAddressChar, isDecimal_of_mem_decimal isDigit, Bool.true_or]
  exact forall_mem_intercalate (by decide) inPieces point isPoint

theorem exists_addressText (entry : ListedEntry) :
    ∃ first text, entry.addressText = first :: text ∧ isDecimal first = true := by
  cases first : decimal entry.address with
  | nil => exact absurd first (decimal_ne_nil _)
  | cons point text =>
    have isFirst : point ∈ decimal entry.address := first ▸ List.mem_cons_self
    have isDigit : isDecimal point = true := isDecimal_of_mem_decimal isFirst
    cases attributes : entry.attributes with
    | nil =>
      rw [ListedEntry.addressText, attributes, List.map_singleton, List.intercalate_singleton]
      exact ⟨point, text, first, isDigit⟩
    | cons number numbers =>
      rw [ListedEntry.addressText, attributes, List.map_cons, List.map_cons,
        List.intercalate_cons_cons, first, List.cons_append, List.cons_append]
      exact ⟨point, _, rfl, isDigit⟩

theorem isSpace_decimal : ∀ start ∈ decimalZeros, ∀ digit : Fin 10,
    CodePoint.isSpace (Fin.ofNat 0x110000 (start + digit)) = false := by
  decide

theorem isSpace_of_isDecimal (isDigit : isDecimal point = true) : point.isSpace = false := by
  rw [isDecimal, decimal?, Option.isSome_map, List.find?_isSome] at isDigit
  rcases isDigit with ⟨start, isStart, within⟩
  rw [decide_eq_true_iff] at within
  have solid := isSpace_decimal start isStart ⟨point.val - start, by omega⟩
  rwa [show start + (point.val - start) = point.val by omega, Fin.ofNat_val_eq_self] at solid

/-! ## What is read of an entry -/

/-- All that is printed before the address is what the expression takes for an allocated entry, and
nothing is printed behind it. -/
def ListedEntry.isPlain (entry : ListedEntry) : Bool :=
  decide (entry.nameType ≠ .virtualDirectory) && decide (entry.metaType = .undefined) &&
    !entry.deleted && !entry.realloc

theorem isOneOf_nameType (nameType : NameType) :
    Hostd.isOneOf "drlv-" nameType.char = decide (nameType ≠ .virtualDirectory) := by
  cases nameType <;> decide

theorem isOneOf_metaType (metaType : NameType) :
    Hostd.isOneOf "*-" metaType.char = decide (metaType = .undefined) := by
  cases metaType <;> decide

theorem isAddressChar_addressText (entry : ListedEntry) :
    ∀ point ∈ entry.addressText, isAddressChar point = true :=
  fun _ isPoint => isAddressChar_of_mem_intercalate isPoint

theorem takeWhile_addressText (entry : ListedEntry) {stop : CodePoint} (rest : PyStr)
    (stops : isAddressChar stop = false) :
    (entry.addressText ++ stop :: rest).takeWhile isAddressChar = entry.addressText := by
  rw [List.takeWhile_append_of_pos (isAddressChar_addressText entry),
    List.takeWhile_cons_of_neg (by rw [stops]; decide), List.append_nil]

theorem dropWhile_addressText (entry : ListedEntry) {stop : CodePoint} (rest : PyStr)
    (stops : isAddressChar stop = false) :
    (entry.addressText ++ stop :: rest).dropWhile isAddressChar = stop :: rest := by
  rw [List.dropWhile_append_of_pos (isAddressChar_addressText entry),
    List.dropWhile_cons_of_neg (by rw [stops]; decide)]

theorem lstrip_addressText (entry : ListedEntry) (rest : PyStr) :
    (entry.addressText ++ rest).dropWhile CodePoint.isSpace = entry.addressText ++ rest := by
  rcases exists_addressText entry with ⟨first, text, isText, isDigit⟩
  rw [isText, List.cons_append,
    List.dropWhile_cons_of_neg (by rw [isSpace_of_isDecimal isDigit]; decide)]

/-- A printed line is read if and only if it has no mark that the expression does not know. -/
theorem flsLine?_head (entry : ListedEntry) (rest : PyStr) :
    flsLine? (entry.head ++ .ofChar ':' :: rest) = if entry.isPlain then
        some {
          kind := entry.nameType.char, alloc := .ofChar '-', objectId := entry.addressText
          name := rest.dropWhile CodePoint.isSpace }
      else none := by
  rw [ListedEntry.head, List.append_assoc]
  simp only [List.cons_append, List.nil_append]
  rw [flsLine?, isOneOf_nameType, isOneOf_metaType, ListedEntry.isPlain]
  by_cases isName : entry.nameType ≠ .virtualDirectory
  · by_cases isMeta : entry.metaType = .undefined
    · have isHead :
        (decide (entry.nameType ≠ .virtualDirectory) && decide (slash = CodePoint.ofChar '/') &&
          decide (entry.metaType = .undefined) && CodePoint.isSpace (.ofChar ' ')) = true := by
        rw [decide_eq_true isName, decide_eq_true isMeta]
        decide
      rw [if_pos isHead, decide_eq_true isName, decide_eq_true isMeta]
      cases entry.deleted with
      | true => rfl
      | false =>
        simp only [Bool.false_eq_true, if_false, List.nil_append, List.append_assoc,
          lstrip_addressText]
        cases entry.realloc with
        | true =>
          have isText : PyStr.ofString "(realloc)" ++ CodePoint.ofChar ':' :: rest =
              CodePoint.ofChar '(' :: (PyStr.ofString "realloc)" ++ .ofChar ':' :: rest) := rfl
          simp only [if_true]
          rw [isText, dropWhile_addressText entry _ (by decide)]
          rw [List.dropWhile_cons_of_neg (by decide)]
          simp only [Bool.and_eq_true, decide_eq_true_iff]
          rw [if_neg (fun both => absurd both.2 (by decide)), if_neg (by decide)]
        | false =>
          simp only [Bool.false_eq_true, if_false, List.nil_append]
          rw [takeWhile_addressText entry _ (by decide), dropWhile_addressText entry _ (by decide),
            List.dropWhile_cons_of_neg (by decide)]
          simp only [isAddress_addressText]
          rw [if_pos (by decide), if_pos (by decide), isMeta]
          rfl
    · simp [isMeta]
  · simp [isName]

/-! ## Paths -/

theorem isSpace_slashed (point : CodePoint) :
    CodePoint.isSpace (if point = .ofChar '\\' then slash else point) = point.isSpace := by
  split
  · rename_i isBackslash
    rw [isBackslash]
    decide
  · rfl

theorem isLineBreak_slashed (point : CodePoint) :
    isLineBreak (if point = .ofChar '\\' then slash else point) = isLineBreak point := by
  split
  · rename_i isBackslash
    rw [isBackslash]
    decide
  · rfl

theorem strip_map {change : CodePoint → CodePoint}
    (keeps : ∀ point, (change point).isSpace = point.isSpace) (text : PyStr) :
    PyStr.strip (text.map change) = (PyStr.strip text).map change := by
  have kept : CodePoint.isSpace ∘ change = CodePoint.isSpace := funext keeps
  rw [PyStr.strip, PyStr.strip, List.dropWhile_map, kept, ← List.map_reverse, List.dropWhile_map,
    kept, List.map_reverse]

/-- A path is normalised without the blanks around it. -/
theorem normalizePath_congr {first second : PyStr} (same : PyStr.strip first = PyStr.strip second) :
    normalizePath first = normalizePath second := by
  rw [normalizePath, normalizePath, strip_map isSpace_slashed, strip_map isSpace_slashed, same]

theorem mem_of_mem_stripWhile {kind : CodePoint → Bool} {text : PyStr}
    (isPoint : point ∈ stripWhile kind text) : point ∈ text := by
  rw [stripWhile, List.mem_reverse] at isPoint
  have inner := (List.dropWhile_suffix kind).subset isPoint
  exact (List.dropWhile_suffix kind).subset (List.mem_reverse.mp inner)

theorem unbroken_normalizePath {path : PyStr}
    (unbroken : ∀ point ∈ path, isLineBreak point = false) :
    ∀ point ∈ normalizePath path, isLineBreak point = false := by
  intro point isPoint
  rw [normalizePath] at isPoint
  split at isPoint
  · have isDot : PyStr.ofString "." = [CodePoint.ofChar '.'] := rfl
    rw [isDot, List.mem_singleton] at isPoint
    rw [isPoint]
    decide
  · have inStripped : point ∈ stripWhile CodePoint.isSpace
        (path.map fun point => if point = .ofChar '\\' then slash else point) :=
      mem_of_mem_stripWhile isPoint
    rcases List.mem_map.mp (mem_of_mem_stripWhile inStripped) with ⟨original, isOriginal, rfl⟩
    rw [isLineBreak_slashed]
    exact unbroken original isOriginal

/-! ## Lines of an entry -/

def notBreak (point : CodePoint) : Bool := !isLineBreak point

theorem unbroken_of_all {text : PyStr} (unbroken : text.all notBreak = true) :
    ∀ point ∈ text, isLineBreak point = false := by
  intro point isPoint
  simpa [notBreak] using List.all_eq_true.mp unbroken point isPoint

/-- The conditions under which an entry is read as it is printed. -/
def ListedEntry.Readable (entry : ListedEntry) : Prop :=
  entry.isPlain = true ∧ (∀ point ∈ entry.path, isLineBreak point = false) ∧
    normalizePath entry.path = entry.path

/-- The line that the name of an entry stands on: a break in its path ends it. -/
def ListedEntry.firstLine (entry : ListedEntry) : PyStr :=
  entry.head ++ .ofChar ':' :: .ofChar '\t' :: entry.path.takeWhile notBreak

theorem isSpace_of_isLineBreak (broken : isLineBreak point = true) : point.isSpace = true := by
  have subset : [10, 11, 12, 13, 28, 29, 30, 133, 8232, 8233] ⊆ [9, 10, 11, 12, 13, 28, 29, 30, 31,
      32, 133, 160, 5760, 8232, 8233, 8239, 8287, 12288] := by decide
  rw [isLineBreak, decide_eq_true_iff] at broken
  rw [CodePoint.isSpace, decide_eq_true (subset broken), Bool.true_or]

theorem unbroken_of_solid (solid : point.isSpace = false) : isLineBreak point = false := by
  cases broken : isLineBreak point with
  | false => rfl
  | true => exact absurd (isSpace_of_isLineBreak broken) (by rw [solid]; decide)

theorem isSpace_nameType (nameType : NameType) : nameType.char.isSpace = false := by
  cases nameType <;> decide

theorem unbroken_addressText (entry : ListedEntry) :
    ∀ point ∈ entry.addressText, isLineBreak point = false := by
  intro point isPoint
  have isChar := isAddressChar_addressText entry point isPoint
  rw [isAddressChar, Bool.or_eq_true, decide_eq_true_iff] at isChar
  rcases isChar with isDigit | rfl
  · exact unbroken_of_solid (isSpace_of_isDecimal isDigit)
  · decide

theorem unbroken_head (entry : ListedEntry) : ∀ point ∈ entry.head, isLineBreak point = false := by
  intro point isPoint
  have constant := unbroken_of_all
    (by decide : ([CodePoint.ofChar '*', .ofChar ' '] ++ PyStr.ofString "(realloc)").all
      notBreak = true)
  rw [ListedEntry.head, List.mem_append, List.mem_append, List.mem_append] at isPoint
  rcases isPoint with isStart | isMark | isAddress | isRealloc
  · simp only [List.mem_cons, List.not_mem_nil, or_false] at isStart
    rcases isStart with rfl | rfl | rfl | rfl
    · exact unbroken_of_solid (isSpace_nameType _)
    · decide
    · exact unbroken_of_solid (isSpace_nameType _)
    · decide
  · split at isMark
    · exact constant point (List.mem_append_left _ isMark)
    · cases isMark
  · exact unbroken_addressText entry point isAddress
  · split at isRealloc
    · exact constant point (List.mem_append_right _ isRealloc)
    · cases isRealloc

theorem exists_splitLines_print (entry : ListedEntry) :
    ∃ lines, splitLines (entry.print ++ [.ofChar '\n']) = entry.firstLine :: lines := by
  rcases exists_splitLines_newline entry.print with ⟨lines, split⟩
  refine ⟨lines, ?_⟩
  have unbroken : ∀ point ∈ entry.head, (!isLineBreak point) = true := by
    intro point isPoint
    rw [unbroken_head entry point isPoint]
    rfl
  rw [split, ListedEntry.print, List.takeWhile_append_of_pos unbroken,
    List.takeWhile_cons_of_pos (by decide), List.takeWhile_cons_of_pos (by decide)]
  rfl

theorem strip_firstLine (entry : ListedEntry) :
    PyStr.strip entry.firstLine = entry.head ++ .ofChar ':' ::
      ((CodePoint.ofChar '\t' :: entry.path.takeWhile notBreak).reverse.dropWhile
        CodePoint.isSpace).reverse := by
  have solid : CodePoint.isSpace (.ofChar ':') = false := by decide
  apply strip_append_of_not_isSpace solid
  rw [ListedEntry.head]
  simp [isSpace_nameType]

/-- What the loop uses of a line that is read. -/
def FlsMatch.view (found : FlsMatch) : PyStr × PyStr × Bool :=
  (found.objectId, normalizePath found.name, decide (found.alloc = .ofChar '-'))

def ListedEntry.view (entry : ListedEntry) : PyStr × PyStr × Bool :=
  (entry.addressText, entry.path, !entry.deleted)

theorem map_view_flsLine? (entry : ListedEntry) :
    (flsLine? (PyStr.strip entry.firstLine)).map FlsMatch.view = if entry.isPlain then
        some (entry.addressText, normalizePath (entry.path.takeWhile notBreak), true)
      else none := by
  rw [strip_firstLine, flsLine?_head]
  split
  · have sameName := normalizePath_congr (strip_dropWhile_rstrip
      (CodePoint.ofChar '\t' :: entry.path.takeWhile notBreak))
    have sameTab : PyStr.strip (CodePoint.ofChar '\t' :: entry.path.takeWhile notBreak) =
        PyStr.strip (entry.path.takeWhile notBreak) := by
      rw [PyStr.strip, List.dropWhile_cons_of_pos (by decide), PyStr.strip]
    rw [Option.map_some, FlsMatch.view, sameName, normalizePath_congr sameTab]
    rfl
  · rfl

theorem takeWhile_notBreak {path : PyStr} (unbroken : ∀ point ∈ path, isLineBreak point = false) :
    path.takeWhile notBreak = path := by
  rw [List.takeWhile_eq_self_iff]
  intro point isPoint
  rw [notBreak, unbroken point isPoint]
  rfl

/-- The line of an entry says what was printed if and only if the entry is readable. -/
theorem view_flsLine?_iff (entry : ListedEntry) :
    (flsLine? (PyStr.strip entry.firstLine)).map FlsMatch.view = some entry.view ↔
      entry.Readable := by
  rw [map_view_flsLine?, ListedEntry.view, ListedEntry.Readable]
  constructor
  · intro same
    split at same
    · rename_i isPlain
      simp only [Option.some.injEq, Prod.mk.injEq, true_and] at same
      have unbroken : ∀ point ∈ entry.path, isLineBreak point = false := by
        rw [← same.1]
        apply unbroken_normalizePath
        intro point isPoint
        simpa [notBreak] using List.mem_takeWhile_imp isPoint
      rw [takeWhile_notBreak unbroken] at same
      exact ⟨isPlain, unbroken, same.1⟩
    · cases same
  · rintro ⟨isPlain, unbroken, normal⟩
    have allocated : entry.deleted = false := by
      simp only [ListedEntry.isPlain, Bool.and_eq_true, Bool.not_eq_true'] at isPlain
      exact isPlain.1.2
    rw [if_pos isPlain, takeWhile_notBreak unbroken, normal, allocated]
    rfl

/-! ## Warnings -/

theorem eq_unparsedLine_of_mem_parseLines {volumeId : PyStr} {entries : List FilesystemEntry}
    {lines : List PyStr} {warning : PyStr}
    (isWarning : warning ∈ (parseLines volumeId entries lines).2) : warning = unparsedLine := by
  induction lines generalizing entries with
  | nil => cases isWarning
  | cons line lines ih =>
    rw [parseLines] at isWarning
    cases found : flsLine? line.strip with
    | none =>
      rw [found] at isWarning
      rcases List.mem_cons.mp isWarning with first | later
      · exact first
      · exact ih later
    | some groups =>
      rw [found] at isWarning
      exact ih isWarning

theorem unparsedLine_mem_parseLines_iff (volumeId : PyStr) (entries : List FilesystemEntry)
    (lines : List PyStr) :
    unparsedLine ∈ (parseLines volumeId entries lines).2 ↔
      ∃ line ∈ lines, flsLine? line.strip = none := by
  induction lines generalizing entries with
  | nil => simp [parseLines]
  | cons line lines ih =>
    rw [parseLines, List.exists_mem_cons_iff]
    cases found : flsLine? line.strip with
    | none => simp
    | some groups => simpa using ih (entries ++ [entryOf volumeId entries groups])

theorem mem_flsWarnings_iff {stdout stderr : PyStr} {returncode : ℤ} {warning : PyStr}
    (isWarning : warning = unparsedLine ∨ warning = batchTruncated) :
    warning ∈ flsWarnings stdout stderr returncode limit ↔
      warning = batchTruncated ∧ limit < (splitLines stdout).length := by
  -- the warnings with a text of the tool differ in the first letter of their own
  have noExit (text : PyStr) : warning ≠ .ofString "fls_exit:" ++ text := by
    rintro rfl
    rcases isWarning with same | same
    · exact absurd (congrArg (fun text => text[4]?) same : some (CodePoint.ofChar 'e') =
        some (CodePoint.ofChar 'u')) (by decide)
    · exact absurd (congrArg (fun text => text[4]?) same : some (CodePoint.ofChar 'e') =
        some (CodePoint.ofChar 'b')) (by decide)
  have noError (text : PyStr) : warning ≠ .ofString "fls_stderr:" ++ text := by
    rintro rfl
    rcases isWarning with same | same
    · exact absurd (congrArg (fun text => text[4]?) same : some (CodePoint.ofChar 's') =
        some (CodePoint.ofChar 'u')) (by decide)
    · exact absurd (congrArg (fun text => text[4]?) same : some (CodePoint.ofChar 's') =
        some (CodePoint.ofChar 'b')) (by decide)
  rw [flsWarnings, List.mem_append, List.mem_append]
  constructor
  · rintro ((isTruncated | isExit) | isError)
    · split at isTruncated
      · rename_i long
        exact ⟨List.mem_singleton.mp isTruncated, long⟩
      · cases isTruncated
    · split at isExit
      · exact absurd (List.mem_singleton.mp isExit) (noExit _)
      · cases isExit
    · split at isError
      · exact absurd (List.mem_singleton.mp isError) (noError _)
      · cases isError
  · rintro ⟨isTruncated, long⟩
    rw [if_pos long]
    exact Or.inl (Or.inl (List.mem_singleton.mpr isTruncated))

/-- The two warnings are missing exactly when all lines are within the batch and are read. -/
theorem warnings_absent_iff (stdout stderr : PyStr) (returncode : ℤ) (volumeId : PyStr)
    (limit : ℕ) : (unparsedLine ∉ ((parseLines volumeId [] (boundedLines stdout limit)).2 ++
        flsWarnings stdout stderr returncode limit).eraseDups ∧
      batchTruncated ∉ ((parseLines volumeId [] (boundedLines stdout limit)).2 ++
        flsWarnings stdout stderr returncode limit).eraseDups) ↔
      (splitLines stdout).length ≤ limit ∧
        ∀ line ∈ boundedLines stdout limit, flsLine? line.strip ≠ none := by
  have different : batchTruncated ≠ unparsedLine := by decide
  have noTruncated : batchTruncated ∉ (parseLines volumeId [] (boundedLines stdout limit)).2 :=
    fun isWarning => different (eq_unparsedLine_of_mem_parseLines isWarning)
  rw [List.mem_eraseDups, List.mem_eraseDups, List.mem_append, List.mem_append,
    unparsedLine_mem_parseLines_iff, mem_flsWarnings_iff (Or.inl rfl),
    mem_flsWarnings_iff (Or.inr rfl)]
  simp only [different.symm, false_and, or_false, noTruncated, false_or, true_and, Nat.not_lt,
    not_exists, not_and, ne_eq]
  exact and_comm

/-! ## The listing -/

theorem length_flatMap_cons_le {α β : Type} (first : α → β) (others : α → List β) (items : List α) :
    items.length ≤ (items.flatMap fun item => first item :: others item).length := by
  induction items with
  | nil => rfl
  | cons item items ih =>
    rw [List.flatMap_cons, List.length_append, List.length_cons, List.length_cons]
    omega

/-- As many pieces as items leave each item only its first piece. -/
theorem flatMap_cons_eq_map {α β : Type} {first : α → β} {others : α → List β} {items : List α}
    (count : (items.flatMap fun item => first item :: others item).length = items.length) :
    (items.flatMap fun item => first item :: others item) = items.map first := by
  induction items with
  | nil => rfl
  | cons item items ih =>
    have least := length_flatMap_cons_le first others items
    rw [List.flatMap_cons, List.length_append, List.length_cons, List.length_cons] at count
    have noOthers : others item = [] := List.length_eq_zero_iff.mp (by omega)
    rw [List.flatMap_cons, ih (by omega), noOthers, List.map_cons, List.singleton_append]

theorem strip_firstLine_ne_nil (entry : ListedEntry) : PyStr.strip entry.firstLine ≠ [] := by
  rw [strip_firstLine]
  exact List.append_ne_nil_of_right_ne_nil _ (List.cons_ne_nil _ _)

/-- The lines with something on them, by the entries that they belong to. -/
theorem exists_solidLines (entries : List ListedEntry) : ∃ others : ListedEntry → List PyStr,
      ((splitLines (entryListing entries)).filter fun line => line.strip ≠ []) =
        entries.flatMap fun entry => entry.firstLine :: others entry := by
  refine ⟨fun entry => (splitLines (entry.print ++ [.ofChar '\n'])).tail.filter
    fun line => line.strip ≠ [], ?_⟩
  rw [entryListing, splitLines_flatMap, List.filter_flatMap]
  congr 1
  funext entry
  rcases exists_splitLines_print entry with ⟨lines, isLines⟩
  rw [isLines, List.filter_cons_of_pos (by simpa using strip_firstLine_ne_nil entry)]
  simp only [isLines, List.tail_cons]

theorem splitLines_entryListing (readable : ∀ entry ∈ entries, entry.Readable) :
    splitLines (entryListing entries) = entries.map ListedEntry.firstLine := by
  rw [entryListing, splitLines_flatMap]
  induction entries with
  | nil => rfl
  | cons entry entries ih =>
    rw [List.forall_mem_cons] at readable
    have unbroken : ∀ point ∈ entry.print, isLineBreak point = false := by
      intro point isPoint
      rw [ListedEntry.print, List.mem_append, List.mem_cons, List.mem_cons] at isPoint
      rcases isPoint with inHead | rfl | rfl | inPath
      · exact unbroken_head entry point inHead
      · decide
      · decide
      · exact readable.1.2.1 point inPath
    have isFirst : entry.firstLine = entry.print := by
      rw [ListedEntry.firstLine, ListedEntry.print, takeWhile_notBreak readable.1.2.1]
    rw [List.flatMap_cons, splitLines_newline unbroken, ih readable.2, List.map_cons, isFirst,
      List.singleton_append]

theorem filterMap_eq_map_iff {α β : Type} {read : α → Option β} {value : α → β} {items : List α} :
    items.filterMap read = items.map value ↔ ∀ item ∈ items, read item = some (value item) := by
  induction items with
  | nil => simp
  | cons item items ih =>
    rw [List.forall_mem_cons, ← ih, List.map_cons]
    cases isRead : read item with
    | none =>
      rw [List.filterMap_cons_none isRead]
      constructor
      · intro same
        have short := List.length_filterMap_le read items
        rw [same, List.length_cons, List.length_map] at short
        omega
      · rintro ⟨isValue, _⟩
        cases isValue
    | some result =>
      rw [List.filterMap_cons_some isRead, List.cons.injEq, Option.some.injEq]

theorem positiveInt?_int {bound : ℕ} (positive : 0 < limit) (bounded : limit ≤ bound) :
    positiveInt? (.int limit) (some bound) = some limit := by
  have within : (0 : ℤ) < limit ∧
      Option.all (fun bound : ℕ => decide ((limit : ℤ) ≤ bound)) (some bound) = true := by
    rw [Option.all_some, decide_eq_true_iff]
    omega
  rw [positiveInt?, if_pos within, Int.toNat_natCast]

/-- What the code reads of lines that belong to entries. -/
theorem map_view_readings (entries : List ListedEntry) :
    (readings (entries.map ListedEntry.firstLine)).map FlsMatch.view =
      entries.filterMap fun entry => (flsLine? (PyStr.strip entry.firstLine)).map
        FlsMatch.view := by
  rw [readings, List.filterMap_map, List.map_filterMap]
  rfl

theorem readsEntries_of_readable (stderr : PyStr) (returncode : ℤ) (volumeId : PyStr)
    (positive : 0 < limit) (bounded : limit ≤ maxBatchSize) (fits : entries.length ≤ limit)
    (small : (entryListing entries).length ≤ maxToolOutputChars ∧
      stderr.length ≤ maxToolOutputChars)
    (readable : ∀ entry ∈ entries, entry.Readable) :
    ReadsEntries entries
      (parseFlsOutput (entryListing entries) stderr returncode volumeId (.int limit)) := by
  have isLines := splitLines_entryListing readable
  have isBounded : boundedLines (entryListing entries) limit =
    entries.map ListedEntry.firstLine := by
    have solid : ∀ line ∈ entries.map ListedEntry.firstLine, decide (line.strip ≠ []) = true := by
      intro line isLine
      rcases List.mem_map.mp isLine with ⟨entry, _, rfl⟩
      exact decide_eq_true (strip_firstLine_ne_nil entry)
    rw [boundedLines, isLines, List.filter_eq_self.mpr solid]
    exact List.take_of_length_le (by rwa [List.length_map])
  have views := fun entry isEntry => (view_flsLine?_iff entry).mpr (readable entry isEntry)
  have noWarnings :=
    (warnings_absent_iff (entryListing entries) stderr returncode volumeId limit).mpr
    ⟨by rwa [isLines, List.length_map], by
      intro line isLine isNone
      rw [isBounded] at isLine
      rcases List.mem_map.mp isLine with ⟨entry, isEntry, rfl⟩
      have view := views entry isEntry
      rw [isNone] at view
      cases view⟩
  refine ⟨((parseLines volumeId [] (boundedLines (entryListing entries) limit)).1, _), ?_, ?_,
    noWarnings.1, noWarnings.2⟩
  · rw [parseFlsOutput, positiveInt?_int positive bounded]
    simp only
    rw [if_neg (by omega)]
    rfl
  · rw [map_parseLines _ FlsMatch.view volumeId (fun _ _ => rfl), List.map_nil, List.nil_append,
      isBounded, map_view_readings]
    exact filterMap_eq_map_iff.mpr views

theorem readable_of_readsEntries {stderr : PyStr} {returncode : ℤ} {volumeId : PyStr}
    (reads : ReadsEntries entries
      (parseFlsOutput (entryListing entries) stderr returncode volumeId (.int limit)))
    (positive : 0 < limit) (bounded : limit ≤ maxBatchSize) :
    ((entryListing entries).length ≤ maxToolOutputChars ∧ stderr.length ≤ maxToolOutputChars) ∧
      ∀ entry ∈ entries, entry.Readable := by
  rcases reads with ⟨returned, isReturned, isRead, noUnparsed, noTruncated⟩
  rcases exists_limit_of_parseFlsOutput isReturned with ⟨_, isLimit, small, isEntries, isWarnings⟩
  rw [positiveInt?_int positive bounded, Option.some.injEq] at isLimit
  subst isLimit
  refine ⟨small, ?_⟩
  rw [isWarnings] at noUnparsed noTruncated
  rcases (warnings_absent_iff _ _ _ _ _).mp ⟨noUnparsed, noTruncated⟩ with ⟨short, allRead⟩
  rcases exists_solidLines entries with ⟨others, isSolid⟩
  have isBounded : boundedLines (entryListing entries) limit =
      entries.flatMap fun entry => entry.firstLine :: others entry := by
    rw [boundedLines, isSolid]
    apply List.take_of_length_le
    rw [← isSolid]
    exact (List.length_filter_le _ _).trans short
  rw [isEntries, map_parseLines _ FlsMatch.view volumeId (fun _ _ => rfl), List.map_nil,
    List.nil_append] at isRead
  -- every line is read, so there are no more lines than entries
  have count : (boundedLines (entryListing entries) limit).length = entries.length := by
    have sameLength := congrArg List.length isRead
    rw [List.length_map, List.length_map, readings] at sameLength
    rw [← sameLength]
    apply Nat.le_antisymm _ (List.length_filterMap_le _ _)
    rw [← Nat.not_lt, List.length_filterMap_lt_length_iff_exists]
    rintro ⟨line, isLine, isNone⟩
    exact allRead line isLine isNone
  rw [isBounded] at count
  rw [isBounded, flatMap_cons_eq_map count, map_view_readings] at isRead
  intro entry isEntry
  exact (view_flsLine?_iff entry).mp (filterMap_eq_map_iff.mp isRead entry isEntry)

/-- A listing of entries is read as it is printed if and only if it is not too large and each of its
entries is readable. -/
theorem readsEntries_iff (entries : List ListedEntry) (stderr : PyStr) (returncode : ℤ)
    (volumeId : PyStr) (positive : 0 < limit) (bounded : limit ≤ maxBatchSize)
    (fits : entries.length ≤ limit) :
    ReadsEntries entries
        (parseFlsOutput (entryListing entries) stderr returncode volumeId (.int limit)) ↔
      ((entryListing entries).length ≤ maxToolOutputChars ∧ stderr.length ≤ maxToolOutputChars) ∧
        ∀ entry ∈ entries, entry.Readable :=
  ⟨fun reads => readable_of_readsEntries reads positive bounded, fun conditions =>
    readsEntries_of_readable stderr returncode volumeId positive bounded fits conditions.1
      conditions.2⟩

end Reperio.Scanner.SleuthKit
