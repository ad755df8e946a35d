import Reperio.Python.KeyOrder
import Reperio.Scanner.EntryListing
import Reperio.Scanner.PartitionDiscovery

/-!
# Listings of slots

What `mmls -B` prints, as the tool documents it, against what
`scanner/partition_discovery.py` reads of it. The regular expression knows neither the
numbers of a table and a slot nor the seven dashes of unallocated space, and takes
`Meta` for a partition in use (`readsSlots_iff`). With the listings of entries, this
says when the listings of the tool are read as printed (`readsListings_iff`).
-/

namespace Reperio.Scanner.SleuthKit

open Python Photorec

/-! ## What is printed -/

/-- A number as it is printed: with at least one digit, and zeros before it. -/
structure Numeral where
  digits : List (Fin 10)
  isSome : digits ≠ []
  deriving DecidableEq

def digitText (digit : Fin 10) : CodePoint := Fin.ofNat 0x110000 (48 + digit)

def Numeral.print (numeral : Numeral) : PyStr := numeral.digits.map digitText

def Numeral.value (numeral : Numeral) : ℕ :=
  numeral.digits.foldl (fun number digit => 10 * number + digit.val) 0

/-- `nnn`. -/
def threeDigits (number : Fin 1000) : PyStr :=
  [digitText (Fin.ofNat 10 (number / 100)), digitText (Fin.ofNat 10 (number / 10)),
    digitText (Fin.ofNat 10 number)]

/-- What the third column of `mmls` says. -/
inductive SlotKind where
  | tableMetadata
  | unallocated
  | partition (table slot : Fin 1000)
  deriving DecidableEq

def SlotKind.print : SlotKind → PyStr
  | tableMetadata => .ofString "Meta"
  | unallocated => .ofString "-------"
  | partition table slot => threeDigits table ++ .ofChar ':' :: threeDigits slot

/-- A slot as the tool knows it. The size is a word, and the description stays on the line. -/
structure ListedSlot where
  number : Fin 1000
  kind : SlotKind
  first : Numeral
  last : Numeral
  length : Numeral
  size : PyStr
  description : PyStr
  isWord : size ≠ [] ∧ ∀ point ∈ size, point.isSpace = false
  isLine : ∀ point ∈ description, isLineBreak point = false

/-- Two blanks before a column. -/
def column (text : PyStr) : PyStr := .ofChar ' ' :: .ofChar ' ' :: text

/-- The size and the description, which are read together. -/
def ListedSlot.text (slot : ListedSlot) : PyStr := slot.size ++ column slot.description

/-- `<nnn>:  <Meta | ------- | nnn:nnn>  start  end  length  size  description`. -/
def ListedSlot.print (slot : ListedSlot) : PyStr :=
  threeDigits slot.number ++ .ofChar ':' :: column (slot.kind.print ++ column (slot.first.print ++
    column (slot.last.print ++ column (slot.length.print ++ column slot.text))))

/-- A line above the slots, which does not start with a number. -/
structure HeaderLine where
  text : PyStr
  isLine : ∀ point ∈ text, isLineBreak point = false
  noNumber : (text.dropWhile CodePoint.isSpace).head?.all (fun point => !isDecimal point) = true

def slotListing (header : List HeaderLine) (slots : List ListedSlot) : PyStr :=
  (header.map (·.text) ++ slots.map (·.print)).flatMap fun line => line ++ [.ofChar '\n']

def ListedSlot.isPartition (slot : ListedSlot) : Bool := match slot.kind with
  | .partition _ _ => true
  | _ => false

def ListedSlot.view (slot : ListedSlot) : ℕ × ℕ × ℕ × Bool :=
  (slot.first.value, slot.last.value, slot.length.value, slot.isPartition)

def PartitionEntry.view (entry : PartitionEntry) : ℕ × ℕ × ℕ × Bool :=
  (entry.startSector, entry.endSector, entry.sectorCount, entry.allocated)

/-- One partition is returned for each slot, with the start, the end and the length that are
printed, allocated exactly for the slots of a table. -/
def ReadsSlots (slots : List ListedSlot) (result : Except ToolError PartitionDiscoveryResult) :
    Prop :=
  ∃ returned, result = .ok returned ∧
    returned.partitions.map PartitionEntry.view = slots.map ListedSlot.view

/-- The conditions under which a slot is read as it is printed. -/
def ListedSlot.Readable (slot : ListedSlot) : Prop := slot.kind = .tableMetadata ∧
    (slot.first.digits.length ≤ intMaxStrDigits ∧ slot.last.digits.length ≤ intMaxStrDigits ∧
      slot.length.digits.length ≤ intMaxStrDigits) ∧
    (slot.last.value < slot.first.value ∨ slot.length.value = 0 ∨
      isUnused (keptDescription slot.text) = true)

/-! ## Lines -/

/-- What a line says about a partition. -/
def slotLine? (line : PyStr) : Option MmlsMatch :=
  if PyStr.strip line = [] ∨ (PyStr.strip line).startsWith "Partition Table:" = true then none
  else mmlsLine? line

/-- The partitions of a table are read line by line. -/
theorem map_partitions_scan (sectorSize : ℕ) (lines : List PyStr) (scan : TableScan) :
    (lines.foldlM (scanLine sectorSize) scan).map (·.partitions) =
      ((lines.filterMap slotLine?).mapM fun found => entryFromMatch found sectorSize).map
        (scan.partitions ++ ·) := by
  induction lines generalizing scan with
  | nil => simp [Except.map, pure, Except.pure]
  | cons line lines ih =>
    rw [List.foldlM_cons, scanLine]
    by_cases blank : PyStr.strip line = []
    · rw [if_pos blank, List.filterMap_cons_none (by rw [slotLine?, if_pos (Or.inl blank)])]
      exact ih scan
    · rw [if_neg blank]
      by_cases isTable : (PyStr.strip line).startsWith "Partition Table:" = true
      · rw [if_pos isTable, List.filterMap_cons_none (by rw [slotLine?, if_pos (Or.inr isTable)])]
        exact ih _
      · have isSlot : slotLine? line = mmlsLine? line := by
          rw [slotLine?, if_neg (not_or.mpr ⟨blank, isTable⟩)]
        rw [if_neg isTable]
        cases found : mmlsLine? line with
        | none =>
          rw [List.filterMap_cons_none (isSlot.trans found)]
          exact ih _
        | some groups =>
          rw [List.filterMap_cons_some (isSlot.trans found), List.mapM_cons]
          simp only
          cases read : entryFromMatch groups sectorSize with
          | error error => rfl
          | ok entry =>
            have later := ih { scan with
              partitions := scan.partitions ++ [entry]
              warnings := scan.warnings ++ entry.warnings }
            refine later.trans ?_
            simp only [bind, Except.bind]
            cases (lines.filterMap slotLine?).mapM fun found => entryFromMatch found sectorSize with
            | error error => rfl
            | ok entries =>
              simp [Except.map, pure, Except.pure]

/-! ## Columns -/

/-- A text that does not start with a blank. -/
def Solid (text : PyStr) : Prop := text.head?.all (fun point => !point.isSpace) = true

theorem dropWhile_of_solid {text : PyStr} (solid : Solid text) :
    text.dropWhile CodePoint.isSpace = text := by
  cases text with
  | nil => rfl
  | cons point text => exact List.dropWhile_cons_of_neg (by simpa [Solid] using solid)

theorem isDecimal_digitText (digit : Fin 10) : isDecimal (digitText digit) = true :=
  isDecimal_ascii digit

theorem decimal?_digitText : ∀ digit : Fin 10, decimal? (digitText digit) = some digit.val := by
  decide

theorem solid_digitText (digit : Fin 10) (text : PyStr) : Solid (digitText digit :: text) := by
  rw [Solid, List.head?_cons, Option.all_some, isSpace_of_isDecimal (isDecimal_digitText digit)]
  rfl

theorem Numeral.exists_print (numeral : Numeral) :
    ∃ digit text, numeral.print = digitText digit :: text := by
  cases digits : numeral.digits with
  | nil => exact absurd digits numeral.isSome
  | cons digit others => exact ⟨digit, others.map digitText, by rw [print, digits, List.map_cons]⟩

theorem Numeral.solid_print (numeral : Numeral) (text : PyStr) : Solid (numeral.print ++ text) := by
  rcases numeral.exists_print with ⟨digit, others, isPrint⟩
  rw [isPrint, List.cons_append]
  exact solid_digitText digit _

theorem Numeral.isDecimal_print (numeral : Numeral) :
    ∀ point ∈ numeral.print, isDecimal point = true := by
  intro point isPoint
  rcases List.mem_map.mp isPoint with ⟨digit, _, rfl⟩
  exact isDecimal_digitText digit

theorem blanks?_column {text : PyStr} (solid : Solid text) : blanks? (column text) = some text := by
  rw [column, blanks?, if_pos (by decide), List.dropWhile_cons_of_pos (by decide),
    dropWhile_of_solid solid]

theorem number?_column (numeral : Numeral) {text : PyStr} (solid : Solid text) :
    number? (numeral.print ++ column text) = some (numeral.print, text) := by
  have digits : (numeral.print ++ column text).takeWhile isDecimal = numeral.print := by
    rw [List.takeWhile_append_of_pos numeral.isDecimal_print, column,
      List.takeWhile_cons_of_neg (by decide), List.append_nil]
  have others : (numeral.print ++ column text).dropWhile isDecimal = column text := by
    rw [List.dropWhile_append_of_pos numeral.isDecimal_print, column,
      List.dropWhile_cons_of_neg (by decide)]
  have notEmpty : numeral.print ≠ [] := by
    rcases numeral.exists_print with ⟨digit, others, isPrint⟩
    rw [isPrint]
    exact List.cons_ne_nil _ _
  rw [number?, digits, others, blanks?_column solid, if_neg notEmpty]
  rfl

theorem slot?_column (number : Fin 1000) {text : PyStr} (solid : Solid text) :
    slot? (threeDigits number ++ .ofChar ':' :: column text) =
      some (threeDigits number ++ [.ofChar ':'], text) := by
  rw [threeDigits]
  simp only [List.cons_append, List.nil_append]
  rw [slot?, isDecimal_digitText, isDecimal_digitText, isDecimal_digitText, if_pos (by decide),
    blanks?_column solid]
  rfl

theorem ListedSlot.solid_text (slot : ListedSlot) : Solid slot.text := by
  rw [text]
  cases isSize : slot.size with
  | nil => exact absurd isSize slot.isWord.1
  | cons point size =>
    rw [List.cons_append, Solid, List.head?_cons, Option.all_some,
      slot.isWord.2 point (isSize ▸ List.mem_cons_self)]
    rfl

theorem ListedSlot.text_ne_nil (slot : ListedSlot) : slot.text ≠ [] :=
  List.append_ne_nil_of_left_ne_nil slot.isWord.1 _

theorem digitText_ne : ∀ digit : Fin 10, digitText digit ≠ .ofChar 'M' ∧
    digitText digit ≠ .ofChar '-' ∧ digitText digit ≠ .ofChar 'P' := by
  decide

/-- A text that starts with a digit does not start with another character. -/
theorem isPrefixOf_digitText {first : CodePoint} {digit : Fin 10}
    (different : digitText digit ≠ first)
    (start text : PyStr) : (first :: start).isPrefixOf (digitText digit :: text) = false := by
  rw [Bool.eq_false_iff]
  intro isPrefix
  exact different (List.cons_prefix_cons.mp (List.isPrefixOf_iff_prefix.mp isPrefix)).1.symm

theorem kind?_digitText (digit : Fin 10) (text : PyStr) :
    kind? (digitText digit :: text) = none := by
  have notMeta : PyStr.startsWith (digitText digit :: text) "Meta" = false :=
    isPrefixOf_digitText (digitText_ne digit).1 (.ofString "eta") text
  have notDashes : (PyStr.ofString "-----").isPrefixOf (digitText digit :: text) = false :=
    isPrefixOf_digitText (digitText_ne digit).2.1 (.ofString "----") text
  rw [kind?]
  simp only [notMeta, Bool.false_eq_true, if_false, notDashes]

/-- What the last group of the regular expression takes of a printed slot. -/
def ListedSlot.group (slot : ListedSlot) : PyStr :=
  (slot.text.reverse.dropWhile CodePoint.isSpace).reverse

theorem lengthAndDescription?_column (slot : ListedSlot) :
    lengthAndDescription? (slot.length.print ++ column slot.text) =
      some (slot.length.print, slot.group) := by
  have digits : (slot.length.print ++ column slot.text).takeWhile isDecimal =
    slot.length.print := by
    rw [List.takeWhile_append_of_pos slot.length.isDecimal_print, column,
      List.takeWhile_cons_of_neg (by decide), List.append_nil]
  have others : (slot.length.print ++ column slot.text).dropWhile isDecimal = column slot.text := by
    rw [List.dropWhile_append_of_pos slot.length.isDecimal_print, column,
      List.dropWhile_cons_of_neg (by decide)]
  have notEmpty : slot.length.print ≠ [] := by
    rcases slot.length.exists_print with ⟨digit, others, isPrint⟩
    rw [isPrint]
    exact List.cons_ne_nil _ _
  have blanks : (column slot.text).takeWhile CodePoint.isSpace ≠ [] := by
    rw [column, List.takeWhile_cons_of_pos (by decide)]
    exact List.cons_ne_nil _ _
  have behind : (column slot.text).dropWhile CodePoint.isSpace = slot.text := by
    rw [column, List.dropWhile_cons_of_pos (by decide), List.dropWhile_cons_of_pos (by decide),
      dropWhile_of_solid slot.solid_text]
  rw [lengthAndDescription?, digits, others, if_neg notEmpty, if_neg blanks, behind, description?,
    if_neg slot.text_ne_nil]
  rfl

/-- The columns behind the kind. -/
def ListedSlot.columns (slot : ListedSlot) : PyStr :=
  slot.first.print ++ column (slot.last.print ++ column (slot.length.print ++ column slot.text))

theorem kind?_column (slot : ListedSlot) : kind? (slot.kind.print ++ column slot.columns) =
      if slot.kind = .tableMetadata then some (.ofString "Meta", slot.columns) else none := by
  have solid : Solid slot.columns := slot.first.solid_print _
  cases slot.kind with
  | tableMetadata =>
    rw [if_pos rfl, SlotKind.print, kind?]
    have isMeta : PyStr.startsWith (PyStr.ofString "Meta" ++ column slot.columns) "Meta" = true :=
      List.isPrefixOf_iff_prefix.mpr (List.prefix_append _ _)
    have behind : List.drop (PyStr.ofString "Meta").length
        (PyStr.ofString "Meta" ++ column slot.columns) = column slot.columns := List.drop_left
    simp only [isMeta, if_true]
    rw [behind, blanks?_column solid,
      if_pos (List.isPrefixOf_iff_prefix.mpr (List.prefix_append _ _))]
    rfl
  | unallocated =>
    rw [if_neg (by decide)]
    rfl
  | partition table number =>
    rw [if_neg (by simp), SlotKind.print, threeDigits]
    exact kind?_digitText _ _

/-! ## What is read of a slot -/

def ListedSlot.groups (slot : ListedSlot) : MmlsMatch where
  slot := threeDigits slot.number ++ [.ofChar ':']
  kind := .ofString "Meta"
  first := slot.first.print
  last := slot.last.print
  length := slot.length.print
  description := slot.group

theorem ListedSlot.exists_print (slot : ListedSlot) :
    ∃ digit text, slot.print = digitText digit :: text :=
  ⟨_, _, rfl⟩

theorem SlotKind.solid_print (kind : SlotKind) (text : PyStr) : Solid (kind.print ++ text) := by
  cases kind with
  | tableMetadata => exact (rfl : (!CodePoint.isSpace (.ofChar 'M')) = true)
  | unallocated => exact (rfl : (!CodePoint.isSpace (.ofChar '-')) = true)
  | partition table slot => exact solid_digitText _ _

/-- A slot is read if and only if it is taken for the metadata of a table. -/
theorem mmlsLine?_print (slot : ListedSlot) :
    mmlsLine? slot.print = if slot.kind = .tableMetadata then some slot.groups else none := by
  have solid : Solid slot.print := solid_digitText _ _
  rw [mmlsLine?, dropWhile_of_solid solid, ListedSlot.print,
    slot?_column _ (slot.kind.solid_print _)]
  change ((kind? (slot.kind.print ++ column slot.columns)).bind fun read => _) = _
  rw [kind?_column]
  split
  · rw [Option.bind_some, ListedSlot.columns]
    change ((number? (slot.first.print ++ column (slot.last.print ++ column (slot.length.print ++
      column slot.text)))).bind fun read => _) = _
    rw [number?_column _ (slot.last.solid_print _), Option.bind_some]
    change ((number? (slot.last.print ++ column (slot.length.print ++ column slot.text))).bind
      fun read => _) = _
    rw [number?_column _ (slot.length.solid_print _), Option.bind_some]
    change ((lengthAndDescription? (slot.length.print ++ column slot.text)).bind fun read => _) = _
    rw [lengthAndDescription?_column]
    rfl
  · rfl

theorem slotLine?_print (slot : ListedSlot) :
    slotLine? slot.print = if slot.kind = .tableMetadata then some slot.groups else none := by
  rcases slot.exists_print with ⟨digit, text, isPrint⟩
  have stripped : PyStr.strip slot.print =
      digitText digit :: (text.reverse.dropWhile CodePoint.isSpace).reverse := by
    have solid := isSpace_of_isDecimal (isDecimal_digitText digit)
    have atStart : (([] : PyStr).head?.all fun first => !first.isSpace) = true := rfl
    rw [isPrint]
    exact strip_append_of_not_isSpace solid text atStart
  have noTable : ¬PyStr.startsWith (PyStr.strip slot.print) "Partition Table:" = true := by
    rw [stripped, Bool.not_eq_true]
    exact isPrefixOf_digitText (digitText_ne digit).2.2 (.ofString "artition Table:") _
  have notBlank : PyStr.strip slot.print ≠ [] := by
    rw [stripped]
    exact List.cons_ne_nil _ _
  rw [slotLine?, if_neg (not_or.mpr ⟨notBlank, noTable⟩), mmlsLine?_print]

theorem slotLine?_header (line : HeaderLine) : slotLine? line.text = none := by
  have noSlot : slot? (line.text.dropWhile CodePoint.isSpace) = none := by
    have noNumber := line.noNumber
    generalize line.text.dropWhile CodePoint.isSpace = text at noNumber
    rcases text with _ | ⟨first, _ | ⟨second, _ | ⟨third, _ | ⟨colon, rest⟩⟩⟩⟩
    · rfl
    · rfl
    · rfl
    · rfl
    · rw [List.head?_cons, Option.all_some, Bool.not_eq_true'] at noNumber
      rw [slot?, noNumber]
      rfl
  rw [slotLine?]
  split
  · rfl
  · rw [mmlsLine?, noSlot]
    rfl

theorem intOf_print (numeral : Numeral) : intOf numeral.print =
      if numeral.digits.length ≤ intMaxStrDigits then .ok numeral.value
      else .error .valueError := by
  have values : numeral.print.filterMap decimal? = numeral.digits.map Fin.val := by
    rw [Numeral.print, List.filterMap_map]
    induction numeral.digits with
    | nil => rfl
    | cons digit digits ih =>
      have read : (decimal? ∘ digitText) digit = some digit.val := decimal?_digitText digit
      rw [List.filterMap_cons_some read, ih, List.map_cons]
  rw [intOf, values, Numeral.print, List.length_map, List.foldl_map]
  split
  · rw [if_neg (by omega)]
  · rw [if_pos (by omega)]
    rfl

theorem keptDescription_group (slot : ListedSlot) :
    keptDescription slot.group = keptDescription slot.text := by
  rw [keptDescription, keptDescription, ListedSlot.group, strip_rstrip]

/-- The partition of a slot says what was printed if and only if the slot is readable. -/
theorem view_entryFromMatch_iff (slot : ListedSlot) (sectorSize : ℕ)
    (isMeta : slot.kind = .tableMetadata) :
    (∃ entry, entryFromMatch slot.groups sectorSize = .ok entry ∧ entry.view = slot.view) ↔
      slot.Readable := by
  have notPartition : slot.isPartition = false := by
    rw [ListedSlot.isPartition, isMeta]
  rw [entryFromMatch, ListedSlot.Readable]
  simp only [ListedSlot.groups, intOf_print, keptDescription_group]
  by_cases firstFits : slot.first.digits.length ≤ intMaxStrDigits
  · by_cases lastFits : slot.last.digits.length ≤ intMaxStrDigits
    · by_cases lengthFits : slot.length.digits.length ≤ intMaxStrDigits
      · simp only [firstFits, lastFits, lengthFits, if_true, bind, Except.bind, pure, Except.pure,
          Except.ok.injEq, exists_eq_left', PartitionEntry.view, ListedSlot.view, notPartition,
          Prod.mk.injEq, true_and, decide_true, Bool.true_and, isMeta]
        rw [Bool.and_eq_false_iff, Bool.not_eq_false', Bool.not_eq_false', Bool.or_eq_true,
          decide_eq_true_iff, decide_eq_true_iff, or_assoc]
      · simp [firstFits, lastFits, lengthFits, bind, Except.bind]
    · simp [firstFits, lastFits, bind, Except.bind]
  · simp [firstFits, bind, Except.bind]

/-! ## The listing -/

theorem unbroken_digitText (digit : Fin 10) : isLineBreak (digitText digit) = false :=
  unbroken_of_solid (isSpace_of_isDecimal (isDecimal_digitText digit))

theorem unbroken_threeDigits (number : Fin 1000) :
    ∀ point ∈ threeDigits number, isLineBreak point = false := by
  intro point isPoint
  simp only [threeDigits, List.mem_cons, List.not_mem_nil, or_false] at isPoint
  rcases isPoint with rfl | rfl | rfl <;> exact unbroken_digitText _

theorem Numeral.unbroken_print (numeral : Numeral) :
    ∀ point ∈ numeral.print, isLineBreak point = false := fun point isPoint =>
  unbroken_of_solid (isSpace_of_isDecimal (numeral.isDecimal_print point isPoint))

theorem SlotKind.unbroken_print (kind : SlotKind) :
    ∀ point ∈ kind.print, isLineBreak point = false := by
  cases kind with
  | tableMetadata => exact unbroken_of_all (by decide)
  | unallocated => exact unbroken_of_all (by decide)
  | partition table slot =>
    intro point isPoint
    rw [print, List.mem_append, List.mem_cons] at isPoint
    rcases isPoint with isTable | rfl | isSlot
    · exact unbroken_threeDigits table point isTable
    · decide
    · exact unbroken_threeDigits slot point isSlot

theorem unbroken_column {text : PyStr} (unbroken : ∀ point ∈ text, isLineBreak point = false) :
    ∀ point ∈ column text, isLineBreak point = false := by
  rw [column, List.forall_mem_cons, List.forall_mem_cons]
  exact ⟨by decide, by decide, unbroken⟩

theorem ListedSlot.unbroken_print (slot : ListedSlot) :
    ∀ point ∈ slot.print, isLineBreak point = false := by
  have unbroken_append {first second : PyStr}
    (unbroken : ∀ point ∈ first, isLineBreak point = false)
      (others : ∀ point ∈ second, isLineBreak point = false) :
      ∀ point ∈ first ++ column second, isLineBreak point = false := fun point isPoint =>
    (List.mem_append.mp isPoint).elim (unbroken point) (unbroken_column others point)
  have size : ∀ point ∈ slot.size, isLineBreak point = false := fun point isPoint =>
    unbroken_of_solid (slot.isWord.2 point isPoint)
  have columns :=
    unbroken_append slot.kind.unbroken_print (unbroken_append slot.first.unbroken_print
    (unbroken_append slot.last.unbroken_print (unbroken_append slot.length.unbroken_print
      (unbroken_append size slot.isLine))))
  intro point isPoint
  rw [print, List.mem_append, List.mem_cons] at isPoint
  rcases isPoint with isNumber | rfl | isColumn
  · exact unbroken_threeDigits slot.number point isNumber
  · decide
  · exact unbroken_column columns point isColumn

theorem splitLines_slotListing (header : List HeaderLine) (slots : List ListedSlot) :
    splitLines (slotListing header slots) = header.map (·.text) ++ slots.map (·.print) := by
  have unbroken : ∀ line ∈ header.map (·.text) ++ slots.map (·.print),
      ∀ point ∈ line, isLineBreak point = false := by
    intro line isLine
    rcases List.mem_append.mp isLine with isHeader | isSlot
    · rcases List.mem_map.mp isHeader with ⟨header, _, rfl⟩
      exact header.isLine
    · rcases List.mem_map.mp isSlot with ⟨slot, _, rfl⟩
      exact slot.unbroken_print
  rw [slotListing, splitLines_flatMap]
  generalize header.map (·.text) ++ slots.map (·.print) = lines at unbroken
  induction lines with
  | nil => rfl
  | cons line lines ih =>
    rw [List.forall_mem_cons] at unbroken
    rw [List.flatMap_cons, splitLines_newline unbroken.1, ih unbroken.2, List.singleton_append]

/-- Only what is taken for the metadata of a table is read of a listing. -/
theorem slotLines_slotListing (header : List HeaderLine) (slots : List ListedSlot) :
    (splitLines (slotListing header slots)).filterMap slotLine? =
      (slots.filter fun slot => slot.kind = .tableMetadata).map ListedSlot.groups := by
  have noHeader : (header.map (·.text)).filterMap slotLine? = [] := by
    rw [List.filterMap_eq_nil_iff]
    intro line isLine
    rcases List.mem_map.mp isLine with ⟨header, _, rfl⟩
    exact slotLine?_header header
  rw [splitLines_slotListing, List.filterMap_append, noHeader, List.nil_append]
  induction slots with
  | nil => rfl
  | cons slot slots ih =>
    have isRead := slotLine?_print slot
    rw [List.map_cons]
    by_cases isMeta : slot.kind = .tableMetadata
    · rw [if_pos isMeta] at isRead
      rw [List.filterMap_cons_some isRead, ih,
        List.filter_cons_of_pos (by rwa [decide_eq_true_iff]), List.map_cons]
    · rw [if_neg isMeta] at isRead
      rw [List.filterMap_cons_none isRead, ih,
        List.filter_cons_of_neg (by rwa [decide_eq_true_iff])]

theorem exists_mapM_iff {α β γ ε : Type} {read : α → Except ε β} {view : β → γ} {value : α → γ}
    {items : List α} :
    (∃ results, items.mapM read = .ok results ∧ results.map view = items.map value) ↔
      ∀ item ∈ items, ∃ result, read item = .ok result ∧ view result = value item := by
  induction items with
  | nil => simp [pure, Except.pure]
  | cons item items ih =>
    rw [List.forall_mem_cons, ← ih, List.mapM_cons]
    constructor
    · rintro ⟨results, isResults, isValue⟩
      rcases bind_eq_ok isResults with ⟨first, isFirst, isResults⟩
      rcases bind_eq_ok isResults with ⟨others, isOthers, isResults⟩
      cases isResults
      rw [List.map_cons, List.map_cons, List.cons.injEq] at isValue
      exact ⟨⟨first, isFirst, isValue.1⟩, others, isOthers, isValue.2⟩
    · rintro ⟨⟨first, isFirst, isValue⟩, others, isOthers, areValues⟩
      refine ⟨first :: others, ?_, ?_⟩
      · rw [isFirst, isOthers]
        rfl
      · rw [List.map_cons, List.map_cons, isValue, areValues]

theorem parseMmlsOutput_eq {stdout stderr : PyStr} {returncode : ℤ} {sourceId : PyStr}
    {sectorSize : ℕ} (positive : 0 < sectorSize) {entries : List PartitionEntry} :
    (∃ returned, parseMmlsOutput stdout stderr returncode sourceId (.int sectorSize) =
      .ok returned ∧ returned.partitions = entries) ↔
      (stdout.length ≤ maxToolOutputChars ∧ stderr.length ≤ maxToolOutputChars) ∧
        (((splitLines stdout).filterMap slotLine?).mapM fun found =>
          entryFromMatch found sectorSize) = .ok entries := by
  have isSize : positiveInt? (.int sectorSize) none = some sectorSize := by
    rw [positiveInt?, if_pos ⟨by omega, rfl⟩, Int.toNat_natCast]
  have scanned := map_partitions_scan sectorSize (splitLines stdout) {}
  rw [parseMmlsOutput, isSize]
  simp only
  by_cases small : stdout.length ≤ maxToolOutputChars ∧ stderr.length ≤ maxToolOutputChars
  · rw [if_neg (by omega)]
    cases isScan : (splitLines stdout).foldlM (scanLine sectorSize) {} with
    | error error =>
      rw [isScan] at scanned
      cases isRead : ((splitLines stdout).filterMap slotLine?).mapM
          fun found => entryFromMatch found sectorSize with
      | error other => simp [bind, Except.bind]
      | ok others =>
        rw [isRead] at scanned
        cases scanned
    | ok scan =>
      rw [isScan] at scanned
      cases isRead : ((splitLines stdout).filterMap slotLine?).mapM
          fun found => entryFromMatch found sectorSize with
      | error other =>
        rw [isRead] at scanned
        cases scanned
      | ok others =>
        rw [isRead] at scanned
        have same : scan.partitions = others := Except.ok.inj scanned
        simp [bind, Except.bind, pure, Except.pure, small, same]
  · rw [if_pos (by omega)]
    simp [small, throw, throwThe, MonadExceptOf.throw]

/-- A listing of slots is read as it is printed if and only if it is not too large and each of its
slots is readable. -/
theorem readsSlots_iff (header : List HeaderLine) (slots : List ListedSlot) (stderr : PyStr)
    (returncode : ℤ) (sourceId : PyStr) {sectorSize : ℕ} (positive : 0 < sectorSize) :
    ReadsSlots slots
        (parseMmlsOutput (slotListing header slots) stderr returncode sourceId (.int sectorSize)) ↔
      ((slotListing header slots).length ≤ maxToolOutputChars ∧
        stderr.length ≤ maxToolOutputChars) ∧ ∀ slot ∈ slots, slot.Readable := by
  have isRead := slotLines_slotListing header slots
  constructor
  · rintro ⟨returned, isReturned, views⟩
    rcases (parseMmlsOutput_eq positive).mp ⟨returned, isReturned, rfl⟩ with ⟨small, read⟩
    rw [isRead, List.mapM_map] at read
    -- as many partitions as slots, so every slot is taken for the metadata of a table
    have allMeta : (slots.filter fun slot => slot.kind = .tableMetadata) = slots := by
      apply List.filter_sublist.eq_of_length
      rw [(forall₂_of_mapM_ok read).length_eq, ← List.length_map PartitionEntry.view, views,
        List.length_map]
    rw [allMeta] at read
    refine ⟨small, fun slot isSlot => ?_⟩
    have isMeta : slot.kind = .tableMetadata := by
      rw [← allMeta] at isSlot
      exact of_decide_eq_true (List.mem_filter.mp isSlot).2
    exact (view_entryFromMatch_iff slot sectorSize isMeta).mp
      (exists_mapM_iff.mp ⟨_, read, views⟩ slot isSlot)
  · rintro ⟨small, readable⟩
    have allMeta : (slots.filter fun slot => slot.kind = .tableMetadata) = slots :=
      List.filter_eq_self.mpr fun slot isSlot => decide_eq_true (readable slot isSlot).1
    rw [allMeta] at isRead
    rcases exists_mapM_iff.mpr fun slot isSlot => (view_entryFromMatch_iff slot sectorSize
      (readable slot isSlot).1).mpr (readable slot isSlot) with ⟨entries, read, views⟩
    have readLines : ((splitLines (slotListing header slots)).filterMap slotLine?).mapM
        (fun found => entryFromMatch found sectorSize) = .ok entries := by
      rw [isRead, List.mapM_map]
      exact read
    rcases (parseMmlsOutput_eq positive).mpr ⟨small, readLines⟩ with ⟨returned, isReturned, rfl⟩
    exact ⟨returned, isReturned, views⟩

/-- The listings of the tools are read as they are printed exactly under the conditions on their
entries and slots. -/
theorem readsListings_iff (entries : List ListedEntry) (header : List HeaderLine)
    (slots : List ListedSlot) (stderr : PyStr) (returncode : ℤ) (volumeId sourceId : PyStr)
    (batchSize sectorSize : ℕ) (positive : 0 < batchSize) (bounded : batchSize ≤ maxBatchSize)
    (fits : entries.length ≤ batchSize) (hasSectors : 0 < sectorSize) :
    (ReadsEntries entries
        (parseFlsOutput (entryListing entries) stderr returncode volumeId (.int batchSize)) ↔
      ((entryListing entries).length ≤ maxToolOutputChars ∧ stderr.length ≤ maxToolOutputChars) ∧
        ∀ entry ∈ entries, entry.Readable) ∧
    (ReadsSlots slots
        (parseMmlsOutput (slotListing header slots) stderr returncode sourceId (.int sectorSize)) ↔
      ((slotListing header slots).length ≤ maxToolOutputChars ∧
        stderr.length ≤ maxToolOutputChars) ∧ ∀ slot ∈ slots, slot.Readable) :=
  ⟨readsEntries_iff entries stderr returncode volumeId positive bounded fits,
    readsSlots_iff header slots stderr returncode sourceId hasSectors⟩

/-- A name without metadata of its type. -/
def orphanedName : ListedEntry where
  nameType := .regular
  metaType := .undefined
  deleted := false
  address := 5
  attributes := []
  realloc := false
  path := .ofString "a"

def numeralOf (digit : Fin 10) : Numeral := ⟨[digit], List.cons_ne_nil _ _⟩

/-- The slot of the table itself. -/
def tableSlot : ListedSlot where
  number := 0
  kind := .tableMetadata
  first := numeralOf 0
  last := numeralOf 0
  length := numeralOf 1
  size := [.ofChar 'B']
  description := .ofString "Primary Table"
  isWord := by
    refine ⟨List.cons_ne_nil _ _, fun point isPoint => ?_⟩
    rw [List.mem_singleton.mp isPoint]
    decide
  isLine := unbroken_of_all (by decide)

theorem readsListings_iff_sample :
    (ReadsEntries [orphanedName] (parseFlsOutput (entryListing [orphanedName]) [] 0 [] (.int 1)) ↔
      ((entryListing [orphanedName]).length ≤ maxToolOutputChars ∧
        ([] : PyStr).length ≤ maxToolOutputChars) ∧ ∀ entry ∈ [orphanedName], entry.Readable) ∧
    (ReadsSlots [tableSlot]
        (parseMmlsOutput (slotListing [] [tableSlot]) [] 0 [] (.int 512)) ↔
      ((slotListing [] [tableSlot]).length ≤ maxToolOutputChars ∧
        ([] : PyStr).length ≤ maxToolOutputChars) ∧ ∀ slot ∈ [tableSlot], slot.Readable) :=
  readsListings_iff [orphanedName] [] [tableSlot] [] 0 [] [] 1 512 (by decide) (by decide)
    (by decide) (by decide)

/-- `r/r 5:<TAB>a`. -/
def allocatedFile : ListedEntry := { orphanedName with metaType := .regular }

theorem allocated_not_read :
    ¬∀ (entries : List ListedEntry) (header : List HeaderLine) (slots : List ListedSlot)
      (stderr : PyStr) (returncode : ℤ) (volumeId sourceId : PyStr) (batchSize sectorSize : ℕ),
      0 < batchSize → batchSize ≤ maxBatchSize → entries.length ≤ batchSize → 0 < sectorSize →
        ReadsEntries entries
          (parseFlsOutput (entryListing entries) stderr returncode volumeId (.int batchSize)) ∧
        ReadsSlots slots
          (parseMmlsOutput (slotListing header slots) stderr returncode sourceId
            (.int sectorSize)) := by
  intro read
  have reads := (read [allocatedFile] [] [] [] 0 [] [] 1 512 (by decide) (by decide) (by decide)
    (by decide)).1
  have readable := (readable_of_readsEntries reads (by decide) (by decide)).2
  exact absurd (readable allocatedFile (List.mem_singleton_self _)).1 (by decide)

end Reperio.Scanner.SleuthKit
