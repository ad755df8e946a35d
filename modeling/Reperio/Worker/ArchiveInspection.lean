import Reperio.Encoding.Firsts
import Reperio.Python.PurePath
import Reperio.Python.Quotient
import Reperio.Python.Repr

/-!
# Archives

`worker/archive_inspection.py`: the record that the sandbox writes of an archive is
normalized, and extraction is planned for the members that are left. A member that is
malformed is left out, and so are those beyond the limit. An allowed plan is one for
the whole archive exactly when nothing was left out and what is not looked at is
harmless (`allowed_iff`).
-/

namespace Reperio.Worker.ArchiveInspection

open Python Encoding

/-- A member of an archive. -/
structure ArchiveMember where
  path : PyStr
  kind : PyStr
  sizeBytes : ℕ
  compressedSizeBytes : Option ℕ
  encrypted : Bool
  extractionAllowed : Bool
  warnings : List PyStr
  deriving DecidableEq

/-- Whether an archive may be extracted. -/
structure ExtractionPlan where
  allowed : Bool
  reason : String
  memberCount : ℕ
  deriving DecidableEq

/-- What an inspection returns. -/
structure ArchiveInspectionResult where
  status : PyStr
  mimeType : PyStr
  archiveFormat : PyStr
  encrypted : Bool
  passwordRequired : Bool
  members : List ArchiveMember
  nestedDepth : ℕ
  -- none is the plan without entries
  extractionPlan : Option ExtractionPlan
  warnings : List PyStr
  deriving DecidableEq

/-! ## Values -/

/-- `_nonnegative_int`. -/
def nonnegativeInt? (value : PyValue) : Option ℕ :=
  value.int?.bind fun number => if 0 ≤ number then some number.toNat else none

/-- `_positive_int`. -/
def positiveInt? (value : PyValue) : Option ℕ :=
  value.int?.bind fun number => if 0 < number then some number.toNat else none

/-- `_format_from_mime`. -/
def formatFromMime (mimeType : PyStr) : PyStr :=
  let formats := [("application/zip", "zip"), ("application/x-7z-compressed", "7z"),
    ("application/vnd.rar", "rar"), ("application/x-tar", "tar"), ("application/gzip", "gzip")]
  match formats.find? fun format => mimeType = PyStr.ofString format.1 with
  | some format => .ofString format.2
  | none => .ofString "unknown"

def backslash : CodePoint := .ofChar '\\'

/-- `path.replace("\\", "/")`. -/
def slashed (path : PyStr) : PyStr :=
  path.map fun point => if point = backslash then slash else point

/-- `_unsafe_path`: no part of a path is empty. -/
def unsafePath (path : PyStr) : Bool :=
  decide (path.head? = some slash ∨ path.head? = some backslash) ||
    decide (PyStr.ofString ".." ∈ (PurePath.ofText (slashed path)).allParts)

/-- `size_bytes / compressed_size > MAX_COMPRESSION_RATIO`. -/
def exceedsRatio (size compressed : ℕ) : Except PyError Bool := do
  let ratio ← quotient size compressed
  return decide (100 < ratio)

/-- The ratio is exceeded, if there is a compressed size to compare with. -/
def isTooDense (compressed : Option ℕ) (size : ℕ) : Except PyError Bool := match compressed with
  | some (compressed + 1) => exceedsRatio size (compressed + 1)
  | _ => .ok false

section

variable (display : Display)

/-- `_strings`. -/
def strings : PyValue → Except PyError (List PyStr)
  | .list items => items.mapM fun item => do return (← textOf display item).take 256
  | _ => .ok []

/-- `str(value or default)`. -/
def textOrDefault (value : PyValue) (default : PyStr) : Except PyError PyStr :=
  textOf display (value.orElse (.text default))

def memberKinds : List PyStr := ["file", "directory", "symlink", "device"].map PyStr.ofString

/-! ## Members -/

/-- The warnings of a member of a known size. -/
def memberWarnings (items : PyDict) (path kind : PyStr) (size : ℕ) :
    Except PyError (List PyStr) := do
  let declared ← strings display (items.get "warnings")
  let dense ← isTooDense (nonnegativeInt? (items.get "compressed_size_bytes")) size
  let location := if unsafePath path then [.ofString "unsafe_member_path"] else []
  let special := if kind ∈ [PyStr.ofString "symlink", .ofString "device"] then
    [.ofString "unsafe_member_kind:" ++ kind] else []
  return declared ++ location ++ special ++
    if dense then [.ofString "compression_ratio_limit"] else []

/-- `_member`: nothing for a member that is malformed. -/
def member : PyValue → Except PyError (Option ArchiveMember)
  | .dict items => do
      let path ← textOrEmpty display (PyDict.get items "path")
      let kind ← textOrDefault display (PyDict.get items "kind") (.ofString "file")
      match nonnegativeInt? (PyDict.get items "size_bytes") with
      | none => return none
      | some size =>
        if path = [] ∨ kind ∉ memberKinds then return none
        let warnings ← memberWarnings display items path kind size
        let encrypted := (PyDict.get items "encrypted").truthy
        return some {
          path, kind, sizeBytes := size
          compressedSizeBytes := nonnegativeInt? (PyDict.get items "compressed_size_bytes")
          encrypted, extractionAllowed := warnings.isEmpty && !encrypted
          warnings := warnings.eraseDups }
  | _ => .ok none

/-! ## Archives -/

/-- `_extraction_plan`. -/
def planExtraction (allowExtraction : Bool) (members : List ArchiveMember) (passwordRequired : Bool)
    (nestedDepth maxNestedDepth : ℕ) : ExtractionPlan :=
  let blocked reason : ExtractionPlan := ⟨false, reason, members.length⟩
  if !allowExtraction then blocked "extraction_not_requested"
  else if passwordRequired then blocked "password_required"
  else if maxNestedDepth < nestedDepth then blocked "nested_depth_blocked"
  else if members.any fun member => !member.extractionAllowed then blocked "unsafe_members_blocked"
  else ⟨true, "bounded_scratch_extraction", members.length⟩

/-- The members of a record, if it has a list of them. -/
def membersOf? (record : PyDict) : Option (List PyValue) := match record.get "members" with
  | .list members => some members
  | _ => none

/-- `_normalize_record`. -/
def normalizeRecord (record : PyDict) (mimeType : PyStr) (allowExtraction : Bool)
    (maxMembers maxNestedDepth : ℕ) : Except PyError ArchiveInspectionResult := do
  let status ← textOrDefault display (record.get "status") (.ofString "complete")
  let archiveFormat ← textOrDefault display (record.get "archive_format") (formatFromMime mimeType)
  let encrypted := (record.get "encrypted").truthy
  let passwordRequired := (record.get "password_required").truthy || encrypted
  let declared ← strings display (record.get "warnings")
  if status ≠ .ofString "complete" then
    return {
      status, mimeType, archiveFormat, encrypted, passwordRequired, members := [], nestedDepth := 0
      extractionPlan := none, warnings := declared.eraseDups }
  let rawMembers := (membersOf? record).getD []
  let parsed ← (rawMembers.take maxMembers).mapM (member display)
  let members := parsed.filterMap id
  let nestedDepth := (positiveInt? (record.get "nested_depth")).getD 0
  let plan := planExtraction allowExtraction members passwordRequired nestedDepth maxNestedDepth
  let warnings := declared ++
    (if (membersOf? record).isNone then [.ofString "missing_archive_members"] else []) ++
    (if maxMembers < rawMembers.length then [.ofString "archive_member_limit_applied"] else []) ++
    (if parsed.any Option.isNone then [.ofString "invalid_archive_member"] else []) ++
    (if maxNestedDepth < nestedDepth then [.ofString "nested_depth_limit_exceeded"] else []) ++
    (if plan.allowed then [] else [.ofString plan.reason])
  return {
    status, mimeType, archiveFormat, encrypted, passwordRequired, members, nestedDepth
    extractionPlan := some plan, warnings := warnings.eraseDups }

end

/-! ## Vetted archives -/

def isDriveLetter (point : CodePoint) : Bool :=
  decide (0x41 ≤ point.val ∧ point.val ≤ 0x5A) || decide (0x61 ≤ point.val ∧ point.val ≤ 0x7A)

/-- The path begins with the letter of a drive. -/
def hasDrive : PyStr → Bool
  | letter :: mark :: _ => isDriveLetter letter && decide (mark = .ofChar ':')
  | _ => false

/-- The path is relative and has no component that leads upwards, whatever separates them. -/
def StaysInside (path : PyStr) : Prop := path.head? ≠ some slash ∧ path.head? ≠ some backslash ∧
    PyStr.ofString ".." ∉ (slashed path).splitOn slash

section

variable (display : Display)

/-- What an object must say for it to be a member at all. -/
structure Declares (items : PyDict) (path kind : PyStr) (size : ℕ) : Prop where
  isPath : textOrEmpty display (items.get "path") = .ok path
  hasPath : path ≠ []
  isKind : textOrDefault display (items.get "kind") (.ofString "file") = .ok kind
  knownKind : kind ∈ memberKinds
  isSize : nonnegativeInt? (items.get "size_bytes") = some size

/-- A file or directory that is not encrypted, stays inside, and has at most a hundred times its
compressed size. -/
def VettedMember (value : PyValue) : Prop :=
  ∃ (items : PyDict) (path kind : PyStr) (size compressed : ℕ), value = .dict items ∧
    Declares display items path kind size ∧
    kind ∈ ["file", "directory"].map PyStr.ofString ∧ StaysInside path ∧ hasDrive path = false ∧
    (items.get "encrypted").truthy = false ∧
    nonnegativeInt? (items.get "compressed_size_bytes") = some compressed ∧ size ≤ 100 * compressed

/-- A member that is not left out, without a drive, with a compressed size, and not just so far
above the ratio that the quotient is rounded to it. -/
def PlainMember (value : PyValue) : Prop :=
  ∃ (items : PyDict) (path kind : PyStr) (size compressed : ℕ), value = .dict items ∧
    Declares display items path kind size ∧ hasDrive path = false ∧
    nonnegativeInt? (items.get "compressed_size_bytes") = some compressed ∧
    (100 * compressed < size → 0 < compressed ∧ (100 * 2 ^ 47 + 1) * compressed < 2 ^ 47 * size)

/-- At most so many members, all of which are such. -/
def AllMembers (holds : PyValue → Prop) (maxMembers : ℕ) (record : PyDict) : Prop :=
  ∃ members, membersOf? record = some members ∧ members.length ≤ maxMembers ∧
    ∀ value ∈ members, holds value

end

variable {display : Display}

theorem VettedMember.plain {value : PyValue} (vetted : VettedMember display value) :
    PlainMember display value := by
  rcases vetted with ⟨items, path, kind, size, compressed, isDict, declares, _, _, noDrive, _,
    isCompressed, small⟩
  exact ⟨items, path, kind, size, compressed, isDict, declares, noDrive, isCompressed,
    fun large => absurd small (not_le.mpr large)⟩

/-! ## What an allowed plan says -/

variable {path : PyStr} {found : Option ArchiveMember}

theorem member_of_declares {items : PyDict} {kind : PyStr} {size : ℕ}
    (declares : Declares display items path kind size)
    (parsed : member display (.dict items) = .ok found) :
    ∃ warnings, memberWarnings display items path kind size = .ok warnings ∧
      ∃ archived, found = some archived ∧
        archived.extractionAllowed = (warnings.isEmpty && !(items.get "encrypted").truthy) := by
  rw [member, declares.isPath, declares.isKind] at parsed
  have some : ¬(path = [] ∨ kind ∉ memberKinds) :=
    not_or.mpr ⟨declares.hasPath, not_not.mpr declares.knownKind⟩
  simp only [declares.isSize, bind, Except.bind, if_neg some] at parsed
  cases warned : memberWarnings display items path kind size with
  | error error =>
    rw [warned] at parsed
    cases parsed
  | ok warnings =>
    rw [warned] at parsed
    cases parsed
    exact ⟨warnings, rfl, _, rfl, rfl⟩

theorem stays_of_not_unsafePath (notUnsafe : unsafePath path = false) : StaysInside path := by
  rw [unsafePath, Bool.or_eq_false_iff, decide_eq_false_iff_not, decide_eq_false_iff_not, not_or]
    at notUnsafe
  rcases notUnsafe with ⟨⟨noSlash, noBackslash⟩, noParent⟩
  refine ⟨noSlash, noBackslash, fun isParent => noParent ?_⟩
  have relative : (slashed path).head? ≠ some slash := by
    intro isSlash
    rw [slashed, List.head?_map, Option.map_eq_some_iff] at isSlash
    rcases isSlash with ⟨point, isHead, isSlash⟩
    split at isSlash
    · rename_i isBackslash
      exact noBackslash (isBackslash ▸ isHead)
    · exact noSlash (isSlash ▸ isHead)
  have noRoot := PurePath.splitRoot_of_relative relative
  have isPart : PyStr.ofString ".." ∈ (PurePath.ofText (slashed path)).parts := by
    refine List.mem_filter.mpr ⟨?_, by decide⟩
    rw [noRoot]
    exact isParent
  have root : (PurePath.ofText (slashed path)).root = [] := congrArg Prod.fst noRoot
  rwa [PurePath.allParts, if_pos root]

theorem memberWarnings_eq_nil {items : PyDict} {kind : PyStr} {size : ℕ}
    (knownKind : kind ∈ memberKinds)
    (warned : memberWarnings display items path kind size = .ok []) :
    unsafePath path = false ∧ kind ∈ ["file", "directory"].map PyStr.ofString ∧
      ∀ compressed, nonnegativeInt? (items.get "compressed_size_bytes") = some compressed →
        0 < compressed → exceedsRatio size compressed = .ok false := by
  rw [memberWarnings] at warned
  rcases bind_eq_ok warned with ⟨declared, _, warned⟩
  rcases bind_eq_ok warned with ⟨dense, isDense, warned⟩
  have none := Except.ok.inj warned
  simp only [List.append_eq_nil_iff] at none
  rcases none with ⟨⟨⟨_, location⟩, special⟩, ratio⟩
  refine ⟨?_, ?_, ?_⟩
  · cases isUnsafe : unsafePath path with
    | false => rfl
    | true =>
      rw [isUnsafe] at location
      cases location
  · by_cases isSpecial : kind ∈ [PyStr.ofString "symlink", .ofString "device"]
    · rw [if_pos isSpecial] at special
      cases special
    · simp only [memberKinds, List.map_cons, List.map_nil, List.mem_cons, List.not_mem_nil,
        or_false] at knownKind isSpecial ⊢
      tauto
  · intro compressed isCompressed positive
    rcases compressed with _ | compressed
    · exact absurd positive (lt_irrefl 0)
    rw [isCompressed, isTooDense] at isDense
    cases dense with
    | false => exact isDense
    | true => cases ratio

theorem allowed_of_planExtraction {members : List ArchiveMember} {passwordRequired : Bool}
    {nestedDepth maxNestedDepth : ℕ}
    (allowed : (planExtraction true members passwordRequired nestedDepth maxNestedDepth).allowed =
    true) :
    ∀ archived ∈ members, archived.extractionAllowed = true := by
  rw [planExtraction, Bool.not_true, if_neg Bool.false_ne_true] at allowed
  split at allowed
  · cases allowed
  split at allowed
  · cases allowed
  split at allowed
  · cases allowed
  rename_i none
  simpa using none

/-- What is planned to be extracted are the members that are left, and each of them is allowed. -/
theorem exists_parsed {record : PyDict} {mimeType : PyStr} {maxMembers maxNestedDepth : ℕ}
    {result : ArchiveInspectionResult} {plan : ExtractionPlan}
    (normalized : normalizeRecord display record mimeType true maxMembers maxNestedDepth =
      .ok result)
    (isPlan : result.extractionPlan = some plan) (allowed : plan.allowed = true) :
    ∃ parsed, (((membersOf? record).getD []).take maxMembers).mapM (member display) = .ok parsed ∧
      ∀ archived, some archived ∈ parsed → archived.extractionAllowed = true := by
  rw [normalizeRecord] at normalized
  rcases bind_eq_ok normalized with ⟨status, _, normalized⟩
  rcases bind_eq_ok normalized with ⟨archiveFormat, _, normalized⟩
  rcases bind_eq_ok normalized with ⟨declared, _, normalized⟩
  dsimp only at normalized
  split at normalized
  · cases normalized
    cases isPlan
  rcases bind_eq_ok normalized with ⟨parsed, isParsed, normalized⟩
  cases normalized
  cases isPlan
  refine ⟨parsed, isParsed, fun archived isMember => ?_⟩
  exact allowed_of_planExtraction allowed archived
    (List.mem_filterMap.mpr ⟨some archived, isMember, rfl⟩)

/-- A quotient that does not exceed the ratio is at most half of a unit above. -/
theorem le_of_exceedsRatio_eq_false {size compressed : ℕ} (positive : 0 < compressed)
    (small : exceedsRatio size compressed = .ok false) :
    2 ^ 47 * size ≤ (100 * 2 ^ 47 + 1) * compressed := by
  rcases bind_eq_ok small with ⟨ratio, isRatio, small⟩
  have near := of_decide_eq_false (Except.ok.inj small)
  rw [quotient] at isRatio
  cases isNearest : nearestDouble ((size : ℚ) / compressed) with
  | none =>
    rw [isNearest] at isRatio
    cases isRatio
  | some double =>
    rw [isNearest] at isRatio
    cases isRatio
    have bound := (nearestDouble_le_hundred_iff isNearest).mp (not_lt.mp near)
    have cast : (0 : ℚ) < compressed := Nat.cast_pos.mpr positive
    rw [div_le_iff₀ cast] at bound
    have scaled : (2 : ℚ) ^ 47 * size ≤ (100 * 2 ^ 47 + 1) * compressed := by
      norm_num at bound ⊢
      linarith
    exact_mod_cast scaled

theorem PlainMember.vetted {value : PyValue} (plain : PlainMember display value)
    (parsed : member display value = .ok found)
    (allowed : ∀ archived, found = some archived → archived.extractionAllowed = true) :
    VettedMember display value := by
  rcases plain with ⟨items, path, kind, size, compressed, rfl, declares, noDrive, isCompressed,
    ratio⟩
  rcases member_of_declares declares parsed with ⟨warnings, warned, archived, isArchived, isAllowed⟩
  rw [allowed archived isArchived, eq_comm, Bool.and_eq_true, List.isEmpty_iff, Bool.not_eq_true']
    at isAllowed
  rcases isAllowed with ⟨rfl, notEncrypted⟩
  rcases memberWarnings_eq_nil declares.knownKind warned with ⟨notUnsafe, isKind, small⟩
  refine ⟨items, path, kind, size, compressed, rfl, declares, isKind,
    stays_of_not_unsafePath notUnsafe,
    noDrive, notEncrypted, isCompressed, ?_⟩
  by_contra large
  rcases ratio (not_le.mp large) with ⟨positive, above⟩
  have near := le_of_exceedsRatio_eq_false positive (small compressed isCompressed positive)
  omega

/-- An allowed plan is for an archive all of whose members are vetted exactly when none of them was
left out, each has a compressed size and no drive, and no quotient was rounded to the ratio. -/
theorem allowed_iff (display : Display) (record : PyDict) (mimeType : PyStr)
    (maxMembers maxNestedDepth : ℕ) (result : ArchiveInspectionResult) (plan : ExtractionPlan)
    (normalized : normalizeRecord display record mimeType true maxMembers maxNestedDepth =
      .ok result)
    (isPlan : result.extractionPlan = some plan) (allowed : plan.allowed = true) :
    AllMembers (VettedMember display) maxMembers record ↔
      AllMembers (PlainMember display) maxMembers record := by
  constructor
  · rintro ⟨members, isMembers, few, each⟩
    exact ⟨members, isMembers, few, fun value isValue => (each value isValue).plain⟩
  · rintro ⟨members, isMembers, few, each⟩
    refine ⟨members, isMembers, few, fun value isValue => ?_⟩
    rcases exists_parsed normalized isPlan allowed with ⟨parsed, isParsed, parsedAllowed⟩
    rw [isMembers, Option.getD_some, List.take_of_length_le few] at isParsed
    rcases exists_of_mapM_eq_ok isParsed isValue with ⟨found, isFound, isMember⟩
    refine (each value isValue).vetted isFound fun archived isArchived => ?_
    exact parsedAllowed archived (isArchived ▸ isMember)

/-! ## Two archives -/

def archiveRecord (members : List PyValue) : PyDict := [(.str "members", .list members)]

def allowedPlan (memberCount : ℕ) : ExtractionPlan :=
    ⟨true, "bounded_scratch_extraction", memberCount⟩

def zipResult (members : List ArchiveMember) (warnings : List String) :
    ArchiveInspectionResult where
  status := .ofString "complete"
  mimeType := .ofString "application/zip"
  archiveFormat := .ofString "zip"
  encrypted := false
  passwordRequired := false
  members
  nestedDepth := 0
  extractionPlan := some (allowedPlan members.length)
  warnings := warnings.map PyStr.ofString

def safeMember : PyValue :=
  .dict [(.str "path", .str "safe.txt"), (.str "kind", .str "file"), (.str "size_bytes", .int 1000),
    (.str "compressed_size_bytes", .int 10)]

def safeArchived : ArchiveMember where
  path := .ofString "safe.txt"
  kind := .ofString "file"
  sizeBytes := 1000
  compressedSizeBytes := some 10
  encrypted := false
  extractionAllowed := true
  warnings := []

theorem allowed_iff_safe :
    AllMembers (VettedMember ⟨fun _ => true, []⟩) 10 (archiveRecord [safeMember]) ↔
      AllMembers (PlainMember ⟨fun _ => true, []⟩) 10 (archiveRecord [safeMember]) :=
  allowed_iff ⟨fun _ => true, []⟩ (archiveRecord [safeMember]) (.ofString "application/zip") 10 3
    (zipResult [safeArchived] []) (allowedPlan 1) (by decide +kernel) rfl rfl

/-- A member without a size that would be written outside. -/
def escapingMember : PyValue :=
  .dict [(.str "path", .str "../escape.txt"), (.str "kind", .str "file")]

theorem escapingMember_allowed :
    normalizeRecord ⟨fun _ => true, []⟩ (archiveRecord [escapingMember])
      (.ofString "application/zip") true 10 3 = .ok (zipResult [] ["invalid_archive_member"]) ∧
      ¬ AllMembers (VettedMember ⟨fun _ => true, []⟩) 10 (archiveRecord [escapingMember]) := by
  refine ⟨by decide +kernel, ?_⟩
  rintro ⟨members, isMembers, _, each⟩
  cases isMembers
  rcases each escapingMember List.mem_cons_self
    with ⟨items, path, kind, size, _, isDict, declares, _⟩
  cases isDict
  cases declares.isSize

end Reperio.Worker.ArchiveInspection
