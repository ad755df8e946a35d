import Reperio.Python.Operators
import Reperio.Python.PurePath
import Reperio.Python.Utf8

/-!
# Backup archives

`shared/diagnostics_backup.py`: the members of an archive, the manifest among them,
and the checks on both. What is not of this file is in the platform: the digest of
a content, the conversions to numbers, and where the link members of an archive
lead.
-/

namespace Reperio.Backup

open Python

/-- How a backup or a restore fails. -/
inductive BackupError where
  | diagnosticsBackupError (code message : String)
  -- of the interpreter, of the archive or of the system
  | raised
  deriving DecidableEq

/-- What a member of an archive is, by its type flag. -/
inductive MemberKind where
  -- a file, and every kind that is unknown
  | regular
  | directory
  | symlink
  | hardLink
  | device
  deriving DecidableEq

/-- A member of an archive, as `tarfile` reads it. -/
structure Member where
  name : PyStr
  kind : MemberKind
  -- nothing where the archive ends before the data
  content : Option (List UInt8)
  deriving DecidableEq

/-- What the interpreter and the library answer. -/
structure Platform where
  -- `hashlib.sha256(content).hexdigest()`
  sha256 : List UInt8 → PyStr
  -- `int(value)`
  toInt : PyValue → Except PyError ℤ
  -- the member that `tarfile` finds behind a link
  linkTarget : List Member → Member → Option Member
  recursionLimit : ℕ

def backupFormatVersion : ℤ := 1

def excludedNames : List PyStr :=
  ["secrets", "source", "sources", "source-content", "disk-images"].map PyStr.ofString

def manifestName : PyStr := .ofString "manifest.json"

/-! ## Members -/

/-- `_validate_member`. -/
def validateMember (name : PyStr) (kind : MemberKind) : Except BackupError Unit :=
  let path := PurePath.ofText name
  if kind ≠ .regular then
    .error (.diagnosticsBackupError "unsafe_member" "backup member type is unsafe")
  else if path.isAbsolute = true ∨ .ofString ".." ∈ path.allParts then
    .error (.diagnosticsBackupError "unsafe_path" "backup member path is unsafe")
  else if ∃ first ∈ path.allParts.head?, first ∈ excludedNames then
    .error (.diagnosticsBackupError "excluded_member" "backup contains excluded state")
  else .ok ()

/-- `archive.getmember(name)`: of several members the last one. -/
def getMember (members : List Member) (name : PyStr) : Option Member :=
  members.reverse.find? fun member => member.name = name

/-- `archive.extractfile(member).read()`, with so many links still to be followed. A link that leads
nowhere is a manifest that is missing. -/
def extractManifest (platform : Platform) (members : List Member) :
    ℕ → Member → Except BackupError (List UInt8)
  | 0, _ => .error .raised
  | depth + 1, member =>
    match member.kind with
    | .regular => member.content.elim (.error .raised) .ok
    | .symlink | .hardLink =>
      match platform.linkTarget members member with
      | some target => extractManifest platform members depth target
      | none => .error (.diagnosticsBackupError "missing_manifest" "backup manifest is missing")
    | .directory | .device =>
      .error (.diagnosticsBackupError "missing_manifest" "backup manifest cannot be read")

/-! ## The manifest -/

/-- `_load_manifest`. -/
def loadManifest (platform : Platform) (members : List Member) : Except BackupError PyDict := do
  let corrupt := .error (.diagnosticsBackupError "corrupt_manifest" "backup manifest is corrupt")
  let unsupported :=
    .error (.diagnosticsBackupError "unsupported_backup" "backup format is unsupported")
  let content ←
    match getMember members manifestName with
    | none => .error (.diagnosticsBackupError "missing_manifest" "backup manifest is missing")
    | some member => extractManifest platform members platform.recursionLimit member
  match utf8Decode content with
  | none => corrupt
  | some text =>
    match loads platform.recursionLimit text with
    | .error .jsonDecodeError => corrupt
    | .error _ => .error .raised
    | .ok (.dict manifest) =>
      if (PyDict.get manifest "format_version").eq (.int backupFormatVersion) then .ok manifest
      else unsupported
    | .ok _ => unsupported

/-- A file that the manifest lists. -/
structure ManifestEntry where
  path : PyStr
  digest : PyStr
  sizeBytes : ℕ
  deriving DecidableEq

def isHexDigit (point : CodePoint) : Bool := decide (point ∈ PyStr.ofString "0123456789abcdef")

/-- The checks on one entry of the manifest. -/
def manifestEntry (item : PyValue) : Except BackupError ManifestEntry :=
  let invalid :=
    .error (.diagnosticsBackupError "corrupt_manifest" "backup manifest entry is invalid")
  match item with
  | .dict fields =>
    match PyDict.get fields "path", PyDict.get fields "sha256", PyDict.get fields "size_bytes" with
    | .text path, .text digest, .int (.ofNat sizeBytes) =>
      if path = [] ∨ path = manifestName ∨ digest.length ≠ 64 ∨ digest.all isHexDigit = false then
        invalid
      else do
        validateMember path .regular
        return { path, digest, sizeBytes }
    | _, _, _ => invalid
  | _ => invalid

/-- The entries of a manifest, under different paths. -/
structure ManifestEntries where
  entries : List ManifestEntry
  distinct : (entries.map ManifestEntry.path).Nodup

namespace ManifestEntries

def add (expected : ManifestEntries) (item : PyValue) : Except BackupError ManifestEntries := do
  let entry ← manifestEntry item
  if present : entry.path ∈ expected.entries.map ManifestEntry.path then
    .error (.diagnosticsBackupError "duplicate_member" "backup manifest contains duplicates")
  else
    .ok
      { entries := expected.entries ++ [entry]
        distinct := by
          rw [List.map_append, List.nodup_append]
          refine ⟨expected.distinct, List.nodup_singleton _, ?_⟩
          intro path isOld other isNew same
          obtain rfl := List.mem_singleton.mp isNew
          exact present (same ▸ isOld) }

/-- `expected[name]`, with the size of the entry. -/
def find? (expected : ManifestEntries) (name : PyStr) : Option ManifestEntry :=
  expected.entries.find? fun entry => entry.path = name

variable {expected : ManifestEntries} {entry : ManifestEntry} {name : PyStr}

theorem mem_of_find? (found : expected.find? name = some entry) :
    entry ∈ expected.entries ∧ entry.path = name :=
  ⟨List.mem_of_find?_eq_some found, by simpa using List.find?_some found⟩

theorem find?_of_mem (isEntry : entry ∈ expected.entries) :
    expected.find? entry.path = some entry := by
  cases found : expected.find? entry.path with
  | none => simpa using List.find?_eq_none.mp found entry isEntry
  | some other =>
    obtain ⟨isOther, same⟩ := mem_of_find? found
    exact congrArg some (List.inj_on_of_nodup_map expected.distinct isOther isEntry same)

end ManifestEntries

/-- `_manifest_entries`. -/
def manifestEntries (manifest : PyDict) : Except BackupError ManifestEntries :=
  match manifest.get "entries" with
  | .list items => items.foldlM ManifestEntries.add ⟨[], List.nodup_nil⟩
  | _ => .error (.diagnosticsBackupError "corrupt_manifest" "backup manifest entries are invalid")

/-! ## Paths -/

/-- What `_validate_member` asks of a name. -/
structure IsSafe (name : PyStr) : Prop where
  relative : (PurePath.ofText name).isAbsolute = false
  noParent : .ofString ".." ∉ (PurePath.ofText name).allParts
  included : ¬ ∃ first ∈ (PurePath.ofText name).allParts.head?, first ∈ excludedNames

theorem validateMember_eq_ok_iff {name : PyStr} {kind : MemberKind} :
    validateMember name kind = .ok () ↔ kind = .regular ∧ IsSafe name := by
  unfold validateMember
  dsimp only
  constructor
  · intro valid
    split at valid
    · cases valid
    rename_i isRegular
    split at valid
    · cases valid
    rename_i isSafe
    split at valid
    · cases valid
    rename_i isIncluded
    rw [not_or, Bool.not_eq_true] at isSafe
    exact ⟨not_not.mp isRegular, isSafe.1, isSafe.2, isIncluded⟩
  · rintro ⟨rfl, safe⟩
    rw [if_neg (by simp), if_neg (by simp [safe.relative, safe.noParent]), if_neg safe.included]

end Reperio.Backup
