import Reperio.Backup.Archive
import Reperio.Python.JsonLayout
import Reperio.Python.KeyOrder

/-!
# Written manifests

`_manifest` of `shared/diagnostics_backup.py`, and that the restore reads the
entries that the backup has written.
-/

namespace Reperio.Backup

open Python

def entryValue (entry : ManifestEntry) : PyValue :=
  .dict [(.str "path", .text entry.path), (.str "sha256", .text entry.digest),
    (.str "size_bytes", .int entry.sizeBytes)]

def manifestValue (schemaVersion : ℤ) (entries : List ManifestEntry) : PyValue :=
  .dict [(.str "format_version", .int backupFormatVersion),
    (.str "schema_version", .int schemaVersion), (.str "entries", .list (entries.map entryValue))]

/-- `json.dumps(manifest, sort_keys=True, indent=2).encode("utf-8")`. -/
def manifestBytes (platform : Platform) (schemaVersion : ℤ) (entries : List ManifestEntry) :
    Except PyError (List UInt8) := do
  return utf8 (← dumpsIndented 2 true platform.recursionLimit (manifestValue schemaVersion entries))

def manifestMember (content : List UInt8) : Member where
  name := manifestName
  kind := .regular
  content := some content

/-! ## Reading it -/

variable {platform : Platform} {schemaVersion : ℤ} {entries : List ManifestEntry}
variable {entry : ManifestEntry} {members : List Member} {content : List UInt8}

/-- The manifest as it is read: its items are in the order of their keys. -/
def readManifest (schemaVersion : ℤ) (entries : List ManifestEntry) : PyDict :=
  [(.str "entries", .list (entries.map entryValue)),
    (.str "format_version", .int backupFormatVersion), (.str "schema_version", .int schemaVersion)]

theorem inKeyOrder_manifestValue :
    (manifestValue schemaVersion entries).inKeyOrder =
      .dict (readManifest schemaVersion entries) := by
  have entryOrder : ∀ entry, (entryValue entry).inKeyOrder = entryValue entry := by
    intro entry
    rw [entryValue, PyValue.inKeyOrder_dict]
    rfl
  have listOrder : (PyValue.list (entries.map entryValue)).inKeyOrder =
      .list (entries.map entryValue) := by
    rw [PyValue.inKeyOrder, PyValue.inKeyOrderItems_eq_map, List.map_map]
    exact congrArg PyValue.list (List.map_congr_left fun entry _ => entryOrder entry)
  have isSorted : [(PyValue.str "format_version", PyValue.int backupFormatVersion),
      (.str "schema_version", .int schemaVersion), (.str "entries", .list (entries.map entryValue))
      ].insertionSort PyValue.KeyLe = readManifest schemaVersion entries := rfl
  rw [manifestValue, PyValue.inKeyOrder_dict, isSorted, readManifest, List.map_cons, Prod.map_apply,
    listOrder]
  rfl

/-- Names that are decoded from a file system have no surrogates that JSON takes for one character.
-/
theorem everywhere_manifestValue {holds : PyValue → Prop}
    (outer : holds (manifestValue schemaVersion entries))
    (list : holds (.list (entries.map entryValue)))
    (inner : ∀ entry ∈ entries, holds (entryValue entry) ∧ holds (.text entry.path) ∧
      holds (.text entry.digest))
    (int : ∀ value, holds (.int value)) (text : ∀ text, holds (.str text)) :
    (manifestValue schemaVersion entries).Everywhere holds := by
  have entryHolds : ∀ value ∈ entries.map entryValue, value.Everywhere holds := by
    rw [List.forall_mem_map]
    intro entry isEntry
    obtain ⟨isHeld, path, digest⟩ := inner entry isEntry
    exact ⟨isHeld, text _, path, text _, digest, text _, int _, trivial⟩
  refine ⟨outer, text _, int _, text _, int _, text _, ?_, trivial⟩
  exact PyValue.everywhere_list_iff.mpr ⟨list, entryHolds⟩

theorem loads_manifest {text : String}
    (written : dumpsIndented 2 true platform.recursionLimit (manifestValue schemaVersion entries) =
      .ok text)
    (joined : ∀ entry ∈ entries, entry.path.joined = entry.path ∧
      entry.digest.joined = entry.digest) :
    loads platform.recursionLimit text = .ok (.dict (readManifest schemaVersion entries)) := by
  obtain ⟨json, isJson, read⟩ := loads_dumpsIndented written
  have textKeys : (manifestValue schemaVersion entries).Everywhere PyValue.TextKeys := by
    refine everywhere_manifestValue ?_ trivial (fun entry _ => ⟨?_, trivial, trivial⟩)
      (fun _ => trivial) fun _ => trivial
    · simp [manifestValue, PyValue.TextKeys, PyValue.str]
    · simp [entryValue, PyValue.TextKeys, PyValue.str]
  have distinctKeys : (manifestValue schemaVersion entries).Everywhere PyValue.DistinctKeys := by
    refine everywhere_manifestValue ?_ trivial (fun entry _ => ⟨?_, trivial, trivial⟩)
      (fun _ => trivial) fun _ => trivial
    · change (["format_version", "schema_version", "entries"].map PyValue.str).Nodup
      exact List.Nodup.map PyValue.str_injective (by decide)
    · change (["path", "sha256", "size_bytes"].map PyValue.str).Nodup
      exact List.Nodup.map PyValue.str_injective (by decide)
  have joinedText : (manifestValue schemaVersion entries).Everywhere PyValue.JoinedText :=
    everywhere_manifestValue trivial trivial
      (fun entry isEntry => ⟨trivial, (joined entry isEntry).1, (joined entry isEntry).2⟩)
      (fun _ => trivial) fun text => PyStr.joined_ofString text
  obtain ⟨isJoined, back⟩ := ofJson_toJson textKeys distinctKeys joinedText isJson
  rw [read, isJoined, back, inKeyOrder_manifestValue]

/-! ## Its entries -/

/-- What the restore asks of an entry. -/
structure IsValidEntry (entry : ManifestEntry) : Prop where
  named : entry.path ≠ []
  other : entry.path ≠ manifestName
  length : entry.digest.length = 64
  hex : entry.digest.all isHexDigit = true
  isSafe : IsSafe entry.path

theorem manifestEntry_entryValue (valid : IsValidEntry entry) :
    manifestEntry (entryValue entry) = .ok entry := by
  have fields : manifestEntry (entryValue entry) =
      if entry.path = [] ∨ entry.path = manifestName ∨ entry.digest.length ≠ 64 ∨
          entry.digest.all isHexDigit = false then
        .error (.diagnosticsBackupError "corrupt_manifest" "backup manifest entry is invalid")
      else do
        validateMember entry.path .regular
        return entry := rfl
  rw [fields, if_neg, validateMember_eq_ok_iff.mpr ⟨rfl, valid.isSafe⟩]
  · rfl
  · simp [valid.named, valid.other, valid.length, valid.hex]

theorem add_entryValue {expected : ManifestEntries} (valid : IsValidEntry entry)
    (distinct : ((expected.entries ++ [entry]).map ManifestEntry.path).Nodup) :
    expected.add (entryValue entry) = .ok ⟨expected.entries ++ [entry], distinct⟩ := by
  have isNew : entry.path ∉ expected.entries.map ManifestEntry.path := by
    rw [List.map_append, List.nodup_append] at distinct
    exact fun present => distinct.2.2 _ present _ List.mem_cons_self rfl
  rw [ManifestEntries.add, manifestEntry_entryValue valid]
  exact dif_neg isNew

theorem manifestEntries_readManifest (distinct : (entries.map ManifestEntry.path).Nodup)
    (valid : ∀ entry ∈ entries, IsValidEntry entry) :
    manifestEntries (readManifest schemaVersion entries) = .ok ⟨entries, distinct⟩ := by
  have added : ∀ (later : List ManifestEntry) (expected : ManifestEntries)
      (distinct : ((expected.entries ++ later).map ManifestEntry.path).Nodup),
      (∀ entry ∈ later, IsValidEntry entry) →
      (later.map entryValue).foldlM ManifestEntries.add expected =
        .ok ⟨expected.entries ++ later, distinct⟩ := by
    intro later
    induction later with
    | nil =>
      intro expected distinct _
      rw [List.map_nil, List.foldlM_nil]
      simp only [List.append_nil]
      rfl
    | cons entry later ih =>
      intro expected distinct valid
      rw [List.forall_mem_cons] at valid
      rw [List.append_cons] at distinct
      have first : ((expected.entries ++ [entry]).map ManifestEntry.path).Nodup := by
        rw [List.map_append] at distinct
        exact (List.nodup_append.mp distinct).1
      rw [List.map_cons, List.foldlM_cons, add_entryValue valid.1 first]
      simp only [List.append_cons expected.entries entry later]
      exact ih ⟨expected.entries ++ [entry], first⟩ distinct valid.2
  exact added entries ⟨[], List.nodup_nil⟩ distinct valid

/-- The first of the members is the manifest, and the only one under its name. -/
theorem loadManifest_written (written : manifestBytes platform schemaVersion entries = .ok content)
    (joined : ∀ entry ∈ entries, entry.path.joined = entry.path ∧
      entry.digest.joined = entry.digest)
    (others : ∀ member ∈ members, member.name ≠ manifestName) :
    loadManifest platform (manifestMember content :: members) =
      .ok (readManifest schemaVersion entries) := by
  obtain ⟨text, isText, isContent⟩ := bind_eq_ok written
  obtain rfl := Except.ok.inj isContent
  have found : getMember (manifestMember (utf8 text) :: members) manifestName =
      some (manifestMember (utf8 text)) := by
    rw [getMember, List.reverse_cons, List.find?_append, List.find?_eq_none.mpr]
    · rfl
    · intro member isMember
      simpa using others member (List.mem_reverse.mp isMember)
  have extracted : extractManifest platform (manifestMember (utf8 text) :: members)
      platform.recursionLimit (manifestMember (utf8 text)) = .ok (utf8 text) := by
    cases isLimit : platform.recursionLimit with
    | zero =>
      rw [isLimit] at isText
      cases isText
    | succ depth => rfl
  rw [loadManifest, found]
  dsimp only
  rw [extracted]
  dsimp only [bind, Except.bind]
  rw [utf8Decode_utf8]
  dsimp only
  rw [loads_manifest isText joined]
  exact if_pos rfl

end Reperio.Backup
