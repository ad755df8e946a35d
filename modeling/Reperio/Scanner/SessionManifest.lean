import Reperio.Python.KeyOrder
import Reperio.Scanner.PhotorecSession

/-!
# Manifests of sessions

`scanner/photorec_resume.py`: what is stored beside the copy of a session, and
how it is read back. The binding goes through JSON, in which tuples are lists
and from which every field is checked again.
-/

namespace Reperio.Scanner.Photorec

open Python

def maxManifestBytes : ℕ := 1048576
def maxProgressBytes : ℕ := 16384

-- the recursion limit of the interpreter
variable (limit : ℕ)

/-! ## Progress -/

def counterMember (name : String) (counter : Option (Fin (maxProgressValue + 1))) :
    List (PyStr × Json) :=
  counter.elim [] fun count => [(.ofString name, .int (count : ℕ))]

/-- The counters that are there, in the order of their names. -/
def Progress.json (progress : Progress) : Json :=
  .object (counterMember "last_sector" progress.lastSector ++
    counterMember "recovered_count" progress.recoveredCount)

def invalidProgress (message : String) : PhotorecError := .resume "invalid_progress" message

/-- The end of `_normalize_progress`: the counters have to be written in few bytes. -/
def boundedProgress (progress : Progress) : Except PhotorecError Progress :=
  match dumps true limit (ofJson progress.json) with
  | .error _ => .error (invalidProgress "PhotoRec progress is malformed")
  | .ok text =>
    if maxProgressBytes < (utf8 text).length then
      .error (invalidProgress "PhotoRec progress is too large")
    else .ok progress

def isKey (names : List String) : PyValue → Bool
  | .text points => names.any fun name => decide (points = .ofString name)
  | _ => false

def counter? : PyValue → Option (Fin (maxProgressValue + 1))
  | .int (.ofNat count) =>
    if bounded : count < maxProgressValue + 1 then some ⟨count, bounded⟩ else none
  | _ => none

def normalizeProgress : PyValue → Except PhotorecError Progress
  | .dict items =>
    if (items.any fun item => !isKey ["recovered_count", "last_sector"] item.1) ||
        items.any fun item => (counter? item.2).isNone then
      .error (invalidProgress "PhotoRec progress is malformed")
    else
      boundedProgress limit {
        recoveredCount := (PyDict.get? items "recovered_count").bind counter?
        lastSector := (PyDict.get? items "last_sector").bind counter? }
  | _ => .error (invalidProgress "PhotoRec progress is malformed")

/-- `_validate_completion`, with the flag that it accepts. -/
def completion : PyValue → Except PhotorecError Bool
  | .bool completed => .ok completed
  | _ => .error (.resume "invalid_session_manifest" "PhotoRec session completion state is invalid")

/-! ## Writing -/

/-- What a binding holds, its keys in order. -/
def bindingJson (sourceFingerprint toolVersion : PyStr) (signatures : List PyStr)
    (ranges : List CarveRange) (commandHash : PyStr) : Json :=
  .object [
    (.ofString "command_hash", .text commandHash),
    (.ofString "ranges", .list (ranges.map fun range =>
      .list [.int range.offsetBytes, .int range.lengthBytes])),
    (.ofString "signatures", .list (signatures.map Json.text)),
    (.ofString "source_fingerprint", .text sourceFingerprint),
    (.ofString "tool_version", .text toolVersion)]

/-- `_binding_payload`. -/
def SessionBinding.json (binding : SessionBinding) : Json :=
  bindingJson binding.sourceFingerprint binding.toolVersion binding.signatures binding.ranges
    binding.commandHash

/-- What a manifest holds, its keys in order. -/
def manifestJson (digest : PyStr) (binding : Json) (progress : Progress) (completed : Bool) :
    Json :=
  .object [
    (.ofString "binding", binding),
    (.ofString "completed", .bool completed),
    (.ofString "progress", progress.json),
    (.ofString "session_sha256", .text digest)]

def invalidManifest (message : String) : PhotorecError := .resume "invalid_session_manifest" message

def manifestBytes (digest : PyStr) (binding : SessionBinding) (progress : Progress)
    (completed : Bool) : Except PhotorecError (List UInt8) := do
  if !isSha256 digest then
    throw (.resume "invalid_session_backup" "PhotoRec session digest is invalid")
  else
    let progress ← boundedProgress limit progress
    match dumps true limit (ofJson (manifestJson digest binding.json progress completed)) with
    | .error _ => throw (invalidManifest "PhotoRec session manifest is invalid")
    | .ok text =>
      if maxManifestBytes < (utf8 text).length then
        throw (invalidManifest "PhotoRec session manifest is too large")
      else return utf8 text

/-! ## Reading -/

/-- `frozenset(mapping) == {names}`. -/
def hasExactKeys (names : List String) (items : PyDict) : Bool :=
  (items.all fun item => isKey names item.1) &&
    names.all fun name => (PyDict.get? items name).isSome

def textOf? : PyValue → Option PyStr
  | .text points => some points
  | _ => none

def rangeFromPayload : PyValue → Except PhotorecError CarveRange
  | .list [.int (.ofNat offset), .int (.ofNat length)] => carveRange offset length
  | .list [.int _, .int _] =>
    .error (.carving "invalid_range" "carve ranges must be bounded positive integers")
  | _ => .error (corrupt "PhotoRec session ranges are malformed")

def bindingFromPayload : PyValue → Except PhotorecError SessionBinding
  | .dict items => do
      if !hasExactKeys
          ["source_fingerprint", "tool_version", "signatures", "ranges", "command_hash"] items then
        throw (corrupt "PhotoRec session binding is malformed")
      else
        match PyDict.get items "source_fingerprint", PyDict.get items "tool_version",
            PyDict.get items "command_hash", PyDict.get items "signatures",
            PyDict.get items "ranges" with
        | .text sourceFingerprint, .text toolVersion, .text commandHash, .list signatures,
            .list ranges =>
            let ranges ← ranges.mapM rangeFromPayload
            match signatures.mapM textOf? with
            | none => throw (corrupt "PhotoRec session signatures are malformed")
            | some signatures =>
              sessionBinding sourceFingerprint toolVersion signatures ranges commandHash
        | _, _, _, _, _ => throw (corrupt "PhotoRec session binding is malformed")
  | _ => .error (corrupt "PhotoRec session binding is malformed")

/-- What `load_session_backup` takes from a manifest for the session with the digest. -/
def readManifest (digest : PyStr) (bytes : List UInt8) :
    Except PhotorecError (SessionBinding × Progress × Bool) := do
  match utf8Decode bytes with
  | none => throw (corrupt "PhotoRec session manifest is invalid")
  | some text =>
    match loads limit text with
    | .error _ => throw (corrupt "PhotoRec session manifest is invalid")
    | .ok (.dict manifest) =>
      if !hasExactKeys ["session_sha256", "binding", "progress", "completed"] manifest then
        throw (corrupt "PhotoRec session manifest is malformed")
      else if !(PyDict.get manifest "session_sha256").eq (.text digest) then
        throw (corrupt "PhotoRec session digest mismatch")
      else
        let parts : Except PhotorecError (SessionBinding × Progress × Bool) := do
          let binding ← bindingFromPayload (PyDict.get manifest "binding")
          let progress ← normalizeProgress limit (PyDict.get manifest "progress")
          let completed ← completion (PyDict.get manifest "completed")
          return (binding, progress, completed)
        parts.mapError fun _ => corrupt "PhotoRec session manifest is malformed"
    | .ok _ => throw (corrupt "PhotoRec session manifest is malformed")

/-! ## Reading what was written -/

theorem joined_json (progress : Progress) : progress.json.joined = progress.json := by
  rcases progress with ⟨recoveredCount, lastSector⟩
  cases recoveredCount <;> cases lastSector <;>
    simp [Progress.json, counterMember, Json.joined, Json.joinedMembers, PyStr.joined_ofString]

theorem counter?_int (count : Fin (maxProgressValue + 1)) :
    counter? (.int (count : ℕ)) = some count := dif_pos count.isLt

/-- The items that the counters are read as. -/
def counterItem (name : String) (counter : Option (Fin (maxProgressValue + 1))) : PyDict :=
  counter.elim [] fun count => [(.str name, .int (count : ℕ))]

theorem ofJson_progress (progress : Progress) :
    ofJson progress.json = .dict (counterItem "last_sector" progress.lastSector ++
      counterItem "recovered_count" progress.recoveredCount) := by
  rcases progress with ⟨recoveredCount, lastSector⟩
  cases recoveredCount <;> cases lastSector <;> rfl

theorem normalizeProgress_json (progress : Progress) :
    normalizeProgress limit (ofJson progress.json) = boundedProgress limit progress := by
  have sectorKey : isKey ["recovered_count", "last_sector"]
      (.text (.ofString "last_sector")) = true := by decide
  have countKey : isKey ["recovered_count", "last_sector"]
      (.text (.ofString "recovered_count")) = true := by decide
  have different : PyStr.ofString "last_sector" ≠ PyStr.ofString "recovered_count" := by decide
  rw [ofJson_progress]
  rcases progress with ⟨recoveredCount, lastSector⟩
  cases recoveredCount <;> cases lastSector <;>
    simp [normalizeProgress, counterItem, counter?_int, sectorKey, countKey, PyDict.get?,
      PyValue.str, different, different.symm]

/-! ### What is in order -/

theorem canonical_json (progress : Progress) : progress.json.Canonical := by
  have less : PyStr.ofString "last_sector" < PyStr.ofString "recovered_count" := by decide
  rcases progress with ⟨recoveredCount, lastSector⟩
  cases recoveredCount <;> cases lastSector <;>
    simp [Progress.json, counterMember, Json.Canonical, Json.CanonicalMembers, less]

theorem canonical_bindingJson (sourceFingerprint toolVersion : PyStr) (signatures : List PyStr)
    (ranges : List CarveRange) (commandHash : PyStr) :
    (bindingJson sourceFingerprint toolVersion signatures ranges commandHash).Canonical := by
  have increasing : (["command_hash", "ranges", "signatures", "source_fingerprint",
      "tool_version"].map PyStr.ofString).Pairwise (· < ·) := by decide
  rw [bindingJson, Json.Canonical, Json.canonicalMembers_iff]
  refine ⟨List.pairwise_map.mp increasing, ?_⟩
  simp [Json.Canonical, Json.canonicalItems_iff]

theorem canonical_manifestJson {binding : Json} (canonical : binding.Canonical) (digest : PyStr)
    (progress : Progress) (completed : Bool) :
    (manifestJson digest binding progress completed).Canonical := by
  have increasing : (["binding", "completed", "progress", "session_sha256"].map
      PyStr.ofString).Pairwise (· < ·) := by decide
  rw [manifestJson, Json.Canonical, Json.canonicalMembers_iff]
  refine ⟨List.pairwise_map.mp increasing, ?_⟩
  simp [Json.Canonical, canonical, canonical_json]

/-! ### Texts that are kept -/

theorem joined_of_isSha256 {text : PyStr} (isHash : isSha256 text = true) : text.joined = text := by
  rw [isSha256, Bool.and_eq_true, List.all_eq_true] at isHash
  refine PyStr.joined_of_scalar fun point isPoint => ?_
  rcases List.mem_map.mp (of_decide_eq_true (isHash.2 point isPoint)) with ⟨char, _, rfl⟩
  exact isScalar_ofChar char

theorem forall_mem_of_mapM_eq_some {α β : Type} {read : α → Option β} {holds : β → Prop}
    (each : ∀ item result, read item = some result → holds result) {items : List α}
    {results : List β} (mapped : items.mapM read = some results) : ∀ result ∈ results,
      holds result := by
  induction items generalizing results with
  | nil =>
    cases mapped
    exact nofun
  | cons item items ih =>
    rw [List.mapM_cons, Option.bind_eq_bind, Option.bind_eq_some_iff] at mapped
    rcases mapped with ⟨first, isFirst, mapped⟩
    rw [Option.bind_eq_bind, Option.bind_eq_some_iff] at mapped
    rcases mapped with ⟨rest, isRest, isResult⟩
    cases isResult
    exact List.forall_mem_cons.mpr ⟨each item first isFirst, ih isRest⟩

theorem joined_of_normalizeSignature {signature normal : PyStr}
    (isNormal : normalizeSignature signature = some normal) : normal.joined = normal := by
  unfold normalizeSignature at isNormal
  split at isNormal
  · cases isNormal
  · rename_i valid
    cases isNormal
    simp only [Bool.or_eq_true, not_or, decide_eq_true_iff, not_not] at valid
    rcases List.mem_map.mp valid.2 with ⟨text, _, isText⟩
    rw [← isText, PyStr.joined_ofString]

theorem joined_of_areCanonical {signatures : List PyStr}
    (canonical : areCanonical signatures = true) :
    ∀ signature ∈ signatures, signature.joined = signature := by
  rw [areCanonical, Bool.and_eq_true, decide_eq_true_iff, Option.map_eq_some_iff] at canonical
  rcases canonical with ⟨_, normalized, areNormalized, areSorted⟩
  intro signature isSignature
  rw [← areSorted, sortedSet, List.mem_insertionSort, List.mem_dedup] at isSignature
  exact forall_mem_of_mapM_eq_some (fun _ _ => joined_of_normalizeSignature) areNormalized
    signature isSignature

theorem joined_bindingJson (binding : SessionBinding) :
    binding.json.joined = bindingJson binding.sourceFingerprint binding.toolVersion.joined
      binding.signatures binding.ranges binding.commandHash := by
  have signatures : binding.signatures.map (fun signature => Json.text signature.joined) =
      binding.signatures.map Json.text :=
    List.map_congr_left fun signature isSignature =>
      congrArg Json.text (joined_of_areCanonical binding.canonical signature isSignature)
  rw [SessionBinding.json, bindingJson, bindingJson]
  simp only [Json.joined, Json.joinedMembers, Json.joinedItems_eq_map, List.map_map,
    Function.comp_def, List.map_cons, List.map_nil, PyStr.joined_ofString,
    joined_of_isSha256 binding.isFingerprint, joined_of_isSha256 binding.isHash, signatures]

theorem joined_manifestJson {digest : PyStr} (isDigest : isSha256 digest = true) (binding : Json)
    (progress : Progress) (completed : Bool) :
    (manifestJson digest binding progress completed).joined =
      manifestJson digest binding.joined progress completed := by
  simp only [manifestJson, Json.joined, Json.joinedMembers, PyStr.joined_ofString,
    joined_of_isSha256 isDigest, joined_json]

/-! ### What is read -/

theorem rangeFromPayload_ofJson (range : CarveRange) :
    rangeFromPayload (.list [.int range.offsetBytes, .int range.lengthBytes]) = .ok range :=
  dif_pos ⟨range.positive, range.bounded⟩

theorem mapM_rangeFromPayload (ranges : List CarveRange) : (ranges.map fun range : CarveRange =>
      PyValue.list [.int range.offsetBytes, .int range.lengthBytes]).mapM rangeFromPayload =
      .ok ranges := by
  induction ranges with
  | nil => rfl
  | cons range ranges ih =>
    rw [List.map_cons, List.mapM_cons, rangeFromPayload_ofJson, ih]
    rfl

theorem mapM_textOf? (signatures : List PyStr) :
    (signatures.map PyValue.text).mapM textOf? = some signatures := by
  induction signatures with
  | nil => rfl
  | cons signature signatures ih =>
    rw [List.map_cons, List.mapM_cons, ih]
    rfl

/-- The items that a binding is read as. -/
def bindingItems (sourceFingerprint toolVersion : PyStr) (signatures : List PyStr)
    (ranges : List CarveRange) (commandHash : PyStr) : PyDict := [
  (.str "command_hash", .text commandHash),
  (.str "ranges", .list (ranges.map fun range =>
    .list [.int range.offsetBytes, .int range.lengthBytes])),
  (.str "signatures", .list (signatures.map PyValue.text)),
  (.str "source_fingerprint", .text sourceFingerprint),
  (.str "tool_version", .text toolVersion)]

section Binding

variable (sourceFingerprint toolVersion : PyStr) (signatures : List PyStr)
  (ranges : List CarveRange) (commandHash : PyStr)

theorem ofJson_bindingJson :
    ofJson (bindingJson sourceFingerprint toolVersion signatures ranges commandHash) =
      .dict (bindingItems sourceFingerprint toolVersion signatures ranges commandHash) := by
  have distinct : (["command_hash", "ranges", "signatures", "source_fingerprint",
      "tool_version"].map PyStr.ofString).Nodup := by decide
  rw [bindingJson, ofJson_object]
  · simp [ofJson, Json.ofJsonItems_eq_map, PyValue.str, bindingItems]
  · exact distinct

theorem bindingFromPayload_ofJson : bindingFromPayload
        (ofJson (bindingJson sourceFingerprint toolVersion signatures ranges commandHash)) =
      sessionBinding sourceFingerprint toolVersion signatures ranges commandHash := by
  have exact : hasExactKeys
      ["source_fingerprint", "tool_version", "signatures", "ranges", "command_hash"]
      (bindingItems sourceFingerprint toolVersion signatures ranges commandHash) = true := rfl
  rw [ofJson_bindingJson, bindingFromPayload, exact, if_neg (by decide)]
  change (List.mapM rangeFromPayload (ranges.map fun range : CarveRange =>
      PyValue.list [.int range.offsetBytes, .int range.lengthBytes]) >>= fun ranges =>
    match (signatures.map PyValue.text).mapM textOf? with
    | none => throw (corrupt "PhotoRec session signatures are malformed")
    | some signatures =>
      sessionBinding sourceFingerprint toolVersion signatures ranges commandHash) = _
  rw [mapM_rangeFromPayload, mapM_textOf?]
  rfl

end Binding

/-! ### Manifests -/

variable {progress : Progress} {binding : SessionBinding}

theorem boundedProgress_eq_ok {limit : ℕ} {other : Progress}
    (bounded : boundedProgress limit progress = .ok other) : other = progress := by
  unfold boundedProgress at bounded
  split at bounded
  · cases bounded
  · split at bounded
    · cases bounded
    · exact (Except.ok.inj bounded).symm

/-- A manifest is written when its progress and all of it are short enough, as what can be read. -/
theorem manifestBytes_eq_ok {limit : ℕ} {digest : PyStr} {completed : Bool} {bytes : List UInt8}
    (written : manifestBytes limit digest binding progress completed = .ok bytes) :
    isSha256 digest = true ∧ boundedProgress limit progress = .ok progress ∧
      bytes.length ≤ maxManifestBytes ∧
      (manifestJson digest binding.json progress completed).Fits true limit ∧
      bytes =
        utf8 (String.ofList (manifestJson digest binding.json progress completed).render) := by
  unfold manifestBytes at written
  split at written
  · cases written
  rename_i isDigest
  rw [Bool.not_eq_true, Bool.not_eq_false'] at isDigest
  rcases bind_eq_ok written with ⟨same, bounded, dumped⟩
  have unchanged := boundedProgress_eq_ok bounded
  rw [unchanged] at bounded dumped
  split at dumped
  · cases dumped
  rename_i text isText
  split at dumped
  · cases dumped
  rename_i short
  rcases bind_eq_ok isText with ⟨json, isJson, rendered⟩
  have isManifest := eq_of_toJson_ofJson
    (canonical_manifestJson (canonical_bindingJson _ _ _ _ _) digest progress completed) isJson
  rw [isManifest] at isJson rendered
  rw [← Except.ok.inj rendered] at dumped short
  rw [← Except.ok.inj dumped]
  exact ⟨isDigest, bounded, Nat.le_of_not_lt short, fits_toJson _ isJson, rfl⟩

/-- The items that a manifest is read as. -/
def manifestItems (digest : PyStr) (binding : PyValue) (progress : Progress) (completed : Bool) :
    PyDict := [
  (.str "binding", binding),
  (.str "completed", .bool completed),
  (.str "progress", ofJson progress.json),
  (.str "session_sha256", .text digest)]

theorem ofJson_manifestJson (digest : PyStr) (binding : Json) (progress : Progress)
    (completed : Bool) :
    ofJson (manifestJson digest binding progress completed) =
      .dict (manifestItems digest (ofJson binding) progress completed) := by
  have distinct : (["binding", "completed", "progress", "session_sha256"].map
      PyStr.ofString).Nodup := by decide
  rw [manifestJson, ofJson_object]
  · rfl
  · exact distinct

/-- What is read of a manifest is what was written, but for the version of the tool, in which two
surrogates are read as one character. -/
theorem readManifest_manifestBytes {limit : ℕ} {digest : PyStr} {completed : Bool}
    {bytes : List UInt8}
    (written : manifestBytes limit digest binding progress completed = .ok bytes) :
    readManifest limit digest bytes =
      ((sessionBinding binding.sourceFingerprint binding.toolVersion.joined binding.signatures
        binding.ranges binding.commandHash).map fun binding =>
          (binding, progress, completed)).mapError
          fun _ => corrupt "PhotoRec session manifest is malformed" := by
  rcases manifestBytes_eq_ok written with ⟨isDigest, bounded, _, fits, rfl⟩
  have read := loads_render fits
  rw [joined_manifestJson isDigest, joined_bindingJson, ofJson_manifestJson] at read
  have progressRead := (normalizeProgress_json limit progress).trans bounded
  have isBinding := bindingFromPayload_ofJson binding.sourceFingerprint binding.toolVersion.joined
    binding.signatures binding.ranges binding.commandHash
  generalize ofJson (bindingJson binding.sourceFingerprint binding.toolVersion.joined
    binding.signatures binding.ranges binding.commandHash) = payload at read isBinding
  have exact : hasExactKeys ["session_sha256", "binding", "progress", "completed"]
      (manifestItems digest payload progress completed) = true := rfl
  have same : (PyDict.get (manifestItems digest payload progress completed) "session_sha256").eq
      (.text digest) = true := by
    change PyValue.eq (.text digest) (.text digest) = true
    simp [PyValue.eq]
  rw [readManifest, utf8Decode_utf8]
  dsimp only
  rw [read]
  dsimp only
  rw [exact, same, if_neg (by decide), if_neg (by decide)]
  change Except.mapError _ (bindingFromPayload payload >>= fun binding =>
    normalizeProgress limit (ofJson progress.json) >>= fun progress =>
      pure (binding, progress, completed)) = _
  rw [isBinding, progressRead]
  cases sessionBinding binding.sourceFingerprint binding.toolVersion.joined binding.signatures
    binding.ranges binding.commandHash <;> rfl

end Reperio.Scanner.Photorec
