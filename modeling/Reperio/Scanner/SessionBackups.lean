import Reperio.Scanner.SessionLines
import Reperio.Scanner.SessionManifest

/-!
# Backups of sessions

`backup_session` and `load_session_backup` of `scanner/photorec_resume.py`: a
session is copied into a directory of its own, under a name that is made of its
hash and with a manifest beside it, and both are checked again when it is read.
-/

namespace Reperio.Scanner.Photorec

open Python Storage

/-! ## Files -/

/-- What the operating system lets be done. -/
structure WritingCalls where
  -- directories that can be made, and be given a mode
  prepares : PurePath → Bool
  -- files that can be written and put in place
  writes : PurePath → Bool
  -- the mode of directories that are made on the way
  defaultMode : ℕ

def validatePrivateDirectory (fileSystem : FileSystem) (path : PurePath) (label : String) :
    Except PhotorecError Unit := do
  match ← nodeAt fileSystem path with
  | some (.directory mode) =>
    if mode &&& 0o077 ≠ 0 then
      throw (.resume "invalid_storage_path" (label ++ " permissions are too broad"))
  | _ => throw (.resume "invalid_storage_path" (label ++ " must be a directory"))

variable (calls : WritingCalls)

/-- The directories above a path, where there is nothing. -/
def makeParents (fileSystem : FileSystem) (path : PurePath) : FileSystem :=
  path.parents.foldr (fun parent fileSystem =>
    if fileSystem.node parent = .ok none then
      fileSystem.put parent (some (.directory calls.defaultMode))
    else fileSystem) fileSystem

/-- `path.mkdir(mode=0o700, parents=True, exist_ok=True)` and `path.chmod(0o700)`. -/
def makeDirectory (fileSystem : FileSystem) (path : PurePath) (label : String) :
    Except PhotorecError FileSystem :=
  let failed := PhotorecError.resume "storage_unavailable" (label ++ " cannot be prepared")
  if !calls.prepares path then .error failed
  else
    match fileSystem.node path with
    | .ok none => .ok ((makeParents calls fileSystem path).put path (some (.directory 0o700)))
    | .ok (some (.directory _)) => .ok (fileSystem.put path (some (.directory 0o700)))
    | _ => .error failed

/-- `_prepare_private_directory`. -/
def prepareDirectory (fileSystem : FileSystem) (path : PurePath) (label : String) :
    Except PhotorecError FileSystem := do
  if !path.isAbsolute then throw (.resume "invalid_storage_path" (label ++ " must be absolute"))
  else if isUnsafe path then throw (.resume "invalid_session_path" (label ++ " is invalid"))
  else
    match fileSystem.resolve path with
    | .error true => throw (.resume "invalid_storage_path" (label ++ " cannot be resolved"))
    | .error false => throw .valueError
    | .ok resolved =>
      if isUnderDev resolved then
        throw (.resume "invalid_storage_path" (label ++ " cannot be under /dev"))
      else
        if ← isSymlink fileSystem path then
          throw (.resume "invalid_storage_path" (label ++ " must not be a symlink"))
        else
          let prepared ← makeDirectory calls fileSystem path label
          validatePrivateDirectory prepared path label
          return prepared

/-- `_atomic_write`: the file is there with all of the data, or it is as it was. -/
def atomicWrite (fileSystem : FileSystem) (path : PurePath) (data : List UInt8) (code : String) :
    Except PhotorecError FileSystem := do
  validatePrivateDirectory fileSystem path.parent "PhotoRec state directory"
  let written := if calls.writes path then .ok (fileSystem.put path (some (.file 0o600 1 data)))
    else .error (.resume code "PhotoRec state could not be written atomically")
  match ← nodeAt fileSystem path with
  | none => written
  | some (.file ..) => written
  | some _ => throw (.resume code "PhotoRec state destination is unsafe")

/-! ## Paths -/

def sessionName : PyStr := .ofString "photorec.ses"

def validateSessionPath (fileSystem : FileSystem) (path : PurePath) :
    Except PhotorecError Unit := do
  if !path.isAbsolute || decide (path.name ≠ sessionName) then
    throw (.resume "invalid_session_name" "PhotoRec session must be photorec.ses")
  else if isUnsafe path then
    throw (.resume "invalid_session_path" "PhotoRec session path is invalid")
  else
    if ← isSymlink fileSystem path then
      throw (.resume "invalid_session_file" "PhotoRec session must not be a symlink")

/-- What `_validate_backup_path` raises for a path that it rejects. -/
def backupPathError (path : PurePath) : PhotorecError := if !path.isAbsolute then
    .resume "invalid_session_backup" "PhotoRec session backup path is invalid"
  else if isUnsafe path then
    .resume "invalid_session_path" "PhotoRec session backup path is invalid"
  else .resume "invalid_session_backup" "PhotoRec session backup name is invalid"

theorem backupName_isName {digest : PyStr} (isDigest : isSha256 digest = true) :
    IsComponent (backupName digest) ∧ slash ∉ backupName digest := by
  rw [isSha256, Bool.and_eq_true, List.all_eq_true] at isDigest
  refine ⟨⟨?_, ?_⟩, ?_⟩
  · exact List.append_ne_nil_of_right_ne_nil _ (by decide)
  · intro isDot
    have length := congrArg List.length isDot
    rw [backupName, List.length_append] at length
    exact absurd length (by simp [PyStr.ofString, PyStr.ofChars])
  · rw [backupName, List.mem_append, List.mem_append]
    rintro ((inPrefix | inDigest) | inSuffix)
    · exact absurd inPrefix (by decide)
    · exact absurd (of_decide_eq_true (isDigest.2 slash inDigest)) (by decide)
    · exact absurd inSuffix (by decide)

def jsonName (name : PyStr) : PyStr := name.take (name.length - 4) ++ .ofString ".json"

theorem slash_notMem_name (path : PurePath) : slash ∉ path.name := by
  unfold PurePath.name
  cases last : path.parts.getLast? with
  | none => exact List.not_mem_nil
  | some part => exact (path.areParts part (List.mem_of_getLast? last)).2

theorem jsonName_isName {name : PyStr} (noSlash : slash ∉ name) :
    IsComponent (jsonName name) ∧ slash ∉ jsonName name := by
  refine ⟨⟨?_, ?_⟩, ?_⟩
  · exact List.append_ne_nil_of_right_ne_nil _ (by decide)
  · intro isDot
    have length := congrArg List.length isDot
    rw [jsonName, List.length_append] at length
    exact absurd length (by simp [PyStr.ofString, PyStr.ofChars])
  · rw [jsonName, List.mem_append]
    rintro (inName | inSuffix)
    · exact noSlash (List.mem_of_mem_take inName)
    · exact absurd inSuffix (by decide)

/-- `path.with_suffix(".json")` for the path of a backup, whose name ends in `.ses`. -/
def manifestPath (path : PurePath) : PurePath :=
  path.parent.child (jsonName path.name) (jsonName_isName (slash_notMem_name path))

/-! ## Backups -/

variable (limit : ℕ) (interpreter : Interpreter)

def writeManifest (fileSystem : FileSystem) (path : PurePath) (digest : PyStr)
    (binding : SessionBinding) (progress : Progress) (completed : Bool) :
    Except PhotorecError FileSystem := do
  let bytes ← manifestBytes limit digest binding progress completed
  atomicWrite calls fileSystem (manifestPath path) bytes "session_manifest_failed"

/-- The backup, and the file system with it. -/
def backupSession (fileSystem : FileSystem) (sessionPath backupDir : PurePath)
    (binding : SessionBinding) (progress completed : PyValue) :
    Except PhotorecError (SessionBackup × FileSystem) := do
  validateSessionPath fileSystem sessionPath
  let progress ← normalizeProgress limit progress
  let completed ← completion completed
  let prepared ← prepareDirectory calls fileSystem backupDir "PhotoRec session backup directory"
  let data ← readBoundedFile prepared sessionPath sessionMaxBytes "invalid_session_file" false
  validateSessionData data
  let digest := interpreter.sha256Hex data
  let path := backupDir.child (backupName digest)
    (backupName_isName (isSha256_sha256Hex interpreter data))
  let copied ← atomicWrite calls prepared path data "session_backup_failed"
  if isPath : isBackupPath path = true then
    let stored ← writeManifest calls limit copied path digest binding progress completed
    return ({
      sessionSha256 := digest
      backupPath := path
      binding, progress, completed
      isDigest := isSha256_sha256Hex interpreter data
      isPath }, stored)
  else throw (backupPathError path)

def validateBinding (actual expected : SessionBinding) : Except PhotorecError Unit :=
  if actual.sourceFingerprint ≠ expected.sourceFingerprint then
    .error (.resume "wrong_source" "PhotoRec session belongs to another source")
  else if actual.toolVersion ≠ expected.toolVersion then
    .error (.resume "wrong_tool_version" "PhotoRec session tool version differs")
  else if actual.signatures ≠ expected.signatures ∨ actual.ranges ≠ expected.ranges then
    .error (.resume "wrong_config" "PhotoRec session config differs")
  else if actual.commandHash ≠ expected.commandHash then
    .error (.resume "wrong_config" "PhotoRec command binding differs")
  else .ok ()

def loadSessionBackup (fileSystem : FileSystem) (path : PurePath) (expected : SessionBinding) :
    Except PhotorecError SessionBackup := do
  if isPath : isBackupPath path = true then
    let missing :=
      PhotorecError.resume "missing_session_backup" "PhotoRec session backup is missing"
    match ← nodeAt fileSystem path with
    | none => throw missing
    | some .symlink => throw missing
    | some _ =>
      validatePrivateDirectory fileSystem path.parent "PhotoRec session backup directory"
      let data ← readBoundedFile fileSystem path sessionMaxBytes "corrupt_session" true
      validateSessionData data
      let digest := interpreter.sha256Hex data
      if backupDigest? path.name ≠ some digest then
        throw (corrupt "PhotoRec session backup name is invalid")
      else
        let missing := PhotorecError.resume "missing_session_manifest"
          "PhotoRec session manifest is missing"
        match ← nodeAt fileSystem (manifestPath path) with
        | none => throw missing
        | some .symlink => throw missing
        | some _ =>
          let bytes ← readBoundedFile fileSystem (manifestPath path) maxManifestBytes
            "corrupt_session" true
          let (binding, progress, completed) ← readManifest limit digest bytes
          validateBinding binding expected
          return {
            sessionSha256 := digest
            backupPath := path
            binding, progress, completed
            isDigest := isSha256_sha256Hex interpreter data
            isPath }
  else throw (backupPathError path)

/-! ## What is there after a backup -/

theorem backupDigest?_backupName {digest : PyStr} (isDigest : isSha256 digest = true) :
    backupDigest? (backupName digest) = some digest := by
  have length : digest.length = 64 := by
    rw [isSha256, Bool.and_eq_true, decide_eq_true_iff] at isDigest
    exact isDigest.1
  have found : ((backupName digest).drop 9).take 64 = digest := by
    rw [backupName, List.append_assoc, List.drop_left' (by rfl), List.take_left' length]
  rw [backupDigest?, found]
  exact if_pos ⟨rfl, isDigest⟩

theorem manifestPath_ne (path : PurePath) (hasName : 4 < path.name.length) :
    manifestPath path ≠ path := by
  intro same
  have length := congrArg (fun path => path.name.length) same
  have suffix : (PyStr.ofString ".json").length = 5 := by decide
  simp only [manifestPath, PurePath.name_child, jsonName, List.length_append, List.length_take,
    suffix] at length
  omega

theorem child_ne (path : PurePath) (name : PyStr) (isName : IsComponent name ∧ slash ∉ name) :
    path.child name isName ≠ path := by
  intro same
  have length := congrArg (fun path => path.parts.length) same
  simp only [PurePath.child, List.length_append, List.length_singleton] at length
  omega

variable {fileSystem : FileSystem} {path : PurePath} {data : List UInt8} {binding : SessionBinding}
    {backup : SessionBackup} {manifest : List UInt8}

theorem validatePrivateDirectory_of_node
    (isDirectory : fileSystem.node path = .ok (some (.directory 0o700))) (label : String) :
    validatePrivateDirectory fileSystem path label = .ok () := by
  rw [validatePrivateDirectory, nodeAt, isDirectory]
  rfl

variable {calls limit interpreter}

theorem atomicWrite_eq_ok {after : FileSystem} {code : String}
    (written : atomicWrite calls fileSystem path data code = .ok after) :
    after = fileSystem.put path (some (.file 0o600 1 data)) := by
  rcases bind_eq_ok written with ⟨_, _, written⟩
  rcases bind_eq_ok written with ⟨node, _, written⟩
  have put (isPut : (if calls.writes path then
      Except.ok (fileSystem.put path (some (.file 0o600 1 data)))
      else .error (PhotorecError.resume code "PhotoRec state could not be written atomically")) =
        .ok after) :
      after = fileSystem.put path (some (.file 0o600 1 data)) := by
    split at isPut
    · exact (Except.ok.inj isPut).symm
    · cases isPut
  split at written
  · exact put written
  · exact put written
  · cases written

theorem prepareDirectory_eq_ok {after : FileSystem} {label : String}
    (prepared : prepareDirectory calls fileSystem path label = .ok after) :
    after.node path = .ok (some (.directory 0o700)) := by
  unfold prepareDirectory at prepared
  split at prepared
  · cases prepared
  split at prepared
  · cases prepared
  split at prepared
  · cases prepared
  · cases prepared
  split at prepared
  · cases prepared
  rcases bind_eq_ok prepared with ⟨_, _, prepared⟩
  split at prepared
  · cases prepared
  rcases bind_eq_ok prepared with ⟨made, isMade, prepared⟩
  rcases bind_eq_ok prepared with ⟨_, _, isAfter⟩
  cases isAfter
  unfold makeDirectory at isMade
  dsimp only at isMade
  split at isMade
  · cases isMade
  split at isMade
  · cases isMade
    exact FileSystem.node_put_self
  · cases isMade
    exact FileSystem.node_put_self
  · cases isMade

/-- What a backup leaves: a private directory with the session and a manifest of it. -/
structure IsStored (limit : ℕ) (interpreter : Interpreter) (after : FileSystem)
    (backup : SessionBackup) (data manifest : List UInt8) : Prop where
  short : data.length ≤ sessionMaxBytes
  valid : validateSessionData data = .ok ()
  isDigest : backup.sessionSha256 = interpreter.sha256Hex data
  isName : backup.backupPath.name = backupName backup.sessionSha256
  isManifest : manifestBytes limit backup.sessionSha256 backup.binding backup.progress
    backup.completed = .ok manifest
  isDirectory : after.node backup.backupPath.parent = .ok (some (.directory 0o700))
  hasSession : after.node backup.backupPath = .ok (some (.file 0o600 1 data))
  hasManifest : after.node (manifestPath backup.backupPath) = .ok (some (.file 0o600 1 manifest))

theorem readBoundedFile_length {maximum : ℕ} {code : String} {isPrivate : Bool}
    (read : readBoundedFile fileSystem path maximum code isPrivate = .ok data) :
    data.length ≤ maximum := by
  unfold readBoundedFile at read
  split at read
  · split at read
    · cases read
    split at read
    · cases read
    split at read
    · cases read
    · rename_i short
      rw [← Except.ok.inj read]
      exact Nat.le_of_not_lt short
  · cases read
  · cases read
  · cases read
  · cases read

theorem readBoundedFile_of_node {maximum : ℕ}
    (isFile : fileSystem.node path = .ok (some (.file 0o600 1 data)))
    (short : data.length ≤ maximum) (code : String) (isPrivate : Bool) :
    readBoundedFile fileSystem path maximum code isPrivate = .ok data := by
  have notBroad : (isPrivate && decide (0o600 &&& 0o077 ≠ 0)) = false := by
    cases isPrivate <;> decide
  rw [readBoundedFile, isFile]
  dsimp only
  rw [if_neg (not_not_intro rfl), notBroad, if_neg Bool.false_ne_true,
    if_neg (Nat.not_lt.mpr short)]

theorem four_lt_length_backupName (digest : PyStr) : 4 < (backupName digest).length := by
  have length : (PyStr.ofString "photorec-").length = 9 := by decide
  rw [backupName, List.length_append, List.length_append, length]
  omega

/-- The directory and the two files in it are three paths. -/
theorem node_stored {prepared : FileSystem} {directory : PurePath}
    {node : Except Unit (Option Node)} (isDirectory : prepared.node directory = node)
    (isParent : path.parent = directory) (different : path ≠ directory)
    (hasName : 4 < path.name.length) (session manifest : Option Node) :
    let stored := (prepared.put path session).put (manifestPath path) manifest
    stored.node directory = node ∧ stored.node path = .ok session ∧
      stored.node (manifestPath path) = .ok manifest := by
  have notManifest : directory ≠ manifestPath path := by
    rw [← isParent]
    exact (child_ne _ _ _).symm
  refine ⟨?_, ?_, FileSystem.node_put_self⟩
  · rw [FileSystem.node_put_of_ne notManifest, FileSystem.node_put_of_ne different.symm,
      isDirectory]
  · rw [FileSystem.node_put_of_ne (manifestPath_ne path hasName).symm, FileSystem.node_put_self]

theorem backupSession_eq_ok {after : FileSystem} {sessionPath backupDir : PurePath}
    {progress completed : PyValue}
    (saved : backupSession calls limit interpreter fileSystem sessionPath backupDir binding progress
      completed = .ok (backup, after)) :
    backup.binding = binding ∧ normalizeProgress limit progress = .ok backup.progress ∧
      completed = .bool backup.completed ∧
      ∃ data manifest, IsStored limit interpreter after backup data manifest := by
  rcases bind_eq_ok saved with ⟨_, _, saved⟩
  rcases bind_eq_ok saved with ⟨normalized, isNormalized, saved⟩
  rcases bind_eq_ok saved with ⟨flag, isFlag, saved⟩
  rcases bind_eq_ok saved with ⟨prepared, isPrepared, saved⟩
  rcases bind_eq_ok saved with ⟨data, isData, saved⟩
  rcases bind_eq_ok saved with ⟨_, isValid, saved⟩
  rcases bind_eq_ok saved with ⟨copied, isCopied, saved⟩
  split at saved
  · rename_i isPath
    rcases bind_eq_ok saved with ⟨stored, isStored, saved⟩
    rcases bind_eq_ok isStored with ⟨manifest, isManifest, isStored⟩
    cases saved
    have named := backupName_isName (isSha256_sha256Hex interpreter data)
    have isName : (backupDir.child _ named).name = _ := PurePath.name_child named
    have hasName : 4 < (backupDir.child _ named).name.length := by
      rw [isName]
      exact four_lt_length_backupName _
    have nodes := node_stored (prepareDirectory_eq_ok isPrepared) (PurePath.parent_child named)
      (child_ne backupDir _ named) hasName (some (.file 0o600 1 data))
      (some (.file 0o600 1 manifest))
    rw [atomicWrite_eq_ok isCopied] at isStored
    rw [← atomicWrite_eq_ok isStored] at nodes
    refine ⟨rfl, isNormalized, ?_, data, manifest, readBoundedFile_length isData, isValid, rfl,
      isName, isManifest, ?_, nodes.2.1, nodes.2.2⟩
    · unfold completion at isFlag
      split at isFlag
      · rw [Except.ok.inj isFlag]
      · cases isFlag
    · rw [PurePath.parent_child]
      exact nodes.1
  · cases saved

/-! ## Loading what was backed up -/

theorem sessionBinding_eq_ok {sourceFingerprint toolVersion : PyStr} {signatures : List PyStr}
    {ranges : List CarveRange} {commandHash : PyStr}
    (made : sessionBinding sourceFingerprint toolVersion signatures ranges commandHash =
      .ok binding) :
    binding.toolVersion = toolVersion := by
  unfold sessionBinding at made
  split at made
  · split at made
    · split at made
      · split at made
        · split at made
          · rw [← Except.ok.inj made]
          · cases made
        · cases made
      · cases made
    · cases made
  · cases made

theorem sessionBinding_fields (binding : SessionBinding) :
    sessionBinding binding.sourceFingerprint binding.toolVersion binding.signatures binding.ranges
      binding.commandHash = .ok binding := by
  rw [sessionBinding, dif_pos binding.isFingerprint, dif_pos binding.isVersion,
    dif_pos binding.canonical, dif_pos binding.someRanges, dif_pos binding.isHash]

theorem validateBinding_eq_ok {actual expected : SessionBinding} :
    validateBinding actual expected = .ok () ↔ actual = expected := by
  constructor
  · intro valid
    unfold validateBinding at valid
    split at valid
    · cases valid
    split at valid
    · cases valid
    split at valid
    · cases valid
    split at valid
    · cases valid
    rename_i fingerprint version config hash
    rw [not_or] at config
    rw [not_ne_iff] at fingerprint version hash
    rcases config with ⟨signatures, ranges⟩
    rw [not_ne_iff] at signatures ranges
    cases actual
    cases expected
    dsimp only at fingerprint version signatures ranges hash
    subst fingerprint version signatures ranges hash
    rfl
  · rintro rfl
    simp [validateBinding]

/-- The loaded backup: the binding is what the manifest gives, and is the expected one. -/
theorem loadSessionBackup_stored {after : FileSystem}
    (stored : IsStored limit interpreter after backup data manifest) (expected : SessionBinding) :
    loadSessionBackup limit interpreter after backup.backupPath expected = (do
        let (binding, progress, completed) ← readManifest limit backup.sessionSha256 manifest
        validateBinding binding expected
        return { backup with binding, progress, completed }) := by
  have isName : backupDigest? backup.backupPath.name = some (interpreter.sha256Hex data) := by
    rw [stored.isName, stored.isDigest,
      backupDigest?_backupName (isSha256_sha256Hex interpreter data)]
  have shortManifest := (manifestBytes_eq_ok stored.isManifest).2.2.1
  rcases backup with ⟨digest, path, binding, progress, completed, isHash, isPath⟩
  obtain rfl : digest = interpreter.sha256Hex data := stored.isDigest
  rw [loadSessionBackup, dif_pos isPath]
  simp only [nodeAt, stored.hasSession, stored.hasManifest,
    validatePrivateDirectory_of_node stored.isDirectory,
    readBoundedFile_of_node stored.hasSession stored.short,
    readBoundedFile_of_node stored.hasManifest shortManifest, stored.valid, isName, bind,
      Except.bind]
  rw [if_neg (not_not_intro rfl)]

/-- The stored session is the same when it is loaded again, and no other binding is accepted. -/
structure RoundTrips (limit : ℕ) (interpreter : Interpreter) (after : FileSystem)
    (backup : SessionBackup) : Prop where
  same : loadSessionBackup limit interpreter after backup.backupPath backup.binding = .ok backup
  others : ∀ other, other ≠ backup.binding →
    ∃ error, loadSessionBackup limit interpreter after backup.backupPath other = .error error

theorem roundTrips_iff_of_stored {after : FileSystem}
    (stored : IsStored limit interpreter after backup data manifest) :
    RoundTrips limit interpreter after backup ↔
      backup.binding.toolVersion.joined = backup.binding.toolVersion := by
  have read := readManifest_manifestBytes stored.isManifest
  constructor
  · intro roundTrips
    have same := roundTrips.same
    rw [loadSessionBackup_stored stored] at same
    rcases bind_eq_ok same with ⟨⟨binding, progress, completed⟩, isRead, loaded⟩
    rcases bind_eq_ok loaded with ⟨_, isValid, _⟩
    rw [validateBinding_eq_ok.mp isValid, read, mapError_eq_ok] at isRead
    cases made : sessionBinding backup.binding.sourceFingerprint backup.binding.toolVersion.joined
        backup.binding.signatures backup.binding.ranges backup.binding.commandHash with
    | error error =>
      rw [made] at isRead
      cases isRead
    | ok actual =>
      rw [made] at isRead
      have isBinding := congrArg Prod.fst (Except.ok.inj isRead)
      rw [← sessionBinding_eq_ok made]
      exact congrArg SessionBinding.toolVersion isBinding
  · intro joined
    rw [joined, sessionBinding_fields] at read
    have loads (expected : SessionBinding) :
        loadSessionBackup limit interpreter after backup.backupPath expected = (do
          validateBinding backup.binding expected
          return backup) := by
      rw [loadSessionBackup_stored stored, read]
      rfl
    constructor
    · rw [loads, validateBinding_eq_ok.mpr rfl]
      rfl
    · intro other different
      rw [loads]
      cases isValid : validateBinding backup.binding other with
      | ok _ => exact absurd (validateBinding_eq_ok.mp isValid).symm different
      | error error => exact ⟨error, rfl⟩

/-- A session that was backed up is loaded as it was, with its own binding and no other, exactly
when the version of the tool has no two surrogates that are read as one character. -/
theorem backupSession_roundTrips_iff {fileSystem after : FileSystem}
    {sessionPath backupDir : PurePath}
    {binding : SessionBinding} {progress completed : PyValue} {backup : SessionBackup}
    (saved : backupSession calls limit interpreter fileSystem sessionPath backupDir binding progress
      completed = .ok (backup, after)) :
    backup.binding = binding ∧ normalizeProgress limit progress = .ok backup.progress ∧
      completed = .bool backup.completed ∧
      (RoundTrips limit interpreter after backup ↔
        binding.toolVersion.joined = binding.toolVersion) := by
  rcases backupSession_eq_ok saved with ⟨rfl, isProgress, isCompleted, data, manifest, stored⟩
  exact ⟨rfl, isProgress, isCompleted, roundTrips_iff_of_stored stored⟩

/-! A session of the sample, backed up where there is nothing yet. -/

def sampleCalls : WritingCalls := ⟨fun _ => true, fun _ => true, 0o755⟩

def sampleDigest : PyStr :=
  .ofString "3b5f0523b3ca55a1775be148a66a0cd0338c0b8b36d80d3f43a09c4123da10bd"

theorem isSha256_sampleDigest : isSha256 sampleDigest = true := by decide

def sampleInterpreter : Interpreter where
  isDigit := isAsciiDigit
  value? point := if isAsciiDigit point then some (point.val - 48) else none
  ascii point low high := by
    have isDigit : isAsciiDigit point = true := by
      rw [isAsciiDigit, decide_eq_true low, decide_eq_true high]
      rfl
    exact ⟨isDigit, if_pos isDigit⟩
  sha256Hex _ := sampleDigest
  isHex _ := by
    have isHash := isSha256_sampleDigest
    rw [isSha256, Bool.and_eq_true, decide_eq_true_iff, List.all_eq_true] at isHash
    exact ⟨isHash.1, fun point isPoint => of_decide_eq_true (isHash.2 point isPoint)⟩

def sampleSessionPath : PurePath := .ofText (.ofString "/w/photorec.ses")

def sampleFiles : FileSystem where
  node path := .ok (if path = sampleSessionPath then some (.file 0o600 1 sampleSession) else none)
  resolve path := .ok path

def sampleBackupDir : PurePath := .ofText (.ofString "/b")

theorem validateSessionData_sampleSession : validateSessionData sampleSession = .ok () := by
  rw [validateSessionData, sessionText_sampleSession]
  rfl

def sampleBackupPath : PurePath :=
  sampleBackupDir.child (backupName sampleDigest) (backupName_isName isSha256_sampleDigest)

theorem isBackupPath_sample : isBackupPath sampleBackupPath = true := by decide

theorem eq_of_bind_ok {ε α β : Type} {value : Except ε α} {next : α → Except ε β} {inner : α}
    {result : Except ε β} (returned : value = .ok inner) (continued : next inner = result) :
    (value >>= next) = result := by
  rw [returned]
  exact continued

/-- A backup of the sample goes through once the manifest is written. -/
theorem backup_sample
    (written : manifestBytes 100 sampleDigest binding ⟨none, none⟩ false = .ok manifest) :
    ∃ backup after, backupSession sampleCalls 100 sampleInterpreter sampleFiles sampleSessionPath
      sampleBackupDir binding (.dict []) (.bool false) = .ok (backup, after) := by
  have isSession : validateSessionPath sampleFiles sampleSessionPath = .ok () := by decide
  have noProgress : normalizeProgress 100 (.dict []) = .ok ⟨none, none⟩ := by decide
  let prepared := (makeParents sampleCalls sampleFiles sampleBackupDir).put sampleBackupDir
    (some (.directory 0o700))
  have isPrepared : prepareDirectory sampleCalls sampleFiles sampleBackupDir
      "PhotoRec session backup directory" = .ok prepared := rfl
  have hasSession : prepared.node sampleSessionPath = .ok (some (.file 0o600 1 sampleSession)) :=
    rfl
  have short : sampleSession.length ≤ sessionMaxBytes := by decide
  have read := readBoundedFile_of_node hasSession short "invalid_session_file" false
  let copied := prepared.put sampleBackupPath (some (.file 0o600 1 sampleSession))
  have isCopied : atomicWrite sampleCalls prepared sampleBackupPath sampleSession
      "session_backup_failed" = .ok copied := rfl
  have isStored : writeManifest sampleCalls 100 copied sampleBackupPath sampleDigest binding
      ⟨none, none⟩ false = .ok (copied.put (manifestPath sampleBackupPath)
        (some (.file 0o600 1 manifest))) := eq_of_bind_ok written rfl
  refine ⟨_, _, eq_of_bind_ok isSession (eq_of_bind_ok noProgress (eq_of_bind_ok rfl
    (eq_of_bind_ok isPrepared (eq_of_bind_ok read (eq_of_bind_ok validateSessionData_sampleSession
      (eq_of_bind_ok isCopied
        ((dif_pos isBackupPath_sample).trans (eq_of_bind_ok isStored rfl))))))))⟩

def sampleBinding (toolVersion : PyStr) (isVersion : isToolVersion toolVersion = true) :
    SessionBinding where
  sourceFingerprint := sampleDigest
  toolVersion := toolVersion
  signatures := [.ofString "jpg"]
  ranges := [⟨0, 512, by decide, by decide⟩]
  commandHash := sampleDigest
  isFingerprint := isSha256_sampleDigest
  isVersion := isVersion
  canonical := by decide
  someRanges := by decide
  isHash := isSha256_sampleDigest

theorem length_quote_le (points : PyStr) : (quote points).length ≤ 12 * points.length + 2 := by
  have escaped (point : CodePoint) : (escapePoint point.val).length ≤ 12 := by
    unfold escapePoint
    split_ifs <;> simp [escapeUnit]
  rw [quote, List.length_cons, List.length_append, List.length_singleton]
  induction points with
  | nil => simp
  | cons point points ih =>
    have first := escaped point
    rw [List.flatMap_cons, List.length_append, List.length_cons]
    omega

theorem length_utf8_le (chars : List Char) :
    (utf8 (String.ofList chars)).length ≤ 4 * chars.length := by
  rw [utf8, String.toList_ofList]
  induction chars with
  | nil => simp
  | cons char chars ih =>
    have first := Char.utf8Size_le_four char
    rw [List.flatMap_cons, List.length_append, String.length_utf8EncodeChar, List.length_cons]
    omega

theorem manifest_sample (toolVersion : PyStr) (isVersion : isToolVersion toolVersion = true) :
    ∃ manifest, manifestBytes 100 sampleDigest (sampleBinding toolVersion isVersion) ⟨none, none⟩
      false = .ok manifest := by
  let json :=
    manifestJson sampleDigest (sampleBinding toolVersion isVersion).json ⟨none, none⟩ false
  have bounded : boundedProgress 100 ⟨none, none⟩ = .ok ⟨none, none⟩ := by decide
  have fits : json.Fits true 100 := by
    have digits : 1 ≤ intMaxStrDigits ∧ (Nat.toDigits 10 512).length ≤ intMaxStrDigits := by decide
    simpa [json, manifestJson, SessionBinding.json, bindingJson, sampleBinding, Progress.json,
      counterMember, Json.Fits, Json.FitsMembers, Json.FitsItems] using digits
  have short : json.render.length ≤ 20000 := by
    have isShort : toolVersion.length ≤ maxBindingText := by
      rw [isToolVersion, Bool.and_eq_true, Bool.and_eq_true, decide_eq_true_iff] at isVersion
      exact isVersion.1.2
    have ofVersion := length_quote_le toolVersion
    have ofDigest := length_quote_le sampleDigest
    have digestLength : sampleDigest.length = 64 := by decide
    have numbers : (renderInt (0 : ℕ)).length = 1 ∧ (renderInt (512 : ℕ)).length = 3 := by decide
    have names : ["binding", "command_hash", "completed", "jpg", "progress", "ranges",
        "session_sha256", "signatures", "source_fingerprint", "tool_version"].map
          (fun name => (quote (.ofString name)).length) =
            [9, 14, 11, 5, 10, 8, 16, 12, 20, 14] := by
      decide
    simp only [List.map_cons, List.map_nil, List.cons.injEq] at names
    rw [maxBindingText] at isShort
    simp only [json, manifestJson, SessionBinding.json, bindingJson, sampleBinding, Progress.json,
      counterMember, Json.render, Json.renderMembers, Json.renderItems, Option.elim_none,
      List.map_cons, List.map_nil, List.nil_append, List.length_append, List.length_cons,
      List.length_nil]
    omega
  have dumped : dumps true 100 (ofJson json) = .ok (String.ofList json.render) := by
    have canonical : json.Canonical :=
      canonical_manifestJson (canonical_bindingJson _ _ _ _ _) sampleDigest ⟨none, none⟩ false
    rw [dumps, toJson_ofJson fits, Json.sorted_of_canonical canonical]
    rfl
  have notLong : ¬maxManifestBytes < (utf8 (String.ofList json.render)).length := by
    have bytes := length_utf8_le json.render
    rw [maxManifestBytes]
    omega
  refine ⟨utf8 (String.ofList json.render), ?_⟩
  rw [manifestBytes, isSha256_sampleDigest, if_neg (by decide)]
  refine eq_of_bind_ok bounded ?_
  rw [dumped]
  exact if_neg notLong

/-- The version of the tool, as the carving module names it. -/
theorem isToolVersion_photorecVersion : isToolVersion photorecVersion = true := by decide

theorem backupSession_roundTrips_sample : ∃ backup after,
    backup.binding = sampleBinding photorecVersion isToolVersion_photorecVersion ∧
      normalizeProgress 100 (.dict []) = .ok backup.progress ∧
      .bool false = PyValue.bool backup.completed ∧
      (RoundTrips 100 sampleInterpreter after backup ↔
        photorecVersion.joined = photorecVersion) := by
  rcases manifest_sample photorecVersion isToolVersion_photorecVersion with ⟨manifest, written⟩
  rcases backup_sample written with ⟨backup, after, saved⟩
  exact ⟨backup, after, backupSession_roundTrips_iff saved⟩

/-- Two surrogates, which JSON reads as one character. -/
def surrogateVersion : PyStr := [0xD800, 0xDC00]

theorem isToolVersion_surrogateVersion : isToolVersion surrogateVersion = true := by decide

/-- With such a version the session cannot be loaded again. -/
theorem surrogateVersion_lost : ∃ backup after,
    backupSession sampleCalls 100 sampleInterpreter sampleFiles sampleSessionPath sampleBackupDir
        (sampleBinding surrogateVersion isToolVersion_surrogateVersion) (.dict []) (.bool false) =
      .ok (backup, after) ∧ ¬RoundTrips 100 sampleInterpreter after backup := by
  rcases manifest_sample surrogateVersion isToolVersion_surrogateVersion with ⟨manifest, written⟩
  rcases backup_sample written with ⟨backup, after, saved⟩
  refine ⟨backup, after, saved, fun roundTrips => ?_⟩
  rcases backupSession_eq_ok saved with ⟨isBinding, _, _, data, manifest, stored⟩
  have joined := (roundTrips_iff_of_stored stored).mp roundTrips
  rw [isBinding] at joined
  have different : surrogateVersion.joined ≠ surrogateVersion := by decide
  exact different joined

end Reperio.Scanner.Photorec
