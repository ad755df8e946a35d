import Reperio.Catalog.Schema
import Reperio.Checkpoints.Store
import Reperio.Concurrency.Program
import Reperio.Python.Operators
import Reperio.Python.Repr
import Reperio.Storage.Directory

/-!
# The scratch store

`shared/scratch_store.py`: recovered contents under the name of their SHA-256,
with a metadata file for each. A call is a program of operations on the file
system; other calls may act between any two of them.

The two trees hold regular files, and of the files under `tmp/` only those with
a name of this module are modelled, since nothing touches the others. Nothing
here creates a symbolic link, so that the refusals of links are left out.
-/

namespace Reperio

open Python Storage Concurrency

/-! ## Errors and chunks -/

/-- How a call of the store fails. -/
inductive ScratchError where
  | scratchStoreError (code message : String)
  -- with the name of the class
  | osError (name : String)
  | contentExtractionError (code message : String)
  | readErrorHandlingError (code message : String)
  -- of the interpreter, while metadata is read or written
  | pyError (error : PyError)
  -- any other exception of an iterator
  | iteratorError
  deriving DecidableEq

/-- What a source of chunks yields. -/
inductive Chunk where
  | bytes (data : List UInt8)
  -- a value that is not `bytes`, with its length if it has one
  | value (length : Option ℕ)

/-- What an iterator does for its next chunk: it yields or raises by itself, or it reads its source
and checks the answer. -/
inductive NextChunk where
  | own (result : Except ScratchError Chunk)
  | read (offset length : ℕ) (check : Chunk → Except ScratchError Chunk)

/-! ## Files -/

/-- The names under `tmp/`, by their random part. -/
inductive TempName where
  -- `.reperio-incomplete-<hex>`
  | content (hex : String)
  -- `.reperio-incomplete-<hex>.json`
  | metadata (hex : String)
  deriving DecidableEq

/-- A file under `tmp/`. The call that wrote it, or that is going to remove it, is ghost state. -/
structure TempFile (Content : Type) where
  content : Content
  owner : Option String := none

/-- The files of a store, the holder of the metadata lock, and what the iterators read from. -/
structure ScratchState (Source : Type) where
  objects : Directory String (List UInt8)
  metadata : Directory String String
  tempContents : Directory String (TempFile (List UInt8))
  tempTexts : Directory String (TempFile String)
  lock : Option String
  source : Source

namespace ScratchState

variable {Source : Type}

def empty (source : Source) : ScratchState Source := ⟨[], [], [], [], none, source⟩

/-- `_directory_size(self.objects) + _directory_size(self.metadata)`. -/
def used (state : ScratchState Source) : ℕ :=
  state.objects.size List.length + state.metadata.size fun text => (utf8 text).length

end ScratchState

/-! ## Operations -/

/-- The calls of the file system that the store makes. -/
inductive ScratchQuery where
  -- `initialize()`: the directories are created if they are missing
  | makeDirectories
  | listIncomplete (caller : String)
  -- nothing to remove is a `FileNotFoundError`
  | unlink (name : TempName)
  | unlinkMissing (name : TempName)
  | directorySize
  -- `O_EXCL`: the name must be new
  | create (hex : String)
  | read (offset length : ℕ)
  | append (hex : String) (data : List UInt8)
  | objectExists (sha256 : String)
  | replaceObject (hex sha256 : String)
  | acquire (caller : String)
  | release
  | readMetadata (sha256 : String)
  | writeText (caller hex text : String)
  | replaceMetadata (hex sha256 : String)

namespace ScratchQuery

@[reducible]
def Reply : ScratchQuery → Type
  | listIncomplete _ => List TempName
  | unlink _ => Bool
  | directorySize => ℕ
  | create _ => Bool
  | read _ _ => Except ScratchError Chunk
  | objectExists _ => Bool
  | replaceObject _ _ => Bool
  | readMetadata _ => Option String
  | replaceMetadata _ _ => Bool
  | _ => Unit

variable {Source : Type} (source : ℕ → ℕ → Source → Except ScratchError Chunk × Source)

def claim {Content : Type} (caller : String) (files : Directory String (TempFile Content)) :
    Directory String (TempFile Content) :=
  files.map fun entry => (entry.1, { entry.2 with owner := some caller })

def unlinked (name : TempName) (state : ScratchState Source) : ScratchState Source :=
  match name with
  | .content hex => { state with tempContents := state.tempContents.remove hex }
  | .metadata hex => { state with tempTexts := state.tempTexts.remove hex }

def perform : (query : ScratchQuery) → ScratchState Source → ScratchState Source × Reply query
  | makeDirectories, state => (state, ())
  | listIncomplete caller, state =>
    ({ state with
        tempContents := claim caller state.tempContents
        tempTexts := claim caller state.tempTexts },
      state.tempContents.map (fun entry => .content entry.1) ++
        state.tempTexts.map (fun entry => .metadata entry.1))
  | unlink (.content hex), state =>
    (unlinked (.content hex) state, (state.tempContents.read hex).isSome)
  | unlink (.metadata hex), state =>
    (unlinked (.metadata hex) state, (state.tempTexts.read hex).isSome)
  | unlinkMissing name, state => (unlinked name state, ())
  | directorySize, state => (state, state.used)
  | create hex, state =>
    match state.tempContents.read hex with
    | some _ => (state, false)
    | none =>
      ({ state with tempContents := state.tempContents.write hex ⟨[], some hex⟩ }, true)
  | read offset length, state =>
    match source offset length state.source with
    | (answer, next) => ({ state with source := next }, answer)
  | append hex data, state =>
    match state.tempContents.read hex with
    -- the file was unlinked: what is written to it is lost
    | none => (state, ())
    | some file =>
      ({ state with
          tempContents := state.tempContents.write hex
            { file with content := file.content ++ data } }, ())
  | objectExists sha256, state => (state, (state.objects.read sha256).isSome)
  | replaceObject hex sha256, state =>
    match state.tempContents.read hex with
    | none => (state, false)
    | some file =>
      ({ state with
          tempContents := state.tempContents.remove hex
          objects := state.objects.write sha256 file.content }, true)
  | acquire caller, state => ({ state with lock := some caller }, ())
  | release, state => ({ state with lock := none }, ())
  | readMetadata sha256, state => (state, state.metadata.read sha256)
  | writeText caller hex text, state =>
    ({ state with tempTexts := state.tempTexts.write hex ⟨text, some caller⟩ }, ())
  | replaceMetadata hex sha256, state =>
    match state.tempTexts.read hex with
    | none => (state, false)
    | some file =>
      ({ state with
          tempTexts := state.tempTexts.remove hex
          metadata := state.metadata.write sha256 file.content }, true)

end ScratchQuery

abbrev ScratchProgram := Program ScratchQuery ScratchQuery.Reply ScratchError

/-! ## The store -/

/-- A store with its quota. -/
structure ScratchStore where
  runtime : Runtime
  quotaBytes : ℕ
  positive : 0 < quotaBytes

/-- What is stored under a digest. -/
structure ScratchObject where
  contentId : PyStr
  sha256 : PyStr
  sizeBytes : ℤ
  storageUri : PyStr
  refCount : ℤ
  provenance : List PyValue

/-- A call of `put_bytes`, with the random parts of its file names and the free bytes that `statvfs`
reports at its two checks. -/
structure PutCall where
  hex : String
  metadataHex : String
  chunks : List NextChunk
  provenance : PyDict
  expectedSha256 : Option String := none
  expectedSize : Option ℤ := none
  available : ℤ × ℤ

namespace Scratch

open ScratchQuery

def validateSha256 (value : String) : Except ScratchError Unit :=
  if value.length ≠ 64 ∨ (value.toList.any fun char => char ∉ "0123456789abcdef".toList) then
    .error (.scratchStoreError "invalid_hash" "scratch object hash is invalid")
  else .ok ()

/-! ## Cleaning up -/

def removeAll : List TempName → ScratchProgram Unit
  | [] => .done ()
  | name :: names => do
      let found ← Program.query (.unlink name)
      if found then removeAll names else throw (.osError "FileNotFoundError")

/-- `_cleanup_incomplete`: the number of files removed. -/
def cleanupIncomplete (caller : String) : ScratchProgram ℕ := do
  let names ← Program.query (ScratchQuery.listIncomplete caller)
  removeAll names
  return names.length

/-! ## Quota -/

def checkQuota (store : ScratchStore) (used incomingBytes : ℕ) (available : ℤ) :
    Except ScratchError Unit :=
  if store.quotaBytes < used + incomingBytes then
    .error (.scratchStoreError "quota_exceeded" "scratch quota exceeded")
  else if available < incomingBytes then
    .error (.scratchStoreError "disk_full" "scratch storage does not have enough space")
  else .ok ()

def checkAvailableQuota (store : ScratchStore) (incomingBytes : ℕ) (available : ℤ) :
    ScratchProgram Unit := do
  let used ← Program.query .directorySize
  Program.ofExcept (checkQuota store used incomingBytes available)

/-! ## Metadata -/

def contentId (sha256 : String) : String := "content-" ++ String.ofList (sha256.toList.take 32)

def storageUri (sha256 : String) : String := "scratch://sha256/" ++ sha256

/-- `int(value)`, of the values that the store writes. -/
def intOf (value : PyValue) : Except PyError ℤ := match value.int? with
  | some value => .ok value
  | none => .error .typeError

/-- `str(value)`, of the values that the store writes. -/
def textOf : PyValue → Except PyError PyStr
  | .text points => .ok points
  | _ => .error .typeError

/-- `mapping[name]`. -/
def item (items : PyDict) (name : String) : Except PyError PyValue := match items.get? name with
  | some value => .ok value
  -- a `KeyError`
  | none => .error .typeError

def newMetadata (sha256 : String) (size : ℕ) (provenance : PyDict) : PyDict :=
  [(.str "content_id", .str (contentId sha256)), (.str "sha256", .str sha256),
    (.str "size_bytes", .int size), (.str "storage_uri", .str (storageUri sha256)),
    (.str "ref_count", .int 1), (.str "provenance", .list [.dict provenance])]

def extendMetadata (existing : PyDict) (provenance : PyDict) : Except PyError PyDict := do
  let recorded ← listOf (← item existing "provenance")
  let references ← intOf (← item existing "ref_count")
  return (existing.set "ref_count" (.int (references + 1))).set "provenance"
    (.list (recorded ++ [.dict provenance]))

/-- The metadata after one more reference to the content. -/
def nextMetadata (store : ScratchStore) (sha256 : String) (size : ℕ) (provenance : PyDict) :
    Option String → Except PyError PyDict
  | none => .ok (newMetadata sha256 size provenance)
  | some text => do
      match ← loads store.runtime.recursionLimit text with
      | .dict existing => extendMetadata existing provenance
      | _ => throw .typeError

/-- What a call returns of the metadata it wrote. -/
def objectOf (sha256 : String) (size : ℕ) (data : PyDict) : Except PyError ScratchObject := do
  return {
    contentId := ← textOf (← item data "content_id")
    sha256 := .ofString sha256
    sizeBytes := size
    storageUri := .ofString (storageUri sha256)
    refCount := ← intOf (← item data "ref_count")
    provenance := ← listOf (← item data "provenance") }

def recordMetadata (store : ScratchStore) (call : PutCall) (sha256 : String) (size : ℕ) :
    ScratchProgram ScratchObject := do
  let existing ← Program.query (.readMetadata sha256)
  let data ← Program.ofExcept
    ((nextMetadata store sha256 size call.provenance existing).mapError .pyError)
  let text ← Program.ofExcept
    ((dumps true store.runtime.recursionLimit (.dict data)).mapError .pyError)
  Program.query (ScratchQuery.writeText call.hex call.metadataHex text)
  let found ← Program.query (.replaceMetadata call.metadataHex sha256)
  if !found then throw (.osError "FileNotFoundError")
  Program.ofExcept ((objectOf sha256 size data).mapError .pyError)

/-- `with self._metadata_lock`. -/
def withLock {α : Type} (caller : String) (program : ScratchProgram α) : ScratchProgram α := do
  Program.query (ScratchQuery.acquire caller)
  let result ← program.handle fun error => do
    Program.query ScratchQuery.release
    throw error
  Program.query ScratchQuery.release
  return result

/-! ## Storing a content -/

/-- The next chunk of an iterator. -/
def nextChunk : NextChunk → ScratchProgram Chunk
  | .own result => Program.ofExcept result
  | .read offset length check => do
      let answer ← Program.query (.read offset length)
      Program.ofExcept (answer >>= check)

/-- A chunk after `size` bytes. -/
def checkChunk (store : ScratchStore) (size : ℕ) : Chunk → Except ScratchError (List UInt8)
  | .value _ => .error (.scratchStoreError "invalid_chunk" "scratch chunks must be bytes")
  | .bytes data =>
    if store.quotaBytes < size + data.length then
      .error (.scratchStoreError "quota_exceeded" "scratch object exceeds quota")
    else .ok data

def writeChunks (store : ScratchStore) (hex : String) :
    List NextChunk → List UInt8 → ScratchProgram (List UInt8)
  | [], content => .done content
  | next :: rest, content => do
      let chunk ← nextChunk next
      let data ← Program.ofExcept (checkChunk store content.length chunk)
      Program.query (ScratchQuery.append hex data)
      writeChunks store hex rest (content ++ data)

/-- The content against what the caller expects. -/
def checkExpected (call : PutCall) (sha256 : String) (size : ℕ) : Except ScratchError Unit :=
  if call.expectedSha256.any fun expected => sha256 ≠ expected then
    .error (.scratchStoreError "hash_mismatch" "scratch object hash does not match")
  else if call.expectedSize.any fun expected => (size : ℤ) ≠ expected then
    .error (.scratchStoreError "size_mismatch" "scratch object size does not match")
  else .ok ()

/-- The temporary file becomes the object, unless there is one already. -/
def placeObject (hex sha256 : String) : ScratchProgram Unit := do
  let found ← Program.query (.objectExists sha256)
  if found then Program.query (ScratchQuery.unlinkMissing (.content hex))
  else
    let replaced ← Program.query (.replaceObject hex sha256)
    if !replaced then throw (.osError "FileNotFoundError")

def storeContent (store : ScratchStore) (call : PutCall) : ScratchProgram ScratchObject := do
  let created ← Program.query (.create call.hex)
  if !created then throw (.osError "FileExistsError")
  let content ← writeChunks store call.hex call.chunks []
  let sha256 := store.runtime.sha256Hex content
  Program.ofExcept (checkExpected call sha256 content.length)
  checkAvailableQuota store content.length call.available.2
  Program.ofExcept (validateSha256 sha256)
  placeObject call.hex sha256
  withLock call.hex (recordMetadata store call sha256 content.length)

def putBytes (store : ScratchStore) (call : PutCall) : ScratchProgram ScratchObject := do
  Program.query ScratchQuery.makeDirectories
  let _ ← cleanupIncomplete call.hex
  checkAvailableQuota store 0 call.available.1
  (storeContent store call).handle fun error => do
    Program.query (ScratchQuery.unlinkMissing (.content call.hex))
    throw error

/-! ## Loading metadata -/

def invalidMetadata (message : String) : ScratchError :=
  .scratchStoreError "invalid_metadata" message

/-- `isinstance(value, int)` and not a boolean. -/
def plainInt? : PyValue → Option ℤ
  | .int value => some value
  | _ => none

def isWellFormed (sha256 : String) (data : PyDict) : Bool :=
  (data.get "sha256").eq (.str sha256) && (plainInt? (data.get "size_bytes")).any (0 ≤ ·) &&
    (plainInt? (data.get "ref_count")).any (1 ≤ ·) &&
      match data.get "provenance" with
      | .list _ => true
      | _ => false

def loadMetadata {Source : Type} (store : ScratchStore) (sha256 : String)
    (state : ScratchState Source) : Except ScratchError ScratchObject := do
  validateSha256 sha256
  match state.metadata.read sha256 with
  | none => throw (invalidMetadata "scratch metadata cannot be read")
  | some text =>
    match loads store.runtime.recursionLimit text with
    | .error .jsonDecodeError => throw (invalidMetadata "scratch metadata cannot be read")
    | .error error => throw (.pyError error)
    | .ok (.dict data) =>
      if isWellFormed sha256 data then
        (do
          return {
            contentId := ← textOf (← item data "content_id")
            sha256 := ← textOf (← item data "sha256")
            sizeBytes := ← intOf (← item data "size_bytes")
            storageUri := ← textOf (← item data "storage_uri")
            refCount := ← intOf (← item data "ref_count")
            provenance := ← listOf (← item data "provenance") }
          : Except PyError ScratchObject).mapError .pyError
      else throw (invalidMetadata "scratch metadata is malformed")
    | .ok _ => throw (invalidMetadata "scratch metadata is malformed")

end Scratch

end Reperio
