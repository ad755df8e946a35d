import Mathlib.Data.List.Lex
import Mathlib.Data.List.Sort
import Reperio.Backup.Manifest
import Reperio.Storage.Directory

/-!
# State backups

`create_state_backup` of `shared/diagnostics_backup.py`. The state directory is what
can be seen in it through paths; nothing changes there while the backup is made,
and the archive is a file of its own. `tarfile` stores a link as a link, and a
further name of a file that it has stored already as a hard link to it.
-/

namespace Reperio.Backup

open Python Storage

/-! ## State directories -/

/-- What stands behind a symbolic link. -/
inductive LinkTarget where
  | file (content : List UInt8)
  | directory
  | other
  deriving DecidableEq

/-- What stands at a path of the state directory. -/
inductive StateNode where
  -- the inode and the device, and the number of names of the file
  | file (inode : ℕ × ℕ) (links : ℕ) (content : List UInt8)
  | symlink (target : LinkTarget)
  | directory
  | other
  deriving DecidableEq

namespace StateNode

/-- `path.is_file()` follows links. -/
def isFile : StateNode → Bool
  | file .. | symlink (.file _) => true
  | _ => false

def isDir : StateNode → Bool
  | directory | symlink .directory => true
  | _ => false

/-- `path.read_bytes()`, of a file. -/
def readBytes : StateNode → List UInt8
  | file _ _ content | symlink (.file content) => content
  | _ => []

end StateNode

/-- A name as a file system holds it: bytes that have no encoding are single low surrogates. -/
structure IsFileName (name : PyStr) : Prop where
  noParent : name ≠ .ofString ".."
  noPair : ∀ point ∈ name, isHighSurrogate point = false

/-- What is in a directory and in the directories inside of it, under relative paths. A link to a
directory is followed only where it stands in the state directory itself. -/
structure StateDirectory where
  nodes : List (PurePath × StateNode)
  relative : ∀ entry ∈ nodes, entry.1.root = [] ∧ entry.1.parts ≠ []
  areNames : ∀ entry ∈ nodes, ∀ name ∈ entry.1.parts, IsFileName name
  distinct : (nodes.map Prod.fst).Nodup
  held : ∀ entry ∈ nodes, entry.1.parts.length ≠ 1 → (entry.1.parent, .directory) ∈ nodes ∨
      entry.1.parts.length = 2 ∧ (entry.1.parent, .symlink .directory) ∈ nodes

/-! ## Selecting -/

def includeDirs : List PyStr := [.ofString "checkpoints"]

def includeFiles : List PyStr := ["catalog.sqlite3", "settings.json"].map PyStr.ofString

/-- `child.rglob("*")`, as far as there are files. -/
def filesBelow (state : StateDirectory) (child : PyStr) : List (PurePath × StateNode) :=
  state.nodes.filter fun entry =>
    decide (entry.1.parts.length ≠ 1 ∧ entry.1.parts.head? = some child) && entry.2.isFile

/-- What one child of the state directory adds to a backup. -/
def childEntries (state : StateDirectory) (allowedDirs : List PyStr)
    (child : PurePath × StateNode) : List (PurePath × StateNode) :=
  if child.1.name ∈ excludedNames then []
  else if child.2.isFile = true ∧ child.1.name ∈ includeFiles then [child]
  else if child.2.isDir = true ∧ child.1.name ∈ allowedDirs then filesBelow state child.1.name
  else []

/-- `_state_entries`. -/
def stateEntries (state : StateDirectory) (includeDerivatives : Bool) :
    List (PurePath × StateNode) :=
  let allowedDirs :=
    if includeDerivatives then includeDirs ++ [.ofString "derivatives"] else includeDirs
  let children := state.nodes.filter fun entry => entry.1.parts.length = 1
  (children.flatMap (childEntries state allowedDirs)).insertionSort
    fun first second => first.1.parts ≤ second.1.parts

/-- What the manifest says of an entry. -/
def entryOf (platform : Platform) (entry : PurePath × StateNode) : ManifestEntry where
  path := entry.1.text
  digest := platform.sha256 entry.2.readBytes
  sizeBytes := entry.2.readBytes.length

/-! ## Storing -/

/-- `archive.add`: a file of which another name is stored already becomes a hard link. -/
def addMember (inodes : Directory (ℕ × ℕ) PyStr) (name : PyStr) :
    StateNode → Member × Directory (ℕ × ℕ) PyStr
  | .file inode links content =>
    if 1 < links ∧ ∃ stored ∈ inodes.read inode, stored ≠ name then
      ({ name, kind := .hardLink, content := none }, inodes)
    else
      ({ name, kind := .regular, content := some content },
        if inode.1 = 0 then inodes else inodes.write inode name)
  | .symlink _ => ({ name, kind := .symlink, content := none }, inodes)
  | .directory => ({ name, kind := .directory, content := none }, inodes)
  | .other => ({ name, kind := .device, content := none }, inodes)

def addMembers : Directory (ℕ × ℕ) PyStr → List (PurePath × StateNode) → List Member
  | _, [] => []
  | inodes, (path, node) :: entries =>
    let (member, inodes) := addMember inodes path.text node
    member :: addMembers inodes entries

/-- What a finished backup returns. -/
structure BackupResult where
  archivePath : PurePath
  manifestSha256 : PyStr
  entries : List PyStr

/-- `create_state_backup`, for resolved paths, with what the archive holds in the end. -/
def createStateBackup (platform : Platform) (stateRoot archivePath : PurePath)
    (state : StateDirectory) (workersPaused includeDerivatives : Bool) (schemaVersion : ℤ) :
    Except BackupError (BackupResult × List Member) := do
  if !workersPaused then
    .error (.diagnosticsBackupError "workers_not_paused" "backup requires paused workers")
  else if archivePath.root = stateRoot.root ∧
    stateRoot.parts.isPrefixOf archivePath.parts = true then
    .error (.diagnosticsBackupError "archive_inside_state"
      "backup archive must be outside the state directory")
  else do
    let entries := stateEntries state includeDerivatives
    let manifest ← (manifestBytes platform schemaVersion (entries.map (entryOf platform))).mapError
      fun _ => .raised
    return ({ archivePath
              manifestSha256 := platform.sha256 manifest
              entries := entries.map fun entry => entry.1.text },
      manifestMember manifest :: addMembers [] entries)

end Reperio.Backup
