import Reperio.Backup.RoundTrip
import Reperio.Storage.WriteAheadLog

/-!
# What a backup keeps of the catalog

Connections put the catalog in WAL mode, so what is committed is in its log until
a checkpoint copies it. A backup takes the main file without the log, and so
keeps every committed transaction exactly when the log holds none that is not
copied (`restoredCatalog_complete_iff`).
-/

namespace Reperio.Backup

open Python Storage Concurrency

/-- SQLite as a reader of a main file, and of the log beside it if there is one. -/
structure Sqlite (Transaction : Type) where
  Finds (main : List UInt8) (log : Option (List UInt8)) (transaction : Transaction) : Prop

def catalogName : PyStr := .ofString "catalog.sqlite3"

def logName : PyStr := .ofString "catalog.sqlite3-wal"

/-- What a connection to the catalog finds, where the files of a directory have these contents. -/
def Sqlite.FindsIn {Transaction : Type} (sqlite : Sqlite Transaction)
    (contentOf : PyStr → Option (List UInt8)) (transaction : Transaction) : Prop :=
  ∃ main ∈ contentOf catalogName, sqlite.Finds main (contentOf logName) transaction

def StateDirectory.contentOf (state : StateDirectory) (name : PyStr) : Option (List UInt8) :=
  ((Directory.read state.nodes (PurePath.ofText name)).filter StateNode.isFile).map
    StateNode.readBytes

def contentOf (root : Place) (files : Files) (name : PyStr) : Option (List UInt8) :=
  match files.read (locate root name) with
  | some (.file content) => some content
  | _ => none

/-- The two files of the catalog hold what SQLite wrote to them, and it reads them so. -/
structure HoldsCatalog {Transaction : Type} (sqlite : Sqlite Transaction) (state : StateDirectory)
    (database : WriteAheadLog Transaction) : Prop where
  alone : ∃ main ∈ state.contentOf catalogName, ∀ transaction,
    sqlite.Finds main none transaction ↔ transaction ∈ database.main
  together (transaction : Transaction) : sqlite.FindsIn state.contentOf transaction ↔
    transaction ∈ database.main ∨ transaction ∈ database.log

variable {Transaction : Type} {sqlite : Sqlite Transaction} {state : StateDirectory}
variable {database : WriteAheadLog Transaction} {actions : List (LogAction Transaction)}
variable {transaction : Transaction} {entry : PurePath × StateNode} {includeDerivatives : Bool}

/-! ## The files of the catalog -/

theorem isSafe_logName : IsSafe logName := ⟨by decide, by decide, by decide⟩

theorem components_logName : components logName = [logName] := by decide

variable {main : List UInt8}

/-- The catalog is listed, with what its main file holds. -/
theorem exists_catalogEntry (isMain : main ∈ state.contentOf catalogName) :
    ∃ entry ∈ stateEntries state includeDerivatives,
      entry.1.text = catalogName ∧ entry.2.readBytes = main := by
  obtain ⟨node, isNode, isBytes⟩ := Option.map_eq_some_iff.mp isMain
  obtain ⟨isRead, isFile⟩ := Option.filter_eq_some_iff.mp isNode
  obtain ⟨⟨path, _⟩, found, rfl⟩ := Option.map_eq_some_iff.mp isRead
  have isEntry := List.mem_of_find?_eq_some found
  obtain rfl : path = PurePath.ofText catalogName := by simpa using List.find?_some found
  have isText : (PurePath.ofText catalogName).text = catalogName := by decide
  refine ⟨_, ?_, isText, isBytes⟩
  rw [stateEntries, List.mem_insertionSort, List.mem_flatMap]
  have single : (PurePath.ofText catalogName).parts.length = 1 := by decide
  have named : (PurePath.ofText catalogName).name ∉ excludedNames ∧
      (PurePath.ofText catalogName).name ∈ includeFiles := by decide
  refine ⟨_, List.mem_filter.mpr ⟨isEntry, decide_eq_true single⟩, ?_⟩
  rw [childEntries, if_neg named.1, if_pos ⟨isFile, named.2⟩]
  exact List.mem_singleton_self _

/-! ## The restored catalog -/

section

variable {platform : Platform} {stateRoot archivePath : PurePath} {workersPaused : Bool}
variable {schemaVersion : ℤ} {result : BackupResult} {members : List Member} {root : Place}
variable {names : List PyStr} {after : Files}
variable (lawful : IsLawful platform) (tree : FileTree)
variable (isRoot : tree.files.read root = some .directory) (empty : HoldsNothing tree.files root)
variable (created : createStateBackup platform stateRoot archivePath state workersPaused
  includeDerivatives schemaVersion = .ok (result, members))
variable (restored : restoreStateBackup platform (fun _ => none) schemaVersion root tree.files
  (some members) = (.ok names, after))

include lawful isRoot empty created restored

theorem contentOf_catalogName (isMain : main ∈ state.contentOf catalogName) :
    contentOf root after catalogName = some main := by
  have returned : (restoreStateBackup platform (fun _ => none) schemaVersion root tree.files
      (some members)).1 = .ok names := by rw [restored]
  have areRegular := areRegular_of_returned lawful tree isRoot empty created returned
  have restores := restoresBackup_of_areRegular lawful tree isRoot empty created areRegular
  rw [restored] at restores
  obtain ⟨entry, isEntry, isName, isBytes⟩ := exists_catalogEntry isMain
  have recreated := restores.recreated entry isEntry
  rw [isName, isBytes] at recreated
  rw [contentOf, recreated]

theorem contentOf_logName : contentOf root after logName = none := by
  unfold contentOf
  split
  · rename_i content found
    have isLog : locate root logName = logName :: root := by
      rw [locate_of_isSafe isSafe_logName, components_logName]
      rfl
    have returned : (restoreStateBackup platform (fun _ => none) schemaVersion root tree.files
        (some members)).1 = .ok names := by rw [restored]
    have inside : Inside root (locate root logName) := isLog ▸ inside_append logName []
    obtain ⟨entry, isEntry, located⟩ :=
      exists_entry_of_restored lawful tree isRoot empty created returned inside
        (by rw [restored, found])
    rw [(isSelected_of_mem isEntry).locate, isLog] at located
    have isName : entry.1.parts.reverse = [logName] := List.append_cancel_right located
    have isParts : entry.1.parts = [logName] := List.reverse_inj.mp isName
    have listed := (isSelected_of_mem isEntry).listed (by rw [isParts]; rfl)
    rw [PurePath.name, isParts] at listed
    have notListed : [logName].getLast?.getD [] ∉ includeFiles := by decide
    exact absurd listed notListed
  · rfl

/-- A connection to the restored catalog finds what the main file held. -/
theorem findsIn_restored_iff (holds : HoldsCatalog sqlite state database) :
    sqlite.FindsIn (contentOf root after) transaction ↔ transaction ∈ database.main := by
  obtain ⟨main, isMain, finds⟩ := holds.alone
  have isCatalog := contentOf_catalogName lawful tree isRoot empty created restored isMain
  have noLog := contentOf_logName lawful tree isRoot empty created restored
  rw [Sqlite.FindsIn, isCatalog, noLog, ← finds transaction]
  simp

end

/-- The restored catalog has every transaction that was committed before the backup exactly when
none of them was left to the log alone. -/
theorem restoredCatalog_complete_iff {platform : Platform} {stateRoot archivePath : PurePath}
    {workersPaused : Bool} {schemaVersion : ℤ} {result : BackupResult} {members : List Member}
    {root : Place} {names : List PyStr} {after : Files} (lawful : IsLawful platform)
    (ran : runFrom WriteAheadLog.step .create actions = some database)
    (holds : HoldsCatalog sqlite state database)
    (created : createStateBackup platform stateRoot archivePath state workersPaused
      includeDerivatives schemaVersion = .ok (result, members))
    (tree : FileTree) (isRoot : tree.files.read root = some .directory)
    (empty : HoldsNothing tree.files root)
    (restored : restoreStateBackup platform (fun _ => none) schemaVersion root tree.files
      (some members) = (.ok names, after)) :
    (∀ transaction ∈ actions.flatMap LogAction.committed,
      sqlite.FindsIn (contentOf root after) transaction) ↔ database.log ⊆ database.main := by
  rw [← WriteAheadLog.contents_subset_main_iff, WriteAheadLog.contents_of_run ran]
  exact forall₂_congr fun transaction _ =>
    findsIn_restored_iff lawful tree isRoot empty created restored holds

/-! ## A catalog with one transaction -/

/-- A transaction is a byte, and is found in any file that has it. -/
def byteSqlite : Sqlite UInt8 where
  Finds main log transaction := transaction ∈ main ∨ ∃ frames ∈ log, transaction ∈ frames

/-- The digests of no byte and of a byte that is one. -/
def byteDigest (content : List UInt8) : PyStr := if content = [1] then
    .ofString "4bf5122f344554c53bde2ebb8cd2b7e3d1600ad631c385a5d7cce23c7785459a"
  else emptyDigest

def bytePlatform : Platform := { emptyPlatform with sha256 := byteDigest }

theorem isHex_byteDigest (content : List UInt8) :
    (byteDigest content).length = 64 ∧ (byteDigest content).all isHexDigit = true := by
  unfold byteDigest
  split
  · exact ⟨rfl, by decide⟩
  · exact ⟨emptyPlatform_isLawful.digestLength [], emptyPlatform_isLawful.digestHex []⟩

theorem bytePlatform_isLawful : IsLawful bytePlatform where
  toInt _ := rfl
  digestLength content := (isHex_byteDigest content).1
  digestHex content := (isHex_byteDigest content).2

def catalogNodes (main log : List UInt8) : List (PurePath × StateNode) :=
  [(.ofText catalogName, .file (1, 1) 1 main), (.ofText logName, .file (2, 1) 1 log)]

section

variable {main log : List UInt8}

theorem parts_catalogNodes :
    (PurePath.ofText catalogName).parts = [catalogName] ∧
      (PurePath.ofText logName).parts = [logName] ∧
      (PurePath.ofText catalogName).root = [] ∧ (PurePath.ofText logName).root = [] := by
  decide

theorem relative_catalogNodes : ∀ entry ∈ catalogNodes main log,
    entry.1.root = [] ∧ entry.1.parts ≠ [] := by
  obtain ⟨isCatalog, isLog, catalogRoot, logRoot⟩ := parts_catalogNodes
  simp [catalogNodes, isCatalog, isLog, catalogRoot, logRoot]

theorem areNames_catalogNodes : ∀ entry ∈ catalogNodes main log, ∀ name ∈ entry.1.parts,
    IsFileName name := by
  obtain ⟨isCatalog, isLog, -, -⟩ := parts_catalogNodes
  have areNames : IsFileName catalogName ∧ IsFileName logName :=
    ⟨isFileName_ofString (by decide), isFileName_ofString (by decide)⟩
  simp [catalogNodes, isCatalog, isLog, areNames.1, areNames.2]

theorem distinct_catalogNodes : ((catalogNodes main log).map Prod.fst).Nodup := by
  have different : PurePath.ofText catalogName ≠ PurePath.ofText logName := by decide
  simp [catalogNodes, different]

theorem held_catalogNodes : ∀ entry ∈ catalogNodes main log, entry.1.parts.length ≠ 1 →
    (entry.1.parent, .directory) ∈ catalogNodes main log ∨
      entry.1.parts.length = 2 ∧ (entry.1.parent, .symlink .directory) ∈ catalogNodes main log := by
  obtain ⟨isCatalog, isLog, -, -⟩ := parts_catalogNodes
  simp [catalogNodes, isCatalog, isLog]

end

def catalogState (main log : List UInt8) : StateDirectory where
  nodes := catalogNodes main log
  relative := relative_catalogNodes
  areNames := areNames_catalogNodes
  distinct := distinct_catalogNodes
  held := held_catalogNodes

theorem holdsCatalog_catalogState {log : List UInt8} {database : WriteAheadLog UInt8}
    (isMain : database.main = main) (isLog : database.log = log) :
    HoldsCatalog byteSqlite (catalogState main log) database := by
  have different : PurePath.ofText catalogName ≠ PurePath.ofText logName := by decide
  have isMainFile : (catalogState main log).contentOf catalogName = some main := by
    simp [StateDirectory.contentOf, catalogState, catalogNodes, Directory.read, StateNode.isFile,
      StateNode.readBytes]
  have isLogFile : (catalogState main log).contentOf logName = some log := by
    simp [StateDirectory.contentOf, catalogState, catalogNodes, Directory.read, StateNode.isFile,
      StateNode.readBytes, different]
  constructor
  · exact ⟨main, isMainFile, fun transaction => by simp [byteSqlite, isMain]⟩
  · intro transaction
    rw [Sqlite.FindsIn, isMainFile, isLogFile, isMain, isLog]
    simp [byteSqlite]

/-- The backup of such a catalog is restored. -/
theorem exists_restoredCatalog (main log : List UInt8)
    (isSome : (createStateBackup bytePlatform (.ofText (.ofString "/state"))
      (.ofText (.ofString "/backup.tar")) (catalogState main log) true false 7).toOption.isSome =
        true)
    (isEntries : stateEntries (catalogState main log) false =
      [(.ofText catalogName, .file (1, 1) 1 main)]) :
    ∃ result members names after,
      createStateBackup bytePlatform (.ofText (.ofString "/state"))
        (.ofText (.ofString "/backup.tar"))
        (catalogState main log) true false 7 = .ok (result, members) ∧
      restoreStateBackup bytePlatform (fun _ => none) 7 [] emptyDisk.files (some members) =
        (.ok names, after) := by
  obtain ⟨⟨result, members⟩, isResult⟩ := Option.isSome_iff_exists.mp isSome
  have created := eq_ok_of_toOption isResult
  have areRegular : ∀ member ∈ addMembers [] (stateEntries (catalogState main log) false),
      member.kind = .regular := by
    rw [areRegular_iff, isEntries]
    simp
  obtain ⟨⟨names, returned⟩, -⟩ := restoresBackup_of_areRegular bytePlatform_isLawful emptyDisk rfl
    emptyDisk_holdsNothing created areRegular
  exact ⟨result, members, names, _, created, Prod.ext returned rfl⟩

/-- The transaction is copied before the backup, and restored. -/
theorem copiedCatalog_complete : ∃ database result members names after,
    runFrom WriteAheadLog.step .create [.commit (1 : UInt8), .checkpoint 1] = some database ∧
    createStateBackup bytePlatform (.ofText (.ofString "/state"))
      (.ofText (.ofString "/backup.tar"))
      (catalogState [1] [1]) true false 7 = .ok (result, members) ∧
    restoreStateBackup bytePlatform (fun _ => none) 7 [] emptyDisk.files (some members) =
      (.ok names, after) ∧
    ∀ transaction ∈ [.commit (1 : UInt8), .checkpoint 1].flatMap LogAction.committed,
      byteSqlite.FindsIn (contentOf [] after) transaction := by
  obtain ⟨result, members, names, after, created, restored⟩ :=
    exists_restoredCatalog [1] [1] (by decide) (by decide)
  obtain ⟨database, ran, isMain, isLog⟩ : ∃ database,
      runFrom WriteAheadLog.step .create [.commit (1 : UInt8), .checkpoint 1] = some database ∧
      database.main = [1] ∧ database.log = [1] := ⟨_, rfl, rfl, rfl⟩
  refine ⟨database, result, members, names, after, ran, created, restored, ?_⟩
  refine (restoredCatalog_complete_iff bytePlatform_isLawful ran
    (holdsCatalog_catalogState isMain isLog) created emptyDisk rfl emptyDisk_holdsNothing
      restored).mpr ?_
  rw [isMain, isLog]
  exact List.Subset.refl _

/-- The transaction is left to the log, and lost. -/
theorem uncopiedCatalog_not_complete : ∃ database result members names after,
    runFrom WriteAheadLog.step .create [.commit (1 : UInt8)] = some database ∧
    HoldsCatalog byteSqlite (catalogState [] [1]) database ∧
    createStateBackup bytePlatform (.ofText (.ofString "/state"))
      (.ofText (.ofString "/backup.tar"))
      (catalogState [] [1]) true false 7 = .ok (result, members) ∧
    restoreStateBackup bytePlatform (fun _ => none) 7 [] emptyDisk.files (some members) =
      (.ok names, after) ∧
    ¬ ∀ transaction ∈ [.commit (1 : UInt8)].flatMap LogAction.committed,
      byteSqlite.FindsIn (contentOf [] after) transaction := by
  obtain ⟨result, members, names, after, created, restored⟩ :=
    exists_restoredCatalog [] [1] (by decide) (by decide)
  have holds : HoldsCatalog byteSqlite (catalogState [] [1])
      { WriteAheadLog.create with uncopied := [1] } := holdsCatalog_catalogState rfl rfl
  refine ⟨_, result, members, names, after, rfl, holds, created, restored, fun complete => ?_⟩
  have found := complete 1 (List.mem_singleton_self _)
  exact List.not_mem_nil ((findsIn_restored_iff bytePlatform_isLawful emptyDisk rfl
    emptyDisk_holdsNothing created restored holds).mp found)

end Reperio.Backup
