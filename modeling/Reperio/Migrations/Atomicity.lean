import Reperio.Migrations.History

/-!
# Migration runs are all or nothing

The version is read before the write transaction starts, so between the two
another migrator may have been at work. A migrator is therefore judged under
interference: whatever upgrades the others commit between two of its requests,
it commits at most one upgrade, from the version it has read to its target,
and when it raises it has committed none (`meets_migrateCatalog`). Run alone it
is all or nothing; in a crew of migrators the history stays without gaps, with
each migration applied once.
-/

namespace Reperio.Migrations

open Concurrency Python Relational

variable {Conn Statement Tables : Type} {SchemaReply : Statement → Type}

/-- What the others may do to a catalog between two requests of a migrator. -/
structure Interference (others : Database Tables → Database Tables → Prop) : Prop where
  refl : ∀ database, others database database
  trans : ∀ first second third, others first second → others second third → others first third
  kept : ∀ before after, others before after → before.history.isSome → after.history.isSome
  grows : ∀ before after version, others before after → before.AtVersion version →
    ∃ later, version ≤ later ∧ after.AtVersion later

variable [DecidableEq Conn] {schema : Engine Statement SchemaReply Tables} {conn : Conn}
  {others own : Database Tables → Database Tables → Prop}

/-- The obligation of a migrator. -/
abbrev MeetsAmong (schema : Engine Statement SchemaReply Tables) (conn : Conn)
    (others own : Database Tables → Database Tables → Prop) {α : Type}
    (post : Except Failure α → Concurrency.Host Conn (Database Tables) (Files Tables) → Prop)
    (program : Runs Statement SchemaReply α)
    (host : Concurrency.Host Conn (Database Tables) (Files Tables)) : Prop :=
  program.Meets (Request.perform (engine schema) performFile conn)
    (Concurrency.Host.Rely others conn) (Concurrency.Host.Guarantee own conn) post host

section Reads

variable {α : Type} {host : Concurrency.Host Conn (Database Tables) (Files Tables)}
  {post : Except Failure α → Concurrency.Host Conn (Database Tables) (Files Tables) → Prop}

theorem meets_read {query : Query Statement} (ownRefl : ∀ database, own database database)
    (isRead : (engine schema).busy query = none) (idle : host.database.working conn = none)
    {rest : Reply SchemaReply query → Runs Statement SchemaReply α}
    (continues : ∀ later, others host.database.committed later.database.committed →
      later.database.working conn = none →
      MeetsAmong schema conn others own post
        (rest (perform schema query later.database.committed).2) later) :
    MeetsAmong schema conn others own post (execute query >>= rest) host :=
  Program.meets_read_bind ownRefl isRead idle continues

theorem meets_onFiles {query : FileQuery} (ownRefl : ∀ database, own database database)
    (idle : host.database.working conn = none)
    {rest : FileReply query → Runs Statement SchemaReply α}
    (continues : ∀ reply later, others host.database.committed later.database.committed →
      later.database.working conn = none →
      MeetsAmong schema conn others own post (rest reply) later) :
    MeetsAmong schema conn others own post (onFiles query >>= rest) host :=
  Program.meets_outside_bind ownRefl idle continues

end Reads

/-- Nobody else is at work. -/
theorem interference_eq : Interference (Eq : Database Tables → Database Tables → Prop) where
  refl _ := rfl
  trans _ _ _ := Eq.trans
  kept := by
    rintro before _ rfl
    exact id
  grows := by
    rintro before _ version rfl atVersion
    exact ⟨version, le_refl _, atVersion⟩

/-- The others apply migrations that somebody offers. -/
def UpgradesBy (schema : Engine Statement SchemaReply Tables)
    (offered : Migration Statement SchemaReply → Prop) (before after : Database Tables) : Prop :=
  ∃ applied, (∀ one ∈ applied, offered one.1) ∧ Upgrade schema before applied after

theorem interference_upgradesBy (offered : Migration Statement SchemaReply → Prop) :
    Interference (UpgradesBy schema offered) where
  refl database := ⟨[], by simp, Upgrade.refl database⟩
  trans := by
    rintro first second third ⟨earlier, earlierOffered, before⟩ ⟨later, laterOffered, after⟩
    refine ⟨earlier ++ later, ?_, before.trans after⟩
    intro one member
    rcases List.mem_append.mp member with isEarlier | isLater
    · exact earlierOffered one isEarlier
    · exact laterOffered one isLater
  kept := by
    rintro before after ⟨_, _, upgrade⟩
    exact upgrade.kept
  grows := by
    rintro before after version ⟨applied, _, upgrade⟩ atVersion
    exact ⟨_, Nat.le_add_right _ _, upgrade.atVersion atVersion⟩

theorem Interference.rely_refl (interference : Interference others) (conn : Conn)
    (host : Concurrency.Host Conn (Database Tables) (Files Tables)) :
    Concurrency.Host.Rely others conn host host :=
  Concurrency.Host.Rely.refl interference.refl conn host

variable {host : Concurrency.Host Conn (Database Tables) (Files Tables)}
    {post : Except Failure ℕ → Concurrency.Host Conn (Database Tables) (Files Tables) → Prop}
    {version : ℕ} {clock : ℕ → DateTime} {result : Except Failure MigrationResult}

/-- The version that is found was the recorded one at some moment of the look-up. -/
theorem meets_currentSchemaVersion (interference : Interference others)
    (ownRefl : ∀ database, own database database) (idle : host.database.working conn = none)
    (atVersion : host.database.committed.AtVersion version)
    (ends : ∀ found last, version ≤ found →
      (∃ seen, others host.database.committed seen ∧ seen.AtVersion found ∧
        others seen last.database.committed) →
      last.database.working conn = none → post (.ok found) last) :
    MeetsAmong schema conn others own post currentSchemaVersion host := by
  refine meets_read ownRefl rfl idle ?_
  intro first firstMoved firstIdle
  rcases interference.grows _ _ _ firstMoved atVersion with ⟨firstVersion, atLeast, atFirst⟩
  cases history : first.database.committed.history with
  | none =>
    simp only [perform, history, Option.isSome_none, Bool.false_eq_true, if_false]
    have zero : firstVersion = 0 := by
      rw [← atFirst.length_rows, Database.rows, history]
      rfl
    rw [zero] at atFirst atLeast
    rintro last ⟨undisturbed, lastMoved⟩
    exact ends 0 last atLeast ⟨_, firstMoved, atFirst, lastMoved⟩
      (undisturbed.working.trans firstIdle)
  | some table =>
    simp only [perform, history, Option.isSome_some, if_true]
    refine meets_read ownRefl rfl firstIdle ?_
    intro second secondMoved secondIdle
    rcases interference.grows _ _ _ secondMoved atFirst with
      ⟨secondVersion, atLeastFirst, atSecond⟩
    have stillThere := interference.kept _ _ secondMoved (by simp [history])
    rcases Option.isSome_iff_exists.mp stillThere with ⟨secondTable, secondHistory⟩
    have largest := Database.max?_eq atSecond
    simp only [Database.rows, secondHistory, Option.elim_some] at largest
    simp only [perform, secondHistory, Program.ofExcept, Program.done_bind, largest]
    rintro last ⟨undisturbed, lastMoved⟩
    exact ends secondVersion last (atLeast.trans atLeastFirst)
      ⟨_, interference.trans _ _ _ firstMoved secondMoved, atSecond, lastMoved⟩
      (undisturbed.working.trans secondIdle)

section Checks

variable {host : Concurrency.Host Conn (Database Tables) (Files Tables)}

theorem meets_ensureContiguousHistory (interference : Interference others)
    (ownRefl : ∀ database, own database database)
    {post : Except Failure Unit → Concurrency.Host Conn (Database Tables) (Files Tables) → Prop}
    (idle : host.database.working conn = none) (current : ℕ)
    (ends : ∀ last, others host.database.committed last.database.committed →
      last.database.working conn = none →
      (current ≠ 0 → ∃ seen, others host.database.committed seen ∧ seen.AtVersion current ∧
        others seen last.database.committed) → post (.ok ()) last)
    (fails : ∀ error last, others host.database.committed last.database.committed →
      post (.error error) last) :
    MeetsAmong schema conn others own post (ensureContiguousHistory current) host := by
  unfold ensureContiguousHistory
  split
  · rename_i isZero
    rintro last ⟨undisturbed, moved⟩
    exact ends last moved (undisturbed.working.trans idle) fun notZero => absurd isZero notZero
  · refine meets_read ownRefl rfl idle ?_
    intro later laterMoved laterIdle
    cases history : later.database.committed.history with
    | none =>
      simp only [perform, history, Program.ofExcept, Program.raise_bind]
      rintro last ⟨_, moved⟩
      exact fails _ last (interference.trans _ _ _ laterMoved moved)
    | some table =>
      simp only [perform, history, Program.ofExcept, Program.done_bind]
      split
      · rintro last ⟨_, moved⟩
        exact fails _ last (interference.trans _ _ _ laterMoved moved)
      · rename_i observed
        rintro last ⟨undisturbed, moved⟩
        exact ends last (interference.trans _ _ _ laterMoved moved)
          (undisturbed.working.trans laterIdle)
          fun _ => ⟨_, laterMoved, not_not.mp observed, moved⟩

theorem meets_rejectUnsafeExistingPath (interference : Interference others)
    (ownRefl : ∀ database, own database database)
    {post : Except Failure Unit → Concurrency.Host Conn (Database Tables) (Files Tables) → Prop}
    (idle : host.database.working conn = none) (path : Path) (label : String)
    (ends : ∀ last, others host.database.committed last.database.committed →
      last.database.working conn = none → post (.ok ()) last)
    (fails : ∀ error last, others host.database.committed last.database.committed →
      last.database.working conn = none → post (.error error) last) :
    MeetsAmong schema conn others own post (rejectUnsafeExistingPath path label) host := by
  refine meets_onFiles ownRefl idle ?_
  intro details later laterMoved laterIdle
  split
  · rintro last ⟨undisturbed, moved⟩
    exact fails _ last (interference.trans _ _ _ laterMoved moved)
      (undisturbed.working.trans laterIdle)
  · rintro last ⟨undisturbed, moved⟩
    exact ends last (interference.trans _ _ _ laterMoved moved)
      (undisturbed.working.trans laterIdle)

theorem meets_backupDatabase (interference : Interference others)
    (ownRefl : ∀ database, own database database)
    {post : Except Failure Path → Concurrency.Host Conn (Database Tables) (Files Tables) → Prop}
    (idle : host.database.working conn = none) (databasePath : Path)
    (backupDir : Option (List String)) (current target : ℕ)
    (ends : ∀ path last, others host.database.committed last.database.committed →
      last.database.working conn = none → post (.ok path) last)
    (fails : ∀ error last, others host.database.committed last.database.committed →
      post (.error error) last) :
    MeetsAmong schema conn others own post (backupDatabase databasePath backupDir current target)
      host := by
  refine Program.Meets.bind (interference.rely_refl conn)
    (meets_rejectUnsafeExistingPath interference ownRefl idle _ _ ?_
      fun error last moved _ => fails error last moved)
  intro safe safeMoved safeIdle
  refine meets_onFiles ownRefl safeIdle ?_
  intro kind seen seenMoved seenIdle
  have seenFrom := interference.trans _ _ _ safeMoved seenMoved
  split
  · rintro last ⟨_, moved⟩
    exact fails _ last (interference.trans _ _ _ seenFrom moved)
  · refine meets_onFiles ownRefl seenIdle ?_
    intro _ written writtenMoved writtenIdle
    rintro last ⟨undisturbed, moved⟩
    exact ends _ last (interference.trans _ _ _ (interference.trans _ _ _ seenFrom writtenMoved)
      moved) (undisturbed.working.trans writtenIdle)

end Checks

/-- All or nothing, for a call that others interfere with. -/
def Finishes (schema : Engine Statement SchemaReply Tables)
    (others : Database Tables → Database Tables → Prop) (clock : ℕ → DateTime)
    (selected : List (Migration Statement SchemaReply)) (start : Database Tables) :
    Except Failure MigrationResult → Database Tables → Prop
  | .ok result, last =>
    Contiguous selected ∧ ∃ current base after, current ≤ selected.length ∧ others start base ∧
      base.AtVersion current ∧
      Upgrade schema base ((pending current selected).map (stamped clock)) after ∧
      result.appliedVersions = List.range' (current + 1) (selected.length - current) ∧
      ∃ seen, others after seen ∧ seen.AtVersion result.currentVersion ∧ others seen last
  | .error _, last => others start last

theorem Finishes.interfere (interference : Interference others)
    {selected : List (Migration Statement SchemaReply)} {start before after : Database Tables}
    (finishes : Finishes schema others clock selected start result before)
    (moved : others before after) : Finishes schema others clock selected start result after := by
  cases result with
  | error error => exact interference.trans _ _ _ finishes moved
  | ok result =>
    rcases finishes with ⟨contiguous, current, base, upgraded, atMost, toBase, atBase, upgrade,
      versions, seen, toSeen, atSeen, fromSeen⟩
    exact ⟨contiguous, current, base, upgraded, atMost, toBase, atBase, upgrade, versions, seen,
      toSeen, atSeen, interference.trans _ _ _ fromSeen moved⟩

theorem Finishes.earlier (interference : Interference others)
    {selected : List (Migration Statement SchemaReply)} {start middle last : Database Tables}
    (moved : others start middle)
    (finishes : Finishes schema others clock selected middle result last) :
    Finishes schema others clock selected start result last := by
  cases result with
  | error error => exact interference.trans _ _ _ moved finishes
  | ok result =>
    rcases finishes with ⟨contiguous, current, base, upgraded, atMost, toBase, rest⟩
    exact ⟨contiguous, current, base, upgraded, atMost, interference.trans _ _ _ moved toBase, rest⟩

theorem pending_of_length_le {migrations : List (Migration Statement SchemaReply)}
    (contiguous : Contiguous migrations) {current : ℕ} (atEnd : current = migrations.length) :
    pending current migrations = [] := by
  have versions := contiguous.versions_pending (Nat.le_of_eq atEnd)
  rw [atEnd, Nat.sub_self, List.range'_zero, List.map_eq_nil_iff] at versions
  rw [atEnd, versions]

/-- The write transaction commits an upgrade from the version that was found, or nothing. -/
theorem meets_applyPendingMigrations (interference : Interference others)
    (ownRefl : ∀ database, own database database)
    {selected : List (Migration Statement SchemaReply)} (contiguous : Contiguous selected)
    {post : Except Failure (List ℕ) → Concurrency.Host Conn (Database Tables) (Files Tables) → Prop}
    {current : ℕ} (below : current < selected.length)
    (atVersion : host.database.committed.AtVersion version) (atLeast : current ≤ version)
    (commits : ∀ base after, base.AtVersion current →
      Upgrade schema base ((pending current selected).map (stamped clock)) after → own base after)
    (idle : host.database.working conn = none)
    (ends : ∀ base after last, others host.database.committed base → base.AtVersion current →
      Upgrade schema base ((pending current selected).map (stamped clock)) after →
      others after last.database.committed → last.database.working conn = none →
      post (.ok (List.range' (current + 1) (selected.length - current))) last)
    (fails : ∀ error last, others host.database.committed last.database.committed →
      post (.error error) last) :
    MeetsAmong schema conn others own post (applyPendingMigrations clock current selected)
      host := by
  refine Program.meets_transaction interference.refl interference.trans ownRefl idle ?_
    fun error last moved _ => fails error last moved
  intro base after applied moved ran
  rcases interference.grows _ _ _ moved atVersion with ⟨baseVersion, above, atBase⟩
  rcases upgrade_of_run contiguous below atBase (atLeast.trans above) ran with
    ⟨rfl, rfl, upgrade⟩
  exact ⟨commits base after atBase upgrade,
    fun last lastIdle lastMoved => ends base after last moved atBase upgrade lastMoved lastIdle⟩

theorem meets_migrateConnected (interference : Interference others)
    (ownRefl : ∀ database, own database database) (call : Call Statement SchemaReply)
    {selected : List (Migration Statement SchemaReply)} (contiguous : Contiguous selected)
    (commits : ∀ current base after, base.AtVersion current →
      Upgrade schema base ((pending current selected).map (stamped call.clock)) after →
      own base after) (idle : host.database.working conn = none)
    (atVersion : host.database.committed.AtVersion version) (existedBefore : Bool) :
    MeetsAmong schema conn others own
      (fun result last => Finishes schema others call.clock selected host.database.committed result
        last.database.committed)
      (migrateConnected call selected existedBefore) host := by
  have refl := interference.rely_refl conn
  refine Program.Meets.bind refl
    (meets_currentSchemaVersion interference ownRefl idle atVersion ?_)
  rintro current found _ ⟨seen, toSeen, atCurrent, fromSeen⟩ foundIdle
  have toFound := interference.trans _ _ _ toSeen fromSeen
  dsimp only
  rw [contiguous.targetVersion_eq]
  split
  · rintro last ⟨_, moved⟩
    exact interference.trans _ _ _ toFound moved
  · rename_i notNewer
    refine Program.Meets.bind refl
      (meets_ensureContiguousHistory interference ownRefl foundIdle current ?_ ?_)
    · intro checked checkedMoved checkedIdle _
      dsimp only
      split
      · rename_i atTarget
        rintro last ⟨_, moved⟩
        refine ⟨contiguous, current, seen, seen, Nat.le_of_eq atTarget, toSeen, atCurrent, ?_, ?_,
          seen, interference.refl _, atCurrent, interference.trans _ _ _ fromSeen
            (interference.trans _ _ _ checkedMoved moved)⟩
        · rw [pending_of_length_le contiguous atTarget]
          exact Upgrade.refl seen
        · rw [atTarget, Nat.sub_self, List.range'_zero]
      · rename_i notAtTarget
        have below : current < selected.length := by omega
        have seenChecked := interference.trans _ _ _ fromSeen checkedMoved
        have applying : ∀ (backup : Option Path)
            (ready : Concurrency.Host Conn (Database Tables) (Files Tables)),
            others seen ready.database.committed → ready.database.working conn = none →
            MeetsAmong schema conn others own
              (fun result last => Finishes schema others call.clock selected
                host.database.committed result last.database.committed)
              (do
                let applied ← applyPendingMigrations call.clock current selected
                let reached ← currentSchemaVersion
                return ⟨reached, applied, backup, true⟩) ready := by
          intro backup ready seenReady readyIdle
          have toReady := interference.trans _ _ _ toSeen seenReady
          rcases interference.grows _ _ _ seenReady atCurrent with ⟨readyVersion, atLeast, atReady⟩
          refine Program.Meets.bind refl (meets_applyPendingMigrations interference ownRefl
            contiguous below atReady atLeast (commits current) readyIdle ?_ ?_)
          · intro base after done toBase atBase upgrade doneMoved doneIdle
            have atAfter := upgrade.atVersion atBase
            rcases interference.grows _ _ _ doneMoved atAfter with ⟨doneVersion, _, atDone⟩
            refine Program.Meets.bind refl
              (meets_currentSchemaVersion interference ownRefl doneIdle atDone ?_)
            rintro reached last _ ⟨lastSeen, toLastSeen, atReached, fromLastSeen⟩ _
            rintro final ⟨_, finalMoved⟩
            exact ⟨contiguous, current, base, after, Nat.le_of_lt below,
              interference.trans _ _ _ toReady toBase, atBase, upgrade, rfl, lastSeen,
              interference.trans _ _ _ doneMoved toLastSeen, atReached,
              interference.trans _ _ _ fromLastSeen finalMoved⟩
          · intro error last moved
            exact interference.trans _ _ _ toReady moved
        cases existedBefore with
        | false => exact applying none checked seenChecked checkedIdle
        | true =>
          refine Program.Meets.bind refl (meets_backupDatabase interference ownRefl checkedIdle
            _ _ _ _ ?_ ?_)
          · intro path written moved writtenIdle
            exact applying (some path) written (interference.trans _ _ _ seenChecked moved)
              writtenIdle
          · intro error last moved
            exact interference.trans _ _ _ toSeen (interference.trans _ _ _ seenChecked moved)
    · intro error last moved
      exact interference.trans _ _ _ toFound moved

/-- Another exception in the place of one of SQLite's makes no difference here. -/
theorem meets_wrapSqliteErrors (interference : Interference others)
    {selected : List (Migration Statement SchemaReply)} {start : Database Tables}
    {program : Runs Statement SchemaReply MigrationResult}
    (meets : MeetsAmong schema conn others own
      (fun result last => Finishes schema others clock selected start result
        last.database.committed)
      program host) :
    MeetsAmong schema conn others own
      (fun result last => Finishes schema others clock selected start result
        last.database.committed)
      (wrapSqliteErrors program) host := by
  refine Program.Meets.handle (interference.rely_refl conn) (meets.mono ?_)
  intro result last finishes
  cases result with
  | ok result => exact finishes
  | error error =>
    have raised : ∀ failure : Failure, MeetsAmong schema conn others own
        (fun result last =>
          Finishes schema others clock selected start result last.database.committed)
        (.raise failure) last :=
      fun _ _ moved => interference.trans _ _ _ finishes moved.2
    cases error with
    | sqliteError text => exact raised _
    | migrationError text => exact raised _
    | futureSchemaError text => exact raised _
    | exception text => exact raised _
    | interruption => exact raised _

theorem meets_migrateCatalog (interference : Interference others)
    (ownRefl : ∀ database, own database database)
    (defaults : List (Migration Statement SchemaReply)) (call : Call Statement SchemaReply)
    (commits : ∀ current base after, base.AtVersion current → Upgrade schema base
        ((pending current (selectedMigrations defaults call)).map (stamped call.clock)) after →
      own base after) (idle : host.database.working conn = none)
    (atVersion : host.database.committed.AtVersion version) :
    MeetsAmong schema conn others own
      (fun result last => last.database.working conn = none ∧
        Finishes schema others call.clock (selectedMigrations defaults call)
          host.database.committed result last.database.committed)
      (migrateCatalog defaults call) host := by
  have refl := interference.rely_refl conn
  refine Program.meets_ofExcept_bind ?_ ?_
  · rintro error _ last ⟨undisturbed, moved⟩
    exact ⟨undisturbed.working.trans idle, moved⟩
  · intro _ valid
    have contiguous : Contiguous (selectedMigrations defaults call) := validateFrom_eq_ok.mp valid
    refine Program.Meets.bind refl
      (meets_rejectUnsafeExistingPath interference ownRefl idle _ _ ?_ ?_)
    · intro safe safeMoved safeIdle
      refine meets_onFiles ownRefl safeIdle ?_
      intro kind seen seenMoved seenIdle
      have toSeen := interference.trans _ _ _ safeMoved seenMoved
      refine meets_onFiles ownRefl seenIdle ?_
      intro connected opened openedMoved openedIdle
      have toOpened := interference.trans _ _ _ toSeen openedMoved
      refine Program.meets_ofExcept_bind ?_ ?_
      · rintro error _ last ⟨undisturbed, moved⟩
        exact ⟨undisturbed.working.trans openedIdle, interference.trans _ _ _ toOpened moved⟩
      · intro _ _
        rcases interference.grows _ _ _ toOpened atVersion with ⟨openedVersion, _, atOpened⟩
        have connectedMeets := meets_migrateConnected interference ownRefl call contiguous commits
          openedIdle atOpened (kind == FileKind.filled)
        refine Program.meets_withFinally_close interference.refl interference.trans ownRefl
          (meets_wrapSqliteErrors interference connectedMeets) ?_
        intro result before last finishes moved lastIdle
        exact ⟨lastIdle, (finishes.interfere interference moved).earlier interference toOpened⟩
    · intro error last moved lastIdle
      exact ⟨lastIdle, moved⟩

/-- Of a history that may have gaps, all that is known is that the look-up changes nothing. -/
theorem meets_currentSchemaVersion_of_any (interference : Interference others)
    (ownRefl : ∀ database, own database database) (idle : host.database.working conn = none)
    (ends : ∀ result last, others host.database.committed last.database.committed →
      last.database.working conn = none → post result last) :
    MeetsAmong schema conn others own post currentSchemaVersion host := by
  refine meets_read ownRefl rfl idle ?_
  intro first firstMoved firstIdle
  split
  · refine meets_read ownRefl rfl firstIdle ?_
    intro second secondMoved secondIdle
    have toSecond := interference.trans _ _ _ firstMoved secondMoved
    refine Program.meets_ofExcept_bind ?_ ?_
    · rintro error _ last ⟨undisturbed, moved⟩
      exact ends _ last (interference.trans _ _ _ toSecond moved)
        (undisturbed.working.trans secondIdle)
    · rintro row _ last ⟨undisturbed, moved⟩
      exact ends _ last (interference.trans _ _ _ toSecond moved)
        (undisturbed.working.trans secondIdle)
  · rintro last ⟨undisturbed, moved⟩
    exact ends _ last (interference.trans _ _ _ firstMoved moved)
      (undisturbed.working.trans firstIdle)

/-- At some moment the recorded history was exactly that of the supported version. -/
def WasSupported (others : Database Tables → Database Tables → Prop)
    (start last : Database Tables) : Prop :=
  ∃ seen, others start seen ∧ seen.AtVersion currentSupportedVersion ∧ others seen last

theorem meets_contiguousVersion (interference : Interference others)
    (ownRefl : ∀ database, own database database) (idle : host.database.working conn = none) :
    MeetsAmong schema conn others own
      (fun result last => result = .ok (some currentSupportedVersion) →
        WasSupported others host.database.committed last.database.committed)
      contiguousVersion host := by
  have refl := interference.rely_refl conn
  have quiet : ∀ (program : Runs Statement SchemaReply (Option ℕ))
      (last : Concurrency.Host Conn (Database Tables) (Files Tables)),
      (program = pure none ∨ ∃ error, program = throw error) →
      MeetsAmong schema conn others own
        (fun result last => result = .ok (some currentSupportedVersion) →
          WasSupported others host.database.committed last.database.committed) program last := by
    rintro _ last (rfl | ⟨error, rfl⟩)
    · exact fun _ _ isSome => by cases isSome
    · exact fun _ _ isSome => by cases isSome
  refine Program.Meets.handle refl (Program.Meets.bind refl
    (meets_currentSchemaVersion_of_any interference ownRefl idle ?_))
  intro result read readMoved readIdle
  cases result with
  | error error =>
    refine quiet _ read ?_
    cases error <;> first | exact Or.inl rfl | exact Or.inr ⟨_, rfl⟩
  | ok current =>
    refine Program.Meets.bind refl
      (meets_ensureContiguousHistory interference ownRefl readIdle current ?_ ?_)
    · rintro checked _ _ observed last ⟨_, lastMoved⟩ isSupported
      obtain rfl : current = currentSupportedVersion := by
        simpa using isSupported
      rcases observed (by decide) with ⟨seen, toSeen, atSeen, fromSeen⟩
      exact ⟨seen, interference.trans _ _ _ readMoved toSeen, atSeen,
        interference.trans _ _ _ fromSeen lastMoved⟩
    · intro error last _
      refine quiet _ last ?_
      cases error <;> first | exact Or.inl rfl | exact Or.inr ⟨_, rfl⟩

/-- Readiness is reported only of a history that was exactly that of the supported version. -/
theorem meets_readyForWorkers (interference : Interference others)
    (ownRefl : ∀ database, own database database) (databasePath : Path)
    (idle : host.database.working conn = none) :
    MeetsAmong schema conn others own
      (fun result last => result = .ok true →
        WasSupported others host.database.committed last.database.committed)
      (readyForWorkers databasePath) host := by
  have refl := interference.rely_refl conn
  refine meets_onFiles ownRefl idle ?_
  intro kind seen toSeen seenIdle
  split
  · intro last _ isTrue
    cases isTrue
  · refine meets_onFiles ownRefl seenIdle ?_
    intro connected opened openedMoved openedIdle
    have toOpened := interference.trans _ _ _ toSeen openedMoved
    refine Program.meets_ofExcept_bind ?_ ?_
    · intro error _ last _ isTrue
      cases isTrue
    · intro _ _
      have answered : MeetsAmong schema conn others own
          (fun result last => result = .ok true →
            WasSupported others opened.database.committed last.database.committed)
          (do
            let current ← contiguousVersion
            return current == some currentSupportedVersion) opened := by
        refine Program.Meets.bind refl
          ((meets_contiguousVersion interference ownRefl openedIdle).mono ?_)
        rintro result read held
        cases result with
        | error error => exact fun isTrue => by cases isTrue
        | ok current =>
          rintro last ⟨_, moved⟩ isTrue
          have isSupported : current = some currentSupportedVersion := by
            simpa using isTrue
          rcases held (by rw [isSupported]) with ⟨moment, toMoment, atMoment, fromMoment⟩
          exact ⟨moment, toMoment, atMoment, interference.trans _ _ _ fromMoment moved⟩
      refine Program.meets_withFinally_close interference.refl interference.trans ownRefl answered
        ?_
      rintro result before last held moved _ isTrue
      rcases held isTrue with ⟨moment, toMoment, atMoment, fromMoment⟩
      exact ⟨moment, interference.trans _ _ _ toOpened toMoment, atMoment,
        interference.trans _ _ _ fromMoment moved⟩

/-! ## Alone and in a crew -/

/-- A migrator that is run alone reaches its target in order, or leaves everything as it was. -/
theorem migrateCatalog_allOrNothing (defaults : List (Migration Statement SchemaReply))
    (call : Call Statement SchemaReply)
    (host : Concurrency.Host Conn (Database Tables) (Files Tables))
    (idle : host.database.working conn = none)
    (atVersion : host.database.committed.AtVersion version) :
    match (migrateCatalog defaults call).run (Request.perform (engine schema) performFile conn)
      host with
    | (last, .ok result) =>
      let selected := selectedMigrations defaults call
      result.appliedVersions = List.range' (version + 1) (selected.length - version) ∧
        result.currentVersion = selected.length ∧
        last.database.committed.AtVersion selected.length ∧
        Upgrade schema host.database.committed
          ((pending version selected).map (stamped call.clock)) last.database.committed
    | (last, .error _) => last.database.committed = host.database.committed := by
  have meets : MeetsAmong schema conn Eq (fun _ _ => True) _ (migrateCatalog defaults call) host :=
    meets_migrateCatalog interference_eq (fun _ => trivial) defaults call
      (fun _ _ _ _ _ => trivial) idle atVersion
  have finishes := meets.run (interference_eq.rely_refl conn)
  cases ran : (migrateCatalog defaults call).run (Request.perform (engine schema) performFile conn)
    host with
  | mk last result =>
    rw [ran] at finishes
    cases result with
    | error error => exact finishes.2.symm
    | ok result =>
      rcases finishes with ⟨_, contiguous, current, base, after, atMost, rfl, atBase, upgrade,
        versions, seen, rfl, atSeen, rfl⟩
      obtain rfl := atVersion.unique atBase
      have length := congrArg List.length (contiguous.versions_pending atMost)
      rw [List.length_map, List.length_range'] at length
      have atTarget := upgrade.atVersion atBase
      rw [List.length_map, length, Nat.add_sub_cancel' atMost] at atTarget
      exact ⟨versions, atSeen.unique atTarget, atTarget, upgrade⟩

/-- What a connection of a crew is there for. -/
inductive Task (Statement : Type) (SchemaReply : Statement → Type) where
  | migrate (call : Call Statement SchemaReply)
  | checkReady (databasePath : Path)

@[reducible]
def Task.Result : Task Statement SchemaReply → Type
  | migrate _ => MigrationResult
  | checkReady _ => Bool

def Task.program (defaults : List (Migration Statement SchemaReply)) :
    (task : Task Statement SchemaReply) → Runs Statement SchemaReply task.Result
  | migrate call => migrateCatalog defaults call
  | checkReady databasePath => readyForWorkers databasePath

/-- The migrations that some connection of the crew may apply. -/
def Offered (defaults : List (Migration Statement SchemaReply))
    (tasks : Conn → Task Statement SchemaReply) (migration : Migration Statement SchemaReply) :
    Prop :=
  ∃ conn call, tasks conn = .migrate call ∧ migration ∈ selectedMigrations defaults call

/-- What a task that has come to an end says about the catalog. -/
def Task.Ends (schema : Engine Statement SchemaReply Tables)
    (others : Database Tables → Database Tables → Prop)
    (defaults : List (Migration Statement SchemaReply)) (start : Database Tables) :
    (task : Task Statement SchemaReply) → Except Failure task.Result → Database Tables → Prop
  | migrate call, result, last =>
    Finishes schema others call.clock (selectedMigrations defaults call) start result last
  | checkReady _, result, last => result = .ok true → WasSupported others start last

/-- The crew at its beginning, on a catalog that nobody writes to. -/
def atWork (defaults : List (Migration Statement SchemaReply))
    (tasks : Conn → Task Statement SchemaReply) (start : Database Tables)
    (files : Files Tables) :
    Crew Conn (Request (Query Statement) FileQuery)
      (Request.Answer (Reply SchemaReply) FileReply) Failure (fun conn => (tasks conn).Result)
      (Concurrency.Host Conn (Database Tables) (Files Tables)) where
  state := ⟨.settled start, files⟩
  rest conn := (tasks conn).program defaults

/-- Along every schedule each version is recorded once, by a migration that was applied once. -/
theorem crew_upgrades (defaults : List (Migration Statement SchemaReply))
    (tasks : Conn → Task Statement SchemaReply) {start : Database Tables} {files : Files Tables}
    (atVersion : start.AtVersion version) {schedule : List Conn}
    {last : Crew Conn (Request (Query Statement) FileQuery)
      (Request.Answer (Reply SchemaReply) FileReply) Failure (fun conn => (tasks conn).Result)
      (Concurrency.Host Conn (Database Tables) (Files Tables))}
    (ran : runFrom (Crew.step (Request.perform (engine schema) performFile))
      (atWork defaults tasks start files) schedule = some last) :
    UpgradesBy schema (Offered defaults tasks) start last.state.database.committed ∧
      ∀ conn result, last.rest conn = .done result →
        (tasks conn).Ends schema (UpgradesBy schema (Offered defaults tasks)) defaults start
          (.ok result) last.state.database.committed := by
  have interference : Interference (UpgradesBy schema (Offered defaults tasks)) :=
    interference_upgradesBy _
  have starts : (atWork defaults tasks start files).AllMeet
      (Request.perform (engine schema) performFile)
      (Concurrency.Host.Rely (UpgradesBy schema (Offered defaults tasks)))
      (Concurrency.Host.Guarantee (UpgradesBy schema (Offered defaults tasks)))
      fun conn result last => (tasks conn).Ends schema (UpgradesBy schema (Offered defaults tasks))
        defaults start result last.database.committed := by
    intro conn
    simp only [atWork]
    cases isTask : tasks conn with
    | migrate call =>
      refine Program.Meets.mono (meets_migrateCatalog interference interference.refl defaults call
        ?_ rfl atVersion) fun _ _ finishes => finishes.2
      intro current base after _ upgrade
      refine ⟨_, ?_, upgrade⟩
      intro one member
      rcases List.mem_map.mp member with ⟨migration, isPending, rfl⟩
      exact ⟨conn, call, isTask, List.mem_of_mem_filter isPending⟩
    | checkReady databasePath =>
      exact meets_readyForWorkers interference interference.refl databasePath rfl
  rcases Concurrency.Host.meets_of_runFrom interference.refl interference.trans starts ran with
    ⟨moved, allMeet⟩
  exact ⟨moved, fun conn result isDone => allMeet.finished (interference.rely_refl ·) isDone⟩

theorem readyForWorkers_true {databasePath : Path} (idle : host.database.working conn = none)
    (isReady : ((readyForWorkers databasePath).run
      (Request.perform (engine schema) performFile conn) host).2 = .ok true) :
    host.database.committed.AtVersion currentSupportedVersion := by
  have meets : MeetsAmong schema conn Eq (fun _ _ => True) _ (readyForWorkers databasePath) host :=
    meets_readyForWorkers interference_eq (fun _ => trivial) databasePath idle
  rcases meets.run (interference_eq.rely_refl conn) isReady with ⟨seen, rfl, atSeen, _⟩
  exact atSeen

/-- Migration runs are all or nothing and ordered: alone, a migrator records the missing versions up
to its target or leaves everything as it was; a crew of migrators records every version once, each
with one application of its migration; and readiness is reported of the exact history only. -/
theorem migrations_atomic_and_ordered (schema : Engine Statement SchemaReply Tables)
    (defaults : List (Migration Statement SchemaReply)) :
    (∀ (conn : Conn) (call : Call Statement SchemaReply)
      (host : Concurrency.Host Conn (Database Tables) (Files Tables)) (version : ℕ),
      host.database.working conn = none → host.database.committed.AtVersion version →
      match (migrateCatalog defaults call).run (Request.perform (engine schema) performFile conn)
        host with
      | (last, .ok result) =>
        let selected := selectedMigrations defaults call
        result.appliedVersions = List.range' (version + 1) (selected.length - version) ∧
          result.currentVersion = selected.length ∧
          last.database.committed.AtVersion selected.length ∧
          Upgrade schema host.database.committed
            ((pending version selected).map (stamped call.clock)) last.database.committed
      | (last, .error _) => last.database.committed = host.database.committed) ∧
    (∀ (tasks : Conn → Task Statement SchemaReply) (start : Database Tables)
      (files : Files Tables) (version : ℕ) (schedule : List Conn) last,
      start.AtVersion version →
      runFrom (Crew.step (Request.perform (engine schema) performFile))
        (atWork defaults tasks start files) schedule = some last →
      (∃ applied, (∀ one ∈ applied, Offered defaults tasks one.1) ∧
        Upgrade schema start applied last.state.database.committed ∧
        last.state.database.committed.AtVersion (version + applied.length)) ∧
      ∀ conn result, last.rest conn = .done result →
        (tasks conn).Ends schema (UpgradesBy schema (Offered defaults tasks)) defaults start
          (.ok result) last.state.database.committed) ∧
    ∀ (conn : Conn) (databasePath : Path)
      (host : Concurrency.Host Conn (Database Tables) (Files Tables)),
      host.database.working conn = none →
      ((readyForWorkers databasePath).run (Request.perform (engine schema) performFile conn)
        host).2 = .ok true → host.database.committed.AtVersion currentSupportedVersion := by
  refine ⟨fun conn call host version idle atVersion =>
    migrateCatalog_allOrNothing defaults call host idle atVersion, ?_,
    fun conn databasePath host idle isReady => readyForWorkers_true idle isReady⟩
  intro tasks start files version schedule last atVersion ran
  rcases crew_upgrades defaults tasks atVersion ran with ⟨⟨applied, offered, upgrade⟩, ends⟩
  exact ⟨⟨applied, offered, upgrade, upgrade.atVersion atVersion⟩, ends⟩

/-- Two migrators have both found an empty catalog before the first of them begins to write. -/
theorem migrations_atomic_and_ordered_race :
    ∃ last, runFrom (Crew.step (Request.perform (engine remembering) performFile))
        (atWork [sampleMigration] (fun _ : Bool => .migrate (sampleCall [])) ⟨none, []⟩
          fun _ => .missing)
        (List.replicate 4 false ++ List.replicate 4 true ++ List.replicate 8 false ++
          List.replicate 6 true) = some last ∧
      last.state.database.committed.tables = [1] ∧
      ∃ version, last.state.database.committed.AtVersion version := by
  have observed : (runFrom (Crew.step (Request.perform (engine remembering) performFile))
      (atWork [sampleMigration] (fun _ : Bool => .migrate (sampleCall [])) ⟨none, []⟩
        fun _ => .missing)
      (List.replicate 4 false ++ List.replicate 4 true ++ List.replicate 8 false ++
        List.replicate 6 true)).map (fun last => last.state.database.committed.tables) =
      some [1] := by
    decide
  rcases Option.map_eq_some_iff.mp observed with ⟨last, ran, tables⟩
  rcases (migrations_atomic_and_ordered remembering [sampleMigration]).2.1
    (fun _ : Bool => .migrate (sampleCall [])) ⟨none, []⟩ (fun _ => .missing) 0 _ last rfl ran with
    ⟨⟨applied, _, _, atVersion⟩, _⟩
  exact ⟨last, ran, tables, _, atVersion⟩

end Reperio.Migrations
