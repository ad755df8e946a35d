import Reperio.Checkpoints.Resume

/-!
# Tamper evidence

What the integrity hash is worth when no two byte strings have the same
SHA-256. The stream that is hashed determines the fields it was made of, so a
row whose hashed columns were replaced by other texts is either not loaded or
loaded as it was saved. Bytes that are no text raise the error of `sqlite3`.
-/

namespace Reperio

open Python Relational Concurrency Encoding

theorem utf8_injective : Function.Injective utf8 := by
  intro first second same
  have encoded : ∀ text : String, (utf8 text).toByteArray = text.toByteArray :=
    fun _ => String.utf8Encode_toList
  exact String.toByteArray_inj.mp (by rw [← encoded, ← encoded, same])

theorem reprInt_injective {first second : ℤ} {text : String} (isFirst : reprInt first = .ok text)
    (isSecond : reprInt second = .ok text) : first = second := by
  have scans : ∀ {value}, reprInt value = .ok text →
      scanNumber text.toList = .ok (.int value, []) := by
    intro value isText
    rcases bind_eq_ok isText with ⟨checked, isChecked, isText⟩
    cases isText
    rw [checkInt] at isChecked
    split at isChecked
    · rename_i short
      cases isChecked
      have scanned := @scanNumber_renderInt _ [] short (by simp [Ends])
      rwa [List.append_nil, ← @String.toList_ofList (renderInt value)] at scanned
    · cases isChecked
  have same := (scans isFirst).symm.trans (scans isSecond)
  cases same
  rfl

/-- The bytes fed to the hash determine all eight fields. -/
theorem integrityStream_injective {first second : IntegrityFields} {stream : List UInt8}
    (isFirst : integrityStream first = .ok stream)
    (isSecond : integrityStream second = .ok stream) : first = second := by
  have framed : ∀ {fields}, integrityStream fields = .ok stream →
      ∃ version, reprInt fields.checkpointVersion = .ok version ∧
        frames? 8 ([fields.fingerprint, fields.stage, version, fields.toolName, fields.toolVersion,
          fields.cursorJson, fields.countersJson].map utf8 ++ [fields.blob]) = some stream := by
    intro fields isStream
    rcases bind_eq_ok isStream with ⟨version, isVersion, isStream⟩
    split at isStream
    · rename_i other isFramed
      cases isStream
      exact ⟨version, isVersion, isFramed⟩
    · cases isStream
  rcases framed isFirst with ⟨firstVersion, isFirstVersion, firstFrames⟩
  rcases framed isSecond with ⟨secondVersion, isSecondVersion, secondFrames⟩
  have same := frames?_injective (by omega) firstFrames secondFrames
  simp only [List.map_cons, List.map_nil, List.cons_append, List.nil_append, List.cons.injEq,
    utf8_injective.eq_iff, and_true] at same
  rcases same with ⟨fingerprint, stage, rfl, toolName, toolVersion, cursorJson, countersJson, blob⟩
  have version := reprInt_injective isFirstVersion isSecondVersion
  cases first
  cases second
  simp_all

-- the lengths keep apart texts that are the same bytes in a row
example : (integrityStream ⟨"", "ab", 1, "c", "", "", "", []⟩).toOption ≠
    (integrityStream ⟨"", "a", 1, "bc", "", "", "", []⟩).toOption := by
  decide

/-- The lengths of what is hashed can be written in eight bytes. -/
def IntegrityFields.Addressable (fields : IntegrityFields) : Prop :=
  ∀ bytes ∈ [fields.fingerprint, fields.stage, fields.toolName, fields.toolVersion,
    fields.cursorJson, fields.countersJson].map utf8 ++ [fields.blob], bytes.length < 256 ^ 8

instance (fields : IntegrityFields) : Decidable fields.Addressable :=
  inferInstanceAs (Decidable (∀ bytes ∈ _, _))

/-- A hash without collisions that gives the known digests. -/
def hashing (known : List (List UInt8 × String)) (bytes : List UInt8) : String :=
  (known.lookup bytes).getD
    (String.ofList ('-' :: bytes.map fun byte => Char.ofNat byte.toNat))

theorem hashing_cons_self (input : List UInt8) (digest : String)
    (known : List (List UInt8 × String)) : hashing ((input, digest) :: known) input = digest := by
  rw [hashing, List.lookup_cons_self]
  rfl

theorem hashing_cons_of_ne {bytes input : List UInt8} (different : bytes ≠ input)
    (digest : String) (known : List (List UInt8 × String)) :
    hashing ((input, digest) :: known) bytes = hashing known bytes := by
  rw [hashing, List.lookup_cons, beq_false_of_ne different]
  rfl

theorem hashing_injective {known : List (List UInt8 × String)}
    (apart : (known.map Prod.snd).Nodup)
    (plain : ∀ pair ∈ known, pair.2.toList.head? ≠ some '-') :
    Function.Injective (hashing known) := by
  have known_of_lookup : ∀ {bytes digest}, known.lookup bytes = some digest →
      (bytes, digest) ∈ known := by
    intro bytes digest found
    rcases List.lookup_eq_some_iff.mp found with ⟨before, after, rfl, _⟩
    exact List.mem_append_right _ List.mem_cons_self
  have marked : ∀ {bytes other digest}, known.lookup bytes = some digest →
      digest ≠ String.ofList ('-' :: other) := by
    intro bytes other digest found same
    refine plain _ (known_of_lookup found) ?_
    rw [same, String.toList_ofList]
    rfl
  have codes : Function.Injective fun byte : UInt8 => Char.ofNat byte.toNat := by
    intro first second same
    have number : ∀ byte : UInt8, (Char.ofNat byte.toNat).toNat = byte.toNat := by
      intro byte
      rw [Char.ofNat, dif_pos (Or.inl (byte.toNat_lt.trans (by decide)))]
      rfl
    have codes := congrArg Char.toNat same
    exact UInt8.toNat_inj.mp ((number first).symm.trans (codes.trans (number second)))
  intro first second same
  unfold hashing at same
  cases isFirst : known.lookup first with
  | some digest =>
    rw [isFirst] at same
    cases isSecond : known.lookup second with
    | some other =>
      rw [isSecond] at same
      have pairs := List.inj_on_of_nodup_map apart (known_of_lookup isFirst)
        (known_of_lookup isSecond) same
      exact congrArg Prod.fst pairs
    | none =>
      rw [isSecond] at same
      exact absurd same (marked isFirst)
  | none =>
    rw [isFirst] at same
    cases isSecond : known.lookup second with
    | some other =>
      rw [isSecond] at same
      exact absurd same.symm (marked isSecond)
    | none =>
      rw [isSecond] at same
      exact codes.list_map (List.cons.inj (String.ofList_inj.mp same)).2

variable {error : PyError}

namespace Checkpoints

variable {runtime : Runtime}

/-! ## Saved rows -/

namespace Archive

/-- Every checkpoint that `save_checkpoint` saved is in the table as it was saved. -/
def Stored (archive : Archive runtime) : Prop :=
  ∀ new, .stage new ∈ archive.saved → ∃ row ∈ archive.session.committed.checkpoints.rows,
    row.checkpointId = new.checkpointId ∧ IsRowOf runtime new row

theorem stored_start (catalog : Catalog runtime) : (start catalog).Stored := nofun

end Archive

theorem IsRowOf.link {new : NewCheckpoint} {row : Checkpoint} (isRow : IsRowOf runtime new row)
    (checkpointId : String) (previous : Option String) :
    IsRowOf runtime new (Checkpoints.link checkpointId previous row) := by
  unfold Checkpoints.link
  split
  · exact ⟨isRow.version, isRow.cursor, isRow.counters, isRow.hash, isRow.jobId,
      isRow.sourceFingerprint, isRow.stage, isRow.toolName, isRow.toolVersion, isRow.blob⟩
  · exact isRow

variable {archive : Archive runtime}

namespace Archive

/-- A step keeps the rows and adds the one it saves. -/
theorem Stored.save (stored : archive.Stored) (settled : archive.session.working = none)
    (call : SaveCall) : (archive.save call).Stored := by
  rcases save_cases settled call with ⟨_, unchanged⟩ | ⟨row, after, _, isRow, saved, rows⟩
  · rw [unchanged]
    exact stored
  rw [saved]
  intro new isSaved
  change ∃ other ∈ after.checkpoints.rows, _
  rw [rows]
  rcases List.mem_append.mp isSaved with old | isNew
  · rcases stored new old with ⟨other, member, isId, facts⟩
    exact ⟨_, List.mem_append_left _ (List.mem_map_of_mem member),
      (link_checkpointId _ _ other).trans isId, facts.link _ _⟩
  · obtain rfl := List.mem_singleton.mp isNew
    refine ⟨_, List.mem_append_right _ (List.mem_singleton_self _), ?_,
      (isRowOf_newRow isRow).behind _⟩
    exact (SaveCall.storesRow isRow).checkpointId

theorem Stored.saveAll (stored : archive.Stored) (chained : archive.Chained)
    (calls : List SaveCall) : (archive.saveAll calls).Stored := by
  induction calls generalizing archive with
  | nil => exact stored
  | cons call calls ih => exact ih (stored.save chained.settled call) (chained.save call)

end Archive

/-! ## Replaced columns -/

/-- Other values for the columns that the integrity hash covers. A TEXT column takes any bytes. -/
structure Replacement where
  sourceFingerprint : List UInt8
  checkpointVersion : ℤ
  toolName : List UInt8
  toolVersion : List UInt8
  cursorJson : List UInt8
  countersJson : List UInt8
  blob : List UInt8

namespace Replacement

/-- The values that a row has. -/
def own (row : Checkpoint) : Replacement where
  sourceFingerprint := utf8 row.sourceFingerprint
  checkpointVersion := row.checkpointVersion
  toolName := utf8 row.toolName
  toolVersion := utf8 row.toolVersion
  cursorJson := utf8 row.cursorJson
  countersJson := utf8 row.countersJson
  blob := row.blob

/-- The bytes of each replaced text are UTF-8. -/
def IsText (replacement : Replacement) : Prop :=
  ∀ bytes ∈ [replacement.sourceFingerprint, replacement.toolName, replacement.toolVersion,
    replacement.cursorJson, replacement.countersJson], utf8Decode bytes ≠ none

instance (replacement : Replacement) : Decidable replacement.IsText :=
  inferInstanceAs (Decidable (∀ bytes ∈ _, _))

/-- A text column as `fetchone` returns it: `sqlite3` decodes it. -/
def fetchText (bytes : List UInt8) : Except PyError String := match utf8Decode bytes with
  | some text => .ok text
  | none => .error .operationalError

/-- The row with the other values, as `fetchone` returns it. -/
def fetch (replacement : Replacement) (row : Checkpoint) : Except PyError Checkpoint := do
  let sourceFingerprint ← fetchText replacement.sourceFingerprint
  let toolName ← fetchText replacement.toolName
  let toolVersion ← fetchText replacement.toolVersion
  let cursorJson ← fetchText replacement.cursorJson
  let countersJson ← fetchText replacement.countersJson
  return { row with
    sourceFingerprint, toolName, toolVersion, cursorJson, countersJson
    checkpointVersion := replacement.checkpointVersion
    blob := replacement.blob }

theorem fetchText_error {bytes : List UInt8} (raised : fetchText bytes = .error error) :
    utf8Decode bytes = none ∧ error = .operationalError := by
  unfold fetchText at raised
  split at raised
  · cases raised
  · rename_i noText
    exact ⟨noText, (Except.error.inj raised).symm⟩

theorem ne_none_of_fetchText {bytes : List UInt8} {text : String}
    (fetched : fetchText bytes = .ok text) : utf8Decode bytes ≠ none := by
  intro none
  rw [fetchText, none] at fetched
  cases fetched

/-- A row is fetched if the texts are UTF-8, and `sqlite3` raises its own error otherwise. -/
theorem fetch_cases (replacement : Replacement) (row : Checkpoint) :
    (replacement.IsText ∧ ∃ read, replacement.fetch row = .ok read ∧
      read.checkpointId = row.checkpointId ∧ read.integritySha256 = row.integritySha256) ∨
    (¬replacement.IsText ∧ replacement.fetch row = .error .operationalError) := by
  cases fetched : replacement.fetch row with
  | ok read =>
    rcases bind_eq_ok fetched with ⟨_, fingerprint, fetched⟩
    rcases bind_eq_ok fetched with ⟨_, toolName, fetched⟩
    rcases bind_eq_ok fetched with ⟨_, toolVersion, fetched⟩
    rcases bind_eq_ok fetched with ⟨_, cursor, fetched⟩
    rcases bind_eq_ok fetched with ⟨_, counters, fetched⟩
    cases fetched
    refine Or.inl ⟨?_, _, rfl, rfl, rfl⟩
    simp only [IsText, List.forall_mem_cons, ne_none_of_fetchText fingerprint,
      ne_none_of_fetchText toolName, ne_none_of_fetchText toolVersion, ne_none_of_fetchText cursor,
      ne_none_of_fetchText counters, ne_eq, not_false_eq_true, List.not_mem_nil, false_implies,
      implies_true, and_self]
  | error error =>
    right
    have raised : ∃ bytes ∈ [replacement.sourceFingerprint, replacement.toolName,
        replacement.toolVersion, replacement.cursorJson, replacement.countersJson],
        fetchText bytes = .error error := by
      rcases bind_eq_error fetched with raised | ⟨_, _, fetched⟩
      · exact ⟨_, by simp, raised⟩
      rcases bind_eq_error fetched with raised | ⟨_, _, fetched⟩
      · exact ⟨_, by simp, raised⟩
      rcases bind_eq_error fetched with raised | ⟨_, _, fetched⟩
      · exact ⟨_, by simp, raised⟩
      rcases bind_eq_error fetched with raised | ⟨_, _, fetched⟩
      · exact ⟨_, by simp, raised⟩
      rcases bind_eq_error fetched with raised | ⟨_, _, fetched⟩
      · exact ⟨_, by simp, raised⟩
      · cases fetched
    rcases raised with ⟨bytes, member, raised⟩
    rcases fetchText_error raised with ⟨noText, rfl⟩
    exact ⟨fun isText => isText bytes member noText, rfl⟩

theorem fetch_own (row : Checkpoint) : (own row).fetch row = .ok row := by
  simp only [fetch, own, fetchText, utf8Decode_utf8]
  rfl

end Replacement

/-- A row as it is fetched when the row of one checkpoint has other values. -/
def fetched (checkpointId : String) (replacement : Replacement) (row : Checkpoint) :
    Except PyError Checkpoint :=
  if row.checkpointId = checkpointId then replacement.fetch row else .ok row

/-- `load_latest_checkpoint` where the row of one checkpoint has other values: none of these columns
selects or orders the rows, and only the selected one is fetched. -/
def loadReplaced (catalog : Catalog runtime) (checkpointId : String) (replacement : Replacement)
    (resumption : Resumption) : Except PyError CheckpointRecord :=
  match
    ((CheckpointStatement.selectLatest resumption.jobId resumption.stage).perform catalog).2 with
  | none => .error (.checkpointError "no checkpoint is available; restart stage" true)
  | some row => do trustedRecord runtime resumption (← fetched checkpointId replacement row)

/-- With the values that the row has, it is the load. -/
theorem loadReplaced_own {catalog : Catalog runtime} {row : Checkpoint}
    (member : row ∈ catalog.checkpoints.rows) (resumption : Resumption) :
    loadReplaced catalog row.checkpointId (.own row) resumption =
      ((loadLatestCheckpoint runtime resumption).run CheckpointStatement.perform catalog).2 := by
  unfold loadReplaced
  cases found : ((CheckpointStatement.selectLatest resumption.jobId resumption.stage).perform
      catalog).2 with
  | none => rw [run_loadLatestCheckpoint_none found]
  | some latest =>
    rw [run_loadLatestCheckpoint found]
    change (fetched row.checkpointId (.own row) latest >>= _) = _
    unfold fetched
    split
    · rename_i same
      obtain rfl := Table.eq_of_key_eq _ (mem_of_selectLatest found) member same
      rw [Replacement.fetch_own]
      rfl
    · rfl

/-! ## Loads -/

theorem integrityHash_of_addressable {fields : IntegrityFields} (addressable : fields.Addressable)
    (version : fields.checkpointVersion = supportedCheckpointVersion) :
    ∃ digest, integrityHash runtime fields = .ok digest := by
  have printed : reprInt fields.checkpointVersion = .ok "1" := by
    rw [version]
    decide
  have short : ∀ field ∈ [fields.fingerprint, fields.stage, "1", fields.toolName,
      fields.toolVersion, fields.cursorJson, fields.countersJson].map utf8 ++ [fields.blob],
      field.length < 256 ^ 8 := by
    intro field member
    by_cases isVersion : field = utf8 "1"
    · rw [isVersion]
      decide
    · refine addressable field ?_
      simpa [isVersion] using member
  rcases exists_frames? short with ⟨stream, isStream⟩
  refine ⟨runtime.sha256Hex stream, ?_⟩
  have streamed : integrityStream fields = .ok stream := by
    simp only [integrityStream, printed, bind, Except.bind, isStream]
    rfl
  rw [integrityHash, streamed]
  rfl

theorem canonicalJson_error {payload : PyDict}
    (raised : canonicalJson runtime payload = .error error) :
    ∃ message, error = .checkpointError message true := by
  rw [canonicalJson] at raised
  split at raised
  · cases raised
  · exact ⟨_, (Except.error.inj raised).symm⟩

theorem recordFromRow_error {row : Checkpoint} (raised : recordFromRow runtime row = .error error) :
    ∃ message, error = .checkpointError message true := by
  rw [recordFromRow] at raised
  split at raised
  · cases raised
  · exact ⟨_, (Except.error.inj raised).symm⟩

theorem recordFields_error {record : CheckpointRecord}
    (raised : recordFields runtime record = .error error) :
    ∃ message, error = .checkpointError message true := by
  rcases bind_eq_error raised with raised | ⟨cursorJson, _, raised⟩
  · exact canonicalJson_error raised
  rcases bind_eq_error raised with raised | ⟨countersJson, _, raised⟩
  · exact canonicalJson_error raised
  · cases raised

theorem recordFields_eq_ok {record : CheckpointRecord} {fields : IntegrityFields}
    (isFields : recordFields runtime record = .ok fields) :
    canonicalJson runtime record.cursor = .ok fields.cursorJson ∧
      canonicalJson runtime record.counters = .ok fields.countersJson ∧
      fields = {
        fingerprint := record.sourceFingerprint, stage := record.stage,
        checkpointVersion := record.checkpointVersion, toolName := record.toolName,
        toolVersion := record.toolVersion, cursorJson := fields.cursorJson,
        countersJson := fields.countersJson, blob := record.blob } := by
  rcases bind_eq_ok isFields with ⟨cursorJson, isCursor, isFields⟩
  rcases bind_eq_ok isFields with ⟨countersJson, isCounters, isFields⟩
  cases isFields
  exact ⟨isCursor, isCounters, rfl⟩

/-- What a load hashes of the rows. -/
def Addressable (catalog : Catalog runtime) (checkpointId : String) (replacement : Replacement) :
    Prop :=
  ∀ row ∈ catalog.checkpoints.rows, ∀ read, fetched checkpointId replacement row = .ok read →
    ∀ record fields, recordFromRow runtime read = .ok record →
      recordFields runtime record = .ok fields → fields.Addressable

theorem trustedRecord_error {resumption : Resumption} {row : Checkpoint}
    (addressable : ∀ record fields, recordFromRow runtime row = .ok record →
      recordFields runtime record = .ok fields → fields.Addressable)
    (raised : trustedRecord runtime resumption row = .error error) :
    ∃ message, error = .checkpointError message true := by
  rcases bind_eq_error raised with raised | ⟨record, isRecord, raised⟩
  · exact recordFromRow_error raised
  split at raised
  · exact ⟨_, (Except.error.inj raised).symm⟩
  split at raised
  · exact ⟨_, (Except.error.inj raised).symm⟩
  split at raised
  · exact ⟨_, (Except.error.inj raised).symm⟩
  rename_i version _ _
  rcases bind_eq_error raised with raised | ⟨fields, isFields, raised⟩
  · exact recordFields_error raised
  have sameVersion : fields.checkpointVersion = record.checkpointVersion :=
    congrArg IntegrityFields.checkpointVersion (recordFields_eq_ok isFields).2.2
  rcases @integrityHash_of_addressable runtime _ (addressable _ _ isRecord isFields)
    (sameVersion.trans (not_not.mp version)) with ⟨digest, isDigest⟩
  rcases bind_eq_error raised with raised | ⟨expected, _, raised⟩
  · rw [isDigest] at raised
    cases raised
  split at raised
  · exact ⟨_, (Except.error.inj raised).symm⟩
  · cases raised

/-- The record holds what was saved. -/
structure Restores (runtime : Runtime) (record : CheckpointRecord) (new : NewCheckpoint) :
    Prop where
  sourceFingerprint : record.sourceFingerprint = new.sourceFingerprint
  checkpointVersion : .int record.checkpointVersion = new.checkpointVersion
  toolName : record.toolName = new.toolName
  toolVersion : record.toolVersion = new.toolVersion
  blob : record.blob = new.blob
  cursor : canonicalJson runtime record.cursor = canonicalJson runtime new.cursor
  counters : canonicalJson runtime record.counters = canonicalJson runtime new.counters

/-- A record that is trusted has the fields of the row whose hash it carries. -/
theorem restores_of_trusted (injective : Function.Injective runtime.sha256Hex)
    {new : NewCheckpoint} {row other : Checkpoint} (facts : IsRowOf runtime new row)
    (sameHash : other.integritySha256 = row.integritySha256) {resumption : Resumption}
    {record : CheckpointRecord} (trusted : trustedRecord runtime resumption other = .ok record) :
    Restores runtime record new := by
  rcases trustedRecord_eq_ok.mp trusted with
    ⟨isRecord, _, _, _, _, fields, isFields, isHash⟩
  rcases exists_of_recordFromRow_eq_ok isRecord with ⟨cursor, counters, _, _, rfl⟩
  rcases bind_eq_ok isHash with ⟨stream, isStream, isHash⟩
  rcases bind_eq_ok facts.hash with ⟨savedStream, isSavedStream, isSavedHash⟩
  have digests : runtime.sha256Hex stream = runtime.sha256Hex savedStream :=
    ((Except.ok.inj isHash).trans sameHash).trans (Except.ok.inj isSavedHash).symm
  obtain rfl := injective digests
  obtain rfl := integrityStream_injective isStream isSavedStream
  rcases recordFields_eq_ok isFields with ⟨cursorJson, countersJson, same⟩
  simp only [integrityFields, IntegrityFields.mk.injEq] at same
  rcases same with ⟨fingerprint, _, version, toolName, toolVersion, _, _, blob⟩
  exact {
    sourceFingerprint := fingerprint.symm.trans facts.sourceFingerprint
    checkpointVersion := by
      rw [← version, validateCheckpointInputs_version facts.version]
    toolName := toolName.symm.trans facts.toolName
    toolVersion := toolVersion.symm.trans facts.toolVersion
    blob := blob.symm.trans facts.blob
    cursor := cursorJson.trans facts.cursor.symm
    counters := countersJson.trans facts.counters.symm }

/-- What a load may do once the row of `new` has other values: raise a `CheckpointError`, return
what was saved, or find a later checkpoint, as it would have without. -/
def Evident (catalog : Catalog runtime) (new : NewCheckpoint) (replacement : Replacement)
    (resumption : Resumption) : Prop :=
  match loadReplaced catalog new.checkpointId replacement resumption with
  | .error error => ∃ message, error = .checkpointError message true
  | .ok record =>
    if record.checkpointId = new.checkpointId then Restores runtime record new
    else ((loadLatestCheckpoint runtime resumption).run CheckpointStatement.perform catalog).2 =
      .ok record

/-- The row of a checkpoint is the one that a load selects. -/
def IsHead (catalog : Catalog runtime) (checkpointId : String) (resumption : Resumption) : Prop :=
  ∃ row ∈ catalog.checkpoints.rows, row.checkpointId = checkpointId ∧
    row.jobId = resumption.jobId ∧ row.stage = resumption.stage ∧
    row.supersededByCheckpointId = none

open Archive in
theorem selectLatest_of_isHead (chained : archive.Chained) {checkpointId : String}
    {resumption : Resumption} (head : IsHead archive.session.committed checkpointId resumption) :
    ∃ row, ((CheckpointStatement.selectLatest resumption.jobId resumption.stage).perform
      archive.session.committed).2 = some row ∧ row.checkpointId = checkpointId := by
  rcases head with ⟨row, member, isId, sameJob, sameStage, current⟩
  have selected : row ∈ archive.session.committed.checkpoints.rows.filter (fun row =>
      CheckpointStatement.ofStage resumption.jobId resumption.stage row &&
        row.supersededByCheckpointId.isNone) := by
    refine List.mem_filter.mpr ⟨member, ?_⟩
    simp [CheckpointStatement.ofStage, sameJob, sameStage, current]
  rw [chained.filter_heads, Option.mem_toList] at selected
  exact ⟨row, (chained.selectLatest _ _).trans selected, isId⟩

theorem isHead_of_selectLatest {catalog : Catalog runtime} {resumption : Resumption}
    {row : Checkpoint} (selected : ((CheckpointStatement.selectLatest resumption.jobId
      resumption.stage).perform catalog).2 = some row) :
    IsHead catalog row.checkpointId resumption := by
  rcases List.mem_filter.mp (mem_of_mem_orderLimit (List.mem_of_head? selected)) with
    ⟨member, isHead⟩
  simp only [CheckpointStatement.ofStage, Bool.and_eq_true, decide_eq_true_eq,
    Option.isNone_iff_eq_none] at isHead
  exact ⟨row, member, rfl, isHead.1.1, isHead.1.2, isHead.2⟩

open Archive in
/-- Tampering is evident exactly if what the load fetches are texts. -/
theorem evident_iff_isText (injective : Function.Injective runtime.sha256Hex)
    (catalog : Catalog runtime) (calls : List SaveCall) {new : NewCheckpoint}
    (saved : .stage new ∈ ((start catalog).saveAll calls).saved) (replacement : Replacement)
    (resumption : Resumption)
    (addressable : Addressable ((start catalog).saveAll calls).session.committed new.checkpointId
      replacement) :
    (Evident ((start catalog).saveAll calls).session.committed new replacement resumption ↔
      (IsHead ((start catalog).saveAll calls).session.committed new.checkpointId resumption →
        replacement.IsText)) ∧
      ∀ first second stream, integrityStream first = .ok stream →
        integrityStream second = .ok stream → first = second := by
  refine ⟨⟨?_, ?_⟩, fun _ _ _ => integrityStream_injective⟩
  · intro evident isHead
    rcases selectLatest_of_isHead ((chained_start catalog).saveAll calls) isHead with
      ⟨row, selected, isId⟩
    by_contra noText
    have raised := (replacement.fetch_cases row).resolve_left fun both => noText both.1
    rw [Evident, loadReplaced, selected] at evident
    dsimp only at evident
    rw [fetched, if_pos isId, raised.2] at evident
    rcases evident with ⟨message, isCheckpointError⟩
    cases isCheckpointError
  intro isText
  rcases ((stored_start catalog).saveAll (chained_start catalog) calls) new saved with
    ⟨row, member, isId, facts⟩
  rw [Evident, loadReplaced]
  cases selected : ((CheckpointStatement.selectLatest resumption.jobId resumption.stage).perform
      ((start catalog).saveAll calls).session.committed).2 with
  | none => exact ⟨_, rfl⟩
  | some latest =>
    have latestMember := mem_of_selectLatest selected
    have reads : ∃ read, fetched new.checkpointId replacement latest = .ok read ∧
        read.checkpointId = latest.checkpointId ∧
        read.integritySha256 = latest.integritySha256 ∧
        (latest.checkpointId ≠ new.checkpointId → read = latest) := by
      unfold fetched
      split
      · rename_i isNew
        have text := isText (isNew ▸ isHead_of_selectLatest selected)
        rcases replacement.fetch_cases latest with ⟨_, read, isRead, sameId, sameHash⟩ | ⟨noText, _⟩
        · exact ⟨read, isRead, sameId, sameHash, fun other => absurd isNew other⟩
        · exact absurd text noText
      · exact ⟨latest, rfl, rfl, rfl, fun _ => rfl⟩
    rcases reads with ⟨read, isRead, sameId, sameHash, same⟩
    rw [run_loadLatestCheckpoint selected]
    dsimp only
    rw [isRead]
    change match trustedRecord runtime resumption read with
      | .error error => _
      | .ok record => _
    split
    · rename_i error raised
      exact trustedRecord_error (addressable _ latestMember _ isRead) raised
    · rename_i record trusted
      have recordId : record.checkpointId = latest.checkpointId := by
        rcases exists_of_recordFromRow_eq_ok (trustedRecord_eq_ok.mp trusted).1 with
          ⟨cursor, counters, _, _, rfl⟩
        exact sameId
      rw [recordId]
      split
      · rename_i isNew
        obtain rfl := Table.eq_of_key_eq _ latestMember member (isNew.trans isId.symm)
        exact restores_of_trusted injective facts sameHash trusted
      · rename_i isOther
        rwa [← same isOther]

/-- What is hashed of the sample. -/
def sampleStream : List UInt8 :=
  ((newRow sampleRuntime .sample >>= fun row =>
    integrityStream (integrityFields row)).toOption).getD []

def injectiveRuntime : Runtime := { Runtime.sample with
    sha256Hex := hashing
      [(sampleStream, "669a2a15fbc64755b28fbb20b7aa357e076d0221f72040145f87b2d7fe7cdc6f")] }

theorem injective_sha256Hex : Function.Injective injectiveRuntime.sha256Hex :=
  hashing_injective (by decide) (by decide)

/-- The values of the sample with another name of the tool. -/
def renamed (toolName : List UInt8) : Replacement where
  sourceFingerprint := utf8 NewCheckpoint.sample.sourceFingerprint
  checkpointVersion := 1
  toolName
  toolVersion := utf8 NewCheckpoint.sample.toolVersion
  cursorJson := utf8 "\x7b \"offset\" : 1 \x7d"
  countersJson := utf8 "\x7b\"files\":2\x7d"
  blob := NewCheckpoint.sample.blob

open Archive in
theorem saved_sample : SaveCall.stage .sample ∈
    ((start (sampleCatalog injectiveRuntime)).saveAll [.stage .sample]).saved := by
  have returns : (start (sampleCatalog injectiveRuntime)).Returns (.stage .sample) :=
    eq_ok_of_toOption (by decide)
  rw [saveAll, List.foldl_cons, List.foldl_nil, saved_save returns]
  exact List.mem_append_right _ (List.mem_singleton_self _)

open Archive in
theorem evident_of_renamed :
    (Evident ((start (sampleCatalog injectiveRuntime)).saveAll [.stage .sample]).session.committed
      .sample (renamed (utf8 "other")) NewCheckpoint.sample.resumption ↔
        (IsHead ((start (sampleCatalog injectiveRuntime)).saveAll
          [.stage .sample]).session.committed NewCheckpoint.sample.checkpointId
            NewCheckpoint.sample.resumption → (renamed (utf8 "other")).IsText)) ∧
      ∀ first second stream, integrityStream first = .ok stream →
        integrityStream second = .ok stream → first = second := by
  refine evident_iff_isText injective_sha256Hex _ _ saved_sample _ _ ?_
  have checked : (((start (sampleCatalog injectiveRuntime)).saveAll
      [.stage .sample]).session.committed.checkpoints.rows.all fun row =>
        (fetched NewCheckpoint.sample.checkpointId (renamed (utf8 "other")) row >>= fun read =>
          recordFromRow injectiveRuntime read >>= recordFields injectiveRuntime).toOption.all
            fun fields => decide fields.Addressable) = true := by
    decide +kernel
  intro row member read isRead record fields isRecord isFields
  have addressable := List.all_eq_true.mp checked row member
  rw [isRead] at addressable
  change (recordFromRow injectiveRuntime read >>= _).toOption.all _ = true at addressable
  rw [isRecord] at addressable
  change (recordFields injectiveRuntime record).toOption.all _ = true at addressable
  rw [isFields] at addressable
  exact of_decide_eq_true addressable

open Archive in
/-- The name of the tool is no UTF-8: the load raises the error of `sqlite3`. -/
theorem unreadableTool_not_evident : Function.Injective injectiveRuntime.sha256Hex ∧
    SaveCall.stage .sample ∈
      ((start (sampleCatalog injectiveRuntime)).saveAll [.stage .sample]).saved ∧
    ¬Evident ((start (sampleCatalog injectiveRuntime)).saveAll [.stage .sample]).session.committed
      .sample (renamed [0xFF]) NewCheckpoint.sample.resumption := by
  refine ⟨injective_sha256Hex, saved_sample, ?_⟩
  have raises : (match loadReplaced ((start (sampleCatalog injectiveRuntime)).saveAll
      [.stage .sample]).session.committed NewCheckpoint.sample.checkpointId (renamed [0xFF])
        NewCheckpoint.sample.resumption with
      | .error error => decide (error = .operationalError)
      | .ok _ => false) = true := by
    decide +kernel
  intro evident
  unfold Evident at evident
  split at evident
  · rename_i error raised
    rw [raised] at raises
    obtain rfl := of_decide_eq_true raises
    rcases evident with ⟨message, isCheckpointError⟩
    cases isCheckpointError
  · rename_i record loaded
    rw [loaded] at raises
    cases raises

end Checkpoints

end Reperio
