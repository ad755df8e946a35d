import Reperio.Checkpoints.Eligibility

/-!
# The medium of a checkpoint

Two columns say which medium a checkpoint is of. The integrity hash covers
`source_fingerprint`, eligibility is decided from `medium_identity_json`, and
nothing compares the two.
-/

namespace Reperio

open Python Relational Concurrency Checkpoints MediaIdentity

variable {runtime : Runtime}

variable {eligibility : ResumeEligibility} {catalog : Catalog runtime} {fingerprint : PyValue}

namespace MediumCheckpoints

/-- Where a load returns the record of a row. -/
theorem trustedRecord_eq_ok {resumption : MediumResumption} {row : Checkpoint}
    {record : MediumCheckpointRecord} :
    trustedRecord runtime resumption row = .ok (record, eligibility) ↔
      recordFromRow runtime row = .ok record ∧
      (∃ previous key, previousMedium runtime record.mediumIdentityJson = .ok (.dict previous) ∧
        mediumIdentityKey runtime previous = .ok key ∧
        mediumIdentityKey runtime resumption.mediumIdentity = .ok key ∧
        eligibility = ⟨true, none, false, key⟩) ∧
      record.checkpointVersion = mediumCheckpointVersion ∧
      record.toolName = resumption.toolName ∧ record.toolVersion = resumption.toolVersion ∧
      ∃ fields, recordFields runtime record = .ok fields ∧
        integrityHash runtime fields = .ok record.integritySha256 := by
  constructor
  · intro trusted
    rcases bind_eq_ok trusted with ⟨other, isRecord, trusted⟩
    rcases bind_eq_ok trusted with ⟨previous, isPrevious, trusted⟩
    rcases bind_eq_ok trusted with ⟨decided, isDecided, trusted⟩
    split at trusted
    · cases trusted
    split at trusted
    · cases trusted
    split at trusted
    · cases trusted
    rename_i eligible version tool
    rcases bind_eq_ok trusted with ⟨fields, isFields, trusted⟩
    rcases bind_eq_ok trusted with ⟨expected, isHash, trusted⟩
    split at trusted
    · cases trusted
    rename_i sameHash
    cases trusted
    rw [not_or, not_not, not_not] at tool
    rw [not_not] at version sameHash
    rw [Bool.not_eq_true, Bool.not_eq_false'] at eligible
    refine ⟨isRecord, ?_, version, tool.1, tool.2, fields, isFields, sameHash ▸ isHash⟩
    rcases exists_of_eligible isDecided eligible with ⟨items, rfl⟩
    rcases resumeEligibility_eligible.mp ⟨isDecided, eligible⟩ with
      ⟨key, previousKey, currentKey, isEligibility⟩
    exact ⟨items, key, isPrevious, previousKey, currentKey, isEligibility⟩
  · rintro ⟨isRecord, ⟨previous, key, isPrevious, previousKey, currentKey, rfl⟩, version, toolName,
      toolVersion, fields, isFields, isHash⟩
    have decided := (resumeEligibility_eligible.mpr ⟨key, previousKey, currentKey, rfl⟩).1
    have tool : ¬(record.toolName ≠ resumption.toolName ∨
        record.toolVersion ≠ resumption.toolVersion) := by
      rw [not_or, not_not, not_not]
      exact ⟨toolName, toolVersion⟩
    simp only [trustedRecord, isRecord, isPrevious, decided, isFields, isHash, bind, Except.bind,
      Bool.not_true, Bool.false_eq_true, if_false, if_neg (not_not.mpr version), if_neg tool]
    exact if_neg (not_not.mpr rfl)

theorem run_loadMediumCheckpoint {resumption : MediumResumption} {record : MediumCheckpointRecord} :
    ((loadMediumCheckpoint runtime resumption).run CheckpointStatement.perform catalog).2 =
        .ok (some record, eligibility) ↔
      ∃ row, ((CheckpointStatement.selectLatest resumption.jobId resumption.stage).perform
          catalog).2 = some row ∧
        trustedRecord runtime resumption row = .ok (record, eligibility) := by
  unfold loadMediumCheckpoint
  rw [Program.run_ofExcept_bind]
  constructor
  · intro loaded
    cases current : resumeEligibility runtime .none resumption.mediumIdentity with
    | error error => rw [current] at loaded; cases loaded
    | ok result =>
      rw [current] at loaded
      dsimp only at loaded
      rw [run_issue_bind (.selectLatest resumption.jobId resumption.stage)] at loaded
      split at loaded
      · cases loaded
      · rename_i row found
        rw [Program.run_ofExcept_bind] at loaded
        cases trusted : trustedRecord runtime resumption row with
        | error error => rw [trusted] at loaded; cases loaded
        | ok pair =>
          rw [trusted] at loaded
          rcases pair with ⟨other, decided⟩
          cases loaded
          exact ⟨row, found, trusted⟩
  · rintro ⟨row, found, trusted⟩
    rcases trustedRecord_eq_ok.mp trusted with ⟨_, ⟨_, key, _, _, currentKey, _⟩, _⟩
    have current : resumeEligibility runtime .none resumption.mediumIdentity =
        .ok ⟨false, some "no_previous_medium", true, key⟩ := by
      simp only [resumeEligibility, currentKey, bind, Except.bind]
      rfl
    rw [current]
    dsimp only
    rw [run_issue_bind (.selectLatest resumption.jobId resumption.stage), found]
    dsimp only
    rw [Program.run_ofExcept_bind, trusted]
    rfl

/-- The stored key is that of the identity stored beside it. -/
def Tied (runtime : Runtime) (row : Checkpoint) : Prop :=
  ∃ previous, previousMedium runtime row.mediumIdentityJson = .ok (.dict previous) ∧
    mediumIdentityKey runtime previous = .ok row.sourceFingerprint

/-- A record that is loaded is of the current medium exactly when the two columns of its row
agree. -/
theorem loaded_of_current_medium_iff_tied {catalog : Catalog runtime}
    {resumption : MediumResumption} {record : MediumCheckpointRecord}
    {eligibility : ResumeEligibility}
    (loaded : ((loadMediumCheckpoint runtime resumption).run CheckpointStatement.perform
      catalog).2 = .ok (some record, eligibility)) :
    mediumIdentityKey runtime resumption.mediumIdentity = .ok record.mediumIdentityKey ↔
      ∃ row, ((CheckpointStatement.selectLatest resumption.jobId resumption.stage).perform
        catalog).2 = some row ∧ Tied runtime row := by
  rcases run_loadMediumCheckpoint.mp loaded with ⟨row, found, trusted⟩
  rcases trustedRecord_eq_ok.mp trusted with
    ⟨isRecord, ⟨previous, key, isPrevious, previousKey, currentKey, _⟩, _⟩
  rcases bind_eq_ok isRecord with ⟨cursorValue, _, isRecord⟩
  rcases bind_eq_ok isRecord with ⟨cursor, _, isRecord⟩
  rcases bind_eq_ok isRecord with ⟨countersValue, _, isRecord⟩
  rcases bind_eq_ok isRecord with ⟨counters, _, isRecord⟩
  cases isRecord
  rw [currentKey]
  constructor
  · rintro same
    exact ⟨row, found, previous, isPrevious, previousKey.trans same⟩
  · rintro ⟨other, isOther, others, isOthers, otherKey⟩
    obtain rfl := Option.some.inj (found.symm.trans isOther)
    have samePrevious := isPrevious.symm.trans isOthers
    cases samePrevious
    exact previousKey.symm.trans otherKey

/-- The row of the sample, with any identity beside it. -/
def sampleRow (mediumIdentityJson : String) : Checkpoint where
  checkpointId := "ckpt-1"
  jobId := "job-1"
  caseId := none
  sourceFingerprint := sampleKey
  mediumIdentityJson := some mediumIdentityJson
  stage := "inventory"
  checkpointVersion := mediumCheckpointVersion
  toolName := "scanner"
  toolVersion := "1.0"
  cursorJson := sampleFields.cursorJson
  countersJson := sampleFields.countersJson
  blob := [7]
  integritySha256 := "b53d7d162435505a1b13602a9c69b871133604e8b2be0989e3ddf538e848b89c"
  supersedesCheckpointId := none
  supersededByCheckpointId := none
  createdAt := "2026-08-11T14:40:00Z"

example : (sampleRow "\x7b\x7d").check mediumRuntime = true := by
  decide

theorem sha256Hex_medium : mediumRuntime.sha256Hex = hashing mediumDigests := rfl

/-- What is hashed of each sample is written. -/
theorem written_sampledMedium {digit : Char} (isDigit : digit = 'a' ∨ digit = 'b') :
    (toJson true Runtime.sample.recursionLimit (mediumBasis (sampledMedium digit)
      (signalsOf (sampledMedium digit)))).toOption.isSome = true := by
  rcases isDigit with rfl | rfl
  · decide
  · decide

theorem mediumIdentityKey_sample :
    mediumIdentityKey mediumRuntime (sampledMedium 'a') = .ok sampleKey := by
  rcases Option.isSome_iff_exists.mp (written_sampledMedium (Or.inl rfl)) with ⟨json, isJson⟩
  have isJson := eq_ok_of_toOption isJson
  have canonical : canonicalJson mediumRuntime (mediumBasis (sampledMedium 'a')
      (signalsOf (sampledMedium 'a'))) = .ok (String.ofList json.render) := by
    change (toJson true Runtime.sample.recursionLimit _ >>= _) = _
    rw [isJson]
    rfl
  have stream : utf8 (String.ofList json.render) = keyStream (sampledMedium 'a') := by
    rw [utf8, String.toList_ofList, keyStream, isJson]
    rfl
  have different : keyStream (sampledMedium 'a') ≠
      (integrityStream sampleFields).toOption.getD [] := by
    decide
  refine mediumIdentityKey_eq_ok.mpr ⟨_, _, presents_mediumRecord, canonical, ?_⟩
  rw [stream, sha256Hex_medium, mediumDigests, hashing_cons_of_ne different, hashing_cons_self]

/-- The text in which an identity is stored. -/
def identityText (record : PyDict) : String :=
  (canonicalJson Runtime.sample (.dict record)).toOption.getD ""

theorem canonicalJson_identityText {record : PyDict} {json : Json}
    (written : toJson true Runtime.sample.recursionLimit (.dict record) = .ok json) :
    canonicalJson mediumRuntime (.dict record) = .ok (identityText record) := by
  have isText : canonicalJson Runtime.sample (.dict record) = .ok (String.ofList json.render) := by
    rw [canonicalJson, dumps, written]
    rfl
  rw [identityText, isText]
  exact isText

theorem integrityHash_sample : integrityHash mediumRuntime sampleFields =
    .ok "b53d7d162435505a1b13602a9c69b871133604e8b2be0989e3ddf538e848b89c" := by
  have streamed : (integrityStream sampleFields).toOption.isSome = true := by
    decide
  rcases Option.isSome_iff_exists.mp streamed with ⟨stream, isStream⟩
  rw [integrityHash, eq_ok_of_toOption isStream]
  change Except.ok (mediumRuntime.sha256Hex stream) = _
  rw [sha256Hex_medium, mediumDigests, isStream, Option.getD_some, hashing_cons_self]

theorem newRow_eq_ok {new : NewMediumCheckpoint}
    {mediumKey mediumJson cursorJson countersJson integritySha256 : String}
    (isKey : mediumIdentityKey runtime new.mediumIdentity = .ok mediumKey)
    (isMedium : canonicalJson runtime (.dict new.mediumIdentity) = .ok mediumJson)
    (isCursor : canonicalJson runtime (.dict new.cursor) = .ok cursorJson)
    (isCounters : canonicalJson runtime (.dict new.counters) = .ok countersJson)
    (isHash : integrityHash runtime ⟨mediumKey, new.stage, mediumCheckpointVersion, new.toolName,
      new.toolVersion, cursorJson, countersJson, new.blob⟩ = .ok integritySha256) :
    newRow runtime new = .ok {
      checkpointId := new.checkpointId, jobId := new.jobId, caseId := none,
      sourceFingerprint := mediumKey, mediumIdentityJson := some mediumJson, stage := new.stage,
      checkpointVersion := mediumCheckpointVersion, toolName := new.toolName,
      toolVersion := new.toolVersion, cursorJson, countersJson, blob := new.blob, integritySha256,
      supersedesCheckpointId := none, supersededByCheckpointId := none,
      createdAt := new.createdAt } := by
  simp only [newRow, isKey, isMedium, isCursor, isCounters, isHash, bind, Except.bind]
  rfl

/-- A mapping that is written canonically is written as a text and read from it. -/
theorem canonicalJson_of_toJson {items : PyDict} {json : Json} {text : String}
    (written : toJson true runtime.recursionLimit (.dict items) = .ok json)
    (read : ofJson json.joined = .dict items) (isText : String.ofList json.render = text) :
    canonicalJson runtime (.dict items) = .ok text ∧
      loads runtime.recursionLimit text = .ok (.dict items) := by
  subst isText
  refine ⟨?_, ?_⟩
  · rw [canonicalJson, dumps, written]
    rfl
  · rw [loads_render (fits_toJson _ written), read]

theorem cursor_sample : canonicalJson mediumRuntime (.dict NewMediumCheckpoint.sample.cursor) =
        .ok sampleFields.cursorJson ∧
      loads mediumRuntime.recursionLimit sampleFields.cursorJson =
        .ok (.dict NewMediumCheckpoint.sample.cursor) :=
  @canonicalJson_of_toJson _ _ (.object [(.ofString "offset", .int 1)]) _ rfl rfl
    (by decide)

theorem counters_sample : canonicalJson mediumRuntime (.dict NewMediumCheckpoint.sample.counters) =
        .ok sampleFields.countersJson ∧
      loads mediumRuntime.recursionLimit sampleFields.countersJson =
        .ok (.dict NewMediumCheckpoint.sample.counters) :=
  @canonicalJson_of_toJson _ _ (.object [(.ofString "files", .int 2)]) _ rfl rfl
    (by decide)

/-- The value is the record of a medium with the same key. -/
def keyedAs (record : PyDict) : PyValue → Bool
  | .dict items =>
    match PyDict.get items "medium_signals" with
    | .dict signals =>
      (validateMediaIdentity items).toOption.any MediaIdentityValidationResult.valid &&
        isPlausibleSignals signals &&
        decide ((toJson true Runtime.sample.recursionLimit (mediumBasis items signals)).toOption.map
          Json.render = (toJson true Runtime.sample.recursionLimit
            (mediumBasis record (signalsOf record))).toOption.map Json.render)
    | _ => false
  | _ => false

/-- The record of each sample is written and read as a record of the same medium. -/
theorem keyed_sampledMedium {digit : Char} (isDigit : digit = 'a' ∨ digit = 'b') :
    (toJson true Runtime.sample.recursionLimit (.dict (sampledMedium digit))).toOption.any
      (fun json => keyedAs (sampledMedium digit) (ofJson json.joined)) = true := by
  rcases isDigit with rfl | rfl
  · decide +kernel
  · decide +kernel

theorem newRow_sample :
    newRow mediumRuntime .sample = .ok (sampleRow (identityText (sampledMedium 'a'))) := by
  rcases (Option.any_eq_true _ _).mp (keyed_sampledMedium (Or.inl rfl)) with ⟨json, isJson, _⟩
  have isMedium := canonicalJson_identityText (eq_ok_of_toOption isJson)
  exact @newRow_eq_ok _ .sample _ _ _ _ _ mediumIdentityKey_sample isMedium cursor_sample.1
    counters_sample.1 integrityHash_sample

open Archive in
/-- The sample is saved. -/
theorem saved_sample :
    ((start (sampleCatalog mediumRuntime)).save
      (.medium .sample)).session.committed.checkpoints.rows
      = [sampleRow (identityText (sampledMedium 'a'))] := by
  generalize stored : (storeCheckpoint (sampleRow (identityText (sampledMedium 'a'))) false).run
    CheckpointStatement.perform
    ({ sampleCatalog mediumRuntime with checkpoints := .empty } : Catalog mediumRuntime) = result
  have returned : result.2.toOption = some () := by
    rw [← stored]
    decide +kernel
  rcases result with ⟨after, error | _⟩
  · cases returned
  · rw [start, (@save_of_row _ _ _ [] (.medium .sample) _ _ newRow_sample stored).2]
    exact (run_storeCheckpoint stored).2

theorem previousMedium_of_loads {text : String} {value : PyValue}
    (read : loads runtime.recursionLimit text = .ok value) :
    previousMedium runtime (some text) = .ok value := by
  simp only [previousMedium, read]

/-- The text of an identity is read as a record of the same medium. -/
theorem matching_identityText
    (keyed : (toJson true Runtime.sample.recursionLimit
      (.dict (mediumRecord fingerprint))).toOption.any
        (fun json => keyedAs (mediumRecord fingerprint) (ofJson json.joined)) = true)
    (written : (toJson true Runtime.sample.recursionLimit (mediumBasis (mediumRecord fingerprint)
      (signalsOf (mediumRecord fingerprint)))).toOption.isSome = true) :
    ∃ previous, previousMedium mediumRuntime (some (identityText (mediumRecord fingerprint))) =
        .ok (.dict previous) ∧
      Matching mediumRuntime previous (mediumRecord fingerprint) := by
  rcases (Option.any_eq_true _ _).mp keyed with ⟨json, isJson, keyed⟩
  rcases Option.isSome_iff_exists.mp written with ⟨basis, isBasis⟩
  have isJson := eq_ok_of_toOption isJson
  have text : identityText (mediumRecord fingerprint) = String.ofList json.render := by
    rw [identityText, canonicalJson, dumps, isJson]
    rfl
  have read := loads_render (fits_toJson _ isJson)
  unfold keyedAs at keyed
  split at keyed
  · rename_i items isItems
    split at keyed
    · rename_i signals isSignals
      rw [Bool.and_eq_true, Bool.and_eq_true, Option.any_eq_true, decide_eq_true_eq] at keyed
      rcases keyed with ⟨⟨⟨result, validated, valid⟩, plausibleSignals⟩, same⟩
      rw [isBasis] at same
      rcases Option.map_eq_some_iff.mp same with ⟨other, isOther, sameText⟩
      refine ⟨items, ?_, signals, signalsOf (mediumRecord fingerprint), String.ofList basis.render,
        ⟨⟨result, eq_ok_of_toOption validated, valid⟩, isSignals, plausibleSignals⟩,
        presents_mediumRecord,
        ?_, ?_⟩
      · rw [text]
        exact previousMedium_of_loads (read.trans (congrArg Except.ok isItems))
      · change (toJson true Runtime.sample.recursionLimit _ >>= _) = _
        rw [eq_ok_of_toOption isOther, ← sameText]
        rfl
      · change (toJson true Runtime.sample.recursionLimit _ >>= _) = _
        rw [eq_ok_of_toOption isBasis]
        rfl
    · cases keyed
  · cases keyed

def sampleResumption (medium : PyDict) : MediumResumption where
  jobId := "job-1"
  mediumIdentity := medium
  stage := "inventory"
  toolName := "scanner"
  toolVersion := "1.0"

/-- The sample is loaded for the medium whose identity is stored beside it. -/
theorem load_sampleRow {catalog : Catalog mediumRuntime}
    (rows : catalog.checkpoints.rows = [sampleRow (identityText (mediumRecord fingerprint))])
    (keyed : (toJson true Runtime.sample.recursionLimit
      (.dict (mediumRecord fingerprint))).toOption.any
        (fun json => keyedAs (mediumRecord fingerprint) (ofJson json.joined)) = true)
    (written : (toJson true Runtime.sample.recursionLimit (mediumBasis (mediumRecord fingerprint)
      (signalsOf (mediumRecord fingerprint)))).toOption.isSome = true) :
    ∃ record eligibility, ((loadMediumCheckpoint mediumRuntime
      (sampleResumption (mediumRecord fingerprint))).run CheckpointStatement.perform catalog).2 =
        .ok (some record, eligibility) ∧ record.mediumIdentityKey = sampleKey := by
  rcases matching_identityText keyed written with ⟨previous, isPrevious, matching⟩
  rcases matching.sameKey with ⟨key, previousKey, currentKey⟩
  have found : ((CheckpointStatement.selectLatest "job-1" "inventory").perform catalog).2 =
      some (sampleRow (identityText (mediumRecord fingerprint))) := by
    simp only [CheckpointStatement.perform, rows]
    rfl
  have isRecord : recordFromRow mediumRuntime
    (sampleRow (identityText (mediumRecord fingerprint))) =
      .ok ⟨"ckpt-1", "job-1", sampleKey, some (identityText (mediumRecord fingerprint)),
        "inventory", mediumCheckpointVersion, "scanner", "1.0", NewMediumCheckpoint.sample.cursor,
        NewMediumCheckpoint.sample.counters, [7],
        "b53d7d162435505a1b13602a9c69b871133604e8b2be0989e3ddf538e848b89c"⟩ := by
    simp only [recordFromRow, sampleRow, cursor_sample.2, counters_sample.2, bind, Except.bind]
    rfl
  refine ⟨_, _, run_loadMediumCheckpoint.mpr ⟨_, found, trustedRecord_eq_ok.mpr ⟨isRecord,
    ⟨previous, key, isPrevious, previousKey, currentKey, rfl⟩, rfl, rfl, rfl, sampleFields, ?_,
    integrityHash_sample⟩⟩, rfl⟩
  simp only [recordFields, cursor_sample.1, counters_sample.1, bind, Except.bind]
  rfl

/-- The row of a checkpoint with another identity, where the table accepts it. -/
def relabel (catalog : Catalog runtime) (checkpointId mediumIdentityJson : String) :
    Option (Catalog runtime) :=
  (catalog.checkpoints.update (fun row => decide (row.checkpointId = checkpointId))
    fun row => { row with mediumIdentityJson := some mediumIdentityJson }).map fun updated =>
      { catalog with checkpoints := updated.1 }

open Archive in
theorem sample_loaded_of_current_medium : ∃ record eligibility, ((loadMediumCheckpoint mediumRuntime
      (sampleResumption (sampledMedium 'a'))).run CheckpointStatement.perform
        ((start (sampleCatalog mediumRuntime)).save (.medium .sample)).session.committed).2 =
          .ok (some record, eligibility) ∧
      mediumIdentityKey mediumRuntime (sampledMedium 'a') = .ok record.mediumIdentityKey := by
  have keyed := keyed_sampledMedium (Or.inl rfl)
  have written := written_sampledMedium (Or.inl rfl)
  rcases load_sampleRow saved_sample keyed written with ⟨record, eligibility, loaded, _⟩
  rcases matching_identityText keyed written with ⟨previous, isPrevious, matching⟩
  refine ⟨record, eligibility, loaded, (loaded_of_current_medium_iff_tied loaded).mpr
    ⟨sampleRow (identityText (sampledMedium 'a')), ?_, previous, isPrevious, ?_⟩⟩
  · simp only [CheckpointStatement.perform, saved_sample]
    rfl
  · rcases matching.sameKey with ⟨key, previousKey, currentKey⟩
    exact previousKey.trans (currentKey.symm.trans mediumIdentityKey_sample)

theorem relabel_rows {row : Checkpoint} {text : String} (rows : catalog.checkpoints.rows = [row])
    (checked : ({ row with mediumIdentityJson := some text } : Checkpoint).check runtime = true) :
    ∃ relabelled, relabel catalog row.checkpointId text = some relabelled ∧
      relabelled.checkpoints.rows = [{ row with mediumIdentityJson := some text }] := by
  have accepted : (catalog.checkpoints.update
      (fun other => decide (other.checkpointId = row.checkpointId))
      fun other => { other with mediumIdentityJson := some text }).isSome := by
    refine (Table.update_isSome fun first second clash => ?_).mpr ?_
    · change (if _ then _ else _ : Checkpoint).checkpointId =
        (if _ then _ else _ : Checkpoint).checkpointId at clash
      split at clash <;> split at clash <;> exact clash
    · rw [rows]
      rintro other member _
      obtain rfl := List.mem_singleton.mp member
      exact checked
  rcases Option.isSome_iff_exists.mp accepted with ⟨⟨checkpoints, count⟩, updated⟩
  refine ⟨{ catalog with checkpoints }, ?_, ?_⟩
  · rw [relabel, updated]
    rfl
  · change checkpoints.rows = _
    rw [(Table.update_eq_some.mp updated).1, Table.updated, rows, List.map_singleton,
      if_pos (decide_eq_true rfl)]

/-- Media that are written differently have different keys. -/
theorem key_ne_of_render_ne {first second firstSignals secondSignals : PyDict}
    (firstPresents : Presents first firstSignals) (secondPresents : Presents second secondSignals)
    (different : (toJson true mediumRuntime.recursionLimit
        (mediumBasis first firstSignals)).toOption.map Json.render ≠
      (toJson true mediumRuntime.recursionLimit
        (mediumBasis second secondSignals)).toOption.map Json.render) {key : String}
    (isKey : mediumIdentityKey mediumRuntime first = .ok key) :
    mediumIdentityKey mediumRuntime second ≠ .ok key := by
  intro sameKey
  rcases matching_of_sameKey mediumRuntime_injective isKey sameKey with
    ⟨firstOther, secondOther, canonical, firstOthers, secondOthers, firstText, secondText⟩
  obtain rfl : firstOther = firstSignals :=
    PyValue.dict.inj (firstOthers.isSignals.symm.trans firstPresents.isSignals)
  obtain rfl : secondOther = secondSignals :=
    PyValue.dict.inj (secondOthers.isSignals.symm.trans secondPresents.isSignals)
  rcases bind_eq_ok firstText with ⟨firstJson, isFirst, firstText⟩
  rcases bind_eq_ok secondText with ⟨secondJson, isSecond, secondText⟩
  have texts := String.ofList_inj.mp
    ((Except.ok.inj firstText).trans (Except.ok.inj secondText).symm)
  rw [isFirst, isSecond] at different
  exact different (congrArg some texts)

open Archive in
/-- The identity of another medium is written beside the key, and the checkpoint is loaded for that
medium. -/
theorem relabelled_loaded : Function.Injective mediumRuntime.sha256Hex ∧ ∃ relabelled,
    relabel ((start (sampleCatalog mediumRuntime)).save (.medium .sample)).session.committed
      "ckpt-1" (identityText (sampledMedium 'b')) = some relabelled ∧
    ∃ record eligibility, ((loadMediumCheckpoint mediumRuntime
      (sampleResumption (sampledMedium 'b'))).run CheckpointStatement.perform relabelled).2 =
        .ok (some record, eligibility) ∧
      mediumIdentityKey mediumRuntime (sampledMedium 'b') ≠ .ok record.mediumIdentityKey := by
  have checked : (sampleRow (identityText (sampledMedium 'b'))).check mediumRuntime = true := by
    decide +kernel
  rcases relabel_rows saved_sample checked with ⟨relabelled, isRelabelled, rows⟩
  have keyed := keyed_sampledMedium (Or.inr rfl)
  have written := written_sampledMedium (Or.inr rfl)
  rcases load_sampleRow rows keyed written with ⟨record, eligibility, loaded, isKey⟩
  refine ⟨mediumRuntime_injective, relabelled, isRelabelled, record, eligibility, loaded, ?_⟩
  rw [isKey]
  exact key_ne_of_render_ne presents_mediumRecord presents_mediumRecord (by decide +kernel)
    mediumIdentityKey_sample

end MediumCheckpoints

end Reperio
