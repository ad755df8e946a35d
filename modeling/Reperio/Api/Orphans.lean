import Reperio.Api.Launch

/-!
# Scanners without a case

The scanner is launched inside of the transaction that then inserts its case,
and an insertion that fails rolls back the case but not the scanner: nothing
of `start_scan` stops it. What has to be true of the request, the daemon's
answer and the catalog for both insertions to succeed is spelled out here, and
that is exactly when a launched scanner has a case.
-/

namespace Reperio.Api

open Concurrency Python Catalog Relational

/-- The running case of the launch, with the session that the daemon returned. -/
def StoredCase (interpreter : Interpreter) (catalog : CaseCatalog interpreter.runtime)
    (caseId : String) (scanner : PyDict) : Prop :=
  ∃ row ∈ catalog.scanCases.rows, row.caseId = caseId ∧ row.state = .running ∧
    ∃ session policy, PyDict.get? scanner "scanner_session_id" = some (.text session) ∧
      PyDict.get? policy "scanner_session_id" = some (.text session) ∧
      policyText interpreter policy = .ok row.policyJson

def ScannerStopped (scanner : PyDict) (exchanges : List (HostdCall × HostdAnswer)) : Prop :=
  ∃ session reason answer, PyDict.get? scanner "scanner_session_id" = some (.text session) ∧
    (.stopScanner session reason, answer) ∈ exchanges

section Start

variable (interpreter : Interpreter) (environment : Environment)
  (world : World interpreter.runtime) (body : StartScanRequest)

/-- Every scanner that a start launches has a case, or is stopped. -/
def NoOrphan : Prop :=
  ∀ sourceId generation safetyInspectionId preparationId caseId scratchSeparationId resourceProfile
      scanner,
    (.launchScanner sourceId generation safetyInspectionId preparationId caseId scratchSeparationId
        resourceProfile, .value (.dict scanner)) ∈
      (serve interpreter (.start body) environment world).1.exchanges →
    (serve interpreter (.start body) environment world).2 = .ok (.started caseId scanner) ∧
        StoredCase interpreter
          (serve interpreter (.start body) environment world).1.database.committed caseId scanner ∨
      ScannerStopped scanner (serve interpreter (.start body) environment world).1.exchanges

/-- The answer names a session, and nothing in the request or the catalog stands in the way of the
insertions. -/
structure CaseStorable (caseId : String) (scanner : PyDict)
    (catalog : CaseCatalog interpreter.runtime) : Prop where
  named : ∃ session, PyDict.get? scanner "scanner_session_id" = some (.text session)
  policy : ∃ policyJson, policyText interpreter (policyWithSession body.scanPolicy scanner) =
    .ok policyJson ∧ interpreter.runtime.jsonValid policyJson = true
  fresh : ∀ row ∈ catalog.scanCases.rows, row.caseId ≠ caseId
  identified : ∀ source ∈ catalog.sources.rows, source.stableIdentity = body.sourceId →
    ∃ known ∈ catalog.sources.rows, known.sourceId = body.sourceId

end Start

section Storing

variable {interpreter : Interpreter} {now : CaseStatement → DateTime}
  {body : StartScanRequest} {caseId : String} {scanner : PyDict}
  {catalog : CaseCatalog interpreter.runtime}

/-- `INSERT OR IGNORE INTO sources` leaves the source in the table unless another source has its
identity. -/
theorem lookup_insertSource_isSome_iff (now : CaseStatement → DateTime) {fingerprint : String}
    (digest : (sqlChars fingerprint).length = 64) :
    ((CaseStatement.perform now (.insertSource body.sourceId fingerprint)
        catalog).1.sources.lookup body.sourceId).isSome ↔
      ∀ source ∈ catalog.sources.rows, source.stableIdentity = body.sourceId →
        ∃ known ∈ catalog.sources.rows, known.sourceId = body.sourceId := by
  simp only [CaseStatement.perform]
  cases inserted : catalog.sources.insert (CaseStatement.sourceRow body.sourceId fingerprint
    (strftime (now (.insertSource body.sourceId fingerprint)))) with
  | some sources =>
    rcases Table.insert_eq_some.mp inserted with ⟨_, noClash, _⟩
    simp only [Table.lookup_insert inserted]
    refine iff_of_true (by simp [sourcesSchema, CaseStatement.sourceRow]) ?_
    intro source member identity
    exact absurd (Or.inr identity) (noClash source member)
  | none =>
    have clashes : ∃ old ∈ catalog.sources.rows,
        old.sourceId = body.sourceId ∨ old.stableIdentity = body.sourceId := by
      by_contra apart
      push Not at apart
      refine Table.insert_eq_none.mp inserted ⟨⟨?_, ?_, digest, ?_, ?_⟩, ?_⟩
      · exact le_refl 0
      · exact (by decide : (0 : ℤ) < 512)
      · exact timestampCheck_strftime _
      · exact timestampCheck_strftime _
      · rintro old member (sameKey | sameIdentity)
        · exact (apart old member).1 sameKey
        · exact (apart old member).2 sameIdentity
    rw [Option.isSome_iff_exists]
    constructor
    · rintro ⟨known, found⟩ _ _ _
      exact ⟨known, Table.lookup_eq_some.mp found⟩
    · intro identified
      rcases clashes with ⟨old, member, sameKey | sameIdentity⟩
      · exact ⟨old, Table.lookup_eq_some.mpr ⟨member, sameKey⟩⟩
      · rcases identified old member sameIdentity with ⟨known, knownMember, isKnown⟩
        exact ⟨known, Table.lookup_eq_some.mpr ⟨knownMember, isKnown⟩⟩

/-- The insertions of the case succeed. -/
theorem storeCase_isOk_iff
    (digest : (sqlChars (syntheticFingerprint interpreter body.sourceId)).length = 64) :
    (∃ stored, storeCase interpreter now caseId body scanner catalog = .ok stored) ↔
      (∃ policyJson, policyText interpreter (policyWithSession body.scanPolicy scanner) =
        .ok policyJson ∧ interpreter.runtime.jsonValid policyJson = true) ∧
      (∀ row ∈ catalog.scanCases.rows, row.caseId ≠ caseId) ∧
      ∀ source ∈ catalog.sources.rows, source.stableIdentity = body.sourceId →
        ∃ known ∈ catalog.sources.rows, known.sourceId = body.sourceId := by
  rw [← lookup_insertSource_isSome_iff now digest]
  constructor
  · rintro ⟨stored, isStored⟩
    rcases storeCase_eq_ok.mp isStored with ⟨policyJson, encoded, performed⟩
    rcases CaseStatement.perform_insertCase_eq_ok.mp performed with ⟨known, _, inserted, _⟩
    rw [CaseStatement.perform_scanCases_of_source] at inserted
    rcases Table.insert_eq_some.mp inserted with ⟨check, noClash, _⟩
    exact ⟨⟨policyJson, encoded, check.1⟩, noClash, known⟩
  · rintro ⟨⟨policyJson, encoded, valid⟩, fresh, known⟩
    have insertable : (catalog.scanCases.insert (CaseStatement.caseRow caseId body.sourceId
        policyJson (strftime (now (.insertCase caseId body.sourceId policyJson))))).isSome := by
      rw [Option.isSome_iff_ne_none, ne_eq, Table.insert_eq_none, not_not]
      exact ⟨⟨valid, timestampCheck_strftime _, timestampCheck_strftime _⟩, fresh⟩
    rcases Option.isSome_iff_exists.mp insertable with ⟨scanCases, inserted⟩
    refine ⟨_, storeCase_eq_ok.mpr ⟨policyJson, encoded,
      CaseStatement.perform_insertCase_eq_ok.mpr ⟨known, scanCases, ?_, rfl⟩⟩⟩
    rw [CaseStatement.perform_scanCases_of_source]
    exact inserted

/-- A case that is stored has the session if the daemon named one. -/
theorem storedCase_of_storeCase {stored : CaseCatalog interpreter.runtime}
    (isStored : storeCase interpreter now caseId body scanner catalog = .ok stored)
    {session : PyStr}
    (named : PyDict.get? scanner "scanner_session_id" = some (.text session)) :
    StoredCase interpreter stored caseId scanner := by
  rcases storeCase_scanCases isStored with ⟨policyJson, encoded, rows⟩
  have policy : policyWithSession body.scanPolicy scanner =
      PyDict.set body.scanPolicy "scanner_session_id" (.text session) := by
    rw [policyWithSession, named]
  refine ⟨_, by rw [rows]; exact List.mem_append_right _ (List.mem_singleton_self _), rfl, rfl,
    session, policyWithSession body.scanPolicy scanner, named, ?_, encoded⟩
  rw [policy, PyDict.get?_set_self]

end Storing

section Start

variable {interpreter : Interpreter} {environment : Environment}
  {world : World interpreter.runtime} {body : StartScanRequest} {preparationId : PyValue}

/-- After a launch that the daemon answers with a dictionary, all depends on the insertions. -/
theorem noOrphan_iff_of_launches
    (digest : (sqlChars (syntheticFingerprint interpreter body.sourceId)).length = 64)
    (served : serve interpreter (.start body) environment world =
      (⟨.settled (launchOutcome interpreter environment body preparationId
          world.database.committed).1, world.confirmations,
        [body.prepareExchange environment, body.launchExchange environment preparationId]⟩,
        (launchOutcome interpreter environment body preparationId world.database.committed).2)) :
    NoOrphan interpreter environment world body ↔
      ∀ scanner, environment.hostd
        (body.launchCall preparationId ("case_" ++ environment.uuidHex)) = .value (.dict scanner) →
        CaseStorable interpreter body ("case_" ++ environment.uuidHex) scanner
          world.database.committed := by
  unfold NoOrphan
  rw [served]
  constructor
  · intro noOrphan scanner answered
    have exchanged : (body.launchCall preparationId ("case_" ++ environment.uuidHex),
        HostdAnswer.value (.dict scanner)) ∈
        [body.prepareExchange environment, body.launchExchange environment preparationId] := by
      rw [StartScanRequest.launchExchange, answered]
      simp
    rcases noOrphan _ _ _ _ _ _ _ scanner exchanged with
      ⟨success, row, _, _, _, session, _, named, _⟩ | ⟨_, _, _, _, stopped⟩
    · unfold launchOutcome at success
      rw [answered] at success
      simp only [checkAnswer] at success
      cases isStored : storeCase interpreter environment.now ("case_" ++ environment.uuidHex) body
        scanner world.database.committed with
      | error error =>
        rw [isStored] at success
        cases success
      | ok stored =>
        rcases (storeCase_isOk_iff digest).mp ⟨stored, isStored⟩ with ⟨policy, fresh, identified⟩
        exact ⟨⟨session, named⟩, policy, fresh, identified⟩
    · simp [StartScanRequest.prepareExchange, StartScanRequest.prepareCall,
        StartScanRequest.launchExchange, StartScanRequest.launchCall] at stopped
  · intro storable sourceId generation safety preparation caseId scratch profile scanner exchanged
    simp only [StartScanRequest.prepareExchange, StartScanRequest.prepareCall,
      StartScanRequest.launchExchange, List.mem_cons, Prod.mk.injEq, reduceCtorEq, false_and,
      List.not_mem_nil, or_false, false_or] at exchanged
    rcases exchanged with ⟨isCall, answered⟩
    obtain rfl : caseId = "case_" ++ environment.uuidHex := by
      cases isCall
      rfl
    have possible := storable scanner answered.symm
    rcases (storeCase_isOk_iff digest).mpr ⟨possible.policy, possible.fresh, possible.identified⟩
      with ⟨stored, isStored⟩
    rcases possible.named with ⟨session, named⟩
    have outcome : launchOutcome interpreter environment body preparationId
        world.database.committed =
        (stored, .ok (.started ("case_" ++ environment.uuidHex) scanner)) := by
      rw [launchOutcome, ← answered]
      simp only [checkAnswer]
      rw [isStored]
    rw [outcome]
    exact Or.inl ⟨rfl, storedCase_of_storeCase isStored named⟩

end Start

/-- A scanner that a start launches is left without a case exactly if the daemon names no session,
the policy cannot be stored, the case is known already, or another source has the identity. -/
theorem noOrphan_iff_storable (interpreter : Interpreter) (environment : Environment)
    (world : World interpreter.runtime) (body : StartScanRequest)
    (hexdigest : ∀ bytes, (sqlChars (interpreter.runtime.sha256Hex bytes)).length = 64) :
    NoOrphan interpreter environment world body ↔
      ∀ preparationId scanner, Launches interpreter environment world body preparationId →
        environment.hostd (body.launchCall preparationId ("case_" ++ environment.uuidHex)) =
          .value (.dict scanner) →
        CaseStorable interpreter body ("case_" ++ environment.uuidHex) scanner
          world.database.committed := by
  rcases serve_start_cases interpreter environment world body with
    ⟨error, others, noLaunch, unlaunched, served⟩ | ⟨preparationId, launches, served⟩
  · refine iff_of_true ?_ fun preparationId _ launches => absurd launches (unlaunched preparationId)
    intro _ _ _ _ _ _ _ scanner exchanged
    rw [served] at exchanged
    exact absurd (noLaunch _ exchanged) (by simp [HostdCall.isLaunch])
  · rw [noOrphan_iff_of_launches (hexdigest _) served]
    constructor
    · intro storable same scanner alsoLaunches answered
      obtain rfl := launches.preparationId_eq alsoLaunches
      exact storable scanner answered
    · intro storable scanner answered
      exact storable preparationId scanner launches answered

/-! ## Another source with the identity -/

def otherSource : Source :=
  { CaseStatement.sourceRow "src_other" (sampleInterpreter.runtime.sha256Hex [])
      "2026-01-01T00:00:00Z" with stableIdentity := "src_usb_1" }

def otherSources : Table sourcesSchema where
  rows := [otherSource]
  checked := by
    intro row member
    rw [List.mem_singleton.mp member]
    exact ⟨le_refl 0, by decide, by decide, by decide, by decide⟩
  apart := List.pairwise_singleton _ _

def confirmedWorld (sources : Table sourcesSchema) : World sampleInterpreter.runtime where
  database := .settled ⟨sources, .empty⟩
  confirmations _ := some ⟨1, .ofString "safe_1", "confirm_9fc0c0d73525c6d34c8cd898d0996802", 1000⟩
  exchanges := []

theorem sampleInterpreter_hexdigest (bytes : List UInt8) :
    (sqlChars (sampleInterpreter.runtime.sha256Hex bytes)).length = 64 := by
  simp only [sampleInterpreter]
  split <;> decide

theorem noOrphan_iff_storable_empty :
    NoOrphan sampleInterpreter (launching true) (confirmedWorld .empty) sampleStart ↔
      ∀ preparationId scanner,
        Launches sampleInterpreter (launching true) (confirmedWorld .empty) sampleStart
          preparationId →
        (launching true).hostd (sampleStart.launchCall preparationId
          ("case_" ++ (launching true).uuidHex)) = .value (.dict scanner) →
        CaseStorable sampleInterpreter sampleStart ("case_" ++ (launching true).uuidHex) scanner
          (confirmedWorld .empty).database.committed :=
  noOrphan_iff_storable sampleInterpreter (launching true) (confirmedWorld .empty) sampleStart
    sampleInterpreter_hexdigest

theorem launches_confirmedWorld (sources : Table sourcesSchema) :
    Launches sampleInterpreter (launching true) (confirmedWorld sources) sampleStart
      (.str "ro_1") where
  confirmed := ⟨_, rfl, by decide +kernel⟩
  ready := rfl
  prepares := ⟨rfl, _, rfl, rfl⟩

/-- The scanner runs, and the request fails without a case or a stop. -/
theorem launched_scanner_orphaned : ¬∀ (interpreter : Interpreter) (environment : Environment)
      (world : World interpreter.runtime) (body : StartScanRequest),
      (∀ bytes, (sqlChars (interpreter.runtime.sha256Hex bytes)).length = 64) →
        NoOrphan interpreter environment world body := by
  intro noOrphan
  have orphaned := noOrphan sampleInterpreter (launching true) (confirmedWorld otherSources)
    sampleStart sampleInterpreter_hexdigest
  rcases serve_start_cases sampleInterpreter (launching true) (confirmedWorld otherSources)
    sampleStart with ⟨_, _, _, unlaunched, _⟩ | ⟨preparationId, _, served⟩
  · exact unlaunched _ (launches_confirmedWorld otherSources)
  · have storable := (noOrphan_iff_of_launches (sampleInterpreter_hexdigest _) served).mp orphaned
      _ rfl
    rcases storable.identified otherSource (List.mem_singleton_self _) rfl with
      ⟨known, member, isKnown⟩
    rw [List.mem_singleton.mp member] at isKnown
    exact absurd isKnown (by decide)

end Reperio.Api
