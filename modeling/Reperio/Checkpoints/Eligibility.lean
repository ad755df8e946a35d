import Reperio.Checkpoints.Integrity

/-!
# Resume eligibility

When `resume_eligibility` lets a scan resume: when the canonical JSON of both
media has one hash. A medium whose sample could not be read has a key as well,
so two records without a fingerprint match each other.
-/

namespace Reperio

open Python

variable {runtime : Runtime}

variable {previous current : PyDict} {result : ResumeEligibility}

namespace MediumCheckpoints

open MediaIdentity

/-! ## Keys -/

/-- The record is valid. -/
def IsValid (record : PyDict) : Prop :=
  ∃ result, validateMediaIdentity record = .ok result ∧ result.valid = true

/-- A valid record names a reader. -/
theorem IsValid.isReaderId {record : PyDict} (valid : IsValid record) :
    isReaderId (record.get "reader_id") = true := by
  rcases valid with ⟨result, validated, isValid⟩
  unfold validateMediaIdentity at validated
  split at validated
  · cases validated
    cases isValid
  rcases bind_eq_ok validated with ⟨strength, _, validated⟩
  cases isSignals : record.get "medium_signals" with
  | dict signals =>
    rw [isSignals] at validated
    by_contra notReader
    have isResult := Except.ok.inj validated
    simp [← isResult, notReader] at isValid
  | _ =>
    rw [isSignals] at validated
    cases validated
    cases isValid

/-- The record is valid and its medium is there, with these signals. -/
structure Presents (record signals : PyDict) : Prop where
  valid : IsValid record
  isSignals : record.get "medium_signals" = .dict signals
  plausibleSignals : isPlausibleSignals signals = true

theorem mediumIdentityKey_eq_ok {record : PyDict} {key : String} :
    mediumIdentityKey runtime record = .ok key ↔ ∃ signals canonical, Presents record signals ∧
        canonicalJson runtime (mediumBasis record signals) = .ok canonical ∧
        key = runtime.sha256Hex (utf8 canonical) := by
  constructor
  · intro isKey
    rcases bind_eq_ok isKey with ⟨validation, validated, isKey⟩
    split at isKey
    · cases isKey
    rename_i valid
    rw [Bool.not_eq_true, Bool.not_eq_false'] at valid
    split at isKey
    · rename_i signals isSignals
      split at isKey
      · cases isKey
      rename_i plausibleSignals
      rw [Bool.not_eq_true, Bool.not_eq_false'] at plausibleSignals
      rcases bind_eq_ok isKey with ⟨canonical, isCanonical, isKey⟩
      exact ⟨signals, canonical, ⟨⟨validation, validated, valid⟩, isSignals, plausibleSignals⟩,
        isCanonical, (Except.ok.inj isKey).symm⟩
    · cases isKey
  · rintro ⟨signals, canonical, ⟨⟨validation, validated, valid⟩, isSignals, plausibleSignals⟩,
      isCanonical, rfl⟩
    simp only [mediumIdentityKey, validated, bind, Except.bind, valid, isSignals, plausibleSignals,
      isCanonical, Bool.not_true]
    rfl

/-- Only two keys that agree make a scan eligible. -/
theorem resumeEligibility_eligible :
    resumeEligibility runtime (.dict previous) current = .ok result ∧ result.eligible = true ↔
      ∃ key, mediumIdentityKey runtime previous = .ok key ∧
        mediumIdentityKey runtime current = .ok key ∧ result = ⟨true, none, false, key⟩ := by
  constructor
  · rintro ⟨returned, eligible⟩
    unfold resumeEligibility at returned
    dsimp only at returned
    split at returned
    · rcases bind_eq_ok returned with ⟨currentKey, _, returned⟩
      cases returned
      cases eligible
    · cases returned
    · rename_i previousKey isPrevious
      rcases bind_eq_ok returned with ⟨currentKey, isCurrent, returned⟩
      split at returned
      · rename_i same
        cases returned
        exact ⟨currentKey, same ▸ isPrevious, isCurrent, rfl⟩
      · rcases bind_eq_ok returned with ⟨reason, _, returned⟩
        cases returned
        cases eligible
  · rintro ⟨key, isPrevious, isCurrent, rfl⟩
    refine ⟨?_, rfl⟩
    simp only [resumeEligibility, isPrevious, isCurrent, bind, Except.bind, if_true]
    rfl

/-- Nothing is eligible unless a record of the medium was kept. -/
theorem exists_of_eligible {previous : PyValue}
    (returned : resumeEligibility runtime previous current = .ok result)
    (eligible : result.eligible = true) : ∃ items, previous = .dict items := by
  unfold resumeEligibility at returned
  split at returned
  · rcases bind_eq_ok returned with ⟨currentKey, _, returned⟩
    cases returned
    cases eligible
  · exact ⟨_, rfl⟩
  · cases returned

/-! ## What one key says -/

/-- `json.dumps` writes both alike. -/
def SameJson (first second : PyValue) : Prop :=
  ∃ limit text, dumps true limit first = .ok text ∧ dumps true limit second = .ok text

theorem toJson_mediumBasis {limit : ℕ} {record signals : PyDict} {json : Json}
    (written : toJson true (limit + 1) (mediumBasis record signals) = .ok json) :
    ∃ signalsJson readerJson, toJson true limit (.dict signals) = .ok signalsJson ∧
      toJson true limit (record.get "reader_id") = .ok readerJson ∧
      json = .object [(.ofString "medium_signals", signalsJson),
        (.ofString "reader_id", readerJson)] := by
  rw [mediumBasis, toJson] at written
  rcases bind_eq_ok written with ⟨members, isMembers, written⟩
  cases written
  rw [toJsonValues, toJsonValues, toJsonValues, toJsonMembers, if_pos (by simp; rfl)] at isMembers
  have sorted : ([(PyValue.str "reader_id", toJson true limit (record.get "reader_id")),
      (PyValue.str "medium_signals", toJson true limit (.dict signals))].insertionSort
        fun first second => first.1.sortKey.le second.1.sortKey = true) =
      [(PyValue.str "medium_signals", toJson true limit (.dict signals)),
        (PyValue.str "reader_id", toJson true limit (record.get "reader_id"))] := rfl
  rw [sorted, List.mapM_cons] at isMembers
  rcases bind_eq_ok isMembers with ⟨first, isFirst, isMembers⟩
  rcases bind_eq_ok isFirst with ⟨firstKey, isFirstKey, isFirst⟩
  rcases bind_eq_ok isFirst with ⟨signalsJson, isSignals, isFirst⟩
  cases isFirstKey
  cases isFirst
  rw [List.mapM_cons, List.mapM_nil] at isMembers
  rcases bind_eq_ok isMembers with ⟨rest, isRest, isMembers⟩
  rcases bind_eq_ok isRest with ⟨second, isSecond, isRest⟩
  rcases bind_eq_ok isSecond with ⟨secondKey, isSecondKey, isSecond⟩
  rcases bind_eq_ok isSecond with ⟨readerJson, isReader, isSecond⟩
  cases isSecondKey
  cases isSecond
  cases isRest
  cases isMembers
  exact ⟨signalsJson, readerJson, isSignals, isReader, rfl⟩

theorem sameJson_of_joined {limit : ℕ} {first second : PyValue} {firstJson secondJson : Json}
    (isFirst : toJson true limit first = .ok firstJson)
    (isSecond : toJson true limit second = .ok secondJson)
    (same : firstJson.joined = secondJson.joined) : SameJson first second := by
  refine ⟨limit, String.ofList firstJson.render, ?_, ?_⟩
  · rw [dumps, isFirst]
    rfl
  · rw [dumps, isSecond, ← Json.render_joined firstJson, same, Json.render_joined]
    rfl

/-- Media that are hashed alike have the same signals, as JSON. -/
theorem sameJson_of_mediumBasis {previousSignals currentSignals : PyDict} {canonical : String}
    (isPrevious : canonicalJson runtime (mediumBasis previous previousSignals) = .ok canonical)
    (isCurrent : canonicalJson runtime (mediumBasis current currentSignals) = .ok canonical) :
    SameJson (.dict previousSignals) (.dict currentSignals) := by
  unfold canonicalJson dumps at isPrevious isCurrent
  rcases bind_eq_ok isPrevious with ⟨previousJson, previousWritten, previousText⟩
  rcases bind_eq_ok isCurrent with ⟨currentJson, currentWritten, currentText⟩
  have texts := String.ofList_inj.mp
    ((Except.ok.inj previousText).trans (Except.ok.inj currentText).symm)
  have joined := Json.joined_eq_of_render_eq (fits_toJson _ previousWritten)
    (fits_toJson _ currentWritten) texts
  cases level : runtime.recursionLimit with
  | zero =>
    rw [level] at previousWritten
    cases previousWritten
  | succ limit =>
    rw [level] at previousWritten currentWritten
    rcases toJson_mediumBasis previousWritten with ⟨signals, reader, isSignals, _, rfl⟩
    rcases toJson_mediumBasis currentWritten with ⟨others, other, isOthers, _, rfl⟩
    simp only [Json.joined, Json.joinedMembers, Json.object.injEq, List.cons.injEq,
      Prod.mk.injEq] at joined
    exact sameJson_of_joined isSignals isOthers joined.1.2

/-! ## Verified media -/

/-- The sample of the medium was read. -/
def HasFingerprint (record : PyDict) : Prop :=
  (normalizedFingerprint ((signalsOf record).get "sampled_fingerprint_sha256")).isSome = true

/-- Both records are of one medium, and both show its fingerprint. -/
structure Verified (previous current : PyDict) : Prop where
  previousValid : IsValid previous
  currentValid : IsValid current
  sameReader : previous.get "reader_id" = current.get "reader_id"
  sameSignals : SameJson (previous.get "medium_signals") (current.get "medium_signals")
  previousFingerprint : HasFingerprint previous
  currentFingerprint : HasFingerprint current

/-- Both records are valid, their media are there, and what identifies these is one JSON text. -/
def Matching (runtime : Runtime) (previous current : PyDict) : Prop :=
  ∃ previousSignals currentSignals canonical, Presents previous previousSignals ∧
    Presents current currentSignals ∧
    canonicalJson runtime (mediumBasis previous previousSignals) = .ok canonical ∧
    canonicalJson runtime (mediumBasis current currentSignals) = .ok canonical

theorem matching_of_sameKey (injective : Function.Injective runtime.sha256Hex) {key : String}
    (isPrevious : mediumIdentityKey runtime previous = .ok key)
    (isCurrent : mediumIdentityKey runtime current = .ok key) :
    Matching runtime previous current := by
  rcases mediumIdentityKey_eq_ok.mp isPrevious with
    ⟨previousSignals, previousText, previousPresents, previousCanonical, rfl⟩
  rcases mediumIdentityKey_eq_ok.mp isCurrent with
    ⟨currentSignals, currentText, currentPresents, currentCanonical, same⟩
  obtain rfl := utf8_injective (injective same)
  exact ⟨previousSignals, currentSignals, _, previousPresents, currentPresents,
    previousCanonical, currentCanonical⟩

theorem Matching.sameKey (matching : Matching runtime previous current) :
    ∃ key, mediumIdentityKey runtime previous = .ok key ∧
      mediumIdentityKey runtime current = .ok key := by
  rcases matching with ⟨previousSignals, currentSignals, canonical, previousPresents,
    currentPresents, previousCanonical, currentCanonical⟩
  exact ⟨_, mediumIdentityKey_eq_ok.mpr ⟨_, _, previousPresents, previousCanonical, rfl⟩,
    mediumIdentityKey_eq_ok.mpr ⟨_, _, currentPresents, currentCanonical, rfl⟩⟩

/-- Eligible media are verified exactly when those that match are of one reader and show their
fingerprints. -/
theorem verified_iff_matching_shown (injective : Function.Injective runtime.sha256Hex)
    (previous current : PyDict) :
    (∀ result, resumeEligibility runtime (.dict previous) current = .ok result →
      result.eligible = true → Verified previous current) ↔
    (Matching runtime previous current → previous.get "reader_id" = current.get "reader_id" ∧
      HasFingerprint previous ∧ HasFingerprint current) := by
  constructor
  · intro verified matching
    rcases matching.sameKey with ⟨key, isPrevious, isCurrent⟩
    rcases resumeEligibility_eligible.mpr ⟨key, isPrevious, isCurrent, rfl⟩ with
      ⟨returned, eligible⟩
    have facts := verified _ returned eligible
    exact ⟨facts.sameReader, facts.previousFingerprint, facts.currentFingerprint⟩
  · intro shown result returned eligible
    rcases resumeEligibility_eligible.mp ⟨returned, eligible⟩ with
      ⟨key, isPrevious, isCurrent, rfl⟩
    have matching := matching_of_sameKey injective isPrevious isCurrent
    rcases shown matching with ⟨sameReader, previousFingerprint, currentFingerprint⟩
    rcases matching with ⟨previousSignals, currentSignals, canonical, previousPresents,
      currentPresents, previousCanonical, currentCanonical⟩
    refine ⟨previousPresents.valid, currentPresents.valid, sameReader, ?_, previousFingerprint,
      currentFingerprint⟩
    rw [previousPresents.isSignals, currentPresents.isSignals]
    exact sameJson_of_mediumBasis previousCanonical currentCanonical

/-- The record of a medium of 1024 bytes. -/
def mediumRecord (fingerprint : PyValue) : PyDict := mediumIdentityRecord (.ofString "reader_1")
    (normalizeMediumSignals
      [(.str "size_bytes", .int 1024), (.str "sampled_fingerprint_sha256", fingerprint)])
    "reader-plus-medium" []

/-- The record of a medium whose sample was read. -/
def sampledMedium (digit : Char) : PyDict :=
  mediumRecord (.str (String.ofList (List.replicate 64 digit)))

/-- What is hashed of a medium. -/
def keyStream (record : PyDict) : List UInt8 :=
  ((toJson true Runtime.sample.recursionLimit (mediumBasis record (signalsOf record))).toOption.map
    fun json => json.render.flatMap String.utf8EncodeChar).getD []

/-- A medium checkpoint for concrete runs. -/
def NewMediumCheckpoint.sample : NewMediumCheckpoint where
  checkpointId := "ckpt-1"
  jobId := "job-1"
  mediumIdentity := sampledMedium 'a'
  stage := "inventory"
  toolName := "scanner"
  toolVersion := "1.0"
  cursor := [(.str "offset", .int 1)]
  counters := [(.str "files", .int 2)]
  blob := [7]
  createdAt := "2026-08-11T14:40:00Z"

/-- The key of its medium. -/
def sampleKey : String := "be1bb054b01a23e1d8dd2ba16bd94af42a6c5fbc8fa128f576f206c2942ba7d2"

def sampleFields : IntegrityFields where
  fingerprint := sampleKey
  stage := "inventory"
  checkpointVersion := mediumCheckpointVersion
  toolName := "scanner"
  toolVersion := "1.0"
  cursorJson := "\x7b\"offset\":1\x7d"
  countersJson := "\x7b\"files\":2\x7d"
  blob := [7]

/-- The digests of that checkpoint, its medium and a medium whose sample was not read. -/
def mediumDigests : List (List UInt8 × String) := [((integrityStream sampleFields).toOption.getD [],
      "b53d7d162435505a1b13602a9c69b871133604e8b2be0989e3ddf538e848b89c"),
    (keyStream (sampledMedium 'a'), sampleKey),
    (keyStream (mediumRecord .none),
      "6ce25236b363c0d1721d1f6374b1dc63fc8713b35d5071aae1bcdc114e6c2c60")]

def mediumRuntime : Runtime := { Runtime.sample with sha256Hex := hashing mediumDigests }

theorem mediumRuntime_injective : Function.Injective mediumRuntime.sha256Hex :=
  hashing_injective (by decide) (by decide)

theorem matching_self {record signals : PyDict} (presents : Presents record signals)
    (canonical : (canonicalJson runtime (mediumBasis record signals)).toOption.isSome = true) :
    Matching runtime record record := by
  rcases Option.isSome_iff_exists.mp canonical with ⟨text, isText⟩
  have isText := eq_ok_of_toOption isText
  exact ⟨signals, signals, text, presents, presents, isText, isText⟩

theorem presents_mediumRecord {fingerprint : PyValue} :
    Presents (mediumRecord fingerprint) (signalsOf (mediumRecord fingerprint)) where
  valid := by
    refine ⟨⟨true, []⟩, ?_, rfl⟩
    rfl
  isSignals := rfl
  plausibleSignals := rfl

theorem verified_of_sampledMedium :
    ∃ result, resumeEligibility mediumRuntime (.dict (sampledMedium 'a')) (sampledMedium 'a') =
      .ok result ∧ Verified (sampledMedium 'a') (sampledMedium 'a') := by
  have shown : HasFingerprint (sampledMedium 'a') := by
    unfold HasFingerprint
    decide
  have matching := @matching_self mediumRuntime _ _
    (@presents_mediumRecord (.str (String.ofList (List.replicate 64 'a')))) (by decide)
  rcases matching.sameKey with ⟨key, isPrevious, isCurrent⟩
  rcases resumeEligibility_eligible.mpr ⟨key, isPrevious, isCurrent, rfl⟩ with
    ⟨returned, eligible⟩
  exact ⟨_, returned, (verified_iff_matching_shown mediumRuntime_injective _ _).mpr
    (fun _ => ⟨rfl, shown, shown⟩) _ returned eligible⟩

/-- Two media without a readable sample are taken for one. -/
theorem unreadable_eligible : ¬∀ result, resumeEligibility mediumRuntime
    (.dict (mediumRecord .none)) (mediumRecord .none) = .ok result → result.eligible = true →
      Verified (mediumRecord .none) (mediumRecord .none) := by
  intro verified
  have matching := @matching_self mediumRuntime _ _ (@presents_mediumRecord .none)
    (by decide)
  rcases matching.sameKey with ⟨key, isPrevious, isCurrent⟩
  rcases resumeEligibility_eligible.mpr ⟨key, isPrevious, isCurrent, rfl⟩ with
    ⟨returned, eligible⟩
  have shown := (verified _ returned eligible).previousFingerprint
  revert shown
  unfold HasFingerprint
  decide

end MediumCheckpoints

end Reperio
