import Reperio.Checkpoints.Integrity
import Reperio.Hostd.Fingerprint
import Reperio.Python.JsonSameText

/-!
# What a fingerprint is of

The hash of a sampled fingerprint is that of its immutable facts, its two sizes and
the bytes of all its samples: another source has the same hash exactly when these
are the same.
-/

namespace Reperio.Hostd

open Python

/-! ## Normalising -/

theorem normalizeItems_eq_ok {limit : ℕ} {items normal : List PyValue}
    (normalized : normalizeItems limit items = .ok normal) :
    List.Forall₂ (fun item result => normalize limit item = .ok result) items normal := by
  induction items generalizing normal with
  | nil =>
    cases normalized
    exact .nil
  | cons item items ih =>
    rcases bind_eq_ok normalized with ⟨first, isFirst, normalized⟩
    rcases bind_eq_ok normalized with ⟨rest, isRest, normalized⟩
    cases normalized
    exact .cons isFirst (ih isRest)

theorem normalizeValues_eq_map (limit : ℕ) (items : List (PyValue × PyValue)) :
    normalizeValues limit items = items.map fun item => (item.1, normalize limit item.2) := by
  induction items with
  | nil => rfl
  | cons item items ih => rw [normalizeValues, ih, List.map_cons]

theorem sortedOn_text {α : Type} {items sorted : List (PyValue × α)}
    (textKeys : ∀ item ∈ items, ∃ points, item.1 = .text points)
    (isSorted : sortedOn PyValue.lt? Prod.fst items = .ok sorted) :
    sorted = items.insertionSort PyValue.KeyLe := by
  unfold sortedOn at isSorted
  split at isSorted
  · rw [← Except.ok.inj isSorted]
    have same := List.map_insertionSort (fun first second : PyValue × α =>
      PyValue.lt? second.1 first.1 ≠ some true) PyValue.KeyLe id items fun first isFirst second
      isSecond => by
        rcases textKeys first isFirst with ⟨points, isText⟩
        rcases textKeys second isSecond with ⟨others, isOther⟩
        rw [PyValue.KeyLe, id_eq, id_eq, isText, isOther, PyValue.lt?]
        simp [PyValue.sortKey, SortKey.le]
    rwa [List.map_id, List.map_id] at same
  · cases isSorted

/-- `_normalize` puts the items of dictionaries in the order of their keys. -/
theorem normalize_eq_ok {value : PyValue} : ∀ {limit normal}, value.Everywhere PyValue.TextKeys →
    normalize limit value = .ok normal → normal = value.inKeyOrder := by
  induction value using PyValue.induct with
  | leaf value isLeaf =>
    intro limit normal _ normalized
    rw [isLeaf.inKeyOrder]
    cases isLeaf with
    | _ => cases limit <;> exact (Except.ok.inj normalized).symm
  | list items ih =>
    intro limit normal textKeys normalized
    rw [PyValue.everywhere_list_iff] at textKeys
    rcases limit with _ | limit
    · cases normalized
    rcases bind_eq_ok normalized with ⟨results, areResults, normalized⟩
    cases normalized
    rw [PyValue.inKeyOrder, PyValue.inKeyOrderItems_eq_map, PyValue.list.injEq,
      ← List.map_id results]
    exact map_eq_map_of_forall₂ (normalizeItems_eq_ok areResults)
      fun item isItem result isResult => ih item isItem (textKeys.2 item isItem) isResult
  | dict items ih =>
    intro limit normal textKeys normalized
    rw [PyValue.everywhere_dict_iff] at textKeys
    rcases limit with _ | limit
    · cases normalized
    rcases bind_eq_ok normalized with ⟨sorted, isSorted, normalized⟩
    rcases bind_eq_ok normalized with ⟨results, areResults, normalized⟩
    cases normalized
    rw [normalizeValues_eq_map] at isSorted
    have keys : ∀ item ∈ items.map fun item => (item.1, normalize limit item.2),
        ∃ points, item.1 = .text points := List.forall_mem_map.mpr textKeys.1
    have sorts := List.map_insertionSort PyValue.KeyLe PyValue.KeyLe
      (fun item : PyValue × PyValue => (item.1, normalize limit item.2)) items
      fun _ _ _ _ => Iff.rfl
    rw [sortedOn_text keys isSorted, ← sorts, List.mapM_map] at areResults
    rw [PyValue.inKeyOrder_dict, PyValue.dict.injEq, ← List.map_id results]
    refine map_eq_map_of_forall₂ (forall₂_of_mapM_ok areResults) fun item isItem result
      isResult => ?_
    rw [List.mem_insertionSort] at isItem
    rcases bind_eq_ok isResult with ⟨value, isValue, isResult⟩
    cases isResult
    exact Prod.ext rfl ((ih item isItem).2 (textKeys.2 item isItem).2 isValue)

variable {hash firstHash secondHash : String} {identityFacts facts : PyDict} {sector : ℕ}
    {source : Source} {result firstResult secondResult : SampledFingerprint} {model : PyValue}

namespace Fingerprint

variable {runtime : Runtime}

/-! ## Hashes -/

theorem digestOf_eq_ok {value : PyValue} (textKeys : value.Everywhere PyValue.TextKeys)
    (isHash : digestOf runtime value = .ok hash) :
    ∃ text, dumps false runtime.recursionLimit value = .ok text ∧
    hash = runtime.sha256Hex (utf8 text) := by
  rcases bind_eq_ok isHash with ⟨normal, normalized, isHash⟩
  rcases bind_eq_ok isHash with ⟨text, written, isHash⟩
  cases isHash
  obtain rfl := normalize_eq_ok textKeys (mapError_eq_ok.mp normalized)
  have written := mapError_eq_ok.mp written
  rw [dumps, toJson_inKeyOrder textKeys] at written
  exact ⟨text, written, rfl⟩

/-- Different values have different hashes, as far as they are written differently. -/
theorem digestOf_eq_iff (injective : Function.Injective runtime.sha256Hex) {first second : PyValue}
    (firstPlain : first.Everywhere PyValue.PlainKeys)
    (secondPlain : second.Everywhere PyValue.PlainKeys)
    (isFirst : digestOf runtime first = .ok firstHash)
    (isSecond : digestOf runtime second = .ok secondHash) :
    firstHash = secondHash ↔ first.joinText.Same second.joinText := by
  rcases digestOf_eq_ok (firstPlain.imp fun _ => PyValue.PlainKeys.textKeys) isFirst with
    ⟨firstText, firstWritten, rfl⟩
  rcases digestOf_eq_ok (secondPlain.imp fun _ => PyValue.PlainKeys.textKeys) isSecond with
    ⟨secondText, secondWritten, rfl⟩
  rw [injective.eq_iff, utf8_injective.eq_iff]
  exact dumps_eq_iff firstPlain secondPlain firstWritten secondWritten

/-! ## Facts -/

/-- A value of JSON without parts. -/
def IsScalar : PyValue → Prop
  | .list _ => False
  | .dict _ => False
  | .other => False
  | _ => True

def HasScalarFacts (identityFacts : PyDict) : Prop :=
  ∀ key ∈ immutableFactKeys, IsScalar (identityFacts.get key)

theorem IsScalar.everywhere {value : PyValue} (scalar : IsScalar value) :
    value.Everywhere PyValue.PlainKeys := by
  cases value with
  | list items => exact absurd scalar id
  | dict items => exact absurd scalar id
  | _ => trivial

theorem IsScalar.inKeyOrder {value : PyValue} (scalar : IsScalar value) :
    value.inKeyOrder = value := by
  cases value with
  | list items => exact absurd scalar id
  | dict items => exact absurd scalar id
  | _ => rfl

/-- A dictionary of scalars under different keys that are read as they are. -/
structure IsFacts (facts : PyDict) : Prop where
  plain : (PyValue.dict facts).PlainKeys
  scalar : ∀ fact ∈ facts, IsScalar fact.2

theorem isFacts_chosenFacts (scalar : HasScalarFacts identityFacts) (size sector : ℕ) :
    IsFacts (chosenFacts identityFacts size sector) := by
  have chosen : ∀ fact ∈ chosenFacts identityFacts size sector,
      ∃ key, fact.1 = .str key ∧ IsScalar fact.2 := by
    refine List.forall_mem_append.mpr ⟨fun fact member => ?_, ?_⟩
    · rcases List.mem_filterMap.mp member with ⟨key, isKey, found⟩
      rcases Option.map_eq_some_iff.mp found with ⟨value, isValue, rfl⟩
      have isScalar := scalar key isKey
      rw [PyDict.get, isValue] at isScalar
      exact ⟨key, rfl, isScalar⟩
    · simp [IsScalar]
  have keys : ∀ names : List String, ((names.filterMap fun key =>
      (identityFacts.get? key).map fun value => (PyValue.str key, value)).map Prod.fst).Sublist
        (names.map .str) := by
    intro names
    induction names with
    | nil => exact .refl _
    | cons name names ih =>
      rw [List.filterMap_cons, List.map_cons]
      cases identityFacts.get? name with
      | none => exact ih.cons _
      | some value => exact ih.cons_cons _
  refine ⟨⟨fun fact member => ?_, ?_⟩, fun fact member => ?_⟩
  · rcases chosen fact member with ⟨key, isKey, _⟩
    exact ⟨.ofString key, isKey, PyStr.joined_ofString key⟩
  · rw [chosenFacts, List.map_append]
    refine List.Nodup.sublist ((keys immutableFactKeys).append (.refl _)) ?_
    change ((immutableFactKeys ++ ["size_bytes", "logical_block_size"]).map PyValue.str).Nodup
    exact List.Nodup.map PyValue.str_injective (by decide)
  · rcases chosen fact member with ⟨key, _, isScalar⟩
    exact isScalar

theorem IsFacts.everywhere (isFacts : IsFacts facts) :
    (PyValue.dict facts).Everywhere PyValue.PlainKeys := by
  rw [PyValue.everywhere_dict_iff]
  refine ⟨isFacts.plain, fun fact member => ⟨?_, (isFacts.scalar fact member).everywhere⟩⟩
  rcases isFacts.plain.1 fact member with ⟨points, isText, _⟩
  rw [isText]
  trivial

theorem IsFacts.sorted (isFacts : IsFacts facts) : IsFacts (facts.insertionSort PyValue.KeyLe) := by
  have perm := List.perm_insertionSort PyValue.KeyLe facts
  refine ⟨⟨fun fact member => isFacts.plain.1 fact (perm.mem_iff.mp member), ?_⟩,
    fun fact member => isFacts.scalar fact (perm.mem_iff.mp member)⟩
  exact (perm.map Prod.fst).nodup_iff.mpr isFacts.plain.2

theorem immutableFacts_eq_ok (scalar : HasScalarFacts identityFacts) {size : ℕ}
    (isOk : immutableFacts runtime identityFacts size sector = .ok facts) :
    facts = (chosenFacts identityFacts size sector).insertionSort PyValue.KeyLe := by
  have isFacts := isFacts_chosenFacts scalar size sector
  have textKeys := isFacts.everywhere.imp fun _ => PyValue.PlainKeys.textKeys
  rcases bind_eq_ok isOk with ⟨normal, normalized, isOk⟩
  obtain rfl := normalize_eq_ok textKeys (mapError_eq_ok.mp normalized)
  rw [PyValue.inKeyOrder_dict] at isOk
  rw [← Except.ok.inj isOk]
  refine (List.map_congr_left fun fact member => ?_).trans (List.map_id _)
  exact Prod.ext rfl (isFacts.scalar fact ((List.mem_insertionSort _).mp member)).inKeyOrder

theorem get?_immutableFacts (scalar : HasScalarFacts identityFacts) {size : ℕ}
    (isOk : immutableFacts runtime identityFacts size sector = .ok facts) (name : String) :
    facts.get? name = (chosenFacts identityFacts size sector).get? name := by
  rw [immutableFacts_eq_ok scalar isOk]
  exact PyDict.get?_of_perm (List.perm_insertionSort _ _)
    (isFacts_chosenFacts scalar size sector).sorted.plain.2 name

theorem get?_size (scalar : HasScalarFacts identityFacts) {size : ℕ}
    (isOk : immutableFacts runtime identityFacts size sector = .ok facts) :
    facts.get? "size_bytes" = some (.int size) ∧
    facts.get? "logical_block_size" = some (.int sector) := by
  have isFacts := isFacts_chosenFacts scalar size sector
  rw [get?_immutableFacts scalar isOk, get?_immutableFacts scalar isOk,
    PyDict.get?_eq_some_iff isFacts.plain.2, PyDict.get?_eq_some_iff isFacts.plain.2]
  simp [chosenFacts]

/-- The same facts have the same value under a key. -/
theorem get?_of_same {first second : PyDict} (isFirst : IsFacts first) (isSecond : IsFacts second)
    (same : (PyValue.dict first).joinText.Same (PyValue.dict second).joinText) (name : String) :
    (first.get? name).map (fun value => value.joinText.inKeyOrder) =
      (second.get? name).map fun value => value.joinText.inKeyOrder := by
  have values : ∀ {facts : PyDict}, IsFacts facts →
      PyDict.get? ((facts.insertionSort PyValue.KeyLe).map fun fact =>
        (fact.1, fact.2.joinText.inKeyOrder)) name =
          (facts.get? name).map fun value => value.joinText.inKeyOrder := by
    intro facts isFacts
    rw [← PyDict.get?_of_perm (List.perm_insertionSort _ _) isFacts.sorted.plain.2]
    exact PyDict.get?_map (fun value => value.joinText.inKeyOrder) _ name
  rw [PyValue.Same, PyValue.joinText_inKeyOrder_dict isFirst.plain,
    PyValue.joinText_inKeyOrder_dict isSecond.plain, PyValue.dict.injEq] at same
  rw [← values isFirst, ← values isSecond, same]

/-! ## Samples -/

theorem everywhere_toDict (sample : Sample) :
    (PyValue.dict sample.toDict).Everywhere PyValue.PlainKeys := by
  have each : ∀ names : List String, names.Nodup → ∀ values : List PyValue,
      (∀ value ∈ values, IsScalar value) → (names.map PyValue.str).length ≤ values.length →
        (PyValue.dict ((names.map .str).zip values)).Everywhere PyValue.PlainKeys := by
    intro names distinct values scalar long
    refine IsFacts.everywhere ⟨⟨fun fact member => ?_, ?_⟩, fun fact member => ?_⟩
    · rcases List.mem_map.mp (List.of_mem_zip member).1 with ⟨name, _, isName⟩
      exact ⟨.ofString name, isName.symm, PyStr.joined_ofString name⟩
    · rw [List.map_fst_zip long]
      exact distinct.map PyValue.str_injective
    · exact scalar _ (List.of_mem_zip member).2
  cases sample with
  | unreadable offset length error =>
    exact each ["offset", "length", "status", "error"] (by decide)
      [.int offset, .int length, .str "unreadable", .str error] (by simp [IsScalar, PyValue.str])
      (Nat.le_refl _)
  | invalidReadResult offset length =>
    exact each ["offset", "length", "status"] (by decide)
      [.int offset, .int length, .str "invalid_read_result"] (by simp [IsScalar, PyValue.str])
      (Nat.le_refl _)
  | overlong offset length readLength =>
    exact each ["offset", "length", "status", "read_length"] (by decide)
      [.int offset, .int length, .str "overlong", .int readLength]
      (by simp [IsScalar, PyValue.str]) (Nat.le_refl _)
  | truncated offset length readLength sha256 =>
    exact each ["offset", "length", "status", "read_length", "sha256"] (by decide)
      [.int offset, .int length, .str "truncated", .int readLength, .str sha256]
      (by simp [IsScalar, PyValue.str]) (Nat.le_refl _)
  | ok offset length sha256 =>
    exact each ["offset", "length", "status", "sha256"] (by decide)
      [.int offset, .int length, .str "ok", .str sha256] (by simp [IsScalar, PyValue.str])
      (Nat.le_refl _)

theorem joinText_str (text : String) : (PyValue.str text).joinText = .str text :=
  congrArg PyValue.text (PyStr.joined_ofString text)

theorem joinText_ok (offset length : ℕ) (sha256 : String) :
    (PyValue.dict (Sample.ok offset length sha256).toDict).joinText.inKeyOrder =
      .dict [(.str "length", .int length), (.str "offset", .int offset),
        (.str "sha256", .str sha256), (.str "status", .str "ok")] := by
  have plain := ((PyValue.everywhere_dict_iff).mp (everywhere_toDict (.ok offset length sha256))).1
  rw [PyValue.joinText_inKeyOrder_dict plain]
  change PyValue.dict [(.str "length", .int length), (.str "offset", .int offset),
    (.str "sha256", (PyValue.str sha256).joinText.inKeyOrder),
    (.str "status", (PyValue.str "ok").joinText.inKeyOrder)] = _
  rw [joinText_str, joinText_str]
  rfl

theorem joinText_list (values : List PyValue) : (PyValue.list values).joinText.inKeyOrder =
      .list (values.map fun value => value.joinText.inKeyOrder) := by
  rw [PyValue.joinText, PyValue.joinTextItems_eq_map, PyValue.inKeyOrder,
    PyValue.inKeyOrderItems_eq_map,
    List.map_map]
  rfl

theorem everywhere_hashedValue (isFacts : IsFacts facts) (samples : List Sample) :
    (hashedValue facts samples).Everywhere PyValue.PlainKeys := by
  have keys :
      (PyValue.dict [(.str "algorithm", .str fingerprintAlgorithm), (.str "facts", .dict facts),
      (.str "samples", .list (samples.map fun sample => .dict sample.toDict))]).PlainKeys := by
    refine ⟨by simp [PyValue.str, PyStr.joined_ofString], ?_⟩
    change (["algorithm", "facts", "samples"].map PyValue.str).Nodup
    exact List.Nodup.map PyValue.str_injective (by decide)
  refine ⟨keys, trivial, trivial, trivial, isFacts.everywhere, trivial, ?_, trivial⟩
  rw [PyValue.everywhere_list_iff, List.forall_mem_map]
  exact ⟨trivial, fun sample _ => everywhere_toDict sample⟩

theorem joinText_hashedValue (isFacts : IsFacts facts) (samples : List Sample) :
    (hashedValue facts samples).joinText.inKeyOrder =
      .dict [(.str "algorithm", .str fingerprintAlgorithm),
        (.str "facts", (PyValue.dict facts).joinText.inKeyOrder),
        (.str "samples", .list (samples.map fun sample =>
          (PyValue.dict sample.toDict).joinText.inKeyOrder))] := by
  have plain := (PyValue.everywhere_dict_iff.mp (everywhere_hashedValue isFacts samples)).1
  rw [hashedValue, PyValue.joinText_inKeyOrder_dict plain]
  change PyValue.dict [(.str "algorithm", (PyValue.str fingerprintAlgorithm).joinText.inKeyOrder),
    (.str "facts", (PyValue.dict facts).joinText.inKeyOrder),
    (.str "samples",
    (PyValue.list (samples.map fun sample => .dict sample.toDict)).joinText.inKeyOrder)] = _
  rw [joinText_str, joinText_list, List.map_map]
  rfl

theorem eq_ok_of_isOk {sample : Sample} (isOk : sample.isOk = true) :
    ∃ offset length sha256, sample = .ok offset length sha256 := by
  cases sample with
  | ok offset length sha256 => exact ⟨offset, length, sha256, rfl⟩
  | _ => cases isOk

theorem map_joinText_eq_iff {firsts seconds : List Sample}
    (firstsOk : ∀ sample ∈ firsts, sample.isOk = true)
    (secondsOk : ∀ sample ∈ seconds, sample.isOk = true) :
    (firsts.map fun sample => (PyValue.dict sample.toDict).joinText.inKeyOrder) =
      (seconds.map fun sample => (PyValue.dict sample.toDict).joinText.inKeyOrder) ↔
      firsts = seconds := by
  constructor
  · intro same
    induction firsts generalizing seconds with
    | nil =>
      rw [List.map_nil, eq_comm, List.map_eq_nil_iff] at same
      exact same.symm
    | cons first firsts ih =>
      cases seconds with
      | nil => cases same
      | cons second seconds =>
        rw [List.map_cons, List.map_cons, List.cons.injEq] at same
        rcases List.forall_mem_cons.mp firstsOk with ⟨firstOk, firstsOk⟩
        rcases List.forall_mem_cons.mp secondsOk with ⟨secondOk, secondsOk⟩
        rw [ih firstsOk secondsOk same.2]
        rcases eq_ok_of_isOk firstOk with ⟨offset, length, sha256, rfl⟩
        rcases eq_ok_of_isOk secondOk with ⟨otherOffset, otherLength, otherSha256, rfl⟩
        have fields := same.1
        rw [joinText_ok, joinText_ok] at fields
        simp only [PyValue.dict.injEq, List.cons.injEq, Prod.mk.injEq, PyValue.int.injEq,
          Nat.cast_inj, PyValue.str_injective.eq_iff, true_and, and_true] at fields
        rw [fields.1, fields.2.1, fields.2.2]
  · rintro rfl
    rfl

theorem readSample_eq_ok {readAt : ℕ → ℕ → ReadResult} {offset length : ℕ}
    (isOk : (readSample runtime readAt offset length).isOk = true) :
    ∃ data, readAt offset length = .bytes data ∧ data.length = length ∧
      readSample runtime readAt offset length = .ok offset length (runtime.sha256Hex data) := by
  unfold readSample at isOk ⊢
  cases result : readAt offset length with
  | raised error =>
    rw [result] at isOk
    cases isOk
  | other =>
    rw [result] at isOk
    cases isOk
  | bytes data =>
    rw [result] at isOk
    dsimp only at isOk ⊢
    split at isOk
    · cases isOk
    · split at isOk
      · cases isOk
      · rename_i notLonger notShorter
        rw [if_neg notLonger, if_neg notShorter]
        exact ⟨data, rfl, not_not.mp notShorter, rfl⟩

/-! ## Fingerprints -/

theorem checkedInt_eq_ok {least : ℤ} {message : String} {value : PyValue} {number : ℕ}
    (isOk : checkedInt least message value = .ok number) (notNegative : 0 ≤ least) :
    value = .int number ∧ least ≤ number := by
  unfold checkedInt at isOk
  split at isOk
  · split at isOk
    · cases isOk
    · cases isOk
      rw [PyValue.int.injEq]
      omega
  · cases isOk

theorem checkedInt_int {least : ℤ} {message : String} {number : ℕ} (reached : least ≤ number) :
    checkedInt least message (.int number) = .ok number :=
  if_neg (not_lt.mpr reached)

theorem validateDimensions_eq_ok {sizeBytes sectorSize : PyValue} {size : ℕ}
    (isOk : validateDimensions sizeBytes sectorSize = .ok (size, sector)) :
    sizeBytes = .int size ∧ sectorSize = .int sector ∧ 0 < sector ∧ sector ≤ maxSectorSize := by
  rcases bind_eq_ok isOk with ⟨number, isSize, isOk⟩
  rcases bind_eq_ok isOk with ⟨count, isSector, isOk⟩
  split at isOk
  · cases isOk
  · rename_i notLarge
    cases isOk
    have sizes := checkedInt_eq_ok isSize (Int.le_refl 0)
    have sectors := checkedInt_eq_ok isSector (by decide)
    exact ⟨sizes.1, sectors.1, by omega, not_lt.mp notLarge⟩

theorem validateDimensions_int {size : ℕ} (positive : 0 < sector) (small : sector ≤ maxSectorSize) :
    validateDimensions (.int size) (.int sector) = .ok (size, sector) := by
  rw [validateDimensions, checkedInt_int (by omega), checkedInt_int (by omega)]
  exact if_neg (not_lt.mpr small)

theorem samplePlan_int {size : ℕ} (positive : 0 < sector) (small : sector ≤ maxSectorSize) :
    samplePlan (.int size) (.int sector) = .ok (planRanges size sector) := by
  rw [samplePlan, validateDimensions_int positive small]
  rfl

/-- What a fingerprint with a hash says of its source. -/
structure IsFingerprint (runtime : Runtime) (source : Source) (result : SampledFingerprint)
    (hash : String) : Prop where
  size : source.sizeBytes = .int result.sizeBytes
  sector : source.sectorSize = .int result.sectorSize
  positive : 0 < result.sectorSize
  small : result.sectorSize ≤ maxSectorSize
  samples : result.samples = (planRanges result.sizeBytes result.sectorSize).map
    fun range => readSample runtime source.readAt range.1 range.2
  samplesOk : ∀ sample ∈ result.samples, sample.isOk = true
  facts : immutableFacts runtime source.identityFacts result.sizeBytes result.sectorSize =
    .ok result.immutableFacts
  hash : digestOf runtime (hashedValue result.immutableFacts result.samples) = .ok hash

theorem isFingerprint (isResult : fingerprintFromReader runtime source = .ok result)
    (isHash : result.fingerprintHash = some hash) : IsFingerprint runtime source result hash := by
  rcases bind_eq_ok isResult with ⟨⟨size, sector⟩, dimensions, isResult⟩
  rcases bind_eq_ok isResult with ⟨plan, isPlan, isResult⟩
  rcases bind_eq_ok isResult with ⟨facts, areFacts, isResult⟩
  rcases bind_eq_ok isResult with ⟨found, isFound, isResult⟩
  cases isResult
  dsimp only at isHash
  subst isHash
  rcases validateDimensions_eq_ok dimensions with ⟨isSize, isSector, positive, small⟩
  rw [isSize, isSector, samplePlan_int positive small] at isPlan
  cases isPlan
  unfold hashOf at isFound
  split at isFound
  · rename_i complete
    rw [isComplete, Bool.and_eq_true, List.all_eq_true] at complete
    rw [map_eq_pure_bind] at isFound
    rcases bind_eq_ok isFound with ⟨digest, isDigest, isSome⟩
    cases isSome
    exact ⟨isSize, isSector, positive, small, rfl, complete.2, areFacts, isDigest⟩
  · cases isFound

theorem IsFingerprint.isFacts (fingerprint : IsFingerprint runtime source result hash)
    (scalar : HasScalarFacts source.identityFacts) : IsFacts result.immutableFacts := by
  rw [immutableFacts_eq_ok scalar fingerprint.facts]
  exact (isFacts_chosenFacts scalar result.sizeBytes result.sectorSize).sorted

/-- Every planned range was read in full. -/
theorem IsFingerprint.bytes (fingerprint : IsFingerprint runtime source result hash) :
    ∀ range ∈ planRanges result.sizeBytes result.sectorSize, ∃ data,
      source.readAt range.1 range.2 = .bytes data ∧ data.length = range.2 ∧
        readSample runtime source.readAt range.1 range.2 =
          .ok range.1 range.2 (runtime.sha256Hex data) := by
  intro range isRange
  refine readSample_eq_ok (fingerprint.samplesOk _ ?_)
  rw [fingerprint.samples]
  exact List.mem_map_of_mem isRange

theorem IsFingerprint.sameSamples_iff (injective : Function.Injective runtime.sha256Hex)
    {first second : Source} (isFirst : IsFingerprint runtime first firstResult firstHash)
    (isSecond : IsFingerprint runtime second secondResult secondHash)
    (sameSize : firstResult.sizeBytes = secondResult.sizeBytes)
    (sameSector : firstResult.sectorSize = secondResult.sectorSize) :
    firstResult.samples = secondResult.samples ↔
      ∀ range ∈ planRanges firstResult.sizeBytes firstResult.sectorSize,
        first.readAt range.1 range.2 = second.readAt range.1 range.2 := by
  rw [isFirst.samples, isSecond.samples, ← sameSize, ← sameSector, List.map_inj_left]
  refine forall₂_congr fun range isRange => ?_
  rcases isFirst.bytes range isRange with ⟨data, isData, _, isSample⟩
  rw [sameSize, sameSector] at isRange
  rcases isSecond.bytes range isRange with ⟨others, areOthers, _, isOther⟩
  rw [isSample, isOther, isData, areOthers]
  simp only [Sample.ok.injEq, true_and, ReadResult.bytes.injEq]
  exact injective.eq_iff

theorem IsFingerprint.hash_eq_iff (injective : Function.Injective runtime.sha256Hex)
    {first second : Source} (firstScalar : HasScalarFacts first.identityFacts)
    (secondScalar : HasScalarFacts second.identityFacts)
    (isFirst : IsFingerprint runtime first firstResult firstHash)
    (isSecond : IsFingerprint runtime second secondResult secondHash) :
    firstHash = secondHash ↔ (PyValue.dict firstResult.immutableFacts).joinText.Same
        (PyValue.dict secondResult.immutableFacts).joinText ∧
      firstResult.sizeBytes = secondResult.sizeBytes ∧
      firstResult.sectorSize = secondResult.sectorSize ∧
      ∀ range ∈ planRanges firstResult.sizeBytes firstResult.sectorSize,
        first.readAt range.1 range.2 = second.readAt range.1 range.2 := by
  have firstFacts := isFirst.isFacts firstScalar
  have secondFacts := isSecond.isFacts secondScalar
  have hashed : firstHash = secondHash ↔ (PyValue.dict firstResult.immutableFacts).joinText.Same
        (PyValue.dict secondResult.immutableFacts).joinText ∧
      firstResult.samples = secondResult.samples := by
    rw [digestOf_eq_iff injective (everywhere_hashedValue firstFacts _)
      (everywhere_hashedValue secondFacts _)
      isFirst.hash isSecond.hash, PyValue.Same, PyValue.Same, joinText_hashedValue firstFacts,
      joinText_hashedValue secondFacts, ← map_joinText_eq_iff isFirst.samplesOk isSecond.samplesOk]
    simp only [PyValue.dict.injEq, List.cons.injEq, Prod.mk.injEq, true_and, and_true,
      PyValue.list.injEq]
  -- the two sizes are among the facts
  have sizes : (PyValue.dict firstResult.immutableFacts).joinText.Same
      (PyValue.dict secondResult.immutableFacts).joinText →
        firstResult.sizeBytes = secondResult.sizeBytes ∧
          firstResult.sectorSize = secondResult.sectorSize := by
    intro same
    have bySize := get?_of_same firstFacts secondFacts same "size_bytes"
    have bySector := get?_of_same firstFacts secondFacts same "logical_block_size"
    rw [(get?_size firstScalar isFirst.facts).1,
      (get?_size secondScalar isSecond.facts).1] at bySize
    rw [(get?_size firstScalar isFirst.facts).2,
      (get?_size secondScalar isSecond.facts).2] at bySector
    exact ⟨Int.ofNat.inj (PyValue.int.inj (Option.some.inj bySize)),
      Int.ofNat.inj (PyValue.int.inj (Option.some.inj bySector))⟩
  rw [hashed]
  constructor
  · rintro ⟨same, sameSamples⟩
    rcases sizes same with ⟨sameSize, sameSector⟩
    exact ⟨same, sameSize, sameSector,
      (sameSamples_iff injective isFirst isSecond sameSize sameSector).mp sameSamples⟩
  · rintro ⟨same, sameSize, sameSector, sameBytes⟩
    exact ⟨same, (sameSamples_iff injective isFirst isSecond sameSize sameSector).mpr sameBytes⟩

/-- The plans are right, a hash is of all planned bytes, and two sources have the same hash exactly
when their facts, sizes and sampled bytes are the same. -/
theorem hash_of_samples (injective : Function.Injective runtime.sha256Hex) :
    (∀ size sector : ℕ, 0 < sector → sector ≤ maxSectorSize → ∃ plan,
      samplePlan (.int size) (.int sector) = .ok plan ∧ IsSamplePlan size sector plan) ∧
    (∀ source result hash, fingerprintFromReader runtime source = .ok result →
      result.fingerprintHash = some hash → ∃ plan,
        samplePlan source.sizeBytes source.sectorSize = .ok plan ∧
        ∀ range ∈ plan, ∃ data, source.readAt range.1 range.2 = .bytes data ∧
          data.length = range.2) ∧
    ∀ first second firstResult secondResult firstHash secondHash,
      HasScalarFacts first.identityFacts → HasScalarFacts second.identityFacts →
      fingerprintFromReader runtime first = .ok firstResult →
      fingerprintFromReader runtime second = .ok secondResult →
      firstResult.fingerprintHash = some firstHash →
        secondResult.fingerprintHash = some secondHash →
      (firstHash = secondHash ↔ (PyValue.dict firstResult.immutableFacts).joinText.Same
          (PyValue.dict secondResult.immutableFacts).joinText ∧
        firstResult.sizeBytes = secondResult.sizeBytes ∧
        firstResult.sectorSize = secondResult.sectorSize ∧
        ∀ range ∈ planRanges firstResult.sizeBytes firstResult.sectorSize,
          first.readAt range.1 range.2 = second.readAt range.1 range.2) := by
  refine ⟨?_, ?_, ?_⟩
  · intro size sector positive small
    exact ⟨_, samplePlan_int positive small, isSamplePlan_planRanges positive⟩
  · intro source result hash isResult isHash
    have fingerprint := isFingerprint isResult isHash
    rw [fingerprint.size, fingerprint.sector]
    refine ⟨_, samplePlan_int fingerprint.positive fingerprint.small, fun range isRange => ?_⟩
    rcases fingerprint.bytes range isRange with ⟨data, isData, isLength, _⟩
    exact ⟨data, isData, isLength⟩
  · intro first second firstResult secondResult firstHash secondHash firstScalar secondScalar
      isFirst isSecond isFirstHash isSecondHash
    exact IsFingerprint.hash_eq_iff injective firstScalar secondScalar
      (isFingerprint isFirst isFirstHash)
      (isFingerprint isSecond isSecondHash)

/-! A source of bytes in sectors of one byte, and the digests of what is hashed of it. -/

def smallSource (data : List UInt8) (model : PyValue) : Source where
  readAt offset length := .bytes ((data.drop offset).take length)
  sizeBytes := .int data.length
  sectorSize := .int 1
  identityFacts := [(.str "model", model)]

def surrogates : PyValue := .text [⟨0xD83D, by decide⟩, ⟨0xDE00, by decide⟩]

def face : PyValue := .text [⟨0x1F600, by decide⟩]

/-- What is hashed of the disk below. -/
def diskText : String := "\x7b\"algorithm\":\"reperio-sampled-sector-sha256-v2\",\"facts\":" ++
    "\x7b\"logical_block_size\":1,\"model\":\"Disk\",\"size_bytes\":6\x7d,\"samples\":[" ++
    "\x7b\"length\":1,\"offset\":0,\"sha256\":" ++
    "\"4bf5122f344554c53bde2ebb8cd2b7e3d1600ad631c385a5d7cce23c7785459a\",\"status\":\"ok\"\x7d," ++
    "\x7b\"length\":1,\"offset\":3,\"sha256\":" ++
    "\"e52d9c508c502347344d8c07ad91cbd6068afc75ff6292f062a09ca381c89e71\",\"status\":\"ok\"\x7d," ++
    "\x7b\"length\":1,\"offset\":5,\"sha256\":" ++
    "\"67586e98fad27da0b9968bc039a1ef34c939b9b8e523a8bef89d478608c5ecf6\",\"status\":\"ok\"\x7d]\x7d"

def faceText : String := "\x7b\"algorithm\":\"reperio-sampled-sector-sha256-v2\",\"facts\":" ++
    "\x7b\"logical_block_size\":1,\"model\":\"\\ud83d\\ude00\",\"size_bytes\":2\x7d,\"samples\":[" ++
    "\x7b\"length\":1,\"offset\":0,\"sha256\":" ++
    "\"4bf5122f344554c53bde2ebb8cd2b7e3d1600ad631c385a5d7cce23c7785459a\",\"status\":\"ok\"\x7d]\x7d"

def smallDigests : List (List UInt8 × String) :=
  [([1], "4bf5122f344554c53bde2ebb8cd2b7e3d1600ad631c385a5d7cce23c7785459a"),
    ([4], "e52d9c508c502347344d8c07ad91cbd6068afc75ff6292f062a09ca381c89e71"),
    ([6], "67586e98fad27da0b9968bc039a1ef34c939b9b8e523a8bef89d478608c5ecf6"),
    (utf8 diskText, "2af85c18583112ce9a2b8c9d29f38dea6ce86de6bf082343b8be13c66eb74839"),
    (utf8 faceText, "4555476fd088e119dab87d68a765d76c9d8a9a6283143a0ec965bc1c0245329b")]

def smallRuntime : Runtime := { Runtime.sample with sha256Hex := hashing smallDigests }

theorem injective_small : Function.Injective smallRuntime.sha256Hex :=
  hashing_injective (by decide) (by decide)

theorem scalar_small (data : List UInt8) (scalar : IsScalar model) :
    HasScalarFacts (smallSource data model).identityFacts := by
  intro key _
  by_cases isModel : PyValue.str "model" = .str key
  · obtain rfl := PyValue.str_injective isModel
    rwa [PyDict.get, smallSource, PyDict.get?_cons_self]
  · rw [PyDict.get, smallSource, PyDict.get?_cons_of_ne isModel]
    trivial

theorem fingerprint_small {data : List UInt8} {samples : List Sample} {text : String}
    (complete : isComplete samples = true)
    (areSamples : (planRanges data.length 1).map (fun range =>
      readSample smallRuntime (smallSource data model).readAt range.1 range.2) = samples)
    (areFacts : immutableFacts smallRuntime (smallSource data model).identityFacts data.length 1 =
    .ok facts)
    (written : normalize 10000 (hashedValue facts samples) >>= dumps false 10000 = .ok text) :
    ∃ result, fingerprintFromReader smallRuntime (smallSource data model) = .ok result ∧
      result.fingerprintHash = some (smallRuntime.sha256Hex (utf8 text)) := by
  rcases bind_eq_ok written with ⟨normal, isNormal, isText⟩
  have isHash : hashOf smallRuntime facts samples = .ok
      (some (smallRuntime.sha256Hex (utf8 text))) := by
    rw [hashOf, if_pos complete, digestOf, normalizeFacts, smallRuntime, Runtime.sample, isNormal]
    change some <$> ((dumps false 10000 normal).mapError FingerprintError.python >>= _) = _
    rw [isText]
    rfl
  have dimensions : validateDimensions (smallSource data model).sizeBytes (.int (1 : ℕ)) = .ok
      (data.length, 1) :=
    validateDimensions_int Nat.one_pos (by decide)
  have isPlan : samplePlan (smallSource data model).sizeBytes (.int (1 : ℕ)) = .ok
      (planRanges data.length 1) :=
    samplePlan_int Nat.one_pos (by decide)
  refine ⟨{
      sizeBytes := data.length, sectorSize := 1, sampleCount := samples.length
      complete := isComplete samples, samples, immutableFacts := facts
      fingerprintHash := some (smallRuntime.sha256Hex (utf8 text)) }, ?_, rfl⟩
  unfold fingerprintFromReader
  rw [show (smallSource data model).sectorSize = .int (1 : ℕ) from rfl, dimensions, isPlan]
  change (immutableFacts smallRuntime (smallSource data model).identityFacts data.length 1 >>= _) =
    _
  rw [areFacts]
  change hashOf smallRuntime facts ((planRanges data.length 1).map _) >>= _ = _
  rw [areSamples, isHash]
  rfl

theorem fingerprint_disk (second : UInt8) : ∃ result,
    fingerprintFromReader smallRuntime (smallSource [1, second, 3, 4, 5, 6] (.str "Disk")) =
    .ok result ∧ result.fingerprintHash = some (smallRuntime.sha256Hex (utf8 diskText)) := by
  have isPlan : planRanges [1, second, 3, 4, 5, 6].length 1 = [(0, 1), (3, 1), (5, 1)] := by
    change planRanges 6 1 = _
    decide +kernel
  have written : normalize 10000 (hashedValue [(.str "logical_block_size", .int 1),
      (.str "model", .str "Disk"), (.str "size_bytes", .int 6)] [
        .ok 0 1 "4bf5122f344554c53bde2ebb8cd2b7e3d1600ad631c385a5d7cce23c7785459a",
        .ok 3 1 "e52d9c508c502347344d8c07ad91cbd6068afc75ff6292f062a09ca381c89e71",
        .ok 5 1 "67586e98fad27da0b9968bc039a1ef34c939b9b8e523a8bef89d478608c5ecf6"]) >>=
          dumps false 10000 = .ok diskText := by
    decide +kernel
  refine fingerprint_small rfl ?_ rfl written
  rw [isPlan]
  rfl

theorem hash_of_samples_small : ∃ firstResult secondResult hash,
      fingerprintFromReader smallRuntime (smallSource [1, 2, 3, 4, 5, 6] (.str "Disk")) =
      .ok firstResult ∧
      fingerprintFromReader smallRuntime (smallSource [1, 9, 3, 4, 5, 6] (.str "Disk")) =
      .ok secondResult ∧
      firstResult.fingerprintHash = some hash ∧ secondResult.fingerprintHash = some hash ∧
      (PyValue.dict firstResult.immutableFacts).joinText.Same
        (PyValue.dict secondResult.immutableFacts).joinText := by
  have scalar : IsScalar (.str "Disk") := trivial
  rcases fingerprint_disk 2 with ⟨firstResult, isFirst, firstHash⟩
  rcases fingerprint_disk 9 with ⟨secondResult, isSecond, secondHash⟩
  have same := (hash_of_samples injective_small).2.2 _ _ _ _ _ _ (scalar_small _ scalar)
    (scalar_small _ scalar) isFirst isSecond firstHash secondHash
  exact ⟨firstResult, secondResult, _, isFirst, isSecond, firstHash, secondHash, (same.mp rfl).1⟩

theorem fingerprint_surrogates (isModel : model = surrogates ∨ model = face) : ∃
    result,
    fingerprintFromReader smallRuntime (smallSource [1, 2] model) = .ok result ∧
      result.fingerprintHash = some (smallRuntime.sha256Hex (utf8 faceText)) := by
  have isPlan : planRanges 2 1 = [(0, 1)] := by decide +kernel
  have written : ∀ model ∈ [surrogates, face], normalize 10000 (hashedValue
      [(.str "logical_block_size", .int 1), (.str "model", model), (.str "size_bytes", .int 2)]
      [.ok 0 1 "4bf5122f344554c53bde2ebb8cd2b7e3d1600ad631c385a5d7cce23c7785459a"]) >>=
        dumps false 10000 = .ok faceText := by
    decide +kernel
  rcases isModel with rfl | rfl
  · refine fingerprint_small rfl ?_ rfl (written surrogates List.mem_cons_self)
    change (planRanges 2 1).map _ = _
    rw [isPlan]
    rfl
  · refine fingerprint_small rfl ?_ rfl (written face (List.mem_cons_of_mem _ List.mem_cons_self))
    change (planRanges 2 1).map _ = _
    rw [isPlan]
    rfl

/-- Of a source without bytes there is no sample, and two surrogates have the hash of the character
that they make up. -/
theorem face_not_told_apart :
    (∃ plan, samplePlan (.int 0) (.int 512) = .ok plan ∧ ¬ (plan.map Prod.snd).sum < 0) ∧
    ∃ firstResult secondResult hash,
      fingerprintFromReader smallRuntime (smallSource [1, 2] surrogates) = .ok firstResult ∧
      fingerprintFromReader smallRuntime (smallSource [1, 2] face) = .ok secondResult ∧
      firstResult.fingerprintHash = some hash ∧ secondResult.fingerprintHash = some hash ∧
      firstResult.immutableFacts ≠ secondResult.immutableFacts := by
  have surrogatesScalar : IsScalar surrogates := trivial
  have faceScalar : IsScalar face := trivial
  rcases fingerprint_surrogates (.inl rfl) with ⟨firstResult, isFirst, firstHash⟩
  rcases fingerprint_surrogates (.inr rfl) with ⟨secondResult, isSecond, secondHash⟩
  refine ⟨⟨[], rfl, by decide⟩, firstResult, secondResult, _, isFirst, isSecond, firstHash,
    secondHash, ?_⟩
  intro same
  have model := congrArg (fun facts => PyDict.get? facts "model") same
  have firstFacts := (isFingerprint isFirst firstHash).facts
  have secondFacts := (isFingerprint isSecond secondHash).facts
  rw [get?_immutableFacts (scalar_small _ surrogatesScalar) firstFacts,
    get?_immutableFacts (scalar_small _ faceScalar) secondFacts] at model
  have texts : some surrogates = some face := model
  cases texts

end Fingerprint

end Reperio.Hostd
