import Reperio.Scratch.Metadata

/-!
# Objects, references and provenance

Over any calls one after the other, of which none fails while metadata is
written, the objects of a store are under the hash of their bytes, and the
metadata of each counts and lists the successful calls with that content, each
provenance as its JSON image.
-/

namespace Reperio.Scratch

open Python Storage Concurrency ScratchQuery

variable {Source : Type} (source : ℕ → ℕ → Source → Except ScratchError Chunk × Source)
  (store : ScratchStore)

/-! ## One call -/

/-- The content of a call, if nothing fails before it becomes an object: not the iterator, not what
the caller expects, and no check of the quota. -/
def gather (call : PutCall) (state : ScratchState Source) : Except ScratchError (List UInt8) := do
  checkQuota store state.used 0 call.available.1
  let content ← (assemble source store call.chunks [] state.source).1
  checkContent store call state.used content
  return content

/-- Everything a call does to the two trees. -/
theorem put_cases (call : PutCall) (state : ScratchState Source) :
    (∃ error, gather source store call state = .error error ∧
      (put source store call state).2 = .error error ∧
      (put source store call state).1.objects = state.objects ∧
      (put source store call state).1.metadata = state.metadata) ∨
    (∃ content, gather source store call state = .ok content ∧
      (put source store call state).1.objects =
        withObject state.objects (store.runtime.sha256Hex content) content ∧
      validateSha256 (store.runtime.sha256Hex content) = .ok () ∧
      ((∃ error, recorded store call (store.runtime.sha256Hex content) content.length
          (state.metadata.read (store.runtime.sha256Hex content)) = .error error ∧
        (put source store call state).2 = .error (.pyError error) ∧
        (put source store call state).1.metadata = state.metadata) ∨
      (∃ data text, recorded store call (store.runtime.sha256Hex content) content.length
          (state.metadata.read (store.runtime.sha256Hex content)) = .ok (data, text) ∧
        (put source store call state).2 =
          (objectOf (store.runtime.sha256Hex content) content.length data).mapError .pyError ∧
        (put source store call state).1.metadata =
          state.metadata.write (store.runtime.sha256Hex content) text))) := by
  unfold gather put
  cases checkQuota store state.used 0 call.available.1 with
  | error error => exact Or.inl ⟨error, rfl, rfl, rfl, rfl⟩
  | ok enough =>
    unfold fill
    dsimp only
    rcases assemble source store call.chunks [] state.source with ⟨error | content, next⟩
    · exact Or.inl ⟨error, rfl, rfl, rfl, rfl⟩
    dsimp only [bind, Except.bind, pure, Except.pure]
    have sameUsed : ({ state with tempContents := [], tempTexts := [] } :
      ScratchState Source).used = state.used := rfl
    rw [sameUsed]
    cases checked : checkContent store call state.used content with
    | error error => exact Or.inl ⟨error, rfl, rfl, rfl, rfl⟩
    | ok done =>
      right
      have valid : validateSha256 (store.runtime.sha256Hex content) = .ok () := by
        rcases bind_eq_ok checked with ⟨_, _, rest⟩
        rcases bind_eq_ok rest with ⟨_, _, valid⟩
        exact valid
      unfold commit
      dsimp only
      refine ⟨content, rfl, ?_⟩
      cases recorded store call (store.runtime.sha256Hex content) content.length
        (state.metadata.read (store.runtime.sha256Hex content)) with
      | error error => exact ⟨rfl, valid, Or.inl ⟨error, rfl, rfl, rfl⟩⟩
      | ok data => exact ⟨rfl, valid, Or.inr ⟨data.1, data.2, rfl, rfl, rfl⟩⟩

variable {state : ScratchState Source} {objects : Directory String (List UInt8)} {sha256 : String}
    {provenances : List PyDict}

theorem idle_put (call : PutCall) (idle : Idle state) : Idle (put source store call state).1 := by
  unfold put
  dsimp only
  split
  · exact ⟨List.nodup_nil, List.nodup_nil, idle.lock⟩
  · rcases fill_frame source store call { state with tempContents := [], tempTexts := [] } with
      ⟨contents, texts, lock⟩
    refine ⟨?_, ?_, lock.trans idle.lock⟩
    · rw [contents]
      exact List.nodup_nil
    · rw [texts]
      exact List.nodup_nil

/-! ## Runs -/

/-- The calls so far, with their results. -/
abbrev CallLog := List (PutCall × Except ScratchError ScratchObject)

/-- The call succeeds, or fails before anything becomes an object. -/
def Listed (call : PutCall) (state : ScratchState Source) : Prop :=
  (∃ error, gather source store call state = .error error) ∨
    ∃ object, (put source store call state).2 = .ok object

/-- Runs whose calls succeed or fail before anything becomes an object. -/
inductive RanListed (first : Source) : CallLog → ScratchState Source → Prop where
  | start : RanListed first [] (ScratchState.empty first)
  | call {log : CallLog} {state after : ScratchState Source} {call : PutCall}
      {result : Except ScratchError ScratchObject} (before : RanListed first log state)
      (listed : Listed source store call state)
      (ran : (putBytes store call).run (perform source) state = (after, result)) :
      RanListed first (log ++ [(call, result)]) after

/-- The provenance of a call that returned an object with this hash. -/
def provenanceOf (sha256 : String) : PutCall × Except ScratchError ScratchObject → Option PyDict
  | (call, .ok object) => if object.sha256 = .ofString sha256 then some call.provenance else none
  | (_, .error _) => none

/-- The provenances of the successful calls with this hash, oldest first. -/
def references (log : CallLog) (sha256 : String) : List PyDict :=
  log.filterMap (provenanceOf sha256)

/-- What a store holds under a name, after the references to it. -/
def Entry (state : ScratchState Source) (sha256 : String) (provenances : List PyDict) : Prop :=
  (state.objects.read sha256 = none ∧ state.metadata.read sha256 = none ∧ provenances = []) ∨
    ∃ content text, state.objects.read sha256 = some content ∧
      store.runtime.sha256Hex content = sha256 ∧ validateSha256 sha256 = .ok () ∧
      state.metadata.read sha256 = some text ∧ provenances ≠ [] ∧
      Describes store.runtime.recursionLimit sha256 content.length provenances text

theorem sha256_objectOf {sha256 : String} {size : ℕ} {data : PyDict} {object : ScratchObject}
    (returned : objectOf sha256 size data = .ok object) : object.sha256 = .ofString sha256 := by
  rcases bind_eq_ok returned with ⟨_, _, rest⟩
  rcases bind_eq_ok rest with ⟨_, _, rest⟩
  rcases bind_eq_ok rest with ⟨_, _, rest⟩
  rcases bind_eq_ok rest with ⟨_, _, rest⟩
  rcases bind_eq_ok rest with ⟨_, _, rest⟩
  rcases bind_eq_ok rest with ⟨_, _, rest⟩
  cases rest
  rfl

theorem read_withObject_of_ne {other : String} (different : other ≠ sha256) (content : List UInt8) :
    (withObject objects sha256 content).read other = objects.read other := by
  unfold withObject
  split
  · rfl
  · exact Directory.read_write_of_ne different

/-- The text that a call records describes one more reference. -/
theorem describes_recorded {call : PutCall} {text : String} {size : ℕ} {data : PyDict}
    (entry : Entry store state sha256 provenances)
    (isRecorded : recorded store call sha256 size (state.metadata.read sha256) = .ok (data, text)) :
    Describes store.runtime.recursionLimit sha256
      (((state.objects.read sha256).map List.length).getD size)
      (provenances ++ [call.provenance]) text := by
  rcases bind_eq_ok isRecorded with ⟨next, isNext, rest⟩
  rcases bind_eq_ok rest with ⟨written, isWritten, same⟩
  cases same
  rcases entry with ⟨noObject, noMetadata, rfl⟩ |
    ⟨content, old, object, _, _, metadata, _, describes⟩
  · rw [noMetadata] at isNext
    cases isNext
    rw [noObject]
    exact describes_new isWritten
  · rw [metadata] at isNext
    rcases bind_eq_ok isNext with ⟨value, isValue, extended⟩
    rw [object]
    cases value with
    | dict existing => exact describes_extend describes isValue extended isWritten
    | _ => cases extended

/-- What one listed call does to the entries of the store. -/
theorem entry_put {call : PutCall} (listed : Listed source store call state)
    (entry : Entry store state sha256 provenances) :
    Entry store (put source store call state).1 sha256
      (provenances ++ (provenanceOf sha256 (call, (put source store call state).2)).toList) := by
  rcases put_cases source store call state with ⟨error, _, raised, objects, metadata⟩ |
    ⟨content, gathered, objects, valid, ends⟩
  · rw [raised]
    unfold Entry
    rw [objects, metadata]
    change Entry store state sha256 (provenances ++ [])
    rw [List.append_nil]
    exact entry
  rcases listed with ⟨error, failed⟩ | ⟨object, returned⟩
  · rw [gathered] at failed
    cases failed
  rcases ends with ⟨error, _, raised, _⟩ | ⟨data, text, isRecorded, returns, metadata⟩
  · rw [raised] at returned
    cases returned
  have isHash : object.sha256 = .ofString (store.runtime.sha256Hex content) := by
    rw [returns] at returned
    refine @sha256_objectOf _ content.length data _ ?_
    cases isObject : objectOf (store.runtime.sha256Hex content) content.length data with
    | error error =>
      rw [isObject] at returned
      cases returned
    | ok other =>
      rw [isObject] at returned
      cases returned
      rfl
  rw [returned]
  by_cases same : store.runtime.sha256Hex content = sha256
  · have provenance : provenanceOf sha256 (call, .ok object) = some call.provenance := by
      rw [provenanceOf, if_pos (isHash.trans (congrArg _ same))]
    rw [provenance]
    subst same
    have describes := describes_recorded store entry isRecorded
    right
    rcases entry with ⟨noObject, _, _⟩ | ⟨old, _, isObject, hash, _⟩
    · refine ⟨content, text, ?_, rfl, valid, ?_, by simp, ?_⟩
      · rw [objects, withObject, noObject]
        exact Directory.read_write_self
      · rw [metadata, Directory.read_write_self]
      · rw [noObject] at describes
        exact describes
    · refine ⟨old, text, ?_, hash, valid, ?_, by simp, ?_⟩
      · rw [objects, withObject, isObject]
        exact isObject
      · rw [metadata, Directory.read_write_self]
      · rw [isObject] at describes
        exact describes
  · have provenance : provenanceOf sha256 (call, .ok object) = none := by
      rw [provenanceOf, if_neg]
      rw [isHash]
      exact fun equal => same (PyStr.ofString_injective equal)
    rw [provenance]
    unfold Entry
    rw [objects, metadata, read_withObject_of_ne (Ne.symm same),
      Directory.read_write_of_ne (Ne.symm same)]
    change Entry store state sha256 (provenances ++ [])
    rw [List.append_nil]
    exact entry

/-! ## Any calls -/

theorem references_append (log : CallLog) (last : PutCall × Except ScratchError ScratchObject)
    (sha256 : String) :
    references (log ++ [last]) sha256 = references log sha256 ++
      (provenanceOf sha256 last).toList := by
  rw [references, List.filterMap_append, List.filterMap_cons, references]
  cases provenanceOf sha256 last with
  | none => rfl
  | some provenance => rfl

theorem distinct_withObject (distinct : objects.Distinct) (sha256 : String) (content : List UInt8) :
    (withObject objects sha256 content).Distinct := by
  unfold withObject
  split
  · exact distinct
  · exact distinct.write sha256 content

theorem distinct_put (call : PutCall) (distinct : state.objects.Distinct) :
    (put source store call state).1.objects.Distinct := by
  rcases put_cases source store call state with ⟨_, _, _, objects, _⟩ | ⟨content, _, objects, _⟩
  · rw [objects]
    exact distinct
  · rw [objects]
    exact distinct_withObject distinct _ content

/-- The invariant of a run: no call is in progress, and every entry is as the calls so far left it.
-/
structure Kept (log : CallLog) (state : ScratchState Source) : Prop where
  idle : Idle state
  distinct : state.objects.Distinct
  entries : ∀ sha256, Entry store state sha256 (references log sha256)

theorem kept_of_ran {first : Source} {log : CallLog}
    (ran : RanListed source store first log state) : Kept store log state := by
  induction ran with
  | start => exact ⟨idle_empty first, List.nodup_nil, fun _ => Or.inl ⟨rfl, rfl, rfl⟩⟩
  | @call log state after call result before listed ran kept =>
    rw [run_putBytes source store call kept.idle] at ran
    have isAfter : after = (put source store call state).1 := (congrArg Prod.fst ran).symm
    have isResult : result = (put source store call state).2 := (congrArg Prod.snd ran).symm
    rw [isAfter, isResult]
    refine ⟨idle_put source store call kept.idle, distinct_put source store call kept.distinct,
      fun sha256 => ?_⟩
    rw [references_append]
    exact entry_put source store listed (kept.entries sha256)

/-- What a store promises after calls with these results. -/
structure Accounts (log : CallLog) (state : ScratchState Source) : Prop where
  names : ∀ entry ∈ state.objects, entry.1 = store.runtime.sha256Hex entry.2
  stored : ∀ sha256, (state.objects.read sha256).isSome = true ↔ references log sha256 ≠ []
  metadata : ∀ sha256 content, state.objects.read sha256 = some content →
    ∃ values, loadMetadata store sha256 state = .ok (loadedObject sha256 content.length
        (references log sha256).length values) ∧
      List.Forall₂ (Restores store.runtime.recursionLimit) (references log sha256) values

theorem Kept.accounts {log : CallLog} (kept : Kept store log state) : Accounts store log state where
  names := by
    rintro ⟨sha256, content⟩ member
    have found := kept.distinct.read_of_mem member
    rcases kept.entries sha256 with ⟨missing, _⟩ | ⟨other, _, isObject, hash, _⟩
    · rw [missing] at found
      cases found
    · rw [isObject] at found
      cases found
      exact hash.symm
  stored := by
    intro sha256
    rcases kept.entries sha256 with ⟨missing, _, none⟩ | ⟨other, _, isObject, _, _, _, some, _⟩
    · rw [missing, none]
      simp
    · rw [isObject]
      exact ⟨fun _ => some, fun _ => rfl⟩
  metadata := by
    intro sha256 content found
    rcases kept.entries sha256 with ⟨missing, _⟩ |
      ⟨other, text, isObject, _, valid, isText, referenced, describes⟩
    · rw [missing] at found
      cases found
    · rw [isObject] at found
      cases found
      exact loadMetadata_of_describes valid isText describes referenced

/-- Over any calls that succeed or fail before anything becomes an object, the store keeps its
accounts, and a call that fails so changes neither tree. -/
theorem accounts_of_ran {first : Source} {log : CallLog} {state : ScratchState Source}
    (ran : RanListed source store first log state) :
    Accounts store log state ∧ ∀ call error, gather source store call state = .error error →
        ((putBytes store call).run (perform source) state).2 = .error error ∧
          ((putBytes store call).run (perform source) state).1.objects = state.objects ∧
            ((putBytes store call).run (perform source) state).1.metadata = state.metadata := by
  have kept := kept_of_ran source store ran
  refine ⟨kept.accounts, fun call error failed => ?_⟩
  rw [run_putBytes source store call kept.idle]
  rcases put_cases source store call state with ⟨other, failedSo, raised, objects, metadata⟩ |
    ⟨content, gathered, _⟩
  · rw [failed] at failedSo
    cases failedSo
    exact ⟨raised, objects, metadata⟩
  · rw [gathered] at failed
    cases failed

/-! ## A provenance that is not JSON -/

/-- A store whose hash has the right form. -/
def sampleStore : ScratchStore where
  runtime := { Runtime.sample with
    recursionLimit := 10
    sha256Hex := fun _ => "e3b0c44298fc1c149afbf4c8996fb92427ae41e4649b934ca495991b7852b855" }
  quotaBytes := 1000
  positive := by decide

/-- An iterator that reads nothing. -/
def noSource : ℕ → ℕ → Unit → Except ScratchError Chunk × Unit :=
  fun _ _ state => (.error (.osError "OSError"), state)

/-- The empty content, with a number as a key. -/
def numberedCall : PutCall where
  hex := "0"
  metadataHex := "1"
  chunks := []
  provenance := [(.str "pages", .dict [(.int 1, .str "x")])]
  available := (1000, 1000)

theorem exists_put_numberedCall :
    ∃ object, (put noSource sampleStore numberedCall (ScratchState.empty ())).2 = .ok object ∧
      object.sha256 = .ofString (sampleStore.runtime.sha256Hex []) := by
  have some : ((put noSource sampleStore numberedCall (ScratchState.empty ())).2.toOption).any
      (fun object => object.sha256 = .ofString (sampleStore.runtime.sha256Hex [])) = true := by
    decide
  rcases (Option.any_eq_true _ _).mp some with ⟨object, isObject, isHash⟩
  exact ⟨object, eq_ok_of_toOption isObject, of_decide_eq_true isHash⟩

theorem accounts_of_ran_numberedCall : Accounts sampleStore
      [(numberedCall, ((putBytes sampleStore numberedCall).run (perform noSource)
        (ScratchState.empty ())).2)]
      ((putBytes sampleStore numberedCall).run (perform noSource) (ScratchState.empty ())).1 :=
  (accounts_of_ran noSource sampleStore (.call .start
    (Or.inr (exists_put_numberedCall.imp fun _ returned => returned.1)) rfl)).1

/-- What is written of the provenance has a string as its key. -/
theorem eq_of_restores_numberedCall {value : PyValue}
    (restores : Restores 10 numberedCall.provenance value) :
    value = .dict [(.str "pages", .dict [(.str "1", .str "x")])] := by
  rcases restores with ⟨depth, original, isDepth, written, isValue⟩
  obtain rfl : depth = 8 := by omega
  have isOriginal : toJson true 8 (.dict numberedCall.provenance) =
      .ok (.object [(.ofString "pages", .object [(.ofString "1", .text (.ofString "x"))])]) := rfl
  rw [isOriginal] at written
  cases written
  rcases isValue with rfl | rfl
  · rfl
  · rfl

/-- What is loaded is not always equal to the provenance of the calls. -/
theorem provenance_not_equal :
    ¬∀ (Source : Type) (source : ℕ → ℕ → Source → Except ScratchError Chunk × Source)
      (store : ScratchStore) (first : Source) (log : CallLog) (state : ScratchState Source),
      RanListed source store first log state → ∀ sha256 content,
        state.objects.read sha256 = some content → ∃ object,
          loadMetadata store sha256 state = .ok object ∧
            (PyValue.list object.provenance).eq (.list ((references log sha256).map .dict)) =
              true := by
  intro records
  rcases exists_put_numberedCall with ⟨returned, isReturned, isHash⟩
  rcases alone : (putBytes sampleStore numberedCall).run (perform noSource) (ScratchState.empty ())
    with ⟨state, result⟩
  have ran : RanListed noSource sampleStore () ([] ++ [(numberedCall, result)]) state :=
    .call .start (Or.inr ⟨returned, isReturned⟩) alone
  obtain rfl : result = .ok returned := by
    rw [← isReturned, ← run_putBytes noSource sampleStore numberedCall (idle_empty ()), alone]
  have accounts := (kept_of_ran noSource sampleStore ran).accounts
  have one : references ([] ++ [(numberedCall, .ok returned)]) (sampleStore.runtime.sha256Hex []) =
      [numberedCall.provenance] := by
    rw [references_append, provenanceOf, if_pos isHash]
    rfl
  have stored := (accounts.stored (sampleStore.runtime.sha256Hex [])).mpr (by rw [one]; simp)
  rcases Option.isSome_iff_exists.mp stored with ⟨content, found⟩
  rcases accounts.metadata _ content found with ⟨values, loaded, restores⟩
  rcases records _ _ _ _ _ _ ran _ content found with ⟨object, alsoLoaded, equal⟩
  rw [loaded] at alsoLoaded
  cases alsoLoaded
  rw [one] at restores equal
  simp only [List.forall₂_cons_left_iff, List.forall₂_nil_left_iff] at restores
  rcases restores with ⟨value, _, restores, rfl, rfl⟩
  obtain rfl := eq_of_restores_numberedCall restores
  have different : (PyValue.list [.dict [(.str "pages", .dict [(.str "1", .str "x")])]]).eq
      (.list [.dict numberedCall.provenance]) = false := by
    decide
  exact Bool.false_ne_true (different.symm.trans equal)

end Reperio.Scratch
