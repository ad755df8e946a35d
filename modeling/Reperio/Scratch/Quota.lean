import Reperio.Concurrency.Transition
import Reperio.Scratch.Accounting

/-!
# The quota of a store

The quota is checked before the metadata of a call is written, and for a content
that is stored already as if it were new. So the bytes in use stay within the
quota, and a content that is stored is not refused without need, exactly when
before every call there is room for what it adds, and for the content of a
duplicate once more.
-/

namespace Reperio.Scratch

open Python Storage Concurrency ScratchQuery

variable {Source : Type} (source : ℕ → ℕ → Source → Except ScratchError Chunk × Source)
  (store : ScratchStore)

/-! ## What a call adds -/

def textSize (text : String) : ℕ := (utf8 text).length

/-- The size of the metadata file of a content. -/
def metadataSize (state : ScratchState Source) (sha256 : String) : ℕ :=
  (state.metadata.read sha256).elim 0 textSize

/-- The size of that file after one more reference, if it can be recorded. -/
def nextMetadataSize (call : PutCall) (content : List UInt8) (state : ScratchState Source) : ℕ :=
  match recorded store call (store.runtime.sha256Hex content) content.length
      (state.metadata.read (store.runtime.sha256Hex content)) with
  | .ok (_, text) => textSize text
  | .error _ => metadataSize state (store.runtime.sha256Hex content)

/-- The content itself is there, under its hash. -/
def IsStored (content : List UInt8) (state : ScratchState Source) : Prop :=
  state.objects.read (store.runtime.sha256Hex content) = some content

instance (content : List UInt8) (state : ScratchState Source) :
    Decidable (IsStored store content state) :=
  inferInstanceAs (Decidable (_ = _))

/-- The bytes of a new object. There is none if the name is taken. -/
def objectBytes (content : List UInt8) (state : ScratchState Source) : ℕ :=
  if (state.objects.read (store.runtime.sha256Hex content)).isSome then 0 else content.length

/-- The content that the iterator yields, whatever its size. -/
def yielded : List NextChunk → List UInt8 → Source → Except ScratchError (List UInt8) 
  | [], content, _ => .ok content
  | next :: rest, content, state =>
    match pull source next state with
    | (.error error, _) => .error error
    | (.ok (.value _), _) =>
      .error (.scratchStoreError "invalid_chunk" "scratch chunks must be bytes")
    | (.ok (.bytes data), state) => yielded rest (content ++ data) state

/-! ## Properties and conditions of one call -/

/-- The call is refused because of the quota. -/
def IsRefused (result : Except ScratchError ScratchObject) : Prop :=
  ∃ message, result = .error (.scratchStoreError "quota_exceeded" message)

/-- A content that is stored is not refused while there is room for the growth of its metadata. -/
def NotRefused (state : ScratchState Source) (call : PutCall) : Prop :=
  ∀ content, yielded source call.chunks [] state.source = .ok content →
    IsStored store content state → state.used + (nextMetadataSize store call content state -
        metadataSize state (store.runtime.sha256Hex content)) ≤ store.quotaBytes →
        ¬IsRefused ((putBytes store call).run (perform source) state).2

/-- There is room for the object and the metadata of a call that passes all checks. -/
def HasRoom (state : ScratchState Source) (call : PutCall) : Prop :=
  ∀ content, gather source store call state = .ok content →
    state.used + objectBytes store content state + nextMetadataSize store call content state ≤
      store.quotaBytes + metadataSize state (store.runtime.sha256Hex content)

/-- There is room for the whole content of a duplicate that is as its caller expects, when there is
room for the growth of its metadata. -/
def HasRoomTwice (state : ScratchState Source) (call : PutCall) : Prop :=
  ∀ content, yielded source call.chunks [] state.source = .ok content →
    IsStored store content state → state.used + (nextMetadataSize store call content state -
        metadataSize state (store.runtime.sha256Hex content)) ≤ store.quotaBytes →
        0 ≤ call.available.1 →
          checkExpected call (store.runtime.sha256Hex content) content.length = .ok () →
            state.used + content.length ≤ store.quotaBytes

/-! ## One call -/

/-- Between two calls: the names of a tree are those of one file each. -/
structure Tidy (state : ScratchState Source) : Prop where
  idle : Idle state
  objects : state.objects.Distinct
  metadata : state.metadata.Distinct

theorem tidy_empty (first : Source) : Tidy (ScratchState.empty first) :=
  ⟨idle_empty first, List.nodup_nil, List.nodup_nil⟩

variable {state : ScratchState Source} {chunks : List NextChunk} {collected : List UInt8}

theorem tidy_put (call : PutCall) (tidy : Tidy state) : Tidy (put source store call state).1 where
  idle := idle_put source store call tidy.idle
  objects := distinct_put source store call tidy.objects
  metadata := by
    rcases put_cases source store call state with ⟨_, _, _, _, metadata⟩ |
      ⟨content, _, _, _, ⟨_, _, _, metadata⟩ | ⟨_, text, _, _, metadata⟩⟩
    · rw [metadata]
      exact tidy.metadata
    · rw [metadata]
      exact tidy.metadata
    · rw [metadata]
      exact tidy.metadata.write _ text

theorem size_withObject (content : List UInt8) (state : ScratchState Source) :
    (withObject state.objects (store.runtime.sha256Hex content) content).size List.length =
      state.objects.size List.length + objectBytes store content state := by
  unfold withObject objectBytes
  split
  · rfl
  · rename_i missing
    rw [Option.isSome_iff_ne_none, not_not] at missing
    rw [Directory.size_write, Directory.remove_of_read_none missing, Nat.add_comm]

theorem size_writeMetadata {metadata : Directory String String} (distinct : metadata.Distinct)
    (sha256 text : String) :
    (metadata.write sha256 text).size textSize + (metadata.read sha256).elim 0 textSize =
      metadata.size textSize + textSize text := by
  have removed := distinct.size_remove textSize sha256
  rw [Directory.size_write]
  omega

/-- What a call adds to the bytes in use. -/
theorem used_put (call : PutCall) (tidy : Tidy state) :
    (∃ error, gather source store call state = .error error ∧
      (put source store call state).1.used = state.used) ∨
    ∃ content, gather source store call state = .ok content ∧ (put source store call state).1.used +
          metadataSize state (store.runtime.sha256Hex content) =
        state.used + objectBytes store content state +
          nextMetadataSize store call content state := by
  rcases put_cases source store call state with ⟨error, failed, _, objects, metadata⟩ |
    ⟨content, gathered, objects, _, ends⟩
  · refine Or.inl ⟨error, failed, ?_⟩
    rw [ScratchState.used, objects, metadata, ScratchState.used]
  · refine Or.inr ⟨content, gathered, ?_⟩
    have placed := size_withObject store content state
    unfold ScratchState.used
    rw [objects, placed]
    rcases ends with ⟨error, failed, _, metadata⟩ | ⟨data, text, isText, _, metadata⟩
    · rw [metadata, nextMetadataSize, failed]
      dsimp only
      omega
    · have written := size_writeMetadata tidy.metadata (store.runtime.sha256Hex content) text
      rw [metadata, nextMetadataSize, isText, metadataSize]
      unfold textSize at written ⊢
      dsimp only at written ⊢
      omega

/-- A call leaves the store within its quota exactly if there is room for what it adds. -/
theorem used_put_le_iff (call : PutCall) (tidy : Tidy state)
    (within : state.used ≤ store.quotaBytes) :
    (put source store call state).1.used ≤ store.quotaBytes ↔ HasRoom source store state call := by
  unfold HasRoom
  rcases used_put source store call tidy with ⟨error, failed, same⟩ | ⟨content, gathered, grown⟩
  · rw [same, failed]
    exact ⟨fun _ => nofun, fun _ => within⟩
  · rw [gathered]
    constructor
    · rintro fits other isContent
      obtain rfl := Except.ok.inj isContent
      omega
    · intro room
      have fits := room content rfl
      omega

/-! ## Refusals -/

theorem length_le_of_yielded {content : List UInt8} {state : Source}
    (isContent : yielded source chunks collected state = .ok content) :
    collected.length ≤ content.length := by
  induction chunks generalizing collected state with
  | nil =>
    obtain rfl := Except.ok.inj isContent
    exact le_refl _
  | cons next rest ih =>
    rw [yielded] at isContent
    split at isContent
    · cases isContent
    · cases isContent
    · have longer := ih isContent
      rw [List.length_append] at longer
      omega

/-- A content within the quota is collected as the iterator yields it. -/
theorem assemble_of_yielded {content : List UInt8} {state : Source}
    (isContent : yielded source chunks collected state = .ok content)
    (fits : content.length ≤ store.quotaBytes) :
    (assemble source store chunks collected state).1 = .ok content := by
  induction chunks generalizing collected state with
  | nil => exact isContent
  | cons next rest ih =>
    rw [yielded] at isContent
    rw [assemble]
    split at isContent
    · cases isContent
    · cases isContent
    · rename_i data after pulled
      have within := length_le_of_yielded source isContent
      rw [List.length_append] at within
      rw [pulled]
      dsimp only
      rw [checkChunk, if_neg (by omega)]
      exact ih isContent

theorem not_isRefused {code message : String} (different : code ≠ "quota_exceeded") :
    ¬IsRefused (.error (.scratchStoreError code message)) := by
  rintro ⟨other, refused⟩
  exact different (ScratchError.scratchStoreError.inj (Except.error.inj refused)).1

theorem isRefused_checkQuota {used incoming : ℕ} {available : ℤ} {error : ScratchError}
    (failed : checkQuota store used incoming available = .error error) :
    IsRefused (.error error) ↔ store.quotaBytes < used + incoming := by
  unfold checkQuota at failed
  split at failed
  · rename_i exceeds
    cases failed
    exact ⟨fun _ => exceeds, fun _ => ⟨_, rfl⟩⟩
  · rename_i within
    split at failed
    · cases failed
      exact ⟨fun refused => absurd refused (not_isRefused (by decide)),
        fun exceeds => absurd exceeds within⟩
    · cases failed

theorem checkQuota_of_le {used incoming : ℕ} {available : ℤ}
    (within : used + incoming ≤ store.quotaBytes) :
    (0 ≤ available - incoming ∧ checkQuota store used incoming available = .ok ()) ∨
      (available - incoming < 0 ∧ checkQuota store used incoming available =
        .error (.scratchStoreError "disk_full" "scratch storage does not have enough space")) := by
  rw [checkQuota, if_neg (by omega)]
  by_cases enough : available < incoming
  · exact Or.inr ⟨by omega, if_pos enough⟩
  · exact Or.inl ⟨by omega, if_neg enough⟩

theorem not_isRefused_commit (call : PutCall) (content : List UInt8) (state : ScratchState Source) :
    ¬IsRefused (commit store call content state).2 := by
  rintro ⟨message, refused⟩
  unfold commit at refused
  dsimp only at refused
  split at refused
  · cases refused
  · rcases mapError_eq_error refused with ⟨error, _, isError⟩
    cases isError

theorem isRefused_checkContent {call : PutCall} {used : ℕ} {content : List UInt8}
    {error : ScratchError} (failed : checkContent store call used content = .error error) :
    IsRefused (.error error) ↔
      checkExpected call (store.runtime.sha256Hex content) content.length = .ok () ∧
        store.quotaBytes < used + content.length := by
  unfold checkContent at failed
  rcases bind_eq_error failed with unexpected | ⟨_, expected, failed⟩
  · rw [unexpected]
    refine ⟨fun refused => ?_, fun both => nomatch both.1⟩
    unfold checkExpected at unexpected
    split at unexpected
    · cases unexpected
      exact absurd refused (not_isRefused (by decide))
    · split at unexpected
      · cases unexpected
        exact absurd refused (not_isRefused (by decide))
      · cases unexpected
  rw [expected]
  rcases bind_eq_error failed with tooLarge | ⟨_, fits, failed⟩
  · exact (isRefused_checkQuota store tooLarge).trans ⟨fun exceeds => ⟨rfl, exceeds⟩, And.right⟩
  · constructor
    · intro refused
      unfold validateSha256 at failed
      split at failed
      · cases failed
        exact absurd refused (not_isRefused (by decide))
      · cases failed
    · rintro ⟨_, exceeds⟩
      rw [checkQuota, if_pos exceeds] at fits
      cases fits

/-- A call with a stored content and room for its metadata is refused exactly if it passes all other
checks and there is no room for the content once more. -/
theorem isRefused_put_iff (call : PutCall) {content : List UInt8}
    (isContent : yielded source call.chunks [] state.source = .ok content)
    (stored : IsStored store content state) (within : state.used ≤ store.quotaBytes) :
    IsRefused (put source store call state).2 ↔ 0 ≤ call.available.1 ∧
        checkExpected call (store.runtime.sha256Hex content) content.length = .ok () ∧
          store.quotaBytes < state.used + content.length := by
  have small : content.length ≤ state.used :=
    le_trans (Directory.size_le_of_read List.length stored) (Nat.le_add_right _ _)
  unfold put
  rcases @checkQuota_of_le store state.used 0 call.available.1
    within with ⟨enough, passed⟩ | ⟨full, failed⟩
  · rw [passed]
    dsimp only
    unfold fill
    dsimp only
    have assembled := assemble_of_yielded source store isContent (small.trans within)
    revert assembled
    rcases assemble source store call.chunks [] state.source with ⟨result, next⟩
    rintro rfl
    dsimp only
    have sameUsed : ({ state with tempContents := [], tempTexts := [] } :
      ScratchState Source).used = state.used := rfl
    rw [sameUsed]
    have available : 0 ≤ call.available.1 := by
      rw [Nat.cast_zero, sub_zero] at enough
      exact enough
    cases checked : checkContent store call state.used content with
    | error error => exact (isRefused_checkContent store checked).trans (by simp [available])
    | ok done =>
      refine iff_of_false (not_isRefused_commit store call content _) ?_
      rintro ⟨_, _, exceeds⟩
      rcases bind_eq_ok checked with ⟨_, _, rest⟩
      rcases bind_eq_ok rest with ⟨_, fits, _⟩
      rw [checkQuota, if_pos exceeds] at fits
      cases fits
  · rw [failed]
    refine iff_of_false (not_isRefused (by decide)) ?_
    rintro ⟨available, _⟩
    rw [Nat.cast_zero, sub_zero] at full
    omega

theorem notRefused_iff (call : PutCall) (tidy : Tidy state) :
    NotRefused source store state call ↔ HasRoomTwice source store state call := by
  unfold NotRefused HasRoomTwice
  rw [run_putBytes source store call tidy.idle]
  refine forall_congr' fun content => forall_congr' fun isContent => forall_congr' fun stored =>
    forall_congr' fun room => ?_
  rw [isRefused_put_iff source store call isContent stored (by omega)]
  constructor
  · intro notRefused available expected
    by_contra exceeds
    exact notRefused ⟨available, expected, by omega⟩
  · rintro fits ⟨available, expected, exceeds⟩
    have room := fits available expected
    omega

/-! ## Runs -/

/-- One call after the other. -/
def callStep (state : ScratchState Source) (call : PutCall) : Option (ScratchState Source) :=
  some ((putBytes store call).run (perform source) state).1

/-- The bytes in use stay within the quota and no stored content is refused without need, exactly
when before every call there is room for what it adds, and for the content of a duplicate once more.
-/
theorem withinQuota_iff (first : Source) (calls : List PutCall) :
    (EveryState (callStep source store) (fun state => state.used ≤ store.quotaBytes)
        (ScratchState.empty first) calls ∧
      EveryStep (callStep source store) (NotRefused source store)
        (ScratchState.empty first) calls) ↔
    EveryStep (callStep source store)
      (fun state call => HasRoom source store state call ∧ HasRoomTwice source store state call)
      (ScratchState.empty first) calls := by
  have preserved : ∀ state call next, Tidy state → callStep source store state call = some next →
      Tidy next := by
    intro state call next tidy stepped
    rw [callStep, run_putBytes source store call tidy.idle] at stepped
    exact Option.some.inj stepped ▸ tidy_put source store call tidy
  have keeps : ∀ state call next, Tidy state → state.used ≤ store.quotaBytes →
      callStep source store state call = some next →
        (next.used ≤ store.quotaBytes ↔ HasRoom source store state call) := by
    intro state call next tidy within stepped
    rw [callStep, run_putBytes source store call tidy.idle] at stepped
    exact Option.some.inj stepped ▸ used_put_le_iff source store call tidy within
  rcases exists_runFrom (fun state call => ⟨_, rfl⟩) (ScratchState.empty first) calls with
    ⟨last, ran⟩
  rw [everyState_iff_everyStep preserved keeps (tidy_empty first) (Nat.zero_le _) ran,
    everyStep_congr preserved (fun state call tidy => notRefused_iff source store call tidy)
      (tidy_empty first), everyStep_and]

/-! ## The metadata of the empty content -/

/-- A store with room for less than the metadata of one content. -/
def smallStore : ScratchStore := { sampleStore with quotaBytes := 200, positive := by decide }

def emptyCall : PutCall where
  hex := "0"
  metadataHex := "1"
  chunks := []
  provenance := []
  available := (1000, 1000)

theorem textSize_ofList (chars : List Char) :
    textSize (String.ofList chars) = (chars.flatMap String.utf8EncodeChar).length := by
  rw [textSize, utf8, String.toList_ofList]

/-- What is recorded of a first reference is the JSON text of its metadata. -/
theorem recorded_of_toJson {store : ScratchStore} {call : PutCall} {sha256 : String} {size : ℕ}
    {json : Json}
    (written : toJson true store.runtime.recursionLimit
      (.dict (newMetadata sha256 size call.provenance)) = .ok json) :
    recorded store call sha256 size none =
      .ok (newMetadata sha256 size call.provenance, String.ofList json.render) := by
  simp only [recorded, nextMetadata, dumps, written, bind, Except.bind, pure, Except.pure]

theorem lt_nextMetadataSize_emptyCall :
    200 < nextMetadataSize smallStore emptyCall [] (ScratchState.empty ()) := by
  have written : ((toJson true smallStore.runtime.recursionLimit
      (.dict (newMetadata (smallStore.runtime.sha256Hex []) 0 emptyCall.provenance))).toOption.any
        fun json => decide (200 < (json.render.flatMap String.utf8EncodeChar).length)) = true := by
    decide +kernel
  rcases (Option.any_eq_true _ _).mp written with ⟨json, isJson, large⟩
  have isText := @recorded_of_toJson smallStore emptyCall _ _ _ (eq_ok_of_toOption isJson)
  rw [nextMetadataSize, ScratchState.empty, Directory.read_nil, List.length_nil, isText]
  change 200 < textSize (String.ofList json.render)
  rw [textSize_ofList]
  exact of_decide_eq_true large

theorem quota_not_invariant :
    ¬∀ (Source : Type) (source : ℕ → ℕ → Source → Except ScratchError Chunk × Source)
      (store : ScratchStore) (first : Source) (calls : List PutCall),
      EveryState (callStep source store) (fun state => state.used ≤ store.quotaBytes)
        (ScratchState.empty first) calls ∧
      EveryStep (callStep source store) (NotRefused source store)
        (ScratchState.empty first) calls := by
  intro kept
  have states := (kept Unit noSource smallStore () [emptyCall]).1
  have within : (put noSource smallStore emptyCall (ScratchState.empty ())).1.used ≤
      smallStore.quotaBytes := by
    rw [← run_putBytes noSource smallStore emptyCall (tidy_empty ()).idle]
    exact states.last rfl
  have room := (used_put_le_iff noSource smallStore emptyCall (tidy_empty ())
    (Nat.zero_le _)).mp within [] rfl
  have large := lt_nextMetadataSize_emptyCall
  have fits : nextMetadataSize smallStore emptyCall [] (ScratchState.empty ()) ≤ 200 :=
    le_trans (Nat.le_add_left _ _) room
  omega

end Reperio.Scratch
