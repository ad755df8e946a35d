import Reperio.Scratch.Store

/-!
# A call that nobody interferes with

`put` says in one step what `put_bytes` does when no other call is in progress:
it removes all incomplete files, collects the content, and if nothing speaks
against it adds the object and one reference to it. The program of the call,
run alone, does exactly this (`run_putBytes`).
-/

namespace Reperio.Scratch

open Python Storage Concurrency ScratchQuery

variable {Source : Type} (source : ℕ → ℕ → Source → Except ScratchError Chunk × Source)
  (store : ScratchStore)

/-! ## Collecting the content -/

def pull : NextChunk → Source → Except ScratchError Chunk × Source
  | .own result, state => (result, state)
  | .read offset length check, state =>
    ((source offset length state).1 >>= check, (source offset length state).2)

def assemble : List NextChunk → List UInt8 → Source → Except ScratchError (List UInt8) × Source
  | [], content, state => (.ok content, state)
  | next :: rest, content, state =>
    match pull source next state with
    | (.error error, state) => (.error error, state)
    | (.ok chunk, state) =>
      match checkChunk store content.length chunk with
      | .error error => (.error error, state)
      | .ok data => assemble rest (content ++ data) state

/-! ## Storing it -/

def checkContent (call : PutCall) (used : ℕ) (content : List UInt8) : Except ScratchError Unit := do
  checkExpected call (store.runtime.sha256Hex content) content.length
  checkQuota store used content.length call.available.2
  validateSha256 (store.runtime.sha256Hex content)

/-- The objects with this one, which is not written again. -/
def withObject (objects : Directory String (List UInt8)) (sha256 : String)
    (content : List UInt8) : Directory String (List UInt8) :=
  if (objects.read sha256).isSome then objects else objects.write sha256 content

/-- The metadata of one more reference, and its text. -/
def recorded (call : PutCall) (sha256 : String) (size : ℕ) (existing : Option String) :
    Except PyError (PyDict × String) := do
  let data ← nextMetadata store sha256 size call.provenance existing
  let text ← dumps true store.runtime.recursionLimit (.dict data)
  return (data, text)

/-- The object is in place; the reference is still to be recorded. -/
def commit (call : PutCall) (content : List UInt8) (state : ScratchState Source) :
    ScratchState Source × Except ScratchError ScratchObject :=
  let sha256 := store.runtime.sha256Hex content
  let placed := { state with objects := withObject state.objects sha256 content }
  match recorded store call sha256 content.length (state.metadata.read sha256) with
  | .error error => (placed, .error (.pyError error))
  | .ok (data, text) =>
    ({ placed with metadata := state.metadata.write sha256 text },
      (objectOf sha256 content.length data).mapError .pyError)

/-- The content is collected and checked before anything becomes an object. -/
def fill (call : PutCall) (state : ScratchState Source) :
    ScratchState Source × Except ScratchError ScratchObject :=
  match assemble source store call.chunks [] state.source with
  | (.error error, next) => ({ state with source := next }, .error error)
  | (.ok content, next) =>
    match checkContent store call state.used content with
    | .error error => ({ state with source := next }, .error error)
    | .ok () => commit store call content { state with source := next }

/-- The lock and the incomplete files are not concerned. -/
theorem fill_frame (call : PutCall) (state : ScratchState Source) :
    (fill source store call state).1.tempContents = state.tempContents ∧
      (fill source store call state).1.tempTexts = state.tempTexts ∧
        (fill source store call state).1.lock = state.lock := by
  unfold fill
  rcases assemble source store call.chunks [] state.source with ⟨error | content, next⟩
  · exact ⟨rfl, rfl, rfl⟩
  · dsimp only
    cases checkContent store call state.used content with
    | error error => exact ⟨rfl, rfl, rfl⟩
    | ok checked =>
      unfold commit
      dsimp only
      split
      · exact ⟨rfl, rfl, rfl⟩
      · exact ⟨rfl, rfl, rfl⟩

def put (call : PutCall) (state : ScratchState Source) :
    ScratchState Source × Except ScratchError ScratchObject :=
  let clean := { state with tempContents := [], tempTexts := [] }
  match checkQuota store state.used 0 call.available.1 with
  | .error error => (clean, .error error)
  | .ok () => fill source store call clean

/-! ## The program run alone -/

/-- No call is in progress, and the names under `tmp/` are those of one file each. -/
structure Idle (state : ScratchState Source) : Prop where
  contents : state.tempContents.Distinct
  texts : state.tempTexts.Distinct
  lock : state.lock = none

theorem idle_empty (first : Source) : Idle (ScratchState.empty first) :=
  ⟨List.nodup_nil, List.nodup_nil, rfl⟩

section Run

variable {α : Type}

theorem run_checkAvailableQuota (incoming : ℕ) (available : ℤ) {state : ScratchState Source}
    {used : ℕ} (isUsed : state.used = used) :
    (checkAvailableQuota store incoming available).run (perform source) state =
      (state, checkQuota store used incoming available) := by
  rw [checkAvailableQuota, Program.run_query_bind, perform, ← isUsed, Program.run_ofExcept]

theorem run_removeTexts (texts : Directory String (TempFile String)) (distinct : texts.Distinct)
    {state : ScratchState Source} (same : state.tempTexts = texts) :
    (removeAll (texts.map fun entry => .metadata entry.1)).run (perform source) state =
      ({ state with tempTexts := [] }, .ok ()) := by
  induction texts generalizing state with
  | nil =>
    rw [List.map_nil, removeAll, Program.run_done, ← same]
  | cons entry rest ih =>
    have rests : state.tempTexts.remove entry.1 = rest := by
      rw [same, distinct.remove_head]
    rw [List.map_cons, removeAll, Program.run_query_bind, perform, same, Directory.read_cons,
      if_pos rfl]
    exact @ih distinct.tail (unlinked (.metadata entry.1) state) rests

theorem run_removeAll (contents : Directory String (TempFile (List UInt8)))
    (texts : Directory String (TempFile String)) (distinct : contents.Distinct)
    (textsDistinct : texts.Distinct) {state : ScratchState Source}
    (same : state.tempContents = contents) (sameTexts : state.tempTexts = texts) :
    (removeAll (contents.map (fun entry => .content entry.1) ++
        texts.map fun entry => .metadata entry.1)).run (perform source) state =
      ({ state with tempContents := [], tempTexts := [] }, .ok ()) := by
  induction contents generalizing state with
  | nil =>
    rw [List.map_nil, List.nil_append, run_removeTexts source texts textsDistinct sameTexts, ← same]
  | cons entry rest ih =>
    have rests : state.tempContents.remove entry.1 = rest := by
      rw [same, distinct.remove_head]
    rw [List.map_cons, List.cons_append, removeAll, Program.run_query_bind, perform, same,
      Directory.read_cons, if_pos rfl]
    exact @ih distinct.tail (unlinked (.content entry.1) state) rests sameTexts

theorem names_claim {Content : Type} (caller : String)
    (files : Directory String (TempFile Content)) :
    (claim caller files).map Prod.fst = files.map Prod.fst := by
  rw [claim, List.map_map]
  rfl

theorem distinct_claim {Content : Type} {caller : String}
    {files : Directory String (TempFile Content)} (distinct : files.Distinct) :
    (claim caller files).Distinct := by
  unfold Directory.Distinct
  rw [names_claim]
  exact distinct

theorem run_cleanupIncomplete (caller : String) {state : ScratchState Source} (idle : Idle state) :
    (cleanupIncomplete caller).run (perform source) state =
      ({ state with tempContents := [], tempTexts := [] },
        .ok (state.tempContents.length + state.tempTexts.length)) := by
  have names : state.tempContents.map (fun entry => TempName.content entry.1) ++
      state.tempTexts.map (fun entry => TempName.metadata entry.1) =
        (claim caller state.tempContents).map (fun entry => TempName.content entry.1) ++
          (claim caller state.tempTexts).map fun entry => TempName.metadata entry.1 := by
    rw [claim, claim, List.map_map, List.map_map]
    rfl
  rw [cleanupIncomplete, Program.run_query_bind, perform]
  dsimp only
  rw [Program.run_bind, names, run_removeAll source _ _ (distinct_claim idle.contents)
    (distinct_claim idle.texts) rfl rfl]
  simp [claim]

theorem run_nextChunk (next : NextChunk) (state : ScratchState Source) :
    (nextChunk next).run (perform source) state =
      ({ state with source := (pull source next state.source).2 },
        (pull source next state.source).1) := by
  cases next with
  | own result =>
    cases result with
    | error error => rfl
    | ok chunk => rfl
  | read offset length check =>
    rw [nextChunk, Program.run_query_bind, perform, pull]
    dsimp only
    cases (source offset length state.source).1 >>= check with
    | error error => rfl
    | ok chunk => rfl

/-- The temporary file of the call holds the content that was collected so far. -/
theorem run_writeChunks (hex : String) (owner : Option String) (chunks : List NextChunk)
    {content : List UInt8} {state : ScratchState Source}
    (holds : state.tempContents = [(hex, ⟨content, owner⟩)]) :
    ∃ written, (writeChunks store hex chunks content).run (perform source) state = ({ state with
            tempContents := [(hex, ⟨written, owner⟩)]
            source := (assemble source store chunks content state.source).2 },
          (assemble source store chunks content state.source).1) ∧
      ∀ collected, (assemble source store chunks content state.source).1 = .ok collected →
        written = collected := by
  induction chunks generalizing content state with
  | nil =>
    refine ⟨content, ?_, fun collected isContent => Except.ok.inj isContent⟩
    rw [writeChunks, assemble, ← holds]
    rfl
  | cons next rest ih =>
    rw [writeChunks, Program.run_bind, run_nextChunk, assemble]
    rcases pull source next state.source with ⟨error | chunk, after⟩
    · refine ⟨content, ?_, nofun⟩
      rw [← holds]
    · dsimp only
      rw [Program.run_ofExcept_bind]
      cases checkChunk store content.length chunk with
      | error error =>
        refine ⟨content, ?_, nofun⟩
        rw [← holds]
      | ok data =>
        dsimp only
        rw [Program.run_query_bind, perform, holds, Directory.read_singleton]
        dsimp only
        rw [Directory.write, Directory.remove_singleton]
        exact ih rfl

/-- Only the object is left of the temporary file. -/
theorem run_placeObject (hex sha256 : String) {content : List UInt8} {owner : Option String}
    {state : ScratchState Source} (holds : state.tempContents = [(hex, ⟨content, owner⟩)]) :
    (placeObject hex sha256).run (perform source) state = ({ state with
          tempContents := []
          objects := withObject state.objects sha256 content }, .ok ()) := by
  rw [placeObject, Program.run_query_bind, perform, withObject]
  dsimp only
  split
  · have removed : state.tempContents.remove hex = [] := by
      rw [holds, Directory.remove_singleton]
    rw [← removed]
    rfl
  · rw [Program.run_query_bind, perform, holds, Directory.read_singleton]
    dsimp only
    rw [Directory.remove_singleton]
    rfl

theorem run_recordMetadata (call : PutCall) (sha256 : String) (size : ℕ)
    {state : ScratchState Source} (noTexts : state.tempTexts = []) :
    (recordMetadata store call sha256 size).run (perform source) state =
      match recorded store call sha256 size (state.metadata.read sha256) with
      | .error error => (state, .error (.pyError error))
      | .ok (data, text) =>
        ({ state with metadata := state.metadata.write sha256 text },
          (objectOf sha256 size data).mapError .pyError) := by
  rw [recordMetadata, Program.run_query_bind, perform]
  dsimp only
  rw [Program.run_ofExcept_bind]
  cases isData : nextMetadata store sha256 size call.provenance (state.metadata.read sha256) with
  | error error =>
    rw [recorded, isData]
    rfl
  | ok data =>
    have continues : recorded store call sha256 size (state.metadata.read sha256) =
        (dumps true store.runtime.recursionLimit (.dict data)).map fun text => (data, text) := by
      rw [recorded, isData]
      rfl
    rw [continues, Except.mapError]
    dsimp only
    rw [Program.run_ofExcept_bind]
    cases dumps true store.runtime.recursionLimit (.dict data) with
    | error error => rfl
    | ok text =>
      rw [Except.mapError]
      dsimp only
      rw [Program.run_query_bind, perform]
      dsimp only
      rw [Program.run_query_bind, perform, Directory.read_write_self]
      dsimp only
      rw [if_neg (by decide), Program.run_ofExcept, Directory.remove_write_self, noTexts,
        Directory.remove_of_read_none Directory.read_nil, ← noTexts]
      rfl

theorem run_withLock (caller : String) (program : ScratchProgram α) (state : ScratchState Source) :
    (withLock caller program).run (perform source) state =
      ({ (program.run (perform source) { state with lock := some caller }).1 with lock := none },
        (program.run (perform source) { state with lock := some caller }).2) := by
  rw [withLock, Program.run_query_bind, perform]
  dsimp only
  rw [Program.run_bind, Program.run_handle]
  rcases program.run (perform source) { state with lock := some caller }
    with ⟨after, error | result⟩
  · rfl
  · rfl

theorem run_checks (call : PutCall) (content : List UInt8) (rest : ScratchProgram α)
    {state : ScratchState Source} {used : ℕ} (isUsed : state.used = used) :
    (do
      Program.ofExcept (checkExpected call (store.runtime.sha256Hex content) content.length)
      checkAvailableQuota store content.length call.available.2
      Program.ofExcept (validateSha256 (store.runtime.sha256Hex content))
      rest).run (perform source) state =
      match checkContent store call used content with
      | .error error => (state, .error error)
      | .ok () => rest.run (perform source) state := by
  rw [Program.run_ofExcept_bind, checkContent]
  cases checkExpected call (store.runtime.sha256Hex content) content.length with
  | error error => rfl
  | ok expected =>
    dsimp only [bind, Except.bind]
    change Program.run _ (checkAvailableQuota store content.length call.available.2 >>= fun _ =>
      Program.ofExcept (validateSha256 (store.runtime.sha256Hex content)) >>= fun _ => rest) _ = _
    rw [Program.run_bind, run_checkAvailableQuota source store _ _ isUsed]
    cases checkQuota store used content.length call.available.2 with
    | error error => rfl
    | ok enough =>
      dsimp only
      rw [Program.run_ofExcept_bind]
      cases validateSha256 (store.runtime.sha256Hex content) with
      | error error => rfl
      | ok valid => rfl

theorem run_storeContent (call : PutCall) {state : ScratchState Source}
    (noContents : state.tempContents = []) (noTexts : state.tempTexts = [])
    (unlocked : state.lock = none) :
    ∃ leftover : Directory String (TempFile (List UInt8)), leftover.remove call.hex = [] ∧
      (leftover = [] ∨ ∃ error, (fill source store call state).2 = .error error) ∧
      (storeContent store call).run (perform source) state =
        ({ (fill source store call state).1 with tempContents := leftover },
          (fill source store call state).2) := by
  rw [storeContent, Program.run_query_bind, perform, noContents, Directory.read_nil]
  dsimp only
  rw [if_neg (by decide), Directory.write, Directory.remove_of_read_none Directory.read_nil]
  rcases @run_writeChunks _ source store call.hex (some call.hex) call.chunks []
    { state with tempContents := [(call.hex, ⟨[], some call.hex⟩)] } rfl with
    ⟨written, wrote, whole⟩
  rw [Program.run_bind, wrote, fill]
  dsimp only at whole ⊢
  revert whole
  rcases assemble source store call.chunks [] state.source with ⟨error | content, next⟩
  · exact fun _ => ⟨_, Directory.remove_singleton, Or.inr ⟨error, rfl⟩, rfl⟩
  intro whole
  obtain rfl := whole content rfl
  dsimp only
  rw [@run_checks _ source store _ call written _ _ state.used (by rfl)]
  cases checkContent store call state.used written with
  | error error => exact ⟨_, Directory.remove_singleton, Or.inr ⟨error, rfl⟩, rfl⟩
  | ok checked =>
    refine ⟨[], Directory.remove_of_read_none Directory.read_nil, Or.inl rfl, ?_⟩
    dsimp only
    rw [Program.run_bind, run_placeObject source _ _ rfl]
    dsimp only
    rw [run_withLock]
    dsimp only
    rw [run_recordMetadata source store call _ _ (by exact noTexts), commit]
    dsimp only
    cases recorded store call (store.runtime.sha256Hex written) written.length
      (state.metadata.read (store.runtime.sha256Hex written)) with
    | error error =>
      dsimp only
      rw [← unlocked]
    | ok data =>
      dsimp only
      rw [← unlocked]

/-- Run alone, `put_bytes` does what `put` says. -/
theorem run_putBytes (call : PutCall) {state : ScratchState Source} (idle : Idle state) :
    (putBytes store call).run (perform source) state = put source store call state := by
  rw [putBytes, Program.run_query_bind, perform]
  dsimp only
  rw [Program.run_bind, run_cleanupIncomplete source call.hex idle]
  dsimp only
  rw [Program.run_bind, @run_checkAvailableQuota _ source store _ _ _ state.used (by rfl), put]
  cases checkQuota store state.used 0 call.available.1 with
  | error error => rfl
  | ok enough =>
    dsimp only
    rcases @run_storeContent _ source store call { state with tempContents := [], tempTexts := [] }
      rfl rfl idle.lock with
      ⟨leftover, removed, empty, ran⟩
    have noContents : (fill source store call
        { state with tempContents := [], tempTexts := [] }).1.tempContents = [] :=
      (fill_frame source store call _).1
    rw [Program.run_handle, ran]
    revert empty noContents
    rcases fill source store call { state with tempContents := [], tempTexts := [] } with
      ⟨after, error | object⟩
    · intro _ noContents
      change ({ after with tempContents := leftover.remove call.hex }, _) = _
      rw [removed, ← noContents]
    · rintro (empty | ⟨error, raised⟩) noContents
      · dsimp only
        rw [empty, ← noContents]
      · cases raised

end Run

end Reperio.Scratch
