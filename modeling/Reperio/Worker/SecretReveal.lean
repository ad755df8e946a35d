import Reperio.Python.ReprWithin

/-!
# Audit records of revealed secrets

`worker/secret_reveal.py`: a record is written only when no secret is found in its
`repr`. There a secret is found in every record that has it exactly when `repr` shows
all of it as it is (`checksComplete_iff`).
-/

namespace Reperio.Worker

open Python

/-- How an audit record is refused. -/
inductive RevealFailure where
  | revealError (message : String)
  | raised (error : PyError)
  deriving DecidableEq

/-- `MASKED_VALUE`. -/
def maskedValue : PyStr := .ofString "********"

/-- `SECRET_REVEAL_VERSION`. -/
def secretRevealVersion : PyStr := .ofString "secret-reveal-v1"

/-- `REVEAL_EVENT_TYPE`. -/
def revealEventType : PyStr := .ofString "secret.reveal"

/-- Whether a secret may be shown. -/
structure RevealDecision where
  allowed : Bool
  mode : PyStr
  reasons : List PyStr

/-- What a record says of a session. -/
structure RevealSession where
  autoHidden : Bool
  nonPersistent : Bool

def leaked : RevealFailure := .revealError "secret value leaked into an audit or telemetry record"

section

variable (display : Display) (limit : ℕ)

def assertSecretFree (record : PyValue) (forbiddenValues : List PyStr) :
    Except RevealFailure Unit := do
  if forbiddenValues = [] then return ()
  let serialized ← (reprWithin display limit record).mapError RevealFailure.raised
  if ∃ value ∈ forbiddenValues, value <:+: serialized then throw leaked

def revealAuditRecord (ref : PyStr) (decision : RevealDecision) (now : PyStr)
    (session : Option RevealSession) (forbiddenValues : List PyStr) : Except RevealFailure PyDict :=
    do
  let record : PyDict := [(.str "event_type", .text revealEventType), (.str "ref", .text ref),
      (.str "mode", .text decision.mode), (.str "allowed", .bool decision.allowed),
      (.str "reasons", .list (decision.reasons.map .text)),
        (.str "masked_value", .text maskedValue),
      (.str "reveal_version", .text secretRevealVersion), (.str "recorded_at", .text now)] ++
    match session with
    | none => []
    | some session => [(.str "auto_hidden", .bool session.autoHidden),
        (.str "non_persistent", .bool session.nonPersistent)]
  assertSecretFree display limit (.dict record) forbiddenValues
  return record

end

/-! ## Completeness -/

/-- The value occurs in a string of the record, a key or a value at any depth. -/
def OccursIn (value : PyStr) (record : PyValue) : Prop := ∃ text ∈ textsIn record, value <:+: text

/-- Whichever of the values are forbidden, a record in which one of them occurs is refused, unless
it has no `repr` at all. -/
def ChecksComplete (display : Display) (limit : ℕ) (forbiddenValues : List PyStr) : Prop :=
  ∀ among : List PyStr, (∀ value ∈ among, value ∈ forbiddenValues) →
    ∀ record, (∃ value ∈ among, OccursIn value record) →
      (assertSecretFree display limit record among = .error leaked ↔ Representable limit record)

variable {display : Display} {limit : ℕ}

variable {forbiddenValues : List PyStr}

theorem assertSecretFree_eq_leaked_iff {record : PyValue} :
    assertSecretFree display limit record forbiddenValues = .error leaked ↔
      ∃ serialized, reprWithin display limit record = .ok serialized ∧
        ∃ value ∈ forbiddenValues, value <:+: serialized := by
  rw [assertSecretFree]
  split
  · rename_i none
    refine ⟨nofun, ?_⟩
    rintro ⟨_, _, value, isForbidden, _⟩
    exact absurd (none ▸ isForbidden) List.not_mem_nil
  · cases written : reprWithin display limit record with
    | error error => exact ⟨nofun, nofun⟩
    | ok serialized =>
      by_cases found : ∃ value ∈ forbiddenValues, value <:+: serialized
      · refine ⟨fun _ => ⟨serialized, rfl, found⟩, fun _ => ?_⟩
        exact if_pos found
      · constructor
        · intro raised
          have passed : (if ∃ value ∈ forbiddenValues, value <:+: serialized then throw leaked
              else pure () : Except RevealFailure Unit) = pure () := if_neg found
          exact absurd (passed.symm.trans raised) nofun
        · rintro ⟨_, isWritten, found'⟩
          rw [Except.ok.inj isWritten] at found
          exact absurd found' found

/-- A value that is shown is found in every record that it occurs in. -/
theorem infix_of_occursIn {value : PyStr} (shown : isShown display value = true) {record : PyValue}
    (occurs : OccursIn value record) {serialized : PyStr}
    (written : reprWithin display limit record = .ok serialized) : value <:+: serialized := by
  obtain ⟨text, isText, occurs⟩ := occurs
  exact (infix_reprText_of_isShown shown occurs).trans (infix_of_mem_texts written isText)

theorem assertSecretFree_text_eq_leaked_iff {value text : PyStr} :
    assertSecretFree display (limit + 1) (.text text) [value] = .error leaked ↔
      value <:+: reprText display text := by
  have written : reprWithin display (limit + 1) (.text text) = .ok (reprText display text) := rfl
  rw [assertSecretFree_eq_leaked_iff, written]
  simp

/-- The check misses no secret of a record exactly when `repr` shows each forbidden value as it is.
-/
theorem checksComplete_iff (display : Display) (limit : ℕ) (forbiddenValues : List PyStr) :
    ChecksComplete display (limit + 1) forbiddenValues ↔
      ∀ value ∈ forbiddenValues, isShown display value = true := by
  constructor
  · intro complete value isForbidden
    rw [isShown_iff]
    intro text occurs
    have raised := (complete [value] (by simpa using isForbidden) (.text text)
      ⟨value, List.mem_singleton_self value, text, List.mem_singleton_self text, occurs⟩).mpr
        trivial
    exact assertSecretFree_text_eq_leaked_iff.mp raised
  · intro shown among within record found
    obtain ⟨value, isAmong, occurs⟩ := found
    have hasRepr : (∃ shown, reprWithin display (limit + 1) record = .ok shown) ↔ _ :=
      exists_reprWithin_iff
    rw [assertSecretFree_eq_leaked_iff, ← hasRepr]
    refine ⟨fun leak => leak.imp fun _ => And.left, ?_⟩
    rintro ⟨serialized, written⟩
    exact ⟨serialized, written, value, isAmong,
      infix_of_occursIn (shown value (within value isAmong)) occurs written⟩

/-- A secret with a line break is not found. -/
theorem lineBreak_passes :
    assertSecretFree ⟨fun _ => true, []⟩ 1000 (.dict [(.str "note", .str "is hunter\n2")])
        [.ofString "hunter\n2"] = .ok () ∧
      OccursIn (.ofString "hunter\n2") (.dict [(.str "note", .str "is hunter\n2")]) := by
  refine ⟨by decide +kernel, PyStr.ofString "is hunter\n2", ?_, ?_⟩
  · exact List.mem_cons_of_mem _ List.mem_cons_self
  · exact ⟨PyStr.ofString "is ", [], by decide⟩

/-- A record that is returned has none of the forbidden values that are shown as they are. -/
theorem revealAuditRecord_free {ref now : PyStr} {decision : RevealDecision}
    {session : Option RevealSession} {record : PyDict}
    (returned : revealAuditRecord display limit ref decision now session forbiddenValues =
      .ok record)
    {value : PyStr} (isForbidden : value ∈ forbiddenValues) (shown : isShown display value = true) :
    ¬ OccursIn value (.dict record) := by
  intro occurs
  obtain ⟨_, passed, isRecord⟩ := bind_eq_ok returned
  rw [Except.ok.inj isRecord] at passed
  rw [assertSecretFree] at passed
  split at passed
  · rename_i none
    exact absurd (none ▸ isForbidden) List.not_mem_nil
  · obtain ⟨serialized, written, passed⟩ := bind_eq_ok passed
    have found := infix_of_occursIn shown occurs (mapError_eq_ok.mp written)
    rw [if_pos ⟨value, isForbidden, found⟩] at passed
    cases passed

end Reperio.Worker
