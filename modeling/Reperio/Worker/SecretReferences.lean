import Reperio.Worker.ProtectedAudit

/-!
# Audits and the secret store

`verify_secret_reference` expects that a store without the reference raises
`KeyError`. The store of this repository raises an error of its own, for a
missing record as for one that is malformed, and the error reaches the caller.
So the check keeps its promise exactly when the record can be read
(`verifiesReference_iff`).
-/

namespace Reperio.Worker

open Python Storage

/-- `SecretStore.metadata`, as an audit sees it. -/
def storeMetadata (limit : ℕ) (directory : SecretDirectory) (ref : PyStr) :
    Except (StoreFailure SecretError) SecretMetadata :=
  (SecretStore.metadata limit directory ref).mapError StoreFailure.other

def verifyStored (limit : ℕ) (directory : SecretDirectory) (target : AuditTarget) :
    Except (AuditException SecretError) AuditTarget :=
  verifySecretReference target (storeMetadata limit directory)

/-- The check returns: the target as it is when its record can be read, and blocked when there is
none. -/
structure VerifiesReference (limit : ℕ) (directory : SecretDirectory) (target : AuditTarget) : Prop
    where
  returns : ∃ next, verifyStored limit directory target = .ok next
  present : (∃ record, SecretStore.Readable limit directory target.secretSetRef record) →
    verifyStored limit directory target = .ok target
  missing : directory.read target.secretSetRef.name = none →
    ∃ next, verifyStored limit directory target = .ok next ∧ next.state = .blocked ∧
      next.errorCode = some (.ofString "secret_set_missing")

variable {limit : ℕ} {directory : SecretDirectory} {target : AuditTarget}

theorem metadata_of_readable {record : SecretRecord}
    (readable : SecretStore.Readable limit directory target.secretSetRef record) :
    SecretStore.metadata limit directory target.secretSetRef.text =
      .ok ⟨target.secretSetRef.text, record.label, record.keyVersion⟩ := by
  unfold SecretStore.metadata
  rw [SecretStore.readPayload_eq_ok.mpr readable]
  rfl

theorem readable_of_metadata {metadata : SecretMetadata}
    (returned : SecretStore.metadata limit directory target.secretSetRef.text = .ok metadata) :
    ∃ record, SecretStore.Readable limit directory target.secretSetRef record := by
  rcases bind_eq_ok returned with ⟨record, read, _⟩
  exact ⟨record, SecretStore.readPayload_eq_ok.mp read⟩

/-- Whatever the store raises reaches the caller. -/
theorem verifyStored_eq_ok {next : AuditTarget}
    (returned : verifyStored limit directory target = .ok next) :
    (∃ record, SecretStore.Readable limit directory target.secretSetRef record) ∧
      next = target := by
  unfold verifyStored verifySecretReference storeMetadata at returned
  cases isMetadata : SecretStore.metadata limit directory target.secretSetRef.text with
  | error error =>
    rw [isMetadata] at returned
    cases returned
  | ok metadata =>
    rw [isMetadata] at returned
    exact ⟨readable_of_metadata isMetadata, (Except.ok.inj returned).symm⟩

/-- The check keeps its promise exactly when the record of the target can be read. -/
theorem verifiesReference_iff (limit : ℕ) (directory : SecretDirectory) (target : AuditTarget) :
    VerifiesReference limit directory target ↔
      ∃ record, SecretStore.Readable limit directory target.secretSetRef record := by
  constructor
  · intro verifies
    rcases verifies.returns with ⟨next, returned⟩
    exact (verifyStored_eq_ok returned).1
  · rintro ⟨record, readable⟩
    have unchanged : verifyStored limit directory target = .ok target := by
      unfold verifyStored verifySecretReference storeMetadata
      rw [metadata_of_readable readable]
      rfl
    refine ⟨⟨target, unchanged⟩, fun _ => unchanged, fun missing => ?_⟩
    rcases readable with ⟨content, _, _, stored, _⟩
    rw [missing] at stored
    cases stored

/-- A record that was deleted. -/
theorem deletedSecret_not_verifiesReference :
    ¬∀ (limit : ℕ) (directory : SecretDirectory) (target : AuditTarget),
      target.state = .pending ∨ target.state = .queued →
        VerifiesReference limit directory target := by
  intro all
  rcases (all 1000 [] exampleTarget (Or.inl rfl)).missing rfl with ⟨next, returned, blocked, _⟩
  rw [(verifyStored_eq_ok returned).2] at blocked
  cases blocked

end Reperio.Worker
