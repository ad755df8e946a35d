import Reperio.Checkpoints.Eligibility
import Reperio.Hostd.Identity

/-!
# The record a host makes and the record that is accepted

The identity of a reader starts with `source_`, while a valid record names a
reader that starts with `reader_`. So no record of a host is valid, and no
medium that it reports can be bound to a checkpoint or proved for a scan.
-/

namespace Reperio

open Python MediaIdentity MediumCheckpoints

theorem Python.PyStr.ofString_append (first second : String) :
    PyStr.ofString (first ++ second) = PyStr.ofString first ++ PyStr.ofString second := by
  rw [PyStr.ofString, String.toList_append, PyStr.ofChars, List.map_append]
  rfl

variable {device identified : PyDict}

namespace Hostd

variable {host : Host}

theorem get_withChildren {copy result : PyDict} {name : String}
    (notChildren : PyStr.ofString "children" ≠ .ofString name)
    (returned : withChildren host copy = .ok result) : result.get name = copy.get name := by
  rcases bind_eq_ok returned with ⟨children, _, returned⟩
  rcases bind_eq_ok returned with ⟨identified, _, returned⟩
  cases returned
  exact PyDict.get_set_of_ne _ _ notChildren

/-- A reader is identified as a source. -/
theorem sourceId_withIdentity (returned : withIdentity host device = .ok identified) :
    ∃ digest, identified.get "source_id" = .str ("source_" ++ digest) := by
  rcases bind_eq_ok returned with ⟨warnings, _, returned⟩
  rcases bind_eq_ok returned with ⟨facts, _, returned⟩
  rcases bind_eq_ok returned with ⟨digest, _, returned⟩
  refine ⟨digest, ?_⟩
  rw [get_withChildren (by decide) returned, PyDict.get_set_of_ne _ _ (by decide),
    PyDict.get_set_of_ne _ _ (by decide), PyDict.get_set_of_ne _ _ (by decide),
    PyDict.get_set_self]

theorem mediumIdentity_withMediaIdentity
    (returned : withMediaIdentity host device = .ok identified) :
    ∃ signals strength warnings, identified.get "medium_identity" =
      .dict (mediumIdentityRecord (stringOf (device.get "source_id")) signals strength
        warnings) := by
  rcases bind_eq_ok returned with ⟨readerWarnings, _, returned⟩
  rcases bind_eq_ok returned with ⟨mediumId, _, returned⟩
  rcases bind_eq_ok returned with ⟨identityWarnings, _, returned⟩
  have kept := @get_withChildren _ _ _ "medium_identity" (by decide) returned
  rw [PyDict.get_set_self] at kept
  exact ⟨_, _, _, kept⟩

/-- A record whose reader is identified as a source is not valid. -/
theorem not_isValid_of_source {digest strength : String} {signals : PyDict}
    {warnings : List String} :
    ¬IsValid (mediumIdentityRecord (.ofString ("source_" ++ digest)) signals strength
      warnings) := by
  intro valid
  have reader := valid.isReaderId
  have isSource : (mediumIdentityRecord (.ofString ("source_" ++ digest)) signals strength
      warnings).get "reader_id" = .text (.ofString ("source_" ++ digest)) := rfl
  rw [isSource, isReaderId, PyStr.startsWith, PyStr.ofString_append] at reader
  cases reader

/-! ## Acceptance -/

/-- The medium has a size or a valid fingerprint. -/
def HasMedium (device : PyDict) : Prop := isPlausibleSignals (normalizeMediumSignals device) = true

/-- What a checkpoint and the preparation of a scan need of a device with a medium. -/
structure Accepted (runtime : Runtime) (device identified record : PyDict) : Prop where
  isRecord : identified.get "medium_identity" = .dict record
  valid : IsValid record
  keyed : ∃ key, mediumIdentityKey runtime record = .ok key
  proved : (normalizedFingerprint (device.get "sampled_fingerprint_sha256")).isSome = true →
    proveMediumIdentity identified = .ok (true, [], true)

theorem not_accepted {record : PyDict} (removable : isRemovable device = true)
    (returned : identifyDevice host device = .ok identified) :
    ¬Accepted host.runtime device identified record := by
  rcases bind_eq_ok returned with ⟨reader, isReader, returned⟩
  rw [if_pos removable] at returned
  rcases sourceId_withIdentity isReader with ⟨digest, sourceId⟩
  rcases mediumIdentity_withMediaIdentity returned with ⟨signals, strength, warnings, isRecord⟩
  intro accepted
  obtain rfl := PyValue.dict.inj (isRecord.symm.trans accepted.isRecord)
  rw [sourceId] at accepted
  exact not_isValid_of_source accepted.valid

theorem forall₂_attachFrom {seen : Seen} {devices resolved : List PyDict}
    (attached : attachFrom host seen devices = .ok resolved) :
    List.Forall₂ (fun device identified => identifyDevice host device = .ok identified) devices
      resolved := by
  induction devices generalizing seen resolved with
  | nil =>
    cases attached
    exact .nil
  | cons device devices ih =>
    rcases bind_eq_ok attached with ⟨identified, isIdentified, attached⟩
    rcases bind_eq_ok attached with ⟨claimed, _, attached⟩
    rcases bind_eq_ok attached with ⟨rest, isRest, attached⟩
    cases attached
    exact .cons isIdentified (ih isRest)

/-- The devices of a host are accepted exactly when no medium is in any of them. -/
theorem accepted_iff_no_medium {devices resolved : List PyDict}
    (removable : ∀ device ∈ devices, isRemovable device = true)
    (attached : attachStableIdentities host devices = .ok resolved) :
    List.Forall₂ (fun device identified => HasMedium device →
        ∃ record, Accepted host.runtime device identified record) devices resolved ↔
      ∀ device ∈ devices, ¬HasMedium device := by
  have identified := forall₂_attachFrom attached
  clear attached
  induction identified with
  | nil => simp
  | cons isIdentified _ ih =>
    rcases List.forall_mem_cons.mp removable with ⟨first, rest⟩
    rw [List.forall₂_cons, List.forall_mem_cons]
    refine and_congr ⟨fun accepts medium => ?_, fun none medium => ?_⟩ (ih rest)
    · rcases accepts medium with ⟨record, accepted⟩
      exact not_accepted first isIdentified accepted
    · exact absurd medium none

/-- A host with the digests of the two devices below: of each the reader and the medium. -/
def sampleHost : Host where
  runtime := { Runtime.sample with
      sha256Hex bytes := match bytes.length with
        | 60 => "cc84711cf5ddcf41539c12f7ec761301a32dfafdb2fabf698e728ecd914de915"
        | 325 => "51588cf790385e87f6355e82a3399d0fff382a434c9715ccc73af43ee6759d66"
        | 103 => "1c380b89e0d02e5e68982ad1b80767d1f5658f491429ac0289d13f57861d6b6c"
        | _ => "9c08381eb8cdc8ca403ec0159ae9f40df971a4d9237c6adabbd39a87e551f415" }
  display := ⟨fun _ => true, .ofString "<object>"⟩
  byIdEntries := none

/-- A card reader without a card. -/
def emptyReader : PyDict :=
  [(.str "kernel_name", .str "mmcblk0"), (.str "model", .str "CardReader"),
    (.str "device_type", .str "sd_card"), (.str "removable", .bool true)]

theorem accepted_of_emptyReader : ∃ resolved,
    attachStableIdentities sampleHost [emptyReader] = .ok resolved ∧
    List.Forall₂ (fun device identified => HasMedium device →
      ∃ record, Accepted sampleHost.runtime device identified record) [emptyReader] resolved := by
  have attached : (attachStableIdentities sampleHost [emptyReader]).toOption.isSome = true := by
    decide +kernel
  rcases Option.isSome_iff_exists.mp attached with ⟨resolved, isResolved⟩
  have isResolved := eq_ok_of_toOption isResolved
  refine ⟨resolved, isResolved, (accepted_iff_no_medium ?_ isResolved).mpr ?_⟩
  · rw [List.forall_mem_singleton]
    decide
  · rw [List.forall_mem_singleton, HasMedium]
    decide

/-- A stick with a serial number, a size and a fingerprint. -/
def usbStick : PyDict := [(.str "kernel_name", .str "sdb"), (.str "model", .str "USB Stick"),
    (.str "serial", .str "STICK123"), (.str "device_type", .str "usb_storage"),
    (.str "removable", .bool true), (.str "size_bytes", .int 1024),
    (.str "sampled_fingerprint_sha256", .str (String.ofList (List.replicate 64 'a')))]

theorem usbStick_not_accepted : ∃ resolved,
    attachStableIdentities sampleHost [usbStick] = .ok resolved ∧
    ¬List.Forall₂ (fun device identified => HasMedium device →
      ∃ record, Accepted sampleHost.runtime device identified record) [usbStick] resolved := by
  have attached : (attachStableIdentities sampleHost [usbStick]).toOption.isSome = true := by
    decide +kernel
  rcases Option.isSome_iff_exists.mp attached with ⟨resolved, isResolved⟩
  have isResolved := eq_ok_of_toOption isResolved
  refine ⟨resolved, isResolved, fun accepts => ?_⟩
  cases forall₂_attachFrom isResolved with
  | cons isIdentified _ =>
    have medium : HasMedium usbStick := by
      unfold HasMedium
      decide
    rcases (List.forall₂_cons.mp accepts).1 medium with ⟨record, accepted⟩
    exact not_accepted (by decide) isIdentified accepted

end Hostd

end Reperio
