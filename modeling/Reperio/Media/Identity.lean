import Reperio.Python.Operators

/-!
# Media identity records

`media_identity.py`: the record that separates a reusable reader from the
medium in it, how it is built from the facts about a device and what makes it
valid. Records and devices are dictionaries of any content, as in the source.
-/

namespace Reperio

open Python

def mediaIdentitySchemaVersion : ℤ := 1

/-- `IDENTITY_STRENGTHS`. -/
def identityStrengths : List String :=
  ["by-id", "wwn-facts", "serial-facts", "weak-facts", "reader-plus-medium", "reader-facts"]

/-- `MEDIUM_SIGNAL_FIELDS`. -/
def mediumSignalFields : List String :=
  ["capacity_bytes", "logical_block_size", "physical_block_size", "geometry", "toc_sessions",
    "sampled_fingerprint_sha256", "media_change_generation"]

/-- Whether an identity is valid, with warnings. -/
structure MediaIdentityValidationResult where
  valid : Bool
  warnings : List String := []
  deriving DecidableEq, Repr

namespace MediaIdentity

/-- The value is the given string. -/
def isText (value : PyValue) (text : String) : Bool := match value with
  | .text points => decide (points = .ofString text)
  | _ => false

/-- What kind of source the device is. -/
def sourceKindForDevice (device : PyDict) : String := let deviceType := device.get "device_type"
  let removable := (device.get "removable").truthy
  if isText deviceType "optical" then "optical_disc"
  else if isText deviceType "floppy" then "floppy_media"
  else if isText deviceType "sd_card" || removable && isText deviceType "usb_storage" then
    if isText deviceType "sd_card" then "memory_card" else "usb_flash"
  else if removable then "legacy_medium"
  else "fixed_disk"

/-- The medium can be taken out. -/
def isRemovable (device : PyDict) : Bool := sourceKindForDevice device != "fixed_disk"

/-! ## Signals -/

/-- The text is a digest. -/
def isFingerprint (points : PyStr) : Bool := decide (points.length = 64) &&
    points.all fun point => decide (point ∈ PyStr.ofString "0123456789abcdef")

/-- The digest without blanks around it. -/
def normalizedFingerprint : PyValue → Option PyStr
  | .text points => if isFingerprint points.strip then some points.strip else none
  | _ => none

/-- The number, if it is positive. -/
def positiveInt (value : PyValue) : Option PyValue :=
  if value.int?.any fun number => decide (0 < number) then some value else none

/-- An integer that is not negative, or the default 0. -/
def nonnegativeInt (value : PyValue) : PyValue :=
  if value.int?.any fun number => decide (0 ≤ number) then value else .int 0

/-- The fields of a geometry that are kept. -/
def geometryFields : List String := ["cylinders", "heads", "sectors_per_track", "bytes_per_sector"]

/-- The fields with positive numbers. -/
def normalizedGeometry : PyValue → PyValue
  | .dict geometry =>
    let cleaned := geometryFields.filterMap fun field =>
      (positiveInt (PyDict.get geometry field)).map fun number => (PyValue.str field, number)
    if cleaned.isEmpty then .none else .dict cleaned
  | _ => .none

/-- A session with its place. -/
def normalizedSession : PyValue → Option PyValue
  | .dict entry => do
      let start ← (PyDict.get entry "start_sector").int?
      let length ← (PyDict.get entry "length_sectors").int?
      if start < 0 ∨ length < 0 then none
      else
        return .dict [(.str "start_sector", PyDict.get entry "start_sector"),
          (.str "length_sectors", PyDict.get entry "length_sectors")]
  | _ => none

/-- The sessions that have a place. -/
def normalizedSessions : PyValue → PyValue
  | .list entries =>
    let sessions := entries.filterMap normalizedSession
    if sessions.isEmpty then .none else .list sessions
  | _ => .none

/-- What tells one medium from another. -/
def normalizeMediumSignals (device : PyDict) : PyDict :=
  [(.str "capacity_bytes", device.get "size_bytes"),
    (.str "logical_block_size", device.get "logical_block_size"),
    (.str "physical_block_size", device.get "physical_block_size"),
    (.str "geometry", normalizedGeometry (device.get "geometry")),
    (.str "toc_sessions", normalizedSessions (device.get "toc_sessions")),
    (.str "sampled_fingerprint_sha256",
      match normalizedFingerprint (device.get "sampled_fingerprint_sha256") with
      | some points => .text points
      | none => .none),
    (.str "media_change_generation", nonnegativeInt (device.get "media_change_generation"))]

/-! ## Records -/

/-- The medium is there: it has a size or a fingerprint. -/
def isPlausibleSignals (signals : PyDict) : Bool :=
  (positiveInt (signals.get "capacity_bytes")).isSome ||
    (normalizedFingerprint (signals.get "sampled_fingerprint_sha256")).isSome

/-- The record is of a medium that is there. -/
def isPlausibleMedium (record : PyDict) : Bool := match record.get "medium_signals" with
  | .dict signals => isPlausibleSignals signals
  | _ => false

/-- The record that identifies a medium. -/
def mediumIdentityRecord (readerId : PyStr) (mediumSignals : PyDict) (identityStrength : String)
    (warnings : List String) : PyDict :=
  let signals := mediumSignalFields.map fun field => (PyValue.str field, mediumSignals.get field)
  [(.str "schema_version", .int mediaIdentitySchemaVersion), (.str "reader_id", .text readerId),
    (.str "identity_strength", .str identityStrength),
    (.str "warnings", .list (warnings.map .str)),
    (.str "medium_signals", .dict signals),
    (.str "has_medium", .bool (isPlausibleSignals signals))]

/-- The value is the id of a reader. -/
def isReaderId : PyValue → Bool
  | .text points => points.startsWith "reader_"
  | _ => false

/-- `strength not in IDENTITY_STRENGTHS` raises for what cannot be looked up. -/
def isIdentityStrength (value : PyValue) : Except PyError Bool :=
  if value.hashable then .ok (identityStrengths.any fun strength => isText value strength)
  else .error .typeError

/-- The first fault of a record. -/
def validateMediaIdentity (record : PyDict) : Except PyError MediaIdentityValidationResult := do
  if !(record.get "schema_version").eq (.int mediaIdentitySchemaVersion) then
    return { valid := false, warnings := ["unsupported_schema_version"] }
  else
    let readerWarnings := if isReaderId (record.get "reader_id") then [] else ["invalid_reader_id"]
    let strength ← isIdentityStrength (record.get "identity_strength")
    let strengthWarnings := if strength then [] else ["unknown_identity_strength"]
    match record.get "medium_signals" with
    | .dict signals =>
      let missing := mediumSignalFields.filter fun field => (PyDict.get? signals field).isNone
      let warnings := readerWarnings ++ strengthWarnings ++
        missing.map fun field => "missing_signal:" ++ field
      return { valid := warnings.isEmpty, warnings }
    | _ => return { valid := false, warnings := ["missing_medium_signals"] }

/-- What makes the identity weak. -/
def identityWarningsFor (device mediumSignals : PyDict) : List String :=
  if !(device.get "removable").truthy then []
  else
    ((if isPlausibleSignals mediumSignals then [] else ["no_medium_present"]) ++
      (if (normalizedFingerprint (mediumSignals.get "sampled_fingerprint_sha256")).isNone then
        ["missing_sampled_fingerprint"] else []) ++
      (if (device.get "fingerprint_unreadable").truthy then ["unreadable_fingerprint_sample"]
        else []) ++
      if sourceKindForDevice device ∈ ["optical_disc", "floppy_media"] then
        match mediumSignals.get "toc_sessions", mediumSignals.get "geometry" with
        | .none, .none => ["missing_toc_or_geometry"]
        | _, _ => []
      else []).eraseDups

end MediaIdentity

end Reperio
