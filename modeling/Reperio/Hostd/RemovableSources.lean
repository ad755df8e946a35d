import Reperio.Hostd.Identity
import Reperio.Hostd.ReadOnly

/-!
# Removable sources

`hostd/removable_sources.py`: a removable source is prepared for a scan by proving
the identity of its medium and the read-only state of its devices, each on its own,
and a scan is launched only if both are proved. Locks of the medium itself are
reported and decide nothing.
-/

namespace Reperio.Hostd

open Python MediaIdentity

/-- `SOURCE_KINDS`. -/
def removableSourceKinds : List String :=
  ["usb_flash", "memory_card", "optical_disc", "floppy_media"]

/-- `WRITE_ONCE_OPTICAL_MEDIA`. -/
def writeOnceOpticalMedia : List String := ["cdr", "cdrw", "dvdr", "dvdplusr", "bdr", "bdrw"]

/-- What the interpreter knows about strings, with the classes of characters. -/
structure Interpreter extends Strings where
  display : Display
  isWord : CodePoint → Bool

/-- What a drive says about its write protection. -/
structure PhysicalLockReport where
  writeProtected : Bool
  writeOnce : Bool
  source : String
  informationalOnly : Bool := true

/-- A source that is ready to be scanned. -/
structure PreparedSource where
  sourceId : PyStr
  readerId : PyStr
  sourceKind : String
  mediumPresent : Bool
  mediumIdentityProven : Bool
  readOnlyVerified : Bool
  physicalLock : PhysicalLockReport
  automountBlockers : List PyStr
  blockers : List String
  warnings : List String := []

/-- Nothing speaks against a scan. -/
def PreparedSource.readyForScan (prepared : PreparedSource) : Bool :=
  prepared.mediumIdentityProven && prepared.readOnlyVerified && prepared.blockers.isEmpty &&
    prepared.automountBlockers.isEmpty

/-! ## Locks -/

/-- A boundary of a word, `\b`, before the character at the index. -/
def isBoundary (isWord : CodePoint → Bool) (points : PyStr) (index : ℕ) : Bool :=
  ((points.take index).getLast?.any isWord) != (points[index]?.any isWord)

/-- `re.search(rf"\b{token}\b", text)`. -/
def hasWord (isWord : CodePoint → Bool) (points : PyStr) (token : String) : Bool :=
  (List.range (points.length + 1)).any fun start =>
    PyStr.startsWith (points.drop start) token && isBoundary isWord points start &&
      isBoundary isWord points (start + token.length)

/-- `str(value or "").lower()`. -/
def lowered (strings : Strings) (value : PyValue) : PyStr :=
  strings.lower (if value.truthy then strings.str value else [])

/-- The medium is written only once. -/
def isWriteOnce (interpreter : Interpreter) (device : PyDict) : Bool :=
  let model := lowered interpreter.toStrings (device.get "model")
  let mediaType := lowered interpreter.toStrings (device.get "media_type")
  let combined := model ++ .ofString " " ++ mediaType
  (writeOnceOpticalMedia.any fun token => hasWord interpreter.isWord combined token) ||
    (device.get "write_once").truthy

/-- What the drive says of a lock. -/
def physicalLockReport (interpreter : Interpreter) (device : PyDict) :
    Except PyError PhysicalLockReport :=
  let deviceType := device.get "device_type"
  if !deviceType.hashable then .error .typeError
  else if isText deviceType "optical" || isText deviceType "optical_drive" then
    let writeOnce := isWriteOnce interpreter device
    .ok { writeProtected := writeOnce, writeOnce, source := "optical-write-once" }
  else if (device.get "write_protected").truthy || (device.get "sd_lock").truthy then
    .ok { writeProtected := true, writeOnce := false, source := "sd-write-protect-switch" }
  else if (device.get "read_only").truthy then
    .ok { writeProtected := true, writeOnce := false, source := "sysfs-ro" }
  else .ok { writeProtected := false, writeOnce := false, source := "none" }

/-! ## Preparation -/

/-- The reason of a blocker. -/
def automountReason (strings : Strings) : PyValue → PyStr
  | .dict blocker =>
    strings.str ((PyDict.get? blocker "reason").getD (.str "storage_state_blocked"))
  | _ => .ofString "storage_state_blocked"

/-- The mount is a read-only one. -/
def isMountedReadOnly : PyValue → Bool
  | .dict mount => isText (PyDict.get mount "mode") "ro"
  | _ => false

/-- `_automount_notes`: an empty state is like none. -/
def automountNotes (strings : Strings) (storageState : Option PyDict) :
    Except PyError (List PyStr × List String) := do
  let state := storageState.getD []
  if state.isEmpty then return ([], [])
  else
    let blockers ← listOf ((PyDict.get? state "blockers").getD (.list []))
    let mounts ← listOf ((PyDict.get? state "mounts").getD (.list []))
    return (blockers.map (automountReason strings),
      (mounts.filter isMountedReadOnly).map fun _ => "source_mounted_read_only")

/-- The answer for any other source. -/
def notRemovable (sourceId readerId : PyStr) (sourceKind : String) : PreparedSource where
  sourceId := sourceId
  readerId := readerId
  sourceKind := sourceKind
  mediumPresent := false
  mediumIdentityProven := false
  readOnlyVerified := false
  physicalLock := { writeProtected := false, writeOnce := false, source := "none" }
  automountBlockers := []
  blockers := ["not_a_removable_source"]

/-- A source is made ready to be scanned. -/
def prepareRemovableSource (interpreter : Interpreter) (device : PyDict) (ops : ReadOnlyOps)
    (storageState : Option PyDict) : Except PyError PreparedSource := do
  let sourceId := stringOf (device.get "source_id")
  let readerId := stringOf
    (if (device.get "reader_id").truthy then device.get "reader_id" else device.get "source_id")
  let sourceKind := sourceKindForDevice device
  if sourceKind ∉ removableSourceKinds then return notRemovable sourceId readerId sourceKind
  else
    let (identityProven, identityBlockers, mediumPresent) ← proveMediumIdentity device
    let readOnly ← prepareReadOnly interpreter.toStrings device ops storageState
    let (automountBlockers, warnings) ← automountNotes interpreter.toStrings storageState
    let blockers := identityBlockers ++ readOnly.blockers.map ReadOnlyBlocker.reason
    let physicalLock ← physicalLockReport interpreter device
    return {
      sourceId, readerId, sourceKind, mediumPresent
      mediumIdentityProven := identityProven
      readOnlyVerified := readOnly.prepared
      physicalLock, automountBlockers
      blockers := blockers.eraseDups
      warnings := warnings.eraseDups }

/-! ## Launch -/

/-- Why a launch is refused. -/
structure ScanLaunchDenied where
  code : String
  message : PyStr

/-- `require_scan_launch_approval`; the device is not looked at. -/
def requireScanLaunchApproval (display : Display) (_device : PyDict) (prepared : PreparedSource) :
    Except ScanLaunchDenied Unit :=
  if prepared.mediumIdentityProven && prepared.readOnlyVerified && prepared.blockers.isEmpty then
    .ok ()
  else
    let reasons := (if prepared.readOnlyVerified then [] else ["read_only_not_verified"]) ++
      (if prepared.mediumIdentityProven then [] else ["medium_identity_not_proven"]) ++
      prepared.blockers
    .error { code := "scan_launch_denied"
             message := .ofString "scan launch refused for source " ++
               reprText display prepared.sourceId ++ .ofString ": " ++
               .ofString (", ".intercalate reasons) }

end Reperio.Hostd
