import Reperio.Catalog.Schema
import Reperio.Checkpoints.Store
import Reperio.Media.Identity
import Reperio.Python.Repr

/-!
# Stable identities of a host's devices

`hostd/identity.py`: opaque identities for the devices of a host. A removable
device has two, that of the reader and that of the medium in it; the record of
the latter is what checkpoints and scans are bound to.
-/

namespace Reperio

open Python MediaIdentity

/-- An entry of `/dev/disk/by-id`; resolving its target may fail. -/
structure ByIdEntry where
  name : PyStr
  isSymlink : Bool
  target : Option PyStr

/-- What the identities of a host depend on beside its devices. -/
structure Host where
  runtime : Runtime
  display : Display
  -- nothing when the directory cannot be listed
  byIdEntries : Option (List ByIdEntry)

namespace Hostd

def stringOf : PyValue → PyStr
  | .text points => points
  | _ => []

/-! ## Names under `/dev/disk/by-id` -/

def contains (points : PyStr) (part : String) : Bool := decide (PyStr.ofString part <:+: points)

def safeByIdName (name : PyStr) : Option PyStr :=
  if name.isEmpty || contains name "/" || contains name "\x00" || contains name ".." then none
  else some (name.take 192)

/-- `Path(target).name`. -/
def pathName (target : PyStr) : PyStr :=
  ((target.splitOn (.ofChar '/')).filter fun part => part ≠ [] ∧
    part ≠ PyStr.ofString ".").getLast?.getD []

/-- The kernel name of an entry and the name it gives to that device. -/
def byIdName (entry : ByIdEntry) : Option (PyStr × PyStr) := do
  if !entry.isSymlink then none
  else
    let name ← safeByIdName entry.name
    let target ← entry.target
    let kernelName := pathName target
    if kernelName.isEmpty || contains kernelName ".." || contains kernelName "/" then none
    else return (kernelName, name)

/-- The names that devices have, in the order of the entries' names. -/
def byIdNamesByKernel (host : Host) : List (PyStr × PyStr) :=
  ((host.byIdEntries.getD []).insertionSort fun first second => first.name ≤ second.name).filterMap
    byIdName

/-! ## Digests -/

mutual

/-- `_normalize`, with `limit` levels of recursion left. -/
def normalize : ℕ → PyValue → Except PyError PyValue
  | 0, .dict _ => .error .recursionError
  | limit + 1, .dict items => do
      let sorted ← sortedOn PyValue.lt? Prod.fst (normalizeValues limit items)
      return .dict (← sorted.mapM fun item => do return (item.1, ← item.2))
  | 0, .list _ => .error .recursionError
  | limit + 1, .list items => do return .list (← normalizeItems limit items)
  | _, value => .ok value

def normalizeItems : ℕ → List PyValue → Except PyError (List PyValue)
  | _, [] => .ok []
  | limit, item :: items => do
      let first ← normalize limit item
      return first :: (← normalizeItems limit items)

def normalizeValues : ℕ → List (PyValue × PyValue) → List (PyValue × Except PyError PyValue)
  | _, [] => []
  | limit, (key, value) :: items => (key, normalize limit value) :: normalizeValues limit items

end

def digest (host : Host) (value : PyValue) : Except PyError String := do
  let shown ← reprValue host.display (← normalize host.runtime.recursionLimit value)
  match shown.toString? with
  | none => throw .valueError
  | some text => return String.ofList ((host.runtime.sha256Hex (utf8 text)).toList.take 32)

/-! ## Readers -/

/-- A child device without the facts that are not its place. -/
def placeOf (child : PyDict) : PyDict :=
  [(.str "start_sector", child.get "start_sector"), (.str "size_bytes", child.get "size_bytes")]

/-- `value or 0`. -/
def orZero (value : PyValue) : PyValue := if value.truthy then value else .int 0

def topology (device : PyDict) : Except PyError PyValue := match device.get "children" with
  | .list children => do
      let places := children.filterMap fun child =>
        match child with
        | .dict items => some (placeOf items)
        | _ => none
      let sorted ← sortedOn PyValue.lt? (fun place => PyValue.list
        [orZero (PyDict.get place "start_sector"), orZero (PyDict.get place "size_bytes")]) places
      return .list (sorted.map .dict)
  | _ => .ok (.list [])

def mediumDependentFacts (device : PyDict) : Except PyError PyDict := do
  return [(.str "size_bytes", device.get "size_bytes"),
    (.str "logical_block_size", device.get "logical_block_size"),
    (.str "physical_block_size", device.get "physical_block_size"),
    (.str "topology", ← topology device)]

def withChildIdentity (host : Host) (child : PyValue) (parent : PyDict) :
    Except PyError PyValue := do
  let copy ← dictOf child
  let sourceId ← digest host (.dict [(.str "parent_source_id", parent.get "source_id"),
    (.str "start_sector", copy.get "start_sector"), (.str "size_bytes", copy.get "size_bytes")])
  return .dict (((copy.set "source_id" (.str ("source_" ++ sourceId))).set "parent_source_id"
    (parent.get "source_id")).set "identity_strength" (.str "parent-topology"))

/-- `[_with_child_identity(child, copy) for child in copy.get("children", [])]`. -/
def withChildren (host : Host) (copy : PyDict) : Except PyError PyDict := do
  let children ← listOf ((copy.get? "children").getD (.list []))
  return copy.set "children"
    (.list (← children.mapM fun child => withChildIdentity host child copy))

/-- What identifies a reader. -/
structure ReaderBasis where
  facts : PyDict
  strength : String
  warnings : List String := []

def readerBasis (device : PyDict) (matchedById : List PyStr) : ReaderBasis :=
  let hardware := [(PyValue.str "vendor", device.get "vendor"), (.str "model", device.get "model")]
  let wwn := stringOf (device.get "wwn")
  let serial := stringOf (device.get "serial")
  if !wwn.isEmpty then
    { facts := hardware ++ [(.str "wwn", .text wwn)], strength := "wwn-facts" }
  else if !serial.isEmpty then
    { facts := hardware ++ [(.str "serial", .text serial)], strength := "serial-facts" }
  else
    match matchedById with
    | first :: _ => { facts := [(.str "by_id", .text first)], strength := "by-id" }
    | [] =>
      { facts := hardware ++ [(.str "device_type", device.get "device_type"),
          (.str "transport", device.get "transport"),
          (.str "removable", .bool (device.get "removable").truthy)]
        strength := "weak-facts"
        warnings := ["missing_stable_serial_or_by_id"] }

/-- What a device that is not removable adds. -/
def fixedFacts (device : PyDict) : Except PyError PyDict :=
  if (device.get "removable").truthy then .ok [] else mediumDependentFacts device

def withIdentity (host : Host) (device : PyDict) : Except PyError PyDict := do
  let warnings ← listOf ((device.get? "warnings").getD (.list []))
  let kernelName := stringOf (device.get "kernel_name")
  let matchedById := (byIdNamesByKernel host).filterMap fun pair =>
    if pair.1 = kernelName then some pair.2 else none
  let basis := readerBasis device matchedById
  let facts ← fixedFacts device
  let sourceId ← digest host (.dict (basis.facts ++ facts))
  withChildren host ((((device.set "source_id" (.str ("source_" ++ sourceId))).set
    "identity_strength" (.str basis.strength)).set "identity_warnings"
      (.list (warnings ++ basis.warnings.map .str))).set "by_id_name"
        (match matchedById with
          | first :: _ => .text first
          | [] => .none))

/-! ## Media -/

def mediumSourceId (host : Host) (readerId : PyStr) (signals : PyDict) : Except PyError String := do
  return "medium_" ++ (← digest host
    (.dict [(.str "reader_id", .text readerId), (.str "medium_signals", .dict signals)]))

/-- The medium is there, though its fingerprint may be missing. -/
def strengthWarningNeeded (device : PyDict) : Bool :=
  isPlausibleSignals (normalizeMediumSignals device)

/-- `_with_media_identity`, for a device with a reader identity. -/
def withMediaIdentity (host : Host) (device : PyDict) : Except PyError PyDict := do
  let readerId := stringOf (device.get "source_id")
  let readerStrength := stringOf (device.get "identity_strength")
  let readerWarnings ← listOf ((device.get? "identity_warnings").getD (.list []))
  let signals := normalizeMediumSignals device
  let hasFingerprint := (normalizedFingerprint (signals.get "sampled_fingerprint_sha256")).isSome
  let strength := if hasFingerprint then "reader-plus-medium" else "reader-facts"
  let warnings := identityWarningsFor device signals ++
    if !hasFingerprint && strengthWarningNeeded device then ["missing_sampled_fingerprint"] else []
  let mediumId ← mediumSourceId host readerId signals
  let identityWarnings ← fromKeys (readerWarnings ++ warnings.map .str)
  withChildren host ((((((device.set "reader_id" (.text readerId)).set "reader_identity_strength"
    (.text readerStrength)).set "source_id" (.str mediumId)).set "identity_strength"
      (.str strength)).set "identity_warnings" (.list identityWarnings)).set "medium_identity"
        (.dict (mediumIdentityRecord readerId signals strength warnings)))

/-! ## Devices -/

/-- A device and its children. -/
def identityTree (device : PyDict) : List PyDict := match device.get "children" with
  | .list children =>
    device :: children.filterMap fun child =>
      match child with
      | .dict items => some items
      | _ => none
  | _ => [device]

/-- The identities that are taken, each with the kernel name of its device. -/
abbrev Seen := List (PyStr × PyStr)

/-- One device of the tree takes its identity. -/
def claimIdentity (host : Host) (seen : Seen) (candidate : PyDict) : Except PyError Seen :=
  let sourceId := stringOf (candidate.get "source_id")
  let kernelName := stringOf (candidate.get "kernel_name")
  match seen.lookup sourceId with
  | some existing =>
    .error (.identityCollisionError (PyStr.ofString "stable identity collision for " ++
      reprText host.display sourceId ++ PyStr.ofString ": " ++ reprText host.display existing ++
      PyStr.ofString " and " ++ reprText host.display kernelName))
  | none => .ok ((sourceId, kernelName) :: seen)

/-- One device with its identities. -/
def identifyDevice (host : Host) (device : PyDict) : Except PyError PyDict := do
  let identified ← withIdentity host device
  if isRemovable device then withMediaIdentity host identified else return identified

def attachFrom (host : Host) : Seen → List PyDict → Except PyError (List PyDict)
  | _, [] => .ok []
  | seen, device :: devices => do
      let identified ← identifyDevice host device
      let seen ← (identityTree identified).foldlM (claimIdentity host) seen
      return identified :: (← attachFrom host seen devices)

def attachStableIdentities (host : Host) (devices : List PyDict) : Except PyError (List PyDict) :=
  attachFrom host [] devices

/-! ## Scan preparation -/

/-- `_prove_medium_identity` of `hostd/removable_sources.py`: whether the identity is proved, what
blocks it and whether a medium is there. -/
def proveMediumIdentity (device : PyDict) : Except PyError (Bool × List String × Bool) := do
  match device.get "medium_identity" with
  | .dict record =>
    let validation ← validateMediaIdentity record
    let mediumPresent := (PyDict.get record "has_medium").truthy
    if !validation.valid then return (false, ["medium_identity_invalid"], mediumPresent)
    else if !mediumPresent then return (false, ["no_medium_present"], false)
    else
      let fingerprint := match PyDict.get record "medium_signals" with
        | .dict signals => PyDict.get signals "sampled_fingerprint_sha256"
        | _ => .none
      match fingerprint with
      | .text points =>
        if points.length ≠ 64 then
          return (false, ["medium_identity_weak_no_fingerprint"], true)
        else return (true, [], true)
      | _ => return (false, ["medium_identity_weak_no_fingerprint"], true)
  | _ => return (false, ["missing_medium_identity_record"], (device.get "has_media").truthy)

end Hostd

end Reperio
