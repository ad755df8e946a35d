import Reperio.Hostd.StorageSafety

/-!
# Inspection of a running host

`hostd/storage_inspection.py`, on what the kernel says: the text of the mount
table, in which the interpreter finds lines and fields, and the directories of
holders, of which any may fail to be read.
-/

namespace Reperio.Hostd

open Python

/-! ## Reading text -/

/-- A text of which the last character may have been a carriage return. -/
def translateFrom : Bool → PyStr → PyStr
  | _, [] => []
  | afterReturn, point :: rest =>
    if point.val = 13 then .ofChar '\n' :: translateFrom true rest
    else if afterReturn && point.val == 10 then translateFrom false rest
    else point :: translateFrom false rest

/-- Universal newlines: a carriage return becomes a newline, alone or before one. -/
def translateNewlines (text : PyStr) : PyStr := translateFrom false text

/-- Where `str.splitlines` breaks. -/
def isLineBreak (point : CodePoint) : Bool :=
  decide (point.val ∈ [10, 11, 12, 13, 28, 29, 30, 133, 8232, 8233])

/-- `text.splitlines()`, of a text without carriage returns. -/
def splitlines : PyStr → List PyStr
  | [] => []
  | point :: rest =>
    if isLineBreak point then [] :: splitlines rest
    else
      match splitlines rest with
      | [] => [[point]]
      | line :: lines => (point :: line) :: lines

/-- The rest of a text of which some characters are replaced already. -/
def replaceFrom (old new : PyStr) : ℕ → PyStr → PyStr
  | _, [] => []
  | skip + 1, _ :: rest => replaceFrom old new skip rest
  | 0, point :: rest =>
    if old.isPrefixOf (point :: rest) then new ++ replaceFrom old new (old.length - 1) rest
    else point :: replaceFrom old new 0 rest

/-- `value.replace(old, new)`, for an old part that is not empty. -/
def replaceAll (old new value : PyStr) : PyStr := replaceFrom old new 0 value

/-- `_unescape_mountinfo`. -/
def unescapeMountinfo (value : PyStr) : PyStr :=
  [("\\040", " "), ("\\011", "\t"), ("\\012", "\n"), ("\\134", "\\")].foldl
    (fun value (escaped, decoded) => replaceAll (.ofString escaped) (.ofString decoded) value) value

/-- `_safe_fstype`. -/
def safeFstype (strings : Strings) (value : PyStr) : PyStr := let lowered := strings.lower value
  if matchesName (fun point => isLower point || isDigit point)
      (fun point => isLower point || isDigit point || isOneOf "._-" point) 63 lowered then
    lowered
  else .ofString "unknown"

/-- The record of one line of the mount table. -/
def mountRecord (strings : Strings) (line : PyStr) : Option PyDict := do
  let fields := words line
  let separator ← fields.idxOf? (.ofString "-")
  let majorMinor ← fields[2]?
  let mountPoint ← fields[4]?
  let options ← fields[5]?
  let fstype ← fields[separator + 1]?
  let mount ← normalizeMount strings [(.str "major_minor", .text majorMinor),
    (.str "mount_point", .text (unescapeMountinfo mountPoint)), (.str "options", .text options)]
  return [(.str "major_minor", .text mount.majorMinor),
    (.str "mount_point", .text mount.mountPoint),
    (.str "read_only", .bool (decide (mount.mode = .readOnly))),
    (.str "fstype", .text (safeFstype strings fstype))]

/-- The lines that the interpreter finds in a text. -/
def linesOf (text : PyStr) : List PyStr := splitlines (translateNewlines text)

/-- `_read_mountinfo`: nothing is read after an `OSError`. -/
def readMountinfo (strings : Strings) (text : Option PyStr) : List PyDict × Bool := match text with
  | none => ([], false)
  | some text => ((linesOf text).filterMap (mountRecord strings), true)

/-! ## Directories of holders -/

/-- An entry of a directory of holders, with the text of its device file. -/
structure HolderEntry where
  name : PyStr
  dev : PyStr
  isReadable : Bool

/-- The `holders` directory of a block device. -/
structure HolderDirectory where
  entries : List HolderEntry
  isReadable : Bool

/-- The directories of holders, by the number of their device. -/
abbrev Sysfs := List (PyStr × HolderDirectory)

/-- The number in a device file. -/
def HolderEntry.majorMinor (entry : HolderEntry) : PyStr := entry.dev.strip

def holderType (name : PyStr) : PyStr := .ofString (if name.startsWith "dm-" then "device_mapper"
    else if name.startsWith "md" then "mdraid" else "unsupported")

def holderRecord (entry : HolderEntry) : TextDict :=
  [(.ofString "major_minor", entry.majorMinor), (.ofString "holder_type", holderType entry.name),
    (.ofString "holder_name", safeName entry.name)]

/-- What is read of a directory: an `OSError` leaves nothing of it, or of the entry. -/
def readDirectory (directory : HolderDirectory) : List TextDict := if directory.isReadable then
    ((directory.entries.insertionSort fun first second => first.name ≤ second.name).filter
      fun entry =>
      entry.isReadable && validMajorMinor entry.majorMinor).map holderRecord
  else []

/-- The holders that can be read, by the number of the device that they hold. -/
def readableGraph (sysfs : Sysfs) : FiniteGraph PyStr TextDict :=
  graphOf (sysfs.map fun item => (item.1, readDirectory item.2))

def readHolderGraph (sources : List PyStr) (sysfs : Sysfs) : Holders :=
  ((readableGraph sysfs).walk childOf [] sources).reverse.filterMap fun parent =>
    if (readableGraph sysfs).next parent = [] then none
    else some (parent, (readableGraph sysfs).next parent)

/-! ## The inspection -/

/-- What the interpreter reads of a host. -/
structure LiveHost where
  strings : Strings
  -- nothing when the mount table cannot be read
  mountinfo : Option PyStr
  sysfs : Sysfs
  sysfsIsDirectory : Bool

def LiveHost.missing (host : LiveHost) : List String :=
  (if (readMountinfo host.strings host.mountinfo).2 then [] else ["mountinfo"]) ++
    if host.sysfsIsDirectory then [] else ["sysfs"]

def inspectLiveStorageState (host : LiveHost) (device : PyDict) : StorageState :=
  let result := inspectStorageState host.strings device
    (readMountinfo host.strings host.mountinfo).1
    (some (readHolderGraph (sourceMajorMinors device) host.sysfs))
  if host.missing.isEmpty then result
  else
    { result with
      blockers := result.blockers ++ [{
        reason := "storage_inspection_unavailable"
        majorMinor := .ofString "unknown"
        detail := ((host.missing.map PyStr.ofString).intersperse (.ofString ",")).flatten }]
      safeForPreparation := false
      inspectionComplete := false }

end Reperio.Hostd
