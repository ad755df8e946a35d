import Mathlib.Data.List.Dedup
import Mathlib.Data.List.Lex
import Mathlib.Data.List.MinMax
import Mathlib.Data.Nat.Digits.Defs
import Mathlib.Data.Prod.Lex
import Reperio.Encoding.Firsts
import Reperio.Graph.UnionFind
import Reperio.Python.IpAddress
import Reperio.Python.Operators
import Reperio.Python.Utf8
import Reperio.Relational.Table

/-!
# Duplicate groups

Findings are put into groups of the same content and of images and videos that look
alike. Every group has one member that stands for it, and an id that is a hash of the
ids of its members, so that a group cannot be built when one of these cannot be encoded.
-/

namespace Reperio.Duplicates

open Python Encoding Relational UnionFind

/-- The thresholds of similarity. -/
structure DuplicateGroupingConfig where
  imageHammingThreshold : ℤ := 8
  videoFrameHammingThreshold : ℤ := 10
  videoMinMatchingFrames : ℤ := 2
  maxVideoKeyframes : ℤ := 32

/-- A finding that may have duplicates. -/
structure DuplicateCandidate where
  findingId : PyStr
  contentSha256 : Option PyStr
  sizeBytes : Option ℤ
  sourcePaths : List PyStr
  mediaKind : PyStr
  previewUri : Option PyStr := none
  perceptualHash : Option PyStr := none
  videoKeyframeHashes : List PyStr := []
  contentId : Option PyStr := none
  deriving DecidableEq

/-- A finding in a group. -/
structure DuplicateMember where
  findingId : PyStr
  contentId : Option PyStr
  sourcePaths : List PyStr
  contentSha256 : Option PyStr
  sizeBytes : Option ℤ
  distance : Option ℕ
  matchingFrames : Option ℕ
  deriving DecidableEq

/-- What makes duplicates of findings. -/
inductive GroupKind where
  | exactSha256
  | imagePerceptual
  | videoKeyframe
  deriving DecidableEq

/-- The name of the kind. -/
def GroupKind.text : GroupKind → PyStr
  | exactSha256 => .ofString "exact-sha256"
  | imagePerceptual => .ofString "image-perceptual"
  | videoKeyframe => .ofString "video-keyframe"

def parserVersion : PyStr := .ofString "duplicate-groups-v1"

/-- Findings that are duplicates of one of them. -/
structure DuplicateGroup where
  groupId : PyStr
  groupKind : GroupKind
  algorithm : PyStr
  threshold : Option ℤ
  canonicalFindingId : PyStr
  canonicalPreviewUri : Option PyStr
  members : List DuplicateMember
  warnings : List PyStr
  version : PyStr := parserVersion
  deriving DecidableEq

/-- What a grouping returns. -/
structure DuplicateGroupingResult where
  groups : List DuplicateGroup
  warnings : List PyStr
  version : PyStr := parserVersion
  deriving DecidableEq

/-- What a grouping raises. -/
inductive DuplicateError where
  | unicodeEncodeError
  | valueError
  | indexError
  deriving DecidableEq

/-! ## Hashes -/

/-- `_hex_hash`. Of the characters that are not hexadecimal digits, `lower` makes one of the letters
`A` to `F` alone. -/
def hexHash (value : PyStr) : Option ℕ := let stripped := value.strip
  if stripped.isEmpty || decide (stripped.length % 2 ≠ 0) then none
  else
    (stripped.mapM IpAddress.hexDigit?).map fun digits =>
      digits.foldl (fun value digit => 16 * value + digit) 0

/-- The number of bits in which two hashes differ. -/
def hamming (left right : ℕ) : ℕ := (Nat.digits 2 (left ^^^ right)).count 1

/-- The text is a digest in hexadecimal. -/
def validSha256 (value : PyStr) : Bool :=
  decide (value.length = 64) && value.all fun point => (IpAddress.hexDigit? point).isSome

/-- How many frames of the one video have a frame of their own in the other one. -/
def matchingFrames (left right : List ℕ) (threshold : ℤ) : ℕ :=
  (left.foldl (fun (used : List ℕ) leftValue =>
    match right.zipIdx.find? fun frame =>
        decide (frame.2 ∉ used) && decide ((hamming leftValue frame.1 : ℤ) ≤ threshold) with
    | some frame => frame.2 :: used
    | none => used) []).length

/-! ## What is compared -/

/-- A loop passes a candidate over, warns of it or takes the value that it has. -/
inductive Reading (α : Type) where
  | skipped
  | invalid
  | valid (value : α)
  deriving DecidableEq

/-- The value that was read. -/
def Reading.value? {α : Type} : Reading α → Option α
  | valid value => some value
  | _ => none

/-- The value is there, but invalid. -/
def Reading.isInvalid {α : Type} : Reading α → Bool
  | invalid => true
  | _ => false

/-- What is not read is invalid. -/
def Reading.ofOption {α : Type} : Option α → Reading α
  | some value => valid value
  | none => invalid

/-- The digest of the content. -/
def readDigest (item : DuplicateCandidate) : Reading PyStr := match item.contentSha256 with
  | none => .skipped
  | some digest => if validSha256 digest then .valid digest else .invalid

/-- The hash of an image. -/
def readImage (item : DuplicateCandidate) : Reading ℕ :=
  if item.mediaKind ∉ [PyStr.ofString "image", PyStr.ofString "photo"] then .skipped
  else
    match item.perceptualHash with
    | none => .skipped
    | some hash => .ofOption (hexHash hash)

/-- `items[:stop]`. -/
def sliceTo {α : Type} (stop : ℤ) (items : List α) : List α :=
  if 0 ≤ stop then items.take stop.toNat else items.take (items.length + stop).toNat

/-- The hashes of the keyframes of a video. -/
def readVideo (config : DuplicateGroupingConfig) (item : DuplicateCandidate) : Reading (List ℕ) :=
  if item.mediaKind ≠ PyStr.ofString "video" || item.videoKeyframeHashes.isEmpty then .skipped
  else .ofOption ((sliceTo config.maxVideoKeyframes item.videoKeyframeHashes).mapM hexHash)

section Values

variable {α : Type}

/-- The items with what was read of them. -/
def validItems (read : DuplicateCandidate → Reading α) (items : List DuplicateCandidate) :
    List (DuplicateCandidate × α) :=
  items.filterMap fun item => (read item).value?.map fun value => (item, value)

/-- A warning for each invalid item. -/
def invalidWarnings (label : String) (read : DuplicateCandidate → Reading α)
    (items : List DuplicateCandidate) : List PyStr :=
  (items.filter fun item => (read item).isInvalid).map fun item =>
    .ofString (label ++ ":") ++ item.findingId

/-- `_lookup` and `_video_lookup`: the value of the first item with an id. Without one they raise.
-/
def lookup (findingId : PyStr) (values : List (DuplicateCandidate × α)) : Option α :=
  (values.find? fun value => value.1.findingId = findingId).map Prod.snd

/-- Two items whose values are related. Both are looked up among the values they come from. -/
def areClose (related : α → α → Bool) (values : List (DuplicateCandidate × α))
    (left right : DuplicateCandidate) : Bool :=
  match lookup left.findingId values, lookup right.findingId values with
  | some leftValue, some rightValue => related leftValue rightValue
  | _, _ => false

end Values

/-- Two images are alike. -/
def imageRelated (config : DuplicateGroupingConfig) (left right : ℕ) : Bool :=
  decide ((hamming left right : ℤ) ≤ config.imageHammingThreshold)

/-- Two videos are alike. -/
def videoRelated (config : DuplicateGroupingConfig) (left right : List ℕ) : Bool :=
  decide
    (config.videoMinMatchingFrames ≤ matchingFrames left right config.videoFrameHammingThreshold)

/-! ## Clusters -/

/-- What the nested loops join. -/
def closePairs (close : DuplicateCandidate → DuplicateCandidate → Bool) :
    List DuplicateCandidate → List (PyStr × PyStr)
  | [] => []
  | left :: items =>
    (items.filter (close left)).map (fun right => (left.findingId, right.findingId)) ++
      closePairs close items

/-- The root of each item. Looking up one changes the pointers for the next one. -/
def withRoots (turns : ℕ) : (PyStr → PyStr) → List DuplicateCandidate →
    List (PyStr × DuplicateCandidate)
  | _, [] => []
  | parent, item :: items =>
    let (root, parent) := find turns parent item.findingId
    (root, item) :: withRoots turns parent items

/-- `_clusters`. The pointers begin as those of every id to itself, and no path is longer than there
are items. -/
def clusters (items : List DuplicateCandidate)
    (close : DuplicateCandidate → DuplicateCandidate → Bool) : List (List DuplicateCandidate) :=
  if items.length < 2 then []
  else
    let parent := unionAll items.length id (closePairs close items)
    let grouped := groupByKey (withRoots items.length parent items)
    (grouped.filter fun group => decide (1 < group.2.length)).map fun group =>
      orderBy DuplicateCandidate.findingId group.2

/-! ## Groups -/

/-- `min(source_paths) if source_paths else ""`. -/
def minPath (sourcePaths : List PyStr) : PyStr := sourcePaths.min?.getD []

/-- The lesser one is preferred: one that is shown, that is larger, whose least path is lesser. -/
abbrev Preference : Type := Bool ×ₗ ℤ ×ₗ PyStr ×ₗ PyStr

/-- The smaller, the sooner an item is canonical. -/
def preference (hidden : Bool) (sizeBytes : Option ℤ) (sourcePaths : List PyStr)
    (findingId : PyStr) : Preference :=
  toLex (hidden, toLex (-(sizeBytes.getD 0), toLex (minPath sourcePaths, findingId)))

/-- `_preview_uri`. -/
def shownPath (findingId : PyStr) (members : List DuplicateMember) : Option PyStr :=
  (members.find? fun member => decide (member.findingId = findingId) &&
    !member.sourcePaths.isEmpty).bind fun member => member.sourcePaths.head?

/-- The preference of a member of a group. -/
def memberPreference (members : List DuplicateMember) (member : DuplicateMember) : Preference :=
  preference (shownPath member.findingId members).isNone member.sizeBytes member.sourcePaths
    member.findingId

/-- `_canonical_member`, which raises when there are no members. -/
def canonicalMember (members : List DuplicateMember) : Option DuplicateMember :=
  (orderBy (memberPreference members) members).head?

/-- The preference of a finding. -/
def candidatePreference (item : DuplicateCandidate) : Preference :=
  preference item.previewUri.isNone item.sizeBytes item.sourcePaths item.findingId

/-- `_canonical`. -/
def canonical (items : List DuplicateCandidate) : Option DuplicateCandidate :=
  (orderBy candidatePreference items).head?

/-- The finding as a member of a group. -/
def toMember (distance matchingFrames : Option ℕ) (item : DuplicateCandidate) :
    DuplicateMember where
  findingId := item.findingId
  contentId := item.contentId
  sourcePaths := item.sourcePaths
  contentSha256 := item.contentSha256
  sizeBytes := item.sizeBytes
  distance := distance
  matchingFrames := matchingFrames

/-- `"\0".join((group_kind, algorithm, *sorted(ids)))`. -/
def rawId (kind : GroupKind) (algorithm : PyStr) (members : List DuplicateMember) : PyStr :=
  List.intercalate [0]
    (kind.text :: algorithm :: orderBy id (members.map DuplicateMember.findingId))

/-- `f"{value}"`, which has a limit of digits. -/
def intText (value : ℤ) : Except DuplicateError PyStr :=
  if (Nat.toDigits 10 value.natAbs).length ≤ intMaxStrDigits then .ok (.ofChars (renderInt value))
  else .error .valueError

/-- `text.encode("utf-8")`. -/
def encodeUtf8 (text : PyStr) : Except DuplicateError (List UInt8) := match text.toString? with
  | some encoded => .ok (utf8 encoded)
  | none => .error .unicodeEncodeError

section Build

-- `hashlib.sha256(data).hexdigest()`
variable (hexdigest : List UInt8 → PyStr)

/-- `_group`. -/
def group (kind : GroupKind) (algorithm : PyStr) (threshold : Option ℤ)
    (members : List DuplicateMember) (warnings : List PyStr) :
    Except DuplicateError DuplicateGroup :=
  match canonicalMember members with
  | none => .error .indexError
  | some canonical => do
      let data ← encodeUtf8 (rawId kind algorithm members)
      return {
        groupId := .ofString "dup-" ++ (hexdigest data).take 24
        groupKind := kind
        algorithm := algorithm
        threshold := threshold
        canonicalFindingId := canonical.findingId
        canonicalPreviewUri := shownPath canonical.findingId members
        members := orderBy DuplicateMember.findingId members
        warnings := warnings }

/-! ## Groups of the same content -/

/-- The items of each digest as it is spelled. -/
def byHash (items : List DuplicateCandidate) : List (PyStr × List DuplicateCandidate) :=
  orderBy Prod.fst (groupByKey ((validItems readDigest items).map Prod.swap))

/-- `len({member.size_bytes for member in members}) == 1`. -/
def haveOneSize (members : List DuplicateCandidate) : Bool :=
  decide ((members.map DuplicateCandidate.sizeBytes).dedup.length = 1)

/-- The findings of equal digest and size. -/
def exactClusters (items : List DuplicateCandidate) : List (List DuplicateCandidate) :=
  ((byHash items).filter fun group => decide (2 ≤ group.2.length) && haveOneSize group.2).map
    Prod.snd

/-- What is said of digests and sizes. -/
def exactWarnings (items : List DuplicateCandidate) : List PyStr :=
  invalidWarnings "invalid_content_sha256" readDigest items ++
    ((byHash items).filter fun group => decide (2 ≤ group.2.length) && !haveOneSize group.2).map
      fun group => .ofString "sha256_size_mismatch:" ++ group.1

/-- The group of equal contents. -/
def exactGroup (cluster : List DuplicateCandidate) : Except DuplicateError DuplicateGroup :=
  group hexdigest .exactSha256 (.ofString "sha256-size-v1") none (cluster.map (toMember none none))
    []

/-! ## Groups of images and of videos -/

variable (config : DuplicateGroupingConfig)

/-- The images that hang together. -/
def imageClusters (items : List DuplicateCandidate) : List (List DuplicateCandidate) :=
  let values := validItems readImage items
  clusters (values.map Prod.fst) (areClose (imageRelated config) values)

/-- `_distance_to_canonical`. -/
def distanceToCanonical (cluster : List DuplicateCandidate) (values : List (DuplicateCandidate × ℕ))
    (item : DuplicateCandidate) : Option ℕ := do
  let value ← lookup item.findingId values
  let canonical ← canonical cluster
  return hamming value (← lookup canonical.findingId values)

/-- The group of such images. -/
def imageGroup (items cluster : List DuplicateCandidate) : Except DuplicateError DuplicateGroup :=
  group hexdigest .imagePerceptual (.ofString "hex-hamming-v1") (some config.imageHammingThreshold)
    (cluster.map fun item =>
      toMember (distanceToCanonical cluster (validItems readImage items) item) none item) []

/-- The videos that hang together. -/
def videoClusters (items : List DuplicateCandidate) : List (List DuplicateCandidate) :=
  let values := validItems (readVideo config) items
  clusters (values.map Prod.fst) (areClose (videoRelated config) values)

/-- The frames shared with the canonical one. -/
def framesInCanonical (cluster : List DuplicateCandidate)
    (values : List (DuplicateCandidate × List ℕ)) (item : DuplicateCandidate) : Option ℕ := do
  let value ← lookup item.findingId values
  let canonical ← canonical cluster
  return matchingFrames value (← lookup canonical.findingId values)
    config.videoFrameHammingThreshold

/-- The group of such videos. -/
def videoGroup (items cluster : List DuplicateCandidate) :
    Except DuplicateError DuplicateGroup := do
  let frames ← intText config.videoMinMatchingFrames
  group hexdigest .videoKeyframe (.ofString "bounded-keyframe-hamming-v1")
    (some config.videoFrameHammingThreshold)
    (cluster.map fun item =>
      toMember none (framesInCanonical config cluster (validItems (readVideo config) items) item)
        item)
    [.ofString "video_min_matching_frames:" ++ frames]

/-- The groups in front of their last sorting. -/
def unsortedGroups (items : List DuplicateCandidate) :
    Except DuplicateError (List DuplicateGroup) := do
  let exactGroups ← (exactClusters items).mapM (exactGroup hexdigest)
  let imageGroups ← (imageClusters config items).mapM (imageGroup hexdigest config items)
  let videoGroups ← (videoClusters config items).mapM (videoGroup hexdigest config items)
  return exactGroups ++ imageGroups ++ videoGroups

/-- All groups of the candidates. -/
def buildDuplicateGroups (candidates : List DuplicateCandidate)
    (config : Option DuplicateGroupingConfig) : Except DuplicateError DuplicateGroupingResult := do
  let config := config.getD {}
  let items := orderBy DuplicateCandidate.findingId candidates
  let groups ← unsortedGroups hexdigest config items
  let warnings := exactWarnings items ++
    invalidWarnings "invalid_perceptual_hash" readImage items ++
    invalidWarnings "invalid_video_keyframe_hash" (readVideo config) items
  return {
    groups := orderBy (fun group => toLex (group.groupKind.text, group.groupId)) groups
    warnings := firsts id [] warnings }

end Build

end Reperio.Duplicates
