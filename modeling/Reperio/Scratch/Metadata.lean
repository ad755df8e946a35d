import Reperio.Python.JsonCanonical
import Reperio.Scratch.Put

/-!
# The metadata of a content

What is in a metadata file: the facts of the content, and the provenance of
every reference to it, oldest first. A provenance is a JSON text there, so what
is read back of it is its JSON image, and reading and writing it again changes
nothing but the order of its keys.
-/

namespace Reperio.Scratch

open Python Storage Concurrency

/-! ## The JSON of a metadata file -/

/-- The members in the order in which they are written. -/
def metadataJson (sha256 : String) (size : ℕ) (references : ℤ) (provenance : List Json) : Json :=
  .object [(.ofString "content_id", .text (.ofString (contentId sha256))),
    (.ofString "provenance", .list provenance),
    (.ofString "ref_count", .int references),
    (.ofString "sha256", .text (.ofString sha256)),
    (.ofString "size_bytes", .int size),
    (.ofString "storage_uri", .text (.ofString (storageUri sha256)))]

/-- The dictionary that is read from it. -/
def readMetadata (sha256 : String) (size : ℕ) (references : ℤ) (provenance : List PyValue) :
    PyDict :=
  [(.str "content_id", .str (contentId sha256)), (.str "provenance", .list provenance),
    (.str "ref_count", .int references),
    (.str "sha256", .str sha256),
    (.str "size_bytes", .int size),
    (.str "storage_uri", .str (storageUri sha256))]

variable {allowNan : Bool} {limit : ℕ} {values : List PyValue}

section Json

variable {sha256 : String} {size : ℕ} {references : ℤ}

theorem ofJson_metadataJson (provenance : List Json) :
    ofJson (metadataJson sha256 size references provenance).joined =
      .dict
        (readMetadata sha256 size references (provenance.map fun json => ofJson json.joined)) := by
  have keys :
    ([PyStr.ofString "content_id", PyStr.ofString "provenance", PyStr.ofString "ref_count",
      PyStr.ofString "sha256", PyStr.ofString "size_bytes", PyStr.ofString "storage_uri"] :
      List PyStr).Nodup := by
    decide
  simp only [metadataJson, Json.joined, Json.joinedMembers, PyStr.joined_ofString, ofJson,
    ofJsonMembers, Json.joinedItems_eq_map, Json.ofJsonItems_eq_map, List.map_map]
  rw [collectItems_of_nodup (by exact keys)]
  rfl

theorem extendMetadata_readMetadata (recorded : List PyValue) (provenance : PyDict) :
    extendMetadata (readMetadata sha256 size references recorded) provenance =
      .ok (readMetadata sha256 size (references + 1) (recorded ++ [.dict provenance])) := by
  rfl

theorem forall_of_mapM_ok {α β ε : Type} {convert : α → Except ε β} {items : List α}
    {converted : List β} (mapped : items.mapM convert = .ok converted) :
    ∀ item ∈ items, ∃ result, convert item = .ok result := by
  induction items generalizing converted with
  | nil => exact fun _ member => absurd member List.not_mem_nil
  | cons first items ih =>
    rw [List.mapM_cons] at mapped
    rcases bind_eq_ok mapped with ⟨result, isResult, rest⟩
    rcases bind_eq_ok rest with ⟨results, areResults, _⟩
    exact List.forall_mem_cons.mpr ⟨⟨result, isResult⟩, ih areResults⟩

/-- A dictionary with string keys that is written was written value by value. -/
theorem toJson_textMembers (members : List (PyStr × PyValue)) {json : Json}
    (written : toJson allowNan (limit + 1)
      (.dict (members.map fun member => (.text member.1, member.2))) = .ok json) :
    ∃ jsons : List (PyStr × Json), List.Forall₂ (fun member other => member.1 = other.1 ∧
        toJson allowNan limit member.2 = .ok other.2) members jsons ∧
      json = .object (jsons.insertionSort fun first second => first.1 ≤ second.1) := by
  rw [toJson, toJsonValues_eq_map, List.map_map] at written
  rcases bind_eq_ok written with ⟨sorted, isSorted, isJson⟩
  have each : ∀ member ∈ members, ∃ value, toJson allowNan limit member.2 = .ok value := by
    intro member isMember
    rw [toJsonMembers] at isSorted
    split at isSorted
    · rcases forall_of_mapM_ok isSorted (.text member.1, toJson allowNan limit member.2)
        ((List.mem_insertionSort _).mpr (List.mem_map_of_mem isMember)) with ⟨result, converted⟩
      rcases bind_eq_ok converted with ⟨key, _, rest⟩
      rcases bind_eq_ok rest with ⟨value, isValue, _⟩
      exact ⟨value, isValue⟩
    · cases isSorted
  have jsons : ∃ jsons : List (PyStr × Json), List.Forall₂ (fun member other => member.1 = other.1 ∧
        toJson allowNan limit member.2 = .ok other.2) members jsons ∧
      members.map (fun member => (PyValue.text member.1, toJson allowNan limit member.2)) =
        jsons.map fun other => (.text other.1, .ok other.2) := by
    clear written isSorted
    induction members with
    | nil => exact ⟨[], .nil, rfl⟩
    | cons member members ih =>
      rcases each member List.mem_cons_self with ⟨value, isValue⟩
      rcases ih (fun other isOther => each other (List.mem_cons_of_mem _ isOther)) with
        ⟨jsons, all, same⟩
      refine ⟨(member.1, value) :: jsons, .cons ⟨rfl, isValue⟩ all, ?_⟩
      rw [List.map_cons, List.map_cons, same, isValue]
  rcases jsons with ⟨jsons, all, same⟩
  refine ⟨jsons, all, ?_⟩
  have isSame : toJsonMembers allowNan (jsons.map fun other => (.text other.1, .ok other.2)) =
      .ok sorted := by
    rw [← same]
    exact isSorted
  rw [toJsonMembers_text] at isSame
  cases isSame
  cases isJson
  rfl

theorem toJson_int {value : ℤ} {json : Json}
    (written : toJson allowNan limit (.int value) = .ok json) : json = .int value := by
  rw [toJson, checkInt] at written
  split at written
  · cases written
    rfl
  · cases written

theorem toJson_list {json : Json} (written : toJson allowNan limit (.list values) = .ok json) :
    ∃ depth jsons, limit = depth + 1 ∧ toJsonItems allowNan depth values = .ok jsons ∧
      json = .list jsons := by
  rcases limit with _ | depth
  · cases written
  · rw [toJson] at written
    rcases bind_eq_ok written with ⟨jsons, areJsons, isJson⟩
    cases isJson
    exact ⟨depth, jsons, rfl, areJsons, rfl⟩

/-- What is written of the metadata is written of each provenance. -/
theorem toJson_readMetadata {provenance : List PyValue} {json : Json}
    (written : toJson true limit (.dict (readMetadata sha256 size references provenance)) =
      .ok json) :
    ∃ depth jsons, limit = depth + 2 ∧ toJsonItems true depth provenance = .ok jsons ∧
      json = metadataJson sha256 size references jsons := by
  rcases limit with _ | limit
  · cases written
  rcases toJson_textMembers
    [(.ofString "content_id", .str (contentId sha256)), (.ofString "provenance", .list provenance),
      (.ofString "ref_count", .int references), (.ofString "sha256", .str sha256),
      (.ofString "size_bytes", .int size), (.ofString "storage_uri", .str (storageUri sha256))]
    written with ⟨jsons, all, rfl⟩
  simp only [List.forall₂_cons_left_iff, List.forall₂_nil_left_iff] at all
  rcases all with ⟨⟨_, _⟩, _, ⟨rfl, id⟩, ⟨⟨_, _⟩, _, ⟨rfl, list⟩, ⟨⟨_, _⟩, _, ⟨rfl, count⟩,
    ⟨⟨_, _⟩, _, ⟨rfl, hash⟩, ⟨⟨_, _⟩, _, ⟨rfl, length⟩, ⟨⟨_, _⟩, _, ⟨rfl, uri⟩, rfl, rfl⟩,
      rfl⟩, rfl⟩, rfl⟩, rfl⟩, rfl⟩
  cases id
  cases hash
  cases uri
  obtain rfl := toJson_int count
  obtain rfl := toJson_int length
  rcases toJson_list list with ⟨depth, jsons, rfl, areJsons, rfl⟩
  exact ⟨depth, jsons, rfl, areJsons, rfl⟩

/-- The first metadata of a content is written in the same order. -/
theorem toJson_newMetadata {provenance : PyDict} {json : Json}
    (written : toJson true limit (.dict (newMetadata sha256 size provenance)) = .ok json) :
    ∃ depth jsons, limit = depth + 2 ∧ toJsonItems true depth [.dict provenance] = .ok jsons ∧
      json = metadataJson sha256 size 1 jsons := by
  rcases limit with _ | limit
  · cases written
  rcases toJson_textMembers
    [(.ofString "content_id", .str (contentId sha256)), (.ofString "sha256", .str sha256),
      (.ofString "size_bytes", .int size), (.ofString "storage_uri", .str (storageUri sha256)),
      (.ofString "ref_count", .int 1), (.ofString "provenance", .list [.dict provenance])]
    written with ⟨jsons, all, rfl⟩
  simp only [List.forall₂_cons_left_iff, List.forall₂_nil_left_iff] at all
  rcases all with ⟨⟨_, _⟩, _, ⟨rfl, id⟩, ⟨⟨_, _⟩, _, ⟨rfl, hash⟩, ⟨⟨_, _⟩, _, ⟨rfl, length⟩,
    ⟨⟨_, _⟩, _, ⟨rfl, uri⟩, ⟨⟨_, _⟩, _, ⟨rfl, count⟩, ⟨⟨_, _⟩, _, ⟨rfl, list⟩, rfl, rfl⟩,
      rfl⟩, rfl⟩, rfl⟩, rfl⟩, rfl⟩
  cases id
  cases hash
  cases uri
  obtain rfl := toJson_int count
  obtain rfl := toJson_int length
  rcases toJson_list list with ⟨depth, jsons, rfl, areJsons, rfl⟩
  exact ⟨depth, jsons, rfl, areJsons, rfl⟩

end Json

/-! ## Images -/

/-- What is written of a JSON value after it was read. -/
def restored (json : Json) : Json := json.joined.sorted

theorem joined_restored (json : Json) : (restored json).joined = restored json :=
  Json.joined_sorted (Json.joined_joined json)

theorem restored_restored (json : Json) : restored (restored json) = restored json := by
  rw [restored, joined_restored, restored, Json.sorted_of_canonical (Json.canonical_sorted _)]

/-- The JSON value of a provenance, as it was first written or as it was written again. -/
def IsImage (limit : ℕ) (provenance : PyDict) (json : Json) : Prop :=
  ∃ depth original, limit = depth + 2 ∧ toJson true depth (.dict provenance) = .ok original ∧
    (json = original ∨ json = restored original)

theorem IsImage.restored {provenance : PyDict} {json : Json}
    (image : IsImage limit provenance json) : IsImage limit provenance (restored json) := by
  rcases image with ⟨depth, original, isDepth, written, rfl | rfl⟩
  · exact ⟨depth, json, isDepth, written, Or.inr rfl⟩
  · refine ⟨depth, original, isDepth, written, Or.inr ?_⟩
    exact restored_restored original

/-- The provenance is read back as its JSON image, up to the order of keys. -/
def Restores (limit : ℕ) (provenance : PyDict) (value : PyValue) : Prop :=
  ∃ depth original, limit = depth + 2 ∧ toJson true depth (.dict provenance) = .ok original ∧
    (value = ofJson original.joined ∨ value = ofJson (restored original))

theorem IsImage.restores {provenance : PyDict} {json : Json}
    (image : IsImage limit provenance json) : Restores limit provenance (ofJson json.joined) := by
  rcases image with ⟨depth, original, isDepth, written, rfl | rfl⟩
  · exact ⟨depth, json, isDepth, written, Or.inl rfl⟩
  · refine ⟨depth, original, isDepth, written, Or.inr ?_⟩
    rw [joined_restored]

/-! ## Texts -/

/-- The text records a content and the provenances of the references to it. -/
def Describes (limit : ℕ) (sha256 : String) (size : ℕ) (provenances : List PyDict)
    (text : String) : Prop :=
  ∃ jsons, text = String.ofList (metadataJson sha256 size provenances.length jsons).render ∧
    (metadataJson sha256 size provenances.length jsons).Fits true limit ∧
      List.Forall₂ (IsImage limit) provenances jsons

theorem dumps_eq_ok {value : PyValue} {text : String}
    (written : dumps allowNan limit value = .ok text) :
    ∃ json, toJson allowNan limit value = .ok json ∧ text = String.ofList json.render := by
  rcases bind_eq_ok written with ⟨json, isJson, isText⟩
  cases isText
  exact ⟨json, isJson, rfl⟩

section Texts

variable {store : ScratchStore} {sha256 text : String} {size : ℕ} {provenances : List PyDict}
  {provenance : PyDict}

theorem loads_of_describes (describes : Describes limit sha256 size provenances text) :
    ∃ values, loads limit text = .ok (.dict (readMetadata sha256 size provenances.length values)) ∧
      List.Forall₂ (Restores limit) provenances values := by
  rcases describes with ⟨jsons, rfl, fits, images⟩
  refine ⟨jsons.map fun json => ofJson json.joined, ?_, ?_⟩
  · rw [loads_render fits, ofJson_metadataJson]
  · rw [List.forall₂_map_right_iff]
    exact images.imp fun _ _ image => image.restores

/-- The first reference. -/
theorem describes_new
    (written : dumps true limit (.dict (newMetadata sha256 size provenance)) = .ok text) :
    Describes limit sha256 size [provenance] text := by
  rcases dumps_eq_ok written with ⟨json, isJson, rfl⟩
  have fits := fits_toJson _ isJson
  rcases toJson_newMetadata isJson with ⟨depth, jsons, rfl, areJsons, rfl⟩
  rw [toJsonItems] at areJsons
  rcases bind_eq_ok areJsons with ⟨original, isOriginal, rest⟩
  cases rest
  exact ⟨[original], rfl, fits, .cons ⟨depth, original, rfl, isOriginal, Or.inl rfl⟩ .nil⟩

theorem toJsonItems_append {firsts seconds : List PyValue} {jsons : List Json}
    (written : toJsonItems allowNan limit (firsts ++ seconds) = .ok jsons) :
    ∃ before after, toJsonItems allowNan limit firsts = .ok before ∧
      toJsonItems allowNan limit seconds = .ok after ∧ jsons = before ++ after := by
  induction firsts generalizing jsons with
  | nil => exact ⟨[], jsons, rfl, written, rfl⟩
  | cons first firsts ih =>
    rw [List.cons_append, toJsonItems] at written
    rcases bind_eq_ok written with ⟨json, isJson, rest⟩
    rcases bind_eq_ok rest with ⟨others, areOthers, isAll⟩
    rcases ih areOthers with ⟨before, after, areBefore, areAfter, rfl⟩
    cases isAll
    refine ⟨json :: before, after, ?_, areAfter, rfl⟩
    rw [toJsonItems, isJson, areBefore]
    rfl

/-- One more reference. -/
theorem describes_extend (describes : Describes limit sha256 size provenances text)
    {existing : PyDict} (read : loads limit text = .ok (.dict existing)) {data : PyDict}
    (extended : extendMetadata existing provenance = .ok data) {next : String}
    (written : dumps true limit (.dict data) = .ok next) :
    Describes limit sha256 size (provenances ++ [provenance]) next := by
  rcases describes with ⟨jsons, rfl, fits, images⟩
  rw [loads_render fits, ofJson_metadataJson] at read
  cases read
  rw [extendMetadata_readMetadata] at extended
  cases extended
  rcases dumps_eq_ok written with ⟨json, isJson, rfl⟩
  have nextFits := fits_toJson _ isJson
  rcases toJson_readMetadata isJson with ⟨depth, all, rfl, areAll, rfl⟩
  rcases toJsonItems_append areAll with ⟨before, after, areBefore, areAfter, rfl⟩
  -- what was recorded before is written as it was read
  have each : ∀ json ∈ jsons, json.Fits true depth := by
    have list : (Json.list jsons).Fits true (depth + 1) :=
      Json.fitsMembers_iff.mp fits.2 (.ofString "provenance", .list jsons) (by simp)
    exact Json.fitsItems_iff.mp list.2
  rw [@toJsonItems_ok _ _ _ restored _ fun json member =>
    toJson_ofJson (Json.fits_joined (each json member))] at areBefore
  cases areBefore
  rw [toJsonItems] at areAfter
  rcases bind_eq_ok areAfter with ⟨original, isOriginal, rest⟩
  cases rest
  have count : ((provenances ++ [provenance]).length : ℤ) = provenances.length + 1 := by
    rw [List.length_append, List.length_singleton]
    rfl
  refine ⟨jsons.map restored ++ [original], ?_, ?_, ?_⟩
  · rw [count]
  · rw [count]
    exact nextFits
  · refine List.rel_append ?_ (.cons ⟨depth, original, rfl, isOriginal, Or.inl rfl⟩ .nil)
    rw [List.forall₂_map_right_iff]
    exact images.imp fun _ _ image => image.restored

/-- What `load_metadata` returns of a well-formed metadata file. -/
def loadedObject (sha256 : String) (size : ℕ) (references : ℤ) (values : List PyValue) :
    ScratchObject where
  contentId := .ofString (contentId sha256)
  sha256 := .ofString sha256
  sizeBytes := size
  storageUri := .ofString (storageUri sha256)
  refCount := references
  provenance := values

theorem isWellFormed_readMetadata {references : ℤ} (positive : 1 ≤ references) :
    isWellFormed sha256 (readMetadata sha256 size references values) = true := by
  have sha : ((PyDict.get (readMetadata sha256 size references values) "sha256").eq (.str sha256)) =
      true := decide_eq_true rfl
  have length : (plainInt? (PyDict.get (readMetadata sha256 size references values)
      "size_bytes")).any (0 ≤ ·) = true := decide_eq_true (Int.natCast_nonneg size)
  have count : (plainInt? (PyDict.get (readMetadata sha256 size references values)
      "ref_count")).any (1 ≤ ·) = true := decide_eq_true positive
  rw [isWellFormed, sha, length, count]
  rfl

theorem loadMetadata_of_describes {Source : Type} {state : ScratchState Source}
    (valid : validateSha256 sha256 = .ok ()) (found : state.metadata.read sha256 = some text)
    (describes : Describes store.runtime.recursionLimit sha256 size provenances text)
    (referenced : provenances ≠ []) :
    ∃ values, loadMetadata store sha256 state =
        .ok (loadedObject sha256 size provenances.length values) ∧
      List.Forall₂ (Restores store.runtime.recursionLimit) provenances values := by
  rcases loads_of_describes describes with ⟨values, read, restores⟩
  have positive : 1 ≤ (provenances.length : ℤ) := by
    have positive := List.length_pos_iff.mpr referenced
    omega
  refine ⟨values, ?_, restores⟩
  rw [loadMetadata, valid, found]
  dsimp only [bind, Except.bind]
  rw [read]
  dsimp only
  rw [if_pos (isWellFormed_readMetadata positive)]
  rfl

end Texts

end Reperio.Scratch
