import Mathlib.Data.List.DropRight
import Reperio.Python.LoadedText
import Reperio.Python.Repr
import Reperio.Worker.UrlTokens

/-!
# Shared filters

The filters of `worker/filter_state.py`: their normalization, the rows they match, the counts
of a facet and the tokens they are shared with. A tuple is modelled as a list is, and
`str.lower` is a parameter. A normalized filter is read back from its token exactly when its
sizes can be written and no surrogates of its texts form a pair (`sharedState_faithful_iff`).
-/

namespace Reperio.Worker.Filters

open Python

/-- How a filter is refused. -/
inductive FilterError where
  | filterStateError (code message : PyStr)
  | raised (error : PyError)

/-- What findings are filtered by. -/
structure FilterState where
  text : PyStr := []
  users : List PyStr := []
  volumes : List PyStr := []
  categories : List PyStr := []
  dateFrom : Option PyStr := none
  dateTo : Option PyStr := none
  minSize : Option ℤ := none
  maxSize : Option ℤ := none
  allocations : List PyStr := []
  encrypted : Option Bool := none
  corrupt : Option Bool := none
  duplicates : Option Bool := none
  minInterest : Option PyFloat := none
  includeNoise : Bool := false
  includeExported : Bool := false
  includeDismissed : Bool := false

/-! ## Normalization -/

def optionalText : PyValue → PyStr
  | .text points => points.strip
  | _ => []

def stringTuple : PyValue → List PyStr
  | .list items => items.filterMap fun item =>
    match item with
    | .text points => if points.isEmpty then none else some points
    | _ => none
  | _ => []

def optionalInt : PyValue → Option ℤ
  | .int value => some value
  | _ => none

/-- `float(value)` of an integer. -/
def floatOfInt (value : ℤ) : Except PyError PyFloat :=
  let read := PyFloat.read (decide (value < 0)) value.natAbs 0
  match read.val with
  | .infinity _ => .error .overflowError
  | _ => .ok read

def optionalFloat : PyValue → Except PyError (Option PyFloat)
  | .int value => do return some (← floatOfInt value)
  | .float value => .ok (some value)
  | _ => .ok none

def optionalBool : PyValue → Option Bool
  | .bool value => some value
  | _ => none

def normalizeFilterState (raw : PyDict) : Except PyError FilterState := do
  return {
    text := optionalText (raw.get "text")
    users := stringTuple (raw.get "users")
    volumes := stringTuple (raw.get "volumes")
    categories := stringTuple (raw.get "categories")
    dateFrom := some (optionalText (raw.get "date_from"))
    dateTo := some (optionalText (raw.get "date_to"))
    minSize := optionalInt (raw.get "min_size")
    maxSize := optionalInt (raw.get "max_size")
    allocations := stringTuple (raw.get "allocations")
    encrypted := optionalBool (raw.get "encrypted")
    corrupt := optionalBool (raw.get "corrupt")
    duplicates := optionalBool (raw.get "duplicates")
    minInterest := ← optionalFloat (raw.get "min_interest")
    includeNoise := (raw.get "include_noise").truthy
    includeExported := (raw.get "include_exported").truthy
    includeDismissed := (raw.get "include_dismissed").truthy }

/-! ## Rows -/

/-- `re.sub(r"\s+", " ", text)`, behind a character that is a space or is not. -/
def collapseSpaces (behindSpace : Bool) : PyStr → PyStr
  | [] => []
  | point :: points =>
    if point.isSpace then
      if behindSpace then collapseSpaces true points
      else .ofChar ' ' :: collapseSpaces true points
    else point :: collapseSpaces false points

/-- `first < second` of floats, which is false beside what is not a number. -/
def floatLt (first second : PyFloat) : Bool := match first.val.sortKey, second.val.sortKey with
  | .number first, .number second => decide (first < second)
  | _, _ => false

section

variable (display : Display) (lower : PyStr → PyStr)

def normalizeSearch (text : PyStr) : PyStr := collapseSpaces false (lower text.strip)

def rowValue (row : PyDict) (key : String) : Except PyError PyStr :=
  textOrEmpty display (row.get key)

def searchableFields : List String := ["display_path", "display_name"]

def filterMatches (row : PyDict) (state : FilterState) : Except PyError Bool := do
  if state.text ≠ [] then
    let haystack :=
      lower ((PyStr.ofString " ").intercalate (← searchableFields.mapM (rowValue display row)))
    if ¬ normalizeSearch lower state.text <:+: haystack then return false
  if state.users ≠ [] then
    if (← rowValue display row "owner_id") ∉ state.users then return false
  if state.volumes ≠ [] then
    if (← rowValue display row "volume_id") ∉ state.volumes then return false
  if state.categories ≠ [] then
    if (← rowValue display row "category") ∉ state.categories then return false
  if state.dateFrom.getD [] ≠ [] then
    if (← rowValue display row "modified_at") < state.dateFrom.getD [] then return false
  if state.dateTo.getD [] ≠ [] then
    if state.dateTo.getD [] < (← rowValue display row "modified_at") then return false
  if let some size := optionalInt (row.get "size_bytes") then
    if state.minSize.any fun least => decide (size < least) then return false
    if state.maxSize.any fun most => decide (most < size) then return false
  if state.allocations ≠ [] then
    if (← rowValue display row "allocation") ∉ state.allocations then return false
  if state.encrypted.any fun wanted => (row.get "encrypted").truthy != wanted then return false
  if state.corrupt.any fun wanted => (row.get "corrupt").truthy != wanted then return false
  if state.duplicates.any fun wanted => (row.get "duplicate").truthy != wanted then return false
  let interest ← optionalFloat (row.get "interest_score")
  if state.minInterest.any fun least => interest.all fun score =>
    floatLt score least then return false
  if ¬ state.includeNoise then
    if (← rowValue display row "system_noise") ∈
      [.ofString "noise", .ofString "system"] then return false
  if ¬ state.includeExported then
    if (← rowValue display row "export_state") = .ofString "exported" then return false
  if ¬ state.includeDismissed then
    if let .bool true := row.get "dismissed" then return false
  return true

/-- `FACET_ROW_FIELDS`, and whether the field is counted as a truth value. -/
def facetRowFields : List (PyStr × String × Bool) :=
  [(.ofString "users", "owner_id", false), (.ofString "volumes", "volume_id", false),
    (.ofString "categories", "category", false), (.ofString "allocations", "allocation", false),
    (.ofString "encrypted", "encrypted", true), (.ofString "corrupt", "corrupt", true),
    (.ofString "duplicates", "duplicate", true)]

def facetValue (row : PyDict) (rowField : String) (isTruth : Bool) : Except PyError PyStr :=
  if isTruth then .ok (.ofString (if (row.get rowField).truthy then "true" else "false"))
  else textOf display ((row.get rowField).orElse (.str "unknown"))

/-- The options of a facet with the rows of each, in order. -/
def facetCounts (rows : List PyDict) (state : FilterState) (key : PyStr) :
    Except FilterError (List (PyStr × ℕ)) :=
  match facetRowFields.lookup key with
  | none => .error (.filterStateError (.ofString "unknown_facet")
      (.ofString "facet " ++ reprText display key ++ .ofString " is not supported"))
  | some (rowField, isTruth) => (do
      let counts ← rows.foldlM (fun counts row => do
        if ¬ (← filterMatches display lower row state) then return counts
        let value ← facetValue display row rowField isTruth
        return setItem counts value ((counts.lookup value).getD 0 + 1)) []
      return counts.insertionSort fun first second : PyStr × ℕ => first.1 ≤ second.1).mapError
        .raised

end

/-! ## Tokens -/

def filterStateVersion : String := "filter-state-v1"

def textsValue (texts : List PyStr) : PyValue := .list (texts.map .text)

/-- `None` or the value. -/
def orNone {α : Type} (kind : α → PyValue) (value : Option α) : PyValue :=
  (value.map kind).getD .none

def toDict (state : FilterState) : PyDict :=
  [(.str "text", .text state.text), (.str "users", textsValue state.users),
    (.str "volumes", textsValue state.volumes), (.str "categories", textsValue state.categories),
    (.str "date_from", orNone .text state.dateFrom), (.str "date_to", orNone .text state.dateTo),
    (.str "min_size", orNone .int state.minSize), (.str "max_size", orNone .int state.maxSize),
    (.str "allocations", textsValue state.allocations),
    (.str "encrypted", orNone .bool state.encrypted), (.str "corrupt", orNone .bool state.corrupt),
    (.str "duplicates", orNone .bool state.duplicates),
    (.str "min_interest", orNone .float state.minInterest),
    (.str "include_noise", .bool state.includeNoise),
    (.str "include_exported", .bool state.includeExported),
    (.str "include_dismissed", .bool state.includeDismissed)]

def payloadOf (state : FilterState) : PyDict :=
  [(.str "version", .str filterStateVersion), (.str "state", .dict (toDict state))]

def encodeUrlState (limit : ℕ) (state : FilterState) : Except PyError PyStr :=
  encodeToken limit (.dict (payloadOf state))

def invalidUrlState (message : String) : FilterError :=
  .filterStateError (.ofString "invalid_url_state") (.ofString message)

def decodeUrlState (limit : ℕ) (token : PyStr) : Except FilterError FilterState :=
  match decodeToken limit token with
  | .error error =>
    if isValueError error then .error (invalidUrlState "URL filter state is not valid")
    else .error (.raised error)
  | .ok (.dict payload) =>
    if (PyDict.get payload "version").eq (.str filterStateVersion) then
      match PyDict.get payload "state" with
      | .dict state => (normalizeFilterState state).mapError .raised
      | _ => .error (invalidUrlState "URL filter state is malformed")
    else .error (invalidUrlState "URL filter state version is unsupported")
  | .ok _ => .error (invalidUrlState "URL filter state version is unsupported")

/-- The filter that a link of it is read as. -/
def sharedState (limit : ℕ) (state : FilterState) : Except FilterError FilterState := do
  decodeUrlState limit (← (encodeUrlState limit state).mapError .raised)

/-! ## Reading back -/

/-- The texts of a filter. -/
def FilterState.texts (state : FilterState) : List PyStr :=
  state.text :: (state.users ++ state.volumes ++ state.categories ++ state.allocations ++
    state.dateFrom.toList ++ state.dateTo.toList)

/-- The sizes of a filter. -/
def FilterState.sizes (state : FilterState) : List ℤ := state.minSize.toList ++ state.maxSize.toList

/-- No surrogates of a text form a pair, and the interpreter writes the digits of the sizes. -/
structure FilterState.IsShareable (state : FilterState) : Prop where
  joined : ∀ text ∈ state.texts, text.joined = text
  written : ∀ size ∈ state.sizes, (Nat.toDigits 10 size.natAbs).length ≤ intMaxStrDigits

/-- What normalization gives. -/
structure FilterState.IsNormalized (state : FilterState) : Prop where
  text : state.text.strip = state.text
  tuples : ∀ text ∈ state.users ++ state.volumes ++ state.categories ++ state.allocations, text ≠ []
  dateFrom : ∃ text : PyStr, state.dateFrom = some text ∧ text.strip = text
  dateTo : ∃ text : PyStr, state.dateTo = some text ∧ text.strip = text

/-- What is read of the text of a filter. -/
def readText (text : PyStr) : PyStr := text.joined.strip

/-- What is read of a filter. -/
def FilterState.read (state : FilterState) : FilterState := { state with
    text := readText state.text
    users := state.users.map PyStr.joined
    volumes := state.volumes.map PyStr.joined
    categories := state.categories.map PyStr.joined
    allocations := state.allocations.map PyStr.joined
    dateFrom := state.dateFrom.map readText
    dateTo := state.dateTo.map readText }

variable {raw : PyDict} {state : FilterState} {limit : ℕ}

theorem strip_sublist (points : PyStr) : points.strip.Sublist points := by
  have behind :=
    List.dropWhile_sublist CodePoint.isSpace (l := (points.dropWhile CodePoint.isSpace).reverse)
  have reversed := behind.reverse
  rw [List.reverse_reverse] at reversed
  exact reversed.trans (List.dropWhile_sublist CodePoint.isSpace)

theorem strip_strip (points : PyStr) : points.strip.strip = points.strip := by
  have starts : points.strip.dropWhile CodePoint.isSpace = points.strip := by
    have isPrefix : points.strip <+: points.dropWhile CodePoint.isSpace :=
      List.rdropWhile_prefix CodePoint.isSpace _
    have again := List.dropWhile_idempotent CodePoint.isSpace points
    cases isStrip : points.strip with
    | nil => rfl
    | cons point rest =>
      obtain ⟨behind, whole⟩ := isPrefix
      rw [isStrip, List.cons_append] at whole
      by_cases isSpace : point.isSpace = true
      · rw [← whole, List.dropWhile_cons_of_pos isSpace] at again
        have shorter := (List.dropWhile_sublist CodePoint.isSpace (l := rest ++ behind)).length_le
        rw [again, List.length_cons] at shorter
        omega
      · rw [List.dropWhile_cons_of_neg isSpace]
  have ends := List.rdropWhile_idempotent CodePoint.isSpace (points.dropWhile CodePoint.isSpace)
  calc points.strip.strip
      = (points.strip.dropWhile CodePoint.isSpace).rdropWhile CodePoint.isSpace := rfl
    _ = points.strip.rdropWhile CodePoint.isSpace := by rw [starts]
    _ = points.strip := ends

theorem length_joinSurrogates_le (points : PyStr) :
    (joinSurrogates points).length ≤ points.length := by
  fun_induction joinSurrogates points with
  | case1 high low rest pair ih => simp only [List.length_cons]; omega
  | case2 high low rest pair ih => simp only [List.length_cons] at ih ⊢; omega
  | case3 => exact le_rfl

theorem joined_eq_nil {points : PyStr} (empty : points.joined = []) : points = [] := by
  have units := PyStr.units_joined points
  rw [empty] at units
  cases points with
  | nil => rfl
  | cons point points =>
    rw [List.flatMap_nil, List.flatMap_cons, eq_comm, List.append_eq_nil_iff] at units
    obtain ⟨isNone, -⟩ := units
    unfold unitsOf at isNone
    split at isNone
    · cases isNone
    · cases isNone

/-- A text without spaces around it is read as it is exactly when nothing of it is joined. -/
theorem readText_eq_iff {text : PyStr} (stripped : text.strip = text) :
    readText text = text ↔ text.joined = text := by
  refine ⟨fun same => ?_, fun joined => by rw [readText, joined, stripped]⟩
  have short : text.joined.length ≤ text.length := by
    rw [PyStr.joined, joinSurrogates_flatMap_unitsOf]
    exact length_joinSurrogates_le text
  have isSublist := strip_sublist text.joined
  rw [← readText, same] at isSublist
  exact (isSublist.eq_of_length_le short).symm

theorem isNormalized (normalized : normalizeFilterState raw = .ok state) : state.IsNormalized := by
  obtain ⟨interest, -, isState⟩ := bind_eq_ok normalized
  cases isState
  have tuples : ∀ value, ∀ text ∈ stringTuple value, text ≠ [] := by
    intro value text isText
    unfold stringTuple at isText
    split at isText
    · obtain ⟨item, -, isItem⟩ := List.mem_filterMap.mp isText
      split at isItem
      · split at isItem
        · cases isItem
        · rename_i notEmpty
          cases isItem
          exact fun empty => notEmpty (List.isEmpty_iff.mpr empty)
      · cases isItem
    · cases isText
  have texts : ∀ value, (optionalText value).strip = optionalText value := by
    intro value
    unfold optionalText
    split
    · exact strip_strip _
    · rfl
  refine ⟨texts _, ?_, ⟨_, rfl, texts _⟩, ⟨_, rfl, texts _⟩⟩
  simp only [List.forall_mem_append]
  exact ⟨⟨⟨tuples _, tuples _⟩, tuples _⟩, tuples _⟩

/-- A normalized filter is read as it is exactly when nothing of its texts is joined. -/
theorem FilterState.IsNormalized.read_eq_iff (normalized : state.IsNormalized) :
    state.read = state ↔ ∀ text ∈ state.texts, text.joined = text := by
  obtain ⟨dateFrom, isFrom, fromStripped⟩ := normalized.dateFrom
  obtain ⟨dateTo, isTo, toStripped⟩ := normalized.dateTo
  have ofFrom := readText_eq_iff fromStripped
  have ofTo := readText_eq_iff toStripped
  have ofText := readText_eq_iff normalized.text
  cases state with
  | mk text users volumes categories _ _ =>
    cases isFrom
    cases isTo
    simp only [FilterState.read, FilterState.texts, FilterState.mk.injEq, List.forall_mem_cons,
      List.forall_mem_append, Json.map_eq_self_iff, Option.map_some, Option.some.injEq, ofFrom,
      ofTo,
      ofText, Option.toList_some, and_true, true_and, and_assoc]
    tauto

/-! ## Reading a token -/

theorem stringTuple_textsValue {texts : List PyStr} (notEmpty : ∀ text ∈ texts, text ≠ []) :
    stringTuple (textsValue texts).joinText.inKeyOrder = texts.map PyStr.joined := by
  rw [textsValue, PyValue.joinText, PyValue.joinTextItems_eq_map, PyValue.inKeyOrder,
    PyValue.inKeyOrderItems_eq_map, List.map_map, List.map_map, stringTuple, List.filterMap_map,
    ← List.filterMap_eq_map]
  refine List.filterMap_congr fun text isText => ?_
  have joined : text.joined ≠ [] := fun empty => notEmpty text isText (joined_eq_nil empty)
  exact if_neg fun isEmpty => joined (List.isEmpty_iff.mp isEmpty)

theorem forall_toDict (holds : PyValue → Prop) (text : ∀ points, holds (.text points))
    (texts : ∀ texts, holds (textsValue texts)) (none : holds .none)
    (bool : ∀ value, holds (.bool value))
    (float : ∀ value, holds (.float value)) (sizes : ∀ size ∈ state.sizes, holds (.int size)) :
    ∀ item ∈ toDict state, holds item.2 := by
  have orNone {α : Type} {kind : α → PyValue} {value : Option α}
      (holdsOf : ∀ value' ∈ value, holds (kind value')) : holds (orNone kind value) := by
    cases value with
    | none => exact none
    | some value => exact holdsOf value rfl
  rw [FilterState.sizes, List.forall_mem_append] at sizes
  simp only [Option.mem_toList] at sizes
  simp only [toDict, List.forall_mem_cons]
  exact ⟨text _, texts _, texts _, texts _, orNone fun _ _ => text _, orNone fun _ _ => text _,
    orNone sizes.1, orNone sizes.2, texts _, orNone fun _ _ => bool _, orNone fun _ _ => bool _,
    orNone fun _ _ => bool _, orNone fun _ _ => float _, bool _, bool _, bool _,
      List.forall_mem_nil _⟩

theorem plainKeys_toDict (state : FilterState) : (PyValue.dict (toDict state)).PlainKeys :=
  plainKeys_of_names ["text", "users", "volumes", "categories", "date_from", "date_to",
    "min_size", "max_size", "allocations", "encrypted", "corrupt", "duplicates", "min_interest",
    "include_noise", "include_exported", "include_dismissed"] rfl (by decide)

theorem plainKeys_payloadOf (state : FilterState) : (PyValue.dict (payloadOf state)).PlainKeys :=
  plainKeys_of_names ["version", "state"] rfl (by decide)

theorem everywhere_toDict (state : FilterState) :
    (PyValue.dict (toDict state)).Everywhere PyValue.PlainKeys := by
  have plain := plainKeys_toDict state
  have texts (texts : List PyStr) : (textsValue texts).Everywhere PyValue.PlainKeys := by
    refine PyValue.everywhere_list_iff.mpr ⟨trivial, fun item isItem => ?_⟩
    obtain ⟨text, -, rfl⟩ := List.mem_map.mp isItem
    trivial
  have values := @forall_toDict state (PyValue.Everywhere PyValue.PlainKeys)
    (fun _ => trivial) texts trivial (fun _ => trivial) (fun _ => trivial) fun _ _ => trivial
  refine PyValue.everywhere_dict_iff.mpr ⟨plain, fun item isItem => ⟨?_, values item isItem⟩⟩
  obtain ⟨points, isKey, -⟩ := plain.1 item isItem
  rw [isKey]
  trivial

theorem everywhere_payloadOf (state : FilterState) :
    (PyValue.dict (payloadOf state)).Everywhere PyValue.PlainKeys := by
  refine PyValue.everywhere_dict_iff.mpr ⟨plainKeys_payloadOf state, ?_⟩
  simp only [payloadOf, List.forall_mem_cons]
  exact ⟨⟨trivial, trivial⟩, ⟨trivial, everywhere_toDict state⟩, List.forall_mem_nil _⟩

/-- A filter is written exactly when its sizes are. -/
theorem exists_encodeUrlState_iff : (∃ token, encodeUrlState (limit + 3) state = .ok token) ↔
    ∀ size ∈ state.sizes, (Nat.toDigits 10 size.natAbs).length ≤ intMaxStrDigits := by
  have textKeys {items : PyDict} (plain : (PyValue.dict items).PlainKeys) :
      ∀ item ∈ items, ∃ points, item.1 = .text points :=
    fun item isItem => (plain.1 item isItem).imp fun _ => And.left
  rw [encodeUrlState, exists_encodeToken_iff,
    exists_toJson_dict_iff (textKeys (plainKeys_payloadOf state))]
  simp only [payloadOf, List.forall_mem_cons]
  rw [exists_toJson_dict_iff (textKeys (plainKeys_toDict state))]
  constructor
  · rintro ⟨-, written, -⟩ size isSize
    simp only [toDict, List.forall_mem_cons] at written
    obtain ⟨-, -, -, -, -, -, least, most, -⟩ := written
    rcases List.mem_append.mp isSize with isLeast | isMost
    · rw [Option.mem_toList.mp isLeast] at least
      exact exists_toJson_int_iff.mp least
    · rw [Option.mem_toList.mp isMost] at most
      exact exists_toJson_int_iff.mp most
  · intro written
    refine ⟨⟨_, rfl⟩, ?_, List.forall_mem_nil _⟩
    exact forall_toDict (fun value => ∃ json, toJson true (limit + 1) value = .ok json)
      (fun _ => ⟨_, rfl⟩) (fun _ => exists_toJson_texts _) ⟨_, rfl⟩ (fun _ => ⟨_, rfl⟩)
      exists_toJson_float fun size isSize => exists_toJson_int_iff.mpr (written size isSize)

/-- What is read of the items of a filter is normalized to what is read of it. -/
theorem normalize_read {loaded : PyDict} (normalized : state.IsNormalized)
    (areRead : ∀ name, loaded.get name = ((toDict state).get name).joinText.inKeyOrder) :
    normalizeFilterState loaded = .ok state.read := by
  obtain ⟨dateFrom, isFrom, -⟩ := normalized.dateFrom
  obtain ⟨dateTo, isTo, -⟩ := normalized.dateTo
  have tuples := normalized.tuples
  simp only [List.forall_mem_append] at tuples
  obtain ⟨⟨⟨users, volumes⟩, categories⟩, allocations⟩ := tuples
  have date {text : PyStr} {value : Option PyStr} (isText : value = some text) :
      some (optionalText (orNone .text value).joinText.inKeyOrder) = value.map readText :=
        isText ▸ rfl
  have int (number : Option ℤ) : optionalInt (orNone .int number).joinText.inKeyOrder = number := by
    cases number <;> rfl
  have bool (truth : Option Bool) : optionalBool (orNone .bool truth).joinText.inKeyOrder =
    truth := by
    cases truth <;> rfl
  have float (number : Option PyFloat) :
      optionalFloat (orNone .float number).joinText.inKeyOrder = .ok number := by
    cases number <;> rfl
  simp only [normalizeFilterState, areRead]
  refine (congrArg (· >>= _) (float state.minInterest)).trans (congrArg Except.ok ?_)
  exact (FilterState.mk.injEq ..).mpr ⟨rfl, stringTuple_textsValue users,
    stringTuple_textsValue volumes, stringTuple_textsValue categories, date isFrom, date isTo,
    int _, int _, stringTuple_textsValue allocations, bool _, bool _, bool _, rfl, rfl, rfl, rfl⟩

/-- A link of a filter is read where its sizes can be written, as what is read of it. -/
theorem sharedState_eq_ok_iff {other : FilterState} (normalized : state.IsNormalized) :
    sharedState (limit + 3) state = .ok other ↔
      (∀ size ∈ state.sizes, (Nat.toDigits 10 size.natAbs).length ≤ intMaxStrDigits) ∧
        other = state.read := by
  rw [← @exists_encodeUrlState_iff state limit]
  have decoded {token : PyStr} (isToken : encodeUrlState (limit + 3) state = .ok token) :
      decodeUrlState (limit + 3) token = .ok state.read := by
    obtain ⟨payload, isPayload, payloadRead⟩ := exists_read_dict (plainKeys_payloadOf state)
    obtain ⟨items, areItems, itemsRead⟩ := exists_read_dict (plainKeys_toDict state)
    have version : payload.get "version" = .str filterStateVersion := by
      rw [payloadRead]
      exact congrArg PyValue.text (PyStr.joined_ofString _)
    have isState : payload.get "state" = .dict items := (payloadRead "state").trans areItems
    rw [decodeUrlState, decodeToken_encodeToken (everywhere_payloadOf state) isToken, isPayload]
    dsimp only
    rw [version, isState]
    dsimp only
    have isVersion : (PyValue.str filterStateVersion).eq (.str filterStateVersion) = true := by
      rw [PyValue.str, PyValue.eq]
      exact decide_eq_true rfl
    rw [if_pos isVersion, normalize_read normalized itemsRead]
    rfl
  constructor
  · intro shared
    obtain ⟨token, isToken, isRead⟩ := bind_eq_ok shared
    rw [mapError_eq_ok] at isToken
    exact ⟨⟨token, isToken⟩, Except.ok.inj (isRead.symm.trans (decoded isToken))⟩
  · rintro ⟨⟨token, isToken⟩, rfl⟩
    rw [sharedState, isToken]
    exact decoded isToken

/-- A normalized filter is read as it is exactly when it can be shared, and then matches the same
rows with the same counts. -/
theorem sharedState_faithful_iff (limit : ℕ) (normalized : normalizeFilterState raw = .ok state) :
    (sharedState (limit + 3) state = .ok state ↔ state.IsShareable) ∧
      (state.IsShareable → ∀ other, sharedState (limit + 3) state = .ok other →
        ∀ display lower, (∀ row, filterMatches display lower row other =
            filterMatches display lower row state) ∧
          ∀ rows key, facetCounts display lower rows other key =
            facetCounts display lower rows state key) := by
  have isNormalized := isNormalized normalized
  have faithful : sharedState (limit + 3) state = .ok state ↔ state.IsShareable := by
    rw [sharedState_eq_ok_iff isNormalized, eq_comm (a := state), isNormalized.read_eq_iff]
    exact ⟨fun both => ⟨both.2, both.1⟩, fun shareable => ⟨shareable.written, shareable.joined⟩⟩
  refine ⟨faithful, fun shareable other shared display lower => ?_⟩
  obtain rfl := Except.ok.inj (shared.symm.trans (faithful.mpr shareable))
  exact ⟨fun _ => rfl, fun _ _ => rfl⟩

def budgetFilter : PyDict :=
  [(.str "text", .str " budget "), (.str "users", .list [.str "alice", .int 7]),
    (.str "min_size", .int 10), (.str "include_noise", .bool true)]

def budgetState : FilterState where
  text := .ofString "budget"
  users := [.ofString "alice"]
  dateFrom := some []
  dateTo := some []
  minSize := some 10
  includeNoise := true

theorem sharedState_faithful_iff_budget :
    (sharedState 3 budgetState = .ok budgetState ↔ budgetState.IsShareable) ∧
      (budgetState.IsShareable → ∀ other, sharedState 3 budgetState = .ok other →
        ∀ display lower, (∀ row, filterMatches display lower row other =
            filterMatches display lower row budgetState) ∧
          ∀ rows key, facetCounts display lower rows other key =
            facetCounts display lower rows budgetState key) :=
  @sharedState_faithful_iff budgetFilter budgetState 0 rfl

/-- A size of 4301 digits. -/
def longFilter : PyDict := [(.str "min_size", .int ((10 ^ intMaxStrDigits : ℕ) : ℤ))]

/-- The surrogates of a pair, each on its own. -/
def pairFilter : PyDict := [(.str "text", .text [0xD83D, 0xDE00])]

/-- A size with too many digits is not written, and a pair of surrogates is read as a character. -/
theorem filters_not_shared :
    ¬(∀ raw state, normalizeFilterState raw = .ok state → sharedState 1000 state = .ok state) ∧
    (∃ state, normalizeFilterState longFilter = .ok state ∧ sharedState 1000 state ≠ .ok state) ∧
      ∃ state, normalizeFilterState pairFilter = .ok state ∧
        sharedState 1000 state ≠ .ok state := by
  have long : ∃ state, normalizeFilterState longFilter = .ok state ∧
      sharedState 1000 state ≠ .ok state := by
    refine ⟨_, rfl, fun shared => ?_⟩
    have written := ((@sharedState_eq_ok_iff _ 997 _ (@isNormalized longFilter _ rfl)).mp shared).1
    have short := written _ List.mem_cons_self
    rw [Int.natAbs_natCast] at short
    have small := (Nat.length_toDigits_le_iff (by decide) (by decide)).mp short
    exact absurd small (lt_irrefl _)
  refine ⟨fun all => ?_, long, _, rfl, fun shared => ?_⟩
  · obtain ⟨state, normalized, notShared⟩ := long
    exact notShared (all _ state normalized)
  · have isRead := ((@sharedState_eq_ok_iff _ 997 _ (@isNormalized pairFilter _ rfl)).mp shared).2
    exact absurd (congrArg FilterState.text isRead) (by decide)

end Reperio.Worker.Filters
