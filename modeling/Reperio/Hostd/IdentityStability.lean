import Reperio.Hostd.Contract
import Reperio.Python.Agreement

/-!
# Identities and kernel names

The kernel names of a host's devices may change, and so may the order in which
its devices and their partitions are listed. What `attach_stable_identities` says
of a device stays the same, and so does whether two devices share an identity.
-/

namespace Reperio

open Python MediaIdentity

variable {pair : PyStr × PyStr} {device other : PyDict} {devices identified others : List PyDict}

namespace Hostd

variable {host : Host}

/-! ## Renaming -/

/-- A text that the target of a link can have as its name. -/
def isKernelName (name : PyStr) : Bool := !(name.isEmpty || contains name ".." || contains name "/")

/-- Other kernel names for devices, and the targets of links that go with them. -/
structure Renaming where
  name : PyStr → PyStr
  target : PyStr → PyStr
  name_injective : Function.Injective name
  isKernelName_name : ∀ kernelName, isKernelName kernelName = true →
    isKernelName (name kernelName) = true
  pathName_target : ∀ path, isKernelName (pathName path) = true →
    pathName (target path) = name (pathName path)

variable (names : Renaming)

def renamedEntry (entry : ByIdEntry) : ByIdEntry := { entry with
    target := entry.target.map fun path =>
      if isKernelName (pathName path) then names.target path else path }

def renamedHost (host : Host) : Host :=
  { host with byIdEntries := host.byIdEntries.map fun entries => entries.map (renamedEntry names) }

def renamedValue : PyValue → PyValue
  | .text name => .text (names.name name)
  | value => value

def isNameKey (key : PyValue) : Bool := isText key "kernel_name" || isText key "parent_kernel_name"

def renamedFact (fact : PyValue × PyValue) : PyValue × PyValue :=
  if isNameKey fact.1 then (fact.1, renamedValue names fact.2) else fact

/-! ## Devices listed anew -/

/-- The child has a place and a size, as partitions do. -/
structure IsPartition (child : PyDict) : Prop where
  start : ∃ sector, child.get "start_sector" = .int sector
  size : ∃ bytes, child.get "size_bytes" = .int bytes

/-- A partition under its new kernel name. -/
def PartitionRelisted (child other : PyDict) : Prop :=
  IsPartition child ∧ child.map (renamedFact names) = other

/-- One fact about a device, where the partitions may come in another order. -/
inductive FactRelisted : PyValue × PyValue → PyValue × PyValue → Prop where
  | children {children others : List PyDict}
      (matched : Matched (PartitionRelisted names) children others) :
      FactRelisted (.str "children", .list (children.map .dict))
        (.str "children", .list (others.map .dict))
  | other {fact : PyValue × PyValue} (notChildren : fact.1 ≠ .str "children") :
      FactRelisted fact (renamedFact names fact)

/-- The same device, under its new kernel name and with its partitions in any order. -/
def Relisted : PyDict → PyDict → Prop := List.Forall₂ (FactRelisted names)

/-! ## Links -/

variable {names : Renaming}

theorem byIdName_eq (entry : ByIdEntry) : byIdName entry = if entry.isSymlink then do
      let name ← safeByIdName entry.name
      let target ← entry.target
      if isKernelName (pathName target) then some (pathName target, name) else none
    else none := by
  rcases entry with ⟨name, isSymlink, target⟩
  unfold byIdName
  cases isSymlink with
  | false => rfl
  | true =>
    cases safeByIdName name with
    | none => rfl
    | some safe =>
      cases target with
      | none => rfl
      | some path =>
        simp only [Bool.not_true, Bool.false_eq_true, if_false, if_true, Option.bind_eq_bind,
          Option.bind_some]
        split
        · rename_i unclean
          have isNoName : isKernelName (pathName path) = false := congrArg not unclean
          rw [isNoName]
          rfl
        · rename_i clean
          have isName : isKernelName (pathName path) = true :=
            congrArg not (Bool.eq_false_of_not_eq_true clean)
          rw [isName]
          rfl

theorem isKernelName_of_byIdName {entry : ByIdEntry} (named : byIdName entry = some pair) :
    isKernelName pair.1 = true := by
  rw [byIdName_eq] at named
  split at named
  · rcases Option.bind_eq_some_iff.mp named with ⟨name, _, named⟩
    rcases Option.bind_eq_some_iff.mp named with ⟨target, _, named⟩
    split at named
    · rename_i isName
      obtain rfl := Option.some.inj named
      exact isName
    · cases named
  · cases named

theorem byIdName_renamedEntry (entry : ByIdEntry) :
    byIdName (renamedEntry names entry) = (byIdName entry).map (Prod.map names.name id) := by
  rcases entry with ⟨name, isSymlink, target⟩
  rw [byIdName_eq, byIdName_eq, renamedEntry]
  cases isSymlink with
  | false => rfl
  | true =>
    cases safeByIdName name with
    | none => rfl
    | some safe =>
      cases target with
      | none => rfl
      | some path =>
        simp only [if_true, Option.bind_eq_bind, Option.bind_some, Option.map_some]
        by_cases isName : isKernelName (pathName path) = true
        · rw [if_pos isName, names.pathName_target path isName,
            if_pos (names.isKernelName_name _ isName), if_pos isName]
          rfl
        · rw [if_neg isName, if_neg isName]
          rfl

theorem byIdNamesByKernel_renamedHost : byIdNamesByKernel (renamedHost names host) =
      (byIdNamesByKernel host).map (Prod.map names.name id) := by
  rw [byIdNamesByKernel, byIdNamesByKernel, List.map_filterMap]
  have entries : (renamedHost names host).byIdEntries.getD [] =
      (host.byIdEntries.getD []).map (renamedEntry names) := by
    rw [renamedHost]
    cases host.byIdEntries with
    | none => rfl
    | some entries => rfl
  rw [entries, ← List.map_insertionSort (fun first second : ByIdEntry => first.name ≤ second.name)
    (fun first second : ByIdEntry => first.name ≤ second.name) (renamedEntry names) _
    fun _ _ _ _ => Iff.rfl, List.filterMap_map]
  exact List.filterMap_congr fun entry _ => byIdName_renamedEntry entry

theorem isKernelName_of_mem (member : pair ∈ byIdNamesByKernel host) :
    isKernelName pair.1 = true := by
  rcases List.mem_filterMap.mp member with ⟨entry, _, named⟩
  exact isKernelName_of_byIdName named

/-- The names that the links give to a device. -/
def matchedNames (host : Host) (kernelName : PyStr) : List PyStr :=
  (byIdNamesByKernel host).filterMap fun pair => if pair.1 = kernelName then some pair.2 else none

theorem matchedNames_renamedHost (value : PyValue) :
    matchedNames (renamedHost names host) (stringOf (renamedValue names value)) =
      matchedNames host (stringOf value) := by
  rw [matchedNames, matchedNames, byIdNamesByKernel_renamedHost, List.filterMap_map]
  refine List.filterMap_congr fun pair member => ?_
  cases value with
  | text name =>
    change (if names.name pair.1 = names.name name then some pair.2 else none) =
      if pair.1 = name then some pair.2 else none
    simp only [names.name_injective.eq_iff]
  | _ =>
    have named := isKernelName_of_mem member
    have notEmpty : ∀ {name : PyStr}, isKernelName name = true → name ≠ [] := by
      rintro _ isName rfl
      cases isName
    change (if names.name pair.1 = [] then some pair.2 else none) =
      if pair.1 = [] then some pair.2 else none
    rw [if_neg (notEmpty named), if_neg (notEmpty (names.isKernelName_name _ named))]

/-! ## Facts -/

/-- The values under a key are related when the facts with this key are. -/
theorem get?_of_forall₂ (related : PyValue → PyValue → Prop) (key : String) {items others : PyDict}
    (paired : List.Forall₂ (fun fact other => other.1 = fact.1 ∧
      (fact.1 = .str key → related fact.2 other.2)) items others) :
    (items.get? key = none ∧ others.get? key = none) ∨
      ∃ value changed, items.get? key = some value ∧ others.get? key = some changed ∧
        related value changed := by
  induction paired with
  | nil => exact Or.inl ⟨rfl, rfl⟩
  | @cons fact other facts others isRelated _ ih =>
    rcases fact with ⟨_, value⟩
    rcases other with ⟨name, otherValue⟩
    rcases isRelated with ⟨rfl, isRelated⟩
    by_cases same : name = .str key
    · subst same
      exact Or.inr ⟨value, otherValue, PyDict.get?_cons_self _ _ _, PyDict.get?_cons_self _ _ _,
        isRelated rfl⟩
    · rw [PyDict.get?_cons_of_ne same, PyDict.get?_cons_of_ne same]
      exact ih

theorem get?_eq_of_forall₂ {key : String} {items others : PyDict}
    (paired : List.Forall₂ (fun fact other => other.1 = fact.1 ∧
      (fact.1 = .str key → other.2 = fact.2)) items others) : others.get? key = items.get? key := by
  rcases get?_of_forall₂ (fun value changed => changed = value) key paired with
    ⟨absent, otherAbsent⟩ | ⟨value, _, isValue, isOther, rfl⟩
  · rw [absent, otherAbsent]
  · rw [isValue, isOther]

theorem forall₂_set {related : PyValue × PyValue → PyValue × PyValue → Prop}
    {items others : PyDict} {key : String} {value changed : PyValue}
    (sameKeys : ∀ fact other, related fact other → other.1 = fact.1)
    (paired : List.Forall₂ related items others)
    (new : related (.str key, value) (.str key, changed)) :
    List.Forall₂ related (PyDict.set items key value) (PyDict.set others key changed) := by
  induction paired with
  | nil => exact .cons new .nil
  | @cons fact otherFact facts others isRelated rest ih =>
    have same := sameKeys _ _ isRelated
    rcases fact with ⟨_, old⟩
    rcases otherFact with ⟨name, otherOld⟩
    obtain rfl := same
    cases name with
    | text points =>
      rw [PyDict.set, PyDict.set]
      by_cases isKey : points = .ofString key
      · rw [if_pos isKey, if_pos isKey]
        subst isKey
        exact .cons new rest
      · rw [if_neg isKey, if_neg isKey]
        exact .cons isRelated ih
    | _ => exact .cons isRelated ih

theorem renamedFact_fst (fact : PyValue × PyValue) : (renamedFact names fact).1 = fact.1 := by
  unfold renamedFact
  split
  · rfl
  · rfl

theorem FactRelisted.fst {fact other : PyValue × PyValue}
    (relisted : FactRelisted names fact other) : other.1 = fact.1 := by
  cases relisted with
  | children matched => rfl
  | other notChildren => exact renamedFact_fst fact

/-- A key under which neither names nor partitions are. -/
def IsPlainKey (key : String) : Prop :=
  isNameKey (.str key) = false ∧ PyStr.ofString "children" ≠ .ofString key

instance (key : String) : Decidable (IsPlainKey key) := inferInstanceAs (Decidable (_ ∧ _))

theorem renamedFact_of_plain {key : String} (plain : IsPlainKey key) (value : PyValue) :
    renamedFact names (.str key, value) = (.str key, value) := by
  rw [renamedFact, plain.1]
  rfl

theorem get?_renamed {key : String} (plain : IsPlainKey key) (child : PyDict) :
    PyDict.get? (child.map (renamedFact names)) key = child.get? key := by
  apply get?_eq_of_forall₂
  rw [List.forall₂_map_right_iff, List.forall₂_same]
  rintro ⟨name, value⟩ _
  refine ⟨renamedFact_fst _, ?_⟩
  rintro rfl
  rw [renamedFact_of_plain plain]

theorem get_renamed {key : String} (plain : IsPlainKey key) (child : PyDict) :
    PyDict.get (child.map (renamedFact names)) key = child.get key := by
  rw [PyDict.get, get?_renamed plain, PyDict.get]

theorem set_renamed {key : String} (plain : IsPlainKey key) (child : PyDict) (value : PyValue) :
    (PyDict.set child key value).map (renamedFact names) =
      PyDict.set (child.map (renamedFact names)) key value := by
  have paired : List.Forall₂ (fun fact other => renamedFact names fact = other) child
      (child.map (renamedFact names)) := by
    rw [List.forall₂_map_right_iff, List.forall₂_same]
    exact fun _ _ => rfl
  have sameKeys : ∀ fact other, renamedFact names fact = other → other.1 = fact.1 := by
    rintro fact _ rfl
    exact renamedFact_fst fact
  have set := forall₂_set sameKeys paired (renamedFact_of_plain plain value)
  rwa [← List.forall₂_map_left_iff (R := Eq), List.forall₂_eq_eq_eq] at set

theorem Relisted.get? (relisted : Relisted names device other) {key : String}
    (plain : IsPlainKey key) : other.get? key = device.get? key := by
  apply get?_eq_of_forall₂
  refine List.Forall₂.imp ?_ relisted
  rintro ⟨name, value⟩ _ isRelisted
  cases isRelisted with
  | children matched => exact ⟨rfl, fun same => absurd (PyValue.text.inj same) plain.2⟩
  | other notChildren =>
    refine ⟨renamedFact_fst _, ?_⟩
    rintro rfl
    rw [renamedFact_of_plain plain]

theorem Relisted.get (relisted : Relisted names device other) {key : String}
    (plain : IsPlainKey key) : other.get key = device.get key := by
  rw [PyDict.get, relisted.get? plain, PyDict.get]

theorem Relisted.set (relisted : Relisted names device other) {key : String}
    (plain : IsPlainKey key) (value : PyValue) :
    Relisted names (device.set key value) (other.set key value) := by
  refine forall₂_set (fun _ _ => FactRelisted.fst) relisted ?_
  have kept : FactRelisted names (.str key, value) (renamedFact names (.str key, value)) :=
    .other fun same => plain.2 (PyValue.text.inj same).symm
  rwa [renamedFact_of_plain plain] at kept

theorem Relisted.kernelName (relisted : Relisted names device other) :
    stringOf (other.get "kernel_name") =
      stringOf (renamedValue names (device.get "kernel_name")) := by
  have paired : List.Forall₂ (fun fact other => other.1 = fact.1 ∧ (fact.1 = .str "kernel_name" →
      other.2 = renamedValue names fact.2)) device other := by
    refine List.Forall₂.imp ?_ relisted
    rintro ⟨name, value⟩ _ isRelisted
    cases isRelisted with
    | children matched => exact ⟨rfl, fun same => absurd (PyValue.text.inj same) (by decide)⟩
    | other notChildren =>
      refine ⟨renamedFact_fst _, ?_⟩
      rintro rfl
      rfl
  rw [PyDict.get, PyDict.get]
  rcases get?_of_forall₂ (fun value changed => changed = renamedValue names value) _ paired with
    ⟨absent, otherAbsent⟩ | ⟨value, _, isValue, isOther, rfl⟩
  · rw [absent, otherAbsent]
    rfl
  · rw [isValue, isOther]
    rfl

/-- The partitions of a device that lists them. -/
theorem Relisted.children (relisted : Relisted names device other) :
    (device.get? "children" = none ∧ other.get? "children" = none) ∨
      ∃ children others : List PyDict, Matched (PartitionRelisted names) children others ∧
        device.get? "children" = some (.list (children.map .dict)) ∧
          other.get? "children" = some (.list (others.map .dict)) := by
  have paired : List.Forall₂ (fun fact other => other.1 = fact.1 ∧ (fact.1 = .str "children" →
      ∃ children others : List PyDict, Matched (PartitionRelisted names) children others ∧
        fact.2 = .list (children.map .dict) ∧ other.2 = .list (others.map .dict))) device
          other := by
    refine List.Forall₂.imp ?_ relisted
    rintro _ _ (matched | notChildren)
    · exact ⟨rfl, fun _ => ⟨_, _, matched, rfl, rfl⟩⟩
    · exact ⟨renamedFact_fst _, fun same => absurd same notChildren⟩
  rcases get?_of_forall₂ (fun value changed => ∃ children others : List PyDict,
    Matched (PartitionRelisted names) children others ∧ value = .list (children.map .dict) ∧
      changed = .list (others.map .dict)) _ paired with
    absent | ⟨_, _, isValue, isOther, children, others, matched, rfl, rfl⟩
  · exact Or.inl absent
  · exact Or.inr ⟨children, others, matched, isValue, isOther⟩

/-! ## Partitions -/

/-- The start and the size of a partition. -/
def placeKey (child : PyDict) : ℤ ×ₗ ℤ :=
  toLex ((child.get "start_sector").int?.getD 0, (child.get "size_bytes").int?.getD 0)

def placeAt (key : ℤ ×ₗ ℤ) : PyDict :=
  [(.str "start_sector", .int (ofLex key).1), (.str "size_bytes", .int (ofLex key).2)]

theorem IsPartition.placeOf_eq {child : PyDict} (isPartition : IsPartition child) :
    placeOf child = placeAt (placeKey child) := by
  rcases isPartition with ⟨⟨sector, start⟩, ⟨bytes, size⟩⟩
  rw [placeOf, placeKey, start, size]
  rfl

theorem PartitionRelisted.placeKey {child : PyDict}
    (relisted : PartitionRelisted names child other) : placeKey child = Hostd.placeKey other := by
  rcases relisted with ⟨_, rfl⟩
  rw [Hostd.placeKey, Hostd.placeKey, get_renamed (by decide), get_renamed (by decide)]

theorem PartitionRelisted.isPartition {child : PyDict}
    (relisted : PartitionRelisted names child other) : IsPartition other := by
  rcases relisted with ⟨isPartition, rfl⟩
  constructor
  · rw [get_renamed (by decide)]
    exact isPartition.start
  · rw [get_renamed (by decide)]
    exact isPartition.size

/-- What `_topology` sorts by. -/
def topologyKey (place : PyDict) : PyValue :=
  .list [orZero (place.get "start_sector"), orZero (place.get "size_bytes")]

theorem orZero_int (value : ℤ) : orZero (.int value) = .int value := by
  unfold orZero
  split
  · rfl
  · rename_i zero
    rw [PyValue.truthy, bne_iff_ne, not_not] at zero
    rw [zero]

theorem topologyKey_placeAt (key : ℤ ×ₗ ℤ) :
    topologyKey (placeAt key) = .list [.int (ofLex key).1, .int (ofLex key).2] := by
  change PyValue.list [orZero (.int _), orZero (.int _)] = _
  rw [orZero_int, orZero_int]

theorem eq_int (first second : ℤ) :
    (PyValue.int first).eq (.int second) = decide (first = second) := by
  refine decide_eq_decide.mpr ⟨fun same => ?_, fun same => ?_⟩
  · exact Int.cast_injective (Option.some.inj (Option.some.inj same))
  · rw [same]

theorem lt?_int (first second : ℤ) :
    (PyValue.int first).lt? (.int second) = some (decide (first < second)) := by
  have casts : (((first : ℚ) : WithTop ℚ) : WithBot (WithTop ℚ)) < ((second : ℚ) : WithTop ℚ) ↔
      first < second :=
    WithBot.coe_lt_coe.trans (WithTop.coe_lt_coe.trans Int.cast_lt)
  exact congrArg some (decide_eq_decide.mpr casts)

theorem lt?_topologyKey (first second : ℤ ×ₗ ℤ) :
    PyValue.lt? (topologyKey (placeAt first)) (topologyKey (placeAt second)) =
      some (decide (first < second)) := by
  rw [topologyKey_placeAt, topologyKey_placeAt, PyValue.lt?, PyValue.lt?Items, PyValue.lt?Items,
    PyValue.lt?Items, eq_int, eq_int, lt?_int, lt?_int]
  simp only [Prod.Lex.lt_iff, decide_eq_true_eq]
  by_cases same : (ofLex first).1 = (ofLex second).1
  · by_cases alsoSame : (ofLex first).2 = (ofLex second).2
    · simp [same, alsoSame]
    · simp [same, alsoSame]
  · simp [same]

theorem sortedOn_placeAt (keys : List (ℤ ×ₗ ℤ)) :
    sortedOn PyValue.lt? topologyKey (keys.map placeAt) =
      .ok ((keys.insertionSort (· ≤ ·)).map placeAt) := by
  have comparable : (keys.map placeAt).Pairwise fun first second =>
      (PyValue.lt? (topologyKey first) (topologyKey second)).isSome = true ∧
        (PyValue.lt? (topologyKey second) (topologyKey first)).isSome = true := by
    rw [List.pairwise_map]
    refine List.pairwise_of_forall fun first second => ?_
    rw [lt?_topologyKey, lt?_topologyKey]
    exact ⟨rfl, rfl⟩
  rw [sortedOn, if_pos comparable]
  refine congrArg Except.ok (List.map_insertionSort _ _ _ _ fun first _ second _ => ?_).symm
  rw [lt?_topologyKey, ne_eq, Option.some.injEq, decide_eq_true_eq, not_lt]

theorem topology_eq {children : List PyDict}
    (listed : device.get? "children" = some (.list (children.map .dict)))
    (arePartitions : ∀ child ∈ children, IsPartition child) :
    topology device = .ok (.list ((((children.map placeKey).insertionSort (· ≤ ·)).map placeAt).map
      .dict)) := by
  have places : ∀ place? : PyValue → Option PyDict, (∀ items, place? (.dict items) =
      some (placeOf items)) → (children.map .dict).filterMap place? =
        (children.map placeKey).map placeAt := by
    intro place? isPlace
    rw [List.filterMap_map, List.map_map, ← List.filterMap_eq_map]
    refine List.filterMap_congr fun child member => (isPlace child).trans ?_
    exact congrArg some (arePartitions child member).placeOf_eq
  have sorted := sortedOn_placeAt (children.map placeKey)
  rw [topology, PyDict.get, listed]
  change (sortedOn PyValue.lt? topologyKey _ >>= _) = _
  rw [places _ fun _ => rfl, sorted]
  rfl

theorem Relisted.topology (relisted : Relisted names device other) :
    topology other = Hostd.topology device := by
  rcases relisted.children
    with ⟨absent, otherAbsent⟩ | ⟨children, others, matched, listed, otherListed⟩
  · rw [Hostd.topology, Hostd.topology, PyDict.get, PyDict.get, absent, otherAbsent]
  · rw [topology_eq listed (matched.forall_left fun _ _ relisted => relisted.1),
      topology_eq otherListed (matched.forall_right fun _ _ => PartitionRelisted.isPartition)]
    have perm := matched.perm_map fun _ _ => PartitionRelisted.placeKey
    have sorted : (children.map placeKey).insertionSort (· ≤ ·) =
        (others.map placeKey).insertionSort (· ≤ ·) :=
      List.Perm.eq_of_sortedLE List.sortedLE_insertionSort List.sortedLE_insertionSort
        ((List.perm_insertionSort _ _).trans (perm.trans (List.perm_insertionSort _ _).symm))
    rw [sorted]

/-! ## Children -/

/-- `_with_child_identity` for a partition. -/
def childIdentity (host : Host) (parentId : PyValue) (child : PyDict) : Except PyError PyDict := do
  let sourceId ← digest host (.dict [(.str "parent_source_id", parentId),
    (.str "start_sector", child.get "start_sector"), (.str "size_bytes", child.get "size_bytes")])
  return ((child.set "source_id" (.str ("source_" ++ sourceId))).set "parent_source_id"
    parentId).set "identity_strength" (.str "parent-topology")

theorem withChildIdentity_dict (child parent : PyDict) :
    withChildIdentity host (.dict child) parent =
      childIdentity host (parent.get "source_id") child >>=
        fun identified => .ok (.dict identified) := by
  rw [childIdentity, bind_assoc]
  rfl

theorem mapM_withChildIdentity (children : List PyDict) (parent : PyDict) :
    ((children.map PyValue.dict).mapM fun child => withChildIdentity host child parent) =
      children.mapM (childIdentity host (parent.get "source_id")) >>= fun identified =>
        .ok (identified.map .dict) := by
  induction children with
  | nil => rfl
  | cons child children ih =>
    rw [List.map_cons, List.mapM_cons, List.mapM_cons, ih, withChildIdentity_dict]
    cases childIdentity host (parent.get "source_id") child with
    | error error => rfl
    | ok first =>
      cases children.mapM (childIdentity host (parent.get "source_id")) with
      | error error => rfl
      | ok identified => rfl

theorem IsPartition.set {child : PyDict} (isPartition : IsPartition child) {key : String}
    (value : PyValue) (notStart : PyStr.ofString key ≠ .ofString "start_sector")
    (notSize : PyStr.ofString key ≠ .ofString "size_bytes") :
    IsPartition (child.set key value) := by
  constructor
  · rw [PyDict.get_set_of_ne _ _ notStart]
    exact isPartition.start
  · rw [PyDict.get_set_of_ne _ _ notSize]
    exact isPartition.size

theorem PartitionRelisted.set {child : PyDict} (relisted : PartitionRelisted names child other)
    {key : String} (value : PyValue) (plain : IsPlainKey key)
    (notStart : PyStr.ofString key ≠ .ofString "start_sector")
    (notSize : PyStr.ofString key ≠ .ofString "size_bytes") :
    PartitionRelisted names (child.set key value) (other.set key value) := by
  rcases relisted with ⟨isPartition, rfl⟩
  exact ⟨isPartition.set value notStart notSize, set_renamed plain child value⟩

theorem PartitionRelisted.childIdentity {child : PyDict}
    (relisted : PartitionRelisted names child other) (parentId : PyValue) :
    Agree (PartitionRelisted names) (childIdentity host parentId child)
      (Hostd.childIdentity (renamedHost names host) parentId other) := by
  have start : other.get "start_sector" = child.get "start_sector" := by
    rw [← relisted.2, get_renamed (by decide)]
  have size : other.get "size_bytes" = child.get "size_bytes" := by
    rw [← relisted.2, get_renamed (by decide)]
  rw [Hostd.childIdentity, Hostd.childIdentity, start, size]
  refine (Agree.refl (digest host _)).bind ?_
  rintro sourceId _ rfl
  refine .ok ?_
  exact ((relisted.set _ (by decide) (by decide) (by decide)).set _ (by decide) (by decide)
    (by decide)).set _ (by decide) (by decide) (by decide)

theorem Relisted.withChildren {copy : PyDict} (relisted : Relisted names copy other) :
    Agree (Relisted names) (withChildren host copy)
      (Hostd.withChildren (renamedHost names host) other) := by
  have parentId : other.get "source_id" = copy.get "source_id" := relisted.get (by decide)
  have listed : ∃ children others : List PyDict, Matched (PartitionRelisted names) children others ∧
      (copy.get? "children").getD (.list []) = .list (children.map .dict) ∧
        (other.get? "children").getD (.list []) = .list (others.map .dict) := by
    rcases relisted.children
      with ⟨absent, otherAbsent⟩ | ⟨children, others, matched, listed, otherListed⟩
    · exact ⟨[], [], ⟨[], .nil, .nil⟩, by rw [absent]; rfl, by rw [otherAbsent]; rfl⟩
    · exact ⟨children, others, matched, by rw [listed]; rfl, by rw [otherListed]; rfl⟩
  rcases listed with ⟨children, others, matched, listed, otherListed⟩
  rw [Hostd.withChildren, Hostd.withChildren, listed, otherListed, listOf, listOf]
  change Agree _ ((children.map PyValue.dict).mapM _ >>= _) ((others.map PyValue.dict).mapM _ >>= _)
  rw [mapM_withChildIdentity, mapM_withChildIdentity, parentId, bind_assoc, bind_assoc]
  refine (matched.agree_mapM fun _ _ relisted => relisted.childIdentity _).bind ?_
  intro identified otherIdentified again
  exact .ok (forall₂_set (fun _ _ => FactRelisted.fst) relisted (.children again))

/-! ## Devices -/

section Devices

variable {device other : PyDict}

theorem Relisted.readerBasis (relisted : Relisted names device other) (matchedById : List PyStr) :
    readerBasis other matchedById = Hostd.readerBasis device matchedById := by
  simp only [Hostd.readerBasis, relisted.get (by decide : IsPlainKey "vendor"),
    relisted.get (by decide : IsPlainKey "model"), relisted.get (by decide : IsPlainKey "wwn"),
    relisted.get (by decide : IsPlainKey "serial"),
      relisted.get (by decide : IsPlainKey "device_type"),
    relisted.get (by decide : IsPlainKey "transport"),
    relisted.get (by decide : IsPlainKey "removable")]

theorem Relisted.fixedFacts (relisted : Relisted names device other) :
    fixedFacts other = Hostd.fixedFacts device := by
  simp only [Hostd.fixedFacts, mediumDependentFacts, relisted.topology,
    relisted.get (by decide : IsPlainKey "removable"),
    relisted.get (by decide : IsPlainKey "size_bytes"),
    relisted.get (by decide : IsPlainKey "logical_block_size"),
    relisted.get (by decide : IsPlainKey "physical_block_size")]

theorem Relisted.withIdentity (relisted : Relisted names device other) :
    Agree (Relisted names) (withIdentity host device)
      (Hostd.withIdentity (renamedHost names host) other) := by
  have matchedById : matchedNames (renamedHost names host) (stringOf (other.get "kernel_name")) =
      matchedNames host (stringOf (device.get "kernel_name")) := by
    rw [relisted.kernelName, matchedNames_renamedHost]
  rw [matchedNames, matchedNames] at matchedById
  rw [Hostd.withIdentity, Hostd.withIdentity, relisted.get? (by decide : IsPlainKey "warnings")]
  refine (Agree.refl (listOf _)).bind ?_
  rintro warnings _ rfl
  dsimp only
  rw [matchedById, relisted.readerBasis, relisted.fixedFacts]
  refine (Agree.refl (Hostd.fixedFacts device)).bind ?_
  rintro facts _ rfl
  refine (Agree.refl (digest host _)).bind ?_
  rintro sourceId _ rfl
  exact Relisted.withChildren
    ((((relisted.set (by decide) _).set (by decide) _).set (by decide) _).set (by decide) _)

theorem Relisted.sourceKindForDevice (relisted : Relisted names device other) :
    sourceKindForDevice other = MediaIdentity.sourceKindForDevice device := by
  simp only [MediaIdentity.sourceKindForDevice, relisted.get (by decide : IsPlainKey "device_type"),
    relisted.get (by decide : IsPlainKey "removable")]

theorem Relisted.normalizeMediumSignals (relisted : Relisted names device other) :
    normalizeMediumSignals other = MediaIdentity.normalizeMediumSignals device := by
  simp only [MediaIdentity.normalizeMediumSignals,
    relisted.get (by decide : IsPlainKey "size_bytes"),
    relisted.get (by decide : IsPlainKey "logical_block_size"),
    relisted.get (by decide : IsPlainKey "physical_block_size"),
    relisted.get (by decide : IsPlainKey "geometry"),
    relisted.get (by decide : IsPlainKey "toc_sessions"),
    relisted.get (by decide : IsPlainKey "sampled_fingerprint_sha256"),
    relisted.get (by decide : IsPlainKey "media_change_generation")]

theorem Relisted.identityWarningsFor (relisted : Relisted names device other) (signals : PyDict) :
    identityWarningsFor other signals = MediaIdentity.identityWarningsFor device signals := by
  simp only [MediaIdentity.identityWarningsFor, relisted.sourceKindForDevice,
    relisted.get (by decide : IsPlainKey "removable"),
    relisted.get (by decide : IsPlainKey "fingerprint_unreadable")]

theorem Relisted.withMediaIdentity (relisted : Relisted names device other) :
    Agree (Relisted names) (withMediaIdentity host device)
      (Hostd.withMediaIdentity (renamedHost names host) other) := by
  rw [Hostd.withMediaIdentity, Hostd.withMediaIdentity]
  simp only [relisted.normalizeMediumSignals, relisted.identityWarningsFor, strengthWarningNeeded,
    relisted.get (by decide : IsPlainKey "source_id"),
    relisted.get (by decide : IsPlainKey "identity_strength"),
    relisted.get? (by decide : IsPlainKey "identity_warnings")]
  refine (Agree.refl (listOf _)).bind ?_
  rintro readerWarnings _ rfl
  refine (Agree.refl (mediumSourceId host _ _)).bind ?_
  rintro mediumId _ rfl
  refine (Agree.refl (fromKeys _)).bind ?_
  rintro identityWarnings _ rfl
  exact Relisted.withChildren
    ((((((relisted.set (by decide) _).set (by decide) _).set (by decide) _).set
    (by decide) _).set (by decide) _).set (by decide) _)

/-- A device keeps what identifies it. -/
theorem Relisted.identifyDevice (host : Host) (relisted : Relisted names device other) :
    Agree (Relisted names) (identifyDevice host device)
      (Hostd.identifyDevice (renamedHost names host) other) := by
  rw [Hostd.identifyDevice, Hostd.identifyDevice]
  refine relisted.withIdentity.bind fun identified otherIdentified again => ?_
  rw [isRemovable, isRemovable, relisted.sourceKindForDevice]
  split
  · exact again.withMediaIdentity
  · exact .ok again

end Devices

/-! ## Collisions -/

/-- The identities of a device and its children. -/
def sourceIds (identified : PyDict) : List PyStr :=
  (identityTree identified).map fun candidate => stringOf (candidate.get "source_id")

theorem Relisted.sourceIds (relisted : Relisted names device other) :
    (sourceIds device).Perm (Hostd.sourceIds other) := by
  have own : other.get "source_id" = device.get "source_id" := relisted.get (by decide)
  have ofChildren : ∀ {copy : PyDict} {children : List PyDict},
      copy.get? "children" = some (.list (children.map .dict)) →
        Hostd.sourceIds copy = stringOf (copy.get "source_id") ::
          children.map fun child => stringOf (child.get "source_id") := by
    intro copy children listed
    rw [Hostd.sourceIds, identityTree, PyDict.get, listed]
    change List.map _ (copy :: (children.map PyValue.dict).filterMap _) = _
    rw [List.filterMap_map, List.map_cons]
    refine congrArg _ (congrArg _ ?_)
    exact List.filterMap_some
  rcases relisted.children
    with ⟨absent, otherAbsent⟩ | ⟨children, others, matched, listed, otherListed⟩
  · rw [Hostd.sourceIds, Hostd.sourceIds, identityTree, identityTree, PyDict.get, PyDict.get,
      absent, otherAbsent]
    change [stringOf _].Perm [stringOf _]
    rw [own]
  · rw [ofChildren listed, ofChildren otherListed, own]
    refine List.Perm.cons _ (matched.perm_map ?_)
    rintro child _ ⟨_, rfl⟩
    rw [get_renamed (by decide)]

/-- An identity is taken twice. -/
def Collides (result : Except PyError (List PyDict)) : Prop :=
  ∃ message, result = .error (.identityCollisionError message)

theorem claimIdentity_spec (host : Host) (seen : Seen) (candidate : PyDict) :
    (stringOf (candidate.get "source_id") ∉ seen.map Prod.fst ∧ claimIdentity host seen candidate =
        .ok ((stringOf (candidate.get "source_id"), stringOf (candidate.get "kernel_name")) ::
          seen)) ∨
    (stringOf (candidate.get "source_id") ∈ seen.map Prod.fst ∧
      ∃ message, claimIdentity host seen candidate = .error (.identityCollisionError message)) := by
  rw [claimIdentity]
  cases found : seen.lookup (stringOf (candidate.get "source_id")) with
  | none =>
    refine Or.inl ⟨fun member => ?_, rfl⟩
    rcases List.mem_map.mp member with ⟨pair, isPair, same⟩
    have differ := List.lookup_eq_none_iff.mp found pair isPair
    rw [same] at differ
    simp at differ
  | some existing =>
    refine Or.inr ⟨?_, _, rfl⟩
    rcases List.lookup_eq_some_iff.mp found with ⟨before, after, rfl, _⟩
    simp

theorem foldlM_claimIdentity (host : Host) (tree : List PyDict) {seen : Seen}
    (distinct : (seen.map Prod.fst).Nodup) :
    (∃ next : Seen, tree.foldlM (claimIdentity host) seen = .ok next ∧ (next.map Prod.fst).Nodup ∧
      (next.map Prod.fst).Perm ((tree.map fun candidate => stringOf (candidate.get "source_id")) ++
        seen.map Prod.fst)) ∨
    ((∃ message, tree.foldlM (claimIdentity host) seen = .error (.identityCollisionError message)) ∧
      ¬((tree.map fun candidate => stringOf (candidate.get "source_id")) ++
        seen.map Prod.fst).Nodup) := by
  induction tree generalizing seen with
  | nil => exact Or.inl ⟨seen, rfl, distinct, .refl _⟩
  | cons candidate tree ih =>
    rw [List.foldlM_cons, List.map_cons]
    rcases claimIdentity_spec host seen candidate with
      ⟨isNew, claimed⟩ | ⟨isTaken, message, collides⟩
    · rw [claimed]
      have moved : ((tree.map fun candidate => stringOf (candidate.get "source_id")) ++
          stringOf (candidate.get "source_id") :: seen.map Prod.fst).Perm
            (stringOf (candidate.get "source_id") ::
              ((tree.map fun candidate => stringOf (candidate.get "source_id")) ++
                seen.map Prod.fst)) := List.perm_middle
      have distinctNext : (((stringOf (candidate.get "source_id"),
          stringOf (candidate.get "kernel_name")) :: seen).map Prod.fst).Nodup :=
        List.nodup_cons.mpr ⟨isNew, distinct⟩
      rcases ih distinctNext with
        ⟨next, isNext, nextDistinct, perm⟩ | ⟨collides, twice⟩
      · exact Or.inl ⟨next, isNext, nextDistinct, perm.trans moved⟩
      · exact Or.inr ⟨collides, fun nodup => twice (moved.nodup_iff.mpr nodup)⟩
    · rw [collides]
      refine Or.inr ⟨⟨message, rfl⟩, fun nodup => ?_⟩
      exact (List.nodup_cons.mp nodup).1 (List.mem_append_right _ isTaken)

theorem attachFrom_cons {first : PyDict} (isIdentified : identifyDevice host device = .ok first)
    (seen : Seen) (devices : List PyDict) :
    attachFrom host seen (device :: devices) =
      (identityTree first).foldlM (claimIdentity host) seen >>= fun next =>
        attachFrom host next devices >>= fun rest => .ok (first :: rest) := by
  rw [attachFrom, isIdentified]
  rfl

/-- Devices that are identified are returned unless two identities are the same. -/
theorem attachFrom_of_identified
    (areIdentified : List.Forall₂
      (fun device identified => identifyDevice host device = .ok identified)
      devices identified) (seen : Seen) (distinct : (seen.map Prod.fst).Nodup) :
    ((identified.flatMap sourceIds ++ seen.map Prod.fst).Nodup ∧
      attachFrom host seen devices = .ok identified) ∨
    (¬(identified.flatMap sourceIds ++ seen.map Prod.fst).Nodup ∧
      Collides (attachFrom host seen devices)) := by
  induction areIdentified generalizing seen with
  | nil => exact Or.inl ⟨distinct, rfl⟩
  | @cons device first devices rest isIdentified _ ih =>
    rw [attachFrom_cons isIdentified, List.flatMap_cons]
    rcases foldlM_claimIdentity host (identityTree first) distinct with
      ⟨next, isNext, nextDistinct, perm⟩ | ⟨⟨message, collides⟩, twice⟩
    · rw [isNext]
      have moved : (rest.flatMap sourceIds ++ next.map Prod.fst).Perm
          (sourceIds first ++ rest.flatMap sourceIds ++ seen.map Prod.fst) := by
        refine (perm.append_left _).trans ?_
        rw [← List.append_assoc]
        exact List.perm_append_comm.append_right _
      rcases ih next nextDistinct with ⟨nodup, attached⟩ | ⟨twice, message, collides⟩
      · refine Or.inl ⟨moved.nodup_iff.mp nodup, ?_⟩
        change (attachFrom host next devices >>= _) = _
        rw [attached]
        rfl
      · refine Or.inr ⟨fun nodup => twice (moved.nodup_iff.mpr nodup), message, ?_⟩
        change (attachFrom host next devices >>= _) = _
        rw [collides]
        rfl
    · rw [collides]
      refine Or.inr ⟨fun nodup => twice ?_, message, rfl⟩
      rw [List.append_assoc] at nodup
      exact nodup.sublist ((List.Sublist.refl _).append (List.sublist_append_right _ _))

theorem attachStableIdentities_of_identified
    (areIdentified : devices.mapM (identifyDevice host) = .ok identified) :
    ((identified.flatMap sourceIds).Nodup ∧ attachStableIdentities host devices = .ok identified) ∨
    (¬(identified.flatMap sourceIds).Nodup ∧ Collides (attachStableIdentities host devices)) := by
  have spec := attachFrom_of_identified (forall₂_of_mapM_ok areIdentified) [] .nil
  rwa [List.map_nil, List.append_nil] at spec

theorem exists_error_attach {error : PyError}
    (failed : devices.mapM (identifyDevice host) = .error error) :
    ∃ error, attachStableIdentities host devices = .error error := by
  cases attached : attachStableIdentities host devices with
  | error error => exact ⟨error, rfl⟩
  | ok resolved =>
    rw [mapM_eq_ok_of_forall₂ (forall₂_attachFrom attached)] at failed
    cases failed

/-- Of the devices that are identified as before, two collide if two did before. -/
theorem attach_of_identified {again : List PyDict}
    (areIdentified : devices.mapM (identifyDevice host) = .ok identified)
    (areAgain : others.mapM (identifyDevice (renamedHost names host)) = .ok again)
    (same : Matched (Relisted names) identified again) :
    (attachStableIdentities host devices = .ok identified ∧
      attachStableIdentities (renamedHost names host) others = .ok again) ∨
    (Collides (attachStableIdentities host devices) ∧
      Collides (attachStableIdentities (renamedHost names host) others)) := by
  have perm := same.perm_flatMap fun _ _ => Relisted.sourceIds
  rcases attachStableIdentities_of_identified
    areIdentified with ⟨nodup, attached⟩ | ⟨twice, collides⟩
  · rcases attachStableIdentities_of_identified areAgain with ⟨_, attachedAgain⟩ | ⟨twice, _⟩
    · exact Or.inl ⟨attached, attachedAgain⟩
    · exact absurd (perm.nodup_iff.mp nodup) twice
  · rcases attachStableIdentities_of_identified areAgain with ⟨nodup, _⟩ | ⟨_, collidesAgain⟩
    · exact absurd (perm.nodup_iff.mpr nodup) twice
    · exact Or.inr ⟨collides, collidesAgain⟩

/-! ## Stability -/

/-- A device and what it was identified as, listed anew. -/
def IdentifiedRelisted (names : Renaming) (first second : PyDict × PyDict) : Prop :=
  Relisted names first.1 second.1 ∧ Relisted names first.2 second.2

theorem agree_identified (host : Host) (relisted : Matched (Relisted names) devices others) :
    Agree (fun identified again => Matched (Relisted names) identified again ∧
        Matched (IdentifiedRelisted names) (devices.zip identified) (others.zip again))
      (devices.mapM (identifyDevice host))
      (others.mapM (identifyDevice (renamedHost names host))) := by
  have same := relisted.agree_mapM fun _ _ isRelisted => isRelisted.identifyDevice host
  have zipped := relisted.agree_mapM fun device other isRelisted =>
    (isRelisted.identifyDevice host).bind fun identified again isAgain =>
      (.ok ⟨isRelisted, isAgain⟩ : Agree (IdentifiedRelisted names) (.ok (device, identified))
        (.ok (other, again)))
  rw [mapM_zip, mapM_zip] at zipped
  cases areIdentified : devices.mapM (identifyDevice host) with
  | error error =>
    cases areAgain : others.mapM (identifyDevice (renamedHost names host)) with
    | error again => exact .error error again
    | ok again =>
      rw [areIdentified, areAgain] at same
      cases same
  | ok identified =>
    cases areAgain : others.mapM (identifyDevice (renamedHost names host)) with
    | error again =>
      rw [areIdentified, areAgain] at same
      cases same
    | ok again =>
      rw [areIdentified, areAgain] at same zipped
      cases same with
      | ok same =>
        cases zipped with
        | ok zipped => exact .ok ⟨same, zipped⟩

/-- Devices that are listed anew raise or are returned as before, each with what it was identified
as. Unless one cannot be identified at all, two of them collide if two did before. -/
theorem attach_relisted {devices others : List PyDict}
    (relisted : Matched (Relisted names) devices others) :
    Agree (fun identified again => Matched (IdentifiedRelisted names) (devices.zip identified)
        (others.zip again))
      (attachStableIdentities host devices)
      (attachStableIdentities (renamedHost names host) others) ∧
    ((∀ device ∈ devices, ∃ identified, identifyDevice host device = .ok identified) →
      (Collides (attachStableIdentities host devices) ↔
        Collides (attachStableIdentities (renamedHost names host) others))) := by
  have agree := agree_identified host relisted
  cases areIdentified : devices.mapM (identifyDevice host) with
  | error error =>
    cases areAgain : others.mapM (identifyDevice (renamedHost names host)) with
    | ok again =>
      rw [areIdentified, areAgain] at agree
      cases agree
    | error again =>
      rcases exists_error_attach areIdentified with ⟨_, raised⟩
      rcases exists_error_attach areAgain with ⟨_, raisedAgain⟩
      refine ⟨?_, fun each => ?_⟩
      · rw [raised, raisedAgain]
        exact .error _ _
      · rcases exists_mapM_eq_ok each with ⟨identified, isOk⟩
        rw [isOk] at areIdentified
        cases areIdentified
  | ok identified =>
    cases areAgain : others.mapM (identifyDevice (renamedHost names host)) with
    | error again =>
      rw [areIdentified, areAgain] at agree
      cases agree
    | ok again =>
      rw [areIdentified, areAgain] at agree
      cases agree with
      | ok same =>
        rcases attach_of_identified areIdentified areAgain same.1 with
          ⟨attached, attachedAgain⟩ | ⟨collides, collidesAgain⟩
        · rw [attached, attachedAgain]
          refine ⟨.ok same.2, fun _ => ⟨?_, ?_⟩⟩
          · rintro ⟨_, collides⟩
            cases collides
          · rintro ⟨_, collides⟩
            cases collides
        · refine ⟨?_, fun _ => ⟨fun _ => collidesAgain, fun _ => collides⟩⟩
          rcases collides with ⟨_, collides⟩
          rcases collidesAgain with ⟨_, collidesAgain⟩
          rw [collides, collidesAgain]
          exact .error _ _

def sampleDisk (kernelName serial : String) (size : ℤ) (partitions : List PyDict) : PyDict :=
  [(.str "kernel_name", .str kernelName), (.str "serial", .str serial),
    (.str "size_bytes", .int size), (.str "children", .list (partitions.map .dict))]

def samplePartition (start size : ℤ) : PyDict :=
  [(.str "start_sector", .int start), (.str "size_bytes", .int size)]

/-- Two disks change their names. -/
def swappedNames : Renaming where
  name := Equiv.swap (.ofString "sda") (.ofString "sdb")
  target path := if pathName path = .ofString "sda" then .ofString "/dev/sdb"
    else if pathName path = .ofString "sdb" then .ofString "/dev/sda"
    else path
  name_injective := (Equiv.swap _ _).injective
  isKernelName_name kernelName isName := by
    by_cases isFirst : kernelName = .ofString "sda"
    · rw [isFirst, Equiv.swap_apply_left]
      decide
    · by_cases isSecond : kernelName = .ofString "sdb"
      · rw [isSecond, Equiv.swap_apply_right]
        decide
      · rwa [Equiv.swap_apply_of_ne_of_ne isFirst isSecond]
  pathName_target path _ := by
    by_cases isFirst : pathName path = .ofString "sda"
    · rw [if_pos isFirst, isFirst, Equiv.swap_apply_left]
      decide
    · by_cases isSecond : pathName path = .ofString "sdb"
      · rw [if_neg isFirst, if_pos isSecond, isSecond, Equiv.swap_apply_right]
        decide
      · rw [if_neg isFirst, if_neg isSecond, Equiv.swap_apply_of_ne_of_ne isFirst isSecond]

theorem relisted_sampleDisk {kernelName other serial : String} {size : ℤ} {partitions : List PyDict}
    (renamed : names.name (.ofString kernelName) = .ofString other)
    (matched : Matched (PartitionRelisted names) partitions others) :
    Relisted names (sampleDisk kernelName serial size partitions)
      (sampleDisk other serial size others) := by
  have name : FactRelisted names (.str "kernel_name", .str kernelName)
      (.str "kernel_name", .text (names.name (.ofString kernelName))) :=
    .other fun same => absurd (PyValue.text.inj same) (by decide)
  rw [renamed] at name
  refine .cons name (.cons (.other fun same => ?_) (.cons (.other fun same => ?_)
    (.cons (.children matched) .nil)))
  · exact absurd (PyValue.text.inj same) (by decide)
  · exact absurd (PyValue.text.inj same) (by decide)

theorem relisted_samplePartition (start size : ℤ) :
    PartitionRelisted names (samplePartition start size) (samplePartition start size) :=
  ⟨⟨⟨start, rfl⟩, ⟨size, rfl⟩⟩, rfl⟩

theorem attach_relisted_swapped :
    Agree (fun identified again => Matched (IdentifiedRelisted swappedNames)
        ([sampleDisk "sda" "A" 4096 [samplePartition 1 512, samplePartition 3 1024],
          sampleDisk "sdb" "B" 512 []].zip identified)
        ([sampleDisk "sda" "B" 512 [],
          sampleDisk "sdb" "A" 4096 [samplePartition 3 1024, samplePartition 1 512]].zip again))
      (attachStableIdentities sampleHost
        [sampleDisk "sda" "A" 4096 [samplePartition 1 512, samplePartition 3 1024],
          sampleDisk "sdb" "B" 512 []])
      (attachStableIdentities (renamedHost swappedNames sampleHost)
        [sampleDisk "sda" "B" 512 [],
          sampleDisk "sdb" "A" 4096 [samplePartition 3 1024, samplePartition 1 512]]) ∧
    ((∀ device ∈ [sampleDisk "sda" "A" 4096 [samplePartition 1 512, samplePartition 3 1024],
        sampleDisk "sdb" "B" 512 []], ∃ identified, identifyDevice sampleHost device =
          .ok identified) →
      (Collides (attachStableIdentities sampleHost
          [sampleDisk "sda" "A" 4096 [samplePartition 1 512, samplePartition 3 1024],
            sampleDisk "sdb" "B" 512 []]) ↔
        Collides (attachStableIdentities (renamedHost swappedNames sampleHost)
          [sampleDisk "sda" "B" 512 [],
            sampleDisk "sdb" "A" 4096 [samplePartition 3 1024, samplePartition 1 512]]))) :=
  attach_relisted ⟨_, .swap _ _ _, .cons (relisted_sampleDisk (Equiv.swap_apply_right _ _)
      ⟨[], .nil, .nil⟩)
    (.cons (relisted_sampleDisk (Equiv.swap_apply_left _ _) ⟨_, .swap _ _ _,
      .cons (relisted_samplePartition 3 1024) (.cons (relisted_samplePartition 1 512) .nil)⟩) .nil)⟩

/-! ## Devices that cannot be identified -/

/-- What the identity of a disk without partitions depends on. -/
def sampleFacts (serial : String) (size : ℤ) : PyDict :=
  [(.str "vendor", .none), (.str "model", .none), (.str "serial", .str serial),
    (.str "size_bytes", .int size), (.str "logical_block_size", .none),
    (.str "physical_block_size", .none), (.str "topology", .list [])]

theorem not_identified {size : ℤ} (tooLong : checkInt size = .error .valueError) :
    identifyDevice sampleHost (sampleDisk "sdc" "C" size []) = .error .valueError := by
  have normalized : normalize 10000 (.dict (sampleFacts "C" size)) =
      .ok (.dict [(.str "logical_block_size", .none), (.str "model", .none),
        (.str "physical_block_size", .none), (.str "serial", .str "C"),
        (.str "size_bytes", .int size),
        (.str "topology", .list []), (.str "vendor", .none)]) := rfl
  have fails : digest sampleHost (.dict (sampleFacts "C" size)) = .error .valueError := by
    rw [digest]
    change (normalize 10000 _ >>= _) = _
    rw [normalized]
    change (reprValue _ (.dict _) >>= _) = _
    simp only [reprValue, reprPairs, PyValue.str, tooLong]
    rfl
  change ((digest sampleHost (.dict (sampleFacts "C" size)) >>= _) >>= _) = _
  rw [fails]
  rfl

def isCollision : Except PyError (List PyDict) → Bool
  | .error (.identityCollisionError _) => true
  | _ => false

theorem collides_iff {result : Except PyError (List PyDict)} :
    Collides result ↔ isCollision result = true := by
  constructor
  · rintro ⟨message, rfl⟩
    rfl
  · intro collides
    unfold isCollision at collides
    split at collides
    · exact ⟨_, rfl⟩
    · cases collides

def sameNames : Renaming where
  name := id
  target := id
  name_injective := Function.injective_id
  isKernelName_name _ isName := isName
  pathName_target _ _ := rfl

/-- `repr` does not show a size with so many digits. -/
def longDisk : PyDict := sampleDisk "sdc" "C" ((512 * 10 ^ intMaxStrDigits : ℕ) : ℤ) []

theorem longDisk_not_identified : identifyDevice sampleHost longDisk = .error .valueError := by
  refine not_identified (if_neg fun short => ?_)
  rw [Int.natAbs_natCast] at short
  have small := (Nat.length_toDigits_le_iff (by decide) (by decide)).mp short
  exact absurd small (Nat.not_lt.mpr (Nat.le_mul_of_pos_left (10 ^ intMaxStrDigits) (by decide)))

/-- Two disks that collide are not reported when a disk that cannot be identified comes first. -/
theorem collision_not_reported : ¬∀ (host : Host) (names : Renaming) (devices others : List PyDict),
    Matched (Relisted names) devices others → (Collides (attachStableIdentities host devices) ↔
        Collides (attachStableIdentities (renamedHost names host) others)) := by
  intro reported
  have collides : Collides (attachStableIdentities sampleHost
      [sampleDisk "sda" "A" 512 [], sampleDisk "sdb" "A" 512 [], longDisk]) :=
    collides_iff.mpr (by decide +kernel)
  have same : ∀ (kernelName serial : String) (size : ℤ),
      Relisted sameNames (sampleDisk kernelName serial size [])
        (sampleDisk kernelName serial size []) :=
    fun _ _ _ => relisted_sampleDisk rfl ⟨[], .nil, .nil⟩
  have moved : Matched (Relisted sameNames)
      [sampleDisk "sda" "A" 512 [], sampleDisk "sdb" "A" 512 [], longDisk]
      [longDisk, sampleDisk "sda" "A" 512 [], sampleDisk "sdb" "A" 512 []] :=
    ⟨_, List.perm_append_singleton longDisk [_, _], .cons (same _ _ _) (.cons (same _ _ _)
      (.cons (same _ _ _) .nil))⟩
  rcases (reported _ _ _ _ moved).mp collides with ⟨message, raised⟩
  have failed : attachStableIdentities sampleHost
      [longDisk, sampleDisk "sda" "A" 512 [], sampleDisk "sdb" "A" 512 []] =
        .error .valueError := by
    rw [attachStableIdentities, attachFrom, longDisk_not_identified]
    rfl
  cases failed.symm.trans raised

end Hostd

end Reperio
