import Mathlib.Data.Prod.Lex
import Reperio.Graph.Closure
import Reperio.Python.Operators

/-!
# Device numbers and topology

What the modules of `hostd` share about devices: the `major:minor` of a device
and its children, the names that are accepted, and the ancestors of a device, which
a recursion finds as long as it has room on the stack.
-/

namespace Reperio.Hostd

open Python

/-! ## Strings -/

/-- A mapping of strings to strings. -/
abbrev TextDict := List (PyStr × PyStr)

namespace TextDict

def get? (items : TextDict) (name : String) : Option PyStr := items.lookup (.ofString name)

/-- `mapping.get(name, default)`. -/
def get (items : TextDict) (name : String) (default : PyStr) : PyStr :=
  (items.get? name).getD default

end TextDict

/-- What the interpreter knows about strings. -/
structure Strings where
  -- `str(value)` of a value that is not a string
  shown : PyValue → PyStr
  -- `text.lower()`
  lower : PyStr → PyStr

/-- `str(value)`. -/
def Strings.str (strings : Strings) : PyValue → PyStr
  | .text points => points
  | value => strings.shown value

/-- `str(mapping.get(name, ""))`. -/
def Strings.field (strings : Strings) (items : PyDict) (name : String) : PyStr :=
  strings.str ((items.get? name).getD (.str ""))

/-- A first character, and up to `more` others. -/
def matchesName (first rest : CodePoint → Bool) (more : ℕ) : PyStr → Bool
  | [] => false
  | point :: points => first point && points.all rest && decide (points.length ≤ more)

def isDigit (point : CodePoint) : Bool := decide (48 ≤ point.val) && decide (point.val ≤ 57)

def isLower (point : CodePoint) : Bool := decide (97 ≤ point.val) && decide (point.val ≤ 122)

def isUpper (point : CodePoint) : Bool := decide (65 ≤ point.val) && decide (point.val ≤ 90)

def isOneOf (chars : String) (point : CodePoint) : Bool := decide (point ∈ PyStr.ofString chars)

/-! ## Device numbers -/

/-- `0|[1-9][0-9]*`. -/
def isNumber : PyStr → Bool
  | [] => false
  | [point] => isDigit point
  | point :: points => isDigit point && point.val != 48 && points.all isDigit

/-- `_valid_major_minor`, the same in all modules. -/
def validMajorMinor (value : PyStr) : Bool := match value.splitOn (.ofChar ':') with
  | [major, minor] => isNumber major && isNumber minor
  | _ => false

/-- `int(digits)`. -/
def numberOf (digits : PyStr) : ℕ :=
  digits.foldl (fun number point => 10 * number + (point.val - 48)) 0

def majorMinorKey (value : PyStr) : ℕ ×ₗ ℕ := match value.splitOn (.ofChar ':') with
  | [major, minor] => toLex (numberOf major, numberOf minor)
  | _ => toLex (0, 0)

/-- `sorted(nodes, key=_major_minor_key)`. -/
def sortedNodes (nodes : List PyStr) : List PyStr :=
  nodes.insertionSort fun first second => majorMinorKey first ≤ majorMinorKey second

variable {node : PyStr}

@[simp]
theorem mem_sortedNodes {nodes : List PyStr} : node ∈ sortedNodes nodes ↔ node ∈ nodes := by
  rw [sortedNodes, List.mem_insertionSort]

/-! ## Sources -/

/-- A device and its children. -/
def deviceTree (device : PyDict) : List PyDict := match device.get "children" with
  | .list children =>
    device :: children.filterMap fun child =>
      match child with
      | .dict items => some items
      | _ => none
  | _ => [device]

def majorMinorOf (item : PyDict) : Option PyStr := match item.get "major_minor" with
  | .text value => if validMajorMinor value then some value else none
  | _ => none

/-- `_source_major_minors`, the same in all modules. The order of a set is not relied on. -/
def sourceMajorMinors (device : PyDict) : List PyStr :=
  ((deviceTree device).filterMap majorMinorOf).dedup

theorem validMajorMinor_of_mem_source {device : PyDict}
    (isSource : node ∈ sourceMajorMinors device) : validMajorMinor node = true := by
  rw [sourceMajorMinors, List.mem_dedup, List.mem_filterMap] at isSource
  rcases isSource with ⟨item, _, found⟩
  unfold majorMinorOf at found
  split at found
  · split at found
    · rename_i valid
      cases found
      exact valid
    · cases found
  · cases found

/-! ## Dictionaries of lists -/

section Lookup

variable {Node Edge : Type} [DecidableEq Node]

/-- `mapping.get(node, [])`, as a graph. -/
def graphOf (items : List (Node × List Edge)) : FiniteGraph Node Edge where
  next node := (items.lookup node).getD []
  nodes := items.map Prod.fst
  listed := by
    intro node some
    cases found : items.lookup node with
    | none =>
      rw [found] at some
      exact absurd rfl some
    | some edges =>
      rcases List.lookup_eq_some_iff.mp found with ⟨before, after, rfl, _⟩
      simp

/-- The list of a node is changed; a missing one is empty. -/
def update (items : List (Node × List Edge)) (node : Node) (change : List Edge → List Edge) :
    List (Node × List Edge) :=
  match items with
  | [] => [(node, change [])]
  | (other, edges) :: rest =>
    if other = node then (other, change edges) :: rest
    else (other, edges) :: update rest node change

theorem next_graphOf_nil (node : Node) :
    (graphOf ([] : List (Node × List Edge))).next node = [] := rfl

theorem next_graphOf_cons (other : Node) (edges : List Edge) (items : List (Node × List Edge))
    (node : Node) :
    (graphOf ((other, edges) :: items)).next node =
      if node = other then edges else (graphOf items).next node := by
  change (List.lookup node ((other, edges) :: items)).getD [] = _
  rw [List.lookup_cons]
  by_cases same : node = other
  · simp [same]
  · have unequal : (node == other) = false := beq_eq_false_iff_ne.mpr same
    simp [same, unequal, graphOf]

theorem next_graphOf_update (items : List (Node × List Edge)) (node other : Node)
    (change : List Edge → List Edge) :
    (graphOf (update items node change)).next other =
      if other = node then change ((graphOf items).next other) else (graphOf items).next other := by
  induction items with
  | nil => rw [update, next_graphOf_cons, next_graphOf_nil]
  | cons item rest ih =>
    rw [update]
    split
    · rename_i same
      rw [next_graphOf_cons, next_graphOf_cons, same]
      split
      · rfl
      · rfl
    · rename_i different
      rw [next_graphOf_cons, next_graphOf_cons, ih]
      by_cases isFirst : other = item.1
      · subst isFirst
        rw [if_pos rfl, if_neg different, if_pos rfl]
      · rw [if_neg isFirst, if_neg isFirst]

/-- Edges that are added one after the other are added to the lists of their nodes. -/
theorem next_foldl_update (add : List Edge → Edge → List Edge) (pairs : List (Node × Edge))
    (items : List (Node × List Edge)) (node : Node) :
    (graphOf (pairs.foldl (fun items pair => update items pair.1 fun edges => add edges pair.2)
        items)).next node =
      ((pairs.filter fun pair => pair.1 = node).map Prod.snd).foldl add
        ((graphOf items).next node) := by
  induction pairs generalizing items with
  | nil => rfl
  | cons pair pairs ih =>
    rw [List.foldl_cons, ih, next_graphOf_update, List.filter_cons]
    by_cases same : node = pair.1
    · rw [if_pos same, if_pos (by simp [same]), List.map_cons, List.foldl_cons]
    · rw [if_neg same, if_neg (by simp [Ne.symm same])]

end Lookup

/-- All ancestors of the given nodes. -/
def expanded (graph : FiniteGraph PyStr PyStr) (nodes : List PyStr) : List (PyStr × List PyStr) :=
  nodes.map fun node => (node, graph.visit node [])

/-- All ancestors of the given nodes, with room for so many calls in each other. -/
def expandedWithin (frames : ℕ) (graph : FiniteGraph PyStr PyStr) (nodes : List PyStr) :
    Option (List (PyStr × List PyStr)) :=
  nodes.mapM fun node => (graph.visitWithin frames node []).map fun found => (node, found)

theorem expandedWithin_cases (frames : ℕ) (graph : FiniteGraph PyStr PyStr) (nodes : List PyStr) :
    (expandedWithin frames graph nodes = some (expanded graph nodes) ∧ ¬∃ node ∈ nodes,
      FiniteGraph.HasPath (fun first second => second ∈ graph.next first) frames node []) ∨
    (expandedWithin frames graph nodes = none ∧ ∃ node ∈ nodes,
      FiniteGraph.HasPath (fun first second => second ∈ graph.next first) frames node []) := by
  refine FiniteGraph.mapM_cases fun node _ => ?_
  rcases graph.visitWithin_cases frames node [] with ⟨found, short⟩ | ⟨overflows, long⟩
  · exact Or.inl ⟨by rw [found]; rfl, short⟩
  · exact Or.inr ⟨by rw [overflows]; rfl, long⟩

theorem lookup_expanded {graph : FiniteGraph PyStr PyStr} {nodes : List PyStr}
    (complete : graph.next node ≠ [] → node ∈ nodes) :
    ((expanded graph nodes).lookup node).getD [] = graph.visit node [] := by
  by_cases isListed : node ∈ nodes
  · clear complete
    unfold expanded
    induction nodes with
    | nil => cases isListed
    | cons first rest ih =>
      rw [List.map_cons, List.lookup_cons]
      by_cases same : node = first
      · simp [same]
      · have unequal : (node == first) = false := beq_eq_false_iff_ne.mpr same
        rw [unequal]
        exact ih ((List.mem_cons.mp isListed).resolve_left same)
  · have noEdges : graph.next node = [] := by
      by_contra some
      exact isListed (complete some)
    have notFound : (expanded graph nodes).lookup node = none := by
      rw [expanded, List.lookup_eq_none_iff]
      intro entry isEntry
      rcases List.mem_map.mp isEntry with ⟨other, isOther, rfl⟩
      have different : node ≠ other := by
        rintro rfl
        exact isListed isOther
      simp [different]
    rw [notFound, FiniteGraph.visit, if_neg List.not_mem_nil, noEdges]
    rfl

/-- What is looked up are exactly the nodes on a path of at least one edge. -/
theorem mem_lookup_expanded {graph : FiniteGraph PyStr PyStr} {nodes : List PyStr}
    {node target : PyStr} (complete : graph.next node ≠ [] → node ∈ nodes) :
    target ∈ ((expanded graph nodes).lookup node).getD [] ↔
      Relation.TransGen (fun first second => second ∈ graph.next first) node target := by
  rw [lookup_expanded complete, FiniteGraph.mem_visit_nil]

/-! ## Holders -/

/-- The devices that hold a device, with what is recorded about them. -/
abbrev Holders := List (PyStr × List TextDict)

/-- `record.get("major_minor", "")`. -/
def childOf (record : TextDict) : PyStr := record.get "major_minor" []

/-- The records with valid numbers, each with its parent, in the order in which they are found. -/
def validRecords (holders : Holders) : List (PyStr × TextDict) :=
  holders.flatMap fun (parent, records) =>
    if validMajorMinor parent then
      (records.filter fun record => validMajorMinor (childOf record)).map fun record =>
        (parent, record)
    else []

/-- It is recorded that a device is held by another. -/
def Recorded (holders : Option Holders) (parent : PyStr) (record : TextDict) : Prop :=
  (∃ records, (parent, records) ∈ holders.getD [] ∧ record ∈ records) ∧
    validMajorMinor parent = true ∧ validMajorMinor (childOf record) = true

/-- A device holds another: it is made of it. -/
def Holds (holders : Option Holders) (child parent : PyStr) : Prop :=
  ∃ record, Recorded holders parent record ∧ childOf record = child

theorem mem_validRecords {holders : Option Holders} {parent : PyStr} {record : TextDict} :
    (parent, record) ∈ validRecords (holders.getD []) ↔ Recorded holders parent record := by
  unfold validRecords Recorded
  rw [List.mem_flatMap]
  constructor
  · rintro ⟨⟨other, records⟩, isItem, isPair⟩
    dsimp only at isPair
    split at isPair
    · rename_i valid
      rcases List.mem_map.mp isPair with ⟨found, isFound, same⟩
      cases same
      rcases List.mem_filter.mp isFound with ⟨isRecord, childValid⟩
      exact ⟨⟨records, isItem, isRecord⟩, valid, childValid⟩
    · cases isPair
  · rintro ⟨⟨records, isItem, isRecord⟩, valid, childValid⟩
    refine ⟨(parent, records), isItem, ?_⟩
    dsimp only
    rw [if_pos valid]
    exact List.mem_map_of_mem (List.mem_filter.mpr ⟨isRecord, childValid⟩)

end Reperio.Hostd
