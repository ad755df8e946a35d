import Reperio.Python.Value

/-!
# Paths

`pathlib.PurePosixPath`: a root and the components below it, none of them empty, a
single dot or divided by a slash. A path is read back from its text.
-/

namespace Reperio.Python

def slash : CodePoint := .ofChar '/'

/-- A component that is kept when a path is read. -/
def IsComponent (part : PyStr) : Prop := part ≠ [] ∧ part ≠ PyStr.ofString "."

instance (part : PyStr) : Decidable (IsComponent part) := inferInstanceAs (Decidable (_ ∧ _))

/-- A root and the parts below it. -/
structure PurePath where
  -- nothing for a relative path; two slashes are a root of their own
  root : PyStr
  parts : List PyStr
  isRoot : root ∈ ["", "/", "//"].map PyStr.ofString
  areParts : ∀ part ∈ parts, IsComponent part ∧ slash ∉ part
  deriving DecidableEq

/-- The pieces of a text have its characters, none of them one that it is cut at. -/
theorem forall_mem_of_mem_splitOnP {mark : CodePoint → Bool} {text piece : PyStr}
    (isPiece : piece ∈ text.splitOnP mark) : ∀ point ∈ piece, point ∈ text ∧
      mark point = false := by
  induction text generalizing piece with
  | nil =>
    rw [List.splitOnP_nil, List.mem_singleton] at isPiece
    rw [isPiece]
    exact fun _ isPoint => absurd isPoint List.not_mem_nil
  | cons first text ih =>
    have later {piece : PyStr} (isPiece : piece ∈ text.splitOnP mark) :
        ∀ point ∈ piece, point ∈ first :: text ∧ mark point = false := fun point isPoint =>
      ⟨List.mem_cons_of_mem _ (ih isPiece point isPoint).1, (ih isPiece point isPoint).2⟩
    rw [List.splitOnP_cons_eq_if_modifyHead] at isPiece
    split at isPiece
    · rcases List.mem_cons.mp isPiece with rfl | isLater
      · exact fun _ isPoint => absurd isPoint List.not_mem_nil
      · exact later isLater
    · rename_i unmarked
      cases pieces : text.splitOnP mark with
      | nil => exact absurd pieces (List.splitOnP_ne_nil mark text)
      | cons head others =>
        rw [pieces, List.modifyHead_cons] at isPiece
        rcases List.mem_cons.mp isPiece with rfl | isOther
        · rw [List.forall_mem_cons]
          exact ⟨⟨List.mem_cons_self, by simpa using unmarked⟩, later (pieces ▸ List.mem_cons_self)⟩
        · exact later (pieces ▸ List.mem_cons_of_mem _ isOther)

/-- No piece has the mark that the text is divided at. -/
theorem notMem_of_mem_splitOn {text piece : PyStr} {mark : CodePoint}
    (isPiece : piece ∈ text.splitOn mark) : mark ∉ piece := by
  rw [List.splitOn_eq_splitOnP] at isPiece
  intro isMark
  exact absurd (forall_mem_of_mem_splitOnP isPiece mark isMark).2 (by simp)

theorem forall_mem_intercalate {α : Type} {holds : α → Prop} {mark : α} (atMark : holds mark)
    {pieces : List (List α)} (inPieces : ∀ piece ∈ pieces, ∀ point ∈ piece, holds point) :
    ∀ point ∈ [mark].intercalate pieces, holds point := by
  induction pieces with
  | nil => exact fun _ isPoint => (List.not_mem_nil isPoint).elim
  | cons piece pieces ih =>
    obtain ⟨inPiece, inPieces⟩ := List.forall_mem_cons.mp inPieces
    cases pieces with
    | nil => rwa [List.intercalate_singleton]
    | cons next pieces =>
      rw [List.intercalate_cons_cons, List.forall_mem_append, List.forall_mem_append]
      exact ⟨⟨inPiece, List.forall_mem_singleton.mpr atMark⟩, ih inPieces⟩

namespace PurePath

@[ext]
theorem ext {first second : PurePath} (root : first.root = second.root)
    (parts : first.parts = second.parts) : first = second := by
  cases first
  cases second
  subst root parts
  rfl

/-! ## Texts -/

/-- `str(path)`. -/
def text (path : PurePath) : PyStr := if path.root = [] ∧ path.parts = [] then .ofString "."
  else path.root ++ [slash].intercalate path.parts

/-- `posixpath.splitroot`: the root of a text and what follows it. -/
def splitRoot : PyStr → PyStr × PyStr
  | first :: second :: rest =>
    if first = slash then
      if second = slash ∧ rest.head? ≠ some slash then (.ofString "//", rest)
      else (.ofString "/", second :: rest)
    else ([], first :: second :: rest)
  | [point] => if point = slash then (.ofString "/", []) else ([], [point])
  | [] => ([], [])

theorem root_splitRoot (text : PyStr) :
    (splitRoot text).1 ∈ ["", "/", "//"].map PyStr.ofString := by
  have relative : [] ∈ ["", "/", "//"].map PyStr.ofString := by decide
  have single : PyStr.ofString "/" ∈ ["", "/", "//"].map PyStr.ofString := by decide
  have double : PyStr.ofString "//" ∈ ["", "/", "//"].map PyStr.ofString := by decide
  unfold splitRoot
  split
  · split
    · split
      · exact double
      · exact single
    · exact relative
  · split
    · exact single
    · exact relative
  · exact relative

/-- `Path(text)`. -/
def ofText (text : PyStr) : PurePath where
  root := (splitRoot text).1
  parts := ((splitRoot text).2.splitOn slash).filter IsComponent
  isRoot := root_splitRoot text
  areParts _ isPart :=
    ⟨of_decide_eq_true (List.mem_filter.mp isPart).2,
      notMem_of_mem_splitOn (List.mem_filter.mp isPart).1⟩

def isAbsolute (path : PurePath) : Bool := !path.root.isEmpty

/-- `path.parts`, with the root as the first of them. -/
def allParts (path : PurePath) : List PyStr :=
  if path.root = [] then path.parts else path.root :: path.parts

def name (path : PurePath) : PyStr := path.parts.getLast?.getD []

def parent (path : PurePath) : PurePath where
  root := path.root
  parts := path.parts.dropLast
  isRoot := path.isRoot
  areParts part isPart := path.areParts part (List.mem_of_mem_dropLast isPart)

/-- `path.parents`: the nearest one first. -/
def parents (path : PurePath) : List PurePath :=
  (List.range path.parts.length).reverse.map fun count =>
    { path with
      parts := path.parts.take count
      areParts := fun part isPart => path.areParts part (List.mem_of_mem_take isPart) }

/-- `path / name`, for a name that is one component. -/
def child (path : PurePath) (name : PyStr) (isName : IsComponent name ∧ slash ∉ name) :
    PurePath where
  root := path.root
  parts := path.parts ++ [name]
  isRoot := path.isRoot
  areParts := List.forall_mem_append.mpr ⟨path.areParts, List.forall_mem_singleton.mpr isName⟩

theorem splitRoot_append {root rest : PyStr} (isRoot : root ∈ ["", "/", "//"].map PyStr.ofString)
    (visible : rest.head? ≠ some slash) (isSome : root = [] → rest ≠ []) :
    splitRoot (root ++ rest) = (root, rest) := by
  have cases : root = [] ∨ root = [slash] ∨ root = [slash, slash] := by
    simpa [PyStr.ofString, PyStr.ofChars, slash] using isRoot
  rcases cases with rfl | rfl | rfl
  · rcases rest with _ | ⟨first, _ | ⟨second, rest⟩⟩
    · exact absurd rfl (isSome rfl)
    · exact if_neg fun same => visible (congrArg some same)
    · exact if_neg fun same => visible (congrArg some same)
  · cases rest with
    | nil => rfl
    | cons first rest =>
      have different : ¬(first = slash ∧ rest.head? ≠ some slash) :=
        fun same => visible (congrArg some same.1)
      rw [List.singleton_append, splitRoot, if_pos rfl, if_neg different]
      rfl
  · rw [List.cons_append, List.singleton_append, splitRoot, if_pos rfl, if_pos ⟨rfl, visible⟩]
    rfl

theorem splitRoot_of_relative {text : PyStr} (relative : text.head? ≠ some slash) :
    splitRoot text = ([], text) := by
  by_cases isEmpty : text = []
  · rw [isEmpty]
    rfl
  · exact @splitRoot_append [] text (by decide) relative fun _ => isEmpty

theorem ofText_text (path : PurePath) : ofText path.text = path := by
  have components : path.parts.filter IsComponent = path.parts :=
    List.filter_eq_self.mpr fun part isPart => decide_eq_true (path.areParts part isPart).1
  unfold text
  split
  · rename_i isEmpty
    refine ext ?_ ?_
    · rw [isEmpty.1]
      rfl
    · rw [isEmpty.2]
      rfl
  · rename_i isSome
    have visible : ([slash].intercalate path.parts).head? ≠ some slash := by
      cases isParts : path.parts with
      | nil => exact nofun
      | cons first others =>
        rcases path.areParts first (isParts ▸ List.mem_cons_self) with ⟨⟨nonempty, _⟩, noSlash⟩
        rcases first with _ | ⟨point, points⟩
        · exact absurd rfl nonempty
        · have shown : ([slash].intercalate ((point :: points) :: others)).head? = some point := by
            cases others with
            | nil => rfl
            | cons second others => rfl
          rw [shown]
          intro same
          exact noSlash (Option.some.inj same ▸ List.mem_cons_self)
    have divided : splitRoot (path.root ++ [slash].intercalate path.parts) =
        (path.root, [slash].intercalate path.parts) := by
      refine splitRoot_append path.isRoot visible fun relative noText => ?_
      cases isParts : path.parts with
      | nil => exact isSome ⟨relative, isParts⟩
      | cons first others =>
        have nonempty := (path.areParts first (isParts ▸ List.mem_cons_self)).1.1
        rw [isParts] at noText
        cases others with
        | nil => exact nonempty (by simpa using noText)
        | cons second others => simp at noText
    refine ext (congrArg Prod.fst divided) ?_
    change ((splitRoot _).2.splitOn slash).filter _ = _
    rw [divided]
    cases isParts : path.parts with
    | nil => rfl
    | cons first others =>
      rw [List.splitOn_intercalate slash, ← isParts]
      · exact components
      · exact fun part isPart => (path.areParts part (isParts ▸ isPart)).2
      · exact List.cons_ne_nil _ _

theorem text_injective : Function.Injective text := Function.LeftInverse.injective ofText_text

variable {path : PurePath} {component : PyStr} (isName : IsComponent component ∧ slash ∉ component)

@[simp]
theorem name_child : (path.child component isName).name = component := by
  rw [name, child, List.getLast?_append]
  rfl

@[simp]
theorem parent_child : (path.child component isName).parent = path := ext rfl List.dropLast_concat

end PurePath

end Reperio.Python
