import Reperio.Encoding.Firsts
import Reperio.Python.Agreement
import Reperio.Python.KeyOrder
import Reperio.Python.ReprText

/-!
# `repr` of nested values

With so many levels of recursion left, `repr` of a value raises where the value is nested
deeper or an integer has too many digits. Otherwise the `repr` of each of its strings is
found in its own (`infix_of_mem_texts`).
-/

namespace Reperio.Python

variable (display : Display)

/-- What stands for the elements, with commas between. -/
def separated (shown : List PyStr) : PyStr := (PyStr.ofString ", ").intercalate shown

mutual

/-- `repr(value)` with `limit` levels of recursion left. -/
def reprWithin : ℕ → PyValue → Except PyError PyStr
  | 0, _ => .error .recursionError
  | limit + 1, .list items => do
      return PyStr.ofString "[" ++ separated (← reprItemsWithin limit items) ++ PyStr.ofString "]"
  | limit + 1, .dict items => do
      return PyStr.ofString "\x7b" ++ separated (← reprPairsWithin limit items) ++
        PyStr.ofString "\x7d"
  | _ + 1, value => reprValue display value

def reprItemsWithin : ℕ → List PyValue → Except PyError (List PyStr)
  | _, [] => .ok []
  | limit, item :: items => do
      let shown ← reprWithin limit item
      return shown :: (← reprItemsWithin limit items)

def reprPairsWithin : ℕ → List (PyValue × PyValue) → Except PyError (List PyStr)
  | _, [] => .ok []
  | limit, (key, value) :: items => do
      let shownKey ← reprWithin limit key
      let shownValue ← reprWithin limit value
      return (shownKey ++ PyStr.ofString ": " ++ shownValue) :: (← reprPairsWithin limit items)

end

mutual

/-- `repr` has enough levels, and integers have no more digits than it writes. -/
def Representable : ℕ → PyValue → Prop
  | 0, _ => False
  | limit + 1, .list items => RepresentableItems limit items
  | limit + 1, .dict items => RepresentablePairs limit items
  | _ + 1, .int value => (Nat.toDigits 10 value.natAbs).length ≤ intMaxStrDigits
  | _ + 1, _ => True

def RepresentableItems : ℕ → List PyValue → Prop
  | _, [] => True
  | limit, item :: items => Representable limit item ∧ RepresentableItems limit items

def RepresentablePairs : ℕ → List (PyValue × PyValue) → Prop
  | _, [] => True
  | limit, (key, value) :: items =>
    Representable limit key ∧ Representable limit value ∧ RepresentablePairs limit items

end

mutual

/-- The strings in a value, keys and values at any depth. -/
def textsIn : PyValue → List PyStr
  | .text points => [points]
  | .list items => textsInItems items
  | .dict items => textsInPairs items
  | _ => []

def textsInItems : List PyValue → List PyStr
  | [] => []
  | item :: items => textsIn item ++ textsInItems items

def textsInPairs : List (PyValue × PyValue) → List PyStr
  | [] => []
  | (key, value) :: items => textsIn key ++ textsIn value ++ textsInPairs items

end

/-! ## Elements one by one -/

section

variable {display} {limit : ℕ}

/-- What stands for an item of a dictionary. -/
def reprPair (display : Display) (limit : ℕ) (item : PyValue × PyValue) : Except PyError PyStr := do
  let shownKey ← reprWithin display limit item.1
  let shownValue ← reprWithin display limit item.2
  return shownKey ++ PyStr.ofString ": " ++ shownValue

theorem reprItemsWithin_eq_mapM (items : List PyValue) :
    reprItemsWithin display limit items = items.mapM (reprWithin display limit) := by
  induction items with
  | nil => rfl
  | cons item items ih => rw [reprItemsWithin, ih, List.mapM_cons]

theorem reprPairsWithin_eq_mapM (items : List (PyValue × PyValue)) :
    reprPairsWithin display limit items = items.mapM (reprPair display limit) := by
  induction items with
  | nil => rfl
  | cons item items ih =>
    rw [reprPairsWithin, ih, List.mapM_cons, reprPair]
    simp only [bind_assoc, pure_bind]

theorem representableItems_iff {items : List PyValue} :
    RepresentableItems limit items ↔ ∀ item ∈ items, Representable limit item := by
  induction items with
  | nil => simp [RepresentableItems]
  | cons item items ih => rw [RepresentableItems, ih, List.forall_mem_cons]

theorem representablePairs_iff {items : List (PyValue × PyValue)} : RepresentablePairs limit items ↔
      ∀ item ∈ items, Representable limit item.1 ∧ Representable limit item.2 := by
  induction items with
  | nil => simp [RepresentablePairs]
  | cons item items ih => rw [RepresentablePairs, ih, List.forall_mem_cons, and_assoc]

theorem textsInItems_eq_flatMap (items : List PyValue) :
    textsInItems items = items.flatMap textsIn := by
  induction items with
  | nil => rfl
  | cons item items ih => rw [textsInItems, ih, List.flatMap_cons]

theorem textsInPairs_eq_flatMap (items : List (PyValue × PyValue)) :
    textsInPairs items = items.flatMap fun item => textsIn item.1 ++ textsIn item.2 := by
  induction items with
  | nil => rfl
  | cons item items ih => rw [textsInPairs, ih, List.flatMap_cons]

/-! ## When there is a `repr` -/

theorem exists_reprPair_iff {item : PyValue × PyValue} :
    (∃ shown, reprPair display limit item = .ok shown) ↔
      (∃ shown, reprWithin display limit item.1 = .ok shown) ∧
        ∃ shown, reprWithin display limit item.2 = .ok shown := by
  constructor
  · rintro ⟨shown, isShown⟩
    obtain ⟨key, isKey, isShown⟩ := bind_eq_ok isShown
    obtain ⟨value, isValue, _⟩ := bind_eq_ok isShown
    exact ⟨⟨key, isKey⟩, value, isValue⟩
  · rintro ⟨⟨key, isKey⟩, value, isValue⟩
    refine ⟨key ++ PyStr.ofString ": " ++ value, ?_⟩
    rw [reprPair, isKey, isValue]
    rfl

theorem exists_mapM_iff {α β ε : Type} {convert : α → Except ε β} {items : List α} :
    (∃ results, items.mapM convert = .ok results) ↔
      ∀ item ∈ items, ∃ result, convert item = .ok result := by
  refine ⟨?_, exists_mapM_eq_ok⟩
  rintro ⟨results, mapped⟩ item isItem
  obtain ⟨result, isResult, _⟩ := Encoding.exists_of_mapM_eq_ok mapped isItem
  exact ⟨result, isResult⟩

theorem exists_map_iff {α β ε : Type} {value : Except ε α} {convert : α → β} :
    (∃ result, (do return convert (← value) : Except ε β) = .ok result) ↔
      ∃ inner, value = .ok inner := by
  cases value with
  | error error => exact ⟨nofun, nofun⟩
  | ok inner => exact ⟨fun _ => ⟨inner, rfl⟩, fun _ => ⟨convert inner, rfl⟩⟩

/-- There is a `repr` exactly of what is representable. -/
theorem exists_reprWithin_iff {value : PyValue} :
    (∃ shown, reprWithin display limit value = .ok shown) ↔ Representable limit value := by
  induction value using PyValue.induct generalizing limit with
  | leaf value isLeaf =>
    cases limit with
    | zero =>
      rw [reprWithin, Representable]
      exact ⟨nofun, nofun⟩
    | succ limit =>
      cases isLeaf with
      | int value =>
        have written : reprWithin display (limit + 1) (.int value) =
            do return .ofChars (renderInt (← checkInt value)) := rfl
        rw [written, exists_map_iff, checkInt]
        split
        · rename_i short
          exact ⟨fun _ => short, fun _ => ⟨value, rfl⟩⟩
        · rename_i long
          exact ⟨nofun, fun short => absurd short long⟩
      | none => exact ⟨fun _ => trivial, fun _ => ⟨_, rfl⟩⟩
      | bool value => exact ⟨fun _ => trivial, fun _ => ⟨_, rfl⟩⟩
      | float value => exact ⟨fun _ => trivial, fun _ => ⟨_, rfl⟩⟩
      | text points => exact ⟨fun _ => trivial, fun _ => ⟨_, rfl⟩⟩
      | other => exact ⟨fun _ => trivial, fun _ => ⟨_, rfl⟩⟩
  | list items ih =>
    cases limit with
    | zero => exact ⟨nofun, nofun⟩
    | succ limit =>
      rw [reprWithin, Representable, exists_map_iff, reprItemsWithin_eq_mapM, exists_mapM_iff,
        representableItems_iff]
      exact forall₂_congr fun item isItem => ih item isItem
  | dict items ih =>
    cases limit with
    | zero => exact ⟨nofun, nofun⟩
    | succ limit =>
      rw [reprWithin, Representable, exists_map_iff, reprPairsWithin_eq_mapM, exists_mapM_iff,
        representablePairs_iff]
      refine forall₂_congr fun item isItem => exists_reprPair_iff.trans ?_
      exact and_congr (ih item isItem).1 (ih item isItem).2

/-! ## Strings in a value -/

theorem infix_separated {shown : List PyStr} {part : PyStr} (isPart : part ∈ shown) :
    part <:+: separated shown := by
  induction shown with
  | nil => exact absurd isPart List.not_mem_nil
  | cons first rest ih =>
    cases rest with
    | nil =>
      rw [List.mem_singleton.mp isPart, separated, List.intercalate_singleton]
    | cons second rest =>
      rw [separated, List.intercalate_cons_cons, ← separated]
      cases List.mem_cons.mp isPart with
      | inl isFirst =>
        rw [isFirst, List.append_assoc]
        exact (List.prefix_append _ _).isInfix
      | inr isLater => exact (ih isLater).trans (List.suffix_append _ _).isInfix

/-- The `repr` of each string of a value is found in that of the value. -/
theorem infix_of_mem_texts {value : PyValue} {shown points : PyStr}
    (isShown : reprWithin display limit value = .ok shown) (isText : points ∈ textsIn value) :
    reprText display points <:+: shown := by
  induction value using PyValue.induct generalizing limit shown with
  | leaf value isLeaf =>
    cases isLeaf with
    | text text =>
      cases limit with
      | zero => cases isShown
      | succ limit =>
        rw [List.mem_singleton.mp isText, ← Except.ok.inj isShown]
    | _ => exact absurd isText List.not_mem_nil
  | list items ih =>
    cases limit with
    | zero => cases isShown
    | succ limit =>
      obtain ⟨parts, mapped, returned⟩ := bind_eq_ok isShown
      rw [reprItemsWithin_eq_mapM] at mapped
      rw [textsIn, textsInItems_eq_flatMap, List.mem_flatMap] at isText
      obtain ⟨item, isItem, isText⟩ := isText
      obtain ⟨part, isPart, member⟩ := Encoding.exists_of_mapM_eq_ok mapped isItem
      rw [← Except.ok.inj returned]
      exact ((ih item isItem isPart isText).trans (infix_separated member)).trans
        (List.infix_append _ _ _)
  | dict items ih =>
    cases limit with
    | zero => cases isShown
    | succ limit =>
      obtain ⟨parts, mapped, returned⟩ := bind_eq_ok isShown
      rw [reprPairsWithin_eq_mapM] at mapped
      rw [textsIn, textsInPairs_eq_flatMap, List.mem_flatMap] at isText
      obtain ⟨item, isItem, isText⟩ := isText
      obtain ⟨part, isPart, member⟩ := Encoding.exists_of_mapM_eq_ok mapped isItem
      obtain ⟨key, isKey, isPart⟩ := bind_eq_ok isPart
      obtain ⟨shownValue, isValue, isPart⟩ := bind_eq_ok isPart
      have inPart : reprText display points <:+: part := by
        rw [← Except.ok.inj isPart]
        cases List.mem_append.mp isText with
        | inl inKey =>
          rw [List.append_assoc]
          exact ((ih item isItem).1 isKey inKey).trans (List.prefix_append _ _).isInfix
        | inr inValue =>
          exact ((ih item isItem).2 isValue inValue).trans (List.suffix_append _ _).isInfix
      rw [← Except.ok.inj returned]
      exact (inPart.trans (infix_separated member)).trans (List.infix_append _ _ _)

end

end Reperio.Python
