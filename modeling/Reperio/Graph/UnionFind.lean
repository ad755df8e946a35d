import Mathlib.Logic.Function.Basic
import Mathlib.Logic.Relation
import Mathlib.Order.MinMax

/-!
# Union and find

A forest over ordered values in which every value points to one that is not greater. A
root is looked up with path halving, so that the forest changes while it is read, and
two trees are joined by letting the greater root point to the lesser one. Looking up
changes no root (`rootOf_find`), and after pairs were joined two values have the same
root exactly when a chain of pairs leads from one to the other (`sameRoot_unionAll_id`).
-/

namespace Reperio.UnionFind

/-! ## Roots -/

/-- The pointers lead from a value to a root. -/
inductive RootOf {α : Type} (parent : α → α) : α → α → Prop where
  | root {value : α} (isRoot : parent value = value) : RootOf parent value value
  | step {value root : α} (above : RootOf parent (parent value) root) : RootOf parent value root

namespace RootOf

variable {α : Type} {parent : α → α} {value root other : α}

theorem isRoot (isRootOf : RootOf parent value root) : parent root = root := by
  induction isRootOf with
  | root isRoot => exact isRoot
  | step above ih => exact ih

theorem eq_of_isRoot (isRootOf : RootOf parent value root) (isRoot : parent value = value) :
    root = value := by
  induction isRootOf with
  | root _ => rfl
  | step above ih =>
    rw [isRoot] at ih
    exact ih isRoot

theorem unique (first : RootOf parent value root) (second : RootOf parent value other) :
    root = other := by
  induction first with
  | root isRoot => exact (second.eq_of_isRoot isRoot).symm
  | step above ih =>
    cases second with
    | root isRoot =>
      rw [isRoot] at above
      exact above.eq_of_isRoot isRoot
    | step above => exact ih above

/-- The root of what a value points to is its own. -/
theorem parent_iff : RootOf parent (parent value) root ↔ RootOf parent value root := by
  refine ⟨RootOf.step, fun isRootOf => ?_⟩
  cases isRootOf with
  | root isRoot =>
    rw [isRoot]
    exact .root isRoot
  | step above => exact above

end RootOf

variable {α : Type} [LinearOrder α]

/-- Every value points to itself or to a lesser one of the listed values. -/
structure IsForest (listed : List α) (parent : α → α) : Prop where
  descends : ∀ value, parent value ≤ value
  within : ∀ value, parent value ≠ value → parent value ∈ listed

variable {listed : List α} {parent : α → α}

/-- At first every value is a root. -/
theorem isForest_id : IsForest listed id := ⟨fun _ => le_refl _, fun _ moved => absurd rfl moved⟩

theorem IsForest.parent_lt (forest : IsForest listed parent) {value : α}
    (moved : parent value ≠ value) : parent value < value :=
  lt_of_le_of_ne (forest.descends value) moved

/-- The listed values that are less than one: the pointers from it lead through these alone. -/
def below (listed : List α) (value : α) : List α :=
  listed.filter fun other => decide (other < value)

theorem length_below_lt {first second : α} (less : first < second) (isListed : first ∈ listed) :
    (below listed first).length < (below listed second).length := by
  unfold below
  rw [← List.countP_eq_length_filter, ← List.countP_eq_length_filter]
  induction listed with
  | nil => cases isListed
  | cons value listed ih =>
    have fewer : listed.countP (fun other => decide (other < first)) ≤
        listed.countP fun other => decide (other < second) := by
      refine List.countP_mono_left fun other _ isLess => ?_
      exact decide_eq_true (lt_trans (of_decide_eq_true isLess) less)
    rw [List.countP_cons, List.countP_cons]
    rcases List.mem_cons.mp isListed with rfl | later
    · rw [if_neg (by simp), if_pos (decide_eq_true less)]
      omega
    · have smaller := ih later
      by_cases isLess : value < first
      · rw [if_pos (decide_eq_true isLess), if_pos (decide_eq_true (lt_trans isLess less))]
        omega
      · rw [if_neg (by simpa using isLess)]
        omega

/-- As many turns as there are listed values are enough for each of them. -/
theorem length_below_lt_length {value : α} (isListed : value ∈ listed) :
    (below listed value).length < listed.length := by
  refine lt_of_le_of_ne (List.length_filter_le _ _) fun same => ?_
  have all := List.length_filter_eq_length_iff.mp same value isListed
  exact lt_irrefl value (of_decide_eq_true all)

/-! ## Halving a path -/

/-- A value points to what that one points to. -/
def halve (parent : α → α) (value : α) : α → α :=
  Function.update parent value (parent (parent value))

theorem halve_self (value : α) : halve parent value value = parent (parent value) :=
  Function.update_self ..

theorem halve_of_ne {value other : α} (different : other ≠ value) :
    halve parent value other = parent other :=
  Function.update_of_ne different ..

theorem IsForest.halve (forest : IsForest listed parent) (value : α) :
    IsForest listed (halve parent value) where
  descends other := by
    by_cases same : other = value
    · rw [same, halve_self]
      exact le_trans (forest.descends _) (forest.descends value)
    · rw [halve_of_ne same]
      exact forest.descends other
  within other moved := by
    by_cases same : other = value
    · rw [same, halve_self] at moved ⊢
      by_cases isRoot : parent (parent value) = parent value
      · rw [isRoot] at moved ⊢
        exact forest.within value moved
      · exact forest.within _ isRoot
    · rw [halve_of_ne same] at moved ⊢
      exact forest.within other moved

/-- Halving a path changes no root. -/
theorem IsForest.rootOf_halve (forest : IsForest listed parent) (value other root : α) :
    RootOf (UnionFind.halve parent value) other root ↔ RootOf parent other root := by
  constructor
  · intro isRootOf
    induction isRootOf with
    | @root other isRoot =>
      by_cases same : other = value
      · rw [same, halve_self] at isRoot
        have back := forest.descends (parent value)
        rw [isRoot] at back
        rw [same]
        exact .root (le_antisymm (forest.descends value) back)
      · rw [halve_of_ne same] at isRoot
        exact .root isRoot
    | @step other root above ih =>
      by_cases same : other = value
      · rw [same, halve_self] at ih
        rw [same]
        exact .step (.step ih)
      · rw [halve_of_ne same] at ih
        exact .step ih
  · intro isRootOf
    induction isRootOf with
    | @root other isRoot =>
      refine .root ?_
      by_cases same : other = value
      · rw [same] at isRoot ⊢
        rw [halve_self, isRoot, isRoot]
      · rwa [halve_of_ne same]
    | @step other root above ih =>
      by_cases same : other = value
      · rw [same] at ih ⊢
        by_cases isRoot : parent value = value
        · rwa [isRoot] at ih
        · -- the new pointer skips one value, which has the same root
          have stays : UnionFind.halve parent value (parent value) = parent (parent value) :=
            halve_of_ne isRoot
          rw [← RootOf.parent_iff, halve_self, ← stays, RootOf.parent_iff]
          exact ih
      · rw [← RootOf.parent_iff, halve_of_ne same]
        exact ih

/-! ## Looking up -/

/-- The root of a value and the pointers after it was looked up, in at most so many turns. -/
def find : ℕ → (α → α) → α → α × (α → α)
  | 0, parent, value => (value, parent)
  | turns + 1, parent, value =>
    if parent value ≠ value then
      let parent := halve parent value
      find turns parent (parent value)
    else (value, parent)

theorem IsForest.find (forest : IsForest listed parent) (turns : ℕ) (value : α) :
    IsForest listed (UnionFind.find turns parent value).2 := by
  induction turns generalizing parent value with
  | zero => exact forest
  | succ turns ih =>
    rw [UnionFind.find]
    split
    · exact ih (forest.halve value) _
    · exact forest

/-- Looking up changes no root. -/
theorem IsForest.rootOf_find (forest : IsForest listed parent) (turns : ℕ) (value other root : α) :
    RootOf (UnionFind.find turns parent value).2 other root ↔ RootOf parent other root := by
  induction turns generalizing parent value with
  | zero => rfl
  | succ turns ih =>
    rw [UnionFind.find]
    split
    · rw [ih (forest.halve value), forest.rootOf_halve]
    · rfl

variable {turns : ℕ} {pairs : List (α × α)}

/-- With enough turns the root is found. -/
theorem IsForest.find_rootOf (forest : IsForest listed parent) {value : α}
    (enough : (below listed value).length < turns) :
    RootOf parent value (UnionFind.find turns parent value).1 := by
  induction turns generalizing parent value with
  | zero => cases enough
  | succ turns ih =>
    rw [UnionFind.find]
    split
    · rename_i moved
      have less : UnionFind.halve parent value value < value := by
        rw [halve_self]
        exact lt_of_le_of_lt (forest.descends _) (forest.parent_lt moved)
      have isListed := (forest.halve value).within value less.ne
      have fewer := length_below_lt less isListed
      have found := ih (forest.halve value) (lt_of_lt_of_le fewer (Nat.le_of_lt_succ enough))
      rw [RootOf.parent_iff, forest.rootOf_halve] at found
      exact found
    · rename_i isRoot
      exact .root (not_not.mp isRoot)

theorem IsForest.find_mem (forest : IsForest listed parent) (turns : ℕ) {value : α}
    (isListed : value ∈ listed) : (UnionFind.find turns parent value).1 ∈ listed := by
  induction turns generalizing parent value with
  | zero => exact isListed
  | succ turns ih =>
    rw [UnionFind.find]
    split
    · refine ih (forest.halve value) ?_
      by_cases moved : UnionFind.halve parent value value = value
      · rwa [moved]
      · exact (forest.halve value).within value moved
    · exact isListed

/-! ## Joining -/

/-- The greater one of two roots points to the lesser one. -/
def union (turns : ℕ) (parent : α → α) (left right : α) : α → α :=
  let (leftRoot, parent) := find turns parent left
  let (rightRoot, parent) := find turns parent right
  if leftRoot ≠ rightRoot then
    Function.update parent (max leftRoot rightRoot) (min leftRoot rightRoot)
  else parent

theorem IsForest.link (forest : IsForest listed parent) {low high : α} (less : low < high)
    (isListed : low ∈ listed) : IsForest listed (Function.update parent high low) where
  descends other := by
    by_cases same : other = high
    · rw [same, Function.update_self]
      exact less.le
    · rw [Function.update_of_ne same]
      exact forest.descends other
  within other moved := by
    by_cases same : other = high
    · rw [same, Function.update_self]
      exact isListed
    · rw [Function.update_of_ne same] at moved ⊢
      exact forest.within other moved

/-- When a root is linked to another one, its tree gets that root. -/
theorem rootOf_link {low high value root : α} (lowRoot : parent low = low)
    (highRoot : parent high = high) (different : low ≠ high) (isRootOf : RootOf parent value root) :
    RootOf (Function.update parent high low) value (if root = high then low else root) := by
  have lowStays : RootOf (Function.update parent high low) low low :=
    .root (by rw [Function.update_of_ne different, lowRoot])
  have highMoves : RootOf (Function.update parent high low) high low := by
    rw [← RootOf.parent_iff, Function.update_self]
    exact lowStays
  induction isRootOf with
  | @root value isRoot =>
    split
    · rename_i isHigh
      rw [isHigh]
      exact highMoves
    · rename_i notHigh
      exact .root (by rw [Function.update_of_ne notHigh, isRoot])
  | @step value root above ih =>
    by_cases isHigh : value = high
    · rw [isHigh] at above ⊢
      rw [highRoot] at above
      rw [if_pos (above.eq_of_isRoot highRoot)]
      exact highMoves
    · rw [← RootOf.parent_iff, Function.update_of_ne isHigh]
      exact ih

/-- Two values have the same root. -/
def SameRoot (parent : α → α) (first second : α) : Prop :=
  ∃ root, RootOf parent first root ∧ RootOf parent second root

omit [LinearOrder α] in
theorem SameRoot.symm {first second : α} (same : SameRoot parent first second) :
    SameRoot parent second first := same.imp fun _ => And.symm

omit [LinearOrder α] in
theorem SameRoot.trans {first second third : α} (same : SameRoot parent first second)
    (next : SameRoot parent second third) : SameRoot parent first third := by
  obtain ⟨root, isFirst, isSecond⟩ := same
  obtain ⟨other, isOther, isThird⟩ := next
  rw [isOther.unique isSecond] at isThird
  exact ⟨root, isFirst, isThird⟩

theorem IsForest.exists_root (forest : IsForest listed parent) (value : α) :
    ∃ root, RootOf parent value root :=
  ⟨_, forest.find_rootOf (Nat.lt_succ_self (below listed value).length)⟩

theorem IsForest.sameRoot_refl (forest : IsForest listed parent) (value : α) :
    SameRoot parent value value :=
  (forest.exists_root value).imp fun _ isRootOf => ⟨isRootOf, isRootOf⟩

section Union

variable {left right : α}

theorem IsForest.union (forest : IsForest listed parent) (turns : ℕ) (leftListed : left ∈ listed)
    (rightListed : right ∈ listed) : IsForest listed (UnionFind.union turns parent left right) := by
  have first := forest.find turns left
  have isLeft := forest.find_mem turns leftListed
  have isRight := first.find_mem turns rightListed
  unfold UnionFind.union
  dsimp only
  split
  · rename_i different
    refine (first.find turns right).link (min_lt_max.mpr different) ?_
    rcases min_choice (UnionFind.find turns parent left).1
      (UnionFind.find turns (UnionFind.find turns parent left).2 right).1 with isMin | isMin
    · rwa [isMin]
    · rwa [isMin]
  · exact first.find turns right

/-- What joining two values does to the roots: the trees of both get the lesser root. -/
theorem IsForest.rootOf_union (forest : IsForest listed parent)
    (leftEnough : (below listed left).length < turns)
    (rightEnough : (below listed right).length < turns) {leftRoot rightRoot value root : α}
    (isLeft : RootOf parent left leftRoot) (isRight : RootOf parent right rightRoot)
    (isRootOf : RootOf parent value root) :
    RootOf (UnionFind.union turns parent left right) value
      (if root = max leftRoot rightRoot then min leftRoot rightRoot else root) := by
  have first := forest.find turns left
  have second := first.find turns right
  have after (value root : α) : RootOf (UnionFind.find turns
      (UnionFind.find turns parent left).2 right).2 value root ↔ RootOf parent value root :=
    (first.rootOf_find turns right value root).trans (forest.rootOf_find turns left value root)
  have foundLeft := forest.find_rootOf leftEnough
  have foundRight := first.find_rootOf rightEnough
  rw [forest.rootOf_find] at foundRight
  have isLeftRoot := foundLeft.unique isLeft
  have isRightRoot := foundRight.unique isRight
  unfold UnionFind.union
  dsimp only
  rw [isLeftRoot, isRightRoot]
  split
  · rename_i different
    have leftIsRoot := ((after left leftRoot).mpr isLeft).isRoot
    have rightIsRoot := ((after right rightRoot).mpr isRight).isRoot
    refine rootOf_link ?_ ?_ (min_lt_max.mpr different).ne ((after value root).mpr isRootOf)
    · rcases min_choice leftRoot rightRoot with isMin | isMin
      · rwa [isMin]
      · rwa [isMin]
    · rcases max_choice leftRoot rightRoot with isMax | isMax
      · rwa [isMax]
      · rwa [isMax]
  · rename_i same
    rw [not_not.mp same, max_self, min_self, after]
    split
    · rename_i isRoot
      rw [← isRoot]
      exact isRootOf
    · exact isRootOf

/-- After two values were joined, those have the same root that a chain leads between of values with
the same root before and of the two. -/
theorem IsForest.sameRoot_union (forest : IsForest listed parent)
    (leftEnough : (below listed left).length < turns)
    (rightEnough : (below listed right).length < turns) (leftListed : left ∈ listed)
    (rightListed : right ∈ listed) (first second : α) :
    SameRoot (UnionFind.union turns parent left right) first second ↔
      Relation.EqvGen (fun one other => SameRoot parent one other ∨ (one = left ∧ other = right))
        first second := by
  obtain ⟨leftRoot, isLeft⟩ := forest.exists_root left
  obtain ⟨rightRoot, isRight⟩ := forest.exists_root right
  have roots {value root : α} (isRootOf : RootOf parent value root) :=
    forest.rootOf_union leftEnough rightEnough isLeft isRight isRootOf
  have joined : SameRoot (UnionFind.union turns parent left right) left right := by
    refine ⟨min leftRoot rightRoot, ?_, ?_⟩
    · have leads := roots isLeft
      split at leads
      · exact leads
      · rename_i notMax
        rwa [min_eq_left (le_of_not_ge fun above => notMax (max_eq_left above).symm)]
    · have leads := roots isRight
      split at leads
      · exact leads
      · rename_i notMax
        rwa [min_eq_right (le_of_not_ge fun above => notMax (max_eq_right above).symm)]
  constructor
  · rintro ⟨root, isFirst, isSecond⟩
    obtain ⟨firstRoot, isFirstRoot⟩ := forest.exists_root first
    obtain ⟨secondRoot, isSecondRoot⟩ := forest.exists_root second
    have same :=
      ((roots isFirstRoot).unique isFirst).trans ((roots isSecondRoot).unique isSecond).symm
    have toLeft {value root : α} (isRootOf : RootOf parent value root)
        (ofPair : root = leftRoot ∨ root = rightRoot) :
        Relation.EqvGen (fun one other => SameRoot parent one other ∨ (one = left ∧ other = right))
          value left := by
      rcases ofPair with rfl | rfl
      · exact .rel _ _ (Or.inl ⟨_, isRootOf, isLeft⟩)
      · exact .trans _ _ _ (.rel _ _ (Or.inl ⟨_, isRootOf, isRight⟩))
          (.symm _ _ (.rel _ _ (Or.inr ⟨rfl, rfl⟩)))
    by_cases unchanged : firstRoot = secondRoot
    · exact .rel _ _ (Or.inl ⟨firstRoot, isFirstRoot, unchanged ▸ isSecondRoot⟩)
    · -- one of the two roots is the greater one of the pair, and the other one the lesser
      have ofPair : (firstRoot = leftRoot ∨ firstRoot = rightRoot) ∧
          (secondRoot = leftRoot ∨ secondRoot = rightRoot) := by
        have isMin := min_choice leftRoot rightRoot
        have isMax := max_choice leftRoot rightRoot
        grind
      exact .trans _ _ _ (toLeft isFirstRoot ofPair.1) (.symm _ _ (toLeft isSecondRoot ofPair.2))
  · intro chain
    induction chain with
    | rel one other step =>
      rcases step with ⟨root, isOne, isOther⟩ | ⟨rfl, rfl⟩
      · exact ⟨_, roots isOne, roots isOther⟩
      · exact joined
    | refl value => exact (forest.union turns leftListed rightListed).sameRoot_refl value
    | symm one other _ ih => exact ih.symm
    | trans one middle other _ _ before after => exact before.trans after

end Union

/-! ## Joining pairs -/

/-- Joining pairs one after the other. -/
def unionAll (turns : ℕ) (parent : α → α) (pairs : List (α × α)) : α → α :=
  pairs.foldl (fun parent pair => union turns parent pair.1 pair.2) parent

theorem IsForest.sameRoot_unionAll (forest : IsForest listed parent)
    (arePairs : ∀ pair ∈ pairs, pair.1 ∈ listed ∧ pair.2 ∈ listed) :
    IsForest listed (unionAll listed.length parent pairs) ∧ ∀ first second,
      SameRoot (unionAll listed.length parent pairs) first second ↔
        Relation.EqvGen (fun one other => SameRoot parent one other ∨ (one, other) ∈ pairs)
          first second := by
  induction pairs generalizing parent with
  | nil =>
    refine ⟨forest, fun first second => ⟨fun same => .rel _ _ (Or.inl same), fun chain => ?_⟩⟩
    induction chain with
    | rel one other step => exact step.resolve_right List.not_mem_nil
    | refl value => exact forest.sameRoot_refl value
    | symm one other _ ih => exact ih.symm
    | trans one middle other _ _ before after => exact before.trans after
  | cons pair pairs ih =>
    obtain ⟨left, right⟩ := pair
    rw [List.forall_mem_cons] at arePairs
    obtain ⟨⟨isLeft, isRight⟩, arePairs⟩ := arePairs
    have joined := forest.sameRoot_union (length_below_lt_length isLeft)
      (length_below_lt_length isRight) isLeft isRight
    obtain ⟨isForest, sameRoot⟩ := ih (forest.union listed.length isLeft isRight) arePairs
    refine ⟨isForest, fun first second =>
      (sameRoot first second).trans ⟨fun chain => ?_, fun chain => ?_⟩⟩
    · induction chain with
      | rel one other step =>
        rcases step with same | isPair
        · refine Relation.EqvGen.mono ?_ _ _ ((joined one other).mp same)
          rintro one other (same | ⟨rfl, rfl⟩)
          · exact Or.inl same
          · exact Or.inr List.mem_cons_self
        · exact .rel _ _ (Or.inr (List.mem_cons_of_mem _ isPair))
      | refl value => exact .refl value
      | symm one other _ ih => exact .symm _ _ ih
      | trans one middle other _ _ before after => exact .trans _ _ _ before after
    · induction chain with
      | rel one other step =>
        rcases step with same | isPair
        · exact .rel _ _ (Or.inl ((joined one other).mpr (.rel _ _ (Or.inl same))))
        · rcases List.mem_cons.mp isPair with isFirst | later
          · cases isFirst
            exact .rel _ _ (Or.inl ((joined left right).mpr (.rel _ _ (Or.inr ⟨rfl, rfl⟩))))
          · exact .rel _ _ (Or.inr later)
      | refl value => exact .refl value
      | symm one other _ ih => exact .symm _ _ ih
      | trans one middle other _ _ before after => exact .trans _ _ _ before after

/-- From no pointers at all, the pairs alone decide which values have the same root. -/
theorem sameRoot_unionAll_id (arePairs : ∀ pair ∈ pairs, pair.1 ∈ listed ∧ pair.2 ∈ listed)
    (first second : α) :
    SameRoot (unionAll listed.length id pairs) first second ↔
      Relation.EqvGen (fun one other => (one, other) ∈ pairs) first second := by
  refine ((isForest_id.sameRoot_unionAll arePairs).2 first second).trans
    ⟨fun chain => ?_, fun chain => ?_⟩
  · induction chain with
    | rel one other step =>
      rcases step with ⟨root, isOne, isOther⟩ | isPair
      · rw [← isOne.eq_of_isRoot rfl, isOther.eq_of_isRoot rfl]
        exact .refl _
      · exact .rel _ _ isPair
    | refl value => exact .refl value
    | symm one other _ ih => exact .symm _ _ ih
    | trans one middle other _ _ before after => exact .trans _ _ _ before after
  · exact Relation.EqvGen.mono (fun _ _ => Or.inr) _ _ chain

end Reperio.UnionFind
