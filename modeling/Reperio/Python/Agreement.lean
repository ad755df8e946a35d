import Mathlib.Data.List.Perm.Basic
import Reperio.Python.KeyOrder

/-!
# Computations that agree

Two computations that may raise agree when both raise, or when both return and
what they return is related. Over lists that match each other up to their order,
computations that agree on matching elements agree on the lists.
-/

namespace Reperio.Python

variable {ε α β γ δ ζ : Type}

/-! ## Agreement -/

/-- Both return related values, or both raise. -/
inductive Agree (related : α → β → Prop) : Except ε α → Except ε β → Prop where
  | ok {first : α} {second : β} (isRelated : related first second) :
      Agree related (.ok first) (.ok second)
  | error (first second : ε) : Agree related (.error first) (.error second)

namespace Agree

variable {related : α → β → Prop} {value : Except ε α} {other : Except ε β}

theorem refl (value : Except ε α) : Agree Eq value value := by
  cases value with
  | error error => exact .error _ _
  | ok result => exact .ok rfl

theorem bind {after : γ → δ → Prop} {next : α → Except ε γ} {otherNext : β → Except ε δ}
    (agree : Agree related value other)
    (each : ∀ first second, related first second → Agree after (next first) (otherNext second)) :
    Agree after (value >>= next) (other >>= otherNext) := by
  cases agree with
  | ok isRelated => exact each _ _ isRelated
  | error first second => exact .error first second

theorem mono {weaker : α → β → Prop} (agree : Agree related value other)
    (weaken : ∀ first second, related first second → weaker first second) :
    Agree weaker value other := by
  cases agree with
  | ok isRelated => exact .ok (weaken _ _ isRelated)
  | error first second => exact .error first second

theorem comp {after : β → γ → Prop} {last : Except ε γ} (agree : Agree related value other)
    (then_ : Agree after other last) :
    Agree (fun first third => ∃ second, related first second ∧ after second third) value last := by
  cases agree with
  | ok isRelated =>
    cases then_ with
    | ok isAfter => exact .ok ⟨_, isRelated, isAfter⟩
  | error first second =>
    cases then_ with
    | error _ third => exact .error first third

end Agree

/-! ## Matching lists -/

/-- The second list is the first in another order, with each element changed as the relation says.
-/
def Matched (related : α → β → Prop) (firsts : List α) (seconds : List β) : Prop :=
  ∃ middle, firsts.Perm middle ∧ List.Forall₂ related middle seconds

theorem Matched.perm_flatMap {related : α → β → Prop} {firsts : List α} {seconds : List β}
    {first : α → List γ} {second : β → List γ} (matched : Matched related firsts seconds)
    (each : ∀ item other, related item other → (first item).Perm (second other)) :
    (firsts.flatMap first).Perm (seconds.flatMap second) := by
  rcases matched with ⟨middle, perm, paired⟩
  refine (perm.flatMap_right first).trans ?_
  clear perm
  induction paired with
  | nil => exact .nil
  | cons isRelated _ ih =>
    rw [List.flatMap_cons, List.flatMap_cons]
    exact (each _ _ isRelated).append ih

theorem Matched.perm_map {related : α → β → Prop} {firsts : List α} {seconds : List β}
    {first : α → γ} {second : β → γ} (matched : Matched related firsts seconds)
    (each : ∀ item other, related item other → first item = second other) :
    (firsts.map first).Perm (seconds.map second) := by
  rcases matched with ⟨middle, perm, paired⟩
  refine (perm.map first).trans ?_
  clear perm
  induction paired with
  | nil => exact .nil
  | cons isRelated _ ih =>
    rw [List.map_cons, List.map_cons, each _ _ isRelated]
    exact ih.cons _

theorem Matched.forall_left {related : α → β → Prop} {holds : α → Prop} {firsts : List α}
    {seconds : List β} (matched : Matched related firsts seconds)
    (each : ∀ item other, related item other → holds item) : ∀ item ∈ firsts, holds item := by
  rcases matched with ⟨middle, perm, paired⟩
  intro item member
  exact forall_mem_of_forall₂ paired.flip (fun _ _ _ isRelated => each _ _ isRelated) item
    (perm.mem_iff.mp member)

theorem Matched.forall_right {related : α → β → Prop} {holds : β → Prop} {firsts : List α}
    {seconds : List β} (matched : Matched related firsts seconds)
    (each : ∀ item other, related item other → holds other) : ∀ other ∈ seconds, holds other := by
  rcases matched with ⟨middle, perm, paired⟩
  exact forall_mem_of_forall₂ paired fun item _ other isRelated => each item other isRelated

/-! ## Computations over lists -/

variable {convert : α → Except ε β} {otherConvert : β → Except ε δ}

theorem mapM_eq_ok_of_forall₂ {items : List α} {results : List β}
    (paired : List.Forall₂ (fun item result => convert item = .ok result) items results) :
    items.mapM convert = .ok results := by
  induction paired with
  | nil => rfl
  | cons converted _ ih =>
    rw [List.mapM_cons, converted, ih]
    rfl

theorem exists_mapM_eq_ok {items : List α}
    (each : ∀ item ∈ items, ∃ result, convert item = .ok result) :
    ∃ results, items.mapM convert = .ok results := by
  induction items with
  | nil => exact ⟨[], rfl⟩
  | cons item items ih =>
    rcases List.forall_mem_cons.mp each with ⟨⟨result, converted⟩, rest⟩
    rcases ih rest with ⟨results, mapped⟩
    refine ⟨result :: results, ?_⟩
    rw [List.mapM_cons, converted, mapped]
    rfl

/-- A computation over a list fails as it does on the first element that it fails on. -/
theorem mapM_eq_error_iff {items : List α} {error : ε} : items.mapM convert = .error error ↔
      ∃ before item after, items = before ++ item :: after ∧
        (∀ earlier ∈ before, ∃ result, convert earlier = .ok result) ∧
        convert item = .error error := by
  induction items with
  | nil =>
    refine ⟨nofun, ?_⟩
    rintro ⟨before, item, after, isItems, _, _⟩
    exact absurd isItems.symm (List.append_ne_nil_of_right_ne_nil _ (List.cons_ne_nil _ _))
  | cons first items ih =>
    rw [List.mapM_cons]
    cases converted : convert first with
    | error failed =>
      constructor
      · intro raised
        cases raised
        exact ⟨[], first, items, rfl, fun _ isEarlier => absurd isEarlier List.not_mem_nil,
          converted⟩
      · rintro ⟨before, item, after, isItems, earlier, raised⟩
        cases before with
        | nil =>
          cases isItems
          rw [converted] at raised
          exact congrArg _ (Except.error.inj raised)
        | cons other before =>
          cases isItems
          rcases earlier first List.mem_cons_self with ⟨result, isResult⟩
          rw [converted] at isResult
          cases isResult
    | ok result =>
      have raises : (Except.ok result >>= fun result => items.mapM convert >>= fun results =>
          Except.ok (result :: results)) = .error error ↔ items.mapM convert = .error error := by
        cases items.mapM convert <;> simp [bind, Except.bind]
      refine raises.trans (ih.trans ⟨?_, ?_⟩)
      · rintro ⟨before, item, after, rfl, earlier, raised⟩
        exact ⟨first :: before, item, after, rfl,
          List.forall_mem_cons.mpr ⟨⟨result, converted⟩, earlier⟩, raised⟩
      · rintro ⟨before, item, after, isItems, earlier, raised⟩
        cases before with
        | nil =>
          cases isItems
          rw [converted] at raised
          cases raised
        | cons other before =>
          cases isItems
          exact ⟨before, item, after, rfl, (List.forall_mem_cons.mp earlier).2, raised⟩

theorem mapM_zip (convert : α → Except ε β) (items : List α) :
    (items.mapM fun item => convert item >>= fun result => Except.ok (item, result)) =
      items.mapM convert >>= fun results => .ok (items.zip results) := by
  induction items with
  | nil => rfl
  | cons item items ih =>
    rw [List.mapM_cons, List.mapM_cons, ih]
    cases convert item with
    | error error => rfl
    | ok result =>
      cases items.mapM convert with
      | error error => rfl
      | ok results => rfl

theorem agree_mapM_of_perm {items others : List α} (perm : items.Perm others) :
    Agree List.Perm (items.mapM convert) (others.mapM convert) := by
  induction perm with
  | nil => exact .ok .nil
  | cons item _ ih =>
    rw [List.mapM_cons, List.mapM_cons]
    refine (Agree.refl _).bind ?_
    rintro result _ rfl
    exact ih.bind fun _ _ rest => .ok (rest.cons result)
  | swap first second items =>
    simp only [List.mapM_cons]
    cases convert first with
    | error firstError =>
      cases convert second with
      | error secondError => exact .error _ _
      | ok secondResult => exact .error _ _
    | ok firstResult =>
      cases convert second with
      | error secondError => exact .error _ _
      | ok secondResult =>
        cases items.mapM convert with
        | error error => exact .error _ _
        | ok results => exact .ok (.swap _ _ _)
  | trans _ _ ih ih' =>
    refine (ih.comp ih').mono ?_
    rintro first third ⟨second, before, after⟩
    exact before.trans after

theorem agree_mapM_of_forall₂ {related : α → β → Prop} {after : γ → δ → Prop}
    {convert : α → Except ε γ} {items : List α} {others : List β}
    (paired : List.Forall₂ related items others)
    (each : ∀ item other, related item other → Agree after (convert item) (otherConvert other)) :
    Agree (List.Forall₂ after) (items.mapM convert) (others.mapM otherConvert) := by
  induction paired with
  | nil => exact .ok .nil
  | cons isRelated _ ih =>
    rw [List.mapM_cons, List.mapM_cons]
    exact (each _ _ isRelated).bind fun _ _ first => ih.bind fun _ _ rest => .ok (.cons first rest)

theorem Matched.agree_mapM {related : α → β → Prop} {after : γ → δ → Prop}
    {convert : α → Except ε γ} {items : List α} {others : List β}
    (matched : Matched related items others)
    (each : ∀ item other, related item other → Agree after (convert item) (otherConvert other)) :
    Agree (Matched after) (items.mapM convert) (others.mapM otherConvert) := by
  rcases matched with ⟨middle, perm, paired⟩
  exact (agree_mapM_of_perm perm).comp (agree_mapM_of_forall₂ paired each)

end Reperio.Python
