import Mathlib.Data.List.Basic
import Mathlib.Data.List.Chain
import Mathlib.Data.List.Sort
import Mathlib.Data.Prod.Lex
import Mathlib.Tactic.Basic

/-!
# Closed extents

An extent is a pair of its first and its last place. Two extents are apart when one
of them ends before the other begins. In a list that is sorted by where the extents
begin it is enough to look at neighbours: the extents are apart from each other if
each ends before the next one begins (`isChain_before_iff`).
-/

namespace Reperio.Extents

variable {Place : Type} [LinearOrder Place]

/-- The place is in the extent. -/
def Covers (extent : Place × Place) (place : Place) : Prop := extent.1 ≤ place ∧ place ≤ extent.2

def Intersect (first second : Place × Place) : Prop :=
  ∃ place, Covers first place ∧ Covers second place

/-- The first extent ends before the second begins. -/
def Before (first second : Place × Place) : Prop := first.2 < second.1

/-- The extent has a place. -/
def Proper (extent : Place × Place) : Prop := extent.1 ≤ extent.2

variable {first second : Place × Place} {extents : List (Place × Place)}

theorem Intersect.symm (intersect : Intersect first second) : Intersect second first := by
  rcases intersect with ⟨place, inFirst, inSecond⟩
  exact ⟨place, inSecond, inFirst⟩

theorem Before.not_intersect (before : Before first second) : ¬Intersect first second := by
  rintro ⟨place, inFirst, inSecond⟩
  exact absurd (inSecond.1.trans inFirst.2) (not_le_of_gt before)

/-- Of two extents in order, the first ends before the second begins if they do not intersect. -/
theorem before_iff (le : toLex first ≤ toLex second) (proper : Proper second) :
    Before first second ↔ ¬Intersect first second := by
  refine ⟨Before.not_intersect, fun apart => ?_⟩
  have begins : first.1 ≤ second.1 := by
    rcases Prod.Lex.toLex_le_toLex.mp le with lt | ⟨same, _⟩
    · exact le_of_lt lt
    · exact le_of_eq same
  by_contra notBefore
  exact apart ⟨second.1, ⟨begins, not_lt.mp notBefore⟩, le_refl _, proper⟩

theorem Before.trans {third : Place × Place} (before : Before first second) (proper : Proper second)
    (after : Before second third) : Before first third :=
  lt_of_lt_of_le before (proper.trans (le_of_lt after))

/-- Neighbours in a chain are enough. -/
theorem isChain_before_iff (proper : ∀ extent ∈ extents, Proper extent)
    (sorted : extents.Pairwise fun first second => toLex first ≤ toLex second) :
    extents.IsChain Before ↔ extents.Pairwise fun first second => ¬Intersect first second := by
  constructor
  · intro chain
    induction extents with
    | nil => exact .nil
    | cons extent rest ih =>
      rw [List.forall_mem_cons] at proper
      have restChain : rest.IsChain Before := chain.tail
      refine List.pairwise_cons.mpr ⟨fun other isLater => ?_,
        ih proper.2 (List.pairwise_cons.mp sorted).2 restChain⟩
      cases rest with
      | nil => cases isLater
      | cons next later =>
        have before : Before extent next := (List.isChain_cons_cons.mp chain).1
        rcases List.mem_cons.mp isLater with rfl | isLater
        · exact before.not_intersect
        · have apart := ih proper.2 (List.pairwise_cons.mp sorted).2 restChain
          have nextBefore : Before next other :=
            (before_iff ((List.pairwise_cons.mp (List.pairwise_cons.mp sorted).2).1 other isLater)
              (proper.2 other (List.mem_cons_of_mem _ isLater))).mpr
              ((List.pairwise_cons.mp apart).1 other isLater)
          exact (before.trans (proper.2 next List.mem_cons_self) nextBefore).not_intersect
  · intro apart
    refine List.Pairwise.isChain ?_
    refine (sorted.and apart).imp_of_mem ?_
    intro first second _ isSecond both
    exact (before_iff both.1 (proper second isSecond)).mpr both.2

end Reperio.Extents
