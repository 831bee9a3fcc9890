import Mathlib.Algebra.BigOperators.Field
import Mathlib.Algebra.Order.BigOperators.Group.Finset
import Mathlib.Algebra.Order.Field.Canonical
import Mathlib.Data.Finset.Lattice.Fold

/-!
# Normalizing a finite vector

Two ways to normalize nonnegative amounts over a finite set: by their maximum and
by their sum. Maximum normalization lands in the unit interval and attains one
exactly when some amount is positive. Normalizing by the sum does not depend on the
unit of the amounts, so it forgets an earlier division by the maximum.
-/

set_option autoImplicit false

namespace Semantics

variable {ι K : Type} [Semifield K] [LinearOrder K] [CanonicallyOrderedAdd K]
  [IsStrictOrderedRing K] [OrderBot K]

/-- Amounts relative to the largest one; all zero when the largest is. -/
def byMaximum (s : Finset ι) (amount : ι → K) (i : ι) : K := amount i / s.sup amount

/-- Amounts relative to their sum; all zero when the sum is. -/
def bySum (s : Finset ι) (amount : ι → K) (i : ι) : K := amount i / ∑ j ∈ s, amount j

variable {s : Finset ι} {amount : ι → K} {i : ι}

theorem byMaximum_le_one (member : i ∈ s) : byMaximum s amount i ≤ 1 :=
  div_le_one_of_le₀ (Finset.le_sup member) zero_le

omit [CanonicallyOrderedAdd K] [IsStrictOrderedRing K] in
theorem byMaximum_eq_zero (none : amount i = 0) : byMaximum s amount i = 0 := by
  rw [byMaximum, none, zero_div]

omit [IsStrictOrderedRing K] in
/-- The maximum is positive exactly when some amount is. -/
theorem sup_pos_iff : 0 < s.sup amount ↔ ∃ i ∈ s, 0 < amount i := by
  rw [← bot_eq_zero', Finset.lt_sup_iff]

/-- **The maximum is attained.** Some normalized amount is one exactly when some
amount is positive. -/
theorem exists_byMaximum_eq_one_iff :
    (∃ i ∈ s, byMaximum s amount i = 1) ↔ ∃ i ∈ s, 0 < amount i := by
  constructor
  · rintro ⟨i, member, one⟩
    refine ⟨i, member, pos_iff_ne_zero.mpr fun zero => ?_⟩
    rw [byMaximum_eq_zero zero] at one
    exact zero_ne_one one
  · rintro ⟨i, member, positive⟩
    obtain ⟨j, member', attained⟩ := Finset.exists_mem_eq_sup s ⟨i, member⟩ amount
    have maximum : 0 < s.sup amount := sup_pos_iff.mpr ⟨i, member, positive⟩
    exact ⟨j, member', by rw [byMaximum, ← attained, div_self maximum.ne']⟩

omit [CanonicallyOrderedAdd K] [IsStrictOrderedRing K] [LinearOrder K] [OrderBot K] in
/-- Shares do not depend on the unit the amounts are measured in. -/
theorem bySum_div {unit : K} (nonzero : unit ≠ 0) (i : ι) :
    bySum s (fun j => amount j / unit) i = bySum s amount i := by
  unfold bySum
  rw [← Finset.sum_div]
  exact div_div_div_cancel_right₀ nonzero _ _

omit [CanonicallyOrderedAdd K] [IsStrictOrderedRing K] [LinearOrder K] [OrderBot K] in
/-- Shares do not depend on members without an amount. -/
theorem bySum_congr_support {t : Finset ι} (left : ∀ j ∈ s, j ∉ t → amount j = 0)
    (right : ∀ j ∈ t, j ∉ s → amount j = 0) (i : ι) : bySum s amount i = bySum t amount i := by
  classical
  have sums : ∑ j ∈ s, amount j = ∑ j ∈ t, amount j := by
    calc
      ∑ j ∈ s, amount j = ∑ j ∈ s ∪ t, amount j := by
        apply Finset.sum_subset Finset.subset_union_left
        intro j member outside
        exact right j ((Finset.mem_union.mp member).resolve_left outside) outside
      _ = ∑ j ∈ t, amount j := by
        symm
        apply Finset.sum_subset Finset.subset_union_right
        intro j member outside
        exact left j ((Finset.mem_union.mp member).resolve_right outside) outside
  rw [bySum, bySum, sums]

end Semantics
