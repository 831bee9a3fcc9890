import Mathlib.Data.Finset.Card
import Mathlib.Data.Int.Interval
import Mathlib.Data.List.Rotate
import Mathlib.Data.List.Nodup

/-!
# A window on a rotating list

A window of fixed width moves along a list, one place each turn, and wraps around at the
end. In as many turns as the list is long, every place is inside the window exactly as
often as the window is wide.

## Main results

* `mem_window_iff` — which places a window shows
* `card_turns` — how often a place is shown
-/

set_option autoImplicit false

namespace Semantics

variable {α : Type}

/-- The window of a width from a place on. -/
def window (l : List α) (start width : ℕ) : List α :=
  (l.drop start ++ l.take start).take width

theorem window_eq_rotate {l : List α} {start : ℕ} (inside : start ≤ l.length) (width : ℕ) :
    window l start width = (l.rotate start).take width := by
  rw [window, List.rotate_eq_drop_append_take inside]

theorem length_window {l : List α} {start width : ℕ} (inside : start ≤ l.length)
    (fits : width ≤ l.length) : (window l start width).length = width := by
  rw [window_eq_rotate inside, List.length_take, List.length_rotate, min_eq_left fits]

theorem window_sublist {l : List α} {start : ℕ} (inside : start ≤ l.length) (width : ℕ) :
    (window l start width).Sublist (l.rotate start) := by
  rw [window_eq_rotate inside]
  exact List.take_sublist _ _

theorem nodup_window {l : List α} {start : ℕ} (distinct : l.Nodup) (inside : start ≤ l.length)
    (width : ℕ) : (window l start width).Nodup :=
  (List.nodup_rotate.mpr distinct).sublist (window_sublist inside width)

theorem mem_of_mem_window {l : List α} {start width : ℕ} {a : α}
    (shown : a ∈ window l start width) : a ∈ l := by
  rcases List.mem_append.mp (List.mem_of_mem_take shown) with behind | before
  · exact List.mem_of_mem_drop behind
  · exact List.mem_of_mem_take before

/-- A window shows the place `i` if it starts at most `width` places before it. -/
theorem mem_window_iff {l : List α} {start width i : ℕ} (distinct : l.Nodup)
    (inside : start < l.length) (fits : width ≤ l.length) (place : i < l.length) :
    l[i] ∈ window l start width ↔ ((i : ℤ) - start) % l.length < width := by
  rw [window_eq_rotate inside.le, List.mem_take_iff_getElem]
  constructor
  · rintro ⟨k, small, same⟩
    rw [List.length_rotate, lt_min_iff] at small
    rw [List.getElem_rotate, List.Nodup.getElem_inj_iff distinct] at same
    have back : ((i : ℤ) - start) % l.length = k := by
      rw [← same, Int.natCast_mod, Nat.cast_add, Int.emod_sub_emod]
      rw [add_sub_cancel_right, Int.emod_eq_of_lt (by omega) (by omega)]
    omega
  · intro near
    have size : (0 : ℤ) < l.length := by omega
    have positive := Int.emod_nonneg ((i : ℤ) - start) size.ne'
    obtain ⟨k, steps⟩ := Int.eq_ofNat_of_zero_le positive
    have small : k < width := by omega
    refine ⟨k, by rw [List.length_rotate]; omega, ?_⟩
    rw [List.getElem_rotate, List.Nodup.getElem_inj_iff distinct]
    have forward : ((k + start : ℕ) : ℤ) % l.length = i := by
      rw [Nat.cast_add, ← steps, Int.emod_add_emod, sub_add_cancel,
        Int.emod_eq_of_lt (by omega) (by omega)]
    exact_mod_cast forward

/-- Counting backwards from a place goes through all places once. -/
theorem card_backwards {n width : ℕ} (fits : width ≤ n) (from_ : ℤ) :
    ((Finset.range n).filter fun turn : ℕ => (from_ - (turn : ℤ)) % n < width).card = width := by
  have onto : ∀ k ∈ Finset.range n, ((from_ - (k : ℤ)) % n).toNat ∈ Finset.range n ∧
      (from_ - (((from_ - (k : ℤ)) % n).toNat : ℤ)) % n = k := by
    intro k small
    rw [Finset.mem_range] at small
    have size : (0 : ℤ) < n := by omega
    have positive := Int.emod_nonneg (from_ - (k : ℤ)) size.ne'
    have bound := Int.emod_lt_of_pos (from_ - (k : ℤ)) size
    refine ⟨Finset.mem_range.mpr (by omega), ?_⟩
    rw [Int.toNat_of_nonneg positive, Int.sub_emod_emod, sub_sub_cancel,
      Int.emod_eq_of_lt (by omega) (by omega)]
  refine (Finset.card_nbij' (t := Finset.range width)
    (fun turn : ℕ => ((from_ - (turn : ℤ)) % n).toNat)
    (fun k : ℕ => ((from_ - (k : ℤ)) % n).toNat) ?_ ?_ ?_ ?_).trans (Finset.card_range width)
  · intro turn shown
    rw [Finset.mem_coe, Finset.mem_filter] at shown
    rw [Finset.mem_coe, Finset.mem_range]
    have small := Finset.mem_range.mp shown.1
    have positive := Int.emod_nonneg (from_ - (turn : ℤ)) (show (n : ℤ) ≠ 0 by omega)
    have near := shown.2
    show ((from_ - (turn : ℤ)) % n).toNat < width
    omega
  · intro k small
    rw [Finset.mem_coe, Finset.mem_range] at small
    obtain ⟨inside, back⟩ := onto k (Finset.mem_range.mpr (by omega))
    rw [Finset.mem_coe, Finset.mem_filter, back]
    exact ⟨inside, by omega⟩
  · intro turn shown
    rw [Finset.mem_coe, Finset.mem_filter] at shown
    have back := (onto turn shown.1).2
    simp only [back, Int.toNat_natCast]
  · intro k small
    rw [Finset.mem_coe, Finset.mem_range] at small
    have back := (onto k (Finset.mem_range.mpr (by omega))).2
    simp only [back, Int.toNat_natCast]

/-- **Fairness.** In as many turns as the list is long, whatever turn comes first, every
element is shown exactly as often as the window is wide. -/
theorem card_turns {l : List α} {width : ℕ} (distinct : l.Nodup) (fits : width ≤ l.length)
    (first : ℤ) {a : α} (member : a ∈ l)
    [DecidablePred fun turn : ℕ => a ∈ window l ((first + turn) % l.length).toNat width] :
    ((Finset.range l.length).filter fun turn : ℕ =>
      a ∈ window l ((first + turn) % l.length).toNat width).card = width := by
  obtain ⟨i, place, rfl⟩ := List.getElem_of_mem member
  refine Eq.trans (congrArg Finset.card (Finset.filter_congr fun turn _ => ?_))
    (card_backwards fits ((i : ℤ) - first))
  have size : (0 : ℤ) < l.length := by omega
  have positive := Int.emod_nonneg (first + turn : ℤ) size.ne'
  have bound := Int.emod_lt_of_pos (first + turn : ℤ) size
  rw [mem_window_iff distinct (by omega) fits place, Int.toNat_of_nonneg positive,
    Int.sub_emod_emod, sub_sub]

end Semantics
