import CathedralCompute.Lanes.Sat
import Mathlib.Order.Interval.Finset.Basic
import Mathlib.Data.Int.Interval

/-!
# Witnesses of SAT work

An assignment lists literals. The checks count them, ask that they name every
variable, and that every clause has one of them; together they say that the list
is a satisfying assignment.
-/

set_option autoImplicit false

namespace Cathedral.Sat

open Codec Semantics

/-! ## Documents -/

theorem sortKeys_clausesJson (clauses : List (List ℤ)) :
    (clausesJson clauses).sortKeys = clausesJson clauses := by
  rw [clausesJson, Json.sortKeys, Json.sortKeysItems_eq_map, List.map_map]
  exact congrArg Json.arr (List.map_congr_left fun clause _ => sortKeys_ints clause)

theorem plain_clausesJson (floats : Prop) (clauses : List (List ℤ)) :
    (clausesJson clauses).Plain floats := by
  refine Json.plainItems_iff.mpr fun item listed => ?_
  obtain ⟨clause, -, rfl⟩ := List.mem_map.mp listed
  exact plain_ints floats clause

theorem sortKeys_requestDocument (item : SatWorkItem) :
    (requestDocument item).sortKeys = .obj [("assigned_hotkey", .str (List.replicate 256 0x78)),
      ("challenge_id", .str item.challengeId),
      ("instance", .obj [("clauses", clausesJson item.satInstance.clauses),
        ("n_vars", .int item.satInstance.nVars)]), ("seed", .int item.seed)] := by
  rw [requestDocument, Json.sortKeys]
  simp only [Json.sortKeysMembers, Json.sortKeys, sortKeys_clausesJson]
  rfl

/-! ## Validation -/

/-- Every literal of a valid instance is a variable of it or its negation. -/
theorem ranged_of_validateClauses {nVars : ℤ} {count : ℕ} {clauses : List (List ℤ)}
    (valid : validateClauses nVars count clauses = .ok ()) :
    ∀ clause ∈ clauses, ∀ literal ∈ clause, literal ≠ 0 ∧ |literal| ≤ nVars := by
  induction clauses generalizing count with
  | nil => exact List.forall_mem_nil _
  | cons clause clauses ih =>
    simp only [validateClauses, bind_eq_ok, require_eq_ok] at valid
    obtain ⟨_, -, _, -, _, ranged, others⟩ := valid
    exact List.forall_mem_cons.mpr ⟨ranged, ih others⟩

/-! ## Assignments -/

/-- The literals assign every variable, none both ways, and satisfy every
clause. -/
structure Solves (assignment : List ℤ) (satInstance : SatInstance) : Prop where
  total : ∀ v : ℤ, 1 ≤ v → v ≤ satInstance.nVars → v ∈ assignment ∨ -v ∈ assignment
  consistent : ∀ literal ∈ assignment, -literal ∉ assignment
  ranged : ∀ literal ∈ assignment, 1 ≤ |literal| ∧ |literal| ≤ satInstance.nVars
  satisfies : ∀ clause ∈ satInstance.clauses, ∃ literal ∈ clause, literal ∈ assignment

/-- As many literals as variables, each variable named: no variable is named
twice. -/
theorem nodup_of_namesVariables {nVars : ℤ} {assignment : List ℤ}
    (length : (assignment.length : ℤ) = nVars) (names : namesVariables nVars assignment) :
    (assignment.map fun literal => |literal|).Nodup := by
  have covered : Finset.Icc 1 nVars ⊆ (assignment.map fun literal => |literal|).toFinset := by
    intro v range
    rw [Finset.mem_Icc] at range
    obtain ⟨literal, listed, named⟩ := names.2 (v - 1).toNat (List.mem_range.mpr (by omega))
    exact List.mem_toFinset.mpr (List.mem_map.mpr ⟨literal, listed, by omega⟩)
  have large := Finset.card_le_card covered
  rw [Int.card_Icc] at large
  have small := List.toFinset_card_le (assignment.map fun literal => |literal|)
  rw [List.length_map] at small
  refine Multiset.coe_nodup.mp (Multiset.toFinset_card_eq_card_iff_nodup.mp ?_)
  rw [List.toFinset_coe, Multiset.coe_card, List.length_map]
  omega

theorem solves_of_checks {satInstance : SatInstance} {assignment : List ℤ}
    (length : (assignment.length : ℤ) = satInstance.nVars)
    (names : namesVariables satInstance.nVars assignment)
    (satisfies : ∀ clause ∈ satInstance.clauses, ∃ literal ∈ clause, literal ∈ assignment) :
    Solves assignment satInstance := by
  refine ⟨fun v low high => ?_, fun literal listed opposite => ?_, names.1, satisfies⟩
  · obtain ⟨literal, listed, named⟩ := names.2 (v - 1).toNat (List.mem_range.mpr (by omega))
    have magnitude : |literal| = v := by omega
    rcases abs_choice literal with same | negated
    · exact .inl (by rwa [← magnitude, same])
    · exact .inr (by rwa [← magnitude, negated, neg_neg])
  · have same := List.inj_on_of_nodup_map (nodup_of_namesVariables length names) listed opposite
      (abs_neg literal).symm
    have ranged := (names.1 literal listed).1
    have zero : literal = 0 := by omega
    rw [zero, abs_zero] at ranged
    omega

end Cathedral.Sat
