import CathedralCompute.Semantics.Table
import Mathlib.Logic.Relation
import Mathlib.Order.Basic

/-!
# Tables that only grow

A table follows another when no row got lost, every row shifted as rows may shift, and every
new row is one that may begin. What holds from one table to the next in this way holds from
the first of a series to the last, once shifts are replaced by a relation that composes.

## Main definitions

* `Table.Follows` — one table may come right after another
* `Table.Succeeds` — one table may come some time after another
* `Ages` — a stage gives way to later ones, at later times

## Main results

* `Table.Follows.succeeds`, `Table.Succeeds.trans`
* `Ages.of_shift`, `Ages.trans`
-/

set_option autoImplicit false

namespace Semantics

namespace Table

variable {ρ κ : Type} {key : ρ → κ}

/-- The second table follows the first: rows of the first shifted, and the others may
begin. -/
structure Follows (begins : ρ → Prop) (shifts : ρ → ρ → Prop) (t t' : Table key) : Prop where
  kept : ∀ row ∈ t.rows, ∃ row' ∈ t'.rows, key row' = key row ∧ shifts row row'
  fresh : ∀ row' ∈ t'.rows, (∀ row ∈ t.rows, key row ≠ key row') → begins row'

/-- The second table succeeds the first: rows of the first moved, and the others moved from
rows that may begin. -/
structure Succeeds (begins : ρ → Prop) (moves : ρ → ρ → Prop) (t t' : Table key) : Prop where
  kept : ∀ row ∈ t.rows, ∃ row' ∈ t'.rows, key row' = key row ∧ moves row row'
  fresh : ∀ row' ∈ t'.rows, (∀ row ∈ t.rows, key row ≠ key row') →
    ∃ first, begins first ∧ key first = key row' ∧ moves first row'

variable {begins : ρ → Prop} {shifts moves : ρ → ρ → Prop} {t t' t'' : Table key}

theorem Follows.succeeds (follows : t.Follows begins shifts t') (refl : ∀ row, moves row row)
    (moved : ∀ row row', shifts row row' → moves row row') : t.Succeeds begins moves t' where
  kept row member := by
    obtain ⟨row', member', same, shifted⟩ := follows.kept row member
    exact ⟨row', member', same, moved row row' shifted⟩
  fresh row' member absent := ⟨row', follows.fresh row' member absent, rfl, refl row'⟩

theorem Succeeds.refl (refl : ∀ row, moves row row) : t.Succeeds begins moves t where
  kept row member := ⟨row, member, rfl, refl row⟩
  fresh row member absent := absurd rfl (absent row member)

theorem Succeeds.trans (trans : ∀ {a b c}, moves a b → moves b c → moves a c)
    (first : t.Succeeds begins moves t') (second : t'.Succeeds begins moves t'') :
    t.Succeeds begins moves t'' where
  kept row member := by
    obtain ⟨row', member', same, moved⟩ := first.kept row member
    obtain ⟨row'', member'', same', moved'⟩ := second.kept row' member'
    exact ⟨row'', member'', same'.trans same, trans moved moved'⟩
  fresh row'' member'' absent := by
    by_cases listed : ∃ row' ∈ t'.rows, key row' = key row''
    · -- the row was new in the table between, and its successor there is the row itself
      obtain ⟨row', member', same⟩ := listed
      obtain ⟨start, begun, same', moved⟩ := first.fresh row' member' fun row member =>
        same ▸ absent row member
      obtain ⟨row, member, keyed, moved'⟩ := second.kept row' member'
      obtain rfl := eq_of_key member member'' (keyed.trans same)
      exact ⟨start, begun, same'.trans same, trans moved moved'⟩
    · exact second.fresh row'' member'' fun row' member' same => listed ⟨row', member', same⟩

/-- The rows of the second table in another order. -/
theorem Succeeds.of_perm (succeeds : t.Succeeds begins moves t') (perm : t'.rows.Perm t''.rows) :
    t.Succeeds begins moves t'' where
  kept row member := by
    obtain ⟨row', member', found⟩ := succeeds.kept row member
    exact ⟨row', perm.subset member', found⟩
  fresh row' member := succeeds.fresh row' (perm.symm.subset member)

end Table

/-! ## Stages -/

section Stages

variable {σ τ : Type} {next : σ → List σ}

/-- A stage and the time it began are the same, or a later stage began later. -/
def Ages [LT τ] (next : σ → List σ) (a b : σ × τ) : Prop :=
  a = b ∨ (Relation.TransGen (fun s s' => s' ∈ next s ∧ s' ≠ s) a.1 b.1 ∧ a.2 < b.2)

theorem Ages.refl [LT τ] (a : σ × τ) : Ages next a a := .inl rfl

theorem Ages.trans [Preorder τ] {a b c : σ × τ} (first : Ages next a b) (second : Ages next b c) :
    Ages next a c := by
  rcases first with rfl | ⟨stages, times⟩
  · exact second
  · rcases second with rfl | ⟨stages', times'⟩
    · exact .inr ⟨stages, times⟩
    · exact .inr ⟨stages.trans stages', times.trans times'⟩

/-- A stage that stays keeps its time, and one that changes changes later. -/
theorem Ages.of_shift [LT τ] {a b : σ × τ} (stage : b.1 ∈ next a.1) (same : b.1 = a.1 → b.2 = a.2)
    (changed : b.1 ≠ a.1 → a.2 < b.2) : Ages next a b := by
  by_cases stays : b.1 = a.1
  · exact .inl (Prod.ext stays.symm (same stays).symm)
  · exact .inr ⟨.single ⟨stage, stays⟩, changed stays⟩

/-- A stage without others after it stays. -/
theorem Ages.eq_of_last [LT τ] {a b : σ × τ} (ages : Ages next a b)
    (last : ∀ s ∈ next a.1, s = a.1) : b = a := by
  rcases ages with rfl | ⟨stages, -⟩
  · rfl
  · obtain ⟨s, ⟨listed, other⟩, -⟩ := Relation.TransGen.head'_iff.mp stages
    exact absurd (last s listed) other

end Stages

end Semantics
