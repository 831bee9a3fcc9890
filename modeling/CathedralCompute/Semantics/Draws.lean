import Mathlib.Data.List.Basic
import Mathlib.Data.List.Nodup
import Mathlib.Data.List.Forall2

/-!
# Stateful draws

A computation that threads a hidden state, such as the one of a random source,
may be known only by what all its results have in common.
-/

set_option autoImplicit false

namespace Semantics

variable {σ α β : Type} {P : α → Prop} {Q : β → Prop}

/-- Whatever the state, the value drawn is one of `P`. -/
def Always (draw : StateM σ α) (P : α → Prop) : Prop := ∀ s, P (draw s).1

theorem always_pure {value : α} (holds : P value) : Always (pure value : StateM σ α) P :=
  fun _ => holds

theorem always_bind {first : StateM σ α} {rest : α → StateM σ β} (drawn : Always first P)
    (continued : ∀ value, P value → Always (rest value) Q) : Always (first >>= rest) Q :=
  fun s => continued _ (drawn s) (first s).2

theorem Always.mono {P' : α → Prop} {draw : StateM σ α} (drawn : Always draw P)
    (weaker : ∀ value, P value → P' value) : Always draw P' := fun s => weaker _ (drawn s)

/-- What is listed on the left is related to something on the right. -/
theorem exists_of_forall₂ {R : α → β → Prop} {as : List α} {bs : List β}
    (related : List.Forall₂ R as bs) {a : α} (listed : a ∈ as) : ∃ b ∈ bs, R a b := by
  induction related with
  | nil => exact absurd listed List.not_mem_nil
  | cons first _ ih =>
    rcases List.mem_cons.mp listed with rfl | listed
    · exact ⟨_, List.mem_cons_self, first⟩
    · obtain ⟨b, among, holds⟩ := ih listed
      exact ⟨b, List.mem_cons_of_mem _ among, holds⟩

/-- A loop of draws yields one value for each round. -/
theorem always_mapM {R : α → β → Prop} {f : α → StateM σ β} {inputs : List α}
    (each : ∀ input ∈ inputs, Always (f input) (R input)) :
    Always (inputs.mapM f) (List.Forall₂ R inputs) := by
  induction inputs with
  | nil => exact always_pure .nil
  | cons input inputs ih =>
    obtain ⟨first, others⟩ := List.forall_mem_cons.mp each
    rw [List.mapM_cons]
    refine always_bind first fun value related => ?_
    exact always_bind (ih others) fun values all => always_pure (.cons related all)

end Semantics
