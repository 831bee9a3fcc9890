import CathedralCompute.Semantics.Transaction

/-!
# Which exceptions a computation raises

`Raises P result` says that a computation fails with nothing but exceptions of a kind.
The rules follow the way computations are put together: a sequence raises what its parts
raise, and a loop raises what its body raises at the element where it stops.

## Main results

* `raises_bind`, `raises_mapM`, `raises_foldlM` — sequences and loops
* `foldlM_eq_error` — where a loop stops
-/

set_option autoImplicit false

namespace Semantics

variable {ε α β σ : Type} {P : ε → Prop}

/-- The computation fails with exceptions of a kind only. -/
def Raises (P : ε → Prop) (result : Except ε α) : Prop :=
  ∀ failure, result = .error failure → P failure

@[simp] theorem raises_ok (a : α) : Raises P (.ok a) := fun _ failed => (nomatch failed)

@[simp] theorem raises_pure (a : α) : Raises P (pure a : Except ε α) := raises_ok a

theorem raises_error {failure : ε} (kind : P failure) : Raises P (.error failure : Except ε α) := by
  rintro _ ⟨⟩
  exact kind

theorem raises_require {condition : Prop} [Decidable condition] {failure : ε} (kind : P failure) :
    Raises P (require condition failure) :=
  fun _ failed => (require_eq_error.mp failed).2 ▸ kind

theorem raises_demand {value : Option α} {failure : ε} (kind : P failure) :
    Raises P (demand failure value) :=
  fun _ failed => (demand_eq_error.mp failed).2 ▸ kind

/-- The rest may rely on what the first computation delivered. -/
theorem raises_bind {first : Except ε α} {rest : α → Except ε β} (start : Raises P first)
    (continues : ∀ a, first = .ok a → Raises P (rest a)) : Raises P (first >>= rest) := by
  intro failure failed
  rcases bind_eq_error.mp failed with failed | ⟨a, delivered, failed⟩
  · exact start failure failed
  · exact continues a delivered failure failed

theorem raises_mapM {f : α → Except ε β} {inputs : List α}
    (each : ∀ input ∈ inputs, Raises P (f input)) : Raises P (inputs.mapM f) := by
  induction inputs with
  | nil => exact raises_pure []
  | cons input inputs ih =>
    obtain ⟨head, tail⟩ := List.forall_mem_cons.mp each
    rw [List.mapM_cons]
    exact raises_bind head fun _ _ => raises_bind (ih tail) fun _ _ => raises_pure _

/-- A loop stops at the first element at which its body fails. -/
theorem foldlM_eq_error {f : σ → α → Except ε σ} {inputs : List α} {s : σ} {failure : ε} :
    inputs.foldlM f s = .error failure ↔
      ∃ before input after reached, inputs = before ++ input :: after ∧
        before.foldlM f s = .ok reached ∧ f reached input = .error failure := by
  induction inputs generalizing s with
  | nil => simp [pure, Except.pure]
  | cons first inputs ih =>
    rw [List.foldlM_cons, bind_eq_error]
    constructor
    · rintro (failed | ⟨next, passed, later⟩)
      · exact ⟨[], first, inputs, s, rfl, rfl, failed⟩
      · obtain ⟨before, input, after, reached, rfl, looped, failed⟩ := ih.mp later
        refine ⟨first :: before, input, after, reached, rfl, ?_, failed⟩
        rw [List.foldlM_cons, bind_eq_ok]
        exact ⟨next, passed, looped⟩
    · rintro ⟨before, input, after, reached, split, looped, failed⟩
      cases before with
      | nil =>
        obtain ⟨rfl, rfl⟩ := List.cons.inj split
        cases looped
        exact .inl failed
      | cons other before =>
        obtain ⟨rfl, rfl⟩ := List.cons.inj split
        rw [List.foldlM_cons, bind_eq_ok] at looped
        obtain ⟨next, passed, looped⟩ := looped
        exact .inr ⟨next, passed, ih.mpr ⟨before, input, after, reached, rfl, looped, failed⟩⟩

theorem raises_foldlM {f : σ → α → Except ε σ} {inputs : List α}
    (each : ∀ s, ∀ input ∈ inputs, Raises P (f s input)) (s : σ) :
    Raises P (inputs.foldlM f s) := by
  intro failure failed
  obtain ⟨before, input, after, reached, rfl, -, stops⟩ := foldlM_eq_error.mp failed
  exact each reached input (List.mem_append_right _ List.mem_cons_self) failure stops

end Semantics
