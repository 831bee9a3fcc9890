import Mathlib.Logic.Relation
import Mathlib.Data.List.Infix

/-!
# Transactions and their runs

A transaction reads a state and either commits a result with a new state or
fails. A failed transaction is rolled back, so it leaves the state it found.
A run applies one transaction after another, and every interleaving of callers
that take turns through an exclusive lock is such a run.

The first half is the guard algebra used to write transactions in the `Except`
monad, with the inversion lemmas that read a success backwards. The second half
is the induction principle of runs, with a version for runs whose steps all
meet a side condition and a version for relations between the two ends.
-/

set_option autoImplicit false

namespace Semantics

variable {ε α β σ ω : Type}

/-! ## Guards -/

/-- Continue when the condition holds and fail with `error` otherwise. -/
def require (condition : Prop) [Decidable condition] (error : ε) : Except ε Unit :=
  if condition then .ok () else .error error

/-- Continue with the value, or fail with `error` when there is none. -/
def demand (error : ε) : Option α → Except ε α
  | some value => .ok value
  | none => .error error

/-- Run a check only where it applies. -/
def checkIf (applies : Bool) (check : Except ε Unit) : Except ε Unit :=
  if applies then check else .ok ()

@[simp] theorem checkIf_eq_ok {applies : Bool} {check : Except ε Unit} {u : Unit} :
    checkIf applies check = .ok u ↔ (applies = true → check = .ok ()) := by
  cases applies <;> simp [checkIf]

@[simp] theorem require_eq_ok {condition : Prop} [Decidable condition] {error : ε} {u : Unit} :
    require condition error = .ok u ↔ condition := by
  unfold require
  split <;> simp_all

@[simp] theorem demand_eq_ok {error : ε} {value : Option α} {a : α} :
    demand error value = .ok a ↔ value = some a := by
  cases value <;> simp [demand]

/-- Reading a success backwards: the first computation delivered a value, and
the rest succeeded on it. -/
@[simp] theorem bind_eq_ok {first : Except ε α} {rest : α → Except ε β} {result : β} :
    first >>= rest = .ok result ↔ ∃ value, first = .ok value ∧ rest value = .ok result := by
  rcases first with failure | value
  · exact ⟨fun h => (nomatch h), fun ⟨_, h, _⟩ => (nomatch h)⟩
  · exact ⟨fun h => ⟨value, rfl, h⟩, fun ⟨_, rfl, h⟩ => h⟩

@[simp] theorem map_eq_ok {first : Except ε α} {f : α → β} {result : β} :
    first.map f = .ok result ↔ ∃ value, first = .ok value ∧ f value = result := by
  cases first <;> simp [Except.map]

@[simp] theorem mapError_eq_ok {ε' : Type} {first : Except ε α} {f : ε → ε'} {value : α} :
    first.mapError f = .ok value ↔ first = .ok value := by
  cases first <;> simp [Except.mapError]

@[simp] theorem pure_eq_ok {value result : α} :
    (pure value : Except ε α) = .ok result ↔ value = result :=
  Except.ok.injEq value result ▸ Iff.rfl

theorem require_eq_error {condition : Prop} [Decidable condition] {error failure : ε} :
    require condition error = .error failure ↔ ¬ condition ∧ error = failure := by
  unfold require
  split <;> simp_all

theorem demand_eq_error {error failure : ε} {value : Option α} :
    demand error value = .error failure ↔ value = none ∧ error = failure := by
  cases value <;> simp [demand]

/-- Reading a failure backwards: the first computation failed, or it delivered a
value and the rest failed on it. -/
theorem bind_eq_error {first : Except ε α} {rest : α → Except ε β} {failure : ε} :
    first >>= rest = .error failure ↔
      first = .error failure ∨ ∃ value, first = .ok value ∧ rest value = .error failure := by
  rcases first with failure' | value
  · constructor
    · intro failed
      cases failed
      exact .inl rfl
    · rintro (failed | ⟨_, delivered, _⟩)
      · cases failed
        rfl
      · cases delivered
  · constructor
    · exact fun failed => .inr ⟨value, rfl, failed⟩
    · rintro (failed | ⟨_, delivered, failed⟩)
      · cases failed
      · cases delivered
        exact failed

/-- What passes a test was delivered. -/
theorem exists_of_any {result : Except ε α} {test : α → Bool}
    (passes : result.toOption.any test = true) : ∃ a, result = .ok a ∧ test a = true := by
  cases result with
  | error => cases passes
  | ok a => exact ⟨a, rfl, passes⟩

/-- What succeeds was delivered. -/
theorem exists_of_isOk {result : Except ε α} (succeeds : result.isOk = true) :
    ∃ a, result = .ok a := by
  cases result with
  | error => cases succeeds
  | ok a => exact ⟨a, rfl⟩

theorem mapM_congr {f g : α → Except ε β} {inputs : List α}
    (same : ∀ input ∈ inputs, f input = g input) : inputs.mapM f = inputs.mapM g := by
  induction inputs with
  | nil => rfl
  | cons input inputs ih =>
    obtain ⟨first, rest⟩ := List.forall_mem_cons.mp same
    rw [List.mapM_cons, List.mapM_cons, first, ih rest]

/-- A successful loop delivered a value for every element. -/
theorem forall₂_of_mapM {f : α → Except ε β} {inputs : List α} {outputs : List β}
    (delivered : inputs.mapM f = .ok outputs) :
    List.Forall₂ (fun input output => f input = .ok output) inputs outputs := by
  induction inputs generalizing outputs with
  | nil =>
    cases delivered
    exact .nil
  | cons input inputs ih =>
    simp only [List.mapM_cons, bind_eq_ok, pure_eq_ok] at delivered
    obtain ⟨output, first, rest, others, rfl⟩ := delivered
    exact .cons first (ih others)

/-- Every value of a successful loop was delivered for some element. -/
theorem exists_of_mapM {f : α → Except ε β} {inputs : List α} {outputs : List β}
    (delivered : inputs.mapM f = .ok outputs) {output : β} (member : output ∈ outputs) :
    ∃ input ∈ inputs, f input = .ok output := by
  induction inputs generalizing outputs with
  | nil =>
    cases delivered
    cases member
  | cons input inputs ih =>
    simp only [List.mapM_cons, bind_eq_ok, pure_eq_ok] at delivered
    obtain ⟨first, made, rest, others, rfl⟩ := delivered
    rcases List.mem_cons.mp member with rfl | later
    · exact ⟨input, List.mem_cons_self, made⟩
    · obtain ⟨input', inside, made'⟩ := ih others later
      exact ⟨input', List.mem_cons_of_mem _ inside, made'⟩

/-- A successful loop delivered a value for each element. -/
theorem ok_of_mapM {f : α → Except ε β} {inputs : List α} {outputs : List β}
    (delivered : inputs.mapM f = .ok outputs) {input : α} (member : input ∈ inputs) :
    ∃ output, f input = .ok output := by
  induction inputs generalizing outputs with
  | nil => cases member
  | cons other inputs ih =>
    simp only [List.mapM_cons, bind_eq_ok, pure_eq_ok] at delivered
    obtain ⟨first, made, rest, others, -⟩ := delivered
    rcases List.mem_cons.mp member with rfl | later
    · exact ⟨first, made⟩
    · exact ih others later

/-- A loop whose every round delivers a value succeeds. -/
theorem exists_of_forall_ok {f : α → Except ε β} {inputs : List α}
    (delivers : ∀ input ∈ inputs, ∃ output, f input = .ok output) :
    ∃ outputs, inputs.mapM f = .ok outputs := by
  induction inputs with
  | nil => exact ⟨[], rfl⟩
  | cons input inputs ih =>
    obtain ⟨⟨output, made⟩, others⟩ := List.forall_mem_cons.mp delivers
    obtain ⟨outputs, rest⟩ := ih others
    exact ⟨output :: outputs, by rw [List.mapM_cons, made, rest]; rfl⟩

/-- Run a transaction for one element after another, each on the state the one
before it left. -/
def eachInTurn (f : α → σ → Except ε (β × σ)) : List α → σ → Except ε (List β × σ)
  | [], s => .ok ([], s)
  | input :: inputs, s => do
    let (output, s) ← f input s
    let (outputs, s) ← eachInTurn f inputs s
    return (output :: outputs, s)

/-- What every single transaction establishes, the whole loop establishes, if it
is reflexive and transitive. -/
theorem relation_eachInTurn {f : α → σ → Except ε (β × σ)} {R : σ → σ → Prop}
    (refl : ∀ s, R s s) (trans : ∀ {a b c}, R a b → R b c → R a c)
    (single : ∀ input s output s', f input s = .ok (output, s') → R s s')
    {inputs : List α} {outputs : List β} {s s' : σ}
    (delivered : eachInTurn f inputs s = .ok (outputs, s')) : R s s' := by
  induction inputs generalizing outputs s with
  | nil =>
    cases delivered
    exact refl _
  | cons input inputs ih =>
    simp only [eachInTurn, bind_eq_ok, pure_eq_ok] at delivered
    obtain ⟨⟨output, middle⟩, first, ⟨outputs', last⟩, rest, same⟩ := delivered
    cases same
    exact trans (single input s output middle first) (ih rest)

/-- What every round of a loop establishes, the whole loop establishes, if it is
reflexive and transitive. -/
theorem relation_foldlM {f : σ → α → Except ε σ} {R : σ → σ → Prop} (refl : ∀ s, R s s)
    (trans : ∀ {a b c}, R a b → R b c → R a c)
    {inputs : List α} (single : ∀ input ∈ inputs, ∀ s s', f s input = .ok s' → R s s')
    {s s' : σ} (looped : inputs.foldlM f s = .ok s') : R s s' := by
  induction inputs generalizing s with
  | nil =>
    cases looped
    exact refl _
  | cons input inputs ih =>
    rw [List.foldlM_cons, bind_eq_ok] at looped
    obtain ⟨middle, first, rest⟩ := looped
    obtain ⟨one, others⟩ := List.forall_mem_cons.mp single
    exact trans (one s middle first) (ih others rest)

/-- A loop that follows another, round by round, succeeds where the other does. -/
theorem simulation_foldlM {τ : Type} {f : σ → α → Except ε σ} {g : τ → α → Except ε τ}
    {R : σ → τ → Prop} {inputs : List α}
    (single : ∀ input ∈ inputs, ∀ s t s', R s t → f s input = .ok s' →
      ∃ t', g t input = .ok t' ∧ R s' t')
    {s s' : σ} {t : τ} (start : R s t) (looped : inputs.foldlM f s = .ok s') :
    ∃ t', inputs.foldlM g t = .ok t' ∧ R s' t' := by
  induction inputs generalizing s t with
  | nil =>
    cases looped
    exact ⟨t, rfl, start⟩
  | cons input inputs ih =>
    rw [List.foldlM_cons, bind_eq_ok] at looped
    obtain ⟨middle, first, rest⟩ := looped
    obtain ⟨one, others⟩ := List.forall_mem_cons.mp single
    obtain ⟨middle', first', follows⟩ := one s t middle start first
    obtain ⟨last, rest', ends⟩ := ih others follows rest
    exact ⟨last, by rw [List.foldlM_cons, bind_eq_ok]; exact ⟨middle', first', rest'⟩, ends⟩

/-! ## Commit and rollback -/

/-- The state a caller leaves behind: the committed one, or the old one when
the transaction failed. -/
def settle (s : σ) : Except ε σ → σ
  | .ok s' => s'
  | .error _ => s

@[simp] theorem settle_ok (s s' : σ) : settle s (.ok s' : Except ε σ) = s' := rfl

@[simp] theorem settle_error (s : σ) (e : ε) : settle s (.error e : Except ε σ) = s := rfl

/-- What holds of the old state and of every committed one holds of the settled
state. -/
theorem settle_of_ok {P : σ → Prop} {s : σ} {outcome : Except ε σ} (old : P s)
    (new : ∀ s', outcome = .ok s' → P s') : P (settle s outcome) := by
  cases outcome with
  | error e => exact old
  | ok s' => exact new s' rfl

/-! ## Runs -/

/-- Apply the operations one after another. -/
def run (step : σ → ω → σ) (s : σ) (ops : List ω) : σ := ops.foldl step s

@[simp] theorem run_nil (step : σ → ω → σ) (s : σ) : run step s [] = s := rfl

@[simp] theorem run_cons (step : σ → ω → σ) (s : σ) (op : ω) (ops : List ω) :
    run step s (op :: ops) = run step (step s op) ops := rfl

theorem run_append (step : σ → ω → σ) (s : σ) (first second : List ω) :
    run step s (first ++ second) = run step (run step s first) second :=
  List.foldl_append

/-- Every step of the run, taken in the state it starts from, meets the
condition. -/
def Along (step : σ → ω → σ) (condition : σ → ω → Prop) : σ → List ω → Prop
  | _, [] => True
  | s, op :: ops => condition s op ∧ Along step condition (step s op) ops

@[simp] theorem along_nil (step : σ → ω → σ) (condition : σ → ω → Prop) (s : σ) :
    Along step condition s [] := trivial

theorem along_cons {step : σ → ω → σ} {condition : σ → ω → Prop} {s : σ} {op : ω}
    {ops : List ω} :
    Along step condition s (op :: ops) ↔
      condition s op ∧ Along step condition (step s op) ops := Iff.rfl

theorem along_of_forall {step : σ → ω → σ} {condition : σ → ω → Prop} {s : σ} {ops : List ω}
    (h : ∀ op ∈ ops, ∀ s, condition s op) : Along step condition s ops := by
  induction ops generalizing s with
  | nil => trivial
  | cons op ops ih =>
    rw [List.forall_mem_cons] at h
    exact ⟨h.1 s, ih h.2⟩

/-- A run whose first part meets the condition and whose second part does too
meets it as a whole. -/
theorem along_append {step : σ → ω → σ} {condition : σ → ω → Prop} {s : σ}
    {first second : List ω} :
    Along step condition s (first ++ second) ↔
      Along step condition s first ∧ Along step condition (run step s first) second := by
  induction first generalizing s with
  | nil => simp
  | cons op first ih => simp only [List.cons_append, along_cons, ih, run_cons, and_assoc]

/-- **Invariant rule.** What every conditioned step preserves, every run of
conditioned steps preserves. -/
theorem invariant_along {step : σ → ω → σ} {condition : σ → ω → Prop} {Inv : σ → Prop}
    (preserved : ∀ s op, Inv s → condition s op → Inv (step s op)) {s : σ} {ops : List ω}
    (start : Inv s) (along : Along step condition s ops) : Inv (run step s ops) := by
  induction ops generalizing s with
  | nil => exact start
  | cons op ops ih =>
    obtain ⟨head, rest⟩ := along
    exact ih (preserved s op start head) rest

/-- Invariant rule for unconditioned steps. -/
theorem invariant_run {step : σ → ω → σ} {Inv : σ → Prop}
    (preserved : ∀ s op, Inv s → Inv (step s op)) {s : σ} (start : Inv s) (ops : List ω) :
    Inv (run step s ops) := by
  induction ops generalizing s with
  | nil => exact start
  | cons op ops ih => exact ih (preserved s op start)

/-- Relation rule without an invariant. -/
theorem relation_of_along {step : σ → ω → σ} {condition : σ → ω → Prop} {R : σ → σ → Prop}
    (refl : ∀ s, R s s) (trans : ∀ {a b c}, R a b → R b c → R a c)
    (related : ∀ s op, condition s op → R s (step s op)) {s : σ} {ops : List ω}
    (along : Along step condition s ops) : R s (run step s ops) := by
  induction ops generalizing s with
  | nil => exact refl s
  | cons op ops ih =>
    obtain ⟨head, rest⟩ := along
    exact trans (related s op head) (ih rest)

/-- Relation rule for unconditioned steps. -/
theorem relation_run {step : σ → ω → σ} {Inv : σ → Prop} {R : σ → σ → Prop}
    (refl : ∀ s, R s s) (trans : ∀ {a b c}, R a b → R b c → R a c)
    (preserved : ∀ s op, Inv s → Inv (step s op))
    (related : ∀ s op, Inv s → R s (step s op)) {s : σ} (start : Inv s) (ops : List ω) :
    R s (run step s ops) := by
  induction ops generalizing s with
  | nil => exact refl s
  | cons op ops ih => exact trans (related s op start) (ih (preserved s op start))

/-- What does not hold at the start of a run and holds at its end begins to hold
at some operation of it. -/
theorem exists_turning_point {step : σ → ω → σ} {P : σ → Prop} {s : σ} {ops : List ω}
    (start : ¬ P s) (finish : P (run step s ops)) :
    ∃ before op after, ops = before ++ op :: after ∧ ¬ P (run step s before) ∧
      P (run step s (before ++ [op])) := by
  induction ops generalizing s with
  | nil => exact absurd finish start
  | cons op ops ih =>
    by_cases now : P (step s op)
    · exact ⟨[], op, ops, rfl, start, now⟩
    · obtain ⟨before, op', after, rfl, no, yes⟩ := ih now finish
      exact ⟨op :: before, op', after, rfl, no, yes⟩

/-- A state is reachable when some run from the initial state ends in it. -/
def Reachable (step : σ → ω → σ) (init s : σ) : Prop := ∃ ops, run step init ops = s

theorem Reachable.run {step : σ → ω → σ} {init s : σ} (h : Reachable step init s)
    (ops : List ω) : Reachable step init (Semantics.run step s ops) := by
  obtain ⟨before, rfl⟩ := h
  exact ⟨before ++ ops, run_append step init before ops⟩

/-- What holds initially and is preserved by every step holds of every
reachable state. -/
theorem Reachable.invariant {step : σ → ω → σ} {init s : σ} {Inv : σ → Prop}
    (h : Reachable step init s) (start : Inv init)
    (preserved : ∀ s op, Inv s → Inv (step s op)) : Inv s := by
  obtain ⟨ops, rfl⟩ := h
  exact invariant_run preserved start ops

end Semantics
