import CathedralCompute.Lanes.SatWitness
import Mathlib.Data.List.Dedup

/-!
# The solver

A worker solves its item by the Davis–Putnam–Logemann–Loveland search: unit
propagation to a fixed point, then a branch on the first variable without a
value. The search is over partial assignments; what it says is about valuations,
which give every variable a value. A partial assignment stands for the valuations
that extend it, and each move of the search keeps the models among them.

## Main definitions

* `Sat.unitPropagate`, `Sat.backtrack`, `Sat.solveSat` — the search, with a bound
  on its depth
* `Sat.Models`, `Sat.Extends` — valuations and the partial assignments they extend

## Main results

* `Sat.unitPropagate_spec` — propagation loses no model
* `Sat.backtrack_spec` — a search below a partial assignment decides whether a
  model extends it
* `Sat.solve_sat_correct` — the answer is a satisfying assignment, or there is none
-/

set_option autoImplicit false

namespace Cathedral.Sat

open Codec Semantics

/-! ## The search -/

/-- The truth values given so far, newest first. -/
abbrev PartialAssignment := List (ℤ × Bool)

variable {assign trial : PartialAssignment} {clause : List ℤ} {clauses : List (List ℤ)}
variable {literal v nVars : ℤ} {fuel : ℕ}

/-- The round of `unit_propagate` over one clause: `none` once a literal is true,
else the literals without a value. -/
def unresolved (assign : PartialAssignment) : List ℤ → Option (List ℤ)
  | [] => some []
  | lit :: clause => match assign.lookup |lit| with
    | some value => if decide (0 < lit) = value then none else unresolved assign clause
    | none => (unresolved assign clause).map (lit :: ·)

/-- What a pass over the clauses finds. -/
inductive Pass where
  | conflict
  | fixpoint
  | unit (literal : ℤ)

/-- One pass of `unit_propagate`. -/
def findUnit (assign : PartialAssignment) : List (List ℤ) → Pass
  | [] => .fixpoint
  | clause :: clauses => match unresolved assign clause with
    | none => findUnit assign clauses
    | some [] => .conflict
    | some [unit] => .unit unit
    | some (_ :: _ :: _) => findUnit assign clauses

/-- `unit_propagate`: `some none` is a conflict, `none` an exhausted bound. -/
def unitPropagate (clauses : List (List ℤ)) :
    ℕ → PartialAssignment → Option (Option PartialAssignment)
  | 0, _ => none
  | fuel + 1, assign => match findUnit assign clauses with
    | .conflict => some none
    | .fixpoint => some (some assign)
    | .unit unit => unitPropagate clauses fuel ((|unit|, decide (0 < unit)) :: assign)

/-- `all_satisfied`. -/
def allSatisfied (clauses : List (List ℤ)) (assign : PartialAssignment) : Bool :=
  clauses.all fun clause => clause.any fun lit => assign.lookup |lit| = some (decide (0 < lit))

/-- The variable `backtrack` branches on. -/
def unassignedVar (clauses : List (List ℤ)) (assign : PartialAssignment) : Option ℤ :=
  (clauses.flatten.find? fun lit => (assign.lookup |lit|).isNone).map fun lit => |lit|

/-- `backtrack`: the assignment it leaves where it returns true. -/
def backtrack (clauses : List (List ℤ)) :
    ℕ → PartialAssignment → Option (Option PartialAssignment)
  | 0, _ => none
  | fuel + 1, assign => match unitPropagate clauses (fuel + 1) assign with
    | none => none
    | some none => some none
    | some (some assign) =>
      if allSatisfied clauses assign then some (some assign)
      else match unassignedVar clauses assign with
        | none => some none
        | some v => match backtrack clauses fuel ((v, true) :: assign) with
          | some none => backtrack clauses fuel ((v, false) :: assign)
          | other => other

/-- The literals of an assignment; a variable without a value is true. -/
def complete (nVars : ℤ) (assign : PartialAssignment) : List ℤ :=
  (List.range nVars.toNat).map fun i : ℕ =>
    let v : ℤ := i + 1
    if (assign.lookup v).getD true then v else -v

/-- `solve_sat` within a bound on its depth. -/
def solveSat (fuel : ℕ) (satInstance : SatInstance) : Option (Option (List ℤ)) :=
  (backtrack satInstance.clauses fuel []).map fun found => found.map (complete satInstance.nVars)

/-! ## Valuations -/

/-- The literal is true under the valuation. -/
def Makes (valuation : ℤ → Bool) (literal : ℤ) : Prop := valuation |literal| = decide (0 < literal)

/-- Every clause has a true literal. -/
def Models (valuation : ℤ → Bool) (clauses : List (List ℤ)) : Prop :=
  ∀ clause ∈ clauses, ∃ literal ∈ clause, Makes valuation literal

/-- The valuation has the values given so far. -/
def Extends (valuation : ℤ → Bool) (assign : PartialAssignment) : Prop :=
  ∀ v value, assign.lookup v = some value → valuation v = value

variable {valuation : ℤ → Bool}

theorem extends_nil (valuation : ℤ → Bool) : Extends valuation [] := fun _ _ found => nomatch found

theorem extends_cons {value : Bool} (unassigned : assign.lookup v = none) :
    Extends valuation ((v, value) :: assign) ↔ valuation v = value ∧ Extends valuation assign := by
  constructor
  · refine fun ext => ⟨ext v value List.lookup_cons_self, fun w other found => ?_⟩
    refine ext w other ?_
    have apart : (w == v) = false := by
      refine beq_false_of_ne fun same => ?_
      rw [same, unassigned] at found
      exact nomatch found
    rw [List.lookup_cons, apart]
    exact found
  · rintro ⟨here, ext⟩ w other found
    rw [List.lookup_cons] at found
    split at found
    · rename_i same
      rw [eq_of_beq same, here]
      exact Option.some.inj found
    · exact ext w other found

/-! ## Passes -/

/-- A literal without a value is one of the clause. -/
theorem mem_of_unresolved {rest : List ℤ} (left : unresolved assign clause = some rest)
    (listed : literal ∈ rest) : literal ∈ clause ∧ assign.lookup |literal| = none := by
  induction clause generalizing rest with
  | nil =>
    cases Option.some.inj left
    exact nomatch listed
  | cons lit clause ih =>
    rw [unresolved] at left
    split at left
    · split at left
      · exact nomatch left
      · exact (ih left listed).imp_left (List.mem_cons_of_mem lit)
    · rename_i unassigned
      obtain ⟨others, found, rfl⟩ := Option.map_eq_some_iff.mp left
      rcases List.mem_cons.mp listed with rfl | later
      · exact ⟨List.mem_cons_self, unassigned⟩
      · exact (ih found later).imp_left (List.mem_cons_of_mem lit)

/-- A valuation that makes the clause true does so at a literal without a value. -/
theorem makes_of_unresolved {rest : List ℤ} (ext : Extends valuation assign)
    (left : unresolved assign clause = some rest) (listed : literal ∈ clause)
    (true_ : Makes valuation literal) : literal ∈ rest := by
  induction clause generalizing rest with
  | nil => exact nomatch listed
  | cons lit clause ih =>
    rw [unresolved] at left
    split at left
    · rename_i value assigned
      split at left
      · exact nomatch left
      · rename_i opposite
        rcases List.mem_cons.mp listed with rfl | later
        · exact absurd (true_.symm.trans (ext _ _ assigned)) opposite
        · exact ih left later
    · obtain ⟨others, found, rfl⟩ := Option.map_eq_some_iff.mp left
      rcases List.mem_cons.mp listed with rfl | later
      · exact List.mem_cons_self
      · exact List.mem_cons_of_mem lit (ih found later)

/-- A clause the round skips as satisfied has a literal that is true already. -/
theorem satisfied_of_unresolved (skipped : unresolved assign clause = none) :
    ∃ literal ∈ clause, assign.lookup |literal| = some (decide (0 < literal)) := by
  induction clause with
  | nil => exact nomatch skipped
  | cons lit clause ih =>
    rw [unresolved] at skipped
    split at skipped
    · rename_i value assigned
      split at skipped
      · rename_i same
        exact ⟨lit, List.mem_cons_self, by rw [assigned, same]⟩
      · obtain ⟨other, listed, found⟩ := ih skipped
        exact ⟨other, List.mem_cons_of_mem lit listed, found⟩
    · obtain ⟨other, listed, found⟩ := ih (Option.map_eq_none_iff.mp skipped)
      exact ⟨other, List.mem_cons_of_mem lit listed, found⟩

/-- No model extends an assignment in conflict. -/
theorem not_models_of_conflict (found : findUnit assign clauses = .conflict)
    (ext : Extends valuation assign) : ¬ Models valuation clauses := by
  intro models
  induction clauses with
  | nil => exact nomatch found
  | cons clause clauses ih =>
    have others := (List.forall_mem_cons.mp models).2
    rw [findUnit] at found
    split at found
    · exact ih found others
    · rename_i left
      obtain ⟨literal, listed, true_⟩ := models clause List.mem_cons_self
      exact nomatch makes_of_unresolved ext left listed true_
    · exact nomatch found
    · exact ih found others

/-- A unit is a literal of some clause, its variable has no value, and every
model that extends the assignment makes it true. -/
theorem unit_spec (found : findUnit assign clauses = .unit literal) :
    (∃ clause ∈ clauses, literal ∈ clause) ∧ assign.lookup |literal| = none ∧
      ∀ valuation, Extends valuation assign → Models valuation clauses →
        Makes valuation literal := by
  induction clauses with
  | nil => exact nomatch found
  | cons clause clauses ih =>
    have later (rest : findUnit assign clauses = .unit literal) :
        (∃ other ∈ clause :: clauses, literal ∈ other) ∧ assign.lookup |literal| = none ∧
          ∀ valuation, Extends valuation assign → Models valuation (clause :: clauses) →
            Makes valuation literal := by
      obtain ⟨⟨other, among, listed⟩, unassigned, forced⟩ := ih rest
      exact ⟨⟨other, List.mem_cons_of_mem clause among, listed⟩, unassigned,
        fun valuation ext models => forced valuation ext (List.forall_mem_cons.mp models).2⟩
    rw [findUnit] at found
    split at found
    · exact later found
    · exact nomatch found
    · rename_i unit left
      obtain rfl : unit = literal := Pass.unit.inj found
      obtain ⟨listed, unassigned⟩ := mem_of_unresolved left List.mem_cons_self
      refine ⟨⟨clause, List.mem_cons_self, listed⟩, unassigned, fun valuation ext models => ?_⟩
      obtain ⟨other, among, true_⟩ := models clause List.mem_cons_self
      obtain rfl := List.mem_singleton.mp (makes_of_unresolved ext left among true_)
      exact true_
    · exact later found

/-- At a fixed point a clause is satisfied or has a literal without a value. -/
theorem open_of_fixpoint (found : findUnit assign clauses = .fixpoint) :
    ∀ clause ∈ clauses,
      (∃ literal ∈ clause, assign.lookup |literal| = some (decide (0 < literal))) ∨
        ∃ literal ∈ clause, assign.lookup |literal| = none := by
  induction clauses with
  | nil => exact List.forall_mem_nil _
  | cons clause clauses ih =>
    rw [findUnit] at found
    split at found
    · rename_i skipped
      exact List.forall_mem_cons.mpr ⟨.inl (satisfied_of_unresolved skipped), ih found⟩
    · exact nomatch found
    · exact nomatch found
    · rename_i left
      obtain ⟨listed, unassigned⟩ := mem_of_unresolved left List.mem_cons_self
      exact List.forall_mem_cons.mpr ⟨.inr ⟨_, listed, unassigned⟩, ih found⟩

/-! ## The bound -/

/-- Every variable has at most one value, and is a variable of the instance. -/
structure Bounded (nVars : ℤ) (assign : PartialAssignment) : Prop where
  nodup : (assign.map Prod.fst).Nodup
  ranged : ∀ v ∈ assign.map Prod.fst, 1 ≤ v ∧ v ≤ nVars

theorem bounded_nil (nVars : ℤ) : Bounded nVars [] := ⟨List.nodup_nil, List.forall_mem_nil _⟩

theorem Bounded.cons (bounded : Bounded nVars assign) (value : Bool)
    (unassigned : assign.lookup v = none) (ranged : 1 ≤ v ∧ v ≤ nVars) :
    Bounded nVars ((v, value) :: assign) := by
  refine ⟨List.nodup_cons.mpr ⟨fun listed => ?_, bounded.nodup⟩,
    List.forall_mem_cons.mpr ⟨ranged, bounded.ranged⟩⟩
  obtain ⟨entry, among, rfl⟩ := List.mem_map.mp listed
  exact absurd (beq_self_eq_true entry.1)
    (by simpa using List.lookup_eq_none_iff.mp unassigned entry among)

/-- There are no more values than variables. -/
theorem Bounded.length_le (bounded : Bounded nVars assign) : assign.length ≤ nVars.toNat := by
  have within : (assign.map Prod.fst).toFinset ⊆ Finset.Icc 1 nVars := by
    intro v listed
    exact Finset.mem_Icc.mpr (bounded.ranged v (List.mem_toFinset.mp listed))
  have small := Finset.card_le_card within
  rw [List.toFinset_card_of_nodup bounded.nodup, List.length_map, Int.card_Icc] at small
  omega

/-- A longer bound changes no answer of `unit_propagate`. -/
theorem unitPropagate_succ {found : Option PartialAssignment}
    (answered : unitPropagate clauses fuel assign = some found) :
    unitPropagate clauses (fuel + 1) assign = some found := by
  induction fuel generalizing assign with
  | zero => exact nomatch answered
  | succ fuel ih =>
    rw [unitPropagate] at answered ⊢
    split at answered
    · exact answered
    · exact answered
    · exact ih answered

/-- A longer bound changes no answer of `backtrack`. -/
theorem backtrack_succ {found : Option PartialAssignment}
    (answered : backtrack clauses fuel assign = some found) :
    backtrack clauses (fuel + 1) assign = some found := by
  induction fuel generalizing assign found with
  | zero => exact nomatch answered
  | succ fuel ih =>
    rw [backtrack] at answered ⊢
    cases propagated : unitPropagate clauses (fuel + 1) assign with
    | none =>
      rw [propagated] at answered
      exact nomatch answered
    | some after =>
      rw [propagated] at answered
      rw [unitPropagate_succ propagated]
      cases after with
      | none => exact answered
      | some after =>
        dsimp only at answered ⊢
        by_cases satisfied : allSatisfied clauses after = true
        · rw [if_pos satisfied] at answered ⊢
          exact answered
        · rw [if_neg satisfied] at answered ⊢
          cases branch : unassignedVar clauses after with
          | none =>
            rw [branch] at answered
            exact answered
          | some v =>
            rw [branch] at answered
            dsimp only at answered ⊢
            cases first : backtrack clauses fuel ((v, true) :: after) with
            | none =>
              rw [first] at answered
              exact nomatch answered
            | some trial =>
              rw [first] at answered
              rw [ih first]
              cases trial with
              | none => exact ih answered
              | some trial => exact answered

/-! ## What the search decides -/

/-- Every literal is a variable of the instance or its negation. -/
def Ranged (nVars : ℤ) (clauses : List (List ℤ)) : Prop :=
  ∀ clause ∈ clauses, ∀ literal ∈ clause, literal ≠ 0 ∧ |literal| ≤ nVars

theorem Ranged.magnitude (ranged : Ranged nVars clauses) (among : clause ∈ clauses)
    (listed : literal ∈ clause) : 1 ≤ |literal| ∧ |literal| ≤ nVars := by
  obtain ⟨nonzero, small⟩ := ranged clause among literal listed
  exact ⟨Int.one_le_abs nonzero, small⟩

/-- What `unit_propagate` leaves: the same models, at a fixed point. -/
structure Propagated (nVars : ℤ) (clauses : List (List ℤ)) (assign after : PartialAssignment) :
    Prop where
  bounded : Bounded nVars after
  longer : assign.length ≤ after.length
  fixpoint : findUnit after clauses = .fixpoint
  keeps : ∀ valuation, Extends valuation assign → Models valuation clauses →
    Extends valuation after

/-- Propagation ends within the bound and loses no model. -/
theorem unitPropagate_spec (ranged : Ranged nVars clauses) (bounded : Bounded nVars assign)
    (deep : nVars.toNat < fuel + assign.length) :
    ∃ found, unitPropagate clauses fuel assign = some found ∧
      (found = none → ∀ valuation, Extends valuation assign → ¬ Models valuation clauses) ∧
      ∀ after, found = some after → Propagated nVars clauses assign after := by
  induction fuel generalizing assign with
  | zero =>
    have := bounded.length_le
    omega
  | succ fuel ih =>
    cases pass : findUnit assign clauses with
    | conflict =>
      refine ⟨none, by rw [unitPropagate, pass], fun _ valuation ext => ?_, nofun⟩
      exact not_models_of_conflict pass ext
    | fixpoint =>
      refine ⟨some assign, by rw [unitPropagate, pass], nofun, ?_⟩
      rintro after ⟨⟩
      exact ⟨bounded, le_rfl, pass, fun _ ext _ => ext⟩
    | unit literal =>
      obtain ⟨⟨clause, among, listed⟩, unassigned, forced⟩ := unit_spec pass
      have keeps (valuation : ℤ → Bool) (ext : Extends valuation assign)
          (models : Models valuation clauses) :
          Extends valuation ((|literal|, decide (0 < literal)) :: assign) :=
        (extends_cons unassigned).mpr ⟨forced valuation ext models, ext⟩
      obtain ⟨found, answered, none_, some_⟩ :=
        ih (bounded.cons (decide (0 < literal)) unassigned (ranged.magnitude among listed))
          (by rw [List.length_cons]; omega)
      refine ⟨found, by rw [unitPropagate, pass]; exact answered, ?_, fun after same => ?_⟩
      · exact fun same valuation ext models =>
          none_ same valuation (keeps valuation ext models) models
      · have propagated := some_ after same
        refine { propagated with longer := ?_, keeps := fun valuation ext models => ?_ }
        · have := propagated.longer
          rw [List.length_cons] at this
          omega
        · exact propagated.keeps valuation (keeps valuation ext models) models

/-- The variable of a branch is one of the instance and has no value. -/
theorem unassignedVar_spec (ranged : Ranged nVars clauses)
    (branch : unassignedVar clauses assign = some v) :
    assign.lookup v = none ∧ 1 ≤ v ∧ v ≤ nVars := by
  obtain ⟨literal, found, rfl⟩ := Option.map_eq_some_iff.mp branch
  obtain ⟨clause, among, listed⟩ := List.mem_flatten.mp (List.mem_of_find?_eq_some found)
  have unassigned := List.find?_some found
  exact ⟨Option.isNone_iff_eq_none.mp unassigned, ranged.magnitude among listed⟩

/-- At a fixed point with nothing left to branch on every clause is satisfied. -/
theorem allSatisfied_of_fixpoint (fixpoint : findUnit assign clauses = .fixpoint)
    (full : unassignedVar clauses assign = none) : allSatisfied clauses assign = true := by
  refine List.all_eq_true.mpr fun clause among => List.any_eq_true.mpr ?_
  rcases open_of_fixpoint fixpoint clause among with ⟨literal, listed, true_⟩ | unassigned
  · exact ⟨literal, listed, decide_eq_true true_⟩
  · obtain ⟨literal, listed, missing⟩ := unassigned
    have valued := List.find?_eq_none.mp (Option.map_eq_none_iff.mp full) literal
      (List.mem_flatten.mpr ⟨clause, among, listed⟩)
    rw [missing] at valued
    exact absurd rfl valued

/-- A search below a partial assignment ends within the bound, and decides
whether some model extends the assignment. -/
theorem backtrack_spec (ranged : Ranged nVars clauses) (bounded : Bounded nVars assign)
    (deep : nVars.toNat < fuel + assign.length) :
    ∃ found, backtrack clauses fuel assign = some found ∧
      (found = none → ∀ valuation, Extends valuation assign → ¬ Models valuation clauses) ∧
      ∀ after, found = some after → allSatisfied clauses after = true := by
  induction fuel generalizing assign with
  | zero =>
    have := bounded.length_le
    omega
  | succ fuel ih =>
    -- units first: a conflict refutes every extension
    obtain ⟨propagation, answered, none_, some_⟩ := unitPropagate_spec ranged bounded deep
    rw [backtrack, answered]
    cases propagation with
    | none => exact ⟨none, rfl, fun _ => none_ rfl, nofun⟩
    | some after =>
      have propagated := some_ after rfl
      dsimp only
      split
      · rename_i satisfied
        exact ⟨some after, rfl, nofun, fun _ same => Option.some.inj same ▸ satisfied⟩
      · rename_i unsatisfied
        -- a branch on a variable that some clause still needs
        cases branch : unassignedVar clauses after with
        | none => exact absurd (allSatisfied_of_fixpoint propagated.fixpoint branch) unsatisfied
        | some v =>
          obtain ⟨unassigned, range⟩ := unassignedVar_spec ranged branch
          have deeper (value : Bool) : nVars.toNat < fuel + ((v, value) :: after).length := by
            have := propagated.longer
            rw [List.length_cons]
            omega
          obtain ⟨first, answered₁, none₁, some₁⟩ :=
            ih (propagated.bounded.cons true unassigned range) (deeper true)
          obtain ⟨second, answered₂, none₂, some₂⟩ :=
            ih (propagated.bounded.cons false unassigned range) (deeper false)
          dsimp only
          rw [answered₁]
          cases first with
          | some trial => exact ⟨some trial, rfl, nofun, some₁⟩
          | none =>
            refine ⟨second, answered₂, fun same valuation ext models => ?_, some₂⟩
            have extended := propagated.keeps valuation ext models
            -- a model has one of the two values, and extends that branch
            cases value : valuation v with
            | true =>
              exact none₁ rfl valuation ((extends_cons unassigned).mpr ⟨value, extended⟩) models
            | false =>
              exact none₂ same valuation ((extends_cons unassigned).mpr ⟨value, extended⟩) models

/-! ## The answer -/

/-- The literals returned name the variables in order. -/
theorem abs_complete (nVars : ℤ) (assign : PartialAssignment) :
    (complete nVars assign).map (fun lit => |lit|) =
      (List.range nVars.toNat).map fun i : ℕ => (i : ℤ) + 1 := by
  rw [complete, List.map_map]
  refine List.map_congr_left fun i _ => ?_
  have positive : |(i : ℤ) + 1| = (i : ℤ) + 1 := abs_of_pos (by omega)
  simp only [Function.comp_apply]
  split
  · exact positive
  · rw [abs_neg, positive]

/-- A literal that is true under the assignment is returned. -/
theorem mem_complete (range : 1 ≤ |literal| ∧ |literal| ≤ nVars)
    (true_ : assign.lookup |literal| = some (decide (0 < literal))) :
    literal ∈ complete nVars assign := by
  refine List.mem_map.mpr ⟨(|literal| - 1).toNat, List.mem_range.mpr (by omega), ?_⟩
  have same : ((|literal| - 1).toNat : ℤ) + 1 = |literal| := by omega
  dsimp only
  rw [same, true_, Option.getD_some]
  by_cases positive : 0 < literal
  · rw [if_pos (decide_eq_true positive), abs_of_pos positive]
  · rw [if_neg (by simpa using positive), abs_of_nonpos (not_lt.mp positive), neg_neg]

/-- **The solver is right.** On a valid instance the search ends, within any bound
above the number of variables and with the same answer; an assignment it returns
gives every variable one literal, in order, and satisfies every clause, and where
it returns none no valuation does. -/
theorem solve_sat_correct {satInstance : SatInstance}
    (valid : validateSatInstance satInstance = .ok ()) :
    ∃ answer : Option (List ℤ),
      (∀ fuel : ℕ, satInstance.nVars < fuel → solveSat fuel satInstance = some answer) ∧
      (∀ assignment, answer = some assignment →
        assignment.map (fun lit => |lit|) =
            (List.range satInstance.nVars.toNat).map (fun i : ℕ => (i : ℤ) + 1) ∧
          ∀ clause ∈ satInstance.clauses, ∃ literal ∈ clause, literal ∈ assignment) ∧
      (answer = none → ∀ valuation : ℤ → Bool, ¬ Models valuation satInstance.clauses) := by
  simp only [validateSatInstance, bind_eq_ok, require_eq_ok] at valid
  obtain ⟨_, nVars, _, -, clauses⟩ := valid
  have ranged : Ranged satInstance.nVars satInstance.clauses := ranged_of_validateClauses clauses
  obtain ⟨found, answered, none_, some_⟩ :=
    backtrack_spec ranged (bounded_nil satInstance.nVars)
      (by rw [List.length_nil]; omega : satInstance.nVars.toNat < satInstance.nVars.toNat + 1 + _)
  have stable (more : ℕ) :
      backtrack satInstance.clauses (satInstance.nVars.toNat + 1 + more) [] = some found := by
    induction more with
    | zero => exact answered
    | succ more ih => exact backtrack_succ ih
  refine ⟨found.map (complete satInstance.nVars), fun fuel deep => ?_, ?_, fun same => ?_⟩
  · obtain ⟨more, rfl⟩ : ∃ more, fuel = satInstance.nVars.toNat + 1 + more :=
      ⟨fuel - (satInstance.nVars.toNat + 1), by omega⟩
    rw [solveSat, stable, Option.map_some]
  · intro assignment same
    obtain ⟨after, rfl, rfl⟩ := Option.map_eq_some_iff.mp same
    refine ⟨abs_complete satInstance.nVars after, fun clause among => ?_⟩
    obtain ⟨literal, listed, true_⟩ :=
      List.any_eq_true.mp (List.all_eq_true.mp (some_ after rfl) clause among)
    exact ⟨literal, listed, mem_complete (ranged.magnitude among listed) (of_decide_eq_true true_)⟩
  · exact fun valuation =>
      none_ (Option.map_eq_none_iff.mp same) valuation (extends_nil valuation)

/-- A clause and its contrary leave one assignment of two variables. -/
theorem solve_sat_correct_pair :
    validateSatInstance ⟨2, [[1, 2], [-1], [2, -2, 2]]⟩ = .ok () ∧
      ∃ answer : Option (List ℤ),
        ∀ fuel : ℕ, 2 < (fuel : ℤ) → solveSat fuel ⟨2, [[1, 2], [-1], [2, -2, 2]]⟩ = some answer := by
  have valid : validateSatInstance ⟨2, [[1, 2], [-1], [2, -2, 2]]⟩ = .ok () := by decide
  obtain ⟨answer, ends, -⟩ := solve_sat_correct valid
  exact ⟨valid, answer, ends⟩

example : solveSat 3 ⟨2, [[1, 2], [-1], [2, -2, 2]]⟩ = some (some [-1, 2]) := by decide

end Cathedral.Sat
