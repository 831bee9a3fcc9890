import CathedralCompute.Lifecycle
import Mathlib.Algebra.Order.Floor.Semiring
import Mathlib.Data.List.Sort
import Mathlib.Data.Prod.Lex
import Mathlib.Data.Rat.Floor

/-!
# Which targets a probe pass takes

A pass takes so many of the due targets, and defers the others. The targets that
wait for their first probe and those that are due for a refresh each have a part of
the budget, and each class gives up its most overdue targets first. What one class
does not use goes to the other. Under a deadline the pass also decides the order in
which the targets are queued, so that the first wave has both classes.

## Main results

* `selectProbeTargets_fair` — the selection loses and repeats nothing, spends the
  whole budget, takes the most overdue of each class, and keeps the reserved parts
* `deadlineFairDispatchOrder_fair` — the order of dispatch loses and repeats nothing,
  keeps each class in order, and has both classes in the first wave
-/

set_option autoImplicit false

namespace Cathedral.Prober

open Codec Semantics

/-! ## Targets -/

/-- A due target. `identity` is the `id` of the pair, and `lifecycle` its second half. -/
structure Target where
  identity : ℕ
  lifecycle : SnapshotFields
deriving DecidableEq

namespace Target

/-- The target waits for its first probe. -/
def IsFresh (target : Target) : Prop := target.lifecycle.evidenceVerifiedAt = none

instance (target : Target) : Decidable target.IsFresh := inferInstanceAs (Decidable (_ = none))

/-- A time of the lifecycle in the key: whether there is one, and which. -/
abbrev TimeKey := Lex (Bool × Instant)

def timeKey (time : Option Instant) : TimeKey := toLex (time.isSome, time.getD 0)

/-- `overdue_key`. -/
def overdueKey (target : Target) : Lex (TimeKey × Lex (TimeKey × Lex (TimeKey × Text))) :=
  toLex (timeKey target.lifecycle.evidenceExpiresAt,
    toLex (timeKey target.lifecycle.evidenceVerifiedAt,
      toLex (timeKey (some target.lifecycle.stateChangedAt), target.lifecycle.hotkey)))

/-- The first target is at least as overdue as the second. -/
def AsOverdue (a b : Target) : Prop := a.overdueKey ≤ b.overdueKey

instance (a b : Target) : Decidable (a.AsOverdue b) :=
  inferInstanceAs (Decidable (a.overdueKey ≤ b.overdueKey))

instance : IsTrans Target AsOverdue := ⟨fun _ _ _ first second => le_trans first second⟩

instance : Std.Total AsOverdue := ⟨fun a b => le_total a.overdueKey b.overdueKey⟩

end Target

/-- `sorted((t for t in due if …), key=overdue_key)`, for the targets that wait for their
first probe. -/
def freshTargets (due : List Target) : List Target :=
  (due.filter fun target => target.IsFresh).insertionSort Target.AsOverdue

/-- The same for the targets that are due for a refresh. -/
def refreshTargets (due : List Target) : List Target :=
  (due.filter fun target => ¬ target.IsFresh).insertionSort Target.AsOverdue

/-! ## Selection -/

/-- The slots of each class. -/
structure Budgets where
  fresh : ℕ
  refresh : ℕ
deriving DecidableEq

/-- The slots that the share reserves for first probes; one at least, if it is not
zero. -/
def reservedFresh (maxProbes : ℕ) (newWorkerShare : ℚ) (fresh : ℕ) : ℕ :=
  let freshBudget := min fresh ⌊(maxProbes : ℚ) * newWorkerShare⌋₊
  if 0 < fresh ∧ freshBudget = 0 ∧ 0 < newWorkerShare then 1 else freshBudget

/-- The slots of both classes, where unused ones are spilled both ways. -/
def spilled (maxProbes fresh refresh freshBudget : ℕ) : Budgets :=
  let refreshBudget := maxProbes - freshBudget
  if refresh < refreshBudget then
    ⟨min fresh (freshBudget + (refreshBudget - refresh)), refresh⟩
  else if fresh < freshBudget then
    ⟨fresh, min refresh (refreshBudget + (freshBudget - fresh))⟩
  else ⟨freshBudget, refreshBudget⟩

/-- The selected targets, and the due ones that are not among them. -/
def takeBudgets (due : List Target) (budgets : Budgets) : List Target × List Target :=
  let selected := (refreshTargets due).take budgets.refresh ++ (freshTargets due).take budgets.fresh
  let chosen := selected.map Target.identity
  (selected, due.filter fun target => target.identity ∉ chosen)

/-- The selection within a budget. -/
def selectWithin (due : List Target) (maxProbes : ℕ) (newWorkerShare : ℚ) :
    List Target × List Target :=
  let fresh := (freshTargets due).length
  let refresh := (refreshTargets due).length
  takeBudgets due
    (spilled maxProbes fresh refresh (reservedFresh maxProbes newWorkerShare fresh))

/-- `select_probe_targets`: the selected and the deferred targets. -/
def selectProbeTargets (due : List Target) (maxProbes : Option ℤ) (newWorkerShare : ℚ)
    (deadlineActive : Bool) : Except Failure (List Target × List Target) := do
  require (0 ≤ newWorkerShare ∧ newWorkerShare ≤ 1)
    (.valueError "new_worker_share must be between 0.0 and 1.0")
  match maxProbes with
  | none => .ok (if deadlineActive then selectWithin due due.length newWorkerShare else (due, []))
  | some maxProbes => do
    require (1 ≤ maxProbes)
      (.valueError ("max_probes must be at least 1, got " ++ intText maxProbes))
    require (maxProbes < 2 → ¬ (0 < newWorkerShare ∧ newWorkerShare < 1))
      (.valueError ("max_probes must be at least 2 when new_worker_share reserves " ++
        Text.ofString "capacity for both first probes and refreshes"))
    .ok (selectWithin due maxProbes.toNat newWorkerShare)

/-! ## Dispatch under a deadline -/

/-- The slots of both classes in the first wave. -/
def firstWaveSlots (firstWaveSize fresh refresh : ℕ) : Budgets :=
  let proportional := ⌊(firstWaveSize * fresh : ℚ) / (refresh + fresh)⌋₊
  let freshSlots := min fresh (min (firstWaveSize - 1) (max 1 proportional))
  let refreshSlots := min refresh (firstWaveSize - freshSlots)
  let unfilled := firstWaveSize - freshSlots - refreshSlots
  let extraFresh := min (fresh - freshSlots) unfilled
  let unfilled := unfilled - extraFresh
  ⟨freshSlots + extraFresh, refreshSlots + min (refresh - refreshSlots) unfilled⟩

/-- The queue of two nonempty classes: one of each, the rest of the first wave, and the
remainder. -/
def interleaved (refresh fresh : List Target) (slots : Budgets) : List Target :=
  refresh.take 1 ++ fresh.take 1 ++ (refresh.take slots.refresh).drop 1 ++
    (fresh.take slots.fresh).drop 1 ++ (refresh.drop slots.refresh ++ fresh.drop slots.fresh)

/-- `_deadline_fair_dispatch_order`. -/
def deadlineFairDispatchOrder (targets : List Target) (workerCount : ℤ) (newWorkerShare : ℚ) :
    Except Failure (List Target) := do
  require (1 ≤ workerCount) (.valueError "worker_count must be at least 1")
  let refresh := targets.filter fun target => ¬ target.IsFresh
  let fresh := targets.filter fun target => target.IsFresh
  if newWorkerShare = 0 then .ok (refresh ++ fresh)
  else if newWorkerShare = 1 then .ok (fresh ++ refresh)
  else if refresh = [] ∨ fresh = [] then .ok targets
  else do
    require (2 ≤ workerCount)
      (.valueError ("deadline probing requires at least 2 effective workers when " ++
        Text.ofString "capacity is reserved for first probes and refreshes"))
    let firstWaveSize := min workerCount.toNat targets.length
    .ok (interleaved refresh fresh (firstWaveSlots firstWaveSize fresh.length refresh.length))

/-! ## The classes -/

section Classes

variable {due : List Target} {target : Target}

theorem mem_freshTargets : target ∈ freshTargets due ↔ target ∈ due ∧ target.IsFresh := by
  rw [freshTargets, List.mem_insertionSort, List.mem_filter, decide_eq_true_eq]

theorem mem_refreshTargets : target ∈ refreshTargets due ↔ target ∈ due ∧ ¬ target.IsFresh := by
  rw [refreshTargets, List.mem_insertionSort, List.mem_filter, decide_eq_true_eq]

theorem sorted_freshTargets (due : List Target) : (freshTargets due).Pairwise Target.AsOverdue :=
  List.pairwise_insertionSort _ _

theorem sorted_refreshTargets (due : List Target) :
    (refreshTargets due).Pairwise Target.AsOverdue :=
  List.pairwise_insertionSort _ _

/-- The classes make up the due targets. -/
theorem classes_perm (due : List Target) : (refreshTargets due ++ freshTargets due).Perm due := by
  have classes := ((List.perm_insertionSort Target.AsOverdue
    (due.filter fun target => ¬ target.IsFresh)).append
    (List.perm_insertionSort Target.AsOverdue (due.filter fun target => target.IsFresh)))
  refine classes.trans ((List.perm_append_comm).trans ?_)
  simpa using List.filter_append_perm (fun target : Target => decide target.IsFresh) due

theorem length_classes (due : List Target) :
    (freshTargets due).length + (refreshTargets due).length = due.length := by
  have total := (classes_perm due).length_eq
  rw [List.length_append] at total
  omega

end Classes

/-! ## The budgets -/

/-- What the slots of both classes must be: the whole budget is spent, and no class gets
more than its size. -/
structure Budgets.Spends (budgets : Budgets) (maxProbes fresh refresh : ℕ) : Prop where
  ofFresh : budgets.fresh ≤ fresh
  ofRefresh : budgets.refresh ≤ refresh
  total : budgets.fresh + budgets.refresh = min maxProbes (fresh + refresh)

section Budgets

variable {maxProbes fresh : ℕ} {share : ℚ}

theorem floor_share_le (small : share ≤ 1) : ⌊(maxProbes : ℚ) * share⌋₊ ≤ maxProbes := by
  have product : (maxProbes : ℚ) * share ≤ maxProbes :=
    mul_le_of_le_one_right (Nat.cast_nonneg _) small
  exact Nat.floor_le_of_le product

/-- The reserved slots for first probes are within the class and the budget. -/
theorem reservedFresh_le (small : share ≤ 1) (positive : 1 ≤ maxProbes ∨ fresh = 0) :
    reservedFresh maxProbes share fresh ≤ fresh ∧
      reservedFresh maxProbes share fresh ≤ maxProbes := by
  have part := @floor_share_le maxProbes _ small
  unfold reservedFresh
  dsimp only
  split <;> omega

/-- A share that is not zero reserves a slot, and one below the whole leaves one. -/
theorem one_le_reservedFresh (positive : 0 < share) (some : 0 < fresh) :
    1 ≤ reservedFresh maxProbes share fresh := by
  unfold reservedFresh
  dsimp only
  split
  · exact le_rfl
  case isFalse spent =>
    have taken : min fresh ⌊(maxProbes : ℚ) * share⌋₊ ≠ 0 :=
      fun none => spent ⟨some, none, positive⟩
    omega

theorem reservedFresh_lt (small : share < 1) (two : 2 ≤ maxProbes) :
    reservedFresh maxProbes share fresh < maxProbes := by
  have product : (maxProbes : ℚ) * share < maxProbes :=
    mul_lt_of_lt_one_right (Nat.cast_pos.mpr (by omega)) small
  have part := (Nat.floor_lt' (by omega)).mpr product
  unfold reservedFresh
  dsimp only
  split <;> omega

/-- Spilling spends the whole budget, and takes no slot from a class that can use it. -/
theorem spends_spilled (refresh : ℕ) {freshBudget : ℕ} (within : freshBudget ≤ fresh ∧ freshBudget ≤ maxProbes) :
    (spilled maxProbes fresh refresh freshBudget).Spends maxProbes fresh refresh ∧
      freshBudget ≤ (spilled maxProbes fresh refresh freshBudget).fresh ∧
      min refresh (maxProbes - freshBudget) ≤
        (spilled maxProbes fresh refresh freshBudget).refresh := by
  unfold spilled
  dsimp only
  split
  case isTrue short =>
    refine ⟨⟨?_, ?_, ?_⟩, ?_, ?_⟩ <;> dsimp only <;> omega
  case isFalse long =>
    rw [if_neg (by omega)]
    refine ⟨⟨?_, ?_, ?_⟩, ?_, ?_⟩ <;> dsimp only <;> omega

/-- The part of the budget that is reserved for first probes. -/
theorem reserved_le_reservedFresh :
    min fresh ⌊(maxProbes : ℚ) * share⌋₊ ≤ reservedFresh maxProbes share fresh := by
  unfold reservedFresh
  dsimp only
  split <;> omega

/-- The part that is reserved for refreshes: all but the first probes' part, of which a
small share has one slot. -/
theorem reserved_le_rest :
    maxProbes - max 1 ⌊(maxProbes : ℚ) * share⌋₊ ≤
      maxProbes - reservedFresh maxProbes share fresh := by
  unfold reservedFresh
  dsimp only
  split <;> omega

end Budgets

/-! ## The selection -/

/-- The budget, where none is given all of the due targets. -/
def budgetOf (due : List Target) (maxProbes : Option ℤ) : ℕ :=
  (maxProbes.map Int.toNat).getD due.length

/-- What a selection must be. -/
structure SelectsFairly (due : List Target) (budget : ℕ) (newWorkerShare : ℚ)
    (selected deferred : List Target) : Prop where
  /-- Nothing is lost or repeated. -/
  partition : (selected ++ deferred).Perm due
  /-- The budget is spent. -/
  spent : selected.length = min budget due.length
  /-- Of each class, the most overdue are selected. -/
  overdue : ∀ x ∈ selected, ∀ y ∈ deferred, (x.IsFresh ↔ y.IsFresh) → x.AsOverdue y
  /-- First probes keep the part that the share reserves for them. -/
  fresh : 0 < newWorkerShare → newWorkerShare < 1 →
    min (due.filter fun target => target.IsFresh).length ⌊(budget : ℚ) * newWorkerShare⌋₊ ≤
      (selected.filter fun target => target.IsFresh).length
  /-- Refreshes keep the rest: a share that is rounded to nothing takes one slot from it. -/
  refresh : 0 < newWorkerShare → newWorkerShare < 1 →
    min (due.filter fun target => ¬ target.IsFresh).length
        (budget - max 1 ⌊(budget : ℚ) * newWorkerShare⌋₊) ≤
      (selected.filter fun target => ¬ target.IsFresh).length
  /-- No class is left out. -/
  oneFresh : 0 < newWorkerShare → newWorkerShare < 1 → (∃ x ∈ due, x.IsFresh) →
    ∃ x ∈ selected, x.IsFresh
  oneRefresh : 0 < newWorkerShare → newWorkerShare < 1 → (∃ x ∈ due, ¬ x.IsFresh) →
    ∃ x ∈ selected, ¬ x.IsFresh

section TakeBudgets

variable {due : List Target} {budgets : Budgets}

theorem mem_selected {target : Target} (selected : target ∈ (takeBudgets due budgets).1) :
    target ∈ due := by
  rcases List.mem_append.mp selected with refresh | fresh
  · exact (mem_refreshTargets.mp (List.mem_of_mem_take refresh)).1
  · exact (mem_freshTargets.mp (List.mem_of_mem_take fresh)).1

theorem takeBudgets_perm (distinct : (due.map Target.identity).Nodup) :
    ((takeBudgets due budgets).1 ++ (takeBudgets due budgets).2).Perm due := by
  have dueOnce : due.Nodup := distinct.of_map
  have once : (takeBudgets due budgets).1.Nodup := by
    have classes : (refreshTargets due ++ freshTargets due).Nodup :=
      (classes_perm due).nodup_iff.mpr dueOnce
    exact classes.sublist ((List.take_sublist _ _).append (List.take_sublist _ _))
  -- the selected targets are the due ones whose identity is chosen
  have chosen : (takeBudgets due budgets).1.Perm
      (due.filter fun target => target.identity ∈ (takeBudgets due budgets).1.map
        Target.identity) := by
    refine (List.perm_ext_iff_of_nodup once (dueOnce.filter _)).mpr fun target => ?_
    rw [List.mem_filter, decide_eq_true_eq]
    constructor
    · intro member
      exact ⟨mem_selected member, List.mem_map_of_mem member⟩
    · rintro ⟨member, named⟩
      obtain ⟨other, selected, same⟩ := List.mem_map.mp named
      rwa [← List.inj_on_of_nodup_map distinct (mem_selected selected) member same]
  refine (chosen.append_right _).trans ?_
  simpa [takeBudgets] using List.filter_append_perm
    (fun target : Target => decide (target.identity ∈
      (takeBudgets due budgets).1.map Target.identity)) due

theorem not_mem_of_deferred {target : Target} (deferred : target ∈ (takeBudgets due budgets).2) :
    target ∈ due ∧ target ∉ (takeBudgets due budgets).1 := by
  obtain ⟨member, unchosen⟩ := List.mem_filter.mp deferred
  rw [decide_eq_true_eq] at unchosen
  exact ⟨member, fun selected => unchosen (List.mem_map_of_mem selected)⟩

/-- In a sorted class, what is taken comes before what is left. -/
theorem asOverdue_of_take {sorted : List Target} (order : sorted.Pairwise Target.AsOverdue)
    {n : ℕ} {x y : Target} (taken : x ∈ sorted.take n) (member : y ∈ sorted)
    (left : y ∉ sorted.take n) : x.AsOverdue y := by
  rw [← List.take_append_drop n sorted] at order member
  have dropped := (List.mem_append.mp member).resolve_left left
  exact (List.pairwise_append.mp order).2.2 x taken y dropped

theorem asOverdue_of_takeBudgets {x y : Target} (selected : x ∈ (takeBudgets due budgets).1)
    (deferred : y ∈ (takeBudgets due budgets).2) (sameClass : x.IsFresh ↔ y.IsFresh) :
    x.AsOverdue y := by
  obtain ⟨member, left⟩ := not_mem_of_deferred deferred
  have left : y ∉ (refreshTargets due).take budgets.refresh ∧
      y ∉ (freshTargets due).take budgets.fresh :=
    not_or.mp (fun inside => left (List.mem_append.mpr inside))
  rcases List.mem_append.mp selected with refresh | fresh
  · have stale := (mem_refreshTargets.mp (List.mem_of_mem_take refresh)).2
    exact asOverdue_of_take (sorted_refreshTargets due) refresh
      (mem_refreshTargets.mpr ⟨member, fun fresh => stale (sameClass.mpr fresh)⟩) left.1
  · have waits := (mem_freshTargets.mp (List.mem_of_mem_take fresh)).2
    exact asOverdue_of_take (sorted_freshTargets due) fresh
      (mem_freshTargets.mpr ⟨member, sameClass.mp waits⟩) left.2

theorem filter_fresh_takeBudgets :
    (takeBudgets due budgets).1.filter (fun target => target.IsFresh) =
      (freshTargets due).take budgets.fresh := by
  have none : ((refreshTargets due).take budgets.refresh).filter (fun target => target.IsFresh) =
      [] := by
    refine List.filter_eq_nil_iff.mpr fun target member => ?_
    rw [decide_eq_true_eq]
    exact (mem_refreshTargets.mp (List.mem_of_mem_take member)).2
  have all : ((freshTargets due).take budgets.fresh).filter (fun target => target.IsFresh) =
      (freshTargets due).take budgets.fresh := by
    refine List.filter_eq_self.mpr fun target member => ?_
    rw [decide_eq_true_eq]
    exact (mem_freshTargets.mp (List.mem_of_mem_take member)).2
  rw [takeBudgets, List.filter_append, none, all, List.nil_append]

theorem filter_refresh_takeBudgets :
    (takeBudgets due budgets).1.filter (fun target => ¬ target.IsFresh) =
      (refreshTargets due).take budgets.refresh := by
  have all : ((refreshTargets due).take budgets.refresh).filter (fun target => ¬ target.IsFresh) =
      (refreshTargets due).take budgets.refresh := by
    refine List.filter_eq_self.mpr fun target member => ?_
    rw [decide_eq_true_eq]
    exact (mem_refreshTargets.mp (List.mem_of_mem_take member)).2
  have none : ((freshTargets due).take budgets.fresh).filter (fun target => ¬ target.IsFresh) =
      [] := by
    refine List.filter_eq_nil_iff.mpr fun target member => ?_
    rw [decide_eq_true_eq, not_not]
    exact (mem_freshTargets.mp (List.mem_of_mem_take member)).2
  rw [takeBudgets, List.filter_append, none, all, List.append_nil]

theorem length_freshTargets (due : List Target) :
    (freshTargets due).length = (due.filter fun target => target.IsFresh).length :=
  List.length_insertionSort _ _

theorem length_refreshTargets (due : List Target) :
    (refreshTargets due).length = (due.filter fun target => ¬ target.IsFresh).length :=
  List.length_insertionSort _ _

end TakeBudgets

/-- The selection within a budget that the share can divide. -/
theorem selectWithin_fair {due : List Target} {maxProbes : ℕ} {share : ℚ}
    (distinct : (due.map Target.identity).Nodup) (small : share ≤ 1)
    (positive : 1 ≤ maxProbes ∨ due = [])
    (divisible : 2 ≤ maxProbes ∨ maxProbes = due.length ∨ ¬ (0 < share ∧ share < 1)) :
    SelectsFairly due maxProbes share (selectWithin due maxProbes share).1
      (selectWithin due maxProbes share).2 := by
  have total := length_classes due
  have within : reservedFresh maxProbes share (freshTargets due).length ≤
      (freshTargets due).length ∧
      reservedFresh maxProbes share (freshTargets due).length ≤ maxProbes := by
    refine reservedFresh_le small (positive.imp_right fun none => ?_)
    have empty : due.length = 0 := by rw [none, List.length_nil]
    omega
  have budgets := spends_spilled (refreshTargets due).length within
  generalize slots : spilled maxProbes (freshTargets due).length (refreshTargets due).length
    (reservedFresh maxProbes share (freshTargets due).length) = spent at budgets
  obtain ⟨spends, keepsFresh, keepsRefresh⟩ := budgets
  have selection : selectWithin due maxProbes share = takeBudgets due spent := by
    rw [← slots]
    rfl
  have freshLength : ((freshTargets due).take spent.fresh).length = spent.fresh :=
    List.length_take_of_le spends.ofFresh
  have refreshLength : ((refreshTargets due).take spent.refresh).length = spent.refresh :=
    List.length_take_of_le spends.ofRefresh
  -- a class with a slot has a selected target
  have oneFresh : 1 ≤ spent.fresh → ∃ x ∈ (takeBudgets due spent).1, x.IsFresh := by
    intro slot
    obtain ⟨x, member⟩ := List.exists_mem_of_length_pos (freshLength.symm ▸ slot)
    exact ⟨x, List.mem_append_right _ member, (mem_freshTargets.mp (List.mem_of_mem_take member)).2⟩
  have oneRefresh : 1 ≤ spent.refresh → ∃ x ∈ (takeBudgets due spent).1, ¬ x.IsFresh := by
    intro slot
    obtain ⟨x, member⟩ := List.exists_mem_of_length_pos (refreshLength.symm ▸ slot)
    exact ⟨x, List.mem_append_left _ member,
      (mem_refreshTargets.mp (List.mem_of_mem_take member)).2⟩
  rw [selection]
  constructor
  case partition => exact takeBudgets_perm distinct
  case spent =>
    rw [takeBudgets, List.length_append, freshLength, refreshLength, Nat.add_comm, spends.total,
      total]
  case overdue => exact fun x selected y deferred => asOverdue_of_takeBudgets selected deferred
  case fresh =>
    intro _ _
    rw [filter_fresh_takeBudgets, freshLength, ← length_freshTargets]
    exact reserved_le_reservedFresh.trans keepsFresh
  case refresh =>
    intro _ _
    rw [filter_refresh_takeBudgets, refreshLength, ← length_refreshTargets]
    exact (min_le_min_left _ reserved_le_rest).trans keepsRefresh
  case oneFresh =>
    rintro above - ⟨x, member, waits⟩
    have some := List.length_pos_of_mem (mem_freshTargets.mpr ⟨member, waits⟩)
    exact oneFresh ((one_le_reservedFresh above some).trans keepsFresh)
  case oneRefresh =>
    rintro above below ⟨x, member, stale⟩
    have some := List.length_pos_of_mem (mem_refreshTargets.mpr ⟨member, stale⟩)
    refine oneRefresh (le_trans ?_ keepsRefresh)
    rcases divisible with two | same | whole
    · have less := @reservedFresh_lt _ (freshTargets due).length _ below two
      omega
    · by_cases two : 2 ≤ maxProbes
      · have less := @reservedFresh_lt _ (freshTargets due).length _ below two
        omega
      · -- the only due target is this one
        omega
    · exact absurd ⟨above, below⟩ whole

/-- **Selection.** What `select_probe_targets` selects and defers, whenever it admits its
arguments. -/
theorem selectProbeTargets_fair (due : List Target) (maxProbes : Option ℤ) (newWorkerShare : ℚ)
    (deadlineActive : Bool) (selected deferred : List Target)
    (distinct : (due.map Target.identity).Nodup)
    (admitted : selectProbeTargets due maxProbes newWorkerShare deadlineActive =
      .ok (selected, deferred)) :
    SelectsFairly due (budgetOf due maxProbes) newWorkerShare selected deferred := by
  unfold selectProbeTargets at admitted
  simp only [bind_eq_ok, require_eq_ok] at admitted
  obtain ⟨-, ⟨nonneg, small⟩, admitted⟩ := admitted
  cases maxProbes with
  | none =>
    cases deadlineActive with
    | true =>
      cases admitted
      refine selectWithin_fair distinct small ?_ (.inr (.inl rfl))
      cases due with
      | nil => exact .inr rfl
      | cons target due => exact .inl (Nat.succ_pos _)
    | false =>
      cases admitted
      -- without a budget, all are selected
      exact
        { partition := by rw [List.append_nil]
          spent := (min_self _).symm
          overdue := fun _ _ _ none => by cases none
          fresh := fun _ _ => min_le_left _ _
          refresh := fun _ _ => min_le_left _ _
          oneFresh := fun _ _ => id
          oneRefresh := fun _ _ => id }
  | some maxProbes =>
    simp only [bind_eq_ok, require_eq_ok] at admitted
    obtain ⟨-, positive, -, two, admitted⟩ := admitted
    cases admitted
    show SelectsFairly due maxProbes.toNat newWorkerShare _ _
    refine selectWithin_fair distinct small (.inl (by omega)) ?_
    by_cases enough : 2 ≤ maxProbes
    · exact .inl (by omega)
    · exact .inr (.inr (two (by omega)))

/-! ## The order of dispatch -/

/-- What an order of dispatch must be. -/
structure DispatchesFairly (targets : List Target) (workerCount : ℤ) (newWorkerShare : ℚ)
    (dispatched : List Target) : Prop where
  /-- Nothing is lost or repeated. -/
  partition : dispatched.Perm targets
  /-- Each class keeps its order. -/
  fresh : (dispatched.filter fun target => target.IsFresh) =
    targets.filter fun target => target.IsFresh
  refresh : (dispatched.filter fun target => ¬ target.IsFresh) =
    targets.filter fun target => ¬ target.IsFresh
  /-- The first wave has both classes. -/
  firstWave : 0 < newWorkerShare → newWorkerShare < 1 → (∃ x ∈ targets, x.IsFresh) →
    (∃ x ∈ targets, ¬ x.IsFresh) →
    (∃ x ∈ dispatched.take (min workerCount.toNat targets.length), x.IsFresh) ∧
      ∃ x ∈ dispatched.take (min workerCount.toNat targets.length), ¬ x.IsFresh

section Dispatch

variable {targets dispatched : List Target}

/-- A queue with the same classes has the same targets. -/
theorem perm_of_classes
    (fresh : (dispatched.filter fun target => target.IsFresh) =
      targets.filter fun target => target.IsFresh)
    (refresh : (dispatched.filter fun target => ¬ target.IsFresh) =
      targets.filter fun target => ¬ target.IsFresh) : dispatched.Perm targets := by
  have whole : ∀ targets : List Target, ((targets.filter fun target => target.IsFresh) ++
      targets.filter fun target => ¬ target.IsFresh).Perm targets := by
    intro targets
    simpa using List.filter_append_perm (fun target : Target => decide target.IsFresh) targets
  refine (whole dispatched).symm.trans ?_
  rw [fresh, refresh]
  exact whole targets

/-- One class after the other, in either order. -/
theorem filter_classes (targets : List Target) (freshFirst : Bool) :
    let fresh := targets.filter fun target => target.IsFresh
    let refresh := targets.filter fun target => ¬ target.IsFresh
    let queue := if freshFirst then fresh ++ refresh else refresh ++ fresh
    (queue.filter fun target => target.IsFresh) = fresh ∧
      (queue.filter fun target => ¬ target.IsFresh) = refresh := by
  cases freshFirst <;> simp [List.filter_append, List.filter_filter]

/-- The first of a class, the rest of its part of the first wave, and its remainder. -/
theorem take_one_append {class_ : List Target} {slots : ℕ} (some : 1 ≤ slots) :
    class_.take 1 ++ ((class_.take slots).drop 1 ++ class_.drop slots) = class_ := by
  have first : class_.take 1 = (class_.take slots).take 1 := by
    rw [List.take_take, min_eq_left some]
  rw [first, ← List.append_assoc, List.take_append_drop, List.take_append_drop]

theorem one_le_firstWaveSlots {firstWaveSize fresh refresh : ℕ} (two : 2 ≤ firstWaveSize)
    (someFresh : 1 ≤ fresh) (someRefresh : 1 ≤ refresh) :
    1 ≤ (firstWaveSlots firstWaveSize fresh refresh).fresh ∧
      1 ≤ (firstWaveSlots firstWaveSize fresh refresh).refresh := by
  unfold firstWaveSlots
  dsimp only
  generalize ⌊(firstWaveSize * fresh : ℚ) / (refresh + fresh)⌋₊ = proportional
  omega

/-- A filter of lists that it keeps whole, or drops whole. -/
theorem filter_interleaved {refresh fresh : List Target} {slots : Budgets}
    (slot : 1 ≤ slots.fresh ∧ 1 ≤ slots.refresh) (waiting : ∀ x ∈ fresh, x.IsFresh)
    (stale : ∀ x ∈ refresh, ¬ x.IsFresh) :
    ((interleaved refresh fresh slots).filter fun target => target.IsFresh) = fresh ∧
      ((interleaved refresh fresh slots).filter fun target => ¬ target.IsFresh) = refresh := by
  have keepFresh : ∀ l : List Target, l ⊆ fresh → (l.filter fun x => x.IsFresh) = l ∧
      (l.filter fun x => ¬ x.IsFresh) = [] := fun l within =>
    ⟨List.filter_eq_self.mpr fun x member => decide_eq_true (waiting x (within member)),
      List.filter_eq_nil_iff.mpr fun x member kept =>
        of_decide_eq_true kept (waiting x (within member))⟩
  have keepRefresh : ∀ l : List Target, l ⊆ refresh → (l.filter fun x => x.IsFresh) = [] ∧
      (l.filter fun x => ¬ x.IsFresh) = l := fun l within =>
    ⟨List.filter_eq_nil_iff.mpr fun x member kept =>
        stale x (within member) (of_decide_eq_true kept),
      List.filter_eq_self.mpr fun x member => decide_eq_true (stale x (within member))⟩
  have part : ∀ l : List Target, ∀ n, (l.take n).drop 1 ⊆ l := fun l n =>
    fun _ member => List.take_subset _ _ (List.drop_subset _ _ member)
  unfold interleaved
  simp only [List.filter_append, keepFresh _ (List.take_subset _ _), keepFresh _ (part _ _),
    keepFresh _ (List.drop_subset _ _), keepRefresh _ (List.take_subset _ _),
    keepRefresh _ (part _ _), keepRefresh _ (List.drop_subset _ _), List.nil_append,
    List.append_nil, List.append_assoc]
  exact ⟨take_one_append slot.1, take_one_append slot.2⟩

/-- The first two of the queue are of both classes. -/
theorem firstWave_interleaved {refresh fresh : List Target} {slots : Budgets} {n : ℕ}
    (two : 2 ≤ n) {x y : Target} {refreshes freshes : List Target}
    (startsRefresh : refresh = y :: refreshes) (startsFresh : fresh = x :: freshes) :
    x ∈ (interleaved refresh fresh slots).take n ∧ y ∈ (interleaved refresh fresh slots).take n := by
  obtain ⟨n, rfl⟩ := Nat.exists_eq_add_of_le two
  subst startsRefresh startsFresh
  simp [interleaved, Nat.add_comm 2 n]

end Dispatch

/-- **Dispatch.** The order of dispatch, whenever it admits its arguments. -/
theorem deadlineFairDispatchOrder_fair (targets : List Target) (workerCount : ℤ)
    (newWorkerShare : ℚ) (dispatched : List Target)
    (admitted : deadlineFairDispatchOrder targets workerCount newWorkerShare = .ok dispatched) :
    DispatchesFairly targets workerCount newWorkerShare dispatched := by
  unfold deadlineFairDispatchOrder at admitted
  simp only [bind_eq_ok, require_eq_ok] at admitted
  obtain ⟨-, -, admitted⟩ := admitted
  by_cases none : newWorkerShare = 0
  · rw [if_pos none] at admitted
    cases admitted
    obtain ⟨fresh, refresh⟩ := filter_classes targets false
    exact ⟨perm_of_classes fresh refresh, fresh, refresh, fun above =>
      absurd above (by rw [none]; exact lt_irrefl _)⟩
  by_cases whole : newWorkerShare = 1
  · rw [if_neg none, if_pos whole] at admitted
    cases admitted
    obtain ⟨fresh, refresh⟩ := filter_classes targets true
    exact ⟨perm_of_classes fresh refresh, fresh, refresh, fun _ below =>
      absurd below (by rw [whole]; exact lt_irrefl _)⟩
  rw [if_neg none, if_neg whole] at admitted
  by_cases single : (targets.filter fun target => ¬ target.IsFresh) = [] ∨
      (targets.filter fun target => target.IsFresh) = []
  · rw [if_pos single] at admitted
    cases admitted
    refine ⟨.refl _, rfl, rfl, fun _ _ someFresh someRefresh => ?_⟩
    obtain ⟨x, member, waits⟩ := someFresh
    obtain ⟨y, member', stale⟩ := someRefresh
    rcases single with noRefresh | noFresh
    · exact absurd (decide_eq_true stale) (List.filter_eq_nil_iff.mp noRefresh y member')
    · exact absurd (decide_eq_true waits) (List.filter_eq_nil_iff.mp noFresh x member)
  rw [if_neg single, bind_eq_ok] at admitted
  obtain ⟨_, enough, admitted⟩ := admitted
  rw [require_eq_ok] at enough
  cases admitted
  obtain ⟨someRefresh, someFresh⟩ := not_or.mp single
  obtain ⟨y, refreshes, startsRefresh⟩ := List.exists_cons_of_ne_nil someRefresh
  obtain ⟨x, freshes, startsFresh⟩ := List.exists_cons_of_ne_nil someFresh
  have waiting : ∀ x ∈ targets.filter (fun target => target.IsFresh), x.IsFresh :=
    fun x member => of_decide_eq_true (List.mem_filter.mp member).2
  have stale : ∀ x ∈ targets.filter (fun target => ¬ target.IsFresh), ¬ x.IsFresh :=
    fun x member => of_decide_eq_true (List.mem_filter.mp member).2
  -- there is a target of each class, and there are two workers
  have two : 2 ≤ min workerCount.toNat targets.length := by
    have total := length_classes targets
    rw [length_freshTargets, length_refreshTargets, startsFresh, startsRefresh,
      List.length_cons, List.length_cons] at total
    omega
  have slot := one_le_firstWaveSlots two (List.length_pos_iff.mpr someFresh)
    (List.length_pos_iff.mpr someRefresh)
  obtain ⟨fresh, refresh⟩ := filter_interleaved slot waiting stale
  obtain ⟨first, second⟩ := firstWave_interleaved two startsRefresh startsFresh
  refine ⟨perm_of_classes fresh refresh, fresh, refresh, fun _ _ _ _ => ?_⟩
  exact ⟨⟨x, first, waiting x (startsFresh ▸ List.mem_cons_self)⟩,
    ⟨y, second, stale y (startsRefresh ▸ List.mem_cons_self)⟩⟩

/-- **Probe selection.** What a pass takes of the due targets, each an object of its own,
and the order in which it queues a list of targets under a deadline. -/
theorem probe_selection_fair :
    (∀ (due : List Target) (maxProbes : Option ℤ) (newWorkerShare : ℚ) (deadlineActive : Bool)
      (selected deferred : List Target), (due.map Target.identity).Nodup →
      selectProbeTargets due maxProbes newWorkerShare deadlineActive = .ok (selected, deferred) →
      SelectsFairly due (budgetOf due maxProbes) newWorkerShare selected deferred) ∧
    ∀ (targets : List Target) (workerCount : ℤ) (newWorkerShare : ℚ) (dispatched : List Target),
      deadlineFairDispatchOrder targets workerCount newWorkerShare = .ok dispatched →
      DispatchesFairly targets workerCount newWorkerShare dispatched :=
  ⟨selectProbeTargets_fair, deadlineFairDispatchOrder_fair⟩

/-! ## A concrete pass -/

/-- A worker of the concrete pass, with the time its evidence was verified. -/
def sampleTarget (identity : ℕ) (hotkey : Text) (verifiedAt : Option Instant) : Target where
  identity := identity
  lifecycle :=
    { hotkey := hotkey
      state := if verifiedAt.isSome then .stale else .pending
      generation := 1
      revision := 1
      eventId := 1
      reason := if verifiedAt.isSome then .evidenceExpired else .enrolled
      stateChangedAt := 1000000
      evidenceVerifiedAt := verifiedAt
      evidenceExpiresAt := verifiedAt.map (· + 3600000000)
      measurement := none
      evidenceDigest := none
      policyDigest := none
      policyRegistryRelease := none
      policyRegistryDigest := none
      retryCount := 0
      nextRetryAt := none }

/-- Two workers whose evidence is due for a refresh, and a new one. -/
def sampleDue : List Target :=
  [sampleTarget 0 "a" (some 5000000), sampleTarget 1 "b" (some 4000000), sampleTarget 2 "c" none]

/-- The theorem applied to a pass with two probes and two workers: the more overdue
refresh and the new worker are taken. -/
theorem probe_selection_fair_sample :
    ∃ selected deferred dispatched,
      selectProbeTargets sampleDue (some 2) (1 / 4) true = .ok (selected, deferred) ∧
      selected.map Target.identity = [1, 2] ∧
      SelectsFairly sampleDue 2 (1 / 4) selected deferred ∧
      deadlineFairDispatchOrder selected 2 (1 / 4) = .ok dispatched ∧
      DispatchesFairly selected 2 (1 / 4) dispatched := by
  have selects : (selectProbeTargets sampleDue (some 2) (1 / 4) true).toOption.any (fun outcome =>
      outcome.1.map Target.identity = [1, 2] ∧
        (deadlineFairDispatchOrder outcome.1 2 (1 / 4)).toOption.isSome) = true := by
    decide +kernel
  obtain ⟨⟨selected, deferred⟩, admitted, tested⟩ := exists_of_any selects
  obtain ⟨taken, queued⟩ := of_decide_eq_true tested
  cases order : deadlineFairDispatchOrder selected 2 (1 / 4) with
  | error failure =>
    rw [show (selected, deferred).1 = selected from rfl, order] at queued
    cases queued
  | ok dispatched =>
    exact ⟨selected, deferred, dispatched, admitted, taken,
      probe_selection_fair.1 sampleDue (some 2) (1 / 4) true selected deferred (by decide) admitted,
      order, probe_selection_fair.2 selected 2 (1 / 4) dispatched order⟩

end Cathedral.Prober
