import CathedralCompute.Codec.Text
import CathedralCompute.Semantics.Table
import CathedralCompute.Semantics.Tally
import Mathlib.Algebra.Order.Field.Rat
import Mathlib.Algebra.BigOperators.Ring.List
import Mathlib.Algebra.Order.BigOperators.Group.List
import Mathlib.Data.List.Dedup
import Mathlib.Tactic.FieldSimp
import Mathlib.Tactic.Ring
import Mathlib.Tactic.Linarith

/-!
# Routing-weighted work

An epoch's emission is one unit. A floor is split evenly among the admitted miners,
the rest over lanes by their routing shares, and a lane's budget over its miners by
their scores. What reaches nobody burns. Numbers are exact rationals, so that the
guards against overflow never fire; those against negative values stay.

## Main definitions

* `applyRouting` — the weights and the burn
* `RoutesBy` — what the weights and the burn are, for an effective floor

## Main results

* `routing_conserves` — the weights are those of the clamped floor, and with the burn
  they sum to one
-/

set_option autoImplicit false

namespace Cathedral.Economics

open Codec Semantics

/-! ## The router -/

/-- The scores of a lane's miners. -/
abbrev Scores := Table (Prod.fst : Text × ℚ → Text)

/-- The scores of every lane. -/
abbrev LaneScores := Table (Prod.fst : Text × Scores → Text)

/-- The routing share of every lane. -/
abbrev Routing := Table (Prod.fst : Text × ℚ → Text)

/-- A floor outside the unit interval is moved to its nearer end. -/
def clampFloor (floor : ℚ) : ℚ := max 0 (min 1 floor)

/-- The miners of all lanes. -/
def admitted (laneScores : LaneScores) : List Text :=
  (laneScores.rows.flatMap fun lane => lane.2.rows.map Prod.fst).dedup

/-- The floor's part of each miner. -/
def floorShare (miners : List Text) (floor : ℚ) : ℚ :=
  if floor / miners.length < 0 then 0 else floor / miners.length

/-- Only positive shares enter the denominator. -/
def denominator (routing : Routing) : ℚ :=
  routing.rows.foldl (fun denom lane => if 0 < lane.2 then denom + lane.2 else denom) 0

/-- Only non-negative scores enter the total. -/
def totalScore (miners : Scores) : ℚ :=
  miners.rows.foldl (fun total miner => if 0 ≤ miner.2 then total + miner.2 else total) 0

/-- Add a miner's part of a lane's budget to its weight. -/
def payMiner (laneBudget total : ℚ) (weights : List (Text × ℚ)) (miner : Text × ℚ) :
    List (Text × ℚ) :=
  if miner.2 < 0 then weights
  else if laneBudget * miner.2 / total < 0 then weights
  else Tally.add weights miner.1 (laneBudget * miner.2 / total)

/-- Split a lane's budget among its miners; `none` stands for a lane without scores. -/
def payMiners (laneBudget : ℚ) (weights : List (Text × ℚ)) :
    Option (Text × Scores) → List (Text × ℚ)
  | none => weights
  | some (_, miners) =>
    if miners.rows = [] then weights
    else if totalScore miners ≤ 0 then weights
    else miners.rows.foldl (payMiner laneBudget (totalScore miners)) weights

/-- Pay a lane of the routing. -/
def payLane (laneScores : LaneScores) (workTotal denom : ℚ) (weights : List (Text × ℚ))
    (lane : Text × ℚ) : List (Text × ℚ) :=
  if lane.2 ≤ 0 then weights
  else if workTotal * lane.2 / denom < 0 then weights
  else payMiners (workTotal * lane.2 / denom) weights (laneScores.find? lane.1)

/-- The floor and the work, before the last check of each weight. -/
def payAll (laneScores : LaneScores) (routing : Routing) (floor : ℚ) : List (Text × ℚ) :=
  let miners := admitted laneScores
  let floored := miners.foldl (fun weights m => Tally.add weights m (floorShare miners floor))
    (miners.map fun m => (m, 0))
  if 0 < denominator routing then
    routing.rows.foldl (payLane laneScores (1 - floor) (denominator routing)) floored
  else floored

/-- The weights by miner, and the burn. -/
def applyRouting (laneScores : LaneScores) (routing : Routing) (floor : ℚ) :
    List (Text × ℚ) × ℚ :=
  let weights := (payAll laneScores routing (clampFloor floor)).map fun entry =>
    if entry.2 < 0 then (entry.1, 0) else entry
  let burn := 1 - Tally.total weights
  (weights, if burn < 0 then 0 else burn)

/-! ## What a routing pays -/

/-- The lanes with a positive share. -/
def positiveLanes (routing : Routing) : List (Text × ℚ) :=
  routing.rows.filter fun lane => 0 < lane.2

/-- The share of a lane in the positive shares. -/
def normalizedShare (routing : Routing) (lane : Text × ℚ) : ℚ :=
  lane.2 / Tally.total (positiveLanes routing)

/-- The non-negative scores of a lane, none for a lane without scores. -/
def laneEntries (laneScores : LaneScores) (lane : Text) : List (Text × ℚ) :=
  match laneScores.find? lane with
  | none => []
  | some (_, miners) => miners.rows.filter fun miner => 0 ≤ miner.2

/-- The total of the non-negative scores of a lane. -/
def laneTotal (laneScores : LaneScores) (lane : Text) : ℚ :=
  Tally.total (laneEntries laneScores lane)

/-- The lanes that pay. -/
def payingLanes (laneScores : LaneScores) (routing : Routing) : List (Text × ℚ) :=
  (positiveLanes routing).filter fun lane => 0 < laneTotal laneScores lane.1

/-- The lanes without miners, or whose total is zero. -/
def burningLanes (laneScores : LaneScores) (routing : Routing) : List (Text × ℚ) :=
  (positiveLanes routing).filter fun lane => ¬ 0 < laneTotal laneScores lane.1

/-- The part of a lane's budget that a miner's score earns. -/
def laneWeight (laneScores : LaneScores) (routing : Routing) (floor : ℚ) (miner : Text)
    (lane : Text × ℚ) : ℚ :=
  (1 - floor) * normalizedShare routing lane *
    (Tally.amount (laneEntries laneScores lane.1) miner / laneTotal laneScores lane.1)

/-- How weights and burn divide the unit under an effective floor. -/
structure RoutesBy (laneScores : LaneScores) (routing : Routing) (floor : ℚ)
    (result : List (Text × ℚ) × ℚ) : Prop where
  /-- Each miner is listed once. -/
  distinct : (result.1.map Prod.fst).Nodup
  /-- The miners are those of any lane. -/
  keys : ∀ miner, miner ∈ result.1.map Prod.fst ↔
    ∃ lane ∈ laneScores.rows, miner ∈ lane.2.rows.map Prod.fst
  /-- Weights are not negative. -/
  nonnegative : ∀ entry ∈ result.1, 0 ≤ entry.2
  /-- Nothing is lost and nothing made. -/
  conserved : Tally.total result.1 + result.2 = 1
  /-- A miner has its part of the floor, and of every lane that pays. -/
  weights : ∀ entry ∈ result.1, entry.2 = floor / result.1.length +
    ((payingLanes laneScores routing).map (laneWeight laneScores routing floor entry.1)).sum
  /-- A floor without miners, work without positive shares, and the whole budget of a
  lane without a positive total burn. -/
  burn : result.2 = (if result.1 = [] then floor else 0) +
    (if positiveLanes routing = [] then 1 - floor else 0) +
    ((burningLanes laneScores routing).map fun lane =>
      (1 - floor) * normalizedShare routing lane).sum

/-! ## The steps of the router -/

/-- A list of weights by its keys, its amounts and its total. -/
structure Tallies (miners : List Text) (weights : List (Text × ℚ)) (amounts : Text → ℚ)
    (sum : ℚ) : Prop where
  keys : weights.map Prod.fst = miners
  amount : ∀ miner, Tally.amount weights miner = amounts miner
  total : Tally.total weights = sum

namespace Tallies

variable {miners : List Text} {weights entries : List (Text × ℚ)} {amounts : Text → ℚ} {sum : ℚ}

/-- A batch of additions to listed miners. -/
theorem addAll (tallies : Tallies miners weights amounts sum)
    (distinct : (entries.map Prod.fst).Nodup) (listed : ∀ entry ∈ entries, entry.1 ∈ miners) :
    Tallies miners (Tally.addAll weights entries)
      (fun miner => amounts miner + Tally.amount entries miner) (sum + Tally.total entries) where
  keys := by
    rw [Tally.keys_addAll, tallies.keys]
    rw [tallies.keys]
    exact listed
  amount miner := by rw [Tally.amount_addAll distinct, tallies.amount]
  total := by rw [Tally.total_addAll, tallies.total]

end Tallies

section Floor

variable {miners : List Text} {floor : ℚ}

theorem floorShare_eq (nonnegative : 0 ≤ floor) : floorShare miners floor = floor / miners.length :=
  if_neg (not_lt.mpr (div_nonneg nonnegative (Nat.cast_nonneg _)))

theorem map_fst_const (c : ℚ) : (miners.map fun m => (m, c)).map Prod.fst = miners := by
  rw [List.map_map]
  exact List.map_id _

theorem total_const (c : ℚ) : Tally.total (miners.map fun m => (m, c)) = miners.length * c := by
  induction miners with
  | nil => simp
  | cons m miners ih =>
    rw [List.map_cons, Tally.total_cons, ih, List.length_cons]
    push_cast
    ring

theorem amount_const (c : ℚ) (miner : Text) :
    Tally.amount (miners.map fun m => (m, c)) miner = if miner ∈ miners then c else 0 := by
  induction miners with
  | nil => rfl
  | cons m miners ih =>
    rw [List.map_cons, Tally.amount, ih]
    by_cases own : m = miner
    · simp [own]
    · simp [own, Ne.symm own]

/-- The floor pays every miner alike. -/
theorem tallies_floor (distinct : miners.Nodup) (nonnegative : 0 ≤ floor) :
    Tallies miners
      (miners.foldl (fun weights m => Tally.add weights m (floorShare miners floor))
        (miners.map fun m => (m, 0)))
      (fun miner => if miner ∈ miners then floor / miners.length else 0)
      (if miners = [] then 0 else floor) := by
  have start : Tallies miners (miners.map fun m => (m, (0 : ℚ))) (fun _ => 0) 0 :=
    ⟨map_fst_const 0, fun miner => (amount_const 0 miner).trans (ite_self 0),
      (total_const 0).trans (mul_zero _)⟩
  have paid := @Tallies.addAll miners _ (miners.map fun m => (m, floor / miners.length)) _ _
    start (by rwa [map_fst_const]) (by simp)
  rw [Tally.addAll, List.foldl_map] at paid
  rw [floorShare_eq nonnegative]
  refine ⟨paid.keys, fun miner => ?_, ?_⟩
  · rw [paid.amount, amount_const, zero_add]
  · rw [paid.total, total_const, zero_add]
    split
    · next empty => simp [empty]
    · next some =>
      have positive : (miners.length : ℚ) ≠ 0 := by simpa using some
      rw [mul_div_cancel₀ floor positive]

end Floor

section Lanes

variable {laneScores : LaneScores} {routing : Routing} {miners : List Text} {lane : Text × ℚ}
  {weights : List (Text × ℚ)} {amounts : Text → ℚ} {sum laneBudget workTotal denom : ℚ}

/-- Adding up the amounts that pass a test is the total of those that pass. -/
theorem foldl_add_eq (p : ℚ → Prop) [DecidablePred p] (rows : List (Text × ℚ)) (start : ℚ) :
    rows.foldl (fun total row => if p row.2 then total + row.2 else total) start =
      start + Tally.total (rows.filter fun row => p row.2) := by
  induction rows generalizing start with
  | nil => simp
  | cons row rows ih =>
    rw [List.foldl_cons, ih, List.filter_cons]
    by_cases passes : p row.2
    · simp [passes, add_assoc]
    · simp [passes]

theorem denominator_eq : denominator routing = Tally.total (positiveLanes routing) :=
  (foldl_add_eq (0 < ·) routing.rows 0).trans (zero_add _)

theorem totalScore_eq (rows : Scores) :
    totalScore rows = Tally.total (rows.rows.filter fun miner => 0 ≤ miner.2) :=
  (foldl_add_eq (0 ≤ ·) rows.rows 0).trans (zero_add _)

/-- The parts of a budget that the entries of a list earn. -/
def parts (laneBudget : ℚ) (entries : List (Text × ℚ)) (total : ℚ) : List (Text × ℚ) :=
  entries.map fun entry => (entry.1, laneBudget * (entry.2 / total))

/-- The parts of a budget sum to the budget. -/
theorem total_parts {entries : List (Text × ℚ)} (positive : 0 < Tally.total entries) :
    Tally.total (parts laneBudget entries (Tally.total entries)) = laneBudget := by
  have scaled : ∀ (es : List (Text × ℚ)) (total : ℚ),
      Tally.total (parts laneBudget es total) = laneBudget * (Tally.total es / total) := by
    intro es total
    induction es with
    | nil => simp [parts]
    | cons entry es ih =>
      rw [parts, List.map_cons, Tally.total_cons, Tally.total_cons, add_div, mul_add, ← ih]
      rfl
  rw [scaled, div_self positive.ne', mul_one]

/-- Paying the miners one by one adds the parts of those with a non-negative score. -/
theorem foldl_payMiner {total : ℚ} (budget : 0 ≤ laneBudget) (positive : 0 < total)
    (rows : List (Text × ℚ)) (weights : List (Text × ℚ)) :
    rows.foldl (payMiner laneBudget total) weights =
      Tally.addAll weights (parts laneBudget (rows.filter fun miner => 0 ≤ miner.2) total) := by
  induction rows generalizing weights with
  | nil => rfl
  | cons miner rows ih =>
    rw [List.foldl_cons, ih, payMiner, List.filter_cons]
    by_cases negative : miner.2 < 0
    · rw [if_pos negative, if_neg (by simpa using negative)]
    · have score : 0 ≤ miner.2 := not_lt.mp negative
      have earned : ¬ laneBudget * miner.2 / total < 0 :=
        not_lt.mpr (div_nonneg (mul_nonneg budget score) positive.le)
      rw [if_neg negative, if_neg earned, if_pos (by simpa using score), mul_div_assoc]
      rfl

/-- A lane pays the parts of its budget where its total is positive, and nothing
otherwise. -/
theorem payMiners_eq (budget : 0 ≤ laneBudget) (name : Text) :
    payMiners laneBudget weights (laneScores.find? name) =
      if 0 < laneTotal laneScores name then
        Tally.addAll weights
          (parts laneBudget (laneEntries laneScores name) (laneTotal laneScores name))
      else weights := by
  unfold laneTotal laneEntries
  cases laneScores.find? name with
  | none => simp [payMiners]
  | some row =>
    obtain ⟨_, rows⟩ := row
    simp only [payMiners, totalScore_eq]
    by_cases empty : rows.rows = []
    · simp [empty]
    · rw [if_neg empty]
      by_cases positive : 0 < Tally.total (rows.rows.filter fun miner => 0 ≤ miner.2)
      · rw [if_neg (not_le.mpr positive), if_pos positive, foldl_payMiner budget positive]
      · rw [if_pos (not_lt.mp positive), if_neg positive]

/-- The entries of a lane are of admitted miners, each listed once. -/
theorem laneEntries_admitted (name : Text) :
    ((laneEntries laneScores name).map Prod.fst).Nodup ∧
      ∀ entry ∈ laneEntries laneScores name, entry.1 ∈ admitted laneScores := by
  unfold laneEntries
  cases found : laneScores.find? name with
  | none => exact ⟨List.nodup_nil, fun _ none => by simp at none⟩
  | some row =>
    refine ⟨row.2.unique.sublist (List.filter_sublist.map Prod.fst), fun entry member => ?_⟩
    rw [admitted, List.mem_dedup, List.mem_flatMap]
    exact ⟨row, (Table.find?_eq_some.mp found).1,
      List.mem_map_of_mem (List.mem_filter.mp member).1⟩

/-- **Step.** A paying lane adds the parts of its budget, any other lane nothing. -/
theorem tallies_payLane (work : 0 ≤ workTotal) (positive : 0 < denom)
    (tallies : Tallies (admitted laneScores) weights amounts sum) :
    Tallies (admitted laneScores) (payLane laneScores workTotal denom weights lane)
      (fun miner => amounts miner +
        if 0 < lane.2 ∧ 0 < laneTotal laneScores lane.1 then
          workTotal * lane.2 / denom *
            (Tally.amount (laneEntries laneScores lane.1) miner / laneTotal laneScores lane.1)
        else 0)
      (sum + if 0 < lane.2 ∧ 0 < laneTotal laneScores lane.1 then workTotal * lane.2 / denom
        else 0) := by
  unfold payLane
  by_cases share : 0 < lane.2
  · have budget : 0 ≤ workTotal * lane.2 / denom :=
      div_nonneg (mul_nonneg work share.le) positive.le
    rw [if_neg (not_le.mpr share), if_neg (not_lt.mpr budget), payMiners_eq budget]
    by_cases pays : 0 < laneTotal laneScores lane.1
    · obtain ⟨distinct, listed⟩ := @laneEntries_admitted laneScores lane.1
      have paid := @Tallies.addAll _ _
        (parts (workTotal * lane.2 / denom) (laneEntries laneScores lane.1)
          (laneTotal laneScores lane.1))
        _ _ tallies (by rwa [parts, List.map_map]) (fun entry member => by
          obtain ⟨old, inside, rfl⟩ := List.mem_map.mp member
          exact listed old inside)
      rw [if_pos pays]
      simp only [share, pays, and_self, if_true]
      refine ⟨paid.keys, fun miner => ?_, ?_⟩
      · rw [paid.amount, parts, Tally.amount_map (g := fun score => _ * (score / _))
          (by rw [zero_div, mul_zero])]
      · rw [paid.total, laneTotal, total_parts pays]
    · rw [if_neg pays]
      simpa [pays] using tallies
  · rw [if_pos (not_lt.mp share)]
    simpa [share] using tallies

/-- **Run.** The lanes of a routing add up. -/
theorem tallies_foldl_payLane (work : 0 ≤ workTotal) (positive : 0 < denom)
    (lanes : List (Text × ℚ)) (tallies : Tallies (admitted laneScores) weights amounts sum) :
    Tallies (admitted laneScores)
      (lanes.foldl (payLane laneScores workTotal denom) weights)
      (fun miner => amounts miner +
        (((lanes.filter fun lane => 0 < lane.2).filter fun lane =>
          0 < laneTotal laneScores lane.1).map fun lane => workTotal * lane.2 / denom *
            (Tally.amount (laneEntries laneScores lane.1) miner /
              laneTotal laneScores lane.1)).sum)
      (sum + (((lanes.filter fun lane => 0 < lane.2).filter fun lane =>
          0 < laneTotal laneScores lane.1).map fun lane => workTotal * lane.2 / denom).sum) := by
  induction lanes generalizing weights amounts sum with
  | nil => simpa using tallies
  | cons lane lanes ih =>
    have rest := ih (@tallies_payLane _ lane _ _ _ _ _ work positive tallies)
    refine ⟨rest.keys, fun miner => (rest.amount miner).trans ?_, rest.total.trans ?_⟩
    all_goals
      by_cases share : 0 < lane.2
      · by_cases pays : 0 < laneTotal laneScores lane.1
        · simp [share, pays, add_assoc]
        · simp [share, pays]
      · simp [share]

end Lanes

/-! ## Conservation -/

section Conservation

variable {laneScores : LaneScores} {routing : Routing} {floor : ℚ}

theorem clampFloor_mem (floor : ℚ) : 0 ≤ clampFloor floor ∧ clampFloor floor ≤ 1 :=
  ⟨le_max_left _ _, max_le zero_le_one (min_le_left _ _)⟩

theorem mem_admitted {miner : Text} :
    miner ∈ admitted laneScores ↔
      ∃ lane ∈ laneScores.rows, miner ∈ lane.2.rows.map Prod.fst := by
  rw [admitted, List.mem_dedup, List.mem_flatMap]

theorem total_positiveLanes_pos (some : positiveLanes routing ≠ []) :
    0 < Tally.total (positiveLanes routing) := by
  refine List.sum_pos _ (fun share member => ?_) (by simpa using some)
  obtain ⟨lane, inside, rfl⟩ := List.mem_map.mp member
  exact of_decide_eq_true (List.mem_filter.mp inside).2

/-- Paying and burning lanes share the work. -/
theorem sum_paying_add_sum_burning (f : Text × ℚ → ℚ) :
    ((payingLanes laneScores routing).map f).sum + ((burningLanes laneScores routing).map f).sum =
      ((positiveLanes routing).map f).sum := by
  rw [payingLanes, burningLanes]
  induction positiveLanes routing with
  | nil => simp
  | cons lane lanes ih =>
    by_cases pays : 0 < laneTotal laneScores lane.1
    · simp [pays, ← ih, add_assoc]
    · rw [List.filter_cons_of_neg (by simpa using pays),
        List.filter_cons_of_pos (by simpa using pays), List.map_cons, List.sum_cons,
        List.map_cons, List.sum_cons, ← ih, add_left_comm]

/-- The normalized shares sum to one, where there is one. -/
theorem sum_normalizedShare (some : positiveLanes routing ≠ []) (work : ℚ) :
    ((positiveLanes routing).map fun lane => work * normalizedShare routing lane).sum = work := by
  rw [List.sum_map_mul_left]
  have shares : ((positiveLanes routing).map (normalizedShare routing)).sum =
      Tally.total (positiveLanes routing) / Tally.total (positiveLanes routing) := by
    rw [div_eq_mul_inv _ (Tally.total _), Tally.total, ← List.sum_map_mul_right]
    exact congrArg List.sum (List.map_congr_left fun lane _ => div_eq_mul_inv _ _)
  rw [shares, div_self (total_positiveLanes_pos some).ne', mul_one]

/-- The weights before the last check. -/
theorem tallies_payAll (unit : 0 ≤ floor ∧ floor ≤ 1) :
    Tallies (admitted laneScores) (payAll laneScores routing floor)
      (fun miner => (if miner ∈ admitted laneScores then
          floor / (admitted laneScores).length else 0) +
        ((payingLanes laneScores routing).map (laneWeight laneScores routing floor miner)).sum)
      ((if admitted laneScores = [] then 0 else floor) +
        ((payingLanes laneScores routing).map fun lane =>
          (1 - floor) * normalizedShare routing lane).sum) := by
  have floored := @tallies_floor (admitted laneScores) _ (List.nodup_dedup _) unit.1
  unfold payAll
  by_cases positive : 0 < denominator routing
  · have paid := tallies_foldl_payLane (sub_nonneg.mpr unit.2) positive routing.rows floored
    rw [if_pos positive]
    refine ⟨paid.keys, fun miner => (paid.amount miner).trans ?_, paid.total.trans ?_⟩
    · refine congrArg (_ + ·) (congrArg List.sum (List.map_congr_left fun lane _ => ?_))
      rw [laneWeight, normalizedShare, ← denominator_eq, mul_div_assoc (1 - floor)]
    · refine congrArg (_ + ·) (congrArg List.sum (List.map_congr_left fun lane _ => ?_))
      rw [normalizedShare, ← denominator_eq, mul_div_assoc (1 - floor)]
  · have none : payingLanes laneScores routing = [] := by
      rw [payingLanes]
      by_contra some
      refine positive (denominator_eq ▸ total_positiveLanes_pos fun empty => some ?_)
      rw [empty, List.filter_nil]
    rw [if_neg positive, none]
    simpa using floored

/-- Weights are not negative before the last check. -/
theorem payAll_nonneg (unit : 0 ≤ floor ∧ floor ≤ 1) {entry : Text × ℚ}
    (member : entry ∈ payAll laneScores routing floor) : 0 ≤ entry.2 := by
  have tallies := @tallies_payAll laneScores routing _ unit
  have distinct : ((payAll laneScores routing floor).map Prod.fst).Nodup :=
    tallies.keys ▸ List.nodup_dedup _
  rw [← Tally.amount_of_mem distinct member, tallies.amount]
  refine add_nonneg ?_ (List.sum_nonneg fun part listed => ?_)
  · split
    · exact div_nonneg unit.1 (Nat.cast_nonneg _)
    · exact le_rfl
  · obtain ⟨lane, pays, rfl⟩ := List.mem_map.mp listed
    obtain ⟨share, total⟩ := List.mem_filter.mp pays
    have shares : 0 ≤ normalizedShare routing lane :=
      div_nonneg (le_of_lt (of_decide_eq_true (List.mem_filter.mp share).2))
        (total_positiveLanes_pos (List.ne_nil_of_mem share)).le
    have score : 0 ≤ Tally.amount (laneEntries laneScores lane.1) entry.1 := by
      refine Tally.amount_induction le_rfl (fun row inside => ?_) _
      unfold laneEntries at inside
      cases found : laneScores.find? lane.1 with
      | none => simp [found] at inside
      | some lane' =>
        rw [found] at inside
        exact of_decide_eq_true (List.mem_filter.mp inside).2
    exact mul_nonneg (mul_nonneg (sub_nonneg.mpr unit.2) shares)
      (div_nonneg score (of_decide_eq_true total).le)

/-- The last check of each weight changes none. -/
theorem applyRouting_fst (laneScores : LaneScores) (routing : Routing) (floor : ℚ) :
    (applyRouting laneScores routing floor).1 =
      payAll laneScores routing (clampFloor floor) := by
  refine (List.map_congr_left fun entry member => ?_).trans (List.map_id _)
  exact if_neg (not_lt.mpr (payAll_nonneg (clampFloor_mem floor) member))

/-- What no miner of a floor and no lane of the work takes. -/
def leftOver (laneScores : LaneScores) (routing : Routing) (floor : ℚ) : ℚ :=
  (if admitted laneScores = [] then floor else 0) +
    (if positiveLanes routing = [] then 1 - floor else 0) +
    ((burningLanes laneScores routing).map fun lane =>
      (1 - floor) * normalizedShare routing lane).sum

theorem leftOver_nonneg (unit : 0 ≤ floor ∧ floor ≤ 1) :
    0 ≤ leftOver laneScores routing floor := by
  have work : 0 ≤ 1 - floor := sub_nonneg.mpr unit.2
  refine add_nonneg (add_nonneg ?_ ?_) (List.sum_nonneg fun budget listed => ?_)
  · split
    · exact unit.1
    · exact le_rfl
  · split
    · exact work
    · exact le_rfl
  · obtain ⟨lane, burns, rfl⟩ := List.mem_map.mp listed
    obtain ⟨share, _⟩ := List.mem_filter.mp burns
    exact mul_nonneg work
      (div_nonneg (le_of_lt (of_decide_eq_true (List.mem_filter.mp share).2))
        (total_positiveLanes_pos (List.ne_nil_of_mem share)).le)

/-- What is paid and what is left over make the unit. -/
theorem total_add_leftOver (unit : 0 ≤ floor ∧ floor ≤ 1) :
    Tally.total (payAll laneScores routing floor) + leftOver laneScores routing floor = 1 := by
  have lanes : ((payingLanes laneScores routing).map fun lane =>
        (1 - floor) * normalizedShare routing lane).sum +
      ((if positiveLanes routing = [] then 1 - floor else 0) +
        ((burningLanes laneScores routing).map fun lane =>
          (1 - floor) * normalizedShare routing lane).sum) = 1 - floor := by
    rw [add_left_comm, sum_paying_add_sum_burning]
    by_cases none : positiveLanes routing = []
    · simp [none]
    · rw [if_neg none, zero_add, sum_normalizedShare none]
  have floors : (if admitted laneScores = [] then 0 else floor) +
      (if admitted laneScores = [] then floor else 0) = floor := by
    split <;> simp
  rw [(tallies_payAll unit).total, leftOver]
  linarith

/-- **Conservation.** The weights are those of the clamped floor, nobody's weight is
negative, and weights and burn make the unit. -/
theorem routing_conserves (laneScores : LaneScores) (routing : Routing) (floor : ℚ) :
    RoutesBy laneScores routing (clampFloor floor) (applyRouting laneScores routing floor) := by
  have unit := clampFloor_mem floor
  have tallies := @tallies_payAll laneScores routing _ unit
  have distinct : ((payAll laneScores routing (clampFloor floor)).map Prod.fst).Nodup :=
    tallies.keys ▸ List.nodup_dedup _
  have first := applyRouting_fst laneScores routing floor
  have whole := @total_add_leftOver laneScores routing _ unit
  have burn : (applyRouting laneScores routing floor).2 =
      leftOver laneScores routing (clampFloor floor) := by
    have left : 1 - Tally.total (applyRouting laneScores routing floor).1 =
        leftOver laneScores routing (clampFloor floor) := by rw [first]; linarith
    refine Eq.trans (if_neg (not_lt.mpr ?_)) left
    exact left ▸ leftOver_nonneg unit
  have length : (applyRouting laneScores routing floor).1.length =
      (admitted laneScores).length := by rw [first, ← tallies.keys, List.length_map]
  refine ⟨first ▸ distinct, fun miner => ?_, fun entry member => ?_, ?_,
    fun entry member => ?_, ?_⟩
  · rw [first, tallies.keys, mem_admitted]
  · exact payAll_nonneg unit (first ▸ member)
  · rw [first, burn, whole]
  · rw [first] at member
    have listed : entry.1 ∈ admitted laneScores := tallies.keys ▸ List.mem_map_of_mem member
    rw [← Tally.amount_of_mem distinct member, tallies.amount, if_pos listed, length]
  · have empty : (applyRouting laneScores routing floor).1 = [] ↔ admitted laneScores = [] := by
      rw [← List.length_eq_zero_iff, length, List.length_eq_zero_iff]
    simp only [burn, leftOver, empty]

/-- One miner in one lane, which the routing does not know. -/
def sampleScores : LaneScores := ⟨[([], ⟨[([0x6d], 1)], by decide⟩)], by decide⟩

/-- A floor of two pays a single miner one unit. -/
theorem not_routesBy_unclamped :
    ¬ ∀ (laneScores : LaneScores) (routing : Routing) (floor : ℚ),
      RoutesBy laneScores routing floor (applyRouting laneScores routing floor) := by
  intro claimed
  have routes := claimed sampleScores Table.empty 2
  have paid : (applyRouting sampleScores Table.empty 2).1 = [([0x6d], 1)] := by decide +kernel
  have weight := routes.weights ([0x6d], 1) (paid ▸ List.mem_singleton_self _)
  rw [paid] at weight
  have lanes : payingLanes sampleScores Table.empty = [] := rfl
  rw [lanes] at weight
  norm_num at weight

end Conservation

end Cathedral.Economics
