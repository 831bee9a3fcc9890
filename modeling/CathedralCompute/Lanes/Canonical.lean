import CathedralCompute.Lanes.Credits
import CathedralCompute.Lanes.Dpll
import CathedralCompute.Semantics.Draws
import Mathlib.Data.List.GetD

/-!
# Canonical instances

The lane derives an instance from a seed when no customer job is queued. The
generator plants an assignment and draws clauses that each have a literal true
under it, so that every canonical instance is valid and has a solution, whatever
the random source draws.

## Main results

* `always_sample` — a sample has distinct members of its pool.
* `canonicalInstance_sound` — the instance has 20 clauses of three literals over
  eight variables, and the planted assignment satisfies them.
* `PlantedInstance.solved` — the solver finds an assignment for it.
* `IsDerived.valid` — a derived item passes every check of a work item.
-/

set_option autoImplicit false

namespace Cathedral

open Codec Semantics

/-! ## Drawing -/

namespace RandomSource

variable (r : RandomSource)

theorem always_choice {α : Type} [Inhabited α] {options : List α} (some_ : options ≠ []) :
    Always (r.choice options) (· ∈ options) := by
  refine always_bind (P := (· < options.length)) (fun s => ?_) fun index small => ?_
  · exact r.below _ s (List.length_pos_of_ne_nil some_)
  · refine always_pure ?_
    rw [List.getD_eq_getElem _ _ small]
    exact List.getElem_mem small

/-- Writing the last element over the one drawn takes the drawn one out. -/
theorem dropLast_set_perm {pool : List ℤ} {index : ℕ} (small : index < pool.length) :
    ((pool.set index (pool.getLastD 0)).dropLast).Perm (pool.eraseIdx index) := by
  obtain rfl | ⟨init, last, rfl⟩ := List.eq_nil_or_concat' pool
  · exact absurd small (Nat.not_lt_zero _)
  · have final : (init ++ [last]).getLastD 0 = last := by simp
    rw [final]
    rcases Nat.lt_or_ge index init.length with inner | outer
    · rw [List.set_append_left _ _ inner, List.dropLast_concat,
        List.eraseIdx_append_of_lt_length inner, List.set_eq_take_append_cons_drop, if_pos inner,
        List.eraseIdx_eq_take_drop_succ]
      rw [List.append_assoc]
      exact (@List.perm_append_comm _ [last] _).append_left _
    · rw [List.set_append_right _ _ outer, List.eraseIdx_append_of_length_le outer]
      have zero : index - init.length = 0 := by
        rw [List.length_append, List.length_singleton] at small
        omega
      simp [zero]

/-- The values are as many as asked for, distinct, and members of the pool. -/
def Samples (count : ℕ) (pool drawn : List ℤ) : Prop :=
  drawn.length = count ∧ drawn.Nodup ∧ ∀ v ∈ drawn, v ∈ pool

theorem always_sample {count : ℕ} {pool : List ℤ} (distinct : pool.Nodup)
    (enough : count ≤ pool.length) : Always (r.sample count pool) (Samples count pool) := by
  induction count generalizing pool with
  | zero => exact always_pure ⟨rfl, .nil, List.forall_mem_nil _⟩
  | succ count ih =>
    have below : Always (r.randbelow pool.length) (· < pool.length) := fun s =>
      r.below _ s (by omega)
    refine always_bind below fun index small => ?_
    have left := dropLast_set_perm small
    have split := List.getElem_cons_eraseIdx_perm small
    obtain ⟨absent, distinct'⟩ := List.nodup_cons.mp (split.nodup_iff.mpr distinct)
    have length : (pool.set index (pool.getLastD 0)).dropLast.length = pool.length - 1 := by simp
    refine always_bind (ih (left.nodup_iff.mpr distinct') (by omega)) fun rest drawn => ?_
    obtain ⟨count', different, members⟩ := drawn
    have erased : ∀ v ∈ rest, v ∈ pool.eraseIdx index := fun v listed =>
      left.mem_iff.mp (members v listed)
    refine always_pure ?_
    rw [List.getD_eq_getElem _ _ small]
    refine ⟨by rw [List.length_cons, count'],
      List.nodup_cons.mpr ⟨fun listed => absent (erased _ listed), different⟩, ?_⟩
    exact List.forall_mem_cons.mpr
      ⟨List.getElem_mem small, fun v listed => List.mem_of_mem_eraseIdx (erased v listed)⟩

end RandomSource

/-! ## The planted assignment -/

namespace Sat

/-- The value planted for each variable. -/
def plantedValue (planted : List Bool) (v : ℤ) : Bool := planted.getD (v.toNat - 1) true

section Clauses

variable (r : RandomSource) {planted : List Bool} {trueVar v : ℤ}

theorem abs_signed (positive : 1 ≤ v) (sign : Bool) : |if sign then v else -v| = v := by
  cases sign
  · rw [if_neg Bool.false_ne_true, abs_neg, abs_of_pos (by omega)]
  · rw [if_pos rfl, abs_of_pos (by omega)]

theorem makes_signed {valuation : ℤ → Bool} (positive : 1 ≤ v) :
    Makes valuation (if valuation v then v else -v) := by
  rw [Makes, abs_signed positive]
  cases sign : valuation v
  · exact (decide_eq_false (by rw [if_neg Bool.false_ne_true]; omega)).symm
  · exact (decide_eq_true (by rw [if_pos rfl]; omega)).symm

theorem always_canonicalLiteral (positive : 1 ≤ v) :
    Always (canonicalLiteral r planted trueVar v)
      fun literal => |literal| = v ∧ (v = trueVar → Makes (plantedValue planted) literal) := by
  unfold canonicalLiteral
  split
  case isTrue chosen =>
    refine always_bind (always_pure (P := (· = plantedValue planted v)) rfl) fun sign same => ?_
    subst same
    exact always_pure ⟨abs_signed positive _, fun _ => makes_signed positive⟩
  case isFalse other =>
    refine always_bind (P := fun _ => True) (fun _ => trivial) fun sign _ => ?_
    exact always_pure ⟨abs_signed positive sign, fun same => absurd same other⟩

/-- Three literals over the eight variables, one of them true. -/
structure PlantedClause (planted : List Bool) (clause : List ℤ) : Prop where
  length : clause.length = 3
  distinct : (clause.map fun literal => |literal|).Nodup
  ranged : ∀ literal ∈ clause, 1 ≤ |literal| ∧ |literal| ≤ 8
  satisfied : ∃ literal ∈ clause, Makes (plantedValue planted) literal

theorem always_canonicalClause :
    Always (canonicalClause r planted) (PlantedClause planted) := by
  refine always_bind (r.always_sample (by decide) (by decide)) fun vars sampled => ?_
  obtain ⟨length, distinct, members⟩ := sampled
  have some_ : vars ≠ [] := by
    rintro rfl
    exact absurd length (by decide)
  have ranged : ∀ v ∈ vars, 1 ≤ v ∧ v ≤ 8 := by
    intro v listed
    have : v ∈ [1, 2, 3, 4, 5, 6, 7, 8] := members v listed
    simp only [List.mem_cons, List.not_mem_nil, or_false] at this
    omega
  refine always_bind (r.always_choice some_) fun trueVar chosen => ?_
  refine Always.mono (always_mapM (R := fun v literal => |literal| = v ∧
    (v = trueVar → Makes (plantedValue planted) literal)) fun v listed =>
      always_canonicalLiteral r (ranged v listed).1) ?_
  intro clause drawn
  have names : clause.map (fun literal => |literal|) = vars := by
    refine (List.forall₂_eq_eq_eq ▸ List.forall₂_map_left_iff.mpr ?_ :)
    exact (drawn.imp fun v literal facts => facts.1).flip
  refine ⟨by rw [← length, ← names, List.length_map], names ▸ distinct, ?_, ?_⟩
  · intro literal listed
    exact ranged _ (names ▸ List.mem_map_of_mem listed)
  · obtain ⟨literal, listed, -, made⟩ := exists_of_forall₂ drawn chosen
    exact ⟨literal, listed, made rfl⟩

end Clauses

/-- The planted values are a model of the clauses, which are 20 of three literals over
the eight variables. -/
structure PlantedInstance (planted : List Bool) (satInstance : SatInstance) : Prop where
  nVars : satInstance.nVars = 8
  length : satInstance.clauses.length = 20
  clauses : ∀ clause ∈ satInstance.clauses, PlantedClause planted clause

/-- **The generator.** Every canonical instance comes with a planted model. -/
theorem canonicalInstance_sound (r : RandomSource) (seed : ℤ) :
    ∃ planted, PlantedInstance planted (canonicalInstance r seed) := by
  have drawn (planted : List Bool) :
      Always ((List.range 20).mapM fun _ => canonicalClause r planted)
        fun clauses => clauses.length = 20 ∧ ∀ clause ∈ clauses, PlantedClause planted clause := by
    refine (always_mapM fun _ _ => always_canonicalClause r).mono fun clauses related => ?_
    refine ⟨by rw [← related.length_eq, List.length_range], fun clause listed => ?_⟩
    obtain ⟨_, -, planted_⟩ := exists_of_forall₂ related.flip listed
    exact planted_
  have all : Always (do
      let planted ← (List.range 8).mapM fun _ => r.choice [true, false]
      let clauses ← (List.range 20).mapM fun _ => canonicalClause r planted
      return (⟨8, clauses⟩ : SatInstance)) fun satInstance =>
        ∃ planted, PlantedInstance planted satInstance := by
    refine always_bind (P := fun _ => True) (fun _ => trivial) fun planted _ => ?_
    refine always_bind (drawn planted) fun clauses facts => ?_
    exact always_pure ⟨planted, rfl, facts.1, facts.2⟩
  exact all (r.seeded seed)

/-! ## Validation -/

section Validation

variable {p : Platform} {planted : List Bool} {satInstance : SatInstance}

/-- Clauses of three literals each pass the loop, up to the limit on literals. -/
theorem validateClauses_planted {count : ℕ} {clauses : List (List ℤ)}
    (sound : ∀ clause ∈ clauses, PlantedClause planted clause)
    (few : count + 3 * clauses.length ≤ maxLiterals) :
    validateClauses 8 count clauses = .ok () := by
  induction clauses generalizing count with
  | nil => rfl
  | cons clause clauses ih =>
    obtain ⟨first, others⟩ := List.forall_mem_cons.mp sound
    have length := first.length
    rw [List.length_cons] at few
    simp only [validateClauses, bind_eq_ok, require_eq_ok]
    refine ⟨(), by rw [length]; decide, (), by omega, (), fun literal listed => ?_,
      ih others (by omega)⟩
    have range := first.ranged literal listed
    exact ⟨abs_pos.mp (by omega), range.2⟩

theorem PlantedInstance.valid (sound : PlantedInstance planted satInstance) :
    validateSatInstance satInstance = .ok () := by
  have length := sound.length
  simp only [validateSatInstance, bind_eq_ok, require_eq_ok, sound.nVars]
  refine ⟨(), by decide, (), ⟨?_, by rw [length]; decide⟩,
    validateClauses_planted sound.clauses (by rw [length]; decide)⟩
  rintro none_
  rw [none_] at length
  cases length

/-- **Satisfiable.** The solver finds an assignment of a canonical instance, within any
bound above its number of variables. -/
theorem PlantedInstance.solved (sound : PlantedInstance planted satInstance) :
    ∃ assignment : List ℤ,
      (∀ fuel : ℕ, 8 < fuel → solveSat fuel satInstance = some (some assignment)) ∧
      assignment.map (fun literal => |literal|) = [1, 2, 3, 4, 5, 6, 7, 8] ∧
      ∀ clause ∈ satInstance.clauses, ∃ literal ∈ clause, literal ∈ assignment := by
  obtain ⟨answer, ends, some_, none_⟩ := solve_sat_correct sound.valid
  rw [sound.nVars] at ends some_
  cases answer with
  | none =>
    exact absurd (fun clause among => (sound.clauses clause among).satisfied)
      (none_ rfl (plantedValue planted))
  | some assignment =>
    obtain ⟨names, satisfies⟩ := some_ assignment rfl
    exact ⟨assignment, fun fuel deep => ends fuel (by omega), names, satisfies⟩

/-- An array of short items is short. -/
theorem length_render_arr_le {style : Style} (commas : style.itemSeparator = [0x2c])
    {items : List Json} {bound : ℕ} (short : ∀ item ∈ items, (item.render style).length ≤ bound) :
    ((Json.arr items).render style).length ≤ items.length * (bound + 1) + 2 := by
  have rest : ∀ items : List Json, (∀ item ∈ items, (item.render style).length ≤ bound) →
      (Json.renderItems style items).length ≤ items.length * (bound + 1) := by
    intro items short
    induction items with
    | nil => simp [Json.renderItems]
    | cons item items ih =>
      obtain ⟨first, others⟩ := List.forall_mem_cons.mp short
      have tail := ih others
      simp only [Json.renderItems, commas, List.length_append, List.length_nil, List.length_cons,
        Nat.add_mul]
      omega
  cases items with
  | nil => simp [Json.render]
  | cons item items =>
    obtain ⟨first, others⟩ := List.forall_mem_cons.mp short
    have tail := rest items others
    simp only [Json.render, List.length_append, List.length_nil, List.length_cons, Nat.add_mul]
    omega

theorem length_intText_le_five {z : ℤ} (small : |z| ≤ 8) : (intText z).length ≤ 5 := by
  have digits : (natText z.natAbs).length ≤ 4 := by
    rw [Int.abs_eq_natAbs] at small
    exact length_natText_le_of_lt (by omega) (by decide)
  unfold intText
  split
  · rw [List.length_append]
    exact Nat.add_le_add (le_refl 1) digits
  · omega

theorem PlantedInstance.length_clauses_le (sound : PlantedInstance planted satInstance)
    {style : Style} (commas : style.itemSeparator = [0x2c]) :
    ((clausesJson satInstance.clauses).render style).length ≤ 422 := by
  have short : ∀ item ∈ satInstance.clauses.map fun c => Json.arr (c.map .int),
      (item.render style).length ≤ 20 := by
    intro item listed
    obtain ⟨clause, among, rfl⟩ := List.mem_map.mp listed
    have facts := sound.clauses clause among
    have texts : ∀ z ∈ clause, (intText z).length ≤ 5 := fun z among =>
      length_intText_le_five (facts.ranged z among).2
    have bound := length_render_ints_le commas texts
    rwa [facts.length] at bound
  have bound := length_render_arr_le commas short
  rwa [List.length_map, sound.length] at bound

/-- A derived seed is a nonnegative number of 63 bits. -/
theorem range_of_deriveCanonicalSeed {laneNamespace : Text} {counter : ℕ} {seed : ℤ}
    (derived : deriveCanonicalSeed laneNamespace counter = some seed) :
    0 ≤ seed ∧ seed < 2 ^ 63 := by
  obtain ⟨key, -, rfl⟩ := Option.map_eq_some_iff.mp derived
  have small := Nat.mod_lt (((hmacSha256 key (natText counter).ascii).take 8).foldl
    (fun value octet => value * 256 + octet.toNat) 0) (by decide : 0 < 2 ^ 63)
  exact ⟨Int.natCast_nonneg _, by exact_mod_cast small⟩

theorem length_seed_le {seed : ℤ} (range : 0 ≤ seed ∧ seed < 2 ^ 63) :
    (intText seed).length ≤ 63 := by
  unfold intText
  rw [if_neg (not_lt.mpr range.1)]
  exact length_natText_le_of_lt (by omega) (by decide)

theorem PlantedInstance.length_request_le (sound : PlantedInstance planted satInstance)
    {seed : ℤ} (range : 0 ≤ seed ∧ seed < 2 ^ 63) {challengeId : Text}
    (hex : challengeId.isHex 64 = true) :
    ((requestDocument ⟨satInstance, seed, challengeId⟩).sortKeys.render (compactStyle p)).length ≤
      maxCustomerWorkBytes := by
  have commas : (compactStyle p).itemSeparator = [0x2c] := rfl
  have clauses := sound.length_clauses_le commas
  have seed := length_seed_le range
  have challenge := length_quoted_le challengeId
  have hotkey := length_quoted_le (List.replicate 256 0x78)
  have nVars : (intText satInstance.nVars).length ≤ 5 :=
    length_intText_le_five (by rw [sound.nVars]; decide)
  have keys : (quoted (Text.ofString "assigned_hotkey")).length +
      (quoted (Text.ofString "challenge_id")).length + (quoted (Text.ofString "instance")).length +
      (quoted (Text.ofString "clauses")).length + (quoted (Text.ofString "n_vars")).length +
      (quoted (Text.ofString "seed")).length ≤ 100 := by decide +kernel
  rw [Text.isHex, Bool.and_eq_true, beq_iff_eq] at hex
  rw [List.length_replicate] at hotkey
  rw [hex.1] at challenge
  rw [sortKeys_requestDocument]
  simp only [Json.render, Json.renderMembers, List.length_append, List.length_cons,
    List.length_nil] at clauses ⊢
  simp only [compactStyle, List.length_cons, List.length_nil] at clauses ⊢
  unfold maxCustomerWorkBytes
  omega

/-- What a lane derives: the canonical instance of a nonnegative seed, with their
hash. -/
structure IsDerived (p : Platform) (r : RandomSource) (item : SatWorkItem) : Prop where
  satInstance : item.satInstance = canonicalInstance r item.seed
  seed : 0 ≤ item.seed ∧ item.seed < 2 ^ 63
  challengeId : item.challengeId = computeChallengeId p item.satInstance item.seed

variable {r : RandomSource} {item : SatWorkItem}

theorem IsDerived.hex (derived : IsDerived p r item) : item.challengeId.isHex 64 = true :=
  derived.challengeId ▸ isHex_hexdigest _

theorem IsDerived.sound (derived : IsDerived p r item) :
    ∃ planted, PlantedInstance planted item.satInstance := by
  rw [derived.satInstance]
  exact canonicalInstance_sound r item.seed

theorem IsDerived.seed_range (derived : IsDerived p r item) :
    minSeed ≤ item.seed ∧ item.seed ≤ maxSeed :=
  ⟨(show minSeed ≤ 0 by decide).trans derived.seed.1, Int.le_sub_one_of_lt derived.seed.2⟩

/-- **Derived work is valid.** It passes every check of a work item. -/
theorem IsDerived.valid (derived : IsDerived p r item) : validateSatWorkItem p item = .ok () := by
  obtain ⟨planted, sound⟩ := derived.sound
  simp only [validateSatWorkItem, bind_eq_ok, require_eq_ok]
  exact ⟨(), derived.hex, (), derived.seed_range, (), sound.valid, (), derived.challengeId.symm,
    sound.length_request_le derived.seed derived.hex⟩

/-- A lane without customer jobs hands out derived work. -/
theorem isDerived_of_dispatch {lane lane' : SatLane} {miner : Text} (empty : lane.queue = [])
    (dispatched : lane.dispatch p r miner = .ok (item, lane')) : IsDerived p r item := by
  obtain ⟨next, -⟩ := SatLane.dispatch_cases dispatched
  unfold SatLane.pending at next
  rw [empty] at next
  obtain ⟨seed, derived, same⟩ := Option.map_eq_some_iff.mp next
  have sameSeed : item.seed = seed := by rw [← same]
  have canonical : item.satInstance = canonicalInstance r seed := by rw [← same]
  have hashed : item.challengeId = computeChallengeId p (canonicalInstance r seed) seed := by
    rw [← same]
  have range := range_of_deriveCanonicalSeed derived
  rw [← canonical] at hashed
  rw [← sameSeed] at canonical hashed range
  exact ⟨canonical, range, hashed⟩

theorem exists_dispatch {lane : SatLane} {miner : Text} {seed : ℤ} (empty : lane.queue = [])
    (derived : deriveCanonicalSeed lane.laneNamespace lane.seedCounter = some seed) :
    ∃ item lane', lane.dispatch p r miner = .ok (item, lane') := by
  unfold SatLane.dispatch
  rw [empty]
  dsimp only
  rw [derived]
  exact ⟨_, _, rfl⟩

end Validation

end Sat

end Cathedral
