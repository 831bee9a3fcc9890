import CathedralCompute.Remote.Worker

/-!
# Honest work

The lane derives an item and hands it to a miner, the validator sends it to the
miner's worker, the worker solves it, and the lane checks and credits the
answer. The modules before treat the parts; here they are put together.

## Main definitions

* `LaneOp.KeepsHolder` — a call that hands a challenge to nobody else.
* `SatLane.Holds` — the lane has issued a challenge, to this miner.

## Main results

* `honest_worker_is_paid` — a worker that solves what it is sent is paid for it.
-/

set_option autoImplicit false

namespace Cathedral

open Codec Semantics Cathedral.Sat Cathedral.Remote

/-! ## The challenge stays with its miner -/

section Holding

variable {p : Platform} {r : RandomSource} {lane : SatLane} {miner c : Text}

/-- No dispatch hands the challenge to another hotkey. -/
def LaneOp.KeepsHolder (p : Platform) (r : RandomSource) (miner c : Text) (lane : SatLane) :
    LaneOp → Prop
  | dispatch other => ∀ item ∈ lane.pending p r, item.challengeId = c → other = miner
  | _ => True

/-- The challenge was issued, last to this miner. -/
structure SatLane.Holds (miner c : Text) (lane : SatLane) : Prop where
  issued : c ∈ lane.issuedIds
  owner : lane.challengeOwner.lookup c = some miner

theorem holds_dispatch {item : SatWorkItem} {lane' : SatLane}
    (dispatched : lane.dispatch p r miner = .ok (item, lane')) :
    lane'.Holds miner item.challengeId := by
  obtain ⟨-, issued, owner, -⟩ := SatLane.dispatch_cases dispatched
  exact ⟨by simp [issued], by simp [owner]⟩

theorem holds_step {op : LaneOp} (keeps : op.KeepsHolder p r miner c lane)
    (holds : lane.Holds miner c) : (op.step p r lane).Holds miner c := by
  obtain ⟨issued, owners, -⟩ | ⟨other, item, rfl, next, -, issued, owners, -⟩ |
    ⟨_, _, _, -, -, -, -, -, new⟩ := step_cases p r lane op
  · exact ⟨issued ▸ holds.issued, owners ▸ holds.owner⟩
  · refine ⟨issued ▸ List.mem_cons_of_mem _ holds.issued, ?_⟩
    rw [owners]
    by_cases same : c = item.challengeId
    · rw [← keeps item next same.symm, same]
      simp
    · exact (lookup_cons_of_ne same).trans holds.owner
  · rw [new]
    exact ⟨holds.issued, holds.owner⟩

theorem holds_run {ops : List LaneOp}
    (keeps : Along (LaneOp.step p r) (LaneOp.KeepsHolder p r miner c) lane ops)
    (holds : lane.Holds miner c) : (runLane p r lane ops).Holds miner c :=
  invariant_along (fun _ _ holds keeps => holds_step keeps holds) holds keeps

theorem credit_run {ops : List LaneOp} {units : ℚ}
    (credited : lane.verifiedCredits.lookup c = some units) :
    (runLane p r lane ops).verifiedCredits.lookup c = some units := by
  have preserved : ∀ (lane : SatLane) (op : LaneOp), lane.verifiedCredits.lookup c = some units →
      (op.step p r lane).verifiedCredits.lookup c = some units :=
    fun _ _ credited => credit_step credited
  exact invariant_run preserved credited ops

/-- What a listed challenge adds is counted once in a score. -/
theorem score_of_listed {certificates : List SatCertificate}
    (listed : c ∈ certificates.map SatCertificate.challengeId) :
    lane.score miner certificates = lane.contribution miner c +
      lane.score miner (certificates.filter fun certificate => certificate.challengeId ≠ c) := by
  have others : ((certificates.filter fun certificate => certificate.challengeId ≠ c).map
      SatCertificate.challengeId).toFinset =
      (certificates.map SatCertificate.challengeId).toFinset.erase c := by
    ext c'
    simp only [List.mem_toFinset, List.mem_map, List.mem_filter, Finset.mem_erase,
      decide_eq_true_eq]
    constructor
    · rintro ⟨certificate, ⟨among, different⟩, rfl⟩
      exact ⟨different, certificate, among, rfl⟩
    · rintro ⟨different, certificate, among, rfl⟩
      exact ⟨certificate, ⟨among, different⟩, rfl⟩
  rw [SatLane.score_eq_sum, SatLane.score_eq_sum, others,
    Finset.add_sum_erase _ _ (List.mem_toFinset.mpr listed)]

/-- A verified challenge of a holder is worth its credit in every later score. -/
theorem score_of_credited {later : List LaneOp} {certificates : List SatCertificate} {units : ℚ}
    (holds : lane.Holds miner c) (credited : lane.verifiedCredits.lookup c = some units)
    (keeps : Along (LaneOp.step p r) (LaneOp.KeepsHolder p r miner c) lane later)
    (listed : c ∈ certificates.map SatCertificate.challengeId) :
    (runLane p r lane later).score miner certificates =
      units + (runLane p r lane later).score miner
        (certificates.filter fun certificate => certificate.challengeId ≠ c) := by
  have counted : (runLane p r lane later).contribution miner c = units := by
    rw [SatLane.contribution, if_pos (holds_run keeps holds).owner, credit_run credited]
    rfl
  rw [score_of_listed listed, counted]

end Holding

/-! ## The answer is paid -/

section Paying

variable {p : Platform} {r : RandomSource} {lane : SatLane} {miner : RemoteMiner}
  {item : SatWorkItem} {literals : List ℤ}

/-- Literals that name the variables in order and satisfy the clauses are a solution. -/
theorem solves_of_names (derived : IsDerived p r item)
    (names : literals.map (fun literal => |literal|) = [1, 2, 3, 4, 5, 6, 7, 8])
    (satisfies : ∀ clause ∈ item.satInstance.clauses, ∃ literal ∈ clause, literal ∈ literals) :
    SatLane.witnesses item.satInstance literals = true ∧ Solves literals item.satInstance := by
  obtain ⟨planted, sound⟩ := derived.sound
  have length : (literals.length : ℤ) = item.satInstance.nVars := by
    rw [sound.nVars, ← List.length_map (fun literal : ℤ => |literal|), names]
    rfl
  have named : namesVariables item.satInstance.nVars literals := by
    rw [sound.nVars]
    refine ⟨fun z listed => ?_, fun v small => ?_⟩
    · have among : |z| ∈ [1, 2, 3, 4, 5, 6, 7, 8] := names ▸ List.mem_map_of_mem listed
      simp only [List.mem_cons, List.not_mem_nil, or_false] at among
      omega
    · have among : (v : ℤ) + 1 ∈ literals.map fun literal => |literal| := by
        rw [List.mem_range] at small
        change v < 8 at small
        rw [names]
        simp only [List.mem_cons, List.not_mem_nil, or_false]
        omega
      exact List.mem_map.mp among
  have satisfied : satisfiesClauses item.satInstance.clauses literals = true := by
    simpa [satisfiesClauses] using satisfies
  refine ⟨?_, solves_of_checks length named satisfies⟩
  simp only [SatLane.witnesses, Bool.decide_and, Bool.decide_eq_true, Bool.and_eq_true,
    decide_eq_true_eq]
  exact ⟨length, named, satisfied⟩

/-- The lane accepts the answer of the miner that holds the challenge. -/
theorem verify_solution (derived : IsDerived p r item)
    (holds : lane.Holds miner.hotkey item.challengeId)
    (unpaid : lane.verifiedCredits.lookup item.challengeId = none)
    (witnessed : SatLane.witnesses item.satInstance literals = true) :
    lane.verify r item (certificateOf miner item literals) =
      some (certificateOf miner item literals, { lane with verifiedCredits :=
        (item.challengeId, (item.satInstance.clauses.length : ℚ)) :: lane.verifiedCredits }) := by
  have units : derivedWorkUnits r item = item.satInstance.clauses.length :=
    if_pos derived.satInstance
  have accounted : lane.accounted item (certificateOf miner item literals) = true := by
    simp only [SatLane.accounted, certificateOf, decide_eq_true_eq]
    exact ⟨trivial, holds.issued, by rw [unpaid]; rfl, miner.nonempty, holds.owner⟩
  unfold SatLane.verify
  dsimp only
  rw [units, if_pos ⟨accounted, Nat.cast_nonneg _, rfl, witnessed⟩]
  rfl

end Paying

/-- **Honest work is paid.** Whatever a lane derives for a miner is valid, and the
worker of that miner, if its limit admits the request, answers with a solution. If
the limits of both sides admit the answer, the validator makes a certificate of
it; while the challenge is neither credited nor handed to another miner the lane
accepts the certificate, and every later score of the miner that lists it counts
the clauses once. Request and answer have at most 8192 octets. -/
theorem honest_worker_is_paid (p : Platform) (r : RandomSource) (whole : p.WritesWhole)
    (lane lane₁ : SatLane) (miner : RemoteMiner) (worker : Worker) (item : SatWorkItem)
    (canonical : lane.queue = [])
    (dispatched : lane.dispatch p r miner.hotkey = .ok (item, lane₁))
    (identity : worker.configuredHotkey = miner.hotkey) (unpaired : miner.hotkey.Unpaired)
    (bodies : (workRequest p miner item).length ≤ worker.maxBody) :
    validateSatWorkItem p item = .ok () ∧ (workRequest p miner item).length ≤ 8192 ∧
    ∃ literals, Solves literals item.satInstance ∧
      let body := Worker.jsonBody p
        (worker.solution ⟨item.satInstance, item.challengeId, true⟩ (some literals))
      let certificate := certificateOf miner item literals
      body.length ≤ 8192 ∧
      (body.length ≤ min worker.maxResponseBody (min miner.maxResponseBody maxSatResponseBody) →
        (∀ fuel : ℕ, 8 < fuel → ∃ reply,
          worker.doPost p r fuel (workRequest p miner item) = some reply ∧
          doSatWork p miner item (delivered reply) = .ok certificate) ∧
        ∀ meanwhile, Along (LaneOp.step p r) (LaneOp.KeepsHolder p r miner.hotkey item.challengeId)
            lane₁ meanwhile →
          (runLane p r lane₁ meanwhile).verifiedCredits.lookup item.challengeId = none →
          ∃ lane₂, (runLane p r lane₁ meanwhile).verify r item certificate =
              some (certificate, lane₂) ∧
            ∀ later, Along (LaneOp.step p r)
                (LaneOp.KeepsHolder p r miner.hotkey item.challengeId) lane₂ later →
              ∀ certificates, certificate ∈ certificates →
                (runLane p r lane₂ later).score miner.hotkey certificates =
                  item.satInstance.clauses.length +
                    (runLane p r lane₂ later).score miner.hotkey (certificates.filter
                      fun other => other.challengeId ≠ item.challengeId)) := by
  have derived := isDerived_of_dispatch canonical dispatched
  -- the worker solves what the lane derived
  obtain ⟨literals, answers, names, satisfies⟩ :=
    handleSatWork_derived derived unpaired identity bodies
  obtain ⟨witnessed, solves⟩ := solves_of_names derived names satisfies
  refine ⟨derived.valid, length_workRequest_le derived, literals, solves,
    length_solution_le whole derived names, fun fits => ⟨fun fuel deep => ?_, ?_⟩⟩
  · refine ⟨_, answers fuel deep, ?_⟩
    rw [Worker.sendJson, if_pos (fits.trans (min_le_left _ _))]
    exact doSatWork_solution derived unpaired identity names (fits.trans (min_le_right _ _))
  · intro meanwhile keeps unpaid
    -- meanwhile the challenge stays with its miner
    have holds := holds_run keeps (holds_dispatch dispatched)
    refine ⟨_, verify_solution derived holds unpaid witnessed, ?_⟩
    intro later keeps' certificates among
    refine score_of_credited ⟨holds.issued, holds.owner⟩ (by simp) keeps' ?_
    exact List.mem_map.mpr ⟨_, among, rfl⟩

/-! ## Concrete work -/

namespace SampleWork

def lane : SatLane := .fresh "lane"

/-- A miner that reads answers up to a size. -/
def minerReading (maxResponseBody : ℕ) : RemoteMiner :=
  ⟨"worker", maxResponseBody, by decide, by decide⟩

def worker : Worker :=
  ⟨"worker", 64 * 1024, 64 * 1024, false, fun _ => none, by decide, by decide, by decide⟩

theorem dispatched : ∃ item lane₁,
    lane.dispatch .sample sampleRandom "worker" = .ok (item, lane₁) := by
  have encoded : (Text.utf8 (Text.ofString "lane")).isSome = true := by decide
  obtain ⟨key, encoded⟩ := Option.isSome_iff_exists.mp encoded
  exact exists_dispatch rfl (Option.map_eq_some_iff.mpr ⟨key, encoded, rfl⟩)

/-- The first item of a fresh lane is paid to the worker that solves it. -/
theorem honest_worker_is_paid_first :
    ∃ item lane₁ literals lane₂,
      lane.dispatch .sample sampleRandom "worker" = .ok (item, lane₁) ∧
      Solves literals item.satInstance ∧
      lane₁.verify sampleRandom item (certificateOf (minerReading 8192) item literals) =
        some (certificateOf (minerReading 8192) item literals, lane₂) ∧
      lane₂.score "worker" [certificateOf (minerReading 8192) item literals] =
        item.satInstance.clauses.length := by
  obtain ⟨item, lane₁, dispatched⟩ := dispatched
  have derived := isDerived_of_dispatch rfl dispatched
  have bodies : (workRequest .sample (minerReading 8192) item).length ≤ worker.maxBody :=
    (length_workRequest_le derived).trans (by decide)
  obtain ⟨-, -, literals, solves, small, paid⟩ := honest_worker_is_paid .sample sampleRandom
    Provenance.writesWhole_sample lane lane₁ (minerReading 8192) worker item rfl dispatched rfl
    (by decide) bodies
  obtain ⟨-, accepted⟩ := paid (small.trans (by decide))
  have unpaid : lane₁.verifiedCredits.lookup item.challengeId = none := by
    rw [(SatLane.dispatch_cases dispatched).2.2.2]
    rfl
  obtain ⟨lane₂, verified, scores⟩ := accepted [] trivial unpaid
  refine ⟨item, lane₁, literals, lane₂, dispatched, solves, verified, ?_⟩
  have score := scores [] trivial _ (List.mem_singleton_self _)
  have none_ : [certificateOf (minerReading 8192) item literals].filter
      (fun other => other.challengeId ≠ item.challengeId) = [] := by
    simp [certificateOf]
  rw [none_] at score
  exact score.trans (add_zero _)

/-- A miner that reads only one octet of an answer gets no certificate. -/
theorem not_honest_worker_is_paid :
    ¬ ∀ (p : Platform) (r : RandomSource), p.WritesWhole →
      ∀ (lane lane₁ : SatLane) (miner : RemoteMiner) (worker : Worker) (item : SatWorkItem),
      lane.queue = [] → lane.dispatch p r miner.hotkey = .ok (item, lane₁) →
      worker.configuredHotkey = miner.hotkey →
      ∀ fuel : ℕ, 8 < fuel → ∃ reply certificate,
        worker.doPost p r fuel (workRequest p miner item) = some reply ∧
        doSatWork p miner item (delivered reply) = .ok certificate := by
  intro claim
  obtain ⟨item, lane₁, dispatched⟩ := dispatched
  have derived := isDerived_of_dispatch rfl dispatched
  have bodies : (workRequest .sample (minerReading 1) item).length ≤ worker.maxBody :=
    (length_workRequest_le derived).trans (by decide)
  obtain ⟨reply, certificate, answered, worked⟩ := claim .sample sampleRandom
    Provenance.writesWhole_sample lane lane₁ (minerReading 1) worker item rfl dispatched rfl 9
    (by decide)
  obtain ⟨literals, answers, names, -⟩ :=
    handleSatWork_derived derived (by decide)
      (rfl : worker.configuredHotkey = (minerReading 1).hotkey) bodies
  have small : (Worker.jsonBody .sample (worker.solution
      ⟨item.satInstance, item.challengeId, true⟩ (some literals))).length ≤ 8192 :=
    length_solution_le Provenance.writesWhole_sample derived names
  have fits := small.trans (by decide : 8192 ≤ worker.maxResponseBody)
  obtain rfl := Option.some.inj (answered.symm.trans (answers 9 (by decide)))
  rw [Worker.sendJson, if_pos fits] at worked
  simp only [doSatWork, bind_eq_ok, require_eq_ok] at worked
  obtain ⟨_, -, raw, read, _, short, -⟩ := worked
  obtain rfl := Except.ok.inj read
  have long : 2 ≤ (Worker.jsonBody .sample (worker.solution
      ⟨item.satInstance, item.challengeId, true⟩ (some literals))).length := by
    rw [Worker.jsonBody, Text.length_ascii, Worker.solution, Json.render]
    simp only [List.length_append, List.length_cons, List.length_nil]
    omega
  exact absurd (long.trans (short.trans (min_le_left _ _))) (by decide)

end SampleWork

end Cathedral
