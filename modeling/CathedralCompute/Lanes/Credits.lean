import CathedralCompute.Lanes.SatLane
import CathedralCompute.Sample
import Mathlib.Algebra.BigOperators.Group.Finset.Basic

/-!
# Who is paid for a challenge

A score counts the credits of verified challenges that the scored miner owns. The
credit of a challenge is entered once, by the first accepted certificate, and
never changes; its owner is whoever it was dispatched to last. So a challenge is
paid to one hotkey as long as no dispatch hands a credited challenge on to
another one, and the queue does not keep a job from being enqueued twice.

## Main results

* `score_eq_sum` — each challenge counts once in a score
* `one_challenge_one_payment` — a challenge pays one hotkey, for its own work
-/

set_option autoImplicit false

namespace Cathedral

open Codec Semantics

/-! ## Units -/

section Draws

variable {σ α β : Type}

theorem bind_state (first : StateM σ α) (rest : α → StateM σ β) (s : σ) :
    (first >>= rest) s = rest (first s).1 (first s).2 := rfl

theorem pure_state (value : α) (s : σ) : (pure value : StateM σ α) s = (value, s) := rfl

/-- A loop of draws yields as many values as it has rounds. -/
theorem length_mapM_state (f : α → StateM σ β) (inputs : List α) (s : σ) :
    ((inputs.mapM f) s).1.length = inputs.length := by
  induction inputs generalizing s with
  | nil => rfl
  | cons input inputs ih =>
    rw [List.mapM_cons, bind_state, bind_state, pure_state, List.length_cons, ih, List.length_cons]

end Draws

namespace Sat

theorem length_canonicalInstance (r : RandomSource) (seed : ℤ) :
    (canonicalInstance r seed).clauses.length = 20 := by
  rw [canonicalInstance]
  rw [bind_state, bind_state, pure_state]
  dsimp only
  rw [length_mapM_state, List.length_range]

/-- Canonical and customer work are worth the same. -/
theorem derivedWorkUnits_eq (r : RandomSource) (item : SatWorkItem) :
    derivedWorkUnits r item = 20 := by
  unfold derivedWorkUnits
  split
  case isTrue canonical =>
    rw [canonical, length_canonicalInstance]
    norm_num
  case isFalse => rfl

end Sat

/-! ## Scores -/

namespace SatLane

variable {p : Platform} {r : RandomSource} {lane : SatLane}

/-- What a challenge adds to the score of a miner. -/
def contribution (lane : SatLane) (miner challengeId : Text) : ℚ :=
  if lane.challengeOwner.lookup challengeId = some miner then
    (lane.verifiedCredits.lookup challengeId).getD 0
  else 0

/-- One round counts the challenge unless it was counted before. -/
theorem scoreCertificate_eq (lane : SatLane) (miner : Text) (total : ℚ) (seen : List Text)
    (certificate : SatCertificate) :
    (certificate.challengeId ∉ seen ∧
        lane.scoreCertificate miner (total, seen) certificate =
          (total + lane.contribution miner certificate.challengeId,
            certificate.challengeId :: seen)) ∨
      ((certificate.challengeId ∈ seen ∨ lane.contribution miner certificate.challengeId = 0) ∧
        lane.scoreCertificate miner (total, seen) certificate = (total, seen)) := by
  unfold scoreCertificate contribution
  split
  case h_1 units credited =>
    split_ifs with counted owned owned
    · exact .inl ⟨counted.1, by rw [credited]; rfl⟩
    · exact absurd counted.2 owned
    · exact .inr ⟨.inl (by_contra fun absent => counted ⟨absent, owned⟩), rfl⟩
    · exact .inr ⟨.inr rfl, rfl⟩
  case h_2 missing =>
    rw [missing]
    exact .inr ⟨.inr (ite_self _), rfl⟩

theorem scoreLoop_eq (lane : SatLane) (miner : Text) (certificates : List SatCertificate)
    (total : ℚ) (seen : List Text) :
    (certificates.foldl (lane.scoreCertificate miner) (total, seen)).1 =
      total + ∑ c ∈ (certificates.map SatCertificate.challengeId).toFinset \ seen.toFinset,
        lane.contribution miner c := by
  induction certificates generalizing total seen with
  | nil => simp
  | cons certificate certificates ih =>
    rw [List.foldl_cons, List.map_cons, List.toFinset_cons]
    rcases scoreCertificate_eq lane miner total seen certificate with ⟨new, counted⟩ |
      ⟨nothing, same⟩
    · -- The challenge leaves the ones still to be counted.
      rw [counted, ih, List.toFinset_cons]
      have fresh : certificate.challengeId ∉ seen.toFinset := by simpa using new
      have split : insert certificate.challengeId
            (certificates.map SatCertificate.challengeId).toFinset \ seen.toFinset =
          insert certificate.challengeId
            ((certificates.map SatCertificate.challengeId).toFinset \
              insert certificate.challengeId seen.toFinset) := by
        ext c
        simp only [Finset.mem_sdiff, Finset.mem_insert]
        grind
      rw [split, Finset.sum_insert (by simp), add_assoc]
    · rw [same, ih]
      rcases nothing with old | zero
      · rw [Finset.insert_sdiff_of_mem _ (by simpa using old)]
      · by_cases old : certificate.challengeId ∈ seen.toFinset
        · rw [Finset.insert_sdiff_of_mem _ old]
        · rw [Finset.insert_sdiff_of_notMem _ old, Finset.sum_insert_zero zero]

/-- **Scores.** A score is the sum of what the listed challenges add, each counted
once. -/
theorem score_eq_sum (lane : SatLane) (miner : Text) (certificates : List SatCertificate) :
    lane.score miner certificates =
      ∑ c ∈ (certificates.map SatCertificate.challengeId).toFinset,
        lane.contribution miner c := by
  rw [score, scoreLoop_eq]
  simp

/-- The item that the next dispatch hands out. -/
def pending (p : Platform) (r : RandomSource) (lane : SatLane) : Option SatWorkItem :=
  match lane.queue with
  | item :: _ => some item
  | [] => (Sat.deriveCanonicalSeed lane.laneNamespace lane.seedCounter).map fun seed =>
      ⟨Sat.canonicalInstance r seed, seed,
        Sat.computeChallengeId p (Sat.canonicalInstance r seed) seed⟩

theorem dispatch_cases {miner : Text} {item : SatWorkItem} {lane' : SatLane}
    (dispatched : lane.dispatch p r miner = .ok (item, lane')) :
    lane.pending p r = some item ∧ lane'.issuedIds = item.challengeId :: lane.issuedIds ∧
      lane'.challengeOwner = (item.challengeId, miner) :: lane.challengeOwner ∧
      lane'.verifiedCredits = lane.verifiedCredits := by
  unfold dispatch at dispatched
  unfold pending
  cases queue : lane.queue with
  | cons first rest =>
    rw [queue] at dispatched
    cases dispatched
    exact ⟨rfl, rfl, rfl, rfl⟩
  | nil =>
    rw [queue] at dispatched
    simp only [bind_eq_ok, demand_eq_ok, pure_eq_ok, Prod.mk.injEq] at dispatched
    obtain ⟨seed, derived, rfl, rfl⟩ := dispatched
    rw [derived]
    exact ⟨rfl, rfl, rfl, rfl⟩

theorem enqueue_cases {item : SatWorkItem} {lane' : SatLane}
    (enqueued : lane.enqueue p item = .ok lane') :
    lane'.issuedIds = lane.issuedIds ∧ lane'.challengeOwner = lane.challengeOwner ∧
      lane'.verifiedCredits = lane.verifiedCredits := by
  simp only [enqueue, bind_eq_ok, pure_eq_ok] at enqueued
  obtain ⟨_, -, rfl⟩ := enqueued
  exact ⟨rfl, rfl, rfl⟩

theorem verify_cases {item : SatWorkItem} {certificate : SatCertificate}
    {outcome : SatCertificate × SatLane}
    (accepted : lane.verify r item certificate = some outcome) :
    certificate.challengeId ∈ lane.issuedIds ∧
      lane.verifiedCredits.lookup certificate.challengeId = none ∧
      lane.challengeOwner.lookup certificate.challengeId = some certificate.assignedHotkey ∧
      outcome.2 = { lane with verifiedCredits :=
        (certificate.challengeId, Sat.derivedWorkUnits r item) :: lane.verifiedCredits } := by
  unfold verify at accepted
  dsimp only at accepted
  split at accepted
  case isFalse => cases accepted
  case isTrue checks =>
    cases accepted
    have account := checks.1
    simp only [accounted, decide_eq_true_eq, Option.isNone_iff_eq_none] at account
    exact ⟨account.2.1, account.2.2.1, account.2.2.2.2, rfl⟩

end SatLane

/-! ## Runs -/

/-- A call on a lane. -/
inductive LaneOp where
  | enqueue (item : SatWorkItem)
  | dispatch (miner : Text)
  | verify (item : SatWorkItem) (certificate : SatCertificate)
  | score (miner : Text) (certificates : List SatCertificate)

/-- The lane after a call; a call that fails leaves it. -/
def LaneOp.step (p : Platform) (r : RandomSource) (lane : SatLane) : LaneOp → SatLane
  | enqueue item => settle lane (lane.enqueue p item)
  | dispatch miner => settle lane ((lane.dispatch p r miner).map Prod.snd)
  | verify item certificate => ((lane.verify r item certificate).map Prod.snd).getD lane
  | score _ _ => lane

/-- The lane after a sequence of calls. -/
abbrev runLane (p : Platform) (r : RandomSource) (lane : SatLane) (ops : List LaneOp) : SatLane :=
  run (LaneOp.step p r) lane ops

/-- No dispatch hands a challenge that is credited already to another hotkey. -/
def LaneOp.KeepsOwner (p : Platform) (r : RandomSource) (lane : SatLane) : LaneOp → Prop
  | dispatch miner => ∀ item ∈ lane.pending p r,
      lane.verifiedCredits.lookup item.challengeId = none ∨
        lane.challengeOwner.lookup item.challengeId = some miner
  | _ => True

/-- Credits stay, with their owners. -/
def KeepsCredits (lane lane' : SatLane) : Prop :=
  ∀ c units, lane.verifiedCredits.lookup c = some units →
    lane'.verifiedCredits.lookup c = some units ∧
      lane'.challengeOwner.lookup c = lane.challengeOwner.lookup c

section Runs

variable {p : Platform} {r : RandomSource} {lane : SatLane}

/-- An entry for another key does not change what a key finds. -/
theorem lookup_cons_of_ne {α : Type} {c key : Text} {value : α} {entries : List (Text × α)}
    (different : c ≠ key) : ((key, value) :: entries).lookup c = entries.lookup c := by
  have other : (c == key) = false := by simpa using different
  rw [List.lookup_cons, other]

theorem KeepsCredits.refl (lane : SatLane) : KeepsCredits lane lane :=
  fun _ _ credited => ⟨credited, rfl⟩

theorem KeepsCredits.trans {a b c : SatLane} (first : KeepsCredits a b)
    (second : KeepsCredits b c) : KeepsCredits a c := by
  intro challenge units credited
  obtain ⟨kept, owner⟩ := first challenge units credited
  obtain ⟨kept', owner'⟩ := second challenge units kept
  exact ⟨kept', owner'.trans owner⟩

/-- The maps that credits depend on are as before. -/
def SameMaps (lane lane' : SatLane) : Prop :=
  lane'.issuedIds = lane.issuedIds ∧ lane'.challengeOwner = lane.challengeOwner ∧
    lane'.verifiedCredits = lane.verifiedCredits

/-- **What a call does.** It leaves the maps, hands the next item to a miner, or
enters the credit of an accepted certificate. -/
theorem step_cases (p : Platform) (r : RandomSource) (lane : SatLane) (op : LaneOp) :
    SameMaps lane (op.step p r lane) ∨
    (∃ miner item, op = .dispatch miner ∧ lane.pending p r = some item ∧
      lane.dispatch p r miner = .ok (item, op.step p r lane) ∧
      (op.step p r lane).issuedIds = item.challengeId :: lane.issuedIds ∧
      (op.step p r lane).challengeOwner = (item.challengeId, miner) :: lane.challengeOwner ∧
      (op.step p r lane).verifiedCredits = lane.verifiedCredits) ∨
    ∃ item certificate outcome, op = .verify item certificate ∧
      lane.verify r item certificate = some outcome ∧
      certificate.challengeId ∈ lane.issuedIds ∧
      lane.verifiedCredits.lookup certificate.challengeId = none ∧
      lane.challengeOwner.lookup certificate.challengeId = some certificate.assignedHotkey ∧
      op.step p r lane = { lane with verifiedCredits :=
        (certificate.challengeId, Sat.derivedWorkUnits r item) :: lane.verifiedCredits } := by
  cases op with
  | enqueue item =>
    left
    cases enqueued : lane.enqueue p item with
    | error failure =>
      rw [LaneOp.step, enqueued, settle_error]
      exact ⟨rfl, rfl, rfl⟩
    | ok lane' =>
      rw [LaneOp.step, enqueued, settle_ok]
      exact SatLane.enqueue_cases enqueued
  | dispatch miner =>
    cases dispatched : lane.dispatch p r miner with
    | error failure =>
      rw [LaneOp.step, dispatched]
      exact .inl ⟨rfl, rfl, rfl⟩
    | ok result =>
      obtain ⟨item, lane'⟩ := result
      have stepped : (LaneOp.dispatch miner).step p r lane = lane' := by
        rw [LaneOp.step, dispatched]
        rfl
      obtain ⟨next, issued, owners, credits⟩ := SatLane.dispatch_cases dispatched
      rw [stepped]
      exact .inr (.inl ⟨miner, item, rfl, next, dispatched, issued, owners, credits⟩)
  | score miner certificates => exact .inl ⟨rfl, rfl, rfl⟩
  | verify item certificate =>
    cases accepted : lane.verify r item certificate with
    | none =>
      rw [LaneOp.step, accepted]
      exact .inl ⟨rfl, rfl, rfl⟩
    | some outcome =>
      have stepped : (LaneOp.verify item certificate).step p r lane = outcome.2 := by
        rw [LaneOp.step, accepted]
        rfl
      obtain ⟨issued, unpaid, owner, new⟩ := SatLane.verify_cases accepted
      rw [stepped]
      exact .inr (.inr ⟨item, certificate, outcome, rfl, accepted, issued, unpaid, owner, new⟩)

/-- A new credit comes from an accepted certificate of its owner. -/
theorem credited_of_step {op : LaneOp} {c : Text}
    (before : lane.verifiedCredits.lookup c = none)
    (after : (op.step p r lane).verifiedCredits.lookup c ≠ none) :
    ∃ item certificate outcome, op = .verify item certificate ∧
      lane.verify r item certificate = some outcome ∧ certificate.challengeId = c ∧
      c ∈ lane.issuedIds ∧
      (op.step p r lane).challengeOwner.lookup c = some certificate.assignedHotkey ∧
      (op.step p r lane).verifiedCredits.lookup c = some (Sat.derivedWorkUnits r item) := by
  obtain ⟨-, -, credits⟩ | ⟨_, _, -, -, -, -, -, credits⟩ |
    ⟨item, certificate, outcome, same, accepted, issued, -, owner, new⟩ :=
    step_cases p r lane op
  · rw [credits] at after
    exact absurd before after
  · rw [credits] at after
    exact absurd before after
  · rw [new] at after ⊢
    have named : certificate.challengeId = c := by
      by_contra different
      apply after
      rw [lookup_cons_of_ne (Ne.symm different)]
      exact before
    subst named
    exact ⟨item, certificate, outcome, same, accepted, rfl, issued, owner, by simp⟩

/-- A credit is never taken back. -/
theorem credit_step {op : LaneOp} {c : Text} {units : ℚ}
    (credited : lane.verifiedCredits.lookup c = some units) :
    (op.step p r lane).verifiedCredits.lookup c = some units := by
  obtain ⟨-, -, credits⟩ | ⟨_, _, -, -, -, -, -, credits⟩ |
    ⟨_, certificate, _, -, -, -, unpaid, -, new⟩ := step_cases p r lane op
  · rw [credits, credited]
  · rw [credits, credited]
  · have different : c ≠ certificate.challengeId := by
      rintro rfl
      rw [unpaid] at credited
      cases credited
    rw [new]
    exact (lookup_cons_of_ne different).trans credited

/-- **Step.** A call that hands no credited challenge on keeps every credit with
its owner. -/
theorem keepsCredits_step {op : LaneOp} (keeps : op.KeepsOwner p r lane) :
    KeepsCredits lane (op.step p r lane) := by
  intro c units credited
  refine ⟨credit_step credited, ?_⟩
  obtain ⟨-, owners, -⟩ | ⟨miner, item, rfl, next, -, -, owners, -⟩ |
    ⟨_, _, _, -, -, -, -, -, new⟩ := step_cases p r lane op
  · rw [owners]
  · rw [owners]
    by_cases same : c = item.challengeId
    · subst same
      rcases keeps item next with none | own
      · rw [none] at credited
        cases credited
      · rw [own]
        simp
    · exact lookup_cons_of_ne same
  · rw [new]

/-- A challenge becomes issued when a dispatch hands it out. -/
theorem issued_of_step {op : LaneOp} {c : Text} (before : c ∉ lane.issuedIds)
    (after : c ∈ (op.step p r lane).issuedIds) :
    ∃ miner item lane', op = .dispatch miner ∧ lane.dispatch p r miner = .ok (item, lane') ∧
      item.challengeId = c := by
  obtain ⟨issued, -⟩ | ⟨miner, item, same, -, dispatched, issued, -⟩ |
    ⟨_, _, _, -, -, -, -, -, new⟩ := step_cases p r lane op
  · rw [issued] at after
    exact absurd after before
  · rw [issued] at after
    rcases List.mem_cons.mp after with named | old
    · exact ⟨miner, item, _, same, dispatched, named.symm⟩
    · exact absurd old before
  · rw [new] at after
    exact absurd after before

theorem keepsCredits_run {ops : List LaneOp}
    (keeps : Along (LaneOp.step p r) (LaneOp.KeepsOwner p r) lane ops) :
    KeepsCredits lane (runLane p r lane ops) :=
  relation_of_along KeepsCredits.refl KeepsCredits.trans (fun _ _ keeps => keepsCredits_step keeps)
    keeps

theorem contribution_ne_zero {miner c : Text} (paid : lane.contribution miner c ≠ 0) :
    lane.challengeOwner.lookup c = some miner ∧
      ∃ units, lane.verifiedCredits.lookup c = some units ∧
        lane.contribution miner c = units := by
  unfold SatLane.contribution at paid ⊢
  split at paid
  case isTrue owner =>
    cases credited : lane.verifiedCredits.lookup c with
    | none =>
      rw [credited] at paid
      exact absurd rfl paid
    | some units => exact ⟨owner, units, rfl, if_pos owner⟩
  case isFalse => exact absurd rfl paid

/-- **Origin of a payment.** A contribution goes back to an accepted certificate of
the paid hotkey, and to the dispatch of the item that it is worth. -/
theorem origin_of_contribution {laneNamespace : Text} {ops : List LaneOp} {miner c : Text}
    (keeps : Along (LaneOp.step p r) (LaneOp.KeepsOwner p r) (.fresh laneNamespace) ops)
    (paid : (runLane p r (.fresh laneNamespace) ops).contribution miner c ≠ 0) :
    (∃ pre item certificate post outcome, ops = pre ++ .verify item certificate :: post ∧
      (runLane p r (.fresh laneNamespace) pre).verify r item certificate = some outcome ∧
      certificate.challengeId = c ∧ certificate.assignedHotkey = miner) ∧
    ∃ pre owner post item lane', ops = pre ++ .dispatch owner :: post ∧
      (runLane p r (.fresh laneNamespace) pre).dispatch p r owner = .ok (item, lane') ∧
      item.challengeId = c ∧
      (runLane p r (.fresh laneNamespace) ops).contribution miner c =
        Sat.derivedWorkUnits r item := by
  obtain ⟨owner, units, credited, amount⟩ := contribution_ne_zero paid
  -- The credit was entered somewhere, and then kept together with its owner.
  obtain ⟨pre, op, post, rfl, absent, present⟩ := exists_turning_point
    (P := fun l : SatLane => l.verifiedCredits.lookup c ≠ none)
    (s := SatLane.fresh laneNamespace) (fun h => h rfl)
    (show (run (LaneOp.step p r) _ ops).verifiedCredits.lookup c ≠ none by
      rw [credited]
      nofun)
  rw [run_append] at present
  obtain ⟨item, certificate, outcome, rfl, accepted, same, issued, first, value⟩ :=
    credited_of_step (not_not.mp absent) present
  obtain ⟨-, -, rest⟩ := along_append.mp keeps
  obtain ⟨kept, keptOwner⟩ := keepsCredits_run rest c _ value
  have ends : runLane p r (.fresh laneNamespace) (pre ++ .verify item certificate :: post) =
      runLane p r (LaneOp.step p r (runLane p r (.fresh laneNamespace) pre)
        (.verify item certificate)) post :=
    run_append _ _ pre (LaneOp.verify item certificate :: post)
  rw [ends, keptOwner, first] at owner
  rw [ends, kept] at credited
  refine ⟨⟨pre, item, certificate, post, outcome, rfl, accepted, same, Option.some.inj owner⟩, ?_⟩
  -- It was issued before, by a dispatch.
  obtain ⟨pre', op', post', rfl, unissued, reached⟩ := exists_turning_point
    (P := fun l : SatLane => c ∈ l.issuedIds) (s := SatLane.fresh laneNamespace)
    List.not_mem_nil issued
  rw [run_append] at reached
  obtain ⟨miner', item', lane', rfl, dispatched, named⟩ := issued_of_step unissued reached
  refine ⟨pre', miner', post' ++ .verify item certificate :: post, item', lane', ?_, dispatched,
    named, ?_⟩
  · rw [List.append_assoc, List.cons_append]
  · rw [amount, ← Option.some.inj credited, Sat.derivedWorkUnits_eq, Sat.derivedWorkUnits_eq]

end Runs

/-- **One challenge, one payment.** In every run of a lane in which no dispatch
hands a credited challenge to another hotkey: whatever a challenge adds to scores
goes to one hotkey; a score counts every listed challenge once; and a challenge
counts only after an accepted certificate of the scored hotkey, for the derived
units of the dispatched item. -/
theorem one_challenge_one_payment (p : Platform) (r : RandomSource) (laneNamespace : Text)
    (ops : List LaneOp)
    (keeps : Along (LaneOp.step p r) (LaneOp.KeepsOwner p r) (.fresh laneNamespace) ops) :
    (∀ before middle after, ops = before ++ middle ++ after → ∀ miner miner' c,
      (runLane p r (.fresh laneNamespace) before).contribution miner c ≠ 0 →
      (runLane p r (.fresh laneNamespace) (before ++ middle)).contribution miner' c ≠ 0 →
      miner = miner') ∧
    ∀ before after miner certificates, ops = before ++ .score miner certificates :: after →
      (runLane p r (.fresh laneNamespace) before).score miner certificates =
        ∑ c ∈ (certificates.map SatCertificate.challengeId).toFinset,
          (runLane p r (.fresh laneNamespace) before).contribution miner c ∧
      ∀ c, (runLane p r (.fresh laneNamespace) before).contribution miner c ≠ 0 →
        (∃ pre item certificate post outcome, before = pre ++ .verify item certificate :: post ∧
          (runLane p r (.fresh laneNamespace) pre).verify r item certificate = some outcome ∧
          certificate.challengeId = c ∧ certificate.assignedHotkey = miner) ∧
        ∃ pre owner post item lane', before = pre ++ .dispatch owner :: post ∧
          (runLane p r (.fresh laneNamespace) pre).dispatch p r owner = .ok (item, lane') ∧
          item.challengeId = c ∧
          (runLane p r (.fresh laneNamespace) before).contribution miner c =
            Sat.derivedWorkUnits r item := by
  constructor
  · rintro before middle after rfl miner miner' c paid paid'
    obtain ⟨owner, units, credited, -⟩ := contribution_ne_zero paid
    obtain ⟨owner', -⟩ := contribution_ne_zero paid'
    obtain ⟨-, rest⟩ := along_append.mp (along_append.mp keeps).1
    obtain ⟨-, kept⟩ := keepsCredits_run rest c units credited
    rw [runLane, run_append] at owner'
    rw [kept, owner] at owner'
    exact Option.some.inj owner'
  · rintro before after miner certificates rfl
    refine ⟨SatLane.score_eq_sum _ miner certificates, fun c paid => ?_⟩
    exact origin_of_contribution (along_append.mp keeps).1 paid

/-- A certificate for `sampleItem`. -/
def sampleCertificateOf (hotkey : Text) : SatCertificate :=
  ⟨true, some [1], .finite 1, Sat.sampleItem.challengeId, hotkey⟩

/-- The item is enqueued, dispatched and solved; its copy goes to another miner. -/
def sampleHistory : List LaneOp :=
  [.enqueue Sat.sampleItem, .enqueue Sat.sampleItem, .dispatch "first",
    .verify Sat.sampleItem (sampleCertificateOf "first")]

theorem contribution_sampleHistory :
    (runLane .sample Sat.sampleRandom (.fresh "lane") sampleHistory).contribution "first"
      Sat.sampleItem.challengeId ≠ 0 := by
  decide +kernel

/-- The calls of the history up to the second dispatch hand nothing on. -/
theorem one_challenge_one_payment_sample :
    ∃ pre item certificate post outcome,
      sampleHistory = pre ++ .verify item certificate :: post ∧
      (runLane .sample Sat.sampleRandom (.fresh "lane") pre).verify Sat.sampleRandom item
        certificate = some outcome ∧
      certificate.challengeId = Sat.sampleItem.challengeId ∧
      certificate.assignedHotkey = "first" := by
  have keeps : Along (LaneOp.step .sample Sat.sampleRandom)
      (LaneOp.KeepsOwner .sample Sat.sampleRandom) (.fresh "lane")
      (sampleHistory ++ [.score "first" [sampleCertificateOf "first"]]) := by
    refine ⟨trivial, trivial, fun item _ => .inl ?_, trivial, trivial, trivial⟩
    have none : ∀ lane : SatLane, lane.verifiedCredits = [] →
      lane.verifiedCredits.lookup item.challengeId = none := fun lane empty => by rw [empty]; rfl
    exact none _ (by decide +kernel)
  exact ((one_challenge_one_payment .sample Sat.sampleRandom "lane" _ keeps).2 sampleHistory [] _ _
    rfl).2 _ contribution_sampleHistory |>.1

/-- A job that was enqueued twice is dispatched to a second miner after the first
was credited, and then pays the second, who never answered. -/
theorem not_one_challenge_one_payment_enqueued_twice :
    ¬ ∀ (p : Platform) (r : RandomSource) (laneNamespace : Text) (ops : List LaneOp)
      (before middle after : List LaneOp), ops = before ++ middle ++ after →
      ∀ miner miner' c,
      (runLane p r (.fresh laneNamespace) before).contribution miner c ≠ 0 →
      (runLane p r (.fresh laneNamespace) (before ++ middle)).contribution miner' c ≠ 0 →
      miner = miner' := by
  intro claim
  have same := claim .sample Sat.sampleRandom "lane" _ sampleHistory [.dispatch "second"] [] rfl
    "first" "second" Sat.sampleItem.challengeId contribution_sampleHistory (by decide +kernel)
  exact absurd same (by decide)

end Cathedral
