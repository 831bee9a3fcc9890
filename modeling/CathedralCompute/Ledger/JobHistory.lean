import CathedralCompute.Ledger.Leases
import CathedralCompute.Ledger.Payloads

/-!
# The history of customer jobs

A job keeps its payload, its attempts only grow, and a terminal job never changes
until it is pruned. A succeeded job stores a solution of the instance that was
enqueued, under a challenge that was verified for the hotkey it names. The result
was checked against the lease's copy of the instance; that this is the submitted
instance follows from the lease check, which rebuilds the copy from the stored
payload.
-/

set_option autoImplicit false

namespace Cathedral.Ledger

open Codec Semantics

/-! ## Jobs advance -/

/-- The row of a job at two times. -/
structure JobRow.Advances (row row' : JobRow) : Prop where
  jobId : row'.jobId = row.jobId
  payload : row'.payloadBody = row.payloadBody ∧ row'.payloadDigest = row.payloadDigest
  attempts : row.attemptCount ≤ row'.attemptCount
  terminal : row.status.IsTerminal → row' = row

theorem JobRow.Advances.refl (row : JobRow) : row.Advances row :=
  ⟨rfl, ⟨rfl, rfl⟩, le_rfl, fun _ => rfl⟩

theorem JobRow.Advances.trans {a b c : JobRow} (first : a.Advances b) (second : b.Advances c) :
    a.Advances c where
  jobId := second.jobId.trans first.jobId
  payload := ⟨second.payload.1.trans first.payload.1, second.payload.2.trans first.payload.2⟩
  attempts := first.attempts.trans second.attempts
  terminal ended := by
    obtain rfl := first.terminal ended
    exact second.terminal ended

/-- Every job of the first state is a job of the second. -/
def JobsAdvance (s s' : State) : Prop :=
  ∀ row ∈ s.jobs.rows, ∃ row' ∈ s'.jobs.rows, row.Advances row'

theorem JobsAdvance.refl (s : State) : JobsAdvance s s := fun row member => ⟨row, member, .refl row⟩

theorem JobsAdvance.trans {a b c : State} (first : JobsAdvance a b) (second : JobsAdvance b c) :
    JobsAdvance a c := by
  intro row member
  obtain ⟨row', member', advances⟩ := first row member
  obtain ⟨row'', member'', advances'⟩ := second row' member'
  exact ⟨row'', member'', advances.trans advances'⟩

theorem JobsAdvance.of_update {s s' : State} {q : JobRow → Prop} [DecidablePred q]
    {f : JobRow → JobRow} (advances : ∀ row ∈ s.jobs.rows, q row → row.Advances (f row))
    (jobs : s'.jobs.rows = s.jobs.rows.map fun row => if q row then f row else row) :
    JobsAdvance s s' := by
  intro row member
  rw [jobs]
  by_cases chosen : q row
  · exact ⟨f row, List.mem_map.mpr ⟨row, member, if_pos chosen⟩, advances row member chosen⟩
  · exact ⟨row, List.mem_map.mpr ⟨row, member, if_neg chosen⟩, .refl row⟩

theorem JobStatus.not_terminal_of_leased {status : JobStatus} {lease : Lease}
    (leased : status = .leased lease) : ¬ status.IsTerminal := by
  rw [leased]
  rintro (h | h) <;> cases h

theorem JobStatus.not_terminal_of_queued {status : JobStatus} (queued : status = .queued) :
    ¬ status.IsTerminal := by
  rw [queued]
  rintro (h | h) <;> cases h

/-- Changes that prune nothing. -/
def keepScope : Scope := { Scope.all with prunes := False }

theorem JobsAdvance.of_step {p : Platform} {s s' : State} (change : Step p keepScope s s') :
    JobsAdvance s s' := by
  cases change with
  | @resolveChallenge challenge status resolution units now jobTime receipts resolving bare
      receiptsAfter =>
    cases resolution with
    | none => exact .refl s
    | some r =>
      refine .of_update (fun row member chosen => ?_) rfl
      obtain ⟨lease, held, -⟩ := chosen.2
      exact ⟨rfl, ⟨rfl, rfl⟩, le_rfl, fun ended => absurd ended
        (JobStatus.not_terminal_of_leased (JobStatus.lease?_eq_some.mp held))⟩
  | leaseJob running member queued below encodable payload inserted =>
    refine .of_update (fun job listed chosen => ?_) rfl
    rw [Table.eq_of_key listed member chosen.1]
    exact ⟨rfl, ⟨rfl, rfl⟩, Nat.le_succ _,
      fun ended => absurd ended (JobStatus.not_terminal_of_queued queued)⟩
  | takeBack now error resolvedAt member leased outcome =>
    refine .of_update (fun job listed chosen => ?_) rfl
    rw [Table.eq_of_key listed member chosen]
    exact ⟨rfl, ⟨rfl, rfl⟩, le_rfl,
      fun ended => absurd ended (JobStatus.not_terminal_of_leased leased)⟩
  | failExhausted now maxAttempts =>
    refine .of_update (fun job listed chosen => ?_) rfl
    exact ⟨rfl, ⟨rfl, rfl⟩, le_rfl,
      fun ended => absurd ended (JobStatus.not_terminal_of_queued chosen.1)⟩
  | enqueueJob queued body digest admitted inserted =>
    exact fun row member => ⟨row, (Table.mem_insert inserted).mpr (.inl member), .refl row⟩
  | pruneJobs pruned admitted terminal => exact admitted.elim
  | freezeEpoch member running frozen =>
    obtain ⟨time, generatedAt, audience, body, table, -, -, rfl⟩ := frozen.changed
    exact .refl s
  | _ => exact .refl s

/-- Whether the operation prunes jobs. -/
def Op.IsPrune : Op → Prop
  | pruneCustomerJobs .. => True
  | _ => False

theorem Op.within_keepScope {p : Platform} {op : Op} (keeps : ¬ op.IsPrune) (s : State) :
    op.Within p keepScope s := by
  cases op
  case pruneCustomerJobs => exact absurd trivial keeps
  case resolveChallenge => exact fun _ => trivial
  case resolveChallengeWithReceipt => exact fun _ => trivial
  case exportScoreClassReport => exact fun _ _ => trivial
  all_goals trivial

/-- An operation other than pruning keeps every job. -/
theorem JobsAdvance.of_op {p : Platform} {s : State} {op : Op} (keeps : ¬ op.IsPrune) :
    JobsAdvance s (step p s op) :=
  invariant_steps (I := JobsAdvance s) (fun before change => before.trans (.of_step change))
    (.refl s) (steps_of_step (op.within_keepScope keeps s))

theorem JobsAdvance.of_runOps {p : Platform} (s : State) {ops : List Op}
    (keeps : ∀ op ∈ ops, ¬ op.IsPrune) : JobsAdvance s (runOps p s ops) := by
  induction ops generalizing s with
  | nil => exact .refl s
  | cons op ops ih =>
    rw [List.forall_mem_cons] at keeps
    exact (JobsAdvance.of_op keeps.1).trans (ih (step p s op) keeps.2)

/-- Pruning only removes jobs. -/
theorem jobs_of_prune {p : Platform} {s : State} {op : Op} (prunes : op.IsPrune) :
    ∀ row ∈ (step p s op).jobs.rows, row ∈ s.jobs.rows := by
  cases op
  case pruneCustomerJobs resolvedBefore limit customerId =>
    refine settle_of_ok (P := fun t : State => ∀ row ∈ t.jobs.rows, row ∈ s.jobs.rows)
      (fun _ member => member) fun s' committed => ?_
    simp only [Op.commit, map_eq_ok, pruneCustomerJobs, bind_eq_ok, pure_eq_ok] at committed
    obtain ⟨_, ⟨-, -, -, -, rfl⟩, rfl⟩ := committed
    exact fun row listed => (Table.mem_delete.mp listed).1
  all_goals exact prunes.elim

/-- **Terminal jobs.** A terminal job is unchanged after any run, or was pruned
in it. -/
theorem terminal_job_kept {p : Platform} (s : State) {row : JobRow} (member : row ∈ s.jobs.rows)
    (terminal : row.status.IsTerminal) (ops : List Op) :
    row ∈ (runOps p s ops).jobs.rows ∨
      ∃ before op after, ops = before ++ op :: after ∧ op.IsPrune ∧
        row ∈ (runOps p s before).jobs.rows ∧
        ∀ other ∈ (runOps p s (before ++ [op])).jobs.rows, other.jobId ≠ row.jobId := by
  by_cases kept : row ∈ (runOps p s ops).jobs.rows
  · exact .inl kept
  · obtain ⟨before, op, after, split, here, gone⟩ :=
      exists_turning_point (P := fun t : State => row ∉ t.jobs.rows) (not_not.mpr member) kept
    rw [not_not] at here
    rw [run_append, run_cons, run_nil] at gone
    have prunes : op.IsPrune := by
      by_contra keeps
      obtain ⟨row', member', advances⟩ := JobsAdvance.of_op keeps row here
      rw [advances.terminal terminal] at member'
      exact gone member'
    refine .inr ⟨before, op, after, split, prunes, here, fun other listed same => gone ?_⟩
    rw [runOps_append] at listed
    have old := jobs_of_prune prunes other listed
    rwa [Table.eq_of_key old here same] at listed

/-! ## Claims -/

/-- The attempts of every job. -/
def attempts (s : State) : List (Text × ℕ) :=
  s.jobs.rows.map fun row => (row.jobId, row.attemptCount)

theorem attempts_takeBack {now : Instant} {status : JobRow × Lease → JobStatus} {error : Text}
    {resolvedAt : JobRow × Lease → JobRow → Option Instant} (s : State)
    (jobs : List (JobRow × Lease)) :
    attempts (jobs.foldl (fun s job => takeBack now (status job) error (resolvedAt job) s job) s) =
      attempts s := by
  induction jobs generalizing s with
  | nil => rfl
  | cons job jobs ih =>
    rw [List.foldl_cons, ih]
    exact Table.map_rows_update fun _ => rfl

/-- Reclaiming leases and failing exhausted jobs spends no attempt. -/
theorem attempts_sweep (now : Instant) (maxAttempts : ℤ) (s : State) :
    attempts (sweep now maxAttempts s) = attempts s := by
  have failed : ∀ s, attempts (failExhausted now maxAttempts s) = attempts s :=
    fun _ => Table.map_rows_update fun _ => rfl
  rw [sweep, failed]
  exact attempts_takeBack s _

/-- A claim takes a job below the attempt limit and spends one attempt. -/
theorem claimCustomerJob_attempt {p : Platform} {ownerHotkey : Text} {epochId : ℕ}
    {leaseSeconds maxAttempts : ℤ} {leaseToken : Text} {now : Instant} {s s' : State}
    {lease : CustomerJobLease}
    (claimed : claimCustomerJob p ownerHotkey epochId leaseSeconds maxAttempts leaseToken now s =
      .ok (some lease, s')) :
    ∃ row ∈ s.jobs.rows, row.jobId = lease.jobId ∧ (row.attemptCount : ℤ) < maxAttempts ∧
      lease.attempt = row.attemptCount + 1 ∧
      ∃ row' ∈ s'.jobs.rows, row'.jobId = lease.jobId ∧ row'.attemptCount = lease.attempt := by
  simp only [claimCustomerJob, bind_eq_ok] at claimed
  obtain ⟨-, -, -, -, -, -, -, -, claimed⟩ := claimed
  split at claimed
  case h_1 =>
    simp only [pure_eq_ok, Prod.mk.injEq, reduceCtorEq, false_and] at claimed
  case h_2 row found =>
    simp only [leaseJob, bind_eq_ok, demand_eq_ok, storable_eq_ok, pure_eq_ok, Prod.mk.injEq,
      Option.some.injEq] at claimed
    obtain ⟨original, -, -, -, challenges, -, rfl, rfl⟩ := claimed
    have chosen := List.mem_of_head? found
    rw [List.mem_insertionSort, Table.mem_select] at chosen
    obtain ⟨member, queued, -, below⟩ := chosen
    have counted : (row.jobId, row.attemptCount) ∈ attempts s := by
      rw [← attempts_sweep now maxAttempts s]
      exact List.mem_map.mpr ⟨row, member, rfl⟩
    obtain ⟨old, before, same⟩ := List.mem_map.mp counted
    obtain ⟨named, count⟩ := Prod.mk.inj same
    refine ⟨old, before, named, count ▸ below, congrArg (· + 1) count.symm, ?_⟩
    exact ⟨_, List.mem_map.mpr ⟨row, member, if_pos ⟨rfl, queued⟩⟩, rfl, rfl⟩

/-- Later claims of a job spend later attempts. -/
theorem attempt_lt_of_claims {p : Platform} {s' s₂ : State} {lease lease' : CustomerJobLease}
    (spent : ∃ row' ∈ s'.jobs.rows, row'.jobId = lease.jobId ∧ row'.attemptCount = lease.attempt)
    {later : List Op} (keeps : ∀ op ∈ later, ¬ op.IsPrune) {ownerHotkey : Text} {epochId : ℕ}
    {leaseSeconds maxAttempts : ℤ} {leaseToken : Text} {now : Instant}
    (claimed : claimCustomerJob p ownerHotkey epochId leaseSeconds maxAttempts leaseToken now
      (runOps p s' later) = .ok (some lease', s₂))
    (same : lease'.jobId = lease.jobId) : lease.attempt < lease'.attempt := by
  obtain ⟨row', member', named', count'⟩ := spent
  obtain ⟨row, member, named, -, next, -⟩ := claimCustomerJob_attempt claimed
  obtain ⟨row'', member'', advances⟩ := JobsAdvance.of_runOps s' keeps row' member'
  have one : row'' = row := Table.eq_of_key member'' member
    (advances.jobId.trans (named'.trans (same.symm.trans named.symm)))
  rw [next, ← one, ← count']
  exact Nat.lt_succ_of_le advances.attempts

/-! ## Stale leases -/

/-- The operation resolves a challenge presenting the lease, checked at this
time. -/
def Op.Presents (lease : CustomerJobLease) (now : Instant) : Op → Prop
  | resolveChallenge _ _ _ _ customer clock => customer.lease = some lease ∧ clock.lease = now
  | resolveChallengeWithReceipt _ _ _ _ _ customer clock =>
    customer.lease = some lease ∧ clock.lease = now
  | _ => False

theorem resolution_of_lease {p : Platform} {status : ChallengeStatus}
    {customer : CustomerArguments} {lease : CustomerJobLease} {resolution : Option Resolution}
    (presented : customer.lease = some lease)
    (validated : validateCustomerResolution p status customer = .ok resolution) :
    ∃ r, resolution = some r ∧ r.lease = lease := by
  simp only [validateCustomerResolution, presented, bind_eq_ok, pure_eq_ok] at validated
  obtain ⟨_, -, -, -, -, -, -, -, -, -, _, -, rfl⟩ := validated
  exact ⟨_, rfl, rfl⟩

/-- A committed resolution presented the current lease of its job. -/
theorem currentLease_of_commit {p : Platform} {s s' : State} {op : Op} {lease : CustomerJobLease}
    {now : Instant} (presents : op.Presents lease now) (committed : op.commit p s = .ok s') :
    ∃ row held, CurrentLease p s lease now row held := by
  have current : ∀ {resolution : Option Resolution} {customer : CustomerArguments}
      {status : ChallengeStatus} {u : Unit}, customer.lease = some lease →
      validateCustomerResolution p status customer = .ok resolution →
      requireLease p s now resolution = .ok u → ∃ row held, CurrentLease p s lease now row held := by
    intro resolution customer status u presented validated checked
    obtain ⟨r, rfl, rfl⟩ := resolution_of_lease presented validated
    exact currentLease_of_require checked
  cases op
  case resolveChallenge =>
    obtain ⟨presented, rfl⟩ := presents
    simp only [Op.commit, map_eq_ok, resolveChallenge, bind_eq_ok] at committed
    obtain ⟨_, ⟨_, -, resolution, validated, _, -, _, checked, -⟩, -⟩ := committed
    exact current presented validated checked
  case resolveChallengeWithReceipt =>
    obtain ⟨presented, rfl⟩ := presents
    simp only [Op.commit, map_eq_ok, resolveChallengeWithReceipt, bind_eq_ok] at committed
    obtain ⟨_, ⟨_, -, _, -, resolution, validated, _, -, _, checked, -⟩, -⟩ := committed
    exact current presented validated checked
  all_goals exact presents.elim

/-- **Stale leases.** A resolution under a lease that is not current raises and
changes nothing. -/
theorem stale_resolution_fails {p : Platform} {s : State} {op : Op} {lease : CustomerJobLease}
    {now : Instant} (presents : op.Presents lease now)
    (stale : ∀ row held, ¬ CurrentLease p s lease now row held) :
    (∃ failure, op.commit p s = .error failure) ∧ step p s op = s := by
  cases outcome : op.commit p s with
  | ok s' =>
    obtain ⟨row, held, current⟩ := currentLease_of_commit presents outcome
    exact absurd current (stale row held)
  | error failure => exact ⟨⟨failure, rfl⟩, by rw [step, outcome, settle_error]⟩

end Cathedral.Ledger
