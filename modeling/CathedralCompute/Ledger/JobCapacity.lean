import CathedralCompute.Ledger.JobHistory
import Mathlib.Algebra.Order.BigOperators.Group.List

/-!
# The caps on customer jobs

Only the enqueueing of a job looks at the caps: how many jobs are active, how many of
them one customer has, and how many bytes all jobs take. Claims, retries, failures and
results rewrite the rows afterwards without a look at them.

The caps hold all the same, because an active job is charged for the largest result it
may store. What is not reserved is the text of an error, so the bytes are counted
without it.

## Main definitions

* `JobRow.reservedBytes` — what a job is charged with, apart from its error
* `WithinCaps` — the caps

## Main results

* `jobs_within_caps` — every run keeps within the caps
-/

set_option autoImplicit false

namespace Cathedral.Ledger

open Codec Semantics

/-- The bytes a job is charged with, apart from the text of its error. -/
def JobRow.reservedBytes (row : JobRow) : ℕ :=
  row.payloadBody.length +
    if row.IsActive then maxCustomerJobResultBytes
    else (row.resultBody.map List.length).getD 0

/-- A stored result is not longer than what was reserved for it. -/
def JobRow.FitsResult (row : JobRow) : Prop :=
  ∀ body ∈ row.resultBody, body.length ≤ maxCustomerJobResultBytes

/-- The caps of the queue. -/
structure WithinCaps (s : State) : Prop where
  active : (s.jobs.select JobRow.IsActive).length ≤ maxActiveCustomerJobs
  customer : ∀ customerId, (s.jobs.select fun row => row.customerId = customerId ∧
    row.IsActive).length ≤ maxActiveCustomerJobsPerCustomer
  reserved : (s.jobs.rows.map JobRow.reservedBytes).sum ≤ maxCustomerJobStorageBytes
  results : ∀ row ∈ s.jobs.rows, row.FitsResult

theorem length_select (s : State) (q : JobRow → Prop) [DecidablePred q] :
    (s.jobs.select q).length = s.jobs.rows.countP fun row => q row :=
  (List.countP_eq_length_filter ..).symm

theorem JobRow.reservedBytes_le_storageBytes (row : JobRow) :
    row.reservedBytes ≤ row.storageBytes :=
  Nat.le_add_right _ _

theorem WithinCaps.initial : WithinCaps .initial where
  active := Nat.zero_le _
  customer _ := Nat.zero_le _
  reserved := Nat.zero_le _
  results _ member := nomatch member

/-! ## Rewritten rows -/

/-- The second row takes no more than the first. -/
structure JobRow.Eases (row row' : JobRow) : Prop where
  customer : row'.customerId = row.customerId
  active : row'.IsActive → row.IsActive
  reserved : row'.reservedBytes ≤ row.reservedBytes
  result : row'.FitsResult

theorem JobRow.Eases.refl {row : JobRow} (fits : row.FitsResult) : row.Eases row :=
  ⟨rfl, id, le_rfl, fits⟩

/-- An active job has reserved whatever becomes of it. -/
theorem JobRow.Eases.of_active {row row' : JobRow} (active : row.IsActive)
    (customer : row'.customerId = row.customerId) (payload : row'.payloadBody = row.payloadBody)
    (fits : row'.FitsResult) : row.Eases row' where
  customer := customer
  active _ := active
  reserved := by
    have stored : (row'.resultBody.map List.length).getD 0 ≤ maxCustomerJobResultBytes := by
      cases found : row'.resultBody with
      | none => exact Nat.zero_le _
      | some body => exact fits body found
    rw [JobRow.reservedBytes, JobRow.reservedBytes, payload, if_pos active]
    split
    · exact le_rfl
    · exact Nat.add_le_add_left stored _
  result := fits

section Changes

variable {s s' : State}

theorem WithinCaps.of_jobs (h : WithinCaps s) (same : s'.jobs = s.jobs) : WithinCaps s' :=
  ⟨same ▸ h.active, same ▸ h.customer, same ▸ h.reserved, same ▸ h.results⟩

/-- Rewriting rows to rows that take no more. -/
theorem WithinCaps.of_map (h : WithinCaps s) {f : JobRow → JobRow}
    (eases : ∀ row ∈ s.jobs.rows, row.Eases (f row)) (jobs : s'.jobs.rows = s.jobs.rows.map f) :
    WithinCaps s' where
  active := by
    refine le_trans ?_ h.active
    rw [length_select, length_select, jobs, List.countP_map]
    exact List.countP_mono_left fun row member active =>
      decide_eq_true ((eases row member).active (of_decide_eq_true active))
  customer customerId := by
    refine le_trans ?_ (h.customer customerId)
    rw [length_select, length_select, jobs, List.countP_map]
    refine List.countP_mono_left fun row member active => ?_
    obtain ⟨own, active⟩ := of_decide_eq_true active
    exact decide_eq_true ⟨(eases row member).customer.symm.trans own,
      (eases row member).active active⟩
  reserved := by
    refine le_trans ?_ h.reserved
    rw [jobs, List.map_map]
    exact List.sum_le_sum fun row member => (eases row member).reserved
  results row member := by
    rw [jobs] at member
    obtain ⟨old, before, rfl⟩ := List.mem_map.mp member
    exact (eases old before).result

/-- Rewriting active rows. -/
theorem WithinCaps.of_update (h : WithinCaps s) {q : JobRow → Prop} [DecidablePred q]
    {f : JobRow → JobRow} (eases : ∀ row ∈ s.jobs.rows, q row → row.Eases (f row))
    (jobs : s'.jobs.rows = s.jobs.rows.map fun row => if q row then f row else row) :
    WithinCaps s' := by
  refine h.of_map (fun row member => ?_) jobs
  by_cases chosen : q row
  · rw [if_pos chosen]
    exact eases row member chosen
  · rw [if_neg chosen]
    exact .refl (h.results row member)

/-- Fewer rows. -/
theorem WithinCaps.of_sublist (h : WithinCaps s) (fewer : s'.jobs.rows.Sublist s.jobs.rows) :
    WithinCaps s' where
  active := by
    refine le_trans ?_ h.active
    rw [length_select, length_select]
    exact fewer.countP_le
  customer customerId := by
    refine le_trans ?_ (h.customer customerId)
    rw [length_select, length_select]
    exact fewer.countP_le
  reserved := ((fewer.map _).sum_le_sum fun _ _ => Nat.zero_le _).trans h.reserved
  results row member := h.results row (fewer.subset member)

/-! ## Resolutions -/

/-- A validated resolution stores a bounded result. -/
theorem length_resultBody_le {p : Platform} {status : ChallengeStatus}
    {customer : CustomerArguments} {resolution : Resolution} {body : Bytes}
    (validated : validateCustomerResolution p status customer = .ok (some resolution))
    (stored : body ∈ resolution.resultBody) : body.length ≤ maxCustomerJobResultBytes := by
  cases held : customer.lease with
  | none =>
    simp only [validateCustomerResolution, held, bind_eq_ok, pure_eq_ok, reduceCtorEq, and_false,
      exists_false] at validated
  | some lease =>
    simp only [validateCustomerResolution, held, bind_eq_ok, pure_eq_ok,
      Option.some.injEq] at validated
    obtain ⟨_, -, _, -, _, -, _, -, _, -, result, written, rfl⟩ := validated
    cases given : customer.result with
    | none =>
      rw [given, customerResultBody, Except.ok.injEq] at written
      subst written
      cases stored
    | some mapping =>
      rw [given] at written
      simp only [customerResultBody, bind_eq_ok, require_eq_ok, pure_eq_ok] at written
      obtain ⟨_, -, _, ⟨-, short⟩, rfl⟩ := written
      obtain rfl := Option.some.inj stored
      exact short

theorem JobRow.isActive_of_leased {row : JobRow} {lease : Lease}
    (leased : row.status = .leased lease) : row.IsActive :=
  JobStatus.not_terminal_of_leased leased

theorem JobRow.isActive_of_queued {row : JobRow} (queued : row.status = .queued) : row.IsActive :=
  JobStatus.not_terminal_of_queued queued

/-! ## Every change -/

/-- Changes that enqueue nothing. -/
def idleScope : Scope := { Scope.all with enqueued := fun _ _ => False }

/-- A change that enqueues nothing keeps within the caps. -/
theorem WithinCaps.of_step {p : Platform} (h : WithinCaps s) (change : Step p idleScope s s') :
    WithinCaps s' := by
  cases change with
  | @resolveChallenge challenge status resolution units now jobTime receipts resolving bare
      receiptsAfter =>
    cases resolution with
    | none => exact h.of_jobs rfl
    | some r =>
      refine h.of_update (fun row member chosen => ?_) rfl
      obtain ⟨lease, held, -⟩ := chosen.2
      obtain ⟨customer, validated⟩ := resolving.validated
      exact .of_active (JobRow.isActive_of_leased (JobStatus.lease?_eq_some.mp held)) rfl rfl
        fun _ stored => length_resultBody_le validated stored
  | leaseJob running member queued below encodable payload inserted =>
    refine h.of_update (fun job listed chosen => ?_) rfl
    exact .of_active (JobRow.isActive_of_queued chosen.2) rfl rfl (h.results job listed)
  | takeBack now error resolvedAt member leased outcome =>
    refine h.of_update (fun job listed chosen => ?_) rfl
    rw [Table.eq_of_key listed member chosen]
    exact .of_active (JobRow.isActive_of_leased leased) rfl rfl fun body stored =>
      h.results _ member body stored
  | failExhausted now maxAttempts =>
    refine h.of_update (fun job listed chosen => ?_) rfl
    exact .of_active (JobRow.isActive_of_queued chosen.1) rfl rfl (h.results job listed)
  | enqueueJob queued body digest admitted inserted => exact admitted.elim
  | pruneJobs pruned admitted terminal => exact h.of_sublist List.filter_sublist
  | freezeEpoch member running frozen =>
    obtain ⟨time, generatedAt, audience, body, table, -, -, rfl⟩ := frozen.changed
    exact h.of_jobs rfl
  | _ => exact h.of_jobs rfl

end Changes

/-! ## Enqueueing -/

/-- A new job that found room. -/
theorem WithinCaps.of_insert {s : State} (h : WithinCaps s) {row : JobRow}
    {jobs : Table JobRow.jobId} (inserted : s.jobs.insert row = some jobs)
    (fresh : row.resultBody = none) (active : row.IsActive)
    (room : (s.jobs.select JobRow.IsActive).length < maxActiveCustomerJobs)
    (own : (s.jobs.select fun other => other.customerId = row.customerId ∧
      other.IsActive).length < maxActiveCustomerJobsPerCustomer)
    (bytes : (s.jobs.rows.map JobRow.storageBytes).sum +
      (row.payloadBody.length + maxCustomerJobResultBytes) ≤ maxCustomerJobStorageBytes) :
    WithinCaps { s with jobs := jobs } where
  active := by
    rw [length_select] at room ⊢
    rw [Table.rows_of_insert inserted, List.countP_append]
    exact (Nat.add_le_add_left List.countP_le_length _).trans room
  customer customerId := by
    by_cases same : row.customerId = customerId
    · subst same
      rw [length_select] at own ⊢
      rw [Table.rows_of_insert inserted, List.countP_append]
      exact (Nat.add_le_add_left List.countP_le_length _).trans own
    · -- the job of another customer is not counted
      rw [Table.select_insert inserted fun chosen => same chosen.1]
      exact h.customer customerId
  reserved := by
    have charged : (s.jobs.rows.map JobRow.reservedBytes).sum ≤
        (s.jobs.rows.map JobRow.storageBytes).sum :=
      List.sum_le_sum fun other _ => other.reservedBytes_le_storageBytes
    have own : row.reservedBytes = row.payloadBody.length + maxCustomerJobResultBytes := by
      rw [JobRow.reservedBytes, if_pos active]
    rw [Table.rows_of_insert inserted, List.map_append, List.sum_append, List.map_singleton,
      List.sum_singleton, own]
    omega
  results other member := by
    rcases (Table.mem_insert inserted).mp member with old | rfl
    · exact h.results other old
    · intro body stored
      rw [fresh] at stored
      cases stored

theorem WithinCaps.of_enqueue {p : Platform} {s s' : State} (h : WithinCaps s)
    {item : SatWorkItem} {customerId newJobId : Text} {idempotencyKey : Option Text}
    {now : Instant} {snapshot : CustomerJobSnapshot}
    (enqueued : enqueueCustomerJob p item customerId idempotencyKey newJobId now s =
      .ok (snapshot, s')) : WithinCaps s' := by
  simp only [enqueueCustomerJob, bind_eq_ok] at enqueued
  obtain ⟨-, -, -, -, body, -, enqueued⟩ := enqueued
  split at enqueued
  case h_1 =>
    simp only [bind_eq_ok, pure_eq_ok, Prod.mk.injEq] at enqueued
    obtain ⟨-, -, -, -, -, rfl⟩ := enqueued
    exact h
  case h_2 =>
    simp only [bind_eq_ok, require_eq_ok, demand_eq_ok, pure_eq_ok, Prod.mk.injEq] at enqueued
    obtain ⟨-, room, -, own, -, bytes, jobs, inserted, -, -, -, rfl⟩ := enqueued
    exact h.of_insert inserted rfl (JobRow.isActive_of_queued rfl) room own bytes

theorem WithinCaps.of_op {p : Platform} {s : State} (h : WithinCaps s) (op : Op) :
    WithinCaps (step p s op) := by
  cases op
  case enqueueCustomerJob item customerId idempotencyKey newJobId now =>
    refine settle_of_ok h fun s' committed => ?_
    simp only [Op.commit, map_eq_ok] at committed
    obtain ⟨⟨snapshot, _⟩, enqueued, rfl⟩ := committed
    exact h.of_enqueue enqueued
  case resolveChallenge =>
    exact invariant_steps WithinCaps.of_step h (steps_of_step fun _ => trivial)
  case resolveChallengeWithReceipt =>
    exact invariant_steps WithinCaps.of_step h (steps_of_step fun _ => trivial)
  case exportScoreClassReport =>
    exact invariant_steps WithinCaps.of_step h (steps_of_step fun _ _ => trivial)
  all_goals exact invariant_steps WithinCaps.of_step h (steps_of_step trivial)

/-- **Caps on customer jobs.** In every state that a run of operations reaches, the active
jobs, those of each customer, and the bytes of all payloads with the results they store or
may still store keep within their caps. -/
theorem jobs_within_caps (p : Platform) (ops : List Op) : WithinCaps (runOps p .initial ops) :=
  invariant_run (fun _ op h => h.of_op op) .initial ops

end Cathedral.Ledger
