import CathedralCompute.Ledger.EpochHistory
import CathedralCompute.Sample

/-!
# Leases, challenges and epochs in step

A leased customer job names a challenge of its epoch. Claiming, reclaiming,
aborting and resolving with the lease keep the two in step. Resolving by
challenge id alone does not look at the jobs, and takes the challenge of a live
lease away from its job. `leases_in_step` says that this is the only way: in a
run that never resolves the challenge of a leased job without its lease, every
lease stands on an issued challenge of a running epoch.
-/

set_option autoImplicit false

namespace Cathedral.Ledger

open Codec Semantics

/-! ## Current leases -/

/-- The lease is the current one of its job, names the job's attempt and payload,
and has not expired. -/
structure CurrentLease (p : Platform) (s : State) (lease : CustomerJobLease) (now : Instant)
    (row : JobRow) (current : Lease) : Prop where
  member : row ∈ s.jobs.rows
  named : row.jobId = lease.jobId
  leased : row.status = .leased current
  token : current.token = lease.leaseToken
  owner : current.owner = lease.ownerHotkey
  epochId : current.epochId = lease.epochId
  challengeId : current.challengeId = lease.challengeId
  attempt : row.attemptCount = lease.attempt
  item : ∃ original, customerItemFromBody p row.payloadBody row.payloadDigest = .ok original ∧
    lease.item = customerDispatchItem p original lease.jobId lease.attempt
  unexpired : now < current.expiresAt

theorem currentLease_of_require {p : Platform} {s : State} {lease : CustomerJobLease}
    {now : Instant} {u : Unit} (current : requireCurrentCustomerLease p s lease now = .ok u) :
    ∃ row held, CurrentLease p s lease now row held := by
  simp only [requireCurrentCustomerLease, bind_eq_ok, demand_eq_ok, require_eq_ok,
    Table.find?_eq_some, JobStatus.lease?_eq_some] at current
  obtain ⟨-, -, row, ⟨member, named⟩, held, leased, -, ⟨token, owner, epochId, challengeId, attempt⟩,
    original, payload, -, item, unexpired⟩ := current
  exact ⟨row, held, member, named, leased, token, owner, epochId, challengeId, attempt,
    ⟨original, payload, item⟩, unexpired⟩

/-- The lease a resolution presents is current. -/
theorem Resolving.currentLease {p : Platform} {s : State} {challenge : ChallengeRow}
    {status : ChallengeStatus} {resolution : Resolution}
    (resolving : Resolving p s challenge status (some resolution)) :
    ∃ now row held, CurrentLease p s resolution.lease now row held := by
  obtain ⟨now, current⟩ := resolving.current
  obtain ⟨row, held, lease⟩ := currentLease_of_require current
  exact ⟨now, row, held, lease⟩

/-- A resolved job is not leased. -/
theorem Resolution.not_leased (resolution : Resolution) (now : Instant) (row : JobRow)
    (lease : Lease) : (resolution.apply now row).status ≠ .leased lease := by
  show resolution.finalStatus ≠ .leased lease
  unfold Resolution.finalStatus
  split
  · exact fun h => (nomatch h)
  · split <;> exact fun h => (nomatch h)

/-! ## The invariant -/

/-- The lease stands on an issued challenge of its owner in its running epoch. -/
def LeaseStands (s : State) (lease : Lease) : Prop :=
  s.Running lease.epochId ∧ ∃ challenge ∈ s.challenges.rows,
    challenge.challengeId = lease.challengeId ∧ challenge.status = .issued ∧
      challenge.hotkey = lease.owner ∧ challenge.epochId = lease.epochId

/-- Every lease stands, and no two leased jobs share a challenge. -/
structure LeasesInStep (s : State) : Prop where
  stands : ∀ job ∈ s.jobs.rows, ∀ lease, job.status = .leased lease → LeaseStands s lease
  distinct : ∀ job ∈ s.jobs.rows, ∀ job' ∈ s.jobs.rows, ∀ lease lease',
    job.status = .leased lease → job'.status = .leased lease' →
    lease.challengeId = lease'.challengeId → job = job'

theorem LeasesInStep.initial : LeasesInStep .initial :=
  ⟨fun _ none => (nomatch none), fun _ none => (nomatch none)⟩

/-- No leased job names the challenge. -/
def Unleased (s : State) (challengeId : Text) : Prop :=
  ∀ job ∈ s.jobs.rows, ∀ lease, job.status = .leased lease → lease.challengeId ≠ challengeId

section Preservation

variable {s s' : State}

/-- Leased jobs of the new state were leased before, and their leases still
stand. -/
theorem LeasesInStep.of_leased (h : LeasesInStep s)
    (before : ∀ job ∈ s'.jobs.rows, ∀ lease, job.status = .leased lease → job ∈ s.jobs.rows)
    (stands : ∀ job ∈ s'.jobs.rows, ∀ lease, job.status = .leased lease → LeaseStands s lease →
      LeaseStands s' lease) : LeasesInStep s' where
  stands job member lease leased :=
    stands job member lease leased (h.stands job (before job member lease leased) lease leased)
  distinct job member job' member' lease lease' leased leased' same :=
    h.distinct job (before job member lease leased) job' (before job' member' lease' leased') lease
      lease' leased leased' same

/-- A lease stands as long as its challenge and its epoch are left alone. -/
theorem LeaseStands.mono {lease : Lease} (h : LeaseStands s lease)
    (running : s.Running lease.epochId → s'.Running lease.epochId)
    (challenges : ∀ challenge ∈ s.challenges.rows, challenge.challengeId = lease.challengeId →
      challenge ∈ s'.challenges.rows) : LeaseStands s' lease := by
  obtain ⟨active, challenge, member, named, facts⟩ := h
  exact ⟨running active, challenge, challenges challenge member named, named, facts⟩

/-- Rewriting one epoch that is not running leaves the running ones. -/
theorem State.Running.of_update {epochId : ℕ} (running : s.Running epochId) {row : EpochRow}
    {f : EpochRow → EpochRow} (member : row ∈ s.epochs.rows)
    (other : row.status = .running → row.epochId ≠ epochId)
    (epochs : s'.epochs.rows =
      s.epochs.rows.map fun other => if other.epochId = row.epochId then f other else other) :
    s'.Running epochId := by
  obtain ⟨owner, owned, named, status⟩ := running
  refine ⟨owner, ?_, named, status⟩
  rw [epochs]
  refine List.mem_map.mpr ⟨owner, owned, if_neg fun same => ?_⟩
  have one := Table.eq_of_key owned member same
  exact other (one ▸ status) (same.symm.trans named)

/-- A lease whose challenge was rewritten by an update that spares it. -/
theorem LeaseStands.of_update {lease : Lease} (h : LeaseStands s lease)
    {q : ChallengeRow → Prop} [DecidablePred q] {f : ChallengeRow → ChallengeRow}
    (epochs : s'.epochs = s.epochs)
    (challenges : s'.challenges.rows =
      s.challenges.rows.map fun row => if q row then f row else row)
    (spared : ∀ challenge, challenge.challengeId = lease.challengeId → ¬ q challenge) :
    LeaseStands s' lease := by
  refine h.mono (running_of_epochs epochs) fun challenge member named => ?_
  rw [challenges]
  exact List.mem_map.mpr ⟨challenge, member, if_neg (spared challenge named)⟩

/-- Taking a lease back leaves the others. -/
theorem LeasesInStep.of_takeBack (h : LeasesInStep s) {job : JobRow × Lease} {status : JobStatus}
    (now : Instant) (error : Text) (resolvedAt : JobRow → Option Instant)
    (member : job.1 ∈ s.jobs.rows) (held : job.1.status = .leased job.2)
    (outcome : status = .queued ∨ status = .failed) :
    LeasesInStep (takeBack now status error resolvedAt s job) := by
  have origin : ∀ row ∈ (takeBack now status error resolvedAt s job).jobs.rows, ∀ lease,
      row.status = .leased lease → row ∈ s.jobs.rows ∧ row.jobId ≠ job.1.jobId := by
    intro row listed lease leased
    obtain ⟨old, before, rfl⟩ := Table.exists_of_mem_update listed
    split at leased
    case isTrue =>
      have released : status = .leased lease := leased
      rcases outcome with rfl | rfl <;> cases released
    case isFalse other =>
      rw [if_neg other]
      exact ⟨before, other⟩
  refine h.of_leased (fun row listed lease leased => (origin row listed lease leased).1)
    fun row listed lease leased stands => stands.of_update rfl rfl fun challenge named taken => ?_
  obtain ⟨before, other⟩ := origin row listed lease leased
  have same : lease.challengeId = job.2.challengeId := named.symm.trans taken.1
  exact other (congrArg JobRow.jobId (h.distinct row before job.1 member lease job.2 leased held same))

/-- A fresh challenge leaves the leases, which stand on older ones. -/
theorem LeaseStands.of_insert {lease : Lease} (h : LeaseStands s lease) {row : ChallengeRow}
    (inserted : s.challenges.insert row = some s'.challenges) (epochs : s'.epochs = s.epochs) :
    LeaseStands s' lease :=
  h.mono (running_of_epochs epochs) fun _ member _ =>
    (Table.mem_insert inserted).mpr (.inl member)

/-- Resolving with a current lease, or a challenge no lease names, leaves the
other leases. -/
theorem LeasesInStep.of_resolve {p : Platform} (h : LeasesInStep s) {challenge : ChallengeRow}
    {status : ChallengeStatus} {resolution : Option Resolution} {units : ℚ≥0}
    {now jobTime : Instant} {receipts : Table ReceiptRow.receiptId}
    (resolving : Resolving p s challenge status resolution)
    (bare : resolution = none → Unleased s challenge.challengeId) :
    LeasesInStep { s with
      challenges := s.challenges.update (fun row => row.challengeId = challenge.challengeId)
        fun row => row.resolve status units now
      jobs := resolvedJobs s.jobs jobTime resolution
      receipts := receipts } := by
  -- The jobs still leased are old ones, and their leases name other challenges.
  have origin : ∀ row ∈ (resolvedJobs s.jobs jobTime resolution).rows, ∀ lease,
      row.status = .leased lease →
        row ∈ s.jobs.rows ∧ lease.challengeId ≠ challenge.challengeId := by
    intro row listed lease leased
    cases resolution with
    | none => exact ⟨listed, bare rfl row listed lease leased⟩
    | some r =>
      obtain ⟨old, before, rfl⟩ := Table.exists_of_mem_update listed
      split at leased
      case isTrue => exact absurd leased (r.not_leased jobTime old lease)
      case isFalse other =>
        rw [if_neg other]
        refine ⟨before, fun same => other ?_⟩
        obtain ⟨time, owner, held, current⟩ := resolving.currentLease
        have one : old = owner := h.distinct old before owner current.member lease held leased
          current.leased (same.trans ((resolving.matched r rfl).symm.trans
            current.challengeId.symm))
        subst one
        exact ⟨current.named, held, JobStatus.lease?_eq_some.mpr current.leased, current.token⟩
  exact h.of_leased (fun row listed lease leased => (origin row listed lease leased).1)
    fun row listed lease leased stands => stands.of_update rfl rfl fun other named resolved =>
      (origin row listed lease leased).2 (named.symm.trans resolved)

/-- A claimed job stands on its fresh challenge. -/
theorem LeasesInStep.of_lease (h : LeasesInStep s) {row : JobRow} {lease : Lease} {attempt : ℕ}
    {now : Instant} {challenges : Table ChallengeRow.challengeId}
    (running : s.Running lease.epochId)
    (inserted : s.challenges.insert
      (.issue lease.challengeId lease.epochId lease.owner now) = some challenges) :
    LeasesInStep { s with
      challenges := challenges
      jobs := s.jobs.update (fun job => job.jobId = row.jobId ∧ job.status = .queued) fun job =>
        job.leaseTo lease attempt } := by
  have origin : ∀ job ∈ (s.jobs.update (fun job => job.jobId = row.jobId ∧ job.status = .queued)
      fun job => job.leaseTo lease attempt).rows, ∀ held, job.status = .leased held →
        (job ∈ s.jobs.rows ∧ LeaseStands s held) ∨ (job.jobId = row.jobId ∧ held = lease) := by
    intro job listed held leased
    obtain ⟨old, before, rfl⟩ := Table.exists_of_mem_update listed
    split at leased
    case isTrue chosen =>
      rw [if_pos chosen]
      exact .inr ⟨chosen.1, (JobStatus.leased.inj leased).symm⟩
    case isFalse other =>
      rw [if_neg other]
      exact .inl ⟨before, h.stands old before held leased⟩
  -- An older lease stands on an older challenge.
  have fresh : ∀ held, LeaseStands s held → held.challengeId ≠ lease.challengeId := by
    rintro held ⟨-, challenge, member, named, -⟩ same
    exact (Table.insert_eq_some.mp inserted).1 challenge member (named.trans same)
  refine ⟨fun job listed held leased => ?_,
    fun job listed job' listed' held held' leased leased' same => ?_⟩
  · rcases origin job listed held leased with ⟨-, stands⟩ | ⟨-, rfl⟩
    · exact stands.of_insert inserted rfl
    · exact ⟨running, _, (Table.mem_insert inserted).mpr (.inr rfl), rfl, rfl, rfl, rfl⟩
  · rcases origin job listed held leased with ⟨before, stands⟩ | ⟨named, rfl⟩
    · rcases origin job' listed' held' leased' with ⟨before', -⟩ | ⟨-, rfl⟩
      · exact h.distinct job before job' before' held held' leased leased' same
      · exact absurd same (fresh held stands)
    · rcases origin job' listed' held' leased' with ⟨-, stands⟩ | ⟨named', rfl⟩
      · exact absurd same.symm (fresh held' stands)
      · exact Table.eq_of_key listed listed' (named.trans named'.symm)

/-- Changes that resolve without a lease only what no leased job holds. -/
def leaseScope : Scope := { Scope.all with bare := Unleased }

theorem LeasesInStep.of_step {p : Platform} (h : LeasesInStep s)
    (change : Step p leaseScope s s') : LeasesInStep s' := by
  cases change with
  | beginEpoch idle above inserted =>
    refine h.of_leased (fun _ member _ _ => member) fun _ _ lease _ stands =>
      stands.mono (fun running => ?_) fun _ member _ => member
    obtain ⟨row, member, facts⟩ := running
    exact ⟨row, (Table.mem_insert inserted).mpr (.inl member), facts⟩
  | abortEpoch member running released =>
    exact h.of_leased (fun _ listed _ _ => listed) fun job listed lease leased stands =>
      stands.mono (fun active => active.of_update member
        (fun _ same => released job listed lease leased same.symm) rfl) fun _ listed _ => listed
  | freezeEpoch member running frozen =>
    obtain ⟨time, generatedAt, audience, body, table, -, -, rfl⟩ := frozen.changed
    refine h.of_leased (fun _ listed _ _ => listed) fun job listed lease leased stands =>
      stands.mono (fun active => active.of_update member (fun _ same => ?_) rfl)
        fun _ listed _ => listed
    -- A lease in this epoch would stand on an issued challenge of it.
    obtain ⟨-, challenge, listed', -, issued, -, here⟩ := stands
    exact frozen.resolved challenge listed' (here.trans same.symm) issued
  | abandonEpoch now reason member complete =>
    exact h.of_leased (fun _ listed _ _ => listed) fun job listed lease leased stands =>
      stands.mono (fun active => active.of_update member
        (fun running => by rw [complete] at running; cases running) rfl) fun _ listed _ => listed
  | publishEpoch now member complete =>
    exact h.of_leased (fun _ listed _ _ => listed) fun job listed lease leased stands =>
      stands.mono (fun active => active.of_update member
        (fun running => by rw [complete] at running; cases running) rfl) fun _ listed _ => listed
  | issueChallenge running inserted =>
    exact h.of_leased (fun _ listed _ _ => listed) fun _ _ _ _ stands =>
      stands.of_insert inserted rfl
  | resolveChallenge units now jobTime resolving bare receipts => exact h.of_resolve resolving bare
  | leaseJob running member queued below encodable payload inserted =>
    exact h.of_lease running inserted
  | takeBack now error resolvedAt member leased outcome =>
    exact h.of_takeBack now error resolvedAt member leased outcome
  | failExhausted now maxAttempts =>
    refine h.of_leased (fun job listed lease leased => ?_) fun _ _ _ _ stands => stands
    obtain ⟨old, before, rfl⟩ := Table.exists_of_mem_update listed
    split at leased
    case isTrue => cases leased
    case isFalse other =>
      rw [if_neg other]
      exact before
  | enqueueJob queued body digest admitted inserted =>
    refine h.of_leased (fun job listed lease leased => ?_) fun _ _ _ _ stands => stands
    rcases (Table.mem_insert inserted).mp listed with old | rfl
    · exact old
    · rw [queued] at leased
      cases leased
  | pruneJobs pruned admitted terminal =>
    exact h.of_leased (fun job listed lease leased => (Table.mem_delete.mp listed).1)
      fun _ _ _ _ stands => stands
  | _ => exact h.of_leased (fun _ listed _ _ => listed) fun _ _ _ _ stands => stands

end Preservation

/-- Whether the operation resolves the challenge without presenting a lease. -/
def Op.ResolvesBare (challengeId : Text) : Op → Prop
  | resolveChallenge named _ _ _ customer _ => named = challengeId ∧ customer.lease = none
  | resolveChallengeWithReceipt named _ _ _ _ customer _ =>
    named = challengeId ∧ customer.lease = none
  | _ => False

/-- The operation resolves no challenge of a leased job without its lease. -/
def RespectsLeases (s : State) (op : Op) : Prop :=
  ∀ challengeId, op.ResolvesBare challengeId → Unleased s challengeId

theorem RespectsLeases.within {p : Platform} {s : State} {op : Op} (h : RespectsLeases s op) :
    op.Within p leaseScope s := by
  cases op
  case resolveChallenge => exact fun bare => h _ ⟨rfl, bare⟩
  case resolveChallengeWithReceipt => exact fun bare => h _ ⟨rfl, bare⟩
  case exportScoreClassReport => exact fun _ _ => trivial
  all_goals trivial

/-- **Leases in step.** In a run whose lease-less resolutions all name challenges
no leased job holds, every state reached has each lease on an issued challenge of
its owner in its running epoch, and no two leased jobs on one challenge. -/
theorem leases_in_step {p : Platform} {ops : List Op}
    (respectful : Along (step p) RespectsLeases .initial ops) :
    ∀ before after, ops = before ++ after → LeasesInStep (runOps p .initial before) := by
  rintro before after rfl
  refine invariant_along (fun s op h respects => ?_) LeasesInStep.initial
    (along_append.mp respectful).1
  exact invariant_steps (fun h change => LeasesInStep.of_step h change) h
    (steps_of_step respects.within)

/-- A satisfiable instance with two variables, as a customer submits it. -/
def sampleItem : SatWorkItem :=
  let satInstance : SatInstance := ⟨2, [[1, -2], [2]]⟩
  ⟨satInstance, 7, Sat.computeChallengeId .sample satInstance 7⟩

/-- The item is enqueued and claimed in a running epoch. -/
def sampleClaim : List Op :=
  [.enqueueCustomerJob sampleItem "alice" none "job-1" 0, .beginEpoch 5 {} 0,
    .claimCustomerJob "miner" 1 60 3 "token" 1]

/-- The challenge of the claimed job is resolved without its lease. -/
def sampleBareResolution : Op :=
  .resolveChallenge (customerDispatchItem .sample sampleItem "job-1" 1).challengeId "verified"
    (some (.finite 20)) true .none ⟨2, 2, 2⟩

/-- The job is leased, and it stays leased when its challenge is resolved without the lease. -/
theorem leased_samples : (∃ job ∈ (runOps .sample .initial sampleClaim).jobs.rows,
      job.status.lease?.isSome = true) ∧
    ∃ job ∈ (runOps .sample .initial (sampleClaim ++ [sampleBareResolution])).jobs.rows,
      ∃ lease ∈ job.status.lease?, ∀ challenge ∈
        (runOps .sample .initial (sampleClaim ++ [sampleBareResolution])).challenges.rows,
        challenge.challengeId = lease.challengeId → challenge.status ≠ .issued :=
  ⟨by decide +kernel, by decide +kernel⟩

theorem leases_in_step_claimed : ∃ job ∈ (runOps .sample .initial sampleClaim).jobs.rows,
    ∃ lease, job.status = .leased lease ∧
      LeaseStands (runOps .sample .initial sampleClaim) lease := by
  obtain ⟨job, member, held⟩ := leased_samples.1
  obtain ⟨lease, held⟩ := Option.isSome_iff_exists.mp held
  have status := JobStatus.lease?_eq_some.mp held
  have respectful : Along (step .sample) RespectsLeases .initial sampleClaim :=
    ⟨fun _ none => none.elim, fun _ none => none.elim, fun _ none => none.elim, trivial⟩
  have stands := (leases_in_step respectful sampleClaim [] (List.append_nil _).symm).stands
  exact ⟨job, member, lease, status, stands job member lease status⟩

theorem not_leases_in_step_bare :
    ¬ LeasesInStep (runOps .sample .initial (sampleClaim ++ [sampleBareResolution])) := by
  obtain ⟨job, member, lease, held, resolved⟩ := leased_samples.2
  intro inStep
  obtain ⟨-, challenge, listed, named, issued, -⟩ :=
    inStep.stands job member lease (JobStatus.lease?_eq_some.mp held)
  exact resolved challenge listed named issued

end Cathedral.Ledger
