import CathedralCompute.Ledger.JobHistory

/-!
# The results of succeeded jobs

The invariant behind `customer_jobs_sound`: every job stores the payload of an
item that was enqueued under its id, every lease names a challenge of its owner,
and every succeeded job stores a solution of its item.
-/

set_option autoImplicit false

namespace Cathedral.Ledger

open Codec Semantics

/-! ## Challenges are kept -/

/-- A challenge keeps its id and its hotkey, and all of it once it is resolved. -/
def ChallengesKept (s s' : State) : Prop :=
  ∀ challenge ∈ s.challenges.rows, ∃ challenge' ∈ s'.challenges.rows,
    challenge'.challengeId = challenge.challengeId ∧ challenge'.hotkey = challenge.hotkey ∧
      (challenge.status ≠ .issued → challenge' = challenge)

theorem ChallengesKept.of_rows {s s' : State}
    (kept : ∀ challenge ∈ s.challenges.rows, challenge ∈ s'.challenges.rows) :
    ChallengesKept s s' :=
  fun challenge member => ⟨challenge, kept challenge member, rfl, rfl, fun _ => rfl⟩

theorem ChallengesKept.of_update {s s' : State} {q : ChallengeRow → Prop} [DecidablePred q]
    {f : ChallengeRow → ChallengeRow}
    (challenges : s'.challenges.rows =
      s.challenges.rows.map fun row => if q row then f row else row)
    (issued : ∀ row ∈ s.challenges.rows, q row → row.status = .issued)
    (keeps : ∀ row, (f row).challengeId = row.challengeId ∧ (f row).hotkey = row.hotkey) :
    ChallengesKept s s' := by
  intro challenge member
  rw [challenges]
  by_cases chosen : q challenge
  · exact ⟨f challenge, List.mem_map.mpr ⟨challenge, member, if_pos chosen⟩, (keeps challenge).1,
      (keeps challenge).2, fun resolved => absurd (issued challenge member chosen) resolved⟩
  · exact ⟨challenge, List.mem_map.mpr ⟨challenge, member, if_neg chosen⟩, rfl, rfl, fun _ => rfl⟩

theorem ChallengesKept.of_step {p : Platform} {scope : Scope} {s s' : State}
    (change : Step p scope s s') : ChallengesKept s s' := by
  cases change with
  | issueChallenge running inserted =>
    exact .of_rows fun _ member => (Table.mem_insert inserted).mpr (.inl member)
  | leaseJob running member queued below encodable payload inserted =>
    exact .of_rows fun _ member => (Table.mem_insert inserted).mpr (.inl member)
  | resolveChallenge units now jobTime resolving bare receipts =>
    refine .of_update rfl (fun row member named => ?_) fun _ => ⟨rfl, rfl⟩
    rw [Table.eq_of_key member resolving.member named]
    exact resolving.issued
  | takeBack now error resolvedAt member leased outcome =>
    exact .of_update rfl (fun row member named => named.2) fun _ => ⟨rfl, rfl⟩
  | freezeEpoch member running frozen =>
    obtain ⟨time, generatedAt, audience, body, table, -, -, rfl⟩ := frozen.changed
    exact .of_rows fun _ member => member
  | _ => exact .of_rows fun _ member => member

/-! ## What happens to one job -/

/-- The row stores the payload of this item, which may be enqueued under its
id. -/
def PayloadOf (p : Platform) (scope : Scope) (row : JobRow) (item : SatWorkItem) : Prop :=
  scope.enqueued row.jobId item ∧ customerItemBody p item = .ok row.payloadBody ∧
    row.payloadDigest = sha256Digest row.payloadBody

/-- The lease names an encodable owner and a challenge of that owner. -/
def LeaseNamed (s : State) (lease : Lease) : Prop :=
  lease.owner.NoSurrogate ∧ ∃ challenge ∈ s.challenges.rows,
    challenge.challengeId = lease.challengeId ∧ challenge.hotkey = lease.owner

/-- The row stores a solution of the instance under a challenge that is verified
for the hotkey it names. -/
def SolvedJob (p : Platform) (s : State) (row : JobRow) (satInstance : SatInstance) : Prop :=
  ∃ body challengeId hotkey, row.resultBody = some body ∧
    ReadsSolution p body satInstance challengeId hotkey ∧
    ∃ challenge ∈ s.challenges.rows, challenge.challengeId = challengeId ∧
      challenge.hotkey = hotkey ∧ challenge.status = .verified

/-- How a row of the jobs table came about. -/
inductive JobChange (p : Platform) (scope : Scope) (s s' : State) (row' : JobRow) : Prop
  | kept (member : row' ∈ s.jobs.rows)
  | enqueued (item : SatWorkItem) (queued : row'.status = .queued)
      (payload : PayloadOf p scope row' item)
  | released (row : JobRow) (member : row ∈ s.jobs.rows) (advances : row.Advances row')
      (status : row'.status = .queued ∨ row'.status = .failed)
  | leased (row : JobRow) (lease : Lease) (member : row ∈ s.jobs.rows)
      (advances : row.Advances row') (status : row'.status = .leased lease)
      (named : LeaseNamed s' lease)
  | succeeded (row : JobRow) (lease : Lease) (resolution : Resolution) (challenge : ChallengeRow)
      (now jobTime : Instant) (current : CurrentLease p s resolution.lease now row lease)
      (advances : row.Advances row') (resolving : Resolving p s challenge .verified (some resolution))
      (status : row'.status = .succeeded) (result : row'.resultBody = resolution.resultBody)
      (disposition : resolution.disposition = .succeeded)
      (verified : ∃ challenge' ∈ s'.challenges.rows,
        challenge'.challengeId = challenge.challengeId ∧ challenge'.hotkey = challenge.hotkey ∧
          challenge'.status = .verified)

/-- A resolution that succeeds was of a verified challenge, with an accepted
result as its body. -/
theorem accepted_of_succeeded {p : Platform} {status : ChallengeStatus}
    {customer : CustomerArguments} {resolution : Resolution}
    (validated : validateCustomerResolution p status customer = .ok (some resolution))
    (succeeded : resolution.disposition = .succeeded) :
    status = .verified ∧ ∃ result assignment body,
      AcceptedResult resolution.lease result assignment ∧
      canonicalJson p (.obj result.members) = some body ∧ resolution.resultBody = some body := by
  cases held : customer.lease with
  | none =>
    simp only [validateCustomerResolution, held, bind_eq_ok, pure_eq_ok, reduceCtorEq, and_false,
      exists_false] at validated
  | some lease =>
    simp only [validateCustomerResolution, held, bind_eq_ok, require_eq_ok, demand_eq_ok,
      pure_eq_ok, Option.some.injEq] at validated
    obtain ⟨disposition, -, -, -, ⟨⟩, checked, -, -, -, -, stored, written, rfl⟩ := validated
    obtain rfl : disposition = .succeeded := succeeded
    simp only [validateDisposition, if_true, bind_eq_ok, require_eq_ok, demand_eq_ok] at checked
    obtain ⟨-, ⟨verified, -⟩, result, given, accepted⟩ := checked
    obtain ⟨assignment, accepted⟩ := acceptedResult_of_validate accepted
    rw [given] at written
    simp only [customerResultBody, bind_eq_ok, demand_eq_ok, require_eq_ok, pure_eq_ok] at written
    obtain ⟨body, written, -, -, rfl⟩ := written
    exact ⟨verified, result, assignment, body, accepted, written, rfl⟩

/-- Every row of the jobs table after a change. -/
theorem jobs_of_step {p : Platform} {scope : Scope} {s s' : State} (change : Step p scope s s') :
    ∀ row' ∈ s'.jobs.rows, JobChange p scope s s' row' := by
  cases change with
  | @resolveChallenge challenge status resolution units now jobTime receipts resolving bare
      receiptsAfter =>
    intro row' listed
    cases resolution with
    | none => exact .kept listed
    | some r =>
      obtain ⟨old, member, rfl⟩ := Table.exists_of_mem_update listed
      split
      case isFalse => exact .kept member
      case isTrue chosen =>
        -- a job is resolved only under its lease, so the row is the one leased
        obtain ⟨time, row, held, current⟩ := resolving.currentLease
        have one : old = row := Table.eq_of_key member current.member
          (chosen.1.trans current.named.symm)
        subst one
        have advances : old.Advances (r.apply jobTime old) :=
          ⟨rfl, ⟨rfl, rfl⟩, le_rfl,
            fun ended => absurd ended (JobStatus.not_terminal_of_leased current.leased)⟩
        by_cases succeeded : r.disposition = .succeeded
        · obtain ⟨customer, validated⟩ := resolving.validated
          obtain ⟨rfl, -⟩ := accepted_of_succeeded validated succeeded
          refine .succeeded old held r challenge time jobTime current advances resolving ?_ rfl
            succeeded ⟨challenge.resolve .verified units now,
              List.mem_map.mpr ⟨challenge, resolving.member, if_pos rfl⟩, rfl, rfl, rfl⟩
          exact if_pos succeeded
        · refine .released old member advances ?_
          show r.finalStatus = _ ∨ r.finalStatus = _
          rw [Resolution.finalStatus, if_neg succeeded]
          split
          · exact .inl rfl
          · exact .inr rfl
  -- a lease issues its challenge in the same step
  | leaseJob running member queued below encodable payload inserted =>
    intro row' listed
    obtain ⟨old, before, rfl⟩ := Table.exists_of_mem_update listed
    split
    case isFalse => exact .kept before
    case isTrue chosen =>
      obtain rfl := Table.eq_of_key before member chosen.1
      exact .leased old _ before ⟨rfl, ⟨rfl, rfl⟩, Nat.le_succ _,
        fun ended => absurd ended (JobStatus.not_terminal_of_queued queued)⟩ rfl
        ⟨encodable, _, (Table.mem_insert inserted).mpr (.inr rfl), rfl, rfl⟩
  | @takeBack job status now error resolvedAt member leased outcome =>
    intro row' listed
    obtain ⟨old, before, rfl⟩ := Table.exists_of_mem_update listed
    split
    case isFalse => exact .kept before
    case isTrue chosen =>
      obtain rfl := Table.eq_of_key before member chosen
      exact .released _ before ⟨rfl, ⟨rfl, rfl⟩, le_rfl,
        fun ended => absurd ended (JobStatus.not_terminal_of_leased leased)⟩ outcome
  | failExhausted now maxAttempts =>
    intro row' listed
    obtain ⟨old, before, rfl⟩ := Table.exists_of_mem_update listed
    split
    case isFalse => exact .kept before
    case isTrue chosen =>
      exact .released old before ⟨rfl, ⟨rfl, rfl⟩, le_rfl,
        fun ended => absurd ended (JobStatus.not_terminal_of_queued chosen.1)⟩ (.inr rfl)
  | enqueueJob queued body digest admitted inserted =>
    intro row' listed
    rcases (Table.mem_insert inserted).mp listed with old | rfl
    · exact .kept old
    · exact .enqueued _ queued ⟨admitted, body, digest⟩
  -- the other steps take rows away, or leave the table alone
  | pruneJobs pruned admitted terminal =>
    exact fun row' listed => .kept (Table.mem_delete.mp listed).1
  | freezeEpoch member running frozen =>
    obtain ⟨time, generatedAt, audience, body, table, -, -, rfl⟩ := frozen.changed
    exact fun row' listed => .kept listed
  | _ => exact fun row' listed => .kept listed

/-! ## The invariant -/

/-- What holds of every row of the jobs table. -/
structure JobsSound (p : Platform) (scope : Scope) (s : State) : Prop where
  payload : ∀ row ∈ s.jobs.rows, ∃ item, PayloadOf p scope row item
  leased : ∀ row ∈ s.jobs.rows, ∀ lease, row.status = .leased lease → LeaseNamed s lease
  solved : ∀ row ∈ s.jobs.rows, row.status = .succeeded → ∀ item, PayloadOf p scope row item →
    SolvedJob p s row item.satInstance

theorem JobsSound.initial (p : Platform) (scope : Scope) : JobsSound p scope .initial :=
  ⟨fun _ none => (nomatch none), fun _ none => (nomatch none), fun _ none => (nomatch none)⟩

section Preservation

variable {p : Platform} {scope : Scope} {s s' : State}

theorem PayloadOf.of_advances {row row' : JobRow} {item : SatWorkItem}
    (advances : row.Advances row') : PayloadOf p scope row' item ↔ PayloadOf p scope row item := by
  rw [PayloadOf, advances.jobId, advances.payload.1, advances.payload.2, PayloadOf]

theorem LeaseNamed.kept {lease : Lease} (h : LeaseNamed s lease) (kept : ChallengesKept s s') :
    LeaseNamed s' lease := by
  obtain ⟨encodable, challenge, member, named, owned⟩ := h
  obtain ⟨challenge', member', sameId, sameHotkey, -⟩ := kept challenge member
  exact ⟨encodable, challenge', member', sameId.trans named, sameHotkey.trans owned⟩

theorem SolvedJob.kept {row : JobRow} {satInstance : SatInstance}
    (h : SolvedJob p s row satInstance) (kept : ChallengesKept s s') :
    SolvedJob p s' row satInstance := by
  obtain ⟨body, challengeId, hotkey, stored, reads, challenge, member, named, owned, verified⟩ := h
  obtain ⟨challenge', member', -, -, same⟩ := kept challenge member
  obtain rfl := same (by simp [verified])
  exact ⟨body, challengeId, hotkey, stored, reads, challenge', member', named, owned, verified⟩

/-- A job that has just succeeded stores a solution of the enqueued instance. -/
theorem solvedJob_of_succeeded (h : JobsSound p scope s) {row row' : JobRow} {lease : Lease}
    {resolution : Resolution} {challenge : ChallengeRow} {now : Instant}
    (current : CurrentLease p s resolution.lease now row lease)
    (resolving : Resolving p s challenge .verified (some resolution))
    (result : row'.resultBody = resolution.resultBody)
    (disposition : resolution.disposition = .succeeded)
    (verified : ∃ challenge' ∈ s'.challenges.rows,
      challenge'.challengeId = challenge.challengeId ∧ challenge'.hotkey = challenge.hotkey ∧
        challenge'.status = .verified) {item : SatWorkItem} (payload : PayloadOf p scope row item) :
    SolvedJob p s' row' item.satInstance := by
  obtain ⟨customer, validated⟩ := resolving.validated
  obtain ⟨-, mapping, assignment, body, accepted, written, stored⟩ :=
    accepted_of_succeeded validated disposition
  -- The lease's copy of the instance is the enqueued one.
  obtain ⟨original, decoded, dispatched⟩ := current.item
  rw [payload.2.2, customerItemFromBody_of_customerItemBody payload.2.1] at decoded
  obtain rfl := Except.ok.inj decoded
  have same : resolution.lease.item.satInstance = item.satInstance := by
    rw [dispatched]
    rfl
  -- The challenge of the lease belongs to its owner.
  obtain ⟨encodable, named, listed, sameId, owned⟩ := h.leased row current.member lease
    current.leased
  have matched := resolving.matched resolution rfl
  have one : named = challenge := Table.eq_of_key listed resolving.member
    (sameId.trans (current.challengeId.trans matched))
  subst one
  have hotkey : named.hotkey = resolution.lease.ownerHotkey := owned.trans current.owner
  obtain ⟨challenge', member', id', hotkey', status'⟩ := verified
  refine ⟨body, resolution.lease.challengeId, resolution.lease.ownerHotkey, result.trans stored,
    same ▸ accepted.readsSolution (matched ▸ resolving.encodable) (current.owner ▸ encodable)
      written, challenge', member', id'.trans matched.symm, hotkey'.trans hotkey, status'⟩

theorem JobsSound.of_step (h : JobsSound p scope s) (change : Step p scope s s') :
    JobsSound p scope s' := by
  have kept := ChallengesKept.of_step change
  refine ⟨fun row' listed => ?_, fun row' listed held status => ?_,
    fun row' listed status item payload => ?_⟩
  · -- what advances keeps its payload
    cases jobs_of_step change row' listed with
    | kept member => exact h.payload row' member
    | enqueued item queued payload => exact ⟨item, payload⟩
    | released row member advances _ | leased row lease member advances _ _ =>
      obtain ⟨item, payload⟩ := h.payload row member
      exact ⟨item, (PayloadOf.of_advances advances).mpr payload⟩
    | succeeded row lease resolution challenge now jobTime current advances =>
      obtain ⟨item, payload⟩ := h.payload row current.member
      exact ⟨item, (PayloadOf.of_advances advances).mpr payload⟩
  · -- a leased row was leased before, or by this step
    cases jobs_of_step change row' listed with
    | kept member => exact (h.leased row' member held status).kept kept
    | enqueued item queued payload =>
      rw [queued] at status
      cases status
    | released row member advances outcome =>
      rcases outcome with queued | failed
      · rw [queued] at status
        cases status
      · rw [failed] at status
        cases status
    | leased row lease member advances status' named =>
      rw [status'] at status
      cases status
      exact named
    | succeeded row lease resolution challenge now jobTime current advances resolving status' =>
      rw [status'] at status
      cases status
  · -- a solved row was solved before, or by this step
    cases jobs_of_step change row' listed with
    | kept member => exact (h.solved row' member status item payload).kept kept
    | enqueued item queued payload =>
      rw [queued] at status
      cases status
    | released row member advances outcome =>
      rcases outcome with queued | failed
      · rw [queued] at status
        cases status
      · rw [failed] at status
        cases status
    | leased row lease member advances status' named =>
      rw [status'] at status
      cases status
    | succeeded row lease resolution challenge now jobTime current advances resolving _ result
        disposition verified =>
      exact solvedJob_of_succeeded h current resolving result disposition verified
        ((PayloadOf.of_advances advances).mp payload)

end Preservation

/-- The jobs a run may enqueue: those it has an operation for. -/
def enqueuedIn (ops : List Op) : Scope :=
  { Scope.all with
    enqueued := fun jobId item => ∃ customerId idempotencyKey now,
      Op.enqueueCustomerJob item customerId idempotencyKey jobId now ∈ ops }

theorem Op.within_enqueuedIn {p : Platform} {ops : List Op} {op : Op} (member : op ∈ ops) (s : State) :
    op.Within p (enqueuedIn ops) s := by
  cases op
  case enqueueCustomerJob => exact ⟨_, _, _, member⟩
  case resolveChallenge => exact fun _ => trivial
  case resolveChallengeWithReceipt => exact fun _ => trivial
  case exportScoreClassReport => exact fun _ _ => trivial
  all_goals trivial

theorem JobsSound.of_runOps (p : Platform) (ops : List Op) :
    JobsSound p (enqueuedIn ops) (runOps p .initial ops) := by
  have along : Along (step p) (fun _ op => op ∈ ops) .initial ops :=
    along_of_forall fun _ member _ => member
  refine invariant_along (fun s op h member => ?_) (JobsSound.initial p _) along
  exact invariant_steps (fun h change => JobsSound.of_step h change) h
    (steps_of_step (op.within_enqueuedIn member s))

/-- **Customer jobs.** In every run: a terminal job never changes until it is
pruned; every claim takes a job below the claim's attempt limit and spends a
later attempt than every earlier claim of the job; a resolution under a lease that
is not current raises and changes nothing; and every succeeded job stores a
solution of the instance that was enqueued, under a challenge that is verified for
the hotkey it names. -/
theorem customer_jobs_sound (p : Platform) (ops : List Op) :
    let s := runOps p .initial ops
    (∀ row ∈ s.jobs.rows, row.status.IsTerminal → ∀ later,
      row ∈ (runOps p s later).jobs.rows ∨
        ∃ before op after, later = before ++ op :: after ∧ op.IsPrune ∧
          row ∈ (runOps p s before).jobs.rows ∧
          ∀ other ∈ (runOps p s (before ++ [op])).jobs.rows, other.jobId ≠ row.jobId) ∧
    (∀ owner epochId leaseSeconds maxAttempts token now lease s',
      claimCustomerJob p owner epochId leaseSeconds maxAttempts token now s =
        .ok (some lease, s') →
      (∃ row ∈ s.jobs.rows, row.jobId = lease.jobId ∧ (row.attemptCount : ℤ) < maxAttempts ∧
        lease.attempt = row.attemptCount + 1 ∧
        ∃ row' ∈ s'.jobs.rows, row'.jobId = lease.jobId ∧ row'.attemptCount = lease.attempt) ∧
      ∀ later, (∀ op ∈ later, ¬ op.IsPrune) →
        ∀ owner epochId leaseSeconds maxAttempts token now lease' s₂,
          claimCustomerJob p owner epochId leaseSeconds maxAttempts token now
            (runOps p s' later) = .ok (some lease', s₂) →
          lease'.jobId = lease.jobId → lease.attempt < lease'.attempt) ∧
    (∀ op lease now, op.Presents lease now →
      (∀ row held, ¬ CurrentLease p s lease now row held) →
      (∃ failure, op.commit p s = .error failure) ∧ step p s op = s) ∧
    ∀ row ∈ s.jobs.rows, row.status = .succeeded → ∃ item customerId idempotencyKey now,
      Op.enqueueCustomerJob item customerId idempotencyKey row.jobId now ∈ ops ∧
        customerItemBody p item = .ok row.payloadBody ∧
        SolvedJob p s row item.satInstance := by
  intro s
  refine ⟨fun row member terminal later => terminal_job_kept s member terminal later, ?_,
    fun op lease now presents stale => stale_resolution_fails presents stale,
    fun row member succeeded => ?_⟩
  · intro owner epochId leaseSeconds maxAttempts token now lease s' claimed
    obtain ⟨row, member, named, below, next, spent⟩ := claimCustomerJob_attempt claimed
    exact ⟨⟨row, member, named, below, next, spent⟩,
      fun later keeps _ _ _ _ _ _ lease' s₂ claimed' same =>
        attempt_lt_of_claims spent keeps claimed' same⟩
  · -- a succeeded job is solved, by the invariant of all runs
    have sound := JobsSound.of_runOps p ops
    obtain ⟨item, payload⟩ := sound.payload row member
    obtain ⟨customerId, idempotencyKey, now, enqueued⟩ := payload.1
    exact ⟨item, customerId, idempotencyKey, now, enqueued, payload.2.1,
      sound.solved row member succeeded item payload⟩

end Cathedral.Ledger
