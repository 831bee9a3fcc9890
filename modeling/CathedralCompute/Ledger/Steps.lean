import CathedralCompute.Ledger.Operations
import CathedralCompute.Ledger.Scores

/-!
# What an operation can do

Every committed operation is a sequence of atomic changes of the database, each
under the guards the code checks. The changes are the constructors of `Step`;
`steps_of_commit` is the inversion of all operations at once. An invariant of the
ledger is then proved by one case for each change.

A scope restricts what the changes may do: which challenges they resolve without
a customer lease, which jobs they enqueue, whether they prune, and which reports
they record. An operation stays within the scope its own arguments give it.
-/

set_option autoImplicit false

namespace Cathedral.Ledger

open Codec Semantics

/-- The jobs after a resolution. -/
def resolvedJobs (jobs : Table JobRow.jobId) (now : Instant) :
    Option Resolution → Table JobRow.jobId
  | none => jobs
  | some r => jobs.update (fun row => row.LeasedUnder r.lease.jobId r.lease.leaseToken)
      (r.apply now)

/-- The new challenge status and the customer side of a resolution, as the
transaction accepts them. -/
structure Resolving (p : Platform) (s : State) (challenge : ChallengeRow)
    (status : ChallengeStatus) (resolution : Option Resolution) : Prop where
  member : challenge ∈ s.challenges.rows
  issued : challenge.status = .issued
  encodable : challenge.challengeId.NoSurrogate
  running : s.Running challenge.epochId
  resolved : status ≠ .issued
  validated : ∃ customer, validateCustomerResolution p status customer = .ok resolution
  matched : ∀ r ∈ resolution, r.lease.challengeId = challenge.challengeId
  current : ∃ now, requireLease p s now resolution = .ok ()

/-- An export with these arguments reads this state and builds this report. -/
structure Builds (p : Platform) (s : State) (epochId : ℕ) (arguments : ScoreClass.Arguments)
    (report : ExportArguments) : Prop where
  audience : ScoreClass.validateStream arguments.stream = .ok ()
  built : ScoreClass.buildReport p epochId arguments s = .ok report

/-- What changes may do. -/
structure Scope where
  /-- The challenges they may resolve without a lease. -/
  bare : State → Text → Prop
  /-- The jobs they may enqueue, with their items. -/
  enqueued : Text → SatWorkItem → Prop
  /-- Whether they may prune jobs. -/
  prunes : Prop
  /-- The reports they may record. -/
  exported : State → ExportArguments → Prop

/-- Changes without restriction. -/
def Scope.all : Scope := ⟨fun _ _ => True, fun _ _ => True, True, fun _ _ => True⟩

/-- The changes of the database. -/
inductive Step (p : Platform) (scope : Scope) (s : State) : State → Prop
  | beginEpoch {sourceEpoch : ℤ} {options : EpochOptions} {anchorHash : Option Text}
      {now : Instant} {epochs : Table EpochRow.epochId}
      (idle : ∀ row ∈ s.epochs.rows, ¬ row.IsBlocking)
      (above : ∀ last ∈ lastFinal s, last < sourceEpoch)
      (inserted : s.epochs.insert
        (.begin (s.epochSequence + 1) sourceEpoch options anchorHash now) = some epochs) :
      Step p scope s { s with epochSequence := s.epochSequence + 1, epochs := epochs }
  | abortEpoch {row : EpochRow} (member : row ∈ s.epochs.rows) (running : row.status = .running)
      (released : ∀ job ∈ s.jobs.rows, ∀ lease, job.status = .leased lease →
        lease.epochId ≠ row.epochId) :
      Step p scope s (updateEpoch s row.epochId .abort)
  | freezeEpoch {row : EpochRow} {scores : List (Text × ℚ≥0)} {s' : State}
      {allHotkeys : List Text} (member : row ∈ s.epochs.rows) (running : row.status = .running)
      (frozen : Freezing p row s scores s' allHotkeys) : Step p scope s s'
  | abandonEpoch {row : EpochRow} (now : Instant) (reason : Text) (member : row ∈ s.epochs.rows)
      (complete : row.status = .complete) :
      Step p scope s (updateEpoch s row.epochId fun row => row.abandon now reason)
  | publishEpoch {row : EpochRow} (now : Instant) (member : row ∈ s.epochs.rows)
      (complete : row.status = .complete) :
      Step p scope s (updateEpoch s row.epochId fun row => row.publish now)
  | issueChallenge {challengeId hotkey : Text} {epochId : ℕ} {now : Instant}
      {challenges : Table ChallengeRow.challengeId} (running : s.Running epochId)
      (inserted : s.challenges.insert (.issue challengeId epochId hotkey now) = some challenges) :
      Step p scope s { s with challenges := challenges }
  | resolveChallenge {challenge : ChallengeRow} {status : ChallengeStatus}
      {resolution : Option Resolution} (units : ℚ≥0) (now jobTime : Instant)
      {receipts : Table ReceiptRow.receiptId}
      (resolving : Resolving p s challenge status resolution)
      (bare : resolution = none → scope.bare s challenge.challengeId)
      (receiptsAfter : receipts = s.receipts ∨ ∃ receipt : ReceiptRow,
        receipt.epochId = challenge.epochId ∧ s.receipts.insert receipt = some receipts) :
      Step p scope s { s with
        challenges := s.challenges.update (fun row => row.challengeId = challenge.challengeId)
          fun row => row.resolve status units now
        jobs := resolvedJobs s.jobs jobTime resolution
        receipts := receipts }
  | leaseJob {ownerHotkey leaseToken : Text} {epochId : ℕ} {expiresAt now : Instant}
      {maxAttempts : ℤ} {row : JobRow} {original : SatWorkItem}
      {challenges : Table ChallengeRow.challengeId} (running : s.Running epochId)
      (member : row ∈ s.jobs.rows) (queued : row.status = .queued)
      (below : (row.attemptCount : ℤ) < maxAttempts) (encodable : ownerHotkey.NoSurrogate)
      (payload : customerItemFromBody p row.payloadBody row.payloadDigest = .ok original)
      (inserted : s.challenges.insert (.issue
        (customerDispatchItem p original row.jobId (row.attemptCount + 1)).challengeId epochId
        ownerHotkey now) = some challenges) :
      Step p scope s { s with
        challenges := challenges
        jobs := s.jobs.update (fun job => job.jobId = row.jobId ∧ job.status = .queued) fun job =>
          job.leaseTo ⟨leaseToken, ownerHotkey, epochId,
            (customerDispatchItem p original row.jobId (row.attemptCount + 1)).challengeId,
            expiresAt⟩ (row.attemptCount + 1) }
  | takeBack {job : JobRow × Lease} {status : JobStatus} (now : Instant) (error : Text)
      (resolvedAt : JobRow → Option Instant) (member : job.1 ∈ s.jobs.rows)
      (leased : job.1.status = .leased job.2) (outcome : status = .queued ∨ status = .failed) :
      Step p scope s (takeBack now status error resolvedAt s job)
  | failExhausted (now : Instant) (maxAttempts : ℤ) :
      Step p scope s (failExhausted now maxAttempts s)
  | enqueueJob {row : JobRow} {item : SatWorkItem} {jobs : Table JobRow.jobId}
      (queued : row.status = .queued) (body : customerItemBody p item = .ok row.payloadBody)
      (digest : row.payloadDigest = sha256Digest row.payloadBody)
      (admitted : scope.enqueued row.jobId item)
      (inserted : s.jobs.insert row = some jobs) : Step p scope s { s with jobs := jobs }
  | pruneJobs (pruned : List Text) (admitted : scope.prunes)
      (terminal : ∀ row ∈ s.jobs.rows, row.jobId ∈ pruned → row.status.IsTerminal) :
      Step p scope s { s with jobs := s.jobs.delete fun row => row.jobId ∈ pruned }
  | addAttestation {row : AttestationRow} {attestations : Table AttestationRow.key}
      (running : s.Running row.epochId) (inserted : s.attestations.insert row = some attestations) :
      Step p scope s { s with attestations := attestations }
  | addLifecycle {row : LifecycleRow} {lifecycle : Table LifecycleRow.key}
      (running : s.Running row.epochId) (inserted : s.lifecycle.insert row = some lifecycle) :
      Step p scope s { s with lifecycle := lifecycle }
  | recordArtifacts (artifacts : Table ArtifactRow.challengeId) :
      Step p scope s { s with artifacts := artifacts }
  | recordTiming (timing : Table TimingRow.challengeId) :
      Step p scope s { s with timing := timing }
  | recordExport {arguments : ExportArguments} {now : Instant} {exports : Table ExportRow.key}
      (admitted : scope.exported s arguments) (validated : validateExport p arguments = .ok ())
      (successor : requireSuccessor s arguments = .ok ())
      (inserted : s.exports.insert (arguments.row now) = some exports) :
      Step p scope s { s with exports := exports }

/-- Any number of changes. -/
abbrev Steps (p : Platform) (scope : Scope) : State → State → Prop :=
  Relation.ReflTransGen (Step p scope)

section Inversions

variable {p : Platform} {scope : Scope} {s s' : State}

/-! ## Epochs -/

theorem steps_of_beginEpoch {sourceEpoch : ℤ} {options : EpochOptions} {now : Instant}
    {epochId : ℕ} (begun : beginEpoch sourceEpoch options now s = .ok (epochId, s')) :
    Steps p scope s s' := by
  simp only [beginEpoch, bind_eq_ok, require_eq_ok, demand_eq_ok, pure_eq_ok, Prod.mk.injEq,
    requireIdle_eq_ok, requireAboveFinal_eq_ok] at begun
  obtain ⟨-, -, anchorHash, -, -, idle, -, -, -, above, -, -, epochs, inserted, -, rfl⟩ := begun
  exact .single (.beginEpoch idle above inserted)

theorem steps_of_abandonCompletedEpoch {epochId : ℕ} {reason : Text} {now : Instant} {u : Unit}
    (abandoned : abandonCompletedEpoch epochId reason now s = .ok (u, s')) :
    Steps p scope s s' := by
  simp only [abandonCompletedEpoch, bind_eq_ok, require_eq_ok, epoch_eq_ok, pure_eq_ok,
    Prod.mk.injEq] at abandoned
  obtain ⟨-, -, row, ⟨member, rfl⟩, -, complete, -, -, -, rfl⟩ := abandoned
  exact .single (.abandonEpoch now _ member complete)

theorem steps_of_markPublished {epochId : ℕ} {reportDigest : Option Text} {now : Instant}
    {u : Unit} (published : markPublished epochId reportDigest now s = .ok (u, s')) :
    Steps p scope s s' := by
  simp only [markPublished, bind_eq_ok, epoch_eq_ok] at published
  obtain ⟨row, ⟨member, rfl⟩, published⟩ := published
  split at published
  case isTrue =>
    simp only [bind_eq_ok, require_eq_ok, pure_eq_ok, Prod.mk.injEq] at published
    obtain ⟨-, -, -, rfl⟩ := published
    exact .refl
  case isFalse =>
    simp only [bind_eq_ok, require_eq_ok, pure_eq_ok, Prod.mk.injEq] at published
    obtain ⟨-, complete, -, -, -, rfl⟩ := published
    exact .single (.publishEpoch now member complete)

theorem steps_of_postAndMarkPublished {epochId : ℕ}
    {response : Except Failure (List (Text × Json))} {now : Instant}
    {acknowledgement : List (Text × Json)}
    (posted : postAndMarkPublished p epochId response now s = .ok (acknowledgement, s')) :
    Steps p scope s s' := by
  simp only [postAndMarkPublished, bind_eq_ok, pure_eq_ok, Prod.mk.injEq] at posted
  obtain ⟨⟨_, digest⟩, -, answer, -, -, -, ⟨u, final⟩, published, -, rfl⟩ := posted
  exact steps_of_markPublished published

theorem steps_of_completeEpoch {epochId : ℕ} {arguments : CompletionArguments}
    {generatedNow completionTime : Instant} {scores : List (Text × ℚ≥0)}
    (completed : completeEpoch p epochId arguments generatedNow completionTime s =
      .ok (scores, s')) : Steps p scope s s' := by
  obtain ⟨row, member, rfl, ⟨-, -, rfl⟩ | ⟨running, frozen⟩⟩ := completeEpoch_cases completed
  · exact .refl
  · exact .single (.freezeEpoch member running frozen)

/-! ## Taking leases back -/

/-- Every listed job is leased as listed, and no job is listed twice. -/
def Leased (s : State) (jobs : List (JobRow × Lease)) : Prop :=
  (∀ job ∈ jobs, job.1 ∈ s.jobs.rows ∧ job.1.status = .leased job.2) ∧
    (jobs.map fun job => job.1.jobId).Nodup

theorem mem_leasedJobs {condition : Lease → Prop} [DecidablePred condition]
    {job : JobRow × Lease} :
    job ∈ leasedJobs s condition ↔
      job.1 ∈ s.jobs.rows ∧ job.1.status = .leased job.2 ∧ condition job.2 := by
  simp only [leasedJobs, List.mem_filterMap, Option.bind_eq_some_iff, JobStatus.lease?_eq_some]
  constructor
  · rintro ⟨row, member, lease, leased, chosen⟩
    split at chosen
    case isTrue holds =>
      cases chosen
      exact ⟨member, leased, holds⟩
    case isFalse => cases chosen
  · rintro ⟨member, leased, holds⟩
    exact ⟨job.1, member, job.2, leased, if_pos holds⟩

theorem leased_leasedJobs (condition : Lease → Prop) [DecidablePred condition] :
    Leased s (leasedJobs s condition) := by
  refine ⟨fun job member => ?_, ?_⟩
  · obtain ⟨row, leased, -⟩ := mem_leasedJobs.mp member
    exact ⟨row, leased⟩
  · have rows : s.jobs.rows.Nodup := s.jobs.unique.of_map
    refine List.Nodup.map_on (fun job member job' member' same => ?_)
      (List.Nodup.filterMap (fun row row' job found found' => ?_) rows)
    · obtain ⟨row, leased, -⟩ := mem_leasedJobs.mp member
      obtain ⟨row', leased', -⟩ := mem_leasedJobs.mp member'
      have sameRow : job.1 = job'.1 := Table.eq_of_key row row' same
      rw [sameRow, leased'] at leased
      exact Prod.ext sameRow (JobStatus.leased.inj leased).symm
    · obtain ⟨lease, -, chosen⟩ := Option.bind_eq_some_iff.mp found
      obtain ⟨lease', -, chosen'⟩ := Option.bind_eq_some_iff.mp found'
      split at chosen
      case isFalse => cases chosen
      split at chosen'
      case isFalse => cases chosen'
      exact congrArg Prod.fst ((Option.some.inj chosen).trans (Option.some.inj chosen').symm)

/-- After a lease is taken back, the other leased jobs are as they were. -/
theorem Leased.takeBack {now : Instant} {status : JobStatus} {error : Text}
    {resolvedAt : JobRow → Option Instant} {job : JobRow × Lease} {jobs : List (JobRow × Lease)}
    (leased : Leased s (job :: jobs)) :
    Leased (takeBack now status error resolvedAt s job) jobs := by
  obtain ⟨rows, distinct⟩ := leased
  rw [List.map_cons, List.nodup_cons] at distinct
  refine ⟨fun other member => ?_, distinct.2⟩
  obtain ⟨row, status⟩ := rows other (List.mem_cons_of_mem _ member)
  refine ⟨Table.mem_update_of_not row fun same => ?_, status⟩
  exact distinct.1 (same ▸ List.mem_map.mpr ⟨other, member, rfl⟩)

/-- Taking back a list of leases, one after another. -/
theorem steps_of_takeBack {now : Instant} {status : JobRow × Lease → JobStatus} {error : Text}
    {resolvedAt : JobRow × Lease → JobRow → Option Instant}
    (outcome : ∀ job, status job = .queued ∨ status job = .failed)
    {jobs : List (JobRow × Lease)} (leased : Leased s jobs) :
    Steps p scope s (jobs.foldl
      (fun s job => takeBack now (status job) error (resolvedAt job) s job) s) := by
  induction jobs generalizing s with
  | nil => exact .refl
  | cons job jobs ih =>
    obtain ⟨member, held⟩ := leased.1 job List.mem_cons_self
    exact .head (.takeBack now error (resolvedAt job) member held (outcome job))
      (ih leased.takeBack)

/-- A job still leased after leases were taken back was leased before and not
listed. -/
theorem leased_of_takeBack {now : Instant} {status : JobRow × Lease → JobStatus} {error : Text}
    {resolvedAt : JobRow × Lease → JobRow → Option Instant}
    (outcome : ∀ job, status job = .queued ∨ status job = .failed)
    {jobs : List (JobRow × Lease)} {row : JobRow} {lease : Lease}
    (member : row ∈ (jobs.foldl
      (fun s job => takeBack now (status job) error (resolvedAt job) s job) s).jobs.rows)
    (leased : row.status = .leased lease) :
    row ∈ s.jobs.rows ∧ ∀ job ∈ jobs, job.1.jobId ≠ row.jobId := by
  induction jobs generalizing s with
  | nil => exact ⟨member, fun _ none => (nomatch none)⟩
  | cons job jobs ih =>
    obtain ⟨before, others⟩ := ih member
    obtain ⟨old, row', rfl⟩ := Table.exists_of_mem_update before
    split at leased
    case isTrue =>
      rcases outcome job with queued | failed
      · rw [JobRow.release, queued] at leased
        cases leased
      · rw [JobRow.release, failed] at leased
        cases leased
    case isFalse other =>
      rw [if_neg other]
      rw [if_neg other] at others
      refine ⟨row', fun job' listed => ?_⟩
      rcases List.mem_cons.mp listed with rfl | listed
      · exact fun same => other same.symm
      · exact others job' listed

/-- Taking leases back leaves the epochs. -/
theorem epochs_takeBack {now : Instant} {status : JobRow × Lease → JobStatus} {error : Text}
    {resolvedAt : JobRow × Lease → JobRow → Option Instant} (jobs : List (JobRow × Lease)) :
    (jobs.foldl (fun s job => takeBack now (status job) error (resolvedAt job) s job) s).epochs =
      s.epochs := by
  induction jobs generalizing s with
  | nil => rfl
  | cons job jobs ih => exact ih

theorem steps_of_abortEpoch {epochId : ℕ} {now : Instant} {u : Unit}
    (aborted : abortEpoch epochId now s = .ok (u, s')) : Steps p scope s s' := by
  simp only [abortEpoch, bind_eq_ok, epoch_eq_ok] at aborted
  obtain ⟨row, ⟨member, rfl⟩, aborted⟩ := aborted
  split at aborted
  case isTrue =>
    simp only [pure_eq_ok, Prod.mk.injEq] at aborted
    obtain ⟨-, rfl⟩ := aborted
    exact .refl
  case isFalse =>
    simp only [bind_eq_ok, require_eq_ok, pure_eq_ok, Prod.mk.injEq] at aborted
    obtain ⟨-, running, -, rfl⟩ := aborted
    have queued : ∀ _ : JobRow × Lease, JobStatus.queued = .queued ∨ JobStatus.queued = .failed :=
      fun _ => .inl rfl
    refine (steps_of_takeBack queued (leased_leasedJobs _)).tail
      (.abortEpoch ((epochs_takeBack _).symm ▸ member) running fun job listed lease held here => ?_)
    obtain ⟨before, unlisted⟩ := leased_of_takeBack queued listed held
    exact unlisted (job, lease) (mem_leasedJobs.mpr ⟨before, held, here⟩) rfl

/-! ## Claims -/

theorem steps_of_sweep (now : Instant) (maxAttempts : ℤ) :
    Steps p scope s (sweep now maxAttempts s) := by
  refine .tail ?_ (.failExhausted now maxAttempts)
  refine steps_of_takeBack (fun job => ?_) (leased_leasedJobs _)
  split
  · exact .inr rfl
  · exact .inl rfl

theorem epochs_sweep (now : Instant) (maxAttempts : ℤ) :
    (sweep now maxAttempts s).epochs = s.epochs := epochs_takeBack _

theorem running_of_epochs {epochId : ℕ} (same : s'.epochs = s.epochs)
    (running : s.Running epochId) : s'.Running epochId := by
  rw [State.Running, same]
  exact running

theorem steps_of_claimCustomerJob {ownerHotkey : Text} {epochId : ℕ}
    {leaseSeconds maxAttempts : ℤ} {leaseToken : Text} {now : Instant}
    {lease : Option CustomerJobLease}
    (claimed : claimCustomerJob p ownerHotkey epochId leaseSeconds maxAttempts leaseToken now s =
      .ok (lease, s')) : Steps p scope s s' := by
  simp only [claimCustomerJob, bind_eq_ok, requireRunning_eq_ok] at claimed
  obtain ⟨-, -, -, -, -, -, -, running, claimed⟩ := claimed
  split at claimed
  case h_1 =>
    simp only [pure_eq_ok, Prod.mk.injEq] at claimed
    obtain ⟨-, rfl⟩ := claimed
    exact steps_of_sweep now maxAttempts
  case h_2 row found =>
    simp only [leaseJob, bind_eq_ok, demand_eq_ok, storable_eq_ok, pure_eq_ok,
      Prod.mk.injEq] at claimed
    obtain ⟨original, payload, -, encodable, challenges, inserted, -, rfl⟩ := claimed
    have chosen := List.mem_of_head? found
    rw [List.mem_insertionSort, Table.mem_select] at chosen
    obtain ⟨member, queued, -, below⟩ := chosen
    exact (steps_of_sweep now maxAttempts).tail
      (.leaseJob (running_of_epochs (epochs_sweep now maxAttempts) running) member queued below
        (encodable _ (List.mem_singleton_self _)) payload inserted)

/-! ## Challenges -/

theorem steps_of_issueChallenge {challengeId hotkey : Text} {epochId : ℕ} {now : Instant}
    {u : Unit} (issued : issueChallenge p challengeId hotkey epochId now s = .ok (u, s')) :
    Steps p scope s s' := by
  simp only [issueChallenge, bind_eq_ok, requireRunning_eq_ok, demand_eq_ok, pure_eq_ok,
    Prod.mk.injEq] at issued
  obtain ⟨-, -, -, running, -, -, challenges, inserted, -, rfl⟩ := issued
  exact .single (.issueChallenge running inserted)

theorem validatedResolutionUnits_resolved {status : Text} {workUnits : Option Floating}
    {validatorDerived : Bool} {resolved : ChallengeStatus} {units : ℚ≥0}
    (validated : validatedResolutionUnits p status workUnits validatorDerived =
      .ok (resolved, units)) : resolved ≠ .issued := by
  simp only [validatedResolutionUnits, bind_eq_ok, demand_eq_ok, require_eq_ok, pure_eq_ok,
    Prod.mk.injEq] at validated
  obtain ⟨_, named, -, -, -, -, rfl, -⟩ := validated
  unfold resolvedStatus? at named
  rintro rfl
  split_ifs at named <;> cases named

/-- What `_resolve_challenge_in_transaction` checks and does. -/
theorem resolveChallengeInTransaction_eq_ok {challengeId : Text} {status : ChallengeStatus}
    {units : ℚ≥0} {now : Instant} {row : ChallengeRow}
    (resolved : resolveChallengeInTransaction p challengeId status units now s = .ok (row, s')) :
    row ∈ s.challenges.rows ∧ row.challengeId = challengeId ∧ row.status = .issued ∧
      challengeId.NoSurrogate ∧ s.Running row.epochId ∧
      s' = { s with
        challenges := s.challenges.update (fun row => row.challengeId = challengeId)
          fun row => row.resolve status units now } := by
  simp only [resolveChallengeInTransaction, bind_eq_ok, demand_eq_ok, require_eq_ok, pure_eq_ok,
    Prod.mk.injEq, Table.find?_eq_some, storable_eq_ok, List.forall_mem_singleton] at resolved
  obtain ⟨-, encodable, _, ⟨member, named⟩, owner, ⟨owned, same⟩, -, running, -, issued, rfl, rfl⟩ :=
    resolved
  exact ⟨member, named, issued, encodable, ⟨owner, owned, same, running⟩, rfl⟩

theorem resolveJob_eq_ok {now : Instant} {resolution : Option Resolution}
    (resolved : resolveJob s now resolution = .ok s') :
    s' = { s with jobs := resolvedJobs s.jobs now resolution } := by
  cases resolution with
  | none =>
    cases resolved
    rfl
  | some r =>
    simp only [resolveJob, resolveCustomerJobInTransaction, bind_eq_ok, pure_eq_ok] at resolved
    obtain ⟨-, -, -, -, rfl⟩ := resolved
    rfl

theorem lease_of_validateCustomerResolution {status : ChallengeStatus}
    {customer : CustomerArguments}
    (validated : validateCustomerResolution p status customer = .ok none) :
    customer.lease = none := by
  cases held : customer.lease with
  | none => rfl
  | some lease =>
    simp only [validateCustomerResolution, held, bind_eq_ok, pure_eq_ok, reduceCtorEq, and_false,
      exists_false] at validated

theorem steps_of_resolveChallenge {challengeId status : Text} {workUnits : Option Floating}
    {validatorDerived : Bool} {customer : CustomerArguments} {clock : ResolutionClock} {u : Unit}
    (admitted : customer.lease = none → scope.bare s challengeId)
    (resolved : resolveChallenge p challengeId status workUnits validatorDerived customer clock s =
      .ok (u, s')) : Steps p scope s s' := by
  simp only [resolveChallenge, bind_eq_ok, pure_eq_ok, Prod.mk.injEq] at resolved
  obtain ⟨⟨outcome, units⟩, validated, resolution, accepted, ⟨⟩, matched, ⟨⟩, current,
    ⟨row, middle⟩, transacted, final, jobs, -, rfl⟩ := resolved
  obtain ⟨member, rfl, issued, encodable, running, rfl⟩ :=
    resolveChallengeInTransaction_eq_ok transacted
  obtain rfl := resolveJob_eq_ok jobs
  refine .single (.resolveChallenge units clock.challenge clock.job
    ⟨member, issued, encodable, running, validatedResolutionUnits_resolved validated,
      ⟨customer, accepted⟩, require_eq_ok.mp matched, clock.lease, current⟩ ?_ (.inl rfl))
  rintro rfl
  exact admitted (lease_of_validateCustomerResolution accepted)

theorem insertReceipt_eq_some {row : ReceiptRow} (inserted : insertReceipt s row = some s') :
    ∃ receipts, s.receipts.insert row = some receipts ∧ s' = { s with receipts := receipts } := by
  unfold insertReceipt at inserted
  split at inserted
  case isTrue => cases inserted
  case isFalse =>
    obtain ⟨receipts, stored, rfl⟩ := Option.map_eq_some_iff.mp inserted
    exact ⟨receipts, stored, rfl⟩

theorem steps_of_resolveChallengeWithReceipt {challengeId status : Text}
    {workUnits : Option Floating} {validatorDerived : Bool} {receiptArguments : ReceiptArguments}
    {customer : CustomerArguments} {clock : ResolutionClock} {u : Unit}
    (admitted : customer.lease = none → scope.bare s challengeId)
    (resolved : resolveChallengeWithReceipt p challengeId status workUnits validatorDerived
      receiptArguments customer clock s = .ok (u, s')) : Steps p scope s s' := by
  simp only [resolveChallengeWithReceipt, bind_eq_ok, pure_eq_ok, demand_eq_ok,
    Prod.mk.injEq] at resolved
  obtain ⟨⟨outcome, units⟩, validated, receipt, -, resolution, accepted, ⟨⟩, matched, ⟨⟩, current,
    ⟨row, middle⟩, transacted, -, -, stored, inserted, final, jobs, -, rfl⟩ := resolved
  obtain ⟨member, rfl, issued, encodable, running, rfl⟩ :=
    resolveChallengeInTransaction_eq_ok transacted
  obtain ⟨receipts, insertion, rfl⟩ := insertReceipt_eq_some inserted
  obtain rfl := resolveJob_eq_ok jobs
  refine .single (.resolveChallenge units clock.challenge clock.job
    ⟨member, issued, encodable, running, validatedResolutionUnits_resolved validated,
      ⟨customer, accepted⟩, require_eq_ok.mp matched, clock.lease, current⟩ ?_ (.inr ⟨_, rfl, insertion⟩))
  rintro rfl
  exact admitted (lease_of_validateCustomerResolution accepted)

/-! ## Jobs -/

theorem steps_of_enqueueCustomerJob {item : SatWorkItem} {customerId : Text}
    {idempotencyKey : Option Text} {newJobId : Text} {now : Instant}
    {snapshot : CustomerJobSnapshot} (admitted : scope.enqueued newJobId item)
    (enqueued : enqueueCustomerJob p item customerId idempotencyKey newJobId now s =
      .ok (snapshot, s')) : Steps p scope s s' := by
  simp only [enqueueCustomerJob, bind_eq_ok] at enqueued
  obtain ⟨-, -, -, -, body, written, enqueued⟩ := enqueued
  split at enqueued
  case h_1 =>
    simp only [bind_eq_ok, pure_eq_ok, Prod.mk.injEq] at enqueued
    obtain ⟨-, -, -, -, -, rfl⟩ := enqueued
    exact .refl
  case h_2 =>
    simp only [bind_eq_ok, demand_eq_ok, pure_eq_ok, Prod.mk.injEq] at enqueued
    obtain ⟨-, -, -, -, -, -, jobs, inserted, -, -, -, rfl⟩ := enqueued
    exact .single (.enqueueJob rfl written rfl admitted inserted)

theorem steps_of_pruneCustomerJobs {resolvedBefore : Instant} {limit : ℤ}
    {customerId : Option Text} {count : ℕ} (admitted : scope.prunes)
    (pruned : pruneCustomerJobs resolvedBefore limit customerId s = .ok (count, s')) :
    Steps p scope s s' := by
  simp only [pruneCustomerJobs, bind_eq_ok, pure_eq_ok, Prod.mk.injEq] at pruned
  obtain ⟨-, -, -, -, -, rfl⟩ := pruned
  refine .single (.pruneJobs _ admitted fun row member listed => ?_)
  obtain ⟨chosen, taken, same⟩ := List.mem_map.mp listed
  have selected := List.mem_of_mem_take taken
  rw [prunable, List.mem_insertionSort, Table.mem_select] at selected
  rw [← Table.eq_of_key selected.1 member same]
  exact selected.2.1

/-! ## Evidence and exports -/

theorem epochId_of_attestationRow {epochId : ℕ} {hotkey : Text} {arguments : AttestationArguments}
    {now : Instant} {row : AttestationRow}
    (built : attestationRow epochId hotkey arguments now = .ok row) : row.epochId = epochId := by
  simp only [attestationRow, bind_eq_ok, pure_eq_ok] at built
  obtain ⟨-, -, -, -, -, -, _, -, -, -, -, -, rfl⟩ := built
  rfl

theorem steps_of_addAttestation {epochId : ℕ} {hotkey : Text} {arguments : AttestationArguments}
    {now : Instant} {u : Unit}
    (added : addAttestation epochId hotkey arguments now s = .ok (u, s')) :
    Steps p scope s s' := by
  simp only [addAttestation, bind_eq_ok, requireRunning_eq_ok] at added
  obtain ⟨row, built, -, running, -, -, added⟩ := added
  obtain rfl := epochId_of_attestationRow built
  split at added
  case h_1 =>
    simp only [bind_eq_ok, pure_eq_ok, Prod.mk.injEq] at added
    obtain ⟨-, -, -, -, -, rfl⟩ := added
    exact .refl
  case h_2 =>
    simp only [bind_eq_ok, demand_eq_ok, pure_eq_ok, Prod.mk.injEq] at added
    obtain ⟨attestations, inserted, -, rfl⟩ := added
    exact .single (.addAttestation running inserted)

theorem steps_of_addLifecycleSnapshot {epochId : ℕ} {snapshot : LifecycleSnapshot}
    {snapshotAt : Option Text} {now : Instant} {u : Unit}
    (added : addLifecycleSnapshot p epochId snapshot snapshotAt now s = .ok (u, s')) :
    Steps p scope s s' := by
  simp only [addLifecycleSnapshot, bind_eq_ok, requireRunning_eq_ok] at added
  obtain ⟨capturedAt, -, -, running, -, -, added⟩ := added
  split at added
  case h_1 =>
    simp only [bind_eq_ok, pure_eq_ok, Prod.mk.injEq] at added
    obtain ⟨-, -, -, rfl⟩ := added
    exact .refl
  case h_2 =>
    simp only [bind_eq_ok, demand_eq_ok, pure_eq_ok, Prod.mk.injEq] at added
    obtain ⟨-, -, lifecycle, inserted, -, rfl⟩ := added
    exact .single (.addLifecycle running inserted)

theorem steps_of_recordWorkArtifacts {challengeId : Text} {workItemBody resultBody : Bytes}
    {now : Instant} {u : Unit}
    (recorded : recordWorkArtifacts p challengeId workItemBody resultBody now s = .ok (u, s')) :
    Steps p scope s s' := by
  simp only [recordWorkArtifacts, bind_eq_ok] at recorded
  obtain ⟨-, -, -, -, recorded⟩ := recorded
  split at recorded
  case h_1 =>
    simp only [bind_eq_ok, pure_eq_ok, Prod.mk.injEq] at recorded
    obtain ⟨-, -, -, rfl⟩ := recorded
    exact .refl
  case h_2 =>
    simp only [bind_eq_ok, pure_eq_ok, Prod.mk.injEq] at recorded
    obtain ⟨artifacts, -, -, rfl⟩ := recorded
    exact .single (.recordArtifacts artifacts)

theorem steps_of_recordWorkTiming {challengeId : Text}
    {dispatchMonotonicNs verifiedMonotonicNs : ℤ} {jobClass : JobClass} {producerBootId : Text}
    {now : Instant} {u : Unit}
    (recorded : recordWorkTiming p challengeId dispatchMonotonicNs verifiedMonotonicNs jobClass
      producerBootId now s = .ok (u, s')) : Steps p scope s s' := by
  simp only [recordWorkTiming, bind_eq_ok] at recorded
  obtain ⟨-, -, -, -, recorded⟩ := recorded
  split at recorded
  case h_1 =>
    simp only [bind_eq_ok, pure_eq_ok, Prod.mk.injEq] at recorded
    obtain ⟨-, -, -, rfl⟩ := recorded
    exact .refl
  case h_2 =>
    simp only [bind_eq_ok, pure_eq_ok, Prod.mk.injEq] at recorded
    obtain ⟨-, -, -, -, timing, -, -, rfl⟩ := recorded
    exact .single (.recordTiming timing)

theorem insertExport_eq_some {arguments : ExportArguments} {now : Instant}
    (inserted : insertExport s arguments now = some s') :
    ∃ exports, s.exports.insert (arguments.row now) = some exports ∧
      s' = { s with exports := exports } := by
  unfold insertExport at inserted
  split at inserted
  case isTrue => cases inserted
  case isFalse =>
    obtain ⟨exports, stored, rfl⟩ := Option.map_eq_some_iff.mp inserted
    exact ⟨exports, stored, rfl⟩

/-- Recording a report replays the stored one or appends the new one. -/
theorem recordScoreClassExport_cases {arguments : ExportArguments} {now : Instant} {body : Bytes}
    (recorded : recordScoreClassExport p arguments now s = .ok (body, s')) :
    validateExport p arguments = .ok () ∧
    ((s' = s ∧ ∃ existing, getScoreClassExport s arguments.epochId arguments.stream =
        some existing ∧ existing.reportBody = body ∧ body = arguments.reportBody) ∨
      (body = arguments.reportBody ∧ requireSuccessor s arguments = .ok () ∧
        ∃ exports, s.exports.insert (arguments.row now) = some exports ∧
          s' = { s with exports := exports })) := by
  simp only [recordScoreClassExport, bind_eq_ok] at recorded
  obtain ⟨⟨⟩, validated, _, -, -, -, -, -, -, -, -, -, recorded⟩ := recorded
  refine ⟨validated, ?_⟩
  split at recorded
  case h_1 existing found =>
    simp only [bind_eq_ok, require_eq_ok, pure_eq_ok, Prod.mk.injEq] at recorded
    obtain ⟨-, ⟨-, same⟩, rfl, rfl⟩ := recorded
    exact .inl ⟨rfl, existing, found, rfl, same⟩
  case h_2 =>
    simp only [bind_eq_ok, demand_eq_ok, pure_eq_ok, Prod.mk.injEq] at recorded
    obtain ⟨⟨⟩, successor, final, inserted, rfl, rfl⟩ := recorded
    exact .inr ⟨rfl, successor, insertExport_eq_some inserted⟩

theorem steps_of_recordScoreClassExport {arguments : ExportArguments} {now : Instant}
    {body : Bytes} (admitted : scope.exported s arguments)
    (recorded : recordScoreClassExport p arguments now s = .ok (body, s')) :
    Steps p scope s s' := by
  obtain ⟨validated, ⟨rfl, -⟩ | ⟨-, successor, exports, inserted, rfl⟩⟩ :=
    recordScoreClassExport_cases recorded
  · exact .refl
  · exact .single (.recordExport admitted validated successor inserted)

/-- An export replays the stored report or records the one it builds. -/
theorem exportScoreClassReport_cases {epochId : ℕ} {arguments : ScoreClass.Arguments}
    {now : Instant} {body : Bytes}
    (exported : ScoreClass.exportScoreClassReport p epochId arguments now s = .ok (body, s')) :
    (s' = s ∧ ∃ existing, getScoreClassExport s epochId arguments.stream = some existing ∧
      existing.reportBody = body) ∨
    ∃ report, Builds p s epochId arguments report ∧
      recordScoreClassExport p report now s = .ok (body, s') := by
  simp only [ScoreClass.exportScoreClassReport, bind_eq_ok] at exported
  obtain ⟨⟨⟩, audience, exported⟩ := exported
  split at exported
  case h_1 existing found =>
    simp only [pure_eq_ok, Prod.mk.injEq] at exported
    obtain ⟨same, rfl⟩ := exported
    exact .inl ⟨rfl, existing, found, same⟩
  case h_2 =>
    simp only [bind_eq_ok, mapError_eq_ok] at exported
    obtain ⟨report, built, recorded⟩ := exported
    exact .inr ⟨report, ⟨audience, built⟩, recorded⟩

theorem steps_of_exportScoreClassReport {epochId : ℕ} {arguments : ScoreClass.Arguments}
    {now : Instant} {body : Bytes}
    (admitted : ∀ report, Builds p s epochId arguments report → scope.exported s report)
    (exported : ScoreClass.exportScoreClassReport p epochId arguments now s = .ok (body, s')) :
    Steps p scope s s' := by
  rcases exportScoreClassReport_cases exported with ⟨rfl, -⟩ | ⟨report, builds, recorded⟩
  · exact .refl
  · exact steps_of_recordScoreClassExport (admitted report builds) recorded

end Inversions

/-! ## All operations -/

variable {p : Platform} {scope : Scope} {s s' : State}

/-- The operation stays within the scope. -/
def Op.Within (p : Platform) (scope : Scope) (s : State) : Op → Prop
  | enqueueCustomerJob item _ _ newJobId _ => scope.enqueued newJobId item
  | pruneCustomerJobs .. => scope.prunes
  | resolveChallenge challengeId _ _ _ customer _ => customer.lease = none → scope.bare s challengeId
  | resolveChallengeWithReceipt challengeId _ _ _ _ customer _ =>
    customer.lease = none → scope.bare s challengeId
  | recordScoreClassExport report _ => scope.exported s report
  | exportScoreClassReport epochId arguments _ =>
    ∀ report, Builds p s epochId arguments report → scope.exported s report
  | _ => True

/-- **Inversion.** A committed operation is a sequence of changes within its
scope. -/
theorem steps_of_commit {op : Op} (within : op.Within p scope s)
    (committed : op.commit p s = .ok s') : Steps p scope s s' := by
  cases op <;> simp only [Op.commit, map_eq_ok] at committed <;>
    obtain ⟨⟨_, _⟩, committed, rfl⟩ := committed
  case enqueueCustomerJob => exact steps_of_enqueueCustomerJob within committed
  case pruneCustomerJobs => exact steps_of_pruneCustomerJobs within committed
  case claimCustomerJob => exact steps_of_claimCustomerJob committed
  case beginEpoch => exact steps_of_beginEpoch committed
  case abortEpoch => exact steps_of_abortEpoch committed
  case abandonCompletedEpoch => exact steps_of_abandonCompletedEpoch committed
  case issueChallenge => exact steps_of_issueChallenge committed
  case resolveChallenge => exact steps_of_resolveChallenge within committed
  case resolveChallengeWithReceipt => exact steps_of_resolveChallengeWithReceipt within committed
  case addAttestation => exact steps_of_addAttestation committed
  case addLifecycleSnapshot => exact steps_of_addLifecycleSnapshot committed
  case completeEpoch => exact steps_of_completeEpoch committed
  case markPublished => exact steps_of_markPublished committed
  case postAndMarkPublished => exact steps_of_postAndMarkPublished committed
  case recordWorkArtifacts => exact steps_of_recordWorkArtifacts committed
  case recordWorkTiming => exact steps_of_recordWorkTiming committed
  case recordScoreClassExport => exact steps_of_recordScoreClassExport within committed
  case exportScoreClassReport => exact steps_of_exportScoreClassReport within committed

/-- The changes of an operation, committed or rolled back. -/
theorem steps_of_step {op : Op} (within : op.Within p scope s) : Steps p scope s (step p s op) :=
  settle_of_ok .refl fun _ committed => steps_of_commit within committed

theorem Op.within_all (op : Op) : op.Within p .all s := by
  cases op
  case resolveChallenge => exact fun _ => trivial
  case resolveChallengeWithReceipt => exact fun _ => trivial
  case exportScoreClassReport => exact fun _ _ => trivial
  all_goals trivial

/-- What every change preserves, a sequence of changes preserves. -/
theorem invariant_steps {I : State → Prop}
    (preserved : ∀ {s s'}, I s → Step p scope s s' → I s') (h : I s)
    (steps : Steps p scope s s') : I s' := by
  induction steps with
  | refl => exact h
  | tail _ change ih => exact preserved ih change

/-- Changes without restriction. -/
abbrev FreeStep (p : Platform) : State → State → Prop := Step p .all

theorem freeSteps_of_step (op : Op) : Steps p .all s (step p s op) :=
  steps_of_step op.within_all

/-- What every change preserves, every operation preserves. -/
theorem invariant_step {I : State → Prop}
    (preserved : ∀ {s s'}, I s → FreeStep p s s' → I s') (op : Op) (h : I s) :
    I (step p s op) :=
  invariant_steps preserved h (freeSteps_of_step op)

/-- What holds of the empty database and is preserved by every change holds of
every reachable state. -/
theorem Reachable.of_changes {I : State → Prop} (reachable : Reachable p s)
    (start : I .initial) (preserved : ∀ {s s'}, I s → FreeStep p s s' → I s') : I s :=
  Semantics.Reachable.invariant reachable start fun _ op h => invariant_step preserved op h

/-- A reflexive and transitive relation that every change from an invariant state
establishes holds between the ends of an operation. -/
theorem relation_step {I : State → Prop} {R : State → State → Prop} (refl : ∀ s, R s s)
    (trans : ∀ {a b c}, R a b → R b c → R a c)
    (preserved : ∀ {s s'}, I s → FreeStep p s s' → I s')
    (related : ∀ {s s'}, I s → FreeStep p s s' → R s s') (op : Op) (h : I s) :
    R s (step p s op) :=
  (invariant_steps (I := fun t => I t ∧ R s t)
    (fun both change => ⟨preserved both.1 change, trans both.2 (related both.1 change)⟩)
    ⟨h, refl s⟩ (freeSteps_of_step op)).2

/-- A reflexive and transitive relation that every change from an invariant state
establishes holds between the ends of a run. -/
theorem relation_runOps {I : State → Prop} {R : State → State → Prop} (refl : ∀ s, R s s)
    (trans : ∀ {a b c}, R a b → R b c → R a c)
    (preserved : ∀ {s s'}, I s → FreeStep p s s' → I s')
    (related : ∀ {s s'}, I s → FreeStep p s s' → R s s') (h : I s) (ops : List Op) :
    R s (runOps p s ops) :=
  relation_run refl trans (fun _ op => invariant_step preserved op)
    (fun _ op => relation_step refl trans preserved related op) h ops

end Cathedral.Ledger
