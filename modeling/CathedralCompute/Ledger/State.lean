import CathedralCompute.Lanes.Sat
import CathedralCompute.Lifecycle
import CathedralCompute.Semantics.Table
import Mathlib.Algebra.Order.Ring.Rat

/-!
# The tables of the epoch ledger

The rows of the SQLite schema and the state of the database. Primary keys are
enforced by the table type. A customer job carries its lease columns inside its
`leased` status, which is the schema's check that they are present exactly then.
Work units and scores are exact nonnegative rationals. Times written by the
ledger itself are instants: their stored texts compare as the instants do.
-/

set_option autoImplicit false

namespace Cathedral.Ledger

open Codec Semantics

/-! ## Rows -/

inductive EpochStatus where
  | running
  | aborted
  | complete
  | published
  | abandoned
deriving DecidableEq

def EpochStatus.value : EpochStatus → Text
  | running => "running"
  | aborted => "aborted"
  | complete => "complete"
  | published => "published"
  | abandoned => "abandoned"

/-- A row of `epochs`. -/
structure EpochRow where
  epochId : ℕ
  sourceEpoch : ℤ
  status : EpochStatus
  startedAt : Instant
  completedAt : Option Instant
  publishedAt : Option Instant
  generatedAt : Option Text
  reportBody : Option Bytes
  reportDigest : Option Text
  policyRegistryRelease : Option ℤ
  policyRegistryDigest : Option Text
  abandonedAt : Option Instant
  abandonReason : Option Text
  anchorNetwork : Option Text
  anchorNetuid : Option ℤ
  challengeAnchorBlock : Option ℤ
  challengeAnchorHash : Option Text

inductive ChallengeStatus where
  | issued
  | verified
  | failed
  | abandoned
deriving DecidableEq

def ChallengeStatus.value : ChallengeStatus → Text
  | issued => "issued"
  | verified => "verified"
  | failed => "failed"
  | abandoned => "abandoned"

/-- A row of `challenges`. -/
structure ChallengeRow where
  challengeId : Text
  epochId : ℕ
  hotkey : Text
  status : ChallengeStatus
  workUnits : ℚ≥0
  issuedAt : Instant
  resolvedAt : Option Instant

inductive TeeType where
  | tdx
  | tdxGpuCc
deriving DecidableEq

inductive Workload where
  | cpu
  | gpu
deriving DecidableEq

/-- A row of `epoch_attestations`; its verdict is always `VERIFIED`. -/
structure AttestationRow where
  epochId : ℕ
  hotkey : Text
  teeType : TeeType
  workload : Workload
  evidenceDigest : Text
  policyMode : Text
  scoreEligible : Bool
  attestedAt : Instant
  envelopeDigest : Option Text
  challengeDigest : Option Text

/-- A row of `epoch_scores`. -/
structure ScoreRow where
  epochId : ℕ
  hotkey : Text
  workUnits : ℚ≥0
  score : ℚ≥0

/-- A row of `work_artifacts`. -/
structure ArtifactRow where
  challengeId : Text
  workItemBody : Bytes
  resultBody : Bytes
  createdAt : Instant

/-- A row of `assurance_receipts`. -/
structure ReceiptRow where
  receiptId : Text
  epochId : ℕ
  hotkey : Text
  challengeId : Text
  workStatus : ChallengeStatus
  receiptBody : Bytes
  receiptDigest : Text
  issuedAt : Text

/-- A validator-facing export stream. -/
structure Stream where
  network : Text
  netuid : ℤ
  classId : Text
  sourceId : Text
deriving DecidableEq

/-- A row of `score_class_exports`. -/
structure ExportRow where
  epochId : ℕ
  sourceEpoch : ℤ
  stream : Stream
  reportId : Text
  reportBody : Bytes
  reportDigest : Text
  createdAt : Instant

/-- A row of `epoch_worker_lifecycle`. -/
structure LifecycleRow where
  epochId : ℕ
  hotkey : Text
  state : WorkerLifecycleState
  generation : ℕ
  revision : ℕ
  eventId : ℕ
  reason : LifecycleReason
  evidenceExpiresAt : Option Text
  evidenceDigest : Option Text
  policyDigest : Option Text
  snapshotAt : Text

inductive JobClass where
  | canonical
  | customer
deriving DecidableEq

/-- A row of `work_timing`. -/
structure TimingRow where
  challengeId : Text
  dispatchMonotonicNs : ℤ
  verifiedMonotonicNs : ℤ
  jobClass : JobClass
  producerBootId : Text
  createdAt : Instant

/-- The lease columns of a leased customer job. -/
structure Lease where
  token : Text
  owner : Text
  epochId : ℕ
  challengeId : Text
  expiresAt : Instant
deriving DecidableEq

inductive JobStatus where
  | queued
  | leased (lease : Lease)
  | succeeded
  | failed
deriving DecidableEq

def JobStatus.value : JobStatus → Text
  | queued => "queued"
  | leased _ => "leased"
  | succeeded => "succeeded"
  | failed => "failed"

/-- Whether the status is `succeeded` or `failed`. -/
def JobStatus.IsTerminal (status : JobStatus) : Prop := status = succeeded ∨ status = failed

instance (status : JobStatus) : Decidable status.IsTerminal :=
  inferInstanceAs (Decidable (_ ∨ _))

/-- The lease of a leased job. -/
def JobStatus.lease? : JobStatus → Option Lease
  | leased lease => some lease
  | _ => none

@[simp] theorem JobStatus.lease?_eq_some {status : JobStatus} {lease : Lease} :
    status.lease? = some lease ↔ status = leased lease := by
  cases status <;> simp [lease?]

/-- A row of `customer_jobs`. -/
structure JobRow where
  jobId : Text
  customerId : Text
  idempotencyKey : Option Text
  payloadBody : Bytes
  payloadDigest : Text
  status : JobStatus
  submittedAt : Instant
  availableAt : Instant
  attemptCount : ℕ
  resultBody : Option Bytes
  resultDigest : Option Text
  lastError : Option Text
  resolvedAt : Option Instant

/-! ## Keys and state -/

def AttestationRow.key (row : AttestationRow) : ℕ × Text := (row.epochId, row.hotkey)

def ScoreRow.key (row : ScoreRow) : ℕ × Text := (row.epochId, row.hotkey)

def LifecycleRow.key (row : LifecycleRow) : ℕ × Text := (row.epochId, row.hotkey)

def ExportRow.key (row : ExportRow) : ℕ × Stream := (row.epochId, row.stream)

/-- The database. `epochSequence` is the last epoch id handed out. -/
structure State where
  epochSequence : ℕ
  epochs : Table EpochRow.epochId
  challenges : Table ChallengeRow.challengeId
  attestations : Table AttestationRow.key
  scores : Table ScoreRow.key
  artifacts : Table ArtifactRow.challengeId
  receipts : Table ReceiptRow.receiptId
  exports : Table ExportRow.key
  lifecycle : Table LifecycleRow.key
  timing : Table TimingRow.challengeId
  jobs : Table JobRow.jobId

/-- A freshly created database. -/
def State.initial : State :=
  ⟨0, .empty, .empty, .empty, .empty, .empty, .empty, .empty, .empty, .empty, .empty⟩

/-! ## Lookups shared by the operations -/

/-- `_epoch`. -/
def epoch (s : State) (epochId : ℕ) : Except Failure EpochRow :=
  demand (.ledgerError ("epoch " ++ natText epochId ++ " not found")) (s.epochs.find? epochId)

/-- `_require_running`. -/
def requireRunning (s : State) (epochId : ℕ) (action : Text) : Except Failure Unit := do
  let row ← epoch s epochId
  require (row.status = .running)
    (.ledgerError ("epoch " ++ natText epochId ++ " is " ++ row.status.value ++ "; cannot " ++
      action))

theorem epoch_eq_ok {s : State} {epochId : ℕ} {row : EpochRow} :
    epoch s epochId = .ok row ↔ row ∈ s.epochs.rows ∧ row.epochId = epochId := by
  rw [epoch, demand_eq_ok, Table.find?_eq_some]

/-- There is a running epoch with this id. -/
def State.Running (s : State) (epochId : ℕ) : Prop :=
  ∃ row ∈ s.epochs.rows, row.epochId = epochId ∧ row.status = .running

theorem requireRunning_eq_ok {s : State} {epochId : ℕ} {action : Text} {u : Unit} :
    requireRunning s epochId action = .ok u ↔ s.Running epochId := by
  simp only [requireRunning, bind_eq_ok, require_eq_ok, epoch_eq_ok, State.Running]
  constructor
  · rintro ⟨row, ⟨member, named⟩, running⟩
    exact ⟨row, member, named, running⟩
  · rintro ⟨row, member, named, running⟩
    exact ⟨row, ⟨member, named⟩, running⟩

end Cathedral.Ledger
