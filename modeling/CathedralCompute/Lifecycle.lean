import CathedralCompute.Platform

/-!
# Worker lifecycle

The states of an enrolled worker, the reasons a state is entered with, and the
two tables that say which transitions and which reasons are legal. A snapshot is
one worker's state with its evidence window; it exists only when it passes the
checks of its constructor, so every snapshot in the development is well formed.
-/

set_option autoImplicit false

namespace Cathedral

open Codec Semantics

inductive WorkerLifecycleState where
  | pending
  | attested
  | stale
  | failed
  | retiring
  | retired
  | revoked
deriving DecidableEq

inductive LifecycleReason where
  | enrolled
  | endpointChanged
  | reenrolled
  | attestationVerified
  | refreshScheduled
  | refreshRetry
  | evidenceExpired
  | verificationFailed
  | retryExhausted
  | policyRevoked
  | identityConflict
  | operatorRetiring
  | operatorRetired
  | workerRemoved
  | refreshCancelled
  | backfillPending
  | backfillStale
deriving DecidableEq

namespace WorkerLifecycleState

/-- The stored text of a state. -/
def value : WorkerLifecycleState → Text
  | pending => "pending"
  | attested => "attested"
  | stale => "stale"
  | failed => "failed"
  | retiring => "retiring"
  | retired => "retired"
  | revoked => "revoked"

/-- `TERMINAL_STATES`. -/
def terminalStates : List WorkerLifecycleState := [retired, revoked]

/-- `NETWORK_ELIGIBLE_STATES`. -/
def networkEligibleStates : List WorkerLifecycleState := [pending, attested, stale]

/-- `CAPACITY_CONSUMING_STATES`. -/
def capacityConsumingStates : List WorkerLifecycleState :=
  networkEligibleStates ++ [retiring, revoked]

/-- `ALLOWED_TRANSITIONS`. -/
def allowedTransitions : WorkerLifecycleState → List WorkerLifecycleState
  | pending => [pending, attested, failed, retiring, revoked]
  | attested => [attested, stale, failed, retiring, revoked]
  | stale => [stale, attested, failed, retiring, revoked]
  | failed => [failed, retiring, revoked]
  | retiring => [retiring, retired, revoked]
  | retired => [retired]
  | revoked => [revoked]

end WorkerLifecycleState

namespace LifecycleReason

open WorkerLifecycleState

/-- The stored text of a reason. -/
def value : LifecycleReason → Text
  | enrolled => "enrolled"
  | endpointChanged => "endpoint_changed"
  | reenrolled => "reenrolled"
  | attestationVerified => "attestation_verified"
  | refreshScheduled => "refresh_scheduled"
  | refreshRetry => "refresh_retry"
  | evidenceExpired => "evidence_expired"
  | verificationFailed => "verification_failed"
  | retryExhausted => "retry_exhausted"
  | policyRevoked => "policy_revoked"
  | identityConflict => "identity_conflict"
  | operatorRetiring => "operator_retiring"
  | operatorRetired => "operator_retired"
  | workerRemoved => "worker_removed"
  | refreshCancelled => "refresh_cancelled"
  | backfillPending => "backfill_pending"
  | backfillStale => "backfill_stale"

/-- `REASON_TARGETS`: the states a transition may enter with a reason. -/
def reasonTargets : LifecycleReason → List WorkerLifecycleState
  | attestationVerified => [attested]
  | refreshScheduled => [pending, attested, stale]
  | refreshRetry => [pending, attested, stale]
  | refreshCancelled => [pending, attested, stale]
  | evidenceExpired => [stale]
  | verificationFailed => [failed]
  | retryExhausted => [failed]
  | policyRevoked => [revoked]
  | identityConflict => [revoked]
  | operatorRetiring => [retiring]
  | operatorRetired => [retired]
  | workerRemoved => [retired]
  | _ => []

/-- `SNAPSHOT_REASON_TARGETS`: the states a snapshot may show with a reason. -/
def snapshotReasonTargets : LifecycleReason → List WorkerLifecycleState
  | enrolled => [pending]
  | endpointChanged => [pending]
  | reenrolled => [pending]
  | backfillPending => [pending]
  | backfillStale => [stale]
  | reason => reasonTargets reason

end LifecycleReason

/-- `require_transition`. -/
def requireTransition (current target : WorkerLifecycleState) : Except Failure Unit :=
  require (target ∈ current.allowedTransitions)
    (.lifecycleError ("illegal worker lifecycle transition " ++ current.value ++ " -> " ++
      target.value))

/-- `require_transition_reason`. -/
def requireTransitionReason (target : WorkerLifecycleState) (reason : LifecycleReason) :
    Except Failure Unit :=
  require (target ∈ reason.reasonTargets)
    (.lifecycleError ("worker lifecycle reason " ++ reason.value ++ " is invalid for " ++
      target.value))

/-- `require_snapshot_reason`. -/
def requireSnapshotReason (state : WorkerLifecycleState) (reason : LifecycleReason) :
    Except Failure Unit :=
  require (state ∈ reason.snapshotReasonTargets)
    (.lifecycleError ("worker lifecycle reason " ++ reason.value ++ " is invalid for " ++
      state.value))

/-! ## Snapshots -/

/-- The fields of a snapshot, before its constructor has checked them. -/
structure SnapshotFields where
  hotkey : Text
  state : WorkerLifecycleState
  generation : ℕ
  revision : ℕ
  eventId : ℕ
  reason : LifecycleReason
  stateChangedAt : Instant
  evidenceVerifiedAt : Option Instant
  evidenceExpiresAt : Option Instant
  measurement : Option Text
  evidenceDigest : Option Text
  policyDigest : Option Text
  policyRegistryRelease : Option ℤ
  policyRegistryDigest : Option Text
  retryCount : ℕ
  nextRetryAt : Option Instant
deriving DecidableEq

/-- Whether an optional text is present and not empty. -/
def isNonempty (t : Option Text) : Bool :=
  match t with
  | some (_ :: _) => true
  | _ => false

/-- The evidence an attested snapshot needs, relative to its last change. -/
def attestedComplete (s : SnapshotFields) : Bool :=
  match s.evidenceVerifiedAt, s.evidenceExpiresAt with
  | some verified, some expires =>
    verified ≤ s.stateChangedAt && s.stateChangedAt < expires && isNonempty s.measurement &&
      isNonempty s.evidenceDigest && isNonempty s.policyDigest
  | _, _ => false

/-- The evidence window, where both ends are known, is not empty. -/
def evidenceWindowValid (s : SnapshotFields) : Bool :=
  match s.evidenceVerifiedAt, s.evidenceExpiresAt with
  | some verified, some expires => verified < expires
  | _, _ => true

/-- The policy registry reference is absent, or a release with its digest. -/
def registryReferenceValid (release : Option ℤ) (digest : Option Text) : Bool :=
  match release, digest with
  | none, none => true
  | some release, some digest =>
    0 < release && release ≤ maxSqliteInteger && Text.isDigest "sha256:" digest
  | _, _ => false

/-- `LifecycleSnapshot.__post_init__`. -/
def validateSnapshot (s : SnapshotFields) : Except Failure Unit := do
  require (s.hotkey ≠ [] ∧ s.hotkey.length ≤ 512 ∧
      ∀ n ∈ [s.generation, s.revision, s.eventId], 0 < n ∧ (n : ℤ) ≤ maxSqliteInteger)
    (.lifecycleError "worker lifecycle snapshot is invalid")
  requireSnapshotReason s.state s.reason
  require (evidenceWindowValid s) (.lifecycleError "worker lifecycle evidence window is invalid")
  require (s.state = .attested → attestedComplete s)
    (.lifecycleError "attested worker lifecycle snapshot is incomplete")
  require (registryReferenceValid s.policyRegistryRelease s.policyRegistryDigest)
    (.lifecycleError "worker lifecycle policy registry reference is invalid")

/-- A snapshot that its constructor accepted. -/
structure LifecycleSnapshot where
  fields : SnapshotFields
  valid : validateSnapshot fields = .ok ()

/-- The constructor `LifecycleSnapshot(...)`. -/
def makeSnapshot (fields : SnapshotFields) : Except Failure LifecycleSnapshot :=
  match valid : validateSnapshot fields with
  | .ok () => .ok ⟨fields, valid⟩
  | .error failure => .error failure

theorem makeSnapshot_eq_ok {fields : SnapshotFields} {snapshot : LifecycleSnapshot}
    (h : makeSnapshot fields = .ok snapshot) : snapshot.fields = fields := by
  unfold makeSnapshot at h
  split at h
  · cases h
    rfl
  · cases h

/-- `LifecycleSnapshot.eligible_at`. -/
def eligibleAt (s : SnapshotFields) (now : Instant) : Bool :=
  s.state = .attested &&
    match s.evidenceExpiresAt with
    | some expires => now < expires
    | none => false

/-! ## Retries -/

/-- The bounds of the retry delay. -/
structure RetryPolicy where
  baseSeconds : ℤ := 5
  maximumSeconds : ℤ := 300
  jitterSeconds : ℤ := 5
deriving DecidableEq

/-- `1 <= base <= maximum <= 86400` and `0 <= jitter <= maximum`. -/
def RetryPolicy.Bounded (policy : RetryPolicy) : Prop :=
  1 ≤ policy.baseSeconds ∧ policy.baseSeconds ≤ policy.maximumSeconds ∧
    policy.maximumSeconds ≤ 86400 ∧ 0 ≤ policy.jitterSeconds ∧
    policy.jitterSeconds ≤ policy.maximumSeconds

instance (policy : RetryPolicy) : Decidable policy.Bounded := by
  exact inferInstanceAs (Decidable (_ ∧ _))

/-- The number eight octets denote, most significant first. -/
def fromBigEndian (octets : Bytes) : ℕ := octets.foldl (fun n octet => n * 256 + octet.toNat) 0

/-- `retry_delay_seconds`. -/
def retryDelaySeconds (hotkey : Text) (generation attempt : ℕ) (policy : RetryPolicy) :
    Except Failure ℕ := do
  require (hotkey ≠ [] ∧ 0 < generation ∧ 0 < attempt ∧ policy.Bounded)
    (.lifecycleError "worker lifecycle retry policy is invalid")
  -- The bounds make the three fields natural numbers.
  let base := policy.baseSeconds.toNat
  let maximum := policy.maximumSeconds.toNat
  let jitterBound := policy.jitterSeconds.toNat
  let exponential := min maximum (base * 2 ^ min (attempt - 1) 30)
  let material ← demand .unicodeEncodeError
    (Text.utf8 (hotkey ++ [0] ++ natText generation ++ [0] ++ natText attempt))
  let jitter :=
    if jitterBound = 0 then 0
    else fromBigEndian ((sha256 material).take 8) % (jitterBound + 1)
  return min maximum (exponential + jitter)

end Cathedral
