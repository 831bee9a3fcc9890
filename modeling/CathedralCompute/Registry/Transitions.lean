import CathedralCompute.Registry.State

/-!
# Lifecycle transitions

Every write of the lifecycle tables: the first event of a worker, a transition
under the transition table, and a re-enrollment, which starts a new generation.
A transition takes what it is not given from the worker's current row, field by
field. Each write appends an event and rewrites the current row in one
transaction.
-/

set_option autoImplicit false

namespace Cathedral.Registry

open Codec Semantics

/-! ## First events -/

/-- The evidence a first event may carry. -/
structure InitialEvidence where
  verifiedAt : Option Instant := none
  expiresAt : Option Instant := none
  evidenceDigest : Option Text := none
  policyDigest : Option Text := none

/-- The first event of a worker. -/
def initialEvent (hotkey : Text) (state : WorkerLifecycleState) (reason : LifecycleReason)
    (when : Instant) (evidence : InitialEvidence) (eventId : ℕ) : EventRow where
  eventId := eventId
  hotkey := hotkey
  generation := 1
  revision := 1
  fromState := none
  toState := state
  reason := reason
  occurredAt := when
  evidenceVerifiedAt := evidence.verifiedAt
  evidenceExpiresAt := evidence.expiresAt
  measurement := none
  evidenceDigest := evidence.evidenceDigest
  policyDigest := evidence.policyDigest
  policyRegistryRelease := none
  policyRegistryDigest := none
  retryCount := 0
  nextRetryAt := none
  operatorDetail := none

/-- The current row of a worker after its first event. -/
def initialRow (hotkey : Text) (state : WorkerLifecycleState) (reason : LifecycleReason)
    (when : Instant) (evidence : InitialEvidence) (eventId : ℕ) : SnapshotFields where
  hotkey := hotkey
  state := state
  generation := 1
  revision := 1
  eventId := eventId
  reason := reason
  stateChangedAt := when
  evidenceVerifiedAt := evidence.verifiedAt
  evidenceExpiresAt := evidence.expiresAt
  measurement := none
  evidenceDigest := evidence.evidenceDigest
  policyDigest := evidence.policyDigest
  policyRegistryRelease := none
  policyRegistryDigest := none
  retryCount := 0
  nextRetryAt := none

/-- `_insert_initial_lifecycle`. -/
def insertInitialLifecycle (hotkey : Text) (state : WorkerLifecycleState)
    (reason : LifecycleReason) (when : Instant) (evidence : InitialEvidence) (s : State) :
    Except Failure State := do
  let (eventId, s) ← insertEvent (initialEvent hotkey state reason when evidence) s
  let current ← demand .integrityError
    (s.current.insert (initialRow hotkey state reason when evidence eventId))
  return { s with current := current }

/-! ## Transitions -/

/-- The keyword arguments of `_transition_lifecycle_in_connection`. -/
structure TransitionArguments where
  evidenceVerifiedAt : Option Instant := none
  evidenceExpiresAt : Option Instant := none
  measurement : Option Text := none
  evidenceDigest : Option Text := none
  policyDigest : Option Text := none
  policyRegistryRelease : Option ℤ := none
  policyRegistryDigest : Option Text := none
  retryCount : Option ℕ := none
  nextRetryAt : Option Instant := none
  operatorDetail : Option Text := none
  expectedGeneration : Option ℤ := none
  expectedRevision : Option ℤ := none
  inheritPolicyRegistry : Bool := true

/-- The generation and the revision are the expected ones, where one is given. -/
def requireExpected (current : SnapshotFields) (expectedGeneration expectedRevision : Option ℤ) :
    Except Failure Unit := do
  require (∀ generation ∈ expectedGeneration, (current.generation : ℤ) = generation)
    (.lifecycleError "worker lifecycle generation changed")
  require (∀ revision ∈ expectedRevision, (current.revision : ℤ) = revision)
    (.lifecycleError "worker lifecycle revision changed")

/-- What a transition writes into both tables. -/
structure TransitionValues where
  evidenceVerifiedAt : Option Instant
  evidenceExpiresAt : Option Instant
  measurement : Option Text
  evidenceDigest : Option Text
  policyDigest : Option Text
  policyRegistryRelease : Option ℤ
  policyRegistryDigest : Option Text
  retryCount : ℕ
  nextRetryAt : Option Instant

/-- The evidence is complete and fresh at a time. -/
def TransitionValues.FreshAt (values : TransitionValues) (when : Instant) : Prop :=
  (∃ verified ∈ values.evidenceVerifiedAt, verified ≤ when) ∧
    (∃ expires ∈ values.evidenceExpiresAt, when < expires) ∧
    isNonempty values.measurement = true ∧ values.evidenceDigest ≠ none ∧
    values.policyDigest ≠ none

instance (values : TransitionValues) (when : Instant) : Decidable (values.FreshAt when) :=
  inferInstanceAs (Decidable (_ ∧ _))

/-- Each value as given, or else as the current row has it. A verified
attestation resets the retries, and no retry is scheduled for a worker that
leaves the network. -/
def chosenValues (current : SnapshotFields) (target : WorkerLifecycleState)
    (reason : LifecycleReason) (a : TransitionArguments) : TransitionValues :=
  let inherits := a.inheritPolicyRegistry && a.policyRegistryRelease.isNone
  let verified := target = .attested ∧ reason = .attestationVerified
  { evidenceVerifiedAt := a.evidenceVerifiedAt <|> current.evidenceVerifiedAt
    evidenceExpiresAt := a.evidenceExpiresAt <|> current.evidenceExpiresAt
    measurement := a.measurement <|> current.measurement
    evidenceDigest := a.evidenceDigest <|> current.evidenceDigest
    policyDigest := a.policyDigest <|> current.policyDigest
    policyRegistryRelease :=
      if inherits then current.policyRegistryRelease else a.policyRegistryRelease
    policyRegistryDigest :=
      if inherits then current.policyRegistryDigest else a.policyRegistryDigest
    retryCount := if verified then 0 else a.retryCount.getD current.retryCount
    nextRetryAt :=
      if verified ∨ target ∈ WorkerLifecycleState.terminalStates ∨ target = .failed then none
      else a.nextRetryAt }

/-- The event a transition appends. -/
def transitionEvent (current : SnapshotFields) (target : WorkerLifecycleState)
    (reason : LifecycleReason) (when : Instant) (values : TransitionValues)
    (detail : Option Text) (eventId : ℕ) : EventRow where
  eventId := eventId
  hotkey := current.hotkey
  generation := current.generation
  revision := current.revision + 1
  fromState := some current.state
  toState := target
  reason := reason
  occurredAt := when
  evidenceVerifiedAt := values.evidenceVerifiedAt
  evidenceExpiresAt := values.evidenceExpiresAt
  measurement := values.measurement
  evidenceDigest := values.evidenceDigest
  policyDigest := values.policyDigest
  policyRegistryRelease := values.policyRegistryRelease
  policyRegistryDigest := values.policyRegistryDigest
  retryCount := values.retryCount
  nextRetryAt := values.nextRetryAt
  operatorDetail := detail

/-- The current row after a transition. -/
def transitionRow (revision eventId : ℕ) (target : WorkerLifecycleState)
    (reason : LifecycleReason) (when : Instant) (values : TransitionValues)
    (row : SnapshotFields) : SnapshotFields :=
  { row with
    state := target
    revision := revision
    eventId := eventId
    reason := reason
    stateChangedAt := when
    evidenceVerifiedAt := values.evidenceVerifiedAt
    evidenceExpiresAt := values.evidenceExpiresAt
    measurement := values.measurement
    evidenceDigest := values.evidenceDigest
    policyDigest := values.policyDigest
    policyRegistryRelease := values.policyRegistryRelease
    policyRegistryDigest := values.policyRegistryDigest
    retryCount := values.retryCount
    nextRetryAt := values.nextRetryAt }

/-- The row a transition of `current` rewrites. -/
def IsPrior (current row : SnapshotFields) : Prop :=
  row.hotkey = current.hotkey ∧ row.generation = current.generation ∧
    row.revision = current.revision

instance (current row : SnapshotFields) : Decidable (IsPrior current row) :=
  inferInstanceAs (Decidable (_ ∧ _))

/-- `_transition_lifecycle_in_connection`. -/
def transitionLifecycleInConnection (p : Platform) (hotkey : Text)
    (target : WorkerLifecycleState) (reason : LifecycleReason) (when : Instant)
    (a : TransitionArguments) (s : State) : Except Failure (LifecycleSnapshot × State) := do
  require (∀ value ∈ a.expectedGeneration.toList ++ a.expectedRevision.toList, 0 < value)
    (.lifecycleError "worker lifecycle expectation is invalid")
  require (a.policyRegistryRelease.isNone = a.policyRegistryDigest.isNone)
    (.lifecycleError "worker lifecycle policy registry reference is invalid")
  let s ← advanceLifecycleClock when s
  let snapshot ← currentSnapshot p s hotkey
  let current := snapshot.fields
  requireExpected current a.expectedGeneration a.expectedRevision
  require (current.stateChangedAt ≤ when)
    (.lifecycleError "worker lifecycle transition time moved backwards")
  requireTransition current.state target
  requireTransitionReason target reason
  let values := chosenValues current target reason a
  require (target = .attested → values.FreshAt when)
    (.lifecycleError "attested lifecycle state requires fresh evidence")
  require (∀ retry ∈ values.nextRetryAt, when ≤ retry)
    (.lifecycleError "worker lifecycle retry cannot be scheduled in the past")
  let detail := a.operatorDetail.map fun t => t.strip.take 300
  let (eventId, s) ← insertEvent (transitionEvent current target reason when values detail) s
  require ((s.current.select (IsPrior current)).length = 1)
    (.lifecycleError "concurrent worker lifecycle transition rejected")
  let s := { s with
    current := s.current.update (IsPrior current)
      (transitionRow (current.revision + 1) eventId target reason when values) }
  let changed ← currentSnapshot p s hotkey
  return (changed, s)

/-- `transition_lifecycle`. -/
def transitionLifecycle (p : Platform) (hotkey : Text) (target : WorkerLifecycleState)
    (reason : LifecycleReason) (expectedGeneration expectedRevision : Option ℤ)
    (operatorDetail : Option Text) (when : Instant) (s : State) :
    Except Failure (LifecycleSnapshot × State) :=
  transitionLifecycleInConnection p hotkey target reason when
    { expectedGeneration := expectedGeneration
      expectedRevision := expectedRevision
      operatorDetail := operatorDetail } s

/-! ## Expiry -/

/-- The worker is attested on evidence that has expired. -/
def SnapshotFields.ExpiredAt (row : SnapshotFields) (when : Instant) : Prop :=
  row.state = .attested ∧ ∃ expires ∈ row.evidenceExpiresAt, expires ≤ when

instance (row : SnapshotFields) (when : Instant) : Decidable (SnapshotFields.ExpiredAt row when) :=
  inferInstanceAs (Decidable (_ ∧ _))

/-- `_materialize_expiry_in_connection`. -/
def materializeExpiryInConnection (p : Platform) (when : Instant) (hotkey : Text) (s : State) :
    Except Failure (LifecycleSnapshot × State) := do
  let current ← currentSnapshot p s hotkey
  if SnapshotFields.ExpiredAt current.fields when then
    transitionLifecycleInConnection p hotkey .stale .evidenceExpired when
      { expectedGeneration := some current.fields.generation
        expectedRevision := some current.fields.revision } s
  else return (current, s)

/-- `lifecycle_snapshot`. -/
def lifecycleSnapshot (p : Platform) (hotkey : Text) (materializeFreshness : Bool)
    (when : Instant) (s : State) : Except Failure (LifecycleSnapshot × State) := do
  let s ← advanceLifecycleClock when s
  if materializeFreshness then materializeExpiryInConnection p when hotkey s
  else
    let current ← currentSnapshot p s hotkey
    return (current, s)

/-- The hotkeys of the current rows, in order. -/
def orderedHotkeys (s : State) : List Text :=
  (s.current.rows.map SnapshotFields.hotkey).insertionSort fun a b => a ≤ b

/-- The worker is due for a refresh. -/
def SnapshotFields.DueAt (row : SnapshotFields) (when horizon : Instant) : Prop :=
  row.state ∈ WorkerLifecycleState.networkEligibleStates ∧
    (∀ retry ∈ row.nextRetryAt, retry ≤ when) ∧ ∀ expires ∈ row.evidenceExpiresAt, expires ≤ horizon

instance (row : SnapshotFields) (when horizon : Instant) :
    Decidable (SnapshotFields.DueAt row when horizon) :=
  inferInstanceAs (Decidable (_ ∧ _))

/-- `due_refreshes`. -/
def dueRefreshes (p : Platform) (refreshAheadSeconds : ℤ) (when : Instant) (s : State) :
    Except Failure (List LifecycleSnapshot × State) := do
  require (0 ≤ refreshAheadSeconds) (.lifecycleError "refresh-ahead window is invalid")
  let horizon ← addSeconds when refreshAheadSeconds.toNat
  let s ← advanceLifecycleClock when s
  let (snapshots, s) ← eachInTurn (materializeExpiryInConnection p when) (orderedHotkeys s) s
  return (snapshots.filter fun snapshot => SnapshotFields.DueAt snapshot.fields when horizon, s)

/-! ## Verified attestations and failures -/

/-- `record_attested_lifecycle` inside a transaction. -/
def recordAttestedLifecycle (p : Platform) (ttl : ℕ) (hotkey : Text) (attested : Attested)
    (policyRegistryRelease : Option ℤ) (policyRegistryDigest : Option Text)
    (expectedGeneration expectedRevision : Option ℤ) (when : Instant) (s : State) :
    Except Failure (LifecycleSnapshot × State) := do
  require (attestationAdmissionPolicy.allows attested.assurance)
    (.lifecycleError "attested lifecycle update requires typed admission claims")
  let assurance ← demand
    (.lifecycleError "attested lifecycle update requires typed admission claims") attested.assurance
  let verifiedRaw ← demand (.lifecycleError "attested lifecycle update requires verification time")
    assurance.hardware.verifiedAt
  let verifiedAt ← parseIsoUtc p verifiedRaw
  let expiresAt ← addSeconds verifiedAt ttl
  require (when < expiresAt)
    (.lifecycleError "attested lifecycle update evidence is already stale")
  transitionLifecycleInConnection p hotkey .attested .attestationVerified when
    { evidenceVerifiedAt := some verifiedAt
      evidenceExpiresAt := some expiresAt
      measurement := some attested.measurement
      evidenceDigest := assurance.hardware.evidenceDigest
      policyDigest := assurance.software.policyDigest
      policyRegistryRelease := policyRegistryRelease
      policyRegistryDigest := policyRegistryDigest
      retryCount := some 0
      expectedGeneration := expectedGeneration
      expectedRevision := expectedRevision
      inheritPolicyRegistry := false } s

/-- The worker is out of service: a refresh failure does not touch it. -/
def SnapshotFields.OutOfService (row : SnapshotFields) : Prop :=
  row.state ∈ WorkerLifecycleState.terminalStates ∨ row.state ∈ [.retiring, .failed]

instance (row : SnapshotFields) : Decidable (SnapshotFields.OutOfService row) :=
  inferInstanceAs (Decidable (_ ∨ _))

/-- The state a worker is in while a refresh is retried. -/
def retryTarget (row : SnapshotFields) (when : Instant) : WorkerLifecycleState :=
  if row.state = .attested ∧ ∃ expires ∈ row.evidenceExpiresAt, when < expires then .attested
  else if row.state = .pending then .pending
  else .stale

/-- `record_refresh_failure` inside a transaction. -/
def recordRefreshFailure (p : Platform) (hotkey : Text) (attempt maximumAttempts : ℤ)
    (retry : RetryPolicy) (operatorDetail : Option Text)
    (expectedGeneration expectedRevision : Option ℤ) (when : Instant) (s : State) :
    Except Failure (LifecycleSnapshot × State) := do
  require (1 ≤ attempt ∧ attempt ≤ maximumAttempts ∧ maximumAttempts ≤ 32)
    (.lifecycleError "worker lifecycle retry attempt is invalid")
  let s ← advanceLifecycleClock when s
  let current ← currentSnapshot p s hotkey
  requireExpected current.fields expectedGeneration expectedRevision
  if SnapshotFields.OutOfService current.fields then return (current, s)
  else if attempt = maximumAttempts then
    transitionLifecycleInConnection p hotkey .failed .retryExhausted when
      { retryCount := some attempt.toNat
        operatorDetail := operatorDetail
        expectedGeneration := expectedGeneration
        expectedRevision := expectedRevision } s
  else
    let delay ← retryDelaySeconds hotkey current.fields.generation attempt.toNat retry
    let nextRetry ← addSeconds when delay
    transitionLifecycleInConnection p hotkey (retryTarget current.fields when) .refreshRetry when
      { retryCount := some attempt.toNat
        nextRetryAt := some nextRetry
        operatorDetail := operatorDetail
        expectedGeneration := expectedGeneration
        expectedRevision := expectedRevision } s

/-! ## Policy -/

/-- The worker runs a measurement the policy does not allow. -/
def SnapshotFields.Disallowed (row : SnapshotFields) (allowedMeasurements : List Text) : Prop :=
  row.state ∈ WorkerLifecycleState.networkEligibleStates ∧
    ∃ measurement ∈ row.measurement, measurement ∉ allowedMeasurements

instance (row : SnapshotFields) (allowedMeasurements : List Text) :
    Decidable (SnapshotFields.Disallowed row allowedMeasurements) :=
  inferInstanceAs (Decidable (_ ∧ _))

/-- Revoke the worker of one row if the policy disallows it. -/
def revokeDisallowed (p : Platform) (allowedMeasurements : List Text)
    (policyRegistryRelease : Option ℤ) (policyRegistryDigest : Option Text) (when : Instant)
    (row : SnapshotFields) (s : State) : Except Failure (Option LifecycleSnapshot × State) := do
  let current ← lifecycleSnapshotFromRow row
  if SnapshotFields.Disallowed current.fields allowedMeasurements then
    let (revoked, s) ← transitionLifecycleInConnection p current.fields.hotkey .revoked
      .policyRevoked when
      { policyRegistryRelease := policyRegistryRelease
        policyRegistryDigest := policyRegistryDigest
        expectedGeneration := some current.fields.generation
        expectedRevision := some current.fields.revision } s
    return (some revoked, s)
  else return (none, s)

/-- The current rows, ordered by hotkey. -/
def orderedRows (s : State) : List SnapshotFields :=
  s.current.rows.insertionSort fun a b => a.hotkey ≤ b.hotkey

/-- `apply_lifecycle_policy`. -/
def applyLifecyclePolicy (p : Platform) (allowedMeasurements : List Text)
    (policyRegistryRelease : Option ℤ) (policyRegistryDigest : Option Text) (when : Instant)
    (s : State) : Except Failure (List LifecycleSnapshot × State) := do
  require (∀ measurement ∈ allowedMeasurements, measurement ≠ [])
    (.lifecycleError "lifecycle measurement policy is invalid")
  let s ← advanceLifecycleClock when s
  let (revoked, s) ← eachInTurn
    (revokeDisallowed p allowedMeasurements policyRegistryRelease policyRegistryDigest when)
    (orderedRows s) s
  return (revoked.filterMap id, s)

/-! ## Re-enrollment and retirement -/

/-- A worker that cannot re-enroll itself. -/
def SnapshotFields.OperatorOnly (row : SnapshotFields) : Prop :=
  row.state ∈ WorkerLifecycleState.terminalStates ∨ row.state = .retiring

instance (row : SnapshotFields) : Decidable (SnapshotFields.OperatorOnly row) :=
  inferInstanceAs (Decidable (_ ∨ _))

/-- The event a re-enrollment appends. -/
def reenrollEvent (current : SnapshotFields) (reason : LifecycleReason) (when : Instant)
    (eventId : ℕ) : EventRow where
  eventId := eventId
  hotkey := current.hotkey
  generation := current.generation + 1
  revision := 1
  fromState := some current.state
  toState := .pending
  reason := reason
  occurredAt := when
  evidenceVerifiedAt := none
  evidenceExpiresAt := none
  measurement := none
  evidenceDigest := none
  policyDigest := none
  policyRegistryRelease := none
  policyRegistryDigest := none
  retryCount := 0
  nextRetryAt := none
  operatorDetail := none

/-- The current row after a re-enrollment. -/
def reenrollRow (generation eventId : ℕ) (reason : LifecycleReason) (when : Instant)
    (row : SnapshotFields) : SnapshotFields :=
  { row with
    state := .pending
    generation := generation
    revision := 1
    eventId := eventId
    reason := reason
    stateChangedAt := when
    evidenceVerifiedAt := none
    evidenceExpiresAt := none
    measurement := none
    evidenceDigest := none
    policyDigest := none
    policyRegistryRelease := none
    policyRegistryDigest := none
    retryCount := 0
    nextRetryAt := none }

/-- `reenroll_lifecycle` inside a transaction. -/
def reenrollLifecycle (p : Platform) (hotkey : Text) (reason : LifecycleReason)
    (operator : Bool) (when : Instant) (s : State) :
    Except Failure (LifecycleSnapshot × State) := do
  require (reason ∈ [.reenrolled, .endpointChanged])
    (.lifecycleError "reenrollment lifecycle reason is invalid")
  let s ← advanceLifecycleClock when s
  let snapshot ← currentSnapshot p s hotkey
  let current := snapshot.fields
  require (SnapshotFields.OperatorOnly current → operator)
    (.lifecycleError ("worker " ++ p.repr hotkey ++ " is " ++ current.state.value ++
      "; it cannot re-enroll itself. Recovery is an operator action: `cathedral lifecycle " ++
      "reenroll --hotkey <hotkey>`"))
  let (eventId, s) ← insertEvent (reenrollEvent current reason when) s
  let s := { s with
    current := s.current.update (fun row => row.hotkey = hotkey)
      (reenrollRow (current.generation + 1) eventId reason when) }
  let changed ← currentSnapshot p s hotkey
  return (changed, s)

/-- The first half of a retirement: from any state in service to `retiring`. -/
def beginRetirement (p : Platform) (hotkey : Text) (when : Instant)
    (current : LifecycleSnapshot) (s : State) : Except Failure (LifecycleSnapshot × State) :=
  if current.fields.state = .retiring then .ok (current, s)
  else transitionLifecycleInConnection p hotkey .retiring .operatorRetiring when
    { expectedGeneration := some current.fields.generation
      expectedRevision := some current.fields.revision } s

/-- `retire_lifecycle`. -/
def retireLifecycle (p : Platform) (hotkey : Text) (removed : Bool) (when : Instant)
    (s : State) : Except Failure (LifecycleSnapshot × State) := do
  let s ← advanceLifecycleClock when s
  let current ← currentSnapshot p s hotkey
  if current.fields.state ∈ WorkerLifecycleState.terminalStates then return (current, s)
  else
    let (current, s) ← beginRetirement p hotkey when current s
    if removed then
      transitionLifecycleInConnection p hotkey .retired .workerRemoved when
        { expectedGeneration := some current.fields.generation
          expectedRevision := some current.fields.revision } s
    else return (current, s)

end Cathedral.Registry
