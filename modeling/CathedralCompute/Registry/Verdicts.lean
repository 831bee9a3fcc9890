import CathedralCompute.Registry.Endpoints
import CathedralCompute.Registry.Transitions

/-!
# Enrollments, verdicts and probe failures

The operations that write the enrollment and attestation tables together with a
worker's lifecycle: enrolling under the capacity caps, recording a verdict behind
the chip gate, recording a failed probe, removing a worker, and giving workers
of an older release their first lifecycle event.
-/

set_option autoImplicit false

namespace Cathedral.Registry

open Codec Semantics

/-! ## Enrollment -/

/-- The arguments of `enroll`; `token` is what `generate_worker_token` returns. -/
structure EnrollArguments where
  hotkey : Text
  endpointUrl : Text
  nonce : Option Text
  requestDigest : Option Text
  coldkey : Option Text
  requestedProfileId : Option Text
  maxEndpointsPerColdkey : Option ℤ
  maxTotalEnrollments : Option ℤ
  uniqueEndpoint : Bool
  refuseTerminal : Bool
  token : Text

/-- The lifecycle state of a hotkey consumes capacity; so does a worker without
one. -/
def State.Live (s : State) (hotkey : Text) : Prop :=
  ∀ row ∈ s.current.find? hotkey, row.state ∈ WorkerLifecycleState.capacityConsumingStates

instance (s : State) (hotkey : Text) : Decidable (s.Live hotkey) :=
  inferInstanceAs (Decidable (∀ row ∈ s.current.find? hotkey, _))

/-- The live enrollments of other hotkeys. -/
def liveOthers (s : State) (hotkey : Text) : List EnrollmentRow :=
  s.enrollments.select fun row => s.Live row.hotkey ∧ row.hotkey ≠ hotkey

/-- The refusal of workers that only an operator may bring back. -/
def refuseOutOfService (s : State) (hotkey : Text) : Except Failure Unit :=
  match s.current.find? hotkey with
  | none => .ok ()
  | some row => do
    require (row.state ∉ WorkerLifecycleState.terminalStates)
      (.enrollmentRejected "worker is in a terminal lifecycle state"
        ("lifecycle_" ++ row.state.value))
    require (row.state ≠ .retiring)
      (.enrollmentRejected "worker is retiring; re-enrollment is an operator action"
        "lifecycle_retiring")

/-- No other live worker holds the endpoint. -/
def requireUnclaimed (s : State) (hotkey canonical : Text) : Except Failure Unit :=
  require (∀ row ∈ liveOthers s hotkey, row.endpointCanonical ≠ canonical)
    (.enrollmentRejected "endpoint is already enrolled by another worker" "endpoint_claimed")

/-- The distinct endpoints of the other live workers of a coldkey. -/
def heldEndpoints (s : State) (hotkey coldkey : Text) : List Text :=
  (((liveOthers s hotkey).filter fun row => row.coldkey = some coldkey).map
    EnrollmentRow.endpointCanonical).dedup

/-- The cap on the endpoints of a coldkey; off unless both are given. -/
def requireColdkeyCap (s : State) (hotkey canonical : Text) (cap : Option ℤ)
    (coldkey : Option Text) : Except Failure Unit :=
  require (∀ bound ∈ cap, ∀ key ∈ coldkey,
      canonical ∈ heldEndpoints s hotkey key ∨ ((heldEndpoints s hotkey key).length : ℤ) < bound)
    (.enrollmentRejected "coldkey has reached its enrolled endpoint cap" "coldkey_endpoint_cap")

/-- The cap on all live workers; off unless given. -/
def requireTotalCap (s : State) (hotkey : Text) (cap : Option ℤ) : Except Failure Unit :=
  require (∀ bound ∈ cap, ((liveOthers s hotkey).length : ℤ) < bound)
    (.enrollmentRejected "the subnet has reached its worker cap" "total_worker_cap")

/-- `_enforce_enrollment_caps`. -/
def enforceEnrollmentCaps (p : Platform) (a : EnrollArguments) (s : State) :
    Except Failure Unit := do
  checkIf a.refuseTerminal (refuseOutOfService s a.hotkey)
  let canonical ← canonicalEndpointKey p a.endpointUrl
  checkIf a.uniqueEndpoint (requireUnclaimed s a.hotkey canonical)
  requireColdkeyCap s a.hotkey canonical a.maxEndpointsPerColdkey a.coldkey
  requireTotalCap s a.hotkey a.maxTotalEnrollments

/-- Spend the nonce, if one is given. -/
def spendNonce (a : EnrollArguments) (ts : Instant) (s : State) : Except Failure State :=
  match a.nonce with
  | none => .ok s
  | some nonce => do
    storable ([a.hotkey, nonce] ++ a.requestDigest.toList)
    let nonces ← demand (.valueError "enroll nonce already used")
      (s.nonces.insert ⟨a.hotkey, nonce, ts, a.requestDigest⟩)
    return { s with nonces := nonces }

/-- The row `ON CONFLICT(hotkey) DO UPDATE` leaves. -/
def EnrollmentRow.refresh (row : EnrollmentRow) (a : EnrollArguments) (canonical : Text)
    (ts : Instant) : EnrollmentRow :=
  { row with
    endpointUrl := a.endpointUrl
    updatedAt := ts
    coldkey := a.coldkey <|> row.coldkey
    requestedProfileId := a.requestedProfileId <|> row.requestedProfileId
    endpointCanonical := canonical
    workerToken := row.workerToken <|> some a.token }

/-- The row of a new enrollment. -/
def EnrollmentRow.fresh (a : EnrollArguments) (canonical : Text) (ts : Instant) :
    EnrollmentRow where
  hotkey := a.hotkey
  endpointUrl := a.endpointUrl
  enrolledAt := ts
  updatedAt := ts
  coldkey := a.coldkey
  requestedProfileId := a.requestedProfileId
  endpointCanonical := canonical
  workerToken := some a.token

/-- Forget a worker's verdict. -/
def deleteAttestation (hotkey : Text) (s : State) : State :=
  { s with attestations := s.attestations.delete fun row => row.hotkey = hotkey }

/-- The rest of `enroll` for a hotkey that is not enrolled. -/
def enrollNew (a : EnrollArguments) (canonical : Text) (ts when : Instant) (s : State) :
    Except Failure State := do
  let enrollments ← demand .integrityError (s.enrollments.insert (.fresh a canonical ts))
  let s := { s with enrollments := enrollments }
  let s ← advanceLifecycleClock when s
  insertInitialLifecycle a.hotkey .pending .enrolled when {} s

/-- The rest of `enroll` for a hotkey that is enrolled. A changed endpoint clears
the verdict and starts a new generation. -/
def enrollAgain (p : Platform) (a : EnrollArguments) (prior : EnrollmentRow) (canonical : Text)
    (ts when : Instant) (s : State) : Except Failure State := do
  let s := { s with
    enrollments := s.enrollments.update (fun row => row.hotkey = a.hotkey)
      (fun row => row.refresh a canonical ts) }
  if prior.endpointUrl ≠ a.endpointUrl then
    let (_, s) ← reenrollLifecycle p a.hotkey .endpointChanged false when
      (deleteAttestation a.hotkey s)
    return s
  else return s

/-- The upsert of `enroll` with what it does to the lifecycle. -/
def enrollWorker (p : Platform) (a : EnrollArguments) (canonical : Text) (ts when : Instant)
    (s : State) : Except Failure State :=
  match s.enrollments.find? a.hotkey with
  | none => enrollNew a canonical ts when s
  | some prior => enrollAgain p a prior canonical ts when s

/-- `enroll`, at the time `ts` of its first clock reading and the lifecycle time
`when`. -/
def enroll (p : Platform) (a : EnrollArguments) (ts when : Instant) (s : State) :
    Except Failure (Unit × State) := do
  storable ([a.hotkey, a.endpointUrl, a.token] ++ a.coldkey.toList ++
    a.requestedProfileId.toList)
  enforceEnrollmentCaps p a s
  let s ← spendNonce a ts s
  let canonical ← canonicalEndpointKey p a.endpointUrl
  let s ← enrollWorker p a canonical ts when s
  return ((), s)

/-! ## Verdicts -/

/-- `_effective_status` of a verdict on record that says `VERIFIED`: whether it is
still one. -/
def effectivelyVerified (p : Platform) (ttl : ℕ) (lastVerified : StoredTime) (now : Instant) :
    Except Failure Bool :=
  match lastVerified.parse p with
  | .error (.valueError _) => .ok false
  | .error failure => .error failure
  | .ok verifiedAt => do
    let cutoff ← subtractSeconds now ttl
    return cutoff < verifiedAt

/-- The row claims the chip for another hotkey. -/
def AttestationRow.ClaimsChip (row : AttestationRow) (chipId hotkey : Text) : Prop :=
  row.chipId = some chipId ∧ row.hotkey ≠ hotkey ∧
    row.verificationStatus = Text.ofString "VERIFIED"

instance (row : AttestationRow) (chipId hotkey : Text) :
    Decidable (row.ClaimsChip chipId hotkey) :=
  inferInstanceAs (Decidable (_ ∧ _))

/-- The row with the latest verification time, the first of them. -/
def latestRow (rows : List AttestationRow) : Option AttestationRow :=
  rows.foldl (fun best row =>
    match best with
    | none => some row
    | some chosen => if row.lastVerified.le chosen.lastVerified then some chosen else some row) none

/-- `_chip_rotation_owner`, at the wall-clock time `now`. -/
def chipRotationOwner (p : Platform) (ttl : ℕ) (chipId hotkey : Text) (now : Instant)
    (s : State) : Except Failure (Option Text) :=
  match latestRow (s.attestations.select fun row => row.ClaimsChip chipId hotkey) with
  | none => .ok none
  | some existing => do
    let effective ← effectivelyVerified p ttl existing.lastVerified now
    return if effective then some existing.hotkey else none

/-- The attestation table with a row in the place of its hotkey. -/
def upserted (row : AttestationRow) (s : State) : Option (Table AttestationRow.hotkey) :=
  match s.attestations.find? row.hotkey with
  | none => s.attestations.insert row
  | some _ => some (s.attestations.update (fun other => other.hotkey = row.hotkey)
      fun other => { row with hotkey := other.hotkey })

/-- `INSERT INTO attestations … ON CONFLICT(hotkey) DO UPDATE`. -/
def upsertAttestation (row : AttestationRow) (s : State) : Except Failure State := do
  requireEnrolled s row.hotkey
  storable ([row.hotkey, row.verificationStatus] ++ row.chipId.toList ++ row.error.toList)
  let attestations ← demand .integrityError (upserted row s)
  return { s with attestations := attestations }

/-- The GPU profile a verdict is committed under. -/
structure GpuProfile where
  validFrom : Option Instant
  validUntil : Option Instant
  registryRelease : Option ℤ
  registryDigest : Option Text

namespace GpuProfile

/-- Whether any of the values is given. -/
def isGiven (profile : GpuProfile) : Bool :=
  profile.validFrom.isSome || profile.validUntil.isSome || profile.registryRelease.isSome ||
    profile.registryDigest.isSome

/-- Whether all of the values are given. -/
def isComplete (profile : GpuProfile) : Bool :=
  profile.validFrom.isSome && profile.validUntil.isSome && profile.registryRelease.isSome &&
    profile.registryDigest.isSome

/-- The checks on the values of a complete profile. -/
def isValid (profile : GpuProfile) : Bool :=
  match profile.validFrom, profile.validUntil, profile.registryRelease, profile.registryDigest with
  | some validFrom, some validUntil, some release, some digest =>
    validFrom < validUntil && 0 < release && Text.isDigest "sha256:" digest
  | _, _, _, _ => false

/-- Whether the time is in the profile's window. -/
def activeAt (profile : GpuProfile) (when : Instant) : Bool :=
  profile.validFrom.all (· ≤ when) && profile.validUntil.all (when < ·)

end GpuProfile

/-- The arguments of `record_verdict`. -/
structure VerdictArguments where
  hotkey : Text
  attested : Option Attested
  error : Option Text
  expectedGeneration : Option ℤ
  expectedRevision : Option ℤ
  policyRegistryRelease : Option ℤ
  policyRegistryDigest : Option Text
  gpuProfile : GpuProfile

/-- The clock readings of `record_verdict`: when it starts, inside the
transaction, and in the chip gate. -/
structure VerdictClock where
  ts : Instant
  when : Instant
  gate : Instant

/-- What a verdict writes into its row. -/
structure VerdictRecord where
  status : Text
  chipId : Option Text
  tier : Option Text
  error : Option Text

/-- A verdict that does not count. -/
def VerdictRecord.refused (error : Text) : VerdictRecord :=
  ⟨Text.ofString "FAILED", none, none, some error⟩

/-- The verdict as presented; a verdict without typed claims does not count. -/
def presentedRecord (a : VerdictArguments) : VerdictRecord :=
  match a.attested with
  | none => ⟨Text.ofString "FAILED", none, none, a.error⟩
  | some attested =>
    if attested.verificationStatus = Text.ofString "VERIFIED" ∧
        ¬ attestationAdmissionPolicy.allows attested.assurance then
      .refused "typed hardware and software assurance claims are required"
    else ⟨attested.verificationStatus, some attested.chipId, some attested.tier.value, a.error⟩

/-- The verdict behind the chip gate: a chip stays with one hotkey. -/
def gatedRecord (p : Platform) (ttl : ℕ) (hotkey : Text) (record : VerdictRecord) (now : Instant)
    (s : State) : Except Failure VerdictRecord :=
  match record.chipId with
  | none => .ok record
  | some chipId =>
    if record.status = Text.ofString "VERIFIED" then do
      let conflict ← chipRotationOwner p ttl chipId hotkey now s
      return match conflict with
        | none => record
        | some owner => .refused ("chip_id already bound to hotkey " ++ owner)
    else .ok record

/-- The stored form of the claims of a verdict. -/
def assuranceJson (p : Platform) (attested : Option Attested) : Option Text :=
  (attested.bind Attested.assurance).map fun claims =>
    claims.toDict.sortKeys.render (compactStyle p)

/-- The GPU profile is active, and the registry reference is its own. -/
def requireActiveProfile (a : VerdictArguments) (record : VerdictRecord) (when : Instant) :
    Except Failure Unit :=
  require (a.gpuProfile.isGiven → record.status = Text.ofString "VERIFIED" ∧
      a.gpuProfile.activeAt when ∧ a.policyRegistryRelease = a.gpuProfile.registryRelease ∧
      a.policyRegistryDigest = a.gpuProfile.registryDigest)
    (.lifecycleError "GPU profile is not active at lifecycle commit time")

/-- The lifecycle half of a verdict. -/
def applyVerdict (p : Platform) (ttl : ℕ) (a : VerdictArguments) (record : VerdictRecord)
    (current : SnapshotFields) (when : Instant) (s : State) : Except Failure State :=
  let expectedGeneration := a.expectedGeneration <|> some (current.generation : ℤ)
  let expectedRevision := a.expectedRevision <|> some (current.revision : ℤ)
  match a.attested with
  | some attested =>
    if record.status = Text.ofString "VERIFIED" then
      (recordAttestedLifecycle p ttl a.hotkey attested a.policyRegistryRelease
        a.policyRegistryDigest expectedGeneration expectedRevision when s).map Prod.snd
    else failVerdict expectedGeneration expectedRevision
  | none => failVerdict expectedGeneration expectedRevision
where
  /-- The failure of a worker that is in service. -/
  failVerdict (expectedGeneration expectedRevision : Option ℤ) : Except Failure State :=
    if SnapshotFields.OperatorOnly current then .ok s
    else (transitionLifecycleInConnection p a.hotkey .failed .verificationFailed when
      { operatorDetail := record.error
        expectedGeneration := expectedGeneration
        expectedRevision := expectedRevision } s).map Prod.snd

/-- `record_verdict`. -/
def recordVerdict (p : Platform) (ttl : ℕ) (a : VerdictArguments) (clock : VerdictClock)
    (s : State) : Except Failure (Unit × State) := do
  require (a.gpuProfile.isGiven → a.gpuProfile.isComplete)
    (.lifecycleError "GPU profile commit authority is incomplete")
  require (a.gpuProfile.isGiven → a.gpuProfile.isValid)
    (.lifecycleError "GPU profile commit authority is invalid")
  let presented := presentedRecord a
  requireActiveProfile a presented clock.when
  let record ← gatedRecord p ttl a.hotkey presented clock.gate s
  let s ← upsertAttestation
    ⟨a.hotkey, record.chipId, record.tier, record.status, .time clock.ts.floorSecond,
      record.error, assuranceJson p a.attested⟩ s
  let current ← currentSnapshot p s a.hotkey
  let s ← applyVerdict p ttl a record current.fields clock.when s
  return ((), s)

/-! ## Failed probes -/

/-- The arguments of `record_probe_failure`. -/
structure ProbeArguments where
  hotkey : Text
  error : Option Text
  expectedGeneration : Option ℤ
  expectedRevision : Option ℤ
  maximumAttempts : ℤ
  retry : RetryPolicy

/-- `record_probe_failure`, at the lifecycle time `when` and the wall-clock time
`ts`. The verdict on record is replaced before the retry is recorded. -/
def recordProbeFailure (p : Platform) (a : ProbeArguments) (when ts : Instant) (s : State) :
    Except Failure (LifecycleSnapshot × State) := do
  require (1 ≤ a.maximumAttempts ∧ a.maximumAttempts ≤ 32 ∧ a.retry.Bounded)
    (.lifecycleError "worker lifecycle retry policy is invalid")
  let current ← currentSnapshot p s a.hotkey
  let attempt := min ((current.fields.retryCount : ℤ) + 1) a.maximumAttempts
  let s ← upsertAttestation
    ⟨a.hotkey, none, none, Text.ofString "FAILED", .time ts.floorSecond, a.error, none⟩ s
  recordRefreshFailure p a.hotkey attempt a.maximumAttempts a.retry a.error
    (a.expectedGeneration <|> some (current.fields.generation : ℤ))
    (a.expectedRevision <|> some (current.fields.revision : ℤ)) when s

/-! ## Removal -/

/-- The second transaction of `remove_enrollment`. -/
def clearVerdict (hotkey : Text) (s : State) : Except Failure (Unit × State) := do
  storable [hotkey]
  return ((), deleteAttestation hotkey s)

/-! ## Backfill -/

/-- The first state of a worker of an older release. -/
structure BackfillStart where
  state : WorkerLifecycleState
  reason : LifecycleReason
  evidence : InitialEvidence

/-- The first state that a verdict on record gives. -/
def backfillStart (p : Platform) (ttl : ℕ) : Option AttestationRow → Except Failure BackfillStart
  | none => .ok ⟨.pending, .backfillPending, {}⟩
  | some row =>
    if row.verificationStatus = Text.ofString "VERIFIED" then
      match row.lastVerified.parse p with
      | .error (.valueError _) => .ok ⟨.stale, .backfillStale, {}⟩
      | .error failure => .error failure
      | .ok evidenceAt => do
        let expiresAt ← addSeconds evidenceAt ttl
        let assurance := storedAssurance p row.assuranceJson
        let evidence : InitialEvidence :=
          { verifiedAt := some evidenceAt
            expiresAt := some expiresAt
            evidenceDigest := assurance.hardware.evidenceDigest
            policyDigest := assurance.software.policyDigest }
        return if attestationAdmissionPolicy.allows (some assurance)
          then ⟨.stale, .backfillStale, evidence⟩
          else ⟨.failed, .verificationFailed, evidence⟩
    else .ok ⟨.failed, .verificationFailed, {}⟩

/-- Give one worker its first lifecycle event. -/
def backfillWorker (p : Platform) (ttl : ℕ) (when : Instant) (hotkey : Text) (s : State) :
    Except Failure (Unit × State) := do
  let start ← backfillStart p ttl (s.attestations.find? hotkey)
  let s ← insertInitialLifecycle hotkey start.state start.reason when start.evidence s
  return ((), s)

/-- The enrolled hotkeys without a lifecycle row, in order. -/
def hotkeysToBackfill (s : State) : List Text :=
  ((s.enrollments.select fun row => (s.current.find? row.hotkey).isNone).map
    EnrollmentRow.hotkey).insertionSort fun a b => a ≤ b

/-- `_backfill_lifecycle`, which every opening of the store runs. -/
def backfillLifecycle (p : Platform) (ttl : ℕ) (when : Instant) (s : State) :
    Except Failure (Unit × State) := do
  let s ← advanceLifecycleClock when s
  let (_, s) ← eachInTurn (backfillWorker p ttl when) (hotkeysToBackfill s) s
  return ((), s)

end Cathedral.Registry
