import CathedralCompute.Ledger.Epochs
import CathedralCompute.Receipt

/-!
# Challenges, receipts and attestations

The operations that record one worker's evidence in a running epoch. A challenge
is issued once and resolved once, alone or together with the signed receipt that
carries its work units and with the customer job whose lease names it.
-/

set_option autoImplicit false

namespace Cathedral.Ledger

open Codec Semantics

/-! ## Issuing and resolving -/

/-- `issue_challenge`. -/
def issueChallenge (p : Platform) (challengeId hotkey : Text) (epochId : ℕ) (now : Instant)
    (s : State) : Except Failure (Unit × State) := do
  require (challengeId ≠ [] ∧ hotkey ≠ []) (.ledgerError "challenge_id and hotkey are required")
  requireRunning s epochId "issue challenges"
  storable [challengeId, hotkey]
  let challenges ← demand (.ledgerError ("duplicate challenge_id " ++ p.repr challengeId))
    (s.challenges.insert (.issue challengeId epochId hotkey now))
  return ((), { s with challenges := challenges })

/-- The status a resolution may give a challenge. -/
def resolvedStatus? (status : Text) : Option ChallengeStatus :=
  if status = Text.ofString "verified" then some .verified
  else if status = Text.ofString "failed" then some .failed
  else if status = Text.ofString "abandoned" then some .abandoned
  else none

/-- A nonnegative finite value. -/
def nonnegative? : Option Floating → Option ℚ≥0
  | some (.finite q) => if 0 ≤ q then some q.toNNRat else none
  | _ => none

/-- `_validated_resolution_units`: the status and the units a challenge is
resolved with. `workUnits` is what `float` makes of the argument. -/
def validatedResolutionUnits (p : Platform) (status : Text) (workUnits : Option Floating)
    (validatorDerived : Bool) : Except Failure (ChallengeStatus × ℚ≥0) := do
  let resolved ← demand (.ledgerError ("invalid resolve status " ++ p.repr status))
    (resolvedStatus? status)
  let units ← demand (.ledgerError "work_units must be finite and nonnegative")
    (nonnegative? workUnits)
  require (resolved = .verified → validatorDerived)
    (.ledgerError "verified work_units must be validator-derived")
  return (resolved, if resolved = .verified then units else 0)

/-- A challenge with its outcome. -/
def ChallengeRow.resolve (row : ChallengeRow) (status : ChallengeStatus) (units : ℚ≥0)
    (now : Instant) : ChallengeRow :=
  { row with status := status, workUnits := units, resolvedAt := some now }

/-- `_resolve_challenge_in_transaction`: the challenge as it was, and the new
state. -/
def resolveChallengeInTransaction (p : Platform) (challengeId : Text) (status : ChallengeStatus)
    (units : ℚ≥0) (now : Instant) (s : State) : Except Failure (ChallengeRow × State) := do
  storable [challengeId]
  let row ← demand (.ledgerError ("challenge " ++ p.repr challengeId ++ " not found"))
    (s.challenges.find? challengeId)
  let owner ← demand (.ledgerError ("challenge " ++ p.repr challengeId ++ " not found"))
    (s.epochs.find? row.epochId)
  require (owner.status = .running)
    (.ledgerError "challenge can only be resolved while its epoch is running")
  require (row.status = .issued)
    (.ledgerError ("challenge " ++ p.repr challengeId ++ " is already " ++ row.status.value))
  return (row, { s with
    challenges := s.challenges.update (fun row => row.challengeId = challengeId)
      fun row => row.resolve status units now })

/-- The three clock readings of a resolution: for the lease check, the challenge
and the job. -/
structure ResolutionClock where
  lease : Instant
  challenge : Instant
  job : Instant

/-- The lease, if there is one, belongs to the challenge. -/
def requireLeaseMatches (challengeId : Text) (resolution : Option Resolution) :
    Except Failure Unit :=
  require (∀ r ∈ resolution, r.lease.challengeId = challengeId)
    (.ledgerError "customer lease does not match the resolved challenge")

/-- The lease check at the start of a resolving transaction. -/
def requireLease (p : Platform) (s : State) (now : Instant) :
    Option Resolution → Except Failure Unit
  | none => .ok ()
  | some resolution => requireCurrentCustomerLease p s resolution.lease now

/-- The job update at the end of a resolving transaction. -/
def resolveJob (s : State) (now : Instant) : Option Resolution → Except Failure State
  | none => .ok s
  | some resolution => resolveCustomerJobInTransaction s resolution now

/-- `resolve_challenge`. -/
def resolveChallenge (p : Platform) (challengeId status : Text) (workUnits : Option Floating)
    (validatorDerived : Bool) (customer : CustomerArguments) (clock : ResolutionClock)
    (s : State) : Except Failure (Unit × State) := do
  let (resolved, units) ← validatedResolutionUnits p status workUnits validatorDerived
  let resolution ← validateCustomerResolution p resolved customer
  requireLeaseMatches challengeId resolution
  requireLease p s clock.lease resolution
  let (_, s) ← resolveChallengeInTransaction p challengeId resolved units clock.challenge s
  let s ← resolveJob s clock.job resolution
  return ((), s)

/-! ## Receipts -/

/-- The lifecycle facts a receipt and a snapshot must agree on. -/
structure LifecycleValues where
  state : WorkerLifecycleState
  generation : ℕ
  revision : ℕ
  eventId : ℕ
  reason : LifecycleReason
  evidenceExpiresAt : Option Text
  evidenceDigest : Option Text
  policyDigest : Option Text
deriving DecidableEq

def LifecycleRow.values (row : LifecycleRow) : LifecycleValues :=
  ⟨row.state, row.generation, row.revision, row.eventId, row.reason, row.evidenceExpiresAt,
    row.evidenceDigest, row.policyDigest⟩

/-- `_snapshot_lifecycle_values`. -/
def snapshotLifecycleValues (snapshot : LifecycleSnapshot) : LifecycleValues :=
  let s := snapshot.fields
  ⟨s.state, s.generation, s.revision, s.eventId, s.reason,
    s.evidenceExpiresAt.map Instant.canonicalUtc, s.evidenceDigest, s.policyDigest⟩

/-- The member of a member that must be an object. -/
def objectMember (key : Text) (document : Json) : Option Json :=
  match document.get? key with
  | some (.obj members) => some (.obj members)
  | _ => none

/-- Whether `_receipt_lifecycle_values` of the receipt equals the expected
values. -/
def receiptLifecycleMatches (receipt : Json) (expected : LifecycleValues) :
    Except Failure Bool := do
  let invalid : Failure := .ledgerError "receipt lifecycle snapshot is invalid"
  let lifecycle ← demand invalid (objectMember "lifecycle" receipt)
  let assurance ← demand invalid (objectMember "assurance" receipt)
  let claims ← demand invalid (objectMember "claims" assurance)
  let hardware ← demand invalid (objectMember "hardware" claims)
  let software ← demand invalid (objectMember "software" claims)
  return Json.equalsText expected.state.value (lifecycle.get? "worker_state") &&
    Json.equalsInt expected.generation (lifecycle.get? "worker_generation") &&
    Json.equalsInt expected.revision (lifecycle.get? "worker_revision") &&
    Json.equalsInt expected.eventId (lifecycle.get? "worker_event_id") &&
    Json.equalsText expected.reason.value (lifecycle.get? "worker_reason") &&
    Json.equalsOptionalText expected.evidenceExpiresAt
      (lifecycle.get? "worker_evidence_expires_at") &&
    Json.equalsOptionalText expected.evidenceDigest (hardware.get? "evidence_digest") &&
    Json.equalsOptionalText expected.policyDigest (software.get? "policy_digest")

/-- `float(value)` of a JSON value. -/
def floatOfJson (p : Platform) : Option Json → Option Floating
  | some (.str t) => p.floats.parse t
  | some (.int z) => some (.finite z)
  | some (.bool b) => some (.finite (if b then 1 else 0))
  | some (.float x) => some x
  | _ => none

/-- The receipt arguments of a resolution. -/
structure ReceiptArguments where
  receiptId : Text
  receiptBody : Bytes
  receiptDigest : Text
  issuedAt : Text

/-- The claim statuses a receipt may show for a resolution. -/
def allowedClaimStatuses (status : ChallengeStatus) : List Text :=
  if status = .verified then ["passed"] else ["passed", "failed", "stale", "revoked"]

/-- The checks of `resolve_challenge_with_receipt` on the receipt itself: the
parsed receipt. -/
def validateReceipt (p : Platform) (challengeId : Text) (status : ChallengeStatus) (units : ℚ≥0)
    (arguments : ReceiptArguments) : Except Failure Json := do
  require (Text.isDigest "receipt-sha256:" arguments.receiptId)
    (.ledgerError "receipt_id is invalid")
  require (arguments.receiptBody ≠ []) (.ledgerError "receipt_body must be nonempty bytes")
  require (Text.isDigest "sha256:" arguments.receiptDigest)
    (.ledgerError "receipt_digest is invalid")
  require (sha256Digest arguments.receiptBody = arguments.receiptDigest)
    (.ledgerError "receipt digest does not match receipt bytes")
  require (arguments.issuedAt ≠ []) (.ledgerError "receipt issued_at is required")
  let receipt ← demand (.ledgerError "receipt body is invalid")
    (parseReceiptJson arguments.receiptBody)
  let mismatch : Failure := .ledgerError "receipt body does not match its work resolution"
  require (canonicalJson p receipt = some arguments.receiptBody) mismatch
  require (Json.equalsText arguments.receiptId (receipt.get? "receipt_id")) mismatch
  require (Json.equalsText arguments.issuedAt (receipt.get? "issued_at")) mismatch
  let work ← demand mismatch (objectMember "work" receipt)
  require (Json.equalsText challengeId (work.get? "challenge_id")) mismatch
  require (∃ claim ∈ allowedClaimStatuses status, Json.equalsText claim (work.get? "status"))
    mismatch
  let parsedUnits ← demand (.ledgerError "receipt work units are invalid")
    (floatOfJson p (work.get? "work_units"))
  require (parsedUnits = .finite units)
    (.ledgerError "receipt work units do not match their resolution")
  return receipt

/-- The receipt row, unless a unique constraint forbids it. -/
def insertReceipt (s : State) (row : ReceiptRow) : Option State :=
  if ∃ other ∈ s.receipts.rows, other.challengeId = row.challengeId ∨
      (other.epochId = row.epochId ∧ other.hotkey = row.hotkey) then none
  else (s.receipts.insert row).map fun receipts => { s with receipts := receipts }

/-- The checks of a receipt against the resolved challenge. -/
def requireReceiptSubject (s : State) (receipt : Json) (row : ChallengeRow) :
    Except Failure Unit := do
  require (Json.equalsInt row.epochId (receipt.get? "epoch_id") ∧
      Json.equalsText row.hotkey (receipt.get? "subject_hotkey"))
    (.ledgerError "receipt subject does not match its issued challenge")
  match s.lifecycle.find? (row.epochId, row.hotkey) with
  | none => return ()
  | some lifecycle =>
    let same ← receiptLifecycleMatches receipt lifecycle.values
    require same
      (.ledgerError "receipt does not match the epoch worker lifecycle snapshot")

/-- `resolve_challenge_with_receipt`. -/
def resolveChallengeWithReceipt (p : Platform) (challengeId status : Text)
    (workUnits : Option Floating) (validatorDerived : Bool) (receiptArguments : ReceiptArguments)
    (customer : CustomerArguments) (clock : ResolutionClock) (s : State) :
    Except Failure (Unit × State) := do
  let (resolved, units) ← validatedResolutionUnits p status workUnits validatorDerived
  let receipt ← validateReceipt p challengeId resolved units receiptArguments
  let resolution ← validateCustomerResolution p resolved customer
  requireLeaseMatches challengeId resolution
  requireLease p s clock.lease resolution
  let (row, s) ← resolveChallengeInTransaction p challengeId resolved units clock.challenge s
  requireReceiptSubject s receipt row
  let s ← demand (.ledgerError "failed to persist receipt atomically")
    (insertReceipt s
      { receiptId := receiptArguments.receiptId, epochId := row.epochId, hotkey := row.hotkey,
        challengeId := challengeId, workStatus := resolved,
        receiptBody := receiptArguments.receiptBody,
        receiptDigest := receiptArguments.receiptDigest,
        issuedAt := receiptArguments.issuedAt })
  let s ← resolveJob s clock.job resolution
  return ((), s)

/-! ## Attestations and lifecycle snapshots -/

/-- The hardware shapes an attestation may have. -/
def hardwareShape? (verdict teeType workload : Text) : Option (TeeType × Workload) :=
  if verdict = Text.ofString "VERIFIED" ∧ teeType = Text.ofString "TDX" ∧
      workload = Text.ofString "CPU" then some (.tdx, .cpu)
  else if verdict = Text.ofString "VERIFIED" ∧ teeType = Text.ofString "TDX+GPU_CC" ∧
      workload = Text.ofString "GPU" then some (.tdxGpuCc, .gpu)
  else none

/-- A text with a fixed head, and a condition on what follows. -/
def hasHead (head : Text) (rest : Text → Bool) (t : Text) : Bool :=
  head.isPrefixOf t && rest (t.drop head.length)

/-- `[A-Za-z0-9][A-Za-z0-9._-]{0,127}`. -/
def isProfileName : Text → Bool
  | [] => false
  | c :: rest =>
    Text.isAlphanumeric c && rest.length ≤ 127 &&
      rest.all fun d => Text.isAlphanumeric d || d = 0x2e || d = 0x5f || d = 0x2d

/-- `[1-9][0-9]{0,18}`. -/
def isReleaseNumber (t : Text) : Bool :=
  1 ≤ t.length && t.length ≤ 19 && t.all Text.isDigit && t.head? ≠ some 0x30

/-- `_GPU_POLICY_MODE_RE`: four parts between `@` signs. -/
def isGpuPolicyMode (t : Text) : Bool :=
  match t.splitOn 0x40 with
  | [name, profile, release, registry] =>
    hasHead "gpu-profile:" isProfileName name &&
      hasHead "profile=" (Text.isDigest "sha256:") profile &&
      ((release = Text.ofString "release=none" && registry = Text.ofString "registry=none") ||
        (hasHead "release=" isReleaseNumber release &&
          hasHead "registry=" (Text.isDigest "sha256:") registry))
  | _ => false

/-- The arguments of `add_attestation` besides the epoch and the hotkey. -/
structure AttestationArguments where
  verdict : Text
  teeType : Text
  workload : Text
  evidenceDigest : Text
  policyMode : Text
  scoreEligible : Option Bool
  envelopeDigest : Option Text
  envelopeRequired : Bool
  challengeDigest : Option Text

/-- The attestation row that validated arguments describe. -/
def attestationRow (epochId : ℕ) (hotkey : Text) (arguments : AttestationArguments)
    (now : Instant) : Except Failure AttestationRow := do
  require (∀ digest ∈ arguments.envelopeDigest, Text.isDigest "sha256:" digest)
    (.ledgerError "attestation envelope digest is invalid")
  require (arguments.envelopeRequired → arguments.envelopeDigest ≠ none)
    (.ledgerError "production scoring attestation requires a retained envelope digest")
  require (∀ digest ∈ arguments.challengeDigest, Text.isDigest "sha256:" digest)
    (.ledgerError "attestation challenge digest is invalid")
  let shape ← demand (.ledgerError "attestation hardware shape is invalid")
    (hardwareShape? arguments.verdict arguments.teeType arguments.workload)
  require (hotkey ≠ [] ∧ arguments.evidenceDigest ≠ [])
    (.ledgerError "hotkey and evidence_digest are required")
  require (if shape = (.tdx, .cpu)
      then arguments.policyMode ∈ [Text.ofString "strict", Text.ofString "compatibility"]
      else isGpuPolicyMode arguments.policyMode)
    (.ledgerError "attestation policy_mode does not match its hardware shape")
  return {
    epochId := epochId, hotkey := hotkey, teeType := shape.1, workload := shape.2,
    evidenceDigest := arguments.evidenceDigest, policyMode := arguments.policyMode,
    scoreEligible := arguments.scoreEligible.getD (shape = (.tdx, .cpu)), attestedAt := now,
    envelopeDigest := arguments.envelopeDigest, challengeDigest := arguments.challengeDigest }

/-- Two attestations of the same evidence. -/
def AttestationRow.SameEvidence (a b : AttestationRow) : Prop :=
  a.evidenceDigest = b.evidenceDigest ∧ a.policyMode = b.policyMode ∧ a.teeType = b.teeType ∧
    a.workload = b.workload ∧ a.envelopeDigest = b.envelopeDigest ∧
    a.challengeDigest = b.challengeDigest ∧ a.scoreEligible = b.scoreEligible

instance (a b : AttestationRow) : Decidable (a.SameEvidence b) :=
  inferInstanceAs (Decidable (_ ∧ _))

/-- `add_attestation`. -/
def addAttestation (epochId : ℕ) (hotkey : Text) (arguments : AttestationArguments)
    (now : Instant) (s : State) : Except Failure (Unit × State) := do
  let row ← attestationRow epochId hotkey arguments now
  requireRunning s epochId "add attestations"
  storable [hotkey, arguments.evidenceDigest, arguments.policyMode]
  match s.attestations.find? (epochId, hotkey) with
  | some existing =>
    require (arguments.envelopeRequired → existing.envelopeDigest ≠ none)
      (.ledgerError "production scoring attestation requires a retained envelope digest")
    require (existing.SameEvidence row)
      (.ledgerError "attestation evidence is immutable within an epoch")
    return ((), s)
  | none =>
    let attestations ← demand .integrityError (s.attestations.insert row)
    return ((), { s with attestations := attestations })

/-- `_validated_generated_at`. -/
def validatedGeneratedAt (p : Platform) (value : Option Text) (now : Instant) :
    Except Failure Text :=
  match value with
  | none => .ok now.isoformat
  | some text => do
    require (p.isAwareTimestamp text)
      (.ledgerError "generated_at must be a timezone-aware ISO-8601 string")
    return text

/-- The stored receipt of a worker agrees with a lifecycle snapshot. -/
def requireReceiptLifecycle (s : State) (epochId : ℕ) (hotkey : Text)
    (expected : LifecycleValues) : Except Failure Unit :=
  match (s.receipts.select fun row => row.epochId = epochId ∧ row.hotkey = hotkey).head? with
  | none => .ok ()
  | some row => do
    let receipt ← demand (.ledgerError "stored receipt body is invalid")
      (parseReceiptJson row.receiptBody)
    let same ← receiptLifecycleMatches receipt expected
    require same
      (.ledgerError "receipt does not match the epoch worker lifecycle snapshot")

/-- `add_lifecycle_snapshot`. The checks on the snapshot's own fields are those
of its constructor. -/
def addLifecycleSnapshot (p : Platform) (epochId : ℕ) (snapshot : LifecycleSnapshot)
    (snapshotAt : Option Text) (now : Instant) (s : State) : Except Failure (Unit × State) := do
  let capturedAt ← validatedGeneratedAt p snapshotAt now
  let values := snapshotLifecycleValues snapshot
  requireRunning s epochId "add worker lifecycle snapshots"
  storable ([snapshot.fields.hotkey, capturedAt] ++ values.evidenceDigest.toList ++
    values.policyDigest.toList)
  match s.lifecycle.find? (epochId, snapshot.fields.hotkey) with
  | some existing =>
    require (existing.values = values)
      (.ledgerError "worker lifecycle snapshot is immutable within an epoch")
    return ((), s)
  | none =>
    requireReceiptLifecycle s epochId snapshot.fields.hotkey values
    let lifecycle ← demand .integrityError (s.lifecycle.insert
      { epochId := epochId, hotkey := snapshot.fields.hotkey, state := values.state,
        generation := values.generation, revision := values.revision, eventId := values.eventId,
        reason := values.reason, evidenceExpiresAt := values.evidenceExpiresAt,
        evidenceDigest := values.evidenceDigest, policyDigest := values.policyDigest,
        snapshotAt := capturedAt })
    return ((), { s with lifecycle := lifecycle })

/-! ## Work records -/

/-- `record_work_artifacts`. -/
def recordWorkArtifacts (p : Platform) (challengeId : Text) (workItemBody resultBody : Bytes)
    (now : Instant) (s : State) : Except Failure (Unit × State) := do
  require (challengeId ≠ []) (.ledgerError "work artifacts are invalid")
  storable [challengeId]
  match s.artifacts.find? challengeId with
  | some row =>
    require (row.workItemBody = workItemBody ∧ row.resultBody = resultBody)
      (.ledgerError ("work artifacts for " ++ p.repr challengeId ++ " are immutable"))
    return ((), s)
  | none =>
    let artifacts ← demand .integrityError
      (s.artifacts.insert ⟨challengeId, workItemBody, resultBody, now⟩)
    return ((), { s with artifacts := artifacts })

/-- `record_work_timing`. -/
def recordWorkTiming (p : Platform) (challengeId : Text)
    (dispatchMonotonicNs verifiedMonotonicNs : ℤ) (jobClass : JobClass) (producerBootId : Text)
    (now : Instant) (s : State) : Except Failure (Unit × State) := do
  require (challengeId ≠ [] ∧ 0 ≤ dispatchMonotonicNs ∧
      dispatchMonotonicNs ≤ verifiedMonotonicNs ∧ producerBootId ≠ [])
    (.ledgerError "work timing is invalid")
  storable [challengeId, producerBootId]
  match s.timing.find? challengeId with
  | some row =>
    require (row.dispatchMonotonicNs = dispatchMonotonicNs ∧
        row.verifiedMonotonicNs = verifiedMonotonicNs ∧ row.jobClass = jobClass ∧
        row.producerBootId = producerBootId)
      (.ledgerError ("work timing for " ++ p.repr challengeId ++ " is immutable"))
    return ((), s)
  | none =>
    storableIntegers [dispatchMonotonicNs, verifiedMonotonicNs]
    -- The foreign key to `challenges`.
    require (∃ row ∈ s.challenges.rows, row.challengeId = challengeId) .integrityError
    let timing ← demand .integrityError (s.timing.insert
      ⟨challengeId, dispatchMonotonicNs, verifiedMonotonicNs, jobClass, producerBootId, now⟩)
    return ((), { s with timing := timing })

end Cathedral.Ledger
