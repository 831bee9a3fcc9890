import CathedralCompute.Provider.Records

/-!
# What happens to an attempt

The states of an attempt and the transitions between them, and the records of what
happened: transitions, interruptions, results and cleanups.

## Main definitions

* `AttemptState.allowed` — the transitions
* `AttemptTransitionEvent` — one allowed transition at a time
* `validateTerminalTransition` — a terminal transition rests on its cleanup
-/

set_option autoImplicit false

namespace Cathedral.Provider

open Codec Semantics

/-! ## States -/

inductive AttemptState where
  | dispatchPending
  | slotClaimed
  | assignmentSent
  | acknowledged
  | attesting
  | running
  | resultReceived
  | evidenceVerified
  | evidenceRejected
  | successCleanupPending
  | failureCleanupPending
  | cancelCleanupPending
  | interruptCleanupPending
  | succeeded
  | failed
  | cancelled
  | interrupted
  deriving DecidableEq

instance : Enumerated AttemptState where
  all := [.dispatchPending, .slotClaimed, .assignmentSent, .acknowledged, .attesting, .running,
    .resultReceived, .evidenceVerified, .evidenceRejected, .successCleanupPending,
    .failureCleanupPending, .cancelCleanupPending, .interruptCleanupPending, .succeeded, .failed,
    .cancelled, .interrupted]
  value
    | .dispatchPending => "DISPATCH_PENDING"
    | .slotClaimed => "SLOT_CLAIMED"
    | .assignmentSent => "ASSIGNMENT_SENT"
    | .acknowledged => "ACKNOWLEDGED"
    | .attesting => "ATTESTING"
    | .running => "RUNNING"
    | .resultReceived => "RESULT_RECEIVED"
    | .evidenceVerified => "EVIDENCE_VERIFIED"
    | .evidenceRejected => "EVIDENCE_REJECTED"
    | .successCleanupPending => "SUCCESS_CLEANUP_PENDING"
    | .failureCleanupPending => "FAILURE_CLEANUP_PENDING"
    | .cancelCleanupPending => "CANCEL_CLEANUP_PENDING"
    | .interruptCleanupPending => "INTERRUPT_CLEANUP_PENDING"
    | .succeeded => "SUCCEEDED"
    | .failed => "FAILED"
    | .cancelled => "CANCELLED"
    | .interrupted => "INTERRUPTED"
  complete a := by cases a <;> decide
  injective := by decide

namespace AttemptState

/-- Where an attempt may go without being aborted. -/
def onward : AttemptState → List AttemptState
  | dispatchPending => [slotClaimed]
  | slotClaimed => [assignmentSent]
  | assignmentSent => [acknowledged]
  | acknowledged => [attesting]
  | attesting => [running]
  | running => [resultReceived]
  | resultReceived => [evidenceVerified, evidenceRejected]
  | evidenceVerified => [successCleanupPending]
  | evidenceRejected => [failureCleanupPending]
  | successCleanupPending => [succeeded]
  | failureCleanupPending => [failed]
  | cancelCleanupPending => [cancelled]
  | interruptCleanupPending => [interrupted]
  | succeeded => []
  | failed => []
  | cancelled => []
  | interrupted => []

def abortableBeforeResult : List AttemptState :=
  [dispatchPending, slotClaimed, assignmentSent, acknowledged, attesting, running, resultReceived,
    evidenceVerified, evidenceRejected, successCleanupPending]

/-- `ALLOWED_ATTEMPT_TRANSITIONS`. -/
def allowed (current : AttemptState) : List AttemptState :=
  onward current ++
    if current ∈ abortableBeforeResult
    then [failureCleanupPending, cancelCleanupPending, interruptCleanupPending] else []

def terminal : List AttemptState := [succeeded, failed, cancelled, interrupted]

def cleanupPending : List AttemptState :=
  [successCleanupPending, failureCleanupPending, cancelCleanupPending, interruptCleanupPending]

end AttemptState

/-- A transition that is allowed. -/
def requireAttemptTransition (current target : AttemptState) : Checked Unit :=
  require (target ∈ current.allowed)
    (invalid (Text.ofString "illegal attempt transition " ++ Enumerated.value current ++
      Text.ofString " -> " ++ Enumerated.value target))

inductive CleanupPath where
  | success
  | failure
  | cancel
  | interrupt
  deriving DecidableEq

instance : Enumerated CleanupPath where
  all := [.success, .failure, .cancel, .interrupt]
  value
    | .success => "success"
    | .failure => "failure"
    | .cancel => "cancel"
    | .interrupt => "interrupt"
  complete a := by cases a <;> decide
  injective := by decide

/-- The cleanup path of a terminal state. -/
def AttemptState.cleanupPath : AttemptState → Option CleanupPath
  | succeeded => some .success
  | failed => some .failure
  | cancelled => some .cancel
  | interrupted => some .interrupt
  | _ => none

inductive ProviderAbsenceStatus where
  | provenAbsent
  | present
  | notProven
  deriving DecidableEq

instance : Enumerated ProviderAbsenceStatus where
  all := [.provenAbsent, .present, .notProven]
  value
    | .provenAbsent => "PROVEN_ABSENT"
    | .present => "PRESENT"
    | .notProven => "NOT_PROVEN"
  complete a := by cases a <;> decide
  injective := by decide

inductive TerminalBasis where
  | providerAbsence
  | customerCleanupDeadline
  deriving DecidableEq

instance : Enumerated TerminalBasis where
  all := [.providerAbsence, .customerCleanupDeadline]
  value
    | .providerAbsence => "provider_absence"
    | .customerCleanupDeadline => "customer_cleanup_deadline"
  complete a := by cases a <;> decide
  injective := by decide

inductive InterruptionKind where
  | preemptionNotice
  | heartbeatTimeout
  | providerReported
  | operatorRequested
  deriving DecidableEq

instance : Enumerated InterruptionKind where
  all := [.preemptionNotice, .heartbeatTimeout, .providerReported, .operatorRequested]
  value
    | .preemptionNotice => "preemption_notice"
    | .heartbeatTimeout => "heartbeat_timeout"
    | .providerReported => "provider_reported"
    | .operatorRequested => "operator_requested"
  complete a := by cases a <;> decide
  injective := by decide

/-! ## Interruptions -/

structure InterruptionOutcomeFields where
  attemptId : Text
  assignmentDigest : Text
  provider : ProviderIdentity
  slotId : Text
  kind : InterruptionKind
  sourceEventDigest : Text
  observedAt : Utc
  deriving DecidableEq

def InterruptionOutcomeFields.check (self : InterruptionOutcomeFields) : Checked Unit := do
  let _ ← boundedText (.str self.attemptId) "attempt_id"
  let _ ← digestText (.str self.assignmentDigest) "assignment_digest"
  let _ ← boundedText (.str self.slotId) "slot_id"
  let _ ← digestText (.str self.sourceEventDigest) "source_event_digest"
  return ()

/-- An interruption of an attempt, as it was observed. -/
structure InterruptionOutcome extends InterruptionOutcomeFields where
  valid : toInterruptionOutcomeFields.check = .ok ()
  deriving DecidableEq

def interruptionOutcomeSchema : Text := "cathedral_interruption_outcome_v1"

def InterruptionOutcome.members (self : InterruptionOutcome) : List (Text × Json) := [
  ("schema", .str interruptionOutcomeSchema),
  ("attempt_id", .str self.attemptId),
  ("assignment_digest", .str self.assignmentDigest),
  ("provider", self.provider.toDocument),
  ("slot_id", .str self.slotId),
  ("kind", .str (Enumerated.value self.kind)),
  ("source_event_digest", .str self.sourceEventDigest),
  ("observed_at", .str (canonicalUtc self.observedAt))]

def InterruptionOutcome.toDocument (self : InterruptionOutcome) : Json := .obj self.members

def InterruptionOutcome.fromDocument (document : Json) : Checked InterruptionOutcome := do
  let value ← requireKeys document interruptionOutcomeSchema
    ["schema", "attempt_id", "assignment_digest", "provider", "slot_id", "kind",
      "source_event_digest", "observed_at"] "interruption outcome"
  let attemptId ← boundedText (field value "attempt_id") "attempt_id"
  let assignmentDigest ← digestText (field value "assignment_digest") "assignment_digest"
  let provider ← ProviderIdentity.fromDocument (field value "provider")
  let slotId ← boundedText (field value "slot_id") "slot_id"
  let kind : InterruptionKind ← enumOf (field value "kind") "interruption kind"
  let sourceEventDigest ← digestText (field value "source_event_digest") "source_event_digest"
  let observedAt ← parseUtc (field value "observed_at") "observed_at"
  let fields : InterruptionOutcomeFields := {
    attemptId, assignmentDigest, provider, slotId, kind, sourceEventDigest, observedAt }
  build fields.check fun valid => { fields with valid }

def InterruptionOutcome.digest (self : InterruptionOutcome) : Checked Text :=
  canonicalSha256 1 self.toDocument

/-! ## Cleanups -/

structure CleanupOutcomeFields where
  attemptId : Text
  assignmentDigest : Text
  provider : ProviderIdentity
  slotId : Text
  path : CleanupPath
  absenceStatus : ProviderAbsenceStatus
  requestedAt : Utc
  observedAt : Utc
  observationDigest : Option Text
  customerCleanupDeadlineAt : Option Utc
  deriving DecidableEq

def CleanupOutcomeFields.check (self : CleanupOutcomeFields) : Checked Unit := do
  let _ ← boundedText (.str self.attemptId) "attempt_id"
  let _ ← digestText (.str self.assignmentDigest) "assignment_digest"
  let _ ← boundedText (.str self.slotId) "slot_id"
  require (self.requestedAt ≤ self.observedAt) (invalid "cleanup observation precedes its request")
  require (self.absenceStatus = .notProven ∨ self.observationDigest ≠ none)
    (invalid "proven absence or presence requires an observation digest")
  checkOptional (fun digest => (digestText (.str digest) "observation_digest").map fun _ => ())
    self.observationDigest
  checkOptional (fun deadline => require (self.requestedAt ≤ deadline)
    (invalid "customer cleanup deadline precedes cleanup request")) self.customerCleanupDeadlineAt

/-- A cleanup as it was observed; the record does not prove its own assertion. -/
structure CleanupOutcome extends CleanupOutcomeFields where
  valid : toCleanupOutcomeFields.check = .ok ()
  deriving DecidableEq

def cleanupOutcomeSchema : Text := "cathedral_cleanup_outcome_v1"

def CleanupOutcome.members (self : CleanupOutcome) : List (Text × Json) := [
  ("schema", .str cleanupOutcomeSchema),
  ("attempt_id", .str self.attemptId),
  ("assignment_digest", .str self.assignmentDigest),
  ("provider", self.provider.toDocument),
  ("slot_id", .str self.slotId),
  ("path", .str (Enumerated.value self.path)),
  ("absence_status", .str (Enumerated.value self.absenceStatus)),
  ("requested_at", .str (canonicalUtc self.requestedAt)),
  ("observed_at", .str (canonicalUtc self.observedAt)),
  ("observation_digest", optionalJson .str self.observationDigest),
  ("customer_cleanup_deadline_at",
    optionalJson (fun t => .str (canonicalUtc t)) self.customerCleanupDeadlineAt)]

def CleanupOutcome.toDocument (self : CleanupOutcome) : Json := .obj self.members

def CleanupOutcome.fromDocument (document : Json) : Checked CleanupOutcome := do
  let value ← requireKeys document cleanupOutcomeSchema
    ["schema", "attempt_id", "assignment_digest", "provider", "slot_id", "path",
      "absence_status", "requested_at", "observed_at", "observation_digest",
      "customer_cleanup_deadline_at"] "cleanup outcome"
  let observationDigest ←
    optionalOf (digestText · "observation_digest") (field value "observation_digest")
  let customerCleanupDeadlineAt ← optionalOf (parseUtc · "customer_cleanup_deadline_at")
    (field value "customer_cleanup_deadline_at")
  let attemptId ← boundedText (field value "attempt_id") "attempt_id"
  let assignmentDigest ← digestText (field value "assignment_digest") "assignment_digest"
  let provider ← ProviderIdentity.fromDocument (field value "provider")
  let slotId ← boundedText (field value "slot_id") "slot_id"
  let path : CleanupPath ← enumOf (field value "path") "cleanup path"
  let absenceStatus : ProviderAbsenceStatus ←
    enumOf (field value "absence_status") "provider absence status"
  let requestedAt ← parseUtc (field value "requested_at") "requested_at"
  let observedAt ← parseUtc (field value "observed_at") "observed_at"
  let fields : CleanupOutcomeFields := {
    attemptId, assignmentDigest, provider, slotId, path, absenceStatus, requestedAt, observedAt,
    observationDigest, customerCleanupDeadlineAt }
  build fields.check fun valid => { fields with valid }

def CleanupOutcome.digest (self : CleanupOutcome) : Checked Text :=
  canonicalSha256 1 self.toDocument

/-! ## Results -/

structure AttemptResultFields where
  attemptId : Text
  assignmentDigest : Text
  quoteDigest : Text
  attestedNonce : Text
  measurementDigest : Text
  resultPayloadDigest : Text
  producedAt : Utc
  receivedAt : Utc
  deriving DecidableEq

def AttemptResultFields.check (self : AttemptResultFields) : Checked Unit := do
  let _ ← boundedText (.str self.attemptId) "attempt_id"
  let _ ← digestText (.str self.assignmentDigest) "assignment_digest"
  let _ ← digestText (.str self.quoteDigest) "quote_digest"
  let _ ← boundedText (.str self.attestedNonce) "attested_nonce" isNonce
  let _ ← digestText (.str self.measurementDigest) "measurement_digest"
  let _ ← digestText (.str self.resultPayloadDigest) "result_payload_digest"
  require (self.producedAt ≤ self.receivedAt)
    (invalid "attempt result was received before it was produced")

/-- What a provider returned, with the quote that vouches for it. -/
structure AttemptResult extends AttemptResultFields where
  valid : toAttemptResultFields.check = .ok ()
  deriving DecidableEq

def attemptResultSchema : Text := "cathedral_attempt_result_v1"

def AttemptResult.members (self : AttemptResult) : List (Text × Json) := [
  ("schema", .str attemptResultSchema),
  ("attempt_id", .str self.attemptId),
  ("assignment_digest", .str self.assignmentDigest),
  ("quote_digest", .str self.quoteDigest),
  ("attested_nonce", .str self.attestedNonce),
  ("measurement_digest", .str self.measurementDigest),
  ("result_payload_digest", .str self.resultPayloadDigest),
  ("produced_at", .str (canonicalUtc self.producedAt)),
  ("received_at", .str (canonicalUtc self.receivedAt))]

def AttemptResult.toDocument (self : AttemptResult) : Json := .obj self.members

def AttemptResult.fromDocument (document : Json) : Checked AttemptResult := do
  let value ← requireKeys document attemptResultSchema
    ["schema", "attempt_id", "assignment_digest", "quote_digest", "attested_nonce",
      "measurement_digest", "result_payload_digest", "produced_at", "received_at"]
    "attempt result"
  let attemptId ← boundedText (field value "attempt_id") "attempt_id"
  let assignmentDigest ← digestText (field value "assignment_digest") "assignment_digest"
  let quoteDigest ← digestText (field value "quote_digest") "quote_digest"
  let attestedNonce ← boundedText (field value "attested_nonce") "attested_nonce" isNonce
  let measurementDigest ← digestText (field value "measurement_digest") "measurement_digest"
  let resultPayloadDigest ←
    digestText (field value "result_payload_digest") "result_payload_digest"
  let producedAt ← parseUtc (field value "produced_at") "produced_at"
  let receivedAt ← parseUtc (field value "received_at") "received_at"
  let fields : AttemptResultFields := {
    attemptId, assignmentDigest, quoteDigest, attestedNonce, measurementDigest,
    resultPayloadDigest, producedAt, receivedAt }
  build fields.check fun valid => { fields with valid }

def AttemptResult.digest (self : AttemptResult) : Checked Text :=
  canonicalSha256 1 self.toDocument

/-! ## Transitions -/

structure AttemptTransitionEventFields where
  eventId : Text
  attemptId : Text
  assignmentDigest : Text
  current : AttemptState
  target : AttemptState
  occurredAt : Utc
  detailDigest : Text
  cleanupOutcomeDigest : Option Text
  terminalBasis : Option TerminalBasis
  deriving DecidableEq

/-- A terminal transition, and no other, names its cleanup and its basis. -/
def checkTerminal (self : AttemptTransitionEventFields) : Checked Unit :=
  if self.target ∈ AttemptState.terminal then do
    require (self.cleanupOutcomeDigest ≠ none ∧ self.terminalBasis ≠ none)
      (invalid "a terminal transition requires cleanup outcome and terminal basis")
    checkOptional (fun digest => (digestText (.str digest) "cleanup_outcome_digest").map fun _ => ())
      self.cleanupOutcomeDigest
  else
    require (self.cleanupOutcomeDigest = none ∧ self.terminalBasis = none)
      (invalid "only a terminal transition carries cleanup outcome and terminal basis")

def AttemptTransitionEventFields.check (self : AttemptTransitionEventFields) : Checked Unit := do
  let _ ← boundedText (.str self.eventId) "event_id"
  let _ ← boundedText (.str self.attemptId) "attempt_id"
  let _ ← digestText (.str self.assignmentDigest) "assignment_digest"
  requireAttemptTransition self.current self.target
  let _ ← digestText (.str self.detailDigest) "detail_digest"
  checkTerminal self

/-- One transition of an attempt. -/
structure AttemptTransitionEvent extends AttemptTransitionEventFields where
  valid : toAttemptTransitionEventFields.check = .ok ()
  deriving DecidableEq

def attemptTransitionSchema : Text := "cathedral_attempt_transition_v1"

def AttemptTransitionEvent.members (self : AttemptTransitionEvent) : List (Text × Json) := [
  ("schema", .str attemptTransitionSchema),
  ("event_id", .str self.eventId),
  ("attempt_id", .str self.attemptId),
  ("assignment_digest", .str self.assignmentDigest),
  ("current", .str (Enumerated.value self.current)),
  ("target", .str (Enumerated.value self.target)),
  ("occurred_at", .str (canonicalUtc self.occurredAt)),
  ("detail_digest", .str self.detailDigest),
  ("cleanup_outcome_digest", optionalJson .str self.cleanupOutcomeDigest),
  ("terminal_basis", optionalJson (fun a => .str (Enumerated.value a)) self.terminalBasis)]

def AttemptTransitionEvent.toDocument (self : AttemptTransitionEvent) : Json := .obj self.members

def AttemptTransitionEvent.fromDocument (document : Json) : Checked AttemptTransitionEvent := do
  let value ← requireKeys document attemptTransitionSchema
    ["schema", "event_id", "attempt_id", "assignment_digest", "current", "target",
      "occurred_at", "detail_digest", "cleanup_outcome_digest", "terminal_basis"]
    "attempt transition"
  let cleanupOutcomeDigest ←
    optionalOf (digestText · "cleanup_outcome_digest") (field value "cleanup_outcome_digest")
  let terminalBasis : Option TerminalBasis ←
    optionalOf (enumOf · "terminal basis") (field value "terminal_basis")
  let eventId ← boundedText (field value "event_id") "event_id"
  let attemptId ← boundedText (field value "attempt_id") "attempt_id"
  let assignmentDigest ← digestText (field value "assignment_digest") "assignment_digest"
  let current : AttemptState ← enumOf (field value "current") "current attempt state"
  let target : AttemptState ← enumOf (field value "target") "target attempt state"
  let occurredAt ← parseUtc (field value "occurred_at") "occurred_at"
  let detailDigest ← digestText (field value "detail_digest") "detail_digest"
  let fields : AttemptTransitionEventFields := {
    eventId, attemptId, assignmentDigest, current, target, occurredAt, detailDigest,
    cleanupOutcomeDigest, terminalBasis }
  build fields.check fun valid => { fields with valid }

/-! ## Bindings to the assignment -/

/-- The result answers the assignment: its nonce and its image. -/
def validateResultAssignment (assignment : AttemptAssignment) (result : AttemptResult) :
    Checked Unit := do
  let digest ← assignment.digest
  require (result.attemptId = assignment.attemptId ∧ result.assignmentDigest = digest)
    (invalid "result does not match its attempt assignment")
  require (result.attestedNonce = assignment.providerNonce)
    ⟨"quote attests a different nonce than this assignment issued", .resultNonceMismatch⟩
  require (result.measurementDigest = assignment.imageDigest)
    ⟨"quote measurement does not match the assignment image digest", .resultMeasurementMismatch⟩

def validateTransitionAssignment (assignment : AttemptAssignment)
    (event : AttemptTransitionEvent) : Checked Unit := do
  let digest ← assignment.digest
  require (event.attemptId = assignment.attemptId ∧ event.assignmentDigest = digest)
    (invalid "transition event does not match its attempt assignment")

def validateCleanupAssignment (assignment : AttemptAssignment) (cleanup : CleanupOutcome) :
    Checked Unit := do
  let digest ← assignment.digest
  require (cleanup.attemptId = assignment.attemptId ∧ cleanup.assignmentDigest = digest ∧
      cleanup.provider = assignment.provider ∧ cleanup.slotId = assignment.slotId)
    (invalid "cleanup outcome does not match its attempt assignment")

def validateInterruptionAssignment (assignment : AttemptAssignment)
    (interruption : InterruptionOutcome) : Checked Unit := do
  let digest ← assignment.digest
  require (interruption.attemptId = assignment.attemptId ∧ interruption.assignmentDigest = digest ∧
      interruption.provider = assignment.provider ∧ interruption.slotId = assignment.slotId)
    (invalid "interruption does not match its attempt assignment")

/-- What a terminal transition rests on: absence that is proven, or a customer deadline
that has passed without it. -/
def checkTerminalBasis (event : AttemptTransitionEvent) (cleanup : CleanupOutcome) :
    Checked Unit :=
  match event.terminalBasis with
  | some .providerAbsence =>
    require (cleanup.absenceStatus = .provenAbsent) (invalid "provider absence is not proven")
  | some .customerCleanupDeadline => do
    require (event.target ≠ .succeeded)
      (invalid "an unproven cleanup deadline cannot produce a successful attempt")
    require (cleanup.customerCleanupDeadlineAt.any fun deadline => deadline ≤ cleanup.observedAt)
      (invalid "the customer cleanup deadline has not been reached")
    require (cleanup.absenceStatus ≠ .provenAbsent)
      (invalid "proven absence must use the provider-absence terminal basis")
  | none => .error (invalid "terminal basis is invalid")

/-- A terminal transition matches its cleanup. -/
def validateTerminalTransition (event : AttemptTransitionEvent) (cleanup : CleanupOutcome) :
    Checked Unit := do
  require (event.target ∈ AttemptState.terminal)
    (invalid "terminal validation requires a terminal target")
  require (event.attemptId = cleanup.attemptId)
    (invalid "cleanup outcome belongs to another attempt")
  require (event.assignmentDigest = cleanup.assignmentDigest)
    (invalid "cleanup outcome belongs to another assignment")
  require (cleanup.observedAt ≤ event.occurredAt)
    (invalid "terminal transition precedes its cleanup observation")
  let digest ← cleanup.digest
  require (event.cleanupOutcomeDigest = some digest)
    (invalid "terminal transition does not bind the cleanup outcome")
  require (event.target.cleanupPath = some cleanup.path)
    (invalid "cleanup path does not match the terminal state")
  checkTerminalBasis event cleanup

end Cathedral.Provider
