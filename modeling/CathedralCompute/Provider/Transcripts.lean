import CathedralCompute.Provider.Settlements

/-!
# Transcripts of attempts and Workers

The transcript of an attempt holds its permits, its transitions, its cleanup and, where
there was one, its interruption and its result. The private transcript of a Worker joins
the attempts with the reservation and ends with one settlement. Both validate what they
hold as a whole.

## Main definitions

* `ProviderAttemptTranscript.validate` — the terminal state of an attempt
* `WorkerExecutionTranscript.validate` — the action of the final settlement
-/

set_option autoImplicit false

namespace Cathedral.Provider

open Codec Semantics

def maxTranscriptEvents : ℕ := 32

def maxWorkerAttempts : ℕ := 16

/-- Neighbours in a list, `zip(items, items[1:])`. -/
def neighbours {α : Type} (items : List α) : List (α × α) := items.zip items.tail

/-- The first violation among the items. -/
def checkEach {α : Type} (check : α → Checked Unit) : List α → Checked Unit
  | [] => .ok ()
  | item :: items => do
    check item
    checkEach check items

/-! ## Attempts -/

/-- One attempt of a provider, without customer and billing. -/
structure ProviderAttemptTranscript where
  assignment : AttemptAssignment
  permits : List AssignmentPermit
  events : List AttemptTransitionEvent
  cleanup : CleanupOutcome
  interruption : Option InterruptionOutcome
  result : Option AttemptResult
  deriving DecidableEq

namespace ProviderAttemptTranscript

variable (self : ProviderAttemptTranscript)

/-- The permits authorize the assignment and renew each other; the first one. -/
def checkPermits : Checked AssignmentPermit := do
  let first ← demand (invalid "transcript permits are invalid") self.permits.head?
  require (first.sequence = 1) (invalid "transcript permit history must begin at sequence 1")
  checkEach (fun permit => validateAssignmentPermit self.assignment permit permit.issuedAt)
    self.permits
  checkEach (fun pair => validatePermitRenewal pair.1 pair.2 pair.2.issuedAt)
    (neighbours self.permits)
  return first

/-- Events that belong to the assignment, none of them twice. -/
def checkEventIds (assignment : AttemptAssignment) :
    List Text → List AttemptTransitionEvent → Checked Unit
  | _, [] => .ok ()
  | seen, event :: events => do
    require (event.eventId ∉ seen) (invalid "transcript contains a duplicate event ID")
    validateTransitionAssignment assignment event
    checkEventIds assignment (event.eventId :: seen) events

/-- One transition follows another. -/
def checkFollows (previous next : AttemptTransitionEvent) : Checked Unit := do
  require (next.current = previous.target) (invalid "transcript state chain is not continuous")
  require (previous.occurredAt ≤ next.occurredAt)
    (invalid "transcript event timestamps are not nondecreasing")

/-- An assignment is sent and acknowledged under a permit. -/
def checkDispatchWindow (event : AttemptTransitionEvent) : Checked Unit :=
  checkIf (event.target = .assignmentSent ∨ event.target = .acknowledged)
    (require (∃ permit ∈ self.permits,
        permit.issuedAt ≤ event.occurredAt ∧ event.occurredAt < permit.expiresAt)
      (invalid "assignment dispatch event falls outside every permit window"))

/-- When cleanup began. -/
def firstCleanupAt : Option Utc :=
  ((self.events.filter fun event =>
    event.target ∈ AttemptState.cleanupPending ++ AttemptState.terminal).map (·.occurredAt)).min?

/-- The transitions form one run under the permits. -/
def checkEvents (firstPermit : AssignmentPermit) : Checked AttemptTransitionEvent := do
  require (self.events.length ≤ maxTranscriptEvents) (invalid "transcript events are invalid")
  let first ← demand (invalid "transcript events are invalid") self.events.head?
  require (first.current = .dispatchPending) (invalid "transcript must begin at DISPATCH_PENDING")
  require (firstPermit.issuedAt ≤ first.occurredAt)
    (invalid "transcript begins before its initial permit")
  checkEventIds self.assignment [] self.events
  checkEach (fun pair => checkFollows pair.1 pair.2) (neighbours self.events)
  checkEach self.checkDispatchWindow self.events
  require (∀ permit ∈ self.permits.tail, ∀ began ∈ self.firstCleanupAt, permit.issuedAt < began)
    (invalid "a permit was renewed after cleanup began")
  return first

/-- The last transition and the one before it, by which cleanup began. -/
def checkEnd : Checked (AttemptTransitionEvent × AttemptTransitionEvent) := do
  require (∀ event ∈ self.events.dropLast, event.target ∉ AttemptState.terminal)
    (invalid "only the final transcript event may be terminal")
  let last ← demand (invalid "transcript events are invalid") self.events.getLast?
  require (last.target ∈ AttemptState.terminal)
    (invalid "transcript must end at a terminal state")
  let entry ← demand (invalid "transcript terminal event lacks a cleanup entry")
    self.events.dropLast.getLast?
  require (entry.occurredAt ≤ self.cleanup.requestedAt)
    (invalid "cleanup was requested before the attempt entered cleanup-pending")
  validateCleanupAssignment self.assignment self.cleanup
  validateTerminalTransition last self.cleanup
  return (entry, last)

/-- The transitions that received a result. -/
def resultEvents : List AttemptTransitionEvent :=
  self.events.filter fun event => event.target = .resultReceived

/-- The transition that received the result binds it. -/
def checkResultEvent (event : AttemptTransitionEvent) : Checked Unit := do
  let result ← demand
    (invalid "a RESULT_RECEIVED transition requires a matching result record") self.result
  validateResultAssignment self.assignment result
  let digest ← result.digest
  require (event.detailDigest = digest)
    (invalid "RESULT_RECEIVED transition does not bind its result record")
  require (result.receivedAt ≤ event.occurredAt)
    (invalid "RESULT_RECEIVED transition occurred before its result was received")

/-- There is a result exactly where one was received. -/
def checkResult : Checked Unit := do
  require (self.resultEvents.length ≤ 1)
    (invalid "transcript reached RESULT_RECEIVED more than once")
  match self.resultEvents.head? with
  | some event => self.checkResultEvent event
  | none =>
    require (self.result = none)
      (invalid "only an attempt that received a result may carry a result record")

/-- The interruption matches the attempt and the transitions it caused. -/
def checkInterrupted (first entry last : AttemptTransitionEvent) : Checked Unit := do
  let interruption ← demand
    (invalid "an interrupted transcript requires an interruption outcome") self.interruption
  validateInterruptionAssignment self.assignment interruption
  let digest ← interruption.digest
  require (entry.detailDigest = digest)
    (invalid "interrupt cleanup entry does not bind its interruption outcome")
  require (last.detailDigest = digest)
    (invalid "interrupted terminal transition does not bind its interruption outcome")
  require (first.occurredAt ≤ interruption.observedAt ∧
      interruption.observedAt ≤ entry.occurredAt)
    (invalid "interruption observation falls outside the attempt event window")
  require (interruption.observedAt ≤ self.cleanup.requestedAt)
    (invalid "interruption observation follows cleanup request")

/-- There is an interruption exactly where an attempt was interrupted. -/
def checkInterruption (first entry last : AttemptTransitionEvent) : Checked Unit :=
  if last.target = .interrupted then self.checkInterrupted first entry last
  else require (self.interruption = none)
    (invalid "only an interrupted transcript accepts an interruption outcome")

/-- The terminal state of a transcript that is in order. -/
def validate : Checked AttemptState := do
  let firstPermit ← self.checkPermits
  let first ← self.checkEvents firstPermit
  let (entry, last) ← self.checkEnd
  self.checkResult
  self.checkInterruption first entry last
  return last.target

def schema : Text := "cathedral_provider_attempt_transcript_v1"

def members : List (Text × Json) := [
  ("schema", .str schema),
  ("assignment", self.assignment.toDocument),
  ("permits", .arr (self.permits.map AssignmentPermit.toDocument)),
  ("events", .arr (self.events.map AttemptTransitionEvent.toDocument)),
  ("cleanup", self.cleanup.toDocument),
  ("interruption", optionalJson InterruptionOutcome.toDocument self.interruption),
  ("result", optionalJson AttemptResult.toDocument self.result)]

/-- The document of a transcript that is in order. -/
def toDocument : Checked Json := do
  let _ ← self.validate
  return .obj self.members

def canonicalBytes : Checked Bytes := do
  let document ← self.toDocument
  canonicalJsonBytes 0 document

def digest : Checked Text := do
  let document ← self.toDocument
  canonicalSha256 0 document

/-- Whether a document has the keys and the schema, which are checked together. -/
def membersWith (document : Json) (schema : Text) (keys : List Text) (error : Text) :
    Checked (List (Text × Json)) := do
  let members ← demand (invalid error) (membersOfJson document)
  require (hasExactly keys members = true ∧
      Json.equalsText schema (Json.lookup "schema" members) = true) (invalid error)
  return members

def fromDocument (document : Json) : Checked ProviderAttemptTranscript := do
  let value ← membersWith document schema
    ["schema", "assignment", "permits", "events", "cleanup", "interruption", "result"]
    "provider attempt transcript has missing, unknown, or unsupported fields"
  let rawPermits ← demand (invalid "provider attempt transcript permits must be a list")
    (itemsOfJson (field value "permits"))
  let rawEvents ← demand (invalid "provider attempt transcript events must be a list")
    (itemsOfJson (field value "events"))
  require (rawEvents.length ≤ maxTranscriptEvents)
    (invalid "provider attempt transcript has too many events")
  let assignment ← AttemptAssignment.fromDocument (field value "assignment")
  let permits ← rawPermits.mapM AssignmentPermit.fromDocument
  let events ← rawEvents.mapM AttemptTransitionEvent.fromDocument
  let cleanup ← CleanupOutcome.fromDocument (field value "cleanup")
  let interruption ← optionalOf InterruptionOutcome.fromDocument (field value "interruption")
  let result ← optionalOf AttemptResult.fromDocument (field value "result")
  let transcript : ProviderAttemptTranscript :=
    { assignment, permits, events, cleanup, interruption, result }
  let _ ← transcript.validate
  return transcript

def fromBytes (data : Bytes) : Checked ProviderAttemptTranscript := do
  let document ← parseCanonicalJson data
  fromDocument document

end ProviderAttemptTranscript

/-! ## Workers -/

/-- The private record of a Worker with all its attempts. -/
structure WorkerExecutionTranscript where
  reservation : CustomerCapReservation
  bindings : List AssignmentLedgerBinding
  attempts : List ProviderAttemptTranscript
  unassignedDispatch : Option UnassignedDispatchOutcome
  settlements : List WorkerSettlementDecision
  deriving DecidableEq

namespace WorkerExecutionTranscript

variable (self : WorkerExecutionTranscript)

/-- Attempts with their bindings, or an unassigned outcome, and one final settlement. -/
def checkShape : Checked Unit := do
  require (self.attempts.length ≤ maxWorkerAttempts) (invalid "worker attempts are invalid")
  require (self.attempts.isEmpty = self.unassignedDispatch.isSome)
    (invalid "worker transcript requires either attempts or one unassigned outcome")
  require (self.attempts ≠ [] → self.bindings.length = self.attempts.length)
    (invalid "every attempt requires one private ledger binding")
  require (self.unassignedDispatch.isSome → self.bindings = [])
    (invalid "an unassigned Worker cannot have attempt bindings")
  require (self.settlements.length = 1 ∨ self.settlements.length = 2)
    (invalid "worker finalizer requires one final settlement")

/-- The permits of an attempt lie within the reservation. -/
def checkPermitWindow (reservation : CustomerCapReservation) (permit : AssignmentPermit) :
    Checked Unit := do
  require (reservation.reservedAt ≤ permit.issuedAt)
    (invalid "permit predates the Worker reservation")
  require (permit.expiresAt ≤ reservation.expiresAt)
    (invalid "permit outlives the Worker reservation")

/-- The bindings number the attempts from the given one on, each after its parent. -/
def checkBindings (reservation : CustomerCapReservation) :
    ℕ → Option Text → List (AssignmentLedgerBinding × ProviderAttemptTranscript) → Checked Unit
  | _, _, [] => .ok ()
  | index, parent, (binding, attempt) :: rest => do
    let initialPermit ← demand (invalid "transcript permits are invalid") attempt.permits.head?
    validateAssignmentReservation attempt.assignment initialPermit binding reservation
    require (binding.attemptNumber = index)
      (invalid "worker attempt numbers are not contiguous")
    require (binding.retryParentAttemptId = parent)
      (invalid "retry attempt does not name its immediate parent")
    checkEach (checkPermitWindow reservation) attempt.permits
    checkBindings reservation (index + 1) (some attempt.assignment.attemptId) rest

/-- An attempt begins after the one before it has ended. -/
def checkRetry (previous candidate : ProviderAttemptTranscript) : Checked Unit := do
  let last ← demand (invalid "transcript events are invalid") previous.events.getLast?
  let permit ← demand (invalid "transcript permits are invalid") candidate.permits.head?
  require (last.occurredAt ≤ permit.issuedAt) (invalid "retry permit overlaps the prior attempt")
  let first ← demand (invalid "transcript events are invalid") candidate.events.head?
  require (last.occurredAt ≤ first.occurredAt)
    (invalid "retry attempt overlaps the prior attempt")

/-- The places of the attempts that succeeded. -/
def successIndexes (terminalStates : List AttemptState) : List ℕ :=
  (terminalStates.zipIdx.filter fun entry => entry.1 = .succeeded).map (·.2)

/-- The attempts validate, do not reuse names and follow one another within the
reservation; their terminal states. -/
def checkAttempts : Checked (List AttemptState) := do
  let terminalStates ← self.attempts.mapM ProviderAttemptTranscript.validate
  require (self.attempts.map (·.assignment.attemptId)).Nodup
    (invalid "worker attempts reuse an attempt ID")
  require (self.attempts.map (·.assignment.providerNonce)).Nodup
    (invalid "worker attempts reuse a provider nonce")
  checkBindings self.reservation 1 none (self.bindings.zip self.attempts)
  checkEach (fun pair => checkRetry pair.1 pair.2) (neighbours self.attempts)
  require ((successIndexes terminalStates).length ≤ 1)
    (invalid "a Worker cannot have multiple successful attempts")
  require (∀ index ∈ (successIndexes terminalStates).head?, index = self.attempts.length - 1)
    (invalid "only the final Worker attempt may succeed")
  return terminalStates

/-- A first settlement that is final, or a held one and its resolution. -/
def checkSuccession : Checked Unit :=
  match self.settlements with
  | [held, resolution] => validateSettlementSupersession self.reservation held resolution
  | settlements =>
    require (∀ settlement ∈ settlements.head?, settlement.action ≠ .heldPendingCleanup)
      (invalid "a held Worker settlement is not final")

/-- The settlements match the reservation; the final one. -/
def checkSettlements : Checked WorkerSettlementDecision := do
  checkEach (validateSettlement self.reservation) self.settlements
  require (self.settlements.map (·.decisionId)).Nodup
    (invalid "worker settlement IDs are not unique")
  self.checkSuccession
  let final ← demand (invalid "worker finalizer requires one final settlement")
    self.settlements.getLast?
  require (final.action ≠ .heldPendingCleanup)
    (invalid "worker finalizer cannot end with a held settlement")
  return final

/-- The settlement of a Worker that was never assigned. -/
def checkUnassigned (outcome : UnassignedDispatchOutcome) (final : WorkerSettlementDecision) :
    Checked Unit := do
  require (outcome.workerId = self.reservation.workerId)
    (invalid "unassigned outcome belongs to another Worker")
  require (outcome.requestDigest = self.reservation.requestDigest)
    (invalid "unassigned outcome changes the Worker request")
  require (∀ settlement ∈ self.settlements.head?, settlement.action ≠ .heldPendingCleanup)
    (invalid "an unassigned Worker cannot hold settlement")
  require (final.action = .released) (invalid "an unassigned Worker must release its reservation")
  let digest ← outcome.digest
  require (final.workerOutcomeDigest = digest)
    (invalid "settlement does not bind the unassigned outcome")
  require (outcome.observedAt ≤ final.decidedAt)
    (invalid "settlement precedes the unassigned outcome")

/-- A charge goes to the last attempt, which succeeded and is proven absent. -/
def checkWinner (winner : ProviderAttemptTranscript) (last : AttemptTransitionEvent)
    (final : WorkerSettlementDecision) (successes : List ℕ) : Checked Unit := do
  require (successes.length = 1) (invalid "a charged Worker requires one successful attempt")
  require (final.winningAttemptId = some winner.assignment.attemptId)
    (invalid "settlement names the wrong winning attempt")
  let digest ← winner.digest
  require (final.workerOutcomeDigest = digest)
    (invalid "settlement does not bind the winning transcript")
  require (last.terminalBasis = some .providerAbsence)
    (invalid "a charged winner requires provider-absence cleanup")
  require (winner.cleanup.absenceStatus = .provenAbsent)
    (invalid "a charged winner lacks proven cleanup")

/-- A release binds the last attempt, and no attempt succeeded. -/
def checkReleased (last : ProviderAttemptTranscript) (final : WorkerSettlementDecision)
    (successes : List ℕ) : Checked Unit := do
  require (successes = []) (invalid "a successful Worker must settle against its winner")
  let digest ← last.digest
  require (final.workerOutcomeDigest = digest)
    (invalid "released settlement does not bind the final attempt")

/-- A charge or a release of the last attempt. -/
def checkSettled (lastAttempt : ProviderAttemptTranscript) (last : AttemptTransitionEvent)
    (final : WorkerSettlementDecision) (successes : List ℕ) : Checked Unit :=
  if final.action = .charged then checkWinner lastAttempt last final successes
  else checkReleased lastAttempt final successes

/-- The settlement of a Worker with attempts. -/
def checkAssigned (final : WorkerSettlementDecision) (successes : List ℕ) : Checked Unit := do
  let lastAttempt ← demand (invalid "worker attempts are invalid") self.attempts.getLast?
  let last ← demand (invalid "transcript events are invalid") lastAttempt.events.getLast?
  require (last.occurredAt ≤ final.decidedAt)
    (invalid "settlement precedes a child attempt terminal event")
  checkSettled lastAttempt last final successes

/-- The final settlement matches what became of the Worker. -/
def checkOutcome (final : WorkerSettlementDecision) (successes : List ℕ) : Checked Unit :=
  match self.unassignedDispatch with
  | some outcome => self.checkUnassigned outcome final
  | none => self.checkAssigned final successes

/-- The action of the final settlement of a transcript that is in order. -/
def validate : Checked SettlementAction := do
  self.checkShape
  let terminalStates ← self.checkAttempts
  let final ← self.checkSettlements
  self.checkOutcome final (successIndexes terminalStates)
  return final.action

def schema : Text := "cathedral_worker_execution_transcript_v1"

/-- The documents of the attempts. -/
def attemptDocuments : Checked (List Json) :=
  self.attempts.mapM ProviderAttemptTranscript.toDocument

def members (attempts : List Json) : List (Text × Json) := [
  ("schema", .str schema),
  ("reservation", self.reservation.toDocument),
  ("bindings", .arr (self.bindings.map AssignmentLedgerBinding.toDocument)),
  ("attempts", .arr attempts),
  ("unassigned_dispatch",
    optionalJson UnassignedDispatchOutcome.toDocument self.unassignedDispatch),
  ("settlements", .arr (self.settlements.map WorkerSettlementDecision.toDocument))]

/-- The document of a transcript that is in order. -/
def toDocument : Checked Json := do
  let _ ← self.validate
  let attempts ← self.attemptDocuments
  return .obj (self.members attempts)

def canonicalBytes : Checked Bytes := do
  let document ← self.toDocument
  canonicalJsonBytes 0 document

def fromDocument (document : Json) : Checked WorkerExecutionTranscript := do
  let value ← ProviderAttemptTranscript.membersWith document schema
    ["schema", "reservation", "bindings", "attempts", "unassigned_dispatch", "settlements"]
    "worker execution transcript has missing, unknown, or unsupported fields"
  let rawBindings ← demand (invalid "worker attempts and bindings must be lists")
    (itemsOfJson (field value "bindings"))
  let rawAttempts ← demand (invalid "worker attempts and bindings must be lists")
    (itemsOfJson (field value "attempts"))
  let rawSettlements ← demand (invalid "worker settlements must be a list")
    (itemsOfJson (field value "settlements"))
  require (rawAttempts.length ≤ maxWorkerAttempts)
    (invalid "worker transcript has too many attempts")
  let reservation ← CustomerCapReservation.fromDocument (field value "reservation")
  let bindings ← rawBindings.mapM AssignmentLedgerBinding.fromDocument
  let attempts ← rawAttempts.mapM ProviderAttemptTranscript.fromDocument
  let unassignedDispatch ← optionalOf UnassignedDispatchOutcome.fromDocument
    (field value "unassigned_dispatch")
  let settlements ← rawSettlements.mapM WorkerSettlementDecision.fromDocument
  let transcript : WorkerExecutionTranscript :=
    { reservation, bindings, attempts, unassignedDispatch, settlements }
  let _ ← transcript.validate
  return transcript

def fromBytes (data : Bytes) : Checked WorkerExecutionTranscript := do
  let document ← parseCanonicalJson data
  fromDocument document

end WorkerExecutionTranscript

end Cathedral.Provider
