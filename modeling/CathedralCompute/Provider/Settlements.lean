import CathedralCompute.Provider.Attempts

/-!
# Reservations and settlements

The cap a customer reserves for a Worker, the outcome of a Worker that was never
assigned, and the decision that charges or releases the reservation.

## Main definitions

* `validateSettlement` — a decision matches its reservation
* `validateSettlementSupersession` — a held decision is resolved once
-/

set_option autoImplicit false

namespace Cathedral.Provider

open Codec Semantics

/-! ## Reservations -/

structure CustomerCapReservationFields where
  customerId : Text
  workerId : Text
  reservationId : Text
  requestDigest : Text
  reservedMicros : ℤ
  reservedAt : Utc
  expiresAt : Utc
  deriving DecidableEq

def CustomerCapReservationFields.check (self : CustomerCapReservationFields) : Checked Unit := do
  let _ ← boundedText (.str self.customerId) "customer_id"
  let _ ← boundedText (.str self.workerId) "worker_id"
  let _ ← boundedText (.str self.reservationId) "reservation_id"
  let _ ← digestText (.str self.requestDigest) "request_digest"
  let _ ← moneyMicros (.int self.reservedMicros) "reserved_micros"
  require (self.reservedAt < self.expiresAt)
    (invalid "cap reservation expiry must follow its creation")

/-- The cap a customer reserves for a Worker. -/
structure CustomerCapReservation extends CustomerCapReservationFields where
  valid : toCustomerCapReservationFields.check = .ok ()
  deriving DecidableEq

def capReservationSchema : Text := "cathedral_customer_cap_reservation_v1"

def CustomerCapReservation.members (self : CustomerCapReservation) : List (Text × Json) := [
  ("schema", .str capReservationSchema),
  ("customer_id", .str self.customerId),
  ("worker_id", .str self.workerId),
  ("reservation_id", .str self.reservationId),
  ("request_digest", .str self.requestDigest),
  ("reserved_micros", .int self.reservedMicros),
  ("reserved_at", .str (canonicalUtc self.reservedAt)),
  ("expires_at", .str (canonicalUtc self.expiresAt))]

def CustomerCapReservation.toDocument (self : CustomerCapReservation) : Json := .obj self.members

def CustomerCapReservation.fromDocument (document : Json) : Checked CustomerCapReservation := do
  let value ← requireKeys document capReservationSchema
    ["schema", "customer_id", "worker_id", "reservation_id", "request_digest",
      "reserved_micros", "reserved_at", "expires_at"] "customer cap reservation"
  let customerId ← boundedText (field value "customer_id") "customer_id"
  let workerId ← boundedText (field value "worker_id") "worker_id"
  let reservationId ← boundedText (field value "reservation_id") "reservation_id"
  let requestDigest ← digestText (field value "request_digest") "request_digest"
  let reservedMicros ← moneyMicros (field value "reserved_micros") "reserved_micros"
  let reservedAt ← parseUtc (field value "reserved_at") "reserved_at"
  let expiresAt ← parseUtc (field value "expires_at") "expires_at"
  let fields : CustomerCapReservationFields := {
    customerId, workerId, reservationId, requestDigest, reservedMicros, reservedAt, expiresAt }
  build fields.check fun valid => { fields with valid }

/-! ## Workers without an attempt -/

inductive UnassignedDispatchReason where
  | noCapacity
  | policyIneligible
  | reservationExpired
  deriving DecidableEq

instance : Enumerated UnassignedDispatchReason where
  all := [.noCapacity, .policyIneligible, .reservationExpired]
  value
    | .noCapacity => "no_capacity"
    | .policyIneligible => "policy_ineligible"
    | .reservationExpired => "reservation_expired"
  complete a := by cases a <;> decide
  injective := by decide

structure UnassignedDispatchOutcomeFields where
  outcomeId : Text
  workerId : Text
  requestDigest : Text
  reason : UnassignedDispatchReason
  routingDecisionDigest : Text
  observedAt : Utc
  deriving DecidableEq

def UnassignedDispatchOutcomeFields.check (self : UnassignedDispatchOutcomeFields) :
    Checked Unit := do
  let _ ← boundedText (.str self.outcomeId) "outcome_id"
  let _ ← boundedText (.str self.workerId) "worker_id"
  let _ ← digestText (.str self.requestDigest) "request_digest"
  let _ ← digestText (.str self.routingDecisionDigest) "routing_decision_digest"
  return ()

/-- The outcome of a Worker for which no attempt was assigned. -/
structure UnassignedDispatchOutcome extends UnassignedDispatchOutcomeFields where
  valid : toUnassignedDispatchOutcomeFields.check = .ok ()
  deriving DecidableEq

def unassignedDispatchOutcomeSchema : Text := "cathedral_unassigned_dispatch_outcome_v1"

def UnassignedDispatchOutcome.members (self : UnassignedDispatchOutcome) : List (Text × Json) := [
  ("schema", .str unassignedDispatchOutcomeSchema),
  ("outcome_id", .str self.outcomeId),
  ("worker_id", .str self.workerId),
  ("request_digest", .str self.requestDigest),
  ("reason", .str (Enumerated.value self.reason)),
  ("routing_decision_digest", .str self.routingDecisionDigest),
  ("observed_at", .str (canonicalUtc self.observedAt))]

def UnassignedDispatchOutcome.toDocument (self : UnassignedDispatchOutcome) : Json := .obj self.members

def UnassignedDispatchOutcome.fromDocument (document : Json) : Checked UnassignedDispatchOutcome := do
  let value ← requireKeys document unassignedDispatchOutcomeSchema
    ["schema", "outcome_id", "worker_id", "request_digest", "reason", "routing_decision_digest",
      "observed_at"] "unassigned dispatch outcome"
  let outcomeId ← boundedText (field value "outcome_id") "outcome_id"
  let workerId ← boundedText (field value "worker_id") "worker_id"
  let requestDigest ← digestText (field value "request_digest") "request_digest"
  let reason : UnassignedDispatchReason ← enumOf (field value "reason") "unassigned reason"
  let routingDecisionDigest ←
    digestText (field value "routing_decision_digest") "routing_decision_digest"
  let observedAt ← parseUtc (field value "observed_at") "observed_at"
  let fields : UnassignedDispatchOutcomeFields := {
    outcomeId, workerId, requestDigest, reason, routingDecisionDigest, observedAt }
  build fields.check fun valid => { fields with valid }

def UnassignedDispatchOutcome.digest (self : UnassignedDispatchOutcome) : Checked Text :=
  canonicalSha256 1 self.toDocument

/-! ## Settlements -/

inductive SettlementAction where
  | charged
  | released
  | heldPendingCleanup
  deriving DecidableEq

instance : Enumerated SettlementAction where
  all := [.charged, .released, .heldPendingCleanup]
  value
    | .charged => "charged"
    | .released => "released"
    | .heldPendingCleanup => "held_pending_cleanup"
  complete a := by cases a <;> decide
  injective := by decide

structure WorkerSettlementDecisionFields where
  decisionId : Text
  sequence : ℤ
  supersedesDigest : Option Text
  customerId : Text
  workerId : Text
  reservationId : Text
  reservedMicros : ℤ
  chargedMicros : ℤ
  action : SettlementAction
  winningAttemptId : Option Text
  workerOutcomeDigest : Text
  decidedAt : Utc
  deriving DecidableEq

/-- A first decision supersedes nothing, a second one names what it supersedes. -/
def checkSupersedes (self : WorkerSettlementDecisionFields) : Checked Unit :=
  if self.sequence = 1 then
    require (self.supersedesDigest = none)
      (invalid "an initial settlement cannot supersede another decision")
  else do
    require (self.supersedesDigest ≠ none)
      (invalid "a settlement resolution must bind the held decision")
    checkOptional (fun digest => (digestText (.str digest) "supersedes_digest").map fun _ => ())
      self.supersedesDigest

/-- A charge is positive and has a winner, another action neither charges nor names one. -/
def checkAction (self : WorkerSettlementDecisionFields) : Checked Unit :=
  if self.action = .charged then do
    require (self.sequence = 1 ∧ 0 < self.chargedMicros)
      (invalid "a charged settlement must be an initial positive charge")
    let winner ← demand (invalid "a charged settlement requires a winning attempt")
      self.winningAttemptId
    let _ ← boundedText (.str winner) "winning_attempt_id"
    return ()
  else do
    require (self.chargedMicros = 0) (invalid "an uncharged settlement action must charge zero")
    require (self.winningAttemptId = none)
      (invalid "an uncharged settlement must not name a winner")

def WorkerSettlementDecisionFields.check (self : WorkerSettlementDecisionFields) :
    Checked Unit := do
  let _ ← boundedText (.str self.decisionId) "decision_id"
  let _ ← boundedText (.str self.customerId) "customer_id"
  let _ ← boundedText (.str self.workerId) "worker_id"
  let _ ← boundedText (.str self.reservationId) "reservation_id"
  require (self.sequence = 1 ∨ self.sequence = 2) (invalid "settlement sequence must be 1 or 2")
  checkSupersedes self
  let _ ← moneyMicros (.int self.reservedMicros) "reserved_micros"
  let _ ← moneyMicros (.int self.chargedMicros) "charged_micros"
  require (self.chargedMicros ≤ self.reservedMicros)
    (invalid "settlement charge exceeds the reserved customer cap")
  let _ ← digestText (.str self.workerOutcomeDigest) "worker_outcome_digest"
  checkAction self
  require (self.sequence = 2 → self.action = .released)
    (invalid "a held settlement resolves only by releasing the cap")

/-- One billing decision of a Worker. -/
structure WorkerSettlementDecision extends WorkerSettlementDecisionFields where
  valid : toWorkerSettlementDecisionFields.check = .ok ()
  deriving DecidableEq

def settlementDecisionSchema : Text := "cathedral_worker_settlement_decision_v1"

def WorkerSettlementDecision.members (self : WorkerSettlementDecision) : List (Text × Json) := [
  ("schema", .str settlementDecisionSchema),
  ("decision_id", .str self.decisionId),
  ("sequence", .int self.sequence),
  ("supersedes_digest", optionalJson .str self.supersedesDigest),
  ("customer_id", .str self.customerId),
  ("worker_id", .str self.workerId),
  ("reservation_id", .str self.reservationId),
  ("reserved_micros", .int self.reservedMicros),
  ("charged_micros", .int self.chargedMicros),
  ("action", .str (Enumerated.value self.action)),
  ("winning_attempt_id", optionalJson .str self.winningAttemptId),
  ("worker_outcome_digest", .str self.workerOutcomeDigest),
  ("decided_at", .str (canonicalUtc self.decidedAt))]

def WorkerSettlementDecision.toDocument (self : WorkerSettlementDecision) : Json := .obj self.members

def WorkerSettlementDecision.fromDocument (document : Json) : Checked WorkerSettlementDecision := do
  let value ← requireKeys document settlementDecisionSchema
    ["schema", "decision_id", "sequence", "supersedes_digest", "customer_id", "worker_id",
      "reservation_id", "reserved_micros", "charged_micros", "action", "winning_attempt_id",
      "worker_outcome_digest", "decided_at"] "worker settlement decision"
  let sequence ← integerOf (field value "sequence") "settlement sequence"
  let supersedesDigest ←
    optionalOf (digestText · "supersedes_digest") (field value "supersedes_digest")
  let winningAttemptId ←
    optionalOf (boundedText · "winning_attempt_id") (field value "winning_attempt_id")
  let decisionId ← boundedText (field value "decision_id") "decision_id"
  let customerId ← boundedText (field value "customer_id") "customer_id"
  let workerId ← boundedText (field value "worker_id") "worker_id"
  let reservationId ← boundedText (field value "reservation_id") "reservation_id"
  let reservedMicros ← moneyMicros (field value "reserved_micros") "reserved_micros"
  let chargedMicros ← moneyMicros (field value "charged_micros") "charged_micros"
  let action : SettlementAction ← enumOf (field value "action") "settlement action"
  let workerOutcomeDigest ←
    digestText (field value "worker_outcome_digest") "worker_outcome_digest"
  let decidedAt ← parseUtc (field value "decided_at") "decided_at"
  let fields : WorkerSettlementDecisionFields := {
    decisionId, sequence, supersedesDigest, customerId, workerId, reservationId, reservedMicros,
    chargedMicros, action, winningAttemptId, workerOutcomeDigest, decidedAt }
  build fields.check fun valid => { fields with valid }

def WorkerSettlementDecision.digest (self : WorkerSettlementDecision) : Checked Text :=
  canonicalSha256 1 self.toDocument

/-! ## Matching a reservation -/

/-- The attempt belongs to the reservation, which was there before it. -/
def validateAssignmentReservation (assignment : AttemptAssignment)
    (initialPermit : AssignmentPermit) (binding : AssignmentLedgerBinding)
    (reservation : CustomerCapReservation) : Checked Unit := do
  let digest ← assignment.digest
  require (binding.assignmentDigest = digest ∧ binding.attemptId = assignment.attemptId ∧
      binding.customerId = reservation.customerId ∧ binding.workerId = reservation.workerId ∧
      binding.reservationId = reservation.reservationId ∧
      binding.requestDigest = reservation.requestDigest ∧
      binding.reservedMicros = reservation.reservedMicros)
    (invalid "assignment binding does not match its cap reservation")
  require (initialPermit.assignmentDigest = digest ∧ initialPermit.sequence = 1)
    (invalid "initial permit does not authorize this assignment")
  require (reservation.reservedAt ≤ initialPermit.issuedAt)
    (invalid "attempt was created before its cap reservation")
  require (initialPermit.issuedAt < reservation.expiresAt)
    (invalid "attempt used an expired cap reservation")
  require (initialPermit.expiresAt ≤ reservation.expiresAt)
    (invalid "permit expiry exceeds its cap reservation expiry")
  require (reservation.reservedAt ≤ binding.createdAt ∧ binding.createdAt ≤ initialPermit.issuedAt)
    (invalid "assignment ledger binding time is outside its valid window")

def validateSettlement (reservation : CustomerCapReservation)
    (decision : WorkerSettlementDecision) : Checked Unit := do
  require (decision.customerId = reservation.customerId ∧
      decision.workerId = reservation.workerId ∧
      decision.reservationId = reservation.reservationId ∧
      decision.reservedMicros = reservation.reservedMicros)
    (invalid "settlement does not match its cap reservation")
  require (reservation.reservedAt ≤ decision.decidedAt)
    (invalid "settlement precedes its cap reservation")
  require (decision.decidedAt < reservation.expiresAt ∨ decision.action = .released)
    (invalid "an expired cap reservation must be released uncharged")

def validateSettlementSupersession (reservation : CustomerCapReservation)
    (held resolution : WorkerSettlementDecision) : Checked Unit := do
  validateSettlement reservation held
  validateSettlement reservation resolution
  require (held.sequence = 1 ∧ held.action = .heldPendingCleanup)
    (invalid "only an initial held settlement can be resolved")
  let digest ← held.digest
  require (resolution.sequence = 2 ∧ resolution.supersedesDigest = some digest)
    (invalid "settlement resolution does not supersede the held decision")
  require (resolution.workerOutcomeDigest = held.workerOutcomeDigest)
    (invalid "settlement resolution changes the Worker outcome")
  require (held.decidedAt < resolution.decidedAt)
    (invalid "settlement resolution must follow the held decision")
  require (resolution.decisionId ≠ held.decisionId)
    (invalid "settlement resolution requires a new decision ID")

end Cathedral.Provider
