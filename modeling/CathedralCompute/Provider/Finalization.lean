import CathedralCompute.Provider.Charges
import CathedralCompute.Provider.Documents

/-!
# Workers that can be finalized

Which Workers have a settlement with which their transcript validates. A Worker without a
successful attempt is released. A successful one can only be charged, so it needs a
reserved amount and time left before its reservation expires: a free run, or a success
that ends at or after the expiry, has no settlement at all.

## Main results

* `finalizable_iff` — exactly when a Worker has a settlement
-/

set_option autoImplicit false

namespace Cathedral.Provider

open Codec Semantics

/-! ## Documents that can be written -/

mutual

/-- What is plain has no float. -/
theorem floatFree_of_plain : ∀ value : Json, value.Plain False → floatFree value = true
  | .null, _ => rfl
  | .bool _, _ => rfl
  | .int _, _ => rfl
  | .float (.finite _), impossible => impossible.elim
  | .float (.infinite _), impossible => impossible.elim
  | .float .nan, impossible => impossible.elim
  | .str _, _ => rfl
  | .arr items, plain => itemsFloatFree_of_plain items plain
  | .obj members, plain => membersFloatFree_of_plain members plain.2

theorem itemsFloatFree_of_plain : ∀ items : List Json, Json.PlainItems False items →
    itemsFloatFree items = true
  | [], _ => rfl
  | item :: items, plain =>
    Bool.and_eq_true_iff.mpr
      ⟨floatFree_of_plain item plain.1, itemsFloatFree_of_plain items plain.2⟩

theorem membersFloatFree_of_plain : ∀ members : List (Text × Json),
    Json.PlainMembers False members → membersFloatFree members = true
  | [], _ => rfl
  | (_, value) :: members, plain =>
    Bool.and_eq_true_iff.mpr
      ⟨floatFree_of_plain value plain.2.1, membersFloatFree_of_plain members plain.2.2⟩

end

@[simp] theorem height_str (t : Text) : height (.str t) = 0 := rfl

@[simp] theorem height_int (z : ℤ) : height (.int z) = 0 := rfl

/-- The parts of the value are less than a level below it. -/
theorem height_obj_le {members : List (Text × Json)} {levels : ℕ}
    (each : ∀ member ∈ members, height member.2 ≤ levels) :
    height (.obj members) ≤ levels + 1 := by
  rw [height]
  induction members with
  | nil => exact Nat.zero_le _
  | cons member members ih =>
    obtain ⟨first, rest⟩ := List.forall_mem_cons.mp each
    rw [membersHeight]
    exact max_le (Nat.succ_le_succ first) (ih rest)

theorem height_map_le {α : Type} {write : α → Json} {as : List α} {levels : ℕ}
    (each : ∀ a ∈ as, height (write a) ≤ levels) : height (.arr (as.map write)) ≤ levels + 1 := by
  rw [height]
  induction as with
  | nil => exact Nat.zero_le _
  | cons a as ih =>
    obtain ⟨first, rest⟩ := List.forall_mem_cons.mp each
    rw [List.map_cons, itemsHeight]
    exact max_le (Nat.succ_le_succ first) (ih rest)

theorem height_optionalJson_le {α : Type} {write : α → Json} {o : Option α} {levels : ℕ}
    (each : ∀ a, height (write a) ≤ levels) : height (optionalJson write o) ≤ levels := by
  cases o with
  | none => exact Nat.zero_le _
  | some a => exact each a

theorem dumpable_map {α : Type} {write : α → Json} {as : List α}
    (each : ∀ a ∈ as, (write a).dumpable = true) : (Json.arr (as.map write)).dumpable = true := by
  rw [Json.dumpable]
  induction as with
  | nil => rfl
  | cons a as ih =>
    obtain ⟨first, rest⟩ := List.forall_mem_cons.mp each
    rw [List.map_cons, Json.dumpableItems, first, ih rest, Bool.and_self]

theorem dumpable_optionalJson {α : Type} {write : α → Json} {o : Option α}
    (each : ∀ a, (write a).dumpable = true) : (optionalJson write o).dumpable = true := by
  cases o with
  | none => rfl
  | some a => exact each a

/-! ## The records of an attempt -/

theorem ProviderIdentity.height_le (provider : ProviderIdentity) :
    height provider.toDocument ≤ 1 := by
  have hotkey : height (optionalJson .str provider.subnetHotkey) ≤ 0 :=
    height_optionalJson_le fun _ => le_rfl
  exact height_obj_le (by simpa [members] using hotkey)

theorem AttemptAssignment.height_le (assignment : AttemptAssignment) :
    height assignment.toDocument ≤ 2 :=
  height_obj_le (by simp [members, assignment.provider.height_le])

theorem AssignmentPermit.height_le (permit : AssignmentPermit) : height permit.toDocument ≤ 1 :=
  height_obj_le (by simp [members])

theorem AttemptTransitionEvent.height_le (event : AttemptTransitionEvent) :
    height event.toDocument ≤ 1 := by
  have cleanup : height (optionalJson .str event.cleanupOutcomeDigest) ≤ 0 :=
    height_optionalJson_le fun _ => le_rfl
  have basis : height (optionalJson (fun a => .str (Enumerated.value a)) event.terminalBasis) ≤ 0 :=
    height_optionalJson_le fun _ => le_rfl
  exact height_obj_le (by simpa [members] using And.intro (Nat.le_zero.mp cleanup) (Nat.le_zero.mp basis))

theorem CleanupOutcome.height_le (cleanup : CleanupOutcome) : height cleanup.toDocument ≤ 2 := by
  have digest : height (optionalJson .str cleanup.observationDigest) ≤ 1 :=
    height_optionalJson_le fun _ => Nat.zero_le _
  have deadline : height (optionalJson (fun t => .str (canonicalUtc t))
      cleanup.customerCleanupDeadlineAt) ≤ 1 :=
    height_optionalJson_le fun _ => Nat.zero_le _
  exact height_obj_le
    (by simp [members, cleanup.provider.height_le, digest, deadline])

theorem InterruptionOutcome.height_le (interruption : InterruptionOutcome) :
    height interruption.toDocument ≤ 2 :=
  height_obj_le (by simp [members, interruption.provider.height_le])

theorem AttemptResult.height_le (result : AttemptResult) : height result.toDocument ≤ 1 :=
  height_obj_le (by simp [members])

theorem ProviderIdentity.dumpable (provider : ProviderIdentity) :
    provider.toDocument.dumpable = true := by
  have hotkey : (optionalJson .str provider.subnetHotkey).dumpable = true :=
    dumpable_optionalJson fun _ => rfl
  simp [toDocument, members, Json.dumpable, Json.dumpableMembers, hotkey]

theorem AttemptAssignment.dumpable (assignment : AttemptAssignment) :
    assignment.toDocument.dumpable = true := by
  simp [toDocument, members, Json.dumpable, Json.dumpableMembers, assignment.provider.dumpable]

/-- A permit can be written if its sequence is not too large. -/
theorem AssignmentPermit.dumpable_of_le {permit : AssignmentPermit}
    (small : permit.sequence ≤ maxCanonicalBytes) : permit.toDocument.dumpable = true := by
  have positive := (AssignmentPermitFields.check_eq_ok.mp permit.valid).2.1
  have bounded : permit.sequence.natAbs < 10 ^ 7 := by
    rw [maxCanonicalBytes] at small
    omega
  have digits : (natText permit.sequence.natAbs).length ≤ 7 :=
    length_natDigits_le_of_lt bounded (by decide)
  simp [toDocument, members, Json.dumpable, Json.dumpableMembers, digits.trans]

theorem AttemptTransitionEvent.dumpable (event : AttemptTransitionEvent) :
    event.toDocument.dumpable = true := by
  have cleanup : (optionalJson .str event.cleanupOutcomeDigest).dumpable = true :=
    dumpable_optionalJson fun _ => rfl
  have basis : (optionalJson (fun a => .str (Enumerated.value a)) event.terminalBasis).dumpable =
      true := dumpable_optionalJson fun _ => rfl
  simp [toDocument, members, Json.dumpable, Json.dumpableMembers, cleanup, basis]

theorem CleanupOutcome.dumpable (cleanup : CleanupOutcome) :
    cleanup.toDocument.dumpable = true := by
  have digest : (optionalJson .str cleanup.observationDigest).dumpable = true :=
    dumpable_optionalJson fun _ => rfl
  have deadline : (optionalJson (fun t => .str (canonicalUtc t))
      cleanup.customerCleanupDeadlineAt).dumpable = true :=
    dumpable_optionalJson fun _ => rfl
  simp [toDocument, members, Json.dumpable, Json.dumpableMembers, cleanup.provider.dumpable, digest,
    deadline]

theorem InterruptionOutcome.dumpable (interruption : InterruptionOutcome) :
    interruption.toDocument.dumpable = true := by
  simp [toDocument, members, Json.dumpable, Json.dumpableMembers, interruption.provider.dumpable]

theorem AttemptResult.dumpable (result : AttemptResult) : result.toDocument.dumpable = true := by
  simp [toDocument, members, Json.dumpable, Json.dumpableMembers]

/-! ## The digest of an attempt -/

namespace ProviderAttemptTranscript

variable {self : ProviderAttemptTranscript}

/-- The permits are numbered from 1 on. -/
theorem sequence_of_checkPermits {first : AssignmentPermit}
    (checked : self.checkPermits = .ok first) {i : ℕ} {permit : AssignmentPermit}
    (at_ : self.permits[i]? = some permit) : permit.sequence = i + 1 := by
  simp only [checkPermits, bind_eq_ok, demand_eq_ok, require_eq_ok, pure_eq_ok,
    checkEach_eq_ok] at checked
  obtain ⟨first', head, -, initial, -, -, -, renewals, rfl⟩ := checked
  induction i generalizing permit with
  | zero =>
    rw [← List.head?_eq_getElem?, head] at at_
    obtain rfl := Option.some.inj at_
    simpa using initial
  | succ i ih =>
    have inside := (List.getElem?_eq_some_iff.mp at_).1
    obtain ⟨current, found⟩ : ∃ current, self.permits[i]? = some current :=
      ⟨_, List.getElem?_eq_getElem (by omega)⟩
    have pair : (current, permit) ∈ neighbours self.permits := by
      refine List.mem_of_getElem? (i := i) ?_
      rw [neighbours, List.getElem?_zip_eq_some, List.getElem?_tail]
      exact ⟨found, at_⟩
    have renewal := renewals _ pair
    simp only [validatePermitRenewal, bind_eq_ok, require_eq_ok] at renewal
    obtain ⟨_, _, _, _, _, next, _⟩ := renewal
    rw [next, ih found]
    push_cast
    ring

/-- The encoding of the transcript is within the limit of a canonical document. -/
def Encodable (attempt : ProviderAttemptTranscript) : Prop :=
  ((Json.obj attempt.members).render canonicalStyle).length ≤ maxCanonicalBytes

theorem height_members_le : height (.obj self.members) ≤ 3 := by
  have permits : height (.arr (self.permits.map AssignmentPermit.toDocument)) ≤ 2 :=
    height_map_le fun permit _ => permit.height_le
  have events : height (.arr (self.events.map AttemptTransitionEvent.toDocument)) ≤ 2 :=
    height_map_le fun event _ => event.height_le
  have interruption : height (optionalJson InterruptionOutcome.toDocument self.interruption) ≤ 2 :=
    height_optionalJson_le fun interruption => interruption.height_le
  have result : height (optionalJson AttemptResult.toDocument self.result) ≤ 2 :=
    height_optionalJson_le fun result => result.height_le.trans (by decide)
  refine height_obj_le ?_
  simp [members, permits, events, interruption, result, self.assignment.height_le,
    self.cleanup.height_le]

/-- An encodable transcript that is in order can be written. -/
theorem dumpable_of_encodable {first : AssignmentPermit} (checked : self.checkPermits = .ok first)
    (encodable : self.Encodable) : (Json.obj self.members).dumpable = true := by
  have few : self.permits.length ≤ maxCanonicalBytes := by
    have charged := (cost_le_length_render (.obj self.members)).trans encodable
    simp only [members, cost, membersCost, bracketCost, List.length_map] at charged
    omega
  have permits : (Json.arr (self.permits.map AssignmentPermit.toDocument)).dumpable = true := by
    refine dumpable_map fun permit member => ?_
    obtain ⟨i, at_⟩ := List.getElem?_of_mem member
    have inside := (List.getElem?_eq_some_iff.mp at_).1
    have number := sequence_of_checkPermits checked at_
    exact AssignmentPermit.dumpable_of_le (by rw [number]; omega)
  have events : (Json.arr (self.events.map AttemptTransitionEvent.toDocument)).dumpable = true :=
    dumpable_map fun event _ => event.dumpable
  have interruption :
      (optionalJson InterruptionOutcome.toDocument self.interruption).dumpable = true :=
    dumpable_optionalJson fun interruption => interruption.dumpable
  have result : (optionalJson AttemptResult.toDocument self.result).dumpable = true :=
    dumpable_optionalJson fun result => result.dumpable
  have name : (Json.str schema).dumpable = true := rfl
  refine Json.forall_mem_dumpableMembers.mpr ?_
  simp [members, name, self.assignment.dumpable, permits, events, self.cleanup.dumpable,
    interruption, result]

/-- A transcript that is in order has a digest exactly where it is encodable. -/
theorem digest_isOk {state : AttemptState} (valid : self.validate = .ok state) :
    (∃ digest, self.digest = .ok digest) ↔ self.Encodable := by
  obtain ⟨firstPermit, _, _, _, permits, _⟩ := of_validate valid
  have deep : 0 + height (.obj self.members) ≤ maxDepth := by
    have shallow := @height_members_le self
    rw [maxDepth]
    omega
  have free := floatFree_of_plain _ self.plain_members
  have written : (∃ digest, self.digest = .ok digest) ↔
      ∃ data, canonicalJsonBytes 0 (.obj self.members) = .ok data := by
    simp only [digest, toDocument, valid, canonicalSha256, bind_eq_ok, pure_eq_ok, map_eq_ok]
    constructor
    · rintro ⟨_, _, ⟨_, _, rfl⟩, data, made, -⟩
      exact ⟨data, made⟩
    · rintro ⟨data, made⟩
      exact ⟨_, _, ⟨state, rfl, rfl⟩, data, made, rfl⟩
  rw [written]
  constructor
  · rintro ⟨data, made⟩
    obtain ⟨-, -, -, dumpable, -⟩ := canonicalJsonBytes_eq_ok.mp made
    exact (canonicalJsonBytes_isOk free deep dumpable).mp ⟨data, made⟩
  · intro encodable
    exact (canonicalJsonBytes_isOk free deep (dumpable_of_encodable permits encodable)).mpr encodable

end ProviderAttemptTranscript

theorem isDigest_of_canonicalSha256 {depth : ℕ} {value : Json} {digest : Text}
    (digested : canonicalSha256 depth value = .ok digest) :
    Text.isDigest "sha256:" digest = true := by
  obtain ⟨data, -, rfl⟩ := map_eq_ok.mp digested
  exact isDigest_sha256Digest data

/-! ## The digest of a Worker without an attempt -/

/-- An outcome of a Worker that was never assigned has a digest. -/
theorem UnassignedDispatchOutcome.digest_isOk (outcome : UnassignedDispatchOutcome) :
    ∃ digest, outcome.digest = .ok digest := by
  obtain ⟨isOutcome, isWorker, isRequest, isRouting⟩ :=
    UnassignedDispatchOutcomeFields.check_eq_ok.mp outcome.valid
  have free := floatFree_of_plain _ outcome.plain_toDocument
  have deep : 1 + height outcome.toDocument ≤ maxDepth := Nat.le_of_ble_eq_true rfl
  have short : (outcome.toDocument.render canonicalStyle).length ≤ maxCanonicalBytes := by
    have observed : (canonicalUtc outcome.observedAt).length = 27 :=
      Instant.length_canonicalUtc outcome.observedAt.isLt
    have reason : (Enumerated.value outcome.reason : Text).length ≤ 128 := by
      cases outcome.reason <;> decide
    have bound := @length_renderMembers_le outcome.members (by
      simp only [members, List.forall_mem_cons, List.not_mem_nil, false_implies, implies_true,
        and_true]
      exact ⟨⟨by decide, _, rfl, by decide⟩, ⟨by decide, _, rfl, length_le_of_isId isOutcome⟩,
        ⟨by decide, _, rfl, length_le_of_isId isWorker⟩,
        ⟨by decide, _, rfl, (length_of_isDigest isRequest).trans_le (by decide)⟩,
        ⟨by decide, _, rfl, reason⟩,
        ⟨by decide, _, rfl, (length_of_isDigest isRouting).trans_le (by decide)⟩,
        ⟨by decide, _, rfl, observed.trans_le (by decide)⟩⟩)
    have count : outcome.members.length = 7 := rfl
    rw [count] at bound
    rw [toDocument, length_render_obj, maxCanonicalBytes]
    omega
  obtain ⟨data, written⟩ := (canonicalJsonBytes_isOk free deep rfl).mpr short
  exact ⟨_, map_eq_ok.mpr ⟨data, written, rfl⟩⟩

/-! ## Settlements -/

namespace WorkerExecutionTranscript

/-- The Worker with these settlements. -/
def settledBy (worker : WorkerExecutionTranscript) (settlements : List WorkerSettlementDecision) :
    WorkerExecutionTranscript := { worker with settlements }

/-- Everything that validation checks of the attempts or of the unassigned outcome. -/
structure AttemptsPass (worker : WorkerExecutionTranscript) : Prop where
  few : worker.attempts.length ≤ maxWorkerAttempts
  either : worker.attempts.isEmpty = worker.unassignedDispatch.isSome
  each : worker.attempts ≠ [] → worker.bindings.length = worker.attempts.length
  unbound : worker.unassignedDispatch.isSome → worker.bindings = []
  checked : ∃ terminalStates, worker.checkAttempts = .ok terminalStates
  unassigned : ∀ outcome ∈ worker.unassignedDispatch,
    outcome.workerId = worker.reservation.workerId ∧
      outcome.requestDigest = worker.reservation.requestDigest

/-- The last attempt is encodable, and where it succeeded there is an amount to charge and
time to charge it in. -/
structure Finalizable (worker : WorkerExecutionTranscript) : Prop where
  encodable : ∀ attempt ∈ worker.attempts.getLast?, attempt.Encodable
  payable : ∀ attempt ∈ worker.attempts.getLast?, ∀ last ∈ attempt.events.getLast?,
    last.target = .succeeded →
      0 < worker.reservation.reservedMicros ∧ last.occurredAt < worker.reservation.expiresAt

/-- The first decision on a reservation. -/
def initialDecision (reservation : CustomerCapReservation) (action : SettlementAction)
    (chargedMicros : ℤ) (winningAttemptId : Option Text) (workerOutcomeDigest : Text)
    (decidedAt : Utc) : WorkerSettlementDecisionFields where
  decisionId := "decision-1"
  sequence := 1
  supersedesDigest := none
  customerId := reservation.customerId
  workerId := reservation.workerId
  reservationId := reservation.reservationId
  reservedMicros := reservation.reservedMicros
  chargedMicros := chargedMicros
  action := action
  winningAttemptId := winningAttemptId
  workerOutcomeDigest := workerOutcomeDigest
  decidedAt := decidedAt

theorem initialDecision_check {reservation : CustomerCapReservation} {action : SettlementAction}
    {chargedMicros : ℤ} {winningAttemptId : Option Text} {workerOutcomeDigest : Text}
    {decidedAt : Utc} (charge : 0 ≤ chargedMicros ∧ chargedMicros ≤ reservation.reservedMicros)
    (digest : Text.isDigest "sha256:" workerOutcomeDigest = true)
    (acted : checkAction (initialDecision reservation action chargedMicros winningAttemptId
      workerOutcomeDigest decidedAt) = .ok ()) :
    (initialDecision reservation action chargedMicros winningAttemptId workerOutcomeDigest
      decidedAt).check = .ok () := by
  obtain ⟨isCustomer, isWorker, isReservation, -, reserved, -⟩ :=
    CustomerCapReservationFields.check_eq_ok.mp reservation.valid
  have named : isId "decision-1" = true := by decide
  refine WorkerSettlementDecisionFields.check_eq_ok.mpr ⟨named, isCustomer, isWorker,
    isReservation, .inl rfl, ?_, reserved, ⟨charge.1, charge.2.trans reserved.2⟩, charge.2, digest,
    acted, fun second => absurd second (by decide : (1 : ℤ) ≠ 2)⟩
  exact checkSupersedes_eq_ok.mpr ⟨⟨fun _ => rfl, fun _ => rfl⟩, fun _ absent => (nomatch absent)⟩

variable {worker : WorkerExecutionTranscript}

/-- One settlement that is final and matches its reservation and the outcome. -/
theorem validate_of_settlement (pass : worker.AttemptsPass) {decision : WorkerSettlementDecision}
    {terminalStates : List AttemptState}
    (attempts : worker.checkAttempts = .ok terminalStates)
    (own : validateSettlement worker.reservation decision = .ok ())
    (closes : decision.action ≠ .heldPendingCleanup)
    (outcome : (worker.settledBy [decision]).checkOutcome decision
      (successIndexes terminalStates) = .ok ()) :
    ∃ action, (worker.settledBy [decision]).validate = .ok action := by
  refine ⟨decision.action, ?_⟩
  simp only [validate, bind_eq_ok, pure_eq_ok]
  refine ⟨(), ?_, terminalStates, attempts, decision, ?_, (), outcome, rfl⟩
  · simp only [checkShape, bind_eq_ok, require_eq_ok]
    exact ⟨(), pass.few, (), pass.either, (), pass.each, (), pass.unbound, .inl rfl⟩
  · simp only [checkSettlements, bind_eq_ok, demand_eq_ok, require_eq_ok, pure_eq_ok,
      checkEach_eq_ok]
    refine ⟨(), ?_, (), ?_, (), ?_, decision, rfl, (), closes, rfl⟩
    · intro item member
      rw [List.mem_singleton.mp member]
      exact own
    · exact List.nodup_singleton _
    · simpa [checkSuccession, settledBy] using closes

/-- A decision at a time that follows the reservation and the outcome. -/
theorem validateSettlement_initial {reservation : CustomerCapReservation}
    {decision : WorkerSettlementDecision} {action : SettlementAction} {chargedMicros : ℤ}
    {winningAttemptId : Option Text} {workerOutcomeDigest : Text} {decidedAt : Utc}
    (fields : decision.toWorkerSettlementDecisionFields = initialDecision reservation action
      chargedMicros winningAttemptId workerOutcomeDigest decidedAt)
    (after : reservation.reservedAt ≤ decidedAt)
    (open_ : decidedAt < reservation.expiresAt ∨ action = .released) :
    validateSettlement reservation decision = .ok () := by
  simp only [validateSettlement, bind_eq_ok, require_eq_ok, fields, initialDecision]
  exact ⟨(), ⟨trivial, trivial, trivial, trivial⟩, (), after, open_⟩

/-- A released decision. -/
def released (reservation : CustomerCapReservation) (workerOutcomeDigest : Text)
    (digest : Text.isDigest "sha256:" workerOutcomeDigest = true) (decidedAt : Utc) :
    WorkerSettlementDecision where
  toWorkerSettlementDecisionFields :=
    initialDecision reservation .released 0 none workerOutcomeDigest decidedAt
  valid := by
    obtain ⟨-, -, -, -, reserved, -⟩ :=
      CustomerCapReservationFields.check_eq_ok.mp reservation.valid
    refine initialDecision_check ⟨le_rfl, reserved.1⟩ digest (checkAction_eq_ok.mpr ?_)
    simp [initialDecision]

/-- A decision that charges all that is reserved. -/
def charged (reservation : CustomerCapReservation) (winner : AttemptAssignment)
    (workerOutcomeDigest : Text) (digest : Text.isDigest "sha256:" workerOutcomeDigest = true)
    (decidedAt : Utc) (positive : 0 < reservation.reservedMicros) : WorkerSettlementDecision where
  toWorkerSettlementDecisionFields := initialDecision reservation .charged
    reservation.reservedMicros (some winner.attemptId) workerOutcomeDigest decidedAt
  valid := by
    have isWinner := (AttemptAssignmentFields.check_eq_ok.mp winner.valid).1
    refine initialDecision_check ⟨positive.le, le_rfl⟩ digest (checkAction_eq_ok.mpr ?_)
    simp [initialDecision, positive, isWinner]

/-- A Worker without an attempt is released. -/
theorem settled_of_unassigned (pass : worker.AttemptsPass) {outcome : UnassignedDispatchOutcome}
    (unassigned : worker.unassignedDispatch = some outcome) :
    ∃ settlements action, (worker.settledBy settlements).validate = .ok action := by
  obtain ⟨digest, digested⟩ := outcome.digest_isOk
  obtain ⟨terminalStates, attempts⟩ := pass.checked
  obtain ⟨worker_, request⟩ := pass.unassigned outcome unassigned
  let decidedAt := max worker.reservation.reservedAt outcome.observedAt
  let decision := released worker.reservation digest (isDigest_of_canonicalSha256 digested) decidedAt
  refine ⟨[decision], validate_of_settlement pass attempts
    (validateSettlement_initial rfl (le_max_left _ _) (.inr rfl)) SettlementAction.noConfusion ?_⟩
  simp only [checkOutcome, settledBy, unassigned, checkUnassigned, bind_eq_ok, require_eq_ok]
  refine ⟨(), worker_, (), request, (), ?_, (), rfl, digest, digested, (), rfl, le_max_right _ _⟩
  intro settlement first
  rw [← Option.some.inj first]
  exact SettlementAction.noConfusion

/-- What validation says of the last attempt. -/
structure Final (worker : WorkerExecutionTranscript) (terminalStates : List AttemptState)
    (attempt : ProviderAttemptTranscript) (last : AttemptTransitionEvent) : Prop where
  ends : attempt.events.getLast? = some last
  valid : attempt.validate = .ok last.target
  terminal : validateTerminalTransition last attempt.cleanup = .ok ()
  succeeded : last.target = .succeeded → (successIndexes terminalStates).length = 1
  failed : last.target ≠ .succeeded → successIndexes terminalStates = []

theorem final_of_checkAttempts {terminalStates : List AttemptState}
    {attempt : ProviderAttemptTranscript} (checked : worker.checkAttempts = .ok terminalStates)
    (isLast : worker.attempts.getLast? = some attempt) :
    ∃ last, Final worker terminalStates attempt last := by
  obtain ⟨run, lastIndex⟩ := states_of_check checked
  simp only [checkAttempts, bind_eq_ok, require_eq_ok, pure_eq_ok] at checked
  obtain ⟨_, -, -, -, -, -, -, -, -, -, -, single, -, -, same⟩ := checked
  rw [same] at single
  have atLast : worker.attempts[worker.attempts.length - 1]? = some attempt := by
    rw [← List.getLast?_eq_getElem?, isLast]
  obtain ⟨state, found, valid⟩ := getElem?_of_forall₂ (forall₂_of_mapM run) atLast
  obtain ⟨_, _, entry, last, _, _, ending, _, _, target⟩ :=
    ProviderAttemptTranscript.of_validate valid
  have ending := ProviderAttemptTranscript.ending_of_check ending
  refine ⟨last, ending.ends, target ▸ valid, ending.terminal, fun success => ?_, fun failure => ?_⟩
  · have member := mem_successIndexes.mpr (found.trans (by rw [← target, success]))
    have filled := List.length_pos_of_mem member
    omega
  · -- A success would be at the last place.
    cases places : successIndexes terminalStates with
    | nil => rfl
    | cons index rest =>
      have here := lastIndex index (by rw [places]; rfl)
      have success := mem_successIndexes.mp (by rw [places]; exact List.mem_cons_self)
      rw [here, found] at success
      exact absurd (target.trans (Option.some.inj success)) failure

/-- An encodable Worker that did not succeed is released. -/
theorem settled_of_failure (pass : worker.AttemptsPass) {terminalStates : List AttemptState}
    (checked : worker.checkAttempts = .ok terminalStates) {attempt : ProviderAttemptTranscript}
    (isLast : worker.attempts.getLast? = some attempt) (assigned : worker.unassignedDispatch = none)
    {last : AttemptTransitionEvent} (final : Final worker terminalStates attempt last)
    (failed : last.target ≠ .succeeded) (encodable : attempt.Encodable) :
    ∃ settlements action, (worker.settledBy settlements).validate = .ok action := by
  obtain ⟨digest, digested⟩ := (ProviderAttemptTranscript.digest_isOk final.valid).mpr encodable
  have isDigest : Text.isDigest "sha256:" digest = true := by
    obtain ⟨_, -, digested⟩ := bind_eq_ok.mp digested
    exact isDigest_of_canonicalSha256 digested
  let decidedAt := max worker.reservation.reservedAt last.occurredAt
  let decision := released worker.reservation digest isDigest decidedAt
  refine ⟨[decision], validate_of_settlement pass checked
    (validateSettlement_initial rfl (le_max_left _ _) (.inr rfl)) SettlementAction.noConfusion ?_⟩
  have released : decision.action = .released := rfl
  simp only [checkOutcome, settledBy, assigned, checkAssigned, checkSettled, checkReleased, isLast,
    bind_eq_ok, demand_eq_ok, require_eq_ok]
  refine ⟨attempt, rfl, last, final.ends, (), le_max_right _ _, ?_⟩
  rw [if_neg (by rw [released]; exact SettlementAction.noConfusion)]
  simp only [bind_eq_ok, require_eq_ok]
  exact ⟨(), final.failed failed, digest, digested, rfl⟩

/-- An encodable Worker that succeeded is charged, where there is an amount and time. -/
theorem settled_of_success (pass : worker.AttemptsPass) {terminalStates : List AttemptState}
    (checked : worker.checkAttempts = .ok terminalStates) {attempt : ProviderAttemptTranscript}
    (isLast : worker.attempts.getLast? = some attempt) (assigned : worker.unassignedDispatch = none)
    {last : AttemptTransitionEvent} (final : Final worker terminalStates attempt last)
    (success : last.target = .succeeded) (encodable : attempt.Encodable)
    (positive : 0 < worker.reservation.reservedMicros)
    (inTime : last.occurredAt < worker.reservation.expiresAt) :
    ∃ settlements action, (worker.settledBy settlements).validate = .ok action := by
  obtain ⟨digest, digested⟩ := (ProviderAttemptTranscript.digest_isOk final.valid).mpr encodable
  have isDigest : Text.isDigest "sha256:" digest = true := by
    obtain ⟨_, -, digested⟩ := bind_eq_ok.mp digested
    exact isDigest_of_canonicalSha256 digested
  obtain ⟨-, -, -, -, -, window⟩ := CustomerCapReservationFields.check_eq_ok.mp worker.reservation.valid
  let decidedAt := max worker.reservation.reservedAt last.occurredAt
  let decision := charged worker.reservation attempt.assignment digest isDigest decidedAt positive
  refine ⟨[decision], validate_of_settlement pass checked (validateSettlement_initial rfl
    (le_max_left _ _) (.inl (max_lt window inTime))) SettlementAction.noConfusion ?_⟩
  have charged : decision.action = .charged := rfl
  have won := ProviderAttemptTranscript.succeeded_of_validate (success ▸ final.valid)
  have basis : last.terminalBasis = some .providerAbsence := by
    have terminal := final.terminal
    simp only [validateTerminalTransition, bind_eq_ok, require_eq_ok] at terminal
    obtain ⟨_, _, _, _, _, _, _, _, _, _, _, _, _, _, basis⟩ := terminal
    unfold checkTerminalBasis at basis
    split at basis
    · assumption
    · simp only [bind_eq_ok, require_eq_ok] at basis
      exact absurd success basis.choose_spec.1
    · cases basis
  simp only [checkOutcome, settledBy, assigned, checkAssigned, checkSettled, checkWinner, isLast,
    bind_eq_ok, demand_eq_ok, require_eq_ok]
  refine ⟨attempt, rfl, last, final.ends, (), le_max_right _ _, ?_⟩
  rw [if_pos charged]
  simp only [bind_eq_ok, require_eq_ok]
  exact ⟨(), final.succeeded success, (), rfl, digest, digested, (), rfl, (), basis, won.absent⟩

/-- What a settlement of a Worker needs. -/
theorem finalizable_of_validate {settlements : List WorkerSettlementDecision}
    {action : SettlementAction} (valid : (worker.settledBy settlements).validate = .ok action) :
    worker.Finalizable := by
  obtain ⟨terminalStates, final, shape, attempts, settled, outcome, acted⟩ := of_validate valid
  obtain ⟨ends, succession, each⟩ := final_of_check settled
  have listed := List.mem_of_getLast? ends
  simp only [checkShape, bind_eq_ok, require_eq_ok] at shape
  obtain ⟨-, -, -, either, -⟩ := shape
  have assigned {attempt : ProviderAttemptTranscript} (isLast : worker.attempts.getLast? = some attempt) :
      ∃ last, Final (worker.settledBy settlements) terminalStates attempt last ∧
        last.occurredAt ≤ final.decidedAt ∧
        checkSettled attempt last final (successIndexes terminalStates) = .ok () := by
    obtain ⟨last, ending⟩ := final_of_checkAttempts attempts isLast
    have none : worker.unassignedDispatch = none := by
      have filled : worker.attempts.isEmpty = false :=
        List.isEmpty_eq_false_iff.mpr (List.ne_nil_of_mem (List.mem_of_getLast? isLast))
      exact Option.isSome_eq_false_iff.mp (either.symm.trans filled) |> Option.isNone_iff_eq_none.mp
    simp only [checkOutcome, settledBy, none, checkAssigned, isLast, bind_eq_ok,
      demand_eq_ok, require_eq_ok] at outcome
    obtain ⟨_, same, _, ends', _, decided, outcome⟩ := outcome
    obtain rfl := Option.some.inj same
    obtain rfl := Option.some.inj (ending.ends.symm.trans ends')
    exact ⟨_, ending, decided, outcome⟩
  constructor
  · intro attempt isLast
    obtain ⟨last, ending, -, outcome⟩ := assigned isLast
    refine (ProviderAttemptTranscript.digest_isOk ending.valid).mp ?_
    unfold checkSettled at outcome
    split at outcome
    · simp only [checkWinner, bind_eq_ok] at outcome
      obtain ⟨_, _, _, _, digest, digested, _⟩ := outcome
      exact ⟨digest, digested⟩
    · simp only [checkReleased, bind_eq_ok] at outcome
      obtain ⟨_, _, digest, digested, _⟩ := outcome
      exact ⟨digest, digested⟩
  · intro attempt isLast last isEnd success
    obtain ⟨last', ending, decided, outcome⟩ := assigned isLast
    obtain rfl := Option.some.inj (ending.ends.symm.trans isEnd)
    unfold checkSettled at outcome
    split at outcome
    case isTrue charged =>
      have consistent := final.consistent
      have matching := each final listed
      simp only [validateSettlement, bind_eq_ok, require_eq_ok] at matching
      obtain ⟨-, ⟨-, -, -, reserved⟩, -, -, inside⟩ := matching
      have open_ := inside.resolve_right (by rw [charged]; exact SettlementAction.noConfusion)
      have reserved : final.reservedMicros = worker.reservation.reservedMicros := reserved
      exact ⟨reserved ▸ (consistent.charged charged).2.trans_le consistent.capped,
        decided.trans_lt open_⟩
    case isFalse =>
      -- A success cannot be released.
      simp only [checkReleased, bind_eq_ok, require_eq_ok] at outcome
      obtain ⟨_, none, _⟩ := outcome
      have single := ending.succeeded success
      rw [none] at single
      cases single

/-- **Finalization.** A Worker whose attempts pass has a settlement exactly when its last
attempt is encodable and, where it succeeded, there is an amount to charge and time left. -/
theorem finalizable_iff (worker : WorkerExecutionTranscript) (pass : worker.AttemptsPass) :
    (∃ settlements action, (worker.settledBy settlements).validate = .ok action) ↔
      worker.Finalizable := by
  constructor
  · rintro ⟨settlements, action, valid⟩
    exact finalizable_of_validate valid
  · rintro ⟨encodable, payable⟩
    obtain ⟨terminalStates, checked⟩ := pass.checked
    cases unassigned : worker.unassignedDispatch with
    | some outcome => exact settled_of_unassigned pass unassigned
    | none =>
      have filled : worker.attempts.isEmpty = false := pass.either.trans (by rw [unassigned]; rfl)
      cases isLast : worker.attempts.getLast? with
      | none =>
        rw [List.getLast?_eq_none_iff.mp isLast] at filled
        cases filled
      | some attempt =>
        obtain ⟨last, final⟩ := final_of_checkAttempts checked isLast
        by_cases success : last.target = .succeeded
        · obtain ⟨positive, inTime⟩ := payable attempt isLast last final.ends success
          exact settled_of_success pass checked isLast unassigned final success
            (encodable attempt isLast) positive inTime
        · exact settled_of_failure pass checked isLast unassigned final success
            (encodable attempt isLast)

end WorkerExecutionTranscript

/-! ## A free run -/

namespace FreeRun

/-- A digest text of one repeated digit. -/
def someDigest : Text := Text.ofString "sha256:" ++ List.replicate 64 0x61

/-- Seconds after the start of 2024. -/
def second (n : ℕ) : Utc := Fin.ofNat _ ((63839664000 + n) * 1000000)

def provider : ProviderIdentity where
  kind := .cathedralSeed
  providerId := "seed"
  subnetHotkey := none
  valid := by decide +kernel

def assignment : AttemptAssignment where
  attemptId := "attempt"
  provider := provider
  slotId := "slot"
  providerNonce := List.replicate 64 0x61
  workloadManifestDigest := someDigest
  policyDigest := someDigest
  imageDigest := someDigest
  valid := by decide +kernel

def assignmentDigest : Text :=
  "sha256:1dda6e8b5780632577995bb80bbe50ae0f847a25d2a6b7b3b6bb2cb707914a6c"

def permit : AssignmentPermit where
  assignmentDigest := assignmentDigest
  sequence := 1
  issuedAt := second 0
  expiresAt := second 20
  keyId := "key"
  authorizationDigest := someDigest
  valid := by decide +kernel

def result : AttemptResult where
  attemptId := "attempt"
  assignmentDigest := assignmentDigest
  quoteDigest := someDigest
  attestedNonce := List.replicate 64 0x61
  measurementDigest := someDigest
  resultPayloadDigest := someDigest
  producedAt := second 6
  receivedAt := second 6
  valid := by decide +kernel

def resultDigest : Text :=
  "sha256:a93d1775b6c9530f011b002ba26f7fdaf959a0061c00708c382c90ae6fa28ae3"

def cleanup : CleanupOutcome where
  attemptId := "attempt"
  assignmentDigest := assignmentDigest
  provider := provider
  slotId := "slot"
  path := .success
  absenceStatus := .provenAbsent
  requestedAt := second 8
  observedAt := second 8
  observationDigest := some someDigest
  customerCleanupDeadlineAt := none
  valid := by decide +kernel

def cleanupDigest : Text :=
  "sha256:3e7f9f386eeb48400c345e88392d86401474cec0514df68a901d42f6a85d547d"

/-- A transition at its second. -/
def event (n : ℕ) (current target : AttemptState) (detailDigest : Text := someDigest)
    (cleanupOutcomeDigest : Option Text := none) (terminalBasis : Option TerminalBasis := none) :
    AttemptTransitionEventFields where
  eventId := [digit n]
  attemptId := "attempt"
  assignmentDigest := assignmentDigest
  current := current
  target := target
  occurredAt := second n
  detailDigest := detailDigest
  cleanupOutcomeDigest := cleanupOutcomeDigest
  terminalBasis := terminalBasis

def firstEvent : AttemptTransitionEvent :=
  ⟨event 0 .dispatchPending .slotClaimed, by decide +kernel⟩

def resultEvent : AttemptTransitionEvent :=
  ⟨event 6 .running .resultReceived resultDigest, by decide +kernel⟩

def cleanupEvent : AttemptTransitionEvent :=
  ⟨event 8 .evidenceVerified .successCleanupPending, by decide +kernel⟩

def lastEvent : AttemptTransitionEvent :=
  ⟨event 9 .successCleanupPending .succeeded someDigest (some cleanupDigest)
    (some .providerAbsence), by decide +kernel⟩

/-- An attempt that took the whole path to success. -/
def attempt : ProviderAttemptTranscript where
  assignment := assignment
  permits := [permit]
  events := [
    firstEvent,
    ⟨event 1 .slotClaimed .assignmentSent, by decide +kernel⟩,
    ⟨event 2 .assignmentSent .acknowledged, by decide +kernel⟩,
    ⟨event 3 .acknowledged .attesting, by decide +kernel⟩,
    ⟨event 4 .attesting .running, by decide +kernel⟩,
    resultEvent,
    ⟨event 7 .resultReceived .evidenceVerified, by decide +kernel⟩,
    cleanupEvent,
    lastEvent]
  cleanup := cleanup
  interruption := none
  result := some result

def binding : AssignmentLedgerBinding where
  bindingId := "binding"
  assignmentDigest := assignmentDigest
  customerId := "customer"
  workerId := "worker"
  attemptId := "attempt"
  attemptNumber := 1
  retryParentAttemptId := none
  reservationId := "reservation"
  requestDigest := someDigest
  reservedMicros := 0
  createdAt := second 0
  valid := by decide +kernel

/-- A reservation of nothing. -/
def reservation : CustomerCapReservation where
  customerId := "customer"
  workerId := "worker"
  reservationId := "reservation"
  requestDigest := someDigest
  reservedMicros := 0
  reservedAt := second 0
  expiresAt := second 30
  valid := by decide +kernel

/-- A Worker that succeeded without a reserved amount. -/
def worker : WorkerExecutionTranscript where
  reservation := reservation
  bindings := [binding]
  attempts := [attempt]
  unassignedDispatch := none
  settlements := []

/-- The three digests of the attempt. -/
theorem digests : assignment.digest = .ok assignmentDigest ∧ result.digest = .ok resultDigest ∧
    cleanup.digest = .ok cleanupDigest :=
  ⟨by decide +kernel, by decide +kernel, by decide +kernel⟩

theorem assignment_digest : assignment.digest = .ok assignmentDigest := digests.1

theorem result_digest : result.digest = .ok resultDigest := digests.2.1

theorem cleanup_digest : cleanup.digest = .ok cleanupDigest := digests.2.2

theorem attempt_checkPermits : attempt.checkPermits = .ok permit := by
  simp only [ProviderAttemptTranscript.checkPermits, validateAssignmentPermit, bind_eq_ok,
    demand_eq_ok, require_eq_ok, pure_eq_ok, checkEach_eq_ok]
  refine ⟨permit, rfl, (), rfl, (), ?_, (), ?_, rfl⟩
  · intro item member
    rw [List.mem_singleton.mp member]
    exact ⟨_, assignment_digest, (), rfl, (), by decide +kernel, by decide +kernel⟩
  · exact fun pair outside => absurd outside List.not_mem_nil

/-- Events of the assignment with distinct names pass. -/
theorem checkEventIds_of_digest {seen : List Text} {events : List AttemptTransitionEvent}
    (own : ∀ event ∈ events, event.attemptId = assignment.attemptId ∧
      event.assignmentDigest = assignmentDigest)
    (fresh : ∀ event ∈ events, event.eventId ∉ seen)
    (distinct : (events.map (·.eventId)).Nodup) :
    ProviderAttemptTranscript.checkEventIds assignment seen events = .ok () := by
  induction events generalizing seen with
  | nil => rfl
  | cons event events ih =>
    obtain ⟨ownFirst, ownRest⟩ := List.forall_mem_cons.mp own
    obtain ⟨freshFirst, freshRest⟩ := List.forall_mem_cons.mp fresh
    rw [List.map_cons, List.nodup_cons] at distinct
    simp only [ProviderAttemptTranscript.checkEventIds, validateTransitionAssignment, bind_eq_ok,
      require_eq_ok]
    refine ⟨(), freshFirst, (), ⟨_, assignment_digest, ownFirst⟩,
      ih ownRest (fun later member => ?_) distinct.2⟩
    intro listed
    rcases List.mem_cons.mp listed with same | before
    · exact distinct.1 (same ▸ List.mem_map.mpr ⟨later, member, rfl⟩)
    · exact freshRest later member before

theorem attempt_checkEvents : attempt.checkEvents permit = .ok firstEvent := by
  simp only [ProviderAttemptTranscript.checkEvents, bind_eq_ok,
    demand_eq_ok, require_eq_ok, pure_eq_ok, checkEach_eq_ok]
  refine ⟨(), by decide, firstEvent, rfl, (), rfl, (), by decide +kernel, (), ?_, (), ?_, (), ?_, (),
    ?_, rfl⟩
  · exact checkEventIds_of_digest (by decide +kernel) (fun _ _ => List.not_mem_nil)
      (by decide +kernel)
  · decide +kernel
  · decide +kernel
  · decide +kernel

theorem attempt_checkEnd : attempt.checkEnd = .ok (cleanupEvent, lastEvent) := by
  simp only [ProviderAttemptTranscript.checkEnd, validateCleanupAssignment,
    validateTerminalTransition, bind_eq_ok, demand_eq_ok, require_eq_ok, pure_eq_ok]
  exact ⟨(), by decide +kernel, lastEvent, rfl, (), by decide +kernel, cleanupEvent, rfl, (),
    by decide +kernel, (), ⟨_, assignment_digest, rfl, rfl, rfl, rfl⟩, (),
    ⟨(), by decide +kernel, (), rfl, (), rfl, (), by decide +kernel, _, cleanup_digest, (), rfl, (),
      by decide +kernel, by decide +kernel⟩, rfl⟩

theorem attempt_checkResult : attempt.checkResult = .ok () := by
  have received : attempt.resultEvents = [resultEvent] := by decide +kernel
  simp only [ProviderAttemptTranscript.checkResult, received, List.length_singleton, List.head?_cons,
    ProviderAttemptTranscript.checkResultEvent, validateResultAssignment, bind_eq_ok, demand_eq_ok,
    require_eq_ok]
  exact ⟨(), le_rfl, result, rfl, (), ⟨_, assignment_digest, (), ⟨rfl, rfl⟩, (), rfl, rfl⟩, _,
    result_digest, (), rfl, by decide +kernel⟩

theorem attempt_validate : attempt.validate = .ok .succeeded := by
  simp only [ProviderAttemptTranscript.validate, bind_eq_ok, pure_eq_ok]
  exact ⟨permit, attempt_checkPermits, firstEvent, attempt_checkEvents, _, attempt_checkEnd, (),
    attempt_checkResult, (), rfl, rfl⟩

theorem worker_checkAttempts : worker.checkAttempts = .ok [.succeeded] := by
  simp only [WorkerExecutionTranscript.checkAttempts, bind_eq_ok, require_eq_ok, pure_eq_ok,
    checkEach_eq_ok]
  refine ⟨_, ?_, (), List.nodup_singleton _, (), List.nodup_singleton _, (), ?_, (), ?_, (), le_rfl,
    (), ?_, rfl⟩
  · show [attempt].mapM ProviderAttemptTranscript.validate = _
    simp only [List.mapM_cons, attempt_validate]
    rfl
  · show WorkerExecutionTranscript.checkBindings reservation 1 none [(binding, attempt)] = _
    simp only [WorkerExecutionTranscript.checkBindings, validateAssignmentReservation, bind_eq_ok,
      demand_eq_ok, require_eq_ok, checkEach_eq_ok]
    exact ⟨permit, rfl, (), ⟨_, assignment_digest, (), ⟨rfl, rfl, rfl, rfl, rfl, rfl, rfl⟩, (),
      ⟨rfl, rfl⟩, (), by decide +kernel, (), by decide +kernel, (), by decide +kernel,
      by decide +kernel⟩, (), rfl, (), rfl, (), by decide +kernel, trivial⟩
  · exact fun pair outside => absurd outside List.not_mem_nil
  · decide

theorem worker_attemptsPass : worker.AttemptsPass where
  few := by decide
  either := rfl
  each _ := rfl
  unbound unassigned := by cases unassigned
  checked := ⟨_, worker_checkAttempts⟩
  unassigned outcome absent := by cases absent

end FreeRun

/-- The free run passes every check of its attempts and has no settlement. -/
theorem finalizable_iff_free : FreeRun.worker.AttemptsPass ∧
    ((∃ settlements action, (FreeRun.worker.settledBy settlements).validate = .ok action) ↔
      FreeRun.worker.Finalizable) :=
  ⟨FreeRun.worker_attemptsPass,
    WorkerExecutionTranscript.finalizable_iff FreeRun.worker FreeRun.worker_attemptsPass⟩

/-- A free run that succeeded has no settlement. -/
theorem not_finalizable_free : ¬ ∀ worker : WorkerExecutionTranscript, worker.AttemptsPass →
    ∃ settlements action, (worker.settledBy settlements).validate = .ok action := by
  intro every
  obtain ⟨settlements, action, valid⟩ := every FreeRun.worker FreeRun.worker_attemptsPass
  have payable := (WorkerExecutionTranscript.finalizable_of_validate valid).payable
  exact lt_irrefl _ (payable FreeRun.attempt rfl FreeRun.lastEvent rfl rfl).1

end Cathedral.Provider
