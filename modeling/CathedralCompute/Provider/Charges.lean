import CathedralCompute.Provider.Transcripts
import Mathlib.Data.List.Chain

/-!
# Charges are sound

A validated transcript that ends with a charge has one successful attempt, the last one,
whose transitions are the whole path from dispatch to success; the charge is bounded by
the reservation, falls within its time and follows every attempt. Where the transcript
ends with a release, no attempt succeeded and nothing is charged.

## Main results

* `successPath_of_run` — the only run that ends in success
* `charge_soundness` — what a charge and a release say of the whole transcript
-/

set_option autoImplicit false

namespace Cathedral.Provider

open Codec Semantics

/-! ## Checks of lists -/

@[simp] theorem checkEach_eq_ok {α : Type} {check : α → Checked Unit} {items : List α} {u : Unit} :
    checkEach check items = .ok u ↔ ∀ item ∈ items, check item = .ok () := by
  induction items with
  | nil => simp [checkEach]
  | cons item items ih =>
    rw [checkEach, bind_eq_ok, ih, List.forall_mem_cons]
    exact ⟨fun ⟨_, first, rest⟩ => ⟨first, rest⟩, fun ⟨first, rest⟩ => ⟨(), first, rest⟩⟩

/-- What holds of neighbours. -/
theorem isChain_of_neighbours {α : Type} {related : α → α → Prop} {items : List α}
    (each : ∀ pair ∈ neighbours items, related pair.1 pair.2) : items.IsChain related := by
  induction items with
  | nil => exact .nil
  | cons first items ih =>
    cases items with
    | nil => exact .singleton first
    | cons second items =>
      refine List.IsChain.cons_cons (each (first, second) ?_) (ih fun pair member => each pair ?_)
      · exact List.mem_cons_self
      · exact List.mem_cons_of_mem _ member

/-! ## The path to success -/

/-- The states of an attempt that succeeds, in order. -/
def successStates : List AttemptState :=
  [.dispatchPending, .slotClaimed, .assignmentSent, .acknowledged, .attesting, .running,
    .resultReceived, .evidenceVerified, .successCleanupPending, .succeeded]

/-- The transitions of an attempt that succeeds, in order. -/
def successPath : List (AttemptState × AttemptState) := neighbours successStates

/-- The transition of an event. -/
def AttemptTransitionEvent.transition (event : AttemptTransitionEvent) :
    AttemptState × AttemptState := (event.current, event.target)

theorem AttemptTransitionEvent.allowed (event : AttemptTransitionEvent) :
    event.target ∈ event.current.allowed := by
  have valid := event.valid
  simp only [AttemptTransitionEventFields.check, requireAttemptTransition, bind_eq_ok,
    require_eq_ok] at valid
  obtain ⟨_, _, _, _, _, _, _, allowed, _⟩ := valid
  exact allowed

/-- Nothing leads back to the beginning. -/
theorem not_dispatchPending_allowed (state : AttemptState) :
    AttemptState.dispatchPending ∉ state.allowed := by
  cases state <;> decide

/-- On the path each state has one predecessor. -/
theorem current_of_target {k : ℕ} (small : k < 9) {state target : AttemptState}
    (onPath : successStates[k + 1]? = some target) (allowed : target ∈ state.allowed) :
    successStates[k]? = some state := by
  have finite : ∀ k < 9, ∀ target ∈ successStates[k + 1]?,
      ∀ state ∈ (Enumerated.all : List AttemptState), target ∈ state.allowed →
        successStates[k]? = some state := by decide
  exact finite k small target onPath state (Enumerated.complete state) allowed

/-- The next transition of the path. -/
theorem take_successPath {k : ℕ} (small : k < 9) {current target : AttemptState}
    (before : successStates[k]? = some current) (after : successStates[k + 1]? = some target) :
    successPath.take (k + 1) = successPath.take k ++ [(current, target)] := by
  have finite : ∀ k < 9, ∀ current ∈ successStates[k]?, ∀ target ∈ successStates[k + 1]?,
      successPath[k]? = some (current, target) := by decide
  rw [List.take_add_one, finite k small current before target after]
  rfl

/-- A run from the beginning to a state of the path is the path up to it. -/
theorem path_of_run {k : ℕ} (small : k < 9) {events : List AttemptTransitionEvent}
    {first last : AttemptTransitionEvent} (starts : events.head? = some first)
    (begins : first.current = .dispatchPending)
    (chain : events.IsChain fun previous next => next.current = previous.target)
    (ends : events.getLast? = some last) (onPath : successStates[k + 1]? = some last.target) :
    events.map (·.transition) = successPath.take (k + 1) := by
  obtain ⟨before, rfl⟩ := List.getLast?_eq_some_iff.mp ends
  have current := current_of_target small onPath last.allowed
  induction k generalizing before last with
  | zero =>
    cases before using List.reverseRecOn with
    | nil =>
      rw [take_successPath small current onPath]
      rfl
    | append_singleton earlier previous =>
      -- Nothing leads to the first state of the path.
      have follows : last.current = previous.target := by
        simpa using (List.isChain_append.mp chain).2.2
      have allowed := previous.allowed
      rw [← follows, ← Option.some.inj current] at allowed
      exact absurd allowed (not_dispatchPending_allowed _)
  | succ k ih =>
    cases before using List.reverseRecOn with
    | nil =>
      obtain rfl := Option.some.inj starts
      rw [begins] at current
      have later : ∀ k < 9, successStates[k + 1]? ≠ some .dispatchPending := by decide
      exact absurd current (later k (by omega))
    | append_singleton earlier previous =>
      have follows : last.current = previous.target := by
        simpa using (List.isChain_append.mp chain).2.2
      have starts' : (earlier ++ [previous]).head? = some first := by
        rw [← starts]
        cases earlier <;> rfl
      rw [follows] at current
      have path := ih (by omega) current earlier starts' chain.left_of_append
        (List.getLast?_concat ..) (current_of_target (by omega) current previous.allowed)
      rw [← follows] at current
      rw [List.map_append, path, take_successPath small current onPath]
      rfl

/-- The only run that ends in success. -/
theorem successPath_of_run {events : List AttemptTransitionEvent}
    {first last : AttemptTransitionEvent} (starts : events.head? = some first)
    (begins : first.current = .dispatchPending)
    (chain : events.IsChain fun previous next => next.current = previous.target)
    (ends : events.getLast? = some last) (succeeded : last.target = .succeeded) :
    events.map (·.transition) = successPath :=
  @path_of_run 8 (by decide) _ _ _ starts begins chain ends (by rw [succeeded]; rfl)

/-! ## What a validated attempt is -/

namespace ProviderAttemptTranscript

variable {self : ProviderAttemptTranscript}

/-- The permits of a transcript follow one another from the first. -/
theorem permits_of_check {first : AssignmentPermit} (checked : self.checkPermits = .ok first) :
    self.permits.head? = some first ∧ ∀ permit ∈ self.permits, first.issuedAt ≤ permit.issuedAt := by
  simp only [checkPermits, bind_eq_ok, demand_eq_ok, require_eq_ok, pure_eq_ok,
    checkEach_eq_ok] at checked
  obtain ⟨first', head, -, -, -, -, -, renewals, rfl⟩ := checked
  have chain : self.permits.IsChain fun current candidate =>
      current.issuedAt ≤ candidate.issuedAt := by
    refine isChain_of_neighbours fun pair member => ?_
    have renewal := renewals pair member
    simp only [validatePermitRenewal, bind_eq_ok, require_eq_ok] at renewal
    obtain ⟨_, _, _, _, _, _, _, advanced, _⟩ := renewal
    exact advanced.le
  refine ⟨head, fun permit member => ?_⟩
  cases permits : self.permits with
  | nil => simp [permits] at head
  | cons initial rest =>
    rw [permits] at head member chain
    obtain rfl := Option.some.inj head
    have trans : IsTrans AssignmentPermit fun a b => a.issuedAt ≤ b.issuedAt :=
      ⟨fun _ _ _ => le_trans⟩
    obtain rfl | later := List.mem_cons.mp member
    · exact le_rfl
    · exact (List.pairwise_cons.mp chain.pairwise).1 permit later

/-- The transitions of a transcript form one run. -/
structure Run (attempt : ProviderAttemptTranscript) (first : AttemptTransitionEvent) : Prop where
  starts : attempt.events.head? = some first
  begins : first.current = .dispatchPending
  chain : attempt.events.IsChain fun previous next => next.current = previous.target
  ordered : attempt.events.Pairwise fun previous next => previous.occurredAt ≤ next.occurredAt

theorem run_of_check {firstPermit : AssignmentPermit} {first : AttemptTransitionEvent}
    (checked : self.checkEvents firstPermit = .ok first) : self.Run first := by
  simp only [checkEvents, bind_eq_ok, demand_eq_ok, require_eq_ok, pure_eq_ok,
    checkEach_eq_ok] at checked
  obtain ⟨-, -, first', starts, -, begins, -, -, -, -, -, follows, -, -, -, -, rfl⟩ := checked
  have related (pair : AttemptTransitionEvent × AttemptTransitionEvent)
      (member : pair ∈ neighbours self.events) :
      pair.2.current = pair.1.target ∧ pair.1.occurredAt ≤ pair.2.occurredAt := by
    have followed := follows pair member
    simp only [checkFollows, bind_eq_ok, require_eq_ok] at followed
    obtain ⟨-, continuous, ordered⟩ := followed
    exact ⟨continuous, ordered⟩
  have trans : IsTrans AttemptTransitionEvent fun a b => a.occurredAt ≤ b.occurredAt :=
    ⟨fun _ _ _ => le_trans⟩
  have ordered : self.events.IsChain fun previous next =>
      previous.occurredAt ≤ next.occurredAt :=
    isChain_of_neighbours fun pair member => (related pair member).2
  exact ⟨starts, begins, isChain_of_neighbours fun pair member => (related pair member).1,
    ordered.pairwise⟩

/-- The last transition is the latest. -/
theorem Run.latest {first last event : AttemptTransitionEvent} (run : self.Run first)
    (ends : self.events.getLast? = some last) (member : event ∈ self.events) :
    event.occurredAt ≤ last.occurredAt := by
  obtain ⟨before, split⟩ := List.getLast?_eq_some_iff.mp ends
  have ordered := run.ordered
  rw [split] at member ordered
  obtain inside | same := List.mem_append.mp member
  · exact (List.pairwise_append.mp ordered).2.2 event inside last (by simp)
  · rw [List.mem_singleton.mp same]

/-- The first transition is the earliest. -/
theorem Run.earliest {first event : AttemptTransitionEvent} (run : self.Run first)
    (member : event ∈ self.events) : first.occurredAt ≤ event.occurredAt := by
  obtain ⟨rest, split⟩ := List.head?_eq_some_iff.mp run.starts
  have ordered := run.ordered
  rw [split] at member ordered
  obtain rfl | inside := List.mem_cons.mp member
  · exact le_rfl
  · exact (List.pairwise_cons.mp ordered).1 event inside

/-- The transcript ends with a cleanup. -/
structure Ending (attempt : ProviderAttemptTranscript) (entry last : AttemptTransitionEvent) :
    Prop where
  ends : attempt.events.getLast? = some last
  enters : attempt.events.dropLast.getLast? = some entry
  requested : entry.occurredAt ≤ attempt.cleanup.requestedAt
  terminal : validateTerminalTransition last attempt.cleanup = .ok ()

theorem ending_of_check {entry last : AttemptTransitionEvent}
    (checked : self.checkEnd = .ok (entry, last)) : self.Ending entry last := by
  simp only [checkEnd, bind_eq_ok, demand_eq_ok, require_eq_ok, pure_eq_ok,
    Prod.mk.injEq] at checked
  obtain ⟨-, -, last', ends, -, -, entry', enters, -, requested, -, -, ⟨⟩, terminal, rfl, rfl⟩ :=
    checked
  exact ⟨ends, enters, requested, terminal⟩

/-- What validation says of an attempt. -/
theorem of_validate {state : AttemptState} (valid : self.validate = .ok state) :
    ∃ firstPermit first entry last, self.checkPermits = .ok firstPermit ∧
      self.checkEvents firstPermit = .ok first ∧ self.checkEnd = .ok (entry, last) ∧
      self.checkResult = .ok () ∧ self.checkInterruption first entry last = .ok () ∧
      last.target = state := by
  simp only [validate, bind_eq_ok, pure_eq_ok] at valid
  obtain ⟨firstPermit, permits, first, events, ⟨entry, last⟩, ending, ⟨⟩, result, ⟨⟩, interruption,
    target⟩ := valid
  exact ⟨firstPermit, first, entry, last, permits, events, ending, result, interruption, target⟩

/-- What is true of an attempt that succeeded. -/
structure Succeeded (attempt : ProviderAttemptTranscript) : Prop where
  path : attempt.events.map (·.transition) = successPath
  ordered : attempt.events.Pairwise fun previous next => previous.occurredAt ≤ next.occurredAt
  answered : ∃ result, attempt.result = some result ∧
    attempt.assignment.digest = .ok result.assignmentDigest ∧
    result.attemptId = attempt.assignment.attemptId ∧
    result.attestedNonce = attempt.assignment.providerNonce ∧
    result.measurementDigest = attempt.assignment.imageDigest
  absent : attempt.cleanup.absenceStatus = .provenAbsent
  requested : ∀ event ∈ attempt.events, event.target = .successCleanupPending →
    event.occurredAt ≤ attempt.cleanup.requestedAt

/-- A validated attempt that ended in success took the whole path. -/
theorem succeeded_of_validate (valid : self.validate = .ok .succeeded) : self.Succeeded := by
  obtain ⟨firstPermit, first, entry, last, -, events, ending, result, -, target⟩ :=
    of_validate valid
  have run := run_of_check events
  have ending := ending_of_check ending
  have path := successPath_of_run run.starts run.begins run.chain ending.ends target
  refine ⟨path, run.ordered, ?_, ?_, ?_⟩
  · -- The path goes through the result.
    have received : (AttemptState.running, AttemptState.resultReceived) ∈
        self.events.map (·.transition) := by
      rw [path]
      decide
    obtain ⟨event, member, transition⟩ := List.mem_map.mp received
    have inside : event ∈ self.resultEvents :=
      List.mem_filter.mpr ⟨member, decide_eq_true (Prod.mk.inj transition).2⟩
    simp only [checkResult, bind_eq_ok, require_eq_ok] at result
    obtain ⟨-, -, result⟩ := result
    cases found : self.resultEvents.head? with
    | none =>
      rw [List.head?_eq_none_iff.mp found] at inside
      cases inside
    | some event =>
      simp only [found, checkResultEvent, validateResultAssignment, bind_eq_ok, demand_eq_ok,
        require_eq_ok] at result
      obtain ⟨record, present, -, ⟨digest, own, -, ⟨attempt, rfl⟩, -, nonce, image⟩, -⟩ := result
      exact ⟨record, present, own, attempt, nonce, image⟩
  · have terminal := ending.terminal
    simp only [validateTerminalTransition, bind_eq_ok, require_eq_ok] at terminal
    obtain ⟨_, _, _, _, _, _, _, _, _, _, _, _, _, _, basis⟩ := terminal
    unfold checkTerminalBasis at basis
    split at basis
    · exact require_eq_ok.mp basis
    · simp only [bind_eq_ok, require_eq_ok] at basis
      exact absurd target basis.choose_spec.1
    · cases basis
  · intro event member cleaning
    -- The event is not the last one, and the one before the last is the latest of the others.
    obtain ⟨before, split⟩ := List.getLast?_eq_some_iff.mp ending.ends
    have enters := ending.enters
    have ordered := run.ordered
    rw [split, List.dropLast_concat] at enters
    obtain ⟨earlier, rfl⟩ := List.getLast?_eq_some_iff.mp enters
    rw [split] at member ordered
    have outside : event ≠ last := by
      rintro rfl
      rw [target] at cleaning
      cases cleaning
    have inside := (List.mem_append.mp member).resolve_right (by simpa using outside)
    have latest := (List.pairwise_append.mp ordered).1
    obtain early | same := List.mem_append.mp inside
    · exact ((List.pairwise_append.mp latest).2.2 event early entry (by simp)).trans
        ending.requested
    · obtain rfl := List.mem_singleton.mp same
      exact ending.requested

end ProviderAttemptTranscript

/-! ## What a decision says -/

/-- What a decision promises of its action. -/
structure WorkerSettlementDecision.Consistent (decision : WorkerSettlementDecision) : Prop where
  capped : decision.chargedMicros ≤ decision.reservedMicros
  charged : decision.action = .charged → decision.sequence = 1 ∧ 0 < decision.chargedMicros
  uncharged : decision.action ≠ .charged → decision.chargedMicros = 0
  resolved : decision.sequence = 2 → decision.action = .released

theorem WorkerSettlementDecision.consistent (decision : WorkerSettlementDecision) :
    decision.Consistent := by
  have valid := decision.valid
  simp only [WorkerSettlementDecisionFields.check, bind_eq_ok, require_eq_ok] at valid
  obtain ⟨_, _, _, _, _, _, _, _, _, _, _, _, _, _, _, _, _, capped, _, _, ⟨⟩, acted, resolved⟩ :=
    valid
  unfold checkAction at acted
  refine ⟨capped, fun charged => ?_, fun other => ?_, resolved⟩
  · rw [if_pos charged] at acted
    simp only [bind_eq_ok, require_eq_ok] at acted
    obtain ⟨_, both, _⟩ := acted
    exact both
  · rw [if_neg other] at acted
    simp only [bind_eq_ok, require_eq_ok] at acted
    obtain ⟨_, zero, _⟩ := acted
    exact zero

/-! ## What a validated Worker is -/

namespace WorkerExecutionTranscript

variable {self : WorkerExecutionTranscript}

/-- A binding joins the attempt with the reservation. -/
structure Bound (reservation : CustomerCapReservation) (attempt : ProviderAttemptTranscript)
    (binding : AssignmentLedgerBinding) : Prop where
  assignment : attempt.assignment.digest = .ok binding.assignmentDigest
  attemptId : binding.attemptId = attempt.assignment.attemptId
  customer : binding.customerId = reservation.customerId
  worker : binding.workerId = reservation.workerId
  reserved : binding.reservationId = reservation.reservationId
  request : binding.requestDigest = reservation.requestDigest
  micros : binding.reservedMicros = reservation.reservedMicros

/-- One attempt has ended when another begins. -/
structure Before (earlier later : ProviderAttemptTranscript) : Prop where
  filled : later.events ≠ []
  permits : ∀ event ∈ earlier.events, ∀ permit ∈ later.permits, event.occurredAt ≤ permit.issuedAt
  events : ∀ event ∈ earlier.events, ∀ event' ∈ later.events, event.occurredAt ≤ event'.occurredAt

/-- The attempts of one reservation, one after the other. -/
structure AttemptsInOrder (worker : WorkerExecutionTranscript) : Prop where
  bound : ∀ (i : ℕ) binding attempt, worker.bindings[i]? = some binding →
    worker.attempts[i]? = some attempt → Bound worker.reservation attempt binding ∧
      binding.attemptNumber = i + 1 ∧
      binding.retryParentAttemptId =
        if i = 0 then none else worker.attempts[i - 1]?.map (·.assignment.attemptId)
  each : worker.bindings.length = worker.attempts.length
  ids : (worker.attempts.map (·.assignment.attemptId)).Nodup
  nonces : (worker.attempts.map (·.assignment.providerNonce)).Nodup
  apart : worker.attempts.Pairwise Before

theorem bound_of_check {reservation : CustomerCapReservation} {index : ℕ} {parent : Option Text}
    {pairs : List (AssignmentLedgerBinding × ProviderAttemptTranscript)}
    (checked : checkBindings reservation index parent pairs = .ok ()) {i : ℕ}
    {binding : AssignmentLedgerBinding} {attempt : ProviderAttemptTranscript}
    (at_ : pairs[i]? = some (binding, attempt)) :
    Bound reservation attempt binding ∧ binding.attemptNumber = index + i ∧
      binding.retryParentAttemptId =
        if i = 0 then parent else pairs[i - 1]?.map (·.2.assignment.attemptId) := by
  induction pairs generalizing index parent i with
  | nil => simp at at_
  | cons pair pairs ih =>
    obtain ⟨first, candidate⟩ := pair
    simp only [checkBindings, validateAssignmentReservation, bind_eq_ok, demand_eq_ok,
      require_eq_ok, checkEach_eq_ok] at checked
    obtain ⟨_, _, ⟨⟩, ⟨digest, own, _, matching, _⟩, _, number, _, named, _, _, rest⟩ := checked
    obtain ⟨rfl, attemptId, customer, worker, reserved, request, micros⟩ := matching
    cases i with
    | zero =>
      obtain ⟨rfl, rfl⟩ := Prod.mk.inj (Option.some.inj at_)
      exact ⟨⟨own, attemptId, customer, worker, reserved, request, micros⟩, by simpa using number,
        named⟩
    | succ i =>
      obtain ⟨bound, number, named⟩ := ih rest at_
      refine ⟨bound, by push_cast at number ⊢; omega, ?_⟩
      rw [named]
      cases i <;> simp

theorem before_of_check {earlier later : ProviderAttemptTranscript} {state state' : AttemptState}
    (valid : earlier.validate = .ok state) (valid' : later.validate = .ok state')
    (checked : checkRetry earlier later = .ok ()) : Before earlier later := by
  obtain ⟨_, first, _, _, _, events, _⟩ := ProviderAttemptTranscript.of_validate valid
  obtain ⟨firstPermit', first', _, _, permits', events', _⟩ :=
    ProviderAttemptTranscript.of_validate valid'
  have run := ProviderAttemptTranscript.run_of_check events
  have run' := ProviderAttemptTranscript.run_of_check events'
  obtain ⟨head, renewed⟩ := ProviderAttemptTranscript.permits_of_check permits'
  simp only [checkRetry, bind_eq_ok, demand_eq_ok, require_eq_ok] at checked
  obtain ⟨last, ends, permit, head', -, issued, first'', starts', begun⟩ := checked
  obtain rfl : first' = first'' := Option.some.inj (run'.starts.symm.trans starts')
  obtain rfl : firstPermit' = permit := Option.some.inj (head.symm.trans head')
  refine ⟨?_, fun event member permit listed => ?_, fun event member event' member' => ?_⟩
  · intro empty
    rw [empty] at starts'
    cases starts'
  · exact (run.latest ends member).trans (issued.trans (renewed permit listed))
  · exact (run.latest ends member).trans (begun.trans (run'.earliest member'))

instance : IsTrans ProviderAttemptTranscript Before where
  trans _ middle _ first second := by
    obtain ⟨event, inside⟩ := List.exists_mem_of_ne_nil _ first.filled
    exact ⟨second.filled,
      fun x member permit listed =>
        (first.events x member event inside).trans (second.permits event inside permit listed),
      fun x member y listed =>
        (first.events x member event inside).trans (second.events event inside y listed)⟩

theorem getElem?_of_forall₂ {α β : Type} {related : α → β → Prop} {as : List α} {bs : List β}
    (each : List.Forall₂ related as bs) {i : ℕ} {a : α} (at_ : as[i]? = some a) :
    ∃ b, bs[i]? = some b ∧ related a b := by
  induction each generalizing i with
  | nil => simp at at_
  | cons head _ ih =>
    cases i with
    | zero =>
      obtain rfl := Option.some.inj at_
      exact ⟨_, rfl, head⟩
    | succ i => exact ih at_

theorem mem_successIndexes {states : List AttemptState} {i : ℕ} :
    i ∈ successIndexes states ↔ states[i]? = some .succeeded := by
  simp [successIndexes, List.mem_zipIdx_iff_getElem?]

/-- What the check of the attempts establishes. -/
theorem inOrder_of_check {states : List AttemptState} (shape : self.checkShape = .ok ())
    (assigned : self.attempts ≠ []) (checked : self.checkAttempts = .ok states) :
    AttemptsInOrder self := by
  simp only [checkAttempts, bind_eq_ok, require_eq_ok, pure_eq_ok, checkEach_eq_ok] at checked
  obtain ⟨states', run, -, ids, -, nonces, ⟨⟩, bindings, -, retries, -⟩ := checked
  simp only [checkShape, bind_eq_ok, require_eq_ok] at shape
  obtain ⟨-, -, -, -, -, counted, -⟩ := shape
  have each := forall₂_of_mapM run
  have valid (attempt : ProviderAttemptTranscript) (member : attempt ∈ self.attempts) :
      ∃ state, attempt.validate = .ok state := by
    obtain ⟨i, at_⟩ := List.getElem?_of_mem member
    obtain ⟨state, -, valid⟩ := getElem?_of_forall₂ each at_
    exact ⟨state, valid⟩
  refine ⟨fun i binding attempt at_ at' => ?_, counted assigned, ids, nonces, ?_⟩
  · have pair : (self.bindings.zip self.attempts)[i]? = some (binding, attempt) := by
      rw [List.getElem?_zip_eq_some]
      exact ⟨at_, at'⟩
    obtain ⟨bound, number, named⟩ := bound_of_check bindings pair
    refine ⟨bound, by push_cast at number; omega, ?_⟩
    rw [named]
    split
    · rfl
    case isFalse later =>
      have seconds : (self.bindings.zip self.attempts).map Prod.snd = self.attempts :=
        List.map_snd_zip (counted assigned).ge
      conv_rhs => rw [← seconds, List.getElem?_map, Option.map_map]
      rfl
  · refine List.IsChain.pairwise (isChain_of_neighbours fun pair member => ?_)
    obtain ⟨first, second⟩ := pair
    have inside := List.of_mem_zip member
    obtain ⟨state, valid₁⟩ := valid first inside.1
    obtain ⟨state', valid₂⟩ := valid second (List.mem_of_mem_tail inside.2)
    exact before_of_check valid₁ valid₂ (retries (first, second) member)

/-- A Worker that is charged. -/
structure SoundlyCharged (worker : WorkerExecutionTranscript) (settlement : WorkerSettlementDecision)
    (winner : ProviderAttemptTranscript) : Prop where
  only : worker.settlements = [settlement]
  charged : settlement.action = .charged
  positive : 0 < settlement.chargedMicros
  capped : settlement.chargedMicros ≤ worker.reservation.reservedMicros
  inTime : worker.reservation.reservedAt ≤ settlement.decidedAt ∧
    settlement.decidedAt < worker.reservation.expiresAt
  after : ∀ attempt ∈ worker.attempts, ∀ event ∈ attempt.events,
    event.occurredAt ≤ settlement.decidedAt
  last : worker.attempts.getLast? = some winner
  named : settlement.winningAttemptId = some winner.assignment.attemptId
  won : winner.validate = .ok .succeeded
  others : ∀ attempt ∈ worker.attempts.dropLast,
    ∃ state, attempt.validate = .ok state ∧ state ≠ .succeeded
  succeeded : winner.Succeeded
  inOrder : AttemptsInOrder worker

/-- A Worker that is released. -/
structure SoundlyReleased (worker : WorkerExecutionTranscript) : Prop where
  unsuccessful : ∀ attempt ∈ worker.attempts,
    ∃ state, attempt.validate = .ok state ∧ state ≠ .succeeded
  uncharged : ∀ settlement ∈ worker.settlements, settlement.chargedMicros = 0

/-- What validation says of a Worker. -/
theorem of_validate {action : SettlementAction} (valid : self.validate = .ok action) :
    ∃ states final, self.checkShape = .ok () ∧ self.checkAttempts = .ok states ∧
      self.checkSettlements = .ok final ∧
      self.checkOutcome final (successIndexes states) = .ok () ∧ final.action = action := by
  simp only [validate, bind_eq_ok, pure_eq_ok] at valid
  obtain ⟨⟨⟩, shape, states, attempts, final, settlements, ⟨⟩, outcome, action⟩ := valid
  exact ⟨states, final, shape, attempts, settlements, outcome, action⟩

/-- The terminal states of the attempts. -/
theorem states_of_check {states : List AttemptState}
    (checked : self.checkAttempts = .ok states) :
    self.attempts.mapM ProviderAttemptTranscript.validate = .ok states ∧
      ∀ index ∈ (successIndexes states).head?, index = self.attempts.length - 1 := by
  simp only [checkAttempts, bind_eq_ok, require_eq_ok, pure_eq_ok] at checked
  obtain ⟨states', run, -, -, -, -, -, -, -, -, -, -, -, last, rfl⟩ := checked
  exact ⟨run, last⟩

theorem unsuccessful_of_not_mem {states : List AttemptState}
    (run : self.attempts.mapM ProviderAttemptTranscript.validate = .ok states) {i : ℕ}
    {attempt : ProviderAttemptTranscript} (at_ : self.attempts[i]? = some attempt)
    (not : i ∉ successIndexes states) :
    ∃ state, attempt.validate = .ok state ∧ state ≠ .succeeded := by
  obtain ⟨state, found, valid⟩ := getElem?_of_forall₂ (forall₂_of_mapM run) at_
  refine ⟨state, valid, ?_⟩
  rintro rfl
  exact not (mem_successIndexes.mpr found)

/-- The final settlement is the last one, and matches the reservation. -/
theorem final_of_check {final : WorkerSettlementDecision}
    (checked : self.checkSettlements = .ok final) :
    self.settlements.getLast? = some final ∧ self.checkSuccession = .ok () ∧
      (∀ settlement ∈ self.settlements,
        validateSettlement self.reservation settlement = .ok ()) := by
  simp only [checkSettlements, bind_eq_ok, demand_eq_ok, require_eq_ok, pure_eq_ok,
    checkEach_eq_ok] at checked
  obtain ⟨⟨⟩, each, -, -, ⟨⟩, succession, final', last, -, -, rfl⟩ := checked
  exact ⟨last, succession, each⟩

/-- A charge is the only settlement. -/
theorem only_of_charged {final : WorkerSettlementDecision}
    (shape : self.checkShape = .ok ()) (last : self.settlements.getLast? = some final)
    (succession : self.checkSuccession = .ok ()) (charged : final.action = .charged) :
    self.settlements = [final] := by
  simp only [checkShape, bind_eq_ok, require_eq_ok] at shape
  obtain ⟨-, -, -, -, -, -, -, -, count⟩ := shape
  rcases settlements : self.settlements with _ | ⟨held, _ | ⟨resolution, _ | ⟨_, _⟩⟩⟩
  · simp [settlements] at last
  · rw [settlements] at last
    rw [← Option.some.inj last]
    rfl
  · -- A resolution only releases.
    rw [settlements] at last
    obtain same : resolution = final := Option.some.inj last
    subst same
    simp only [checkSuccession, settlements, validateSettlementSupersession, bind_eq_ok,
      require_eq_ok] at succession
    obtain ⟨_, _, _, _, _, _, _, _, _, ⟨second, _⟩, _⟩ := succession
    have released := (WorkerSettlementDecision.consistent resolution).resolved second
    rw [charged] at released
    cases released
  · simp [settlements] at count

/-- A charged Worker has attempts. -/
theorem assigned_of_charged {final : WorkerSettlementDecision} {successes : List ℕ}
    (outcome : self.checkOutcome final successes = .ok ()) (charged : final.action = .charged) :
    self.checkAssigned final successes = .ok () := by
  unfold checkOutcome at outcome
  cases dispatch : self.unassignedDispatch with
  | none =>
    rw [dispatch] at outcome
    exact outcome
  | some unassigned =>
    simp only [dispatch, checkUnassigned, bind_eq_ok, require_eq_ok] at outcome
    obtain ⟨_, _, _, _, _, _, _, released, _⟩ := outcome
    rw [charged] at released
    cases released

theorem soundlyCharged_of_validate (valid : self.validate = .ok .charged) :
    ∃ settlement winner, SoundlyCharged self settlement winner := by
  obtain ⟨states, final, shape, attempts, settlements, outcome, charged⟩ := of_validate valid
  obtain ⟨last, succession, each⟩ := final_of_check settlements
  have only := only_of_charged shape last succession charged
  have assigned := assigned_of_charged outcome charged
  simp only [checkAssigned, checkSettled, charged, if_true, checkWinner, bind_eq_ok, demand_eq_ok,
    require_eq_ok] at assigned
  obtain ⟨winner, isLast, ending, ends, -, decided, -, single, -, named, -⟩ := assigned
  obtain ⟨run, lastIndex⟩ := states_of_check attempts
  -- The one success is at the last place.
  obtain ⟨index, places⟩ := List.length_eq_one_iff.mp single
  obtain rfl : index = self.attempts.length - 1 := lastIndex index (by rw [places]; rfl)
  have filled : self.attempts ≠ [] := by
    rintro empty
    simp [empty] at isLast
  have atLast : self.attempts[self.attempts.length - 1]? = some winner := by
    rw [← List.getLast?_eq_getElem?, isLast]
  obtain ⟨state, found, won⟩ := getElem?_of_forall₂ (forall₂_of_mapM run) atLast
  have success : self.attempts.length - 1 ∈ successIndexes states := by rw [places]; simp
  obtain rfl := Option.some.inj ((mem_successIndexes.mp success).symm.trans found)
  have inOrder := inOrder_of_check shape filled attempts
  have matching := each final (by rw [only]; simp)
  simp only [validateSettlement, bind_eq_ok, require_eq_ok] at matching
  obtain ⟨-, ⟨-, -, -, reserved⟩, -, notBefore, inside⟩ := matching
  have consistent := final.consistent
  obtain ⟨before, split⟩ := List.getLast?_eq_some_iff.mp isLast
  refine ⟨final, winner, only, charged, (consistent.charged charged).2, reserved ▸ consistent.capped,
    ⟨notBefore, inside.resolve_right (by rw [charged]; rintro ⟨⟩)⟩, ?_, isLast, named, won, ?_,
    ProviderAttemptTranscript.succeeded_of_validate won, inOrder⟩
  · obtain ⟨_, first, _, _, _, events, _⟩ := ProviderAttemptTranscript.of_validate won
    have runs := ProviderAttemptTranscript.run_of_check events
    intro attempt member event occurred
    have apart := inOrder.apart
    rw [split] at member apart
    obtain early | same := List.mem_append.mp member
    · have ended := (List.pairwise_append.mp apart).2.2 attempt early winner (by simp)
      have inside : ending ∈ winner.events := List.mem_of_getLast? ends
      exact (ended.events event occurred ending inside).trans decided
    · obtain rfl := List.mem_singleton.mp same
      exact (runs.latest ends occurred).trans decided
  · intro attempt member
    rw [split, List.dropLast_concat] at member
    obtain ⟨i, at_⟩ := List.getElem?_of_mem member
    have small := (List.getElem?_eq_some_iff.mp at_).1
    refine @unsuccessful_of_not_mem _ _ run i _ ?_ ?_
    · rw [split, List.getElem?_append_left small, at_]
    · rw [places, split]
      simp
      omega

theorem soundlyReleased_of_validate (valid : self.validate = .ok .released) :
    SoundlyReleased self := by
  obtain ⟨states, final, shape, attempts, settlements, outcome, released⟩ := of_validate valid
  obtain ⟨last, succession, each⟩ := final_of_check settlements
  simp only [checkShape, bind_eq_ok, require_eq_ok] at shape
  obtain ⟨-, -, -, assigned, -, -, -, -, count⟩ := shape
  obtain ⟨run, -⟩ := states_of_check attempts
  constructor
  · intro attempt member
    obtain ⟨i, at_⟩ := List.getElem?_of_mem member
    have none : self.unassignedDispatch = none := by
      rw [List.isEmpty_eq_false_iff.mpr (List.ne_nil_of_mem member)] at assigned
      exact Option.not_isSome_iff_eq_none.mp (by rw [← assigned]; exact Bool.false_ne_true)
    simp only [checkOutcome, none, checkAssigned, checkSettled, released, checkReleased,
      bind_eq_ok, require_eq_ok] at outcome
    obtain ⟨_, _, _, _, _, _, outcome⟩ := outcome
    rw [if_neg (by decide)] at outcome
    simp only [bind_eq_ok, require_eq_ok] at outcome
    obtain ⟨-, empty, -⟩ := outcome
    exact unsuccessful_of_not_mem run at_ (by rw [empty]; exact List.not_mem_nil)
  · have final_uncharged : final.chargedMicros = 0 :=
      final.consistent.uncharged (by rw [released]; decide)
    rcases settlements : self.settlements with _ | ⟨held, _ | ⟨resolution, _ | ⟨_, _⟩⟩⟩
    · exact fun _ listed => absurd listed List.not_mem_nil
    · rw [settlements] at last
      obtain same : held = final := Option.some.inj last
      simpa [same] using final_uncharged
    · rw [settlements] at last
      obtain same : resolution = final := Option.some.inj last
      simp only [checkSuccession, settlements, validateSettlementSupersession, bind_eq_ok,
        require_eq_ok] at succession
      obtain ⟨_, _, _, _, _, ⟨_, pending⟩, _⟩ := succession
      have held_uncharged := held.consistent.uncharged (by rw [pending]; decide)
      simp [same, final_uncharged, held_uncharged]
    · simp [settlements] at count

/-- **Charge soundness.** A charge has one settlement within the reservation and one
successful attempt, the last one, which took the whole path; a release charges nothing
and no attempt succeeded. -/
theorem charge_soundness (worker : WorkerExecutionTranscript) :
    (worker.validate = .ok .charged →
      ∃ settlement winner, SoundlyCharged worker settlement winner) ∧
    (worker.validate = .ok .released → SoundlyReleased worker) :=
  ⟨soundlyCharged_of_validate, soundlyReleased_of_validate⟩

end WorkerExecutionTranscript

end Cathedral.Provider
