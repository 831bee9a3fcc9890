import CathedralCompute.Registry.Operations
import Mathlib.Logic.Relation

/-!
# What a registry operation can write

Every committed operation is a sequence of writes: the clock advances, a worker
gets its first event, moves along the transition table or starts a new
generation, or a table outside the lifecycle changes. The writes are the
constructors of `Write`, each with the guards the code checks, and
`writes_of_commit` is the inversion of all operations at once.

A scope says which of these writes an operation may make. It is where the
operations differ: `Op.scope` reads it off their arguments.
-/

set_option autoImplicit false

namespace Cathedral.Registry

open Codec Semantics

/-! ## Views -/

/-- The events of one worker, oldest first. -/
def workerLog (s : State) (hotkey : Text) : List EventRow :=
  s.events.select fun event => event.hotkey = hotkey

/-- The lifecycle tables are the same. -/
structure SameLifecycle (s s' : State) : Prop where
  sequence : s'.eventSequence = s.eventSequence
  events : s'.events = s.events
  current : s'.current = s.current
  clock : s'.clock = s.clock

/-- An event is appended, and the current row of its worker becomes `row`. -/
structure Recorded (s s' : State) (event : EventRow) (row : SnapshotFields) : Prop where
  eventId : event.eventId = s.eventSequence + 1
  sequence : s'.eventSequence = s.eventSequence + 1
  events : s'.events.rows = s.events.rows ++ [event]
  row : s'.current.find? event.hotkey = some row
  others : ∀ hotkey, hotkey ≠ event.hotkey → s'.current.find? hotkey = s.current.find? hotkey
  clock : s'.clock = s.clock
  enrollments : s'.enrollments = s.enrollments
  attestations : s'.attestations = s.attestations

/-- A transition that is given no evidence keeps what the worker has. -/
structure TransitionArguments.Inherits (a : TransitionArguments) : Prop where
  verifiedAt : a.evidenceVerifiedAt = none
  expiresAt : a.evidenceExpiresAt = none
  measurement : a.measurement = none
  evidenceDigest : a.evidenceDigest = none
  policyDigest : a.policyDigest = none

/-! ## Writes -/

/-- What writes may do. -/
structure Scope where
  /-- The first states they may give. -/
  begins : WorkerLifecycleState → LifecycleReason → InitialEvidence → Prop
  /-- The transitions they may make. -/
  moves : SnapshotFields → WorkerLifecycleState → LifecycleReason → TransitionArguments → Prop
  /-- The workers they may re-enroll. -/
  renews : SnapshotFields → LifecycleReason → Prop
  /-- Whether they may change the enrollments. -/
  enrolls : Prop
  /-- Whether they may change the verdicts on record. -/
  attests : Prop

/-- A worker moves along the transition table, at the time of the clock. -/
structure Moved (s s' : State) (current : SnapshotFields) (target : WorkerLifecycleState)
    (reason : LifecycleReason) (when : Instant) (a : TransitionArguments) : Prop where
  clocked : s.clock = some when
  found : s.current.find? current.hotkey = some current
  later : current.stateChangedAt ≤ when
  legal : target ∈ current.state.allowedTransitions
  reasoned : target ∈ reason.reasonTargets
  fresh : target = .attested → (chosenValues current target reason a).FreshAt when
  scheduled : ∀ retry ∈ (chosenValues current target reason a).nextRetryAt, when ≤ retry
  recorded : ∃ detail, Recorded s s'
    (transitionEvent current target reason when (chosenValues current target reason a) detail
      (s.eventSequence + 1))
    (transitionRow (current.revision + 1) (s.eventSequence + 1) target reason when
      (chosenValues current target reason a) current)

/-- A worker starts a new generation, at the time of the clock. -/
structure Renewed (s s' : State) (current : SnapshotFields) (reason : LifecycleReason)
    (when : Instant) : Prop where
  clocked : s.clock = some when
  found : s.current.find? current.hotkey = some current
  reasoned : reason ∈ [LifecycleReason.reenrolled, .endpointChanged]
  recorded : Recorded s s' (reenrollEvent current reason when (s.eventSequence + 1))
    (reenrollRow (current.generation + 1) (s.eventSequence + 1) reason when current)

/-- One write of an operation. -/
inductive Write (scope : Scope) (s s' : State) : Prop
  | advance (when : Instant) (allowed : s.ClockAllows when)
      (result : s' = { s with clock := some when })
  | other (same : SameLifecycle s s')
      (enrollments : scope.enrolls ∨ s'.enrollments = s.enrollments)
      (attestations : scope.attests ∨ s'.attestations = s.attestations)
  | begin (hotkey : Text) (state : WorkerLifecycleState) (reason : LifecycleReason)
      (when : Instant) (evidence : InitialEvidence) (allowed : scope.begins state reason evidence)
      (clocked : s.clock = some when) (enrolled : (s.enrollments.find? hotkey).isSome)
      (absent : s.current.find? hotkey = none)
      (recorded : Recorded s s'
        (initialEvent hotkey state reason when evidence (s.eventSequence + 1))
        (initialRow hotkey state reason when evidence (s.eventSequence + 1)))
  | move (current : SnapshotFields) (target : WorkerLifecycleState) (reason : LifecycleReason)
      (when : Instant) (a : TransitionArguments) (allowed : scope.moves current target reason a)
      (moved : Moved s s' current target reason when a)
  | renew (current : SnapshotFields) (reason : LifecycleReason) (when : Instant)
      (allowed : scope.renews current reason) (renewed : Renewed s s' current reason when)

/-- The writes of one operation. -/
abbrev Writes (scope : Scope) : State → State → Prop := Relation.ReflTransGen (Write scope)

/-- What every write preserves, the writes of an operation preserve. -/
theorem Writes.invariant {scope : Scope} {Inv : State → Prop}
    (preserved : ∀ {a b}, Write scope a b → Inv a → Inv b) {s s' : State}
    (writes : Writes scope s s') (start : Inv s) : Inv s' := by
  induction writes with
  | refl => exact start
  | tail _ write ih => exact preserved write ih

/-- What every write establishes, the writes of an operation establish, if it is
reflexive and transitive. -/
theorem Writes.relation {scope : Scope} {R : State → State → Prop} (refl : ∀ s, R s s)
    (trans : ∀ {a b c}, R a b → R b c → R a c) (single : ∀ {a b}, Write scope a b → R a b)
    {s s' : State} (writes : Writes scope s s') : R s s' := by
  induction writes with
  | refl => exact refl _
  | tail _ write ih => exact trans ih (single write)

/-- Writes outside of the verdicts leave them. -/
theorem Writes.attestations_eq {scope : Scope} (quiet : ¬ scope.attests) {s s' : State}
    (writes : Writes scope s s') : s'.attestations = s.attestations := by
  refine Writes.relation (R := fun a b => b.attestations = a.attestations) (fun _ => rfl)
    (fun first second => second.trans first) (fun write => ?_) writes
  cases write with
  | advance when allowed result => rw [result]
  | other same enrollments attestations => exact attestations.resolve_left quiet
  | begin hotkey state reason when evidence allowed clocked enrolled absent recorded =>
    exact recorded.attestations
  | move current target reason when a allowed moved =>
    obtain ⟨_, recorded⟩ := moved.recorded
    exact recorded.attestations
  | renew current reason when allowed renewed => exact renewed.recorded.attestations

/-! ## Scopes -/

/-- No write at all but of the clock. -/
def Scope.idle : Scope :=
  ⟨fun _ _ _ => False, fun _ _ _ _ => False, fun _ _ => False, False, False⟩

/-- The transitions of a failed refresh. -/
def FailureMove (hotkey : Text) (when : Instant) (current : SnapshotFields)
    (target : WorkerLifecycleState) (reason : LifecycleReason) (a : TransitionArguments) : Prop :=
  current.hotkey = hotkey ∧ ¬ SnapshotFields.OutOfService current ∧ a.Inherits ∧
    ((target = .failed ∧ reason = .retryExhausted) ∨
      (target = retryTarget current when ∧ reason = .refreshRetry))

/-- The transition of a verified attestation. -/
def AttestedMove (p : Platform) (ttl : ℕ) (hotkey : Text) (attested : Attested)
    (current : SnapshotFields) (target : WorkerLifecycleState) (reason : LifecycleReason)
    (a : TransitionArguments) : Prop :=
  current.hotkey = hotkey ∧ target = .attested ∧ reason = .attestationVerified ∧
    a.measurement = some attested.measurement ∧
    ∃ assurance verifiedRaw verifiedAt, attested.assurance = some assurance ∧
      assurance.hardware.verifiedAt = some verifiedRaw ∧
      parseIsoUtc p verifiedRaw = .ok verifiedAt ∧ a.evidenceVerifiedAt = some verifiedAt ∧
      a.evidenceExpiresAt = some (verifiedAt + Instant.seconds ttl)

/-- The expiry of an attestation. -/
def ExpiryMove (current : SnapshotFields) (target : WorkerLifecycleState)
    (reason : LifecycleReason) (a : TransitionArguments) : Prop :=
  current.state = .attested ∧ target = .stale ∧ reason = .evidenceExpired ∧ a.Inherits

/-- What an operation may write. -/
def Op.scope (p : Platform) : Op → Scope
  | backfill _ _ => { Scope.idle with
      begins := fun state reason _ => (state, reason) ∈ [(.pending, .backfillPending),
        (.stale, .backfillStale), (.failed, .verificationFailed)] }
  | enroll a _ _ => { Scope.idle with
      begins := fun state reason evidence => state = .pending ∧ reason = .enrolled ∧ evidence = {}
      renews := fun current reason => current.hotkey = a.hotkey ∧ reason = .endpointChanged ∧
        ¬ SnapshotFields.OperatorOnly current
      enrolls := True
      attests := True }
  | transitionLifecycle hotkey target reason _ _ _ _ => { Scope.idle with
      moves := fun current target' reason' a => current.hotkey = hotkey ∧ target' = target ∧
        reason' = reason ∧ a.Inherits }
  | lifecycleSnapshot _ _ _ => { Scope.idle with moves := ExpiryMove }
  | dueRefreshes _ _ => { Scope.idle with moves := ExpiryMove }
  | recordAttestedLifecycle ttl hotkey attested _ _ _ _ _ => { Scope.idle with
      moves := AttestedMove p ttl hotkey attested }
  | recordRefreshFailure hotkey _ _ _ _ _ _ when => { Scope.idle with
      moves := FailureMove hotkey when }
  | applyLifecyclePolicy _ _ _ _ => { Scope.idle with
      moves := fun current target reason a =>
        current.state ∈ WorkerLifecycleState.networkEligibleStates ∧ target = .revoked ∧
        reason = .policyRevoked ∧ a.Inherits }
  | reenrollLifecycle hotkey reason operator _ => { Scope.idle with
      renews := fun current reason' => current.hotkey = hotkey ∧ reason' = reason ∧
        (SnapshotFields.OperatorOnly current → operator = true) }
  | retireLifecycle hotkey removed _ => { Scope.idle with
      moves := fun current target reason a => current.hotkey = hotkey ∧ a.Inherits ∧
        ((target = .retiring ∧ reason = .operatorRetiring) ∨
          (removed = true ∧ target = .retired ∧ reason = .workerRemoved)) }
  | clearVerdict _ _ => { Scope.idle with attests := True }
  | recordProbeFailure a when _ => { Scope.idle with
      moves := FailureMove a.hotkey when
      attests := True }
  | recordVerdict ttl a _ => { Scope.idle with
      moves := fun current target reason arguments =>
        (∃ attested, a.attested = some attested ∧
          AttestedMove p ttl a.hotkey attested current target reason arguments) ∨
        (current.hotkey = a.hotkey ∧ ¬ SnapshotFields.OperatorOnly current ∧ target = .failed ∧
          reason = .verificationFailed ∧ arguments.Inherits)
      attests := True }

/-! ## Inversion of the writes -/

theorem insertEvent_eq_ok {event : ℕ → EventRow} {s s' : State} {eventId : ℕ}
    (inserted : insertEvent event s = .ok (eventId, s')) :
    eventId = s.eventSequence + 1 ∧
      (s.enrollments.find? (event (s.eventSequence + 1)).hotkey).isSome ∧
      ∃ events : Table EventRow.eventId,
        events.rows = s.events.rows ++ [event (s.eventSequence + 1)] ∧
        s' = { s with eventSequence := s.eventSequence + 1, events := events } := by
  simp only [insertEvent, requireEnrolled, bind_eq_ok, require_eq_ok, demand_eq_ok, pure_eq_ok,
    Prod.mk.injEq] at inserted
  obtain ⟨-, enrolled, _, -, _, -, -, -, events, appended, rfl, rfl⟩ := inserted
  exact ⟨rfl, enrolled, events, Table.rows_of_insert appended, rfl⟩

theorem advanceLifecycleClock_eq_ok {when : Instant} {s s' : State}
    (advanced : advanceLifecycleClock when s = .ok s') :
    s.ClockAllows when ∧ s' = { s with clock := some when } := by
  simp only [advanceLifecycleClock, bind_eq_ok, require_eq_ok, pure_eq_ok] at advanced
  obtain ⟨-, allowed, rfl⟩ := advanced
  exact ⟨allowed, rfl⟩

/-- An advance of the clock is a write in any scope. -/
theorem writes_of_advance {scope : Scope} {when : Instant} {s s' : State}
    (advanced : advanceLifecycleClock when s = .ok s') : Writes scope s s' := by
  obtain ⟨allowed, result⟩ := advanceLifecycleClock_eq_ok advanced
  exact .single (.advance when allowed result)

theorem writes_of_insertInitial {scope : Scope} {hotkey : Text} {state : WorkerLifecycleState}
    {reason : LifecycleReason} {when : Instant} {evidence : InitialEvidence} {s s' : State}
    (inserted : insertInitialLifecycle hotkey state reason when evidence s = .ok s')
    (clocked : s.clock = some when) (allowed : scope.begins state reason evidence) :
    Writes scope s s' := by
  simp only [insertInitialLifecycle, bind_eq_ok, demand_eq_ok, pure_eq_ok] at inserted
  obtain ⟨⟨eventId, s₁⟩, appended, current, placed, rfl⟩ := inserted
  obtain ⟨rfl, enrolled, events, rows, rfl⟩ := insertEvent_eq_ok appended
  have absent : s.current.find? hotkey = none :=
    Table.find?_eq_none.mpr (Table.insert_eq_some.mp placed).1
  refine .single (.begin hotkey state reason when evidence allowed clocked enrolled absent
    { eventId := rfl, sequence := rfl, events := rows, clock := rfl, enrollments := rfl,
      attestations := rfl, row := ?_, others := ?_ })
  · exact (Table.find?_insert placed _).trans (if_pos rfl)
  · intro other different
    exact (Table.find?_insert placed _).trans (if_neg (Ne.symm different))

/-- A transition is an advance of the clock and a move. -/
theorem transition_cases {p : Platform} {hotkey : Text} {target : WorkerLifecycleState}
    {reason : LifecycleReason} {when : Instant} {a : TransitionArguments} {s s' : State}
    {snapshot : LifecycleSnapshot}
    (transitioned : transitionLifecycleInConnection p hotkey target reason when a s =
      .ok (snapshot, s')) :
    ∃ current, s.current.find? hotkey = some current ∧ current.hotkey = hotkey ∧
      s.ClockAllows when ∧ Moved { s with clock := some when } s' current target reason when a := by
  simp only [transitionLifecycleInConnection, requireExpected, requireTransition,
    requireTransitionReason, bind_eq_ok, require_eq_ok, pure_eq_ok, Prod.mk.injEq] at transitioned
  obtain ⟨-, -, -, -, s₁, advanced, old, read, -, -, -, later, -, legal, -, reasoned, -, fresh, -,
    scheduled, ⟨eventId, s₂⟩, appended, -, -, changed, reread, rfl, rfl⟩ := transitioned
  obtain ⟨allowed, rfl⟩ := advanceLifecycleClock_eq_ok advanced
  have found := currentSnapshot_eq_ok read
  have named : old.fields.hotkey = hotkey := (Table.find?_eq_some.mp found).2
  obtain ⟨rfl, enrolled, events, rows, rfl⟩ := insertEvent_eq_ok appended
  refine ⟨old.fields, found, named, allowed, rfl, named ▸ found, later, legal, reasoned, fresh,
    scheduled, _,
    { eventId := rfl, sequence := rfl, events := rows, clock := rfl, enrollments := rfl,
      attestations := rfl, row := ?_, others := ?_ }⟩
  · -- the row the update meets is the one that was read
    rw [Table.find?_update, show (transitionEvent old.fields target reason when
      (chosenValues old.fields target reason a) _ (s.eventSequence + 1)).hotkey = hotkey from named,
      found, Option.map_some, if_pos ⟨rfl, rfl, rfl⟩]
  · intro other different
    rw [Table.find?_update]
    cases untouched : s.current.find? other with
    | none => rfl
    | some row =>
      have keyed := (Table.find?_eq_some.mp untouched).2
      rw [Option.map_some, if_neg]
      rintro ⟨same, -⟩
      exact different (keyed.symm.trans same)

theorem writes_of_transition {p : Platform} {hotkey : Text} {target : WorkerLifecycleState}
    {reason : LifecycleReason} {when : Instant} {a : TransitionArguments} {s s' : State}
    {snapshot : LifecycleSnapshot} {scope : Scope}
    (transitioned : transitionLifecycleInConnection p hotkey target reason when a s =
      .ok (snapshot, s'))
    (allowed : ∀ current, s.current.find? hotkey = some current → current.hotkey = hotkey →
      scope.moves current target reason a) : Writes scope s s' := by
  obtain ⟨current, found, named, clock, moved⟩ := transition_cases transitioned
  exact .head (.advance when clock rfl)
    (.single (.move current target reason when a (allowed current found named) moved))

/-- A re-enrollment is an advance of the clock and a new generation. -/
theorem reenroll_cases {p : Platform} {hotkey : Text} {reason : LifecycleReason}
    {operator : Bool} {when : Instant} {s s' : State} {snapshot : LifecycleSnapshot}
    (reenrolled : reenrollLifecycle p hotkey reason operator when s = .ok (snapshot, s')) :
    ∃ current, s.current.find? hotkey = some current ∧ current.hotkey = hotkey ∧
      (SnapshotFields.OperatorOnly current → operator = true) ∧ s.ClockAllows when ∧
      Renewed { s with clock := some when } s' current reason when := by
  simp only [reenrollLifecycle, bind_eq_ok, require_eq_ok, pure_eq_ok, Prod.mk.injEq] at reenrolled
  obtain ⟨-, reasoned, s₁, advanced, old, read, -, guarded, ⟨eventId, s₂⟩, appended, changed,
    reread, rfl, rfl⟩ := reenrolled
  obtain ⟨clock, rfl⟩ := advanceLifecycleClock_eq_ok advanced
  have found := currentSnapshot_eq_ok read
  have named : old.fields.hotkey = hotkey := (Table.find?_eq_some.mp found).2
  obtain ⟨rfl, enrolled, events, rows, rfl⟩ := insertEvent_eq_ok appended
  refine ⟨old.fields, found, named, guarded, clock, rfl, named ▸ found, reasoned,
    { eventId := rfl, sequence := rfl, events := rows, clock := rfl, enrollments := rfl,
      attestations := rfl, row := ?_, others := ?_ }⟩
  · rw [Table.find?_update, show (reenrollEvent old.fields reason when
      (s.eventSequence + 1)).hotkey = hotkey from named, found, Option.map_some, if_pos named]
  · intro other different
    rw [Table.find?_update]
    cases untouched : s.current.find? other with
    | none => rfl
    | some row =>
      have keyed := (Table.find?_eq_some.mp untouched).2
      rw [Option.map_some, if_neg]
      intro same
      exact different ((keyed.symm.trans same).trans named.symm)

theorem writes_of_reenroll {p : Platform} {hotkey : Text} {reason : LifecycleReason}
    {operator : Bool} {when : Instant} {s s' : State} {snapshot : LifecycleSnapshot}
    {scope : Scope}
    (reenrolled : reenrollLifecycle p hotkey reason operator when s = .ok (snapshot, s'))
    (allowed : ∀ current, current.hotkey = hotkey →
      (SnapshotFields.OperatorOnly current → operator = true) → scope.renews current reason) :
    Writes scope s s' := by
  obtain ⟨current, found, named, guarded, clock, renewed⟩ := reenroll_cases reenrolled
  exact .head (.advance when clock rfl)
    (.single (.renew current reason when (allowed current named guarded) renewed))

/-! ## Inversion of the operations -/

section Operations

variable {p : Platform} {scope : Scope} {s s' : State} {when : Instant}

theorem writes_of_materialize {hotkey : Text} {snapshot : LifecycleSnapshot}
    (materialized : materializeExpiryInConnection p when hotkey s = .ok (snapshot, s'))
    (allowed : ∀ current target reason a, ExpiryMove current target reason a →
      scope.moves current target reason a) : Writes scope s s' := by
  simp only [materializeExpiryInConnection, bind_eq_ok] at materialized
  obtain ⟨old, read, rest⟩ := materialized
  by_cases expired : SnapshotFields.ExpiredAt old.fields when
  · rw [if_pos expired] at rest
    refine writes_of_transition rest fun current found _ => allowed _ _ _ _ ?_
    have same := Option.some.inj ((currentSnapshot_eq_ok read).symm.trans found)
    exact ⟨same ▸ expired.1, rfl, rfl, ⟨rfl, rfl, rfl, rfl, rfl⟩⟩
  · rw [if_neg expired, pure_eq_ok] at rest
    cases rest
    exact .refl

theorem writes_of_snapshot {hotkey : Text} {materializeFreshness : Bool}
    {snapshot : LifecycleSnapshot}
    (shown : lifecycleSnapshot p hotkey materializeFreshness when s = .ok (snapshot, s'))
    (allowed : ∀ current target reason a, ExpiryMove current target reason a →
      scope.moves current target reason a) : Writes scope s s' := by
  simp only [lifecycleSnapshot, bind_eq_ok] at shown
  obtain ⟨s₁, advanced, rest⟩ := shown
  refine (writes_of_advance advanced).trans ?_
  cases materializeFreshness with
  | true => exact writes_of_materialize rest allowed
  | false =>
    simp only [Bool.false_eq_true, if_false, bind_eq_ok, pure_eq_ok, Prod.mk.injEq] at rest
    obtain ⟨_, -, -, rfl⟩ := rest
    exact .refl

theorem writes_of_dueRefreshes {refreshAheadSeconds : ℤ} {snapshots : List LifecycleSnapshot}
    (shown : dueRefreshes p refreshAheadSeconds when s = .ok (snapshots, s'))
    (allowed : ∀ current target reason a, ExpiryMove current target reason a →
      scope.moves current target reason a) : Writes scope s s' := by
  simp only [dueRefreshes, bind_eq_ok, pure_eq_ok, Prod.mk.injEq] at shown
  obtain ⟨-, -, _, -, s₁, advanced, ⟨_, s₂⟩, looped, -, rfl⟩ := shown
  refine (writes_of_advance advanced).trans ?_
  exact relation_eachInTurn (R := Writes scope) (fun _ => .refl)
    (fun first second => first.trans second)
    (fun _ _ _ _ single => writes_of_materialize single allowed) looped

theorem writes_of_attested {ttl : ℕ} {hotkey : Text} {attested : Attested}
    {policyRegistryRelease : Option ℤ} {policyRegistryDigest : Option Text}
    {expectedGeneration expectedRevision : Option ℤ} {snapshot : LifecycleSnapshot}
    (recorded : recordAttestedLifecycle p ttl hotkey attested policyRegistryRelease
      policyRegistryDigest expectedGeneration expectedRevision when s = .ok (snapshot, s'))
    (allowed : ∀ current target reason a, AttestedMove p ttl hotkey attested current target reason a →
      scope.moves current target reason a) : Writes scope s s' := by
  simp only [recordAttestedLifecycle, bind_eq_ok, require_eq_ok, demand_eq_ok, addSeconds_eq_ok]
    at recorded
  obtain ⟨-, -, assurance, assured, verifiedRaw, timed, verifiedAt, parsed, _, ⟨-, rfl⟩, -, -,
    rest⟩ := recorded
  refine writes_of_transition rest fun current _ named => allowed _ _ _ _ ?_
  exact ⟨named, rfl, rfl, rfl, assurance, verifiedRaw, verifiedAt, assured, timed, parsed, rfl, rfl⟩

theorem writes_of_refreshFailure {hotkey : Text} {attempt maximumAttempts : ℤ}
    {retry : RetryPolicy} {operatorDetail : Option Text}
    {expectedGeneration expectedRevision : Option ℤ} {snapshot : LifecycleSnapshot}
    (recorded : recordRefreshFailure p hotkey attempt maximumAttempts retry operatorDetail
      expectedGeneration expectedRevision when s = .ok (snapshot, s'))
    (allowed : ∀ current target reason a, FailureMove hotkey when current target reason a →
      scope.moves current target reason a) : Writes scope s s' := by
  simp only [recordRefreshFailure, requireExpected, bind_eq_ok, require_eq_ok] at recorded
  obtain ⟨-, -, s₁, advanced, old, read, -, -, rest⟩ := recorded
  refine (writes_of_advance advanced).trans ?_
  have same : ∀ current, s₁.current.find? hotkey = some current → current = old.fields :=
    fun current found => Option.some.inj (found.symm.trans (currentSnapshot_eq_ok read))
  by_cases outside : SnapshotFields.OutOfService old.fields
  · rw [if_pos outside, pure_eq_ok] at rest
    cases rest
    exact .refl
  · rw [if_neg outside] at rest
    by_cases exhausted : attempt = maximumAttempts
    · rw [if_pos exhausted] at rest
      refine writes_of_transition rest fun current found named => allowed _ _ _ _ ?_
      exact ⟨named, same current found ▸ outside, ⟨rfl, rfl, rfl, rfl, rfl⟩, .inl ⟨rfl, rfl⟩⟩
    · rw [if_neg exhausted] at rest
      simp only [bind_eq_ok] at rest
      obtain ⟨_, -, _, -, rest⟩ := rest
      refine writes_of_transition rest fun current found named => allowed _ _ _ _ ?_
      have read' := same current found
      exact ⟨named, read' ▸ outside, ⟨rfl, rfl, rfl, rfl, rfl⟩, .inr ⟨by rw [read'], rfl⟩⟩

/-- The loop of a policy over rows that are still current. Revoking one worker
leaves the rows of the others as they were read. -/
theorem writes_of_revocations {allowedMeasurements : List Text}
    {policyRegistryRelease : Option ℤ} {policyRegistryDigest : Option Text}
    (allowed : ∀ current a, current.state ∈ WorkerLifecycleState.networkEligibleStates →
      a.Inherits → scope.moves current .revoked .policyRevoked a)
    {rows : List SnapshotFields} {outputs : List (Option LifecycleSnapshot)}
    (distinct : (rows.map SnapshotFields.hotkey).Nodup)
    (current : ∀ row ∈ rows, s.current.find? row.hotkey = some row)
    (looped : eachInTurn (revokeDisallowed p allowedMeasurements policyRegistryRelease
      policyRegistryDigest when) rows s = .ok (outputs, s')) : Writes scope s s' := by
  induction rows generalizing s outputs with
  | nil =>
    cases looped
    exact .refl
  | cons row rows ih =>
    simp only [eachInTurn, revokeDisallowed, bind_eq_ok, pure_eq_ok, Prod.mk.injEq] at looped
    obtain ⟨⟨output, middle⟩, ⟨old, read, rest⟩, ⟨_, last⟩, others, -, rfl⟩ := looped
    have shown : old.fields = row := makeSnapshot_eq_ok (mapError_eq_ok.mp read)
    obtain ⟨fresh, distinct⟩ := List.nodup_cons.mp distinct
    -- a worker that the policy disallows is revoked, and its row is the one that was read
    by_cases disallowed : SnapshotFields.Disallowed old.fields allowedMeasurements
    · rw [if_pos disallowed] at rest
      simp only [bind_eq_ok, pure_eq_ok, Prod.mk.injEq] at rest
      obtain ⟨⟨_, _⟩, transitioned, -, rfl⟩ := rest
      obtain ⟨worker, found, named, clock, moved⟩ := transition_cases transitioned
      rw [shown] at found
      have same := Option.some.inj (found.symm.trans (current row List.mem_cons_self))
      have eligible : worker.state ∈ WorkerLifecycleState.networkEligibleStates := by
        rw [same, ← shown]
        exact disallowed.1
      have move := Write.move worker .revoked .policyRevoked when _
        (allowed worker _ eligible ⟨rfl, rfl, rfl, rfl, rfl⟩) moved
      refine .head (.advance when clock rfl) (.head move (ih distinct ?_ others))
      -- the rows of the others are still current afterwards
      intro other member
      obtain ⟨_, recorded⟩ := moved.recorded
      have different : other.hotkey ≠ worker.hotkey := by
        rw [same]
        intro clash
        exact fresh (List.mem_map.mpr ⟨other, member, clash⟩)
      rw [recorded.others other.hotkey different]
      exact current other (List.mem_cons_of_mem _ member)
    · rw [if_neg disallowed, pure_eq_ok] at rest
      cases rest
      exact ih distinct (fun other member => current other (List.mem_cons_of_mem _ member)) others

theorem writes_of_policy {allowedMeasurements : List Text} {policyRegistryRelease : Option ℤ}
    {policyRegistryDigest : Option Text} {revoked : List LifecycleSnapshot}
    (applied : applyLifecyclePolicy p allowedMeasurements policyRegistryRelease
      policyRegistryDigest when s = .ok (revoked, s'))
    (allowed : ∀ current a, current.state ∈ WorkerLifecycleState.networkEligibleStates →
      a.Inherits → scope.moves current .revoked .policyRevoked a) : Writes scope s s' := by
  simp only [applyLifecyclePolicy, bind_eq_ok, require_eq_ok, pure_eq_ok, Prod.mk.injEq] at applied
  obtain ⟨-, -, s₁, advanced, ⟨_, s₂⟩, looped, -, rfl⟩ := applied
  refine (writes_of_advance advanced).trans ?_
  have sorted : (orderedRows s₁).Perm s₁.current.rows := List.perm_insertionSort _ _
  refine writes_of_revocations allowed ?_ ?_ looped
  · exact (sorted.map SnapshotFields.hotkey).nodup_iff.mpr s₁.current.unique
  · intro row member
    exact Table.find?_eq_some.mpr ⟨sorted.mem_iff.mp member, rfl⟩

theorem writes_of_retire {hotkey : Text} {removed : Bool} {snapshot : LifecycleSnapshot}
    (retired : retireLifecycle p hotkey removed when s = .ok (snapshot, s'))
    (allowed : ∀ current target reason a, current.hotkey = hotkey → a.Inherits →
      (target = .retiring ∧ reason = .operatorRetiring) ∨
        (removed = true ∧ target = .retired ∧ reason = .workerRemoved) →
      scope.moves current target reason a) : Writes scope s s' := by
  simp only [retireLifecycle, bind_eq_ok] at retired
  obtain ⟨s₁, advanced, old, read, rest⟩ := retired
  refine (writes_of_advance advanced).trans ?_
  by_cases terminal : old.fields.state ∈ WorkerLifecycleState.terminalStates
  · rw [if_pos terminal, pure_eq_ok] at rest
    cases rest
    exact .refl
  · rw [if_neg terminal] at rest
    simp only [bind_eq_ok] at rest
    obtain ⟨⟨retiring, s₂⟩, begun, rest⟩ := rest
    have first : Writes scope s₁ s₂ := by
      by_cases already : old.fields.state = .retiring
      · rw [beginRetirement, if_pos already] at begun
        cases begun
        exact .refl
      · rw [beginRetirement, if_neg already] at begun
        exact writes_of_transition begun fun current _ named =>
          allowed _ _ _ _ named ⟨rfl, rfl, rfl, rfl, rfl⟩ (.inl ⟨rfl, rfl⟩)
    refine first.trans ?_
    cases removed with
    | false =>
      simp only [Bool.false_eq_true, if_false, pure_eq_ok, Prod.mk.injEq] at rest
      obtain ⟨-, rfl⟩ := rest
      exact .refl
    | true =>
      exact writes_of_transition rest fun current _ named =>
        allowed _ _ _ _ named ⟨rfl, rfl, rfl, rfl, rfl⟩ (.inr ⟨rfl, rfl, rfl⟩)

/-- Writes outside the lifecycle tables. -/
theorem writes_of_same (same : SameLifecycle s s')
    (enrollments : scope.enrolls ∨ s'.enrollments = s.enrollments)
    (attestations : scope.attests ∨ s'.attestations = s.attestations) : Writes scope s s' :=
  .single (.other same enrollments attestations)

theorem spendNonce_eq_ok {a : EnrollArguments} {ts : Instant}
    (spent : spendNonce a ts s = .ok s') : ∃ nonces, s' = { s with nonces := nonces } := by
  unfold spendNonce at spent
  split at spent
  · cases spent
    exact ⟨s.nonces, rfl⟩
  · simp only [bind_eq_ok, demand_eq_ok, pure_eq_ok] at spent
    obtain ⟨_, -, nonces, -, rfl⟩ := spent
    exact ⟨nonces, rfl⟩

theorem writes_of_enrollNew {a : EnrollArguments} {canonical : Text} {ts : Instant}
    (enrolled : enrollNew a canonical ts when s = .ok s') (enrolls : scope.enrolls)
    (begins : scope.begins .pending .enrolled {}) : Writes scope s s' := by
  simp only [enrollNew, bind_eq_ok, demand_eq_ok] at enrolled
  obtain ⟨enrollments, -, s₁, advanced, inserted⟩ := enrolled
  have listed : Writes scope s { s with enrollments := enrollments } :=
    writes_of_same ⟨rfl, rfl, rfl, rfl⟩ (.inl enrolls) (.inr rfl)
  refine listed.trans ((writes_of_advance advanced).trans ?_)
  refine writes_of_insertInitial inserted ?_ begins
  rw [(advanceLifecycleClock_eq_ok advanced).2]

theorem writes_of_enrollAgain {a : EnrollArguments} {prior : EnrollmentRow} {canonical : Text}
    {ts : Instant} (enrolled : enrollAgain p a prior canonical ts when s = .ok s')
    (enrolls : scope.enrolls) (attests : scope.attests)
    (renews : ∀ current, current.hotkey = a.hotkey → ¬ SnapshotFields.OperatorOnly current →
      scope.renews current .endpointChanged) : Writes scope s s' := by
  unfold enrollAgain at enrolled
  by_cases changed : prior.endpointUrl ≠ a.endpointUrl
  · simp only [if_pos changed, bind_eq_ok, pure_eq_ok] at enrolled
    obtain ⟨⟨_, s₁⟩, reenrolled, rfl⟩ := enrolled
    have cleared : Writes scope s (deleteAttestation a.hotkey { s with
        enrollments := s.enrollments.update (fun row => row.hotkey = a.hotkey)
          (fun row => row.refresh a canonical ts) }) :=
      writes_of_same ⟨rfl, rfl, rfl, rfl⟩ (.inl enrolls) (.inl attests)
    refine cleared.trans (writes_of_reenroll reenrolled fun current named guarded => ?_)
    exact renews current named fun only => absurd (guarded only) Bool.false_ne_true
  · simp only [if_neg changed, pure_eq_ok] at enrolled
    cases enrolled
    exact writes_of_same ⟨rfl, rfl, rfl, rfl⟩ (.inl enrolls) (.inr rfl)

/-- Enrolling passes the caps on the database it finds, spends the nonce, and
then writes the worker. -/
theorem enroll_cases {a : EnrollArguments} {ts : Instant} {u : Unit}
    (enrolled : enroll p a ts when s = .ok (u, s')) :
    ∃ canonical nonces, canonicalEndpointKey p a.endpointUrl = .ok canonical ∧
      enforceEnrollmentCaps p a s = .ok () ∧
      enrollWorker p a canonical ts when { s with nonces := nonces } = .ok s' := by
  simp only [enroll, bind_eq_ok, pure_eq_ok, Prod.mk.injEq] at enrolled
  obtain ⟨_, -, _, capped, s₁, spent, canonical, keyed, s₂, written, -, rfl⟩ := enrolled
  obtain ⟨nonces, rfl⟩ := spendNonce_eq_ok spent
  exact ⟨canonical, nonces, keyed, capped, written⟩

theorem writes_of_enroll {a : EnrollArguments} {ts : Instant} {u : Unit}
    (enrolled : enroll p a ts when s = .ok (u, s')) (enrolls : scope.enrolls)
    (attests : scope.attests) (begins : scope.begins .pending .enrolled {})
    (renews : ∀ current, current.hotkey = a.hotkey → ¬ SnapshotFields.OperatorOnly current →
      scope.renews current .endpointChanged) : Writes scope s s' := by
  obtain ⟨canonical, nonces, -, -, written⟩ := enroll_cases enrolled
  have spent : Writes scope s { s with nonces := nonces } :=
    writes_of_same ⟨rfl, rfl, rfl, rfl⟩ (.inr rfl) (.inr rfl)
  refine spent.trans ?_
  unfold enrollWorker at written
  split at written
  · exact writes_of_enrollNew written enrolls begins
  · exact writes_of_enrollAgain written enrolls attests renews

/-- What an upsert leaves: the row for its hotkey, and the rows of the others. -/
theorem upsertAttestation_eq_ok {row : AttestationRow} (written : upsertAttestation row s = .ok s') :
    ∃ attestations : Table AttestationRow.hotkey, s' = { s with attestations := attestations } ∧
      ∀ x, x ∈ attestations.rows ↔
        x = row ∨ (x ∈ s.attestations.rows ∧ x.hotkey ≠ row.hotkey) := by
  simp only [upsertAttestation, bind_eq_ok, demand_eq_ok, pure_eq_ok] at written
  obtain ⟨_, -, _, -, attestations, placed, rfl⟩ := written
  refine ⟨attestations, rfl, fun x => ?_⟩
  unfold upserted at placed
  split at placed
  case h_1 absent =>
    have fresh := Table.find?_eq_none.mp absent
    rw [Table.mem_insert placed]
    constructor
    · rintro (old | rfl)
      · exact .inr ⟨old, fresh x old⟩
      · exact .inl rfl
    · rintro (rfl | ⟨old, -⟩)
      · exact .inr rfl
      · exact .inl old
  case h_2 existing found =>
    cases placed
    obtain ⟨member, keyed⟩ := Table.find?_eq_some.mp found
    constructor
    · intro inside
      obtain ⟨old, oldMember, rfl⟩ := Table.exists_of_mem_update inside
      by_cases same : old.hotkey = row.hotkey
      · rw [if_pos same, same]
        exact .inl rfl
      · rw [if_neg same]
        exact .inr ⟨oldMember, same⟩
    · rintro (rfl | ⟨oldMember, different⟩)
      · have rewritten := Table.mem_update_of (p := fun other => other.hotkey = x.hotkey)
          (f := fun other : AttestationRow => { x with hotkey := other.hotkey }) member keyed
        rwa [keyed] at rewritten
      · exact Table.mem_update_of_not oldMember different

theorem writes_of_upsert {row : AttestationRow} (written : upsertAttestation row s = .ok s')
    (attests : scope.attests) : Writes scope s s' := by
  obtain ⟨attestations, rfl, -⟩ := upsertAttestation_eq_ok written
  exact writes_of_same ⟨rfl, rfl, rfl, rfl⟩ (.inr rfl) (.inl attests)

/-- The lifecycle half of a verdict: it attests the worker or fails it. -/
theorem writes_of_applyVerdict {ttl : ℕ} {a : VerdictArguments} {record : VerdictRecord}
    {current : SnapshotFields} (found : s.current.find? a.hotkey = some current)
    (applied : applyVerdict p ttl a record current when s = .ok s')
    (attested : ∀ attested row target reason arguments, a.attested = some attested →
      record.status = Text.ofString "VERIFIED" →
      AttestedMove p ttl a.hotkey attested row target reason arguments →
      scope.moves row target reason arguments)
    (failed : ∀ row arguments, row.hotkey = a.hotkey → ¬ SnapshotFields.OperatorOnly row →
      arguments.Inherits → scope.moves row .failed .verificationFailed arguments) :
    Writes scope s s' := by
  have failing : ∀ {expectedGeneration expectedRevision : Option ℤ},
      applyVerdict.failVerdict p a record current when s expectedGeneration expectedRevision =
        .ok s' → Writes scope s s' := by
    intro expectedGeneration expectedRevision outcome
    unfold applyVerdict.failVerdict at outcome
    by_cases only : SnapshotFields.OperatorOnly current
    · rw [if_pos only] at outcome
      cases outcome
      exact .refl
    · rw [if_neg only, map_eq_ok] at outcome
      obtain ⟨⟨_, _⟩, transitioned, rfl⟩ := outcome
      refine writes_of_transition transitioned fun row read named => ?_
      have same := Option.some.inj (read.symm.trans found)
      exact failed row _ named (same ▸ only) ⟨rfl, rfl, rfl, rfl, rfl⟩
  unfold applyVerdict at applied
  dsimp only at applied
  split at applied
  case h_1 verdict presented =>
    by_cases verified : record.status = Text.ofString "VERIFIED"
    · rw [if_pos verified, map_eq_ok] at applied
      obtain ⟨⟨_, _⟩, recorded, rfl⟩ := applied
      exact writes_of_attested recorded fun row target reason arguments =>
        attested verdict row target reason arguments presented verified
    · rw [if_neg verified] at applied
      exact failing applied
  case h_2 => exact failing applied

/-- The lifecycle half of a verdict leaves the verdicts. -/
theorem attestations_of_applyVerdict {ttl : ℕ} {a : VerdictArguments} {record : VerdictRecord}
    {current : SnapshotFields} (found : s.current.find? a.hotkey = some current)
    (applied : applyVerdict p ttl a record current when s = .ok s') :
    s'.attestations = s.attestations := by
  have writes : Writes { Scope.idle with moves := fun _ _ _ _ => True } s s' :=
    writes_of_applyVerdict found applied (fun _ _ _ _ _ _ _ _ => trivial) fun _ _ _ _ _ => trivial
  exact writes.attestations_eq fun attests => attests

/-- A verdict is recorded behind the chip gate, and then applied. -/
theorem recordVerdict_cases {ttl : ℕ} {a : VerdictArguments} {clock : VerdictClock} {u : Unit}
    (recorded : recordVerdict p ttl a clock s = .ok (u, s')) :
    ∃ record s₁ current,
      gatedRecord p ttl a.hotkey (presentedRecord a) clock.gate s = .ok record ∧
      upsertAttestation ⟨a.hotkey, record.chipId, record.tier, record.status,
        .time clock.ts.floorSecond, record.error, assuranceJson p a.attested⟩ s = .ok s₁ ∧
      s₁.current.find? a.hotkey = some current ∧
      applyVerdict p ttl a record current clock.when s₁ = .ok s' := by
  simp only [recordVerdict, bind_eq_ok, pure_eq_ok, Prod.mk.injEq] at recorded
  obtain ⟨_, -, _, -, _, -, record, gated, s₁, written, current, read, s₂, applied, -, rfl⟩ :=
    recorded
  exact ⟨record, s₁, current.fields, gated, written, currentSnapshot_eq_ok read, applied⟩

/-- A failed probe replaces the verdict on record, and then records the failure. -/
theorem recordProbeFailure_cases {a : ProbeArguments} {ts : Instant}
    {snapshot : LifecycleSnapshot}
    (recorded : recordProbeFailure p a when ts s = .ok (snapshot, s')) :
    ∃ current s₁, s.current.find? a.hotkey = some current ∧
      upsertAttestation ⟨a.hotkey, none, none, Text.ofString "FAILED", .time ts.floorSecond,
        a.error, none⟩ s = .ok s₁ ∧
      recordRefreshFailure p a.hotkey (min ((current.retryCount : ℤ) + 1) a.maximumAttempts)
        a.maximumAttempts a.retry a.error
        (a.expectedGeneration <|> some (current.generation : ℤ))
        (a.expectedRevision <|> some (current.revision : ℤ)) when s₁ = .ok (snapshot, s') := by
  simp only [recordProbeFailure, bind_eq_ok] at recorded
  obtain ⟨_, -, current, read, s₁, written, rest⟩ := recorded
  exact ⟨current.fields, s₁, currentSnapshot_eq_ok read, written, rest⟩

theorem backfillStart_mem {ttl : ℕ} {row : Option AttestationRow} {start : BackfillStart}
    (chosen : backfillStart p ttl row = .ok start) :
    (start.state, start.reason) ∈ [(WorkerLifecycleState.pending, LifecycleReason.backfillPending),
      (.stale, .backfillStale), (.failed, .verificationFailed)] := by
  unfold backfillStart at chosen
  split at chosen
  · cases chosen
    decide
  · split at chosen
    · split at chosen
      · cases chosen
        decide
      · cases chosen
      · simp only [bind_eq_ok, pure_eq_ok] at chosen
        obtain ⟨_, -, rfl⟩ := chosen
        split <;> simp
    · cases chosen
      decide

/-- The loop of a backfill, at the time of the clock. -/
theorem writes_of_backfillWorkers {ttl : ℕ} {hotkeys : List Text} {outputs : List Unit}
    (begins : ∀ start : BackfillStart, (start.state, start.reason) ∈
        [(WorkerLifecycleState.pending, LifecycleReason.backfillPending), (.stale, .backfillStale),
          (.failed, .verificationFailed)] →
      scope.begins start.state start.reason start.evidence)
    (clocked : s.clock = some when)
    (looped : eachInTurn (backfillWorker p ttl when) hotkeys s = .ok (outputs, s')) :
    Writes scope s s' := by
  induction hotkeys generalizing s outputs with
  | nil =>
    cases looped
    exact .refl
  | cons hotkey hotkeys ih =>
    simp only [eachInTurn, backfillWorker, bind_eq_ok, pure_eq_ok, Prod.mk.injEq] at looped
    obtain ⟨⟨_, s₁⟩, ⟨start, chosen, _, inserted, -, rfl⟩, ⟨_, last⟩, others, -, rfl⟩ := looped
    have first : Writes scope s s₁ :=
      writes_of_insertInitial inserted clocked (begins start (backfillStart_mem chosen))
    refine first.trans (ih ?_ others)
    simp only [insertInitialLifecycle, bind_eq_ok, demand_eq_ok, pure_eq_ok] at inserted
    obtain ⟨⟨_, s₂⟩, appended, _, -, rfl⟩ := inserted
    obtain ⟨-, -, _, -, rfl⟩ := insertEvent_eq_ok appended
    exact clocked

theorem writes_of_backfill {ttl : ℕ} {u : Unit}
    (filled : backfillLifecycle p ttl when s = .ok (u, s'))
    (begins : ∀ start : BackfillStart, (start.state, start.reason) ∈
        [(WorkerLifecycleState.pending, LifecycleReason.backfillPending), (.stale, .backfillStale),
          (.failed, .verificationFailed)] →
      scope.begins start.state start.reason start.evidence) : Writes scope s s' := by
  simp only [backfillLifecycle, bind_eq_ok, pure_eq_ok, Prod.mk.injEq] at filled
  obtain ⟨s₁, advanced, ⟨_, s₂⟩, looped, -, rfl⟩ := filled
  refine (writes_of_advance advanced).trans (writes_of_backfillWorkers begins ?_ looped)
  rw [(advanceLifecycleClock_eq_ok advanced).2]

/-- **Inversion.** A committed operation is a sequence of writes in its scope. -/
theorem writes_of_commit {op : Op} (committed : op.commit p s = .ok s') :
    Writes (op.scope p) s s' := by
  cases op <;> simp only [Op.commit, map_eq_ok, Prod.exists, exists_eq_right] at committed
  case backfill ttl when =>
    obtain ⟨_, filled⟩ := committed
    exact writes_of_backfill filled fun start member => member
  case enroll a ts when =>
    obtain ⟨_, enrolled⟩ := committed
    exact writes_of_enroll enrolled trivial trivial ⟨rfl, rfl, rfl⟩
      fun current named service => ⟨named, rfl, service⟩
  case transitionLifecycle hotkey target reason generation revision detail when =>
    obtain ⟨_, transitioned⟩ := committed
    exact writes_of_transition transitioned fun current _ named =>
      ⟨named, rfl, rfl, ⟨rfl, rfl, rfl, rfl, rfl⟩⟩
  case lifecycleSnapshot hotkey fresh when =>
    obtain ⟨_, shown⟩ := committed
    exact writes_of_snapshot shown fun _ _ _ _ expiry => expiry
  case dueRefreshes ahead when =>
    obtain ⟨_, shown⟩ := committed
    exact writes_of_dueRefreshes shown fun _ _ _ _ expiry => expiry
  case recordAttestedLifecycle ttl hotkey attested release digest generation revision when =>
    obtain ⟨_, recorded⟩ := committed
    exact writes_of_attested recorded fun _ _ _ _ move => move
  case recordRefreshFailure hotkey attempt maximum retry detail generation revision when =>
    obtain ⟨_, recorded⟩ := committed
    exact writes_of_refreshFailure recorded fun _ _ _ _ move => move
  case applyLifecyclePolicy measurements release digest when =>
    obtain ⟨_, applied⟩ := committed
    exact writes_of_policy applied fun _ _ eligible inherits => ⟨eligible, rfl, rfl, inherits⟩
  case reenrollLifecycle hotkey reason operator when =>
    obtain ⟨_, reenrolled⟩ := committed
    exact writes_of_reenroll reenrolled fun current named guarded => ⟨named, rfl, guarded⟩
  case retireLifecycle hotkey removed when =>
    obtain ⟨_, retired⟩ := committed
    exact writes_of_retire retired fun _ _ _ _ named inherits goal => ⟨named, inherits, goal⟩
  -- the verdicts are written here, and no worker is moved
  case clearVerdict hotkey when =>
    obtain ⟨_, cleared⟩ := committed
    simp only [clearVerdict, bind_eq_ok, pure_eq_ok, Prod.mk.injEq] at cleared
    obtain ⟨_, -, -, rfl⟩ := cleared
    exact writes_of_same ⟨rfl, rfl, rfl, rfl⟩ (.inr rfl) (.inl trivial)
  -- first the verdict, then the move of the worker
  case recordProbeFailure a when ts =>
    obtain ⟨_, recorded⟩ := committed
    obtain ⟨_, s₁, -, written, rest⟩ := recordProbeFailure_cases recorded
    exact (writes_of_upsert written trivial).trans
      (writes_of_refreshFailure rest fun _ _ _ _ move => move)
  case recordVerdict ttl a clock =>
    obtain ⟨_, recorded⟩ := committed
    obtain ⟨record, s₁, current, -, written, found, applied⟩ := recordVerdict_cases recorded
    refine (writes_of_upsert written trivial).trans (writes_of_applyVerdict found applied ?_ ?_)
    · intro attested row target reason arguments presented _ move
      exact .inl ⟨attested, presented, move⟩
    · intro row arguments named service inherits
      exact .inr ⟨named, service, rfl, rfl, inherits⟩

end Operations

end Cathedral.Registry
