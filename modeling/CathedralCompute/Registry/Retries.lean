import CathedralCompute.Registry.ChipBindings
import Mathlib.Data.Prod.Lex

/-!
# Bounded retries

A failure of a worker in service either schedules a retry, with the number of the
attempt in the worker's row, or fails the worker when the attempt is the last.
`record_probe_failure` takes the number from the row it finds. `record_refresh_failure`
is given it, and does not compare it with the row: the epoch runtime counts on from a
snapshot that it takes before, and the revision it expects ties the two together.

The failures of each worker since it was last attested, or entered a generation, are
counted beside the database. They are never ahead of the row, and the row of a worker
in service is below the maximum.

## Main results

* `retries_bounded` — in every run whose attempts count on, a worker in service has
  failed less often than the maximum, a failure gives nothing, and a retry is
  scheduled within the delay of its policy; the calls of the runtime count on
* `not_retries_bounded_recounted` — a caller that passes the first attempt again and
  again
-/

set_option autoImplicit false

namespace Cathedral.Registry

open Codec Semantics

/-! ## Counting -/

/-- The worker is in a state in which it is probed. -/
def InNetwork (s : State) (hotkey : Text) : Prop :=
  ∃ row ∈ s.current.find? hotkey, row.state ∈ WorkerLifecycleState.networkEligibleStates

instance (s : State) (hotkey : Text) : Decidable (InNetwork s hotkey) :=
  inferInstanceAs (Decidable (∃ row ∈ s.current.find? hotkey, _))

/-- The worker whose verification the operation can record as failed. -/
def Op.failing : Op → Option Text
  | recordRefreshFailure hotkey _ _ _ _ _ _ _ => some hotkey
  | recordProbeFailure a _ _ => some a.hotkey
  | recordVerdict _ a _ => some a.hotkey
  | _ => none

/-- The retry policy of an operation that schedules retries. -/
def Op.retryPolicy : Op → Option RetryPolicy
  | recordRefreshFailure _ _ _ retry _ _ _ _ => some retry
  | recordProbeFailure a _ _ => some a.retry
  | _ => none

/-- The worker is attested, or enters a generation. -/
def Starts (s s' : State) (hotkey : Text) : Prop :=
  Attests s s' hotkey ∨
    (s'.current.find? hotkey).map SnapshotFields.generation ≠
      (s.current.find? hotkey).map SnapshotFields.generation

instance (s s' : State) (hotkey : Text) : Decidable (Starts s s' hotkey) :=
  inferInstanceAs (Decidable (_ ∨ _))

/-- The operation records a failure of a worker that was in service. -/
def Op.Suffers (op : Op) (s s' : State) (hotkey : Text) : Prop :=
  op.failing = some hotkey ∧ InNetwork s hotkey ∧
    s'.current.find? hotkey ≠ s.current.find? hotkey

instance (op : Op) (s s' : State) (hotkey : Text) : Decidable (op.Suffers s s' hotkey) :=
  inferInstanceAs (Decidable (_ ∧ _))

/-- A database with the failures of each worker since it was last attested, or
entered a generation. -/
structure Counted where
  state : State
  failures : Text → ℕ

/-- An operation, counted. -/
def Counted.step (p : Platform) (c : Counted) (op : Op) : Counted where
  state := Registry.step p c.state op
  failures hotkey :=
    let after := Registry.step p c.state op
    if Starts c.state after hotkey then 0
    else if op.Suffers c.state after hotkey then c.failures hotkey + 1
    else c.failures hotkey

/-- The failures of the operation count to this maximum, and its attempt counts on
from the row that it is meant for. -/
def Op.CountsOn (maximum : ℤ) (s : State) : Op → Prop
  | recordRefreshFailure hotkey attempt maximumAttempts _ _ generation revision _ =>
    maximumAttempts = maximum ∧ ∀ row ∈ s.current.find? hotkey,
      (∀ expected ∈ generation, (row.generation : ℤ) = expected) →
      (∀ expected ∈ revision, (row.revision : ℤ) = expected) →
      min ((row.retryCount : ℤ) + 1) maximum ≤ attempt
  | recordProbeFailure a _ _ => a.maximumAttempts = maximum
  | _ => True

/-! ## Operations without failures -/

/-- Workers in service were in service, with the same count; new ones start at zero. -/
structure Keeps (s s' : State) : Prop where
  listed : ∀ hotkey, s'.current.find? hotkey = none → s.current.find? hotkey = none
  counts : ∀ hotkey, ∀ row' ∈ s'.current.find? hotkey,
    row'.state ∈ WorkerLifecycleState.networkEligibleStates →
    (s.current.find? hotkey = none ∧ row'.retryCount = 0) ∨
      ∃ row ∈ s.current.find? hotkey, row.state ∈ WorkerLifecycleState.networkEligibleStates ∧
        row'.retryCount = row.retryCount

theorem Keeps.of_current {s s' : State} (same : s'.current = s.current) : Keeps s s' where
  listed hotkey absent := by rwa [same] at absent
  counts hotkey row' found eligible := by
    rw [same] at found
    exact .inr ⟨row', found, eligible, rfl⟩

theorem Keeps.refl (s : State) : Keeps s s := .of_current rfl

theorem Keeps.trans {a b c : State} (first : Keeps a b) (second : Keeps b c) : Keeps a c where
  listed hotkey absent := first.listed hotkey (second.listed hotkey absent)
  counts hotkey row'' found eligible := by
    rcases second.counts hotkey row'' found eligible with
      ⟨absent, zero⟩ | ⟨row', found', eligible', same⟩
    · exact .inl ⟨first.listed hotkey absent, zero⟩
    · rw [same]
      exact first.counts hotkey row' found' eligible'

/-- A recorded event leaves the other workers, so only its own worker is of interest. -/
theorem Keeps.of_recorded {s s' : State} {event : EventRow} {row : SnapshotFields}
    (recorded : Recorded s s' event row)
    (own : row.state ∈ WorkerLifecycleState.networkEligibleStates →
      (s.current.find? event.hotkey = none ∧ row.retryCount = 0) ∨
        ∃ old ∈ s.current.find? event.hotkey,
          old.state ∈ WorkerLifecycleState.networkEligibleStates ∧
          row.retryCount = old.retryCount) : Keeps s s' where
  listed hotkey absent := by
    by_cases same : hotkey = event.hotkey
    · rw [same, recorded.row] at absent
      cases absent
    · rwa [recorded.others hotkey same] at absent
  counts hotkey row' found eligible := by
    by_cases same : hotkey = event.hotkey
    · subst same
      rw [recorded.row] at found
      cases found
      exact own eligible
    · rw [recorded.others hotkey same] at found
      exact .inr ⟨row', found, eligible, rfl⟩

/-- Scopes whose moves take a worker out of service, and that renew nobody. -/
structure Scope.Quiet (scope : Scope) : Prop where
  moves : ∀ current target reason a, scope.moves current target reason a →
    target ∉ WorkerLifecycleState.networkEligibleStates
  renews : ∀ current reason, ¬ scope.renews current reason

theorem keeps_of_write {scope : Scope} (quiet : scope.Quiet) {s s' : State}
    (write : Write scope s s') : Keeps s s' := by
  cases write with
  | advance when allowed result =>
    subst result
    exact .of_current rfl
  | other same _ _ => exact .of_current same.current
  | begin hotkey state reason when evidence allowed clocked enrolled absent recorded =>
    exact .of_recorded recorded fun _ => .inl ⟨absent, rfl⟩
  | move current target reason when a allowed moved =>
    obtain ⟨detail, recorded⟩ := moved.recorded
    exact .of_recorded recorded fun eligible =>
      absurd eligible (quiet.moves current target reason a allowed)
  | renew current reason when allowed renewed => exact absurd allowed (quiet.renews current reason)

theorem keeps_of_writes {scope : Scope} (quiet : scope.Quiet) {s s' : State}
    (writes : Writes scope s s') : Keeps s s' :=
  Writes.relation (R := Keeps) Keeps.refl Keeps.trans (keeps_of_write quiet) writes

section Operations

variable {p : Platform} {s s' : State} {when : Instant}

/-- A transition that is given no count, and is no verified attestation, keeps the
counts. -/
theorem keeps_of_moved {current : SnapshotFields} {target : WorkerLifecycleState}
    {reason : LifecycleReason} {a : TransitionArguments}
    (moved : Moved { s with clock := some when } s' current target reason when a)
    (uncounted : a.retryCount = none) (unverified : reason ≠ .attestationVerified) :
    Keeps s s' := by
  obtain ⟨detail, recorded⟩ := moved.recorded
  have advanced : Keeps s { s with clock := some when } := .of_current rfl
  refine advanced.trans (.of_recorded recorded fun eligible => .inr ⟨current, moved.found, ?_, ?_⟩)
  · by_contra out
    exact out_of_allowedTransitions out moved.legal eligible
  · have plain : ¬ (target = .attested ∧ reason = .attestationVerified) :=
      fun verified => unverified verified.2
    simp only [transitionRow, chosenValues, if_neg plain, uncounted, Option.getD_none]

theorem keeps_of_materialize {hotkey : Text} {snapshot : LifecycleSnapshot}
    (materialized : materializeExpiryInConnection p when hotkey s = .ok (snapshot, s')) :
    Keeps s s' := by
  simp only [materializeExpiryInConnection, bind_eq_ok] at materialized
  obtain ⟨old, read, rest⟩ := materialized
  by_cases expired : SnapshotFields.ExpiredAt old.fields when
  · rw [if_pos expired] at rest
    obtain ⟨current, -, -, -, moved⟩ := transition_cases rest
    exact keeps_of_moved moved rfl (by decide)
  · rw [if_neg expired, pure_eq_ok] at rest
    cases rest
    exact .refl s

theorem keeps_of_advance (advanced : advanceLifecycleClock when s = .ok s') : Keeps s s' := by
  rw [(advanceLifecycleClock_eq_ok advanced).2]
  exact .of_current rfl

theorem keeps_of_snapshot {hotkey : Text} {materializeFreshness : Bool}
    {snapshot : LifecycleSnapshot}
    (shown : lifecycleSnapshot p hotkey materializeFreshness when s = .ok (snapshot, s')) :
    Keeps s s' := by
  simp only [lifecycleSnapshot, bind_eq_ok] at shown
  obtain ⟨s₁, advanced, rest⟩ := shown
  refine (keeps_of_advance advanced).trans ?_
  cases materializeFreshness with
  | true => exact keeps_of_materialize rest
  | false =>
    simp only [Bool.false_eq_true, if_false, bind_eq_ok, pure_eq_ok, Prod.mk.injEq] at rest
    obtain ⟨_, -, -, rfl⟩ := rest
    exact .refl s₁

theorem keeps_of_dueRefreshes {refreshAheadSeconds : ℤ} {snapshots : List LifecycleSnapshot}
    (shown : dueRefreshes p refreshAheadSeconds when s = .ok (snapshots, s')) : Keeps s s' := by
  simp only [dueRefreshes, bind_eq_ok, pure_eq_ok, Prod.mk.injEq] at shown
  obtain ⟨-, -, _, -, s₁, advanced, ⟨_, s₂⟩, looped, -, rfl⟩ := shown
  refine (keeps_of_advance advanced).trans ?_
  exact relation_eachInTurn (R := Keeps) Keeps.refl Keeps.trans
    (fun _ _ _ _ single => keeps_of_materialize single) looped

/-! ## Failures -/

/-- What a failure at a time makes of a worker's row, and when it lets it retry. -/
structure FailsTo (row row' : SnapshotFields) (when : Instant) : Prop where
  generation : row'.generation = row.generation
  expiry : row'.evidenceExpiresAt = row.evidenceExpiresAt
  attested : row'.state = .attested → row.state = .attested
  network : row'.state ∈ WorkerLifecycleState.networkEligibleStates →
    row.state ∈ WorkerLifecycleState.networkEligibleStates
  service : row.state ∈ WorkerLifecycleState.networkEligibleStates →
    row'.state ∈ WorkerLifecycleState.networkEligibleStates ∨ row'.state = .failed
  dated : row'.stateChangedAt = when

/-- A transition to `failed` that inherits the evidence. -/
theorem failsTo_failed {row : SnapshotFields} {reason : LifecycleReason}
    {a : TransitionArguments} {revision eventId : ℕ} (inherits : a.Inherits) :
    FailsTo row (transitionRow revision eventId .failed reason when
      (chosenValues row .failed reason a) row) when where
  generation := rfl
  expiry := by
    simp only [transitionRow, chosenValues, inherits.expiresAt]
    rfl
  attested impossible := by cases impossible
  network inside := by simp [transitionRow, WorkerLifecycleState.networkEligibleStates] at inside
  service _ := .inr rfl
  dated := rfl

/-- A retry that inherits the evidence. -/
theorem failsTo_retry {row : SnapshotFields} {a : TransitionArguments} {revision eventId : ℕ}
    (inherits : a.Inherits)
    (legal : retryTarget row when ∈ row.state.allowedTransitions) :
    FailsTo row (transitionRow revision eventId (retryTarget row when) .refreshRetry when
      (chosenValues row (retryTarget row when) .refreshRetry a) row) when where
  generation := rfl
  expiry := by
    simp only [transitionRow, chosenValues, inherits.expiresAt]
    rfl
  attested := by
    show retryTarget row when = .attested → row.state = .attested
    unfold retryTarget
    split
    case isTrue live => exact fun _ => live.1
    case isFalse => split <;> exact fun impossible => by cases impossible
  network inside := by
    by_contra out
    exact out_of_allowedTransitions out legal inside
  service _ := by
    left
    show retryTarget row when ∈ WorkerLifecycleState.networkEligibleStates
    unfold retryTarget
    split
    · decide
    · split <;> decide
  dated := rfl

/-- The delay of a retry is at least a second, and at most the maximum. -/
theorem retryDelaySeconds_bounded {hotkey : Text} {generation attempt delay : ℕ}
    {policy : RetryPolicy}
    (delayed : retryDelaySeconds hotkey generation attempt policy = .ok delay) :
    1 ≤ delay ∧ (delay : ℤ) ≤ policy.maximumSeconds := by
  simp only [retryDelaySeconds, bind_eq_ok, require_eq_ok, demand_eq_ok, pure_eq_ok] at delayed
  obtain ⟨-, ⟨-, -, -, base, maximum, -, -, -⟩, material, -, rfl⟩ := delayed
  have power : 1 ≤ policy.baseSeconds.toNat * 2 ^ min (attempt - 1) 30 :=
    Nat.mul_pos (by omega) (Nat.two_pow_pos _)
  generalize policy.baseSeconds.toNat * 2 ^ min (attempt - 1) 30 = exponential at power
  constructor
  · omega
  · omega

/-- The row of a failure that is not the last. -/
structure Retried (row' : SnapshotFields) (attempt : ℤ) (retry : RetryPolicy) (when : Instant) :
    Prop where
  counted : (row'.retryCount : ℤ) = attempt
  scheduled : ∃ delay : ℕ, 1 ≤ delay ∧ (delay : ℤ) ≤ retry.maximumSeconds ∧
    row'.nextRetryAt = some (when + Instant.seconds delay)

/-- A refresh failure finds the row it expects. It leaves a worker out of service; it
fails the others on the last attempt, and before it schedules a retry. -/
theorem refreshFailure_cases {hotkey : Text} {attempt maximumAttempts : ℤ} {retry : RetryPolicy}
    {operatorDetail : Option Text} {expectedGeneration expectedRevision : Option ℤ}
    {snapshot : LifecycleSnapshot}
    (recorded : recordRefreshFailure p hotkey attempt maximumAttempts retry operatorDetail
      expectedGeneration expectedRevision when s = .ok (snapshot, s')) :
    ∃ row ∈ s.current.find? hotkey,
      ((∀ expected ∈ expectedGeneration, (row.generation : ℤ) = expected) ∧
        ∀ expected ∈ expectedRevision, (row.revision : ℤ) = expected) ∧
      (s'.current = s.current ∨
        ∃ row', s'.current.find? hotkey = some row' ∧ FailsTo row row' when ∧
          (∀ other, other ≠ hotkey → s'.current.find? other = s.current.find? other) ∧
          ((row'.state = .failed ∧ row'.nextRetryAt = none) ∨
            (attempt < maximumAttempts ∧ Retried row' attempt retry when))) := by
  simp only [recordRefreshFailure, requireExpected, bind_eq_ok, require_eq_ok] at recorded
  obtain ⟨-, ⟨positive, within, -⟩, s₁, advanced, old, read, -, ⟨-, generation, revision⟩, rest⟩ :=
    recorded
  obtain ⟨-, rfl⟩ := advanceLifecycleClock_eq_ok advanced
  have found := currentSnapshot_eq_ok read
  refine ⟨old.fields, found, ⟨generation, revision⟩, ?_⟩
  -- out of service: only the clock moves
  by_cases outside : SnapshotFields.OutOfService old.fields
  · rw [if_pos outside, pure_eq_ok] at rest
    cases rest
    exact .inl rfl
  rw [if_neg outside] at rest
  right
  -- the last attempt fails the worker, an earlier one schedules the next
  by_cases exhausted : attempt = maximumAttempts
  · rw [if_pos exhausted] at rest
    obtain ⟨current, found', named, -, moved⟩ := transition_cases rest
    cases found'.symm.trans found
    obtain ⟨_, recorded⟩ := moved.recorded
    rw [← named]
    exact ⟨_, recorded.row, failsTo_failed ⟨rfl, rfl, rfl, rfl, rfl⟩, recorded.others,
      .inl ⟨rfl, rfl⟩⟩
  · rw [if_neg exhausted] at rest
    simp only [bind_eq_ok, addSeconds_eq_ok] at rest
    obtain ⟨delay, delayed, _, ⟨-, rfl⟩, transitioned⟩ := rest
    obtain ⟨current, found', named, -, moved⟩ := transition_cases transitioned
    cases found'.symm.trans found
    obtain ⟨_, recorded⟩ := moved.recorded
    rw [← named]
    refine ⟨_, recorded.row, failsTo_retry ⟨rfl, rfl, rfl, rfl, rfl⟩ moved.legal, recorded.others,
      .inr ⟨lt_of_le_of_ne within exhausted, ?_, ?_⟩⟩
    · simp only [transitionRow, chosenValues, reduceCtorEq, and_false, if_false, Option.getD_some]
      omega
    · obtain ⟨positive, bounded⟩ := retryDelaySeconds_bounded delayed
      refine ⟨delay, positive, bounded, ?_⟩
      have scheduled : ¬ ((retryTarget old.fields when = .attested ∧
          LifecycleReason.refreshRetry = .attestationVerified) ∨
          retryTarget old.fields when ∈ WorkerLifecycleState.terminalStates ∨
          retryTarget old.fields when = .failed) := by
        unfold retryTarget
        split
        · decide
        · split <;> decide
      simp only [transitionRow, chosenValues, if_neg scheduled]

/-- A verdict attests its worker, leaves it, or fails it. -/
theorem verdict_cases {ttl : ℕ} {a : VerdictArguments} {clock : VerdictClock} {u : Unit}
    (recorded : recordVerdict p ttl a clock s = .ok (u, s')) :
    ∃ s₀ : State, s₀.current = s.current ∧
      ((∃ current arguments, current.hotkey = a.hotkey ∧
          Moved s₀ s' current .attested .attestationVerified clock.when arguments) ∨
        s'.current = s.current ∨
        ∃ current arguments, current.hotkey = a.hotkey ∧ arguments.Inherits ∧
          Moved s₀ s' current .failed .verificationFailed clock.when arguments) := by
  obtain ⟨record, s₁, current, -, written, found, applied⟩ := recordVerdict_cases recorded
  obtain ⟨attestations, rfl, -⟩ := upsertAttestation_eq_ok written
  refine ⟨{ s with attestations := attestations, clock := some clock.when }, rfl, ?_⟩
  unfold applyVerdict at applied
  dsimp only at applied
  -- a failing verdict leaves a worker that only an operator moves
  have failing : ∀ {generation revision : Option ℤ},
      applyVerdict.failVerdict p a record current clock.when { s with attestations := attestations }
        generation revision = .ok s' → s'.current = s.current ∨
        ∃ current arguments, current.hotkey = a.hotkey ∧ arguments.Inherits ∧
          Moved { s with attestations := attestations, clock := some clock.when } s' current .failed
            .verificationFailed clock.when arguments := by
    intro generation revision outcome
    unfold applyVerdict.failVerdict at outcome
    by_cases only : SnapshotFields.OperatorOnly current
    · rw [if_pos only] at outcome
      cases outcome
      exact .inl rfl
    · rw [if_neg only, map_eq_ok] at outcome
      obtain ⟨⟨_, _⟩, transitioned, rfl⟩ := outcome
      obtain ⟨worker, -, named, -, moved⟩ := transition_cases transitioned
      exact .inr ⟨worker, _, named, ⟨rfl, rfl, rfl, rfl, rfl⟩, moved⟩
  split at applied
  case h_1 verdict presented =>
    -- only a presented and verified verdict attests
    by_cases verified : record.status = Text.ofString "VERIFIED"
    · rw [if_pos verified, map_eq_ok] at applied
      obtain ⟨⟨_, _⟩, attests, rfl⟩ := applied
      obtain ⟨worker, _, _, -, named, -, moved⟩ := attested_cases attests
      exact .inl ⟨worker, _, named, moved⟩
    · rw [if_neg verified] at applied
      exact .inr (failing applied)
  case h_2 => exact .inr (failing applied)

end Operations

/-! ## What one operation does to a count -/

/-- The row of a worker in service starts a count, keeps the one it has, or counts a
failure and stays below the maximum. -/
def Advanced (maximum : ℤ) (op : Op) (s s' : State) (hotkey : Text) : Prop :=
  ∀ row' ∈ s'.current.find? hotkey, row'.state ∈ WorkerLifecycleState.networkEligibleStates →
    (Starts s s' hotkey ∧ row'.retryCount = 0) ∨
      ∃ row ∈ s.current.find? hotkey, row.state ∈ WorkerLifecycleState.networkEligibleStates ∧
        ((row'.retryCount = row.retryCount ∧ ¬ op.Suffers s s' hotkey) ∨
          (min ((row.retryCount : ℤ) + 1) maximum ≤ row'.retryCount ∧
            (row'.retryCount : ℤ) < maximum))

section Advanced

variable {p : Platform} {maximum : ℤ} {op : Op} {s s' : State} {hotkey : Text}

theorem advanced_of_same (same : s'.current.find? hotkey = s.current.find? hotkey) :
    Advanced maximum op s s' hotkey := by
  intro row' found eligible
  rw [same] at found
  exact .inr ⟨row', found, eligible, .inl ⟨rfl, fun suffers => suffers.2.2 same⟩⟩

theorem advanced_of_keeps (keeps : Keeps s s') (unfailing : op.failing ≠ some hotkey) :
    Advanced maximum op s s' hotkey := by
  intro row' found eligible
  rcases keeps.counts hotkey row' found eligible with ⟨absent, zero⟩ | ⟨row, found', inside, same⟩
  · refine .inl ⟨.inr ?_, zero⟩
    rw [show s'.current.find? hotkey = some row' from found, absent]
    exact Option.some_ne_none _
  · exact .inr ⟨row, found', inside, .inl ⟨same, fun suffers => unfailing suffers.1⟩⟩

theorem failed_not_eligible :
    WorkerLifecycleState.failed ∉ WorkerLifecycleState.networkEligibleStates := by decide

theorem advanced_of_out (out : ∀ row' ∈ s'.current.find? hotkey,
    row'.state ∉ WorkerLifecycleState.networkEligibleStates) : Advanced maximum op s s' hotkey :=
  fun row' found eligible => absurd eligible (out row' found)

/-- Only the current rows matter. -/
theorem Advanced.of_current {s₀ : State} (advanced : Advanced maximum op s₀ s' hotkey)
    (same : s₀.current = s.current) : Advanced maximum op s s' hotkey := by
  unfold Advanced Starts Attests Op.Suffers InNetwork at advanced ⊢
  rwa [same] at advanced

/-- A verified attestation starts the count of its worker. -/
theorem advanced_of_attested {current : SnapshotFields} {a : TransitionArguments}
    {when : Instant} (moved : Moved s s' current .attested .attestationVerified when a) :
    Advanced maximum op s s' hotkey := by
  obtain ⟨detail, recorded⟩ := moved.recorded
  by_cases same : hotkey = current.hotkey
  · subst same
    intro row' found _
    cases found.symm.trans recorded.row
    refine .inl ⟨.inl ⟨_, recorded.row, rfl, fun old => ?_⟩, rfl⟩
    -- the revision of the new row is the next one
    have equal := congrArg SnapshotFields.revision (Option.some.inj (moved.found.symm.trans old))
    exact absurd equal (Nat.lt_succ_self _).ne
  · exact advanced_of_same (recorded.others hotkey same)

/-- So does a new generation. -/
theorem advanced_of_renewed {current : SnapshotFields} {reason : LifecycleReason}
    {when : Instant} (renewed : Renewed s s' current reason when) :
    Advanced maximum op s s' hotkey := by
  have recorded := renewed.recorded
  by_cases same : hotkey = current.hotkey
  · subst same
    intro row' found _
    cases found.symm.trans recorded.row
    refine .inl ⟨.inr ?_, rfl⟩
    rw [show s'.current.find? current.hotkey = _ from recorded.row, renewed.found]
    intro equal
    exact absurd (Option.some.inj equal) (Nat.lt_succ_self _).ne'
  · exact advanced_of_same (recorded.others hotkey same)

theorem advanced_of_transition {name : Text} {target : WorkerLifecycleState}
    {reason : LifecycleReason} {generation revision : Option ℤ} {detail : Option Text}
    {when : Instant} {snapshot : LifecycleSnapshot} (unfailing : op.failing ≠ some hotkey)
    (transitioned : transitionLifecycle p name target reason generation revision detail when s =
      .ok (snapshot, s')) : Advanced maximum op s s' hotkey := by
  obtain ⟨current, -, -, -, moved⟩ := transition_cases transitioned
  by_cases verified : reason = .attestationVerified
  · subst verified
    cases List.mem_singleton.mp moved.reasoned
    exact (advanced_of_attested moved).of_current rfl
  · exact advanced_of_keeps (keeps_of_moved moved rfl verified) unfailing

theorem advanced_of_refreshFailure {name : Text} {attempt : ℤ} {retry : RetryPolicy}
    {detail : Option Text} {generation revision : Option ℤ} {when : Instant}
    {snapshot : LifecycleSnapshot}
    (counts : ∀ row ∈ s.current.find? name,
      (∀ expected ∈ generation, (row.generation : ℤ) = expected) →
      (∀ expected ∈ revision, (row.revision : ℤ) = expected) →
      min ((row.retryCount : ℤ) + 1) maximum ≤ attempt)
    (recorded : recordRefreshFailure p name attempt maximum retry detail generation revision when
      s = .ok (snapshot, s')) : Advanced maximum op s s' hotkey := by
  obtain ⟨row, found, ⟨sameGeneration, sameRevision⟩, same | ⟨row', left, fails, others, ended⟩⟩ :=
    refreshFailure_cases recorded
  · exact advanced_of_same (congrArg (Table.find? · hotkey) same)
  by_cases named : hotkey = name
  · subst named
    rcases ended with ⟨failed, -⟩ | ⟨below, retried⟩
    · refine advanced_of_out fun other found' => ?_
      rw [left] at found'
      cases found'
      rw [failed]
      exact failed_not_eligible
    · intro other found' eligible
      rw [left] at found'
      cases found'
      refine .inr ⟨row, found, fails.network eligible, .inr ?_⟩
      rw [retried.counted]
      exact ⟨counts row found sameGeneration sameRevision, below⟩
  · exact advanced_of_same (others hotkey named)

theorem advanced_of_verdict {ttl : ℕ} {a : VerdictArguments} {clock : VerdictClock} {u : Unit}
    (recorded : recordVerdict p ttl a clock s = .ok (u, s')) : Advanced maximum op s s' hotkey := by
  obtain ⟨s₀, before, ⟨worker, _, -, moved⟩ | same | ⟨worker, _, -, -, moved⟩⟩ :=
    verdict_cases recorded
  · exact (advanced_of_attested moved).of_current before
  · exact advanced_of_same (congrArg (Table.find? · hotkey) same)
  · obtain ⟨_, recorded⟩ := moved.recorded
    refine Advanced.of_current ?_ before
    by_cases same : hotkey = worker.hotkey
    · subst same
      refine advanced_of_out fun row' found => ?_
      cases found.symm.trans recorded.row
      exact failed_not_eligible
    · exact advanced_of_same (recorded.others hotkey same)

theorem advanced_of_enroll {a : EnrollArguments} {ts when : Instant} {u : Unit}
    (unfailing : op.failing ≠ some hotkey) (enrolled : enroll p a ts when s = .ok (u, s')) :
    Advanced maximum op s s' hotkey := by
  obtain ⟨canonical, nonces, -, -, written⟩ := enroll_cases enrolled
  unfold enrollWorker at written
  split at written
  · have quiet : Scope.Quiet { Scope.idle with begins := fun _ _ _ => True, enrolls := True } :=
      ⟨fun _ _ _ _ moves => moves.elim, fun _ _ renews => renews⟩
    have keeps := keeps_of_writes quiet (writes_of_enrollNew written trivial trivial)
    exact (advanced_of_keeps keeps unfailing).of_current rfl
  · unfold enrollAgain at written
    split at written
    · simp only [bind_eq_ok, pure_eq_ok] at written
      obtain ⟨⟨_, _⟩, reenrolled, rfl⟩ := written
      obtain ⟨_, -, -, -, -, renewed⟩ := reenroll_cases reenrolled
      exact (advanced_of_renewed renewed).of_current rfl
    · cases written
      exact advanced_of_same rfl

/-- Every committed operation whose attempt counts on. -/
theorem advanced_of_commit (counts : op.CountsOn maximum s) (committed : op.commit p s = .ok s') :
    Advanced maximum op s s' hotkey := by
  have quietly : op.failing = none → (op.scope p).Quiet → Advanced maximum op s s' hotkey :=
    fun unfailing quiet => advanced_of_keeps (keeps_of_writes quiet (writes_of_commit committed))
      (by rw [unfailing]; exact Option.some_ne_none _ ∘ Eq.symm)
  cases op with
  | backfill ttl when => exact quietly rfl ⟨fun _ _ _ _ moves => moves.elim, fun _ _ no => no⟩
  | clearVerdict name when => exact quietly rfl ⟨fun _ _ _ _ moves => moves.elim, fun _ _ no => no⟩
  | applyLifecyclePolicy measurements release digest when =>
    refine quietly rfl ⟨fun _ target _ _ move => ?_, fun _ _ no => no⟩
    rw [move.2.1]
    decide
  | retireLifecycle name removed when =>
    refine quietly rfl ⟨fun _ target _ _ move => ?_, fun _ _ no => no⟩
    rcases move.2.2 with ⟨retiring, -⟩ | ⟨-, retired, -⟩
    · rw [retiring]
      decide
    · rw [retired]
      decide
  | enroll a ts when =>
    simp only [Op.commit, map_eq_ok, Prod.exists, exists_eq_right] at committed
    obtain ⟨_, enrolled⟩ := committed
    exact advanced_of_enroll (fun failing => by cases failing) enrolled
  | transitionLifecycle name target reason generation revision detail when =>
    simp only [Op.commit, map_eq_ok, Prod.exists, exists_eq_right] at committed
    obtain ⟨_, transitioned⟩ := committed
    exact advanced_of_transition (fun failing => by cases failing) transitioned
  | lifecycleSnapshot name fresh when =>
    simp only [Op.commit, map_eq_ok, Prod.exists, exists_eq_right] at committed
    obtain ⟨_, shown⟩ := committed
    exact advanced_of_keeps (keeps_of_snapshot shown) fun failing => by cases failing
  | dueRefreshes ahead when =>
    simp only [Op.commit, map_eq_ok, Prod.exists, exists_eq_right] at committed
    obtain ⟨_, shown⟩ := committed
    exact advanced_of_keeps (keeps_of_dueRefreshes shown) fun failing => by cases failing
  | recordAttestedLifecycle ttl name attested release digest generation revision when =>
    simp only [Op.commit, map_eq_ok, Prod.exists, exists_eq_right] at committed
    obtain ⟨_, recorded⟩ := committed
    obtain ⟨_, _, _, -, -, -, moved⟩ := attested_cases recorded
    exact (advanced_of_attested moved).of_current rfl
  | reenrollLifecycle name reason operator when =>
    simp only [Op.commit, map_eq_ok, Prod.exists, exists_eq_right] at committed
    obtain ⟨_, reenrolled⟩ := committed
    obtain ⟨_, -, -, -, -, renewed⟩ := reenroll_cases reenrolled
    exact (advanced_of_renewed renewed).of_current rfl
  | recordRefreshFailure name attempt maximumAttempts retry detail generation revision when =>
    simp only [Op.commit, map_eq_ok, Prod.exists, exists_eq_right] at committed
    obtain ⟨_, recorded⟩ := committed
    obtain ⟨rfl, counts⟩ := counts
    exact advanced_of_refreshFailure counts recorded
  | recordProbeFailure a when ts =>
    simp only [Op.commit, map_eq_ok, Prod.exists, exists_eq_right] at committed
    obtain ⟨_, recorded⟩ := committed
    obtain ⟨row, s₁, found, written, rest⟩ := recordProbeFailure_cases recorded
    obtain ⟨attestations, rfl, -⟩ := upsertAttestation_eq_ok written
    have counts : a.maximumAttempts = maximum := counts
    rw [counts] at rest
    refine (advanced_of_refreshFailure (fun row' found' _ _ => ?_) rest).of_current rfl
    -- the attempt is counted from the row that is failed
    cases found'.symm.trans found
    exact le_rfl
  | recordVerdict ttl a clock =>
    simp only [Op.commit, map_eq_ok, Prod.exists, exists_eq_right] at committed
    obtain ⟨_, recorded⟩ := committed
    exact advanced_of_verdict recorded

end Advanced

/-! ## The invariant -/

/-- No worker has failed more often than the maximum. For one in service, the row has
counted every failure, and is below the maximum. -/
structure CountsWithin (maximum : ℤ) (c : Counted) : Prop where
  within : ∀ hotkey, (c.failures hotkey : ℤ) ≤ maximum
  counted : ∀ hotkey, ∀ row ∈ c.state.current.find? hotkey,
    row.state ∈ WorkerLifecycleState.networkEligibleStates →
      c.failures hotkey ≤ row.retryCount ∧ (row.retryCount : ℤ) < maximum

/-- **One operation.** Operations whose attempts count on keep the bound. -/
theorem CountsWithin.step {p : Platform} {maximum : ℤ} (positive : 1 ≤ maximum) (c : Counted) (op : Op)
    (bounded : CountsWithin maximum c) (counts : op.CountsOn maximum c.state) :
    CountsWithin maximum (c.step p op) := by
  have advanced : ∀ hotkey, Advanced maximum op c.state (Registry.step p c.state op) hotkey :=
    fun hotkey => settle_of_ok (P := fun s' => Advanced maximum op c.state s' hotkey)
      (advanced_of_same rfl) fun _ committed => advanced_of_commit counts committed
  constructor
  · intro hotkey
    show ((if Starts c.state (Registry.step p c.state op) hotkey then 0
      else if op.Suffers c.state (Registry.step p c.state op) hotkey then c.failures hotkey + 1
      else c.failures hotkey : ℕ) : ℤ) ≤ maximum
    split
    · omega
    · split
      case isTrue suffers =>
        -- the worker was in service, so its row was below the maximum
        obtain ⟨row, found, eligible⟩ := suffers.2.1
        obtain ⟨behind, below⟩ := bounded.counted hotkey row found eligible
        omega
      case isFalse => exact bounded.within hotkey
  · intro hotkey row' found' eligible'
    show (if Starts c.state (Registry.step p c.state op) hotkey then 0
      else if op.Suffers c.state (Registry.step p c.state op) hotkey then c.failures hotkey + 1
      else c.failures hotkey) ≤ row'.retryCount ∧ (row'.retryCount : ℤ) < maximum
    rcases advanced hotkey row' found' eligible' with
      ⟨starts, zero⟩ | ⟨row, found, eligible, change⟩
    · rw [if_pos starts]
      omega
    · obtain ⟨behind, below⟩ := bounded.counted hotkey row found eligible
      rcases change with ⟨same, spared⟩ | ⟨ahead, last⟩
      · rw [if_neg spared]
        split <;> omega
      · split
        · omega
        · split <;> omega

theorem CountsWithin.of_unstarted {maximum : ℤ} (positive : 1 ≤ maximum) {s : State}
    (start : s.Unstarted) : CountsWithin maximum ⟨s, fun _ => 0⟩ where
  within _ := by
    show ((0 : ℕ) : ℤ) ≤ maximum
    omega
  counted hotkey row found := by simp [Table.find?, start.current] at found

/-! ## What a failure leaves -/

/-- A failure leaves the database's current rows, or rewrites that of its worker, with
a retry within the delay of its policy. -/
inductive FailsOne (op : Op) (s s' : State) (hotkey : Text) : Prop
  | unchanged (same : s'.current = s.current)
  | failed (row row' : SnapshotFields) (when : Instant)
      (found : s.current.find? hotkey = some row) (left : s'.current.find? hotkey = some row')
      (fails : FailsTo row row' when)
      (others : ∀ other, other ≠ hotkey → s'.current.find? other = s.current.find? other)
      (scheduled : ∀ retry ∈ op.retryPolicy, ∀ t ∈ row'.nextRetryAt, ∃ delay : ℕ, 1 ≤ delay ∧
        (delay : ℤ) ≤ retry.maximumSeconds ∧ t = when + Instant.seconds delay)

section Failures

variable {p : Platform} {op : Op} {s s' : State} {hotkey : Text}

theorem failsOne_of_refreshFailure {attempt maximumAttempts : ℤ} {retry : RetryPolicy}
    {detail : Option Text} {generation revision : Option ℤ} {when : Instant}
    {snapshot : LifecycleSnapshot} {s₀ : State} (policy : op.retryPolicy = some retry)
    (recorded : recordRefreshFailure p hotkey attempt maximumAttempts retry detail generation
      revision when s₀ = .ok (snapshot, s')) (before : s₀.current = s.current) :
    FailsOne op s s' hotkey := by
  obtain ⟨row, found, -, same | ⟨row', left, fails, others, ended⟩⟩ := refreshFailure_cases recorded
  · exact .unchanged (same.trans before)
  rw [before] at found others
  refine .failed row row' when found left fails others fun retry' given t scheduled => ?_
  cases policy.symm.trans given
  rcases ended with ⟨-, unscheduled⟩ | ⟨-, retried⟩
  · rw [unscheduled] at scheduled
    cases scheduled
  · obtain ⟨delay, positive, within, next⟩ := retried.scheduled
    rw [next] at scheduled
    cases scheduled
    exact ⟨delay, positive, within, rfl⟩

/-- An operation that can fail a worker attests it, or fails it at most. -/
theorem failsOne_of_commit (failing : op.failing = some hotkey)
    (committed : op.commit p s = .ok s') : Attests s s' hotkey ∨ FailsOne op s s' hotkey := by
  cases op with
  | recordRefreshFailure name attempt maximumAttempts retry detail generation revision when =>
    cases failing
    simp only [Op.commit, map_eq_ok, Prod.exists, exists_eq_right] at committed
    obtain ⟨_, recorded⟩ := committed
    exact .inr (failsOne_of_refreshFailure rfl recorded rfl)
  | recordProbeFailure a when ts =>
    cases failing
    simp only [Op.commit, map_eq_ok, Prod.exists, exists_eq_right] at committed
    obtain ⟨_, recorded⟩ := committed
    obtain ⟨row, s₁, found, written, rest⟩ := recordProbeFailure_cases recorded
    obtain ⟨attestations, rfl, -⟩ := upsertAttestation_eq_ok written
    exact .inr (failsOne_of_refreshFailure rfl rest rfl)
  | recordVerdict ttl a clock =>
    cases failing
    simp only [Op.commit, map_eq_ok, Prod.exists, exists_eq_right] at committed
    obtain ⟨_, recorded⟩ := committed
    obtain ⟨s₀, before, ⟨worker, _, named, moved⟩ | same | ⟨worker, _, named, inherits, moved⟩⟩ :=
      verdict_cases recorded
    · obtain ⟨_, recorded⟩ := moved.recorded
      have held := before ▸ moved.found
      left
      rw [← named]
      refine ⟨_, recorded.row, rfl, fun old => ?_⟩
      have equal := congrArg SnapshotFields.revision (Option.some.inj (held.symm.trans old))
      exact absurd equal (Nat.lt_succ_self _).ne
    · exact .inr (.unchanged same)
    · obtain ⟨_, recorded⟩ := moved.recorded
      have held := before ▸ moved.found
      have others := before ▸ recorded.others
      right
      rw [← named]
      exact .failed worker _ clock.when held recorded.row (failsTo_failed inherits) others
        fun _ none => by cases none
  | _ => cases failing

/-- A failure gives no worker evidence, eligibility or service. -/
theorem FailsOne.takes (fails : FailsOne op s s' hotkey) (worker : Text) :
    ∀ row' ∈ s'.current.find? worker, ∃ row ∈ s.current.find? worker,
      row'.evidenceExpiresAt = row.evidenceExpiresAt ∧
      (row'.state ∈ WorkerLifecycleState.networkEligibleStates →
        row.state ∈ WorkerLifecycleState.networkEligibleStates) ∧
      (row.state ∈ WorkerLifecycleState.networkEligibleStates →
        row'.state ∈ WorkerLifecycleState.networkEligibleStates ∨ row'.state = .failed) ∧
      ∀ now, eligibleAt row' now = true → eligibleAt row now = true := by
  intro row' found'
  cases fails with
  | unchanged same =>
    rw [same] at found'
    exact ⟨row', found', rfl, id, .inl, fun _ => id⟩
  | failed row last when found left fails others scheduled =>
    by_cases named : worker = hotkey
    · subst named
      cases found'.symm.trans left
      refine ⟨row, found, fails.expiry, fails.network, fails.service, fun now eligible => ?_⟩
      unfold eligibleAt at eligible ⊢
      rw [Bool.and_eq_true, decide_eq_true_eq, fails.expiry] at eligible
      rw [Bool.and_eq_true, decide_eq_true_eq]
      exact ⟨fails.attested eligible.1, eligible.2⟩
    · rw [others worker named] at found'
      exact ⟨row', found', rfl, id, .inl, fun _ => id⟩

/-- A retry that a failure schedules comes after it, within the delay of the policy. -/
theorem FailsOne.schedules (fails : FailsOne op s s' hotkey) {retry : RetryPolicy}
    (policy : op.retryPolicy = some retry) (worker : Text) (row' : SnapshotFields)
    (found' : s'.current.find? worker = some row') (rewritten : s.current.find? worker ≠ some row')
    (t : Instant) (scheduled : t ∈ row'.nextRetryAt) :
    row'.stateChangedAt < t ∧
      t ≤ row'.stateChangedAt + Instant.seconds retry.maximumSeconds.toNat := by
  cases fails with
  | unchanged same =>
    rw [same] at found'
    exact absurd found' rewritten
  | failed row last when found left fails others delays =>
    by_cases named : worker = hotkey
    · subst named
      cases found'.symm.trans left
      obtain ⟨delay, positive, within, rfl⟩ := delays retry policy t scheduled
      rw [fails.dated]
      have bounded : delay ≤ retry.maximumSeconds.toNat := by omega
      refine ⟨Nat.lt_add_of_pos_right (Nat.mul_pos positive (by decide)), ?_⟩
      exact Nat.add_le_add_left (Nat.mul_le_mul_right _ bounded) _
    · rw [others worker named] at found'
      exact absurd found' rewritten

end Failures

/-! ## The calls of the runtime -/

/-- The generation of a row, and the revision in it. -/
def SnapshotFields.version (row : SnapshotFields) : Lex (ℕ × ℕ) :=
  toLex (row.generation, row.revision)

/-- Every worker keeps its row, or gets one of a later version. -/
def Renews (s s' : State) : Prop :=
  ∀ hotkey, ∀ row ∈ s.current.find? hotkey, ∃ row' ∈ s'.current.find? hotkey,
    row' = row ∨ SnapshotFields.version row < SnapshotFields.version row'

theorem Renews.of_current {s s' : State} (same : s'.current = s.current) : Renews s s' :=
  fun hotkey row found => ⟨row, by rwa [same], .inl rfl⟩

theorem Renews.trans {a b c : State} (first : Renews a b) (second : Renews b c) : Renews a c := by
  intro hotkey row found
  obtain ⟨row', found', later⟩ := first hotkey row found
  obtain ⟨row'', found'', later'⟩ := second hotkey row' found'
  refine ⟨row'', found'', ?_⟩
  rcases later with rfl | later
  · exact later'
  · rcases later' with rfl | later'
    · exact .inr later
    · exact .inr (later.trans later')

theorem renews_of_recorded {s s' : State} {event : EventRow} {row : SnapshotFields}
    (recorded : Recorded s s' event row)
    (later : ∀ old ∈ s.current.find? event.hotkey,
      SnapshotFields.version old < SnapshotFields.version row) : Renews s s' := by
  intro hotkey old found
  by_cases same : hotkey = event.hotkey
  · subst same
    exact ⟨row, recorded.row, .inr (later old found)⟩
  · exact ⟨old, by rwa [recorded.others hotkey same], .inl rfl⟩

theorem renews_of_write {scope : Scope} {s s' : State} (write : Write scope s s') :
    Renews s s' := by
  cases write with
  | advance when allowed result =>
    subst result
    exact .of_current rfl
  | other same _ _ => exact .of_current same.current
  | begin hotkey state reason when evidence allowed clocked enrolled absent recorded =>
    refine renews_of_recorded recorded fun old found => ?_
    cases found.symm.trans absent
  | move current target reason when a allowed moved =>
    obtain ⟨detail, recorded⟩ := moved.recorded
    refine renews_of_recorded recorded fun old found => ?_
    cases found.symm.trans moved.found
    exact Prod.Lex.toLex_lt_toLex.mpr (.inr ⟨rfl, Nat.lt_succ_self _⟩)
  | renew current reason when allowed renewed =>
    refine renews_of_recorded renewed.recorded fun old found => ?_
    cases found.symm.trans renewed.found
    exact Prod.Lex.toLex_lt_toLex.mpr (.inl (Nat.lt_succ_self _))

theorem renews_of_writes {scope : Scope} {s s' : State} (writes : Writes scope s s') :
    Renews s s' :=
  Writes.relation (R := Renews) (fun _ => .of_current rfl) Renews.trans renews_of_write writes

theorem renews_runOps (p : Platform) (s : State) (ops : List Op) : Renews s (runOps p s ops) := by
  have always : ∀ (_ : State) (_ : Op), True → True := fun _ _ => id
  refine relation_run (R := Renews) (fun _ => .of_current rfl) Renews.trans always
    (fun s op _ => ?_) trivial ops
  exact settle_of_ok (P := Renews s) (.of_current rfl) fun _ committed =>
    renews_of_writes (writes_of_commit committed)

/-- A snapshot shows the row that it leaves. -/
theorem find?_of_snapshot {p : Platform} {hotkey : Text} {materializeFreshness : Bool}
    {when : Instant} {s s' : State} {snapshot : LifecycleSnapshot}
    (shown : lifecycleSnapshot p hotkey materializeFreshness when s = .ok (snapshot, s')) :
    s'.current.find? hotkey = some snapshot.fields := by
  simp only [lifecycleSnapshot, bind_eq_ok] at shown
  obtain ⟨s₁, -, rest⟩ := shown
  have plainly : ∀ {s₂ : State}, currentSnapshot p s₂ hotkey = .ok snapshot →
      s₂.current.find? hotkey = some snapshot.fields := fun read => currentSnapshot_eq_ok read
  cases materializeFreshness with
  | false =>
    simp only [Bool.false_eq_true, if_false, bind_eq_ok, pure_eq_ok, Prod.mk.injEq] at rest
    obtain ⟨_, read, rfl, rfl⟩ := rest
    exact plainly read
  | true =>
    simp only [if_true, materializeExpiryInConnection, bind_eq_ok] at rest
    obtain ⟨old, read, rest⟩ := rest
    by_cases expired : SnapshotFields.ExpiredAt old.fields when
    · rw [if_pos expired] at rest
      simp only [transitionLifecycleInConnection, bind_eq_ok, pure_eq_ok, Prod.mk.injEq] at rest
      obtain ⟨_, -, _, -, _, -, _, -, _, -, _, -, _, -, _, -, _, -, _, -, _, -, _, -, _, reread, rfl,
        rfl⟩ := rest
      exact plainly reread
    · rw [if_neg expired, pure_eq_ok] at rest
      cases rest
      exact plainly read

/-- The call of `_attest_targets` for a target whose collection failed: the attempt
counts on from the `current` snapshot, and the worker must be where it was when the
collection began. -/
def attestTargetsFailure (hotkey : Text) (maximumAttempts : ℤ) (retry : RetryPolicy)
    (detail : Option Text) (collected current : LifecycleSnapshot) (when : Instant) : Op :=
  .recordRefreshFailure hotkey (min ((current.fields.retryCount : ℤ) + 1) maximumAttempts)
    maximumAttempts retry detail (some collected.fields.generation)
    (some collected.fields.revision) when

/-- Whatever happens between the two snapshots, and before the call, its attempt counts
on from the row that it is meant for. -/
theorem countsOn_attestTargetsFailure {p : Platform} {hotkey : Text} {maximum : ℤ}
    {retry : RetryPolicy} {detail : Option Text} {collected current : LifecycleSnapshot}
    {s s₁ s₂ : State} {collectedAt currentAt when : Instant} {between before : List Op}
    (first : lifecycleSnapshot p hotkey true collectedAt s = .ok (collected, s₁))
    (second : lifecycleSnapshot p hotkey true currentAt (runOps p s₁ between) =
      .ok (current, s₂)) :
    (attestTargetsFailure hotkey maximum retry detail collected current when).CountsOn maximum
      (runOps p s₂ before) := by
  refine ⟨rfl, fun row found generation revision => ?_⟩
  have same : SnapshotFields.version row = SnapshotFields.version collected.fields := by
    have generation := generation _ rfl
    have revision := revision _ rfl
    unfold SnapshotFields.version
    rw [Int.ofNat_inj.mp generation, Int.ofNat_inj.mp revision]
  -- the versions only grow, and the last is the first
  have shown : Renews (runOps p s₁ between) s₂ := by
    have committed : (Op.lifecycleSnapshot hotkey true currentAt).commit p (runOps p s₁ between) =
        .ok s₂ := by
      simp only [Op.commit, second, Except.map]
    exact renews_of_writes (writes_of_commit committed)
  have grows := (renews_runOps p s₁ between).trans shown
  obtain ⟨shownRow, found', grown⟩ := grows hotkey _ (find?_of_snapshot first)
  cases found'.symm.trans (find?_of_snapshot second)
  obtain ⟨last, found'', grown'⟩ := renews_runOps p s₂ before hotkey _ (find?_of_snapshot second)
  cases found''.symm.trans found
  have equal : row = current.fields := by
    rcases grown' with equal | grown'
    · exact equal
    · rcases grown with equal | grown
      · rw [same, ← equal] at grown'
        exact absurd grown' (lt_irrefl _)
      · exact absurd (same ▸ grown.trans grown') (lt_irrefl _)
  rw [equal]

/-! ## Runs -/

/-- **Bounded retries.** Let the failures of a run count to one maximum, with attempts
that count on. Then no worker fails more often than the maximum after it was last
attested or entered a generation, and one that has failed so often is out of service.
A failure never extends the evidence of a worker, never makes it eligible, and takes
it out of service only to `failed`. A retry is scheduled after its failure, and within
the maximum delay of its policy. The calls of the epoch runtime count on, whatever
comes between its snapshots and the call. -/
theorem retries_bounded (p : Platform) (maximum : ℤ) (positive : 1 ≤ maximum) (s : State)
    (start : s.Unstarted) :
    (∀ ops : List Op,
      Along (Counted.step p) (fun c op => op.CountsOn maximum c.state) ⟨s, fun _ => 0⟩ ops →
      ∀ hotkey, ((run (Counted.step p) ⟨s, fun _ => 0⟩ ops).failures hotkey : ℤ) ≤ maximum ∧
        (InNetwork (run (Counted.step p) ⟨s, fun _ => 0⟩ ops).state hotkey →
          ((run (Counted.step p) ⟨s, fun _ => 0⟩ ops).failures hotkey : ℤ) < maximum)) ∧
    (∀ (op : Op) (before after : State) (hotkey : Text), op.failing = some hotkey →
      op.commit p before = .ok after → ¬ Attests before after hotkey →
      (∀ worker, ∀ row' ∈ after.current.find? worker, ∃ row ∈ before.current.find? worker,
        row'.evidenceExpiresAt = row.evidenceExpiresAt ∧
        (row'.state ∈ WorkerLifecycleState.networkEligibleStates →
          row.state ∈ WorkerLifecycleState.networkEligibleStates) ∧
        (row.state ∈ WorkerLifecycleState.networkEligibleStates →
          row'.state ∈ WorkerLifecycleState.networkEligibleStates ∨ row'.state = .failed) ∧
        ∀ now, eligibleAt row' now = true → eligibleAt row now = true) ∧
      ∀ retry, op.retryPolicy = some retry → ∀ worker row',
        after.current.find? worker = some row' → before.current.find? worker ≠ some row' →
        ∀ t ∈ row'.nextRetryAt, row'.stateChangedAt < t ∧
          t ≤ row'.stateChangedAt + Instant.seconds retry.maximumSeconds.toNat) ∧
    ∀ (hotkey : Text) (retry : RetryPolicy) (detail : Option Text)
      (collected current : LifecycleSnapshot) (found shown left : State)
      (collectedAt currentAt when : Instant) (between before : List Op),
      lifecycleSnapshot p hotkey true collectedAt found = .ok (collected, shown) →
      lifecycleSnapshot p hotkey true currentAt (runOps p shown between) = .ok (current, left) →
      (attestTargetsFailure hotkey maximum retry detail collected current when).CountsOn maximum
        (runOps p left before) := by
  refine ⟨fun ops along hotkey => ?_, fun op before after hotkey failing committed unattested => ?_,
    fun _ _ _ _ _ _ _ _ _ _ _ _ _ first second => countsOn_attestTargetsFailure first second⟩
  · have bounded : CountsWithin maximum (run (Counted.step p) ⟨s, fun _ => 0⟩ ops) :=
      invariant_along (fun c op => CountsWithin.step positive c op) (.of_unstarted positive start) along
    refine ⟨bounded.within hotkey, fun inside => ?_⟩
    obtain ⟨row, found, eligible⟩ := inside
    obtain ⟨behind, below⟩ := bounded.counted hotkey row found eligible
    omega
  · have fails := (failsOne_of_commit failing committed).resolve_left unattested
    exact ⟨fails.takes, fun retry policy worker row' found rewritten t scheduled =>
      fails.schedules policy worker row' found rewritten t scheduled⟩

/-! ## Concrete runs -/

/-- A worker enrolls, and fails two probes. -/
def sampleProbes : List Op :=
  [sampleEnroll "first" "https://1.1.1.1:8443",
    .recordProbeFailure ⟨"first", none, none, none, 2, { jitterSeconds := 0 }⟩
      63839664001000000 63839664001000000,
    .recordProbeFailure ⟨"first", none, none, none, 2, { jitterSeconds := 0 }⟩
      63839664008000000 63839664008000000]

/-- The theorem applied to the worker that fails two probes: it has failed twice, and
is out of service. -/
theorem retries_bounded_probed :
    (run (Counted.step .sampleNetwork) ⟨.initial, fun _ => 0⟩ sampleProbes).failures
        (Text.ofString "first") = 2 ∧
      ¬ InNetwork (run (Counted.step .sampleNetwork) ⟨.initial, fun _ => 0⟩ sampleProbes).state
        (Text.ofString "first") := by
  have twice : (run (Counted.step .sampleNetwork) ⟨.initial, fun _ => 0⟩ sampleProbes).failures
      (Text.ofString "first") = 2 := by
    decide +kernel
  refine ⟨twice, fun inside => ?_⟩
  have bounded := (retries_bounded .sampleNetwork 2 (by decide) State.initial
    State.unstarted_initial).1
    sampleProbes ⟨trivial, rfl, rfl, trivial⟩ (Text.ofString "first")
  have below := bounded.2 inside
  rw [twice] at below
  exact absurd below (by decide)

/-- A failure is counted. -/
theorem failures_of_suffers {p : Platform} {c : Counted} {op : Op} {hotkey : Text}
    (continues : ¬ Starts c.state (Registry.step p c.state op) hotkey)
    (suffers : op.Suffers c.state (Registry.step p c.state op) hotkey) :
    (c.step p op).failures hotkey = c.failures hotkey + 1 := by
  show (if Starts c.state (Registry.step p c.state op) hotkey then 0
    else if op.Suffers c.state (Registry.step p c.state op) hotkey then c.failures hotkey + 1
    else c.failures hotkey) = c.failures hotkey + 1
  rw [if_neg continues, if_pos suffers]

/-- The failures of the operation count to this maximum. -/
def Op.CountsTo (maximum : ℤ) : Op → Prop
  | recordRefreshFailure _ _ maximumAttempts _ _ _ _ _ => maximumAttempts = maximum
  | recordProbeFailure a _ _ => a.maximumAttempts = maximum
  | _ => True

/-- A first attempt of two. -/
def sampleFirst (when : Instant) : Op :=
  .recordRefreshFailure "first" 1 2 { jitterSeconds := 0 } none none none when

/-- A worker enrolls, and its first attempt is recorded twice. -/
def sampleRecounts : List Op :=
  [sampleEnroll "first" "https://1.1.1.1:8443", sampleFirst 63839664001000000,
    sampleFirst 63839664002000000]

/-- A caller that passes the first attempt again: with a maximum of two, the worker has
failed twice and is still in service. -/
theorem not_retries_bounded_recounted :
    ¬ ∀ (p : Platform) (maximum : ℤ) (ops : List Op), 1 ≤ maximum →
      (∀ op ∈ ops, op.CountsTo maximum) → ∀ hotkey,
      ((run (Counted.step p) ⟨.initial, fun _ => 0⟩ ops).failures hotkey : ℤ) ≤ maximum ∧
        (InNetwork (run (Counted.step p) ⟨.initial, fun _ => 0⟩ ops).state hotkey →
          ((run (Counted.step p) ⟨.initial, fun _ => 0⟩ ops).failures hotkey : ℤ) < maximum) := by
  intro claim
  have counted : ∀ op ∈ sampleRecounts, op.CountsTo 2 := by
    simp [sampleRecounts, sampleFirst, Op.CountsTo, sampleEnroll]
  -- each failure rewrites the row, with the next revision
  have rewrites : ∀ {s s' : State} {hotkey : Text},
      (s'.current.find? hotkey).map SnapshotFields.revision ≠
        (s.current.find? hotkey).map SnapshotFields.revision →
      s'.current.find? hotkey ≠ s.current.find? hotkey :=
    fun different same => different (congrArg (Option.map SnapshotFields.revision) same)
  have enrolled : (run (Counted.step .sampleNetwork) ⟨.initial, fun _ => 0⟩
      [sampleEnroll "first" "https://1.1.1.1:8443"]).failures (Text.ofString "first") = 0 := by
    decide +kernel
  have once : (run (Counted.step .sampleNetwork) ⟨.initial, fun _ => 0⟩
      [sampleEnroll "first" "https://1.1.1.1:8443", sampleFirst 63839664001000000]).failures
        (Text.ofString "first") = 1 := by
    refine (failures_of_suffers (by decide +kernel) ⟨rfl, by decide +kernel, ?_⟩).trans
      (congrArg Nat.succ enrolled)
    exact rewrites (by decide +kernel)
  have twice : (run (Counted.step .sampleNetwork) ⟨.initial, fun _ => 0⟩ sampleRecounts).failures
      (Text.ofString "first") = 2 := by
    refine (failures_of_suffers (by decide +kernel) ⟨rfl, by decide +kernel, ?_⟩).trans
      (congrArg Nat.succ once)
    exact rewrites (by decide +kernel)
  have inside : InNetwork (run (Counted.step .sampleNetwork) ⟨.initial, fun _ => 0⟩
      sampleRecounts).state (Text.ofString "first") := by
    decide +kernel
  have below := (claim .sampleNetwork 2 sampleRecounts (by decide) counted
    (Text.ofString "first")).2 inside
  rw [twice] at below
  exact absurd below (by decide)

end Cathedral.Registry
