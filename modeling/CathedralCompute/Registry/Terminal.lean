import CathedralCompute.Registry.History

/-!
# Workers out of service stay out

A worker that is retiring, retired or revoked comes back only by an operator's
re-enrollment, whatever else happens and however late it arrives. A failed worker
comes back only by a re-enrollment, of its own or of an operator, and then it
starts a new generation with nothing carried over.

Both rest on one fact about a single operation: the transition table has no way
back into service, so an operation that returns a worker to service is a
re-enrollment of it.

## Main results

* `out_of_service_stays_out` — the two halves, over runs
-/

set_option autoImplicit false

namespace Cathedral.Registry

open Codec Semantics

/-! ## In and out of service -/

/-- The states only an operator can lift. -/
def withdrawnStates : List WorkerLifecycleState := [.retiring, .retired, .revoked]

theorem operatorOnly_iff {row : SnapshotFields} :
    SnapshotFields.OperatorOnly row ↔ row.state ∈ withdrawnStates := by
  unfold SnapshotFields.OperatorOnly withdrawnStates WorkerLifecycleState.terminalStates
  cases row.state <;> decide

/-- No transition returns a worker to service. -/
theorem out_of_allowedTransitions {state target : WorkerLifecycleState}
    (out : state ∉ WorkerLifecycleState.networkEligibleStates)
    (legal : target ∈ state.allowedTransitions) :
    target ∉ WorkerLifecycleState.networkEligibleStates := by
  revert out legal
  cases state <;> cases target <;> decide

/-- No transition lifts a withdrawal. -/
theorem withdrawn_of_allowedTransitions {state target : WorkerLifecycleState}
    (withdrawn : state ∈ withdrawnStates) (legal : target ∈ state.allowedTransitions) :
    target ∈ withdrawnStates := by
  revert withdrawn legal
  cases state <;> cases target <;> decide

/-- The row of a worker that has just started a generation: nothing of an earlier
one is left. -/
structure Pristine (row : SnapshotFields) : Prop where
  state : row.state = .pending
  revision : row.revision = 1
  evidence : row.evidenceVerifiedAt = none ∧ row.evidenceExpiresAt = none
  measurement : row.measurement = none
  digests : row.evidenceDigest = none ∧ row.policyDigest = none
  registry : row.policyRegistryRelease = none ∧ row.policyRegistryDigest = none
  retries : row.retryCount = 0 ∧ row.nextRetryAt = none

/-- An operator re-enrolls the worker. -/
def Op.OperatorReenrolls (op : Op) (hotkey : Text) : Prop :=
  ∃ reason when, op = .reenrollLifecycle hotkey reason true when

/-- The operation may re-enroll the worker: by name, or because it enrolls again. -/
def Op.Reenrolls (op : Op) (hotkey : Text) : Prop :=
  (∃ reason operator when, op = .reenrollLifecycle hotkey reason operator when) ∨
    ∃ a ts when, op = .enroll a ts when ∧ a.hotkey = hotkey

/-! ## Withdrawn workers -/

/-- The worker is withdrawn. -/
def Withdrawn (hotkey : Text) (s : State) : Prop :=
  ∃ row ∈ s.current.find? hotkey, row.state ∈ withdrawnStates

/-- A recorded event of a worker decides whether that worker, and no other, has a
property of its row. -/
theorem Recorded.exists_row {s s' : State} {event : EventRow} {row : SnapshotFields}
    (recorded : Recorded s s' event row) {P : SnapshotFields → Prop} {hotkey : Text}
    (old : ∃ current ∈ s.current.find? hotkey, P current)
    (new : hotkey = event.hotkey → P row) : ∃ current ∈ s'.current.find? hotkey, P current := by
  by_cases same : hotkey = event.hotkey
  · exact ⟨row, same ▸ recorded.row, new same⟩
  · rw [recorded.others hotkey same]
    exact old

theorem withdrawn_of_write {scope : Scope} {hotkey : Text}
    (guarded : ∀ current reason, scope.renews current reason → current.hotkey = hotkey →
      current.state ∉ withdrawnStates)
    {s s' : State} (write : Write scope s s') (withdrawn : Withdrawn hotkey s) :
    Withdrawn hotkey s' := by
  obtain ⟨row, found, out⟩ := withdrawn
  -- the row a write finds under the worker's name is the worker's row
  have unique : ∀ {other : SnapshotFields}, s.current.find? other.hotkey = some other →
      hotkey = other.hotkey → other = row := by
    rintro other other' rfl
    exact Option.some.inj (other'.symm.trans found)
  cases write with
  | advance when allowed result =>
    subst result
    exact ⟨row, found, out⟩
  | other same _ _ =>
    unfold Withdrawn
    rw [same.current]
    exact ⟨row, found, out⟩
  | begin name state reason when evidence allowed clocked enrolled absent recorded =>
    refine recorded.exists_row ⟨row, found, out⟩ fun same => ?_
    have same : hotkey = name := same
    rw [same, absent] at found
    cases found
  | move current target reason when a allowed moved =>
    obtain ⟨detail, recorded⟩ := moved.recorded
    refine recorded.exists_row ⟨row, found, out⟩ fun same => ?_
    rw [← unique moved.found same] at out
    exact withdrawn_of_allowedTransitions out moved.legal
  | renew current reason when allowed renewed =>
    refine renewed.recorded.exists_row ⟨row, found, out⟩ fun same => ?_
    have same : hotkey = current.hotkey := same
    rw [← unique renewed.found same] at out
    exact absurd out (guarded current reason allowed same.symm)

/-- What an operation that is no operator's re-enrollment of the worker may
re-enroll under its name is in service, or has failed. -/
theorem not_withdrawn_of_renews {p : Platform} {op : Op} {hotkey : Text}
    (spared : ¬ op.OperatorReenrolls hotkey) {current : SnapshotFields} {reason : LifecycleReason}
    (renews : (op.scope p).renews current reason) (named : current.hotkey = hotkey) :
    current.state ∉ withdrawnStates := by
  rw [← operatorOnly_iff]
  cases op with
  | enroll a ts when => exact renews.2.2
  | reenrollLifecycle name reason' operator when =>
    obtain ⟨same, -, guarded⟩ := renews
    intro only
    refine spared ⟨reason', when, ?_⟩
    rw [guarded only, ← same, named]
  | _ => exact renews.elim

/-- Only an operator's re-enrollment lifts a withdrawal. -/
theorem withdrawn_step {p : Platform} {hotkey : Text} (s : State) (op : Op)
    (withdrawn : Withdrawn hotkey s) (spared : ¬ op.OperatorReenrolls hotkey) :
    Withdrawn hotkey (step p s op) :=
  settle_of_ok withdrawn fun _ committed =>
    Writes.invariant (withdrawn_of_write fun _ _ renews named =>
      not_withdrawn_of_renews spared renews named) (writes_of_commit committed) withdrawn

/-! ## Failed workers -/

/-- The worker has a row, and it is not in service. -/
def OutOfNetwork (hotkey : Text) (s : State) : Prop :=
  ∃ row ∈ s.current.find? hotkey, row.state ∉ WorkerLifecycleState.networkEligibleStates

/-- Writes that re-enroll nobody leave a worker out of service. -/
theorem outOfNetwork_of_write {scope : Scope} {hotkey : Text}
    (guarded : ∀ current reason, ¬ scope.renews current reason) {s s' : State}
    (write : Write scope s s') (outside : OutOfNetwork hotkey s) : OutOfNetwork hotkey s' := by
  obtain ⟨row, found, out⟩ := outside
  cases write with
  | advance when allowed result =>
    subst result
    exact ⟨row, found, out⟩
  | other same _ _ =>
    unfold OutOfNetwork
    rw [same.current]
    exact ⟨row, found, out⟩
  | begin name state reason when evidence allowed clocked enrolled absent recorded =>
    refine recorded.exists_row ⟨row, found, out⟩ fun same => ?_
    have same : hotkey = name := same
    rw [same, absent] at found
    cases found
  | move current target reason when a allowed moved =>
    obtain ⟨detail, recorded⟩ := moved.recorded
    refine recorded.exists_row ⟨row, found, out⟩ fun same => ?_
    have same : hotkey = current.hotkey := same
    rw [same, moved.found] at found
    cases found
    exact out_of_allowedTransitions out moved.legal
  | renew current reason when allowed renewed => exact absurd allowed (guarded current reason)

/-- The row after an operation is that of a fresh generation of the worker. -/
def Restarted (hotkey : Text) (s s' : State) : Prop :=
  ∃ old ∈ s.current.find? hotkey, ∃ new ∈ s'.current.find? hotkey,
    Pristine new ∧ new.generation = old.generation + 1

theorem restarted_of_reenroll {p : Platform} {name hotkey : Text} {reason : LifecycleReason}
    {operator : Bool} {when : Instant} {s s' : State} {snapshot : LifecycleSnapshot}
    (reenrolled : reenrollLifecycle p name reason operator when s = .ok (snapshot, s'))
    (outside : OutOfNetwork hotkey s) :
    OutOfNetwork hotkey s' ∨ (name = hotkey ∧ Restarted hotkey s s') := by
  obtain ⟨current, found, named, -, -, renewed⟩ := reenroll_cases reenrolled
  by_cases same : hotkey = current.hotkey
  · right
    subst same
    refine ⟨named.symm, current, renewed.found, _, renewed.recorded.row, ?_, rfl⟩
    exact ⟨rfl, rfl, ⟨rfl, rfl⟩, rfl, ⟨rfl, rfl⟩, ⟨rfl, rfl⟩, ⟨rfl, rfl⟩⟩
  · left
    unfold OutOfNetwork
    rw [renewed.recorded.others hotkey same]
    exact outside

/-- An operation that returns a worker to service re-enrolls it, in a new
generation with nothing carried over. -/
theorem restarted_of_commit {p : Platform} {op : Op} {hotkey : Text} {s s' : State}
    (committed : op.commit p s = .ok s') (outside : OutOfNetwork hotkey s) :
    OutOfNetwork hotkey s' ∨ (op.Reenrolls hotkey ∧ Restarted hotkey s s') := by
  have quiet : (∀ current reason, ¬ (op.scope p).renews current reason) →
      OutOfNetwork hotkey s' := fun guarded =>
    Writes.invariant (outOfNetwork_of_write guarded) (writes_of_commit committed) outside
  cases op with
  | reenrollLifecycle name reason operator when =>
    simp only [Op.commit, map_eq_ok, Prod.exists, exists_eq_right] at committed
    obtain ⟨_, reenrolled⟩ := committed
    rcases restarted_of_reenroll reenrolled outside with still | ⟨rfl, restarted⟩
    · exact .inl still
    · exact .inr ⟨.inl ⟨reason, operator, when, rfl⟩, restarted⟩
  | enroll a ts when =>
    simp only [Op.commit, map_eq_ok, Prod.exists, exists_eq_right] at committed
    obtain ⟨_, enrolled⟩ := committed
    obtain ⟨canonical, nonces, -, -, written⟩ := enroll_cases enrolled
    unfold enrollWorker at written
    split at written
    · -- a new enrollment renews nobody
      have writes : Writes { Scope.idle with begins := fun _ _ _ => True, enrolls := True } _ s' :=
        writes_of_enrollNew written trivial trivial
      exact .inl (Writes.invariant (outOfNetwork_of_write fun _ _ renews => renews) writes outside)
    · unfold enrollAgain at written
      split at written
      · simp only [bind_eq_ok, pure_eq_ok] at written
        obtain ⟨⟨_, s₁⟩, reenrolled, rfl⟩ := written
        rcases restarted_of_reenroll reenrolled outside with still | ⟨same, restarted⟩
        · exact .inl still
        · exact .inr ⟨.inr ⟨a, ts, when, rfl, same⟩, restarted⟩
      · cases written
        exact .inl outside
  | _ => exact .inl (quiet fun _ _ renews => renews)

theorem restarted_step {p : Platform} {hotkey : Text} (s : State) (op : Op)
    (outside : OutOfNetwork hotkey s) :
    OutOfNetwork hotkey (step p s op) ∨
      (op.Reenrolls hotkey ∧ Restarted hotkey s (step p s op)) := by
  unfold step
  cases outcome : op.commit p s with
  | error failure => exact .inl outside
  | ok s' => exact restarted_of_commit outcome outside

/-! ## Runs -/

/-- **Out of service.** A withdrawn worker stays withdrawn through every sequence
of operations without an operator's re-enrollment of it. A failed worker that is
back in service after some operations was re-enrolled by one of them, and then
started a new generation with nothing carried over. -/
theorem out_of_service_stays_out (p : Platform) (s : State) (ops : List Op) (hotkey : Text)
    (row : SnapshotFields) (found : s.current.find? hotkey = some row) :
    (row.state ∈ withdrawnStates → (∀ op ∈ ops, ¬ op.OperatorReenrolls hotkey) →
      ∃ final, (runOps p s ops).current.find? hotkey = some final ∧
        final.state ∈ withdrawnStates) ∧
    (row.state = .failed →
      (∃ final, (runOps p s ops).current.find? hotkey = some final ∧
        final.state ∉ WorkerLifecycleState.networkEligibleStates) ∨
      ∃ before op after, ops = before ++ op :: after ∧ op.Reenrolls hotkey ∧
        Restarted hotkey (runOps p s before) (runOps p s (before ++ [op]))) := by
  constructor
  · intro withdrawn spared
    have along : Along (step p) (fun _ op => ¬ op.OperatorReenrolls hotkey) s ops :=
      along_of_forall fun op member _ => spared op member
    have final : Withdrawn hotkey (runOps p s ops) :=
      invariant_along withdrawn_step ⟨row, found, withdrawn⟩ along
    exact final
  · intro failed
    have start : OutOfNetwork hotkey s := ⟨row, found, by rw [failed]; decide⟩
    by_cases finish : OutOfNetwork hotkey (runOps p s ops)
    · exact .inl finish
    · -- the operation at which the worker came back
      right
      obtain ⟨before, op, after, split, outside, back⟩ := exists_turning_point
        (P := fun s => ¬ OutOfNetwork hotkey s) (not_not.mpr start) finish
      rw [not_not] at outside
      have ended : runOps p s (before ++ [op]) = step p (runOps p s before) op :=
        run_append _ _ _ _
      refine ⟨before, op, after, split, ?_⟩
      rw [ended]
      rcases restarted_step (p := p) (runOps p s before) op outside with still | restarted
      · rw [← ended] at still
        exact absurd still back
      · exact restarted

/-! ## Concrete runs -/

/-- The theorem applied to a removed worker that enrolls at another endpoint, and
to a failed worker that does. -/
theorem out_of_service_stays_out_moved :
    let hotkey := Text.ofString "hk"
    let enrolled := [Op.enroll (sampleEnrollment hotkey "https://1.1.1.1:8443")
      63839664000000000 63839664000000000]
    let back := [Op.enroll (sampleEnrollment hotkey "https://8.8.8.8:8443")
      63839664002000000 63839664002000000]
    let removed := runOps .sampleNetwork .initial
      (enrolled ++ [.retireLifecycle hotkey true 63839664001000000])
    let failed := runOps .sampleNetwork .initial (enrolled ++
      [.recordRefreshFailure hotkey 1 1 {} none none none 63839664001000000])
    (∃ final, (runOps .sampleNetwork removed back).current.find? hotkey = some final ∧
      final.state ∈ withdrawnStates) ∧
    ((∃ final, (runOps .sampleNetwork failed back).current.find? hotkey = some final ∧
        final.state ∉ WorkerLifecycleState.networkEligibleStates) ∨
      ∃ before op after, back = before ++ op :: after ∧ op.Reenrolls hotkey ∧
        Restarted hotkey (runOps .sampleNetwork failed before)
          (runOps .sampleNetwork failed (before ++ [op]))) := by
  intro hotkey enrolled back removed failed
  have retired : (removed.current.find? hotkey).map SnapshotFields.state = some .retired := by
    decide +kernel
  have exhausted : (failed.current.find? hotkey).map SnapshotFields.state = some .failed := by
    decide +kernel
  obtain ⟨row, found, state⟩ := Option.map_eq_some_iff.mp retired
  obtain ⟨row', found', state'⟩ := Option.map_eq_some_iff.mp exhausted
  have spared : ∀ op ∈ back, ¬ op.OperatorReenrolls hotkey := by
    rintro op member ⟨reason, when, rfl⟩
    cases List.mem_singleton.mp member
  exact ⟨(out_of_service_stays_out .sampleNetwork removed back hotkey row found).1
      (by rw [state]; decide) spared,
    (out_of_service_stays_out .sampleNetwork failed back hotkey row' found').2 state'⟩

end Cathedral.Registry
