import CathedralCompute.Registry.Terminal

/-!
# One chip, one eligible worker

The chip a worker was verified on stands in its verdict, and its eligibility in
its lifecycle row. The gate of `record_verdict` reads only the verdicts. It keeps
a chip with one worker as long as every worker with live evidence still has its
verdict on record, and no verdict lapses under live evidence.

Two writes break this: a transient probe failure replaces the verdict of a worker
that stays attested, and the time of a verdict is cut to the second below the
time of its evidence, so the gate can open while the evidence is still live.
`Op.KeepsBinding` leaves these out, and a run that does never has two workers
eligible on one chip.

To say which chip a worker's evidence came from, runs carry it along: it is the
chip of the verdict that the worker was last attested on.

## Main results

* `one_chip_one_worker` — the property over runs that keep the bindings
* `not_one_chip_one_worker_probed` — a run with a transient probe failure after
  which two workers are eligible on one chip
-/

set_option autoImplicit false

namespace Cathedral.Registry

open Codec Semantics

/-! ## Runs that remember the chips -/

/-- The first clock reading of an operation inside its transaction. -/
def Op.reading : Op → Instant
  | backfill _ when => when
  | enroll _ _ when => when
  | transitionLifecycle _ _ _ _ _ _ when => when
  | lifecycleSnapshot _ _ when => when
  | dueRefreshes _ when => when
  | recordAttestedLifecycle _ _ _ _ _ _ _ when => when
  | recordRefreshFailure _ _ _ _ _ _ _ when => when
  | applyLifecyclePolicy _ _ _ when => when
  | reenrollLifecycle _ _ _ when => when
  | retireLifecycle _ _ when => when
  | clearVerdict _ when => when
  | recordProbeFailure _ when _ => when
  | recordVerdict _ _ clock => clock.when

/-- The last clock reading of an operation; `record_verdict` reads the clock again
in its chip gate. -/
def Op.lastReading : Op → Instant
  | recordVerdict _ _ clock => clock.gate
  | op => op.reading

/-- The chip of the verdict an operation presents for a worker. -/
def Op.verdictChip (hotkey : Text) : Op → Option Text
  | recordAttestedLifecycle _ name attested _ _ _ _ _ =>
    if name = hotkey then some attested.chipId else none
  | recordVerdict _ a _ => if a.hotkey = hotkey then a.attested.map Attested.chipId else none
  | _ => none

/-- The worker's row is a new one that a verified attestation wrote. -/
def Attests (s s' : State) (hotkey : Text) : Prop :=
  ∃ row ∈ s'.current.find? hotkey, row.reason = .attestationVerified ∧
    s.current.find? hotkey ≠ some row

instance (s s' : State) (hotkey : Text) : Decidable (Attests s s' hotkey) :=
  inferInstanceAs (Decidable (∃ row ∈ s'.current.find? hotkey, _))

/-- A database with the chip each worker was last attested on, and the time. -/
structure Watched where
  state : State
  chips : Text → Option Text
  now : Instant

def Watched.initial : Watched := ⟨.initial, fun _ => none, 0⟩

/-- An operation, watched. -/
def Watched.step (p : Platform) (w : Watched) (op : Op) : Watched where
  state := Registry.step p w.state op
  chips hotkey :=
    if Attests w.state (Registry.step p w.state op) hotkey then
      op.verdictChip hotkey <|> w.chips hotkey
    else w.chips hotkey
  now := op.lastReading

/-! ## The condition -/

/-- The worker has evidence that could make it eligible before it expires. -/
structure Held (row : SnapshotFields) (expires : Instant) : Prop where
  eligible : row.state ∈ WorkerLifecycleState.networkEligibleStates
  measured : row.measurement ≠ none
  expiry : row.evidenceExpiresAt = some expires

/-- The worker holds evidence that has not expired. -/
def LiveAt (row : SnapshotFields) (now : Instant) : Prop := ∃ expires, Held row expires ∧ now < expires

/-- The time an attestation was verified. -/
def verifiedTime (p : Platform) (attested : Attested) : Option Instant := do
  let assurance ← attested.assurance
  let raw ← assurance.hardware.verifiedAt
  (parseIsoUtc p raw).toOption

/-- The row of `VERIFIED` for a chip, verified at a time. -/
structure Binds (row : AttestationRow) (chip : Text) (t : Instant) : Prop where
  status : row.verificationStatus = Text.ofString "VERIFIED"
  chip : row.chipId = some chip
  time : row.lastVerified = .time t

/-- The probe failure passes the checks that `record_probe_failure` makes of its
arguments and of the worker's generation and revision. -/
structure ProbeArguments.Passes (a : ProbeArguments) (row : SnapshotFields) : Prop where
  attempts : 1 ≤ a.maximumAttempts ∧ a.maximumAttempts ≤ 32
  retry : a.retry.Bounded
  generation : ∀ generation ∈ a.expectedGeneration, (row.generation : ℤ) = generation
  revision : ∀ revision ∈ a.expectedRevision, (row.revision : ℤ) = revision

/-- The operation leaves every worker with live evidence its verdict, and no other
worker with a verdict for the chip it attests has evidence that outlives the
verdict. -/
def Op.KeepsBinding (p : Platform) (s : State) : Op → Prop
  | recordProbeFailure a when _ => ∀ row ∈ s.current.find? a.hotkey, a.Passes row →
      LiveAt row when → a.maximumAttempts ≤ row.retryCount + 1
  | clearVerdict hotkey when => ∀ row ∈ s.current.find? hotkey, ¬ LiveAt row when
  | recordVerdict ttl a clock => ∀ attested ∈ a.attested,
      attested.verificationStatus = Text.ofString "VERIFIED" →
      ∀ other ∈ s.attestations.rows, other.hotkey ≠ a.hotkey → ∀ t,
        Binds other attested.chipId t → t + Instant.seconds ttl ≤ clock.gate →
        ∀ row ∈ s.current.find? other.hotkey, ¬ LiveAt row clock.gate
  -- this operation has no gate of its own
  | recordAttestedLifecycle ttl hotkey attested _ _ _ _ when =>
      ∀ verified ∈ verifiedTime p attested, when < verified + Instant.seconds ttl →
        (∃ own ∈ s.attestations.rows, own.hotkey = hotkey ∧ ∃ t, Binds own attested.chipId t) ∧
        ∀ other ∈ s.attestations.rows, other.hotkey ≠ hotkey → ∀ t,
          Binds other attested.chipId t →
          ∀ row ∈ s.current.find? other.hotkey, ¬ LiveAt row when
  | _ => True

/-- The lifetime of verdicts the operation works with is this one. -/
def Op.UsesTtl (ttl : ℕ) : Op → Prop
  | backfill ttl' _ => ttl' = ttl
  | recordAttestedLifecycle ttl' _ _ _ _ _ _ _ => ttl' = ttl
  | recordVerdict ttl' _ _ => ttl' = ttl
  | _ => True

/-- An operation of a registry with one lifetime of verdicts, whose clock does not
go back, that keeps the bindings. -/
structure Regular (p : Platform) (ttl : ℕ) (w : Watched) (op : Op) : Prop where
  ttl : op.UsesTtl ttl
  clock : w.now ≤ op.reading ∧ op.reading ≤ op.lastReading
  binding : op.KeepsBinding p w.state

/-! ## Verdicts on record -/

/-- The worker's verdict on record is for the chip. -/
def Covered (s : State) (hotkey chip : Text) : Prop :=
  ∃ row ∈ s.attestations.rows, row.hotkey = hotkey ∧ ∃ t, Binds row chip t

/-- The worker holds evidence up to a time. -/
def Holds (s : State) (hotkey : Text) (expires : Instant) : Prop :=
  ∃ row ∈ s.current.find? hotkey, Held row expires

/-! ### The latest verdict -/

/-- All times of the rows are times the registry wrote. -/
def Readable (rows : List AttestationRow) : Prop := ∀ row ∈ rows, ∃ t, row.lastVerified = .time t

/-- The row that the search for the latest one keeps. -/
def laterRow (best : Option AttestationRow) (row : AttestationRow) : Option AttestationRow :=
  match best with
  | none => some row
  | some chosen => if row.lastVerified.le chosen.lastVerified then some chosen else some row

/-- The search ends with a row no earlier than the one it starts with and every
row it passes. -/
theorem foldl_laterRow {rows : List AttestationRow} (readable : Readable rows)
    {start : AttestationRow} {t : Instant} (started : start.lastVerified = .time t) :
    ∃ best t', rows.foldl laterRow (some start) = some best ∧
      (best = start ∨ best ∈ rows) ∧ best.lastVerified = .time t' ∧ t ≤ t' ∧
      ∀ row ∈ rows, ∀ u, row.lastVerified = .time u → u ≤ t' := by
  induction rows generalizing start t with
  | nil => exact ⟨start, t, rfl, .inl rfl, started, le_rfl, fun _ member => by cases member⟩
  | cons row rows ih =>
    obtain ⟨u, timed⟩ := readable row List.mem_cons_self
    have rest : Readable rows := fun other member => readable other (List.mem_cons_of_mem _ member)
    have compared : row.lastVerified.le start.lastVerified = decide (u ≤ t) := by
      rw [timed, started]
      rfl
    rw [List.foldl_cons]
    by_cases before : u ≤ t
    · -- an earlier row is passed
      have kept : laterRow (some start) row = some start := by
        simp [laterRow, compared, before]
      obtain ⟨best, t', found, origin, time, above, bound⟩ := ih rest started
      refine ⟨best, t', by rw [kept, found], ?_, time, above, ?_⟩
      · exact origin.imp_right (List.mem_cons_of_mem _)
      · intro other member v same
        rcases List.mem_cons.mp member with rfl | later
        · rw [timed] at same
          cases same
          exact before.trans above
        · exact bound other later v same
    · -- a later one takes its place
      have replaced : laterRow (some start) row = some row := by
        simp [laterRow, compared, before]
      obtain ⟨best, t', found, origin, time, above, bound⟩ := ih rest timed
      refine ⟨best, t', by rw [replaced, found], ?_, time, ?_, ?_⟩
      · right
        rcases origin with rfl | inside
        · exact List.mem_cons_self
        · exact List.mem_cons_of_mem _ inside
      · exact (Nat.le_of_not_le before).trans above
      · intro other member v same
        rcases List.mem_cons.mp member with rfl | later
        · rw [timed] at same
          cases same
          exact above
        · exact bound other later v same

/-- The latest of the rows is none of them only if there are none, and no row is
later than it. -/
theorem latestRow_spec {rows : List AttestationRow} (readable : Readable rows) :
    (latestRow rows = none ∧ rows = []) ∨
      ∃ best t, latestRow rows = some best ∧ best ∈ rows ∧ best.lastVerified = .time t ∧
        ∀ row ∈ rows, ∀ u, row.lastVerified = .time u → u ≤ t := by
  cases rows with
  | nil => exact .inl ⟨rfl, rfl⟩
  | cons row rows =>
    obtain ⟨u, timed⟩ := readable row List.mem_cons_self
    obtain ⟨best, t, found, origin, time, above, bound⟩ := foldl_laterRow
      (fun other member => readable other (List.mem_cons_of_mem _ member)) timed
    refine .inr ⟨best, t, found, ?_, time, ?_⟩
    · rcases origin with rfl | inside
      · exact List.mem_cons_self
      · exact List.mem_cons_of_mem _ inside
    · intro other member v same
      rcases List.mem_cons.mp member with rfl | later
      · rw [timed] at same
        cases same
        exact above
      · exact bound other later v same

/-- **The gate.** Where it finds no owner, every other verdict for the chip has
lapsed. -/
theorem lapsed_of_chipRotationOwner {p : Platform} {ttl : ℕ} {chip hotkey : Text} {now : Instant}
    {s : State} (readable : Readable s.attestations.rows)
    (free : chipRotationOwner p ttl chip hotkey now s = .ok none) {row : AttestationRow}
    (member : row ∈ s.attestations.rows) (other : row.hotkey ≠ hotkey) {t : Instant}
    (binds : Binds row chip t) : t + Instant.seconds ttl ≤ now := by
  have claimed : row ∈ s.attestations.select fun row => row.ClaimsChip chip hotkey :=
    Table.mem_select.mpr ⟨member, binds.chip, other, binds.status⟩
  have readableClaims : Readable (s.attestations.select fun row => row.ClaimsChip chip hotkey) :=
    fun claim inside => readable claim (Table.mem_select.mp inside).1
  unfold chipRotationOwner at free
  rcases latestRow_spec readableClaims with ⟨-, empty⟩ | ⟨best, u, found, -, time, bound⟩
  · rw [empty] at claimed
    cases claimed
  · rw [found] at free
    simp only [effectivelyVerified, time, StoredTime.parse, bind_eq_ok, subtractSeconds_eq_ok,
      pure_eq_ok] at free
    obtain ⟨effective, ⟨cutoff, ⟨enough, rfl⟩, rfl⟩, owner⟩ := free
    -- the latest claim has lapsed, so all have
    have lapsed : ¬ now - Instant.seconds ttl < u := by
      intro fresh
      simp [fresh] at owner
    have latest : t ≤ now - Instant.seconds ttl :=
      (bound row claimed t binds.time).trans (Nat.le_of_not_lt lapsed)
    exact (Nat.le_sub_iff_add_le enough).mp latest

/-! ## Operations that give no evidence -/

/-- Evidence held at a time was held before, under a verdict that is still there;
and the registry wrote the times of the new verdicts. -/
structure Loosens (now : Instant) (s s' : State) : Prop where
  held : ∀ hotkey expires, now < expires → Holds s' hotkey expires →
    Holds s hotkey expires ∧
      ∀ row ∈ s.attestations.rows, row.hotkey = hotkey → row ∈ s'.attestations.rows
  readable : ∀ row ∈ s'.attestations.rows,
    row ∈ s.attestations.rows ∨ ∃ t, row.lastVerified = .time t

/-- Evidence is only lost. -/
structure Fades (s s' : State) : Prop where
  attestations : s'.attestations = s.attestations
  held : ∀ hotkey expires, Holds s' hotkey expires → Holds s hotkey expires

theorem Fades.refl (s : State) : Fades s s := ⟨rfl, fun _ _ held => held⟩

theorem Fades.trans {a b c : State} (first : Fades a b) (second : Fades b c) : Fades a c :=
  ⟨second.attestations.trans first.attestations,
    fun hotkey expires held => first.held hotkey expires (second.held hotkey expires held)⟩

theorem Fades.loosens {s s' : State} (fades : Fades s s') (now : Instant) : Loosens now s s' where
  held hotkey expires _ held :=
    ⟨fades.held hotkey expires held, fun _ member _ => fades.attestations ▸ member⟩
  readable _ member := .inl (fades.attestations ▸ member)

/-- What a recorded event leaves of a worker's evidence is its own or the old. -/
theorem Recorded.holds {s s' : State} {event : EventRow} {row : SnapshotFields}
    (recorded : Recorded s s' event row) {hotkey : Text} {expires : Instant}
    (held : Holds s' hotkey expires) :
    (hotkey = event.hotkey ∧ Held row expires) ∨ Holds s hotkey expires := by
  by_cases same : hotkey = event.hotkey
  · obtain ⟨current, found, held⟩ := held
    rw [same, recorded.row] at found
    cases found
    exact .inl ⟨same, held⟩
  · right
    unfold Holds at held ⊢
    rwa [recorded.others hotkey same] at held

/-- A transition that inherits its evidence gives none. -/
theorem Moved.held {s s' : State} {current : SnapshotFields} {target : WorkerLifecycleState}
    {reason : LifecycleReason} {when : Instant} {a : TransitionArguments}
    (moved : Moved s s' current target reason when a) (inherits : a.Inherits) {expires : Instant}
    (held : Held (transitionRow (current.revision + 1) (s.eventSequence + 1) target reason when
      (chosenValues current target reason a) current) expires) : Held current expires := by
  obtain ⟨eligible, measured, expiry⟩ := held
  have eligible : target ∈ WorkerLifecycleState.networkEligibleStates := eligible
  have measured : (a.measurement <|> current.measurement) ≠ none := measured
  have expiry : (a.evidenceExpiresAt <|> current.evidenceExpiresAt) = some expires := expiry
  rw [inherits.measurement] at measured
  rw [inherits.expiresAt] at expiry
  refine ⟨?_, measured, expiry⟩
  by_contra out
  exact out_of_allowedTransitions out moved.legal eligible

/-- Writes that give no evidence and leave the verdicts alone. -/
theorem fades_of_write {scope : Scope}
    (inherits : ∀ current target reason a, scope.moves current target reason a → a.Inherits)
    (attests : ¬ scope.attests) {s s' : State} (write : Write scope s s') : Fades s s' := by
  cases write with
  | advance when allowed result =>
    subst result
    exact ⟨rfl, fun _ _ held => held⟩
  | other same _ attestations =>
    refine ⟨attestations.resolve_left attests, fun hotkey expires held => ?_⟩
    unfold Holds at held
    rwa [same.current] at held
  | begin name state reason when evidence allowed clocked enrolled absent recorded =>
    refine ⟨recorded.attestations, fun hotkey expires held => ?_⟩
    rcases recorded.holds held with ⟨-, own⟩ | old
    · exact absurd rfl own.measured
    · exact old
  | move current target reason when a allowed moved =>
    obtain ⟨detail, recorded⟩ := moved.recorded
    refine ⟨recorded.attestations, fun hotkey expires held => ?_⟩
    rcases recorded.holds held with ⟨same, own⟩ | old
    · have same : hotkey = current.hotkey := same
      have inherited := inherits current target reason a allowed
      exact ⟨current, same ▸ moved.found, moved.held inherited own⟩
    · exact old
  | renew current reason when allowed renewed =>
    refine ⟨renewed.recorded.attestations, fun hotkey expires held => ?_⟩
    rcases renewed.recorded.holds held with ⟨-, own⟩ | old
    · exact absurd rfl own.measured
    · exact old

theorem fades_of_writes {scope : Scope}
    (inherits : ∀ current target reason a, scope.moves current target reason a → a.Inherits)
    (attests : ¬ scope.attests) {s s' : State} (writes : Writes scope s s') : Fades s s' :=
  Writes.relation Fades.refl Fades.trans (fades_of_write inherits attests) writes

/-! ## Operations that rewrite a verdict -/

section Rewriting

variable {p : Platform} {s s₁ s' : State} {now when : Instant}

/-- A verdict takes the place of the old one, and its worker is left without
evidence. -/
theorem loosens_of_upsert {row : AttestationRow} {t : Instant}
    (written : upsertAttestation row s = .ok s₁)
    (time : row.lastVerified = .time t) (fades : Fades s₁ s')
    (lost : ∀ expires, now < expires → ¬ Holds s' row.hotkey expires) : Loosens now s s' := by
  obtain ⟨attestations, rfl, rows⟩ := upsertAttestation_eq_ok written
  refine ⟨fun hotkey expires live held => ?_, fun other member => ?_⟩
  · refine ⟨fades.held hotkey expires held, fun old member named => ?_⟩
    rw [fades.attestations]
    refine (rows old).mpr (.inr ⟨member, fun same => ?_⟩)
    rw [← named, same] at held
    exact lost expires live held
  · rw [fades.attestations] at member
    rcases (rows other).mp member with rfl | ⟨old, -⟩
    · exact .inr ⟨t, time⟩
    · exact .inl old

/-- A verdict is deleted, and its worker is left without evidence. -/
theorem loosens_of_delete {hotkey : Text} (fades : Fades s₁ s')
    (deleted : s₁.attestations = s.attestations.delete fun row => row.hotkey = hotkey)
    (same : s₁.current = s.current)
    (lost : ∀ expires, now < expires → ¬ Holds s' hotkey expires) : Loosens now s s' := by
  refine ⟨fun name expires live held => ?_, fun row member => ?_⟩
  · have old := fades.held name expires held
    unfold Holds at old
    rw [same] at old
    refine ⟨old, fun row member named => ?_⟩
    rw [fades.attestations, deleted]
    refine Table.mem_delete.mpr ⟨member, fun clash => ?_⟩
    rw [← named, clash] at held
    exact lost expires live held
  · rw [fades.attestations, deleted] at member
    exact .inl (Table.mem_delete.mp member).1

theorem not_holds_of_state {hotkey : Text} {row : SnapshotFields}
    (found : s.current.find? hotkey = some row)
    (out : row.state ∉ WorkerLifecycleState.networkEligibleStates) (expires : Instant) :
    ¬ Holds s hotkey expires := by
  rintro ⟨other, found', held⟩
  rw [found] at found'
  cases found'
  exact out held.eligible

/-- A worker that fails holds nothing. -/
theorem not_holds_of_failed {hotkey : Text} {reason : LifecycleReason} {a : TransitionArguments}
    {snapshot : LifecycleSnapshot}
    (transitioned : transitionLifecycleInConnection p hotkey .failed reason when a s =
      .ok (snapshot, s')) (expires : Instant) : ¬ Holds s' hotkey expires := by
  obtain ⟨current, -, named, -, moved⟩ := transition_cases transitioned
  obtain ⟨detail, recorded⟩ := moved.recorded
  rw [← named]
  have failed : WorkerLifecycleState.failed ∉ WorkerLifecycleState.networkEligibleStates := by
    decide
  exact not_holds_of_state recorded.row failed expires

/-- A worker that starts a generation holds nothing. -/
theorem not_holds_of_reenroll {hotkey : Text} {reason : LifecycleReason} {operator : Bool}
    {snapshot : LifecycleSnapshot}
    (reenrolled : reenrollLifecycle p hotkey reason operator when s = .ok (snapshot, s'))
    (expires : Instant) : ¬ Holds s' hotkey expires := by
  obtain ⟨current, -, named, -, -, renewed⟩ := reenroll_cases reenrolled
  rw [← named]
  rintro ⟨row, found, held⟩
  have found : s'.current.find? current.hotkey = some row := found
  rw [show s'.current.find? current.hotkey = _ from renewed.recorded.row] at found
  cases found
  exact held.measured rfl

/-- The scope of transitions that inherit their evidence. -/
def Scope.inheriting : Scope :=
  { Scope.idle with
    moves := fun _ _ _ a => a.Inherits
    begins := fun _ _ _ => True
    renews := fun _ _ => True
    enrolls := True }

theorem fades_of_inheriting (writes : Writes .inheriting s s') : Fades s s' :=
  fades_of_writes (fun _ _ _ _ inherits => inherits) (fun attests => attests) writes

theorem loosens_of_clearVerdict {hotkey : Text} {u : Unit}
    (cleared : clearVerdict hotkey s = .ok (u, s'))
    (spent : ∀ row ∈ s.current.find? hotkey, ¬ LiveAt row now) : Loosens now s s' := by
  simp only [clearVerdict, bind_eq_ok, pure_eq_ok, Prod.mk.injEq] at cleared
  obtain ⟨_, -, -, rfl⟩ := cleared
  have fades : Fades (deleteAttestation hotkey s) (deleteAttestation hotkey s) := .refl _
  refine loosens_of_delete fades rfl rfl fun expires live => ?_
  rintro ⟨row, found, held⟩
  exact spent row found ⟨expires, held, live⟩

theorem loosens_of_enroll {a : EnrollArguments} {ts : Instant} {u : Unit}
    (enrolled : enroll p a ts when s = .ok (u, s')) : Loosens now s s' := by
  obtain ⟨canonical, nonces, -, -, written⟩ := enroll_cases enrolled
  unfold enrollWorker at written
  split at written
  · have fades := fades_of_inheriting (writes_of_enrollNew written trivial trivial)
    have same : Fades s s' := ⟨fades.attestations, fades.held⟩
    exact same.loosens now
  · unfold enrollAgain at written
    split at written
    · simp only [bind_eq_ok, pure_eq_ok] at written
      obtain ⟨⟨_, s₂⟩, reenrolled, rfl⟩ := written
      have fades := fades_of_inheriting (writes_of_reenroll reenrolled fun _ _ _ => trivial)
      refine loosens_of_delete fades rfl rfl fun expires _ => ?_
      exact not_holds_of_reenroll reenrolled expires
    · rw [pure_eq_ok] at written
      have same : Fades s s' := by
        subst written
        exact ⟨rfl, fun _ _ held => held⟩
      exact same.loosens now

/-- A refresh failure on the last attempt leaves no evidence. -/
theorem not_holds_of_exhausted {hotkey : Text} {attempts : ℤ} {retry : RetryPolicy}
    {operatorDetail : Option Text} {expectedGeneration expectedRevision : Option ℤ}
    {snapshot : LifecycleSnapshot}
    (recorded : recordRefreshFailure p hotkey attempts attempts retry operatorDetail
      expectedGeneration expectedRevision when s = .ok (snapshot, s')) (expires : Instant) :
    ¬ Holds s' hotkey expires := by
  simp only [recordRefreshFailure, requireExpected, bind_eq_ok, require_eq_ok] at recorded
  obtain ⟨-, -, s₁, -, old, read, -, -, rest⟩ := recorded
  by_cases outside : SnapshotFields.OutOfService old.fields
  · have out : old.fields.state ∉ WorkerLifecycleState.networkEligibleStates := by
      revert outside
      unfold SnapshotFields.OutOfService
      cases old.fields.state <;> decide
    rw [if_pos outside, pure_eq_ok] at rest
    cases rest
    exact not_holds_of_state (currentSnapshot_eq_ok read) out expires
  · rw [if_neg outside] at rest
    exact not_holds_of_failed rest expires

/-- A probe failure that is recorded passed its checks. -/
theorem passes_of_probeFailure {a : ProbeArguments} {ts : Instant} {snapshot : LifecycleSnapshot}
    {row : SnapshotFields} (recorded : recordProbeFailure p a when ts s = .ok (snapshot, s'))
    (found : s.current.find? a.hotkey = some row) : a.Passes row := by
  simp only [recordProbeFailure, recordRefreshFailure, requireExpected, bind_eq_ok, require_eq_ok]
    at recorded
  obtain ⟨-, ⟨positive, small, retry⟩, current, read, s₁, written, -, -, s₂, advanced, again,
    reread, -, ⟨-, generation, revision⟩, -⟩ := recorded
  obtain ⟨_, rfl, -⟩ := upsertAttestation_eq_ok written
  obtain ⟨-, rfl⟩ := advanceLifecycleClock_eq_ok advanced
  have same : again.fields = row := Option.some.inj ((currentSnapshot_eq_ok reread).symm.trans found)
  rw [same] at generation revision
  refine ⟨⟨positive, small⟩, retry, fun expected given => ?_, fun expected given => ?_⟩
  · exact generation expected (by rw [given]; rfl)
  · exact revision expected (by rw [given]; rfl)

theorem loosens_of_probeFailure {a : ProbeArguments} {ts : Instant} {snapshot : LifecycleSnapshot}
    (recorded : recordProbeFailure p a when ts s = .ok (snapshot, s'))
    (spent : ∀ row ∈ s.current.find? a.hotkey, a.Passes row → LiveAt row when →
      a.maximumAttempts ≤ row.retryCount + 1) : Loosens when s s' := by
  obtain ⟨current, s₁, found, written, rest⟩ := recordProbeFailure_cases recorded
  have passes : a.Passes current := passes_of_probeFailure recorded found
  have fades : Fades s₁ s' := fades_of_inheriting
    (writes_of_refreshFailure rest fun _ _ _ _ move => move.2.2.1)
  refine loosens_of_upsert written rfl fades fun expires live held => ?_
  -- evidence that is still live was held before, so this was the last attempt
  obtain ⟨_, rfl, -⟩ := upsertAttestation_eq_ok written
  obtain ⟨row, found', own⟩ := fades.held a.hotkey expires held
  have same : row = current := Option.some.inj (found'.symm.trans found)
  subst same
  have last := spent row found' passes ⟨expires, own, live⟩
  rw [min_eq_right last] at rest
  exact not_holds_of_exhausted rest expires held

/-- A worker whose verdict does not count holds nothing. -/
theorem not_holds_of_failedVerdict {ttl : ℕ} {a : VerdictArguments} {record : VerdictRecord}
    {current : SnapshotFields} (found : s.current.find? a.hotkey = some current)
    (applied : applyVerdict p ttl a record current when s = .ok s')
    (failed : record.status ≠ Text.ofString "VERIFIED") (expires : Instant) :
    ¬ Holds s' a.hotkey expires := by
  have lost : ∀ {expectedGeneration expectedRevision : Option ℤ},
      applyVerdict.failVerdict p a record current when s expectedGeneration expectedRevision =
        .ok s' → ¬ Holds s' a.hotkey expires := by
    intro expectedGeneration expectedRevision outcome
    unfold applyVerdict.failVerdict at outcome
    by_cases only : SnapshotFields.OperatorOnly current
    · rw [if_pos only] at outcome
      cases outcome
      refine not_holds_of_state found ?_ expires
      rw [operatorOnly_iff] at only
      revert only
      cases current.state <;> decide
    · rw [if_neg only, map_eq_ok] at outcome
      obtain ⟨⟨_, _⟩, transitioned, rfl⟩ := outcome
      exact not_holds_of_failed transitioned expires
  unfold applyVerdict at applied
  dsimp only at applied
  split at applied
  · rw [if_neg failed] at applied
    exact lost applied
  · exact lost applied

theorem loosens_of_failedVerdict {ttl : ℕ} {a : VerdictArguments} {record : VerdictRecord}
    {current : SnapshotFields} {t : Instant} {assurance : Option Text}
    (written : upsertAttestation ⟨a.hotkey, record.chipId, record.tier, record.status, .time t,
      record.error, assurance⟩ s = .ok s₁)
    (found : s₁.current.find? a.hotkey = some current)
    (applied : applyVerdict p ttl a record current when s₁ = .ok s')
    (failed : record.status ≠ Text.ofString "VERIFIED") : Loosens now s s' := by
  have fades : Fades s₁ s' := by
    refine fades_of_inheriting (writes_of_applyVerdict found applied ?_ ?_)
    · exact fun _ _ _ _ _ _ verified _ => absurd verified failed
    · exact fun _ _ _ _ inherits => inherits
  exact loosens_of_upsert written rfl fades fun expires _ =>
    not_holds_of_failedVerdict found applied failed expires

end Rewriting

/-! ## Operations that attest -/

section Attesting

variable {p : Platform} {s s' : State} {when : Instant}

/-- A verified attestation moves the worker to `attested`, on evidence that lives
as long as a verdict does. -/
theorem attested_cases {ttl : ℕ} {hotkey : Text} {attested : Attested}
    {policyRegistryRelease : Option ℤ} {policyRegistryDigest : Option Text}
    {expectedGeneration expectedRevision : Option ℤ} {snapshot : LifecycleSnapshot}
    (recorded : recordAttestedLifecycle p ttl hotkey attested policyRegistryRelease
      policyRegistryDigest expectedGeneration expectedRevision when s = .ok (snapshot, s')) :
    ∃ current verified a, verifiedTime p attested = some verified ∧ current.hotkey = hotkey ∧
      a.evidenceExpiresAt = some (verified + Instant.seconds ttl) ∧
      Moved { s with clock := some when } s' current .attested .attestationVerified when a := by
  simp only [recordAttestedLifecycle, bind_eq_ok, require_eq_ok, demand_eq_ok, addSeconds_eq_ok]
    at recorded
  obtain ⟨-, -, assurance, assured, raw, timed, verified, parsed, _, ⟨-, rfl⟩, -, -, rest⟩ :=
    recorded
  obtain ⟨current, -, named, -, moved⟩ := transition_cases rest
  refine ⟨current, verified, _, ?_, named, rfl, moved⟩
  simp only [verifiedTime, assured, timed, parsed, Option.bind_eq_bind, Option.bind_some,
    Except.toOption]

/-- A verdict that counts was presented so, and the gate found its chip free. -/
theorem gatedRecord_verified {ttl : ℕ} {a : VerdictArguments} {now : Instant}
    {record : VerdictRecord}
    (gated : gatedRecord p ttl a.hotkey (presentedRecord a) now s = .ok record)
    (verified : record.status = Text.ofString "VERIFIED") :
    ∃ attested, a.attested = some attested ∧ record.chipId = some attested.chipId ∧
      attested.verificationStatus = Text.ofString "VERIFIED" ∧
      chipRotationOwner p ttl attested.chipId a.hotkey now s = .ok none := by
  have unmarked : Text.ofString "FAILED" ≠ Text.ofString "VERIFIED" := by decide
  unfold presentedRecord at gated
  split at gated
  case h_1 =>
    cases gated
    exact absurd verified unmarked
  case h_2 attested presented =>
    split at gated
    · cases gated
      exact absurd verified unmarked
    · simp only [gatedRecord] at gated
      split at gated
      · simp only [bind_eq_ok, pure_eq_ok] at gated
        obtain ⟨conflict, owned, rfl⟩ := gated
        cases conflict with
        | none => exact ⟨attested, presented, rfl, verified, owned⟩
        | some owner => exact absurd verified unmarked
      · cases gated
        contradiction

end Attesting

/-! ## The invariant -/

/-- A worker is attested on a measurement only. -/
def Measured (s : State) : Prop :=
  ∀ hotkey, ∀ row ∈ s.current.find? hotkey, row.state = .attested → row.measurement ≠ none

/-- Live evidence is covered by the verdict on record, and no two workers hold
live evidence from one chip. -/
structure Guarded (w : Watched) : Prop where
  covered : ∀ hotkey chip expires, w.now < expires → Holds w.state hotkey expires →
    w.chips hotkey = some chip → Covered w.state hotkey chip
  exclusive : ∀ first second chip e e', w.now < e → w.now < e' → Holds w.state first e →
    Holds w.state second e' → w.chips first = some chip → w.chips second = some chip →
    first = second
  readable : Readable w.state.attestations.rows
  measured : Measured w.state

theorem Guarded.initial : Guarded .initial where
  covered _ _ _ _ held := by
    obtain ⟨_, found, -⟩ := held
    cases found
  exclusive _ _ _ _ _ _ _ held := by
    obtain ⟨_, found, -⟩ := held
    cases found
  readable _ member := by cases member
  measured _ _ found := by cases found

/-- First states are not attested. -/
theorem not_attested_of_begins {p : Platform} {op : Op} {state : WorkerLifecycleState}
    {reason : LifecycleReason} {evidence : InitialEvidence}
    (begins : (op.scope p).begins state reason evidence) : state ≠ .attested := by
  cases op with
  | backfill ttl when =>
    rintro rfl
    simp [Op.scope] at begins
  | enroll a ts when =>
    obtain ⟨rfl, -⟩ := begins
    decide
  | _ => exact begins.elim

theorem isNonempty_ne_none {t : Option Text} (nonempty : isNonempty t = true) : t ≠ none := by
  rintro rfl
  cases nonempty

theorem measured_of_write {scope : Scope}
    (begins : ∀ state reason evidence, scope.begins state reason evidence → state ≠ .attested)
    {s s' : State} (write : Write scope s s') (measured : Measured s) : Measured s' := by
  -- a recorded row that is measured where it is attested is all there is to check
  have of_recorded : ∀ {event row}, Recorded s s' event row →
      (row.state = .attested → row.measurement ≠ none) → Measured s' := by
    intro event row recorded own hotkey current found
    by_cases same : hotkey = event.hotkey
    · rw [same, recorded.row] at found
      cases found
      exact own
    · rw [recorded.others hotkey same] at found
      exact measured hotkey current found
  cases write with
  | advance when allowed result =>
    subst result
    exact measured
  | other same _ _ =>
    unfold Measured
    rw [same.current]
    exact measured
  | begin name state reason when evidence allowed clocked enrolled absent recorded =>
    exact of_recorded recorded fun attested =>
      absurd attested (begins state reason evidence allowed)
  | move current target reason when a allowed moved =>
    obtain ⟨detail, recorded⟩ := moved.recorded
    refine of_recorded recorded fun attested => ?_
    exact isNonempty_ne_none (moved.fresh attested).2.2.1
  | renew current reason when allowed renewed =>
    refine of_recorded renewed.recorded fun attested => ?_
    cases attested

theorem measured_step {p : Platform} (s : State) (op : Op) (measured : Measured s) :
    Measured (step p s op) :=
  settle_of_ok measured fun _ committed =>
    Writes.invariant (measured_of_write fun _ _ _ begins => not_attested_of_begins begins)
      (writes_of_commit committed) measured

/-- What loosens keeps the guard, if the workers that still hold evidence keep
their chips. -/
theorem Guarded.loosen {w w' : Watched} (guarded : Guarded w)
    (later : w.now ≤ w'.now) (loosens : Loosens w'.now w.state w'.state)
    (chips : ∀ hotkey expires, w'.now < expires → Holds w'.state hotkey expires →
      w'.chips hotkey = w.chips hotkey)
    (measured : Measured w'.state) : Guarded w' where
  covered hotkey chip expires live held owned := by
    obtain ⟨old, kept⟩ := loosens.held hotkey expires live held
    rw [chips hotkey expires live held] at owned
    obtain ⟨row, member, named, bound⟩ :=
      guarded.covered hotkey chip expires (later.trans_lt live) old owned
    exact ⟨row, kept row member named, named, bound⟩
  exclusive first second chip e e' live live' held held' owned owned' := by
    rw [chips first e live held] at owned
    rw [chips second e' live' held'] at owned'
    exact guarded.exclusive first second chip e e' (later.trans_lt live) (later.trans_lt live')
      (loosens.held first e live held).1 (loosens.held second e' live' held').1 owned owned'
  readable row member := by
    rcases loosens.readable row member with old | new
    · exact guarded.readable row old
    · exact new
  measured := measured

/-- An attestation on evidence up to a time keeps the guard, if the verdict on
record covers it, the verdicts of the other workers are untouched, and while the
evidence is live no other worker holds live evidence under a verdict for the chip. -/
theorem Guarded.attest {w w' : Watched} (guarded : Guarded w) (later : w.now ≤ w'.now)
    (hotkey chip : Text) (expiry : Instant)
    (held : ∀ name expires, Holds w'.state name expires →
      (name = hotkey ∧ expires = expiry) ∨ (name ≠ hotkey ∧ Holds w.state name expires))
    (own : w'.chips hotkey = some chip)
    (others : ∀ name, name ≠ hotkey → w'.chips name = w.chips name)
    (covering : w'.now < expiry → Covered w'.state hotkey chip)
    (kept : ∀ row ∈ w.state.attestations.rows, row.hotkey ≠ hotkey →
      row ∈ w'.state.attestations.rows)
    (alone : w'.now < expiry → ∀ other ∈ w.state.attestations.rows, other.hotkey ≠ hotkey →
      ∀ t, Binds other chip t → ∀ row ∈ w.state.current.find? other.hotkey, ¬ LiveAt row w'.now)
    (readable : Readable w'.state.attestations.rows) (measured : Measured w'.state) :
    Guarded w' := by
  -- another worker with live evidence is covered by a verdict, which is not for this chip
  have elsewhere : w'.now < expiry → ∀ name expires, name ≠ hotkey → w'.now < expires →
      Holds w.state name expires → w.chips name ≠ some chip := by
    intro fresh name expires other live old owned
    obtain ⟨row, member, named, t, binds⟩ :=
      guarded.covered name chip expires (later.trans_lt live) old owned
    obtain ⟨current, found, holds⟩ := old
    rw [← named] at other found
    exact alone fresh row member other t binds current found ⟨expires, holds, live⟩
  refine ⟨?_, ?_, readable, measured⟩
  · intro name chip' expires live holds owned
    rcases held name expires holds with ⟨rfl, rfl⟩ | ⟨other, old⟩
    · rw [own] at owned
      cases owned
      exact covering live
    · rw [others name other] at owned
      obtain ⟨row, member, named, bound⟩ :=
        guarded.covered name chip' expires (later.trans_lt live) old owned
      exact ⟨row, kept row member (named ▸ other), named, bound⟩
  · intro first second chip' e e' live live' holds holds' owned owned'
    rcases held first e holds with ⟨rfl, rfl⟩ | ⟨other, old⟩
    · rcases held second e' holds' with ⟨rfl, -⟩ | ⟨other', old'⟩
      · rfl
      · rw [own] at owned
        rw [others second other', ← owned] at owned'
        exact absurd owned' (elsewhere live second e' other' live' old')
    · rcases held second e' holds' with ⟨rfl, rfl⟩ | ⟨other', old'⟩
      · rw [own] at owned'
        rw [others first other, ← owned'] at owned
        exact absurd owned (elsewhere live' first e other live old)
      · rw [others first other] at owned
        rw [others second other'] at owned'
        exact guarded.exclusive first second chip' e e' (later.trans_lt live)
          (later.trans_lt live') old old' owned owned'

/-! ## Steps -/

section Steps

variable {p : Platform} {ttl : ℕ} {w : Watched} {op : Op}

/-- An operation that presents no verdict for a worker leaves its chip. -/
theorem chips_of_no_verdict {hotkey : Text} (silent : op.verdictChip hotkey = none) :
    (w.step p op).chips hotkey = w.chips hotkey := by
  unfold Watched.step
  dsimp only
  split
  · rw [silent]
    rfl
  · rfl

/-- An operation that only loosens keeps the guard, if it presents no verdict for
a worker that still holds evidence. -/
theorem Guarded.step_of_loosens (guarded : Guarded w) (regular : Regular p ttl w op)
    (loosens : Loosens op.lastReading w.state (Registry.step p w.state op))
    (silent : ∀ hotkey expires, op.lastReading < expires →
      Holds (Registry.step p w.state op) hotkey expires → op.verdictChip hotkey = none) :
    Guarded (w.step p op) :=
  guarded.loosen (regular.clock.1.trans regular.clock.2) loosens
    (fun hotkey expires live held => chips_of_no_verdict (silent hotkey expires live held))
    (measured_step w.state op guarded.measured)

/-- An operation within a scope that gives no evidence and leaves the verdicts
alone keeps the guard. -/
theorem Guarded.step_of_quiet (guarded : Guarded w) (regular : Regular p ttl w op)
    (inherits : ∀ current target reason a, (op.scope p).moves current target reason a → a.Inherits)
    (attests : ¬ (op.scope p).attests) (silent : ∀ hotkey, op.verdictChip hotkey = none) :
    Guarded (w.step p op) := by
  have fades : Fades w.state (Registry.step p w.state op) :=
    settle_of_ok (P := Fades w.state) (.refl _) fun _ committed =>
      fades_of_writes inherits attests (writes_of_commit committed)
  exact guarded.step_of_loosens regular (fades.loosens _) fun hotkey _ _ _ => silent hotkey

/-- A refused operation keeps the guard: nothing changes but the time. -/
theorem Guarded.step_of_error (guarded : Guarded w) (regular : Regular p ttl w op)
    {failure : Failure} (refused : op.commit p w.state = .error failure) :
    Guarded (w.step p op) := by
  have same : Registry.step p w.state op = w.state := by rw [Registry.step, refused, settle_error]
  refine guarded.loosen (regular.clock.1.trans regular.clock.2) ?_ (fun hotkey _ _ _ => ?_)
    (measured_step w.state op guarded.measured)
  · rw [Watched.step, same]
    exact (Fades.refl w.state).loosens _
  · unfold Watched.step
    dsimp only
    rw [if_neg]
    rintro ⟨row, found, -, changed⟩
    rw [same] at found
    exact changed found

/-- What a verified attestation writes for its worker, with everything else about
the lifecycle left alone. -/
theorem Moved.attested {s s' : State} {current : SnapshotFields} {when : Instant}
    {a : TransitionArguments} {expires : Instant}
    (moved : Moved s s' current .attested .attestationVerified when a)
    (expiring : a.evidenceExpiresAt = some expires) :
    Attests s s' current.hotkey ∧ s'.attestations = s.attestations ∧
      ∀ name e, Holds s' name e → (name = current.hotkey ∧ e = expires) ∨
        (name ≠ current.hotkey ∧ Holds s name e) := by
  obtain ⟨detail, recorded⟩ := moved.recorded
  refine ⟨⟨_, recorded.row, rfl, ?_⟩, recorded.attestations, fun name e held => ?_⟩
  · -- the revision has risen
    rw [moved.found]
    intro same
    have revision := congrArg SnapshotFields.revision (Option.some.inj same)
    exact absurd revision (Nat.ne_of_lt (Nat.lt_succ_self current.revision))
  · by_cases same : name = current.hotkey
    · left
      obtain ⟨row, found, own⟩ := held
      rw [same] at found
      have found : some (transitionRow (current.revision + 1) (s.eventSequence + 1) .attested
          .attestationVerified when (chosenValues current .attested .attestationVerified a)
          current) = some row := recorded.row.symm.trans found
      cases found
      have expiry : (a.evidenceExpiresAt <|> current.evidenceExpiresAt) = some e := own.expiry
      rw [expiring] at expiry
      cases expiry
      exact ⟨same, rfl⟩
    · right
      unfold Holds at held ⊢
      rw [recorded.others name same] at held
      exact ⟨same, held⟩

/-- A direct attestation keeps the guard where the verdict on record covers it. -/
theorem Guarded.step_recordAttested {ttl' : ℕ} {hotkey : Text} {attested : Attested}
    {release : Option ℤ} {digest : Option Text} {generation revision : Option ℤ}
    {when : Instant} (guarded : Guarded w)
    (regular : Regular p ttl w (.recordAttestedLifecycle ttl' hotkey attested release digest
      generation revision when)) {s' : State} {snapshot : LifecycleSnapshot}
    (recorded : recordAttestedLifecycle p ttl' hotkey attested release digest generation revision
      when w.state = .ok (snapshot, s')) :
    Guarded (w.step p (.recordAttestedLifecycle ttl' hotkey attested release digest generation
      revision when)) := by
  have result : Registry.step p w.state (.recordAttestedLifecycle ttl' hotkey attested release
      digest generation revision when) = s' := by
    simp only [Registry.step, Op.commit, recorded, Except.map, settle_ok]
  have same : ttl' = ttl := regular.ttl
  obtain ⟨current, verified, a, timed, rfl, expiring, moved⟩ := attested_cases recorded
  obtain ⟨attests, attestations, held⟩ := moved.attested expiring
  have binding := regular.binding verified timed
  rw [same] at held binding
  have attests : Attests w.state s' current.hotkey := attests
  have attestations : s'.attestations = w.state.attestations := attestations
  have later : w.now ≤ when := regular.clock.1
  refine guarded.attest later current.hotkey attested.chipId (verified + Instant.seconds ttl)
    ?_ ?_ ?_ (fun live => ?_) ?_ (fun live => ?_) ?_ (measured_step w.state _ guarded.measured)
  · rw [Watched.step, result]
    exact held
  · unfold Watched.step
    dsimp only
    rw [result, if_pos attests]
    simp [Op.verdictChip]
  · intro name other
    refine chips_of_no_verdict ?_
    simp [Op.verdictChip, Ne.symm other]
  · -- no verdict is written here: the one on record covers the evidence
    obtain ⟨row, member, named, bound⟩ := (binding live).1
    refine ⟨row, ?_, named, bound⟩
    rw [Watched.step, result, attestations]
    exact member
  · intro other inside _
    rw [Watched.step, result, attestations]
    exact inside
  · exact (binding live).2
  · rw [Watched.step, result, attestations]
    exact guarded.readable

/-- A verdict that the gate lets through keeps the guard. -/
theorem Guarded.step_verified {ttl' : ℕ} {a : VerdictArguments} {clock : VerdictClock}
    (guarded : Guarded w) (regular : Regular p ttl w (.recordVerdict ttl' a clock))
    {record : VerdictRecord} {current : SnapshotFields} {s₁ s' : State}
    (result : Registry.step p w.state (.recordVerdict ttl' a clock) = s')
    (gated : gatedRecord p ttl' a.hotkey (presentedRecord a) clock.gate w.state = .ok record)
    (written : upsertAttestation ⟨a.hotkey, record.chipId, record.tier, record.status,
      .time clock.ts.floorSecond, record.error, assuranceJson p a.attested⟩ w.state = .ok s₁)
    (applied : applyVerdict p ttl' a record current clock.when s₁ = .ok s')
    (verified : record.status = Text.ofString "VERIFIED") :
    Guarded (w.step p (.recordVerdict ttl' a clock)) := by
  have same : ttl' = ttl := regular.ttl
  subst same
  obtain ⟨attested, presented, chip, marked, free⟩ := gatedRecord_verified gated verified
  obtain ⟨attestations, rfl, rows⟩ := upsertAttestation_eq_ok written
  simp only [applyVerdict, presented, if_pos verified, map_eq_ok] at applied
  obtain ⟨⟨_, _⟩, recorded, rfl⟩ := applied
  obtain ⟨worker, verifiedAt, arguments, -, named, expiring, moved⟩ := attested_cases recorded
  obtain ⟨attests, kept, held⟩ := moved.attested expiring
  have kept : _ = attestations := kept
  have later : w.now ≤ clock.gate := regular.clock.1.trans regular.clock.2
  rw [named] at attests held
  have attests : Attests w.state _ a.hotkey := attests
  refine guarded.attest later a.hotkey attested.chipId (verifiedAt + Instant.seconds ttl')
    ?_ ?_ ?_ (fun _ => ?_) ?_ (fun _ => ?_) ?_ (measured_step w.state _ guarded.measured)
  · rw [Watched.step, result]
    exact held
  · unfold Watched.step
    dsimp only
    rw [result, if_pos attests]
    simp [Op.verdictChip, presented]
  · intro name other
    refine chips_of_no_verdict ?_
    simp [Op.verdictChip, Ne.symm other]
  · -- the new verdict covers the evidence
    refine ⟨⟨a.hotkey, record.chipId, record.tier, record.status, .time clock.ts.floorSecond,
      record.error, assuranceJson p a.attested⟩, ?_, rfl, clock.ts.floorSecond,
      ⟨verified, chip, rfl⟩⟩
    rw [Watched.step, result, kept]
    exact (rows _).mpr (.inl rfl)
  · intro row inside other
    rw [Watched.step, result, kept]
    exact (rows row).mpr (.inr ⟨inside, other⟩)
  · -- every other verdict for the chip has lapsed, and the evidence under it with it
    intro other member apart t binds
    have lapsed := lapsed_of_chipRotationOwner guarded.readable free member apart binds
    exact regular.binding attested presented marked other member apart t binds lapsed
  · rw [Watched.step, result, kept]
    intro row inside
    rcases (rows row).mp inside with rfl | ⟨old, -⟩
    · exact ⟨_, rfl⟩
    · exact guarded.readable row old

/-- A verdict keeps the guard, counted or not. -/
theorem Guarded.step_recordVerdict {ttl' : ℕ} {a : VerdictArguments} {clock : VerdictClock}
    (guarded : Guarded w) (regular : Regular p ttl w (.recordVerdict ttl' a clock)) {u : Unit}
    {s' : State} (recorded : recordVerdict p ttl' a clock w.state = .ok (u, s')) :
    Guarded (w.step p (.recordVerdict ttl' a clock)) := by
  have result : Registry.step p w.state (.recordVerdict ttl' a clock) = s' := by
    simp only [Registry.step, Op.commit, recorded, Except.map, settle_ok]
  obtain ⟨record, s₁, current, gated, written, found, applied⟩ := recordVerdict_cases recorded
  by_cases verified : record.status = Text.ofString "VERIFIED"
  · exact guarded.step_verified regular result gated written applied verified
  · refine guarded.step_of_loosens regular ?_ fun hotkey expires _ held => ?_
    · rw [result]
      exact loosens_of_failedVerdict written found applied verified
    · -- the worker of the verdict holds nothing, so this is another one
      rw [result] at held
      have other : a.hotkey ≠ hotkey := by
        rintro rfl
        exact not_holds_of_failedVerdict found applied verified expires held
      exact if_neg other

theorem Guarded.step (guarded : Guarded w) (regular : Regular p ttl w op) :
    Guarded (w.step p op) := by
  cases outcome : op.commit p w.state with
  | error failure => exact guarded.step_of_error regular outcome
  | ok s' =>
    have result : Registry.step p w.state op = s' := by rw [Registry.step, outcome, settle_ok]
    -- an operation that only loosens, and presents no verdict
    have loosened : Loosens op.lastReading w.state s' →
        (∀ hotkey, op.verdictChip hotkey = none) → Guarded (w.step p op) := by
      intro loosens silent
      rw [← result] at loosens
      exact guarded.step_of_loosens regular loosens fun hotkey _ _ _ => silent hotkey
    cases op with
    | enroll a ts when =>
      simp only [Op.commit, map_eq_ok, Prod.exists, exists_eq_right] at outcome
      obtain ⟨_, enrolled⟩ := outcome
      exact loosened (loosens_of_enroll enrolled) fun _ => rfl
    | clearVerdict hotkey when =>
      simp only [Op.commit, map_eq_ok, Prod.exists, exists_eq_right] at outcome
      obtain ⟨_, cleared⟩ := outcome
      exact loosened (loosens_of_clearVerdict cleared regular.binding) fun _ => rfl
    | recordProbeFailure a when ts =>
      simp only [Op.commit, map_eq_ok, Prod.exists, exists_eq_right] at outcome
      obtain ⟨_, recorded⟩ := outcome
      exact loosened (loosens_of_probeFailure recorded regular.binding) fun _ => rfl
    | recordVerdict ttl' a clock =>
      simp only [Op.commit, map_eq_ok, Prod.exists, exists_eq_right] at outcome
      obtain ⟨_, recorded⟩ := outcome
      exact guarded.step_recordVerdict regular recorded
    | recordAttestedLifecycle ttl' hotkey attested release digest generation revision when =>
      simp only [Op.commit, map_eq_ok, Prod.exists, exists_eq_right] at outcome
      obtain ⟨_, recorded⟩ := outcome
      exact guarded.step_recordAttested regular recorded
    | transitionLifecycle =>
      exact guarded.step_of_quiet regular (fun _ _ _ _ move => move.2.2.2) (fun no => no)
        fun _ => rfl
    | recordRefreshFailure =>
      exact guarded.step_of_quiet regular (fun _ _ _ _ move => move.2.2.1) (fun no => no)
        fun _ => rfl
    | applyLifecyclePolicy =>
      exact guarded.step_of_quiet regular (fun _ _ _ _ move => move.2.2.2) (fun no => no)
        fun _ => rfl
    | retireLifecycle =>
      exact guarded.step_of_quiet regular (fun _ _ _ _ move => move.2.1) (fun no => no)
        fun _ => rfl
    | lifecycleSnapshot =>
      exact guarded.step_of_quiet regular (fun _ _ _ _ move => move.2.2.2) (fun no => no)
        fun _ => rfl
    | dueRefreshes =>
      exact guarded.step_of_quiet regular (fun _ _ _ _ move => move.2.2.2) (fun no => no)
        fun _ => rfl
    -- the rest moves no worker at all
    | _ => exact guarded.step_of_quiet regular (fun _ _ _ _ no => no.elim) (fun no => no) fun _ => rfl

end Steps

/-! ## Runs -/

/-- The worker is eligible at a time, on the strength of a verdict for the chip. -/
def Watched.EligibleOn (w : Watched) (hotkey chip : Text) (now : Instant) : Prop :=
  w.chips hotkey = some chip ∧
    ∃ row ∈ w.state.current.find? hotkey, eligibleAt row now = true

instance (w : Watched) (hotkey chip : Text) (now : Instant) :
    Decidable (w.EligibleOn hotkey chip now) :=
  inferInstanceAs (Decidable (_ ∧ ∃ row ∈ w.state.current.find? hotkey, _))

/-- An eligible worker holds evidence that has not expired. -/
theorem holds_of_eligibleOn {w : Watched} (measured : Measured w.state) {hotkey chip : Text}
    {now : Instant} (eligible : w.EligibleOn hotkey chip now) :
    ∃ expires, now < expires ∧ Holds w.state hotkey expires := by
  obtain ⟨-, row, found, eligible⟩ := eligible
  unfold eligibleAt at eligible
  rw [Bool.and_eq_true, decide_eq_true_eq] at eligible
  obtain ⟨attested, expiry⟩ := eligible
  have inside : row.state ∈ WorkerLifecycleState.networkEligibleStates := by
    rw [attested]
    decide
  cases expires : row.evidenceExpiresAt with
  | none =>
    rw [expires] at expiry
    cases expiry
  | some t =>
    rw [expires] at expiry
    exact ⟨t, of_decide_eq_true expiry, row, found,
      ⟨inside, measured hotkey row found attested, expires⟩⟩

/-- Two workers eligible on one chip would both hold live evidence from it. -/
theorem Guarded.unique {w : Watched} (guarded : Guarded w) {now : Instant}
    (later : w.now ≤ now) {chip first second : Text} (one : w.EligibleOn first chip now)
    (other : w.EligibleOn second chip now) : first = second := by
  obtain ⟨expires, live, held⟩ := holds_of_eligibleOn guarded.measured one
  obtain ⟨expires', live', held'⟩ := holds_of_eligibleOn guarded.measured other
  exact guarded.exclusive first second chip expires expires' (later.trans_lt live)
    (later.trans_lt live') held held' one.1 other.1

/-- **One chip, one worker.** After any sequence of operations that keep the
bindings, no two workers are eligible on the strength of verdicts for one chip,
then or at any later time. -/
theorem one_chip_one_worker (p : Platform) (ttl : ℕ) (ops : List Op)
    (regular : Along (Watched.step p) (Regular p ttl) .initial ops) (now : Instant)
    (later : (run (Watched.step p) .initial ops).now ≤ now) (chip first second : Text)
    (one : (run (Watched.step p) .initial ops).EligibleOn first chip now)
    (other : (run (Watched.step p) .initial ops).EligibleOn second chip now) :
    first = second := by
  have guarded : Guarded (run (Watched.step p) .initial ops) :=
    invariant_along (fun _ _ guarded regular => guarded.step regular) .initial regular
  exact guarded.unique later one other

/-! ## Concrete runs -/

/-- A claim that passed. -/
def samplePassed : AssuranceClaim where
  status := .passed
  evidenceDigest := some (Text.ofString "sha256:" ++ List.replicate 64 0x30)
  policyDigest := some (Text.ofString "sha256:" ++ List.replicate 64 0x30)
  verifiedAt := some "2024-01-01T00:00:00.500000Z"
  reason := none

/-- A verdict for the chip of the concrete runs. -/
def sampleAttested : Attested where
  tier := .ccCpuTdx
  chipId := "chip"
  measurement := "measurement"
  verificationStatus := "VERIFIED"
  assurance := some ⟨samplePassed, samplePassed, notEvaluatedClaim, notEvaluatedClaim⟩

/-- The verdict recorded for a worker, half a second after the evidence. -/
def sampleVerdict (hotkey : Text) : Op :=
  .recordVerdict 3600 ⟨hotkey, some sampleAttested, none, none, none, none, none,
    ⟨none, none, none, none⟩⟩ ⟨63839664001000000, 63839664001000000, 63839664001000000⟩

/-- A worker enrolls. -/
def sampleEnroll (hotkey endpointUrl : Text) : Op :=
  .enroll (sampleEnrollment hotkey endpointUrl) 63839664000000000 63839664000000000

/-- Two workers enroll. -/
def sampleEnrollments : List Op :=
  [sampleEnroll "first" "https://1.1.1.1:8443", sampleEnroll "second" "https://8.8.8.8:8443"]

/-- The theorem applied to two workers that present one chip: the first stays
eligible on it, and nobody else is. -/
theorem one_chip_one_worker_attested :
    let w := run (Watched.step .sampleNetwork) .initial
      (sampleEnrollments ++ [sampleVerdict "first", sampleVerdict "second"])
    w.EligibleOn (Text.ofString "first") (Text.ofString "chip") 63839664002000000 ∧
      ∀ hotkey, w.EligibleOn hotkey (Text.ofString "chip") 63839664002000000 →
        hotkey = Text.ofString "first" := by
  intro w
  have eligible :
      w.EligibleOn (Text.ofString "first") (Text.ofString "chip") 63839664002000000 := by
    decide +kernel
  have empty : (run (Watched.step .sampleNetwork) .initial
      sampleEnrollments).state.attestations.rows = [] := by
    decide +kernel
  have fresh : ∀ row ∈ (run (Watched.step .sampleNetwork) .initial
      (sampleEnrollments ++ [sampleVerdict "first"])).state.attestations.rows,
      row.lastVerified = .time 63839664001000000 := by
    decide +kernel
  refine ⟨eligible, fun hotkey other => ?_⟩
  refine one_chip_one_worker .sampleNetwork 3600
    (sampleEnrollments ++ [sampleVerdict "first", sampleVerdict "second"])
    ⟨⟨trivial, ⟨Nat.zero_le _, le_rfl⟩, trivial⟩, ⟨trivial, ⟨le_rfl, le_rfl⟩, trivial⟩,
      ⟨rfl, ⟨by decide, le_rfl⟩, ?_⟩, ⟨rfl, ⟨le_rfl, le_rfl⟩, ?_⟩, trivial⟩
    63839664002000000 ?_ _ hotkey _ other eligible
  · intro attested _ _ row member
    cases empty ▸ member
  · -- the verdict on record is in force, so the gate answers
    intro attested _ _ row member _ t binds lapsed
    cases (fresh row member).symm.trans binds.time
    exact absurd lapsed (by decide)
  · decide

/-- A transient probe failure replaces the verdict of an attested worker, and
another worker is attested on the same chip. -/
theorem not_one_chip_one_worker_probed :
    ¬ ∀ (p : Platform) (ttl : ℕ) (ops : List Op),
      Along (Watched.step p) (fun w op => op.UsesTtl ttl ∧ w.now ≤ op.reading ∧
        op.reading ≤ op.lastReading) .initial ops →
      ∀ now, (run (Watched.step p) .initial ops).now ≤ now → ∀ chip first second,
        (run (Watched.step p) .initial ops).EligibleOn first chip now →
        (run (Watched.step p) .initial ops).EligibleOn second chip now → first = second := by
  intro claim
  have equal := claim .sampleNetwork 3600
    (sampleEnrollments ++ [sampleVerdict "first",
      .recordProbeFailure ⟨"first", none, none, none, 3, { jitterSeconds := 0 }⟩
        63839664001000000 63839664001000000,
      sampleVerdict "second"])
    ⟨⟨trivial, Nat.zero_le _, le_rfl⟩, ⟨trivial, le_rfl, le_rfl⟩, ⟨rfl, by decide, le_rfl⟩,
      ⟨trivial, le_rfl, le_rfl⟩, ⟨rfl, le_rfl, le_rfl⟩, trivial⟩
    63839664001000000 le_rfl (Text.ofString "chip") (Text.ofString "first")
    (Text.ofString "second") (by decide +kernel) (by decide +kernel)
  exact absurd equal (by decide)

end Cathedral.Registry
