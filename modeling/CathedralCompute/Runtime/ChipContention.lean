import CathedralCompute.Registry.Retries
import CathedralCompute.Runtime.AdmissionRace

/-!
# Workers that lose a chip

A chip is claimed by several results of one epoch, or is bound to another worker.
The epoch runtime looks for both before it records a verdict, and leaves the
claimants as they are. Where the chip is bound by the time of the verdict itself,
`record_verdict` decides: the prober has no check before it, and the runtime's own
may be out of date. There the worker is failed, and must enroll again.

## Main results

* `inNetwork_iff_of_recordVerdict` — an acceptable verdict leaves its worker in service
  exactly when nobody else holds the chip
* `contention_spares_iff` — the checks of the runtime leave the claimants
  as they are, and a recorded verdict does so exactly when the chip is free
* `not_contention_spares_bound` — a probe of a worker on a bound chip fails it
-/

set_option autoImplicit false

namespace Cathedral.Runtime

open Codec Semantics

/-- The arguments of `record_verdict` in `_probe_one`: the lifecycle that was due,
and the GPU profile of a composite verdict in production. -/
def proberArguments (lifecycle : SnapshotFields) (attested : Attested)
    (policyRegistryRelease : Option ℤ) (policyRegistryDigest : Option Text)
    (gpuProfile : Registry.GpuProfile) : Registry.VerdictArguments where
  hotkey := lifecycle.hotkey
  attested := some attested
  error := none
  expectedGeneration := some lifecycle.generation
  expectedRevision := some lifecycle.revision
  policyRegistryRelease := policyRegistryRelease
  policyRegistryDigest := policyRegistryDigest
  gpuProfile := gpuProfile

/-- The attestation is acceptable on its own. -/
structure Acceptable (attested : Attested) : Prop where
  verified : attested.verificationStatus = Text.ofString "VERIFIED"
  allowed : attestationAdmissionPolicy.allows attested.assurance

/-! ## The checks of the runtime -/

section Checks

variable {setup : Setup} {epochId : ℕ}

theorem world_report_all (group : List AttestationResult) (progress : Progress) :
    (group.foldl (fun progress result => progress.report result.duplicateChip) progress).world =
      progress.world := by
  induction group generalizing progress with
  | nil => rfl
  | cons result group ih => exact ih _

/-- Several claimants of a chip are refused, and nothing is written. -/
theorem admitChip_of_claimants {around : Text → Surroundings} {results : List AttestationResult}
    {progress : Progress} {chipId : Text} (several : 1 < (claimants results chipId).length) :
    ∃ progress', admitChip setup epochId around results progress chipId = .ok progress' ∧
      progress'.world = progress.world := by
  unfold admitChip
  split
  case h_1 alone =>
    rw [alone] at several
    exact absurd several (lt_irrefl 1)
  case h_2 => exact ⟨_, rfl, world_report_all _ progress⟩

/-- The claimant of a bound chip is refused, and nothing is written. -/
theorem checkOwner_of_owner {s : Surroundings} {result : AttestationResult} {progress : Progress}
    {owner : Text}
    (owned : Registry.chipRotationOwner setup.platform setup.verificationTtl
      result.attested.chipId result.hotkey s.ownerAt
      (progress.world.others setup s.beforeOwner).registry = .ok (some owner)) :
    ∃ progress', checkOwner setup epochId s result progress = .ok progress' ∧
      progress'.world = progress.world.others setup s.beforeOwner := by
  refine ⟨{ progress with world := progress.world.others setup s.beforeOwner }.report
    (result.chipRotationConflict owner), ?_, rfl⟩
  simp only [checkOwner, owned]
  rfl

/-- The same, from the snapshot that the runtime takes first. -/
theorem admitResult_of_owner {s : Surroundings} {result : AttestationResult} {progress : Progress}
    {current : LifecycleSnapshot} {registry : Registry.State} {owner : Text}
    (shown : Registry.lifecycleSnapshot setup.platform result.hotkey false s.snapshotAt
      (progress.world.others setup s.beforeSnapshot).registry = .ok (current, registry))
    (unmoved : result.Unmoved current)
    (owned : Registry.chipRotationOwner setup.platform setup.verificationTtl
      result.attested.chipId result.hotkey s.ownerAt
      (Registry.runOps setup.platform registry s.beforeOwner) = .ok (some owner)) :
    ∃ progress', admitResult setup epochId s result progress = .ok progress' ∧
      progress'.world.registry = Registry.runOps setup.platform registry s.beforeOwner := by
  let checked : Progress := { progress with
    world := { progress.world.others setup s.beforeSnapshot with registry := registry } }
  obtain ⟨progress', refused, same⟩ :=
    @checkOwner_of_owner _ epochId _ _ checked _ owned
  refine ⟨progress', ?_, congrArg World.registry same⟩
  simp only [admitResult, shown]
  exact (if_pos unmoved).trans refused

end Checks

/-! ## The gate of a verdict -/

section Gate

variable {p : Platform} {ttl : ℕ} {arguments : Registry.VerdictArguments} {attested : Attested}
  {clock : Registry.VerdictClock} {before after : Registry.State}

/-- An acceptable verdict passes the gate exactly when nobody else holds the chip. -/
theorem passes_iff_free {record : Registry.VerdictRecord}
    (presented : arguments.attested = some attested) (acceptable : Acceptable attested)
    (gated : Registry.gatedRecord p ttl arguments.hotkey (Registry.presentedRecord arguments)
      clock.gate before = .ok record) :
    record.status = Text.ofString "VERIFIED" ↔
      Registry.chipRotationOwner p ttl attested.chipId arguments.hotkey clock.gate before =
        .ok none := by
  have verified := acceptable.verified
  have known : ¬ (attested.verificationStatus = Text.ofString "VERIFIED" ∧
      ¬ attestationAdmissionPolicy.allows attested.assurance) :=
    fun refused => refused.2 acceptable.allowed
  simp only [Registry.presentedRecord, presented, if_neg known, Registry.gatedRecord,
    if_pos verified, bind_eq_ok, pure_eq_ok] at gated
  obtain ⟨conflict, owned, rfl⟩ := gated
  cases conflict with
  | none => exact ⟨fun _ => owned, fun _ => verified⟩
  | some owner =>
    have unmarked : Text.ofString "FAILED" ≠ Text.ofString "VERIFIED" := by decide
    refine ⟨fun marked => absurd marked unmarked, fun free => ?_⟩
    rw [owned] at free
    cases free

/-- A verdict that does not pass fails a worker that was eligible. -/
theorem failed_of_refused {record : Registry.VerdictRecord} {current : SnapshotFields}
    {when : Instant} (presented : arguments.attested = some attested)
    (refused : record.status ≠ Text.ofString "VERIFIED")
    (eligible : current.state ∈ WorkerLifecycleState.networkEligibleStates)
    (applied : Registry.applyVerdict p ttl arguments record current when before = .ok after) :
    ∃ row, after.current.find? arguments.hotkey = some row ∧ row.state = .failed := by
  have inService : ¬ Registry.SnapshotFields.OperatorOnly current := by
    unfold Registry.SnapshotFields.OperatorOnly
    intro outside
    revert eligible outside
    cases current.state <;> decide
  simp only [Registry.applyVerdict, presented, if_neg refused, Registry.applyVerdict.failVerdict,
    if_neg inService, map_eq_ok] at applied
  obtain ⟨⟨_, _⟩, transitioned, rfl⟩ := applied
  obtain ⟨worker, -, named, -, moved⟩ := Registry.transition_cases transitioned
  obtain ⟨_, recorded⟩ := moved.recorded
  rw [← named]
  exact ⟨_, recorded.row, rfl⟩

/-- **The gate.** A recorded verdict on an acceptable attestation leaves a worker in
service exactly when nobody else holds its chip. -/
theorem inNetwork_iff_of_recordVerdict (presented : arguments.attested = some attested)
    (acceptable : Acceptable attested) (eligible : Registry.InNetwork before arguments.hotkey)
    {u : Unit}
    (recorded : Registry.recordVerdict p ttl arguments clock before = .ok (u, after)) :
    Registry.InNetwork after arguments.hotkey ↔
      Registry.chipRotationOwner p ttl attested.chipId arguments.hotkey clock.gate before =
        .ok none := by
  obtain ⟨record, _, gated, -, -, -, attests⟩ := find?_of_recordVerdict presented recorded
  rw [← passes_iff_free presented acceptable gated]
  constructor
  · intro left
    by_contra refused
    obtain ⟨record', s₁, current, gated', written, found, applied⟩ :=
      Registry.recordVerdict_cases recorded
    have same : record' = record := Except.ok.inj (gated'.symm.trans gated)
    rw [same] at applied written
    obtain ⟨attestations, rfl, -⟩ := Registry.upsertAttestation_eq_ok written
    -- the upsert leaves the lifecycle, so the worker is still eligible when it is failed
    obtain ⟨row, found', eligible⟩ := eligible
    have unchanged : current = row := Option.some.inj (found.symm.trans found')
    obtain ⟨row', failed, state⟩ := failed_of_refused presented refused (unchanged ▸ eligible) applied
    obtain ⟨row'', found'', eligible''⟩ := left
    rw [show row'' = row' from Option.some.inj (found''.symm.trans failed), state] at eligible''
    revert eligible''
    decide
  · intro verified
    obtain ⟨row, found, attested⟩ := attests verified
    refine ⟨row, found, ?_⟩
    rw [attested]
    decide

end Gate

/-- **Contention.** In the epoch runtime, several claimants of a chip, and the
claimant of a chip that is bound when the runtime asks, are left as they are. The
verdict that the runtime or the prober records for a worker in service leaves it
there exactly when nobody else holds the chip by then. -/
theorem contention_spares_iff (setup : Setup) :
    (∀ (epochId : ℕ) (around : Text → Surroundings) (results : List AttestationResult)
      (progress : Progress) (chipId : Text), 1 < (claimants results chipId).length →
      ∃ progress', admitChip setup epochId around results progress chipId = .ok progress' ∧
        progress'.world = progress.world) ∧
    (∀ (epochId : ℕ) (s : Surroundings) (result : AttestationResult) (progress : Progress)
      (current : LifecycleSnapshot) (registry : Registry.State) (owner : Text),
      Registry.lifecycleSnapshot setup.platform result.hotkey false s.snapshotAt
        (progress.world.others setup s.beforeSnapshot).registry = .ok (current, registry) →
      result.Unmoved current →
      Registry.chipRotationOwner setup.platform setup.verificationTtl result.attested.chipId
        result.hotkey s.ownerAt (Registry.runOps setup.platform registry s.beforeOwner) =
          .ok (some owner) →
      ∃ progress', admitResult setup epochId s result progress = .ok progress' ∧
        progress'.world.registry = Registry.runOps setup.platform registry s.beforeOwner) ∧
    (∀ (s : Surroundings) (result : AttestationResult) (before after : Registry.State),
      Acceptable result.attested → Registry.InNetwork before result.hotkey →
      Registry.recordVerdict setup.platform setup.verificationTtl (verdictArguments setup s result)
        s.verdictClock before = .ok ((), after) →
      (Registry.InNetwork after result.hotkey ↔
        Registry.chipRotationOwner setup.platform setup.verificationTtl result.attested.chipId
          result.hotkey s.verdictClock.gate before = .ok none)) ∧
    ∀ (lifecycle : SnapshotFields) (attested : Attested) (release : Option ℤ)
      (digest : Option Text) (profile : Registry.GpuProfile) (clock : Registry.VerdictClock)
      (before after : Registry.State),
      Acceptable attested → Registry.InNetwork before lifecycle.hotkey →
      Registry.recordVerdict setup.platform setup.verificationTtl
        (proberArguments lifecycle attested release digest profile) clock before =
          .ok ((), after) →
      (Registry.InNetwork after lifecycle.hotkey ↔
        Registry.chipRotationOwner setup.platform setup.verificationTtl attested.chipId
          lifecycle.hotkey clock.gate before = .ok none) := by
  refine ⟨fun _ _ _ _ _ several => admitChip_of_claimants several,
    fun _ _ _ _ _ _ _ shown unmoved owned => admitResult_of_owner shown unmoved owned, ?_, ?_⟩
  · intro s result before after acceptable eligible recorded
    have presented : (verdictArguments setup s result).attested = some result.attested := rfl
    exact inNetwork_iff_of_recordVerdict presented acceptable eligible recorded
  · intro lifecycle attested release digest profile clock before after acceptable eligible recorded
    have presented : (proberArguments lifecycle attested release digest profile).attested =
        some attested := rfl
    exact inNetwork_iff_of_recordVerdict presented acceptable eligible recorded

/-! ## Concrete runs -/

/-- The probe of a worker that enrolled and waits, on the chip of the concrete runs. -/
def sampleProbed (hotkey : Text) : Registry.VerdictArguments :=
  proberArguments (Registry.initialRow hotkey .pending .enrolled 63839664000000000 {} 1)
    Registry.sampleAttested none none ⟨none, none, none, none⟩

/-- What the probe of the second worker leaves, after the operations. -/
def sampleProbe (ops : List Registry.Op) : Except Failure (Unit × Registry.State) :=
  Registry.recordVerdict .sampleNetwork 3600 (sampleProbed "second")
    ⟨63839664001000000, 63839664001000000, 63839664001000000⟩
    (Registry.runOps .sampleNetwork .initial ops)

theorem acceptable_sampleAttested : Acceptable Registry.sampleAttested where
  verified := rfl
  allowed := by decide +kernel

/-- The theorem applied to two claimants of one chip in an epoch, and to the probe
of the second worker while the chip is free and while the first is bound to it. -/
theorem contention_spares_iff_free :
    (∃ progress', admitChip sampleSetup 1 (fun _ => sampleSurroundings [])
      [sampleResult, sampleResult] ⟨sampleWorld, [], []⟩ "chip" = .ok progress' ∧
      progress'.world = sampleWorld) ∧
    (∃ after, sampleProbe Registry.sampleEnrollments = .ok ((), after) ∧
      Registry.InNetwork after (Text.ofString "second")) ∧
    ∃ after, sampleProbe (Registry.sampleEnrollments ++ [Registry.sampleVerdict "first"]) =
        .ok ((), after) ∧
      ¬ Registry.InNetwork after (Text.ofString "second") := by
  obtain ⟨batch, -, -, probe⟩ := contention_spares_iff sampleSetup
  -- what the gate answers decides both probes
  have decides : ∀ ops after, Registry.InNetwork
      (Registry.runOps .sampleNetwork .initial ops) (Text.ofString "second") →
      sampleProbe ops = .ok ((), after) →
      (Registry.InNetwork after (Text.ofString "second") ↔
        Registry.chipRotationOwner .sampleNetwork 3600 "chip" "second" 63839664001000000
          (Registry.runOps .sampleNetwork .initial ops) = .ok none) := by
    intro ops after inside committed
    unfold sampleProbe sampleProbed at committed
    generalize Registry.runOps .sampleNetwork .initial ops = before at *
    exact probe (Registry.initialRow "second" .pending .enrolled 63839664000000000 {} 1)
      Registry.sampleAttested none none ⟨none, none, none, none⟩
      ⟨63839664001000000, 63839664001000000, 63839664001000000⟩ before after
      acceptable_sampleAttested inside committed
  have free : (sampleProbe Registry.sampleEnrollments).toOption.any (fun _ => true) = true := by
    decide +kernel
  have bound : (sampleProbe (Registry.sampleEnrollments ++
      [Registry.sampleVerdict "first"])).toOption.any (fun _ => true) = true := by
    decide +kernel
  obtain ⟨⟨_, after⟩, committed, -⟩ := exists_of_any free
  obtain ⟨⟨_, after'⟩, committed', -⟩ := exists_of_any bound
  refine ⟨batch 1 _ _ _ _ (by decide +kernel), ⟨after, committed, ?_⟩, after', committed', ?_⟩
  · rw [decides _ after (by decide +kernel) committed]
    decide +kernel
  · rw [decides _ after' (by decide +kernel) committed']
    decide +kernel

/-- The first worker is attested on the chip, and then the second is probed on it:
its attestation is acceptable, and it is failed. -/
theorem not_contention_spares_bound :
    ¬ ∀ (setup : Setup) (ops : List Registry.Op) (lifecycle : SnapshotFields)
      (attested : Attested) (release : Option ℤ) (digest : Option Text)
      (profile : Registry.GpuProfile) (clock : Registry.VerdictClock) (after : Registry.State),
      Acceptable attested →
      Registry.InNetwork (Registry.runOps setup.platform .initial ops) lifecycle.hotkey →
      Registry.recordVerdict setup.platform setup.verificationTtl
        (proberArguments lifecycle attested release digest profile) clock
        (Registry.runOps setup.platform .initial ops) = .ok ((), after) →
      Registry.InNetwork after lifecycle.hotkey := by
  intro claim
  have fails : (sampleProbe (Registry.sampleEnrollments ++ [Registry.sampleVerdict "first"])).toOption.any
      (fun outcome => ¬ Registry.InNetwork outcome.2 (Text.ofString "second")) = true := by
    decide +kernel
  obtain ⟨⟨_, after⟩, committed, failed⟩ := exists_of_any fails
  have left := claim sampleSetup _ (Registry.initialRow "second" .pending .enrolled 63839664000000000 {} 1)
    Registry.sampleAttested none none ⟨none, none, none, none⟩ _ after acceptable_sampleAttested
    (by decide +kernel) committed
  exact of_decide_eq_true failed left

end Cathedral.Runtime
