import CathedralCompute.Runtime.Admission
import CathedralCompute.Sample

/-!
# What is on record when a result is admitted

A result is admitted when its verdict is recorded without an exception. That is
not yet a verdict in its favour: `record_verdict` asks once more who holds the
chip, and where another process has bound it since the runtime's own check, it
records a failure and returns. The runtime admits the result all the same.

## Main results

* `recorded_of_admitUniqueChips` — every admission of a run is a recorded verdict
* `admitted_on_record_iff` — an admitted result has its verdict and its lifecycle
  on record exactly when its chip was free at the time of its verdict
* `not_admitted_on_record_raced` — a run in which another process binds the chip
  in between
-/

set_option autoImplicit false

namespace Cathedral.Runtime

open Codec Semantics

/-! ## Admissions are recorded verdicts -/

/-- The admission is a verdict that `record_verdict` took without an exception. -/
def Admission.Recorded (setup : Setup) (a : Admission) : Prop :=
  ∃ s : Surroundings, s.verdictClock.gate = a.gate ∧
    Registry.recordVerdict setup.platform setup.verificationTtl (verdictArguments setup s a.result)
      s.verdictClock a.before = .ok ((), a.after)

/-- The run went on, with at most one more admission. -/
def GoesOn (setup : Setup) (admitted admitted' : List Admission) : Prop :=
  admitted' = admitted ∨
    ∃ a : Admission, a.Recorded setup ∧ admitted' = admitted ++ [a]

section Steps

variable {setup : Setup} {epochId : ℕ} {s : Surroundings} {result : AttestationResult}
  {progress progress' : Progress}

theorem admitted_of_admit {claim : Option HeldClaim} {admission : Admission}
    (ok : admitVerified setup epochId s result claim admission progress = .ok progress') :
    progress'.admitted = progress.admitted ++ [admission] := by
  simp only [admitVerified, bind_eq_ok, pure_eq_ok] at ok
  obtain ⟨_, -, _, -, ⟨_, _⟩, -, rfl⟩ := ok
  rfl

theorem goesOn_of_commitVerdict {claim : Option HeldClaim}
    (ok : commitVerdict setup epochId s result claim progress = .ok progress') :
    GoesOn setup progress.admitted progress'.admitted := by
  unfold commitVerdict at ok
  dsimp only at ok
  split at ok
  case h_1 =>
    simp only [bind_eq_ok, pure_eq_ok] at ok
    obtain ⟨_, -, rfl⟩ := ok
    exact .inl rfl
  case h_2 =>
    rw [bind_eq_ok] at ok
    obtain ⟨_, -, impossible⟩ := ok
    cases impossible
  case h_3 registry recorded =>
    simp only [recordResult, bind_eq_ok, pure_eq_ok, Prod.exists] at recorded
    obtain ⟨_, -, _, _, recorded, rfl⟩ := recorded
    have more := admitted_of_admit ok
    exact .inr ⟨⟨result, s.verdictClock.gate, _, _⟩, ⟨s, rfl, recorded⟩, more⟩

theorem goesOn_of_refuseClaim {aborted : Aborted}
    (ok : refuseClaim setup s result progress aborted = .ok progress') :
    GoesOn setup progress.admitted progress'.admitted := by
  unfold refuseClaim at ok
  split at ok
  case h_1 =>
    split at ok
    · simp only [bind_eq_ok, pure_eq_ok] at ok
      obtain ⟨_, -, rfl⟩ := ok
      exact .inl rfl
    · cases ok
  case h_2 => cases ok

theorem goesOn_of_claimAndCommit
    (ok : claimAndCommit setup epochId s result progress = .ok progress') :
    GoesOn setup progress.admitted progress'.admitted := by
  unfold claimAndCommit at ok
  split at ok
  case isFalse => exact goesOn_of_commitVerdict ok
  case isTrue =>
    split at ok
    case h_2 => cases ok
    case h_1 registry component _ _ =>
      simp only [claimGpu, bind_eq_ok] at ok
      obtain ⟨_, -, ok⟩ := ok
      split at ok
      case h_1 => exact goesOn_of_refuseClaim ok
      case h_2 =>
        rw [bind_eq_ok] at ok
        obtain ⟨_, -, ok⟩ := ok
        have goesOn := goesOn_of_commitVerdict ok
        exact goesOn

theorem goesOn_of_admitResult (ok : admitResult setup epochId s result progress = .ok progress') :
    GoesOn setup progress.admitted progress'.admitted := by
  simp only [admitResult, bind_eq_ok] at ok
  obtain ⟨_, -, ok⟩ := ok
  split at ok
  case isFalse =>
    cases ok
    exact .inl rfl
  case isTrue =>
    simp only [checkOwner, bind_eq_ok] at ok
    obtain ⟨owner, -, ok⟩ := ok
    cases owner with
    | some owner =>
      cases ok
      exact .inl rfl
    | none =>
      have goesOn := goesOn_of_claimAndCommit ok
      exact goesOn

theorem admitted_report_all (group : List AttestationResult) (progress : Progress) :
    (group.foldl (fun progress result => progress.report result.duplicateChip) progress).admitted =
      progress.admitted := by
  induction group generalizing progress with
  | nil => rfl
  | cons result group ih => exact ih _

theorem goesOn_of_admitChip {around : Text → Surroundings} {results : List AttestationResult}
    {chipId : Text} (ok : admitChip setup epochId around results progress chipId = .ok progress') :
    GoesOn setup progress.admitted progress'.admitted := by
  unfold admitChip at ok
  split at ok
  case h_1 => exact goesOn_of_admitResult ok
  case h_2 =>
    cases ok
    exact .inl (admitted_report_all _ progress)

/-- **Admissions.** Every admission of a run is a recorded verdict. -/
theorem recorded_of_admitUniqueChips {around : Text → Surroundings}
    {results : List AttestationResult} {outcomes : List MinerOutcome} {world : World}
    (ok : admitUniqueChips setup epochId around results outcomes world = .ok progress') :
    ∀ a ∈ progress'.admitted, a.Recorded setup := by
  simp only [admitUniqueChips, bind_eq_ok, pure_eq_ok] at ok
  obtain ⟨progress, looped, rfl⟩ := ok
  -- what is recorded stays recorded from round to round
  have kept : (∀ a ∈ ([] : List Admission), a.Recorded setup) →
      ∀ a ∈ progress.admitted, a.Recorded setup :=
    relation_foldlM (R := fun before after : Progress =>
        (∀ a ∈ before.admitted, a.Recorded setup) → ∀ a ∈ after.admitted, a.Recorded setup)
      (fun _ recorded => recorded) (fun first second recorded => second (first recorded))
      (fun chipId _ before after round recorded a member => by
        rcases goesOn_of_admitChip round with same | ⟨new, newRecorded, more⟩
        · exact recorded a (same ▸ member)
        · rw [more, List.mem_append, List.mem_singleton] at member
          rcases member with old | rfl
          · exact recorded a old
          · exact newRecorded) looped
  intro a member
  exact kept (fun _ none => by cases none) a ((List.perm_insertionSort _ _).mem_iff.mp member)

end Steps

/-! ## What a recorded verdict leaves -/

/-- The verdict and the lifecycle of an admitted result are on record. -/
structure Admission.OnRecord (a : Admission) : Prop where
  verdict : ∃ row ∈ a.after.attestations.find? a.result.hotkey,
    row.verificationStatus = Text.ofString "VERIFIED" ∧
      row.chipId = some a.result.attested.chipId
  lifecycle : ∃ row ∈ a.after.current.find? a.result.hotkey, row.state = .attested
  unrefused : ∀ row ∈ a.after.attestations.find? a.result.hotkey,
    row.verificationStatus ≠ Text.ofString "FAILED"

/-- Before the verdict: it is one in favour of the worker, with the claims that
admission asks for, and no other worker holds the chip. -/
structure Admission.Clear (setup : Setup) (a : Admission) : Prop where
  verified : a.result.attested.verificationStatus = Text.ofString "VERIFIED"
  allowed : attestationAdmissionPolicy.allows a.result.attested.assurance
  free : Registry.chipRotationOwner setup.platform setup.verificationTtl a.result.attested.chipId
    a.result.hotkey a.gate a.before = .ok none

section Records

variable {setup : Setup} {s : Surroundings} {a : Admission} {record : Registry.VerdictRecord}

/-- The gate lets the verdict through exactly when it is clear. -/
theorem verified_iff_clear
    (gated : Registry.gatedRecord setup.platform setup.verificationTtl a.result.hotkey
      (Registry.presentedRecord (verdictArguments setup s a.result)) a.gate a.before = .ok record) :
    record.status = Text.ofString "VERIFIED" ↔ a.Clear setup := by
  have unmarked : Text.ofString "FAILED" ≠ Text.ofString "VERIFIED" := by decide
  simp only [Registry.presentedRecord, verdictArguments] at gated
  split at gated
  case isTrue refused =>
    -- the claims are not enough, so the record is a failure
    cases gated
    exact ⟨fun verified => absurd verified unmarked, fun clear => absurd clear.allowed refused.2⟩
  case isFalse presented =>
    simp only [Registry.gatedRecord] at gated
    split at gated
    case isFalse unverified =>
      cases gated
      exact ⟨fun verified => absurd verified unverified, fun clear => absurd clear.verified unverified⟩
    case isTrue verified =>
      have allowed : attestationAdmissionPolicy.allows a.result.attested.assurance := by
        by_contra missing
        exact presented ⟨verified, missing⟩
      simp only [bind_eq_ok, pure_eq_ok] at gated
      obtain ⟨conflict, owned, rfl⟩ := gated
      cases conflict with
      | none => exact ⟨fun _ => ⟨verified, allowed, owned⟩, fun _ => verified⟩
      | some owner =>
        refine ⟨fun marked => absurd marked unmarked, fun clear => ?_⟩
        rw [clear.free] at owned
        cases owned

/-- What `record_verdict` leaves for its worker: the gated record, and a lifecycle
that is attested where the record is a verdict in its favour. -/
theorem find?_of_recordVerdict {p : Platform} {ttl : ℕ} {arguments : Registry.VerdictArguments}
    {attested : Attested} {clock : Registry.VerdictClock} {before after : Registry.State} {u : Unit}
    (presented : arguments.attested = some attested)
    (recorded : Registry.recordVerdict p ttl arguments clock before = .ok (u, after)) :
    ∃ record row,
      Registry.gatedRecord p ttl arguments.hotkey (Registry.presentedRecord arguments) clock.gate
        before = .ok record ∧
      after.attestations.find? arguments.hotkey = some row ∧
      row.verificationStatus = record.status ∧ row.chipId = record.chipId ∧
      (record.status = Text.ofString "VERIFIED" →
        ∃ row ∈ after.current.find? arguments.hotkey, row.state = .attested) := by
  obtain ⟨record, s₁, current, gated, written, found, applied⟩ :=
    Registry.recordVerdict_cases recorded
  have kept := Registry.attestations_of_applyVerdict found applied
  obtain ⟨attestations, rfl, rows⟩ := Registry.upsertAttestation_eq_ok written
  refine ⟨record, ⟨arguments.hotkey, record.chipId, record.tier, record.status,
    .time clock.ts.floorSecond, record.error, Registry.assuranceJson p arguments.attested⟩, gated,
    ?_, rfl, rfl, fun verified => ?_⟩
  · rw [kept, Table.find?_eq_some]
    exact ⟨(rows _).mpr (.inl rfl), rfl⟩
  · simp only [Registry.applyVerdict, presented, if_pos verified, map_eq_ok] at applied
    obtain ⟨⟨_, _⟩, attests, rfl⟩ := applied
    obtain ⟨worker, _, _, -, named, -, moved⟩ := Registry.attested_cases attests
    obtain ⟨_, moved⟩ := moved.recorded
    rw [← named]
    exact ⟨_, moved.row, rfl⟩

/-- **Admission on record.** A result that a run admits has its verdict and its
lifecycle on record when it is admitted, whatever other processes do in between,
exactly when its verdict was clear at that time. -/
theorem admitted_on_record_iff (setup : Setup) (epochId : ℕ) (around : Text → Surroundings)
    (results : List AttestationResult) (outcomes : List MinerOutcome) (world : World)
    (progress : Progress)
    (ok : admitUniqueChips setup epochId around results outcomes world = .ok progress)
    (a : Admission) (admitted : a ∈ progress.admitted) : a.OnRecord ↔ a.Clear setup := by
  obtain ⟨s, gate, recorded⟩ := recorded_of_admitUniqueChips ok a admitted
  have presented : (verdictArguments setup s a.result).attested = some a.result.attested := rfl
  obtain ⟨record, row, gated, found, status, chip, lifecycle⟩ :=
    find?_of_recordVerdict presented recorded
  rw [gate] at gated
  have clear := verified_iff_clear gated
  have found : a.after.attestations.find? a.result.hotkey = some row := found
  rw [← clear]
  constructor
  · rintro ⟨⟨row', found', verified, -⟩, -, -⟩
    rw [found] at found'
    cases found'
    rw [← status, verified]
  · intro verified
    have chipped : record.chipId = some a.result.attested.chipId := by
      obtain ⟨_, presented, chipped, -⟩ := Registry.gatedRecord_verified gated verified
      cases presented
      exact chipped
    refine ⟨⟨row, found, status.trans verified, chip.trans chipped⟩, lifecycle verified, ?_⟩
    intro row' found'
    rw [found] at found'
    cases found'
    rw [status, verified]
    decide

end Records

/-! ## Concrete runs -/

/-- A validator of CPU workers outside of production. -/
def sampleSetup : Setup where
  platform := .sampleNetwork
  verificationTtl := 3600
  expectedTier := .ccCpuTdx
  productionMode := false
  gpuIdentityRegistry := none
  gpuProfile := ⟨none, none, none, none⟩

/-- Two enrolled workers, and an epoch under way. -/
def sampleWorld : World where
  registry := Registry.runOps .sampleNetwork .initial Registry.sampleEnrollments
  gpu := ⟨⟨.empty, .empty, [], [], 0⟩, []⟩
  ledger := settle .initial ((Ledger.beginEpoch 5 {} 0 .initial).map Prod.snd)

/-- The result of the second worker, for the chip of the concrete runs. -/
def sampleResult : AttestationResult where
  target := ⟨"second", "https://8.8.8.8:8443", none⟩
  endpoint := "https://8.8.8.8:8443"
  attested := Registry.sampleAttested
  policyMode := some "strict"
  evidenceDigest := "evidence"
  envelopeDigest := none
  challengeDigest := none
  componentAudit := none
  gpuComponent := none
  lifecycleGeneration := some 1
  lifecycleRevision := some 1

/-- The surroundings of a run, with what others commit before the verdict. -/
def sampleSurroundings (beforeVerdict : List Registry.Op) : Surroundings where
  beforeSnapshot := []
  snapshotAt := 63839664001000000
  beforeOwner := []
  ownerAt := 63839664001000000
  beforeRevocation := []
  revocationAt := 63839664001000000
  beforeTransition := []
  transitionAt := 63839664001000000
  beforeVerdict := beforeVerdict
  verdictClock := ⟨63839664001000000, 63839664001000000, 63839664001000000⟩
  beforeClaim := []
  claimOccurred := []
  claimToken := []
  beforeSettlement := []
  claimLive := true
  verdictLive := true
  ledgerLive := true
  policyRegistryRelease := none
  policyRegistryDigest := none
  gpuScoreEligible := false
  attestedAt := 0

/-- The run that admits the second worker, with what others commit in between. -/
def sampleRun (beforeVerdict : List Registry.Op) : Except Aborted Progress :=
  admitUniqueChips sampleSetup 1 (fun _ => sampleSurroundings beforeVerdict) [sampleResult] []
    sampleWorld

/-- Some admission of a run has a verdict with the status on record. -/
def admitsWith (status : Text) (run : Except Aborted Progress) : Bool :=
  run.toOption.any fun progress => progress.admitted.any fun a =>
    (a.after.attestations.find? a.result.hotkey).any fun row => row.verificationStatus = status

theorem exists_of_admitsWith {status : Text} {run : Except Aborted Progress}
    (admits : admitsWith status run = true) :
    ∃ progress a row, run = .ok progress ∧ a ∈ progress.admitted ∧
      a.after.attestations.find? a.result.hotkey = some row ∧ row.verificationStatus = status := by
  unfold admitsWith at admits
  cases run with
  | error aborted => cases admits
  | ok progress =>
    obtain ⟨a, member, found⟩ := List.any_eq_true.mp admits
    obtain ⟨row, found, status⟩ := (Option.any_eq_true _ _).mp found
    exact ⟨progress, a, row, rfl, member, found, of_decide_eq_true status⟩

/-- The theorem applied to a run that nobody interferes with. -/
theorem admitted_on_record_iff_alone :
    ∃ progress a, sampleRun [] = .ok progress ∧ a ∈ progress.admitted ∧
      (a.OnRecord ↔ a.Clear sampleSetup) := by
  have admits : admitsWith (Text.ofString "VERIFIED") (sampleRun []) = true := by decide +kernel
  obtain ⟨progress, a, _, ok, member, -, -⟩ := exists_of_admitsWith admits
  exact ⟨progress, a, ok, member,
    admitted_on_record_iff sampleSetup 1 (fun _ => sampleSurroundings []) [sampleResult] []
      sampleWorld progress ok a member⟩

/-- Another process binds the chip to the first worker after the runtime found it
free: the second worker is admitted on a verdict that says `FAILED`. -/
theorem not_admitted_on_record_raced :
    ¬ ∀ (setup : Setup) (epochId : ℕ) (around : Text → Surroundings)
      (results : List AttestationResult) (outcomes : List MinerOutcome) (world : World)
      (progress : Progress),
      admitUniqueChips setup epochId around results outcomes world = .ok progress →
      ∀ a ∈ progress.admitted, a.OnRecord := by
  intro claim
  have admits : admitsWith (Text.ofString "FAILED") (sampleRun [Registry.sampleVerdict "first"]) =
      true := by
    decide +kernel
  obtain ⟨progress, a, row, ok, member, found, failed⟩ := exists_of_admitsWith admits
  exact (claim _ _ _ _ _ _ _ ok a member).unrefused row found failed

end Cathedral.Runtime
