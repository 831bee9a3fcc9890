import CathedralCompute.Gpu.Anchor
import CathedralCompute.Ledger.Challenges
import CathedralCompute.Registry.ChipBindings
import CathedralCompute.Runtime.Targets

/-!
# Admission of one result for a chip

The runtime groups the verified results of an epoch by chip, refuses every
claimant of a chip that was claimed twice, and admits the others one after the
other. Each admission is a chain of transactions on the registry: it reads the
worker's lifecycle, asks who holds the chip, and records the verdict. Other
processes commit what they like between them. `Surroundings` says what they do
and what the clocks and the live authorities answer.

An admission is kept with the registry before and after its verdict, so that one
can say what was on record when the result was admitted.
-/

set_option autoImplicit false

namespace Cathedral.Runtime

open Codec Semantics

/-! ## Results and outcomes -/

/-- What admission reads of a verified `_AttestationResult`. The policy mode is
that of its `attested`. -/
structure AttestationResult where
  target : MinerTarget
  endpoint : Text
  attested : Attested
  policyMode : Option Text
  evidenceDigest : Text
  envelopeDigest : Option Text
  challengeDigest : Option Text
  componentAudit : Option Json
  gpuComponent : Option Gpu.ComponentVerdict
  lifecycleGeneration : Option ℤ
  lifecycleRevision : Option ℤ

/-- What admission fills in of a `MinerOutcome`. -/
structure MinerOutcome where
  hotkey : Text
  endpointUrl : Text
  status : Text
  admitted : Bool := false
  error : Option Text := none
  errorCategory : Option Text := none
  assurance : Option AssuranceClaims := none
  componentAudit : Option Json := none

/-- `_safe_error` of an error from the GPU registry. -/
def safeError (message : Text) : Text :=
  if message.strip = [] then "GpuAttestationError" else message.strip.take 300

namespace AttestationResult

variable (result : AttestationResult)

def hotkey : Text := result.target.hotkey

/-- The outcome of a claimant of a chip that was claimed twice. -/
def duplicateChip : MinerOutcome where
  hotkey := result.hotkey
  endpointUrl := result.endpoint
  status := "duplicate_chip"
  error := some "all claimants of a duplicate chip are refused for this epoch"
  errorCategory := some "identity_conflict"

/-- The outcome of a worker whose lifecycle moved on. -/
def refreshCancelled : MinerOutcome where
  hotkey := result.hotkey
  endpointUrl := result.endpoint
  status := "refresh_cancelled"
  error := some "worker lifecycle changed during re-attestation"

/-- The outcome of a claimant of a chip that another worker holds. -/
def chipRotationConflict (owner : Text) : MinerOutcome where
  hotkey := result.hotkey
  endpointUrl := result.endpoint
  status := "chip_rotation_conflict"
  error := some ("chip_id already bound to hotkey " ++ owner)
  errorCategory := some "identity_conflict"

/-- The outcome of a claimant of a GPU that another worker holds. -/
def gpuIdentityConflict (category message : Text) : MinerOutcome where
  hotkey := result.hotkey
  endpointUrl := result.endpoint
  status := "gpu_identity_conflict"
  error := some (safeError message)
  errorCategory := some category
  componentAudit := result.componentAudit

/-- The outcome of an admitted worker. -/
def attestedOutcome : MinerOutcome where
  hotkey := result.hotkey
  endpointUrl := result.endpoint
  status := "attested"
  admitted := true
  assurance := result.attested.assurance
  componentAudit := result.componentAudit

end AttestationResult

/-! ## The world of a run -/

/-- What the runtime is set up with. -/
structure Setup where
  platform : Platform
  verificationTtl : ℕ
  expectedTier : Tier
  productionMode : Bool
  gpuIdentityRegistry : Option Gpu.IdentityRegistry
  gpuProfile : Registry.GpuProfile

/-- The stores that admission writes. -/
structure World where
  registry : Registry.State
  gpu : Gpu.Disk
  ledger : Ledger.State

/-- What happens around the transactions of one admission: the operations that
other processes commit before each, the clock readings, and what the policy and
the GPU profile answer when they are asked. -/
structure Surroundings where
  beforeSnapshot : List Registry.Op
  snapshotAt : Instant
  beforeOwner : List Registry.Op
  ownerAt : Instant
  beforeRevocation : List Registry.Op
  revocationAt : Instant
  beforeTransition : List Registry.Op
  transitionAt : Instant
  beforeVerdict : List Registry.Op
  verdictClock : Registry.VerdictClock
  beforeClaim : List Gpu.Step
  claimOccurred : Text
  claimToken : Text
  beforeSettlement : List Gpu.Step
  claimLive : Bool
  verdictLive : Bool
  ledgerLive : Bool
  policyRegistryRelease : Option ℤ
  policyRegistryDigest : Option Text
  gpuScoreEligible : Bool
  attestedAt : Instant

/-- An admitted result, with the registry before and after its verdict and the
clock reading of the chip gate. -/
structure Admission where
  result : AttestationResult
  gate : Instant
  before : Registry.State
  after : Registry.State

/-- A run so far. `outcomes` has the latest outcome of a hotkey first. -/
structure Progress where
  world : World
  outcomes : List MinerOutcome
  admitted : List Admission

/-- An exception that ends the run, with the stores it leaves. -/
structure Aborted where
  failure : Failure
  world : World

/-- `outcomes[result.target.hotkey] = outcome`. -/
def Progress.report (progress : Progress) (outcome : MinerOutcome) : Progress :=
  { progress with
    outcomes := outcome :: progress.outcomes.filter fun other => other.hotkey ≠ outcome.hotkey }

/-- The registry after what other processes commit. -/
def World.others (setup : Setup) (ops : List Registry.Op) (world : World) : World :=
  { world with registry := Registry.runOps setup.platform world.registry ops }

/-- An exception leaves the stores as they are. -/
def raising {α : Type} (world : World) (outcome : Except Failure α) : Except Aborted α :=
  outcome.mapError fun failure => ⟨failure, world⟩

/-- `_require_live_gpu_profile`, by its answer. -/
def requireLiveGpuProfile (live : Bool) : Except Failure Unit :=
  require live (.runtimeError
    "production GPU profile is expired or no longer matches the CPU policy")

/-! ## GPU claims -/

/-- A claim under way, with the registry it was made in. -/
structure HeldClaim where
  registry : Gpu.IdentityRegistry
  pending : Gpu.PendingClaim

/-- A call of the GPU registry. What it wrote stays, also where it raises. -/
def callGpu (registry : Gpu.IdentityRegistry) (op : Gpu.Op) (world : World) :
    Except Aborted World :=
  let outcome := op.call registry world.gpu
  let world := { world with gpu := world.gpu.applyAll outcome.writes }
  raising world (outcome.result.map fun _ => world)

/-- Commit or roll back the claim, if there is one. -/
def settleClaim (s : Surroundings) (op : Gpu.PendingClaim → Gpu.Op) (claim : Option HeldClaim)
    (world : World) : Except Aborted World :=
  match claim with
  | none => .ok world
  | some held =>
    callGpu held.registry (op held.pending)
      { world with gpu := Gpu.runSteps held.registry world.gpu s.beforeSettlement }

/-! ## The steps of an admission -/

section Steps

variable (setup : Setup) (epochId : ℕ) (s : Surroundings) (result : AttestationResult)

/-- The tier that a verdict on a GPU has. -/
def AttestationResult.onGpu : Bool := result.attested.tier = .ccGpu

/-- The arguments of `add_attestation`. -/
def attestationArguments : Ledger.AttestationArguments where
  verdict := "VERIFIED"
  teeType := if result.onGpu then "TDX+GPU_CC" else "TDX"
  workload := if result.onGpu then "GPU" else "CPU"
  evidenceDigest := result.evidenceDigest
  policyMode := (result.policyMode.filter (· ≠ [])).getD "compatibility"
  scoreEligible := some (if result.onGpu then s.gpuScoreEligible else true)
  envelopeDigest := result.envelopeDigest
  envelopeRequired := setup.productionMode ∧ setup.expectedTier = .ccCpuTdx
  challengeDigest := result.challengeDigest

/-- After the verdict: commit the GPU claim, enter the attestation, and admitVerified. -/
def admitVerified (claim : Option HeldClaim) (admission : Admission) (progress : Progress) :
    Except Aborted Progress := do
  let world ← settleClaim s .commitClaim claim progress.world
  raising world (requireLiveGpuProfile s.ledgerLive)
  let (_, ledger) ← raising world (Ledger.addAttestation epochId result.hotkey
    (attestationArguments setup s result) s.attestedAt world.ledger)
  return { progress with
    world := { world with ledger := ledger }
    outcomes := (progress.report result.attestedOutcome).outcomes
    admitted := progress.admitted ++ [admission] }

/-- The profile under which a GPU verdict is committed in production. -/
def commitAuthority : Registry.GpuProfile :=
  if result.onGpu ∧ setup.productionMode then setup.gpuProfile else ⟨none, none, none, none⟩

/-- The arguments of `record_verdict`. -/
def verdictArguments : Registry.VerdictArguments where
  hotkey := result.hotkey
  attested := some result.attested
  error := none
  expectedGeneration := result.lifecycleGeneration
  expectedRevision := result.lifecycleRevision
  policyRegistryRelease := s.policyRegistryRelease
  policyRegistryDigest := s.policyRegistryDigest
  gpuProfile := commitAuthority setup result

/-- The body of the `try`: the registry with the verdict. -/
def recordResult (registry : Registry.State) : Except Failure Registry.State := do
  requireLiveGpuProfile s.verdictLive
  let (_, registry) ← Registry.recordVerdict setup.platform setup.verificationTtl
    (verdictArguments setup s result) s.verdictClock registry
  return registry

/-- Record the verdict. A lifecycle that moved on cancels the refresh; any other
exception ends the run. -/
def commitVerdict (claim : Option HeldClaim) (progress : Progress) : Except Aborted Progress :=
  let world := progress.world.others setup s.beforeVerdict
  match recordResult setup s result world.registry with
  | .error (.lifecycleError _) => do
    let world ← settleClaim s .rollbackClaim claim world
    return { progress with world := world }.report result.refreshCancelled
  | .error failure => do
    let world ← settleClaim s .rollbackClaim claim world
    .error ⟨failure, world⟩
  | .ok registry =>
    admitVerified setup epochId s result claim ⟨result, s.verdictClock.gate, world.registry, registry⟩
      { progress with world := { world with registry := registry } }

/-- `_revoke_lifecycle`, for an identity conflict. -/
def revokeLifecycle (world : World) : Except Aborted World := do
  let world := world.others setup s.beforeRevocation
  let (current, registry) ← raising world
    (Registry.lifecycleSnapshot setup.platform result.hotkey false s.revocationAt world.registry)
  let world := { world with registry := registry }
  if current.fields.state = .revoked then return world
  else
    let world := world.others setup s.beforeTransition
    let (_, registry) ← raising world
      (Registry.transitionLifecycle setup.platform result.hotkey .revoked .identityConflict
        (result.lifecycleGeneration <|> some (current.fields.generation : ℤ))
        (result.lifecycleRevision <|> some (current.fields.revision : ℤ)) none s.transitionAt
        world.registry)
    return { world with registry := registry }

/-- What follows a refused GPU claim: a conflict revokes the worker, and any other
exception ends the run. -/
def refuseClaim (progress : Progress) (aborted : Aborted) : Except Aborted Progress :=
  match aborted.failure with
  | .gpuAttestationError category message =>
    if category = Text.ofString "identity_conflict" then do
      let world ← revokeLifecycle setup s result aborted.world
      return { progress with world := world }.report (result.gpuIdentityConflict category message)
    else .error aborted
  | _ => .error aborted

/-- Claim the GPUs of a result, and go on to its verdict. -/
def claimGpu (registry : Gpu.IdentityRegistry) (component : Gpu.ComponentVerdict)
    (progress : Progress) : Except Aborted Progress := do
  raising progress.world (requireLiveGpuProfile s.claimLive)
  let world := { progress.world with
    gpu := Gpu.runSteps registry progress.world.gpu s.beforeClaim }
  match callGpu registry (.beginClaim result.hotkey component s.claimOccurred s.claimToken)
      world with
  | .error aborted => refuseClaim setup s result progress aborted
  | .ok world => do
    let (hotkeyDigest, identityDigests) ← raising world
      (registry.claimMaterial result.hotkey component)
    let pending : Gpu.PendingClaim :=
      ⟨s.claimToken, hotkeyDigest, identityDigests, component.digest, s.claimOccurred⟩
    commitVerdict setup epochId s result (some ⟨registry, pending⟩)
      { progress with world := world }

/-- The part of an admission that follows the two checks. -/
def claimAndCommit (progress : Progress) : Except Aborted Progress :=
  if result.onGpu then
    match setup.gpuIdentityRegistry, result.gpuComponent with
    | some registry, some component => claimGpu setup epochId s result registry component progress
    | _, _ => .error ⟨.runtimeError "verified GPU admission is missing its identity component",
        progress.world⟩
  else commitVerdict setup epochId s result none progress

/-- The worker is where it was when its attestation was collected. -/
def AttestationResult.Unmoved (current : LifecycleSnapshot) : Prop :=
  result.lifecycleGeneration = some (current.fields.generation : ℤ) ∧
    result.lifecycleRevision = some (current.fields.revision : ℤ) ∧
    current.fields.state ∈ WorkerLifecycleState.networkEligibleStates

instance (current : LifecycleSnapshot) : Decidable (result.Unmoved current) :=
  inferInstanceAs (Decidable (_ ∧ _))

/-- The check of the chip, and what follows it. -/
def checkOwner (progress : Progress) : Except Aborted Progress := do
  let world := progress.world.others setup s.beforeOwner
  let owner ← raising world (Registry.chipRotationOwner setup.platform setup.verificationTtl
    result.attested.chipId result.hotkey s.ownerAt world.registry)
  let progress := { progress with world := world }
  match owner with
  | some owner => return progress.report (result.chipRotationConflict owner)
  | none => claimAndCommit setup epochId s result progress

/-- The body of the loop for a chip with one claimant. -/
def admitResult (progress : Progress) : Except Aborted Progress := do
  let world := progress.world.others setup s.beforeSnapshot
  let (current, registry) ← raising world
    (Registry.lifecycleSnapshot setup.platform result.hotkey false s.snapshotAt world.registry)
  let progress := { progress with world := { world with registry := registry } }
  if result.Unmoved current then checkOwner setup epochId s result progress
  else return progress.report result.refreshCancelled

end Steps

/-! ## The loop -/

/-- The claimants of a chip. -/
def claimants (results : List AttestationResult) (chipId : Text) : List AttestationResult :=
  results.filter fun result => result.attested.chipId = chipId

/-- `sorted(chip_groups)`. -/
def claimedChips (results : List AttestationResult) : List Text :=
  (results.map fun result => result.attested.chipId).dedup.insertionSort (· ≤ ·)

/-- The body of the loop: the one claimant is admitted, and several are refused. -/
def admitChip (setup : Setup) (epochId : ℕ) (around : Text → Surroundings)
    (results : List AttestationResult) (progress : Progress) (chipId : Text) :
    Except Aborted Progress :=
  match claimants results chipId with
  | [result] => admitResult setup epochId (around chipId) result progress
  | group => .ok (group.foldl (fun progress result => progress.report result.duplicateChip)
      progress)

/-- `_admit_unique_chips`: the admissions in the order of their hotkeys, with the
outcomes and the stores. -/
def admitUniqueChips (setup : Setup) (epochId : ℕ) (around : Text → Surroundings)
    (results : List AttestationResult) (outcomes : List MinerOutcome) (world : World) :
    Except Aborted Progress := do
  let progress ← (claimedChips results).foldlM (admitChip setup epochId around results)
    ⟨world, outcomes, []⟩
  return { progress with
    admitted := progress.admitted.insertionSort fun a b => a.result.hotkey ≤ b.result.hotkey }

end Cathedral.Runtime
