import CathedralCompute.Registry.Verdicts

/-!
# The registry as a state machine

Every operation that writes the registry's database, with its arguments and its
clock readings. Operations take the database lock in turn, so a run of any number
of processes is a sequence of operations; one that raises is rolled back. The two
transactions of `remove_enrollment` are `retireLifecycle` and `clearVerdict`. Each
process brings its own verification lifetime.
-/

set_option autoImplicit false

namespace Cathedral.Registry

open Codec Semantics

inductive Op where
  | backfill (ttl : ℕ) (when : Instant)
  | enroll (a : EnrollArguments) (ts when : Instant)
  | transitionLifecycle (hotkey : Text) (target : WorkerLifecycleState) (reason : LifecycleReason)
      (expectedGeneration expectedRevision : Option ℤ) (operatorDetail : Option Text)
      (when : Instant)
  | lifecycleSnapshot (hotkey : Text) (materializeFreshness : Bool) (when : Instant)
  | dueRefreshes (refreshAheadSeconds : ℤ) (when : Instant)
  | recordAttestedLifecycle (ttl : ℕ) (hotkey : Text) (attested : Attested)
      (policyRegistryRelease : Option ℤ) (policyRegistryDigest : Option Text)
      (expectedGeneration expectedRevision : Option ℤ) (when : Instant)
  | recordRefreshFailure (hotkey : Text) (attempt maximumAttempts : ℤ) (retry : RetryPolicy)
      (operatorDetail : Option Text) (expectedGeneration expectedRevision : Option ℤ)
      (when : Instant)
  | applyLifecyclePolicy (allowedMeasurements : List Text) (policyRegistryRelease : Option ℤ)
      (policyRegistryDigest : Option Text) (when : Instant)
  | reenrollLifecycle (hotkey : Text) (reason : LifecycleReason) (operator : Bool)
      (when : Instant)
  | retireLifecycle (hotkey : Text) (removed : Bool) (when : Instant)
  | clearVerdict (hotkey : Text) (when : Instant)
  | recordProbeFailure (a : ProbeArguments) (when ts : Instant)
  | recordVerdict (ttl : ℕ) (a : VerdictArguments) (clock : VerdictClock)

/-- The database an operation commits, or the exception it raises. -/
def Op.commit (p : Platform) (s : State) : Op → Except Failure State
  | backfill ttl when => (backfillLifecycle p ttl when s).map Prod.snd
  | enroll a ts when => (Registry.enroll p a ts when s).map Prod.snd
  | transitionLifecycle hotkey target reason expectedGeneration expectedRevision operatorDetail
      when =>
    (Registry.transitionLifecycle p hotkey target reason expectedGeneration expectedRevision
      operatorDetail when s).map Prod.snd
  | lifecycleSnapshot hotkey materializeFreshness when =>
    (Registry.lifecycleSnapshot p hotkey materializeFreshness when s).map Prod.snd
  | dueRefreshes refreshAheadSeconds when =>
    (Registry.dueRefreshes p refreshAheadSeconds when s).map Prod.snd
  | recordAttestedLifecycle ttl hotkey attested policyRegistryRelease policyRegistryDigest
      expectedGeneration expectedRevision when =>
    (Registry.recordAttestedLifecycle p ttl hotkey attested policyRegistryRelease
      policyRegistryDigest expectedGeneration expectedRevision when s).map Prod.snd
  | recordRefreshFailure hotkey attempt maximumAttempts retry operatorDetail expectedGeneration
      expectedRevision when =>
    (Registry.recordRefreshFailure p hotkey attempt maximumAttempts retry operatorDetail
      expectedGeneration expectedRevision when s).map Prod.snd
  | applyLifecyclePolicy allowedMeasurements policyRegistryRelease policyRegistryDigest when =>
    (Registry.applyLifecyclePolicy p allowedMeasurements policyRegistryRelease
      policyRegistryDigest when s).map Prod.snd
  | reenrollLifecycle hotkey reason operator when =>
    (Registry.reenrollLifecycle p hotkey reason operator when s).map Prod.snd
  | retireLifecycle hotkey removed when =>
    (Registry.retireLifecycle p hotkey removed when s).map Prod.snd
  | clearVerdict hotkey _ => (Registry.clearVerdict hotkey s).map Prod.snd
  | recordProbeFailure a when ts => (Registry.recordProbeFailure p a when ts s).map Prod.snd
  | recordVerdict ttl a clock => (Registry.recordVerdict p ttl a clock s).map Prod.snd

/-- The database after an operation, committed or rolled back. -/
def step (p : Platform) (s : State) (op : Op) : State := settle s (op.commit p s)

/-- The database after a sequence of operations. -/
abbrev runOps (p : Platform) (s : State) (ops : List Op) : State := run (step p) s ops

/-- A database as the registry finds it: enrollments and verdicts of an older
release at most, and nothing in the lifecycle tables. -/
structure State.Unstarted (s : State) : Prop where
  events : s.events.rows = []
  current : s.current.rows = []
  clock : s.clock = none

theorem State.unstarted_initial : State.initial.Unstarted := ⟨rfl, rfl, rfl⟩

end Cathedral.Registry
