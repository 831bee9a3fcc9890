import CathedralCompute.ScoreClass.Report

/-!
# The ledger as a state machine

Every public operation that writes the database, with its arguments, and what it
does to the state. Operations take the database lock in turn, so a run of any
number of callers is a sequence of operations; one that raises is rolled back.
An operation that reads first and writes in a later transaction appears twice:
as the uninterrupted operation and as its write with arbitrary arguments
(`recordScoreClassExport`, `markPublished`).
-/

set_option autoImplicit false

namespace Cathedral.Ledger

open Codec Semantics

/-- The operations of the ledger, with clock readings and random identifiers as
arguments. -/
inductive Op where
  | enqueueCustomerJob (item : SatWorkItem) (customerId : Text) (idempotencyKey : Option Text)
      (newJobId : Text) (now : Instant)
  | pruneCustomerJobs (resolvedBefore : Instant) (limit : ℤ) (customerId : Option Text)
  | claimCustomerJob (ownerHotkey : Text) (epochId : ℕ) (leaseSeconds maxAttempts : ℤ)
      (leaseToken : Text) (now : Instant)
  | beginEpoch (sourceEpoch : ℤ) (options : EpochOptions) (now : Instant)
  | abortEpoch (epochId : ℕ) (now : Instant)
  | abandonCompletedEpoch (epochId : ℕ) (reason : Text) (now : Instant)
  | issueChallenge (challengeId hotkey : Text) (epochId : ℕ) (now : Instant)
  | resolveChallenge (challengeId status : Text) (workUnits : Option Floating)
      (validatorDerived : Bool) (customer : CustomerArguments) (clock : ResolutionClock)
  | resolveChallengeWithReceipt (challengeId status : Text) (workUnits : Option Floating)
      (validatorDerived : Bool) (receipt : ReceiptArguments) (customer : CustomerArguments)
      (clock : ResolutionClock)
  | addAttestation (epochId : ℕ) (hotkey : Text) (arguments : AttestationArguments)
      (now : Instant)
  | addLifecycleSnapshot (epochId : ℕ) (snapshot : LifecycleSnapshot) (snapshotAt : Option Text)
      (now : Instant)
  | completeEpoch (epochId : ℕ) (arguments : CompletionArguments)
      (generatedNow completionTime : Instant)
  | markPublished (epochId : ℕ) (reportDigest : Option Text) (now : Instant)
  | postAndMarkPublished (epochId : ℕ) (response : Except Failure (List (Text × Json)))
      (now : Instant)
  | recordWorkArtifacts (challengeId : Text) (workItemBody resultBody : Bytes) (now : Instant)
  | recordWorkTiming (challengeId : Text) (dispatchMonotonicNs verifiedMonotonicNs : ℤ)
      (jobClass : JobClass) (producerBootId : Text) (now : Instant)
  | recordScoreClassExport (arguments : ExportArguments) (now : Instant)
  | exportScoreClassReport (epochId : ℕ) (arguments : ScoreClass.Arguments) (now : Instant)

/-- The database an operation commits, or the exception it raises. -/
def Op.commit (p : Platform) (s : State) : Op → Except Failure State
  | enqueueCustomerJob item customerId idempotencyKey newJobId now =>
    (Ledger.enqueueCustomerJob p item customerId idempotencyKey newJobId now s).map Prod.snd
  | pruneCustomerJobs resolvedBefore limit customerId =>
    (Ledger.pruneCustomerJobs resolvedBefore limit customerId s).map Prod.snd
  | claimCustomerJob ownerHotkey epochId leaseSeconds maxAttempts leaseToken now =>
    (Ledger.claimCustomerJob p ownerHotkey epochId leaseSeconds maxAttempts leaseToken now s).map
      Prod.snd
  | beginEpoch sourceEpoch options now =>
    (Ledger.beginEpoch sourceEpoch options now s).map Prod.snd
  | abortEpoch epochId now => (Ledger.abortEpoch epochId now s).map Prod.snd
  | abandonCompletedEpoch epochId reason now =>
    (Ledger.abandonCompletedEpoch epochId reason now s).map Prod.snd
  | issueChallenge challengeId hotkey epochId now =>
    (Ledger.issueChallenge p challengeId hotkey epochId now s).map Prod.snd
  | resolveChallenge challengeId status workUnits validatorDerived customer clock =>
    (Ledger.resolveChallenge p challengeId status workUnits validatorDerived customer clock s).map
      Prod.snd
  | resolveChallengeWithReceipt challengeId status workUnits validatorDerived receipt customer
      clock =>
    (Ledger.resolveChallengeWithReceipt p challengeId status workUnits validatorDerived receipt
      customer clock s).map Prod.snd
  | addAttestation epochId hotkey arguments now =>
    (Ledger.addAttestation epochId hotkey arguments now s).map Prod.snd
  | addLifecycleSnapshot epochId snapshot snapshotAt now =>
    (Ledger.addLifecycleSnapshot p epochId snapshot snapshotAt now s).map Prod.snd
  | completeEpoch epochId arguments generatedNow completionTime =>
    (Ledger.completeEpoch p epochId arguments generatedNow completionTime s).map Prod.snd
  | markPublished epochId reportDigest now =>
    (Ledger.markPublished epochId reportDigest now s).map Prod.snd
  | postAndMarkPublished epochId response now =>
    (Ledger.postAndMarkPublished p epochId response now s).map Prod.snd
  | recordWorkArtifacts challengeId workItemBody resultBody now =>
    (Ledger.recordWorkArtifacts p challengeId workItemBody resultBody now s).map Prod.snd
  | recordWorkTiming challengeId dispatchMonotonicNs verifiedMonotonicNs jobClass producerBootId
      now =>
    (Ledger.recordWorkTiming p challengeId dispatchMonotonicNs verifiedMonotonicNs jobClass
      producerBootId now s).map Prod.snd
  | recordScoreClassExport arguments now =>
    (Ledger.recordScoreClassExport p arguments now s).map Prod.snd
  | exportScoreClassReport epochId arguments now =>
    (ScoreClass.exportScoreClassReport p epochId arguments now s).map Prod.snd

/-- The database after an operation, committed or rolled back. -/
def step (p : Platform) (s : State) (op : Op) : State := settle s (op.commit p s)

/-- The database after a sequence of operations. -/
abbrev runOps (p : Platform) (s : State) (ops : List Op) : State := run (step p) s ops

/-- The states a ledger can be in. -/
abbrev Reachable (p : Platform) (s : State) : Prop := Semantics.Reachable (step p) .initial s

theorem runOps_append (p : Platform) (s : State) (first second : List Op) :
    runOps p s (first ++ second) = runOps p (runOps p s first) second :=
  run_append _ s first second

theorem Reachable.of_runOps (p : Platform) (ops : List Op) :
    Reachable p (runOps p .initial ops) := ⟨ops, rfl⟩

end Cathedral.Ledger
