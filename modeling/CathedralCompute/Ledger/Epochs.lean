import CathedralCompute.Launch
import CathedralCompute.Ledger.CustomerJobs

/-!
# Epochs

An epoch begins, and then is aborted, or completed and from there published or
abandoned. Only one epoch may be running or complete at a time. An aborted
attempt is retried under its own source epoch before a new one may begin.
-/

set_option autoImplicit false

namespace Cathedral.Ledger

open Codec Semantics

/-! ## Beginning -/

/-- The optional arguments of `begin_epoch`. -/
structure EpochOptions where
  policyRegistryRelease : Option ℤ := none
  policyRegistryDigest : Option Text := none
  network : Option Text := none
  netuid : Option ℤ := none
  challengeAnchorBlock : Option ℤ := none
  challengeAnchorHash : Option Text := none

/-- The anchor checks of `begin_epoch`: the normalized hash, if there is an
anchor. -/
def validatedAnchorHash (options : EpochOptions) : Except Failure (Option Text) :=
  match options.challengeAnchorBlock, options.challengeAnchorHash with
  | none, none => .ok none
  | some block, some hash => do
    require (0 ≤ block ∧ block ≤ maxSqliteInteger)
      (.ledgerError "challenge anchor block is invalid")
    let normalized ← (normalizeBlockHash hash).mapError fun message =>
      .ledgerError ("challenge anchor hash is invalid: " ++ message)
    require (options.network.isSome ∧ options.netuid.isSome)
      (.ledgerError "a challenge anchor requires its audience (network and netuid)")
    return some normalized
  | _, _ => .error (.ledgerError
      "challenge anchor block and hash must be supplied together as a validated pair")

/-- The checks of `begin_epoch` on its optional arguments. -/
def validateEpochOptions (options : EpochOptions) : Except Failure (Option Text) := do
  require (options.policyRegistryRelease.isNone = options.policyRegistryDigest.isNone)
    (.ledgerError "policy registry release and digest must be supplied together")
  let anchorHash ← validatedAnchorHash options
  require (options.network.isNone = options.netuid.isNone)
    (.ledgerError "network and netuid must be supplied together")
  if options.network.isSome then
    let _ ← (validateScoreAudience options.network options.netuid).mapError .ledgerError
  require (∀ release ∈ options.policyRegistryRelease, 0 < release ∧ release ≤ maxSqliteInteger ∧
      ∃ digest ∈ options.policyRegistryDigest, Text.isDigest "sha256:" digest)
    (.ledgerError "policy registry metadata is invalid")
  return anchorHash

/-- Running or complete: such an epoch blocks a new one. -/
def EpochRow.IsBlocking (row : EpochRow) : Prop := row.status = .running ∨ row.status = .complete

instance (row : EpochRow) : Decidable row.IsBlocking := inferInstanceAs (Decidable (_ ∨ _))

/-- Complete or published. -/
def EpochRow.IsFinalized (row : EpochRow) : Prop :=
  row.status = .complete ∨ row.status = .published

instance (row : EpochRow) : Decidable row.IsFinalized := inferInstanceAs (Decidable (_ ∨ _))

/-- `MAX(source_epoch)` of the finalized epochs. -/
def lastFinal (s : State) : Option ℤ :=
  ((s.epochs.select EpochRow.IsFinalized).map EpochRow.sourceEpoch).max?

/-- Aborted, with a source epoch above every finalized one. -/
def EpochRow.IsRetryable (last : Option ℤ) (row : EpochRow) : Prop :=
  row.status = .aborted ∧ ∀ value ∈ last, value < row.sourceEpoch

instance (last : Option ℤ) (row : EpochRow) : Decidable (row.IsRetryable last) :=
  inferInstanceAs (Decidable (_ ∧ _))

/-- The retryable epoch with the largest id. -/
def retryEpoch (s : State) : Option EpochRow :=
  ((s.epochs.select (EpochRow.IsRetryable (lastFinal s))).insertionSort
    fun a b => b.epochId ≤ a.epochId).head?

/-- The row of an epoch that begins. -/
def EpochRow.begin (epochId : ℕ) (sourceEpoch : ℤ) (options : EpochOptions)
    (anchorHash : Option Text) (now : Instant) : EpochRow where
  epochId := epochId
  sourceEpoch := sourceEpoch
  status := .running
  startedAt := now
  completedAt := none
  publishedAt := none
  generatedAt := none
  reportBody := none
  reportDigest := none
  policyRegistryRelease := options.policyRegistryRelease
  policyRegistryDigest := options.policyRegistryDigest
  abandonedAt := none
  abandonReason := none
  anchorNetwork := options.network
  anchorNetuid := options.netuid
  challengeAnchorBlock := options.challengeAnchorBlock
  challengeAnchorHash := anchorHash

/-- No epoch is running or complete. -/
def requireIdle (s : State) : Except Failure Unit :=
  match (s.epochs.select EpochRow.IsBlocking).head? with
  | some blocking =>
    .error (.ledgerError ("epoch " ++ natText blocking.epochId ++ " is " ++ blocking.status.value ++
      "; " ++ Text.ofString (if blocking.status = .running then "finish" else "publish") ++
      " it before beginning"))
  | none => .ok ()

/-- An aborted source epoch is retried before another one begins. -/
def requireRetried (s : State) (sourceEpoch : ℤ) : Except Failure Unit :=
  match retryEpoch s with
  | some retry =>
    require (sourceEpoch = retry.sourceEpoch)
      (.ledgerError ("aborted source_epoch " ++ intText retry.sourceEpoch ++
        " must be retried before advancing"))
  | none => .ok ()

/-- The source epoch is above the finalized ones. -/
def requireAboveFinal (s : State) (sourceEpoch : ℤ) : Except Failure Unit :=
  match lastFinal s with
  | some last =>
    require (last < sourceEpoch)
      (.ledgerError ("source_epoch must be greater than finalized epoch " ++ intText last))
  | none => .ok ()

/-- `begin_epoch`. -/
def beginEpoch (sourceEpoch : ℤ) (options : EpochOptions) (now : Instant) (s : State) :
    Except Failure (ℕ × State) := do
  require (0 ≤ sourceEpoch) (.ledgerError "source_epoch must be a nonnegative integer")
  let anchorHash ← validateEpochOptions options
  requireIdle s
  requireRetried s sourceEpoch
  requireAboveFinal s sourceEpoch
  storableIntegers [sourceEpoch]
  let epochId := s.epochSequence + 1
  let epochs ← demand .integrityError
    (s.epochs.insert (.begin epochId sourceEpoch options anchorHash now))
  return (epochId, { s with epochSequence := epochId, epochs := epochs })

theorem requireIdle_eq_ok {s : State} {u : Unit} :
    requireIdle s = .ok u ↔ ∀ row ∈ s.epochs.rows, ¬ row.IsBlocking := by
  have selected : ∀ row, row ∈ s.epochs.select EpochRow.IsBlocking ↔
      row ∈ s.epochs.rows ∧ row.IsBlocking := fun _ => Table.mem_select
  unfold requireIdle
  split
  case h_1 blocking found =>
    have blocks := (selected blocking).mp (List.mem_of_head? found)
    exact ⟨fun h => (nomatch h), fun idle => absurd blocks.2 (idle blocking blocks.1)⟩
  case h_2 none =>
    rw [List.head?_eq_none_iff] at none
    refine ⟨fun _ row member blocking => ?_, fun _ => rfl⟩
    have listed := (selected row).mpr ⟨member, blocking⟩
    rw [none] at listed
    cases listed

theorem requireRetried_eq_ok {s : State} {sourceEpoch : ℤ} {u : Unit} :
    requireRetried s sourceEpoch = .ok u ↔
      ∀ retry ∈ retryEpoch s, sourceEpoch = retry.sourceEpoch := by
  unfold requireRetried
  cases retryEpoch s <;> simp

theorem requireAboveFinal_eq_ok {s : State} {sourceEpoch : ℤ} {u : Unit} :
    requireAboveFinal s sourceEpoch = .ok u ↔ ∀ last ∈ lastFinal s, last < sourceEpoch := by
  unfold requireAboveFinal
  cases lastFinal s <;> simp

/-! ## Aborting and abandoning -/

/-- One turn of the loop over the leases of an aborted epoch. -/
def requeue (now : Instant) (s : State) (job : JobRow × Lease) : State :=
  takeBack now .queued "customer job epoch aborted" JobRow.resolvedAt s job

/-- Rewrite one epoch row. -/
def updateEpoch (s : State) (epochId : ℕ) (f : EpochRow → EpochRow)
    (keeps : ∀ row, (f row).epochId = row.epochId := by exact fun _ => rfl) : State :=
  { s with epochs := s.epochs.update (fun row => row.epochId = epochId) f keeps }

def EpochRow.abort (row : EpochRow) : EpochRow := { row with status := .aborted }

def EpochRow.abandon (row : EpochRow) (now : Instant) (reason : Text) : EpochRow :=
  { row with status := .abandoned, abandonedAt := some now, abandonReason := some reason }

/-- `abort_epoch`. -/
def abortEpoch (epochId : ℕ) (now : Instant) (s : State) : Except Failure (Unit × State) := do
  let row ← epoch s epochId
  if row.status = .aborted then return ((), s)
  else
    require (row.status = .running)
      (.ledgerError ("epoch " ++ natText epochId ++ " is " ++ row.status.value ++
        "; cannot abort"))
    let requeued := (leasedJobs s fun lease => lease.epochId = epochId).foldl (requeue now) s
    return ((), updateEpoch requeued epochId .abort)

/-- `abandon_completed_epoch`. -/
def abandonCompletedEpoch (epochId : ℕ) (reason : Text) (now : Instant) (s : State) :
    Except Failure (Unit × State) := do
  require (reason.strip ≠ [])
    (.ledgerError "abandon reason must be a nonempty operator-supplied string")
  let row ← epoch s epochId
  require (row.status = .complete)
    (.ledgerError ("epoch " ++ natText epochId ++ " is " ++ row.status.value ++
      "; only a complete epoch can be abandoned"))
  storable [reason.strip]
  return ((), updateEpoch s epochId fun row => row.abandon now reason.strip)

/-! ## Publishing -/

/-- `report_bytes`. -/
def reportBytes (epochId : ℕ) (s : State) : Except Failure Bytes := do
  let row ← epoch s epochId
  require (row.status = .complete ∨ row.status = .published ∨ row.status = .abandoned)
    (.ledgerError ("epoch " ++ natText epochId ++ " has no completed report"))
  demand (.ledgerError ("epoch " ++ natText epochId ++ " has no completed report"))
    row.reportBody

/-- The digest a caller vouches for; an absent or empty one stands for the
stored digest. -/
def suppliedDigest (supplied expected : Option Text) : Option Text :=
  if supplied = none ∨ supplied = some [] then expected else supplied

def EpochRow.publish (row : EpochRow) (now : Instant) : EpochRow :=
  { row with status := .published, publishedAt := some now }

/-- `mark_published`. -/
def markPublished (epochId : ℕ) (reportDigest : Option Text) (now : Instant) (s : State) :
    Except Failure (Unit × State) := do
  let row ← epoch s epochId
  if row.status = .published then
    require (suppliedDigest reportDigest row.reportDigest = row.reportDigest)
      (.ledgerError "epoch already published with a different digest")
    return ((), s)
  else
    require (row.status = .complete)
      (.ledgerError ("epoch " ++ natText epochId ++ " is " ++ row.status.value ++
        "; cannot publish"))
    require (suppliedDigest reportDigest row.reportDigest = row.reportDigest)
      (.ledgerError "published digest does not match persisted report bytes")
    return ((), updateEpoch s epochId fun row => row.publish now)

end Cathedral.Ledger
