import CathedralCompute.Lifecycle
import CathedralCompute.Registry.Assurance
import CathedralCompute.Semantics.Table

/-!
# The tables of the registry

The rows of the SQLite schema and the state of the database. A row of
`worker_lifecycle_current` has the fields of a snapshot, so it is stored as one;
a row of `worker_lifecycle_events` has them too, next to the state it left and
the operator's detail. Times the registry writes itself are instants: their
stored texts compare as the instants do. The time of a verdict may also be a
text that an older release left behind.
-/

set_option autoImplicit false

namespace Cathedral

open Codec Semantics

/-! ## Times -/

/-- `datetime.max`. -/
def maxInstant : Instant := 315537897599999999

/-- `t + timedelta(seconds=n)`. -/
def addSeconds (t : Instant) (n : ℕ) : Except Failure Instant := do
  require (t + Instant.seconds n ≤ maxInstant) .overflowError
  return t + Instant.seconds n

/-- `t - timedelta(seconds=n)`. -/
def subtractSeconds (t : Instant) (n : ℕ) : Except Failure Instant := do
  require (Instant.seconds n ≤ t) .overflowError
  return t - Instant.seconds n

@[simp] theorem addSeconds_eq_ok {t t' : Instant} {n : ℕ} :
    addSeconds t n = .ok t' ↔ t + Instant.seconds n ≤ maxInstant ∧ t + Instant.seconds n = t' := by
  simp only [addSeconds, bind_eq_ok, require_eq_ok, pure_eq_ok, exists_const]

@[simp] theorem subtractSeconds_eq_ok {t t' : Instant} {n : ℕ} :
    subtractSeconds t n = .ok t' ↔ Instant.seconds n ≤ t ∧ t - Instant.seconds n = t' := by
  simp only [subtractSeconds, bind_eq_ok, require_eq_ok, pure_eq_ok, exists_const]

/-- `parsed.astimezone(UTC)` of a time with an offset. -/
def astimezone (localTime : Instant) (offset : ℤ) : Except Failure Instant := do
  let utc := (localTime : ℤ) - offset
  require (0 ≤ utc ∧ utc ≤ maxInstant) .overflowError
  return utc.toNat

/-- `value.replace("Z", "+00:00")`. -/
def replaceZ (t : Text) : Text :=
  t.flatMap fun c => if c = 0x5a then Text.ofString "+00:00" else [c]

/-- `_parse_iso_utc`. -/
def parseIsoUtc (p : Platform) (value : Text) : Except Failure Instant := do
  let parsed ← demand (.valueError "timestamp must be ISO-8601 UTC")
    (p.fromisoformat (replaceZ value))
  let offset ← demand (.valueError "timestamp must include timezone") parsed.offset
  astimezone parsed.localTime offset

/-- `now_iso()` at a time, as a text. -/
def nowIso (now : Instant) : Text := now.secondText ++ [0x5a]

/-- A time column: a time the registry wrote, or a text of an older release. -/
inductive StoredTime where
  | time (t : Instant)
  | text (t : Text)
deriving DecidableEq

namespace StoredTime

def toText : StoredTime → Text
  | time t => nowIso t
  | text t => t

/-- The order of two stored times. The texts of two times are of one width, so
they compare as the times do. -/
def le : StoredTime → StoredTime → Bool
  | time a, time b => a ≤ b
  | a, b => a.toText ≤ b.toText

/-- `_parse_iso_utc` of a stored time. -/
def parse (p : Platform) : StoredTime → Except Failure Instant
  | time t => .ok t
  | text t => parseIsoUtc p t

end StoredTime

namespace Registry

/-! ## Rows -/

/-- A row of `enrollments`. -/
structure EnrollmentRow where
  hotkey : Text
  endpointUrl : Text
  enrolledAt : Instant
  updatedAt : Instant
  coldkey : Option Text
  requestedProfileId : Option Text
  endpointCanonical : Text
  workerToken : Option Text

/-- A row of `attestations`. -/
structure AttestationRow where
  hotkey : Text
  chipId : Option Text
  tier : Option Text
  verificationStatus : Text
  lastVerified : StoredTime
  error : Option Text
  assuranceJson : Option Text

/-- A row of `enroll_nonces`. -/
structure NonceRow where
  hotkey : Text
  nonce : Text
  usedAt : Instant
  requestDigest : Option Text

def NonceRow.key (row : NonceRow) : Text × Text := (row.hotkey, row.nonce)

/-- A row of `worker_lifecycle_events`. -/
structure EventRow where
  eventId : ℕ
  hotkey : Text
  generation : ℕ
  revision : ℕ
  fromState : Option WorkerLifecycleState
  toState : WorkerLifecycleState
  reason : LifecycleReason
  occurredAt : Instant
  evidenceVerifiedAt : Option Instant
  evidenceExpiresAt : Option Instant
  measurement : Option Text
  evidenceDigest : Option Text
  policyDigest : Option Text
  policyRegistryRelease : Option ℤ
  policyRegistryDigest : Option Text
  retryCount : ℕ
  nextRetryAt : Option Instant
  operatorDetail : Option Text

/-- The database. `eventSequence` is the last event id handed out. -/
structure State where
  enrollments : Table EnrollmentRow.hotkey
  attestations : Table AttestationRow.hotkey
  nonces : Table NonceRow.key
  eventSequence : ℕ
  events : Table EventRow.eventId
  current : Table SnapshotFields.hotkey
  clock : Option Instant

/-- A freshly created database. -/
def State.initial : State := ⟨.empty, .empty, .empty, 0, .empty, .empty, none⟩

/-- The row has the columns that `UNIQUE(hotkey, generation, revision)` covers in
common with another. -/
def EventRow.Clashes (row other : EventRow) : Prop :=
  row.hotkey = other.hotkey ∧ row.generation = other.generation ∧ row.revision = other.revision

instance (row other : EventRow) : Decidable (row.Clashes other) :=
  inferInstanceAs (Decidable (_ ∧ _))

/-- The hotkey is enrolled, as the foreign keys demand. -/
def requireEnrolled (s : State) (hotkey : Text) : Except Failure Unit :=
  require (s.enrollments.find? hotkey).isSome .integrityError

/-- `INSERT INTO worker_lifecycle_events`, with `cursor.lastrowid`. -/
def insertEvent (event : ℕ → EventRow) (s : State) : Except Failure (ℕ × State) := do
  let eventId := s.eventSequence + 1
  let row := event eventId
  requireEnrolled s row.hotkey
  storable ([row.hotkey] ++ row.measurement.toList ++ row.evidenceDigest.toList ++
    row.policyDigest.toList ++ row.policyRegistryDigest.toList ++ row.operatorDetail.toList)
  storableIntegers ([(eventId : ℤ), row.generation, row.revision, row.retryCount] ++
    row.policyRegistryRelease.toList)
  require (∀ other ∈ s.events.rows, ¬ other.Clashes row) .integrityError
  let events ← demand .integrityError (s.events.insert row)
  return (eventId, { s with eventSequence := eventId, events := events })

/-! ## Lookups shared by the operations -/

/-- `_lifecycle_row`. -/
def lifecycleRow (p : Platform) (s : State) (hotkey : Text) : Except Failure SnapshotFields := do
  storable [hotkey]
  demand (.lifecycleError ("worker " ++ p.repr hotkey ++ " has no lifecycle state"))
    (s.current.find? hotkey)

/-- `_lifecycle_snapshot_from_row`. -/
def lifecycleSnapshotFromRow (row : SnapshotFields) : Except Failure LifecycleSnapshot :=
  (makeSnapshot row).mapError fun _ =>
    .lifecycleError "persisted worker lifecycle state is invalid"

/-- The snapshot of a worker, read from its row. -/
def currentSnapshot (p : Platform) (s : State) (hotkey : Text) :
    Except Failure LifecycleSnapshot := do
  let row ← lifecycleRow p s hotkey
  lifecycleSnapshotFromRow row

/-- A snapshot shows the stored row. -/
theorem currentSnapshot_eq_ok {p : Platform} {s : State} {hotkey : Text}
    {snapshot : LifecycleSnapshot} (read : currentSnapshot p s hotkey = .ok snapshot) :
    s.current.find? hotkey = some snapshot.fields := by
  simp only [currentSnapshot, lifecycleRow, lifecycleSnapshotFromRow, bind_eq_ok, demand_eq_ok,
    mapError_eq_ok] at read
  obtain ⟨row, ⟨_, _, found⟩, made⟩ := read
  rw [found, makeSnapshot_eq_ok made]

/-- The time is not before the clock. Where there is no clock yet, the latest
change of a worker stands for it. -/
def State.ClockAllows (s : State) (when : Instant) : Prop :=
  (∀ lastSeen ∈ s.clock, lastSeen ≤ when) ∧
    (s.clock = none → ∀ row ∈ s.current.rows, row.stateChangedAt ≤ when)

instance (s : State) (when : Instant) : Decidable (s.ClockAllows when) :=
  inferInstanceAs (Decidable (_ ∧ _))

/-- `_advance_lifecycle_clock`. -/
def advanceLifecycleClock (when : Instant) (s : State) : Except Failure State := do
  require (s.ClockAllows when) (.lifecycleError "worker lifecycle clock moved backwards")
  return { s with clock := some when }

end Registry

end Cathedral
