import CathedralCompute.Platform
import CathedralCompute.Semantics.Table

/-!
# GPU identity claims

The database of the GPU identity registry and the six operations that change it.
A claim gives a GPU to a worker in two phases: `begin_claim` inserts rows under a
token, `commit_claim` clears the token and `rollback_claim` deletes the rows. A
canary reserves GPUs under a token in the same way, and never owns them.
`release_worker` frees what a worker owns, and `recover_interrupted` settles the
tokens that a crash left behind.

Workers and GPUs are stored under keyed digests. Every operation stamps the
database with its next generation and a digest of its whole content.
-/

set_option autoImplicit false

namespace Cathedral.Gpu

open Codec Semantics

/-! ## Tables -/

/-- `_GPU_CLAIM_KINDS`. -/
inductive ClaimKind where
  | workerAdmission
  | canaryReservation
deriving DecidableEq

def ClaimKind.value : ClaimKind → Text
  | workerAdmission => "worker_admission"
  | canaryReservation => "canary_reservation"

/-- A row of `gpu_identity_claims_v3`. -/
structure ClaimRow where
  gpuIdentityDigest : Text
  hotkeyDigest : Text
  bundleDigest : Text
  claimedAt : Text
  claimToken : Option Text
  claimKind : ClaimKind
deriving DecidableEq

/-- A row of `gpu_identity_recovery_events_v1`. -/
structure RecoveryEvent where
  eventId : Text
  recoveredAt : Text
  reason : Text
  workerClaimsCommitted : ℕ
  workerIdentitiesCommitted : ℕ
  canaryReservationsReleased : ℕ
  canaryIdentitiesReleased : ℕ
  claimTokenDigestsJson : Text

/-- The database, with the one row of `gpu_identity_registry_meta_v1`. -/
structure Database where
  claims : Table ClaimRow.gpuIdentityDigest
  recoveryEvents : Table RecoveryEvent.eventId
  identityKeyCheck : Text
  claimsStateMac : Text
  databaseGeneration : ℕ

/-- `_MAX_IDENTITY_GENERATION`. -/
def maxIdentityGeneration : ℕ := 2 ^ 63 - 1

/-- `PendingGpuIdentityClaim`. -/
structure PendingClaim where
  token : Text
  hotkeyDigest : Text
  identityDigests : List Text
  bundleDigest : Text
  claimedAt : Text

/-- What the registry reads of a component verdict: its GPUs in order, and its
digest. -/
structure ComponentVerdict where
  identities : List Text
  digest : Text

/-- A registry object: the key its owner gave it, and the schema document that
SQLite shows for its tables. -/
structure IdentityRegistry where
  platform : Platform
  identityDigestKey : Bytes
  schema : Json

/-- An error of category `identity_config_invalid`. -/
def configInvalid (message : Text) : Failure :=
  .gpuAttestationError "identity_config_invalid" message

/-- An error of category `identity_recovery_required`. -/
def recoveryRequired (message : Text) : Failure :=
  .gpuAttestationError "identity_recovery_required" message

/-- An error of category `identity_conflict`. -/
def identityConflict (message : Text) : Failure :=
  .gpuAttestationError "identity_conflict" message

/-! ## Authentication -/

/-- The compact JSON text of a document, keys in order. -/
def IdentityRegistry.jsonText (r : IdentityRegistry) (document : Json) : Text :=
  document.sortKeys.render (compactStyle r.platform)

/-- `_keyed_digest` of an encoded value. -/
def IdentityRegistry.keyedDigest (r : IdentityRegistry) (domain : Text) (value : Bytes) : Text :=
  hmacDigest r.identityDigestKey (domain.ascii ++ value)

/-- `_private_digest`. -/
def IdentityRegistry.privateDigest (r : IdentityRegistry) (domain value : Text) :
    Except Failure Text := do
  let encoded ← demand .unicodeEncodeError value.utf8
  return r.keyedDigest domain encoded

/-- `_expected_key_check`. -/
def IdentityRegistry.expectedKeyCheck (r : IdentityRegistry) : Text :=
  r.keyedDigest "cathedral-gpu-identity-key-check-v1\x00" (Text.ascii "registry")

def claimJson (row : ClaimRow) : Json := .arr
  [.str row.gpuIdentityDigest, .str row.hotkeyDigest, .str row.bundleDigest, .str row.claimedAt,
    row.claimToken.elim .null .str, .str row.claimKind.value]

def eventJson (event : RecoveryEvent) : Json := .arr
  [.str event.eventId, .str event.recoveredAt, .str event.reason,
    .int event.workerClaimsCommitted, .int event.workerIdentitiesCommitted,
    .int event.canaryReservationsReleased, .int event.canaryIdentitiesReleased,
    .str event.claimTokenDigestsJson]

/-- Events in the order of `ORDER BY recovered_at,event_id`. -/
def eventsInOrder (db : Database) : List RecoveryEvent :=
  db.recoveryEvents.rows.insertionSort fun a b =>
    a.recoveredAt < b.recoveredAt ∨ (a.recoveredAt = b.recoveredAt ∧ a.eventId ≤ b.eventId)

/-- `_state_mac`. -/
def IdentityRegistry.stateMac (r : IdentityRegistry) (db : Database) (generation : ℕ) : Text :=
  let claims := db.claims.rows.insertionSort fun a b => a.gpuIdentityDigest ≤ b.gpuIdentityDigest
  let document := r.jsonText (.obj
    [("claims", .arr (claims.map claimJson)),
      ("database_generation", .int generation),
      ("recovery_events", .arr ((eventsInOrder db).map eventJson)),
      ("schema", r.schema)])
  r.keyedDigest "cathedral-gpu-identity-state-v2\x00" document.ascii

/-- `_commit_authenticated_state`. -/
def IdentityRegistry.commitAuthenticatedState (r : IdentityRegistry) (previousGeneration : ℕ)
    (db : Database) : Except Failure Database := do
  require (previousGeneration < maxIdentityGeneration)
    (configInvalid "GPU identity database generation is exhausted")
  require (db.databaseGeneration = previousGeneration)
    (configInvalid "GPU identity database generation changed")
  return { db with
    claimsStateMac := r.stateMac db (previousGeneration + 1)
    databaseGeneration := previousGeneration + 1 }

/-! ## Beginning a claim -/

/-- `_claim_material`, without the time. -/
def IdentityRegistry.claimMaterial (r : IdentityRegistry) (hotkey : Text)
    (verdict : ComponentVerdict) : Except Failure (Text × List Text) := do
  require (hotkey ≠ []) (identityConflict "GPU worker identity is invalid")
  let hotkeyDigest ← r.privateDigest "cathedral-gpu-hotkey-v1\x00" hotkey
  let identityDigests ← verdict.identities.mapM
    (r.privateDigest "cathedral-gpu-identity-v1\x00")
  return (hotkeyDigest, identityDigests)

/-- `INSERT INTO gpu_identity_claims_v3`. -/
def insertClaim (claims : Table ClaimRow.gpuIdentityDigest) (row : ClaimRow) :
    Except Failure (Table ClaimRow.gpuIdentityDigest) :=
  demand .integrityError (claims.insert row)

/-- The row a claim inserts for an identity. -/
def PendingClaim.row (pending : PendingClaim) (kind : ClaimKind) (identityDigest : Text) :
    ClaimRow where
  gpuIdentityDigest := identityDigest
  hotkeyDigest := pending.hotkeyDigest
  bundleDigest := pending.bundleDigest
  claimedAt := pending.claimedAt
  claimToken := some pending.token
  claimKind := kind

/-- `begin_exclusive_reservation` at the time `occurred`, with the token that
`uuid4` drew. -/
def IdentityRegistry.beginExclusiveReservation (r : IdentityRegistry) (hotkey : Text)
    (verdict : ComponentVerdict) (occurred token : Text) (db : Database) : Except Failure (PendingClaim × Database) := do
  let (hotkeyDigest, identityDigests) ← r.claimMaterial hotkey verdict
  let pending : PendingClaim := ⟨token, hotkeyDigest, identityDigests, verdict.digest, occurred⟩
  require (∀ identityDigest ∈ identityDigests, db.claims.find? identityDigest = none)
    (identityConflict "canary GPU identity is already enrolled")
  let claims ← (identityDigests.map (pending.row .canaryReservation)).foldlM
    insertClaim db.claims
  require (((claims.select fun row => row.claimToken = some token).insertionSort
        fun a b => a.gpuIdentityDigest ≤ b.gpuIdentityDigest) =
      (identityDigests.insertionSort (· ≤ ·)).map (pending.row .canaryReservation))
    (configInvalid "GPU identity reservation was not stored exactly")
  let db ← r.commitAuthenticatedState db.databaseGeneration { db with claims := claims }
  return (pending, db)

/-- One round of the first loop of `begin_claim`: the claims, and the identities
inserted so far. -/
def claimIdentity (pending : PendingClaim)
    (state : Table ClaimRow.gpuIdentityDigest × List Text) (identityDigest : Text) :
    Except Failure (Table ClaimRow.gpuIdentityDigest × List Text) :=
  match state.1.find? identityDigest with
  | none => do
    let claims ← insertClaim state.1 (pending.row .workerAdmission identityDigest)
    return (claims, identityDigest :: state.2)
  | some row => do
    require (row.hotkeyDigest = pending.hotkeyDigest)
      (identityConflict "GPU identity already backs another worker")
    require (row.claimToken = none ∧ row.claimKind = .workerAdmission)
      (recoveryRequired "GPU identity admission is already in progress")
    return state

/-- The claim of an identity is stored as `begin_claim` meant it. -/
def storedExactly (pending : PendingClaim) (claims : Table ClaimRow.gpuIdentityDigest)
    (inserted : List Text) (identityDigest : Text) : Bool :=
  if identityDigest ∈ inserted then
    claims.find? identityDigest = some (pending.row .workerAdmission identityDigest)
  else
    (claims.find? identityDigest).any fun row =>
      row.hotkeyDigest = pending.hotkeyDigest ∧ row.claimToken = none

/-- `begin_claim` at the time `occurred`, with the token that `uuid4` drew. -/
def IdentityRegistry.beginClaim (r : IdentityRegistry) (hotkey : Text) (verdict : ComponentVerdict)
    (occurred token : Text) (db : Database) : Except Failure (PendingClaim × Database) := do
  let (hotkeyDigest, identityDigests) ← r.claimMaterial hotkey verdict
  let pending : PendingClaim := ⟨token, hotkeyDigest, identityDigests, verdict.digest, occurred⟩
  let (claims, inserted) ← identityDigests.foldlM (claimIdentity pending) (db.claims, [])
  require (∀ identityDigest ∈ identityDigests, storedExactly pending claims inserted identityDigest)
    (configInvalid "GPU identity claim was not stored exactly")
  let db ← r.commitAuthenticatedState db.databaseGeneration { db with claims := claims }
  return (pending, db)

/-! ## Ending a claim -/

/-- The checks of `commit_claim` on one identity. -/
def requireHeld (pending : PendingClaim) (claims : Table ClaimRow.gpuIdentityDigest)
    (identityDigest : Text) : Except Failure Unit := do
  require (∀ row ∈ claims.find? identityDigest, row.hotkeyDigest = pending.hotkeyDigest)
    (identityConflict "GPU identity claim changed during admission")
  require (∃ row ∈ claims.find? identityDigest,
      (row.claimToken = none ∨ row.claimToken = some pending.token) ∧
        row.claimKind = .workerAdmission)
    (recoveryRequired "GPU identity claim changed during admission")

/-- The committed row. -/
def PendingClaim.committed (pending : PendingClaim) (row : ClaimRow) : ClaimRow :=
  { row with
    bundleDigest := pending.bundleDigest
    claimedAt := pending.claimedAt
    claimToken := none }

/-- One round of the second loop of `commit_claim`. -/
def commitIdentity (pending : PendingClaim) (claims : Table ClaimRow.gpuIdentityDigest)
    (identityDigest : Text) : Except Failure (Table ClaimRow.gpuIdentityDigest) := do
  let updated := claims.update (fun row => row.gpuIdentityDigest = identityDigest ∧
    row.hotkeyDigest = pending.hotkeyDigest) pending.committed
  require ((claims.select fun row => row.gpuIdentityDigest = identityDigest ∧
        row.hotkeyDigest = pending.hotkeyDigest).length = 1 ∧
      updated.find? identityDigest = some (pending.committed
        (pending.row .workerAdmission identityDigest)))
    (configInvalid "GPU identity claim commit was incomplete")
  return updated

/-- `commit_claim`. -/
def IdentityRegistry.commitClaim (r : IdentityRegistry) (pending : PendingClaim) (db : Database) :
    Except Failure Database := do
  let _ ← pending.identityDigests.mapM (requireHeld pending db.claims)
  let claims ← pending.identityDigests.foldlM (commitIdentity pending) db.claims
  r.commitAuthenticatedState db.databaseGeneration { db with claims := claims }

/-- `rollback_claim`. -/
def IdentityRegistry.rollbackClaim (r : IdentityRegistry) (pending : PendingClaim) (db : Database) :
    Except Failure Database := do
  let claims := db.claims.delete fun row =>
    row.claimToken = some pending.token ∧ row.hotkeyDigest = pending.hotkeyDigest
  require (∀ row ∈ claims.rows, ¬ (row.claimToken = some pending.token ∨
      (row.claimToken ≠ none ∧ row.hotkeyDigest = pending.hotkeyDigest)))
    (configInvalid "GPU identity claim rollback was incomplete")
  r.commitAuthenticatedState db.databaseGeneration { db with claims := claims }

/-! ## Release and recovery -/

/-- A reason an operator may give: stripped, of 1 to 256 characters and without
control characters. -/
def isReason (reason : Text) : Bool :=
  reason = reason.strip && 1 ≤ reason.length && reason.length ≤ 256 &&
    reason.all fun c => 0x20 ≤ c.val

/-- The sorted digests as a JSON text. -/
def IdentityRegistry.digestsJson (r : IdentityRegistry) (digests : List Text) : Text :=
  r.jsonText (.arr ((digests.insertionSort (· ≤ ·)).map .str))

/-- `release_worker`, with the event identifier and the time it draws. -/
def IdentityRegistry.releaseWorker (r : IdentityRegistry) (hotkey reason eventId releasedAt : Text)
    (db : Database) : Except Failure Database := do
  require (hotkey ≠ []) (configInvalid "GPU worker hotkey is invalid")
  require (isReason reason) (configInvalid "GPU identity release reason is invalid")
  let hotkeyDigest ← r.privateDigest "cathedral-gpu-hotkey-v1\x00" hotkey
  require (∀ row ∈ db.claims.rows, ¬ (row.hotkeyDigest = hotkeyDigest ∧ row.claimToken ≠ none))
    (recoveryRequired "GPU identity registry contains an interrupted admission")
  let owned := db.claims.select fun row => row.hotkeyDigest = hotkeyDigest ∧
    row.claimKind = .workerAdmission ∧ row.claimToken = none
  require (owned ≠ []) (.gpuAttestationError "identity_release_not_required"
    "worker holds no committed GPU identity claims")
  let claims := db.claims.delete fun row => row.hotkeyDigest = hotkeyDigest ∧
    row.claimKind = .workerAdmission ∧ row.claimToken = none
  require (∀ row ∈ claims.rows, row.hotkeyDigest ≠ hotkeyDigest)
    (configInvalid "GPU identity release was incomplete")
  -- SQLite takes a text in UTF-8, which a lone surrogate does not have
  let _ ← demand .unicodeEncodeError reason.utf8
  let events ← demand .integrityError (db.recoveryEvents.insert
    ⟨eventId, releasedAt, "worker identity release: " ++ reason, 0, 0, 0, 0,
      r.digestsJson (owned.map ClaimRow.gpuIdentityDigest)⟩)
  r.commitAuthenticatedState db.databaseGeneration
    { db with claims := claims, recoveryEvents := events }

/-- The tokens left behind with their kinds, in the order of
`GROUP BY claim_token,claim_kind ORDER BY claim_token,claim_kind`. -/
def interruptedTokens (db : Database) : List (Text × ClaimKind) :=
  (db.claims.rows.filterMap fun row => row.claimToken.map fun token =>
    (token, row.claimKind)).dedup.insertionSort fun a b =>
      a.1 < b.1 ∨ (a.1 = b.1 ∧ a.2.value ≤ b.2.value)

/-- The row was inserted under the token, for the kind. -/
def ClaimRow.UnderToken (row : ClaimRow) (group : Text × ClaimKind) : Prop :=
  row.claimToken = some group.1 ∧ row.claimKind = group.2

instance (row : ClaimRow) (group : Text × ClaimKind) : Decidable (row.UnderToken group) :=
  inferInstanceAs (Decidable (_ ∧ _))

/-- A worker's claim is committed, a canary's reservation deleted. -/
def settleToken (claims : Table ClaimRow.gpuIdentityDigest) (group : Text × ClaimKind) :
    Table ClaimRow.gpuIdentityDigest :=
  match group.2 with
  | .workerAdmission => claims.update (fun row => row.UnderToken group)
      fun row => { row with claimToken := none }
  | .canaryReservation => claims.delete fun row => row.UnderToken group

/-- One round of the loop of `recover_interrupted`. -/
def recoverToken (db : Database) (claims : Table ClaimRow.gpuIdentityDigest)
    (group : Text × ClaimKind) : Except Failure (Table ClaimRow.gpuIdentityDigest) := do
  require ((claims.select fun row => row.UnderToken group).length =
      (db.claims.select fun row => row.UnderToken group).length)
    (configInvalid "GPU identity recovery mutation was incomplete")
  return settleToken claims group

/-- The identities under tokens of a kind. -/
def interruptedIdentities (db : Database) (kind : ClaimKind) : ℕ :=
  (db.claims.select fun row => row.claimToken ≠ none ∧ row.claimKind = kind).length

/-- The tokens of a kind. -/
def interruptedClaims (groups : List (Text × ClaimKind)) (kind : ClaimKind) : ℕ :=
  (groups.filter fun group => group.2 = kind).length

/-- The transaction of `recover_interrupted`, with the event identifier and the
time it draws. -/
def IdentityRegistry.recoverInterrupted (r : IdentityRegistry) (reason eventId recoveredAt : Text)
    (db : Database) : Except Failure Database := do
  require (isReason reason) (configInvalid "GPU identity recovery reason is invalid")
  let groups := interruptedTokens db
  require (groups ≠ []) (.gpuAttestationError "identity_recovery_not_required"
    "GPU identity registry has no interrupted admission")
  require (groups.map Prod.fst).Nodup (configInvalid "GPU identity recovery state is invalid")
  let digests ← groups.mapM fun group =>
    r.privateDigest "cathedral-gpu-recovery-token-v1\x00" group.1
  let claims ← groups.foldlM (recoverToken db) db.claims
  let _ ← demand .unicodeEncodeError reason.utf8
  let events ← demand .integrityError (db.recoveryEvents.insert
    ⟨eventId, recoveredAt, reason, interruptedClaims groups .workerAdmission,
      interruptedIdentities db .workerAdmission, interruptedClaims groups .canaryReservation,
      interruptedIdentities db .canaryReservation, r.digestsJson digests⟩)
  require (∀ row ∈ claims.rows, row.claimToken = none)
    (configInvalid "GPU identity recovery mutation was incomplete")
  r.commitAuthenticatedState db.databaseGeneration
    { db with claims := claims, recoveryEvents := events }

end Cathedral.Gpu
