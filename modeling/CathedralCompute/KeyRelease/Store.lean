import CathedralCompute.KeyRelease.Grants
import CathedralCompute.Semantics.Table

/-!
# The grant store

The two tables of the key-release database and the three transactions that write
them. A grant is stored as columns: its times as texts, its envelope as JSON next
to a digest. Every transaction reads the row it wrote before it commits, and
reading checks everything again, so a row that could not be read back is never
committed.
-/

set_option autoImplicit false

namespace Cathedral.KeyRelease

open Codec Semantics

/-! ## Rows -/

/-- A row of `key_release_grants`. -/
structure GrantRow where
  terms : GrantTerms Text
  state : GrantState
  revision : ℤ
  envelopeJson : Option Bytes
  envelopeDigest : Option Text
  redeemedAt : Option Text
deriving DecidableEq

def GrantRow.grantId (row : GrantRow) : Text := row.terms.grantId

/-- A row of `key_release_events`. -/
structure EventRow where
  eventId : ℕ
  grantId : Text
  revision : ℤ
  fromState : Option GrantState
  toState : GrantState
  reason : Text
  occurredAt : Text
deriving DecidableEq

/-- The database. `eventSequence` is the last event id handed out; triggers keep
the events from being changed or dropped. -/
structure Store where
  grants : Table GrantRow.grantId
  eventSequence : ℕ
  events : List EventRow

/-- A freshly created database. -/
def Store.initial : Store := ⟨.empty, 0, []⟩

/-! ## Reading -/

/-- What the reader raises for a row it cannot make a grant of. -/
def grantInvalid : Failure := .keyReleaseError "store_corrupt" "persisted grant is invalid"

/-- What the reader raises for an envelope it cannot read. -/
def envelopeInvalid : Failure :=
  .keyReleaseError "store_corrupt" "persisted key envelope is invalid"

/-- The keys of a stored envelope. -/
def envelopeKeys : List Text :=
  [Text.ofString "algorithm", "ciphertext_b64", "ephemeral_public_key_b64", "grant_id", "nonce_b64",
    "request_digest", "schema"]

/-- A text member of a stored envelope. -/
def envelopeText (members : List (Text × Json)) (key : Text) : Except Failure Text :=
  demand envelopeInvalid (textOfJson (field members key))

/-- `_envelope` of octets. -/
def envelopeOfOctets (p : Platform) (raw : Bytes) : Except Failure EncryptedDataKeyEnvelope := do
  require (raw ≠ [] ∧ raw.length ≤ maxEnvelopeBytes) envelopeInvalid
  let document ← demand envelopeInvalid (loadsBytes (defaultHooks p) p.decodeWide raw)
  let members ← demand envelopeInvalid (membersOfJson document)
  require (hasExactly envelopeKeys members ∧
      Json.equalsText envelopeSchema (Json.lookup "schema" members)) envelopeInvalid
  let written ← demand grantInvalid (canonicalJson p document)
  require (written = raw) envelopeInvalid
  let grantId ← envelopeText members "grant_id"
  let requestDigest ← envelopeText members "request_digest"
  let ephemeralPublicKeyB64 ← envelopeText members "ephemeral_public_key_b64"
  let nonceB64 ← envelopeText members "nonce_b64"
  let ciphertextB64 ← envelopeText members "ciphertext_b64"
  let algorithm ← envelopeText members "algorithm"
  (makeEnvelope ⟨grantId, requestDigest, ephemeralPublicKeyB64, nonceB64, ciphertextB64,
    algorithm⟩).mapError fun _ => envelopeInvalid

/-- A column that may be null. -/
def readOptional {α β : Type} (read : α → Except Failure β) : Option α → Except Failure (Option β)
  | none => .ok none
  | some value => (read value).map some

/-- A time column. -/
def readTime (t : Text) : Except Failure Instant := demand grantInvalid (Instant.parseUtc t)

/-- `KeyReleaseStore._grant`. -/
def readGrant (p : Platform) (row : GrantRow) : Except Failure AttestationGrant := do
  let envelope ← readOptional (envelopeOfOctets p) row.envelopeJson
  let issuedAt ← readTime row.terms.issuedAt
  let expiresAt ← readTime row.terms.expiresAt
  let redeemedAt ← readOptional readTime row.redeemedAt
  let grant ← makeGrant {
    toGrantTerms := row.terms.withTimes issuedAt expiresAt
    state := row.state
    revision := row.revision
    envelope := envelope
    redeemedAt := redeemedAt }
  require (envelope.map (EncryptedDataKeyEnvelope.digest p) = row.envelopeDigest)
    (.keyReleaseError "store_corrupt" "persisted envelope digest is invalid")
  require (∀ e ∈ envelope, e.requestDigest = grant.expectedBrokerRequestDigest p)
    (.keyReleaseError "store_corrupt" "persisted envelope grant binding is invalid")
  return grant

/-- The row of a grant, read inside a transaction. -/
def selectGrant (s : Store) (grantId : Text) : Except Failure GrantRow := do
  storable [grantId]
  demand (.keyReleaseError "grant_not_found" "grant does not exist") (s.grants.find? grantId)

/-- `KeyReleaseStore.get`. -/
def Store.get (p : Platform) (grantId : Text) (s : Store) : Except Failure AttestationGrant := do
  require (isGrantId grantId) (.keyReleaseError "invalid_grant" "grant id is invalid")
  let row ← selectGrant s grantId
  readGrant p row

/-! ## Writing -/

/-- `INSERT INTO key_release_events`. -/
def insertEvent (event : ℕ → EventRow) (s : Store) : Except Failure Store := do
  let row := event (s.eventSequence + 1)
  require (∀ other ∈ s.events, ¬ (other.grantId = row.grantId ∧ other.revision = row.revision))
    .integrityError
  return { s with eventSequence := s.eventSequence + 1, events := s.events ++ [row] }

/-- The row of a grant that was just written. -/
def readBack (p : Platform) (grantId : Text) (s : Store) :
    Except Failure (AttestationGrant × Store) := do
  let row ← selectGrant s grantId
  let grant ← readGrant p row
  return (grant, s)

/-- The columns of a new grant. -/
def issuedRow (candidate : AttestationGrant) : GrantRow where
  terms := candidate.withTimes candidate.issuedAt.canonicalUtc candidate.expiresAt.canonicalUtc
  state := .issued
  revision := 1
  envelopeJson := none
  envelopeDigest := none
  redeemedAt := none

/-- `INSERT INTO key_release_grants`. Of the texts, only the hotkey may hold what
the database cannot. -/
def insertGrant (row : GrantRow) (s : Store) : Except Failure Store := do
  storable [row.terms.workerHotkey]
  require (∀ other ∈ s.grants.rows, other.terms.assignmentId ≠ row.terms.assignmentId)
    .integrityError
  let grants ← demand .integrityError (s.grants.insert row)
  return { s with grants := grants }

/-- The grant an assignment already has, for a candidate with the same terms. -/
def existingGrant (p : Platform) (candidate : AttestationGrant) (row : GrantRow) (s : Store) :
    Except Failure (AttestationGrant × Store) := do
  let current ← readGrant p row
  require ({ current.toGrantTerms with grantId := [] } =
      { candidate.toGrantTerms with grantId := [] })
    (.keyReleaseError "grant_conflict" "assignment already has a differently bound grant")
  return (current, s)

/-- The first grant of an assignment. -/
def createGrant (p : Platform) (candidate : AttestationGrant) (s : Store) :
    Except Failure (AttestationGrant × Store) := do
  let s ← insertGrant (issuedRow candidate) s
  let s ← insertEvent (fun eventId => {
    eventId := eventId
    grantId := candidate.grantId
    revision := 1
    fromState := none
    toState := .issued
    reason := "grant_issued"
    occurredAt := candidate.issuedAt.canonicalUtc }) s
  readBack p candidate.grantId s

/-- `KeyReleaseStore.create_or_get`. -/
def createOrGet (p : Platform) (candidate : AttestationGrant) (s : Store) :
    Except Failure (AttestationGrant × Store) := do
  require (candidate.state = .issued)
    (.keyReleaseError "invalid_grant" "new grant must be issued")
  match s.grants.rows.find? fun row => row.terms.assignmentId = candidate.assignmentId with
  | some row => existingGrant p candidate row s
  | none => createGrant p candidate s

/-- The row that a compare-and-set statement meets. -/
def GrantRow.Holds (row : GrantRow) (grantId : Text) (state : GrantState) (revision : ℤ) : Prop :=
  row.grantId = grantId ∧ row.state = state ∧ row.revision = revision

instance (row : GrantRow) (grantId : Text) (state : GrantState) (revision : ℤ) :
    Decidable (row.Holds grantId state revision) :=
  inferInstanceAs (Decidable (_ ∧ _))

/-- `cursor.rowcount` of a compare-and-set statement. -/
def rowcount (s : Store) (grantId : Text) (state : GrantState) (revision : ℤ) : ℕ :=
  (s.grants.select fun row => row.Holds grantId state revision).length

/-- `UPDATE key_release_grants SET state='redeeming', revision=?`. -/
def setRedeeming (grantId : Text) (revision : ℤ) (s : Store) : Store :=
  { s with
    grants := s.grants.update (fun row => row.Holds grantId .issued revision)
      fun row => { row with state := .redeeming, revision := revision + 1 } }

/-- The first redemption of an issued grant. -/
def startRedemption (p : Platform) (grantId : Text) (current : AttestationGrant) (when : Instant)
    (s : Store) : Except Failure (AttestationGrant × Store) := do
  require (rowcount s grantId .issued current.revision = 1)
    (.keyReleaseError "grant_conflict" "grant redemption raced another writer")
  let s ← insertEvent (fun eventId => {
    eventId := eventId
    grantId := grantId
    revision := current.revision + 1
    fromState := some .issued
    toState := .redeeming
    reason := "redemption_started"
    occurredAt := when.canonicalUtc }) (setRedeeming grantId current.revision s)
  readBack p grantId s

/-- `KeyReleaseStore.begin_redemption`. -/
def beginRedemption (p : Platform) (grantId : Text) (when : Instant) (s : Store) :
    Except Failure (AttestationGrant × Store) := do
  let row ← selectGrant s grantId
  let current ← readGrant p row
  require (when < current.expiresAt) (.keyReleaseError "grant_expired" "grant is expired")
  if current.state ≠ .issued then return (current, s)
  else startRedemption p grantId current when s

/-- `UPDATE key_release_grants SET state='redeemed', ...`. -/
def setRedeemed (p : Platform) (grantId : Text) (revision : ℤ)
    (envelope : EncryptedDataKeyEnvelope) (when : Instant) (s : Store) : Store :=
  { s with
    grants := s.grants.update (fun row => row.Holds grantId .redeeming revision)
      fun row => { row with
        state := .redeemed
        revision := revision + 1
        envelopeJson := some (envelope.canonicalBytes p)
        envelopeDigest := some (envelope.digest p)
        redeemedAt := some when.canonicalUtc } }

/-- The answer for a grant that was redeemed before. -/
def sameCiphertext (p : Platform) (current : AttestationGrant)
    (envelope : EncryptedDataKeyEnvelope) (message : Text) (s : Store) :
    Except Failure (AttestationGrant × Store) := do
  require (current.envelope.map (EncryptedDataKeyEnvelope.digest p) = some (envelope.digest p))
    (.keyReleaseError "grant_conflict" message)
  return (current, s)

/-- The branch for a row that another writer took in the meantime. -/
def lostRace (p : Platform) (grantId : Text) (envelope : EncryptedDataKeyEnvelope) (s : Store) :
    Except Failure (AttestationGrant × Store) := do
  let winner ← demand
    (.keyReleaseError "grant_conflict" "grant disappeared during redemption")
    (s.grants.find? grantId)
  let persisted ← readGrant p winner
  sameCiphertext p persisted envelope "concurrent broker ciphertext differs" s

/-- The ciphertext of a grant that is being redeemed. -/
def storeCiphertext (p : Platform) (grantId : Text) (current : AttestationGrant)
    (envelope : EncryptedDataKeyEnvelope) (when : Instant) (s : Store) :
    Except Failure (AttestationGrant × Store) := do
  require (current.state = .redeeming)
    (.keyReleaseError "grant_conflict" "grant is not redeeming")
  require (envelope.grantId = grantId)
    (.keyReleaseError "invalid_envelope" "broker envelope grant is mismatched")
  require ((envelope.canonicalBytes p).length ≤ maxEnvelopeBytes)
    (.keyReleaseError "invalid_envelope" "broker envelope exceeds its bound")
  if rowcount s grantId .redeeming current.revision ≠ 1 then lostRace p grantId envelope s
  else do
    let s ← insertEvent (fun eventId => {
      eventId := eventId
      grantId := grantId
      revision := current.revision + 1
      fromState := some .redeeming
      toState := .redeemed
      reason := "ciphertext_persisted"
      occurredAt := when.canonicalUtc }) (setRedeemed p grantId current.revision envelope when s)
    readBack p grantId s

/-- `KeyReleaseStore.persist_redemption`. -/
def persistRedemption (p : Platform) (grantId : Text) (envelope : EncryptedDataKeyEnvelope)
    (when : Instant) (s : Store) : Except Failure (AttestationGrant × Store) := do
  let row ← selectGrant s grantId
  let current ← readGrant p row
  require (when < current.expiresAt)
    (.keyReleaseError "grant_expired" "grant expired before persistence")
  if current.state = .redeemed then
    sameCiphertext p current envelope "broker returned different ciphertext for a grant" s
  else storeCiphertext p grantId current envelope when s

/-! ## Runs -/

/-- A transaction of the store, with its arguments. -/
inductive Op where
  | createOrGet (candidate : AttestationGrant)
  | beginRedemption (grantId : Text) (when : Instant)
  | persistRedemption (grantId : Text) (envelope : EncryptedDataKeyEnvelope) (when : Instant)

/-- The grant a transaction returns and the database it commits, or the exception
it raises. -/
def Op.commit (p : Platform) (s : Store) : Op → Except Failure (AttestationGrant × Store)
  | createOrGet candidate => KeyRelease.createOrGet p candidate s
  | beginRedemption grantId when => KeyRelease.beginRedemption p grantId when s
  | persistRedemption grantId envelope when => KeyRelease.persistRedemption p grantId envelope when s

/-- The database after a transaction, committed or rolled back. -/
def step (p : Platform) (s : Store) (op : Op) : Store := settle s ((op.commit p s).map Prod.snd)

/-- The database after the transactions of any processes, in the order in which
they took the lock. -/
abbrev runOps (p : Platform) (s : Store) (ops : List Op) : Store := run (step p) s ops

end Cathedral.KeyRelease
