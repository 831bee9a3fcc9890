import CathedralCompute.Codec.Timestamp
import CathedralCompute.Evidence

/-!
# Grants and envelopes of the key release

A grant freezes what was verified of a worker when a data key was assigned to it.
An envelope is the ciphertext a broker returns for a grant. Both check their
fields when they are built, so a value carries the proof that it passed. The
digests bind an envelope to the request it answers and the request to the grant.

The terms of a grant are the fields it is issued with. They are kept apart from
its state, its revision and its envelope, and the kind of time is a parameter:
a grant holds times and a stored row holds their texts.
-/

set_option autoImplicit false

namespace Cathedral.KeyRelease

open Codec Semantics

/-! ## Checks of fields -/

def grantSchema : Text := "cathedral_attestation_grant_v1"

def brokerRequestSchema : Text := "cathedral_key_broker_request_v1"

def envelopeSchema : Text := "cathedral_encrypted_data_key_v1"

def envelopeAlgorithm : Text := "x25519-hkdf-sha256-aes256gcm-v1"

/-- `_MAX_ENVELOPE_BYTES`. -/
def maxEnvelopeBytes : ℕ := 4096

/-- `_GRANT_ID_RE`. -/
def isGrantId (t : Text) : Bool := Text.isDigest "grant-" t

/-- `_ASSIGNMENT_ID_RE`. -/
def isAssignmentId (t : Text) : Bool := Text.isDigest "assignment-" t

/-- A character of a purpose that may also stand first. -/
def isPurposeHead (c : CodePoint) : Bool := Text.isDigit c || Text.inRange 'a' 'z' c

/-- `_PURPOSE_RE`. -/
def isPurpose : Text → Bool
  | [] => false
  | c :: rest => isPurposeHead c && rest.length ≤ 63 &&
      rest.all fun c => isPurposeHead c || c ∈ ([0x2e, 0x5f, 0x2d] : Text)

/-- `_require_digest`. -/
def requireDigest (value name : Text) : Except Failure Unit :=
  require (Text.isDigest "sha256:" value)
    (.keyReleaseError "invalid_grant" (name ++ " must be a SHA-256 digest"))

/-- `_require_text`, with its default bound. -/
def requireText (value name : Text) : Except Failure Unit :=
  require (1 ≤ value.length ∧ value.length ≤ 512 ∧ value = value.strip ∧
      ∀ c ∈ value, 0x20 ≤ c.val ∧ c.val ≠ 0x7f)
    (.keyReleaseError "invalid_assignment" (name ++ " is invalid"))

/-- `_require_positive_int`. -/
def requirePositiveInt (value : ℤ) (name : Text) (maximum : ℤ) : Except Failure Unit :=
  require (1 ≤ value ∧ value ≤ maximum) (.keyReleaseError "invalid_policy" (name ++ " is invalid"))

/-! ## Envelopes -/

structure EnvelopeFields where
  grantId : Text
  requestDigest : Text
  ephemeralPublicKeyB64 : Text
  nonceB64 : Text
  ciphertextB64 : Text
  algorithm : Text
deriving DecidableEq

/-- A field in canonical base64, of `minimum` to `maximum` octets. -/
def requireBase64 (name encoded : Text) (minimum maximum : ℕ) : Except Failure Unit := do
  let decoded ← demand (.keyReleaseError "invalid_envelope" (name ++ " is invalid"))
    (base64Decode encoded)
  require ((minimum ≤ decoded.length ∧ decoded.length ≤ maximum) ∧ base64 decoded = encoded)
    (.keyReleaseError "invalid_envelope" (name ++ " is invalid"))

/-- `EncryptedDataKeyEnvelope.__post_init__`. -/
def EnvelopeFields.check (e : EnvelopeFields) : Except Failure Unit := do
  require (isGrantId e.grantId)
    (.keyReleaseError "invalid_envelope" "envelope grant id is invalid")
  requireDigest e.requestDigest "broker request digest"
  require (e.algorithm = envelopeAlgorithm)
    (.keyReleaseError "invalid_envelope" "envelope algorithm is unsupported")
  requireBase64 "ephemeral public key" e.ephemeralPublicKeyB64 32 32
  requireBase64 "nonce" e.nonceB64 12 12
  requireBase64 "ciphertext" e.ciphertextB64 17 1024

/-- An envelope that passed its checks. -/
structure EncryptedDataKeyEnvelope extends EnvelopeFields where
  checked : toEnvelopeFields.check = .ok ()
deriving DecidableEq

/-- Build an envelope, or raise what its checks raise. -/
def makeEnvelope (fields : EnvelopeFields) : Except Failure EncryptedDataKeyEnvelope :=
  match checked : fields.check with
  | .ok () => .ok ⟨fields, checked⟩
  | .error failure => .error failure

namespace EncryptedDataKeyEnvelope

def document (e : EncryptedDataKeyEnvelope) : List (Text × Json) :=
  [("algorithm", .str e.algorithm), ("ciphertext_b64", .str e.ciphertextB64),
    ("ephemeral_public_key_b64", .str e.ephemeralPublicKeyB64), ("grant_id", .str e.grantId),
    ("nonce_b64", .str e.nonceB64), ("request_digest", .str e.requestDigest),
    ("schema", .str envelopeSchema)]

def canonicalBytes (p : Platform) (e : EncryptedDataKeyEnvelope) : Bytes := documentBytes p e.document

def digest (p : Platform) (e : EncryptedDataKeyEnvelope) : Text := sha256Digest (e.canonicalBytes p)

end EncryptedDataKeyEnvelope

/-! ## Grants -/

inductive GrantState where
  | issued
  | redeeming
  | redeemed
deriving DecidableEq

/-- What a grant is issued with. -/
structure GrantTerms (τ : Type) where
  grantId : Text
  assignmentId : Text
  issuerDigest : Text
  workerHotkey : Text
  manifestDigest : Text
  measurementDigest : Text
  evidenceDigest : Text
  attestationPolicyRelease : ℤ
  attestationPolicyDigest : Text
  verificationPolicyDigest : Text
  keyReleasePolicyDigest : Text
  workloadPolicyDigest : Text
  workerGeneration : ℤ
  workerRevision : ℤ
  workerEventId : ℤ
  channelKeyDigest : Text
  dataKeyReferenceDigest : Text
  purpose : Text
  issuedAt : τ
  expiresAt : τ
deriving DecidableEq

/-- The terms with other times. -/
def GrantTerms.withTimes {τ υ : Type} (terms : GrantTerms τ) (issuedAt expiresAt : υ) :
    GrantTerms υ :=
  { terms with issuedAt := issuedAt, expiresAt := expiresAt }

/-- The fields of a grant. -/
structure GrantFields extends GrantTerms Instant where
  state : GrantState
  revision : ℤ
  envelope : Option EncryptedDataKeyEnvelope
  redeemedAt : Option Instant
deriving DecidableEq

/-- `AttestationGrant.__post_init__`. -/
def GrantFields.check (g : GrantFields) : Except Failure Unit := do
  require (isGrantId g.grantId) (.keyReleaseError "invalid_grant" "grant id is invalid")
  require (isAssignmentId g.assignmentId)
    (.keyReleaseError "invalid_grant" "grant assignment id is invalid")
  requireDigest g.issuerDigest "issuer digest"
  requireDigest g.manifestDigest "manifest digest"
  requireDigest g.measurementDigest "measurement digest"
  requireDigest g.evidenceDigest "evidence digest"
  requireDigest g.attestationPolicyDigest "attestation policy digest"
  requireDigest g.verificationPolicyDigest "verification policy digest"
  requireDigest g.keyReleasePolicyDigest "key-release policy digest"
  requireDigest g.workloadPolicyDigest "workload policy digest"
  requireDigest g.channelKeyDigest "channel-key digest"
  requireDigest g.dataKeyReferenceDigest "data-key reference digest"
  requireText g.workerHotkey "grant worker"
  requirePositiveInt g.attestationPolicyRelease "attestation policy release" maxSqliteInteger
  requirePositiveInt g.workerGeneration "worker generation" maxSqliteInteger
  requirePositiveInt g.workerRevision "worker revision" maxSqliteInteger
  requirePositiveInt g.workerEventId "worker event id" maxSqliteInteger
  requirePositiveInt g.revision "grant revision" maxSqliteInteger
  require (isPurpose g.purpose) (.keyReleaseError "invalid_grant" "grant purpose is invalid")
  require (g.issuedAt < g.expiresAt)
    (.keyReleaseError "invalid_grant" "grant validity is invalid")
  require (g.envelope = none ↔ g.state ≠ .redeemed)
    (.keyReleaseError "invalid_grant" "grant envelope state is invalid")
  require (g.redeemedAt = none ↔ g.state ≠ .redeemed)
    (.keyReleaseError "invalid_grant" "grant redemption time is invalid")
  require (∀ envelope ∈ g.envelope, envelope.grantId = g.grantId)
    (.keyReleaseError "invalid_grant" "grant envelope binding is invalid")

/-- A grant that passed its checks. -/
structure AttestationGrant extends GrantFields where
  checked : toGrantFields.check = .ok ()
deriving DecidableEq

/-- Build a grant, or raise what its checks raise. -/
def makeGrant (fields : GrantFields) : Except Failure AttestationGrant :=
  match checked : fields.check with
  | .ok () => .ok ⟨fields, checked⟩
  | .error failure => .error failure

theorem makeGrant_eq_ok {fields : GrantFields} {grant : AttestationGrant} :
    makeGrant fields = .ok grant ↔ grant.toGrantFields = fields := by
  unfold makeGrant
  split
  case h_1 checked =>
    constructor
    · rintro ⟨⟩
      rfl
    · rintro rfl
      rfl
  case h_2 failure refused =>
    constructor
    · intro made
      cases made
    · rintro rfl
      rw [grant.checked] at refused
      cases refused

theorem makeEnvelope_eq_ok {fields : EnvelopeFields} {envelope : EncryptedDataKeyEnvelope} :
    makeEnvelope fields = .ok envelope ↔ envelope.toEnvelopeFields = fields := by
  unfold makeEnvelope
  split
  case h_1 checked =>
    constructor
    · rintro ⟨⟩
      rfl
    · rintro rfl
      rfl
  case h_2 failure refused =>
    constructor
    · intro made
      cases made
    · rintro rfl
      rw [envelope.checked] at refused
      cases refused

namespace GrantTerms

/-- `AttestationGrant.binding_document`. -/
def bindingDocument (g : GrantTerms Instant) : List (Text × Json) :=
  [("assignment_id", .str g.assignmentId),
    ("attestation_policy_digest", .str g.attestationPolicyDigest),
    ("attestation_policy_release", .int g.attestationPolicyRelease),
    ("channel_key_digest", .str g.channelKeyDigest),
    ("data_key_reference_digest", .str g.dataKeyReferenceDigest),
    ("evidence_digest", .str g.evidenceDigest),
    ("expires_at", .str g.expiresAt.canonicalUtc),
    ("grant_id", .str g.grantId),
    ("issued_at", .str g.issuedAt.canonicalUtc),
    ("issuer_digest", .str g.issuerDigest),
    ("key_release_policy_digest", .str g.keyReleasePolicyDigest),
    ("manifest_digest", .str g.manifestDigest),
    ("measurement_digest", .str g.measurementDigest),
    ("purpose", .str g.purpose),
    ("schema", .str grantSchema),
    ("worker_event_id", .int g.workerEventId),
    ("worker_generation", .int g.workerGeneration),
    ("worker_hotkey", .str g.workerHotkey),
    ("worker_revision", .int g.workerRevision),
    ("verification_policy_digest", .str g.verificationPolicyDigest),
    ("workload_policy_digest", .str g.workloadPolicyDigest)]

/-- `AttestationGrant.binding_digest`. -/
def bindingDigest (p : Platform) (g : GrantTerms Instant) : Text :=
  sha256Digest (documentBytes p g.bindingDocument)

/-- `AttestationGrant.expected_broker_request_digest`. -/
def expectedBrokerRequestDigest (p : Platform) (g : GrantTerms Instant) : Text :=
  sha256Digest (documentBytes p
    [("channel_key_digest", .str g.channelKeyDigest),
      ("evidence_digest", .str g.evidenceDigest),
      ("grant_digest", .str (g.bindingDigest p)),
      ("grant_id", .str g.grantId),
      ("key_reference_digest", .str g.dataKeyReferenceDigest),
      ("manifest_digest", .str g.manifestDigest),
      ("purpose", .str g.purpose),
      ("schema", .str brokerRequestSchema)])

end GrantTerms

/-! ## Requests to the broker -/

structure RequestFields where
  grantId : Text
  keyReference : Text
  keyReferenceDigest : Text
  applicationPublicKey : Bytes
  channelKeyDigest : Text
  manifestDigest : Text
  evidenceDigest : Text
  grantDigest : Text
  purpose : Text

/-- `_x25519_public_key`. The curve is a parameter: it says which 32 octets are
the public key of a group large enough for an exchange. -/
def x25519PublicKey (usable : Bytes → Bool) (value : Bytes) : Except Failure Unit := do
  require (value.length = 32)
    (.keyReleaseError "channel_denied" "application public key must be 32 bytes")
  require (usable value)
    (.keyReleaseError "channel_denied" "application public key is invalid")

/-- `BrokerRedemptionRequest.__post_init__`. -/
def RequestFields.check (usable : Bytes → Bool) (r : RequestFields) : Except Failure Unit := do
  require (isGrantId r.grantId)
    (.keyReleaseError "invalid_broker_request" "broker grant id is invalid")
  requireText r.keyReference "broker key reference"
  requireDigest r.keyReferenceDigest "broker key-reference digest"
  (x25519PublicKey usable r.applicationPublicKey).mapError fun _ =>
    .keyReleaseError "invalid_broker_request" "application public key is invalid"
  requireDigest r.channelKeyDigest "channel-key digest"
  requireDigest r.manifestDigest "manifest digest"
  requireDigest r.evidenceDigest "evidence digest"
  requireDigest r.grantDigest "grant digest"
  require (isPurpose r.purpose)
    (.keyReleaseError "invalid_broker_request" "broker purpose is invalid")

/-- A request that passed its checks. -/
structure BrokerRedemptionRequest (usable : Bytes → Bool) extends RequestFields where
  checked : toRequestFields.check usable = .ok ()

namespace RequestFields

def document (r : RequestFields) : List (Text × Json) :=
  [("channel_key_digest", .str r.channelKeyDigest), ("evidence_digest", .str r.evidenceDigest),
    ("grant_id", .str r.grantId), ("grant_digest", .str r.grantDigest),
    ("key_reference_digest", .str r.keyReferenceDigest),
    ("manifest_digest", .str r.manifestDigest), ("purpose", .str r.purpose),
    ("schema", .str brokerRequestSchema)]

/-- `BrokerRedemptionRequest.digest`. -/
def digest (p : Platform) (r : RequestFields) : Text := sha256Digest (documentBytes p r.document)

end RequestFields

/-- The request that `redeem` makes of a grant, of the key reference of the
assignment and of the presented key. -/
def GrantTerms.requestFields (p : Platform) (g : GrantTerms Instant) (keyReference : Text)
    (applicationPublicKey : Bytes) : RequestFields where
  grantId := g.grantId
  keyReference := keyReference
  keyReferenceDigest := g.dataKeyReferenceDigest
  applicationPublicKey := applicationPublicKey
  channelKeyDigest := g.channelKeyDigest
  manifestDigest := g.manifestDigest
  evidenceDigest := g.evidenceDigest
  grantDigest := g.bindingDigest p
  purpose := g.purpose

/-- The request is built from the grant alone: neither the key reference nor the
presented key enters its digest. -/
theorem GrantTerms.digest_requestFields (p : Platform) (g : GrantTerms Instant)
    (keyReference : Text) (applicationPublicKey : Bytes) :
    (g.requestFields p keyReference applicationPublicKey).digest p =
      g.expectedBrokerRequestDigest p := by
  have distinct : ((g.requestFields p keyReference applicationPublicKey).document.map
      Prod.fst).Nodup := by
    simp only [RequestFields.document, List.map]
    decide
  unfold RequestFields.digest expectedBrokerRequestDigest documentBytes
  rw [Json.sortKeys_obj_perm distinct (.cons _ (.cons _ (.swap _ _ _)))]
  rfl

end Cathedral.KeyRelease
