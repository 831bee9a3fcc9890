import CathedralCompute.Codec.Timestamp
import CathedralCompute.Provider.Canonical

/-!
# Records of the provider contract

Each record is its fields with a proof that they pass the record's own check, so a record
that violates the contract cannot be built. A record turns into one document, and a
document is read field by field before the check runs.

## Main definitions

* `build` — a record from fields that pass their check
* `toDocument`, `fromDocument` — the two directions of each record
-/

set_option autoImplicit false

namespace Cathedral.Provider

open Codec Semantics

/-! ## Field checks -/

/-- A value that needs a proof of its own check. -/
def build {α : Type} : (check : Checked Unit) → (check = .ok () → α) → Checked α
  | .ok (), make => .ok (make rfl)
  | .error error, _ => .error error

theorem build_eq_ok {α : Type} {check : Checked Unit} {make : check = .ok () → α} {a : α} :
    build check make = .ok a ↔ ∃ passed, make passed = a := by
  match check, make with
  | .ok (), make =>
    rw [build, Except.ok.injEq]
    exact ⟨fun same => ⟨rfl, same⟩, fun ⟨_, same⟩ => same⟩
  | .error error, make =>
    constructor
    · intro wrong
      cases wrong
    · rintro ⟨passed, -⟩
      cases passed

/-- `_ID_RE`: a letter or digit and up to 127 letters, digits, points, low lines, colons
and hyphens. -/
def isId : Text → Bool
  | [] => false
  | c :: rest =>
    Text.isAlphanumeric c && rest.length ≤ 127 &&
      rest.all fun c => Text.isAlphanumeric c || c ∈ ([0x2e, 0x5f, 0x3a, 0x2d] : Text)

/-- `_HOTKEY_RE`: 32 to 128 base58 letters. -/
def isHotkey (t : Text) : Bool :=
  32 ≤ t.length && t.length ≤ 128 &&
    t.all fun c => Text.inRange '1' '9' c || Text.inRange 'A' 'H' c || Text.inRange 'J' 'N' c ||
      Text.inRange 'P' 'Z' c || Text.inRange 'a' 'k' c || Text.inRange 'm' 'z' c

/-- `_NONCE_RE`. -/
def isNonce (t : Text) : Bool := Text.isHex 64 t

def boundedText (value : Json) (label : Text) (pattern : Text → Bool := isId) : Checked Text := do
  let t ← demand (invalid (label ++ Text.ofString " is invalid")) (textOfJson value)
  require (pattern t = true) (invalid (label ++ Text.ofString " is invalid"))
  return t

def digestText (value : Json) (label : Text) : Checked Text := do
  let t ← demand (invalid (label ++ Text.ofString " must be a lowercase sha256 digest"))
    (textOfJson value)
  require (Text.isDigest "sha256:" t = true)
    (invalid (label ++ Text.ofString " must be a lowercase sha256 digest"))
  return t

def maxMoneyMicros : ℤ := 2 ^ 63 - 1

def moneyMicros (value : Json) (label : Text) : Checked ℤ := do
  let z ← demand (invalid (label ++ Text.ofString " must be bounded non-negative integer micros"))
    (intOfJson value)
  require (0 ≤ z ∧ z ≤ maxMoneyMicros)
    (invalid (label ++ Text.ofString " must be bounded non-negative integer micros"))
  return z

/-- The times a UTC `datetime` can hold: the years 1 to 9999. -/
abbrev Utc := Fin (3652059 * 86400000000)

instance neZero_utc : NeZero (3652059 * 86400000000) := ⟨by decide⟩

def canonicalUtc (t : Utc) : Text := Instant.canonicalUtc t.val

/-- A UTC time from an instant in its range. -/
def utcOfInstant (t : Instant) : Option Utc := if h : t < _ then some ⟨t, h⟩ else none

def parseUtc (value : Json) (label : Text) : Checked Utc := do
  let t ← demand (invalid (label ++ Text.ofString " must be canonical UTC time")) (textOfJson value)
  let parsed ← demand (invalid (label ++ Text.ofString " must be canonical UTC time"))
    ((Instant.parseUtc t).bind utcOfInstant)
  require (canonicalUtc parsed = t) (invalid (label ++ Text.ofString " must be canonical UTC time"))
  return parsed

/-- An enumeration of texts. -/
class Enumerated (α : Type) where
  all : List α
  value : α → Text
  complete : ∀ a, a ∈ all
  injective : ∀ a ∈ all, ∀ b ∈ all, value a = value b → a = b

/-- The member of an enumeration with the value. -/
def enumOf {α : Type} [Enumerated α] (value : Json) (label : Text) : Checked α :=
  demand (invalid (label ++ Text.ofString " is invalid"))
    ((textOfJson value).bind fun t => Enumerated.all.find? fun a => Enumerated.value a = t)

/-- An integer that is no boolean. -/
def integerOf (value : Json) (label : Text) : Checked ℤ :=
  demand (invalid (label ++ Text.ofString " must be an integer")) (intOfJson value)

/-- `None` or what the field reader reads. -/
def optionalOf {α : Type} (read : Json → Checked α) : Json → Checked (Option α)
  | .null => .ok none
  | value => (read value).map some

/-- A check of what there is. -/
def checkOptional {α : Type} (check : α → Checked Unit) : Option α → Checked Unit
  | none => .ok ()
  | some a => check a

def optionalJson {α : Type} (write : α → Json) : Option α → Json
  | none => .null
  | some a => write a

def requireKeys (document : Json) (schema : Text) (keys : List Text) (label : Text) :
    Checked (List (Text × Json)) := do
  let members ← demand (invalid (label ++ Text.ofString " must be an object with string keys"))
    (membersOfJson document)
  require (hasExactly keys members = true)
    (invalid (label ++ Text.ofString " has missing or unknown fields"))
  require (Json.equalsText schema (Json.lookup "schema" members) = true)
    (invalid (label ++ Text.ofString " schema is unsupported"))
  return members

/-! ## Providers -/

inductive ProviderIdentityKind where
  | cathedralSeed
  | subnetHotkey
  deriving DecidableEq

instance : Enumerated ProviderIdentityKind where
  all := [.cathedralSeed, .subnetHotkey]
  value
    | .cathedralSeed => "cathedral_seed"
    | .subnetHotkey => "subnet_hotkey"
  complete a := by cases a <;> decide
  injective := by decide

def ProviderIdentityKind.hotkeyError : ProviderIdentityKind → ContractError
  | cathedralSeed => invalid "a Cathedral seed must not claim a subnet hotkey"
  | subnetHotkey => invalid "a subnet provider_id must be its bound canonical subnet hotkey"

structure ProviderIdentityFields where
  kind : ProviderIdentityKind
  providerId : Text
  subnetHotkey : Option Text
  deriving DecidableEq

/-- A seed claims no hotkey; a subnet provider is its hotkey. -/
def ProviderIdentityFields.hotkeyFits (self : ProviderIdentityFields) : Bool :=
  match self.kind with
  | .cathedralSeed => self.subnetHotkey.isNone
  | .subnetHotkey => self.subnetHotkey.any fun hotkey => isHotkey hotkey && self.providerId == hotkey

def ProviderIdentityFields.check (self : ProviderIdentityFields) : Checked Unit := do
  let _ ← boundedText (.str self.providerId) "provider_id"
  require (self.hotkeyFits = true) self.kind.hotkeyError

/-- A provider, without an assumption on its infrastructure. -/
structure ProviderIdentity extends ProviderIdentityFields where
  valid : toProviderIdentityFields.check = .ok ()
  deriving DecidableEq

def providerIdentitySchema : Text := "cathedral_provider_identity_v1"

def ProviderIdentity.members (self : ProviderIdentity) : List (Text × Json) := [
  ("schema", .str providerIdentitySchema),
  ("kind", .str (Enumerated.value self.kind)),
  ("provider_id", .str self.providerId),
  ("subnet_hotkey", optionalJson .str self.subnetHotkey)]

def ProviderIdentity.toDocument (self : ProviderIdentity) : Json := .obj self.members

def ProviderIdentity.fromDocument (document : Json) : Checked ProviderIdentity := do
  let value ← requireKeys document providerIdentitySchema
    ["schema", "kind", "provider_id", "subnet_hotkey"] "provider identity"
  let kind : ProviderIdentityKind ← enumOf (field value "kind") "provider identity kind"
  let providerId ← boundedText (field value "provider_id") "provider_id"
  let subnetHotkey ← optionalOf (fun value => demand kind.hotkeyError (textOfJson value))
    (field value "subnet_hotkey")
  let fields : ProviderIdentityFields := { kind, providerId, subnetHotkey }
  build fields.check fun valid => { fields with valid }

/-! ## Assignments -/

structure AttemptAssignmentFields where
  attemptId : Text
  provider : ProviderIdentity
  slotId : Text
  providerNonce : Text
  workloadManifestDigest : Text
  policyDigest : Text
  imageDigest : Text
  deriving DecidableEq

def AttemptAssignmentFields.check (self : AttemptAssignmentFields) : Checked Unit := do
  let _ ← boundedText (.str self.attemptId) "attempt_id"
  let _ ← boundedText (.str self.slotId) "slot_id"
  let _ ← boundedText (.str self.providerNonce) "provider_nonce" isNonce
  let _ ← digestText (.str self.workloadManifestDigest) "workload_manifest_digest"
  let _ ← digestText (.str self.policyDigest) "policy_digest"
  let _ ← digestText (.str self.imageDigest) "image_digest"
  return ()

/-- What a provider sees of one attempt. -/
structure AttemptAssignment extends AttemptAssignmentFields where
  valid : toAttemptAssignmentFields.check = .ok ()
  deriving DecidableEq

def attemptAssignmentSchema : Text := "cathedral_attempt_assignment_v1"

def AttemptAssignment.members (self : AttemptAssignment) : List (Text × Json) := [
  ("schema", .str attemptAssignmentSchema),
  ("attempt_id", .str self.attemptId),
  ("provider", self.provider.toDocument),
  ("slot_id", .str self.slotId),
  ("provider_nonce", .str self.providerNonce),
  ("workload_manifest_digest", .str self.workloadManifestDigest),
  ("policy_digest", .str self.policyDigest),
  ("image_digest", .str self.imageDigest)]

def AttemptAssignment.toDocument (self : AttemptAssignment) : Json := .obj self.members

def AttemptAssignment.fromDocument (document : Json) : Checked AttemptAssignment := do
  let value ← requireKeys document attemptAssignmentSchema
    ["schema", "attempt_id", "provider", "slot_id", "provider_nonce", "workload_manifest_digest",
      "policy_digest", "image_digest"] "attempt assignment"
  let attemptId ← boundedText (field value "attempt_id") "attempt_id"
  let provider ← ProviderIdentity.fromDocument (field value "provider")
  let slotId ← boundedText (field value "slot_id") "slot_id"
  let providerNonce ← boundedText (field value "provider_nonce") "provider_nonce" isNonce
  let workloadManifestDigest ← digestText (field value "workload_manifest_digest")
    "workload_manifest_digest"
  let policyDigest ← digestText (field value "policy_digest") "policy_digest"
  let imageDigest ← digestText (field value "image_digest") "image_digest"
  let fields : AttemptAssignmentFields := {
    attemptId, provider, slotId, providerNonce, workloadManifestDigest, policyDigest, imageDigest }
  build fields.check fun valid => { fields with valid }

def AttemptAssignment.digest (self : AttemptAssignment) : Checked Text :=
  canonicalSha256 1 self.toDocument

/-! ## Permits -/

structure AssignmentPermitFields where
  assignmentDigest : Text
  sequence : ℤ
  issuedAt : Utc
  expiresAt : Utc
  keyId : Text
  authorizationDigest : Text
  deriving DecidableEq

def AssignmentPermitFields.check (self : AssignmentPermitFields) : Checked Unit := do
  let _ ← digestText (.str self.assignmentDigest) "assignment_digest"
  require (1 ≤ self.sequence) (invalid "permit sequence must be a positive integer")
  require (self.issuedAt < self.expiresAt) (invalid "permit expiry must be later than issuance")
  let _ ← boundedText (.str self.keyId) "key_id"
  let _ ← digestText (.str self.authorizationDigest) "authorization_digest"
  return ()

/-- A short-lived authorization of one assignment. -/
structure AssignmentPermit extends AssignmentPermitFields where
  valid : toAssignmentPermitFields.check = .ok ()
  deriving DecidableEq

def assignmentPermitSchema : Text := "cathedral_assignment_permit_v1"

def AssignmentPermit.members (self : AssignmentPermit) : List (Text × Json) := [
  ("schema", .str assignmentPermitSchema),
  ("assignment_digest", .str self.assignmentDigest),
  ("sequence", .int self.sequence),
  ("issued_at", .str (canonicalUtc self.issuedAt)),
  ("expires_at", .str (canonicalUtc self.expiresAt)),
  ("key_id", .str self.keyId),
  ("authorization_digest", .str self.authorizationDigest)]

def AssignmentPermit.toDocument (self : AssignmentPermit) : Json := .obj self.members

def AssignmentPermit.fromDocument (document : Json) : Checked AssignmentPermit := do
  let value ← requireKeys document assignmentPermitSchema
    ["schema", "assignment_digest", "sequence", "issued_at", "expires_at", "key_id",
      "authorization_digest"] "assignment permit"
  let sequence ← integerOf (field value "sequence") "permit sequence"
  let assignmentDigest ← digestText (field value "assignment_digest") "assignment_digest"
  let issuedAt ← parseUtc (field value "issued_at") "issued_at"
  let expiresAt ← parseUtc (field value "expires_at") "expires_at"
  let keyId ← boundedText (field value "key_id") "key_id"
  let authorizationDigest ← digestText (field value "authorization_digest") "authorization_digest"
  let fields : AssignmentPermitFields := {
    assignmentDigest, sequence, issuedAt, expiresAt, keyId, authorizationDigest }
  build fields.check fun valid => { fields with valid }

/-- The permit authorizes the assignment at a time. -/
def validateAssignmentPermit (assignment : AttemptAssignment) (permit : AssignmentPermit)
    (observedAt : Utc) : Checked Unit := do
  let digest ← assignment.digest
  require (permit.assignmentDigest = digest)
    ⟨"permit authorizes a different assignment", .permitAssignmentMismatch⟩
  require (permit.issuedAt ≤ observedAt) ⟨"permit is not yet valid", .permitNotYetValid⟩
  require (observedAt < permit.expiresAt) ⟨"permit has expired", .permitExpired⟩

/-- The candidate is the next active permit of the same assignment. -/
def validatePermitRenewal (current candidate : AssignmentPermit) (observedAt : Utc) :
    Checked Unit := do
  require (candidate.assignmentDigest = current.assignmentDigest)
    ⟨"permit renewal changes the assignment digest", .permitAssignmentMismatch⟩
  require (candidate.sequence ≠ current.sequence) ⟨"permit sequence replayed", .permitReplay⟩
  require (candidate.sequence = current.sequence + 1)
    ⟨"permit renewal must use the next sequence", .permitSequence⟩
  require (current.issuedAt < candidate.issuedAt)
    ⟨"permit renewal issuance did not advance", .permitSequence⟩
  require (candidate.issuedAt ≤ observedAt)
    ⟨"renewed permit is not yet valid", .permitNotYetValid⟩
  require (observedAt < candidate.expiresAt) ⟨"renewed permit has expired", .permitExpired⟩

/-! ## Ledger bindings -/

structure AssignmentLedgerBindingFields where
  bindingId : Text
  assignmentDigest : Text
  customerId : Text
  workerId : Text
  attemptId : Text
  attemptNumber : ℤ
  retryParentAttemptId : Option Text
  reservationId : Text
  requestDigest : Text
  reservedMicros : ℤ
  createdAt : Utc
  deriving DecidableEq

/-- The parent of a first attempt is none, that of a later one another attempt. -/
def checkRetryParent (self : AssignmentLedgerBindingFields) : Checked Unit :=
  match self.retryParentAttemptId with
  | none =>
    require (self.attemptNumber = 1) (invalid "a retry attempt must name its immediate parent")
  | some parent => do
    require (self.attemptNumber ≠ 1) (invalid "attempt 1 must not name a retry parent")
    let _ ← boundedText (.str parent) "retry_parent_attempt_id"
    require (parent ≠ self.attemptId) (invalid "a retry attempt cannot parent itself")

def AssignmentLedgerBindingFields.check (self : AssignmentLedgerBindingFields) : Checked Unit := do
  let _ ← boundedText (.str self.bindingId) "binding_id"
  let _ ← boundedText (.str self.customerId) "customer_id"
  let _ ← boundedText (.str self.workerId) "worker_id"
  let _ ← boundedText (.str self.attemptId) "attempt_id"
  let _ ← boundedText (.str self.reservationId) "reservation_id"
  let _ ← digestText (.str self.assignmentDigest) "assignment_digest"
  let _ ← digestText (.str self.requestDigest) "request_digest"
  require (1 ≤ self.attemptNumber) (invalid "attempt_number must be a positive integer")
  checkRetryParent self
  let _ ← moneyMicros (.int self.reservedMicros) "reserved_micros"
  return ()

/-- The private join of an assignment with its customer and reservation. -/
structure AssignmentLedgerBinding extends AssignmentLedgerBindingFields where
  valid : toAssignmentLedgerBindingFields.check = .ok ()
  deriving DecidableEq

def assignmentLedgerBindingSchema : Text := "cathedral_assignment_ledger_binding_v1"

def AssignmentLedgerBinding.members (self : AssignmentLedgerBinding) : List (Text × Json) := [
  ("schema", .str assignmentLedgerBindingSchema),
  ("binding_id", .str self.bindingId),
  ("assignment_digest", .str self.assignmentDigest),
  ("customer_id", .str self.customerId),
  ("worker_id", .str self.workerId),
  ("attempt_id", .str self.attemptId),
  ("attempt_number", .int self.attemptNumber),
  ("retry_parent_attempt_id", optionalJson .str self.retryParentAttemptId),
  ("reservation_id", .str self.reservationId),
  ("request_digest", .str self.requestDigest),
  ("reserved_micros", .int self.reservedMicros),
  ("created_at", .str (canonicalUtc self.createdAt))]

def AssignmentLedgerBinding.toDocument (self : AssignmentLedgerBinding) : Json := .obj self.members

def AssignmentLedgerBinding.fromDocument (document : Json) : Checked AssignmentLedgerBinding := do
  let value ← requireKeys document assignmentLedgerBindingSchema
    ["schema", "binding_id", "assignment_digest", "customer_id", "worker_id", "attempt_id",
      "attempt_number", "retry_parent_attempt_id", "reservation_id", "request_digest",
      "reserved_micros", "created_at"] "assignment ledger binding"
  let attemptNumber ← integerOf (field value "attempt_number") "attempt_number"
  let retryParentAttemptId ← optionalOf (boundedText · "retry_parent_attempt_id")
    (field value "retry_parent_attempt_id")
  let bindingId ← boundedText (field value "binding_id") "binding_id"
  let assignmentDigest ← digestText (field value "assignment_digest") "assignment_digest"
  let customerId ← boundedText (field value "customer_id") "customer_id"
  let workerId ← boundedText (field value "worker_id") "worker_id"
  let attemptId ← boundedText (field value "attempt_id") "attempt_id"
  let reservationId ← boundedText (field value "reservation_id") "reservation_id"
  let requestDigest ← digestText (field value "request_digest") "request_digest"
  let reservedMicros ← moneyMicros (field value "reserved_micros") "reserved_micros"
  let createdAt ← parseUtc (field value "created_at") "created_at"
  let fields : AssignmentLedgerBindingFields := {
    bindingId, assignmentDigest, customerId, workerId, attemptId, attemptNumber,
    retryParentAttemptId, reservationId, requestDigest, reservedMicros, createdAt }
  build fields.check fun valid => { fields with valid }

end Cathedral.Provider
