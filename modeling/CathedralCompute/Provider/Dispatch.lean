import CathedralCompute.Provider.Documents

/-!
# Dispatch envelopes

The document a provider sees of one dispatch: the assignment with its manifest and its
policy, and the permit. The manifest and the policy are any canonical objects without
private fields whose digests the assignment names.

## Main definitions

* `frozenCanonicalMapping` — the canonical copy of an object
* `ProviderDispatchEnvelope` — an envelope that is in order
-/

set_option autoImplicit false

namespace Cathedral.Provider

open Codec Semantics

/-! ## Canonical objects -/

/-- The canonical copy of an object, as it is read back from its bytes. -/
def frozenCanonicalMapping (value : Json) (label : Text) : Checked Json := do
  let _ ← demand (invalid (label ++ Text.ofString " must be a canonical object"))
    (membersOfJson value)
  let data ← canonicalJsonBytes 0 value
  let copied ← parseCanonicalJson data
  let _ ← demand (invalid (label ++ Text.ofString " must be a canonical object"))
    (membersOfJson copied)
  return copied

/-- A canonical copy of some object. -/
structure FrozenMapping where
  copy : Json
  frozen : ∃ value label, frozenCanonicalMapping value label = .ok copy

/-- The copy with the proof that it is one. -/
def freeze (value : Json) (label : Text) : Checked FrozenMapping :=
  match copied : frozenCanonicalMapping value label with
  | .ok copy => .ok ⟨copy, value, label, copied⟩
  | .error error => .error error

/-- `_PROVIDER_FORBIDDEN_FIELD_NAMES`. -/
def forbiddenFieldNames : List Text := [
  "customer_id", "customer_subject", "customer_subject_digest", "worker_id", "logical_job_id",
  "reservation_id", "reserved_micros", "charged_micros", "budget_micros", "amount_micros",
  "protected_inputs", "secrets", "secret_env", "credentials", "bearer_token", "api_key"]

/-- Lower a name. Besides the ASCII capitals only the Kelvin sign has a lower case within
ASCII. -/
def lowerName (name : Text) : Text :=
  (Text.lower name).map fun c => if c.val = 0x212a then .ofNat _ 0x6b else c

def privateField (key : Text) : ContractError :=
  ⟨Text.ofString "provider dispatch field " ++ key ++ Text.ofString " is private or secret",
    .privateFieldForbidden⟩

mutual

/-- No object at any depth has a field with a forbidden name. -/
def rejectProviderPrivateFields : Json → Checked Unit
  | .obj members => rejectPrivateMembers members
  | .arr items => rejectPrivateItems items
  | _ => .ok ()

def rejectPrivateMembers : List (Text × Json) → Checked Unit
  | [] => .ok ()
  | (key, value) :: members => do
    require (lowerName key ∉ forbiddenFieldNames) (privateField key)
    rejectProviderPrivateFields value
    rejectPrivateMembers members

def rejectPrivateItems : List Json → Checked Unit
  | [] => .ok ()
  | item :: items => do
    rejectProviderPrivateFields item
    rejectPrivateItems items

end

/-! ## Envelopes -/

structure ProviderDispatchEnvelopeFields where
  assignment : AttemptAssignment
  workloadManifest : FrozenMapping
  policyDocument : FrozenMapping
  permit : AssignmentPermit

def providerDispatchEnvelopeSchema : Text := "cathedral_provider_dispatch_envelope_v1"

def ProviderDispatchEnvelopeFields.members (self : ProviderDispatchEnvelopeFields) :
    List (Text × Json) := [
  ("schema", .str providerDispatchEnvelopeSchema),
  ("assignment", self.assignment.toDocument),
  ("workload_manifest", self.workloadManifest.copy),
  ("policy_document", self.policyDocument.copy),
  ("permit", self.permit.toDocument)]

def ProviderDispatchEnvelopeFields.toDocument (self : ProviderDispatchEnvelopeFields) : Json :=
  .obj self.members

def ProviderDispatchEnvelopeFields.check (self : ProviderDispatchEnvelopeFields) :
    Checked Unit := do
  rejectProviderPrivateFields self.workloadManifest.copy
  rejectProviderPrivateFields self.policyDocument.copy
  let manifestDigest ← canonicalSha256 0 self.workloadManifest.copy
  require (manifestDigest = self.assignment.workloadManifestDigest)
    ⟨"workload manifest digest does not match the assignment", .digestMismatch⟩
  let policyDigest ← canonicalSha256 0 self.policyDocument.copy
  require (policyDigest = self.assignment.policyDigest)
    ⟨"policy document digest does not match the assignment", .digestMismatch⟩
  let digest ← self.assignment.digest
  require (self.permit.assignmentDigest = digest)
    ⟨"dispatch permit authorizes a different assignment", .permitAssignmentMismatch⟩
  let _ ← canonicalJsonBytes 0 self.toDocument
  return ()

/-- The complete document a provider sees of one dispatch. -/
structure ProviderDispatchEnvelope extends ProviderDispatchEnvelopeFields where
  valid : toProviderDispatchEnvelopeFields.check = .ok ()

namespace ProviderDispatchEnvelope

/-- An envelope of any manifest and policy; it keeps canonical copies of them. -/
def make (assignment : AttemptAssignment) (workloadManifest policyDocument : Json)
    (permit : AssignmentPermit) : Checked ProviderDispatchEnvelope := do
  let workloadManifest ← freeze workloadManifest "workload_manifest"
  let policyDocument ← freeze policyDocument "policy_document"
  let fields : ProviderDispatchEnvelopeFields := {
    assignment, workloadManifest, policyDocument, permit }
  build fields.check fun valid => { fields with valid }

def canonicalBytes (self : ProviderDispatchEnvelope) : Checked Bytes :=
  canonicalJsonBytes 0 self.toDocument

def digest (self : ProviderDispatchEnvelope) : Checked Text := canonicalSha256 0 self.toDocument

/-- The permit of the envelope authorizes its assignment at a time. -/
def validate (self : ProviderDispatchEnvelope) (observedAt : Utc) : Checked Unit :=
  validateAssignmentPermit self.assignment self.permit observedAt

def fromDocument (document : Json) : Checked ProviderDispatchEnvelope := do
  let value ← requireKeys document providerDispatchEnvelopeSchema
    ["schema", "assignment", "workload_manifest", "policy_document", "permit"]
    "provider dispatch envelope"
  let assignment ← AttemptAssignment.fromDocument (field value "assignment")
  let workloadManifest ←
    frozenCanonicalMapping (field value "workload_manifest") "workload_manifest"
  let policyDocument ← frozenCanonicalMapping (field value "policy_document") "policy_document"
  let permit ← AssignmentPermit.fromDocument (field value "permit")
  make assignment workloadManifest policyDocument permit

def fromBytes (data : Bytes) : Checked ProviderDispatchEnvelope := do
  let document ← parseCanonicalJson data
  fromDocument document

end ProviderDispatchEnvelope

/-! ## Freezing -/

/-- A copy is what is read from the bytes of the value, and has the same bytes. -/
theorem frozenCanonicalMapping_eq_ok {value copy : Json} {label : Text} :
    frozenCanonicalMapping value label = .ok copy ↔
      (∃ members, value = .obj members) ∧ (∃ members, copy = .obj members) ∧
        ∃ data, canonicalJsonBytes 0 value = .ok data ∧ parseCanonicalJson data = .ok copy := by
  simp only [frozenCanonicalMapping, bind_eq_ok, demand_eq_ok, pure_eq_ok, membersOfJson_eq_some]
  constructor
  · rintro ⟨members, object, data, written, _, read, members', copied, rfl⟩
    exact ⟨⟨members, object⟩, ⟨members', copied⟩, data, written, read⟩
  · rintro ⟨⟨members, object⟩, ⟨members', copied⟩, data, written, read⟩
    exact ⟨members, object, data, written, copy, read, members', copied, rfl⟩

/-- A copy of a copy is the copy. -/
theorem frozenCanonicalMapping_copy {value copy : Json} {label : Text} (label' : Text)
    (frozen : frozenCanonicalMapping value label = .ok copy) :
    frozenCanonicalMapping copy label' = .ok copy := by
  obtain ⟨-, object, data, -, read⟩ := frozenCanonicalMapping_eq_ok.mp frozen
  exact frozenCanonicalMapping_eq_ok.mpr
    ⟨object, object, data, canonicalJsonBytes_of_parse read, read⟩

theorem FrozenMapping.refrozen (mapping : FrozenMapping) (label : Text) :
    frozenCanonicalMapping mapping.copy label = .ok mapping.copy := by
  obtain ⟨value, label', frozen⟩ := mapping.frozen
  exact frozenCanonicalMapping_copy label frozen

theorem freeze_eq_ok {value : Json} {label : Text} {mapping : FrozenMapping} :
    freeze value label = .ok mapping ↔ frozenCanonicalMapping value label = .ok mapping.copy := by
  unfold freeze
  split
  case h_1 copy copied =>
    constructor
    · intro same
      rw [← Except.ok.inj same]
      exact copied
    · intro found
      obtain rfl := Except.ok.inj (copied.symm.trans found)
      rfl
  case h_2 error failed =>
    constructor
    · intro wrong
      cases wrong
    · intro found
      cases failed.symm.trans found

end Cathedral.Provider
