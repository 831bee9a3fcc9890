import CathedralCompute.Platform

/-!
# Assurance claims

What a verifier asserts of a worker, in four independent dimensions, and the
policies that name the dimensions an authorization needs. A stored document that
cannot be read stands for claims nobody has evaluated.
-/

set_option autoImplicit false

namespace Cathedral

open Codec Semantics

inductive AssuranceDimension where
  | hardware
  | software
  | channel
  | work
deriving DecidableEq

def AssuranceDimension.value : AssuranceDimension → Text
  | hardware => "hardware"
  | software => "software"
  | channel => "channel"
  | work => "work"

inductive ClaimStatus where
  | notEvaluated
  | passed
  | failed
  | stale
  | revoked
deriving DecidableEq

namespace ClaimStatus

def value : ClaimStatus → Text
  | notEvaluated => "not_evaluated"
  | passed => "passed"
  | failed => "failed"
  | stale => "stale"
  | revoked => "revoked"

/-- `ClaimStatus(text)`. -/
def ofValue? (t : Text) : Option ClaimStatus :=
  [notEvaluated, passed, failed, stale, revoked].find? fun status => status.value = t

end ClaimStatus

inductive ReasonCategory where
  | evidenceInvalid
  | policyRejected
  | channelMismatch
  | workInvalid
  | evidenceStale
  | policyRevoked
  | identityConflict
  | internalError
deriving DecidableEq

namespace ReasonCategory

def value : ReasonCategory → Text
  | evidenceInvalid => "evidence_invalid"
  | policyRejected => "policy_rejected"
  | channelMismatch => "channel_mismatch"
  | workInvalid => "work_invalid"
  | evidenceStale => "evidence_stale"
  | policyRevoked => "policy_revoked"
  | identityConflict => "identity_conflict"
  | internalError => "internal_error"

/-- `ReasonCategory(text)`. -/
def ofValue? (t : Text) : Option ReasonCategory :=
  [evidenceInvalid, policyRejected, channelMismatch, workInvalid, evidenceStale, policyRevoked,
    identityConflict, internalError].find? fun reason => reason.value = t

end ReasonCategory

/-! ## Claims -/

structure AssuranceClaim where
  status : ClaimStatus
  evidenceDigest : Option Text
  policyDigest : Option Text
  verifiedAt : Option Text
  reason : Option ReasonCategory
deriving DecidableEq

/-- `_valid_utc_timestamp`. -/
def validUtcTimestamp (p : Platform) (value : Text) : Bool :=
  value.getLast? = some 0x5a &&
    match p.fromisoformat (value.dropLast ++ Text.ofString "+00:00") with
    | some ⟨_, some offset⟩ => offset = 0
    | _ => false

/-- A digest in canonical form. -/
def isCanonicalDigest (t : Option Text) : Bool := t.any (Text.isDigest "sha256:")

/-- `AssuranceClaim.__post_init__`. -/
def AssuranceClaim.validate (p : Platform) (claim : AssuranceClaim) : Except Failure Unit :=
  if claim.status = .notEvaluated then
    require (claim.evidenceDigest = none ∧ claim.policyDigest = none ∧ claim.verifiedAt = none ∧
        claim.reason = none)
      (.valueError "not_evaluated claims must carry only null audit fields")
  else do
    require (isCanonicalDigest claim.evidenceDigest)
      (.valueError "evaluated claims require a canonical evidence digest")
    require (isCanonicalDigest claim.policyDigest)
      (.valueError "evaluated claims require a canonical policy digest")
    require (claim.verifiedAt.any (validUtcTimestamp p))
      (.valueError "evaluated claims require a UTC verification timestamp")
    require (claim.status = .passed → claim.reason = none)
      (.valueError "passed claims cannot carry a failure reason")
    require (claim.status ≠ .passed → claim.reason ≠ none)
      (.valueError "failed, stale, and revoked claims require a safe reason")

def optionalText : Option Text → Json
  | some t => .str t
  | none => .null

/-- `AssuranceClaim.to_dict`. -/
def AssuranceClaim.toDict (claim : AssuranceClaim) : Json := .obj
  [("status", .str claim.status.value), ("verified_at", optionalText claim.verifiedAt),
    ("reason", optionalText (claim.reason.map ReasonCategory.value)),
    ("evidence_digest", optionalText claim.evidenceDigest),
    ("policy_digest", optionalText claim.policyDigest)]

def notEvaluatedClaim : AssuranceClaim := ⟨.notEvaluated, none, none, none, none⟩

structure AssuranceClaims where
  hardware : AssuranceClaim
  software : AssuranceClaim
  channel : AssuranceClaim
  work : AssuranceClaim
deriving DecidableEq

def assuranceSchema : Text := "assurance_claims_v1"

namespace AssuranceClaims

def claim (claims : AssuranceClaims) : AssuranceDimension → AssuranceClaim
  | .hardware => claims.hardware
  | .software => claims.software
  | .channel => claims.channel
  | .work => claims.work

/-- `AssuranceClaims.to_dict`. -/
def toDict (claims : AssuranceClaims) : Json := .obj
  [("schema", .str assuranceSchema),
    ("claims", .obj ([.hardware, .software, .channel, .work].map fun dimension =>
      (AssuranceDimension.value dimension, (claims.claim dimension).toDict)))]

end AssuranceClaims

def emptyAssuranceClaims : AssuranceClaims :=
  ⟨notEvaluatedClaim, notEvaluatedClaim, notEvaluatedClaim, notEvaluatedClaim⟩

/-! ## Eligibility -/

structure EligibilityPolicy where
  name : Text
  requiredPassed : List AssuranceDimension

namespace EligibilityPolicy

/-- The required dimensions that did not pass. -/
def unsatisfied (policy : EligibilityPolicy) (claims : Option AssuranceClaims) :
    List AssuranceDimension :=
  policy.requiredPassed.filter fun dimension =>
    match claims with
    | none => true
    | some claims => (claims.claim dimension).status ≠ .passed

def allows (policy : EligibilityPolicy) (claims : Option AssuranceClaims) : Bool :=
  (policy.unsatisfied claims).isEmpty

end EligibilityPolicy

/-- `ATTESTATION_ADMISSION_POLICY`. -/
def attestationAdmissionPolicy : EligibilityPolicy :=
  ⟨"attestation_admission_v1", [.hardware, .software]⟩

/-! ## Stored documents -/

/-- A member that is a text, or absent or null. -/
def optionalTextOfJson : Option Json → Option (Option Text)
  | none => some none
  | some .null => some none
  | some (.str t) => some (some t)
  | _ => none

/-- A failure reason that is known, or absent or null. -/
def reasonOfJson (value : Option Json) : Option (Option ReasonCategory) := do
  match ← optionalTextOfJson value with
  | none => return none
  | some t => return some (← ReasonCategory.ofValue? t)

/-- The claim of one dimension in a stored document. -/
def claimFromDict (p : Platform) (claims : List (Text × Json)) (dimension : AssuranceDimension) :
    Option AssuranceClaim := do
  let members ← (Json.lookup dimension.value claims).bind membersOfJson
  let status ← ((Json.lookup "status" members).bind textOfJson).bind ClaimStatus.ofValue?
  let reason ← reasonOfJson (Json.lookup "reason" members)
  let evidenceDigest ← optionalTextOfJson (Json.lookup "evidence_digest" members)
  let policyDigest ← optionalTextOfJson (Json.lookup "policy_digest" members)
  let verifiedAt ← optionalTextOfJson (Json.lookup "verified_at" members)
  let claim : AssuranceClaim := ⟨status, evidenceDigest, policyDigest, verifiedAt, reason⟩
  if claim.validate p = .ok () then return claim else none

/-- `assurance_from_dict`; `none` where it raises. -/
def assuranceFromDict (p : Platform) (members : List (Text × Json)) : Option AssuranceClaims :=
  if Json.equalsText assuranceSchema (Json.lookup "schema" members) then do
    let claims ← (Json.lookup "claims" members).bind membersOfJson
    let hardware ← claimFromDict p claims .hardware
    let software ← claimFromDict p claims .software
    let channel ← claimFromDict p claims .channel
    let work ← claimFromDict p claims .work
    return ⟨hardware, software, channel, work⟩
  else none

/-- `_stored_assurance`. -/
def storedAssurance (p : Platform) (raw : Option Text) : AssuranceClaims :=
  let read := do
    let document ← loads (defaultHooks p) (← raw)
    assuranceFromDict p (← membersOfJson document)
  read.getD emptyAssuranceClaims

/-! ## Verdicts -/

inductive Tier where
  | ccCpuSnp
  | ccCpuTdx
  | ccGpu
deriving DecidableEq

def Tier.value : Tier → Text
  | ccCpuSnp => "cc_cpu_snp"
  | ccCpuTdx => "cc_cpu_tdx"
  | ccGpu => "cc_gpu"

/-- A verifier's verdict, as far as the registry reads it. -/
structure Attested where
  tier : Tier
  chipId : Text
  measurement : Text
  verificationStatus : Text
  assurance : Option AssuranceClaims

end Cathedral
