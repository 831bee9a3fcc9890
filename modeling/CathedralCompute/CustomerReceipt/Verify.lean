import CathedralCompute.CustomerReceipt.Documents
import CathedralCompute.PolicyRegistry.Snapshot
import CathedralCompute.Sample
import CathedralCompute.Semantics.Raises

/-!
# Verification of customer receipts

A customer receipt is a signed statement that one execution of a known class took
place, was torn down and was billed in a consistent way. `verifyCustomerReceipt` reads
one against a keyring that was itself read by `parseCustomerReceiptTrustedKeysJson`.

## Main definitions

* `verifyCustomerReceipt`, `parseCustomerReceiptTrustedKeysJson`
* `Vouched` — what a verified receipt says

## Main results

* `vouched_of_verify` — a verified receipt is canonical, signed by a valid key, and
  consistent
* `customer_receipt_errors_iff` — verifier and keyring reader raise nothing but
  `CustomerReceiptError`, unless the walk meets a key with a lone surrogate
-/

set_option autoImplicit false

namespace Cathedral.CustomerReceipt

open Codec Semantics PolicyRegistry

/-! ## Constants -/

/-- `_TOP_LEVEL_KEYS`. -/
def topLevelKeys : List Text :=
  ["schema", "receipt_id", "issued_at", "policy_digest", "signing_key_id", "receipt_status",
    "execution_class", "profile_id", "cpu_tee", "gpu_type", "gpu_count", "execution_outcome",
    "nonce_sha256", "workload_sha256", "result_sha256", "execution_binding_verified",
    "report_data_match", "intel_verified", "gpu_attestation_verified", "guest_binding_verified",
    "runtime_execution_verified", "teardown_required", "teardown_confirmed", "billed",
    "billing_status", "billing_outcome", "signature"]

/-- `_TRUSTED_KEY_FIELDS`. -/
def trustedKeyFields : List Text :=
  ["algorithm", "public_key_base64", "status", "valid_from", "valid_until"]

def customerReceiptSchema : Text := "cathedral_customer_receipt_v1"

def trustedKeysSchema : Text := "cathedral_customer_receipt_trusted_keys_v1"

/-- `CUSTOMER_RECEIPT_POLICY_DIGEST`. -/
def policyDigest : Text := sha256Digest (Text.ofString "cathedral.customer-receipt.policy.v1").ascii

def maxKeys : ℕ := 128

def executionOutcomes : List Text := ["succeeded", "customer_error", "customer_timeout"]

def billingStatuses : List Text := ["billed", "trusted_service", "complimentary"]

def billingOutcomes : List Text := ["charged", "not_charged"]

def keyStatusTexts : List Text := ["active", "retired", "revoked"]

def cpuProfileId : Text := "attest.v1"

def gpuProfileId : Text := "gcp-g4-rtx-pro-6000-sev-v1"

/-- `CustomerReceiptVerificationKey`. -/
structure VerificationKey where
  keyId : Text
  publicKey : Bytes
  status : Text
  validFrom : Instant
  validUntil : Instant

/-- `CustomerReceiptVerificationKey.verifies_at`. -/
def VerificationKey.verifiesAt (key : VerificationKey) (issuedAt : Instant) : Prop :=
  key.status ∈ ([Text.ofString "active", Text.ofString "retired"] : List Text) ∧
    key.validFrom ≤ issuedAt ∧ issuedAt < key.validUntil

instance (key : VerificationKey) (issuedAt : Instant) : Decidable (key.verifiesAt issuedAt) :=
  inferInstanceAs (Decidable (_ ∧ _))

/-- `VerifiedCustomerReceipt`. -/
structure VerifiedCustomerReceipt where
  receiptId : Text
  receiptBytes : Bytes
  receiptDigest : Text
  issuedAt : Instant
  document : List (Text × Json)

/-! ## Fields -/

/-- `document[key]`. -/
def item (members : List (Text × Json)) (key : Text) : Checked Json :=
  demand .keyError (Json.lookup key members)

/-- The form of `_TIME_RE`, zeros standing for any decimal digit. -/
def timeForm : Text := "0000-00-00T00:00:00.000000Z"

/-- `_TIME_RE.fullmatch`, whose digits need not be ASCII. -/
def matchesTime (p : Platform) (t : Text) : Bool :=
  t.length = timeForm.length && (t.zip timeForm).all fun (c, form) =>
    if form = 0x30 then Text.isDigit c || (p.unicodeDigit c).isSome else c = form

/-- `_timestamp`. -/
def timeOf (p : Platform) (value : Json) (label : Text) : Checked Instant :=
  demand (.customerReceiptError "schema" (label ++ Text.ofString " must be canonical UTC time"))
    (((textOfJson value).filter (matchesTime p)).bind fun t => Instant.parseUtc (plainTime p t))

/-- `_canonical_base64`, which fails in a category of its caller's. -/
def canonicalBase64 (category : Text) (value : Json) (decodedBytes : ℕ) (label : Text) :
    Checked Bytes := do
  let failure := Fault.customerReceiptError category
    (label ++ Text.ofString " must be canonical base64")
  let text ← demand failure (textOfJson value)
  let octets ← demand failure (base64Decode text)
  require (octets.length = decodedBytes ∧ base64 octets = text) failure
  return octets

/-- `_require_bool`. -/
def requireBool (value : Json) (label : Text) : Checked Bool :=
  demand (.customerReceiptError "schema" (label ++ Text.ofString " must be boolean"))
    (boolOfJson value)

/-- `_require_digest`. -/
def requireDigest (value : Json) (label : Text) : Checked Text :=
  demand (.customerReceiptError "binding"
      (label ++ Text.ofString " must be 64 lowercase SHA-256 hex"))
    ((textOfJson value).filter (Text.isHex 64))

/-- `str.replace(pattern, "")`, with so many characters of a match still to be dropped. -/
def removeAll (pattern : Text) : ℕ → Text → Text
  | _, [] => []
  | drop + 1, _ :: rest => removeAll pattern drop rest
  | 0, c :: rest =>
    if pattern.isPrefixOf (c :: rest) then removeAll pattern (pattern.length - 1) rest
    else c :: removeAll pattern 0 rest

/-- The 32 hexadecimal digits that `UUID` takes from a text. -/
def uuidDigits (t : Text) : Option Text :=
  let bare := removeAll "uuid:" 0 (removeAll "urn:" 0 t)
  let braces (c : CodePoint) : Bool := c = 0x7b ∨ c = 0x7d
  let digits := ((bare.dropWhile braces).reverse.dropWhile braces).reverse.filter (· ≠ 0x2d)
  if digits.length = 32 ∧ digits.all fun c => (hexValue c).isSome then some (Text.lower digits) else none

/-- `str` of a `UUID` of so many digits. -/
def uuidText (digits : Text) : Text :=
  digits.take 8 ++ [0x2d] ++ (digits.drop 8).take 4 ++ [0x2d] ++ (digits.drop 12).take 4 ++
    [0x2d] ++ (digits.drop 16).take 4 ++ [0x2d] ++ digits.drop 20

/-- `_validate_uuid`. -/
def validateUuid (value : Json) : Checked Text := do
  let failure := refused "schema" "receipt_id must be a canonical UUID"
  let text ← demand failure (textOfJson value)
  let digits ← demand failure (uuidDigits text)
  require (uuidText digits = text) failure
  return text

/-- A text among others. -/
def memberOf (options : List Text) (value : Json) : Bool :=
  (textOfJson value).any (· ∈ options)

/-! ## The keyring -/

/-- The start of a complaint about a trusted key. -/
def trustedKey (p : Platform) (keyId : Text) : Text := Text.ofString "trusted key " ++ p.repr keyId

/-- A key of the keyring. -/
def trustedKeyOf (p : Platform) (raw : Text × Json) : Checked (Text × VerificationKey) := do
  let complaint (end_ : String) := Fault.customerReceiptError "key"
    (trustedKey p raw.1 ++ Text.ofString end_)
  require (isRegistryId raw.1) (refused "key" "trusted key id is invalid")
  let members ← demand (complaint " has invalid fields")
    ((membersOfJson raw.2).filter (hasExactly trustedKeyFields))
  let algorithm ← item members "algorithm"
  require (Json.equalsText "ed25519" (some algorithm)) (complaint " algorithm is unsupported")
  let publicKeyText ← item members "public_key_base64"
  let publicKey ← canonicalBase64 "key" publicKeyText 32
    (trustedKey p raw.1 ++ Text.ofString " public key")
  let statusValue ← item members "status"
  let status ← demand (complaint " status is invalid")
    ((textOfJson statusValue).filter (· ∈ keyStatusTexts))
  let fromValue ← item members "valid_from"
  let validFrom ← timeOf p fromValue (trustedKey p raw.1 ++ Text.ofString " valid_from")
  let untilValue ← item members "valid_until"
  let validUntil ← timeOf p untilValue (trustedKey p raw.1 ++ Text.ofString " valid_until")
  require (validFrom < validUntil) (complaint " interval is invalid")
  return (raw.1, { keyId := raw.1, publicKey, status, validFrom, validUntil })

/-- `parse_customer_receipt_trusted_keys_json`. -/
def parseCustomerReceiptTrustedKeysJson (p : Platform) (data : Bytes) :
    Checked (List (Text × VerificationKey)) := do
  let members ← parseJson p "customer receipt trusted keys" data
  let failure := refused "key" "trusted keys schema is unsupported"
  require (hasExactly ["schema", "keys"] members ∧
    Json.equalsText trustedKeysSchema (Json.lookup "schema" members)) failure
  let rawKeys ← demand failure ((Json.lookup "keys" members).bind membersOfJson)
  require (rawKeys ≠ [] ∧ rawKeys.length ≤ maxKeys) (refused "key" "trusted keys count is invalid")
  rawKeys.mapM (trustedKeyOf p)

/-! ## The assertions -/

/-- `_validate_signature_shape`. -/
def validateSignatureShape (members : List (Text × Json)) : Checked Bytes := do
  let signature ← demand (refused "schema" "receipt signature object is invalid")
    (((Json.lookup "signature" members).bind membersOfJson).filter
      (hasExactly ["algorithm", "value_base64"]))
  let algorithm ← item signature "algorithm"
  require (Json.equalsText "ed25519" (some algorithm))
    (refused "signature" "receipt signature algorithm is unsupported")
  let value ← item signature "value_base64"
  canonicalBase64 "signature" value 64 "receipt signature"

/-- `_validate_billing`. -/
def validateBilling (members : List (Text × Json)) : Checked Unit := do
  let billedValue ← item members "billed"
  let billed ← requireBool billedValue "billed"
  let status ← item members "billing_status"
  let outcome ← item members "billing_outcome"
  require (memberOf billingStatuses status ∧ memberOf billingOutcomes outcome)
    (refused "billing" "receipt billing assertion is unsupported")
  if billed then
    require (Json.equalsText "billed" (some status) ∧ Json.equalsText "charged" (some outcome))
      (refused "billing" "billed receipt has contradictory billing fields")
  else
    require (memberOf ["trusted_service", "complimentary"] status ∧
        Json.equalsText "not_charged" (some outcome))
      (refused "billing" "unbilled receipt has contradictory billing fields")

/-- A boolean field that has to be true. -/
def requireTrue (members : List (Text × Json)) (name : Text) (complaint : String) :
    Checked Unit := do
  let value ← item members name
  let verified ← requireBool value name
  require (verified = true) (refused "binding" complaint)

/-- A field that holds a digest. -/
def digestField (members : List (Text × Json)) (name : Text) : Checked Text := do
  let value ← item members name
  requireDigest value name

/-- `_validate_common_assertions`. -/
def validateCommonAssertions (p : Platform) (members : List (Text × Json)) :
    Checked Instant := do
  let schema ← item members "schema"
  require (Json.equalsText customerReceiptSchema (some schema))
    (refused "schema" "customer receipt schema is unsupported")
  let receiptId ← item members "receipt_id"
  let _ ← validateUuid receiptId
  let issued ← item members "issued_at"
  let issuedAt ← timeOf p issued "receipt issued_at"
  let policy ← item members "policy_digest"
  require (Json.equalsText policyDigest (some policy))
    (refused "policy" "customer receipt policy digest is unsupported")
  let status ← item members "receipt_status"
  require (Json.equalsText "ready" (some status))
    (refused "status" "customer receipt status is not ready")
  let outcome ← item members "execution_outcome"
  require (memberOf executionOutcomes outcome)
    (refused "binding" "execution outcome is unsupported")
  let _ ← digestField members "nonce_sha256"
  let _ ← digestField members "workload_sha256"
  let _ ← digestField members "result_sha256"
  requireTrue members "execution_binding_verified" "execution binding is not verified"
  requireTrue members "teardown_required" "receipt must require teardown"
  requireTrue members "teardown_confirmed" "receipt teardown is not confirmed"
  validateBilling members
  return issuedAt

/-- Whether the value is `None`. -/
def isNull : Json → Bool
  | .null => true
  | _ => false

/-- `_validate_cpu_assertions`. -/
def validateCpuAssertions (members : List (Text × Json)) : Checked Unit := do
  let profile ← item members "profile_id"
  let cpuTee ← item members "cpu_tee"
  let gpuType ← item members "gpu_type"
  let gpuCount ← item members "gpu_count"
  require (Json.equalsText cpuProfileId (some profile) ∧
      Json.equalsText "intel_tdx" (some cpuTee) ∧ isNull gpuType ∧
      boolOfJson gpuCount = none ∧ Json.equalsInt 0 (some gpuCount))
    (refused "binding" "TDX CPU profile assertions are inconsistent")
  let reportData ← item members "report_data_match"
  let intel ← item members "intel_verified"
  let gpuAttestation ← item members "gpu_attestation_verified"
  let guestBinding ← item members "guest_binding_verified"
  let runtimeExecution ← item members "runtime_execution_verified"
  require (Json.isTrue reportData ∧ Json.isTrue intel ∧ isNull gpuAttestation ∧
      isNull guestBinding ∧ isNull runtimeExecution)
    (refused "binding" "TDX CPU execution binding is incomplete")

/-- `len(gpu_type.encode("utf-8")) <= 128` of a text that is not empty. -/
def isGpuType (value : Json) : Checked Bool :=
  match textOfJson value with
  | none => .ok false
  | some t =>
    if t = [] then .ok false
    else do
      let octets ← demand .unicodeEncodeError t.utf8
      return octets.length ≤ 128

/-- `_validate_gpu_assertions`. -/
def validateGpuAssertions (members : List (Text × Json)) : Checked Unit := do
  let failure := refused "binding" "confidential GPU profile assertions are inconsistent"
  let gpuType ← item members "gpu_type"
  let gpuCount ← item members "gpu_count"
  let profile ← item members "profile_id"
  require (Json.equalsText gpuProfileId (some profile)) failure
  let cpuTee ← item members "cpu_tee"
  require (Json.equalsText "amd_sev" (some cpuTee)) failure
  let named ← isGpuType gpuType
  require (named = true ∧ (intOfJson gpuCount).any fun count => 1 ≤ count ∧ count ≤ 16) failure
  let reportData ← item members "report_data_match"
  let intel ← item members "intel_verified"
  let gpuAttestation ← item members "gpu_attestation_verified"
  let guestBinding ← item members "guest_binding_verified"
  let runtimeExecution ← item members "runtime_execution_verified"
  require (isNull reportData ∧ isNull intel ∧ Json.isTrue gpuAttestation ∧
      Json.isTrue guestBinding ∧ Json.isTrue runtimeExecution)
    (refused "binding" "confidential GPU execution binding is incomplete")

/-- The assertions of the execution class that a receipt names. -/
def validateExecutionClass (members : List (Text × Json)) : Checked Unit := do
  let executionClass ← item members "execution_class"
  if Json.equalsText "tdx_cpu" (some executionClass) then validateCpuAssertions members
  else if Json.equalsText "cc_gpu" (some executionClass) then validateGpuAssertions members
  else .error (refused "binding" "customer receipt execution class is unsupported")

/-! ## The verifier -/

/-- The most seconds that `timedelta` takes. -/
def maxTimedeltaSeconds : ℤ := 86399999999999

/-- The check of a receipt's age, where the caller limits it. -/
def checkAge (maxAgeSeconds : Option ℤ) (issuedAt now : Instant) : Checked Unit :=
  match maxAgeSeconds with
  | none => .ok ()
  | some seconds => do
    require (0 < seconds) (refused "stale" "receipt maximum age must be positive")
    require (issuedAt ≤ now) (refused "stale" "customer receipt is future-dated")
    require (seconds ≤ maxTimedeltaSeconds) .overflowError
    require (((now - issuedAt : ℕ) : ℤ) ≤ seconds * 1000000)
      (refused "stale" "customer receipt exceeds the maximum age")

/-- The trusted key that a receipt names. -/
def signingKey (trusted : Text → Option VerificationKey) (members : List (Text × Json)) :
    Checked VerificationKey := do
  let keyId ← item members "signing_key_id"
  let keyId ← demand (refused "key" "receipt signing key id is invalid")
    ((textOfJson keyId).filter isRegistryId)
  let key ← demand (refused "key" "receipt signing key is not trusted") (trusted keyId)
  require (key.status ≠ "revoked") (refused "key" "receipt signing key is revoked")
  return key

/-- `verify_customer_receipt`. -/
def verifyCustomerReceipt (p : Platform) (ed : Ed25519 p)
    (trusted : Text → Option VerificationKey) (maxAgeSeconds : Option ℤ) (now : Instant)
    (data : Bytes) : Checked VerifiedCustomerReceipt := do
  let members ← parseJson p "customer receipt" data
  let canonical ← canonicalCustomerReceiptJson p (.obj members)
  require (data = canonical) (refused "schema" "customer receipt JSON is not canonical")
  require (hasExactly topLevelKeys members)
    (refused "schema" "customer receipt has missing or unknown fields")
  let schema ← item members "schema"
  require (Json.equalsText customerReceiptSchema (some schema))
    (refused "schema" "customer receipt schema is unsupported")
  let key ← signingKey trusted members
  let signature ← validateSignatureShape members
  let signed ← customerReceiptSignedBytes p members
  require (key.publicKey.length = 32 ∧ ed.verify key.publicKey signature signed)
    (refused "signature" "customer receipt signature is invalid")
  let issuedAt ← validateCommonAssertions p members
  validateExecutionClass members
  require (key.verifiesAt issuedAt)
    (refused "key" "receipt issue time is outside the signing key validity interval")
  checkAge maxAgeSeconds issuedAt now
  let receiptId ← item members "receipt_id"
  return { receiptId := (textOfJson receiptId).getD [], receiptBytes := data,
           receiptDigest := sha256Digest data, issuedAt, document := members }

/-! ## Exceptions -/

/-- The exception is `CustomerReceiptError`. -/
def IsReceiptError (failure : Fault) : Prop :=
  ∃ category message, failure = .customerReceiptError category message

/-- A check that raises nothing but `CustomerReceiptError`. -/
def OnlyReceiptErrors {α : Type} (result : Checked α) : Prop := Raises IsReceiptError result

section OnlyReceiptErrors

variable {α : Type} {category message : Text}

theorem isReceiptError : IsReceiptError (.customerReceiptError category message) :=
  ⟨category, message, rfl⟩

theorem onlyReceiptErrors_require {condition : Prop} [Decidable condition] :
    OnlyReceiptErrors (require condition (.customerReceiptError category message)) :=
  raises_require isReceiptError

theorem onlyReceiptErrors_demand {value : Option α} :
    OnlyReceiptErrors (demand (.customerReceiptError category message) value) :=
  raises_demand isReceiptError

theorem lookup_eq_none {members : List (Text × Json)} {key : Text}
    (absent : Json.lookup key members = none) : key ∉ members.map Prod.fst := by
  induction members with
  | nil => exact List.not_mem_nil
  | cons member members ih =>
    rw [Json.lookup] at absent
    split at absent
    · cases absent
    · next other =>
      intro listed
      rcases List.mem_cons.mp listed with own | later
      · exact other own.symm
      · exact ih absent later

theorem mem_of_lookup {members : List (Text × Json)} {key : Text} {value : Json}
    (found : Json.lookup key members = some value) : (key, value) ∈ members := by
  induction members with
  | nil => cases found
  | cons member members ih =>
    rw [Json.lookup] at found
    split at found
    · next own =>
      cases found
      exact own ▸ List.mem_cons_self
    · exact List.mem_cons_of_mem _ (ih found)

/-- A field of an object whose keys are known. -/
theorem onlyReceiptErrors_item {keys : List Text} {members : List (Text × Json)} {key : Text}
    (exact_ : hasExactly keys members = true) (listed : key ∈ keys) :
    OnlyReceiptErrors (item members key) := by
  rw [hasExactly, decide_eq_true_eq] at exact_
  intro failure failed
  obtain ⟨absent, -⟩ := demand_eq_error.mp failed
  exact absurd (exact_.2 key listed) (lookup_eq_none absent)

end OnlyReceiptErrors

section Validators

variable {p : Platform} {members : List (Text × Json)} {value : Json}

theorem onlyReceiptErrors_canonicalBase64 {category label : Text} {count : ℕ} :
    OnlyReceiptErrors (canonicalBase64 category value count label) :=
  raises_bind onlyReceiptErrors_demand fun _ _ =>
    raises_bind onlyReceiptErrors_demand fun _ _ =>
      raises_bind onlyReceiptErrors_require fun _ _ => raises_pure _

theorem onlyReceiptErrors_validateUuid : OnlyReceiptErrors (validateUuid value) :=
  raises_bind onlyReceiptErrors_demand fun _ _ =>
    raises_bind onlyReceiptErrors_demand fun _ _ =>
      raises_bind onlyReceiptErrors_require fun _ _ => raises_pure _

theorem onlyReceiptErrors_trustedKeyOf (raw : Text × Json) :
    OnlyReceiptErrors (trustedKeyOf p raw) := by
  refine raises_bind onlyReceiptErrors_require fun _ _ => ?_
  refine raises_bind onlyReceiptErrors_demand fun fields read => ?_
  have known := (Option.filter_eq_some_iff.mp (demand_eq_ok.mp read)).2
  repeat' first
    | exact onlyReceiptErrors_item known (by simp [trustedKeyFields])
    | exact onlyReceiptErrors_canonicalBase64
    | exact onlyReceiptErrors_demand
    | exact onlyReceiptErrors_require
    | exact raises_pure _
    | refine raises_bind ?_ fun _ _ => ?_

theorem onlyReceiptErrors_validateSignatureShape :
    OnlyReceiptErrors (validateSignatureShape members) := by
  refine raises_bind onlyReceiptErrors_demand fun fields read => ?_
  have known := (Option.filter_eq_some_iff.mp (demand_eq_ok.mp read)).2
  repeat' first
    | exact onlyReceiptErrors_item known (by simp)
    | exact onlyReceiptErrors_canonicalBase64
    | exact onlyReceiptErrors_require
    | refine raises_bind ?_ fun _ _ => ?_

/-- Strings that the walk accepted can be encoded again. -/
theorem onlyReceiptErrors_isGpuType (fits : ValueFits value) :
    OnlyReceiptErrors (isGpuType value) := by
  unfold isGpuType
  cases value with
  | str t =>
    obtain ⟨octets, encoded, -⟩ := fits
    rw [textOfJson]
    by_cases empty : t = []
    · simp [empty, OnlyReceiptErrors]
    · simp [empty, encoded, demand, OnlyReceiptErrors]
  | _ => simp [textOfJson, OnlyReceiptErrors]

theorem onlyReceiptErrors_requireTrue {name : Text} {complaint : String}
    (exact_ : hasExactly topLevelKeys members = true)
    (listed : name ∈ topLevelKeys) : OnlyReceiptErrors (requireTrue members name complaint) :=
  raises_bind (onlyReceiptErrors_item exact_ listed) fun _ _ =>
    raises_bind onlyReceiptErrors_demand fun _ _ => onlyReceiptErrors_require

theorem onlyReceiptErrors_digestField {name : Text}
    (exact_ : hasExactly topLevelKeys members = true) (listed : name ∈ topLevelKeys) :
    OnlyReceiptErrors (digestField members name) :=
  raises_bind (onlyReceiptErrors_item exact_ listed) fun _ _ =>
    onlyReceiptErrors_demand

theorem onlyReceiptErrors_validateBilling
    (exact_ : hasExactly topLevelKeys members = true) :
    OnlyReceiptErrors (validateBilling members) := by
  refine raises_bind (onlyReceiptErrors_item exact_ (by simp [topLevelKeys])) fun _ _ => ?_
  refine raises_bind onlyReceiptErrors_demand fun billed _ => ?_
  refine raises_bind (onlyReceiptErrors_item exact_ (by simp [topLevelKeys])) fun _ _ => ?_
  refine raises_bind (onlyReceiptErrors_item exact_ (by simp [topLevelKeys])) fun _ _ => ?_
  refine raises_bind onlyReceiptErrors_require fun _ _ => ?_
  cases billed <;> exact onlyReceiptErrors_require

theorem onlyReceiptErrors_validateCommonAssertions
    (exact_ : hasExactly topLevelKeys members = true) :
    OnlyReceiptErrors (validateCommonAssertions p members) := by
  unfold validateCommonAssertions
  repeat' first
    | exact onlyReceiptErrors_item exact_ (by simp [topLevelKeys])
    | exact onlyReceiptErrors_validateUuid
    | exact onlyReceiptErrors_digestField exact_ (by simp [topLevelKeys])
    | exact onlyReceiptErrors_requireTrue exact_ (by simp [topLevelKeys])
    | exact onlyReceiptErrors_validateBilling exact_
    | exact onlyReceiptErrors_demand
    | exact onlyReceiptErrors_require
    | exact raises_pure _
    | refine raises_bind ?_ fun _ _ => ?_

theorem onlyReceiptErrors_validateCpuAssertions
    (exact_ : hasExactly topLevelKeys members = true) :
    OnlyReceiptErrors (validateCpuAssertions members) := by
  unfold validateCpuAssertions
  repeat' first
    | exact onlyReceiptErrors_item exact_ (by simp [topLevelKeys])
    | exact onlyReceiptErrors_require
    | refine raises_bind ?_ fun _ _ => ?_

theorem onlyReceiptErrors_validateGpuAssertions
    (exact_ : hasExactly topLevelKeys members = true)
    (fits : ∀ member ∈ members, ValueFits member.2) :
    OnlyReceiptErrors (validateGpuAssertions members) := by
  refine raises_bind (onlyReceiptErrors_item exact_ (by simp [topLevelKeys]))
    fun gpuType found => ?_
  have fit : ValueFits gpuType := fits _ (mem_of_lookup (demand_eq_ok.mp found))
  repeat' first
    | exact onlyReceiptErrors_item exact_ (by simp [topLevelKeys])
    | exact onlyReceiptErrors_isGpuType fit
    | exact onlyReceiptErrors_require
    | refine raises_bind ?_ fun _ _ => ?_

theorem onlyReceiptErrors_validateExecutionClass
    (exact_ : hasExactly topLevelKeys members = true)
    (fits : ∀ member ∈ members, ValueFits member.2) :
    OnlyReceiptErrors (validateExecutionClass members) := by
  refine raises_bind (onlyReceiptErrors_item exact_ (by simp [topLevelKeys]))
    fun _ _ => ?_
  split
  · exact onlyReceiptErrors_validateCpuAssertions exact_
  · split
    · exact onlyReceiptErrors_validateGpuAssertions exact_ fits
    · exact raises_error isReceiptError

theorem onlyReceiptErrors_signingKey
    (exact_ : hasExactly topLevelKeys members = true) (trusted : Text → Option VerificationKey) :
    OnlyReceiptErrors (signingKey trusted members) := by
  unfold signingKey
  repeat' first
    | exact onlyReceiptErrors_item exact_ (by simp [topLevelKeys])
    | exact onlyReceiptErrors_demand
    | exact onlyReceiptErrors_require
    | exact raises_pure _
    | refine raises_bind ?_ fun _ _ => ?_

end Validators

/-! ## What a verified receipt says -/

/-- A field that holds a text. -/
def Says (members : List (Text × Json)) (key t : Text) : Prop :=
  Json.lookup key members = some (.str t)

/-- A field that holds a boolean. -/
def Holds (members : List (Text × Json)) (key : Text) (b : Bool) : Prop :=
  Json.lookup key members = some (.bool b)

/-- A field that holds nothing. -/
def Blank (members : List (Text × Json)) (key : Text) : Prop :=
  Json.lookup key members = some .null

/-- The assertions of every execution class. -/
structure CommonAssertions (members : List (Text × Json)) : Prop where
  schema : Says members "schema" customerReceiptSchema
  policy : Says members "policy_digest" policyDigest
  ready : Says members "receipt_status" "ready"
  outcome : ∃ outcome ∈ executionOutcomes, Says members "execution_outcome" outcome
  digests : ∀ name ∈ ([Text.ofString "nonce_sha256", Text.ofString "workload_sha256",
    Text.ofString "result_sha256"] : List Text), ∃ digest, Says members name digest ∧
      Text.isHex 64 digest = true
  bound : Holds members "execution_binding_verified" true
  teardownRequired : Holds members "teardown_required" true
  teardownConfirmed : Holds members "teardown_confirmed" true

/-- The assertions of an execution on a CPU under Intel TDX. -/
structure CpuAssertions (members : List (Text × Json)) : Prop where
  executionClass : Says members "execution_class" "tdx_cpu"
  profile : Says members "profile_id" cpuProfileId
  cpuTee : Says members "cpu_tee" "intel_tdx"
  gpuType : Blank members "gpu_type"
  gpuCount : Json.lookup "gpu_count" members = some (.int 0)
  reportData : Holds members "report_data_match" true
  intel : Holds members "intel_verified" true
  gpuAttestation : Blank members "gpu_attestation_verified"
  guestBinding : Blank members "guest_binding_verified"
  runtimeExecution : Blank members "runtime_execution_verified"

/-- The assertions of an execution on confidential GPUs. -/
structure GpuAssertions (members : List (Text × Json)) : Prop where
  executionClass : Says members "execution_class" "cc_gpu"
  profile : Says members "profile_id" gpuProfileId
  cpuTee : Says members "cpu_tee" "amd_sev"
  gpuType : ∃ name octets, Says members "gpu_type" name ∧ name ≠ [] ∧
    name.utf8 = some octets ∧ octets.length ≤ 128
  gpuCount : ∃ count : ℤ, Json.lookup "gpu_count" members = some (.int count) ∧
    1 ≤ count ∧ count ≤ 16
  reportData : Blank members "report_data_match"
  intel : Blank members "intel_verified"
  gpuAttestation : Holds members "gpu_attestation_verified" true
  guestBinding : Holds members "guest_binding_verified" true
  runtimeExecution : Holds members "runtime_execution_verified" true

/-- The billing fields tell that the execution was charged, or that it was not. -/
def BillingAgrees (members : List (Text × Json)) : Prop :=
  Holds members "billed" true ∧ Says members "billing_status" "billed" ∧
      Says members "billing_outcome" "charged" ∨
    Holds members "billed" false ∧
      (Says members "billing_status" "trusted_service" ∨
        Says members "billing_status" "complimentary") ∧
      Says members "billing_outcome" "not_charged"

/-- The key that signed a receipt: it is in the ring, not revoked, valid at the issue
time, and its signature verifies. -/
def SignedBy (p : Platform) (ed : Ed25519 p) (trusted : Text → Option VerificationKey)
    (members : List (Text × Json)) (issuedAt : Instant) (key : VerificationKey) : Prop :=
  ∃ keyId signature signed, Says members "signing_key_id" keyId ∧ trusted keyId = some key ∧
    key.status ≠ Text.ofString "revoked" ∧ key.validFrom ≤ issuedAt ∧ issuedAt < key.validUntil ∧
    customerReceiptSignedBytes p members = .ok signed ∧
    ed.verify key.publicKey signature signed = true

/-- What a verified receipt says. -/
structure Vouched (p : Platform) (ed : Ed25519 p) (trusted : Text → Option VerificationKey)
    (data : Bytes) (receipt : VerifiedCustomerReceipt) : Prop where
  octets : receipt.receiptBytes = data
  document : documentOf p data = some (.obj receipt.document)
  canonical : canonicalJson p (.obj receipt.document) = some data
  issued : ∃ value, Json.lookup "issued_at" receipt.document = some value ∧
    timeOf p value "receipt issued_at" = .ok receipt.issuedAt
  key : ∃ key, SignedBy p ed trusted receipt.document receipt.issuedAt key
  common : CommonAssertions receipt.document
  /-- The assertions of one execution class hold, and of no other. -/
  executionClass : Xor (CpuAssertions receipt.document) (GpuAssertions receipt.document)
  billing : BillingAgrees receipt.document

section Reading

variable {p : Platform} {members : List (Text × Json)} {value : Json}

@[simp] theorem item_eq_ok {key : Text} :
    item members key = .ok value ↔ Json.lookup key members = some value := demand_eq_ok

theorem isTrue_iff : Json.isTrue value = true ↔ value = .bool true := by
  cases value with
  | bool b => cases b <;> simp [Json.isTrue]
  | _ => simp [Json.isTrue]

theorem isNull_iff : isNull value = true ↔ value = .null := by
  cases value <;> simp [isNull]

theorem textOfJson_eq_some {t : Text} : textOfJson value = some t ↔ value = .str t := by
  cases value <;> simp [textOfJson]

theorem boolOfJson_eq_some {b : Bool} : boolOfJson value = some b ↔ value = .bool b := by
  cases value <;> simp [boolOfJson]

theorem intOfJson_eq_some {z : ℤ} : intOfJson value = some z ↔ value = .int z := by
  cases value <;> simp [intOfJson]

theorem memberOf_iff {options : List Text} :
    memberOf options value = true ↔ ∃ t ∈ options, value = .str t := by
  simp only [memberOf, Option.any_eq_true, textOfJson_eq_some, decide_eq_true_eq]
  exact ⟨fun ⟨t, same, listed⟩ => ⟨t, listed, same⟩, fun ⟨t, listed, same⟩ => ⟨t, same, listed⟩⟩

/-- Zero, and neither `False` nor a float. -/
theorem eq_zero_of_equalsInt (fits : ValueFits value) (number : boolOfJson value = none)
    (zero : Json.equalsInt 0 (some value) = true) : value = .int 0 := by
  cases value with
  | int z =>
    have : (0 : ℤ) = z := by simpa [Json.equalsInt] using zero
    rw [this]
  | bool b => cases number
  | float x => exact fits.elim
  | _ => simp [Json.equalsInt] at zero

theorem holds_of_requireTrue {name : Text} {complaint : String} {u : Unit}
    (passed : requireTrue members name complaint = .ok u) : Holds members name true := by
  simp only [requireTrue, requireBool, bind_eq_ok, item_eq_ok, demand_eq_ok, require_eq_ok,
    boolOfJson_eq_some] at passed
  obtain ⟨_, found, _, rfl, rfl⟩ := passed
  exact found

theorem says_of_digestField {name t : Text} (passed : digestField members name = .ok t) :
    Says members name t ∧ Text.isHex 64 t = true := by
  simp only [digestField, requireDigest, bind_eq_ok, item_eq_ok, demand_eq_ok,
    Option.filter_eq_some_iff, textOfJson_eq_some] at passed
  obtain ⟨_, found, rfl, hex⟩ := passed
  exact ⟨found, hex⟩

theorem billingAgrees_of_validateBilling {u : Unit}
    (passed : validateBilling members = .ok u) : BillingAgrees members := by
  simp only [validateBilling, requireBool, bind_eq_ok, item_eq_ok, demand_eq_ok,
    boolOfJson_eq_some, require_eq_ok] at passed
  obtain ⟨_, billed, b, rfl, _, status, _, outcome, _, -, agrees⟩ := passed
  cases b with
  | true =>
    simp only [if_true, require_eq_ok, Json.equalsText_iff, Option.some.injEq] at agrees
    obtain ⟨rfl, rfl⟩ := agrees
    exact .inl ⟨billed, status, outcome⟩
  | false =>
    simp only [Bool.false_eq_true, if_false, require_eq_ok, Json.equalsText_iff, memberOf_iff,
      Option.some.injEq] at agrees
    obtain ⟨⟨t, listed, rfl⟩, rfl⟩ := agrees
    refine .inr ⟨billed, ?_, outcome⟩
    rcases List.mem_cons.mp listed with rfl | last
    · exact .inl status
    · exact .inr (List.mem_singleton.mp last ▸ status)

theorem commonAssertions_of_validate {issuedAt : Instant}
    (passed : validateCommonAssertions p members = .ok issuedAt) :
    CommonAssertions members ∧ BillingAgrees members ∧
      ∃ value, Json.lookup "issued_at" members = some value ∧
        timeOf p value "receipt issued_at" = .ok issuedAt := by
  simp only [validateCommonAssertions, bind_eq_ok, item_eq_ok, require_eq_ok, pure_eq_ok,
    Json.equalsText_iff, Option.some.injEq, memberOf_iff] at passed
  obtain ⟨_, schema, _, rfl, _, -, _, -, _, issued, time, read, _, policy, _, rfl, _, ready, _,
    rfl, _, outcome, _, ⟨_, listed, rfl⟩, _, nonce, _, workload, _, result, _, bound, _, required,
    _, confirmed, _, billing, rfl⟩ := passed
  refine ⟨⟨schema, policy, ready, ⟨_, listed, outcome⟩, fun name among => ?_,
    holds_of_requireTrue bound, holds_of_requireTrue required, holds_of_requireTrue confirmed⟩,
    billingAgrees_of_validateBilling billing, _, issued, read⟩
  simp only [List.mem_cons, List.not_mem_nil, or_false] at among
  rcases among with rfl | rfl | rfl
  · exact ⟨_, says_of_digestField nonce⟩
  · exact ⟨_, says_of_digestField workload⟩
  · exact ⟨_, says_of_digestField result⟩

theorem cpuAssertions_of_validate (fits : ∀ member ∈ members, ValueFits member.2) {u : Unit}
    (executionClass : Says members "execution_class" "tdx_cpu")
    (passed : validateCpuAssertions members = .ok u) : CpuAssertions members := by
  simp only [validateCpuAssertions, bind_eq_ok, item_eq_ok, require_eq_ok, Json.equalsText_iff,
    Option.some.injEq, isTrue_iff, isNull_iff] at passed
  obtain ⟨_, profile, _, cpuTee, _, gpuType, _, gpuCount, _, ⟨rfl, rfl, rfl, number, zero⟩,
    _, reportData, _, intel, _, gpuAttestation, _, guestBinding, _, runtimeExecution, rfl, rfl,
    rfl, rfl, rfl⟩ := passed
  obtain rfl := eq_zero_of_equalsInt (fits _ (mem_of_lookup gpuCount)) number zero
  exact ⟨executionClass, profile, cpuTee, gpuType, gpuCount, reportData, intel, gpuAttestation,
    guestBinding, runtimeExecution⟩

theorem isGpuType_eq_ok_true (named : isGpuType value = .ok true) :
    ∃ name octets, value = .str name ∧ name ≠ [] ∧ name.utf8 = some octets ∧
      octets.length ≤ 128 := by
  unfold isGpuType at named
  cases value with
  | str name =>
    simp only [textOfJson] at named
    split at named
    · cases named
    · next filled =>
      simp only [bind_eq_ok, demand_eq_ok, pure_eq_ok, decide_eq_true_eq] at named
      obtain ⟨octets, encoded, short⟩ := named
      exact ⟨name, octets, rfl, filled, encoded, short⟩
  | _ => simp [textOfJson] at named

theorem gpuAssertions_of_validate {u : Unit}
    (executionClass : Says members "execution_class" "cc_gpu")
    (passed : validateGpuAssertions members = .ok u) : GpuAssertions members := by
  simp only [validateGpuAssertions, bind_eq_ok, item_eq_ok, require_eq_ok, Json.equalsText_iff,
    Option.some.injEq, isTrue_iff, isNull_iff, Option.any_eq_true, intOfJson_eq_some] at passed
  obtain ⟨_, gpuType, _, gpuCount, _, profile, _, rfl, _, cpuTee, _, rfl, _, named, _,
    ⟨rfl, count, rfl, within⟩, _, reportData, _, intel, _, gpuAttestation, _, guestBinding, _,
    runtimeExecution, rfl, rfl, rfl, rfl, rfl⟩ := passed
  obtain ⟨name, octets, rfl, filled, encoded, short⟩ := isGpuType_eq_ok_true named
  exact ⟨executionClass, profile, cpuTee, ⟨name, octets, gpuType, filled, encoded, short⟩,
    ⟨count, gpuCount, of_decide_eq_true within⟩, reportData, intel, gpuAttestation, guestBinding, runtimeExecution⟩

theorem executionClass_of_validate (fits : ∀ member ∈ members, ValueFits member.2) {u : Unit}
    (passed : validateExecutionClass members = .ok u) :
    Xor (CpuAssertions members) (GpuAssertions members) := by
  have apart (cpu : CpuAssertions members) (gpu : GpuAssertions members) : False := by
    have same := cpu.executionClass.symm.trans gpu.executionClass
    simp at same
  simp only [validateExecutionClass, bind_eq_ok, item_eq_ok] at passed
  obtain ⟨_, found, passed⟩ := passed
  split at passed
  · next named =>
    obtain rfl := Option.some.inj (Json.equalsText_iff.mp named)
    have cpu := cpuAssertions_of_validate fits found passed
    exact .inl ⟨cpu, fun gpu => apart cpu gpu⟩
  · split at passed
    · next named =>
      obtain rfl := Option.some.inj (Json.equalsText_iff.mp named)
      have gpu := gpuAssertions_of_validate found passed
      exact .inr ⟨gpu, fun cpu => apart cpu gpu⟩
    · cases passed

/-- **Verified.** A verified receipt is canonical, signed by a valid key of the ring, and
consistent. -/
theorem vouched_of_verify {ed : Ed25519 p} {trusted : Text → Option VerificationKey}
    {maxAgeSeconds : Option ℤ} {now : Instant} {data : Bytes} {receipt : VerifiedCustomerReceipt}
    (verified : verifyCustomerReceipt p ed trusted maxAgeSeconds now data = .ok receipt) :
    Vouched p ed trusted data receipt := by
  simp only [verifyCustomerReceipt, signingKey, bind_eq_ok, item_eq_ok, require_eq_ok,
    demand_eq_ok, pure_eq_ok, canonicalCustomerReceiptJson, Option.filter_eq_some_iff,
    textOfJson_eq_some] at verified
  obtain ⟨members, parsed, canonical, written, _, rfl, _, -, _, -, _, -, key,
    ⟨_, named, keyId, ⟨rfl, -⟩, _, ring, _, notRevoked, rfl⟩, signature, -, signed, signs, _,
    ⟨-, verifies⟩, issuedAt, common, _, executionClass, _, ⟨-, start, stop⟩, _, -, _, -, rfl⟩ :=
      verified
  obtain ⟨read, fits⟩ := fits_of_parseJson parsed
  have values := fun member inside => (fits member inside).2
  obtain ⟨assertions, billing, issued⟩ := commonAssertions_of_validate common
  exact ⟨rfl, read, written, issued,
    ⟨_, keyId, signature, signed, named, ring, notRevoked, start, stop, signs, verifies⟩,
    assertions, executionClass_of_validate values executionClass, billing⟩

end Reading

/-! ## What escapes -/

section Escapes

variable {p : Platform} {ed : Ed25519 p} {trusted : Text → Option VerificationKey}
  {maxAgeSeconds : Option ℤ} {now : Instant} {data : Bytes}

/-- Unless the reader breaks, it raises nothing but `CustomerReceiptError`. -/
theorem onlyReceiptErrors_parseJson (sound : ¬ BreaksReader p data) (label : String) :
    OnlyReceiptErrors (parseJson p label data) := by
  intro failure failed
  cases failure with
  | customerReceiptError category message => exact ⟨category, message, rfl⟩
  | unicodeEncodeError => exact absurd (parseJson_eq_unicodeEncodeError.mp failed) sound
  | keyError => exact absurd failed (parseJson_ne_error (by simp))
  | overflowError => exact absurd failed (parseJson_ne_error (by simp))

/-- The age check raises `OverflowError` only beyond what `timedelta` takes. -/
theorem onlyReceiptErrors_checkAge {issuedAt : Instant}
    (bounded : ∀ seconds ∈ maxAgeSeconds, seconds ≤ maxTimedeltaSeconds) :
    OnlyReceiptErrors (checkAge maxAgeSeconds issuedAt now) := by
  cases maxAgeSeconds with
  | none => exact raises_ok ()
  | some seconds =>
    refine raises_bind onlyReceiptErrors_require fun _ _ => ?_
    refine raises_bind onlyReceiptErrors_require fun _ _ => ?_
    refine raises_bind ?_ fun _ _ => onlyReceiptErrors_require
    rw [require, if_pos (bounded seconds rfl)]
    exact raises_ok ()

/-- Behind the reader the verifier raises nothing but `CustomerReceiptError`. -/
theorem onlyReceiptErrors_verify (sound : ¬ BreaksReader p data)
    (bounded : ∀ seconds ∈ maxAgeSeconds, seconds ≤ maxTimedeltaSeconds) :
    OnlyReceiptErrors (verifyCustomerReceipt p ed trusted maxAgeSeconds now data) := by
  refine raises_bind (onlyReceiptErrors_parseJson sound _) fun members parsed => ?_
  obtain ⟨-, fits⟩ := fits_of_parseJson parsed
  refine raises_bind onlyReceiptErrors_demand fun _ _ => ?_
  refine raises_bind onlyReceiptErrors_require fun _ _ => ?_
  refine raises_bind onlyReceiptErrors_require fun _ checked => ?_
  have exact_ := require_eq_ok.mp checked
  repeat' first
    | exact onlyReceiptErrors_item exact_ (by simp [topLevelKeys])
    | exact onlyReceiptErrors_signingKey exact_ trusted
    | exact onlyReceiptErrors_validateSignatureShape
    | exact onlyReceiptErrors_validateCommonAssertions exact_
    | exact onlyReceiptErrors_validateExecutionClass exact_ fun member inside =>
        (fits member inside).2
    | exact onlyReceiptErrors_checkAge bounded
    | exact onlyReceiptErrors_demand
    | exact onlyReceiptErrors_require
    | exact raises_pure _
    | refine raises_bind ?_ fun _ _ => ?_

theorem onlyReceiptErrors_parseKeys (sound : ¬ BreaksReader p data) :
    OnlyReceiptErrors (parseCustomerReceiptTrustedKeysJson p data) := by
  refine raises_bind (onlyReceiptErrors_parseJson sound _) fun members _ => ?_
  refine raises_bind onlyReceiptErrors_require fun _ _ => ?_
  refine raises_bind onlyReceiptErrors_demand fun _ _ => ?_
  refine raises_bind onlyReceiptErrors_require fun _ _ => ?_
  exact raises_mapM fun raw _ => onlyReceiptErrors_trustedKeyOf raw

/-- Where the reader breaks, so do both of its callers. -/
theorem verify_of_breaks (breaks : BreaksReader p data) :
    verifyCustomerReceipt p ed trusted maxAgeSeconds now data = .error .unicodeEncodeError := by
  rw [verifyCustomerReceipt, parseJson_eq_unicodeEncodeError.mpr breaks]
  rfl

theorem parseKeys_of_breaks (breaks : BreaksReader p data) :
    parseCustomerReceiptTrustedKeysJson p data = .error .unicodeEncodeError := by
  rw [parseCustomerReceiptTrustedKeysJson, parseJson_eq_unicodeEncodeError.mpr breaks]
  rfl

/-- What the verifier promises for octets and a keyring: no other exception, from the
verifier or from the reader of keyrings, and a receipt that says what it should. -/
def FailsStable (p : Platform) (ed : Ed25519 p) (trusted : Text → Option VerificationKey)
    (now : Instant) (data : Bytes) : Prop :=
  OnlyReceiptErrors (verifyCustomerReceipt p ed trusted none now data) ∧
    OnlyReceiptErrors (parseCustomerReceiptTrustedKeysJson p data) ∧
    ∀ receipt, verifyCustomerReceipt p ed trusted none now data = .ok receipt →
      Vouched p ed trusted data receipt

/-- **Exceptions.** The promise holds exactly where the walk does not come upon a key that
holds a lone surrogate. -/
theorem customer_receipt_errors_iff (p : Platform) (ed : Ed25519 p)
    (trusted : Text → Option VerificationKey) (now : Instant) (data : Bytes) :
    FailsStable p ed trusted now data ↔ ¬ BreaksReader p data := by
  constructor
  · rintro ⟨verifies, -, -⟩ breaks
    obtain ⟨_, _, same⟩ := verifies _ (verify_of_breaks breaks)
    cases same
  · intro sound
    have unlimited : ∀ seconds ∈ (none : Option ℤ), seconds ≤ maxTimedeltaSeconds := by simp
    exact ⟨onlyReceiptErrors_verify sound unlimited, onlyReceiptErrors_parseKeys sound,
      fun _ verified => vouched_of_verify verified⟩

/-- Signatures of zero octets. -/
def sampleEd25519 : Ed25519 Platform.sample where
  publicKey _ := List.replicate 32 0
  verify _ signature _ := signature = List.replicate 64 0
  length_publicKey _ _ := List.length_replicate
  length_sign _ _ _ := List.length_replicate
  verify_sign _ _ _ := decide_eq_true rfl

/-- `{"\ud800":1}`. -/
def surrogateKey : Bytes :=
  [0x7b, 0x22, 0x5c, 0x75, 0x64, 0x38, 0x30, 0x30, 0x22, 0x3a, 0x31, 0x7d]

/-- An escaped lone surrogate in a key makes both readers raise `UnicodeEncodeError`. -/
theorem not_failsStable_surrogateKey :
    (verifyCustomerReceipt Platform.sample sampleEd25519 (fun _ => none) none 0 surrogateKey =
        .error .unicodeEncodeError ∧
      parseCustomerReceiptTrustedKeysJson Platform.sample surrogateKey =
        .error .unicodeEncodeError) ∧
      ¬ FailsStable Platform.sample sampleEd25519 (fun _ => none) 0 surrogateKey := by
  have breaks : BreaksReader Platform.sample surrogateKey := by
    have failed : (parseJson Platform.sample "customer receipt" surrogateKey).map (fun _ => ()) =
        .error .unicodeEncodeError := by decide +kernel
    refine (@parseJson_eq_unicodeEncodeError _ "customer receipt" _).mp ?_
    cases read : parseJson Platform.sample "customer receipt" surrogateKey with
    | ok members => rw [read] at failed; cases failed
    | error failure => rw [read] at failed; cases failed; rfl
  refine ⟨⟨verify_of_breaks breaks, parseKeys_of_breaks breaks⟩, fun stable => ?_⟩
  obtain ⟨_, _, same⟩ := stable.1 _ (verify_of_breaks breaks)
  cases same

end Escapes

end Cathedral.CustomerReceipt
