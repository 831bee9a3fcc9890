import CathedralCompute.Codec.Base64
import CathedralCompute.Codec.JsonStrict
import CathedralCompute.Codec.SecondTimestamp
import CathedralCompute.Registry.RegistryJson

/-!
# Signed policy registries

A registry is one JSON document: a release number, a validity window, the profiles of
machines that may work, the keys that may sign receipts, and a signature over all of it.
`verifyRegistry` reads one, and what it returns is a snapshot every field of which was
checked.

The signature scheme is a parameter. A clock is a parameter too: the reader asks it for
the time where the caller does not say what time it is.

## Main definitions

* `verifyRegistry`, `signRegistry`
* `PolicyProfile.eligibleAt`, `ReceiptVerificationKey.canSignAt`, `canVerifyAt`
* `PolicyProfile.Sound`, `ReceiptVerificationKey.Sound`, `Snapshot.Sound` — what was checked

## Main results

* `sound_of_verifyRegistry` — a verified snapshot meets every check
-/

set_option autoImplicit false

namespace Cathedral.PolicyRegistry

open Codec Semantics

/-- The exceptions of the readers: `PolicyRegistryError`, and what they let through. -/
inductive Fault where
  | policyRegistryError (message : Text)
  | typeError
  | unicodeEncodeError
  | overflowError
deriving DecidableEq

abbrev Checked := Except Fault

/-- `PolicyRegistryError` about something named. -/
def refused (name : Text) (complaint : String) : Fault :=
  .policyRegistryError (name ++ Text.ofString complaint)

/-- Ed25519 around the platform's `sign`. -/
structure Ed25519 (p : Platform) where
  /-- The public key of a private key seed. -/
  publicKey : Bytes → Bytes
  /-- Whether the octets sign the message under the public key. -/
  verify : Bytes → Bytes → Bytes → Bool
  length_publicKey : ∀ seed, seed.length = 32 → (publicKey seed).length = 32
  length_sign : ∀ seed message, seed.length = 32 → (p.sign seed message).length = 64
  verify_sign : ∀ seed message, seed.length = 32 →
    verify (publicKey seed) (p.sign seed message) message = true

/-! ## Parts of a document -/

def registrySchema : Text := "cathedral_policy_registry_v1"

def maxRegistryProfiles : ℕ := 1024

def maxPolicyListItems : ℕ := 4096

def maxMetadataDepth : ℕ := 32

def maxMetadataNodes : ℕ := 10000

def maxMetadataStringBytes : ℕ := 16384

def maxMetadataKeyBytes : ℕ := 256

def isIdHead (c : CodePoint) : Bool := Text.isDigit c || Text.inRange 'a' 'z' c

/-- `_ID_RE`. -/
def isRegistryId : Text → Bool
  | [] => false
  | c :: rest => isIdHead c && rest.length ≤ 127 &&
      rest.all fun c => isIdHead c || c ∈ ([0x2e, 0x5f, 0x2d] : Text)

/-- `parse_registry_json`. -/
def parseRegistry (data : Bytes) : Checked (List (Text × Json)) := do
  require (data.length ≤ maxRegistryBytes)
    (.policyRegistryError "registry exceeds the maximum encoded size")
  let document ← demand (.policyRegistryError "registry is not valid UTF-8 JSON")
    ((utf8Decode false data).bind (loads registryHooks))
  demand (.policyRegistryError "registry must be a JSON object") (membersOfJson document)

/-- `canonical_json`. -/
def canonical (p : Platform) (document : Json) : Checked Bytes :=
  demand (.policyRegistryError "registry contains a non-canonical value")
    (canonicalJson p document)

/-- A document without its signature. -/
def unsigned (members : List (Text × Json)) : List (Text × Json) :=
  members.filter fun member => member.1 ≠ "signature"

/-- `canonical_signed_bytes`. -/
def canonicalSignedBytes (p : Platform) (members : List (Text × Json)) : Checked Bytes :=
  canonical p (.obj (unsigned members))

/-- The places of a time where `strptime` takes any decimal digit: the year, and the
second digit of the day, the hour, the minute and the second after the digits it allows. -/
def takesAnyDigit (t : Text) (place : ℕ) : Bool :=
  place < 4 ||
    (place = 9 && (t[8]? = some 0x31 || t[8]? = some 0x32)) ||
    (place = 12 && (t[11]? = some 0x30 || t[11]? = some 0x31)) ||
    place = 15 || place = 18

/-- A time with the digits outside ASCII replaced where they are taken. -/
def plainTime (p : Platform) (t : Text) : Text :=
  t.mapIdx fun place c =>
    if 0x80 ≤ c.val ∧ takesAnyDigit t place then ((p.unicodeDigit c).map digit).getD c else c

/-- `_timestamp`. -/
def timestamp (p : Platform) (value : Json) (name : Text) : Checked Instant :=
  demand (refused name " must be canonical UTC time")
    ((textOfJson value).bind fun t => Instant.parseSecond (plainTime p t))

/-- A text of a list. -/
def isBoundedText (t : Text) : Bool := t ≠ [] ∧ t.length ≤ 512

/-- `_string_list`. -/
def stringList (value : Json) (name : Text) (allowEmpty : Bool) : Checked (List Text) := do
  let texts ← demand (refused name " must be a list of bounded strings")
    ((itemsOfJson value).bind fun items => items.mapM textOfJson)
  require (texts.all isBoundedText) (refused name " must be a list of bounded strings")
  require (texts.length ≤ maxPolicyListItems) (refused name " contains too many entries")
  require (allowEmpty = true ∨ texts ≠ []) (refused name " cannot be empty")
  require texts.Nodup (refused name " cannot contain duplicates")
  return texts

/-- The octets of a text; a lone surrogate has none. -/
def encoded (t : Text) : Checked Bytes := demand .unicodeEncodeError t.utf8

/-- The check of the keys of an object: the first that is too long or cannot be encoded
decides. -/
def checkKeys (name : Text) : List Text → Checked Unit
  | [] => .ok ()
  | key :: keys => do
    let octets ← encoded key
    require (octets.length ≤ maxMetadataKeyBytes) (refused name " contains an oversized key")
    checkKeys name keys

/-- One more value of the metadata, at a depth. -/
def countNode (name : Text) (depth nodes : ℕ) : Checked ℕ := do
  require (nodes + 1 ≤ maxMetadataNodes ∧ depth ≤ maxMetadataDepth)
    (refused name " is too deeply nested or complex")
  return nodes + 1

mutual

/-- The walk of `_validate_metadata`, which counts the values it has seen. -/
def freeze (name : Text) (depth nodes : ℕ) : Json → Checked ℕ
  | .str t => do
    let nodes ← countNode name depth nodes
    let octets ← encoded t
    require (octets.length ≤ maxMetadataStringBytes) (refused name " contains an oversized string")
    return nodes
  | .float _ => do
    let _ ← countNode name depth nodes
    throw (refused name " contains a non-canonical value")
  | .arr items => do
    let nodes ← countNode name depth nodes
    freezeItems name (depth + 1) nodes items
  | .obj members => do
    let nodes ← countNode name depth nodes
    checkKeys name (members.map Prod.fst)
    freezeMembers name (depth + 1) nodes members
  | _ => countNode name depth nodes

def freezeItems (name : Text) (depth nodes : ℕ) : List Json → Checked ℕ
  | [] => .ok nodes
  | item :: items => do
    let nodes ← freeze name depth nodes item
    freezeItems name depth nodes items

def freezeMembers (name : Text) (depth nodes : ℕ) : List (Text × Json) → Checked ℕ
  | [] => .ok nodes
  | (_, value) :: members => do
    let nodes ← freeze name depth nodes value
    freezeMembers name depth nodes members

end

/-- `_validate_metadata`. -/
def validateMetadata (value : Json) (name : Text) : Checked Json := do
  let members ← demand (refused name " must be an object") (membersOfJson value)
  let _ ← freeze name 0 0 (.obj members)
  return .obj members

/-- `value in options`, where the options are texts: a list and an object cannot be
looked up. -/
def chosen {α : Type} (options : List (Text × α)) (message : Text) : Json → Checked α
  | .arr _ => .error .typeError
  | .obj _ => .error .typeError
  | .str t => demand (.policyRegistryError message)
      ((options.find? fun option => option.1 = t).map Prod.snd)
  | _ => .error (.policyRegistryError message)

/-- An integer that is no boolean, within bounds. -/
def boundedInteger (value : Json) (low high : ℤ) (message : Text) : Checked ℤ :=
  demand (.policyRegistryError message)
    ((intOfJson value).filter fun z => low ≤ z ∧ z ≤ high)

/-- An id. -/
def idOf (value : Json) (message : Text) : Checked Text :=
  demand (.policyRegistryError message) ((textOfJson value).filter isRegistryId)

/-- So many octets in canonical Base64. -/
def octetsOf (value : Json) (count : ℕ) (notBase64 wrongLength : Text) : Checked Bytes := do
  let text ← demand (.policyRegistryError notBase64) (textOfJson value)
  let octets ← demand (.policyRegistryError notBase64) (base64Decode text)
  require (octets.length = count ∧ base64 octets = text) (.policyRegistryError wrongLength)
  return octets

/-- `None`, or what the reader reads. -/
def optionalOf {α : Type} (read : Json → Checked α) : Json → Checked (Option α)
  | .null => .ok none
  | value => (read value).map some

/-! ## Profiles -/

inductive ProfileKind where
  | cpuTdx
  | cpuSnp
  | gpuCc
deriving DecidableEq

/-- `_PROFILE_KINDS`. -/
def profileKinds : List (Text × ProfileKind) :=
  [("cpu_tdx", .cpuTdx), ("cpu_snp", .cpuSnp), ("gpu_cc", .gpuCc)]

inductive ProfileStatus where
  | active
  | retiring
  | retired
  | revoked
deriving DecidableEq

def ProfileStatus.value : ProfileStatus → Text
  | active => "active"
  | retiring => "retiring"
  | retired => "retired"
  | revoked => "revoked"

/-- `_PROFILE_STATUSES`. -/
def profileStatuses : List (Text × ProfileStatus) :=
  [.active, .retiring, .retired, .revoked].map fun status => (status.value, status)

structure PolicyProfile where
  profileId : Text
  kind : ProfileKind
  status : ProfileStatus
  statusChangedAt : Instant
  validFrom : Instant
  validUntil : Instant
  retireAt : Option Instant
  measurements : List Text
  runtimeMeasurements : List Text
  allowedFirmware : List Text
  minTcb : ℤ
  tdxAllowedTcbStatuses : List Text
  tdxAllowedAdvisories : List Text
  metadata : Json

/-- `PolicyProfile.eligible_at`. -/
def PolicyProfile.eligibleAt (profile : PolicyProfile) (when_ : Instant) : Bool :=
  if profile.status ≠ .active ∧ profile.status ≠ .retiring then false
  else if ¬ (profile.validFrom ≤ profile.statusChangedAt ∧ profile.statusChangedAt ≤ when_ ∧
      when_ < profile.validUntil) then false
  else ¬ (profile.status = .retiring ∧ ∃ retire ∈ profile.retireAt, retire ≤ when_)

/-- `_PROFILE_KEYS`. -/
def profileKeys : List Text :=
  ["id", "kind", "status", "status_changed_at", "valid_from", "valid_until", "retire_at",
    "measurements", "runtime_measurements", "allowed_firmware", "min_tcb",
    "tdx_allowed_tcb_statuses", "tdx_allowed_advisories", "metadata"]

/-- What `_profile` checks of the end of a profile's life. -/
def checkRetirement (status : ProfileStatus) (changed validUntil : Instant)
    (retireAt : Option Instant) : Checked Unit :=
  match status with
  | .retiring => require (∃ retire ∈ retireAt, changed ≤ retire ∧ retire ≤ validUntil)
      (.policyRegistryError "retiring profile requires a bounded retire_at")
  | .active => require (retireAt = none)
      (.policyRegistryError "active profile cannot set retire_at")
  | _ => require (retireAt = some changed)
      (.policyRegistryError "terminal profile retire_at must equal its status transition time")

/-- `_profile`. -/
def profileOf (p : Platform) (registryFrom registryUntil : Instant) (raw : Json) :
    Checked PolicyProfile := do
  let members ← demand
    (.policyRegistryError "profile contains missing or unknown critical fields")
    ((membersOfJson raw).filter (hasExactly profileKeys))
  let profileId ← idOf (field members "id") "profile id is invalid"
  let kind ← chosen profileKinds "profile kind is unsupported" (field members "kind")
  let status ← chosen profileStatuses "profile status is unsupported" (field members "status")
  let changed ← timestamp p (field members "status_changed_at") "profile status_changed_at"
  let validFrom ← timestamp p (field members "valid_from") "profile valid_from"
  let validUntil ← timestamp p (field members "valid_until") "profile valid_until"
  require (registryFrom ≤ validFrom ∧ validFrom < validUntil ∧ validUntil ≤ registryUntil)
    (.policyRegistryError "profile validity must fit inside registry validity")
  require (validFrom ≤ changed ∧ changed < validUntil)
    (.policyRegistryError "profile status change must fall inside its validity")
  let retireAt ← optionalOf (timestamp p · "profile retire_at") (field members "retire_at")
  checkRetirement status changed validUntil retireAt
  let minTcb ← boundedInteger (field members "min_tcb") 0 maxSqliteInteger
    "profile min_tcb must be a bounded nonnegative integer"
  let measurements ← stringList (field members "measurements") "profile measurements"
    (kind = .gpuCc)
  let runtimeMeasurements ← stringList (field members "runtime_measurements")
    "profile runtime_measurements" true
  let firmware ← stringList (field members "allowed_firmware") "profile allowed_firmware" true
  let statuses ← stringList (field members "tdx_allowed_tcb_statuses")
    "profile tdx_allowed_tcb_statuses" (kind ≠ .cpuTdx)
  let advisories ← stringList (field members "tdx_allowed_advisories")
    "profile tdx_allowed_advisories" true
  require (kind = .cpuTdx ∨ (statuses = [] ∧ advisories = []))
    (.policyRegistryError "non-TDX profile cannot set TDX controls")
  let metadata ← validateMetadata (field members "metadata") "profile metadata"
  return {
    profileId, kind, status, statusChangedAt := changed, validFrom, validUntil, retireAt,
    measurements, runtimeMeasurements, allowedFirmware := firmware, minTcb,
    tdxAllowedTcbStatuses := statuses, tdxAllowedAdvisories := advisories, metadata }

/-! ## Receipt keys -/

inductive KeyStatus where
  | active
  | retired
  | revoked
deriving DecidableEq

def KeyStatus.value : KeyStatus → Text
  | active => "active"
  | retired => "retired"
  | revoked => "revoked"

/-- `_RECEIPT_KEY_STATUSES`. -/
def keyStatuses : List (Text × KeyStatus) :=
  [.active, .retired, .revoked].map fun status => (status.value, status)

structure ReceiptVerificationKey where
  keyId : Text
  publicKey : Bytes
  status : KeyStatus
  statusChangedAt : Instant
  validFrom : Instant
  validUntil : Instant
  revokedAt : Option Instant
  replacementKeyId : Option Text
  metadata : Json

/-- `ReceiptVerificationKey.can_sign_at`. -/
def ReceiptVerificationKey.canSignAt (key : ReceiptVerificationKey) (when_ : Instant) : Bool :=
  key.status = .active ∧ key.validFrom ≤ key.statusChangedAt ∧ key.statusChangedAt ≤ when_ ∧
    when_ < key.validUntil

/-- `ReceiptVerificationKey.can_verify_at`. -/
def ReceiptVerificationKey.canVerifyAt (key : ReceiptVerificationKey) (when_ : Instant) : Bool :=
  if key.status = .revoked then false
  else
    let cutoff := if key.status = .retired then key.statusChangedAt else key.validUntil
    key.validFrom ≤ when_ ∧ when_ < min cutoff key.validUntil

/-- `_RECEIPT_KEY_KEYS`. -/
def receiptKeyKeys : List Text :=
  ["id", "algorithm", "public_key_base64", "purpose", "status", "status_changed_at", "valid_from",
    "valid_until", "revoked_at", "replacement_key_id", "metadata"]

/-- What `_receipt_key` checks of a revocation. -/
def checkRevocation (status : KeyStatus) (changed : Instant) (revokedAt : Option Instant) :
    Checked Unit :=
  if status = .revoked then
    require (revokedAt = some changed)
      (.policyRegistryError "revoked receipt key time must equal its status transition time")
  else
    require (revokedAt = none)
      (.policyRegistryError "non-revoked receipt key cannot set revoked_at")

/-- `_receipt_key`. -/
def receiptKeyOf (p : Platform) (registryFrom registryUntil : Instant) (raw : Json) :
    Checked ReceiptVerificationKey := do
  let members ← demand
    (.policyRegistryError "receipt signing key contains missing or unknown critical fields")
    ((membersOfJson raw).filter (hasExactly receiptKeyKeys))
  let keyId ← idOf (field members "id") "receipt signing key id is invalid"
  require (Json.equalsText "ed25519" (some (field members "algorithm")) ∧
      Json.equalsText "assurance_receipt" (some (field members "purpose")))
    (.policyRegistryError "receipt signing key algorithm or purpose is unsupported")
  let publicKey ← octetsOf (field members "public_key_base64") 32
    "receipt signing key is not canonical base64" "receipt signing key must be 32 bytes"
  let status ← chosen keyStatuses "receipt signing key status is unsupported"
    (field members "status")
  let changed ← timestamp p (field members "status_changed_at") "receipt key status_changed_at"
  let validFrom ← timestamp p (field members "valid_from") "receipt key valid_from"
  let validUntil ← timestamp p (field members "valid_until") "receipt key valid_until"
  require (registryFrom ≤ validFrom ∧ validFrom < validUntil ∧ validUntil ≤ registryUntil)
    (.policyRegistryError "receipt key validity must fit inside registry validity")
  require (validFrom ≤ changed ∧ changed < validUntil)
    (.policyRegistryError "receipt key status change must fall inside its validity")
  let revokedAt ← optionalOf (timestamp p · "receipt key revoked_at") (field members "revoked_at")
  checkRevocation status changed revokedAt
  let replacement ← optionalOf (idOf · "receipt key replacement id is invalid")
    (field members "replacement_key_id")
  require (replacement ≠ some keyId)
    (.policyRegistryError "receipt key replacement id is invalid")
  let metadata ← validateMetadata (field members "metadata") "receipt key metadata"
  return {
    keyId, publicKey, status, statusChangedAt := changed, validFrom, validUntil, revokedAt,
    replacementKeyId := replacement, metadata }

/-! ## The registry -/

/-- `PolicyRegistrySnapshot`. -/
structure Snapshot where
  release : ℤ
  generatedAt : Instant
  validFrom : Instant
  validUntil : Instant
  signingKeyId : Text
  digest : Text
  profiles : List PolicyProfile
  receiptSigningKeys : List ReceiptVerificationKey
  metadata : Json
  canonicalDocument : Bytes
  signatureVerified : Bool

/-- `PolicyRegistrySnapshot.receipt_key`. -/
def Snapshot.receiptKey (snapshot : Snapshot) (keyId : Text) : Option ReceiptVerificationKey :=
  snapshot.receiptSigningKeys.find? fun key => key.keyId = keyId

/-- `_TOP_LEVEL_KEYS`. -/
def topLevelKeys : List Text :=
  ["schema", "release", "generated_at", "valid_from", "valid_until", "signing_key_id",
    "receipt_signing_keys", "profiles", "metadata", "signature"]

/-- When a registry is verified: the caller's `now`, `max_age_seconds` and
`historical_at`, and what the clock shows each time it is asked. -/
structure Occasion where
  now : Option Instant
  maxAgeSeconds : ℤ
  historicalAt : Option Instant
  clock : Instant
  wallClock : Instant

/-- `historical_at or now or datetime.now(UTC)`. -/
def Occasion.checkTime (occasion : Occasion) : Instant :=
  (occasion.historicalAt.or occasion.now).getD occasion.clock

/-- The largest number of seconds a `timedelta` holds. -/
def maxDeltaSeconds : ℤ := 86399999999999

/-- A time and so many seconds; `datetime` ends with year 9999. -/
def later (time : Instant) (seconds : ℤ) : Checked Instant := do
  require (seconds ≤ maxDeltaSeconds ∧ (time : ℤ) + seconds * 1000000 < Instant.limit)
    .overflowError
  return ((time : ℤ) + seconds * 1000000).toNat

/-- The window, the age and the publication time of a registry. -/
def checkWindow (generated validFrom validUntil : Instant) (occasion : Occasion) :
    Checked Unit := do
  require (validFrom < validUntil)
    (.policyRegistryError "registry validity window is invalid")
  require (generated < validUntil)
    (.policyRegistryError "registry publication time must precede expiry")
  require (validFrom ≤ occasion.checkTime ∧ occasion.checkTime < validUntil)
    (.policyRegistryError "registry is outside its validity window")
  let horizon ← later (occasion.now.getD occasion.wallClock) 300
  require (generated ≤ horizon)
    (.policyRegistryError "registry generation time is in the future")
  checkIf occasion.historicalAt.isNone (do
    require (0 < occasion.maxAgeSeconds)
      (.policyRegistryError "registry maximum age must be positive")
    require (occasion.maxAgeSeconds ≤ maxDeltaSeconds) .overflowError
    require ((occasion.checkTime : ℤ) - generated ≤ occasion.maxAgeSeconds * 1000000)
      (.policyRegistryError "registry is too stale for admission"))

/-- Whether a status change counts at the time: the first of a key or profile may lie
ahead. -/
def takesEffect (active : Bool) (changed validFrom checkTime : Instant) : Bool :=
  changed ≤ checkTime ∨ (active = true ∧ changed = validFrom)

/-- The profiles of a registry. -/
def profilesOf (p : Platform) (validFrom validUntil checkTime : Instant) (raw : Json) :
    Checked (List PolicyProfile) := do
  let items ← demand (.policyRegistryError "registry profiles must be a nonempty list")
    ((itemsOfJson raw).filter fun items => items ≠ [] ∧ items.length ≤ maxRegistryProfiles)
  let profiles ← items.mapM (profileOf p validFrom validUntil)
  require (∀ profile ∈ profiles, takesEffect (profile.status = .active) profile.statusChangedAt
      profile.validFrom checkTime)
    (.policyRegistryError "profile status transition is not yet effective")
  require (profiles.map PolicyProfile.profileId).Nodup
    (.policyRegistryError "registry profile ids must be unique")
  return profiles

/-- The receipt keys of a registry. -/
def receiptKeysOf (p : Platform) (validFrom validUntil checkTime : Instant) (raw : Json) :
    Checked (List ReceiptVerificationKey) := do
  let items ← demand (.policyRegistryError "receipt signing keys must be a bounded list")
    ((itemsOfJson raw).filter fun items => items.length ≤ 128)
  let keys ← items.mapM (receiptKeyOf p validFrom validUntil)
  require (∀ key ∈ keys, takesEffect (key.status = .active) key.statusChangedAt key.validFrom
      checkTime)
    (.policyRegistryError "receipt signing key status transition is not yet effective")
  require (keys.map ReceiptVerificationKey.keyId).Nodup
    (.policyRegistryError "receipt signing key ids must be unique")
  require (∀ key ∈ keys, ∀ other ∈ key.replacementKeyId,
      other ∈ keys.map ReceiptVerificationKey.keyId)
    (.policyRegistryError "receipt replacement key must exist in the registry")
  return keys

/-- The check of the signature under the trusted key that the registry names. -/
def checkSignature (p : Platform) (ed : Ed25519 p) (trusted : Text → Option Bytes)
    (members : List (Text × Json)) : Checked Text := do
  let keyId ← idOf (field members "signing_key_id") "registry signing key id is invalid"
  let key ← demand (.policyRegistryError "registry signing key is not trusted")
    ((trusted keyId).filter fun key => key.length = 32)
  let signature ← demand (.policyRegistryError "registry signature object is invalid")
    ((membersOfJson (field members "signature")).filter
      (hasExactly ["algorithm", "value_base64"]))
  require (Json.equalsText "ed25519" (some (field signature "algorithm")))
    (.policyRegistryError "registry signature algorithm is unsupported")
  let octets ← octetsOf (field signature "value_base64") 64
    "registry signature is not canonical base64" "registry signature must be 64 bytes"
  let signed ← canonicalSignedBytes p members
  require (ed.verify key octets signed)
    (.policyRegistryError "registry signature verification failed")
  return keyId

/-- `verify_registry` of a document. -/
def verifyMembers (p : Platform) (ed : Ed25519 p) (trusted : Text → Option Bytes)
    (occasion : Occasion) (members : List (Text × Json)) : Checked Snapshot := do
  require (hasExactly topLevelKeys members)
    (.policyRegistryError "registry contains missing or unknown critical fields")
  require (Json.equalsText registrySchema (some (field members "schema")))
    (.policyRegistryError "registry schema is unsupported")
  let release ← boundedInteger (field members "release") 1 maxSqliteInteger
    "registry release must be a bounded positive integer"
  let keyId ← checkSignature p ed trusted members
  let generated ← timestamp p (field members "generated_at") "registry generated_at"
  let validFrom ← timestamp p (field members "valid_from") "registry valid_from"
  let validUntil ← timestamp p (field members "valid_until") "registry valid_until"
  checkWindow generated validFrom validUntil occasion
  let profiles ← profilesOf p validFrom validUntil occasion.checkTime (field members "profiles")
  let keys ← receiptKeysOf p validFrom validUntil occasion.checkTime
    (field members "receipt_signing_keys")
  let document ← canonical p (.obj members)
  let metadata ← validateMetadata (field members "metadata") "registry metadata"
  return {
    release, generatedAt := generated, validFrom, validUntil, signingKeyId := keyId,
    digest := sha256Digest document, profiles, receiptSigningKeys := keys, metadata,
    canonicalDocument := document, signatureVerified := true }

/-- `verify_registry`. -/
def verifyRegistry (p : Platform) (ed : Ed25519 p) (trusted : Text → Option Bytes)
    (occasion : Occasion) (data : Bytes) : Checked Snapshot := do
  let members ← parseRegistry data
  verifyMembers p ed trusted occasion members

theorem verifyRegistry_of_parsed {p : Platform} {ed : Ed25519 p}
    {trusted : Text → Option Bytes} {occasion : Occasion} {data : Bytes}
    {members : List (Text × Json)} (parsed : parseRegistry data = .ok members) :
    verifyRegistry p ed trusted occasion data = verifyMembers p ed trusted occasion members := by
  rw [verifyRegistry, parsed]
  rfl

/-- `sign_registry`. -/
def signRegistry (p : Platform) (members : List (Text × Json)) (seed : Bytes) :
    Checked (List (Text × Json)) := do
  require (Text.ofString "signature" ∉ members.map Prod.fst)
    (.policyRegistryError "unsigned registry must not contain signature")
  require (seed.length = 32)
    (.policyRegistryError "Ed25519 private key seed must be 32 bytes")
  let signed ← canonical p (.obj members)
  return members ++ [(Text.ofString "signature", Json.obj [("algorithm", .str "ed25519"),
    ("value_base64", .str (base64 (p.sign seed signed)))])]

/-! ## What was checked -/

/-- A whole second of the first 9999 years, as every time of a registry is. -/
def IsSecond (time : Instant) : Prop := time < Instant.limit ∧ Instant.floorSecond time = time

theorem isSecond_of_timestamp {p : Platform} {value : Json} {name : Text} {time : Instant}
    (read : timestamp p value name = .ok time) : IsSecond time := by
  simp only [timestamp, demand_eq_ok, Option.bind_eq_some_iff] at read
  obtain ⟨_, -, parsed⟩ := read
  exact Instant.bounds_of_parseSecond parsed

/-- What `_string_list` checked. -/
structure SoundTexts (texts : List Text) : Prop where
  bounded : ∀ t ∈ texts, t ≠ [] ∧ t.length ≤ 512
  short : texts.length ≤ maxPolicyListItems
  distinct : texts.Nodup

theorem sound_of_stringList {value : Json} {name : Text} {allowEmpty : Bool} {texts : List Text}
    (read : stringList value name allowEmpty = .ok texts) :
    SoundTexts texts ∧ (allowEmpty = true ∨ texts ≠ []) := by
  simp only [stringList, bind_eq_ok, demand_eq_ok, require_eq_ok, pure_eq_ok] at read
  obtain ⟨_, -, _, bounded, _, short, _, filled, _, distinct, rfl⟩ := read
  refine ⟨⟨fun t member => ?_, short, distinct⟩, filled⟩
  have := List.all_eq_true.mp bounded t member
  rwa [isBoundedText, decide_eq_true_eq] at this

theorem id_of_idOf {value : Json} {message t : Text} (read : idOf value message = .ok t) :
    isRegistryId t = true := by
  simp only [idOf, demand_eq_ok, Option.filter_eq_some_iff] at read
  exact read.2

theorem bounds_of_boundedInteger {value : Json} {low high z : ℤ} {message : Text}
    (read : boundedInteger value low high message = .ok z) : low ≤ z ∧ z ≤ high := by
  simp only [boundedInteger, demand_eq_ok, Option.filter_eq_some_iff, decide_eq_true_eq] at read
  exact read.2

theorem length_of_octetsOf {value : Json} {count : ℕ} {notBase64 wrongLength : Text}
    {octets : Bytes} (read : octetsOf value count notBase64 wrongLength = .ok octets) :
    octets.length = count ∧ value = .str (base64 octets) := by
  simp only [octetsOf, bind_eq_ok, demand_eq_ok, require_eq_ok, pure_eq_ok] at read
  obtain ⟨text, isText, _, -, _, ⟨length, same⟩, rfl⟩ := read
  cases value <;> cases isText
  exact ⟨length, congrArg Json.str same.symm⟩

/-- What `_profile` checked, besides the metadata. -/
structure PolicyProfile.Sound (registryFrom registryUntil : Instant) (profile : PolicyProfile) :
    Prop where
  id : isRegistryId profile.profileId = true
  seconds : IsSecond profile.statusChangedAt ∧ IsSecond profile.validFrom ∧
    IsSecond profile.validUntil
  window : registryFrom ≤ profile.validFrom ∧ profile.validFrom < profile.validUntil ∧
    profile.validUntil ≤ registryUntil
  changed : profile.validFrom ≤ profile.statusChangedAt ∧
    profile.statusChangedAt < profile.validUntil
  retirement : checkRetirement profile.status profile.statusChangedAt profile.validUntil
    profile.retireAt = .ok ()
  minTcb : 0 ≤ profile.minTcb ∧ profile.minTcb ≤ maxSqliteInteger
  measurements : SoundTexts profile.measurements ∧
    (profile.kind = .gpuCc ∨ profile.measurements ≠ [])
  firmware : SoundTexts profile.allowedFirmware
  statuses : SoundTexts profile.tdxAllowedTcbStatuses ∧
    (profile.kind ≠ .cpuTdx ∨ profile.tdxAllowedTcbStatuses ≠ [])
  advisories : SoundTexts profile.tdxAllowedAdvisories

theorem sound_of_profileOf {p : Platform} {registryFrom registryUntil : Instant} {raw : Json}
    {profile : PolicyProfile} (read : profileOf p registryFrom registryUntil raw = .ok profile) :
    profile.Sound registryFrom registryUntil := by
  simp only [profileOf, bind_eq_ok, demand_eq_ok, require_eq_ok, pure_eq_ok] at read
  obtain ⟨members, -, profileId, id, kind, -, status, -, changed, changedRead, validFrom,
    fromRead, validUntil, untilRead, _, window, _, within, retireAt, -, _, retirement, minTcb,
    tcb, measurements, measured, runtime, -, firmware, firm, statuses, status', advisories,
    advised, _, -, metadata, -, rfl⟩ := read
  obtain ⟨measured, filled⟩ := sound_of_stringList measured
  obtain ⟨status', named⟩ := sound_of_stringList status'
  exact {
    id := id_of_idOf id
    seconds := ⟨isSecond_of_timestamp changedRead, isSecond_of_timestamp fromRead,
      isSecond_of_timestamp untilRead⟩
    window := window
    changed := within
    retirement := retirement
    minTcb := bounds_of_boundedInteger tcb
    measurements := ⟨measured, filled.imp_left of_decide_eq_true⟩
    firmware := (sound_of_stringList firm).1
    statuses := ⟨status', named.imp_left of_decide_eq_true⟩
    advisories := (sound_of_stringList advised).1 }

/-- What `_receipt_key` checked, besides the metadata. -/
structure ReceiptVerificationKey.Sound (registryFrom registryUntil : Instant)
    (key : ReceiptVerificationKey) : Prop where
  id : isRegistryId key.keyId = true
  octets : key.publicKey.length = 32
  seconds : IsSecond key.statusChangedAt ∧ IsSecond key.validFrom ∧ IsSecond key.validUntil
  window : registryFrom ≤ key.validFrom ∧ key.validFrom < key.validUntil ∧
    key.validUntil ≤ registryUntil
  changed : key.validFrom ≤ key.statusChangedAt ∧ key.statusChangedAt < key.validUntil
  revocation : checkRevocation key.status key.statusChangedAt key.revokedAt = .ok ()

theorem sound_of_receiptKeyOf {p : Platform} {registryFrom registryUntil : Instant} {raw : Json}
    {key : ReceiptVerificationKey}
    (read : receiptKeyOf p registryFrom registryUntil raw = .ok key) :
    key.Sound registryFrom registryUntil := by
  simp only [receiptKeyOf, bind_eq_ok, demand_eq_ok, require_eq_ok, pure_eq_ok] at read
  obtain ⟨members, -, keyId, id, _, -, publicKey, octets, status, -, changed, changedRead,
    validFrom, fromRead, validUntil, untilRead, _, window, _, within, revokedAt, -, _, revocation,
    replacement, -, _, -, metadata, -, rfl⟩ := read
  exact {
    id := id_of_idOf id
    octets := (length_of_octetsOf octets).1
    seconds := ⟨isSecond_of_timestamp changedRead, isSecond_of_timestamp fromRead,
      isSecond_of_timestamp untilRead⟩
    window := window
    changed := within
    revocation := revocation }

/-- What `verify_registry` checked, besides the signature and the times of the check. -/
structure Snapshot.Sound (snapshot : Snapshot) : Prop where
  release : 1 ≤ snapshot.release ∧ snapshot.release ≤ maxSqliteInteger
  seconds : IsSecond snapshot.generatedAt ∧ IsSecond snapshot.validFrom ∧
    IsSecond snapshot.validUntil
  window : snapshot.validFrom < snapshot.validUntil
  published : snapshot.generatedAt < snapshot.validUntil
  digest : snapshot.digest = sha256Digest snapshot.canonicalDocument
  profiles : ∀ profile ∈ snapshot.profiles, profile.Sound snapshot.validFrom snapshot.validUntil
  profileIds : (snapshot.profiles.map PolicyProfile.profileId).Nodup
  profileCount : snapshot.profiles.length ≤ maxRegistryProfiles
  keys : ∀ key ∈ snapshot.receiptSigningKeys, key.Sound snapshot.validFrom snapshot.validUntil
  keyIds : (snapshot.receiptSigningKeys.map ReceiptVerificationKey.keyId).Nodup
  keyCount : snapshot.receiptSigningKeys.length ≤ 128
  verified : snapshot.signatureVerified = true

/-- The years of the times of a key have four digits. -/
def ReceiptVerificationKey.Modern (key : ReceiptVerificationKey) : Prop :=
  key.statusChangedAt.IsModern ∧ key.validFrom.IsModern ∧ key.validUntil.IsModern

/-- The years of the times that a database keeps of the registry have four digits. -/
structure Snapshot.Modern (snapshot : Snapshot) : Prop where
  generatedAt : snapshot.generatedAt.IsModern
  profiles : ∀ profile ∈ snapshot.profiles, profile.statusChangedAt.IsModern
  keys : ∀ key ∈ snapshot.receiptSigningKeys, key.Modern

theorem modern_iff {snapshot : Snapshot} : snapshot.Modern ↔ snapshot.generatedAt.IsModern ∧
    (∀ profile ∈ snapshot.profiles, profile.statusChangedAt.IsModern) ∧
    ∀ key ∈ snapshot.receiptSigningKeys, key.Modern := by
  constructor
  · intro modern
    exact ⟨modern.generatedAt, modern.profiles, modern.keys⟩
  · rintro ⟨generatedAt, profiles, keys⟩
    exact ⟨generatedAt, profiles, keys⟩

instance ReceiptVerificationKey.decidableModern (key : ReceiptVerificationKey) :
    Decidable key.Modern :=
  inferInstanceAs (Decidable (_ ∧ _ ∧ _))

instance Snapshot.decidableModern (snapshot : Snapshot) : Decidable snapshot.Modern :=
  decidable_of_iff _ modern_iff.symm

theorem sound_of_profilesOf {p : Platform} {validFrom validUntil checkTime : Instant} {raw : Json}
    {profiles : List PolicyProfile}
    (read : profilesOf p validFrom validUntil checkTime raw = .ok profiles) :
    (∀ profile ∈ profiles, profile.Sound validFrom validUntil) ∧
      (profiles.map PolicyProfile.profileId).Nodup ∧ profiles.length ≤ maxRegistryProfiles := by
  simp only [profilesOf, bind_eq_ok, demand_eq_ok, require_eq_ok, pure_eq_ok,
    Option.filter_eq_some_iff, decide_eq_true_eq] at read
  obtain ⟨items, ⟨-, -, short⟩, _, each, _, -, _, distinct, rfl⟩ := read
  refine ⟨fun profile member => ?_, distinct, ?_⟩
  · obtain ⟨raw, -, made⟩ := exists_of_mapM each member
    exact sound_of_profileOf made
  · rwa [← (forall₂_of_mapM each).length_eq]

theorem sound_of_receiptKeysOf {p : Platform} {validFrom validUntil checkTime : Instant}
    {raw : Json} {keys : List ReceiptVerificationKey}
    (read : receiptKeysOf p validFrom validUntil checkTime raw = .ok keys) :
    (∀ key ∈ keys, key.Sound validFrom validUntil) ∧
      (keys.map ReceiptVerificationKey.keyId).Nodup ∧ keys.length ≤ 128 := by
  simp only [receiptKeysOf, bind_eq_ok, demand_eq_ok, require_eq_ok, pure_eq_ok,
    Option.filter_eq_some_iff, decide_eq_true_eq] at read
  obtain ⟨items, ⟨-, short⟩, _, each, _, -, _, distinct, _, -, rfl⟩ := read
  refine ⟨fun key member => ?_, distinct, ?_⟩
  · obtain ⟨raw, -, made⟩ := exists_of_mapM each member
    exact sound_of_receiptKeyOf made
  · rwa [← (forall₂_of_mapM each).length_eq]

/-- **What verification means.** A verified snapshot meets every check. -/
theorem sound_of_verifyMembers {p : Platform} {ed : Ed25519 p} {trusted : Text → Option Bytes}
    {occasion : Occasion} {members : List (Text × Json)} {snapshot : Snapshot}
    (verified : verifyMembers p ed trusted occasion members = .ok snapshot) : snapshot.Sound := by
  simp only [verifyMembers, bind_eq_ok, require_eq_ok, pure_eq_ok] at verified
  obtain ⟨_, -, _, -, release, number, keyId, -, generated, generatedRead, validFrom, fromRead,
    validUntil, untilRead, _, window, profiles, profilesRead, keys, keysRead, document, -,
    metadata, -, rfl⟩ := verified
  obtain ⟨profileSound, profileIds, profileCount⟩ := sound_of_profilesOf profilesRead
  obtain ⟨keySound, keyIds, keyCount⟩ := sound_of_receiptKeysOf keysRead
  simp only [checkWindow, bind_eq_ok, require_eq_ok] at window
  obtain ⟨_, ordered, _, published, -⟩ := window
  exact {
    release := bounds_of_boundedInteger number
    seconds := ⟨isSecond_of_timestamp generatedRead, isSecond_of_timestamp fromRead,
      isSecond_of_timestamp untilRead⟩
    window := ordered
    published := published
    digest := rfl
    profiles := profileSound
    profileIds := profileIds
    profileCount := profileCount
    keys := keySound
    keyIds := keyIds
    keyCount := keyCount
    verified := rfl }

theorem sound_of_verifyRegistry {p : Platform} {ed : Ed25519 p} {trusted : Text → Option Bytes}
    {occasion : Occasion} {data : Bytes} {snapshot : Snapshot}
    (verified : verifyRegistry p ed trusted occasion data = .ok snapshot) : snapshot.Sound := by
  obtain ⟨members, -, checked⟩ := bind_eq_ok.mp verified
  exact sound_of_verifyMembers checked

/-! ## Written registries -/

/-- The members of a document with its keys sorted. -/
def sortedMembers (members : List (Text × Json)) : List (Text × Json) :=
  Json.sortMembers (Json.sortKeysMembers members)

/-- What the canonical writer writes, the reader reads back, sorted. -/
theorem parseRegistry_of_canonical {p : Platform} {members : List (Text × Json)} {data : Bytes}
    (plain : (Json.obj members).Plain False) (written : canonicalJson p (.obj members) = some data)
    (small : data.length ≤ maxRegistryBytes) :
    parseRegistry data = .ok (sortedMembers members) := by
  unfold canonicalJson at written
  split at written
  case isFalse => cases written
  case isTrue dumpable =>
    have readable := Json.readable_sortKeys (faithful_registryHooks p) (.obj members) plain dumpable
    have separators : Text.IsPrintable [0x2c] ∧ Text.IsPrintable [0x3a] := by decide
    have printable : ((Json.obj members).sortKeys.render (compactStyle p)).IsPrintable :=
      printable_render separators.1 separators.2 _ readable
    have ascii : ((Json.obj members).sortKeys.render (compactStyle p)).IsAscii := by
      intro c member
      have range := printable c member
      omega
    obtain rfl := Option.some.inj written
    have text := utf8Decode_ascii false ascii
    have read : loads registryHooks ((Json.obj members).sortKeys.render (compactStyle p)) =
        some (Json.obj members).sortKeys := loads_render rfl rfl readable
    rw [parseRegistry]
    simp only [require, small, if_true, text, Option.bind_some, read]
    rfl

end Cathedral.PolicyRegistry
