import CathedralCompute.Evidence
import CathedralCompute.Remote.SatWork

/-!
# Evidence from a remote miner

The validator sends a nonce to the worker of one miner and reads its evidence from
the answer. Over TLS the answer repeats the binding of the channel it came
through.
-/

set_option autoImplicit false

namespace Cathedral.Remote

open Codec Semantics

def maxEvidenceQuoteBytes : ℕ := 1 * 1024 * 1024

def maxEvidenceCertificates : ℕ := 8

def maxEvidenceCertificateBytes : ℕ := 256 * 1024

def maxCompositeJwtBytes : ℕ := 32 * 1024

/-- `_EVIDENCE_RESPONSE_KEYS`. -/
def evidenceResponseKeys : List Text :=
  ["kind", "quote_hex", "nonce_hex", "assigned_hotkey", "cert_chain_hex"]

/-- `_EVIDENCE_V2_RESPONSE_KEYS`. -/
def evidenceV2ResponseKeys : List Text :=
  evidenceResponseKeys ++
    [("report_data_version" : Text), "channel_binding_type", "channel_binding_digest_hex"]

/-- `_EVIDENCE_BUNDLE_ITEM_KEYS`. -/
def evidenceBundleItemKeys : List Text := evidenceV2ResponseKeys ++ [("composite_jwt" : Text)]

/-- `_response_channel_binding`; `none` where it raises. -/
def responseChannelBinding (members : List (Text × Json)) : Option ChannelBinding := do
  let name ← textOfJson (field members "channel_binding_type")
  let bindingType ← ChannelBindingType.ofValue name
  let digestHex ← textOfJson (field members "channel_binding_digest_hex")
  let digest := hexBytes digestHex
  if exact : isHexText digestHex = true ∧ digest.length = 32 then
    some ⟨bindingType, digest, exact.2⟩
  else none

/-- The answer is about the binding of the channel. -/
def checkBinding (members : List (Text × Json)) : Option ChannelBinding → Except Text Unit
  | none => .ok ()
  | some expected => do
    require (Json.equalsInt 2 (Json.lookup "report_data_version" members))
      "evidence response has invalid report data version"
    let binding ← demand "evidence response has invalid channel binding"
      (responseChannelBinding members)
    require (binding = expected) "evidence response channel binding mismatch"

/-- A text of hexadecimal digits for at least one and at most `bound` octets. -/
def boundedHex (bound : ℕ) (value : Json) : Option Text :=
  (textOfJson value).filter fun t => isHexText t ∧ t ≠ [] ∧ t.length ≤ 2 * bound

/-- The check of a composite JWT. -/
def checkJwt : Json → Except Text (Option Text)
  | .null => .ok none
  | .str jwt => do
    require (jwt ≠ [] ∧ jwt.IsAscii ∧ jwt.length ≤ maxCompositeJwtBytes ∧
        ∀ c ∈ jwt, 0x20 ≤ c.val)
      "evidence response has invalid composite JWT"
    return some jwt
  | _ => .error "evidence response has invalid composite JWT"

/-- `_evidence_from_response`. -/
def evidenceFromResponse (members : List (Text × Json)) (nonce : Bytes) (hotkey : Text)
    (expectedBinding : Option ChannelBinding) (bundleItem : Bool) : Except Text Evidence := do
  let expectedKeys := if bundleItem then evidenceBundleItemKeys
    else if expectedBinding.isSome then evidenceV2ResponseKeys else evidenceResponseKeys
  require (hasExactly expectedKeys members) "evidence component has invalid schema"
  require (Json.equalsText (hexText nonce) (Json.lookup "nonce_hex" members))
    "evidence response nonce mismatch"
  require (Json.equalsText hotkey (Json.lookup "assigned_hotkey" members))
    "evidence response hotkey mismatch"
  checkBinding members expectedBinding
  let kindRaw ← demand "evidence response has invalid quote or kind"
    (textOfJson (field members "kind"))
  let quote ← demand "evidence response has invalid quote or kind"
    (boundedHex maxEvidenceQuoteBytes (field members "quote_hex"))
  let chain ← demand "evidence response has invalid certificate chain"
    (itemsOfJson (field members "cert_chain_hex"))
  require (chain.length ≤ maxEvidenceCertificates)
    "evidence response has invalid certificate chain"
  let certChain ← demand "evidence response has invalid certificate chain"
    (chain.mapM (boundedHex maxEvidenceCertificateBytes))
  let jwt ← checkJwt (field members "composite_jwt")
  let kind ← demand "evidence response is invalid" (EvidenceKind.ofValue kindRaw)
  return {
    kind := kind
    quote := hexBytes quote
    nonce := nonce
    minerHotkey := hotkey
    certChain := certChain.map hexBytes
    sshHostKey := none
    compositeJwt := jwt
    reportData := expectedBinding.elim .v1 .v2 }

/-- `fetch_evidence`: the one component of an answer, given what the transport
decodes from it and the binding of the channel, which only TLS has. -/
def fetchEvidence (miner : RemoteMiner) (nonce : Bytes) (observedBinding : Option ChannelBinding)
    (answer : Except Text (List (Text × Json))) : Except Text Evidence := do
  require (nonce.length = 32) "nonce must be exactly 32 bytes"
  let members ← answer
  let expected := if observedBinding.isSome then evidenceV2ResponseKeys else evidenceResponseKeys
  require (hasExactly expected members) "evidence response has invalid schema"
  evidenceFromResponse members nonce miner.hotkey observedBinding false

end Cathedral.Remote
