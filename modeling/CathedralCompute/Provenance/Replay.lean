import CathedralCompute.Runtime.Retention

/-!
# Replay of retained evidence

An authorized reviewer gets an envelope and the digests published for the miner,
checks the one against the other, and reconstructs the evidence.
-/

set_option autoImplicit false

namespace Cathedral.Provenance

open Codec Semantics

def maxEnvelopeBytes : ℕ := 4 * 1024 * 1024

def maxQuoteBytes : ℕ := 1024 * 1024

def maxCertChainEntries : ℕ := 8

def maxCertBytes : ℕ := 64 * 1024

/-- `_ENVELOPE_KEYS`. -/
def envelopeKeys : List Text := ["schema", "evidence_digest", "components"]

/-- `_COMPONENT_KEYS`. -/
def componentKeys : List Text :=
  ["kind", "miner_hotkey", "report_data_version", "quote_base64", "nonce_base64",
    "channel_binding_base64", "ssh_host_key_base64", "cert_chain_base64"]

/-- The hooks of `_strict_json`: no repeated keys and no constants. -/
def envelopeHooks (p : Platform) : Hooks := ⟨pythonInt, p.floats.parse, fun _ => none, strictPairs⟩

/-- `_strict_json`. -/
def strictJson (p : Platform) (data : Bytes) : Except Failure (List (Text × Json)) := do
  let document ← demand (.replayError "controlled envelope is not strict JSON")
    ((utf8Decode false data).bind (loads (envelopeHooks p)))
  let members ← demand (.replayError "controlled envelope is not a JSON object")
    (membersOfJson document)
  require ((document.sortKeys.render (compactStyle p)).ascii = data)
    (.replayError "controlled envelope bytes are not canonical JSON")
  return members

/-- The value of a Base64 text of bounded length. -/
def boundedBase64 (name : Text) (maxBytes : ℕ) (value : Json) : Except Failure Bytes := do
  let text ← demand (.replayError ("envelope component " ++ name ++ " is not bounded base64 text"))
    (textOfJson value)
  require (text.length ≤ maxBytes * 2)
    (.replayError ("envelope component " ++ name ++ " is not bounded base64 text"))
  let decoded ← demand (.replayError ("envelope component " ++ name ++ " is not valid base64"))
    (base64Decode text)
  require (decoded.length ≤ maxBytes)
    (.replayError ("envelope component " ++ name ++ " is oversized"))
  return decoded

/-- `_b64_field` of a field that must be there. -/
def base64Field (members : List (Text × Json)) (name : Text) (maxBytes : ℕ) :
    Except Failure Bytes := do
  require (¬ Json.isNone (Json.lookup name members))
    (.replayError ("envelope component is missing " ++ name))
  boundedBase64 name maxBytes (field members name)

/-- `_b64_field` of an optional field. -/
def optionalBase64Field (members : List (Text × Json)) (name : Text) (maxBytes : ℕ) :
    Except Failure (Option Bytes) :=
  if Json.isNone (Json.lookup name members) then .ok none
  else (boundedBase64 name maxBytes (field members name)).map some

/-- `int.from_bytes(octets, "big")`. -/
def bigEndianValue (octets : Bytes) : ℕ := octets.foldl (fun value octet => value * 256 + octet.toNat) 0

/-- `_channel_binding_from_canonical` of octets. -/
def channelBindingFromOctets (raw : Bytes) : Except Failure ChannelBinding := do
  require (channelBindingHead.isPrefixOf raw ∧ channelBindingHead.length + 2 + 32 ≤ raw.length)
    (.replayError "envelope channel binding is malformed")
  let body := raw.drop channelBindingHead.length
  let nameLength := bigEndianValue (body.take 2)
  let name := (body.drop 2).take nameLength
  let digest := body.drop (2 + nameLength)
  if exact : digest.length = 32 then
    let bindingType ← demand (.replayError "envelope channel binding type is unknown")
      ((asciiDecode name).bind ChannelBindingType.ofValue)
    let binding : ChannelBinding := ⟨bindingType, digest, exact⟩
    require (binding.canonicalBytes = raw)
      (.replayError "envelope channel binding does not round-trip")
    return binding
  else .error (.replayError "envelope channel binding digest is malformed")

/-- `_channel_binding_from_canonical`. -/
def channelBindingFromCanonical : Option Bytes → Except Failure (Option ChannelBinding)
  | none => .ok none
  | some raw => (channelBindingFromOctets raw).map some

/-- The value of `version in (1, 2)`: integers, `True`, and floats, which compare
equal and then have no `to_bytes`. -/
def reportDataVersion (value : Json) : Except Failure ℕ := do
  require (Json.equalsInt 1 (some value) ∨ Json.equalsInt 2 (some value))
    (.replayError "envelope component has an invalid report data version")
  return if Json.equalsInt 1 (some value) then 1 else 2

/-- The checks of `Evidence.__post_init__`. -/
def makeReportData (version : ℕ) (binding : Option ChannelBinding) : Except Failure ReportData :=
  match version, binding with
  | 1, none => .ok .v1
  | 1, some _ => .error (.valueError "legacy report data cannot carry a v2 channel binding")
  | _, some binding => .ok (.v2 binding)
  | _, none => .error (.valueError "report data v2 requires a channel binding")

/-- One entry of the certificate chain. -/
def certificateEntry (item : Json) : Except Failure Bytes := do
  let text ← demand (.replayError "envelope cert chain entry is not base64 text") (textOfJson item)
  let decoded ← demand (.replayError "envelope cert chain entry is not valid base64")
    (base64Decode text)
  require (decoded.length ≤ maxCertBytes)
    (.replayError "envelope cert chain entry is oversized")
  return decoded

/-- The hotkey of a component. -/
def componentHotkey (members : List (Text × Json)) : Except Failure Text := do
  let hotkey ← demand (.replayError "envelope component has an invalid hotkey")
    (textOfJson (field members "miner_hotkey"))
  let octets ← demand .unicodeEncodeError hotkey.utf8
  require (1 ≤ octets.length ∧ octets.length ≤ 512)
    (.replayError "envelope component has an invalid hotkey")
  return hotkey

/-- The certificate chain of a component. -/
def componentChain (members : List (Text × Json)) : Except Failure (List Bytes) := do
  let chain ← demand (.replayError "envelope cert chain is malformed or oversized")
    (itemsOfJson (field members "cert_chain_base64"))
  require (chain.length ≤ maxCertChainEntries)
    (.replayError "envelope cert chain is malformed or oversized")
  chain.mapM certificateEntry

/-- The evidence that a component describes. -/
def evidenceOfComponent (members : List (Text × Json)) : Except Failure Evidence := do
  require (Json.equalsText EvidenceKind.tdx.value (Json.lookup "kind" members))
    (.replayError "launch replay requires a CPU-TDX component")
  let hotkey ← componentHotkey members
  let version ← reportDataVersion (field members "report_data_version")
  let certChain ← componentChain members
  let rawBinding ← optionalBase64Field members "channel_binding_base64" 1024
  let binding ← channelBindingFromCanonical rawBinding
  let quote ← base64Field members "quote_base64" maxQuoteBytes
  let nonce ← base64Field members "nonce_base64" 64
  let sshHostKey ← optionalBase64Field members "ssh_host_key_base64" 4096
  let reportData ← makeReportData version binding
  require (¬ isFloat (field members "report_data_version")) .attributeError
  return {
    kind := .tdx
    quote := quote
    nonce := nonce
    minerHotkey := hotkey
    certChain := certChain
    sshHostKey := sshHostKey
    compositeJwt := none
    reportData := reportData }
where
  /-- A float has no `to_bytes`, which the digest asks for. -/
  isFloat : Json → Bool
    | .float _ => true
    | _ => false

/-- The digest an envelope records, and its only component. -/
def envelopeComponent (p : Platform) (envelope : Bytes)
    (expectedEnvelopeDigest expectedEvidenceDigest : Text) :
    Except Failure (Text × List (Text × Json)) := do
  require (envelope.length ≤ maxEnvelopeBytes) (.replayError "controlled envelope is oversized")
  require (sha256Digest envelope = expectedEnvelopeDigest)
    (.replayError "controlled envelope bytes do not match the published manifest digest")
  let document ← strictJson p envelope
  require (hasExactly envelopeKeys document)
    (.replayError "controlled envelope has missing or unknown fields")
  require (Json.equalsText Runtime.retainedEvidenceSchema (Json.lookup "schema" document))
    (.replayError "controlled envelope schema is unsupported")
  let recorded ← demand
    (.replayError "controlled envelope does not bind the ledger evidence digest")
    (textOfJson (field document "evidence_digest"))
  require (Text.removeHead "sha256:" recorded = Text.removeHead "sha256:" expectedEvidenceDigest)
    (.replayError "controlled envelope does not bind the ledger evidence digest")
  let components ← demand
    (.replayError "launch replay requires exactly one CPU-TDX component")
    (itemsOfJson (field document "components"))
  let component ← demand
    (.replayError "launch replay requires exactly one CPU-TDX component") (only? components)
  let members ← demand (.replayError "envelope component has missing or unknown fields")
    (membersOfJson component)
  require (hasExactly componentKeys members)
    (.replayError "envelope component has missing or unknown fields")
  return (recorded, members)
where
  /-- The element of a list of one. -/
  only? : List Json → Option Json
    | [component] => some component
    | _ => none

/-- `parse_envelope`. -/
def parseEnvelope (p : Platform) (envelope : Bytes)
    (expectedEnvelopeDigest expectedEvidenceDigest : Text) : Except Failure Evidence := do
  let (recorded, members) ← envelopeComponent p envelope expectedEnvelopeDigest
    expectedEvidenceDigest
  let evidence ← evidenceOfComponent members
  let digest ← evidenceDigest evidence
  require (digest = Text.removeHead "sha256:" recorded)
    (.replayError "reconstructed evidence does not reproduce the recorded digest")
  return evidence

end Cathedral.Provenance
