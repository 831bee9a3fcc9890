import CathedralCompute.Evidence

/-!
# Retention of admission evidence

The runtime keeps the verified evidence of an admission for controlled
disclosure. The envelope carries the fields that the evidence digest hashes, and
is stored under its own digest.
-/

set_option autoImplicit false

namespace Cathedral.Runtime

open Codec Semantics

def retainedEvidenceSchema : Text := "cathedral_retained_evidence_v1"

/-- `MAX_CONTROLLED_ENVELOPE_BYTES`. -/
def maxControlledEnvelopeBytes : ℕ := 256 * 1024

/-- Base64 of a value that may be absent. -/
def optionalBase64 (value : Option Bytes) : Json := value.elim .null fun octets => .str (base64 octets)

/-- The members of a component of the envelope. -/
def componentMembers (evidence : Evidence) : List (Text × Json) :=
  [("kind", .str evidence.kind.value),
    ("miner_hotkey", .str evidence.minerHotkey),
    ("report_data_version", .int evidence.reportData.version),
    ("quote_base64", .str (base64 evidence.quote)),
    ("nonce_base64", .str (base64 evidence.nonce)),
    ("channel_binding_base64",
      optionalBase64 (evidence.reportData.channelBinding.map ChannelBinding.canonicalBytes)),
    ("ssh_host_key_base64", optionalBase64 evidence.sshHostKey),
    ("cert_chain_base64", .arr (evidence.certChain.map fun cert => .str (base64 cert)))]

/-- The component of an evidence value that may be retained. -/
def retainedComponent (evidence : Evidence) : Except Failure Json := do
  require (evidence.kind = .tdx)
    (.runtimeError "evidence retention is limited to CPU-TDX components at launch")
  require (evidence.compositeJwt = none)
    (.runtimeError "refusing to retain token-shaped evidence material (composite JWT)")
  return .obj (componentMembers evidence)

/-- The members of the envelope. -/
def envelopeMembers (digest : Text) (components : List Json) : List (Text × Json) :=
  [("schema", .str retainedEvidenceSchema), ("evidence_digest", .str digest),
    ("components", .arr components)]

/-- `_retained_evidence_envelope`. -/
def retainedEvidenceEnvelope (p : Platform) (evidences : List Evidence) (digest : Text) :
    Except Failure Bytes := do
  let sorted := evidences.insertionSort fun a b => a.kind.value ≤ b.kind.value
  let components ← sorted.mapM retainedComponent
  return ((Json.obj (envelopeMembers digest components)).sortKeys.render (compactStyle p)).ascii

/-- What is on disk under the digest of a blob: whether it is a private regular
file of the owner, and its content. -/
structure Blob where
  safe : Bool
  content : Bytes

/-- The check of a blob that is on disk already. -/
def checkBlob (digest : Text) : Option Blob → Except Failure Unit
  | none => .ok ()
  | some blob => do
    require blob.safe
      (.evidenceError ("retained blob " ++ digest ++ " is unsafe on disk (mode/owner/type)"))
    require (sha256Digest blob.content = digest)
      (.evidenceError ("retained blob " ++ digest ++ " is corrupt on disk"))

/-- `RetentionStore.retain` of admission evidence: the digest the blob is stored
under. -/
def retain (existing : Option Blob) (data : Bytes) : Except Failure Text := do
  require (data.length ≤ maxControlledEnvelopeBytes)
    (.evidenceError ("controlled envelope exceeds the launch disclosure cap (" ++
      natText data.length ++ " > " ++ natText maxControlledEnvelopeBytes ++ " bytes); an " ++
      "unfetchable envelope would silently unprove the epoch later"))
  checkBlob (sha256Digest data) existing
  return sha256Digest data

end Cathedral.Runtime
