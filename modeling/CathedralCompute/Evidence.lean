import CathedralCompute.Codec.Base64
import CathedralCompute.Platform

/-!
# Attestation evidence

The raw evidence of a worker, the binding of its channel, and the digest that the
ledger records for it. Report data of the second version carries the binding of
the channel and the first version carries none.
-/

set_option autoImplicit false

namespace Cathedral

open Codec Semantics

inductive EvidenceKind where
  | sevSnp
  | tdx
  | gpuCc
deriving DecidableEq

def EvidenceKind.value : EvidenceKind → Text
  | sevSnp => "sev_snp"
  | tdx => "tdx"
  | gpuCc => "gpu_cc"

/-- `EvidenceKind(text)`. -/
def EvidenceKind.ofValue (t : Text) : Option EvidenceKind :=
  [sevSnp, tdx, gpuCc].find? fun kind => kind.value = t

inductive ChannelBindingType where
  | tlsSpkiSha256
  | applicationKeySha256
deriving DecidableEq

def ChannelBindingType.value : ChannelBindingType → Text
  | tlsSpkiSha256 => "tls_spki_sha256"
  | applicationKeySha256 => "application_key_sha256"

/-- `ChannelBindingType(text)`. -/
def ChannelBindingType.ofValue (t : Text) : Option ChannelBindingType :=
  [tlsSpkiSha256, applicationKeySha256].find? fun bindingType => bindingType.value = t

theorem ChannelBindingType.ofValue_value (bindingType : ChannelBindingType) :
    ofValue bindingType.value = some bindingType := by
  cases bindingType <;> decide

structure ChannelBinding where
  bindingType : ChannelBindingType
  digest : Bytes
  exact : digest.length = 32
deriving DecidableEq

/-- `len(value).to_bytes(count, "big")`. -/
def lengthBytes (count : ℕ) (value : Bytes) : Bytes :=
  (Sha256.bigEndian count value.length).map .ofNat

/-- What every canonical binding starts with. -/
def channelBindingHead : Bytes := Text.ascii "cathedral.channel-binding" ++ [0]

def ChannelBinding.canonicalBytes (binding : ChannelBinding) : Bytes :=
  let name := binding.bindingType.value.ascii
  channelBindingHead ++ lengthBytes 2 name ++ name ++ binding.digest

/-- What the quote is bound to. -/
inductive ReportData where
  | v1
  | v2 (binding : ChannelBinding)
deriving DecidableEq

def ReportData.version : ReportData → ℕ
  | v1 => 1
  | v2 _ => 2

def ReportData.channelBinding : ReportData → Option ChannelBinding
  | v1 => none
  | v2 binding => some binding

/-- `Evidence`. Its version and its binding are those of `reportData`. -/
structure Evidence where
  kind : EvidenceKind
  quote : Bytes
  nonce : Bytes
  minerHotkey : Text
  certChain : List Bytes
  sshHostKey : Option Bytes
  compositeJwt : Option Text
  reportData : ReportData
deriving DecidableEq

/-- A value with its length in front. -/
def framed (value : Bytes) : Bytes := lengthBytes 8 value ++ value

/-- `_evidence_digest`. -/
def evidenceDigest (evidence : Evidence) : Except Failure Text := do
  let hotkey ← demand .unicodeEncodeError evidence.minerHotkey.utf8
  let jwt ← demand .unicodeEncodeError (evidence.compositeJwt.getD []).utf8
  let binding := (evidence.reportData.channelBinding.map ChannelBinding.canonicalBytes).getD []
  let version := (Sha256.bigEndian 2 evidence.reportData.version).map UInt8.ofNat
  let values := [evidence.kind.value.ascii, evidence.quote, evidence.nonce, hotkey, version,
    binding, evidence.sshHostKey.getD [], jwt] ++ evidence.certChain
  return hexdigest (values.flatMap framed)

end Cathedral
