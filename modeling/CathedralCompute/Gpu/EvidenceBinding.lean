import CathedralCompute.Codec.PrefixCode
import CathedralCompute.Registry.Assurance
import CathedralCompute.Registry.RegistryJson
import CathedralCompute.Remote.Evidence
import CathedralCompute.Sample

/-!
# What attestation digests commit to

Three digests bind an attestation to its subject: the digest of the evidence that the
ledger records, the report data a quote carries, and the digest of the TDX component that
a GPU assertion joins. Each hashes one string made of several fields and lists. The string
determines all of them, so with a hash without collisions no attestation serves for
another subject.

## Main definitions

* `evidencePreimage`, `reportDataV2Payload`, `tdxComponentPreimage` — the hashed strings

## Main results

* `preimages_determine` — each string determines what it was made from
-/

set_option autoImplicit false

namespace Cathedral

open Codec Semantics

/-! ## Evidence -/

/-- The updates of a digest with each value behind its length; `to_bytes` raises where the
length has more than eight octets. -/
def frames (values : List Bytes) : Except Failure Bytes := do
  require (∀ value ∈ values, value.length < 256 ^ 8) .overflowError
  return values.flatMap framed

/-- The values of `_evidence_digest`. -/
def evidenceValues (evidence : Evidence) : Except Failure (List Bytes) := do
  let hotkey ← demand .unicodeEncodeError evidence.minerHotkey.utf8
  let jwt ← demand .unicodeEncodeError (evidence.compositeJwt.getD []).utf8
  let binding := (evidence.reportData.channelBinding.map ChannelBinding.canonicalBytes).getD []
  return [evidence.kind.value.ascii, evidence.quote, evidence.nonce, hotkey,
    numberBytes 2 evidence.reportData.version, binding, evidence.sshHostKey.getD [], jwt] ++
      evidence.certChain

/-- The string that `_evidence_digest` hashes. -/
def evidencePreimage (evidence : Evidence) : Except Failure Bytes := do
  let values ← evidenceValues evidence
  frames values

/-- The digest is that of the string. -/
theorem evidenceDigest_of_preimage {evidence : Evidence} {preimage : Bytes}
    (made : evidencePreimage evidence = .ok preimage) :
    evidenceDigest evidence = .ok (hexdigest preimage) := by
  simp only [evidencePreimage, evidenceValues, frames, bind_eq_ok, demand_eq_ok, require_eq_ok,
    pure_eq_ok] at made
  obtain ⟨_, ⟨hotkey, isHotkey, jwt, isJwt, rfl⟩, _, -, rfl⟩ := made
  simp only [evidenceDigest, isHotkey, isJwt]
  rfl

/-! ## Report data -/

def reportDataV2Domain : Bytes := Text.ascii "cathedral.report-data" ++ [0]

def reportDataV2Version : ℕ := 2

def maxReportHotkeyBytes : ℕ := 512

/-- `_report_field`. -/
def reportField (tag : ℕ) (value : Bytes) : Except Failure Bytes := do
  require (tag ≤ 255 ∧ value.length ≤ 65535) (.valueError "report data field is out of bounds")
  return .ofNat tag :: (lengthBytes 2 value ++ value)

/-- The payload of `report_data_v2`. -/
def reportDataV2Payload (nonce : Bytes) (minerHotkey : Text) (binding : ChannelBinding) :
    Except Failure Bytes := do
  require (nonce.length = 32) (.valueError "report data v2 nonce must be exactly 32 bytes")
  let hotkey ← demand (.valueError "report data v2 hotkey must be valid UTF-8") minerHotkey.utf8
  require (hotkey ≠ [] ∧ hotkey.length ≤ maxReportHotkeyBytes)
    (.valueError "report data v2 hotkey is out of bounds")
  let nonceField ← reportField 1 nonce
  let hotkeyField ← reportField 2 hotkey
  let typeField ← reportField 3 binding.bindingType.value.ascii
  let digestField ← reportField 4 binding.digest
  return reportDataV2Domain ++ (numberBytes 2 reportDataV2Version ++
    (nonceField ++ (hotkeyField ++ (typeField ++ digestField))))

/-- `report_data_v2`, over SHA-512. -/
def reportDataV2 (sha512 : Bytes → Bytes) (nonce : Bytes) (minerHotkey : Text)
    (binding : ChannelBinding) : Except Failure Bytes := do
  let payload ← reportDataV2Payload nonce minerHotkey binding
  return sha512 payload

/-! ## The TDX component -/

/-- A verdict with what the TDX verifier says besides. -/
structure TdxVerdict extends Attested where
  tcb : ℤ
  tcbStatus : Option Text
  advisoryIds : List Text
  debugEnabled : Option Bool
  collateralCurrent : Option Bool
  platformIdentityKind : Option Text
  tcbSvn : Option Text
  pckCertId : Option Text
  attestationKeyId : Option Text

def optionalBool : Option Bool → Json
  | some b => .bool b
  | none => .null

/-- The claims of a verdict that the component covers. -/
def verifiedClaims (verdict : TdxVerdict) (assurance : AssuranceClaims) : Json := .obj
  [("advisory_ids", .arr (verdict.advisoryIds.map .str)),
    ("attestation_key_id", optionalText verdict.attestationKeyId),
    ("chip_id", .str verdict.chipId),
    ("collateral_current", optionalBool verdict.collateralCurrent),
    ("debug_enabled", optionalBool verdict.debugEnabled),
    ("hardware_evidence_digest", optionalText assurance.hardware.evidenceDigest),
    ("hardware_policy_digest", optionalText assurance.hardware.policyDigest),
    ("measurement", .str verdict.measurement),
    ("pck_cert_id", optionalText verdict.pckCertId),
    ("platform_identity_kind", optionalText verdict.platformIdentityKind),
    ("software_evidence_digest", optionalText assurance.software.evidenceDigest),
    ("software_policy_digest", optionalText assurance.software.policyDigest),
    ("tcb", .int verdict.tcb),
    ("tcb_status", optionalText verdict.tcbStatus),
    ("tcb_svn", optionalText verdict.tcbSvn),
    ("verification_status", .str verdict.verificationStatus)]

/-- The claims are written in the order of their keys. -/
theorem sortKeys_verifiedClaims (verdict : TdxVerdict) (assurance : AssuranceClaims) :
    (verifiedClaims verdict assurance).sortKeys = verifiedClaims verdict assurance := by
  have text : ∀ t, (optionalText t).sortKeys = optionalText t := by
    rintro (_ | t) <;> rfl
  have bool : ∀ b, (optionalBool b).sortKeys = optionalBool b := by
    rintro (_ | b) <;> rfl
  have texts : Json.sortKeysItems (verdict.advisoryIds.map .str) =
      verdict.advisoryIds.map .str := by
    rw [Json.sortKeysItems_eq_map, List.map_map]
    rfl
  unfold verifiedClaims
  rw [Json.sortKeys, Json.sortKeysMembers_eq_map]
  simp only [List.map_cons, List.map_nil, text, bool, texts, Json.sortKeys]
  rw [Json.sortMembers_of_pairwise]
  refine List.Pairwise.of_map Prod.fst (fun a b (le : a.1 ≤ b.1) => le) ?_
  simp only [List.map_cons, List.map_nil]
  decide

/-- No key of the claims is repeated. -/
theorem distinct_verifiedClaims (verdict : TdxVerdict) (assurance : AssuranceClaims) :
    (verifiedClaims verdict assurance).Distinct := by
  have text : ∀ t, (optionalText t).Distinct := by
    rintro (_ | t) <;> trivial
  have bool : ∀ b, (optionalBool b).Distinct := by
    rintro (_ | b) <;> trivial
  have texts : Json.DistinctItems (verdict.advisoryIds.map .str) :=
    Json.distinctItems_iff.mpr fun item listed => by
      obtain ⟨t, -, rfl⟩ := List.mem_map.mp listed
      trivial
  constructor
  · simp only [List.map_cons, List.map_nil]
    decide
  · simp only [Json.DistinctMembers, Json.Distinct, text, bool, texts, and_true]

/-- The error about a component that may not be joined. -/
def componentDenied : Failure :=
  .gpuAttestationError "cpu_component_denied" "TDX component binding is invalid"

/-- What the string starts with. -/
def tdxComponentDomain : Bytes := Text.ascii "cathedral-gpu-tdx-component-v1" ++ [0]

/-- What `tdx_component_binding_digest` asks of the evidence and the verdict. -/
def checkTdxComponent (evidence : Evidence) (verdict : TdxVerdict) : Except Failure Unit :=
  require (evidence.kind = .tdx ∧
    (0 < evidence.quote.length ∧ evidence.quote.length ≤ Remote.maxEvidenceQuoteBytes) ∧
    evidence.certChain.length ≤ Remote.maxEvidenceCertificates ∧
    evidence.sshHostKey = none ∧ evidence.compositeJwt = none ∧
    (∀ certificate ∈ evidence.certChain,
      certificate ≠ [] ∧ certificate.length ≤ Remote.maxEvidenceCertificateBytes) ∧
    verdict.tier = .ccCpuTdx ∧ verdict.verificationStatus = "VERIFIED") componentDenied

/-- The values of `tdx_component_binding_digest`. -/
def tdxComponentValues (p : Platform) (sha512 : Bytes → Bytes) (evidence : Evidence)
    (verdict : TdxVerdict) : Except Failure (List Bytes) := do
  checkTdxComponent evidence verdict
  let binding ← demand componentDenied evidence.reportData.channelBinding
  let assurance ← demand componentDenied verdict.assurance
  let reportBinding ← (reportDataV2 sha512 evidence.nonce evidence.minerHotkey binding).mapError
    fun _ => componentDenied
  let claims ← demand componentDenied (canonicalJson p (verifiedClaims verdict assurance))
  let hotkey ← demand .unicodeEncodeError evidence.minerHotkey.utf8
  return [evidence.kind.value.ascii, evidence.quote, evidence.nonce, hotkey,
    numberBytes 2 evidence.reportData.version, binding.canonicalBytes, reportBinding,
    evidence.sshHostKey.getD [], []] ++ evidence.certChain ++ [claims]

/-- The string that `tdx_component_binding_digest` hashes. -/
def tdxComponentPreimage (p : Platform) (sha512 : Bytes → Bytes) (evidence : Evidence)
    (verdict : TdxVerdict) : Except Failure Bytes := do
  let values ← tdxComponentValues p sha512 evidence verdict
  let framedValues ← frames values
  return tdxComponentDomain ++ framedValues

/-- `tdx_component_binding_digest`. -/
def tdxComponentBindingDigest (p : Platform) (sha512 : Bytes → Bytes) (evidence : Evidence)
    (verdict : TdxVerdict) : Except Failure Text := do
  let preimage ← tdxComponentPreimage p sha512 evidence verdict
  return sha256Digest preimage

/-! ## Fields from strings -/

theorem framed_ne_nil (value : Bytes) : framed value ≠ [] := by
  intro empty
  have lengths := congrArg List.length empty
  have size := length_numberBytes 8 value.length
  rw [framed, List.length_append] at lengths
  rw [numberBytes] at size
  rw [lengthBytes, size] at lengths
  simp at lengths

/-- Framed values are determined by their string. -/
theorem frames_inj {values values' : List Bytes} {preimage : Bytes}
    (made : frames values = .ok preimage) (made' : frames values' = .ok preimage) :
    values = values' := by
  simp only [frames, bind_eq_ok, require_eq_ok, pure_eq_ok] at made made'
  obtain ⟨_, small, rfl⟩ := made
  obtain ⟨_, small', same⟩ := made'
  exact (prefixFree_length 8).flatMap_inj framed_ne_nil small small' same.symm

theorem EvidenceKind.value_inj {kind kind' : EvidenceKind}
    (same : kind.value.ascii = kind'.value.ascii) : kind = kind' := by
  revert same
  cases kind <;> cases kind' <;> decide

theorem ChannelBindingType.value_inj {bindingType bindingType' : ChannelBindingType}
    (same : bindingType.value.ascii = bindingType'.value.ascii) : bindingType = bindingType' := by
  revert same
  cases bindingType <;> cases bindingType' <;> decide

theorem ChannelBinding.ext_of {binding binding' : ChannelBinding}
    (types : binding.bindingType.value.ascii = binding'.bindingType.value.ascii)
    (digests : binding.digest = binding'.digest) : binding = binding' := by
  obtain ⟨bindingType, digest, exact_⟩ := binding
  obtain ⟨bindingType', digest', exact_'⟩ := binding'
  obtain rfl := ChannelBindingType.value_inj types
  obtain rfl := digests
  rfl

theorem ChannelBinding.canonicalBytes_inj {binding binding' : ChannelBinding}
    (same : binding.canonicalBytes = binding'.canonicalBytes) : binding = binding' := by
  obtain ⟨front, digests⟩ := List.append_inj' same (by rw [binding.exact, binding'.exact])
  have names := List.append_inj front ?_
  · exact ChannelBinding.ext_of names.2 digests
  · simp [lengthBytes, length_bigEndian]

theorem ChannelBinding.canonicalBytes_ne_nil (binding : ChannelBinding) :
    binding.canonicalBytes ≠ [] := by
  intro empty
  have lengths := congrArg List.length empty
  have size := binding.exact
  simp only [ChannelBinding.canonicalBytes, List.length_append, List.length_nil] at lengths
  omega

/-- The version and the canonical binding determine the report data. -/
theorem ReportData.eq_of_binding {data data' : ReportData}
    (same : (data.channelBinding.map ChannelBinding.canonicalBytes).getD [] =
      (data'.channelBinding.map ChannelBinding.canonicalBytes).getD []) : data = data' := by
  cases data with
  | v1 =>
    cases data' with
    | v1 => rfl
    | v2 binding => exact absurd same.symm binding.canonicalBytes_ne_nil
  | v2 binding =>
    cases data' with
    | v1 => exact absurd same binding.canonicalBytes_ne_nil
    | v2 binding' => rw [ChannelBinding.canonicalBytes_inj same]

/-- What the evidence string determines. -/
theorem evidencePreimage_inj {evidence evidence' : Evidence} {preimage : Bytes}
    (made : evidencePreimage evidence = .ok preimage)
    (made' : evidencePreimage evidence' = .ok preimage) :
    evidence.kind = evidence'.kind ∧ evidence.quote = evidence'.quote ∧
      evidence.certChain = evidence'.certChain ∧ evidence.nonce = evidence'.nonce ∧
      evidence.minerHotkey = evidence'.minerHotkey ∧
      evidence.reportData = evidence'.reportData ∧
      evidence.sshHostKey.getD [] = evidence'.sshHostKey.getD [] ∧
      evidence.compositeJwt.getD [] = evidence'.compositeJwt.getD [] := by
  simp only [evidencePreimage, evidenceValues, bind_eq_ok, demand_eq_ok, pure_eq_ok] at made made'
  obtain ⟨_, ⟨hotkey, isHotkey, jwt, isJwt, rfl⟩, framed_⟩ := made
  obtain ⟨_, ⟨hotkey', isHotkey', jwt', isJwt', rfl⟩, framed'⟩ := made'
  have values := frames_inj framed_ framed'
  simp only [List.cons_append, List.nil_append, List.cons.injEq] at values
  obtain ⟨kind, quote, nonce, hotkeys, -, binding, ssh, jwts, chain⟩ := values
  exact ⟨EvidenceKind.value_inj kind, quote, chain, nonce,
    Text.utf8_inj isHotkey (hotkeys ▸ isHotkey'), ReportData.eq_of_binding binding, ssh,
    Text.utf8_inj isJwt (jwts ▸ isJwt')⟩

/-- A field of the report data can be split off what follows. -/
theorem reportField_inj {tag : ℕ} {value value' word word' rest rest' : Bytes}
    (made : reportField tag value = .ok word) (made' : reportField tag value' = .ok word')
    (same : word ++ rest = word' ++ rest') : value = value' ∧ rest = rest' := by
  simp only [reportField, bind_eq_ok, require_eq_ok, pure_eq_ok] at made made'
  obtain ⟨_, ⟨-, small⟩, rfl⟩ := made
  obtain ⟨_, ⟨-, small'⟩, rfl⟩ := made'
  rw [List.cons_append, List.cons_append, List.cons.injEq] at same
  exact prefixFree_length 2 value value' (Nat.lt_succ_of_le small) (Nat.lt_succ_of_le small')
    rest rest' same.2

/-- What the payload of report data determines. -/
theorem reportDataV2Payload_inj {nonce nonce' payload : Bytes} {minerHotkey minerHotkey' : Text}
    {binding binding' : ChannelBinding}
    (made : reportDataV2Payload nonce minerHotkey binding = .ok payload)
    (made' : reportDataV2Payload nonce' minerHotkey' binding' = .ok payload) :
    nonce = nonce' ∧ minerHotkey = minerHotkey' ∧ binding = binding' := by
  simp only [reportDataV2Payload, bind_eq_ok, demand_eq_ok, require_eq_ok, pure_eq_ok]
    at made made'
  obtain ⟨_, -, hotkey, isHotkey, _, -, nonceField, isNonce, hotkeyField, isHotkeyField,
    typeField, isType, digestField, isDigest, rfl⟩ := made
  obtain ⟨_, -, hotkey', isHotkey', _, -, nonceField', isNonce', hotkeyField', isHotkeyField',
    typeField', isType', digestField', isDigest', same⟩ := made'
  have fields := List.append_cancel_left (List.append_cancel_left same.symm)
  obtain ⟨nonces, fields⟩ := reportField_inj isNonce isNonce' fields
  obtain ⟨hotkeys, fields⟩ := reportField_inj isHotkeyField isHotkeyField' fields
  obtain ⟨types, fields⟩ := reportField_inj isType isType' fields
  have last : digestField ++ [] = digestField' ++ [] := by
    rw [List.append_nil, List.append_nil]
    exact fields
  obtain ⟨digests, -⟩ := reportField_inj isDigest isDigest' last
  exact ⟨nonces, Text.utf8_inj isHotkey (hotkeys ▸ isHotkey'),
    ChannelBinding.ext_of types digests⟩

/-- What the string of a TDX component determines: the values it was made from, and with
them the evidence and the verified claims, as they are written, and themselves where no
text of theirs holds a surrogate pair. -/
theorem tdxComponentPreimage_inj {p : Platform} {sha512 : Bytes → Bytes}
    {evidence evidence' : Evidence} {verdict verdict' : TdxVerdict} {preimage : Bytes}
    (made : tdxComponentPreimage p sha512 evidence verdict = .ok preimage)
    (made' : tdxComponentPreimage p sha512 evidence' verdict' = .ok preimage) :
    evidence = evidence' ∧
      tdxComponentValues p sha512 evidence verdict =
        tdxComponentValues p sha512 evidence' verdict' ∧
      ∃ assurance ∈ verdict.assurance, ∃ assurance' ∈ verdict'.assurance,
        canonicalJson p (verifiedClaims verdict assurance) =
          canonicalJson p (verifiedClaims verdict' assurance') ∧
        ((verifiedClaims verdict assurance).Legible →
          (verifiedClaims verdict' assurance').Legible →
          verifiedClaims verdict assurance = verifiedClaims verdict' assurance') := by
  simp only [tdxComponentPreimage, bind_eq_ok, pure_eq_ok] at made made'
  obtain ⟨values, isValues, framed_, isFramed, rfl⟩ := made
  obtain ⟨values', isValues', framed', isFramed', same⟩ := made'
  rw [List.append_cancel_left same] at isFramed'
  -- equal frames hold equal values, one by one
  obtain rfl := frames_inj isFramed isFramed'
  refine ⟨?_, isValues.trans isValues'.symm, ?_⟩
  all_goals
    simp only [tdxComponentValues, checkTdxComponent, bind_eq_ok, demand_eq_ok, require_eq_ok,
      pure_eq_ok] at isValues isValues'
    obtain ⟨_, ⟨-, -, -, ssh, jwt, -⟩, binding, isBinding, assurance, isAssurance, report, -,
      claims, isClaims, hotkey, isHotkey, listed⟩ := isValues
    obtain ⟨_, ⟨-, -, -, ssh', jwt', -⟩, binding', isBinding', assurance', isAssurance', report',
      -, claims', isClaims', hotkey', isHotkey', listed'⟩ := isValues'
    rw [← listed'] at listed
    simp only [List.cons_append, List.nil_append, List.cons.injEq] at listed
    obtain ⟨kind, quote, nonce, hotkeys, -, bindings, -, -, -, chain⟩ := listed
    obtain ⟨chains, lastClaims⟩ := List.append_inj' chain rfl
  · have data : evidence.reportData = evidence'.reportData := by
      apply ReportData.eq_of_binding
      rw [isBinding, isBinding']
      exact bindings
    obtain ⟨_, _, _, _, _, _, _, _⟩ := evidence
    obtain ⟨_, _, _, _, _, _, _, _⟩ := evidence'
    simp only at *
    rw [EvidenceKind.value_inj kind, quote, nonce, Text.utf8_inj isHotkey (hotkeys ▸ isHotkey'),
      chains, ssh, jwt, ssh', jwt', data]
  · refine ⟨assurance, isAssurance, assurance', isAssurance', ?_, fun legible legible' => ?_⟩
    · rw [isClaims, isClaims', List.singleton_inj.mp lastClaims]
    · -- the keys of the claims stand in the order they are sorted to
      rw [List.singleton_inj.mp lastClaims] at isClaims
      have sorted := sortKeys_of_canonicalJson
        ⟨legible, distinct_verifiedClaims verdict assurance⟩
        ⟨legible', distinct_verifiedClaims verdict' assurance'⟩ isClaims isClaims'
      rwa [sortKeys_verifiedClaims, sortKeys_verifiedClaims] at sorted

/-- **Binding.** Evidence that is hashed as one string has one kind, quote, certificate
chain, nonce, hotkey, report data, host key and token, where an absent host key or token
counts as the empty one. Report data that is hashed as one string has one nonce, hotkey and
channel binding. TDX components that are hashed as one string have one list of values, hence
one evidence and the same verified claims: their text, and the claims themselves where no
text in them holds a surrogate pair. The digest of evidence is that of its string. -/
theorem preimages_determine :
    (∀ (evidence evidence' : Evidence) preimage, evidencePreimage evidence = .ok preimage →
      evidencePreimage evidence' = .ok preimage →
      evidence.kind = evidence'.kind ∧ evidence.quote = evidence'.quote ∧
        evidence.certChain = evidence'.certChain ∧ evidence.nonce = evidence'.nonce ∧
        evidence.minerHotkey = evidence'.minerHotkey ∧
        evidence.reportData = evidence'.reportData ∧
        evidence.sshHostKey.getD [] = evidence'.sshHostKey.getD [] ∧
        evidence.compositeJwt.getD [] = evidence'.compositeJwt.getD []) ∧
    (∀ nonce nonce' hotkey hotkey' (binding binding' : ChannelBinding) payload,
      reportDataV2Payload nonce hotkey binding = .ok payload →
      reportDataV2Payload nonce' hotkey' binding' = .ok payload →
      nonce = nonce' ∧ hotkey = hotkey' ∧ binding = binding') ∧
    (∀ (p : Platform) sha512 (evidence evidence' : Evidence) (verdict verdict' : TdxVerdict)
      preimage, tdxComponentPreimage p sha512 evidence verdict = .ok preimage →
      tdxComponentPreimage p sha512 evidence' verdict' = .ok preimage →
      evidence = evidence' ∧
        tdxComponentValues p sha512 evidence verdict =
          tdxComponentValues p sha512 evidence' verdict' ∧
        ∃ assurance ∈ verdict.assurance, ∃ assurance' ∈ verdict'.assurance,
          canonicalJson p (verifiedClaims verdict assurance) =
            canonicalJson p (verifiedClaims verdict' assurance') ∧
          ((verifiedClaims verdict assurance).Legible →
            (verifiedClaims verdict' assurance').Legible →
            verifiedClaims verdict assurance = verifiedClaims verdict' assurance')) ∧
    ∀ evidence preimage, evidencePreimage evidence = .ok preimage →
      evidenceDigest evidence = .ok (hexdigest preimage) :=
  ⟨fun _ _ _ made made' => evidencePreimage_inj made made',
    fun _ _ _ _ _ _ _ made made' => reportDataV2Payload_inj made made',
    fun _ _ _ _ _ _ _ made made' => tdxComponentPreimage_inj made made',
    fun _ _ made => evidenceDigest_of_preimage made⟩

/-! ## A run -/

namespace SampleBinding

def binding : ChannelBinding := ⟨.tlsSpkiSha256, List.replicate 32 0, rfl⟩

/-- Evidence of a TDX worker. -/
def evidence (jwt : Option Text) : Evidence where
  kind := .tdx
  quote := [1]
  nonce := List.replicate 32 0
  minerHotkey := "worker"
  certChain := [[2], [3]]
  sshHostKey := none
  compositeJwt := jwt
  reportData := .v2 binding

def passed : AssuranceClaim :=
  ⟨.passed, some "sha256:0", some "sha256:1", some "2024-01-01T00:00:00.500000Z", none⟩

def verdict : TdxVerdict where
  tier := .ccCpuTdx
  chipId := "chip"
  measurement := "measurement"
  verificationStatus := "VERIFIED"
  assurance := some ⟨passed, passed, notEvaluatedClaim, notEvaluatedClaim⟩
  tcb := 7
  tcbStatus := some "UpToDate"
  advisoryIds := []
  debugEnabled := some false
  collateralCurrent := some true
  platformIdentityKind := none
  tcbSvn := none
  pckCertId := none
  attestationKeyId := none

/-- The SHA-512 digest of the report data of the evidence. -/
def reportDigest : Bytes :=
  [111, 33, 33, 191, 2, 44, 174, 230, 45, 220, 181, 30, 214, 42, 254, 166, 220, 124, 195, 188, 238,
    164, 169, 96, 208, 225, 136, 166, 232, 212, 74, 120, 159, 139, 226, 133, 130, 192, 231, 71, 3,
    131, 133, 44, 224, 18, 39, 70, 158, 20, 220, 130, 87, 50, 132, 28, 83, 77, 8, 235, 10, 10, 32,
    60]

/-- An absent token is hashed as an empty one. -/
theorem preimages_determine_absent :
    (∃ preimage, evidencePreimage (evidence none) = .ok preimage ∧
      evidencePreimage (evidence (some [])) = .ok preimage ∧
      (evidence none).certChain = (evidence (some [])).certChain) ∧
    (∃ payload, reportDataV2Payload (List.replicate 32 0) "worker" binding = .ok payload ∧
      ∀ hotkey, reportDataV2Payload (List.replicate 32 0) hotkey binding = .ok payload →
        Text.ofString "worker" = hotkey) ∧
    ∃ preimage, tdxComponentPreimage .sample (fun _ => reportDigest) (evidence none) verdict =
        .ok preimage ∧
      ∀ other, tdxComponentPreimage .sample (fun _ => reportDigest) other verdict = .ok preimage →
        evidence none = other := by
  obtain ⟨preimage, hashed⟩ := exists_of_isOk
    (show (evidencePreimage (evidence none)).isOk = true by decide +kernel)
  obtain ⟨payload, bound⟩ := exists_of_isOk
    (show (reportDataV2Payload (List.replicate 32 0) "worker" binding).isOk = true by
      decide +kernel)
  obtain ⟨component, joined⟩ := exists_of_isOk
    (show (tdxComponentPreimage .sample (fun _ => reportDigest) (evidence none) verdict).isOk =
      true by decide +kernel)
  have absent : evidencePreimage (evidence (some [])) = .ok preimage := hashed
  refine ⟨⟨preimage, hashed, absent, ?_⟩, ⟨payload, bound, fun hotkey same => ?_⟩,
    ⟨component, joined, fun other same => ?_⟩⟩
  · exact (preimages_determine.1 (evidence none) (evidence (some [])) _ hashed absent).2.2.1
  · exact (preimages_determine.2.1 _ _ "worker" hotkey binding binding _ bound same).2.1
  · exact (preimages_determine.2.2.1 .sample _ (evidence none) other verdict verdict _ joined same).1

end SampleBinding

end Cathedral
