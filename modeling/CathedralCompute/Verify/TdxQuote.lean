import CathedralCompute.Codec.Base64
import CathedralCompute.Codec.Layout
import CathedralCompute.Codec.Numeral
import CathedralCompute.Semantics.Raises

/-!
# Intel TDX quotes

The strict parser of quotes of version 4, and the launch measurement that it and the Go
verifier hash. A quote is a header, a TD report body, the length of the signature data and
the signature data, which end with the certification data.

## Main definitions

* `parseTdxQuote`, `ParsedTdxQuote.measurement`
* `measurementId` — the Go verifier's measurement
* `ParsedTdxQuote.encode` — a quote written back

## Main results

* `parseTdxQuote_eq_ok` — the parser accepts exactly what was written from well-formed fields
* `tdx_quote_contract` — what parsing means, and that both verifiers measure the same
-/

set_option autoImplicit false

namespace Cathedral.Verify

open Codec Semantics

/-- The exceptions of the parser and of what it calls. -/
inductive Fault where
  | tdxQuoteParseError (message : Text)
  | structError
  | binasciiError
deriving DecidableEq

abbrev Checked := Except Fault

/-- `TdxQuoteParseError` with a fixed text. -/
def malformed (complaint : String) : Fault := .tdxQuoteParseError (Text.ofString complaint)

/-! ## Constants -/

def quoteHeaderSize : ℕ := 48
def tdReportBodySize : ℕ := 584
def quoteSignatureDataLenOffset : ℕ := quoteHeaderSize + tdReportBodySize
def quoteSignatureDataOffset : ℕ := quoteSignatureDataLenOffset + 4
def quoteSignatureSize : ℕ := 64
def quoteAttestationKeySize : ℕ := 64
def quoteCertificationHeaderSize : ℕ := 6
def tdxQuoteVersion : ℕ := 4
def tdxTeeType : ℕ := 0x81
def tdxCertificationDataTypePckChain : ℕ := 6

/-- `_MEASUREMENT_DOMAIN`. -/
def measurementDomain : Bytes := Text.ascii "cathedral-tdx-measurement-v1" ++ [0]

/-! ## Quotes -/

structure TdxQuoteHeader where
  version : ℕ
  attestationKeyType : ℕ
  teeType : ℕ
  qeSvn : ℕ
  pceSvn : ℕ
  qeVendorId : Bytes
  userData : Bytes
deriving DecidableEq

structure TdxReportBody where
  teeTcbSvn : Bytes
  mrSeam : Bytes
  mrSignerSeam : Bytes
  seamAttributes : Bytes
  tdAttributes : Bytes
  xfam : Bytes
  mrTd : Bytes
  mrConfigId : Bytes
  mrOwner : Bytes
  mrOwnerConfig : Bytes
  rtmr0 : Bytes
  rtmr1 : Bytes
  rtmr2 : Bytes
  rtmr3 : Bytes
  reportData : Bytes
deriving DecidableEq

def TdxReportBody.rtmrs (body : TdxReportBody) : List Bytes :=
  [body.rtmr0, body.rtmr1, body.rtmr2, body.rtmr3]

structure ParsedTdxQuote where
  header : TdxQuoteHeader
  body : TdxReportBody
  attestationKey : Bytes
  certificationDataType : ℕ
  certificationData : Bytes
  pckLeafCertDer : Bytes
deriving DecidableEq

/-- What `measurement` hands to the hash, update by update. -/
def TdxReportBody.hashed (body : TdxReportBody) : Bytes :=
  let h := measurementDomain
  let h := h ++ body.tdAttributes
  let h := h ++ body.xfam
  let h := h ++ body.mrTd
  let h := h ++ body.mrConfigId
  let h := h ++ body.mrOwner
  let h := h ++ body.mrOwnerConfig
  body.rtmrs.foldl (fun h rtmr => h ++ rtmr) h

/-- `ParsedTdxQuote.measurement`. -/
def ParsedTdxQuote.measurement (quote : ParsedTdxQuote) : Text :=
  Text.ofString "tdx-measurement-sha256:" ++ hexdigest quote.body.hashed

/-! ## Parser -/

/-- `struct.unpack("<HHIHH", data)`. -/
def unpackHeader (data : Bytes) : Checked (ℕ × ℕ × ℕ × ℕ × ℕ) := do
  require (data.length = 12) .structError
  return (littleEndianValue (slice data 0 2), littleEndianValue (slice data 2 4),
    littleEndianValue (slice data 4 8), littleEndianValue (slice data 8 10),
    littleEndianValue (slice data 10 12))

/-- `_parse_header`. -/
def parseHeader (data : Bytes) : Checked TdxQuoteHeader := do
  let (version, attKeyType, teeType, qeSvn, pceSvn) ← unpackHeader (slice data 0 12)
  return {
    version
    attestationKeyType := attKeyType
    teeType
    qeSvn
    pceSvn
    qeVendorId := slice data 12 28
    userData := slice data 28 48 }

/-- `_parse_body`. -/
def parseBody (data : Bytes) : Checked TdxReportBody := do
  require (data.length = tdReportBodySize) (malformed "TD report body must be 584 bytes")
  return {
    teeTcbSvn := slice data 0 16
    mrSeam := slice data 16 64
    mrSignerSeam := slice data 64 112
    seamAttributes := slice data 112 120
    tdAttributes := slice data 120 128
    xfam := slice data 128 136
    mrTd := slice data 136 184
    mrConfigId := slice data 184 232
    mrOwner := slice data 232 280
    mrOwnerConfig := slice data 280 328
    rtmr0 := slice data 328 376
    rtmr1 := slice data 376 424
    rtmr2 := slice data 424 472
    rtmr3 := slice data 472 520
    reportData := slice data 520 584 }

def pemBegin : Bytes := Text.ascii "-----BEGIN CERTIFICATE-----"
def pemEnd : Bytes := Text.ascii "-----END CERTIFICATE-----"

/-- The octets at which `bytes.split()` separates. -/
def isSpace (octet : UInt8) : Bool := octet = 0x20 || (0x09 ≤ octet && octet ≤ 0x0d)

/-- `base64.b64decode(data, validate=True)`. -/
def b64decode (data : Bytes) : Checked Bytes :=
  demand .binasciiError (base64Decode (data.map fun octet => .ofNat _ octet.toNat))

/-- `_extract_first_pem_certificate`. -/
def extractFirstPemCertificate (data : Bytes) : Checked Bytes := do
  let start ← demand (malformed "TDX certification data does not contain a PEM certificate")
    (find pemBegin data)
  let bodyStart := start + pemBegin.length
  let stop ← demand (malformed "TDX certification data has an unterminated PEM certificate")
    ((find pemEnd (data.drop bodyStart)).map fun place => bodyStart + place)
  let b64 := (slice data bodyStart stop).filter fun octet => !isSpace octet
  -- `binascii.Error` is a `ValueError`
  let certDer ← (b64decode b64).mapError fun _ =>
    malformed "TDX PCK leaf certificate is not valid base64"
  require (certDer ≠ []) (malformed "TDX PCK leaf certificate is empty")
  return certDer

/-- A number in hexadecimal digits. -/
def hexNumber (n : ℕ) : Text := (Nat.toDigits 16 n).map fun c => .ofNat _ c.toNat

/-- A complaint that gives the length of the octets and the one needed. -/
def tooFew (complaint between : String) (got need : ℕ) : Fault :=
  .tdxQuoteParseError (Text.ofString complaint ++ natText got ++ Text.ofString between ++
    natText need)

/-- A complaint that gives a number. -/
def unsupported (complaint : String) (n : Text) : Fault :=
  .tdxQuoteParseError (Text.ofString complaint ++ n)

/-- The signature data behind their declared length. -/
def parseSignatureData (header : TdxQuoteHeader) (body : TdxReportBody) (signatureData : Bytes) :
    Checked ParsedTdxQuote := do
  let attestationKey := slice signatureData quoteSignatureSize
    (quoteSignatureSize + quoteAttestationKeySize)
  require (attestationKey.any (· ≠ 0)) (malformed "TDX quote attestation key is empty")
  let certHeaderOffset := quoteSignatureSize + quoteAttestationKeySize
  let certType := littleEndianValue (slice signatureData certHeaderOffset (certHeaderOffset + 2))
  require (certType = tdxCertificationDataTypePckChain)
    (unsupported "unsupported TDX certification data type: " (natText certType))
  let certSize := littleEndianValue
    (slice signatureData (certHeaderOffset + 2) (certHeaderOffset + 6))
  let certDataOffset := certHeaderOffset + quoteCertificationHeaderSize
  let certDataEnd := certDataOffset + certSize
  require (certDataEnd ≤ signatureData.length)
    (tooFew "TDX certification data truncated: got " ", need " signatureData.length certDataEnd)
  require (certDataEnd = signatureData.length)
    (malformed "TDX signature data has trailing bytes after certification data")
  let certData := slice signatureData certDataOffset certDataEnd
  let pckLeafCertDer ← extractFirstPemCertificate certData
  return {
    header
    body
    attestationKey
    certificationDataType := certType
    certificationData := certData
    pckLeafCertDer }

/-- `parse_tdx_quote`. -/
def parseTdxQuote (raw : Bytes) : Checked ParsedTdxQuote := do
  let minLen := quoteSignatureDataOffset + quoteSignatureSize + quoteAttestationKeySize
  require (minLen ≤ raw.length)
    (tooFew "TDX quote too short: got " " bytes, need >= " raw.length minLen)
  let header ← parseHeader (slice raw 0 quoteHeaderSize)
  require (header.version = tdxQuoteVersion)
    (unsupported "unsupported TDX quote version: " (natText header.version))
  require (header.teeType = tdxTeeType)
    (unsupported "unsupported TDX tee_type: 0x" (hexNumber header.teeType))
  let body ← parseBody (slice raw quoteHeaderSize quoteSignatureDataLenOffset)
  let signatureDataLen := littleEndianValue
    (slice raw quoteSignatureDataLenOffset quoteSignatureDataOffset)
  let fixedSigLen := quoteSignatureSize + quoteAttestationKeySize + quoteCertificationHeaderSize
  require (fixedSigLen ≤ signatureDataLen)
    (unsupported "TDX signature data too short: " (natText signatureDataLen))
  let signatureDataEnd := quoteSignatureDataOffset + signatureDataLen
  require (signatureDataEnd ≤ raw.length)
    (tooFew "TDX quote truncated inside signature data: got " ", need " raw.length
      signatureDataEnd)
  parseSignatureData header body (slice raw quoteSignatureDataOffset signatureDataEnd)

/-! ## The Go verifier -/

/-- What `measurementID` asks of a `launchBody`. -/
structure LaunchBody where
  tdAttributes : Bytes
  xfam : Bytes
  mrTd : Bytes
  mrConfigId : Bytes
  mrOwner : Bytes
  mrOwnerConfig : Bytes
  rtmrs : List Bytes

/-- What `measurementID` writes to the hash. -/
def LaunchBody.hashed (body : LaunchBody) : Except Text Bytes := do
  let fields := [body.tdAttributes, body.xfam, body.mrTd, body.mrConfigId, body.mrOwner,
    body.mrOwnerConfig]
  let wantLengths := [8, 8, 48, 48, 48, 48]
  require (fields.map List.length = wantLengths) "verified quote has an invalid measurement field"
  require (body.rtmrs.length = 4) "verified quote has an invalid RTMR count"
  let hash := measurementDomain
  let hash := fields.foldl (fun hash field => hash ++ field) hash
  body.rtmrs.foldlM (fun hash rtmr => do
    require (rtmr.length = 48) "verified quote has an invalid RTMR"
    return hash ++ rtmr) hash

/-- `measurementID`. -/
def measurementId (body : LaunchBody) : Except Text Text :=
  body.hashed.map fun hash => Text.ofString "tdx-measurement-sha256:" ++ hexdigest hash

/-- The quote reader of the Go library delivers the fields of the TD report at the
offsets of Intel's layout. The reader stands for `abi.QuoteToProto` and the version check
of `launchQuoteV4` after it, so it answers for quotes of version 4 only. -/
structure ReadsAbi (quoteToProto : Bytes → Option LaunchBody) : Prop where
  fields : ∀ raw body, quoteToProto raw = some body →
    body.tdAttributes = slice raw 168 176 ∧ body.xfam = slice raw 176 184 ∧
      body.mrTd = slice raw 184 232 ∧ body.mrConfigId = slice raw 232 280 ∧
      body.mrOwner = slice raw 280 328 ∧ body.mrOwnerConfig = slice raw 328 376
  rtmrs : ∀ raw body, quoteToProto raw = some body →
    body.rtmrs = [slice raw 376 424, slice raw 424 472, slice raw 472 520, slice raw 520 568]

/-! ## Writing a quote back -/

/-- The parts of a header, at the offsets `headerSpans`. -/
def TdxQuoteHeader.parts (header : TdxQuoteHeader) : List Bytes :=
  [littleEndian 2 header.version, littleEndian 2 header.attestationKeyType,
    littleEndian 4 header.teeType, littleEndian 2 header.qeSvn, littleEndian 2 header.pceSvn,
    header.qeVendorId, header.userData]

def headerSpans : List (ℕ × ℕ) :=
  [(0, 2), (2, 4), (4, 8), (8, 10), (10, 12), (12, 28), (28, 48)]

/-- The parts of a TD report body, at the offsets `bodySpans`. -/
def TdxReportBody.parts (body : TdxReportBody) : List Bytes :=
  [body.teeTcbSvn, body.mrSeam, body.mrSignerSeam, body.seamAttributes, body.tdAttributes,
    body.xfam, body.mrTd, body.mrConfigId, body.mrOwner, body.mrOwnerConfig, body.rtmr0,
    body.rtmr1, body.rtmr2, body.rtmr3, body.reportData]

def bodySpans : List (ℕ × ℕ) :=
  [(0, 16), (16, 64), (64, 112), (112, 120), (120, 128), (128, 136), (136, 184), (184, 232),
    (232, 280), (280, 328), (328, 376), (376, 424), (424, 472), (472, 520), (520, 584)]

/-- The parts of the signature data, with the signature that the parser skips. -/
def ParsedTdxQuote.signatureParts (quote : ParsedTdxQuote) (signature : Bytes) : List Bytes :=
  [signature, quote.attestationKey, littleEndian 2 quote.certificationDataType,
    littleEndian 4 quote.certificationData.length, quote.certificationData]

def signatureSpans (certSize : ℕ) : List (ℕ × ℕ) :=
  [(0, 64), (64, 128), (128, 130), (130, 134), (134, 134 + certSize)]

/-- A quote with its signature. -/
def ParsedTdxQuote.encode (quote : ParsedTdxQuote) (signature : Bytes) : Bytes :=
  [quote.header.parts.flatten, quote.body.parts.flatten,
    littleEndian 4 (quote.signatureParts signature).flatten.length,
    (quote.signatureParts signature).flatten].flatten

def quoteSpans (signatureDataLen : ℕ) : List (ℕ × ℕ) :=
  [(0, 48), (48, 632), (632, 636), (636, 636 + signatureDataLen)]

/-- The fields fit their places. -/
structure ParsedTdxQuote.WellFormed (quote : ParsedTdxQuote) : Prop where
  version : quote.header.version = tdxQuoteVersion
  teeType : quote.header.teeType = tdxTeeType
  small : quote.header.attestationKeyType < 0x10000 ∧ quote.header.qeSvn < 0x10000 ∧
    quote.header.pceSvn < 0x10000
  header : quote.header.parts.map List.length = headerSpans.map fun span => span.2 - span.1
  body : quote.body.parts.map List.length = bodySpans.map fun span => span.2 - span.1
  key : quote.attestationKey.length = quoteAttestationKeySize ∧ quote.attestationKey.any (· ≠ 0)
  certType : quote.certificationDataType = tdxCertificationDataTypePckChain
  certData : 134 + quote.certificationData.length < 0x100000000
  certificate : extractFirstPemCertificate quote.certificationData = .ok quote.pckLeafCertDer

theorem tiles_header : Tiles 0 headerSpans 48 := by decide

theorem tiles_body : Tiles 0 bodySpans 584 := by decide

theorem tiles_signature (certSize : ℕ) : Tiles 0 (signatureSpans certSize) (134 + certSize) :=
  ⟨rfl, by decide, rfl, by decide, rfl, by decide, rfl, by decide, rfl, Nat.le_add_right _ _, rfl⟩

theorem tiles_quote (signatureDataLen : ℕ) :
    Tiles 0 (quoteSpans signatureDataLen) (636 + signatureDataLen) :=
  ⟨rfl, by decide, rfl, by decide, rfl, by decide, rfl, Nat.le_add_right _ _, rfl⟩

/-! ## Parts -/

section Parts

variable {data : Bytes}

/-- The octets of a number read from a part are the part. -/
theorem littleEndian_slice {start stop count : ℕ} (within : stop ≤ data.length)
    (width : stop - start = count) :
    littleEndian count (littleEndianValue (slice data start stop)) = slice data start stop := by
  have length := @length_slice _ data start stop within
  rw [← width, ← length, littleEndian_value]

theorem littleEndianValue_slice_lt {start stop count : ℕ} (within : stop ≤ data.length)
    (width : stop - start = count) :
    littleEndianValue (slice data start stop) < 256 ^ count := by
  rw [← width, ← length_slice within]
  exact littleEndianValue_lt _

/-- The header that is read has the octets as its parts. -/
theorem parseHeader_eq_ok (long : data.length = 48) {header : TdxQuoteHeader} :
    parseHeader data = .ok header ↔
      header.parts = headerSpans.map (fun span => slice data span.1 span.2) ∧
        header.version < 0x10000 ∧ header.attestationKeyType < 0x10000 ∧
        header.teeType < 0x100000000 ∧ header.qeSvn < 0x10000 ∧ header.pceSvn < 0x10000 := by
  have twelve : (slice data 0 12).length = 12 := by
    rw [length_slice (by omega)]
  have inner {start stop : ℕ} (within : stop ≤ 12) :
      slice (slice data 0 12) start stop = slice data start stop := by
    rw [slice_slice (by omega), Nat.zero_add, Nat.zero_add]
  have octets (start stop count : ℕ) (within : stop ≤ 48) (width : stop - start = count) :=
    @littleEndian_slice data start stop count (by omega) width
  have bound {start stop count : ℕ} (within : stop ≤ 48) (width : stop - start = count) :=
    @littleEndianValue_slice_lt data start stop count (by omega) width
  simp only [parseHeader, unpackHeader, bind_eq_ok, require_eq_ok, pure_eq_ok, twelve, true_and,
    exists_const, Prod.exists, Prod.mk.injEq, inner (by decide : 2 ≤ 12), inner (by decide : 4 ≤ 12),
    inner (by decide : 8 ≤ 12), inner (by decide : 10 ≤ 12), inner (by decide : 12 ≤ 12)]
  constructor
  · rintro ⟨_, _, _, _, _, ⟨rfl, rfl, rfl, rfl, rfl⟩, rfl⟩
    refine ⟨?_, bound (by decide) rfl, bound (by decide) rfl, bound (by decide) rfl,
      bound (by decide) rfl, bound (by decide) rfl⟩
    simp only [TdxQuoteHeader.parts, headerSpans, List.map_cons, List.map_nil,
      octets 0 2 2 (by decide) rfl, octets 2 4 2 (by decide) rfl, octets 4 8 4 (by decide) rfl,
      octets 8 10 2 (by decide) rfl, octets 10 12 2 (by decide) rfl]
  · rintro ⟨parts, version, keyType, teeType, qeSvn, pceSvn⟩
    obtain ⟨_, _, _, _, _, _, _⟩ := header
    simp only [TdxQuoteHeader.parts, headerSpans, List.map_cons, List.map_nil, List.cons.injEq,
      and_true] at parts version keyType teeType qeSvn pceSvn
    obtain ⟨first, second, third, fourth, fifth, rfl, rfl⟩ := parts
    refine ⟨_, _, _, _, _, ⟨rfl, rfl, rfl, rfl, rfl⟩, ?_⟩
    rw [← first, ← second, ← third, ← fourth, ← fifth, littleEndianValue_littleEndian version,
      littleEndianValue_littleEndian keyType, littleEndianValue_littleEndian teeType,
      littleEndianValue_littleEndian qeSvn, littleEndianValue_littleEndian pceSvn]

theorem parseBody_eq_ok (long : data.length = 584) {body : TdxReportBody} :
    parseBody data = .ok body ↔
      body.parts = bodySpans.map fun span => slice data span.1 span.2 := by
  have size : data.length = tdReportBodySize := long
  simp only [parseBody, bind_eq_ok, require_eq_ok, pure_eq_ok, size, true_and, exists_const]
  constructor
  · rintro rfl
    rfl
  · intro parts
    obtain ⟨_, _, _, _, _, _, _, _, _, _, _, _, _, _, _⟩ := body
    simp only [TdxReportBody.parts, bodySpans, List.map_cons, List.map_nil, List.cons.injEq] at parts
    simp only [parts]

/-- What the parser takes from signature data is what they were put together from. -/
theorem parseSignatureData_eq_ok (enough : 134 ≤ data.length) {header : TdxQuoteHeader}
    {body : TdxReportBody} {quote : ParsedTdxQuote} :
    parseSignatureData header body data = .ok quote ↔
      (quote.header = header ∧ quote.body = body) ∧
      (quote.attestationKey.length = quoteAttestationKeySize ∧
        quote.attestationKey.any (· ≠ 0)) ∧
      quote.certificationDataType = tdxCertificationDataTypePckChain ∧
      quote.certificationData.length < 0x100000000 ∧
      extractFirstPemCertificate quote.certificationData = .ok quote.pckLeafCertDer ∧
      ∃ signature : Bytes, signature.length = 64 ∧
        data = (quote.signatureParts signature).flatten := by
  -- the parser reads the size of the certificates before it cuts them
  have unfolded : parseSignatureData header body data = .ok quote ↔ ∃ certSize,
      littleEndianValue (slice data 130 134) = certSize ∧
      ((slice data 64 128).any (· ≠ 0)) = true ∧
      littleEndianValue (slice data 128 130) = tdxCertificationDataTypePckChain ∧
      134 + certSize = data.length ∧
      ∃ der, extractFirstPemCertificate (slice data 134 (134 + certSize)) = .ok der ∧
        quote = ⟨header, body, slice data 64 128, littleEndianValue (slice data 128 130),
          slice data 134 (134 + certSize), der⟩ := by
    simp only [parseSignatureData, bind_eq_ok, require_eq_ok, pure_eq_ok, exists_const]
    constructor
    · rintro ⟨filled, certType, -, exact_, der, certificate, rfl⟩
      exact ⟨_, rfl, filled, certType, exact_, der, certificate, rfl⟩
    · rintro ⟨_, rfl, filled, certType, exact_, der, certificate, rfl⟩
      exact ⟨filled, certType, exact_.le, exact_, der, certificate, rfl⟩
  rw [unfolded]
  constructor
  · rintro ⟨certSize, size, filled, certType, covers, der, certificate, rfl⟩
    have certLength : (slice data 134 (134 + certSize)).length = certSize := by
      rw [length_slice covers.le, Nat.add_sub_cancel_left]
    have bound : certSize < 256 ^ 4 := size ▸ littleEndianValue_slice_lt enough rfl
    refine ⟨⟨rfl, rfl⟩, ⟨length_slice (by omega), filled⟩, certType, certLength.trans_lt bound,
      certificate, slice data 0 64, length_slice (by omega), ?_⟩
    -- the tiles give the data back
    have whole := @flatten_slices _ data _ _ _ (tiles_signature certSize)
    rw [covers, slice_length] at whole
    have kind := @littleEndian_slice data 128 130 2 (by omega) rfl
    have sizeOctets := @littleEndian_slice data 130 134 4 enough rfl
    rw [size, ← certLength] at sizeOctets
    refine whole.symm.trans (congrArg List.flatten ?_)
    simp only [signatureSpans, List.map_cons, List.map_nil, ParsedTdxQuote.signatureParts, kind,
      sizeOctets]
  · rintro ⟨⟨rfl, rfl⟩, ⟨keyLength, filled⟩, certType, small, certificate, signature, length, rfl⟩
    have fit : (quote.signatureParts signature).map List.length =
        (signatureSpans quote.certificationData.length).map fun span => span.2 - span.1 := by
      simp only [ParsedTdxQuote.signatureParts, signatureSpans, List.map_cons, List.map_nil, length,
        keyLength, length_littleEndian, Nat.add_sub_cancel_left]
      rfl
    -- the parts lie where the parser cuts
    have parts := @slices_of_parts _ [] _ _ _ (tiles_signature quote.certificationData.length) fit
    have covers := length_flatten_of_tiles (tiles_signature quote.certificationData.length) fit
    simp only [List.append_nil, signatureSpans, List.map_cons, List.map_nil,
      ParsedTdxQuote.signatureParts, List.cons.injEq, and_true] at parts
    obtain ⟨-, key, kind, size, data⟩ := parts
    have kind' := (congrArg littleEndianValue kind).trans
      (littleEndianValue_littleEndian (by rw [certType]; decide))
    refine ⟨quote.certificationData.length, ?_, ?_, ?_, by omega, quote.pckLeafCertDer, ?_, ?_⟩
    · exact (congrArg littleEndianValue size).trans (littleEndianValue_littleEndian small)
    · exact (congrArg (List.any · _) key).trans filled
    · exact kind'.trans certType
    · exact (congrArg extractFirstPemCertificate data).trans certificate
    · cases quote
      exact (ParsedTdxQuote.mk.injEq ..).mpr ⟨rfl, rfl, key.symm, kind'.symm, data.symm, rfl⟩

end Parts

/-! ## What is accepted -/

section Accepted

variable {raw : Bytes} {quote : ParsedTdxQuote}

theorem length_headerParts (formed : quote.WellFormed) : quote.header.parts.flatten.length = 48 := by
  have length := length_flatten_of_tiles tiles_header formed.header
  omega

theorem length_bodyParts (formed : quote.WellFormed) : quote.body.parts.flatten.length = 584 := by
  have length := length_flatten_of_tiles tiles_body formed.body
  omega

theorem length_signatureParts (key : quote.attestationKey.length = quoteAttestationKeySize)
    {signature : Bytes} (length : signature.length = 64) :
    (quote.signatureParts signature).flatten.length = 134 + quote.certificationData.length := by
  simp only [ParsedTdxQuote.signatureParts, List.flatten_cons, List.flatten_nil,
    List.length_append, List.length_nil, length_littleEndian, length, key]
  unfold quoteAttestationKeySize
  omega

/-- A written quote is cut at the offsets of its four sections. -/
theorem slices_encode (formed : quote.WellFormed) {signature : Bytes}
    (length : signature.length = 64) (trailing : Bytes) :
    ((quoteSpans (134 + quote.certificationData.length)).map fun span =>
        slice (quote.encode signature ++ trailing) span.1 span.2) =
      [quote.header.parts.flatten, quote.body.parts.flatten,
        littleEndian 4 (134 + quote.certificationData.length),
        (quote.signatureParts signature).flatten] ∧
    (quote.encode signature).length = 636 + (134 + quote.certificationData.length) := by
  have headerLength := length_headerParts formed
  have bodyLength := length_bodyParts formed
  have dataLength := length_signatureParts formed.key.1 length
  have fit : [quote.header.parts.flatten, quote.body.parts.flatten,
      littleEndian 4 (134 + quote.certificationData.length),
      (quote.signatureParts signature).flatten].map List.length =
      (quoteSpans (134 + quote.certificationData.length)).map fun span => span.2 - span.1 := by
    simp only [quoteSpans, List.map_cons, List.map_nil, headerLength, bodyLength, dataLength,
      length_littleEndian, Nat.add_sub_cancel_left]
  rw [ParsedTdxQuote.encode, dataLength]
  refine ⟨slices_of_parts (tiles_quote _) fit, ?_⟩
  rw [← length_flatten_of_tiles (tiles_quote _) fit, Nat.zero_add]

/-- The signature data are cut at the offsets of their parts. -/
theorem slices_signature (key : quote.attestationKey.length = quoteAttestationKeySize)
    {signature : Bytes} (length : signature.length = 64) :
    ((signatureSpans quote.certificationData.length).map fun span =>
        slice (quote.signatureParts signature).flatten span.1 span.2) =
      quote.signatureParts signature := by
  have fit : (quote.signatureParts signature).map List.length =
      (signatureSpans quote.certificationData.length).map fun span => span.2 - span.1 := by
    simp only [ParsedTdxQuote.signatureParts, signatureSpans, List.map_cons, List.map_nil, length,
      key, length_littleEndian, Nat.add_sub_cancel_left]
    rfl
  have parts := @slices_of_parts _ [] _ _ _ (tiles_signature quote.certificationData.length) fit
  rwa [List.append_nil] at parts

/-- **Acceptance.** The parser accepts exactly what starts with a quote written from
well-formed fields. -/
theorem parseTdxQuote_eq_ok : parseTdxQuote raw = .ok quote ↔
    quote.WellFormed ∧ ∃ signature trailing : Bytes, signature.length = 64 ∧
      raw = quote.encode signature ++ trailing := by
  have unfolded : parseTdxQuote raw = .ok quote ↔ 764 ≤ raw.length ∧
      ∃ header, parseHeader (slice raw 0 48) = .ok header ∧ header.version = tdxQuoteVersion ∧
      header.teeType = tdxTeeType ∧ ∃ body, parseBody (slice raw 48 632) = .ok body ∧
      ∃ signatureDataLen, littleEndianValue (slice raw 632 636) = signatureDataLen ∧
      134 ≤ signatureDataLen ∧ 636 + signatureDataLen ≤ raw.length ∧
      parseSignatureData header body (slice raw 636 (636 + signatureDataLen)) = .ok quote := by
    simp only [parseTdxQuote, bind_eq_ok, require_eq_ok, exists_const]
    constructor
    · rintro ⟨long, header, readHeader, version, teeType, body, readBody, enough, inside, rest⟩
      exact ⟨long, header, readHeader, version, teeType, body, readBody, _, rfl, enough, inside,
        rest⟩
    · rintro ⟨long, header, readHeader, version, teeType, body, readBody, _, rfl, enough, inside,
        rest⟩
      exact ⟨long, header, readHeader, version, teeType, body, readBody, enough, inside, rest⟩
  rw [unfolded]
  -- what is accepted was cut into tiles that give the octets back
  constructor
  · rintro ⟨long, header, readHeader, version, teeType, body, readBody, signatureDataLen, sizeAt,
      enough, inside, rest⟩
    have dataLength : (slice raw 636 (636 + signatureDataLen)).length = signatureDataLen := by
      rw [length_slice inside, Nat.add_sub_cancel_left]
    have headerLength : (slice raw 0 48).length = 48 := length_slice (by omega)
    have bodyLength : (slice raw 48 632).length = 584 := length_slice (by omega)
    obtain ⟨⟨rfl, rfl⟩, ⟨key, filled⟩, certType, small, certificate, signature, length, data⟩ :=
      (parseSignatureData_eq_ok (enough.trans_eq dataLength.symm)).mp rest
    obtain ⟨headerParts, -, keyType, -, qeSvn, pceSvn⟩ :=
      (parseHeader_eq_ok headerLength).mp readHeader
    have bodyParts := (parseBody_eq_ok bodyLength).mp readBody
    have sizeOctets := @littleEndian_slice raw 632 636 4 (by omega) rfl
    have bound := @littleEndianValue_slice_lt raw 632 636 4 (by omega) rfl
    rw [sizeAt] at bound sizeOctets
    have dataLength' := length_signatureParts key length
    rw [← data, dataLength] at dataLength'
    refine ⟨⟨version, teeType, ⟨keyType, qeSvn, pceSvn⟩, ?_, ?_, ⟨key, filled⟩, certType, by omega,
      certificate⟩, signature, raw.drop (636 + signatureDataLen), length, ?_⟩
    · rw [headerParts]
      exact length_slices tiles_header headerLength.ge
    · rw [bodyParts]
      exact length_slices tiles_body bodyLength.ge
    · have header := @flatten_slices _ (slice raw 0 48) _ _ _ tiles_header
      have body := @flatten_slices _ (slice raw 48 632) _ _ _ tiles_body
      rw [← headerParts, slice_slice (by decide)] at header
      rw [← bodyParts, slice_slice (by decide)] at body
      have whole := @flatten_slices _ raw _ _ _ (tiles_quote signatureDataLen)
      have start : quote.encode signature = slice raw 0 (636 + signatureDataLen) := by
        rw [← whole, ParsedTdxQuote.encode, header, body, ← data, dataLength, sizeOctets]
        rfl
      rw [start, slice, List.drop_zero, List.take_append_drop]
  · -- what is written is cut at the same places
    rintro ⟨formed, signature, trailing, length, rfl⟩
    obtain ⟨parts, whole⟩ := slices_encode formed length trailing
    have headerLength := length_headerParts formed
    have bodyLength := length_bodyParts formed
    have dataLength := length_signatureParts formed.key.1 length
    simp only [quoteSpans, List.map_cons, List.map_nil, List.cons.injEq, and_true] at parts
    obtain ⟨header, body, size, rest⟩ := parts
    have sizeAt := (congrArg littleEndianValue size).trans
      (littleEndianValue_littleEndian formed.certData)
    have headerParts := @slices_of_parts _ [] _ _ _ tiles_header formed.header
    have bodyParts := @slices_of_parts _ [] _ _ _ tiles_body formed.body
    rw [List.append_nil] at headerParts bodyParts
    obtain ⟨keyType, qeSvn, pceSvn⟩ := formed.small
    refine ⟨?_, quote.header, ?_, formed.version, formed.teeType, quote.body, ?_, _, sizeAt,
      ?_, ?_, ?_⟩
    · rw [List.length_append]
      omega
    · rw [header, parseHeader_eq_ok headerLength]
      exact ⟨headerParts.symm, by rw [formed.version]; decide, keyType,
        by rw [formed.teeType]; decide, qeSvn, pceSvn⟩
    · rw [body, parseBody_eq_ok bodyLength]
      exact bodyParts.symm
    · omega
    · rw [List.length_append]
      omega
    · rw [rest, parseSignatureData_eq_ok (by omega)]
      have small := formed.certData
      exact ⟨⟨rfl, rfl⟩, formed.key, formed.certType, by omega, formed.certificate, signature,
        length, rfl⟩

end Accepted

/-! ## What is refused -/

/-- The exception is `TdxQuoteParseError`. -/
def IsParseError (failure : Fault) : Prop := ∃ message, failure = .tdxQuoteParseError message

theorem isParseError {message : Text} : IsParseError (.tdxQuoteParseError message) := ⟨message, rfl⟩

theorem parseError_extract {data : Bytes} :
    Raises IsParseError (extractFirstPemCertificate data) := by
  have decoded {b64 : Bytes} : Raises IsParseError ((b64decode b64).mapError fun _ =>
      malformed "TDX PCK leaf certificate is not valid base64") := by
    intro failure failed
    cases read : b64decode b64 with
    | ok der => rw [read] at failed; cases failed
    | error other => rw [read] at failed; cases failed; exact isParseError
  unfold extractFirstPemCertificate
  repeat' first
    | exact raises_require isParseError
    | exact raises_demand isParseError
    | exact decoded
    | exact raises_pure _
    | refine raises_bind ?_ fun _ _ => ?_

/-- The octets of the fixed part are enough for `struct.unpack`. -/
theorem parseError_header {data : Bytes} (long : data.length = 48) :
    Raises IsParseError (parseHeader data) := by
  have twelve : (slice data 0 12).length = 12 := length_slice (by omega)
  refine raises_bind ?_ fun _ _ => raises_pure _
  intro failure failed
  simp only [unpackHeader, require, twelve, if_true] at failed
  cases failed

theorem parseError_body {data : Bytes} : Raises IsParseError (parseBody data) :=
  raises_bind (raises_require isParseError) fun _ _ => raises_pure _

theorem parseError_signatureData {header : TdxQuoteHeader} {body : TdxReportBody} {data : Bytes} :
    Raises IsParseError (parseSignatureData header body data) := by
  unfold parseSignatureData
  dsimp only
  repeat' first
    | exact raises_require isParseError
    | exact parseError_extract
    | exact raises_pure _
    | refine raises_bind ?_ fun _ _ => ?_

/-- **Errors.** The parser raises nothing but `TdxQuoteParseError`. -/
theorem parseError_parseTdxQuote {raw : Bytes} : Raises IsParseError (parseTdxQuote raw) := by
  unfold parseTdxQuote
  dsimp only
  refine raises_bind (raises_require isParseError) fun _ enough => ?_
  have long : 764 ≤ raw.length := require_eq_ok.mp enough
  refine raises_bind (parseError_header (length_slice (by unfold quoteHeaderSize; omega)))
    fun _ _ => ?_
  refine raises_bind (raises_require isParseError) fun _ _ => ?_
  refine raises_bind (raises_require isParseError) fun _ _ => ?_
  refine raises_bind parseError_body fun _ _ => ?_
  refine raises_bind (raises_require isParseError) fun _ _ => ?_
  exact raises_bind (raises_require isParseError) fun _ _ => parseError_signatureData

/-! ## Certificates -/

/-- The octets of an ASCII text are read as that text. -/
theorem b64decode_base64 (der : Bytes) : b64decode (base64 der).ascii = .ok der := by
  have text := asciiDecode_ascii (isAscii_base64 der)
  rw [asciiDecode] at text
  split at text
  · rw [b64decode, Option.some.inj text, base64Decode_base64]
    rfl
  · cases text

/-- The first certificate of certification data is the one between the first pair of
marks, written in Base64 with any white space. -/
theorem extractFirstPemCertificate_pem {before wrapped after der : Bytes} (filled : der ≠ [])
    (plain : 0x2d ∉ before) (inside : 0x2d ∉ wrapped)
    (written : wrapped.filter (fun octet => !isSpace octet) = (base64 der).ascii) :
    extractFirstPemCertificate (before ++ (pemBegin ++ (wrapped ++ (pemEnd ++ after)))) =
      .ok der := by
  have start : find pemBegin (before ++ (pemBegin ++ (wrapped ++ (pemEnd ++ after)))) =
      some before.length := find_append plain
  have rest : (before ++ (pemBegin ++ (wrapped ++ (pemEnd ++ after)))).drop
      (before.length + pemBegin.length) = wrapped ++ (pemEnd ++ after) := by
    rw [← List.append_assoc, ← List.length_append, List.drop_left]
  have stop : find pemEnd (wrapped ++ (pemEnd ++ after)) = some wrapped.length :=
    find_append inside
  have between : slice (before ++ (pemBegin ++ (wrapped ++ (pemEnd ++ after))))
      (before.length + pemBegin.length) (before.length + pemBegin.length + wrapped.length) =
      wrapped := by
    rw [← List.append_assoc, ← List.append_assoc _ wrapped]
    exact slice_append (List.length_append) (by omega)
  refine bind_eq_ok.mpr ⟨_, demand_eq_ok.mpr start, bind_eq_ok.mpr
    ⟨before.length + pemBegin.length + wrapped.length, ?_, ?_⟩⟩
  · rw [rest, stop]
    rfl
  · rw [between, written]
    dsimp only
    rw [b64decode_base64]
    exact bind_eq_ok.mpr ⟨der, rfl, bind_eq_ok.mpr ⟨(), require_eq_ok.mpr filled, rfl⟩⟩

/-! ## Measurements -/

/-- The fields that identify the launched guest. -/
def TdxReportBody.identity (body : TdxReportBody) : List Bytes :=
  [body.tdAttributes, body.xfam, body.mrTd, body.mrConfigId, body.mrOwner, body.mrOwnerConfig,
    body.rtmr0, body.rtmr1, body.rtmr2, body.rtmr3]

def identitySpans : List (ℕ × ℕ) :=
  [(0, 8), (8, 16), (16, 64), (64, 112), (112, 160), (160, 208), (208, 256), (256, 304),
    (304, 352), (352, 400)]

theorem tiles_identity : Tiles 0 identitySpans 400 := by decide

theorem hashed_eq (body : TdxReportBody) :
    body.hashed = measurementDomain ++ body.identity.flatten := by
  simp only [TdxReportBody.hashed, TdxReportBody.rtmrs, TdxReportBody.identity, List.foldl_cons,
    List.foldl_nil, List.flatten_cons, List.flatten_nil, List.append_assoc, List.append_nil]

section Measured

variable {raw raw' : Bytes} {quote quote' : ParsedTdxQuote}

/-- The identifying fields of a well-formed quote have their lengths. -/
theorem fit_identity (formed : quote.WellFormed) :
    quote.body.identity.map List.length = identitySpans.map fun span => span.2 - span.1 := by
  have lengths := formed.body
  simp only [TdxReportBody.parts, bodySpans, List.map_cons, List.map_nil, List.cons.injEq,
    and_true] at lengths
  simp only [TdxReportBody.identity, identitySpans, List.map_cons, List.map_nil, lengths]

/-- **Uniqueness.** What is hashed determines the identifying fields. -/
theorem hashed_inj (formed : quote.WellFormed) (formed' : quote'.WellFormed) :
    quote.body.hashed = quote'.body.hashed ↔ quote.body.identity = quote'.body.identity := by
  rw [hashed_eq, hashed_eq, List.append_cancel_left_eq]
  refine ⟨fun same => ?_, congrArg List.flatten⟩
  have parts := @slices_of_parts _ [] _ _ _ tiles_identity (fit_identity formed)
  have parts' := @slices_of_parts _ [] _ _ _ tiles_identity (fit_identity formed')
  rw [← parts, same, parts']

/-- The parts of the body of a parsed quote stand at their offsets in the quote. -/
theorem bodyParts_of_parse (parsed : parseTdxQuote raw = .ok quote) :
    quote.body.parts = bodySpans.map fun span => slice raw (48 + span.1) (48 + span.2) := by
  obtain ⟨formed, signature, trailing, -, rfl⟩ := parseTdxQuote_eq_ok.mp parsed
  have parts := @slices_flatten _ quote.header.parts.flatten
    ([littleEndian 4 (quote.signatureParts signature).flatten.length,
      (quote.signatureParts signature).flatten].flatten ++ trailing)
    (bodySpans.map fun span => (48 + span.1, 48 + span.2)) 48 632 quote.body.parts (by decide)
    (length_headerParts formed) (by rw [formed.body, List.map_map]; rfl)
  rw [List.map_map] at parts
  refine parts.symm.trans (List.map_congr_left fun span _ => ?_)
  simp only [ParsedTdxQuote.encode, List.flatten_cons, List.append_assoc, Function.comp_apply]

/-- **Go.** The Go verifier hashes the same octets. -/
theorem launchHashed_eq {quoteToProto : Bytes → Option LaunchBody} (abi : ReadsAbi quoteToProto)
    (parsed : parseTdxQuote raw = .ok quote) {body : LaunchBody}
    (launched : quoteToProto raw = some body) : body.hashed = .ok quote.body.hashed := by
  have formed := (parseTdxQuote_eq_ok.mp parsed).1
  have parts := bodyParts_of_parse parsed
  have lengths := formed.body
  obtain ⟨attributes, xfam, mrTd, configId, owner, ownerConfig⟩ := abi.fields raw body launched
  have rtmrs := abi.rtmrs raw body launched
  simp only [TdxReportBody.parts, bodySpans, List.map_cons, List.map_nil, List.cons.injEq,
    and_true, Nat.reduceAdd] at parts lengths
  obtain ⟨-, -, -, -, attributes', xfam', mrTd', configId', owner', ownerConfig', rtmr0, rtmr1,
    rtmr2, rtmr3, -⟩ := parts
  rw [← attributes'] at attributes
  rw [← xfam'] at xfam
  rw [← mrTd'] at mrTd
  rw [← configId'] at configId
  rw [← owner'] at owner
  rw [← ownerConfig'] at ownerConfig
  rw [← rtmr0, ← rtmr1, ← rtmr2, ← rtmr3] at rtmrs
  simp only [LaunchBody.hashed, attributes, xfam, mrTd, configId, owner, ownerConfig, rtmrs,
    List.map_cons, List.map_nil, lengths]
  simp only [require, List.length_cons, List.length_nil, List.foldlM_cons, List.foldlM_nil, lengths,
    if_true, TdxReportBody.hashed, TdxReportBody.rtmrs, List.foldl_cons, List.foldl_nil]
  rfl

end Measured

/-! ## The contract -/

/-- The declared length of the signature data. -/
def declaredSignatureLen (raw : Bytes) : ℕ := littleEndianValue (slice raw 632 636)

/-- The declared size of the certification data. -/
def declaredCertSize (raw : Bytes) : ℕ := littleEndianValue (slice raw 766 770)

/-- The quote is what the octets say: each field of header and body stands at its offset
and together they are the first 632 octets, and the declared lengths cut out key and
certification data with nothing left over. -/
structure Reproduces (raw : Bytes) (quote : ParsedTdxQuote) : Prop where
  header : quote.header.parts = headerSpans.map fun span => slice raw span.1 span.2
  body : quote.body.parts = bodySpans.map fun span => slice raw (48 + span.1) (48 + span.2)
  fixed : quote.header.parts.flatten ++ quote.body.parts.flatten = raw.take 632
  long : 632 ≤ raw.length
  key : quote.attestationKey = slice raw 700 764
  certType : littleEndian 2 quote.certificationDataType = slice raw 764 766
  certData : quote.certificationData = slice raw 770 (770 + declaredCertSize raw)
  covers : declaredSignatureLen raw = 64 + 64 + 6 + declaredCertSize raw
  inside : 636 + declaredSignatureLen raw ≤ raw.length

theorem reproduces_of_parse {raw : Bytes} {quote : ParsedTdxQuote}
    (parsed : parseTdxQuote raw = .ok quote) : Reproduces raw quote := by
  -- the octets are those written from the fields, so the fields lie at their offsets
  obtain ⟨formed, signature, trailing, length, same⟩ := parseTdxQuote_eq_ok.mp parsed
  obtain ⟨sections, whole⟩ := slices_encode formed length trailing
  have signatureParts := slices_signature formed.key.1 length
  have headerParts := @slices_of_parts _ [] _ _ _ tiles_header formed.header
  have small := formed.certData
  rw [← same] at sections
  rw [List.append_nil] at headerParts
  simp only [quoteSpans, List.map_cons, List.map_nil, List.cons.injEq, and_true] at sections
  obtain ⟨header, body, size, data⟩ := sections
  simp only [signatureSpans, ParsedTdxQuote.signatureParts, List.map_cons, List.map_nil,
    List.cons.injEq, and_true] at signatureParts
  obtain ⟨-, key, kind, certSize, certData⟩ := signatureParts
  have inside : 636 + (134 + quote.certificationData.length) ≤ raw.length := by
    rw [same, List.length_append, whole]
    exact Nat.le_add_right _ _
  have signatureLen : declaredSignatureLen raw = 134 + quote.certificationData.length := by
    rw [declaredSignatureLen, size, littleEndianValue_littleEndian small]
  -- an offset in the signature data is one in the quote
  have cut (start stop : ℕ) (within : stop ≤ 134 + quote.certificationData.length) :
      slice (quote.signatureParts signature).flatten start stop =
        slice raw (636 + start) (636 + stop) := by
    rw [← data, slice_slice (by omega)]
  have declared : declaredCertSize raw = quote.certificationData.length := by
    rw [declaredCertSize, ← cut 130 134 (by omega)]
    exact (congrArg littleEndianValue certSize).trans (littleEndianValue_littleEndian (by omega))
  refine ⟨?_, bodyParts_of_parse parsed, ?_, by omega, key.symm.trans (cut 64 128 (by omega)),
    kind.symm.trans (cut 128 130 (by omega)), ?_, ?_, ?_⟩
  · refine headerParts.symm.trans (List.map_congr_left fun span listed => ?_)
    have within : span.2 ≤ 48 := by
      have all : ∀ span ∈ headerSpans, span.2 ≤ 48 := by decide
      exact all span listed
    rw [← header, slice_slice (by omega), Nat.zero_add, Nat.zero_add]
  · rw [← header, ← body, slice_append_slice (by decide) (by decide), slice, List.drop_zero]
  · have last := cut 134 (134 + quote.certificationData.length) le_rfl
    rw [← Nat.add_assoc] at last
    rw [declared]
    exact certData.symm.trans last
  · rw [signatureLen, declared]
  · rw [signatureLen]
    exact inside

/-- **Quotes.** Whatever the octets, the parser raises `TdxQuoteParseError` or returns a quote
that they reproduce; well-formed fields are read back from what was written; and what the
two verifiers hash is the same and determines the identifying fields. -/
theorem tdx_quote_contract {quoteToProto : Bytes → Option LaunchBody}
    (abi : ReadsAbi quoteToProto) :
    (∀ raw, (∃ message, parseTdxQuote raw = .error (.tdxQuoteParseError message)) ∨
      ∃ quote, parseTdxQuote raw = .ok quote ∧ Reproduces raw quote) ∧
    (∀ (quote : ParsedTdxQuote) (signature trailing : Bytes), quote.WellFormed →
      signature.length = 64 → parseTdxQuote (quote.encode signature ++ trailing) = .ok quote) ∧
    (∀ raw quote body, parseTdxQuote raw = .ok quote → quoteToProto raw = some body →
      body.hashed = .ok quote.body.hashed ∧ measurementId body = .ok quote.measurement) ∧
    ∀ raw raw' quote quote', parseTdxQuote raw = .ok quote → parseTdxQuote raw' = .ok quote' →
      (quote.body.hashed = quote'.body.hashed ↔ quote.body.identity = quote'.body.identity) := by
  refine ⟨fun raw => ?_, fun quote signature trailing formed length => ?_,
    fun raw quote body parsed launched => ?_, fun raw raw' quote quote' parsed parsed' => ?_⟩
  · cases parsed : parseTdxQuote raw with
    | error failure =>
      obtain ⟨message, rfl⟩ := parseError_parseTdxQuote _ parsed
      exact .inl ⟨message, rfl⟩
    | ok quote => exact .inr ⟨quote, rfl, reproduces_of_parse parsed⟩
  · exact parseTdxQuote_eq_ok.mpr ⟨formed, signature, trailing, length, rfl⟩
  · have same := launchHashed_eq abi parsed launched
    refine ⟨same, ?_⟩
    rw [measurementId, same]
    rfl
  · exact hashed_inj (parseTdxQuote_eq_ok.mp parsed).1 (parseTdxQuote_eq_ok.mp parsed').1

/-- The fields of a TD report at Intel's offsets. -/
def sampleQuoteToProto (raw : Bytes) : Option LaunchBody :=
  some ⟨slice raw 168 176, slice raw 176 184, slice raw 184 232, slice raw 232 280,
    slice raw 280 328, slice raw 328 376,
    [slice raw 376 424, slice raw 424 472, slice raw 472 520, slice raw 520 568]⟩

/-- A certificate of two octets, on a line of its own. -/
def sampleBase64 : Bytes := 0x0a :: (base64 [0x30, 0x00]).ascii ++ [0x0a]

/-- A quote with that certificate, and nothing else, for certification data. -/
def sampleQuote : ParsedTdxQuote where
  header := ⟨4, 2, 0x81, 1, 2, List.replicate 16 0x56, List.replicate 20 0x55⟩
  body := ⟨List.replicate 16 0, List.replicate 48 0x53, List.replicate 48 0x73,
    List.replicate 8 0x41, List.replicate 8 0x54, List.replicate 8 0x58, List.replicate 48 0x4d,
    List.replicate 48 0x43, List.replicate 48 0x4f, List.replicate 48 0x6f, List.replicate 48 0x30,
    List.replicate 48 0x31, List.replicate 48 0x32, List.replicate 48 0x33, List.replicate 64 0x44⟩
  attestationKey := List.replicate 64 1
  certificationDataType := 6
  certificationData := [0x0a] ++ (pemBegin ++ (sampleBase64 ++ (pemEnd ++ [0x0a])))
  pckLeafCertDer := [0x30, 0x00]

theorem wellFormed_sampleQuote : sampleQuote.WellFormed := by
  refine ⟨rfl, rfl, by decide, by decide, by decide, by decide, rfl, by decide, ?_⟩
  exact @extractFirstPemCertificate_pem [0x0a] sampleBase64 [0x0a] [0x30, 0x00] (by decide)
    (by decide) (by decide) (by decide)

theorem readsAbi_sampleQuoteToProto : ReadsAbi sampleQuoteToProto where
  fields raw body launched := by
    obtain rfl := Option.some.inj launched
    exact ⟨rfl, rfl, rfl, rfl, rfl, rfl⟩
  rtmrs raw body launched := by
    obtain rfl := Option.some.inj launched
    rfl

theorem tdx_quote_contract_sampleQuote :
    ∃ raw body, parseTdxQuote raw = .ok sampleQuote ∧ sampleQuoteToProto raw = some body ∧
      measurementId body = .ok sampleQuote.measurement := by
  obtain ⟨-, written, measured, -⟩ := tdx_quote_contract readsAbi_sampleQuoteToProto
  have signed : (List.replicate 64 (0x51 : UInt8)).length = 64 := List.length_replicate
  have parsed := written sampleQuote (List.replicate 64 0x51) [] wellFormed_sampleQuote signed
  generalize sampleQuote.encode (List.replicate 64 0x51) ++ [] = raw at parsed
  have launched : sampleQuoteToProto raw = some _ := rfl
  exact ⟨raw, _, parsed, launched, (measured raw sampleQuote _ parsed launched).2⟩

end Cathedral.Verify
