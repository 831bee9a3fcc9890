import CathedralCompute.Ledger.Exports

/-!
# Signed score-class reports

`export_score_class_report` turns the frozen facts of an epoch into a signed
report that accounts for every candidate of the anchored snapshot. A positive
metric is read off the receipt stored with the verified challenge; a metric whose
decimal text the report grammar cannot hold is replaced by zero, together with
its evidence. Replaying an export returns the stored bytes.
-/

set_option autoImplicit false

namespace Cathedral.ScoreClass

open Codec Semantics Ledger

def reportSchema : Text := "cathedral_score_class_report_v2"

/-- `REPORT_DOMAIN`. -/
def reportDomain : Bytes := Text.ascii "cathedral-score-class-report-v1" ++ [0]

/-- `REPORT_ID_DOMAIN`. -/
def reportIdDomain : Bytes := Text.ascii "cathedral-score-class-id-v1" ++ [0]

def candidateSnapshotSchema : Text := "cathedral_candidate_snapshot_v1"

def receiptSchema : Text := "cathedral_assurance_receipt_v2"

/-- `[a-z][a-z0-9_]{0,63}`. -/
def isIdentifier : Text → Bool
  | [] => false
  | c :: rest =>
    Text.inRange 'a' 'z' c && rest.length ≤ 63 &&
      rest.all fun d => Text.inRange 'a' 'z' d || Text.isDigit d || d = 0x5f

/-- `(?:sha256|receipt-sha256):[0-9a-f]{64}`. -/
def isReportDigest (t : Text) : Bool :=
  Text.isDigest "sha256:" t || Text.isDigest "receipt-sha256:" t

/-- `(?:0|[1-9][0-9]{0,29})(?:\.[0-9]{1,12})?`. -/
def isMetricDecimal (t : Text) : Bool :=
  let integer := t.takeWhile Text.isDigit
  let fraction := t.dropWhile Text.isDigit
  (integer = [0x30] ||
      (1 ≤ integer.length && integer.length ≤ 30 && integer.head? ≠ some 0x30)) &&
    (fraction = [] ||
      (fraction.head? = some 0x2e && fraction.tail.all Text.isDigit &&
        1 ≤ fraction.tail.length && fraction.tail.length ≤ 12))

/-! ## Small checks -/

/-- `_digest`. -/
def digest (label : Text) (value : Option Text) : Except Failure Text := do
  let value ← demand (.scoreClassError ("invalid " ++ label)) value
  require (isReportDigest value) (.scoreClassError ("invalid " ++ label))
  return value

/-- `_digest` with `optional=True`. -/
def optionalDigest (label : Text) : Option Text → Except Failure (Option Text)
  | none => .ok none
  | some value => do
    let value ← digest label (some value)
    return some value

/-- `_decimal` of a JSON value, as an exact rational. -/
def decimalOfJson (p : Platform) (label : Text) (value : Option Json) : Except Failure ℚ≥0 :=
  let parsed := match value with
    | some (.str t) => Decimal.parse p.unicodeDigit t
    | some (.int z) => some (.finite z)
    | _ => none
  demand (.scoreClassError ("invalid " ++ label)) (nonnegative? parsed)

/-- The metric text of a value: its decimal text where the grammar holds it. -/
def metricText? (units : ℚ≥0) : Option Text := (Decimal.format units).filter isMetricDecimal

/-- `urllib.parse.quote(value, safe=":-")`. -/
def percentQuote (t : Text) : Option Text :=
  t.utf8.map fun octets => octets.flatMap fun octet =>
    let c : CodePoint := .ofNat _ octet.toNat
    if Text.isAlphanumeric c ∨ c ∈ ([0x5f, 0x2e, 0x2d, 0x7e, 0x3a] : Text) then [c]
    else
      let upper (n : ℕ) : CodePoint := if n < 10 then .ofNat _ (48 + n) else .ofNat _ (55 + n)
      [0x25, upper (octet.toNat / 16), upper (octet.toNat % 16)]

/-- An absent or empty part of a URL. -/
def isBlank : Option Text → Bool
  | none => true
  | some t => t = []

/-- `_receipt_uri`. -/
def receiptUri (p : Platform) (baseUri : Option Text) (receiptId : Text) :
    Except Failure (Option Text) :=
  match baseUri with
  | none => .ok none
  | some base => do
    require (base.getLast? = some 0x2f)
      (.scoreClassError "evidence base URI must end with a slash")
    let octets ← demand .unicodeEncodeError base.utf8
    require (octets.length ≤ maxLaunchEvidenceBaseUriBytes)
      (.scoreClassError "evidence base URI must end with a slash")
    let parsed ← demand (.valueError "invalid URL") (p.urlsplit base)
    require (parsed.scheme = Text.ofString "https" ∧ ¬ isBlank parsed.hostname ∧
        isBlank parsed.username ∧ isBlank parsed.password ∧ parsed.query = [] ∧
        parsed.fragment = [])
      (.scoreClassError "evidence base URI must be credential-free HTTPS")
    let quoted ← demand .unicodeEncodeError (percentQuote receiptId)
    return some (base ++ quoted ++ ".json")

/-- `canonical_json` of this module. -/
def canonicalReport (p : Platform) (document : Json) : Except Failure Bytes :=
  demand (.scoreClassError "score report contains a non-canonical value")
    (canonicalJson p document)

/-! ## Candidate snapshots -/

/-- The binding `validate_candidate_snapshot` returns. -/
structure SnapshotBinding where
  digest : Text
  block : ℤ
  blockHash : Text
  hotkeys : List Text

def SnapshotBinding.document (binding : SnapshotBinding) : Json := .obj
  [("digest", .str binding.digest), ("block", .int binding.block),
    ("block_hash", .str binding.blockHash), ("hotkeys", .arr (binding.hotkeys.map .str))]

/-- `validate_candidate_snapshot`. -/
def validateCandidateSnapshot (p : Platform) (members : List (Text × Json)) (network : Text)
    (netuid : ℤ) : Except Failure SnapshotBinding := do
  require (hasExactly ["schema", "network", "netuid", "block", "block_hash", "hotkeys"] members)
    (.scoreClassError "candidate snapshot has missing or unknown fields")
  require (Json.equalsText candidateSnapshotSchema (Json.lookup "schema" members))
    (.scoreClassError "candidate snapshot schema is unsupported")
  require (Json.equalsText network (Json.lookup "network" members) ∧
      Json.equalsInt netuid (Json.lookup "netuid" members))
    (.scoreClassError "candidate snapshot audience does not match the report")
  let block ← demand (.scoreClassError "candidate snapshot block is invalid")
    ((Json.lookup "block" members).bind intOfJson)
  require (0 ≤ block) (.scoreClassError "candidate snapshot block is invalid")
  let blockHash ← demand (.scoreClassError "candidate snapshot block hash is invalid")
    ((Json.lookup "block_hash" members).bind textOfJson)
  require (isBlockHash blockHash.strip.lower)
    (.scoreClassError "candidate snapshot block hash is invalid")
  let listed ← demand (.scoreClassError "candidate snapshot hotkeys are invalid")
    ((Json.lookup "hotkeys" members).bind itemsOfJson)
  require (listed.length ≤ maxLaunchCandidates)
    (.scoreClassError "candidate snapshot hotkeys are invalid")
  let hotkeys ← demand (.scoreClassError "candidate snapshot carries an invalid hotkey")
    (listed.mapM fun item => launchHotkey? (some item))
  require hotkeys.Nodup (.scoreClassError "candidate snapshot carries duplicate hotkeys")
  let body ← canonicalReport p (.obj members)
  return ⟨sha256Digest body, block, Text.removeHead "0x" blockHash.strip.lower,
    hotkeys.insertionSort (· ≤ ·)⟩

/-! ## Entries -/

/-- One candidate's entry. -/
structure ReportEntry where
  hotkey : Text
  verifiedWorkUnits : Text
  reasons : List Text
  evidence : List Json

def ReportEntry.document (entry : ReportEntry) : Json := .obj
  [("miner_hotkey", .str entry.hotkey),
    ("metrics", .obj [("verified_work_units", .str entry.verifiedWorkUnits)]),
    ("asserted_score", .null), ("reason_codes", .arr (entry.reasons.map .str)),
    ("evidence", .arr entry.evidence)]

/-- The reference to a receipt. -/
def receiptEvidence (receiptId receiptDigest : Text) (uri : Option Text) : Json := .obj
  [("kind", .str receiptSchema), ("id", .str receiptId), ("digest", .str receiptDigest),
    ("uri", jsonOfText uri)]

/-- The checks on the stored receipt of positive work: the units it states and
its reference. -/
def verifiedReceipt (p : Platform) (snapshot : ScoreClassSnapshot) (evidenceBaseUri : Option Text)
    (hotkey : Text) (frozen : FrozenRow) : Except Failure (ℚ≥0 × Json) := do
  let lacking : Failure := .scoreClassError
    ("positive work for " ++ p.repr hotkey ++ " lacks a verified assurance receipt")
  let row ← demand lacking frozen.receipt
  require (row.workStatus = .verified) lacking
  let expectedDigest := sha256Digest row.receiptBody
  require (row.receiptDigest = expectedDigest)
    (.scoreClassError ("receipt digest mismatch for " ++ p.repr hotkey))
  let receipt ← demand (.scoreClassError ("stored receipt is invalid for " ++ p.repr hotkey))
    (parseReceiptJson row.receiptBody)
  let mismatch : Failure :=
    .scoreClassError ("stored receipt provenance mismatch for " ++ p.repr hotkey)
  let body ← canonicalReport p receipt
  require (body = row.receiptBody ∧
      Json.equalsText receiptSchema (receipt.get? "schema") ∧
      Json.equalsText row.receiptId (receipt.get? "receipt_id") ∧
      Json.equalsInt snapshot.epochId (receipt.get? "epoch_id") ∧
      Json.equalsInt snapshot.sourceEpoch (receipt.get? "source_epoch") ∧
      Json.equalsText hotkey (receipt.get? "subject_hotkey")) mismatch
  let work ← demand mismatch (objectMember "work" receipt)
  require (Json.equalsText "passed" (work.get? "status") ∧
      Json.equalsText row.challengeId (work.get? "challenge_id")) mismatch
  let metricUnits ← decimalOfJson p "receipt work units" (work.get? "work_units")
  require (metricUnits = frozen.score.workUnits)
    (.scoreClassError ("receipt work units mismatch for " ++ p.repr hotkey))
  let uri ← receiptUri p evidenceBaseUri row.receiptId
  return (metricUnits, receiptEvidence row.receiptId expectedDigest uri)

/-- The entry of one candidate. -/
def reportEntry (p : Platform) (snapshot : ScoreClassSnapshot) (evidenceBaseUri : Option Text)
    (hotkey : Text) : Except Failure ReportEntry :=
  match snapshot.rows.find? fun row => row.score.hotkey = hotkey with
  | none => .ok ⟨hotkey, "0", ["not_admitted"], []⟩
  | some frozen =>
    if 0 < frozen.score.workUnits then do
      let (metricUnits, evidence) ← verifiedReceipt p snapshot evidenceBaseUri hotkey frozen
      match metricText? metricUnits with
      | some text => return ⟨hotkey, text, ["receipt_verified", "work_verified"], [evidence]⟩
      | none => return ⟨hotkey, "0", ["unsupported_work_unit_precision"], []⟩
    else .ok ⟨hotkey, "0", ["no_verified_work"], []⟩

/-! ## The report -/

/-- The arguments of `export_score_class_report` besides ledger and epoch. -/
structure Arguments where
  stream : Stream
  signingKeyId : Text
  privateKeySeed : Bytes
  generatedAt : Instant
  validUntil : Instant
  validFromBlock : ℤ
  validUntilBlock : ℤ
  verifierDigest : Text
  candidateSnapshot : List (Text × Json)
  policyDigest : Option Text
  previousReportId : Option Text
  evidenceBaseUri : Option Text
  requireEpochAnchor : Bool

/-- The unsigned report, without its id. -/
def reportMembers (arguments : Arguments) (sourceEpoch : ℤ) (policyDigest verifierDigest : Text)
    (previous : Option Text) (binding : SnapshotBinding) (entries : List ReportEntry) :
    List (Text × Json) :=
  [("schema", .str reportSchema), ("network", .str arguments.stream.network),
    ("netuid", .int arguments.stream.netuid), ("class_id", .str arguments.stream.classId),
    ("source_id", .str arguments.stream.sourceId), ("source_epoch", .int sourceEpoch),
    ("generated_at", .str arguments.generatedAt.canonicalUtc),
    ("valid_until", .str arguments.validUntil.canonicalUtc),
    ("valid_from_block", .int arguments.validFromBlock),
    ("valid_until_block", .int arguments.validUntilBlock), ("complete", .bool true),
    ("policy_digest", .str policyDigest), ("verifier_digest", .str verifierDigest),
    ("previous_report_id", jsonOfText previous), ("candidate_snapshot", binding.document),
    ("entries", .arr (entries.map ReportEntry.document)),
    ("signing_key_id", .str arguments.signingKeyId)]

/-- `_report_id`. -/
def reportId (p : Platform) (members : List (Text × Json)) : Except Failure Text := do
  let material ← canonicalReport p (.obj members)
  return sha256Digest (reportIdDomain ++ material)

/-- `_sign_report`: the id and the signed bytes. -/
def signReport (p : Platform) (members : List (Text × Json)) (privateKeySeed : Bytes) :
    Except Failure (Text × Bytes) := do
  require (privateKeySeed.length = 32)
    (.scoreClassError "score report private key seed must be 32 bytes")
  let id ← reportId p members
  let identified := members ++ [(Text.ofString "report_id", Json.str id)]
  let body ← canonicalReport p (.obj identified)
  let signature : Json := .obj
    [("algorithm", .str "ed25519"),
      ("value_base64", .str (base64 (p.sign privateKeySeed (reportDomain ++ body))))]
  let encoded ← canonicalReport p (.obj (identified ++ [(Text.ofString "signature", signature)]))
  require (encoded.length ≤ maxLaunchScoreReportBytes)
    (.scoreClassError "score report exceeds the validator size limit")
  return (id, encoded)

/-- A ledger error surfaces as a score-class error with its message. -/
def asScoreClassError : Failure → Failure
  | .ledgerError message => .scoreClassError message
  | failure => failure

/-- The frozen audience and anchor bind the candidate snapshot. -/
def requireAnchor (arguments : Arguments) (snapshot : ScoreClassSnapshot)
    (binding : SnapshotBinding) : Except Failure Unit := do
  match snapshot.challengeAnchorBlock with
  | none =>
    require (arguments.requireEpochAnchor = false)
      (.scoreClassError ("epoch has no durable challenge anchor; production reports " ++
        "require begin_epoch to persist the finalized-block anchor"))
  | some block =>
    require (block = binding.block ∧ snapshot.challengeAnchorHash = some binding.blockHash)
      (.scoreClassError ("candidate snapshot block/hash does not match the epoch's durable " ++
        "challenge anchor; the report must bind the snapshot the epoch's " ++
        "nonces were actually derived from"))
  require (binding.block ≤ arguments.validFromBlock)
    (.scoreClassError ("valid_from_block " ++ intText arguments.validFromBlock ++
      " precedes the anchored candidate snapshot block " ++ intText binding.block ++
      "; the report's validity window cannot start before the finalized " ++
      "state it was derived from"))

/-- The predecessor the report declares: the latest earlier export of the
stream. -/
def checkedPrevious (declared : Option Text) (prior : Option ExportRow) :
    Except Failure (Option Text) := do
  let declared ← optionalDigest "previous report id" declared
  match prior, declared with
  | some row, none => return some row.reportId
  | some row, some id =>
    require (id = row.reportId)
      (.scoreClassError "previous report id does not match the durable export chain")
    return some id
  | none, none => return none
  | none, some _ =>
    .error (.scoreClassError "first score-class export must not declare a previous report id")

/-- No frozen positive work lies outside the candidate snapshot. -/
def requireCovered (p : Platform) (rows : List FrozenRow) (hotkeys : List Text) :
    Except Failure Unit := do
  require (rows.length ≤ maxLaunchCandidates)
    (.scoreClassError "score report has too many entries")
  require (∀ row ∈ rows, isLaunchHotkey row.score.hotkey)
    (.scoreClassError "invalid miner hotkey in frozen epoch")
  match rows.find? fun row => row.score.hotkey ∉ hotkeys ∧ 0 < row.score.workUnits with
  | some row =>
    .error (.scoreClassError ("frozen epoch carries POSITIVE work for a hotkey that is not " ++
      "registered in the anchored candidate snapshot: " ++ p.repr row.score.hotkey))
  | none => return ()

/-- The arguments that are checked before the frozen facts are read. -/
def validateArguments (arguments : Arguments) : Except Failure Text := do
  require (isPublicIdentifier arguments.signingKeyId) (.scoreClassError "invalid signing key id")
  require (0 ≤ arguments.validFromBlock ∧ arguments.validFromBlock < arguments.validUntilBlock)
    (.scoreClassError "invalid score report block window")
  require (arguments.generatedAt < arguments.validUntil)
    (.scoreClassError "score report validity window is empty")
  digest "verifier digest" (some arguments.verifierDigest)

/-- The stream arguments, checked first. -/
def validateStream (stream : Stream) : Except Failure Unit := do
  let octets ← demand .unicodeEncodeError stream.network.utf8
  require (1 ≤ octets.length ∧ octets.length ≤ 128) (.scoreClassError "invalid network")
  require (0 ≤ stream.netuid) (.scoreClassError "invalid netuid")
  require (isIdentifier stream.classId) (.scoreClassError "invalid class id")
  require (isIdentifier stream.sourceId) (.scoreClassError "invalid source id")

/-- The policy digest of the report; an absent or empty argument stands for the
epoch's own. -/
def selectedPolicyDigest (argument stored : Option Text) : Option Text :=
  if isBlank argument then stored else argument

/-- A fresh export, once the stream has no row for the epoch: the arguments for
the ledger. -/
def buildReport (p : Platform) (epochId : ℕ) (arguments : Arguments) (s : State) :
    Except Failure ExportArguments := do
  let verifierDigest ← validateArguments arguments
  let snapshot ← (scoreClassSnapshot p epochId s).mapError asScoreClassError
  require (Json.equalsText arguments.stream.network snapshot.network ∧
      Json.equalsInt arguments.stream.netuid snapshot.netuid)
    (.scoreClassError "frozen epoch audience does not match score report audience")
  let binding ← validateCandidateSnapshot p arguments.candidateSnapshot arguments.stream.network
    arguments.stream.netuid
  requireAnchor arguments snapshot binding
  let policyDigest ← digest "policy digest"
    (selectedPolicyDigest arguments.policyDigest snapshot.policyRegistryDigest)
  let previous ← checkedPrevious arguments.previousReportId
    (previousScoreClassExport s snapshot.sourceEpoch arguments.stream)
  requireCovered p snapshot.rows binding.hotkeys
  let entries ← binding.hotkeys.mapM (reportEntry p snapshot arguments.evidenceBaseUri)
  let members := reportMembers arguments snapshot.sourceEpoch policyDigest verifierDigest previous
    binding entries
  let (id, encoded) ← signReport p members arguments.privateKeySeed
  return {
    epochId := epochId, sourceEpoch := snapshot.sourceEpoch, stream := arguments.stream,
    reportId := id, previousReportId := previous, reportBody := encoded }

/-- `export_score_class_report`. -/
def exportScoreClassReport (p : Platform) (epochId : ℕ) (arguments : Arguments) (now : Instant)
    (s : State) : Except Failure (Bytes × State) := do
  validateStream arguments.stream
  match getScoreClassExport s epochId arguments.stream with
  | some existing => return (existing.reportBody, s)
  | none =>
    let report ← buildReport p epochId arguments s
    (recordScoreClassExport p report now s).mapError asScoreClassError

end Cathedral.ScoreClass
