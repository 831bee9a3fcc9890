import CathedralCompute.Ledger.Completion

/-!
# Score-class exports

The ledger side of the validator-facing reports: the frozen facts of an epoch
with their receipts, and the append-only table of export streams. A report is
recorded in one transaction that checks it against the latest report of its
stream; an exact retry replays the stored bytes.
-/

set_option autoImplicit false

namespace Cathedral.Ledger

open Codec Semantics

/-! ## Frozen facts -/

/-- One hotkey's frozen score with its receipt. -/
structure FrozenRow where
  score : ScoreRow
  receipt : Option ReceiptRow

/-- What `score_class_snapshot` returns. -/
structure ScoreClassSnapshot where
  epochId : ℕ
  sourceEpoch : ℤ
  status : EpochStatus
  generatedAt : Option Text
  network : Option Json
  netuid : Option Json
  policyRegistryRelease : Option ℤ
  policyRegistryDigest : Option Text
  challengeAnchorBlock : Option ℤ
  challengeAnchorHash : Option Text
  reportDigest : Text
  rows : List FrozenRow

/-- The receipt of a hotkey in an epoch. -/
def receiptOf (s : State) (epochId : ℕ) (hotkey : Text) : Option ReceiptRow :=
  (s.receipts.select fun row => row.epochId = epochId ∧ row.hotkey = hotkey).head?

/-- The frozen scores by hotkey, each joined with its receipt. -/
def frozenRows (s : State) (epochId : ℕ) : List FrozenRow :=
  ((s.scores.select fun row => row.epochId = epochId).insertionSort
    fun a b => a.hotkey ≤ b.hotkey).map fun row => ⟨row, receiptOf s epochId row.hotkey⟩

/-- The score facts of this epoch are frozen. -/
def requireFrozen (epochId : ℕ) (row : EpochRow) : Except Failure Unit :=
  require row.IsFinalized
    (.ledgerError ("epoch " ++ natText epochId ++ " is " ++ row.status.value ++
      "; score facts are not frozen"))

/-- `score_class_snapshot`. -/
def scoreClassSnapshot (p : Platform) (epochId : ℕ) (s : State) :
    Except Failure ScoreClassSnapshot := do
  let row ← epoch s epochId
  requireFrozen epochId row
  let missing : Failure := .ledgerError ("epoch " ++ natText epochId ++ " has no completed report")
  let body ← demand missing row.reportBody
  let digest ← demand missing row.reportDigest
  require (hexdigest body = digest)
    (.ledgerError "persisted report bytes do not match their frozen digest")
  let report ← demand (.ledgerError "persisted report body is invalid")
    (loadsBytes (defaultHooks p) p.decodeWide body)
  require (∃ complete ∈ report.get? "complete", complete.isTrue)
    (.ledgerError "persisted report is not a complete score snapshot")
  let rows := frozenRows s epochId
  match rows.find? fun row => 0 < row.score.workUnits ∧ row.receipt.isNone with
  | some row => .error (.ledgerError ("positive work for " ++ p.repr row.score.hotkey ++
      " lacks an assurance receipt"))
  | none =>
    return {
      epochId := epochId
      sourceEpoch := row.sourceEpoch
      status := row.status
      generatedAt := row.generatedAt
      network := report.get? "network"
      netuid := report.get? "netuid"
      policyRegistryRelease := row.policyRegistryRelease
      policyRegistryDigest := row.policyRegistryDigest
      challengeAnchorBlock := row.challengeAnchorBlock
      challengeAnchorHash := row.challengeAnchorHash
      reportDigest := "sha256:" ++ digest
      rows := rows }

/-! ## Streams -/

/-- The rows of a stream, the latest source epoch first. -/
def streamRows (s : State) (stream : Stream) : List ExportRow :=
  (s.exports.select fun row => row.stream = stream).insertionSort
    fun a b => b.sourceEpoch ≤ a.sourceEpoch

/-- `get_score_class_export`. -/
def getScoreClassExport (s : State) (epochId : ℕ) (stream : Stream) : Option ExportRow :=
  s.exports.find? (epochId, stream)

/-- `previous_score_class_export`. -/
def previousScoreClassExport (s : State) (sourceEpoch : ℤ) (stream : Stream) :
    Option ExportRow :=
  ((s.exports.select fun row => row.sourceEpoch < sourceEpoch ∧ row.stream = stream).insertionSort
    fun a b => b.sourceEpoch ≤ a.sourceEpoch).head?

/-- A report as it is handed to the ledger. -/
structure ExportArguments where
  epochId : ℕ
  sourceEpoch : ℤ
  stream : Stream
  reportId : Text
  previousReportId : Option Text
  reportBody : Bytes

/-- The document of a stored or submitted report. -/
def reportDocument (p : Platform) (body : Bytes) : Option Json :=
  loadsBytes (strictHooks p) p.decodeWide body

/-- The document repeats the metadata it is filed under. -/
def matchesMetadata (arguments : ExportArguments) (document : Json) : Prop :=
  Json.equalsInt arguments.sourceEpoch (document.get? "source_epoch") ∧
    Json.equalsText arguments.stream.network (document.get? "network") ∧
    Json.equalsInt arguments.stream.netuid (document.get? "netuid") ∧
    Json.equalsText arguments.stream.classId (document.get? "class_id") ∧
    Json.equalsText arguments.stream.sourceId (document.get? "source_id") ∧
    Json.equalsText arguments.reportId (document.get? "report_id") ∧
    Json.equalsOptionalText arguments.previousReportId (document.get? "previous_report_id")

instance (arguments : ExportArguments) (document : Json) :
    Decidable (matchesMetadata arguments document) :=
  inferInstanceAs (Decidable (_ ∧ _))

def isObject : Json → Bool
  | .obj _ => true
  | _ => false

/-- The checks of `record_score_class_export` before its transaction. -/
def validateExport (p : Platform) (arguments : ExportArguments) : Except Failure Unit := do
  require (arguments.reportBody ≠ [])
    (.ledgerError "score-class report body must be nonempty bytes")
  require (Text.isDigest "sha256:" arguments.reportId)
    (.ledgerError "score-class report id is invalid")
  require (∀ previous ∈ arguments.previousReportId, Text.isDigest "sha256:" previous)
    (.ledgerError "score-class previous report id is invalid")
  let document ← demand (.ledgerError "score-class report body is invalid")
    (reportDocument p arguments.reportBody)
  require (isObject document ∧ canonicalJson p document = some arguments.reportBody)
    (.ledgerError "score-class report body is not canonical JSON")
  require (matchesMetadata arguments document)
    (.ledgerError "score-class report body does not match export metadata")

/-- The new report follows the latest one of its stream. -/
def requireSuccessor (s : State) (arguments : ExportArguments) : Except Failure Unit :=
  match (streamRows s arguments.stream).head? with
  | none =>
    require (arguments.previousReportId = none)
      (.ledgerError "first score-class export must not declare a previous report id")
  | some latest => do
    require (latest.sourceEpoch < arguments.sourceEpoch)
      (.ledgerError "score-class source epoch is stale or out of order")
    require (arguments.previousReportId = some latest.reportId)
      (.ledgerError "durable export chain changed before insert")

/-- The row a report is stored in. -/
def ExportArguments.row (arguments : ExportArguments) (now : Instant) : ExportRow :=
  ⟨arguments.epochId, arguments.sourceEpoch, arguments.stream, arguments.reportId,
    arguments.reportBody, sha256Digest arguments.reportBody, now⟩

/-- Append the report to its stream, unless a constraint forbids it. -/
def insertExport (s : State) (arguments : ExportArguments) (now : Instant) : Option State :=
  if arguments.stream.netuid < 0 ∨ ∃ row ∈ s.exports.rows,
      row.sourceEpoch = arguments.sourceEpoch ∧ row.stream = arguments.stream then none
  else
    (s.exports.insert (arguments.row now)).map fun exports => { s with exports := exports }

/-- `record_score_class_export`. -/
def recordScoreClassExport (p : Platform) (arguments : ExportArguments) (now : Instant)
    (s : State) : Except Failure (Bytes × State) := do
  validateExport p arguments
  let row ← epoch s arguments.epochId
  requireFrozen arguments.epochId row
  require (row.sourceEpoch = arguments.sourceEpoch)
    (.ledgerError "score-class source epoch does not match ledger epoch")
  storable [arguments.stream.network, arguments.stream.classId, arguments.stream.sourceId]
  storableIntegers [arguments.stream.netuid]
  match getScoreClassExport s arguments.epochId arguments.stream with
  | some existing =>
    require (existing.reportId = arguments.reportId ∧ existing.reportBody = arguments.reportBody)
      (.ledgerError "conflicting duplicate score-class export")
    return (existing.reportBody, s)
  | none =>
    requireSuccessor s arguments
    let s ← demand (.ledgerError "score-class export stream conflicts")
      (insertExport s arguments now)
    return (arguments.reportBody, s)

end Cathedral.Ledger
