import CathedralCompute.Ledger.Challenges
import Mathlib.Algebra.BigOperators.Group.List.Basic
import Mathlib.Algebra.Order.Field.Rat
import Mathlib.Data.List.Dedup

/-!
# Completing an epoch

Completion reads four tables, gates each hotkey's verified work on its
attestation and, once the epoch has any lifecycle snapshot, on its lifecycle
state, normalizes by the maximum, and freezes the scores together with the bytes
of the report. The report is refused when the public verifier could not
reproduce it.
-/

set_option autoImplicit false

namespace Cathedral.Ledger

open Codec Semantics

/-! ## The launch contract of a report -/

/-- A JSON number that is neither a boolean nor infinite. -/
def scoreNumber? : Option Json → Option ℚ
  | some (.int z) => some z
  | some (.float (.finite q)) => some q
  | _ => none

/-- The row loop of `_validate_launch_report_cardinality`: how many scores are
positive. -/
def countVerified : List Text → List Json → Except Failure ℕ
  | _, [] => .ok 0
  | seen, .obj members :: rows => do
    let hotkey ← demand
      (.ledgerError "persisted confidential score report has an invalid or duplicate hotkey")
      (launchHotkey? (Json.lookup "miner_hotkey" members))
    require (hotkey ∉ seen)
      (.ledgerError "persisted confidential score report has an invalid or duplicate hotkey")
    let number ← demand
      (.ledgerError "persisted confidential score report has an invalid score")
      (scoreNumber? (Json.lookup "score" members))
    require (0 ≤ number ∧ number ≤ 1)
      (.ledgerError "persisted confidential score report has an invalid score")
    let count ← countVerified (hotkey :: seen) rows
    return if 0 < number then count + 1 else count
  | _, _ :: _ =>
    .error (.ledgerError "persisted confidential score report has an invalid score row")

/-- `_validate_launch_report_cardinality`. -/
def validateLaunchReportCardinality (p : Platform) (body : Bytes) : Except Failure Unit := do
  require (body.length ≤ maxLaunchWireReportBytes)
    (.ledgerError ("persisted confidential score report exceeds the subnet intake limit (" ++
      natText body.length ++ " > " ++ natText maxLaunchWireReportBytes ++ ")"))
  let document ← demand (.ledgerError "persisted score report is not valid JSON")
    (loadsBytes (defaultHooks p) p.decodeWide body)
  require (Json.equalsText "cathedral_confidential_tdx" (document.get? "source"))
    (.ledgerError "persisted score report is not a confidential score report")
  let scores ← match document.get? "scores" with
    | some (.arr scores) => .ok scores
    | _ => .error (.ledgerError "persisted confidential score report has no scores list")
  require (scores.length ≤ maxLaunchCandidates)
    (.ledgerError ("confidential score report exceeds the shared launch candidate limit (" ++
      natText scores.length ++ " > " ++ natText maxLaunchCandidates ++ ")"))
  let verifiedCount ← countVerified [] scores
  require (verifiedCount ≤ maxLaunchVerifiedCandidates)
    (.ledgerError ("confidential score report exceeds the shared launch verified-candidate " ++
      "limit (" ++ natText verifiedCount ++ " > " ++ natText maxLaunchVerifiedCandidates ++
      "); refusing publication before network I/O"))

/-! ## Scoring -/

section Scoring

variable (s : State) (epochId : ℕ)

/-- `SUM(work_units)` of a hotkey's verified challenges in the epoch. -/
def currentWork (hotkey : Text) : ℚ≥0 :=
  ((s.challenges.select fun row =>
    row.epochId = epochId ∧ row.status = .verified ∧ row.hotkey = hotkey).map
      ChallengeRow.workUnits).sum

/-- The hotkeys with a score-eligible attestation. -/
def attestedHotkeys : List Text :=
  (s.attestations.select fun row => row.epochId = epochId ∧ row.scoreEligible = true).map
    AttestationRow.hotkey

/-- The epoch's lifecycle snapshots by hotkey. -/
def lifecycleRows : List LifecycleRow :=
  (s.lifecycle.select fun row => row.epochId = epochId).insertionSort
    fun a b => a.hotkey ≤ b.hotkey

/-- The hotkeys whose lifecycle snapshot is attested. -/
def lifecycleEligible : List Text :=
  ((lifecycleRows s epochId).filter fun row => row.state = .attested).map LifecycleRow.hotkey

/-- Whether the hotkey passes both gates. -/
def passesGates (hotkey : Text) : Prop :=
  hotkey ∈ attestedHotkeys s epochId ∧
    (lifecycleRows s epochId ≠ [] → hotkey ∈ lifecycleEligible s epochId)

instance (hotkey : Text) : Decidable (passesGates s epochId hotkey) :=
  inferInstanceAs (Decidable (_ ∧ _))

/-- `gated`: the work a hotkey is paid for. -/
def gatedUnits (hotkey : Text) : ℚ≥0 :=
  if passesGates s epochId hotkey then currentWork s epochId hotkey else 0

/-- Every hotkey the report covers, sorted. -/
def scoredHotkeys (allHotkeys : List Text) : List Text :=
  (allHotkeys ++
    (s.challenges.select fun row => row.epochId = epochId).map ChallengeRow.hotkey ++
    (s.attestations.select fun row => row.epochId = epochId).map AttestationRow.hotkey ++
    (lifecycleRows s epochId).map LifecycleRow.hotkey).dedup.insertionSort (· ≤ ·)

/-- `maximum`: the largest gated work, zero without hotkeys. -/
def maximumUnits (hotkeys : List Text) : ℚ≥0 :=
  (hotkeys.map (gatedUnits s epochId)).max?.getD 0

/-- A hotkey's score, given the maximum. -/
def scoreOf (maximum : ℚ≥0) (hotkey : Text) : ℚ≥0 :=
  if 0 < maximum then gatedUnits s epochId hotkey / maximum else 0

/-- The score vector of the epoch. -/
def epochScores (hotkeys : List Text) : List (Text × ℚ≥0) :=
  hotkeys.map fun hotkey => (hotkey, scoreOf s epochId (maximumUnits s epochId hotkeys) hotkey)

/-- The attestation policy modes of the epoch, sorted. -/
def policyModes : List Text :=
  ((s.attestations.select fun row => row.epochId = epochId).map
    AttestationRow.policyMode).dedup.insertionSort (· ≤ ·)

end Scoring

/-- An optional text as JSON. -/
def jsonOfText : Option Text → Json
  | none => .null
  | some t => .str t

/-- An optional integer as JSON. -/
def jsonOfInt : Option ℤ → Json
  | none => .null
  | some z => .int z

/-- The lifecycle entry of a report. -/
def lifecycleEntry (row : LifecycleRow) : Json := .obj
  [("event_id", .int row.eventId), ("evidence_expires_at", jsonOfText row.evidenceExpiresAt),
    ("generation", .int row.generation), ("hotkey", .str row.hotkey),
    ("reason", .str row.reason.value), ("revision", .int row.revision),
    ("snapshot_at", .str row.snapshotAt), ("state", .str row.state.value)]

/-- The score entry of a report. -/
def scoreEntry (entry : Text × ℚ≥0) : Json := .obj
  [("miner_hotkey", .str entry.1), ("score", .float (.finite entry.2))]

/-- The audience members of a report. -/
def audienceMembers : Option (Text × ℤ) → List (Text × Json)
  | none => []
  | some (network, netuid) => [("network", .str network), ("netuid", .int netuid)]

/-- The report document. Lifecycle detail is kept for hotkeys that earn. -/
def scoreReport (s : State) (epoch : EpochRow) (generatedAt : Text)
    (audience : Option (Text × ℤ)) (scores : List (Text × ℚ≥0)) : Json :=
  let earning := (lifecycleRows s epoch.epochId).filter fun row =>
    ∃ entry ∈ scores, entry.1 = row.hotkey ∧ 0 < entry.2
  let metadata : Json := .obj
    [("normalization", .str "max"),
      ("attestation_policy_modes", .arr ((policyModes s epoch.epochId).map .str)),
      ("policy_registry_release", jsonOfInt epoch.policyRegistryRelease),
      ("policy_registry_digest", jsonOfText epoch.policyRegistryDigest),
      ("worker_lifecycle", .arr (earning.map lifecycleEntry))]
  let members : List (Text × Json) :=
    [("complete", .bool true), ("epoch", .int epoch.sourceEpoch),
      ("generated_at", .str generatedAt), ("mechanism", .str "cathedral_confidential_tdx"),
      ("metadata", metadata), ("scores", .arr (scores.map scoreEntry)),
      ("source", .str "cathedral_confidential_tdx")]
  .obj (members ++ audienceMembers audience)

/-! ## Completion -/

/-- `_load_scores`. -/
def loadScores (s : State) (epochId : ℕ) : List (Text × ℚ≥0) :=
  ((s.scores.select fun row => row.epochId = epochId).insertionSort
    fun a b => a.hotkey ≤ b.hotkey).map fun row => (row.hotkey, row.score)

/-- An anchored epoch is completed with its own audience. -/
def requireAnchoredAudience (row : EpochRow) (audience : Option (Text × ℤ)) :
    Except Failure Unit :=
  match row.anchorNetwork, row.anchorNetuid with
  | some network, some netuid =>
    match audience with
    | none => .error (.ledgerError (
        "an anchored epoch must be completed with its anchored score audience " ++ network ++
          "/" ++ intText netuid))
    | some (suppliedNetwork, suppliedNetuid) =>
      require (suppliedNetwork = network ∧ suppliedNetuid = netuid)
        (.ledgerError ("score audience " ++ suppliedNetwork ++ "/" ++ intText suppliedNetuid ++
          " does not match the epoch's anchored audience " ++ network ++ "/" ++ intText netuid))
  | _, _ => .ok ()

/-- Insert rows one after another. -/
def insertScores (scores : Table ScoreRow.key) : List ScoreRow → Option (Table ScoreRow.key)
  | [] => some scores
  | row :: rows => (scores.insert row).bind fun scores => insertScores scores rows

/-- The arguments of `complete_epoch` besides the epoch. -/
structure CompletionArguments where
  allHotkeys : List Text
  generatedAt : Option Text := none
  scoreAuthorityValidUntil : Option Instant := none
  scoreNetwork : Option Text := none
  scoreNetuid : Option ℤ := none

/-- The audience arguments, checked when either is given. -/
def completionAudience (arguments : CompletionArguments) :
    Except Failure (Option (Text × ℤ)) :=
  if arguments.scoreNetwork.isSome ∨ arguments.scoreNetuid.isSome then do
    let audience ←
      (validateScoreAudience arguments.scoreNetwork arguments.scoreNetuid).mapError .ledgerError
    return some audience
  else .ok none

/-- The rows frozen into `epoch_scores`. -/
def scoreRows (s : State) (epochId : ℕ) (scores : List (Text × ℚ≥0)) : List ScoreRow :=
  scores.map fun entry => ⟨epochId, entry.1, gatedUnits s epochId entry.1, entry.2⟩

/-- The row of a completed epoch. -/
def EpochRow.complete (row : EpochRow) (completionTime : Instant) (generatedAt : Text)
    (body : Bytes) : EpochRow :=
  { row with
    status := .complete, completedAt := some completionTime, generatedAt := some generatedAt,
    reportBody := some body, reportDigest := some (hexdigest body) }

/-- The completing transaction on a running epoch. -/
def freezeEpoch (p : Platform) (row : EpochRow) (arguments : CompletionArguments)
    (generatedAt : Text) (audience : Option (Text × ℤ)) (completionTime : Instant) (s : State) :
    Except Failure (List (Text × ℚ≥0) × State) := do
  requireAnchoredAudience row audience
  let unresolved := (s.challenges.select fun challenge =>
    challenge.epochId = row.epochId ∧ challenge.status = .issued).length
  require (unresolved = 0)
    (.ledgerError ("epoch has " ++ natText unresolved ++ " unresolved issued challenge(s)"))
  let scores := epochScores s row.epochId (scoredHotkeys s row.epochId arguments.allHotkeys)
  let body ← demand (.valueError "Out of range float values are not JSON compliant")
    (canonicalJson p (scoreReport s row generatedAt audience scores))
  validateLaunchReportCardinality p body
  require (∀ validUntil ∈ arguments.scoreAuthorityValidUntil, completionTime < validUntil)
    (.ledgerError "score authority expired before epoch completion")
  storable [generatedAt]
  -- The partial unique index on the source epochs of finalized epochs.
  require (∀ other ∈ s.epochs.rows, other.IsFinalized → other.sourceEpoch ≠ row.sourceEpoch)
    .integrityError
  let frozen ← demand .integrityError
    (insertScores s.scores (scoreRows s row.epochId scores))
  return (scores, { s with
    scores := frozen
    epochs := s.epochs.update (fun other => other.epochId = row.epochId)
      fun other => other.complete completionTime generatedAt body })

/-- `complete_epoch`. -/
def completeEpoch (p : Platform) (epochId : ℕ) (arguments : CompletionArguments)
    (generatedNow completionTime : Instant) (s : State) :
    Except Failure (List (Text × ℚ≥0) × State) := do
  let generatedAt ← validatedGeneratedAt p arguments.generatedAt generatedNow
  let audience ← completionAudience arguments
  require (∀ hotkey ∈ arguments.allHotkeys, hotkey ≠ [])
    (.ledgerError "all hotkeys must be nonempty strings")
  let row ← epoch s epochId
  if row.IsFinalized then return (loadScores s epochId, s)
  else
    require (row.status = .running)
      (.ledgerError ("epoch " ++ natText epochId ++ " is " ++ row.status.value ++
        "; cannot complete"))
    freezeEpoch p row arguments generatedAt audience completionTime s

/-! ## Publication -/

/-- The check of `post_and_mark_published` before the network call: the bytes to
post and their digest. -/
def publishableReport (p : Platform) (epochId : ℕ) (s : State) :
    Except Failure (Bytes × Text) := do
  let row ← epoch s epochId
  let missing : Failure :=
    .ledgerError ("epoch " ++ natText epochId ++ " has no publishable report")
  require row.IsFinalized missing
  let body ← demand missing row.reportBody
  let stored ← demand missing row.reportDigest
  require (hexdigest body = stored)
    (.ledgerError "persisted report bytes do not match their frozen digest")
  validateLaunchReportCardinality p body
  return (body, hexdigest body)

/-- `post_and_mark_published` without interruption; `response` is what the poster
answers to the bytes. -/
def postAndMarkPublished (p : Platform) (epochId : ℕ)
    (response : Except Failure (List (Text × Json))) (now : Instant) (s : State) :
    Except Failure (List (Text × Json) × State) := do
  let (_, digest) ← publishableReport p epochId s
  let acknowledgement ← response
  require (Json.equalsText "accepted" (Json.lookup "status" acknowledgement))
    (.ledgerError "publication acknowledgement status must be 'accepted'")
  let (_, s) ← markPublished epochId (some digest) now s
  return (acknowledgement, s)

end Cathedral.Ledger
