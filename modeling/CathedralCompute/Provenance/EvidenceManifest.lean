import CathedralCompute.Codec.JsonSorted
import CathedralCompute.Launch
import CathedralCompute.PolicyRegistry.Snapshot
import CathedralCompute.Sample
import CathedralCompute.Semantics.Raises

/-!
# Evidence manifests

The manifest of an epoch binds receipts, attestations and the candidate set. The reader
takes canonical octets only and checks every field; the builder checks the same before
it writes. Two of the checks look a value up in a set, which Python refuses for a list
or an object, and neither these nor the writer's own failures are turned into
`EvidenceError`.

## Main definitions

* `validateManifest`, `parseManifest`, `buildManifest`
* `Breaks` — the octets at which the reader raises something else

## Main results

* `validateManifest_sorted` — the checks do not depend on the order of members
* `parse_buildManifest` — which built manifests are read back
* `parse_manifest_contract_iff` — the reader keeps its contract exactly outside `Breaks`
-/

set_option autoImplicit false

namespace Cathedral.Provenance.EvidenceManifest

open Codec Codec.Json Semantics PolicyRegistry

/-- The exceptions of the reader: `EvidenceError`, and what it lets through. -/
inductive Fault where
  | evidenceError (message : Text)
  | policyRegistryError (message : Text)
  | typeError
deriving DecidableEq

abbrev Checked := Except Fault

/-- `EvidenceError` about the manifest. -/
def refused (complaint : String) : Fault :=
  .evidenceError (Text.ofString "evidence manifest " ++ Text.ofString complaint)

/-! ## Constants -/

def maxManifestArtifactBytes : ℕ := 2 * 1024 * 1024

/-- `_MANIFEST_KEYS`. -/
def manifestKeys : List Text :=
  ["schema", "network", "netuid", "source_epoch", "epoch_id", "generated_at", "reward_mechanism",
    "source_revision", "policy_registry", "verifier", "score_report", "receipts", "attestations",
    "candidate_set", "wire_report_sha256"]

def manifestSchema : Text := "cathedral_evidence_manifest_v3"

def legacyManifestSchemas : List Text :=
  ["cathedral_evidence_manifest_v1", "cathedral_evidence_manifest_v2"]

/-- `_DISCLOSURES`. -/
def disclosures : List Text := ["public", "controlled"]

/-- `_CANDIDATE_OUTCOMES`. -/
def candidateOutcomes : List Text := ["verified", "rejected", "retired"]

/-! ## Fields -/

/-- `_require_digest`. -/
def requireDigest (value : Json) (label : Text) : Checked Text :=
  demand (.evidenceError (label ++ Text.ofString " is not a sha256 digest"))
    ((textOfJson value).filter (Text.isDigest "sha256:"))

/-- A digest or `None`. -/
def optionalDigest (value : Json) (label : Text) : Checked Unit :=
  match value with
  | .null => .ok ()
  | value => (requireDigest value label).map fun _ => ()

/-- `_parse_manifest_time`. As in `parseUtc`, a day with a blank before it is not read, and
digits outside ASCII are read only where a padded time has them. -/
def parseManifestTime (p : Platform) (value : Json) (label : Text) : Checked Instant := do
  let text ← demand (.evidenceError (label ++ Text.ofString " is not a string timestamp"))
    (textOfJson value)
  demand (.evidenceError (label ++ Text.ofString " is not a UTC timestamp"))
    (Instant.parseUtc (plainTime p text))

/-- An object with exactly the given keys. -/
def exactly (keys : List Text) (value : Json) : Option (List (Text × Json)) :=
  (membersOfJson value).filter (hasExactly keys)

/-- A text that passes a test. -/
def textThat (test : Text → Bool) (value : Json) : Bool := (textOfJson value).any test

/-- An integer from a bound on, no boolean. -/
def integerFrom (least : ℤ) (value : Json) : Bool := (intOfJson value).any fun z => least ≤ z

/-- `None`, or what passes a test. -/
def noneOr (test : Json → Bool) : Json → Bool
  | .null => true
  | value => test value

/-- `value in options`, for a set of texts: a list and an object cannot be looked up. -/
def inSet (options : List Text) : Json → Checked Bool
  | .arr _ => .error .typeError
  | .obj _ => .error .typeError
  | .str t => .ok (t ∈ options)
  | _ => .ok false

/-- A list of at most so many items. -/
def boundedList (most : ℕ) (value : Json) : Option (List Json) :=
  (itemsOfJson value).filter fun items => items.length ≤ most

/-- `[a-z][a-z0-9_]{0,63}`. -/
def isMechanismId : Text → Bool
  | [] => false
  | c :: rest => Text.inRange 'a' 'z' c && rest.length ≤ 63 &&
      rest.all fun c => Text.isDigit c || Text.inRange 'a' 'z' c || c = 0x5f

/-- A path of the verifier's command. -/
def isCommandPart (t : Text) : Bool :=
  t.head? = some 0x2f && t.length ≤ 4096 && t.all fun c => c ≠ 0 && c ≠ 0x0a

/-- What the reason of a candidate may be. -/
def isReason (t : Text) : Bool :=
  1 ≤ t.length && t.length ≤ 200 && t.all fun c => 0x20 ≤ c.val && c.val ≤ 0x7e

/-! ## Sections of the manifest -/

/-- The mechanism, the source revision and the registry. -/
def validateSources (members : List (Text × Json)) : Checked Unit := do
  let mechanism ← demand (refused "reward_mechanism is invalid")
    (exactly ["id", "revision"] (field members "reward_mechanism"))
  require (textThat isMechanismId (field mechanism "id") ∧
    integerFrom 1 (field mechanism "revision")) (refused "reward_mechanism is invalid")
  require (noneOr (textThat fun t => 7 ≤ t.length && t.length ≤ 64 && t.all Text.isLowerHex)
    (field members "source_revision")) (refused "source_revision is invalid")
  let registry ← demand (refused "policy_registry is invalid")
    (exactly ["release", "digest", "blob"] (field members "policy_registry"))
  require (integerFrom 1 (field registry "release")) (refused "policy_registry is invalid")
  let _ ← requireDigest (field registry "digest") "registry digest"
  let _ ← requireDigest (field registry "blob") "registry blob"

/-- `None`, or a list of one to four paths. -/
def isCommand : Json → Bool :=
  noneOr fun value => (boundedList 4 value).any fun items =>
    items ≠ [] && items.all (textThat isCommandPart)

/-- The verifier and the score report. -/
def validateTools (members : List (Text × Json)) : Checked Unit := do
  let verifier ← demand (refused "verifier is invalid")
    (exactly ["digest", "binary_blob", "command", "artifacts"] (field members "verifier"))
  let _ ← requireDigest (field verifier "digest") "verifier digest"
  optionalDigest (field verifier "binary_blob") "verifier binary blob"
  require (isCommand (field verifier "command")) (refused "verifier command is invalid")
  require (isCommand (field verifier "artifacts")) (refused "verifier artifacts is invalid")
  let report ← demand (refused "score_report is invalid")
    (exactly ["report_id", "blob", "signing_key_id"] (field members "score_report"))
  require (textThat (Text.isDigest "sha256:") (field report "report_id") ∧
    textThat (· ≠ []) (field report "signing_key_id")) (refused "score_report is invalid")
  let _ ← requireDigest (field report "blob") "report blob"

/-- What comes before the rows. -/
def validateHeader (p : Platform) (members : List (Text × Json)) : Checked Unit := do
  require (hasExactly manifestKeys members) (refused "has missing or unknown fields")
  require (¬ textThat (· ∈ legacyManifestSchemas) (field members "schema"))
    (refused ("schema v1/v2 is superseded by v3 (exhaustive candidate-set binding is " ++
      "required); neither was ever published"))
  require (textThat (· = manifestSchema) (field members "schema"))
    (refused "schema is unsupported")
  require (textThat (· ≠ []) (field members "network")) (refused "network is invalid")
  require (integerFrom 0 (field members "netuid")) (refused "netuid is invalid")
  require (integerFrom 0 (field members "source_epoch")) (refused "source_epoch is invalid")
  require (integerFrom 0 (field members "epoch_id")) (refused "epoch_id is invalid")
  let _ ← parseManifestTime p (field members "generated_at") "evidence manifest generated_at"
  validateSources members
  validateTools members

/-- A row of the receipts, behind receipts with these ids and hotkeys. -/
def receiptRow (seen : List Text × List Text) (row : Json) : Checked (List Text × List Text) := do
  let members ← demand (refused "receipt row is invalid")
    (exactly ["receipt_id", "hotkey", "blob", "work_item_blob", "result_blob"] row)
  let receiptId ← demand (refused "receipt row is invalid")
    ((textOfJson (field members "receipt_id")).filter (Text.isDigest "receipt-sha256:"))
  let hotkey ← demand (refused "receipt row is invalid")
    (launchHotkey? (some (field members "hotkey")))
  let _ ← requireDigest (field members "blob") "receipt blob"
  let _ ← requireDigest (field members "work_item_blob") "work item blob"
  let _ ← requireDigest (field members "result_blob") "work result blob"
  require (receiptId ∉ seen.1 ∧ hotkey ∉ seen.2) (refused "duplicates a receipt or receipt hotkey")
  return (seen.1 ++ [receiptId], seen.2 ++ [hotkey])

/-- What is checked of an attestation before its disclosure: its members and hotkey. -/
def attestationHead (row : Json) : Option (List (Text × Json) × Text) := do
  let members ← exactly
    ["hotkey", "verdict", "evidence_digest", "envelope_digest", "challenge_digest", "disclosure"]
    row
  let hotkey ← launchHotkey? (some (field members "hotkey"))
  let _ ← textOfJson (field members "verdict")
  return (members, hotkey)

/-- A row of the attestations, behind attestations with these hotkeys. -/
def attestationRow (seen : List Text) (row : Json) : Checked (List Text) := do
  let (members, hotkey) ← demand (refused "attestation row is invalid") (attestationHead row)
  let disclosed ← inSet disclosures (field members "disclosure")
  require (disclosed = true) (refused "attestation row is invalid")
  let _ ← requireDigest (field members "evidence_digest") "attestation evidence digest"
  optionalDigest (field members "envelope_digest") "attestation envelope digest"
  optionalDigest (field members "challenge_digest") "attestation challenge digest"
  require (hotkey ∉ seen) (refused "duplicates an attestation hotkey")
  return seen ++ [hotkey]

/-- The candidate set of a manifest, without its rows. -/
def candidateRows (members : List (Text × Json)) : Checked (List Json) := do
  let candidateSet ← demand (refused "candidate_set is invalid")
    (exactly ["source", "network", "netuid", "block", "block_hash", "candidates"]
      (field members "candidate_set"))
  require (textThat (· = Text.ofString "sn39_metagraph") (field candidateSet "source") ∧
      (textOfJson (field members "network")).any
        (fun network => Json.equalsText network (some (field candidateSet "network"))) ∧
      (intOfJson (field members "netuid")).any
        fun netuid => Json.equalsInt netuid (some (field candidateSet "netuid")))
    (refused "candidate_set is invalid")
  require (integerFrom 0 (field candidateSet "block")) (refused "candidate block is invalid")
  require (textThat isBlockHash (field candidateSet "block_hash"))
    (refused "candidate block hash is invalid")
  demand (refused "candidates list is invalid")
    (boundedList maxLaunchCandidates (field candidateSet "candidates"))

/-- What is checked of a candidate before its outcome: its members and hotkey. -/
def candidateHead (row : Json) : Option (List (Text × Json) × Text) := do
  let members ← exactly ["hotkey", "outcome", "reason"] row
  let hotkey ← launchHotkey? (some (field members "hotkey"))
  return (members, hotkey)

/-- A row of the candidates, behind candidates with these hotkeys. -/
def candidateRow (seen : List Text) (row : Json) : Checked (List Text) := do
  let (members, hotkey) ← demand (refused "candidate row is invalid") (candidateHead row)
  let known ← inSet candidateOutcomes (field members "outcome")
  require (known = true ∧ textThat isReason (field members "reason"))
    (refused "candidate row is invalid")
  require (hotkey ∉ seen) (refused "duplicates a candidate")
  return seen ++ [hotkey]

/-! ## Rows of a document -/

/-- The rows of a list. -/
def rowsOf (value : Json) : List Json := (itemsOfJson value).getD []

/-- The hotkey of a row. -/
def hotkeyOf (row : Json) : Option Text :=
  (membersOfJson row).bind fun members => textOfJson (field members "hotkey")

/-- The hotkeys of rows. -/
def hotkeysOf (rows : List Json) : List Text := rows.filterMap hotkeyOf

/-- The rows of verified candidates. -/
def verifiedRows (rows : List Json) : List Json :=
  rows.filter fun row => (membersOfJson row).any fun members =>
    Json.equalsText "verified" (some (field members "outcome"))

/-- The candidates of a manifest. -/
def candidatesOf (members : List (Text × Json)) : List Json :=
  ((membersOfJson (field members "candidate_set")).map fun candidateSet =>
    rowsOf (field candidateSet "candidates")).getD []

/-! ## Validation -/

/-- `validate_manifest`. -/
def validateManifest (p : Platform) (members : List (Text × Json)) : Checked Unit := do
  validateHeader p members
  let receipts ← demand (refused "receipts is invalid")
    (boundedList maxLaunchVerifiedCandidates (field members "receipts"))
  let (_, receiptHotkeys) ← receipts.foldlM receiptRow ([], [])
  let attestations ← demand (refused "attestations is invalid")
    (boundedList maxLaunchVerifiedCandidates (field members "attestations"))
  let attestationHotkeys ← attestations.foldlM attestationRow []
  let candidates ← candidateRows members
  let _ ← candidates.foldlM candidateRow []
  let verified := (hotkeysOf (verifiedRows candidates)).dedup
  require (verified.length ≤ maxLaunchVerifiedCandidates)
    (refused "verified-candidate count exceeds the launch receipt budget")
  require (receiptHotkeys.toFinset = verified.toFinset)
    (refused "receipts must cover exactly the verified candidate set")
  require (attestationHotkeys.toFinset = verified.toFinset)
    (refused "attestations must cover exactly the verified candidate set")
  require (noneOr (textThat (Text.isHex 64)) (field members "wire_report_sha256"))
    (refused "wire_report_sha256 is invalid")

/-! ## Reader and builder -/

/-- `canonical_json`, which fails with the registry's exception. -/
def canonicalBytes (p : Platform) (document : Json) : Checked Bytes :=
  demand (.policyRegistryError "registry contains a non-canonical value")
    (if document.levels ≤ p.writeDepth then canonicalJson p document else none)

/-- The document of octets; `none` where the decoder or a hook raises, with whatever
message, or the interpreter stops it. -/
def documentOf (p : Platform) (manifestBytes : Bytes) : Option Json := do
  let text ← utf8Decode false manifestBytes
  let document ← loads registryHooks text
  guard (document.levels ≤ p.readDepth)
  return document

/-- `parse_manifest`. -/
def parseManifest (p : Platform) (manifestBytes : Bytes) : Checked (List (Text × Json)) := do
  require (manifestBytes ≠ [] ∧ manifestBytes.length ≤ maxManifestArtifactBytes)
    (refused "is empty or exceeds its artifact cap")
  let document ← demand (refused "is not strict UTF-8 JSON") (documentOf p manifestBytes)
  let members ← demand (refused "must be a JSON object") (membersOfJson document)
  let canonical ← canonicalBytes p (.obj members)
  require (canonical = manifestBytes) (refused "bytes are not canonical JSON")
  validateManifest p members
  return members

/-- What `build_manifest` is given. Objects repeat no key. -/
structure Arguments where
  network : Text
  netuid : ℤ
  sourceEpoch : ℤ
  epochId : ℤ
  generatedAt : Option Text
  mechanismId : Text
  mechanismRevision : ℤ
  sourceRevision : Option Text
  registryRelease : ℤ
  registryDigest : Text
  registryBlob : Text
  verifierDigest : Text
  verifierBinaryBlob : Option Text
  verifierCommand : Option (List Text)
  verifierArtifacts : Option (List Text)
  reportId : Text
  reportBlob : Text
  reportSigningKeyId : Text
  receipts : Json
  attestations : Json
  candidateSet : Json
  wireReportSha256 : Option Text
  distinct : receipts.Distinct ∧ attestations.Distinct ∧ candidateSet.Distinct

/-- A text or `None`. -/
def textOrNone (t : Option Text) : Json := (t.map .str).getD .null

/-- A list of texts, or `None` for an empty one. -/
def textsOrNone (texts : Option (List Text)) : Json :=
  match texts with
  | some (t :: rest) => .arr ((t :: rest).map .str)
  | _ => .null

/-- The document of the arguments, where the clock says `now`. -/
def manifestDocument (now : Text) (arguments : Arguments) : List (Text × Json) :=
  [("schema", .str manifestSchema), ("network", .str arguments.network),
    ("netuid", .int arguments.netuid), ("source_epoch", .int arguments.sourceEpoch),
    ("epoch_id", .int arguments.epochId),
    ("generated_at", .str (if arguments.generatedAt.getD [] = [] then now
      else arguments.generatedAt.getD [])),
    ("reward_mechanism", .obj [("id", .str arguments.mechanismId),
      ("revision", .int arguments.mechanismRevision)]),
    ("source_revision", textOrNone arguments.sourceRevision),
    ("policy_registry", .obj [("release", .int arguments.registryRelease),
      ("digest", .str arguments.registryDigest), ("blob", .str arguments.registryBlob)]),
    ("verifier", .obj [("digest", .str arguments.verifierDigest),
      ("binary_blob", textOrNone arguments.verifierBinaryBlob),
      ("command", textsOrNone arguments.verifierCommand),
      ("artifacts", textsOrNone arguments.verifierArtifacts)]),
    ("score_report", .obj [("report_id", .str arguments.reportId),
      ("blob", .str arguments.reportBlob),
      ("signing_key_id", .str arguments.reportSigningKeyId)]),
    ("receipts", arguments.receipts), ("attestations", arguments.attestations),
    ("candidate_set", arguments.candidateSet),
    ("wire_report_sha256", textOrNone arguments.wireReportSha256)]

/-- `build_manifest`. -/
def buildManifest (p : Platform) (now : Text) (arguments : Arguments) : Checked Bytes := do
  let _ ← requireDigest (.str arguments.registryDigest) "registry digest"
  let _ ← requireDigest (.str arguments.registryBlob) "registry blob"
  let _ ← requireDigest (.str arguments.verifierDigest) "verifier digest"
  optionalDigest (textOrNone arguments.verifierBinaryBlob) "verifier binary blob"
  let _ ← requireDigest (.str arguments.reportBlob) "report blob"
  validateManifest p (manifestDocument now arguments)
  let encoded ← canonicalBytes p (.obj (manifestDocument now arguments))
  require (encoded.length ≤ maxManifestArtifactBytes) (refused "exceeds its artifact cap")
  return encoded

/-! ## Which exceptions the checks raise -/

/-- The exception is `EvidenceError`. -/
def IsEvidenceError (failure : Fault) : Prop := ∃ message, failure = .evidenceError message

theorem isEvidenceError {message : Text} : IsEvidenceError (.evidenceError message) := ⟨message, rfl⟩

/-- A list or an object. -/
def isUnhashable : Json → Bool
  | .arr _ => true
  | .obj _ => true
  | _ => false

section Raising

variable {p : Platform} {members : List (Text × Json)} {value row : Json}

theorem evidence_requireDigest {label : Text} :
    Raises IsEvidenceError (requireDigest value label) :=
  raises_demand isEvidenceError

theorem evidence_optionalDigest {label : Text} :
    Raises IsEvidenceError (optionalDigest value label) := by
  unfold optionalDigest
  split
  · exact raises_ok ()
  · intro failure failed
    cases digest : requireDigest value label with
    | ok t => rw [digest] at failed; cases failed
    | error other =>
      rw [digest] at failed
      cases failed
      exact evidence_requireDigest _ digest

theorem evidence_validateSources : Raises IsEvidenceError (validateSources members) := by
  unfold validateSources
  repeat' first
    | exact raises_require isEvidenceError
    | exact raises_demand isEvidenceError
    | exact evidence_requireDigest
    | exact raises_pure _
    | refine raises_bind ?_ fun _ _ => ?_

theorem evidence_validateTools : Raises IsEvidenceError (validateTools members) := by
  unfold validateTools
  repeat' first
    | exact raises_require isEvidenceError
    | exact raises_demand isEvidenceError
    | exact evidence_requireDigest
    | exact evidence_optionalDigest
    | exact raises_pure _
    | refine raises_bind ?_ fun _ _ => ?_

theorem evidence_validateHeader : Raises IsEvidenceError (validateHeader p members) := by
  have time : Raises IsEvidenceError (parseManifestTime p (field members "generated_at")
      "evidence manifest generated_at") :=
    raises_bind (raises_demand isEvidenceError) fun _ _ => raises_demand isEvidenceError
  unfold validateHeader
  repeat' first
    | exact raises_require isEvidenceError
    | exact time
    | exact evidence_validateSources
    | exact evidence_validateTools
    | refine raises_bind ?_ fun _ _ => ?_

theorem evidence_receiptRow (seen : List Text × List Text) :
    Raises IsEvidenceError (receiptRow seen row) := by
  unfold receiptRow
  repeat' first
    | exact raises_require isEvidenceError
    | exact raises_demand isEvidenceError
    | exact evidence_requireDigest
    | exact raises_pure _
    | refine raises_bind ?_ fun _ _ => ?_

theorem evidence_candidateRows : Raises IsEvidenceError (candidateRows members) := by
  unfold candidateRows
  repeat' first
    | exact raises_require isEvidenceError
    | exact raises_demand isEvidenceError
    | refine raises_bind ?_ fun _ _ => ?_

/-- Looking up a list or an object is the one check that raises something else. -/
theorem inSet_eq_error {options : List Text} {failure : Fault} :
    inSet options value = .error failure ↔ failure = .typeError ∧ isUnhashable value = true := by
  cases value <;> simp [inSet, isUnhashable, eq_comm]

theorem lookup_eq_error {α : Type} {options : List Text} {rest : Bool → Checked α}
    (others : ∀ known, Raises IsEvidenceError (rest known)) {failure : Fault}
    (other : ¬ IsEvidenceError failure) :
    inSet options value >>= rest = .error failure ↔
      failure = .typeError ∧ isUnhashable value = true := by
  rw [bind_eq_error, inSet_eq_error]
  constructor
  · rintro (found | ⟨known, -, failed⟩)
    · exact found
    · exact absurd (others known _ failed) other
  · exact .inl

/-- A row of the attestations raises something else at its disclosure only. -/
theorem attestationRow_eq_error {seen : List Text} {failure : Fault}
    (other : ¬ IsEvidenceError failure) :
    attestationRow seen row = .error failure ↔ failure = .typeError ∧ ∃ fields hotkey,
      attestationHead row = some (fields, hotkey) ∧
        isUnhashable (field fields "disclosure") = true := by
  unfold attestationRow
  cases head : attestationHead row with
  | none =>
    refine ⟨fun failed => ?_, fun ⟨_, _, _, absent, _⟩ => nomatch absent⟩
    cases failed
    exact absurd isEvidenceError other
  | some found =>
    obtain ⟨fields, hotkey⟩ := found
    have rest (known : Bool) : Raises IsEvidenceError (do
        require (known = true) (refused "attestation row is invalid")
        let _ ← requireDigest (field fields "evidence_digest") "attestation evidence digest"
        optionalDigest (field fields "envelope_digest") "attestation envelope digest"
        optionalDigest (field fields "challenge_digest") "attestation challenge digest"
        require (hotkey ∉ seen) (refused "duplicates an attestation hotkey")
        return seen ++ [hotkey]) := by
      repeat' first
        | exact raises_require isEvidenceError
        | exact evidence_requireDigest
        | exact evidence_optionalDigest
        | exact raises_pure _
        | refine raises_bind ?_ fun _ _ => ?_
    refine (lookup_eq_error rest other).trans (and_congr_right fun _ => ?_)
    refine ⟨fun unhashable => ⟨_, _, rfl, unhashable⟩, ?_⟩
    rintro ⟨_, _, ⟨⟩, unhashable⟩
    exact unhashable

/-- A row of the candidates raises something else at its outcome only. -/
theorem candidateRow_eq_error {seen : List Text} {failure : Fault}
    (other : ¬ IsEvidenceError failure) :
    candidateRow seen row = .error failure ↔ failure = .typeError ∧ ∃ fields hotkey,
      candidateHead row = some (fields, hotkey) ∧
        isUnhashable (field fields "outcome") = true := by
  unfold candidateRow
  cases head : candidateHead row with
  | none =>
    refine ⟨fun failed => ?_, fun ⟨_, _, _, absent, _⟩ => nomatch absent⟩
    cases failed
    exact absurd isEvidenceError other
  | some found =>
    obtain ⟨fields, hotkey⟩ := found
    have rest (known : Bool) : Raises IsEvidenceError (do
        require (known = true ∧ textThat isReason (field fields "reason"))
          (refused "candidate row is invalid")
        require (hotkey ∉ seen) (refused "duplicates a candidate")
        return seen ++ [hotkey]) := by
      repeat' first
        | exact raises_require isEvidenceError
        | exact raises_pure _
        | refine raises_bind ?_ fun _ _ => ?_
    refine (lookup_eq_error rest other).trans (and_congr_right fun _ => ?_)
    refine ⟨fun unhashable => ⟨_, _, rfl, unhashable⟩, ?_⟩
    rintro ⟨_, _, ⟨⟩, unhashable⟩
    exact unhashable

end Raising

/-! ## Where the reader breaks -/

/-- The header and the receipts pass. -/
def PassesReceipts (p : Platform) (members : List (Text × Json)) : Prop :=
  validateHeader p members = .ok () ∧ ∃ rows seen,
    boundedList maxLaunchVerifiedCandidates (field members "receipts") = some rows ∧
      rows.foldlM receiptRow ([], []) = .ok seen

/-- The attestations pass. -/
def PassesAttestations (members : List (Text × Json)) : Prop :=
  ∃ rows hotkeys,
    boundedList maxLaunchVerifiedCandidates (field members "attestations") = some rows ∧
      rows.foldlM attestationRow [] = .ok hotkeys

/-- A list or an object stands for a disclosure, behind attestations that pass. -/
def BreaksAtDisclosure (members : List (Text × Json)) : Prop :=
  ∃ before row after hotkeys fields hotkey,
    boundedList maxLaunchVerifiedCandidates (field members "attestations") =
      some (before ++ row :: after) ∧
    before.foldlM attestationRow [] = .ok hotkeys ∧
    attestationHead row = some (fields, hotkey) ∧ isUnhashable (field fields "disclosure") = true

/-- A list or an object stands for an outcome, behind candidates that pass. -/
def BreaksAtOutcome (members : List (Text × Json)) : Prop :=
  ∃ before row after hotkeys fields hotkey,
    candidateRows members = .ok (before ++ row :: after) ∧
    before.foldlM candidateRow [] = .ok hotkeys ∧
    candidateHead row = some (fields, hotkey) ∧ isUnhashable (field fields "outcome") = true

/-- A list or an object is looked up. -/
def LooksUpUnhashable (p : Platform) (members : List (Text × Json)) : Prop :=
  PassesReceipts p members ∧
    (BreaksAtDisclosure members ∨ PassesAttestations members ∧ BreaksAtOutcome members)

/-- The octets are a JSON object that the writer refuses, or canonical octets of one at
which a list or an object is looked up. -/
def Breaks (p : Platform) (manifestBytes : Bytes) : Prop :=
  (manifestBytes ≠ [] ∧ manifestBytes.length ≤ maxManifestArtifactBytes) ∧
    ∃ members, documentOf p manifestBytes = some (.obj members) ∧
      (p.writeDepth < (Json.obj members).levels ∨ canonicalJson p (.obj members) = none ∨
        canonicalJson p (.obj members) = some manifestBytes ∧ LooksUpUnhashable p members)

section Breaking

variable {p : Platform} {members : List (Text × Json)}

/-- The check of the sets, behind the rows. -/
theorem evidence_sets {hotkeys : List Text} {seen : List Text × List Text} {rows : List Json} :
    Raises IsEvidenceError (do
      let verified := (hotkeysOf (verifiedRows rows)).dedup
      require (verified.length ≤ maxLaunchVerifiedCandidates)
        (refused "verified-candidate count exceeds the launch receipt budget")
      require (seen.2.toFinset = verified.toFinset)
        (refused "receipts must cover exactly the verified candidate set")
      require (hotkeys.toFinset = verified.toFinset)
        (refused "attestations must cover exactly the verified candidate set")
      require (noneOr (textThat (Text.isHex 64)) (field members "wire_report_sha256"))
        (refused "wire_report_sha256 is invalid")) := by
  repeat' first
    | exact raises_require isEvidenceError
    | refine raises_bind ?_ fun _ _ => ?_

/-- A validation that raises something else looked up a list or an object. -/
theorem validateManifest_eq_error {failure : Fault} (other : ¬ IsEvidenceError failure) :
    validateManifest p members = .error failure ↔
      failure = .typeError ∧ LooksUpUnhashable p members := by
  constructor
  · intro failed
    -- only the loops over the rows look a value up in a set
    rcases bind_eq_error.mp failed with failed | ⟨_, header, failed⟩
    · exact absurd (evidence_validateHeader _ failed) other
    rcases bind_eq_error.mp failed with failed | ⟨receipts, listed, failed⟩
    · exact absurd (raises_demand isEvidenceError _ failed) other
    rcases bind_eq_error.mp failed with failed | ⟨seen, looped, failed⟩
    · exact absurd (raises_foldlM (fun seen row _ => evidence_receiptRow seen) _ _ failed) other
    have passes : PassesReceipts p members :=
      ⟨header, receipts, seen, demand_eq_ok.mp listed, looped⟩
    rcases bind_eq_error.mp failed with failed | ⟨attestations, listed, failed⟩
    · exact absurd (raises_demand isEvidenceError _ failed) other
    rcases bind_eq_error.mp failed with failed | ⟨hotkeys, attested, failed⟩
    · -- the first row that breaks, after those that passed
      obtain ⟨before, row, after, reached, rfl, looped, stops⟩ := foldlM_eq_error.mp failed
      obtain ⟨rfl, fields, hotkey, head, unhashable⟩ := (attestationRow_eq_error other).mp stops
      exact ⟨rfl, passes, .inl ⟨before, row, after, reached, fields, hotkey,
        demand_eq_ok.mp listed, looped, head, unhashable⟩⟩
    rcases bind_eq_error.mp failed with failed | ⟨candidates, rows, failed⟩
    · exact absurd (evidence_candidateRows _ failed) other
    rcases bind_eq_error.mp failed with failed | ⟨_, -, failed⟩
    · obtain ⟨before, row, after, reached, rfl, looped, stops⟩ := foldlM_eq_error.mp failed
      obtain ⟨rfl, fields, hotkey, head, unhashable⟩ := (candidateRow_eq_error other).mp stops
      exact ⟨rfl, passes, .inr ⟨⟨_, hotkeys, demand_eq_ok.mp listed, attested⟩,
        before, row, after, reached, fields, hotkey, rows, looped, head, unhashable⟩⟩
    · exact absurd (evidence_sets _ failed) other
  · rintro ⟨rfl, ⟨header, receipts, seen, listed, looped⟩, breaks⟩
    refine bind_eq_error.mpr (.inr ⟨_, header, ?_⟩)
    refine bind_eq_error.mpr (.inr ⟨_, demand_eq_ok.mpr listed, ?_⟩)
    refine bind_eq_error.mpr (.inr ⟨_, looped, ?_⟩)
    rcases breaks with ⟨before, row, after, reached, fields, hotkey, listed, looped, head,
      unhashable⟩ | ⟨⟨rows, hotkeys, listed, attested⟩, before, row, after, reached, fields, hotkey,
      candidates, looped, head, unhashable⟩
    · refine bind_eq_error.mpr (.inr ⟨_, demand_eq_ok.mpr listed, bind_eq_error.mpr (.inl ?_)⟩)
      exact foldlM_eq_error.mpr ⟨before, row, after, reached, rfl, looped,
        (attestationRow_eq_error other).mpr ⟨rfl, fields, hotkey, head, unhashable⟩⟩
    · refine bind_eq_error.mpr (.inr ⟨_, demand_eq_ok.mpr listed, ?_⟩)
      refine bind_eq_error.mpr (.inr ⟨_, attested, ?_⟩)
      refine bind_eq_error.mpr (.inr ⟨_, candidates, bind_eq_error.mpr (.inl ?_)⟩)
      exact foldlM_eq_error.mpr ⟨before, row, after, reached, rfl, looped,
        (candidateRow_eq_error other).mpr ⟨rfl, fields, hotkey, head, unhashable⟩⟩

theorem canonicalBytes_eq_ok {document : Json} {octets : Bytes} :
    canonicalBytes p document = .ok octets ↔
      document.levels ≤ p.writeDepth ∧ canonicalJson p document = some octets := by
  rw [canonicalBytes, demand_eq_ok]
  split
  · next shallow => simp [shallow]
  · next deep => simp [deep]

theorem canonicalBytes_eq_error {document : Json} {failure : Fault} :
    canonicalBytes p document = .error failure ↔
      failure = .policyRegistryError "registry contains a non-canonical value" ∧
        (p.writeDepth < document.levels ∨ canonicalJson p document = none) := by
  rw [canonicalBytes, demand_eq_error]
  split
  · next shallow => simp [not_lt.mpr shallow, and_comm, eq_comm]
  · next deep => simp [not_le.mp deep, eq_comm]

/-- **Exceptions.** The reader raises something else than `EvidenceError` exactly where it
breaks. -/
theorem parseManifest_raises_iff {manifestBytes : Bytes} :
    Raises IsEvidenceError (parseManifest p manifestBytes) ↔ ¬ Breaks p manifestBytes := by
  constructor
  · rintro evidence ⟨bounded, members, read, breaks⟩
    -- what fails from the writer on is the failure of the whole
    have start {failure : Fault}
        (failed : (canonicalBytes p (.obj members) >>= fun canonical => do
          require (canonical = manifestBytes) (refused "bytes are not canonical JSON")
          validateManifest p members
          return members) = .error failure) : IsEvidenceError failure := by
      refine evidence _ (bind_eq_error.mpr (.inr ⟨(), require_eq_ok.mpr bounded, ?_⟩))
      refine bind_eq_error.mpr (.inr ⟨_, demand_eq_ok.mpr read, ?_⟩)
      exact bind_eq_error.mpr (.inr ⟨members, rfl, failed⟩)
    -- the writer breaks, or the look-up of a key that has no hash
    by_cases refuses : p.writeDepth < (Json.obj members).levels ∨
        canonicalJson p (.obj members) = none
    · obtain ⟨_, ⟨⟩⟩ := start (bind_eq_error.mpr (.inl (canonicalBytes_eq_error.mpr
        ⟨rfl, refuses⟩)))
    · obtain ⟨shallow, -⟩ := not_or.mp refuses
      obtain ⟨written, unhashable⟩ := (breaks.resolve_left (not_or.mp refuses).1).resolve_left
        (not_or.mp refuses).2
      have other : ¬ IsEvidenceError .typeError := fun ⟨_, same⟩ => nomatch same
      refine other (start (bind_eq_error.mpr (.inr ⟨_,
        canonicalBytes_eq_ok.mpr ⟨not_lt.mp shallow, written⟩, ?_⟩)))
      refine bind_eq_error.mpr (.inr ⟨(), require_eq_ok.mpr rfl, bind_eq_error.mpr (.inl ?_)⟩)
      exact (validateManifest_eq_error other).mpr ⟨rfl, unhashable⟩
  · intro sound failure failed
    by_contra other
    -- each check but those two raises the exception of the module
    rcases bind_eq_error.mp failed with failed | ⟨_, bounded, failed⟩
    · exact other (raises_require isEvidenceError _ failed)
    rcases bind_eq_error.mp failed with failed | ⟨document, read, failed⟩
    · exact other (raises_demand isEvidenceError _ failed)
    rcases bind_eq_error.mp failed with failed | ⟨members, object, later⟩
    · exact other (raises_demand isEvidenceError _ failed)
    have whole : document = .obj members := by
      cases document <;> simp_all [membersOfJson, demand]
    subst whole
    refine sound ⟨require_eq_ok.mp bounded, members, demand_eq_ok.mp read, ?_⟩
    rcases bind_eq_error.mp later with refuses | ⟨canonical, written, later⟩
    · obtain ⟨-, deep | unwritable⟩ := canonicalBytes_eq_error.mp refuses
      · exact .inl deep
      · exact .inr (.inl unwritable)
    rcases bind_eq_error.mp later with differs | ⟨_, same, later⟩
    · exact absurd (raises_require isEvidenceError _ differs) other
    rcases bind_eq_error.mp later with invalid | ⟨_, _, later⟩
    · obtain ⟨-, unhashable⟩ := (validateManifest_eq_error other).mp invalid
      obtain rfl := require_eq_ok.mp same
      exact .inr (.inr ⟨(canonicalBytes_eq_ok.mp written).2, unhashable⟩)
    · cases later

end Breaking

/-! ## What is accepted -/

/-- What a manifest that the reader returns says of its hotkeys. -/
structure Agrees (p : Platform) (manifestBytes : Bytes) (members : List (Text × Json)) : Prop where
  canonical : canonicalJson p (.obj members) = some manifestBytes
  receiptsDistinct : (hotkeysOf (rowsOf (field members "receipts"))).Nodup
  attestationsDistinct : (hotkeysOf (rowsOf (field members "attestations"))).Nodup
  verifiedDistinct : (hotkeysOf (verifiedRows (candidatesOf members))).Nodup
  receipts : ∀ hotkey, hotkey ∈ hotkeysOf (rowsOf (field members "receipts")) ↔
    hotkey ∈ hotkeysOf (verifiedRows (candidatesOf members))
  attestations : ∀ hotkey, hotkey ∈ hotkeysOf (rowsOf (field members "attestations")) ↔
    hotkey ∈ hotkeysOf (verifiedRows (candidatesOf members))
  few : (hotkeysOf (verifiedRows (candidatesOf members))).length ≤ maxLaunchVerifiedCandidates

section Accepted

variable {p : Platform} {members : List (Text × Json)}

theorem launchHotkey?_eq_some {value : Json} {hotkey : Text}
    (found : launchHotkey? (some value) = some hotkey) : textOfJson value = some hotkey := by
  unfold launchHotkey? at found
  split at found
  · next same =>
    obtain rfl := Option.some.inj same
    split at found
    · exact found
    · cases found
  · cases found

theorem exactly_eq_some {keys : List Text} {value : Json} {fields : List (Text × Json)}
    (found : exactly keys value = some fields) : membersOfJson value = some fields :=
  (Option.filter_eq_some_iff.mp found).1

theorem hotkeyOf_eq_some {keys : List Text} {row : Json} {fields : List (Text × Json)}
    {hotkey : Text} (object : exactly keys row = some fields)
    (found : launchHotkey? (some (field fields "hotkey")) = some hotkey) :
    hotkeyOf row = some hotkey := by
  rw [hotkeyOf, exactly_eq_some object]
  exact launchHotkey?_eq_some found

/-- A row adds its hotkey to those behind which it stands. -/
theorem hotkey_of_receiptRow {seen seen' : List Text × List Text} {row : Json}
    (passed : receiptRow seen row = .ok seen') :
    ∃ hotkey, hotkeyOf row = some hotkey ∧ hotkey ∉ seen.2 ∧ seen'.2 = seen.2 ++ [hotkey] := by
  simp only [receiptRow, bind_eq_ok, demand_eq_ok, require_eq_ok, pure_eq_ok] at passed
  obtain ⟨_, object, _, -, hotkey, found, _, -, _, -, _, -, _, ⟨-, fresh⟩, rfl⟩ := passed
  exact ⟨hotkey, hotkeyOf_eq_some object found, fresh, rfl⟩

theorem hotkey_of_attestationRow {seen seen' : List Text} {row : Json}
    (passed : attestationRow seen row = .ok seen') :
    ∃ hotkey, hotkeyOf row = some hotkey ∧ hotkey ∉ seen ∧ seen' = seen ++ [hotkey] := by
  simp only [attestationRow, bind_eq_ok, demand_eq_ok, require_eq_ok, pure_eq_ok] at passed
  obtain ⟨⟨_, hotkey⟩, head, _, -, _, -, _, -, _, -, _, -, _, fresh, rfl⟩ := passed
  simp only [attestationHead, Option.bind_eq_bind, Option.bind_eq_some_iff, Option.pure_def,
    Option.some.injEq, Prod.mk.injEq] at head
  obtain ⟨_, object, _, found, _, -, -, rfl⟩ := head
  exact ⟨_, hotkeyOf_eq_some object found, fresh, rfl⟩

theorem hotkey_of_candidateRow {seen seen' : List Text} {row : Json}
    (passed : candidateRow seen row = .ok seen') :
    ∃ hotkey, hotkeyOf row = some hotkey ∧ hotkey ∉ seen ∧ seen' = seen ++ [hotkey] := by
  simp only [candidateRow, bind_eq_ok, demand_eq_ok, require_eq_ok, pure_eq_ok] at passed
  obtain ⟨⟨_, hotkey⟩, head, _, -, _, -, _, fresh, rfl⟩ := passed
  simp only [candidateHead, Option.bind_eq_bind, Option.bind_eq_some_iff, Option.pure_def,
    Option.some.injEq, Prod.mk.injEq] at head
  obtain ⟨_, object, _, found, -, rfl⟩ := head
  exact ⟨_, hotkeyOf_eq_some object found, fresh, rfl⟩

/-- **Run.** A loop over rows collects their hotkeys, none twice. -/
theorem hotkeys_of_foldlM {σ : Type} {f : σ → Json → Checked σ} (hotkeys : σ → List Text)
    (row : ∀ {s s' : σ} {row : Json}, f s row = .ok s' → ∃ hotkey, hotkeyOf row = some hotkey ∧
      hotkey ∉ hotkeys s ∧ hotkeys s' = hotkeys s ++ [hotkey])
    {rows : List Json} {s s' : σ} (looped : rows.foldlM f s = .ok s')
    (distinct : (hotkeys s).Nodup) :
    hotkeys s' = hotkeys s ++ hotkeysOf rows ∧ (hotkeys s').Nodup := by
  induction rows generalizing s with
  | nil =>
    cases looped
    exact ⟨(List.append_nil _).symm, distinct⟩
  | cons first rows ih =>
    rw [List.foldlM_cons, bind_eq_ok] at looped
    obtain ⟨middle, passed, rest⟩ := looped
    obtain ⟨hotkey, own, fresh, added⟩ := row passed
    have distinct' : (hotkeys middle).Nodup := by
      rw [added]
      exact List.nodup_append.mpr ⟨distinct, List.nodup_singleton _, fun a member b last =>
        fun same => fresh (List.mem_singleton.mp last ▸ same ▸ member)⟩
    obtain ⟨collected, last⟩ := ih rest distinct'
    refine ⟨?_, last⟩
    rw [collected, added, hotkeysOf, hotkeysOf, List.filterMap_cons_some own, List.append_assoc,
      List.singleton_append]

theorem rowsOf_of_boundedList {most : ℕ} {value : Json} {rows : List Json}
    (listed : boundedList most value = some rows) : rowsOf value = rows := by
  rw [rowsOf, (Option.filter_eq_some_iff.mp listed).1]
  rfl

theorem candidatesOf_of_candidateRows {rows : List Json}
    (read : candidateRows members = .ok rows) : candidatesOf members = rows := by
  simp only [candidateRows, bind_eq_ok, demand_eq_ok, require_eq_ok] at read
  obtain ⟨_, object, _, -, _, -, _, -, listed⟩ := read
  rw [candidatesOf, exactly_eq_some object, Option.map_some, rowsOf_of_boundedList listed]
  rfl

/-- **Accepted.** What the reader returns is canonical, and its three kinds of rows are
about the same hotkeys. -/
theorem agrees_of_parseManifest {manifestBytes : Bytes}
    (parsed : parseManifest p manifestBytes = .ok members) : Agrees p manifestBytes members := by
  simp only [parseManifest, validateManifest, bind_eq_ok, demand_eq_ok, require_eq_ok,
    pure_eq_ok, canonicalBytes_eq_ok] at parsed
  obtain ⟨_, -, _, -, members, -, _, ⟨-, written⟩, _, rfl, _, ⟨_, -, receipts, listed, ⟨_, _⟩,
    looped, attestations, attested, _, looped', candidates, rows, _, looped'', _, few, _, covers,
    _, covers', -⟩, rfl⟩ := parsed
  obtain ⟨collected, distinct⟩ :=
    hotkeys_of_foldlM Prod.snd hotkey_of_receiptRow looped List.nodup_nil
  obtain ⟨collected', distinct'⟩ :=
    hotkeys_of_foldlM id hotkey_of_attestationRow looped' List.nodup_nil
  obtain ⟨collected'', distinct''⟩ :=
    hotkeys_of_foldlM id hotkey_of_candidateRow looped'' List.nodup_nil
  simp only [id, List.nil_append] at collected collected' collected'' distinct distinct' distinct''
  subst collected collected' collected''
  have verified : (hotkeysOf (verifiedRows candidates)).Nodup :=
    distinct''.sublist (List.filter_sublist.filterMap hotkeyOf)
  rw [verified.dedup] at few covers covers'
  rw [← candidatesOf_of_candidateRows rows] at verified few covers covers'
  rw [← rowsOf_of_boundedList listed] at distinct covers
  rw [← rowsOf_of_boundedList attested] at distinct' covers'
  refine ⟨written, distinct, distinct', verified, fun hotkey => ?_, fun hotkey => ?_, few⟩
  · rw [← List.mem_toFinset, covers, List.mem_toFinset]
  · rw [← List.mem_toFinset, covers', List.mem_toFinset]

end Accepted

/-! ## Sorted documents -/

section Sorted

variable {p : Platform} {members : List (Text × Json)}

@[simp] theorem textThat_sortKeys (test : Text → Bool) (value : Json) :
    textThat test value.sortKeys = textThat test value := by
  rw [textThat, textOfJson_sortKeys, textThat]

@[simp] theorem integerFrom_sortKeys (least : ℤ) (value : Json) :
    integerFrom least value.sortKeys = integerFrom least value := by
  rw [integerFrom, intOfJson_sortKeys, integerFrom]

@[simp] theorem noneOr_textThat_sortKeys (test : Text → Bool) (value : Json) :
    noneOr (textThat test) value.sortKeys = noneOr (textThat test) value := by
  cases value <;> rfl

@[simp] theorem requireDigest_sortKeys (value : Json) (label : Text) :
    requireDigest value.sortKeys label = requireDigest value label := by
  rw [requireDigest, textOfJson_sortKeys, requireDigest]

@[simp] theorem optionalDigest_sortKeys (value : Json) (label : Text) :
    optionalDigest value.sortKeys label = optionalDigest value label := by
  cases value <;> rfl

@[simp] theorem parseManifestTime_sortKeys (value : Json) (label : Text) :
    parseManifestTime p value.sortKeys label = parseManifestTime p value label := by
  rw [parseManifestTime, textOfJson_sortKeys, parseManifestTime]

@[simp] theorem launchHotkey?_sortKeys (value : Json) :
    launchHotkey? (some value.sortKeys) = launchHotkey? (some value) := by
  cases value <;> rfl

@[simp] theorem inSet_sortKeys (options : List Text) (value : Json) :
    inSet options value.sortKeys = inSet options value := by
  cases value <;> rfl

theorem boundedList_sortKeys (most : ℕ) (value : Json) :
    boundedList most value.sortKeys = (boundedList most value).map (List.map sortKeys) := by
  rw [boundedList, itemsOfJson_sortKeys, boundedList]
  cases itemsOfJson value with
  | none => rfl
  | some items =>
    simp only [Option.map_some, Option.filter_some, List.length_map]
    split <;> rfl

theorem exactly_sortKeys (keys : List Text) (value : Json) :
    exactly keys value.sortKeys = (exactly keys value).map sortedFields := by
  rw [exactly, membersOfJson_sortKeys, exactly]
  cases membersOfJson value with
  | none => rfl
  | some fields =>
    simp only [Option.map_some, Option.filter_some, hasExactly_sortedFields]
    split <;> rfl

@[simp] theorem isCommand_sortKeys (value : Json) : isCommand value.sortKeys = isCommand value := by
  cases value with
  | arr items =>
    have list := boundedList_sortKeys 4 (.arr items)
    rw [sortKeys] at list ⊢
    rw [isCommand, noneOr, list, noneOr, Option.any_map]
    · refine congrArg (Option.any · _) (funext fun rows => ?_)
      simp only [List.all_map, List.map_eq_nil_iff, ne_eq]
      refine congrArg (_ && List.all rows ·) (funext fun item => ?_)
      exact textThat_sortKeys isCommandPart item
    all_goals exact fun same => nomatch same
  | _ => rfl

/-- The fields of a part that is an object. -/
theorem parts_of_exactly {keys : List Text} {value : Json} {fields : List (Text × Json)}
    (distinct : value.Distinct) (found : exactly keys value = some fields) :
    (fields.map Prod.fst).Nodup ∧ ∀ key, (field fields key).Distinct :=
  nodup_of_distinct distinct (exactly_eq_some found)

theorem demand_map_bind {α β γ : Type} {failure : Fault} {value : Option α} {f : α → β}
    {rest : β → Checked γ} :
    demand failure (value.map f) >>= rest = demand failure value >>= fun a => rest (f a) := by
  cases value <;> rfl

theorem demand_bind_congr {α β : Type} {failure : Fault} {value : Option α}
    {rest rest' : α → Checked β} (same : ∀ a, value = some a → rest a = rest' a) :
    demand failure value >>= rest = demand failure value >>= rest' := by
  cases value with
  | none => rfl
  | some a => exact same a rfl

theorem validateSources_sorted (distinct : (Json.obj members).Distinct) :
    validateSources (sortedFields members) = validateSources members := by
  obtain ⟨keys, parts⟩ := nodup_of_distinct distinct rfl
  simp only [validateSources, field_sortedFields keys, exactly_sortKeys, noneOr_textThat_sortKeys,
    demand_map_bind]
  refine demand_bind_congr fun mechanism found => ?_
  simp only [field_sortedFields (parts_of_exactly (parts _) found).1, textThat_sortKeys,
    integerFrom_sortKeys]
  refine bind_congr fun _ => bind_congr fun _ => demand_bind_congr fun registry found => ?_
  simp only [field_sortedFields (parts_of_exactly (parts _) found).1, integerFrom_sortKeys,
    requireDigest_sortKeys]

theorem validateTools_sorted (distinct : (Json.obj members).Distinct) :
    validateTools (sortedFields members) = validateTools members := by
  obtain ⟨keys, parts⟩ := nodup_of_distinct distinct rfl
  simp only [validateTools, field_sortedFields keys, exactly_sortKeys, demand_map_bind]
  refine demand_bind_congr fun verifier found => ?_
  simp only [field_sortedFields (parts_of_exactly (parts _) found).1, requireDigest_sortKeys,
    optionalDigest_sortKeys, isCommand_sortKeys]
  refine bind_congr fun _ => bind_congr fun _ => bind_congr fun _ => bind_congr fun _ =>
    demand_bind_congr fun report found => ?_
  simp only [field_sortedFields (parts_of_exactly (parts _) found).1, textThat_sortKeys,
    requireDigest_sortKeys]

theorem validateHeader_sorted (distinct : (Json.obj members).Distinct) :
    validateHeader p (sortedFields members) = validateHeader p members := by
  obtain ⟨keys, -⟩ := nodup_of_distinct distinct rfl
  simp only [validateHeader, hasExactly_sortedFields, field_sortedFields keys, textThat_sortKeys,
    integerFrom_sortKeys, parseManifestTime_sortKeys, validateSources_sorted distinct,
    validateTools_sorted distinct]

/-! ### Rows -/

theorem hotkeyOf_sortKeys {row : Json} (distinct : row.Distinct) :
    hotkeyOf row.sortKeys = hotkeyOf row := by
  rw [hotkeyOf, membersOfJson_sortKeys, hotkeyOf]
  cases object : membersOfJson row with
  | none => rfl
  | some fields =>
    simp only [Option.map_some, Option.bind_some,
      field_sortedFields (nodup_of_distinct distinct object).1, textOfJson_sortKeys]

theorem receiptRow_sortKeys {row : Json} (distinct : row.Distinct) (seen : List Text × List Text) :
    receiptRow seen row.sortKeys = receiptRow seen row := by
  simp only [receiptRow, exactly_sortKeys, demand_map_bind]
  refine demand_bind_congr fun fields found => ?_
  simp only [field_sortedFields (parts_of_exactly distinct found).1, textOfJson_sortKeys,
    launchHotkey?_sortKeys, requireDigest_sortKeys]

theorem attestationHead_sortKeys {row : Json} (distinct : row.Distinct) :
    attestationHead row.sortKeys =
      (attestationHead row).map fun found => (sortedFields found.1, found.2) := by
  simp only [attestationHead, exactly_sortKeys]
  cases object : exactly ["hotkey", "verdict", "evidence_digest", "envelope_digest",
      "challenge_digest", "disclosure"] row with
  | none => rfl
  | some fields =>
    simp only [Option.map_some, Option.bind_eq_bind, Option.bind_some,
      field_sortedFields (parts_of_exactly distinct object).1, textOfJson_sortKeys,
      launchHotkey?_sortKeys]
    cases launchHotkey? (some (field fields "hotkey")) with
    | none => rfl
    | some hotkey => cases textOfJson (field fields "verdict") <;> rfl

theorem candidateHead_sortKeys {row : Json} (distinct : row.Distinct) :
    candidateHead row.sortKeys =
      (candidateHead row).map fun found => (sortedFields found.1, found.2) := by
  simp only [candidateHead, exactly_sortKeys]
  cases object : exactly ["hotkey", "outcome", "reason"] row with
  | none => rfl
  | some fields =>
    simp only [Option.map_some, Option.bind_eq_bind, Option.bind_some,
      field_sortedFields (parts_of_exactly distinct object).1, launchHotkey?_sortKeys]
    cases launchHotkey? (some (field fields "hotkey")) <;> rfl

/-- The members that the head of a row delivers. -/
theorem attestationHead_eq_some {row : Json} {fields : List (Text × Json)} {hotkey : Text}
    (head : attestationHead row = some (fields, hotkey)) : membersOfJson row = some fields := by
  simp only [attestationHead, Option.bind_eq_bind, Option.bind_eq_some_iff, Option.pure_def,
    Option.some.injEq, Prod.mk.injEq] at head
  obtain ⟨_, object, _, -, _, -, rfl, -⟩ := head
  exact exactly_eq_some object

theorem candidateHead_eq_some {row : Json} {fields : List (Text × Json)} {hotkey : Text}
    (head : candidateHead row = some (fields, hotkey)) : membersOfJson row = some fields := by
  simp only [candidateHead, Option.bind_eq_bind, Option.bind_eq_some_iff, Option.pure_def,
    Option.some.injEq, Prod.mk.injEq] at head
  obtain ⟨_, object, _, -, rfl, -⟩ := head
  exact exactly_eq_some object

theorem attestationRow_sortKeys {row : Json} (distinct : row.Distinct) (seen : List Text) :
    attestationRow seen row.sortKeys = attestationRow seen row := by
  simp only [attestationRow, attestationHead_sortKeys distinct, demand_map_bind]
  refine demand_bind_congr fun found head => ?_
  simp only [field_sortedFields (nodup_of_distinct distinct (attestationHead_eq_some head)).1,
    inSet_sortKeys, requireDigest_sortKeys, optionalDigest_sortKeys]

theorem candidateRow_sortKeys {row : Json} (distinct : row.Distinct) (seen : List Text) :
    candidateRow seen row.sortKeys = candidateRow seen row := by
  simp only [candidateRow, candidateHead_sortKeys distinct, demand_map_bind]
  refine demand_bind_congr fun found head => ?_
  simp only [field_sortedFields (nodup_of_distinct distinct (candidateHead_eq_some head)).1,
    inSet_sortKeys, textThat_sortKeys]

/-- A loop over sorted rows is the loop over the rows. -/
theorem foldlM_sortKeys {σ : Type} {f : σ → Json → Checked σ} {rows : List Json}
    (same : ∀ row ∈ rows, ∀ s, f s row.sortKeys = f s row) (s : σ) :
    (rows.map sortKeys).foldlM f s = rows.foldlM f s := by
  induction rows generalizing s with
  | nil => rfl
  | cons row rows ih =>
    obtain ⟨first, others⟩ := List.forall_mem_cons.mp same
    rw [List.map_cons, List.foldlM_cons, List.foldlM_cons, first]
    exact bind_congr fun s' => ih others s'

theorem hotkeysOf_sortKeys {rows : List Json} (distinct : ∀ row ∈ rows, row.Distinct) :
    hotkeysOf (verifiedRows (rows.map sortKeys)) = hotkeysOf (verifiedRows rows) := by
  have outcome (row : Json) (own : row.Distinct) :
      ((membersOfJson row.sortKeys).any fun members =>
        Json.equalsText "verified" (some (field members "outcome"))) =
      (membersOfJson row).any fun members =>
        Json.equalsText "verified" (some (field members "outcome")) := by
    rw [membersOfJson_sortKeys]
    cases object : membersOfJson row with
    | none => rfl
    | some fields =>
      simp only [Option.map_some, Option.any_some,
        field_sortedFields (nodup_of_distinct own object).1, equalsText_sortKeys]
  induction rows with
  | nil => rfl
  | cons row rows ih =>
    obtain ⟨own, others⟩ := List.forall_mem_cons.mp distinct
    have rest := ih others
    simp only [hotkeysOf, verifiedRows] at rest ⊢
    rw [List.map_cons, List.filter_cons, List.filter_cons, outcome row own]
    split
    · rw [List.filterMap_cons, List.filterMap_cons, hotkeyOf_sortKeys own, rest]
    · exact rest

theorem candidateRows_sorted (distinct : (Json.obj members).Distinct) :
    candidateRows (sortedFields members) = (candidateRows members).map (List.map sortKeys) := by
  obtain ⟨keys, parts⟩ := nodup_of_distinct distinct rfl
  simp only [candidateRows, field_sortedFields keys, exactly_sortKeys, demand_map_bind,
    textOfJson_sortKeys, intOfJson_sortKeys]
  cases found : exactly ["source", "network", "netuid", "block", "block_hash", "candidates"]
      (field members "candidate_set") with
  | none => rfl
  | some candidateSet =>
    simp only [demand, bind, Except.bind, field_sortedFields (parts_of_exactly (parts _) found).1,
      textThat_sortKeys, equalsText_sortKeys, equalsInt_sortKeys, integerFrom_sortKeys,
      boundedList_sortKeys, require]
    split
    · rfl
    · split
      · rfl
      · split
        · rfl
        · cases boundedList maxLaunchCandidates (field candidateSet "candidates") <;> rfl

/-- **Order.** The checks do not depend on the order of members. -/
theorem validateManifest_sorted (distinct : (Json.obj members).Distinct) :
    validateManifest p (sortedFields members) = validateManifest p members := by
  obtain ⟨keys, parts⟩ := nodup_of_distinct distinct rfl
  have rows {most : ℕ} {key : Text} {items : List Json}
      (listed : boundedList most (field members key) = some items) : ∀ row ∈ items, row.Distinct :=
    distinct_of_mem_items (parts key) (Option.filter_eq_some_iff.mp listed).1
  simp only [validateManifest, validateHeader_sorted distinct, field_sortedFields keys,
    boundedList_sortKeys, demand_map_bind, candidateRows_sorted distinct, noneOr_textThat_sortKeys]
  refine bind_congr fun _ => demand_bind_congr fun receipts listed => ?_
  rw [foldlM_sortKeys fun row inside seen => receiptRow_sortKeys (rows listed row inside) seen]
  refine bind_congr fun _ => demand_bind_congr fun attestations listed => ?_
  rw [foldlM_sortKeys fun row inside seen => attestationRow_sortKeys (rows listed row inside) seen]
  refine bind_congr fun _ => ?_
  cases read : candidateRows members with
  | error failure => rfl
  | ok candidates =>
    have each : ∀ row ∈ candidates, row.Distinct := by
      simp only [candidateRows, bind_eq_ok, demand_eq_ok, require_eq_ok] at read
      obtain ⟨_, object, _, -, _, -, _, -, listed⟩ := read
      exact distinct_of_mem_items ((parts_of_exactly (parts _) object).2 _)
        (Option.filter_eq_some_iff.mp listed).1
    simp only [Except.map, bind, Except.bind]
    rw [foldlM_sortKeys fun row inside seen => candidateRow_sortKeys (each row inside) seen,
      hotkeysOf_sortKeys each]

end Sorted

/-! ## What was built -/

section Built

variable {p : Platform} {members : List (Text × Json)} {encoded : Bytes}

/-- What the reader takes a document from is legible and not too deep. -/
theorem legible_of_documentOf {document : Json} (read : documentOf p encoded = some document) :
    document.Legible ∧ document.levels ≤ p.readDepth := by
  simp only [documentOf, Option.bind_eq_bind, Option.bind_eq_some_iff, Option.pure_def,
    Option.some.injEq] at read
  obtain ⟨text, decoded, _, loaded, _, shallow, rfl⟩ := read
  refine ⟨?_, (Option.guard_eq_some' _).mp shallow⟩
  exact legible_of_loads (strict_strictPairs _ _ _) (fun _ => rfl) (fun _ => rfl)
    (noSurrogate_of_utf8Decode decoded) loaded

/-- A legible document that is not too deep is read back from its canonical octets. -/
theorem documentOf_of_canonical {document : Json} (distinct : document.Distinct)
    (legible : document.Legible) (shallow : document.levels ≤ p.readDepth)
    (written : canonicalJson p document = some encoded) :
    documentOf p encoded = some document.sortKeys := by
  obtain ⟨text, decoded, read⟩ := loads_canonicalJson legible distinct written
  rw [documentOf, decoded]
  simp only [Option.bind_eq_bind, Option.bind_some, read, levels_sortKeys, shallow, guard_true,
    Option.pure_def]

theorem canonicalJson_sortKeys {document : Json}
    (written : canonicalJson p document = some encoded) :
    canonicalJson p document.sortKeys = some encoded := by
  unfold canonicalJson at written ⊢
  split at written
  case isFalse => cases written
  case isTrue dumpable =>
    rw [if_pos ((sortKeys_sortKeys document).2 dumpable), (sortKeys_sortKeys document).1]
    exact written

theorem distinct_textOrNone (t : Option Text) : (textOrNone t).Distinct := by
  cases t <;> trivial

theorem distinct_textsOrNone (texts : Option (List Text)) : (textsOrNone texts).Distinct := by
  unfold textsOrNone
  split
  · exact distinctItems_iff.mpr (List.forall_mem_map.mpr fun _ _ => trivial)
  · trivial

/-- The document of a manifest repeats no key. -/
theorem distinct_manifestDocument (now : Text) (arguments : Arguments) :
    (Json.obj (manifestDocument now arguments)).Distinct := by
  obtain ⟨receipts, attestations, candidateSet⟩ := arguments.distinct
  have keys : (["schema", "network", "netuid", "source_epoch", "epoch_id", "generated_at",
      "reward_mechanism", "source_revision", "policy_registry", "verifier", "score_report",
      "receipts", "attestations", "candidate_set", "wire_report_sha256"] : List Text).Nodup := by
    decide
  refine ⟨keys, ?_⟩
  have sources := distinct_textOrNone arguments.sourceRevision
  have binary := distinct_textOrNone arguments.verifierBinaryBlob
  have command := distinct_textsOrNone arguments.verifierCommand
  have artifacts := distinct_textsOrNone arguments.verifierArtifacts
  have wire := distinct_textOrNone arguments.wireReportSha256
  simp only [manifestDocument, DistinctMembers, Distinct, List.map_cons, List.map_nil, receipts,
    attestations, candidateSet, sources, binary, command, artifacts, wire, and_true, true_and]
  decide

/-- What the builder has done when it returns. -/
theorem buildManifest_eq_ok {now : Text} {arguments : Arguments}
    (built : buildManifest p now arguments = .ok encoded) :
    validateManifest p (manifestDocument now arguments) = .ok () ∧
      (Json.obj (manifestDocument now arguments)).levels ≤ p.writeDepth ∧
      canonicalJson p (.obj (manifestDocument now arguments)) = some encoded ∧
      encoded.length ≤ maxManifestArtifactBytes := by
  simp only [buildManifest, bind_eq_ok, require_eq_ok, canonicalBytes_eq_ok, pure_eq_ok] at built
  obtain ⟨_, -, _, -, _, -, _, -, _, -, _, valid, _, written, _, small, rfl⟩ := built
  exact ⟨valid, written.1, written.2, small⟩

/-- **Round trip.** The reader returns the document that was built exactly where it is
legible and not too deep. -/
theorem parse_buildManifest {now : Text} {arguments : Arguments}
    (built : buildManifest p now arguments = .ok encoded) :
    (∃ read, parseManifest p encoded = .ok read ∧
      (Json.obj read).Same (.obj (manifestDocument now arguments))) ↔
    (Json.obj (manifestDocument now arguments)).Legible ∧
      (Json.obj (manifestDocument now arguments)).levels ≤ p.readDepth := by
  obtain ⟨valid, shallow, written, small⟩ := buildManifest_eq_ok built
  have distinct := distinct_manifestDocument now arguments
  constructor
  · rintro ⟨read, parsed, same⟩
    obtain ⟨_, -, rest⟩ := bind_eq_ok.mp parsed
    obtain ⟨document, found, rest⟩ := bind_eq_ok.mp rest
    obtain ⟨members, object, rest⟩ := bind_eq_ok.mp rest
    simp only [bind_eq_ok, pure_eq_ok] at rest
    obtain ⟨_, -, _, -, _, -, rfl⟩ := rest
    have whole : document = .obj members := by
      cases document <;> simp_all [membersOfJson, demand]
    subst whole
    obtain ⟨legible, levels⟩ := legible_of_documentOf (demand_eq_ok.mp found)
    constructor
    · rw [← legible_sortKeys, ← same, legible_sortKeys]
      exact legible
    · rw [← levels_sortKeys, ← same, levels_sortKeys]
      exact levels
  · rintro ⟨legible, levels⟩
    have read := documentOf_of_canonical distinct legible levels written
    have sorted : canonicalBytes p (.obj (sortedFields (manifestDocument now arguments))) =
        .ok encoded := by
      rw [← sortKeys_obj, canonicalBytes_eq_ok, levels_sortKeys]
      exact ⟨shallow, canonicalJson_sortKeys written⟩
    have filled : encoded ≠ [] := by
      rintro rfl
      cases read
    refine ⟨sortedFields (manifestDocument now arguments), ?_,
      (sortKeys_sortKeys (.obj (manifestDocument now arguments))).1⟩
    refine bind_eq_ok.mpr ⟨(), require_eq_ok.mpr ⟨filled, small⟩, ?_⟩
    refine bind_eq_ok.mpr ⟨_, demand_eq_ok.mpr read, ?_⟩
    refine bind_eq_ok.mpr ⟨_, rfl, bind_eq_ok.mpr ⟨_, sorted, ?_⟩⟩
    refine bind_eq_ok.mpr ⟨(), require_eq_ok.mpr rfl, bind_eq_ok.mpr ⟨(), ?_, rfl⟩⟩
    exact (validateManifest_sorted distinct).trans valid

end Built

/-! ## The contract of the reader -/

/-- **Manifests.** The reader raises nothing but `EvidenceError`, and returns a manifest
that agrees with its octets and in its hotkeys, exactly at the octets where it does not
break; and it returns the document that was built exactly where that is legible and not
too deep. -/
theorem parse_manifest_contract_iff (p : Platform) :
    (∀ manifestBytes,
      (Raises IsEvidenceError (parseManifest p manifestBytes) ∧
        ∀ members, parseManifest p manifestBytes = .ok members → Agrees p manifestBytes members) ↔
      ¬ Breaks p manifestBytes) ∧
    ∀ now arguments encoded, buildManifest p now arguments = .ok encoded →
      ((∃ members, parseManifest p encoded = .ok members ∧
        (Json.obj members).Same (.obj (manifestDocument now arguments))) ↔
      (Json.obj (manifestDocument now arguments)).Legible ∧
        (Json.obj (manifestDocument now arguments)).levels ≤ p.readDepth) := by
  refine ⟨fun manifestBytes => ?_, fun now arguments encoded => parse_buildManifest⟩
  rw [← parseManifest_raises_iff]
  exact and_iff_left_of_imp fun _ members parsed => agrees_of_parseManifest parsed

/-- A digest of zeros. -/
def sampleDigest : Text := Text.ofString "sha256:" ++ List.replicate 64 0x30

/-- A manifest that gives a list for the disclosure of its attestation. -/
def listedDisclosure : List (Text × Json) :=
  [("attestations", .arr [.obj [("challenge_digest", .null), ("disclosure", .arr []),
      ("envelope_digest", .null), ("evidence_digest", .str sampleDigest),
      ("hotkey", .str (Text.ofString "public-hotkey")),
      ("verdict", .str (Text.ofString "VERIFIED"))]]),
    ("candidate_set", .obj [("block", .int 100),
      ("block_hash", .str (Text.ofString "0x" ++ List.replicate 64 0x61)),
      ("candidates", .arr [.obj [("hotkey", .str (Text.ofString "public-hotkey")),
        ("outcome", .str (Text.ofString "verified")),
        ("reason", .str (Text.ofString "receipt_verified"))]]),
      ("netuid", .int 39), ("network", .str (Text.ofString "finney")),
      ("source", .str (Text.ofString "sn39_metagraph"))]),
    ("epoch_id", .int 1), ("generated_at", .str (Text.ofString "2026-07-14T12:00:00.000000Z")),
    ("netuid", .int 39), ("network", .str (Text.ofString "finney")),
    ("policy_registry", .obj [("blob", .str sampleDigest), ("digest", .str sampleDigest),
      ("release", .int 1)]),
    ("receipts", .arr [.obj [("blob", .str sampleDigest),
      ("hotkey", .str (Text.ofString "public-hotkey")),
      ("receipt_id", .str (Text.ofString "receipt-" ++ sampleDigest)),
      ("result_blob", .str sampleDigest), ("work_item_blob", .str sampleDigest)]]),
    ("reward_mechanism", .obj [("id", .str (Text.ofString "validated_supply_v2")),
      ("revision", .int 1)]),
    ("schema", .str manifestSchema),
    ("score_report", .obj [("blob", .str sampleDigest), ("report_id", .str sampleDigest),
      ("signing_key_id", .str (Text.ofString "score-test-1"))]),
    ("source_epoch", .int 11), ("source_revision", .null),
    ("verifier", .obj [("artifacts", .null), ("binary_blob", .null), ("command", .null),
      ("digest", .str sampleDigest)]),
    ("wire_report_sha256", .null)]

/-- The reader fails on it with `TypeError`. -/
theorem not_contract_listedDisclosure :
    (parseManifest .sample (documentBytes .sample listedDisclosure)).map (fun _ => ()) =
        .error .typeError ∧
      ¬ ∀ manifestBytes, Raises IsEvidenceError (parseManifest .sample manifestBytes) := by
  have failed : (parseManifest .sample (documentBytes .sample listedDisclosure)).map
      (fun _ => ()) = .error .typeError := by decide +kernel
  refine ⟨failed, fun evidence => ?_⟩
  cases parsed : parseManifest .sample (documentBytes .sample listedDisclosure) with
  | ok members => rw [parsed] at failed; cases failed
  | error failure =>
    rw [parsed] at failed
    obtain ⟨_, rfl⟩ := evidence _ _ parsed
    cases failed

end Cathedral.Provenance.EvidenceManifest
