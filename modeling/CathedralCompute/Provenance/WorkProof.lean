import CathedralCompute.Lanes.SatLane

/-!
# Independent replay of SAT work

The published artifacts of a receipt's work are checked end to end: their digests
against the receipt, the item against the producer's own rules, the assignment
against every clause, and the units against the rule that derives them.
-/

set_option autoImplicit false

namespace Cathedral.Provenance

open Codec Semantics

/-- `MAX_WORK_ARTIFACT_BYTES`. -/
def maxWorkArtifactBytes : ℕ := 4 * 1024 * 1024

/-- The hooks of `_strict_canonical_json`: repeated keys and words for numbers
are refused. -/
def workHooks (p : Platform) : Hooks := ⟨pythonInt, p.floats.parse, fun _ => none, strictPairs⟩

theorem faithful_workHooks (p : Platform) : (workHooks p).Faithful (compactStyle p) True where
  ints _ short := pythonInt_intText short
  floats _ q := ⟨p.floats.literal q, p.floats.parse_repr q⟩
  pairs _ distinct := strictPairs_of_nodup distinct

/-- `_strict_canonical_json`; the failures are those of `WorkProofError`, without
the decoder's own text. -/
def strictCanonicalJson (p : Platform) (label : Text) (octets : Bytes) :
    Except Text (List (Text × Json)) := do
  require (octets.length ≤ maxWorkArtifactBytes) (label ++ " is oversized")
  let document ← demand (label ++ " is not strict ASCII JSON")
    ((asciiDecode octets).bind (loads (workHooks p)))
  let members ← demand (label ++ " is not a JSON object") (membersOfJson document)
  require ((document.sortKeys.render (compactStyle p)).ascii = octets)
    (label ++ " bytes are not canonical JSON")
  return members

/-! ## Items -/

/-- A literal of the clause loop of `validate_sat_instance`. -/
def literalOfJson (nVars : ℤ) (literal : Json) : Except Text ℤ := do
  let z ← demand "invalid SAT literal" (intOfJson literal)
  require (z ≠ 0 ∧ |z| ≤ nVars) "invalid SAT literal"
  return z

/-- The clause loop of `validate_sat_instance` over what JSON delivers, with the
literals counted so far. -/
def clausesOfJson (nVars : ℤ) : ℕ → List Json → Except Text (List (List ℤ))
  | _, [] => .ok []
  | literalCount, clause :: clauses => do
    let literals ← demand "invalid SAT clause" (itemsOfJson clause)
    require (literals.length ≤ Sat.maxLiteralsPerClause) "invalid SAT clause"
    require (literalCount + literals.length ≤ Sat.maxLiterals)
      "SAT instance exceeds literal limit"
    let literals ← literals.mapM (literalOfJson nVars)
    let clauses ← clausesOfJson nVars (literalCount + literals.length) clauses
    return literals :: clauses

/-- `validate_sat_work_item` over what JSON delivers, in the order of its checks. -/
def workItemOfJson (p : Platform) (challengeId seed nVars clauses : Json) :
    Except Text SatWorkItem := do
  let challengeId ← demand "invalid SAT challenge_id" (textOfJson challengeId)
  require (challengeId.isHex 64) "invalid SAT challenge_id"
  let seed ← demand "invalid SAT seed" (intOfJson seed)
  require (Sat.minSeed ≤ seed ∧ seed ≤ Sat.maxSeed) "invalid SAT seed"
  let nVars ← demand "invalid SAT n_vars" (intOfJson nVars)
  require (1 ≤ nVars ∧ nVars ≤ Sat.maxNVars) "invalid SAT n_vars"
  let clauses ← demand "invalid SAT clauses" (itemsOfJson clauses)
  require (clauses ≠ [] ∧ clauses.length ≤ Sat.maxClauses) "invalid SAT clauses"
  let clauses ← clausesOfJson nVars 0 clauses
  let item : SatWorkItem := ⟨⟨nVars, clauses⟩, seed, challengeId⟩
  require (Sat.computeChallengeId p item.satInstance seed = challengeId) "challenge_id mismatch"
  require (((Sat.requestDocument item).sortKeys.render (compactStyle p)).length ≤
    Sat.maxCustomerWorkBytes) "SAT work item exceeds request size limit"
  return item

/-! ## Replay -/

/-- What the receipt says of the work. -/
structure WorkExpectation where
  manifestDigest : Text
  resultDigest : Text
  challengeId : Text
  hotkey : Text
  units : Floating

/-- `WORK_ITEM_SCHEMA`. -/
def workItemSchema : Text := "cathedral_sat_manifest_v1"

/-- The first half of `verify_work_artifacts`: the item. -/
def replayItem (p : Platform) (expected : WorkExpectation) (workItemBytes : Bytes) :
    Except Text SatWorkItem := do
  let item ← strictCanonicalJson p "work item" workItemBytes
  require (hasExactly ["schema", "challenge_id", "seed", "instance"] item)
    "work item has missing or unknown fields"
  require (Json.equalsText workItemSchema (Json.lookup "schema" item))
    "work item schema is unsupported"
  require (Json.equalsText expected.challengeId (Json.lookup "challenge_id" item))
    "work item challenge does not match the receipt's challenge binding"
  let instanceDocument ← demand "work item instance is malformed"
    (membersOfJson (field item "instance"))
  require (hasExactly ["n_vars", "clauses"] instanceDocument) "work item instance is malformed"
  let workItem ← (workItemOfJson p (field item "challenge_id") (field item "seed")
    (field instanceDocument "n_vars") (field instanceDocument "clauses")).mapError
      fun message => "work item fails the producer contract: " ++ message
  require (workItem.satInstance.clauses ≠ []) "work item instance bounds are invalid"
  return workItem

/-- The claimed units are a number. -/
def isNumber : Json → Bool
  | .int _ => true
  | .float _ => true
  | _ => false

/-- The second half of `verify_work_artifacts`: the assignment of the result. -/
def replayResult (p : Platform) (expected : WorkExpectation) (satInstance : SatInstance)
    (resultBytes : Bytes) : Except Text (List (Text × Json) × List ℤ) := do
  let result ← strictCanonicalJson p "work result" resultBytes
  require (hasExactly ["assigned_hotkey", "assignment", "challenge_id", "satisfiable",
    "work_units"] result) "work result has missing or unknown fields"
  require (Json.equalsText expected.challengeId (Json.lookup "challenge_id" result))
    "work result challenge does not match the receipt's challenge binding"
  require (Json.equalsText expected.hotkey (Json.lookup "assigned_hotkey" result))
    "work result is assigned to a different hotkey than the receipt subject"
  require (field result "satisfiable").isTrue
    "only satisfiable certificates with checkable witnesses can earn"
  let items ← demand "work result assignment is malformed"
    (itemsOfJson (field result "assignment"))
  require ((items.length : ℤ) = satInstance.nVars) "work result assignment is malformed"
  let assignment ← demand "work result assignment is malformed" (items.mapM intOfJson)
  require (Sat.namesVariables satInstance.nVars assignment)
    "work result assignment does not cover the variables"
  require (Sat.satisfiesClauses satInstance.clauses assignment)
    ("work result assignment does not satisfy every clause; the " ++
      Text.ofString "claimed solve is not real work")
  return (result, assignment)

/-- `Decimal(str(units))`. -/
def decimalOfUnits (p : Platform) (units : ℚ) : Except Text Floating :=
  demand "units are no decimal" (Decimal.parse p.unicodeDigit (p.floats.repr units))

/-- `verify_work_artifacts`. -/
def verifyWorkArtifacts (p : Platform) (r : RandomSource) (workItemBytes resultBytes : Bytes)
    (expected : WorkExpectation) : Except Text Unit := do
  require (sha256Digest workItemBytes = expected.manifestDigest)
    "work-item bytes do not match the receipt's signed manifest digest"
  require (sha256Digest resultBytes = expected.resultDigest)
    "result bytes do not match the receipt's signed result digest"
  let item ← replayItem p expected workItemBytes
  let (result, _) ← replayResult p expected item.satInstance resultBytes
  let derivedUnits ← decimalOfUnits p (Sat.derivedWorkUnits r item)
  require (isNumber (field result "work_units")) "work result units are malformed"
  require (expected.units = derivedUnits)
    "receipt-signed units differ from the units derived under sat_work_units_v1"

end Cathedral.Provenance
