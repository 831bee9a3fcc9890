import CathedralCompute.ScoreClass.Report

/-!
# Recomputing shares from a report

What an independent validator derives from the bytes of a signed score-class
report: it parses them strictly, walks the entries, and divides the external
mass in proportion to the verified work units. The checks behind a report and
behind a receipt reference (registry, signatures, windows, replay of the work)
can only refuse; they are a parameter here.
-/

set_option autoImplicit false

namespace Cathedral.Provenance

open Codec Semantics Ledger ScoreClass

/-- The hooks of `parse_score_report_json`: floats and words for numbers are
refused, and so are repeated keys. -/
def reportHooks : Hooks := ⟨pythonInt, fun _ => none, fun _ => none, strictPairs⟩

/-- `parse_score_report_json`: the members of the report, or `none` where it
raises `ScoreClassError`. -/
def parseScoreReportJson (p : Platform) (data : Bytes) : Option (List (Text × Json)) :=
  if data = [] ∨ maxLaunchScoreReportBytes < data.length then none
  else
    match (utf8Decode false data).bind (loads reportHooks) with
    | some (.obj members) =>
      if canonicalJson p (.obj members) = some data then some members else none
    | _ => none

/-! ## Entries -/

def entryKeys : List Text :=
  ["miner_hotkey", "metrics", "asserted_score", "reason_codes", "evidence"]

/-- `_entry_units`. -/
def entryUnits (p : Platform) (hotkey : Text) (entry : List (Text × Json)) :
    Except Failure ℚ≥0 := do
  let metrics ← demand
    (.provenanceError ("score report entry for " ++ p.repr hotkey ++ " has no metrics"))
    ((Json.lookup "metrics" entry).bind membersOfJson)
  let text ← demand
    (.provenanceError ("verified_work_units for " ++ p.repr hotkey ++ " must be a string"))
    ((Json.lookup "verified_work_units" metrics).bind textOfJson)
  demand (.provenanceError ("invalid verified_work_units for " ++ p.repr hotkey))
    (nonnegative? (Decimal.parse p.unicodeDigit text))

/-- A JSON list of strings. -/
def textsOfJson (value : Json) : Option (List Text) :=
  (itemsOfJson value).bind fun items => items.mapM textOfJson

/-- The single receipt reference a positive entry carries. -/
def receiptReference (p : Platform) (hotkey : Text) (evidence : List Json) :
    Except Failure (List (Text × Json)) := do
  let single ← demand
    (.provenanceError ("positive miner " ++ p.repr hotkey ++
      " must carry exactly one receipt reference"))
    (if evidence.length = 1 then evidence.head? else none)
  let reference ← demand
    (.provenanceError ("positive miner " ++ p.repr hotkey ++
      " must carry exactly one receipt reference"))
    (membersOfJson single)
  require (Json.equalsText receiptSchema (Json.lookup "kind" reference))
    (.provenanceError ("positive miner " ++ p.repr hotkey ++ " evidence kind is not " ++
      receiptSchema))
  require (((Json.lookup "id" reference).bind textOfJson).isSome ∧
      ((Json.lookup "digest" reference).bind textOfJson).isSome)
    (.provenanceError ("positive miner " ++ p.repr hotkey ++ " has malformed evidence"))
  return reference

/-- The checks that can only refuse. -/
structure Checks where
  /-- The report against the registry and the operator's pins. -/
  report : List (Text × Json) → Except Failure Unit
  /-- The receipt a hotkey's reference names, with the units of the entry. -/
  receipt : Text → ℚ≥0 → List (Text × Json) → Except Failure Unit

/-- Checks that refuse nothing. -/
def Checks.none : Checks := ⟨fun _ => .ok (), fun _ _ _ => .ok ()⟩

/-- One entry: its hotkey with its units. -/
def readEntry (p : Platform) (checks : Checks) (seen : List Text) :
    Json → Except Failure (Text × ℚ≥0)
  | .obj entry => do
    require (hasExactly entryKeys entry)
      (.provenanceError "score report entry has missing or unknown fields")
    let hotkey ← demand (.provenanceError "score report entry has an invalid hotkey")
      (((Json.lookup "miner_hotkey" entry).bind textOfJson).filter (· ≠ []))
    require (hotkey ∉ seen)
      (.provenanceError ("score report has a duplicate entry for " ++ p.repr hotkey))
    let units ← entryUnits p hotkey entry
    let _ ← demand (.provenanceError ("score report entry for " ++ p.repr hotkey ++
      " has bad reasons")) ((Json.lookup "reason_codes" entry).bind textsOfJson)
    let evidence ← demand (.provenanceError ("score report entry for " ++ p.repr hotkey ++
      " has bad evidence")) ((Json.lookup "evidence" entry).bind itemsOfJson)
    if 0 < units then
      let reference ← receiptReference p hotkey evidence
      checks.receipt hotkey units reference
      return (hotkey, units)
    else
      require (evidence = [])
        (.provenanceError ("zero-scored miner " ++ p.repr hotkey ++
          " must not carry receipt evidence"))
      return (hotkey, units)
  | _ => .error (.provenanceError "score report entry has missing or unknown fields")

/-- The loop of `verify_and_recompute`: the positive hotkeys with their units, in
the order of the entries. -/
def positiveEntries (p : Platform) (checks : Checks) :
    List Text → List Json → Except Failure (List (Text × ℚ≥0))
  | _, [] => .ok []
  | seen, entry :: entries => do
    let read ← readEntry p checks seen entry
    let positive ← positiveEntries p checks (read.1 :: seen) entries
    return if 0 < read.2 then read :: positive else positive

/-- `_mechanism_validated_supply`, in exact arithmetic. -/
def mechanismValidatedSupply (positive : List (Text × ℚ≥0)) : List (Text × ℚ≥0) :=
  let total := (positive.map Prod.snd).sum
  if total ≤ 0 then [] else positive.map fun entry => (entry.1, entry.2 / total)

/-- `verify_and_recompute`: the recomputed share of every positive hotkey. -/
def verifyAndRecompute (p : Platform) (checks : Checks) (body : Bytes) :
    Except Failure (List (Text × ℚ≥0)) := do
  let document ← demand (.provenanceError "score report is not strict JSON")
    (parseScoreReportJson p body)
  checks.report document
  let entries ← demand (.provenanceError "score report has no entries list")
    ((Json.lookup "entries" document).bind itemsOfJson)
  let positive ← positiveEntries p checks [] entries
  return mechanismValidatedSupply positive

end Cathedral.Provenance
