import CathedralCompute.Lanes.SatLane

/-!
# Work at a remote miner

The validator sends an item to the worker of one miner and reads a certificate
from its answer. The transport delivers the octets of the answer or fails.
-/

set_option autoImplicit false

namespace Cathedral.Remote

open Codec Semantics

def maxHotkeyLength : ℕ := 256

def maxSatResponseBody : ℕ := 64 * 1024

/-- `RemoteMiner`, as far as its work requests read it. -/
structure RemoteMiner where
  hotkey : Text
  maxResponseBody : ℕ
  nonempty : hotkey ≠ []
  bounded : hotkey.length ≤ maxHotkeyLength

/-- `_SAT_RESPONSE_KEYS`. -/
def satResponseKeys : List Text :=
  ["satisfiable", "assignment", "work_units", "challenge_id", "assigned_hotkey"]

/-- The integers that round to a finite float. -/
def maxFloatInteger : ℤ := 2 ^ 1024 - 2 ^ 970

/-- The check of the reported units: a finite number that is not negative. -/
def checkUnits : Json → Except Text Unit
  | .int z => do
    require (|z| < maxFloatInteger) "int too large to convert to float"
    require (0 ≤ z) "sat-work response has invalid work_units"
  | .float (.finite q) => require (0 ≤ q) "sat-work response has invalid work_units"
  | _ => .error "sat-work response has invalid work_units"

/-- One round of `_validate_assignment`, with the variables seen so far. -/
def assignLiteral (nVars : ℤ) (seen : List ℤ) (literal : Json) : Except Text (List ℤ) := do
  let z ← demand "sat-work response has invalid assignment" (intOfJson literal)
  require (z ≠ 0 ∧ |z| ≤ nVars ∧ |z| ∉ seen) "sat-work response has invalid assignment"
  return |z| :: seen

/-- `_validate_assignment`. -/
def validateAssignment (assignment : Json) (nVars : ℤ) : Except Text Unit := do
  let items ← demand "sat-work response has invalid assignment" (itemsOfJson assignment)
  require ((items.length : ℤ) = nVars) "sat-work response has invalid assignment"
  let _ ← items.foldlM (assignLiteral nVars) []

/-- The check of a claimed assignment. -/
def checkAssignment (satisfiable : Bool) (assignment : Json) (nVars : ℤ) : Except Text Unit :=
  if satisfiable then validateAssignment assignment nVars
  else require (Json.isNone (some assignment)) "sat-work response has invalid assignment"

/-- `do_sat_work`, given what the transport delivers for its request. -/
def doSatWork (p : Platform) (miner : RemoteMiner) (item : SatWorkItem)
    (answer : Except Text Bytes) : Except Text SatCertificate := do
  Sat.validateSatWorkItem p item
  let raw ← answer
  require (raw.length ≤ min miner.maxResponseBody maxSatResponseBody)
    "worker response exceeds body limit"
  let decoded ← demand "worker response is not valid JSON"
    (loadsBytes (defaultHooks p) p.decodeWide raw)
  let members ← demand "worker response must be a JSON object" (membersOfJson decoded)
  require (hasExactly satResponseKeys members) "sat-work response has invalid schema"
  require (Json.equalsText item.challengeId (Json.lookup "challenge_id" members))
    "sat-work response challenge_id mismatch"
  require (Json.equalsText miner.hotkey (Json.lookup "assigned_hotkey" members))
    "sat-work response hotkey mismatch"
  let satisfiable ← demand "sat-work response has invalid satisfiable flag"
    (boolOfJson (field members "satisfiable"))
  checkUnits (field members "work_units")
  let assignment := field members "assignment"
  checkAssignment satisfiable assignment item.satInstance.nVars
  return {
    satisfiable := satisfiable
    assignment := intsOfJson assignment
    workUnits := .finite item.satInstance.clauses.length
    challengeId := item.challengeId
    assignedHotkey := miner.hotkey }

end Cathedral.Remote
