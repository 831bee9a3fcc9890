import CathedralCompute.Platform

/-!
# SAT work items

Customer work is a SAT instance in DIMACS form with the seed it came from and
the challenge id both hash to. An item is validated wherever it crosses a
durable or network boundary; the validation also recomputes the challenge id and
bounds the size of the request that will carry the item to a worker.
-/

set_option autoImplicit false

namespace Cathedral

open Codec Semantics

/-- A CNF instance: literals are signed variable numbers. -/
structure SatInstance where
  nVars : ℤ
  clauses : List (List ℤ)
deriving DecidableEq

/-- A dispatched SAT job. -/
structure SatWorkItem where
  satInstance : SatInstance
  seed : ℤ
  challengeId : Text
deriving DecidableEq

namespace Sat

def maxNVars : ℤ := 512

def maxClauses : ℕ := 8192

def maxLiterals : ℕ := 65536

def maxLiteralsPerClause : ℕ := 1024

def minSeed : ℤ := -2 ^ 63

def maxSeed : ℤ := 2 ^ 63 - 1

def maxCustomerWorkBytes : ℕ := 60 * 1024

/-- `CUSTOMER_SAT_WORK_UNITS`. -/
def customerSatWorkUnits : ℚ := 20

/-- The clauses as a JSON array of arrays. -/
def clausesJson (clauses : List (List ℤ)) : Json := .arr (clauses.map fun c => .arr (c.map .int))

/-- `_compute_challenge_id`: the hash of instance and seed, written with the
default separators. -/
def computeChallengeId (p : Platform) (satInstance : SatInstance) (seed : ℤ) : Text :=
  let payload : Json := .obj
    [("n_vars", .int satInstance.nVars), ("clauses", clausesJson satInstance.clauses),
      ("seed", .int seed)]
  hexdigest (payload.sortKeys.render (spacedStyle p)).ascii

/-- The clause loop of `validate_sat_instance`, with the literals counted so
far. -/
def validateClauses (nVars : ℤ) : ℕ → List (List ℤ) → Except Text Unit
  | _, [] => .ok ()
  | literalCount, clause :: clauses => do
    require (clause.length ≤ maxLiteralsPerClause) "invalid SAT clause"
    require (literalCount + clause.length ≤ maxLiterals) "SAT instance exceeds literal limit"
    require (∀ literal ∈ clause, literal ≠ 0 ∧ |literal| ≤ nVars) "invalid SAT literal"
    validateClauses nVars (literalCount + clause.length) clauses

/-- `validate_sat_instance`. -/
def validateSatInstance (satInstance : SatInstance) : Except Text Unit := do
  require (1 ≤ satInstance.nVars ∧ satInstance.nVars ≤ maxNVars) "invalid SAT n_vars"
  require (satInstance.clauses ≠ [] ∧ satInstance.clauses.length ≤ maxClauses)
    "invalid SAT clauses"
  validateClauses satInstance.nVars 0 satInstance.clauses

/-- The literals name every variable up to `nVars` and no other. -/
def namesVariables (nVars : ℤ) (assignment : List ℤ) : Prop :=
  (∀ literal ∈ assignment, 1 ≤ |literal| ∧ |literal| ≤ nVars) ∧
    ∀ v ∈ List.range nVars.toNat, ∃ literal ∈ assignment, |literal| = (v : ℤ) + 1

instance (nVars : ℤ) (assignment : List ℤ) : Decidable (namesVariables nVars assignment) :=
  inferInstanceAs (Decidable (_ ∧ _))

/-- The request that would carry the item, at the longest hotkey. -/
def requestDocument (item : SatWorkItem) : Json := .obj
  [("challenge_id", .str item.challengeId),
    ("assigned_hotkey", .str (List.replicate 256 0x78)),
    ("seed", .int item.seed),
    ("instance", .obj
      [("n_vars", .int item.satInstance.nVars),
        ("clauses", clausesJson item.satInstance.clauses)])]

/-- `validate_sat_work_item`. -/
def validateSatWorkItem (p : Platform) (item : SatWorkItem) : Except Text Unit := do
  require (item.challengeId.isHex 64) "invalid SAT challenge_id"
  require (minSeed ≤ item.seed ∧ item.seed ≤ maxSeed) "invalid SAT seed"
  validateSatInstance item.satInstance
  require (computeChallengeId p item.satInstance item.seed = item.challengeId)
    "challenge_id mismatch"
  require (((requestDocument item).sortKeys.render (compactStyle p)).length ≤ maxCustomerWorkBytes)
    "SAT work item exceeds request size limit"

end Sat

end Cathedral
