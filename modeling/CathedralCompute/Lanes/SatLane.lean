import CathedralCompute.Lanes.Sat

/-!
# The SAT lane

The lane hands out SAT jobs and checks the certificates that come back. Customer
jobs are queued; when there are none the lane derives an instance from a seed of
its own, satisfiable by construction. What an item is worth is derived from the
item alone, and a certificate is checked by reading every clause once.

The generator behind `random.Random` is outside the repository: it is given by
what `_randbelow` draws.
-/

set_option autoImplicit false

namespace Cathedral

open Codec Semantics

/-- A miner's claimed result for an item. -/
structure SatCertificate where
  satisfiable : Bool
  assignment : Option (List ℤ)
  workUnits : Floating
  challengeId : Text
  assignedHotkey : Text
deriving DecidableEq

/-! ## Drawing -/

/-- `random.Random`: a seeded state, and `_randbelow`. -/
structure RandomSource where
  State : Type
  seeded : ℤ → State
  randbelow : ℕ → State → ℕ × State
  below : ∀ n s, 0 < n → (randbelow n s).1 < n

namespace RandomSource

variable (r : RandomSource)

/-- `choice`. -/
def choice {α : Type} [Inhabited α] (options : List α) : StateM r.State α := do
  let index ← r.randbelow options.length
  return options.getD index default

/-- `sample` on a small pool: the last element of the pool takes the place of the
one drawn. -/
def sample : ℕ → List ℤ → StateM r.State (List ℤ)
  | 0, _ => return []
  | count + 1, pool => do
    let index ← r.randbelow pool.length
    let rest ← sample count (pool.set index (pool.getLastD 0)).dropLast
    return pool.getD index 0 :: rest

end RandomSource

namespace Sat

/-- A literal of a canonical clause: true under the planted assignment for the
chosen variable, of either sign otherwise. -/
def canonicalLiteral (r : RandomSource) (planted : List Bool) (trueVar v : ℤ) :
    StateM r.State ℤ := do
  let positive ← if v = trueVar then pure (planted.getD (v.toNat - 1) true)
    else r.choice [true, false]
  return if positive then v else -v

def canonicalClause (r : RandomSource) (planted : List Bool) : StateM r.State (List ℤ) := do
  let varsInClause ← r.sample 3 [1, 2, 3, 4, 5, 6, 7, 8]
  let trueVar ← r.choice varsInClause
  varsInClause.mapM (canonicalLiteral r planted trueVar)

/-- `_canonical_instance`. -/
def canonicalInstance (r : RandomSource) (seed : ℤ) : SatInstance :=
  let draw : StateM r.State SatInstance := do
    let planted ← (List.range 8).mapM fun _ => r.choice [true, false]
    let clauses ← (List.range 20).mapM fun _ => canonicalClause r planted
    return ⟨8, clauses⟩
  (draw (r.seeded seed)).1

/-- `derived_work_units`, rule `sat_work_units_v1`. -/
def derivedWorkUnits (r : RandomSource) (item : SatWorkItem) : ℚ :=
  if item.satInstance = canonicalInstance r item.seed then item.satInstance.clauses.length
  else customerSatWorkUnits

/-- `_derive_canonical_seed`; `none` where the namespace cannot be encoded. -/
def deriveCanonicalSeed (laneNamespace : Text) (counter : ℕ) : Option ℤ :=
  laneNamespace.utf8.map fun key =>
    (((hmacSha256 key (natText counter).ascii).take 8).foldl
      (fun value octet => value * 256 + octet.toNat) 0 % 2 ^ 63 : ℕ)

/-- Every clause has a literal of the assignment. -/
def satisfiesClauses (clauses : List (List ℤ)) (assignment : List ℤ) : Bool :=
  clauses.all fun clause => clause.any fun literal => literal ∈ assignment

end Sat

/-! ## The lane -/

/-- `SatLane`, with its maps newest first. -/
structure SatLane where
  queue : List SatWorkItem
  laneNamespace : Text
  seedCounter : ℕ
  issuedIds : List Text
  customerIds : List Text
  challengeOwner : List (Text × Text)
  verifiedCredits : List (Text × ℚ)

namespace SatLane

/-- `enqueue`. -/
def enqueue (p : Platform) (lane : SatLane) (item : SatWorkItem) : Except Failure SatLane := do
  (Sat.validateSatWorkItem p item).mapError fun message => .valueError ("enqueue: " ++ message)
  return { lane with
    customerIds := item.challengeId :: lane.customerIds
    queue := lane.queue ++ [item] }

/-- The item is handed to the miner. -/
def issue (lane : SatLane) (miner : Text) (item : SatWorkItem) : SatLane :=
  { lane with
    issuedIds := item.challengeId :: lane.issuedIds
    challengeOwner := (item.challengeId, miner) :: lane.challengeOwner }

/-- `dispatch`. -/
def dispatch (p : Platform) (r : RandomSource) (lane : SatLane) (miner : Text) :
    Except Failure (SatWorkItem × SatLane) :=
  match lane.queue with
  | item :: queue => .ok (item, { lane with queue := queue }.issue miner item)
  | [] => do
    let seed ← demand .unicodeEncodeError
      (Sat.deriveCanonicalSeed lane.laneNamespace lane.seedCounter)
    let satInstance := Sat.canonicalInstance r seed
    let item : SatWorkItem := ⟨satInstance, seed, Sat.computeChallengeId p satInstance seed⟩
    return (item, { lane with seedCounter := lane.seedCounter + 1 }.issue miner item)

/-- The checks of `verify` on who answers which challenge. -/
def accounted (lane : SatLane) (item : SatWorkItem) (result : SatCertificate) : Bool :=
  result.challengeId = item.challengeId ∧ result.challengeId ∈ lane.issuedIds ∧
    (lane.verifiedCredits.lookup result.challengeId).isNone ∧ result.assignedHotkey ≠ [] ∧
    lane.challengeOwner.lookup result.challengeId = some result.assignedHotkey

/-- The checks of `verify` on an assignment. -/
def witnesses (satInstance : SatInstance) (assignment : List ℤ) : Bool :=
  (assignment.length : ℤ) = satInstance.nVars ∧ Sat.namesVariables satInstance.nVars assignment ∧
    Sat.satisfiesClauses satInstance.clauses assignment

/-- `verify`: the certificate with the derived units, and the lane that credits
it. -/
def verify (r : RandomSource) (lane : SatLane) (item : SatWorkItem) (result : SatCertificate) :
    Option (SatCertificate × SatLane) :=
  let units := Sat.derivedWorkUnits r item
  if lane.accounted item result ∧ 0 ≤ units ∧ result.satisfiable = true ∧
      result.assignment.any (witnesses item.satInstance) then
    some ({ result with workUnits := .finite units },
      { lane with verifiedCredits := (result.challengeId, units) :: lane.verifiedCredits })
  else none

/-- One round of `score`: the total and the challenges counted so far. -/
def scoreCertificate (lane : SatLane) (miner : Text) (state : ℚ × List Text)
    (certificate : SatCertificate) : ℚ × List Text :=
  match lane.verifiedCredits.lookup certificate.challengeId with
  | some units =>
    if certificate.challengeId ∉ state.2 ∧
        lane.challengeOwner.lookup certificate.challengeId = some miner then
      (state.1 + units, certificate.challengeId :: state.2)
    else state
  | none => state

/-- `score`. -/
def score (lane : SatLane) (miner : Text) (certificates : List SatCertificate) : ℚ :=
  (certificates.foldl (lane.scoreCertificate miner) (0, [])).1

/-- A lane just created. -/
def fresh (laneNamespace : Text) : SatLane := ⟨[], laneNamespace, 0, [], [], [], []⟩

end SatLane

/-! ## Concrete work -/

namespace Sat

/-- A generator that always draws zero. -/
def sampleRandom : RandomSource := ⟨Unit, fun _ => (), fun _ s => (0, s), fun _ _ h => h⟩

/-- One variable that has to be true. -/
def sampleItem : SatWorkItem where
  satInstance := ⟨1, [[1]]⟩
  seed := 0
  challengeId := "2efa11d4c31a31a5559336c17f8d242285db75a905651cbeacfcada753348749"

end Sat

end Cathedral
