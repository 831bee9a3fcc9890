import CathedralCompute.Ledger.CustomerJobs
import CathedralCompute.Lanes.SatWitness

/-!
# Stored payloads and results read back

The two documents a customer job stores, its item and its result, are written
canonically. An item that was accepted reads back as itself, and a result that
was accepted reads back as the assignment that was checked.
-/

set_option autoImplicit false

namespace Cathedral.Ledger

open Codec Semantics Cathedral.Sat

/-! ## Documents -/

theorem clausesOfJson_clausesJson (clauses : List (List ℤ)) :
    clausesOfJson (clausesJson clauses) = some clauses := by
  rw [clausesJson, clausesOfJson]
  induction clauses with
  | nil => rfl
  | cons clause clauses ih => simp [intsOfJson_arr, ih]

/-! ## Items -/

theorem plain_customerItemDocument {item : SatWorkItem}
    (hex : item.challengeId.isHex 64 = true) : (customerItemDocument item).Plain True := by
  refine ⟨by simp, ?_⟩
  simp only [Json.PlainMembers, Json.Plain, plain_clausesJson, noSurrogate_of_isHex hex, true_and,
    and_true]
  decide

theorem itemOfDocument_sortKeys (item : SatWorkItem) :
    itemOfDocument (customerItemDocument item).sortKeys = some item := by
  rw [customerItemDocument, Json.sortKeys, itemOfDocument, hasExactly_sortMembers,
    if_pos (by simp [hasExactly])]
  set members : List (Text × Json) := [("challenge_id", .str item.challengeId),
    ("clauses", clausesJson item.satInstance.clauses), ("n_vars", .int item.satInstance.nVars),
    ("seed", .int item.seed)] with listed
  have distinct : (members.map Prod.fst).Nodup := by simp [listed]
  have nVars := Json.lookup_sortMembers distinct
    (show Json.lookup "n_vars" members = some (.int item.satInstance.nVars) by
      simp [listed, Json.lookup])
  have clauses := Json.lookup_sortMembers distinct
    (show Json.lookup "clauses" members = some (clausesJson item.satInstance.clauses) by
      simp [listed, Json.lookup])
  have seed := Json.lookup_sortMembers distinct
    (show Json.lookup "seed" members = some (.int item.seed) by simp [listed, Json.lookup])
  have challengeId := Json.lookup_sortMembers distinct
    (show Json.lookup "challenge_id" members = some (.str item.challengeId) by
      simp [listed, Json.lookup])
  rw [nVars, clauses, seed, challengeId, sortKeys_clausesJson]
  simp [Json.sortKeys, intOfJson, textOfJson, clausesOfJson_clausesJson]

/-- **Payloads.** An accepted item reads back from its stored body as itself. -/
theorem customerItemFromBody_of_customerItemBody {p : Platform} {item : SatWorkItem} {body : Bytes}
    (written : customerItemBody p item = .ok body) :
    customerItemFromBody p body (sha256Digest body) = .ok item := by
  simp only [customerItemBody, bind_eq_ok, mapError_eq_ok, demand_eq_ok] at written
  obtain ⟨⟨⟩, valid, written⟩ := written
  have hex : item.challengeId.isHex 64 = true := by
    simp only [validateSatWorkItem, bind_eq_ok, require_eq_ok] at valid
    exact valid.choose_spec.1
  have read := loadsBytes_canonicalJson (faithful_strictHooks p) (plain_customerItemDocument hex)
    written
  simp only [customerItemFromBody, bind_eq_ok, require_eq_ok, demand_eq_ok, mapError_eq_ok,
    pure_eq_ok, read, Option.bind_some, itemOfDocument_sortKeys]
  exact ⟨(), trivial, item, rfl, (), valid, rfl⟩

/-! ## Results -/

/-- What an accepted result says. -/
structure AcceptedResult (lease : CustomerJobLease) (result : Mapping) (assignment : List ℤ) :
    Prop where
  keys : hasExactly ["satisfiable", "assignment", "work_units", "challenge_id",
    "assigned_hotkey"] result.members = true
  satisfiable : isBool (Json.lookup "satisfiable" result.members) = true
  workUnits : isCustomerWorkUnits (Json.lookup "work_units" result.members) = true
  challengeId : Json.lookup "challenge_id" result.members = some (.str lease.challengeId)
  hotkey : Json.lookup "assigned_hotkey" result.members = some (.str lease.ownerHotkey)
  listed : Json.lookup "assignment" result.members = some (.arr (assignment.map .int))
  solves : Solves assignment lease.item.satInstance

theorem acceptedResult_of_validate {lease : CustomerJobLease} {result : Mapping} {u : Unit}
    (validated : validateCustomerResult lease result = .ok u) :
    ∃ assignment, AcceptedResult lease result assignment := by
  simp only [validateCustomerResult, bind_eq_ok, require_eq_ok, demand_eq_ok, Json.equalsText_iff]
    at validated
  obtain ⟨-, keys, -, ⟨satisfiable, challengeId, hotkey, workUnits⟩, -, -, assignment, read, -,
    length, -, names, satisfies⟩ := validated
  obtain ⟨value, found, read⟩ := Option.bind_eq_some_iff.mp read
  rw [eq_arr_of_intsOfJson read] at found
  exact ⟨assignment, keys, satisfiable, workUnits, challengeId, hotkey, found,
    solves_of_checks length names satisfies⟩

/-- An accepted result for an encodable challenge and hotkey is a plain
document. -/
theorem AcceptedResult.plain {lease : CustomerJobLease} {result : Mapping} {assignment : List ℤ}
    (accepted : AcceptedResult lease result assignment)
    (challengeId : lease.challengeId.NoSurrogate) (hotkey : lease.ownerHotkey.NoSurrogate) :
    (Json.obj result.members).Plain True := by
  refine ⟨result.distinct, Json.plainMembers_iff.mpr fun member listed => ?_⟩
  obtain ⟨key, value⟩ := member
  have found := (Json.lookup_eq_some result.distinct).mpr listed
  have keys := accepted.keys
  simp only [hasExactly, Bool.decide_and, Bool.and_eq_true, decide_eq_true_eq] at keys
  have known := keys.1 key (List.mem_map.mpr ⟨_, listed, rfl⟩)
  have encodable : key.NoSurrogate := by
    have all : ∀ key ∈ [Text.ofString "satisfiable", Text.ofString "assignment",
        Text.ofString "work_units", Text.ofString "challenge_id", Text.ofString "assigned_hotkey"],
        key.NoSurrogate := by decide
    exact all key known
  refine ⟨encodable, ?_⟩
  simp only [List.mem_cons, List.not_mem_nil, or_false] at known
  rcases known with rfl | rfl | rfl | rfl | rfl
  · have shape := accepted.satisfiable
    rw [found] at shape
    cases value with
    | bool _ => trivial
    | _ => cases shape
  · rw [Option.some.inj (found.symm.trans accepted.listed)]
    exact plain_ints True assignment
  · have shape := accepted.workUnits
    rw [found] at shape
    cases value with
    | int _ => trivial
    | float f =>
      cases f with
      | finite _ => trivial
      | _ => cases shape
    | _ => cases shape
  · rw [Option.some.inj (found.symm.trans accepted.challengeId)]
    exact challengeId
  · rw [Option.some.inj (found.symm.trans accepted.hotkey)]
    exact hotkey

/-- The body is a stored result that assigns the instance and names a challenge
and a hotkey. -/
def ReadsSolution (p : Platform) (body : Bytes) (satInstance : SatInstance)
    (challengeId hotkey : Text) : Prop :=
  ∃ members assignment, loadsBytes (strictHooks p) p.decodeWide body = some (.obj members) ∧
    (Json.lookup "assignment" members).bind intsOfJson = some assignment ∧
    Solves assignment satInstance ∧
    Json.lookup "challenge_id" members = some (.str challengeId) ∧
    Json.lookup "assigned_hotkey" members = some (.str hotkey)

/-- **Results.** An accepted result reads back from its stored body as a solution
of the dispatched instance. -/
theorem AcceptedResult.readsSolution {p : Platform} {lease : CustomerJobLease} {result : Mapping}
    {assignment : List ℤ} {body : Bytes} (accepted : AcceptedResult lease result assignment)
    (challengeId : lease.challengeId.NoSurrogate) (hotkey : lease.ownerHotkey.NoSurrogate)
    (written : canonicalJson p (.obj result.members) = some body) :
    ReadsSolution p body lease.item.satInstance lease.challengeId lease.ownerHotkey := by
  have read := loadsBytes_canonicalJson (faithful_strictHooks p)
    (accepted.plain challengeId hotkey) written
  refine ⟨_, assignment, read, ?_, accepted.solves,
    Json.lookup_sortMembers result.distinct accepted.challengeId,
    Json.lookup_sortMembers result.distinct accepted.hotkey⟩
  rw [Json.lookup_sortMembers result.distinct accepted.listed, sortKeys_ints, Option.bind_some,
    intsOfJson_arr]

end Cathedral.Ledger
