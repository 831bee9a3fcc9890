import CathedralCompute.Provenance.Recompute
import CathedralCompute.Remote.SatWork
import CathedralCompute.Sample
import Mathlib.Algebra.Order.BigOperators.Group.List
import Mathlib.Tactic.FieldSimp
import Mathlib.Tactic.Linarith

/-!
# Comparing a signed vector with a recomputation

An independent validator reads the rows of the publisher's weight vector and the
signed policy blocks around them, and compares the shares of the rows with the ones
it recomputed. Every row is checked before anything is compared, so that what is
compared is the whole vector. Rows are weights before the burn: they sum to one when
the epoch has verified supply, and to nothing otherwise.

Numbers are exact; the messages leave out the numbers they quote.

## Main definitions

* `readRows`, `checkVector`, `compareWithVector` — the comparison
* `Agreement` — what agreement says of the rows and the recomputed shares

## Main results

* `readRows_eq_ok` — rows are read one by one, and repeat neither hotkey nor uid
* `compare_with_vector_agrees` — agreement bounds every share, and does not depend on
  the order of the rows
-/

set_option autoImplicit false

namespace Cathedral.Provenance

open Codec Semantics

/-! ## Outcomes -/

/-- Why a comparison stops before the shares. -/
inductive Stop where
  | refuse (message : Text)
  | raise (failure : Failure)

abbrev Compared := Except Stop

/-- What a comparison reports. -/
inductive Discrepancy where
  | refusal (message : Text)
  | share (hotkey : Text) (mine theirs : ℚ)
  deriving DecidableEq

/-- The fields of a `ProvenanceResult` that the comparison reads. -/
structure ProvenanceResult where
  mechanismId : Text
  mechanismRevision : ℤ
  sourceEpoch : ℤ
  recomputedHotkeyWeights : List (Text × ℚ)
  distinct : (recomputedHotkeyWeights.map Prod.fst).Nodup

/-- `recomputed.get(hotkey, 0.0)`. -/
def ProvenanceResult.share (result : ProvenanceResult) (hotkey : Text) : ℚ :=
  (result.recomputedHotkeyWeights.lookup hotkey).getD 0

/-- `MECHANISM_REVISIONS`. -/
def mechanismRevisions : List (Text × ℤ) :=
  [("validated_supply_v1", 1), ("validated_supply_v2", 1)]

/-- `_FIXED_POLICY_ABS_TOL`. -/
def fixedPolicyAbsTol : ℚ := 1 / 10 ^ 12

/-- `math.isclose` without a relative tolerance. -/
def isclose (a b absTol : ℚ) : Bool := |a - b| ≤ absTol

/-- A check with the caller's tolerance, which may not be negative. -/
def requireClose (a b absTol : ℚ) (message : Text) : Compared Unit := do
  require (0 ≤ absTol) (.raise (.valueError "tolerances must be non-negative"))
  require (isclose a b absTol) (.refuse message)

/-! ## Numbers -/

/-- `float` of an integer. -/
def floatOfInt (z : ℤ) : Compared ℚ := do
  require (|z| < Remote.maxFloatInteger) (.raise .overflowError)
  return z

/-- `_row_component`. -/
def rowComponent (p : Platform) (members : List (Text × Json)) (hotkey name : Text) :
    Compared ℚ :=
  let row : Text := "signed vector row for " ++ p.repr hotkey
  match Json.lookup name members with
  | none => .error (.refuse (row ++ " lacks an explicit " ++ name))
  | some (.int z) => do
    let number ← floatOfInt z
    require (0 ≤ number) (.refuse (row ++ " is negative (" ++ name ++ ")"))
    return number
  | some (.float (.finite q)) => do
    require (0 ≤ q) (.refuse (row ++ " is negative (" ++ name ++ ")"))
    return q
  | some (.float _) => .error (.refuse (row ++ " is non-finite (" ++ name ++ ")"))
  | some _ => .error (.refuse (row ++ " is not numeric (" ++ name ++ ")"))

/-- `_policy_number`. -/
def policyNumber : Option Json → Compared (Option ℚ)
  | some (.int z) => (floatOfInt z).map some
  | some (.float (.finite q)) => .ok (some q)
  | _ => .ok none

/-- `_normalized_sha256_hex`. -/
def normalizedSha256Hex (p : Platform) (t : Text) : Option Text :=
  let hex := Text.removeHead "sha256:" (p.lower t.strip)
  if Text.isHex 64 hex then some hex else none

/-! ## Rows -/

/-- A row that passed its checks. -/
structure VectorRow where
  hotkey : Text
  weight : ℚ
  base : ℚ
  external : ℚ
  uid : Option ℤ

/-- `_VECTOR_ROW_FIELDS`. -/
def vectorRowFields : List Text :=
  ["miner_hotkey", "weight", "base_component", "external_component", "uid"]

/-- The uid of a row, if it has one. -/
def rowUid (p : Platform) (seen : List ℤ) (members : List (Text × Json)) (hotkey : Text) :
    Compared (Option ℤ) :=
  let invalid : Stop := .refuse ("signed vector row for " ++ p.repr hotkey ++ " has an invalid uid")
  match Json.lookup "uid" members with
  | none => .ok none
  | some (.int z) => do
    require (0 ≤ z) invalid
    require (z ∉ seen) (.refuse ("signed vector duplicates uid " ++ intText z))
    return some z
  | some _ => .error invalid

/-- One round of the loop over the rows. -/
def readRow (p : Platform) (seenHotkeys : List Text) (seenUids : List ℤ) (item : Json) :
    Compared VectorRow := do
  let members ← demand (.refuse "signed vector weight row is not an object") (membersOfJson item)
  require (∀ key ∈ members.map Prod.fst, key ∈ vectorRowFields)
    (.refuse "signed vector row carries unknown fields")
  let hotkey ← demand (.refuse "signed vector weight row has no miner_hotkey")
    (((Json.lookup "miner_hotkey" members).bind textOfJson).filter (· ≠ []))
  require (hotkey ∉ seenHotkeys)
    (.refuse ("signed vector duplicates hotkey " ++ p.repr hotkey))
  let weight ← rowComponent p members hotkey "weight"
  let base ← rowComponent p members hotkey "base_component"
  let external ← rowComponent p members hotkey "external_component"
  require (isclose weight (base + external) fixedPolicyAbsTol)
    (.refuse ("signed vector row for " ++ p.repr hotkey ++ " does not compose"))
  require (base = 0)
    (.refuse ("signed vector row for " ++ p.repr hotkey ++ " has base_component"))
  let uid ← rowUid p seenUids members hotkey
  return ⟨hotkey, weight, base, external, uid⟩

/-- The loop over the rows. -/
def readRows (p : Platform) : List Text → List ℤ → List Json → Compared (List VectorRow)
  | _, _, [] => .ok []
  | seenHotkeys, seenUids, item :: items => do
    let row ← readRow p seenHotkeys seenUids item
    let rows ← readRows p (row.hotkey :: seenHotkeys) (row.uid.toList ++ seenUids) items
    return row :: rows

def totalWeight (rows : List VectorRow) : ℚ := (rows.map VectorRow.weight).sum

def totalBase (rows : List VectorRow) : ℚ := (rows.map VectorRow.base).sum

def totalExternal (rows : List VectorRow) : ℚ := (rows.map VectorRow.external).sum

/-! ## Policy blocks -/

/-- A member that is an object. -/
def block (members : List (Text × Json)) (key : Text) : Option (List (Text × Json)) :=
  (Json.lookup key members).bind membersOfJson

/-- The member is the text. -/
def states (members : List (Text × Json)) (key value : Text) : Bool :=
  Json.equalsText value (Json.lookup key members)

/-- The member is `True`. -/
def confirms (members : List (Text × Json)) (key : Text) : Bool :=
  (Json.lookup key members).any Json.isTrue

/-- The check of `forced_burn_percentage`. -/
def checkPercentage (value : Option Json) : Compared Unit :=
  let violated : Stop :=
    .refuse "signed vector forced_burn_percentage violates the fixed validated_supply_v2 floor"
  match value with
  | some (.int z) => do
    let percentage ← floatOfInt z
    require (isclose percentage 10 fixedPolicyAbsTol) violated
  | some (.float (.finite q)) => require (isclose q 10 fixedPolicyAbsTol) violated
  | some (.float _) => .error violated
  | _ => .error (.refuse "signed vector forced_burn_percentage is not numeric")

/-- The checks of `burn_snapshot`; the hotkey that the burn goes to. -/
def checkBurnSnapshot (vector : List (Text × Json)) : Compared Text := do
  let snapshot ← demand
    (.refuse ("signed vector burn_snapshot is missing or malformed (exactly burn_uid, " ++
      "burn_hotkey, and forced_burn_percentage are required)"))
    ((block vector "burn_snapshot").filter
      (hasExactly ["burn_uid", "burn_hotkey", "forced_burn_percentage"]))
  require (Json.isNone (Json.lookup "burn_uid" snapshot))
    (.refuse ("signed vector burn_uid must be null: validated_supply_v2 resolves the burn " ++
      "destination by hotkey against the live metagraph, and validators reject a " ++
      "pinned historical burn uid"))
  let hotkey ← demand
    (.refuse ("signed vector burn_hotkey must be the nonempty configured burn destination " ++
      "hotkey"))
    (((Json.lookup "burn_hotkey" snapshot).bind textOfJson).filter (· ≠ []))
  checkPercentage (Json.lookup "forced_burn_percentage" snapshot)
  return hotkey

/-- The checks of `validated_supply`. -/
def checkValidatedSupply (metadata : List (Text × Json)) (burnHotkey : Text) : Compared Unit := do
  let supply ← demand
    (.refuse "signed vector policy_metadata.validated_supply block is missing")
    (block metadata "validated_supply")
  require (hasExactly ["contract_version", "intel_tdx_allocation", "fixed_burn_allocation",
      "burn_hotkey"] supply)
    (.refuse "signed vector validated_supply policy fields mismatch")
  require (states supply "contract_version" "v2")
    (.refuse "signed vector validated_supply contract_version is unsupported (v2 only)")
  let tdx ← policyNumber (Json.lookup "intel_tdx_allocation" supply)
  let burn ← policyNumber (Json.lookup "fixed_burn_allocation" supply)
  require (∃ t ∈ tdx, ∃ b ∈ burn, isclose t (9 / 10) fixedPolicyAbsTol ∧
      isclose b (1 / 10) fixedPolicyAbsTol ∧ isclose (t + b) 1 fixedPolicyAbsTol)
    (.refuse ("signed vector validated_supply allocations must be exactly 0.90 Intel TDX + " ++
      "fixed 0.10 burn"))
  require (states supply "burn_hotkey" burnHotkey)
    (.refuse ("signed vector validated_supply burn_hotkey does not match the burn_snapshot " ++
      "destination"))

/-- The checks of `confidential_primary`. -/
def checkConfidentialPrimary (metadata : List (Text × Json)) (supplied : Bool) :
    Compared Unit := do
  let confidential ← demand
    (.refuse ("signed vector policy_metadata.confidential_primary block is missing; the " ++
      "validated_supply_v2 pin requires confidential_primary evidence"))
    (block metadata "confidential_primary")
  require (states confidential "contract_version" "v1")
    (.refuse "signed vector confidential_primary contract_version is unsupported")
  require (states confidential "source" "cathedral_confidential_tdx")
    (.refuse "signed vector confidential_primary source is not cathedral_confidential_tdx")
  let baseMass ← policyNumber (Json.lookup "base_mass" confidential)
  require (baseMass = some 0) (.refuse "signed vector confidential_primary base_mass must be 0")
  let mass ← policyNumber (Json.lookup "confidential_mass" confidential)
  require (mass = some (if supplied then 1 else 0))
    (.refuse ("signed vector confidential_primary confidential_mass does not match the " ++
      "recomputed epoch supply"))
  require (supplied → states confidential "mode" "confidential_primary" ∧
      confirms confidential "complete" ∧ confirms confidential "fresh" ∧
      confirms confidential "confirmed")
    (.refuse ("signed vector confidential_primary mass=1 requires mode=confidential_primary " ++
      "with complete/fresh/confirmed all true"))

/-- A digest in a member. -/
def digestMember (p : Platform) (members : List (Text × Json)) (key : Text) : Option Text :=
  ((Json.lookup key members).bind textOfJson).bind (normalizedSha256Hex p)

/-- The checks of `external_scores`. -/
def checkExternalScores (p : Platform) (metadata : List (Text × Json)) (sourceEpoch : ℤ)
    (wireReportSha256 : Option Text) : Compared Unit := do
  let status ← demand
    (.refuse "signed vector policy_metadata.external_scores block is missing")
    (block metadata "external_scores")
  require (confirms status "enabled")
    (.refuse "signed vector external_scores.enabled is not true")
  require (states status "source" "cathedral_confidential_tdx")
    (.refuse "signed vector external_scores source is not cathedral_confidential_tdx")
  require (states status "mode" "confidential_primary")
    (.refuse "signed vector external_scores mode is not confidential_primary")
  require (confirms status "latest_complete")
    (.refuse ("signed vector external_scores.latest_complete is not true; only a complete " ++
      "ingested snapshot can back the vector"))
  let epoch ← demand (.refuse "signed vector external_scores.latest_epoch is not an integer")
    ((Json.lookup "latest_epoch" status).bind intOfJson)
  require (epoch = sourceEpoch)
    (.refuse ("signed vector is bound to ingested source epoch " ++ intText epoch ++
      ", not the verified evidence epoch " ++ intText sourceEpoch ++
      "; same proportions never prove the same epoch"))
  require (digestMember p status "latest_report_sha256").isSome
    (.refuse ("signed vector external_scores.latest_report_sha256 is missing or malformed; the " ++
      "vector must identify its ingested report"))
  let manifest ← demand
    (.refuse ("evidence manifest carries no publisher ingest report digest " ++
      "(wire_report_sha256); the signed vector cannot be bound to the verified epoch's ingest"))
    (wireReportSha256.bind (normalizedSha256Hex p))
  let body ← demand
    (.refuse ("signed vector external_scores.latest_body_sha256 is missing or malformed; " ++
      "exact authenticated report-body binding is required"))
    (digestMember p status "latest_body_sha256")
  require (body = manifest)
    (.refuse ("signed vector external_scores.latest_body_sha256 does not match the evidence " ++
      "manifest's wire_report_sha256; the vector was built from a DIFFERENT ingested " ++
      "report body"))

/-- The checks of the masses of the rows. -/
def checkMasses (rows : List VectorRow) (supplied : Bool) (absTol : ℚ) : Compared Unit := do
  requireClose (totalBase rows) 0 absTol
    ("signed vector carries non-confidential base mass; validated_supply_v2 pays only " ++
      "the verified confidential class plus the fixed burn")
  requireClose (totalWeight rows) (if supplied then 1 else 0) absTol
    (if supplied then
      ("signed vector does not conserve emission: pre-burn weights do not sum to 1.0 " ++
        "(the 10% burn is applied at UID-mapping time, never in the rows)")
    else "signed vector carries positive mass while the recomputation has no verified " ++
      "supply; every row must be an explicit zero revocation")
  require (supplied → 0 < totalExternal rows)
    (.refuse ("signed vector assigns no confidential external mass while the recomputation has " ++
      "verified supply"))

/-! ## The comparison -/

/-- Everything before the shares: the rows of the vector. -/
def checkVector (p : Platform) (result : ProvenanceResult) (vector : List (Text × Json))
    (wireReportSha256 : Option Text) (absTol : ℚ) : Compared (List VectorRow) := do
  require (mechanismRevisions.lookup result.mechanismId = some result.mechanismRevision)
    (.refuse ("unsupported mechanism pair (" ++ p.repr result.mechanismId ++ ", revision=" ++
      intText result.mechanismRevision ++ "): this comparison validates the " ++
      "(validated_supply_v1, revision=1), (validated_supply_v2, revision=1) vector contract only"))
  let items ← demand (.refuse "signed vector has no weights list")
    ((Json.lookup "weights" vector).bind itemsOfJson)
  let rows ← readRows p [] [] items
  let burnHotkey ← checkBurnSnapshot vector
  let metadata ← demand
    (.refuse ("signed vector carries no policy_metadata; the validated_supply_v2 contract " ++
      "requires the signed validated_supply, confidential_primary, and external_scores " ++
      "policy blocks"))
    (block vector "policy_metadata")
  checkValidatedSupply metadata burnHotkey
  let supplied := !result.recomputedHotkeyWeights.isEmpty
  checkConfidentialPrimary metadata supplied
  checkExternalScores p metadata result.sourceEpoch wireReportSha256
  require (states metadata "score_source" "confidential_primary:cathedral_confidential_tdx")
    (.refuse "signed vector score_source is not confidential_primary:cathedral_confidential_tdx")
  require (burnHotkey ∉ rows.map VectorRow.hotkey)
    (.refuse ("signed vector burn hotkey " ++ p.repr burnHotkey ++
      " is reused as a miner hotkey; the burn destination must never earn"))
  checkMasses rows supplied absTol
  return rows

/-- The external weight of a hotkey. -/
def externalOf (rows : List VectorRow) (hotkey : Text) : ℚ :=
  ((rows.map fun row => (row.hotkey, row.external)).lookup hotkey).getD 0

/-- `vector_share`. -/
def vectorShare (rows : List VectorRow) : List (Text × ℚ) :=
  if 0 < totalExternal rows then
    (rows.filter fun row => 0 < row.external).map fun row =>
      (row.hotkey, row.external / totalExternal rows)
  else []

/-- The hotkeys whose shares are not close, in order. -/
def shareDiscrepancies (result : ProvenanceResult) (rows : List VectorRow) (absTol : ℚ) :
    List Discrepancy :=
  let hotkeys := (result.recomputedHotkeyWeights.map Prod.fst ++
    (vectorShare rows).map Prod.fst).dedup.insertionSort (· ≤ ·)
  hotkeys.filterMap fun hotkey =>
    let mine := result.share hotkey
    let theirs := ((vectorShare rows).lookup hotkey).getD 0
    if isclose mine theirs absTol then none else some (.share hotkey mine theirs)

/-- `compare_with_vector`. -/
def compareWithVector (p : Platform) (result : ProvenanceResult) (vector : List (Text × Json))
    (wireReportSha256 : Option Text) (absTol : ℚ) : Except Failure (Bool × List Discrepancy) :=
  match checkVector p result vector wireReportSha256 absTol with
  | .error (.raise failure) => .error failure
  | .error (.refuse message) => .ok (false, [.refusal message])
  | .ok rows =>
    let discrepancies := shareDiscrepancies result rows absTol
    .ok (discrepancies.isEmpty, discrepancies)

/-! ## What was read -/

variable {p : Platform} {result : ProvenanceResult} {vector : List (Text × Json)}
variable {wireReportSha256 : Option Text} {absTol : ℚ} {rows : List VectorRow}

theorem nonneg_of_rowComponent {members : List (Text × Json)} {hotkey name : Text} {number : ℚ}
    (read : rowComponent p members hotkey name = .ok number) : 0 ≤ number := by
  unfold rowComponent at read
  split at read
  · cases read
  · simp only [bind_eq_ok, require_eq_ok, pure_eq_ok] at read
    obtain ⟨_, -, _, nonneg, rfl⟩ := read
    exact nonneg
  · simp only [bind_eq_ok, require_eq_ok, pure_eq_ok] at read
    obtain ⟨_, nonneg, rfl⟩ := read
    exact nonneg
  · cases read
  · cases read

theorem rowUid_eq_ok {seen : List ℤ} {members : List (Text × Json)} {hotkey : Text}
    {uid : Option ℤ} : rowUid p seen members hotkey = .ok uid ↔
      rowUid p [] members hotkey = .ok uid ∧ ∀ z ∈ uid, z ∉ seen := by
  unfold rowUid
  split
  · constructor
    · rintro ⟨⟩
      exact ⟨rfl, fun _ none => absurd none (Option.not_mem_none _)⟩
    · exact And.left
  · simp only [bind_eq_ok, require_eq_ok, pure_eq_ok]
    constructor
    · rintro ⟨_, valid, _, fresh, rfl⟩
      exact ⟨⟨(), valid, (), List.not_mem_nil, rfl⟩, fun _ same => Option.some.inj same ▸ fresh⟩
    · rintro ⟨⟨_, valid, _, -, rfl⟩, fresh⟩
      exact ⟨(), valid, (), fresh _ rfl, rfl⟩
  · constructor
    · rintro ⟨⟩
    · rintro ⟨⟨⟩, -⟩

/-- A row is read on its own, but for the hotkeys and uids before it. -/
theorem readRow_eq_ok {seenHotkeys : List Text} {seenUids : List ℤ} {item : Json}
    {row : VectorRow} : readRow p seenHotkeys seenUids item = .ok row ↔
      readRow p [] [] item = .ok row ∧ row.hotkey ∉ seenHotkeys ∧
        ∀ uid ∈ row.uid, uid ∉ seenUids := by
  simp only [readRow, bind_eq_ok, demand_eq_ok, require_eq_ok, pure_eq_ok]
  constructor
  · rintro ⟨members, object, _, known, hotkey, named, _, fresh, weight, weighed, base, based,
      external, bought, _, composed, _, zero, uid, numbered, rfl⟩
    obtain ⟨numbered, unused⟩ := rowUid_eq_ok.mp numbered
    exact ⟨⟨members, object, (), known, hotkey, named, (), List.not_mem_nil, weight, weighed, base,
      based, external, bought, (), composed, (), zero, uid, numbered, rfl⟩, fresh, unused⟩
  · rintro ⟨⟨members, object, _, known, hotkey, named, _, -, weight, weighed, base, based,
      external, bought, _, composed, _, zero, uid, numbered, rfl⟩, fresh, unused⟩
    exact ⟨members, object, (), known, hotkey, named, (), fresh, weight, weighed, base, based,
      external, bought, (), composed, (), zero, uid, rowUid_eq_ok.mpr ⟨numbered, unused⟩, rfl⟩

theorem filterMap_uid_cons (row : VectorRow) (others : List VectorRow) :
    (row :: others).filterMap VectorRow.uid =
      row.uid.toList ++ others.filterMap VectorRow.uid := by
  cases numbered : row.uid with
  | none => exact List.filterMap_cons_none numbered
  | some uid => exact List.filterMap_cons_some numbered

/-- The rows are read one by one, and repeat neither hotkey nor uid. -/
theorem readRows_eq_ok {seenHotkeys : List Text} {seenUids : List ℤ} {items : List Json} :
    readRows p seenHotkeys seenUids items = .ok rows ↔
      List.Forall₂ (fun item row => readRow p [] [] item = .ok row) items rows ∧
      (rows.map VectorRow.hotkey).Nodup ∧ (rows.filterMap VectorRow.uid).Nodup ∧
      (∀ row ∈ rows, row.hotkey ∉ seenHotkeys) ∧
      ∀ uid ∈ rows.filterMap VectorRow.uid, uid ∉ seenUids := by
  induction items generalizing seenHotkeys seenUids rows with
  | nil =>
    rw [readRows]
    constructor
    · rintro ⟨⟩
      exact ⟨.nil, List.nodup_nil, List.nodup_nil, List.forall_mem_nil _, List.forall_mem_nil _⟩
    · rintro ⟨matched, -⟩
      cases matched
      rfl
  | cons item items ih =>
    simp only [readRows, bind_eq_ok, pure_eq_ok, ih]
    constructor
    · -- the rest is read with this row among those seen
      rintro ⟨row, read, others, ⟨matched, hotkeys, uids, fresh, unused⟩, rfl⟩
      obtain ⟨alone, newHotkey, newUid⟩ := readRow_eq_ok.mp read
      refine ⟨.cons alone matched, List.nodup_cons.mpr ⟨?_, hotkeys⟩, ?_, ?_, ?_⟩
      · rintro repeated
        obtain ⟨other, member, same⟩ := List.mem_map.mp repeated
        exact fresh other member (same ▸ List.mem_cons_self)
      · rw [filterMap_uid_cons]
        refine List.nodup_append.mpr ⟨row.uid.toList_nodup, uids, ?_⟩
        rintro uid mine _ theirs rfl
        exact unused uid theirs (List.mem_append_left _ mine)
      · rintro other member
        obtain rfl | member := List.mem_cons.mp member
        · exact newHotkey
        · exact fun seen => fresh other member (List.mem_cons_of_mem _ seen)
      · rw [filterMap_uid_cons]
        rintro uid member
        obtain mine | theirs := List.mem_append.mp member
        · exact newUid uid (Option.mem_toList.mp mine)
        · exact fun seen => unused uid theirs (List.mem_append_right _ seen)
    · -- a row apart from the later ones may be seen before them
      rintro ⟨matched, hotkeys, uids, fresh, unused⟩
      cases matched with
      | @cons _ row _ others alone matched =>
      obtain ⟨newHotkey, hotkeys⟩ := List.nodup_cons.mp hotkeys
      rw [filterMap_uid_cons] at uids unused
      obtain ⟨-, uids, apart⟩ := List.nodup_append.mp uids
      refine ⟨row, readRow_eq_ok.mpr ⟨alone, fresh row List.mem_cons_self, fun uid mine =>
          unused uid (List.mem_append_left _ (Option.mem_toList.mpr mine))⟩,
        others, ⟨matched, hotkeys, uids, ?_, ?_⟩, rfl⟩
      · rintro other member seen
        obtain same | seen := List.mem_cons.mp seen
        · exact newHotkey (same ▸ List.mem_map_of_mem member)
        · exact fresh other (List.mem_cons_of_mem _ member) seen
      · rintro uid theirs seen
        obtain mine | seen := List.mem_append.mp seen
        · exact apart uid mine uid theirs rfl
        · exact unused uid (List.mem_append_right _ theirs) seen

/-- What the checks of a row say of its components. -/
structure VectorRow.Composed (row : VectorRow) : Prop where
  base_eq : row.base = 0
  external_nonneg : 0 ≤ row.external
  weight_close : |row.weight - row.external| ≤ fixedPolicyAbsTol

theorem composed_of_readRow {item : Json} {row : VectorRow}
    (read : readRow p [] [] item = .ok row) : row.Composed := by
  simp only [readRow, bind_eq_ok, require_eq_ok, pure_eq_ok] at read
  obtain ⟨_, -, _, -, _, -, _, -, weight, -, base, -, external, bought, _, close, _, zero, _, -,
    rfl⟩ := read
  refine ⟨zero, nonneg_of_rowComponent bought, ?_⟩
  rw [zero, zero_add] at close
  exact of_decide_eq_true close

/-! ## Shares -/

theorem lookup_eq_none_of_not_mem {entries : List (Text × ℚ)} {hotkey : Text}
    (unlisted : hotkey ∉ entries.map Prod.fst) : entries.lookup hotkey = none := by
  rw [List.lookup_eq_none_iff]
  rintro ⟨key, value⟩ member
  have differ : hotkey ≠ key := by
    rintro rfl
    exact unlisted (List.mem_map_of_mem (f := Prod.fst) member)
  exact bne_iff_ne.mpr differ

theorem totalExternal_nonneg (composed : ∀ row ∈ rows, row.Composed) : 0 ≤ totalExternal rows :=
  List.sum_nonneg (List.forall_mem_map.mpr fun row member => (composed row member).external_nonneg)

/-- Absent hotkeys read as zero, so that the rows left out of the division change
nothing. -/
theorem lookup_share (total : ℚ) {hotkey : Text} (hotkeys : (rows.map VectorRow.hotkey).Nodup)
    (composed : ∀ row ∈ rows, row.Composed) :
    ((((rows.filter fun row => 0 < row.external).map fun row =>
      (row.hotkey, row.external / total)).lookup hotkey).getD 0 : ℚ) =
      externalOf rows hotkey / total := by
  unfold externalOf
  induction rows with
  | nil => exact (zero_div total).symm
  | cons row others ih =>
    obtain ⟨fresh, hotkeys⟩ := List.nodup_cons.mp hotkeys
    obtain ⟨head, composed⟩ := List.forall_mem_cons.mp composed
    have later := ih hotkeys composed
    rw [List.map_cons, List.lookup_cons]
    by_cases same : hotkey = row.hotkey
    · subst same
      rw [beq_self_eq_true, List.filter_cons]
      by_cases positive : 0 < row.external
      · rw [if_pos (decide_eq_true positive), List.map_cons, List.lookup_cons, beq_self_eq_true]
        rfl
      · -- A row without external mass is no entry, and no other row has its hotkey.
        have zero : row.external = 0 := le_antisymm (not_lt.mp positive) head.external_nonneg
        have absent : (others.map fun row => (row.hotkey, row.external)).lookup row.hotkey =
            none := lookup_eq_none_of_not_mem (by rwa [List.map_map])
        rw [if_neg (fun there => positive (of_decide_eq_true there)), later, absent, zero]
        exact congrArg (· / total) rfl
    · rw [beq_eq_false_iff_ne.mpr same, List.filter_cons]
      split
      · rw [List.map_cons, List.lookup_cons, beq_eq_false_iff_ne.mpr same]
        exact later
      · exact later

theorem vectorShare_lookup {hotkey : Text} (hotkeys : (rows.map VectorRow.hotkey).Nodup)
    (composed : ∀ row ∈ rows, row.Composed) :
    ((vectorShare rows).lookup hotkey).getD 0 = externalOf rows hotkey / totalExternal rows := by
  unfold vectorShare
  split
  case isTrue => exact lookup_share _ hotkeys composed
  case isFalse empty =>
    rw [le_antisymm (not_lt.mp empty) (totalExternal_nonneg composed), div_zero]
    rfl

/-- No discrepancy is reported exactly when every share is close, those of the hotkeys
on neither side included. -/
theorem shareDiscrepancies_eq_nil (hotkeys : (rows.map VectorRow.hotkey).Nodup)
    (composed : ∀ row ∈ rows, row.Composed) (tolerance : 0 ≤ absTol) :
    shareDiscrepancies result rows absTol = [] ↔ ∀ hotkey,
      |result.share hotkey - externalOf rows hotkey / totalExternal rows| ≤ absTol := by
  rw [shareDiscrepancies, List.filterMap_eq_nil_iff]
  simp only [vectorShare_lookup hotkeys composed, ite_eq_left_iff, reduceCtorEq, imp_false,
    not_not, List.mem_insertionSort, List.mem_dedup, List.mem_append, isclose, decide_eq_true_eq]
  constructor
  · intro close hotkey
    by_cases listed : hotkey ∈ result.recomputedHotkeyWeights.map Prod.fst ∨
        hotkey ∈ (vectorShare rows).map Prod.fst
    · exact close hotkey listed
    · obtain ⟨mine, theirs⟩ := not_or.mp listed
      rw [← vectorShare_lookup hotkeys composed, lookup_eq_none_of_not_mem theirs,
        ProvenanceResult.share, lookup_eq_none_of_not_mem mine]
      simpa using tolerance
  · exact fun close hotkey _ => close hotkey

/-- Close shares, without the division. -/
theorem close_of_share {share external total : ℚ} (nonneg : 0 ≤ total)
    (zero : total = 0 → external = 0) (close : |share - external / total| ≤ absTol) :
    |external - share * total| ≤ absTol * total := by
  obtain positive | empty := nonneg.lt_or_eq
  · have scaled : external - share * total = -((share - external / total) * total) := by
      field_simp
      ring
    rw [scaled, abs_neg, abs_mul, abs_of_pos positive]
    exact mul_le_mul_of_nonneg_right close nonneg
  · rw [zero empty.symm, ← empty]
    simp

/-! ## Agreement -/

/-- The hotkey that the burn goes to. -/
def burnDestination (vector : List (Text × Json)) : Option Text :=
  (block vector "burn_snapshot").bind fun snapshot =>
    (Json.lookup "burn_hotkey" snapshot).bind textOfJson

/-- The signed status of the publisher's ingest. -/
def externalScores (vector : List (Text × Json)) : Option (List (Text × Json)) :=
  (block vector "policy_metadata").bind (block · "external_scores")

/-- The vector is bound to the epoch and to the report body of the manifest. -/
structure Bound (p : Platform) (result : ProvenanceResult) (vector : List (Text × Json))
    (wireReportSha256 : Option Text) (status : List (Text × Json)) : Prop where
  signed : externalScores vector = some status
  complete : confirms status "latest_complete" = true
  epoch : (Json.lookup "latest_epoch" status).bind intOfJson = some result.sourceEpoch
  manifest : (wireReportSha256.bind (normalizedSha256Hex p)).isSome = true
  body : digestMember p status "latest_body_sha256" =
    wireReportSha256.bind (normalizedSha256Hex p)

/-- What agreement says of the rows and the recomputed shares. -/
structure Agreement (result : ProvenanceResult) (vector : List (Text × Json))
    (absTol : ℚ) (rows : List VectorRow) : Prop where
  hotkeys : (rows.map VectorRow.hotkey).Nodup
  uids : (rows.filterMap VectorRow.uid).Nodup
  composed : ∀ row ∈ rows, row.Composed
  mass : |totalWeight rows - if result.recomputedHotkeyWeights = [] then 0 else 1| ≤ absTol
  close : ∀ hotkey,
    |externalOf rows hotkey - result.share hotkey * totalExternal rows| ≤
      absTol * totalExternal rows
  paid : ∀ hotkey, absTol < result.share hotkey → 0 < externalOf rows hotkey
  earned : ∀ hotkey, absTol * totalExternal rows < externalOf rows hotkey →
    0 < result.share hotkey
  burn : ∃ hotkey ∈ burnDestination vector, hotkey ∉ rows.map VectorRow.hotkey ∧
    |result.share hotkey| ≤ absTol

/-- The checks of everything but the rows. -/
def Framed (p : Platform) (result : ProvenanceResult) (vector : List (Text × Json))
    (wireReportSha256 : Option Text) (burnHotkey : Text) : Prop :=
  mechanismRevisions.lookup result.mechanismId = some result.mechanismRevision ∧
  checkBurnSnapshot vector = .ok burnHotkey ∧
  ∃ metadata, block vector "policy_metadata" = some metadata ∧
    checkValidatedSupply metadata burnHotkey = .ok () ∧
    checkConfidentialPrimary metadata (!result.recomputedHotkeyWeights.isEmpty) = .ok () ∧
    checkExternalScores p metadata result.sourceEpoch wireReportSha256 = .ok () ∧
    states metadata "score_source" "confidential_primary:cathedral_confidential_tdx" = true

theorem checkVector_eq_ok :
    checkVector p result vector wireReportSha256 absTol = .ok rows ↔
      ∃ items burnHotkey, (Json.lookup "weights" vector).bind itemsOfJson = some items ∧
        readRows p [] [] items = .ok rows ∧
        Framed p result vector wireReportSha256 burnHotkey ∧
        burnHotkey ∉ rows.map VectorRow.hotkey ∧
        checkMasses rows (!result.recomputedHotkeyWeights.isEmpty) absTol = .ok () := by
  simp only [checkVector, Framed, bind_eq_ok, demand_eq_ok, require_eq_ok, pure_eq_ok]
  constructor
  · rintro ⟨_, pair, items, weights, rows, read, burnHotkey, burn, metadata, signed, _, supply,
      _, confidential, _, scores, _, source, _, unpaid, _, masses, rfl⟩
    exact ⟨items, burnHotkey, weights, read, ⟨pair, burn, metadata, signed, supply, confidential,
      scores, source⟩, unpaid, masses⟩
  · rintro ⟨items, burnHotkey, weights, read, ⟨pair, burn, metadata, signed, supply,
      confidential, scores, source⟩, unpaid, masses⟩
    exact ⟨(), pair, items, weights, rows, read, burnHotkey, burn, metadata, signed, (), supply,
      (), confidential, (), scores, (), source, (), unpaid, (), masses, rfl⟩

theorem agrees_iff : compareWithVector p result vector wireReportSha256 absTol = .ok (true, []) ↔
    ∃ rows, checkVector p result vector wireReportSha256 absTol = .ok rows ∧
      shareDiscrepancies result rows absTol = [] := by
  unfold compareWithVector
  cases checked : checkVector p result vector wireReportSha256 absTol with
  | error stop => cases stop <;> exact ⟨nofun, fun ⟨_, failed, _⟩ => nomatch failed⟩
  | ok rows =>
    constructor
    · intro agrees
      exact ⟨rows, rfl, (Prod.mk.inj (Except.ok.inj agrees)).2⟩
    · rintro ⟨_, ⟨⟩, none⟩
      dsimp only
      rw [none]
      rfl

theorem requireClose_eq_ok {a b : ℚ} {message : Text} :
    requireClose a b absTol message = .ok () ↔ 0 ≤ absTol ∧ |a - b| ≤ absTol := by
  simp only [requireClose, isclose, bind_eq_ok, require_eq_ok, decide_eq_true_eq, exists_const]

theorem checkMasses_eq_ok {supplied : Bool} : checkMasses rows supplied absTol = .ok () ↔
    0 ≤ absTol ∧ |totalBase rows - 0| ≤ absTol ∧
      |totalWeight rows - if supplied then 1 else 0| ≤ absTol ∧
      (supplied → 0 < totalExternal rows) := by
  simp only [checkMasses, bind_eq_ok, require_eq_ok]
  constructor
  · rintro ⟨_, base, _, weight, external⟩
    obtain ⟨tolerance, base⟩ := requireClose_eq_ok.mp base
    exact ⟨tolerance, base, (requireClose_eq_ok.mp weight).2, external⟩
  · rintro ⟨tolerance, base, weight, external⟩
    exact ⟨(), requireClose_eq_ok.mpr ⟨tolerance, base⟩, (),
      requireClose_eq_ok.mpr ⟨tolerance, weight⟩, external⟩

theorem externalOf_of_mem (hotkeys : (rows.map VectorRow.hotkey).Nodup) {row : VectorRow}
    (member : row ∈ rows) : externalOf rows row.hotkey = row.external := by
  obtain ⟨before, after, rfl⟩ := List.append_of_mem member
  rw [List.map_append, List.map_cons] at hotkeys
  have apart := (List.nodup_append.mp hotkeys).2.2
  have found : ((before ++ row :: after).map fun row => (row.hotkey, row.external)).lookup
      row.hotkey = some row.external := by
    rw [List.map_append, List.map_cons, List.lookup_eq_some_iff]
    refine ⟨_, _, rfl, List.forall_mem_map.mpr ?_⟩
    intro other among
    exact bne_iff_ne.mpr (apart other.hotkey (List.mem_map_of_mem among) row.hotkey
      List.mem_cons_self).symm
  rw [externalOf, found]
  rfl

theorem externalOf_of_not_mem {hotkey : Text} (unlisted : hotkey ∉ rows.map VectorRow.hotkey) :
    externalOf rows hotkey = 0 := by
  rw [externalOf, lookup_eq_none_of_not_mem (by rwa [List.map_map])]
  rfl

/-- A hotkey has at most the whole external mass. -/
theorem externalOf_le (hotkeys : (rows.map VectorRow.hotkey).Nodup)
    (composed : ∀ row ∈ rows, row.Composed) (hotkey : Text) :
    0 ≤ externalOf rows hotkey ∧ externalOf rows hotkey ≤ totalExternal rows := by
  by_cases listed : hotkey ∈ rows.map VectorRow.hotkey
  · obtain ⟨row, member, rfl⟩ := List.mem_map.mp listed
    rw [externalOf_of_mem hotkeys member]
    refine ⟨(composed row member).external_nonneg, List.single_le_sum ?_ _
      (List.mem_map_of_mem member)⟩
    exact List.forall_mem_map.mpr fun other among => (composed other among).external_nonneg
  · rw [externalOf_of_not_mem listed]
    exact ⟨le_rfl, totalExternal_nonneg composed⟩

theorem composed_of_forall₂ {items : List Json}
    (matched : List.Forall₂ (fun item row => readRow p [] [] item = .ok row) items rows) :
    ∀ row ∈ rows, row.Composed := by
  induction matched with
  | nil => exact List.forall_mem_nil _
  | cons read _ ih => exact List.forall_mem_cons.mpr ⟨composed_of_readRow read, ih⟩

theorem discrepancies_of_agrees {discrepancies : List Discrepancy}
    (agrees : compareWithVector p result vector wireReportSha256 absTol =
      .ok (true, discrepancies)) : discrepancies = [] := by
  unfold compareWithVector at agrees
  split at agrees
  · cases agrees
  · cases agrees
  · obtain ⟨empty, rfl⟩ := Prod.mk.inj (Except.ok.inj agrees)
    exact List.isEmpty_iff.mp empty

theorem bound_of_framed {burnHotkey : Text}
    (framed : Framed p result vector wireReportSha256 burnHotkey) :
    burnDestination vector = some burnHotkey ∧
      ∃ status, Bound p result vector wireReportSha256 status := by
  obtain ⟨-, burn, metadata, signed, -, -, scores, -⟩ := framed
  simp only [checkBurnSnapshot, bind_eq_ok, demand_eq_ok, require_eq_ok, pure_eq_ok] at burn
  obtain ⟨snapshot, given, _, -, hotkey, named, _, -, rfl⟩ := burn
  simp only [checkExternalScores, bind_eq_ok, demand_eq_ok, require_eq_ok] at scores
  obtain ⟨status, external, _, -, _, -, _, -, _, complete, epoch, latest, _, same, _, -, manifest,
    wire, body, digest, matching⟩ := scores
  refine ⟨?_, status, ?_, complete, same ▸ latest, ?_, ?_⟩
  · rw [burnDestination, (Option.filter_eq_some_iff.mp given).1]
    exact (Option.filter_eq_some_iff.mp named).1
  · rw [externalScores, signed]
    exact external
  · rw [wire]
    rfl
  · rw [digest, wire, matching]

theorem agreement_of_rows
    (agrees : compareWithVector p result vector wireReportSha256 absTol = .ok (true, [])) :
    ∃ items rows, (Json.lookup "weights" vector).bind itemsOfJson = some items ∧
      List.Forall₂ (fun item row => readRow p [] [] item = .ok row) items rows ∧
      Agreement result vector absTol rows ∧
      ∃ status, Bound p result vector wireReportSha256 status := by
  obtain ⟨rows, checked, none⟩ := agrees_iff.mp agrees
  obtain ⟨items, burnHotkey, weights, read, framed, unpaid, masses⟩ := checkVector_eq_ok.mp checked
  obtain ⟨matched, hotkeys, uids, -, -⟩ := readRows_eq_ok.mp read
  obtain ⟨tolerance, -, mass, -⟩ := checkMasses_eq_ok.mp masses
  obtain ⟨destination, bound⟩ := bound_of_framed framed
  have composed := composed_of_forall₂ matched
  have shares := (shareDiscrepancies_eq_nil hotkeys composed tolerance).mp none
  have nonneg := totalExternal_nonneg composed
  have close (hotkey : Text) := close_of_share nonneg (fun empty =>
    have ⟨below, above⟩ := externalOf_le hotkeys composed hotkey
    le_antisymm (empty ▸ above) below) (shares hotkey)
  refine ⟨items, rows, weights, matched, ⟨hotkeys, uids, composed, ?_, close, ?_, ?_, ?_⟩, bound⟩
  · cases supplied : result.recomputedHotkeyWeights <;> rw [supplied] at mass <;> exact mass
  · intro hotkey large
    refine (externalOf_le hotkeys composed hotkey).1.lt_of_ne fun zero => ?_
    have share := shares hotkey
    rw [← zero, zero_div, sub_zero] at share
    exact absurd large (not_lt.mpr ((le_abs_self _).trans share))
  · intro hotkey large
    have upper := (abs_le.mp (close hotkey)).2
    by_contra unpaid
    have product := mul_nonpos_of_nonpos_of_nonneg (not_lt.mp unpaid) nonneg
    linarith
  · refine ⟨burnHotkey, destination, unpaid, ?_⟩
    have share := shares burnHotkey
    rwa [externalOf_of_not_mem unpaid, zero_div, sub_zero] at share

/-! ## The order of the rows -/

/-- The vector with other rows. -/
def withRows (vector : List (Text × Json)) (items : List Json) : List (Text × Json) :=
  vector.map fun member =>
    if member.1 = ("weights" : Text) then (member.1, .arr items) else member

theorem lookup_withRows (items : List Json) {key : Text} (other : key ≠ "weights") :
    Json.lookup key (withRows vector items) = Json.lookup key vector := by
  induction vector with
  | nil => rfl
  | cons member members ih =>
    obtain ⟨name, value⟩ := member
    simp only [withRows, List.map_cons]
    by_cases rows : name = ("weights" : Text)
    · rw [if_pos rows, Json.lookup, Json.lookup, if_neg (rows ▸ other.symm),
        if_neg (rows ▸ other.symm)]
      exact ih
    · rw [if_neg rows, Json.lookup, Json.lookup]
      split
      · rfl
      · exact ih

theorem lookup_weights_withRows {items : List Json} {value : Json}
    (found : Json.lookup "weights" vector = some value) :
    Json.lookup "weights" (withRows vector items) = some (.arr items) := by
  induction vector with
  | nil => cases found
  | cons member members ih =>
    obtain ⟨name, other⟩ := member
    simp only [withRows, List.map_cons]
    rw [Json.lookup] at found
    by_cases rows : name = ("weights" : Text)
    · rw [if_pos rows, Json.lookup, if_pos rows]
    · rw [if_neg rows] at found ⊢
      rw [Json.lookup, if_neg rows]
      exact ih found

theorem framed_withRows (items : List Json) {burnHotkey : Text} :
    Framed p result (withRows vector items) wireReportSha256 burnHotkey ↔
      Framed p result vector wireReportSha256 burnHotkey := by
  have snapshot : block (withRows vector items) "burn_snapshot" = block vector "burn_snapshot" :=
    congrArg (·.bind membersOfJson) (lookup_withRows items (by decide))
  have metadata : block (withRows vector items) "policy_metadata" =
      block vector "policy_metadata" :=
    congrArg (·.bind membersOfJson) (lookup_withRows items (by decide))
  rw [Framed, Framed, checkBurnSnapshot, checkBurnSnapshot, snapshot, metadata]

theorem externalOf_perm {rows' : List VectorRow} (hotkeys : (rows.map VectorRow.hotkey).Nodup)
    (moved : rows.Perm rows') (hotkey : Text) :
    externalOf rows hotkey = externalOf rows' hotkey := by
  have names := moved.map VectorRow.hotkey
  by_cases listed : hotkey ∈ rows.map VectorRow.hotkey
  · obtain ⟨row, member, rfl⟩ := List.mem_map.mp listed
    rw [externalOf_of_mem hotkeys member,
      externalOf_of_mem (names.nodup_iff.mp hotkeys) (moved.mem_iff.mp member)]
  · rw [externalOf_of_not_mem listed,
      externalOf_of_not_mem fun there => listed (names.mem_iff.mpr there)]

/-- Whether a vector agrees does not depend on the order of its rows. -/
theorem agrees_of_perm {items items' : List Json}
    (weights : (Json.lookup "weights" vector).bind itemsOfJson = some items)
    (moved : items.Perm items')
    (agrees : compareWithVector p result vector wireReportSha256 absTol = .ok (true, [])) :
    compareWithVector p result (withRows vector items') wireReportSha256 absTol =
      .ok (true, []) := by
  obtain ⟨rows, checked, none⟩ := agrees_iff.mp agrees
  obtain ⟨items₀, burnHotkey, weights₀, read, framed, unpaid, masses⟩ :=
    checkVector_eq_ok.mp checked
  obtain rfl := Option.some.inj (weights.symm.trans weights₀)
  obtain ⟨matched, hotkeys, uids, -, -⟩ := readRows_eq_ok.mp read
  obtain ⟨tolerance, base, mass, external⟩ := checkMasses_eq_ok.mp masses
  obtain ⟨rows', matched', back⟩ := List.perm_comp_forall₂ moved.symm matched
  have composed := composed_of_forall₂ matched
  have composed' := composed_of_forall₂ matched'
  have hotkeys' := (back.map VectorRow.hotkey).nodup_iff.mpr hotkeys
  have uids' := (back.filterMap VectorRow.uid).nodup_iff.mpr uids
  have total : totalExternal rows' = totalExternal rows := (back.map VectorRow.external).sum_eq
  have read' : readRows p [] [] items' = .ok rows' :=
    readRows_eq_ok.mpr ⟨matched', hotkeys', uids', fun _ _ => List.not_mem_nil,
      fun _ _ => List.not_mem_nil⟩
  have weights' : (Json.lookup "weights" (withRows vector items')).bind itemsOfJson =
      some items' := by
    obtain ⟨value, found, -⟩ := Option.bind_eq_some_iff.mp weights
    rw [lookup_weights_withRows found]
    rfl
  have masses' : checkMasses rows' (!result.recomputedHotkeyWeights.isEmpty) absTol = .ok () := by
    rw [checkMasses_eq_ok, total]
    refine ⟨tolerance, ?_, ?_, external⟩
    · rwa [show totalBase rows' = totalBase rows from (back.map VectorRow.base).sum_eq]
    · rwa [show totalWeight rows' = totalWeight rows from (back.map VectorRow.weight).sum_eq]
  refine agrees_iff.mpr ⟨rows', checkVector_eq_ok.mpr ⟨items', burnHotkey, weights', read',
    (framed_withRows items').mpr framed,
    fun paid => unpaid ((back.map VectorRow.hotkey).mem_iff.mp paid), masses'⟩, ?_⟩
  rw [shareDiscrepancies_eq_nil hotkeys' composed' tolerance, total]
  intro hotkey
  rw [externalOf_perm hotkeys' back]
  exact (shareDiscrepancies_eq_nil hotkeys composed tolerance).mp none hotkey

/-- **What agreement says.** The rows are read one by one, all of them, and repeat neither
hotkey nor uid. Every hotkey's external weight is within the tolerance, taken of the
vector's external mass, of its recomputed share of that mass; a hotkey above the
tolerance on one side is positive on the other; the weights sum to one with verified
supply and to nothing without; the burn destination has no row and no share above the
tolerance; and the vector names the epoch and the report body of the manifest. Every
order of the same rows agrees. -/
theorem agreement_of_agrees (p : Platform) (result : ProvenanceResult)
    (vector : List (Text × Json)) (wireReportSha256 : Option Text) (absTol : ℚ)
    (discrepancies : List Discrepancy)
    (agrees : compareWithVector p result vector wireReportSha256 absTol =
      .ok (true, discrepancies)) :
    (∃ items rows, (Json.lookup "weights" vector).bind itemsOfJson = some items ∧
      List.Forall₂ (fun item row => readRow p [] [] item = .ok row) items rows ∧
      Agreement result vector absTol rows) ∧
    (∃ status, Bound p result vector wireReportSha256 status) ∧
    ∀ items items', (Json.lookup "weights" vector).bind itemsOfJson = some items →
      items.Perm items' →
      compareWithVector p result (withRows vector items') wireReportSha256 absTol =
        .ok (true, discrepancies) := by
  obtain rfl := discrepancies_of_agrees agrees
  obtain ⟨items, rows, weights, matched, agreement, bound⟩ := agreement_of_rows agrees
  exact ⟨⟨items, rows, weights, matched, agreement⟩, bound, fun items items' weights moved =>
    agrees_of_perm weights moved agrees⟩

/-! ## A share below the tolerance -/

/-- Three recomputed miners, the last with less than the tolerance. -/
def nearlyAll : ProvenanceResult where
  mechanismId := "validated_supply_v2"
  mechanismRevision := 1
  sourceEpoch := 7
  recomputedHotkeyWeights :=
    [("earner", 3 / 4 - 1 / 10 ^ 10), ("second", 1 / 4), ("burned", 1 / 10 ^ 10)]
  distinct := by decide

def ingestDigest : Text := List.replicate 64 0x61

/-- A row that pays a miner. -/
def payingRow (hotkey : Text) (weight : ℚ) : Json := .obj
  [("miner_hotkey", .str hotkey), ("weight", .float (.finite weight)),
    ("base_component", .float (.finite 0)), ("external_component", .float (.finite weight))]

def payingRows : List Json := [payingRow "earner" (3 / 4), payingRow "second" (1 / 4)]

/-- A signed vector that pays the first two miners and burns to the last. -/
def payingVector (network : Text) : List (Text × Json) :=
  [("network", .str network),
    ("burn_snapshot", .obj [("burn_uid", .null), ("burn_hotkey", .str "burned"),
      ("forced_burn_percentage", .float (.finite 10))]),
    ("policy_metadata", .obj [
      ("score_source", .str "confidential_primary:cathedral_confidential_tdx"),
      ("validated_supply", .obj [("contract_version", .str "v2"),
        ("intel_tdx_allocation", .float (.finite (9 / 10))),
        ("fixed_burn_allocation", .float (.finite (1 / 10))),
        ("burn_hotkey", .str "burned")]),
      ("confidential_primary", .obj [("contract_version", .str "v1"),
        ("mode", .str "confidential_primary"), ("source", .str "cathedral_confidential_tdx"),
        ("base_mass", .float (.finite 0)), ("confidential_mass", .float (.finite 1)),
        ("complete", .bool true), ("fresh", .bool true), ("confirmed", .bool true)]),
      ("external_scores", .obj [("enabled", .bool true),
        ("source", .str "cathedral_confidential_tdx"), ("mode", .str "confidential_primary"),
        ("latest_epoch", .int 7), ("latest_complete", .bool true),
        ("latest_report_sha256", .str ingestDigest),
        ("latest_body_sha256", .str ingestDigest)])]),
    ("weights", .arr payingRows)]

theorem paying_agrees : ∀ network ∈ [("finney" : Text), "test"],
    compareWithVector .sample nearlyAll (payingVector network) (some ingestDigest) (1 / 10 ^ 9) =
      .ok (true, []) := by
  decide +kernel

/-- The theorem applied to the two rows, and to the same rows the other way round. -/
theorem agreement_of_agrees_paying :
    (∃ rows, List.Forall₂ (fun item row => readRow .sample [] [] item = .ok row) payingRows rows ∧
      Agreement nearlyAll (payingVector "finney") (1 / 10 ^ 9) rows) ∧
    compareWithVector .sample nearlyAll (withRows (payingVector "finney") payingRows.reverse)
      (some ingestDigest) (1 / 10 ^ 9) = .ok (true, []) := by
  have weights : (Json.lookup "weights" (payingVector "finney")).bind itemsOfJson =
      some payingRows := rfl
  obtain ⟨⟨items, rows, found, matched, agreement⟩, -, moved⟩ :=
    agreement_of_agrees .sample nearlyAll (payingVector "finney") (some ingestDigest)
      (1 / 10 ^ 9) [] (paying_agrees _ List.mem_cons_self)
  rw [weights] at found
  cases found
  exact ⟨⟨rows, matched, agreement⟩, moved payingRows _ weights (List.reverse_perm _).symm⟩

/-- The burn destination is a recomputed miner, and neither network is refused. -/
theorem burn_destination_earns :
    (∀ network ∈ [("finney" : Text), "test"], compareWithVector .sample nearlyAll
      (payingVector network) (some ingestDigest) (1 / 10 ^ 9) = .ok (true, [])) ∧
    burnDestination (payingVector "finney") = some "burned" ∧ 0 < nearlyAll.share "burned" :=
  ⟨paying_agrees, by decide +kernel⟩

end Cathedral.Provenance
