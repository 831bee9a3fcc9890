import CathedralCompute.Codec.Base64
import CathedralCompute.Codec.JsonFaults
import CathedralCompute.Lanes.Canonical
import CathedralCompute.Provenance.WorkAgreement

/-!
# The worker of a miner

The worker answers SAT requests of the validator. It reads a bounded JSON body,
checks that the work is its own and, unless it serves customers, that the
instance is the canonical one of its seed, solves it and reports the assignment.

## Main definitions

* `Worker.handleSatWork` — the handler, with every refusal it can answer.
* `Worker.doPost` — the reply to the octets of a request.
* `workRequest`, `delivered` — what the validator sends, and what reaches it.

## Main results

* `handleSatWork_derived` — the worker solves derived work that is assigned to it.
* `doSatWork_solution` — the validator reads the reply as a certificate.
-/

set_option autoImplicit false

namespace Cathedral.Remote

open Codec Semantics

/-- A status and a body. -/
structure Reply where
  code : ℕ
  body : Bytes
deriving DecidableEq

/-- `WorkerServer`, as far as SAT requests read it. The solver of customer work runs
in a child process: `none` where that exceeds its limits. -/
structure Worker where
  configuredHotkey : Text
  maxBody : ℕ
  maxResponseBody : ℕ
  allowNoncanonicalSat : Bool
  solveCustomerSatBounded : SatInstance → Option (Option (List ℤ))
  nonempty : configuredHotkey ≠ []
  bounded : configuredHotkey.length ≤ maxHotkeyLength
  positive : 0 < maxBody ∧ 0 < maxResponseBody

/-- `_SAT_REQUEST_KEYS`. -/
def satRequestKeys : List Text := ["challenge_id", "assigned_hotkey", "instance", "seed"]

/-- `_INSTANCE_KEYS`. -/
def instanceKeys : List Text := ["n_vars", "clauses"]

/-- `_parse_instance`. -/
def parseInstance (raw : Json) : Option SatInstance := do
  let members ← membersOfJson raw
  guard (hasExactly instanceKeys members)
  let nVars ← intOfJson (field members "n_vars")
  let items ← itemsOfJson (field members "clauses")
  let clauses ← items.mapM intsOfJson
  (Sat.validateSatInstance ⟨nVars, clauses⟩).toOption
  return ⟨nVars, clauses⟩

/-- A request that passed the checks. -/
structure SatRequest where
  satInstance : SatInstance
  challengeId : Text
  canonical : Bool

namespace Worker

variable (p : Platform) (worker : Worker)

/-- The octets of a JSON object, members in their order. -/
def jsonBody (p : Platform) (members : List (Text × Json)) : Bytes :=
  ((Json.obj members).render (compactStyle p)).ascii

/-- `_send_json`. -/
def sendJson (code : ℕ) (members : List (Text × Json)) : Reply :=
  if (jsonBody p members).length ≤ worker.maxResponseBody then ⟨code, jsonBody p members⟩
  else
    let body := Text.ascii "\x7b\"error\":\"response too large\"\x7d"
    ⟨500, if body.length ≤ worker.maxResponseBody then body else []⟩

/-- The reply that names an error. -/
def refuse (code : ℕ) (message : Text) : Reply := worker.sendJson p code [("error", .str message)]

/-- The checks of `_handle_sat_work`. -/
def readSatWork (r : RandomSource) (body : List (Text × Json)) : Except Reply SatRequest := do
  require (hasExactly satRequestKeys body) (worker.refuse p 400 "invalid SAT schema")
  let hotkey ← demand (worker.refuse p 400 "invalid assigned_hotkey")
    (textOfJson (field body "assigned_hotkey"))
  require (hotkey ≠ [] ∧ hotkey.length ≤ maxHotkeyLength)
    (worker.refuse p 400 "invalid assigned_hotkey")
  require (hotkey = worker.configuredHotkey) (worker.refuse p 403 "assigned_hotkey mismatch")
  let challengeId ← demand (worker.refuse p 400 "invalid challenge_id")
    (textOfJson (field body "challenge_id"))
  require (challengeId.length = 64 ∧ isHexText challengeId)
    (worker.refuse p 400 "invalid challenge_id")
  let seed ← demand (worker.refuse p 400 "invalid seed") (intOfJson (field body "seed"))
  require (Sat.minSeed ≤ seed ∧ seed ≤ Sat.maxSeed) (worker.refuse p 400 "invalid seed")
  let satInstance ← demand (worker.refuse p 400 "invalid instance")
    (parseInstance (field body "instance"))
  let canonical := decide (satInstance = Sat.canonicalInstance r seed)
  require (worker.allowNoncanonicalSat ∨ canonical)
    (worker.refuse p 400 "noncanonical SAT instance")
  require (Sat.computeChallengeId p satInstance seed = challengeId)
    (worker.refuse p 400 "challenge_id mismatch")
  return ⟨satInstance, challengeId, canonical⟩

/-- What the solver found, as the worker reports it. -/
def solution (request : SatRequest) (assignment : Option (List ℤ)) : List (Text × Json) :=
  [("satisfiable", .bool assignment.isSome),
    ("assignment", assignment.elim .null fun literals => .arr (literals.map .int)),
    ("work_units", .float (.finite request.satInstance.clauses.length)),
    ("challenge_id", .str request.challengeId),
    ("assigned_hotkey", .str worker.configuredHotkey)]

/-- The rest of `_handle_sat_work`: canonical work is solved in the handler, within a
bound on the depth of its search. -/
def answerSatWork (fuel : ℕ) (request : SatRequest) : Option Reply :=
  if request.canonical then
    (Sat.solveSat fuel request.satInstance).map fun assignment =>
      worker.sendJson p 200 (worker.solution request assignment)
  else match worker.solveCustomerSatBounded request.satInstance with
    | none => some (worker.refuse p 503 "customer SAT solve exceeded resource limits")
    | some assignment => some (worker.sendJson p 200 (worker.solution request assignment))

/-- `_handle_sat_work`. -/
def handleSatWork (r : RandomSource) (fuel : ℕ) (body : List (Text × Json)) : Option Reply :=
  match worker.readSatWork p r body with
  | .error reply => some reply
  | .ok request => worker.answerSatWork p fuel request

/-- The reply to a body that is no JSON: a literal of too many digits ends in the
handler's last resort. -/
def unreadable (raw : Bytes) : Reply :=
  match (detectedText p.decodeWide raw).bind (textFault (defaultHooks p) p.readDepth) with
  | none => worker.refuse p 400 "invalid JSON"
  | some _ => worker.refuse p 500 "internal error"

/-- `_handle_post` at `/v1/sat-work`. -/
def handlePost (r : RandomSource) (fuel : ℕ) (raw : Bytes) : Option Reply :=
  match loadsBytes (defaultHooks p) p.decodeWide raw with
  | none => some (worker.unreadable p raw)
  | some (.obj body) => worker.handleSatWork p r fuel body
  | some _ => some (worker.refuse p 400 "expected JSON object")

/-- `do_POST` at `/v1/sat-work`, for an authorized request on a free slot. -/
def doPost (r : RandomSource) (fuel : ℕ) (raw : Bytes) : Option Reply :=
  if worker.maxBody < raw.length then some (worker.refuse p 413 "request too large")
  else worker.handlePost p r fuel raw

end Worker

/-- The body of the request of `do_sat_work`. -/
def workRequest (p : Platform) (miner : RemoteMiner) (item : SatWorkItem) : Bytes :=
  Worker.jsonBody p [("challenge_id", .str item.challengeId),
    ("assigned_hotkey", .str miner.hotkey),
    ("instance", .obj [("n_vars", .int item.satInstance.nVars),
      ("clauses", Sat.clausesJson item.satInstance.clauses)]),
    ("seed", .int item.seed)]

/-- What `_post_http` and `_post_tls` make of a reply. -/
def delivered (reply : Reply) : Except Text Bytes := do
  require (reply.code < 300 ∨ 400 ≤ reply.code) "worker redirect rejected"
  require (200 ≤ reply.code ∧ reply.code < 300) ("worker returned HTTP " ++ natText reply.code)
  return reply.body

/-! ## Reading the request -/

section Honest

variable {p : Platform} {r : RandomSource} {worker : Worker} {miner : RemoteMiner}
  {item : SatWorkItem}

theorem mapM_intsOfJson (clauses : List (List ℤ)) :
    (clauses.map fun c => Json.arr (c.map .int)).mapM intsOfJson = some clauses := by
  induction clauses with
  | nil => rfl
  | cons clause clauses ih =>
    rw [List.map_cons, List.mapM_cons, intsOfJson_arr, ih]
    rfl

theorem parseInstance_json {satInstance : SatInstance}
    (valid : Sat.validateSatInstance satInstance = .ok ()) :
    parseInstance (.obj [("n_vars", .int satInstance.nVars),
      ("clauses", Sat.clausesJson satInstance.clauses)]) = some satInstance := by
  have listed := mapM_intsOfJson satInstance.clauses
  simp only [parseInstance, Option.bind_eq_bind, Option.bind_eq_some_iff, Option.pure_def]
  refine ⟨_, rfl, (), by rfl, satInstance.nVars, rfl, _, rfl, _, listed, (), ?_, rfl⟩
  rw [valid]
  rfl

/-- Derived numbers have few digits. -/
theorem pythonInt_seed (derived : Sat.IsDerived p r item) :
    pythonInt (intText item.seed) = some item.seed := by
  have range := derived.seed
  exact pythonInt_intText ((length_natText_le_of_lt (by omega : _ < 2 ^ 63) (by decide)).trans
    (by decide))

theorem readable_ints {ints : List ℤ} (short : ∀ z ∈ ints, (natText z.natAbs).length ≤ 10) :
    (Json.arr (ints.map .int)).Readable (defaultHooks p) (compactStyle p) := by
  have readable := Json.readable_sortKeys (faithful_defaultHooks p) _ (plain_ints True ints)
    (Provenance.dumpable_ints short)
  rwa [sortKeys_ints] at readable

theorem readable_clauses (facts : Provenance.ValidItem p item) :
    (Sat.clausesJson item.satInstance.clauses).Readable (defaultHooks p) (compactStyle p) := by
  have readable := Json.readable_sortKeys (faithful_defaultHooks p) _
    (Sat.plain_clausesJson True item.satInstance.clauses)
    (Provenance.dumpable_clausesJson fun clause among z listed =>
      Provenance.length_literal_le facts (facts.ranged clause among z listed))
  rwa [Sat.sortKeys_clausesJson] at readable

/-- The worker reads the request that the validator sends. -/
theorem loads_workRequest (derived : Sat.IsDerived p r item) (unpaired : miner.hotkey.Unpaired) :
    loadsBytes (defaultHooks p) p.decodeWide (workRequest p miner item) =
      some (.obj [("challenge_id", .str item.challengeId), ("assigned_hotkey", .str miner.hotkey),
        ("instance", .obj [("n_vars", .int item.satInstance.nVars),
          ("clauses", Sat.clausesJson item.satInstance.clauses)]), ("seed", .int item.seed)]) := by
  have facts := Provenance.validItem_of_validate derived.valid
  have challenge : item.challengeId.Unpaired := (noSurrogate_of_isHex derived.hex).unpaired
  have keys : satRequestKeys.Nodup := by decide
  have inner : instanceKeys.Nodup := by decide
  have nVars : pythonInt (intText item.satInstance.nVars) = some item.satInstance.nVars := by
    refine pythonInt_intText ((Provenance.length_literal_le facts ?_).trans (by decide))
    exact (abs_of_pos (by have := facts.nVars.1; omega)).le
  refine loadsBytes_render rfl rfl p.decodeWide
    ⟨(faithful_defaultHooks p).pairs _ (by exact keys), ?_⟩
  exact ⟨by decide, challenge, by decide, unpaired, by decide,
    ⟨(faithful_defaultHooks p).pairs _ (by exact inner), by decide, nVars, by decide,
      readable_clauses facts, trivial⟩, by decide, pythonInt_seed derived, trivial⟩

/-- A digest is hexadecimal text. -/
theorem isHexText_of_isHex {t : Text} (hex : t.isHex 64 = true) : t.length = 64 ∧ isHexText t := by
  rw [Text.isHex, Bool.and_eq_true, beq_iff_eq, List.all_eq_true] at hex
  refine ⟨hex.1, ?_⟩
  rw [isHexText, hex.1, Bool.and_eq_true, List.all_eq_true]
  refine ⟨rfl, fun c listed => ?_⟩
  have lower := hex.2 c listed
  rw [Text.isLowerHex, Bool.or_eq_true] at lower
  unfold hexValue
  by_cases digit : Text.isDigit c = true
  · rw [if_pos digit]
    rfl
  · rw [if_neg digit, if_pos (lower.resolve_left digit)]
    rfl

/-- Derived work that is assigned to the worker passes its checks. -/
theorem readSatWork_derived (derived : Sat.IsDerived p r item)
    (identity : worker.configuredHotkey = miner.hotkey) :
    worker.readSatWork p r [("challenge_id", .str item.challengeId),
        ("assigned_hotkey", .str miner.hotkey),
        ("instance", .obj [("n_vars", .int item.satInstance.nVars),
          ("clauses", Sat.clausesJson item.satInstance.clauses)]), ("seed", .int item.seed)] =
      .ok ⟨item.satInstance, item.challengeId, true⟩ := by
  obtain ⟨planted, sound⟩ := derived.sound
  simp only [Worker.readSatWork, bind_eq_ok, require_eq_ok, demand_eq_ok, pure_eq_ok]
  refine ⟨(), by rfl, miner.hotkey, rfl, (), ⟨miner.nonempty, miner.bounded⟩, (), identity.symm,
    item.challengeId, rfl, (), isHexText_of_isHex derived.hex, item.seed, rfl, (),
    derived.seed_range, item.satInstance, parseInstance_json sound.valid, (), .inr ?_, (),
    derived.challengeId.symm, ?_⟩
  · exact decide_eq_true derived.satInstance
  · rw [decide_eq_true derived.satInstance]

/-- **The worker solves.** It answers derived work assigned to it with a satisfying
assignment, whatever bound above the number of variables the search has. -/
theorem handleSatWork_derived (derived : Sat.IsDerived p r item)
    (unpaired : miner.hotkey.Unpaired) (identity : worker.configuredHotkey = miner.hotkey)
    (accepted : (workRequest p miner item).length ≤ worker.maxBody) :
    ∃ assignment : List ℤ,
      (∀ fuel : ℕ, 8 < fuel → worker.doPost p r fuel (workRequest p miner item) =
        some (worker.sendJson p 200 (worker.solution ⟨item.satInstance, item.challengeId, true⟩
          (some assignment)))) ∧
      assignment.map (fun literal => |literal|) = [1, 2, 3, 4, 5, 6, 7, 8] ∧
      ∀ clause ∈ item.satInstance.clauses, ∃ literal ∈ clause, literal ∈ assignment := by
  obtain ⟨planted, sound⟩ := derived.sound
  obtain ⟨assignment, ends, names, satisfies⟩ := sound.solved
  refine ⟨assignment, fun fuel deep => ?_, names, satisfies⟩
  rw [Worker.doPost, if_neg (not_lt.mpr accepted), Worker.handlePost,
    loads_workRequest derived unpaired]
  dsimp only
  rw [Worker.handleSatWork, readSatWork_derived derived identity]
  dsimp only
  rw [Worker.answerSatWork, if_pos rfl, ends fuel deep, Option.map_some]

/-! ## Reading the reply -/

/-- Literals of distinct variables pass the loop of `_validate_assignment`. -/
theorem foldlM_assignLiteral {nVars : ℤ} {literals seen : List ℤ}
    (ranged : ∀ z ∈ literals, z ≠ 0 ∧ |z| ≤ nVars ∧ |z| ∉ seen)
    (distinct : (literals.map fun literal => |literal|).Nodup) :
    ∃ seen', (literals.map Json.int).foldlM (assignLiteral nVars) seen = .ok seen' := by
  induction literals generalizing seen with
  | nil => exact ⟨seen, rfl⟩
  | cons z literals ih =>
    obtain ⟨first, others⟩ := List.forall_mem_cons.mp ranged
    rw [List.map_cons, List.nodup_cons] at distinct
    have step : assignLiteral nVars seen (.int z) = .ok (|z| :: seen) := by
      simp only [assignLiteral, bind_eq_ok, demand_eq_ok, require_eq_ok, pure_eq_ok]
      exact ⟨z, rfl, (), first, rfl⟩
    have others' : ∀ z' ∈ literals, z' ≠ 0 ∧ |z'| ≤ nVars ∧ |z'| ∉ |z| :: seen := by
      intro z' listed
      obtain ⟨nonzero, small, absent⟩ := others z' listed
      refine ⟨nonzero, small, fun again => ?_⟩
      rcases List.mem_cons.mp again with same | old
      · exact distinct.1 (same ▸ List.mem_map_of_mem listed)
      · exact absent old
    obtain ⟨seen', read⟩ := ih others' distinct.2
    exact ⟨seen', by rw [List.map_cons, List.foldlM_cons, step]; exact read⟩

/-- The solution of the worker is read back by the validator. -/
theorem loads_solution {request : SatRequest} {literals : List ℤ}
    (short : ∀ z ∈ literals, (natText z.natAbs).length ≤ 10)
    (challenge : request.challengeId.Unpaired) (unpaired : worker.configuredHotkey.Unpaired) :
    loadsBytes (defaultHooks p) p.decodeWide
        (Worker.jsonBody p (worker.solution request (some literals))) =
      some (.obj (worker.solution request (some literals))) := by
  have keys : satResponseKeys.Nodup := by decide
  refine loadsBytes_render rfl rfl p.decodeWide
    ⟨(faithful_defaultHooks p).pairs _ (by exact keys), ?_⟩
  exact ⟨by decide, trivial, by decide, readable_ints short, by decide,
    ⟨p.floats.literal _, p.floats.parse_repr _⟩, by decide, challenge, by decide, unpaired,
    trivial⟩

/-- The certificate of a solution. -/
def certificateOf (miner : RemoteMiner) (item : SatWorkItem) (literals : List ℤ) : SatCertificate :=
  ⟨true, some literals, .finite item.satInstance.clauses.length, item.challengeId, miner.hotkey⟩

/-- **The validator reads.** A solution whose literals name the variables in order
becomes a certificate, if its octets are within the limits. -/
theorem doSatWork_solution {literals : List ℤ} (derived : Sat.IsDerived p r item)
    (unpaired : miner.hotkey.Unpaired) (identity : worker.configuredHotkey = miner.hotkey)
    (names : literals.map (fun literal => |literal|) = [1, 2, 3, 4, 5, 6, 7, 8])
    (fits : (Worker.jsonBody p (worker.solution ⟨item.satInstance, item.challengeId, true⟩
      (some literals))).length ≤ min miner.maxResponseBody maxSatResponseBody) :
    doSatWork p miner item (.ok (Worker.jsonBody p
        (worker.solution ⟨item.satInstance, item.challengeId, true⟩ (some literals)))) =
      .ok (certificateOf miner item literals) := by
  obtain ⟨planted, sound⟩ := derived.sound
  -- each literal names one of the eight variables
  have ranged : ∀ z ∈ literals, 1 ≤ |z| ∧ |z| ≤ 8 := by
    intro z listed
    have among : |z| ∈ [1, 2, 3, 4, 5, 6, 7, 8] := names ▸ List.mem_map_of_mem listed
    simp only [List.mem_cons, List.not_mem_nil, or_false] at among
    omega
  have short : ∀ z ∈ literals, (natText z.natAbs).length ≤ 10 := by
    intro z listed
    have small := (ranged z listed).2
    rw [Int.abs_eq_natAbs] at small
    exact length_natText_le_of_lt (by omega : _ < 2 ^ 10) (by decide)
  have challenge : item.challengeId.Unpaired := (noSurrogate_of_isHex derived.hex).unpaired
  have configured : worker.configuredHotkey.Unpaired := identity ▸ unpaired
  have length : literals.length = 8 := by
    rw [← List.length_map (fun literal : ℤ => |literal|), names]
    rfl
  -- and no variable is named twice
  have loop : ∃ seen, (literals.map Json.int).foldlM (assignLiteral 8) [] = .ok seen := by
    refine foldlM_assignLiteral (fun z listed => ?_) (by rw [names]; decide)
    have range := ranged z listed
    exact ⟨abs_pos.mp (by omega), range.2, List.not_mem_nil⟩
  obtain ⟨seen, loop⟩ := loop
  -- the checks of the validator, in its order
  simp only [doSatWork, bind_eq_ok, require_eq_ok, demand_eq_ok, pure_eq_ok]
  refine ⟨(), derived.valid, _, rfl, (), fits, _, loads_solution short challenge configured, _, rfl,
    (), by rfl, (), Json.equalsText_iff.mpr rfl, (),
    Json.equalsText_iff.mpr (congrArg some (congrArg Json.str identity)), true, rfl, (), ?_, (), ?_,
    ?_⟩
  · exact if_pos (Nat.cast_nonneg _)
  · change validateAssignment (.arr (literals.map .int)) item.satInstance.nVars = .ok ()
    simp only [validateAssignment, bind_eq_ok, require_eq_ok, demand_eq_ok, pure_eq_ok, sound.nVars]
    refine ⟨literals.map .int, rfl, (), ?_, seen, loop, trivial⟩
    rw [List.length_map, length]
    rfl
  · change (⟨true, intsOfJson (.arr (literals.map .int)), _, _, _⟩ : SatCertificate) = _
    rw [intsOfJson_arr]
    rfl

/-! ## Sizes -/

/-- The request of derived work is far below the limit of a worker. -/
theorem length_workRequest_le (derived : Sat.IsDerived p r item) :
    (workRequest p miner item).length ≤ 8192 := by
  obtain ⟨planted, sound⟩ := derived.sound
  have commas : (compactStyle p).itemSeparator = [0x2c] := rfl
  have clauses := sound.length_clauses_le commas
  have seed := Sat.length_seed_le derived.seed
  have challenge := length_quoted_le item.challengeId
  have hotkey := length_quoted_le miner.hotkey
  have bounded := miner.bounded
  have nVars : (intText item.satInstance.nVars).length ≤ 5 :=
    Sat.length_intText_le_five (by rw [sound.nVars]; decide)
  have keys : (quoted (Text.ofString "assigned_hotkey")).length +
      (quoted (Text.ofString "challenge_id")).length + (quoted (Text.ofString "instance")).length +
      (quoted (Text.ofString "clauses")).length + (quoted (Text.ofString "n_vars")).length +
      (quoted (Text.ofString "seed")).length ≤ 100 := by decide +kernel
  have hex := derived.hex
  rw [Text.isHex, Bool.and_eq_true, beq_iff_eq] at hex
  rw [hex.1] at challenge
  unfold maxHotkeyLength at bounded
  rw [workRequest, Worker.jsonBody, Text.length_ascii]
  simp only [Json.render, Json.renderMembers, List.length_append, List.length_cons,
    List.length_nil] at clauses ⊢
  simp only [compactStyle, List.length_cons, List.length_nil] at clauses ⊢
  omega

/-- So is the reply. -/
theorem length_solution_le {literals : List ℤ} (whole : p.WritesWhole)
    (derived : Sat.IsDerived p r item)
    (names : literals.map (fun literal => |literal|) = [1, 2, 3, 4, 5, 6, 7, 8]) :
    (Worker.jsonBody p (worker.solution ⟨item.satInstance, item.challengeId, true⟩
      (some literals))).length ≤ 8192 := by
  obtain ⟨planted, sound⟩ := derived.sound
  have commas : (compactStyle p).itemSeparator = [0x2c] := rfl
  have short : ∀ z ∈ literals, (intText z).length ≤ 5 := by
    intro z listed
    have among : |z| ∈ [1, 2, 3, 4, 5, 6, 7, 8] := names ▸ List.mem_map_of_mem listed
    simp only [List.mem_cons, List.not_mem_nil, or_false] at among
    exact Sat.length_intText_le_five (by omega)
  have assignment := length_render_ints_le commas short
  rw [← List.length_map (fun literal : ℤ => |literal|), names] at assignment
  have units : (p.floats.repr (item.satInstance.clauses.length : ℕ)).length ≤ 16 := by
    rw [sound.length, whole _ (by decide)]
    exact Provenance.length_wholeText_le (by decide)
  have challenge := length_quoted_le item.challengeId
  have hotkey := length_quoted_le worker.configuredHotkey
  have bounded := worker.bounded
  have keys : (quoted (Text.ofString "assigned_hotkey")).length +
      (quoted (Text.ofString "assignment")).length +
      (quoted (Text.ofString "challenge_id")).length +
      (quoted (Text.ofString "satisfiable")).length +
      (quoted (Text.ofString "work_units")).length ≤ 100 := by decide +kernel
  have truth : (Text.ofString "true").length = 4 := by decide
  have hex := derived.hex
  rw [Text.isHex, Bool.and_eq_true, beq_iff_eq] at hex
  rw [hex.1] at challenge
  unfold maxHotkeyLength at bounded
  rw [Worker.jsonBody, Text.length_ascii, Worker.solution, Option.elim_some, Option.isSome_some]
  simp only [Json.render, Json.renderMembers, List.length_append, List.length_cons,
    List.length_nil, truth] at assignment ⊢
  simp only [compactStyle, List.length_cons, List.length_nil] at assignment ⊢
  omega

end Honest

end Cathedral.Remote
