import CathedralCompute.Provenance.WorkProof
import CathedralCompute.Remote.SatWork
import CathedralCompute.Runtime.SatArtifacts
import CathedralCompute.Lanes.SatWitness
import CathedralCompute.Sample

/-!
# Producer and replayer agree on paid work

What the lane accepts from a remote miner, the replayer accepts from the bytes the
runtime publishes, and what the replayer accepts is real work: a valid instance
with a satisfying assignment, at the units the rule derives.

The first half has one exception. A hotkey that holds the two halves of a
surrogate pair as separate characters is written as the escapes of both, which
every reader joins, so that the replayer finds another hotkey in the result.

## Main results

* `producer_replayer_agreement` — both directions
-/

set_option autoImplicit false

namespace Cathedral.Provenance

open Codec Semantics Cathedral.Runtime Cathedral.Remote Cathedral.Sat

/-! ## Items -/

section Items

variable {p : Platform}

theorem eq_of_textOfJson {value : Json} {t : Text} (read : textOfJson value = some t) :
    value = .str t := by
  cases value with
  | str _ => exact congrArg Json.str (Option.some.inj read)
  | _ => cases read

theorem eq_of_intOfJson {value : Json} {z : ℤ} (read : intOfJson value = some z) :
    value = .int z := by
  cases value with
  | int _ => exact congrArg Json.int (Option.some.inj read)
  | _ => cases read

theorem eq_of_itemsOfJson {value : Json} {items : List Json}
    (read : itemsOfJson value = some items) : value = .arr items := by
  cases value with
  | arr _ => exact congrArg Json.arr (Option.some.inj read)
  | _ => cases read

theorem eq_of_membersOfJson {value : Json} {members : List (Text × Json)}
    (read : membersOfJson value = some members) : value = .obj members := by
  cases value with
  | obj _ => exact congrArg Json.obj (Option.some.inj read)
  | _ => cases read

theorem literals_eq_ok {nVars : ℤ} {items : List Json} {literals : List ℤ} :
    items.mapM (literalOfJson nVars) = .ok literals ↔
      items = literals.map .int ∧ ∀ literal ∈ literals, literal ≠ 0 ∧ |literal| ≤ nVars := by
  induction items generalizing literals with
  | nil =>
    cases literals with
    | nil => exact ⟨fun _ => ⟨rfl, List.forall_mem_nil _⟩, fun _ => rfl⟩
    | cons z literals => exact ⟨fun h => (by cases h), fun h => (by cases h.1)⟩
  | cons item items ih =>
    simp only [List.mapM_cons, bind_eq_ok, pure_eq_ok, literalOfJson, demand_eq_ok, require_eq_ok,
      ih]
    constructor
    · rintro ⟨z, ⟨z', read, _, valid, rfl⟩, rest, ⟨rfl, others⟩, rfl⟩
      cases item with
      | int _ =>
        cases read
        exact ⟨rfl, List.forall_mem_cons.mpr ⟨valid, others⟩⟩
      | _ => cases read
    · rintro ⟨same, valid⟩
      cases literals with
      | nil => cases same
      | cons z literals =>
        cases same
        obtain ⟨first, others⟩ := List.forall_mem_cons.mp valid
        exact ⟨z, ⟨z, rfl, (), first, rfl⟩, literals, ⟨rfl, others⟩, rfl⟩

theorem clausesOfJson_eq_ok {nVars : ℤ} {count : ℕ} {items : List Json}
    {clauses : List (List ℤ)} :
    clausesOfJson nVars count items = .ok clauses ↔
      items = clauses.map (fun clause => .arr (clause.map .int)) ∧
        Sat.validateClauses nVars count clauses = .ok () := by
  induction items generalizing clauses count with
  | nil =>
    cases clauses with
    | nil => exact ⟨fun _ => ⟨rfl, rfl⟩, fun _ => rfl⟩
    | cons clause clauses => exact ⟨fun h => (by cases h), fun h => (by cases h.1)⟩
  | cons item items ih =>
    simp only [clausesOfJson, bind_eq_ok, pure_eq_ok, demand_eq_ok, require_eq_ok, ih,
      literals_eq_ok]
    constructor
    · rintro ⟨literals, read, _, short, _, few, clause, ⟨rfl, valid⟩, rest, ⟨rfl, others⟩, rfl⟩
      cases item with
      | arr _ =>
        cases read
        rw [List.length_map] at short few
        simp only [Sat.validateClauses, bind_eq_ok, require_eq_ok]
        exact ⟨rfl, (), short, (), few, (), valid, others⟩
      | _ => cases read
    · rintro ⟨same, valid⟩
      cases clauses with
      | nil => cases same
      | cons clause clauses =>
        cases same
        simp only [Sat.validateClauses, bind_eq_ok, require_eq_ok] at valid
        obtain ⟨_, short, _, few, _, ranged, others⟩ := valid
        exact ⟨clause.map .int, rfl, (), by rwa [List.length_map], (), by rwa [List.length_map],
          clause, ⟨rfl, ranged⟩, clauses, ⟨rfl, others⟩, rfl⟩

/-- The replayer reads exactly the items that the producer's validation passes. -/
theorem workItemOfJson_eq_ok {challengeId seed nVars clauses : Json} {item : SatWorkItem} :
    workItemOfJson p challengeId seed nVars clauses = .ok item ↔
      challengeId = .str item.challengeId ∧ seed = .int item.seed ∧
        nVars = .int item.satInstance.nVars ∧
        clauses = Sat.clausesJson item.satInstance.clauses ∧
        Sat.validateSatWorkItem p item = .ok () := by
  simp only [workItemOfJson, Sat.validateSatWorkItem, Sat.validateSatInstance, bind_eq_ok,
    pure_eq_ok, demand_eq_ok, require_eq_ok, clausesOfJson_eq_ok]
  constructor
  · rintro ⟨id, readId, _, hex, s, readSeed, _, seeded, n, readVars, _, ranged, items, readItems,
      _, few, cs, ⟨rfl, valid⟩, _, hashed, _, small, rfl⟩
    obtain rfl := eq_of_textOfJson readId
    obtain rfl := eq_of_intOfJson readSeed
    obtain rfl := eq_of_intOfJson readVars
    obtain rfl := eq_of_itemsOfJson readItems
    refine ⟨rfl, rfl, rfl, rfl, (), hex, (), seeded, (), ⟨(), ranged, (), ?_, valid⟩, (), hashed,
      small⟩
    simpa using few
  · rintro ⟨rfl, rfl, rfl, rfl, _, hex, _, seeded, _, ⟨_, ranged, _, few, valid⟩, _, hashed, small⟩
    exact ⟨_, rfl, (), hex, _, rfl, (), seeded, _, rfl, (), ranged, _, rfl, (),
      by simpa using few, _, ⟨rfl, valid⟩, (), hashed, (), small, rfl⟩

end Items

/-! ## Documents -/

section Documents

variable {p : Platform} {item : SatWorkItem} {certificate : SatCertificate}

theorem sortKeys_manifestDocument (item : SatWorkItem) :
    (manifestDocument item).sortKeys = .obj [("challenge_id", .str item.challengeId),
      ("instance", .obj [("clauses", Sat.clausesJson item.satInstance.clauses),
        ("n_vars", .int item.satInstance.nVars)]),
      ("schema", .str workItemSchema), ("seed", .int item.seed)] := by
  rw [manifestDocument, Json.sortKeys]
  simp only [Json.sortKeysMembers, Json.sortKeys, Sat.sortKeys_clausesJson]
  rfl

theorem sortKeys_resultDocument (item : SatWorkItem) (certificate : SatCertificate) :
    (resultDocument item certificate).sortKeys = resultDocument item certificate := by
  rw [resultDocument, Json.sortKeys]
  cases certificate.assignment with
  | none => rfl
  | some literals =>
    simp only [Json.sortKeysMembers, Json.sortKeys, Option.elim_some, Json.sortKeysItems_eq_map,
      List.map_map]
    rfl
/-- **Reading.** What the canonical writer wrote, the replayer reads, if it is
short and readable. -/
theorem strictCanonicalJson_of_canonicalJson {label : Text} {members : List (Text × Json)}
    {octets : Bytes} (written : canonicalJson p (.obj members) = some octets)
    (readable : (Json.obj members).sortKeys.Readable (workHooks p) (compactStyle p))
    (small : octets.length ≤ maxWorkArtifactBytes) :
    strictCanonicalJson p label octets =
      .ok (Json.sortMembers (Json.sortKeysMembers members)) := by
  have commas : Text.IsPrintable [0x2c] := by decide
  have colons : Text.IsPrintable [0x3a] := by decide
  have printable := printable_render commas colons _ readable
  have ascii : ((Json.obj members).sortKeys.render (compactStyle p)).IsAscii := by
    intro c member
    have := (printable c member).2
    omega
  unfold canonicalJson at written
  split at written
  case isFalse => cases written
  case isTrue =>
    cases written
    simp only [strictCanonicalJson, bind_eq_ok, require_eq_ok, demand_eq_ok, pure_eq_ok,
      asciiDecode_ascii ascii, Option.bind_some]
    exact ⟨(), small, _, loads_render rfl rfl readable, _, rfl, (),
      by rw [(Json.sortKeys_sortKeys _).1], rfl⟩

/-- What the replayer reads stood in the octets. -/
theorem loads_of_strictCanonicalJson {label : Text} {members : List (Text × Json)}
    {octets : Bytes} (read : strictCanonicalJson p label octets = .ok members) :
    (asciiDecode octets).bind (loads (workHooks p)) = some (.obj members) := by
  simp only [strictCanonicalJson, bind_eq_ok, demand_eq_ok, pure_eq_ok] at read
  obtain ⟨_, -, document, loaded, members', listed, _, -, rfl⟩ := read
  cases document with
  | obj _ =>
    cases listed
    exact loaded
  | _ => cases listed

/-- The manifest is shorter than the request that carries the item. -/
theorem length_manifest_le (item : SatWorkItem) :
    ((manifestDocument item).sortKeys.render (compactStyle p)).length ≤
      ((Sat.requestDocument item).sortKeys.render (compactStyle p)).length := by
  have keys : (quoted (Text.ofString "schema")).length + (quoted workItemSchema).length ≤
      (quoted (Text.ofString "assigned_hotkey")).length +
        (quoted (List.replicate 256 0x78)).length := by
    decide +kernel
  rw [sortKeys_manifestDocument, Sat.sortKeys_requestDocument]
  simp only [Json.render, Json.renderMembers, List.length_append, compactStyle,
    List.length_singleton, List.length_nil]
  omega

/-- What validation says of an item. -/
structure ValidItem (p : Platform) (item : SatWorkItem) : Prop where
  hex : item.challengeId.isHex 64 = true
  seed : Sat.minSeed ≤ item.seed ∧ item.seed ≤ Sat.maxSeed
  nVars : 1 ≤ item.satInstance.nVars ∧ item.satInstance.nVars ≤ Sat.maxNVars
  clauses : item.satInstance.clauses ≠ [] ∧ item.satInstance.clauses.length ≤ Sat.maxClauses
  ranged : ∀ clause ∈ item.satInstance.clauses, ∀ literal ∈ clause,
    |literal| ≤ item.satInstance.nVars
  small : ((Sat.requestDocument item).sortKeys.render (compactStyle p)).length ≤
    Sat.maxCustomerWorkBytes

theorem validItem_of_validate (valid : Sat.validateSatWorkItem p item = .ok ()) :
    ValidItem p item := by
  simp only [Sat.validateSatWorkItem, Sat.validateSatInstance, bind_eq_ok, require_eq_ok] at valid
  obtain ⟨_, hex, _, seed, _, ⟨_, nVars, _, clauses, ranged⟩, _, -, small⟩ := valid
  exact ⟨hex, seed, nVars, clauses,
    fun clause among literal listed =>
      (Sat.ranged_of_validateClauses ranged clause among literal listed).2, small⟩

/-- A literal has few digits. -/
theorem length_literal_le (valid : ValidItem p item) {literal : ℤ}
    (ranged : |literal| ≤ item.satInstance.nVars) : (natText literal.natAbs).length ≤ 10 := by
  have bound := valid.nVars.2
  unfold Sat.maxNVars at bound
  rw [Int.abs_eq_natAbs] at ranged
  exact length_natText_le_of_lt (by omega) (by decide)

theorem dumpable_ints {ints : List ℤ} (short : ∀ z ∈ ints, (natText z.natAbs).length ≤ 10) :
    (Json.arr (ints.map .int)).dumpable = true := by
  rw [Json.dumpable]
  induction ints with
  | nil => rfl
  | cons z ints ih =>
    obtain ⟨first, others⟩ := List.forall_mem_cons.mp short
    rw [List.map_cons, Json.dumpableItems, ih others, Json.dumpable, Bool.and_true]
    exact decide_eq_true (first.trans (by decide))

theorem dumpable_clausesJson {clauses : List (List ℤ)}
    (short : ∀ clause ∈ clauses, ∀ z ∈ clause, (natText z.natAbs).length ≤ 10) :
    (Sat.clausesJson clauses).dumpable = true := by
  rw [Sat.clausesJson, Json.dumpable]
  induction clauses with
  | nil => rfl
  | cons clause clauses ih =>
    obtain ⟨first, others⟩ := List.forall_mem_cons.mp short
    rw [List.map_cons, Json.dumpableItems, ih others, dumpable_ints first]
    rfl

theorem dumpable_manifest (valid : ValidItem p item) : (manifestDocument item).dumpable = true := by
  have seed : (natText item.seed.natAbs).length ≤ 64 := by
    have range := valid.seed
    unfold Sat.minSeed Sat.maxSeed at range
    exact length_natText_le_of_lt (by omega) (by decide)
  have nVars : (natText item.satInstance.nVars.natAbs).length ≤ 10 :=
    length_literal_le valid (abs_of_pos (by have := valid.nVars.1; omega)).le
  have clauses : (Sat.clausesJson item.satInstance.clauses).dumpable = true :=
    dumpable_clausesJson fun clause listed z member =>
      length_literal_le valid (valid.ranged clause listed z member)
  simp only [manifestDocument, Json.dumpable, Json.dumpableMembers, clauses, Bool.and_true,
    Bool.true_and, Bool.and_eq_true, decide_eq_true_eq]
  omega

theorem plain_manifest (valid : ValidItem p item) : (manifestDocument item).Plain True := by
  refine ⟨by simp, ?_⟩
  simp only [Json.PlainMembers, Json.Plain, Sat.plain_clausesJson, noSurrogate_of_isHex valid.hex,
    List.map_cons, List.map_nil, true_and, and_true]
  decide

/-- The published item is read back by the replayer. -/
theorem replayItem_of_manifest {octets : Bytes} {expected : WorkExpectation}
    (valid : Sat.validateSatWorkItem p item = .ok ())
    (written : satManifestBytes p item = some octets)
    (bound : expected.challengeId = item.challengeId) :
    replayItem p expected octets = .ok item := by
  have facts := validItem_of_validate valid
  have readable := Json.readable_sortKeys (faithful_workHooks p) _ (plain_manifest facts)
    (dumpable_manifest facts)
  have small : octets.length ≤ maxWorkArtifactBytes := by
    have shorter := length_manifest_le (p := p) item
    have limit := facts.small
    unfold satManifestBytes canonicalJson at written
    rw [if_pos (dumpable_manifest facts)] at written
    cases written
    rw [Text.length_ascii]
    unfold Sat.maxCustomerWorkBytes at limit
    unfold maxWorkArtifactBytes
    omega
  have read : strictCanonicalJson p "work item" octets = .ok _ :=
    strictCanonicalJson_of_canonicalJson written readable small
  have sorted := sortKeys_manifestDocument item
  rw [manifestDocument, Json.sortKeys, Json.obj.injEq] at sorted
  rw [sorted] at read
  simp only [replayItem, bind_eq_ok, require_eq_ok, demand_eq_ok, pure_eq_ok, mapError_eq_ok,
    workItemOfJson_eq_ok, bound]
  exact ⟨_, read, (), rfl, (), rfl, (), Json.equalsText_iff.mpr rfl, _, rfl, (), rfl, item,
    ⟨rfl, rfl, rfl, rfl, valid⟩, (), facts.clauses.1, rfl⟩

end Documents

/-! ## Results -/

section Results

variable {p : Platform} {r : RandomSource} {lane : SatLane} {miner : RemoteMiner}
  {item : SatWorkItem} {certificate : SatCertificate} {answer : Except Text Bytes}
  {outcome : SatCertificate × SatLane}

/-- What a certificate of a remote miner says. -/
theorem certificate_of_doSatWork (worked : doSatWork p miner item answer = .ok certificate) :
    Sat.validateSatWorkItem p item = .ok () ∧ certificate.assignedHotkey = miner.hotkey ∧
      certificate.workUnits = .finite (item.satInstance.clauses.length : ℕ) := by
  simp only [doSatWork, bind_eq_ok, pure_eq_ok] at worked
  obtain ⟨_, valid, _, -, _, -, _, -, _, -, _, -, _, -, _, -, _, -, _, -, _, -, rfl⟩ := worked
  exact ⟨valid, rfl, rfl⟩

/-- A paid certificate: what the miner returned, and that the lane accepted its
assignment. -/
structure Paid (p : Platform) (miner : RemoteMiner) (item : SatWorkItem)
    (certificate : SatCertificate) (literals : List ℤ) : Prop where
  valid : Sat.validateSatWorkItem p item = .ok ()
  hotkey : certificate.assignedHotkey = miner.hotkey
  units : certificate.workUnits = .finite (item.satInstance.clauses.length : ℕ)
  satisfiable : certificate.satisfiable = true
  assignment : certificate.assignment = some literals
  length : (literals.length : ℤ) = item.satInstance.nVars
  names : Sat.namesVariables item.satInstance.nVars literals
  satisfies : Sat.satisfiesClauses item.satInstance.clauses literals = true

theorem paid_of_verify (worked : doSatWork p miner item answer = .ok certificate)
    (accepted : lane.verify r item certificate = some outcome) :
    ∃ literals, Paid p miner item certificate literals := by
  obtain ⟨valid, hotkey, units⟩ := certificate_of_doSatWork worked
  unfold SatLane.verify at accepted
  dsimp only at accepted
  split at accepted
  case isFalse => cases accepted
  case isTrue checks =>
    obtain ⟨-, -, satisfiable, witnessed⟩ := checks
    obtain ⟨literals, assignment, checked⟩ := (Option.any_eq_true ..).mp witnessed
    simp only [SatLane.witnesses, Bool.decide_and, Bool.decide_eq_true, Bool.and_eq_true,
      decide_eq_true_eq] at checked
    exact ⟨literals, valid, hotkey, units, satisfiable, assignment, checked.1, checked.2.1,
      checked.2.2⟩

theorem length_wholeText_le {n : ℕ} (small : n ≤ Sat.maxClauses) :
    (Decimal.wholeText n).length ≤ 16 := by
  have digits : (natText n).length ≤ 14 :=
    length_natText_le_of_lt (lt_of_le_of_lt small (by decide)) (by decide)
  rw [Decimal.wholeText, List.length_append]
  exact Nat.add_le_add digits (le_refl 2)

theorem length_literals_le {literals : List ℤ} (paid : Paid p miner item certificate literals) :
    ∀ z ∈ literals, (natText z.natAbs).length ≤ 10 :=
  fun z listed => length_literal_le (validItem_of_validate paid.valid) (paid.names.1 z listed).2

theorem resultDocument_of_paid {literals : List ℤ} (paid : Paid p miner item certificate literals) :
    resultDocument item certificate = .obj [("assigned_hotkey", .str miner.hotkey),
      ("assignment", .arr (literals.map .int)), ("challenge_id", .str item.challengeId),
      ("satisfiable", .bool true),
      ("work_units", .float (.finite (item.satInstance.clauses.length : ℕ)))] := by
  rw [resultDocument, paid.hotkey, paid.assignment, paid.satisfiable, paid.units]
  rfl

/-- The runtime writes the result of a paid certificate. -/
theorem satResultBytes_of_paid {literals : List ℤ} (paid : Paid p miner item certificate literals) :
    satResultBytes p item certificate =
      some ((resultDocument item certificate).render (compactStyle p)).ascii := by
  have dumpable : (resultDocument item certificate).dumpable = true := by
    rw [resultDocument_of_paid paid]
    simp only [Json.dumpable, Json.dumpableMembers, Bool.true_and, Bool.and_true]
    exact dumpable_ints (length_literals_le paid)
  rw [satResultBytes, canonicalJson, if_pos dumpable, sortKeys_resultDocument]

/-- The result is short. -/
theorem length_result_le {literals : List ℤ} (whole : p.WritesWhole)
    (paid : Paid p miner item certificate literals) :
    ((resultDocument item certificate).render (compactStyle p)).length ≤ maxWorkArtifactBytes := by
  have facts := validItem_of_validate paid.valid
  -- each member of the document has a bound of its own
  have hotkey := length_quoted_le miner.hotkey
  have hotkeyBound := miner.bounded
  have challenge := length_quoted_le item.challengeId
  have challengeLength : item.challengeId.length = 64 := by
    have hex := facts.hex
    rw [Text.isHex, Bool.and_eq_true, beq_iff_eq] at hex
    exact hex.1
  have units : (p.floats.repr (item.satInstance.clauses.length : ℕ)).length ≤ 16 := by
    have few := facts.clauses.2
    rw [whole _ (lt_of_le_of_lt few (by decide))]
    exact length_wholeText_le few
  have texts : ∀ z ∈ literals, (intText z).length ≤ 11 := by
    intro z listed
    have digits := length_literals_le paid z listed
    unfold intText
    split
    · rw [List.length_append]
      exact (Nat.add_le_add (le_refl 1) digits).trans (by decide)
    · exact digits.trans (by decide)
  have commas : (compactStyle p).itemSeparator = [0x2c] := rfl
  have assignment := length_render_ints_le commas texts
  have count := paid.length
  have limit := facts.nVars.2
  have keys : (quoted (Text.ofString "assigned_hotkey")).length +
      (quoted (Text.ofString "assignment")).length +
      (quoted (Text.ofString "challenge_id")).length +
      (quoted (Text.ofString "satisfiable")).length +
      (quoted (Text.ofString "work_units")).length ≤ 100 := by decide +kernel
  have truth : (Text.ofString "true").length = 4 := by decide
  -- the sum stays below the limit
  rw [resultDocument_of_paid paid]
  simp only [Json.render, Json.renderMembers, List.length_append, List.length_cons,
    List.length_nil, truth] at assignment ⊢
  simp only [compactStyle, List.length_cons, List.length_nil] at assignment ⊢
  unfold Sat.maxNVars at limit
  unfold maxHotkeyLength at hotkeyBound
  unfold maxWorkArtifactBytes
  have few : literals.length * 12 ≤ 512 * 12 := Nat.mul_le_mul_right _ (by omega)
  omega

/-- The result document of a paid certificate is readable, unless the hotkey holds
a split surrogate pair. -/
theorem readable_result {literals : List ℤ} (paid : Paid p miner item certificate literals)
    (unpaired : miner.hotkey.Unpaired) :
    (resultDocument item certificate).Readable (workHooks p) (compactStyle p) := by
  have assignment : (Json.arr (literals.map .int)).Readable (workHooks p) (compactStyle p) := by
    have readable := Json.readable_sortKeys (faithful_workHooks p) _
      (plain_ints True literals) (dumpable_ints (length_literals_le paid))
    rwa [sortKeys_ints] at readable
  have challenge : item.challengeId.Unpaired :=
    (noSurrogate_of_isHex (validItem_of_validate paid.valid).hex).unpaired
  have units : (Json.float (.finite (item.satInstance.clauses.length : ℕ))).Readable (workHooks p)
      (compactStyle p) := ⟨p.floats.literal _, p.floats.parse_repr _⟩
  have keys : [Text.ofString "assigned_hotkey", Text.ofString "assignment",
      Text.ofString "challenge_id", Text.ofString "satisfiable",
      Text.ofString "work_units"].Nodup := by decide
  rw [resultDocument_of_paid paid]
  refine ⟨(faithful_workHooks p).pairs _ (by exact keys), ?_⟩
  exact ⟨by decide, unpaired, by decide, assignment, by decide, challenge, by decide, trivial,
    by decide, units, trivial⟩

/-- The replayer accepts the published result. -/
theorem replayResult_of_paid {literals : List ℤ} {expected : WorkExpectation}
    (whole : p.WritesWhole) (paid : Paid p miner item certificate literals)
    (unpaired : miner.hotkey.Unpaired) (challenge : expected.challengeId = item.challengeId)
    (hotkey : expected.hotkey = miner.hotkey) :
    ∃ result, replayResult p expected item.satInstance
        ((resultDocument item certificate).render (compactStyle p)).ascii =
      .ok (result, literals) ∧ isNumber (field result "work_units") = true := by
  have written := satResultBytes_of_paid paid
  rw [satResultBytes, resultDocument] at written
  have readable := readable_result paid unpaired
  rw [← sortKeys_resultDocument] at readable
  have small := length_result_le whole paid
  rw [← Text.length_ascii] at small
  have read : strictCanonicalJson p "work result" _ = .ok _ :=
    strictCanonicalJson_of_canonicalJson written readable small
  have sorted := sortKeys_resultDocument item certificate
  rw [resultDocument_of_paid paid, Json.sortKeys, Json.obj.injEq] at sorted
  have shape := resultDocument_of_paid paid
  rw [resultDocument, Json.obj.injEq] at shape
  rw [shape, sorted] at read
  have listed : (literals.map Json.int).mapM intOfJson = some literals :=
    intsOfJson_arr literals
  refine ⟨[("assigned_hotkey", .str miner.hotkey), ("assignment", .arr (literals.map .int)),
    ("challenge_id", .str item.challengeId), ("satisfiable", .bool true),
    ("work_units", .float (.finite (item.satInstance.clauses.length : ℕ)))], ?_, rfl⟩
  simp only [replayResult, bind_eq_ok, require_eq_ok, demand_eq_ok, pure_eq_ok, challenge, hotkey,
    resultDocument_of_paid paid]
  refine ⟨_, read, (), rfl, (), Json.equalsText_iff.mpr rfl, (), Json.equalsText_iff.mpr rfl, (),
    rfl, literals.map .int, rfl, (), ?_, literals, listed, (), paid.names, (), paid.satisfies, rfl⟩
  rw [List.length_map]
  exact paid.length

/-- The result is written in ASCII, whatever the hotkey. -/
theorem isAscii_result {literals : List ℤ} (paid : Paid p miner item certificate literals) :
    ((resultDocument item certificate).render (compactStyle p)).IsAscii := by
  have commas : Text.IsPrintable [0x2c] := by decide
  have colons : Text.IsPrintable [0x3a] := by decide
  have assignment : (Json.arr (literals.map .int)).Readable (workHooks p) (compactStyle p) := by
    have readable := Json.readable_sortKeys (faithful_workHooks p) _
      (plain_ints True literals) (dumpable_ints (length_literals_le paid))
    rwa [sortKeys_ints] at readable
  have literalsText := printable_render commas colons _ assignment
  have truth : (Text.ofString "true").IsPrintable := by decide
  have units := printable_of_isFloatLiteral (p.floats.literal (item.satInstance.clauses.length : ℕ))
  have printable : ((resultDocument item certificate).render (compactStyle p)).IsPrintable := by
    rw [resultDocument_of_paid paid, Json.render]
    simp only [Json.renderMembers, Text.isPrintable_append, printable_quoted, literalsText,
      Json.render, truth, and_true, true_and]
    simp only [compactStyle, commas, colons, units, Text.isPrintable_nil, Text.isPrintable_cons]
    decide
  intro c member
  have := (printable c member).2
  omega

/-- The replayer refuses a result whose hotkey holds a split pair. -/
theorem unpaired_of_replayResult {literals : List ℤ} {expected : WorkExpectation}
    {found : List (Text × Json) × List ℤ} (paid : Paid p miner item certificate literals)
    (hotkey : expected.hotkey = miner.hotkey)
    (accepted : replayResult p expected item.satInstance
      ((resultDocument item certificate).render (compactStyle p)).ascii = .ok found) :
    miner.hotkey.Unpaired := by
  simp only [replayResult, bind_eq_ok, require_eq_ok] at accepted
  obtain ⟨members, read, _, -, _, -, _, named, -⟩ := accepted
  have loaded := loads_of_strictCanonicalJson read
  rw [Option.bind_eq_some_iff] at loaded
  obtain ⟨text, decoded, loaded⟩ := loaded
  rw [asciiDecode_ascii (isAscii_result paid)] at decoded
  cases decoded
  rw [resultDocument_of_paid paid] at loaded
  obtain ⟨pairs, members', kept, same⟩ := loads_first_string rfl (by decide) loaded
  cases same
  have first : members = (Text.ofString "assigned_hotkey", .str miner.hotkey.joinPairs) :: pairs := by
    have strict : strictPairs ((Text.ofString "assigned_hotkey",
        .str miner.hotkey.joinPairs) :: pairs) = some members := kept
    unfold strictPairs at strict
    split_ifs at strict
    exact (Option.some.inj strict).symm
  rw [hotkey, Json.equalsText_iff, first, Json.lookup, if_pos rfl, Option.some.injEq,
    Json.str.injEq] at named
  exact Text.joinPairs_eq_self.mp named

/-- The lane's derived units, read as a decimal. -/
theorem decimalOfUnits_derived (whole : p.WritesWhole)
    (few : item.satInstance.clauses.length ≤ Sat.maxClauses) :
    decimalOfUnits p (Sat.derivedWorkUnits r item) =
      .ok (.finite (Sat.derivedWorkUnits r item)) := by
  have read : ∀ n : ℕ, n < 10 ^ 16 → decimalOfUnits p n = .ok (.finite n) := by
    intro n small
    rw [decimalOfUnits, whole n small, Decimal.parse_wholeText]
    rfl
  unfold Sat.derivedWorkUnits
  split
  · exact read _ (lt_of_le_of_lt few (by decide))
  · exact read 20 (by decide)

/-- **Producer to replayer.** A paid certificate replays exactly when the hotkey
holds no split surrogate pair. -/
theorem replays_iff_unpaired (whole : p.WritesWhole)
    (worked : doSatWork p miner item answer = .ok certificate)
    (accepted : lane.verify r item certificate = some outcome) :
    ∃ manifest result, satManifestBytes p item = some manifest ∧
      satResultBytes p item certificate = some result ∧
      (verifyWorkArtifacts p r manifest result ⟨sha256Digest manifest, sha256Digest result,
          item.challengeId, miner.hotkey, outcome.1.workUnits⟩ = .ok () ↔
        miner.hotkey.Unpaired) := by
  obtain ⟨literals, paid⟩ := paid_of_verify worked accepted
  have facts := validItem_of_validate paid.valid
  have manifest : satManifestBytes p item =
      some ((manifestDocument item).sortKeys.render (compactStyle p)).ascii := by
    rw [satManifestBytes, canonicalJson, if_pos (dumpable_manifest facts)]
  have units : outcome.1.workUnits = .finite (Sat.derivedWorkUnits r item) := by
    unfold SatLane.verify at accepted
    dsimp only at accepted
    split at accepted
    · cases accepted
      rfl
    · cases accepted
  refine ⟨_, _, manifest, satResultBytes_of_paid paid, ?_⟩
  rw [units]
  set expected : WorkExpectation := ⟨sha256Digest _, sha256Digest _, item.challengeId,
    miner.hotkey, .finite (Sat.derivedWorkUnits r item)⟩ with stated
  have itemRead : replayItem p expected _ = .ok item :=
    replayItem_of_manifest paid.valid manifest rfl
  simp only [verifyWorkArtifacts, bind_eq_ok, require_eq_ok]
  constructor
  · rintro ⟨_, -, _, -, item', itemRead', found, read, -⟩
    cases itemRead.symm.trans itemRead'
    exact unpaired_of_replayResult paid rfl read
  · intro unpaired
    obtain ⟨result, read, number⟩ : ∃ result, replayResult p expected item.satInstance _ =
        .ok (result, literals) ∧ _ := replayResult_of_paid whole paid unpaired rfl rfl
    exact ⟨(), rfl, (), rfl, item, itemRead, _, read, _,
      decimalOfUnits_derived whole facts.clauses.2, (), number, rfl⟩

/-- **Replayer to producer.** What the replayer accepts is a valid item and a
satisfying assignment of it, at the derived units. -/
theorem real_work_of_verify {workItemBytes resultBytes : Bytes} {expected : WorkExpectation}
    (whole : p.WritesWhole)
    (replayed : verifyWorkArtifacts p r workItemBytes resultBytes expected = .ok ()) :
    ∃ (item : SatWorkItem) (document satInstance result : List (Text × Json))
      (literals : List ℤ),
      (asciiDecode workItemBytes).bind (loads (workHooks p)) = some (.obj document) ∧
      field document "instance" = .obj satInstance ∧
      field satInstance "n_vars" = .int item.satInstance.nVars ∧
      field satInstance "clauses" = Sat.clausesJson item.satInstance.clauses ∧
      field document "seed" = .int item.seed ∧
      (asciiDecode resultBytes).bind (loads (workHooks p)) = some (.obj result) ∧
      field result "assignment" = .arr (literals.map .int) ∧
      Sat.validateSatInstance item.satInstance = .ok () ∧
      literals.Nodup ∧ Sat.Solves literals item.satInstance ∧
      expected.units = .finite (Sat.derivedWorkUnits r item) := by
  simp only [verifyWorkArtifacts, replayItem, replayResult, bind_eq_ok, require_eq_ok, pure_eq_ok,
    demand_eq_ok, mapError_eq_ok] at replayed
  -- what every check of the replayer found
  obtain ⟨_, -, _, -, item, ⟨document, readItem, _, -, _, -, _, -, satInstance, listed, _, -, item',
    decoded, _, -, rfl⟩, found, ⟨result, readResult, _, -, _, -, _, -, _, -, items, items', _, length,
    literals, ints, _, names, _, satisfies, same⟩, units, derived, _, -, agreed⟩ := replayed
  obtain ⟨-, seed, nVars, clauses, valid⟩ := workItemOfJson_eq_ok.mp decoded
  have facts := validItem_of_validate valid
  have validInstance : Sat.validateSatInstance item'.satInstance = .ok () := by
    simp only [Sat.validateSatWorkItem, bind_eq_ok, require_eq_ok] at valid
    obtain ⟨_, -, _, -, _, validInstance, -⟩ := valid
    exact validInstance
  have sameItems : items = literals.map .int := eq_map_of_mapM_intOfJson ints
  -- as many literals as variables, each naming another one
  have count : (literals.length : ℤ) = item'.satInstance.nVars := by
    rw [← length, sameItems, List.length_map]
  have satisfied : ∀ clause ∈ item'.satInstance.clauses, ∃ literal ∈ clause,
      literal ∈ literals := by
    simpa [Sat.satisfiesClauses] using satisfies
  refine ⟨item', document, satInstance, result, literals, loads_of_strictCanonicalJson readItem, ?_,
    nVars, clauses, seed, loads_of_strictCanonicalJson readResult, ?_, validInstance,
    (Sat.nodup_of_namesVariables count names).of_map _, Sat.solves_of_checks count names satisfied,
    ?_⟩
  · exact eq_of_membersOfJson listed
  · exact (eq_of_itemsOfJson items').trans (congrArg Json.arr sameItems)
  · rw [decimalOfUnits_derived whole facts.clauses.2] at derived
    rw [agreed, ← Except.ok.inj derived]

end Results

/-- **Agreement.** For every certificate that a remote miner returned and the lane
accepted, the replayer accepts the published bytes at the lane's derived units if
and only if the hotkey holds no high surrogate right before a low one. Whatever
the replayer accepts is a valid instance with a satisfying assignment at the
derived units. -/
theorem producer_replayer_agreement (p : Platform) (r : RandomSource) (whole : p.WritesWhole) :
    (∀ (lane : SatLane) (miner : RemoteMiner) (item : SatWorkItem) (answer : Except Text Bytes)
        (certificate : SatCertificate) (outcome : SatCertificate × SatLane),
      doSatWork p miner item answer = .ok certificate →
      lane.verify r item certificate = some outcome →
      ∃ manifest result, satManifestBytes p item = some manifest ∧
        satResultBytes p item certificate = some result ∧
        (verifyWorkArtifacts p r manifest result ⟨sha256Digest manifest, sha256Digest result,
            item.challengeId, miner.hotkey, outcome.1.workUnits⟩ = .ok () ↔
          miner.hotkey.Unpaired)) ∧
    ∀ (workItemBytes resultBytes : Bytes) (expected : WorkExpectation),
      verifyWorkArtifacts p r workItemBytes resultBytes expected = .ok () →
      ∃ (item : SatWorkItem) (document satInstance result : List (Text × Json))
        (literals : List ℤ),
        (asciiDecode workItemBytes).bind (loads (workHooks p)) = some (.obj document) ∧
        field document "instance" = .obj satInstance ∧
        field satInstance "n_vars" = .int item.satInstance.nVars ∧
        field satInstance "clauses" = Sat.clausesJson item.satInstance.clauses ∧
        field document "seed" = .int item.seed ∧
        (asciiDecode resultBytes).bind (loads (workHooks p)) = some (.obj result) ∧
        field result "assignment" = .arr (literals.map .int) ∧
        Sat.validateSatInstance item.satInstance = .ok () ∧
        literals.Nodup ∧ Sat.Solves literals item.satInstance ∧
        expected.units = .finite (Sat.derivedWorkUnits r item) := by
  constructor
  · intro lane miner item answer certificate outcome worked accepted
    exact replays_iff_unpaired whole worked accepted
  · intro workItemBytes resultBytes expected replayed
    exact real_work_of_verify whole replayed

/-! ## Concrete work -/

/-- The answer of a worker to `sampleItem` under a hotkey given by its octets. -/
def sampleAnswer (hotkey : Bytes) : Bytes :=
  (Text.ofString "\x7b\"satisfiable\":true,\"assignment\":[1],\"work_units\":1,").ascii ++
    (Text.ofString "\"challenge_id\":\"").ascii ++ sampleItem.challengeId.ascii ++
    (Text.ofString "\",\"assigned_hotkey\":\"").ascii ++ hotkey ++
    (Text.ofString "\"\x7d").ascii

def sampleMiner (hotkey : Text) (fits : hotkey ≠ [] ∧ hotkey.length ≤ maxHotkeyLength) :
    RemoteMiner := ⟨hotkey, maxSatResponseBody, fits.1, fits.2⟩

def sampleCertificate (hotkey : Text) : SatCertificate :=
  ⟨true, some [1], .finite 1, sampleItem.challengeId, hotkey⟩

/-- A lane that handed `sampleItem` to a miner. -/
def sampleLane (hotkey : Text) : SatLane :=
  SatLane.issue ⟨[], "lane", 0, [], [], [], []⟩ hotkey sampleItem

theorem writesWhole_sample : Platform.sample.WritesWhole := by
  intro n _
  have numerator : ((n : ℚ)).num = n := Rat.num_natCast n
  have denominator : ((n : ℚ)).den = 1 := Rat.den_natCast n
  have zero : natText 0 = [0x30] := by decide
  have sign : intText (n : ℤ) = natText n := rfl
  show FloatCodec.ratioText n = Decimal.wholeText n
  rw [FloatCodec.ratioText, numerator, denominator, sign, FloatCodec.denominatorText, if_pos rfl,
    zero]
  rfl

theorem doSatWork_sample : doSatWork .sample (sampleMiner "worker" (by decide)) sampleItem
    (.ok (sampleAnswer (Text.ascii "worker"))) = .ok (sampleCertificate "worker") := by
  decide +kernel

theorem verify_sample (hotkey : Text) (nonempty : hotkey ≠ []) :
    ∃ outcome, (sampleLane hotkey).verify sampleRandom sampleItem (sampleCertificate hotkey) =
      some outcome := by
  have accounted : (sampleLane hotkey).accounted sampleItem (sampleCertificate hotkey) = true := by
    simp [SatLane.accounted, sampleLane, SatLane.issue, sampleCertificate, nonempty]
  have units : 0 ≤ Sat.derivedWorkUnits sampleRandom sampleItem := by
    unfold Sat.derivedWorkUnits
    split
    · exact Nat.cast_nonneg _
    · decide
  have witnessed : (sampleCertificate hotkey).assignment.any
      (SatLane.witnesses sampleItem.satInstance) = true := rfl
  exact ⟨_, if_pos ⟨accounted, units, rfl, witnessed⟩⟩

theorem producer_replayer_agreement_worker :
    ∃ manifest result outcome, satManifestBytes .sample sampleItem = some manifest ∧
      satResultBytes .sample sampleItem (sampleCertificate "worker") = some result ∧
      verifyWorkArtifacts .sample sampleRandom manifest result ⟨sha256Digest manifest,
        sha256Digest result, sampleItem.challengeId, "worker", outcome⟩ = .ok () := by
  obtain ⟨outcome, accepted⟩ := verify_sample "worker" (by decide)
  obtain ⟨manifest, result, item, certificate, replays⟩ :=
    (producer_replayer_agreement .sample sampleRandom writesWhole_sample).1 _ _ _ _ _ _
      doSatWork_sample accepted
  exact ⟨manifest, result, _, item, certificate, replays.mpr (by decide)⟩

/-- A hotkey of two characters that are the halves of one pair is paid and does
not replay. -/
theorem not_producer_replayer_agreement_split :
    ¬ ∀ (p : Platform) (r : RandomSource), p.WritesWhole →
      ∀ (lane : SatLane) (miner : RemoteMiner) (item : SatWorkItem) (answer : Except Text Bytes)
        (certificate : SatCertificate) (outcome : SatCertificate × SatLane),
      doSatWork p miner item answer = .ok certificate →
      lane.verify r item certificate = some outcome →
      ∃ manifest result, satManifestBytes p item = some manifest ∧
        satResultBytes p item certificate = some result ∧
        verifyWorkArtifacts p r manifest result ⟨sha256Digest manifest, sha256Digest result,
          item.challengeId, miner.hotkey, outcome.1.workUnits⟩ = .ok () := by
  intro agreement
  have worked : doSatWork .sample (sampleMiner [0xd83d, 0xde00] (by decide)) sampleItem
      (.ok (sampleAnswer [0xed, 0xa0, 0xbd, 0xed, 0xb8, 0x80])) =
      .ok (sampleCertificate [0xd83d, 0xde00]) := by
    decide +kernel
  obtain ⟨outcome, accepted⟩ := verify_sample [0xd83d, 0xde00] (by decide)
  obtain ⟨manifest, result, item, certificate, replayed⟩ :=
    agreement .sample sampleRandom writesWhole_sample _ _ _ _ _ _ worked accepted
  obtain ⟨manifest', result', item', certificate', replays⟩ :=
    replays_iff_unpaired writesWhole_sample worked accepted
  cases item.symm.trans item'
  cases certificate.symm.trans certificate'
  exact absurd (replays.mp replayed) (by decide)

end Cathedral.Provenance
