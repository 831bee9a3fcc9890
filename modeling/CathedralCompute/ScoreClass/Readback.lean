import CathedralCompute.Ledger.Steps
import CathedralCompute.Provenance.Recompute

/-!
# An exported report reads back

The bytes of a fresh report, parsed the way a validator parses them, give the
entries the exporter wrote. The canonical writer escapes everything outside
ASCII, so all that is needed is that no text of the report holds a surrogate:
every text is a checked identifier, a digest, a number or an encodable argument.
-/

set_option autoImplicit false

namespace Cathedral.ScoreClass

open Codec Semantics Ledger Provenance

/-! ## Encodable texts -/

theorem isAscii_of_isPublicIdentifier {t : Text} (h : isPublicIdentifier t = true) :
    t.IsAscii := by
  cases t with
  | nil => cases h
  | cons c rest =>
    simp only [isPublicIdentifier, Bool.and_eq_true] at h
    refine Text.isAscii_cons.mpr ⟨Text.val_lt_of_isAlphanumeric h.1.1,
      Text.isAscii_of_all (fun d member => ?_) h.2⟩
    simp only [Bool.or_eq_true, decide_eq_true_eq] at member
    rcases member with (((letter | rfl) | rfl) | rfl) | rfl
    · exact Text.val_lt_of_isAlphanumeric letter
    all_goals decide

theorem isAscii_of_isIdentifier {t : Text} (h : isIdentifier t = true) : t.IsAscii := by
  cases t with
  | nil => cases h
  | cons c rest =>
    simp only [isIdentifier, Bool.and_eq_true] at h
    refine Text.isAscii_cons.mpr ⟨Text.val_lt_of_inRange h.1.1 (by decide),
      Text.isAscii_of_all (fun d member => ?_) h.2⟩
    simp only [Bool.or_eq_true, decide_eq_true_eq] at member
    rcases member with (letter | digit) | rfl
    · exact Text.val_lt_of_inRange letter (by decide)
    · exact Text.val_lt_of_isDigit digit
    · decide

theorem isAscii_of_isReportDigest {t : Text} (h : isReportDigest t = true) : t.IsAscii := by
  rcases Bool.or_eq_true_iff.mp h with plain | receipt
  · exact Text.isAscii_of_isDigest (by decide) plain
  · exact Text.isAscii_of_isDigest (by decide) receipt

theorem isAscii_of_isLaunchHotkey {t : Text} (h : isLaunchHotkey t = true) : t.IsAscii := by
  simp only [isLaunchHotkey, Bool.and_eq_true] at h
  exact Text.isAscii_of_all (fun _ => Text.val_lt_of_isVisible) h.2

theorem isAscii_of_isBlockHash {t : Text} (h : isBlockHash t = true) :
    (Text.removeHead "0x" t).IsAscii := by
  simp only [isBlockHash, Text.isHex, Bool.and_eq_true] at h
  exact Text.isAscii_of_all (fun _ => Text.val_lt_of_isLowerHex) h.2

theorem isAscii_of_metricText? {units : ℚ≥0} {t : Text} (text : metricText? units = some t) :
    t.IsAscii := by
  obtain ⟨written, -⟩ := Option.filter_eq_some_iff.mp text
  obtain ⟨k, -, rfl⟩ := Option.map_eq_some_iff.mp written
  intro c member
  rcases Decimal.mem_placePoint member with digit | rfl
  · exact Text.val_lt_of_isDigit digit
  · decide

theorem isAscii_percentQuote {t quoted : Text} (h : percentQuote t = some quoted) :
    quoted.IsAscii := by
  obtain ⟨octets, -, rfl⟩ := Option.map_eq_some_iff.mp h
  intro c member
  obtain ⟨octet, -, member⟩ := List.mem_flatMap.mp member
  have bounded := octet.toNat_lt
  dsimp only at member
  split at member
  case isTrue safe =>
    rw [List.mem_singleton.mp member]
    rcases safe with letter | listed
    · exact Text.val_lt_of_isAlphanumeric letter
    · have ascii : Text.IsAscii [0x5f, 0x2e, 0x2d, 0x7e, 0x3a] := by decide
      exact ascii _ listed
  case isFalse =>
    simp only [List.mem_cons, List.not_mem_nil, or_false] at member
    rcases member with rfl | rfl | rfl
    · decide
    all_goals
      split
      all_goals
        rw [Fin.val_ofNat, Nat.mod_eq_of_lt (by omega)]
        omega

/-! ## Stored receipts -/

theorem noSurrogate_of_shapeMembers {members : List (Text × Json)}
    (encodable : (shapeMembers members).encodable = true) {key t : Text}
    (found : Json.lookup key members = some (.str t)) : t.NoSurrogate := by
  induction members with
  | nil => cases found
  | cons member members ih =>
    obtain ⟨name, value⟩ := member
    simp only [shapeMembers, Shape.beside, Bool.and_eq_true] at encodable
    rw [Json.lookup] at found
    split at found
    case isTrue =>
      cases found
      simpa [shape] using encodable.1.2
    case isFalse => exact ih encodable.2 found

/-- The texts of a receipt are encodable. -/
theorem noSurrogate_of_receipt {data : Bytes} {receipt : Json} {key t : Text}
    (parsed : parseReceiptJson data = some receipt)
    (named : Json.equalsText t (receipt.get? key) = true) : t.NoSurrogate := by
  unfold parseReceiptJson at parsed
  split at parsed
  case isTrue => cases parsed
  case isFalse =>
    split at parsed
    case h_2 => cases parsed
    case h_1 members _ =>
      simp only [Option.ite_none_right_eq_some, Option.some.injEq] at parsed
      obtain ⟨⟨-, -, encodable⟩, rfl⟩ := parsed
      have found : Json.lookup key members = some (.str t) := Json.equalsText_iff.mp named
      cases members with
      | nil => cases found
      | cons member members =>
        exact noSurrogate_of_shapeMembers (by simpa [shape, Shape.around] using encodable) found

theorem noSurrogate_of_receiptUri {p : Platform} {base : Option Text} {receiptId : Text}
    {uri : Option Text} (built : receiptUri p base receiptId = .ok uri) :
    ∀ t ∈ uri, t.NoSurrogate := by
  cases base with
  | none =>
    cases built
    exact fun _ outside => (nomatch outside)
  | some base =>
    simp only [receiptUri, bind_eq_ok, demand_eq_ok, pure_eq_ok] at built
    obtain ⟨-, -, octets, encoded, -, -, _, -, -, -, quoted, written, rfl⟩ := built
    rintro _ ⟨⟩
    have suffix : (Text.ofString ".json").IsAscii := by decide
    exact Text.noSurrogate_append.mpr ⟨Text.noSurrogate_append.mpr
      ⟨Text.noSurrogate_of_utf8 encoded, (isAscii_percentQuote written).noSurrogate⟩,
      suffix.noSurrogate⟩

/-! ## Entries -/

/-- The entry gives the hotkey these units: its metric text denotes them, and it
refers to a receipt exactly when they are positive. -/
structure ReportEntry.States (p : Platform) (entry : ReportEntry) (hotkey : Text) (units : ℚ≥0) :
    Prop where
  named : entry.hotkey = hotkey
  text : Decimal.parse p.unicodeDigit entry.verifiedWorkUnits = some (.finite units)
  encodable : entry.verifiedWorkUnits.NoSurrogate ∧ ∀ reason ∈ entry.reasons, reason.NoSurrogate
  positive : 0 < units → ∃ receiptId receiptDigest uri,
    receiptId.NoSurrogate ∧ receiptDigest.NoSurrogate ∧ (∀ t ∈ uri, t.NoSurrogate) ∧
      entry.evidence = [receiptEvidence receiptId receiptDigest uri]
  zero : ¬ 0 < units → entry.evidence = []

/-- The units the report states for a hotkey: the frozen ones where the metric
grammar holds them. -/
def metricUnits (snapshot : ScoreClassSnapshot) (hotkey : Text) : ℚ≥0 :=
  match snapshot.rows.find? fun row => row.score.hotkey = hotkey with
  | none => 0
  | some frozen =>
    if (metricText? frozen.score.workUnits).isSome then frozen.score.workUnits else 0

theorem parse_zero (p : Platform) :
    Decimal.parse p.unicodeDigit (Text.ofString "0") = some (.finite (0 : ℚ≥0)) := by
  have text : Text.ofString "0" = Decimal.placePoint 0 0 := by decide
  rw [text, Decimal.parse_placePoint]
  simp

/-- An entry without units. -/
theorem states_zero (p : Platform) (hotkey : Text) {reason : String}
    (encodable : (Text.ofString reason).NoSurrogate) :
    ReportEntry.States p ⟨hotkey, "0", [reason], []⟩ hotkey 0 where
  named := rfl
  text := parse_zero p
  encodable := by
    have zero : (Text.ofString "0").NoSurrogate := by decide
    refine ⟨zero, fun other listed => ?_⟩
    rw [List.mem_singleton.mp listed]
    exact encodable
  positive impossible := absurd impossible (lt_irrefl 0)
  zero _ := rfl

theorem parse_metricText? {p : Platform} {units : ℚ≥0} {t : Text}
    (text : metricText? units = some t) :
    Decimal.parse p.unicodeDigit t = some (.finite units) := by
  obtain ⟨written, -⟩ := Option.filter_eq_some_iff.mp text
  exact Decimal.parse_format p.unicodeDigit (NNRat.cast_nonneg units) written

/-- What the checks on a stored receipt give. -/
theorem verifiedReceipt_eq_ok {p : Platform} {snapshot : ScoreClassSnapshot} {base : Option Text}
    {hotkey : Text} {frozen : FrozenRow} {units : ℚ≥0} {evidence : Json}
    (verified : verifiedReceipt p snapshot base hotkey frozen = .ok (units, evidence)) :
    units = frozen.score.workUnits ∧ ∃ receiptId receiptDigest uri,
      receiptId.NoSurrogate ∧ receiptDigest.NoSurrogate ∧ (∀ t ∈ uri, t.NoSurrogate) ∧
        evidence = receiptEvidence receiptId receiptDigest uri := by
  simp only [verifiedReceipt, bind_eq_ok, demand_eq_ok, require_eq_ok, pure_eq_ok,
    Prod.mk.injEq] at verified
  obtain ⟨row, -, -, -, -, -, receipt, parsed, body, -, -, ⟨-, -, named, -⟩, work, -, -, -,
    stated, -, -, same, uri, built, rfl, rfl⟩ := verified
  exact ⟨same, row.receiptId, _, uri, noSurrogate_of_receipt parsed named,
    (isAscii_sha256Digest _).noSurrogate, noSurrogate_of_receiptUri built, rfl⟩

/-- The entry of a candidate states its metric units. -/
theorem states_of_reportEntry {p : Platform} {snapshot : ScoreClassSnapshot} {base : Option Text}
    {hotkey : Text} {entry : ReportEntry}
    (built : reportEntry p snapshot base hotkey = .ok entry) :
    entry.States p hotkey (metricUnits snapshot hotkey) := by
  unfold reportEntry at built
  unfold metricUnits
  cases found : snapshot.rows.find? fun row => row.score.hotkey = hotkey with
  | none =>
    simp only [found] at built
    cases built
    exact states_zero p hotkey (by decide)
  | some frozen =>
    simp only [found] at built
    dsimp only
    by_cases positive : 0 < frozen.score.workUnits
    · simp only [if_pos positive, bind_eq_ok] at built
      obtain ⟨⟨units, evidence⟩, verified, built⟩ := built
      obtain ⟨rfl, receipt⟩ := verifiedReceipt_eq_ok verified
      cases text : metricText? frozen.score.workUnits with
      | some t =>
        simp only [text] at built
        cases built
        simp only [Option.isSome_some, if_true]
        obtain ⟨receiptId, receiptDigest, uri, encodable, encodable', encodable'', rfl⟩ := receipt
        refine ⟨rfl, parse_metricText? text, ⟨(isAscii_of_metricText? text).noSurrogate, ?_⟩,
          fun _ => ⟨receiptId, receiptDigest, uri, encodable, encodable', encodable'', rfl⟩,
          fun zero => absurd positive zero⟩
        intro reason listed
        rcases List.mem_cons.mp listed with rfl | listed
        · decide
        · rw [List.mem_singleton.mp listed]
          decide
      | none =>
        -- The metric is replaced by zero together with its evidence.
        simp only [text] at built
        cases built
        exact states_zero p hotkey (by decide)
    · simp only [if_neg positive] at built
      cases built
      have none : frozen.score.workUnits = 0 := nonpos_iff_eq_zero.mp (not_lt.mp positive)
      rw [none, ite_self]
      exact states_zero p hotkey (by decide)

/-! ## Reading an entry -/

/-- The members of an entry, in the order they are written before sorting. -/
def ReportEntry.members (entry : ReportEntry) : List (Text × Json) :=
  [("miner_hotkey", .str entry.hotkey),
    ("metrics", .obj [("verified_work_units", .str entry.verifiedWorkUnits)]),
    ("asserted_score", .null), ("reason_codes", .arr (entry.reasons.map .str)),
    ("evidence", .arr entry.evidence)]

theorem ReportEntry.distinct (entry : ReportEntry) : (entry.members.map Prod.fst).Nodup := by
  show (["miner_hotkey", "metrics", "asserted_score", "reason_codes", "evidence"] :
    List Text).Nodup
  decide

/-- The members of an entry as they are read back. -/
theorem ReportEntry.lookup {entry : ReportEntry} {key : Text} {value : Json}
    (found : Json.lookup key entry.members = some value) :
    Json.lookup key (Json.sortMembers (Json.sortKeysMembers entry.members)) =
      some value.sortKeys :=
  Json.lookup_sortMembers entry.distinct found

theorem ReportEntry.hasExactly_sorted (entry : ReportEntry) :
    hasExactly entryKeys (Json.sortMembers (Json.sortKeysMembers entry.members)) = true := by
  have keys : ∀ key, key ∈ (Json.sortMembers (Json.sortKeysMembers entry.members)).map Prod.fst ↔
      key ∈ entryKeys := fun key => Json.mem_keys_sortMembers
  simp only [hasExactly, decide_eq_true_eq]
  exact ⟨fun key listed => (keys key).mp listed, fun key listed => (keys key).mpr listed⟩

theorem textsOfJson_map_str (texts : List Text) :
    textsOfJson (Json.arr (texts.map .str)).sortKeys = some texts := by
  rw [Json.sortKeys, Json.sortKeysItems_eq_map, textsOfJson, List.map_map, itemsOfJson,
    Option.bind_some]
  induction texts with
  | nil => rfl
  | cons t texts ih => simp [Json.sortKeys, textOfJson, ih]

/-- The members of a receipt reference before sorting. -/
def referenceMembers (receiptId receiptDigest : Text) (uri : Option Text) : List (Text × Json) :=
  [("kind", .str receiptSchema), ("id", .str receiptId), ("digest", .str receiptDigest),
    ("uri", jsonOfText uri)]

theorem receiptReference_sorted (p : Platform) (hotkey receiptId receiptDigest : Text)
    (uri : Option Text) :
    ∃ reference, receiptReference p hotkey
      (Json.sortKeysItems [receiptEvidence receiptId receiptDigest uri]) = .ok reference := by
  have distinct : ((referenceMembers receiptId receiptDigest uri).map Prod.fst).Nodup := by
    show (["kind", "id", "digest", "uri"] : List Text).Nodup
    decide
  have kind : Json.lookup "kind" (referenceMembers receiptId receiptDigest uri) =
      some (.str receiptSchema) := by
    simp [referenceMembers, Json.lookup]
  have id : Json.lookup "id" (referenceMembers receiptId receiptDigest uri) =
      some (.str receiptId) := by
    simp [referenceMembers, Json.lookup]
  have digest : Json.lookup "digest" (referenceMembers receiptId receiptDigest uri) =
      some (.str receiptDigest) := by
    simp [referenceMembers, Json.lookup]
  refine ⟨Json.sortMembers (Json.sortKeysMembers (referenceMembers receiptId receiptDigest uri)),
    ?_⟩
  have single : Json.sortKeysItems [receiptEvidence receiptId receiptDigest uri] =
      [.obj (Json.sortMembers (Json.sortKeysMembers
        (referenceMembers receiptId receiptDigest uri)))] := rfl
  simp only [single, receiptReference, bind_eq_ok, demand_eq_ok, require_eq_ok, pure_eq_ok]
  refine ⟨_, rfl, _, rfl, (), ?_, (), ⟨?_, ?_⟩, rfl⟩
  · rw [Json.lookup_sortMembers distinct kind]
    decide
  · rw [Json.lookup_sortMembers distinct id]
    rfl
  · rw [Json.lookup_sortMembers distinct digest]
    rfl

section Entry

variable {p : Platform} {entry : ReportEntry} {hotkey : Text} {units : ℚ≥0}

/-- The units the validator reads off an entry. -/
theorem entryUnits_sorted (states : entry.States p hotkey units) :
    entryUnits p hotkey (Json.sortMembers (Json.sortKeysMembers entry.members)) = .ok units := by
  have metrics : Json.lookup "metrics" entry.members =
      some (.obj [("verified_work_units", .str entry.verifiedWorkUnits)]) := by
    simp [ReportEntry.members, Json.lookup]
  have text : Json.lookup (Text.ofString "verified_work_units")
      (Json.sortMembers (Json.sortKeysMembers
        [("verified_work_units", .str entry.verifiedWorkUnits)])) =
      some (.str entry.verifiedWorkUnits) := by
    simp [Json.sortKeysMembers, Json.sortKeys, Json.sortMembers, Json.lookup]
  have read : nonnegative? (Decimal.parse p.unicodeDigit entry.verifiedWorkUnits) =
      some units := by
    rw [states.text, nonnegative?, if_pos (NNRat.cast_nonneg units), NNRat.toNNRat_coe]
  simp only [entryUnits, entry.lookup metrics, Json.sortKeys, bind_eq_ok, demand_eq_ok]
  refine ⟨_, rfl, entry.verifiedWorkUnits, ?_, read⟩
  rw [text]
  rfl

/-- A validator that accepts an entry reads its hotkey and its units; one that
checks no receipt accepts it. -/
theorem readEntry_document (states : entry.States p hotkey units) (nonempty : hotkey ≠ [])
    {seen : List Text} (fresh : hotkey ∉ seen) :
    (∀ checks read, readEntry p checks seen entry.document.sortKeys = .ok read →
      read = (hotkey, units)) ∧
    readEntry p .none seen entry.document.sortKeys = .ok (hotkey, units) := by
  have document : entry.document.sortKeys =
      .obj (Json.sortMembers (Json.sortKeysMembers entry.members)) := rfl
  have name : Json.lookup "miner_hotkey" entry.members = some (.str hotkey) := by
    rw [← states.named]
    simp [ReportEntry.members, Json.lookup]
  have reasons : Json.lookup "reason_codes" entry.members =
      some (.arr (entry.reasons.map .str)) := by
    simp [ReportEntry.members, Json.lookup]
  have evidence : Json.lookup "evidence" entry.members = some (.arr entry.evidence) := by
    simp [ReportEntry.members, Json.lookup]
  have identified : (((some (Json.str hotkey).sortKeys).bind textOfJson).filter (· ≠ [])) =
      some hotkey := by
    simp [Json.sortKeys, textOfJson, nonempty]
  simp only [document, readEntry, entry.lookup name, entry.lookup reasons, entry.lookup evidence,
    identified, bind_eq_ok, require_eq_ok, demand_eq_ok]
  constructor
  · rintro checks read ⟨-, -, _, ⟨⟩, -, -, stated, stated', -, -, listed, -, outcome⟩
    rw [entryUnits_sorted states] at stated'
    cases stated'
    split at outcome
    · simp only [bind_eq_ok, pure_eq_ok] at outcome
      obtain ⟨-, -, -, -, rfl⟩ := outcome
      rfl
    · simp only [bind_eq_ok, pure_eq_ok] at outcome
      obtain ⟨-, -, rfl⟩ := outcome
      rfl
  · refine ⟨(), entry.hasExactly_sorted, hotkey, rfl, (), fresh, units, entryUnits_sorted states,
      entry.reasons, textsOfJson_map_str entry.reasons, Json.sortKeysItems entry.evidence, rfl, ?_⟩
    split
    case isTrue positive =>
      obtain ⟨receiptId, receiptDigest, uri, -, -, -, single⟩ := states.positive positive
      obtain ⟨reference, read⟩ := receiptReference_sorted p hotkey receiptId receiptDigest uri
      rw [single]
      simp only [bind_eq_ok, pure_eq_ok]
      exact ⟨reference, read, (), rfl, trivial⟩
    case isFalse none =>
      rw [states.zero none]
      simp only [bind_eq_ok, pure_eq_ok, require_eq_ok]
      exact ⟨(), rfl, trivial⟩

end Entry

/-- The positive hotkeys with their units. -/
def positives (hotkeys : List Text) (units : Text → ℚ≥0) : List (Text × ℚ≥0) :=
  (hotkeys.filter fun hotkey => 0 < units hotkey).map fun hotkey => (hotkey, units hotkey)

/-- The loop over the entries collects the positive ones. -/
theorem positiveEntries_documents {p : Platform} {units : Text → ℚ≥0}
    {entries : List ReportEntry} {hotkeys : List Text}
    (states : List.Forall₂ (fun hotkey entry => entry.States p hotkey (units hotkey)) hotkeys entries)
    (nonempty : ∀ hotkey ∈ hotkeys, hotkey ≠ []) (distinct : hotkeys.Nodup) {seen : List Text}
    (fresh : ∀ hotkey ∈ hotkeys, hotkey ∉ seen) :
    (∀ checks positive, positiveEntries p checks seen
      (entries.map fun entry => entry.document.sortKeys) = .ok positive →
        positive = positives hotkeys units) ∧
    positiveEntries p .none seen (entries.map fun entry => entry.document.sortKeys) =
      .ok (positives hotkeys units) := by
  induction states generalizing seen with
  | nil => exact ⟨fun _ _ read => (Except.ok.inj read).symm, rfl⟩
  | @cons hotkey entry hotkeys entries first rest ih =>
    rw [List.nodup_cons] at distinct
    rw [List.forall_mem_cons] at nonempty fresh
    obtain ⟨reads, accepts⟩ := readEntry_document first nonempty.1 fresh.1
    -- The loop goes on with this hotkey among those seen.
    have later : ∀ other ∈ hotkeys, other ∉ hotkey :: seen := by
      intro other member listed
      rcases List.mem_cons.mp listed with rfl | old
      · exact distinct.1 member
      · exact fresh.2 other member old
    obtain ⟨loop, loop'⟩ := ih nonempty.2 distinct.2 later
    have listing : positives (hotkey :: hotkeys) units =
        if 0 < units hotkey then (hotkey, units hotkey) :: positives hotkeys units
        else positives hotkeys units := by
      unfold positives
      by_cases positive : 0 < units hotkey
      · simp [positive]
      · simp [positive]
    rw [List.map_cons, listing]
    constructor
    · intro checks positive read
      simp only [positiveEntries, bind_eq_ok, pure_eq_ok] at read
      obtain ⟨value, readFirst, others, readOthers, rfl⟩ := read
      rw [reads checks value readFirst] at readOthers ⊢
      rw [loop checks others readOthers]
    · simp only [positiveEntries, accepts, bind_eq_ok, pure_eq_ok]
      exact ⟨_, rfl, _, loop', rfl⟩

/-! ## The whole report -/

theorem plain_jsonOfText {t : Option Text} (encodable : ∀ text ∈ t, text.NoSurrogate) :
    (jsonOfText t).Plain False := by
  cases t with
  | none => trivial
  | some text => exact encodable text rfl

theorem plainItems_map_str {texts : List Text} (encodable : ∀ t ∈ texts, t.NoSurrogate) :
    Json.PlainItems False (texts.map .str) := by
  refine Json.plainItems_iff.mpr fun item listed => ?_
  obtain ⟨t, member, rfl⟩ := List.mem_map.mp listed
  exact encodable t member

theorem ReportEntry.States.plain {p : Platform} {entry : ReportEntry} {hotkey : Text}
    {units : ℚ≥0} (states : entry.States p hotkey units) (encodable : hotkey.NoSurrogate) :
    entry.document.Plain False := by
  have schema : receiptSchema.NoSurrogate := by decide
  have evidence : Json.PlainItems False entry.evidence := by
    by_cases positive : 0 < units
    · obtain ⟨receiptId, receiptDigest, uri, id, digest, address, single⟩ := states.positive positive
      rw [single]
      refine ⟨⟨?_, ?_⟩, trivial⟩
      · show (["kind", "id", "digest", "uri"] : List Text).Nodup
        decide
      · exact ⟨by decide, schema, by decide, id, by decide, digest, by decide,
          plain_jsonOfText address, trivial⟩
    · rw [states.zero positive]
      trivial
  have units : Json.Plain False
      (.obj [("verified_work_units", .str entry.verifiedWorkUnits)]) := by
    refine ⟨?_, by decide, states.encodable.1, trivial⟩
    show ([Text.ofString "verified_work_units"] : List Text).Nodup
    decide
  refine ⟨entry.distinct, by decide, ?_, by decide, units, by decide, trivial, by decide,
    plainItems_map_str states.encodable.2, by decide, evidence, trivial⟩
  rw [states.named]
  exact encodable

theorem isLaunchHotkey_of_mapM {items : List Json} {hotkeys : List Text}
    (read : items.mapM (fun item => launchHotkey? (some item)) = some hotkeys) :
    ∀ hotkey ∈ hotkeys, isLaunchHotkey hotkey = true := by
  induction items generalizing hotkeys with
  | nil =>
    cases read
    exact fun _ outside => (nomatch outside)
  | cons item items ih =>
    simp only [List.mapM_cons, Option.bind_eq_bind, Option.bind_eq_some_iff, Option.pure_def,
      Option.some.injEq] at read
    obtain ⟨hotkey, first, rest, others, rfl⟩ := read
    refine List.forall_mem_cons.mpr ⟨?_, ih others⟩
    match item, first with
    | .str t, first =>
      simp only [launchHotkey?, Option.ite_none_right_eq_some, Option.some.injEq] at first
      exact first.2 ▸ first.1

/-- What the checks on a candidate snapshot give. -/
theorem validateCandidateSnapshot_eq_ok {p : Platform} {members : List (Text × Json)}
    {network : Text} {netuid : ℤ} {binding : SnapshotBinding}
    (validated : validateCandidateSnapshot p members network netuid = .ok binding) :
    binding.digest.IsAscii ∧ binding.blockHash.IsAscii ∧ binding.hotkeys.Nodup ∧
      ∀ hotkey ∈ binding.hotkeys, isLaunchHotkey hotkey = true := by
  simp only [validateCandidateSnapshot, bind_eq_ok, demand_eq_ok, require_eq_ok,
    pure_eq_ok] at validated
  obtain ⟨-, -, -, -, -, -, block, -, -, -, blockHash, -, -, hashed, items, -, -, -, hotkeys,
    named, -, distinct, body, -, rfl⟩ := validated
  refine ⟨isAscii_sha256Digest body, isAscii_of_isBlockHash hashed,
    (List.perm_insertionSort _ _).nodup_iff.mpr distinct, fun hotkey listed => ?_⟩
  rw [List.mem_insertionSort] at listed
  exact isLaunchHotkey_of_mapM named hotkey listed

/-- The sections of a report that the checks make encodable. -/
structure Encodable (arguments : Arguments) (policyDigest verifierDigest : Text)
    (previous : Option Text) (binding : SnapshotBinding) : Prop where
  network : arguments.stream.network.NoSurrogate
  classId : arguments.stream.classId.NoSurrogate
  sourceId : arguments.stream.sourceId.NoSurrogate
  signingKeyId : arguments.signingKeyId.NoSurrogate
  policyDigest : policyDigest.NoSurrogate
  verifierDigest : verifierDigest.NoSurrogate
  previous : ∀ id ∈ previous, id.NoSurrogate
  digest : binding.digest.NoSurrogate
  blockHash : binding.blockHash.NoSurrogate
  hotkeys : ∀ hotkey ∈ binding.hotkeys, hotkey.NoSurrogate

/-- The signed document, as `_sign_report` assembles it. -/
def signedMembers (members : List (Text × Json)) (id : Text) (signature : Bytes) :
    List (Text × Json) :=
  (members ++ [(Text.ofString "report_id", Json.str id)]) ++
    [(Text.ofString "signature", Json.obj
      [("algorithm", .str "ed25519"), ("value_base64", .str (base64 signature))])]

theorem lookup_entries {arguments : Arguments} {sourceEpoch : ℤ}
    {policyDigest verifierDigest : Text} {previous : Option Text} {binding : SnapshotBinding}
    {entries : List ReportEntry} {id : Text} {signature : Bytes} :
    Json.lookup "entries" (signedMembers (reportMembers arguments sourceEpoch policyDigest
      verifierDigest previous binding entries) id signature) =
        some (.arr (entries.map ReportEntry.document)) := by
  simp [signedMembers, reportMembers, Json.lookup]

theorem plain_signedMembers {arguments : Arguments} {sourceEpoch : ℤ}
    {policyDigest verifierDigest : Text} {previous : Option Text} {binding : SnapshotBinding}
    {entries : List ReportEntry} {id : Text} {signature : Bytes}
    (encodable : Encodable arguments policyDigest verifierDigest previous binding)
    (plain : ∀ entry ∈ entries, entry.document.Plain False) (identified : id.NoSurrogate) :
    (Json.obj (signedMembers (reportMembers arguments sourceEpoch policyDigest verifierDigest
      previous binding entries) id signature)).Plain False := by
  have listed : Json.PlainItems False (entries.map ReportEntry.document) := by
    refine Json.plainItems_iff.mpr fun item member => ?_
    obtain ⟨entry, inside, rfl⟩ := List.mem_map.mp member
    exact plain entry inside
  have snapshot : binding.document.Plain False := by
    refine ⟨?_, by decide, encodable.digest, by decide, trivial, by decide, encodable.blockHash,
      by decide, plainItems_map_str encodable.hotkeys, trivial⟩
    show (["digest", "block", "block_hash", "hotkeys"] : List Text).Nodup
    decide
  have signed : Json.Plain False (.obj
      [("algorithm", .str "ed25519"), ("value_base64", .str (base64 signature))]) := by
    have algorithm : (Text.ofString "ed25519").NoSurrogate := by decide
    refine ⟨?_, by decide, algorithm, by decide, (isAscii_base64 signature).noSurrogate, trivial⟩
    show (["algorithm", "value_base64"] : List Text).Nodup
    decide
  have schema : reportSchema.NoSurrogate := by decide
  refine ⟨?_, ?_⟩
  · show (["schema", "network", "netuid", "class_id", "source_id", "source_epoch", "generated_at",
      "valid_until", "valid_from_block", "valid_until_block", "complete", "policy_digest",
      "verifier_digest", "previous_report_id", "candidate_snapshot", "entries", "signing_key_id",
      "report_id", "signature"] : List Text).Nodup
    decide +kernel
  · exact ⟨by decide, schema, by decide, encodable.network, by decide, trivial, by decide,
      encodable.classId, by decide, encodable.sourceId, by decide, trivial, by decide,
      (Instant.isAscii_canonicalUtc _).noSurrogate, by decide,
      (Instant.isAscii_canonicalUtc _).noSurrogate, by decide, trivial, by decide, trivial,
      by decide, trivial, by decide, encodable.policyDigest, by decide, encodable.verifierDigest,
      by decide, plain_jsonOfText encodable.previous, by decide, snapshot, by decide, listed,
      by decide, encodable.signingKeyId, by decide, identified, by decide, signed, trivial⟩

theorem faithful_reportHooks (p : Platform) : reportHooks.Faithful (compactStyle p) False where
  ints _ short := pythonInt_intText short
  floats impossible := impossible.elim
  pairs _ distinct := strictPairs_of_nodup distinct

/-- A validator parses what the canonical writer wrote. -/
theorem parseScoreReportJson_canonicalJson {p : Platform} {members : List (Text × Json)}
    {body : Bytes} (plain : (Json.obj members).Plain False)
    (written : canonicalJson p (.obj members) = some body)
    (short : body.length ≤ maxLaunchScoreReportBytes) :
    parseScoreReportJson p body = some (Json.sortMembers (Json.sortKeysMembers members)) := by
  have document : (Json.obj members).sortKeys =
      .obj (Json.sortMembers (Json.sortKeysMembers members)) := rfl
  -- The parsed document is sorted already, so it is rendered to the same bytes.
  have again : canonicalJson p (.obj (Json.sortMembers (Json.sortKeysMembers members))) =
      some body := by
    obtain ⟨sorted, dumpable⟩ := Json.sortKeys_sortKeys (.obj members)
    unfold canonicalJson at written ⊢
    simp only [Option.ite_none_right_eq_some] at written
    rw [← document, if_pos (dumpable written.1), sorted]
    exact written.2
  unfold canonicalJson at written
  simp only [Option.ite_none_right_eq_some, Option.some.injEq] at written
  obtain ⟨dumpable, rfl⟩ := written
  have readable := Json.readable_sortKeys (faithful_reportHooks p) (.obj members) plain dumpable
  have comma : Text.IsPrintable [0x2c] := by decide
  have colon : Text.IsPrintable [0x3a] := by decide
  have printable := printable_render comma colon _ readable
  have ascii : Text.IsAscii ((Json.obj members).sortKeys.render (compactStyle p)) :=
    fun c member => by have := printable c member; omega
  have nonempty : Text.ascii ((Json.obj members).sortKeys.render (compactStyle p)) ≠ [] := by
    intro empty
    have positive := render_length_pos readable
    rw [← Text.length_ascii, empty] at positive
    exact lt_irrefl 0 positive
  have read : (utf8Decode false (Text.ascii
      ((Json.obj members).sortKeys.render (compactStyle p)))).bind (loads reportHooks) =
        some (Json.obj members).sortKeys := by
    rw [utf8Decode_ascii false ascii, Option.bind_some, loads_render rfl rfl readable]
  rw [parseScoreReportJson, if_neg (not_or.mpr ⟨nonempty, not_lt.mpr short⟩), read, document]
  exact if_pos again

/-- What a fresh export read, and that a validator reads its entries back. -/
structure Exported (p : Platform) (s : State) (epochId : ℕ) (base : Option Text) (body : Bytes)
    (snapshot : ScoreClassSnapshot) (hotkeys : List Text) (entries : List ReportEntry) : Prop where
  frozen : scoreClassSnapshot p epochId s = .ok snapshot
  distinct : hotkeys.Nodup
  nonempty : ∀ hotkey ∈ hotkeys, hotkey ≠ []
  covered : ∀ row ∈ snapshot.rows, row.score.hotkey ∉ hotkeys → row.score.workUnits = 0
  listed : List.Forall₂ (fun hotkey entry => reportEntry p snapshot base hotkey = .ok entry)
    hotkeys entries
  read : ∃ members, parseScoreReportJson p body = some members ∧
    Json.lookup "entries" members = some (.arr (entries.map fun entry => entry.document.sortKeys))

theorem requireCovered_eq_ok {p : Platform} {rows : List FrozenRow} {hotkeys : List Text}
    (covered : requireCovered p rows hotkeys = .ok ()) :
    ∀ row ∈ rows, row.score.hotkey ∉ hotkeys → row.score.workUnits = 0 := by
  simp only [requireCovered, bind_eq_ok, require_eq_ok] at covered
  obtain ⟨-, -, -, -, covered⟩ := covered
  split at covered
  case h_1 => cases covered
  case h_2 none =>
    intro row member outside
    have unpaid := List.find?_eq_none.mp none row member
    simp only [decide_eq_true_eq, not_and, not_lt] at unpaid
    exact nonpos_iff_eq_zero.mp (unpaid outside)

theorem digest_eq_ok {label : Text} {value : Option Text} {t : Text}
    (checked : digest label value = .ok t) : t.NoSurrogate := by
  simp only [digest, bind_eq_ok, demand_eq_ok, require_eq_ok, pure_eq_ok] at checked
  obtain ⟨_, -, -, shaped, rfl⟩ := checked
  exact (isAscii_of_isReportDigest shaped).noSurrogate

theorem ne_nil_of_isLaunchHotkey {t : Text} (h : isLaunchHotkey t = true) : t ≠ [] := by
  rintro rfl
  revert h
  decide

/-- **Read back.** The report an export hands to the ledger, once the ledger
accepts it, is read back by a validator entry by entry. -/
theorem exported_of_builds {p : Platform} {s : State} {epochId : ℕ} {arguments : Arguments}
    {report : ExportArguments} (builds : Builds p s epochId arguments report)
    (validated : validateExport p report = .ok ()) :
    ∃ snapshot hotkeys entries,
      Exported p s epochId arguments.evidenceBaseUri report.reportBody snapshot hotkeys entries := by
  obtain ⟨audience, built⟩ := builds
  simp only [validateStream, bind_eq_ok, demand_eq_ok, require_eq_ok] at audience
  obtain ⟨octets, network, -, -, -, -, -, classId, sourceId⟩ := audience
  simp only [buildReport, validateArguments, signReport, bind_eq_ok, require_eq_ok, mapError_eq_ok,
    pure_eq_ok] at built
  obtain ⟨verifierDigest, ⟨-, keyId, -, -, -, -, verifier⟩, snapshot, frozen, -, -, binding, bound,
    -, -, policyDigest, policy, previous, -, ⟨⟩, covered, entries, listed, ⟨id, encoded⟩,
    ⟨-, -, id', -, body, -, encoded', written, -, short, same⟩, rfl⟩ := built
  obtain ⟨rfl, rfl⟩ := Prod.mk.inj same
  obtain ⟨digest, blockHash, distinct, hotkeys⟩ := validateCandidateSnapshot_eq_ok bound
  simp only [validateExport, bind_eq_ok, require_eq_ok] at validated
  obtain ⟨-, -, -, identified, -, linked, -⟩ := validated
  have sha256 : (Text.ofString "sha256:").IsAscii := by decide
  -- every text of the report has been checked to be ASCII, or encoded once
  have encodable : Encodable arguments policyDigest verifierDigest previous binding :=
    { network := Text.noSurrogate_of_utf8 network
      classId := (isAscii_of_isIdentifier classId).noSurrogate
      sourceId := (isAscii_of_isIdentifier sourceId).noSurrogate
      signingKeyId := (isAscii_of_isPublicIdentifier keyId).noSurrogate
      policyDigest := digest_eq_ok policy
      verifierDigest := digest_eq_ok verifier
      previous := fun id member =>
        (Text.isAscii_of_isDigest sha256 (linked id member)).noSurrogate
      digest := digest.noSurrogate
      blockHash := blockHash.noSurrogate
      hotkeys := fun hotkey member =>
        (isAscii_of_isLaunchHotkey (hotkeys hotkey member)).noSurrogate }
  have plain : ∀ entry ∈ entries, entry.document.Plain False := by
    intro entry member
    obtain ⟨hotkey, inside, made⟩ := exists_of_mapM listed member
    exact (states_of_reportEntry made).plain (encodable.hotkeys hotkey inside)
  -- so the canonical document is read back with sorted keys
  have whole : (Json.obj (signedMembers (reportMembers arguments snapshot.sourceEpoch policyDigest
      verifierDigest previous binding entries) id'
        (p.sign arguments.privateKeySeed (reportDomain ++ body)))).Plain False :=
    plain_signedMembers encodable plain
      (Text.isAscii_of_isDigest sha256 identified).noSurrogate
  refine ⟨snapshot, binding.hotkeys, entries, frozen, distinct,
    fun hotkey member => ne_nil_of_isLaunchHotkey (hotkeys hotkey member),
    requireCovered_eq_ok covered, forall₂_of_mapM listed, _,
    parseScoreReportJson_canonicalJson whole (demand_eq_ok.mp written) short, ?_⟩
  rw [Json.lookup_sortMembers whole.1 lookup_entries, Json.sortKeys,
    Json.sortKeysItems_eq_map, List.map_map]
  rfl

end Cathedral.ScoreClass
