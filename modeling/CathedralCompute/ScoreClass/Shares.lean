import CathedralCompute.Ledger.ExportChain
import CathedralCompute.Ledger.FrozenScores
import CathedralCompute.Sample
import CathedralCompute.ScoreClass.Readback

/-!
# The evidence pays what the scores pay

Two paths lead from an epoch's work to payments. The ledger freezes scores
normalized by their maximum, and a publisher normalizes them by their sum. The
exporter re-derives the units from receipts and writes them as decimal texts, and
a validator normalizes what it reads by its sum. The two agree on every hotkey
whose units the metric grammar can write; the exporter publishes zero for the
others.
-/

set_option autoImplicit false

namespace Cathedral.ScoreClass

open Codec Semantics Ledger Provenance

/-! ## The validator's normalization -/

section Mechanism

variable {hotkeys : List Text} {units : Text → ℚ≥0}

theorem sum_positives (distinct : hotkeys.Nodup) :
    ((positives hotkeys units).map Prod.snd).sum = ∑ hotkey ∈ hotkeys.toFinset, units hotkey := by
  rw [List.sum_toFinset units distinct, positives, List.map_map]
  induction hotkeys with
  | nil => rfl
  | cons hotkey hotkeys ih =>
    rw [List.map_cons, List.sum_cons, ← ih (List.nodup_cons.mp distinct).2, List.filter_cons]
    by_cases positive : 0 < units hotkey
    · simp [positive]
    · have none : units hotkey = 0 := nonpos_iff_eq_zero.mp (not_lt.mp positive)
      simp [none]

/-- The share of a hotkey is its part of the sum. -/
theorem amountOf_mechanismValidatedSupply (distinct : hotkeys.Nodup)
    (outside : ∀ hotkey, hotkey ∉ hotkeys → units hotkey = 0) (hotkey : Text) :
    amountOf (mechanismValidatedSupply (positives hotkeys units)) hotkey =
      bySum hotkeys.toFinset units hotkey := by
  rw [mechanismValidatedSupply, bySum, sum_positives distinct]
  by_cases total : ∑ hotkey ∈ hotkeys.toFinset, units hotkey ≤ 0
  · rw [if_pos total, nonpos_iff_eq_zero.mp total, div_zero]
    rfl
  · rw [if_neg total, positives, List.map_map]
    by_cases positive : 0 < units hotkey
    · have member : hotkey ∈ hotkeys.filter fun hotkey => 0 < units hotkey := by
        refine List.mem_filter.mpr ⟨?_, decide_eq_true positive⟩
        by_contra absent
        exact positive.ne' (outside hotkey absent)
      refine amountOf_of_mem ?_ (List.mem_map.mpr ⟨hotkey, member, rfl⟩)
      rw [List.map_map]
      exact (List.map_id _).symm ▸ distinct.filter _
    · rw [nonpos_iff_eq_zero.mp (not_lt.mp positive), zero_div]
      refine amountOf_eq_zero fun listed => ?_
      obtain ⟨_, member, rfl⟩ := List.mem_map.mp listed
      obtain ⟨other, inside, rfl⟩ := List.mem_map.mp member
      exact positive (of_decide_eq_true (List.mem_filter.mp inside).2)

end Mechanism

/-! ## Publishable scores -/

/-- The units of a hotkey where the metric grammar can write them. -/
def publishedUnits (rows : List ScoreRow) (hotkey : Text) : ℚ≥0 :=
  if (metricText? (frozenUnits rows hotkey)).isSome then frozenUnits rows hotkey else 0

/-- The frozen scores of the hotkeys whose units can be written. -/
def publishedScores (s : State) (epochId : ℕ) : List (Text × ℚ≥0) :=
  (loadScores s epochId).filter fun entry =>
    (metricText? (frozenUnits (scoresOf s epochId) entry.1)).isSome

section Frozen

variable {s : State} {epochId : ℕ}

theorem mem_loadScores {entry : Text × ℚ≥0} :
    entry ∈ loadScores s epochId ↔
      ∃ row ∈ scoresOf s epochId, entry = (row.hotkey, row.score) := by
  simp only [loadScores, scoresOf, List.mem_map, List.mem_insertionSort, eq_comm]

theorem nodup_publishedScores : ((publishedScores s epochId).map Prod.fst).Nodup := by
  have sorted : ((loadScores s epochId).map Prod.fst).Nodup := by
    rw [loadScores, List.map_map]
    exact ((List.perm_insertionSort _ _).map ScoreRow.hotkey).nodup_iff.mpr
      (nodup_scoresOf s epochId)
  exact sorted.sublist (List.filter_sublist.map Prod.fst)

theorem publishedUnits_of_eq_zero {rows : List ScoreRow} {hotkey : Text}
    (none : frozenUnits rows hotkey = 0) : publishedUnits rows hotkey = 0 := by
  rw [publishedUnits, none, ite_self]

theorem publishedUnits_eq_zero {hotkey : Text}
    (absent : hotkey ∉ (publishedScores s epochId).map Prod.fst) :
    publishedUnits (scoresOf s epochId) hotkey = 0 := by
  unfold publishedUnits
  split
  case isFalse => rfl
  case isTrue written =>
    refine frozenUnits_eq_zero fun frozen => absent ?_
    obtain ⟨row, member, rfl⟩ := List.mem_map.mp (List.mem_toFinset.mp frozen)
    exact List.mem_map.mpr ⟨(row.hotkey, row.score),
      List.mem_filter.mpr ⟨mem_loadScores.mpr ⟨row, member, rfl⟩, written⟩, rfl⟩

/-- The published scores are the published units relative to the largest frozen
units. -/
theorem amountOf_publishedScores (normalized : ScoresNormalized s) (hotkey : Text) :
    amountOf (publishedScores s epochId) hotkey =
      publishedUnits (scoresOf s epochId) hotkey /
        (frozenHotkeys (scoresOf s epochId)).sup (frozenUnits (scoresOf s epochId)) := by
  by_cases listed : hotkey ∈ (publishedScores s epochId).map Prod.fst
  · obtain ⟨entry, member, rfl⟩ := List.mem_map.mp listed
    obtain ⟨inside, written⟩ := List.mem_filter.mp member
    obtain ⟨row, frozen, rfl⟩ := mem_loadScores.mp inside
    rw [publishedUnits, if_pos written]
    exact (amountOf_of_mem nodup_publishedScores member).trans (normalized epochId row frozen)
  · rw [amountOf_eq_zero listed, publishedUnits_eq_zero listed, zero_div]

/-- Scores and units give the same shares. -/
theorem bySum_publishedScores (normalized : ScoresNormalized s) (hotkey : Text) :
    bySum ((publishedScores s epochId).map Prod.fst).toFinset
        (amountOf (publishedScores s epochId)) hotkey =
      bySum ((publishedScores s epochId).map Prod.fst).toFinset
        (publishedUnits (scoresOf s epochId)) hotkey := by
  rw [funext (amountOf_publishedScores normalized)]
  by_cases zero :
      (frozenHotkeys (scoresOf s epochId)).sup (frozenUnits (scoresOf s epochId)) = 0
  · -- Nobody earned, so both vectors are zero.
    have none : ∀ other, publishedUnits (scoresOf s epochId) other = 0 := by
      intro other
      apply publishedUnits_of_eq_zero
      by_cases frozen : other ∈ frozenHotkeys (scoresOf s epochId)
      · have below := Finset.le_sup (f := frozenUnits (scoresOf s epochId)) frozen
        rw [zero] at below
        exact nonpos_iff_eq_zero.mp below
      · exact frozenUnits_eq_zero frozen
    simp only [bySum, none, zero_div]
  · exact bySum_div zero hotkey

theorem mem_frozenRows {row : FrozenRow} :
    row ∈ frozenRows s epochId ↔
      row.score ∈ scoresOf s epochId ∧ row.receipt = receiptOf s epochId row.score.hotkey := by
  simp only [frozenRows, List.mem_map, List.mem_insertionSort, scoresOf]
  constructor
  · rintro ⟨score, member, rfl⟩
    exact ⟨member, rfl⟩
  · rintro ⟨member, receipt⟩
    exact ⟨row.score, member, by rw [← receipt]⟩

theorem rows_of_scoreClassSnapshot {p : Platform} {snapshot : ScoreClassSnapshot}
    (frozen : scoreClassSnapshot p epochId s = .ok snapshot) :
    snapshot.rows = frozenRows s epochId := by
  simp only [scoreClassSnapshot, bind_eq_ok] at frozen
  obtain ⟨_, -, -, -, _, -, _, -, -, -, _, -, -, -, frozen⟩ := frozen
  split at frozen
  case h_1 => cases frozen
  case h_2 =>
    cases frozen
    rfl

/-- The units a fresh report states are the published ones. -/
theorem metricUnits_eq {p : Platform} {snapshot : ScoreClassSnapshot}
    (frozen : scoreClassSnapshot p epochId s = .ok snapshot) :
    metricUnits snapshot = publishedUnits (scoresOf s epochId) := by
  have rows := rows_of_scoreClassSnapshot frozen
  funext hotkey
  unfold metricUnits publishedUnits
  rw [rows]
  split
  case h_1 none =>
    have absent : hotkey ∉ frozenHotkeys (scoresOf s epochId) := by
      intro listed
      obtain ⟨row, member, rfl⟩ := List.mem_map.mp (List.mem_toFinset.mp listed)
      have inside : ⟨row, receiptOf s epochId row.hotkey⟩ ∈ frozenRows s epochId :=
        mem_frozenRows.mpr ⟨member, rfl⟩
      exact List.find?_eq_none.mp none _ inside (decide_eq_true rfl)
    rw [frozenUnits_eq_zero absent, ite_self]
  case h_2 row found =>
    have named : row.score.hotkey = hotkey := by simpa using List.find?_some found
    obtain ⟨member, -⟩ := mem_frozenRows.mp (List.mem_of_find?_eq_some found)
    rw [← named, frozenUnits_of_mem member]

/-- **Shares of a report.** From a report built on a reachable state a validator
recomputes the published scores normalized by their sum. -/
theorem shares_of_exported {p : Platform} {base : Option Text} {body : Bytes}
    {snapshot : ScoreClassSnapshot} {hotkeys : List Text} {entries : List ReportEntry}
    (normalized : ScoresNormalized s)
    (exported : Exported p s epochId base body snapshot hotkeys entries) :
    (∃ shares, verifyAndRecompute p .none body = .ok shares) ∧
    ∀ checks shares, verifyAndRecompute p checks body = .ok shares → ∀ hotkey,
      amountOf shares hotkey = bySum ((publishedScores s epochId).map Prod.fst).toFinset
        (amountOf (publishedScores s epochId)) hotkey := by
  obtain ⟨members, parsed, found⟩ := exported.read
  have states : List.Forall₂ (fun hotkey entry =>
      ReportEntry.States p entry hotkey (publishedUnits (scoresOf s epochId) hotkey))
      hotkeys entries := by
    refine exported.listed.imp fun hotkey entry made => ?_
    rw [← metricUnits_eq exported.frozen]
    exact states_of_reportEntry made
  have fresh : ∀ hotkey ∈ hotkeys, hotkey ∉ ([] : List Text) := fun _ _ => List.not_mem_nil
  obtain ⟨loop, loop'⟩ :=
    positiveEntries_documents states exported.nonempty exported.distinct fresh
  have entriesRead : (Json.lookup "entries" members).bind itemsOfJson =
      some (entries.map fun entry => entry.document.sortKeys) := by
    rw [found]
    rfl
  constructor
  · refine ⟨mechanismValidatedSupply
      (positives hotkeys (publishedUnits (scoresOf s epochId))), ?_⟩
    simp only [verifyAndRecompute, bind_eq_ok, demand_eq_ok, pure_eq_ok]
    exact ⟨members, parsed, (), rfl, _, entriesRead, _, loop', rfl⟩
  · intro checks shares recomputed hotkey
    simp only [verifyAndRecompute, bind_eq_ok, demand_eq_ok, pure_eq_ok, parsed,
      Option.some.injEq] at recomputed
    obtain ⟨_, rfl, -, -, documents, read, positive, collected, rfl⟩ := recomputed
    obtain rfl := Option.some.inj (entriesRead.symm.trans read)
    rw [loop checks positive collected]
    -- Frozen units outside the candidate snapshot are zero.
    have outside : ∀ other, other ∉ hotkeys → publishedUnits (scoresOf s epochId) other = 0 := by
      intro other absent
      apply publishedUnits_of_eq_zero
      by_cases frozen : other ∈ frozenHotkeys (scoresOf s epochId)
      · obtain ⟨row, member, rfl⟩ := List.mem_map.mp (List.mem_toFinset.mp frozen)
        have inside : ⟨row, receiptOf s epochId row.hotkey⟩ ∈ snapshot.rows := by
          rw [rows_of_scoreClassSnapshot exported.frozen]
          exact mem_frozenRows.mpr ⟨member, rfl⟩
        rw [frozenUnits_of_mem member]
        exact exported.covered _ inside absent
      · exact frozenUnits_eq_zero frozen
    calc
      amountOf (mechanismValidatedSupply (positives hotkeys
          (publishedUnits (scoresOf s epochId)))) hotkey
        = bySum hotkeys.toFinset (publishedUnits (scoresOf s epochId)) hotkey :=
          amountOf_mechanismValidatedSupply exported.distinct outside hotkey
      _ = bySum ((publishedScores s epochId).map Prod.fst).toFinset
          (publishedUnits (scoresOf s epochId)) hotkey := by
        apply bySum_congr_support
        · intro other _ absent
          exact publishedUnits_eq_zero fun listed => absent (List.mem_toFinset.mpr listed)
        · intro other _ absent
          exact outside other fun listed => absent (List.mem_toFinset.mpr listed)
      _ = bySum ((publishedScores s epochId).map Prod.fst).toFinset
          (amountOf (publishedScores s epochId)) hotkey :=
        (bySum_publishedScores normalized hotkey).symm

end Frozen

/-! ## Runs -/

/-- The report was built by an export that read this state or an earlier one. -/
def BuiltEarlier (p : Platform) (s : State) (report : ExportArguments) : Prop :=
  ∃ s₀ later arguments, Reachable p s₀ ∧ runOps p s₀ later = s ∧
    Builds p s₀ report.epochId arguments report

/-- The ledger records reports only as the second half of an export. -/
def RecordsOwnExports (p : Platform) (s : State) : Op → Prop
  | .recordScoreClassExport report _ => BuiltEarlier p s report
  | _ => True

theorem BuiltEarlier.step {p : Platform} {s : State} {report : ExportArguments}
    (built : BuiltEarlier p s report) (op : Op) : BuiltEarlier p (step p s op) report := by
  obtain ⟨s₀, later, arguments, reachable, rfl, builds⟩ := built
  exact ⟨s₀, later ++ [op], arguments, reachable, runOps_append p s₀ later [op], builds⟩

/-- The row holds a report that an export built and the ledger accepted. -/
def HoldsExport (p : Platform) (s : State) (row : ExportRow) : Prop :=
  ∃ report, BuiltEarlier p s report ∧ validateExport p report = .ok () ∧
    row.epochId = report.epochId ∧ row.reportBody = report.reportBody

/-- Every stored report is such a report. -/
def ExportsBuilt (p : Platform) (s : State) : Prop := ∀ row ∈ s.exports.rows, HoldsExport p s row

/-- What an operation may record when it starts in this state. -/
def exportScope (p : Platform) (s : State) : Scope :=
  { Scope.all with exported := fun _ report => BuiltEarlier p s report }

theorem RecordsOwnExports.within {p : Platform} {s : State} (reachable : Reachable p s) {op : Op}
    (own : RecordsOwnExports p s op) : op.Within p (exportScope p s) s := by
  cases op
  case resolveChallenge => exact fun _ => trivial
  case resolveChallengeWithReceipt => exact fun _ => trivial
  case recordScoreClassExport => exact own
  case exportScoreClassReport epochId arguments now =>
    intro report builds
    obtain rfl := (key_of_buildReport builds.built).1
    exact ⟨s, [], arguments, reachable, rfl, builds⟩
  all_goals trivial

theorem ExportsBuilt.step {p : Platform} {s : State} (reachable : Reachable p s)
    (h : ExportsBuilt p s) {op : Op} (own : RecordsOwnExports p s op) :
    ExportsBuilt p (step p s op) := by
  -- A row of the new table is an old one, or its report was built before the operation.
  have origin : ∀ row ∈ (Ledger.step p s op).exports.rows,
      row ∈ s.exports.rows ∨ HoldsExport p s row := by
    refine invariant_steps
      (I := fun t => ∀ row ∈ t.exports.rows, row ∈ s.exports.rows ∨ HoldsExport p s row)
      (fun {t t'} known change => ?_) (fun _ => .inl) (steps_of_step (own.within reachable))
    cases change with
    | recordExport admitted validated successor inserted =>
      intro row member
      rcases (Table.mem_insert inserted).mp member with old | rfl
      · exact known row old
      · exact .inr ⟨_, admitted, validated, rfl, rfl⟩
    | freezeEpoch member running frozen =>
      obtain ⟨time, generatedAt, audience, body, table, -, -, rfl⟩ := frozen.changed
      exact known
    | _ => exact known
  intro row member
  have stored : HoldsExport p s row := by
    rcases origin row member with old | new
    · exact h row old
    · exact new
  obtain ⟨report, built, validated, named, body⟩ := stored
  exact ⟨report, built.step op, validated, named, body⟩

theorem ExportsBuilt.of_along {p : Platform} {ops : List Op}
    (own : Along (Ledger.step p) (RecordsOwnExports p) .initial ops) :
    ExportsBuilt p (runOps p .initial ops) := by
  have preserved : ∀ s op, Reachable p s ∧ ExportsBuilt p s → RecordsOwnExports p s op →
      Reachable p (Ledger.step p s op) ∧ ExportsBuilt p (Ledger.step p s op) :=
    fun s op both own => ⟨both.1.run [op], both.2.step both.1 own⟩
  have start : Reachable p .initial ∧ ExportsBuilt p .initial :=
    ⟨⟨[], rfl⟩, fun _ outside => (nomatch outside)⟩
  exact (invariant_along preserved start own).2

/-- The rows of an epoch whose facts an export read never change. -/
theorem scoresOf_runOps {p : Platform} {s : State} (reachable : Reachable p s) {epochId : ℕ}
    {snapshot : ScoreClassSnapshot} (frozen : scoreClassSnapshot p epochId s = .ok snapshot)
    (ops : List Op) : scoresOf (runOps p s ops) epochId = scoresOf s epochId := by
  simp only [scoreClassSnapshot, requireFrozen, bind_eq_ok, epoch_eq_ok, require_eq_ok] at frozen
  obtain ⟨row, ⟨member, rfl⟩, -, finalized, -⟩ := frozen
  have records := (Frozen.of_runOps reachable ops row member finalized.isFrozen).2
  exact congrArg EpochRecords.scores records

/-- A validator's shares of a stored report. -/
theorem shares_of_holdsExport {p : Platform} {s : State} {row : ExportRow}
    (holds : HoldsExport p s row) :
    (∃ shares, verifyAndRecompute p .none row.reportBody = .ok shares) ∧
    ∀ checks shares, verifyAndRecompute p checks row.reportBody = .ok shares → ∀ hotkey,
      amountOf shares hotkey = bySum ((publishedScores s row.epochId).map Prod.fst).toFinset
        (amountOf (publishedScores s row.epochId)) hotkey := by
  obtain ⟨report, ⟨s₀, later, arguments, reachable, rfl, builds⟩, validated, named, body⟩ := holds
  obtain ⟨snapshot, hotkeys, entries, exported⟩ := exported_of_builds builds validated
  -- The frozen rows are those the export read.
  have same : scoresOf (runOps p s₀ later) report.epochId = scoresOf s₀ report.epochId :=
    scoresOf_runOps reachable exported.frozen later
  have scores : publishedScores (runOps p s₀ later) report.epochId =
      publishedScores s₀ report.epochId := by
    unfold publishedScores loadScores
    unfold scoresOf at same ⊢
    rw [same]
  rw [named, body, scores]
  exact shares_of_exported (.of_reachable reachable) exported

/-- **Reproducible payments.** In a run that records reports only as the second
half of an export, every report an export returns is recomputed by a validator to
the frozen scores of the hotkeys whose units the metric grammar can write,
normalized by their sum; and to all the frozen scores, normalized by their sum,
when it can write the units of every hotkey. -/
theorem exported_shares_reproduce {p : Platform} {ops : List Op}
    (own : Along (step p) (RecordsOwnExports p) .initial ops) {epochId : ℕ}
    {arguments : Arguments} {now : Instant} {body : Bytes} {s' : State}
    (exported : exportScoreClassReport p epochId arguments now (runOps p .initial ops) =
      .ok (body, s')) :
    (∃ shares, verifyAndRecompute p .none body = .ok shares) ∧
    ∀ checks shares, verifyAndRecompute p checks body = .ok shares →
      (∀ hotkey, amountOf shares hotkey =
        bySum ((publishedScores (runOps p .initial ops) epochId).map Prod.fst).toFinset
          (amountOf (publishedScores (runOps p .initial ops) epochId)) hotkey) ∧
      ((∀ row ∈ (runOps p .initial ops).scores.rows, row.epochId = epochId →
          (metricText? row.workUnits).isSome) →
        ∀ hotkey, amountOf shares hotkey =
          bySum ((loadScores (runOps p .initial ops) epochId).map Prod.fst).toFinset
            (amountOf (loadScores (runOps p .initial ops) epochId)) hotkey) := by
  set s := runOps p .initial ops with run
  have committed : (Op.exportScoreClassReport epochId arguments now).commit p s = .ok s' :=
    map_eq_ok.mpr ⟨_, exported, rfl⟩
  -- The export leaves the scores alone and its bytes in the table.
  have scores : s'.scores = s.scores := by
    rcases exportScoreClassReport_cases exported with ⟨rfl, -⟩ | ⟨report, -, recorded⟩
    · rfl
    · obtain ⟨-, ⟨rfl, -⟩ | ⟨-, -, exports, -, rfl⟩⟩ := recordScoreClassExport_cases recorded
      · rfl
      · rfl
  have built : ExportsBuilt p s' := by
    have last : Along (step p) (RecordsOwnExports p) s
        [.exportScoreClassReport epochId arguments now] := ⟨trivial, trivial⟩
    have longer := ExportsBuilt.of_along (along_append.mpr ⟨own, last⟩)
    rwa [runOps_append, ← run, runOps, run_cons, run_nil, step, committed, settle_ok] at longer
  obtain ⟨row, found, rfl⟩ := storedReport_of_returnsReport (.inr ⟨arguments, now, rfl, exported⟩)
  obtain ⟨member, keyed⟩ := Table.find?_eq_some.mp found
  obtain ⟨accepted, recomputed⟩ := shares_of_holdsExport (built row member)
  have named : row.epochId = epochId := congrArg Prod.fst keyed
  have published : publishedScores s' row.epochId = publishedScores s epochId := by
    rw [named, publishedScores, loadScores, scoresOf, scores]
    rfl
  rw [published] at recomputed
  refine ⟨accepted, fun checks shares read => ⟨recomputed checks shares read, fun all => ?_⟩⟩
  -- When every metric can be written, no score is left out.
  have everything : publishedScores s epochId = loadScores s epochId := by
    refine List.filter_eq_self.mpr fun entry listed => ?_
    obtain ⟨score, inside, rfl⟩ := mem_loadScores.mp listed
    obtain ⟨stored, owned⟩ := mem_scoresOf.mp inside
    rw [frozenUnits_of_mem inside]
    exact all score stored owned
  rw [← everything]
  exact recomputed checks shares read

/-! ## Concrete epochs -/

/-- A receipt for the work of a hotkey in the first epoch. -/
def sampleReceipt (hotkey : Text) (digit : CodePoint) (units : Text) : Json := .obj
  [("schema", .str receiptSchema),
    ("receipt_id", .str (Text.ofString "receipt-sha256:" ++ List.replicate 64 digit)),
    ("issued_at", .str "2026-01-01"), ("epoch_id", .int 1), ("source_epoch", .int 5),
    ("subject_hotkey", .str hotkey),
    ("work", .obj [("status", .str "passed"), ("challenge_id", .str [digit]),
      ("work_units", .str units)])]

def sampleReceiptArguments (hotkey : Text) (digit : CodePoint) (units : Text) : ReceiptArguments :=
  let body := (canonicalJson .sample (sampleReceipt hotkey digit units)).getD []
  ⟨Text.ofString "receipt-sha256:" ++ List.replicate 64 digit, body, sha256Digest body,
    "2026-01-01"⟩

/-- A hotkey passes its challenge, with the units as a value and as the text of the
receipt, and is attested. -/
def sampleWork (hotkey : Text) (digit : CodePoint) (units : ℚ) (text : Text) : List Op :=
  [.issueChallenge [digit] hotkey 1 0,
    .resolveChallengeWithReceipt [digit] "verified" (some (.finite units)) true
      (sampleReceiptArguments hotkey digit text) .none ⟨0, 0, 0⟩,
    .addAttestation 1 hotkey ⟨"VERIFIED", "TDX", "CPU", "e", "strict", none, none, false, none⟩ 0]

/-- An epoch with the work and the hotkeys. -/
def sampleEpoch (work : List Op) (hotkeys : List Text) : List Op :=
  .beginEpoch 5 {} 0 :: (work ++ [.completeEpoch 1
    { allHotkeys := hotkeys, scoreNetwork := some "n", scoreNetuid := some 1 } 0 0])

/-- An epoch in which `a` does five units and `b` fifteen. -/
def sampleShared : List Op :=
  sampleEpoch (sampleWork "a" 0x30 5 "5.0" ++ sampleWork "b" 0x31 15 "15.0") ["a", "b"]

/-- An epoch in which `a` does a unit more than the metric grammar holds. -/
def sampleLarge : List Op :=
  sampleEpoch (sampleWork "a" 0x30 (10 ^ 30) "1000000000000000000000000000000.0") ["a"]

def sampleArguments (hotkeys : List Text) : Arguments where
  stream := ⟨"n", 1, "c", "s"⟩
  signingKeyId := "k"
  privateKeySeed := List.replicate 32 0
  generatedAt := 0
  validUntil := 1
  validFromBlock := 0
  validUntilBlock := 1
  verifierDigest := Text.ofString "sha256:" ++ List.replicate 64 0x30
  candidateSnapshot :=
    [("schema", .str candidateSnapshotSchema), ("network", .str "n"), ("netuid", .int 1),
      ("block", .int 0), ("block_hash", .str (List.replicate 64 0x30)),
      ("hotkeys", .arr (hotkeys.map .str))]
  policyDigest := some (Text.ofString "sha256:" ++ List.replicate 64 0x30)
  previousReportId := none
  evidenceBaseUri := none
  requireEpochAnchor := false

/-- The export of an epoch. -/
def sampleExport (ops : List Op) (hotkeys : List Text) : Except Failure (Bytes × State) :=
  exportScoreClassReport .sample 1 (sampleArguments hotkeys) 0 (runOps .sample .initial ops)

/-- The shared epoch can be exported, all its units can be written, and its scores are
in the proportion of the units. -/
theorem sampleShared_scores : (sampleExport sampleShared ["a", "b"]).isOk = true ∧
    (∀ row ∈ (runOps .sample .initial sampleShared).scores.rows,
      row.epochId = 1 → (metricText? row.workUnits).isSome) ∧
    loadScores (runOps .sample .initial sampleShared) 1 =
      [(Text.ofString "a", 1 / 3), (Text.ofString "b", 1)] := by
  decide +kernel

/-- Five units and fifteen are published, and paid a quarter and three quarters. -/
theorem exported_shares_reproduce_five :
    ∃ body s' shares,
      sampleExport sampleShared ["a", "b"] = .ok (body, s') ∧
      verifyAndRecompute .sample .none body = .ok shares ∧
      amountOf shares "a" = 1 / 4 ∧ amountOf shares "b" = 3 / 4 := by
  obtain ⟨exports, written, scores⟩ := sampleShared_scores
  have own : Along (step .sample) (RecordsOwnExports .sample) .initial sampleShared :=
    ⟨trivial, trivial, trivial, trivial, trivial, trivial, trivial, trivial, trivial⟩
  obtain ⟨⟨body, s'⟩, exported⟩ := exists_of_isOk exports
  obtain ⟨⟨shares, read⟩, recomputed⟩ := exported_shares_reproduce own exported
  have paid := (recomputed .none shares read).2 written
  rw [scores] at paid
  refine ⟨body, s', shares, exported, read, ?_, ?_⟩
  · rw [paid]
    decide +kernel
  · rw [paid]
    decide +kernel

/-- What the epoch of a unit too many computes: a full score, and no shares. -/
theorem sampleLarge_shares :
    (do
      let (body, _) ← sampleExport sampleLarge ["a"]
      verifyAndRecompute .sample .none body) = .ok [] ∧
    loadScores (runOps .sample .initial sampleLarge) 1 = [(Text.ofString "a", 1)] :=
  by decide +kernel

/-- A unit more than the metric grammar holds is frozen with score one and
published as zero. -/
theorem not_shares_of_scores :
    ∃ body s' shares,
      sampleExport sampleLarge ["a"] = .ok (body, s') ∧
      verifyAndRecompute .sample .none body = .ok shares ∧
      amountOf shares "a" ≠
        bySum ((loadScores (runOps .sample .initial sampleLarge) 1).map Prod.fst).toFinset
          (amountOf (loadScores (runOps .sample .initial sampleLarge) 1)) "a" := by
  obtain ⟨recomputed, scores⟩ := sampleLarge_shares
  obtain ⟨⟨body, s'⟩, exported, read⟩ := bind_eq_ok.mp recomputed
  refine ⟨body, s', [], exported, read, ?_⟩
  rw [scores]
  decide +kernel

end Cathedral.ScoreClass
