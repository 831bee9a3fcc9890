import CathedralCompute.Ledger.Steps

/-!
# Export streams are chains

The rows of an export stream, ordered by source epoch, are linked: each report
declares the id of the one before it, and the first declares none. The table only
grows, and only at the end of a stream. A report is built outside the transaction
that stores it; the chain holds because that transaction checks the predecessor
again (`requireSuccessor`), whatever was read before.
-/

set_option autoImplicit false

namespace Cathedral.Ledger

open Codec Semantics

/-- The rows of a stream by source epoch. -/
def streamChain (s : State) (stream : Stream) : List ExportRow :=
  (s.exports.select fun row => row.stream = stream).insertionSort
    fun a b => a.sourceEpoch ≤ b.sourceEpoch

/-- The stored report declares this predecessor. -/
def ExportRow.Declares (p : Platform) (row : ExportRow) (previous : Option Text) : Prop :=
  ∃ document, reportDocument p row.reportBody = some document ∧
    Json.equalsOptionalText previous (document.get? "previous_report_id")

/-- The first report declares `previous`, each later one the report before it. -/
def Linked (p : Platform) : Option Text → List ExportRow → Prop
  | _, [] => True
  | previous, row :: rows => row.Declares p previous ∧ Linked p (some row.reportId) rows

/-- The id that the next report of a chain declares. -/
def lastReportId (rows : List ExportRow) : Option Text := rows.getLast?.map ExportRow.reportId

theorem linked_append {p : Platform} {previous : Option Text} {rows : List ExportRow}
    {row : ExportRow} :
    Linked p previous (rows ++ [row]) ↔
      Linked p previous rows ∧ row.Declares p ((lastReportId rows).or previous) := by
  induction rows generalizing previous with
  | nil => simp [Linked, lastReportId]
  | cons first rows ih =>
    have last : (lastReportId (first :: rows)).or previous =
        (lastReportId rows).or (some first.reportId) := by
      cases rows with
      | nil => rfl
      | cons second rows =>
        simp only [lastReportId, List.getLast?_cons_cons]
        cases ends : (second :: rows).getLast? with
        | none => simp at ends
        | some row => rfl
    rw [List.cons_append, Linked, Linked, ih, last, and_assoc]

/-! ## The invariant -/

/-- Every stream is stored in the order of source epochs and linked. -/
structure ExportChain (p : Platform) (s : State) : Prop where
  increasing : ∀ stream, (s.exports.select fun row => row.stream = stream).Pairwise
    fun a b => a.sourceEpoch < b.sourceEpoch
  linked : ∀ stream, Linked p none (s.exports.select fun row => row.stream = stream)

theorem ExportChain.initial (p : Platform) : ExportChain p .initial :=
  ⟨fun _ => List.Pairwise.nil, fun _ => trivial⟩

section Chain

variable {p : Platform} {s : State}

theorem ExportChain.streamChain_eq (h : ExportChain p s) (stream : Stream) :
    streamChain s stream = s.exports.select fun row => row.stream = stream :=
  ((h.increasing stream).imp le_of_lt).insertionSort_eq

/-- The row the ledger reads as the latest of a stream is the last one stored. -/
theorem ExportChain.latest (h : ExportChain p s) (stream : Stream) :
    (streamRows s stream).head? = (s.exports.select fun row => row.stream = stream).getLast? := by
  have reversed : (s.exports.select fun row => row.stream = stream).reverse.Pairwise
      fun a b => b.sourceEpoch ≤ a.sourceEpoch :=
    List.pairwise_reverse.mpr ((h.increasing stream).imp le_of_lt)
  have sorted : (streamRows s stream).Pairwise fun a b => b.sourceEpoch ≤ a.sourceEpoch :=
    List.pairwise_insertionSort _ _
  have same : streamRows s stream =
      (s.exports.select fun row => row.stream = stream).reverse := by
    refine List.Perm.eq_of_pairwise (fun a b listed listed' le ge => ?_) sorted reversed
      ((List.perm_insertionSort _ _).trans (List.reverse_perm _).symm)
    -- Two rows of a stream with the same source epoch are the same row.
    have distinct : ((s.exports.select fun row => row.stream = stream).map
        ExportRow.sourceEpoch).Nodup :=
      List.pairwise_map.mpr ((h.increasing stream).imp ne_of_lt)
    rw [streamRows, List.mem_insertionSort] at listed
    rw [List.mem_reverse] at listed'
    exact List.inj_on_of_nodup_map distinct listed listed' (le_antisymm ge le)
  rw [same, List.head?_reverse]

/-- What the transaction checks of a new report. -/
theorem declares_of_validateExport {arguments : ExportArguments} {now : Instant}
    (validated : validateExport p arguments = .ok ()) :
    (arguments.row now).Declares p arguments.previousReportId := by
  simp only [validateExport, bind_eq_ok, require_eq_ok, demand_eq_ok] at validated
  obtain ⟨-, -, -, -, -, -, document, read, -, -, matched⟩ := validated
  exact ⟨document, read, matched.2.2.2.2.2.2⟩

/-- The new report follows the last one of its stream. -/
theorem ExportChain.successor (h : ExportChain p s) {arguments : ExportArguments}
    (successor : requireSuccessor s arguments = .ok ()) :
    (∀ row ∈ s.exports.select fun row => row.stream = arguments.stream,
      row.sourceEpoch < arguments.sourceEpoch) ∧
    arguments.previousReportId =
      lastReportId (s.exports.select fun row => row.stream = arguments.stream) := by
  unfold requireSuccessor at successor
  rw [h.latest] at successor
  rw [lastReportId]
  split at successor
  case h_1 none =>
    rw [require_eq_ok] at successor
    rw [List.getLast?_eq_none_iff.mp none]
    exact ⟨List.forall_mem_nil _, successor⟩
  case h_2 latest last =>
    simp only [bind_eq_ok, require_eq_ok] at successor
    obtain ⟨-, later, declared⟩ := successor
    rw [last]
    refine ⟨fun row listed => ?_, declared⟩
    obtain ⟨rows, ends⟩ := List.getLast?_eq_some_iff.mp last
    have increasing := h.increasing arguments.stream
    rw [ends, List.pairwise_append] at increasing
    rw [ends, List.mem_append, List.mem_singleton] at listed
    rcases listed with earlier | rfl
    · exact (increasing.2.2 row earlier latest (List.mem_singleton_self _)).trans later
    · exact later

theorem ExportChain.of_step {s' : State} (h : ExportChain p s) (change : FreeStep p s s') :
    ExportChain p s' := by
  cases change with
  | @recordExport arguments now exports admitted validated successor inserted =>
    obtain ⟨later, declared⟩ := h.successor successor
    -- The stream of the report grows at its end; the others are as they were.
    have own : (exports.select fun row => row.stream = arguments.stream) =
        (s.exports.select fun row => row.stream = arguments.stream) ++ [arguments.row now] := by
      simp [Table.select, Table.rows_of_insert inserted, ExportArguments.row]
    have others : ∀ stream, stream ≠ arguments.stream →
        (exports.select fun row => row.stream = stream) =
          s.exports.select fun row => row.stream = stream :=
      fun stream different => Table.select_insert inserted (Ne.symm different)
    refine ⟨fun stream => ?_, fun stream => ?_⟩
    · by_cases same : stream = arguments.stream
      · subst same
        show (exports.select _).Pairwise _
        rw [own, List.pairwise_append]
        refine ⟨h.increasing _, List.pairwise_singleton _ _, fun row listed row' new => ?_⟩
        rw [List.mem_singleton.mp new]
        exact later row listed
      · exact (others stream same).symm ▸ h.increasing stream
    · by_cases same : stream = arguments.stream
      · subst same
        show Linked p none (exports.select _)
        rw [own, linked_append, ← declared, Option.or_none]
        exact ⟨h.linked _, declares_of_validateExport validated⟩
      · exact (others stream same).symm ▸ h.linked stream
  | freezeEpoch member running frozen =>
    obtain ⟨time, generatedAt, audience, body, table, -, -, rfl⟩ := frozen.changed
    exact ⟨h.increasing, h.linked⟩
  | _ => exact ⟨h.increasing, h.linked⟩

theorem ExportChain.of_reachable (reachable : Reachable p s) : ExportChain p s :=
  reachable.of_changes (.initial p) fun h change => h.of_step change

/-! ## Growth -/

/-- The table of exports only grows at its end. -/
def ExportsGrow (s s' : State) : Prop := s.exports.rows <+: s'.exports.rows

theorem ExportsGrow.of_step {s' : State} (change : FreeStep p s s') : ExportsGrow s s' := by
  cases change with
  | recordExport admitted validated successor inserted =>
    exact ⟨_, (Table.rows_of_insert inserted).symm⟩
  | freezeEpoch member running frozen =>
    obtain ⟨time, generatedAt, audience, body, table, -, -, rfl⟩ := frozen.changed
    exact List.prefix_rfl
  | _ => exact List.prefix_rfl

theorem ExportsGrow.of_runOps (s : State) (ops : List Op) : ExportsGrow s (runOps p s ops) :=
  relation_runOps (I := fun _ => True) (R := ExportsGrow) (fun _ => List.prefix_rfl)
    (fun first second => List.IsPrefix.trans first second) (fun _ _ => trivial)
    (fun _ change => ExportsGrow.of_step change) trivial ops

/-- A stored report is found again. -/
theorem ExportsGrow.find? {s' : State} (grown : ExportsGrow s s') {key : ℕ × Stream}
    {row : ExportRow} (found : s.exports.find? key = some row) :
    s'.exports.find? key = some row := by
  obtain ⟨member, keyed⟩ := Table.find?_eq_some.mp found
  exact Table.find?_eq_some.mpr ⟨grown.subset member, keyed⟩

end Chain

/-! ## Returned reports -/

/-- A call that records or exports the report of an epoch in a stream returns
these bytes. -/
def ReturnsReport (p : Platform) (s : State) (epochId : ℕ) (stream : Stream) (body : Bytes)
    (s' : State) : Prop :=
  (∃ arguments now, arguments.epochId = epochId ∧ arguments.stream = stream ∧
    recordScoreClassExport p arguments now s = .ok (body, s')) ∨
  ∃ arguments now, arguments.stream = stream ∧
    ScoreClass.exportScoreClassReport p epochId arguments now s = .ok (body, s')

/-- The bytes stored for an epoch in a stream. -/
def StoredReport (s : State) (epochId : ℕ) (stream : Stream) (body : Bytes) : Prop :=
  ∃ row, s.exports.find? (epochId, stream) = some row ∧ row.reportBody = body

theorem storedReport_of_record {p : Platform} {s s' : State} {arguments : ExportArguments}
    {now : Instant} {body : Bytes}
    (recorded : recordScoreClassExport p arguments now s = .ok (body, s')) :
    StoredReport s' arguments.epochId arguments.stream body := by
  obtain ⟨-, ⟨rfl, existing, found, same, -⟩ | ⟨rfl, -, exports, inserted, rfl⟩⟩ :=
    recordScoreClassExport_cases recorded
  · exact ⟨existing, found, same⟩
  · exact ⟨arguments.row now,
      Table.find?_eq_some.mpr ⟨(Table.mem_insert inserted).mpr (.inr rfl), rfl⟩, rfl⟩

theorem key_of_buildReport {p : Platform} {s : State} {epochId : ℕ}
    {arguments : ScoreClass.Arguments} {report : ExportArguments}
    (built : ScoreClass.buildReport p epochId arguments s = .ok report) :
    report.epochId = epochId ∧ report.stream = arguments.stream := by
  simp only [ScoreClass.buildReport, bind_eq_ok, pure_eq_ok] at built
  obtain ⟨_, -, _, -, -, -, _, -, -, -, _, -, _, -, -, -, _, -, ⟨_, _⟩, -, rfl⟩ := built
  exact ⟨rfl, rfl⟩

theorem storedReport_of_returnsReport {p : Platform} {s s' : State} {epochId : ℕ}
    {stream : Stream} {body : Bytes} (returned : ReturnsReport p s epochId stream body s') :
    StoredReport s' epochId stream body := by
  rcases returned with ⟨arguments, now, rfl, rfl, recorded⟩ | ⟨arguments, now, rfl, exported⟩
  · exact storedReport_of_record recorded
  · rcases exportScoreClassReport_cases exported with ⟨rfl, stored⟩ | ⟨report, builds, recorded⟩
    · exact stored
    · obtain ⟨named, addressed⟩ := key_of_buildReport builds.built
      rw [← named, ← addressed]
      exact storedReport_of_record recorded

/-- A returning call is an operation of the ledger. -/
theorem exists_op_of_returnsReport {p : Platform} {s s' : State} {epochId : ℕ} {stream : Stream}
    {body : Bytes} (returned : ReturnsReport p s epochId stream body s') :
    ∃ op : Op, step p s op = s' := by
  rcases returned with ⟨arguments, now, -, -, recorded⟩ | ⟨arguments, now, -, exported⟩
  · refine ⟨.recordScoreClassExport arguments now, ?_⟩
    rw [step, Op.commit, recorded]
    rfl
  · refine ⟨.exportScoreClassReport epochId arguments now, ?_⟩
    rw [step, Op.commit, exported]
    rfl

/-- **Export streams.** In every reachable state the rows of a stream, by source
epoch, are strictly increasing and linked. Every run only appends to a stream.
Two calls that return the report of one epoch in one stream return the same
bytes, whatever happens in between. -/
theorem exports_form_chain {p : Platform} {s : State} (reachable : Reachable p s)
    (stream : Stream) :
    (streamChain s stream).Pairwise (fun a b => a.sourceEpoch < b.sourceEpoch) ∧
    Linked p none (streamChain s stream) ∧
    (∀ ops, ∃ added, streamChain (runOps p s ops) stream = streamChain s stream ++ added) ∧
    ∀ epochId body s₁, ReturnsReport p s epochId stream body s₁ →
      ∀ ops body' s₂, ReturnsReport p (runOps p s₁ ops) epochId stream body' s₂ →
        body' = body := by
  have chain := ExportChain.of_reachable reachable
  rw [chain.streamChain_eq]
  refine ⟨chain.increasing stream, chain.linked stream, fun ops => ?_,
    fun epochId body s₁ returned ops body' s₂ returned' => ?_⟩
  · have later : ExportChain p (runOps p s ops) := .of_reachable (reachable.run ops)
    obtain ⟨added, rows⟩ := ExportsGrow.of_runOps (p := p) s ops
    refine ⟨added.filter fun row => row.stream = stream, ?_⟩
    rw [later.streamChain_eq, Table.select, ← rows, List.filter_append]
    rfl
  · obtain ⟨row, found, rfl⟩ := storedReport_of_returnsReport returned
    obtain ⟨row', found', rfl⟩ := storedReport_of_returnsReport returned'
    obtain ⟨op, rfl⟩ := exists_op_of_returnsReport returned'
    have grown : ExportsGrow s₁ (step p (runOps p s₁ ops) op) := by
      have whole := ExportsGrow.of_runOps (p := p) s₁ (ops ++ [op])
      rwa [runOps_append] at whole
    have kept := grown.find? found
    rw [found'] at kept
    exact congrArg ExportRow.reportBody (Option.some.inj kept)

/-- The id of a sample report. -/
def sampleReportId (digit : CodePoint) : Text := Text.ofString "sha256:" ++ List.replicate 64 digit

/-- A minimal report for an epoch, after the previous report of its stream. -/
def ExportArguments.sample (epochId : ℕ) (digit : CodePoint) (previous : Option Text) :
    ExportArguments :=
  let document : Json := .obj
    [("class_id", .str "c"), ("netuid", .int 0), ("network", .str "n"),
      ("previous_report_id", (previous.map .str).getD .null),
      ("report_id", .str (sampleReportId digit)), ("source_epoch", .int (epochId + 4)),
      ("source_id", .str "s")]
  ⟨epochId, epochId + 4, ⟨"n", 0, "c", "s"⟩, sampleReportId digit, previous,
    (canonicalJson .sample document).getD []⟩

/-- The stream of two epochs after the report of each is recorded. -/
theorem exports_form_chain_two :
    let s := runOps .sample .initial
      [.beginEpoch 5 {} 0, .completeEpoch 1 { allHotkeys := ["a"] } 0 0,
        .recordScoreClassExport (.sample 1 0x30 none) 0,
        .markPublished 1 none 0, .beginEpoch 6 {} 0,
        .completeEpoch 2 { allHotkeys := ["a"] } 0 0,
        .recordScoreClassExport (.sample 2 0x31 (some (sampleReportId 0x30))) 0]
    ∃ first second, streamChain s ⟨"n", 0, "c", "s"⟩ = [first, second] ∧
      first.sourceEpoch < second.sourceEpoch ∧ first.Declares .sample none ∧
      second.Declares .sample (some first.reportId) := by
  intro s
  have two : (streamChain s ⟨"n", 0, "c", "s"⟩).length = 2 := by decide +kernel
  have reachable : Reachable .sample s := Reachable.of_runOps _ _
  clear_value s
  obtain ⟨first, second, both⟩ := List.length_eq_two.mp two
  obtain ⟨increasing, linked, -, -⟩ := exports_form_chain reachable ⟨"n", 0, "c", "s"⟩
  rw [both] at increasing linked
  obtain ⟨declared, follows, -⟩ := linked
  have later : first.sourceEpoch < second.sourceEpoch :=
    (List.pairwise_cons.mp increasing).1 second List.mem_cons_self
  exact ⟨first, second, both, later, declared, follows⟩

end Cathedral.Ledger
