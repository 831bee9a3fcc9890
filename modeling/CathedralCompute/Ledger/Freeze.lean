import CathedralCompute.Ledger.EpochHistory

/-!
# A finalized epoch is frozen

Once an epoch is complete, its report, scores, challenges, attestations,
lifecycle snapshots and receipts never change again. Most operations check the
epoch's status. The lease sweep and an abort do not: they give up challenges by
id, and spare a frozen epoch only because completion leaves no issued challenge
behind (`FreezeInvariant.open_of_issued`).
-/

set_option autoImplicit false

namespace Cathedral.Ledger

open Codec Semantics

/-- Complete, published or abandoned. -/
def EpochRow.IsFrozen (row : EpochRow) : Prop :=
  row.status = .complete ∨ row.status = .published ∨ row.status = .abandoned

theorem EpochRow.IsFinalized.isFrozen {row : EpochRow} (h : row.IsFinalized) : row.IsFrozen := by
  rcases h with complete | published
  · exact .inl complete
  · exact .inr (.inl published)

theorem EpochRow.IsFrozen.not_running {row : EpochRow} (h : row.IsFrozen) :
    row.status ≠ .running := by
  rcases h with status | status | status <;> simp [status]

theorem EpochRow.Evolves.isFrozen {row row' : EpochRow} (evolves : row.Evolves row')
    (frozen : row.IsFrozen) : row'.IsFrozen := by
  rcases evolves.status with same | running | ⟨-, published | abandoned⟩
  · rw [EpochRow.IsFrozen, same]
    exact frozen
  · exact absurd running frozen.not_running
  · exact .inr (.inl published)
  · exact .inr (.inr abandoned)

/-- The rows of one epoch. -/
structure EpochRecords where
  scores : List ScoreRow
  challenges : List ChallengeRow
  attestations : List AttestationRow
  lifecycle : List LifecycleRow
  receipts : List ReceiptRow

def recordsOf (s : State) (epochId : ℕ) : EpochRecords where
  scores := s.scores.select fun row => row.epochId = epochId
  challenges := s.challenges.select fun row => row.epochId = epochId
  attestations := s.attestations.select fun row => row.epochId = epochId
  lifecycle := s.lifecycle.select fun row => row.epochId = epochId
  receipts := s.receipts.select fun row => row.epochId = epochId

theorem recordsOf_congr {s s' : State} {epochId : ℕ}
    (scores : s'.scores.select (fun row => row.epochId = epochId) =
      s.scores.select fun row => row.epochId = epochId)
    (challenges : s'.challenges.select (fun row => row.epochId = epochId) =
      s.challenges.select fun row => row.epochId = epochId)
    (attestations : s'.attestations.select (fun row => row.epochId = epochId) =
      s.attestations.select fun row => row.epochId = epochId)
    (lifecycle : s'.lifecycle.select (fun row => row.epochId = epochId) =
      s.lifecycle.select fun row => row.epochId = epochId)
    (receipts : s'.receipts.select (fun row => row.epochId = epochId) =
      s.receipts.select fun row => row.epochId = epochId) :
    recordsOf s' epochId = recordsOf s epochId := by
  simp only [recordsOf, scores, challenges, attestations, lifecycle, receipts]

/-! ## The invariant -/

/-- What keeps frozen epochs frozen. -/
structure FreezeInvariant (s : State) : Prop where
  /-- Epoch ids were handed out. -/
  bounded : ∀ row ∈ s.epochs.rows, row.epochId ≤ s.epochSequence
  /-- An issued challenge does not belong to a frozen epoch. -/
  open_of_issued : ∀ challenge ∈ s.challenges.rows, challenge.status = .issued →
    ∀ row ∈ s.epochs.rows, row.epochId = challenge.epochId → ¬ row.IsFrozen
  /-- Scores belong to epochs that are no longer running. -/
  scored : ∀ score ∈ s.scores.rows, score.epochId ≤ s.epochSequence ∧
    ∀ row ∈ s.epochs.rows, row.epochId = score.epochId → row.status ≠ .running

theorem FreezeInvariant.initial : FreezeInvariant .initial :=
  ⟨fun _ none => (nomatch none), fun _ none => (nomatch none), fun _ none => (nomatch none)⟩

/-- The invariant reads the epochs, the issued challenges and the scores. -/
theorem FreezeInvariant.of_challenges {s s' : State} (h : FreezeInvariant s)
    (sequence : s'.epochSequence = s.epochSequence) (epochs : s'.epochs = s.epochs)
    (scores : s'.scores = s.scores)
    (issued : ∀ challenge ∈ s'.challenges.rows, challenge.status = .issued →
      challenge ∈ s.challenges.rows ∨ s.Running challenge.epochId) : FreezeInvariant s' := by
  refine ⟨?_, fun challenge member status row member' same => ?_, ?_⟩
  · rw [epochs, sequence]
    exact h.bounded
  · rw [epochs] at member'
    rcases issued challenge member status with old | ⟨owner, owned, named, running⟩
    · exact h.open_of_issued challenge old status row member' same
    · rw [Table.eq_of_key member' owned (same.trans named.symm)]
      exact fun frozen => frozen.not_running running
  · rw [epochs, sequence, scores]
    exact h.scored

/-- Rewriting the row of an epoch that has no issued challenge when it freezes. -/
theorem FreezeInvariant.of_update {s s' : State} (h : FreezeInvariant s) {row : EpochRow}
    {f : EpochRow → EpochRow} (member : row ∈ s.epochs.rows)
    (keeps : (f row).epochId = row.epochId) (stopped : (f row).status ≠ .running)
    (resolved : (f row).IsFrozen → ∀ challenge ∈ s.challenges.rows,
      challenge.epochId = row.epochId → challenge.status ≠ .issued)
    (sequence : s'.epochSequence = s.epochSequence) (challenges : s'.challenges = s.challenges)
    (scores : ∀ score ∈ s'.scores.rows, score ∈ s.scores.rows ∨ score.epochId = row.epochId)
    (epochs : s'.epochs.rows =
      s.epochs.rows.map fun other => if other.epochId = row.epochId then f other else other) :
    FreezeInvariant s' := by
  -- A row of the new table is the rewritten one or an old one of another epoch.
  have origin : ∀ other ∈ s'.epochs.rows,
      other = f row ∨ (other ∈ s.epochs.rows ∧ other.epochId ≠ row.epochId) := by
    intro other member'
    rw [epochs] at member'
    obtain ⟨old, before, rfl⟩ := Table.exists_of_mem_update member'
    split
    case isTrue same => exact .inl (by rw [Table.eq_of_key before member same])
    case isFalse other => exact .inr ⟨before, other⟩
  refine ⟨fun other member' => ?_, fun challenge listed issued other member' same frozen => ?_,
    fun score listed => ?_⟩
  · rw [sequence]
    rcases origin other member' with rfl | ⟨before, -⟩
    · exact keeps ▸ h.bounded row member
    · exact h.bounded other before
  · rw [challenges] at listed
    rcases origin other member' with rfl | ⟨before, -⟩
    · exact resolved frozen challenge listed (same.symm.trans keeps) issued
    · exact h.open_of_issued challenge listed issued other before same frozen
  · rw [sequence]
    rcases scores score listed with old | new
    · refine ⟨(h.scored score old).1, fun other member' same => ?_⟩
      rcases origin other member' with rfl | ⟨before, -⟩
      · exact stopped
      · exact (h.scored score old).2 other before same
    · refine ⟨new ▸ h.bounded row member, fun other member' same => ?_⟩
      rcases origin other member' with rfl | ⟨-, different⟩
      · exact stopped
      · exact absurd (same.trans new) different

/-- A challenge still issued after some were rewritten to another status is an old
one. -/
theorem mem_of_issued_of_update {challenges : List ChallengeRow} {q : ChallengeRow → Prop}
    [DecidablePred q] {f : ChallengeRow → ChallengeRow} (resolves : ∀ row, (f row).status ≠ .issued)
    {challenge : ChallengeRow}
    (member : challenge ∈ challenges.map fun row => if q row then f row else row)
    (issued : challenge.status = .issued) : challenge ∈ challenges ∧ ¬ q challenge := by
  obtain ⟨old, before, rfl⟩ := List.mem_map.mp member
  split at issued
  case isTrue => exact absurd issued (resolves old)
  case isFalse other =>
    rw [if_neg other]
    exact ⟨before, other⟩

theorem FreezeInvariant.of_step {p : Platform} {s s' : State} (h : FreezeInvariant s)
    (change : FreeStep p s s') : FreezeInvariant s' := by
  cases change with
  | beginEpoch idle above inserted =>
    -- the new epoch is running, and above every score
    refine ⟨fun row member => ?_, fun challenge listed issued row member same => ?_,
      fun score listed => ⟨(h.scored score listed).1.trans (Nat.le_succ _), fun row member same => ?_⟩⟩
    · rcases (Table.mem_insert inserted).mp member with old | rfl
      · exact (h.bounded row old).trans (Nat.le_succ _)
      · exact le_rfl
    · rcases (Table.mem_insert inserted).mp member with old | rfl
      · exact h.open_of_issued challenge listed issued row old same
      · exact fun frozen => frozen.not_running rfl
    · rcases (Table.mem_insert inserted).mp member with old | rfl
      · exact (h.scored score listed).2 row old same
      · exact absurd (h.scored score listed).1 (by rw [← same]; exact Nat.not_succ_le_self _)
  | abortEpoch member running released =>
    refine h.of_update member rfl (by simp [EpochRow.abort]) (fun frozen => ?_) rfl rfl
      (fun _ => .inl) rfl
    rcases frozen with status | status | status <;> cases status
  -- the scores of the epoch are written as it freezes
  | freezeEpoch member running frozen =>
    obtain ⟨time, generatedAt, audience, body, table, -, rows, rfl⟩ := frozen.changed
    refine h.of_update member rfl (by simp [EpochRow.complete]) (fun _ => frozen.resolved) rfl rfl
      (fun score listed => ?_) rfl
    rw [rows, List.mem_append] at listed
    rcases listed with old | new
    · exact .inl old
    · obtain ⟨entry, -, rfl⟩ := List.mem_map.mp new
      exact .inr rfl
  | abandonEpoch now reason member complete =>
    exact h.of_update member rfl (by simp [EpochRow.abandon])
      (fun _ challenge listed named issued =>
        h.open_of_issued challenge listed issued _ member named.symm (.inl complete))
      rfl rfl (fun _ => .inl) rfl
  | publishEpoch now member complete =>
    exact h.of_update member rfl (by simp [EpochRow.publish])
      (fun _ challenge listed named issued =>
        h.open_of_issued challenge listed issued _ member named.symm (.inl complete))
      rfl rfl (fun _ => .inl) rfl
  -- a challenge is issued in a running epoch only
  | issueChallenge running inserted =>
    refine h.of_challenges rfl rfl rfl fun challenge member _ => ?_
    rcases (Table.mem_insert inserted).mp member with old | rfl
    · exact .inl old
    · exact .inr running
  | leaseJob running member queued below encodable payload inserted =>
    refine h.of_challenges rfl rfl rfl fun challenge member _ => ?_
    rcases (Table.mem_insert inserted).mp member with old | rfl
    · exact .inl old
    · exact .inr running
  | resolveChallenge units now jobTime resolving bare receipts =>
    exact h.of_challenges rfl rfl rfl fun challenge member issued =>
      .inl (mem_of_issued_of_update (fun _ => resolving.resolved) member issued).1
  | takeBack now error resolvedAt member leased outcome =>
    exact h.of_challenges rfl rfl rfl fun challenge member issued =>
      .inl (mem_of_issued_of_update (fun _ => by simp [ChallengeRow.abandon]) member issued).1
  | _ => exact h.of_challenges rfl rfl rfl fun challenge member _ => .inl member

theorem FreezeInvariant.of_reachable {p : Platform} {s : State} (reachable : Reachable p s) :
    FreezeInvariant s :=
  reachable.of_changes .initial fun h change => h.of_step change

/-! ## Frozen records -/

/-- The frozen epochs of the first state are frozen in the second. -/
def Frozen (s s' : State) : Prop :=
  ∀ row ∈ s.epochs.rows, row.IsFrozen →
    (∃ row' ∈ s'.epochs.rows, row.Evolves row') ∧
      recordsOf s' row.epochId = recordsOf s row.epochId

theorem Frozen.refl (s : State) : Frozen s s :=
  fun row member _ => ⟨⟨row, member, .refl row⟩, rfl⟩

theorem Frozen.trans {a b c : State} (first : Frozen a b) (second : Frozen b c) : Frozen a c := by
  intro row member frozen
  obtain ⟨⟨row', member', evolves⟩, records⟩ := first row member frozen
  obtain ⟨⟨row'', member'', evolves'⟩, records'⟩ := second row' member' (evolves.isFrozen frozen)
  rw [evolves.epochId] at records'
  exact ⟨⟨row'', member'', evolves.trans evolves'⟩, records'.trans records⟩

/-- A running epoch is not the frozen one. -/
theorem State.Running.ne_of_frozen {s : State} {epochId : ℕ} {row : EpochRow}
    (running : s.Running epochId) (member : row ∈ s.epochs.rows) (frozen : row.IsFrozen) :
    epochId ≠ row.epochId := by
  obtain ⟨owner, owned, named, status⟩ := running
  rintro rfl
  rw [Table.eq_of_key owned member named] at status
  exact frozen.not_running status

theorem recordsOf_of_step {p : Platform} {s s' : State} (h : FreezeInvariant s)
    (change : FreeStep p s s') {row : EpochRow} (member : row ∈ s.epochs.rows)
    (frozen : row.IsFrozen) : recordsOf s' row.epochId = recordsOf s row.epochId := by
  cases change with
  | freezeEpoch member' running freezing =>
    obtain ⟨time, generatedAt, audience, body, table, -, rows, rfl⟩ := freezing.changed
    refine recordsOf_congr ?_ rfl rfl rfl rfl
    have other := State.Running.ne_of_frozen ⟨_, member', rfl, running⟩ member frozen
    simp only [Table.select, rows, List.filter_append, scoreRows, List.filter_map]
    simp [Function.comp_def, other]
  | issueChallenge running inserted =>
    exact recordsOf_congr rfl
      (Table.select_insert inserted (running.ne_of_frozen member frozen)) rfl rfl rfl
  | leaseJob running member' queued below encodable payload inserted =>
    exact recordsOf_congr rfl
      (Table.select_insert inserted (running.ne_of_frozen member frozen)) rfl rfl rfl
  | resolveChallenge units now jobTime resolving bare receipts =>
    have other := resolving.running.ne_of_frozen member frozen
    refine recordsOf_congr rfl (Table.select_update fun challenge listed named => ?_) rfl rfl ?_
    · rw [Table.eq_of_key listed resolving.member named]
      exact ⟨other, other⟩
    · rcases receipts with same | ⟨receipt, owned, inserted⟩
      · rw [same]
      · exact Table.select_insert inserted (owned ▸ other)
  | takeBack now error resolvedAt listed leased outcome =>
    refine recordsOf_congr rfl (Table.select_update fun challenge held named => ?_) rfl rfl rfl
    have other : challenge.epochId ≠ row.epochId := fun same =>
      h.open_of_issued challenge held named.2 row member same.symm frozen
    exact ⟨other, other⟩
  | addAttestation running inserted =>
    exact recordsOf_congr rfl rfl
      (Table.select_insert inserted (running.ne_of_frozen member frozen)) rfl rfl
  | addLifecycle running inserted =>
    exact recordsOf_congr rfl rfl rfl
      (Table.select_insert inserted (running.ne_of_frozen member frozen)) rfl
  | _ => rfl

theorem Frozen.of_step {p : Platform} {s s' : State} (h : FreezeInvariant s)
    (change : FreeStep p s s') : Frozen s s' :=
  fun row member frozen =>
    ⟨(EpochsEvolve.of_step change).kept row member, recordsOf_of_step h change member frozen⟩

/-- Frozen epochs stay frozen over any run. -/
theorem Frozen.of_runOps {p : Platform} {s : State} (reachable : Reachable p s) (ops : List Op) :
    Frozen s (runOps p s ops) :=
  relation_runOps Frozen.refl Frozen.trans (fun h change => h.of_step change)
    (fun h change => .of_step h change) (FreezeInvariant.of_reachable reachable) ops

/-! ## Completing again -/

theorem loadScores_of_recordsOf {s s' : State} {epochId : ℕ}
    (same : recordsOf s' epochId = recordsOf s epochId) :
    loadScores s' epochId = loadScores s epochId := by
  have scores : s'.scores.select (fun row => row.epochId = epochId) =
      s.scores.select fun row => row.epochId = epochId :=
    congrArg EpochRecords.scores same
  rw [loadScores, scores, loadScores]

/-- The frozen rows read back as the scores that were returned. -/
theorem Freezing.loadScores {p : Platform} {row : EpochRow} {s s' : State}
    {scores : List (Text × ℚ≥0)} {allHotkeys : List Text}
    (frozen : Freezing p row s scores s' allHotkeys)
    (unscored : ∀ score ∈ s.scores.rows, score.epochId ≠ row.epochId) :
    Ledger.loadScores s' row.epochId = scores := by
  obtain ⟨time, generatedAt, audience, body, table, -, rows, rfl⟩ := frozen.changed
  have before : s.scores.rows.filter (fun score => score.epochId = row.epochId) = [] := by
    simpa using unscored
  have selected : table.select (fun score => score.epochId = row.epochId) =
      scoreRows s row.epochId scores := by
    rw [Table.select, rows, List.filter_append, before, List.nil_append, List.filter_eq_self]
    intro score listed
    obtain ⟨entry, -, rfl⟩ := List.mem_map.mp listed
    exact decide_eq_true rfl
  have sorted : (scoreRows s row.epochId scores).Pairwise fun a b => a.hotkey ≤ b.hotkey := by
    rw [scoreRows, List.pairwise_map]
    have hotkeys : (scoredHotkeys s row.epochId allHotkeys).Pairwise (· < ·) :=
      scoredHotkeys_pairwise allHotkeys
    rw [← frozen.hotkeys, List.pairwise_map] at hotkeys
    exact hotkeys.imp le_of_lt
  show ((table.select fun score => score.epochId = row.epochId).insertionSort
    fun a b => a.hotkey ≤ b.hotkey).map (fun score => (score.hotkey, score.score)) = scores
  rw [selected, sorted.insertionSort_eq, scoreRows, List.map_map]
  exact List.map_id _

/-- A completion leaves its scores behind. -/
theorem loadScores_of_completeEpoch {p : Platform} {epochId : ℕ} {arguments : CompletionArguments}
    {generatedNow completionTime : Instant} {s s' : State} {scores : List (Text × ℚ≥0)}
    (h : FreezeInvariant s)
    (completed : completeEpoch p epochId arguments generatedNow completionTime s =
      .ok (scores, s')) : loadScores s' epochId = scores := by
  obtain ⟨row, member, rfl, ⟨-, rfl, rfl⟩ | ⟨running, frozen⟩⟩ := completeEpoch_cases completed
  · rfl
  · exact frozen.loadScores fun score listed same =>
      (h.scored score listed).2 row member same.symm running

theorem finalized_of_completeEpoch {p : Platform} {epochId : ℕ} {arguments : CompletionArguments}
    {generatedNow completionTime : Instant} {s s' : State} {scores : List (Text × ℚ≥0)}
    (completed : completeEpoch p epochId arguments generatedNow completionTime s =
      .ok (scores, s')) : ∃ row ∈ s'.epochs.rows, row.epochId = epochId ∧ row.IsFinalized := by
  obtain ⟨row, member, rfl, ⟨finalized, -, rfl⟩ | ⟨-, frozen⟩⟩ := completeEpoch_cases completed
  · exact ⟨row, member, rfl, finalized⟩
  · obtain ⟨row', member', named, complete, -⟩ := frozen.reported member
    exact ⟨row', member', named, .inl complete⟩

/-- Once finalized, completing with arguments that were accepted before returns
the frozen scores. -/
theorem completeEpoch_again {p : Platform} {epochId : ℕ} {arguments : CompletionArguments}
    {generatedNow completionTime : Instant} {s₀ s : State}
    {result : List (Text × ℚ≥0) × State}
    (completed : completeEpoch p epochId arguments generatedNow completionTime s₀ = .ok result)
    {row : EpochRow} (member : row ∈ s.epochs.rows) (named : row.epochId = epochId)
    (finalized : row.IsFinalized) (generatedNow' completionTime' : Instant) :
    completeEpoch p epochId arguments generatedNow' completionTime' s =
      .ok (loadScores s epochId, s) := by
  simp only [completeEpoch, bind_eq_ok, epoch_eq_ok] at completed ⊢
  obtain ⟨generatedAt, stamped, audience, addressed, ⟨⟩, nonempty, -⟩ := completed
  have stamped' : ∃ time, validatedGeneratedAt p arguments.generatedAt generatedNow' =
      .ok time := by
    cases given : arguments.generatedAt with
    | none => exact ⟨_, rfl⟩
    | some text =>
      rw [given] at stamped
      exact ⟨generatedAt, stamped⟩
  obtain ⟨time, stamped'⟩ := stamped'
  refine ⟨time, stamped', audience, addressed, (), nonempty, row, ⟨member, named⟩, ?_⟩
  rw [if_pos finalized]
  rfl

/-- **Frozen epochs.** In every run from a reachable state, an epoch that is
complete, published or abandoned keeps its report and its rows, and its status
moves only from complete to published or abandoned. Completing a complete or
published epoch again returns the scores of the first completion and changes
nothing. -/
theorem finalized_epoch_immutable {p : Platform} {s : State} (reachable : Reachable p s) :
    (∀ row ∈ s.epochs.rows, row.IsFrozen → ∀ ops : List Op,
      ∃ row' ∈ (runOps p s ops).epochs.rows, row'.epochId = row.epochId ∧
        row'.reportBody = row.reportBody ∧ row'.reportDigest = row.reportDigest ∧
        (row'.status = row.status ∨
          (row.status = .complete ∧ (row'.status = .published ∨ row'.status = .abandoned))) ∧
        recordsOf (runOps p s ops) row.epochId = recordsOf s row.epochId) ∧
    (∀ epochId arguments generatedNow completionTime scores s',
      completeEpoch p epochId arguments generatedNow completionTime s = .ok (scores, s') →
      ∀ ops, ∀ row ∈ (runOps p s' ops).epochs.rows, row.epochId = epochId → row.IsFinalized →
        (∀ generatedNow completionTime,
          completeEpoch p epochId arguments generatedNow completionTime (runOps p s' ops) =
            .ok (scores, runOps p s' ops)) ∧
        ∀ arguments generatedNow completionTime result,
          completeEpoch p epochId arguments generatedNow completionTime (runOps p s' ops) =
            .ok result → result = (scores, runOps p s' ops)) := by
  constructor
  · intro row member frozen ops
    obtain ⟨⟨row', member', evolves⟩, records⟩ := Frozen.of_runOps reachable ops row member frozen
    obtain ⟨body, digest⟩ := evolves.report frozen.not_running
    refine ⟨row', member', evolves.epochId, body, digest, ?_, records⟩
    rcases evolves.status with same | running | moved
    · exact .inl same
    · exact absurd running frozen.not_running
    · exact .inr moved
  · intro epochId arguments generatedNow completionTime scores s' completed ops row member named
      finalized
    have committed : (Op.completeEpoch epochId arguments generatedNow completionTime).commit p s =
        .ok s' := map_eq_ok.mpr ⟨_, completed, rfl⟩
    have reachable' : Reachable p s' := by
      have next := reachable.run [.completeEpoch epochId arguments generatedNow completionTime]
      rwa [run_cons, run_nil, step, committed, settle_ok] at next
    -- the scores are read from records that no longer change
    have kept : loadScores (runOps p s' ops) epochId = scores := by
      obtain ⟨first, member', rfl, finalized'⟩ := finalized_of_completeEpoch completed
      have records := (Frozen.of_runOps reachable' ops first member' finalized'.isFrozen).2
      rw [loadScores_of_recordsOf records]
      exact loadScores_of_completeEpoch (.of_reachable reachable) completed
    constructor
    · intro generatedNow' completionTime'
      rw [completeEpoch_again completed member named finalized, kept]
    · intro arguments' generatedNow' completionTime' result again
      obtain ⟨scores', s''⟩ := result
      rw [completeEpoch_again again member named finalized, kept] at again
      exact (Except.ok.inj again).symm

/-- A published epoch under an abort, a completion with another hotkey, and the
next epoch, begun and completed. -/
theorem finalized_epoch_immutable_published :
    let s := runOps .sample .initial
      [.beginEpoch 5 {} 0, .completeEpoch 1 { allHotkeys := ["a"] } 0 0, .markPublished 1 none 0]
    let later := [.abortEpoch 1 0, .completeEpoch 1 { allHotkeys := ["b"] } 0 0,
      .beginEpoch 6 {} 0, .completeEpoch 2 { allHotkeys := ["b"] } 0 0]
    (runOps .sample s later).epochs.rows.length = 2 ∧
    ∃ row ∈ s.epochs.rows, row.status = .published ∧
      ∃ row' ∈ (runOps .sample s later).epochs.rows,
        row'.epochId = row.epochId ∧ row'.reportBody = row.reportBody := by
  intro s later
  have begun : (runOps .sample s later).epochs.rows.length = 2 := by decide +kernel
  have published : ∃ row ∈ s.epochs.rows, row.status = .published := by decide +kernel
  obtain ⟨row, member, status⟩ := published
  have reachable : Reachable .sample s := Reachable.of_runOps _ _
  obtain ⟨row', member', named, body, -⟩ :=
    (finalized_epoch_immutable reachable).1 row member (.inr (.inl status)) later
  exact ⟨begun, row, member, status, row', member', named, body⟩

end Cathedral.Ledger
