import CathedralCompute.Ledger.Completion
import CathedralCompute.Sample
import CathedralCompute.Semantics.Normalization
import Mathlib.Data.List.Sort

/-!
# The frozen scores

What completing an epoch pays, said without the code's intermediate maps: a
hotkey *may earn* when it passes the attestation gate and, once the epoch has any
lifecycle snapshot, the lifecycle gate; it *earns* its verified units or nothing;
and its score is what it earns relative to the largest earning.
-/

set_option autoImplicit false

namespace Cathedral.Ledger

open Codec Semantics

section Scoring

variable (s : State) (epochId : ℕ)

/-- The hotkey has a score-eligible attestation and, if the epoch has any
lifecycle snapshot, an attested one of its own. -/
def MayEarn (hotkey : Text) : Prop :=
  (∃ row ∈ s.attestations.rows,
    row.epochId = epochId ∧ row.hotkey = hotkey ∧ row.scoreEligible = true) ∧
  ((∃ row ∈ s.lifecycle.rows, row.epochId = epochId) →
    ∃ row ∈ s.lifecycle.rows,
      row.epochId = epochId ∧ row.hotkey = hotkey ∧ row.state = .attested)

instance (hotkey : Text) : Decidable (MayEarn s epochId hotkey) :=
  inferInstanceAs (Decidable (_ ∧ _))

/-- The verified units of a hotkey that may earn, zero for any other. -/
def earnedUnits (hotkey : Text) : ℚ≥0 :=
  if MayEarn s epochId hotkey then
    ((s.challenges.rows.filter fun row => row.epochId = epochId ∧ row.hotkey = hotkey ∧
      row.status = .verified).map ChallengeRow.workUnits).sum
  else 0

/-- The hotkey has a challenge, an attestation or a lifecycle snapshot in the
epoch. -/
def Participates (hotkey : Text) : Prop :=
  (∃ row ∈ s.challenges.rows, row.epochId = epochId ∧ row.hotkey = hotkey) ∨
    (∃ row ∈ s.attestations.rows, row.epochId = epochId ∧ row.hotkey = hotkey) ∨
    ∃ row ∈ s.lifecycle.rows, row.epochId = epochId ∧ row.hotkey = hotkey

variable {s epochId}

/-! ## The gates -/

theorem mem_lifecycleRows {row : LifecycleRow} :
    row ∈ lifecycleRows s epochId ↔ row ∈ s.lifecycle.rows ∧ row.epochId = epochId := by
  simp [lifecycleRows]

theorem mem_lifecycleEligible {hotkey : Text} :
    hotkey ∈ lifecycleEligible s epochId ↔
      ∃ row ∈ s.lifecycle.rows,
        row.epochId = epochId ∧ row.hotkey = hotkey ∧ row.state = .attested := by
  simp only [lifecycleEligible, List.mem_map, List.mem_filter, mem_lifecycleRows,
    decide_eq_true_eq]
  constructor
  · rintro ⟨row, ⟨⟨member, named⟩, attested⟩, rfl⟩
    exact ⟨row, member, named, rfl, attested⟩
  · rintro ⟨row, member, named, rfl, attested⟩
    exact ⟨row, ⟨⟨member, named⟩, attested⟩, rfl⟩

theorem mem_attestedHotkeys {hotkey : Text} :
    hotkey ∈ attestedHotkeys s epochId ↔
      ∃ row ∈ s.attestations.rows,
        row.epochId = epochId ∧ row.hotkey = hotkey ∧ row.scoreEligible = true := by
  simp only [attestedHotkeys, List.mem_map, Table.mem_select]
  constructor
  · rintro ⟨row, ⟨member, named, eligible⟩, rfl⟩
    exact ⟨row, member, named, rfl, eligible⟩
  · rintro ⟨row, member, named, rfl, eligible⟩
    exact ⟨row, ⟨member, named, eligible⟩, rfl⟩

theorem lifecycleRows_ne_nil :
    lifecycleRows s epochId ≠ [] ↔ ∃ row ∈ s.lifecycle.rows, row.epochId = epochId := by
  constructor
  · intro some
    obtain ⟨row, member⟩ := List.exists_mem_of_ne_nil _ some
    exact ⟨row, mem_lifecycleRows.mp member⟩
  · rintro ⟨row, member⟩
    exact List.ne_nil_of_mem (mem_lifecycleRows.mpr member)

theorem passesGates_iff {hotkey : Text} :
    passesGates s epochId hotkey ↔ MayEarn s epochId hotkey := by
  rw [passesGates, mem_attestedHotkeys, mem_lifecycleEligible, lifecycleRows_ne_nil, MayEarn]

theorem gatedUnits_eq_earnedUnits (hotkey : Text) :
    gatedUnits s epochId hotkey = earnedUnits s epochId hotkey := by
  have work : currentWork s epochId hotkey =
      ((s.challenges.rows.filter fun row => row.epochId = epochId ∧ row.hotkey = hotkey ∧
        row.status = .verified).map ChallengeRow.workUnits).sum := by
    rw [currentWork, Table.select]
    congr 2
    refine List.filter_congr fun row _ => ?_
    simp only [and_comm (a := row.status = .verified)]
  unfold gatedUnits earnedUnits
  rw [work]
  exact if_congr passesGates_iff rfl rfl

/-- Only a participant earns. -/
theorem Participates.of_earnedUnits_pos {hotkey : Text}
    (positive : 0 < earnedUnits s epochId hotkey) : Participates s epochId hotkey := by
  unfold earnedUnits at positive
  split at positive
  case isFalse => exact absurd positive (lt_irrefl 0)
  case isTrue earns =>
    obtain ⟨row, member, named, owned, -⟩ := earns.1
    exact .inr (.inl ⟨row, member, named, owned⟩)

/-! ## The hotkeys of the report -/

theorem mem_scoredHotkeys {allHotkeys : List Text} {hotkey : Text} :
    hotkey ∈ scoredHotkeys s epochId allHotkeys ↔
      hotkey ∈ allHotkeys ∨ Participates s epochId hotkey := by
  simp only [scoredHotkeys, List.mem_insertionSort, List.mem_dedup, List.mem_append,
    List.mem_map, Table.mem_select, mem_lifecycleRows, Participates, and_assoc, or_assoc]

theorem scoredHotkeys_pairwise (allHotkeys : List Text) :
    (scoredHotkeys s epochId allHotkeys).Pairwise (· < ·) := by
  have sorted := List.pairwise_insertionSort (· ≤ ·)
    (allHotkeys ++
      (s.challenges.select fun row => row.epochId = epochId).map ChallengeRow.hotkey ++
      (s.attestations.select fun row => row.epochId = epochId).map AttestationRow.hotkey ++
      (lifecycleRows s epochId).map LifecycleRow.hotkey).dedup
  have distinct : (scoredHotkeys s epochId allHotkeys).Nodup :=
    (List.perm_insertionSort _ _).nodup_iff.mpr (List.nodup_dedup _)
  exact sorted.imp₂ (fun _ _ le ne => lt_of_le_of_ne le ne) distinct

/-! ## The scores -/

/-- The code's running maximum is the supremum over the listed hotkeys. -/
theorem maximumUnits_eq_sup (hotkeys : List Text) :
    maximumUnits s epochId hotkeys = hotkeys.toFinset.sup (gatedUnits s epochId) := by
  induction hotkeys with
  | nil => rfl
  | cons hotkey hotkeys ih =>
    rw [List.toFinset_cons, Finset.sup_insert, ← ih]
    unfold maximumUnits
    rw [List.map_cons, List.max?_cons]
    cases (hotkeys.map (gatedUnits s epochId)).max? with
    | none => simp
    | some largest => rfl

theorem scoreOf_maximumUnits (hotkeys : List Text) (hotkey : Text) :
    scoreOf s epochId (maximumUnits s epochId hotkeys) hotkey =
      byMaximum hotkeys.toFinset (earnedUnits s epochId) hotkey := by
  have units : gatedUnits s epochId = earnedUnits s epochId :=
    funext gatedUnits_eq_earnedUnits
  rw [scoreOf, maximumUnits_eq_sup, units, byMaximum]
  split
  case isTrue => rfl
  case isFalse none => rw [nonpos_iff_eq_zero.mp (not_lt.mp none), div_zero]

@[simp] theorem map_fst_epochScores (hotkeys : List Text) :
    (epochScores s epochId hotkeys).map Prod.fst = hotkeys := by
  simp [epochScores, Function.comp_def]

theorem mem_epochScores {hotkeys : List Text} {entry : Text × ℚ≥0} :
    entry ∈ epochScores s epochId hotkeys ↔
      entry.1 ∈ hotkeys ∧
        entry.2 = byMaximum hotkeys.toFinset (earnedUnits s epochId) entry.1 := by
  simp only [epochScores, List.mem_map, scoreOf_maximumUnits]
  constructor
  · rintro ⟨hotkey, member, rfl⟩
    exact ⟨member, rfl⟩
  · rintro ⟨member, score⟩
    exact ⟨entry.1, member, Prod.ext rfl score.symm⟩

end Scoring

/-! ## The completing transaction -/

theorem rows_of_insertScores {scores frozen : Table ScoreRow.key} {rows : List ScoreRow}
    (inserted : insertScores scores rows = some frozen) : frozen.rows = scores.rows ++ rows := by
  induction rows generalizing scores with
  | nil =>
    cases inserted
    exact (List.append_nil _).symm
  | cons row rows ih =>
    obtain ⟨next, first, rest⟩ := Option.bind_eq_some_iff.mp inserted
    rw [ih rest, Table.rows_of_insert first, List.append_assoc, List.singleton_append]

/-- What the completing transaction does to the state. -/
structure Freezing (p : Platform) (row : EpochRow) (s : State) (scores : List (Text × ℚ≥0))
    (s' : State) (allHotkeys : List Text) : Prop where
  listed : scores = epochScores s row.epochId (scoredHotkeys s row.epochId allHotkeys)
  resolved : ∀ challenge ∈ s.challenges.rows,
    challenge.epochId = row.epochId → challenge.status ≠ .issued
  fresh : ∀ other ∈ s.epochs.rows, other.IsFinalized → other.sourceEpoch ≠ row.sourceEpoch
  changed : ∃ time generatedAt audience body frozen,
    canonicalJson p (scoreReport s row generatedAt audience scores) = some body ∧
    frozen.rows = s.scores.rows ++ scoreRows s row.epochId scores ∧
    s' = { s with
      scores := frozen
      epochs := s.epochs.update (fun other => other.epochId = row.epochId)
        fun other => other.complete time generatedAt body }

theorem Freezing.of_freezeEpoch {p : Platform} {row : EpochRow} {arguments : CompletionArguments}
    {generatedAt : Text} {audience : Option (Text × ℤ)} {completionTime : Instant} {s s' : State}
    {scores : List (Text × ℚ≥0)}
    (frozen : freezeEpoch p row arguments generatedAt audience completionTime s =
      .ok (scores, s')) : Freezing p row s scores s' arguments.allHotkeys := by
  simp only [freezeEpoch, bind_eq_ok, require_eq_ok, demand_eq_ok, storable_eq_ok, pure_eq_ok,
    Prod.mk.injEq] at frozen
  obtain ⟨-, -, -, resolved, body, written, -, -, -, -, -, -, -, fresh, table, inserted, rfl,
    rfl⟩ := frozen
  refine ⟨rfl, fun challenge member named issued => ?_, fresh,
    completionTime, generatedAt, audience, body, table, written, rows_of_insertScores inserted,
    rfl⟩
  have listed : challenge ∈ s.challenges.select fun challenge =>
      challenge.epochId = row.epochId ∧ challenge.status = .issued :=
    Table.mem_select.mpr ⟨member, named, issued⟩
  rw [List.length_eq_zero_iff.mp resolved] at listed
  cases listed

/-- A successful completion froze a running epoch, or found it finalized and
returned the frozen scores. -/
theorem completeEpoch_cases {p : Platform} {epochId : ℕ} {arguments : CompletionArguments}
    {generatedNow completionTime : Instant} {s s' : State} {scores : List (Text × ℚ≥0)}
    (completed : completeEpoch p epochId arguments generatedNow completionTime s =
      .ok (scores, s')) :
    ∃ row ∈ s.epochs.rows, row.epochId = epochId ∧
      ((row.IsFinalized ∧ scores = loadScores s epochId ∧ s' = s) ∨
        (row.status = .running ∧ Freezing p row s scores s' arguments.allHotkeys)) := by
  simp only [completeEpoch, bind_eq_ok, require_eq_ok, epoch_eq_ok] at completed
  obtain ⟨generatedAt, -, audience, -, -, -, row, ⟨member, named⟩, outcome⟩ := completed
  refine ⟨row, member, named, ?_⟩
  split at outcome
  case isTrue finalized =>
    simp only [pure_eq_ok, Prod.mk.injEq] at outcome
    exact .inl ⟨finalized, outcome.1.symm, outcome.2.symm⟩
  case isFalse =>
    simp only [bind_eq_ok, require_eq_ok] at outcome
    obtain ⟨-, running, frozen⟩ := outcome
    exact .inr ⟨running, .of_freezeEpoch frozen⟩

/-! ## What a completion pays -/

section Completed

variable {p : Platform} {row : EpochRow} {s s' : State} {scores : List (Text × ℚ≥0)}
  {allHotkeys : List Text}

theorem Freezing.hotkeys (h : Freezing p row s scores s' allHotkeys) :
    scores.map Prod.fst = scoredHotkeys s row.epochId allHotkeys := by
  rw [h.listed, map_fst_epochScores]

theorem Freezing.mem_scores (h : Freezing p row s scores s' allHotkeys) {entry : Text × ℚ≥0} :
    entry ∈ scores ↔ entry.1 ∈ scores.map Prod.fst ∧
      entry.2 = byMaximum (scores.map Prod.fst).toFinset (earnedUnits s row.epochId) entry.1 := by
  rw [h.hotkeys]
  nth_rewrite 1 [h.listed]
  exact mem_epochScores

/-- A listed hotkey has an entry. -/
theorem Freezing.exists_score (h : Freezing p row s scores s' allHotkeys) {Q : ℚ≥0 → Prop} :
    (∃ entry ∈ scores, Q entry.2) ↔ ∃ hotkey ∈ (scores.map Prod.fst).toFinset,
      Q (byMaximum (scores.map Prod.fst).toFinset (earnedUnits s row.epochId) hotkey) := by
  constructor
  · rintro ⟨entry, member, holds⟩
    obtain ⟨listed, score⟩ := h.mem_scores.mp member
    exact ⟨entry.1, List.mem_toFinset.mpr listed, score ▸ holds⟩
  · rintro ⟨hotkey, listed, holds⟩
    exact ⟨(hotkey, _), h.mem_scores.mpr ⟨List.mem_toFinset.mp listed, rfl⟩, holds⟩

/-- Some score is one exactly when somebody earns. -/
theorem Freezing.exists_one_iff (h : Freezing p row s scores s' allHotkeys) :
    (∃ entry ∈ scores, entry.2 = 1) ↔ ∃ hotkey, 0 < earnedUnits s row.epochId hotkey := by
  rw [h.exists_score (Q := (· = 1)), exists_byMaximum_eq_one_iff]
  constructor
  · rintro ⟨hotkey, -, positive⟩
    exact ⟨hotkey, positive⟩
  · rintro ⟨hotkey, positive⟩
    refine ⟨hotkey, List.mem_toFinset.mpr ?_, positive⟩
    rw [h.hotkeys]
    exact mem_scoredHotkeys.mpr (.inr (.of_earnedUnits_pos positive))

/-- Every listed score is a row of `epoch_scores`. -/
theorem Freezing.frozen (h : Freezing p row s scores s' allHotkeys) {entry : Text × ℚ≥0}
    (member : entry ∈ scores) :
    s'.scores.find? (row.epochId, entry.1) =
      some ⟨row.epochId, entry.1, earnedUnits s row.epochId entry.1, entry.2⟩ := by
  obtain ⟨time, generatedAt, audience, body, frozen, -, rows, rfl⟩ := h.changed
  refine Table.find?_eq_some.mpr ⟨?_, rfl⟩
  show _ ∈ frozen.rows
  rw [rows, ← gatedUnits_eq_earnedUnits]
  exact List.mem_append_right _ (List.mem_map.mpr ⟨entry, member, rfl⟩)

/-- The epoch is complete and its report lists the scores. -/
theorem Freezing.reported (h : Freezing p row s scores s' allHotkeys)
    (member : row ∈ s.epochs.rows) :
    ∃ completed ∈ s'.epochs.rows, completed.epochId = row.epochId ∧
      completed.status = .complete ∧ ∃ body document,
        completed.reportBody = some body ∧ canonicalJson p document = some body ∧
        document.get? "scores" = some (.arr (scores.map scoreEntry)) := by
  obtain ⟨time, generatedAt, audience, body, frozen, written, -, rfl⟩ := h.changed
  have updated := Table.mem_update_of (p := fun other => other.epochId = row.epochId)
    (f := fun other => other.complete time generatedAt body) member rfl
  refine ⟨_, updated, rfl, rfl, body, _, rfl, written, ?_⟩
  cases audience <;> rfl

end Completed

/-- **Scores of a completed epoch.** Completing a running epoch freezes, for
exactly the given hotkeys and the participants, in order and without repetition,
what each earned relative to the largest earning. -/
theorem completeEpoch_scores {p : Platform} {epochId : ℕ} {arguments : CompletionArguments}
    {generatedNow completionTime : Instant} {s s' : State} {scores : List (Text × ℚ≥0)}
    (running : s.Running epochId)
    (completed : completeEpoch p epochId arguments generatedNow completionTime s =
      .ok (scores, s')) :
    (scores.map Prod.fst).Pairwise (· < ·) ∧
    (∀ hotkey, hotkey ∈ scores.map Prod.fst ↔
      hotkey ∈ arguments.allHotkeys ∨ Participates s epochId hotkey) ∧
    (∀ entry ∈ scores, entry.2 =
      byMaximum (scores.map Prod.fst).toFinset (earnedUnits s epochId) entry.1) ∧
    (∀ entry ∈ scores, 0 ≤ entry.2 ∧ entry.2 ≤ 1) ∧
    ((∃ entry ∈ scores, entry.2 = 1) ↔ ∃ hotkey, 0 < earnedUnits s epochId hotkey) ∧
    (∀ entry ∈ scores, ¬ MayEarn s epochId entry.1 → entry.2 = 0) ∧
    (∀ entry ∈ scores, s'.scores.find? (epochId, entry.1) =
      some ⟨epochId, entry.1, earnedUnits s epochId entry.1, entry.2⟩) ∧
    ∃ row ∈ s'.epochs.rows, row.epochId = epochId ∧ row.status = .complete ∧
      ∃ body document, row.reportBody = some body ∧ canonicalJson p document = some body ∧
        document.get? "scores" = some (.arr (scores.map scoreEntry)) := by
  obtain ⟨row, member, rfl, ⟨finalized, -, -⟩ | ⟨-, frozen⟩⟩ := completeEpoch_cases completed
  · -- A running epoch is not finalized.
    obtain ⟨other, member', named, running⟩ := running
    rw [Table.eq_of_key member' member named] at running
    rcases finalized with complete | published
    · rw [running] at complete
      cases complete
    · rw [running] at published
      cases published
  · refine ⟨?_, fun hotkey => ?_, fun entry listed => (frozen.mem_scores.mp listed).2,
      fun entry listed => ⟨zero_le, ?_⟩, frozen.exists_one_iff, fun entry listed barred => ?_,
      fun entry listed => frozen.frozen listed, frozen.reported member⟩
    · rw [frozen.hotkeys]
      exact scoredHotkeys_pairwise _
    · rw [frozen.hotkeys]
      exact mem_scoredHotkeys
    · obtain ⟨covered, score⟩ := frozen.mem_scores.mp listed
      rw [score]
      exact byMaximum_le_one (List.mem_toFinset.mpr covered)
    · rw [(frozen.mem_scores.mp listed).2]
      exact byMaximum_eq_zero (if_neg barred)

/-- One running epoch in which `b` is attested and has verified work, and `a` has
verified work only. -/
def State.scoring : State :=
  { State.initial with
    epochSequence := 1
    epochs := ⟨[.begin 1 5 {} none 0], by decide⟩
    challenges := ⟨[⟨"c1", 1, "a", .verified, 7, 0, some 0⟩,
      ⟨"c2", 1, "b", .verified, 5, 0, some 0⟩], by decide⟩
    attestations := ⟨[⟨1, "b", .tdx, .cpu, "e", "strict", true, 0, none, none⟩], by decide⟩ }

theorem completeEpoch_scores_scoring : ∃ s',
    completeEpoch .sample 1 { allHotkeys := ["c"] } 0 0 .scoring =
      .ok ([("a", 0), ("b", 1), ("c", 0)], s') ∧
    s'.scores.find? (1, Text.ofString "a") = some ⟨1, "a", 0, 0⟩ ∧
    s'.scores.find? (1, Text.ofString "b") = some ⟨1, "b", 5, 1⟩ := by
  have scores : (completeEpoch .sample 1 { allHotkeys := ["c"] } 0 0 State.scoring).map Prod.fst =
      .ok [("a", 0), ("b", 1), ("c", 0)] := by
    decide +kernel
  have running : State.scoring.Running 1 := ⟨_, List.mem_singleton_self _, rfl, rfl⟩
  obtain ⟨⟨listed, s'⟩, completed, same⟩ := map_eq_ok.mp scores
  obtain rfl : listed = _ := same
  obtain ⟨-, -, -, -, -, -, frozen, -⟩ := completeEpoch_scores running completed
  have earnings : earnedUnits .scoring 1 "a" = 0 ∧ earnedUnits .scoring 1 "b" = 5 := by
    decide +kernel
  refine ⟨s', completed, ?_, ?_⟩
  · rw [frozen ("a", 0) (by simp), earnings.1]
  · rw [frozen ("b", 1) (by simp), earnings.2]

end Cathedral.Ledger
