import CathedralCompute.Ledger.EpochHistory
import CathedralCompute.Ledger.ExportChain

/-!
# Abandonment is final

An abandoned epoch stays abandoned, and every operation that would publish,
complete or export it looks at its status first and refuses. One path does not
look: an export replays the stored report of its stream before it reads the epoch.
So what an abandoned epoch still gives away is what was exported before.

A publication posts outside of the database lock. Its second half is
`markPublished`, which may come at any time after its first.

## Main results

* `abandoned_epoch_final` — no later operation publishes, completes or exports an
  abandoned epoch, up to the replay of earlier exports
* `not_abandoned_epoch_silent_exported` — the replay
-/

set_option autoImplicit false

namespace Cathedral.Ledger

open Codec Semantics

variable {p : Platform} {s s' : State} {epochId : ℕ}

/-- The epoch is abandoned. -/
def State.Abandoned (s : State) (epochId : ℕ) : Prop :=
  ∃ row ∈ s.epochs.rows, row.epochId = epochId ∧ row.status = .abandoned

/-- The row of an abandoned epoch says so, wherever it is read. -/
theorem State.Abandoned.status {row : EpochRow} (abandoned : s.Abandoned epochId)
    (read : epoch s epochId = .ok row) : row.status = .abandoned := by
  obtain ⟨own, member, rfl, status⟩ := abandoned
  obtain ⟨member', same⟩ := epoch_eq_ok.mp read
  rwa [Table.eq_of_key member' member same]

theorem State.Abandoned.not_finalized {row : EpochRow} (abandoned : s.Abandoned epochId)
    (read : epoch s epochId = .ok row) : ¬ row.IsFinalized := by
  have status := abandoned.status read
  rintro (complete | published)
  · rw [status] at complete
    cases complete
  · rw [status] at published
    cases published

/-! ## What an abandoned epoch refuses -/

theorem State.Abandoned.unposted (abandoned : s.Abandoned epochId) (result : Bytes × Text) :
    publishableReport p epochId s ≠ .ok result := by
  intro posted
  simp only [publishableReport, bind_eq_ok, require_eq_ok] at posted
  obtain ⟨row, read, -, finalized, -⟩ := posted
  exact abandoned.not_finalized read finalized

theorem State.Abandoned.unpublished (abandoned : s.Abandoned epochId) {digest : Option Text}
    {now : Instant} (result : Unit × State) : markPublished epochId digest now s ≠ .ok result := by
  intro published
  simp only [markPublished, bind_eq_ok] at published
  obtain ⟨row, read, published⟩ := published
  have status := abandoned.status read
  rw [if_neg (by rw [status]; decide)] at published
  simp only [bind_eq_ok, require_eq_ok] at published
  obtain ⟨-, complete, -⟩ := published
  rw [status] at complete
  cases complete

theorem State.Abandoned.uncompleted (abandoned : s.Abandoned epochId)
    {arguments : CompletionArguments} {generatedNow completionTime : Instant}
    (result : List (Text × ℚ≥0) × State) :
    completeEpoch p epochId arguments generatedNow completionTime s ≠ .ok result := by
  intro completed
  simp only [completeEpoch, bind_eq_ok] at completed
  obtain ⟨_, -, _, -, _, -, row, read, completed⟩ := completed
  rw [if_neg (abandoned.not_finalized read)] at completed
  simp only [bind_eq_ok, require_eq_ok] at completed
  obtain ⟨-, running, -⟩ := completed
  rw [abandoned.status read] at running
  cases running

theorem State.Abandoned.unread (abandoned : s.Abandoned epochId) (snapshot : ScoreClassSnapshot) :
    scoreClassSnapshot p epochId s ≠ .ok snapshot := by
  intro taken
  simp only [scoreClassSnapshot, bind_eq_ok, requireFrozen, require_eq_ok] at taken
  obtain ⟨row, read, -, finalized, -⟩ := taken
  exact abandoned.not_finalized read finalized

theorem State.Abandoned.unrecorded {arguments : ExportArguments}
    (abandoned : s.Abandoned arguments.epochId) {now : Instant} (result : Bytes × State) :
    recordScoreClassExport p arguments now s ≠ .ok result := by
  intro recorded
  simp only [recordScoreClassExport, bind_eq_ok, requireFrozen, require_eq_ok] at recorded
  obtain ⟨-, -, row, read, -, finalized, -⟩ := recorded
  exact abandoned.not_finalized read finalized

/-- No report of an abandoned epoch is built. -/
theorem State.Abandoned.unbuilt (abandoned : s.Abandoned epochId)
    {arguments : ScoreClass.Arguments} {report : ExportArguments} :
    ¬ Builds p s epochId arguments report := by
  rintro ⟨-, built⟩
  simp only [ScoreClass.buildReport, bind_eq_ok, mapError_eq_ok] at built
  obtain ⟨_, -, snapshot, taken, -⟩ := built
  exact abandoned.unread snapshot taken

/-! ## Runs -/

theorem State.Abandoned.of_runOps (abandoned : s.Abandoned epochId) (ops : List Op) :
    (runOps p s ops).Abandoned epochId := by
  obtain ⟨row, member, rfl, status⟩ := abandoned
  obtain ⟨row', member', evolves⟩ := (EpochsEvolve.of_runOps s ops).kept row member
  refine ⟨row', member', evolves.epochId, ?_⟩
  rcases evolves.status with same | running | ⟨complete, -⟩
  · rw [same, status]
  · rw [status] at running
    cases running
  · rw [status] at complete
    cases complete

/-- Changes that record no report of the epoch. -/
def Scope.without (epochId : ℕ) : Scope :=
  { Scope.all with exported := fun _ arguments => arguments.epochId ≠ epochId }

/-- Such changes leave the exports of the epoch. -/
theorem find?_exports_of_step {stream : Stream} (change : Step p (.without epochId) s s') :
    s'.exports.find? (epochId, stream) = s.exports.find? (epochId, stream) := by
  cases change with
  | @recordExport arguments now exports admitted validated successor inserted =>
    have other : arguments.epochId ≠ epochId := admitted
    rw [Table.find?_insert inserted, if_neg]
    intro same
    exact other (congrArg Prod.fst same)
  | freezeEpoch member running frozen =>
    obtain ⟨time, generatedAt, audience, body, table, -, -, rfl⟩ := frozen.changed
    rfl
  | _ => rfl

/-- An operation on an abandoned epoch records no report of it. -/
theorem State.Abandoned.within (abandoned : s.Abandoned epochId) {op : Op}
    (committed : op.commit p s = .ok s') : op.Within p (.without epochId) s := by
  cases op
  case recordScoreClassExport arguments now =>
    rintro rfl
    simp only [Op.commit, map_eq_ok] at committed
    obtain ⟨result, recorded, -⟩ := committed
    exact abandoned.unrecorded result recorded
  case exportScoreClassReport exported arguments now =>
    rintro report builds named
    obtain ⟨same, -⟩ := key_of_buildReport builds.built
    rw [← same, named] at builds
    exact abandoned.unbuilt builds
  case resolveChallenge => exact fun _ => trivial
  case resolveChallengeWithReceipt => exact fun _ => trivial
  all_goals trivial

/-- The exports of an abandoned epoch are those it had. -/
theorem State.Abandoned.exports_of_runOps (abandoned : s.Abandoned epochId) (ops : List Op)
    (stream : Stream) :
    getScoreClassExport (runOps p s ops) epochId stream = getScoreClassExport s epochId stream := by
  induction ops generalizing s with
  | nil => rfl
  | cons op ops ih =>
    have next : (step p s op).Abandoned epochId := abandoned.of_runOps [op]
    rw [runOps, run_cons]
    refine (ih next).trans ?_
    unfold step
    refine settle_of_ok (P := fun t => getScoreClassExport t epochId stream =
      getScoreClassExport s epochId stream) rfl fun t committed => ?_
    exact invariant_steps (I := fun t => getScoreClassExport t epochId stream =
        getScoreClassExport s epochId stream)
      (fun kept change => (find?_exports_of_step change).trans kept) rfl
      (steps_of_commit (abandoned.within committed) committed)

/-- The epoch that was abandoned in the first state is closed in the second: it is
still abandoned, it is not posted, marked, completed or read for an export, no
report of it is recorded, and an export of it gives back what was stored for the
stream when it was abandoned. -/
structure Closed (p : Platform) (abandonedIn : State) (epochId : ℕ) (s : State) : Prop where
  status : s.Abandoned epochId
  unposted : ∀ result, publishableReport p epochId s ≠ .ok result
  unpublished : ∀ digest now result, markPublished epochId digest now s ≠ .ok result
  uncompleted : ∀ arguments generatedNow completionTime result,
    completeEpoch p epochId arguments generatedNow completionTime s ≠ .ok result
  unread : ∀ snapshot, scoreClassSnapshot p epochId s ≠ .ok snapshot
  unrecorded : ∀ arguments now result, arguments.epochId = epochId →
    recordScoreClassExport p arguments now s ≠ .ok result
  replayed : ∀ arguments now body s',
    ScoreClass.exportScoreClassReport p epochId arguments now s = .ok (body, s') →
    s' = s ∧ StoredReport abandonedIn epochId arguments.stream body

/-- **Abandonment.** After an epoch is abandoned, it is closed in every state that
any sequence of operations leads to, whatever came before. -/
theorem abandoned_epoch_final {p : Platform} {s : State} {epochId : ℕ} {reason : Text}
    {now : Instant} {u : Unit} {s₁ : State}
    (abandon : abandonCompletedEpoch epochId reason now s = .ok (u, s₁)) (ops : List Op) :
    Closed p s₁ epochId (runOps p s₁ ops) := by
  have first : s₁.Abandoned epochId := by
    simp only [abandonCompletedEpoch, bind_eq_ok, require_eq_ok, epoch_eq_ok, pure_eq_ok,
      Prod.mk.injEq] at abandon
    obtain ⟨-, -, row, ⟨member, rfl⟩, -, -, -, -, -, rfl⟩ := abandon
    exact ⟨row.abandon now reason.strip, Table.mem_update_of
      (p := fun other : EpochRow => other.epochId = row.epochId) member rfl, rfl, rfl⟩
  have abandoned : (runOps p s₁ ops).Abandoned epochId := first.of_runOps ops
  refine ⟨abandoned, fun result => abandoned.unposted result,
    fun digest now result => abandoned.unpublished result,
    fun arguments generatedNow completionTime result => abandoned.uncompleted result,
    fun snapshot => abandoned.unread snapshot, ?_, ?_⟩
  · rintro arguments now result rfl
    exact abandoned.unrecorded result
  · intro arguments now body s' exported
    rcases exportScoreClassReport_cases exported with ⟨rfl, existing, found, same⟩ | ⟨_, builds, -⟩
    · refine ⟨rfl, existing, ?_, same⟩
      rw [first.exports_of_runOps ops] at found
      exact found
    · exact absurd builds abandoned.unbuilt

/-! ## Concrete runs -/

/-- An epoch that is exported and then abandoned. -/
def exportedOps : List Op :=
  [.beginEpoch 5 {} 0, .completeEpoch 1 { allHotkeys := ["a"] } 0 0,
    .recordScoreClassExport (.sample 1 0x30 none) 0]

/-- An export in the stream of that report. -/
def replayArguments : ScoreClass.Arguments where
  stream := ⟨"n", 0, "c", "s"⟩
  signingKeyId := "k"
  privateKeySeed := List.replicate 32 0
  generatedAt := 0
  validUntil := 1
  validFromBlock := 0
  validUntilBlock := 1
  verifierDigest := []
  candidateSnapshot := []
  policyDigest := none
  previousReportId := none
  evidenceBaseUri := none
  requireEpochAnchor := false

/-- The theorem applied to a publication that was under way when the epoch was
abandoned: its second half is refused. -/
theorem abandoned_epoch_final_posted :
    let s := runOps .sample .initial exportedOps
    ∃ s₁, abandonCompletedEpoch 1 "old" 0 s = .ok ((), s₁) ∧
      Closed .sample s₁ 1 (runOps .sample s₁ [.markPublished 1 none 0]) := by
  intro s
  have done : (abandonCompletedEpoch 1 "old" 0 s).isOk = true := by decide +kernel
  clear_value s
  obtain ⟨⟨_, s₁⟩, abandon⟩ := exists_of_isOk done
  exact ⟨s₁, abandon, abandoned_epoch_final abandon _⟩

/-- An export of an abandoned epoch returns the bytes of the report that was
recorded before. -/
theorem not_abandoned_epoch_silent_exported :
    ¬ ∀ (p : Platform) (s : State), Reachable p s →
      ∀ (epochId : ℕ) (reason : Text) (now : Instant) (u : Unit) (s₁ : State),
      abandonCompletedEpoch epochId reason now s = .ok (u, s₁) →
      ∀ (ops : List Op) (arguments : ScoreClass.Arguments) (now : Instant) (body : Bytes)
        (s' : State),
      ScoreClass.exportScoreClassReport p epochId arguments now (runOps p s₁ ops) ≠
        .ok (body, s') := by
  intro claim
  have replayed : ((abandonCompletedEpoch 1 "old" 0 (runOps .sample .initial exportedOps)).bind
      fun result => ScoreClass.exportScoreClassReport .sample 1 replayArguments 0 result.2).isOk =
        true := by
    decide +kernel
  obtain ⟨result, exported⟩ := exists_of_isOk replayed
  obtain ⟨⟨_, s₁⟩, abandon, exported⟩ := bind_eq_ok.mp exported
  exact claim .sample _ (Reachable.of_runOps _ _) 1 "old" 0 () s₁ abandon [] replayArguments 0
    result.1 result.2 exported

end Cathedral.Ledger
