import CathedralCompute.Ledger.EpochHistory

/-!
# The order of epochs

At most one epoch is running or complete, and it is the newest one. Finalized
epochs carry strictly increasing source epochs, and a running one is above them
all. That the retry rule of `begin_epoch` names the most recently aborted epoch,
though it only looks at ids, follows from the same facts: aborts happen in the
order of ids because only the newest epoch can be running.
-/

set_option autoImplicit false

namespace Cathedral.Ledger

open Codec Semantics

/-- Aborted, with a source epoch above every finalized one. -/
def RetryPending (s : State) (row : EpochRow) : Prop :=
  row.status = .aborted ∧
    ∀ other ∈ s.epochs.rows, other.IsFinalized → other.sourceEpoch < row.sourceEpoch

/-- The epoch is aborted in this state. -/
def State.Aborted (s : State) (epochId : ℕ) : Prop :=
  ∃ row ∈ s.epochs.rows, row.epochId = epochId ∧ row.status = .aborted

/-! ## What `begin_epoch` reads -/

theorem lastFinal_lt_iff {s : State} {value : ℤ} :
    (∀ last ∈ lastFinal s, last < value) ↔
      ∀ row ∈ s.epochs.rows, row.IsFinalized → row.sourceEpoch < value := by
  have listed : ∀ z, z ∈ (s.epochs.select EpochRow.IsFinalized).map EpochRow.sourceEpoch ↔
      ∃ row ∈ s.epochs.rows, row.IsFinalized ∧ row.sourceEpoch = z := by
    intro z
    simp only [List.mem_map, Table.mem_select, and_assoc]
  unfold lastFinal
  constructor
  · intro below row member finalized
    have here := (listed row.sourceEpoch).mpr ⟨row, member, finalized, rfl⟩
    cases largest : ((s.epochs.select EpochRow.IsFinalized).map EpochRow.sourceEpoch).max? with
    | none =>
      rw [List.max?_eq_none_iff.mp largest] at here
      cases here
    | some last =>
      exact ((List.max?_eq_some_iff.mp largest).2 _ here).trans_lt (below last largest)
  · intro below last largest
    obtain ⟨row, member, finalized, rfl⟩ := (listed last).mp (List.max?_mem largest)
    exact below row member finalized

theorem isRetryable_iff {s : State} {row : EpochRow} :
    row.IsRetryable (lastFinal s) ↔ RetryPending s row := by
  rw [EpochRow.IsRetryable, lastFinal_lt_iff, RetryPending]

/-- The retry rule names the pending epoch with the largest id. -/
theorem retryEpoch_of_pending {s : State} {row : EpochRow} (member : row ∈ s.epochs.rows)
    (pending : RetryPending s row) :
    ∃ retry, retryEpoch s = some retry ∧ retry ∈ s.epochs.rows ∧ RetryPending s retry ∧
      ∀ other ∈ s.epochs.rows, RetryPending s other → other.epochId ≤ retry.epochId := by
  have sorted := List.pairwise_insertionSort (fun a b : EpochRow => b.epochId ≤ a.epochId)
    (s.epochs.select (EpochRow.IsRetryable (lastFinal s)))
  have listed : ∀ other, other ∈ (s.epochs.select (EpochRow.IsRetryable (lastFinal s))).insertionSort
      (fun a b => b.epochId ≤ a.epochId) ↔ other ∈ s.epochs.rows ∧ RetryPending s other := by
    intro other
    rw [List.mem_insertionSort, Table.mem_select, isRetryable_iff]
  unfold retryEpoch
  cases chain : (s.epochs.select (EpochRow.IsRetryable (lastFinal s))).insertionSort
      (fun a b => b.epochId ≤ a.epochId) with
  | nil =>
    have here := (listed row).mpr ⟨member, pending⟩
    rw [chain] at here
    cases here
  | cons retry rest =>
    rw [chain] at sorted listed
    obtain ⟨member', pending'⟩ := (listed retry).mp List.mem_cons_self
    refine ⟨retry, rfl, member', pending', fun other old waiting => ?_⟩
    rcases List.mem_cons.mp ((listed other).mpr ⟨old, waiting⟩) with rfl | later
    · exact le_rfl
    · exact List.rel_of_pairwise_cons sorted later

/-! ## The invariant -/

structure EpochOrder (s : State) : Prop where
  bounded : ∀ row ∈ s.epochs.rows, row.epochId ≤ s.epochSequence
  /-- A running or complete epoch is the newest one. -/
  newest : ∀ row ∈ s.epochs.rows, row.IsBlocking →
    ∀ other ∈ s.epochs.rows, other.epochId ≤ row.epochId
  /-- Source epochs increase with the ids of finalized epochs. -/
  increasing : ∀ row ∈ s.epochs.rows, ∀ row' ∈ s.epochs.rows, row.IsFinalized → row'.IsFinalized →
    row.epochId < row'.epochId → row.sourceEpoch < row'.sourceEpoch
  /-- A running epoch is above the finalized ones. -/
  above : ∀ row ∈ s.epochs.rows, row.status = .running →
    ∀ other ∈ s.epochs.rows, other.IsFinalized → other.sourceEpoch < row.sourceEpoch

theorem EpochOrder.initial : EpochOrder .initial :=
  ⟨fun _ none => (nomatch none), fun _ none => (nomatch none), fun _ none => (nomatch none),
    fun _ none => (nomatch none)⟩

/-- Two running or complete epochs are the same. -/
theorem EpochOrder.unique {s : State} (h : EpochOrder s) {row row' : EpochRow}
    (member : row ∈ s.epochs.rows) (member' : row' ∈ s.epochs.rows) (blocking : row.IsBlocking)
    (blocking' : row'.IsBlocking) : row = row' :=
  Table.eq_of_key member member'
    (le_antisymm (h.newest row' member' blocking' row member)
      (h.newest row member blocking row' member'))

theorem EpochRow.Evolves.running_of {row row' : EpochRow} (evolves : row.Evolves row')
    (running : row'.status = .running) : row.status = .running := by
  rcases evolves.status with same | before | ⟨-, later | later⟩
  · exact same.symm.trans running
  · exact before
  · rw [later] at running
    cases running
  · rw [later] at running
    cases running

theorem EpochRow.Evolves.blocking_of {row row' : EpochRow} (evolves : row.Evolves row')
    (blocking : row'.IsBlocking) : row.IsBlocking := by
  rcases evolves.status with same | before | ⟨complete, -⟩
  · rw [EpochRow.IsBlocking, ← same]
    exact blocking
  · exact .inl before
  · exact .inr complete

theorem EpochRow.Evolves.finalized_of {row row' : EpochRow} (evolves : row.Evolves row')
    (finalized : row'.IsFinalized) : row.IsFinalized ∨ row.status = .running := by
  rcases evolves.status with same | before | ⟨complete, -⟩
  · rw [EpochRow.IsFinalized, ← same]
    exact .inl finalized
  · exact .inr before
  · exact .inl (.inl complete)

theorem EpochRow.IsFinalized.not_running {row : EpochRow} (h : row.IsFinalized) :
    row.status ≠ .running := by
  rcases h with status | status <;> simp [status]

theorem EpochOrder.of_begins {s s' : State} (h : EpochOrder s) {row : EpochRow}
    (begun : Begins s s' row) : EpochOrder s' := by
  have above := lastFinal_lt_iff.mp begun.above
  have notFinal : ¬ row.IsFinalized := fun finalized => finalized.not_running begun.running
  have newest : ∀ other ∈ s'.epochs.rows, other.epochId ≤ row.epochId := by
    intro other member
    rw [begun.named]
    rcases (begun.mem other).mp member with old | rfl
    · exact (h.bounded other old).trans (Nat.le_succ _)
    · exact begun.named.le
  refine ⟨fun other member => ?_, fun other member blocking => ?_,
    fun first member second member' finalized finalized' => ?_,
    fun other member running final member' finalized => ?_⟩
  · rw [begun.sequence, ← begun.named]
    exact newest other member
  · rcases (begun.mem other).mp member with old | rfl
    · exact absurd blocking (begun.idle other old)
    · exact newest
  · rcases (begun.mem first).mp member with old | rfl
    · rcases (begun.mem second).mp member' with old' | rfl
      · exact h.increasing first old second old' finalized finalized'
      · exact absurd finalized' notFinal
    · exact absurd finalized notFinal
  · rcases (begun.mem final).mp member' with old' | rfl
    · rcases (begun.mem other).mp member with old | rfl
      · exact absurd (.inl running) (begun.idle other old)
      · exact above final old' finalized
    · exact absurd finalized notFinal

theorem EpochOrder.of_same {s s' : State} (h : EpochOrder s) (same : SameEpochs s s') :
    EpochOrder s' := by
  refine ⟨fun row' member' => ?_, fun row' member' blocking' other' listed' => ?_,
    fun row' member' final' listed' finalized finalized' before => ?_,
    fun row' member' running' other' listed' finalized => ?_⟩
  · obtain ⟨row, member, evolves⟩ := same.origin row' member'
    rw [same.sequence, evolves.epochId]
    exact h.bounded row member
  · obtain ⟨row, member, evolves⟩ := same.origin row' member'
    obtain ⟨other, listed, evolves'⟩ := same.origin other' listed'
    rw [evolves.epochId, evolves'.epochId]
    exact h.newest row member (evolves.blocking_of blocking') other listed
  · obtain ⟨row, member, evolves⟩ := same.origin row' member'
    obtain ⟨final, listed, evolves'⟩ := same.origin final' listed'
    rw [evolves.epochId, evolves'.epochId] at before
    rw [evolves.sourceEpoch, evolves'.sourceEpoch]
    rcases evolves.finalized_of finalized with old | running
    · rcases evolves'.finalized_of finalized' with old' | running
      · exact h.increasing row member final listed old old' before
      · exact h.above final listed running row member old
    · exact absurd (h.newest row member (.inl running) final listed) (not_le.mpr before)
  · obtain ⟨row, member, evolves⟩ := same.origin row' member'
    obtain ⟨other, listed, evolves'⟩ := same.origin other' listed'
    have running := evolves.running_of running'
    rw [evolves.sourceEpoch, evolves'.sourceEpoch]
    rcases evolves'.finalized_of finalized with old | started
    · exact h.above row member running other listed old
    · -- The epoch that has just been finalized is the running one itself.
      have one := h.unique listed member (.inl started) (.inl running)
      have ids : other'.epochId = row'.epochId := by
        rw [evolves.epochId, evolves'.epochId, one]
      rw [Table.eq_of_key listed' member' ids] at finalized
      exact absurd running' finalized.not_running

theorem EpochOrder.of_step {p : Platform} {s s' : State} (h : EpochOrder s)
    (change : FreeStep p s s') : EpochOrder s' := by
  rcases epochs_of_step change with ⟨row, begun⟩ | same
  · exact h.of_begins begun
  · exact h.of_same same

theorem EpochOrder.of_reachable {p : Platform} {s : State} (reachable : Reachable p s) :
    EpochOrder s :=
  reachable.of_changes .initial fun h change => h.of_step change

/-! ## The order of aborts -/

/-- When the pending epoch with the largest id is already aborted, all the others
are. -/
theorem aborted_of_pending {s t : State} (order : EpochOrder t) (evolved : EpochsEvolve t s)
    {retry : EpochRow} (aborted : t.Aborted retry.epochId) {other : EpochRow} (listed : other ∈ s.epochs.rows)
    (pending : RetryPending s other) (older : other.epochId ≤ retry.epochId) :
    t.Aborted other.epochId := by
  obtain ⟨known, member', named, status⟩ := aborted
  rcases evolved.origin other listed with ⟨row, before, evolves⟩ | fresh
  · refine ⟨row, before, evolves.epochId.symm, ?_⟩
    have later := pending.1
    rcases evolves.status with same | running | ⟨-, published | abandoned⟩
    · exact same.symm.trans later
    · -- Only the newest epoch can be running, and that one is aborted.
      have newest := order.newest row before (.inl running) known member'
      rw [named, ← evolves.epochId] at newest
      have one : row = known :=
        Table.eq_of_key before member' ((evolves.epochId.symm.trans
          (le_antisymm older newest)).trans named.symm)
      rw [one, status]
    · rw [published] at later
      cases later
    · rw [abandoned] at later
      cases later
  · exact absurd (older.trans (named ▸ order.bounded known member')) (not_le.mpr fresh)

/-- What `begin_epoch` requires of its source epoch. -/
theorem beginEpoch_retries {sourceEpoch : ℤ} {options : EpochOptions} {now : Instant}
    {epochId : ℕ} {s s' : State} (begun : beginEpoch sourceEpoch options now s = .ok (epochId, s')) :
    ∀ retry ∈ retryEpoch s, sourceEpoch = retry.sourceEpoch := by
  simp only [beginEpoch, bind_eq_ok, requireRetried_eq_ok] at begun
  obtain ⟨-, -, -, -, -, -, -, retried, -⟩ := begun
  exact retried

/-- **Order of epochs.** In every run of the ledger, at most one epoch is running
or complete; source epochs of finalized epochs strictly increase with their ids;
and while an aborted epoch above all finalized ones exists, `begin_epoch` accepts
only the source epoch of the most recently aborted of them. -/
theorem epochs_in_order (p : Platform) (ops : List Op) :
    let s := runOps p .initial ops
    (∀ row ∈ s.epochs.rows, ∀ row' ∈ s.epochs.rows,
      row.IsBlocking → row'.IsBlocking → row = row') ∧
    (∀ row ∈ s.epochs.rows, ∀ row' ∈ s.epochs.rows, row.IsFinalized → row'.IsFinalized →
      (row.epochId < row'.epochId → row.sourceEpoch < row'.sourceEpoch) ∧
      (row.sourceEpoch = row'.sourceEpoch → row = row')) ∧
    ∀ sourceEpoch options now epochId s',
      beginEpoch sourceEpoch options now s = .ok (epochId, s') →
      (∃ row ∈ s.epochs.rows, RetryPending s row) →
      ∃ before op after retry, ops = before ++ op :: after ∧
        retry ∈ s.epochs.rows ∧ RetryPending s retry ∧ sourceEpoch = retry.sourceEpoch ∧
        ¬ (runOps p .initial before).Aborted retry.epochId ∧
        (runOps p .initial (before ++ [op])).Aborted retry.epochId ∧
        ∀ other ∈ s.epochs.rows, RetryPending s other →
          (runOps p .initial (before ++ [op])).Aborted other.epochId := by
  intro s
  have order : EpochOrder s := .of_reachable (Reachable.of_runOps p ops)
  refine ⟨fun row member row' member' => order.unique member member',
    fun row member row' member' finalized finalized' =>
      ⟨order.increasing row member row' member' finalized finalized', fun same => ?_⟩, ?_⟩
  · -- two ids in order have source epochs in order, so equal ones have one id
    rcases lt_trichotomy row.epochId row'.epochId with less | equal | greater
    · exact absurd same (order.increasing row member row' member' finalized finalized' less).ne
    · exact Table.eq_of_key member member' equal
    · exact absurd same.symm
        (order.increasing row' member' row member finalized' finalized greater).ne
  · rintro sourceEpoch options now epochId s' begun ⟨row, member, pending⟩
    obtain ⟨retry, chosen, listed, waiting, largest⟩ := retryEpoch_of_pending member pending
    -- the epoch was not aborted at first and is now: some step aborted it
    have start : ¬ State.initial.Aborted retry.epochId := by
      rintro ⟨_, member, -⟩
      cases member
    have finish : (runOps p .initial ops).Aborted retry.epochId :=
      ⟨retry, listed, rfl, waiting.1⟩
    obtain ⟨before, op, after, split, notYet, aborted⟩ :=
      exists_turning_point (P := fun s => State.Aborted s retry.epochId) start finish
    refine ⟨before, op, after, retry, split, listed, waiting, beginEpoch_retries begun retry chosen,
      notYet, aborted, fun other old idle => ?_⟩
    -- from that step on epochs only evolve
    have evolved : EpochsEvolve (runOps p .initial (before ++ [op])) s := by
      have rest := EpochsEvolve.of_runOps (p := p) (runOps p .initial (before ++ [op])) after
      rwa [← runOps_append, List.append_assoc, List.singleton_append, ← split] at rest
    exact aborted_of_pending (.of_reachable (Reachable.of_runOps p _)) evolved aborted old idle
      (largest other old idle)

end Cathedral.Ledger
