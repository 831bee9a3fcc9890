import CathedralCompute.Registry.Steps
import CathedralCompute.Sample

/-!
# The event log replays to the current row

The log of a worker and its current row are written separately by every
operation. They stay in step: the current row is what the last event says, each
event leaves the state the one before it entered, and the numbering follows the
re-enrollments. Times never decrease, because every write happens at the time of
the shared clock and the clock never goes back.

## Main results

* `lifecycle_log_replays` — in every run the log replays to the current row, and
  is only appended to
-/

set_option autoImplicit false

namespace Cathedral.Registry

open Codec Semantics

/-! ## Replay -/

/-- The current row an event leaves. -/
def EventRow.projection (event : EventRow) : SnapshotFields where
  hotkey := event.hotkey
  state := event.toState
  generation := event.generation
  revision := event.revision
  eventId := event.eventId
  reason := event.reason
  stateChangedAt := event.occurredAt
  evidenceVerifiedAt := event.evidenceVerifiedAt
  evidenceExpiresAt := event.evidenceExpiresAt
  measurement := event.measurement
  evidenceDigest := event.evidenceDigest
  policyDigest := event.policyDigest
  policyRegistryRelease := event.policyRegistryRelease
  policyRegistryDigest := event.policyRegistryDigest
  retryCount := event.retryCount
  nextRetryAt := event.nextRetryAt

/-- The event starts a new generation. -/
def EventRow.IsReenrollment (event : EventRow) : Prop :=
  event.reason ∈ [LifecycleReason.reenrolled, .endpointChanged]

/-- One event of a worker comes right after another. -/
structure Follows (previous next : EventRow) : Prop where
  left : next.fromState = some previous.toState
  later : previous.occurredAt ≤ next.occurredAt
  identified : previous.eventId < next.eventId
  reenrolled : next.IsReenrollment →
    next.generation = previous.generation + 1 ∧ next.revision = 1
  continued : ¬ next.IsReenrollment →
    next.generation = previous.generation ∧ next.revision = previous.revision + 1

/-- The log starts with the first generation, every event follows the one before
it, and the current row is what the last one says. -/
structure Replays (log : List EventRow) (current : Option SnapshotFields) : Prop where
  first : ∀ event ∈ log.head?,
    event.fromState = none ∧ event.generation = 1 ∧ event.revision = 1
  chained : log.IsChain Follows
  current : current = log.getLast?.map EventRow.projection

theorem Replays.nil : Replays [] none := ⟨by simp, .nil, rfl⟩

theorem Replays.eq_nil {log : List EventRow} (replays : Replays log none) : log = [] := by
  have last := replays.current.symm
  rw [Option.map_eq_none_iff, List.getLast?_eq_none_iff] at last
  exact last

/-- A first event begins a log. -/
theorem Replays.begin {event : EventRow}
    (first : event.fromState = none ∧ event.generation = 1 ∧ event.revision = 1) :
    Replays [event] (some event.projection) := by
  refine ⟨fun other head => ?_, .singleton event, rfl⟩
  cases head
  exact first

/-- An event that follows what the current row says extends the log. -/
theorem Replays.extend {log : List EventRow} {row : SnapshotFields} {event : EventRow}
    (replays : Replays log (some row))
    (follows : ∀ last ∈ log, last.projection = row → Follows last event) :
    Replays (log ++ [event]) (some event.projection) := by
  obtain ⟨last, ends, shown⟩ := Option.map_eq_some_iff.mp replays.current.symm
  have member : last ∈ log := List.mem_of_getLast? ends
  refine ⟨?_, ?_, by rw [List.getLast?_concat]; rfl⟩
  · -- the head of the longer log is the head of the old one
    intro other head
    cases log with
    | nil => cases member
    | cons first rest => exact replays.first other head
  · refine List.isChain_append.mpr ⟨replays.chained, .singleton event, ?_⟩
    intro x isLast y isHead
    rw [ends] at isLast
    cases isLast
    cases isHead
    exact follows last member shown

/-! ## The invariant -/

/-- Log and current rows are in step, and neither the clock nor the event ids are
behind them. -/
structure Consistent (s : State) : Prop where
  replays : ∀ hotkey, Replays (workerLog s hotkey) (s.current.find? hotkey)
  clock : ∀ hotkey, ∀ row ∈ s.current.find? hotkey, ∃ now ∈ s.clock, row.stateChangedAt ≤ now
  identified : ∀ event ∈ s.events.rows, event.eventId ≤ s.eventSequence

theorem Consistent.of_unstarted {s : State} (start : s.Unstarted) : Consistent s where
  replays hotkey := by
    have log : workerLog s hotkey = [] := by simp [workerLog, Table.select, start.events]
    have row : s.current.find? hotkey = none := by simp [Table.find?, start.current]
    rw [log, row]
    exact .nil
  clock hotkey row found := by
    simp [Table.find?, start.current] at found
  identified event member := by
    rw [start.events] at member
    cases member

section Recorded

variable {s s' : State} {event : EventRow} {row : SnapshotFields}

theorem Recorded.log_self (recorded : Recorded s s' event row) :
    workerLog s' event.hotkey = workerLog s event.hotkey ++ [event] := by
  simp [workerLog, Table.select, recorded.events]

theorem Recorded.log_other (recorded : Recorded s s' event row) {hotkey : Text}
    (other : hotkey ≠ event.hotkey) : workerLog s' hotkey = workerLog s hotkey := by
  have outside : ¬ event.hotkey = hotkey := fun same => other same.symm
  simp [workerLog, Table.select, recorded.events, outside]

/-- A recorded event keeps log and rows in step, if it replays for its worker and
is dated by the clock. -/
theorem Consistent.of_recorded (consistent : Consistent s) (recorded : Recorded s s' event row)
    (replays : Replays (workerLog s event.hotkey ++ [event]) (some row))
    (clocked : s.clock = some row.stateChangedAt) : Consistent s' where
  replays hotkey := by
    by_cases same : hotkey = event.hotkey
    · rw [same, recorded.log_self, recorded.row]
      exact replays
    · rw [recorded.log_other same, recorded.others hotkey same]
      exact consistent.replays hotkey
  clock hotkey current found := by
    rw [recorded.clock]
    by_cases same : hotkey = event.hotkey
    · rw [same, recorded.row] at found
      cases found
      exact ⟨row.stateChangedAt, clocked, le_rfl⟩
    · rw [recorded.others hotkey same] at found
      exact consistent.clock hotkey current found
  identified other member := by
    rw [recorded.events] at member
    rw [recorded.sequence]
    rcases List.mem_append.mp member with old | new
    · exact (consistent.identified other old).trans (Nat.le_succ _)
    · rw [List.mem_singleton.mp new, recorded.eventId]

end Recorded

/-- A worker's event is older than the next one to be recorded. -/
theorem Consistent.lt_next {s : State} (consistent : Consistent s) {hotkey : Text}
    {event : EventRow} (member : event ∈ workerLog s hotkey) :
    event.eventId < s.eventSequence + 1 :=
  Nat.lt_succ_of_le (consistent.identified event (Table.mem_select.mp member).1)

/-- Every write keeps log and rows in step. -/
theorem Consistent.write {scope : Scope} {s s' : State} (write : Write scope s s')
    (consistent : Consistent s) : Consistent s' := by
  cases write with
  | advance when allowed result =>
    subst result
    refine ⟨consistent.replays, fun hotkey row found => ⟨when, rfl, ?_⟩, consistent.identified⟩
    obtain ⟨now, clocked, dated⟩ := consistent.clock hotkey row found
    exact dated.trans (allowed.1 now clocked)
  | other same _ _ =>
    refine ⟨fun hotkey => ?_, fun hotkey row found => ?_, fun event member => ?_⟩
    · rw [workerLog, same.events, same.current]
      exact consistent.replays hotkey
    · rw [same.current] at found
      rw [same.clock]
      exact consistent.clock hotkey row found
    · rw [same.events] at member
      rw [same.sequence]
      exact consistent.identified event member
  | begin hotkey state reason when evidence allowed clocked enrolled absent recorded =>
    refine consistent.of_recorded recorded ?_ clocked
    have empty : workerLog s hotkey = [] := (absent ▸ consistent.replays hotkey).eq_nil
    rw [show workerLog s (initialEvent hotkey state reason when evidence
      (s.eventSequence + 1)).hotkey = [] from empty]
    exact .begin ⟨rfl, rfl, rfl⟩
  | move current target reason when a allowed moved =>
    obtain ⟨detail, recorded⟩ := moved.recorded
    refine consistent.of_recorded recorded ?_ moved.clocked
    have replays := moved.found ▸ consistent.replays current.hotkey
    refine replays.extend fun last member shown => ?_
    -- no reason of the transition table starts a generation
    have continues : ¬ (transitionEvent current target reason when
        (chosenValues current target reason a) detail (s.eventSequence + 1)).IsReenrollment := by
      have reasoned := moved.reasoned
      intro starts
      rcases List.mem_cons.mp starts with reenrolled | rest
      · rw [show reason = .reenrolled from reenrolled] at reasoned
        cases reasoned
      · rw [show reason = .endpointChanged from List.mem_singleton.mp rest] at reasoned
        cases reasoned
    subst shown
    exact ⟨rfl, moved.later, consistent.lt_next member, fun starts => absurd starts continues,
      fun _ => ⟨rfl, rfl⟩⟩
  | renew current reason when allowed renewed =>
    refine consistent.of_recorded renewed.recorded ?_ renewed.clocked
    have replays := renewed.found ▸ consistent.replays current.hotkey
    refine replays.extend fun last member shown => ?_
    -- the clock has not gone back since the worker's last event
    obtain ⟨now, shownClock, dated⟩ := consistent.clock current.hotkey current
      renewed.found
    rw [renewed.clocked] at shownClock
    cases shownClock
    subst shown
    exact ⟨rfl, dated, consistent.lt_next member, fun _ => ⟨rfl, rfl⟩,
      fun continues => absurd renewed.reasoned continues⟩

/-- Every operation keeps log and rows in step. -/
theorem Consistent.step {p : Platform} (s : State) (op : Op) (consistent : Consistent s) :
    Consistent (step p s op) :=
  settle_of_ok consistent fun _ committed =>
    Writes.invariant Consistent.write (writes_of_commit committed) consistent

/-! ## Append-only -/

/-- The log of every worker only grows at its end. -/
def Extends (s s' : State) : Prop := ∀ hotkey, workerLog s hotkey <+: workerLog s' hotkey

theorem Extends.trans {a b c : State} (first : Extends a b) (second : Extends b c) :
    Extends a c := fun hotkey => (first hotkey).trans (second hotkey)

theorem extends_of_recorded {s s' : State} {event : EventRow} {row : SnapshotFields}
    (recorded : Recorded s s' event row) : Extends s s' := by
  intro hotkey
  by_cases same : hotkey = event.hotkey
  · rw [same, recorded.log_self]
    exact List.prefix_append _ _
  · rw [recorded.log_other same]

theorem extends_of_write {scope : Scope} {s s' : State} (write : Write scope s s') :
    Extends s s' := by
  cases write with
  | advance when allowed result =>
    subst result
    exact fun _ => List.prefix_rfl
  | other same _ _ =>
    intro hotkey
    rw [workerLog, workerLog, same.events]
  | begin hotkey state reason when evidence allowed clocked enrolled absent recorded =>
    exact extends_of_recorded recorded
  | move current target reason when a allowed moved =>
    obtain ⟨detail, recorded⟩ := moved.recorded
    exact extends_of_recorded recorded
  | renew current reason when allowed renewed => exact extends_of_recorded renewed.recorded

theorem extends_step {p : Platform} (s : State) (op : Op) : Extends s (step p s op) :=
  settle_of_ok (P := Extends s) (fun _ => List.prefix_rfl) fun _ committed =>
    Writes.relation (R := Extends) (fun _ _ => List.prefix_rfl) Extends.trans extends_of_write
      (writes_of_commit committed)

/-! ## Runs -/

/-- **The log replays.** From a database without lifecycle rows, after any
operations of any processes, the event log of every worker replays to its current
row; whatever operations come next only append to it. -/
theorem lifecycle_log_replays (p : Platform) {s : State} (start : s.Unstarted)
    (before after : List Op) (hotkey : Text) :
    Replays (workerLog (runOps p s (before ++ after)) hotkey)
        ((runOps p s (before ++ after)).current.find? hotkey) ∧
      workerLog (runOps p s before) hotkey <+: workerLog (runOps p s (before ++ after)) hotkey := by
  have consistent : Consistent (runOps p s before) :=
    invariant_run Consistent.step (.of_unstarted start) before
  rw [runOps, runOps, run_append]
  constructor
  · exact (invariant_run Consistent.step consistent after).replays hotkey
  · exact relation_run (R := Extends) (fun _ _ => List.prefix_rfl) Extends.trans Consistent.step
      (fun s op _ => extends_step s op) consistent after hotkey

/-! ## A concrete run -/

/-- An enrollment at a sample endpoint, without caps. -/
def sampleEnrollment (hotkey endpointUrl : Text) : EnrollArguments where
  hotkey := hotkey
  endpointUrl := endpointUrl
  nonce := none
  requestDigest := none
  coldkey := none
  requestedProfileId := none
  maxEndpointsPerColdkey := none
  maxTotalEnrollments := none
  uniqueEndpoint := false
  refuseTerminal := false
  token := "token"

/-- The theorem applied to a worker that enrolls and then changes its endpoint. -/
theorem lifecycle_log_replays_moved :
    let before := [Op.enroll (sampleEnrollment "hk" "https://1.1.1.1:8443")
      63839664000000000 63839664000000000]
    let after := [Op.enroll (sampleEnrollment "hk" "https://8.8.8.8:8443")
      63839664001000000 63839664001000000]
    let reached := runOps .sampleNetwork .initial (before ++ after)
    (workerLog reached (Text.ofString "hk")).map EventRow.generation = [1, 2] ∧
      Replays (workerLog reached (Text.ofString "hk"))
        (reached.current.find? (Text.ofString "hk")) ∧
      workerLog (runOps .sampleNetwork .initial before) (Text.ofString "hk") <+:
        workerLog reached (Text.ofString "hk") := by
  intro before after reached
  refine ⟨by decide +kernel, ?_⟩
  exact lifecycle_log_replays .sampleNetwork State.unstarted_initial before after _

end Cathedral.Registry
