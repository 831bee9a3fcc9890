import CathedralCompute.Platform
import Mathlib.Data.List.Chain

/-!
# The fences of a verifier

A verifier keeps what it accepted last in a state file: the epoch of the evidence
index with its manifest, the release of the policy with its digest, and the source
epoch of the report with its id. Every accepted run of the verifier reserves its
values there under an exclusive lock, so the calls of a run come one after the
other. A call that verified an epoch of the past is historical, and moves only
fences that are there.

## Main definitions

* `reserveFences` — the checks of a reservation and what it records
* `Call.apply` — a call on the state file, with what the disk does
* `Upward` — what the fences of a file become in a run

## Main results

* `fences_hold` — fences move up only, reports chain, and no call that obeys the
  publisher's history is refused
-/

set_option autoImplicit false

namespace Cathedral.Provenance

open Codec Semantics

/-! ## Reservations -/

/-- The record in the state file, with a field for each of its keys. -/
@[ext] structure Fences where
  indexSourceEpoch : Option ℤ
  indexManifest : Option Text
  policyRelease : Option ℤ
  policyDigest : Option Text
  reportId : Option Text
  reportSourceEpoch : Option ℤ
deriving DecidableEq

/-- The record of an absent file. -/
def Fences.empty : Fences := ⟨none, none, none, none, none, none⟩

/-- What `_reserve_fences` is called with. -/
structure Reservation where
  indexEpoch : ℤ
  indexManifest : Text
  policyRelease : ℤ
  policyDigest : Text
  reportId : Text
  previousReportId : Option Text
  sourceEpoch : ℤ
  historical : Bool

namespace Reservation

variable (r : Reservation) (current : Fences)

/-- The index is not older than the one on record, and not another one of its epoch. -/
def checkIndex : Except Failure Unit :=
  match current.indexSourceEpoch with
  | none => .ok ()
  | some stored => do
    require (stored ≤ r.indexEpoch)
      (.valueError ("index rollback: epoch " ++ intText r.indexEpoch ++
        " < reserved high-water " ++ intText stored))
    require (r.indexEpoch = stored → current.indexManifest = some r.indexManifest)
      (.valueError "index equivocation: same epoch reserved with a different manifest")

/-- The policy is not older than the one on record, unless the call is historical,
and not another one of its release. -/
def checkPolicy : Except Failure Unit :=
  match current.policyRelease with
  | none => .ok ()
  | some stored => do
    require (r.historical ∨ stored ≤ r.policyRelease)
      (.valueError ("policy rollback: release " ++ intText r.policyRelease ++ " < reserved " ++
        intText stored))
    require (r.policyRelease = stored → current.policyDigest = some r.policyDigest)
      (.valueError "policy equivocation: same release, different digest")

/-- A later report names the one on record, an older one is refused unless the call
is historical, and there is one report of an epoch. -/
def checkReport : Except Failure Unit :=
  match current.reportSourceEpoch with
  | none => .ok ()
  | some stored => do
    require (stored < r.sourceEpoch → current.reportId ≠ none →
        r.previousReportId = current.reportId)
      (.valueError "report does not chain from the reserved predecessor")
    require (r.historical ∨ stored ≤ r.sourceEpoch)
      (.valueError ("report rollback: source epoch " ++ intText r.sourceEpoch ++ " < reserved " ++
        intText stored))
    require (r.sourceEpoch = stored → current.reportId = some r.reportId)
      (.valueError "report equivocation: same source epoch, different report")

/-- Whether a fence is written: always by a call at the frontier, and by a historical
one where it stands and does not go down. -/
def writes (stored : Option ℤ) (new : ℤ) : Bool := !r.historical || stored.any (· ≤ new)

def writeIndex : Fences :=
  if r.historical then current
  else { current with
    indexSourceEpoch := some r.indexEpoch
    indexManifest := some r.indexManifest }

def writePolicy : Fences :=
  if r.writes current.policyRelease r.policyRelease then { current with
    policyRelease := some r.policyRelease
    policyDigest := some r.policyDigest }
  else current

def writeReport : Fences :=
  if r.writes current.reportSourceEpoch r.sourceEpoch then { current with
    reportId := some r.reportId
    reportSourceEpoch := some r.sourceEpoch }
  else current

end Reservation

/-- `_reserve_fences` on the record of the file: the record it writes. -/
def reserveFences (r : Reservation) (current : Fences) : Except Failure Fences := do
  r.checkIndex current
  r.checkPolicy current
  r.checkReport current
  return r.writeReport (r.writePolicy (r.writeIndex current))

/-! ## Calls -/

/-- What the disk does with the new record: it is written; it is not, and the call
raises or never ends; or it is, and then the directory cannot be synchronised or the
process stops. -/
inductive Disk where
  | written
  | refused
  | unsynced
deriving DecidableEq

structure Call where
  reservation : Reservation
  disk : Disk

/-- The state file, `none` while it is absent. -/
abbrev StateFile := Option Fences

/-- A call on the state file: how it ends, and the file it leaves. -/
def Call.apply (call : Call) (file : StateFile) : Except Failure Unit × StateFile :=
  match reserveFences call.reservation (file.getD .empty) with
  | .error failure => (.error failure, file)
  | .ok next =>
    match call.disk with
    | .written => (.ok (), some next)
    | .refused => (.error .osError, file)
    | .unsynced => (.error .osError, some next)

/-- The file after a call. -/
def Call.step (file : StateFile) (call : Call) : StateFile := (call.apply file).2

/-! ## Fences move up -/

/-- A fence is a number and a text that belongs to it. -/
structure Fence where
  height : ℤ
  content : Option Text

def Fences.index (f : Fences) : Option Fence := f.indexSourceEpoch.map (⟨·, f.indexManifest⟩)

def Fences.policy (f : Fences) : Option Fence := f.policyRelease.map (⟨·, f.policyDigest⟩)

def Fences.report (f : Fences) : Option Fence := f.reportSourceEpoch.map (⟨·, f.reportId⟩)

/-- A fence stays or goes up, and keeps its content at its height. -/
def Rises (before after : Option Fence) : Prop :=
  ∀ old ∈ before, ∃ new ∈ after, old.height ≤ new.height ∧
    (new.height = old.height → new.content = old.content)

/-- All three fences rise. -/
structure Upward (before after : Fences) : Prop where
  index : Rises before.index after.index
  policy : Rises before.policy after.policy
  report : Rises before.report after.report

theorem Rises.refl (fence : Option Fence) : Rises fence fence := fun old held =>
  ⟨old, held, le_rfl, fun _ => rfl⟩

theorem Rises.trans {a b c : Option Fence} (first : Rises a b) (second : Rises b c) :
    Rises a c := by
  intro old held
  obtain ⟨middle, held', up, same⟩ := first old held
  obtain ⟨new, held'', up', same'⟩ := second middle held'
  refine ⟨new, held'', up.trans up', fun level => ?_⟩
  have middle_level : middle.height = old.height := le_antisymm (level ▸ up') up
  exact (same' (level.trans middle_level.symm)).trans (same middle_level)

theorem Upward.refl (f : Fences) : Upward f f := ⟨.refl _, .refl _, .refl _⟩

theorem Upward.trans {a b c : Fences} (first : Upward a b) (second : Upward b c) : Upward a c :=
  ⟨first.index.trans second.index, first.policy.trans second.policy,
    first.report.trans second.report⟩

/-- A fence written at its height with its content rises. -/
theorem rises_write {stored : Option ℤ} {content : Option Text} {new : ℤ} {text : Text}
    (up : ∀ old ∈ stored, old ≤ new) (same : ∀ old ∈ stored, new = old → content = some text) :
    Rises (stored.map (⟨·, content⟩)) (some ⟨new, some text⟩) := by
  intro _ mapped
  obtain ⟨old, held, rfl⟩ := Option.map_eq_some_iff.mp mapped
  exact ⟨_, rfl, up old held, fun level => (same old held level).symm⟩

section Reserve

variable {r : Reservation} {current next : Fences}

theorem checkIndex_eq_ok {u : Unit} : r.checkIndex current = .ok u ↔
    ∀ stored ∈ current.indexSourceEpoch, stored ≤ r.indexEpoch ∧
      (r.indexEpoch = stored → current.indexManifest = some r.indexManifest) := by
  unfold Reservation.checkIndex
  cases current.indexSourceEpoch <;> simp

theorem checkPolicy_eq_ok {u : Unit} : r.checkPolicy current = .ok u ↔
    ∀ stored ∈ current.policyRelease, (r.historical = true ∨ stored ≤ r.policyRelease) ∧
      (r.policyRelease = stored → current.policyDigest = some r.policyDigest) := by
  unfold Reservation.checkPolicy
  cases current.policyRelease <;> simp

theorem checkReport_eq_ok {u : Unit} : r.checkReport current = .ok u ↔
    ∀ stored ∈ current.reportSourceEpoch,
      (stored < r.sourceEpoch → current.reportId ≠ none →
        r.previousReportId = current.reportId) ∧
      (r.historical = true ∨ stored ≤ r.sourceEpoch) ∧
      (r.sourceEpoch = stored → current.reportId = some r.reportId) := by
  unfold Reservation.checkReport
  cases current.reportSourceEpoch <;> simp

/-- A reservation that passed its checks writes the fences one by one. -/
theorem reserveFences_eq_ok : reserveFences r current = .ok next ↔
    r.checkIndex current = .ok () ∧ r.checkPolicy current = .ok () ∧
      r.checkReport current = .ok () ∧
      next = r.writeReport (r.writePolicy (r.writeIndex current)) := by
  simp only [reserveFences, bind_eq_ok, pure_eq_ok]
  constructor
  · rintro ⟨_, index, _, policy, _, report, rfl⟩
    exact ⟨index, policy, report, rfl⟩
  · rintro ⟨index, policy, report, rfl⟩
    exact ⟨_, index, _, policy, _, report, rfl⟩

/-- What a reservation does to the three fences. -/
theorem fences_written (r : Reservation) (current : Fences) :
    (r.writeReport (r.writePolicy (r.writeIndex current))).index =
        (if r.historical then current.index else some ⟨r.indexEpoch, some r.indexManifest⟩) ∧
      (r.writeReport (r.writePolicy (r.writeIndex current))).policy =
        (if r.writes current.policyRelease r.policyRelease then
          some ⟨r.policyRelease, some r.policyDigest⟩ else current.policy) ∧
      (r.writeReport (r.writePolicy (r.writeIndex current))).report =
        (if r.writes current.reportSourceEpoch r.sourceEpoch then
          some ⟨r.sourceEpoch, some r.reportId⟩ else current.report) := by
  unfold Reservation.writeReport Reservation.writePolicy Reservation.writeIndex
  cases r.historical <;> cases written : r.writes current.policyRelease r.policyRelease <;>
    cases written' : r.writes current.reportSourceEpoch r.sourceEpoch <;>
    simp [written, written', Fences.index, Fences.policy, Fences.report]

/-- A fence that is written does not go down. -/
theorem writes_up {stored : Option ℤ} {new : ℤ} (written : r.writes stored new = true)
    (up : ∀ old ∈ stored, r.historical = true ∨ old ≤ new) : ∀ old ∈ stored, old ≤ new := by
  intro old held
  rcases up old held with historical | up
  · rw [Option.mem_def.mp held] at written
    simpa [Reservation.writes, historical] using written
  · exact up

/-- A reservation lowers no fence. -/
theorem upward_reserveFences (reserved : reserveFences r current = .ok next) :
    Upward current next := by
  obtain ⟨index, policy, report, rfl⟩ := reserveFences_eq_ok.mp reserved
  obtain ⟨index', policy', report'⟩ := fences_written r current
  rw [checkIndex_eq_ok] at index
  rw [checkPolicy_eq_ok] at policy
  rw [checkReport_eq_ok] at report
  refine ⟨?_, ?_, ?_⟩
  · rw [index']
    split
    · exact .refl _
    · exact rises_write (fun old held => (index old held).1) fun old held => (index old held).2
  · rw [policy']
    split
    · next written =>
      exact rises_write (writes_up written fun old held => (policy old held).1)
        fun old held => (policy old held).2
    · exact .refl _
  · rw [report']
    split
    · next written =>
      exact rises_write (writes_up written fun old held => (report old held).2.1)
        fun old held => (report old held).2.2
    · exact .refl _

end Reserve

/-! ## Runs of calls -/

/-- The record of a state file. -/
def record (file : StateFile) : Fences := file.getD .empty

/-- A call leaves the file, or writes the record its reservation makes. -/
theorem apply_cases (call : Call) (file : StateFile) :
    ((call.apply file).2 = file ∧ (call.apply file).1 ≠ .ok ()) ∨
      ∃ next, reserveFences call.reservation (record file) = .ok next ∧
        (call.apply file).2 = some next ∧
        ((call.apply file).1 = .ok () ∨
          call.disk = .unsynced ∧ (call.apply file).1 = .error .osError) := by
  unfold Call.apply record
  cases reserved : reserveFences call.reservation (file.getD .empty) with
  | error failure => exact .inl ⟨rfl, nofun⟩
  | ok next =>
    cases disk : call.disk with
    | written => exact .inr ⟨next, rfl, rfl, .inl rfl⟩
    | refused => exact .inl ⟨rfl, nofun⟩
    | unsynced => exact .inr ⟨next, rfl, rfl, .inr ⟨rfl, rfl⟩⟩

theorem upward_step (call : Call) (file : StateFile) :
    Upward (record file) (record (Call.step file call)) := by
  unfold Call.step
  rcases apply_cases call file with ⟨same, -⟩ | ⟨next, reserved, written, -⟩
  · rw [same]
    exact .refl _
  · rw [written]
    exact upward_reserveFences reserved

theorem upward_run (file : StateFile) (calls : List Call) :
    Upward (record file) (record (run Call.step file calls)) := by
  induction calls generalizing file with
  | nil => exact .refl _
  | cons call calls ih => exact (upward_step call file).trans (ih _)

/-- A report has an id. -/
def Named (f : Fences) : Prop := ∀ epoch, f.reportSourceEpoch = some epoch → f.reportId ≠ none

theorem named_reserveFences {r : Reservation} {current next : Fences}
    (reserved : reserveFences r current = .ok next) (named : Named current) : Named next := by
  obtain ⟨-, -, -, written⟩ := reserveFences_eq_ok.mp reserved
  intro epoch held
  have fence := (fences_written r current).2.2
  rw [← written, Fences.report, held, Option.map_some] at fence
  split at fence
  · have content : next.reportId = some r.reportId :=
      congrArg Fence.content (Option.some.inj fence)
    rw [content]
    exact Option.some_ne_none _
  · obtain ⟨old, found, same⟩ := Option.map_eq_some_iff.mp fence.symm
    have content : current.reportId = next.reportId := congrArg Fence.content same
    rw [← content]
    exact named old found

theorem named_step {call : Call} {file : StateFile} (named : Named (record file)) :
    Named (record (Call.step file call)) := by
  unfold Call.step
  rcases apply_cases call file with ⟨same, -⟩ | ⟨next, reserved, written, -⟩
  · rw [same]
    exact named
  · rw [written]
    exact named_reserveFences reserved named

theorem named_run (calls : List Call) : Named (record (run Call.step none calls)) := by
  have step : ∀ file call, Named (record file) → Named (record (Call.step file call)) :=
    fun _ _ => named_step
  have start : Named (record none) := fun epoch held => by cases held
  exact invariant_run step start calls

/-- A report that goes up names the one that was there. -/
theorem chains_reserveFences {r : Reservation} {current next : Fences}
    (reserved : reserveFences r current = .ok next) (named : Named current) {old new : ℤ}
    (before : current.reportSourceEpoch = some old) (after : next.reportSourceEpoch = some new)
    (later : old < new) : ∃ id, current.reportId = some id ∧ r.previousReportId = some id := by
  obtain ⟨-, -, report, rfl⟩ := reserveFences_eq_ok.mp reserved
  have fence := (fences_written r current).2.2
  rw [Fences.report, after, Option.map_some] at fence
  split at fence
  · obtain rfl := congrArg Fence.height (Option.some.inj fence)
    obtain ⟨id, stored⟩ := Option.ne_none_iff_exists'.mp (named old before)
    have chained := ((checkReport_eq_ok.mp report) old before).1 later (named old before)
    exact ⟨id, stored, chained.trans stored⟩
  · rw [Fences.report, before, Option.map_some] at fence
    have level := congrArg Fence.height (Option.some.inj fence)
    exact absurd level later.ne'

/-- A historical reservation keeps the index fence and builds no fence. -/
theorem historical_reserveFences {r : Reservation} {current next : Fences}
    (reserved : reserveFences r current = .ok next) (historical : r.historical = true) :
    next.indexSourceEpoch = current.indexSourceEpoch ∧
      next.indexManifest = current.indexManifest ∧
      (current.policyRelease = none → next.policyRelease = none) ∧
      (current.reportSourceEpoch = none → next.reportSourceEpoch = none) := by
  obtain ⟨-, -, -, rfl⟩ := reserveFences_eq_ok.mp reserved
  obtain ⟨-, policy, report⟩ := fences_written r current
  have kept : r.writeIndex current = current := if_pos historical
  refine ⟨?_, ?_, fun absent => ?_, fun absent => ?_⟩
  · rw [kept]
    unfold Reservation.writeReport Reservation.writePolicy
    split <;> split <;> rfl
  · rw [kept]
    unfold Reservation.writeReport Reservation.writePolicy
    split <;> split <;> rfl
  · have unwritten : r.writes current.policyRelease r.policyRelease = false := by
      simp [Reservation.writes, historical, absent]
    rw [unwritten, if_neg Bool.false_ne_true, Fences.policy, Fences.policy, absent,
      Option.map_none, Option.map_eq_none_iff] at policy
    exact policy
  · have unwritten : r.writes current.reportSourceEpoch r.sourceEpoch = false := by
      simp [Reservation.writes, historical, absent]
    rw [unwritten, if_neg Bool.false_ne_true, Fences.report, Fences.report, absent,
      Option.map_none, Option.map_eq_none_iff] at report
    exact report

/-! ## Catching up -/

/-- An epoch that the publisher published: its manifest, and the policy and the report
the manifest names. -/
structure Published where
  epoch : ℤ
  manifest : Text
  release : ℤ
  digest : Text
  reportId : Text
  previousReportId : Option Text

/-- What follows an epoch: a later one whose report names this one's, under a release
that is not older. -/
structure Published.Precedes (earlier later : Published) : Prop where
  epochs : earlier.epoch < later.epoch
  releases : earlier.release ≤ later.release
  reports : later.previousReportId = some earlier.reportId

/-- A history of an honest publisher. -/
structure History (published : List Published) : Prop where
  chained : published.IsChain Published.Precedes
  digests : ∀ one ∈ published, ∀ two ∈ published, one.release = two.release →
    one.digest = two.digest

/-- The reservation for an epoch while another one is the latest of the index. -/
def Published.reservation (latest published : Published) : Reservation where
  indexEpoch := latest.epoch
  indexManifest := latest.manifest
  policyRelease := published.release
  policyDigest := published.digest
  reportId := published.reportId
  previousReportId := published.previousReportId
  sourceEpoch := published.epoch
  historical := published.manifest != latest.manifest

/-- Fences at an epoch, with the index fence at another one. -/
def Published.standing (index published : Published) : Fences where
  indexSourceEpoch := some index.epoch
  indexManifest := some index.manifest
  policyRelease := some published.release
  policyDigest := some published.digest
  reportId := some published.reportId
  reportSourceEpoch := some published.epoch

section Catchup

variable {published : List Published} {latest index earlier later : Published}

theorem History.pairwise (history : History published) :
    published.Pairwise fun one two => one.epoch < two.epoch := by
  refine (history.chained.imp fun _ _ precedes => precedes.epochs).pairwise

/-- The latest epoch of a history is above every other one. -/
theorem History.le_latest (history : History published) (ends : published.getLast? = some latest)
    {one : Published} (member : one ∈ published) : one = latest ∨ one.epoch < latest.epoch := by
  obtain ⟨before, rfl⟩ := List.getLast?_eq_some_iff.mp ends
  rcases List.mem_append.mp member with old | new
  · exact .inr ((List.pairwise_append.mp history.pairwise).2.2 one old latest
      (List.mem_singleton_self latest))
  · exact .inl (List.mem_singleton.mp new)

/-- From the fences of an epoch, the next epoch is reserved. -/
theorem reserveFences_standing (history : History published)
    (ends : published.getLast? = some latest) (indexed : index ∈ published)
    (listed : earlier ∈ published) (listed' : later ∈ published)
    (precedes : earlier.Precedes later) :
    ∃ index' ∈ published, (later = latest → index' = latest) ∧
      reserveFences (latest.reservation later) (index.standing earlier) =
        .ok (index'.standing later) := by
  have up := history.le_latest ends indexed
  have top : latest ∈ published := List.mem_of_getLast? ends
  -- each of the three fences lets the call pass
  have index_ok : (latest.reservation later).checkIndex (index.standing earlier) = .ok () := by
    refine checkIndex_eq_ok.mpr ?_
    rintro _ ⟨⟩
    rcases up with rfl | below
    · exact ⟨le_rfl, fun _ => rfl⟩
    · exact ⟨below.le, fun level => absurd level below.ne'⟩
  have policy_ok : (latest.reservation later).checkPolicy (index.standing earlier) = .ok () := by
    refine checkPolicy_eq_ok.mpr ?_
    rintro _ ⟨⟩
    exact ⟨.inr precedes.releases, fun level =>
      congrArg some (history.digests earlier listed later listed' level.symm)⟩
  have report_ok : (latest.reservation later).checkReport (index.standing earlier) = .ok () := by
    refine checkReport_eq_ok.mpr ?_
    rintro _ ⟨⟩
    exact ⟨fun _ _ => precedes.reports, .inr precedes.epochs.le,
      fun level => absurd level precedes.epochs.ne'⟩
  have policy_up : (latest.reservation later).writes (some earlier.release) later.release = true := by
    simp [Reservation.writes, precedes.releases]
  have report_up : (latest.reservation later).writes (some earlier.epoch) later.epoch = true := by
    simp [Reservation.writes, precedes.epochs.le]
  -- a historical call leaves the index where it stands
  have indexed : ∃ index' ∈ published, (later = latest → index' = latest) ∧
      (latest.reservation later).writeIndex (index.standing earlier) = index'.standing earlier := by
    cases historical : (latest.reservation later).historical with
    | true =>
      refine ⟨index, indexed, fun same => ?_, if_pos historical⟩
      rw [same] at historical
      simp [Published.reservation] at historical
    | false => exact ⟨latest, top, fun _ => rfl, if_neg (by simp [historical])⟩
  obtain ⟨index', member, frontier, index_written⟩ := indexed
  -- what is written are the fences of the later epoch
  have policy_written : (latest.reservation later).writePolicy (index'.standing earlier) =
      { index'.standing earlier with
        policyRelease := some later.release
        policyDigest := some later.digest } := if_pos policy_up
  have report_written : (latest.reservation later).writeReport
      { index'.standing earlier with
        policyRelease := some later.release
        policyDigest := some later.digest } = index'.standing later := if_pos report_up
  refine ⟨index', member, frontier, reserveFences_eq_ok.mpr ⟨index_ok, policy_ok, report_ok, ?_⟩⟩
  rw [index_written, policy_written, report_written]

/-- The calls of a validator that catches up, while an epoch is the latest. -/
def catchUp (latest : Published) (epochs : List Published) : List Call :=
  epochs.map fun published => ⟨latest.reservation published, .written⟩

/-- From the fences of an epoch every following call of a history returns, and the
fences stand at its epoch. -/
theorem catchUp_standing (history : History published) (ends : published.getLast? = some latest)
    (indexed : index ∈ published) {rest : List Published} (part : earlier :: rest <:+ published) :
    (∀ done next todo, rest = done ++ next :: todo →
      ((⟨latest.reservation next, .written⟩ : Call).apply
        (run Call.step (some (index.standing earlier)) (catchUp latest done))).1 = .ok ()) ∧
    (rest ≠ [] → run Call.step (some (index.standing earlier)) (catchUp latest rest) =
      some (latest.standing latest)) := by
  induction rest generalizing earlier index with
  | nil => exact ⟨fun done next todo split => by simp at split, fun impossible => absurd rfl impossible⟩
  | cons later rest ih =>
    have later_part : later :: rest <:+ published := (List.suffix_cons earlier _).trans part
    have listed : earlier ∈ published := part.subset List.mem_cons_self
    have listed' : later ∈ published := later_part.subset List.mem_cons_self
    -- neighbours of a history precede one another
    have precedes : earlier.Precedes later := by
      obtain ⟨before, rfl⟩ := part
      exact (List.isChain_cons_cons.mp (List.isChain_append.mp history.chained).2.1).1
    obtain ⟨index', member, frontier, reserved⟩ :=
      reserveFences_standing history ends indexed listed listed' precedes
    have applied : (⟨latest.reservation later, .written⟩ : Call).apply
        (some (index.standing earlier)) = (.ok (), some (index'.standing later)) := by
      simp only [Call.apply, Option.getD_some, reserved]
    have moved : Call.step (some (index.standing earlier)) ⟨latest.reservation later, .written⟩ =
        some (index'.standing later) := congrArg Prod.snd applied
    obtain ⟨each, last⟩ := ih member later_part
    constructor
    · intro done next todo split
      -- the first call is the step above, the others are those of the induction
      cases done with
      | nil =>
        obtain ⟨rfl, rfl⟩ := List.cons.inj split
        exact congrArg Prod.fst applied
      | cons first done =>
        obtain ⟨rfl, rfl⟩ := List.cons.inj split
        rw [catchUp, List.map_cons, run_cons, moved]
        exact each done next todo rfl
    · intro _
      rw [catchUp, List.map_cons, run_cons, moved]
      cases rest with
      | cons => exact last (List.cons_ne_nil _ _)
      | nil =>
        have top : later = latest := by
          obtain ⟨before, rfl⟩ := later_part
          simpa using ends
        rw [frontier top, top]
        rfl

end Catchup

/-! ## The result -/

/-- **Fences.** From an absent file, in any order of calls: the fences only rise, and
keep their content at their height; a report that goes up names the one before it; a
historical call builds no fence and leaves that of the index; a call that raises leaves
the file, unless the file was replaced and the directory could not be synchronised. And
a validator whose fences stand at an epoch of an honest history reserves the epochs
after it one by one. -/
theorem fences_hold :
    (∀ calls later, Upward (record (run Call.step none calls))
      (record (run Call.step (run Call.step none calls) later))) ∧
    (∀ calls (call : Call),
      let file := run Call.step none calls
      let before := record file
      let after := record (call.apply file).2
      (∀ old new, before.reportSourceEpoch = some old → after.reportSourceEpoch = some new →
        old < new → ∃ id, before.reportId = some id ∧
          call.reservation.previousReportId = some id) ∧
      (call.reservation.historical = true →
        after.indexSourceEpoch = before.indexSourceEpoch ∧
        after.indexManifest = before.indexManifest ∧
        (before.policyRelease = none → after.policyRelease = none) ∧
        (before.reportSourceEpoch = none → after.reportSourceEpoch = none)) ∧
      (∀ failure, (call.apply file).1 = .error failure → (call.apply file).2 = file ∨
        call.disk = .unsynced ∧ failure = .osError ∧
          (call.apply file).2 = (({ call with disk := .written } : Call).apply file).2)) ∧
    ∀ published latest, History published → published.getLast? = some latest →
      ∀ index ∈ published, ∀ earlier rest, earlier :: rest <:+ published →
        (∀ done next todo, rest = done ++ next :: todo →
          ((⟨latest.reservation next, .written⟩ : Call).apply
            (run Call.step (some (index.standing earlier)) (catchUp latest done))).1 = .ok ()) ∧
        (rest ≠ [] → run Call.step (some (index.standing earlier)) (catchUp latest rest) =
          some (latest.standing latest)) := by
  refine ⟨fun calls later => upward_run _ later, ?_, ?_⟩
  · intro calls call file before after
    have named : Named before := named_run calls
    rcases apply_cases call file with ⟨same, -⟩ | ⟨next, reserved, written, outcome⟩
    · -- the call raised before it wrote
      have kept : after = before := congrArg record same
      refine ⟨fun old new stored stored' later => ?_, fun _ => ?_, fun _ _ => .inl same⟩
      · rw [kept, stored] at stored'
        exact absurd (Option.some.inj stored') later.ne
      · rw [kept]
        exact ⟨rfl, rfl, id, id⟩
    · -- it wrote, and returned or failed at the directory
      have kept : after = next := congrArg record written
      rw [kept]
      refine ⟨fun old new stored stored' later =>
          chains_reserveFences reserved named stored stored' later,
        historical_reserveFences reserved, fun failure failed => .inr ?_⟩
      rcases outcome with returned | ⟨disk, raised⟩
      · rw [returned] at failed
        cases failed
      · rw [raised] at failed
        have complete : (({ call with disk := .written } : Call).apply file).2 = some next := by
          unfold record at reserved
          simp only [Call.apply, reserved]
        exact ⟨disk, (Except.error.inj failed).symm, written.trans complete.symm⟩
  · intro published latest history ends index indexed earlier rest part
    exact catchUp_standing history ends indexed part

/-- A first reservation, and a disk that loses the directory after it. -/
def unsyncedCall : Call :=
  ⟨⟨1, Text.ofString "m", 1, Text.ofString "d", Text.ofString "r", none, 1, false⟩, .unsynced⟩

/-- A call that raises can leave another file: the directory is synchronised after the
file was replaced. -/
theorem not_fences_hold_unsynced :
    (unsyncedCall.apply none).1 = .error .osError ∧ (unsyncedCall.apply none).2 ≠ none := by
  decide

end Cathedral.Provenance
