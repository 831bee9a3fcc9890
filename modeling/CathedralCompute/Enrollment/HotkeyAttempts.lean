import CathedralCompute.Codec.SecondTimestamp
import CathedralCompute.Platform

/-!
# Limiting enrollments by hotkey

Each accepted enrollment attempt leaves a row with its hotkey and the second it began. A
new attempt drops the rows of its hotkey that have left the window, counts the others, and
is accepted if there are fewer than the limit. Now and then a sweep drops the old rows of
all hotkeys.

Any number of processes share the table. An attempt reads the clock twice and then waits
for the database, so a run lists the attempts and sweeps in the order they get it, each
with the times it read before.

## Main definitions

* `checkAndRecordHotkeyAttempt`, `sweepExpiredAttempts`
* `History.after` — the attempts a run accepts

## Main results

* `accepted_at_most` — in no window more attempts of a hotkey are accepted than the limit
* `refused_costs_nothing` — a refused attempt leaves no row and no trace in later answers
-/

set_option autoImplicit false

namespace Cathedral.Enrollment

open Codec Semantics

/-- A `datetime`, which ends with year 9999. -/
abbrev DateTime := Fin Instant.limit

instance : NeZero Instant.limit := ⟨by decide⟩

/-- A row of `hotkey_enroll_attempts`. -/
structure AttemptRow where
  hotkey : Text
  attemptedAt : Text
deriving DecidableEq

/-- The text of the first second that counts; `timedelta` takes the clock below year 1 when
the window is too long. -/
def cutoffText (clock : DateTime) (windowSeconds : ℕ) : Except Failure Text := do
  require (1000000 * windowSeconds ≤ clock.val) .overflowError
  return Instant.canonicalSecond (clock.val - windowSeconds * 1000000)

/-- The first statement: the old rows of the hotkey go. -/
def dropExpired (hotkey cutoff : Text) (rows : List AttemptRow) : List AttemptRow :=
  rows.filter fun row => ¬ (row.hotkey = hotkey ∧ row.attemptedAt < cutoff)

/-- The rows of the hotkey since the cutoff. -/
def recentRows (hotkey cutoff : Text) (rows : List AttemptRow) : List AttemptRow :=
  rows.filter fun row => row.hotkey = hotkey ∧ cutoff ≤ row.attemptedAt

/-- `check_and_record_hotkey_attempt` up to the sweep: `began` is what `now_iso` read, and
`clock` what the cutoff was made from. -/
def checkAndRecordHotkeyAttempt (limit windowSeconds : ℕ) (hotkey : Text)
    (began clock : DateTime) (rows : List AttemptRow) :
    Except Failure (Bool × List AttemptRow) := do
  let cutoff ← cutoffText clock windowSeconds
  let kept := dropExpired hotkey cutoff rows
  return if limit ≤ (recentRows hotkey cutoff kept).length then (false, kept)
    else (true, kept ++ [⟨hotkey, Instant.canonicalSecond began.val⟩])

/-- `_sweep_expired_attempts` where it sweeps. -/
def sweepExpiredAttempts (windowSeconds : ℕ) (clock : DateTime) (rows : List AttemptRow) :
    Except Failure (List AttemptRow) := do
  let cutoff ← cutoffText clock windowSeconds
  return rows.filter fun row => ¬ row.attemptedAt < cutoff

/-! ## Runs -/

/-- An attempt that gets the database. -/
structure Attempt where
  hotkey : Text
  began : DateTime
  clock : DateTime
  committed : DateTime
  reads : began ≤ clock
  waits : clock ≤ committed

/-- A sweep that gets the database. -/
structure Sweep where
  clock : DateTime
  committed : DateTime
  waits : clock ≤ committed

inductive Step where
  | attempt (a : Attempt)
  | sweep (s : Sweep)

/-- When the step has the database. -/
def Step.committed : Step → DateTime
  | .attempt a => a.committed
  | .sweep s => s.committed

/-- The rows, and the attempts that were accepted so far. -/
structure History where
  rows : List AttemptRow
  accepted : List Attempt

namespace History

variable (limit windowSeconds : ℕ)

/-- One step; one that raises changes nothing. -/
def step (history : History) : Step → History
  | .attempt a =>
    match checkAndRecordHotkeyAttempt limit windowSeconds a.hotkey a.began a.clock
        history.rows with
    | .ok (true, rows) => ⟨rows, history.accepted ++ [a]⟩
    | .ok (false, rows) => ⟨rows, history.accepted⟩
    | .error _ => history
  | .sweep s =>
    match sweepExpiredAttempts windowSeconds s.clock history.rows with
    | .ok rows => ⟨rows, history.accepted⟩
    | .error _ => history

/-- What the steps leave of an empty table. -/
def after (steps : List Step) : History := steps.foldl (step limit windowSeconds) ⟨[], []⟩

end History

/-! ## Texts and times -/

theorem canonicalSecond_mono {a b : ℕ} (small : b < Instant.limit) (order : a ≤ b) :
    Instant.canonicalSecond a ≤ Instant.canonicalSecond b := by
  have floors : Instant.floorSecond a ≤ Instant.floorSecond b :=
    Nat.mul_le_mul_right _ (Nat.div_le_div_right order)
  rcases floors.lt_or_eq with less | same
  · exact (Instant.canonicalSecond_lt small less).le
  · rw [Instant.canonicalSecond_congr same]

/-! ## One step -/

section Step

variable {limit windowSeconds : ℕ} {rows : List AttemptRow}

/-- The rows of a hotkey from a time on. -/
def rowsSince (hotkey : Text) (start : ℕ) (rows : List AttemptRow) : List AttemptRow :=
  recentRows hotkey (Instant.canonicalSecond start) rows

/-- The accepted attempts of a hotkey that began from a time on. -/
def acceptedSince (hotkey : Text) (start : ℕ) (accepted : List Attempt) : List Attempt :=
  accepted.filter fun a => a.hotkey = hotkey ∧ start ≤ a.began.val

theorem cutoff_le {clock : DateTime} {cutoff : Text} {start : ℕ}
    (made : cutoffText clock windowSeconds = .ok cutoff)
    (reaches : clock.val ≤ start + windowSeconds * 1000000) (small : start < Instant.limit) :
    cutoff ≤ Instant.canonicalSecond start := by
  simp only [cutoffText, bind_eq_ok, require_eq_ok, pure_eq_ok] at made
  obtain ⟨_, -, rfl⟩ := made
  exact canonicalSecond_mono small (by omega)

/-- Dropping what is older than a cutoff keeps the rows since a later time. -/
theorem rowsSince_filter (hotkey : Text) (start : ℕ) (drops : AttemptRow → Prop)
    [DecidablePred drops]
    (old : ∀ row, drops row → row.attemptedAt < Instant.canonicalSecond start) :
    rowsSince hotkey start (rows.filter fun row => ¬ drops row) = rowsSince hotkey start rows := by
  unfold rowsSince recentRows
  rw [List.filter_filter]
  refine List.filter_congr fun row _ => ?_
  rw [Bool.eq_iff_iff]
  simp only [Bool.and_eq_true, decide_eq_true_eq]
  refine ⟨fun both => both.1, fun recent => ⟨recent, fun dropped => ?_⟩⟩
  exact absurd recent.2 (not_le.mpr (old row dropped))

theorem rowsSince_dropExpired {hotkey other cutoff : Text} {start : ℕ}
    (early : cutoff ≤ Instant.canonicalSecond start) :
    rowsSince other start (dropExpired hotkey cutoff rows) = rowsSince other start rows :=
  rowsSince_filter other start (fun row => row.hotkey = hotkey ∧ row.attemptedAt < cutoff)
    fun _ dropped => dropped.2.trans_le early

/-- The rows since a later time are among those since the cutoff. -/
theorem length_rowsSince_le {hotkey cutoff : Text} {start : ℕ}
    (early : cutoff ≤ Instant.canonicalSecond start) :
    (rowsSince hotkey start rows).length ≤ (recentRows hotkey cutoff rows).length := by
  refine (List.monotone_filter_right _ fun row recent => ?_).length_le
  rw [decide_eq_true_eq] at recent ⊢
  exact ⟨recent.1, early.trans recent.2⟩

/-- An attempt that is answered drops the old rows of its hotkey; an accepted one found
fewer recent rows than the limit and adds one. -/
theorem checkAndRecord_eq_ok {hotkey : Text} {began clock : DateTime} {accepted : Bool}
    {rows' : List AttemptRow}
    (answered : checkAndRecordHotkeyAttempt limit windowSeconds hotkey began clock rows =
      .ok (accepted, rows')) :
    ∃ cutoff, cutoffText clock windowSeconds = .ok cutoff ∧
      ((accepted = false ∧ rows' = dropExpired hotkey cutoff rows) ∨
        (accepted = true ∧ (recentRows hotkey cutoff (dropExpired hotkey cutoff rows)).length <
            limit ∧
          rows' = dropExpired hotkey cutoff rows ++
            [⟨hotkey, Instant.canonicalSecond began.val⟩])) := by
  simp only [checkAndRecordHotkeyAttempt, bind_eq_ok, pure_eq_ok] at answered
  obtain ⟨cutoff, made, answer⟩ := answered
  refine ⟨cutoff, made, ?_⟩
  split at answer
  case isTrue full =>
    cases answer
    exact .inl ⟨rfl, rfl⟩
  case isFalse short =>
    cases answer
    exact .inr ⟨rfl, not_le.mp short, rfl⟩

end Step

/-! ## The bound -/

/-- The accepted attempts of a hotkey that lie in the window that starts at a time: they
began in it, and had the database before its end. -/
def attemptsWithin (windowSeconds : ℕ) (hotkey : Text) (start : ℕ) (accepted : List Attempt) :
    List Attempt :=
  accepted.filter fun a => a.hotkey = hotkey ∧ start ≤ a.began.val ∧
    a.committed.val ≤ start + windowSeconds * 1000000

/-- The table counts the accepted attempts that may still matter, and every window is within
the limit. -/
structure Counts (limit windowSeconds : ℕ) (now : ℕ) (history : History) : Prop where
  counted : ∀ hotkey start, start < Instant.limit → now ≤ start + windowSeconds * 1000000 →
    (acceptedSince hotkey start history.accepted).length ≤
      (rowsSince hotkey start history.rows).length
  limited : ∀ hotkey start,
    (attemptsWithin windowSeconds hotkey start history.accepted).length ≤ limit

section Bound

variable {limit windowSeconds now : ℕ} {history : History}

/-- Rows older than all windows that reach the present may go. -/
theorem Counts.drop (counts : Counts limit windowSeconds now history) {later : ℕ}
    (order : now ≤ later) {rows' : List AttemptRow}
    (kept : ∀ hotkey start, start < Instant.limit → later ≤ start + windowSeconds * 1000000 →
      rowsSince hotkey start rows' = rowsSince hotkey start history.rows) :
    Counts limit windowSeconds later ⟨rows', history.accepted⟩ where
  counted hotkey start small reaches := by
    rw [kept hotkey start small reaches]
    exact counts.counted hotkey start small (order.trans reaches)
  limited := counts.limited

/-- An attempt is accepted. -/
theorem Counts.accept (counts : Counts limit windowSeconds now history) {a : Attempt}
    {cutoff : Text} (order : now ≤ a.committed.val)
    (made : cutoffText a.clock windowSeconds = .ok cutoff)
    (few : (recentRows a.hotkey cutoff (dropExpired a.hotkey cutoff history.rows)).length <
      limit) :
    Counts limit windowSeconds a.committed.val
      ⟨dropExpired a.hotkey cutoff history.rows ++
        [⟨a.hotkey, Instant.canonicalSecond a.began.val⟩], history.accepted ++ [a]⟩ := by
  have waits : a.clock.val ≤ a.committed.val := a.waits
  -- a window that still reaches the commit begins after the cutoff
  have early : ∀ start, start < Instant.limit →
      a.committed.val ≤ start + windowSeconds * 1000000 →
      cutoff ≤ Instant.canonicalSecond start := fun start small reaches =>
    cutoff_le made (waits.trans reaches) small
  constructor
  · -- the row of the attempt is counted with the attempt
    intro hotkey start small reaches
    have before := counts.counted hotkey start small (order.trans reaches)
    have kept : rowsSince hotkey start (dropExpired a.hotkey cutoff history.rows) =
        rowsSince hotkey start history.rows := rowsSince_dropExpired (early start small reaches)
    simp only [acceptedSince, rowsSince, recentRows, List.filter_append, List.length_append] at *
    rw [kept]
    refine Nat.add_le_add before ?_
    by_cases own : a.hotkey = hotkey ∧ start ≤ a.began.val
    · have text := canonicalSecond_mono a.began.isLt own.2
      rw [List.filter_cons_of_pos (by simpa using own),
        List.filter_cons_of_pos (by simpa using ⟨own.1, text⟩)]
      simp
    · rw [List.filter_cons_of_neg (by simpa using own)]
      exact Nat.zero_le _
  · -- the attempts of a window have rows among the recent ones, which are too few
    intro hotkey start
    rw [attemptsWithin, List.filter_append, List.length_append]
    by_cases inside : a.hotkey = hotkey ∧ start ≤ a.began.val ∧
        a.committed.val ≤ start + windowSeconds * 1000000
    · rw [List.filter_cons_of_pos (by simpa using inside), List.filter_nil,
        List.length_singleton]
      obtain ⟨rfl, starts, reaches⟩ := inside
      have small := starts.trans_lt a.began.isLt
      have within : (attemptsWithin windowSeconds a.hotkey start history.accepted).length ≤
          (acceptedSince a.hotkey start history.accepted).length := by
        refine (List.monotone_filter_right _ fun other shown => ?_).length_le
        rw [decide_eq_true_eq] at shown ⊢
        exact ⟨shown.1, shown.2.1⟩
      have known := counts.counted a.hotkey start small (order.trans reaches)
      have kept : rowsSince a.hotkey start (dropExpired a.hotkey cutoff history.rows) =
          rowsSince a.hotkey start history.rows :=
        rowsSince_dropExpired (early start small reaches)
      rw [← kept] at known
      have among : (rowsSince a.hotkey start (dropExpired a.hotkey cutoff history.rows)).length ≤
          (recentRows a.hotkey cutoff (dropExpired a.hotkey cutoff history.rows)).length :=
        length_rowsSince_le (early start small reaches)
      exact ((within.trans known).trans among).trans_lt few
    · rw [List.filter_cons_of_neg (by simpa using inside), List.filter_nil, List.length_nil]
      exact counts.limited hotkey start

/-- **One step.** -/
theorem Counts.step (counts : Counts limit windowSeconds now history) {next : Step}
    (order : now ≤ next.committed.val) :
    Counts limit windowSeconds next.committed.val (history.step limit windowSeconds next) := by
  cases next with
  | attempt a =>
    have waits : a.clock.val ≤ a.committed.val := a.waits
    have stays : Counts limit windowSeconds a.committed.val history :=
      counts.drop order fun _ _ _ _ => rfl
    simp only [History.step, Step.committed]
    split
    · rename_i rows answered
      obtain ⟨cutoff, made, ⟨no, -⟩ | ⟨-, few, rfl⟩⟩ := checkAndRecord_eq_ok answered
      · cases no
      · exact counts.accept order made few
    · rename_i rows answered
      obtain ⟨cutoff, made, ⟨-, rfl⟩ | ⟨yes, -⟩⟩ := checkAndRecord_eq_ok answered
      · exact counts.drop order fun hotkey start small reaches =>
          rowsSince_dropExpired (cutoff_le made (waits.trans reaches) small)
      · cases yes
    · exact stays
  | sweep s =>
    have waits : s.clock.val ≤ s.committed.val := s.waits
    simp only [History.step, Step.committed]
    split
    · rename_i rows swept
      simp only [sweepExpiredAttempts, bind_eq_ok, pure_eq_ok] at swept
      obtain ⟨cutoff, made, rfl⟩ := swept
      exact counts.drop order fun hotkey start small reaches =>
        rowsSince_filter hotkey start (fun row => row.attemptedAt < cutoff)
          fun _ dropped => dropped.trans_le (cutoff_le made (waits.trans reaches) small)
    · exact counts.drop order fun _ _ _ _ => rfl

theorem counts_foldl (steps : List Step) (counts : Counts limit windowSeconds now history)
    (ordered : steps.Pairwise fun a b => a.committed ≤ b.committed)
    (later : ∀ next ∈ steps, now ≤ next.committed.val) :
    ∃ end_, Counts limit windowSeconds end_
      (steps.foldl (History.step limit windowSeconds) history) := by
  induction steps generalizing now history with
  | nil => exact ⟨now, counts⟩
  | cons next steps ih =>
    obtain ⟨first, rest⟩ := List.pairwise_cons.mp ordered
    exact ih (counts.step (later next List.mem_cons_self)) rest fun other member =>
      first other member

end Bound

/-- A refused attempt adds no row, drops only old rows of its hotkey, and any attempt whose
clock shows no earlier time is answered as if the refused one had not been made. -/
theorem refused_costs_nothing {limit windowSeconds : ℕ} {hotkey : Text} {began clock : DateTime}
    {rows rows' : List AttemptRow}
    (refused : checkAndRecordHotkeyAttempt limit windowSeconds hotkey began clock rows =
      .ok (false, rows')) :
    rows'.Sublist rows ∧ ∀ other began' (clock' : DateTime), clock ≤ clock' →
      (checkAndRecordHotkeyAttempt limit windowSeconds other began' clock' rows').map Prod.fst =
        (checkAndRecordHotkeyAttempt limit windowSeconds other began' clock' rows).map Prod.fst := by
  obtain ⟨cutoff, made, ⟨-, rfl⟩ | ⟨yes, -⟩⟩ := checkAndRecord_eq_ok refused
  · refine ⟨List.filter_sublist, fun other began' clock' order => ?_⟩
    cases made' : cutoffText clock' windowSeconds with
    | error fault =>
      simp only [checkAndRecordHotkeyAttempt, made']
      rfl
    | ok cutoff' =>
      have reaches : cutoff ≤ cutoff' := by
        simp only [cutoffText, bind_eq_ok, require_eq_ok, pure_eq_ok] at made made'
        obtain ⟨_, -, rfl⟩ := made
        obtain ⟨_, -, rfl⟩ := made'
        have bound := clock'.isLt
        exact canonicalSecond_mono (by omega) (Nat.sub_le_sub_right order _)
      have same : recentRows other cutoff' (dropExpired other cutoff'
          (dropExpired hotkey cutoff rows)) =
            recentRows other cutoff' (dropExpired other cutoff' rows) := by
        simp only [recentRows, dropExpired, List.filter_filter]
        refine List.filter_congr fun row _ => ?_
        rw [Bool.eq_iff_iff]
        simp only [Bool.and_eq_true, decide_eq_true_eq]
        refine ⟨fun both => ⟨both.1, both.2.1⟩, fun both => ⟨both.1, both.2, fun old => ?_⟩⟩
        exact absurd (both.1.2.trans_lt old.2) (not_lt.mpr reaches)
      simp only [checkAndRecordHotkeyAttempt, made', bind, Except.bind]
      by_cases full : limit ≤ (recentRows other cutoff' (dropExpired other cutoff' rows)).length
      · rw [if_pos (by rwa [same]), if_pos full]
        rfl
      · rw [if_neg (by rwa [same]), if_neg full]
        rfl
  · cases yes

/-- **The hotkey limit.** In every run, for every hotkey and every window, no more attempts
that lie in the window are accepted than the limit, whatever other attempts and sweeps come
between; and a refused attempt costs nothing. -/
theorem accepted_at_most (limit windowSeconds : ℕ) (steps : List Step)
    (ordered : steps.Pairwise fun a b => a.committed ≤ b.committed) :
    (∀ hotkey start, (attemptsWithin windowSeconds hotkey start
      (History.after limit windowSeconds steps).accepted).length ≤ limit) ∧
    ∀ hotkey began clock rows rows',
      checkAndRecordHotkeyAttempt limit windowSeconds hotkey began clock rows =
        .ok (false, rows') →
      rows'.Sublist rows ∧ ∀ other began' (clock' : DateTime), clock ≤ clock' →
        (checkAndRecordHotkeyAttempt limit windowSeconds other began' clock' rows').map Prod.fst =
          (checkAndRecordHotkeyAttempt limit windowSeconds other began' clock' rows).map
            Prod.fst := by
  have empty : Counts limit windowSeconds 0 ⟨[], []⟩ :=
    ⟨fun _ _ _ _ => le_refl _, fun _ _ => Nat.zero_le _⟩
  obtain ⟨end_, counts⟩ := counts_foldl steps empty ordered fun _ _ => Nat.zero_le _
  exact ⟨counts.limited, fun _ _ _ _ _ refused => refused_costs_nothing refused⟩

namespace SampleAttempts

/-- A second of 2024. -/
def second (n : ℕ) : DateTime := Fin.ofNat _ ((63839664000 + n) * 1000000)

def attemptAt (n : ℕ) : Attempt := ⟨"worker", second n, second n, second n, le_refl _, le_refl _⟩

/-- Two attempts with a sweep between them. -/
def steps : List Step :=
  [.attempt (attemptAt 0), .sweep ⟨second 30, second 30, le_refl _⟩, .attempt (attemptAt 60)]

theorem accepted_at_most_twice : (attemptsWithin 60 "worker" (second 0).val
    (History.after 1 60 steps).accepted).length ≤ 1 :=
  (accepted_at_most 1 60 steps (by decide +kernel)).1 "worker" (second 0).val

end SampleAttempts

end Cathedral.Enrollment
