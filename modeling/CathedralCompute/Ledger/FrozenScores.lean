import CathedralCompute.Ledger.Freeze

/-!
# The frozen score vector

The rows of `epoch_scores` that belong to one epoch hold the units each hotkey
was paid for and its score. In every reachable state the scores are these units
relative to the largest (`ScoresNormalized.of_reachable`), so the vector can be
read off the rows alone, long after the tables it was computed from were pruned.
-/

set_option autoImplicit false

namespace Cathedral.Ledger

open Codec Semantics

/-- The amount listed for a hotkey, zero when there is none. -/
def amountOf (entries : List (Text × ℚ≥0)) (hotkey : Text) : ℚ≥0 :=
  (entries.lookup hotkey).getD 0

theorem amountOf_of_mem {entries : List (Text × ℚ≥0)} (distinct : (entries.map Prod.fst).Nodup)
    {entry : Text × ℚ≥0} (member : entry ∈ entries) : amountOf entries entry.1 = entry.2 := by
  unfold amountOf
  induction entries with
  | nil => cases member
  | cons first entries ih =>
    rw [List.map_cons, List.nodup_cons] at distinct
    rcases List.mem_cons.mp member with rfl | later
    · rw [List.lookup_cons_self]
      rfl
    · have other : (entry.1 == first.1) = false := by
        rw [beq_eq_false_iff_ne]
        intro same
        exact distinct.1 (same ▸ List.mem_map.mpr ⟨entry, later, rfl⟩)
      rw [List.lookup_cons, other]
      exact ih distinct.2 later

theorem amountOf_eq_zero {entries : List (Text × ℚ≥0)} {hotkey : Text}
    (absent : hotkey ∉ entries.map Prod.fst) : amountOf entries hotkey = 0 := by
  have unlisted : entries.lookup hotkey = none := by
    rw [List.lookup_eq_none_iff]
    intro entry member
    rw [bne_iff_ne]
    rintro rfl
    exact absent (List.mem_map.mpr ⟨entry, member, rfl⟩)
  rw [amountOf, unlisted]
  rfl

/-! ## The rows of an epoch -/

/-- The frozen rows of an epoch. -/
def scoresOf (s : State) (epochId : ℕ) : List ScoreRow :=
  s.scores.select fun row => row.epochId = epochId

/-- The units frozen for a hotkey. -/
def frozenUnits (rows : List ScoreRow) (hotkey : Text) : ℚ≥0 :=
  amountOf (rows.map fun row => (row.hotkey, row.workUnits)) hotkey

/-- The hotkeys of the rows. -/
def frozenHotkeys (rows : List ScoreRow) : Finset Text := (rows.map ScoreRow.hotkey).toFinset

theorem mem_scoresOf {s : State} {epochId : ℕ} {row : ScoreRow} :
    row ∈ scoresOf s epochId ↔ row ∈ s.scores.rows ∧ row.epochId = epochId :=
  Table.mem_select

/-- An epoch has one row for each hotkey. -/
theorem nodup_scoresOf (s : State) (epochId : ℕ) :
    ((scoresOf s epochId).map ScoreRow.hotkey).Nodup := by
  have rows : (scoresOf s epochId).Nodup := s.scores.unique.of_map.filter _
  refine rows.map_on fun row member row' member' same => ?_
  obtain ⟨listed, named⟩ := mem_scoresOf.mp member
  obtain ⟨listed', named'⟩ := mem_scoresOf.mp member'
  exact Table.eq_of_key listed listed' (Prod.ext (named.trans named'.symm) same)

theorem frozenUnits_of_mem {s : State} {epochId : ℕ} {row : ScoreRow}
    (member : row ∈ scoresOf s epochId) :
    frozenUnits (scoresOf s epochId) row.hotkey = row.workUnits := by
  refine amountOf_of_mem ?_ (List.mem_map.mpr ⟨row, member, rfl⟩)
  rw [List.map_map]
  exact nodup_scoresOf s epochId

theorem frozenUnits_eq_zero {rows : List ScoreRow} {hotkey : Text}
    (absent : hotkey ∉ frozenHotkeys rows) : frozenUnits rows hotkey = 0 := by
  apply amountOf_eq_zero
  simpa [frozenHotkeys] using absent

/-! ## Normalized scores -/

/-- Each score is the row's units relative to the largest of its epoch. -/
def ScoresNormalized (s : State) : Prop :=
  ∀ epochId, ∀ row ∈ scoresOf s epochId, row.score =
    byMaximum (frozenHotkeys (scoresOf s epochId)) (frozenUnits (scoresOf s epochId)) row.hotkey

theorem ScoresNormalized.initial : ScoresNormalized .initial :=
  fun _ _ none => (nomatch none)

/-- The rows a completion adds are the rows of its epoch. -/
theorem Freezing.scoresOf {p : Platform} {epoch : EpochRow} {s s' : State}
    {scores : List (Text × ℚ≥0)} {allHotkeys : List Text}
    (frozen : Freezing p epoch s scores s' allHotkeys)
    (fresh : ∀ score ∈ s.scores.rows, score.epochId ≠ epoch.epochId) (epochId : ℕ) :
    Ledger.scoresOf s' epochId =
      if epochId = epoch.epochId then scoreRows s epoch.epochId scores
      else Ledger.scoresOf s epochId := by
  obtain ⟨time, generatedAt, audience, body, table, -, rows, rfl⟩ := frozen.changed
  simp only [Ledger.scoresOf, Table.select, rows, List.filter_append, scoreRows, List.filter_map,
    Function.comp_def]
  split
  case isTrue same =>
    subst same
    have none : s.scores.rows.filter (fun row => row.epochId = epoch.epochId) = [] :=
      List.filter_eq_nil_iff.mpr fun score listed => by simpa using fresh score listed
    rw [none]
    simp
  case isFalse other =>
    have different : ¬ epoch.epochId = epochId := fun same => other same.symm
    simp [different]

theorem ScoresNormalized.of_freezing {p : Platform} {epoch : EpochRow} {s s' : State}
    {scores : List (Text × ℚ≥0)} {allHotkeys : List Text} (h : ScoresNormalized s)
    (frozen : Freezing p epoch s scores s' allHotkeys)
    (fresh : ∀ score ∈ s.scores.rows, score.epochId ≠ epoch.epochId) : ScoresNormalized s' := by
  intro epochId row member
  rw [frozen.scoresOf fresh] at member ⊢
  split at member
  case isFalse other =>
    rw [if_neg other]
    exact h epochId row member
  case isTrue same =>
    rw [if_pos same]
    obtain ⟨entry, listed, rfl⟩ := List.mem_map.mp member
    -- The rows carry the units the scores were computed from.
    have hotkeys : frozenHotkeys (scoreRows s epoch.epochId scores) =
        (scores.map Prod.fst).toFinset := by
      simp [frozenHotkeys, scoreRows, Function.comp_def]
    have distinct : (scores.map Prod.fst).Nodup := by
      rw [frozen.hotkeys]
      exact (scoredHotkeys_pairwise allHotkeys).imp fun less => ne_of_lt less
    have units : ∀ hotkey ∈ (scores.map Prod.fst).toFinset,
        frozenUnits (scoreRows s epoch.epochId scores) hotkey =
          earnedUnits s epoch.epochId hotkey := by
      intro hotkey named
      obtain ⟨other, listed', rfl⟩ := List.mem_map.mp (List.mem_toFinset.mp named)
      rw [frozenUnits, scoreRows, List.map_map, ← gatedUnits_eq_earnedUnits]
      refine amountOf_of_mem ?_ (List.mem_map.mpr ⟨other, listed', rfl⟩)
      rw [List.map_map]
      exact distinct
    have named : entry.1 ∈ (scores.map Prod.fst).toFinset :=
      List.mem_toFinset.mpr (List.mem_map.mpr ⟨entry, listed, rfl⟩)
    rw [hotkeys, byMaximum, units entry.1 named, Finset.sup_congr rfl units]
    exact (frozen.mem_scores.mp listed).2

/-- The rows of an epoch change only when it is completed. -/
theorem ScoresNormalized.of_step {p : Platform} {s s' : State} (invariant : FreezeInvariant s)
    (h : ScoresNormalized s) (change : FreeStep p s s') : ScoresNormalized s' := by
  cases change with
  | freezeEpoch member running frozen =>
    refine h.of_freezing frozen fun score listed same => ?_
    exact (invariant.scored score listed).2 _ member same.symm running
  | _ => exact h

theorem ScoresNormalized.of_reachable {p : Platform} {s : State} (reachable : Reachable p s) :
    ScoresNormalized s := by
  have both : FreezeInvariant s ∧ ScoresNormalized s := by
    apply reachable.of_changes (I := fun s => FreezeInvariant s ∧ ScoresNormalized s)
    · exact ⟨.initial, .initial⟩
    · exact fun both change => ⟨both.1.of_step change, both.2.of_step both.1 change⟩
  exact both.2

end Cathedral.Ledger
