import CathedralCompute.Ledger.Steps

/-!
# How epochs evolve

An epoch keeps its id and its source epoch, its status only moves forward, and
its report is written once. New epochs take ids that were never handed out.
-/

set_option autoImplicit false

namespace Cathedral.Ledger

open Codec Semantics

/-- The status an epoch may have later. -/
def EpochStatus.LeadsTo (before after : EpochStatus) : Prop :=
  after = before ∨ before = .running ∨
    (before = .complete ∧ (after = .published ∨ after = .abandoned))

instance (before after : EpochStatus) : Decidable (before.LeadsTo after) :=
  inferInstanceAs (Decidable (_ ∨ _))

theorem EpochStatus.LeadsTo.trans {a b c : EpochStatus} (first : a.LeadsTo b)
    (second : b.LeadsTo c) : a.LeadsTo c := by
  revert first second
  cases a <;> cases b <;> cases c <;> decide

/-- The row of an epoch at two times. -/
structure EpochRow.Evolves (row row' : EpochRow) : Prop where
  epochId : row'.epochId = row.epochId
  sourceEpoch : row'.sourceEpoch = row.sourceEpoch
  status : row.status.LeadsTo row'.status
  report : row.status ≠ .running →
    row'.reportBody = row.reportBody ∧ row'.reportDigest = row.reportDigest

theorem EpochRow.Evolves.refl (row : EpochRow) : row.Evolves row :=
  ⟨rfl, rfl, .inl rfl, fun _ => ⟨rfl, rfl⟩⟩

theorem EpochRow.Evolves.trans {a b c : EpochRow} (first : a.Evolves b) (second : b.Evolves c) :
    a.Evolves c where
  epochId := second.epochId.trans first.epochId
  sourceEpoch := second.sourceEpoch.trans first.sourceEpoch
  status := first.status.trans second.status
  report started := by
    have later : b.status ≠ .running := by
      intro running
      rcases first.status with same | running' | ⟨-, published | abandoned⟩
      · exact started (same.symm.trans running)
      · exact started running'
      · rw [published] at running
        cases running
      · rw [abandoned] at running
        cases running
    obtain ⟨body, digest⟩ := first.report started
    obtain ⟨body', digest'⟩ := second.report later
    exact ⟨body'.trans body, digest'.trans digest⟩

/-- Two states of the ledger, the second not before the first. -/
structure EpochsEvolve (s s' : State) : Prop where
  sequence : s.epochSequence ≤ s'.epochSequence
  kept : ∀ row ∈ s.epochs.rows, ∃ row' ∈ s'.epochs.rows, row.Evolves row'
  origin : ∀ row' ∈ s'.epochs.rows,
    (∃ row ∈ s.epochs.rows, row.Evolves row') ∨ s.epochSequence < row'.epochId

theorem EpochsEvolve.refl (s : State) : EpochsEvolve s s where
  sequence := le_rfl
  kept row member := ⟨row, member, .refl row⟩
  origin row member := .inl ⟨row, member, .refl row⟩


theorem EpochsEvolve.trans {a b c : State} (first : EpochsEvolve a b)
    (second : EpochsEvolve b c) : EpochsEvolve a c where
  sequence := first.sequence.trans second.sequence
  kept row member := by
    obtain ⟨row', member', evolves⟩ := first.kept row member
    obtain ⟨row'', member'', evolves'⟩ := second.kept row' member'
    exact ⟨row'', member'', evolves.trans evolves'⟩
  origin row'' member'' := by
    rcases second.origin row'' member'' with ⟨row', member', evolves'⟩ | fresh
    · rcases first.origin row' member' with ⟨row, member, evolves⟩ | fresh
      · exact .inl ⟨row, member, evolves.trans evolves'⟩
      · exact .inr (evolves'.epochId ▸ fresh)
    · exact .inr (first.sequence.trans_lt fresh)

/-- The epochs of two states correspond, with the sequence unchanged. -/
structure SameEpochs (s s' : State) : Prop where
  sequence : s'.epochSequence = s.epochSequence
  kept : ∀ row ∈ s.epochs.rows, ∃ row' ∈ s'.epochs.rows, row.Evolves row'
  origin : ∀ row' ∈ s'.epochs.rows, ∃ row ∈ s.epochs.rows, row.Evolves row'

theorem SameEpochs.of_epochs {s s' : State} (sequence : s'.epochSequence = s.epochSequence)
    (same : s'.epochs = s.epochs) : SameEpochs s s' where
  sequence := sequence
  kept row member := ⟨row, same ▸ member, .refl row⟩
  origin row member := ⟨row, same ▸ member, .refl row⟩

/-- Rewriting the row of one epoch. -/
theorem SameEpochs.of_update {s s' : State} {row : EpochRow} {f : EpochRow → EpochRow}
    (member : row ∈ s.epochs.rows) (evolves : row.Evolves (f row))
    (sequence : s'.epochSequence = s.epochSequence)
    (epochs : s'.epochs.rows =
      s.epochs.rows.map fun other => if other.epochId = row.epochId then f other else other) :
    SameEpochs s s' := by
  have only : ∀ other ∈ s.epochs.rows, other.epochId = row.epochId → other = row :=
    fun other member' same => Table.eq_of_key member' member same
  refine ⟨sequence, fun other member' => ?_, fun other member' => ?_⟩
  · rw [epochs]
    by_cases same : other.epochId = row.epochId
    · obtain rfl := only other member' same
      exact ⟨f other, List.mem_map.mpr ⟨other, member', if_pos same⟩, evolves⟩
    · exact ⟨other, List.mem_map.mpr ⟨other, member', if_neg same⟩, .refl other⟩
  · rw [epochs] at member'
    obtain ⟨old, before, rfl⟩ := Table.exists_of_mem_update member'
    refine ⟨old, before, ?_⟩
    split
    case isTrue same =>
      obtain rfl := only old before same
      exact evolves
    case isFalse => exact .refl old

/-- An epoch begins: no other blocks it, and its source epoch is above every
finalized one. -/
structure Begins (s s' : State) (row : EpochRow) : Prop where
  idle : ∀ row ∈ s.epochs.rows, ¬ row.IsBlocking
  above : ∀ last ∈ lastFinal s, last < row.sourceEpoch
  named : row.epochId = s.epochSequence + 1
  running : row.status = .running
  sequence : s'.epochSequence = s.epochSequence + 1
  mem : ∀ other, other ∈ s'.epochs.rows ↔ other ∈ s.epochs.rows ∨ other = row

/-- **Epochs only move forward.** A change begins an epoch or keeps them all. -/
theorem epochs_of_step {p : Platform} {scope : Scope} {s s' : State}
    (change : Step p scope s s') : (∃ row, Begins s s' row) ∨ SameEpochs s s' := by
  cases change with
  | beginEpoch idle above inserted =>
    exact .inl ⟨_, idle, above, rfl, rfl, rfl, fun _ => Table.mem_insert inserted⟩
  | abortEpoch member running released =>
    exact .inr (.of_update member
      ⟨rfl, rfl, .inr (.inl running), fun started => absurd running started⟩ rfl rfl)
  | freezeEpoch member running frozen =>
    obtain ⟨time, generatedAt, audience, body, table, -, -, rfl⟩ := frozen.changed
    exact .inr (.of_update member
      ⟨rfl, rfl, .inr (.inl running), fun started => absurd running started⟩ rfl rfl)
  | abandonEpoch now reason member complete =>
    exact .inr (.of_update member
      ⟨rfl, rfl, .inr (.inr ⟨complete, .inr rfl⟩), fun _ => ⟨rfl, rfl⟩⟩ rfl rfl)
  | publishEpoch now member complete =>
    exact .inr (.of_update member
      ⟨rfl, rfl, .inr (.inr ⟨complete, .inl rfl⟩), fun _ => ⟨rfl, rfl⟩⟩ rfl rfl)
  | _ => exact .inr (.of_epochs rfl rfl)

theorem EpochsEvolve.of_step {p : Platform} {scope : Scope} {s s' : State}
    (change : Step p scope s s') : EpochsEvolve s s' := by
  rcases epochs_of_step change with ⟨row, begun⟩ | same
  · refine ⟨begun.sequence ▸ Nat.le_succ _, fun old member => ?_, fun other member => ?_⟩
    · exact ⟨old, (begun.mem old).mpr (.inl member), .refl old⟩
    · rcases (begun.mem other).mp member with old | rfl
      · exact .inl ⟨other, old, .refl other⟩
      · exact .inr (begun.named ▸ Nat.lt_succ_self _)
  · exact ⟨same.sequence.ge, same.kept, fun row member => .inl (same.origin row member)⟩

theorem EpochsEvolve.of_runOps {p : Platform} (s : State) (ops : List Op) :
    EpochsEvolve s (runOps p s ops) :=
  relation_runOps (p := p) (I := fun _ => True) EpochsEvolve.refl EpochsEvolve.trans
    (fun _ _ => trivial) (fun _ change => .of_step change) trivial ops

end Cathedral.Ledger
