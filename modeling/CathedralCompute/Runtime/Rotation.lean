import CathedralCompute.Launch
import CathedralCompute.Runtime.Admission
import CathedralCompute.Semantics.Rotation

/-!
# Which workers get scored work

A report may carry so many verified candidates and no more. When more workers are
eligible, the runtime orders them by hotkey and gives scored work to a window of them,
which moves by one worker with every source epoch. The others get an outcome that says so.

## Main results

* `selected_evenly` — over as many epochs as there are workers, all are selected equally
  often
-/

set_option autoImplicit false

namespace Cathedral.Runtime

open Codec Semantics

/-- What the surplus is told. -/
def notSelectedError (count : ℕ) : Text :=
  "eligible but not selected this epoch: the fleet exceeds the " ++
    Text.ofString "launch verified-candidate limit (" ++ natText count ++
    Text.ofString " eligible > " ++ natText maxLaunchVerifiedCandidates ++
    Text.ofString "); selection rotates by " ++
    Text.ofString "source_epoch, so this miner is scored in a later epoch"

/-- The outcome of an eligible worker outside the window. -/
def AttestationResult.notSelected (result : AttestationResult) (count : ℕ) : MinerOutcome where
  hotkey := result.hotkey
  endpointUrl := result.endpoint
  status := "not_selected_for_scored_work"
  admitted := true
  error := some (notSelectedError count)
  assurance := result.attested.assurance

/-- `sorted(eligible, key=...hotkey)`. -/
def orderedByHotkey (eligible : List AttestationResult) : List AttestationResult :=
  eligible.insertionSort fun a b => a.hotkey ≤ b.hotkey

/-- The hotkeys the window shows in a source epoch. -/
def chosenHotkeys (ordered : List AttestationResult) (sourceEpoch : ℤ) : List Text :=
  (window ordered (sourceEpoch % ordered.length).toNat maxLaunchVerifiedCandidates).map
    AttestationResult.hotkey

/-- The part of `_run_sat` that caps scored dispatch: who gets scored work, in the order
they came, and the outcomes of the others. -/
def selectForScoredWork (eligible : List AttestationResult) (sourceEpoch : ℤ) :
    List AttestationResult × List MinerOutcome :=
  if maxLaunchVerifiedCandidates < eligible.length then
    let ordered := orderedByHotkey eligible
    let chosen := chosenHotkeys ordered sourceEpoch
    (eligible.filter fun result => result.hotkey ∈ chosen,
      (ordered.filter fun result => result.hotkey ∉ chosen).map fun result =>
        result.notSelected ordered.length)
  else (eligible, [])

/-- The hotkeys that get scored work. -/
def selectedHotkeys (eligible : List AttestationResult) (sourceEpoch : ℤ) : List Text :=
  (selectForScoredWork eligible sourceEpoch).1.map AttestationResult.hotkey

/-- The hotkeys in order. -/
def sortedHotkeys (hotkeys : List Text) : List Text := hotkeys.insertionSort (· ≤ ·)

theorem map_orderedByHotkey (eligible : List AttestationResult) :
    (orderedByHotkey eligible).map AttestationResult.hotkey =
      sortedHotkeys (eligible.map AttestationResult.hotkey) := by
  unfold orderedByHotkey sortedHotkeys
  exact (List.map_insertionSort _ _ _ _ fun a _ b _ => Iff.rfl)

theorem map_window {α β : Type} (f : α → β) (l : List α) (start width : ℕ) :
    (window l start width).map f = window (l.map f) start width := by
  simp only [window, List.map_take, List.map_append, List.map_drop]

/-- The window depends on the set of hotkeys only. -/
theorem chosenHotkeys_eq {eligible : List AttestationResult} {hotkeys : List Text}
    (same : (eligible.map AttestationResult.hotkey).Perm hotkeys) (sourceEpoch : ℤ) :
    chosenHotkeys (orderedByHotkey eligible) sourceEpoch =
      window (sortedHotkeys hotkeys) (sourceEpoch % hotkeys.length).toNat
        maxLaunchVerifiedCandidates := by
  have count : (orderedByHotkey eligible).length = hotkeys.length := by
    rw [orderedByHotkey, List.length_insertionSort, ← same.length_eq, List.length_map]
  have sorted : sortedHotkeys (eligible.map AttestationResult.hotkey) = sortedHotkeys hotkeys :=
    List.Perm.eq_of_pairwise' (List.pairwise_insertionSort _ _) (List.pairwise_insertionSort _ _)
      (((List.perm_insertionSort _ _).trans same).trans (List.perm_insertionSort _ _).symm)
  rw [chosenHotkeys, map_window, map_orderedByHotkey, sorted, count]

section Surplus

variable {eligible : List AttestationResult} {hotkeys : List Text} {sourceEpoch : ℤ}

theorem start_lt {n : ℕ} (positive : 0 < n) (sourceEpoch : ℤ) :
    (sourceEpoch % n).toNat < n := by
  have nonnegative := Int.emod_nonneg sourceEpoch (show (n : ℤ) ≠ 0 by omega)
  have bound := Int.emod_lt_of_pos sourceEpoch (show (0 : ℤ) < n by omega)
  omega

theorem length_sortedHotkeys (hotkeys : List Text) :
    (sortedHotkeys hotkeys).length = hotkeys.length :=
  List.length_insertionSort _ _

theorem nodup_sortedHotkeys (distinct : hotkeys.Nodup) : (sortedHotkeys hotkeys).Nodup :=
  (List.perm_insertionSort _ _).nodup_iff.mpr distinct

/-- With a surplus, a hotkey is selected if the window shows it. -/
theorem mem_selectedHotkeys_iff (same : (eligible.map AttestationResult.hotkey).Perm hotkeys)
    (surplus : maxLaunchVerifiedCandidates < hotkeys.length) {hotkey : Text} :
    hotkey ∈ selectedHotkeys eligible sourceEpoch ↔
      hotkey ∈ window (sortedHotkeys hotkeys) (sourceEpoch % hotkeys.length).toNat
        maxLaunchVerifiedCandidates := by
  have count : eligible.length = hotkeys.length := by rw [← same.length_eq, List.length_map]
  rw [selectedHotkeys, selectForScoredWork, if_pos (by omega)]
  simp only [List.mem_map, List.mem_filter, decide_eq_true_eq, chosenHotkeys_eq same]
  constructor
  · rintro ⟨result, ⟨-, shown⟩, rfl⟩
    exact shown
  · intro shown
    have listed := (List.mem_insertionSort _).mp (mem_of_mem_window shown)
    obtain ⟨result, member, rfl⟩ := List.mem_map.mp (same.mem_iff.mpr listed)
    exact ⟨result, ⟨member, shown⟩, rfl⟩

/-- With a surplus, the selected hotkeys are those in the window. -/
theorem perm_selectedHotkeys (distinct : hotkeys.Nodup)
    (same : (eligible.map AttestationResult.hotkey).Perm hotkeys)
    (surplus : maxLaunchVerifiedCandidates < hotkeys.length) (sourceEpoch : ℤ) :
    (selectedHotkeys eligible sourceEpoch).Perm
      (window (sortedHotkeys hotkeys) (sourceEpoch % hotkeys.length).toNat
        maxLaunchVerifiedCandidates) := by
  have count : eligible.length = hotkeys.length := by rw [← same.length_eq, List.length_map]
  have selected : (selectedHotkeys eligible sourceEpoch).Nodup := by
    rw [selectedHotkeys, selectForScoredWork, if_pos (by omega)]
    exact (same.nodup_iff.mpr distinct).sublist (List.filter_sublist.map _)
  have inside := start_lt (show 0 < hotkeys.length by omega) sourceEpoch
  have shown : (window (sortedHotkeys hotkeys) (sourceEpoch % hotkeys.length).toNat
      maxLaunchVerifiedCandidates).Nodup :=
    nodup_window (nodup_sortedHotkeys distinct) (by rw [length_sortedHotkeys]; exact inside.le) _
  exact (List.perm_ext_iff_of_nodup selected shown).mpr fun hotkey =>
    mem_selectedHotkeys_iff same surplus

/-- With a surplus, the outcomes are those of the workers that were not selected. -/
theorem outcome_of_not_selected (same : (eligible.map AttestationResult.hotkey).Perm hotkeys)
    (surplus : maxLaunchVerifiedCandidates < hotkeys.length) {result : AttestationResult}
    (member : result ∈ eligible) :
    result.hotkey ∉ selectedHotkeys eligible sourceEpoch ↔
      result.notSelected hotkeys.length ∈ (selectForScoredWork eligible sourceEpoch).2 := by
  have count : eligible.length = hotkeys.length := by rw [← same.length_eq, List.length_map]
  have ordered : (orderedByHotkey eligible).length = hotkeys.length := by
    rw [orderedByHotkey, List.length_insertionSort, count]
  rw [mem_selectedHotkeys_iff same surplus, selectForScoredWork, if_pos (by omega)]
  simp only [List.mem_map, List.mem_filter, decide_eq_true_eq, chosenHotkeys_eq same, ordered]
  constructor
  · intro hidden
    exact ⟨result, ⟨(List.mem_insertionSort _).mpr member, hidden⟩, rfl⟩
  · rintro ⟨other, ⟨-, hidden⟩, outcome⟩
    rwa [← show other.hotkey = result.hotkey from congrArg MinerOutcome.hotkey outcome]

end Surplus

/-- **Fair rotation.** While the set of eligible hotkeys stays the same: with more of them
than the limit, every source epoch selects the limit's number of distinct hotkeys and tells
each of the others so, and over as many consecutive epochs as there are hotkeys every hotkey
is selected the limit's number of times. With no more than the limit all are selected. -/
theorem selected_evenly (hotkeys : List Text) (distinct : hotkeys.Nodup) (first : ℤ)
    (eligible : ℕ → List AttestationResult)
    (same : ∀ epoch, ((eligible epoch).map AttestationResult.hotkey).Perm hotkeys) :
    (maxLaunchVerifiedCandidates < hotkeys.length →
      (∀ epoch : ℕ, (selectedHotkeys (eligible epoch) (first + epoch)).Nodup ∧
        (selectedHotkeys (eligible epoch) (first + epoch)).length = maxLaunchVerifiedCandidates ∧
        (∀ hotkey ∈ selectedHotkeys (eligible epoch) (first + epoch), hotkey ∈ hotkeys) ∧
        ∀ result ∈ eligible epoch,
          (result.hotkey ∉ selectedHotkeys (eligible epoch) (first + epoch) ↔
            result.notSelected hotkeys.length ∈
              (selectForScoredWork (eligible epoch) (first + epoch)).2)) ∧
      ∀ hotkey ∈ hotkeys, ((Finset.range hotkeys.length).filter fun epoch : ℕ =>
        hotkey ∈ selectedHotkeys (eligible epoch) (first + epoch)).card =
          maxLaunchVerifiedCandidates) ∧
    (hotkeys.length ≤ maxLaunchVerifiedCandidates → ∀ epoch : ℕ,
      selectForScoredWork (eligible epoch) (first + epoch) = (eligible epoch, [])) := by
  refine ⟨fun surplus => ⟨fun epoch => ?_, fun hotkey member => ?_⟩, fun few epoch => ?_⟩
  · -- the selected are a window on the circle of the sorted hotkeys
    have selected := perm_selectedHotkeys distinct (same epoch) surplus (first + epoch)
    have inside := start_lt (show 0 < hotkeys.length by omega) (first + epoch)
    have within : ((first + epoch) % hotkeys.length).toNat ≤ (sortedHotkeys hotkeys).length := by
      rw [length_sortedHotkeys]
      exact inside.le
    have shown := nodup_window (nodup_sortedHotkeys distinct) within maxLaunchVerifiedCandidates
    refine ⟨selected.nodup_iff.mpr shown, ?_, fun hotkey chosen => ?_, fun result member =>
      outcome_of_not_selected (same epoch) surplus member⟩
    · rw [selected.length_eq, length_window within (by rw [length_sortedHotkeys]; exact surplus.le)]
    · exact (List.mem_insertionSort _).mp (mem_of_mem_window (selected.mem_iff.mp chosen))
  · have fits : maxLaunchVerifiedCandidates ≤ (sortedHotkeys hotkeys).length := by
      rw [length_sortedHotkeys]
      exact surplus.le
    -- the window meets a hotkey once for each of its places
    have turns := card_turns (nodup_sortedHotkeys distinct) fits first
      ((List.mem_insertionSort _).mpr member)
    rw [length_sortedHotkeys] at turns
    refine Eq.trans (congrArg Finset.card (Finset.filter_congr fun epoch _ => ?_)) turns
    exact mem_selectedHotkeys_iff (same epoch) surplus
  · have count : (eligible epoch).length = hotkeys.length := by
      rw [← (same epoch).length_eq, List.length_map]
    rw [selectForScoredWork, if_neg (by omega)]

/-! ## A run -/

namespace SampleRotation

/-- One more worker than may be selected. -/
def hotkeys : List Text := (List.range 29).map fun n => [Fin.ofNat _ (97 + n)]

def candidate (hotkey : Text) : AttestationResult where
  target := ⟨hotkey, "https://1.1.1.1:8443", none⟩
  endpoint := "https://1.1.1.1:8443"
  attested := Registry.sampleAttested
  policyMode := some "strict"
  evidenceDigest := "evidence"
  envelopeDigest := none
  challengeDigest := none
  componentAudit := none
  gpuComponent := none
  lifecycleGeneration := some 1
  lifecycleRevision := some 1

theorem hotkey_candidates :
    (hotkeys.map candidate).map AttestationResult.hotkey = hotkeys := by
  rw [List.map_map]
  exact List.map_id _

theorem selected_evenly_surplus : hotkeys ≠ [] ∧ ∀ hotkey ∈ hotkeys,
    ((Finset.range hotkeys.length).filter fun epoch : ℕ =>
      hotkey ∈ selectedHotkeys (hotkeys.map candidate) (7 + epoch)).card = 28 :=
  ⟨by decide, ((selected_evenly hotkeys (by decide) 7 (fun _ => hotkeys.map candidate)
    fun _ => hotkey_candidates ▸ List.Perm.refl _).1 (by decide)).2⟩

end SampleRotation

end Cathedral.Runtime
