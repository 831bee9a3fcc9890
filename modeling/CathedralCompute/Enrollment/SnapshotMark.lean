import CathedralCompute.Platform
import CathedralCompute.Semantics.Table

/-!
# The high-water mark of registration snapshots

For each subnet the store keeps the height of the last snapshot it relied on, and the
digest of its content. A row of an older release has no digest. A check refuses a snapshot
below the mark, and one at the mark unless it has the digest of the mark; a check that
advances also moves the mark up. Each check is one transaction, so every interleaving of
callers is a sequence of checks.

## Main results

* `accepted_in_order` — accepted heights never decrease and one height has one digest
-/

set_option autoImplicit false

namespace Cathedral.Enrollment.SnapshotMark

open Codec Semantics

def maxNetuid : ℤ := 65535

def maxSnapshotBlock : ℤ := 2 ^ 53

/-- A row of `registration_snapshot_high_water`. -/
structure MarkRow where
  network : Text
  netuid : ℤ
  block : ℤ
  snapshotDigest : Option Text

/-- The subnet of a row. -/
def MarkRow.subnet (row : MarkRow) : Text × ℤ := (row.network, row.netuid)

abbrev MarkTable := Table MarkRow.subnet

/-- `NETWORK_RE`. -/
def isNetwork : Text → Bool
  | [] => false
  | c :: rest => Text.inRange 'a' 'z' c && rest.length ≤ 31 && rest.all fun c =>
      Text.inRange 'a' 'z' c || Text.isDigit c || c = 0x5f || c = 0x2d

/-- The arguments of a check. -/
structure Check where
  network : Text
  netuid : ℤ
  block : ℤ
  snapshotDigest : Text
  advance : Bool

def Check.subnet (check : Check) : Text × ℤ := (check.network, check.netuid)

/-- The row a check leaves when it moves the mark. -/
def Check.row (check : Check) : MarkRow :=
  ⟨check.network, check.netuid, check.block, some check.snapshotDigest⟩

/-- What `check_registration_snapshot_block` asks of its arguments. -/
def Check.validate (check : Check) : Except Failure Unit := do
  require (isNetwork check.network)
    (.valueError "network must be a bounded lowercase identifier")
  require (0 ≤ check.netuid ∧ check.netuid ≤ maxNetuid)
    (.valueError "netuid must be an integer within the subnet range")
  require (0 < check.block ∧ check.block ≤ maxSnapshotBlock)
    (.valueError "snapshot block must be a bounded positive integer")
  require (Text.isDigest "sha256:" check.snapshotDigest)
    (.valueError "snapshot digest must be canonical sha256")

/-- Whether the stored row speaks against the snapshot. -/
def MarkRow.refuses (row : MarkRow) (check : Check) : Bool :=
  row.snapshotDigest.any (fun digest => ¬ Text.isDigest "sha256:" digest) ||
    check.block < row.block ||
    (row.snapshotDigest = none && check.block = row.block) ||
    (check.block = row.block && row.snapshotDigest.any (· ≠ check.snapshotDigest))

/-- The table with the mark moved up to the snapshot. -/
def raise (check : Check) (t : MarkTable) : MarkTable :=
  t.update (fun row => row.subnet = check.subnet)
    (fun row => { row with block := check.block, snapshotDigest := some check.snapshotDigest })

/-- `check_registration_snapshot_block`. -/
def checkRegistrationSnapshotBlock (check : Check) (t : MarkTable) :
    Except Failure (Bool × MarkTable) := do
  check.validate
  match t.find? check.subnet with
  | none =>
    if check.advance then
      let t ← demand .integrityError (t.insert check.row)
      return (true, t)
    else return (true, t)
  | some row =>
    if row.refuses check then return (false, t)
    else return (true, if check.advance ∧ row.block < check.block then raise check t else t)

/-! ## What a check does -/

/-- The height and the digest of a subnet's mark. -/
def mark (t : MarkTable) (subnet : Text × ℤ) : Option (ℤ × Option Text) :=
  (t.find? subnet).map fun row => (row.block, row.snapshotDigest)

theorem refuses_iff {row : MarkRow} {check : Check} :
    row.refuses check = false ↔
      (∀ digest ∈ row.snapshotDigest, Text.isDigest "sha256:" digest = true) ∧
        row.block ≤ check.block ∧
        (check.block = row.block → row.snapshotDigest = some check.snapshotDigest) := by
  unfold MarkRow.refuses
  rcases row with ⟨network, netuid, block, _ | digest⟩
  · simp
  · simp
    tauto

/-- An accepted check that advances sets the mark of its subnet, which was no higher, and
had the same digest if it was as high; the marks of the other subnets stay. -/
theorem mark_of_advance {check : Check} {t t' : MarkTable} (advance : check.advance = true)
    (accepted : checkRegistrationSnapshotBlock check t = .ok (true, t')) :
    mark t' check.subnet = some (check.block, some check.snapshotDigest) ∧
      (∀ old ∈ mark t check.subnet, old.1 ≤ check.block ∧
        (old.1 = check.block → old.2 = some check.snapshotDigest)) ∧
      ∀ other, other ≠ check.subnet → mark t' other = mark t other := by
  simp only [checkRegistrationSnapshotBlock, bind_eq_ok] at accepted
  obtain ⟨_, -, answer⟩ := accepted
  split at answer
  -- the first snapshot of a subnet sets its mark
  case h_1 absent =>
    rw [if_pos advance] at answer
    simp only [bind_eq_ok, demand_eq_ok, pure_eq_ok, Prod.mk.injEq, true_and] at answer
    obtain ⟨_, inserted, rfl⟩ := answer
    refine ⟨?_, by simp [mark, absent], fun other differs => ?_⟩
    · rw [mark, Table.find?_insert inserted, if_pos (show check.row.subnet = check.subnet from rfl)]
      rfl
    · rw [mark, Table.find?_insert inserted,
        if_neg (show ¬ check.row.subnet = other from Ne.symm differs)]
      rfl
  case h_2 row found =>
    split at answer
    case isTrue => simp at answer
    case isFalse stands =>
      simp only [pure_eq_ok, Prod.mk.injEq, true_and, advance] at answer
      obtain ⟨-, low, agrees⟩ := refuses_iff.mp (by simpa using stands)
      have keyed : row.subnet = check.subnet := (Table.find?_eq_some.mp found).2
      have known : ∀ old ∈ mark t check.subnet, old.1 ≤ check.block ∧
          (old.1 = check.block → old.2 = some check.snapshotDigest) := by
        intro old present
        rw [mark, found] at present
        cases present
        exact ⟨low, fun same => agrees same.symm⟩
      -- a higher one moves it up, one at the same height has the same digest
      by_cases higher : row.block < check.block
      · rw [if_pos higher] at answer
        rw [← answer]
        refine ⟨?_, known, fun other differs => ?_⟩
        · rw [mark, raise, Table.find?_update, found, Option.map_some, Option.map_some,
            if_pos keyed]
        · rw [mark, mark, raise, Table.find?_update]
          cases stored : t.find? other with
          | none => rfl
          | some row' =>
            have keyed' : row'.subnet ≠ check.subnet :=
              fun same => differs ((Table.find?_eq_some.mp stored).2.symm.trans same)
            rw [Option.map_some, Option.map_some, if_neg keyed', Option.map_some]
      · have same : row.block = check.block := le_antisymm low (not_lt.mp higher)
        rw [if_neg higher] at answer
        rw [← answer]
        refine ⟨?_, known, fun _ _ => rfl⟩
        rw [mark, found, Option.map_some, same, agrees same.symm]

/-- A check that does not advance, is refused or raises changes nothing. -/
theorem unchanged {check : Check} {t t' : MarkTable} {accepted : Bool}
    (idle : accepted = false ∨ check.advance = false)
    (answered : checkRegistrationSnapshotBlock check t = .ok (accepted, t')) : t' = t := by
  simp only [checkRegistrationSnapshotBlock, bind_eq_ok] at answered
  obtain ⟨_, -, answer⟩ := answered
  rcases idle with rfl | still
  · split at answer
    · split at answer
      · simp only [bind_eq_ok, pure_eq_ok, Prod.mk.injEq] at answer
        obtain ⟨_, -, yes, -⟩ := answer
        cases yes
      · cases answer
    · split at answer
      · cases answer
        rfl
      · simp at answer
  · split at answer
    · rw [if_neg (by simp [still])] at answer
      cases answer
      rfl
    · split at answer
      · cases answer
        rfl
      · simp [still] at answer
        exact answer.2.symm

/-- A snapshot below the mark, or at the mark without its digest, is refused and changes
nothing. -/
theorem refused_of_mark {check : Check} {t t' : MarkTable} {accepted : Bool}
    {old : ℤ × Option Text} (stored : mark t check.subnet = some old)
    (against : check.block < old.1 ∨
      (check.block = old.1 ∧ old.2 ≠ some check.snapshotDigest))
    (answered : checkRegistrationSnapshotBlock check t = .ok (accepted, t')) :
    accepted = false ∧ t' = t := by
  have no : accepted = false := by
    rw [mark, Option.map_eq_some_iff] at stored
    obtain ⟨row, found, rfl⟩ := stored
    simp only [checkRegistrationSnapshotBlock, bind_eq_ok, found] at answered
    obtain ⟨_, -, answer⟩ := answered
    split at answer
    · cases answer
      rfl
    · rename_i stands
      obtain ⟨-, low, agrees⟩ := refuses_iff.mp (by simpa using stands)
      rcases against with below | ⟨same, differs⟩
      · exact absurd below (not_lt.mpr low)
      · exact absurd (agrees same) differs
  exact ⟨no, unchanged (.inl no) answered⟩

/-! ## Runs -/

/-- The table, and the checks that were accepted with `advance` so far. -/
structure History where
  table : MarkTable
  accepted : List Check

/-- One check; one that raises changes nothing. -/
def History.step (history : History) (check : Check) : History :=
  match checkRegistrationSnapshotBlock check history.table with
  | .ok (answer, table) =>
    ⟨table, if answer ∧ check.advance then history.accepted ++ [check] else history.accepted⟩
  | .error _ => history

/-- The mark of a subnet speaks for every snapshot accepted there. -/
structure Covers (history : History) : Prop where
  covered : ∀ check ∈ history.accepted, ∃ old ∈ mark history.table check.subnet,
    check.block ≤ old.1 ∧ (check.block = old.1 → old.2 = some check.snapshotDigest)
  ordered : history.accepted.Pairwise fun a b => a.subnet = b.subnet →
    a.block ≤ b.block ∧ (a.block = b.block → a.snapshotDigest = b.snapshotDigest)

theorem covers_step {history : History} (covers : Covers history) (check : Check) :
    Covers (history.step check) := by
  unfold History.step
  split
  case h_2 => exact covers
  case h_1 answer table answered =>
    split
    case isFalse idle =>
      have same : table = history.table := by
        refine unchanged ?_ answered
        cases answer <;> simp_all
      rw [same]
      exact covers
    case isTrue yes =>
      rw [yes.1] at answered
      obtain ⟨moved, known, others⟩ := mark_of_advance yes.2 answered
      -- what was accepted before lies below the old mark, hence below the new one
      have below : ∀ earlier ∈ history.accepted, earlier.subnet = check.subnet →
          earlier.block ≤ check.block ∧
            (earlier.block = check.block → earlier.snapshotDigest = check.snapshotDigest) := by
        intro earlier member same
        obtain ⟨old, stored, low, agrees⟩ := covers.covered earlier member
        rw [same] at stored
        obtain ⟨low', agrees'⟩ := known old stored
        refine ⟨low.trans low', fun equal => ?_⟩
        have middle : earlier.block = old.1 := le_antisymm low (equal ▸ low')
        have digests := (agrees middle).symm.trans (agrees' (middle.symm.trans equal))
        exact Option.some.inj digests
      constructor
      · intro earlier member
        rcases List.mem_append.mp member with before | isCheck
        · by_cases same : earlier.subnet = check.subnet
          · obtain ⟨low, agrees⟩ := below earlier before same
            refine ⟨_, by rw [same]; exact moved, low, fun equal => ?_⟩
            rw [agrees equal]
          · rw [others earlier.subnet same]
            exact covers.covered earlier before
        · rw [List.mem_singleton.mp isCheck]
          exact ⟨_, moved, le_refl _, fun _ => rfl⟩
      · refine List.pairwise_append.mpr ⟨covers.ordered, List.pairwise_singleton _ _,
          fun earlier member later isCheck => ?_⟩
        rw [List.mem_singleton.mp isCheck]
        exact below earlier member

theorem covers_foldl (checks : List Check) {history : History} (covers : Covers history) :
    Covers (checks.foldl History.step history) := by
  induction checks generalizing history with
  | nil => exact covers
  | cons check checks ih => exact ih (covers_step covers check)

/-- **The high-water mark.** In every run of checks on any table, the snapshots accepted with
`advance` for one subnet have heights that never decrease, and two at one height have one
digest. In any state a snapshot below the mark, or at the mark with another digest than the
stored one or with none stored, is refused, and what is refused changes nothing. -/
theorem accepted_in_order (t : MarkTable) (checks : List Check) :
    ((checks.foldl History.step ⟨t, []⟩).accepted.Pairwise fun a b => a.subnet = b.subnet →
      a.block ≤ b.block ∧ (a.block = b.block → a.snapshotDigest = b.snapshotDigest)) ∧
    (∀ check s s' accepted old, mark s check.subnet = some old →
      (check.block < old.1 ∨ (check.block = old.1 ∧ old.2 ≠ some check.snapshotDigest)) →
      checkRegistrationSnapshotBlock check s = .ok (accepted, s') → accepted = false) ∧
    ∀ check s s', checkRegistrationSnapshotBlock check s = .ok (false, s') → s' = s := by
  refine ⟨?_, fun _ _ _ _ _ stored against answered => ?_, fun _ _ _ answered => ?_⟩
  · have start : Covers ⟨t, []⟩ := ⟨fun _ member => absurd member List.not_mem_nil, .nil⟩
    exact (covers_foldl checks start).ordered
  · exact (refused_of_mark stored against answered).1
  · exact unchanged (.inl rfl) answered

/-! ## A run -/

/-- A check that advances to a height, with a digest of one digit repeated. -/
def advanceTo (block : ℤ) (digit : CodePoint) : Check :=
  ⟨"finney", 39, block, Text.ofString "sha256:" ++ List.replicate 64 digit, true⟩

/-- Two snapshots are accepted; between them one comes too low and one with another digest. -/
def rising : List Check := [advanceTo 7 0x61, advanceTo 6 0x62, advanceTo 7 0x62, advanceTo 8 0x62]

/-- The store after the run. -/
def risen : History := rising.foldl History.step ⟨.empty, []⟩

theorem accepted_in_order_below :
    risen.accepted.map Check.block = [7, 8] ∧
    (risen.accepted.Pairwise fun a b => a.subnet = b.subnet →
      a.block ≤ b.block ∧ (a.block = b.block → a.snapshotDigest = b.snapshotDigest)) ∧
    ∃ accepted t, checkRegistrationSnapshotBlock (advanceTo 8 0x61) risen.table = .ok (accepted, t) ∧
      accepted = false ∧ t = risen.table := by
  obtain ⟨ordered, refused, kept⟩ := accepted_in_order .empty rising
  have stored : mark risen.table (advanceTo 8 0x61).subnet =
      some (8, some (advanceTo 8 0x62).snapshotDigest) := by decide
  have differs : (advanceTo 8 0x62).snapshotDigest ≠ (advanceTo 8 0x61).snapshotDigest := by
    decide
  have answered : checkRegistrationSnapshotBlock (advanceTo 8 0x61) risen.table =
      .ok (false, risen.table) := rfl
  refine ⟨by decide, ordered, false, risen.table, answered, ?_, kept _ _ _ answered⟩
  -- the check is at the mark, and has another digest
  exact refused _ _ _ _ _ stored (.inr ⟨rfl, fun same => differs (Option.some.inj same)⟩) answered

end Cathedral.Enrollment.SnapshotMark
