import CathedralCompute.Gpu.CrashSafety

/-!
# Withdrawing a claim

A rollback deletes the rows that its token inserted. Then it looks for a pending row of the
same worker, and refuses if it finds one: also one that another token inserted. Where it
does not refuse, the claims are those of the same run without the claim.

## Main definitions

* `Op.Apart` — the operations on workers' claims under other tokens
* `returned` — the operations of a run that return

## Main results

* `withdrawn_iff` — a rollback leaves the claims as if the claim had never been begun if and
  only if no other claim of the worker is pending
-/

set_option autoImplicit false

namespace Cathedral.Gpu

open Codec Semantics

/-- The row was inserted by a claim that is pending under the token. -/
def ClaimRow.Pending (token : Text) (row : ClaimRow) : Prop := row.claimToken = some token

instance (token : Text) : DecidablePred (ClaimRow.Pending token) :=
  fun row => inferInstanceAs (Decidable (row.claimToken = _))

/-- The claims without those that are pending under a token. -/
def without (token : Text) (claims : Claims) : Claims := claims.delete (ClaimRow.Pending token)

/-- The claims that are pending under a token. -/
def pendingUnder (token : Text) (claims : Claims) : List ClaimRow :=
  claims.select (ClaimRow.Pending token)

/-- The operations on workers' claims under other tokens. -/
inductive Op.Apart (token : Text) : Op → Prop
  | beginClaim (hotkey : Text) (verdict : ComponentVerdict) (occurred : Text) {other : Text}
      (different : other ≠ token) : Apart token (.beginClaim hotkey verdict occurred other)
  | commitClaim {pending : PendingClaim} (different : pending.token ≠ token) :
      Apart token (.commitClaim pending)
  | rollbackClaim {pending : PendingClaim} (different : pending.token ≠ token) :
      Apart token (.rollbackClaim pending)

/-- The operations of a run that return. -/
def returned (r : IdentityRegistry) (disk : Disk) : List Op → List Op
  | [] => []
  | op :: ops =>
    if (op.call r disk).result.isOk then op :: returned r ((Step.call op).run r disk) ops
    else returned r ((Step.call op).run r disk) ops

/-! ## Beside the claim -/

/-- A database and one without the claims under a token, no later. -/
structure Shadow (token : Text) (db shadow : Database) : Prop where
  claims : shadow.claims = without token db.claims
  generation : shadow.databaseGeneration ≤ db.databaseGeneration

section Apart

variable {r : IdentityRegistry} {token : Text} {db db' shadow : Database} {claims claims' : Claims}

theorem Shadow.commit (follows : Shadow token db shadow)
    (committed : r.commitAuthenticatedState db.databaseGeneration { db with claims := claims } =
      .ok db') :
    ∃ shadow', r.commitAuthenticatedState shadow.databaseGeneration
        { shadow with claims := without token claims } = .ok shadow' ∧
      Shadow token db' shadow' ∧ db'.claims = claims := by
  simp only [IdentityRegistry.commitAuthenticatedState, bind_eq_ok, require_eq_ok,
    pure_eq_ok] at committed ⊢
  obtain ⟨_, room, _, -, rfl⟩ := committed
  have earlier := follows.generation
  exact ⟨_, ⟨(), by omega, (), trivial, rfl⟩, ⟨rfl, Nat.succ_le_succ earlier⟩, rfl⟩

/-- What is not pending under the token is found without its claims. -/
theorem find?_without {identity : Text} {row : ClaimRow}
    (found : claims.find? identity = some row) (settled : ¬ row.Pending token) :
    (without token claims).find? identity = some row := by
  rw [without, Table.find?_delete, found]
  simp [Option.filter, settled]

theorem find?_without_none {identity : Text} (absent : claims.find? identity = none) :
    (without token claims).find? identity = none := by
  rw [without, Table.find?_delete, absent]
  rfl

/-- One identity is claimed under another token. -/
theorem claimIdentity_without {pending : PendingClaim} {identity : Text}
    {state state' : Claims × List Text} (different : pending.token ≠ token)
    (round : claimIdentity pending state identity = .ok state') :
    claimIdentity pending (without token state.1, state.2) identity =
        .ok (without token state'.1, state'.2) ∧
      pendingUnder token state'.1 = pendingUnder token state.1 := by
  have other : ¬ (pending.row .workerAdmission identity).Pending token := by
    simpa [PendingClaim.row, ClaimRow.Pending] using different
  unfold claimIdentity at round ⊢
  split at round
  · rename_i absent
    simp only [insertClaim, bind_eq_ok, demand_eq_ok, pure_eq_ok] at round
    obtain ⟨claims, inserted, rfl⟩ := round
    rw [find?_without_none absent]
    refine ⟨?_, Table.select_insert inserted other⟩
    simp only [insertClaim, bind_eq_ok, demand_eq_ok, pure_eq_ok]
    exact ⟨_, Table.insert_delete inserted other, rfl⟩
  · rename_i row found
    simp only [bind_eq_ok, require_eq_ok, pure_eq_ok] at round
    obtain ⟨_, own, _, free, rfl⟩ := round
    have settled : ¬ row.Pending token := by simp [ClaimRow.Pending, free.1]
    rw [find?_without found settled]
    refine ⟨?_, rfl⟩
    simp only [bind_eq_ok, require_eq_ok, pure_eq_ok]
    exact ⟨(), own, (), free, trivial⟩

theorem storedExactly_without {pending : PendingClaim} {inserted : List Text} {identity : Text}
    (different : pending.token ≠ token)
    (stored : storedExactly pending claims inserted identity = true) :
    storedExactly pending (without token claims) inserted identity = true := by
  unfold storedExactly at stored ⊢
  split at stored
  case isTrue new =>
    rw [if_pos new]
    rw [decide_eq_true_eq] at stored ⊢
    exact find?_without stored (by simpa [PendingClaim.row, ClaimRow.Pending] using different)
  case isFalse old =>
    rw [if_neg old]
    cases found : claims.find? identity with
    | none => simp [found] at stored
    | some row =>
      have held : row.hotkeyDigest = pending.hotkeyDigest ∧ row.claimToken = none := by
        simpa [found] using stored
      rw [find?_without found (by simp [ClaimRow.Pending, held.2])]
      simpa using held

/-- Another claim begins. -/
theorem Shadow.beginClaim (follows : Shadow token db shadow) {hotkey occurred other : Text}
    {verdict : ComponentVerdict} {pending : PendingClaim} (different : other ≠ token)
    (begun : r.beginClaim hotkey verdict occurred other db = .ok (pending, db')) :
    ∃ shadow', r.beginClaim hotkey verdict occurred other shadow = .ok (pending, shadow') ∧
      Shadow token db' shadow' ∧ pendingUnder token db'.claims = pendingUnder token db.claims := by
  simp only [IdentityRegistry.beginClaim, bind_eq_ok, require_eq_ok, pure_eq_ok,
    Prod.mk.injEq] at begun ⊢
  obtain ⟨⟨hotkeyDigest, identityDigests⟩, material, ⟨claims, inserted⟩, looped, _, exactly, stored,
    commit, rfl, rfl⟩ := begun
  obtain ⟨⟨claims', inserted'⟩, looped', same⟩ := simulation_foldlM
    (R := fun state state' : Claims × List Text => state' = (without token state.1, state.2))
    (fun identity _ state _ state' follows round =>
      ⟨_, follows ▸ (claimIdentity_without different round).1, rfl⟩)
    (show (shadow.claims, []) = (without token db.claims, ([] : List Text)) by rw [follows.claims])
    looped
  cases same
  obtain ⟨shadow', commit', follows', rows⟩ := follows.commit commit
  have spared := relation_foldlM
    (R := fun state state' : Claims × List Text =>
      pendingUnder token state'.1 = pendingUnder token state.1)
    (fun _ => rfl) (fun first second => second.trans first)
    (fun identity _ state state' round => (claimIdentity_without different round).2) looped
  exact ⟨shadow', ⟨_, material, _, looped', (), fun identity member =>
    storedExactly_without different (exactly identity member), shadow', commit', rfl, rfl⟩,
    follows', rows ▸ spared⟩

/-- No identity of the claim is pending under the token. -/
def Settled (token : Text) (pending : PendingClaim) (claims : Claims) : Prop :=
  ∀ identity ∈ pending.identityDigests, ∀ row ∈ claims.find? identity, ¬ row.Pending token

/-- One identity is committed under another token. -/
theorem commitIdentity_without {pending : PendingClaim} {identity : Text}
    (settled : Settled token pending claims) (listed : identity ∈ pending.identityDigests)
    (round : commitIdentity pending claims identity = .ok claims') :
    commitIdentity pending (without token claims) identity = .ok (without token claims') ∧
      Settled token pending claims' ∧ pendingUnder token claims' = pendingUnder token claims := by
  simp only [commitIdentity, bind_eq_ok, require_eq_ok, pure_eq_ok] at round
  obtain ⟨_, ⟨one, stored⟩, rfl⟩ := round
  have free : ∀ row, ¬ (pending.committed row).Pending token := fun row => by
    simp [PendingClaim.committed, ClaimRow.Pending]
  have outside : ∀ row ∈ claims.rows, row.gpuIdentityDigest = identity ∧
      row.hotkeyDigest = pending.hotkeyDigest →
        ¬ row.Pending token ∧ ¬ (pending.committed row).Pending token :=
    fun row member own => ⟨settled identity listed row
      (Table.find?_eq_some.mpr ⟨member, own.1⟩), free row⟩
  have moved := Table.delete_update outside
  refine ⟨?_, fun other member row found => ?_, Table.select_update outside⟩
  · simp only [commitIdentity, bind_eq_ok, require_eq_ok, pure_eq_ok]
    refine ⟨(), ⟨?_, ?_⟩, moved.symm⟩
    · rw [without, Table.select_delete fun row member held own => (outside row member own).1 held]
      exact one
    · rw [without, ← moved]
      exact find?_without stored (free _)
  · rw [Option.mem_def, Table.find?_update, Option.map_eq_some_iff] at found
    obtain ⟨old, found, rfl⟩ := found
    split
    · exact free old
    · exact settled other member old found

/-- Another claim is committed. -/
theorem Shadow.commitClaim (follows : Shadow token db shadow) {pending : PendingClaim}
    (different : pending.token ≠ token) (committed : r.commitClaim pending db = .ok db') :
    ∃ shadow', r.commitClaim pending shadow = .ok shadow' ∧ Shadow token db' shadow' ∧
      pendingUnder token db'.claims = pendingUnder token db.claims := by
  simp only [IdentityRegistry.commitClaim, bind_eq_ok] at committed ⊢
  obtain ⟨checks, checked, claims, looped, commit⟩ := committed
  have held : ∀ identity ∈ pending.identityDigests,
      requireHeld pending db.claims identity = .ok () := fun identity member =>
    (ok_of_mapM checked member).elim fun _ ok => ok
  -- what the claim holds is under its own token or none
  have settled : Settled token pending db.claims := by
    intro identity member row found
    have own := held identity member
    simp only [requireHeld, bind_eq_ok, require_eq_ok] at own
    obtain ⟨_, -, row', found', state, -⟩ := own
    cases found.symm.trans found'
    rcases state with none | other
    · simp [ClaimRow.Pending, none]
    · simpa [ClaimRow.Pending, other] using different
  have held' : ∀ identity ∈ pending.identityDigests,
      requireHeld pending shadow.claims identity = .ok () := by
    intro identity member
    have own := held identity member
    simp only [requireHeld, bind_eq_ok, require_eq_ok] at own ⊢
    obtain ⟨_, mine, row, found, state⟩ := own
    have found' := find?_without found (settled identity member row found)
    rw [follows.claims, found']
    exact ⟨(), fun row' same => mine row' (found.trans same), row, rfl, state⟩
  -- both loops settle the same rows, one by one
  obtain ⟨claims', looped', same, -, spared⟩ := simulation_foldlM
    (R := fun claims claims' => claims' = without token claims ∧ Settled token pending claims ∧
      pendingUnder token claims = pendingUnder token db.claims)
    (fun identity member claims claims'' claims' follows round => by
      obtain ⟨rfl, free, rows⟩ := follows
      obtain ⟨round', free', rows'⟩ := commitIdentity_without free member round
      exact ⟨_, round', rfl, free', rows'.trans rows⟩)
    ⟨follows.claims, settled, rfl⟩ looped
  subst same
  obtain ⟨shadow', commit', follows', rows⟩ := follows.commit commit
  refine ⟨shadow', ?_, follows', rows ▸ spared⟩
  have checked' : pending.identityDigests.mapM (requireHeld pending shadow.claims) =
      .ok checks := by
    rw [← checked]
    exact mapM_congr fun identity member =>
      (held' identity member).trans (held identity member).symm
  exact ⟨checks, checked', _, looped', commit'⟩

/-- Another claim is rolled back. -/
theorem Shadow.rollbackClaim (follows : Shadow token db shadow) {pending : PendingClaim}
    (different : pending.token ≠ token) (rolledBack : r.rollbackClaim pending db = .ok db') :
    ∃ shadow', r.rollbackClaim pending shadow = .ok shadow' ∧ Shadow token db' shadow' ∧
      pendingUnder token db'.claims = pendingUnder token db.claims := by
  simp only [IdentityRegistry.rollbackClaim, bind_eq_ok, require_eq_ok] at rolledBack ⊢
  obtain ⟨_, clean, commit⟩ := rolledBack
  obtain ⟨shadow', commit', follows', rows⟩ := follows.commit commit
  rw [without, Table.delete_comm, ← without, ← follows.claims] at commit'
  refine ⟨shadow', ⟨(), fun row member => ?_, commit'⟩, follows', ?_⟩
  · rw [follows.claims, without, Table.delete_comm] at member
    exact clean row (Table.mem_delete.mp member).1
  · rw [rows]
    refine Table.select_delete fun row _ own held => ?_
    exact different (Option.some.inj (own.1.symm.trans held))

/-- **Beside the claim.** An operation under another token that returns does so without the
claim as well, with the same effect, and leaves what is pending under the token. -/
theorem Shadow.transact (follows : Shadow token db shadow) {op : Op} (apart : op.Apart token)
    (committed : op.transact r db = .ok (some db')) :
    ∃ shadow', op.transact r shadow = .ok (some shadow') ∧ Shadow token db' shadow' ∧
      pendingUnder token db'.claims = pendingUnder token db.claims := by
  cases apart with
  | beginClaim hotkey verdict occurred different =>
    simp only [Op.transact, map_eq_ok, Option.some.injEq] at committed ⊢
    obtain ⟨⟨pending, db'⟩, begun, rfl⟩ := committed
    obtain ⟨shadow', begun', rest⟩ := follows.beginClaim different begun
    exact ⟨shadow', ⟨_, begun', rfl⟩, rest⟩
  | commitClaim different =>
    simp only [Op.transact, map_eq_ok, Option.some.injEq, exists_eq_right] at committed ⊢
    exact follows.commitClaim different committed
  | rollbackClaim different =>
    simp only [Op.transact, map_eq_ok, Option.some.injEq, exists_eq_right] at committed ⊢
    exact follows.rollbackClaim different committed

theorem Op.Apart.transact_ne_none {op : Op} (apart : op.Apart token) :
    op.transact r db ≠ .ok none := by
  intro silent
  cases apart <;> simp [Op.transact] at silent

end Apart

/-! ## The claim itself -/

section Claim

variable {r : IdentityRegistry} {db db' : Database}

/-- No other claim of the worker is pending. -/
def Alone (pending : PendingClaim) (claims : Claims) : Prop :=
  ∀ row ∈ claims.rows, row.hotkeyDigest = pending.hotkeyDigest →
    row.claimToken = none ∨ row.claimToken = some pending.token

/-- What is pending under the token of the claim belongs to its worker. -/
def Own (pending : PendingClaim) (claims : Claims) : Prop :=
  ∀ row ∈ pendingUnder pending.token claims, row.hotkeyDigest = pending.hotkeyDigest

/-- One identity is claimed under the token. -/
theorem own_of_claimIdentity {pending : PendingClaim} {identity : Text}
    {state state' : Claims × List Text}
    (round : claimIdentity pending state identity = .ok state') :
    without pending.token state'.1 = without pending.token state.1 ∧
      (Own pending state.1 → Own pending state'.1) := by
  have inside : (pending.row .workerAdmission identity).Pending pending.token := rfl
  unfold claimIdentity at round
  split at round
  · simp only [insertClaim, bind_eq_ok, demand_eq_ok, pure_eq_ok] at round
    obtain ⟨claims, inserted, rfl⟩ := round
    refine ⟨Table.delete_of_insert inserted inside, fun own row member => ?_⟩
    obtain ⟨member, held⟩ := Table.mem_select.mp member
    rcases (Table.mem_insert inserted).mp member with old | rfl
    · exact own row (Table.mem_select.mpr ⟨old, held⟩)
    · rfl
  · simp only [bind_eq_ok, pure_eq_ok] at round
    obtain ⟨_, -, _, -, rfl⟩ := round
    exact ⟨rfl, id⟩

/-- Beginning a claim adds nothing but its own pending rows. -/
theorem own_of_beginClaim {hotkey occurred token : Text} {verdict : ComponentVerdict}
    {pending : PendingClaim}
    (begun : r.beginClaim hotkey verdict occurred token db = .ok (pending, db')) :
    pending.token = token ∧ without token db'.claims = without token db.claims ∧
      (Own pending db.claims → Own pending db'.claims) := by
  simp only [IdentityRegistry.beginClaim, bind_eq_ok, require_eq_ok, pure_eq_ok,
    Prod.mk.injEq] at begun
  obtain ⟨⟨hotkeyDigest, identityDigests⟩, -, ⟨claims, inserted⟩, looped, _, -, stored, commit, rfl,
    rfl⟩ := begun
  have adds := relation_foldlM
    (R := fun state state' : Claims × List Text =>
      without token state'.1 = without token state.1 ∧ (Own _ state.1 → Own _ state'.1))
    (fun _ => ⟨rfl, id⟩)
    (fun first second => ⟨second.1.trans first.1, fun own => second.2 (first.2 own)⟩)
    (fun identity _ state state' round => own_of_claimIdentity round) looped
  rw [commitAuthenticatedState_claims commit]
  exact ⟨rfl, adds⟩

/-- **Rolling back.** Where no other claim of the worker is pending the rollback deletes
exactly the rows of its token, and otherwise it fails. -/
theorem rollbackClaim_iff {pending : PendingClaim} (own : Own pending db.claims) :
    (∃ db', r.rollbackClaim pending db = .ok db' ∧
        db'.claims = without pending.token db.claims) ↔
      Alone pending db.claims ∧ db.databaseGeneration < maxIdentityGeneration := by
  have deletes : (db.claims.delete fun row => row.claimToken = some pending.token ∧
      row.hotkeyDigest = pending.hotkeyDigest) = without pending.token db.claims := by
    refine Table.ext (List.filter_congr fun row member => ?_)
    refine decide_eq_decide.mpr (not_congr ⟨fun both => both.1, fun held => ⟨held, ?_⟩⟩)
    exact own row (Table.mem_select.mpr ⟨member, held⟩)
  simp only [IdentityRegistry.rollbackClaim, bind_eq_ok, require_eq_ok, deletes,
    IdentityRegistry.commitAuthenticatedState, pure_eq_ok]
  constructor
  · rintro ⟨db', ⟨_, clean, _, room, -⟩, -⟩
    refine ⟨fun row member worker => ?_, room⟩
    by_cases held : row.Pending pending.token
    · exact .inr held
    · left
      by_contra pending'
      exact clean row (Table.mem_delete.mpr ⟨member, held⟩) (.inr ⟨pending', worker⟩)
  · rintro ⟨alone, room⟩
    refine ⟨_, ⟨(), fun row member other => ?_, (), room, (), trivial, rfl⟩, rfl⟩
    obtain ⟨member, free⟩ := Table.mem_delete.mp member
    rcases other with held | ⟨pending', worker⟩
    · exact free held
    · exact (alone row member worker).elim pending' free

end Claim

/-! ## Runs -/

section Runs

variable {r : IdentityRegistry} {token : Text} {disk shadow : Disk}

theorem Safe.afterCall (safe : Safe r disk) (op : Op) : Safe r ((Step.call op).run r disk) :=
  have unforged : (Step.call op).Unforged r disk := trivial
  (safe.step unforged).1

/-- A call on a safe disk fails and leaves the database, or stores the one that its
transaction commits. -/
theorem Safe.call_changes (safe : Safe r disk) (op : Op)
    (changes : op.transact r disk.database ≠ .ok none) :
    (∃ failure, op.transact r disk.database = .error failure ∧
        (op.call r disk).result = .error failure ∧
        ((Step.call op).run r disk).database = disk.database) ∨
      (op.call r disk).result = .ok () ∧
        op.transact r disk.database = .ok (some ((Step.call op).run r disk).database) := by
  have result := (safe.call op).2.1
  cases committed : op.transact r disk.database with
  | error failure =>
    rw [committed] at result
    refine .inl ⟨failure, rfl, result, ?_⟩
    refine (database_step r disk (.call op)).resolve_right fun stored => ?_
    cases committed.symm.trans stored
  | ok change =>
    rw [committed] at result
    exact .inr ⟨result, committed ▸ database_of_call result changes⟩

/-- **A run beside the claim.** Without the claim the operations that return do so in the same
way, and what they leave is what the run leaves but for the rows of the claim. -/
theorem shadow_run {ops : List Op} (safe : Safe r disk) (safe' : Safe r shadow)
    (follows : Shadow token disk.database shadow.database) (apart : ∀ op ∈ ops, op.Apart token) :
    Safe r (runSteps r disk (ops.map .call)) ∧
      Shadow token (runSteps r disk (ops.map .call)).database
        (runSteps r shadow ((returned r disk ops).map .call)).database ∧
      pendingUnder token (runSteps r disk (ops.map .call)).database.claims =
        pendingUnder token disk.database.claims ∧
      returned r shadow (returned r disk ops) = returned r disk ops := by
  induction ops generalizing disk shadow with
  | nil => exact ⟨safe, follows, rfl, rfl⟩
  | cons op ops ih =>
    obtain ⟨here, rest⟩ := List.forall_mem_cons.mp apart
    have next : Safe r ((Step.call op).run r disk) := safe.afterCall op
    rcases safe.call_changes op here.transact_ne_none with ⟨failure, -, fails, kept⟩ |
      ⟨returns, committed⟩
    · have skipped : returned r disk (op :: ops) =
          returned r ((Step.call op).run r disk) ops := by
        rw [returned, fails]
        rfl
      rw [skipped, List.map_cons]
      obtain ⟨safe'', follows', spared, same⟩ := ih next safe' (kept ▸ follows) rest
      exact ⟨safe'', follows', kept ▸ spared, same⟩
    · have taken : returned r disk (op :: ops) =
          op :: returned r ((Step.call op).run r disk) ops := by
        rw [returned, returns]
        rfl
      obtain ⟨stored, committed', follows', spared⟩ := follows.transact here committed
      rcases safe'.call_changes op here.transact_ne_none with ⟨failure, fails, -⟩ |
        ⟨returns', committed''⟩
      · cases fails.symm.trans committed'
      · cases committed''.symm.trans committed'
        have next' : Safe r ((Step.call op).run r shadow) :=
          safe'.afterCall op
        obtain ⟨safe'', follows'', spared', same⟩ := ih next next' follows' rest
        rw [taken, List.map_cons, List.map_cons]
        refine ⟨safe'', follows'', spared'.trans spared, ?_⟩
        rw [returned, returns']
        exact congrArg (op :: ·) same

/-- The rollback of a claim that began on a safe disk, after operations under other tokens. -/
theorem Safe.rolledBack_iff (safe : Safe r disk) {hotkey occurred : Text}
    {verdict : ComponentVerdict} {pending : PendingClaim} {db : Database} {others : List Op}
    (fresh : ∀ row ∈ disk.database.claims.rows, ¬ row.Pending token)
    (begun : r.beginClaim hotkey verdict occurred token disk.database = .ok (pending, db))
    (apart : ∀ op ∈ others, op.Apart token) :
    let begin_ : Op := .beginClaim hotkey verdict occurred token
    let rollback : Op := .rollbackClaim pending
    let kept := returned r ((Step.call begin_).run r disk) others
    let last := runSteps r disk ((begin_ :: others).map .call)
    returned r disk kept = kept ∧
      (((rollback.call r last).result = .ok () ∧
          ((Step.call rollback).run r last).database.claims =
            (runSteps r disk (kept.map .call)).database.claims) ↔
        Alone pending last.database.claims ∧
          last.database.databaseGeneration < maxIdentityGeneration) := by
  intro begin_ rollback kept last
  obtain ⟨rfl, same, owns⟩ := own_of_beginClaim begun
  have committed : begin_.transact r disk.database = .ok (some db) := by
    simp only [begin_, Op.transact, map_eq_ok]
    exact ⟨_, begun, rfl⟩
  have next : Safe r ((Step.call begin_).run r disk) :=
    safe.afterCall begin_
  rcases safe.call_changes begin_ (by rw [committed]; rintro ⟨⟩) with ⟨failure, fails, -⟩ |
    ⟨-, stored⟩
  · cases fails.symm.trans committed
  have reached : ((Step.call begin_).run r disk).database = db := by
    cases stored.symm.trans committed
    rfl
  -- no row was under the token before, so all that are belong to this claim
  have own : Own pending db.claims := owns fun row member =>
    absurd (Table.mem_select.mp member).2 (fresh row (Table.mem_select.mp member).1)
  have generation : disk.database.databaseGeneration ≤ db.databaseGeneration :=
    (sealed_of_transact safe.sealed.keyCheck committed).2 ▸ Nat.le_succ _
  -- the disk without the claim follows the one with it, from here to the last operation
  have follows : Shadow pending.token ((Step.call begin_).run r disk).database disk.database := by
    rw [reached]
    exact ⟨(same.trans (Table.delete_of_not fresh)).symm, generation⟩
  obtain ⟨safe', follows', spared, returns⟩ := shadow_run next safe follows apart
  refine ⟨returns, ?_⟩
  have own' : Own pending last.database.claims := by
    rw [reached] at spared
    intro row member
    exact own row (spared ▸ member)
  have beside : (runSteps r disk (kept.map .call)).database.claims =
      without pending.token last.database.claims := follows'.claims
  -- what is left is the rollback itself, and whether its transaction commits
  rw [← rollbackClaim_iff (r := r) own', ← beside]
  have transact : ∀ db', rollback.transact r last.database = .ok (some db') ↔
      r.rollbackClaim pending last.database = .ok db' := by
    simp [rollback, Op.transact]
  rcases safe'.call_changes rollback (by simp [rollback, Op.transact]) with
    ⟨failure, fails, result, -⟩ | ⟨result, stored'⟩
  · constructor
    · rintro ⟨returned', -⟩
      cases result.symm.trans returned'
    · rintro ⟨db', rolledBack, -⟩
      cases fails.symm.trans ((transact db').mpr rolledBack)
  · constructor
    · rintro ⟨-, claims⟩
      exact ⟨_, (transact _).mp stored', claims⟩
    · rintro ⟨db', rolledBack, claims⟩
      cases stored'.symm.trans ((transact db').mpr rolledBack)
      exact ⟨result, claims⟩

/-- A worker claims one more GPU. -/
theorem exists_beginClaim {hotkey gpu hotkeyDigest digest : Text} (db : Database)
    (occurred token bundle : Text) (named : hotkey ≠ [])
    (worker : r.privateDigest "cathedral-gpu-hotkey-v1\x00" hotkey = .ok hotkeyDigest)
    (identity : r.privateDigest "cathedral-gpu-identity-v1\x00" gpu = .ok digest)
    (absent : db.claims.find? digest = none)
    (room : db.databaseGeneration < maxIdentityGeneration) :
    let pending : PendingClaim := ⟨token, hotkeyDigest, [digest], bundle, occurred⟩
    ∃ db', r.beginClaim hotkey ⟨[gpu], bundle⟩ occurred token db = .ok (pending, db') ∧
      db'.claims.rows = db.claims.rows ++ [pending.row .workerAdmission digest] ∧
      db'.databaseGeneration = db.databaseGeneration + 1 := by
  intro pending
  obtain ⟨claims, inserted⟩ : ∃ claims, db.claims.insert
      (pending.row .workerAdmission digest) = some claims :=
    Table.exists_insert (Table.find?_eq_none.mp absent)
  have found : claims.find? digest = some (pending.row .workerAdmission digest) := by
    rw [Table.find?_insert inserted]
    exact if_pos rfl
  simp only [IdentityRegistry.beginClaim, IdentityRegistry.claimMaterial,
    IdentityRegistry.commitAuthenticatedState, bind_eq_ok, pure_eq_ok, require_eq_ok,
    Prod.mk.injEq]
  refine ⟨_, ⟨(hotkeyDigest, [digest]), ⟨(), named, hotkeyDigest, worker, [digest], ?_, rfl⟩,
    (claims, [digest]), ?_, (), ?_, _, ⟨(), room, (), trivial, rfl⟩, rfl, rfl⟩,
    Table.rows_of_insert inserted, rfl⟩
  · simp [identity]
  · simp only [List.foldlM_cons, List.foldlM_nil, bind_eq_ok, claimIdentity, absent, insertClaim,
      demand_eq_ok, pure_eq_ok]
    exact ⟨_, ⟨claims, inserted, rfl⟩, rfl⟩
  · intro other member
    rw [List.mem_singleton.mp member, storedExactly, if_pos List.mem_cons_self, found]
    exact decide_eq_true rfl

end Runs

/-- **Withdrawing.** Let a claim begin anywhere in the life of a registry, under a token that
is not in use, and let any operations under other tokens follow. The rollback of the claim
returns, and leaves the claims as if the claim had never been begun and the operations that
returned had been made without it, if and only if no other claim of the worker is pending
(and the generations are not used up). -/
theorem withdrawn_iff (r : IdentityRegistry) (steps : List Step)
    (unforged : Along (Step.run r) (Step.Unforged r) (.initial r) steps)
    {hotkey occurred token : Text} {verdict : ComponentVerdict} {pending : PendingClaim}
    {db : Database} {others : List Op}
    (fresh : ∀ row ∈ (runSteps r (.initial r) steps).database.claims.rows,
      row.claimToken ≠ some token)
    (begun : r.beginClaim hotkey verdict occurred token
      (runSteps r (.initial r) steps).database = .ok (pending, db))
    (apart : ∀ op ∈ others, op.Apart token) :
    let disk := runSteps r (.initial r) steps
    let begin_ : Op := .beginClaim hotkey verdict occurred token
    let rollback : Op := .rollbackClaim pending
    let kept := returned r ((Step.call begin_).run r disk) others
    let last := runSteps r disk ((begin_ :: others).map .call)
    returned r disk kept = kept ∧
      (((rollback.call r last).result = .ok () ∧
          ((Step.call rollback).run r last).database.claims =
            (runSteps r disk (kept.map .call)).database.claims) ↔
        Alone pending last.database.claims ∧
          last.database.databaseGeneration < maxIdentityGeneration) :=
  (safe_runSteps (safe_initial r) unforged).rolledBack_iff fresh begun apart

namespace SampleClaims

/-- Two claims of one worker on two GPUs. -/
def first : Op := .beginClaim "worker" ⟨["a"], "bundle"⟩ "now" "t1"

def second : Op := .beginClaim "worker" ⟨["b"], "bundle"⟩ "now" "t2"

/-- Two claims of another worker. -/
def earlier : Op := .beginClaim "other" ⟨["b"], "bundle"⟩ "now" "t2"

def later : Op := .beginClaim "other" ⟨["c"], "bundle"⟩ "now" "t3"

/-- A registry under which the workers and the GPUs have different digests. -/
structure Digests (r : IdentityRegistry) (worker other a b c : Text) : Prop where
  isWorker : r.privateDigest "cathedral-gpu-hotkey-v1\x00" "worker" = .ok worker
  isOther : r.privateDigest "cathedral-gpu-hotkey-v1\x00" "other" = .ok other
  isFirst : r.privateDigest "cathedral-gpu-identity-v1\x00" "a" = .ok a
  isSecond : r.privateDigest "cathedral-gpu-identity-v1\x00" "b" = .ok b
  isThird : r.privateDigest "cathedral-gpu-identity-v1\x00" "c" = .ok c
  workers : other ≠ worker
  gpus : a ≠ b ∧ a ≠ c ∧ b ≠ c

theorem exists_digests : ∃ r worker other a b c, Digests r worker other a b c := by
  have workers : sampleRegistry.keyedDigest "cathedral-gpu-hotkey-v1\x00" (Text.ascii "other") ≠
      sampleRegistry.keyedDigest "cathedral-gpu-hotkey-v1\x00" (Text.ascii "worker") := by
    decide +kernel
  have gpus : [Text.ascii "a", Text.ascii "b", Text.ascii "c"].map
      (sampleRegistry.keyedDigest "cathedral-gpu-identity-v1\x00") |>.Nodup := by
    decide +kernel
  simp only [List.map_cons, List.map_nil, List.nodup_cons, List.mem_cons, List.not_mem_nil,
    or_false, not_or, not_false_eq_true, List.nodup_nil, and_true] at gpus
  obtain ⟨⟨ab, ac⟩, bc⟩ := gpus
  exact ⟨sampleRegistry, _, _, _, _, _, rfl, rfl, rfl, rfl, rfl, workers, ab, ac, bc⟩

variable {r : IdentityRegistry} {worker other a b c : Text}

/-- A claim on a GPU that nobody has claimed. -/
theorem claimed {disk : Disk} (op : Op) (safe : Safe r disk)
    {hotkey gpu token hotkeyDigest digest : Text}
    (begins : op = .beginClaim hotkey ⟨[gpu], "bundle"⟩ "now" token) (named : hotkey ≠ [])
    (worker : r.privateDigest "cathedral-gpu-hotkey-v1\x00" hotkey = .ok hotkeyDigest)
    (identity : r.privateDigest "cathedral-gpu-identity-v1\x00" gpu = .ok digest)
    (absent : ∀ row ∈ disk.database.claims.rows, row.gpuIdentityDigest ≠ digest)
    (room : disk.database.databaseGeneration < maxIdentityGeneration) :
    let pending : PendingClaim := ⟨token, hotkeyDigest, [digest], "bundle", "now"⟩
    let after := ((Step.call op).run r disk).database
    r.beginClaim hotkey ⟨[gpu], "bundle"⟩ "now" token disk.database = .ok (pending, after) ∧
      after.claims.rows = disk.database.claims.rows ++ [pending.row .workerAdmission digest] ∧
      after.databaseGeneration = disk.database.databaseGeneration + 1 ∧
      (op.call r disk).result = .ok () := by
  subst begins
  intro pending after
  obtain ⟨db, begun, rows, generation⟩ := exists_beginClaim disk.database "now" token "bundle"
    named worker identity (Table.find?_eq_none.mpr absent) room
  have committed : Op.transact r disk.database (.beginClaim hotkey ⟨[gpu], "bundle"⟩ "now" token) =
      .ok (some db) := by
    simp only [Op.transact, map_eq_ok]
    exact ⟨_, begun, rfl⟩
  rcases safe.call_changes _ (by rw [committed]; rintro ⟨⟩) with ⟨failure, fails, -⟩ |
    ⟨returns, stored⟩
  · cases fails.symm.trans committed
  · have reached : after = db := by
      cases stored.symm.trans committed
      rfl
    rw [reached]
    exact ⟨begun, rows, generation, returns⟩

/-- What the first claim leaves pending. -/
def firstClaim (worker a : Text) : PendingClaim := ⟨"t1", worker, [a], "bundle", "now"⟩

def secondClaim (worker b : Text) : PendingClaim := ⟨"t2", worker, [b], "bundle", "now"⟩

/-- What the claims of the other worker leave pending. -/
def earlierClaim (other b : Text) : PendingClaim := ⟨"t2", other, [b], "bundle", "now"⟩

def laterClaim (other c : Text) : PendingClaim := ⟨"t3", other, [c], "bundle", "now"⟩

theorem exists_first (digests : Digests r worker other a b c) :
    ∃ db, r.beginClaim "worker" ⟨["a"], "bundle"⟩ "now" "t1" (Disk.initial r).database =
        .ok (firstClaim worker a, db) ∧
      db.claims.rows = [(firstClaim worker a).row .workerAdmission a] ∧
      ((Step.call first).run r (.initial r)).database = db ∧ db.databaseGeneration = 1 := by
  obtain ⟨begun, rows, generation, -⟩ := claimed first (safe_initial r) rfl (by decide)
    digests.isWorker digests.isFirst (List.forall_mem_nil _)
    (show 0 < maxIdentityGeneration by decide)
  exact ⟨_, begun, rows, rfl, generation⟩

/-- After both claims the second is pending. -/
theorem second_pending (digests : Digests r worker other a b c) :
    (secondClaim worker b).row .workerAdmission b ∈
      ((Step.call second).run r ((Step.call first).run r (.initial r))).database.claims.rows := by
  obtain ⟨db, -, rows, reached, generation⟩ := exists_first digests
  have safe : Safe r ((Step.call first).run r (.initial r)) := (safe_initial r).afterCall first
  have absent : ∀ row ∈ ((Step.call first).run r (.initial r)).database.claims.rows,
      row.gpuIdentityDigest ≠ b := by
    rw [reached, rows]
    intro row member
    rw [List.mem_singleton.mp member]
    exact digests.gpus.1
  obtain ⟨-, rows', -⟩ := claimed second safe rfl (by decide) digests.isWorker
    digests.isSecond absent (by rw [reached, generation]; decide)
  rw [rows']
  exact List.mem_append_right _ List.mem_cons_self

/-- After the earlier claim alone, a claim of the first worker and the later one of the
other go through. -/
theorem both_claimed {disk : Disk} (digests : Digests r worker other a b c) (safe : Safe r disk)
    (rows : disk.database.claims.rows = [(earlierClaim other b).row .workerAdmission b])
    (generation : disk.database.databaseGeneration = 1) :
    let last := runSteps r disk ([first, later].map .call)
    (∃ db, r.beginClaim "worker" ⟨["a"], "bundle"⟩ "now" "t1" disk.database =
      .ok (firstClaim worker a, db)) ∧
      returned r ((Step.call first).run r disk) [later] = [later] ∧
      last.database.claims.rows = [(earlierClaim other b).row .workerAdmission b,
        (firstClaim worker a).row .workerAdmission a,
        (laterClaim other c).row .workerAdmission c] ∧
      last.database.databaseGeneration = 3 := by
  intro last
  have unclaimed : ∀ row ∈ disk.database.claims.rows, row.gpuIdentityDigest ≠ a := by
    intro row member
    rw [rows, List.mem_singleton] at member
    rw [member]
    exact digests.gpus.1.symm
  obtain ⟨begun, rows', generation', -⟩ := claimed first safe rfl (by decide)
    digests.isWorker digests.isFirst unclaimed (by rw [generation]; decide)
  rw [rows] at rows'
  have unclaimed' : ∀ row ∈ ((Step.call first).run r disk).database.claims.rows,
      row.gpuIdentityDigest ≠ c := by
    intro row member
    rw [rows'] at member
    rcases List.mem_append.mp member with before | own
    · rw [List.mem_singleton.mp before]
      exact digests.gpus.2.2
    · rw [List.mem_singleton.mp own]
      exact digests.gpus.2.1
  obtain ⟨-, rows'', generation'', returns⟩ := claimed later (safe.afterCall first) rfl
    (by decide) digests.isOther digests.isThird unclaimed'
    (by rw [generation', generation]; decide)
  rw [rows'] at rows''
  refine ⟨⟨_, begun⟩, ?_, rows'', ?_⟩
  · rw [returned, returns]
    rfl
  · rw [generation', generation] at generation''
    exact generation''

end SampleClaims

open SampleClaims

/-- Between two claims of another worker, a claim is rolled back: the claims are as if
there had only been the other two. -/
theorem withdrawn_iff_alone : ∃ (r : IdentityRegistry) (pending : PendingClaim),
    let disk := runSteps r (.initial r) [.call earlier]
    let last := runSteps r disk ([first, later].map .call)
    ((Op.rollbackClaim pending).call r last).result = .ok () ∧
      ((Step.call (.rollbackClaim pending)).run r last).database.claims =
        (runSteps r disk [.call later]).database.claims := by
  obtain ⟨r, worker, other, a, b, c, digests⟩ := exists_digests
  obtain ⟨-, rows, generation, -⟩ := claimed earlier (safe_initial r) rfl (by decide)
    digests.isOther digests.isSecond (List.forall_mem_nil _)
    (show 0 < maxIdentityGeneration by decide)
  have safe : Safe r ((Step.call earlier).run r (.initial r)) := (safe_initial r).afterCall earlier
  have rows : ((Step.call earlier).run r (.initial r)).database.claims.rows =
      [(earlierClaim other b).row .workerAdmission b] := rows
  have generation : ((Step.call earlier).run r (.initial r)).database.databaseGeneration = 1 :=
    generation
  have withdrawn := @withdrawn_iff r [.call earlier] ⟨trivial, trivial⟩
  refine ⟨r, firstClaim worker a, ?_⟩
  -- from here on the disk after the earlier claim is all that matters
  have single : runSteps r (.initial r) [.call earlier] = (Step.call earlier).run r (.initial r) :=
    rfl
  rw [single] at withdrawn ⊢
  generalize (Step.call earlier).run r (.initial r) = disk at *
  have fresh : ∀ row ∈ disk.database.claims.rows, row.claimToken ≠ some (Text.ofString "t1") := by
    intro row member
    rw [rows, List.mem_singleton] at member
    rw [member]
    exact show some (Text.ofString "t2") ≠ some (Text.ofString "t1") by decide
  obtain ⟨⟨db, begun⟩, kept, rows', generation'⟩ := both_claimed digests safe rows generation
  have apart : ∀ op ∈ [later], op.Apart "t1" := by
    intro op member
    rw [List.mem_singleton.mp member]
    exact .beginClaim _ _ _ (by decide)
  have kept : returned r ((Step.call (.beginClaim "worker" ⟨["a"], "bundle"⟩ "now" "t1")).run r
      disk) [later] = [later] := kept
  have result := (withdrawn fresh begun apart).2.mpr ⟨?_, ?_⟩
  · rw [kept] at result
    exact result
  · -- the other pending claims are of another worker
    intro row member same
    have member : row ∈ (runSteps r disk ([first, later].map .call)).database.claims.rows := member
    rw [rows', List.mem_cons, List.mem_cons, List.mem_singleton] at member
    rcases member with rfl | rfl | rfl
    · exact absurd same digests.workers
    · exact .inr rfl
    · exact absurd same digests.workers
  · exact generation'.trans_lt (by decide)

/-- While another claim of the worker is pending the rollback is refused. -/
theorem not_withdrawn_two_pending :
    ¬ ∀ (r : IdentityRegistry) (steps : List Step)
      (_ : Along (Step.run r) (Step.Unforged r) (.initial r) steps) (hotkey occurred token : Text)
      (verdict : ComponentVerdict) (pending : PendingClaim) (db : Database) (others : List Op),
      (∀ row ∈ (runSteps r (.initial r) steps).database.claims.rows,
        row.claimToken ≠ some token) →
      r.beginClaim hotkey verdict occurred token (runSteps r (.initial r) steps).database =
        .ok (pending, db) →
      (∀ op ∈ others, op.Apart token) →
      let disk := runSteps r (.initial r) steps
      let begin_ : Op := .beginClaim hotkey verdict occurred token
      let rollback : Op := .rollbackClaim pending
      let kept := returned r ((Step.call begin_).run r disk) others
      let last := runSteps r disk ((begin_ :: others).map .call)
      (rollback.call r last).result = .ok () ∧
        ((Step.call rollback).run r last).database.claims =
          (runSteps r disk (kept.map .call)).database.claims := by
  intro always
  obtain ⟨r, worker, other, a, b, c, digests⟩ := exists_digests
  obtain ⟨db, begun, -⟩ := exists_first digests
  have pending := second_pending digests
  unfold first at pending
  have start : ∀ row ∈ (Disk.initial r).database.claims.rows,
      row.claimToken ≠ some (Text.ofString "t1") := List.forall_mem_nil _
  have apart : ∀ op ∈ [second], op.Apart "t1" := by
    intro op member
    rw [List.mem_singleton.mp member]
    exact .beginClaim _ _ _ (by decide)
  have withdrawn := always r [] trivial "worker" "now" "t1" ⟨["a"], "bundle"⟩
    (firstClaim worker a) db [second] start begun apart
  have alone := ((safe_initial r).rolledBack_iff start begun apart).2
  simp only [List.map_cons, List.map_nil, run_cons, run_nil] at withdrawn alone
  rcases (alone.mp withdrawn).1 _ pending rfl with none | same
  · cases none
  · exact absurd (Option.some.inj same) (show Text.ofString "t2" ≠ "t1" by decide)

end Cathedral.Gpu
