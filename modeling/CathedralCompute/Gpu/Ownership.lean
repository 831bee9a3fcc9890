import CathedralCompute.Gpu.Anchor

/-!
# Who owns a GPU

What a step of the registry can do to the claim of one GPU is said once, in
`RowStep`: insert it under a token, commit it, delete it under its token, release
it, or settle it after a crash. A step that dies early makes the same change or
none. What holds of a claim over whole runs follows by looking for the step at
which it stops to hold.

## Main results

* `gpu_identity_ownership` — owners, canaries, rollbacks and recovery over all runs
-/

set_option autoImplicit false

namespace Cathedral.Gpu

open Codec Semantics

/-! ## The database of a step -/

/-- The operation a step executes. -/
def Step.op : Step → Op
  | call op => op
  | crash op _ _ => op

/-- A write that leaves the database, or stores the given one. -/
def DiskWrite.Stores (write : DiskWrite) (P : Database → Prop) : Prop :=
  match write with
  | .database db => P db
  | .anchorSlot _ _ => True

theorem applyAll_database {P : Database → Prop} {writes : List DiskWrite} (disk : Disk)
    (stores : ∀ write ∈ writes, write.Stores P) :
    (disk.applyAll writes).database = disk.database ∨ P (disk.applyAll writes).database := by
  induction writes generalizing disk with
  | nil => exact .inl rfl
  | cons write writes ih =>
    obtain ⟨first, rest⟩ := List.forall_mem_cons.mp stores
    rcases ih (disk.apply write) rest with same | stored
    · cases write with
      | database db => exact .inr (same ▸ first)
      | anchorSlot index slot => exact .inl same
    · exact .inr stored

/-- Verifying writes the anchor at most. -/
theorem stores_of_verify {r : IdentityRegistry} {disk : Disk} {generation : ℕ}
    {writes : List DiskWrite} (verified : r.verifyAuthenticatedState disk = .ok (generation, writes))
    (P : Database → Prop) : ∀ write ∈ writes, write.Stores P := by
  simp only [IdentityRegistry.verifyAuthenticatedState, bind_eq_ok] at verified
  obtain ⟨_, -, anchor, -, rest⟩ := verified
  split at rest
  · simp only [IdentityRegistry.appendGenerationAnchor, bind_eq_ok, pure_eq_ok,
      Prod.mk.injEq] at rest
    obtain ⟨_, ⟨_, -, _, -, _, -, rfl⟩, -, rfl⟩ := rest
    exact fun write member => List.mem_singleton.mp member ▸ trivial
  · simp only [bind_eq_ok, pure_eq_ok, Prod.mk.injEq] at rest
    obtain ⟨_, -, -, rfl⟩ := rest
    exact fun write member => absurd member List.not_mem_nil

/-- The writes of a call: to the anchor, then the database that its transaction
commits, if it gets there, and to the anchor again. -/
theorem call_cases (r : IdentityRegistry) (op : Op) (disk : Disk) :
    ∃ checks, (∀ write ∈ checks, write.Stores fun _ => False) ∧
      ((∃ failure, op.call r disk = ⟨checks, .error failure⟩) ∨
        (op.transact r disk.database = .ok none ∧ op.call r disk = ⟨checks, .ok ()⟩) ∨
        ∃ db last result, op.transact r disk.database = .ok (some db) ∧
          (∀ write ∈ last, write.Stores fun _ => False) ∧
          op.call r disk = ⟨checks ++ .database db :: last, result⟩) := by
  unfold Op.call
  split
  next failure _ => exact ⟨[], List.forall_mem_nil _, .inl ⟨failure, rfl⟩⟩
  next first verified =>
    split
    next failure _ => exact ⟨first, stores_of_verify verified _, .inl ⟨failure, rfl⟩⟩
    next second verified' =>
      have checked : ∀ write ∈ first ++ second, write.Stores fun _ => False :=
        List.forall_mem_append.mpr ⟨stores_of_verify verified _, stores_of_verify verified' _⟩
      have same : (disk.applyAll (first ++ second)).database = disk.database :=
        (applyAll_database disk checked).resolve_right id
      refine ⟨first ++ second, checked, ?_⟩
      dsimp only
      rw [same]
      unfold finishCall
      split
      next failure _ => exact .inl ⟨failure, rfl⟩
      next committed => exact .inr (.inl ⟨committed, rfl⟩)
      next db committed =>
        right
        right
        dsimp only
        split
        next failure _ =>
          exact ⟨db, [], .error failure, committed, List.forall_mem_nil _, rfl⟩
        next last verified'' =>
          refine ⟨db, last, .ok (), committed, stores_of_verify verified'' _, ?_⟩
          rw [List.append_assoc, List.singleton_append]

theorem DiskWrite.Stores.weaken {write : DiskWrite} (stores : write.Stores fun _ => False)
    (P : Database → Prop) : write.Stores P := by
  cases write with
  | database db => exact stores.elim
  | anchorSlot index slot => trivial

/-- The only database a call stores is the one its transaction commits. -/
theorem stores_of_call (r : IdentityRegistry) (op : Op) (disk : Disk) :
    ∀ write ∈ (op.call r disk).writes,
      write.Stores fun db => op.transact r disk.database = .ok (some db) := by
  obtain ⟨checks, checked, ⟨failure, call⟩ | ⟨-, call⟩ | ⟨db, last, result, committed, anchored,
    call⟩⟩ := call_cases r op disk
  · rw [call]
    exact fun write member => (checked write member).weaken _
  · rw [call]
    exact fun write member => (checked write member).weaken _
  · rw [call]
    refine List.forall_mem_append.mpr ⟨fun write member => (checked write member).weaken _, ?_⟩
    exact List.forall_mem_cons.mpr
      ⟨committed, fun write member => (anchored write member).weaken _⟩

/-- A step leaves the database as it is, or as the transaction of its operation
commits it. -/
theorem database_step (r : IdentityRegistry) (disk : Disk) (step : Step) :
    (step.run r disk).database = disk.database ∨
      step.op.transact r disk.database = .ok (some (step.run r disk).database) := by
  cases step with
  | call op => exact applyAll_database disk (stores_of_call r op disk)
  | crash op done torn =>
    have kept : ∀ (d : Disk) (write : Option DiskWrite), (d.tear write torn).database = d.database := by
      intro d write
      unfold Disk.tear
      split <;> rfl
    unfold Step.run
    dsimp only
    rw [kept]
    have stores : ∀ write ∈ (op.call r disk).writes.take done,
        write.Stores fun db => op.transact r disk.database = .ok (some db) :=
      fun write member => stores_of_call r op disk write (List.mem_of_mem_take member)
    exact applyAll_database disk stores

/-! ## The claim of one GPU -/

/-- The claims by identity digest. -/
abbrev Claims := Table ClaimRow.gpuIdentityDigest

/-- What an operation can do to the claim of one GPU. -/
inductive RowStep (r : IdentityRegistry) : Op → Option ClaimRow → Option ClaimRow → Prop
  | keep (op : Op) (row : Option ClaimRow) : RowStep r op row row
  | claim (hotkey : Text) (verdict : ComponentVerdict) (occurred token : Text) (row : ClaimRow)
      (tokened : row.claimToken = some token) (kind : row.claimKind = .workerAdmission) :
      RowStep r (.beginClaim hotkey verdict occurred token) none (some row)
  | reserve (hotkey : Text) (verdict : ComponentVerdict) (occurred token : Text) (row : ClaimRow)
      (tokened : row.claimToken = some token) (kind : row.claimKind = .canaryReservation) :
      RowStep r (.beginExclusiveReservation hotkey verdict occurred token) none (some row)
  | commit (pending : PendingClaim) (row : ClaimRow)
      (held : row.hotkeyDigest = pending.hotkeyDigest) (kind : row.claimKind = .workerAdmission)
      (own : row.claimToken = none ∨ row.claimToken = some pending.token) :
      RowStep r (.commitClaim pending) (some row) (some (pending.committed row))
  | rollback (pending : PendingClaim) (row : ClaimRow)
      (held : row.hotkeyDigest = pending.hotkeyDigest)
      (tokened : row.claimToken = some pending.token) :
      RowStep r (.rollbackClaim pending) (some row) none
  | release (hotkey reason eventId releasedAt : Text) (row : ClaimRow)
      (held : r.privateDigest "cathedral-gpu-hotkey-v1\x00" hotkey = .ok row.hotkeyDigest)
      (committed : row.claimToken = none) (kind : row.claimKind = .workerAdmission) :
      RowStep r (.releaseWorker hotkey reason eventId releasedAt) (some row) none
  | recoverWorker (reason eventId recoveredAt : Text) (row : ClaimRow)
      (tokened : row.claimToken ≠ none) (kind : row.claimKind = .workerAdmission) :
      RowStep r (.recoverInterrupted reason eventId recoveredAt) (some row)
        (some { row with claimToken := none })
  | recoverCanary (reason eventId recoveredAt : Text) (row : ClaimRow)
      (tokened : row.claimToken ≠ none) (kind : row.claimKind = .canaryReservation) :
      RowStep r (.recoverInterrupted reason eventId recoveredAt) (some row) none

theorem commitAuthenticatedState_claims {r : IdentityRegistry} {previous : ℕ} {db db' : Database}
    (committed : r.commitAuthenticatedState previous db = .ok db') : db'.claims = db.claims := by
  simp only [IdentityRegistry.commitAuthenticatedState, bind_eq_ok, pure_eq_ok] at committed
  obtain ⟨_, -, _, -, rfl⟩ := committed
  rfl

/-! ### Loops -/

/-- Identities are only added, with rows of the given kind under the token. -/
def Adds (pending : PendingClaim) (kind : ClaimKind) (claims claims' : Claims) : Prop :=
  ∀ identity, claims'.find? identity = claims.find? identity ∨
    (claims.find? identity = none ∧
      ∃ digest, claims'.find? identity = some (pending.row kind digest))

theorem Adds.refl (pending : PendingClaim) (kind : ClaimKind) (claims : Claims) :
    Adds pending kind claims claims := fun _ => .inl rfl

theorem Adds.trans {pending : PendingClaim} {kind : ClaimKind} {a b c : Claims}
    (first : Adds pending kind a b) (second : Adds pending kind b c) : Adds pending kind a c := by
  intro identity
  rcases second identity with same | ⟨absent, added⟩
  · rw [same]
    exact first identity
  · rcases first identity with same' | ⟨-, digest, present⟩
    · exact .inr ⟨same' ▸ absent, added⟩
    · rw [absent] at present
      cases present

theorem adds_of_insert {pending : PendingClaim} {kind : ClaimKind} {claims claims' : Claims}
    {digest : Text} (inserted : insertClaim claims (pending.row kind digest) = .ok claims') :
    Adds pending kind claims claims' := by
  rw [insertClaim, demand_eq_ok] at inserted
  intro identity
  rw [Table.find?_insert inserted identity]
  by_cases same : (pending.row kind digest).gpuIdentityDigest = identity
  · have absent := Table.find?_eq_none.mpr (Table.insert_eq_some.mp inserted).1
    rw [if_pos same]
    exact .inr ⟨same ▸ absent, digest, rfl⟩
  · rw [if_neg same]
    exact .inl rfl

theorem adds_of_claimIdentity {pending : PendingClaim} {digest : Text}
    {state state' : Claims × List Text}
    (round : claimIdentity pending state digest = .ok state') :
    Adds pending .workerAdmission state.1 state'.1 := by
  unfold claimIdentity at round
  split at round
  · simp only [bind_eq_ok, pure_eq_ok] at round
    obtain ⟨claims, inserted, rfl⟩ := round
    exact adds_of_insert inserted
  · simp only [bind_eq_ok, pure_eq_ok] at round
    obtain ⟨_, -, _, -, rfl⟩ := round
    exact .refl _ _ _

/-- Claims of the worker are committed, and nothing else changes. -/
def Commits (pending : PendingClaim) (claims claims' : Claims) : Prop :=
  ∀ identity, claims'.find? identity = claims.find? identity ∨
    ∃ row, claims.find? identity = some row ∧ identity ∈ pending.identityDigests ∧
      row.hotkeyDigest = pending.hotkeyDigest ∧ row.claimKind = .workerAdmission ∧
      claims'.find? identity = some (pending.committed row)

theorem Commits.trans {pending : PendingClaim} {a b c : Claims} (first : Commits pending a b)
    (second : Commits pending b c) : Commits pending a c := by
  intro identity
  rcases first identity with same | ⟨row, found, listed, held, kind, changed⟩
  · rcases second identity with same' | ⟨row, found, rest⟩
    · exact .inl (same'.trans same)
    · exact .inr ⟨row, same ▸ found, rest⟩
  · right
    refine ⟨row, found, listed, held, kind, ?_⟩
    rcases second identity with same' | ⟨row', found', -, -, -, changed'⟩
    · rw [same', changed]
    · -- committing a committed row again changes nothing
      rw [changed] at found'
      cases found'
      exact changed'

theorem commits_of_commitIdentity {pending : PendingClaim} {digest : Text} {claims claims' : Claims}
    (listed : digest ∈ pending.identityDigests)
    (round : commitIdentity pending claims digest = .ok claims') :
    Commits pending claims claims' := by
  simp only [commitIdentity, bind_eq_ok, require_eq_ok, pure_eq_ok] at round
  obtain ⟨_, ⟨-, stored⟩, rfl⟩ := round
  intro identity
  rw [Table.find?_update]
  cases found : claims.find? identity with
  | none => exact .inl rfl
  | some row =>
    have keyed := (Table.find?_eq_some.mp found).2
    by_cases chosen : row.gpuIdentityDigest = digest ∧ row.hotkeyDigest = pending.hotkeyDigest
    · right
      have same : identity = digest := keyed.symm.trans chosen.1
      rw [Table.find?_update, ← same, found, Option.map_some, if_pos (same ▸ chosen)] at stored
      have kind := congrArg ClaimRow.claimKind (Option.some.inj stored)
      exact ⟨row, rfl, same ▸ listed, chosen.2, kind, by rw [Option.map_some, if_pos chosen]⟩
    · left
      rw [Option.map_some, if_neg chosen]

/-- Claims under tokens are settled, and nothing else changes. -/
def Settles (claims claims' : Claims) : Prop :=
  ∀ identity, claims'.find? identity = claims.find? identity ∨
    ∃ row, claims.find? identity = some row ∧ row.claimToken ≠ none ∧
      ((row.claimKind = .workerAdmission ∧
          claims'.find? identity = some { row with claimToken := none }) ∨
        (row.claimKind = .canaryReservation ∧ claims'.find? identity = none))

theorem Settles.trans {a b c : Claims} (first : Settles a b) (second : Settles b c) :
    Settles a c := by
  intro identity
  rcases second identity with same | ⟨row, found, tokened, settled⟩
  · rw [same]
    exact first identity
  · rcases first identity with same' | ⟨row', -, -, ⟨-, changed⟩ | ⟨-, gone⟩⟩
    · exact .inr ⟨row, same' ▸ found, tokened, settled⟩
    · -- what is settled once has no token any more
      rw [changed] at found
      cases found
      exact absurd rfl tokened
    · rw [gone] at found
      cases found

theorem settles_settleToken (claims : Claims) (group : Text × ClaimKind) :
    Settles claims (settleToken claims group) := by
  intro identity
  obtain ⟨token, kind⟩ := group
  cases found : claims.find? identity with
  | none =>
    left
    unfold settleToken
    split
    · rw [Table.find?_update, found, Option.map_none]
    · rw [Table.find?_delete, found, Option.filter_none]
  | some row =>
    by_cases under : row.UnderToken (token, kind)
    · right
      have tokened : row.claimToken ≠ none := by
        rw [under.1]
        exact Option.some_ne_none token
      refine ⟨row, rfl, tokened, ?_⟩
      cases kind with
      | workerAdmission =>
        refine .inl ⟨under.2, ?_⟩
        rw [settleToken, Table.find?_update, found, Option.map_some, if_pos under]
      | canaryReservation =>
        refine .inr ⟨under.2, ?_⟩
        rw [settleToken, Table.find?_delete, found]
        simp [Option.filter, under]
    · left
      cases kind with
      | workerAdmission =>
        rw [settleToken, Table.find?_update, found, Option.map_some, if_neg under]
      | canaryReservation =>
        rw [settleToken, Table.find?_delete, found]
        simp [Option.filter, under]

theorem settles_of_loop {db : Database} {claims claims' : Claims}
    {groups : List (Text × ClaimKind)}
    (looped : groups.foldlM (recoverToken db) claims = .ok claims') : Settles claims claims' := by
  refine relation_foldlM (R := Settles) (fun _ _ => .inl rfl) .trans ?_ looped
  intro group _ before after round
  simp only [recoverToken, bind_eq_ok, pure_eq_ok] at round
  obtain ⟨_, -, rfl⟩ := round
  exact settles_settleToken before group

/-! ### Operations -/

section Operations

variable {r : IdentityRegistry} {db db' : Database}

theorem rowStep_of_beginClaim {hotkey occurred token : Text} {verdict : ComponentVerdict}
    {pending : PendingClaim}
    (begun : r.beginClaim hotkey verdict occurred token db = .ok (pending, db')) (identity : Text) :
    RowStep r (.beginClaim hotkey verdict occurred token) (db.claims.find? identity)
      (db'.claims.find? identity) := by
  simp only [IdentityRegistry.beginClaim, bind_eq_ok, pure_eq_ok, Prod.mk.injEq] at begun
  obtain ⟨⟨_, _⟩, -, ⟨claims, _⟩, looped, _, -, _, committed, rfl, rfl⟩ := begun
  rw [commitAuthenticatedState_claims committed]
  have adds := relation_foldlM (R := fun state state' => Adds _ .workerAdmission state.1 state'.1)
    (fun _ => .refl _ _ _) .trans (fun _ _ _ _ round => adds_of_claimIdentity round) looped
  rcases adds identity with same | ⟨absent, digest, added⟩
  · rw [show claims.find? identity = db.claims.find? identity from same]
    exact .keep _ _
  · have added : claims.find? identity = _ := added
    rw [show db.claims.find? identity = none from absent, added]
    exact .claim _ _ _ _ _ rfl rfl

theorem rowStep_of_reservation {hotkey occurred token : Text} {verdict : ComponentVerdict}
    {pending : PendingClaim}
    (begun : r.beginExclusiveReservation hotkey verdict occurred token db = .ok (pending, db'))
    (identity : Text) :
    RowStep r (.beginExclusiveReservation hotkey verdict occurred token)
      (db.claims.find? identity) (db'.claims.find? identity) := by
  simp only [IdentityRegistry.beginExclusiveReservation, bind_eq_ok, pure_eq_ok,
    Prod.mk.injEq] at begun
  obtain ⟨⟨_, _⟩, -, _, -, claims, looped, _, -, _, committed, rfl, rfl⟩ := begun
  rw [commitAuthenticatedState_claims committed]
  have adds := relation_foldlM (R := Adds _ .canaryReservation) (.refl _ _) .trans
    (fun row member _ _ inserted => by
      obtain ⟨digest, -, rfl⟩ := List.mem_map.mp member
      exact adds_of_insert inserted) looped
  rcases adds identity with same | ⟨absent, digest, added⟩
  · rw [show claims.find? identity = db.claims.find? identity from same]
    exact .keep _ _
  · rw [absent, show claims.find? identity = _ from added]
    exact .reserve _ _ _ _ _ rfl rfl

theorem rowStep_of_commitClaim {pending : PendingClaim}
    (committed : r.commitClaim pending db = .ok db') (identity : Text) :
    RowStep r (.commitClaim pending) (db.claims.find? identity) (db'.claims.find? identity) := by
  simp only [IdentityRegistry.commitClaim, bind_eq_ok] at committed
  obtain ⟨checks, checked, claims, looped, stored⟩ := committed
  rw [commitAuthenticatedState_claims stored]
  have commits := relation_foldlM (R := Commits pending) (fun _ _ => .inl rfl) .trans
    (fun digest member _ _ round => commits_of_commitIdentity member round) looped
  rcases commits identity with same | ⟨row, found, listed, held, kind, changed⟩
  · rw [show claims.find? identity = db.claims.find? identity from same]
    exact .keep _ _
  · -- the first loop looked at the token
    obtain ⟨_, check⟩ := ok_of_mapM checked listed
    simp only [requireHeld, bind_eq_ok, require_eq_ok] at check
    obtain ⟨_, -, row', found', own, -⟩ := check
    rw [found] at found'
    cases found'
    rw [found, show claims.find? identity = _ from changed]
    exact .commit pending row held kind own

/-- Deleting claims keeps a claim, or deletes it where the condition holds. -/
theorem find?_delete_cases {claims : Claims} (p : ClaimRow → Prop) [DecidablePred p]
    (identity : Text) :
    (claims.delete p).find? identity = claims.find? identity ∨
      ∃ row, claims.find? identity = some row ∧ p row ∧
        (claims.delete p).find? identity = none := by
  rw [Table.find?_delete]
  cases found : claims.find? identity with
  | none => exact .inl rfl
  | some row =>
    by_cases deleted : p row
    · exact .inr ⟨row, rfl, deleted, by simp [Option.filter, deleted]⟩
    · exact .inl (by simp [Option.filter, deleted])

theorem rowStep_of_rollback {pending : PendingClaim}
    (rolled : r.rollbackClaim pending db = .ok db') (identity : Text) :
    RowStep r (.rollbackClaim pending) (db.claims.find? identity) (db'.claims.find? identity) := by
  simp only [IdentityRegistry.rollbackClaim, bind_eq_ok] at rolled
  obtain ⟨_, -, stored⟩ := rolled
  rw [commitAuthenticatedState_claims stored]
  rcases find?_delete_cases (fun row => row.claimToken = some pending.token ∧
    row.hotkeyDigest = pending.hotkeyDigest) identity with same | ⟨row, found, ⟨own, held⟩, gone⟩
  · exact same ▸ .keep _ _
  · rw [found, gone]
    exact .rollback pending row held own

theorem rowStep_of_release {hotkey reason eventId releasedAt : Text}
    (released : r.releaseWorker hotkey reason eventId releasedAt db = .ok db') (identity : Text) :
    RowStep r (.releaseWorker hotkey reason eventId releasedAt) (db.claims.find? identity)
      (db'.claims.find? identity) := by
  simp only [IdentityRegistry.releaseWorker, bind_eq_ok] at released
  obtain ⟨_, -, _, -, digest, named, _, -, _, -, _, -, _, -, events, -, stored⟩ := released
  rw [commitAuthenticatedState_claims stored]
  rcases find?_delete_cases (fun row => row.hotkeyDigest = digest ∧
    row.claimKind = .workerAdmission ∧ row.claimToken = none) identity with
    same | ⟨row, found, ⟨held, kind, committed⟩, gone⟩
  · exact same ▸ .keep _ _
  · rw [found, gone]
    exact .release hotkey reason eventId releasedAt row (held ▸ named) committed kind

/-- What recovery leaves: no token, and every claim under one settled. -/
theorem recoverInterrupted_cases {reason eventId recoveredAt : Text}
    (recovered : r.recoverInterrupted reason eventId recoveredAt db = .ok db') :
    Settles db.claims db'.claims ∧ ∀ row ∈ db'.claims.rows, row.claimToken = none := by
  simp only [IdentityRegistry.recoverInterrupted, bind_eq_ok, require_eq_ok] at recovered
  obtain ⟨_, -, _, -, _, -, _, -, claims, looped, _, -, events, -, _, settled, stored⟩ := recovered
  rw [commitAuthenticatedState_claims stored]
  exact ⟨settles_of_loop looped, settled⟩

theorem rowStep_of_recover {reason eventId recoveredAt : Text}
    (recovered : r.recoverInterrupted reason eventId recoveredAt db = .ok db') (identity : Text) :
    RowStep r (.recoverInterrupted reason eventId recoveredAt) (db.claims.find? identity)
      (db'.claims.find? identity) := by
  rcases (recoverInterrupted_cases recovered).1 identity with
    same | ⟨row, found, tokened, ⟨kind, changed⟩ | ⟨kind, gone⟩⟩
  · exact same ▸ .keep _ _
  · rw [found, changed]
    exact .recoverWorker reason eventId recoveredAt row tokened kind
  · rw [found, gone]
    exact .recoverCanary reason eventId recoveredAt row tokened kind

/-- **One GPU, one step.** A committed transaction changes the claim of a GPU only
in the ways of `RowStep`. -/
theorem rowStep_of_transact {op : Op} (committed : op.transact r db = .ok (some db'))
    (identity : Text) :
    RowStep r op (db.claims.find? identity) (db'.claims.find? identity) := by
  cases op with
  | openRegistry =>
    simp only [Op.transact, bind_eq_ok, pure_eq_ok] at committed
    obtain ⟨_, -, no⟩ := committed
    cases no
  | read => cases committed
  | beginClaim hotkey verdict occurred token =>
    simp only [Op.transact, map_eq_ok, Option.some.injEq] at committed
    obtain ⟨⟨pending, _⟩, begun, rfl⟩ := committed
    exact rowStep_of_beginClaim begun identity
  | beginExclusiveReservation hotkey verdict occurred token =>
    simp only [Op.transact, map_eq_ok, Option.some.injEq] at committed
    obtain ⟨⟨pending, _⟩, begun, rfl⟩ := committed
    exact rowStep_of_reservation begun identity
  | commitClaim pending =>
    simp only [Op.transact, map_eq_ok, Option.some.injEq, exists_eq_right] at committed
    exact rowStep_of_commitClaim committed identity
  | rollbackClaim pending =>
    simp only [Op.transact, map_eq_ok, Option.some.injEq, exists_eq_right] at committed
    exact rowStep_of_rollback committed identity
  | releaseWorker hotkey reason eventId releasedAt =>
    simp only [Op.transact, map_eq_ok, Option.some.injEq, exists_eq_right] at committed
    exact rowStep_of_release committed identity
  | recoverInterrupted reason eventId recoveredAt =>
    simp only [Op.transact, map_eq_ok, Option.some.injEq, exists_eq_right] at committed
    exact rowStep_of_recover committed identity

end Operations

/-- The claim of a GPU on a disk. -/
def Disk.claim? (disk : Disk) (identityDigest : Text) : Option ClaimRow :=
  disk.database.claims.find? identityDigest

theorem rowStep_of_step (r : IdentityRegistry) (disk : Disk) (step : Step) (identity : Text) :
    RowStep r step.op (disk.claim? identity) ((step.run r disk).claim? identity) := by
  unfold Disk.claim?
  rcases database_step r disk step with same | committed
  · rw [same]
    exact .keep _ _
  · exact rowStep_of_transact committed identity

/-! ## Owners, canaries and tokens -/

/-- The claim gives the GPU to a worker. -/
structure Committed (row : ClaimRow) : Prop where
  token : row.claimToken = none
  kind : row.claimKind = .workerAdmission

/-- The operation releases the worker with a digest. -/
def Op.Releases (r : IdentityRegistry) (hotkeyDigest : Text) (op : Op) : Prop :=
  ∃ hotkey reason eventId releasedAt, op = .releaseWorker hotkey reason eventId releasedAt ∧
    r.privateDigest "cathedral-gpu-hotkey-v1\x00" hotkey = .ok hotkeyDigest

/-- The operation begins a claim or a reservation under the token. -/
def Op.Begins (token : Text) (op : Op) : Prop :=
  ∃ hotkey verdict occurred, op = .beginClaim hotkey verdict occurred token ∨
    op = .beginExclusiveReservation hotkey verdict occurred token

/-- The GPU is held by the worker: claimed or reserved, under a token or not. -/
def Holds (r : IdentityRegistry) (disk : Disk) (gpu hotkey : Text) : Prop :=
  ∃ identityDigest row, r.privateDigest "cathedral-gpu-identity-v1\x00" gpu = .ok identityDigest ∧
    disk.claim? identityDigest = some row ∧
    r.privateDigest "cathedral-gpu-hotkey-v1\x00" hotkey = .ok row.hotkeyDigest

section Steps

variable {r : IdentityRegistry} {op : Op} {row : ClaimRow} {claim : Option ClaimRow}

/-- Only a release of its worker ends a committed claim. -/
theorem RowStep.committed (step : RowStep r op (some row) claim) (committed : Committed row) :
    (∃ row', claim = some row' ∧ Committed row' ∧ row'.hotkeyDigest = row.hotkeyDigest) ∨
      op.Releases r row.hotkeyDigest := by
  cases step with
  | keep => exact .inl ⟨row, rfl, committed, rfl⟩
  | commit pending _ held kind own => exact .inl ⟨_, rfl, ⟨rfl, kind⟩, rfl⟩
  | rollback pending _ held tokened =>
    rw [committed.token] at tokened
    cases tokened
  | release hotkey reason eventId releasedAt _ held _ _ =>
    exact .inr ⟨hotkey, reason, eventId, releasedAt, rfl, held⟩
  | recoverWorker _ _ _ _ tokened _ => exact absurd committed.token tokened
  | recoverCanary _ _ _ _ tokened _ => exact absurd committed.token tokened

/-- A reservation stays as it is until it is gone. -/
theorem RowStep.canary (step : RowStep r op (some row) claim)
    (canary : row.claimKind = .canaryReservation) : claim = some row ∨ claim = none := by
  cases step with
  | keep => exact .inl rfl
  | commit pending _ held kind own =>
    rw [canary] at kind
    cases kind
  | recoverWorker _ _ _ _ _ kind =>
    rw [canary] at kind
    cases kind
  | _ => exact .inr rfl

/-- A claim that comes under a token is inserted by the operation that drew it. -/
theorem RowStep.tokened {token : Text} {old : Option ClaimRow} (step : RowStep r op old (some row))
    (new : row.claimToken = some token)
    (fresh : ∀ prior, old = some prior → prior.claimToken ≠ some token) :
    old = none ∧ op.Begins token := by
  cases step with
  | keep => exact absurd new (fresh row rfl)
  | claim hotkey verdict occurred token' _ tokened kind =>
    rw [tokened] at new
    cases new
    exact ⟨rfl, hotkey, verdict, occurred, .inl rfl⟩
  | reserve hotkey verdict occurred token' _ tokened kind =>
    rw [tokened] at new
    cases new
    exact ⟨rfl, hotkey, verdict, occurred, .inr rfl⟩
  | commit => cases new
  | recoverWorker => cases new

/-- A rollback deletes what is under its token. -/
theorem RowStep.rolledBack {pending : PendingClaim}
    (step : RowStep r (.rollbackClaim pending) (some row) none) :
    row.claimToken = some pending.token := by
  cases step with
  | rollback _ _ _ tokened => exact tokened

end Steps

/-! ## Runs -/

section Runs

variable {r : IdentityRegistry} {disk : Disk} (steps : List Step)

theorem committed_or_released {identity : Text} {row : ClaimRow}
    (found : disk.claim? identity = some row) (committed : Committed row) :
    (∃ row', (runSteps r disk steps).claim? identity = some row' ∧ Committed row' ∧
        row'.hotkeyDigest = row.hotkeyDigest) ∨
      ∃ step ∈ steps, step.op.Releases r row.hotkeyDigest := by
  by_cases kept : ∃ row', (runSteps r disk steps).claim? identity = some row' ∧ Committed row' ∧
      row'.hotkeyDigest = row.hotkeyDigest
  · exact .inl kept
  · -- the step at which the worker lost the GPU
    right
    obtain ⟨before, step, after, rfl, owned, lost⟩ := exists_turning_point
      (P := fun d : Disk => ¬ ∃ row', d.claim? identity = some row' ∧ Committed row' ∧
        row'.hotkeyDigest = row.hotkeyDigest) (not_not.mpr ⟨row, found, committed, rfl⟩) kept
    obtain ⟨row', found', committed', same⟩ := not_not.mp owned
    rw [run_append] at lost
    have change := rowStep_of_step r (runSteps r disk before) step identity
    rw [found'] at change
    rcases change.committed committed' with ⟨row'', found'', committed'', same'⟩ | released
    · exact absurd ⟨row'', found'', committed'', same'.trans same⟩ lost
    · exact ⟨step, List.mem_append_right _ List.mem_cons_self, same ▸ released⟩

theorem canary_or_gone {identity : Text} {row : ClaimRow}
    (found : disk.claim? identity = some row) (canary : row.claimKind = .canaryReservation) :
    (runSteps r disk steps).claim? identity = some row ∨
      ∃ before after, steps = before ++ after ∧
        (runSteps r disk before).claim? identity = none := by
  by_cases kept : (runSteps r disk steps).claim? identity = some row
  · exact .inl kept
  · right
    obtain ⟨before, step, after, rfl, reserved, changed⟩ := exists_turning_point
      (P := fun d : Disk => ¬ d.claim? identity = some row) (not_not.mpr found) kept
    have change := rowStep_of_step r (runSteps r disk before) step identity
    rw [not_not.mp reserved] at change
    rw [run_append] at changed
    refine ⟨before ++ [step], after, by simp, ?_⟩
    rw [runSteps, run_append]
    exact (change.canary canary).resolve_left changed

/-- A claim under a token was inserted under it. -/
theorem inserted_under_token {identity token : Text} {row : ClaimRow}
    (found : (runSteps r (.initial r) steps).claim? identity = some row)
    (tokened : row.claimToken = some token) :
    ∃ before step after, steps = before ++ step :: after ∧ step.op.Begins token ∧
      (runSteps r (.initial r) before).claim? identity = none ∧
      ∃ row', (runSteps r (.initial r) (before ++ [step])).claim? identity = some row' ∧
        row'.claimToken = some token := by
  obtain ⟨before, step, after, rfl, absent, row', found', tokened'⟩ := exists_turning_point
    (P := fun d : Disk => ∃ row', d.claim? identity = some row' ∧ row'.claimToken = some token)
    (fun ⟨_, absent, _⟩ => nomatch absent) ⟨row, found, tokened⟩
  have change := rowStep_of_step r (runSteps r (.initial r) before) step identity
  have after' : (step.run r (runSteps r (.initial r) before)).claim? identity = some row' := by
    rw [run_append] at found'
    exact found'
  rw [after'] at change
  obtain ⟨new, begins⟩ := change.tokened tokened' fun prior old own => absent ⟨prior, old, own⟩
  exact ⟨before, step, after, rfl, begins, new, row', found', tokened'⟩

theorem applyAll_append (disk : Disk) (first second : List DiskWrite) :
    disk.applyAll (first ++ second) = (disk.applyAll first).applyAll second :=
  List.foldl_append

/-- A call that returns and commits a database leaves that database. -/
theorem database_of_call {op : Op} (returned : (op.call r disk).result = .ok ())
    (changes : op.transact r disk.database ≠ .ok none) :
    op.transact r disk.database = .ok (some ((Step.call op).run r disk).database) := by
  obtain ⟨checks, checked, ⟨failure, call⟩ | ⟨silent, -⟩ | ⟨db, last, result, committed, anchored,
    call⟩⟩ := call_cases r op disk
  · rw [call] at returned
    cases returned
  · exact absurd silent changes
  · have stored : ((Step.call op).run r disk).database = db := by
      have reached : (Step.call op).run r disk =
          (disk.applyAll checks).applyAll (.database db :: last) := by
        rw [← applyAll_append, Step.run, call]
      rw [reached]
      exact (applyAll_database ((disk.applyAll checks).apply (.database db)) anchored).resolve_right
        id
    rw [stored, committed]

end Runs

/-! ## Recovery commits -/

section Recovery

variable {db : Database} {claims : Claims}

/-- Settling one token leaves the claims under another. -/
theorem select_settleToken {group other : Text × ClaimKind} (different : other.1 ≠ group.1) :
    ((settleToken claims group).select fun row => row.UnderToken other) =
      claims.select fun row => row.UnderToken other := by
  have apart : ∀ row : ClaimRow, row.UnderToken group → ¬ row.UnderToken other :=
    fun row under under' => different (Option.some.inj (under'.1.symm.trans under.1))
  unfold settleToken
  split
  · refine Table.select_update fun row _ under => ⟨apart row under, ?_⟩
    rintro ⟨token, -⟩
    cases token
  · exact Table.select_delete fun row _ under => apart row under

/-- A settled token has no claims under it. -/
theorem select_settleToken_self (group : Text × ClaimKind) :
    ((settleToken claims group).select fun row => row.UnderToken group) = [] := by
  rw [List.eq_nil_iff_forall_not_mem]
  intro row member
  obtain ⟨inside, under⟩ := Table.mem_select.mp member
  unfold settleToken at inside
  split at inside
  · obtain ⟨old, -, rfl⟩ := Table.exists_of_mem_update inside
    split at under
    · cases under.1
    case isFalse missed => exact missed under
  · exact (Table.mem_delete.mp inside).2 under

/-- The loop settles every token, each with the claims it had at the start. -/
theorem recover_loop {groups : List (Text × ClaimKind)} (distinct : (groups.map Prod.fst).Nodup)
    (untouched : ∀ group ∈ groups, (claims.select fun row => row.UnderToken group) =
      db.claims.select fun row => row.UnderToken group) :
    ∃ claims', groups.foldlM (recoverToken db) claims = .ok claims' ∧
      ∀ group, (group ∈ groups → (claims'.select fun row => row.UnderToken group) = []) ∧
        (group.1 ∉ groups.map Prod.fst → (claims'.select fun row => row.UnderToken group) =
          claims.select fun row => row.UnderToken group) := by
  induction groups generalizing claims with
  | nil => exact ⟨claims, rfl, fun group => ⟨(nomatch ·), fun _ => rfl⟩⟩
  | cons group groups ih =>
    rw [List.map_cons, List.nodup_cons] at distinct
    obtain ⟨first, others⟩ := List.forall_mem_cons.mp untouched
    have round : recoverToken db claims group = .ok (settleToken claims group) := by
      simp [recoverToken, first, require, bind, Except.bind, pure, Except.pure]
    have apart : ∀ other ∈ groups, other.1 ≠ group.1 := by
      intro other member same
      exact distinct.1 (same ▸ List.mem_map_of_mem member)
    obtain ⟨claims', looped, settled⟩ := ih distinct.2 fun other member =>
      (select_settleToken (apart other member)).trans (others other member)
    refine ⟨claims', ?_, fun other => ⟨fun member => ?_, fun absent => ?_⟩⟩
    · rw [List.foldlM_cons, round]
      exact looped
    · rcases List.mem_cons.mp member with rfl | later
      · rw [(settled other).2 distinct.1]
        exact select_settleToken_self other
      · exact (settled other).1 later
    · rw [List.map_cons, List.mem_cons, not_or] at absent
      rw [(settled other).2 absent.2, select_settleToken absent.1]

/-- The tokens left behind, with the kind of their claims. -/
theorem mem_interruptedTokens {group : Text × ClaimKind} :
    group ∈ interruptedTokens db ↔ ∃ row ∈ db.claims.rows, row.UnderToken group := by
  obtain ⟨token, kind⟩ := group
  simp only [interruptedTokens, List.mem_insertionSort, List.mem_dedup, List.mem_filterMap,
    Option.map_eq_some_iff, Prod.mk.injEq, ClaimRow.UnderToken]
  constructor
  · rintro ⟨row, member, _, tokened, rfl, rfl⟩
    exact ⟨row, member, tokened, rfl⟩
  · rintro ⟨row, member, tokened, rfl⟩
    exact ⟨row, member, token, tokened, rfl, rfl⟩

/-- A claim that is still under a token was there at the start, so the loop settled it. -/
theorem clean_of_loop {claims' : Table ClaimRow.gpuIdentityDigest}
    (looped : (interruptedTokens db).foldlM (recoverToken db) db.claims = .ok claims')
    (settled : ∀ group ∈ interruptedTokens db,
      (claims'.select fun row => row.UnderToken group) = []) :
    ∀ row ∈ claims'.rows, row.claimToken = none := by
  intro row member
  by_contra tokened
  obtain ⟨token, tokened'⟩ := Option.ne_none_iff_exists'.mp tokened
  have found := Table.find?_eq_some.mpr ⟨member, rfl⟩
  rcases settles_of_loop looped row.gpuIdentityDigest with
    same | ⟨old, -, -, ⟨-, changed⟩ | ⟨-, gone⟩⟩
  · have inside := (Table.find?_eq_some.mp (same.symm.trans found)).1
    have empty := settled (token, row.claimKind)
      (mem_interruptedTokens.mpr ⟨row, inside, tokened', rfl⟩)
    have left : row ∈ claims'.select fun other => other.UnderToken (token, row.claimKind) :=
      Table.mem_select.mpr ⟨member, tokened', rfl⟩
    rw [empty] at left
    cases left
  · rw [found] at changed
    cases changed
    exact tokened rfl
  · rw [found] at gone
    cases gone

/-- **Recovery.** Where a token is left behind, no token is used for both kinds,
the reason passes its check and has a UTF-8 form, and the event identifier and the
generation pass theirs, the transaction of `recover_interrupted` commits. -/
theorem recovery_commits (r : IdentityRegistry) {reason eventId : Text} (recoveredAt : Text)
    (pending : ∃ row ∈ db.claims.rows, row.claimToken ≠ none)
    (encodable : ∀ row ∈ db.claims.rows, ∀ token ∈ row.claimToken, token.utf8.isSome)
    (oneKind : ((interruptedTokens db).map Prod.fst).Nodup) (reasoned : isReason reason = true)
    (storable : reason.utf8.isSome)
    (fresh : ∀ event ∈ db.recoveryEvents.rows, event.eventId ≠ eventId)
    (room : db.databaseGeneration < maxIdentityGeneration) :
    ∃ db', r.recoverInterrupted reason eventId recoveredAt db = .ok db' := by
  have some_group : interruptedTokens db ≠ [] := by
    obtain ⟨row, member, tokened⟩ := pending
    obtain ⟨token, tokened⟩ := Option.ne_none_iff_exists'.mp tokened
    have group : (token, row.claimKind) ∈ interruptedTokens db :=
      mem_interruptedTokens.mpr ⟨row, member, tokened, rfl⟩
    exact List.ne_nil_of_mem group
  have digests : ∃ digests, (interruptedTokens db).mapM (fun group =>
      r.privateDigest "cathedral-gpu-recovery-token-v1\x00" group.1) = .ok digests := by
    refine exists_of_forall_ok fun group member => ?_
    obtain ⟨row, inside, tokened, -⟩ := mem_interruptedTokens.mp member
    obtain ⟨octets, encoded⟩ :=
      Option.isSome_iff_exists.mp (encodable row inside group.1 tokened)
    exact ⟨_, by rw [IdentityRegistry.privateDigest, encoded]; rfl⟩
  obtain ⟨digests, digested⟩ := digests
  obtain ⟨claims', looped, settled⟩ := recover_loop oneKind fun (_ : Text × ClaimKind) _ => rfl
  have clean := clean_of_loop looped fun group member => (settled group).1 member
  obtain ⟨events, inserted⟩ : ∃ events, db.recoveryEvents.insert ⟨eventId, recoveredAt, reason,
      interruptedClaims (interruptedTokens db) .workerAdmission,
      interruptedIdentities db .workerAdmission,
      interruptedClaims (interruptedTokens db) .canaryReservation,
      interruptedIdentities db .canaryReservation, r.digestsJson digests⟩ = some events :=
    Table.exists_insert fresh
  obtain ⟨octets, encoded⟩ := Option.isSome_iff_exists.mp storable
  simp only [IdentityRegistry.recoverInterrupted, bind_eq_ok, require_eq_ok, demand_eq_ok,
    IdentityRegistry.commitAuthenticatedState, pure_eq_ok]
  exact ⟨_, (), reasoned, (), some_group, (), oneKind, digests, digested, claims', looped, octets,
    encoded, events, inserted, (), clean, (), room, (), trivial, rfl⟩

end Recovery

/-- **GPU ownership.** In every run of the registry, with crashes anywhere:

* a GPU is held by one hotkey at a time, as far as keyed digests tell hotkeys apart;
* a GPU a worker owns stays with that worker until a release of that worker;
* a reservation stays as it is until it is gone, so it becomes nobody's own;
* a rollback frees only what was inserted under its token;
* after a recovery that returns no token is left, the claims under tokens are
  committed and the reservations under tokens are gone;
* where a token is left behind, no token is used for both kinds and the recovery's
  own data pass their checks and can be stored, its transaction commits. -/
theorem gpu_identity_ownership (r : IdentityRegistry) (before after : List Step) :
    let disk := runSteps r (.initial r) before
    let later := runSteps r (.initial r) (before ++ after)
    (∀ gpu first second, Holds r disk gpu first → Holds r disk gpu second →
      r.privateDigest "cathedral-gpu-hotkey-v1\x00" first =
        r.privateDigest "cathedral-gpu-hotkey-v1\x00" second) ∧
    (∀ identity row, disk.claim? identity = some row → Committed row →
      (∃ row', later.claim? identity = some row' ∧ Committed row' ∧
        row'.hotkeyDigest = row.hotkeyDigest) ∨
      ∃ step ∈ after, step.op.Releases r row.hotkeyDigest) ∧
    (∀ identity row, disk.claim? identity = some row → row.claimKind = .canaryReservation →
      later.claim? identity = some row ∨ ∃ first rest, after = first ++ rest ∧
        (runSteps r (.initial r) (before ++ first)).claim? identity = none) ∧
    (∀ identity row pending (step : Step), disk.claim? identity = some row →
      step.op = .rollbackClaim pending → (step.run r disk).claim? identity = none →
      row.claimToken = some pending.token ∧
      ∃ first opening rest, before = first ++ opening :: rest ∧ opening.op.Begins pending.token ∧
        (runSteps r (.initial r) first).claim? identity = none ∧
        ∃ row', (runSteps r (.initial r) (first ++ [opening])).claim? identity = some row' ∧
          row'.claimToken = some pending.token) ∧
    ∀ reason eventId recoveredAt,
      let recovery := Op.recoverInterrupted reason eventId recoveredAt
      let recovered := (Step.call recovery).run r disk
      ((recovery.call r disk).result = .ok () →
        (∀ row ∈ recovered.database.claims.rows, row.claimToken = none) ∧
        ∀ identity row, disk.claim? identity = some row → row.claimToken ≠ none →
          (row.claimKind = .workerAdmission →
            recovered.claim? identity = some { row with claimToken := none }) ∧
          (row.claimKind = .canaryReservation → recovered.claim? identity = none)) ∧
      ((∃ row ∈ disk.database.claims.rows, row.claimToken ≠ none) →
        (∀ row ∈ disk.database.claims.rows, ∀ token ∈ row.claimToken, token.utf8.isSome) →
        ((interruptedTokens disk.database).map Prod.fst).Nodup → isReason reason = true →
        reason.utf8.isSome →
        (∀ event ∈ disk.database.recoveryEvents.rows, event.eventId ≠ eventId) →
        disk.database.databaseGeneration < maxIdentityGeneration →
        ∃ db, recovery.transact r disk.database = .ok (some db)) := by
  intro disk later
  have continued : later = runSteps r disk after := run_append _ _ _ _
  refine ⟨?_, ?_, ?_, ?_, ?_⟩
  · rintro gpu first second ⟨digest, row, named, found, held⟩ ⟨digest', row', named', found', held'⟩
    -- one GPU has one digest, and one digest one row
    rw [named] at named'
    cases named'
    rw [found] at found'
    cases found'
    rw [held, held']
  · intro identity row found committed
    rw [continued]
    exact committed_or_released after found committed
  · intro identity row found canary
    rw [continued]
    rcases canary_or_gone after found canary with kept | ⟨first, rest, split, gone⟩
    · exact .inl kept
    · refine .inr ⟨first, rest, split, ?_⟩
      rw [runSteps, run_append]
      exact gone
  · intro identity row pending step found rolls gone
    have change := rowStep_of_step r disk step identity
    rw [found, gone, rolls] at change
    -- the row was under the token, so some call of the run inserted it under the token
    exact ⟨change.rolledBack, inserted_under_token before found change.rolledBack⟩
  · intro reason eventId recoveredAt recovery recovered
    refine ⟨fun returned => ?_, fun pending encodable oneKind reasoned storable fresh room => ?_⟩
    case refine_2 =>
      obtain ⟨db, committed⟩ := recovery_commits r recoveredAt pending encodable oneKind
        reasoned storable fresh room
      exact ⟨db, by simp only [recovery, Op.transact, committed, Except.map]⟩
    have committed : recovery.transact r disk.database = .ok (some recovered.database) := by
      refine database_of_call returned fun silent => ?_
      simp only [recovery, Op.transact, map_eq_ok] at silent
      obtain ⟨_, -, no⟩ := silent
      cases no
    simp only [recovery, Op.transact, map_eq_ok, Option.some.injEq, exists_eq_right] at committed
    obtain ⟨settles, clean⟩ := recoverInterrupted_cases committed
    refine ⟨clean, fun identity row found tokened => ?_⟩
    rcases settles identity with same | ⟨row', found', -, settled⟩
    · -- a claim that was not settled would still be under its token
      have left : recovered.database.claims.find? identity = some row := same.trans found
      exact absurd (clean row (Table.find?_eq_some.mp left).1) tokened
    · have equal : row' = row := Option.some.inj (found'.symm.trans found)
      subst equal
      rcases settled with ⟨kind, changed⟩ | ⟨kind, gone⟩
      · exact ⟨fun _ => changed, fun canary => absurd (kind.symm.trans canary) (by decide)⟩
      · exact ⟨fun worker => absurd (kind.symm.trans worker) (by decide), fun _ => gone⟩

end Cathedral.Gpu
