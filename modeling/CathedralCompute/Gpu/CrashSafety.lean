import CathedralCompute.Gpu.Ownership
import CathedralCompute.Sample

/-!
# Crashes and the generation anchor

The database is committed before the anchor, so after a crash the database is at
the generation of the anchor or one ahead. The slot that is written next is the
one the anchor does not rest on: whatever a torn write leaves there, the other
slot still holds the generation before. So the current database is accepted again,
and a database from before the anchor never is.

A torn slot may hold anything that is no forgery: it reads as nothing, as what
stood there before, or as what was being written.

## Main results

* `generation_anchor_crash_safe` — reopening succeeds and rollback is refused
-/

set_option autoImplicit false

namespace Cathedral.Gpu

open Codec Semantics

/-! ## Slots -/

section Slots

variable {raw slot : Bytes} {index other : ℕ}

theorem length_writeSlot (whole : raw.length = anchorBytes) (inside : index < anchorSlots)
    (full : slot.length = anchorSlotBytes) : (writeSlot raw index slot).length = anchorBytes := by
  simp only [writeSlot, List.length_append, List.length_take, List.length_drop, whole, full]
  unfold anchorBytes anchorSlots anchorSlotBytes at *
  omega

theorem slotAt_writeSlot (whole : raw.length = anchorBytes) (inside : index < anchorSlots)
    (full : slot.length = anchorSlotBytes) : slotAt (writeSlot raw index slot) index = slot := by
  have before : (raw.take (index * anchorSlotBytes)).length = index * anchorSlotBytes := by
    rw [List.length_take, whole]
    unfold anchorBytes anchorSlots anchorSlotBytes at *
    omega
  rw [slotAt, writeSlot, List.append_assoc, List.drop_left' before, List.take_left' full]

theorem slotAt_writeSlot_of_ne (whole : raw.length = anchorBytes) (inside : index < anchorSlots)
    (inside' : other < anchorSlots) (different : other ≠ index)
    (full : slot.length = anchorSlotBytes) :
    slotAt (writeSlot raw index slot) other = slotAt raw other := by
  unfold slotAt writeSlot
  have cases : (index = 0 ∧ other = 1) ∨ (index = 1 ∧ other = 0) := by
    unfold anchorSlots at *
    omega
  rcases cases with ⟨rfl, rfl⟩ | ⟨rfl, rfl⟩
  · have first : (raw.take (0 * anchorSlotBytes) ++ slot).length = 1 * anchorSlotBytes := by
      simp [full]
    rw [List.drop_left' first]
  · have first : (raw.take (1 * anchorSlotBytes)).length = anchorSlotBytes := by
      rw [List.length_take, whole]
      decide
    rw [List.append_assoc, Nat.zero_mul, List.drop_zero, List.drop_zero, List.take_left' first,
      Nat.one_mul]

/-- A filled up line that ends in a newline is what remains without the filling. -/
theorem rstripZeros_padSlot (line : Bytes) :
    rstripZeros (padSlot (line ++ [0x0a])) = line ++ [0x0a] := by
  unfold rstripZeros padSlot
  rw [List.reverse_append, List.reverse_replicate, List.dropWhile_append]
  have zeros : ∀ n, (List.replicate n (0 : UInt8)).dropWhile (· = 0) = [] := by
    intro n
    simp
  rw [zeros]
  simp

end Slots

/-! ## Lines -/

section Lines

variable {r : IdentityRegistry} {generation : ℕ}

theorem length_natText_generation (bounded : generation ≤ maxIdentityGeneration) :
    (natText generation).length ≤ 64 :=
  length_natText_le_of_lt (lt_of_le_of_lt bounded (by decide)) (by decide)

/-- The characters of a keyed digest are written as they are. -/
theorem escapeChar_hmacDigest (key message : Bytes) :
    (hmacDigest key message).flatMap escapeChar = hmacDigest key message := by
  have single : ∀ t : Text, (∀ c ∈ t, escapeChar c = [c]) → t.flatMap escapeChar = t := by
    intro t plain
    induction t with
    | nil => rfl
    | cons c t ih =>
      obtain ⟨first, rest⟩ := List.forall_mem_cons.mp plain
      rw [List.flatMap_cons, first, ih rest, List.singleton_append]
  have hex : ∀ n < 16, escapeChar (hexDigit n) = [hexDigit n] := by decide
  apply single
  intro c member
  rcases List.mem_append.mp member with head | tail
  · have plain : (Text.ofString "hmac-sha256:").all (fun c => escapeChar c = [c]) = true := by
      decide
    simpa using List.all_eq_true.mp plain c head
  · obtain ⟨octet, -, member⟩ := List.mem_flatMap.mp tail
    have bounded := octet.toNat_lt
    rcases List.mem_cons.mp member with rfl | member
    · exact hex _ (by omega)
    · rw [List.mem_singleton.mp member]
      exact hex _ (by omega)

theorem sortKeys_anchorDocument (r : IdentityRegistry) (generation : ℕ) :
    (r.anchorDocument generation).sortKeys = r.anchorDocument generation := by
  have ordered : Text.ofString "generation" ≤ Text.ofString "mac" := by decide
  simp only [IdentityRegistry.anchorDocument, Json.sortKeys, Json.sortKeysMembers]
  rw [Json.sortMembers_of_pairwise]
  simp [ordered]

theorem readable_anchorDocument (bounded : generation ≤ maxIdentityGeneration) :
    (r.anchorDocument generation).Readable (defaultHooks r.platform) (compactStyle r.platform) := by
  have short : (natText generation).length ≤ 4300 :=
    (length_natText_generation bounded).trans (by decide)
  have mac := (isAscii_hmacDigest r.identityDigestKey (Text.ascii
    "cathedral-gpu-identity-generation-v1\x00" ++ (natText generation).ascii)).noSurrogate
  have distinct : [Text.ofString "generation", Text.ofString "mac"].Nodup := by decide
  rw [← sortKeys_anchorDocument]
  refine Json.readable_sortKeys (faithful_defaultHooks r.platform) _ ⟨distinct, ?_⟩ ?_
  · exact ⟨by decide, trivial, by decide, mac, trivial⟩
  · simp [Json.dumpable, Json.dumpableMembers, IdentityRegistry.anchorDocument, short]

theorem length_encodedLine (bounded : generation ≤ maxIdentityGeneration) :
    (r.encodedLine generation).length ≤ anchorSlotBytes := by
  have digits := length_natText_generation bounded
  have keys : (quoted (Text.ofString "generation")).length = 12 ∧
      (quoted (Text.ofString "mac")).length = 5 := by decide +kernel
  have mac : (quoted (r.generationAnchorMac generation)).length = 78 := by
    have escaped : (r.generationAnchorMac generation).flatMap escapeChar =
      r.generationAnchorMac generation := escapeChar_hmacDigest _ _
    have length : (r.generationAnchorMac generation).length = 76 := length_hmacDigest _ _
    rw [quoted, escaped, List.length_cons, List.length_append, length]
    rfl
  have number : (intText generation).length = (natText generation).length := rfl
  have line : (r.encodedLine generation).length = (natText generation).length + 101 := by
    rw [IdentityRegistry.encodedLine, IdentityRegistry.jsonText, sortKeys_anchorDocument]
    simp only [IdentityRegistry.anchorDocument, Json.render, Json.renderMembers, compactStyle,
      List.length_append, Text.length_ascii, keys.1, keys.2, mac, number, List.length_cons,
      List.length_nil]
    omega
  unfold anchorSlotBytes
  omega

theorem generationAnchorLine_eq_ok (bounded : generation ≤ maxIdentityGeneration) :
    r.generationAnchorLine generation = .ok (padSlot (r.encodedLine generation)) := by
  rw [IdentityRegistry.generationAnchorLine, require, if_pos (length_encodedLine bounded)]
  rfl

theorem length_padSlot {line : Bytes} (short : line.length ≤ anchorSlotBytes) :
    (padSlot line).length = anchorSlotBytes := by
  rw [padSlot, List.length_append, List.length_replicate]
  omega

theorem slotGeneration_anchorDocument (bounded : generation ≤ maxIdentityGeneration) :
    r.slotGeneration (generation % anchorSlots) (r.anchorDocument generation) =
      some generation := by
  have apart : Text.ofString "generation" ≠ Text.ofString "mac" := by decide
  have number : Json.lookup (Text.ofString "generation") [(Text.ofString "generation",
      Json.int generation), (Text.ofString "mac", .str (r.generationAnchorMac generation))] =
      some (.int generation) := if_pos rfl
  have mac : Json.lookup (Text.ofString "mac") [(Text.ofString "generation",
      Json.int generation), (Text.ofString "mac", .str (r.generationAnchorMac generation))] =
      some (.str (r.generationAnchorMac generation)) := (if_neg apart).trans (if_pos rfl)
  simp only [IdentityRegistry.slotGeneration, IdentityRegistry.anchorDocument, membersOfJson,
    Option.bind_eq_bind, Option.bind_some, number, mac, intOfJson, textOfJson, Int.toNat_natCast]
  refine if_pos ⟨?_, Int.natCast_nonneg _, ?_, ?_, trivial⟩
  · simp
  · exact_mod_cast bounded
  · exact (Int.natCast_mod _ _).symm

/-- **Reading back.** The line of a generation reads as that generation. -/
theorem readSlot_line (bounded : generation ≤ maxIdentityGeneration) :
    r.readSlot (generation % anchorSlots) (padSlot (r.encodedLine generation)) =
      some generation := by
  have readable := readable_anchorDocument (r := r) bounded
  have commas : Text.IsPrintable [0x2c] := by decide
  have colons : Text.IsPrintable [0x3a] := by decide
  have printable := printable_render commas colons _ readable
  set text := (r.anchorDocument generation).render (compactStyle r.platform) with written
  have ascii : (text ++ [0x0a]).IsAscii := by
    refine Text.isAscii_append.mpr ⟨fun c member => ?_, by decide⟩
    have := (printable c member).2
    omega
  have line : r.encodedLine generation = (text ++ [0x0a]).ascii := by
    rw [IdentityRegistry.encodedLine, IdentityRegistry.jsonText, sortKeys_anchorDocument, ← written,
      Text.ascii, Text.ascii, List.map_append]
    rfl
  have read : loads (defaultHooks r.platform) (text ++ [0x0a]) =
      some (r.anchorDocument generation) :=
    loads_render_append rfl rfl readable (by simp [NumberEnd]; decide) (by decide)
  have stripped : rstripZeros (padSlot (r.encodedLine generation)) = (text ++ [0x0a]).ascii := by
    rw [← line]
    exact rstripZeros_padSlot _
  have last : (text ++ [0x0a]).ascii.getLast? = some 0x0a := by
    rw [Text.ascii, List.map_append, List.map_singleton, List.getLast?_append]
    rfl
  rw [IdentityRegistry.readSlot, stripped, if_pos last, asciiDecode_ascii ascii]
  simp only [Option.bind_eq_bind, Option.bind_some, read]
  exact slotGeneration_anchorDocument bounded

end Lines

/-! ## The level of the anchor -/

/-- The other slot. -/
def otherSlot (generation : ℕ) : ℕ := (generation + 1) % anchorSlots

/-- The anchor rests on the slot of a generation; the other slot holds the one
before or nothing. -/
structure Level (r : IdentityRegistry) (raw : Bytes) (generation : ℕ) : Prop where
  whole : raw.length = anchorBytes
  own : r.readSlot (generation % anchorSlots) (slotAt raw (generation % anchorSlots)) =
    some generation
  other : ∀ g, r.readSlot (otherSlot generation) (slotAt raw (otherSlot generation)) = some g →
    g + 1 = generation

section Levels

variable {r : IdentityRegistry} {raw slot : Bytes} {generation : ℕ}

theorem slot_lt (n : ℕ) : n % anchorSlots < anchorSlots := Nat.mod_lt n (by decide)

theorem otherSlot_ne (n : ℕ) : otherSlot n ≠ n % anchorSlots := by
  unfold otherSlot anchorSlots
  omega

theorem Level.read (level : Level r raw generation) :
    r.readGenerationAnchor raw = .ok generation := by
  have own := level.own
  have other := level.other
  have whole : require (raw.length = anchorBytes)
      (configInvalid "GPU identity generation anchor is invalid") = .ok () := if_pos level.whole
  rw [IdentityRegistry.readGenerationAnchor, whole]
  have slots : generation % anchorSlots = 0 ∨ generation % anchorSlots = 1 := by
    unfold anchorSlots
    omega
  have range : List.range anchorSlots = [0, 1] := rfl
  rw [range]
  rcases slots with even | odd
  · have second : otherSlot generation = 1 := by
      unfold otherSlot anchorSlots at *
      omega
    rw [even] at own
    rw [second] at other
    cases found : r.readSlot 1 (slotAt raw 1) with
    | none => simp [own, found, bind, Except.bind, pure, Except.pure]
    | some g =>
      have before := other g found
      subst before
      simp [own, found, bind, Except.bind, pure, Except.pure, require]
  · have first : otherSlot generation = 0 := by
      unfold otherSlot anchorSlots at *
      omega
    rw [odd] at own
    rw [first] at other
    cases found : r.readSlot 0 (slotAt raw 0) with
    | none => simp [own, found, bind, Except.bind, pure, Except.pure]
    | some g =>
      have before := other g found
      subst before
      simp [own, found, bind, Except.bind, pure, Except.pure, require]

/-- Writing the next generation into the other slot, whole or torn, leaves the
anchor where it is or moves it on. -/
theorem Level.write (level : Level r raw generation) (full : slot.length = anchorSlotBytes)
    (unforged : ∀ g, r.readSlot (otherSlot generation) slot = some g →
      r.readSlot (otherSlot generation) (slotAt raw (otherSlot generation)) = some g ∨
        g = generation + 1) :
    (r.readSlot (otherSlot generation) slot = some (generation + 1) ∧
        Level r (writeSlot raw (otherSlot generation) slot) (generation + 1)) ∨
      Level r (writeSlot raw (otherSlot generation) slot) generation := by
  have inside : otherSlot generation < anchorSlots := slot_lt _
  have kept := slotAt_writeSlot_of_ne level.whole inside (slot_lt generation)
    (otherSlot_ne generation).symm full
  have written := slotAt_writeSlot level.whole inside full
  have whole := length_writeSlot level.whole inside full
  by_cases moved : r.readSlot (otherSlot generation) slot = some (generation + 1)
  · left
    have back : otherSlot (generation + 1) = generation % anchorSlots := by
      unfold otherSlot anchorSlots
      omega
    refine ⟨moved, whole, ?_, fun g found => ?_⟩
    · exact written.symm ▸ moved
    · rw [back, kept, level.own] at found
      cases found
      rfl
  · right
    refine ⟨whole, kept.symm ▸ level.own, fun g found => ?_⟩
    rw [written] at found
    rcases unforged g found with old | new
    · exact level.other g old
    · exact absurd (new ▸ found) moved

/-- Written whole, the next line moves the anchor on. -/
theorem Level.append (level : Level r raw generation)
    (bounded : generation + 1 ≤ maxIdentityGeneration) :
    Level r (writeSlot raw (otherSlot generation) (padSlot (r.encodedLine (generation + 1))))
      (generation + 1) := by
  have full := length_padSlot (length_encodedLine (r := r) bounded)
  have line : r.readSlot (otherSlot generation) (padSlot (r.encodedLine (generation + 1))) =
    some (generation + 1) := readSlot_line bounded
  have unforged : ∀ g, r.readSlot (otherSlot generation)
      (padSlot (r.encodedLine (generation + 1))) = some g →
      r.readSlot (otherSlot generation) (slotAt raw (otherSlot generation)) = some g ∨
        g = generation + 1 := by
    intro g found
    rw [line] at found
    exact .inr (Option.some.inj found).symm
  rcases level.write full unforged with ⟨-, moved⟩ | same
  · exact moved
  · -- The slot just written would have to hold the generation before.
    have written := slotAt_writeSlot level.whole (slot_lt (generation + 1)) full
    have before := same.other (generation + 1) (by rw [otherSlot, written]; exact line)
    omega

end Levels

/-! ## What holds of the disk -/

/-- A database as a registry leaves it. -/
structure Sealed (r : IdentityRegistry) (db : Database) : Prop where
  keyCheck : db.identityKeyCheck = r.expectedKeyCheck
  bounded : db.databaseGeneration ≤ maxIdentityGeneration
  mac : db.claimsStateMac = r.stateMac db db.databaseGeneration

/-- The database is a registry's own, at the generation of the anchor or one
ahead. -/
structure Safe (r : IdentityRegistry) (disk : Disk) : Prop where
  sealed : Sealed r disk.database
  near : Level r disk.anchor disk.database.databaseGeneration ∨
    ∃ g, disk.database.databaseGeneration = g + 1 ∧ Level r disk.anchor g

/-- The anchor has reached a generation. -/
def Anchored (r : IdentityRegistry) (generation : ℕ) (disk : Disk) : Prop :=
  ∃ g, generation ≤ g ∧ Level r disk.anchor g

/-- The writes that a registry makes: the next database when the anchor is up to
date, and the line of the database's generation when it is not. -/
def Legit (r : IdentityRegistry) (disk : Disk) : DiskWrite → Prop
  | .database db => Level r disk.anchor disk.database.databaseGeneration ∧ Sealed r db ∧
      db.databaseGeneration = disk.database.databaseGeneration + 1
  | .anchorSlot index line => ∃ g, disk.database.databaseGeneration = g + 1 ∧
      Level r disk.anchor g ∧ index = otherSlot g ∧ line = padSlot (r.encodedLine (g + 1))

section Writes

variable {r : IdentityRegistry} {disk : Disk}

theorem Safe.apply {write : DiskWrite} (safe : Safe r disk) (legit : Legit r disk write) :
    Safe r (disk.apply write) := by
  cases write with
  | database db =>
    obtain ⟨level, stored, next⟩ := legit
    exact ⟨stored, .inr ⟨_, next, level⟩⟩
  | anchorSlot index line =>
    obtain ⟨g, ahead, level, rfl, rfl⟩ := legit
    have bounded := safe.sealed.bounded
    rw [ahead] at bounded
    exact ⟨safe.sealed, .inl (ahead.symm ▸ level.append bounded)⟩

theorem Level.unique {raw : Bytes} {g g' : ℕ} (first : Level r raw g) (second : Level r raw g') :
    g = g' :=
  Except.ok.inj (first.read.symm.trans second.read)

theorem Anchored.apply {generation : ℕ} {write : DiskWrite} (safe : Safe r disk)
    (anchored : Anchored r generation disk) (legit : Legit r disk write) :
    Anchored r generation (disk.apply write) := by
  cases write with
  | database db => exact anchored
  | anchorSlot index line =>
    obtain ⟨g, ahead, level, rfl, rfl⟩ := legit
    obtain ⟨g', reached, level'⟩ := anchored
    have bounded := safe.sealed.bounded
    rw [ahead] at bounded
    have same := level.unique level'
    exact ⟨g + 1, by omega, level.append bounded⟩

/-- A line that was written whole has moved the anchor to its generation. -/
theorem anchored_of_line {index generation : ℕ} {line : Bytes} (safe : Safe r disk)
    (legit : Legit r disk (.anchorSlot index line))
    (carries : r.readSlot index line = some generation) :
    Anchored r generation (disk.apply (.anchorSlot index line)) := by
  obtain ⟨g, ahead, level, rfl, rfl⟩ := legit
  have bounded := safe.sealed.bounded
  rw [ahead] at bounded
  have reads : r.readSlot (otherSlot g) (padSlot (r.encodedLine (g + 1))) = some (g + 1) :=
    readSlot_line bounded
  rw [reads] at carries
  cases carries
  exact ⟨g + 1, le_rfl, level.append bounded⟩

theorem Safe.applyAll {writes : List DiskWrite} (safe : Safe r disk)
    (trail : Along Disk.apply (Legit r) disk writes) : Safe r (disk.applyAll writes) :=
  invariant_along (fun _ _ safe legit => safe.apply legit) safe trail

theorem Anchored.applyAll {generation : ℕ} {writes : List DiskWrite} (safe : Safe r disk)
    (anchored : Anchored r generation disk) (trail : Along Disk.apply (Legit r) disk writes) :
    Anchored r generation (disk.applyAll writes) := by
  induction writes generalizing disk with
  | nil => exact anchored
  | cons write writes ih =>
    obtain ⟨legit, rest⟩ := trail
    exact ih (safe.apply legit) (anchored.apply safe legit) rest

/-- A slot torn while the registry writes it leaves the disk safe and the anchor
no lower. -/
theorem Safe.tear {index : ℕ} {line slot : Bytes} (safe : Safe r disk)
    (legit : Legit r disk (.anchorSlot index line)) (full : slot.length = anchorSlotBytes)
    (unforged : ∀ g, r.readSlot index slot = some g →
      r.readSlot index (slotAt disk.anchor index) = some g ∨ r.readSlot index line = some g) :
    Safe r (disk.apply (.anchorSlot index slot)) ∧
      ∀ generation, Anchored r generation disk →
        Anchored r generation (disk.apply (.anchorSlot index slot)) := by
  obtain ⟨g, ahead, level, rfl, rfl⟩ := legit
  have bounded := safe.sealed.bounded
  rw [ahead] at bounded
  have reads : r.readSlot (otherSlot g) (padSlot (r.encodedLine (g + 1))) = some (g + 1) :=
    readSlot_line bounded
  have torn := level.write full fun g' found => (unforged g' found).imp_right fun line => by
    rw [reads] at line
    exact (Option.some.inj line).symm
  have below : ∀ generation, Anchored r generation disk → generation ≤ g := by
    rintro generation ⟨g', reached, level'⟩
    rwa [level.unique level']
  rcases torn with ⟨-, moved⟩ | stayed
  · refine ⟨⟨safe.sealed, .inl (ahead.symm ▸ moved)⟩, fun generation anchored => ?_⟩
    exact ⟨g + 1, (below generation anchored).trans (Nat.le_succ g), moved⟩
  · refine ⟨⟨safe.sealed, .inr ⟨g, ahead, stayed⟩⟩, fun generation anchored => ?_⟩
    exact ⟨g, below generation anchored, stayed⟩

end Writes

/-! ## Calls -/

section Calls

variable {r : IdentityRegistry} {disk : Disk} {db db' : Database} {op : Op}

theorem sealed_of_commit {claims : Claims} {events : Table RecoveryEvent.eventId}
    (key : db.identityKeyCheck = r.expectedKeyCheck)
    (committed : r.commitAuthenticatedState db.databaseGeneration
      { db with claims := claims, recoveryEvents := events } = .ok db') :
    Sealed r db' ∧ db'.databaseGeneration = db.databaseGeneration + 1 := by
  simp only [IdentityRegistry.commitAuthenticatedState, bind_eq_ok, pure_eq_ok,
    require_eq_ok] at committed
  obtain ⟨_, room, _, -, rfl⟩ := committed
  exact ⟨⟨key, room, rfl⟩, rfl⟩

/-- A transaction commits a database that is sealed at the next generation. -/
theorem sealed_of_transact (key : db.identityKeyCheck = r.expectedKeyCheck)
    (committed : op.transact r db = .ok (some db')) :
    Sealed r db' ∧ db'.databaseGeneration = db.databaseGeneration + 1 := by
  cases op with
  | openRegistry =>
    -- opening reads, and commits nothing
    simp only [Op.transact, bind_eq_ok, pure_eq_ok] at committed
    obtain ⟨_, -, none⟩ := committed
    cases none
  | read => cases committed
  | beginExclusiveReservation hotkey verdict occurred token =>
    simp only [Op.transact, IdentityRegistry.beginExclusiveReservation, map_eq_ok, bind_eq_ok,
      pure_eq_ok] at committed
    obtain ⟨_, ⟨_, -, _, -, _, -, _, -, stored, commit, rfl⟩, same⟩ := committed
    cases same
    exact sealed_of_commit key commit
  | beginClaim hotkey verdict occurred token =>
    simp only [Op.transact, IdentityRegistry.beginClaim, map_eq_ok, bind_eq_ok,
      pure_eq_ok] at committed
    obtain ⟨_, ⟨_, -, _, -, _, -, stored, commit, rfl⟩, same⟩ := committed
    cases same
    exact sealed_of_commit key commit
  | commitClaim pending =>
    simp only [Op.transact, IdentityRegistry.commitClaim, map_eq_ok, bind_eq_ok] at committed
    obtain ⟨_, ⟨_, -, _, -, commit⟩, same⟩ := committed
    cases same
    exact sealed_of_commit key commit
  | rollbackClaim pending =>
    simp only [Op.transact, IdentityRegistry.rollbackClaim, map_eq_ok, bind_eq_ok] at committed
    obtain ⟨_, ⟨_, -, commit⟩, same⟩ := committed
    cases same
    exact sealed_of_commit key commit
  | releaseWorker hotkey reason eventId releasedAt =>
    simp only [Op.transact, IdentityRegistry.releaseWorker, map_eq_ok, bind_eq_ok] at committed
    obtain ⟨_, ⟨_, -, _, -, _, -, _, -, _, -, _, -, _, -, _, -, commit⟩, same⟩ := committed
    cases same
    exact sealed_of_commit key commit
  | recoverInterrupted reason eventId recoveredAt =>
    simp only [Op.transact, IdentityRegistry.recoverInterrupted, map_eq_ok, bind_eq_ok] at committed
    obtain ⟨_, ⟨_, -, _, -, _, -, _, -, _, -, _, -, _, -, _, -, commit⟩, same⟩ := committed
    cases same
    exact sealed_of_commit key commit

/-- **Acceptance.** A safe disk is accepted at the generation of its database, and
the writes it takes bring the anchor there. -/
theorem Safe.verify (safe : Safe r disk) :
    ∃ writes, r.verifyAuthenticatedState disk = .ok (disk.database.databaseGeneration, writes) ∧
      Along Disk.apply (Legit r) disk writes ∧
      (disk.applyAll writes).database = disk.database ∧
      Level r (disk.applyAll writes).anchor disk.database.databaseGeneration := by
  have checks : require (disk.database.identityKeyCheck = r.expectedKeyCheck ∧
      disk.database.databaseGeneration ≤ maxIdentityGeneration ∧
      disk.database.claimsStateMac = r.stateMac disk.database disk.database.databaseGeneration)
      (configInvalid "GPU identity registry authenticated state changed") = .ok () :=
    if_pos ⟨safe.sealed.keyCheck, safe.sealed.bounded, safe.sealed.mac⟩
  rcases safe.near with level | ⟨g, ahead, level⟩
  · refine ⟨[], ?_, trivial, rfl, level⟩
    have same : ¬ disk.database.databaseGeneration = disk.database.databaseGeneration + 1 := by
      omega
    have equal : require (disk.database.databaseGeneration = disk.database.databaseGeneration)
        (configInvalid "GPU identity registry authenticated state changed") = .ok () := if_pos rfl
    simp only [IdentityRegistry.verifyAuthenticatedState, bind_eq_ok]
    refine ⟨(), checks, _, level.read, ?_⟩
    rw [if_neg same, equal]
    rfl
  · have bounded := safe.sealed.bounded
    rw [ahead] at bounded
    have legit : Legit r disk (.anchorSlot (otherSlot g) (padSlot (r.encodedLine (g + 1)))) :=
      ⟨g, ahead, level, rfl, rfl⟩
    have moved : Level r (disk.apply (.anchorSlot (otherSlot g)
        (padSlot (r.encodedLine (g + 1))))).anchor disk.database.databaseGeneration := by
      rw [ahead]
      exact level.append bounded
    refine ⟨[.anchorSlot (otherSlot g) (padSlot (r.encodedLine (g + 1)))], ?_, ⟨legit, trivial⟩,
      rfl, moved⟩
    have append : r.appendGenerationAnchor g (g + 1) disk.anchor =
        .ok (.anchorSlot (otherSlot g) (padSlot (r.encodedLine (g + 1)))) := by
      simp only [IdentityRegistry.appendGenerationAnchor, bind_eq_ok, pure_eq_ok, require_eq_ok]
      exact ⟨g, level.read, (), by simp, _, generationAnchorLine_eq_ok bounded, rfl⟩
    simp only [IdentityRegistry.verifyAuthenticatedState, bind_eq_ok]
    refine ⟨(), checks, g, level.read, ?_⟩
    rw [if_pos ahead, ahead, append]
    rfl

/-- Where the anchor is up to date there is nothing to write. -/
theorem Safe.verify_level (safe : Safe r disk)
    (level : Level r disk.anchor disk.database.databaseGeneration) :
    r.verifyAuthenticatedState disk = .ok (disk.database.databaseGeneration, []) := by
  obtain ⟨writes, verified, trail, -, -⟩ := safe.verify
  cases writes with
  | nil => exact verified
  | cons write writes =>
    obtain ⟨legit, -⟩ := trail
    cases write with
    | database db =>
      have impossible := stores_of_verify verified (fun _ => False) _ List.mem_cons_self
      exact impossible.elim
    | anchorSlot index line =>
      obtain ⟨g, ahead, behind, -, -⟩ := legit
      have same := level.unique behind
      omega

/-- **Calls on a safe disk.** Every write of a call is one that a registry makes,
the call fails only as its own transaction does, and at its end the anchor is up
to date. -/
theorem Safe.call (safe : Safe r disk) (op : Op) :
    Along Disk.apply (Legit r) disk (op.call r disk).writes ∧
      (op.call r disk).result = (op.transact r disk.database).map (fun _ => ()) ∧
      Level r (disk.applyAll (op.call r disk).writes).anchor
        (disk.applyAll (op.call r disk).writes).database.databaseGeneration := by
  obtain ⟨first, verified, trail, same, level⟩ := safe.verify
  have safe' : Safe r (disk.applyAll first) := safe.applyAll trail
  have level' : Level r (disk.applyAll first).anchor
      (disk.applyAll first).database.databaseGeneration := same.symm ▸ level
  have again := safe'.verify_level level'
  -- the first check leaves nothing for the second one to write
  have shape : op.call r disk = finishCall r disk first (op.transact r disk.database) := by
    unfold Op.call
    rw [verified]
    dsimp only
    rw [again]
    dsimp only
    rw [List.append_nil, same]
  rw [shape]
  cases committed : op.transact r disk.database with
  | error failure => exact ⟨trail, rfl, level'⟩
  | ok change =>
    cases change with
    | none => exact ⟨trail, rfl, level'⟩
    | some db =>
      obtain ⟨stored, next⟩ := sealed_of_transact safe.sealed.keyCheck committed
      -- the database is written one generation above the anchor, which then follows
      have legit : Legit r (disk.applyAll first) (.database db) :=
        ⟨level', stored, by rw [same]; exact next⟩
      have trail' : Along Disk.apply (Legit r) disk (first ++ [.database db]) :=
        along_append.mpr ⟨trail, legit, trivial⟩
      obtain ⟨last, verified', lastTrail, kept, lastLevel⟩ := (safe.applyAll trail').verify
      have finish : finishCall r disk first (.ok (some db)) =
          ⟨first ++ [.database db] ++ last, .ok ()⟩ := by
        unfold finishCall
        dsimp only
        rw [verified']
      rw [finish]
      refine ⟨along_append.mpr ⟨trail', lastTrail⟩, rfl, ?_⟩
      dsimp only
      rw [applyAll_append, kept]
      exact lastLevel

/-- No database before the anchor is accepted. -/
theorem verify_ne_ok_of_anchored {generation : ℕ} (anchored : Anchored r generation disk)
    {copy : Database} (earlier : copy.databaseGeneration < generation)
    (result : ℕ × List DiskWrite) :
    r.verifyAuthenticatedState ⟨copy, disk.anchor⟩ ≠ .ok result := by
  obtain ⟨g, reached, level⟩ := anchored
  intro accepted
  simp only [IdentityRegistry.verifyAuthenticatedState, bind_eq_ok, level.read] at accepted
  obtain ⟨_, -, anchor, read, rest⟩ := accepted
  cases read
  have behind : ¬ copy.databaseGeneration = g + 1 := by omega
  rw [if_neg behind] at rest
  simp only [bind_eq_ok, require_eq_ok] at rest
  obtain ⟨_, equal, -⟩ := rest
  omega

end Calls

/-! ## Runs -/

/-- The writes of a step that were made to their end. -/
def Step.completed (r : IdentityRegistry) (disk : Disk) : Step → List DiskWrite
  | call op => (op.call r disk).writes
  | crash op done _ => (op.call r disk).writes.take done

/-- The step wrote the line of a generation to its end. -/
def Step.Completes (r : IdentityRegistry) (disk : Disk) (step : Step) (generation : ℕ) : Prop :=
  ∃ index line, .anchorSlot index line ∈ step.completed r disk ∧
    r.readSlot index line = some generation

/-- A torn write stays inside its slot and forges nothing: where the torn slot
reads as a generation, it is the one that stood there or the one being written. -/
def Step.Unforged (r : IdentityRegistry) (disk : Disk) : Step → Prop
  | call _ => True
  | crash op done torn => ∀ index line slot,
      (op.call r disk).writes[done]? = some (.anchorSlot index line) → torn = some slot →
        slot.length = anchorSlotBytes ∧ ∀ g, r.readSlot index slot = some g →
          r.readSlot index (slotAt
            (disk.applyAll ((op.call r disk).writes.take done)).anchor index) = some g ∨
          r.readSlot index line = some g

section Runs

variable {r : IdentityRegistry} {disk : Disk}

theorem safe_initial (r : IdentityRegistry) : Safe r (.initial r) := by
  have full := length_padSlot (length_encodedLine (r := r) (Nat.zero_le _))
  have first : slotAt (Disk.initial r).anchor 0 = padSlot (r.encodedLine 0) := by
    rw [slotAt, Disk.initial, Nat.zero_mul, List.drop_zero, List.take_left' full]
  have second : slotAt (Disk.initial r).anchor 1 = List.replicate anchorSlotBytes 0 := by
    rw [slotAt, Disk.initial, Nat.one_mul, List.drop_left' full]
    exact List.take_of_length_le (List.length_replicate ..).le
  have empty : r.readSlot 1 (List.replicate anchorSlotBytes 0) = none := by
    have stripped : rstripZeros (List.replicate anchorSlotBytes 0) = [] := by
      simp [rstripZeros]
    rw [IdentityRegistry.readSlot, stripped]
    rfl
  refine ⟨⟨rfl, Nat.zero_le _, rfl⟩, .inl ⟨?_, ?_, fun g found => ?_⟩⟩
  · rw [Disk.initial, List.length_append, full, List.length_replicate]
    rfl
  · exact first.symm ▸ readSlot_line (Nat.zero_le _)
  · have none : r.readSlot 1 (slotAt (Disk.initial r).anchor 1) = some g := found
    rw [second, empty] at none
    cases none

/-- The writes of a step that were completed are a registry's own. -/
theorem Safe.completed (safe : Safe r disk) (step : Step) :
    Along Disk.apply (Legit r) disk (step.completed r disk) := by
  cases step with
  | call op => exact (safe.call op).1
  | crash op done torn =>
    have trail := (safe.call op).1
    rw [← List.take_append_drop done (op.call r disk).writes] at trail
    exact (along_append.mp trail).1

/-- After its completed writes a step leaves the disk, or tears a slot. -/
theorem Safe.step {step : Step} (safe : Safe r disk) (unforged : step.Unforged r disk) :
    Safe r (step.run r disk) ∧ ∀ generation,
      Anchored r generation (disk.applyAll (step.completed r disk)) →
        Anchored r generation (step.run r disk) := by
  have safe' := safe.applyAll (safe.completed step)
  cases step with
  | call op => exact ⟨safe', fun _ anchored => anchored⟩
  | crash op done torn =>
    have trail := (safe.call op).1
    unfold Step.run
    dsimp only
    unfold Disk.tear
    split
    case h_1 index line slot writing =>
      obtain ⟨full, honest⟩ := unforged index line slot writing rfl
      obtain ⟨inside, here⟩ := List.getElem?_eq_some_iff.mp writing
      rw [← List.take_append_drop done (op.call r disk).writes,
        List.drop_eq_getElem_cons inside, here] at trail
      exact safe'.tear (along_append.mp trail).2.1 full honest
    case h_2 => exact ⟨safe', fun _ anchored => anchored⟩

/-- The anchor never falls back. -/
theorem Anchored.step {generation : ℕ} {step : Step} (safe : Safe r disk)
    (anchored : Anchored r generation disk) (unforged : step.Unforged r disk) :
    Anchored r generation (step.run r disk) :=
  (safe.step unforged).2 generation (anchored.applyAll safe (safe.completed step))

/-- A generation whose line was written to its end is reached. -/
theorem anchored_of_completes {generation : ℕ} {step : Step} (safe : Safe r disk)
    (unforged : step.Unforged r disk) (completes : step.Completes r disk generation) :
    Anchored r generation (step.run r disk) := by
  obtain ⟨index, line, member, carries⟩ := completes
  obtain ⟨before, after, split⟩ := List.append_of_mem member
  have trail := safe.completed step
  rw [split] at trail
  obtain ⟨first, legit, rest⟩ := along_append.mp trail
  have safe' : Safe r (disk.applyAll before) := safe.applyAll first
  apply (safe.step unforged).2
  have here := anchored_of_line safe' legit carries
  have done : disk.applyAll (step.completed r disk) =
      ((disk.applyAll before).apply (.anchorSlot index line)).applyAll after := by
    rw [split, applyAll_append]
    rfl
  rw [done]
  exact here.applyAll (safe'.apply legit) rest

theorem safe_runSteps {steps : List Step} (safe : Safe r disk)
    (unforged : Along (Step.run r) (Step.Unforged r) disk steps) :
    Safe r (runSteps r disk steps) :=
  invariant_along (fun _ _ safe unforged => (safe.step unforged).1) safe unforged

theorem anchored_runSteps {generation : ℕ} {steps : List Step} (safe : Safe r disk)
    (anchored : Anchored r generation disk)
    (unforged : Along (Step.run r) (Step.Unforged r) disk steps) :
    Anchored r generation (runSteps r disk steps) := by
  induction steps generalizing disk with
  | nil => exact anchored
  | cons step steps ih =>
    obtain ⟨here, rest⟩ := unforged
    exact ih (safe.step here).1 (anchored.step safe here) rest

/-- Opening fails exactly where an admission was interrupted. -/
theorem Safe.openRegistry (safe : Safe r disk) :
    (Op.openRegistry.call r disk).result =
      if ∀ row ∈ disk.database.claims.rows, row.claimToken = none then .ok ()
      else .error (recoveryRequired "GPU identity registry contains an interrupted admission") := by
  rw [(safe.call .openRegistry).2.1, Op.transact, require]
  split <;> rfl

end Runs

/-- **Crash safety.** Over every run in which crashes strike anywhere and torn
slots forge nothing: the current database is accepted, a call fails only as its
own transaction does, opening succeeds unless an admission was interrupted, the
anchor is up to date when a call ends, and once the line of a generation was
written to its end, no database before it is accepted again. -/
theorem generation_anchor_crash_safe (r : IdentityRegistry) (steps : List Step)
    (unforged : Along (Step.run r) (Step.Unforged r) (.initial r) steps) :
    let disk := runSteps r (.initial r) steps
    (∃ writes, r.verifyAuthenticatedState disk =
        .ok (disk.database.databaseGeneration, writes)) ∧
      (∀ op : Op, (op.call r disk).result = (op.transact r disk.database).map fun _ => ()) ∧
      (Op.openRegistry.call r disk).result =
        (if ∀ row ∈ disk.database.claims.rows, row.claimToken = none then .ok ()
        else .error
          (recoveryRequired "GPU identity registry contains an interrupted admission")) ∧
      (∀ op : Op, r.readGenerationAnchor ((Step.call op).run r disk).anchor =
        .ok ((Step.call op).run r disk).database.databaseGeneration) ∧
      ∀ before step after, steps = before ++ step :: after →
        ∀ generation, step.Completes r (runSteps r (.initial r) before) generation →
          ∀ copy : Database, copy.databaseGeneration < generation →
            ∀ result, r.verifyAuthenticatedState ⟨copy, disk.anchor⟩ ≠ .ok result := by
  intro disk
  have safe : Safe r disk := safe_runSteps (safe_initial r) unforged
  obtain ⟨writes, accepted, -⟩ := safe.verify
  refine ⟨⟨writes, accepted⟩, fun op => (safe.call op).2.1, safe.openRegistry,
    fun op => (safe.call op).2.2.read, ?_⟩
  rintro before step after rfl generation completes copy earlier result
  obtain ⟨first, here, rest⟩ := along_append.mp unforged
  have safe' := safe_runSteps (safe_initial r) first
  have anchored : Anchored r generation (runSteps r (step.run r _) after) :=
    anchored_runSteps (safe'.step here).1 (anchored_of_completes safe' here completes) rest
  have reached : disk = runSteps r (step.run r (runSteps r (.initial r) before)) after :=
    run_append _ _ before (step :: after)
  rw [reached]
  exact verify_ne_ok_of_anchored anchored earlier result

/-- A registry to run the model on. -/
def sampleRegistry : IdentityRegistry := ⟨.sample, List.replicate 32 1, .null⟩

/-- A worker with one GPU asks to be admitted. -/
def sampleClaim : Op := .beginClaim "worker" ⟨["gpu"], "bundle"⟩ "now" "token"

/-- A crash while the first line after the start is written, with the slot left
empty. -/
theorem generation_anchor_crash_safe_torn :
    ∃ writes, sampleRegistry.verifyAuthenticatedState
        (runSteps sampleRegistry (.initial sampleRegistry)
          [.crash sampleClaim 1 (some (List.replicate anchorSlotBytes 0))]) =
      .ok ((runSteps sampleRegistry (.initial sampleRegistry)
        [.crash sampleClaim 1
          (some (List.replicate anchorSlotBytes 0))]).database.databaseGeneration, writes) := by
  have empty : ∀ index, sampleRegistry.readSlot index (List.replicate anchorSlotBytes 0) = none := by
    intro index
    have stripped : rstripZeros (List.replicate anchorSlotBytes 0) = [] := by
      simp [rstripZeros]
    rw [IdentityRegistry.readSlot, stripped]
    rfl
  refine (generation_anchor_crash_safe sampleRegistry
    [.crash sampleClaim 1 (some (List.replicate anchorSlotBytes 0))] ⟨?_, trivial⟩).1
  rintro index line slot - same
  cases same
  refine ⟨List.length_replicate .., fun g found => ?_⟩
  rw [empty] at found
  cases found

/-- A worker's claim on an empty registry is stored under its token. -/
theorem transact_sampleClaim (r : IdentityRegistry) :
    ∃ db, sampleClaim.transact r (Disk.initial r).database = .ok (some db) ∧
      ∃ row ∈ db.claims.rows, row.claimToken = some "token" := by
  have hotkey : ∃ digest, r.privateDigest "cathedral-gpu-hotkey-v1\x00" "worker" = .ok digest :=
    ⟨_, rfl⟩
  have gpu : ∃ digest, r.privateDigest "cathedral-gpu-identity-v1\x00" "gpu" = .ok digest :=
    ⟨_, rfl⟩
  obtain ⟨hotkeyDigest, hotkey⟩ := hotkey
  obtain ⟨digest, gpu⟩ := gpu
  let pending : PendingClaim := ⟨"token", hotkeyDigest, [digest], "bundle", "now"⟩
  have material : r.claimMaterial "worker" ⟨["gpu"], "bundle"⟩ = .ok (hotkeyDigest, [digest]) := by
    simp only [IdentityRegistry.claimMaterial, bind_eq_ok, pure_eq_ok, require_eq_ok]
    exact ⟨(), by decide, hotkeyDigest, hotkey, [digest], by simp [gpu], rfl⟩
  obtain ⟨claims, inserted⟩ : ∃ claims, (Table.empty : Claims).insert
      (pending.row .workerAdmission digest) = some claims := by
    refine ⟨⟨[pending.row .workerAdmission digest], List.nodup_singleton _⟩, ?_⟩
    exact Table.insert_eq_some.mpr ⟨by simp, rfl⟩
  have looped : [digest].foldlM (claimIdentity pending) (Table.empty, []) =
      .ok (claims, [digest]) := by
    have absent : (Table.empty : Claims).find? digest = none := rfl
    simp only [List.foldlM_cons, List.foldlM_nil, bind_eq_ok, claimIdentity, absent, insertClaim,
      inserted, demand_eq_ok, pure_eq_ok]
    exact ⟨_, ⟨claims, rfl, rfl⟩, rfl⟩
  have found : claims.find? digest = some (pending.row .workerAdmission digest) := by
    rw [Table.find?_insert inserted]
    exact if_pos rfl
  have exactly : ∀ identity ∈ [digest], storedExactly pending claims [digest] identity := by
    intro identity member
    rw [List.mem_singleton.mp member, storedExactly, if_pos List.mem_cons_self, found]
    exact decide_eq_true rfl
  obtain ⟨db, committed⟩ : ∃ db, r.commitAuthenticatedState 0
      { (Disk.initial r).database with claims := claims } = .ok db := by
    simp only [IdentityRegistry.commitAuthenticatedState, bind_eq_ok, pure_eq_ok, require_eq_ok]
    exact ⟨_, (), by decide, (), rfl, rfl⟩
  refine ⟨db, ?_, pending.row .workerAdmission digest, ?_, rfl⟩
  · simp only [sampleClaim, Op.transact, IdentityRegistry.beginClaim, map_eq_ok, bind_eq_ok,
      pure_eq_ok, require_eq_ok]
    exact ⟨(pending, db), ⟨_, material, _, looped, (), exactly, db, committed, rfl⟩, rfl⟩
  · rw [commitAuthenticatedState_claims committed, Table.rows_of_insert inserted]
    exact List.mem_append_right _ List.mem_cons_self

/-- A registry that is merely not forged need not open: after a crash between the
beginning and the end of an admission it asks for recovery first. -/
theorem not_generation_anchor_crash_safe_interrupted :
    ¬ ∀ (r : IdentityRegistry) (steps : List Step),
      Along (Step.run r) (Step.Unforged r) (.initial r) steps →
        (Op.openRegistry.call r (runSteps r (.initial r) steps)).result = .ok () := by
  intro opens
  have opened := opens sampleRegistry [.call sampleClaim] ⟨trivial, trivial⟩
  obtain ⟨db, committed, row, member, tokened⟩ := transact_sampleClaim sampleRegistry
  have safe := safe_initial sampleRegistry
  have returned : (sampleClaim.call sampleRegistry (.initial sampleRegistry)).result = .ok () := by
    rw [(safe.call sampleClaim).2.1, committed]
    rfl
  have stored := database_of_call returned (by rw [committed]; nofun)
  rw [committed] at stored
  have unforged : (Step.call sampleClaim).Unforged sampleRegistry (.initial sampleRegistry) :=
    trivial
  have safe' : Safe sampleRegistry ((Step.call sampleClaim).run sampleRegistry
    (.initial sampleRegistry)) := (safe.step unforged).1
  have reached : ((Step.call sampleClaim).run sampleRegistry
    (.initial sampleRegistry)).database = db := (Option.some.inj (Except.ok.inj stored)).symm
  have refused := safe'.openRegistry
  rw [reached, if_neg fun none => nomatch (none row member).symm.trans tokened] at refused
  rw [runSteps, run_cons, run_nil, refused] at opened
  cases opened

end Cathedral.Gpu
