import CathedralCompute.PolicyRegistry.Policy
import CathedralCompute.PolicyRegistry.StateTexts
import CathedralCompute.Semantics.Succession

/-!
# The history of accepted registries

What a row says is a book of profiles and receipt keys. Between two accepted registries the
book may only gain profiles and keys, and their statuses may only move on. The guard looks
at nothing but the last row, and the law holds of every two registries that were ever
accepted.

## Main definitions

* `Book`, `StateRow.Holds` — what a row says
* `Book.Admits` — which registries may follow
* `Book.Precedes` — how the book of a row relates to every later one

## Main results

* `accept_eq_ok_iff` — a registry is accepted exactly when it may follow
* `books_precede` — every row precedes all later ones
-/

set_option autoImplicit false

namespace Cathedral.PolicyRegistry

open Codec Semantics

/-! ## Statuses -/

/-- What a status and its time may become. -/
abbrev ProfileState.Ages (state state' : ProfileState) : Prop :=
  Semantics.Ages ProfileStatus.next (state.status, state.statusChangedAt)
    (state'.status, state'.statusChangedAt)

/-- What a key may become: its material and window stay. -/
structure KeyState.Ages (state state' : KeyState) : Prop where
  status : Semantics.Ages KeyStatus.next (state.status, state.statusChangedAt)
    (state'.status, state'.statusChangedAt)
  material : state'.publicKeyBase64 = state.publicKeyBase64
  window : state'.validFrom = state.validFrom ∧ state'.validUntil = state.validUntil

theorem KeyState.Ages.refl (state : KeyState) : state.Ages state := ⟨.refl _, rfl, rfl, rfl⟩

theorem KeyState.Ages.trans {a b c : KeyState} (first : a.Ages b) (second : b.Ages c) :
    a.Ages c where
  status := first.status.trans second.status
  material := second.material.trans first.material
  window := ⟨second.window.1.trans first.window.1, second.window.2.trans first.window.2⟩

/-- What `accept` allows a status and its time to become at once. -/
structure Shifts {σ : Type} (next : σ → List σ) (a b : σ × Text) : Prop where
  status : b.1 ∈ next a.1
  same : b.1 = a.1 → b.2 = a.2
  changed : b.1 ≠ a.1 → a.2 < b.2

theorem checkMove_eq_ok {σ : Type} [DecidableEq σ] {next : σ → List σ} {noun id : Text}
    {status status' : σ} {changed changed' : Text} :
    checkMove next noun id status status' changed changed' = .ok () ↔
      Shifts next (status, changed) (status', changed') := by
  simp only [checkMove, bind_eq_ok, require_eq_ok]
  constructor
  · rintro ⟨_, listed, _, same, later⟩
    exact ⟨listed, same, later⟩
  · rintro ⟨listed, same, later⟩
    exact ⟨(), listed, (), same, later⟩

/-! ## Books -/

abbrev ProfileTable := Table (Prod.fst : Text × ProfileState → Text)

abbrev KeyTable := Table (Prod.fst : Text × KeyState → Text)

/-- What a row says. -/
structure Book where
  release : ℤ
  digest : Text
  /-- Unknown in a row written before the column existed. -/
  publishedAt : Option Instant
  profiles : ProfileTable
  keys : KeyTable

/-- When the registry of a row was published, as `accept` reads it. -/
def publicationOf (p : Platform) (generatedAt : Text) : Checked (Option Instant) :=
  if generatedAt = [] then .ok none
  else (timestamp p (.str generatedAt) "persisted registry generated_at").map some

/-- The row is read as the book. -/
structure StateRow.Holds (p : Platform) (row : StateRow) (book : Book) : Prop where
  release : row.release = book.release
  digest : row.digest = book.digest
  generatedAt : publicationOf p row.generatedAt = .ok book.publishedAt
  profiles : decodeProfileStates p row.profileStatesJson = .ok book.profiles.rows
  keys : decodeReceiptKeyStates p row.receiptKeyStatesJson = .ok book.keys.rows

def Snapshot.profileTable (snapshot : Snapshot) (sound : snapshot.Sound) : ProfileTable :=
  ⟨snapshot.profileStates, sound.nodup_profileStates⟩

def Snapshot.keyTable (snapshot : Snapshot) (sound : snapshot.Sound) : KeyTable :=
  ⟨snapshot.keyStates, sound.nodup_keyStates⟩

/-- A profile may shift in one release. -/
def ProfileShifts (entry entry' : Text × ProfileState) : Prop :=
  Shifts ProfileStatus.next (entry.2.status, entry.2.statusChangedAt)
    (entry'.2.status, entry'.2.statusChangedAt)

/-- A key may shift in one release. -/
structure KeyShifts (entry entry' : Text × KeyState) : Prop where
  status : Shifts KeyStatus.next (entry.2.status, entry.2.statusChangedAt)
    (entry'.2.status, entry'.2.statusChangedAt)
  material : entry'.2.publicKeyBase64 = entry.2.publicKeyBase64
  window : entry'.2.validFrom = entry.2.validFrom ∧ entry'.2.validUntil = entry.2.validUntil

/-- A registry with another release may follow the book. -/
structure Book.Admits (book : Book) (snapshot : Snapshot) (sound : snapshot.Sound) : Prop where
  release : book.release < snapshot.release
  published : ∀ time ∈ book.publishedAt, time ≤ snapshot.generatedAt
  profiles : book.profiles.Follows (fun entry => entry.2.status = .active) ProfileShifts
    (snapshot.profileTable sound)
  keys : book.keys.Follows (fun entry => entry.2.status = .active) KeyShifts
    (snapshot.keyTable sound)

section Checks

variable {p : Platform} {snapshot : Snapshot}

theorem mapM_unit_eq_ok {α : Type} {check : α → Checked Unit} {inputs : List α} :
    (∃ units, inputs.mapM check = .ok units) ↔ ∀ input ∈ inputs, check input = .ok () := by
  constructor
  · rintro ⟨units, looped⟩ input member
    exact (ok_of_mapM looped member).elim fun _ checked => checked
  · intro each
    exact exists_of_forall_ok fun input member => ⟨(), each input member⟩

/-- The checks of a table of states, taken together. -/
theorem follows_iff {α : Type} {begins : Text × α → Prop} {shifts : Text × α → Text × α → Prop}
    {t t' : Table (Prod.fst : Text × α → Text)} {check : Text × α → Checked Unit}
    (checks : ∀ prior ∈ t.rows, check prior = .ok () ↔
      ∃ state, t'.find? prior.1 = some (prior.1, state) ∧ shifts prior (prior.1, state)) :
    t.Follows begins shifts t' ↔ (∀ prior ∈ t.rows, check prior = .ok ()) ∧
      ∀ entry ∈ t'.rows, entry.1 ∉ t.rows.map Prod.fst → begins entry := by
  have absent : ∀ id, id ∉ t.rows.map Prod.fst ↔ ∀ row ∈ t.rows, row.1 ≠ id := by
    intro id
    rw [List.mem_map]
    exact ⟨fun none row member same => none ⟨row, member, same⟩,
      fun each ⟨row, member, same⟩ => each row member same⟩
  constructor
  · intro follows
    refine ⟨fun prior member => (checks prior member).mpr ?_, fun entry member new => ?_⟩
    · obtain ⟨⟨id, state⟩, member', rfl, shifted⟩ := follows.kept prior member
      exact ⟨state, Table.find?_eq_some.mpr ⟨member', rfl⟩, shifted⟩
    · exact follows.fresh entry member ((absent _).mp new)
  · rintro ⟨each, new⟩
    refine ⟨fun prior member => ?_, fun entry member fresh => new entry member ((absent _).mpr fresh)⟩
    obtain ⟨state, found, shifted⟩ := (checks prior member).mp (each prior member)
    exact ⟨(prior.1, state), (Table.find?_eq_some.mp found).1, rfl, shifted⟩

theorem find?_map_eq_some {α : Type} {t : Table (Prod.fst : Text × α → Text)} {id : Text}
    {state : α} : (t.rows.find? fun entry => entry.1 = id).map Prod.snd = some state ↔
      t.find? id = some (id, state) := by
  rw [Option.map_eq_some_iff]
  constructor
  · rintro ⟨⟨id', _⟩, found, rfl⟩
    obtain rfl : id' = id := (Table.find?_eq_some.mp found).2
    exact found
  · exact fun found => ⟨_, found, rfl⟩

theorem checkProfile_eq_ok {t : ProfileTable} {prior : Text × ProfileState} :
    checkProfile t.rows prior = .ok () ↔
      ∃ state, t.find? prior.1 = some (prior.1, state) ∧ ProfileShifts prior (prior.1, state) := by
  simp only [checkProfile, bind_eq_ok, demand_eq_ok, find?_map_eq_some, checkMove_eq_ok]
  exact Iff.rfl

theorem checkKey_eq_ok {t : KeyTable} {prior : Text × KeyState} :
    checkKey t.rows prior = .ok () ↔
      ∃ state, t.find? prior.1 = some (prior.1, state) ∧ KeyShifts prior (prior.1, state) := by
  simp only [checkKey, bind_eq_ok, demand_eq_ok, require_eq_ok, find?_map_eq_some, checkMove_eq_ok]
  constructor
  · rintro ⟨state, found, _, material, _, window, moved⟩
    exact ⟨state, found, moved, material, window⟩
  · rintro ⟨state, found, moved, material, window⟩
    exact ⟨state, found, (), material, (), window, moved⟩

theorem checkPublication_eq_ok {generatedAt : Text} {publishedAt : Option Instant}
    (read : publicationOf p generatedAt = .ok publishedAt) :
    checkPublication p generatedAt snapshot = .ok () ↔
      ∀ time ∈ publishedAt, time ≤ snapshot.generatedAt := by
  unfold publicationOf at read
  simp only [checkPublication, checkIf_eq_ok, bind_eq_ok, require_eq_ok, decide_eq_true_eq]
  split at read
  case isTrue empty =>
    obtain rfl := Except.ok.inj read
    exact ⟨fun _ _ known => absurd known (Option.not_mem_none _), fun _ filled => absurd empty filled⟩
  case isFalse filled =>
    obtain ⟨time, known, rfl⟩ := map_eq_ok.mp read
    constructor
    · intro checked time' same
      obtain rfl := Option.some.inj same
      obtain ⟨prior, found, ordered⟩ := checked filled
      obtain rfl := Except.ok.inj (found.symm.trans known)
      exact ordered
    · exact fun ordered _ => ⟨time, known, ordered time rfl⟩

/-- The publication time that a registry leaves is read back from year 1000 on. -/
theorem publicationOf_strftimeSecond {time : Instant} {known : Option Instant}
    (second : IsSecond time) : publicationOf p time.strftimeSecond = .ok known ↔
      time.IsModern ∧ known = some time := by
  rw [publicationOf, if_neg (strftimeSecond_ne_nil second), map_eq_ok]
  simp only [timestamp_strftimeSecond second]
  constructor
  · rintro ⟨_, ⟨modern, rfl⟩, rfl⟩
    exact ⟨modern, rfl⟩
  · rintro ⟨modern, rfl⟩
    exact ⟨time, ⟨modern, rfl⟩, rfl⟩

/-- The checks of a registry with another release are what the book admits. -/
theorem checkSuccessor_eq_ok {row : StateRow} {book : Book} (holds : row.Holds p book)
    (sound : snapshot.Sound) (other : snapshot.release ≠ row.release) :
    checkSuccessor p row book.profiles.rows book.keys.rows snapshot = .ok () ↔
      book.Admits snapshot sound := by
  have published : checkPublication p row.generatedAt snapshot = .ok () ↔ _ :=
    checkPublication_eq_ok holds.generatedAt
  have profiles := @follows_iff _ (fun entry => entry.2.status = .active) ProfileShifts
    book.profiles (snapshot.profileTable sound) (checkProfile snapshot.profileStates)
    fun prior _ => @checkProfile_eq_ok (snapshot.profileTable sound) prior
  have keys := @follows_iff _ (fun entry => entry.2.status = .active) KeyShifts
    book.keys (snapshot.keyTable sound) (checkKey snapshot.keyStates)
    fun prior _ => @checkKey_eq_ok (snapshot.keyTable sound) prior
  simp only [checkSuccessor, bind_eq_ok, require_eq_ok]
  constructor
  · rintro ⟨_, least, _, dated, _, eachProfile, _, newProfile, _, eachKey, newKey⟩
    refine ⟨?_, published.mp dated, profiles.mpr ⟨mapM_unit_eq_ok.mp ⟨_, eachProfile⟩, newProfile⟩,
      keys.mpr ⟨mapM_unit_eq_ok.mp ⟨_, eachKey⟩, newKey⟩⟩
    exact lt_of_le_of_ne (holds.release ▸ least) fun same => other (same.symm.trans holds.release.symm)
  · rintro ⟨newer, dated, moved, movedKeys⟩
    obtain ⟨eachProfile, newProfile⟩ := profiles.mp moved
    obtain ⟨eachKey, newKey⟩ := keys.mp movedKeys
    obtain ⟨_, loop⟩ := mapM_unit_eq_ok.mpr eachProfile
    obtain ⟨_, keyLoop⟩ := mapM_unit_eq_ok.mpr eachKey
    exact ⟨(), holds.release ▸ newer.le, (), published.mpr dated, _, loop, (), newProfile, _,
      keyLoop, newKey⟩

end Checks

/-! ## One registry -/

/-- The book says what the registry says. -/
structure Book.Of (book : Book) (snapshot : Snapshot) : Prop where
  release : book.release = snapshot.release
  digest : book.digest = snapshot.digest
  publishedAt : book.publishedAt = some snapshot.generatedAt
  profiles : book.profiles.rows.Perm snapshot.profileStates
  keys : book.keys.rows.Perm snapshot.keyStates

/-- How the book of a row relates to every later one. -/
structure Book.Precedes (book book' : Book) : Prop where
  release : book.release ≤ book'.release
  same : book.release = book'.release → book'.digest = book.digest ∧
    book'.profiles = book.profiles ∧ book'.keys = book.keys ∧
    ∀ time ∈ book.publishedAt, time ∈ book'.publishedAt
  published : ∀ time ∈ book.publishedAt, ∃ time' ∈ book'.publishedAt, time ≤ time'
  profiles : book.profiles.Succeeds (fun entry => entry.2.status = .active)
    (fun entry entry' => entry.2.Ages entry'.2) book'.profiles
  keys : book.keys.Succeeds (fun entry => entry.2.status = .active)
    (fun entry entry' => entry.2.Ages entry'.2) book'.keys

theorem Book.Precedes.refl (book : Book) : book.Precedes book where
  release := le_rfl
  same _ := ⟨rfl, rfl, rfl, fun _ => id⟩
  published time known := ⟨time, known, le_rfl⟩
  profiles := .refl fun _ => .refl _
  keys := .refl fun entry => .refl entry.2

theorem Book.Precedes.trans {a b c : Book} (first : a.Precedes b) (second : b.Precedes c) :
    a.Precedes c where
  release := first.release.trans second.release
  same equal := by
    have between : a.release = b.release :=
      le_antisymm first.release (second.release.trans equal.ge)
    obtain ⟨digest, profiles, keys, known⟩ := first.same between
    obtain ⟨digest', profiles', keys', known'⟩ := second.same (between.symm.trans equal)
    exact ⟨digest'.trans digest, profiles'.trans profiles, keys'.trans keys,
      fun time listed => known' time (known time listed)⟩
  published time known := by
    obtain ⟨time', known', ordered⟩ := first.published time known
    obtain ⟨time'', known'', ordered'⟩ := second.published time' known'
    exact ⟨time'', known'', ordered.trans ordered'⟩
  profiles := first.profiles.trans (fun moved moved' => moved.trans moved') second.profiles
  keys := first.keys.trans (fun moved moved' => moved.trans moved') second.keys

section Step

variable {p : Platform} {snapshot : Snapshot} {book : Book} {row row' : StateRow}
  {state : RegistryState} {clock : Instant}

/-- A verified registry has a row. -/
theorem exists_row (sound : snapshot.Sound) (p : Platform) (clock : Instant) :
    ∃ row, snapshot.row p clock = .ok row := by
  obtain ⟨profiles, written, -⟩ := sound.exists_profilesText p
  obtain ⟨keys, writtenKeys, -⟩ := sound.exists_keysText p
  exact ⟨_, bind_eq_ok.mpr ⟨profiles, written, bind_eq_ok.mpr ⟨keys, writtenKeys, rfl⟩⟩⟩

/-- The parts of the row of a verified registry. -/
theorem parts_of_row (sound : snapshot.Sound) (made : snapshot.row p clock = .ok row) :
    row.release = snapshot.release ∧ row.digest = snapshot.digest ∧
      row.generatedAt = snapshot.generatedAt.strftimeSecond ∧
      (∀ back, decodeProfileStates p row.profileStatesJson = .ok back →
        back.Perm snapshot.profileStates) ∧
      (∀ back, decodeReceiptKeyStates p row.receiptKeyStatesJson = .ok back →
        back.Perm snapshot.keyStates) := by
  obtain ⟨profiles, written, only, -⟩ := sound.exists_profilesText p
  obtain ⟨keys, writtenKeys, onlyKeys, -⟩ := sound.exists_keysText p
  simp only [Snapshot.row, bind_eq_ok, pure_eq_ok, written, writtenKeys, Except.ok.injEq,
    exists_eq_left'] at made
  obtain rfl := made
  exact ⟨rfl, rfl, rfl, only, onlyKeys⟩

/-- Where the row of a registry can be read, it is read as what the registry says. -/
theorem holds_of_decoded (sound : snapshot.Sound) (made : snapshot.row p clock = .ok row)
    {profiles : List (Text × ProfileState)} {keys : List (Text × KeyState)}
    (decoded : decodeProfileStates p row.profileStatesJson = .ok profiles)
    (decodedKeys : decodeReceiptKeyStates p row.receiptKeyStatesJson = .ok keys)
    (modern : snapshot.generatedAt.IsModern) :
    ∃ book, row.Holds p book ∧ book.Of snapshot ∧ book.profiles.rows = profiles ∧
      book.keys.rows = keys := by
  obtain ⟨release, digest, published, only, onlyKeys⟩ := parts_of_row sound made
  have perm := only profiles decoded
  have permKeys := onlyKeys keys decodedKeys
  refine ⟨⟨snapshot.release, snapshot.digest, some snapshot.generatedAt, ⟨profiles, ?_⟩,
    ⟨keys, ?_⟩⟩, ⟨release, digest, ?_, decoded, decodedKeys⟩, ⟨rfl, rfl, rfl, perm, permKeys⟩, rfl,
    rfl⟩
  · exact (perm.map Prod.fst).nodup_iff.mpr sound.nodup_profileStates
  · exact (permKeys.map Prod.fst).nodup_iff.mpr sound.nodup_keyStates
  · exact published ▸ (publicationOf_strftimeSecond sound.seconds.1).mpr ⟨modern, rfl⟩

/-- What a row of a registry says is what the registry says. -/
theorem holds_of_row (sound : snapshot.Sound) (modern : snapshot.Modern)
    (made : snapshot.row p clock = .ok row) : ∃ book, row.Holds p book ∧ book.Of snapshot := by
  obtain ⟨profiles, written, -, read⟩ := sound.exists_profilesText p
  obtain ⟨keys, writtenKeys, -, readKeys⟩ := sound.exists_keysText p
  obtain ⟨states, decoded⟩ := read modern.profiles
  obtain ⟨keyStates, decodedKeys⟩ := readKeys modern.keys
  have own := made
  simp only [Snapshot.row, bind_eq_ok, pure_eq_ok, written, writtenKeys, Except.ok.injEq,
    exists_eq_left'] at own
  obtain rfl := own
  obtain ⟨book, holds, same, -⟩ := holds_of_decoded sound made decoded decodedKeys modern.generatedAt
  exact ⟨book, holds, same⟩

/-- What a book admits, it precedes. -/
theorem precedes_of_admits {book' : Book} {sound : snapshot.Sound}
    (admits : book.Admits snapshot sound) (same : book'.Of snapshot) : book.Precedes book' where
  release := same.release ▸ admits.release.le
  same equal := absurd (equal.trans same.release) admits.release.ne
  published time known :=
    ⟨snapshot.generatedAt, same.publishedAt, admits.published time known⟩
  profiles := (admits.profiles.succeeds (fun _ => .refl _) fun _ _ shifts =>
    .of_shift shifts.status shifts.same shifts.changed).of_perm same.profiles.symm
  keys := (admits.keys.succeeds (fun entry => .refl entry.2) fun _ _ shifts =>
    ⟨.of_shift shifts.status.status shifts.status.same shifts.status.changed, shifts.material,
      shifts.window⟩).of_perm same.keys.symm

/-- A registry with the release of the row leaves the book, but for a missing time. -/
theorem holds_of_replay (holds : row.Holds p book) (sound : snapshot.Sound)
    (modern : snapshot.generatedAt.IsModern) (replayed : row.replay snapshot = .ok row') : ∃ book', row'.Holds p book' ∧
      book'.release = book.release ∧ book'.digest = snapshot.digest ∧ book.Precedes book' := by
  simp only [StateRow.replay, bind_eq_ok, require_eq_ok, pure_eq_ok] at replayed
  obtain ⟨_, digest, rfl⟩ := replayed
  have own : book.digest = snapshot.digest := holds.digest.symm.trans digest.symm
  by_cases unknown : row.generatedAt = []
  · -- a row without a text of the time has no known time
    have none_ : book.publishedAt = none := by
      have read := holds.generatedAt
      rw [publicationOf, if_pos unknown] at read
      exact (Except.ok.inj read).symm
    rw [if_pos unknown]
    refine ⟨{ book with publishedAt := some snapshot.generatedAt }, ?_, rfl, own, ?_⟩
    · exact ⟨holds.release, holds.digest,
        (publicationOf_strftimeSecond sound.seconds.1).mpr ⟨modern, rfl⟩, holds.profiles, holds.keys⟩
    · have absent : ∀ time, time ∉ book.publishedAt := by
        rw [none_]
        exact fun time => Option.not_mem_none time
      exact { Book.Precedes.refl book with
        same := fun _ => ⟨rfl, rfl, rfl, fun time known => absurd known (absent time)⟩
        published := fun time known => absurd known (absent time) }
  · rw [if_neg unknown]
    exact ⟨book, holds, rfl, own, .refl book⟩

/-- **One acceptance.** The row says what the registry says if the release is new, and in any
case has its release and digest; the book it said before precedes it. -/
theorem holds_of_accept (holds : row.Holds p book) (sound : snapshot.Sound)
    (modern : snapshot.Modern) (accepted : state.accept p snapshot clock (some row) = .ok row') : ∃ book', row'.Holds p book' ∧
      book'.release = snapshot.release ∧ book'.digest = snapshot.digest ∧ book.Precedes book' ∧
      (snapshot.release ≠ book.release → book'.Of snapshot) := by
  simp only [RegistryState.accept, acceptInto, holds.profiles, holds.keys, bind_eq_ok,
    Except.ok.injEq, exists_eq_left'] at accepted
  obtain ⟨_, -, accepted⟩ := accepted
  by_cases release : snapshot.release = row.release
  · rw [if_pos release] at accepted
    obtain ⟨book', holds', same, digest, precedes⟩ := holds_of_replay holds sound
      modern.generatedAt accepted
    have own : snapshot.release = book.release := release.trans holds.release
    exact ⟨book', holds', same.trans own.symm, digest, precedes, fun other => absurd own other⟩
  · rw [if_neg release, bind_eq_ok] at accepted
    obtain ⟨_, checked, made⟩ := accepted
    obtain ⟨book', holds', same⟩ := holds_of_row sound modern made
    have admits := (checkSuccessor_eq_ok holds sound release).mp checked
    exact ⟨book', holds', same.release, same.digest, precedes_of_admits admits same, fun _ => same⟩

/-- **Exactly what is accepted.** Over a row that says what the book says, a verified registry
is accepted if and only if it reaches the configured minimum and either has the release and
the digest of the book or may follow it. -/
theorem accept_eq_ok_iff (holds : row.Holds p book) (sound : snapshot.Sound) :
    (∃ row', state.accept p snapshot clock (some row) = .ok row') ↔
      (∀ minimum ∈ state.minimumRelease, minimum ≤ snapshot.release) ∧
        ((snapshot.release = book.release ∧ snapshot.digest = book.digest) ∨
          book.Admits snapshot sound) := by
  simp only [RegistryState.accept, acceptInto, holds.profiles, holds.keys, bind_eq_ok,
    Except.ok.injEq, exists_eq_left', require_eq_ok]
  rw [← holds.release, ← holds.digest]
  by_cases release : snapshot.release = row.release
  · have stale : ¬ book.Admits snapshot sound := fun admits =>
      admits.release.ne (holds.release.symm.trans release.symm)
    simp only [if_pos release, StateRow.replay, bind_eq_ok, require_eq_ok, pure_eq_ok]
    constructor
    · rintro ⟨_, _, least, _, digest, -⟩
      exact ⟨least, .inl ⟨release, digest⟩⟩
    · rintro ⟨least, ⟨-, digest⟩ | admits⟩
      · exact ⟨_, (), least, (), digest, rfl⟩
      · exact absurd admits stale
  · have checks := checkSuccessor_eq_ok holds sound release
    simp only [if_neg release, bind_eq_ok]
    constructor
    · rintro ⟨_, _, least, _, checked, -⟩
      exact ⟨least, .inr (checks.mp checked)⟩
    · rintro ⟨least, ⟨same, -⟩ | admits⟩
      · exact absurd same release
      · obtain ⟨row', made⟩ := exists_row sound p clock
        exact ⟨row', (), least, (), checks.mpr admits, made⟩

end Step

/-! ## Runs -/

/-- A registry that was verified. -/
structure Verified (p : Platform) (ed : Ed25519 p) where
  trusted : Text → Option Bytes
  occasion : Occasion
  data : Bytes
  snapshot : Snapshot
  verified : verifyRegistry p ed trusted occasion data = .ok snapshot

/-- A call of `accept`: several objects may share one database. -/
structure Acceptance (p : Platform) (ed : Ed25519 p) where
  state : RegistryState
  registry : Verified p ed
  clock : Instant

variable {p : Platform} {ed : Ed25519 p}

theorem Verified.sound (registry : Verified p ed) : registry.snapshot.Sound :=
  sound_of_verifyRegistry registry.verified

/-- The database around a call. -/
def step (row : Option StateRow) (call : Acceptance p ed) : Option StateRow :=
  settle row ((call.state.accept p call.registry.snapshot call.clock row).map some)

/-- There is no row yet, or it says something. -/
def Readable (p : Platform) (row : Option StateRow) : Prop :=
  ∀ stored ∈ row, ∃ book, stored.Holds p book

/-- The second row, if there is a first, says what the first book precedes. -/
def Continues (p : Platform) (row row' : Option StateRow) : Prop :=
  ∀ stored ∈ row, ∀ book, stored.Holds p book →
    ∃ stored' ∈ row', ∃ book', stored'.Holds p book' ∧ book.Precedes book'

theorem Readable.step {row : Option StateRow} (readable : Readable p row)
    {call : Acceptance p ed} (modern : call.registry.snapshot.Modern) :
    Readable p (step row call) := by
  refine settle_of_ok readable fun row' committed stored present => ?_
  obtain ⟨made, accepted, rfl⟩ := map_eq_ok.mp committed
  obtain rfl := Option.some.inj present
  cases row with
  | none =>
    simp only [RegistryState.accept, acceptInto, bind_eq_ok] at accepted
    obtain ⟨_, -, _, -, written⟩ := accepted
    exact (holds_of_row call.registry.sound modern written).imp fun _ => And.left
  | some old =>
    obtain ⟨book, holds⟩ := readable old rfl
    exact (holds_of_accept holds call.registry.sound modern accepted).imp fun _ => And.left

theorem Continues.refl (row : Option StateRow) : Continues p row row :=
  fun stored present book holds => ⟨stored, present, book, holds, .refl book⟩

theorem Continues.trans {a b c : Option StateRow} (first : Continues p a b)
    (second : Continues p b c) : Continues p a c := by
  intro stored present book holds
  obtain ⟨stored', present', book', holds', precedes⟩ := first stored present book holds
  obtain ⟨stored'', present'', book'', holds'', precedes'⟩ := second stored' present' book' holds'
  exact ⟨stored'', present'', book'', holds'', precedes.trans precedes'⟩

theorem continues_step (row : Option StateRow) {call : Acceptance p ed}
    (modern : call.registry.snapshot.Modern) : Continues p row (step row call) := by
  refine settle_of_ok (.refl row) fun row' committed stored present book holds => ?_
  obtain ⟨made, accepted, rfl⟩ := map_eq_ok.mp committed
  obtain rfl := Option.mem_def.mp present
  obtain ⟨book', holds', -, -, precedes, -⟩ :=
    holds_of_accept holds call.registry.sound modern accepted
  exact ⟨made, rfl, book', holds', precedes⟩

/-- **History of the row.** From a database without a row, or with any row that can be read,
every run of calls with registries from year 1000 on reaches a row that can be read, and each
book that a row is ever read as precedes the book of every later row. -/
theorem books_precede {start : Option StateRow} (readable : Readable p start)
    (first later : List (Acceptance p ed))
    (modern : ∀ call ∈ first ++ later, call.registry.snapshot.Modern) :
    Readable p (run step start first) ∧
      Continues p (run step start first) (run step start (first ++ later)) := by
  obtain ⟨early, late⟩ := List.forall_mem_append.mp modern
  constructor
  · exact invariant_along (fun _ _ held modern => held.step modern) readable
      (along_of_forall fun call member _ => early call member)
  · rw [run_append]
    exact relation_of_along .refl .trans
      (fun row (call : Acceptance p ed) (modern : call.registry.snapshot.Modern) =>
        continues_step row modern) (along_of_forall fun call member _ => late call member)

theorem step_of_accept {row : Option StateRow} {call : Acceptance p ed} {stored : StateRow}
    (accepted : call.state.accept p call.registry.snapshot call.clock row = .ok stored) :
    step row call = some stored := by
  rw [step, accepted]
  rfl

/-! ## Two releases -/

namespace SampleRegistry

def moved : Text := "2026-01-03T00:00:00Z"

/-- The CPU-TDX profile retires on the third day. -/
def retiringProfile : Json := .obj [("id", .str "tdx-a"), ("kind", .str "cpu_tdx"),
  ("status", .str "retiring"), ("status_changed_at", .str moved), ("valid_from", .str start),
  ("valid_until", .str stop), ("retire_at", .str stop), ("measurements", texts [measurement]),
  ("runtime_measurements", texts []), ("allowed_firmware", texts []), ("min_tcb", .int 0),
  ("tdx_allowed_tcb_statuses", texts ["UpToDate"]), ("tdx_allowed_advisories", texts []),
  ("metadata", .obj [])]

/-- So does the receipt key. -/
def retiredKey : Json := .obj [("id", .str "receipt-a"), ("algorithm", .str "ed25519"),
  ("public_key_base64", .str "gTl3Dqh9F19Wo1Rmw0x+zMuNipG07jeiXfYPW4/Js5Q="),
  ("purpose", .str "assurance_receipt"), ("status", .str "retired"),
  ("status_changed_at", .str moved), ("valid_from", .str start), ("valid_until", .str stop),
  ("revoked_at", .null), ("replacement_key_id", .null), ("metadata", .obj [])]

/-- The second release, with the signature that the platform makes of it. -/
def nextMembers : List (Text × Json) := [("schema", .str registrySchema), ("release", .int 2),
  ("generated_at", .str moved), ("valid_from", .str start), ("valid_until", .str stop),
  ("signing_key_id", .str "root"), ("receipt_signing_keys", .arr [retiredKey]),
  ("profiles", .arr [retiringProfile, gpuProfile]), ("metadata", .obj []),
  ("signature", .obj [("algorithm", .str "ed25519"),
    ("value_base64", .str (base64 (List.replicate 64 0)))])]

def nextData : Bytes := documentBytes platform nextMembers

def nextNoon : Instant := noon + 86400 * 1000000

def nextOccasion : Occasion := ⟨some nextNoon, 86400, none, nextNoon, nextNoon⟩

theorem canonicalJson_nextMembers : canonicalJson platform (.obj nextMembers) = some nextData :=
  if_pos (by decide +kernel)

theorem parsed_nextData : parseRegistry nextData = .ok (sortedMembers nextMembers) :=
  parseRegistry_of_canonical (by decide +kernel) canonicalJson_nextMembers (by decide +kernel)

/-- It accepts releases from the first on. -/
def guard : RegistryState := ⟨some 1, none⟩

/-- Both releases are verified, and the second is accepted after the first. The key it retires
still verifies what was signed the day before. -/
theorem accepts_next : ((verifyMembers platform ed25519 trusted occasion
    (sortedMembers members)).toOption.any fun first =>
      (verifyMembers platform ed25519 trusted nextOccasion
        (sortedMembers nextMembers)).toOption.any fun next =>
          ((first.release = 1 ∧ first.Modern) ∧ next.release = 2 ∧ next.Modern) &&
          ((first.receiptKey "receipt-a").isSome &&
            (next.receiptKey "receipt-a").any fun key => key.canVerifyAt noon) &&
          (first.row platform noon).toOption.any fun row =>
            (guard.accept platform next nextNoon (some row)).toOption.any fun _ => true) = true := by
  decide +kernel

/-- Two verified releases of which the second is accepted after the first. -/
structure Releases where
  first : Verified platform ed25519
  next : Verified platform ed25519
  row : StateRow
  row' : StateRow
  releases : first.snapshot.release = 1 ∧ next.snapshot.release = 2
  modern : first.snapshot.Modern ∧ next.snapshot.Modern
  keys : (first.snapshot.receiptKey "receipt-a").isSome ∧
    (next.snapshot.receiptKey "receipt-a").any fun key => key.canVerifyAt noon
  written : first.snapshot.row platform noon = .ok row
  accepted : guard.accept platform next.snapshot nextNoon (some row) = .ok row'

theorem nonempty_releases : Nonempty Releases := by
  obtain ⟨first, verified, rest⟩ := exists_of_any accepts_next
  obtain ⟨next, verified', rest⟩ := exists_of_any rest
  simp only [Bool.and_eq_true, decide_eq_true_eq] at rest
  obtain ⟨⟨⟨⟨release, modern⟩, release', modern'⟩, found, found'⟩, rest⟩ := rest
  obtain ⟨row, written, rest⟩ := exists_of_any rest
  obtain ⟨row', accepted, -⟩ := exists_of_any rest
  exact ⟨{
    first := ⟨trusted, occasion, data, first, verifyRegistry_data.trans verified⟩
    next := ⟨trusted, nextOccasion, nextData, next,
      (verifyRegistry_of_parsed parsed_nextData).trans verified'⟩
    row, row'
    releases := ⟨release, release'⟩
    modern := ⟨modern, modern'⟩
    keys := ⟨found, found'⟩
    written, accepted }⟩

namespace Releases

variable (releases : Releases)

/-- The calls that offer the two releases. -/
def earlier : List (Acceptance platform ed25519) := [⟨guard, releases.first, noon⟩]

def later : List (Acceptance platform ed25519) := [⟨guard, releases.next, nextNoon⟩]

theorem accepted_first :
    guard.accept platform releases.first.snapshot noon none = .ok releases.row := by
  have least : ∀ minimum ∈ guard.minimumRelease, minimum ≤ releases.first.snapshot.release := by
    intro minimum known
    obtain rfl := Option.some.inj known
    exact releases.releases.1.ge
  simp only [RegistryState.accept, acceptInto, bind_eq_ok, require_eq_ok]
  exact ⟨(), least, (), fun pin known => absurd known (Option.not_mem_none _), releases.written⟩

theorem run_earlier : run step none releases.earlier = some releases.row :=
  @step_of_accept _ _ none ⟨guard, releases.first, noon⟩ _ releases.accepted_first

theorem run_later : run step none (releases.earlier ++ releases.later) = some releases.row' := by
  rw [run_append, run_earlier]
  exact @step_of_accept _ _ (some releases.row) ⟨guard, releases.next, nextNoon⟩ _ releases.accepted

theorem modern_calls : ∀ call ∈ releases.earlier ++ releases.later, call.registry.snapshot.Modern := by
  rw [List.forall_mem_append]
  exact ⟨List.forall_mem_singleton.mpr releases.modern.1,
    List.forall_mem_singleton.mpr releases.modern.2⟩

end Releases

end SampleRegistry

open SampleRegistry in
/-- The second release is accepted over the row of the first, so it may follow its book. -/
theorem accept_eq_ok_iff_sample : ∃ (releases : Releases) (book : Book),
    releases.row.Holds platform book ∧ book.release = 1 ∧
      book.Admits releases.next.snapshot releases.next.sound := by
  obtain ⟨releases⟩ := nonempty_releases
  obtain ⟨book, holds, same⟩ :=
    holds_of_row releases.first.sound releases.modern.1 releases.written
  have release : book.release = 1 := same.release.trans releases.releases.1
  refine ⟨releases, book, holds, release, ?_⟩
  rcases ((accept_eq_ok_iff holds releases.next.sound).mp ⟨_, releases.accepted⟩).2 with
    ⟨again, -⟩ | admits
  · rw [release, releases.releases.2] at again
    cases again
  · exact admits

open SampleRegistry in
/-- The row of the first release and that of the second, from an empty database. -/
theorem books_precede_sample : ∃ (releases : Releases) (book book' : Book),
    run step none releases.earlier = some releases.row ∧ releases.row.Holds platform book ∧
      run step none (releases.earlier ++ releases.later) = some releases.row' ∧
      releases.row'.Holds platform book' ∧ book.Precedes book' := by
  obtain ⟨releases⟩ := nonempty_releases
  have fresh : Readable platform none := fun _ present => absurd present (Option.not_mem_none _)
  obtain ⟨readable, continues⟩ :=
    books_precede fresh releases.earlier releases.later releases.modern_calls
  obtain ⟨book, holds⟩ := readable _ releases.run_earlier
  obtain ⟨stored, present, book', holds', precedes⟩ := continues _ releases.run_earlier book holds
  obtain rfl := Option.some.inj (releases.run_later.symm.trans present)
  exact ⟨releases, book, book', releases.run_earlier, holds, present, holds', precedes⟩

end Cathedral.PolicyRegistry
