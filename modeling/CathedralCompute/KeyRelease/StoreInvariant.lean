import CathedralCompute.KeyRelease.Store

/-!
# The grant store keeps its columns in step

State, revision, envelope, digest and event log are separate columns and tables.
Every transaction either leaves the database as it is or writes one row and one
event, and there are three kinds of rows it can write. What holds of a grant in
every run is read off these three.

## Main results

* `grant_store_invariant` — one grant for an assignment, terms and envelopes that
  never change, a log that chains to the state, and rows that read back as the
  grants that were written
-/

set_option autoImplicit false

namespace Cathedral.KeyRelease

open Codec Semantics

variable {p : Platform} {s s' : Store} {grant : AttestationGrant}

/-! ## Envelopes -/

/-- What the checks say of an envelope. -/
theorem EncryptedDataKeyEnvelope.plain (e : EncryptedDataKeyEnvelope) :
    (Json.obj e.document).Plain True := by
  have checked := e.checked
  simp only [EnvelopeFields.check, requireDigest, requireBase64, bind_eq_ok, require_eq_ok,
    demand_eq_ok, exists_const] at checked
  obtain ⟨grantId, digest, algorithm, ⟨key, -, -, key64⟩, ⟨nonce, -, -, nonce64⟩,
    ciphertext, -, -, ciphertext64⟩ := checked
  have grantId := (Text.isAscii_of_isDigest (by decide) grantId).noSurrogate
  have digest := (Text.isAscii_of_isDigest (by decide) digest).noSurrogate
  have algorithm : e.algorithm.NoSurrogate := by
    rw [algorithm]
    decide
  have key := key64 ▸ (isAscii_base64 key).noSurrogate
  have nonce := nonce64 ▸ (isAscii_base64 nonce).noSurrogate
  have ciphertext := ciphertext64 ▸ (isAscii_base64 ciphertext).noSurrogate
  refine ⟨?_, ?_⟩
  · simp only [document, List.map]
    decide
  · simp only [document, Json.PlainMembers, Json.Plain, grantId, digest, algorithm, key, nonce,
      ciphertext, true_and, and_true]
    decide

theorem EncryptedDataKeyEnvelope.loads (e : EncryptedDataKeyEnvelope) :
    loadsBytes (defaultHooks p) p.decodeWide (e.canonicalBytes p) =
      some (Json.obj e.document).sortKeys := by
  refine loadsBytes_canonicalJson (faithful_defaultHooks p) e.plain ?_
  unfold canonicalJson
  rw [if_pos]
  · rfl
  · rfl

/-- An envelope read back is the envelope that was written. -/
theorem eq_of_envelopeOfOctets {e back : EncryptedDataKeyEnvelope}
    (read : envelopeOfOctets p (e.canonicalBytes p) = .ok back) : back = e := by
  have distinct := e.plain.1
  have text : ∀ {key value : Text}, Json.lookup key e.document = some (.str value) → ∀ {back : Text},
      envelopeText (Json.sortMembers (Json.sortKeysMembers e.document)) key = .ok back →
      back = value := by
    intro key value found back shown
    have sorted := Json.lookup_sortMembers distinct found
    simp only [envelopeText, field, sorted, Option.getD_some, demand_eq_ok] at shown
    exact (Option.some.inj shown).symm
  simp only [envelopeOfOctets, e.loads, Json.sortKeys, bind_eq_ok, require_eq_ok, demand_eq_ok,
    membersOfJson, Option.some.injEq, exists_eq_left', mapError_eq_ok, makeEnvelope_eq_ok,
    exists_const] at read
  obtain ⟨-, -, _, -, -, grantId, h1, digest, h2, key, h3, nonce, h4, ciphertext, h5, algorithm, h6,
    made⟩ := read
  rw [text rfl h1, text rfl h2, text rfl h3, text rfl h4, text rfl h5, text rfl h6] at made
  cases back
  cases e
  cases made
  rfl

/-! ## Rows -/

/-- What a row says when it is read. -/
structure ReadAs (p : Platform) (row : GrantRow) (grant : AttestationGrant) : Prop where
  terms : grant.toGrantTerms = row.terms.withTimes grant.issuedAt grant.expiresAt
  issuedAt : Instant.parseUtc row.terms.issuedAt = some grant.issuedAt
  expiresAt : Instant.parseUtc row.terms.expiresAt = some grant.expiresAt
  state : grant.state = row.state
  revision : grant.revision = row.revision
  envelope : readOptional (envelopeOfOctets p) row.envelopeJson = .ok grant.envelope
  redeemedAt : readOptional readTime row.redeemedAt = .ok grant.redeemedAt
  envelopeDigest : grant.envelope.map (EncryptedDataKeyEnvelope.digest p) = row.envelopeDigest
  requestDigest : ∀ e ∈ grant.envelope, e.requestDigest = grant.expectedBrokerRequestDigest p

theorem readGrant_eq_ok {row : GrantRow} : readGrant p row = .ok grant ↔ ReadAs p row grant := by
  simp only [readGrant, readTime, bind_eq_ok, demand_eq_ok, makeGrant_eq_ok, require_eq_ok,
    pure_eq_ok, exists_const]
  constructor
  · rintro ⟨envelope, json, issuedAt, issued, expiresAt, expires, redeemedAt, redeemed,
      ⟨fields, checked⟩, same, digest, request, rfl⟩
    cases same
    exact ⟨rfl, issued, expires, rfl, rfl, json, redeemed, digest, request⟩
  · intro read
    refine ⟨grant.envelope, read.envelope, grant.issuedAt, read.issuedAt, grant.expiresAt,
      read.expiresAt, grant.redeemedAt, read.redeemedAt, grant, ?_, read.envelopeDigest,
      read.requestDigest, rfl⟩
    rw [← read.terms, ← read.state, ← read.revision]

/-- What the checks say of a grant's envelope. -/
theorem AttestationGrant.envelope_checked (grant : AttestationGrant) :
    isGrantId grant.grantId = true ∧ (grant.envelope = none ↔ grant.state ≠ .redeemed) ∧
      (grant.redeemedAt = none ↔ grant.state ≠ .redeemed) := by
  have checked := grant.checked
  simp only [GrantFields.check, requireDigest, requireText, requirePositiveInt, bind_eq_ok,
    require_eq_ok, exists_const] at checked
  tauto

theorem ReadAs.grantId {row : GrantRow} (read : ReadAs p row grant) :
    grant.grantId = row.grantId :=
  congrArg GrantTerms.grantId read.terms

/-- A column is null exactly when what is read of it is. -/
theorem readOptional_eq_none {α β : Type} {read : α → Except Failure β} {column : Option α}
    {value : Option β} (shown : readOptional read column = .ok value) :
    column = none ↔ value = none := by
  cases column with
  | none =>
    cases shown
    simp
  | some raw =>
    obtain ⟨back, -, rfl⟩ := map_eq_ok.mp shown
    simp

/-- A row that can be read holds an envelope exactly when it is redeemed. -/
theorem ReadAs.envelope_none {row : GrantRow} (read : ReadAs p row grant) :
    row.envelopeJson = none ↔ row.state ≠ .redeemed := by
  rw [readOptional_eq_none read.envelope, grant.envelope_checked.2.1, read.state]

/-! ## What a transaction writes -/

/-- The row of a grant that is being redeemed. -/
def GrantRow.started (row : GrantRow) : GrantRow :=
  { row with state := .redeeming, revision := row.revision + 1 }

/-- The row of a redeemed grant. -/
def GrantRow.finished (p : Platform) (envelope : EncryptedDataKeyEnvelope) (when : Instant)
    (row : GrantRow) : GrantRow :=
  { row with
    state := .redeemed
    revision := row.revision + 1
    envelopeJson := some (envelope.canonicalBytes p)
    envelopeDigest := some (envelope.digest p)
    redeemedAt := some when.canonicalUtc }

/-- The three rows a transaction can write, with the row it found. -/
inductive Change (p : Platform) (s : Store) : Op → Option GrantRow → GrantRow → Prop
  | issue {candidate : AttestationGrant} (state : candidate.state = .issued)
      (alone : ∀ other ∈ s.grants.rows, other.terms.assignmentId ≠ candidate.assignmentId) :
      Change p s (.createOrGet candidate) none (issuedRow candidate)
  | start {row : GrantRow} {when : Instant} (state : row.state = .issued) :
      Change p s (.beginRedemption row.grantId when) (some row) row.started
  | finish {row : GrantRow} {envelope : EncryptedDataKeyEnvelope} {when : Instant}
      (state : row.state = .redeeming) :
      Change p s (.persistRedemption row.grantId envelope when) (some row)
        (row.finished p envelope when)

/-- A transaction wrote one row and one event, and read the row back. -/
structure Wrote (p : Platform) (s s' : Store) (before : Option GrantRow) (row : GrantRow)
    (grant : AttestationGrant) : Prop where
  found : s.grants.find? row.grantId = before
  grants : ∀ grantId, s'.grants.find? grantId =
    if row.grantId = grantId then some row else s.grants.find? grantId
  events : ∃ event : EventRow, s'.events = s.events ++ [event] ∧ event.grantId = row.grantId ∧
    event.revision = row.revision ∧ event.fromState = before.map GrantRow.state ∧
    event.toState = row.state
  read : ReadAs p row grant

theorem insertEvent_eq_ok {event : ℕ → EventRow} (inserted : insertEvent event s = .ok s') :
    s'.grants = s.grants ∧ s'.events = s.events ++ [event (s.eventSequence + 1)] := by
  simp only [insertEvent, bind_eq_ok, require_eq_ok, pure_eq_ok, exists_const] at inserted
  obtain ⟨-, rfl⟩ := inserted
  exact ⟨rfl, rfl⟩

theorem selectGrant_eq_ok {grantId : Text} {row : GrantRow}
    (selected : selectGrant s grantId = .ok row) : s.grants.find? grantId = some row := by
  simp only [selectGrant, bind_eq_ok, demand_eq_ok] at selected
  exact selected.choose_spec.2

theorem readBack_eq_ok {grantId : Text} (read : readBack p grantId s = .ok (grant, s')) :
    s' = s ∧ ∃ row, s.grants.find? grantId = some row ∧ ReadAs p row grant := by
  simp only [readBack, bind_eq_ok, pure_eq_ok, Prod.mk.injEq, readGrant_eq_ok] at read
  obtain ⟨row, selected, _, shown, rfl, rfl⟩ := read
  exact ⟨rfl, row, selectGrant_eq_ok selected, shown⟩

/-- An update of the one row a compare-and-set statement meets. -/
theorem find?_compareAndSet {row : GrantRow} {state : GrantState} (change : GrantRow → GrantRow)
    (keeps : ∀ row, (change row).grantId = row.grantId)
    (found : s.grants.find? row.grantId = some row) (held : row.state = state) (grantId : Text) :
    (s.grants.update (fun other => other.Holds row.grantId state row.revision) change
        keeps).find? grantId =
      if row.grantId = grantId then some (change row) else s.grants.find? grantId := by
  rw [Table.find?_update grantId keeps]
  split
  case isTrue same =>
    subst same
    rw [found]
    exact congrArg some (if_pos ⟨rfl, held, rfl⟩)
  case isFalse other =>
    cases absent : s.grants.find? grantId with
    | none => rfl
    | some unchanged =>
      have keyed := (Table.find?_eq_some.mp absent).2
      exact congrArg some (if_neg fun holds => other (holds.1.symm.trans keyed))

/-- A transaction answered with a grant that was there before. -/
def Answered (p : Platform) (s s' : Store) (grant : AttestationGrant) : Prop :=
  s' = s ∧ ∃ row, s.grants.find? row.grantId = some row ∧ ReadAs p row grant

theorem sameCiphertext_eq_ok {current : AttestationGrant} {envelope : EncryptedDataKeyEnvelope}
    {message : Text} (answered : sameCiphertext p current envelope message s = .ok (grant, s')) :
    grant = current ∧ s' = s := by
  simp only [sameCiphertext, bind_eq_ok, pure_eq_ok, Prod.mk.injEq] at answered
  obtain ⟨-, -, rfl, rfl⟩ := answered
  exact ⟨rfl, rfl⟩

theorem createOrGet_cases {candidate : AttestationGrant}
    (committed : createOrGet p candidate s = .ok (grant, s')) :
    Answered p s s' grant ∨
      ∃ before row, Change p s (.createOrGet candidate) before row ∧
        Wrote p s s' before row grant := by
  simp only [createOrGet, bind_eq_ok, require_eq_ok, exists_const] at committed
  obtain ⟨state, committed⟩ := committed
  split at committed
  case h_1 row listed =>
    simp only [existingGrant, bind_eq_ok, pure_eq_ok, Prod.mk.injEq, readGrant_eq_ok] at committed
    obtain ⟨_, read, _, -, rfl, rfl⟩ := committed
    have member := List.mem_of_find?_eq_some listed
    exact .inl ⟨rfl, row, Table.find?_eq_some.mpr ⟨member, rfl⟩, read⟩
  case h_2 absent =>
    simp only [createGrant, insertGrant, bind_eq_ok, require_eq_ok, demand_eq_ok, pure_eq_ok,
      exists_const] at committed
    obtain ⟨_, ⟨_, -, alone, grants, inserted, rfl⟩, _, logged, read⟩ := committed
    obtain ⟨kept, events⟩ := insertEvent_eq_ok logged
    obtain ⟨rfl, row, found, shown⟩ := readBack_eq_ok read
    have view := Table.find?_insert inserted
    have own : (issuedRow candidate).grantId = candidate.grantId := rfl
    rw [kept, view, if_pos own] at found
    cases found
    refine .inr ⟨none, issuedRow candidate, .issue state alone, ?_, ?_, ?_, shown⟩
    · exact Table.find?_eq_none.mpr (Table.insert_eq_some.mp inserted).1
    · rw [kept]
      exact view
    · exact ⟨_, events, rfl, rfl, rfl, rfl⟩

theorem beginRedemption_cases {grantId : Text} {when : Instant}
    (committed : beginRedemption p grantId when s = .ok (grant, s')) :
    Answered p s s' grant ∨
      ∃ before row, Change p s (.beginRedemption grantId when) before row ∧
        Wrote p s s' before row grant := by
  simp only [beginRedemption, bind_eq_ok, require_eq_ok, exists_const, readGrant_eq_ok] at committed
  obtain ⟨row, selected, current, read, -, committed⟩ := committed
  have found := selectGrant_eq_ok selected
  obtain rfl := (Table.find?_eq_some.mp found).2
  split at committed
  case isTrue =>
    cases committed
    exact .inl ⟨rfl, row, found, read⟩
  case isFalse open_ =>
    have state : row.state = .issued := by
      rw [← read.state]
      exact not_not.mp open_
    simp only [startRedemption, bind_eq_ok, require_eq_ok, exists_const] at committed
    obtain ⟨-, _, logged, back⟩ := committed
    rw [read.revision] at logged
    obtain ⟨kept, events⟩ := insertEvent_eq_ok logged
    obtain ⟨rfl, row', found', shown⟩ := readBack_eq_ok back
    have view : ∀ grantId, s'.grants.find? grantId =
        if row.grantId = grantId then some row.started else s.grants.find? grantId := by
      intro grantId
      rw [kept]
      exact find?_compareAndSet (fun other =>
        { other with state := .redeeming, revision := row.revision + 1 }) (fun _ => rfl) found state
        grantId
    rw [view, if_pos rfl] at found'
    cases found'
    exact .inr ⟨some row, row.started, .start state, found, view,
      ⟨_, events, rfl, rfl, congrArg some state.symm, rfl⟩, shown⟩

theorem persistRedemption_cases {grantId : Text} {envelope : EncryptedDataKeyEnvelope}
    {when : Instant} (committed : persistRedemption p grantId envelope when s = .ok (grant, s')) :
    Answered p s s' grant ∨
      ∃ before row, Change p s (.persistRedemption grantId envelope when) before row ∧
        Wrote p s s' before row grant := by
  simp only [persistRedemption, bind_eq_ok, require_eq_ok, exists_const, readGrant_eq_ok]
    at committed
  obtain ⟨row, selected, current, read, -, committed⟩ := committed
  have found := selectGrant_eq_ok selected
  obtain rfl := (Table.find?_eq_some.mp found).2
  split at committed
  case isTrue =>
    obtain ⟨rfl, rfl⟩ := sameCiphertext_eq_ok committed
    exact .inl ⟨rfl, row, found, read⟩
  case isFalse =>
    simp only [storeCiphertext, bind_eq_ok, require_eq_ok, exists_const] at committed
    obtain ⟨state, -, -, committed⟩ := committed
    rw [read.state] at state
    split at committed
    case isTrue =>
      -- the row another writer took is read and returned
      simp only [lostRace, bind_eq_ok, demand_eq_ok, readGrant_eq_ok] at committed
      obtain ⟨winner, found', persisted, shown, same⟩ := committed
      obtain ⟨rfl, rfl⟩ := sameCiphertext_eq_ok same
      rw [found] at found'
      cases found'
      exact .inl ⟨rfl, row, found, shown⟩
    case isFalse =>
      rw [bind_eq_ok] at committed
      obtain ⟨_, logged, back⟩ := committed
      rw [read.revision] at logged
      obtain ⟨kept, events⟩ := insertEvent_eq_ok logged
      obtain ⟨rfl, row', found', shown⟩ := readBack_eq_ok back
      have view : ∀ grantId, s'.grants.find? grantId =
          if row.grantId = grantId then some (row.finished p envelope when)
          else s.grants.find? grantId := by
        intro grantId
        rw [kept]
        exact find?_compareAndSet (fun other => { other with
          state := .redeemed
          revision := row.revision + 1
          envelopeJson := some (envelope.canonicalBytes p)
          envelopeDigest := some (envelope.digest p)
          redeemedAt := some when.canonicalUtc }) (fun _ => rfl) found state grantId
      rw [view, if_pos rfl] at found'
      cases found'
      exact .inr ⟨some row, row.finished p envelope when, .finish state, found, view,
        ⟨_, events, rfl, rfl, congrArg some state.symm, rfl⟩, shown⟩

/-- A transaction answers with a grant that was there, or writes one row. -/
theorem commit_cases {op : Op} (committed : op.commit p s = .ok (grant, s')) :
    Answered p s s' grant ∨
      ∃ before row, Change p s op before row ∧ Wrote p s s' before row grant := by
  cases op with
  | createOrGet candidate => exact createOrGet_cases committed
  | beginRedemption grantId when => exact beginRedemption_cases committed
  | persistRedemption grantId envelope when => exact persistRedemption_cases committed

/-! ## The invariant -/

/-- The events of one grant, oldest first. -/
def Store.log (s : Store) (grantId : Text) : List EventRow :=
  s.events.filter fun event => event.grantId = grantId

/-- One event comes right after another. -/
structure EventRow.Precedes (previous next : EventRow) : Prop where
  left : next.fromState = some previous.toState
  numbered : next.revision = previous.revision + 1

/-- The log starts from no state, each event leaves the state the one before it
entered, the last one enters the state of the row, and there are as many as its
revision says. -/
structure Audited (log : List EventRow) (row : GrantRow) : Prop where
  first : ∀ event ∈ log.head?, event.fromState = none ∧ event.revision = 1
  chained : log.IsChain EventRow.Precedes
  last : ∃ event ∈ log.getLast?, event.toState = row.state ∧ event.revision = row.revision
  counted : row.revision = log.length

/-- What every run keeps. -/
structure Sound (p : Platform) (s : Store) : Prop where
  readable : ∀ row ∈ s.grants.rows, ∃ grant, ReadAs p row grant
  alone : ∀ row ∈ s.grants.rows, ∀ other ∈ s.grants.rows,
    row.terms.assignmentId = other.terms.assignmentId → row = other
  audited : ∀ row ∈ s.grants.rows, Audited (s.log row.grantId) row
  silent : ∀ grantId, s.grants.find? grantId = none → s.log grantId = []

theorem sound_initial : Sound p .initial where
  readable _ listed := nomatch listed
  alone _ listed := nomatch listed
  audited _ listed := nomatch listed
  silent _ _ := rfl

/-- A first event makes a log of its own. -/
theorem Audited.begin {event : EventRow} {row : GrantRow}
    (first : event.fromState = none ∧ event.revision = 1) (state : event.toState = row.state)
    (revision : event.revision = row.revision) : Audited [event] row where
  first _ head := by
    cases head
    exact first
  chained := .singleton event
  last := ⟨event, rfl, state, revision⟩
  counted := by
    rw [← revision, first.2]
    rfl

/-- An event that leaves the state of the row extends its log. -/
theorem Audited.extend {log : List EventRow} {event : EventRow} {row row' : GrantRow}
    (audited : Audited log row) (left : event.fromState = some row.state)
    (numbered : event.revision = row.revision + 1) (state : event.toState = row'.state)
    (revision : event.revision = row'.revision) : Audited (log ++ [event]) row' := by
  obtain ⟨previous, ends, entered, count⟩ := audited.last
  refine ⟨?_, ?_, ⟨event, List.getLast?_concat, state, revision⟩, ?_⟩
  · -- the head of the longer log is the head of the old one
    intro head isHead
    cases log with
    | nil => cases ends
    | cons first rest => exact audited.first head isHead
  · refine List.isChain_append.mpr ⟨audited.chained, .singleton event, ?_⟩
    intro x isLast y isHead
    cases isHead
    rw [ends] at isLast
    cases isLast
    exact ⟨by rw [left, entered], by rw [numbered, count]⟩
  · rw [← revision, numbered, audited.counted, List.length_append, List.length_singleton,
      Nat.cast_add, Nat.cast_one]

section Wrote

variable {before : Option GrantRow} {row : GrantRow} {op : Op}

theorem Wrote.log_self (wrote : Wrote p s s' before row grant) :
    ∃ event : EventRow, s'.log row.grantId = s.log row.grantId ++ [event] ∧
      event.revision = row.revision ∧ event.fromState = before.map GrantRow.state ∧
      event.toState = row.state := by
  obtain ⟨event, events, keyed, rest⟩ := wrote.events
  refine ⟨event, ?_, rest⟩
  simp [Store.log, events, keyed]

theorem Wrote.log_other (wrote : Wrote p s s' before row grant) {grantId : Text}
    (other : row.grantId ≠ grantId) : s'.log grantId = s.log grantId := by
  obtain ⟨event, events, keyed, -⟩ := wrote.events
  simp [Store.log, events, keyed, other]

theorem Wrote.mem_rows (wrote : Wrote p s s' before row grant) {x : GrantRow} :
    x ∈ s'.grants.rows ↔ x = row ∨ (x ∈ s.grants.rows ∧ row.grantId ≠ x.grantId) := by
  have view : x ∈ s'.grants.rows ↔ s'.grants.find? x.grantId = some x := by
    simp [Table.find?_eq_some]
  rw [view, wrote.grants]
  split
  case isTrue same =>
    constructor
    · rintro ⟨⟩
      exact .inl rfl
    · rintro (rfl | ⟨-, other⟩)
      · rfl
      · exact absurd same other
  case isFalse other =>
    rw [Table.find?_eq_some]
    constructor
    · rintro ⟨listed, -⟩
      exact .inr ⟨listed, other⟩
    · rintro (rfl | ⟨listed, -⟩)
      · exact absurd rfl other
      · exact ⟨listed, rfl⟩

/-- The row that was found has the terms of the row that is written. -/
theorem Change.terms (change : Change p s op before row) : ∀ old ∈ before, row.terms = old.terms := by
  cases change with
  | issue => simp
  | start state =>
    rintro _ ⟨⟩
    rfl
  | finish state =>
    rintro _ ⟨⟩
    rfl

/-- The row that is written is the only one of its assignment. -/
theorem Change.fresh (change : Change p s op before row)
    (wrote : Wrote p s s' before row grant) (sound : Sound p s) :
    ∀ other ∈ s.grants.rows, row.grantId ≠ other.grantId →
      row.terms.assignmentId ≠ other.terms.assignmentId := by
  intro other listed apart same
  cases found : before with
  | none =>
    subst found
    cases change with
    | issue state alone => exact alone other listed same.symm
  | some old =>
    have terms := change.terms old found
    have member := (Table.find?_eq_some.mp (wrote.found.trans found)).1
    have equal := sound.alone old member other listed (terms ▸ same)
    refine apart ?_
    rw [GrantRow.grantId, terms, equal]
    rfl

/-- A log that was in step stays in step. -/
theorem Change.audited (change : Change p s op before row)
    (wrote : Wrote p s s' before row grant) (sound : Sound p s) :
    Audited (s'.log row.grantId) row := by
  obtain ⟨event, log, revision, left, entered⟩ := wrote.log_self
  rw [log]
  cases change with
  | issue state alone =>
    rw [sound.silent _ wrote.found]
    exact .begin ⟨left, revision⟩ entered revision
  | start state =>
    have member := (Table.find?_eq_some.mp wrote.found).1
    exact (sound.audited _ member).extend left revision entered revision
  | finish state =>
    have member := (Table.find?_eq_some.mp wrote.found).1
    exact (sound.audited _ member).extend left revision entered revision

theorem Sound.of_wrote (sound : Sound p s) (change : Change p s op before row)
    (wrote : Wrote p s s' before row grant) : Sound p s' where
  readable x listed := by
    rcases wrote.mem_rows.mp listed with rfl | ⟨old, -⟩
    · exact ⟨grant, wrote.read⟩
    · exact sound.readable x old
  alone x listed y listed' same := by
    have fresh := change.fresh wrote sound
    rcases wrote.mem_rows.mp listed with rfl | ⟨old, apart⟩ <;>
      rcases wrote.mem_rows.mp listed' with rfl | ⟨old', apart'⟩
    · rfl
    · exact absurd same (fresh y old' apart')
    · exact absurd same.symm (fresh x old apart)
    · exact sound.alone x old y old' same
  audited x listed := by
    rcases wrote.mem_rows.mp listed with rfl | ⟨old, apart⟩
    · exact change.audited wrote sound
    · rw [wrote.log_other apart]
      exact sound.audited x old
  silent grantId absent := by
    rw [wrote.grants] at absent
    split at absent
    case isTrue => cases absent
    case isFalse other =>
      rw [wrote.log_other other]
      exact sound.silent grantId absent

end Wrote

theorem sound_step (s : Store) (op : Op) (sound : Sound p s) : Sound p (step p s op) := by
  refine settle_of_ok sound fun s' committed => ?_
  obtain ⟨⟨grant, _⟩, done, rfl⟩ := map_eq_ok.mp committed
  rcases commit_cases done with ⟨same, -⟩ | ⟨before, row, change, wrote⟩
  · exact same ▸ sound
  · exact sound.of_wrote change wrote

theorem sound_run (ops : List Op) : Sound p (runOps p .initial ops) :=
  invariant_run sound_step sound_initial ops

/-! ## What never changes -/

/-- The moves of a grant. -/
inductive GrantState.Next : GrantState → GrantState → Prop
  | start : Next .issued .redeeming
  | finish : Next .redeeming .redeemed

/-- A grant is kept with its terms, moves forward only, and stays as it is once it
holds an envelope. -/
def Kept (s s' : Store) : Prop :=
  ∀ row ∈ s.grants.rows, ∃ row' ∈ s'.grants.rows, row'.terms = row.terms ∧
    Relation.ReflTransGen GrantState.Next row.state row'.state ∧
    (row.state = .redeemed → row' = row)

theorem Kept.refl (s : Store) : Kept s s := fun row listed =>
  ⟨row, listed, rfl, .refl, fun _ => rfl⟩

theorem Kept.trans {s₁ s₂ s₃ : Store} (first : Kept s₁ s₂) (second : Kept s₂ s₃) :
    Kept s₁ s₃ := by
  intro row listed
  obtain ⟨middle, listed', terms, moves, settled⟩ := first row listed
  obtain ⟨last, listed'', terms', moves', settled'⟩ := second middle listed'
  refine ⟨last, listed'', terms'.trans terms, moves.trans moves', fun redeemed => ?_⟩
  have same := settled redeemed
  rw [settled' (same ▸ redeemed), same]

theorem kept_of_wrote {before : Option GrantRow} {row : GrantRow} {op : Op}
    (change : Change p s op before row) (wrote : Wrote p s s' before row grant) : Kept s s' := by
  intro old listed
  have found := Table.find?_eq_some.mpr ⟨listed, rfl⟩
  by_cases same : row.grantId = old.grantId
  · -- the row that was found is the row that is replaced
    have replaced : before = some old := by rw [← wrote.found, same, found]
    refine ⟨row, wrote.mem_rows.mpr (.inl rfl), change.terms old replaced, ?_⟩
    subst replaced
    cases change with
    | start state =>
      rw [state]
      exact ⟨.single .start, fun redeemed => nomatch redeemed⟩
    | finish state =>
      rw [state]
      exact ⟨.single .finish, fun redeemed => nomatch redeemed⟩
  · exact ⟨old, wrote.mem_rows.mpr (.inr ⟨listed, same⟩), rfl, .refl, fun _ => rfl⟩

theorem kept_step (s : Store) (op : Op) : Kept s (step p s op) := by
  refine settle_of_ok (Kept.refl s) fun s' committed => ?_
  obtain ⟨⟨grant, _⟩, done, rfl⟩ := map_eq_ok.mp committed
  rcases commit_cases done with ⟨same, -⟩ | ⟨before, row, change, wrote⟩
  · exact same ▸ Kept.refl s
  · exact kept_of_wrote change wrote

theorem kept_run (s : Store) (ops : List Op) : Kept s (runOps p s ops) :=
  relation_of_along Kept.refl Kept.trans (fun s op (_ : True) => kept_step s op)
    (along_of_forall fun _ _ _ => trivial)

/-! ## What is read back -/

/-- What a transaction that writes is asked to write. -/
def Op.Writes (p : Platform) (s : Store) (grant : AttestationGrant) : Op → Prop
  | createOrGet candidate => grant.toGrantFields = { candidate.toGrantFields with revision := 1 }
  | beginRedemption grantId _ => ∃ current, s.get p grantId = .ok current ∧
      current.state = .issued ∧ grant.toGrantFields = { current.toGrantFields with
        state := .redeeming
        revision := current.revision + 1 }
  | persistRedemption grantId envelope when => ∃ current, s.get p grantId = .ok current ∧
      current.state = .redeeming ∧ grant.toGrantFields = { current.toGrantFields with
        state := .redeemed
        revision := current.revision + 1
        envelope := some envelope
        redeemedAt := some when }

/-- The grant of a row that is found. -/
theorem get_eq_ok {row : GrantRow} (found : s.grants.find? row.grantId = some row)
    (read : ReadAs p row grant) : s.get p row.grantId = .ok grant := by
  have valid := grant.envelope_checked.1
  rw [read.grantId] at valid
  have stored := (Text.isAscii_of_isDigest (by decide) valid).noSurrogate
  simp only [Store.get, selectGrant, bind_eq_ok, require_eq_ok, demand_eq_ok, storable_eq_ok,
    exists_const, readGrant_eq_ok, found, List.forall_mem_singleton]
  exact ⟨valid, row, ⟨stored, rfl⟩, read⟩

/-- The row behind a grant that `get` returns. -/
theorem exists_row_of_get {grantId : Text} (got : s.get p grantId = .ok grant) :
    ∃ row, s.grants.find? row.grantId = some row ∧ row.grantId = grantId ∧ ReadAs p row grant := by
  simp only [Store.get, bind_eq_ok, require_eq_ok, exists_const, readGrant_eq_ok] at got
  obtain ⟨-, row, selected, read⟩ := got
  have found := selectGrant_eq_ok selected
  obtain rfl := (Table.find?_eq_some.mp found).2
  exact ⟨row, found, rfl, read⟩

theorem ReadAs.unique {row : GrantRow} {other : AttestationGrant} (read : ReadAs p row grant)
    (read' : ReadAs p row other) : grant = other :=
  Except.ok.inj ((readGrant_eq_ok.mpr read).symm.trans (readGrant_eq_ok.mpr read'))

/-- A time column read back is the time that was written. -/
theorem eq_of_readTime {t back : Instant} (read : readTime t.canonicalUtc = .ok back) : back = t :=
  Instant.eq_of_parseUtc (demand_eq_ok.mp read)

/-- Two records of fields agree when their parts do. -/
theorem GrantFields.eq_of_parts {g g' : GrantFields} (terms : g.toGrantTerms = g'.toGrantTerms)
    (state : g.state = g'.state) (revision : g.revision = g'.revision)
    (envelope : g.envelope = g'.envelope) (redeemedAt : g.redeemedAt = g'.redeemedAt) : g = g' := by
  cases g
  cases g'
  cases terms
  cases state
  cases revision
  cases envelope
  cases redeemedAt
  rfl

/-- A column that is not null is read by its reader. -/
theorem readOptional_some {α β : Type} {read : α → Except Failure β} {raw : α} {value : Option β}
    (shown : readOptional read (some raw) = .ok value) :
    ∃ back, read raw = .ok back ∧ value = some back := by
  obtain ⟨back, done, rfl⟩ := map_eq_ok.mp shown
  exact ⟨back, done, rfl⟩

theorem writes_of_issue {candidate : AttestationGrant} (state : candidate.state = .issued)
    (read : ReadAs p (issuedRow candidate) grant) :
    grant.toGrantFields = { candidate.toGrantFields with revision := 1 } := by
  have start := Instant.eq_of_parseUtc read.issuedAt
  have finish := Instant.eq_of_parseUtc read.expiresAt
  have open_ : candidate.state ≠ .redeemed := by
    rw [state]
    decide
  have terms : grant.toGrantTerms = candidate.toGrantTerms := by
    rw [read.terms, start, finish]
    rfl
  have envelope : grant.envelope = candidate.envelope := by
    rw [candidate.envelope_checked.2.1.mpr open_]
    exact (Except.ok.inj read.envelope).symm
  have redeemedAt : grant.redeemedAt = candidate.redeemedAt := by
    rw [candidate.envelope_checked.2.2.mpr open_]
    exact (Except.ok.inj read.redeemedAt).symm
  exact GrantFields.eq_of_parts terms (read.state.trans state.symm) read.revision envelope
    redeemedAt

/-- The terms of a grant are read from the terms of its row alone. -/
theorem ReadAs.terms_eq {row row' : GrantRow} {other : AttestationGrant}
    (read : ReadAs p row grant) (read' : ReadAs p row' other) (same : row'.terms = row.terms) :
    other.toGrantTerms = grant.toGrantTerms := by
  have start : other.issuedAt = grant.issuedAt :=
    Option.some.inj (read'.issuedAt.symm.trans (same ▸ read.issuedAt))
  have finish : other.expiresAt = grant.expiresAt :=
    Option.some.inj (read'.expiresAt.symm.trans (same ▸ read.expiresAt))
  rw [read'.terms, read.terms, same, start, finish]

theorem writes_of_start {row : GrantRow} {current : AttestationGrant}
    (before : ReadAs p row current) (read : ReadAs p row.started grant) :
    grant.toGrantFields = { current.toGrantFields with
      state := .redeeming
      revision := current.revision + 1 } := by
  have terms := before.terms_eq read rfl
  have envelope : grant.envelope = current.envelope :=
    Except.ok.inj (read.envelope.symm.trans before.envelope)
  have redeemedAt : grant.redeemedAt = current.redeemedAt :=
    Except.ok.inj (read.redeemedAt.symm.trans before.redeemedAt)
  have revision : grant.revision = current.revision + 1 := by
    rw [read.revision, before.revision]
    rfl
  exact GrantFields.eq_of_parts terms read.state revision envelope redeemedAt

theorem writes_of_finish {row : GrantRow} {current : AttestationGrant}
    {envelope : EncryptedDataKeyEnvelope} {when : Instant} (before : ReadAs p row current)
    (read : ReadAs p (row.finished p envelope when) grant) :
    grant.toGrantFields = { current.toGrantFields with
      state := .redeemed
      revision := current.revision + 1
      envelope := some envelope
      redeemedAt := some when } := by
  have terms := before.terms_eq read rfl
  obtain ⟨back, shown, stored⟩ := readOptional_some read.envelope
  rw [eq_of_envelopeOfOctets shown] at stored
  obtain ⟨time, shown, dated⟩ := readOptional_some read.redeemedAt
  rw [eq_of_readTime shown] at dated
  have revision : grant.revision = current.revision + 1 := by
    rw [read.revision, before.revision]
    rfl
  exact GrantFields.eq_of_parts terms read.state revision stored dated

/-- A committed transaction returns what is stored from then on, and it stored
what it was asked to, if it stored anything. -/
theorem committed_reads_back (sound : Sound p s) {op : Op}
    (committed : op.commit p s = .ok (grant, s')) :
    s'.get p grant.grantId = .ok grant ∧ (s' = s ∨ op.Writes p s grant) := by
  rcases commit_cases committed with ⟨rfl, row, found, read⟩ | ⟨before, row, change, wrote⟩
  · rw [read.grantId]
    exact ⟨get_eq_ok found read, .inl rfl⟩
  · have stored : s'.grants.find? row.grantId = some row := by rw [wrote.grants, if_pos rfl]
    rw [wrote.read.grantId]
    refine ⟨get_eq_ok stored wrote.read, .inr ?_⟩
    cases change with
    | issue state alone => exact writes_of_issue state wrote.read
    | @start row when state =>
      have found : s.grants.find? row.grantId = some row := wrote.found
      obtain ⟨current, read⟩ := sound.readable row (Table.find?_eq_some.mp found).1
      exact ⟨current, get_eq_ok found read, read.state.trans state,
        writes_of_start read wrote.read⟩
    | @finish row envelope when state =>
      have found : s.grants.find? row.grantId = some row := wrote.found
      obtain ⟨current, read⟩ := sound.readable row (Table.find?_eq_some.mp found).1
      exact ⟨current, get_eq_ok found read, read.state.trans state,
        writes_of_finish read wrote.read⟩

/-- Grants of one id, read at two moments of a run, have the same terms. -/
theorem terms_of_kept (kept : Kept s s') {grantId : Text} {other : AttestationGrant}
    (got : s.get p grantId = .ok grant) (got' : s'.get p grantId = .ok other) :
    other.toGrantTerms = grant.toGrantTerms := by
  obtain ⟨row, found, rfl, read⟩ := exists_row_of_get got
  obtain ⟨row', found', keyed, read'⟩ := exists_row_of_get got'
  obtain ⟨last, listed, terms, -⟩ := kept row (Table.find?_eq_some.mp found).1
  have same : last = row' := by
    refine Table.eq_of_key listed (Table.find?_eq_some.mp found').1 ?_
    rw [keyed]
    exact congrArg GrantTerms.grantId terms
  exact read.terms_eq read' (same ▸ terms)

/-- **Grant store invariant.** After any transactions of any processes, every
assignment has at most one grant; every grant can be read, its log chains to its
state and counts its revision, and its envelope answers the request recomputed
from the row. After any further transactions the grant is still there with its
terms, has only moved forward, and is untouched once it holds an envelope; the
requests built for it at the two moments have one digest. A transaction that
commits stored exactly the grant it was asked to store. -/
theorem grant_store_invariant (p : Platform) (ops later : List Op) :
    let s := runOps p .initial ops
    let s' := runOps p s later
    (∀ row ∈ s.grants.rows, ∀ other ∈ s.grants.rows,
      row.terms.assignmentId = other.terms.assignmentId → row = other) ∧
    (∀ row ∈ s.grants.rows,
      Audited (s.log row.grantId) row ∧
      (∃ grant, s.get p row.grantId = .ok grant ∧
        ∀ envelope ∈ grant.envelope,
          envelope.requestDigest = grant.expectedBrokerRequestDigest p) ∧
      ∃ row' ∈ s'.grants.rows, row'.terms = row.terms ∧
        Relation.ReflTransGen GrantState.Next row.state row'.state ∧
        (row.envelopeJson ≠ none → row' = row)) ∧
    (∀ grantId grant grant', s.get p grantId = .ok grant → s'.get p grantId = .ok grant' →
      ∀ keyReference keyReference' applicationPublicKey applicationPublicKey',
        (grant.requestFields p keyReference applicationPublicKey).digest p =
          (grant'.requestFields p keyReference' applicationPublicKey').digest p) ∧
    ∀ op grant s'', Op.commit p s op = .ok (grant, s'') →
      s''.get p grant.grantId = .ok grant ∧ (s'' = s ∨ op.Writes p s grant) := by
  intro s s'
  have sound : Sound p s := sound_run ops
  have kept : Kept s s' := kept_run s later
  refine ⟨sound.alone, ?_, ?_, fun op grant s'' committed => committed_reads_back sound committed⟩
  · intro row listed
    obtain ⟨grant, read⟩ := sound.readable row listed
    have found := Table.find?_eq_some.mpr ⟨listed, rfl⟩
    obtain ⟨row', listed', terms, moves, settled⟩ := kept row listed
    refine ⟨sound.audited row listed, ⟨grant, get_eq_ok found read, read.requestDigest⟩, row',
      listed', terms, moves, fun stored => settled ?_⟩
    by_contra open_
    exact stored (read.envelope_none.mpr open_)
  · intro grantId grant grant' got got' keyReference keyReference' key key'
    rw [GrantTerms.digest_requestFields, GrantTerms.digest_requestFields,
      terms_of_kept kept got got']

end Cathedral.KeyRelease
