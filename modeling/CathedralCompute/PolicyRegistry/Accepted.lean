import CathedralCompute.PolicyRegistry.History

/-!
# Accepted registries

The row keeps the digest of a registry, and a registry of the same digest is accepted again.
Where no two accepted documents of one release have one digest, such a registry says the same
of every profile and key, so that the history of the row is the history of all accepted
registries. `accept` compares the times of statuses as texts. These stand in the order of the
times where their years have four digits.

## Main definitions

* `Journal` — the row beside the registries that were accepted
* `Snapshot.Leads` — how an accepted registry relates to every later one, by the row's texts
* `Snapshot.Precedes` — and by the times

## Main results

* `sameStates_of_canonicalDocument` — one document says one thing of profiles and keys
* `accepted_lead` — the law of accepted registries, as the texts tell it
* `accepted_precede` — the law with the times, from year 1000 on
-/

set_option autoImplicit false

namespace Cathedral.PolicyRegistry

open Codec Semantics

/-! ## One document -/

section Document

variable {p : Platform}

theorem timestamp_congr {value value' : Json} (same : textOfJson value = textOfJson value')
    (name : Text) : timestamp p value name = timestamp p value' name := by
  rw [timestamp, timestamp, same]

theorem idOf_congr {value value' : Json} (same : textOfJson value = textOfJson value')
    (message : Text) : idOf value message = idOf value' message := by
  rw [idOf, idOf, same]

theorem octetsOf_congr {value value' : Json} (same : textOfJson value = textOfJson value')
    (count : ℕ) (notBase64 wrongLength : Text) :
    octetsOf value count notBase64 wrongLength = octetsOf value' count notBase64 wrongLength := by
  rw [octetsOf, octetsOf, same]

theorem eq_of_chosen {α : Type} {options : List (Text × α)} {message : Text} {value value' : Json}
    {a a' : α} (same : textOfJson value = textOfJson value')
    (read : chosen options message value = .ok a) (read' : chosen options message value' = .ok a') :
    a = a' := by
  cases value with
  | str t =>
    cases value' with
    | str t' =>
      obtain rfl := Option.some.inj same
      exact Except.ok.inj (read.symm.trans read')
    | _ => cases same
  | _ => cases read

/-- Two objects without repeated keys that differ in the order of members only have the same
texts. -/
theorem texts_of_same {raw raw' : Json} (distinct : raw.Distinct) (distinct' : raw'.Distinct)
    (same : raw.sortKeys = raw'.sortKeys) {members members' : List (Text × Json)}
    (object : membersOfJson raw = some members) (object' : membersOfJson raw' = some members') :
    ∀ key, (field members key).sortKeys = (field members' key).sortKeys := by
  have sorted : Json.sortedFields members = Json.sortedFields members' := by
    have left := Json.membersOfJson_sortKeys raw
    rw [object, same, Json.membersOfJson_sortKeys, object'] at left
    exact (Option.some.inj left).symm
  intro key
  rw [← Json.field_sortedFields (Json.nodup_of_distinct distinct object).1,
    ← Json.field_sortedFields (Json.nodup_of_distinct distinct' object').1, sorted]

theorem textOfJson_congr {value value' : Json} (same : value.sortKeys = value'.sortKeys) :
    textOfJson value = textOfJson value' := by
  rw [← Json.textOfJson_sortKeys value, same, Json.textOfJson_sortKeys]

/-- Where the id and the state of a profile come from. -/
theorem fields_of_profileOf {a b : Instant} {raw : Json} {profile : PolicyProfile}
    (read : profileOf p a b raw = .ok profile) : ∃ members, membersOfJson raw = some members ∧
      idOf (field members "id") "profile id is invalid" = .ok profile.profileId ∧
      chosen profileStatuses "profile status is unsupported" (field members "status") =
        .ok profile.status ∧
      timestamp p (field members "status_changed_at") "profile status_changed_at" =
        .ok profile.statusChangedAt := by
  simp only [profileOf, bind_eq_ok, demand_eq_ok, pure_eq_ok, Option.filter_eq_some_iff] at read
  obtain ⟨members, ⟨object, -⟩, profileId, id, kind, -, status, named, changed, changedRead, _, -,
    _, -, _, -, _, -, _, -, _, -, _, -, _, -, _, -, _, -, _, -, _, -, _, -, _, -, rfl⟩ := read
  exact ⟨members, object, id, named, changedRead⟩

/-- A profile read from the same object has the same id and state. -/
theorem profile_of_same {a b c d : Instant} {raw raw' : Json} {profile profile' : PolicyProfile}
    (distinct : raw.Distinct) (distinct' : raw'.Distinct) (same : raw.sortKeys = raw'.sortKeys)
    (read : profileOf p a b raw = .ok profile) (read' : profileOf p c d raw' = .ok profile') :
    (profile.profileId, profile.state) = (profile'.profileId, profile'.state) := by
  obtain ⟨members, object, id, status, changed⟩ := fields_of_profileOf read
  obtain ⟨members', object', id', status', changed'⟩ := fields_of_profileOf read'
  have texts := fun key => textOfJson_congr (texts_of_same distinct distinct' same object object' key)
  have ids : profile.profileId = profile'.profileId :=
    Except.ok.inj (id.symm.trans ((idOf_congr (texts _) _).trans id'))
  have statuses : profile.status = profile'.status := eq_of_chosen (texts _) status status'
  have times : profile.statusChangedAt = profile'.statusChangedAt :=
    Except.ok.inj (changed.symm.trans ((timestamp_congr (texts _) _).trans changed'))
  rw [PolicyProfile.state, PolicyProfile.state, ids, statuses, times]

/-- Where the id and the state of a receipt key come from. -/
theorem fields_of_receiptKeyOf {a b : Instant} {raw : Json} {key : ReceiptVerificationKey}
    (read : receiptKeyOf p a b raw = .ok key) : ∃ members, membersOfJson raw = some members ∧
      idOf (field members "id") "receipt signing key id is invalid" = .ok key.keyId ∧
      octetsOf (field members "public_key_base64") 32
        "receipt signing key is not canonical base64" "receipt signing key must be 32 bytes" =
          .ok key.publicKey ∧
      chosen keyStatuses "receipt signing key status is unsupported" (field members "status") =
        .ok key.status ∧
      timestamp p (field members "status_changed_at") "receipt key status_changed_at" =
        .ok key.statusChangedAt ∧
      timestamp p (field members "valid_from") "receipt key valid_from" = .ok key.validFrom ∧
      timestamp p (field members "valid_until") "receipt key valid_until" = .ok key.validUntil := by
  simp only [receiptKeyOf, bind_eq_ok, demand_eq_ok, pure_eq_ok, Option.filter_eq_some_iff] at read
  obtain ⟨members, ⟨object, -⟩, keyId, id, _, -, publicKey, octets, status, named, changed,
    changedRead, validFrom, fromRead, validUntil, untilRead, _, -, _, -, _, -, _, -, _, -, _, -,
    _, -, rfl⟩ := read
  exact ⟨members, object, id, octets, named, changedRead, fromRead, untilRead⟩

/-- A receipt key read from the same object has the same id and state. -/
theorem receiptKey_of_same {a b c d : Instant} {raw raw' : Json}
    {key key' : ReceiptVerificationKey} (distinct : raw.Distinct) (distinct' : raw'.Distinct)
    (same : raw.sortKeys = raw'.sortKeys) (read : receiptKeyOf p a b raw = .ok key)
    (read' : receiptKeyOf p c d raw' = .ok key') :
    (key.keyId, key.state) = (key'.keyId, key'.state) := by
  obtain ⟨members, object, id, octets, status, changed, from_, until_⟩ :=
    fields_of_receiptKeyOf read
  obtain ⟨members', object', id', octets', status', changed', from', until'⟩ :=
    fields_of_receiptKeyOf read'
  have texts := fun key => textOfJson_congr (texts_of_same distinct distinct' same object object' key)
  have ids : key.keyId = key'.keyId :=
    Except.ok.inj (id.symm.trans ((idOf_congr (texts _) _).trans id'))
  have material : key.publicKey = key'.publicKey :=
    Except.ok.inj (octets.symm.trans ((octetsOf_congr (texts _) _ _ _).trans octets'))
  have statuses : key.status = key'.status := eq_of_chosen (texts _) status status'
  have time {name : Text} {field : Text} {t t' : Instant}
      (read : timestamp p (Codec.field members field) name = .ok t)
      (read' : timestamp p (Codec.field members' field) name = .ok t') : t = t' :=
    Except.ok.inj (read.symm.trans ((timestamp_congr (texts _) _).trans read'))
  rw [ReceiptVerificationKey.state, ReceiptVerificationKey.state, ids, material, statuses,
    time changed changed', time from_ from', time until_ until']

/-- Lists read from the same array have the same entries. -/
theorem map_eq_of_same {α β : Type} {f g : Json → Checked α} {state : α → β}
    {items items' : List Json} {values values' : List α}
    (same : items.map Json.sortKeys = items'.map Json.sortKeys)
    (agree : ∀ raw ∈ items, ∀ raw' ∈ items', raw.sortKeys = raw'.sortKeys → ∀ value value',
      f raw = .ok value → g raw' = .ok value' → state value = state value')
    (read : items.mapM f = .ok values) (read' : items'.mapM g = .ok values') :
    values.map state = values'.map state := by
  induction items generalizing items' values values' with
  | nil =>
    cases items' with
    | nil => cases read; cases read'; rfl
    | cons raw' items' => cases same
  | cons raw items ih =>
    cases items' with
    | nil => cases same
    | cons raw' items' =>
      simp only [List.mapM_cons, bind_eq_ok, pure_eq_ok] at read read'
      obtain ⟨value, first, rest, others, rfl⟩ := read
      obtain ⟨value', first', rest', others', rfl⟩ := read'
      obtain ⟨head, tail⟩ := List.cons.inj same
      rw [List.map_cons, List.map_cons, agree raw List.mem_cons_self raw' List.mem_cons_self head
        value value' first first', ih tail (fun r member r' member' =>
          agree r (List.mem_cons_of_mem _ member) r' (List.mem_cons_of_mem _ member')) others others']

/-- What the strict reader returns repeats no key, and its texts can be written. -/
theorem legible_of_parseRegistry {data : Bytes} {members : List (Text × Json)}
    (parsed : parseRegistry data = .ok members) :
    (Json.obj members).Legible ∧ (Json.obj members).Distinct := by
  simp only [parseRegistry, bind_eq_ok, demand_eq_ok, Option.bind_eq_some_iff] at parsed
  obtain ⟨_, -, document, ⟨text, decoded, read⟩, object⟩ := parsed
  have strict : registryHooks.Strict := strict_strictPairs _ _ _
  have whole : document = .obj members := by
    cases document <;> cases object
    rfl
  rw [← whole]
  exact ⟨Json.legible_of_loads strict (fun _ => rfl) (fun _ => rfl)
    (noSurrogate_of_utf8Decode decoded) read, Json.distinct_of_loads strict read⟩

/-- What a verified registry reads from its document. -/
theorem fields_of_verified {ed : Ed25519 p} (registry : Verified p ed) :
    ∃ members, (Json.obj members).Legible ∧ (Json.obj members).Distinct ∧
      canonical p (.obj members) = .ok registry.snapshot.canonicalDocument ∧
      boundedInteger (field members "release") 1 maxSqliteInteger
        "registry release must be a bounded positive integer" = .ok registry.snapshot.release ∧
      timestamp p (field members "generated_at") "registry generated_at" =
        .ok registry.snapshot.generatedAt ∧
      (∃ items, itemsOfJson (field members "profiles") = some items ∧
        items.mapM (profileOf p registry.snapshot.validFrom registry.snapshot.validUntil) =
          .ok registry.snapshot.profiles) ∧
      ∃ items, itemsOfJson (field members "receipt_signing_keys") = some items ∧
        items.mapM (receiptKeyOf p registry.snapshot.validFrom registry.snapshot.validUntil) =
          .ok registry.snapshot.receiptSigningKeys := by
  obtain ⟨trusted, occasion, data, snapshot, verified⟩ := registry
  obtain ⟨members, parsed, checked⟩ := bind_eq_ok.mp verified
  obtain ⟨legible, distinct⟩ := legible_of_parseRegistry parsed
  simp only [verifyMembers, bind_eq_ok, require_eq_ok, pure_eq_ok] at checked
  obtain ⟨_, -, _, -, release, number, keyId, -, generated, generatedRead, validFrom, fromRead,
    validUntil, untilRead, _, window, profiles, profilesRead, keys, keysRead, document, written,
    metadata, -, rfl⟩ := checked
  simp only [profilesOf, receiptKeysOf, bind_eq_ok, demand_eq_ok, require_eq_ok, pure_eq_ok,
    Option.filter_eq_some_iff] at profilesRead keysRead
  obtain ⟨items, ⟨list, -⟩, _, each, _, -, _, -, rfl⟩ := profilesRead
  obtain ⟨keyItems, ⟨keyList, -⟩, _, eachKey, _, -, _, -, _, -, rfl⟩ := keysRead
  exact ⟨members, legible, distinct, written, number, generatedRead, ⟨items, list, each⟩,
    ⟨keyItems, keyList, eachKey⟩⟩

/-- What an accepted registry leaves in the row, apart from its digest. -/
structure Snapshot.SameStates (snapshot snapshot' : Snapshot) : Prop where
  release : snapshot.release = snapshot'.release
  generatedAt : snapshot.generatedAt = snapshot'.generatedAt
  profiles : snapshot.profileStates = snapshot'.profileStates
  keys : snapshot.keyStates = snapshot'.keyStates

/-- **One document.** Verified registries with one canonical document say the same of their
release, their publication, and every profile and key. -/
theorem sameStates_of_canonicalDocument {ed : Ed25519 p} {registry registry' : Verified p ed}
    (same : registry.snapshot.canonicalDocument = registry'.snapshot.canonicalDocument) :
    registry.snapshot.SameStates registry'.snapshot := by
  obtain ⟨members, legible, distinct, written, release, generated, ⟨items, list, each⟩,
    ⟨keyItems, keyList, eachKey⟩⟩ := fields_of_verified registry
  obtain ⟨members', legible', distinct', written', release', generated', ⟨items', list', each'⟩,
    ⟨keyItems', keyList', eachKey'⟩⟩ := fields_of_verified registry'
  rw [same] at written
  have sorted := sortKeys_of_canonicalJson ⟨legible, distinct⟩ ⟨legible', distinct'⟩
    (demand_eq_ok.mp written) (demand_eq_ok.mp written')
  have fields := texts_of_same distinct distinct' sorted rfl rfl
  have integer : intOfJson (field members "release") = intOfJson (field members' "release") := by
    rw [← Json.intOfJson_sortKeys, fields, Json.intOfJson_sortKeys]
  have arrays {key : Text} {items items' : List Json}
      (list : itemsOfJson (field members key) = some items)
      (list' : itemsOfJson (field members' key) = some items') :
      items.map Json.sortKeys = items'.map Json.sortKeys := by
    have left := Json.itemsOfJson_sortKeys (field members key)
    rw [fields, Json.itemsOfJson_sortKeys, list, list'] at left
    exact (Option.some.inj left).symm
  have parts {members : List (Text × Json)} {key : Text} {items : List Json}
      (distinct : (Json.obj members).Distinct)
      (list : itemsOfJson (field members key) = some items) : ∀ item ∈ items, item.Distinct :=
    Json.distinct_of_mem_items ((Json.nodup_of_distinct distinct rfl).2 key) list
  exact {
    release := by
      rw [boundedInteger, integer] at release
      exact Except.ok.inj (release.symm.trans release')
    generatedAt := Except.ok.inj (generated.symm.trans
      ((timestamp_congr (textOfJson_congr (fields _)) _).trans generated'))
    profiles := map_eq_of_same (arrays list list') (fun raw member raw' member' same _ _ =>
      profile_of_same (parts distinct list raw member) (parts distinct' list' raw' member') same)
      each each'
    keys := map_eq_of_same (arrays keyList keyList') (fun raw member raw' member' same _ _ =>
      receiptKey_of_same (parts distinct keyList raw member) (parts distinct' keyList' raw' member')
        same) eachKey eachKey' }

end Document

/-! ## The law of accepted registries -/

/-- How an accepted registry relates to every later one, as the texts of the row tell it. -/
structure Snapshot.Leads (earlier later : Snapshot) : Prop where
  release : earlier.release ≤ later.release
  digest : earlier.release = later.release → later.digest = earlier.digest
  published : earlier.generatedAt ≤ later.generatedAt
  profiles : ∀ profile ∈ earlier.profiles, ∃ profile' ∈ later.profiles,
    profile'.profileId = profile.profileId ∧ profile.state.Ages profile'.state
  keys : ∀ key ∈ earlier.receiptSigningKeys, ∃ key' ∈ later.receiptSigningKeys,
    key'.keyId = key.keyId ∧ key.state.Ages key'.state

theorem Snapshot.Leads.trans {a b c : Snapshot} (first : a.Leads b) (second : b.Leads c) :
    a.Leads c where
  release := first.release.trans second.release
  digest equal := by
    have between : a.release = b.release :=
      le_antisymm first.release (second.release.trans equal.ge)
    exact (second.digest (between.symm.trans equal)).trans (first.digest between)
  published := first.published.trans second.published
  profiles profile member := by
    obtain ⟨profile', member', same, ages⟩ := first.profiles profile member
    obtain ⟨profile'', member'', same', ages'⟩ := second.profiles profile' member'
    exact ⟨profile'', member'', same'.trans same, ages.trans ages'⟩
  keys key member := by
    obtain ⟨key', member', same, ages⟩ := first.keys key member
    obtain ⟨key'', member'', same', ages'⟩ := second.keys key' member'
    exact ⟨key'', member'', same'.trans same, ages.trans ages'⟩

theorem Snapshot.SameStates.symm {snapshot snapshot' : Snapshot}
    (same : snapshot.SameStates snapshot') : snapshot'.SameStates snapshot :=
  ⟨same.release.symm, same.generatedAt.symm, same.profiles.symm, same.keys.symm⟩

/-- A registry that says the same is as good as a later one. -/
theorem Snapshot.SameStates.leads {snapshot snapshot' : Snapshot}
    (same : snapshot.SameStates snapshot') (digest : snapshot'.digest = snapshot.digest) :
    snapshot.Leads snapshot' where
  release := same.release.le
  digest _ := digest
  published := same.generatedAt.le
  profiles profile member := by
    have entry : (profile.profileId, profile.state) ∈ snapshot'.profileStates :=
      same.profiles ▸ List.mem_map_of_mem member
    obtain ⟨profile', listed, equal⟩ := List.mem_map.mp entry
    obtain ⟨ids, states⟩ := Prod.mk.inj equal
    exact ⟨profile', listed, ids, states ▸ .refl _⟩
  keys key member := by
    have entry : (key.keyId, key.state) ∈ snapshot'.keyStates :=
      same.keys ▸ List.mem_map_of_mem member
    obtain ⟨key', listed, equal⟩ := List.mem_map.mp entry
    obtain ⟨ids, states⟩ := Prod.mk.inj equal
    exact ⟨key', listed, ids, states ▸ .refl _⟩

/-- A registry that may follow the book of another comes after it. -/
theorem leads_of_admits {snapshot snapshot' : Snapshot} {book : Book} {sound' : snapshot'.Sound}
    (same : book.Of snapshot) (admits : book.Admits snapshot' sound') :
    snapshot.Leads snapshot' where
  release := same.release ▸ admits.release.le
  digest equal := absurd (same.release.trans equal) admits.release.ne
  published := admits.published _ same.publishedAt
  profiles profile member := by
    have entry : (profile.profileId, profile.state) ∈ book.profiles.rows :=
      same.profiles.symm.subset (List.mem_map_of_mem member)
    obtain ⟨state', member', keyed, shifts⟩ := admits.profiles.kept _ entry
    obtain ⟨profile', listed, rfl⟩ := List.mem_map.mp member'
    exact ⟨profile', listed, keyed, .of_shift shifts.status shifts.same shifts.changed⟩
  keys key member := by
    have entry : (key.keyId, key.state) ∈ book.keys.rows :=
      same.keys.symm.subset (List.mem_map_of_mem member)
    obtain ⟨state', member', keyed, shifts⟩ := admits.keys.kept _ entry
    obtain ⟨key', listed, rfl⟩ := List.mem_map.mp member'
    exact ⟨key', listed, keyed, .of_shift shifts.status.status shifts.status.same
      shifts.status.changed, shifts.material, shifts.window⟩

/-! ## One acceptance -/

section Acceptance

variable {p : Platform} {newest snapshot : Snapshot} {stored stored' : StateRow}
  {state : RegistryState} {clock clock' : Instant}

/-- Over the row of the newest registry, a registry is accepted that has its release and digest,
which leaves the row, or one that comes after it, which writes its own. -/
theorem leads_of_accept (sound : newest.Sound) (sound' : snapshot.Sound)
    (written : newest.row p clock = .ok stored)
    (accepted : state.accept p snapshot clock' (some stored) = .ok stored') :
    (newest.release = snapshot.release ∧ newest.digest = snapshot.digest ∧ stored' = stored) ∨
      (newest.Leads snapshot ∧ snapshot.row p clock' = .ok stored') := by
  obtain ⟨release, digest, published, -⟩ := parts_of_row sound written
  simp only [RegistryState.accept, acceptInto, bind_eq_ok] at accepted
  obtain ⟨_, -, profiles, decoded, keys, decodedKeys, accepted⟩ := accepted
  by_cases same : snapshot.release = stored.release
  · have filled : stored.generatedAt ≠ [] := published ▸ strftimeSecond_ne_nil sound.seconds.1
    rw [if_pos same, StateRow.replay, if_neg filled] at accepted
    simp only [bind_eq_ok, require_eq_ok, pure_eq_ok] at accepted
    obtain ⟨_, digests, rfl⟩ := accepted
    exact .inl ⟨(same.trans release).symm, (digests.trans digest).symm, rfl⟩
  · rw [if_neg same, bind_eq_ok] at accepted
    obtain ⟨_, checked, made⟩ := accepted
    -- the checks read the publication time, so its year has four digits
    have modern : newest.generatedAt.IsModern := by
      have dated := checked
      simp only [checkSuccessor, bind_eq_ok, require_eq_ok, checkPublication, checkIf_eq_ok,
        decide_eq_true_eq] at dated
      obtain ⟨_, -, _, dated, -⟩ := dated
      obtain ⟨prior, read, -⟩ := dated (published ▸ strftimeSecond_ne_nil sound.seconds.1)
      rw [published, timestamp_strftimeSecond sound.seconds.1] at read
      exact read.1
    obtain ⟨book, holds, own, rfl, rfl⟩ := holds_of_decoded sound written decoded decodedKeys modern
    exact .inr ⟨leads_of_admits own ((checkSuccessor_eq_ok holds sound' same).mp checked), made⟩

end Acceptance

/-! ## The journal -/

section Journal

variable {p : Platform} {ed : Ed25519 p}

/-- The row, and the registries that were accepted, oldest first. -/
structure Journal (p : Platform) (ed : Ed25519 p) where
  row : Option StateRow
  accepted : List (Verified p ed)

/-- An empty database. -/
def Journal.fresh : Journal p ed := ⟨none, []⟩

def Journal.step (journal : Journal p ed) (call : Acceptance p ed) : Journal p ed :=
  settle journal ((call.state.accept p call.registry.snapshot call.clock journal.row).map
    fun row => ⟨some row, journal.accepted ++ [call.registry]⟩)

/-- No two registries of one release have one digest and different documents. -/
def CollisionFree (registries : List (Verified p ed)) : Prop :=
  ∀ a ∈ registries, ∀ b ∈ registries, a.snapshot.release = b.snapshot.release →
    a.snapshot.digest = b.snapshot.digest →
      a.snapshot.canonicalDocument = b.snapshot.canonicalDocument

/-- The newest registry wrote the row, and all accepted ones lead to it. -/
structure Journal.Lawful (journal : Journal p ed) (stored : StateRow) : Prop where
  newest : ∃ registry ∈ journal.accepted,
    (∃ clock, registry.snapshot.row p clock = .ok stored) ∧
      ∀ other ∈ journal.accepted, other.snapshot.Leads registry.snapshot
  ordered : journal.accepted.Pairwise fun earlier later => earlier.snapshot.Leads later.snapshot

/-- What a journal is between calls. -/
def Journal.Kept (registries : List (Verified p ed)) (journal : Journal p ed) : Prop :=
  (∀ registry ∈ journal.accepted, registry ∈ registries) ∧
    ((journal.row = none ∧ journal.accepted = []) ∨
      ∃ stored, journal.row = some stored ∧ journal.Lawful stored)

/-- One more accepted registry, to which the newest one leads: it, or what was the newest, is the
newest now. -/
theorem Journal.Lawful.push {journal : Journal p ed} {stored stored' : StateRow}
    {newest registry newest' : Verified p ed} {clock : Instant}
    (lawful : journal.Lawful stored) (led : ∀ other ∈ journal.accepted,
      other.snapshot.Leads newest.snapshot) (leads : newest.snapshot.Leads registry.snapshot)
    (listed : newest' ∈ journal.accepted ++ [registry])
    (written : newest'.snapshot.row p clock = .ok stored')
    (leads' : newest.snapshot.Leads newest'.snapshot)
    (leads'' : registry.snapshot.Leads newest'.snapshot) :
    Journal.Lawful ⟨some stored', journal.accepted ++ [registry]⟩ stored' where
  newest := by
    refine ⟨newest', listed, ⟨clock, written⟩, fun other member => ?_⟩
    rcases List.mem_append.mp member with old | new
    · exact (led other old).trans leads'
    · exact List.mem_singleton.mp new ▸ leads''
  ordered := by
    refine List.pairwise_append.mpr ⟨lawful.ordered, List.pairwise_singleton .., ?_⟩
    intro other old later new
    obtain rfl := List.mem_singleton.mp new
    exact (led other old).trans leads

theorem Snapshot.Leads.refl (snapshot : Snapshot) : snapshot.Leads snapshot :=
  Snapshot.SameStates.leads ⟨rfl, rfl, rfl, rfl⟩ rfl

theorem Journal.Kept.step {registries : List (Verified p ed)}
    (collisionFree : CollisionFree registries) {journal : Journal p ed}
    (kept : journal.Kept registries) {call : Acceptance p ed}
    (listed : call.registry ∈ registries) : (journal.step call).Kept registries := by
  refine settle_of_ok kept fun journal' committed => ?_
  obtain ⟨stored', accepted, rfl⟩ := map_eq_ok.mp committed
  obtain ⟨known, state⟩ := kept
  refine ⟨fun registry member => ?_, .inr ⟨stored', rfl, ?_⟩⟩
  · rcases List.mem_append.mp member with old | new
    · exact known registry old
    · exact List.mem_singleton.mp new ▸ listed
  · rcases state with ⟨row, empty⟩ | ⟨stored, row, lawful⟩
    · rw [row] at accepted
      simp only [RegistryState.accept, acceptInto, bind_eq_ok] at accepted
      obtain ⟨_, -, _, -, written⟩ := accepted
      rw [empty, List.nil_append]
      refine ⟨⟨call.registry, List.mem_singleton_self _, ⟨_, written⟩, fun other member => ?_⟩,
        List.pairwise_singleton ..⟩
      exact List.mem_singleton.mp member ▸ .refl _
    · rw [row] at accepted
      obtain ⟨newest, member, ⟨clock, written⟩, led⟩ := lawful.newest
      rcases leads_of_accept newest.sound call.registry.sound written accepted with
        ⟨release, digest, rfl⟩ | ⟨leads, written'⟩
      · -- a replay says what the newest registry says
        have states := sameStates_of_canonicalDocument
          (collisionFree newest (known newest member) call.registry listed release digest)
        exact lawful.push led (states.leads digest.symm) (List.mem_append_left _ member) written
          (.refl _) (states.symm.leads digest)
      · exact lawful.push led leads (List.mem_append_right _ (List.mem_singleton_self _)) written'
          leads (.refl _)

theorem kept_run (calls : List (Acceptance p ed))
    (collisionFree : CollisionFree (calls.map Acceptance.registry)) :
    (run Journal.step Journal.fresh calls).Kept (calls.map Acceptance.registry) :=
  @invariant_along _ _ Journal.step (fun _ call => call.registry ∈ calls.map Acceptance.registry)
    (Journal.Kept (calls.map Acceptance.registry))
    (fun _ _ kept listed => kept.step collisionFree listed) _ _
    ⟨List.forall_mem_nil _, .inl ⟨rfl, rfl⟩⟩
    (along_of_forall fun _ member _ => List.mem_map_of_mem member)

/-- **The law of accepted registries, by the texts.** From an empty database, in every run of
calls whose documents do not collide, each accepted registry leads to all that are accepted
later. -/
theorem accepted_lead (calls : List (Acceptance p ed))
    (collisionFree : CollisionFree (calls.map Acceptance.registry)) :
    (run Journal.step Journal.fresh calls).accepted.Pairwise
      fun earlier later => earlier.snapshot.Leads later.snapshot := by
  rcases (kept_run calls collisionFree).2 with ⟨-, empty⟩ | ⟨stored, -, lawful⟩
  · rw [empty]
    exact .nil
  · exact lawful.ordered

end Journal

/-! ## Times -/

/-- A profile in a later registry. -/
def PolicyProfile.Ages (profile profile' : PolicyProfile) : Prop :=
  Semantics.Ages ProfileStatus.next (profile.status, profile.statusChangedAt)
    (profile'.status, profile'.statusChangedAt)

/-- A receipt key in a later registry. -/
structure ReceiptVerificationKey.Ages (key key' : ReceiptVerificationKey) : Prop where
  status : Semantics.Ages KeyStatus.next (key.status, key.statusChangedAt)
    (key'.status, key'.statusChangedAt)
  material : key'.publicKey = key.publicKey
  window : key'.validFrom = key.validFrom ∧ key'.validUntil = key.validUntil

/-- How an accepted registry relates to every later one. -/
structure Snapshot.Precedes (earlier later : Snapshot) : Prop where
  release : earlier.release ≤ later.release
  digest : earlier.release = later.release → later.digest = earlier.digest
  published : earlier.generatedAt ≤ later.generatedAt
  profiles : ∀ profile ∈ earlier.profiles, ∃ profile' ∈ later.profiles,
    profile'.profileId = profile.profileId ∧ profile.Ages profile'
  keys : ∀ key ∈ earlier.receiptSigningKeys, ∃ key' ∈ later.receiptSigningKeys,
    key'.keyId = key.keyId ∧ key.Ages key'

/-- Whole seconds are told apart by their texts. -/
theorem eq_of_strftimeSecond {time time' : Instant} (second : IsSecond time)
    (second' : IsSecond time') (same : time.strftimeSecond = time'.strftimeSecond) :
    time = time' := by
  have floors := Instant.strftimeSecond_inj second.1 second'.1 same
  rwa [second.2, second'.2] at floors

/-- Texts of whole seconds from year 1000 on stand in the order of the seconds. -/
theorem lt_of_strftimeSecond {time time' : Instant} (second : IsSecond time)
    (second' : IsSecond time') (modern : time.IsModern) (modern' : time'.IsModern)
    (less : time.strftimeSecond < time'.strftimeSecond) : time < time' := by
  rw [Instant.strftimeSecond_of_modern second.1 modern,
    Instant.strftimeSecond_of_modern second'.1 modern'] at less
  refine lt_of_not_ge fun reverse => ?_
  rcases Nat.eq_or_lt_of_le reverse with same | later
  · exact absurd less (same ▸ lt_irrefl _)
  · rw [← second.2, ← second'.2] at later
    exact absurd (less.trans (Instant.canonicalSecond_lt second.1 later)) (lt_irrefl _)

theorem ages_of_texts {σ : Type} {next : σ → List σ} {status status' : σ} {time time' : Instant}
    (second : IsSecond time) (second' : IsSecond time') (modern : time.IsModern)
    (modern' : time'.IsModern)
    (ages : Semantics.Ages next (status, time.strftimeSecond) (status', time'.strftimeSecond)) :
    Semantics.Ages next (status, time) (status', time') := by
  rcases ages with same | ⟨stages, less⟩
  · obtain ⟨rfl, texts⟩ := Prod.mk.inj same
    exact .inl (Prod.ext rfl (eq_of_strftimeSecond second second' texts))
  · exact .inr ⟨stages, lt_of_strftimeSecond second second' modern modern' less⟩

/-- The material and the window of a key, which the texts tell in every year. -/
theorem anchors_of_state {a b a' b' : Instant} {key key' : ReceiptVerificationKey}
    (sound : key.Sound a b) (sound' : key'.Sound a' b') (ages : key.state.Ages key'.state) :
    key'.publicKey = key.publicKey ∧ key'.validFrom = key.validFrom ∧
      key'.validUntil = key.validUntil := by
  obtain ⟨-, from_, until_⟩ := sound.seconds
  obtain ⟨-, from', until'⟩ := sound'.seconds
  refine ⟨?_, eq_of_strftimeSecond from' from_ ages.window.1,
    eq_of_strftimeSecond until' until_ ages.window.2⟩
  have decoded := base64Decode_base64 key'.publicKey
  rw [show base64 key'.publicKey = base64 key.publicKey from ages.material,
    base64Decode_base64] at decoded
  exact (Option.some.inj decoded).symm

/-- What the texts say of two registries holds of their times from year 1000 on. -/
theorem Snapshot.Leads.precedes {earlier later : Snapshot} (leads : earlier.Leads later)
    (sound : earlier.Sound) (sound' : later.Sound) (modern : earlier.Modern)
    (modern' : later.Modern) : earlier.Precedes later where
  release := leads.release
  digest := leads.digest
  published := leads.published
  profiles profile member := by
    obtain ⟨profile', member', same, ages⟩ := leads.profiles profile member
    exact ⟨profile', member', same, ages_of_texts (sound.profiles profile member).seconds.1
      (sound'.profiles profile' member').seconds.1 (modern.profiles profile member)
      (modern'.profiles profile' member') ages⟩
  keys key member := by
    obtain ⟨key', member', same, ages⟩ := leads.keys key member
    have own := sound.keys key member
    have own' := sound'.keys key' member'
    obtain ⟨material, window⟩ := anchors_of_state own own' ages
    exact ⟨key', member', same, ages_of_texts own.seconds.1 own'.seconds.1
      (modern.keys key member).1 (modern'.keys key' member').1 ages.status, material, window⟩

section Journal

variable {p : Platform} {ed : Ed25519 p}

/-- **The law of accepted registries.** From an empty database, in every run of calls with
registries from year 1000 on whose documents do not collide, each accepted registry precedes
all that are accepted later: no release or publication time goes back, one release has one
digest, no profile or key is lost, statuses only move on, at later times, and the material and
window of a key stay. -/
theorem accepted_precede (calls : List (Acceptance p ed))
    (collisionFree : CollisionFree (calls.map Acceptance.registry))
    (modern : ∀ call ∈ calls, call.registry.snapshot.Modern) :
    (run Journal.step Journal.fresh calls).accepted.Pairwise
      fun earlier later => earlier.snapshot.Precedes later.snapshot := by
  have known : ∀ registry ∈ (run Journal.step Journal.fresh calls).accepted,
      registry.snapshot.Modern := by
    intro registry member
    obtain ⟨call, listed, rfl⟩ :=
      List.mem_map.mp ((kept_run calls collisionFree).1 registry member)
    exact modern call listed
  refine (accepted_lead calls collisionFree).imp_of_mem fun {earlier later} member member' leads => ?_
  exact leads.precedes earlier.sound later.sound (known earlier member) (known later member')

end Journal

namespace SampleRegistry.Releases

variable (releases : Releases)

/-- Registries of different releases do not collide. -/
theorem collisionFree :
    CollisionFree ((releases.earlier ++ releases.later).map Acceptance.registry) := by
  obtain ⟨first, second⟩ := releases.releases
  intro a member b member' release digest
  simp only [earlier, later, List.cons_append, List.nil_append, List.map_cons, List.map_nil,
    List.mem_cons, List.not_mem_nil, or_false] at member member'
  rcases member with rfl | rfl <;> rcases member' with rfl | rfl
  · rfl
  · rw [first, second] at release
    cases release
  · rw [first, second] at release
    cases release
  · rfl

/-- Both releases are accepted. -/
theorem journal : (run Journal.step Journal.fresh (releases.earlier ++ releases.later)).accepted =
    [releases.first, releases.next] := by
  have one : Journal.step Journal.fresh ⟨guard, releases.first, noon⟩ =
      ⟨some releases.row, [releases.first]⟩ := by
    rw [Journal.step, Journal.fresh, releases.accepted_first]
    rfl
  have two : Journal.step ⟨some releases.row, [releases.first]⟩ ⟨guard, releases.next, nextNoon⟩ =
      ⟨some releases.row', [releases.first, releases.next]⟩ := by
    rw [Journal.step, releases.accepted]
    rfl
  rw [run_append, earlier, later, run_cons, run_nil, run_cons, run_nil, one, two]

end SampleRegistry.Releases

open SampleRegistry in
/-- The first release precedes the second. -/
theorem accepted_precede_sample : ∃ releases : Releases,
    (run Journal.step Journal.fresh (releases.earlier ++ releases.later)).accepted =
      [releases.first, releases.next] ∧
        releases.first.snapshot.Precedes releases.next.snapshot := by
  obtain ⟨releases⟩ := nonempty_releases
  have law := accepted_precede _ releases.collisionFree releases.modern_calls
  rw [releases.journal] at law
  exact ⟨releases, releases.journal,
    List.rel_of_pairwise_cons law (List.mem_singleton_self _)⟩

end Cathedral.PolicyRegistry
