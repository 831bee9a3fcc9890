import CathedralCompute.Provider.Dispatch

/-!
# The wire format of the provider contract

The canonical codec is a bijection between the values it writes and the bytes it reads,
and each record that crosses the wire is read back from its bytes and written again as
the bytes it was read from.

## Main results

* `canonical_codec` — values, transcripts and envelopes round trip in both directions
-/

set_option autoImplicit false

namespace Cathedral.Provider

open Codec Semantics

/-! ## Members that are written alike -/

/-- Two members have one key and are written alike as they stand. -/
def WrittenAlike (member member' : Text × Json) : Prop :=
  member.1 = member'.1 ∧
    (member.2.render canonicalStyle).ascii = (member'.2.render canonicalStyle).ascii

theorem writtenAlike_orderedInsert {member member' : Text × Json}
    {members members' : List (Text × Json)} (alike : WrittenAlike member member')
    (each : List.Forall₂ WrittenAlike members members') :
    List.Forall₂ WrittenAlike (members.orderedInsert (fun a b => a.1 ≤ b.1) member)
      (members'.orderedInsert (fun a b => a.1 ≤ b.1) member') := by
  induction each with
  | nil => exact .cons alike .nil
  | cons head rest ih =>
    simp only [List.orderedInsert_cons, alike.1, head.1]
    split
    · exact .cons alike (.cons head rest)
    · exact .cons head ih

theorem writtenAlike_sortMembers {members members' : List (Text × Json)}
    (each : List.Forall₂ WrittenAlike members members') :
    List.Forall₂ WrittenAlike (Json.sortMembers members) (Json.sortMembers members') := by
  induction each with
  | nil => exact .nil
  | cons head _ ih => exact writtenAlike_orderedInsert head ih

theorem ascii_append (t u : Text) : Text.ascii (t ++ u) = t.ascii ++ u.ascii := List.map_append

theorem ascii_renderMembers {members members' : List (Text × Json)}
    (each : List.Forall₂ WrittenAlike members members') :
    (Json.renderMembers canonicalStyle members).ascii =
      (Json.renderMembers canonicalStyle members').ascii := by
  induction each with
  | nil => rfl
  | @cons member member' _ _ head _ ih =>
    obtain ⟨key, value⟩ := member
    obtain ⟨key', value'⟩ := member'
    obtain ⟨rfl, alike⟩ : key = key' ∧ _ := head
    simp only [Json.renderMembers, ascii_append, alike, ih]

/-- Objects whose sorted members are written alike are written alike. -/
theorem ascii_render_obj {members members' : List (Text × Json)}
    (each : List.Forall₂ WrittenAlike (Json.sortKeysMembers members)
      (Json.sortKeysMembers members')) :
    ((Json.obj members).sortKeys.render canonicalStyle).ascii =
      ((Json.obj members').sortKeys.render canonicalStyle).ascii := by
  have sorted := writtenAlike_sortMembers each
  simp only [Json.sortKeys]
  generalize Json.sortMembers (Json.sortKeysMembers members) = written at sorted
  generalize Json.sortMembers (Json.sortKeysMembers members') = written' at sorted
  cases sorted with
  | nil => rfl
  | @cons member member' rest rest' head others =>
    obtain ⟨key, value⟩ := member
    obtain ⟨key', value'⟩ := member'
    obtain ⟨rfl, alike⟩ : key = key' ∧ _ := head
    simp only [Json.render, ascii_append, alike, ascii_renderMembers others]

/-! ## Envelopes -/

namespace ProviderDispatchEnvelope

theorem make_eq_ok {assignment : AttemptAssignment} {workloadManifest policyDocument : Json}
    {permit : AssignmentPermit} {envelope : ProviderDispatchEnvelope} :
    make assignment workloadManifest policyDocument permit = .ok envelope ↔
      frozenCanonicalMapping workloadManifest "workload_manifest" =
        .ok envelope.workloadManifest.copy ∧
      frozenCanonicalMapping policyDocument "policy_document" = .ok envelope.policyDocument.copy ∧
      assignment = envelope.assignment ∧ permit = envelope.permit := by
  simp only [make, bind_eq_ok, freeze_eq_ok, build_eq_ok]
  constructor
  · rintro ⟨manifest, frozen, policy, frozen', valid, rfl⟩
    exact ⟨frozen, frozen', rfl, rfl⟩
  · rintro ⟨frozen, frozen', rfl, rfl⟩
    exact ⟨_, frozen, _, frozen', envelope.valid, rfl⟩

theorem fromDocument_eq_ok {document : Json} {envelope : ProviderDispatchEnvelope} :
    fromDocument document = .ok envelope ↔ ∃ found, document = .obj found ∧
      hasExactly (envelope.members.map Prod.fst) found = true ∧
      field found "schema" = .str providerDispatchEnvelopeSchema ∧
      envelope.assignment.toDocument.HeldBy (field found "assignment") ∧
      frozenCanonicalMapping (field found "workload_manifest") "workload_manifest" =
        .ok envelope.workloadManifest.copy ∧
      frozenCanonicalMapping (field found "policy_document") "policy_document" =
        .ok envelope.policyDocument.copy ∧
      envelope.permit.toDocument.HeldBy (field found "permit") := by
  simp only [fromDocument, bind_eq_ok, requireKeys_eq_ok, AttemptAssignment.fromDocument_eq_ok,
    AssignmentPermit.fromDocument_eq_ok, make_eq_ok]
  constructor
  · rintro ⟨found, ⟨rfl, keys, schema⟩, _, assignment, manifest, frozen, policy, frozen', _, permit,
      again, again', rfl, rfl⟩
    -- The copies that were read are frozen once more, which changes nothing.
    obtain rfl := Except.ok.inj ((frozenCanonicalMapping_copy _ frozen).symm.trans again)
    obtain rfl := Except.ok.inj ((frozenCanonicalMapping_copy _ frozen').symm.trans again')
    exact ⟨found, rfl, keys, schema, assignment, frozen, frozen', permit⟩
  · rintro ⟨found, rfl, keys, schema, assignment, frozen, frozen', permit⟩
    exact ⟨found, ⟨rfl, keys, schema⟩, _, assignment, _, frozen, _, frozen', _, permit,
      envelope.workloadManifest.refrozen _, envelope.policyDocument.refrozen _, rfl, rfl⟩

/-- The strings of the manifest and of the policy are of Unicode scalar values. -/
structure Scalar (envelope : ProviderDispatchEnvelope) : Prop where
  manifest : envelope.workloadManifest.copy.Plain False
  policy : envelope.policyDocument.copy.Plain False

theorem plain_toDocument {envelope : ProviderDispatchEnvelope} (scalar : envelope.Scalar) :
    envelope.toDocument.Plain False := by
  have name := noSurrogate_ofString
  exact ⟨by simp [ProviderDispatchEnvelopeFields.members], name _, name _,
    name _, envelope.assignment.plain_toDocument, name _, scalar.manifest, name _, scalar.policy,
    name _, envelope.permit.plain_toDocument, trivial⟩

/-- A copy is frozen from its sorted form, too. -/
theorem frozenCanonicalMapping_sortKeys (mapping : FrozenMapping) (label : Text) :
    frozenCanonicalMapping mapping.copy.sortKeys label = .ok mapping.copy := by
  obtain ⟨⟨members, object⟩, -, data, written, read⟩ :=
    frozenCanonicalMapping_eq_ok.mp (mapping.refrozen label)
  refine frozenCanonicalMapping_eq_ok.mpr ⟨?_, ⟨members, object⟩, data,
    canonicalJsonBytes_of_same (Json.sortKeys_sortKeys _).1.symm written, read⟩
  rw [object, Json.sortKeys]
  exact ⟨_, rfl⟩

/-- An envelope is read back from its bytes. -/
theorem fromBytes_canonicalBytes {envelope : ProviderDispatchEnvelope} {data : Bytes}
    (scalar : envelope.Scalar) (written : envelope.canonicalBytes = .ok data) :
    fromBytes data = .ok envelope := by
  have plain := plain_toDocument scalar
  have distinct := Json.distinct_of_plain _ plain
  have held := Json.heldBy_sortKeys _ distinct
  have sorted {key : Text} {value : Json} (listed : (key, value) ∈ envelope.members) :
      field (Json.sortMembers (Json.sortKeysMembers envelope.members)) key = value.sortKeys := by
    have found := (Json.lookup_eq_some distinct.1).mpr listed
    rw [field, Json.lookup_sortMembers distinct.1 found]
    rfl
  rw [ProviderDispatchEnvelopeFields.toDocument, Json.sortKeys] at held
  obtain ⟨found, same, keys, schema, assignment, -, -, permit, -⟩ := held
  obtain rfl := Json.obj.inj same
  have read := parse_canonicalJsonBytes plain written
  rw [ProviderDispatchEnvelopeFields.toDocument, Json.sortKeys] at read
  refine bind_eq_ok.mpr ⟨_, read, fromDocument_eq_ok.mpr
    ⟨_, rfl, keys, schema, assignment, ?_, ?_, permit⟩⟩
  · rw [@sorted "workload_manifest" envelope.workloadManifest.copy
      (by simp [ProviderDispatchEnvelopeFields.members])]
    exact frozenCanonicalMapping_sortKeys _ _
  · rw [@sorted "policy_document" envelope.policyDocument.copy
      (by simp [ProviderDispatchEnvelopeFields.members])]
    exact frozenCanonicalMapping_sortKeys _ _

/-- A frozen copy is written as what it was frozen from. -/
theorem ascii_render_frozen {value copy : Json} {label : Text}
    (frozen : frozenCanonicalMapping value label = .ok copy) :
    (copy.sortKeys.render canonicalStyle).ascii = (value.sortKeys.render canonicalStyle).ascii := by
  obtain ⟨-, -, data, written, read⟩ := frozenCanonicalMapping_eq_ok.mp frozen
  obtain ⟨-, -, -, -, own, -⟩ := canonicalJsonBytes_eq_ok.mp (canonicalJsonBytes_of_parse read)
  obtain ⟨-, -, -, -, rfl, -⟩ := canonicalJsonBytes_eq_ok.mp written
  exact own

/-- An envelope that was read has the bytes it was read from. -/
theorem canonicalBytes_of_fromBytes {envelope : ProviderDispatchEnvelope} {data : Bytes}
    (read : fromBytes data = .ok envelope) : envelope.canonicalBytes = .ok data := by
  obtain ⟨document, parsed, read⟩ := bind_eq_ok.mp read
  have distinct := distinct_of_parse parsed
  obtain ⟨found, rfl, keys, schema, assignment, frozen, frozen', permit⟩ :=
    fromDocument_eq_ok.mp read
  -- The members as they were read, with the manifest and the policy not yet frozen.
  let given : List (Text × Json) := [
    ("schema", .str providerDispatchEnvelopeSchema),
    ("assignment", envelope.assignment.toDocument),
    ("workload_manifest", field found "workload_manifest"),
    ("policy_document", field found "policy_document"),
    ("permit", envelope.permit.toDocument)]
  have same : (Json.obj given).Same (.obj found) := by
    refine Json.sortKeys_obj_of_lookup (by simp [given]) distinct.1
      (fun key => (Json.hasExactly_iff.mp keys key).symm) fun key value value' at_ at' => ?_
    have listed := (Json.lookup_eq_some (by simp [given])).mp at_
    have here : field found key = value' := by
      rw [field, at']
      rfl
    have whole := Json.distinctMembers_iff.mp distinct.2 (key, value')
      ((Json.lookup_eq_some distinct.1).mp at')
    have assigned := Json.same_of_heldBy _ value'
      (Json.distinct_of_plain _ envelope.assignment.plain_toDocument)
    have permitted := Json.same_of_heldBy _ value'
      (Json.distinct_of_plain _ envelope.permit.plain_toDocument)
    simp only [given, List.mem_cons, Prod.mk.injEq, List.not_mem_nil, or_false] at listed
    rcases listed with ⟨rfl, rfl⟩ | ⟨rfl, rfl⟩ | ⟨rfl, rfl⟩ | ⟨rfl, rfl⟩ | ⟨rfl, rfl⟩
    · rw [← here, schema]
      rfl
    · rw [here] at assignment
      exact assigned whole assignment
    · rw [here]
      rfl
    · rw [here]
      rfl
    · rw [here] at permit
      exact permitted whole permit
  have alike : List.Forall₂ WrittenAlike (Json.sortKeysMembers envelope.members)
      (Json.sortKeysMembers given) :=
    .cons ⟨rfl, rfl⟩ <| .cons ⟨rfl, rfl⟩ <| .cons ⟨rfl, ascii_render_frozen frozen⟩ <|
      .cons ⟨rfl, ascii_render_frozen frozen'⟩ <| .cons ⟨rfl, rfl⟩ .nil
  have written : ∃ own, envelope.canonicalBytes = .ok own := by
    have valid := envelope.valid
    simp only [ProviderDispatchEnvelopeFields.check, bind_eq_ok] at valid
    obtain ⟨_, _, _, _, _, _, _, _, _, _, _, _, _, _, _, _, own, written, _⟩ := valid
    exact ⟨own, written⟩
  obtain ⟨own, written⟩ := written
  obtain ⟨-, -, -, -, ownIs, -⟩ := canonicalJsonBytes_eq_ok.mp written
  obtain ⟨-, -, -, -, dataIs, -⟩ := canonicalJsonBytes_eq_ok.mp (canonicalJsonBytes_of_parse parsed)
  rw [written, ← ownIs, ← dataIs, ← same]
  exact congrArg Except.ok (ascii_render_obj alike)

end ProviderDispatchEnvelope

/-! ## Transcripts -/

/-- A record whose document is read exactly where it is held is read back from its bytes,
and has the bytes it is read from. -/
theorem roundTrip_of_heldBy {α : Type} {toDocument : α → Checked Json}
    {fromDocument : Json → Checked α}
    (reads : ∀ document a, fromDocument document = .ok a ↔
      ∃ own, toDocument a = .ok own ∧ own.HeldBy document)
    (plain : ∀ a own, toDocument a = .ok own → own.Plain False) (a : α) (data : Bytes) :
    (toDocument a).bind (canonicalJsonBytes 0) = .ok data ↔
      (parseCanonicalJson data).bind fromDocument = .ok a := by
  constructor
  · intro written
    obtain ⟨own, made, written⟩ := bind_eq_ok.mp written
    have plain := plain a own made
    exact bind_eq_ok.mpr ⟨_, parse_canonicalJsonBytes plain written, (reads _ _).mpr
      ⟨own, made, Json.heldBy_sortKeys own (Json.distinct_of_plain own plain)⟩⟩
  · intro read
    obtain ⟨document, parsed, read⟩ := bind_eq_ok.mp read
    obtain ⟨own, made, held⟩ := (reads _ _).mp read
    have same := Json.same_of_heldBy own document
      (Json.distinct_of_plain own (plain a own made)) (distinct_of_parse parsed) held
    exact bind_eq_ok.mpr ⟨own, made,
      canonicalJsonBytes_of_same same.symm (canonicalJsonBytes_of_parse parsed)⟩

theorem ProviderAttemptTranscript.roundTrip (transcript : ProviderAttemptTranscript)
    (data : Bytes) : transcript.canonicalBytes = .ok data ↔ fromBytes data = .ok transcript := by
  have written {transcript : ProviderAttemptTranscript} {own : Json} :
      transcript.toDocument = .ok own ↔
        (∃ state, transcript.validate = .ok state) ∧ .obj transcript.members = own := by
    simp only [toDocument, bind_eq_ok, pure_eq_ok, exists_and_right]
  refine roundTrip_of_heldBy (fun document transcript => ?_) (fun transcript own made => ?_)
    transcript data
  · simp only [fromDocument_eq_ok, written]
    constructor
    · rintro ⟨valid, held⟩
      exact ⟨_, ⟨valid, rfl⟩, held⟩
    · rintro ⟨_, ⟨valid, same⟩, held⟩
      exact ⟨valid, same ▸ held⟩
  · rw [← (written.mp made).2]
    exact transcript.plain_members

theorem WorkerExecutionTranscript.roundTrip (transcript : WorkerExecutionTranscript)
    (data : Bytes) : transcript.canonicalBytes = .ok data ↔ fromBytes data = .ok transcript :=
  roundTrip_of_heldBy (fun _ _ => fromDocument_eq_ok) (fun _ _ => plain_toDocument) transcript data

/-! ## The codec -/

/-- What a writer and a reader of bytes promise each other, for values whose strings are of
Unicode scalar values. -/
structure RoundTrips {α : Type} (write : α → Checked Bytes) (read : Bytes → Checked α)
    (scalar : α → Prop) : Prop where
  read_write : ∀ a data, scalar a → write a = .ok data → read data = .ok a
  write_read : ∀ data a, read data = .ok a → write a = .ok data

/-- **The canonical codec.** What is parsed is written as the same bytes; what is written is
parsed as the same value, so that distinct values have distinct bytes; and the three
composite records round trip. -/
theorem canonical_codec :
    (∀ data value, parseCanonicalJson data = .ok value → canonicalJsonBytes 0 value = .ok data) ∧
    (∀ value data, value.Plain False → canonicalJsonBytes 0 value = .ok data →
      ∃ read, parseCanonicalJson data = .ok read ∧ read.Same value) ∧
    (∀ value value' data, value.Plain False → value'.Plain False →
      canonicalJsonBytes 0 value = .ok data → canonicalJsonBytes 0 value' = .ok data →
        value.Same value') ∧
    RoundTrips ProviderDispatchEnvelope.canonicalBytes ProviderDispatchEnvelope.fromBytes
      ProviderDispatchEnvelope.Scalar ∧
    RoundTrips ProviderAttemptTranscript.canonicalBytes ProviderAttemptTranscript.fromBytes
      (fun _ => True) ∧
    RoundTrips WorkerExecutionTranscript.canonicalBytes WorkerExecutionTranscript.fromBytes
      fun _ => True := by
  refine ⟨fun _ _ => canonicalJsonBytes_of_parse, fun value data plain written => ?_,
    fun value value' data plain plain' written written' => ?_, ⟨?_, ?_⟩, ⟨?_, ?_⟩, ⟨?_, ?_⟩⟩
  · exact ⟨_, parse_canonicalJsonBytes plain written, (Json.sortKeys_sortKeys value).1⟩
  · have read := parse_canonicalJsonBytes plain written
    exact Except.ok.inj (read.symm.trans (parse_canonicalJsonBytes plain' written'))
  · exact fun _ _ => ProviderDispatchEnvelope.fromBytes_canonicalBytes
  · exact fun _ _ => ProviderDispatchEnvelope.canonicalBytes_of_fromBytes
  · exact fun transcript data _ => (transcript.roundTrip data).mp
  · exact fun data transcript => (transcript.roundTrip data).mpr
  · exact fun transcript data _ => (transcript.roundTrip data).mp
  · exact fun data transcript => (transcript.roundTrip data).mpr

end Cathedral.Provider
