import CathedralCompute.Codec.JsonSorted
import CathedralCompute.PolicyRegistry.Policy

/-!
# Signing a registry

The signer signs the canonical form of a document and adds the signature to it. The verifier
receives the canonical form of the signed document, whose members stand in another order, takes
the signature out again, and finds the very octets that were signed.

## Main results

* `canonicalSignedBytes_sortedMembers` — the verifier finds what was signed
* `checkSignature_of_signRegistry` — what was signed and published is verified
-/

set_option autoImplicit false

namespace Cathedral.PolicyRegistry

open Codec Semantics

section Signing

variable {p : Platform} {members signed : List (Text × Json)} {seed : Bytes}

/-- The members of the signature object of a signature. -/
def signatureMembers (octets : Bytes) : List (Text × Json) :=
  [("algorithm", .str "ed25519"), ("value_base64", .str (base64 octets))]

/-- What a signed registry consists of. -/
theorem signed_of_signRegistry (signs : signRegistry p members seed = .ok signed) :
    Text.ofString "signature" ∉ members.map Prod.fst ∧ seed.length = 32 ∧
      ∃ octets, canonical p (.obj members) = .ok octets ∧
        signed = members ++
          [(Text.ofString "signature", .obj (signatureMembers (p.sign seed octets)))] := by
  simp only [signRegistry, bind_eq_ok, require_eq_ok, pure_eq_ok] at signs
  obtain ⟨_, absent, _, length, octets, written, rfl⟩ := signs
  exact ⟨absent, length, octets, written, rfl⟩

theorem sortKeysMembers_sortKeysMembers (members : List (Text × Json)) :
    Json.sortKeysMembers (Json.sortKeysMembers members) = Json.sortKeysMembers members := by
  rw [Json.sortKeysMembers_eq_map (Json.sortKeysMembers members)]
  refine (List.map_congr_left fun member inside => ?_).trans (List.map_id _)
  exact Prod.ext rfl (Json.sortKeys_of_mem_sortKeysMembers members member inside).1

/-- Without its signature, the sorted document has the members of the unsigned one. -/
theorem unsigned_sortedMembers_perm {signature : Json}
    (absent : Text.ofString "signature" ∉ members.map Prod.fst) :
    (unsigned (sortedMembers (members ++ [(Text.ofString "signature", signature)]))).Perm
      (Json.sortKeysMembers members) := by
  have kept : ∀ member ∈ Json.sortKeysMembers members,
      decide (member.1 ≠ Text.ofString "signature") = true := by
    intro member inside
    refine decide_eq_true fun same => absent ?_
    rw [← same, ← Json.keys_sortKeysMembers]
    exact List.mem_map_of_mem inside
  refine ((Json.sortMembers_perm _).filter _).trans ?_
  rw [Json.sortKeysMembers_eq_map, List.map_append, List.filter_append,
    ← Json.sortKeysMembers_eq_map, List.filter_eq_self.mpr kept, List.map_singleton,
    List.filter_singleton]
  simp

/-- **What was signed.** The verifier computes the octets that the signer signed. -/
theorem canonicalSignedBytes_sortedMembers {signature : Json} {octets : Bytes}
    (distinct : (members.map Prod.fst).Nodup)
    (absent : Text.ofString "signature" ∉ members.map Prod.fst)
    (written : canonical p (.obj members) = .ok octets) :
    canonicalSignedBytes p (sortedMembers (members ++ [(Text.ofString "signature", signature)])) =
      .ok octets := by
  have perm := @unsigned_sortedMembers_perm members signature absent
  have keys : ((Json.sortKeysMembers members).map Prod.fst).Nodup := by
    rwa [Json.keys_sortKeysMembers]
  have sorted : (Json.obj (unsigned (sortedMembers
      (members ++ [(Text.ofString "signature", signature)])))).sortKeys =
        (Json.obj members).sortKeys := by
    rw [Json.sortKeys_obj_perm ((perm.map Prod.fst).nodup_iff.mpr keys) perm, Json.sortKeys,
      Json.sortKeys, sortKeysMembers_sortKeysMembers]
  rw [canonical, demand_eq_ok, canonicalJson] at written
  split at written
  case isFalse => cases written
  case isTrue dumpable =>
    rw [canonicalSignedBytes, canonical, demand_eq_ok, canonicalJson, sorted, if_pos ?_]
    · exact written
    · refine Json.forall_mem_dumpableMembers.mpr fun member inside => ?_
      exact (Json.sortKeys_of_mem_sortKeysMembers members member (perm.subset inside)).2 dumpable

/-! ## What is published -/

theorem field_sortedMembers_of_mem {key : Text} {value : Json}
    (distinct : (members.map Prod.fst).Nodup) (inside : (key, value) ∈ members) :
    field (sortedMembers members) key = value.sortKeys := by
  rw [sortedMembers, ← Json.sortedFields, Json.field_sortedFields distinct, field,
    (Json.lookup_eq_some distinct).mpr inside]
  rfl

theorem mem_of_field {key text : Text} (distinct : (members.map Prod.fst).Nodup)
    (named : field members key = .str text) : (key, Json.str text) ∈ members := by
  unfold field at named
  cases found : Json.lookup key members with
  | none =>
    rw [found] at named
    cases named
  | some value =>
    rw [found] at named
    obtain rfl : value = .str text := named
    exact (Json.lookup_eq_some distinct).mp found

/-- A signed document is as plain as the document. -/
theorem plain_signed (plain : (Json.obj members).Plain False)
    (absent : Text.ofString "signature" ∉ members.map Prod.fst) (octets : Bytes) :
    (Json.obj (members ++
      [(Text.ofString "signature", .obj (signatureMembers octets))])).Plain False := by
  have keys : (Text.ofString "signature").NoSurrogate ∧ (Text.ofString "algorithm").NoSurrogate ∧
      (Text.ofString "ed25519").NoSurrogate ∧ (Text.ofString "value_base64").NoSurrogate := by
    decide
  have distinct : ([Text.ofString "algorithm", "value_base64"] : List Text).Nodup := by decide
  refine ⟨?_, Json.plainMembers_iff.mpr fun member inside => ?_⟩
  · rw [List.map_append, List.map_singleton, ← List.concat_eq_append]
    exact plain.1.concat absent
  · rcases List.mem_append.mp inside with old | new
    · exact Json.plainMembers_iff.mp plain.2 member old
    · obtain rfl := List.mem_singleton.mp new
      exact ⟨keys.1, distinct, keys.2.1, keys.2.2.1, keys.2.2.2,
        (isAscii_base64 octets).noSurrogate, trivial⟩

/-- **A signed registry is verified.** The canonical form of a document that was signed is read
back, and its signature is verified under the public key of the signer. -/
theorem checkSignature_of_signRegistry (ed : Ed25519 p) {data : Bytes} {keyId : Text}
    {trusted : Text → Option Bytes} (plain : (Json.obj members).Plain False)
    (signs : signRegistry p members seed = .ok signed)
    (written : canonicalJson p (.obj signed) = some data)
    (small : data.length ≤ maxRegistryBytes)
    (named : field members "signing_key_id" = .str keyId) (formed : isRegistryId keyId = true)
    (trusts : trusted keyId = some (ed.publicKey seed)) :
    ∃ read, parseRegistry data = .ok read ∧ checkSignature p ed trusted read = .ok keyId := by
  obtain ⟨absent, length, octets, signedOctets, rfl⟩ := signed_of_signRegistry signs
  have whole := plain_signed plain absent (p.sign seed octets)
  refine ⟨_, parseRegistry_of_canonical whole written small, ?_⟩
  have identified := field_sortedMembers_of_mem whole.1
    (List.mem_append_left _ (mem_of_field plain.1 named))
  have signature := field_sortedMembers_of_mem whole.1
    (List.mem_append_right _ (List.mem_singleton_self _))
  have sorted : (Json.obj (signatureMembers (p.sign seed octets))).sortKeys =
      .obj (signatureMembers (p.sign seed octets)) := rfl
  have key : (trusted keyId).filter (fun key => key.length = 32) = some (ed.publicKey seed) := by
    rw [trusts, Option.filter_some, if_pos (decide_eq_true (ed.length_publicKey seed length))]
  have read : octetsOf (.str (base64 (p.sign seed octets))) 64
      "registry signature is not canonical base64" "registry signature must be 64 bytes" =
        .ok (p.sign seed octets) := by
    simp only [octetsOf, bind_eq_ok, demand_eq_ok, require_eq_ok, pure_eq_ok]
    exact ⟨_, rfl, _, base64Decode_base64 _, (), ⟨ed.length_sign seed octets length, rfl⟩, rfl⟩
  -- each check of the verifier, in its order
  simp only [checkSignature, bind_eq_ok, demand_eq_ok, require_eq_ok, pure_eq_ok, idOf]
  refine ⟨keyId, ?_, ed.publicKey seed, key, signatureMembers (p.sign seed octets), ?_, (), ?_,
    p.sign seed octets, ?_, octets, canonicalSignedBytes_sortedMembers plain.1 absent signedOctets,
    (), ed.verify_sign seed octets length, rfl⟩
  · rw [identified]
    exact (Option.filter_some).trans (if_pos formed)
  · rw [signature, sorted]
    rfl
  · rfl
  · exact read

end Signing

namespace SampleRegistry

theorem plain_unsignedMembers : (Json.obj unsignedMembers).Plain False := by
  obtain ⟨distinct, plain⟩ := plain_members
  rw [members, List.map_append] at distinct
  refine ⟨distinct.of_append_left, Json.plainMembers_iff.mpr fun member inside => ?_⟩
  exact Json.plainMembers_iff.mp plain member (List.mem_append_left _ inside)

theorem dumpable_unsignedMembers : (Json.obj unsignedMembers).dumpable = true :=
  Json.forall_mem_dumpableMembers.mpr fun member inside =>
    Json.forall_mem_dumpableMembers.mp dumpable_members member (List.mem_append_left _ inside)

theorem publicKey_seed : ed25519.publicKey seed = publicKey := by
  simp only [ed25519, exchange, if_true]

theorem signRegistry_unsignedMembers : signRegistry platform unsignedMembers seed = .ok members := by
  have octets : canonical platform (.obj unsignedMembers) =
      .ok (documentBytes .sample unsignedMembers) :=
    demand_eq_ok.mpr (if_pos dumpable_unsignedMembers)
  have signs : platform.sign seed (documentBytes .sample unsignedMembers) = signature := by
    simp only [platform, and_self, if_true]
  have absent : Text.ofString "signature" ∉ unsignedMembers.map Prod.fst := by decide +kernel
  simp only [signRegistry, bind_eq_ok, require_eq_ok, pure_eq_ok]
  exact ⟨(), absent, (), rfl, _, octets, by rw [signs, members]⟩

end SampleRegistry

open SampleRegistry in
/-- The sample registry is read back, and it is verified. -/
theorem checkSignature_of_signRegistry_sample : ∃ read, parseRegistry data = .ok read ∧
    checkSignature platform ed25519 trusted read = .ok "root" :=
  checkSignature_of_signRegistry ed25519 plain_unsignedMembers signRegistry_unsignedMembers
    canonicalJson_members length_data_le rfl rfl (congrArg some publicKey_seed.symm)

end Cathedral.PolicyRegistry
