import CathedralCompute.PolicyRegistry.Accepted
import CathedralCompute.PolicyRegistry.Policy

/-!
# Keys for other verifiers

A verifier outside the repository asks for the public key behind a key id. The resolver
answers from two verified registries: the one whose policy the receipt names, and the newest
one, which says whether the key may still verify. Later registries only take authority away.

## Main definitions

* `AnchoredReceiptKeyResolver`, `AnchoredReceiptKeyResolver.resolve`

## Main results

* `canVerifyAt_of_state` — a key never gains authority
* `resolve_of_later` — what resolves under a later registry resolved under an earlier one
-/

set_option autoImplicit false

namespace Cathedral.PolicyRegistry

open Codec Semantics

/-- `ReceiptError`. -/
structure ReceiptError where
  category : Text
  message : Text
deriving DecidableEq

/-- A `ReceiptError` about a key. -/
def keyError (message : String) : ReceiptError := ⟨"key", message⟩

/-- `AnchoredReceiptKeyResolver`. -/
structure AnchoredReceiptKeyResolver where
  policyRegistry : Snapshot
  trustRegistry : Snapshot

/-- `AnchoredReceiptKeyResolver.__init__`. -/
def AnchoredReceiptKeyResolver.make (policyRegistry : Snapshot) (keyRegistry : Option Snapshot) :
    Except ReceiptError AnchoredReceiptKeyResolver := do
  let trustRegistry := keyRegistry.getD policyRegistry
  require (policyRegistry.signatureVerified = true ∧ trustRegistry.signatureVerified = true)
    (keyError "receipt key registry signature is not verified")
  require (policyRegistry.release ≤ trustRegistry.release)
    (keyError "receipt key registry predates its policy registry")
  return ⟨policyRegistry, trustRegistry⟩

/-- `AnchoredReceiptKeyResolver.resolve`, at a UTC time; the octets of the public key. -/
def AnchoredReceiptKeyResolver.resolve (resolver : AnchoredReceiptKeyResolver) (keyId : Text)
    (at_ : Instant) : Except ReceiptError Bytes := do
  require (keyId ≠ []) (keyError "receipt signing key id is invalid")
  let policyKey ← demand (keyError "receipt signing key is not consistently anchored")
    (resolver.policyRegistry.receiptKey keyId)
  let trustKey ← demand (keyError "receipt signing key is not consistently anchored")
    (resolver.trustRegistry.receiptKey keyId)
  require (policyKey.publicKey = trustKey.publicKey)
    (keyError "receipt signing key is not consistently anchored")
  require (trustKey.canVerifyAt at_)
    (keyError "receipt signing key is retired, revoked, or out of window")
  return trustKey.publicKey

/-! ## Authority -/

section Authority

variable {key key' : ReceiptVerificationKey} {when_ : Instant}

theorem KeyStatus.eq_of_revoked {τ : Type} [LT τ] {a b : KeyStatus × τ}
    (ages : Semantics.Ages KeyStatus.next a b) (revoked : a.1 = .revoked) : b = a := by
  refine ages.eq_of_last fun status listed => ?_
  rw [revoked] at listed ⊢
  exact List.mem_singleton.mp listed

/-- The only stage after retirement is revocation, which is the last. -/
theorem KeyStatus.revoked_of_retired {a b : KeyStatus}
    (stages : Relation.TransGen (fun s s' => s' ∈ KeyStatus.next s ∧ s' ≠ s) a b)
    (retired : a = .retired) : b = .revoked := by
  induction stages with
  | single step =>
    obtain ⟨listed, other⟩ := step
    rw [retired] at listed other
    exact List.mem_singleton.mp ((List.mem_cons.mp listed).resolve_left other)
  | tail _ step ih =>
    obtain ⟨listed, other⟩ := step
    rw [ih] at listed other
    exact absurd (List.mem_singleton.mp listed) other

/-- **A key never gains authority.** The order of the texts of times does not matter here: a
status that stays keeps its time, and one that moves on allows less. -/
theorem canVerifyAt_of_state {a b a' b' : Instant} (sound : key.Sound a b)
    (sound' : key'.Sound a' b') (ages : key.state.Ages key'.state)
    (verifies : key'.canVerifyAt when_ = true) : key.canVerifyAt when_ = true := by
  obtain ⟨-, from_, until_⟩ := anchors_of_state sound sound' ages
  simp only [ReceiptVerificationKey.canVerifyAt] at verifies ⊢
  cases status : key.status with
  | revoked =>
    have same := KeyStatus.eq_of_revoked ages.status status
    have revoked : key'.status = .revoked := (Prod.mk.inj same).1.trans status
    rw [revoked, if_pos rfl] at verifies
    cases verifies
  | retired =>
    rcases ages.status with same | ⟨stages, -⟩
    · obtain ⟨sameStatus, texts⟩ := Prod.mk.inj same
      have sameStatus : key.status = key'.status := sameStatus
      have sameTime := eq_of_strftimeSecond sound.seconds.1 sound'.seconds.1 texts
      rw [← sameStatus, ← sameTime, from_, until_, status] at verifies
      exact verifies
    · have revoked : key'.status = .revoked := KeyStatus.revoked_of_retired stages status
      rw [revoked, if_pos rfl] at verifies
      cases verifies
  | active =>
    rw [if_neg (by decide), if_neg (by decide), min_self]
    split at verifies
    · cases verifies
    · rw [decide_eq_true_eq, from_, until_] at verifies
      exact decide_eq_true ⟨verifies.1, verifies.2.trans_le (min_le_right _ _)⟩

end Authority

/-- The key of an id. -/
theorem Snapshot.Sound.receiptKey_eq_some {snapshot : Snapshot} (sound : snapshot.Sound)
    {keyId : Text} {key : ReceiptVerificationKey} :
    snapshot.receiptKey keyId = some key ↔
      key ∈ snapshot.receiptSigningKeys ∧ key.keyId = keyId :=
  @Table.find?_eq_some _ _ ReceiptVerificationKey.keyId _
    ⟨snapshot.receiptSigningKeys, sound.keyIds⟩ keyId key

section Later

variable {p : Platform} {ed : Ed25519 p}

/-- **Later registries only take authority away.** In every run of calls from an empty database
whose documents do not collide, whatever a resolver with a later accepted registry as its key
registry resolves, for a key id that an earlier accepted registry has, the earlier registry
alone resolved to the same key at the same time; a key the earlier one revoked is never
resolved. -/
theorem resolve_of_later (calls : List (Acceptance p ed))
    (collisionFree : CollisionFree (calls.map Acceptance.registry)) :
    (run Journal.step Journal.fresh calls).accepted.Pairwise fun earlier later =>
      ∀ policy resolver keyId at_ publicKey key,
        AnchoredReceiptKeyResolver.make policy (some later.snapshot) = .ok resolver →
        resolver.resolve keyId at_ = .ok publicKey →
        earlier.snapshot.receiptKey keyId = some key →
          key.status ≠ .revoked ∧
            (AnchoredReceiptKeyResolver.mk earlier.snapshot earlier.snapshot).resolve keyId at_ =
              .ok publicKey := by
  refine (accepted_lead calls collisionFree).imp fun {earlier later} leads => ?_
  intro policy resolver keyId at_ publicKey key made resolved found
  simp only [AnchoredReceiptKeyResolver.make, bind_eq_ok, require_eq_ok, pure_eq_ok] at made
  obtain ⟨_, -, _, -, rfl⟩ := made
  simp only [AnchoredReceiptKeyResolver.resolve, bind_eq_ok, require_eq_ok, demand_eq_ok,
    pure_eq_ok, Option.getD_some] at resolved ⊢
  obtain ⟨_, named, _, -, trustKey, trusted, _, -, _, verifies, rfl⟩ := resolved
  -- the key of the earlier registry is the later one's, younger
  obtain ⟨member, keyed⟩ := earlier.sound.receiptKey_eq_some.mp found
  obtain ⟨later', listed, same, ages⟩ := leads.keys key member
  have own := later.sound.receiptKey_eq_some.mpr ⟨listed, same.trans keyed⟩
  obtain rfl := Option.some.inj (own.symm.trans trusted)
  have sound := earlier.sound.keys key member
  have sound' := later.sound.keys later' listed
  have verified := canVerifyAt_of_state sound sound' ages verifies
  refine ⟨fun revoked => ?_, (), named, key, found, key, found, (), rfl, (), verified,
    (anchors_of_state sound sound' ages).1.symm⟩
  rw [ReceiptVerificationKey.canVerifyAt, if_pos revoked] at verified
  cases verified

end Later

open SampleRegistry in
/-- The second release retires a key, and resolves it for the day before. So the first does. -/
theorem resolve_of_later_sample : ∃ (releases : Releases) (publicKey : Bytes),
    (run Journal.step Journal.fresh (releases.earlier ++ releases.later)).accepted =
      [releases.first, releases.next] ∧
    (AnchoredReceiptKeyResolver.mk releases.next.snapshot releases.next.snapshot).resolve
      "receipt-a" noon = .ok publicKey ∧
    (AnchoredReceiptKeyResolver.mk releases.first.snapshot releases.first.snapshot).resolve
      "receipt-a" noon = .ok publicKey := by
  obtain ⟨releases⟩ := nonempty_releases
  have law := resolve_of_later _ releases.collisionFree
  rw [releases.journal] at law
  obtain ⟨key, found⟩ := Option.isSome_iff_exists.mp releases.keys.1
  obtain ⟨key', found', verifies⟩ := (Option.any_eq_true _ _).mp releases.keys.2
  have resolved : (AnchoredReceiptKeyResolver.mk releases.next.snapshot
      releases.next.snapshot).resolve "receipt-a" noon = .ok key'.publicKey := by
    simp only [AnchoredReceiptKeyResolver.resolve, bind_eq_ok, require_eq_ok, demand_eq_ok,
      pure_eq_ok]
    exact ⟨(), by decide, key', found', key', found', (), rfl, (), verifies, rfl⟩
  have made : AnchoredReceiptKeyResolver.make releases.next.snapshot
      (some releases.next.snapshot) = .ok ⟨releases.next.snapshot, releases.next.snapshot⟩ := by
    have verified := releases.next.sound.verified
    simp only [AnchoredReceiptKeyResolver.make, bind_eq_ok, require_eq_ok, pure_eq_ok,
      Option.getD_some]
    exact ⟨(), ⟨verified, verified⟩, (), le_rfl, trivial⟩
  refine ⟨releases, key'.publicKey, releases.journal, resolved, ?_⟩
  exact (List.rel_of_pairwise_cons law (List.mem_singleton_self _) _ _ _ _ _ key made resolved
    found).2

end Cathedral.PolicyRegistry
