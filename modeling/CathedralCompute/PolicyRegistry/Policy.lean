import CathedralCompute.PolicyRegistry.Snapshot
import CathedralCompute.Sample
import Mathlib.Data.Finset.Basic
import Mathlib.Data.List.Dedup

/-!
# The policy of a registry

`toPolicy` collects the CPU-TDX profiles that are eligible at a time into one policy. The
policy keeps no profile: it remembers the interval of time in which all of them stay
eligible, cut at the end of the registry and at the greatest age the caller allows.

## Main definitions

* `Snapshot.toPolicy`
* `Policy.productionReadyAt`

## Main results

* `eligible_of_productionReadyAt` — inside the interval every profile of the policy is
  eligible, and the time the policy was made for lies inside
-/

set_option autoImplicit false

namespace Cathedral.PolicyRegistry

open Codec Semantics

/-- `Policy`. -/
structure Policy where
  allowedMeasurements : Finset Text
  minTcb : ℤ
  allowedFirmware : Finset Text
  tdxStrict : Bool
  tdxAllowedTcbStatuses : Finset Text
  tdxAllowedAdvisories : Finset Text
  registryRelease : Option ℤ
  registryDigest : Option Text
  registryProfileIds : List Text
  registryVerified : Bool
  registryValidFrom : Option Instant
  registryValidUntil : Option Instant

/-- `Policy.production_ready_at`. -/
def Policy.productionReadyAt (policy : Policy) (when_ : Instant) : Bool :=
  policy.tdxStrict && policy.allowedMeasurements ≠ ∅ && policy.registryVerified &&
    policy.registryRelease.isSome && policy.registryDigest.isSome &&
    policy.registryProfileIds ≠ [] &&
    (∃ start ∈ policy.registryValidFrom, start ≤ when_) &&
    (∃ stop ∈ policy.registryValidUntil, when_ < stop)

/-- What profiles that apply together must share. -/
structure Controls where
  minTcb : ℤ
  statuses : Finset Text
  advisories : Finset Text
  firmware : Finset Text
deriving DecidableEq

def PolicyProfile.controls (profile : PolicyProfile) : Controls where
  minTcb := profile.minTcb
  statuses := profile.tdxAllowedTcbStatuses.toFinset
  advisories := profile.tdxAllowedAdvisories.toFinset
  firmware := profile.allowedFirmware.toFinset

/-- The controls of a policy. -/
def Policy.controls (policy : Policy) : Controls where
  minTcb := policy.minTcb
  statuses := policy.tdxAllowedTcbStatuses
  advisories := policy.tdxAllowedAdvisories
  firmware := policy.allowedFirmware

/-- From when a profile is eligible. -/
def PolicyProfile.authorityFrom (profile : PolicyProfile) : Instant :=
  max profile.validFrom profile.statusChangedAt

/-- Until when a profile is eligible. -/
def PolicyProfile.authorityUntil (profile : PolicyProfile) : Instant :=
  min profile.validUntil (profile.retireAt.getD profile.validUntil)

/-- The only element. -/
def only {α : Type} : List α → Option α
  | [a] => some a
  | _ => none

/-- The end of the policy's interval, cut at the greatest age. -/
def Snapshot.authorityUntil (snapshot : Snapshot) (eligible : List PolicyProfile) :
    Option ℤ → Checked Instant
  | none => .ok ((eligible.map PolicyProfile.authorityUntil).foldl min snapshot.validUntil)
  | some seconds => do
    let aged ← later snapshot.generatedAt seconds
    return min ((eligible.map PolicyProfile.authorityUntil).foldl min snapshot.validUntil) aged

/-- The profiles that make up the policy at a time. -/
def Snapshot.eligibleProfiles (snapshot : Snapshot) (when_ : Instant) : List PolicyProfile :=
  snapshot.profiles.filter fun profile => profile.kind = .cpuTdx ∧ profile.eligibleAt when_

/-- `PolicyRegistrySnapshot.to_policy`, with what the clock shows. What the constructor
of `Policy` checks of its arguments again is left out. -/
def Snapshot.toPolicy (snapshot : Snapshot) (at_ : Option Instant) (maxAgeSeconds : Option ℤ)
    (clock : Instant) : Checked Policy := do
  require (snapshot.signatureVerified = true) (.policyRegistryError
    "policy cannot be derived without verified registry signature provenance")
  require (∀ seconds ∈ maxAgeSeconds, 0 < seconds)
    (.policyRegistryError "policy maximum age must be positive")
  let eligible := snapshot.eligibleProfiles (at_.getD clock)
  require (eligible ≠ [])
    (.policyRegistryError "registry has no eligible CPU TDX profile")
  let controls ← demand
    (.policyRegistryError "overlapping CPU TDX profiles must share security controls")
    (only (eligible.map PolicyProfile.controls).dedup)
  let stop ← snapshot.authorityUntil eligible maxAgeSeconds
  return {
    allowedMeasurements := (eligible.flatMap PolicyProfile.measurements).toFinset
    minTcb := controls.minTcb
    allowedFirmware := controls.firmware
    tdxStrict := true
    tdxAllowedTcbStatuses := controls.statuses
    tdxAllowedAdvisories := controls.advisories
    registryRelease := some snapshot.release
    registryDigest := some snapshot.digest
    registryProfileIds := (eligible.map PolicyProfile.profileId).insertionSort (· ≤ ·)
    registryVerified := true
    registryValidFrom :=
      some ((eligible.map PolicyProfile.authorityFrom).foldl max snapshot.validFrom)
    registryValidUntil := some stop }

/-! ## Intervals -/

theorem foldl_max_le_iff {times : List Instant} {first time : Instant} :
    times.foldl max first ≤ time ↔ first ≤ time ∧ ∀ t ∈ times, t ≤ time := by
  induction times generalizing first with
  | nil => simp
  | cons t times ih =>
    rw [List.foldl_cons, ih, max_le_iff, List.forall_mem_cons, and_assoc]

theorem lt_foldl_min_iff {times : List Instant} {first time : Instant} :
    time < times.foldl min first ↔ time < first ∧ ∀ t ∈ times, time < t := by
  induction times generalizing first with
  | nil => simp
  | cons t times ih =>
    rw [List.foldl_cons, ih, lt_min_iff, List.forall_mem_cons, and_assoc]

theorem eq_of_only_dedup {α : Type} [DecidableEq α] {values : List α} {a : α}
    (one : only values.dedup = some a) {b : α} (member : b ∈ values) : b = a := by
  rw [← List.mem_dedup] at member
  unfold only at one
  split at one
  case h_1 c single =>
    rw [single, List.mem_singleton] at member
    rw [member, Option.some.inj one]
  case h_2 => cases one

/-- **One profile.** A profile that is eligible at some time is eligible in exactly its
interval. -/
theorem eligibleAt_iff {registryFrom registryUntil time instant : Instant}
    {profile : PolicyProfile} (sound : profile.Sound registryFrom registryUntil)
    (once : profile.eligibleAt time = true) :
    profile.eligibleAt instant = true ↔
      profile.authorityFrom ≤ instant ∧ instant < profile.authorityUntil := by
  obtain ⟨start, -⟩ := sound.changed
  have retirement := sound.retirement
  have reach : profile.authorityFrom = profile.statusChangedAt := max_eq_right start
  rw [reach]
  unfold PolicyProfile.authorityUntil
  cases status : profile.status with
  | active =>
    have open_ : profile.retireAt = none := by simpa [checkRetirement, status] using retirement
    simp [PolicyProfile.eligibleAt, status, open_, start]
  | retiring =>
    obtain ⟨retire, set, -, -⟩ : ∃ retire ∈ profile.retireAt,
        profile.statusChangedAt ≤ retire ∧ retire ≤ profile.validUntil := by
      simpa [checkRetirement, status] using retirement
    rw [Option.mem_def] at set
    simp [PolicyProfile.eligibleAt, status, set, start, and_assoc]
  | retired => simp [PolicyProfile.eligibleAt, status] at once
  | revoked => simp [PolicyProfile.eligibleAt, status] at once

/-! ## The policy -/

/-- What a policy says of the registry it was made from. -/
structure MadeFrom (snapshot : Snapshot) (time : Instant) (maxAgeSeconds : Option ℤ)
    (policy : Policy) : Prop where
  some_eligible : snapshot.eligibleProfiles time ≠ []
  controls : ∀ profile ∈ snapshot.eligibleProfiles time, profile.controls = policy.controls
  measurements : policy.allowedMeasurements =
    ((snapshot.eligibleProfiles time).flatMap PolicyProfile.measurements).toFinset
  profileIds : policy.registryProfileIds =
    ((snapshot.eligibleProfiles time).map PolicyProfile.profileId).insertionSort (· ≤ ·)
  strict : policy.tdxStrict = true
  registry : policy.registryRelease = some snapshot.release ∧
    policy.registryDigest = some snapshot.digest ∧ policy.registryVerified = true
  start : policy.registryValidFrom = some
    (((snapshot.eligibleProfiles time).map PolicyProfile.authorityFrom).foldl max
      snapshot.validFrom)
  stop : ∃ stop, snapshot.authorityUntil (snapshot.eligibleProfiles time) maxAgeSeconds = .ok stop ∧
    policy.registryValidUntil = some stop

theorem madeFrom_of_toPolicy {snapshot : Snapshot} {at_ : Option Instant}
    {maxAgeSeconds : Option ℤ} {clock : Instant} {policy : Policy}
    (derived : snapshot.toPolicy at_ maxAgeSeconds clock = .ok policy) :
    MadeFrom snapshot (at_.getD clock) maxAgeSeconds policy := by
  simp only [Snapshot.toPolicy, bind_eq_ok, require_eq_ok, demand_eq_ok, pure_eq_ok] at derived
  obtain ⟨_, -, _, -, _, some_eligible, controls, one, stop, stops, rfl⟩ := derived
  exact {
    some_eligible := some_eligible
    controls := fun profile member => eq_of_only_dedup one (List.mem_map_of_mem member)
    measurements := rfl
    profileIds := rfl
    strict := rfl
    registry := ⟨rfl, rfl, rfl⟩
    start := rfl
    stop := ⟨stop, stops, rfl⟩ }

/-- An instant lies in the interval of the policy: in the window of the registry, in the
interval of every profile, and within the greatest age. -/
theorem within_iff {snapshot : Snapshot} {time instant : Instant} {maxAgeSeconds : Option ℤ}
    {policy : Policy} (made : MadeFrom snapshot time maxAgeSeconds policy) :
    ((∃ start ∈ policy.registryValidFrom, start ≤ instant) ∧
        ∃ stop ∈ policy.registryValidUntil, instant < stop) ↔
      (snapshot.validFrom ≤ instant ∧ instant < snapshot.validUntil) ∧
        (∀ profile ∈ snapshot.eligibleProfiles time,
          profile.authorityFrom ≤ instant ∧ instant < profile.authorityUntil) ∧
        ∀ seconds ∈ maxAgeSeconds, (instant : ℤ) < snapshot.generatedAt + seconds * 1000000 := by
  obtain ⟨stop, stops, until_⟩ := made.stop
  have least : instant < stop ↔ (instant < snapshot.validUntil ∧
      ∀ profile ∈ snapshot.eligibleProfiles time, instant < profile.authorityUntil) ∧
        ∀ seconds ∈ maxAgeSeconds, (instant : ℤ) < snapshot.generatedAt + seconds * 1000000 := by
    cases maxAgeSeconds with
    | none =>
      cases stops
      rw [lt_foldl_min_iff, List.forall_mem_map]
      simp
    | some seconds =>
      simp only [Snapshot.authorityUntil, later, bind_eq_ok, require_eq_ok, pure_eq_ok] at stops
      obtain ⟨_, ⟨_, -, rfl⟩, rfl⟩ := stops
      rw [lt_min_iff, lt_foldl_min_iff, List.forall_mem_map]
      simp [Int.lt_toNat]
  rw [made.start, until_]
  simp only [Option.mem_def, Option.some.injEq, exists_eq_left', least, foldl_max_le_iff,
    List.forall_mem_map]
  constructor
  · rintro ⟨⟨from_, starts⟩, ⟨before, ends⟩, aged⟩
    exact ⟨⟨from_, before⟩, fun profile member => ⟨starts profile member, ends profile member⟩,
      aged⟩
  · rintro ⟨⟨from_, before⟩, inside, aged⟩
    exact ⟨⟨from_, fun profile member => (inside profile member).1⟩,
      ⟨before, fun profile member => (inside profile member).2⟩, aged⟩

theorem mem_eligibleProfiles {snapshot : Snapshot} {time : Instant} {profile : PolicyProfile} :
    profile ∈ snapshot.eligibleProfiles time ↔
      profile ∈ snapshot.profiles ∧ profile.kind = .cpuTdx ∧ profile.eligibleAt time = true := by
  simp [Snapshot.eligibleProfiles]

/-- The policy lists measurements and profiles. -/
theorem filled_of_madeFrom {snapshot : Snapshot} {time : Instant} {maxAgeSeconds : Option ℤ}
    {policy : Policy} (sound : snapshot.Sound)
    (made : MadeFrom snapshot time maxAgeSeconds policy) :
    policy.allowedMeasurements ≠ ∅ ∧ policy.registryProfileIds ≠ [] := by
  obtain ⟨profile, member⟩ := List.exists_mem_of_ne_nil _ made.some_eligible
  obtain ⟨ofSnapshot, cpu, -⟩ := mem_eligibleProfiles.mp member
  constructor
  · have measured : profile.measurements ≠ [] :=
      (sound.profiles profile ofSnapshot).measurements.2.resolve_left (by simp [cpu])
    obtain ⟨measurement, listed⟩ := List.exists_mem_of_ne_nil _ measured
    rw [made.measurements]
    exact Finset.ne_empty_of_mem
      (List.mem_toFinset.mpr (List.mem_flatMap.mpr ⟨profile, member, listed⟩))
  · rw [made.profileIds]
    intro empty
    have listed : profile.profileId ∈
        ((snapshot.eligibleProfiles time).map PolicyProfile.profileId).insertionSort (· ≤ ·) :=
      (List.mem_insertionSort _).mpr (List.mem_map_of_mem member)
    rw [empty] at listed
    cases listed

theorem productionReadyAt_iff {snapshot : Snapshot} {time instant : Instant}
    {maxAgeSeconds : Option ℤ} {policy : Policy} (sound : snapshot.Sound)
    (made : MadeFrom snapshot time maxAgeSeconds policy) :
    policy.productionReadyAt instant = true ↔
      (snapshot.validFrom ≤ instant ∧ instant < snapshot.validUntil) ∧
        (∀ profile ∈ snapshot.eligibleProfiles time, profile.eligibleAt instant = true) ∧
        ∀ seconds ∈ maxAgeSeconds, (instant : ℤ) < snapshot.generatedAt + seconds * 1000000 := by
  obtain ⟨release, digest, verified⟩ := made.registry
  obtain ⟨measured, listed⟩ := filled_of_madeFrom sound made
  have eligible : (∀ profile ∈ snapshot.eligibleProfiles time,
      profile.eligibleAt instant = true) ↔ ∀ profile ∈ snapshot.eligibleProfiles time,
        profile.authorityFrom ≤ instant ∧ instant < profile.authorityUntil := by
    refine forall₂_congr fun profile member => ?_
    obtain ⟨ofSnapshot, -, once⟩ := mem_eligibleProfiles.mp member
    exact eligibleAt_iff (sound.profiles profile ofSnapshot) once
  rw [eligible, ← within_iff made]
  simp [Policy.productionReadyAt, made.strict, release, digest, verified, measured, listed]

/-- **The policy's authority.** Whenever a policy made from a verified registry is ready,
its measurements come from CPU-TDX profiles that are eligible then, and so are the profiles
it lists, which share its controls; the time lies in the window of the registry and within
the greatest age. Without a greatest age the policy is ready at the time it was made for,
if that lies in the window. -/
theorem eligible_of_productionReadyAt {p : Platform} {ed : Ed25519 p}
    {trusted : Text → Option Bytes} {occasion : Occasion} {data : Bytes} {snapshot : Snapshot}
    {at_ : Option Instant} {maxAgeSeconds : Option ℤ} {clock : Instant} {policy : Policy}
    (verified : verifyRegistry p ed trusted occasion data = .ok snapshot)
    (derived : snapshot.toPolicy at_ maxAgeSeconds clock = .ok policy) :
    (∀ instant, policy.productionReadyAt instant = true →
      (∀ measurement ∈ policy.allowedMeasurements, ∃ profile ∈ snapshot.profiles,
        profile.kind = .cpuTdx ∧ profile.eligibleAt instant = true ∧
          measurement ∈ profile.measurements) ∧
      (∀ profileId ∈ policy.registryProfileIds, ∃ profile ∈ snapshot.profiles,
        profile.profileId = profileId) ∧
      (∀ profile ∈ snapshot.profiles, profile.profileId ∈ policy.registryProfileIds →
        profile.kind = .cpuTdx ∧ profile.eligibleAt instant = true ∧
          profile.minTcb = policy.minTcb ∧
          profile.tdxAllowedTcbStatuses.toFinset = policy.tdxAllowedTcbStatuses ∧
          profile.tdxAllowedAdvisories.toFinset = policy.tdxAllowedAdvisories ∧
          profile.allowedFirmware.toFinset = policy.allowedFirmware) ∧
      (snapshot.validFrom ≤ instant ∧ instant < snapshot.validUntil) ∧
      ∀ seconds ∈ maxAgeSeconds, (instant : ℤ) - snapshot.generatedAt ≤ seconds * 1000000) ∧
    (maxAgeSeconds = none → snapshot.validFrom ≤ at_.getD clock →
      at_.getD clock < snapshot.validUntil → policy.productionReadyAt (at_.getD clock) = true) := by
  have sound := sound_of_verifyRegistry verified
  have made := madeFrom_of_toPolicy derived
  refine ⟨fun instant ready => ?_, fun ageless from_ before => ?_⟩
  · obtain ⟨window, eligible, aged⟩ := (productionReadyAt_iff sound made).mp ready
    refine ⟨fun measurement allowed => ?_, fun profileId listed => ?_,
      fun profile member listed => ?_, window, fun seconds set => ?_⟩
    · rw [made.measurements, List.mem_toFinset, List.mem_flatMap] at allowed
      obtain ⟨profile, member, measured⟩ := allowed
      obtain ⟨ofSnapshot, cpu, -⟩ := mem_eligibleProfiles.mp member
      exact ⟨profile, ofSnapshot, cpu, eligible profile member, measured⟩
    · rw [made.profileIds, List.mem_insertionSort, List.mem_map] at listed
      obtain ⟨profile, member, same⟩ := listed
      exact ⟨profile, (mem_eligibleProfiles.mp member).1, same⟩
    · rw [made.profileIds, List.mem_insertionSort, List.mem_map] at listed
      obtain ⟨other, chosen, same⟩ := listed
      obtain ⟨ofSnapshot, cpu, -⟩ := mem_eligibleProfiles.mp chosen
      -- no two profiles have one id
      obtain rfl : other = profile :=
        List.inj_on_of_nodup_map sound.profileIds ofSnapshot member same
      have shared := made.controls other chosen
      simp only [PolicyProfile.controls, Policy.controls, Controls.mk.injEq] at shared
      exact ⟨cpu, eligible other chosen, shared.1, shared.2.1, shared.2.2.1, shared.2.2.2⟩
    · have := aged seconds set
      omega
  · refine (productionReadyAt_iff sound made).mpr ⟨⟨from_, before⟩, fun profile member => ?_, ?_⟩
    · exact (mem_eligibleProfiles.mp member).2.2
    · simp [ageless]

/-! ## A registry -/

namespace SampleRegistry

/-- The seed of the key that signs the registry. -/
def seed : Bytes := List.replicate 32 1

/-- Its Ed25519 public key. -/
def publicKey : Bytes :=
  [138, 136, 227, 221, 116, 9, 241, 149, 253, 82, 219, 45, 60, 186, 93, 114, 202, 103, 9, 191,
    29, 148, 18, 27, 243, 116, 136, 1, 180, 15, 111, 92]

def start : Text := "2026-01-01T00:00:00Z"

def changed : Text := "2026-01-02T00:00:00Z"

def stop : Text := "2027-01-01T00:00:00Z"

def zeroDigest : Text := Text.ofString "sha256:" ++ List.replicate 64 0x30

def measurement : Text := Text.ofString "tdx-measurement-sha256:" ++ List.replicate 64 0x30

def texts (values : List Text) : Json := .arr (values.map .str)

/-- A CPU-TDX profile. -/
def cpuProfile : Json := .obj [("id", .str "tdx-a"), ("kind", .str "cpu_tdx"),
  ("status", .str "active"), ("status_changed_at", .str start), ("valid_from", .str start),
  ("valid_until", .str stop), ("retire_at", .null), ("measurements", texts [measurement]),
  ("runtime_measurements", texts []), ("allowed_firmware", texts []), ("min_tcb", .int 0),
  ("tdx_allowed_tcb_statuses", texts ["UpToDate"]), ("tdx_allowed_advisories", texts []),
  ("metadata", .obj [])]

/-- What a GPU profile says in its metadata. -/
def gpuMetadata : Json := .obj [("allowed_cc_modes", texts ["on"]),
  ("allowed_cpu_measurements", texts [measurement]), ("allowed_drivers", texts ["d"]),
  ("allowed_models", texts ["m"]), ("allowed_security_states", texts ["s"]),
  ("allowed_vbios", texts ["v"]), ("cpu_kind", .str "tdx"),
  ("expected_device_identity_digests", texts [zeroDigest]), ("verifier_digest", .str zeroDigest)]

/-- A GPU profile whose status changed a day after its validity began. -/
def gpuProfile : Json := .obj [("id", .str "gpu-a"), ("kind", .str "gpu_cc"),
  ("status", .str "active"), ("status_changed_at", .str changed), ("valid_from", .str start),
  ("valid_until", .str stop), ("retire_at", .null), ("measurements", texts []),
  ("runtime_measurements", texts []), ("allowed_firmware", texts []), ("min_tcb", .int 0),
  ("tdx_allowed_tcb_statuses", texts []), ("tdx_allowed_advisories", texts []),
  ("metadata", gpuMetadata)]

def receiptKey : Json := .obj [("id", .str "receipt-a"), ("algorithm", .str "ed25519"),
  ("public_key_base64", .str "gTl3Dqh9F19Wo1Rmw0x+zMuNipG07jeiXfYPW4/Js5Q="),
  ("purpose", .str "assurance_receipt"), ("status", .str "active"),
  ("status_changed_at", .str start), ("valid_from", .str start), ("valid_until", .str stop),
  ("revoked_at", .null), ("replacement_key_id", .null), ("metadata", .obj [])]

/-- The registry before it is signed. -/
def unsignedMembers : List (Text × Json) := [("schema", .str registrySchema), ("release", .int 1),
  ("generated_at", .str changed), ("valid_from", .str start), ("valid_until", .str stop),
  ("signing_key_id", .str "root"), ("receipt_signing_keys", .arr [receiptKey]),
  ("profiles", .arr [cpuProfile, gpuProfile]), ("metadata", .obj [])]

/-- The signature of the registry under the seed. -/
def signature : Bytes :=
  [160, 224, 217, 56, 178, 233, 91, 194, 54, 162, 60, 39, 182, 53, 85, 29, 214, 225, 251, 224,
    24, 113, 227, 102, 71, 89, 125, 32, 130, 162, 14, 120, 181, 151, 217, 89, 46, 141, 75,
    191, 103, 248, 53, 93, 50, 67, 219, 156, 63, 172, 97, 127, 93, 102, 62, 189, 38, 60,
    202, 61, 27, 62, 165, 12]

/-- A platform that signs the registry; other signatures are zero octets. -/
def platform : Platform := { Platform.sample with
  sign := fun key message =>
    if key = seed ∧ message = documentBytes .sample unsignedMembers then signature
    else List.replicate 64 0 }

/-- The seed and its public key change places. -/
def exchange (key : Bytes) : Bytes :=
  if key = seed then publicKey else if key = publicKey then seed else key

theorem exchange_exchange (key : Bytes) : exchange (exchange key) = key := by
  have differ : publicKey ≠ seed := by decide
  unfold exchange
  by_cases isSeed : key = seed
  · simp [isSeed, differ]
  · by_cases isPublic : key = publicKey
    · simp [isPublic, differ]
    · simp [isSeed, isPublic]

theorem length_platform_sign (key message : Bytes) : (platform.sign key message).length = 64 := by
  simp only [platform]
  split <;> rfl

/-- Signatures are verified by signing again. -/
def ed25519 : Ed25519 platform where
  publicKey := exchange
  verify key octets message := octets = platform.sign (exchange key) message
  length_publicKey key length := by
    unfold exchange
    split
    · rfl
    · split
      · rfl
      · exact length
  length_sign key message _ := length_platform_sign key message
  verify_sign key message _ := by rw [exchange_exchange]; exact decide_eq_true rfl

/-- The signed registry. -/
def members : List (Text × Json) := unsignedMembers ++ [(Text.ofString "signature",
  Json.obj [("algorithm", .str "ed25519"), ("value_base64", .str (base64 signature))])]

/-- The registry as it is published. -/
def data : Bytes := documentBytes platform members

def trusted (keyId : Text) : Option Bytes :=
  if keyId = Text.ofString "root" then some publicKey else none

/-- Noon of the second day of 2026. -/
def noon : Instant := (63902908800 + 43200) * 1000000

def occasion : Occasion := ⟨some noon, 86400, none, noon, noon⟩

theorem plain_members : (Json.obj members).Plain False := by decide +kernel

theorem length_data_le : data.length ≤ maxRegistryBytes := by decide +kernel

theorem dumpable_members : (Json.obj members).dumpable = true := by decide +kernel

theorem canonicalJson_members : canonicalJson platform (.obj members) = some data :=
  if_pos dumpable_members

theorem parsed_data : parseRegistry data = .ok (sortedMembers members) :=
  parseRegistry_of_canonical plain_members canonicalJson_members length_data_le

theorem verifyRegistry_data :
    verifyRegistry platform ed25519 trusted occasion data =
      verifyMembers platform ed25519 trusted occasion (sortedMembers members) :=
  verifyRegistry_of_parsed parsed_data

/-- The registry is verified, and it has a policy at noon. -/
theorem policy_at_noon : ((verifyMembers platform ed25519 trusted occasion
    (sortedMembers members)).toOption.any fun snapshot =>
      (snapshot.toPolicy (some noon) none noon).toOption.any fun _ => true) = true := by
  decide +kernel

theorem exists_policy : ∃ snapshot policy,
    verifyRegistry platform ed25519 trusted occasion data = .ok snapshot ∧
      snapshot.toPolicy (some noon) none noon = .ok policy := by
  obtain ⟨snapshot, verified, made⟩ := exists_of_any policy_at_noon
  obtain ⟨policy, derived, -⟩ := exists_of_any made
  exact ⟨snapshot, policy, verifyRegistry_data.trans verified, derived⟩

end SampleRegistry

open SampleRegistry in
/-- The policy of a sample registry keeps its promise. -/
theorem eligible_of_productionReadyAt_sample : ∃ snapshot policy,
    verifyRegistry platform ed25519 trusted occasion data = .ok snapshot ∧
      snapshot.toPolicy (some noon) none noon = .ok policy ∧
      ∀ instant, policy.productionReadyAt instant = true →
        ∀ measurement ∈ policy.allowedMeasurements, ∃ profile ∈ snapshot.profiles,
          profile.kind = .cpuTdx ∧ profile.eligibleAt instant = true ∧
            measurement ∈ profile.measurements := by
  obtain ⟨snapshot, policy, verified, derived⟩ := exists_policy
  exact ⟨snapshot, policy, verified, derived, fun instant ready =>
    ((eligible_of_productionReadyAt verified derived).1 instant ready).1⟩

end Cathedral.PolicyRegistry
