import CathedralCompute.PolicyRegistry.Policy

/-!
# GPU profiles of a registry

`gpuProfileFromRegistry` takes one GPU profile out of a verified registry. What it returns
carries its own interval of time, which is made of the two validity windows alone: the time
of the profile's last status change is left out of it.

## Main definitions

* `gpuProfileFromRegistry`
* `GpuProfile.productionReadyAt`

## Main results

* `eligible_when_ready_iff` — the GPU profile is ready only while the registry's profile is
  eligible if and only if that profile has never changed its status
-/

set_option autoImplicit false

namespace Cathedral.Gpu

open Codec Semantics PolicyRegistry

/-- `GpuAttestationError`, and what a set of unhashable values raises. -/
inductive ProfileFault where
  | gpuAttestationError (category message : Text)
  | typeError
deriving DecidableEq

/-- `GpuAttestationError` about the policy. -/
def invalidPolicy (message : Text) : ProfileFault := .gpuAttestationError "invalid_policy" message

abbrev ProfileChecked := Except ProfileFault

def maxDevices : ℕ := 16

/-- `_TOKEN_RE`. -/
def isToken : Text → Bool
  | [] => false
  | c :: rest => Text.isAlphanumeric c && rest.length ≤ 127 &&
      rest.all fun c => Text.isAlphanumeric c || c ∈ ([0x2e, 0x5f, 0x3a, 0x2b, 0x2d] : Text)

/-- `GpuProfile`. -/
structure GpuProfile where
  profileId : Text
  expectedDeviceIdentityDigests : Finset Text
  allowedModels : Finset Text
  allowedCcModes : Finset Text
  allowedDrivers : Finset Text
  allowedVbios : Finset Text
  allowedSecurityStates : Finset Text
  allowedCpuMeasurements : Finset Text
  verifierDigest : Text
  active : Bool
  registryRelease : Option ℤ
  registryDigest : Option Text
  registryValidFrom : Option Instant
  registryValidUntil : Option Instant
  registryVerified : Bool

/-- `GpuProfile.production_ready_at`. -/
def GpuProfile.productionReadyAt (profile : GpuProfile) (at_ : Instant) : Bool :=
  profile.registryVerified && profile.active && profile.registryRelease.isSome &&
    (∃ start ∈ profile.registryValidFrom, start ≤ at_) &&
    (∃ stop ∈ profile.registryValidUntil, at_ < stop)

/-! ## Construction -/

/-- A set of so many texts of one form. -/
def formedSet (form : Text → Bool) (most : ℕ) (message : Text) (values : List Json) :
    ProfileChecked (Finset Text) := do
  let texts ← demand (invalidPolicy message) (values.mapM textOfJson)
  require (texts ≠ [] ∧ texts.toFinset.card ≤ most ∧ texts.all form) (invalidPolicy message)
  return texts.toFinset

/-- One of the allowed sets. -/
def allowedSet (name : Text) : List Json → ProfileChecked (Finset Text) :=
  formedSet isToken 64 (Text.ofString "GPU profile " ++ name ++ Text.ofString " are invalid")

/-- What `GpuProfile.__post_init__` checks of the registry's release and digest. -/
def checkBinding (release : Option ℤ) (digest : Option Text) : ProfileChecked Unit := do
  require (release.isNone = digest.isNone)
    (invalidPolicy "GPU registry release and digest must be paired")
  require (∀ number ∈ release, 0 < number ∧ digest.any (Text.isDigest "sha256:"))
    (invalidPolicy "GPU registry binding is invalid")

/-- The constructor of `GpuProfile` with `__post_init__`. -/
def GpuProfile.make (profileId : Text)
    (identities models ccModes drivers vbios securityStates cpuMeasurements : List Json)
    (verifierDigest : Json) (active : Bool) (release : Option ℤ) (digest : Option Text) :
    ProfileChecked GpuProfile := do
  require (isToken profileId)
    (.gpuAttestationError "invalid_evidence" "GPU profile id is invalid")
  let verifier ← demand (invalidPolicy "GPU verifier digest is invalid")
    ((textOfJson verifierDigest).filter (Text.isDigest "sha256:"))
  checkBinding release digest
  let identities ← formedSet (Text.isDigest "sha256:") maxDevices "GPU identity set is invalid"
    identities
  let models ← allowedSet "models" models
  let ccModes ← allowedSet "CC modes" ccModes
  let drivers ← allowedSet "drivers" drivers
  let vbios ← allowedSet "VBIOS versions" vbios
  let securityStates ← allowedSet "security states" securityStates
  let cpuMeasurements ← allowedSet "CPU measurements" cpuMeasurements
  return {
    profileId, expectedDeviceIdentityDigests := identities, allowedModels := models
    allowedCcModes := ccModes, allowedDrivers := drivers, allowedVbios := vbios
    allowedSecurityStates := securityStates, allowedCpuMeasurements := cpuMeasurements
    verifierDigest := verifier, active, registryRelease := release, registryDigest := digest
    registryValidFrom := none, registryValidUntil := none, registryVerified := false }

/-! ## Selection -/

/-- What a set sees of a frozen value, in the order of the value. -/
inductive HashToken where
  | null
  | number (z : ℤ)
  | floating (value : Floating)
  | text (t : Text)
  | opening
  | closing
deriving DecidableEq

mutual

/-- What a set compares of a frozen value: `True` is `1`, and a mapping has no hash. -/
def hashKey : Json → Option (List HashToken)
  | .null => some [.null]
  | .bool b => some [.number (if b then 1 else 0)]
  | .int z => some [.number z]
  | .float value => some [.floating value]
  | .str t => some [.text t]
  | .arr items => (hashItems items).map fun keys => .opening :: (keys ++ [.closing])
  | .obj _ => none

def hashItems : List Json → Option (List HashToken)
  | [] => some []
  | item :: items => do
    let key ← hashKey item
    let keys ← hashItems items
    return key ++ keys

end

/-- `string_set`. -/
def stringSet (metadata : List (Text × Json)) (name : Text) : ProfileChecked (List Json) := do
  let complaint :=
    invalidPolicy (Text.ofString "GPU registry " ++ name ++ Text.ofString " is invalid")
  let items ← demand complaint (itemsOfJson (field metadata name))
  let keys ← demand .typeError (items.mapM hashKey)
  require keys.Nodup complaint
  return items

/-- `_GPU_REGISTRY_METADATA_KEYS`. -/
def gpuRegistryMetadataKeys : List Text :=
  ["allowed_cc_modes", "allowed_cpu_measurements", "allowed_drivers", "allowed_models",
    "allowed_security_states", "allowed_vbios", "cpu_kind", "expected_device_identity_digests",
    "verifier_digest"]

/-- The GPU profiles of a registry under an id. -/
def gpuProfilesNamed (snapshot : Snapshot) (profileId : Text) : List PolicyProfile :=
  snapshot.profiles.filter fun profile => profile.profileId = profileId ∧ profile.kind = .gpuCc

/-- `gpu_profile_from_registry`, with what the clock shows. -/
def gpuProfileFromRegistry (snapshot : Snapshot) (profileId : Text) (at_ : Option Instant)
    (clock : Instant) : ProfileChecked GpuProfile := do
  require (snapshot.signatureVerified = true)
    (invalidPolicy "GPU registry snapshot lacks verified signature provenance")
  let when_ := at_.getD clock
  require (snapshot.validFrom ≤ when_ ∧ when_ < snapshot.validUntil)
    (invalidPolicy "GPU registry is outside validity")
  let profile ← demand (.gpuAttestationError "profile_inactive" "GPU profile is not active")
    ((only (gpuProfilesNamed snapshot profileId)).filter fun profile =>
      profile.status = .active ∧ profile.eligibleAt when_)
  let metadata ← demand (invalidPolicy "GPU registry profile metadata is incomplete")
    ((membersOfJson profile.metadata).filter (hasExactly gpuRegistryMetadataKeys))
  require (Json.equalsText "tdx" (some (field metadata "cpu_kind")))
    (invalidPolicy "GPU profile requires Intel TDX")
  let identities ← stringSet metadata "expected_device_identity_digests"
  let models ← stringSet metadata "allowed_models"
  let ccModes ← stringSet metadata "allowed_cc_modes"
  let drivers ← stringSet metadata "allowed_drivers"
  let vbios ← stringSet metadata "allowed_vbios"
  let securityStates ← stringSet metadata "allowed_security_states"
  let cpuMeasurements ← stringSet metadata "allowed_cpu_measurements"
  let selected ← GpuProfile.make profile.profileId identities models ccModes drivers vbios
    securityStates cpuMeasurements (field metadata "verifier_digest") true (some snapshot.release)
    (some snapshot.digest)
  return { selected with
    registryValidFrom := some (max snapshot.validFrom profile.validFrom)
    registryValidUntil := some (min snapshot.validUntil profile.validUntil)
    registryVerified := true }

/-! ## The interval -/

/-- What a GPU profile says of the registry it was taken from. -/
structure TakenFrom (snapshot : Snapshot) (profileId : Text) (source : PolicyProfile)
    (profile : GpuProfile) : Prop where
  selected : gpuProfilesNamed snapshot profileId = [source]
  status : source.status = .active
  ready : profile.registryVerified = true ∧ profile.active = true ∧
    profile.registryRelease = some snapshot.release
  start : profile.registryValidFrom = some (max snapshot.validFrom source.validFrom)
  stop : profile.registryValidUntil = some (min snapshot.validUntil source.validUntil)

theorem eq_singleton_of_only {α : Type} {values : List α} {a : α} (one : only values = some a) :
    values = [a] := by
  unfold only at one
  split at one
  case h_1 b => rw [Option.some.inj one]
  case h_2 => cases one

theorem active_of_make {profileId : Text}
    {identities models ccModes drivers vbios securityStates cpuMeasurements : List Json}
    {verifierDigest : Json} {active : Bool} {release : Option ℤ} {digest : Option Text}
    {profile : GpuProfile}
    (made : GpuProfile.make profileId identities models ccModes drivers vbios securityStates
      cpuMeasurements verifierDigest active release digest = .ok profile) :
    profile.active = active ∧ profile.registryRelease = release := by
  simp only [GpuProfile.make, bind_eq_ok, pure_eq_ok] at made
  obtain ⟨_, -, _, -, _, -, _, -, _, -, _, -, _, -, _, -, _, -, _, -, rfl⟩ := made
  exact ⟨rfl, rfl⟩

theorem takenFrom_of_gpuProfileFromRegistry {snapshot : Snapshot} {profileId : Text}
    {at_ : Option Instant} {clock : Instant} {profile : GpuProfile}
    (taken : gpuProfileFromRegistry snapshot profileId at_ clock = .ok profile) :
    ∃ source, TakenFrom snapshot profileId source profile := by
  simp only [gpuProfileFromRegistry, bind_eq_ok, demand_eq_ok, require_eq_ok, pure_eq_ok,
    Option.filter_eq_some_iff, decide_eq_true_eq] at taken
  obtain ⟨_, -, _, -, source, ⟨one, status, -⟩, _, -, _, -, _, -, _, -, _, -, _, -, _, -, _, -,
    _, -, made, makes, rfl⟩ := taken
  obtain ⟨active, release⟩ := active_of_make makes
  exact ⟨source, {
    selected := eq_singleton_of_only one
    status := status
    ready := ⟨rfl, active, release⟩
    start := rfl
    stop := rfl }⟩

/-- The digest of a sound registry is only written down: a profile that is taken from the
registry under another digest is taken from it under its own. -/
theorem gpuProfileFromRegistry_of_digest {snapshot : Snapshot} {profileId digest : Text}
    {at_ : Option Instant} {clock : Instant} {profile : GpuProfile} (sound : snapshot.Sound)
    (taken : gpuProfileFromRegistry { snapshot with digest := digest } profileId at_ clock =
      .ok profile) :
    gpuProfileFromRegistry snapshot profileId at_ clock =
      .ok { profile with registryDigest := some snapshot.digest } := by
  have binding : checkBinding (some snapshot.release) (some snapshot.digest) = .ok () := by
    have isDigest : Text.isDigest "sha256:" snapshot.digest = true :=
      sound.digest ▸ isDigest_sha256Digest _
    have released : 0 < snapshot.release := sound.release.1
    simp [checkBinding, isDigest, released, bind_eq_ok, require_eq_ok]
  simp only [gpuProfileFromRegistry, GpuProfile.make, bind_eq_ok, pure_eq_ok] at taken ⊢
  obtain ⟨_, verified, _, open_, source, selected, metadata, listed, _, tdx, identities, h₁,
    models, h₂, ccModes, h₃, drivers, h₄, vbios, h₅, states, h₆, measurements, h₇, _,
    ⟨_, token, verifier, h₈, _, -, made⟩, rfl⟩ := taken
  obtain ⟨_, k₁, _, k₂, _, k₃, _, k₄, _, k₅, _, k₆, _, k₇, rfl⟩ := made
  exact ⟨_, verified, _, open_, source, selected, metadata, listed, _, tdx, identities, h₁,
    models, h₂, ccModes, h₃, drivers, h₄, vbios, h₅, states, h₆, measurements, h₇, _,
    ⟨_, token, verifier, h₈, _, binding, _, k₁, _, k₂, _, k₃, _, k₄, _, k₅, _, k₆, _, k₇, rfl⟩,
    rfl⟩

theorem productionReadyAt_iff {snapshot : Snapshot} {profileId : Text} {source : PolicyProfile}
    {profile : GpuProfile} {time : Instant}
    (sound : source.Sound snapshot.validFrom snapshot.validUntil)
    (taken : TakenFrom snapshot profileId source profile) :
    profile.productionReadyAt time = true ↔ source.validFrom ≤ time ∧ time < source.validUntil := by
  obtain ⟨verified, active, release⟩ := taken.ready
  obtain ⟨start, -, stop⟩ := sound.window
  simp [GpuProfile.productionReadyAt, verified, active, release, taken.start, taken.stop,
    max_eq_right start, min_eq_right stop]

/-- An active profile is eligible from its status change on. -/
theorem eligibleAt_of_active {source : PolicyProfile} {registryFrom registryUntil time : Instant}
    (sound : source.Sound registryFrom registryUntil) (active : source.status = .active) :
    source.eligibleAt time = true ↔ source.statusChangedAt ≤ time ∧ time < source.validUntil := by
  simp [PolicyProfile.eligibleAt, active, sound.changed.1]

theorem mem_gpuProfilesNamed {snapshot : Snapshot} {profileId : Text} {source : PolicyProfile}
    (selected : gpuProfilesNamed snapshot profileId = [source]) : source ∈ snapshot.profiles := by
  have member : source ∈ gpuProfilesNamed snapshot profileId := by rw [selected]; simp
  exact List.mem_of_mem_filter member

/-- **The profile's authority.** A GPU profile taken from a verified registry was made from
the only GPU profile of the registry under the id. While it is ready, that profile is
eligible, inside the window of the registry, from its last status change on and not before.
So it is eligible whenever the GPU profile is ready if and only if its status never changed
after its validity began. -/
theorem eligible_when_ready_iff {p : Platform} {ed : Ed25519 p} {trusted : Text → Option Bytes}
    {occasion : Occasion} {data : Bytes} {snapshot : Snapshot} {profileId : Text}
    {at_ : Option Instant} {clock : Instant} {profile : GpuProfile}
    (verified : verifyRegistry p ed trusted occasion data = .ok snapshot)
    (taken : gpuProfileFromRegistry snapshot profileId at_ clock = .ok profile) :
    ∃ source, gpuProfilesNamed snapshot profileId = [source] ∧
      (∀ time, profile.productionReadyAt time = true →
        ((source.eligibleAt time = true ∧ snapshot.validFrom ≤ time ∧
          time < snapshot.validUntil) ↔ source.statusChangedAt ≤ time)) ∧
      ((∀ time, profile.productionReadyAt time = true →
          source.eligibleAt time = true ∧ snapshot.validFrom ≤ time ∧ time < snapshot.validUntil) ↔
        source.statusChangedAt = source.validFrom) := by
  obtain ⟨source, made⟩ := takenFrom_of_gpuProfileFromRegistry taken
  have sound := (sound_of_verifyRegistry verified).profiles source
    (mem_gpuProfilesNamed made.selected)
  obtain ⟨start, open_, stop⟩ := sound.window
  obtain ⟨since, -⟩ := sound.changed
  have eligible : ∀ time, profile.productionReadyAt time = true →
      ((source.eligibleAt time = true ∧ snapshot.validFrom ≤ time ∧
        time < snapshot.validUntil) ↔ source.statusChangedAt ≤ time) := by
    intro time ready
    obtain ⟨from_, before⟩ := (productionReadyAt_iff sound made).mp ready
    rw [eligibleAt_of_active sound made.status]
    exact ⟨fun holds => holds.1.1, fun changed =>
      ⟨⟨changed, before⟩, start.trans from_, before.trans_le stop⟩⟩
  refine ⟨source, made.selected, eligible, fun always => ?_, fun same time ready => ?_⟩
  · -- At the start of its own window the profile is ready.
    have ready := (productionReadyAt_iff sound made).mpr ⟨le_rfl, open_⟩
    exact ((eligible _ ready).mp (always _ ready)).antisymm since
  · have from_ := ((productionReadyAt_iff sound made).mp ready).1
    exact (eligible time ready).mpr (same.trans_le from_)

namespace SampleRegistry

open PolicyRegistry.SampleRegistry

/-- Noon of the first day of 2026, a day before the sample profile became active. -/
def eve : Instant := (63902908800 - 43200) * 1000000

/-- At noon the profile of the registry is taken, and it calls itself ready the day before.
The digest of the registry is left out of the computation. -/
theorem ready_before_change : ((verifyMembers platform ed25519 trusted occasion
    (sortedMembers members)).toOption.any fun snapshot =>
      (gpuProfileFromRegistry { snapshot with digest := zeroDigest } "gpu-a" (some noon)
        noon).toOption.any fun profile =>
          profile.productionReadyAt eve && (gpuProfilesNamed snapshot "gpu-a").all fun source =>
            !source.eligibleAt eve) = true := by
  decide +kernel

theorem exists_profile : ∃ snapshot profile,
    verifyRegistry platform ed25519 trusted occasion data = .ok snapshot ∧
      gpuProfileFromRegistry snapshot "gpu-a" (some noon) noon = .ok profile ∧
      profile.productionReadyAt eve = true ∧
      ∀ source ∈ gpuProfilesNamed snapshot "gpu-a", source.eligibleAt eve = false := by
  obtain ⟨snapshot, verified, rest⟩ := exists_of_any ready_before_change
  obtain ⟨profile, taken, rest⟩ := exists_of_any rest
  obtain ⟨ready, sources⟩ := (Bool.and_eq_true _ _).mp rest
  have verified := verifyRegistry_data.trans verified
  refine ⟨snapshot, _, verified,
    gpuProfileFromRegistry_of_digest (sound_of_verifyRegistry verified) taken, ready,
    fun source member => ?_⟩
  simpa using List.all_eq_true.mp sources source member

end SampleRegistry

open SampleRegistry PolicyRegistry.SampleRegistry

/-- The sample profile, active from the second day of 2026 on, was made from one profile of
its registry. -/
theorem eligible_when_ready_iff_sample : ∃ snapshot profile source,
    verifyRegistry platform ed25519 trusted occasion data = .ok snapshot ∧
      gpuProfileFromRegistry snapshot "gpu-a" (some noon) noon = .ok profile ∧
      gpuProfilesNamed snapshot "gpu-a" = [source] ∧
      ((∀ time, profile.productionReadyAt time = true →
          source.eligibleAt time = true ∧ snapshot.validFrom ≤ time ∧ time < snapshot.validUntil) ↔
        source.statusChangedAt = source.validFrom) := by
  obtain ⟨snapshot, profile, verified, taken, -, -⟩ := exists_profile
  obtain ⟨source, selected, -, always⟩ := eligible_when_ready_iff verified taken
  exact ⟨snapshot, profile, source, verified, taken, selected, always⟩

/-- The day before its status change the sample profile is ready and not eligible. -/
theorem ready_while_not_eligible : ∃ snapshot profile source,
    verifyRegistry platform ed25519 trusted occasion data = .ok snapshot ∧
      gpuProfileFromRegistry snapshot "gpu-a" (some noon) noon = .ok profile ∧
      gpuProfilesNamed snapshot "gpu-a" = [source] ∧
      profile.productionReadyAt eve = true ∧ source.eligibleAt eve = false := by
  obtain ⟨snapshot, profile, verified, taken, ready, ineligible⟩ := exists_profile
  obtain ⟨source, made⟩ := takenFrom_of_gpuProfileFromRegistry taken
  have member : source ∈ gpuProfilesNamed snapshot "gpu-a" := by
    rw [made.selected]
    exact List.mem_singleton_self source
  exact ⟨snapshot, profile, source, verified, taken, made.selected, ready,
    ineligible source member⟩

end Cathedral.Gpu
