import CathedralCompute.PolicyRegistry.Snapshot

/-!
# The last accepted registry

A database keeps one row about the last registry that was accepted: its release and digest,
when it was published, and what it said of every profile and receipt key, the latter as two
JSON texts. `accept` compares a verified registry with that row and replaces it.

## Main definitions

* `StateRow`, `RegistryState.accept` — the row, and the transaction that replaces it
* `decodeProfileStates`, `decodeReceiptKeyStates` — the readers of its texts
* `ProfileStatus.next`, `KeyStatus.next` — the transitions
-/

set_option autoImplicit false

namespace Cathedral.PolicyRegistry

open Codec Semantics

/-! ## States of profiles and keys -/

/-- `_TRANSITIONS`. -/
def ProfileStatus.next : ProfileStatus → List ProfileStatus
  | active => [active, retiring, revoked]
  | retiring => [retiring, retired, revoked]
  | retired => [retired]
  | revoked => [revoked]

/-- `_RECEIPT_KEY_TRANSITIONS`. -/
def KeyStatus.next : KeyStatus → List KeyStatus
  | active => [active, retired, revoked]
  | retired => [retired, revoked]
  | revoked => [revoked]

/-- What a row says of a profile. -/
structure ProfileState where
  status : ProfileStatus
  statusChangedAt : Text
deriving DecidableEq

/-- What a row says of a receipt key. -/
structure KeyState where
  status : KeyStatus
  statusChangedAt : Text
  publicKeyBase64 : Text
  validFrom : Text
  validUntil : Text
deriving DecidableEq

def PolicyProfile.state (profile : PolicyProfile) : ProfileState where
  status := profile.status
  statusChangedAt := Instant.strftimeSecond profile.statusChangedAt

def ReceiptVerificationKey.state (key : ReceiptVerificationKey) : KeyState where
  status := key.status
  statusChangedAt := Instant.strftimeSecond key.statusChangedAt
  publicKeyBase64 := base64 key.publicKey
  validFrom := Instant.strftimeSecond key.validFrom
  validUntil := Instant.strftimeSecond key.validUntil

/-- The `states` of a registry. -/
def Snapshot.profileStates (snapshot : Snapshot) : List (Text × ProfileState) :=
  snapshot.profiles.map fun profile => (profile.profileId, profile.state)

/-- The `key_states` of a registry. -/
def Snapshot.keyStates (snapshot : Snapshot) : List (Text × KeyState) :=
  snapshot.receiptSigningKeys.map fun key => (key.keyId, key.state)

/-! ## Their texts -/

def ProfileState.document (state : ProfileState) : List (Text × Json) :=
  [("status", .str state.status.value), ("status_changed_at", .str state.statusChangedAt)]

def ProfileState.json (state : ProfileState) : Json := .obj state.document

def KeyState.document (state : KeyState) : List (Text × Json) :=
  [("status", .str state.status.value), ("status_changed_at", .str state.statusChangedAt),
    ("public_key_base64", .str state.publicKeyBase64), ("valid_from", .str state.validFrom),
    ("valid_until", .str state.validUntil)]

def KeyState.json (state : KeyState) : Json := .obj state.document

section States

variable {α : Type}

/-- The object of states under their ids. -/
def statesJson (json : α → Json) (states : List (Text × α)) : Json :=
  .obj (states.map fun entry => (entry.1, json entry.2))

/-- `canonical_json(states).decode("ascii")`. -/
def statesText (p : Platform) (json : α → Json) (states : List (Text × α)) : Checked Text :=
  demand (.policyRegistryError "registry contains a non-canonical value")
    (if (statesJson json states).dumpable then
      some ((statesJson json states).sortKeys.render (compactStyle p)) else none)

/-- What the decoders of a row share: the bounds of the text, the object it holds, and an
id for each of its members. -/
def statesOf (p : Platform) (invalid : Text) (read : Json → Checked α) (text : Text) :
    Checked (List (Text × α)) := do
  let octets ← encoded text
  require (octets.length ≤ maxRegistryBytes) (.policyRegistryError invalid)
  let document ← demand (.policyRegistryError invalid) (loads (strictHooks p) text)
  let members ← demand (.policyRegistryError invalid) (membersOfJson document)
  members.mapM fun member => do
    require (isRegistryId member.1) (.policyRegistryError invalid)
    let state ← read member.2
    return (member.1, state)

end States

/-- A text of a row that is a time. -/
def timeText (p : Platform) (value : Json) (name : Text) : Checked Text := do
  let _ ← timestamp p value name
  return (textOfJson value).getD []

def profileStateInvalid : Text := "persisted registry profile state is invalid"

def keyStateInvalid : Text := "persisted receipt key state is invalid"

/-- A member of the object as `_decode_profile_states` reads it. -/
def profileStateOf (p : Platform) (value : Json) : Checked ProfileState := do
  let members ← demand (.policyRegistryError profileStateInvalid)
    ((membersOfJson value).filter (hasExactly ["status", "status_changed_at"]))
  let status ← demand (.policyRegistryError profileStateInvalid)
    ((textOfJson (field members "status")).bind fun t =>
      (profileStatuses.find? fun option => option.1 = t).map Prod.snd)
  let changed ← timeText p (field members "status_changed_at")
    "persisted profile status_changed_at"
  return ⟨status, changed⟩

/-- `PolicyRegistryState._decode_profile_states`. -/
def decodeProfileStates (p : Platform) (text : Text) : Checked (List (Text × ProfileState)) :=
  statesOf p profileStateInvalid (profileStateOf p) text

/-- A member of the object as `_decode_receipt_key_states` reads it. -/
def keyStateOf (p : Platform) (value : Json) : Checked KeyState := do
  let members ← demand (.policyRegistryError keyStateInvalid)
    ((membersOfJson value).filter (hasExactly
      ["status", "status_changed_at", "public_key_base64", "valid_from", "valid_until"]))
  let status ← demand (.policyRegistryError keyStateInvalid)
    ((textOfJson (field members "status")).bind fun t =>
      (keyStatuses.find? fun option => option.1 = t).map Prod.snd)
  let publicKey ← octetsOf (field members "public_key_base64") 32 keyStateInvalid keyStateInvalid
  let changed ← timeText p (field members "status_changed_at")
    "persisted receipt key status_changed_at"
  let validFrom ← timestamp p (field members "valid_from") "persisted receipt key valid_from"
  let validUntil ← timestamp p (field members "valid_until") "persisted receipt key valid_until"
  require (validFrom < validUntil) (.policyRegistryError keyStateInvalid)
  return {
    status
    statusChangedAt := changed
    publicKeyBase64 := base64 publicKey
    validFrom := (textOfJson (field members "valid_from")).getD []
    validUntil := (textOfJson (field members "valid_until")).getD [] }

/-- `PolicyRegistryState._decode_receipt_key_states`. -/
def decodeReceiptKeyStates (p : Platform) (text : Text) : Checked (List (Text × KeyState)) :=
  statesOf p keyStateInvalid (keyStateOf p) text

/-! ## The row -/

/-- The row of `policy_registry_state`. -/
structure StateRow where
  release : ℤ
  digest : Text
  profileStatesJson : Text
  receiptKeyStatesJson : Text
  acceptedAt : Text
  /-- Empty in a row written before the column existed. -/
  generatedAt : Text

/-- `PolicyRegistryState`, apart from the path of its database. -/
structure RegistryState where
  minimumRelease : Option ℤ
  pinned : Option (ℤ × Text)

/-- `PolicyRegistryState.__init__`. -/
def RegistryState.make (productionMode : Bool) (minimumRelease pinnedRelease : Option ℤ)
    (pinnedDigest : Option Text) : Checked RegistryState := do
  require (productionMode = false ∨ minimumRelease ≠ none ∨ pinnedRelease ≠ none)
    (.policyRegistryError "production registry bootstrap requires a minimum or pinned release")
  require (∀ release ∈ minimumRelease, 0 < release ∧ release ≤ maxSqliteInteger)
    (.policyRegistryError "minimum release must be positive")
  require (pinnedRelease.isNone = pinnedDigest.isNone)
    (.policyRegistryError "pinned release and digest must be supplied together")
  require (∀ release ∈ pinnedRelease, 0 < release ∧ release ≤ maxSqliteInteger ∧
      pinnedDigest.any (Text.isDigest "sha256:"))
    (.policyRegistryError "pinned checkpoint is invalid")
  return {
    minimumRelease
    pinned := pinnedRelease.bind fun release => pinnedDigest.map fun digest => (release, digest) }

/-- The row of an accepted registry. -/
def Snapshot.row (p : Platform) (snapshot : Snapshot) (clock : Instant) : Checked StateRow := do
  let profiles ← statesText p ProfileState.json snapshot.profileStates
  let keys ← statesText p KeyState.json snapshot.keyStates
  return {
    release := snapshot.release
    digest := snapshot.digest
    profileStatesJson := profiles
    receiptKeyStatesJson := keys
    acceptedAt := Instant.strftimeSecond clock
    generatedAt := Instant.strftimeSecond snapshot.generatedAt }

/-- What a status and the time it changed at must satisfy: `noun` is what has the status. -/
def checkMove {σ : Type} [DecidableEq σ] (next : σ → List σ) (noun : Text) (id : Text)
    (status status' : σ) (changed changed' : Text) : Checked Unit := do
  require (status' ∈ next status)
    (.policyRegistryError (Text.ofString "invalid " ++ noun ++ Text.ofString " transition for " ++ id))
  require (status' = status → changed' = changed)
    (.policyRegistryError (Text.ofString "unchanged " ++ noun ++
      Text.ofString " rewrote transition time for " ++ id))
  require (status' ≠ status → changed < changed')
    (.policyRegistryError (noun ++ Text.ofString " transition time did not advance for " ++ id))

/-- A profile of the row, in the new registry. -/
def checkProfile (states : List (Text × ProfileState)) (prior : Text × ProfileState) :
    Checked Unit := do
  let state ← demand (.policyRegistryError "registry cannot remove a historical profile")
    ((states.find? fun entry => entry.1 = prior.1).map Prod.snd)
  checkMove ProfileStatus.next "profile" prior.1 prior.2.status state.status
    prior.2.statusChangedAt state.statusChangedAt

/-- A receipt key of the row, in the new registry. -/
def checkKey (states : List (Text × KeyState)) (prior : Text × KeyState) : Checked Unit := do
  let state ← demand (.policyRegistryError "registry cannot remove a historical receipt key")
    ((states.find? fun entry => entry.1 = prior.1).map Prod.snd)
  require (state.publicKeyBase64 = prior.2.publicKeyBase64)
    (.policyRegistryError (Text.ofString "receipt key material changed for " ++ prior.1))
  require (state.validFrom = prior.2.validFrom ∧ state.validUntil = prior.2.validUntil)
    (.policyRegistryError (Text.ofString "receipt key validity window changed for " ++ prior.1))
  checkMove KeyStatus.next "receipt key" prior.1 prior.2.status state.status
    prior.2.statusChangedAt state.statusChangedAt

/-- The publication time may not move backwards. -/
def checkPublication (p : Platform) (generatedAt : Text) (snapshot : Snapshot) :
    Checked Unit :=
  checkIf (generatedAt ≠ []) (do
    let prior ← timestamp p (.str generatedAt) "persisted registry generated_at"
    require (prior ≤ snapshot.generatedAt)
      (.policyRegistryError "registry publication time moved backwards"))

/-- The checks of a registry with another release than the row. -/
def checkSuccessor (p : Platform) (prior : StateRow) (profiles : List (Text × ProfileState))
    (keys : List (Text × KeyState)) (snapshot : Snapshot) : Checked Unit := do
  require (prior.release ≤ snapshot.release) (.policyRegistryError "registry rollback rejected")
  checkPublication p prior.generatedAt snapshot
  let _ ← profiles.mapM (checkProfile snapshot.profileStates)
  require (∀ entry ∈ snapshot.profileStates, entry.1 ∉ profiles.map Prod.fst →
      entry.2.status = .active)
    (.policyRegistryError "new registry profile must begin active")
  let _ ← keys.mapM (checkKey snapshot.keyStates)
  require (∀ entry ∈ snapshot.keyStates, entry.1 ∉ keys.map Prod.fst → entry.2.status = .active)
    (.policyRegistryError "new receipt signing key must begin active")

/-- A registry with the release of the row: only the publication time is filled in. -/
def StateRow.replay (prior : StateRow) (snapshot : Snapshot) : Checked StateRow := do
  require (snapshot.digest = prior.digest) (.policyRegistryError "registry release was equivocated")
  return if prior.generatedAt = [] then
    { prior with generatedAt := Instant.strftimeSecond snapshot.generatedAt } else prior

/-- The transaction of `accept`. -/
def acceptInto (p : Platform) (state : RegistryState) (snapshot : Snapshot) (clock : Instant) :
    Option StateRow → Checked StateRow
  | none => do
    require (∀ pin ∈ state.pinned, snapshot.release = pin.1 ∧ snapshot.digest = pin.2)
      (.policyRegistryError "fresh state must bootstrap from the pinned checkpoint")
    snapshot.row p clock
  | some prior => do
    let profiles ← decodeProfileStates p prior.profileStatesJson
    let keys ← decodeReceiptKeyStates p prior.receiptKeyStatesJson
    if snapshot.release = prior.release then prior.replay snapshot
    else do
      checkSuccessor p prior profiles keys snapshot
      snapshot.row p clock

/-- `PolicyRegistryState.accept`, with what the clock shows. -/
def RegistryState.accept (p : Platform) (state : RegistryState) (snapshot : Snapshot)
    (clock : Instant) (row : Option StateRow) : Checked StateRow := do
  require (∀ minimum ∈ state.minimumRelease, minimum ≤ snapshot.release)
    (.policyRegistryError "registry release is below the configured minimum")
  acceptInto p state snapshot clock row

end Cathedral.PolicyRegistry
