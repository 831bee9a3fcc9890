import CathedralCompute.Gpu.Identities

/-!
# The generation anchor

A file of two slots beside the database holds the last generations it reached. A
slot is one line of JSON with a generation and its keyed digest, filled up with
zeros; even generations go to the first slot and odd ones to the second. A slot
that cannot be read counts as empty, and the anchor is the larger of what the
slots hold.

A database is accepted when its own digest is right and its generation is the
anchor's or one more. In the second case the anchor is brought up to date, which
overwrites the slot of the generation before.
-/

set_option autoImplicit false

namespace Cathedral.Gpu

open Codec Semantics

/-! ## Slots -/

/-- `_IDENTITY_ANCHOR_SLOT_BYTES`. -/
def anchorSlotBytes : ℕ := 256

/-- `_IDENTITY_ANCHOR_SLOTS`. -/
def anchorSlots : ℕ := 2

/-- `_IDENTITY_ANCHOR_BYTES`. -/
def anchorBytes : ℕ := anchorSlotBytes * anchorSlots

/-- The octets of a slot. -/
def slotAt (raw : Bytes) (index : ℕ) : Bytes :=
  (raw.drop (index * anchorSlotBytes)).take anchorSlotBytes

/-- The file with a slot overwritten. -/
def writeSlot (raw : Bytes) (index : ℕ) (slot : Bytes) : Bytes :=
  raw.take (index * anchorSlotBytes) ++ slot ++ raw.drop ((index + 1) * anchorSlotBytes)

/-- `rstrip(b"\0")`. -/
def rstripZeros (octets : Bytes) : Bytes := (octets.reverse.dropWhile (· = 0)).reverse

/-- `ljust(_IDENTITY_ANCHOR_SLOT_BYTES, b"\0")`. -/
def padSlot (octets : Bytes) : Bytes :=
  octets ++ List.replicate (anchorSlotBytes - octets.length) 0

namespace IdentityRegistry

/-- `_generation_anchor_mac`. -/
def generationAnchorMac (r : IdentityRegistry) (generation : ℕ) : Text :=
  r.keyedDigest "cathedral-gpu-identity-generation-v1\x00" (natText generation).ascii

/-- The document of a slot. -/
def anchorDocument (r : IdentityRegistry) (generation : ℕ) : Json := .obj
  [("generation", .int generation), ("mac", .str (r.generationAnchorMac generation))]

/-- The line of a slot before it is filled up. -/
def encodedLine (r : IdentityRegistry) (generation : ℕ) : Bytes :=
  (r.jsonText (r.anchorDocument generation)).ascii ++ [0x0a]

/-- `_generation_anchor_line`. -/
def generationAnchorLine (r : IdentityRegistry) (generation : ℕ) : Except Failure Bytes := do
  require ((r.encodedLine generation).length ≤ anchorSlotBytes)
    (configInvalid "GPU identity generation anchor is invalid")
  return padSlot (r.encodedLine generation)

/-- The generation of a document, if it is one for the slot and its digest is
right. -/
def slotGeneration (r : IdentityRegistry) (index : ℕ) (document : Json) : Option ℕ := do
  let members ← membersOfJson document
  let generation ← (Json.lookup "generation" members).bind intOfJson
  let mac ← (Json.lookup "mac" members).bind textOfJson
  if (∀ member ∈ members, member.1 = Text.ofString "generation" ∨
        member.1 = Text.ofString "mac") ∧
      0 ≤ generation ∧ generation ≤ maxIdentityGeneration ∧ generation % anchorSlots = index ∧
      mac = r.generationAnchorMac generation.toNat then
    return generation.toNat
  else none

/-- What a slot holds; `none` where it is empty or cannot be read. -/
def readSlot (r : IdentityRegistry) (index : ℕ) (slot : Bytes) : Option ℕ :=
  let line := rstripZeros slot
  if line.getLast? = some 0x0a then do
    let document ← loads (defaultHooks r.platform) (← asciiDecode line)
    r.slotGeneration index document
  else none

/-- `_read_generation_anchor`. -/
def readGenerationAnchor (r : IdentityRegistry) (raw : Bytes) : Except Failure ℕ := do
  require (raw.length = anchorBytes) (configInvalid "GPU identity generation anchor is invalid")
  match (List.range anchorSlots).filterMap fun index => r.readSlot index (slotAt raw index) with
  | [] => .error (configInvalid "GPU identity generation anchor is invalid")
  | [generation] => return generation
  | first :: second :: _ => do
    require (first = second + 1 ∨ second = first + 1)
      (configInvalid "GPU identity generation anchor is invalid")
    return max first second

end IdentityRegistry

/-! ## The disk -/

/-- The database file and the anchor file. -/
structure Disk where
  database : Database
  anchor : Bytes

/-- A durable write. -/
inductive DiskWrite where
  | database (db : Database)
  | anchorSlot (index : ℕ) (slot : Bytes)

def Disk.apply (disk : Disk) : DiskWrite → Disk
  | .database db => { disk with database := db }
  | .anchorSlot index slot => { disk with anchor := writeSlot disk.anchor index slot }

/-- The disk after writes in turn. -/
def Disk.applyAll (disk : Disk) (writes : List DiskWrite) : Disk := writes.foldl Disk.apply disk

namespace IdentityRegistry

/-- `_append_generation_anchor`: the write it makes. -/
def appendGenerationAnchor (r : IdentityRegistry) (previous generation : ℕ) (raw : Bytes) :
    Except Failure DiskWrite := do
  let current ← r.readGenerationAnchor raw
  require (current = previous ∧ generation = previous + 1)
    (configInvalid "GPU identity database generation changed")
  let encoded ← r.generationAnchorLine generation
  return .anchorSlot (generation % anchorSlots) encoded

/-- `_verify_authenticated_state`: the generation it accepts, and the write it
makes. -/
def verifyAuthenticatedState (r : IdentityRegistry) (disk : Disk) :
    Except Failure (ℕ × List DiskWrite) := do
  let db := disk.database
  require (db.identityKeyCheck = r.expectedKeyCheck ∧
      db.databaseGeneration ≤ maxIdentityGeneration ∧
      db.claimsStateMac = r.stateMac db db.databaseGeneration)
    (configInvalid "GPU identity registry authenticated state changed")
  let anchorGeneration ← r.readGenerationAnchor disk.anchor
  if db.databaseGeneration = anchorGeneration + 1 then
    let write ← r.appendGenerationAnchor anchorGeneration db.databaseGeneration disk.anchor
    return (db.databaseGeneration, [write])
  else
    require (db.databaseGeneration = anchorGeneration)
      (configInvalid "GPU identity registry authenticated state changed")
    return (db.databaseGeneration, [])

end IdentityRegistry

/-! ## Calls -/

/-- What is asked of the registry: to open it, to read from it, or to change it.
Tokens, event identifiers and times are what the call draws. -/
inductive Op where
  | openRegistry
  | read
  | beginExclusiveReservation (hotkey : Text) (verdict : ComponentVerdict) (occurred token : Text)
  | beginClaim (hotkey : Text) (verdict : ComponentVerdict) (occurred token : Text)
  | commitClaim (pending : PendingClaim)
  | rollbackClaim (pending : PendingClaim)
  | releaseWorker (hotkey reason eventId releasedAt : Text)
  | recoverInterrupted (reason eventId recoveredAt : Text)

/-- The transaction of a call: the database it commits, if it commits one. -/
def Op.transact (r : IdentityRegistry) (db : Database) : Op → Except Failure (Option Database)
  | openRegistry => do
    require (∀ row ∈ db.claims.rows, row.claimToken = none)
      (recoveryRequired "GPU identity registry contains an interrupted admission")
    return none
  | read => .ok none
  | beginExclusiveReservation hotkey verdict occurred token =>
    (r.beginExclusiveReservation hotkey verdict occurred token db).map fun result => some result.2
  | beginClaim hotkey verdict occurred token =>
    (r.beginClaim hotkey verdict occurred token db).map fun result => some result.2
  | commitClaim pending => (r.commitClaim pending db).map some
  | rollbackClaim pending => (r.rollbackClaim pending db).map some
  | releaseWorker hotkey reason eventId releasedAt =>
    (r.releaseWorker hotkey reason eventId releasedAt db).map some
  | recoverInterrupted reason eventId recoveredAt =>
    (r.recoverInterrupted reason eventId recoveredAt db).map some

/-- The writes of a call in order, with its outcome. -/
structure Outcome where
  writes : List DiskWrite
  result : Except Failure Unit

/-- After the transaction: commit, and bring the anchor up to date. -/
def finishCall (r : IdentityRegistry) (disk : Disk) (writes : List DiskWrite) :
    Except Failure (Option Database) → Outcome
  | .error failure => ⟨writes, .error failure⟩
  | .ok none => ⟨writes, .ok ()⟩
  | .ok (some db) =>
    let stored := writes ++ [.database db]
    match r.verifyAuthenticatedState (disk.applyAll stored) with
    | .error failure => ⟨stored, .error failure⟩
    | .ok (_, last) => ⟨stored ++ last, .ok ()⟩

/-- `_connect` around the transaction of a call. The check is made before the
transaction and again inside of it, where it finds nothing more to write; the
constructor makes it once. -/
def Op.call (r : IdentityRegistry) (op : Op) (disk : Disk) : Outcome :=
  match r.verifyAuthenticatedState disk with
  | .error failure => ⟨[], .error failure⟩
  | .ok (_, first) =>
    match r.verifyAuthenticatedState (disk.applyAll first) with
    | .error failure => ⟨first, .error failure⟩
    | .ok (_, second) =>
      let writes := first ++ second
      finishCall r disk writes (op.transact r (disk.applyAll writes).database)

/-! ## Runs -/

/-- A call that runs to its end, or dies after some of its writes, with the slot
it was writing torn if there is one. -/
inductive Step where
  | call (op : Op)
  | crash (op : Op) (done : ℕ) (torn : Option Bytes)

/-- The disk with the slot of an interrupted write torn. -/
def Disk.tear (disk : Disk) : Option DiskWrite → Option Bytes → Disk
  | some (.anchorSlot index _), some slot => disk.apply (.anchorSlot index slot)
  | _, _ => disk

def Step.run (r : IdentityRegistry) (disk : Disk) : Step → Disk
  | call op => disk.applyAll (op.call r disk).writes
  | crash op done torn =>
    let writes := (op.call r disk).writes
    (disk.applyAll (writes.take done)).tear writes[done]? torn

/-- A registry just created, by `_create_generation_anchor` and the first
transaction of `__init__`. -/
def Disk.initial (r : IdentityRegistry) : Disk :=
  let empty : Database := ⟨.empty, .empty, r.expectedKeyCheck, [], 0⟩
  { database := { empty with claimsStateMac := r.stateMac empty 0 }
    anchor := padSlot (r.encodedLine 0) ++ List.replicate anchorSlotBytes 0 }

/-- The disk after a sequence of steps. -/
abbrev runSteps (r : IdentityRegistry) (disk : Disk) (steps : List Step) : Disk :=
  Semantics.run (Step.run r) disk steps

end Cathedral.Gpu
