import CathedralCompute.Registry.RegistryJson
import CathedralCompute.Sample

/-!
# Transactions on the evidence index

Exporters publish the signed index under an exclusive lock. A publication writes two
files, one after the other: the index, and a high-water file with its latest pointer.
Each of them is checked before a publication, and the high-water file is there for
the case that the index cannot be read.

A crash between the two writes leaves the high-water file behind the index. If the
index then becomes unreadable, nothing remembers its latest pointer.

## Main definitions

* `latestOf`, `publish` — the latest pointer of an index, and its publication
* `IndexWorld.step` — publications with crashes, and damage to the index

## Main results

* `latest_monotone` — the pointers that were ever written never go back, as long as
  the index is not lost while the high-water file is behind it
* `not_latest_monotone_crashed` — the run that goes back
-/

set_option autoImplicit false

namespace Cathedral.Provenance

open Codec Semantics

/-- A source epoch and the digest of its manifest. -/
abbrev LatestPointer := ℤ × Text

/-- `_latest_of`; `none` where a step of it raises. -/
def latestOf (p : Platform) (indexBytes : Bytes) : Option LatestPointer := do
  let document ← parseRegistryJson indexBytes
  let latest ← (Json.lookup "latest" document).bind membersOfJson
  let epoch ← (Json.lookup "source_epoch" latest).bind p.intOf
  let manifest ← Json.lookup "manifest" latest
  return (epoch, p.textOf manifest)

/-- `index.json` and `.index-highwater.json`; the second one as `read_highwater` reads
what `publish` writes. -/
structure IndexFiles where
  index : Option Bytes
  highwater : Option LatestPointer

/-- What a pointer may follow: an older epoch, or the same pointer. -/
def requireAfter (older other : Text) (stored : Option LatestPointer) (new : LatestPointer) :
    Except Failure Unit :=
  match stored with
  | none => .ok ()
  | some stored => do
    require (stored.1 ≤ new.1) (.evidenceError older)
    require (new.1 = stored.1 → new.2 = stored.2) (.evidenceError other)

/-- The latest pointer of the index on disk, if it is another index. -/
def currentLatest (p : Platform) (files : IndexFiles) (indexBytes : Bytes) :
    Option LatestPointer :=
  files.index.bind fun current => if current ≠ indexBytes then latestOf p current else none

/-- The checks of `publish`; the pointer that is to be published. -/
def checkPublish (p : Platform) (files : IndexFiles) (indexBytes : Bytes) :
    Except Failure LatestPointer := do
  let newLatest ← demand (.evidenceError "refusing to publish a structurally invalid index")
    (latestOf p indexBytes)
  requireAfter ("refusing to publish an index older than the durable " ++
      "high-water (corrupt-index recovery must not roll back)")
    "refusing to equivocate the durable high-water manifest" files.highwater newLatest
  requireAfter "refusing to publish an index whose latest epoch moves backwards"
    "refusing to equivocate the index latest manifest" (currentLatest p files indexBytes) newLatest
  return newLatest

/-! ## Runs -/

/-- The files, and the pointers that were ever written into the index, latest first. -/
structure IndexWorld where
  files : IndexFiles
  written : List LatestPointer

/-- A transaction on the index, or something that makes the index unreadable between
two transactions. -/
inductive IndexOp where
  /-- `publish`. It may stop between the two writes. -/
  | publish (indexBytes : Bytes) (stops : Bool)
  /-- The index is replaced by something without a latest pointer, or lost. -/
  | damage (content : Option Bytes)

namespace IndexWorld

/-- `publish` on the files. -/
def publish (p : Platform) (indexBytes : Bytes) (stops : Bool) (w : IndexWorld) :
    Except Failure IndexWorld := do
  let newLatest ← checkPublish p w.files indexBytes
  return {
    files := ⟨some indexBytes, if stops then w.files.highwater else some newLatest⟩
    written := newLatest :: w.written }

def step (p : Platform) (w : IndexWorld) : IndexOp → IndexWorld
  | .publish indexBytes stops => settle w (w.publish p indexBytes stops)
  | .damage content =>
    if content.bind (latestOf p) = none then { w with files := { w.files with index := content } }
    else w

/-- An empty store. -/
def start : IndexWorld := ⟨⟨none, none⟩, []⟩

end IndexWorld

/-! ## Pointers that do not go back -/

/-- One pointer may follow another. -/
def Follows (new old : LatestPointer) : Prop := old.1 ≤ new.1 ∧ (new.1 = old.1 → new.2 = old.2)

theorem Follows.trans {a b c : LatestPointer} (first : Follows b a) (second : Follows c b) :
    Follows c a := by
  refine ⟨first.1.trans second.1, fun level => ?_⟩
  have middle : b.1 = a.1 := le_antisymm (second.1.trans_eq level) first.1
  exact (second.2 (level.trans middle.symm)).trans (first.2 middle)

theorem Follows.refl (pointer : LatestPointer) : Follows pointer pointer := ⟨le_rfl, fun _ => rfl⟩

theorem requireAfter_eq_ok {older other : Text} {stored : Option LatestPointer}
    {new : LatestPointer} {u : Unit} :
    requireAfter older other stored new = .ok u ↔ ∀ old ∈ stored, Follows new old := by
  unfold requireAfter Follows
  cases stored <;> simp

/-- The pointer of the index that is lost is in the high-water file. -/
def IndexOp.Kept (p : Platform) (w : IndexWorld) : IndexOp → Prop
  | .publish _ _ => True
  | .damage _ => ∀ latest ∈ w.files.index.bind (latestOf p), w.files.highwater = some latest

/-- The last pointer that was written is in the index or in the high-water file, and
no pointer went back. -/
structure IndexWorld.Sound (p : Platform) (w : IndexWorld) : Prop where
  index : ∀ latest ∈ w.files.index.bind (latestOf p), w.written.head? = some latest
  highwater : w.files.index.bind (latestOf p) = none → w.files.highwater = w.written.head?
  ordered : w.written.Pairwise Follows

variable {p : Platform}

theorem sound_publish {w w' : IndexWorld} {indexBytes : Bytes} {stops : Bool}
    (sound : w.Sound p) (published : w.publish p indexBytes stops = .ok w') : w'.Sound p := by
  simp only [IndexWorld.publish, checkPublish, bind_eq_ok, pure_eq_ok, demand_eq_ok,
    requireAfter_eq_ok] at published
  obtain ⟨_, ⟨new, read, _, highwater, _, current, rfl⟩, rfl⟩ := published
  have latest : (some indexBytes).bind (latestOf p) = some new := read
  have last : ∀ old ∈ w.written.head?, Follows new old := by
    intro old head
    cases found : w.files.index.bind (latestOf p) with
    | none => exact highwater old ((sound.highwater found).trans head)
    | some pointer =>
      obtain rfl : pointer = old :=
        Option.some.inj ((sound.index pointer found).symm.trans head)
      obtain ⟨bytes, present, held⟩ := Option.bind_eq_some_iff.mp found
      by_cases same : bytes = indexBytes
      · rw [same, read] at held
        cases held
        exact .refl _
      · refine current pointer ?_
        rw [currentLatest, present, Option.bind_some, if_pos same]
        exact held
  refine ⟨?_, ?_, ?_⟩
  · intro pointer found
    exact (latest.symm.trans found) ▸ rfl
  · intro impossible
    rw [latest] at impossible
    cases impossible
  · refine List.pairwise_cons.mpr ⟨fun old listed => ?_, sound.ordered⟩
    -- the last pointer follows every earlier one
    cases shape : w.written with
    | nil =>
      rw [shape] at listed
      cases listed
    | cons first rest =>
      have follows := last first (by rw [shape]; rfl)
      rw [shape] at listed
      rcases List.mem_cons.mp listed with rfl | earlier
      · exact follows
      · have ordered := sound.ordered
        rw [shape] at ordered
        exact ((List.pairwise_cons.mp ordered).1 old earlier).trans follows

theorem sound_indexStep (w : IndexWorld) (op : IndexOp) (sound : w.Sound p) (kept : op.Kept p w) :
    (w.step p op).Sound p := by
  cases op with
  | publish indexBytes stops => exact settle_of_ok sound fun _ => sound_publish sound
  | damage content =>
    simp only [IndexWorld.step]
    split
    · next unreadable =>
      refine ⟨fun latest found => ?_, fun _ => ?_, sound.ordered⟩
      · rw [unreadable] at found
        cases found
      · cases found : w.files.index.bind (latestOf p) with
        | none => exact sound.highwater found
        | some latest => exact (kept latest found).trans (sound.index latest found).symm
    · exact sound

/-- **The latest pointer.** In every run of publications, with crashes between their
writes and damage to the index, in which the index is not lost while the high-water
file is behind it: the pointers ever written into the index have epochs that do not
decrease, and two of one epoch have one manifest. -/
theorem latest_monotone (p : Platform) (ops : List IndexOp)
    (kept : Along (IndexWorld.step p) (fun w op => op.Kept p w) .start ops) :
    (run (IndexWorld.step p) .start ops).written.Pairwise fun new old =>
      old.1 ≤ new.1 ∧ (new.1 = old.1 → new.2 = old.2) := by
  have start : IndexWorld.start.Sound p := ⟨nofun, fun _ => rfl, .nil⟩
  exact (invariant_along sound_indexStep start kept).ordered

/-! ## A run that goes back -/

/-- An index with a latest pointer. -/
def sampleIndex (epoch : ℤ) : Bytes :=
  documentBytes .sample [("latest", .obj [("manifest", .str "m"), ("source_epoch", .int epoch)])]

/-- Two epochs, the second one published without its high-water mark; then the index is
lost, and an epoch between them is published. -/
def crashedRun : List IndexOp :=
  [.publish (sampleIndex 3) false, .publish (sampleIndex 5) true, .damage none,
    .publish (sampleIndex 4) false]

/-- The pointer to epoch 5 is followed by one to epoch 4. -/
theorem not_latest_monotone_crashed :
    ¬ ∀ (p : Platform) (ops : List IndexOp),
      (run (IndexWorld.step p) .start ops).written.Pairwise fun new old =>
        old.1 ≤ new.1 ∧ (new.1 = old.1 → new.2 = old.2) := by
  intro claim
  have epochs : (run (IndexWorld.step .sample) .start crashedRun).written.map Prod.fst =
      [4, 5, 3] := by
    decide +kernel
  have ordered : ((run (IndexWorld.step .sample) .start crashedRun).written.map
      Prod.fst).Pairwise (· ≥ ·) :=
    List.pairwise_map.mpr ((claim .sample crashedRun).imp And.left)
  rw [epochs] at ordered
  exact absurd ordered (by decide)

/-- The same with a second publication that completes: the third one is refused. -/
theorem latest_monotone_completed :
    (run (IndexWorld.step .sample) .start
      [.publish (sampleIndex 3) false, .publish (sampleIndex 5) false, .damage none,
        .publish (sampleIndex 4) false]).written.Pairwise fun new old =>
          old.1 ≤ new.1 ∧ (new.1 = old.1 → new.2 = old.2) := by
  refine latest_monotone .sample _ ⟨trivial, trivial, ?_, trivial, trivial⟩
  intro latest found
  have high : (run (IndexWorld.step .sample) .start
      [.publish (sampleIndex 3) false, .publish (sampleIndex 5) false]).files.highwater =
        some (5, Text.ofString "m") := by decide +kernel
  have pointer : (run (IndexWorld.step .sample) .start
      [.publish (sampleIndex 3) false, .publish (sampleIndex 5) false]).files.index.bind
        (latestOf .sample) = some (5, Text.ofString "m") := by decide +kernel
  exact high.trans (pointer.symm.trans found)

end Cathedral.Provenance
