import CathedralCompute.Codec.JsonFaults
import CathedralCompute.Codec.JsonStrict

/-!
# Reading a sorted document

A writer that sorts keys changes the order of members and nothing else: every way of
reading a document commutes with sorting. A document whose texts hold no surrogate pair
and that holds no float is read back from its sorted text.

## Main definitions

* `Json.Legible` — no float, and no surrogate pair in a text or key

## Main results

* `Json.field_sortedFields`, `Json.levels_sortKeys` — reading commutes with sorting
* `Json.readable_of_legible` — a legible document is readable once sorted
* `Json.legible_of_loads` — a reader without floats returns legible documents
-/

set_option autoImplicit false

namespace Codec

namespace Json

/-- The members of an object, sorted. -/
def sortedFields (members : List (Text × Json)) : List (Text × Json) :=
  sortMembers (sortKeysMembers members)

theorem sortKeys_obj (members : List (Text × Json)) :
    (obj members).sortKeys = obj (sortedFields members) := rfl

theorem mem_sortedFields {members : List (Text × Json)} {member : Text × Json} :
    member ∈ sortedFields members ↔ ∃ old ∈ members, member = (old.1, old.2.sortKeys) := by
  rw [sortedFields, (sortMembers_perm _).mem_iff, sortKeysMembers_eq_map, List.mem_map]
  simp only [eq_comm]

/-! ## Reading -/

theorem lookup_sortedFields {members : List (Text × Json)}
    (distinct : (members.map Prod.fst).Nodup) (key : Text) :
    lookup key (sortedFields members) = (lookup key members).map sortKeys := by
  cases found : lookup key members with
  | some value => exact lookup_sortMembers distinct found
  | none =>
    have keys : ((sortedFields members).map Prod.fst).Nodup :=
      nodup_sortMembers ((keys_sortKeysMembers members).symm ▸ distinct)
    cases sorted : lookup key (sortedFields members) with
    | none => rfl
    | some value =>
      obtain ⟨⟨_, old⟩, inside, same⟩ :=
        mem_sortedFields.mp ((lookup_eq_some keys).mp sorted)
      obtain ⟨rfl, -⟩ := Prod.mk.inj same
      rw [(lookup_eq_some distinct).mpr inside] at found
      cases found

theorem field_sortedFields {members : List (Text × Json)}
    (distinct : (members.map Prod.fst).Nodup) (key : Text) :
    field (sortedFields members) key = (field members key).sortKeys := by
  rw [field, lookup_sortedFields distinct, field]
  cases lookup key members <;> rfl

theorem hasExactly_sortedFields {keys : List Text} {members : List (Text × Json)} :
    hasExactly keys (sortedFields members) = hasExactly keys members :=
  hasExactly_sortMembers

@[simp] theorem textOfJson_sortKeys (value : Json) : textOfJson value.sortKeys = textOfJson value := by
  cases value <;> rfl

@[simp] theorem intOfJson_sortKeys (value : Json) : intOfJson value.sortKeys = intOfJson value := by
  cases value <;> rfl

@[simp] theorem equalsText_sortKeys (t : Text) (value : Json) :
    equalsText t (some value.sortKeys) = equalsText t (some value) := by
  cases value <;> rfl

@[simp] theorem equalsInt_sortKeys (z : ℤ) (value : Json) :
    equalsInt z (some value.sortKeys) = equalsInt z (some value) := by
  cases value <;> rfl

theorem itemsOfJson_sortKeys (value : Json) :
    itemsOfJson value.sortKeys = (itemsOfJson value).map (List.map sortKeys) := by
  cases value with
  | arr items => exact congrArg some (sortKeysItems_eq_map items)
  | _ => rfl

theorem membersOfJson_sortKeys (value : Json) :
    membersOfJson value.sortKeys = (membersOfJson value).map sortedFields := by
  cases value <;> rfl

/-! ## Parts of a document without repeated keys -/

theorem nodup_of_distinct {value : Json} (distinct : value.Distinct)
    {members : List (Text × Json)} (object : membersOfJson value = some members) :
    (members.map Prod.fst).Nodup ∧ ∀ key, (field members key).Distinct := by
  cases value with
  | obj own =>
    obtain rfl : own = members := Option.some.inj object
    refine ⟨distinct.1, fun key => ?_⟩
    unfold field
    cases found : lookup key own with
    | none => exact trivial
    | some value =>
      exact distinctMembers_iff.mp distinct.2 _ ((lookup_eq_some distinct.1).mp found)
  | _ => cases object

theorem distinct_of_mem_items {value : Json} (distinct : value.Distinct) {items : List Json}
    (list : itemsOfJson value = some items) : ∀ item ∈ items, item.Distinct := by
  cases value with
  | arr own =>
    cases list
    exact distinctItems_iff.mp distinct
  | _ => cases list

/-! ## Depth -/

theorem itemsLevels_le {items : List Json} {n : ℕ} :
    itemsLevels items ≤ n ↔ ∀ item ∈ items, item.levels ≤ n := by
  induction items with
  | nil => simp [itemsLevels]
  | cons item items ih => rw [itemsLevels, max_le_iff, ih, List.forall_mem_cons]

theorem membersLevels_le {members : List (Text × Json)} {n : ℕ} :
    membersLevels members ≤ n ↔ ∀ member ∈ members, member.2.levels ≤ n := by
  induction members with
  | nil => simp [membersLevels]
  | cons member members ih =>
    obtain ⟨key, value⟩ := member
    rw [membersLevels, max_le_iff, ih, List.forall_mem_cons]

mutual

/-- Sorting keeps the depth. -/
theorem levels_sortKeys : ∀ value : Json, value.sortKeys.levels = value.levels
  | .null => rfl
  | .bool _ => rfl
  | .int _ => rfl
  | .float _ => rfl
  | .str _ => rfl
  | .arr items => by
    rw [sortKeys, levels, levels, sortKeysItems_eq_map]
    refine congrArg (· + 1) (eq_of_forall_ge_iff fun n => ?_)
    rw [itemsLevels_le, itemsLevels_le, List.forall_mem_map]
    exact forall₂_congr fun item inside => by rw [levels_of_mem_items items item inside]
  | .obj members => by
    rw [sortKeys_obj, levels, levels]
    refine congrArg (· + 1) (eq_of_forall_ge_iff fun n => ?_)
    rw [membersLevels_le, membersLevels_le]
    constructor
    · intro each member inside
      rw [← levels_of_mem_members members member inside]
      exact each _ (mem_sortedFields.mpr ⟨member, inside, rfl⟩)
    · intro each member inside
      obtain ⟨old, among, rfl⟩ := mem_sortedFields.mp inside
      rw [levels_of_mem_members members old among]
      exact each old among

theorem levels_of_mem_items : ∀ items : List Json, ∀ item ∈ items,
    item.sortKeys.levels = item.levels
  | [], _, outside => (nomatch outside)
  | first :: items, item, inside =>
    (List.mem_cons.mp inside).elim (fun same => same ▸ levels_sortKeys first)
      (levels_of_mem_items items item)

theorem levels_of_mem_members : ∀ members : List (Text × Json), ∀ member ∈ members,
    member.2.sortKeys.levels = member.2.levels
  | [], _, outside => (nomatch outside)
  | (_, value) :: members, member, inside =>
    (List.mem_cons.mp inside).elim (fun same => same ▸ levels_sortKeys value)
      (levels_of_mem_members members member)

end

/-! ## Legible documents -/

mutual

/-- No float, and no text or key with a surrogate pair. -/
def Legible : Json → Prop
  | float _ => False
  | str t => t.Unpaired
  | arr items => LegibleItems items
  | obj members => LegibleMembers members
  | _ => True

def LegibleItems : List Json → Prop
  | [] => True
  | item :: items => Legible item ∧ LegibleItems items

def LegibleMembers : List (Text × Json) → Prop
  | [] => True
  | (key, value) :: members => key.Unpaired ∧ Legible value ∧ LegibleMembers members

end

theorem legibleItems_iff {items : List Json} :
    LegibleItems items ↔ ∀ item ∈ items, item.Legible := by
  induction items with
  | nil => simp [LegibleItems]
  | cons item items ih => rw [LegibleItems, ih, List.forall_mem_cons]

theorem legibleMembers_iff {members : List (Text × Json)} :
    LegibleMembers members ↔ ∀ member ∈ members, member.1.Unpaired ∧ member.2.Legible := by
  induction members with
  | nil => simp [LegibleMembers]
  | cons member members ih =>
    obtain ⟨key, value⟩ := member
    rw [LegibleMembers, ih, List.forall_mem_cons, and_assoc]

mutual

/-- Sorting makes no document legible. -/
theorem legible_sortKeys : ∀ value : Json, value.sortKeys.Legible ↔ value.Legible
  | .null => Iff.rfl
  | .bool _ => Iff.rfl
  | .int _ => Iff.rfl
  | .float _ => Iff.rfl
  | .str _ => Iff.rfl
  | .arr items => by
    rw [sortKeys, Legible, Legible, sortKeysItems_eq_map, legibleItems_iff, legibleItems_iff,
      List.forall_mem_map]
    exact forall₂_congr (legible_of_mem_items items)
  | .obj members => by
    rw [sortKeys_obj, Legible, Legible, legibleMembers_iff, legibleMembers_iff]
    constructor
    · intro each member inside
      obtain ⟨key, value⟩ := each _ (mem_sortedFields.mpr ⟨member, inside, rfl⟩)
      exact ⟨key, (legible_of_mem_members members member inside).mp value⟩
    · intro each member inside
      obtain ⟨old, among, rfl⟩ := mem_sortedFields.mp inside
      obtain ⟨key, value⟩ := each old among
      exact ⟨key, (legible_of_mem_members members old among).mpr value⟩

theorem legible_of_mem_items : ∀ items : List Json, ∀ item ∈ items,
    (item.sortKeys.Legible ↔ item.Legible)
  | [], _, outside => (nomatch outside)
  | first :: items, item, inside =>
    (List.mem_cons.mp inside).elim (fun same => same ▸ legible_sortKeys first)
      (legible_of_mem_items items item)

theorem legible_of_mem_members : ∀ members : List (Text × Json), ∀ member ∈ members,
    (member.2.sortKeys.Legible ↔ member.2.Legible)
  | [], _, outside => (nomatch outside)
  | (_, value) :: members, member, inside =>
    (List.mem_cons.mp inside).elim (fun same => same ▸ legible_sortKeys value)
      (legible_of_mem_members members member)

end

/-- What a strict reader returns that takes no float and no constant is legible, if its
text holds no raw surrogate. -/
theorem legible_of_loads {hooks : Hooks} (strict : hooks.Strict)
    (noFloat : ∀ literal, hooks.parseFloat literal = none)
    (noConstant : ∀ x, hooks.parseConstant x = none) {t : Text} (plain : t.NoSurrogate)
    {document : Json} (read : loads hooks t = some document) : document.Legible := by
  have text {u : Text} (denoted : Denoted Text.NoSurrogate u) : u.Unpaired := by
    obtain ⟨source, rest, plain, chars⟩ := denoted
    exact (unpaired_of_parseChars plain chars).1
  refine @closed_of_loads _ Text.NoSurrogate Legible
    ⟨fun source rest plain part c inside => plain c (part inside), trivial, fun _ => trivial,
      fun _ => text, fun _ _ _ => trivial,
      fun literal x parsed => (nomatch (noFloat literal).symm.trans parsed),
      fun x y parsed => (nomatch (noConstant x).symm.trans parsed),
      fun items each => legibleItems_iff.mpr each, trivial,
      fun pairs members each accepted => ?_⟩ t plain _ read
  obtain ⟨rfl, -⟩ := strict _ _ accepted
  exact legibleMembers_iff.mpr fun member inside => (each member inside).imp text id

section Readable

variable {hooks : Hooks} {style : Style}

mutual

/-- A legible document without repeated keys that can be dumped is readable once sorted. -/
theorem readable_of_legible (faithful : hooks.Faithful style False) : ∀ doc : Json,
    doc.Legible → doc.Distinct → doc.dumpable = true → doc.sortKeys.Readable hooks style
  | .null, _, _, _ => trivial
  | .bool _, _, _, _ => trivial
  | .int z, _, _, short => faithful.ints z (of_decide_eq_true short)
  | .float _, legible, _, _ => legible.elim
  | .str _, legible, _, _ => legible
  | .arr items, legible, distinct, dumpable =>
    readable_of_legibleItems faithful items legible distinct dumpable
  | .obj members, legible, distinct, dumpable => by
    have keys := nodup_sortMembers ((keys_sortKeysMembers members).symm ▸ distinct.1)
    refine ⟨faithful.pairs _ keys, readableMembers_iff.mpr fun member listed => ?_⟩
    exact readableMembers_iff.mp
      (readable_of_legibleMembers faithful members legible distinct.2 dumpable) member
      ((sortMembers_perm _).mem_iff.mp listed)

theorem readable_of_legibleItems (faithful : hooks.Faithful style False) : ∀ items : List Json,
    LegibleItems items → DistinctItems items → dumpableItems items = true →
      ReadableItems hooks style (sortKeysItems items)
  | [], _, _, _ => trivial
  | item :: items, legible, distinct, dumpable => by
    rw [dumpableItems, Bool.and_eq_true] at dumpable
    exact ⟨readable_of_legible faithful item legible.1 distinct.1 dumpable.1,
      readable_of_legibleItems faithful items legible.2 distinct.2 dumpable.2⟩

theorem readable_of_legibleMembers (faithful : hooks.Faithful style False) :
    ∀ members : List (Text × Json), LegibleMembers members → DistinctMembers members →
      dumpableMembers members = true → ReadableMembers hooks style (sortKeysMembers members)
  | [], _, _, _ => trivial
  | (key, value) :: members, legible, distinct, dumpable => by
    rw [dumpableMembers, Bool.and_eq_true] at dumpable
    exact ⟨legible.1, readable_of_legible faithful value legible.2.1 distinct.1 dumpable.1,
      readable_of_legibleMembers faithful members legible.2.2 distinct.2 dumpable.2⟩

end

end Readable

end Json

end Codec
