import CathedralCompute.Codec.JsonRoundTrip
import Mathlib.Data.List.Sort

/-!
# Canonical documents

A canonical writer sorts the members of every object before it renders a
document. What a reader gets back is the sorted document, so this file says what
sorting keeps: a document without surrogates and repeated keys stays readable,
and looking a member up in the sorted object gives the sorted member.

## Main results

* `Json.readable_sortKeys` — a plain document that can be dumped is readable once
  sorted
* `Json.lookup_sortMembers` — lookups commute with sorting
* `Json.sortKeys_sortKeys` — sorting once is enough
-/

set_option autoImplicit false

namespace Codec

namespace Json

mutual

/-- Strings and keys without surrogates, objects without repeated keys; floats
only where they are allowed. -/
def Plain (floats : Prop) : Json → Prop
  | float (.finite _) => floats
  | float _ => False
  | str t => t.NoSurrogate
  | arr items => PlainItems floats items
  | obj members => (members.map Prod.fst).Nodup ∧ PlainMembers floats members
  | _ => True

def PlainItems (floats : Prop) : List Json → Prop
  | [] => True
  | item :: items => Plain floats item ∧ PlainItems floats items

def PlainMembers (floats : Prop) : List (Text × Json) → Prop
  | [] => True
  | (key, value) :: members =>
    key.NoSurrogate ∧ Plain floats value ∧ PlainMembers floats members

end

theorem plainItems_iff {floats : Prop} {items : List Json} :
    PlainItems floats items ↔ ∀ item ∈ items, item.Plain floats := by
  induction items with
  | nil => simp [PlainItems]
  | cons item items ih => rw [PlainItems, ih, List.forall_mem_cons]

theorem plainMembers_iff {floats : Prop} {members : List (Text × Json)} :
    PlainMembers floats members ↔
      ∀ member ∈ members, member.1.NoSurrogate ∧ member.2.Plain floats := by
  induction members with
  | nil => simp [PlainMembers]
  | cons member members ih =>
    obtain ⟨key, value⟩ := member
    rw [PlainMembers, ih, List.forall_mem_cons, and_assoc]

theorem readableMembers_iff {hooks : Hooks} {style : Style} {members : List (Text × Json)} :
    ReadableMembers hooks style members ↔
      ∀ member ∈ members, member.1.Unpaired ∧ member.2.Readable hooks style := by
  induction members with
  | nil => simp [ReadableMembers]
  | cons member members ih =>
    obtain ⟨key, value⟩ := member
    rw [ReadableMembers, ih, List.forall_mem_cons, and_assoc]

/-! ## Sorting -/

theorem sortKeysItems_eq_map (items : List Json) : sortKeysItems items = items.map sortKeys := by
  induction items with
  | nil => rfl
  | cons item items ih => rw [sortKeysItems, ih, List.map_cons]

theorem sortKeysMembers_eq_map (members : List (Text × Json)) :
    sortKeysMembers members = members.map fun member => (member.1, member.2.sortKeys) := by
  induction members with
  | nil => rfl
  | cons member members ih =>
    obtain ⟨key, value⟩ := member
    rw [sortKeysMembers, ih, List.map_cons]

theorem sortMembers_perm (members : List (Text × Json)) :
    (sortMembers members).Perm members :=
  List.perm_insertionSort _ _

theorem keys_sortKeysMembers (members : List (Text × Json)) :
    (sortKeysMembers members).map Prod.fst = members.map Prod.fst := by
  simp [sortKeysMembers_eq_map, Function.comp_def]

theorem mem_keys_sortMembers {members : List (Text × Json)} {key : Text} :
    key ∈ (sortMembers (sortKeysMembers members)).map Prod.fst ↔ key ∈ members.map Prod.fst := by
  rw [((sortMembers_perm _).map Prod.fst).mem_iff, keys_sortKeysMembers]

theorem nodup_sortMembers {members : List (Text × Json)}
    (distinct : (members.map Prod.fst).Nodup) : ((sortMembers members).map Prod.fst).Nodup :=
  ((sortMembers_perm members).map Prod.fst).nodup_iff.mpr distinct

end Json

/-! ## Readers -/

/-- The hooks read integers of bounded length, and floats where they are allowed,
and keep objects without repeated keys. -/
structure Hooks.Faithful (hooks : Hooks) (style : Style) (floats : Prop) : Prop where
  ints : ∀ z : ℤ, (natText z.natAbs).length ≤ 4300 → hooks.parseInt (intText z) = some z
  floats : floats → ∀ q, IsFloatLiteral (style.floatText q) ∧
    hooks.parseFloat (style.floatText q) = some (.finite q)
  pairs : ∀ members : List (Text × Json), (members.map Prod.fst).Nodup →
    hooks.objectPairs members = some members

theorem strictPairs_of_nodup {members : List (Text × Json)}
    (distinct : (members.map Prod.fst).Nodup) : strictPairs members = some members :=
  if_pos distinct

/-- Assigning distinct keys one after another lists them in order. -/
theorem foldl_setMember {members done : List (Text × Json)}
    (distinct : ((done ++ members).map Prod.fst).Nodup) :
    members.foldl setMember done = done ++ members := by
  induction members generalizing done with
  | nil => exact (List.append_nil done).symm
  | cons member members ih =>
    have fresh : member.1 ∉ done.map Prod.fst := by
      rw [List.map_append, List.map_cons, List.nodup_append] at distinct
      exact fun taken => distinct.2.2 _ taken _ List.mem_cons_self rfl
    rw [List.foldl_cons, setMember, if_neg fresh, ih]
    · rw [List.append_assoc, List.singleton_append]
    · rwa [List.append_assoc, List.singleton_append]

theorem dictPairs_of_nodup {members : List (Text × Json)}
    (distinct : (members.map Prod.fst).Nodup) : dictPairs members = some members :=
  congrArg some (foldl_setMember distinct)

namespace Json

section Readable

variable {hooks : Hooks} {style : Style} {floats : Prop}

mutual

/-- A plain document that can be dumped is readable once sorted. -/
theorem readable_sortKeys (faithful : hooks.Faithful style floats) :
    ∀ doc : Json, doc.Plain floats → doc.dumpable = true → doc.sortKeys.Readable hooks style
  | .null, _, _ => trivial
  | .bool _, _, _ => trivial
  | .int z, _, short => faithful.ints z (of_decide_eq_true short)
  | .float (.finite q), allowed, _ => faithful.floats allowed q
  | .str _, plain, _ => plain.unpaired
  | .arr items, plain, dumpable => readable_sortKeysItems faithful items plain dumpable
  | .obj members, plain, dumpable => by
    have distinct := nodup_sortMembers ((keys_sortKeysMembers members).symm ▸ plain.1)
    refine ⟨faithful.pairs _ distinct, readableMembers_iff.mpr fun member listed => ?_⟩
    exact readableMembers_iff.mp (readable_sortKeysMembers faithful members plain.2 dumpable) member
      ((sortMembers_perm _).mem_iff.mp listed)

theorem readable_sortKeysItems (faithful : hooks.Faithful style floats) :
    ∀ items : List Json, PlainItems floats items → dumpableItems items = true →
      ReadableItems hooks style (sortKeysItems items)
  | [], _, _ => trivial
  | item :: items, plain, dumpable => by
    rw [dumpableItems, Bool.and_eq_true] at dumpable
    exact ⟨readable_sortKeys faithful item plain.1 dumpable.1,
      readable_sortKeysItems faithful items plain.2 dumpable.2⟩

theorem readable_sortKeysMembers (faithful : hooks.Faithful style floats) :
    ∀ members : List (Text × Json), PlainMembers floats members →
      dumpableMembers members = true → ReadableMembers hooks style (sortKeysMembers members)
  | [], _, _ => trivial
  | (key, value) :: members, plain, dumpable => by
    rw [dumpableMembers, Bool.and_eq_true] at dumpable
    exact ⟨plain.1.unpaired, readable_sortKeys faithful value plain.2.1 dumpable.1,
      readable_sortKeysMembers faithful members plain.2.2 dumpable.2⟩

end

end Readable

/-! ## Lookups -/

theorem equalsText_iff {t : Text} {value : Option Json} :
    equalsText t value = true ↔ value = some (str t) := by
  constructor
  · intro equal
    match value, equal with
    | some (str u), equal => rw [of_decide_eq_true equal]
  · rintro rfl
    exact decide_eq_true rfl

theorem lookup_eq_some {members : List (Text × Json)} (distinct : (members.map Prod.fst).Nodup)
    {key : Text} {value : Json} : lookup key members = some value ↔ (key, value) ∈ members := by
  induction members with
  | nil => simp [lookup]
  | cons member members ih =>
    obtain ⟨name, first⟩ := member
    rw [List.map_cons, List.nodup_cons] at distinct
    rw [lookup]
    split
    case isTrue same =>
      subst same
      constructor
      · rintro ⟨⟩
        exact List.mem_cons_self
      · intro listed
        rcases List.mem_cons.mp listed with here | later
        · rw [(Prod.mk.inj here).2]
        · exact absurd (List.mem_map.mpr ⟨_, later, rfl⟩) distinct.1
    case isFalse other =>
      rw [ih distinct.2, List.mem_cons]
      exact ⟨.inr, fun listed => listed.resolve_left fun here => other (Prod.mk.inj here).1.symm⟩

/-- Looking a member up in the sorted object gives the sorted member. -/
theorem lookup_sortMembers {members : List (Text × Json)}
    (distinct : (members.map Prod.fst).Nodup) {key : Text} {value : Json}
    (found : lookup key members = some value) :
    lookup key (sortMembers (sortKeysMembers members)) = some value.sortKeys := by
  have keys := (keys_sortKeysMembers members).symm ▸ distinct
  rw [lookup_eq_some (nodup_sortMembers keys), (sortMembers_perm _).mem_iff,
    sortKeysMembers_eq_map]
  exact List.mem_map.mpr ⟨(key, value), (lookup_eq_some distinct).mp found, rfl⟩

/-! ## Sorting twice -/

theorem sortMembers_of_pairwise {members : List (Text × Json)}
    (sorted : members.Pairwise fun a b => a.1 ≤ b.1) : sortMembers members = members :=
  List.Pairwise.insertionSort_eq sorted

theorem pairwise_sortMembers (members : List (Text × Json)) :
    (sortMembers members).Pairwise fun a b => a.1 ≤ b.1 := by
  have total : Std.Total fun a b : Text × Json => a.1 ≤ b.1 := ⟨fun a b => le_total a.1 b.1⟩
  have trans : IsTrans (Text × Json) fun a b => a.1 ≤ b.1 := ⟨fun _ _ _ => le_trans⟩
  exact List.pairwise_insertionSort _ members

/-- The order in which distinct members are listed does not matter. -/
theorem sortKeys_obj_perm {members members' : List (Text × Json)}
    (distinct : (members.map Prod.fst).Nodup) (perm : members.Perm members') :
    (obj members).sortKeys = (obj members').sortKeys := by
  simp only [sortKeys, sortKeysMembers_eq_map]
  have sorted := perm.map fun member : Text × Json => (member.1, member.2.sortKeys)
  have whole := ((sortMembers_perm _).trans sorted).trans (sortMembers_perm _).symm
  refine congrArg obj (whole.eq_of_pairwise (fun a b inside inside' low high => ?_)
    (pairwise_sortMembers _) (pairwise_sortMembers _))
  -- two members with the same key are the same member
  have first := (sortMembers_perm _).mem_iff.mp inside
  have second := whole.mem_iff.mpr inside'
  have second := (sortMembers_perm _).mem_iff.mp second
  refine List.inj_on_of_nodup_map ?_ first second (le_antisymm low high)
  rw [List.map_map]
  exact distinct

theorem forall_mem_dumpableMembers {members : List (Text × Json)} :
    dumpableMembers members = true ↔ ∀ member ∈ members, member.2.dumpable = true := by
  induction members with
  | nil => simp [dumpableMembers]
  | cons member members ih =>
    obtain ⟨key, value⟩ := member
    rw [dumpableMembers, Bool.and_eq_true, ih, List.forall_mem_cons]

mutual

/-- A sorted document is its own sorted form, and can be dumped when the
original can. -/
theorem sortKeys_sortKeys : ∀ doc : Json,
    doc.sortKeys.sortKeys = doc.sortKeys ∧ (doc.dumpable = true → doc.sortKeys.dumpable = true)
  | .null => ⟨rfl, id⟩
  | .bool _ => ⟨rfl, id⟩
  | .int _ => ⟨rfl, id⟩
  | .float _ => ⟨rfl, id⟩
  | .str _ => ⟨rfl, id⟩
  | .arr items =>
    let ⟨sorted, dumpable⟩ := sortKeysItems_sortKeysItems items
    ⟨congrArg Json.arr sorted, dumpable⟩
  | .obj members => by
    have each := sortKeys_of_mem_sortKeysMembers members
    -- The members are the sorted ones in another order.
    have listed : ∀ member ∈ sortMembers (sortKeysMembers members),
        member ∈ sortKeysMembers members := fun _ => (sortMembers_perm _).mem_iff.mp
    constructor
    · have fixed : sortKeysMembers (sortMembers (sortKeysMembers members)) =
          sortMembers (sortKeysMembers members) := by
        rw [sortKeysMembers_eq_map]
        refine (List.map_congr_left fun member inside => ?_).trans (List.map_id _)
        exact Prod.ext rfl (each member (listed member inside)).1
      rw [sortKeys, sortKeys, fixed, sortMembers_of_pairwise (pairwise_sortMembers _)]
    · intro dumpable
      refine forall_mem_dumpableMembers.mpr fun member inside => ?_
      exact (each member (listed member inside)).2 dumpable

theorem sortKeysItems_sortKeysItems : ∀ items : List Json,
    sortKeysItems (sortKeysItems items) = sortKeysItems items ∧
      (dumpableItems items = true → dumpableItems (sortKeysItems items) = true)
  | [] => ⟨rfl, id⟩
  | item :: items => by
    obtain ⟨first, firstDumpable⟩ := sortKeys_sortKeys item
    obtain ⟨rest, restDumpable⟩ := sortKeysItems_sortKeysItems items
    refine ⟨by rw [sortKeysItems, sortKeysItems, first, rest], fun dumpable => ?_⟩
    rw [dumpableItems, Bool.and_eq_true] at dumpable
    rw [sortKeysItems, dumpableItems, Bool.and_eq_true]
    exact ⟨firstDumpable dumpable.1, restDumpable dumpable.2⟩

theorem sortKeys_of_mem_sortKeysMembers : ∀ members : List (Text × Json),
    ∀ member ∈ sortKeysMembers members, member.2.sortKeys = member.2 ∧
      (dumpableMembers members = true → member.2.dumpable = true)
  | [], _, outside => (nomatch outside)
  | (key, value) :: members, member, inside => by
    rcases List.mem_cons.mp inside with rfl | later
    · obtain ⟨sorted, kept⟩ := sortKeys_sortKeys value
      refine ⟨sorted, fun dumpable => kept ?_⟩
      rw [dumpableMembers, Bool.and_eq_true] at dumpable
      exact dumpable.1
    · obtain ⟨sorted, kept⟩ := sortKeys_of_mem_sortKeysMembers members member later
      refine ⟨sorted, fun dumpable => kept ?_⟩
      rw [dumpableMembers, Bool.and_eq_true] at dumpable
      exact dumpable.2

end

end Json

/-! ## Arrays of integers -/

theorem noSurrogate_of_isHex {count : ℕ} {t : Text} (hex : t.isHex count = true) :
    t.NoSurrogate := by
  rw [Text.isHex, Bool.and_eq_true, List.all_eq_true] at hex
  intro c member
  have digit := hex.2 c member
  simp only [Text.isLowerHex, Text.isDigit, Text.inRange, Bool.or_eq_true, Bool.and_eq_true,
    decide_eq_true_eq, Char.reduceToNat] at digit
  simp only [CodePoint.isSurrogate, Bool.and_eq_false_iff, decide_eq_false_iff_not]
  omega

theorem hasExactly_sortMembers {keys : List Text} {members : List (Text × Json)} :
    hasExactly keys (Json.sortMembers (Json.sortKeysMembers members)) =
      hasExactly keys members := by
  simp only [hasExactly, Json.mem_keys_sortMembers]

theorem sortKeys_ints (ints : List ℤ) :
    (Json.arr (ints.map .int)).sortKeys = .arr (ints.map .int) := by
  rw [Json.sortKeys, Json.sortKeysItems_eq_map, List.map_map]
  rfl

theorem intsOfJson_arr (ints : List ℤ) : intsOfJson (.arr (ints.map .int)) = some ints := by
  rw [intsOfJson]
  induction ints with
  | nil => rfl
  | cons z ints ih => simp [intOfJson, ih]

theorem plain_ints (floats : Prop) (ints : List ℤ) :
    (Json.arr (ints.map .int)).Plain floats := by
  refine Json.plainItems_iff.mpr fun item listed => ?_
  obtain ⟨z, -, rfl⟩ := List.mem_map.mp listed
  trivial

theorem eq_map_of_mapM_intOfJson {items : List Json} {ints : List ℤ}
    (read : items.mapM intOfJson = some ints) : items = ints.map .int := by
  induction items generalizing ints with
  | nil =>
    cases read
    rfl
  | cons item items ih =>
    simp only [List.mapM_cons, Option.bind_eq_bind, Option.bind_eq_some_iff, Option.pure_def,
      Option.some.injEq] at read
    obtain ⟨z, first, rest, others, rfl⟩ := read
    match item, first with
    | .int _, rfl => rw [List.map_cons, ih others]

theorem eq_arr_of_intsOfJson {value : Json} {ints : List ℤ} (read : intsOfJson value = some ints) :
    value = .arr (ints.map .int) := by
  match value, read with
  | .arr items, read => exact congrArg Json.arr (eq_map_of_mapM_intOfJson read)

/-! ## Lengths -/

theorem length_escapeChar_le (c : CodePoint) : (escapeChar c).length ≤ 12 := by
  have unit : ∀ n, (unicodeEscape n).length = 6 := fun _ => rfl
  unfold escapeChar
  split
  · simp
  · split_ifs
    · simp
    · simp [unit]
    · simp [unit]

theorem length_quoted_le (t : Text) : (quoted t).length ≤ 12 * t.length + 2 := by
  have body : (t.flatMap escapeChar).length ≤ 12 * t.length := by
    induction t with
    | nil => exact le_rfl
    | cons c t ih =>
      have first := length_escapeChar_le c
      rw [List.flatMap_cons, List.length_append, List.length_cons]
      omega
  rw [quoted, List.length_cons, List.length_append, List.length_singleton]
  omega

/-- A text without characters to escape only gets its quotes. -/
theorem length_quoted_of_verbatim {t : Text} (verbatim : ∀ c ∈ t, escapeChar c = [c]) :
    (quoted t).length = t.length + 2 := by
  have body : t.flatMap escapeChar = t :=
    (List.flatMap_congr verbatim).trans (List.flatMap_singleton' t)
  rw [quoted, body, List.length_cons, List.length_append, List.length_singleton]

/-- What the members of an object take at most. -/
theorem length_renderMembers_le_sum {style : Style} (commas : style.itemSeparator = [0x2c])
    (colons : style.keySeparator = [0x3a]) (members : List (Text × Json)) :
    (Json.renderMembers style members).length ≤ (members.map fun member =>
      (quoted member.1).length + 2 + (member.2.render style).length).sum := by
  induction members with
  | nil => exact le_rfl
  | cons member members ih =>
    obtain ⟨key, value⟩ := member
    simp only [Json.renderMembers, commas, colons, List.length_append, List.length_singleton,
      List.map_cons, List.sum_cons]
    omega

/-- What an object takes at most, in the order of its keys. -/
theorem length_render_sortKeys_le_sum {style : Style} (commas : style.itemSeparator = [0x2c])
    (colons : style.keySeparator = [0x3a]) (members : List (Text × Json)) :
    ((Json.obj members).sortKeys.render style).length ≤ 2 + (members.map fun member =>
      (quoted member.1).length + 2 + (member.2.sortKeys.render style).length).sum := by
  have listed := length_renderMembers_le_sum commas colons
    (Json.sortMembers (Json.sortKeysMembers members))
  rw [((Json.sortMembers_perm _).map _).sum_nat, Json.sortKeysMembers_eq_map, List.map_map]
    at listed
  have braces : ∀ members, ((Json.obj members).render style).length ≤
      2 + (Json.renderMembers style members).length := by
    intro members
    cases members with
    | nil => simp [Json.render]
    | cons member members =>
      obtain ⟨key, value⟩ := member
      simp only [Json.render, Json.renderMembers, commas, List.length_append,
        List.length_singleton]
      omega
  rw [Json.sortKeys, Json.sortKeysMembers_eq_map]
  exact (braces _).trans (Nat.add_le_add_left listed 2)

/-- A member that takes at most so many characters. -/
def MemberWithin (style : Style) (bound : ℕ) (member : Text × Json) : Prop :=
  (quoted member.1).length + 2 + (member.2.sortKeys.render style).length ≤ bound

theorem memberWithin_of_le {style : Style} {key : Text} {value : Json} {named written bound : ℕ}
    (name : key.length ≤ named) (length : (value.sortKeys.render style).length ≤ written)
    (within : 12 * named + 4 + written ≤ bound) : MemberWithin style bound (key, value) := by
  have quotes := (length_quoted_le key).trans
    (Nat.add_le_add_right (Nat.mul_le_mul_left 12 name) 2)
  exact (Nat.add_le_add (Nat.add_le_add_right quotes 2) length).trans within

theorem memberWithin_str {style : Style} {key text : Text} {named short bound : ℕ}
    (name : key.length ≤ named) (length : text.length ≤ short)
    (within : 12 * named + 12 * short + 6 ≤ bound) :
    MemberWithin style bound (key, .str text) :=
  memberWithin_of_le name
    ((length_quoted_le text).trans (Nat.add_le_add_right (Nat.mul_le_mul_left 12 length) 2))
    (by omega)

/-- An object takes at most what its members take, and its braces. -/
theorem length_render_sortKeys_le {style : Style} (commas : style.itemSeparator = [0x2c])
    (colons : style.keySeparator = [0x3a]) {members : List (Text × Json)} {bounds : List ℕ}
    (within : List.Forall₂ (fun member bound => MemberWithin style bound member) members bounds) :
    ((Json.obj members).sortKeys.render style).length ≤ 2 + bounds.sum := by
  refine (length_render_sortKeys_le_sum commas colons members).trans (Nat.add_le_add_left ?_ 2)
  induction within with
  | nil => exact le_rfl
  | cons first _ ih =>
    rw [List.map_cons, List.sum_cons, List.sum_cons]
    exact Nat.add_le_add first ih

/-- An array of short numbers is short. -/
theorem length_render_ints_le {style : Style} (commas : style.itemSeparator = [0x2c])
    {ints : List ℤ} {bound : ℕ} (short : ∀ z ∈ ints, (intText z).length ≤ bound) :
    ((Json.arr (ints.map .int)).render style).length ≤ ints.length * (bound + 1) + 2 := by
  have rest : ∀ ints : List ℤ, (∀ z ∈ ints, (intText z).length ≤ bound) →
      (Json.renderItems style (ints.map .int)).length ≤ ints.length * (bound + 1) := by
    intro ints short
    induction ints with
    | nil => simp [Json.renderItems]
    | cons z ints ih =>
      obtain ⟨first, others⟩ := List.forall_mem_cons.mp short
      have tail := ih others
      simp only [List.map_cons, Json.renderItems, Json.render, commas, List.length_append,
        List.length_nil, List.length_cons, Nat.add_mul]
      omega
  cases ints with
  | nil => simp [Json.render]
  | cons z ints =>
    obtain ⟨first, others⟩ := List.forall_mem_cons.mp short
    have tail := rest ints others
    simp only [List.map_cons, Json.render, List.length_append, List.length_nil,
      List.length_cons, Nat.add_mul]
    omega

end Codec
