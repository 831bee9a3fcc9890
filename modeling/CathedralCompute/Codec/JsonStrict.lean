import CathedralCompute.Codec.JsonCanonical
import CathedralCompute.Codec.JsonSource

/-!
# Documents without repeated keys

A reader that refuses repeated keys returns documents none of whose objects repeats one.
On such documents the members can be compared by looking keys up: two objects with the
same keys and the same sorted members have the same sorted form.

## Main results

* `Json.distinct_of_loads` — what a strict reader returns repeats no key
* `Json.sortKeys_obj_of_lookup` — objects with the same members have one sorted form
-/

set_option autoImplicit false

namespace Codec

namespace Json

mutual

/-- No object repeats a key. -/
def Distinct : Json → Prop
  | arr items => DistinctItems items
  | obj members => (members.map Prod.fst).Nodup ∧ DistinctMembers members
  | _ => True

def DistinctItems : List Json → Prop
  | [] => True
  | item :: items => Distinct item ∧ DistinctItems items

def DistinctMembers : List (Text × Json) → Prop
  | [] => True
  | (_, value) :: members => Distinct value ∧ DistinctMembers members

end

theorem distinctItems_iff {items : List Json} :
    DistinctItems items ↔ ∀ item ∈ items, item.Distinct := by
  induction items with
  | nil => simp [DistinctItems]
  | cons item items ih => simp [DistinctItems, ih]

theorem distinctMembers_iff {members : List (Text × Json)} :
    DistinctMembers members ↔ ∀ member ∈ members, member.2.Distinct := by
  induction members with
  | nil => simp [DistinctMembers]
  | cons member members ih =>
    obtain ⟨key, value⟩ := member
    rw [DistinctMembers, ih, List.forall_mem_cons]

end Json

/-! ## Strict readers -/

/-- The reader refuses repeated keys. -/
def Hooks.Strict (hooks : Hooks) : Prop :=
  ∀ pairs members, hooks.objectPairs pairs = some members →
    members = pairs ∧ (pairs.map Prod.fst).Nodup

theorem strict_strictPairs (parseInt : Text → Option ℤ) (parseFloat : Text → Option Floating)
    (parseConstant : Floating → Option Floating) :
    (Hooks.mk parseInt parseFloat parseConstant strictPairs).Strict := by
  intro pairs members accepted
  simp only [strictPairs] at accepted
  split at accepted
  case isTrue distinct => exact ⟨(Option.some.inj accepted).symm, distinct⟩
  case isFalse => cases accepted

namespace Json

variable {hooks : Hooks} {Source : Text → Prop}

/-- A text that a string literal in such a source denotes. -/
def Denoted (Source : Text → Prop) (t : Text) : Prop :=
  ∃ source rest, Source source ∧ parseChars source = some (t, rest)

/-- A property of documents that the reader builds up from such sources: it holds of the
leaves the hooks deliver, and passes from values to the arrays and objects they are put
into. A part of a source is such a source. -/
structure Closed (hooks : Hooks) (Source : Text → Prop) (P : Json → Prop) : Prop where
  part : ∀ source rest, Source source → rest ⊆ source → Source rest
  null : P .null
  bool : ∀ b, P (.bool b)
  str : ∀ t, Denoted Source t → P (.str t)
  int : ∀ literal z, hooks.parseInt literal = some z → P (.int z)
  float : ∀ literal x, hooks.parseFloat literal = some x → P (.float x)
  constant : ∀ x y, hooks.parseConstant x = some y → P (.float y)
  arr : ∀ items, (∀ item ∈ items, P item) → P (.arr items)
  emptyObject : P (.obj [])
  obj : ∀ pairs members, (∀ pair ∈ pairs, Denoted Source pair.1 ∧ P pair.2) →
    hooks.objectPairs pairs = some members → P (.obj members)

/-- What a parser may return at a given fuel, and that what it leaves is a source. -/
structure Parses (hooks : Hooks) (Source : Text → Prop) (P : Json → Prop) (fuel : ℕ) : Prop where
  value : ∀ t value rest, Source t → parseValue hooks fuel t = some (value, rest) →
    P value ∧ Source rest
  items : ∀ t items rest, Source t → parseItems hooks fuel t = some (items, rest) →
    (∀ item ∈ items, P item) ∧ Source rest
  members : ∀ t members rest, Source t → parseMembers hooks fuel t = some (members, rest) →
    (∀ member ∈ members, Denoted Source member.1 ∧ P member.2) ∧ Source rest

theorem eq_of_word {literal : String} {leaf value : Json} {t rest : Text}
    (read : word literal leaf t = some (value, rest)) : value = leaf := by
  unfold word at read
  split at read
  · exact (Prod.mk.inj (Option.some.inj read)).1.symm
  · cases read

section Parsing

variable {P : Json → Prop}

theorem closed_of_parseWord (closed : Closed hooks Source P) {t rest : Text} {value : Json}
    (read : parseWord t = some (value, rest)) : P value := by
  obtain null | read := orElse_cases read
  · obtain rfl := eq_of_word null
    exact closed.null
  · obtain yes | no := orElse_cases read
    · obtain rfl := eq_of_word yes
      exact closed.bool true
    · obtain rfl := eq_of_word no
      exact closed.bool false

theorem closed_of_parseNumber (closed : Closed hooks Source P) {t rest : Text} {value : Json}
    (read : parseNumber hooks t = some (value, rest)) : P value := by
  unfold parseNumber at read
  split at read
  · obtain ⟨x, parsed, pair⟩ := Option.map_eq_some_iff.mp read
    obtain ⟨rfl, -⟩ := Prod.mk.inj pair
    exact closed.float _ x parsed
  · obtain ⟨z, parsed, pair⟩ := Option.map_eq_some_iff.mp read
    obtain ⟨rfl, -⟩ := Prod.mk.inj pair
    exact closed.int _ z parsed
  · obtain ⟨⟨found, after⟩, -, read⟩ := Option.bind_eq_some_iff.mp read
    simp only at read
    split at read
    · obtain ⟨y, parsed, pair⟩ := Option.map_eq_some_iff.mp read
      obtain ⟨rfl, -⟩ := Prod.mk.inj pair
      exact closed.constant _ y parsed
    · cases read

/-- What follows spaces and one character of a source is a source. -/
theorem Closed.next (closed : Closed hooks Source P) {t rest : Text} {c : CodePoint}
    (source : Source t) (next : skipSpace t = c :: rest) : Source rest :=
  closed.part t rest source (List.Subset.trans (List.subset_cons_self c rest)
    (next ▸ skipSpace_subset t))

theorem Closed.spaces (closed : Closed hooks Source P) {t : Text} (source : Source t) :
    Source (skipSpace t) :=
  closed.part t _ source (skipSpace_subset t)

/-- The rest of a member list, from the value of the first one. -/
theorem closed_of_member (closed : Closed hooks Source P) {fuel : ℕ}
    (parses : Parses hooks Source P fuel) {key : Text} (denoted : Denoted Source key)
    {t rest : Text} (source : Source t) {members : List (Text × Json)}
    (read : (match parseValue hooks fuel t with
      | none => none
      | some (value, rest) =>
        match skipSpace rest with
        | [] => none
        | c :: rest =>
          if c = 0x7d then some ([(key, value)], rest)
          else if c = 0x2c then
            (parseMembers hooks fuel (skipSpace rest)).map fun (pairs, rest) =>
              ((key, value) :: pairs, rest)
          else none) = some (members, rest)) :
    (∀ member ∈ members, Denoted Source member.1 ∧ P member.2) ∧ Source rest := by
  cases first : parseValue hooks fuel t with
  | none => simp [first] at read
  | some found =>
    obtain ⟨value, after⟩ := found
    obtain ⟨plain, source⟩ := parses.value _ _ _ source first
    simp only [first] at read
    cases next : skipSpace after with
    | nil => simp [next] at read
    | cons c after =>
      have source := closed.next source next
      simp only [next] at read
      split at read
      · cases read
        exact ⟨List.forall_mem_singleton.mpr ⟨denoted, plain⟩, source⟩
      split at read
      · obtain ⟨⟨pairs, last⟩, inner, pair⟩ := Option.map_eq_some_iff.mp read
        cases pair
        obtain ⟨each, source⟩ := parses.members _ _ _ (closed.spaces source) inner
        exact ⟨List.forall_mem_cons.mpr ⟨⟨denoted, plain⟩, each⟩, source⟩
      · cases read

/-- Each parser returns what the property holds of if the parsers it calls do. -/
theorem parses (closed : Closed hooks Source P) (fuel : ℕ) : Parses hooks Source P fuel := by
  induction fuel with
  | zero =>
    -- without fuel every parser gives up
    refine ⟨?_, ?_, ?_⟩
    · intro t value rest _ read
      simp [parseValue] at read
    · intro t items rest _ read
      simp [parseItems] at read
    · intro t members rest _ read
      simp [parseMembers] at read
  | succ fuel ih =>
    refine ⟨?_, ?_, ?_⟩
    · intro t value rest source read
      cases t with
      | nil => simp [parseValue] at read
      | cons c t =>
        have inside : Source t := closed.part _ _ source (List.subset_cons_self c t)
        rw [parseValue] at read
        split at read
        · -- a string
          obtain ⟨⟨text, after⟩, chars, pair⟩ := Option.map_eq_some_iff.mp read
          cases pair
          exact ⟨closed.str text ⟨_, _, inside, chars⟩,
            closed.part _ _ inside (parseChars_rest chars)⟩
        -- an array, empty or not
        split at read
        · split at read
          · cases read
            exact ⟨closed.arr [] (by simp),
              closed.part _ _ (closed.spaces inside) (List.tail_suffix _).subset⟩
          · obtain ⟨⟨items, after⟩, inner, pair⟩ := Option.map_eq_some_iff.mp read
            cases pair
            obtain ⟨each, left⟩ := ih.items _ _ _ (closed.spaces inside) inner
            exact ⟨closed.arr items each, left⟩
        -- an object, empty or not
        split at read
        · split at read
          · cases read
            exact ⟨closed.emptyObject,
              closed.part _ _ (closed.spaces inside) (List.tail_suffix _).subset⟩
          · obtain ⟨⟨pairs, after⟩, inner, read⟩ := Option.bind_eq_some_iff.mp read
            obtain ⟨members, accepted, pair⟩ := Option.bind_eq_some_iff.mp read
            cases pair
            obtain ⟨each, left⟩ := ih.members _ _ _ (closed.spaces inside) inner
            exact ⟨closed.obj pairs members each accepted, left⟩
        · -- a word or a number
          obtain read | read := orElse_cases read
          · exact ⟨closed_of_parseWord closed read, closed.part _ _ source (rest_of_parseWord read)⟩
          · exact ⟨closed_of_parseNumber closed read,
              closed.part _ _ source (rest_of_parseNumber read)⟩
    · intro t items rest source read
      rw [parseItems] at read
      cases first : parseValue hooks fuel t with
      | none => simp [first] at read
      | some found =>
        obtain ⟨item, after⟩ := found
        obtain ⟨plain, source⟩ := ih.value _ _ _ source first
        simp only [first] at read
        -- after an item: the end, or a comma and more items
        cases next : skipSpace after with
        | nil => simp [next] at read
        | cons c after =>
          have source := closed.next source next
          simp only [next] at read
          split at read
          · cases read
            exact ⟨List.forall_mem_singleton.mpr plain, source⟩
          split at read
          · obtain ⟨⟨items, last⟩, inner, pair⟩ := Option.map_eq_some_iff.mp read
            cases pair
            obtain ⟨each, source⟩ := ih.items _ _ _ (closed.spaces source) inner
            exact ⟨List.forall_mem_cons.mpr ⟨plain, each⟩, source⟩
          · cases read
    · intro t members rest source read
      cases t with
      | nil => simp [parseMembers] at read
      | cons c t =>
        have inside : Source t := closed.part _ _ source (List.subset_cons_self c t)
        rw [parseMembers] at read
        split at read
        case isFalse => cases read
        case isTrue =>
          -- a member: its key, a colon, and what follows
          cases chars : parseChars t with
          | none => simp [chars] at read
          | some found =>
            obtain ⟨key, after⟩ := found
            have left : Source after := closed.part _ _ inside (parseChars_rest chars)
            simp only [chars] at read
            cases next : skipSpace after with
            | nil => simp [next] at read
            | cons colon after =>
              have left := closed.spaces (closed.next left next)
              simp only [next] at read
              split at read
              case isFalse => cases read
              case isTrue => exact closed_of_member closed ih ⟨_, _, inside, chars⟩ left read

/-- What a reader returns has every property that it builds up. -/
theorem closed_of_loads (closed : Closed hooks Source P) {t : Text} (source : Source t)
    {document : Json} (read : loads hooks t = some document) : P document := by
  unfold loads at read
  split at read
  case h_1 value rest found =>
    split at read
    · obtain rfl := Option.some.inj read
      exact ((parses closed _).value _ _ _ (closed.spaces source) found).1
    · cases read
  case h_2 => cases read

end Parsing

/-- What a strict reader returns repeats no key. -/
theorem distinct_of_loads (strict : hooks.Strict) {t : Text} {document : Json}
    (read : loads hooks t = some document) : document.Distinct := by
  refine @closed_of_loads _ (fun _ => True) Distinct
    ⟨fun _ _ _ _ => trivial, trivial, fun _ => trivial, fun _ _ => trivial, fun _ _ _ => trivial,
      fun _ _ _ => trivial, fun _ _ _ => trivial, fun items each => distinctItems_iff.mpr each,
      ⟨List.nodup_nil, trivial⟩, fun pairs members each accepted => ?_⟩ t trivial _ read
  obtain ⟨rfl, distinct⟩ := strict _ _ accepted
  exact ⟨distinct, distinctMembers_iff.mpr fun member inside => (each member inside).2⟩

/-! ## Objects with the same members -/

/-- A document that is the same up to the order of members. -/
def Same (document other : Json) : Prop := document.sortKeys = other.sortKeys

theorem Same.refl (document : Json) : document.Same document := rfl

theorem Same.symm {document other : Json} (same : document.Same other) : other.Same document :=
  Eq.symm same

theorem Same.trans {document other third : Json} (same : document.Same other)
    (same' : other.Same third) : document.Same third := Eq.trans same same'

theorem same_arr {items items' : List Json} (same : List.Forall₂ Same items items') :
    (arr items).Same (arr items') := by
  simp only [Same, sortKeys, sortKeysItems_eq_map]
  congr 1
  induction same with
  | nil => rfl
  | cons head _ ih => rw [List.map_cons, List.map_cons, ih, head]

/-- Objects with the same keys and the same sorted members have one sorted form. -/
theorem sortKeys_obj_of_lookup {members members' : List (Text × Json)}
    (distinct : (members.map Prod.fst).Nodup) (distinct' : (members'.map Prod.fst).Nodup)
    (keys : ∀ key, key ∈ members.map Prod.fst ↔ key ∈ members'.map Prod.fst)
    (values : ∀ key value value', lookup key members = some value →
      lookup key members' = some value' → value.Same value') :
    (obj members).Same (obj members') := by
  let sorted (members : List (Text × Json)) := members.map fun member =>
    (member.1, member.2.sortKeys)
  have sortedKeys (members : List (Text × Json)) :
      (sorted members).map Prod.fst = members.map Prod.fst := by
    simp [sorted, Function.comp_def]
  have again (members : List (Text × Json)) : (obj (sorted members)).sortKeys =
      (obj members).sortKeys := by
    simp [sortKeys, sortKeysMembers_eq_map, sorted, Function.comp_def, sortKeys_sortKeys]
  -- A sorted member of one object is a sorted member of the other.
  have included {members members' : List (Text × Json)}
      (distinct : (members.map Prod.fst).Nodup) (distinct' : (members'.map Prod.fst).Nodup)
      (keys : ∀ key, key ∈ members.map Prod.fst → key ∈ members'.map Prod.fst)
      (values : ∀ key value value', lookup key members = some value →
        lookup key members' = some value' → value.Same value') :
      ∀ member ∈ sorted members, member ∈ sorted members' := by
    intro member listed
    obtain ⟨⟨key, value⟩, inside, rfl⟩ := List.mem_map.mp listed
    obtain ⟨⟨_, value'⟩, inside', rfl⟩ :=
      List.mem_map.mp (keys key (List.mem_map.mpr ⟨_, inside, rfl⟩))
    have same := values _ value value' ((lookup_eq_some distinct).mpr inside)
      ((lookup_eq_some distinct').mpr inside')
    exact List.mem_map.mpr ⟨_, inside', by rw [same]⟩
  have perm : (sorted members).Perm (sorted members') := by
    refine (List.perm_ext_iff_of_nodup ?_ ?_).mpr fun member => ⟨?_, ?_⟩
    · exact List.Nodup.of_map Prod.fst (sortedKeys members ▸ distinct)
    · exact List.Nodup.of_map Prod.fst (sortedKeys members' ▸ distinct')
    · exact included distinct distinct' (fun key => (keys key).mp) values member
    · exact included distinct' distinct (fun key => (keys key).mpr)
        (fun key value value' found found' => (values key value' value found' found).symm) member
  have whole := sortKeys_obj_perm (sortedKeys members ▸ distinct) perm
  rw [again, again] at whole
  exact whole

/-! ## Values in a document -/

mutual

/-- The document holds the value: the same leaves, as many items, and objects with exactly
the same keys. -/
def HeldBy : Json → Json → Prop
  | arr items, document => ∃ found, document = arr found ∧ HeldByItems items found
  | obj members, document =>
    ∃ found, document = obj found ∧ hasExactly (members.map Prod.fst) found = true ∧
      HeldByMembers members found
  | leaf, document => document = leaf

def HeldByItems : List Json → List Json → Prop
  | [], found => found = []
  | item :: items, found =>
    ∃ first rest, found = first :: rest ∧ HeldBy item first ∧ HeldByItems items rest

def HeldByMembers : List (Text × Json) → List (Text × Json) → Prop
  | [], _ => True
  | (key, value) :: members, found => HeldBy value (field found key) ∧ HeldByMembers members found

end

theorem heldByItems_iff {items found : List Json} :
    HeldByItems items found ↔ List.Forall₂ HeldBy items found := by
  induction items generalizing found with
  | nil => simp [HeldByItems]
  | cons item items ih =>
    rw [HeldByItems, List.forall₂_cons_left_iff]
    simp only [ih]
    constructor
    · rintro ⟨first, rest, rfl, held, each⟩
      exact ⟨first, rest, held, each, rfl⟩
    · rintro ⟨first, rest, held, each, rfl⟩
      exact ⟨first, rest, rfl, held, each⟩

theorem heldByMembers_iff {members found : List (Text × Json)} :
    HeldByMembers members found ↔ ∀ member ∈ members, member.2.HeldBy (field found member.1) := by
  induction members with
  | nil => simp [HeldByMembers]
  | cons member members ih =>
    obtain ⟨key, value⟩ := member
    rw [HeldByMembers, ih, List.forall_mem_cons]

theorem hasExactly_iff {keys : List Text} {members : List (Text × Json)} :
    hasExactly keys members = true ↔ ∀ key, key ∈ members.map Prod.fst ↔ key ∈ keys := by
  rw [hasExactly, decide_eq_true_eq]
  constructor
  · rintro ⟨forth, back⟩ key
    exact ⟨forth key, back key⟩
  · exact fun each => ⟨fun key => (each key).mp, fun key => (each key).mpr⟩

mutual

/-- The sorted form of a value holds it. -/
theorem heldBy_sortKeys : ∀ value : Json, value.Distinct → value.HeldBy value.sortKeys
  | null, _ => rfl
  | bool _, _ => rfl
  | int _, _ => rfl
  | float _, _ => rfl
  | str _, _ => rfl
  | arr items, distinct => ⟨_, rfl, heldByItems_sortKeys items distinct⟩
  | obj members, distinct => by
    refine ⟨_, rfl, ?_, heldByMembers_iff.mpr fun member listed => ?_⟩
    · exact hasExactly_iff.mpr fun key => mem_keys_sortMembers
    · have found := lookup_sortMembers distinct.1 ((lookup_eq_some distinct.1).mpr listed)
      rw [field, found]
      exact heldBy_of_mem_sortKeys members distinct.2 member listed

theorem heldByItems_sortKeys : ∀ items : List Json, DistinctItems items →
    HeldByItems items (sortKeysItems items)
  | [], _ => rfl
  | item :: items, distinct =>
    ⟨_, _, rfl, heldBy_sortKeys item distinct.1, heldByItems_sortKeys items distinct.2⟩

theorem heldBy_of_mem_sortKeys : ∀ members : List (Text × Json), DistinctMembers members →
    ∀ member ∈ members, member.2.HeldBy member.2.sortKeys
  | [], _, _, outside => (nomatch outside)
  | (_, value) :: members, distinct, member, listed => by
    rcases List.mem_cons.mp listed with rfl | later
    · exact heldBy_sortKeys value distinct.1
    · exact heldBy_of_mem_sortKeys members distinct.2 member later

end

mutual

/-- A value is the document that holds it, up to the order of members. -/
theorem same_of_heldBy : ∀ value document : Json, value.Distinct → document.Distinct →
    value.HeldBy document → value.Same document
  | null, _, _, _, held => congrArg sortKeys (Eq.symm held)
  | bool _, _, _, _, held => congrArg sortKeys (Eq.symm held)
  | int _, _, _, _, held => congrArg sortKeys (Eq.symm held)
  | float _, _, _, _, held => congrArg sortKeys (Eq.symm held)
  | str _, _, _, _, held => congrArg sortKeys (Eq.symm held)
  | arr items, document, distinct, distinct', ⟨found, same, each⟩ => by
    subst same
    exact same_arr (same_of_heldByItems items found distinct distinct' each)
  | obj members, document, distinct, distinct', ⟨found, same, exact_, each⟩ => by
    subst same
    refine sortKeys_obj_of_lookup distinct.1 distinct'.1
      (fun key => (hasExactly_iff.mp exact_ key).symm) fun key value value' at_ at' => ?_
    have listed := (lookup_eq_some distinct.1).mp at_
    have listed' := (lookup_eq_some distinct'.1).mp at'
    have held := same_of_heldByMembers members found distinct.2 each (key, value) listed
    rw [field, at'] at held
    exact held (distinctMembers_iff.mp distinct'.2 _ listed')

theorem same_of_heldByItems : ∀ items found : List Json, DistinctItems items →
    DistinctItems found → HeldByItems items found → List.Forall₂ Same items found
  | [], _, _, _, held => by rw [HeldByItems] at held; rw [held]; exact .nil
  | item :: items, found, distinct, distinct', ⟨first, rest, same, held, each⟩ => by
    subst same
    exact .cons (same_of_heldBy item first distinct.1 distinct'.1 held)
      (same_of_heldByItems items rest distinct.2 distinct'.2 each)

theorem same_of_heldByMembers : ∀ members found : List (Text × Json), DistinctMembers members →
    HeldByMembers members found → ∀ member ∈ members, (field found member.1).Distinct →
      member.2.Same (field found member.1)
  | [], _, _, _, _, outside => (nomatch outside)
  | (key, value) :: members, found, distinct, ⟨held, each⟩, member, listed => by
    rcases List.mem_cons.mp listed with rfl | later
    · exact fun distinct' => same_of_heldBy value _ distinct.1 distinct' held
    · exact same_of_heldByMembers members found distinct.2 each member later

end

mutual

theorem distinct_of_plain {floats : Prop} : ∀ value : Json, value.Plain floats → value.Distinct
  | null, _ => trivial
  | bool _, _ => trivial
  | int _, _ => trivial
  | float _, _ => trivial
  | str _, _ => trivial
  | arr items, plain => distinctItems_of_plain items plain
  | obj members, plain => ⟨plain.1, distinctMembers_of_plain members plain.2⟩

theorem distinctItems_of_plain {floats : Prop} : ∀ items : List Json, PlainItems floats items →
    DistinctItems items
  | [], _ => trivial
  | item :: items, plain =>
    ⟨distinct_of_plain item plain.1, distinctItems_of_plain items plain.2⟩

theorem distinctMembers_of_plain {floats : Prop} : ∀ members : List (Text × Json),
    PlainMembers floats members → DistinctMembers members
  | [], _ => trivial
  | (_, value) :: members, plain =>
    ⟨distinct_of_plain value plain.2.1, distinctMembers_of_plain members plain.2.2⟩

end

/-! ## Deciding what is plain -/

section Decide

variable (floats : Prop) [Decidable floats]

mutual

def decidePlain : (value : Json) → Decidable (value.Plain floats)
  | null => .isTrue trivial
  | bool _ => .isTrue trivial
  | int _ => .isTrue trivial
  | float (.finite _) => inferInstanceAs (Decidable floats)
  | float (.infinite _) => .isFalse id
  | float .nan => .isFalse id
  | str t => inferInstanceAs (Decidable t.NoSurrogate)
  | arr items => decidePlainItems items
  | obj members =>
    have := decidePlainMembers members
    inferInstanceAs (Decidable (_ ∧ _))

def decidePlainItems : (items : List Json) → Decidable (PlainItems floats items)
  | [] => .isTrue trivial
  | item :: items =>
    have := decidePlain item
    have := decidePlainItems items
    inferInstanceAs (Decidable (_ ∧ _))

def decidePlainMembers : (members : List (Text × Json)) → Decidable (PlainMembers floats members)
  | [] => .isTrue trivial
  | (_, value) :: members =>
    have := decidePlain value
    have := decidePlainMembers members
    inferInstanceAs (Decidable (_ ∧ _ ∧ _))

end

instance (value : Json) : Decidable (value.Plain floats) := decidePlain floats value

end Decide

end Json

end Codec
