import CathedralCompute.Codec.JsonSorted
import CathedralCompute.PolicyRegistry.State
import Mathlib.Algebra.Order.BigOperators.Group.List

/-!
# The texts of the last accepted registry

The texts that a registry leaves in the row are short enough for their own readers. These
return nothing but what was written, in the order of the ids, and they return it where the
years of the times have four digits: `strftime` writes shorter years shorter, and the readers
do not take these.

## Main results

* `statesOf_of_statesText` — the objects of states are read back
* `Snapshot.Sound.exists_profilesText`, `Snapshot.Sound.exists_keysText` — so are those of a
  verified registry from year 1000 on
-/

set_option autoImplicit false

namespace Cathedral.PolicyRegistry

open Codec Semantics

/-! ## Texts -/

theorem utf8_of_ascii {t : Text} (ascii : t.IsAscii) : t.utf8 = some t.ascii := by
  have plain : t.any CodePoint.isSurrogate = false := by
    rw [List.any_eq_false]
    intro c member
    simpa using ascii.noSurrogate c member
  have octets : t.flatMap CodePoint.utf8 = t.ascii := by
    induction t with
    | nil => rfl
    | cons c t ih =>
      obtain ⟨small, rest⟩ := Text.isAscii_cons.mp ascii
      rw [List.any_cons, Bool.or_eq_false_iff] at plain
      rw [List.flatMap_cons, ih rest plain.2, CodePoint.utf8, if_pos small]
      rfl
  rw [Text.utf8, if_neg (by rw [plain]; decide), octets]

theorem plainTime_of_ascii (p : Platform) {t : Text} (ascii : t.IsAscii) : plainTime p t = t := by
  have same : ∀ place : ℕ, ∀ c ∈ t,
      (if 0x80 ≤ c.val ∧ takesAnyDigit t place then ((p.unicodeDigit c).map digit).getD c else c) =
        c := by
    intro place c member
    rw [if_neg]
    exact fun wide => absurd wide.1 (not_le_of_gt (ascii c member))
  unfold plainTime
  refine List.ext_getElem (List.length_mapIdx ..) fun place inside inside' => ?_
  rw [List.getElem_mapIdx]
  exact same place _ (List.getElem_mem _)

theorem strftimeSecond_ne_nil {time : Instant} (second : IsSecond time) :
    time.strftimeSecond ≠ [] :=
  List.length_pos_iff.mp (Instant.length_strftimeSecond second.1).1

/-- A written time is read back from year 1000 on, and no other is read. -/
theorem timestamp_strftimeSecond {p : Platform} {time back : Instant} (second : IsSecond time)
    (name : Text) : timestamp p (.str time.strftimeSecond) name = .ok back ↔
      time.IsModern ∧ back = time := by
  simp only [timestamp, textOfJson, Option.bind_some, demand_eq_ok,
    plainTime_of_ascii p (Instant.isAscii_strftimeSecond time),
    Instant.parseSecond_strftimeSecond second.1, second.2]

theorem timeText_strftimeSecond {p : Platform} {time : Instant} {t : Text}
    (second : IsSecond time) (name : Text) :
    timeText p (.str time.strftimeSecond) name = .ok t ↔
      time.IsModern ∧ t = time.strftimeSecond := by
  simp only [timeText, bind_eq_ok, timestamp_strftimeSecond second, pure_eq_ok]
  constructor
  · rintro ⟨_, ⟨modern, -⟩, rfl⟩
    exact ⟨modern, rfl⟩
  · rintro ⟨modern, rfl⟩
    exact ⟨_, ⟨modern, rfl⟩, rfl⟩

/-! ## Ids -/

/-- The characters of an id are written as they stand. -/
theorem plain_of_isRegistryId {id : Text} (valid : isRegistryId id = true) :
    (∀ c ∈ id, escapeChar c = [c]) ∧ id.IsAscii ∧ id.length ≤ 128 := by
  have head : ∀ c : CodePoint, isIdHead c = true → 0x30 ≤ c.val ∧ c.val ≤ 0x7a ∧ c.val ≠ 0x5c := by
    intro c member
    simp only [isIdHead, Text.isDigit, Text.inRange, Bool.or_eq_true, Bool.and_eq_true,
      decide_eq_true_eq, Char.reduceToNat] at member
    omega
  have plain : ∀ c : CodePoint, 0x2d ≤ c.val ∧ c.val ≤ 0x7a ∧ c.val ≠ 0x5c →
      escapeChar c = [c] := by
    intro c bounds
    have unescaped : shortEscape c = none := by
      simp only [shortEscape, quote, backslash, Fin.ext_iff]
      repeat rw [if_neg (by intro same; simp only [same] at bounds; revert bounds; decide)]
    simp only [escapeChar, unescaped]
    rw [if_pos (by omega)]
  cases id with
  | nil => cases valid
  | cons c rest =>
    simp only [isRegistryId, Bool.and_eq_true, List.all_eq_true, Bool.or_eq_true,
      decide_eq_true_eq] at valid
    obtain ⟨⟨first, short⟩, others⟩ := valid
    have bounds : ∀ d ∈ c :: rest, 0x2d ≤ d.val ∧ d.val ≤ 0x7a ∧ d.val ≠ 0x5c := by
      intro d member
      rcases List.mem_cons.mp member with rfl | member
      · have := head d first
        omega
      · rcases others d member with letter | mark
        · have := head d letter
          omega
        · simp only [List.mem_cons, List.not_mem_nil, or_false] at mark
          rcases mark with rfl | rfl | rfl <;> decide
    refine ⟨fun d member => plain d (bounds d member), fun d member => ?_, ?_⟩
    · have := bounds d member
      omega
    · rw [List.length_cons]
      omega

/-! ## Objects of states -/

section States

variable {α : Type} {p : Platform} {json : α → Json} {read : Json → Checked α} {invalid : Text}
  {states : List (Text × α)}

/-- The members of the object, as the writer sorts them. -/
theorem exists_sorted_states (json : α → Json) (states : List (Text × α)) :
    ∃ sorted : List (Text × α), sorted.Perm states ∧ Json.sortedFields
      (states.map fun entry => (entry.1, json entry.2)) =
        sorted.map fun entry => (entry.1, (json entry.2).sortKeys) := by
  refine ⟨states.insertionSort fun a b => a.1 ≤ b.1, List.perm_insertionSort _ _, ?_⟩
  rw [Json.sortedFields, Json.sortMembers, Json.sortKeysMembers_eq_map, List.map_map]
  exact (List.map_insertionSort (fun a b : Text × α => a.1 ≤ b.1)
    (fun a b : Text × Json => a.1 ≤ b.1) _ states fun _ _ _ _ => Iff.rfl).symm

theorem plain_statesJson (distinct : (states.map Prod.fst).Nodup)
    (ids : ∀ entry ∈ states, isRegistryId entry.1 = true)
    (plain : ∀ entry ∈ states, (json entry.2).Plain True) :
    (statesJson json states).Plain True := by
  refine ⟨?_, Json.plainMembers_iff.mpr fun member listed => ?_⟩
  · rw [List.map_map]
    exact distinct
  · obtain ⟨entry, among, rfl⟩ := List.mem_map.mp listed
    exact ⟨(plain_of_isRegistryId (ids entry among)).2.1.noSurrogate, plain entry among⟩

/-- What the reader returns for each of a list, it returns for the list. -/
theorem mapM_eq_ok {β γ : Type} {f : β → Checked γ} {g : γ → β} {outputs : List γ}
    (reads : ∀ output ∈ outputs, f (g output) = .ok output) :
    (outputs.map g).mapM f = .ok outputs := by
  induction outputs with
  | nil => rfl
  | cons output outputs ih =>
    obtain ⟨first, others⟩ := List.forall_mem_cons.mp reads
    rw [List.map_cons, List.mapM_cons, first, ih others]
    rfl

/-- Where the reader returns nothing else for each of a list, it returns nothing else for the
list. -/
theorem eq_of_mapM {β γ : Type} {f : β → Checked γ} {g : γ → β} {outputs results : List γ}
    (only : ∀ output ∈ outputs, ∀ result, f (g output) = .ok result → result = output)
    (read : (outputs.map g).mapM f = .ok results) : results = outputs := by
  induction outputs generalizing results with
  | nil => exact (Except.ok.inj read).symm
  | cons output outputs ih =>
    obtain ⟨first, others⟩ := List.forall_mem_cons.mp only
    simp only [List.map_cons, List.mapM_cons, bind_eq_ok, pure_eq_ok] at read
    obtain ⟨result, one, rest, more, rfl⟩ := read
    rw [first result one, ih others more]

/-- The members of the object stand in the order of their ids where the reader meets them. -/
theorem statesOf_eq {text : Text} (distinct : (states.map Prod.fst).Nodup)
    (ids : ∀ entry ∈ states, isRegistryId entry.1 = true)
    (plain : ∀ entry ∈ states, (json entry.2).Plain True)
    (written : statesText p json states = .ok text) (small : text.length ≤ maxRegistryBytes) :
    ∃ sorted : List (Text × α), sorted.Perm states ∧ statesOf p invalid read text =
      (sorted.map fun entry => (entry.1, (json entry.2).sortKeys)).mapM fun member => do
        require (isRegistryId member.1) (.policyRegistryError invalid)
        let state ← read member.2
        return (member.1, state) := by
  obtain ⟨sorted, perm, members⟩ := exists_sorted_states json states
  refine ⟨sorted, perm, ?_⟩
  rw [statesText, demand_eq_ok] at written
  split at written
  case isFalse => cases written
  case isTrue dumpable =>
    obtain rfl := Option.some.inj written
    have readable := Json.readable_sortKeys (faithful_strictHooks p) _
      (plain_statesJson distinct ids plain) dumpable
    have separators : Text.IsPrintable [0x2c] ∧ Text.IsPrintable [0x3a] := by decide
    have ascii : ((statesJson json states).sortKeys.render (compactStyle p)).IsAscii := by
      intro c member
      have range := printable_render separators.1 separators.2 _ readable c member
      omega
    have loaded := loads_render rfl rfl readable
    have octets := utf8_of_ascii ascii
    generalize (statesJson json states).sortKeys.render (compactStyle p) = text at *
    have object : membersOfJson (statesJson json states).sortKeys =
        some (sorted.map fun entry => (entry.1, (json entry.2).sortKeys)) :=
      congrArg some members
    have fits : require (text.ascii.length ≤ maxRegistryBytes)
        (Fault.policyRegistryError invalid) = .ok () := if_pos (by rwa [Text.length_ascii])
    have decoded : encoded text = .ok text.ascii := demand_eq_ok.mpr octets
    rw [statesOf, decoded]
    simp only [bind, Except.bind, fits, loaded, object, demand]

/-- **Round trip.** The object of states is read back, in the order of the ids. -/
theorem statesOf_of_statesText {text : Text} (distinct : (states.map Prod.fst).Nodup)
    (ids : ∀ entry ∈ states, isRegistryId entry.1 = true)
    (plain : ∀ entry ∈ states, (json entry.2).Plain True)
    (reads : ∀ entry ∈ states, read (json entry.2).sortKeys = .ok entry.2)
    (written : statesText p json states = .ok text) (small : text.length ≤ maxRegistryBytes) :
    ∃ sorted : List (Text × α), sorted.Perm states ∧
      statesOf p invalid read text = .ok sorted := by
  obtain ⟨sorted, perm, walk⟩ := statesOf_eq distinct ids plain written small
  refine ⟨sorted, perm, walk.trans (mapM_eq_ok fun entry member => ?_)⟩
  have among := perm.subset member
  simp only [bind_eq_ok, require_eq_ok, pure_eq_ok]
  exact ⟨(), ids entry among, entry.2, reads entry among, rfl⟩

/-- The reader returns nothing but what was written. -/
theorem perm_of_statesOf {text : Text} (distinct : (states.map Prod.fst).Nodup)
    (ids : ∀ entry ∈ states, isRegistryId entry.1 = true)
    (plain : ∀ entry ∈ states, (json entry.2).Plain True)
    (only : ∀ entry ∈ states, ∀ state, read (json entry.2).sortKeys = .ok state →
      state = entry.2)
    (written : statesText p json states = .ok text) (small : text.length ≤ maxRegistryBytes)
    {back : List (Text × α)} (loaded : statesOf p invalid read text = .ok back) :
    back.Perm states := by
  obtain ⟨sorted, perm, walk⟩ := statesOf_eq distinct ids plain written small
  rw [walk] at loaded
  obtain rfl := eq_of_mapM (fun entry member result one => by
    simp only [bind_eq_ok, require_eq_ok, pure_eq_ok] at one
    obtain ⟨_, -, state, own, rfl⟩ := one
    rw [only entry (perm.subset member) state own]) loaded
  exact perm

end States

/-- The text of an object of few states, each of a short text, is short. -/
theorem length_statesText_le {α : Type} {p : Platform} {json : α → Json}
    {states : List (Text × α)} {text : Text} {bound : ℕ}
    (ids : ∀ entry ∈ states, isRegistryId entry.1 = true)
    (short : ∀ entry ∈ states, ((json entry.2).sortKeys.render (compactStyle p)).length ≤ bound)
    (written : statesText p json states = .ok text) :
    text.length ≤ 2 + states.length * (132 + bound) := by
  rw [statesText, demand_eq_ok] at written
  split at written
  case isFalse => cases written
  case isTrue =>
    obtain rfl := Option.some.inj written
    refine (length_render_sortKeys_le_sum rfl rfl _).trans (Nat.add_le_add_left ?_ 2)
    have each : ∀ n ∈ (states.map fun entry => (entry.1, json entry.2)).map (fun member =>
        (quoted member.1).length + 2 + (member.2.sortKeys.render (compactStyle p)).length),
        n ≤ 132 + bound := by
      rw [List.map_map]
      intro n member
      obtain ⟨entry, among, rfl⟩ := List.mem_map.mp member
      obtain ⟨verbatim, -, length⟩ := plain_of_isRegistryId (ids entry among)
      have name := length_quoted_of_verbatim verbatim
      have value := short entry among
      simp only [Function.comp]
      omega
    have total := List.sum_le_card_nsmul _ _ each
    rw [List.length_map, List.length_map] at total
    exact total

/-- Few states of short texts can be written. The reader returns nothing but these, and it
returns them if it reads each of them. -/
theorem exists_statesText {α β : Type} {p : Platform} {json : α → Json} {read : Json → Checked α}
    {invalid : Text} {entry : β → Text × α} {sources : List β} {good : β → Prop}
    (bound count : ℕ) (distinct : ((sources.map entry).map Prod.fst).Nodup)
    (each : ∀ source ∈ sources, isRegistryId (entry source).1 = true ∧
      (json (entry source).2).Plain True ∧ (json (entry source).2).dumpable = true ∧
      ((json (entry source).2).sortKeys.render (compactStyle p)).length ≤ bound ∧
      ∀ back, read (json (entry source).2).sortKeys = .ok back ↔
        good source ∧ back = (entry source).2)
    (few : sources.length ≤ count) (fits : 2 + count * (132 + bound) ≤ maxRegistryBytes) :
    ∃ text, statesText p json (sources.map entry) = .ok text ∧
      (∀ back, statesOf p invalid read text = .ok back → back.Perm (sources.map entry)) ∧
      ((∀ source ∈ sources, good source) → ∃ back, statesOf p invalid read text = .ok back) := by
  have all {P : Text × α → Prop} (known : ∀ source ∈ sources, P (entry source)) :
      ∀ state ∈ sources.map entry, P state := List.forall_mem_map.mpr known
  have ids := all (P := fun state => isRegistryId state.1 = true) fun source member =>
    (each source member).1
  have plain := all (P := fun state => (json state.2).Plain True) fun source member =>
    (each source member).2.1
  have dumpable : (statesJson json (sources.map entry)).dumpable = true := by
    refine Json.forall_mem_dumpableMembers.mpr fun member listed => ?_
    obtain ⟨state, among, rfl⟩ := List.mem_map.mp listed
    obtain ⟨source, member, rfl⟩ := List.mem_map.mp among
    exact (each source member).2.2.1
  have written : statesText p json (sources.map entry) =
      .ok ((statesJson json (sources.map entry)).sortKeys.render (compactStyle p)) :=
    demand_eq_ok.mpr (if_pos dumpable)
  have small := length_statesText_le ids (all fun source member => (each source member).2.2.2.1)
    written
  have total := Nat.mul_le_mul_right (132 + bound) few
  rw [List.length_map] at small
  refine ⟨_, written, fun back loaded => ?_, fun readable => ?_⟩
  · exact perm_of_statesOf distinct ids plain (all fun source member back one =>
      (((each source member).2.2.2.2 back).mp one).2) written (by omega) loaded
  · obtain ⟨sorted, -, reads⟩ := @statesOf_of_statesText _ p json read invalid _ _ distinct ids
      plain (all fun source member =>
        ((each source member).2.2.2.2 _).mpr ⟨readable source member, rfl⟩) written (by omega)
    exact ⟨sorted, reads⟩

/-! ## States of a verified registry -/

theorem length_json_strftimeSecond_le {style : Style} {key : Text} {named bound : ℕ}
    {time : Instant} (second : IsSecond time) (name : key.length ≤ named)
    (within : 12 * named + 246 ≤ bound) :
    MemberWithin style bound (key, .str time.strftimeSecond) :=
  memberWithin_str name (Instant.length_strftimeSecond second.1).2 (by omega)

section Profile

variable {registryFrom registryUntil : Instant} {profile : PolicyProfile}

theorem ProfileStatus.length_value_le (status : ProfileStatus) : status.value.length ≤ 8 := by
  cases status <;> decide

theorem ProfileStatus.isAscii_value (status : ProfileStatus) : status.value.IsAscii := by
  cases status <;> decide

theorem ProfileStatus.find?_value (status : ProfileStatus) :
    (profileStatuses.find? fun option => option.1 = status.value).map Prod.snd = some status := by
  cases status <;> decide

theorem ProfileState.distinct (state : ProfileState) : (state.document.map Prod.fst).Nodup :=
  (by decide : (["status", "status_changed_at"] : List Text).Nodup)

theorem PolicyProfile.Sound.length_json_le (sound : profile.Sound registryFrom registryUntil)
    (p : Platform) : (profile.state.json.sortKeys.render (compactStyle p)).length ≤ 626 :=
  @length_render_sortKeys_le _ rfl rfl _ [174, 450]
    (.cons (memberWithin_str (by decide : _ ≤ 6) profile.status.length_value_le (by decide)) <|
      .cons (length_json_strftimeSecond_le sound.seconds.1 (by decide : _ ≤ 17) (by decide)) .nil)

theorem PolicyProfile.plain_state (profile : PolicyProfile) : profile.state.json.Plain True :=
  ⟨profile.state.distinct, Text.IsAscii.noSurrogate (by decide),
    profile.status.isAscii_value.noSurrogate, Text.IsAscii.noSurrogate (by decide),
    (Instant.isAscii_strftimeSecond profile.statusChangedAt).noSurrogate, trivial⟩

/-- The state of a profile is read back from year 1000 on. -/
theorem profileStateOf_state (sound : profile.Sound registryFrom registryUntil) (p : Platform)
    (back : ProfileState) : profileStateOf p profile.state.json.sortKeys = .ok back ↔
      profile.statusChangedAt.IsModern ∧ back = profile.state := by
  have fields := Json.field_sortedFields profile.state.distinct
  have object : (membersOfJson profile.state.json.sortKeys).filter
      (hasExactly ["status", "status_changed_at"]) =
        some (Json.sortedFields profile.state.document) :=
    Option.filter_eq_some_iff.mpr ⟨rfl, Json.hasExactly_sortedFields.trans rfl⟩
  have status : (textOfJson (field (Json.sortedFields profile.state.document) "status")).bind
      (fun t => (profileStatuses.find? fun option => option.1 = t).map Prod.snd) =
        some profile.status := by
    rw [fields, Json.textOfJson_sortKeys]
    exact profile.status.find?_value
  have time (t : Text) : timeText p (field (Json.sortedFields profile.state.document)
      "status_changed_at") "persisted profile status_changed_at" = .ok t ↔
        profile.statusChangedAt.IsModern ∧ t = profile.statusChangedAt.strftimeSecond := by
    rw [fields]
    exact timeText_strftimeSecond sound.seconds.1 _
  simp only [profileStateOf, bind_eq_ok, demand_eq_ok, pure_eq_ok, object, status, time,
    Option.some.injEq, exists_eq_left']
  constructor
  · rintro ⟨_, ⟨modern, rfl⟩, rfl⟩
    exact ⟨modern, rfl⟩
  · rintro ⟨modern, rfl⟩
    exact ⟨_, ⟨modern, rfl⟩, rfl⟩

end Profile

section Key

variable {registryFrom registryUntil : Instant} {key : ReceiptVerificationKey}

theorem KeyStatus.length_value_le (status : KeyStatus) : status.value.length ≤ 8 := by
  cases status <;> decide

theorem KeyStatus.isAscii_value (status : KeyStatus) : status.value.IsAscii := by
  cases status <;> decide

theorem KeyStatus.find?_value (status : KeyStatus) :
    (keyStatuses.find? fun option => option.1 = status.value).map Prod.snd = some status := by
  cases status <;> decide

theorem KeyState.distinct (state : KeyState) : (state.document.map Prod.fst).Nodup :=
  (by decide : (["status", "status_changed_at", "public_key_base64", "valid_from",
    "valid_until"] : List Text).Nodup)

theorem ReceiptVerificationKey.Sound.length_json_le
    (sound : key.Sound registryFrom registryUntil) (p : Platform) :
    (key.state.json.sortKeys.render (compactStyle p)).length ≤ 2108 := by
  have octets : key.state.publicKeyBase64.length ≤ 44 := by
    rw [ReceiptVerificationKey.state, length_base64, sound.octets]
  obtain ⟨changed, from_, until_⟩ := sound.seconds
  exact @length_render_sortKeys_le _ rfl rfl _ [174, 450, 738, 366, 378]
    (.cons (memberWithin_str (by decide : _ ≤ 6) key.status.length_value_le (by decide)) <|
      .cons (length_json_strftimeSecond_le changed (by decide : _ ≤ 17) (by decide)) <|
      .cons (memberWithin_str (by decide : _ ≤ 17) octets (by decide)) <|
      .cons (length_json_strftimeSecond_le from_ (by decide : _ ≤ 10) (by decide)) <|
      .cons (length_json_strftimeSecond_le until_ (by decide : _ ≤ 11) (by decide)) .nil)

theorem ReceiptVerificationKey.plain_state (key : ReceiptVerificationKey) :
    key.state.json.Plain True :=
  ⟨key.state.distinct, Text.IsAscii.noSurrogate (by decide),
    key.status.isAscii_value.noSurrogate, Text.IsAscii.noSurrogate (by decide),
    (Instant.isAscii_strftimeSecond key.statusChangedAt).noSurrogate,
    Text.IsAscii.noSurrogate (by decide), (isAscii_base64 key.publicKey).noSurrogate,
    Text.IsAscii.noSurrogate (by decide), (Instant.isAscii_strftimeSecond key.validFrom).noSurrogate,
    Text.IsAscii.noSurrogate (by decide), (Instant.isAscii_strftimeSecond key.validUntil).noSurrogate,
    trivial⟩

/-- The state of a receipt key is read back from year 1000 on. -/
theorem keyStateOf_state (sound : key.Sound registryFrom registryUntil) (p : Platform)
    (back : KeyState) : keyStateOf p key.state.json.sortKeys = .ok back ↔
      key.Modern ∧ back = key.state := by
  have fields := Json.field_sortedFields key.state.distinct
  have octets : octetsOf (.str (base64 key.publicKey)) 32 keyStateInvalid keyStateInvalid =
      .ok key.publicKey := by
    simp only [octetsOf, bind_eq_ok, demand_eq_ok, require_eq_ok, pure_eq_ok]
    exact ⟨_, rfl, _, base64Decode_base64 _, (), ⟨sound.octets, rfl⟩, rfl⟩
  have object : (membersOfJson key.state.json.sortKeys).filter (hasExactly
      ["status", "status_changed_at", "public_key_base64", "valid_from", "valid_until"]) =
        some (Json.sortedFields key.state.document) :=
    Option.filter_eq_some_iff.mpr ⟨rfl, Json.hasExactly_sortedFields.trans rfl⟩
  have status : (textOfJson (.str key.status.value)).bind
      (fun t => (keyStatuses.find? fun option => option.1 = t).map Prod.snd) = some key.status :=
    key.status.find?_value
  obtain ⟨changed, from_, until_⟩ := sound.seconds
  simp only [keyStateOf, bind_eq_ok, demand_eq_ok, require_eq_ok, pure_eq_ok, object,
    Option.some.injEq, exists_eq_left', fields, Json.textOfJson_sortKeys]
  constructor
  · rintro ⟨_, named, _, decoded, _, changedRead, _, fromRead, _, untilRead, _, -, rfl⟩
    obtain rfl := Option.some.inj (named.symm.trans status)
    obtain rfl := Except.ok.inj (decoded.symm.trans octets)
    obtain ⟨modern, rfl⟩ := (timeText_strftimeSecond changed _).mp changedRead
    exact ⟨⟨modern, ((timestamp_strftimeSecond from_ _).mp fromRead).1,
      ((timestamp_strftimeSecond until_ _).mp untilRead).1⟩, rfl⟩
  · rintro ⟨⟨modern, modernFrom, modernUntil⟩, rfl⟩
    exact ⟨key.status, status, key.publicKey, octets, _,
      (timeText_strftimeSecond changed _).mpr ⟨modern, rfl⟩, key.validFrom,
      (timestamp_strftimeSecond from_ _).mpr ⟨modernFrom, rfl⟩, key.validUntil,
      (timestamp_strftimeSecond until_ _).mpr ⟨modernUntil, rfl⟩, (), sound.window.2.1, rfl⟩

end Key

section Verified

variable {snapshot : Snapshot}

theorem Snapshot.Sound.nodup_profileStates (sound : snapshot.Sound) :
    (snapshot.profileStates.map Prod.fst).Nodup := by
  rw [Snapshot.profileStates, List.map_map]
  exact sound.profileIds

theorem Snapshot.Sound.nodup_keyStates (sound : snapshot.Sound) :
    (snapshot.keyStates.map Prod.fst).Nodup := by
  rw [Snapshot.keyStates, List.map_map]
  exact sound.keyIds

/-- A verified registry leaves a text of its profiles in the row, which is read back as
nothing else, and is read from year 1000 on. -/
theorem Snapshot.Sound.exists_profilesText (sound : snapshot.Sound) (p : Platform) :
    ∃ text, statesText p ProfileState.json snapshot.profileStates = .ok text ∧
      (∀ back, decodeProfileStates p text = .ok back → back.Perm snapshot.profileStates) ∧
      ((∀ profile ∈ snapshot.profiles, profile.statusChangedAt.IsModern) →
        ∃ back, decodeProfileStates p text = .ok back) := by
  refine exists_statesText 626 maxRegistryProfiles sound.nodup_profileStates
    (fun profile member => ?_) sound.profileCount (by decide)
  have verified := sound.profiles profile member
  exact ⟨verified.id, profile.plain_state, rfl, verified.length_json_le p,
    profileStateOf_state verified p⟩

/-- So does it of its receipt keys. -/
theorem Snapshot.Sound.exists_keysText (sound : snapshot.Sound) (p : Platform) :
    ∃ text, statesText p KeyState.json snapshot.keyStates = .ok text ∧
      (∀ back, decodeReceiptKeyStates p text = .ok back → back.Perm snapshot.keyStates) ∧
      ((∀ key ∈ snapshot.receiptSigningKeys, key.Modern) →
        ∃ back, decodeReceiptKeyStates p text = .ok back) := by
  refine exists_statesText 2108 128 sound.nodup_keyStates (fun key member => ?_) sound.keyCount
    (by decide)
  have verified := sound.keys key member
  exact ⟨verified.id, key.plain_state, rfl, verified.length_json_le p, keyStateOf_state verified p⟩

end Verified

end Cathedral.PolicyRegistry
