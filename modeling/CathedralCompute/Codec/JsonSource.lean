import CathedralCompute.Codec.JsonRoundTrip

/-!
# What a reader takes from its text

Every parser leaves a part of the text it was given. A string literal in a text without
raw surrogates is read as a text without surrogate pairs: two escapes that form one are
read as one character, and nothing else can put a low half behind a high one.

## Main results

* `parseChars_rest`, `rest_of_parseNumber` — what is left was there
* `unpaired_of_parseChars` — string literals hold no surrogate pair
* `noSurrogate_of_utf8Decode` — strict UTF-8 holds no raw surrogate
-/

set_option autoImplicit false

namespace Codec

/-! ## What is left -/

theorem skipSpace_subset (t : Text) : skipSpace t ⊆ t :=
  List.IsSuffix.subset (List.dropWhile_suffix _)

theorem consChar_eq_some {c : CodePoint} {read : Option (Text × Text)} {t rest : Text} :
    consChar c read = some (t, rest) ↔ ∃ tail, read = some (tail, rest) ∧ t = c :: tail := by
  cases read with
  | none => simp [consChar]
  | some found =>
    obtain ⟨tail, after⟩ := found
    simp only [consChar, Option.map_some, Option.some.injEq, Prod.mk.injEq]
    constructor
    · rintro ⟨rfl, rfl⟩
      exact ⟨tail, ⟨rfl, rfl⟩, rfl⟩
    · rintro ⟨_, ⟨rfl, rfl⟩, rfl⟩
      exact ⟨rfl, rfl⟩

theorem parseChars_rest {t u rest : Text} (read : parseChars t = some (u, rest)) : rest ⊆ t := by
  fun_induction parseChars t generalizing u rest
  case case2 =>
    cases read
    exact List.subset_cons_self _ _
  -- a character behind which the reader goes on
  case case4 ih | case7 ih | case8 ih | case9 ih | case10 ih | case11 ih | case15 ih =>
    obtain ⟨_, read, -⟩ := consChar_eq_some.mp read
    repeat' first
      | exact ih read
      | refine List.subset_cons_of_subset _ ?_
  all_goals cases read

theorem rest_of_word {literal : String} {leaf value : Json} {t rest : Text}
    (read : word literal leaf t = some (value, rest)) : rest ⊆ t := by
  unfold word at read
  split at read
  · cases read
    exact (List.drop_suffix _ _).subset
  · cases read

theorem scanFraction_rest (t : Text) : (scanFraction t).2 ⊆ t := by
  unfold scanFraction
  split
  · exact List.Subset.refl _
  · split
    · exact List.subset_cons_of_subset _ (List.dropWhile_suffix _).subset
    · exact List.Subset.refl _

theorem scanSign_rest (t : Text) : (scanSign t).2 ⊆ t := by
  unfold scanSign
  split
  · exact List.Subset.refl _
  · split
    · exact List.subset_cons_self _ _
    · exact List.Subset.refl _

theorem scanExponent_rest (t : Text) : (scanExponent t).2 ⊆ t := by
  cases t with
  | nil => exact List.Subset.refl _
  | cons c rest =>
    simp only [scanExponent]
    split
    · exact List.subset_cons_of_subset _
        (List.Subset.trans (List.dropWhile_suffix _).subset (scanSign_rest rest))
    · exact List.Subset.refl _

theorem rest_of_scanInteger {t literal rest : Text} (read : scanInteger t = some (literal, rest)) :
    rest ⊆ t := by
  unfold scanInteger at read
  split at read
  · cases read
  · split at read
    · cases read
      exact List.subset_cons_self _ _
    · split at read
      · cases read
        exact List.subset_cons_of_subset _ (List.dropWhile_suffix _).subset
      · cases read

theorem rest_of_scanNumber {t literal rest : Text} {marked : Bool}
    (read : scanNumber t = some (literal, marked, rest)) : rest ⊆ t := by
  have unsigned {sign body : Text} (found : scanUnsigned sign body = some (literal, marked, rest)) :
      rest ⊆ body := by
    obtain ⟨⟨integer, after⟩, scanned, pair⟩ := Option.map_eq_some_iff.mp found
    cases pair
    exact List.Subset.trans (scanExponent_rest _)
      (List.Subset.trans (scanFraction_rest _) (rest_of_scanInteger scanned))
  unfold scanNumber at read
  split at read
  · exact List.Subset.trans (unsigned read) (List.tail_suffix t).subset
  · exact unsigned read

theorem orElse_cases {α : Type} {first second : Option α} {a : α}
    (found : (first <|> second) = some a) : first = some a ∨ second = some a := by
  cases first with
  | none => exact .inr (by simpa using found)
  | some b => exact .inl (by simpa using found)

theorem rest_of_parseWord {t rest : Text} {value : Json}
    (read : parseWord t = some (value, rest)) : rest ⊆ t := by
  obtain read | read := orElse_cases read
  · exact rest_of_word read
  · obtain read | read := orElse_cases read
    · exact rest_of_word read
    · exact rest_of_word read

theorem rest_of_parseNumber {hooks : Hooks} {t rest : Text} {value : Json}
    (read : parseNumber hooks t = some (value, rest)) : rest ⊆ t := by
  unfold parseNumber at read
  split at read
  · next scanned =>
    obtain ⟨_, -, pair⟩ := Option.map_eq_some_iff.mp read
    cases pair
    exact rest_of_scanNumber scanned
  · next scanned =>
    obtain ⟨_, -, pair⟩ := Option.map_eq_some_iff.mp read
    cases pair
    exact rest_of_scanNumber scanned
  · obtain ⟨⟨found, after⟩, words, read⟩ := Option.bind_eq_some_iff.mp read
    have left : after ⊆ t := by
      obtain words | words := orElse_cases words
      · exact rest_of_word words
      · obtain words | words := orElse_cases words
        · exact rest_of_word words
        · exact rest_of_word words
    simp only at read
    split at read
    · obtain ⟨_, -, pair⟩ := Option.map_eq_some_iff.mp read
      cases pair
      exact left
    · cases read

/-! ## String literals -/

/-- A character that is no half is no low half either. -/
theorem isLowSurrogate_eq_false {c : CodePoint} (plain : c.isSurrogate = false) :
    c.isHighSurrogate = false ∧ c.isLowSurrogate = false := by
  simp only [CodePoint.isSurrogate, CodePoint.isHighSurrogate, CodePoint.isLowSurrogate,
    Bool.and_eq_false_iff, decide_eq_false_iff_not] at plain ⊢
  omega

theorem unescape_plain {letter plain : CodePoint} (short : unescape letter = some plain) :
    plain.isSurrogate = false := by
  unfold unescape at short
  split_ifs at short <;> cases short <;> rfl

theorem hexValue_lt {c : CodePoint} {d : ℕ} (value : hexValue c = some d) : d < 16 := by
  unfold hexValue at value
  split_ifs at value with digit lower upper <;> cases value
  · simp only [Text.isDigit, Text.inRange, Bool.and_eq_true, decide_eq_true_eq,
      Char.reduceToNat] at digit
    omega
  · simp only [Text.inRange, Bool.and_eq_true, decide_eq_true_eq, Char.reduceToNat] at lower
    omega
  · simp only [Text.inRange, Bool.and_eq_true, decide_eq_true_eq, Char.reduceToNat] at upper
    omega

theorem hexValue4_lt {a b c d : CodePoint} {n : ℕ} (value : hexValue4 a b c d = some n) :
    n < 0x10000 := by
  simp only [hexValue4, Option.bind_eq_bind, Option.bind_eq_some_iff, Option.pure_def,
    Option.some.injEq] at value
  obtain ⟨a, ha, b, hb, c, hc, d, hd, rfl⟩ := value
  have := hexValue_lt ha
  have := hexValue_lt hb
  have := hexValue_lt hc
  have := hexValue_lt hd
  omega

theorem joinSurrogates_plain {high low : ℕ} (isHigh : 0xd800 ≤ high ∧ high ≤ 0xdbff)
    (isLow : 0xdc00 ≤ low ∧ low ≤ 0xdfff) : (joinSurrogates high low).isSurrogate = false := by
  have value : (0x10000 + (high - 0xd800) * 0x400 + (low - 0xdc00)) % 0x110000 =
      0x10000 + (high - 0xd800) * 0x400 + (low - 0xdc00) := Nat.mod_eq_of_lt (by omega)
  simp only [joinSurrogates, CodePoint.isSurrogate, Fin.val_ofNat, value, Bool.and_eq_false_iff,
    decide_eq_false_iff_not]
  omega

/-- The text does not start with a low half. -/
def NoLowHead (t : Text) : Prop := ∀ c ∈ t.head?, c.isLowSurrogate = false

/-- Put before a text that starts with no low half, a character makes no pair. -/
theorem unpaired_cons {c : CodePoint} {t : Text} (rest : t.Unpaired)
    (apart : c.isHighSurrogate = false ∨ NoLowHead t) : Text.Unpaired (c :: t) := by
  cases t with
  | nil => exact .singleton c
  | cons d t =>
    refine .cons_cons (fun ⟨high, low⟩ => ?_) rest
    rcases apart with none | head
    · rw [none] at high
      cases high
    · rw [head d rfl] at low
      cases low

/-- **String literals.** What is read from a text without raw surrogates holds no pair, and
starts with no low half unless the text does so with an escape. -/
theorem unpaired_of_parseChars {t u rest : Text} (plain : t.NoSurrogate)
    (read : parseChars t = some (u, rest)) : u.Unpaired ∧ (NoLowEscape t → NoLowHead u) := by
  have behind (front : Text) {t : Text} (plain : Text.NoSurrogate (front ++ t)) : t.NoSurrogate :=
    fun c member => plain c (List.mem_append_right front member)
  -- behind a character that is neither half, any text may stand
  have whole {c : CodePoint} {tail : Text} (neither : c.isSurrogate = false)
      (rest : tail.Unpaired) : Text.Unpaired (c :: tail) ∧ NoLowHead (c :: tail) :=
    ⟨unpaired_cons rest (.inl (isLowSurrogate_eq_false neither).1), by
      rintro _ ⟨⟩
      exact (isLowSurrogate_eq_false neither).2⟩
  have high {unit : ℕ} (within : 0xd800 ≤ unit ∧ unit ≤ 0xdbff) :
      CodePoint.isLowSurrogate (.ofNat _ unit) = false := by
    simp only [CodePoint.isLowSurrogate, Fin.val_ofNat, Bool.and_eq_false_iff,
      decide_eq_false_iff_not]
    omega
  fun_induction parseChars t generalizing u rest
  case case2 =>
    cases read
    exact ⟨.nil, fun _ _ none => absurd none (Option.not_mem_none _)⟩
  case case4 short _ ih =>
    obtain ⟨tail, inner, rfl⟩ := consChar_eq_some.mp read
    obtain ⟨unpaired, -⟩ := ih (fun c member => plain c (by simp [member])) inner
    have both := whole (unescape_plain short) unpaired
    exact ⟨both.1, fun _ => both.2⟩
  case case7 within _ _ _ _ _ _ _ _ _ _ lowWithin _ _ ih =>
    obtain ⟨tail, inner, rfl⟩ := consChar_eq_some.mp read
    obtain ⟨unpaired, -⟩ := ih (fun c member => plain c (by simp [member])) inner
    have both := whole (joinSurrogates_plain within lowWithin) unpaired
    exact ⟨both.1, fun _ => both.2⟩
  case case8 within mark letter l1 l2 l3 l4 after escaped low value notLow _ _ ih =>
    have alone : NoLowEscape (mark :: letter :: l1 :: l2 :: l3 :: l4 :: after) := by
      rintro _ _ _ _ _ ⟨⟩
      exact ⟨low, value, notLow⟩
    obtain ⟨tail, inner, rfl⟩ := consChar_eq_some.mp read
    obtain ⟨unpaired, head⟩ :=
      ih (behind [_, _, _, _, _, _] plain) inner
    exact ⟨unpaired_cons unpaired (.inr (head alone)), fun _ => by
      rintro _ ⟨⟩
      exact high within⟩
  case case9 within mark letter l1 l2 l3 l4 after notEscaped _ _ ih =>
    have alone : NoLowEscape (mark :: letter :: l1 :: l2 :: l3 :: l4 :: after) := by
      rintro _ _ _ _ _ ⟨⟩
      exact absurd ⟨rfl, rfl⟩ notEscaped
    obtain ⟨tail, inner, rfl⟩ := consChar_eq_some.mp read
    obtain ⟨unpaired, head⟩ :=
      ih (behind [_, _, _, _, _, _] plain) inner
    exact ⟨unpaired_cons unpaired (.inr (head alone)), fun _ => by
      rintro _ ⟨⟩
      exact high within⟩
  case case10 within short notLong _ _ ih =>
    have alone : NoLowEscape short := fun l1 l2 l3 l4 after same =>
      (notLong _ _ l1 l2 l3 l4 after same).elim
    obtain ⟨tail, inner, rfl⟩ := consChar_eq_some.mp read
    obtain ⟨unpaired, head⟩ := ih (fun c member => plain c (by simp [member])) inner
    exact ⟨unpaired_cons unpaired (.inr (head alone)), fun _ => by
      rintro _ ⟨⟩
      exact high within⟩
  case case11 h1 h2 h3 h4 after unit value notHigh _ _ ih =>
    obtain ⟨tail, inner, rfl⟩ := consChar_eq_some.mp read
    obtain ⟨unpaired, -⟩ := ih (fun c member => plain c (by simp [member])) inner
    have small := hexValue4_lt value
    have single : CodePoint.isHighSurrogate (.ofNat _ unit) = false := by
      simp only [CodePoint.isHighSurrogate, Fin.val_ofNat, Bool.and_eq_false_iff,
        decide_eq_false_iff_not]
      omega
    refine ⟨unpaired_cons unpaired (.inl single), fun alone => ?_⟩
    obtain ⟨unit', value', notLow⟩ := alone h1 h2 h3 h4 after rfl
    obtain rfl := Option.some.inj (value.symm.trans value')
    rintro _ ⟨⟩
    simp only [CodePoint.isLowSurrogate, Fin.val_ofNat, Bool.and_eq_false_iff,
      decide_eq_false_iff_not]
    omega
  case case15 ih =>
    obtain ⟨tail, inner, rfl⟩ := consChar_eq_some.mp read
    obtain ⟨unpaired, -⟩ := ih (fun c member => plain c (by simp [member])) inner
    have both := whole (plain _ List.mem_cons_self) unpaired
    exact ⟨both.1, fun _ => both.2⟩
  all_goals cases read

/-! ## Strict UTF-8 -/

theorem noSurrogate_of_utf8DecodeFrom {octets : Bytes} {pending : Pending} {t : Text}
    (read : utf8DecodeFrom false pending octets = some t) : t.NoSurrogate := by
  induction octets generalizing pending t with
  | nil =>
    unfold utf8DecodeFrom at read
    split at read <;> cases read
    exact List.forall_mem_nil _
  | cons octet octets ih =>
    -- one decoded character, before those that follow
    have cons {c : CodePoint} (plain : c.isSurrogate = false)
        (read : (utf8DecodeFrom false ⟨0, 0, 0⟩ octets).map (List.cons c) = some t) :
        t.NoSurrogate := by
      obtain ⟨rest, inner, rfl⟩ := Option.map_eq_some_iff.mp read
      exact List.forall_mem_cons.mpr ⟨plain, ih inner⟩
    unfold utf8DecodeFrom at read
    simp only at read
    split at read
    · split at read
      · next ascii =>
        refine cons ?_ read
        simp only [CodePoint.isSurrogate, Fin.val_ofNat, Bool.and_eq_false_iff,
          decide_eq_false_iff_not]
        omega
      · split_ifs at read <;> exact ih read
    · split at read
      · split at read
        · split at read
          · split at read
            · cases read
            · next fits =>
              refine cons ?_ read
              simpa using (not_or.mp fits).2
          · cases read
        · exact ih read
      · cases read

/-- Strict UTF-8 holds no raw surrogate. -/
theorem noSurrogate_of_utf8Decode {octets : Bytes} {t : Text}
    (read : utf8Decode false octets = some t) : t.NoSurrogate :=
  noSurrogate_of_utf8DecodeFrom read

end Codec
