import CathedralCompute.Codec.Json
import Mathlib.Data.List.TakeWhile

/-!
# Reading back what was written

A document written with the compact separators is read back unchanged, when its
numbers are readable under the installed hooks, its strings hold no surrogate
pair and its objects pass the hook on pairs. The condition is per document
(`Json.Readable`): it says nothing about the numbers a document does not hold.

The proof follows the grammar. A string literal is undone character by
character, a numeral is scanned to its end because nothing that may follow it
continues a number, and arrays and objects go by induction on the document with
the length of the text as a bound on the fuel.

## Main results

* `parseChars_quoted` — string literals
* `loads_render` — documents
-/

set_option autoImplicit false

namespace Codec

/-! ## Strings -/

theorem hexValue_hexDigit {d : ℕ} (small : d < 16) :
    hexValue (if d < 10 then .ofNat _ (48 + d) else .ofNat _ (87 + d)) = some d := by
  revert small
  revert d
  decide

/-- The four digits of a unit denote it. -/
theorem hexValue4_hex4 {n : ℕ} (small : n < 0x10000) :
    ∃ a b c d, hex4 n = [a, b, c, d] ∧ hexValue4 a b c d = some n := by
  refine ⟨_, _, _, _, rfl, ?_⟩
  unfold hexValue4
  rw [hexValue_hexDigit (Nat.mod_lt _ (by omega)), hexValue_hexDigit (Nat.mod_lt _ (by omega)),
    hexValue_hexDigit (Nat.mod_lt _ (by omega)), hexValue_hexDigit (Nat.mod_lt _ (by omega))]
  simp only [Option.bind_eq_bind, Option.bind_some, Option.pure_def, Option.some.injEq]
  omega

/-- A short escape denotes the character it stands for. -/
theorem unescape_shortEscape {c letter : CodePoint} (h : shortEscape c = some letter) :
    unescape letter = some c := by
  unfold shortEscape at h
  split_ifs at h <;> cases h <;> subst_vars <;> rfl

theorem shortEscape_eq_none {c : CodePoint} (h : shortEscape c = none) :
    c ≠ quote ∧ c ≠ backslash := by
  unfold shortEscape at h
  split_ifs at h
  exact ⟨‹_›, ‹_›⟩

private theorem unescape_u : unescape 0x75 = none := by decide

private theorem backslash_ne_quote : backslash ≠ quote := by decide

/-- A unit that is no high surrogate is read on its own. -/
theorem parseChars_unicodeEscape {n : ℕ} (small : n < 0x10000)
    (plain : ¬ (0xd800 ≤ n ∧ n ≤ 0xdbff)) (rest : Text) :
    parseChars (unicodeEscape n ++ rest) = consChar (.ofNat _ n) (parseChars rest) := by
  obtain ⟨a, b, c, d, digits, value⟩ := hexValue4_hex4 small
  rw [unicodeEscape, digits]
  simp only [List.cons_append, List.nil_append]
  rw [parseChars.eq_def]
  simp only [backslash_ne_quote, if_false, if_true, unescape_u, value, if_neg plain]

/-- A high and a low surrogate are read together. -/
theorem parseChars_pair {high low : ℕ} (isHigh : 0xd800 ≤ high ∧ high ≤ 0xdbff)
    (isLow : 0xdc00 ≤ low ∧ low ≤ 0xdfff) (rest : Text) :
    parseChars (unicodeEscape high ++ (unicodeEscape low ++ rest)) =
      consChar (joinSurrogates high low) (parseChars rest) := by
  obtain ⟨a, b, c, d, digits, value⟩ := hexValue4_hex4 (n := high) (by omega)
  obtain ⟨a', b', c', d', digits', value'⟩ := hexValue4_hex4 (n := low) (by omega)
  rw [unicodeEscape, digits, unicodeEscape, digits']
  simp only [List.cons_append, List.nil_append]
  rw [parseChars.eq_def]
  simp only [backslash_ne_quote, if_false, if_true, unescape_u, value, value', isHigh, isLow,
    and_self]

/-- The two units of a code point outside the basic plane join to it. -/
theorem joinSurrogates_split {c : CodePoint} (high : 0x10000 ≤ c.val) :
    joinSurrogates (0xd800 + (c.val - 0x10000) / 0x400) (0xdc00 + (c.val - 0x10000) % 0x400) =
      c := by
  have value : 0x10000 + (0xd800 + (c.val - 0x10000) / 0x400 - 0xd800) * 0x400 +
      (0xdc00 + (c.val - 0x10000) % 0x400 - 0xdc00) = c.val := by
    omega
  rw [joinSurrogates, value, CodePoint.ofNat_val]

/-- The escape of a character that is no high surrogate is read as the character. -/
theorem parseChars_escapeChar {c : CodePoint} (plain : c.isHighSurrogate = false) (rest : Text) :
    parseChars (escapeChar c ++ rest) = consChar c (parseChars rest) := by
  have notHigh : ¬ (0xd800 ≤ c.val ∧ c.val ≤ 0xdbff) := by
    simpa [CodePoint.isHighSurrogate] using plain
  unfold escapeChar
  split
  case h_1 letter short =>
    simp only [List.cons_append, List.nil_append]
    rw [parseChars.eq_def]
    simp only [backslash_ne_quote, if_false, if_true, unescape_shortEscape short]
  case h_2 long =>
    obtain ⟨notQuote, notBackslash⟩ := shortEscape_eq_none long
    split_ifs with visible basic
    · simp only [List.cons_append, List.nil_append]
      rw [parseChars.eq_def]
      simp only [notQuote, notBackslash, if_false, if_neg (Nat.not_lt.mpr visible.1)]
    · rw [parseChars_unicodeEscape basic notHigh, CodePoint.ofNat_val]
    · rw [List.append_assoc, parseChars_pair (by omega) (by omega),
        joinSurrogates_split (by omega)]

/-- The text does not go on with an escaped low surrogate. -/
def NoLowEscape (t : Text) : Prop :=
  ∀ l1 l2 l3 l4 after, t = backslash :: 0x75 :: l1 :: l2 :: l3 :: l4 :: after →
    ∃ unit, hexValue4 l1 l2 l3 l4 = some unit ∧ ¬ (0xdc00 ≤ unit ∧ unit ≤ 0xdfff)

/-- A high surrogate with no low one behind it is read on its own. -/
theorem parseChars_high {high : ℕ} (isHigh : 0xd800 ≤ high ∧ high ≤ 0xdbff) {rest : Text}
    (alone : NoLowEscape rest) :
    parseChars (unicodeEscape high ++ rest) = consChar (.ofNat _ high) (parseChars rest) := by
  obtain ⟨a, b, c, d, digits, value⟩ := hexValue4_hex4 (n := high) (by omega)
  rw [unicodeEscape, digits]
  simp only [List.cons_append, List.nil_append]
  rw [parseChars.eq_def]
  simp only [backslash_ne_quote, if_false, if_true, unescape_u, value, isHigh, and_self]
  split
  case h_1 mark letter l1 l2 l3 l4 after =>
    split_ifs with escaped
    · obtain ⟨rfl, rfl⟩ := escaped
      obtain ⟨unit, read, notLow⟩ := alone l1 l2 l3 l4 after rfl
      simp only [read, if_neg notLow]
    · rfl
  case h_2 => rfl

/-- The escape of a character that is no low surrogate does not start with one. -/
theorem noLowEscape_escapeChar {c : CodePoint} (plain : c.isLowSurrogate = false) (rest : Text) :
    NoLowEscape (escapeChar c ++ rest) := by
  have notLow : ¬ (0xdc00 ≤ c.val ∧ c.val ≤ 0xdfff) := by
    simpa [CodePoint.isLowSurrogate] using plain
  intro l1 l2 l3 l4 after text
  unfold escapeChar at text
  split at text
  case h_1 letter short =>
    simp only [List.cons_append, List.nil_append, List.cons.injEq] at text
    have known := unescape_shortEscape short
    rw [text.2.1, unescape_u] at known
    cases known
  case h_2 long =>
    obtain ⟨-, notBackslash⟩ := shortEscape_eq_none long
    split_ifs at text with visible basic
    · simp only [List.cons_append, List.cons.injEq] at text
      exact absurd text.1 notBackslash
    · obtain ⟨a, b, d, e, digits, value⟩ := hexValue4_hex4 basic
      rw [unicodeEscape, digits] at text
      simp only [List.cons_append, List.nil_append, List.cons.injEq, true_and] at text
      obtain ⟨rfl, rfl, rfl, rfl, -⟩ := text
      exact ⟨c.val, value, notLow⟩
    · obtain ⟨a, b, d, e, digits, value⟩ :=
        hexValue4_hex4 (n := 0xd800 + (c.val - 0x10000) / 0x400) (by omega)
      rw [unicodeEscape, digits] at text
      simp only [List.cons_append, List.nil_append, List.cons.injEq, true_and] at text
      obtain ⟨rfl, rfl, rfl, rfl, -⟩ := text
      exact ⟨_, value, by omega⟩

/-- A surrogate is written as its own unit. -/
theorem escapeChar_surrogate {c : CodePoint} (half : 0xd800 ≤ c.val ∧ c.val ≤ 0xdfff) :
    escapeChar c = unicodeEscape c.val := by
  unfold escapeChar
  split
  case h_1 letter short =>
    unfold shortEscape at short
    split_ifs at short <;> subst_vars <;> exact absurd half (by decide)
  case h_2 => rw [if_neg (by omega), if_pos (by omega)]

/-- The escape of a character is read as the character, unless it is the first
half of a pair. -/
theorem parseChars_alone {c : CodePoint} {rest : Text}
    (alone : c.isHighSurrogate = true → NoLowEscape rest) :
    parseChars (escapeChar c ++ rest) = consChar c (parseChars rest) := by
  by_cases high : c.isHighSurrogate = true
  · have range : 0xd800 ≤ c.val ∧ c.val ≤ 0xdbff := by
      simpa [CodePoint.isHighSurrogate] using high
    rw [escapeChar_surrogate (by omega), parseChars_high range (alone high), CodePoint.ofNat_val]
  · exact parseChars_escapeChar (by simpa using high) rest

theorem noLowEscape_quote (rest : Text) : NoLowEscape (quote :: rest) := by
  intro l1 l2 l3 l4 after text
  exact absurd (List.cons.inj text).1.symm backslash_ne_quote

/-- No code point is a surrogate. -/
def Text.NoSurrogate (t : Text) : Prop := ∀ c ∈ t, c.isSurrogate = false

instance (t : Text) : Decidable t.NoSurrogate := List.decidableBAll _ t

theorem Text.IsAscii.noSurrogate {t : Text} (ascii : t.IsAscii) : t.NoSurrogate := by
  intro c member
  have small := ascii c member
  simp only [CodePoint.isSurrogate, Bool.and_eq_false_iff, decide_eq_false_iff_not]
  omega

/-- An encodable text has no surrogate. -/
theorem Text.noSurrogate_of_utf8 {t : Text} {octets : Bytes} (encoded : t.utf8 = some octets) :
    t.NoSurrogate := by
  unfold Text.utf8 at encoded
  split at encoded
  case isTrue => cases encoded
  case isFalse plain => simpa [Text.NoSurrogate] using plain

theorem Text.noSurrogate_append {t u : Text} :
    Text.NoSurrogate (t ++ u) ↔ t.NoSurrogate ∧ u.NoSurrogate := by
  simp [Text.NoSurrogate, or_imp, forall_and]

/-- No high surrogate stands right before a low one. -/
def Text.Unpaired (t : Text) : Prop :=
  t.IsChain fun a b => ¬ (a.isHighSurrogate = true ∧ b.isLowSurrogate = true)

instance (t : Text) : Decidable t.Unpaired := inferInstanceAs (Decidable (List.IsChain _ t))

theorem Text.NoSurrogate.unpaired {t : Text} (plain : t.NoSurrogate) : t.Unpaired := by
  refine List.Pairwise.isChain (List.pairwise_of_forall_mem_list fun a member b _ => ?_)
  rintro ⟨high, -⟩
  have outside := plain a member
  simp only [CodePoint.isHighSurrogate, Bool.and_eq_true, decide_eq_true_eq] at high
  simp only [CodePoint.isSurrogate, Bool.and_eq_false_iff, decide_eq_false_iff_not] at outside
  omega

/-- The text with every surrogate pair joined, as a reader of escapes sees it. -/
def Text.joinPairs : Text → Text
  | [] => []
  | [c] => [c]
  | a :: b :: t =>
    if a.isHighSurrogate = true ∧ b.isLowSurrogate = true then
      joinSurrogates a.val b.val :: joinPairs t
    else a :: joinPairs (b :: t)

theorem Text.length_joinPairs_le (t : Text) : t.joinPairs.length ≤ t.length := by
  fun_induction Text.joinPairs t with
  | case1 => exact le_rfl
  | case2 c => exact le_rfl
  | case3 a b t pair ih =>
    simp only [List.length_cons]
    omega
  | case4 a b t single ih =>
    simp only [List.length_cons] at ih ⊢
    omega

/-- Joining changes a text exactly where it holds a pair. -/
theorem Text.joinPairs_eq_self {t : Text} : t.joinPairs = t ↔ t.Unpaired := by
  fun_induction Text.joinPairs t with
  | case1 => exact ⟨fun _ => .nil, fun _ => rfl⟩
  | case2 c => exact ⟨fun _ => .singleton c, fun _ => rfl⟩
  | case3 a b t pair ih =>
    constructor
    · intro same
      have shorter := Text.length_joinPairs_le t
      have lengths := congrArg List.length same
      simp only [List.length_cons] at lengths
      omega
    · intro unpaired
      exact absurd pair (List.isChain_cons_cons.mp unpaired).1
  | case4 a b t single ih =>
    rw [List.cons.injEq, eq_self_iff_true, true_and, ih]
    exact ⟨fun rest => .cons_cons single rest, List.IsChain.of_cons⟩

/-- **String literals.** The literal of a text is read as the text with its pairs
joined. -/
theorem parseChars_literal (t rest : Text) :
    parseChars (t.flatMap escapeChar ++ quote :: rest) = some (t.joinPairs, rest) := by
  fun_induction Text.joinPairs t with
  | case1 =>
    rw [List.flatMap_nil, List.nil_append, parseChars.eq_def]
    simp
  | case2 c =>
    have done : parseChars (quote :: rest) = some ([], rest) := by
      rw [parseChars.eq_def]
      simp
    rw [List.flatMap_cons, List.flatMap_nil, List.append_nil]
    rw [parseChars_alone (fun _ => noLowEscape_quote rest), done]
    rfl
  | case3 a b t pair ih =>
    have high : 0xd800 ≤ a.val ∧ a.val ≤ 0xdbff := by
      simpa [CodePoint.isHighSurrogate] using pair.1
    have low : 0xdc00 ≤ b.val ∧ b.val ≤ 0xdfff := by
      simpa [CodePoint.isLowSurrogate] using pair.2
    rw [List.flatMap_cons, List.flatMap_cons, escapeChar_surrogate (by omega),
      escapeChar_surrogate (by omega), List.append_assoc, List.append_assoc,
      parseChars_pair high low, ih]
    rfl
  | case4 a b t single ih =>
    have alone : a.isHighSurrogate = true →
        NoLowEscape ((b :: t).flatMap escapeChar ++ quote :: rest) := by
      intro high
      rw [List.flatMap_cons, List.append_assoc]
      exact noLowEscape_escapeChar (by simpa [high] using single) _
    rw [List.flatMap_cons, List.append_assoc, parseChars_alone alone, ih]
    rfl

theorem parseChars_quoted {t : Text} (plain : t.Unpaired) (rest : Text) :
    parseChars (t.flatMap escapeChar ++ quote :: rest) = some (t, rest) := by
  rw [parseChars_literal, Text.joinPairs_eq_self.mpr plain]

/-! ## Numbers -/

/-- What may follow a number: nothing that would continue it. -/
def NumberEnd (rest : Text) : Prop :=
  ∀ c ∈ rest.head?, Text.isDigit c = false ∧ c ≠ 0x2e ∧ c ≠ 0x65 ∧ c ≠ 0x45

theorem numberEnd_nil : NumberEnd [] := by
  simp [NumberEnd]

theorem takeWhile_isDigit_of_numberEnd {rest : Text} (ends : NumberEnd rest) :
    rest.takeWhile Text.isDigit = [] := by
  cases rest with
  | nil => rfl
  | cons c rest => simp [(ends c rfl).1]

theorem dropWhile_isDigit_of_numberEnd {rest : Text} (ends : NumberEnd rest) :
    rest.dropWhile Text.isDigit = rest := by
  cases rest with
  | nil => rfl
  | cons c rest => simp [(ends c rfl).1]

theorem scanFraction_of_numberEnd {rest : Text} (ends : NumberEnd rest) :
    scanFraction rest = ([], rest) := by
  cases rest with
  | nil => rfl
  | cons c rest => simp [scanFraction, (ends c rfl).2.1]

theorem scanExponent_of_numberEnd {rest : Text} (ends : NumberEnd rest) :
    scanExponent rest = ([], rest) := by
  cases rest with
  | nil => rfl
  | cons c rest => simp [scanExponent, (ends c rfl).2.2.1, (ends c rfl).2.2.2]

/-- A numeral is an integer part. -/
theorem scanInteger_natText (n : ℕ) {rest : Text} (ends : NumberEnd rest) :
    scanInteger (natText n ++ rest) = some (natText n, rest) := by
  obtain ⟨m, digits, text, small, zero⟩ := natText_eq_cons n
  have allDigits : ∀ c ∈ digits, Text.isDigit c = true := fun c member =>
    isDigit_of_mem_natText (n := n) (text ▸ List.mem_cons_of_mem _ member)
  rw [text, List.cons_append]
  unfold scanInteger
  by_cases h : m = 0
  · obtain ⟨-, rfl⟩ := zero h
    subst h
    simp [show digit 0 = 0x30 by decide]
  · have notZero : digit m ≠ 0x30 := by
      intro same
      have := congrArg Fin.val same
      rw [digit_val] at this
      simp at this
      omega
    simp only [notZero, if_false, isDigit_digit, if_true]
    rw [List.takeWhile_append_of_pos allDigits, List.dropWhile_append_of_pos allDigits,
      takeWhile_isDigit_of_numberEnd ends, dropWhile_isDigit_of_numberEnd ends, List.append_nil]

private theorem digit_ne_minus (m : ℕ) : digit m ≠ 0x2d := by
  intro same
  have := congrArg Fin.val same
  rw [digit_val] at this
  simp at this
  omega

/-- A sign and a numeral are one number literal without fraction or exponent. -/
theorem scanUnsigned_natText (sign : Text) (n : ℕ) {rest : Text} (ends : NumberEnd rest) :
    scanUnsigned sign (natText n ++ rest) = some (sign ++ natText n, false, rest) := by
  simp [scanUnsigned, scanInteger_natText n ends, scanFraction_of_numberEnd ends,
    scanExponent_of_numberEnd ends]

private theorem minus_text : Text.ofString "-" = [0x2d] := by decide

theorem natText_head (n : ℕ) (rest : Text) : (natText n ++ rest).head? ≠ some 0x2d := by
  obtain ⟨m, digits, text, -⟩ := natText_eq_cons n
  simp [text, digit_ne_minus]

/-- The text of an integer is one number literal without fraction or exponent. -/
theorem scanNumber_intText (z : ℤ) {rest : Text} (ends : NumberEnd rest) :
    scanNumber (intText z ++ rest) = some (intText z, false, rest) := by
  unfold scanNumber intText
  by_cases negative : z < 0
  · simp [negative, minus_text, scanUnsigned_natText _ _ ends]
  · rw [if_neg negative, if_neg (natText_head _ rest), scanUnsigned_natText _ _ ends,
      List.nil_append]

/-- The default integer hook reads an integer of moderate length back. -/
theorem pythonInt_intText {z : ℤ} (short : (natText z.natAbs).length ≤ 4300) :
    pythonInt (intText z) = some z := by
  have count := List.length_filter_le Text.isDigit (natText z.natAbs)
  have noDigit : Text.isDigit 0x2d = false := by decide
  unfold pythonInt intText
  by_cases negative : z < 0
  · have few : ¬ 4300 < ((0x2d :: natText z.natAbs).filter Text.isDigit).length := by
      rw [List.filter_cons_of_neg (by simp [noDigit])]
      omega
    rw [if_pos negative, minus_text, List.cons_append, List.nil_append, if_neg few,
      List.head?_cons, if_pos rfl, List.tail_cons, natValue_natText]
    congr 1
    omega
  · have head := natText_head z.natAbs []
    rw [List.append_nil] at head
    rw [if_neg negative, if_neg (by omega), if_neg head, natValue_natText]
    congr 1
    omega

/-- A text that is one number literal with a fraction or an exponent, whatever
ends it. -/
def IsFloatLiteral (t : Text) : Prop :=
  ∀ rest, NumberEnd rest → scanNumber (t ++ rest) = some (t, true, rest)

/-- A number literal starts with a minus sign or a digit. -/
theorem head_of_scanNumber {t : Text} (h : scanNumber t ≠ none) :
    ∃ c rest, t = c :: rest ∧ (c = 0x2d ∨ Text.isDigit c = true) := by
  cases t with
  | nil => exact absurd rfl h
  | cons c rest =>
    refine ⟨c, rest, rfl, ?_⟩
    by_cases minus : c = 0x2d
    · exact Or.inl minus
    · refine Or.inr ?_
      by_contra noDigit
      have notZero : c ≠ 0x30 := by
        rintro rfl
        exact noDigit (by decide)
      simp [scanNumber, minus, scanUnsigned, scanInteger, notZero, noDigit] at h

/-! ## Documents -/

namespace Json

mutual

/-- The hooks read every number, string and object of the document back. -/
def Readable (hooks : Hooks) (style : Style) : Json → Prop
  | int z => hooks.parseInt (intText z) = some z
  | float (.finite q) =>
    IsFloatLiteral (style.floatText q) ∧
      hooks.parseFloat (style.floatText q) = some (.finite q)
  | float _ => False
  | str t => t.Unpaired
  | arr items => ReadableItems hooks style items
  | obj members =>
    hooks.objectPairs members = some members ∧ ReadableMembers hooks style members
  | _ => True

def ReadableItems (hooks : Hooks) (style : Style) : List Json → Prop
  | [] => True
  | item :: items => Readable hooks style item ∧ ReadableItems hooks style items

def ReadableMembers (hooks : Hooks) (style : Style) : List (Text × Json) → Prop
  | [] => True
  | (key, value) :: members =>
    key.Unpaired ∧ Readable hooks style value ∧ ReadableMembers hooks style members

end

/-- How a value may start: not with white space and not with a closing
bracket. -/
def Starts (c : CodePoint) : Prop :=
  c ∉ ([0x20, 0x09, 0x0a, 0x0d, 0x5d, 0x7d] : Text)

theorem starts_of_number {c : CodePoint} (h : c = 0x2d ∨ Text.isDigit c = true) : Starts c := by
  rcases h with rfl | digit
  · unfold Starts
    decide
  · intro member
    simp only [List.mem_cons, List.not_mem_nil, or_false] at member
    rcases member with rfl | rfl | rfl | rfl | rfl | rfl <;> exact absurd digit (by decide)

theorem intText_head (z : ℤ) :
    ∃ c rest, intText z = c :: rest ∧ (c = 0x2d ∨ Text.isDigit c = true) := by
  refine head_of_scanNumber ?_
  have read := scanNumber_intText z numberEnd_nil
  rw [List.append_nil] at read
  simp [read]

theorem floatText_head {t : Text} (literal : IsFloatLiteral t) :
    ∃ c rest, t = c :: rest ∧ (c = 0x2d ∨ Text.isDigit c = true) := by
  refine head_of_scanNumber ?_
  have read := literal [] numberEnd_nil
  rw [List.append_nil] at read
  simp [read]

/-- The text of a value has a first character that may start a value. -/
theorem render_head {hooks : Hooks} {style : Style} {doc : Json}
    (readable : doc.Readable hooks style) :
    ∃ c rest, doc.render style = c :: rest ∧ Starts c := by
  cases doc with
  | null => exact ⟨0x6e, [0x75, 0x6c, 0x6c], by rw [render]; decide, by unfold Starts; decide⟩
  | bool value =>
    cases value
    · exact ⟨0x66, [0x61, 0x6c, 0x73, 0x65], by rw [render]; decide, by unfold Starts; decide⟩
    · exact ⟨0x74, [0x72, 0x75, 0x65], by rw [render]; decide, by unfold Starts; decide⟩
  | int z =>
    obtain ⟨c, rest, text, number⟩ := intText_head z
    exact ⟨c, rest, by rw [render, text], starts_of_number number⟩
  | float value =>
    cases value with
    | finite q =>
      obtain ⟨c, rest, text, number⟩ := floatText_head (readable : _ ∧ _).1
      exact ⟨c, rest, by rw [render, text], starts_of_number number⟩
    | infinite negative => exact readable.elim
    | nan => exact readable.elim
  | str t => exact ⟨quote, _, by rw [render]; rfl, by unfold Starts; decide⟩
  | arr items =>
    cases items with
    | nil => exact ⟨0x5b, _, by rw [render], by unfold Starts; decide⟩
    | cons item items => exact ⟨0x5b, _, by rw [render]; rfl, by unfold Starts; decide⟩
  | obj members =>
    cases members with
    | nil => exact ⟨0x7b, _, by rw [render], by unfold Starts; decide⟩
    | cons member members => exact ⟨0x7b, _, by rw [render]; rfl, by unfold Starts; decide⟩

end Json

theorem skipSpace_cons {c : CodePoint} (h : Json.Starts c) (rest : Text) :
    skipSpace (c :: rest) = c :: rest := by
  simp only [Json.Starts, List.mem_cons, List.not_mem_nil, or_false, not_or] at h
  simp [skipSpace, h]

/-- A value that starts like a number is no word. -/
theorem parseWord_of_number {c : CodePoint} (h : c = 0x2d ∨ Text.isDigit c = true)
    (rest : Text) : parseWord (c :: rest) = none := by
  have notLetter : c ≠ 0x6e ∧ c ≠ 0x74 ∧ c ≠ 0x66 := by
    refine ⟨?_, ?_, ?_⟩ <;> rintro rfl <;> exact absurd h (by decide)
  have null : Text.ofString "null" = [0x6e, 0x75, 0x6c, 0x6c] := by decide
  have true' : Text.ofString "true" = [0x74, 0x72, 0x75, 0x65] := by decide
  have false' : Text.ofString "false" = [0x66, 0x61, 0x6c, 0x73, 0x65] := by decide
  simp [parseWord, word, null, true', false', List.isPrefixOf, notLetter.1.symm,
    notLetter.2.1.symm, notLetter.2.2.symm]

/-- A value that starts like a number is read as one. -/
theorem parseValue_of_number {hooks : Hooks} {c : CodePoint}
    (h : c = 0x2d ∨ Text.isDigit c = true) (fuel : ℕ) (rest : Text) :
    parseValue hooks (fuel + 1) (c :: rest) = parseNumber hooks (c :: rest) := by
  have others : c ≠ quote ∧ c ≠ 0x5b ∧ c ≠ 0x7b := by
    refine ⟨?_, ?_, ?_⟩ <;> rintro rfl <;> exact absurd h (by decide)
  rw [parseValue, if_neg others.1, if_neg others.2.1, if_neg others.2.2,
    parseWord_of_number h]
  rfl

section RoundTrip

variable {hooks : Hooks} {style : Style}

private theorem numberEnd_cons {c : CodePoint} (h : c ∈ ([0x2c, 0x5d, 0x7d] : Text))
    (rest : Text) : NumberEnd (c :: rest) := by
  intro d member
  obtain rfl : c = d := Option.some.inj member
  simp only [List.mem_cons, List.not_mem_nil, or_false] at h
  rcases h with rfl | rfl | rfl <;> decide

theorem skipSpace_render {doc : Json} (readable : doc.Readable hooks style) (rest : Text) :
    skipSpace (doc.render style ++ rest) = doc.render style ++ rest := by
  obtain ⟨c, tail, text, starts⟩ := Json.render_head readable
  rw [text, List.cons_append, skipSpace_cons starts]

theorem render_length_pos {doc : Json} (readable : doc.Readable hooks style) :
    0 < (doc.render style).length := by
  obtain ⟨c, tail, text, -⟩ := Json.render_head readable
  simp [text]

theorem parseValue_word {literal : String} {value : Json} (c : CodePoint) (tail : Text)
    (text : Text.ofString literal = c :: tail) (letter : c ≠ quote ∧ c ≠ 0x5b ∧ c ≠ 0x7b)
    (fuel : ℕ) (rest : Text)
    (read : parseWord (Text.ofString literal ++ rest) = some (value, rest)) :
    parseValue hooks (fuel + 1) (Text.ofString literal ++ rest) = some (value, rest) := by
  rw [text, List.cons_append] at read ⊢
  rw [parseValue, if_neg letter.1, if_neg letter.2.1, if_neg letter.2.2, read]
  rfl

/-- A string value is read back. -/
theorem parseValue_quoted {t : Text} (plain : t.Unpaired) (fuel : ℕ) (rest : Text) :
    parseValue hooks (fuel + 1) (quoted t ++ rest) = some (.str t, rest) := by
  rw [quoted, List.cons_append, List.append_assoc, List.singleton_append, parseValue, if_pos rfl,
    parseChars_quoted plain]
  rfl

/-- An integer is read back. -/
theorem parseValue_intText {z : ℤ} (readable : hooks.parseInt (intText z) = some z) (fuel : ℕ)
    {rest : Text} (ends : NumberEnd rest) :
    parseValue hooks (fuel + 1) (intText z ++ rest) = some (.int z, rest) := by
  have scanned := scanNumber_intText z ends
  obtain ⟨c, tail, text, number⟩ := Json.intText_head z
  rw [text, List.cons_append] at scanned ⊢
  rw [parseValue_of_number number, parseNumber, scanned]
  simp only
  rw [← text, readable]
  rfl

/-- A float is read back. -/
theorem parseValue_floatText {q : ℚ} (literal : IsFloatLiteral (style.floatText q))
    (readable : hooks.parseFloat (style.floatText q) = some (.finite q)) (fuel : ℕ)
    {rest : Text} (ends : NumberEnd rest) :
    parseValue hooks (fuel + 1) (style.floatText q ++ rest) =
      some (.float (.finite q), rest) := by
  have scanned := literal rest ends
  obtain ⟨c, tail, text, number⟩ := Json.floatText_head literal
  rw [text, List.cons_append] at scanned ⊢
  rw [parseValue_of_number number, parseNumber, scanned]
  simp only
  rw [← text, readable]
  rfl

/-- A value is read back before anything that ends a number, with twice its
length as fuel. -/
def ReadsBack (hooks : Hooks) (style : Style) (doc : Json) : Prop :=
  ∀ (fuel : ℕ) (rest : Text), NumberEnd rest → 2 * (doc.render style).length ≤ fuel →
    parseValue hooks fuel (doc.render style ++ rest) = some (doc, rest)

/-- The last array item is read up to the closing bracket. -/
theorem parseItems_last {item : Json} (reads : ReadsBack hooks style item) {fuel : ℕ}
    (enough : 2 * (item.render style).length ≤ fuel) (rest : Text) :
    parseItems hooks (fuel + 1) (item.render style ++ 0x5d :: rest) = some ([item], rest) := by
  rw [parseItems, reads fuel _ (numberEnd_cons (by decide) rest) enough]
  rfl

/-- An array item before a comma is read, and the next ones after it. -/
theorem parseItems_more {item next : Json} (reads : ReadsBack hooks style item)
    (nextReadable : next.Readable hooks style) {fuel : ℕ}
    (enough : 2 * (item.render style).length ≤ fuel) (after : Text) :
    parseItems hooks (fuel + 1) (item.render style ++ 0x2c :: (next.render style ++ after)) =
      (parseItems hooks fuel (next.render style ++ after)).map
        fun (items, rest) => (item :: items, rest) := by
  rw [parseItems, reads fuel _ (numberEnd_cons (by decide) _) enough]
  have space : skipSpace (0x2c :: (next.render style ++ after)) =
      0x2c :: (next.render style ++ after) := skipSpace_cons (by unfold Json.Starts; decide) _
  simp only [space]
  rw [if_neg (by decide), if_pos trivial, skipSpace_render nextReadable]

/-- One member is read up to its value, and what the rest of the object does
with it. -/
theorem parseMembers_member {key : Text} {value : Json} (plain : key.Unpaired)
    (readable : value.Readable hooks style) (reads : ReadsBack hooks style value) {fuel : ℕ}
    (enough : 2 * (value.render style).length ≤ fuel) {c : CodePoint}
    (ends : c ∈ ([0x2c, 0x7d] : Text)) (after : Text) :
    parseMembers hooks (fuel + 1)
        (quoted key ++ 0x3a :: (value.render style ++ c :: after)) =
      if c = 0x7d then some ([(key, value)], after)
      else (parseMembers hooks fuel (skipSpace after)).map
        fun (pairs, rest) => ((key, value) :: pairs, rest) := by
  have stops : c ∈ ([0x2c, 0x5d, 0x7d] : Text) := by
    simp only [List.mem_cons, List.not_mem_nil, or_false] at ends ⊢
    tauto
  have space : skipSpace (c :: after) = c :: after := by
    simp only [List.mem_cons, List.not_mem_nil, or_false] at ends
    rcases ends with rfl | rfl <;> rfl
  have colon : skipSpace (0x3a :: (value.render style ++ c :: after)) =
      0x3a :: (value.render style ++ c :: after) := rfl
  rw [quoted, List.cons_append, List.append_assoc, List.singleton_append, parseMembers,
    if_pos rfl, parseChars_quoted plain]
  simp only [colon, if_true]
  rw [skipSpace_render readable, reads fuel _ (numberEnd_cons stops after) enough]
  simp only [space]
  split_ifs with closing comma
  · rfl
  · rfl
  · simp only [List.mem_cons, List.not_mem_nil, or_false] at ends
    tauto

mutual

/-- A readable document is read back. -/
theorem readsBack_of_readable (commas : style.itemSeparator = [0x2c])
    (colons : style.keySeparator = [0x3a]) :
    ∀ doc : Json, doc.Readable hooks style → ReadsBack hooks style doc
  | doc, readable, 0, _, _, enough => by
    have := render_length_pos readable
    omega
  | .null, _, fuel + 1, rest, _, _ => by
    rw [Json.render]
    exact parseValue_word 0x6e [0x75, 0x6c, 0x6c] (by decide) (by decide) fuel
      rest rfl
  | .bool true, _, fuel + 1, rest, _, _ => by
    rw [Json.render]
    exact parseValue_word 0x74 [0x72, 0x75, 0x65] (by decide) (by decide) fuel
      rest rfl
  | .bool false, _, fuel + 1, rest, _, _ => by
    rw [Json.render]
    exact parseValue_word 0x66 [0x61, 0x6c, 0x73, 0x65] (by decide) (by decide)
      fuel rest rfl
  | .int z, readable, fuel + 1, rest, ends, _ => by
    rw [Json.render]
    exact parseValue_intText readable fuel ends
  | .float (.finite q), readable, fuel + 1, rest, ends, _ => by
    rw [Json.render]
    exact parseValue_floatText readable.1 readable.2 fuel ends
  | .str t, readable, fuel + 1, rest, _, _ => by
    rw [Json.render]
    exact parseValue_quoted readable fuel rest
  | .arr [], _, fuel + 1, rest, _, _ => by
    rw [Json.render, List.cons_append, parseValue]
    rfl
  | .arr (item :: items), readable, fuel + 1, rest, _, enough => by
    obtain ⟨first, others⟩ : item.Readable hooks style ∧ Json.ReadableItems hooks style items :=
      readable
    rw [Json.render] at enough ⊢
    simp only [List.length_append, List.length_singleton] at enough
    have inner := parseItems_render commas colons items item
      (readsBack_of_readable commas colons item first) others fuel rest
      (by simp only [List.length_append]; omega)
    have text : [0x5b] ++ (item.render style ++ Json.renderItems style items) ++ [0x5d] ++ rest =
        0x5b :: (item.render style ++ (Json.renderItems style items ++ 0x5d :: rest)) := by simp
    -- the first item does not start with the closing bracket
    obtain ⟨c, tail, head, starts⟩ := Json.render_head first
    have notClosing : ¬ (item.render style ++ (Json.renderItems style items ++ 0x5d :: rest)).head?
        = some 0x5d := by
      simp only [head, List.cons_append, List.head?_cons, Option.some.injEq]
      rintro rfl
      exact starts (by decide)
    rw [text, parseValue, if_neg (by decide), if_pos rfl, skipSpace_render first,
      if_neg notClosing, inner]
    rfl
  | .obj [], _, fuel + 1, rest, _, _ => by
    rw [Json.render, List.cons_append, parseValue]
    rfl
  | .obj ((key, value) :: members), readable, fuel + 1, rest, _, enough => by
    obtain ⟨pairs, plain, first, others⟩ : hooks.objectPairs ((key, value) :: members) =
        some ((key, value) :: members) ∧ key.Unpaired ∧ value.Readable hooks style ∧
        Json.ReadableMembers hooks style members := readable
    rw [Json.render, colons] at enough ⊢
    simp only [List.length_append, List.length_singleton] at enough
    have inner := parseMembers_render commas colons members key value plain first
      (readsBack_of_readable commas colons value first) others fuel rest
      (by simp only [List.length_append, List.length_singleton]; omega)
    have text : [0x7b] ++ (quoted key ++ [0x3a] ++ value.render style ++
        Json.renderMembers style members) ++ [0x7d] ++ rest =
        0x7b :: (quoted key ++ 0x3a ::
          (value.render style ++ (Json.renderMembers style members ++ 0x7d :: rest))) := by simp
    rw [text, parseValue, if_neg (by decide), if_neg (by decide), if_pos rfl]
    have space : ∀ after : Text, skipSpace (quoted key ++ after) = quoted key ++ after :=
      fun _ => rfl
    have notClosing : ∀ after : Text, ¬ (quoted key ++ after).head? = some 0x7d := by
      intro after
      rw [quoted, List.cons_append, List.head?_cons, Option.some.injEq]
      decide
    rw [space, if_neg (notClosing _), inner]
    simp only [Option.bind_eq_bind, Option.bind_some, pairs]
    rfl

/-- Array items are read back up to the closing bracket. -/
theorem parseItems_render (commas : style.itemSeparator = [0x2c])
    (colons : style.keySeparator = [0x3a]) :
    ∀ (items : List Json) (item : Json), ReadsBack hooks style item →
      Json.ReadableItems hooks style items → ∀ (fuel : ℕ) (rest : Text),
      2 * (item.render style ++ Json.renderItems style items).length + 1 ≤ fuel →
      parseItems hooks fuel (item.render style ++ (Json.renderItems style items ++ 0x5d :: rest)) =
        some (item :: items, rest)
  | _, _, _, _, 0, _, enough => by omega
  | [], item, reads, _, fuel + 1, rest, enough => by
    rw [Json.renderItems, List.nil_append]
    rw [Json.renderItems, List.append_nil] at enough
    exact parseItems_last reads (by omega) rest
  | next :: items, item, reads, readable, fuel + 1, rest, enough => by
    obtain ⟨first, others⟩ : next.Readable hooks style ∧ Json.ReadableItems hooks style items :=
      readable
    rw [Json.renderItems, commas] at enough ⊢
    simp only [List.length_append, List.length_singleton] at enough
    have inner := parseItems_render commas colons items next
      (readsBack_of_readable commas colons next first) others fuel rest
      (by simp only [List.length_append]; omega)
    have text : [0x2c] ++ next.render style ++ Json.renderItems style items ++ 0x5d :: rest =
        0x2c :: (next.render style ++ (Json.renderItems style items ++ 0x5d :: rest)) := by simp
    rw [text, parseItems_more reads first (by omega), inner]
    rfl

/-- Object members are read back up to the closing brace. -/
theorem parseMembers_render (commas : style.itemSeparator = [0x2c])
    (colons : style.keySeparator = [0x3a]) :
    ∀ (members : List (Text × Json)) (key : Text) (value : Json), key.Unpaired →
      value.Readable hooks style → ReadsBack hooks style value →
      Json.ReadableMembers hooks style members → ∀ (fuel : ℕ) (rest : Text),
      2 * (quoted key ++ [0x3a] ++ value.render style ++
        Json.renderMembers style members).length + 1 ≤ fuel →
      parseMembers hooks fuel (quoted key ++ 0x3a ::
        (value.render style ++ (Json.renderMembers style members ++ 0x7d :: rest))) =
        some ((key, value) :: members, rest)
  | _, _, _, _, _, _, _, 0, _, enough => by omega
  | [], key, value, plain, readable, reads, _, fuel + 1, rest, enough => by
    rw [Json.renderMembers, List.nil_append]
    simp only [Json.renderMembers, List.length_append] at enough
    rw [parseMembers_member plain readable reads (by omega) (by decide), if_pos rfl]
  | (nextKey, next) :: members, key, value, plain, readable, reads, readableMembers, fuel + 1,
      rest, enough => by
    obtain ⟨nextPlain, first, others⟩ : nextKey.Unpaired ∧ next.Readable hooks style ∧
        Json.ReadableMembers hooks style members := readableMembers
    rw [Json.renderMembers, commas, colons] at enough ⊢
    simp only [List.length_append, List.length_singleton] at enough
    have inner := parseMembers_render commas colons members nextKey next nextPlain first
      (readsBack_of_readable commas colons next first) others fuel rest
      (by simp only [List.length_append, List.length_singleton]; omega)
    have text : [0x2c] ++ quoted nextKey ++ [0x3a] ++ next.render style ++
        Json.renderMembers style members ++ 0x7d :: rest =
        0x2c :: (quoted nextKey ++ 0x3a :: (next.render style ++
          (Json.renderMembers style members ++ 0x7d :: rest))) := by simp
    have space : ∀ after : Text, skipSpace (quoted nextKey ++ after) = quoted nextKey ++ after :=
      fun _ => rfl
    rw [text, parseMembers_member plain readable reads (by omega) (by decide),
      if_neg (by decide), space, inner]
    rfl

end

/-- A member that is a string is read with the pairs of the string joined. -/
theorem parseMembers_string {key t after rest : Text} (plain : key.Unpaired) {fuel : ℕ}
    {pairs : List (Text × Json)}
    (read : parseMembers hooks fuel (quote :: (key.flatMap escapeChar ++ quote :: 0x3a :: quote ::
      (t.flatMap escapeChar ++ quote :: after))) = some (pairs, rest)) :
    ∃ others, pairs = (key, .str t.joinPairs) :: others := by
  have mark : ∀ rest : Text, skipSpace (quote :: rest) = quote :: rest := fun _ => rfl
  have colon : ∀ rest : Text, skipSpace (0x3a :: rest) = 0x3a :: rest := fun _ => rfl
  cases fuel with
  | zero => cases read
  | succ fuel =>
    rw [parseMembers, if_pos rfl, parseChars_quoted plain] at read
    simp only [colon, if_true, mark] at read
    cases fuel with
    | zero => cases read
    | succ fuel =>
      rw [parseValue, if_pos rfl, parseChars_literal] at read
      simp only [Option.map_some] at read
      cases ahead : skipSpace after with
      | nil =>
        rw [ahead] at read
        cases read
      | cons c next =>
        rw [ahead] at read
        simp only at read
        split_ifs at read with closing comma
        · cases read
          exact ⟨[], rfl⟩
        · obtain ⟨found, -, same⟩ := Option.map_eq_some_iff.mp read
          cases same
          exact ⟨found.1, rfl⟩

/-- An object whose first member is a string is read, if at all, with the pairs of
that string joined. -/
theorem loads_first_string (colons : style.keySeparator = [0x3a]) {key t : Text}
    (plain : key.Unpaired) {members : List (Text × Json)} {doc : Json}
    (read : loads hooks ((Json.obj ((key, .str t) :: members)).render style) = some doc) :
    ∃ pairs members', hooks.objectPairs ((key, .str t.joinPairs) :: pairs) = some members' ∧
      doc = .obj members' := by
  have text : (Json.obj ((key, .str t) :: members)).render style =
      0x7b :: quote :: (key.flatMap escapeChar ++ quote :: 0x3a :: quote ::
        (t.flatMap escapeChar ++ quote :: (Json.renderMembers style members ++ [0x7d]))) := by
    simp only [Json.render, colons, quoted, List.cons_append, List.append_assoc, List.nil_append]
  have brace : ∀ rest : Text, skipSpace (0x7b :: rest) = 0x7b :: rest := fun _ => rfl
  have mark : ∀ rest : Text, skipSpace (quote :: rest) = quote :: rest := fun _ => rfl
  rw [text, loads, brace] at read
  rw [parseValue, if_neg (by decide), if_neg (by decide), if_pos rfl, mark,
    if_neg (by simp only [List.head?_cons, Option.some.injEq]; decide)] at read
  split at read
  case h_1 value rest parsed =>
    simp only [Option.bind_eq_bind, Option.bind_eq_some_iff] at parsed
    obtain ⟨⟨pairs, rest'⟩, inner, members', accepted, same⟩ := parsed
    obtain ⟨others, rfl⟩ := parseMembers_string plain inner
    cases same
    split_ifs at read
    cases read
    exact ⟨others, members', accepted, rfl⟩
  case h_2 => cases read

/-- What the compact writer writes, `loads` reads back, with white space after it. -/
theorem loads_render_append (commas : style.itemSeparator = [0x2c])
    (colons : style.keySeparator = [0x3a]) {doc : Json} (readable : doc.Readable hooks style)
    {rest : Text} (ends : NumberEnd rest) (blank : skipSpace rest = []) :
    loads hooks (doc.render style ++ rest) = some doc := by
  have space := skipSpace_render readable rest
  have read := readsBack_of_readable commas colons doc readable
    (2 * (doc.render style ++ rest).length + 2) rest ends (by rw [List.length_append]; omega)
  rw [loads, space, read]
  simp only [blank, if_true]

/-- **Round trip.** What the compact writer writes, `loads` reads back. -/
theorem loads_render (commas : style.itemSeparator = [0x2c]) (colons : style.keySeparator = [0x3a])
    {doc : Json} (readable : doc.Readable hooks style) :
    loads hooks (doc.render style) = some doc := by
  have read := loads_render_append commas colons readable numberEnd_nil rfl
  rwa [List.append_nil] at read

end RoundTrip

/-! ## Octets -/

/-- Every character is printable ASCII. -/
def Text.IsPrintable (t : Text) : Prop := ∀ c ∈ t, 0x20 ≤ c.val ∧ c.val ≤ 0x7e

instance (t : Text) : Decidable t.IsPrintable := List.decidableBAll _ t

@[simp] theorem Text.isPrintable_nil : Text.IsPrintable [] := by simp [Text.IsPrintable]

@[simp] theorem Text.isPrintable_cons {c : CodePoint} {t : Text} :
    Text.IsPrintable (c :: t) ↔ (0x20 ≤ c.val ∧ c.val ≤ 0x7e) ∧ Text.IsPrintable t :=
  List.forall_mem_cons

@[simp] theorem Text.isPrintable_append {t u : Text} :
    Text.IsPrintable (t ++ u) ↔ Text.IsPrintable t ∧ Text.IsPrintable u :=
  List.forall_mem_append

theorem printable_of_isDigit {c : CodePoint} (h : Text.isDigit c = true) :
    0x20 ≤ c.val ∧ c.val ≤ 0x7e := by
  simp only [Text.isDigit, Text.inRange, Bool.and_eq_true, decide_eq_true_eq] at h
  have zero : ('0' : Char).toNat = 48 := rfl
  have nine : ('9' : Char).toNat = 57 := rfl
  omega

theorem printable_takeWhile_isDigit (t : Text) : Text.IsPrintable (t.takeWhile Text.isDigit) :=
  fun _ member => printable_of_isDigit (List.mem_takeWhile_imp member)

theorem printable_natText (n : ℕ) : Text.IsPrintable (natText n) :=
  fun _ member => printable_of_isDigit (isDigit_of_mem_natText member)

theorem printable_intText (z : ℤ) : Text.IsPrintable (intText z) := by
  unfold intText
  split
  · exact Text.isPrintable_append.mpr ⟨by decide, printable_natText _⟩
  · exact printable_natText _

theorem printable_escapeChar (c : CodePoint) : Text.IsPrintable (escapeChar c) := by
  have unit : ∀ n, Text.IsPrintable (unicodeEscape n) := by
    intro n
    have hex : ∀ d < 16, 0x20 ≤ (if d < 10 then Fin.ofNat 0x110000 (48 + d)
        else Fin.ofNat 0x110000 (87 + d) : CodePoint).val ∧
        (if d < 10 then Fin.ofNat 0x110000 (48 + d) else Fin.ofNat 0x110000 (87 + d) :
          CodePoint).val ≤ 0x7e := by
      decide
    rw [unicodeEscape, Text.isPrintable_append]
    refine ⟨by decide, fun c member => ?_⟩
    obtain ⟨d, listed, rfl⟩ := List.mem_map.mp member
    refine hex d ?_
    simp only [List.mem_cons, List.not_mem_nil, or_false] at listed
    omega
  unfold escapeChar
  split
  case h_1 letter short =>
    unfold shortEscape at short
    split_ifs at short <;> cases short <;> decide
  case h_2 long =>
    split_ifs with visible basic
    · simpa using visible
    · exact unit _
    · exact Text.isPrintable_append.mpr ⟨unit _, unit _⟩

theorem printable_quoted (t : Text) : Text.IsPrintable (quoted t) := by
  have inner : Text.IsPrintable (t.flatMap escapeChar) := by
    intro c member
    obtain ⟨d, -, member⟩ := List.mem_flatMap.mp member
    exact printable_escapeChar d c member
  rw [quoted, Text.isPrintable_cons, Text.isPrintable_append]
  exact ⟨by decide, inner, by decide⟩

theorem printable_scanFraction (t : Text) : Text.IsPrintable (scanFraction t).1 := by
  unfold scanFraction
  split
  · simp
  · split_ifs with point
    · obtain ⟨rfl, -⟩ := point
      exact Text.isPrintable_cons.mpr ⟨by decide, printable_takeWhile_isDigit _⟩
    · simp

theorem printable_scanExponent (t : Text) : Text.IsPrintable (scanExponent t).1 := by
  have sign : ∀ u : Text, Text.IsPrintable (scanSign u).1 := by
    intro u
    unfold scanSign
    split
    · simp
    · split_ifs with signed
      · rcases signed with rfl | rfl
        · exact (by decide : Text.IsPrintable [0x2b])
        · exact (by decide : Text.IsPrintable [0x2d])
      · simp
  unfold scanExponent
  split
  · simp
  · simp only
    split_ifs with marked
    · have letter := marked.1
      simp only [List.cons_append, Text.isPrintable_cons, Text.isPrintable_append]
      refine ⟨?_, sign _, printable_takeWhile_isDigit _⟩
      rcases letter with rfl | rfl <;> decide
    · simp

theorem printable_scanInteger {t literal rest : Text} (h : scanInteger t = some (literal, rest)) :
    Text.IsPrintable literal := by
  unfold scanInteger at h
  split at h
  · cases h
  · split_ifs at h with zero digit
    · cases h
      subst zero
      decide
    · cases h
      exact Text.isPrintable_cons.mpr
        ⟨printable_of_isDigit digit, printable_takeWhile_isDigit _⟩

theorem printable_scanUnsigned {sign body literal rest : Text} {marked : Bool}
    (signed : Text.IsPrintable sign) (h : scanUnsigned sign body = some (literal, marked, rest)) :
    Text.IsPrintable literal := by
  obtain ⟨⟨integer, after⟩, scanned, same⟩ := Option.map_eq_some_iff.mp h
  obtain ⟨rfl, -⟩ := Prod.mk.inj same
  simp only [Text.isPrintable_append]
  exact ⟨⟨⟨signed, printable_scanInteger scanned⟩, printable_scanFraction _⟩,
    printable_scanExponent _⟩

/-- A number literal is printable. -/
theorem printable_of_isFloatLiteral {t : Text} (literal : IsFloatLiteral t) :
    Text.IsPrintable t := by
  have scanned := literal [] numberEnd_nil
  unfold scanNumber at scanned
  split at scanned
  · exact printable_scanUnsigned (by decide) scanned
  · exact printable_scanUnsigned Text.isPrintable_nil scanned

section Octets

variable {hooks : Hooks} {style : Style}

mutual

/-- A readable document is written in printable ASCII. -/
theorem printable_render (commas : style.itemSeparator.IsPrintable)
    (colons : style.keySeparator.IsPrintable) :
    ∀ doc : Json, doc.Readable hooks style → (doc.render style).IsPrintable
  | .null, _ => by rw [Json.render]; decide
  | .bool true, _ => by rw [Json.render]; decide
  | .bool false, _ => by rw [Json.render]; decide
  | .int z, _ => by rw [Json.render]; exact printable_intText z
  | .float (.finite q), readable => by
    rw [Json.render]
    exact printable_of_isFloatLiteral readable.1
  | .str t, _ => by rw [Json.render]; exact printable_quoted t
  | .arr [], _ => by rw [Json.render]; decide
  | .arr (item :: items), readable => by
    have first := printable_render commas colons item readable.1
    have others := printable_renderItems commas colons items readable.2
    simp only [Json.render, Text.isPrintable_append]
    exact ⟨⟨by decide, first, others⟩, by decide⟩
  | .obj [], _ => by rw [Json.render]; decide
  | .obj ((key, value) :: members), readable => by
    have first := printable_render commas colons value readable.2.2.1
    have others := printable_renderMembers commas colons members readable.2.2.2
    simp only [Json.render, Text.isPrintable_append]
    exact ⟨⟨by decide, ⟨⟨printable_quoted key, colons⟩, first⟩, others⟩, by decide⟩

theorem printable_renderItems (commas : style.itemSeparator.IsPrintable)
    (colons : style.keySeparator.IsPrintable) :
    ∀ items : List Json, Json.ReadableItems hooks style items →
      (Json.renderItems style items).IsPrintable
  | [], _ => by simp [Json.renderItems]
  | item :: items, readable => by
    have first := printable_render commas colons item readable.1
    have others := printable_renderItems commas colons items readable.2
    simp only [Json.renderItems, Text.isPrintable_append]
    exact ⟨⟨commas, first⟩, others⟩

theorem printable_renderMembers (commas : style.itemSeparator.IsPrintable)
    (colons : style.keySeparator.IsPrintable) :
    ∀ members : List (Text × Json), Json.ReadableMembers hooks style members →
      (Json.renderMembers style members).IsPrintable
  | [], _ => by simp [Json.renderMembers]
  | (key, value) :: members, readable => by
    have first := printable_render commas colons value readable.2.1
    have others := printable_renderMembers commas colons members readable.2.2
    simp only [Json.renderMembers, Text.isPrintable_append]
    exact ⟨⟨⟨⟨commas, printable_quoted key⟩, colons⟩, first⟩, others⟩

end

/-- Printable octets are UTF-8 for the reader. -/
theorem loadsBytes_ascii {t : Text} (printable : t.IsPrintable)
    (decodeWide : Bytes → Option Text) :
    loadsBytes hooks decodeWide t.ascii = loads hooks t := by
  have octet : ∀ c : CodePoint, 0x20 ≤ c.val ∧ c.val ≤ 0x7e → ∀ n : UInt8,
      n.toNat < 0x20 ∨ 0x7e < n.toNat → UInt8.ofNat c.val ≠ n := by
    rintro c range n outside rfl
    rw [UInt8.toNat_ofNat', Nat.mod_eq_of_lt (by omega)] at outside
    omega
  have plain : isWide t.ascii = false ∧ [0xef, 0xbb, 0xbf].isPrefixOf t.ascii = false := by
    match t, printable with
    | [], _ => exact ⟨rfl, rfl⟩
    | [a], _ => simp [isWide, List.isPrefixOf]
    | a :: b :: rest, printable =>
      have ha := octet a (printable a (by simp))
      have hb := octet b (printable b (by simp))
      rcases rest with _ | ⟨c, _ | ⟨d, rest⟩⟩ <;>
        simp [isWide, List.isPrefixOf, (ha 0xff (by decide)).symm, (ha 0xfe (by decide)).symm,
          (ha 0xef (by decide)).symm, ha 0 (by decide), hb 0 (by decide)]
  have ascii : t.IsAscii := fun c member => by have := printable c member; omega
  rw [loadsBytes, detectedText, plain.1, plain.2, utf8Decode_ascii true ascii]
  rfl

/-- **Round trip on octets.** -/
theorem loadsBytes_render (commas : style.itemSeparator = [0x2c])
    (colons : style.keySeparator = [0x3a]) (decodeWide : Bytes → Option Text) {doc : Json}
    (readable : doc.Readable hooks style) :
    loadsBytes hooks decodeWide (doc.render style).ascii = some doc := by
  have printable : (doc.render style).IsPrintable :=
    printable_render (by rw [commas]; decide) (by rw [colons]; decide) doc readable
  rw [loadsBytes_ascii printable, loads_render commas colons readable]

end Octets

end Codec
