import CathedralCompute.Codec.Json
import Mathlib.Algebra.Order.Field.Rat
import Mathlib.Data.List.TakeWhile
import Mathlib.Data.Rat.Lemmas
import Mathlib.Tactic.Positivity
import Mathlib.Tactic.FieldSimp
import Mathlib.Tactic.Ring

/-!
# Decimal texts

The decimal arithmetic type, seen through its values: `Decimal.parse` is the
constructor on a text, and `Decimal.format` is the fixed-point text of a value
without trailing zeros. A value is a rational; the exponent a decimal remembers
besides it cannot be observed through these two operations.

## Main results

* `Decimal.parse_format` — the constructor reads a formatted value back
-/

set_option autoImplicit false

namespace Codec

namespace Decimal

/-! ## Reading -/

/-- The text with white space at its ends and underscores removed, and digits
outside ASCII replaced by ASCII ones. -/
def normalize (unicodeDigit : CodePoint → Option ℕ) (t : Text) : Text :=
  (t.strip.filter (· ≠ 0x5f)).map fun c =>
    if c.val < 0x80 then c
    else match unicodeDigit c with
      | some d => digit d
      | none => c

/-- The exponent part up to the end of the text; nothing counts as zero. -/
def parseExponent : Text → Option ℤ
  | [] => some 0
  | c :: rest =>
    let (sign, digits) := scanSign rest
    if (c = 0x65 ∨ c = 0x45) ∧ digits ≠ [] ∧ digits.all Text.isDigit then
      some (if sign = [0x2d] then -(natValue digits : ℤ) else natValue digits)
    else none

/-- The digits behind a point, where there is one. -/
def splitFraction : Text → Text × Text
  | [] => ([], [])
  | c :: rest =>
    if c = 0x2e then (rest.takeWhile Text.isDigit, rest.dropWhile Text.isDigit)
    else ([], c :: rest)

/-- A number without its sign. -/
def parseUnsigned (t : Text) : Option ℚ :=
  let integer := t.takeWhile Text.isDigit
  let (fraction, rest) := splitFraction (t.dropWhile Text.isDigit)
  if integer = [] ∧ fraction = [] then none
  else (parseExponent rest).map fun (exponent : ℤ) =>
    natValue (integer ++ fraction) * (10 : ℚ) ^ (exponent - (fraction.length : ℤ))

/-- The words for values that are not finite. -/
def parseSpecial (negative : Bool) (t : Text) : Option Floating :=
  if t = Text.ofString "inf" ∨ t = Text.ofString "infinity" then some (.infinite negative)
  else if (Text.removeHead (Text.ofString "s") t).take 3 = Text.ofString "nan" ∧
      ((Text.removeHead (Text.ofString "s") t).drop 3).all Text.isDigit then some .nan
  else none

/-- `Decimal(text)`; `none` where the constructor raises. -/
def parse (unicodeDigit : CodePoint → Option ℕ) (t : Text) : Option Floating :=
  let (sign, body) := scanSign (normalize unicodeDigit t)
  match parseUnsigned body with
  | some value => some (.finite (if sign = [0x2d] then -value else value))
  | none => parseSpecial (sign = [0x2d]) body.lower

/-! ## Writing -/

/-- How many digits behind the point the value needs; `none` when no finite
number of them is enough. -/
def places (q : ℚ) : Option ℕ := (List.range (q.den.log2 + 1)).find? fun k => q.den ∣ 10 ^ k

/-- Digits with a point before the last `k`. -/
def placePoint (k n : ℕ) : Text :=
  let digits := List.replicate (k + 1 - (natText n).length) 0x30 ++ natText n
  if k = 0 then digits
  else digits.take (digits.length - k) ++ 0x2e :: digits.drop (digits.length - k)

/-- The fixed-point text of a nonnegative value, without trailing zeros. -/
def format (q : ℚ) : Option Text :=
  (places q).map fun k => placePoint k (q * 10 ^ k).num.toNat

/-! ## Round trip -/

/-- Leading zeros do not change a numeral. -/
theorem natValue_replicate_zero_append (count : ℕ) (digits : Text) :
    natValue (List.replicate count 0x30 ++ digits) = natValue digits := by
  induction count with
  | zero => rfl
  | succ count ih =>
    rw [List.replicate_succ, List.cons_append]
    simpa [natValue, digitValue] using ih

/-- The digits of a value written with `k` places, all together. -/
theorem digits_placePoint (k n : ℕ) :
    ∃ integer fraction : Text, integer ≠ [] ∧ (∀ c ∈ integer, Text.isDigit c = true) ∧
      (∀ c ∈ fraction, Text.isDigit c = true) ∧ fraction.length = k ∧
      natValue (integer ++ fraction) = n ∧
      placePoint k n = if k = 0 then integer else integer ++ 0x2e :: fraction := by
  set digits : Text := List.replicate (k + 1 - (natText n).length) 0x30 ++ natText n with hdigits
  have long : k + 1 ≤ digits.length := by
    simp only [hdigits, List.length_append, List.length_replicate]
    omega
  have allDigits : ∀ c ∈ digits, Text.isDigit c = true := by
    intro c member
    rcases List.mem_append.mp member with member | member
    · rw [List.eq_of_mem_replicate member]
      decide
    · exact isDigit_of_mem_natText member
  refine ⟨digits.take (digits.length - k), digits.drop (digits.length - k), ?_, ?_, ?_, ?_, ?_, ?_⟩
  · intro empty
    have := congrArg List.length empty
    simp only [List.length_take, List.length_nil] at this
    omega
  · exact fun c member => allDigits c (List.mem_of_mem_take member)
  · exact fun c member => allDigits c (List.mem_of_mem_drop member)
  · rw [List.length_drop]
    omega
  · rw [List.take_append_drop, hdigits, natValue_replicate_zero_append, natValue_natText]
  · unfold placePoint
    by_cases h : k = 0
    · subst h
      simp [hdigits]
    · simp [h, hdigits]

theorem takeWhile_append_point {integer : Text} (digits : ∀ c ∈ integer, Text.isDigit c = true)
    (rest : Text) :
    (integer ++ 0x2e :: rest).takeWhile Text.isDigit = integer ∧
      (integer ++ 0x2e :: rest).dropWhile Text.isDigit = 0x2e :: rest := by
  have point : Text.isDigit 0x2e = false := by decide
  rw [List.takeWhile_append_of_pos digits, List.dropWhile_append_of_pos digits]
  simp [point]

/-- A text with `k` places denotes its digits scaled down. -/
theorem parseUnsigned_placePoint (k n : ℕ) :
    parseUnsigned (placePoint k n) = some (n * (10 : ℚ) ^ (-(k : ℤ))) := by
  obtain ⟨integer, fraction, nonempty, digits, digits', count, value, text⟩ := digits_placePoint k n
  have whole : integer.takeWhile Text.isDigit = integer := List.takeWhile_eq_self_iff.mpr digits
  have none : integer.dropWhile Text.isDigit = [] := List.dropWhile_eq_nil_iff.mpr digits
  have whole' : fraction.takeWhile Text.isDigit = fraction := List.takeWhile_eq_self_iff.mpr digits'
  have none' : fraction.dropWhile Text.isDigit = [] := List.dropWhile_eq_nil_iff.mpr digits'
  rw [text]
  by_cases h : k = 0
  · have empty : fraction = [] := List.length_eq_zero_iff.mp (count.trans h)
    subst empty
    rw [List.append_nil] at value
    simp [parseUnsigned, h, whole, none, splitFraction, nonempty, parseExponent, value]
  · obtain ⟨taken, dropped⟩ := takeWhile_append_point digits fraction
    simp [parseUnsigned, h, taken, dropped, splitFraction, whole', none', nonempty, parseExponent,
      value, count]

/-- The characters of a written decimal: digits and the point. -/
theorem mem_placePoint {k n : ℕ} {c : CodePoint} (member : c ∈ placePoint k n) :
    Text.isDigit c = true ∨ c = 0x2e := by
  obtain ⟨integer, fraction, -, digits, digits', -, -, text⟩ := digits_placePoint k n
  rw [text] at member
  split_ifs at member
  · exact Or.inl (digits c member)
  · rcases List.mem_append.mp member with member | member
    · exact Or.inl (digits c member)
    · rcases List.mem_cons.mp member with rfl | member
      · exact Or.inr rfl
      · exact Or.inl (digits' c member)

private theorem plain_of_mem {c : CodePoint} (h : Text.isDigit c = true ∨ c = 0x2e) :
    Text.isSpace c = false ∧ c ≠ 0x5f ∧ c.val < 0x80 ∧ c ≠ 0x2b ∧ c ≠ 0x2d := by
  have range : 46 ≤ c.val ∧ c.val ≤ 57 := by
    rcases h with h | rfl
    · simp only [Text.isDigit, Text.inRange, Bool.and_eq_true, decide_eq_true_eq] at h
      have zero : ('0' : Char).toNat = 48 := rfl
      have nine : ('9' : Char).toNat = 57 := rfl
      omega
    · decide
  have ne : ∀ d : CodePoint, d.val < 46 ∨ 57 < d.val → c ≠ d := by
    rintro d hd rfl
    omega
  refine ⟨?_, ne _ (by decide), by omega, ne _ (by decide), ne _ (by decide)⟩
  simp [Text.isSpace]
  omega

theorem dropWhile_isSpace {t : Text} (plain : ∀ c ∈ t, Text.isSpace c = false) :
    t.dropWhile Text.isSpace = t := by
  cases t with
  | nil => rfl
  | cons c t => simp [plain c List.mem_cons_self]

/-- Digits and points need no normalization. -/
theorem normalize_of_digits (unicodeDigit : CodePoint → Option ℕ) {t : Text}
    (digits : ∀ c ∈ t, Text.isDigit c = true ∨ c = 0x2e) : normalize unicodeDigit t = t := by
  have plain := fun c member => plain_of_mem (digits c member)
  have stripped : t.strip = t := by
    rw [Text.strip, dropWhile_isSpace fun c member => (plain c member).1,
      dropWhile_isSpace fun c member => (plain c (List.mem_reverse.mp member)).1,
      List.reverse_reverse]
  have kept : t.filter (· ≠ 0x5f) = t :=
    List.filter_eq_self.mpr fun c member => by simpa using (plain c member).2.1
  rw [normalize, stripped, kept]
  refine (List.map_congr_left fun c member => ?_).trans (List.map_id _)
  rw [if_pos (plain c member).2.2.1]
  rfl

/-- Digits and points have no sign. -/
theorem scanSign_of_digits {t : Text} (digits : ∀ c ∈ t, Text.isDigit c = true ∨ c = 0x2e) :
    scanSign t = ([], t) := by
  cases t with
  | nil => rfl
  | cons c rest =>
    have plain := plain_of_mem (digits c List.mem_cons_self)
    simp [scanSign, plain.2.2.2]

theorem parse_placePoint (unicodeDigit : CodePoint → Option ℕ) (k n : ℕ) :
    parse unicodeDigit (placePoint k n) = some (.finite (n * (10 : ℚ) ^ (-(k : ℤ)))) := by
  simp [parse, normalize_of_digits unicodeDigit fun _ => mem_placePoint,
    scanSign_of_digits fun _ => mem_placePoint, parseUnsigned_placePoint]

/-- A numeral with a zero behind the point. -/
def wholeText (n : ℕ) : Text := natText n ++ [0x2e, 0x30]

theorem parse_wholeText (unicodeDigit : CodePoint → Option ℕ) (n : ℕ) :
    parse unicodeDigit (wholeText n) = some (.finite n) := by
  have digits : ∀ c ∈ natText n, Text.isDigit c = true := fun _ => isDigit_of_mem_natText
  have zero : Text.isDigit 0x30 = true := by decide
  have characters : ∀ c ∈ wholeText n, Text.isDigit c = true ∨ c = 0x2e := by
    intro c member
    rcases List.mem_append.mp member with member | member
    · exact .inl (digits c member)
    · simp only [List.mem_cons, List.not_mem_nil, or_false] at member
      rcases member with rfl | rfl
      · exact .inr rfl
      · exact .inl zero
  have nonempty : natText n ≠ [] := by
    obtain ⟨m, rest, text, -⟩ := natText_eq_cons n
    rw [text]
    exact List.cons_ne_nil _ _
  have value : natValue (natText n ++ [0x30]) = 10 * n := by
    rw [natValue_append_singleton, natValue_natText]
    rfl
  have unsigned : parseUnsigned (wholeText n) = some (n : ℚ) := by
    obtain ⟨taken, dropped⟩ := takeWhile_append_point digits [0x30]
    simp only [wholeText, parseUnsigned, taken, dropped, splitFraction, if_true,
      List.takeWhile_cons, zero, List.takeWhile_nil, List.dropWhile_cons, List.dropWhile_nil,
      nonempty, false_and, if_false, parseExponent, Option.map_some, value, List.length_singleton]
    norm_num
    ring
  simp [parse, normalize_of_digits unicodeDigit characters, scanSign_of_digits characters,
    unsigned]

/-- With enough places the scaled value is a natural number. -/
theorem scaled_eq {q : ℚ} (nonneg : 0 ≤ q) {k : ℕ} (enough : q.den ∣ 10 ^ k) :
    (((q * 10 ^ k).num.toNat : ℕ) : ℚ) * (10 : ℚ) ^ (-(k : ℤ)) = q := by
  obtain ⟨m, product⟩ := enough
  have scaled : q * 10 ^ k = ((q.num * m : ℤ) : ℚ) := by
    have denominator : (10 : ℚ) ^ k = q.den * m := by exact_mod_cast product
    have positive : (q.den : ℚ) ≠ 0 := by exact_mod_cast q.den_nz
    rw [denominator]
    push_cast
    nth_rewrite 1 [← Rat.num_div_den q]
    field_simp
  have whole : (((q * 10 ^ k).num.toNat : ℕ) : ℚ) = q * 10 ^ k := by
    have nonneg' : 0 ≤ q.num * m := mul_nonneg (Rat.num_nonneg.mpr nonneg) (by positivity)
    rw [scaled, Rat.num_intCast]
    have back : ((q.num * m).toNat : ℤ) = q.num * m := Int.toNat_of_nonneg nonneg'
    exact_mod_cast congrArg (fun z : ℤ => (z : ℚ)) back
  rw [whole, zpow_neg, zpow_natCast, mul_assoc, mul_inv_cancel₀ (by positivity), mul_one]

/-- **Round trip.** The constructor reads a formatted value back. -/
theorem parse_format (unicodeDigit : CodePoint → Option ℕ) {q : ℚ} (nonneg : 0 ≤ q) {t : Text}
    (written : format q = some t) : parse unicodeDigit t = some (.finite q) := by
  obtain ⟨k, found, rfl⟩ := Option.map_eq_some_iff.mp written
  have enough : q.den ∣ 10 ^ k := by simpa using List.find?_some found
  rw [parse_placePoint, scaled_eq nonneg enough]

example : format (25 / 2) = some (Text.ofString "12.5") := by decide +kernel

end Decimal

end Codec
