import CathedralCompute.Codec.Timestamp
import Mathlib.Order.Basic

/-!
# Times to the second

The form `%Y-%m-%dT%H:%M:%SZ`, with every field at its full width. A time of the
first 9999 years is read back from its text, and the texts stand in the order of
the times, so that comparing two of them compares the times. `strftime` writes the
year without leading zeros: its texts are the same from year 1000 on, and only these
are read back.

## Main results

* `Instant.parseSecond_canonicalSecond` — what is written is read back
* `Instant.canonicalSecond_lt` — a later second has a later text
* `Instant.parseSecond_strftimeSecond` — what `strftime` writes is read from year 1000 on
-/

set_option autoImplicit false

namespace Codec

/-! ## Order of numerals -/

/-- Blocks of one length are compared first. -/
theorem append_lt_append_iff {a b x y : Text} (length : a.length = b.length) :
    a ++ x < b ++ y ↔ a < b ∨ (a = b ∧ x < y) := by
  induction a generalizing b with
  | nil =>
    obtain rfl := List.length_eq_zero_iff.mp length.symm
    simp
  | cons c a ih =>
    cases b with
    | nil => cases length
    | cons d b =>
      have rest := @ih b (Nat.succ.inj length)
      rw [List.cons_append, List.cons_append, List.cons_lt_cons_iff, List.cons_lt_cons_iff, rest,
        List.cons.injEq]
      tauto

theorem foldl_digits (value : ℕ) (digits : Text) :
    digits.foldl (fun value c => 10 * value + digitValue c) value =
      value * 10 ^ digits.length + natValue digits := by
  induction digits generalizing value with
  | nil => simp [natValue]
  | cons c digits ih =>
    rw [natValue, List.foldl_cons, List.foldl_cons, ih, ih (10 * 0 + digitValue c),
      List.length_cons, pow_succ]
    ring

theorem natValue_cons (c : CodePoint) (digits : Text) :
    natValue (c :: digits) = digitValue c * 10 ^ digits.length + natValue digits := by
  rw [natValue, List.foldl_cons, foldl_digits, Nat.mul_zero, Nat.zero_add]

theorem digitValue_lt {c : CodePoint} (digit : Text.isDigit c = true) : digitValue c < 10 := by
  simp only [Text.isDigit, Text.inRange, Bool.and_eq_true, decide_eq_true_eq] at digit
  have nine : ('9' : Char).toNat = 57 := rfl
  unfold digitValue
  omega

theorem natValue_lt {digits : Text} (all : ∀ c ∈ digits, Text.isDigit c = true) :
    natValue digits < 10 ^ digits.length := by
  induction digits with
  | nil => exact Nat.one_pos
  | cons c digits ih =>
    obtain ⟨first, others⟩ := List.forall_mem_cons.mp all
    have rest := ih others
    have digit := digitValue_lt first
    have scaled : digitValue c * 10 ^ digits.length ≤ 9 * 10 ^ digits.length :=
      Nat.mul_le_mul_right _ (by omega)
    rw [natValue_cons, List.length_cons, pow_succ]
    omega

/-- Numerals of one length are ordered as the numbers are. -/
theorem lt_of_natValue_lt {a b : Text} (length : a.length = b.length)
    (digits : ∀ c ∈ a, Text.isDigit c = true) (digits' : ∀ c ∈ b, Text.isDigit c = true)
    (less : natValue a < natValue b) : a < b := by
  induction a generalizing b with
  | nil =>
    obtain rfl := List.length_eq_zero_iff.mp length.symm
    exact absurd less (lt_irrefl _)
  | cons c a ih =>
    cases b with
    | nil => cases length
    | cons d b =>
      have short : a.length = b.length := Nat.succ.inj length
      obtain ⟨first, others⟩ := List.forall_mem_cons.mp digits
      obtain ⟨first', others'⟩ := List.forall_mem_cons.mp digits'
      rw [natValue_cons, natValue_cons, short] at less
      rw [List.cons_lt_cons_iff]
      rcases lt_trichotomy c d with below | same | above
      · exact .inl below
      · subst same
        exact .inr ⟨rfl, ih short others others' (by omega)⟩
      · have small := natValue_lt others'
        have order : digitValue d + 1 ≤ digitValue c := by
          have low : 48 ≤ d.val := by
            simp only [Text.isDigit, Text.inRange, Bool.and_eq_true, decide_eq_true_eq] at first'
            exact first'.1
          have above : d.val < c.val := above
          unfold digitValue
          omega
        have scaled := Nat.mul_le_mul_right (10 ^ b.length) order
        rw [Nat.add_mul, Nat.one_mul] at scaled
        omega

namespace Instant

theorem padded_lt {width m n : ℕ} (positive : 0 < width) (small : n < 10 ^ width) (less : m < n) :
    padded width m < padded width n := by
  have length : (padded width m).length = (padded width n).length := by
    rw [length_padded (less.trans small) positive, length_padded small positive]
  refine lt_of_natValue_lt length (fun c member => isDigit_of_mem_padded member)
    (fun c member => isDigit_of_mem_padded member) ?_
  rwa [natValue_padded, natValue_padded]

/-! ## Order of dates -/

theorem daysBeforeYear_succ_le {year : ℕ} (positive : 1 ≤ year) :
    daysBeforeYear year + 365 + (if isLeapYear year then 1 else 0) ≤ daysBeforeYear (year + 1) := by
  by_cases leap : isLeapYear year
  · rw [if_pos leap]
    unfold isLeapYear at leap
    unfold daysBeforeYear
    dsimp only
    omega
  · rw [if_neg leap]
    unfold isLeapYear at leap
    unfold daysBeforeYear
    dsimp only
    omega

theorem daysBeforeYear_mono {year later : ℕ} (positive : 1 ≤ year) (less : year < later) :
    daysBeforeYear year + 365 + (if isLeapYear year then 1 else 0) ≤ daysBeforeYear later := by
  refine (daysBeforeYear_succ_le positive).trans ?_
  refine Nat.le_induction le_rfl (fun later order ih => ih.trans ?_) later less
  exact (Nat.le_add_right _ _).trans ((Nat.le_add_right _ _).trans
    (daysBeforeYear_succ_le (positive.trans (Nat.le_of_succ_le order))))

/-- The months of a year follow one another. -/
private theorem months_follow : ∀ leap : Bool, ∀ later ≤ 12, ∀ month < later, 1 ≤ month →
    let before (month : ℕ) := daysBeforeMonth month + if 2 < month ∧ leap = true then 1 else 0
    before month + (before (month + 1) - before month) ≤ before later := by
  decide

private theorem months_end : ∀ leap : Bool, ∀ month ≤ 12, 1 ≤ month →
    let before (month : ℕ) := daysBeforeMonth month + if 2 < month ∧ leap = true then 1 else 0
    before month + (if month = 12 then 31 else before (month + 1) - before month) ≤
      365 + if leap then 1 else 0 := by
  decide

theorem daysBefore_follow {year month later : ℕ} (positive : 1 ≤ month) (less : month < later)
    (small : later ≤ 12) :
    daysBefore year month + daysInMonth year month ≤ daysBefore year later := by
  have follow := months_follow (decide (isLeapYear year)) later small month less positive
  have inner : month ≠ 12 := by omega
  simp only [decide_eq_true_eq] at follow
  rw [daysInMonth, if_neg inner]
  exact follow

theorem daysBefore_end {year month : ℕ} (positive : 1 ≤ month) (small : month ≤ 12) :
    daysBefore year month + daysInMonth year month ≤ 365 + if isLeapYear year then 1 else 0 := by
  have bound := months_end (decide (isLeapYear year)) month small positive
  simp only [decide_eq_true_eq] at bound
  exact bound

/-- Dates are compared by their year, their month and their day. -/
def Date.Before (a b : Date) : Prop :=
  a.year < b.year ∨ (a.year = b.year ∧ (a.month < b.month ∨ (a.month = b.month ∧ a.day < b.day)))

theorem day_lt_of_before {a b : Date} {day day' : ℕ} (dated : dayOfDate a = some day)
    (dated' : dayOfDate b = some day') (before : a.Before b) : day < day' := by
  unfold dayOfDate at dated dated'
  split at dated
  case isFalse => cases dated
  case isTrue valid =>
    split at dated'
    case isFalse => cases dated'
    case isTrue valid' =>
      cases dated
      cases dated'
      obtain ⟨⟨year, -⟩, ⟨month, month'⟩, day, inMonth⟩ := valid
      obtain ⟨⟨-, -⟩, ⟨-, later⟩, day', -⟩ := valid'
      have ends := @daysBefore_end a.year a.month month month'
      rcases before with years | ⟨sameYear, months | ⟨sameMonth, days⟩⟩
      · have follow := daysBeforeYear_mono year years
        omega
      · have follow := @daysBefore_follow a.year a.month b.month month months later
        rw [← sameYear]
        omega
      · rw [← sameYear, ← sameMonth]
        omega

theorem before_of_day_lt {day day' : ℕ} (small : day' < 3652059) (less : day < day') :
    (dateOfDay day).Before (dateOfDay day') := by
  have dated := dayOfDate_of_lt (less.trans small)
  have dated' := dayOfDate_of_lt small
  by_contra not
  unfold Date.Before at not
  by_cases same : dateOfDay day = dateOfDay day'
  · rw [same] at dated
    have := Option.some.inj (dated.symm.trans dated')
    omega
  · have reverse : (dateOfDay day').Before (dateOfDay day) := by
      have fields : ¬ ((dateOfDay day).year = (dateOfDay day').year ∧
          (dateOfDay day).month = (dateOfDay day').month ∧
          (dateOfDay day).day = (dateOfDay day').day) := by
        intro fields
        apply same
        cases h : dateOfDay day
        cases h' : dateOfDay day'
        rw [h, h'] at fields
        simp only [Date.mk.injEq]
        exact fields
      unfold Date.Before
      omega
    have := day_lt_of_before dated' dated reverse
    omega

/-! ## Texts -/

/-- `%Y-%m-%dT%H:%M:%SZ` with four digits of the year. -/
def canonicalSecond (t : Instant) : Text := secondText t ++ [0x5a]

/-- A text that matches `\d{4}-\d{2}-\d{2}T\d{2}:\d{2}:\d{2}Z`, as
`strptime("%Y-%m-%dT%H:%M:%SZ")` reads it; `none` where it does not match or is no
time. -/
def parseSecond (t : Text) : Option Instant := do
  let (year, t) ← takeField 4 4 [0x2d] t
  let (month, t) ← takeField 2 2 [0x2d] t
  let (day, t) ← takeField 2 2 [0x54] t
  let (hour, t) ← takeField 2 2 [0x3a] t
  let (minute, t) ← takeField 2 2 [0x3a] t
  let (second, t) ← takeField 2 2 [0x5a] t
  guard (t = [])
  ofFields ⟨natValue year, natValue month, natValue day⟩ (natValue hour) (natValue minute)
    (natValue second) 0

theorem isAscii_canonicalSecond (t : Instant) : t.canonicalSecond.IsAscii := by
  simp only [canonicalSecond, secondText, Text.isAscii_append, isAscii_padded, true_and, and_true]
  decide

/-- The end of year 9999. -/
def limit : ℕ := 3652059 * 86400000000

theorem length_canonicalSecond {t : ℕ} (small : t < limit) : (canonicalSecond t).length = 20 := by
  unfold limit at small
  obtain ⟨year, month, day⟩ := @dateOfDay_lt (t / 86400000000) (by omega)
  simp only [canonicalSecond, secondText, List.length_append, List.length_singleton]
  rw [length_padded year (by decide), length_padded month (by decide),
    length_padded day (by decide), length_padded (by omega) (by decide),
    length_padded (by omega) (by decide), length_padded (by omega) (by decide)]

/-- **Writing and reading.** A time of the first 9999 years is read back to the second. -/
theorem parseSecond_canonicalSecond {t : ℕ} (small : t < limit) :
    parseSecond (canonicalSecond t) = some (floorSecond t) := by
  unfold limit at small
  obtain ⟨days, seconds⟩ : t / 86400000000 < 3652059 ∧ t / 1000000 % 86400 < 86400 := by
    constructor <;> omega
  have dated := dayOfDate_of_lt days
  have total : (t / 86400000000 * 86400 + t / 1000000 % 86400 / 3600 * 3600 +
      t / 1000000 % 86400 / 60 % 60 * 60 + t / 1000000 % 86400 % 60) * 1000000 = floorSecond t := by
    have day : t / 86400000000 = t / 1000000 / 86400 := by rw [Nat.div_div_eq_div_mul]
    unfold floorSecond
    omega
  generalize dayOf : t / 86400000000 = day at days dated total
  generalize secondOf : t / 1000000 % 86400 = second at seconds total
  obtain ⟨year, month, inMonth⟩ := dateOfDay_lt days
  simp only [parseSecond, canonicalSecond, secondText, dayOf, secondOf, List.append_assoc,
    List.cons_append, List.nil_append, Option.bind_eq_bind]
  rw [takeField_of_padded year (by decide) (by decide) rfl (by decide)]
  simp only [Option.bind_some]
  rw [takeField_of_padded month (by decide) (by decide) rfl (by decide)]
  simp only [Option.bind_some]
  rw [takeField_of_padded inMonth (by decide) (by decide) rfl (by decide)]
  simp only [Option.bind_some]
  rw [takeField_of_padded (by omega) (by decide) (by decide) rfl (by decide)]
  simp only [Option.bind_some]
  rw [takeField_of_padded (by omega) (by decide) (by decide) rfl (by decide)]
  simp only [Option.bind_some]
  rw [takeField_of_padded (by omega) (by decide) (by decide) rfl (by decide)]
  have clock : second / 3600 < 24 ∧ second / 60 % 60 < 60 ∧ second % 60 < 60 := by omega
  simp [ofFields, natValue_padded, dated, clock, total]

/-- The last day of year 9999. -/
theorem lt_of_dayOfDate {date : Date} {day : ℕ} (dated : dayOfDate date = some day) :
    day < 3652059 := by
  unfold dayOfDate at dated
  split at dated
  case isFalse => cases dated
  case isTrue valid =>
    obtain ⟨⟨year, year'⟩, ⟨month, month'⟩, first, inMonth⟩ := valid
    cases dated
    have ends := @daysBefore_end date.year date.month month month'
    have follow := daysBeforeYear_mono year (show date.year < 10000 by omega)
    have last : daysBeforeYear 10000 = 3652059 := rfl
    omega

theorem whole_lt_limit {n instant : ℕ} (bound : n < 3652059 * 86400)
    (whole : instant = n * 1000000 + 0) :
    instant < limit ∧ floorSecond instant = instant := by
  have scaled := Nat.mul_lt_mul_of_pos_right bound (show 0 < 1000000 by decide)
  rw [Nat.add_zero] at whole
  constructor
  · rw [whole]
    exact scaled
  · rw [whole, floorSecond, Nat.mul_div_cancel n (show 0 < 1000000 by decide)]

/-- A time that was read is a whole second of the first 9999 years. -/
theorem bounds_of_parseSecond {t : Text} {instant : ℕ}
    (read : parseSecond t = some instant) : instant < limit ∧ floorSecond instant = instant := by
  simp only [parseSecond, Option.bind_eq_bind, Option.bind_eq_some_iff] at read
  obtain ⟨_, -, _, -, _, -, hour, -, minute, -, second, -, _, -, made⟩ := read
  simp only [ofFields, Option.bind_eq_bind, Option.bind_eq_some_iff] at made
  obtain ⟨day, dated, _, clock, total⟩ := made
  have days := lt_of_dayOfDate dated
  have clock : natValue hour.1 < 24 ∧ natValue minute.1 < 60 ∧ natValue second.1 < 60 := by
    by_contra outside
    rw [guard, if_neg outside] at clock
    cases clock
  have bound : day * 86400 + natValue hour.1 * 3600 + natValue minute.1 * 60 + natValue second.1 <
      3652059 * 86400 := by omega
  have whole := (Option.some.inj total).symm
  exact whole_lt_limit bound whole

/-- A field decides, or what follows it does. -/
theorem field_lt {width m n : ℕ} {c : CodePoint} {x y : Text} (positive : 0 < width)
    (small : m < 10 ^ width) (small' : n < 10 ^ width) (order : m < n ∨ (m = n ∧ x < y)) :
    padded width m ++ c :: x < padded width n ++ c :: y := by
  rw [append_lt_append_iff (by rw [length_padded small positive, length_padded small' positive])]
  rcases order with less | ⟨rfl, less⟩
  · exact .inl (padded_lt positive small' less)
  · exact .inr ⟨rfl, List.cons_lt_cons_iff.mpr (.inr ⟨rfl, less⟩)⟩

/-- **Order.** A later second has a later text. -/
theorem canonicalSecond_lt {a b : ℕ} (small : b < limit) (less : floorSecond a < floorSecond b) :
    canonicalSecond a < canonicalSecond b := by
  unfold limit at small
  have less : a / 1000000 * 1000000 < b / 1000000 * 1000000 := less
  have days : a / 86400000000 = a / 1000000 / 86400 ∧ b / 86400000000 = b / 1000000 / 86400 := by
    rw [Nat.div_div_eq_div_mul, Nat.div_div_eq_div_mul]
    exact ⟨rfl, rfl⟩
  have dayA : a / 86400000000 < 3652059 := by omega
  have dayB : b / 86400000000 < 3652059 := by omega
  have order : a / 86400000000 < b / 86400000000 ∨ (a / 86400000000 = b / 86400000000 ∧
      a / 1000000 % 86400 < b / 1000000 % 86400) := by omega
  have seconds : a / 1000000 % 86400 < 86400 ∧ b / 1000000 % 86400 < 86400 := by omega
  obtain ⟨year, month, day⟩ := dateOfDay_lt dayA
  obtain ⟨year', month', day'⟩ := dateOfDay_lt dayB
  have dates : a / 86400000000 < b / 86400000000 →
      (dateOfDay (a / 86400000000)).Before (dateOfDay (b / 86400000000)) := before_of_day_lt dayB
  simp only [canonicalSecond, secondText, List.append_assoc, List.cons_append, List.nil_append]
  generalize a / 1000000 % 86400 = second at *
  generalize b / 1000000 % 86400 = second' at *
  rcases order with earlier | ⟨sameDay, earlier⟩
  · -- the date decides
    refine field_lt (by decide) year year' ?_
    rcases dates earlier with years | ⟨sameYear, months | ⟨sameMonth, days⟩⟩
    · exact .inl years
    · exact .inr ⟨sameYear, field_lt (by decide) month month' (.inl months)⟩
    · exact .inr ⟨sameYear, field_lt (by decide) month month'
        (.inr ⟨sameMonth, field_lt (by decide) day day' (.inl days)⟩)⟩
  · -- the time of day decides
    rw [sameDay]
    refine field_lt (by decide) year' year' (.inr ⟨rfl, ?_⟩)
    refine field_lt (by decide) month' month' (.inr ⟨rfl, ?_⟩)
    refine field_lt (by decide) day' day' (.inr ⟨rfl, ?_⟩)
    have fields : second / 3600 < second' / 3600 ∨ (second / 3600 = second' / 3600 ∧
        (second / 60 % 60 < second' / 60 % 60 ∨
          (second / 60 % 60 = second' / 60 % 60 ∧ second % 60 < second' % 60))) := by omega
    have hours : second / 3600 < 10 ^ 2 ∧ second' / 3600 < 10 ^ 2 := by omega
    have minutes : second / 60 % 60 < 10 ^ 2 ∧ second' / 60 % 60 < 10 ^ 2 := by omega
    have rest : second % 60 < 10 ^ 2 ∧ second' % 60 < 10 ^ 2 := by omega
    refine field_lt (by decide) hours.1 hours.2 (fields.imp_right fun fields => ⟨fields.1, ?_⟩)
    refine field_lt (by decide) minutes.1 minutes.2
      (fields.2.imp_right fun fields => ⟨fields.1, ?_⟩)
    exact field_lt (by decide) rest.1 rest.2 (.inl fields.2)

/-- The text drops the fraction of the second. -/
theorem canonicalSecond_congr {a b : ℕ} (same : floorSecond a = floorSecond b) :
    canonicalSecond a = canonicalSecond b := by
  have seconds : a / 1000000 = b / 1000000 :=
    Nat.eq_of_mul_eq_mul_right (show 0 < 1000000 by decide) same
  have days : a / 86400000000 = b / 86400000000 := by
    rw [show 86400000000 = 1000000 * 86400 by rfl, ← Nat.div_div_eq_div_mul,
      ← Nat.div_div_eq_div_mul, seconds]
  rw [canonicalSecond, canonicalSecond, secondText, secondText, days, seconds]

/-- Whole seconds have texts of their own. -/
theorem canonicalSecond_inj {a b : ℕ} (small : a < limit) (small' : b < limit)
    (same : canonicalSecond a = canonicalSecond b) : floorSecond a = floorSecond b := by
  have read := parseSecond_canonicalSecond small
  rw [same, parseSecond_canonicalSecond small'] at read
  exact (Option.some.inj read).symm

/-! ## Years as they are -/

def year (t : Instant) : ℕ := (dateOfDay (t / 86400000000)).year

/-- The year has four digits. -/
def IsModern (t : Instant) : Prop := 1000 ≤ t.year

instance (t : Instant) : Decidable t.IsModern := inferInstanceAs (Decidable (1000 ≤ t.year))

/-- `strftime("%Y-%m-%dT%H:%M:%SZ")`: the year is not filled up, the fields behind it are. -/
def strftimeSecond (t : Instant) : Text := natText t.year ++ t.canonicalSecond.drop 4

/-- The two texts differ in the year only. -/
theorem exists_fields {t : ℕ} (small : t < limit) : ∃ rest : Text, rest.length = 15 ∧
    canonicalSecond t = padded 4 (year t) ++ 0x2d :: rest ∧
      strftimeSecond t = natText (year t) ++ 0x2d :: rest := by
  have length := length_canonicalSecond small
  unfold limit at small
  obtain ⟨bound, -, -⟩ := @dateOfDay_lt (t / 86400000000) (by omega)
  have full : (padded 4 (year t)).length = 4 := length_padded bound (by decide)
  have split : ∃ rest : Text, canonicalSecond t = padded 4 (year t) ++ 0x2d :: rest := by
    simp only [canonicalSecond, secondText, List.append_assoc, List.cons_append, List.nil_append]
    exact ⟨_, rfl⟩
  obtain ⟨rest, split⟩ := split
  refine ⟨rest, ?_, split, ?_⟩
  · rw [split, List.length_append, List.length_cons, full] at length
    omega
  · rw [strftimeSecond, split, List.drop_left' full]

theorem four_le_length_natText {n : ℕ} (large : 1000 ≤ n) : 4 ≤ (natText n).length := by
  have bound := natValue_lt fun c (member : c ∈ natText n) => isDigit_of_mem_natText member
  rw [natValue_natText] at bound
  by_contra short
  have power := Nat.pow_le_pow_right (show 0 < 10 by decide) (show (natText n).length ≤ 3 by omega)
  omega

theorem strftimeSecond_of_modern {t : ℕ} (small : t < limit) (modern : IsModern t) :
    strftimeSecond t = canonicalSecond t := by
  obtain ⟨rest, -, filled, unfilled⟩ := exists_fields small
  have full : 4 - (natText (year t)).length = 0 :=
    Nat.sub_eq_zero_of_le (four_le_length_natText modern)
  rw [filled, unfilled, padded, full, List.replicate_zero, List.nil_append]

/-- Whole seconds have texts of their own here too. -/
theorem strftimeSecond_inj {a b : ℕ} (small : a < limit) (small' : b < limit)
    (same : strftimeSecond a = strftimeSecond b) : floorSecond a = floorSecond b := by
  obtain ⟨rest, length, filled, unfilled⟩ := exists_fields small
  obtain ⟨rest', length', filled', unfilled'⟩ := exists_fields small'
  refine canonicalSecond_inj small small' ?_
  rw [unfilled, unfilled'] at same
  obtain ⟨years, rests⟩ := List.append_inj' same (by rw [List.length_cons, List.length_cons, length,
    length'])
  rw [filled, filled', natText_injective years, rests]

theorem isAscii_strftimeSecond (t : Instant) : t.strftimeSecond.IsAscii := by
  refine Text.isAscii_append.mpr ⟨fun c member => ?_, fun c member => ?_⟩
  · exact Text.val_lt_of_isDigit (isDigit_of_mem_natText member)
  · exact isAscii_canonicalSecond t c (List.mem_of_mem_drop member)

theorem length_strftimeSecond {t : ℕ} (small : t < limit) :
    0 < (strftimeSecond t).length ∧ (strftimeSecond t).length ≤ 20 := by
  obtain ⟨rest, length, -, unfilled⟩ := exists_fields small
  unfold limit at small
  obtain ⟨bound, -, -⟩ := @dateOfDay_lt (t / 86400000000) (by omega)
  have digits : (natText (year t)).length ≤ 4 := length_natDigits_le_of_lt bound (by decide)
  rw [unfilled, List.length_append, List.length_cons, length]
  omega

/-- **Reading back.** The text is read exactly from year 1000 on, as the second that was
written. -/
theorem parseSecond_strftimeSecond {t back : ℕ} (small : t < limit) :
    parseSecond (strftimeSecond t) = some back ↔ IsModern t ∧ back = floorSecond t := by
  constructor
  · intro read
    have modern : IsModern t := by
      obtain ⟨rest, -, -, unfilled⟩ := exists_fields small
      rw [unfilled] at read
      obtain ⟨⟨digits, after⟩, field, -⟩ := Option.bind_eq_some_iff.mp read
      obtain ⟨rfl, least⟩ := takeField_natText rfl field
      by_contra early
      have short : (natText (year t)).length ≤ 3 :=
        length_natDigits_le_of_lt (Nat.lt_of_not_le early) (by decide)
      omega
    rw [strftimeSecond_of_modern small modern, parseSecond_canonicalSecond small] at read
    exact ⟨modern, (Option.some.inj read).symm⟩
  · rintro ⟨modern, rfl⟩
    rw [strftimeSecond_of_modern small modern, parseSecond_canonicalSecond small]

example : strftimeSecond 0 = Text.ofString "1-01-01T00:00:00Z" := by decide +kernel

end Instant

end Codec
