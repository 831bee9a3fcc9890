import CathedralCompute.Codec.Calendar

/-!
# Reading a fixed-width time back

`datetime.strptime` for the form `%Y-%m-%dT%H:%M:%S.%fZ`. The fields are runs of
decimal digits between fixed separators; all but the year may be shorter than
they are written, and the fraction is filled up on the right. Where the reader
accepts what `canonicalUtc` wrote, it returns the time that was written.

## Main results

* `Instant.eq_of_parseUtc` — a time read back is the time that was written
* `Instant.parseUtc_canonicalUtc` — every time before year 10000 is read back
-/

set_option autoImplicit false

namespace Codec

/-- A run of `least` to `most` decimal digits, closed by one of the separators,
and what follows. -/
def takeField (least most : ℕ) (separators : List CodePoint) (t : Text) : Option (Text × Text) :=
  let digits := t.takeWhile Text.isDigit
  match t.drop digits.length with
  | c :: rest =>
    if (least ≤ digits.length ∧ digits.length ≤ most) ∧ c ∈ separators then some (digits, rest)
    else none
  | [] => none

namespace Instant

def isLeapYear (year : ℕ) : Prop := year % 4 = 0 ∧ (year % 100 ≠ 0 ∨ year % 400 = 0)

instance (year : ℕ) : Decidable (isLeapYear year) := inferInstanceAs (Decidable (_ ∧ _))

/-- The days of the year before the first of the month. -/
def daysBefore (year month : ℕ) : ℕ :=
  daysBeforeMonth month + if 2 < month ∧ isLeapYear year then 1 else 0

def daysInMonth (year month : ℕ) : ℕ :=
  if month = 12 then 31 else daysBefore year (month + 1) - daysBefore year month

/-- The days before the first of the year. -/
def daysBeforeYear (year : ℕ) : ℕ :=
  let y := year - 1
  y * 365 + y / 4 - y / 100 + y / 400

/-- The day of a date, counted from 0001-01-01; `none` where there is no such
date. -/
def dayOfDate (date : Date) : Option ℕ :=
  if (1 ≤ date.year ∧ date.year ≤ 9999) ∧ (1 ≤ date.month ∧ date.month ≤ 12) ∧
      (1 ≤ date.day ∧ date.day ≤ daysInMonth date.year date.month) then
    some (daysBeforeYear date.year + daysBefore date.year date.month + (date.day - 1))
  else none

/-- The time of a date, a time of day and a fraction; `none` where `datetime`
raises. -/
def ofFields (date : Date) (hour minute second microsecond : ℕ) : Option Instant := do
  let day ← dayOfDate date
  guard (hour < 24 ∧ minute < 60 ∧ second < 60)
  return (day * 86400 + hour * 3600 + minute * 60 + second) * 1000000 + microsecond

/-- `parse_utc`; `none` where it raises. A day with a blank before it and digits outside
ASCII, which `strptime` also takes, are not read here. -/
def parseUtc (t : Text) : Option Instant := do
  let (year, t) ← takeField 4 4 [0x2d] t
  let (month, t) ← takeField 1 2 [0x2d] t
  let (day, t) ← takeField 1 2 [0x54, 0x74] t
  let (hour, t) ← takeField 1 2 [0x3a] t
  let (minute, t) ← takeField 1 2 [0x3a] t
  let (second, t) ← takeField 1 2 [0x2e] t
  let (fraction, t) ← takeField 1 6 [0x5a, 0x7a] t
  guard (t = [])
  ofFields ⟨natValue year, natValue month, natValue day⟩ (natValue hour) (natValue minute)
    (natValue second) (natValue fraction * 10 ^ (6 - fraction.length))

/-! ## Dates -/

/-- The month the calendar guesses and corrects starts no later than the day. -/
private theorem before_month_le : ∀ n < 366, ∀ leap : Bool,
    let before (month : ℕ) := daysBeforeMonth month + if 2 < month ∧ leap = true then 1 else 0
    let guess := (n + 50) / 32
    before (if n < before guess then guess - 1 else guess) ≤ n := by
  decide +kernel

/-- The days before a year, by the cycles it closes. -/
theorem daysBeforeYear_cycles {n400 n100 n4 n1 : ℕ} (centuries : n100 ≤ 3) (quads : n4 ≤ 24)
    (years : n1 ≤ 3) :
    daysBeforeYear (n400 * 400 + n100 * 100 + n4 * 4 + n1 + 1) =
      n400 * 146097 + n100 * 36524 + n4 * 1461 + n1 * 365 := by
  simp only [daysBeforeYear, Nat.add_sub_cancel]
  omega

theorem isLeapYear_cycles {n400 n100 n4 n1 : ℕ} (centuries : n100 ≤ 3) (quads : n4 ≤ 24)
    (years : n1 ≤ 3) :
    isLeapYear (n400 * 400 + n100 * 100 + n4 * 4 + n1 + 1) ↔ n1 = 3 ∧ (n4 ≠ 24 ∨ n100 = 3) := by
  unfold isLeapYear
  omega

/-- The days before the year and the month of a date, and the day of the month,
add up to the day the date was computed from. -/
theorem day_of_dateOfDay (day : ℕ) :
    daysBeforeYear (dateOfDay day).year + daysBefore (dateOfDay day).year (dateOfDay day).month +
      ((dateOfDay day).day - 1) = day := by
  unfold dateOfDay
  simp only
  generalize h400 : day / 146097 = n400
  generalize rest400 : day % 146097 = r400
  generalize h100 : r400 / 36524 = n100
  generalize rest100 : r400 % 36524 = r100
  generalize h4 : r100 / 1461 = n4
  generalize rest4 : r100 % 1461 = r4
  generalize h1 : r4 / 365 = n1
  generalize rest1 : r4 % 365 = n
  split
  case isTrue last =>
    -- the last day of a leap year closes its cycle
    rcases last with rfl | rfl
    · have year := @daysBeforeYear_cycles n400 n100 n4 3 (by omega) (by omega) le_rfl
      have leap := (@isLeapYear_cycles n400 n100 n4 3 (by omega) (by omega) le_rfl).mpr
        ⟨rfl, by omega⟩
      have same : n400 * 400 + n100 * 100 + n4 * 4 + 4 + 1 - 1 =
          n400 * 400 + n100 * 100 + n4 * 4 + 3 + 1 := by omega
      have month : daysBefore (n400 * 400 + n100 * 100 + n4 * 4 + 3 + 1) 12 = 335 := by
        rw [daysBefore, if_pos ⟨by omega, leap⟩]
        rfl
      simp only [same, year, month]
      omega
    · have year := @daysBeforeYear_cycles n400 3 24 3 le_rfl le_rfl le_rfl
      have leap := (@isLeapYear_cycles n400 3 24 3 le_rfl le_rfl le_rfl).mpr ⟨rfl, .inr rfl⟩
      have same : n400 * 400 + 4 * 100 + n4 * 4 + n1 + 1 - 1 =
          n400 * 400 + 3 * 100 + 24 * 4 + 3 + 1 := by omega
      have month : daysBefore (n400 * 400 + 3 * 100 + 24 * 4 + 3 + 1) 12 = 335 := by
        rw [daysBefore, if_pos ⟨by omega, leap⟩]
        rfl
      simp only [same, year, month]
      omega
  case isFalse inside =>
    have year := @daysBeforeYear_cycles n400 n100 n4 n1 (by omega) (by omega) (by omega)
    have leap := @isLeapYear_cycles n400 n100 n4 n1 (by omega) (by omega) (by omega)
    have month := before_month_le n (by omega) (decide (n1 = 3 ∧ (n4 ≠ 24 ∨ n100 = 3)))
    simp only [decide_eq_true_eq] at month
    simp only [daysBefore, leap, year]
    omega

/-- The day of the date of a day. -/
theorem dayOfDate_dateOfDay {day back : ℕ} (read : dayOfDate (dateOfDay day) = some back) :
    back = day := by
  unfold dayOfDate at read
  split at read
  case isFalse => cases read
  case isTrue =>
    cases read
    exact day_of_dateOfDay day

/-- The month the calendar finds is a month, and the day lies in it. -/
private theorem month_of_guess : ∀ n < 365, ∀ leap : Bool,
    let before (month : ℕ) := daysBeforeMonth month + if 2 < month ∧ leap = true then 1 else 0
    let guess := (n + 50) / 32
    let month := if n < before guess then guess - 1 else guess
    (1 ≤ month ∧ month ≤ 12) ∧ (month = 12 → n - before 12 < 31) ∧
      (month ≠ 12 → n - before month < before (month + 1) - before month) := by
  decide +kernel

/-- The day before year 10000 has year 9999 at most. -/
theorem dayOfDate_of_lt {day : ℕ} (small : day < 3652059) :
    dayOfDate (dateOfDay day) = some day := by
  have total := day_of_dateOfDay day
  suffices dated : ((1 ≤ (dateOfDay day).year ∧ (dateOfDay day).year ≤ 9999) ∧
      (1 ≤ (dateOfDay day).month ∧ (dateOfDay day).month ≤ 12) ∧
      (1 ≤ (dateOfDay day).day ∧
        (dateOfDay day).day ≤ daysInMonth (dateOfDay day).year (dateOfDay day).month)) by
    rw [dayOfDate, if_pos dated, total]
  clear total
  unfold dateOfDay
  simp only
  -- the cycles of 400, 100, 4 and 1 years, and what is left of each
  generalize h400 : day / 146097 = n400
  generalize rest400 : day % 146097 = r400
  generalize h100 : r400 / 36524 = n100
  generalize rest100 : r400 % 36524 = r100
  generalize h4 : r100 / 1461 = n4
  generalize rest4 : r100 % 1461 = r4
  generalize h1 : r4 / 365 = n1
  generalize rest1 : r4 % 365 = n
  split
  -- the last day of a cycle is the last of December
  case isTrue last =>
    refine ⟨?_, ⟨Nat.le_of_ble_eq_true rfl, le_rfl⟩, Nat.le_of_ble_eq_true rfl, le_rfl⟩
    show 1 ≤ n400 * 400 + n100 * 100 + n4 * 4 + n1 + 1 - 1 ∧
      n400 * 400 + n100 * 100 + n4 * 4 + n1 + 1 - 1 ≤ 9999
    omega
  case isFalse inside =>
    -- the month is guessed from the day, and set back where the guess is late
    have leap := @isLeapYear_cycles n400 n100 n4 n1 (by omega) (by omega) (by omega)
    obtain ⟨months, december, others⟩ := month_of_guess n (by omega)
      (decide (n1 = 3 ∧ (n4 ≠ 24 ∨ n100 = 3)))
    simp only [decide_eq_true_eq] at months december others
    generalize (if n < daysBeforeMonth ((n + 50) / 32) + _ then (n + 50) / 32 - 1
      else (n + 50) / 32) = month at months december others ⊢
    refine ⟨?_, months, Nat.succ_pos _, ?_⟩
    · show 1 ≤ n400 * 400 + n100 * 100 + n4 * 4 + n1 + 1 ∧
        n400 * 400 + n100 * 100 + n4 * 4 + n1 + 1 ≤ 9999
      omega
    · by_cases last : month = 12
      · subst last
        exact Nat.succ_le_of_lt (december rfl)
      · have inMonth := others last
        simp only [daysInMonth, if_neg last, daysBefore, leap]
        omega

theorem daysInMonth_le {year month : ℕ} (small : month ≤ 12) : daysInMonth year month ≤ 31 := by
  have finite : ∀ month ≤ 12, ∀ leap : Bool,
      let before (month : ℕ) := daysBeforeMonth month + if 2 < month ∧ leap = true then 1 else 0
      month ≠ 12 → before (month + 1) - before month ≤ 31 := by
    decide
  unfold daysInMonth
  split
  · exact le_rfl
  case isFalse other =>
    have bound := finite month small (decide (isLeapYear year)) other
    simpa only [daysBefore, decide_eq_true_eq] using bound

/-! ## Fields -/

theorem natValue_padded (width n : ℕ) : natValue (padded width n) = n := by
  have zeros : ∀ count, natValue (List.replicate count 0x30) = 0 := by
    intro count
    induction count with
    | zero => rfl
    | succ count ih =>
      rw [List.replicate_succ', natValue_append_singleton, ih]
      rfl
  rw [padded, natValue, List.foldl_append]
  have start := zeros (width - (natText n).length)
  unfold natValue at start
  rw [start]
  exact natValue_natText n

theorem isDigit_of_mem_padded {width n : ℕ} {c : CodePoint} (member : c ∈ padded width n) :
    Text.isDigit c = true := by
  rcases List.mem_append.mp member with zero | numeral
  · rw [List.eq_of_mem_replicate zero]
    decide
  · exact isDigit_of_mem_natText numeral

theorem le_length_padded (width n : ℕ) : width ≤ (padded width n).length := by
  simp only [padded, List.length_append, List.length_replicate]
  omega

/-- A field that was written is read as it is. -/
theorem takeField_padded {least most width n : ℕ} {separators : List CodePoint} {c : CodePoint}
    {rest digits after : Text} (separator : Text.isDigit c = false)
    (read : takeField least most separators (padded width n ++ c :: rest) =
      some (digits, after)) :
    digits = padded width n ∧ digits.length ≤ most ∧ after = rest := by
  have field : (padded width n ++ c :: rest).takeWhile Text.isDigit = padded width n := by
    rw [List.takeWhile_append_of_pos fun c member => isDigit_of_mem_padded member,
      List.takeWhile_cons_of_neg (by simp [separator]), List.append_nil]
  simp only [takeField, field, List.drop_left] at read
  split at read
  case isFalse => cases read
  case isTrue bounds =>
    cases read
    exact ⟨rfl, bounds.1.2, rfl⟩

/-- A numeral that was read as a field has enough digits. -/
theorem takeField_natText {least most n : ℕ} {separators : List CodePoint} {c : CodePoint}
    {rest digits after : Text} (separator : Text.isDigit c = false)
    (read : takeField least most separators (natText n ++ c :: rest) = some (digits, after)) :
    digits = natText n ∧ least ≤ digits.length := by
  have field : (natText n ++ c :: rest).takeWhile Text.isDigit = natText n := by
    rw [List.takeWhile_append_of_pos fun c member => isDigit_of_mem_natText member,
      List.takeWhile_cons_of_neg (by simp [separator]), List.append_nil]
  simp only [takeField, field, List.drop_left] at read
  split at read
  case isFalse => cases read
  case isTrue bounds =>
    cases read
    exact ⟨rfl, bounds.1.1⟩

theorem length_padded {width n : ℕ} (small : n < 10 ^ width) (positive : 0 < width) :
    (padded width n).length = width := by
  have short : (natText n).length ≤ width := length_natDigits_le_of_lt small positive
  simp only [padded, List.length_append, List.length_replicate]
  omega

/-- A field that was written within its width is read. -/
theorem takeField_of_padded {least most width n : ℕ} {separators : List CodePoint} {c : CodePoint}
    {rest : Text} (small : n < 10 ^ width) (positive : 0 < width)
    (width_fits : least ≤ width ∧ width ≤ most) (separator : Text.isDigit c = false)
    (listed : c ∈ separators) :
    takeField least most separators (padded width n ++ c :: rest) = some (padded width n, rest) := by
  have field : (padded width n ++ c :: rest).takeWhile Text.isDigit = padded width n := by
    rw [List.takeWhile_append_of_pos fun c member => isDigit_of_mem_padded member,
      List.takeWhile_cons_of_neg (by simp [separator]), List.append_nil]
  simp only [takeField, field, List.drop_left]
  rw [if_pos ⟨by rwa [length_padded small positive], listed⟩]

/-- The hours, minutes and seconds of a time of day, and the fraction. -/
private theorem recombine (t : ℕ) :
    (t / 86400000000 * 86400 + t / 1000000 % 86400 / 3600 * 3600 +
      t / 1000000 % 86400 / 60 % 60 * 60 + t / 1000000 % 86400 % 60) * 1000000 + t % 1000000 = t := by
  have day : t / 86400000000 = t / 1000000 / 86400 := by rw [Nat.div_div_eq_div_mul]
  omega

/-- **Reading back.** A time read back is the time that was written. -/
theorem eq_of_parseUtc {t back : Instant} (read : parseUtc (canonicalUtc t) = some back) :
    back = t := by
  simp only [canonicalUtc, secondText, List.append_assoc, List.singleton_append] at read
  obtain ⟨⟨year, after⟩, field, read⟩ := Option.bind_eq_some_iff.mp read
  obtain ⟨rfl, -, rfl⟩ := takeField_padded rfl field
  obtain ⟨⟨month, after⟩, field, read⟩ := Option.bind_eq_some_iff.mp read
  obtain ⟨rfl, -, rfl⟩ := takeField_padded rfl field
  obtain ⟨⟨day, after⟩, field, read⟩ := Option.bind_eq_some_iff.mp read
  obtain ⟨rfl, -, rfl⟩ := takeField_padded rfl field
  obtain ⟨⟨hour, after⟩, field, read⟩ := Option.bind_eq_some_iff.mp read
  obtain ⟨rfl, -, rfl⟩ := takeField_padded rfl field
  obtain ⟨⟨minute, after⟩, field, read⟩ := Option.bind_eq_some_iff.mp read
  obtain ⟨rfl, -, rfl⟩ := takeField_padded rfl field
  obtain ⟨⟨second, after⟩, field, read⟩ := Option.bind_eq_some_iff.mp read
  obtain ⟨rfl, -, rfl⟩ := takeField_padded rfl field
  obtain ⟨⟨fraction, after⟩, field, read⟩ := Option.bind_eq_some_iff.mp read
  obtain ⟨rfl, short, rfl⟩ := takeField_padded rfl field
  obtain ⟨_, -, made⟩ := Option.bind_eq_some_iff.mp read
  simp only [natValue_padded] at made
  obtain ⟨number, dated, made⟩ := Option.bind_eq_some_iff.mp made
  obtain ⟨_, -, total⟩ := Option.bind_eq_some_iff.mp made
  -- the fraction is written at its full width, so nothing is filled up
  have full : 6 - (padded 6 (t % 1000000)).length = 0 := by
    have wide := le_length_padded 6 (t % 1000000)
    omega
  have date := dayOfDate_dateOfDay dated
  cases total
  rw [date, full, pow_zero, mul_one]
  exact recombine t

/-- The fields of a date before year 10000 fit their widths. -/
theorem dateOfDay_lt {day : ℕ} (small : day < 3652059) :
    (dateOfDay day).year < 10 ^ 4 ∧ (dateOfDay day).month < 10 ^ 2 ∧
      (dateOfDay day).day < 10 ^ 2 := by
  have dated := dayOfDate_of_lt small
  unfold dayOfDate at dated
  split at dated
  case isFalse => cases dated
  case isTrue within =>
    obtain ⟨⟨-, year⟩, ⟨-, month⟩, -, inMonth⟩ := within
    have inMonth := inMonth.trans (daysInMonth_le month)
    omega

theorem length_canonicalUtc {t : ℕ} (small : t < 3652059 * 86400000000) :
    (canonicalUtc t).length = 27 := by
  obtain ⟨year, month, day⟩ := @dateOfDay_lt (t / 86400000000) (by omega)
  simp only [canonicalUtc, secondText, List.length_append, List.length_singleton]
  rw [length_padded year (by decide), length_padded month (by decide),
    length_padded day (by decide), length_padded (by omega) (by decide),
    length_padded (by omega) (by decide), length_padded (by omega) (by decide),
    length_padded (by omega) (by decide)]

/-- **Writing and reading.** A time of the first 9999 years is read back from its text. -/
theorem parseUtc_canonicalUtc {t : ℕ} (small : t < 3652059 * 86400000000) :
    parseUtc (canonicalUtc t) = some t := by
  obtain ⟨days, seconds⟩ : t / 86400000000 < 3652059 ∧ t / 1000000 % 86400 < 86400 := by
    constructor <;> omega
  have dated := dayOfDate_of_lt days
  have total := recombine t
  generalize dayOf : t / 86400000000 = day at days dated total
  generalize secondOf : t / 1000000 % 86400 = second at seconds total
  obtain ⟨year, month, inMonth⟩ := dateOfDay_lt days
  have full : (padded 6 (t % 1000000)).length = 6 := length_padded (by omega) (by decide)
  simp only [parseUtc, canonicalUtc, secondText, dayOf, secondOf, List.append_assoc,
    List.cons_append, List.nil_append, Option.bind_eq_bind]
  rw [takeField_of_padded year (by decide) (by decide) rfl (by decide)]
  simp only [Option.bind_some]
  rw [takeField_of_padded month (by decide) (by decide) rfl (by decide)]
  simp only [Option.bind_some]
  rw [takeField_of_padded inMonth (by decide) (by decide) rfl (by decide)]
  simp only [Option.bind_some]
  rw [takeField_of_padded (by omega) (by decide) (by decide) rfl (by decide)]
  simp only [Option.bind_some]
  rw [takeField_of_padded (by omega) (by decide) (by decide) rfl (by decide)]
  simp only [Option.bind_some]
  rw [takeField_of_padded (by omega) (by decide) (by decide) rfl (by decide)]
  simp only [Option.bind_some]
  rw [takeField_of_padded (by omega) (by decide) (by decide) rfl (by decide)]
  have clock : second / 3600 < 24 ∧ second / 60 % 60 < 60 ∧ second % 60 < 60 := by omega
  simp [ofFields, natValue_padded, dated, full, clock, total]

end Instant

end Codec
