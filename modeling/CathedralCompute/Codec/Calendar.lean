import CathedralCompute.Codec.Numeral

/-!
# UTC times

A time is a number of microseconds since the start of year 1, UTC, so that times
are ordered and shifted as numbers. The proleptic Gregorian date is computed as
the standard library does, by stripping cycles of 400, 100, 4 and 1 years off
the day number. The two texts are `datetime.isoformat`, which leaves out a zero
fraction, and the fixed-width form with a trailing `Z`.
-/

set_option autoImplicit false

namespace Codec

/-- Microseconds since 0001-01-01T00:00:00 UTC. -/
abbrev Instant := ℕ

namespace Instant

/-- `timedelta(seconds=n)`. -/
def seconds (n : ℕ) : ℕ := n * 1000000

/-- The time without its fraction of a second. -/
def floorSecond (t : Instant) : Instant := t / 1000000 * 1000000

/-- A calendar date. -/
structure Date where
  (year month day : ℕ)

/-- Days before the first of each month, January at place one, in a common
year. -/
def daysBeforeMonth (month : ℕ) : ℕ :=
  [0, 0, 31, 59, 90, 120, 151, 181, 212, 243, 273, 304, 334].getD month 0

/-- The date of a day, counted from 0001-01-01. -/
def dateOfDay (day : ℕ) : Date :=
  let n400 := day / 146097
  let n := day % 146097
  let n100 := n / 36524
  let n := n % 36524
  let n4 := n / 1461
  let n := n % 1461
  let n1 := n / 365
  let n := n % 365
  let year := n400 * 400 + n100 * 100 + n4 * 4 + n1 + 1
  if n1 = 4 ∨ n100 = 4 then ⟨year - 1, 12, 31⟩
  else
    let leap := n1 = 3 ∧ (n4 ≠ 24 ∨ n100 = 3)
    let before (month : ℕ) := daysBeforeMonth month + if 2 < month ∧ leap then 1 else 0
    let guess := (n + 50) / 32
    let month := if n < before guess then guess - 1 else guess
    ⟨year, month, n - before month + 1⟩

/-- A number in decimal, filled with zeros to a width. -/
def padded (width n : ℕ) : Text := List.replicate (width - (natText n).length) 0x30 ++ natText n

/-- The date and the time of day to the second. -/
def secondText (t : Instant) : Text :=
  let date := dateOfDay (t / 86400000000)
  let second := t / 1000000 % 86400
  padded 4 date.year ++ [0x2d] ++ padded 2 date.month ++ [0x2d] ++ padded 2 date.day ++ [0x54] ++
    padded 2 (second / 3600) ++ [0x3a] ++ padded 2 (second / 60 % 60) ++ [0x3a] ++
    padded 2 (second % 60)

/-- `datetime.isoformat()` of an aware UTC time. -/
def isoformat (t : Instant) : Text :=
  let microsecond := t % 1000000
  secondText t ++ (if microsecond = 0 then [] else [0x2e] ++ padded 6 microsecond) ++
    Text.ofString "+00:00"

/-- `%Y-%m-%dT%H:%M:%S.%fZ` with four digits of the year; `strftime` writes this from year
1000 on. -/
def canonicalUtc (t : Instant) : Text :=
  secondText t ++ [0x2e] ++ padded 6 (t % 1000000) ++ [0x5a]

theorem isAscii_padded (width n : ℕ) : (padded width n).IsAscii := by
  refine Text.isAscii_append.mpr ⟨fun c member => ?_, fun c member => ?_⟩
  · rw [List.eq_of_mem_replicate member]
    decide
  · exact Text.val_lt_of_isDigit (isDigit_of_mem_natText member)

theorem isAscii_canonicalUtc (t : Instant) : t.canonicalUtc.IsAscii := by
  simp only [canonicalUtc, secondText, Text.isAscii_append, isAscii_padded, true_and, and_true]
  decide

example : isoformat 63839664000500000 = Text.ofString "2024-01-01T00:00:00.500000+00:00" := by
  decide +kernel

example : canonicalUtc 63839664000000000 = Text.ofString "2024-01-01T00:00:00.000000Z" := by
  decide +kernel

end Instant

end Codec
