import CathedralCompute.Codec.SecondTimestamp

/-!
# Times as the ledger stores them

The ledger writes `isoformat()` of its clock into text columns, and compares the
texts: SQLite octet by octet where leases expire and jobs are pruned, Python code
point by code point where a lease is checked. A time on a whole second has no
fraction. Its text goes on with the sign of the offset, which stands before the
decimal point, so the texts are in the order of the times all the same.

## Main results

* `Instant.isoformat_lt` — a later time has a later text
* `stored_times_ordered` — comparing two stored texts, or their octets, compares the
  times
-/

set_option autoImplicit false

namespace Codec

namespace Instant

/-- The date and the time of day to the second take nineteen characters. -/
theorem length_secondText {t : ℕ} (small : t < limit) : (secondText t).length = 19 := by
  have whole := length_canonicalUtc small
  rw [canonicalUtc, List.length_append, List.length_append, List.length_append,
    length_padded (show t % 1000000 < 10 ^ 6 by omega) (by decide)] at whole
  simpa using whole

/-- The text of a later second is later, whatever follows. -/
theorem secondText_lt {a b : ℕ} {x y : Text} (small : a < limit) (small' : b < limit)
    (less : floorSecond a < floorSecond b) : secondText a ++ x < secondText b ++ y := by
  have length : (secondText a).length = (secondText b).length := by
    rw [length_secondText small, length_secondText small']
  have order := canonicalSecond_lt small' less
  rw [canonicalSecond, canonicalSecond, append_lt_append_iff length] at order
  have before : secondText a < secondText b :=
    order.resolve_right fun tie => absurd tie.2 (lt_irrefl _)
  exact (append_lt_append_iff length).mpr (.inl before)

/-- Within a second, the text without a fraction comes first, and the others by their
fraction. -/
theorem fraction_lt {m n : ℕ} {x : Text} (small : n < 1000000) (less : m < n) :
    (if m = 0 then [] else [0x2e] ++ padded 6 m) ++ 0x2b :: x <
      (if n = 0 then [] else [0x2e] ++ padded 6 n) ++ (0x2b :: x : Text) := by
  rw [if_neg (show n ≠ 0 by omega)]
  by_cases whole : m = 0
  · -- the sign of the offset against the decimal point
    rw [if_pos whole]
    exact List.cons_lt_cons_iff.mpr (.inl (by decide))
  · rw [if_neg whole]
    refine List.cons_lt_cons_iff.mpr (.inr ⟨rfl, ?_⟩)
    exact field_lt (by decide) (show m < 10 ^ 6 by omega) (show n < 10 ^ 6 by omega) (.inl less)

/-- **Order.** A later time has a later text. -/
theorem isoformat_lt {a b : ℕ} (small : b < limit) (less : a < b) : isoformat a < isoformat b := by
  have small' := less.trans small
  unfold isoformat
  rw [List.append_assoc, List.append_assoc]
  by_cases same : floorSecond a = floorSecond b
  · have seconds : secondText a = secondText b :=
      List.append_cancel_right (canonicalSecond_congr same)
    have fractions : a % 1000000 < b % 1000000 := by
      have quotients := Nat.eq_of_mul_eq_mul_right (show 0 < 1000000 by decide) same
      omega
    rw [seconds, append_lt_append_iff rfl]
    exact .inr ⟨rfl, fraction_lt (Nat.mod_lt b (by decide)) fractions⟩
  · refine secondText_lt small' small (lt_of_le_of_ne ?_ same)
    exact Nat.mul_le_mul_right _ (Nat.div_le_div_right less.le)

theorem isAscii_isoformat (t : Instant) : t.isoformat.IsAscii := by
  simp only [isoformat, secondText]
  split <;> simp only [Text.isAscii_append, isAscii_padded, true_and, and_true] <;> decide

end Instant

/-- The octets of ASCII texts are in the order of the texts. -/
theorem Text.ascii_lt_iff {s t : Text} (ascii : s.IsAscii) (ascii' : t.IsAscii) :
    s.ascii < t.ascii ↔ s < t := by
  induction s generalizing t with
  | nil => cases t <;> simp
  | cons c s ih =>
    cases t with
    | nil => simp
    | cons d t =>
      obtain ⟨first, rest⟩ := isAscii_cons.mp ascii
      obtain ⟨first', rest'⟩ := isAscii_cons.mp ascii'
      have octet : (UInt8.ofNat c.val).toNat = c.val := by
        rw [UInt8.toNat_ofNat', Nat.mod_eq_of_lt (by omega)]
      have octet' : (UInt8.ofNat d.val).toNat = d.val := by
        rw [UInt8.toNat_ofNat', Nat.mod_eq_of_lt (by omega)]
      rw [ascii_cons, ascii_cons, List.cons_lt_cons_iff, List.cons_lt_cons_iff, ih rest rest',
        UInt8.lt_iff_toNat_lt, ← UInt8.toNat_inj, octet, octet', Fin.lt_def, Fin.ext_iff]

end Codec

namespace Cathedral.Ledger

open Codec

/-- **Stored times.** For all UTC times, comparing the stored texts, or the octets of
them, compares the times. -/
theorem stored_times_ordered (a b : Fin Instant.limit) :
    (Instant.isoformat a.val < Instant.isoformat b.val ↔ a < b) ∧
      ((Instant.isoformat a.val).ascii < (Instant.isoformat b.val).ascii ↔ a < b) ∧
      (Instant.isoformat a.val = Instant.isoformat b.val ↔ a = b) := by
  have later : ∀ {x y : Fin Instant.limit}, x < y →
      Instant.isoformat x.val < Instant.isoformat y.val :=
    fun {_ y} less => Instant.isoformat_lt y.isLt less
  have order : Instant.isoformat a.val < Instant.isoformat b.val ↔ a < b := by
    rcases lt_trichotomy a b with less | rfl | greater
    · exact iff_of_true (later less) less
    · exact iff_of_false (lt_irrefl _) (lt_irrefl _)
    · exact iff_of_false (later greater).asymm greater.asymm
  refine ⟨order, ?_, fun same => ?_, fun same => congrArg _ (congrArg Fin.val same)⟩
  · rw [Text.ascii_lt_iff (Instant.isAscii_isoformat _) (Instant.isAscii_isoformat _), order]
  · by_contra different
    rcases lt_or_gt_of_ne different with less | greater
    · exact absurd same (later less).ne
    · exact absurd same (later greater).ne'

/-- A time on a whole second, and the next microsecond. -/
example : Instant.isoformat 63839664000000000 < Instant.isoformat 63839664000000001 := by
  decide +kernel

end Cathedral.Ledger
