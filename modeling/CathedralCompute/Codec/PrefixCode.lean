import CathedralCompute.Codec.Sha256

/-!
# Prefix codes

A code is prefix-free if what it makes of a value can be split off whatever follows. The
concatenation of any number of values of a prefix-free code without empty words determines
the values. The code points of UTF-8 are such a code, and so are octets behind their
length.

## Main results

* `PrefixFree.flatMap_inj` — a concatenation determines the values
* `Text.utf8_inj` — UTF-8 determines the text
-/

set_option autoImplicit false

namespace Codec

/-- On valid values, the word of a value can be split off whatever follows. -/
def PrefixFree {α β : Type} (valid : α → Prop) (code : α → List β) : Prop :=
  ∀ a b, valid a → valid b → ∀ x y, code a ++ x = code b ++ y → a = b ∧ x = y

section

variable {α β : Type} {valid : α → Prop} {code : α → List β}

theorem PrefixFree.flatMap_inj (free : PrefixFree valid code) (filled : ∀ a, code a ≠ [])
    {as bs : List α} (validAs : ∀ a ∈ as, valid a) (validBs : ∀ b ∈ bs, valid b)
    (same : as.flatMap code = bs.flatMap code) : as = bs := by
  induction as generalizing bs with
  | nil =>
    cases bs with
    | nil => rfl
    | cons b bs =>
      rw [List.flatMap_nil, List.flatMap_cons] at same
      exact absurd (List.append_eq_nil_iff.mp same.symm).1 (filled b)
  | cons a as ih =>
    cases bs with
    | nil =>
      rw [List.flatMap_nil, List.flatMap_cons] at same
      exact absurd (List.append_eq_nil_iff.mp same).1 (filled a)
    | cons b bs =>
      rw [List.flatMap_cons, List.flatMap_cons] at same
      obtain ⟨rfl, rest⟩ := free a b (validAs a List.mem_cons_self) (validBs b List.mem_cons_self)
        _ _ same
      rw [ih (fun a member => validAs a (List.mem_cons_of_mem _ member))
        (fun b member => validBs b (List.mem_cons_of_mem _ member)) rest]

end

/-! ## Numbers and octets -/

theorem UInt8.ofNat_inj_of_lt {a b : ℕ} (small : a < 256) (small' : b < 256)
    (same : UInt8.ofNat a = UInt8.ofNat b) : a = b := by
  have values := congrArg UInt8.toNat same
  rwa [UInt8.toNat_ofNat', UInt8.toNat_ofNat', Nat.mod_eq_of_lt small, Nat.mod_eq_of_lt small']
    at values

theorem bigEndian_lt {count x : ℕ} : ∀ n ∈ Sha256.bigEndian count x, n < 256 := by
  induction count generalizing x with
  | zero => exact fun _ member => absurd member List.not_mem_nil
  | succ count ih =>
    intro n member
    rcases List.mem_append.mp member with high | low
    · exact ih n high
    · rw [List.mem_singleton.mp low]
      exact Nat.mod_lt _ (by decide)

theorem bigEndian_inj {count a b : ℕ} (small : a < 256 ^ count) (small' : b < 256 ^ count)
    (same : Sha256.bigEndian count a = Sha256.bigEndian count b) : a = b := by
  induction count generalizing a b with
  | zero =>
    rw [Nat.pow_zero] at small small'
    omega
  | succ count ih =>
    obtain ⟨high, low⟩ := List.append_inj' same rfl
    have quotients := ih (Nat.div_lt_of_lt_mul (by rwa [Nat.pow_succ'] at small))
      (Nat.div_lt_of_lt_mul (by rwa [Nat.pow_succ'] at small')) high
    have remainders := List.singleton_inj.mp low
    omega

/-- The octets of a number. -/
def numberBytes (count x : ℕ) : Bytes := (Sha256.bigEndian count x).map .ofNat

theorem length_numberBytes (count x : ℕ) : (numberBytes count x).length = count := by
  rw [numberBytes, List.length_map, length_bigEndian]

theorem numberBytes_inj {count a b : ℕ} (small : a < 256 ^ count) (small' : b < 256 ^ count)
    (same : numberBytes count a = numberBytes count b) : a = b := by
  refine bigEndian_inj small small' ?_
  refine map_inj_of (fun n => n < 256) ?_ bigEndian_lt bigEndian_lt same
  exact fun m small n small' => UInt8.ofNat_inj_of_lt small small'
where
  map_inj_of {f : ℕ → UInt8} (inside : ℕ → Prop)
      (inj : ∀ m, inside m → ∀ n, inside n → f m = f n → m = n) {l l' : List ℕ}
      (allIn : ∀ n ∈ l, inside n) (allIn' : ∀ n ∈ l', inside n)
      (equal : l.map f = l'.map f) : l = l' := by
    induction l generalizing l' with
    | nil => exact (List.map_eq_nil_iff.mp equal.symm).symm
    | cons m l ih =>
      cases l' with
      | nil => cases equal
      | cons n l' =>
        rw [List.map_cons, List.map_cons, List.cons.injEq] at equal
        rw [inj m (allIn m List.mem_cons_self) n (allIn' n List.mem_cons_self) equal.1,
          ih (fun n member => allIn n (List.mem_cons_of_mem _ member))
            (fun n member => allIn' n (List.mem_cons_of_mem _ member)) equal.2]

/-- Octets behind their length, which takes a fixed number of octets. -/
theorem prefixFree_length (count : ℕ) :
    PrefixFree (fun value : Bytes => value.length < 256 ^ count)
      (fun value => numberBytes count value.length ++ value) := by
  intro a b small small' x y same
  rw [List.append_assoc, List.append_assoc] at same
  obtain ⟨lengths, rest⟩ := List.append_inj same
    (by rw [length_numberBytes, length_numberBytes])
  exact List.append_inj rest (numberBytes_inj small small' lengths)

/-! ## UTF-8 -/

private theorem utf8_cases (c : CodePoint) :
    (c.val < 0x80 ∧ c.utf8 = [.ofNat c.val]) ∨
    (0x80 ≤ c.val ∧ c.val < 0x800 ∧
      c.utf8 = [.ofNat (0xc0 + c.val / 0x40), .ofNat (0x80 + c.val % 0x40)]) ∨
    (0x800 ≤ c.val ∧ c.val < 0x10000 ∧ c.utf8 = [.ofNat (0xe0 + c.val / 0x1000),
      .ofNat (0x80 + c.val / 0x40 % 0x40), .ofNat (0x80 + c.val % 0x40)]) ∨
    (0x10000 ≤ c.val ∧ c.val < 0x110000 ∧ c.utf8 = [.ofNat (0xf0 + c.val / 0x40000),
      .ofNat (0x80 + c.val / 0x1000 % 0x40), .ofNat (0x80 + c.val / 0x40 % 0x40),
      .ofNat (0x80 + c.val % 0x40)]) := by
  have bound := c.isLt
  unfold CodePoint.utf8
  dsimp only
  split_ifs with one two three
  · exact .inl ⟨one, rfl⟩
  · exact .inr (.inl ⟨by omega, two, rfl⟩)
  · exact .inr (.inr (.inl ⟨by omega, three, rfl⟩))
  · exact .inr (.inr (.inr ⟨by omega, bound, rfl⟩))

theorem CodePoint.prefixFree_utf8 : PrefixFree (fun _ => True) CodePoint.utf8 := by
  intro c d _ _ x y same
  have octet : ∀ {a b : ℕ}, UInt8.ofNat a = UInt8.ofNat b → a < 256 → b < 256 → a = b :=
    fun equal small small' => UInt8.ofNat_inj_of_lt small small' equal
  -- the first octet tells how many there are
  rcases utf8_cases c with ⟨c1, hc⟩ | ⟨c1, c2, hc⟩ | ⟨c1, c2, hc⟩ | ⟨c1, c2, hc⟩ <;>
    rcases utf8_cases d with ⟨d1, hd⟩ | ⟨d1, d2, hd⟩ | ⟨d1, d2, hd⟩ | ⟨d1, d2, hd⟩ <;>
    rw [hc, hd] at same <;>
    simp only [List.cons_append, List.nil_append, List.cons.injEq] at same
  · exact ⟨Fin.ext (octet same.1 (by omega) (by omega)), same.2⟩
  all_goals
    have first := octet same.1 (by omega) (by omega)
    try omega
  · obtain ⟨-, second, rest⟩ := same
    have second := octet second (by omega) (by omega)
    exact ⟨Fin.ext (by omega), rest⟩
  · obtain ⟨-, second, third, rest⟩ := same
    have second := octet second (by omega) (by omega)
    have third := octet third (by omega) (by omega)
    exact ⟨Fin.ext (by omega), rest⟩
  · obtain ⟨-, second, third, fourth, rest⟩ := same
    have second := octet second (by omega) (by omega)
    have third := octet third (by omega) (by omega)
    have fourth := octet fourth (by omega) (by omega)
    exact ⟨Fin.ext (by omega), rest⟩

theorem CodePoint.utf8_ne_nil (c : CodePoint) : c.utf8 ≠ [] := by
  rcases utf8_cases c with ⟨-, h⟩ | ⟨-, -, h⟩ | ⟨-, -, h⟩ | ⟨-, -, h⟩ <;>
    rw [h] <;> exact List.cons_ne_nil _ _

/-- **UTF-8.** The octets of a text determine it. -/
theorem Text.utf8_inj {t u : Text} {octets : Bytes} (encoded : t.utf8 = some octets)
    (encoded' : u.utf8 = some octets) : t = u := by
  have flat : ∀ {v : Text}, v.utf8 = some octets → v.flatMap CodePoint.utf8 = octets := by
    intro v made
    unfold Text.utf8 at made
    split at made
    case isTrue => cases made
    case isFalse => exact Option.some.inj made
  exact CodePoint.prefixFree_utf8.flatMap_inj CodePoint.utf8_ne_nil (fun _ _ => trivial)
    (fun _ _ => trivial) ((flat encoded).trans (flat encoded').symm)

end Codec
