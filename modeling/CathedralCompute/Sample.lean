import CathedralCompute.Platform

/-!
# A platform to run the model on

The operations are parametric in the platform. To evaluate them on a concrete
input we need one, in particular a lawful float codec. `FloatCodec.ratio` writes
the numerator and the denominator around the point and a zero for the
denominator one, so that it agrees with `repr` on integers below `10 ^ 16`.
-/

set_option autoImplicit false

namespace Cathedral

open Codec

namespace FloatCodec

/-- The digits behind the point. -/
def denominatorText (d : ℕ) : Text := natText (if d = 1 then 0 else d)

/-- Numerator, point, denominator. -/
def ratioText (q : ℚ) : Text := intText q.num ++ 0x2e :: denominatorText q.den

/-- The value of a numerator and a denominator. -/
def ratioValue (n : ℤ) (d : ℕ) : ℚ := if d = 0 then n else n / d

/-- Read a numerator and a denominator around a point. -/
def ratioParse (t : Text) : Option Floating :=
  let negative := t.head? = some 0x2d
  let body := if negative then t.tail else t
  let integer : ℤ := natValue (body.takeWhile Text.isDigit)
  match body.dropWhile Text.isDigit with
  | [] => none
  | _ :: digits =>
    some (.finite (ratioValue (if negative then -integer else integer) (natValue digits)))

theorem ratioValue_eq (q : ℚ) :
    ratioValue q.num (natValue (denominatorText q.den)) = q := by
  unfold ratioValue denominatorText
  rw [natValue_natText]
  by_cases one : q.den = 1
  · rw [if_pos one, if_pos rfl]
    exact Rat.coe_int_num_of_den_eq_one one
  · rw [if_neg one, if_neg q.den_nz]
    exact Rat.num_div_den q

theorem denominatorText_digits (d : ℕ) : ∀ c ∈ denominatorText d, Text.isDigit c = true :=
  fun _ member => isDigit_of_mem_natText member

theorem denominatorText_ne_nil (d : ℕ) : denominatorText d ≠ [] := by
  obtain ⟨m, rest, text, -⟩ := natText_eq_cons (if d = 1 then 0 else d)
  rw [denominatorText, text]
  exact List.cons_ne_nil _ _

private theorem span_digits {t : Text} (digits : ∀ c ∈ t, Text.isDigit c = true) (rest : Text) :
    (t ++ 0x2e :: rest).takeWhile Text.isDigit = t ∧
      (t ++ 0x2e :: rest).dropWhile Text.isDigit = 0x2e :: rest :=
  Decimal.takeWhile_append_point digits rest

theorem scanInteger_point (n : ℕ) (rest : Text) :
    scanInteger (natText n ++ 0x2e :: rest) = some (natText n, 0x2e :: rest) := by
  obtain ⟨m, digits, text, small, zero⟩ := natText_eq_cons n
  have allDigits : ∀ c ∈ digits, Text.isDigit c = true := fun c member =>
    isDigit_of_mem_natText (n := n) (text ▸ List.mem_cons_of_mem _ member)
  rw [text, List.cons_append, scanInteger]
  by_cases h : m = 0
  · obtain ⟨-, rfl⟩ := zero h
    subst h
    rw [if_pos (by decide)]
    rfl
  · have notZero : digit m ≠ 0x30 := by
      intro same
      have value := congrArg digitValue same
      rw [digitValue_digit, Nat.mod_eq_of_lt small] at value
      exact h value
    rw [if_neg notZero, if_pos (isDigit_digit m), (span_digits allDigits rest).1,
      (span_digits allDigits rest).2]

theorem scanFraction_denominator (d : ℕ) {rest : Text} (ends : NumberEnd rest) :
    scanFraction (0x2e :: (denominatorText d ++ rest)) = (0x2e :: denominatorText d, rest) := by
  have digits := denominatorText_digits d
  have taken : (denominatorText d ++ rest).takeWhile Text.isDigit = denominatorText d := by
    rw [List.takeWhile_append_of_pos digits, takeWhile_isDigit_of_numberEnd ends, List.append_nil]
  have dropped : (denominatorText d ++ rest).dropWhile Text.isDigit = rest := by
    rw [List.dropWhile_append_of_pos digits, dropWhile_isDigit_of_numberEnd ends]
  rw [scanFraction, taken, dropped, if_pos ⟨rfl, denominatorText_ne_nil d⟩]

theorem scanUnsigned_ratio (sign : Text) (n d : ℕ) {rest : Text} (ends : NumberEnd rest) :
    scanUnsigned sign (natText n ++ (0x2e :: denominatorText d ++ rest)) =
      some (sign ++ natText n ++ 0x2e :: denominatorText d, true, rest) := by
  rw [scanUnsigned, List.cons_append, scanInteger_point]
  simp [scanFraction_denominator d ends, scanExponent_of_numberEnd ends]

private theorem minus_text : Text.ofString "-" = [0x2d] := by decide

theorem literal_ratioText (q : ℚ) : IsFloatLiteral (ratioText q) := by
  intro rest ends
  unfold ratioText intText scanNumber
  by_cases negative : q.num < 0
  · simp only [negative, if_true, minus_text, List.cons_append, List.nil_append, List.head?_cons,
      List.tail_cons, List.append_assoc]
    rw [← List.cons_append, scanUnsigned_ratio _ _ _ ends]
    simp
  · have head := natText_head q.num.natAbs (0x2e :: denominatorText q.den ++ rest)
    rw [if_neg negative, List.append_assoc, if_neg head, scanUnsigned_ratio _ _ _ ends,
      List.nil_append]

theorem ratioParse_ratioText (q : ℚ) : ratioParse (ratioText q) = some (.finite q) := by
  have digits : ∀ c ∈ natText q.num.natAbs, Text.isDigit c = true :=
    fun _ member => isDigit_of_mem_natText member
  obtain ⟨taken, dropped⟩ := span_digits digits (denominatorText q.den)
  have value := ratioValue_eq q
  unfold ratioParse ratioText intText
  by_cases negative : q.num < 0
  · have number : -((q.num.natAbs : ℕ) : ℤ) = q.num := by omega
    simp only [negative, if_true, minus_text, List.cons_append, List.nil_append, List.head?_cons,
      List.tail_cons, taken, dropped, natValue_natText, number, value]
  · have head := natText_head q.num.natAbs (0x2e :: denominatorText q.den)
    have number : ((q.num.natAbs : ℕ) : ℤ) = q.num := by omega
    simp only [negative, if_false, head, taken, dropped, natValue_natText, number, value]

/-- Numerator and denominator around the point. -/
def ratio : FloatCodec := ⟨ratioText, ratioParse, literal_ratioText, ratioParse_ratioText⟩

end FloatCodec

/-- A platform for concrete runs. Its signatures are zero octets, it takes no
text for a time, and it quotes a text between apostrophes. -/
def Platform.sample : Platform where
  floats := .ratio
  repr t := [0x27] ++ t ++ [0x27]
  unicodeDigit _ := none
  decodeWide _ := none
  lower := Text.lower
  fromisoformat _ := none
  sign _ _ := List.replicate 64 0
  urlsplit _ := none
  ipAddress _ := none
  isGlobal _ _ := false
  readDepth := 900
  writeDepth := 900

/-- An HTTPS origin with a port, as `urlsplit` takes it apart. -/
def sampleOrigin (netloc hostname : Text) (username : Option Text) : SplitUrl where
  scheme := "https"
  netloc := netloc
  username := username
  password := none
  hostname := some hostname
  port := some (some 8443)
  path := []
  query := []
  fragment := []

/-- `urlsplit` on the endpoints of the concrete runs. -/
def sampleUrlsplit (url : Text) : Option SplitUrl :=
  if url = Text.ofString "https://1.1.1.1:8443" then
    some (sampleOrigin "1.1.1.1:8443" "1.1.1.1" none)
  else if url = Text.ofString "https://@1.1.1.1:8443" then
    some (sampleOrigin "@1.1.1.1:8443" "1.1.1.1" (some []))
  else if url = Text.ofString "https://8.8.8.8:8443" then
    some (sampleOrigin "8.8.8.8:8443" "8.8.8.8" none)
  else none

/-- `ip_address` on the hosts of the concrete runs. -/
def sampleIpAddress (host : Text) : Option IpAddress :=
  if host = Text.ofString "1.1.1.1" then some ⟨.v4, 0x01010101, host⟩
  else if host = Text.ofString "8.8.8.8" then some ⟨.v4, 0x08080808, host⟩
  else none

/-- `fromisoformat` on the time of the concrete runs. -/
def sampleFromisoformat (t : Text) : Option IsoTime :=
  if t = Text.ofString "2024-01-01T00:00:00.500000+00:00" then some ⟨63839664000500000, some 0⟩
  else none

/-- The sample platform with two public addresses and one time. -/
def Platform.sampleNetwork : Platform :=
  { Platform.sample with
    urlsplit := sampleUrlsplit
    ipAddress := sampleIpAddress
    isGlobal := fun _ value => value = 0x01010101 || value = 0x08080808
    fromisoformat := sampleFromisoformat }

end Cathedral
