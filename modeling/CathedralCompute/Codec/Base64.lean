import CathedralCompute.Codec.Json
import CathedralCompute.Codec.Sha256
import Mathlib.Algebra.BigOperators.Group.List.Basic

/-!
# Octets as text

The strict reader of Base64 and the reader and writer of hexadecimal text. What
`base64` writes, the strict reader reads back.
-/

set_option autoImplicit false

namespace Codec

/-! ## Base64 -/

/-- The six bits of a character. -/
def base64Value (c : CodePoint) : Option ℕ :=
  if Text.inRange 'A' 'Z' c then some (c.val - 65)
  else if Text.inRange 'a' 'z' c then some (c.val - 71)
  else if Text.isDigit c then some (c.val + 4)
  else if c = 0x2b then some 62
  else if c = 0x2f then some 63
  else none

/-- The octet from six bits and what follows them. -/
def joinBits (high low : ℕ) : UInt8 := .ofNat (high + low)

/-- `base64.b64decode(text, validate=True)`: groups of four characters, of which
the last may be padded; `none` where it raises. Left-over bits are dropped. As it is
documented, a `=` after a whole group is refused, which some releases of the library take. -/
def base64Decode : Text → Option Bytes
  | [] => some []
  | [a, b, 0x3d, 0x3d] => do
    let x ← base64Value a
    let y ← base64Value b
    return [joinBits (x * 4) (y / 16)]
  | [a, b, c, 0x3d] => do
    let x ← base64Value a
    let y ← base64Value b
    let z ← base64Value c
    return [joinBits (x * 4) (y / 16), joinBits (y % 16 * 16) (z / 4)]
  | a :: b :: c :: d :: rest => do
    let x ← base64Value a
    let y ← base64Value b
    let z ← base64Value c
    let w ← base64Value d
    let octets ← base64Decode rest
    return joinBits (x * 4) (y / 16) :: joinBits (y % 16 * 16) (z / 4) ::
      joinBits (z % 4 * 64) w :: octets
  | _ => none

theorem base64Value_base64Char {n : ℕ} (small : n < 64) : base64Value (base64Char n) = some n := by
  have all : ∀ n : Fin 64, base64Value (base64Char n.val) = some n.val := by decide
  exact all ⟨n, small⟩

theorem base64Char_ne_pad {n : ℕ} (small : n < 64) : base64Char n ≠ 0x3d := by
  have all : ∀ n : Fin 64, base64Char n.val ≠ 0x3d := by decide
  exact all ⟨n, small⟩

theorem joinBits_eq {octet : UInt8} {high low : ℕ} (value : high + low = octet.toNat) :
    joinBits high low = octet := by
  rw [joinBits, value, UInt8.ofNat_toNat]

/-- **Round trip.** The strict reader reads what the writer wrote. -/
theorem base64Decode_base64 (octets : Bytes) : base64Decode (base64 octets) = some octets := by
  fun_induction base64 octets with
  | case1 => rfl
  | case2 a =>
    have bound := a.toNat_lt
    rw [base64Decode, base64Value_base64Char (by omega), base64Value_base64Char (by omega)]
    exact congrArg some (congrArg (· :: []) (joinBits_eq (by omega)))
  | case3 a b =>
    have bound := a.toNat_lt
    have bound' := b.toNat_lt
    rw [base64Decode, base64Value_base64Char (by omega), base64Value_base64Char (by omega),
      base64Value_base64Char (by omega)]
    · have first : joinBits (a.toNat / 4 * 4) ((a.toNat % 4 * 16 + b.toNat / 16) / 16) = a :=
        joinBits_eq (by omega)
      have second : joinBits ((a.toNat % 4 * 16 + b.toNat / 16) % 16 * 16)
          (b.toNat % 16 * 4 / 4) = b := joinBits_eq (by omega)
      simp only [Option.pure_def, Option.bind_eq_bind, Option.bind_some, first, second]
    · exact base64Char_ne_pad (by omega)
  | case4 a b c rest ih =>
    have bound := a.toNat_lt
    have bound' := b.toNat_lt
    have bound'' := c.toNat_lt
    have last : base64Char (c.toNat % 64) ≠ 0x3d := base64Char_ne_pad (by omega)
    rw [base64Decode, base64Value_base64Char (by omega), base64Value_base64Char (by omega),
      base64Value_base64Char (by omega), base64Value_base64Char (by omega), ih]
    · have first : joinBits (a.toNat / 4 * 4) ((a.toNat % 4 * 16 + b.toNat / 16) / 16) = a :=
        joinBits_eq (by omega)
      have second : joinBits ((a.toNat % 4 * 16 + b.toNat / 16) % 16 * 16)
          ((b.toNat % 16 * 4 + c.toNat / 64) / 4) = b := joinBits_eq (by omega)
      have third : joinBits ((b.toNat % 16 * 4 + c.toNat / 64) % 4 * 64) (c.toNat % 64) = c :=
        joinBits_eq (by omega)
      simp only [Option.pure_def, Option.bind_eq_bind, Option.bind_some, first, second, third]
    · exact fun _ padded => absurd padded last
    · exact fun padded => absurd padded last

theorem length_base64 (octets : Bytes) : (base64 octets).length = (octets.length + 2) / 3 * 4 := by
  fun_induction base64 octets with
  | case1 => rfl
  | case2 a => simp
  | case3 a b => simp
  | case4 a b c rest ih =>
    simp only [List.length_cons, ih]
    omega

/-! ## UTF-8 -/

theorem CodePoint.length_utf8_pos (c : CodePoint) : 1 ≤ c.utf8.length := by
  unfold CodePoint.utf8
  dsimp only
  split_ifs <;> simp

/-- A text has at least one octet a character. -/
theorem Text.length_le_of_utf8 {t : Text} {octets : Bytes} (encoded : t.utf8 = some octets) :
    t.length ≤ octets.length := by
  unfold Text.utf8 at encoded
  split at encoded
  case isTrue => cases encoded
  case isFalse =>
    cases encoded
    have positive : ∀ n ∈ t.map fun c => c.utf8.length, 1 ≤ n := by
      intro n member
      obtain ⟨c, -, rfl⟩ := List.mem_map.mp member
      exact c.length_utf8_pos
    have sum := List.length_le_sum_of_one_le _ positive
    rwa [List.length_map, ← List.length_flatMap] at sum

/-! ## Hexadecimal text -/

/-- `value.hex()`. -/
def hexText (octets : Bytes) : Text :=
  octets.flatMap fun octet => [hexDigit (octet.toNat / 16), hexDigit (octet.toNat % 16)]

/-- `_is_hex`: an even number of hexadecimal digits of either case. -/
def isHexText (t : Text) : Bool := t.length % 2 == 0 && t.all fun c => (hexValue c).isSome

/-- `bytes.fromhex` of such a text. -/
def hexBytes : Text → Bytes
  | a :: b :: rest => .ofNat ((hexValue a).getD 0 * 16 + (hexValue b).getD 0) :: hexBytes rest
  | _ => []

theorem length_hexBytes (t : Text) : (hexBytes t).length = t.length / 2 := by
  fun_induction hexBytes t with
  | case1 a b rest ih =>
    simp only [List.length_cons, ih]
    omega
  | case2 t short =>
    rcases t with _ | ⟨a, _ | ⟨b, rest⟩⟩
    · rfl
    · simp
    · exact absurd rfl (short a b rest)

end Codec
