import Mathlib.Algebra.GroupWithZero.Nat
import Mathlib.Data.FinEnum
import Mathlib.Data.List.Lex
import Mathlib.Order.Fin.Basic

/-!
# Texts and byte strings

A text is a sequence of Unicode code points, surrogates included, ordered by
code point. This is the string type of the modelled language: a JSON escape may
put a lone surrogate into a string, which `String` cannot hold. A byte string is
a list of octets.

The UTF-8 codec works on these two types. Decoding is one pass over the octets
with the partially read code point as its state, so it accepts no overlong form
and no truncated sequence; surrogates pass only on request.
-/

set_option autoImplicit false

namespace Codec

/-- A Unicode code point, surrogates included. -/
abbrev CodePoint := Fin 0x110000

/-- A sequence of code points, ordered lexicographically. -/
abbrev Text := List CodePoint

/-- A sequence of octets. -/
abbrev Bytes := List UInt8

instance neZero_codePoints : NeZero 0x110000 := ⟨by decide⟩

instance lawfulBEq_codePoint : LawfulBEq CodePoint := inferInstance

instance lawfulBEq_text : LawfulBEq Text := inferInstance

theorem CodePoint.ofNat_val (c : CodePoint) : (Fin.ofNat 0x110000 c.val : CodePoint) = c :=
  Fin.ext (Nat.mod_eq_of_lt c.isLt)

/-- The text of an ASCII literal, read off its octets so that it evaluates
quickly. -/
def Text.ofString (s : String) : Text :=
  s.toByteArray.data.toList.map fun octet => .ofNat _ octet.toNat

instance : Coe String Text := ⟨Text.ofString⟩

/-- Texts of literals are equal exactly when the literals are. -/
@[simp] theorem Text.ofString_inj {s t : String} : Text.ofString s = Text.ofString t ↔ s = t := by
  have octets : Function.Injective fun octet : UInt8 => (.ofNat _ octet.toNat : CodePoint) := by
    intro a b same
    have bounds := And.intro a.toNat_lt b.toNat_lt
    have values := congrArg Fin.val same
    simp only [Fin.val_ofNat] at values
    rw [Nat.mod_eq_of_lt (by omega), Nat.mod_eq_of_lt (by omega)] at values
    exact UInt8.toNat_inj.mp values
  constructor
  · intro same
    have data := Array.toList_inj.mp (octets.list_map same)
    exact String.toByteArray_inj.mp (ByteArray.ext data)
  · rintro rfl
    rfl

namespace Text

/-! ## Character classes -/

/-- The code points `str.strip` removes. -/
def isSpace (c : CodePoint) : Bool :=
  (9 ≤ c.val && c.val ≤ 13) || (28 ≤ c.val && c.val ≤ 32) || c.val == 0x85 || c.val == 0xa0 ||
    c.val == 0x1680 || (0x2000 ≤ c.val && c.val ≤ 0x200a) || c.val == 0x2028 ||
    c.val == 0x2029 || c.val == 0x202f || c.val == 0x205f || c.val == 0x3000

/-- Remove white space at both ends. -/
def strip (t : Text) : Text := ((t.dropWhile isSpace).reverse.dropWhile isSpace).reverse

/-- Membership in an inclusive range of characters. -/
def inRange (low high : Char) (c : CodePoint) : Bool := low.toNat ≤ c.val && c.val ≤ high.toNat

def isDigit : CodePoint → Bool := inRange '0' '9'

def isLowerHex (c : CodePoint) : Bool := isDigit c || inRange 'a' 'f' c

def isAlphanumeric (c : CodePoint) : Bool :=
  isDigit c || inRange 'a' 'z' c || inRange 'A' 'Z' c

/-- Visible ASCII: `0x21` to `0x7e`. -/
def isVisible : CodePoint → Bool := inRange '!' '~'

/-- Lower the ASCII capitals. -/
def lower (t : Text) : Text :=
  t.map fun c => if inRange 'A' 'Z' c then c + 32 else c

/-- `count` lower-case hexadecimal digits. -/
def isHex (count : ℕ) (t : Text) : Bool := t.length == count && t.all isLowerHex

/-- The fixed head followed by 64 lower-case hexadecimal digits, as in
`sha256:[0-9a-f]{64}`. -/
def isDigest (head : Text) (t : Text) : Bool :=
  head.isPrefixOf t && isHex 64 (t.drop head.length)

/-- The fixed head dropped where it stands. -/
def removeHead (head : Text) (t : Text) : Text :=
  if head.isPrefixOf t then t.drop head.length else t

end Text

/-! ## UTF-8 -/

/-- The surrogate code points, which no UTF-8 text may hold. -/
def CodePoint.isSurrogate (c : CodePoint) : Bool := 0xd800 ≤ c.val && c.val ≤ 0xdfff

/-- The first half of a surrogate pair. -/
def CodePoint.isHighSurrogate (c : CodePoint) : Bool := 0xd800 ≤ c.val && c.val ≤ 0xdbff

/-- The second half of a surrogate pair. -/
def CodePoint.isLowSurrogate (c : CodePoint) : Bool := 0xdc00 ≤ c.val && c.val ≤ 0xdfff

/-- The octets of one code point. -/
def CodePoint.utf8 (c : CodePoint) : Bytes :=
  let n := c.val
  if n < 0x80 then [.ofNat n]
  else if n < 0x800 then [.ofNat (0xc0 + n / 0x40), .ofNat (0x80 + n % 0x40)]
  else if n < 0x10000 then
    [.ofNat (0xe0 + n / 0x1000), .ofNat (0x80 + n / 0x40 % 0x40), .ofNat (0x80 + n % 0x40)]
  else
    [.ofNat (0xf0 + n / 0x40000), .ofNat (0x80 + n / 0x1000 % 0x40),
      .ofNat (0x80 + n / 0x40 % 0x40), .ofNat (0x80 + n % 0x40)]

/-- `str.encode("utf-8")`; a surrogate cannot be encoded. -/
def Text.utf8 (t : Text) : Option Bytes :=
  if t.any CodePoint.isSurrogate then none else some (t.flatMap CodePoint.utf8)

/-- The part of a code point read so far: how many continuation octets are
missing, the bits collected, and the least value this length may denote. -/
structure Pending where
  missing : ℕ
  bits : ℕ
  least : ℕ

/-- Decode octets, with `pending` half read. -/
def utf8DecodeFrom (surrogatePass : Bool) (pending : Pending) : Bytes → Option Text
  | [] => if pending.missing = 0 then some [] else none
  | octet :: rest =>
    let n := octet.toNat
    match pending.missing with
    | 0 =>
      if n < 0x80 then
        (utf8DecodeFrom surrogatePass ⟨0, 0, 0⟩ rest).map (List.cons (Fin.ofNat _ n))
      else if 0xc0 ≤ n ∧ n < 0xe0 then utf8DecodeFrom surrogatePass ⟨1, n - 0xc0, 0x80⟩ rest
      else if 0xe0 ≤ n ∧ n < 0xf0 then utf8DecodeFrom surrogatePass ⟨2, n - 0xe0, 0x800⟩ rest
      else if 0xf0 ≤ n ∧ n < 0xf8 then utf8DecodeFrom surrogatePass ⟨3, n - 0xf0, 0x10000⟩ rest
      else none
    | missing + 1 =>
      if 0x80 ≤ n ∧ n < 0xc0 then
        let bits := pending.bits * 0x40 + (n - 0x80)
        if missing = 0 then
          if inside : bits < 0x110000 then
            if bits < pending.least ∨
                (surrogatePass = false ∧ CodePoint.isSurrogate ⟨bits, inside⟩ = true) then none
            else
              (utf8DecodeFrom surrogatePass ⟨0, 0, 0⟩ rest).map (List.cons ⟨bits, inside⟩)
          else none
        else utf8DecodeFrom surrogatePass ⟨missing, bits, pending.least⟩ rest
      else none

/-- Decode UTF-8 octets. -/
def utf8Decode (surrogatePass : Bool) (octets : Bytes) : Option Text :=
  utf8DecodeFrom surrogatePass ⟨0, 0, 0⟩ octets

/-! ## ASCII -/

/-- The octets of an ASCII text. -/
def Text.ascii (t : Text) : Bytes := t.map fun c => .ofNat c.val

/-- Every code point is below `0x80`. -/
def Text.IsAscii (t : Text) : Prop := ∀ c ∈ t, c.val < 0x80

instance (t : Text) : Decidable t.IsAscii := List.decidableBAll _ t

@[simp] theorem Text.ascii_nil : Text.ascii [] = [] := rfl

@[simp] theorem Text.ascii_cons (c : CodePoint) (t : Text) :
    Text.ascii (c :: t) = .ofNat c.val :: Text.ascii t := rfl

@[simp] theorem Text.length_ascii (t : Text) : t.ascii.length = t.length :=
  List.length_map _

theorem Text.isAscii_append {t u : Text} :
    Text.IsAscii (t ++ u) ↔ Text.IsAscii t ∧ Text.IsAscii u := by
  simp [Text.IsAscii, or_imp, forall_and]

theorem Text.isAscii_cons {c : CodePoint} {t : Text} :
    Text.IsAscii (c :: t) ↔ c.val < 0x80 ∧ Text.IsAscii t := by
  simp [Text.IsAscii]

/-- A text of characters of an ASCII class. -/
theorem Text.isAscii_of_all {f : CodePoint → Bool} (small : ∀ c, f c = true → c.val < 0x80)
    {t : Text} (members : t.all f = true) : t.IsAscii :=
  fun c member => small c (List.all_eq_true.mp members c member)

theorem Text.val_lt_of_inRange {low high : Char} {c : CodePoint} (within : inRange low high c = true)
    (ascii : high.toNat < 0x80) : c.val < 0x80 := by
  simp only [inRange, Bool.and_eq_true, decide_eq_true_eq] at within
  omega

theorem Text.val_lt_of_isDigit {c : CodePoint} (h : isDigit c = true) : c.val < 0x80 :=
  val_lt_of_inRange h (by decide)

theorem Text.val_lt_of_isVisible {c : CodePoint} (h : isVisible c = true) : c.val < 0x80 :=
  val_lt_of_inRange h (by decide)

theorem Text.val_lt_of_isLowerHex {c : CodePoint} (h : isLowerHex c = true) : c.val < 0x80 := by
  rcases Bool.or_eq_true_iff.mp h with digit | letter
  · exact val_lt_of_isDigit digit
  · exact val_lt_of_inRange letter (by decide)

theorem Text.val_lt_of_isAlphanumeric {c : CodePoint} (h : isAlphanumeric c = true) :
    c.val < 0x80 := by
  simp only [isAlphanumeric, Bool.or_eq_true] at h
  rcases h with (digit | lower) | upper
  · exact val_lt_of_isDigit digit
  · exact val_lt_of_inRange lower (by decide)
  · exact val_lt_of_inRange upper (by decide)

/-- A digest text is its head and hexadecimal digits. -/
theorem Text.isAscii_of_isDigest {head t : Text} (ascii : head.IsAscii)
    (digest : isDigest head t = true) : t.IsAscii := by
  simp only [isDigest, isHex, Bool.and_eq_true, List.isPrefixOf_iff_prefix] at digest
  obtain ⟨⟨rest, rfl⟩, -, hex⟩ := digest
  rw [List.drop_left] at hex
  exact isAscii_append.mpr ⟨ascii, isAscii_of_all (fun _ => val_lt_of_isLowerHex) hex⟩

/-- `octets.decode("ascii")`; `none` where it raises. -/
def asciiDecode (octets : Bytes) : Option Text :=
  if ∀ octet ∈ octets, octet.toNat < 0x80 then some (octets.map fun octet => .ofNat _ octet.toNat)
  else none

theorem asciiDecode_ascii {t : Text} (ascii : t.IsAscii) : asciiDecode t.ascii = some t := by
  have octet : ∀ c ∈ t, (UInt8.ofNat c.val).toNat = c.val := by
    intro c member
    have small := ascii c member
    rw [UInt8.toNat_ofNat', Nat.mod_eq_of_lt (by omega)]
  have small : ∀ octet ∈ t.ascii, octet.toNat < 0x80 := by
    intro octet' member
    obtain ⟨c, inside, rfl⟩ := List.mem_map.mp member
    rw [octet c inside]
    exact ascii c inside
  rw [asciiDecode, if_pos small, Text.ascii, List.map_map]
  refine congrArg some ((List.map_congr_left fun c member => ?_).trans (List.map_id t))
  rw [Function.comp_apply, octet c member]
  exact CodePoint.ofNat_val c

/-- Decoding gives an ASCII text back. -/
theorem utf8Decode_ascii (surrogatePass : Bool) {t : Text} (ascii : t.IsAscii) :
    utf8Decode surrogatePass t.ascii = some t := by
  unfold utf8Decode
  induction t with
  | nil => rfl
  | cons c t ih =>
    obtain ⟨small, ascii⟩ := Text.isAscii_cons.mp ascii
    have octet : (UInt8.ofNat c.val).toNat = c.val := by
      rw [UInt8.toNat_ofNat', Nat.mod_eq_of_lt (by omega)]
    simp [utf8DecodeFrom, octet, small, ih ascii]

/-! ## Base64 -/

/-- The character of six bits. -/
def base64Char (n : ℕ) : CodePoint :=
  if n < 26 then .ofNat _ (65 + n)
  else if n < 52 then .ofNat _ (71 + n)
  else if n < 62 then .ofNat _ (n - 4)
  else if n = 62 then 0x2b
  else 0x2f

/-- `base64.b64encode`. -/
def base64 : Bytes → Text
  | [] => []
  | [a] =>
    [base64Char (a.toNat / 4), base64Char (a.toNat % 4 * 16), 0x3d, 0x3d]
  | [a, b] =>
    [base64Char (a.toNat / 4), base64Char (a.toNat % 4 * 16 + b.toNat / 16),
      base64Char (b.toNat % 16 * 4), 0x3d]
  | a :: b :: c :: rest =>
    base64Char (a.toNat / 4) :: base64Char (a.toNat % 4 * 16 + b.toNat / 16) ::
      base64Char (b.toNat % 16 * 4 + c.toNat / 64) :: base64Char (c.toNat % 64) :: base64 rest

theorem base64Char_val_lt (n : ℕ) : (base64Char n).val < 0x80 := by
  unfold base64Char
  split_ifs
  · rw [Fin.val_ofNat, Nat.mod_eq_of_lt (by omega)]
    omega
  · rw [Fin.val_ofNat, Nat.mod_eq_of_lt (by omega)]
    omega
  · rw [Fin.val_ofNat, Nat.mod_eq_of_lt (by omega)]
    omega
  · decide
  · decide

theorem isAscii_base64 (octets : Bytes) : (base64 octets).IsAscii := by
  fun_induction base64 octets with
  | case1 => exact fun _ outside => (nomatch outside)
  | case2 a => simp [Text.IsAscii, base64Char_val_lt]
  | case3 a b => simp [Text.IsAscii, base64Char_val_lt]
  | case4 a b c rest ih => simpa [Text.isAscii_cons, base64Char_val_lt] using ih

example : base64 (Text.ascii "light w") = Text.ofString "bGlnaHQgdw==" := by decide

end Codec
