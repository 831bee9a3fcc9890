import CathedralCompute.Codec.JsonSorted
import CathedralCompute.Platform

/-!
# The strict reader of signed documents

Registries, manifests and indexes are read by one strict reader: one JSON object,
without repeated keys, floats or words for numbers. What a reader then does with a
value is Python's `int` and `str`, which take more than integers and texts.
-/

set_option autoImplicit false

namespace Cathedral

open Codec

/-- `MAX_REGISTRY_BYTES`. -/
def maxRegistryBytes : ℕ := 1024 * 1024

/-- The hooks of the strict reader. -/
def registryHooks : Hooks := ⟨pythonInt, fun _ => none, fun _ => none, strictPairs⟩

theorem faithful_registryHooks (p : Platform) :
    registryHooks.Faithful (compactStyle p) False where
  ints _ short := pythonInt_intText short
  floats impossible := impossible.elim
  pairs _ distinct := strictPairs_of_nodup distinct

/-- `parse_registry_json`; `none` where it raises. -/
def parseRegistryJson (octets : Bytes) : Option (List (Text × Json)) := do
  guard (octets.length ≤ maxRegistryBytes)
  let text ← utf8Decode false octets
  let document ← loads registryHooks text
  membersOfJson document

/-! ### Canonical documents -/

section Canonical

variable {p : Platform} {document document' : Json} {octets : Bytes}

/-- A legible document is read back from its canonical octets, with its keys sorted. -/
theorem loads_canonicalJson (legible : document.Legible) (distinct : document.Distinct)
    (written : canonicalJson p document = some octets) :
    ∃ text, utf8Decode false octets = some text ∧
      loads registryHooks text = some document.sortKeys := by
  unfold canonicalJson at written
  split at written
  case isFalse => cases written
  case isTrue dumpable =>
    obtain rfl := Option.some.inj written
    have readable := Json.readable_of_legible (faithful_registryHooks p) document legible distinct
      dumpable
    have separators : Text.IsPrintable [0x2c] ∧ Text.IsPrintable [0x3a] := by decide
    have ascii : (document.sortKeys.render (compactStyle p)).IsAscii := by
      intro c member
      have range := printable_render separators.1 separators.2 _ readable c member
      omega
    exact ⟨_, utf8Decode_ascii false ascii, loads_render rfl rfl readable⟩

/-- Documents with one canonical text differ in the order of members only. -/
theorem sortKeys_of_canonicalJson (legible : document.Legible ∧ document.Distinct)
    (legible' : document'.Legible ∧ document'.Distinct)
    (written : canonicalJson p document = some octets)
    (written' : canonicalJson p document' = some octets) :
    document.sortKeys = document'.sortKeys := by
  obtain ⟨text, decoded, read⟩ := loads_canonicalJson legible.1 legible.2 written
  obtain ⟨text', decoded', read'⟩ := loads_canonicalJson legible'.1 legible'.2 written'
  have same : text = text' := Option.some.inj (decoded.symm.trans decoded')
  rw [same] at read
  exact Option.some.inj (read.symm.trans read')

end Canonical

/-! ## Conversions -/

/-- Digits in groups that single underscores join. -/
def Text.isGrouped : Text → Bool
  | [] => false
  | [c] => Text.isDigit c
  | c :: d :: rest =>
    Text.isDigit c && (if d = 0x5f then Text.isGrouped rest else Text.isGrouped (d :: rest))

/-- `int` of a text; `none` where it raises. -/
def Platform.intOfText (p : Platform) (t : Text) : Option ℤ :=
  let plain := t.strip.map fun c => ((p.unicodeDigit c).map digit).getD c
  let (sign, digits) := scanSign plain
  if Text.isGrouped digits then
    pythonInt ((if sign = [0x2d] then [0x2d] else []) ++ digits.filter (· ≠ 0x5f))
  else none

/-- `int` of a value that JSON delivers; `none` where it raises. -/
def Platform.intOf (p : Platform) : Json → Option ℤ
  | .int z => some z
  | .bool b => some (if b then 1 else 0)
  | .float (.finite q) => some (if q < 0 then -(-q).floor else q.floor)
  | .str t => p.intOfText t
  | _ => none

mutual

/-- `repr` of a value that JSON delivers. -/
def Platform.reprOf (p : Platform) : Json → Text
  | .null => "None"
  | .bool true => "True"
  | .bool false => "False"
  | .int z => intText z
  | .float (.finite q) => p.floats.repr q
  | .float .nan => "nan"
  | .float (.infinite negative) => if negative then "-inf" else "inf"
  | .str t => p.repr t
  | .arr items => [0x5b] ++ p.reprItems items ++ [0x5d]
  | .obj members => [0x7b] ++ p.reprMembers members ++ [0x7d]

def Platform.reprItems (p : Platform) : List Json → Text
  | [] => []
  | [item] => p.reprOf item
  | item :: next :: items => p.reprOf item ++ [0x2c, 0x20] ++ p.reprItems (next :: items)

def Platform.reprMembers (p : Platform) : List (Text × Json) → Text
  | [] => []
  | [(key, value)] => p.repr key ++ [0x3a, 0x20] ++ p.reprOf value
  | (key, value) :: next :: members =>
    p.repr key ++ [0x3a, 0x20] ++ p.reprOf value ++ [0x2c, 0x20] ++ p.reprMembers (next :: members)

end

/-- `str` of a value that JSON delivers. -/
def Platform.textOf (p : Platform) : Json → Text
  | .str t => t
  | value => p.reprOf value

end Cathedral
