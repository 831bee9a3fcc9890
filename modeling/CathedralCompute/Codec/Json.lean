import CathedralCompute.Codec.Numeral
import Mathlib.Data.List.Sort
import Mathlib.Data.Rat.Defs

/-!
# JSON documents

The document type with the two standard-library directions: `Json.render`
writes a document the way `json.dumps` does with `ensure_ascii`, for given
separators, and `loads` reads one the way `json.loads` does with the hooks a
caller installs. Strings are sequences of code points: an escape may denote a
lone surrogate, and an escaped surrogate pair denotes one code point.

Objects keep their members in order. `Json.sortKeys` is the `sort_keys` option.
The interpreter's limit on nesting is not modelled: `loads` reads any depth.
-/

set_option autoImplicit false

namespace Codec

/-- A floating-point number; finite values are taken as exact rationals. -/
inductive Floating where
  | finite (value : ℚ)
  | infinite (negative : Bool)
  | nan
deriving DecidableEq

inductive Json where
  | null
  | bool (value : Bool)
  | int (value : ℤ)
  | float (value : Floating)
  | str (value : Text)
  | arr (items : List Json)
  | obj (members : List (Text × Json))

/-! ## Writing -/

def quote : CodePoint := 0x22

def backslash : CodePoint := 0x5c

/-- Four lower-case hexadecimal digits. -/
def hex4 (n : ℕ) : Text :=
  [n / 0x1000 % 16, n / 0x100 % 16, n / 0x10 % 16, n % 16].map fun d =>
    if d < 10 then .ofNat _ (48 + d) else .ofNat _ (87 + d)

/-- The escape of one UTF-16 unit. -/
def unicodeEscape (n : ℕ) : Text := [backslash, 0x75] ++ hex4 n

/-- The letter of a short escape. -/
def shortEscape (c : CodePoint) : Option CodePoint :=
  if c = quote then some quote
  else if c = backslash then some backslash
  else if c = 0x08 then some 0x62
  else if c = 0x0c then some 0x66
  else if c = 0x0a then some 0x6e
  else if c = 0x0d then some 0x72
  else if c = 0x09 then some 0x74
  else none

/-- One character inside a string literal, in ASCII. -/
def escapeChar (c : CodePoint) : Text :=
  match shortEscape c with
  | some letter => [backslash, letter]
  | none =>
    if 0x20 ≤ c.val ∧ c.val ≤ 0x7e then [c]
    else if c.val < 0x10000 then unicodeEscape c.val
    else
      unicodeEscape (0xd800 + (c.val - 0x10000) / 0x400) ++
        unicodeEscape (0xdc00 + (c.val - 0x10000) % 0x400)

/-- A string literal. -/
def quoted (t : Text) : Text := quote :: (t.flatMap escapeChar ++ [quote])

/-- What a writer chooses: the two separators and the text of a finite float. -/
structure Style where
  itemSeparator : Text
  keySeparator : Text
  floatText : ℚ → Text

namespace Json

mutual

/-- The text of a document, members in their order. -/
def render (style : Style) : Json → Text
  | null => Text.ofString "null"
  | bool true => Text.ofString "true"
  | bool false => Text.ofString "false"
  | int z => intText z
  | float (.finite q) => style.floatText q
  | float (.infinite false) => Text.ofString "Infinity"
  | float (.infinite true) => Text.ofString "-Infinity"
  | float .nan => Text.ofString "NaN"
  | str t => quoted t
  | arr [] => [0x5b, 0x5d]
  | arr (item :: items) =>
    [0x5b] ++ (render style item ++ renderItems style items) ++ [0x5d]
  | obj [] => [0x7b, 0x7d]
  | obj ((key, value) :: members) =>
    [0x7b] ++
      (quoted key ++ style.keySeparator ++ render style value ++ renderMembers style members) ++
      [0x7d]

/-- Further array items, each after a separator. -/
def renderItems (style : Style) : List Json → Text
  | [] => []
  | item :: items => style.itemSeparator ++ render style item ++ renderItems style items

/-- Further object members, each after a separator. -/
def renderMembers (style : Style) : List (Text × Json) → Text
  | [] => []
  | (key, value) :: members =>
    style.itemSeparator ++ quoted key ++ style.keySeparator ++ render style value ++
      renderMembers style members

end

mutual

/-- Whether `json.dumps` with `allow_nan=False` writes the document: every float
is finite, and no integer has more than 4300 digits. -/
def dumpable : Json → Bool
  | int z => (natText z.natAbs).length ≤ 4300
  | float (.finite _) => true
  | float _ => false
  | arr items => dumpableItems items
  | obj members => dumpableMembers members
  | _ => true

def dumpableItems : List Json → Bool
  | [] => true
  | item :: items => dumpable item && dumpableItems items

def dumpableMembers : List (Text × Json) → Bool
  | [] => true
  | (_, value) :: members => dumpable value && dumpableMembers members

end

/-- Members in key order. -/
def sortMembers (members : List (Text × Json)) : List (Text × Json) :=
  members.insertionSort fun a b => a.1 ≤ b.1

mutual

/-- Every object's members in key order. -/
def sortKeys : Json → Json
  | arr items => arr (sortKeysItems items)
  | obj members => obj (sortMembers (sortKeysMembers members))
  | other => other

def sortKeysItems : List Json → List Json
  | [] => []
  | item :: items => sortKeys item :: sortKeysItems items

def sortKeysMembers : List (Text × Json) → List (Text × Json)
  | [] => []
  | (key, value) :: members => (key, sortKeys value) :: sortKeysMembers members

end

/-! ## Access -/

/-- `dict.get(key)` of a member list; the keys are distinct. -/
def lookup (key : Text) : List (Text × Json) → Option Json
  | [] => none
  | (name, value) :: members => if name = key then some value else lookup key members

/-- `document.get(key)` of a document known to be an object. -/
def get? (key : Text) : Json → Option Json
  | obj members => lookup key members
  | _ => none

/-- Whether the value is `True`. -/
def isTrue : Json → Bool
  | bool true => true
  | _ => false

/-- Equality with a string, as `==` compares. -/
def equalsText (t : Text) : Option Json → Bool
  | some (str u) => t = u
  | _ => false

/-- Equality with an integer: booleans and floats compare by value. -/
def equalsInt (z : ℤ) : Option Json → Bool
  | some (int y) => z = y
  | some (bool b) => z = if b then 1 else 0
  | some (float (.finite q)) => (z : ℚ) = q
  | _ => false

/-- Equality with `None`, which a missing member reads as. -/
def isNone : Option Json → Bool
  | none => true
  | some null => true
  | _ => false

/-- Equality with an optional string. -/
def equalsOptionalText : Option Text → Option Json → Bool
  | some t, value => equalsText t value
  | none, value => isNone value

end Json

def intOfJson : Json → Option ℤ
  | .int z => some z
  | _ => none

def textOfJson : Json → Option Text
  | .str t => some t
  | _ => none

def boolOfJson : Json → Option Bool
  | .bool b => some b
  | _ => none

def itemsOfJson : Json → Option (List Json)
  | .arr items => some items
  | _ => none

def membersOfJson : Json → Option (List (Text × Json))
  | .obj members => some members
  | _ => none

/-- A JSON array of integers. -/
def intsOfJson : Json → Option (List ℤ)
  | .arr items => items.mapM intOfJson
  | _ => none

/-- A member of an object whose keys are known. -/
def field (members : List (Text × Json)) (key : Text) : Json := (Json.lookup key members).getD .null

/-- Whether the members have exactly the given keys. -/
def hasExactly (keys : List Text) (members : List (Text × Json)) : Bool :=
  (∀ key ∈ members.map Prod.fst, key ∈ keys) ∧ ∀ key ∈ keys, key ∈ members.map Prod.fst

/-! ## Reading -/

/-- Skip JSON white space. -/
def skipSpace (t : Text) : Text :=
  t.dropWhile fun c => c = 0x20 ∨ c = 0x09 ∨ c = 0x0a ∨ c = 0x0d

/-- The value of a hexadecimal digit of either case. -/
def hexValue (c : CodePoint) : Option ℕ :=
  if Text.isDigit c then some (c.val - 48)
  else if Text.inRange 'a' 'f' c then some (c.val - 87)
  else if Text.inRange 'A' 'F' c then some (c.val - 55)
  else none

/-- The value of four hexadecimal digits. -/
def hexValue4 (a b c d : CodePoint) : Option ℕ := do
  let a ← hexValue a
  let b ← hexValue b
  let c ← hexValue c
  let d ← hexValue d
  return ((a * 16 + b) * 16 + c) * 16 + d

/-- What a short escape denotes. -/
def unescape (letter : CodePoint) : Option CodePoint :=
  if letter = quote then some quote
  else if letter = backslash then some backslash
  else if letter = 0x2f then some 0x2f
  else if letter = 0x62 then some 0x08
  else if letter = 0x66 then some 0x0c
  else if letter = 0x6e then some 0x0a
  else if letter = 0x72 then some 0x0d
  else if letter = 0x74 then some 0x09
  else none

/-- The code point of a surrogate pair. -/
def joinSurrogates (high low : ℕ) : CodePoint :=
  .ofNat _ (0x10000 + (high - 0xd800) * 0x400 + (low - 0xdc00))

/-- Put a character before the string read so far. -/
def consChar (c : CodePoint) : Option (Text × Text) → Option (Text × Text) :=
  Option.map fun (t, rest) => (c :: t, rest)

/-- The rest of a string literal after its opening quote, and what follows it.
An escaped high surrogate takes an escaped low surrogate behind it along. -/
def parseChars : Text → Option (Text × Text)
  | [] => none
  | c :: rest =>
    if c = quote then some ([], rest)
    else if c = backslash then
      match rest with
      | [] => none
      | letter :: rest =>
        match unescape letter with
        | some plain => consChar plain (parseChars rest)
        | none =>
          if letter = 0x75 then
            match rest with
            | h1 :: h2 :: h3 :: h4 :: rest =>
              match hexValue4 h1 h2 h3 h4 with
              | none => none
              | some unit =>
                if 0xd800 ≤ unit ∧ unit ≤ 0xdbff then
                  match rest with
                  | mark :: letter :: l1 :: l2 :: l3 :: l4 :: after =>
                    if mark = backslash ∧ letter = 0x75 then
                      match hexValue4 l1 l2 l3 l4 with
                      | none => none
                      | some low =>
                        if 0xdc00 ≤ low ∧ low ≤ 0xdfff then
                          consChar (joinSurrogates unit low) (parseChars after)
                        else
                          consChar (.ofNat _ unit)
                            (parseChars (mark :: letter :: l1 :: l2 :: l3 :: l4 :: after))
                    else
                      consChar (.ofNat _ unit)
                        (parseChars (mark :: letter :: l1 :: l2 :: l3 :: l4 :: after))
                  | short => consChar (.ofNat _ unit) (parseChars short)
                else consChar (.ofNat _ unit) (parseChars rest)
            | _ => none
          else none
    else if c.val < 0x20 then none
    else consChar c (parseChars rest)

/-- The integer part of a number literal. -/
def scanInteger : Text → Option (Text × Text)
  | [] => none
  | c :: rest =>
    if c = 0x30 then some ([c], rest)
    else if Text.isDigit c then
      some (c :: rest.takeWhile Text.isDigit, rest.dropWhile Text.isDigit)
    else none

/-- An optional fraction; without a digit behind it the point is not part of the
number. -/
def scanFraction : Text → Text × Text
  | [] => ([], [])
  | c :: rest =>
    if c = 0x2e ∧ rest.takeWhile Text.isDigit ≠ [] then
      (c :: rest.takeWhile Text.isDigit, rest.dropWhile Text.isDigit)
    else ([], c :: rest)

/-- An optional sign of an exponent. -/
def scanSign : Text → Text × Text
  | [] => ([], [])
  | c :: rest => if c = 0x2b ∨ c = 0x2d then ([c], rest) else ([], c :: rest)

/-- An optional exponent. -/
def scanExponent : Text → Text × Text
  | [] => ([], [])
  | c :: rest =>
    let (sign, digits) := scanSign rest
    if (c = 0x65 ∨ c = 0x45) ∧ digits.takeWhile Text.isDigit ≠ [] then
      (c :: sign ++ digits.takeWhile Text.isDigit, digits.dropWhile Text.isDigit)
    else ([], c :: rest)

/-- A number literal after its sign, whether it has a fraction or an exponent,
and the rest. -/
def scanUnsigned (sign body : Text) : Option (Text × Bool × Text) :=
  (scanInteger body).map fun (integer, rest) =>
    let (fraction, rest) := scanFraction rest
    let (exponent, rest) := scanExponent rest
    (sign ++ integer ++ fraction ++ exponent, fraction ≠ [] ∨ exponent ≠ [], rest)

/-- A number literal. -/
def scanNumber (t : Text) : Option (Text × Bool × Text) :=
  if t.head? = some 0x2d then scanUnsigned [0x2d] t.tail else scanUnsigned [] t

/-- What a caller of `json.loads` installs; `none` stands for a hook that
raises. -/
structure Hooks where
  parseInt : Text → Option ℤ
  parseFloat : Text → Option Floating
  parseConstant : Floating → Option Floating
  objectPairs : List (Text × Json) → Option (List (Text × Json))

/-- `int(text)` of a number literal, which refuses more than 4300 digits. -/
def pythonInt (t : Text) : Option ℤ :=
  if 4300 < (t.filter Text.isDigit).length then none
  else if t.head? = some 0x2d then some (-(natValue t.tail : ℤ))
  else some (natValue t)

/-- Assign a member of a dictionary; a repeated key keeps its first place. -/
def setMember (members : List (Text × Json)) (pair : Text × Json) : List (Text × Json) :=
  if pair.1 ∈ members.map Prod.fst then
    members.map fun member => if member.1 = pair.1 then pair else member
  else members ++ [pair]

/-- `dict(pairs)`: the last value of a repeated key wins. -/
def dictPairs (pairs : List (Text × Json)) : Option (List (Text × Json)) :=
  some (pairs.foldl setMember [])

/-- A hook that refuses a repeated key. -/
def strictPairs (pairs : List (Text × Json)) : Option (List (Text × Json)) :=
  if (pairs.map Prod.fst).Nodup then some pairs else none

/-- A literal word at the start of the text. -/
def word (literal : String) (value : Json) (t : Text) : Option (Json × Text) :=
  if (Text.ofString literal).isPrefixOf t then some (value, t.drop literal.length) else none

/-- `null`, `true` and `false`. -/
def parseWord (t : Text) : Option (Json × Text) :=
  word "null" .null t <|> word "true" (.bool true) t <|> word "false" (.bool false) t

/-- A number, or one of the words for a non-finite one. -/
def parseNumber (hooks : Hooks) (t : Text) : Option (Json × Text) :=
  match scanNumber t with
  | some (literal, true, rest) => (hooks.parseFloat literal).map fun x => (.float x, rest)
  | some (literal, false, rest) => (hooks.parseInt literal).map fun z => (.int z, rest)
  | none => do
    let (value, rest) ← word "NaN" (.float .nan) t <|>
      word "Infinity" (.float (.infinite false)) t <|>
      word "-Infinity" (.float (.infinite true)) t
    match value with
    | .float x => (hooks.parseConstant x).map fun y => (.float y, rest)
    | _ => none

mutual

/-- One value at the start of the text, and the rest. -/
def parseValue (hooks : Hooks) : ℕ → Text → Option (Json × Text)
  | 0, _ => none
  | _ + 1, [] => none
  | fuel + 1, c :: rest =>
    if c = quote then (parseChars rest).map fun (t, rest) => (.str t, rest)
    else if c = 0x5b then
      if (skipSpace rest).head? = some 0x5d then some (.arr [], (skipSpace rest).tail)
      else (parseItems hooks fuel (skipSpace rest)).map fun (items, rest) => (.arr items, rest)
    else if c = 0x7b then
      if (skipSpace rest).head? = some 0x7d then some (.obj [], (skipSpace rest).tail)
      else do
        let (pairs, rest) ← parseMembers hooks fuel (skipSpace rest)
        let members ← hooks.objectPairs pairs
        return (.obj members, rest)
    else parseWord (c :: rest) <|> parseNumber hooks (c :: rest)

/-- Array items up to the closing bracket. -/
def parseItems (hooks : Hooks) : ℕ → Text → Option (List Json × Text)
  | 0, _ => none
  | fuel + 1, t =>
    match parseValue hooks fuel t with
    | none => none
    | some (item, rest) =>
      match skipSpace rest with
      | [] => none
      | c :: rest =>
        if c = 0x5d then some ([item], rest)
        else if c = 0x2c then
          (parseItems hooks fuel (skipSpace rest)).map fun (items, rest) => (item :: items, rest)
        else none

/-- Object members up to the closing brace. -/
def parseMembers (hooks : Hooks) : ℕ → Text → Option (List (Text × Json) × Text)
  | 0, _ => none
  | _ + 1, [] => none
  | fuel + 1, c :: rest =>
    if c = quote then
      match parseChars rest with
      | none => none
      | some (key, rest) =>
        match skipSpace rest with
        | [] => none
        | colon :: rest =>
          if colon = 0x3a then
            match parseValue hooks fuel (skipSpace rest) with
            | none => none
            | some (value, rest) =>
              match skipSpace rest with
              | [] => none
              | c :: rest =>
                if c = 0x7d then some ([(key, value)], rest)
                else if c = 0x2c then
                  (parseMembers hooks fuel (skipSpace rest)).map fun (pairs, rest) =>
                    ((key, value) :: pairs, rest)
                else none
          else none
    else none

end

/-- `json.loads` of a text: one value between white space. -/
def loads (hooks : Hooks) (t : Text) : Option Json :=
  match parseValue hooks (2 * t.length + 2) (skipSpace t) with
  | some (value, rest) => if skipSpace rest = [] then some value else none
  | none => none

/-- Whether `detect_encoding` takes the octets for UTF-16 or UTF-32. -/
def isWide (octets : Bytes) : Bool :=
  [0xff, 0xfe].isPrefixOf octets || [0xfe, 0xff].isPrefixOf octets ||
    match octets with
    | [a, b] => a == 0 || b == 0
    | a :: b :: _ :: _ :: _ => a == 0 || b == 0
    | _ => false

/-- The text `json.loads` finds in octets. A byte order mark is skipped and surrogates
pass; the wide encodings are left to `decodeWide`. -/
def detectedText (decodeWide : Bytes → Option Text) (octets : Bytes) : Option Text :=
  if isWide octets then decodeWide octets
  else if [0xef, 0xbb, 0xbf].isPrefixOf octets then utf8Decode true (octets.drop 3)
  else utf8Decode true octets

/-- `json.loads` of octets. -/
def loadsBytes (hooks : Hooks) (decodeWide : Bytes → Option Text) (octets : Bytes) :
    Option Json :=
  (detectedText decodeWide octets).bind (loads hooks)

end Codec
