import CathedralCompute.Codec.Calendar
import CathedralCompute.Codec.Decimal
import CathedralCompute.Codec.JsonCanonical
import CathedralCompute.Codec.Sha256
import CathedralCompute.Semantics.Transaction

/-!
# The platform the services run on

What the modelled services take from outside their own repository: the text of
floats, the signature primitive, the URL and address parsers, and a few
functions of the language that depend on Unicode tables. They are fields of one
structure, and nothing is assumed of them except that a float is read back from
its text.

On top of it stand the two JSON forms the services share, and the failures their
operations raise.
-/

set_option autoImplicit false

namespace Cathedral

open Codec

/-- `repr` and `float` on exact values: the text of a float is a JSON number
literal that reads back as the float. -/
structure FloatCodec where
  repr : ℚ → Text
  parse : Text → Option Floating
  literal : ∀ q, IsFloatLiteral (repr q)
  parse_repr : ∀ q, parse (repr q) = some (.finite q)

/-- What `urllib.parse.urlsplit` returns of a URL; `none` stands for an absent
part, and a `port` of `none` for one whose reading raises. -/
structure SplitUrl where
  scheme : Text
  netloc : Text
  username : Option Text
  password : Option Text
  hostname : Option Text
  port : Option (Option ℕ)
  path : Text
  query : Text
  fragment : Text

inductive IpVersion where
  | v4
  | v6
deriving DecidableEq

/-- What `ipaddress.ip_address` returns of a text: the number it denotes, and the
text `str` and `compressed` give back. -/
structure IpAddress where
  version : IpVersion
  value : ℕ
  compressed : Text

/-- What `datetime.fromisoformat` returns of a text: the local time, and the
microseconds it is ahead of UTC when the text says so. -/
structure IsoTime where
  localTime : Instant
  offset : Option ℤ

/-- The functions outside the repository. -/
structure Platform where
  /-- `repr(float)` and `float(str)`. -/
  floats : FloatCodec
  /-- `repr(str)`, which error messages quote. -/
  repr : Text → Text
  /-- The value of a decimal digit outside ASCII. -/
  unicodeDigit : CodePoint → Option ℕ
  /-- Decoding of UTF-16 and UTF-32 octets. -/
  decodeWide : Bytes → Option Text
  /-- `str.lower`. -/
  lower : Text → Text
  /-- `datetime.fromisoformat`; `none` where it raises. -/
  fromisoformat : Text → Option IsoTime
  /-- The Ed25519 signature of a message under a private key seed. -/
  sign : Bytes → Bytes → Bytes
  /-- `urllib.parse.urlsplit`; `none` where it raises. -/
  urlsplit : Text → Option SplitUrl
  /-- `ipaddress.ip_address`; `none` where it raises. -/
  ipAddress : Text → Option IpAddress
  /-- `is_global` of the address with a version and a value. -/
  isGlobal : IpVersion → ℕ → Bool
  /-- How many containers `json.loads` may have open before the interpreter stops it. -/
  readDepth : ℕ
  /-- How many containers `json.dumps` may have open before the interpreter stops it. -/
  writeDepth : ℕ

/-- `repr` of a whole float below `10 ^ 16` is its numeral and `.0`. -/
def Platform.WritesWhole (p : Platform) : Prop :=
  ∀ n : ℕ, n < 10 ^ 16 → p.floats.repr n = Decimal.wholeText n

/-- Whether `datetime.fromisoformat` reads the text as a time with an offset. -/
def Platform.isAwareTimestamp (p : Platform) (t : Text) : Bool :=
  ((p.fromisoformat t).bind IsoTime.offset).isSome

/-! ## JSON -/

/-- Separators `","` and `":"`. -/
def compactStyle (p : Platform) : Style := ⟨[0x2c], [0x3a], p.floats.repr⟩

/-- The default separators `", "` and `": "`. -/
def spacedStyle (p : Platform) : Style := ⟨[0x2c, 0x20], [0x3a, 0x20], p.floats.repr⟩

/-- `json.dumps(value, sort_keys=True, separators=(",", ":"), ensure_ascii=True,
allow_nan=False)` as octets; `none` where it raises `ValueError`. -/
def canonicalJson (p : Platform) (document : Json) : Option Bytes :=
  if document.dumpable then some (document.sortKeys.render (compactStyle p)).ascii else none

/-- `json.dumps` of a document in the canonical form, where it holds nothing that
cannot be written. -/
def documentBytes (p : Platform) (members : List (Text × Json)) : Bytes :=
  ((Json.obj members).sortKeys.render (compactStyle p)).ascii

/-- The hooks of `json.loads` without arguments. -/
def defaultHooks (p : Platform) : Hooks := ⟨pythonInt, p.floats.parse, some, dictPairs⟩

/-- The hooks of a reader that refuses repeated keys. -/
def strictHooks (p : Platform) : Hooks := ⟨pythonInt, p.floats.parse, some, strictPairs⟩

theorem faithful_defaultHooks (p : Platform) : (defaultHooks p).Faithful (compactStyle p) True where
  ints _ short := pythonInt_intText short
  floats _ q := ⟨p.floats.literal q, p.floats.parse_repr q⟩
  pairs _ distinct := dictPairs_of_nodup distinct

theorem faithful_strictHooks (p : Platform) : (strictHooks p).Faithful (compactStyle p) True where
  ints _ short := pythonInt_intText short
  floats _ q := ⟨p.floats.literal q, p.floats.parse_repr q⟩
  pairs _ distinct := strictPairs_of_nodup distinct

/-- What the canonical writer writes, a faithful reader reads back, sorted. -/
theorem loadsBytes_canonicalJson {p : Platform} {hooks : Hooks} {floats : Prop} {document : Json}
    {body : Bytes} (faithful : hooks.Faithful (compactStyle p) floats)
    (plain : document.Plain floats) (written : canonicalJson p document = some body) :
    loadsBytes hooks p.decodeWide body = some document.sortKeys := by
  unfold canonicalJson at written
  split at written
  case isTrue dumpable =>
    cases written
    exact loadsBytes_render rfl rfl p.decodeWide
      (Json.readable_sortKeys faithful document plain dumpable)
  case isFalse => cases written

/-! ## Failures -/

/-- The exceptions an operation ends in. -/
inductive Failure where
  | ledgerError (message : Text)
  | scoreClassError (message : Text)
  | provenanceError (message : Text)
  | lifecycleError (message : Text)
  | enrollmentRejected (message reason : Text)
  | gpuAttestationError (category message : Text)
  | valueError (message : Text)
  | runtimeError (message : Text)
  | evidenceError (message : Text)
  | replayError (message : Text)
  | keyReleaseError (category message : Text)
  | workloadAdmissionError (category message : Text)
  | executionAdapterError (category message : Text)
  | attributeError
  | typeError
  | integrityError
  | overflowError
  | osError
  | unicodeEncodeError
  | recursionError
deriving DecidableEq

/-- Text parameters of a statement must be encodable. -/
def storable (texts : List Text) : Except Failure Unit :=
  Semantics.require (∀ t ∈ texts, t.NoSurrogate) .unicodeEncodeError

@[simp] theorem storable_eq_ok {texts : List Text} {u : Unit} :
    storable texts = .ok u ↔ ∀ t ∈ texts, t.NoSurrogate :=
  Semantics.require_eq_ok

/-- The largest integer a column holds. -/
def maxSqliteInteger : ℤ := 2 ^ 63 - 1

/-- Integer parameters of a statement must fit 64 bits. -/
def storableIntegers (values : List ℤ) : Except Failure Unit :=
  Semantics.require (∀ z ∈ values, -maxSqliteInteger - 1 ≤ z ∧ z ≤ maxSqliteInteger)
    .overflowError

end Cathedral
