import CathedralCompute.Codec.Text

/-!
# SHA-256

The FIPS 180-4 hash on octets. Words are natural numbers kept below `2 ^ 32` by
explicit reduction, and the message schedule is a sliding window of sixteen
words, so that a digest can be evaluated by reduction alone. `hexdigest` is the
lower-case hexadecimal form.
-/

set_option autoImplicit false

namespace Codec

namespace Sha256

def roundConstants : List ℕ :=
  [0x428a2f98, 0x71374491, 0xb5c0fbcf, 0xe9b5dba5, 0x3956c25b, 0x59f111f1, 0x923f82a4, 0xab1c5ed5,
   0xd807aa98, 0x12835b01, 0x243185be, 0x550c7dc3, 0x72be5d74, 0x80deb1fe, 0x9bdc06a7, 0xc19bf174,
   0xe49b69c1, 0xefbe4786, 0x0fc19dc6, 0x240ca1cc, 0x2de92c6f, 0x4a7484aa, 0x5cb0a9dc, 0x76f988da,
   0x983e5152, 0xa831c66d, 0xb00327c8, 0xbf597fc7, 0xc6e00bf3, 0xd5a79147, 0x06ca6351, 0x14292967,
   0x27b70a85, 0x2e1b2138, 0x4d2c6dfc, 0x53380d13, 0x650a7354, 0x766a0abb, 0x81c2c92e, 0x92722c85,
   0xa2bfe8a1, 0xa81a664b, 0xc24b8b70, 0xc76c51a3, 0xd192e819, 0xd6990624, 0xf40e3585, 0x106aa070,
   0x19a4c116, 0x1e376c08, 0x2748774c, 0x34b0bcb5, 0x391c0cb3, 0x4ed8aa4a, 0x5b9cca4f, 0x682e6ff3,
   0x748f82ee, 0x78a5636f, 0x84c87814, 0x8cc70208, 0x90befffa, 0xa4506ceb, 0xbef9a3f7, 0xc67178f2]

def rotateRight (x n : ℕ) : ℕ := (x >>> n) ||| ((x <<< (32 - n)) % 2 ^ 32)

def bigSigma0 (x : ℕ) : ℕ := rotateRight x 2 ^^^ rotateRight x 13 ^^^ rotateRight x 22

def bigSigma1 (x : ℕ) : ℕ := rotateRight x 6 ^^^ rotateRight x 11 ^^^ rotateRight x 25

def smallSigma0 (x : ℕ) : ℕ := rotateRight x 7 ^^^ rotateRight x 18 ^^^ (x >>> 3)

def smallSigma1 (x : ℕ) : ℕ := rotateRight x 17 ^^^ rotateRight x 19 ^^^ (x >>> 10)

def choose (x y z : ℕ) : ℕ := (x &&& y) ^^^ ((x ^^^ (2 ^ 32 - 1)) &&& z)

def majority (x y z : ℕ) : ℕ := (x &&& y) ^^^ (x &&& z) ^^^ (y &&& z)

/-- The chaining value: eight words. -/
structure Chain where
  (a b c d e f g h : ℕ)

def initial : Chain :=
  ⟨0x6a09e667, 0xbb67ae85, 0x3c6ef372, 0xa54ff53a, 0x510e527f, 0x9b05688c, 0x1f83d9ab, 0x5be0cd19⟩

/-- The rounds for the remaining constants; the window holds the next sixteen
schedule words. -/
def rounds : List ℕ → List ℕ → Chain → Chain
  | [], _, chain => chain
  | constant :: constants, window, chain =>
    let word := window.headD 0
    let t1 := (chain.h + bigSigma1 chain.e + choose chain.e chain.f chain.g + constant + word)
      % 2 ^ 32
    let t2 := (bigSigma0 chain.a + majority chain.a chain.b chain.c) % 2 ^ 32
    let next := (smallSigma1 (window.getD 14 0) + window.getD 9 0
      + smallSigma0 (window.getD 1 0) + word) % 2 ^ 32
    rounds constants (window.tail ++ [next])
      ⟨(t1 + t2) % 2 ^ 32, chain.a, chain.b, chain.c, (chain.d + t1) % 2 ^ 32,
        chain.e, chain.f, chain.g⟩

/-- Big-endian words of a block. -/
def words : List ℕ → List ℕ
  | a :: b :: c :: d :: rest => (a * 2 ^ 24 + b * 2 ^ 16 + c * 2 ^ 8 + d) :: words rest
  | _ => []

def compress (chain : Chain) (block : List ℕ) : Chain :=
  let mixed := rounds roundConstants (words block) chain
  ⟨(chain.a + mixed.a) % 2 ^ 32, (chain.b + mixed.b) % 2 ^ 32, (chain.c + mixed.c) % 2 ^ 32,
    (chain.d + mixed.d) % 2 ^ 32, (chain.e + mixed.e) % 2 ^ 32, (chain.f + mixed.f) % 2 ^ 32,
    (chain.g + mixed.g) % 2 ^ 32, (chain.h + mixed.h) % 2 ^ 32⟩

/-- The `count` low octets of a number, most significant first. -/
def bigEndian : ℕ → ℕ → List ℕ
  | 0, _ => []
  | count + 1, x => bigEndian count (x / 256) ++ [x % 256]

/-- The message with its terminator, zero fill and bit length. -/
def pad (message : List ℕ) : List ℕ :=
  message ++ 0x80 :: List.replicate ((119 - message.length % 64) % 64) 0
    ++ bigEndian 8 (8 * message.length)

def blocks : ℕ → List ℕ → List (List ℕ)
  | 0, _ => []
  | count + 1, octets => octets.take 64 :: blocks count (octets.drop 64)

/-- The digest of a message given and returned as octet values. -/
def hash (message : List ℕ) : List ℕ :=
  let padded := pad message
  let chain := (blocks (padded.length / 64) padded).foldl compress initial
  [chain.a, chain.b, chain.c, chain.d, chain.e, chain.f, chain.g, chain.h].flatMap (bigEndian 4)

end Sha256

/-- `hashlib.sha256(message).digest()`. -/
def sha256 (message : Bytes) : Bytes :=
  (Sha256.hash (message.map UInt8.toNat)).map .ofNat

/-- One lower-case hexadecimal digit. -/
def hexDigit (n : ℕ) : CodePoint :=
  if n < 10 then .ofNat _ (48 + n) else .ofNat _ (87 + n)

/-- `hashlib.sha256(message).hexdigest()`. -/
def hexdigest (message : Bytes) : Text :=
  (sha256 message).flatMap fun octet => [hexDigit (octet.toNat / 16), hexDigit (octet.toNat % 16)]

/-- The digest text `"sha256:" + hexdigest`. -/
def sha256Digest (message : Bytes) : Text := Text.ofString "sha256:" ++ hexdigest message

theorem hexDigit_val_lt {n : ℕ} (small : n < 16) : (hexDigit n).val < 0x80 := by
  unfold hexDigit
  split_ifs
  all_goals
    rw [Fin.val_ofNat, Nat.mod_eq_of_lt (by omega)]
    omega

theorem isAscii_sha256Digest (message : Bytes) : (sha256Digest message).IsAscii := by
  refine Text.isAscii_append.mpr ⟨by decide, fun c member => ?_⟩
  obtain ⟨octet, -, member⟩ := List.mem_flatMap.mp member
  have bounded := octet.toNat_lt
  rcases List.mem_cons.mp member with rfl | member
  · exact hexDigit_val_lt (by omega)
  · rw [List.mem_singleton.mp member]
    exact hexDigit_val_lt (by omega)

theorem length_bigEndian (count x : ℕ) : (Sha256.bigEndian count x).length = count := by
  induction count generalizing x with
  | zero => rfl
  | succ count ih => rw [Sha256.bigEndian, List.length_append, ih, List.length_singleton]

@[simp] theorem length_sha256 (message : Bytes) : (sha256 message).length = 32 := by
  simp [sha256, Sha256.hash, length_bigEndian]

theorem isLowerHex_hexDigit {n : ℕ} (small : n < 16) : Text.isLowerHex (hexDigit n) = true := by
  have finite : ∀ n < 16, Text.isLowerHex (hexDigit n) = true := by decide
  exact finite n small

theorem isHex_hexdigest (message : Bytes) : Text.isHex 64 (hexdigest message) = true := by
  rw [Text.isHex, Bool.and_eq_true, List.all_eq_true]
  constructor
  · simp [hexdigest, List.length_flatMap]
  · intro c member
    obtain ⟨octet, -, member⟩ := List.mem_flatMap.mp member
    have bounded := octet.toNat_lt
    rcases List.mem_cons.mp member with rfl | member
    · exact isLowerHex_hexDigit (by omega)
    · rw [List.mem_singleton.mp member]
      exact isLowerHex_hexDigit (by omega)

/-- A digest text is well formed. -/
theorem isDigest_sha256Digest (message : Bytes) :
    Text.isDigest "sha256:" (sha256Digest message) = true := by
  rw [Text.isDigest, sha256Digest, Bool.and_eq_true, List.drop_left]
  exact ⟨List.isPrefixOf_iff_prefix.mpr (List.prefix_append _ _), isHex_hexdigest message⟩

example : hexdigest (Text.ascii "abc") =
    "ba7816bf8f01cfea414140de5dae2223b00361a396177a9cb410ff61f20015ad" := by
  decide +kernel

/-! ## Keyed digests -/

/-- The key of `hmac.new` as one block: hashed when it is longer, and filled up
with zeros. -/
def hmacBlock (key : Bytes) : Bytes :=
  let short := if 64 < key.length then sha256 key else key
  short ++ List.replicate (64 - short.length) 0

/-- `hmac.new(key, message, hashlib.sha256).digest()`. -/
def hmacSha256 (key message : Bytes) : Bytes :=
  let block := hmacBlock key
  sha256 (block.map (· ^^^ 0x5c) ++ sha256 (block.map (· ^^^ 0x36) ++ message))

/-- The digest text `"hmac-sha256:" + hexdigest`. -/
def hmacDigest (key message : Bytes) : Text :=
  Text.ofString "hmac-sha256:" ++ (hmacSha256 key message).flatMap fun octet =>
    [hexDigit (octet.toNat / 16), hexDigit (octet.toNat % 16)]

theorem length_hmacDigest (key message : Bytes) : (hmacDigest key message).length = 76 := by
  have hex : ∀ octets : Bytes, (octets.flatMap fun octet =>
      [hexDigit (octet.toNat / 16), hexDigit (octet.toNat % 16)]).length = 2 * octets.length := by
    intro octets
    induction octets with
    | nil => rfl
    | cons octet octets ih =>
      rw [List.flatMap_cons, List.length_append, ih, List.length_cons]
      simp only [List.length_cons, List.length_nil]
      omega
  rw [hmacDigest, List.length_append, hex, hmacSha256, length_sha256]
  rfl

theorem isAscii_hmacDigest (key message : Bytes) : (hmacDigest key message).IsAscii := by
  refine Text.isAscii_append.mpr ⟨by decide, fun c member => ?_⟩
  obtain ⟨octet, -, member⟩ := List.mem_flatMap.mp member
  have bounded := octet.toNat_lt
  rcases List.mem_cons.mp member with rfl | member
  · exact hexDigit_val_lt (by omega)
  · rw [List.mem_singleton.mp member]
    exact hexDigit_val_lt (by omega)

example : hmacDigest (Text.ascii "Jefe") (Text.ascii "what do ya want for nothing?") =
    "hmac-sha256:5bdcc146bf60754e6a042426089575c75a003f089d2739839dec58b964ec3843" := by
  decide +kernel

end Codec
