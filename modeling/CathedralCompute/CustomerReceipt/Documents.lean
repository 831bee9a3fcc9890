import CathedralCompute.Codec.JsonFaults
import CathedralCompute.Platform
import CathedralCompute.Semantics.Walk

/-!
# Documents of customer receipts

Receipts and keyrings are read by one reader: one bounded JSON object without repeated
keys, floats or integers beyond 64 bits, whose values are then walked with a stack. The
walk bounds depth, nodes and the octets of every string and key. It catches the
exception of a string that cannot be encoded; that of a key it lets through.

## Main definitions

* `parseJson` — the reader
* `MeetsLoneSurrogate` — the walk comes upon a key that cannot be encoded

## Main results

* `validateJsonShape_eq_unicodeEncodeError`, `parseJson_unicodeEncodeError_iff` — when the
  reader lets that exception through
-/

set_option autoImplicit false

namespace Cathedral.CustomerReceipt

open Codec Semantics

/-- The exceptions of the verifier: `CustomerReceiptError`, and what it lets through. -/
inductive Fault where
  | customerReceiptError (category message : Text)
  | unicodeEncodeError
  | keyError
  | overflowError
deriving DecidableEq

abbrev Checked := Except Fault

/-- `CustomerReceiptError` of a category. -/
def refused (category message : String) : Fault := .customerReceiptError category message

/-- `MAX_CUSTOMER_RECEIPT_BYTES` and `MAX_CUSTOMER_RECEIPT_TRUSTED_KEYS_BYTES`. -/
def maxBytes : ℕ := 256 * 1024

/-- `MAX_CUSTOMER_RECEIPT_DEPTH`. -/
def maxDepth : ℕ := 16

/-- `MAX_CUSTOMER_RECEIPT_NODES`. -/
def maxNodes : ℕ := 1024

/-- `MAX_CUSTOMER_RECEIPT_STRING_BYTES`. -/
def maxStringBytes : ℕ := 16 * 1024

/-- `MAX_CUSTOMER_RECEIPT_KEY_BYTES`. -/
def maxKeyBytes : ℕ := 256

/-! ## The walk -/

/-- The check of a key. Its encoding stands outside the `try`. -/
def checkKey (key : Text) : Checked Unit := do
  let octets ← demand .unicodeEncodeError key.utf8
  require (octets.length ≤ maxKeyBytes) (refused "schema" "JSON object key is invalid")

/-- The checks of the keys of an object, in turn. -/
def checkKeys : List Text → Checked Unit
  | [] => .ok ()
  | key :: keys => do
    checkKey key
    checkKeys keys

/-- The check of a value by itself. -/
def checkValue : Json → Checked Unit
  | .obj members => checkKeys (members.map Prod.fst)
  | .str t => do
    let octets ← demand (refused "schema" "JSON string is invalid") t.utf8
    require (octets.length ≤ maxStringBytes)
      (refused "schema" "JSON string exceeds the size limit")
  | .float _ => .error (refused "schema" "JSON contains a non-canonical value")
  | _ => .ok ()

/-- The failure of a document too deep or with too many values. -/
def tooComplex : Fault := refused "schema" "JSON structure is too complex"

/-- The check of a value at a depth. -/
def checkNode (node : Json × ℕ) : Checked Unit := do
  require (node.2 ≤ maxDepth) tooComplex
  checkValue node.1

/-- The values inside a value, one level deeper. -/
def childNodes : Json × ℕ → List (Json × ℕ)
  | (.arr items, depth) => items.map fun item => (item, depth + 1)
  | (.obj members, depth) => members.map fun member => (member.2, depth + 1)
  | _ => []

/-- `_validate_json_shape`. -/
def validateJsonShape (value : Json) : Checked Unit :=
  walk checkNode tooComplex childNodes maxNodes [(value, 0)]

/-! ## The reader -/

/-- `_json_integer`. -/
def jsonInteger (t : Text) : Option ℤ :=
  (pythonInt t).filter fun z => -2 ^ 63 ≤ z ∧ z ≤ 2 ^ 63 - 1

/-- The hooks of `_parse_json`. -/
def receiptHooks : Hooks := ⟨jsonInteger, fun _ => none, fun _ => none, strictPairs⟩

/-- The document of octets; `none` where the decoder or a hook raises, or the interpreter
stops it. -/
def documentOf (p : Platform) (data : Bytes) : Option Json := do
  let text ← utf8Decode false data
  guard (textFault receiptHooks p.readDepth text = none)
  loads receiptHooks text

/-- `_parse_json`. -/
def parseJson (p : Platform) (label : String) (data : Bytes) :
    Checked (List (Text × Json)) := do
  require (data.length ≤ maxBytes) (refused "schema" (label ++ " exceeds the maximum encoded size"))
  let document ← demand (refused "schema" (label ++ " is not UTF-8 JSON")) (documentOf p data)
  let members ← demand (refused "schema" (label ++ " must be a JSON object"))
    (membersOfJson document)
  validateJsonShape (.obj members)
  return members

/-- `canonical_customer_receipt_json`. -/
def canonicalCustomerReceiptJson (p : Platform) (document : Json) : Checked Bytes :=
  demand (refused "schema" "document contains a non-canonical value") (canonicalJson p document)

/-- `customer_receipt_signed_bytes`. -/
def customerReceiptSignedBytes (p : Platform) (members : List (Text × Json)) : Checked Bytes :=
  canonicalCustomerReceiptJson p (.obj (members.filter fun member => member.1 ≠ "signature"))

/-! ## What the walk visits -/

mutual

/-- A value and all values inside it, in the order of the walk. -/
def walkOrder (depth : ℕ) : Json → List (Json × ℕ)
  | .arr items => (.arr items, depth) :: walkItems (depth + 1) items
  | .obj members => (.obj members, depth) :: walkMembers (depth + 1) members
  | value => [(value, depth)]

/-- The values of an array, the last item first. -/
def walkItems (depth : ℕ) : List Json → List (Json × ℕ)
  | [] => []
  | item :: items => walkItems depth items ++ walkOrder depth item

/-- The values of an object, the last member first. -/
def walkMembers (depth : ℕ) : List (Text × Json) → List (Json × ℕ)
  | [] => []
  | (_, value) :: members => walkMembers depth members ++ walkOrder depth value

end

theorem walkItems_eq (depth : ℕ) (items : List Json) :
    walkItems depth items =
      (items.map fun item => (item, depth)).reverse.flatMap fun node => walkOrder node.2 node.1 := by
  induction items with
  | nil => rw [walkItems]; rfl
  | cons item items ih =>
    rw [walkItems, ih, List.map_cons, List.reverse_cons, List.flatMap_append,
      List.flatMap_singleton]

theorem walkMembers_eq (depth : ℕ) (members : List (Text × Json)) :
    walkMembers depth members =
      (members.map fun member => (member.2, depth)).reverse.flatMap
        fun node => walkOrder node.2 node.1 := by
  induction members with
  | nil => rw [walkMembers]; rfl
  | cons member members ih =>
    rw [walkMembers, ih, List.map_cons, List.reverse_cons, List.flatMap_append,
      List.flatMap_singleton]

theorem walkOrder_unfolds (node : Json × ℕ) :
    walkOrder node.2 node.1 =
      node :: (childNodes node).reverse.flatMap fun node => walkOrder node.2 node.1 := by
  obtain ⟨value, depth⟩ := node
  cases value with
  | arr items => rw [walkOrder, walkItems_eq]; rfl
  | obj members => rw [walkOrder, walkMembers_eq]; rfl
  | _ => rw [walkOrder] <;> simp [childNodes]

/-- The walk checks the values of a document in order. -/
theorem validateJsonShape_eq (value : Json) :
    validateJsonShape value = inOrder checkNode tooComplex maxNodes (walkOrder 0 value) := by
  rw [validateJsonShape, walk_eq walkOrder_unfolds, List.flatMap_singleton]

/-! ## Keys that cannot be encoded -/

/-- A key the walk accepts. -/
def KeyFits (key : Text) : Prop := ∃ octets, key.utf8 = some octets ∧ octets.length ≤ maxKeyBytes

/-- A value the walk accepts by itself. -/
def ValueFits : Json → Prop
  | .obj members => ∀ key ∈ members.map Prod.fst, KeyFits key
  | .str t => ∃ octets, t.utf8 = some octets ∧ octets.length ≤ maxStringBytes
  | .float _ => False
  | _ => True

/-- An object with a key that holds a lone surrogate, behind keys that are accepted. -/
def BreaksAtKey (value : Json) : Prop :=
  ∃ members keys key rest, value = .obj members ∧ members.map Prod.fst = keys ++ key :: rest ∧
    (∀ earlier ∈ keys, KeyFits earlier) ∧ key.utf8 = none

/-- The walk of a document comes upon such an object before anything it refuses. -/
def MeetsLoneSurrogate (document : Json) : Prop :=
  ∃ before value depth after, walkOrder 0 document = before ++ (value, depth) :: after ∧
    before.length < maxNodes ∧
    (∀ node ∈ before, node.2 ≤ maxDepth ∧ ValueFits node.1) ∧
    depth ≤ maxDepth ∧ BreaksAtKey value

theorem checkKey_eq_ok {key : Text} : checkKey key = .ok () ↔ KeyFits key := by
  simp only [checkKey, bind_eq_ok, demand_eq_ok, require_eq_ok, KeyFits]

theorem checkKey_eq_unicodeEncodeError {key : Text} :
    checkKey key = .error .unicodeEncodeError ↔ key.utf8 = none := by
  simp [checkKey, bind_eq_error, demand_eq_error, require_eq_error, refused]

theorem checkKeys_eq_ok {keys : List Text} :
    checkKeys keys = .ok () ↔ ∀ key ∈ keys, KeyFits key := by
  induction keys with
  | nil => simp [checkKeys]
  | cons key keys ih =>
    simp only [checkKeys, bind_eq_ok, ih, List.forall_mem_cons]
    constructor
    · rintro ⟨_, first, rest⟩
      exact ⟨checkKey_eq_ok.mp first, rest⟩
    · rintro ⟨first, rest⟩
      exact ⟨(), checkKey_eq_ok.mpr first, rest⟩

theorem checkKeys_eq_unicodeEncodeError {all : List Text} :
    checkKeys all = .error .unicodeEncodeError ↔
      ∃ keys key rest, all = keys ++ key :: rest ∧ (∀ earlier ∈ keys, KeyFits earlier) ∧
        key.utf8 = none := by
  induction all with
  | nil => simp [checkKeys]
  | cons first all ih =>
    rw [checkKeys, bind_eq_error, checkKey_eq_unicodeEncodeError]
    constructor
    · rintro (broken | ⟨_, fits, later⟩)
      · exact ⟨[], first, all, rfl, by simp, broken⟩
      · obtain ⟨keys, key, rest, rfl, earlier, broken⟩ := ih.mp later
        exact ⟨first :: keys, key, rest, rfl,
          List.forall_mem_cons.mpr ⟨checkKey_eq_ok.mp fits, earlier⟩, broken⟩
    · rintro ⟨keys, key, rest, split, earlier, broken⟩
      cases keys with
      | nil =>
        obtain ⟨rfl, rfl⟩ := List.cons.inj split
        exact .inl broken
      | cons other keys =>
        obtain ⟨rfl, rfl⟩ := List.cons.inj split
        obtain ⟨fits, earlier⟩ := List.forall_mem_cons.mp earlier
        exact .inr ⟨(), checkKey_eq_ok.mpr fits, ih.mpr ⟨keys, key, rest, rfl, earlier, broken⟩⟩

theorem checkValue_eq_ok {value : Json} : checkValue value = .ok () ↔ ValueFits value := by
  cases value with
  | obj members => exact checkKeys_eq_ok
  | str t => simp only [checkValue, bind_eq_ok, demand_eq_ok, require_eq_ok, ValueFits]
  | float x => simp [checkValue, ValueFits]
  | _ => simp [checkValue, ValueFits]

/-- The check of a value raises no exceptions but the two. -/
theorem checkValue_ne_error {value : Json} {failure : Fault}
    (other : failure = .keyError ∨ failure = .overflowError) :
    checkValue value ≠ .error failure := by
  have keys (all : List Text) : checkKeys all ≠ .error failure := by
    induction all with
    | nil => simp [checkKeys]
    | cons key all ih =>
      rcases other with rfl | rfl <;>
        simp [checkKeys, checkKey, bind_eq_error, demand_eq_error, require_eq_error, refused, ih]
  cases value with
  | obj members => exact keys _
  | str t =>
    rcases other with rfl | rfl <;>
      simp [checkValue, bind_eq_error, demand_eq_error, require_eq_error, refused]
  | float x => rcases other with rfl | rfl <;> simp [checkValue, refused]
  | _ => simp [checkValue]

theorem checkValue_eq_unicodeEncodeError {value : Json} :
    checkValue value = .error .unicodeEncodeError ↔ BreaksAtKey value := by
  cases value with
  | obj members =>
    rw [checkValue, checkKeys_eq_unicodeEncodeError]
    constructor
    · rintro ⟨keys, key, rest, found⟩
      exact ⟨members, keys, key, rest, rfl, found⟩
    · rintro ⟨_, keys, key, rest, ⟨⟩, found⟩
      exact ⟨keys, key, rest, found⟩
  | str t =>
    simp [checkValue, bind_eq_error, demand_eq_error, require_eq_error, refused, BreaksAtKey]
  | _ => simp [checkValue, refused, BreaksAtKey]

theorem checkNode_eq_ok {node : Json × ℕ} :
    checkNode node = .ok () ↔ node.2 ≤ maxDepth ∧ ValueFits node.1 := by
  simp only [checkNode, bind_eq_ok, require_eq_ok, checkValue_eq_ok, exists_and_left, exists_const]

theorem checkNode_eq_unicodeEncodeError {node : Json × ℕ} :
    checkNode node = .error .unicodeEncodeError ↔ node.2 ≤ maxDepth ∧ BreaksAtKey node.1 := by
  simp [checkNode, bind_eq_error, require_eq_error, checkValue_eq_unicodeEncodeError, tooComplex,
    refused]

/-- **Escape.** The walk lets `UnicodeEncodeError` through exactly where it comes upon a
key with a lone surrogate. -/
theorem validateJsonShape_eq_unicodeEncodeError {document : Json} :
    validateJsonShape document = .error .unicodeEncodeError ↔ MeetsLoneSurrogate document := by
  rw [validateJsonShape_eq, inOrder_eq_error]
  constructor
  · rintro ⟨before, ⟨value, depth⟩, after, order, earlier, ⟨short, failed⟩ | ⟨_, full⟩⟩
    · obtain ⟨shallow, breaks⟩ := checkNode_eq_unicodeEncodeError.mp failed
      exact ⟨before, value, depth, after, order, short,
        fun node member => checkNode_eq_ok.mp (earlier node member), shallow, breaks⟩
    · cases full
  · rintro ⟨before, value, depth, after, order, short, earlier, shallow, breaks⟩
    exact ⟨before, (value, depth), after, order,
      fun node member => checkNode_eq_ok.mpr (earlier node member),
      .inl ⟨short, checkNode_eq_unicodeEncodeError.mpr ⟨shallow, breaks⟩⟩⟩

/-- The octets are a document at which the reader breaks. -/
def BreaksReader (p : Platform) (data : Bytes) : Prop :=
  data.length ≤ maxBytes ∧
    ∃ members, documentOf p data = some (.obj members) ∧ MeetsLoneSurrogate (.obj members)

theorem membersOfJson_eq_some {document : Json} {members : List (Text × Json)} :
    membersOfJson document = some members ↔ document = .obj members := by
  cases document <;> simp [membersOfJson]

/-- **Reader.** So does the reader. -/
theorem parseJson_eq_unicodeEncodeError {p : Platform} {label : String} {data : Bytes} :
    parseJson p label data = .error .unicodeEncodeError ↔ BreaksReader p data := by
  simp only [parseJson, bind_eq_error, require_eq_error, require_eq_ok, demand_eq_error,
    demand_eq_ok, membersOfJson_eq_some, refused, reduceCtorEq, and_false, false_or, pure,
    Except.pure, or_false, exists_const, validateJsonShape_eq_unicodeEncodeError, BreaksReader]
  constructor
  · rintro ⟨short, _, read, members, rfl, meets⟩
    exact ⟨short, members, read, meets⟩
  · rintro ⟨short, members, read, meets⟩
    exact ⟨short, _, read, members, rfl, meets⟩

/-- The reader raises no exceptions but the two. -/
theorem parseJson_ne_error {p : Platform} {label : String} {data : Bytes} {failure : Fault}
    (other : failure = .keyError ∨ failure = .overflowError) :
    parseJson p label data ≠ .error failure := by
  simp only [parseJson, ne_eq, bind_eq_error, require_eq_error, demand_eq_error, refused, pure,
    Except.pure, validateJsonShape_eq, inOrder_eq_error, checkNode, tooComplex]
  rcases other with rfl | rfl
  all_goals
    rintro (⟨_, ⟨⟩⟩ | ⟨_, _, ⟨_, ⟨⟩⟩ | ⟨_, _, ⟨_, ⟨⟩⟩ | ⟨_, _, failed | ⟨_, _, ⟨⟩⟩⟩⟩⟩)
    obtain ⟨_, ⟨value, _⟩, _, _, _, ⟨_, ⟨_, ⟨⟩⟩ | ⟨_, _, failed⟩⟩ | ⟨_, ⟨⟩⟩⟩ := failed
    exact absurd failed (checkValue_ne_error (by simp))

/-- A document the reader returns is an object every member of which the walk accepted. -/
theorem fits_of_parseJson {p : Platform} {label : String} {data : Bytes}
    {members : List (Text × Json)} (parsed : parseJson p label data = .ok members) :
    documentOf p data = some (.obj members) ∧
      ∀ member ∈ members, KeyFits member.1 ∧ ValueFits member.2 := by
  simp only [parseJson, bind_eq_ok, require_eq_ok, demand_eq_ok, pure_eq_ok,
    membersOfJson_eq_some] at parsed
  obtain ⟨_, _, _, read, members, rfl, _, shape, rfl⟩ := parsed
  rw [validateJsonShape_eq, inOrder_eq_ok] at shape
  have fits := fun node inside => (checkNode_eq_ok.mp (shape.2 node inside)).2
  refine ⟨read, fun member inside => ⟨?_, ?_⟩⟩
  · exact fits (.obj members, 0) (by rw [walkOrder]; exact List.mem_cons_self) member.1
      (List.mem_map_of_mem inside)
  · refine fits (member.2, 1) ?_
    rw [walkOrder, walkMembers_eq]
    refine List.mem_cons_of_mem _ (List.mem_flatMap.mpr ⟨(member.2, 1), ?_, ?_⟩)
    · exact List.mem_reverse.mpr (List.mem_map.mpr ⟨member, inside, rfl⟩)
    · rw [walkOrder_unfolds]
      exact List.mem_cons_self

end Cathedral.CustomerReceipt
