import CathedralCompute.Codec.JsonStrict
import CathedralCompute.Codec.Sha256
import CathedralCompute.Semantics.Transaction
import Mathlib.Data.Nat.Size

/-!
# Canonical documents of the provider contract

The one byte form of a document: ASCII JSON with sorted keys and without spaces, floats
or repeated keys, of bounded depth and size. The size is charged against a budget before
anything is written, and checked again on what is written. A reader accepts exactly the
bytes that the writer would write for what it has read.

## Main results

* `normalizeCanonical_eq_ok` — what the budget admits does not depend on an order
* `canonicalJsonBytes_of_same` — the bytes do not depend on the order of members
* `cost_le_length_render` — the budget never charges more than what is written
* `parse_canonicalJsonBytes` — what is written is read back
-/

set_option autoImplicit false

namespace Cathedral.Provider

open Codec Semantics

/-! ## Errors -/

/-- `ProviderRejectionCode`. -/
inductive RejectionCode where
  | contractInvalid
  | digestMismatch
  | privateFieldForbidden
  | permitAssignmentMismatch
  | permitExpired
  | permitNotYetValid
  | permitReplay
  | permitSequence
  | resultNonceMismatch
  | resultMeasurementMismatch
  | idempotencyConflict
  | workerSettlementConflict
  deriving DecidableEq

/-- A record violates the public contract. -/
structure ContractError where
  message : Text
  code : RejectionCode := .contractInvalid
  deriving DecidableEq

abbrev Checked := Except ContractError

/-- A violation without a code of its own. -/
def invalid (message : Text) : ContractError := { message }

/-! ## The writer -/

def maxCanonicalBytes : ℕ := 1024 * 1024

/-- The deepest level of a value. -/
def maxDepth : ℕ := 64

/-- Take an amount from the budget. -/
def chargeCanonicalBudget (amount budget : ℕ) : Checked ℕ :=
  if amount ≤ budget then .ok (budget - amount)
  else .error (invalid "canonical document exceeds the size limit")

def requireDepth (depth : ℕ) : Checked Unit :=
  require (depth ≤ maxDepth) (invalid "canonical value is too deeply nested")

/-- A lower bound for the digits of an integer, and its sign. -/
def intCost (z : ℤ) : ℕ :=
  (max 1 (((z.natAbs.size : ℤ) - 1) * 301 / 1000 + 1)).toNat + if z < 0 then 1 else 0

/-- The brackets and commas of a value with so many parts. -/
def bracketCost (count : ℕ) : ℕ := 2 + (count - 1)

mutual

/-- Check a value of a depth against the budget. The value itself is only copied; the
result is what is left of the budget. -/
def normalizeCanonical : Json → ℕ → ℕ → Checked ℕ
  | .null, depth, budget => do
    requireDepth depth
    chargeCanonicalBudget 4 budget
  | .str t, depth, budget => do
    requireDepth depth
    chargeCanonicalBudget (t.length + 2) budget
  | .bool value, depth, budget => do
    requireDepth depth
    chargeCanonicalBudget (if value then 4 else 5) budget
  | .int z, depth, budget => do
    requireDepth depth
    chargeCanonicalBudget (intCost z) budget
  | .float _, depth, _ => do
    requireDepth depth
    .error (invalid "floating-point values are not canonical")
  | .obj members, depth, budget => do
    requireDepth depth
    let budget ← chargeCanonicalBudget (bracketCost members.length) budget
    normalizeMembers members (depth + 1) budget
  | .arr items, depth, budget => do
    requireDepth depth
    let budget ← chargeCanonicalBudget (bracketCost items.length) budget
    normalizeItems items (depth + 1) budget

def normalizeItems : List Json → ℕ → ℕ → Checked ℕ
  | [], _, budget => .ok budget
  | item :: items, depth, budget => do
    let budget ← normalizeCanonical item depth budget
    normalizeItems items depth budget

def normalizeMembers : List (Text × Json) → ℕ → ℕ → Checked ℕ
  | [], _, budget => .ok budget
  | (key, value) :: members, depth, budget => do
    let budget ← chargeCanonicalBudget (key.length + 3) budget
    let budget ← normalizeCanonical value depth budget
    normalizeMembers members depth budget

end

/-- Compact separators; floats are never written. -/
def canonicalStyle : Style := ⟨[0x2c], [0x3a], fun _ => []⟩

/-- The canonical bytes of a value at a depth: 0 for a document, 1 for what a record
turns into. -/
def canonicalJsonBytes (depth : ℕ) (value : Json) : Checked Bytes := do
  let _ ← normalizeCanonical value depth maxCanonicalBytes
  require (value.dumpable = true) (invalid "value is not canonical JSON")
  let encoded := (value.sortKeys.render canonicalStyle).ascii
  require (encoded.length ≤ maxCanonicalBytes)
    (invalid "canonical document exceeds the size limit")
  return encoded

/-- The digest of the canonical bytes. -/
def canonicalSha256 (depth : ℕ) (value : Json) : Checked Text :=
  (canonicalJsonBytes depth value).map sha256Digest

/-! ## The reader -/

/-- The hooks of the reader: no repeated keys, no floats, no words for numbers. -/
def canonicalHooks : Hooks := ⟨pythonInt, fun _ => none, fun _ => none, strictPairs⟩

def parseCanonicalJson (data : Bytes) : Checked Json := do
  require (data.length ≤ maxCanonicalBytes) (invalid "canonical document exceeds the size limit")
  let text ← demand (invalid "canonical JSON is invalid") (asciiDecode data)
  let document ← demand (invalid "canonical JSON is invalid") (loads canonicalHooks text)
  let again ← canonicalJsonBytes 0 document
  require (again = data) (invalid "JSON bytes are not in canonical form")
  return document

/-! ## What the budget admits -/

mutual

/-- How deep the parts of a value lie below it. -/
def height : Json → ℕ
  | .arr items => itemsHeight items
  | .obj members => membersHeight members
  | _ => 0

def itemsHeight : List Json → ℕ
  | [] => 0
  | item :: items => max (height item + 1) (itemsHeight items)

def membersHeight : List (Text × Json) → ℕ
  | [] => 0
  | (_, value) :: members => max (height value + 1) (membersHeight members)

end

mutual

/-- What a value takes from the budget. -/
def cost : Json → ℕ
  | .null => 4
  | .str t => t.length + 2
  | .bool value => if value then 4 else 5
  | .int z => intCost z
  | .float _ => 0
  | .arr items => bracketCost items.length + itemsCost items
  | .obj members => bracketCost members.length + membersCost members

def itemsCost : List Json → ℕ
  | [] => 0
  | item :: items => cost item + itemsCost items

def membersCost : List (Text × Json) → ℕ
  | [] => 0
  | (key, value) :: members => key.length + 3 + (cost value + membersCost members)

end

mutual

/-- No part of the value is a float. -/
def floatFree : Json → Bool
  | .float _ => false
  | .arr items => itemsFloatFree items
  | .obj members => membersFloatFree members
  | _ => true

def itemsFloatFree : List Json → Bool
  | [] => true
  | item :: items => floatFree item && itemsFloatFree items

def membersFloatFree : List (Text × Json) → Bool
  | [] => true
  | (_, value) :: members => floatFree value && membersFloatFree members

end

theorem chargeCanonicalBudget_eq_ok {amount budget rest : ℕ} :
    chargeCanonicalBudget amount budget = .ok rest ↔ amount + rest = budget := by
  unfold chargeCanonicalBudget
  split
  · rw [Except.ok.injEq]
    omega
  · constructor
    · intro wrong
      cases wrong
    · omega

mutual

/-- A value passes if it has no float, fits the depth and fits the budget. -/
theorem normalizeCanonical_eq_ok : ∀ (value : Json) (depth budget rest : ℕ),
    normalizeCanonical value depth budget = .ok rest ↔
      floatFree value = true ∧ depth + height value ≤ maxDepth ∧ cost value + rest = budget
  | .null, depth, budget, rest => by
    simp [normalizeCanonical, requireDepth, chargeCanonicalBudget_eq_ok, floatFree, height, cost]
  | .str t, depth, budget, rest => by
    simp [normalizeCanonical, requireDepth, chargeCanonicalBudget_eq_ok, floatFree, height, cost]
  | .bool value, depth, budget, rest => by
    simp [normalizeCanonical, requireDepth, chargeCanonicalBudget_eq_ok, floatFree, height, cost]
  | .int z, depth, budget, rest => by
    simp [normalizeCanonical, requireDepth, chargeCanonicalBudget_eq_ok, floatFree, height, cost]
  | .float x, depth, budget, rest => by
    simp [normalizeCanonical, requireDepth, floatFree]
  | .arr items, depth, budget, rest => by
    simp only [normalizeCanonical, bind_eq_ok, requireDepth, require_eq_ok,
      chargeCanonicalBudget_eq_ok, normalizeItems_eq_ok items, floatFree, height, cost]
    constructor
    · rintro ⟨-, low, middle, charged, free, fits, taken⟩
      have deep : depth + itemsHeight items ≤ maxDepth := by
        cases items <;> simp_all [itemsHeight]
      exact ⟨free, deep, by omega⟩
    · rintro ⟨free, deep, taken⟩
      refine ⟨(), by omega, itemsCost items + rest, by omega, free, ?_, rfl⟩
      intro filled
      omega
  | .obj members, depth, budget, rest => by
    simp only [normalizeCanonical, bind_eq_ok, requireDepth, require_eq_ok,
      chargeCanonicalBudget_eq_ok, normalizeMembers_eq_ok members, floatFree, height, cost]
    constructor
    · rintro ⟨-, low, middle, charged, free, fits, taken⟩
      have deep : depth + membersHeight members ≤ maxDepth := by
        cases members <;> simp_all [membersHeight]
      exact ⟨free, deep, by omega⟩
    · rintro ⟨free, deep, taken⟩
      refine ⟨(), by omega, membersCost members + rest, by omega, free, ?_, rfl⟩
      intro filled
      omega

theorem normalizeItems_eq_ok : ∀ (items : List Json) (depth budget rest : ℕ),
    normalizeItems items (depth + 1) budget = .ok rest ↔
      itemsFloatFree items = true ∧ (items ≠ [] → depth + itemsHeight items ≤ maxDepth) ∧
        itemsCost items + rest = budget
  | [], depth, budget, rest => by
    simp [normalizeItems, itemsFloatFree, itemsCost, eq_comm]
  | item :: items, depth, budget, rest => by
    simp only [normalizeItems, bind_eq_ok, normalizeCanonical_eq_ok item,
      normalizeItems_eq_ok items, itemsFloatFree, itemsHeight, itemsCost, Bool.and_eq_true]
    constructor
    · rintro ⟨middle, ⟨free, deep, taken⟩, free', deep', taken'⟩
      refine ⟨⟨free, free'⟩, fun _ => ?_, by omega⟩
      by_cases filled : items = []
      · subst filled
        simp only [itemsHeight]
        omega
      · have := deep' filled
        omega
    · rintro ⟨⟨free, free'⟩, deep, taken⟩
      have deep := deep (List.cons_ne_nil _ _)
      exact ⟨itemsCost items + rest, ⟨free, by omega, by omega⟩, free', fun _ => by omega, rfl⟩

theorem normalizeMembers_eq_ok : ∀ (members : List (Text × Json)) (depth budget rest : ℕ),
    normalizeMembers members (depth + 1) budget = .ok rest ↔
      membersFloatFree members = true ∧ (members ≠ [] → depth + membersHeight members ≤ maxDepth) ∧
        membersCost members + rest = budget
  | [], depth, budget, rest => by
    simp [normalizeMembers, membersFloatFree, membersCost, eq_comm]
  | (key, value) :: members, depth, budget, rest => by
    simp only [normalizeMembers, bind_eq_ok, chargeCanonicalBudget_eq_ok,
      normalizeCanonical_eq_ok value, normalizeMembers_eq_ok members, membersFloatFree,
      membersHeight, membersCost, Bool.and_eq_true]
    constructor
    · rintro ⟨named, charged, middle, ⟨free, deep, taken⟩, free', deep', taken'⟩
      refine ⟨⟨free, free'⟩, fun _ => ?_, by omega⟩
      by_cases filled : members = []
      · subst filled
        simp only [membersHeight]
        omega
      · have := deep' filled
        omega
    · rintro ⟨⟨free, free'⟩, deep, taken⟩
      have deep := deep (List.cons_ne_nil _ _)
      exact ⟨cost value + (membersCost members + rest), by omega, membersCost members + rest,
        ⟨free, by omega, by omega⟩, free', fun _ => by omega, rfl⟩

end

/-! ## The order of members -/

/-- What a writer needs to know of a value before it writes it. -/
structure Shape where
  cost : ℕ
  height : ℕ
  floatFree : Bool
  dumpable : Bool

def shape (value : Json) : Shape where
  cost := cost value
  height := height value
  floatFree := floatFree value
  dumpable := value.dumpable

def membersShape (members : List (Text × Json)) : Shape where
  cost := membersCost members
  height := membersHeight members
  floatFree := membersFloatFree members
  dumpable := Json.dumpableMembers members

theorem membersShape_perm {members members' : List (Text × Json)}
    (perm : members.Perm members') : membersShape members = membersShape members' := by
  induction perm with
  | nil => rfl
  | cons member _ ih =>
    obtain ⟨key, value⟩ := member
    simp only [membersShape, Shape.mk.injEq] at ih
    simp [membersShape, membersCost, membersHeight, membersFloatFree, Json.dumpableMembers, ih]
  | swap first second members =>
    obtain ⟨key, value⟩ := first
    obtain ⟨key', value'⟩ := second
    simp only [membersShape, membersCost, membersHeight, membersFloatFree, Json.dumpableMembers,
      Shape.mk.injEq]
    refine ⟨by omega, by omega, Bool.and_left_comm .., Bool.and_left_comm ..⟩
  | trans _ _ first second => exact first.trans second

mutual

/-- Sorting keys changes nothing that the writer checks. -/
theorem shape_sortKeys : ∀ value : Json, shape value.sortKeys = shape value
  | .null => rfl
  | .bool _ => rfl
  | .int _ => rfl
  | .float _ => rfl
  | .str _ => rfl
  | .arr items => by
    obtain ⟨cost_eq, height_eq, free_eq, dumpable_eq⟩ := shape_sortKeysItems items
    have count : (Json.sortKeysItems items).length = items.length := by
      rw [Json.sortKeysItems_eq_map, List.length_map]
    simp only [shape, Json.sortKeys, cost, height, floatFree, Json.dumpable, cost_eq, height_eq,
      free_eq, dumpable_eq, count]
  | .obj members => by
    have inner := shape_sortKeysMembers members
    have outer := membersShape_perm (Json.sortMembers_perm (Json.sortKeysMembers members))
    have count := (Json.sortMembers_perm (Json.sortKeysMembers members)).length_eq
    rw [Json.sortKeysMembers_eq_map, List.length_map, ← Json.sortKeysMembers_eq_map] at count
    rw [inner] at outer
    simp only [membersShape, Shape.mk.injEq] at outer
    obtain ⟨cost_eq, height_eq, free_eq, dumpable_eq⟩ := outer
    simp only [shape, Json.sortKeys, cost, height, floatFree, Json.dumpable, cost_eq, height_eq,
      free_eq, dumpable_eq, count]

theorem shape_sortKeysItems : ∀ items : List Json,
    itemsCost (Json.sortKeysItems items) = itemsCost items ∧
      itemsHeight (Json.sortKeysItems items) = itemsHeight items ∧
      itemsFloatFree (Json.sortKeysItems items) = itemsFloatFree items ∧
      Json.dumpableItems (Json.sortKeysItems items) = Json.dumpableItems items
  | [] => ⟨rfl, rfl, rfl, rfl⟩
  | item :: items => by
    obtain ⟨cost_eq, height_eq, free_eq, dumpable_eq⟩ := shape_sortKeysItems items
    have head := shape_sortKeys item
    simp only [shape, Shape.mk.injEq] at head
    simp [Json.sortKeysItems, itemsCost, itemsHeight, itemsFloatFree, Json.dumpableItems, head,
      cost_eq, height_eq, free_eq, dumpable_eq]

theorem shape_sortKeysMembers : ∀ members : List (Text × Json),
    membersShape (Json.sortKeysMembers members) = membersShape members
  | [] => rfl
  | (key, value) :: members => by
    have rest := shape_sortKeysMembers members
    have head := shape_sortKeys value
    simp only [shape, Shape.mk.injEq] at head
    simp only [membersShape, Shape.mk.injEq] at rest
    simp [membersShape, Json.sortKeysMembers, membersCost, membersHeight, membersFloatFree,
      Json.dumpableMembers, head, rest]

end

theorem canonicalJsonBytes_eq_ok {depth : ℕ} {value : Json} {data : Bytes} :
    canonicalJsonBytes depth value = .ok data ↔
      floatFree value = true ∧ depth + height value ≤ maxDepth ∧ cost value ≤ maxCanonicalBytes ∧
        value.dumpable = true ∧ (value.sortKeys.render canonicalStyle).ascii = data ∧
        data.length ≤ maxCanonicalBytes := by
  simp only [canonicalJsonBytes, bind_eq_ok, require_eq_ok, pure_eq_ok, normalizeCanonical_eq_ok]
  constructor
  · rintro ⟨rest, ⟨free, deep, taken⟩, -, dumpable, -, short, rfl⟩
    exact ⟨free, deep, by omega, dumpable, rfl, short⟩
  · rintro ⟨free, deep, taken, dumpable, rfl, short⟩
    exact ⟨maxCanonicalBytes - cost value, ⟨free, deep, by omega⟩, (), dumpable, (), short, rfl⟩

/-- The bytes do not depend on the order of members. -/
theorem canonicalJsonBytes_of_same {depth : ℕ} {value value' : Json} {data : Bytes}
    (same : value.Same value') (written : canonicalJsonBytes depth value = .ok data) :
    canonicalJsonBytes depth value' = .ok data := by
  have shapes : shape value = shape value' := by
    rw [← shape_sortKeys value, ← shape_sortKeys value', same]
  simp only [shape, Shape.mk.injEq] at shapes
  obtain ⟨cost_eq, height_eq, free_eq, dumpable_eq⟩ := shapes
  rw [canonicalJsonBytes_eq_ok] at written ⊢
  rw [← free_eq, ← height_eq, ← cost_eq, ← dumpable_eq, ← same]
  exact written

/-! ## The length of what is written -/

theorem lt_pow_length_natText (n : ℕ) : n < 10 ^ (natText n).length := by
  have digits {fuel n : ℕ} (enough : n < 10 ^ fuel) : n < 10 ^ (natDigits fuel n).length := by
    induction fuel generalizing n with
    | zero => simpa [natDigits] using enough
    | succ fuel ih =>
      rw [natDigits]
      split
      case isTrue small => simpa using small
      case isFalse =>
        have shorter := @ih (n / 10) (by rw [pow_succ] at enough; omega)
        rw [List.length_append, List.length_singleton, pow_succ]
        omega
  exact digits (Nat.lt_log2_self.trans_le (Nat.pow_le_pow_left (by omega) _))

/-- So many bits need so many digits: 1000 bits need more than 301. -/
theorem digits_of_bits {bits count : ℕ} (fits : 2 ^ bits < 10 ^ count) :
    bits * 301 < count * 1000 := by
  by_contra few
  have thousand : 10 ^ 301 ≤ 2 ^ 1000 := by decide +kernel
  refine absurd (Nat.pow_lt_pow_left fits (show 1000 ≠ 0 by decide)) (Nat.not_lt.mpr ?_)
  calc (10 ^ count) ^ 1000 = 10 ^ (count * 1000) := (pow_mul 10 count 1000).symm
    _ ≤ 10 ^ (301 * bits) := Nat.pow_le_pow_right (by decide) (by omega)
    _ = (10 ^ 301) ^ bits := pow_mul 10 301 bits
    _ ≤ (2 ^ 1000) ^ bits := Nat.pow_le_pow_left thousand bits
    _ = (2 ^ bits) ^ 1000 := by rw [← pow_mul, ← pow_mul, Nat.mul_comm]

/-- The budget charges no more for a number than its digits and its sign. -/
theorem intCost_le (z : ℤ) : intCost z ≤ (intText z).length := by
  have digits : (max 1 (((z.natAbs.size : ℤ) - 1) * 301 / 1000 + 1)).toNat ≤
      (natText z.natAbs).length := by
    generalize z.natAbs = n
    have filled : 0 < (natText n).length := by
      have short := lt_pow_length_natText n
      by_contra none
      obtain empty : (natText n).length = 0 := by omega
      obtain rfl : n = 0 := by simpa [empty] using short
      cases empty
    by_cases positive : n.size = 0
    · rw [positive]
      exact filled
    · have least : 2 ^ (n.size - 1) ≤ n := Nat.lt_size.mp (by omega)
      have bits := digits_of_bits (least.trans_lt (lt_pow_length_natText n))
      omega
  unfold intCost intText
  split
  · have sign : (Text.ofString "-").length = 1 := rfl
    rw [List.length_append]
    omega
  · exact digits

theorem length_le_quoted (t : Text) : t.length + 2 ≤ (quoted t).length := by
  have each : ∀ c : CodePoint, 1 ≤ (escapeChar c).length := by
    intro c
    unfold escapeChar
    split
    · exact Nat.le_succ 1
    · split_ifs
      · exact le_rfl
      · exact Nat.le_of_ble_eq_true rfl
      · exact Nat.le_of_ble_eq_true rfl
  have body : t.length ≤ (t.flatMap escapeChar).length := by
    induction t with
    | nil => exact le_rfl
    | cons c t ih =>
      have first := each c
      rw [List.flatMap_cons, List.length_append, List.length_cons]
      omega
  rw [quoted, List.length_cons, List.length_append, List.length_singleton]
  omega

/-- A member and what separates it from others. -/
theorem length_renderMembers_cons (key : Text) (value : Json) (members : List (Text × Json)) :
    (Json.renderMembers canonicalStyle ((key, value) :: members)).length =
      (quoted key).length + (value.render canonicalStyle).length + 2 +
        (Json.renderMembers canonicalStyle members).length := by
  simp only [Json.renderMembers, canonicalStyle, List.length_append, List.length_singleton]
  omega

theorem length_renderItems_cons (item : Json) (items : List Json) :
    (Json.renderItems canonicalStyle (item :: items)).length =
      (item.render canonicalStyle).length + 1 +
        (Json.renderItems canonicalStyle items).length := by
  simp only [Json.renderItems, canonicalStyle, List.length_append, List.length_singleton]
  omega

/-- The first member has no comma. -/
theorem length_render_obj (members : List (Text × Json)) :
    ((Json.obj members).render canonicalStyle).length =
      2 + ((Json.renderMembers canonicalStyle members).length - 1) := by
  cases members with
  | nil => rfl
  | cons member members =>
    obtain ⟨key, value⟩ := member
    rw [length_renderMembers_cons]
    simp only [Json.render, canonicalStyle, List.length_append, List.length_singleton]
    omega

theorem length_render_arr (items : List Json) :
    ((Json.arr items).render canonicalStyle).length =
      2 + ((Json.renderItems canonicalStyle items).length - 1) := by
  cases items with
  | nil => rfl
  | cons item items =>
    rw [length_renderItems_cons]
    simp only [Json.render, List.length_append, List.length_singleton]
    omega

theorem length_renderMembers_perm {members members' : List (Text × Json)}
    (perm : members.Perm members') :
    (Json.renderMembers canonicalStyle members).length =
      (Json.renderMembers canonicalStyle members').length := by
  induction perm with
  | nil => rfl
  | cons member _ ih =>
    obtain ⟨key, value⟩ := member
    rw [length_renderMembers_cons, length_renderMembers_cons, ih]
  | swap first second members =>
    obtain ⟨key, value⟩ := first
    obtain ⟨key', value'⟩ := second
    simp only [length_renderMembers_cons]
    omega
  | trans _ _ first second => exact first.trans second

mutual

/-- Sorting keys does not change the length. -/
theorem length_render_sortKeys : ∀ value : Json,
    (value.sortKeys.render canonicalStyle).length = (value.render canonicalStyle).length
  | .null => rfl
  | .bool _ => rfl
  | .int _ => rfl
  | .float _ => rfl
  | .str _ => rfl
  | .arr items => by
    rw [Json.sortKeys, length_render_arr, length_render_arr, length_renderItems_sortKeys items]
  | .obj members => by
    rw [Json.sortKeys, length_render_obj, length_render_obj,
      length_renderMembers_perm (Json.sortMembers_perm _), length_renderMembers_sortKeys members]

theorem length_renderItems_sortKeys : ∀ items : List Json,
    (Json.renderItems canonicalStyle (Json.sortKeysItems items)).length =
      (Json.renderItems canonicalStyle items).length
  | [] => rfl
  | item :: items => by
    rw [Json.sortKeysItems, length_renderItems_cons, length_renderItems_cons,
      length_render_sortKeys item, length_renderItems_sortKeys items]

theorem length_renderMembers_sortKeys : ∀ members : List (Text × Json),
    (Json.renderMembers canonicalStyle (Json.sortKeysMembers members)).length =
      (Json.renderMembers canonicalStyle members).length
  | [] => rfl
  | (key, value) :: members => by
    rw [Json.sortKeysMembers, length_renderMembers_cons, length_renderMembers_cons,
      length_render_sortKeys value, length_renderMembers_sortKeys members]

end

mutual

/-- **The budget is sound.** It never charges more than what is written. -/
theorem cost_le_length_render : ∀ value : Json,
    cost value ≤ (value.render canonicalStyle).length
  | .null => le_rfl
  | .bool true => le_rfl
  | .bool false => le_rfl
  | .int z => intCost_le z
  | .float _ => Nat.zero_le _
  | .str t => length_le_quoted t
  | .arr [] => le_rfl
  | .arr (item :: items) => by
    have inner := itemsCost_le (item :: items)
    rw [List.length_cons] at inner
    rw [length_render_arr, cost, bracketCost, List.length_cons]
    omega
  | .obj [] => le_rfl
  | .obj (member :: members) => by
    have inner := membersCost_le (member :: members)
    rw [List.length_cons] at inner
    rw [length_render_obj, cost, bracketCost, List.length_cons]
    omega

theorem itemsCost_le : ∀ items : List Json,
    items.length + itemsCost items ≤ (Json.renderItems canonicalStyle items).length
  | [] => le_rfl
  | item :: items => by
    have first := cost_le_length_render item
    have rest := itemsCost_le items
    rw [length_renderItems_cons, itemsCost, List.length_cons]
    omega

theorem membersCost_le : ∀ members : List (Text × Json),
    members.length + membersCost members ≤ (Json.renderMembers canonicalStyle members).length
  | [] => le_rfl
  | (key, value) :: members => by
    have first := cost_le_length_render value
    have named := length_le_quoted key
    have rest := membersCost_le members
    rw [length_renderMembers_cons, membersCost, List.length_cons]
    omega

end

/-- A value is written if it has no float, is not too deep, can be dumped and is not too
long as it stands. -/
theorem canonicalJsonBytes_isOk {depth : ℕ} {value : Json} (free : floatFree value = true)
    (deep : depth + height value ≤ maxDepth) (dumpable : value.dumpable = true) :
    (∃ data, canonicalJsonBytes depth value = .ok data) ↔
      (value.render canonicalStyle).length ≤ maxCanonicalBytes := by
  simp only [canonicalJsonBytes_eq_ok]
  constructor
  · rintro ⟨data, -, -, -, -, rfl, short⟩
    rwa [Text.length_ascii, length_render_sortKeys] at short
  · intro short
    refine ⟨_, free, deep, (cost_le_length_render value).trans short, dumpable, rfl, ?_⟩
    rwa [Text.length_ascii, length_render_sortKeys]

/-- **The size budget.** A value without floats of depth at most 64 passes any budget that
covers its encoding and is charged no more than that, and it is written if and only if its
encoding is not too long and none of its integers is too long to be printed. -/
theorem canonical_size_budget {value : Json} (free : floatFree value = true)
    (deep : height value ≤ maxDepth) :
    (∀ budget, (value.render canonicalStyle).length ≤ budget →
      ∃ rest, normalizeCanonical value 0 budget = .ok rest ∧
        budget - rest ≤ (value.render canonicalStyle).length) ∧
    ((∃ data, canonicalJsonBytes 0 value = .ok data) ↔
      (value.render canonicalStyle).length ≤ maxCanonicalBytes ∧ value.dumpable = true) := by
  have charged := cost_le_length_render value
  refine ⟨fun budget covers => ⟨budget - cost value, ?_, by omega⟩, fun written => ?_, ?_⟩
  · exact (normalizeCanonical_eq_ok value 0 budget _).mpr ⟨free, by omega, by omega⟩
  · obtain ⟨data, written⟩ := written
    have dumpable := (canonicalJsonBytes_eq_ok.mp written).2.2.2.1
    exact ⟨(canonicalJsonBytes_isOk free (by omega) dumpable).mp ⟨data, written⟩, dumpable⟩
  · exact fun ⟨short, dumpable⟩ => (canonicalJsonBytes_isOk free (by omega) dumpable).mpr short

/-- An object of a list with a negative and a long integer, and of a text to be quoted. -/
def sampleNested : Json :=
  .obj [("counts", .arr [.int (-17), .arr [.int 123456789012345678901234567890, .bool true]]),
    ("note", .str (Text.ofString "a\"b\n" ++ [0xe9])), ("rest", .obj [("none", .null)])]

/-- It is charged no more than its 97 characters, and it is written. -/
theorem canonical_size_budget_nested :
    (sampleNested.render canonicalStyle).length = 97 ∧
      (∃ rest, normalizeCanonical sampleNested 0 97 = .ok rest ∧ 97 - rest ≤ 97) ∧
      ∃ data, canonicalJsonBytes 0 sampleNested = .ok data := by
  have length : (sampleNested.render canonicalStyle).length = 97 := by decide +kernel
  have free : floatFree sampleNested = true := by decide +kernel
  obtain ⟨charged, written⟩ := canonical_size_budget free (by decide +kernel)
  rw [length] at charged written
  exact ⟨length, charged 97 le_rfl, written.mpr ⟨by decide, by decide +kernel⟩⟩

/-- The number of digits of a power of ten. -/
theorem length_natText_pow (k : ℕ) : (natText (10 ^ k)).length = k + 1 := by
  have least := (Nat.pow_lt_pow_iff_right (by decide)).mp (lt_pow_length_natText (10 ^ k))
  have most : (natText (10 ^ k)).length ≤ k + 1 :=
    length_natDigits_le_of_lt (Nat.pow_lt_pow_right (by decide) (Nat.lt_succ_self k))
      (Nat.succ_pos k)
  omega

/-- An integer of 4301 digits fits the size limit and is not written. -/
theorem canonicalJsonBytes_long_integer :
    ¬ ∀ value : Json, floatFree value = true → height value ≤ maxDepth →
      ((∃ data, canonicalJsonBytes 0 value = .ok data) ↔
        (value.render canonicalStyle).length ≤ maxCanonicalBytes) := by
  intro claimed
  have digits := length_natText_pow 4300
  generalize large : 10 ^ 4300 = n at digits
  have same : intText (n : ℤ) = natText n := by
    rw [intText, if_neg (by omega), Int.natAbs_natCast]
  have fits : ((Json.int n).render canonicalStyle).length ≤ maxCanonicalBytes := by
    rw [Json.render, same, digits]
    exact Nat.le_of_ble_eq_true rfl
  obtain ⟨data, written⟩ := (claimed (.int n) rfl (Nat.zero_le _)).mpr fits
  have dumpable := (canonicalJsonBytes_eq_ok.mp written).2.2.2.1
  rw [Json.dumpable, decide_eq_true_eq, Int.natAbs_natCast, digits] at dumpable
  omega

/-! ## The round trip -/

theorem faithful_canonicalHooks : canonicalHooks.Faithful canonicalStyle False where
  ints _ short := pythonInt_intText short
  floats impossible := impossible.elim
  pairs _ distinct := strictPairs_of_nodup distinct

/-- What the reader returns is written as what was read. -/
theorem canonicalJsonBytes_of_parse {data : Bytes} {value : Json}
    (read : parseCanonicalJson data = .ok value) : canonicalJsonBytes 0 value = .ok data := by
  simp only [parseCanonicalJson, bind_eq_ok, require_eq_ok, demand_eq_ok, pure_eq_ok] at read
  obtain ⟨-, -, text, -, document, -, again, written, -, rfl, rfl⟩ := read
  exact written

/-- What the reader returns repeats no key. -/
theorem distinct_of_parse {data : Bytes} {value : Json}
    (read : parseCanonicalJson data = .ok value) : value.Distinct := by
  simp only [parseCanonicalJson, bind_eq_ok, require_eq_ok, demand_eq_ok, pure_eq_ok] at read
  obtain ⟨-, -, text, -, document, loaded, -, -, -, -, rfl⟩ := read
  exact Json.distinct_of_loads (strict_strictPairs _ _ _) loaded

/-- A document that can be read is read back, with its keys sorted. -/
theorem parse_of_readable {value : Json} {data : Bytes}
    (readable : value.sortKeys.Readable canonicalHooks canonicalStyle)
    (written : canonicalJsonBytes 0 value = .ok data) :
    parseCanonicalJson data = .ok value.sortKeys := by
  have again : canonicalJsonBytes 0 value.sortKeys = .ok data :=
    canonicalJsonBytes_of_same (Json.sortKeys_sortKeys value).1.symm written
  obtain ⟨-, -, -, -, rfl, short⟩ := canonicalJsonBytes_eq_ok.mp written
  have printable : (value.sortKeys.render canonicalStyle).IsPrintable :=
    printable_render (by decide) (by decide) _ readable
  have decoded : asciiDecode (value.sortKeys.render canonicalStyle).ascii =
      some (value.sortKeys.render canonicalStyle) :=
    asciiDecode_ascii fun c member => by have := printable c member; omega
  simp only [parseCanonicalJson, bind_eq_ok, require_eq_ok, demand_eq_ok, pure_eq_ok]
  exact ⟨(), short, _, decoded, _, loads_render rfl rfl readable, _, again, (), rfl, rfl⟩

/-- A document that is written is read back, with its keys sorted. -/
theorem parse_canonicalJsonBytes {value : Json} {data : Bytes} (plain : value.Plain False)
    (written : canonicalJsonBytes 0 value = .ok data) :
    parseCanonicalJson data = .ok value.sortKeys :=
  have dumpable := (canonicalJsonBytes_eq_ok.mp written).2.2.2.1
  parse_of_readable (Json.readable_sortKeys faithful_canonicalHooks value plain dumpable) written

end Cathedral.Provider
