import CathedralCompute.Codec.Text

/-!
# Fixed layouts

Parts of a sequence cut at offsets, numbers in little-endian order, and the first place
of a pattern. Offsets that lie end to end cut a sequence into parts whose concatenation
it is, and cut a concatenation into its parts.

## Main definitions

* `slice`, `Tiles` — a part, and spans that lie end to end
* `littleEndian`, `littleEndianValue` — numbers as octets
* `find` — the first place of a pattern

## Main results

* `flatten_slices`, `slices_flatten` — cutting and joining are inverse
* `littleEndian_value`, `littleEndianValue_littleEndian` — so are writing and reading
-/

set_option autoImplicit false

namespace Codec

section Cutting

variable {α : Type} {data front back : List α} {spans : List (ℕ × ℕ)} {start stop : ℕ}

/-- `data[start:stop]`. -/
def slice (data : List α) (start stop : ℕ) : List α := (data.take stop).drop start

theorem length_slice (within : stop ≤ data.length) :
    (slice data start stop).length = stop - start := by
  rw [slice, List.length_drop, List.length_take, min_eq_left within]

theorem slice_slice {first last : ℕ} (within : start + last ≤ stop) :
    slice (slice data start stop) first last = slice data (start + first) (start + last) := by
  simp only [slice, List.take_drop, List.drop_drop, List.take_take]
  rw [min_eq_left within]

theorem slice_length : slice data 0 data.length = data := by
  rw [slice, List.take_length, List.drop_zero]

theorem slice_eq_take : slice data start stop = (data.drop start).take (stop - start) :=
  List.drop_take

theorem slice_append_slice {middle : ℕ} (low : start ≤ middle) (high : middle ≤ stop) :
    slice data start middle ++ slice data middle stop = slice data start stop := by
  have later : data.drop middle = (data.drop start).drop (middle - start) := by
    rw [List.drop_drop, Nat.add_sub_cancel' low]
  have lengths : stop - start = (middle - start) + (stop - middle) := by omega
  rw [slice_eq_take, slice_eq_take, slice_eq_take, later, lengths, List.take_add]

/-- What stands between two lengths is cut out by them. -/
theorem slice_append (at_ : front.length = start) (length : data.length = stop - start) :
    slice (front ++ data ++ back) start stop = data := by
  subst at_
  rw [List.append_assoc, slice_eq_take, List.drop_left, ← length, List.take_left]

/-- The spans lie end to end between two offsets. -/
def Tiles : ℕ → List (ℕ × ℕ) → ℕ → Prop
  | start, [], stop => start = stop
  | start, (first, last) :: spans, stop => start = first ∧ first ≤ last ∧ Tiles last spans stop

def decideTiles : ∀ start spans stop, Decidable (Tiles start spans stop)
  | start, [], stop => inferInstanceAs (Decidable (start = stop))
  | _, (_, last) :: spans, stop =>
    have := decideTiles last spans stop
    inferInstanceAs (Decidable (_ ∧ _ ∧ _))

instance (start : ℕ) (spans : List (ℕ × ℕ)) (stop : ℕ) : Decidable (Tiles start spans stop) :=
  decideTiles start spans stop

theorem Tiles.le (tiles : Tiles start spans stop) : start ≤ stop := by
  induction spans generalizing start with
  | nil => exact le_of_eq tiles
  | cons span spans ih =>
    obtain ⟨rfl, within, rest⟩ := tiles
    exact within.trans (ih rest)

/-- Parts that are cut end to end are what lies between. -/
theorem flatten_slices (tiles : Tiles start spans stop) :
    (spans.map fun span => slice data span.1 span.2).flatten = slice data start stop := by
  induction spans generalizing start with
  | nil =>
    obtain rfl : start = stop := tiles
    rw [List.map_nil, List.flatten_nil, slice, List.drop_eq_nil_of_le (List.length_take_le _ _)]
  | cons span spans ih =>
    obtain ⟨rfl, within, rest⟩ := tiles
    rw [List.map_cons, List.flatten_cons, ih rest, slice_append_slice within rest.le]

/-- Parts that are cut end to end have the lengths of the spans. -/
theorem length_slices (tiles : Tiles start spans stop) (within : stop ≤ data.length) :
    (spans.map fun span => slice data span.1 span.2).map List.length =
      spans.map fun span => span.2 - span.1 := by
  induction spans generalizing start with
  | nil => rfl
  | cons span spans ih =>
    obtain ⟨rfl, -, rest⟩ := tiles
    rw [List.map_cons, List.map_cons, List.map_cons, ih rest,
      length_slice (rest.le.trans within)]

/-- Parts of the right lengths are cut out of their concatenation. -/
theorem slices_flatten {parts : List (List α)} (tiles : Tiles start spans stop)
    (at_ : front.length = start)
    (fit : parts.map List.length = spans.map fun span => span.2 - span.1) :
    (spans.map fun span => slice (front ++ parts.flatten ++ back) span.1 span.2) = parts := by
  induction spans generalizing start parts front with
  | nil => rw [List.map_nil, List.map_eq_nil_iff.mp fit]
  | cons span spans ih =>
    obtain ⟨rfl, within, rest⟩ := tiles
    cases parts with
    | nil => cases fit
    | cons part parts =>
      rw [List.map_cons, List.map_cons, List.cons.injEq] at fit
      have next := @ih (front ++ part) _ parts rest
        (by rw [List.length_append, at_, fit.1, Nat.add_sub_cancel' within]) fit.2
      have whole : front ++ (part :: parts).flatten ++ back = front ++ part ++ parts.flatten ++ back := by
        rw [List.flatten_cons, List.append_assoc front part]
      have first : slice (front ++ part ++ parts.flatten ++ back) span.1 span.2 = part := by
        rw [List.append_assoc (front ++ part)]
        exact slice_append at_ fit.1
      rw [List.map_cons, whole, next, first]

/-- Parts of the right lengths are cut out of what starts with them. -/
theorem slices_of_parts {parts : List (List α)} (tiles : Tiles 0 spans stop)
    (fit : parts.map List.length = spans.map fun span => span.2 - span.1) :
    (spans.map fun span => slice (parts.flatten ++ back) span.1 span.2) = parts :=
  @slices_flatten _ [] back spans 0 stop parts tiles rfl fit

theorem length_flatten_of_tiles {parts : List (List α)} (tiles : Tiles start spans stop)
    (fit : parts.map List.length = spans.map fun span => span.2 - span.1) :
    start + parts.flatten.length = stop := by
  rw [List.length_flatten, fit]
  clear fit
  induction spans generalizing start with
  | nil => exact tiles
  | cons span spans ih =>
    obtain ⟨rfl, within, rest⟩ := tiles
    have next := ih rest
    rw [List.map_cons, List.sum_cons]
    omega

end Cutting

/-! ## Little-endian numbers -/

/-- A number in so many octets, the lowest first. -/
def littleEndian : ℕ → ℕ → Bytes
  | 0, _ => []
  | count + 1, n => .ofNat (n % 256) :: littleEndian count (n / 256)

/-- `int.from_bytes(octets, "little")`. -/
def littleEndianValue : Bytes → ℕ
  | [] => 0
  | octet :: octets => octet.toNat + 256 * littleEndianValue octets

@[simp] theorem length_littleEndian (count n : ℕ) : (littleEndian count n).length = count := by
  induction count generalizing n with
  | zero => rfl
  | succ count ih => rw [littleEndian, List.length_cons, ih]

theorem littleEndianValue_littleEndian {count n : ℕ} (small : n < 256 ^ count) :
    littleEndianValue (littleEndian count n) = n := by
  induction count generalizing n with
  | zero =>
    obtain rfl : n = 0 := by simpa using small
    rfl
  | succ count ih =>
    have low : (UInt8.ofNat (n % 256)).toNat = n % 256 := by
      rw [UInt8.toNat_ofNat', Nat.mod_eq_of_lt (by omega)]
    rw [Nat.pow_succ'] at small
    rw [littleEndian, littleEndianValue, ih (Nat.div_lt_of_lt_mul small), low]
    omega

theorem littleEndian_value (octets : Bytes) :
    littleEndian octets.length (littleEndianValue octets) = octets := by
  induction octets with
  | nil => rfl
  | cons octet octets ih =>
    have low : (octet.toNat + 256 * littleEndianValue octets) % 256 = octet.toNat := by
      have := octet.toNat_lt
      omega
    have high : (octet.toNat + 256 * littleEndianValue octets) / 256 =
        littleEndianValue octets := by
      have := octet.toNat_lt
      omega
    rw [List.length_cons, littleEndianValue, littleEndian, low, high, ih, UInt8.ofNat_toNat]

theorem littleEndianValue_lt (octets : Bytes) :
    littleEndianValue octets < 256 ^ octets.length := by
  induction octets with
  | nil => exact Nat.one_pos
  | cons octet octets ih =>
    have := octet.toNat_lt
    rw [littleEndianValue, List.length_cons, Nat.pow_succ']
    omega

/-! ## Patterns -/

section Pattern

variable {α : Type} [DecidableEq α]

/-- `data.find(pattern)`. -/
def find (pattern : List α) : List α → Option ℕ
  | [] => if pattern = [] then some 0 else none
  | a :: data => if pattern.isPrefixOf (a :: data) then some 0 else (find pattern data).map (· + 1)

/-- A pattern is found where its first element first occurs. -/
theorem find_append {a : α} {pattern before after : List α} (absent : a ∉ before) :
    find (a :: pattern) (before ++ (a :: pattern ++ after)) = some before.length := by
  induction before with
  | nil =>
    have here : (a :: pattern).isPrefixOf (a :: (pattern ++ after)) = true :=
      List.isPrefixOf_iff_prefix.mpr (List.prefix_append (a :: pattern) after)
    rw [List.nil_append, List.cons_append, find, if_pos here, List.length_nil]
  | cons b before ih =>
    obtain ⟨other, absent⟩ := not_or.mp (mt List.mem_cons.mpr absent)
    have elsewhere : (a :: pattern).isPrefixOf (b :: (before ++ (a :: pattern ++ after))) = false := by
      rw [List.isPrefixOf, beq_eq_false_iff_ne.mpr other, Bool.false_and]
    rw [List.cons_append, find, elsewhere, ih absent]
    rfl

end Pattern

end Codec
