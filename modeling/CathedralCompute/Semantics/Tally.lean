import Mathlib.Algebra.BigOperators.Group.List.Basic
import Mathlib.Algebra.Order.Monoid.Defs
import Mathlib.Data.List.Nodup

/-!
# Tallies

A tally lists amounts by key, each key once. Adding to a key changes its amount and
the total by what is added, and no other amount; a batch of additions changes them by
the amounts of the batch.

## Main definitions

* `amount`, `total` — the amount of a key, the sum of all
* `add`, `addAll` — add to one key, to several in turn

## Main results

* `amount_add`, `total_add` — one addition
* `keys_addAll`, `amount_addAll`, `total_addAll` — a batch of additions
-/

set_option autoImplicit false

namespace Semantics.Tally

variable {κ K : Type} [AddCommMonoid K]

/-- The sum of all amounts. -/
def total (tally : List (κ × K)) : K := (tally.map Prod.snd).sum

@[simp] theorem total_nil : total ([] : List (κ × K)) = 0 := rfl

@[simp] theorem total_cons (entry : κ × K) (tally : List (κ × K)) :
    total (entry :: tally) = entry.2 + total tally := by
  rw [total, List.map_cons, List.sum_cons, total]

variable [DecidableEq κ]

/-- The amount of a key, nothing for a key that is not listed. -/
def amount : List (κ × K) → κ → K
  | [], _ => 0
  | entry :: tally, k => if entry.1 = k then entry.2 else amount tally k

/-- Add to the amount of a key, which is listed if it was not. -/
def add : List (κ × K) → κ → K → List (κ × K)
  | [], k, more => [(k, 0 + more)]
  | entry :: tally, k, more =>
    if entry.1 = k then (entry.1, entry.2 + more) :: tally else entry :: add tally k more

/-- Add the amounts of a list in turn. -/
def addAll (tally entries : List (κ × K)) : List (κ × K) :=
  entries.foldl (fun tally entry => add tally entry.1 entry.2) tally

@[simp] theorem amount_nil (k : κ) : amount ([] : List (κ × K)) k = 0 := rfl

@[simp] theorem addAll_nil (tally : List (κ × K)) : addAll tally [] = tally := rfl

theorem addAll_cons (tally entries : List (κ × K)) (entry : κ × K) :
    addAll tally (entry :: entries) = addAll (add tally entry.1 entry.2) entries := rfl

/-! ## Reading -/

/-- A key that is not listed has nothing. -/
theorem amount_eq_zero {tally : List (κ × K)} {k : κ} (absent : k ∉ tally.map Prod.fst) :
    amount tally k = 0 := by
  induction tally with
  | nil => rfl
  | cons entry tally ih =>
    rw [List.map_cons, List.mem_cons, not_or] at absent
    rw [amount, if_neg (Ne.symm absent.1), ih absent.2]

/-- The amount of a listed entry. -/
theorem amount_of_mem {tally : List (κ × K)} (distinct : (tally.map Prod.fst).Nodup)
    {entry : κ × K} (member : entry ∈ tally) : amount tally entry.1 = entry.2 := by
  induction tally with
  | nil => simp at member
  | cons first tally ih =>
    rw [List.map_cons, List.nodup_cons] at distinct
    rw [amount]
    rcases List.mem_cons.mp member with rfl | later
    · rw [if_pos rfl]
    · have other : first.1 ≠ entry.1 := by
        intro same
        exact distinct.1 (same ▸ List.mem_map_of_mem later)
      rw [if_neg other, ih distinct.2 later]

/-- What holds of nothing and of every entry holds of every amount. -/
theorem amount_induction {p : K → Prop} {tally : List (κ × K)} (zero : p 0)
    (entries : ∀ entry ∈ tally, p entry.2) (k : κ) : p (amount tally k) := by
  induction tally with
  | nil => exact zero
  | cons entry tally ih =>
    rw [amount]
    split
    · exact entries entry List.mem_cons_self
    · exact ih fun other member => entries other (List.mem_cons_of_mem entry member)

/-- Changing the amounts one by one changes the amount of each key alike. -/
theorem amount_map {L : Type} [AddCommMonoid L] {g : K → L} (zero : g 0 = 0)
    (tally : List (κ × K)) (k : κ) :
    amount (tally.map fun entry => (entry.1, g entry.2)) k = g (amount tally k) := by
  induction tally with
  | nil => exact zero.symm
  | cons entry tally ih =>
    rw [List.map_cons, amount, amount]
    split
    · rfl
    · exact ih

/-! ## Adding -/

/-- Adding to a listed key lists no other. -/
theorem keys_add {tally : List (κ × K)} {k : κ} (listed : k ∈ tally.map Prod.fst) (more : K) :
    (add tally k more).map Prod.fst = tally.map Prod.fst := by
  induction tally with
  | nil => simp at listed
  | cons entry tally ih =>
    rw [add]
    split
    · rfl
    · next other =>
      have later := (List.mem_cons.mp listed).resolve_left (Ne.symm other)
      rw [List.map_cons, List.map_cons, ih later]

/-- Adding to a key adds to its amount, and to no other. -/
theorem amount_add (tally : List (κ × K)) (k : κ) (more : K) (j : κ) :
    amount (add tally k more) j = amount tally j + if k = j then more else 0 := by
  induction tally with
  | nil =>
    rw [add, zero_add, amount_nil, zero_add]
    rfl
  | cons entry tally ih =>
    rw [add]
    split
    · next own =>
      rw [amount, amount, ← own]
      split <;> simp
    · next other =>
      rw [amount, amount, ih]
      split
      · next found =>
        rw [if_neg (fun same => other (found.trans same.symm)), add_zero]
      · rfl

/-- Adding to a key adds to the total. -/
theorem total_add (tally : List (κ × K)) (k : κ) (more : K) :
    total (add tally k more) = total tally + more := by
  induction tally with
  | nil => simp [add]
  | cons entry tally ih =>
    rw [add]
    split
    · rw [total_cons, total_cons, add_right_comm]
    · rw [total_cons, total_cons, ih, add_assoc]

/-! ## Adding a batch -/

theorem keys_addAll {tally entries : List (κ × K)}
    (listed : ∀ entry ∈ entries, entry.1 ∈ tally.map Prod.fst) :
    (addAll tally entries).map Prod.fst = tally.map Prod.fst := by
  induction entries generalizing tally with
  | nil => rfl
  | cons entry entries ih =>
    have keys := keys_add (listed entry List.mem_cons_self) entry.2
    rw [addAll_cons, ih fun other member => ?_, keys]
    rw [keys]
    exact listed other (List.mem_cons_of_mem entry member)

/-- A batch with distinct keys adds its amount of each key. -/
theorem amount_addAll {entries : List (κ × K)} (distinct : (entries.map Prod.fst).Nodup)
    (tally : List (κ × K)) (k : κ) :
    amount (addAll tally entries) k = amount tally k + amount entries k := by
  induction entries generalizing tally with
  | nil => rw [addAll_nil, amount_nil, add_zero]
  | cons entry entries ih =>
    rw [List.map_cons, List.nodup_cons] at distinct
    rw [addAll_cons, ih distinct.2, amount_add, amount, add_assoc]
    split
    · next own =>
      have once : amount entries k = 0 := amount_eq_zero (own ▸ distinct.1)
      rw [once, add_zero]
    · rw [zero_add]

/-- A batch adds its total. -/
theorem total_addAll (tally entries : List (κ × K)) :
    total (addAll tally entries) = total tally + total entries := by
  induction entries generalizing tally with
  | nil => rw [addAll_nil, total_nil, add_zero]
  | cons entry entries ih => rw [addAll_cons, ih, total_add, total_cons, add_assoc]

end Semantics.Tally
