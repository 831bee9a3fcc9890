import Mathlib.Data.Finset.Card
import Mathlib.Data.Finset.Image

/-!
# Bounded rosters

A roster is a finite set of members, each with a place and possibly an owner. It
is within its bounds if it has not too many members, no two members share a
place, and no owner holds too many places.

Members may leave freely. A member that comes, or changes its place or its owner,
needs room among the others.
-/

set_option autoImplicit false

namespace Semantics

/-- Members with their places and owners. -/
structure Roster (α β γ : Type) where
  members : Finset α
  place : α → β
  owner : α → Option γ

namespace Roster

variable {α β γ : Type} [DecidableEq β] [DecidableEq γ]

/-- The places an owner holds through the given members. -/
def placesOf (r : Roster α β γ) (among : Finset α) (key : γ) : Finset β :=
  (among.filter fun a => r.owner a = some key).image r.place

/-- The places an owner holds. -/
def held (r : Roster α β γ) (key : γ) : Finset β := r.placesOf r.members key

/-- The bounds on a roster. -/
structure Within (total perOwner : ℕ) (r : Roster α β γ) : Prop where
  total : r.members.card ≤ total
  apart : ∀ a ∈ r.members, ∀ b ∈ r.members, r.place a = r.place b → a = b
  owners : ∀ key, (r.held key).card ≤ perOwner

/-- The rosters are the same for the given members. -/
structure AgreesOn (among : Finset α) (r r' : Roster α β γ) : Prop where
  place : ∀ a ∈ among, r'.place a = r.place a
  owner : ∀ a ∈ among, r'.owner a = r.owner a

variable {total perOwner : ℕ} {r r' : Roster α β γ} {among : Finset α} {a : α}

theorem AgreesOn.placesOf (agrees : AgreesOn among r r') (key : γ) :
    r'.placesOf among key = r.placesOf among key := by
  unfold Roster.placesOf
  rw [Finset.filter_congr fun b member => by rw [agrees.owner b member]]
  refine Finset.image_congr fun b member => ?_
  exact agrees.place b (Finset.mem_filter.mp member).1

theorem placesOf_mono {fewer : Finset α} (subset : fewer ⊆ among) (key : γ) :
    r.placesOf fewer key ⊆ r.placesOf among key :=
  Finset.image_subset_image (Finset.filter_subset_filter _ subset)

/-- Leaving keeps the bounds. -/
theorem Within.leave (within : Within total perOwner r) (fewer : r'.members ⊆ r.members)
    (agrees : AgreesOn r'.members r r') : Within total perOwner r' where
  total := (Finset.card_le_card fewer).trans within.total
  apart first member second member' same := by
    rw [agrees.place first member, agrees.place second member'] at same
    exact within.apart first (fewer member) second (fewer member') same
  owners key := by
    unfold held
    rw [agrees.placesOf key]
    exact (Finset.card_le_card (placesOf_mono fewer key)).trans (within.owners key)

variable [DecidableEq α]

/-- Coming or changing keeps the bounds, if the others leave room. -/
theorem Within.enter (within : Within total perOwner r)
    (others : r'.members.erase a = r.members.erase a)
    (agrees : AgreesOn (r.members.erase a) r r') (room : (r.members.erase a).card < total)
    (free : ∀ b ∈ r.members.erase a, r.place b ≠ r'.place a)
    (share : ∀ key, r'.owner a = some key → (r.placesOf (r.members.erase a) key).card < perOwner) :
    Within total perOwner r' := by
  have split : r'.members ⊆ insert a (r.members.erase a) := by
    rw [← others]
    exact Finset.subset_insert_iff.mpr (Finset.Subset.refl _)
  refine ⟨?_, ?_, fun key => ?_⟩
  · calc r'.members.card ≤ (insert a (r.members.erase a)).card := Finset.card_le_card split
      _ ≤ (r.members.erase a).card + 1 := Finset.card_insert_le _ _
      _ ≤ total := room
  · intro first member second member' same
    rcases Finset.mem_insert.mp (split member) with rfl | other
    · rcases Finset.mem_insert.mp (split member') with rfl | other'
      · rfl
      · rw [agrees.place second other'] at same
        exact absurd same.symm (free second other')
    · rcases Finset.mem_insert.mp (split member') with rfl | other'
      · rw [agrees.place first other] at same
        exact absurd same (free first other)
      · rw [agrees.place first other, agrees.place second other'] at same
        exact within.apart first (Finset.mem_of_mem_erase other) second
          (Finset.mem_of_mem_erase other') same
  · -- the others' places, and that of the member if it is the owner's
    have bound : (r'.placesOf (insert a (r.members.erase a)) key).card ≤ perOwner := by
      have old := agrees.placesOf key
      unfold placesOf at old ⊢
      rw [Finset.filter_insert]
      by_cases own : r'.owner a = some key
      · rw [if_pos own, Finset.image_insert, old]
        exact (Finset.card_insert_le _ _).trans (share key own)
      · rw [if_neg own, old]
        have fewer := placesOf_mono (r := r) (Finset.erase_subset a r.members) key
        exact (Finset.card_le_card fewer).trans (within.owners key)
    exact (Finset.card_le_card (placesOf_mono split key)).trans bound

/-- A member holds a place of its own: without it, its owner holds less. -/
theorem Within.share_of_member (within : Within total perOwner r) (member : a ∈ r.members) {key : γ}
    (own : r.owner a = some key) : (r.placesOf (r.members.erase a) key).card < perOwner := by
  have fresh : r.place a ∉ r.placesOf (r.members.erase a) key := by
    intro inside
    obtain ⟨b, other, same⟩ := Finset.mem_image.mp inside
    obtain ⟨different, member'⟩ := Finset.mem_erase.mp (Finset.mem_filter.mp other).1
    exact different (within.apart b member' a member same)
  have whole : r.held key = insert (r.place a) (r.placesOf (r.members.erase a) key) := by
    unfold held placesOf
    rw [← Finset.image_insert, ← Finset.insert_erase member, Finset.filter_insert, if_pos own,
      Finset.erase_insert (Finset.notMem_erase a _)]
  have bound := within.owners key
  rw [whole, Finset.card_insert_of_notMem fresh] at bound
  exact bound

end Roster

end Semantics
