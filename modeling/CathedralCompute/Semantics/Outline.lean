import Mathlib.Algebra.GroupWithZero.Nat
import Mathlib.Data.List.Perm.Basic
import Mathlib.Tactic.Common

/-!
# Trees behind gates

A tree whose inner nodes may bar the way: what is reached through the nodes that let
through, and what stands behind those that do not. Together they are all that lies below.

## Main definitions

* `Node` — a tree with named children
* `Node.reached`, `Node.hidden` — what is reached below a node, and what is not

## Main results

* `reachedAll_perm` — what lies below is reached or stands behind a gate
* `hiddenAll_eq_nil` — behind open gates nothing is hidden
-/

set_option autoImplicit false

namespace Semantics

/-- A leaf, or a branch with named children. -/
inductive Node (α β ν : Type) where
  | leaf (a : α)
  | branch (b : β) (children : List (ν × Node α β ν))

namespace Node

variable {α β ν : Type}

mutual

/-- The nodes below one at a depth, with their depths, as far as branches let through. -/
def reached (enter : β → Bool) (depth : ℕ) : Node α β ν → List (ℕ × Node α β ν)
  | .leaf _ => []
  | .branch b children => if enter b then reachedAll enter (depth + 1) children else []

/-- Nodes at a depth, each before what is reached below it. -/
def reachedAll (enter : β → Bool) (depth : ℕ) : List (ν × Node α β ν) → List (ℕ × Node α β ν)
  | [] => []
  | (_, node) :: nodes => (depth, node) :: (reached enter depth node ++ reachedAll enter depth nodes)

end

/-- Whatever lies below. -/
def everything : β → Bool := fun _ => true

mutual

/-- What lies below a node behind branches that do not let through. -/
def hidden (enter : β → Bool) (depth : ℕ) : Node α β ν → List (ℕ × Node α β ν)
  | .leaf _ => []
  | .branch b children =>
    if enter b then hiddenAll enter (depth + 1) children
    else reachedAll everything (depth + 1) children

def hiddenAll (enter : β → Bool) (depth : ℕ) : List (ν × Node α β ν) → List (ℕ × Node α β ν)
  | [] => []
  | (_, node) :: nodes => hidden enter depth node ++ hiddenAll enter depth nodes

end

/-- What lies below is reached or stands behind a branch. -/
theorem reachedAll_perm (enter : β → Bool) : ∀ (depth : ℕ) (nodes : List (ν × Node α β ν)),
    (reachedAll everything depth nodes).Perm
      (reachedAll enter depth nodes ++ hiddenAll enter depth nodes)
  | _, [] => .refl _
  | depth, (_, .leaf _) :: nodes => .cons _ (reachedAll_perm enter depth nodes)
  | depth, (_, .branch b children) :: nodes => by
    have below : (reached everything depth (.branch b children : Node α β ν)).Perm
        (reached enter depth (.branch b children) ++ hidden enter depth (.branch b children)) := by
      unfold reached hidden
      have open_ : everything b = true := rfl
      rw [if_pos open_]
      split
      · exact reachedAll_perm enter (depth + 1) children
      · exact .refl _
    have both := below.append (reachedAll_perm enter depth nodes)
    unfold reachedAll hiddenAll
    refine .cons _ (both.trans ?_)
    -- what is hidden below the branch changes places with what is reached after it
    simp only [List.append_eq, List.append_assoc]
    refine List.Perm.append_left _ ?_
    rw [← List.append_assoc, ← List.append_assoc]
    exact List.perm_append_comm.append_right _

theorem length_reachedAll (enter : β → Bool) (depth : ℕ) (nodes : List (ν × Node α β ν)) :
    (reachedAll enter depth nodes).length =
      nodes.length + (nodes.map fun node => (reached enter depth node.2).length).sum := by
  induction nodes with
  | nil => rfl
  | cons node nodes ih =>
    obtain ⟨name, node⟩ := node
    rw [reachedAll, List.length_cons, List.length_append, ih, List.length_cons, List.map_cons,
      List.sum_cons]
    dsimp only
    omega

/-- A property of all that is reached is one of each node and of what is below it. -/
theorem forall_mem_reachedAll {enter : β → Bool} {depth : ℕ} {nodes : List (ν × Node α β ν)}
    {P : ℕ × Node α β ν → Prop} : (∀ x ∈ reachedAll enter depth nodes, P x) ↔
      (∀ node ∈ nodes, P (depth, node.2)) ∧ ∀ node ∈ nodes, ∀ x ∈ reached enter depth node.2, P x := by
  induction nodes with
  | nil => simp [reachedAll]
  | cons node nodes ih =>
    obtain ⟨name, node⟩ := node
    simp only [reachedAll, List.forall_mem_cons, List.forall_mem_append, ih]
    tauto

/-- Where every branch that is reached lets through, nothing is hidden. -/
theorem hiddenAll_eq_nil {enter : β → Bool} : ∀ {depth : ℕ} {nodes : List (ν × Node α β ν)},
    (∀ x ∈ reachedAll enter depth nodes, ∀ b children, x.2 = .branch b children →
      enter b = true) → hiddenAll enter depth nodes = []
  | _, [], _ => rfl
  | depth, (_, .leaf _) :: nodes, open_ => by
    rw [reachedAll, List.forall_mem_cons] at open_
    rw [hiddenAll, hidden, List.nil_append]
    exact hiddenAll_eq_nil open_.2
  | depth, (_, .branch b children) :: nodes, open_ => by
    rw [reachedAll, List.forall_mem_cons, List.forall_mem_append] at open_
    have through := open_.1 b children rfl
    rw [reached, if_pos through] at open_
    rw [hiddenAll, hidden, if_pos through, hiddenAll_eq_nil open_.2.1, hiddenAll_eq_nil open_.2.2,
      List.append_nil]

end Node

end Semantics
