import CathedralCompute.Semantics.Transaction
import Mathlib.Data.List.Basic

/-!
# Walks with a stack

A walk takes a node from a stack, checks it, and puts its children on top, the last of
them topmost. It stops at the first check that fails, or when it has taken as many
nodes as it may. What it visits is the nodes below the stack in a fixed order, whatever
the checks say.

## Main results

* `walk_eq` — a walk checks the nodes in order
* `inOrder_eq_ok`, `inOrder_eq_error` — how a check in order ends
-/

set_option autoImplicit false

namespace Semantics

variable {ν ε : Type}

/-- The walk, which may take `budget` nodes. -/
def walk (check : ν → Except ε Unit) (full : ε) (children : ν → List ν) :
    ℕ → List ν → Except ε Unit
  | _, [] => .ok ()
  | 0, _ :: _ => .error full
  | budget + 1, node :: stack => do
    check node
    walk check full children budget ((children node).reverse ++ stack)

/-- Check nodes in order, at most `budget` of them. -/
def inOrder (check : ν → Except ε Unit) (full : ε) : ℕ → List ν → Except ε Unit
  | _, [] => .ok ()
  | 0, _ :: _ => .error full
  | budget + 1, node :: nodes => do
    check node
    inOrder check full budget nodes

variable {check : ν → Except ε Unit} {full : ε} {children : ν → List ν}

/-- **Order.** A walk checks every node before those below it, and last children
first. -/
theorem walk_eq {below : ν → List ν}
    (unfolds : ∀ node, below node = node :: (children node).reverse.flatMap below)
    (budget : ℕ) (stack : List ν) :
    walk check full children budget stack = inOrder check full budget (stack.flatMap below) := by
  induction budget generalizing stack with
  | zero =>
    cases stack with
    | nil => rfl
    | cons node stack => rw [List.flatMap_cons, unfolds]; rfl
  | succ budget ih =>
    cases stack with
    | nil => rfl
    | cons node stack =>
      rw [List.flatMap_cons, unfolds, List.cons_append, walk, inOrder, ih, List.flatMap_append]

/-- A check in order succeeds when there are few enough nodes and none fails. -/
theorem inOrder_eq_ok {budget : ℕ} {nodes : List ν} :
    inOrder check full budget nodes = .ok () ↔
      nodes.length ≤ budget ∧ ∀ node ∈ nodes, check node = .ok () := by
  induction nodes generalizing budget with
  | nil => simp [inOrder]
  | cons node nodes ih =>
    cases budget with
    | zero => simp [inOrder]
    | succ budget =>
      simp only [inOrder, bind_eq_ok, ih, List.length_cons, List.forall_mem_cons]
      constructor
      · rintro ⟨_, first, short, rest⟩
        exact ⟨Nat.succ_le_succ short, first, rest⟩
      · rintro ⟨short, first, rest⟩
        exact ⟨(), first, Nat.le_of_succ_le_succ short, rest⟩

/-- A check in order fails at the first node that fails, or at the first that is one
too many. -/
theorem inOrder_eq_error {budget : ℕ} {nodes : List ν} {failure : ε} :
    inOrder check full budget nodes = .error failure ↔
      ∃ before node after, nodes = before ++ node :: after ∧
        (∀ earlier ∈ before, check earlier = .ok ()) ∧
        (before.length < budget ∧ check node = .error failure ∨
          before.length = budget ∧ full = failure) := by
  induction nodes generalizing budget with
  | nil => simp [inOrder]
  | cons node nodes ih =>
    cases budget with
    | zero =>
      constructor
      · rintro ⟨⟩
        exact ⟨[], node, nodes, rfl, by simp, .inr ⟨rfl, rfl⟩⟩
      · rintro ⟨_, _, _, _, _, ⟨short, _⟩ | ⟨_, rfl⟩⟩
        · exact absurd short (Nat.not_lt_zero _)
        · rfl
    | succ budget =>
      rw [inOrder, bind_eq_error]
      constructor
      · rintro (first | ⟨_, fine, later⟩)
        · exact ⟨[], node, nodes, rfl, by simp, .inl ⟨Nat.succ_pos _, first⟩⟩
        · obtain ⟨before, other, after, rfl, earlier, ends⟩ := ih.mp later
          refine ⟨node :: before, other, after, rfl, List.forall_mem_cons.mpr ⟨fine, earlier⟩, ?_⟩
          rw [List.length_cons]
          exact ends.imp (fun h => ⟨Nat.succ_lt_succ h.1, h.2⟩) fun h => ⟨congrArg _ h.1, h.2⟩
      · rintro ⟨before, other, after, split, earlier, ends⟩
        cases before with
        | nil =>
          obtain ⟨rfl, rfl⟩ := List.cons.inj split
          rcases ends with ⟨_, failed⟩ | ⟨none, _⟩
          · exact .inl failed
          · cases none
        | cons first before =>
          obtain ⟨rfl, rfl⟩ := List.cons.inj split
          obtain ⟨fine, earlier⟩ := List.forall_mem_cons.mp earlier
          rw [List.length_cons] at ends
          exact .inr ⟨(), fine, ih.mpr ⟨before, other, after, rfl, earlier, ends.imp
            (fun h => ⟨Nat.lt_of_succ_lt_succ h.1, h.2⟩) fun h => ⟨Nat.succ.inj h.1, h.2⟩⟩⟩

end Semantics
