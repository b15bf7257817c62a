import Mathlib.Tactic.Common

/-!
# Forests that grow

Nodes are numbered in the order in which they are added, and each may have a parent among those
added before it.

## Key results

- `root_le`: a root is no later than what it is the root of
- `color_root`: what nodes have in common with their parents, trees have in common
- `color_eq_iff`: with different colors at the roots, a color is a tree
-/

/-- The parents of nodes, each of them an earlier node. -/
structure Forest where
  parents : List (Option Nat)
  earlier : ∀ n m : Nat, parents[n]? = some (some m) → m < n

namespace Forest

variable (f : Forest)

/-- A node and its parent. -/
def Child (n m : Nat) : Prop :=
  f.parents[n]? = some (some m)

/-- The node that is reached over the parents. -/
def root (n : Nat) : Nat :=
  match h : f.parents[n]? with
  | some (some m) =>
    have : m < n := f.earlier n m h
    root m
  | _ => n

variable {f} {m n : Nat}

/-- The forest of some parents, as far as they are earlier nodes. -/
def ofParents (parents : List (Option Nat)) : Forest where
  parents := parents.mapIdx fun n parent => parent.filter (· < n)
  earlier n m h := by
    rw [List.getElem?_mapIdx, Option.map_eq_some_iff] at h
    obtain ⟨parent, -, h⟩ := h
    rw [Option.filter_eq_some_iff] at h
    exact of_decide_eq_true h.2

theorem child_ofParents {parents : List (Option Nat)} :
    (ofParents parents).Child n m ↔ parents[n]? = some (some m) ∧ m < n := by
  unfold Child ofParents
  rw [List.getElem?_mapIdx, Option.map_eq_some_iff]
  simp only [Option.filter_eq_some_iff, decide_eq_true_eq]
  constructor
  · rintro ⟨parent, hparent, rfl, hlt⟩
    exact ⟨hparent, hlt⟩
  · rintro ⟨hparent, hlt⟩
    exact ⟨_, hparent, rfl, hlt⟩

theorem root_of_child (h : f.Child n m) : f.root n = f.root m := by
  have h : f.parents[n]? = some (some m) := h
  rw [root]
  split
  · rename_i k hk
    rw [h] at hk
    -- `m` is the one parent of `n`
    cases hk
    rfl
  · rename_i hk
    exact absurd h (hk m)

theorem root_of_forall_not (h : ∀ m, ¬f.Child n m) : f.root n = n := by
  rw [root]
  split
  · rename_i k hk
    exact absurd hk (h k)
  · rfl

/-- Induction from the parents to their children. -/
theorem induct {P : Nat → Prop} (hroot : ∀ n, (∀ m, ¬f.Child n m) → P n)
    (hchild : ∀ n m, f.Child n m → P m → P n) (n : Nat) : P n := by
  -- A parent is an earlier node
  induction n using Nat.strongRecOn with
  | ind n ih =>
    by_cases h : ∃ m, f.Child n m
    · obtain ⟨m, hm⟩ := h
      exact hchild n m hm (ih m (f.earlier n m hm))
    · exact hroot n fun m hm => h ⟨m, hm⟩

/-- A root is no later than what it is the root of. -/
theorem root_le (n : Nat) : f.root n ≤ n := by
  induction n using induct (f := f) with
  | hroot n h => exact Nat.le_of_eq (root_of_forall_not h)
  | hchild n k hk ih =>
    rw [root_of_child hk]
    exact Nat.le_trans ih (Nat.le_of_lt (f.earlier n k hk))

/-! ## Colors -/

variable {γ : Type*} {color : Nat → γ}

/-- What nodes have in common with their parents, they have in common with their root. -/
theorem color_root (h : ∀ n m, f.Child n m → color n = color m) (n : Nat) :
    color n = color (f.root n) := by
  induction n using induct (f := f) with
  | hroot n hn => rw [root_of_forall_not hn]
  | hchild n k hk ih =>
    rw [root_of_child hk, h n k hk]
    exact ih

/-- Where roots have a color of their own, nodes of that color are those of one tree. -/
theorem color_eq_iff (h : ∀ n m, f.Child n m → color n = color m)
    (hroots : color (f.root m) = color (f.root n) → f.root m = f.root n) :
    color m = color n ↔ f.root m = f.root n := by
  -- Both have the color of their root
  rw [color_root h m, color_root h n]
  exact ⟨hroots, fun h => by rw [h]⟩

end Forest
