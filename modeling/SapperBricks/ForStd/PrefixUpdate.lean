import Mathlib.Algebra.Order.Ring.Int
import Mathlib.Tactic.Common

/-!
# Updates of the first elements of a list

An update that is handed on from one element of a list to the next may get stuck on its way: it
is applied to some of the first elements and leaves the others alone.

## Key results

- `applyTo_applyTo`: an update that may be repeated, handed on twice
- `applyAll_getElem?`: what updates one after the other make of one element
- `applyAll_keeps`: what they keep of every element
-/

namespace PrefixUpdate

variable {α : Type} {f : α → α}

/-- Apply an update to the first `k` elements. -/
def applyTo (f : α → α) : Nat → List α → List α
  | 0, l => l
  | _ + 1, [] => []
  | k + 1, a :: l => f a :: applyTo f k l

@[simp] theorem applyTo_zero (f : α → α) (l : List α) : applyTo f 0 l = l := by
  cases l <;> rfl

@[simp] theorem applyTo_nil (f : α → α) (k : Nat) : applyTo f k [] = [] := by
  cases k <;> rfl

@[simp] theorem applyTo_cons (f : α → α) (k : Nat) (a : α) (l : List α) :
    applyTo f (k + 1) (a :: l) = f a :: applyTo f k l := rfl

/-- The elements that are reached are updated. -/
theorem applyTo_getElem? (f : α → α) (k : Nat) (l : List α) (i : Nat) :
    (applyTo f k l)[i]? = if i < k then l[i]?.map f else l[i]? := by
  induction k generalizing l i with
  | zero => simp
  | succ k ih =>
    cases l with
    | nil => simp
    | cons a l =>
      cases i with
      | zero => simp
      | succ i => simp [ih]

/-- An update that may be repeated reaches as far as it has ever reached. -/
theorem applyTo_applyTo (hf : ∀ a, f (f a) = f a) (j k : Nat) (l : List α) :
    applyTo f k (applyTo f j l) = applyTo f (max j k) l := by
  apply List.ext_getElem?
  intro i
  simp only [applyTo_getElem?]
  -- By which of the two updates reach the element
  by_cases hj : i < j <;> by_cases hk : i < k
  · rw [if_pos hk, if_pos hj, if_pos (by omega), Option.map_map]
    -- Both do: the second time changes nothing
    congr 1
    exact funext hf
  · rw [if_neg hk, if_pos hj, if_pos (by omega)]
  · rw [if_pos hk, if_neg hj, if_pos (by omega)]
  · rw [if_neg hk, if_neg hj, if_neg (by omega)]

/-- An update that reaches all the elements is a map. -/
theorem applyTo_length (f : α → α) (l : List α) : applyTo f l.length l = l.map f := by
  induction l with
  | nil => rfl
  | cons a l ih => exact congrArg (f a :: ·) ih

/-- What an update keeps, it keeps of every element. -/
theorem applyTo_keeps {P : α → Prop} (hf : ∀ a, P a → P (f a)) {l : List α}
    (h : ∀ a ∈ l, P a) (k : Nat) : ∀ a ∈ applyTo f k l, P a := by
  induction k generalizing l with
  | zero => simpa using h
  | succ k ih =>
    cases l with
    | nil => simp
    | cons a l =>
      rw [List.forall_mem_cons] at h
      rw [applyTo_cons, List.forall_mem_cons]
      exact ⟨hf a h.1, ih h.2⟩

/-- Updates one after the other, each with how far it reaches. -/
def applyAll (updates : List ((α → α) × Nat)) (l : List α) : List α :=
  updates.foldl (fun l u => applyTo u.1 u.2 l) l

/-- An element is updated by those that reach it, in their order. -/
theorem applyAll_getElem? (updates : List ((α → α) × Nat)) (l : List α) (i : Nat) :
    (applyAll updates l)[i]? =
      l[i]?.map fun a => (updates.filter fun u => i < u.2).foldl (fun a u => u.1 a) a := by
  induction updates generalizing l with
  | nil => simp [applyAll]
  | cons u updates ih =>
    unfold applyAll at ih ⊢
    rw [List.foldl_cons, ih, applyTo_getElem?]
    -- The first update reaches it and comes first, or is filtered out
    by_cases hi : i < u.2
    · simp [hi, Function.comp_def]
    · simp [hi]

/-- What every update keeps, they all keep. -/
theorem applyAll_keeps {P : α → Prop} {updates : List ((α → α) × Nat)}
    (hupdates : ∀ u ∈ updates, ∀ a, P a → P (u.1 a)) {l : List α} (h : ∀ a ∈ l, P a) :
    ∀ a ∈ applyAll updates l, P a := by
  induction updates generalizing l with
  | nil => exact h
  | cons u updates ih =>
    rw [List.forall_mem_cons] at hupdates
    exact ih hupdates.2 (applyTo_keeps hupdates.1 h u.2)

end PrefixUpdate
