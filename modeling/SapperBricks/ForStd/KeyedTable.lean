import Mathlib.Tactic.Common

/-!
# Tables with a key

A table is a list of rows, each of which carries its key. `upsert` inserts a row, or, where
there are rows with its key already, merges it into them. What a table holds under a key is
the list of its rows with this key.

## Key results

- `withKey_upsert`: what a table holds under each key after an upsert
- `upsert_upsert`: upserting a row again changes nothing
- `KeysUnique.upsert`, `withKey_upsert_self`: an upsert keeps keys unique, and its row is then
  the one with its key
-/

namespace Keyed

variable {κ β : Type} [DecidableEq κ]

/-- The rows with a key. -/
def withKey (key : β → κ) (k : κ) (rows : List β) : List β :=
  rows.filter fun y => key y = k

/-- A row held under a key has this key. -/
theorem key_of_mem_withKey {key : β → κ} {k : κ} {rows : List β} {y : β}
    (h : y ∈ withKey key k rows) : key y = k := by
  unfold withKey at h
  simpa using (List.mem_filter.mp h).2

/-- Insert a row, or merge it into the rows with its key. -/
def upsert (key : β → κ) (merge : β → β → β) (x : β) (rows : List β) : List β :=
  if withKey key (key x) rows = [] then rows ++ [x]
  else rows.map fun y => if key y = key x then merge y x else y

variable {key : β → κ} {merge : β → β → β} {rows : List β}

/-- Merging a row into those with its key changes what is held under this key only. -/
theorem withKey_merge (hkey : ∀ y x, key (merge y x) = key y) (x : β) (k : κ) :
    withKey key k (rows.map fun y => if key y = key x then merge y x else y) =
      if key x = k then (withKey key k rows).map fun y => merge y x else withKey key k rows := by
  induction rows with
  | nil => simp [withKey]
  | cons y ys ih =>
    unfold withKey at ih ⊢
    simp only [List.map_cons, List.filter_cons]
    by_cases hy : key y = key x
    · by_cases hk : key x = k
      · simp only [hk, if_true] at ih
        simp [hy, hkey, hk, ih]
      · simp only [hk, if_false] at ih
        simp [hy, hkey, hk, ih]
    · by_cases hk : key x = k
      · simp only [hk, if_true] at ih
        have hyk : key y ≠ k := fun h => hy (h.trans hk.symm)
        simp [hk, hyk, ih]
      · simp only [hk, if_false] at ih ⊢
        rw [if_neg hy, ih]

/-- What a table holds under each key after an upsert. -/
theorem withKey_upsert (hkey : ∀ y x, key (merge y x) = key y) (x : β) (k : κ) :
    withKey key k (upsert key merge x rows) =
      if key x = k then
        if withKey key k rows = [] then [x] else (withKey key k rows).map fun y => merge y x
      else withKey key k rows := by
  unfold upsert
  by_cases hnew : withKey key (key x) rows = []
  · rw [if_pos hnew]
    by_cases hk : key x = k
    · subst hk
      rw [if_pos rfl, if_pos hnew]
      unfold withKey at hnew ⊢
      simp [List.filter_append, hnew]
    · rw [if_neg hk]
      unfold withKey
      simp [List.filter_append, hk]
  · rw [if_neg hnew, withKey_merge hkey]
    by_cases hk : key x = k
    · subst hk
      rw [if_pos rfl, if_pos rfl, if_neg hnew]
    · rw [if_neg hk, if_neg hk]

/-- Upserting a row again changes nothing. -/
theorem upsert_upsert (hkey : ∀ y x, key (merge y x) = key y) {x : β}
    (hself : merge x x = x) (hagain : ∀ y, merge (merge y x) x = merge y x) :
    upsert key merge x (upsert key merge x rows) = upsert key merge x rows := by
  have hheld : withKey key (key x) (upsert key merge x rows) ≠ [] := by
    rw [withKey_upsert hkey, if_pos rfl]
    split
    · exact List.cons_ne_nil _ _
    · rename_i hne
      simpa using hne
  have hmap : upsert key merge x (upsert key merge x rows) =
      (upsert key merge x rows).map fun y => if key y = key x then merge y x else y :=
    if_neg hheld
  rw [hmap]
  -- Each row of the table is one the new row has been merged into, or has another key
  have hfixed : ∀ y ∈ upsert key merge x rows, (if key y = key x then merge y x else y) = y := by
    intro y hy
    by_cases hyx : key y = key x
    · rw [if_pos hyx]
      unfold upsert at hy
      split at hy
      · rename_i hnew
        rw [List.mem_append, List.mem_singleton] at hy
        obtain hy | rfl := hy
        · -- The rows that were there have other keys
          have hmem : y ∈ withKey key (key x) rows := by simp [withKey, hy, hyx]
          rw [hnew] at hmem
          exact nomatch hmem
        · exact hself
      · obtain ⟨z, _, rfl⟩ := List.mem_map.mp hy
        by_cases hz : key z = key x
        · rw [if_pos hz]
          exact hagain z
        · rw [if_neg hz] at hyx
          exact absurd hyx hz
    · rw [if_neg hyx]
  exact (List.map_congr_left hfixed).trans (List.map_id _)

/-- No two rows have the same key. -/
def KeysUnique (key : β → κ) (rows : List β) : Prop :=
  ∀ k, (withKey key k rows).length ≤ 1

/-- An upsert keeps keys unique. -/
theorem KeysUnique.upsert (hkey : ∀ y x, key (merge y x) = key y) (h : KeysUnique key rows)
    (x : β) : KeysUnique key (upsert key merge x rows) := by
  intro k
  rw [withKey_upsert hkey]
  by_cases hk : key x = k
  · rw [if_pos hk]
    split
    · simp
    · rw [List.length_map]
      exact h k
  · rw [if_neg hk]
    exact h k

/-- Where keys are unique and merging overwrites, the key of the row holds just this row after
    an upsert. -/
theorem withKey_upsert_self (hkey : ∀ y x, key (merge y x) = key y) (h : KeysUnique key rows)
    {x : β} (hmerge : ∀ y, key y = key x → merge y x = x) :
    withKey key (key x) (Keyed.upsert key merge x rows) = [x] := by
  rw [withKey_upsert hkey, if_pos rfl]
  cases hheld : withKey key (key x) rows with
  | nil => rw [if_pos rfl]
  | cons y ys =>
    have hy : key y = key x := key_of_mem_withKey (hheld ▸ List.mem_cons_self)
    have hone := h (key x)
    rw [hheld, List.length_cons] at hone
    have hys : ys = [] := List.eq_nil_of_length_eq_zero (by omega)
    rw [if_neg (List.cons_ne_nil y ys), hys, List.map_cons, List.map_nil, hmerge y hy]

/-- A row is held under its key after an upsert, and so is every row that was before. -/
theorem withKey_upsert_ne_nil (hkey : ∀ y x, key (merge y x) = key y) (x : β) {k : κ}
    (h : key x = k ∨ withKey key k rows ≠ []) :
    withKey key k (Keyed.upsert key merge x rows) ≠ [] := by
  rw [withKey_upsert hkey]
  by_cases hk : key x = k
  · rw [if_pos hk]
    split
    · exact List.cons_ne_nil _ _
    · rename_i hne
      simpa using hne
  · rw [if_neg hk]
    exact h.resolve_left hk

end Keyed
