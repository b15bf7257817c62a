import Mathlib.Tactic.Common
import Std.Data.ExtTreeMap

/-!
# Maps of the latest values

A sequence of writes, each of a value that carries its key, and the map it leaves: under
each key the value written last.

## Key results

- `latest_concat`, `latest_cons`: the latest value after one more write
- `IsLatest.insert`: inserting a value under its key is one more write
- `IsLatest.key_eq`: every value of such a map is under its own key
-/

namespace Keyed

variable {κ β : Type}

/-- The value written last under a key. -/
def latest [DecidableEq κ] (key : β → κ) (k : κ) (xs : List β) : Option β :=
  (xs.filter fun x => key x = k).getLast?

section Latest

variable [DecidableEq κ] {key : β → κ} {k : κ} {x : β} {xs : List β}

@[simp] theorem latest_nil : latest key k [] = none := rfl

/-- The latest value after one more write. -/
@[simp] theorem latest_concat :
    latest key k (xs ++ [x]) = if key x = k then some x else latest key k xs := by
  unfold latest
  by_cases h : key x = k <;> simp [List.filter_append, h]

/-- The latest value after one write more at the beginning. -/
theorem latest_cons :
    latest key k (x :: xs) = (latest key k xs).or (if key x = k then some x else none) := by
  unfold latest
  by_cases h : key x = k
  · -- It counts only if nothing is written under its key later
    rw [List.filter_cons_of_pos (by simpa using h), List.getLast?_cons, if_pos h]
    cases (xs.filter fun x => key x = k).getLast? <;> rfl
  · rw [List.filter_cons_of_neg (by simpa using h), if_neg h, Option.or_none]

/-- The value written last under a key was written, and under this key. -/
theorem latest_spec (h : latest key k xs = some x) : x ∈ xs ∧ key x = k := by
  have hmem : x ∈ xs.filter fun x => key x = k := List.mem_of_getLast? h
  simpa using hmem

/-- There is none if nothing was written under the key. -/
theorem latest_eq_none : latest key k xs = none ↔ ∀ x ∈ xs, key x ≠ k := by
  unfold latest
  rw [List.getLast?_eq_none_iff, List.filter_eq_nil_iff]
  simp

/-- The order of writes does not matter if under each key the same value is written each time. -/
theorem latest_of_mem_iff {ys : List β} (hmem : ∀ x, x ∈ xs ↔ x ∈ ys)
    (hsame : ∀ x ∈ xs, ∀ y ∈ xs, key x = key y → x = y) : latest key k xs = latest key k ys := by
  cases hxs : latest key k xs with
  | none =>
    rw [latest_eq_none] at hxs
    exact (latest_eq_none.mpr fun y hy => hxs y ((hmem y).mpr hy)).symm
  | some x =>
    obtain ⟨hx, hkey⟩ := latest_spec hxs
    -- `ys` has a latest value too, since `x` is among them
    cases hys : latest key k ys with
    | none => exact absurd hkey (latest_eq_none.mp hys x ((hmem x).mp hx))
    | some y =>
      obtain ⟨hy, hkey'⟩ := latest_spec hys
      -- Both are written under `k` in `xs`, so they are one value
      rw [hsame x hx y ((hmem y).mpr hy) (hkey.trans hkey'.symm)]

/-- The latest of mapped values is the image of the latest value. -/
theorem latest_map {γ : Type} (f : γ → β) (ys : List γ) :
    latest key k (ys.map f) = (latest (fun y => key (f y)) k ys).map f := by
  unfold latest
  rw [List.filter_map, List.getLast?_map]
  rfl

end Latest

variable [Ord κ] [Std.TransOrd κ] [Std.LawfulEqOrd κ] [DecidableEq κ]

/-- A map holds the latest of some writes. -/
def IsLatest (key : β → κ) (m : Std.ExtTreeMap κ β) (xs : List β) : Prop :=
  ∀ k, m[k]? = latest key k xs

variable {key : β → κ} {m : Std.ExtTreeMap κ β} {xs : List β}

omit [Std.LawfulEqOrd κ] in
/-- The empty map holds the latest of no writes. -/
theorem isLatest_empty : IsLatest key (∅ : Std.ExtTreeMap κ β) [] := by
  intro k
  rw [Std.ExtTreeMap.getElem?_empty, latest_nil]

/-- Inserting a value under its key is one more write. -/
theorem IsLatest.insert (h : IsLatest key m xs) (x : β) :
    IsLatest key (m.insert (key x) x) (xs ++ [x]) := by
  intro k
  rw [Std.ExtTreeMap.getElem?_insert, latest_concat, h k]
  simp only [Std.LawfulEqOrd.compare_eq_iff_eq]

omit [Std.LawfulEqOrd κ] in
/-- Every value of such a map was written, and is under its own key. -/
theorem IsLatest.key_eq (h : IsLatest key m xs) {k : κ} {x : β} (hx : m[k]? = some x) :
    x ∈ xs ∧ key x = k := by
  rw [h k] at hx
  exact latest_spec hx

/-- Two maps that hold the latest of the same writes are equal. -/
theorem IsLatest.unique {m' : Std.ExtTreeMap κ β} (h : IsLatest key m xs)
    (h' : IsLatest key m' xs) : m = m' := by
  apply Std.ExtTreeMap.ext_getElem?
  intro k
  rw [h k, h' k]

end Keyed
