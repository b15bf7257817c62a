import Mathlib.Tactic.Common

/-!
# Nested calls

Calls that are made one after the other and during one another. Each call is entered, which
may keep something for later, then the calls that are made during it run, and then it is left.

## Key results

- `Frame.run_same`: calls that are all good leave a state that is the same for those around them
- `Frame.restored_iff`: every call restores what it should exactly if every call is good
-/

namespace Nested

variable {α κ σ : Type}

/-- Calls that are made one after the other: the first of them with the calls that are made
    during it, and the ones after it. -/
inductive Calls (α : Type) where
  | nil
  | call (a : α) (inner next : Calls α)

namespace Calls

/-- The calls that are not made during others. -/
def outermost : Calls α → List α
  | nil => []
  | call a _ next => a :: next.outermost

/-- All the calls, in the order in which they are entered. -/
def all : Calls α → List α
  | nil => []
  | call a inner next => a :: (inner.all ++ next.all)

end Calls

/-- How a call is entered and left, where `κ` is what it keeps in between. -/
structure Bracket (α κ σ : Type) where
  enter : α → σ → κ × σ
  leave : α → κ → σ → σ

/-- A call that was made, with the state before it was entered and the state in which it was
    left. -/
structure Visit (α σ : Type) where
  call : α
  entered : σ
  left : σ

namespace Bracket

variable (b : Bracket α κ σ)

/-- The state after calls. -/
def run : Calls α → σ → σ
  | .nil, s => s
  | .call a inner next, s =>
    let r := b.enter a s
    run next (b.leave a r.1 (run inner r.2))

/-- The calls that were made. -/
def visits : Calls α → σ → List (Visit α σ)
  | .nil, _ => []
  | .call a inner next, s =>
    let r := b.enter a s
    let t := b.run inner r.2
    ⟨a, s, t⟩ :: (visits inner r.2 ++ visits next (b.leave a r.1 t))

/-- What holds of every call that was made. -/
theorem forall_visits_call {P : Visit α σ → Prop} {a : α} {inner next : Calls α} {s : σ} :
    (∀ v ∈ b.visits (.call a inner next) s, P v) ↔
      P ⟨a, s, b.run inner (b.enter a s).2⟩ ∧
      (∀ v ∈ b.visits inner (b.enter a s).2, P v) ∧
      ∀ v ∈ b.visits next (b.leave a (b.enter a s).1 (b.run inner (b.enter a s).2)), P v := by
  simp only [visits, List.mem_cons, List.mem_append]
  constructor
  · intro h
    exact ⟨h _ (.inl rfl), fun v hv => h v (.inr (.inl hv)), fun v hv => h v (.inr (.inr hv))⟩
  · rintro ⟨hcall, hinner, hnext⟩ v (rfl | hv | hv)
    · exact hcall
    · exact hinner v hv
    · exact hnext v hv

end Bracket

/-- What a call leaves for those around it: where the calls made during a good one leave a state
    that is the same as the one it entered, so does it. -/
structure Frame (b : Bracket α κ σ) (Inv : σ → Prop) (Same : σ → σ → Prop) (Good : α → σ → Prop)
    (Restored : Visit α σ → Prop) : Prop where
  refl : ∀ s, Same s s
  trans : ∀ s t u, Same s t → Same t u → Same s u
  inv : ∀ s t, Inv s → Same s t → Inv t
  enter : ∀ a s, Inv s → Inv (b.enter a s).2
  leave : ∀ a s t, Inv s → Same (b.enter a s).2 t → Good a s → Same s (b.leave a (b.enter a s).1 t)
  restored : ∀ a s t, Inv s → Same (b.enter a s).2 t → (Restored ⟨a, s, t⟩ ↔ Good a s)

namespace Frame

variable {b : Bracket α κ σ} {Inv : σ → Prop} {Same : σ → σ → Prop} {Good : α → σ → Prop}
  {Restored : Visit α σ → Prop}

/-- Good calls leave a state that is the same for those around them. -/
theorem run_same (h : Frame b Inv Same Good Restored) {calls : Calls α} {s : σ} (hs : Inv s)
    (hgood : ∀ v ∈ b.visits calls s, Good v.call v.entered) : Same s (b.run calls s) := by
  induction calls generalizing s with
  | nil => exact h.refl s
  | call a inner next ihInner ihNext =>
    obtain ⟨hcall, hinner, hnext⟩ := b.forall_visits_call.mp hgood
    have hsame := h.leave a s _ hs (ihInner (h.enter a s hs) hinner) hcall
    exact h.trans _ _ _ hsame (ihNext (h.inv _ _ hs hsame) hnext)

/-- Every call restores what it should exactly if every call is good. -/
theorem restored_iff (h : Frame b Inv Same Good Restored) {calls : Calls α} {s : σ} (hs : Inv s) :
    (∀ v ∈ b.visits calls s, Restored v) ↔ ∀ v ∈ b.visits calls s, Good v.call v.entered := by
  induction calls generalizing s with
  | nil => exact ⟨fun _ => nofun, fun _ => nofun⟩
  | call a inner next ihInner ihNext =>
    have hentered := h.enter a s hs
    rw [b.forall_visits_call, b.forall_visits_call, ihInner hentered]
    -- The calls after this one are made in a state that is the same if it is good
    constructor
    · rintro ⟨hcall, hinner, hnext⟩
      have hleft := h.run_same hentered hinner
      have hgood := (h.restored a s _ hs hleft).mp hcall
      exact ⟨hgood, hinner, (ihNext (h.inv _ _ hs (h.leave a s _ hs hleft hgood))).mp hnext⟩
    · rintro ⟨hgood, hinner, hnext⟩
      have hleft := h.run_same hentered hinner
      exact ⟨(h.restored a s _ hs hleft).mpr hgood, hinner,
        (ihNext (h.inv _ _ hs (h.leave a s _ hs hleft hgood))).mpr hnext⟩

end Frame

end Nested
