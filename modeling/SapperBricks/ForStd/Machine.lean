import Mathlib.Data.Option.Basic
import Mathlib.Tactic.Common

/-!
# Runs of partial machines

A machine whose steps are not possible in every state, run on events one after the other.

## Key results

- `run_keeps`: what every step keeps, every run keeps
- `run_rel`: two machines whose steps agree have runs that agree, and the same runs are possible
-/

namespace Machine

variable {ε σ τ : Type*}

/-- The state after events, if each of them is possible. -/
def run (step : ε → σ → Option σ) : List ε → σ → Option σ
  | [], s => some s
  | e :: es, s => (step e s).bind (run step es)

@[simp] theorem run_nil (step : ε → σ → Option σ) (s : σ) : run step [] s = some s := rfl

@[simp] theorem run_cons (step : ε → σ → Option σ) (e : ε) (es : List ε) (s : σ) :
    run step (e :: es) s = (step e s).bind (run step es) := rfl

/-- What every step keeps, every run keeps. -/
theorem run_keeps {step : ε → σ → Option σ} {P : σ → Prop}
    (hstep : ∀ e s t, P s → step e s = some t → P t) {es : List ε} {s t : σ} (hs : P s)
    (h : run step es s = some t) : P t := by
  induction es generalizing s with
  | nil =>
    rw [run_nil, Option.some.injEq] at h
    exact h ▸ hs
  | cons e es ih =>
    rw [run_cons, Option.bind_eq_some_iff] at h
    obtain ⟨u, hu, h⟩ := h
    exact ih (hstep e s u hs hu) h

/-- What is related to something that is there. -/
theorem exists_right {R : σ → τ → Prop} {s : σ} {y : Option τ} (h : Option.Rel R (some s) y) :
    ∃ t, y = some t ∧ R s t := by
  cases h with
  | some h => exact ⟨_, rfl, h⟩

theorem exists_left {R : σ → τ → Prop} {x : Option σ} {t : τ} (h : Option.Rel R x (some t)) :
    ∃ s, x = some s ∧ R s t := by
  cases h with
  | some h => exact ⟨_, rfl, h⟩

/-- Machines whose steps agree have runs that agree: the one can be run on the same events as the
    other, and they end in states that are related. -/
theorem run_rel {step : ε → σ → Option σ} {step' : ε → τ → Option τ} {R : σ → τ → Prop}
    (hstep : ∀ e s t, R s t → Option.Rel R (step e s) (step' e t)) (es : List ε) {s : σ} {t : τ}
    (h : R s t) : Option.Rel R (run step es s) (run step' es t) := by
  induction es generalizing s t with
  | nil => exact .some h
  | cons e es ih =>
    rw [run_cons, run_cons]
    -- The first event is possible for both machines or for neither
    have hone := hstep e s t h
    cases hs : step e s with
    | some s' =>
      rw [hs] at hone
      obtain ⟨t', ht, hrel⟩ := exists_right hone
      rw [ht]
      exact ih hrel
    | none =>
      rw [hs] at hone
      cases ht : step' e t with
      | none => exact .none
      | some t' =>
        rw [ht] at hone
        cases hone

/-- What related states have in common is the same after runs. -/
theorem map_eq_of_rel {γ : Type*} {R : σ → τ → Prop} {f : σ → γ} {g : τ → γ}
    (hR : ∀ s t, R s t → f s = g t) {x : Option σ} {y : Option τ} (h : Option.Rel R x y) :
    x.map f = y.map g := by
  cases h with
  | some h => exact congrArg some (hR _ _ h)
  | none => rfl

/-- What related values are mapped to. -/
theorem rel_map {α β : Type*} {R : σ → τ → Prop} {Q : α → β → Prop} {f : σ → α} {g : τ → β}
    {x : Option σ} {y : Option τ} (h : Option.Rel R x y) (hR : ∀ s t, R s t → Q (f s) (g t)) :
    Option.Rel Q (x.map f) (y.map g) := by
  cases h with
  | some h => exact .some (hR _ _ h)
  | none => exact .none

end Machine
