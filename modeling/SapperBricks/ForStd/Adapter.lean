import Mathlib.Tactic.Common

/-!
# Adapters in front of a machine

An adapter takes requests and has no state of its own: it answers a request itself, or it makes
one call of a machine and makes its answer of the result.

## Key results

- `runs_handle`: requests one after the other are calls one after the other
- `handle_keeps`, `runs_keeps`: the rules for what requests keep
-/

namespace Adapter

variable {Q A C R S : Type*}

/-- What an adapter does with a request. -/
inductive Plan (C R A : Type*) where
  | answer (a : A)
  | call (c : C) (reply : R → A)

namespace Plan

/-- The call that is made. -/
def call? : Plan C R A → Option C
  | answer _ => none
  | call c _ => some c

/-- Do it, with the machine. -/
def run (step : C → S → R × S) : Plan C R A → S → A × S
  | answer a, s => (a, s)
  | call c reply, s => (reply (step c s).1, (step c s).2)

/-- The same with another form of the answer. -/
def map {A' : Type*} (f : A → A') : Plan C R A → Plan C R A'
  | answer a => answer (f a)
  | call c reply => call c fun r => f (reply r)

@[simp] theorem call?_map {A' : Type*} (f : A → A') (plan : Plan C R A) :
    (plan.map f).call? = plan.call? := by
  cases plan <;> rfl

theorem run_map {A' : Type*} (f : A → A') (plan : Plan C R A) (step : C → S → R × S) (s : S) :
    (plan.map f).run step s = (f (plan.run step s).1, (plan.run step s).2) := by
  cases plan <;> rfl

/-- It leaves the state alone, or does what its call does. -/
theorem run_state (plan : Plan C R A) (step : C → S → R × S) (s : S) :
    (plan.run step s).2 = s ∨ ∃ c, plan.call? = some c ∧ (plan.run step s).2 = (step c s).2 := by
  cases plan with
  | answer a => exact .inl rfl
  | call c reply => exact .inr ⟨c, rfl, rfl⟩

end Plan

/-- The steps of a machine, one after the other. -/
def runs (step : C → S → R × S) : List C → S → List R × S
  | [], s => ([], s)
  | c :: cs, s =>
    let r := step c s
    let rs := runs step cs r.2
    (r.1 :: rs.1, rs.2)

@[simp] theorem runs_nil (step : C → S → R × S) (s : S) : runs step [] s = ([], s) := rfl

@[simp] theorem runs_cons (step : C → S → R × S) (c : C) (cs : List C) (s : S) :
    runs step (c :: cs) s =
      ((step c s).1 :: (runs step cs (step c s).2).1, (runs step cs (step c s).2).2) := rfl

/-- The answers to some requests, of the results of the calls that are made for them. -/
def answers : List (Plan C R A) → List R → List A
  | [], _ => []
  | .answer a :: plans, rs => a :: answers plans rs
  | .call _ _ :: _, [] => []
  | .call _ reply :: plans, r :: rs => reply r :: answers plans rs

variable (plan : Q → Plan C R A) (step : C → S → R × S)

/-- Handle a request. -/
def handle (q : Q) (s : S) : A × S :=
  (plan q).run step s

/-- The calls that are made for requests. -/
def calls (qs : List Q) : List C :=
  qs.filterMap fun q => (plan q).call?

/-- Requests one after the other leave the state that their calls leave, one after the other, and
    their answers are made of the results of these. -/
theorem runs_handle (qs : List Q) (s : S) :
    runs (handle plan step) qs s =
      (answers (qs.map plan) (runs step (calls plan qs) s).1, (runs step (calls plan qs) s).2) := by
  induction qs generalizing s with
  | nil => rfl
  | cons q qs ih =>
    -- The calls of the first request, if any, come before those of the others
    have hcalls : calls plan (q :: qs) = ((plan q).call?.toList ++ calls plan qs) := by
      unfold calls
      rw [List.filterMap_cons]
      cases (plan q).call? <;> rfl
    rw [runs_cons, ih, hcalls, List.map_cons, handle]
    cases plan q with
    | answer a => rfl
    | call c reply => rfl

variable {plan step}

/-- What the calls of a request keep, the request keeps. -/
theorem handle_keeps {P : S → Prop} {q : Q}
    (h : ∀ c, (plan q).call? = some c → ∀ s, P s → P (step c s).2) {s : S} (hs : P s) :
    P (handle plan step q s).2 := by
  unfold handle
  cases hplan : plan q with
  | answer a => exact hs
  | call c reply =>
    rw [hplan] at h
    exact h c rfl s hs

/-- What the calls of all requests keep, they all keep. -/
theorem runs_keeps {P : S → Prop} {qs : List Q}
    (h : ∀ q ∈ qs, ∀ c, (plan q).call? = some c → ∀ s, P s → P (step c s).2) {s : S} (hs : P s) :
    P (runs (handle plan step) qs s).2 := by
  induction qs generalizing s with
  | nil => exact hs
  | cons q qs ih =>
    rw [List.forall_mem_cons] at h
    exact ih h.2 (handle_keeps h.1 hs)

end Adapter
