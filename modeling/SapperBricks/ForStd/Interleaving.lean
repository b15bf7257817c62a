import Mathlib.Algebra.Order.Ring.Int
import Mathlib.Data.List.Induction
import Mathlib.Tactic.Common

/-!
# Interleavings of procedures made of atomic sections

A procedure runs as a sequence of atomic sections over a shared state: each section
either hands on to a further section of the same call or ends the call with an outcome.
Any number of calls of it may be in progress at once; a trace is the order in which the
calls are made, their sections are executed and their outcomes are handed back, and every
order is a trace.

Calls are named by an arbitrary type `ι`. A thread that makes its calls one after the
other admits fewer traces, never more, so what holds of every trace holds of any number
of threads.

## Key results

- `run_concat`: a run of one more event is a run followed by a step
- `step_cases`: everything a step can do
- `run_induction`: what holds initially and is kept by every step holds after every run
- `run_shared`, `run_running`: the same for a property of the shared state alone, and for
  the calls in progress
-/

namespace Interleaving

universe u

/-- A procedure: the first section of a call with an argument, and what the section at a
    location does to the shared state and with what it goes on. -/
structure Proc (Arg Loc Sh Res : Type u) where
  start : Arg → Loc
  exec : Loc → Sh → (Loc ⊕ Res) × Sh

/-- The sections of one call from a location on, executed one right after the other: its
    outcome, if it has one after at most `n` sections. -/
def Proc.alone {Arg Loc Sh Res : Type u} (p : Proc Arg Loc Sh Res) : Nat → Loc → Sh →
    Option (Res × Sh)
  | 0, _, _ => none
  | n + 1, l, s =>
    match p.exec l s with
    | (.inr r, s) => some (r, s)
    | (.inl l, s) => p.alone n l s

/-- How far a call has come. -/
inductive Phase (Loc Res : Type u) where
  | idle
  | running (l : Loc)
  | finished (r : Res)
  | returned (r : Res)

/-- The phase after a section: at a further section, or with an outcome. -/
def Phase.after {Loc Res : Type u} : Loc ⊕ Res → Phase Loc Res
  | .inl l => .running l
  | .inr r => .finished r

/-- The outcome of a call, once it has one. -/
def Phase.outcome? {Loc Res : Type u} : Phase Loc Res → Option Res
  | .finished r => some r
  | .returned r => some r
  | _ => none

/-- The shared state and the phase of every call. -/
structure Config (ι Loc Sh Res : Type u) where
  shared : Sh
  phase : ι → Phase Loc Res

/-- Before the first call is made. -/
def Config.initial {ι Loc Sh Res : Type u} (s : Sh) : Config ι Loc Sh Res :=
  ⟨s, fun _ => .idle⟩

/-- An event of a trace: a call is made, executes its next section, or returns. -/
inductive Event (ι : Type u) where
  | call (i : ι)
  | exec (i : ι)
  | ret (i : ι)
deriving DecidableEq

section Runs

variable {ι Arg Loc Sh Res : Type u} [DecidableEq ι]
variable (p : Proc Arg Loc Sh Res) (arg : ι → Arg)

/-- One event; `none` when the call it names is not in the phase for it. -/
def Proc.step (c : Config ι Loc Sh Res) : Event ι → Option (Config ι Loc Sh Res)
  | .call i =>
    match c.phase i with
    | .idle => some ⟨c.shared, Function.update c.phase i (.running (p.start (arg i)))⟩
    | _ => none
  | .exec i =>
    match c.phase i with
    | .running l =>
      some ⟨(p.exec l c.shared).2, Function.update c.phase i (.after (p.exec l c.shared).1)⟩
    | _ => none
  | .ret i =>
    match c.phase i with
    | .finished r => some ⟨c.shared, Function.update c.phase i (.returned r)⟩
    | _ => none

/-- The configuration a trace leads to. -/
def Proc.run (c : Config ι Loc Sh Res) : List (Event ι) → Option (Config ι Loc Sh Res)
  | [] => some c
  | e :: tr => (p.step arg c e).bind fun d => Proc.run d tr

/-! ## Steps -/

/-- A call that moves without an outcome coming of it changes the outcome of none. -/
theorem outcome?_update {phase : ι → Phase Loc Res} {i : ι} {ph : Phase Loc Res}
    (h : ph.outcome? = (phase i).outcome?) (j : ι) :
    (Function.update phase i ph j).outcome? = (phase j).outcome? := by
  by_cases hj : j = i
  · subst hj
    rw [Function.update_self, h]
  · rw [Function.update_of_ne hj]

/-- Everything a step can do. -/
theorem step_cases {p : Proc Arg Loc Sh Res} {arg : ι → Arg} {c d : Config ι Loc Sh Res}
    {e : Event ι} (h : p.step arg c e = some d) :
    (∃ i, e = .call i ∧ c.phase i = .idle ∧
      d = ⟨c.shared, Function.update c.phase i (.running (p.start (arg i)))⟩) ∨
    (∃ i l, e = .exec i ∧ c.phase i = .running l ∧
      d = ⟨(p.exec l c.shared).2, Function.update c.phase i (.after (p.exec l c.shared).1)⟩) ∨
    (∃ i r, e = .ret i ∧ c.phase i = .finished r ∧
      d = ⟨c.shared, Function.update c.phase i (.returned r)⟩) := by
  cases e with
  | call i =>
    simp only [Proc.step] at h
    split at h
    · rename_i hi
      exact .inl ⟨i, rfl, hi, (Option.some.inj h).symm⟩
    · exact nomatch h
  | exec i =>
    simp only [Proc.step] at h
    split at h
    · rename_i l hi
      exact .inr (.inl ⟨i, l, rfl, hi, (Option.some.inj h).symm⟩)
    · exact nomatch h
  | ret i =>
    simp only [Proc.step] at h
    split at h
    · rename_i r hi
      exact .inr (.inr ⟨i, r, rfl, hi, (Option.some.inj h).symm⟩)
    · exact nomatch h

/-- A step that executes a section of a call at location `l`. -/
theorem step_exec {p : Proc Arg Loc Sh Res} {arg : ι → Arg} {c d : Config ι Loc Sh Res}
    {i : ι} (h : p.step arg c (.exec i) = some d) :
    ∃ l, c.phase i = .running l ∧
      d = ⟨(p.exec l c.shared).2, Function.update c.phase i (.after (p.exec l c.shared).1)⟩ := by
  -- Of the three kinds of steps only the second one is an `exec`
  obtain ⟨_, he, _⟩ | ⟨j, l, he, hl, hd⟩ | ⟨_, _, he, _⟩ := step_cases h
  · exact nomatch he
  · cases he
    exact ⟨l, hl, hd⟩
  · exact nomatch he

/-! ## Runs -/

@[simp] theorem run_nil (c : Config ι Loc Sh Res) : p.run arg c [] = some c := rfl

theorem run_cons (c : Config ι Loc Sh Res) (e : Event ι) (tr : List (Event ι)) :
    p.run arg c (e :: tr) = (p.step arg c e).bind fun d => p.run arg d tr := rfl

/-- A run of two traces is a run of the second from where the first leads. -/
theorem run_append (c : Config ι Loc Sh Res) (tr₁ tr₂ : List (Event ι)) :
    p.run arg c (tr₁ ++ tr₂) = (p.run arg c tr₁).bind fun d => p.run arg d tr₂ := by
  induction tr₁ generalizing c with
  | nil => rfl
  | cons e tr₁ ih =>
    simp only [List.cons_append, run_cons, Option.bind_assoc]
    exact congrArg _ (funext fun d => ih d)

variable {p arg}

/-- A run of one more event is a run followed by a step. -/
theorem run_concat {c d : Config ι Loc Sh Res} {tr : List (Event ι)} {e : Event ι} :
    p.run arg c (tr ++ [e]) = some d ↔
      ∃ m, p.run arg c tr = some m ∧ p.step arg m e = some d := by
  simp only [run_append, run_cons, run_nil, Option.bind_eq_some_iff, Option.some.injEq,
    exists_eq_right]

/-- What holds before the first event and is kept by every step of a run holds after it. -/
theorem run_induction {c₀ : Config ι Loc Sh Res}
    {P : List (Event ι) → Config ι Loc Sh Res → Prop} (h0 : P [] c₀)
    (hstep : ∀ tr c e d, p.run arg c₀ tr = some c → P tr c → p.step arg c e = some d →
      P (tr ++ [e]) d)
    {tr : List (Event ι)} {c : Config ι Loc Sh Res} (h : p.run arg c₀ tr = some c) : P tr c := by
  -- Induction on the trace from its end, so that the last step is at hand
  induction tr using List.reverseRecOn generalizing c with
  | nil =>
    simp only [run_nil, Option.some.injEq] at h
    exact h ▸ h0
  | append_singleton tr e ih =>
    obtain ⟨m, hm, hd⟩ := run_concat.mp h
    exact hstep tr m e c hm (ih hm) hd

/-- A property of the shared state that every section keeps holds after every run. -/
theorem run_shared {I : Sh → Prop} (hexec : ∀ l s, I s → I (p.exec l s).2)
    {c₀ c : Config ι Loc Sh Res} {tr : List (Event ι)} (h0 : I c₀.shared)
    (h : p.run arg c₀ tr = some c) : I c.shared := by
  apply run_induction (P := fun _ c => I c.shared) h0 _ h
  intro tr c e d _ hI hd
  obtain ⟨i, _, _, rfl⟩ | ⟨i, l, _, _, rfl⟩ | ⟨i, r, _, _, rfl⟩ := step_cases hd
  · -- Only the sections touch the shared state
    exact hI
  · exact hexec l c.shared hI
  · exact hI

/-- A relation between the argument of a call and its location that holds at the start and
    is kept by every section that goes on holds of every call in progress. -/
theorem run_running {J : Arg → Loc → Prop} (hstart : ∀ a, J a (p.start a))
    (hexec : ∀ a l s l', J a l → (p.exec l s).1 = .inl l' → J a l')
    {c₀ c : Config ι Loc Sh Res} {tr : List (Event ι)} (h0 : ∀ i, c₀.phase i = .idle)
    (h : p.run arg c₀ tr = some c) : ∀ i l, c.phase i = .running l → J (arg i) l := by
  have hidle : ∀ i l, c₀.phase i = .running l → J (arg i) l := by
    intro i l hi
    rw [h0] at hi
    exact nomatch hi
  apply run_induction (P := fun _ c => ∀ i l, c.phase i = .running l → J (arg i) l) hidle _ h
  intro tr m e d _ hm hd j l' hj
  -- The step moves the call `i`; every other call is where it was
  obtain ⟨i, _, _, rfl⟩ | ⟨i, l, _, hl, rfl⟩ | ⟨i, r, _, _, rfl⟩ := step_cases hd <;>
    dsimp only at hj <;> by_cases hji : j = i
  · subst hji
    rw [Function.update_self] at hj
    cases hj
    -- The call was just made
    exact hstart _
  · rw [Function.update_of_ne hji] at hj
    exact hm j l' hj
  · subst hji
    rw [Function.update_self] at hj
    cases hx : (p.exec l m.shared).1 with
    | inl l'' =>
      rw [hx] at hj
      cases hj
      exact hexec _ l _ _ (hm j l hl) hx
    | inr r =>
      -- A call with an outcome is not in progress
      rw [hx] at hj
      exact nomatch hj
  · rw [Function.update_of_ne hji] at hj
    exact hm j l' hj
  · subst hji
    rw [Function.update_self] at hj
    exact nomatch hj
  · rw [Function.update_of_ne hji] at hj
    exact hm j l' hj

end Runs

end Interleaving
