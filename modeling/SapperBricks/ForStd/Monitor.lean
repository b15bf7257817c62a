import Mathlib.Data.List.Induction
import Mathlib.Data.List.Nodup
import Mathlib.Logic.Function.Basic
import Mathlib.Tactic.Common

/-!
# Threads with a mutex and a condition variable

Any number of threads run the code of a program whose locations are instructions: to take
or give back the one mutex, to act on the shared state, to wait on the one condition
variable, to notify one thread that waits there. Every order of their steps is a trace, and
a thread that sleeps may wake up for no reason at any time.

Three things are said about a program beside its code: at which locations the mutex is
held, what a thread knows about the shared state at a location, and after which locations
it has sent its notification.

## Key results

- `run_induction`: what holds initially and is kept by every step holds after every run
- `Disciplined.run`: the mutex is owned by the thread that is at a location which holds it
- `Outline.run`: what a thread knows at a location is true
- `Signals.run`: no thread sleeps once another one has sent its notification
- `Consistent.enabled_of_owner`, `Consistent.blocked_cases`: who owns the mutex can go on,
  and no one else keeps a thread that is not asleep from doing so
-/

namespace Monitor

universe u

/-! ## Programs and configurations -/

/-- What a thread does at a location. -/
inductive Instr (Loc Sh : Type u) where
  /-- take the mutex -/
  | lock (next : Loc)
  /-- give the mutex back -/
  | unlock (next : Loc)
  /-- read and write the shared state -/
  | act (f : Sh → Loc × Sh)
  /-- give the mutex back and sleep, in one step, and take it again after waking up -/
  | wait (next : Loc)
  /-- wake up one thread that sleeps, if there is any -/
  | notifyOne (next : Loc)
  | ret

/-- The location an instruction goes on at that leaves the shared state alone. -/
def Instr.next? {Loc Sh : Type u} : Instr Loc Sh → Option Loc
  | .lock next => some next
  | .unlock next => some next
  | .wait next => some next
  | .notifyOne next => some next
  | _ => none

/-- The code of the threads, and where each of them starts. -/
structure Program (ι Loc Sh : Type u) where
  start : ι → Loc
  instr : Loc → Instr Loc Sh

/-- How far a thread has come. One that waits is asleep or, once it has woken up, about to
    take the mutex and go on. -/
inductive Phase (Loc : Type u) where
  | idle
  | running (l : Loc)
  | waiting (l : Loc)
  | returned (l : Loc)

/-- The location of a thread that has started. -/
def Phase.loc? {Loc : Type u} : Phase Loc → Option Loc
  | .idle => none
  | .running l => some l
  | .waiting l => some l
  | .returned l => some l

/-- The shared state, the owner of the mutex, the threads that sleep, and the phase of every
    thread. -/
structure Config (ι Loc Sh : Type u) where
  shared : Sh
  owner : Option ι
  sleepers : List ι
  phase : ι → Phase Loc

/-- Before the first thread starts. -/
def Config.initial {ι Loc Sh : Type u} (s : Sh) : Config ι Loc Sh :=
  ⟨s, none, [], fun _ => .idle⟩

/-- An event of a trace: a thread starts, executes its next instruction, sends a
    notification, which wakes up another thread if any is asleep, or wakes up for no
    reason. -/
inductive Event (ι : Type u) where
  | call (i : ι)
  | exec (i : ι)
  | notify (i : ι) (woken : Option ι)
  | wake (i : ι)
deriving DecidableEq

/-- The thread that goes on by an event. -/
def Event.mover? {ι : Type u} : Event ι → Option ι
  | .exec i => some i
  | .notify i _ => some i
  | _ => none

section Runs

variable {ι Loc Sh : Type u} [DecidableEq ι] (p : Program ι Loc Sh)

/-- A thread moves to another phase. -/
def Config.move (c : Config ι Loc Sh) (i : ι) (ph : Phase Loc) : Config ι Loc Sh :=
  { c with phase := Function.update c.phase i ph }

/-- The next instruction of a thread, apart from notifications. -/
def Program.exec (c : Config ι Loc Sh) (i : ι) (l : Loc) : Option (Config ι Loc Sh) :=
  match p.instr l with
  | .lock next =>
    if c.owner = none then some { c.move i (.running next) with owner := some i } else none
  | .unlock next =>
    if c.owner = some i then some { c.move i (.running next) with owner := none } else none
  | .act f => some { c.move i (.running (f c.shared).1) with shared := (f c.shared).2 }
  | .wait next =>
    if c.owner = some i then
      some { c.move i (.waiting next) with owner := none, sleepers := i :: c.sleepers }
    else none
  | .notifyOne _ => none
  | .ret => some (c.move i (.returned l))

/-- One event; `none` when it cannot happen. -/
def Program.step (c : Config ι Loc Sh) : Event ι → Option (Config ι Loc Sh)
  | .call i =>
    match c.phase i with
    | .idle => some (c.move i (.running (p.start i)))
    | _ => none
  -- Also the way out of a wait, which takes the mutex again
  | .exec i =>
    match c.phase i with
    | .running l => p.exec c i l
    | .waiting l =>
      if i ∉ c.sleepers ∧ c.owner = none then
        some { c.move i (.running l) with owner := some i }
      else none
    | _ => none
  | .notify i woken =>
    match c.phase i with
    | .running l =>
      match p.instr l, woken with
      -- Which of the sleepers is woken is up to the trace
      | .notifyOne next, some j =>
        if j ∈ c.sleepers then
          some { c.move i (.running next) with sleepers := c.sleepers.erase j }
        else none
      | .notifyOne next, none =>
        if c.sleepers = [] then some (c.move i (.running next)) else none
      | _, _ => none
    | _ => none
  -- A spurious wakeup
  | .wake i =>
    if i ∈ c.sleepers then some { c with sleepers := c.sleepers.erase i } else none

/-- The configuration a trace leads to. -/
def Program.run (c : Config ι Loc Sh) (tr : List (Event ι)) : Option (Config ι Loc Sh) :=
  tr.foldlM p.step c

/-! ## Steps -/

/-- The steps of a program, by what a thread does. -/
inductive Program.Move (c : Config ι Loc Sh) : Event ι → Config ι Loc Sh → Prop
  | call {i : ι} (idle : c.phase i = .idle) :
      Program.Move c (.call i) (c.move i (.running (p.start i)))
  | lock {i : ι} {l next : Loc} (atLoc : c.phase i = .running l)
      (instr : p.instr l = .lock next) (free : c.owner = none) :
      Program.Move c (.exec i) { c.move i (.running next) with owner := some i }
  | unlock {i : ι} {l next : Loc} (atLoc : c.phase i = .running l)
      (instr : p.instr l = .unlock next) (owned : c.owner = some i) :
      Program.Move c (.exec i) { c.move i (.running next) with owner := none }
  | act {i : ι} {l : Loc} {f : Sh → Loc × Sh} (atLoc : c.phase i = .running l)
      (instr : p.instr l = .act f) :
      Program.Move c (.exec i)
        { c.move i (.running (f c.shared).1) with shared := (f c.shared).2 }
  | wait {i : ι} {l next : Loc} (atLoc : c.phase i = .running l)
      (instr : p.instr l = .wait next) (owned : c.owner = some i) :
      Program.Move c (.exec i)
        { c.move i (.waiting next) with owner := none, sleepers := i :: c.sleepers }
  | retake {i : ι} {l : Loc} (atLoc : c.phase i = .waiting l) (awake : i ∉ c.sleepers)
      (free : c.owner = none) :
      Program.Move c (.exec i) { c.move i (.running l) with owner := some i }
  | ret {i : ι} {l : Loc} (atLoc : c.phase i = .running l) (instr : p.instr l = .ret) :
      Program.Move c (.exec i) (c.move i (.returned l))
  | notify {i j : ι} {l next : Loc} (atLoc : c.phase i = .running l)
      (instr : p.instr l = .notifyOne next) (asleep : j ∈ c.sleepers) :
      Program.Move c (.notify i (some j))
        { c.move i (.running next) with sleepers := c.sleepers.erase j }
  | notifyNone {i : ι} {l next : Loc} (atLoc : c.phase i = .running l)
      (instr : p.instr l = .notifyOne next) (noneAsleep : c.sleepers = []) :
      Program.Move c (.notify i none) (c.move i (.running next))
  | wake {i : ι} (asleep : i ∈ c.sleepers) :
      Program.Move c (.wake i) { c with sleepers := c.sleepers.erase i }

variable {p}

/-- Everything a step can do. -/
theorem step_cases {c d : Config ι Loc Sh} {e : Event ι} (h : p.step c e = some d) :
    p.Move c e d := by
  cases e with
  | call i =>
    -- Only a thread that has not started does
    simp only [Program.step] at h
    split at h
    · rename_i hi
      cases h
      exact .call hi
    · exact nomatch h
  | exec i =>
    simp only [Program.step] at h
    split at h
    · rename_i l hl
      -- It is running: its instruction says what it does
      unfold Program.exec at h
      split at h
      · rename_i next hnext
        split at h
        · rename_i hfree
          cases h
          exact .lock hl hnext hfree
        · exact nomatch h
      · rename_i next hnext
        split at h
        · rename_i howned
          cases h
          exact .unlock hl hnext howned
        · exact nomatch h
      · rename_i f hf
        cases h
        exact .act hl hf
      · rename_i next hnext
        split at h
        · rename_i howned
          cases h
          exact .wait hl hnext howned
        · exact nomatch h
      · exact nomatch h
      · rename_i hret
        cases h
        exact .ret hl hret
    · rename_i l hl
      split at h
      · rename_i hawake
        cases h
        exact .retake hl hawake.1 hawake.2
      · exact nomatch h
    · exact nomatch h
  | notify i woken =>
    simp only [Program.step] at h
    split at h
    · rename_i l hl
      split at h
      · rename_i next j hnext
        split at h
        · rename_i hj
          cases h
          exact .notify hl hnext hj
        · exact nomatch h
      · rename_i next hnext
        split at h
        · rename_i hnone
          cases h
          exact .notifyNone hl hnext hnone
        · exact nomatch h
      · exact nomatch h
    · exact nomatch h
  | wake i =>
    simp only [Program.step] at h
    split at h
    · rename_i hi
      cases h
      exact .wake hi
    · exact nomatch h

/-- What the steps of a program are, they do. -/
theorem step_of_move {c d : Config ι Loc Sh} {e : Event ι} (h : p.Move c e d) :
    p.step c e = some d := by
  cases h with
  | call idle => simp [Program.step, idle]
  | lock atLoc instr free => simp [Program.step, atLoc, Program.exec, instr, free]
  | unlock atLoc instr owned => simp [Program.step, atLoc, Program.exec, instr, owned]
  | act atLoc instr => simp [Program.step, atLoc, Program.exec, instr]
  | wait atLoc instr owned => simp [Program.step, atLoc, Program.exec, instr, owned]
  | retake atLoc awake free => simp [Program.step, atLoc, awake, free]
  | ret atLoc instr => simp [Program.step, atLoc, Program.exec, instr]
  | notify atLoc instr asleep => simp [Program.step, atLoc, instr, asleep]
  | notifyNone atLoc instr noneAsleep => simp [Program.step, atLoc, instr, noneAsleep]
  | wake asleep => simp [Program.step, asleep]

/-! ## Runs -/

@[simp] theorem run_nil (c : Config ι Loc Sh) : p.run c [] = some c := rfl

/-- A run of two traces is a run of the second from where the first leads. -/
theorem run_append (c : Config ι Loc Sh) (tr₁ tr₂ : List (Event ι)) :
    p.run c (tr₁ ++ tr₂) = (p.run c tr₁).bind fun d => p.run d tr₂ :=
  List.foldlM_append

/-- A run of one more event is a run followed by a step. -/
theorem run_concat {c d : Config ι Loc Sh} {tr : List (Event ι)} {e : Event ι} :
    p.run c (tr ++ [e]) = some d ↔ ∃ m, p.run c tr = some m ∧ p.step m e = some d := by
  rw [run_append, Option.bind_eq_some_iff]
  -- The fold over a single event is that event's step
  simp only [Program.run, List.foldlM_cons, List.foldlM_nil, bind_pure]

/-- What holds before the first event and is kept by every step of a run holds after it. -/
theorem run_induction {c₀ : Config ι Loc Sh} {P : Config ι Loc Sh → Prop} (h0 : P c₀)
    (hstep : ∀ tr c e d, p.run c₀ tr = some c → P c → p.Move c e d → P d)
    {tr : List (Event ι)} {c : Config ι Loc Sh} (h : p.run c₀ tr = some c) : P c := by
  induction tr using List.reverseRecOn generalizing c with
  | nil =>
    rw [run_nil, Option.some.injEq] at h
    rwa [← h]
  | append_singleton tr e ih =>
    obtain ⟨m, hm, hd⟩ := run_concat.mp h
    exact hstep tr m e c hm (ih hm) (step_cases hd)

/-! ## Locations that are not left -/

/-- A thread is at one of some locations. -/
def Config.At (L : Loc → Prop) (c : Config ι Loc Sh) (i : ι) : Prop :=
  ∃ l, (c.phase i).loc? = some l ∧ L l

/-- Locations that a thread does not leave once it has come to one of them. -/
structure Closed (p : Program ι Loc Sh) (L : Loc → Prop) : Prop where
  goesOn : ∀ l next, (p.instr l).next? = some next → L l → L next
  act : ∀ l f s, p.instr l = .act f → L l → L (f s).1

/-- A thread that has moved is at one of the locations if it was at one of them. -/
theorem At.moved {L : Loc → Prop} {c d : Config ι Loc Sh} {i j : ι} {ph : Phase Loc}
    (h : c.At L j) (hd : d.phase = Function.update c.phase i ph)
    (hi : ∀ l, (c.phase i).loc? = some l → L l → ∃ l', ph.loc? = some l' ∧ L l') : d.At L j := by
  obtain ⟨l, hl, hL⟩ := h
  unfold Config.At
  rw [hd]
  by_cases hj : j = i
  · subst hj
    rw [Function.update_self]
    exact hi l hl hL
  · rw [Function.update_of_ne hj]
    exact ⟨l, hl, hL⟩

/-- No step leaves closed locations. -/
theorem Closed.step {L : Loc → Prop} (hL : Closed p L) {c d : Config ι Loc Sh} {e : Event ι}
    (hmove : p.Move c e d) {j : ι} (h : c.At L j) : d.At L j := by
  -- Any instruction that leaves the shared state alone goes on inside of `L`
  have goes_on : ∀ i l next, c.phase i = .running l → (p.instr l).next? = some next →
      ∀ l₁, (c.phase i).loc? = some l₁ → L l₁ → L next := by
    intro i l next hl hnext l₁ hl₁ h₁
    rw [hl] at hl₁
    cases hl₁
    exact hL.goesOn l next hnext h₁
  cases hmove with
  | @call i idle =>
    apply At.moved h rfl
    intro l hl
    rw [idle] at hl
    exact nomatch hl
  | @lock i l next atLoc instr free =>
    exact At.moved h rfl fun l₁ hl₁ h₁ =>
      ⟨next, rfl, goes_on i l next atLoc (by rw [instr]; rfl) l₁ hl₁ h₁⟩
  | @unlock i l next atLoc instr owned =>
    exact At.moved h rfl fun l₁ hl₁ h₁ =>
      ⟨next, rfl, goes_on i l next atLoc (by rw [instr]; rfl) l₁ hl₁ h₁⟩
  | @act i l f atLoc instr =>
    apply At.moved h rfl
    intro l₁ hl₁ h₁
    rw [atLoc] at hl₁
    cases hl₁
    -- Where an action leads to depends on the state it finds
    exact ⟨_, rfl, hL.act l f c.shared instr h₁⟩
  | @wait i l next atLoc instr owned =>
    exact At.moved h rfl fun l₁ hl₁ h₁ =>
      ⟨next, rfl, goes_on i l next atLoc (by rw [instr]; rfl) l₁ hl₁ h₁⟩
  | @retake i l atLoc awake free =>
    apply At.moved h rfl
    intro l₁ hl₁ h₁
    rw [atLoc] at hl₁
    exact ⟨l₁, hl₁, h₁⟩
  | @ret i l atLoc instr =>
    apply At.moved h rfl
    intro l₁ hl₁ h₁
    rw [atLoc] at hl₁
    exact ⟨l₁, hl₁, h₁⟩
  | @notify i j l next atLoc instr asleep =>
    exact At.moved h rfl fun l₁ hl₁ h₁ =>
      ⟨next, rfl, goes_on i l next atLoc (by rw [instr]; rfl) l₁ hl₁ h₁⟩
  | @notifyNone i l next atLoc instr noneAsleep =>
    exact At.moved h rfl fun l₁ hl₁ h₁ =>
      ⟨next, rfl, goes_on i l next atLoc (by rw [instr]; rfl) l₁ hl₁ h₁⟩
  | @wake i asleep => exact h

/-- Only an action changes the shared state. -/
theorem shared_cases {c d : Config ι Loc Sh} {e : Event ι} (hmove : p.Move c e d) :
    d.shared = c.shared ∨ ∃ i l f, c.phase i = .running l ∧ p.instr l = .act f ∧
      d.shared = (f c.shared).2 ∧ d.phase i = .running (f c.shared).1 := by
  cases hmove with
  | @act i l f atLoc instr =>
    right
    exact ⟨i, l, f, atLoc, instr, rfl, by simp only [Config.move, Function.update_self]⟩
  | _ => exact .inl rfl

/-! ## The mutex -/

/-- A thread runs at a location which holds the mutex. -/
def Config.Holds (holds : Loc → Prop) (c : Config ι Loc Sh) (i : ι) : Prop :=
  ∃ l, c.phase i = .running l ∧ holds l

/-- The mutex is taken where it is not held, and given back or left to sleep with where it
    is; nothing else changes whether it is held. -/
structure Disciplined (p : Program ι Loc Sh) (holds : Loc → Prop) : Prop where
  start : ∀ i, ¬holds (p.start i)
  lock : ∀ l next, p.instr l = .lock next → ¬holds l ∧ holds next
  unlock : ∀ l next, p.instr l = .unlock next → holds l ∧ ¬holds next
  act : ∀ l f s, p.instr l = .act f → (holds (f s).1 ↔ holds l)
  wait : ∀ l next, p.instr l = .wait next → holds l ∧ holds next
  notifyOne : ∀ l next, p.instr l = .notifyOne next → (holds next ↔ holds l)
  ret : ∀ l, p.instr l = .ret → ¬holds l

/-- Who owns the mutex, who sleeps, and where the threads are, related. -/
structure Consistent (p : Program ι Loc Sh) (holds : Loc → Prop) (c : Config ι Loc Sh) :
    Prop where
  /-- the owner of the mutex is the thread at a location which holds it -/
  owner : ∀ i, c.owner = some i ↔ c.Holds holds i
  /-- a thread that sleeps waits -/
  asleep : ∀ i ∈ c.sleepers, ∃ l, c.phase i = .waiting l
  nodup : c.sleepers.Nodup
  /-- a thread that waits came from a wait -/
  waiting : ∀ i l, c.phase i = .waiting l → ∃ l₀, p.instr l₀ = .wait l
  /-- a thread that returned was to return -/
  returned : ∀ i l, c.phase i = .returned l → p.instr l = .ret

omit [DecidableEq ι] in
/-- Before the first thread starts. -/
theorem consistent_initial (holds : Loc → Prop) (s : Sh) :
    Consistent p holds (.initial s : Config ι Loc Sh) := by
  constructor <;> simp [Config.initial, Config.Holds]

namespace Consistent

variable {holds : Loc → Prop} {c d : Config ι Loc Sh} {i : ι} {l : Loc}

omit [DecidableEq ι] in
/-- A thread owns the mutex if its location holds it. -/
theorem owner_iff (h : Consistent p holds c) (hl : c.phase i = .running l) :
    c.owner = some i ↔ holds l := by
  rw [h.owner]
  simp [Config.Holds, hl]

omit [DecidableEq ι] in
/-- A thread that is not running does not own it. -/
theorem owner_ne (h : Consistent p holds c) (hl : ∀ l, c.phase i ≠ .running l) :
    c.owner ≠ some i := by
  rw [ne_eq, h.owner]
  intro ⟨l, hrunning, _⟩
  exact hl l hrunning

omit [DecidableEq ι] in
/-- A thread that does not wait is not asleep. -/
theorem not_mem_sleepers (h : Consistent p holds c) (hl : ∀ l, c.phase i ≠ .waiting l) :
    i ∉ c.sleepers := by
  intro hi
  obtain ⟨l, hwaiting⟩ := h.asleep i hi
  exact hl l hwaiting

omit [DecidableEq ι] in
/-- In particular one that is running is not. -/
theorem awake (h : Consistent p holds c) (hl : c.phase i = .running l) : i ∉ c.sleepers := by
  apply h.not_mem_sleepers
  rw [hl]
  exact fun _ => nofun

/-- One thread moves, which changes the ownership of the mutex for itself at most. -/
theorem move (h : Consistent p holds c) (ph : Phase Loc) (s : Sh) {owner : Option ι}
    {sleepers : List ι} (howner : owner = some i ↔ ∃ l, ph = .running l ∧ holds l)
    (hothers : ∀ j, j ≠ i → (owner = some j ↔ c.owner = some j))
    (hasleep : i ∈ sleepers → ∃ l, ph = .waiting l)
    (hold : ∀ j ∈ sleepers, j ≠ i → j ∈ c.sleepers)
    (hnodup : sleepers.Nodup) (hwaiting : ∀ l, ph = .waiting l → ∃ l₀, p.instr l₀ = .wait l)
    (hreturned : ∀ l, ph = .returned l → p.instr l = .ret) :
    Consistent p holds ⟨s, owner, sleepers, Function.update c.phase i ph⟩ := by
  constructor
  · intro j
    by_cases hj : j = i
    · subst hj
      -- The thread that moves, and after it any other one
      simpa only [Config.Holds, Function.update_self] using howner
    · rw [hothers j hj, h.owner]
      simp only [Config.Holds, Function.update_of_ne hj]
  · intro j hmem
    by_cases hj : j = i
    · subst hj
      simpa only [Function.update_self] using hasleep hmem
    · simpa only [Function.update_of_ne hj] using h.asleep j (hold j hmem hj)
  · exact hnodup
  · intro j l hl
    dsimp only at hl
    by_cases hj : j = i
    · subst hj
      rw [Function.update_self] at hl
      exact hwaiting l hl
    · rw [Function.update_of_ne hj] at hl
      exact h.waiting j l hl
  · intro j l hl
    dsimp only at hl
    by_cases hj : j = i
    · subst hj
      rw [Function.update_self] at hl
      exact hreturned l hl
    · rw [Function.update_of_ne hj] at hl
      exact h.returned j l hl

/-- A thread that is awake goes on at another location. -/
theorem goOn (h : Consistent p holds c) (s : Sh) {owner : Option ι} {sleepers : List ι}
    {next : Loc} (hi : i ∉ c.sleepers) (hsub : sleepers.Sublist c.sleepers)
    (howner : owner = some i ↔ holds next)
    (hothers : ∀ j, j ≠ i → (owner = some j ↔ c.owner = some j)) :
    Consistent p holds ⟨s, owner, sleepers, Function.update c.phase i (.running next)⟩ := by
  apply h.move (.running next) s _ hothers (fun hmem => absurd (hsub.subset hmem) hi)
    (fun j hj _ => hsub.subset hj) (hsub.nodup h.nodup) (fun _ => nofun) (fun _ => nofun)
  simpa using howner

/-- A thread takes the mutex. -/
theorem take (h : Consistent p holds c) {next : Loc} (hfree : c.owner = none)
    (hnext : holds next) (hi : i ∉ c.sleepers) :
    Consistent p holds { c.move i (.running next) with owner := some i } := by
  apply h.goOn c.shared hi (List.Sublist.refl _)
  · simpa using hnext
  · intro j hj
    rw [hfree]
    simp [Ne.symm hj]

omit [DecidableEq ι] in
/-- When the owner gives the mutex back, no other thread had it, and none has it now. -/
theorem released (howned : c.owner = some i) (j : ι) (hj : j ≠ i) :
    none = some j ↔ c.owner = some j := by
  rw [howned]
  simp [Ne.symm hj]

/-- Every step of a disciplined program keeps the configuration consistent. -/
theorem step (hp : Disciplined p holds) (h : Consistent p holds c) {e : Event ι}
    (hmove : p.Move c e d) : Consistent p holds d := by
  cases hmove with
  | @call i idle =>
    -- It has not started, so it neither owns the mutex nor sleeps
    have howner : c.owner ≠ some i := by
      apply h.owner_ne
      rw [idle]
      exact fun _ => nofun
    have hi : i ∉ c.sleepers := by
      apply h.not_mem_sleepers
      rw [idle]
      exact fun _ => nofun
    apply h.goOn c.shared hi (List.Sublist.refl _) _ (fun _ _ => Iff.rfl)
    simpa [howner] using hp.start i
  | @lock i l next atLoc instr free =>
    -- The mutex is free before and belongs to `i` after the step
    exact h.take free (hp.lock l next instr).2 (h.awake atLoc)
  | @unlock i l next atLoc instr owned =>
    apply h.goOn c.shared (h.awake atLoc) (List.Sublist.refl _) _ (released owned)
    -- It no longer holds the mutex where it goes on
    simpa using (hp.unlock l next instr).2
  | @act i l f atLoc instr =>
    apply h.goOn _ (h.awake atLoc) (List.Sublist.refl _) _ (fun _ _ => Iff.rfl)
    rw [h.owner_iff atLoc, hp.act l f c.shared instr]
  -- It gives the mutex back and falls asleep in one step
  | @wait i l next atLoc instr owned =>
    have hold : ∀ j ∈ i :: c.sleepers, j ≠ i → j ∈ c.sleepers :=
      fun j hj hne => (List.mem_cons.mp hj).resolve_left hne
    have hnodup : (i :: c.sleepers).Nodup := List.nodup_cons.mpr ⟨h.awake atLoc, h.nodup⟩
    apply h.move (.waiting next) c.shared (by simp) (released owned) (fun _ => ⟨next, rfl⟩) hold
      hnodup _ (fun _ => nofun)
    intro l' hl'
    cases hl'
    exact ⟨l, instr⟩
  -- Where a wait leads to holds the mutex again
  | @retake i l atLoc awake free =>
    obtain ⟨l₀, hwait⟩ := h.waiting i l atLoc
    exact h.take free (hp.wait l₀ l hwait).2 awake
  | @ret i l atLoc instr =>
    have howner : c.owner ≠ some i :=
      -- No thread returns with the mutex
      fun howned => hp.ret l instr ((h.owner_iff atLoc).mp howned)
    apply h.move (.returned l) c.shared (by simpa using howner) (fun _ _ => Iff.rfl)
      (fun hmem => absurd hmem (h.awake atLoc)) (fun j hj _ => hj) h.nodup (fun _ => nofun)
    intro l' hl'
    cases hl'
    exact instr
  | @notify i j l next atLoc instr asleep =>
    apply h.goOn c.shared (h.awake atLoc) List.erase_sublist _ (fun _ _ => Iff.rfl)
    rw [h.owner_iff atLoc, hp.notifyOne l next instr]
  | @notifyNone i l next atLoc instr noneAsleep =>
    apply h.goOn c.shared (h.awake atLoc) (List.Sublist.refl _) _ (fun _ _ => Iff.rfl)
    rw [h.owner_iff atLoc, hp.notifyOne l next instr]
  | @wake i asleep =>
    exact ⟨h.owner, fun j hj => h.asleep j (List.mem_of_mem_erase hj), h.nodup.erase i,
      h.waiting, h.returned⟩

end Consistent

/-- Every configuration a disciplined program reaches is consistent. -/
theorem Disciplined.run {holds : Loc → Prop} (hp : Disciplined p holds) {s : Sh}
    {tr : List (Event ι)} {c : Config ι Loc Sh} (h : p.run (.initial s) tr = some c) :
    Consistent p holds c :=
  run_induction (consistent_initial holds s) (fun _ _ _ _ _ hc hmove => hc.step hp hmove) h

/-! ## What threads know -/

/-- What each thread knows about the shared state at each location. A thread learns it by
    its own steps, and the actions of other threads leave it true; an action at a location
    which holds the mutex need not be considered where the mutex is held as well. -/
structure Outline (p : Program ι Loc Sh) (holds : Loc → Prop) (A : ι → Loc → Sh → Prop) :
    Prop where
  start : ∀ i s, A i (p.start i) s
  goesOn : ∀ i l next s, (p.instr l).next? = some next → A i l s → A i next s
  act : ∀ i l f s, p.instr l = .act f → A i l s → A i (f s).1 (f s).2
  stable : ∀ i j l l' f s, j ≠ i → p.instr l = .act f → A i l s → A j l' s →
    ¬(holds l ∧ holds l') → A j l' (f s).2
  stableAsleep : ∀ i j l l₀ l' f s, j ≠ i → p.instr l = .act f → A i l s →
    p.instr l₀ = .wait l' → A j l' s → A j l' (f s).2

/-- Every thread is right about the shared state. -/
def Config.Knows (A : ι → Loc → Sh → Prop) (c : Config ι Loc Sh) : Prop :=
  ∀ j l, (c.phase j).loc? = some l → A j l c.shared

/-- One thread moves; the others still know what they knew. -/
theorem Config.Knows.move {A : ι → Loc → Sh → Prop} {c : Config ι Loc Sh} {i : ι}
    {ph : Phase Loc} {s : Sh} (owner : Option ι) (sleepers : List ι)
    (hi : ∀ l, ph.loc? = some l → A i l s)
    (hothers : ∀ j l, j ≠ i → (c.phase j).loc? = some l → A j l s) :
    Config.Knows A ⟨s, owner, sleepers, Function.update c.phase i ph⟩ := by
  intro j l hl
  dsimp only at hl ⊢
  by_cases hj : j = i
  · subst hj
    rw [Function.update_self] at hl
    exact hi l hl
  · rw [Function.update_of_ne hj] at hl
    exact hothers j l hj hl

/-- A thread goes on and leaves the shared state alone. -/
theorem Config.Knows.goOn {A : ι → Loc → Sh → Prop} {c : Config ι Loc Sh} {i : ι} {l : Loc}
    {ph : Phase Loc} (owner : Option ι) (sleepers : List ι) (h : c.Knows A)
    (hl : ph.loc? = some l) (hi : A i l c.shared) :
    Config.Knows A ⟨c.shared, owner, sleepers, Function.update c.phase i ph⟩ := by
  apply Config.Knows.move owner sleepers _ (fun j l' _ hl' => h j l' hl')
  intro l' hl'
  rw [hl, Option.some.injEq] at hl'
  rwa [← hl']

/-- Every step keeps the threads right. -/
theorem Outline.step {holds : Loc → Prop} {A : ι → Loc → Sh → Prop} (ho : Outline p holds A)
    (hp : Disciplined p holds) {c d : Config ι Loc Sh} {e : Event ι} (hc : Consistent p holds c)
    (h : c.Knows A) (hmove : p.Move c e d) : d.Knows A := by
  -- A thread that is running knows what is said at its location
  have at_running : ∀ i l, c.phase i = .running l → A i l c.shared := by
    intro i l hl
    apply h i l
    rw [hl]
    rfl
  cases hmove with
  | @call i idle => exact h.goOn c.owner c.sleepers rfl (ho.start i c.shared)
  | @lock i l next atLoc instr free =>
    apply h.goOn _ _ rfl
    exact ho.goesOn i l next c.shared (by rw [instr]; rfl) (at_running i l atLoc)
  | @unlock i l next atLoc instr owned =>
    apply h.goOn _ _ rfl
    exact ho.goesOn i l next c.shared (by rw [instr]; rfl) (at_running i l atLoc)
  | @act i l f atLoc instr =>
    have hi := at_running i l atLoc
    apply Config.Knows.move
    · intro l' hl'
      cases hl'
      exact ho.act i l f c.shared instr hi
    · intro j l' hj hl'
      have hknown := h j l' hl'
      -- An action is no matter of another thread that sleeps or holds the mutex
      cases hph : c.phase j with
      | idle =>
        rw [hph] at hl'
        exact nomatch hl'
      | running l₁ =>
        rw [hph] at hl'
        cases hl'
        apply ho.stable i j l l' f c.shared hj instr hi hknown
        -- Both would own the mutex
        intro ⟨hl, hl'⟩
        have howner := (hc.owner_iff atLoc).mpr hl
        rw [(hc.owner_iff hph).mpr hl'] at howner
        cases howner
        exact hj rfl
      | waiting l₁ =>
        rw [hph] at hl'
        cases hl'
        -- It came from a wait, whose location `stableAsleep` is about
        obtain ⟨l₀, hwait⟩ := hc.waiting j l' hph
        exact ho.stableAsleep i j l l₀ l' f c.shared hj instr hi hwait hknown
      | returned l₁ =>
        rw [hph] at hl'
        cases hl'
        apply ho.stable i j l l' f c.shared hj instr hi hknown
        -- It has returned, so it does not hold the mutex
        exact fun hboth => hp.ret l' (hc.returned j l' hph) hboth.2
  | @wait i l next atLoc instr owned =>
    apply h.goOn _ _ rfl
    exact ho.goesOn i l next c.shared (by rw [instr]; rfl) (at_running i l atLoc)
  | @retake i l atLoc awake free =>
    apply h.goOn _ _ rfl
    exact h i l (by rw [atLoc]; rfl)
  | @ret i l atLoc instr => exact h.goOn _ _ rfl (at_running i l atLoc)
  | @notify i j l next atLoc instr asleep =>
    apply h.goOn _ _ rfl
    exact ho.goesOn i l next c.shared (by rw [instr]; rfl) (at_running i l atLoc)
  | @notifyNone i l next atLoc instr noneAsleep =>
    apply h.goOn _ _ rfl
    exact ho.goesOn i l next c.shared (by rw [instr]; rfl) (at_running i l atLoc)
  | @wake i asleep => exact h

/-- In every configuration that is reached, every thread is right. -/
theorem Outline.run {holds : Loc → Prop} {A : ι → Loc → Sh → Prop} (ho : Outline p holds A)
    (hp : Disciplined p holds) {s : Sh} {tr : List (Event ι)} {c : Config ι Loc Sh}
    (h : p.run (.initial s) tr = some c) : c.Knows A := by
  have hstart : (Config.initial s : Config ι Loc Sh).Knows A := fun _ _ => nofun
  apply run_induction hstart _ h
  intro tr c e d hc hknows hmove
  exact ho.step hp (hp.run hc) hknows hmove

/-! ## Notifications -/

/-- One thread waits for the shared state to be ready, and the others notify it once they
    know that it is: `notified` are the locations after their notification. -/
structure Signals (p : Program ι Loc Sh) (A : ι → Loc → Sh → Prop) (waiter : ι)
    (ready : Sh → Prop) (notified : Loc → Prop) : Prop where
  start : ∀ i, ¬notified (p.start i)
  informed : ∀ i l s, A i l s → notified l → ready s
  wait : ∀ i l next s, p.instr l = .wait next → A i l s → i = waiter ∧ ¬ready s
  goesOn : ∀ l next, (p.instr l).next? = some next → p.instr l ≠ .notifyOne next →
    notified next → notified l
  act : ∀ i l f s, p.instr l = .act f → A i l s → notified (f s).1 → notified l

/-- Only the one thread sleeps, and it does not once another one has notified it. -/
structure Config.Signalled (waiter : ι) (notified : Loc → Prop) (c : Config ι Loc Sh) :
    Prop where
  sleepers : ∀ i ∈ c.sleepers, i = waiter
  awake : ∀ i l, (c.phase i).loc? = some l → notified l → c.sleepers = []

/-- A thread moves, and no other one falls asleep. -/
theorem Config.Signalled.move {waiter : ι} {notified : Loc → Prop} {c : Config ι Loc Sh}
    (h : c.Signalled waiter notified) {i : ι} {ph : Phase Loc} (s : Sh) (owner : Option ι)
    (hi : ∀ l, ph.loc? = some l → notified l → c.sleepers = []) :
    Config.Signalled waiter notified ⟨s, owner, c.sleepers, Function.update c.phase i ph⟩ := by
  constructor
  · exact h.sleepers
  · intro j l hl hnotified
    dsimp only at hl ⊢
    by_cases hj : j = i
    · subst hj
      rw [Function.update_self] at hl
      exact hi l hl hnotified
    · rw [Function.update_of_ne hj] at hl
      exact h.awake j l hl hnotified

/-- Every step keeps the waiting thread from sleeping through its notification. -/
theorem Signals.step {holds : Loc → Prop} {A : ι → Loc → Sh → Prop} {waiter : ι}
    {ready : Sh → Prop} {notified : Loc → Prop} (hs : Signals p A waiter ready notified)
    {c d : Config ι Loc Sh} {e : Event ι} (hc : Consistent p holds c) (hknows : c.Knows A)
    (h : c.Signalled waiter notified) (hmove : p.Move c e d) : d.Signalled waiter notified := by
  have at_running : ∀ i l, c.phase i = .running l → (c.phase i).loc? = some l := by
    intro i l hl
    rw [hl]
    rfl
  -- Going on without a notification, a thread has notified if it had before
  have goes_on : ∀ i l next, c.phase i = .running l → (p.instr l).next? = some next →
      p.instr l ≠ .notifyOne next → ∀ l', (Phase.running next).loc? = some l' →
      notified l' → c.sleepers = [] := by
    intro i l next hl hnext hne l' hl' hnotified
    cases hl'
    exact h.awake i l (at_running i l hl) (hs.goesOn l next hnext hne hnotified)
  cases hmove with
  | @call i idle =>
    apply h.move
    intro l hl hnotified
    cases hl
    -- No thread has notified when it starts
    exact absurd hnotified (hs.start i)
  | @lock i l next atLoc instr free =>
    exact h.move _ _ (goes_on i l next atLoc (by rw [instr]; rfl) (by rw [instr]; exact nofun))
  | @unlock i l next atLoc instr owned =>
    exact h.move _ _ (goes_on i l next atLoc (by rw [instr]; rfl) (by rw [instr]; exact nofun))
  | @act i l f atLoc instr =>
    have hl := at_running i l atLoc
    apply h.move
    intro l' hl' hnotified
    cases hl'
    exact h.awake i l hl (hs.act i l f c.shared instr (hknows i l hl) hnotified)
  | @wait i l next atLoc instr owned =>
    have hl := at_running i l atLoc
    obtain ⟨hwaiter, hnot⟩ := hs.wait i l next c.shared instr (hknows i l hl)
    constructor
    · intro j hj
      obtain rfl | hold := List.mem_cons.mp hj
      · exact hwaiter
      · exact h.sleepers j hold
    · -- It goes to sleep while the state is not ready, so no one has notified
      intro j l' hl' hnotified
      dsimp only [Config.move] at hl'
      by_cases hj : j = i
      · subst hj
        rw [Function.update_self] at hl'
        cases hl'
        have hbefore := hs.goesOn l next (by rw [instr]; rfl) (by rw [instr]; exact nofun) hnotified
        exact absurd (hs.informed j l c.shared (hknows j l hl) hbefore) hnot
      · rw [Function.update_of_ne hj] at hl'
        exact absurd (hs.informed j l' c.shared (hknows j l' hl') hnotified) hnot
  | @retake i l atLoc awake free =>
    apply h.move
    intro l' hl' hnotified
    cases hl'
    exact h.awake i l (by rw [atLoc]; rfl) hnotified
  | @ret i l atLoc instr =>
    apply h.move
    intro l' hl' hnotified
    cases hl'
    exact h.awake i l (at_running i l atLoc) hnotified
  | @notify i j l next atLoc instr asleep =>
    -- The one thread that sleeps is woken up
    have hone : c.sleepers.erase j = [] := by
      apply List.eq_nil_iff_forall_not_mem.mpr
      intro k hk
      obtain ⟨hne, hmem⟩ := hc.nodup.mem_erase_iff.mp hk
      exact hne ((h.sleepers k hmem).trans (h.sleepers j asleep).symm)
    constructor
    · intro k hk
      exact h.sleepers k (List.mem_of_mem_erase hk)
    · exact fun _ _ _ _ => hone
  | @notifyNone i l next atLoc instr noneAsleep =>
    exact h.move _ _ fun _ _ _ => noneAsleep
  | @wake i asleep =>
    constructor
    · intro k hk
      exact h.sleepers k (List.mem_of_mem_erase hk)
    · intro k l hl hnotified
      dsimp only at hl ⊢
      -- There is no sleeper to wake up once a thread has notified
      rw [h.awake k l hl hnotified]
      rfl

/-- In every configuration that is reached, no thread sleeps once another one has sent its
    notification. -/
theorem Signals.run {holds : Loc → Prop} {A : ι → Loc → Sh → Prop} {waiter : ι}
    {ready : Sh → Prop} {notified : Loc → Prop} (hs : Signals p A waiter ready notified)
    (hp : Disciplined p holds) (ho : Outline p holds A) {s : Sh} {tr : List (Event ι)}
    {c : Config ι Loc Sh} (h : p.run (.initial s) tr = some c) :
    c.Signalled waiter notified := by
  have hstart : (Config.initial s : Config ι Loc Sh).Signalled waiter notified :=
    ⟨nofun, fun _ _ => nofun⟩
  apply run_induction hstart _ h
  intro tr c e d hc hsignalled hmove
  exact hs.step (hp.run hc) (ho.run hp hc) hsignalled hmove

/-! ## Who can go on -/

/-- A thread can go on by itself. -/
def Program.Enabled (p : Program ι Loc Sh) (c : Config ι Loc Sh) (i : ι) : Prop :=
  ∃ e d, e.mover? = some i ∧ p.step c e = some d

/-- A thread is about to take the mutex. -/
def Config.WantsMutex (p : Program ι Loc Sh) (c : Config ι Loc Sh) (i : ι) : Prop :=
  (∃ l next, c.phase i = .running l ∧ p.instr l = .lock next) ∨
  (∃ l, c.phase i = .waiting l ∧ i ∉ c.sleepers)

/-- One thread keeps another from going on: it owns the mutex the other is about to take, or
    the other sleeps and is to be woken up. -/
def Config.Keeps (p : Program ι Loc Sh) (c : Config ι Loc Sh) (i j : ι) : Prop :=
  (c.WantsMutex p j ∧ c.owner = some i) ∨ (j ∈ c.sleepers ∧ i ≠ j)

namespace Consistent

variable {holds : Loc → Prop} {c : Config ι Loc Sh} {i j : ι}

/-- A thread that is about to take the mutex can, unless another one owns it. -/
theorem enabled_of_wantsMutex (hi : c.WantsMutex p i) (hfree : c.owner = none) :
    p.Enabled c i := by
  obtain ⟨l, next, hl, hinstr⟩ | ⟨l, hl, hawake⟩ := hi
  · exact ⟨.exec i, _, rfl, step_of_move (.lock hl hinstr hfree)⟩
  · exact ⟨.exec i, _, rfl, step_of_move (.retake hl hawake hfree)⟩

/-- A thread that is running can go on, unless it is about to take the mutex. -/
theorem enabled_of_running (hp : Disciplined p holds) (h : Consistent p holds c) {l : Loc}
    (hl : c.phase i = .running l) (hlock : ∀ next, p.instr l ≠ .lock next) : p.Enabled c i := by
  cases hinstr : p.instr l with
  | lock next => exact absurd hinstr (hlock next)
  | unlock next =>
    -- It holds the mutex at its location, so it may give it back
    have howner := (h.owner_iff hl).mpr (hp.unlock l next hinstr).1
    exact ⟨.exec i, _, rfl, step_of_move (.unlock hl hinstr howner)⟩
  | act f => exact ⟨.exec i, _, rfl, step_of_move (.act hl hinstr)⟩
  | wait next =>
    have howner := (h.owner_iff hl).mpr (hp.wait l next hinstr).1
    exact ⟨.exec i, _, rfl, step_of_move (.wait hl hinstr howner)⟩
  | notifyOne next =>
    -- It wakes up the first sleeper, if there is one
    cases hsleepers : c.sleepers with
    | nil => exact ⟨.notify i none, _, rfl, step_of_move (.notifyNone hl hinstr hsleepers)⟩
    | cons j rest =>
      have hj : j ∈ c.sleepers := by simp [hsleepers]
      exact ⟨.notify i (some j), _, rfl, step_of_move (.notify hl hinstr hj)⟩
  | ret => exact ⟨.exec i, _, rfl, step_of_move (.ret hl hinstr)⟩

omit [DecidableEq ι] in
/-- The owner of the mutex is not about to take it, and is not asleep. -/
theorem not_wantsMutex_of_owner (hp : Disciplined p holds) (h : Consistent p holds c)
    (howner : c.owner = some i) : ¬c.WantsMutex p i ∧ i ∉ c.sleepers := by
  obtain ⟨l, hl, hholds⟩ := (h.owner i).mp howner
  apply And.intro _ (h.awake hl)
  rintro (⟨l', next, hl', hinstr⟩ | ⟨l', hl', _⟩)
  · rw [hl] at hl'
    cases hl'
    -- The mutex is not held where it is taken
    exact (hp.lock l next hinstr).1 hholds
  · rw [hl] at hl'
    exact nomatch hl'

/-- The owner of the mutex can go on. -/
theorem enabled_of_owner (hp : Disciplined p holds) (h : Consistent p holds c)
    (howner : c.owner = some i) : p.Enabled c i := by
  obtain ⟨l, hl, hholds⟩ := (h.owner i).mp howner
  apply h.enabled_of_running hp hl
  intro next hinstr
  exact (hp.lock l next hinstr).1 hholds

/-- A thread that has started and not returned can go on, or is asleep, or is about to take
    the mutex that another thread owns, which can go on. -/
theorem blocked_cases (hp : Disciplined p holds) (h : Consistent p holds c)
    (hstarted : c.phase i ≠ .idle) (hreturned : ∀ l, c.phase i ≠ .returned l) :
    p.Enabled c i ∨ i ∈ c.sleepers ∨
      ∃ j, j ≠ i ∧ c.WantsMutex p i ∧ c.owner = some j ∧ p.Enabled c j := by
  -- It needs the mutex, or nothing but its turn
  by_cases hwants : c.WantsMutex p i
  · cases howner : c.owner with
    | none => exact .inl (enabled_of_wantsMutex hwants howner)
    | some j =>
      have hne : j ≠ i := by
        rintro rfl
        exact (h.not_wantsMutex_of_owner hp howner).1 hwants
      exact .inr (.inr ⟨j, hne, hwants, rfl, h.enabled_of_owner hp howner⟩)
  · cases hph : c.phase i with
    | idle => exact absurd hph hstarted
    | running l =>
      left
      -- It is not at a lock, since it would want the mutex there
      apply h.enabled_of_running hp hph
      intro next hinstr
      exact hwants (.inl ⟨l, next, hph, hinstr⟩)
    | waiting l =>
      right; left
      by_contra hawake
      exact hwants (.inr ⟨l, hph, hawake⟩)
    | returned l => exact absurd hph (hreturned l)

omit [DecidableEq ι] in
/-- Where only one thread sleeps, no two threads keep each other from going on. -/
theorem not_keeps_each_other (hp : Disciplined p holds) (h : Consistent p holds c) {waiter : ι}
    (hsleepers : ∀ i ∈ c.sleepers, i = waiter) (hij : c.Keeps p i j) : ¬c.Keeps p j i := by
  intro hji
  obtain ⟨hwants, howner⟩ | ⟨hasleep, hne⟩ := hij
  · -- `i` owns the mutex, so it waits for nothing
    obtain ⟨hnot, hawake⟩ := h.not_wantsMutex_of_owner hp howner
    obtain ⟨hwants', -⟩ | ⟨hasleep, -⟩ := hji
    · exact hnot hwants'
    · exact hawake hasleep
  · -- `j` sleeps: it does not own the mutex, and `i` does not sleep as well
    obtain ⟨-, howner⟩ | ⟨hasleep', -⟩ := hji
    · exact (h.not_wantsMutex_of_owner hp howner).2 hasleep
    · exact hne ((hsleepers i hasleep').trans (hsleepers j hasleep).symm)

end Consistent

end Runs

end Monitor
