import SapperBricks.Native.Handlers

/-!
# Shutting down the Pub/Sub handler

`Handle` sleeps on a condition variable until a `Stop` on another thread asks it to stop.
A `Stop` may come before `Handle` has started, while it subscribes, while it sleeps or
later, and none is lost: once one has completed, `Handle` does not sleep any more, and what
is left for it to do it can do.

## Key results

- `disciplined`, `outline`, `signals`: the code in the terms of `Monitor`
- `handle_can_leave`: after a `Stop`, `Handle` can go on to leave its wait
- `shutdown_not_lost`: what holds in every state that is reached
-/

namespace SapperBricks.PubSubHandler

open Monitor

/-! ## The code -/

/-- The locations at which `_stop_mutex` is held. -/
def Loc.holdsMutex : Loc → Bool
  | .subscribe => true
  | .checkStopRequested => true
  | .waitForStop => true
  | .cancel => true
  | .unlockAfterHandle => true
  | .unwind => true
  | .setStopRequested => true
  | .unlockAfterStop => true
  | _ => false

/-- The locations of `Handle` behind its wait. -/
def Loc.leftWait : Loc → Bool
  | .cancel => true
  | .unlockAfterHandle => true
  | .handled => true
  | _ => false

/-- The locations of `Handle` after an exception. -/
def Loc.threw : Loc → Bool
  | .unwind => true
  | .handleThrew => true
  | _ => false

/-- The locations of `Stop` at which it has set the flag. -/
def Loc.requested : Loc → Bool
  | .unlockAfterStop => true
  | .notify => true
  | .stopped => true
  | _ => false

/-- What a thread knows at a location: that it is one of its own, and what it has seen of the
    flag and the subscription. -/
def Knows {ι : Type} : HandlerCall ι → Loc → State → Prop
  | .handle, .lockForHandle, _ => True
  | .handle, .subscribe, _ => True
  | .handle, .checkStopRequested, s => s.subscribed = true
  | .handle, .waitForStop, s => s.subscribed = true ∧ s.stopRequested = false
  | .handle, .cancel, s => s.subscribed = true ∧ s.stopRequested = true
  | .handle, .unlockAfterHandle, s => s.subscribed = false ∧ s.stopRequested = true
  | .handle, .handled, s => s.subscribed = false ∧ s.stopRequested = true
  | .handle, .unwind, _ => True
  | .handle, .handleThrew, _ => True
  | .stop _, .lockForStop, _ => True
  | .stop _, .setStopRequested, _ => True
  | .stop _, .unlockAfterStop, s => s.stopRequested = true
  | .stop _, .notify, s => s.stopRequested = true
  | .stop _, .stopped, s => s.stopRequested = true
  | _, _, _ => False

variable {self : PubSubHandler} {ι : Type}

/-- What an action does to the shared state, and where it leads. -/
inductive Action : Loc → State → Loc × State → Prop
  | subscribe (s : State) :
      Action .subscribe s (.checkStopRequested, { s with subscribed := true })
  | throw (s : State) : Action .subscribe s (.unwind, s)
  | requested {s : State} (h : s.stopRequested = true) : Action .checkStopRequested s (.cancel, s)
  | notRequested {s : State} (h : s.stopRequested = false) :
      Action .checkStopRequested s (.waitForStop, s)
  | cancel (s : State) : Action .cancel s (.unlockAfterHandle, { s with subscribed := false })
  | setStopRequested (s : State) :
      Action .setStopRequested s (.unlockAfterStop, { s with stopRequested := true })

/-- Everything an action can do. -/
theorem action_cases {l : Loc} {f : State → Loc × State}
    (h : (self.program ι).instr l = .act f) (s : State) : Action l s (f s) := by
  cases l <;> simp only [program, reduceCtorEq, Instr.act.injEq] at h <;> subst h
  · cases self.subscribe with
    | error e => exact .throw s
    | ok u => exact .subscribe s
  · cases hs : s.stopRequested with
    | false => simpa [hs] using Action.notRequested hs
    | true => simpa [hs] using Action.requested hs
  · exact .cancel s
  · exact .setStopRequested s

/-- The mutex is taken and given back in turn. -/
theorem disciplined : Disciplined (self.program ι) (·.holdsMutex = true) := by
  constructor
  · intro i
    cases i <;> simp [program, Loc.holdsMutex]
  · intro l next h
    cases l <;> simp only [program, reduceCtorEq, Instr.lock.injEq] at h <;> subst h <;>
      simp [Loc.holdsMutex]
  · intro l next h
    cases l <;> simp only [program, reduceCtorEq, Instr.unlock.injEq] at h <;> subst h <;>
      simp [Loc.holdsMutex]
  · intro l f s h
    have haction := action_cases h s
    generalize f s = r at haction
    cases haction <;> simp [Loc.holdsMutex]
  · intro l next h
    cases l <;> simp only [program, reduceCtorEq, Instr.wait.injEq] at h
    subst h
    simp [Loc.holdsMutex]
  · intro l next h
    cases l <;> simp only [program, reduceCtorEq, Instr.notifyOne.injEq] at h
    subst h
    simp [Loc.holdsMutex]
  · intro l h
    cases l <;> simp only [program, reduceCtorEq] at h <;> simp [Loc.holdsMutex]

/-- The threads are right about the flag and the subscription. -/
theorem outline : Outline (self.program ι) (·.holdsMutex = true) Knows := by
  constructor
  · intro i s
    cases i <;> trivial
  · intro i l next s h
    cases i <;> cases l <;> simp only [program, Instr.next?, reduceCtorEq, Option.some.injEq] at h <;>
      subst h <;> simp only [Knows] <;> simp_all
  · intro i l f s h hknows
    have haction := action_cases h s
    generalize f s = r at haction ⊢
    cases haction <;> cases i <;> simp_all [Knows]
  -- Every action is one under the mutex: what is known without it is at stake
  · intro i j l l' f s hne h hi hj hboth
    have haction := action_cases h s
    generalize f s = r at haction ⊢
    cases haction <;> cases i <;> simp only [Knows] at hi <;> cases j <;> cases l' <;>
      simp_all [Knows, Loc.holdsMutex]
  -- Asleep, `Handle` knows that it is subscribed, which no `Stop` changes
  · intro i j l l₀ l' f s hne h hi hwait hj
    have haction := action_cases h s
    generalize f s = r at haction ⊢
    cases l₀ <;> simp only [program, reduceCtorEq, Instr.wait.injEq] at hwait
    subst hwait
    cases haction <;> cases i <;> simp only [Knows] at hi <;> cases j <;> simp_all [Knows]

/-- `Handle` waits for the flag, and a `Stop` that is past its notification has set it. -/
theorem signals : Signals (self.program ι) Knows .handle (·.stopRequested = true)
    (· = .stopped) := by
  constructor
  · intro i
    cases i <;> simp [program]
  · rintro i l s hknows rfl
    cases i
    · exact hknows.elim
    · exact hknows
  -- Only `Handle` waits, and where it does it knows that the flag is not set
  · intro i l next s h hknows
    cases l <;> simp only [program, reduceCtorEq] at h
    cases i
    · simpa using hknows.2
    · exact hknows.elim
  · rintro l next h hne rfl
    cases l <;> simp_all [program, Instr.next?]
  · intro i l f s h _ hstopped
    have haction := action_cases h s
    generalize f s = r at haction hstopped
    cases haction <;> exact nomatch hstopped

/-! ## Runs -/

section Runs

variable [DecidableEq ι] {c d : Config (HandlerCall ι) Loc State}
  {tr : List (Event (HandlerCall ι))}

omit [DecidableEq ι] in
/-- A `Stop` that has set the flag never undoes it. -/
theorem closed_requested : Closed (self.program ι) (·.requested = true) := by
  constructor
  · intro l next h hl
    cases l <;> simp_all [program, Instr.next?, Loc.requested] <;> subst h <;> rfl
  · intro l f s h hl
    have haction := action_cases h s
    generalize f s = r at haction
    cases haction <;> exact nomatch hl

/-- The flag is set once a `Stop` has set it, and not before. -/
theorem run_requested (h : (self.program ι).run (.initial {}) tr = some c) :
    c.shared.stopRequested = true ↔ ∃ i, c.At (·.requested = true) (.stop i) := by
  constructor
  · have hstart : (Config.initial {} : Config (HandlerCall ι) Loc State).shared.stopRequested =
        true → ∃ i, (Config.initial {} : Config (HandlerCall ι) Loc State).At
          (·.requested = true) (.stop i) := nofun
    apply run_induction hstart _ h
    intro tr c e d hc hP hmove hd
    obtain hsame | ⟨i, l, f, hl, hinstr, hshared, hphase⟩ := shared_cases hmove
    · rw [hsame] at hd
      obtain ⟨i, hi⟩ := hP hd
      exact ⟨i, closed_requested.step hmove hi⟩
    · have haction := action_cases hinstr c.shared
      have hi := outline.run disciplined hc i l (by rw [hl]; rfl)
      rw [hshared] at hd
      generalize f c.shared = r at haction hd hphase
      cases haction with
      | setStopRequested s =>
        -- This is the step that sets it
        cases i with
        | handle => exact hi.elim
        | stop i => exact ⟨i, _, by rw [hphase]; rfl, rfl⟩
      | _ =>
        obtain ⟨i, hi⟩ := hP hd
        exact ⟨i, closed_requested.step hmove hi⟩
  · intro ⟨i, l, hl, hrequested⟩
    have hi := outline.run disciplined h (.stop i) l hl
    cases l <;> simp only [Loc.requested, Bool.false_eq_true] at hrequested <;> exact hi

/-! ## `Handle` can leave its wait -/

/-- `Handle` can get to a configuration behind its wait, or it throws before its wait; some
    threads go on and none wakes up for no reason. -/
def CanLeave (self : PubSubHandler) (c : Config (HandlerCall ι) Loc State) : Prop :=
  ∃ tr d, (∀ e ∈ tr, (Event.mover? e).isSome = true) ∧ (self.program ι).run c tr = some d ∧
    d.At (fun l => l.leftWait = true ∨ l.threw = true) .handle

/-- One more step of a thread. -/
theorem CanLeave.step {m : Config (HandlerCall ι) Loc State} {e : Event (HandlerCall ι)}
    (h : self.CanLeave m) (he : e.mover?.isSome = true) (hmove : (self.program ι).Move c e m) :
    self.CanLeave c := by
  obtain ⟨tr, d, htr, hrun, hd⟩ := h
  have hrun' : (self.program ι).run c (e :: tr) = some d := by
    unfold Program.run
    rw [List.foldlM_cons, step_of_move hmove]
    exact hrun
  refine ⟨e :: tr, d, ?_, hrun', hd⟩
  intro e' he'
  obtain rfl | hold := List.mem_cons.mp he'
  · exact he
  · exact htr e' hold

/-- `Handle` evaluates the predicate once the flag is set. -/
theorem CanLeave.check (hl : c.phase .handle = .running .checkStopRequested)
    (hrequested : c.shared.stopRequested = true) : self.CanLeave c := by
  refine CanLeave.step ⟨[], _, nofun, rfl, .cancel, ?_, .inl rfl⟩ rfl (.act hl rfl)
  simp only [Config.move, Function.update_self, hrequested, if_true]
  rfl

/-- `Handle` subscribes first. -/
theorem CanLeave.subscribe (hl : c.phase .handle = .running .subscribe)
    (hrequested : c.shared.stopRequested = true) : self.CanLeave c := by
  cases hself : self.subscribe with
  | error e =>
    refine CanLeave.step ⟨[], _, nofun, rfl, .unwind, ?_, .inr rfl⟩ rfl (.act hl rfl)
    simp only [Config.move, Function.update_self, hself]
    rfl
  | ok u =>
    refine CanLeave.step (CanLeave.check ?_ ?_) rfl (.act hl rfl)
    · simp only [Config.move, Function.update_self, hself]
    · simpa only [hself] using hrequested

/-- `Handle` takes the mutex first, which no thread owns. -/
theorem CanLeave.free (hc : Consistent (self.program ι) (·.holdsMutex = true) c)
    (hknows : c.Knows Knows) (hwants : c.WantsMutex (self.program ι) .handle)
    (hfree : c.owner = none) (hrequested : c.shared.stopRequested = true) :
    self.CanLeave c := by
  obtain ⟨l, next, hl, hinstr⟩ | ⟨l, hl, hawake⟩ := hwants
  · -- It has just started
    have hi := hknows .handle l (by rw [hl]; rfl)
    cases l <;> simp only [program, reduceCtorEq] at hinstr
    · have hmove : (self.program ι).Move c _ _ := .lock hl rfl hfree
      apply CanLeave.step _ rfl hmove
      apply CanLeave.subscribe (by simp only [Config.move, Function.update_self])
      exact hrequested
    · exact hi.elim
  · -- It has woken up
    obtain ⟨l₀, hwait⟩ := hc.waiting .handle l hl
    cases l₀ <;> simp only [program, reduceCtorEq, Instr.wait.injEq] at hwait
    subst hwait
    have hmove : (self.program ι).Move c _ _ := .retake hl hawake hfree
    apply CanLeave.step _ rfl hmove
    apply CanLeave.check (by simp only [Config.move, Function.update_self])
    exact hrequested

/-- A `Stop` goes on, which `Handle` does not notice. -/
theorem wantsMutex_of_stop (hwants : c.WantsMutex (self.program ι) .handle) (i : ι)
    (ph : Phase Loc) (s : State) (owner : Option (HandlerCall ι)) :
    Config.WantsMutex (self.program ι)
      ⟨s, owner, c.sleepers, Function.update c.phase (.stop i) ph⟩ .handle := by
  have hne : (HandlerCall.handle : HandlerCall ι) ≠ .stop i := nofun
  unfold Config.WantsMutex
  dsimp only
  rwa [Function.update_of_ne hne]

/-- A `Stop` gives the mutex back first. -/
theorem CanLeave.unlock (h : (self.program ι).run (.initial {}) tr = some c) {i : ι}
    (hl : c.phase (.stop i) = .running .unlockAfterStop) (howner : c.owner = some (.stop i))
    (hwants : c.WantsMutex (self.program ι) .handle)
    (hrequested : c.shared.stopRequested = true) : self.CanLeave c := by
  have hmove : (self.program ι).Move c _ _ := .unlock hl rfl howner
  have hrun := run_concat.mpr ⟨c, h, step_of_move hmove⟩
  apply CanLeave.step _ rfl hmove
  exact CanLeave.free (disciplined.run hrun) (outline.run disciplined hrun)
    (wantsMutex_of_stop hwants i _ _ _) rfl hrequested

/-- Whoever owns the mutex, a `Handle` that is awake can leave. -/
theorem CanLeave.of_awake (h : (self.program ι).run (.initial {}) tr = some c)
    (hstarted : c.phase .handle ≠ .idle) (hawake : .handle ∉ c.sleepers)
    (hrequested : c.shared.stopRequested = true) : self.CanLeave c := by
  have hc := disciplined.run h
  have hknows := outline.run disciplined h
  by_cases hwants : c.WantsMutex (self.program ι) .handle
  · cases howner : c.owner with
    | none => exact CanLeave.free hc hknows hwants howner hrequested
    | some x =>
      obtain ⟨l, hl, hholds⟩ := (hc.owner x).mp howner
      have hx := hknows x l (by rw [hl]; rfl)
      cases x with
      | handle => exact absurd hwants (hc.not_wantsMutex_of_owner disciplined howner).1
      | stop i =>
        -- A `Stop` owns it at two of its locations
        cases l <;> simp only [Loc.holdsMutex, Bool.false_eq_true] at hholds <;>
          simp only [Knows] at hx
        · have hmove : (self.program ι).Move c _ _ := .act hl rfl
          have hrun := run_concat.mpr ⟨c, h, step_of_move hmove⟩
          apply CanLeave.step _ rfl hmove
          exact CanLeave.unlock hrun (by simp only [Config.move, Function.update_self]) howner
            (wantsMutex_of_stop hwants i _ _ _) rfl
        · exact CanLeave.unlock h hl howner hwants hrequested
  · cases hph : c.phase .handle with
    | idle => exact absurd hph hstarted
    | waiting l => exact absurd (.inr ⟨l, hph, hawake⟩) hwants
    | returned l =>
      have hloc : (c.phase .handle).loc? = some l := by rw [hph]; rfl
      have hi := hknows .handle l hloc
      have hret := hc.returned .handle l hph
      refine ⟨[], c, List.forall_mem_nil _, rfl, l, hloc, ?_⟩
      cases l <;> simp_all [program, Knows, Loc.leftWait, Loc.threw]
    | running l =>
      have hloc : (c.phase .handle).loc? = some l := by rw [hph]; rfl
      have hi := hknows .handle l hloc
      have hthere : l.leftWait = true ∨ l.threw = true → self.CanLeave c :=
        fun hl => ⟨[], c, List.forall_mem_nil _, rfl, l, hloc, hl⟩
      cases l with
      | lockForHandle => exact absurd (.inl ⟨_, _, hph, rfl⟩) hwants
      | subscribe => exact CanLeave.subscribe hph hrequested
      | checkStopRequested => exact CanLeave.check hph hrequested
      | waitForStop =>
        rw [hi.2] at hrequested
        exact absurd hrequested Bool.false_ne_true
      | cancel => exact hthere (.inl rfl)
      | unlockAfterHandle => exact hthere (.inl rfl)
      | handled => exact hthere (.inl rfl)
      | unwind => exact hthere (.inr rfl)
      | handleThrew => exact hthere (.inr rfl)
      | _ => exact hi.elim

/-- **No shutdown request is lost.** In every state that `Handle` and any number of calls of
    `Stop` reach, in any order of their steps and with any number of spurious wakeups:
    once a `Stop` has sent its notification, `Handle` is not asleep;
    no two calls keep each other from going on, and a call that is neither asleep nor able
    to go on waits for the mutex, whose owner is able to;
    `Handle` is behind its wait only if a `Stop` has set the flag;
    and once a `Stop` has sent its notification, a `Handle` that was called can leave its
    wait, unless subscribing throws. -/
theorem shutdown_not_lost (self : PubSubHandler)
    (h : (self.program ι).run (.initial {}) tr = some c) :
    (∀ i, c.At (· = .stopped) (.stop i) → c.sleepers = []) ∧
    (∀ x y, c.Keeps (self.program ι) x y → ¬c.Keeps (self.program ι) y x) ∧
    (∀ x, c.phase x ≠ .idle → (∀ l, c.phase x ≠ .returned l) →
      (self.program ι).Enabled c x ∨ x ∈ c.sleepers ∧ x = .handle ∨
        ∃ y, y ≠ x ∧ c.WantsMutex (self.program ι) x ∧ c.owner = some y ∧
          (self.program ι).Enabled c y) ∧
    (c.At (·.leftWait = true) .handle → ∃ i, c.At (·.requested = true) (.stop i)) ∧
    (∀ i, c.At (· = .stopped) (.stop i) → c.phase .handle ≠ .idle → self.CanLeave c) := by
  have hc := disciplined.run h
  have hknows := outline.run disciplined h
  have hsignalled := signals.run disciplined outline h
  have hawake : ∀ i, c.At (· = .stopped) (.stop i) → c.sleepers = [] := by
    intro i ⟨l, hl, hstopped⟩
    exact hsignalled.awake (.stop i) l hl hstopped
  refine ⟨hawake, ?_, ?_, ?_, ?_⟩
  · intro x y hxy
    exact hc.not_keeps_each_other disciplined hsignalled.sleepers hxy
  -- The one that sleeps is `Handle`
  · intro x hstarted hreturned
    obtain hgoes | hasleep | hwaits := hc.blocked_cases disciplined hstarted hreturned
    · exact .inl hgoes
    · exact .inr (.inl ⟨hasleep, hsignalled.sleepers x hasleep⟩)
    · exact .inr (.inr hwaits)
  · intro ⟨l, hl, hleft⟩
    have hi := hknows .handle l hl
    apply (run_requested h).mp
    cases l <;> simp only [Loc.leftWait, Bool.false_eq_true] at hleft <;> exact hi.2
  -- `Handle` is awake and finds the flag set when it checks next
  · intro i hi hstarted
    have hrequested : c.shared.stopRequested = true := by
      obtain ⟨l, hl, rfl⟩ := hi
      exact hknows (.stop i) _ hl
    apply CanLeave.of_awake h hstarted _ hrequested
    rw [hawake i hi]
    exact List.not_mem_nil

end Runs

/-- `Handle` falls asleep twice, the first time to wake up for no reason, and a `Stop` wakes it
    up. -/
def testTrace : List (Event (HandlerCall Unit)) :=
  [.call .handle, .exec .handle, .exec .handle, .exec .handle, .exec .handle, .wake .handle,
    .exec .handle, .exec .handle, .exec .handle, .call (.stop ()), .exec (.stop ()),
    .exec (.stop ()), .exec (.stop ()), .notify (.stop ()) (some .handle), .exec .handle,
    .exec .handle]

/-- After it, `Handle` is behind its wait because of that `Stop`. -/
theorem shutdown_not_lost_test :
    ∃ c, (program ⟨.ok ()⟩ Unit).run (.initial {}) testTrace = some c ∧ c.sleepers = [] ∧
      c.At (·.leftWait = true) .handle ∧ ∃ i, c.At (·.requested = true) (.stop i) := by
  refine ⟨_, rfl, ?_⟩
  have hnotLost := @shutdown_not_lost Unit _ _ testTrace ⟨.ok ()⟩ rfl
  refine ⟨hnotLost.1 () ⟨_, rfl, rfl⟩, ⟨_, rfl, rfl⟩, ?_⟩
  exact hnotLost.2.2.2.1 ⟨_, rfl, rfl⟩

end SapperBricks.PubSubHandler
