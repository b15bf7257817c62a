import Mathlib.Data.List.Infix
import SapperBricks.Native.Handlers

/-!
# Shutting down the gRPC handler

`Stop` may be called on another thread before `Handle` has a server, and `BuildAndStart`
may return none. Which orders of the steps of `Handle` and `Stop` are safe is a matter of
how often `Handle` has taken a step before.

## Key results

- `tracks`: how far `Handle` is, told by the trace
- `shutdown_safe_iff`: the orders in which no member function of a null server is called and
  no shutdown is ignored
-/

namespace SapperBricks.GrpcHandler

open Interleaving

variable {ι : Type}

/-! ## The property -/

/-- No call has used a null server, and once a `Stop` has completed, a `Handle` that serves
    and waits does so with a server whose shutdown was requested. -/
structure Safe (c : Config (HandlerCall ι) Loc State Outcome) : Prop where
  server : ∀ x, (c.phase x).outcome? ≠ some .nullServer
  stopped : ∀ i, (c.phase (.stop i)).outcome?.isSome = true →
    c.phase .handle = .running .waiting → c.shared.server = some ⟨true⟩

variable [DecidableEq ι] {tr tr' : List (Event (HandlerCall ι))}

/-- The steps `Handle` has taken. -/
def handleSteps (tr : List (Event (HandlerCall ι))) : Nat := tr.count (.exec .handle)

/-- Every `Stop` comes after the second step of `Handle`, the assignment of `_server`; and
    if `BuildAndStart` returns null, no `Stop` comes and `Handle` does not take its third
    step, the call of `Wait`. -/
def InOrder (self : GrpcHandler) (tr : List (Event (HandlerCall ι))) : Prop :=
  (∀ tr₁ i, tr₁ ++ [.exec (.stop i)] <+: tr →
    self.startsServer = true ∧ 2 ≤ handleSteps tr₁) ∧
  (self.startsServer = true ∨ handleSteps tr ≤ 2)

/-! ## Traces in order -/

@[simp] theorem handleSteps_concat_handle (tr : List (Event (HandlerCall ι))) :
    handleSteps (tr ++ [.exec .handle]) = handleSteps tr + 1 := by
  simp [handleSteps]

@[simp] theorem handleSteps_concat_stop (tr : List (Event (HandlerCall ι))) (i : ι) :
    handleSteps (tr ++ [.exec (.stop i)]) = handleSteps tr := by
  simp [handleSteps]

@[simp] theorem handleSteps_concat_call (tr : List (Event (HandlerCall ι)))
    (x : HandlerCall ι) : handleSteps (tr ++ [.call x]) = handleSteps tr := by
  simp [handleSteps]

@[simp] theorem handleSteps_concat_ret (tr : List (Event (HandlerCall ι)))
    (x : HandlerCall ι) : handleSteps (tr ++ [.ret x]) = handleSteps tr := by
  simp [handleSteps]

variable {self : GrpcHandler}

/-- What comes before is in order too. -/
theorem InOrder.of_prefix (h : self.InOrder tr') (hpre : tr <+: tr') : self.InOrder tr := by
  refine ⟨fun tr₁ i htr₁ => h.1 tr₁ i (htr₁.trans hpre), ?_⟩
  obtain hstarts | hsteps := h.2
  · exact .inl hstarts
  · exact .inr (Nat.le_trans (hpre.sublist.count_le _) hsteps)

/-- One more event is in order if it is when it comes. -/
theorem inOrder_concat {e : Event (HandlerCall ι)} :
    self.InOrder (tr ++ [e]) ↔
      (self.InOrder tr ∧
        ∀ i, e = .exec (.stop i) → self.startsServer = true ∧ 2 ≤ handleSteps tr) ∧
      (self.startsServer = true ∨ handleSteps (tr ++ [e]) ≤ 2) := by
  constructor
  · intro h
    refine ⟨⟨h.of_prefix (List.prefix_append tr [e]), ?_⟩, h.2⟩
    rintro i rfl
    exact h.1 tr i (List.prefix_refl _)
  · intro ⟨⟨h, hlast⟩, hsteps⟩
    refine ⟨?_, hsteps⟩
    intro tr₁ i hpre
    -- The `Stop` is the last event or one before it
    obtain heq | hpre := List.prefix_concat_iff.mp hpre
    · obtain ⟨rfl, he⟩ := List.append_inj' heq rfl
      exact hlast i (List.cons.inj he).1.symm
    · exact h.1 tr₁ i hpre

theorem inOrder_nil : self.InOrder ([] : List (Event (HandlerCall ι))) := by
  refine ⟨?_, .inr (Nat.zero_le 2)⟩
  intro tr₁ i hpre
  simp at hpre

@[simp] theorem inOrder_concat_call (x : HandlerCall ι) :
    self.InOrder (tr ++ [.call x]) ↔ self.InOrder tr := by
  rw [inOrder_concat, handleSteps_concat_call]
  exact ⟨fun h => h.1.1, fun h => ⟨⟨h, nofun⟩, h.2⟩⟩

@[simp] theorem inOrder_concat_ret (x : HandlerCall ι) :
    self.InOrder (tr ++ [.ret x]) ↔ self.InOrder tr := by
  rw [inOrder_concat, handleSteps_concat_ret]
  exact ⟨fun h => h.1.1, fun h => ⟨⟨h, nofun⟩, h.2⟩⟩

/-- `Handle` may always go on if it starts a server, and for two steps if it does not. -/
@[simp] theorem inOrder_concat_handle :
    self.InOrder (tr ++ [.exec .handle]) ↔
      self.InOrder tr ∧ (self.startsServer = true ∨ handleSteps tr ≤ 1) := by
  rw [inOrder_concat, handleSteps_concat_handle, Nat.succ_le_succ_iff]
  exact ⟨fun h => ⟨h.1.1, h.2⟩, fun h => ⟨⟨h.1, nofun⟩, h.2⟩⟩

/-- A `Stop` may come once a server is stored. -/
@[simp] theorem inOrder_concat_stop (i : ι) :
    self.InOrder (tr ++ [.exec (.stop i)]) ↔
      self.InOrder tr ∧ self.startsServer = true ∧ 2 ≤ handleSteps tr := by
  rw [inOrder_concat, handleSteps_concat_stop]
  constructor
  · intro h
    exact ⟨h.1.1, h.1.2 i rfl⟩
  · intro ⟨h, hstop⟩
    exact ⟨⟨h, fun _ _ => hstop⟩, h.2⟩

/-! ## What the trace tells -/

/-- The steps of `Handle` that lead to a phase. -/
def StepsTo (self : GrpcHandler) (n : Nat) : Phase Loc Outcome → Prop
  | .idle => n = 0
  | .running .buildAndStart => n = 0
  | .running (.store server) => n = 1 ∧ server.isSome = self.startsServer
  | .running .callWait => n = 2
  | .running .waiting => 3 ≤ n ∧ self.startsServer = true
  | .running .callShutdown => False
  | .finished _ => 3 ≤ n
  | .returned _ => 3 ≤ n

/-- What the steps `Handle` has taken tell about a configuration. -/
structure Tracks (handler : GrpcHandler) (n : Nat)
    (c : Config (HandlerCall ι) Loc State Outcome) : Prop where
  server : c.shared.server.isSome = true ↔ handler.startsServer = true ∧ 2 ≤ n
  handle : handler.StepsTo n (c.phase .handle)
  stop : ∀ i l, c.phase (.stop i) = .running l → l = .callShutdown
  shutdown : ∀ i, (c.phase (.stop i)).outcome? = some .done → c.shared.server = some ⟨true⟩

variable {c d : Config (HandlerCall ι) Loc State Outcome} {n : Nat}

omit [DecidableEq ι] in
/-- There is no server before the second step of `Handle`, and none at all if `BuildAndStart`
    returns null. -/
theorem Tracks.server_none (h : self.Tracks n c) :
    c.shared.server = none ↔ self.startsServer = true → n < 2 := by
  have hserver := h.server
  cases hc : c.shared.server with
  | none =>
    simp only [hc, Option.isSome_none, Bool.false_eq_true, false_iff] at hserver
    exact iff_of_true rfl fun hstarts => by_contra fun hn => hserver ⟨hstarts, by omega⟩
  | some server =>
    simp only [hc, Option.isSome_some, true_iff] at hserver
    refine iff_of_false nofun fun hn => ?_
    have hlt := hn hserver.1
    omega

/-- `Handle` moves, and no shutdown is undone. -/
theorem Tracks.handle_moves (h : self.Tracks n c) {m : Nat} {server : Option Server}
    {ph : Phase Loc Outcome}
    (hserver : server.isSome = true ↔ self.startsServer = true ∧ 2 ≤ m)
    (hph : self.StepsTo m ph)
    (hkeep : c.shared.server = some ⟨true⟩ → server = some ⟨true⟩) :
    self.Tracks m ⟨⟨server⟩, Function.update c.phase .handle ph⟩ := by
  have hstop : ∀ i, Function.update c.phase .handle ph (.stop i) = c.phase (.stop i) := by
    intro i
    have hne : HandlerCall.stop i ≠ .handle := nofun
    exact Function.update_of_ne hne ph c.phase
  refine ⟨hserver, ?_, ?_, ?_⟩
  · show self.StepsTo m (Function.update c.phase .handle ph .handle)
    rwa [Function.update_self]
  · intro i l hl
    exact h.stop i l (by rw [← hstop i]; exact hl)
  · intro i hdone
    exact hkeep (h.shutdown i (by rw [← hstop i]; exact hdone))

/-- A `Stop` moves, and no shutdown is undone. -/
theorem Tracks.stop_moves (h : self.Tracks n c) {i : ι} {server : Option Server}
    {ph : Phase Loc Outcome} (hserver : server.isSome = c.shared.server.isSome)
    (hph : ∀ l, ph = .running l → l = .callShutdown)
    (hdone : ph.outcome? = some .done → server = some ⟨true⟩)
    (hkeep : c.shared.server = some ⟨true⟩ → server = some ⟨true⟩) :
    self.Tracks n ⟨⟨server⟩, Function.update c.phase (.stop i) ph⟩ := by
  refine ⟨?_, ?_, ?_, ?_⟩
  · show server.isSome = true ↔ _
    rw [hserver]
    exact h.server
  -- `Handle` has not moved
  · show self.StepsTo n (Function.update c.phase (.stop i) ph .handle)
    have hne : HandlerCall.handle ≠ .stop i := nofun
    rw [Function.update_of_ne hne]
    exact h.handle
  · intro j l hl
    dsimp only at hl
    by_cases hji : HandlerCall.stop j = .stop i
    · rw [hji, Function.update_self] at hl
      exact hph l hl
    · rw [Function.update_of_ne hji] at hl
      exact h.stop j l hl
  -- A `Stop` that was over before left a shutdown behind, which is kept
  · intro j hj
    dsimp only at hj
    by_cases hji : HandlerCall.stop j = .stop i
    · rw [hji, Function.update_self] at hj
      exact hdone hj
    · rw [Function.update_of_ne hji] at hj
      exact hkeep (h.shutdown j hj)

/-- A step of `Handle`. -/
theorem Tracks.handle_exec {l : Loc} (h : self.Tracks n c)
    (hl : c.phase .handle = .running l) :
    self.Tracks (n + 1) ⟨((self.calls ι).exec l c.shared).2,
      Function.update c.phase .handle (.after ((self.calls ι).exec l c.shared).1)⟩ := by
  have hsteps := h.handle
  rw [hl] at hsteps
  have hserver := h.server
  -- What the location says about the steps taken so far decides what may be there
  cases l with
  | buildAndStart =>
    have hn : n = 0 := hsteps
    apply h.handle_moves _ _ id
    · exact hserver.trans (and_congr_right fun _ => by omega)
    · refine ⟨by omega, ?_⟩
      cases self.startsServer <;> rfl
  | store server =>
    obtain ⟨hn, hstarts⟩ : n = 1 ∧ server.isSome = self.startsServer := hsteps
    apply h.handle_moves
    · rw [hstarts]
      exact ⟨fun h => ⟨h, by omega⟩, And.left⟩
    · show n + 1 = 2
      omega
    · -- There is no server yet whose shutdown was requested
      intro hshutdown
      have hn' := (hserver.mp (by rw [hshutdown]; rfl)).2
      omega
  | callWait =>
    have hn : n = 2 := hsteps
    have hsame : c.shared.server.isSome = true ↔ self.startsServer = true ∧ 2 ≤ n + 1 :=
      hserver.trans (and_congr_right fun _ => by omega)
    simp only [calls]
    cases hc : c.shared.server with
    | none => exact h.handle_moves hsame (by simp only [Phase.after, StepsTo]; omega) id
    | some server =>
      refine h.handle_moves hsame ⟨by omega, ?_⟩ id
      exact (hserver.mp (by rw [hc]; rfl)).1
  | waiting =>
    obtain ⟨hn, hstarts⟩ : 3 ≤ n ∧ self.startsServer = true := hsteps
    have hsame : c.shared.server.isSome = true ↔ self.startsServer = true ∧ 2 ≤ n + 1 :=
      hserver.trans (and_congr_right fun _ => by omega)
    simp only [calls]
    split
    · exact h.handle_moves hsame (by simp only [Phase.after, StepsTo]; omega) id
    · exact h.handle_moves hsame ⟨by omega, hstarts⟩ id
  | callShutdown => exact hsteps.elim

/-- A step of a `Stop`. -/
theorem Tracks.stop_exec {i : ι} {l : Loc} (h : self.Tracks n c)
    (hl : c.phase (.stop i) = .running l) :
    self.Tracks n ⟨((self.calls ι).exec l c.shared).2,
      Function.update c.phase (.stop i) (.after ((self.calls ι).exec l c.shared).1)⟩ := by
  obtain rfl := h.stop i l hl
  simp only [calls]
  cases hc : c.shared.server with
  | none => exact h.stop_moves rfl nofun nofun id
  | some server => exact h.stop_moves (by rw [hc]; rfl) nofun (fun _ => rfl) (fun _ => rfl)

/-- How far `Handle` is, and whether there is a server, told by the trace. -/
theorem tracks (h : (self.calls ι).run id (.initial {}) tr = some c) :
    self.Tracks (handleSteps tr) c := by
  have hstart : self.Tracks 0 (.initial {} : Config (HandlerCall ι) Loc State Outcome) :=
    ⟨⟨nofun, fun h => absurd h.2 (Nat.not_le.mpr Nat.two_pos)⟩, rfl, nofun, nofun⟩
  apply run_induction (P := fun tr c => self.Tracks (handleSteps tr) c) hstart _ h
  intro tr c e d _ hc hd
  have hsteps := hc.handle
  -- A call starts, takes a step, or returns
  obtain ⟨x, rfl, hx, rfl⟩ | ⟨x, l, rfl, hx, rfl⟩ | ⟨x, r, rfl, hx, rfl⟩ := step_cases hd
  · rw [handleSteps_concat_call]
    cases x with
    | handle =>
      rw [hx] at hsteps
      exact hc.handle_moves hc.server hsteps id
    | stop i =>
      refine hc.stop_moves rfl ?_ nofun id
      intro l hl
      cases hl
      rfl
  · cases x with
    | handle =>
      rw [handleSteps_concat_handle]
      exact hc.handle_exec hx
    | stop i =>
      rw [handleSteps_concat_stop]
      exact hc.stop_exec hx
  · rw [handleSteps_concat_ret]
    cases x with
    | handle =>
      rw [hx] at hsteps
      exact hc.handle_moves hc.server hsteps id
    | stop i =>
      have hdone := hc.shutdown i
      rw [hx] at hdone
      exact hc.stop_moves rfl nofun hdone id

/-! ## Null servers -/

omit [DecidableEq ι] in
/-- A section calls a member function of no server exactly if there is none to call it of. -/
theorem exec_nullServer {l : Loc} {s : State} :
    ((self.calls ι).exec l s).1 = .inr .nullServer ↔
      s.server = none ∧ (l = .callWait ∨ l = .callShutdown) := by
  cases l with
  | callWait => cases hs : s.server <;> simp [calls, hs]
  | waiting =>
    simp only [calls]
    split <;> simp
  | callShutdown => cases hs : s.server <;> simp [calls, hs]
  | _ => simp [calls]

/-- The calls that have used a null server after one more section. -/
theorem nullServer_after {x y : HandlerCall ι} {l : Loc} {r : Loc ⊕ Outcome}
    (hl : c.phase x = .running l) :
    (Function.update c.phase x (.after r) y).outcome? = some .nullServer ↔
      (c.phase y).outcome? = some .nullServer ∨ y = x ∧ r = .inr .nullServer := by
  by_cases hyx : y = x
  · subst hyx
    rw [Function.update_self, hl]
    cases r <;> simp [Phase.after, Phase.outcome?]
  · rw [Function.update_of_ne hyx]
    simp [hyx]

omit [DecidableEq ι] in
/-- `Handle` uses a null server if it calls `Wait` where `BuildAndStart` returned null. -/
theorem Tracks.handle_nullServer {l : Loc} (h : self.Tracks n c)
    (hl : c.phase .handle = .running l) :
    ((self.calls ι).exec l c.shared).1 = .inr .nullServer ↔
      self.startsServer = false ∧ n = 2 := by
  have hsteps := h.handle
  rw [hl] at hsteps
  rw [exec_nullServer, h.server_none, ← Bool.not_eq_true]
  cases l with
  | callWait =>
    have hn : n = 2 := hsteps
    simp [hn]
  | buildAndStart =>
    have hn : n = 0 := hsteps
    simp [hn]
  | store server =>
    have hn : n = 1 := hsteps.1
    simp [hn]
  | waiting => simp [hsteps.2]
  | callShutdown => exact hsteps.elim

omit [DecidableEq ι] in
/-- A `Stop` uses a null server if it comes before there is one. -/
theorem Tracks.stop_nullServer {i : ι} {l : Loc} (h : self.Tracks n c)
    (hl : c.phase (.stop i) = .running l) :
    ((self.calls ι).exec l c.shared).1 = .inr .nullServer ↔
      ¬(self.startsServer = true ∧ 2 ≤ n) := by
  obtain rfl := h.stop i l hl
  rw [exec_nullServer, h.server_none, not_and, Nat.not_le]
  simp

/-- No call uses a null server exactly if the steps come in order. -/
theorem run_nullServer (h : (self.calls ι).run id (.initial {}) tr = some c) :
    (∀ x, (c.phase x).outcome? ≠ some .nullServer) ↔ self.InOrder tr := by
  have hstart : (∀ x, ((Config.initial {} : Config (HandlerCall ι) Loc State Outcome).phase
      x).outcome? ≠ some .nullServer) ↔ self.InOrder ([] : List (Event (HandlerCall ι))) :=
    iff_of_true nofun inOrder_nil
  apply run_induction (P := fun tr c => (∀ x, (c.phase x).outcome? ≠ some .nullServer) ↔
    self.InOrder tr) hstart _ h
  intro tr c e d hrun hc hd
  have htracks := tracks hrun
  -- Only a section can use a null server
  obtain ⟨x, rfl, hx, rfl⟩ | ⟨x, l, rfl, hx, rfl⟩ | ⟨x, r, rfl, hx, rfl⟩ := step_cases hd
  · rw [inOrder_concat_call, ← hc]
    refine forall_congr' fun y => ?_
    dsimp only
    rw [outcome?_update (by rw [hx]; rfl)]
  · have hafter : (∀ y, (Function.update c.phase x (.after ((self.calls ι).exec l
        c.shared).1) y).outcome? ≠ some .nullServer) ↔
        (∀ y, (c.phase y).outcome? ≠ some .nullServer) ∧
          ¬((self.calls ι).exec l c.shared).1 = .inr .nullServer := by
      simp only [ne_eq, nullServer_after hx, not_or, not_and, forall_and, forall_eq]
    rw [hafter, hc]
    cases x with
    | handle =>
      rw [inOrder_concat_handle, htracks.handle_nullServer hx]
      refine and_congr_right fun horder => ?_
      -- In an order so far, without a server, `Handle` has taken at most two steps
      have hle := horder.2
      cases hstarts : self.startsServer <;> simp [hstarts] at hle ⊢
      omega
    | stop i =>
      rw [inOrder_concat_stop, htracks.stop_nullServer hx, not_not]
  · rw [inOrder_concat_ret, ← hc]
    refine forall_congr' fun y => ?_
    dsimp only
    rw [outcome?_update (by rw [hx]; rfl)]

/-- **Which orders are safe.** In every run of `Handle` and any number of calls of `Stop`, and
    whatever `BuildAndStart` returns: every state on the way is safe exactly if every `Stop`
    comes after `Handle` has stored a server and `Handle` does not call `Wait` without one. -/
theorem shutdown_safe_iff (self : GrpcHandler)
    (h : (self.calls ι).run id (.initial {}) tr = some c) :
    (∀ tr₁ c₁, tr₁ <+: tr → (self.calls ι).run id (.initial {}) tr₁ = some c₁ → Safe c₁) ↔
      self.InOrder tr := by
  constructor
  · intro hsafe
    exact (run_nullServer h).mp (hsafe tr c (List.prefix_refl tr) h).server
  · intro horder tr₁ c₁ hpre hrun
    have hserver := (run_nullServer hrun).mpr (horder.of_prefix hpre)
    refine ⟨hserver, ?_⟩
    intro i hstopped _
    -- A `Stop` that is over has used a server, and so it asked that one to shut down
    apply (tracks hrun).shutdown i
    cases houtcome : (c₁.phase (.stop i)).outcome? with
    | none => rw [houtcome] at hstopped; exact nomatch hstopped
    | some r =>
      cases r with
      | done => rfl
      | nullServer => exact absurd houtcome (hserver (.stop i))

/-- `Handle` serves, and a `Stop` ends it. -/
def testTrace : List (Event (HandlerCall Unit)) :=
  [.call .handle, .exec .handle, .exec .handle, .exec .handle, .call (.stop ()),
    .exec (.stop ()), .exec .handle]

/-- On the way no null server was used. -/
theorem shutdown_safe_iff_test :
    ∃ c, (calls ⟨true⟩ Unit).run id (.initial {}) testTrace = some c ∧
      (c.phase .handle).outcome? = some .done ∧
      (∀ tr₁ c₁, tr₁ <+: testTrace →
        (calls ⟨true⟩ Unit).run id (.initial {}) tr₁ = some c₁ → Safe c₁) := by
  refine ⟨_, rfl, rfl, ?_⟩
  apply (shutdown_safe_iff ⟨true⟩ rfl).mpr
  have htrace : testTrace = ([] : List (Event (HandlerCall Unit))) ++ [.call .handle] ++
      [.exec .handle] ++ [.exec .handle] ++ [.exec .handle] ++ [.call (.stop ())] ++
      [.exec (.stop ())] ++ [.exec .handle] := rfl
  rw [htrace]
  simp only [inOrder_concat_call, inOrder_concat_handle, inOrder_concat_stop,
    handleSteps_concat_handle, handleSteps_concat_call, true_or, and_true, true_and]
  exact ⟨inOrder_nil, by omega⟩

/-- A signal arrives before `Handle` is called. -/
theorem stop_before_handle_uses_null_server :
    ∃ c, (calls ⟨true⟩ Unit).run id (.initial {}) [.call (.stop ()), .exec (.stop ())] =
      some c ∧ ¬Safe c := by
  refine ⟨_, rfl, ?_⟩
  intro h
  exact h.server (.stop ()) rfl

end SapperBricks.GrpcHandler
