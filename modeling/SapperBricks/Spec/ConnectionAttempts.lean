import SapperBricks.Spec.ConnectionManager
import SapperBricks.Spec.RequestHooks

/-!
# The attempts of a call of `WithConnection`

How many attempts an uninterrupted call makes, how it ends, which connection it leaves, and
how often it calls the factory, for every outcome of the factory and the operation. The
constructor, which calls the factory as well, makes no second attempt.

## Key results

- `attempt_ends`: an attempt returns, breaks or fails, and what it leaves in each case
- `retries_iff`: only a broken connection is a reason for another attempt
- `withConnection_attempts`: the attempts of a call
- `first_connection_iff`: a factory that throws at first, called by the constructor and by
  `WithConnection`
-/

namespace SapperBricks.PostgresConnectionManager

variable {σ : Type}

/-! ## How an attempt ends -/

/-- The operation is run on a connection and returns. -/
def Returns (self : PostgresConnectionManager σ) (op : Op σ) (s : State σ)
    (c : Option ConnectionId) : Prop :=
  (self.attempted op s).ran = some (c, .ok ())

/-- The factory or the operation throws `broken_connection`. -/
def Breaks (self : PostgresConnectionManager σ) (op : Op σ) (s : State σ) : Prop :=
  ∃ e, (self.protectedBody op s).1 = .error e ∧ e.isBrokenConnection = true

/-- The factory or the operation throws anything else. -/
def Fails (self : PostgresConnectionManager σ) (op : Op σ) (s : State σ) : Prop :=
  ∃ e, (self.protectedBody op s).1 = .error e ∧ e.isBrokenConnection = false

variable {self : PostgresConnectionManager σ} {op : Op σ} {s : State σ}

/-- An attempt returns exactly if its operation does. -/
theorem protectedBody_ok : (∃ status, (self.protectedBody op s).1 = .ok status) ↔
    ∃ c, self.Returns op s c := by
  unfold Returns attempted protectedBody
  cases self.ensureConnection s with
  | mk r s' =>
    cases r with
    -- Without a connection the operation is not called
    | error e => simp
    | ok u => cases hr : (op s'.connection s'.world).1 <;> simp [hr]

/-- An attempt that returns leaves the connection its operation ran on. -/
theorem Returns.connection {c : Option ConnectionId} (h : self.Returns op s c) :
    (self.attempt op s).1 = .ok .ok ∧ (self.attempt op s).2.connection = c := by
  unfold Returns attempted at h
  unfold attempt protectedBody
  cases hens : self.ensureConnection s with
  | mk r s' =>
    rw [hens] at h
    cases r with
    | error e => exact nomatch h
    | ok u =>
      simp only [Option.some.injEq, Prod.mk.injEq] at h
      obtain ⟨rfl, hr⟩ := h
      simp [hr, ExceptionHook.process]

/-- An attempt that throws leaves the connection it was to use, unless it is broken. -/
theorem attempt_of_threw {e : Exn} (h : (self.protectedBody op s).1 = .error e) :
    (self.attempt op s).2.connection =
      if e.isBrokenConnection then none else (self.ensureConnection s).2.connection := by
  unfold protectedBody at h
  unfold attempt protectedBody
  cases hens : self.ensureConnection s with
  | mk r s' =>
    rw [hens] at h
    cases r with
    | error e' =>
      -- There was no connection to use
      cases h
      exact resetIfBroken_connection e s'
    | ok u =>
      cases hr : (op s'.connection s'.world).1 with
      | ok u => simp [hr] at h
      | error e' =>
        -- The exception of the operation is passed through the hooks
        obtain rfl : e' = e := by simpa [hr] using h
        simp [hr]

/-- An attempt on a broken connection leaves none. -/
theorem Breaks.connection (h : self.Breaks op s) : (self.attempt op s).2.connection = none := by
  obtain ⟨e, he, hbroken⟩ := h
  rw [attempt_of_threw he, if_pos hbroken]

/-- An attempt that fails leaves the connection it was to use. -/
theorem Fails.connection (h : self.Fails op s) :
    (self.attempt op s).2.connection = (self.ensureConnection s).2.connection := by
  obtain ⟨e, he, hbroken⟩ := h
  rw [attempt_of_threw he, hbroken]
  exact if_neg Bool.false_ne_true

/-- A connection that is there is the one to use. -/
theorem ensureConnection_of_some {c : ConnectionId} (h : s.connection = some c) :
    self.ensureConnection s = (.ok (), s) := by
  unfold ensureConnection
  rw [h]

/-- An attempt returns, breaks or fails. -/
theorem attempt_ends (self : PostgresConnectionManager σ) (op : Op σ) (s : State σ) :
    (∃ c, self.Returns op s c) ∨ self.Breaks op s ∨ self.Fails op s := by
  -- What the body throws is `broken_connection`, or something else
  cases hbody : (self.protectedBody op s).1 with
  | ok status => exact .inl (protectedBody_ok.mp ⟨status, hbody⟩)
  | error e =>
    cases hbroken : e.isBrokenConnection with
    | true => exact .inr (.inl ⟨e, hbody, hbroken⟩)
    | false => exact .inr (.inr ⟨e, hbody, hbroken⟩)

/-- No attempt ends in two ways. -/
theorem Returns.not_breaks {c : Option ConnectionId} (h : self.Returns op s c) :
    ¬self.Breaks op s := by
  rintro ⟨e, he, -⟩
  obtain ⟨status, hstatus⟩ := protectedBody_ok.mpr ⟨c, h⟩
  rw [he] at hstatus
  exact nomatch hstatus

theorem Fails.not_returns (h : self.Fails op s) {c : Option ConnectionId} :
    ¬self.Returns op s c := by
  intro hreturns
  obtain ⟨e, he, -⟩ := h
  obtain ⟨status, hstatus⟩ := protectedBody_ok.mpr ⟨c, hreturns⟩
  rw [he] at hstatus
  exact nomatch hstatus

theorem Fails.not_breaks (h : self.Fails op s) : ¬self.Breaks op s := by
  rintro ⟨e, he, hbroken⟩
  obtain ⟨e', he', hother⟩ := h
  rw [he] at he'
  cases he'
  rw [hbroken] at hother
  exact nomatch hother

/-- An operation that must not be given null does not return where it is. -/
theorem Returns.of_notNull {op : ConnectionId → σ → Except Exn Unit × σ}
    {c : Option ConnectionId} (h : self.Returns (notNull op) s c) : ∃ id, c = some id := by
  unfold Returns attempted at h
  cases hens : self.ensureConnection s with
  | mk r s' =>
    rw [hens] at h
    cases r with
    | error e => exact nomatch h
    | ok u =>
      simp only [Option.some.injEq, Prod.mk.injEq] at h
      obtain ⟨rfl, hr⟩ := h
      cases hc : s'.connection with
      | none => rw [hc] at hr; exact nomatch hr
      | some id => exact ⟨id, rfl⟩

/-- Only a broken connection is a reason for another attempt. -/
theorem retries_iff : self.retry.retries (self.attempt op s).1 = true ↔ self.Breaks op s := by
  constructor
  · intro hretry
    obtain ⟨c, hreturns⟩ | hbreaks | ⟨e, he, hbroken⟩ := self.attempt_ends op s
    · rw [hreturns.connection.1, RetryHook.retries, Status.ok, self.retry.not_retriable_ok] at hretry
      exact absurd hretry Bool.false_ne_true
    · exact hbreaks
    · simp only [attempt, he, ExceptionHook.process] at hretry
      -- Any other exception is not handled, or its status is not one to retry
      cases hhandle : self.exceptions.handle e with
      | error e' => rw [hhandle] at hretry; exact absurd hretry Bool.false_ne_true
      | ok status =>
        rw [hhandle, RetryHook.retries] at hretry
        rw [(self.exceptions.handle_other e status hbroken hhandle).2] at hretry
        exact absurd hretry Bool.false_ne_true
  · rintro ⟨e, he, hbroken⟩
    simp only [attempt, he, ExceptionHook.process, self.exceptions.handle_broken e hbroken,
      RetryHook.retries, self.retry.retriable_unavailable]

/-- Only an attempt that returns is forwarded as a normal return. -/
theorem forwardErrors_attempt :
    forwardErrors (self.attempt op s).1 = .ok () ↔ ∃ c, self.Returns op s c := by
  constructor
  · intro h
    rw [← protectedBody_ok]
    cases hbody : (self.protectedBody op s).1 with
    | ok status => exact ⟨status, rfl⟩
    | error e =>
      -- An exception never becomes a normal return
      obtain ⟨status, hstatus, hok⟩ := forwardErrors_eq_ok.mp h
      simp only [attempt, hbody, ExceptionHook.process] at hstatus
      exact absurd hok (self.exceptions.handle_ne_ok hstatus)
  · rintro ⟨c, hreturns⟩
    rw [hreturns.connection.1]
    rfl

/-- The factory is called for an attempt that starts without a connection, if there is one. -/
theorem attempt_factoryCalls (self : PostgresConnectionManager σ) (op : Op σ) (s : State σ) :
    (self.attempt op s).2.factoryCalls = s.factoryCalls +
      if s.connection = none ∧ self.connectionFactory.isSome = true then 1 else 0 := by
  -- Only `ensureConnection` calls the factory
  have hbody : ∀ s', (self.ensureConnection s).2 = s' →
      (self.attempt op s).2.factoryCalls = s'.factoryCalls := by
    rintro s' rfl
    unfold attempt protectedBody
    cases self.ensureConnection s with
    | mk r s' =>
      cases r with
      | error e => exact resetIfBroken_factoryCalls e s'
      | ok u => cases hr : (op s'.connection s'.world).1 <;> simp [hr]
  rw [hbody _ rfl]
  unfold ensureConnection
  cases hc : s.connection with
  | some c => simp
  | none =>
    unfold createConnection
    cases hf : self.connectionFactory with
    | none => simp
    | some connectionFactory =>
      dsimp only
      cases (connectionFactory s.world).1 <;> simp

/-! ## Calls -/

/-- The state in which the attempt after `k` others starts, whether it is made or not. -/
def attemptState (self : PostgresConnectionManager σ) (op : Op σ) (s : State σ) (k : Nat) :
    State σ :=
  (fun t => (self.attempt op t).2)^[k] s

theorem attemptState_succ (self : PostgresConnectionManager σ) (op : Op σ) (s : State σ)
    (k : Nat) : self.attemptState op s (k + 1) = (self.attempt op (self.attemptState op s k)).2 :=
  Function.iterate_succ_apply' _ k s

/-- The states in which the attempts of a call start, as they write them down. -/
def attemptStarts (self : PostgresConnectionManager σ) (op : Op σ) (s : State σ) :
    List (State σ) :=
  self.retry.starts (self.attempt op) self.retry.maxRetryCount s

/-- What the attempts of a call do, where its outcome is `r`. -/
structure AttemptsOf (manager : PostgresConnectionManager σ) (op : Op σ) (s : State σ)
    (r : Except Exn Unit × State σ) : Prop where
  /-- there is a limit to their number -/
  bounded : (manager.attemptStarts op s).length ≤ manager.retry.maxRetryCount + 1
  /-- each starts where the one before it ended, and the call ends where the last one did -/
  states : manager.attemptStarts op s =
    (List.range (manager.attemptStarts op s).length).map (manager.attemptState op s)
  final : r.2 = manager.attemptState op s (manager.attemptStarts op s).length
  /-- the call returns if one of them does and the ones before it break -/
  returns : r.1 = .ok () ↔ ∃ k, k ≤ manager.retry.maxRetryCount ∧
    (∃ c, manager.Returns op (manager.attemptState op s k) c) ∧
    ∀ j, j < k → manager.Breaks op (manager.attemptState op s j)
  /-- and then the operation returned once, on the connection that is stored -/
  returned : r.1 = .ok () → ∃ k c, (manager.attemptStarts op s).length = k + 1 ∧
    manager.Returns op (manager.attemptState op s k) c ∧ r.2.connection = c ∧
    ∀ j, j < k → ∀ c', ¬manager.Returns op (manager.attemptState op s j) c'
  /-- one that fails is the last one, and the connection is kept -/
  failed : ∀ k, k < (manager.attemptStarts op s).length →
    manager.Fails op (manager.attemptState op s k) →
      (manager.attemptStarts op s).length = k + 1 ∧ (∃ e, r.1 = .error e) ∧
      r.2.connection = (manager.ensureConnection (manager.attemptState op s k)).2.connection ∧
      ∀ c, (manager.attemptState op s k).connection = some c → r.2.connection = some c
  /-- if as many break as may be made, the call throws and there is no connection -/
  broken : (∀ k, k ≤ manager.retry.maxRetryCount →
      manager.Breaks op (manager.attemptState op s k)) →
    (manager.attemptStarts op s).length = manager.retry.maxRetryCount + 1 ∧
    (∃ e, r.1 = .error e) ∧ r.2.connection = none
  /-- the factory is called for those that start without a connection -/
  factory : ∀ k, k < (manager.attemptStarts op s).length →
    (manager.attemptState op s (k + 1)).factoryCalls =
      (manager.attemptState op s k).factoryCalls +
        if (manager.attemptState op s k).connection = none ∧
          manager.connectionFactory.isSome = true then 1 else 0

/-- The attempts of a call and its outcome: all but the last one break, and the last one does
    not unless there are none left. -/
theorem withConnectionOrNull_last (self : PostgresConnectionManager σ) (op : Op σ)
    (s : State σ) :
    ∃ k, k ≤ self.retry.maxRetryCount ∧
      self.attemptStarts op s = (List.range (k + 1)).map (self.attemptState op s) ∧
      self.withConnectionOrNull op s =
        (forwardErrors (self.attempt op (self.attemptState op s k)).1,
          self.attemptState op s (k + 1)) ∧
      (∀ j, j < k → self.Breaks op (self.attemptState op s j)) ∧
      (k = self.retry.maxRetryCount ∨ ¬self.Breaks op (self.attemptState op s k)) := by
  obtain ⟨k, hk, hstarts, hlast, hretried, hends⟩ :=
    self.retry.process_starts (self.attempt op) self.retry.maxRetryCount s
  refine ⟨k, hk, hstarts, ?_, fun j hj => retries_iff.mp (hretried j hj), ?_⟩
  · rw [attemptState_succ]
    unfold withConnectionOrNull
    dsimp only
    rw [hlast]
    rfl
  · refine hends.imp id fun hends hbreaks => ?_
    exact Bool.false_ne_true (hends.symm.trans (retries_iff.mpr hbreaks))

/-- The attempts of a call of an operation that takes null as well. -/
theorem withConnectionOrNull_attempts (self : PostgresConnectionManager σ) (op : Op σ)
    (s : State σ) : self.AttemptsOf op s (self.withConnectionOrNull op s) := by
  obtain ⟨k, hk, hstarts, hcall, hbefore, hends⟩ := self.withConnectionOrNull_last op s
  have hlength : (self.attemptStarts op s).length = k + 1 := by
    rw [hstarts, List.length_map, List.length_range]
  -- The last attempt decides
  have hreturns : (self.withConnectionOrNull op s).1 = .ok () ↔
      ∃ c, self.Returns op (self.attemptState op s k) c := by
    rw [hcall]
    exact forwardErrors_attempt
  -- So the call throws exactly if the last attempt has not returned
  have hthrows : (∀ c, ¬self.Returns op (self.attemptState op s k) c) →
      ∃ e, (self.withConnectionOrNull op s).1 = .error e := by
    intro hnone
    cases hr : (self.withConnectionOrNull op s).1 with
    | error e => exact ⟨e, rfl⟩
    | ok u =>
      obtain ⟨c, hc⟩ := hreturns.mp hr
      exact absurd hc (hnone c)
  have hconnection : (self.withConnectionOrNull op s).2.connection =
      (self.attempt op (self.attemptState op s k)).2.connection := by
    rw [hcall, attemptState_succ]
  constructor
  · rw [hlength]
    exact Nat.succ_le_succ hk
  · rw [hlength]
    exact hstarts
  · rw [hlength, hcall]
  · rw [hreturns]
    constructor
    · rintro ⟨c, hc⟩
      exact ⟨k, hk, ⟨c, hc⟩, hbefore⟩
    · rintro ⟨j, hj, ⟨c, hc⟩, hbreaks⟩
      -- That attempt is the last one
      obtain hlt | rfl | hgt := Nat.lt_trichotomy j k
      · exact absurd (hbefore j hlt) (hc.not_breaks)
      · exact ⟨c, hc⟩
      · obtain rfl | hnot := hends
        · omega
        · exact absurd (hbreaks k hgt) hnot
  · intro hok
    obtain ⟨c, hc⟩ := hreturns.mp hok
    refine ⟨k, c, hlength, hc, ?_, fun j hj c' hc' => hc'.not_breaks (hbefore j hj)⟩
    rw [hconnection]
    exact hc.connection.2
  · intro j hj hfails
    -- Only the last one can fail
    have hjk : j = k := by
      by_contra hne
      exact hfails.not_breaks (hbefore j (by omega))
    subst hjk
    refine ⟨hlength, hthrows fun c hc => hfails.not_returns hc, ?_, ?_⟩
    · rw [hconnection]
      exact hfails.connection
    · intro c hc
      rw [hconnection, hfails.connection, ensureConnection_of_some hc]
      exact hc
  · intro hall
    -- The last one breaks as well, so it is the last that may be made
    have hbreaks := hall k hk
    have hkmax : k = self.retry.maxRetryCount := hends.resolve_right (not_not.mpr hbreaks)
    refine ⟨by rw [hlength, hkmax], hthrows fun c hc => hc.not_breaks hbreaks, ?_⟩
    rw [hconnection]
    exact hbreaks.connection
  · intro j _
    rw [attemptState_succ]
    exact self.attempt_factoryCalls op _

/-- **The attempts of a call.** What one uninterrupted call of either overload does, from any
    state of the manager and for any outcomes of the factory and the operation: it makes at
    most `maxRetryCount + 1` attempts, each after one that broke; it returns exactly if one
    of these returns, and then the operation returned once, on the connection that is stored;
    an attempt that fails ends it and keeps the connection; if all that may be made break it
    throws and stores none; and each attempt that starts without a connection calls the
    factory once, and no other does. -/
theorem withConnection_attempts (self : PostgresConnectionManager σ) (s : State σ) :
    (∀ op, self.AttemptsOf op s (self.withConnectionOrNull op s)) ∧
    ∀ op, self.AttemptsOf (notNull op) s (self.withConnection op s) ∧
      ((self.withConnection op s).1 = .ok () →
        ∃ c, (self.withConnection op s).2.connection = some c) := by
  refine ⟨fun op => self.withConnectionOrNull_attempts op s, fun op => ?_⟩
  have hattempts := self.withConnectionOrNull_attempts (notNull op) s
  refine ⟨hattempts, ?_⟩
  intro hok
  obtain ⟨k, c, -, hc, hconnection, -⟩ := hattempts.returned hok
  obtain ⟨c, rfl⟩ := hc.of_notNull
  exact ⟨c, hconnection⟩

/-! ## The first connection -/

/-- A factory that throws `broken_connection` when it is called first and up to the `k`-th time,
    and then returns connections: `calls` is how often the outside world was asked for one. -/
structure ThrowsFirst (connectionFactory : σ → Except Exn Bool × σ) (calls : σ → Nat) (k : Nat) :
    Prop where
  counts : ∀ w, calls (connectionFactory w).2 = calls w + 1
  throws : ∀ w, calls w < k → ∃ what, (connectionFactory w).1 = .error (.brokenConnection what)
  connects : ∀ w, k ≤ calls w → (connectionFactory w).1 = .ok true

/-- A manager is constructed, and an operation is run. -/
def constructAndRun (self : PostgresConnectionManager σ) (op : Op σ) (world : σ) :
    Except Exn Unit × State σ :=
  match self.construct world with
  | (.error e, s) => (.error e, s)
  | (.ok (), s) => self.withConnectionOrNull op s

variable {connectionFactory : σ → Except Exn Bool × σ} {calls : σ → Nat} {k : Nat}

/-- An attempt without a connection breaks while the factory throws, and leaves none. -/
theorem ThrowsFirst.breaks (h : ThrowsFirst connectionFactory calls k)
    (hsome : self.connectionFactory = some connectionFactory) (hnone : s.connection = none)
    (hcalls : calls s.world < k) :
    self.Breaks op s ∧ calls (self.attempt op s).2.world = calls s.world + 1 := by
  -- The exception of the factory is that of the attempt
  obtain ⟨what, hthrows⟩ := h.throws s.world hcalls
  have hcounts := h.counts s.world
  have hens : self.ensureConnection s = (.error (.brokenConnection what),
      { s with factoryCalls := s.factoryCalls + 1, world := (connectionFactory s.world).2 }) := by
    unfold ensureConnection createConnection
    rw [hnone, hsome]
    simp only [hthrows]
  constructor
  · refine ⟨.brokenConnection what, ?_, rfl⟩
    simp only [protectedBody, hens]
  · simp only [attempt, protectedBody, hens, resetIfBroken_world]
    exact hcounts

/-- An attempt on a connection returns if the operation does not fail. -/
theorem returns_of_connected {c : ConnectionId} (hc : s.connection = some c)
    (hop : ∀ c w, (op (some c) w).1 = .ok ()) : self.Returns op s (some c) := by
  unfold Returns attempted
  rw [ensureConnection_of_some hc]
  dsimp only
  rw [hc, hop]

/-- So does one without a connection once the factory returns one. -/
theorem ThrowsFirst.returns (h : ThrowsFirst connectionFactory calls k)
    (hsome : self.connectionFactory = some connectionFactory) (hnone : s.connection = none)
    (hcalls : k ≤ calls s.world) (hop : ∀ c w, (op (some c) w).1 = .ok ()) :
    ∃ c, self.Returns op s (some c) := by
  refine ⟨s.factoryCalls, ?_⟩
  unfold Returns attempted ensureConnection createConnection
  rw [hnone, hsome]
  simp only [h.connects s.world hcalls, if_true]
  rw [hop]

/-- A manager that has lost its connection gets a new one, if it may make as many attempts as
    the factory throws. -/
theorem ThrowsFirst.reconnects (h : ThrowsFirst connectionFactory calls k)
    (hsome : self.connectionFactory = some connectionFactory)
    (hk : k ≤ self.retry.maxRetryCount) (hop : ∀ c w, (op (some c) w).1 = .ok ())
    (hnone : s.connection = none) (hcalls : calls s.world = 0) :
    (self.withConnectionOrNull op s).1 = .ok () := by
  -- The attempts before the `k`-th one each call the factory in vain
  have hstate : ∀ j, j ≤ k → (self.attemptState op s j).connection = none ∧
      calls (self.attemptState op s j).world = j := by
    intro j
    induction j with
    | zero => exact fun _ => ⟨hnone, hcalls⟩
    | succ j ih =>
      intro hj
      obtain ⟨hconn, hcount⟩ := ih (by omega)
      obtain ⟨hbreaks, hnext⟩ : self.Breaks op (self.attemptState op s j) ∧ _ :=
        h.breaks hsome hconn (by omega)
      rw [attemptState_succ]
      exact ⟨hbreaks.connection, by omega⟩
  rw [(self.withConnectionOrNull_attempts op s).returns]
  refine ⟨k, hk, ?_, ?_⟩
  · obtain ⟨hconn, hcount⟩ := hstate k (Nat.le_refl k)
    obtain ⟨c, hc⟩ := h.returns hsome hconn (by omega) hop
    exact ⟨some c, hc⟩
  · intro j hj
    obtain ⟨hconn, hcount⟩ := hstate j (by omega)
    exact (h.breaks hsome hconn (by omega)).1

/-- The constructor gets a connection exactly if the first call of the factory does not throw. -/
theorem ThrowsFirst.constructAndRun_iff (h : ThrowsFirst connectionFactory calls k)
    (hsome : self.connectionFactory = some connectionFactory)
    (hop : ∀ c w, (op (some c) w).1 = .ok ()) {world : σ} (hcalls : calls world = 0) :
    (self.constructAndRun op world).1 = .ok () ↔ k = 0 := by
  unfold constructAndRun construct createConnection
  rw [hsome]
  cases k with
  | zero =>
    have hconnects := h.connects world (Nat.zero_le _)
    simp only [hconnects, if_true]
    refine iff_of_true ?_ trivial
    -- The connection is there from the start, so the first attempt returns
    have hreturns := (self.withConnectionOrNull_attempts op
      ⟨some 0, 1, (connectionFactory world).2⟩).returns
    exact hreturns.mpr ⟨0, Nat.zero_le _, ⟨some 0, returns_of_connected rfl hop⟩, nofun⟩
  | succ k =>
    -- No hook is around the constructor
    obtain ⟨what, hthrows⟩ := h.throws world (by omega)
    simp only [hthrows]
    exact iff_of_false nofun (Nat.succ_ne_zero k)

/-- **Which databases a service can start with.** Let the factory throw `broken_connection` on
    its first `k` calls, and return connections from then on, where `k` is at most the number
    of retries: constructing a manager and running an operation that does not fail succeeds
    exactly if `k` is zero, while a manager that has no connection runs it whatever `k` is. -/
theorem first_connection_iff (self : PostgresConnectionManager σ)
    (hsome : self.connectionFactory = some connectionFactory)
    (h : ThrowsFirst connectionFactory calls k) (hk : k ≤ self.retry.maxRetryCount) (op : Op σ)
    (hop : ∀ c w, (op (some c) w).1 = .ok ()) :
    (∀ world, calls world = 0 → ((self.constructAndRun op world).1 = .ok () ↔ k = 0)) ∧
    ∀ s : State σ, s.connection = none → calls s.world = 0 →
      (self.withConnectionOrNull op s).1 = .ok () :=
  ⟨fun _ => h.constructAndRun_iff hsome hop, fun _ => h.reconnects hsome hk hop⟩

/-- The manager of the test above, with a factory that throws when it is called first. The
    outside world counts its calls. -/
def startingManager : PostgresConnectionManager Nat :=
  { testManager with
    connectionFactory := some fun n =>
      (if n < 1 then .error (.brokenConnection "connection refused") else .ok true, n + 1) }

/-- That is how often its factory throws. -/
theorem startingManager_throwsFirst : ThrowsFirst (fun n : Nat =>
    ((if n < 1 then .error (.brokenConnection "connection refused") else .ok true :
      Except Exn Bool), n + 1)) id 1 where
  counts _ := rfl
  throws _ hn := ⟨"connection refused", if_pos hn⟩
  connects _ hn := if_neg (Nat.not_lt.mpr hn)

/-- Three retries are enough for a manager that lost its connection. -/
theorem first_connection_iff_test :
    (startingManager.withConnectionOrNull (fun _ n => (.ok (), n)) ⟨none, 0, 0⟩).1 = .ok () :=
  (first_connection_iff startingManager rfl startingManager_throwsFirst (by decide)
    (fun _ n => (.ok (), n)) (fun _ _ => rfl)).2 ⟨none, 0, 0⟩ rfl rfl

/-- They do not help the constructor. -/
theorem first_connection_not_retried :
    startingManager.retry.maxRetryCount = 3 ∧
    (startingManager.constructAndRun (fun _ n => (.ok (), n)) 0).1 =
      .error (.brokenConnection "connection refused") := by
  refine ⟨rfl, ?_⟩
  decide

end SapperBricks.PostgresConnectionManager
