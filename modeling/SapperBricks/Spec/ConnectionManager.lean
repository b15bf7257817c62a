import SapperBricks.ForStd.Sections
import SapperBricks.Native.Postgres

/-!
# The connection of the connection manager

Threads share one connection. Each attempt of a `WithConnection` call is one atomic step,
since its body holds the mutex; between the attempts of a call other calls make theirs.
This file follows which connections were created, which operations ran on them, and on
which of them one was reported broken.

## Key results

- `withConnectionProc_alone`: the attempts of a call that is not interrupted are
  `WithConnection`
- `protectedBody_logging`: what an attempt is said to have run is what its operation logs
- `attempt_cases`: everything an attempt can do to the connection
- `connection_invariant`: the connection in every state that calls of any number of threads
  reach
-/

namespace SapperBricks.PostgresConnectionManager

open Interleaving

variable {σ : Type}

/-! ## Attempts -/

/-- Where a call is: before an attempt, with as many to follow. -/
structure AttemptLoc (σ : Type) where
  op : Op σ
  left : Nat

/-- `WithConnection` as its attempts. -/
def withConnectionProc (self : PostgresConnectionManager σ) :
    Proc (Op σ) (AttemptLoc σ) (State σ) (Except Exn Unit) where
  start op := ⟨op, self.retry.maxRetryCount⟩
  exec l s :=
    let r := self.attempt l.op s
    if self.retry.retries r.1 ∧ 0 < l.left then (.inl ⟨l.op, l.left - 1⟩, r.2)
    else (.inr (forwardErrors r.1), r.2)

/-- An attempt and the at most `n` attempts after it, without interruption. -/
theorem withConnectionProc_alone_left (self : PostgresConnectionManager σ) (op : Op σ) (n : Nat)
    (s : State σ) :
    self.withConnectionProc.alone (n + 1) ⟨op, n⟩ s =
      some (forwardErrors (self.retry.process (self.attempt op) n s).1,
        (self.retry.process (self.attempt op) n s).2) := by
  induction n generalizing s with
  | zero => simp [Proc.alone, withConnectionProc, RetryHook.process]
  | succ n ih =>
    -- One attempt, and the induction hypothesis for those that follow
    unfold Proc.alone RetryHook.process
    by_cases hretry : self.retry.retries (self.attempt op s).1 = true
    · have hexec : self.withConnectionProc.exec ⟨op, n + 1⟩ s =
          (.inl ⟨op, n⟩, (self.attempt op s).2) := by
        simp [withConnectionProc, hretry]
      simp only [hexec, hretry, if_true]
      exact ih _
    · simp [withConnectionProc, hretry]

/-- The attempts of a call that is not interrupted are `WithConnection`. -/
theorem withConnectionProc_alone (self : PostgresConnectionManager σ) (op : Op σ) (s : State σ) :
    self.withConnectionProc.alone (self.retry.maxRetryCount + 1)
      (self.withConnectionProc.start op) s = some (self.withConnectionOrNull op s) :=
  self.withConnectionProc_alone_left op _ s

/-- What an attempt did: the connection it created, if it created one, and the operation
    it ran, if it ran one, with the connection this was given and what became of it. -/
structure Attempted where
  created : Option ConnectionId
  ran : Option (Option ConnectionId × Except Exn Unit)

/-- What an attempt does in a state. -/
def attempted (self : PostgresConnectionManager σ) (op : Op σ) (s : State σ) : Attempted :=
  match self.ensureConnection s with
  | (.error _, _) => ⟨none, none⟩
  | (.ok (), s') =>
    ⟨if s.connection = none then s'.connection else none,
      some (s'.connection, (op s'.connection s'.world).1)⟩

/-- What an operation is given and comes to, each time that it runs. -/
abbrev OpLog := List (Option ConnectionId × Except Exn Unit)

/-- The manager in a world with a log, of which its factory knows nothing. -/
def withLog (self : PostgresConnectionManager σ) : PostgresConnectionManager (σ × OpLog) where
  connectionFactory := self.connectionFactory.map fun factory w =>
    let r := factory w.1
    (r.1, (r.2, w.2))
  retry := self.retry
  exceptions := self.exceptions

/-- The operation, when it writes down what it is given and comes to. -/
def logging (op : Op σ) : Op (σ × OpLog) := fun c w =>
  let r := op c w.1
  (r.1, (r.2, w.2 ++ [(c, r.1)]))

/-- A state with a log. -/
def State.withLog (s : State σ) (log : OpLog) : State (σ × OpLog) :=
  ⟨s.connection, s.factoryCalls, (s.world, log)⟩

/-- The connection is ensured in the same way, and nothing is logged by that. -/
theorem ensureConnection_withLog (self : PostgresConnectionManager σ) (s : State σ) (log : OpLog) :
    self.withLog.ensureConnection (s.withLog log) =
      ((self.ensureConnection s).1, (self.ensureConnection s).2.withLog log) := by
  unfold ensureConnection
  cases hc : s.connection with
  | some c => simp only [State.withLog, hc]
  | none =>
    unfold createConnection
    cases hfactory : self.connectionFactory with
    | none => simp only [withLog, State.withLog, hc, hfactory, Option.map_none]
    | some factory =>
      simp only [withLog, State.withLog, hc, hfactory, Option.map_some]
      cases (factory s.world).1 <;> rfl

/-- The operation of an attempt runs as `attempted` says: what it logs in the protected body is what
    it ran, and the body is the same otherwise. -/
theorem protectedBody_logging (self : PostgresConnectionManager σ) (op : Op σ) (s : State σ)
    (log : OpLog) :
    self.withLog.protectedBody (logging op) (s.withLog log) =
      ((self.protectedBody op s).1,
        (self.protectedBody op s).2.withLog (log ++ (self.attempted op s).ran.toList)) := by
  unfold protectedBody attempted
  rw [ensureConnection_withLog]
  cases self.ensureConnection s with
  | mk r s' =>
    cases r with
    | error e =>
      -- The operation did not run
      cases hb : e.isBrokenConnection <;> simp [resetIfBroken, State.withLog, hb]
    | ok u =>
      simp only [logging, State.withLog]
      cases (op s'.connection s'.world).1 with
      | error e => cases hb : e.isBrokenConnection <;> simp [resetIfBroken, hb]
      | ok u => rfl

/-- The connection on which an attempt reported `broken_connection`. -/
def Attempted.broken? (a : Attempted) : Option ConnectionId :=
  match a.ran with
  | some (some c, .error e) => if e.isBrokenConnection then some c else none
  | _ => none

/-- A connection is there once one is ensured: the one that was, or what the factory
    returned. -/
theorem ensureConnection_cases (self : PostgresConnectionManager σ) (s : State σ) :
    (∃ c, s.connection = some c ∧ self.ensureConnection s = (.ok (), s)) ∨
    s.connection = none ∧
      ((∃ e s', self.ensureConnection s = (.error e, s') ∧ s'.connection = none ∧
        s.factoryCalls ≤ s'.factoryCalls) ∨
      (∃ s', self.ensureConnection s = (.ok (), s') ∧
        s'.factoryCalls = s.factoryCalls + 1 ∧
        (s'.connection = none ∨ s'.connection = some s.factoryCalls))) := by
  unfold ensureConnection
  cases hc : s.connection with
  | some c => exact .inl ⟨c, rfl, rfl⟩
  | none =>
    right
    apply And.intro rfl
    dsimp only
    unfold createConnection
    cases self.connectionFactory with
    | none =>
      -- There is no factory to call
      exact .inl ⟨_, _, rfl, hc, Nat.le_refl _⟩
    | some connectionFactory =>
      dsimp only
      cases (connectionFactory s.world).1 with
      | error e =>
        -- The factory was called and threw
        exact .inl ⟨_, _, rfl, hc, Nat.le_succ _⟩
      | ok notNull =>
        -- It may still have returned null
        cases notNull
        · exact .inr ⟨_, rfl, rfl, .inl rfl⟩
        · exact .inr ⟨_, rfl, rfl, .inr rfl⟩

/-- What an attempt whose body got as far as the operation leaves. -/
theorem attempt_of_ensured {self : PostgresConnectionManager σ} (op : Op σ) {s s' : State σ}
    (h : self.ensureConnection s = (.ok (), s')) :
    (self.attempt op s).2.factoryCalls = s'.factoryCalls ∧
    (self.attempt op s).2.connection =
      if (Attempted.mk none (some (s'.connection, (op s'.connection s'.world).1))).broken? = none
        then s'.connection else none := by
  simp only [attempt, protectedBody, h]
  -- The connection is reset exactly if the operation reports it broken
  cases hr : (op s'.connection s'.world).1 with
  | ok u => cases s'.connection <;> simp [Attempted.broken?]
  | error e =>
    cases s'.connection <;> cases hb : e.isBrokenConnection <;>
      simp [Attempted.broken?, resetIfBroken, hb]

/-- What an attempt that could not create a connection leaves. -/
theorem attempt_of_error {self : PostgresConnectionManager σ} (op : Op σ) {s s' : State σ} {e : Exn}
    (h : self.ensureConnection s = (.error e, s')) (hnone : s'.connection = none) :
    (self.attempt op s).2.factoryCalls = s'.factoryCalls ∧
    (self.attempt op s).2.connection = none := by
  simp only [attempt, protectedBody, h]
  cases hb : e.isBrokenConnection <;> simp [resetIfBroken, hb, hnone]

/-- Everything an attempt can do to the connection:
    it runs the operation on the stored one;
    it finds none and creates none;
    or it finds none, creates one, and runs the operation on it.
    A connection it ran the operation on is stored afterwards unless it was reported
    broken. -/
theorem attempt_cases (self : PostgresConnectionManager σ) (op : Op σ) (s : State σ) :
    (∃ c r, s.connection = some c ∧ self.attempted op s = ⟨none, some (some c, r)⟩ ∧
      (self.attempt op s).2.factoryCalls = s.factoryCalls ∧
      (self.attempt op s).2.connection =
        if (self.attempted op s).broken? = none then some c else none) ∨
    (s.connection = none ∧ (self.attempted op s).created = none ∧
      (∀ c r, (self.attempted op s).ran ≠ some (some c, r)) ∧
      s.factoryCalls ≤ (self.attempt op s).2.factoryCalls ∧
      (self.attempt op s).2.connection = none) ∨
    (∃ r, s.connection = none ∧
      self.attempted op s = ⟨some s.factoryCalls, some (some s.factoryCalls, r)⟩ ∧
      (self.attempt op s).2.factoryCalls = s.factoryCalls + 1 ∧
      (self.attempt op s).2.connection =
        if (self.attempted op s).broken? = none then some s.factoryCalls else none) := by
  obtain ⟨c, hc, hens⟩ | ⟨hc, ⟨e, s', hens, hnone, hle⟩ | ⟨s', hens, hcalls, hcases⟩⟩ :=
    self.ensureConnection_cases s
  · -- The stored connection is used
    left
    obtain ⟨hf, hconn⟩ := attempt_of_ensured op hens
    have hatt : self.attempted op s = ⟨none, some (some c, (op (some c) s.world).1)⟩ := by
      simp [attempted, hens, hc]
    refine ⟨c, _, hc, hatt, hf, ?_⟩
    rw [hconn, hatt, hc]
  · -- The factory throws
    right; left
    obtain ⟨hf, hconn⟩ := attempt_of_error op hens hnone
    have hatt : self.attempted op s = ⟨none, none⟩ := by simp [attempted, hens]
    rw [hatt, hf]
    exact ⟨hc, rfl, fun _ _ => nofun, hle, hconn⟩
  · obtain ⟨hf, hconn⟩ := attempt_of_ensured op hens
    obtain hnull | hnew := hcases
    · -- The factory returns null
      right; left
      have hatt : self.attempted op s = ⟨none, some (none, (op none s'.world).1)⟩ := by
        simp [attempted, hens, hc, hnull]
      rw [hatt]
      have hran : ∀ c r, some ((none : Option ConnectionId), (op none s'.world).1) ≠
          some (some c, r) := by
        intro c r h
        simp at h
      have hnone : (self.attempt op s).2.connection = none := by
        rw [hconn, hnull, ite_self]
      exact ⟨hc, rfl, hran, by omega, hnone⟩
    · -- The factory returns a connection
      right; right
      have hatt : self.attempted op s = ⟨some s.factoryCalls,
          some (some s.factoryCalls, (op (some s.factoryCalls) s'.world).1)⟩ := by
        simp [attempted, hens, hc, hnew]
      refine ⟨_, hc, hatt, by omega, ?_⟩
      rw [hconn, hatt, hnew]
      rfl

/-- Only the connection an operation ran on is reported broken. -/
theorem Attempted.broken?_cases (x : Option ConnectionId) (c : ConnectionId)
    (r : Except Exn Unit) :
    (Attempted.mk x (some (some c, r))).broken? = none ∨
    (Attempted.mk x (some (some c, r))).broken? = some c := by
  cases r with
  | ok u => exact .inl rfl
  | error e => cases h : e.isBrokenConnection <;> simp [broken?, h]

/-- An operation that was given no connection reports none broken. -/
theorem Attempted.broken?_eq_none {a : Attempted} (h : ∀ c r, a.ran ≠ some (some c, r)) :
    a.broken? = none := by
  unfold broken?
  split
  · rename_i c e hran
    exact absurd hran (h c _)
  · rfl

/-! ## The invariant of the connection -/

/-- The stored connection and the number of factory calls, related to the connections
    created and reported broken so far. -/
structure ConnectionInvariant (created broken : List ConnectionId)
    (connection : Option ConnectionId) (factoryCalls : Nat) : Prop where
  /-- the stored connection is the one created most recently -/
  latest : ∀ c, connection = some c → created.getLast? = some c
  /-- and has not been reported broken -/
  healthy : ∀ c, connection = some c → c ∉ broken
  /-- every other connection was reported broken -/
  replaced : ∀ c ∈ created, connection = some c ∨ c ∈ broken
  /-- the next connection is a new one -/
  fresh : (∀ c ∈ created, c < factoryCalls) ∧ ∀ c ∈ broken, c < factoryCalls

namespace ConnectionInvariant

variable {created broken : List ConnectionId} {n : Nat}

/-- Without a stored connection, all that were created are broken. -/
theorem all_broken (h : ConnectionInvariant created broken none n) :
    ∀ c ∈ created, c ∈ broken := by
  intro c hc
  obtain hstored | hbroken := h.replaced c hc
  · exact nomatch hstored
  · exact hbroken

/-- The factory is called and no connection comes of it. -/
theorem failed (h : ConnectionInvariant created broken none n) {m : Nat} (hm : n ≤ m) :
    ConnectionInvariant created broken none m where
  latest := h.latest
  healthy := h.healthy
  replaced := h.replaced
  fresh := ⟨fun c hc => Nat.lt_of_lt_of_le (h.fresh.1 c hc) hm,
    fun c hc => Nat.lt_of_lt_of_le (h.fresh.2 c hc) hm⟩

/-- The factory returns a connection. -/
theorem create (h : ConnectionInvariant created broken none n) :
    ConnectionInvariant (created ++ [n]) broken (some n) (n + 1) := by
  constructor
  · intro c hc
    rw [List.getLast?_concat, hc]
  · intro c hc hbroken
    cases hc
    exact Nat.lt_irrefl n (h.fresh.2 n hbroken)
  · -- The new connection is the stored one, and the others were replaced before
    intro c hc
    rw [List.mem_append, List.mem_singleton] at hc
    obtain hc | rfl := hc
    · exact .inr (h.all_broken c hc)
    · exact .inl rfl
  · constructor
    · intro c hc
      rw [List.mem_append, List.mem_singleton] at hc
      obtain hc | rfl := hc
      · exact Nat.lt_succ_of_lt (h.fresh.1 c hc)
      · exact Nat.lt_succ_self c
    · intro c hc
      exact Nat.lt_succ_of_lt (h.fresh.2 c hc)

/-- An operation reports the stored connection broken. -/
theorem report {c : ConnectionId} (h : ConnectionInvariant created broken (some c) n) :
    ConnectionInvariant created (broken ++ [c]) none n := by
  constructor
  · exact fun _ => nofun
  · exact fun _ => nofun
  · -- The stored connection joins those that were broken before
    intro x hx
    rw [List.mem_append, List.mem_singleton]
    obtain hstored | hold := h.replaced x hx
    · exact .inr (.inr (Option.some.inj hstored).symm)
    · exact .inr (.inl hold)
  · apply And.intro h.fresh.1
    intro x hx
    rw [List.mem_append, List.mem_singleton] at hx
    obtain hx | rfl := hx
    · exact h.fresh.2 x hx
    · exact h.fresh.1 x (List.mem_of_getLast? (h.latest x rfl))

/-- An operation ran on the stored connection, and reported it broken or did not. -/
theorem ran {c : ConnectionId} (h : ConnectionInvariant created broken (some c) n)
    (x : Option ConnectionId) (r : Except Exn Unit) :
    ConnectionInvariant created
      (broken ++ (Attempted.mk x (some (some c, r))).broken?.toList)
      (if (Attempted.mk x (some (some c, r))).broken? = none then some c else none) n := by
  obtain hb | hb := Attempted.broken?_cases x c r
  · simpa [hb] using h
  · simpa [hb] using h.report

/-- Every attempt keeps the invariant. -/
theorem attempt (self : PostgresConnectionManager σ) (op : Op σ) {s : State σ}
    (h : ConnectionInvariant created broken s.connection s.factoryCalls) :
    ConnectionInvariant (created ++ (self.attempted op s).created.toList)
      (broken ++ (self.attempted op s).broken?.toList) (self.attempt op s).2.connection
      (self.attempt op s).2.factoryCalls := by
  obtain ⟨c, r, hc, hatt, hcalls, hconn⟩ | ⟨hc, hnone, hran, hcalls, hconn⟩ |
    ⟨r, hc, hatt, hcalls, hconn⟩ := self.attempt_cases op s
  · -- The operation ran on the stored connection
    rw [hc] at h
    rw [hconn, hcalls, hatt, Option.toList_none, List.append_nil]
    exact h.ran none r
  · -- There was no connection and none was created
    rw [hc] at h
    rw [hconn, hnone, Attempted.broken?_eq_none hran]
    simpa using h.failed hcalls
  · -- A connection was created, and the operation ran on it
    rw [hc] at h
    rw [hconn, hcalls, hatt]
    exact h.create.ran (some s.factoryCalls) r

end ConnectionInvariant

/-- The constructor establishes the invariant. -/
theorem construct_invariant {self : PostgresConnectionManager σ} {world : σ} {s₀ : State σ}
    (h : self.construct world = (.ok (), s₀)) :
    ConnectionInvariant s₀.connection.toList [] s₀.connection s₀.factoryCalls := by
  have hempty : ConnectionInvariant [] [] none 0 := by
    constructor <;> simp
  unfold construct at h
  split at h
  · exact nomatch h
  · rename_i connection s hcreate
    cases h
    unfold createConnection at hcreate
    split at hcreate
    · exact nomatch hcreate
    dsimp only at hcreate
    split at hcreate
    · exact nomatch hcreate
    · -- The first call of the factory returned, a connection or null
      rename_i notNull _
      cases hcreate
      cases notNull
      · exact hempty.failed (Nat.zero_le 1)
      · exact hempty.create

/-! ## Runs -/

section Runs

variable {ι : Type} [DecidableEq ι] {self : PostgresConnectionManager σ} {opOf : ι → Op σ}

/-- What the attempts of a run did, one after the other. -/
def history (self : PostgresConnectionManager σ) (xs : List (Section ι (AttemptLoc σ) (State σ))) :
    List Attempted :=
  xs.map fun x => self.attempted x.loc.op x.before

/-- The connections created so far, by the constructor and in the attempts since. -/
def createdConnections (s₀ : State σ) (history : List Attempted) : List ConnectionId :=
  s₀.connection.toList ++ history.filterMap Attempted.created

/-- The connections reported broken so far. -/
def brokenConnections (history : List Attempted) : List ConnectionId :=
  history.filterMap Attempted.broken?

omit [DecidableEq ι] in
/-- One more section is one more attempt. -/
theorem history_concat (xs : List (Section ι (AttemptLoc σ) (State σ))) (i : ι)
    (l : AttemptLoc σ) (s : State σ) :
    self.history (xs ++ [⟨i, l, s⟩]) = self.history xs ++ [self.attempted l.op s] := by
  simp [history]

/-- The connections created after one more attempt. -/
theorem createdConnections_concat (s₀ : State σ) (hist : List Attempted) (a : Attempted) :
    createdConnections s₀ (hist ++ [a]) = createdConnections s₀ hist ++ a.created.toList := by
  cases h : a.created <;> simp [createdConnections, List.filterMap_append, h]

/-- The connections reported broken after one more attempt. -/
theorem brokenConnections_concat (hist : List Attempted) (a : Attempted) :
    brokenConnections (hist ++ [a]) = brokenConnections hist ++ a.broken?.toList := by
  cases h : a.broken? <;> simp [brokenConnections, List.filterMap_append, h]

/-- The state an attempt leaves is that of its section. -/
theorem withConnectionProc_exec_snd (l : AttemptLoc σ) (s : State σ) :
    (self.withConnectionProc.exec l s).2 = (self.attempt l.op s).2 := by
  unfold withConnectionProc
  dsimp only
  split <;> rfl

/-- The invariant after every run. -/
theorem run_connectionInvariant {world : σ} {s₀ : State σ}
    (h₀ : self.construct world = (.ok (), s₀)) {tr : List (Event ι)}
    {c : Config ι (AttemptLoc σ) (State σ) (Except Exn Unit)}
    (h : self.withConnectionProc.run opOf (.initial s₀) tr = some c) :
    ConnectionInvariant
      (createdConnections s₀
        (self.history (self.withConnectionProc.sections opOf (.initial s₀) tr)))
      (brokenConnections (self.history (self.withConnectionProc.sections opOf (.initial s₀) tr)))
      c.shared.connection c.shared.factoryCalls := by
  apply run_sections (J := fun _ _ => True) (fun _ => trivial) (fun _ _ _ _ _ _ => trivial)
    (fun _ => rfl) (P := fun xs _ s => ConnectionInvariant
      (createdConnections s₀ (self.history xs)) (brokenConnections (self.history xs))
      s.connection s.factoryCalls) _ _ h
  · show ConnectionInvariant (createdConnections s₀ []) (brokenConnections []) s₀.connection
      s₀.factoryCalls
    have h₁ := construct_invariant h₀
    simpa [createdConnections, brokenConnections] using h₁
  · -- Each section is an attempt
    intro xs _ i l s hinv _ _
    have hatt := hinv.attempt self l.op
    rw [withConnectionProc_exec_snd, history_concat, createdConnections_concat,
      brokenConnections_concat]
    exact hatt

/-- **The connection in every reachable state.** However the attempts of `WithConnection`
    calls of any number of threads interleave, and whatever the factory and the operations
    do, the stored connection is null or the one created most recently, on which no
    `broken_connection` was reported. Whatever attempt comes next, it does not pass its
    operation a connection on which `broken_connection` was reported before; and if it
    calls the factory, the stored connection is null and each connection created so far was
    reported broken. -/
theorem connection_invariant {world : σ} {s₀ : State σ}
    (h₀ : self.construct world = (.ok (), s₀)) {tr : List (Event ι)}
    {c : Config ι (AttemptLoc σ) (State σ) (Except Exn Unit)}
    (h : self.withConnectionProc.run opOf (.initial s₀) tr = some c) :
    let hist := self.history (self.withConnectionProc.sections opOf (.initial s₀) tr)
    (∀ conn, c.shared.connection = some conn →
      (createdConnections s₀ hist).getLast? = some conn ∧ conn ∉ brokenConnections hist) ∧
    ∀ op : Op σ,
      (∀ conn r, (self.attempted op c.shared).ran = some (some conn, r) →
        conn ∉ brokenConnections hist) ∧
      ((self.attempt op c.shared).2.factoryCalls ≠ c.shared.factoryCalls →
        c.shared.connection = none ∧
        ∀ conn ∈ createdConnections s₀ hist, conn ∈ brokenConnections hist) := by
  intro hist
  have hinv : ConnectionInvariant (createdConnections s₀ hist) (brokenConnections hist)
      c.shared.connection c.shared.factoryCalls := run_connectionInvariant h₀ h
  refine ⟨fun conn hconn => ⟨hinv.latest conn hconn, hinv.healthy conn hconn⟩, fun op => ?_⟩
  obtain ⟨x, r, hc, hatt, hcalls, -⟩ | ⟨hc, -, hran, -, -⟩ | ⟨r, hc, hatt, -, -⟩ :=
    self.attempt_cases op c.shared
  · -- The operation gets the stored connection, and the factory is not called
    refine ⟨fun conn r' hconn => ?_, fun hne => absurd hcalls hne⟩
    rw [hatt] at hconn
    cases hconn
    exact hinv.healthy _ hc
  · -- The operation gets no connection
    rw [hc] at hinv
    exact ⟨fun conn r' hconn => absurd hconn (hran conn r'), fun _ => ⟨hc, hinv.all_broken⟩⟩
  · -- The operation gets a new connection, which no one can have reported yet
    rw [hc] at hinv
    refine ⟨fun conn r' hconn hbroken => ?_, fun _ => ⟨hc, hinv.all_broken⟩⟩
    rw [hatt] at hconn
    cases hconn
    exact Nat.lt_irrefl _ (hinv.fresh.2 _ hbroken)

end Runs

/-! ## Two threads on a connection that breaks -/

/-- A manager that retries `unavailable` three times; its factory always returns a
    connection, and the outside world counts the operations. -/
def testManager : PostgresConnectionManager Nat where
  connectionFactory := some fun n => (.ok true, n)
  retry := ⟨3, fun code => code = .unavailable, rfl, rfl⟩
  exceptions :=
    { handle e := if e.isBrokenConnection then .ok ⟨.unavailable, ""⟩ else .error e
      handle_broken e he := by simp [he]
      handle_other e status he h := by simp [he] at h }

/-- An operation that is the first to find the connection broken. -/
def testOp (_ : Bool) : Op Nat := fun _ n =>
  if n = 0 then (.error (.brokenConnection "server closed the connection"), n + 1)
  else (.ok (), n + 1)

/-- The invariant after the attempt that breaks the connection and one of another thread. -/
theorem connection_invariant_test :
    testManager.construct 0 = (.ok (), ⟨some 0, 1, 0⟩) ∧
    ∃ c, testManager.withConnectionProc.run testOp (.initial ⟨some 0, 1, 0⟩)
        [.call false, .call true, .exec false, .exec true] = some c ∧
      c.shared.connection = some 1 ∧
      (createdConnections (⟨some 0, 1, 0⟩ : State Nat) (testManager.history
        (testManager.withConnectionProc.sections testOp (.initial ⟨some 0, 1, 0⟩)
          [.call false, .call true, .exec false, .exec true]))).getLast? = some 1 := by
  have h₀ : testManager.construct 0 = (.ok (), ⟨some 0, 1, 0⟩) := rfl
  refine ⟨h₀, _, rfl, rfl, ?_⟩
  have hinv := @connection_invariant Nat Bool _ testManager testOp _ _ h₀
    [.call false, .call true, .exec false, .exec true] _ rfl
  exact (hinv.1 1 rfl).1

end SapperBricks.PostgresConnectionManager
