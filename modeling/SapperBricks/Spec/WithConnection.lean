import SapperBricks.Native.Postgres
import SapperBricks.Spec.RequestHooks

/-!
# One call of `WithConnection`

What an uninterrupted call leaves of the outside world: a condition that the factory and
the operation keep is kept by the call, however many attempts it makes, and a call that
returns normally ended with the operation returning normally.

## Key results

- `withConnection_spec`: the rule for a call
- `withConnection_ok`: a call whose factory and operation do not fail returns normally
-/

namespace SapperBricks

namespace PostgresConnectionManager

variable {σ : Type} {self : PostgresConnectionManager σ}

/-! ## Attempts -/

/-- A condition on the outside world that the factory keeps. -/
def FactoryKeeps (self : PostgresConnectionManager σ) (I : σ → Prop) : Prop :=
  ∀ connectionFactory, self.connectionFactory = some connectionFactory →
    ∀ w, I w → I (connectionFactory w).2

/-- Ensuring a connection keeps what the factory keeps. -/
theorem ensureConnection_keeps {I : σ → Prop} (hfactory : self.FactoryKeeps I) {s : State σ}
    (hI : I s.world) : I (self.ensureConnection s).2.world := by
  unfold ensureConnection
  cases s.connection with
  | some c => exact hI
  | none =>
    dsimp only
    unfold createConnection
    cases hf : self.connectionFactory with
    | none => exact hI
    | some connectionFactory =>
      have hworld := hfactory connectionFactory hf s.world hI
      dsimp only
      cases (connectionFactory s.world).1 <;> exact hworld

/-- The rule for an attempt. -/
theorem attempt_spec {I : σ → Prop} (hfactory : self.FactoryKeeps I) {op : Op σ}
    (hop : ∀ c w, I w → I (op c w).2) {s : State σ} (hI : I s.world) :
    I (self.attempt op s).2.world ∧
    (forwardErrors (self.attempt op s).1 = .ok () →
      ∃ c w, I w ∧ op c w = (.ok (), (self.attempt op s).2.world)) := by
  have hensure := ensureConnection_keeps hfactory hI
  -- An exception never becomes a normal return
  have hfails : ∀ e, forwardErrors (self.exceptions.process (.error e)) ≠ .ok () := by
    intro e h
    obtain ⟨status, hstatus, hok⟩ := forwardErrors_eq_ok.mp h
    exact self.exceptions.handle_ne_ok hstatus hok
  unfold attempt protectedBody
  cases hens : self.ensureConnection s with
  | mk r s' =>
    rw [hens] at hensure
    cases r with
    | error e =>
      apply And.intro _ (fun h => absurd h (hfails e))
      simpa using hensure
    | ok u =>
      -- The body got as far as the operation
      dsimp only
      have hworld := hop s'.connection s'.world hensure
      cases hr : (op s'.connection s'.world).1 with
      | error e =>
        apply And.intro _ (fun h => absurd h (hfails e))
        simpa using hworld
      | ok u => exact ⟨hworld, fun _ => ⟨s'.connection, s'.world, hensure, Prod.ext hr rfl⟩⟩

/-- An attempt whose operation leaves something alone when it fails does so. -/
theorem attempt_failed {I : σ → Prop} (hfactory : self.FactoryKeeps I) {op : Op σ}
    (hop : ∀ c w e, I w → (op c w).1 = .error e → I (op c w).2) {s : State σ} (hI : I s.world)
    (hfailed : forwardErrors (self.attempt op s).1 ≠ .ok ()) : I (self.attempt op s).2.world := by
  have hensure := ensureConnection_keeps hfactory hI
  unfold attempt protectedBody at hfailed ⊢
  cases hens : self.ensureConnection s with
  | mk r s' =>
    rw [hens] at hensure hfailed
    cases r with
    | error e => simpa using hensure
    | ok u =>
      -- The body got as far as the operation
      dsimp only at hensure hfailed ⊢
      cases hr : (op s'.connection s'.world).1 with
      | error e =>
        have hworld := hop s'.connection s'.world e hensure hr
        simpa using hworld
      | ok u =>
        rw [hr] at hfailed
        exact absurd rfl hfailed

/-- What an operation keeps that is given a connection it keeps when it must not be given null. -/
theorem notNull_keeps {I : σ → Prop} {op : ConnectionId → σ → Except Exn Unit × σ}
    (hop : ∀ c w, I w → I (op c w).2) (c : Option ConnectionId) (w : σ) (hw : I w) :
    I (notNull op c w).2 := by
  cases c with
  | none => exact hw
  | some c => exact hop c w hw

/-! ## Calls -/

/-- The rule for a call of an operation that takes null as well. -/
theorem withConnectionOrNull_spec {I : σ → Prop} (hfactory : self.FactoryKeeps I) {op : Op σ}
    (hop : ∀ c w, I w → I (op c w).2) {s : State σ} (hI : I s.world) :
    I (self.withConnectionOrNull op s).2.world ∧
    ((self.withConnectionOrNull op s).1 = .ok () →
      ∃ c w, I w ∧ op c w = (.ok (), (self.withConnectionOrNull op s).2.world)) :=
  self.retry.process_spec (I := fun s : State σ => I s.world)
    (Q := fun s : State σ => ∃ c w, I w ∧ op c w = (.ok (), s.world))
    (fun _ h => attempt_spec hfactory hop h) self.retry.maxRetryCount hI

/-- The rule for a call: what the factory and the operation keep is kept, and a call that
    returns normally ended with the operation doing so. -/
theorem withConnection_spec (self : PostgresConnectionManager σ) {I : σ → Prop} (hfactory : self.FactoryKeeps I)
    {op : ConnectionId → σ → Except Exn Unit × σ} (hop : ∀ c w, I w → I (op c w).2)
    {s : State σ} (hI : I s.world) :
    I (self.withConnection op s).2.world ∧
    ((self.withConnection op s).1 = .ok () →
      ∃ c w, I w ∧ op c w = (.ok (), (self.withConnection op s).2.world)) := by
  obtain ⟨hkeeps, hok⟩ := withConnectionOrNull_spec hfactory (notNull_keeps hop) hI
  apply And.intro hkeeps
  intro h
  obtain ⟨c, w, hw, hc⟩ := hok h
  cases c with
  | none => exact nomatch (congrArg Prod.fst hc)
  | some c => exact ⟨c, w, hw, hc⟩

/-- A call whose factory always returns a connection and whose operation always returns
    normally does so. -/
theorem withConnection_ok (self : PostgresConnectionManager σ) {connectionFactory : σ → Except Exn Bool × σ}
    (hsome : self.connectionFactory = some connectionFactory)
    (hfactory : ∀ w, (connectionFactory w).1 = .ok true)
    {op : ConnectionId → σ → Except Exn Unit × σ} (hop : ∀ c w, (op c w).1 = .ok ())
    (s : State σ) : (self.withConnection op s).1 = .ok () := by
  have hens : ∃ c s', self.ensureConnection s = (.ok (), s') ∧ s'.connection = some c := by
    unfold ensureConnection
    cases hc : s.connection with
    | some c => exact ⟨c, s, rfl, hc⟩
    | none =>
      simp only [createConnection, hsome, hfactory, if_true]
      exact ⟨_, _, rfl, rfl⟩
  obtain ⟨c, s', hens, hc⟩ := hens
  have hattempt : (self.attempt (notNull op) s).1 = .ok .ok := by
    simp [attempt, protectedBody, hens, hc, notNull, hop, ExceptionHook.process]
  unfold withConnection withConnectionOrNull
  dsimp only
  rw [self.retry.process_of_ok hattempt rfl, hattempt]
  rfl

end PostgresConnectionManager

end SapperBricks
