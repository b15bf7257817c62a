import SapperBricks.ForStd.History
import SapperBricks.Spec.ConnectionAttempts
import SapperBricks.Spec.RepoFailures
import SapperBricks.Spec.StoreRetries

/-!
# Concurrent calls of the PostgreSQL repo

Any number of threads call `Store` and `Retrieve` of one `PostgresRepo`. An attempt of a call
holds the mutex of the connection manager and is one atomic step; between the attempts of a call
others make theirs. What the callers see are the entities held under the ids.

Where an attempt that fails has not taken effect, the calls cannot be told from calls of a map
that are made one at a time. Where it may have, a `Store` that is retried can write its entity
again after a later `Store` has overwritten it; what a `Retrieve` returns is then still recent.

## Key results

- `callProc_alone`: the attempts of a call that is not interrupted are `Store` or `Retrieve`
- `calls_linearizable`: the calls of a run, if failed attempts have no effect
- `retrieve_regular`: what a `Retrieve` returns, whatever failed attempts do
-/

namespace SapperBricks

open Interleaving Keyed

open scoped List

namespace PostgresRepo

variable {σ : Type}

/-! ## Calls as their attempts -/

/-- What a call of the repo returned or threw. -/
inductive CallResult where
  | stored (result : Except Exn Unit)
  | retrieved (result : Except Exn (Option Entity))

/-- Where a call is: before an attempt, with as many to follow. The variable `entity_opt` is one
    of the call. -/
structure CallLoc where
  call : RepoCall
  left : Nat
  entityOpt : Option Entity

/-- The operation of a call. -/
def callOp (self : PostgresRepo σ) : RepoCall → ConnectionId → World σ → Except Exn Unit × World σ
  | .store entity => self.storeOp entity
  | .retrieve id => self.retrieveOp id

/-- The result of a call, once its last attempt has ended. -/
def callResult : RepoCall → Except Exn Unit → Option Entity → CallResult
  | .store _, r, _ => .stored r
  | .retrieve _, r, entityOpt => .retrieved (r.map fun _ => entityOpt)

/-- One attempt of a call with its variable. -/
def callAttempt (self : PostgresRepo σ) (call : RepoCall) (entityOpt : Option Entity)
    (s : State σ) : Except Exn Status × State σ :=
  self.connectionManager.attempt (PostgresConnectionManager.notNull (self.callOp call))
    { s with world := { s.world with entityOpt } }

/-- `Store` and `Retrieve` as their attempts. -/
def callProc (self : PostgresRepo σ) : Proc RepoCall CallLoc (State σ) CallResult where
  start call := ⟨call, self.retry.maxRetryCount, none⟩
  exec l s :=
    let r := self.callAttempt l.call l.entityOpt s
    if self.retry.retries r.1 ∧ 0 < l.left then
      (.inl ⟨l.call, l.left - 1, r.2.world.entityOpt⟩, r.2)
    else (.inr (callResult l.call (forwardErrors r.1) r.2.world.entityOpt), r.2)

/-- A call of the repo by a thread that is alone. -/
def callAlone (self : PostgresRepo σ) (call : RepoCall) (s : State σ) : CallResult × State σ :=
  match call with
  | .store entity =>
    let r := self.store entity { s with world := { s.world with entityOpt := none } }
    (.stored r.1, r.2)
  | .retrieve id =>
    let r := self.retrieve id s
    (.retrieved r.1, r.2)

/-- An attempt and the at most `n` attempts after it, without interruption. -/
theorem callProc_alone_left (self : PostgresRepo σ) (call : RepoCall) (n : Nat)
    (entityOpt : Option Entity) (s : State σ) :
    self.callProc.alone (n + 1) ⟨call, n, entityOpt⟩ s =
      let r := self.retry.process
        (self.connectionManager.attempt (PostgresConnectionManager.notNull (self.callOp call))) n
        { s with world := { s.world with entityOpt } }
      some (callResult call (forwardErrors r.1) r.2.world.entityOpt, r.2) := by
  induction n generalizing s entityOpt with
  | zero => simp [Proc.alone, callProc, callAttempt, RetryHook.process]
  | succ n ih =>
    -- One attempt, and the induction hypothesis for those that follow
    unfold Proc.alone RetryHook.process
    -- A retry is the next section of the call, otherwise its outcome is that of the hook
    by_cases hretry : self.retry.retries (self.callAttempt call entityOpt s).1 = true
    · have hexec : self.callProc.exec ⟨call, n + 1, entityOpt⟩ s =
          (.inl ⟨call, n, (self.callAttempt call entityOpt s).2.world.entityOpt⟩,
            (self.callAttempt call entityOpt s).2) := by
        simp [callProc, hretry]
      simp only [hexec]
      rw [ih]
      unfold callAttempt at hretry ⊢
      simp only [hretry, if_true]
    · have hexec : self.callProc.exec ⟨call, n + 1, entityOpt⟩ s =
          (.inr (callResult call (forwardErrors (self.callAttempt call entityOpt s).1)
            (self.callAttempt call entityOpt s).2.world.entityOpt),
            (self.callAttempt call entityOpt s).2) := by
        simp [callProc, hretry]
      simp only [hexec]
      unfold callAttempt at hretry ⊢
      simp only [hretry]
      rfl

/-- The attempts of a call that is not interrupted are `Store` or `Retrieve`. -/
theorem callProc_alone (self : PostgresRepo σ) (call : RepoCall) (s : State σ) :
    self.callProc.alone (self.retry.maxRetryCount + 1) (self.callProc.start call) s =
      some (self.callAlone call s) := by
  rw [show self.callProc.start call = ⟨call, self.retry.maxRetryCount, none⟩ from rfl,
    callProc_alone_left]
  cases call with
  | store entity => rfl
  | retrieve id =>
    -- The entity is read off the variable of the last attempt
    unfold callAlone retrieve PostgresConnectionManager.withConnection
      PostgresConnectionManager.withConnectionOrNull
    dsimp only [callOp, connectionManager]
    generalize self.retry.process _ self.retry.maxRetryCount _ = r
    cases hr : forwardErrors r.1 <;> rfl

/-! ## What an attempt leaves -/

variable {self : PostgresRepo σ} {table transaction : σ → List EntityRow}

/-- A transaction that failed has not taken effect. -/
def FailsCleanly (self : PostgresRepo σ) (table : σ → List EntityRow) : Prop :=
  ∀ c s e, (self.pqxx.commit c s).1 = .error e → table (self.pqxx.commit c s).2 = table s

/-- One transaction of `Store` that failed leaves the table alone. -/
theorem storeOp_failed (h : self.pqxx.IsServer table transaction) (hclean : self.FailsCleanly table)
    (entity : Entity) (c : ConnectionId) (w : World σ) {e : Exn}
    (he : (self.storeOp entity c w).1 = .error e) :
    table (self.storeOp entity c w).2.server = table w.server := by
  unfold storeOp onServer at he ⊢
  dsimp only at he ⊢
  -- Beginning the transaction or the statement may fail; neither touches the table
  have hwork := h.work_table c w.server
  obtain ⟨_, -, heq⟩ | ⟨-, heq⟩ := andThen_cases (self.pqxx.work c)
    (andThen (self.pqxx.execStoreEntity c entity.id entity.stringProperty entity.intProperty)
      (self.pqxx.commit c)) w.server <;> rw [heq] at he ⊢
  · exact hwork
  generalize (self.pqxx.work c w.server).2 = s at hwork he ⊢
  have hstore := h.store_table c entity.id entity.stringProperty entity.intProperty s
  obtain ⟨_, -, heq'⟩ | ⟨-, heq'⟩ := andThen_cases
    (self.pqxx.execStoreEntity c entity.id entity.stringProperty entity.intProperty)
    (self.pqxx.commit c) s <;> rw [heq'] at he ⊢
  · exact hstore.trans hwork
  -- Only the commit is left that can have failed
  exact (hclean c _ e he).trans (hstore.trans hwork)

/-- One transaction of `Store` after others of the same call. -/
theorem storeOp_keeps (h : self.pqxx.IsServer table transaction) (entity : Entity)
    {t : List EntityRow} (c : ConnectionId) (w : World σ)
    (hw : table w.server = t ∨ table w.server = storeEntityRow (rowOf entity) t) :
    table (self.storeOp entity c w).2.server = t ∨
      table (self.storeOp entity c w).2.server = storeEntityRow (rowOf entity) t := by
  obtain hsame | hdone := (storeOp_spec h entity c w).1
  · rw [hsame]
    exact hw
  · rw [hdone]
    -- Storing the row once more makes no difference
    obtain hold | hnew := hw
    · exact .inr (by rw [hold]; rfl)
    · exact .inr (by rw [hnew]; exact storeEntityRow_again _ _)

/-- One attempt of `Store`: it leaves the table or stores its row, and does the latter if it
    succeeds. -/
theorem callAttempt_store (h : self.pqxx.IsServer table transaction) (entity : Entity)
    (entityOpt : Option Entity) (s : State σ) :
    (table (self.callAttempt (.store entity) entityOpt s).2.world.server = table s.world.server ∨
      table (self.callAttempt (.store entity) entityOpt s).2.world.server =
        storeEntityRow (rowOf entity) (table s.world.server)) ∧
    (forwardErrors (self.callAttempt (.store entity) entityOpt s).1 = .ok () →
      table (self.callAttempt (.store entity) entityOpt s).2.world.server =
        storeEntityRow (rowOf entity) (table s.world.server)) := by
  obtain ⟨hkeeps, hok⟩ := PostgresConnectionManager.attempt_spec
    (factoryKeeps h fun t _ => t = table s.world.server ∨
      t = storeEntityRow (rowOf entity) (table s.world.server))
    (PostgresConnectionManager.notNull_keeps (storeOp_keeps h entity))
    (s := { s with world := { s.world with entityOpt } }) (.inl rfl)
  refine ⟨hkeeps, fun hres => ?_⟩
  -- An attempt that succeeds has run the transaction
  obtain ⟨c, w, hw, hc⟩ := hok hres
  cases c with
  | none => cases hc
  | some c =>
    have hdone := (storeOp_spec h entity c w).2 (congrArg Prod.fst hc)
    have hworld : (self.storeOp entity c w).2 =
        (self.callAttempt (.store entity) entityOpt s).2.world :=
      congrArg Prod.snd hc
    rw [← hworld, hdone]
    obtain hold | hnew := hw
    · rw [hold]
      rfl
    · rw [hnew]
      exact storeEntityRow_again _ _

/-- An attempt of `Store` that does not succeed leaves the table alone, if transactions fail
    cleanly. -/
theorem callAttempt_store_failed (h : self.pqxx.IsServer table transaction)
    (hclean : self.FailsCleanly table) (entity : Entity) (entityOpt : Option Entity) (s : State σ)
    (hfailed : forwardErrors (self.callAttempt (.store entity) entityOpt s).1 ≠ .ok ()) :
    table (self.callAttempt (.store entity) entityOpt s).2.world.server = table s.world.server := by
  refine PostgresConnectionManager.attempt_failed
    (factoryKeeps h fun t _ => t = table s.world.server) ?_
    (s := { s with world := { s.world with entityOpt } }) rfl hfailed
  intro c w e hw he
  cases c with
  | none => exact hw
  | some c => exact (storeOp_failed h hclean entity c w he).trans hw

/-- One attempt of `Retrieve`: it leaves the table alone, and assigns the entity of the rows with
    the id if it succeeds; otherwise it leaves the variable as it was. -/
theorem callAttempt_retrieve (h : self.pqxx.IsServer table transaction) (id : String)
    (s : State σ) :
    table (self.callAttempt (.retrieve id) none s).2.world.server = table s.world.server ∧
    (forwardErrors (self.callAttempt (.retrieve id) none s).1 = .ok () →
      (self.callAttempt (.retrieve id) none s).2.world.entityOpt =
        entityOfResult (selectEntityRows id (table s.world.server))) ∧
    (forwardErrors (self.callAttempt (.retrieve id) none s).1 ≠ .ok () →
      (self.callAttempt (.retrieve id) none s).2.world.entityOpt = none) := by
  have hfactory := factoryKeeps h fun t v => t = table s.world.server ∧ (v = none ∨
    v = entityOfResult (selectEntityRows id (table s.world.server)))
  -- The variable is empty, or has what the rows with the id say
  have hop : ∀ c (w : World σ), (table w.server = table s.world.server ∧ (w.entityOpt = none ∨
      w.entityOpt = entityOfResult (selectEntityRows id (table s.world.server)))) →
      table (self.retrieveOp id c w).2.server = table s.world.server ∧
        ((self.retrieveOp id c w).2.entityOpt = none ∨ (self.retrieveOp id c w).2.entityOpt =
          entityOfResult (selectEntityRows id (table s.world.server))) := by
    intro c w ⟨htable, hvar⟩
    obtain ⟨hsame, ⟨-, hassigned⟩ | ⟨-, hkept⟩⟩ := retrieveOp_spec h id c w
    · rw [hassigned, htable]
      exact ⟨hsame.trans htable, .inr (or_eq_left hvar)⟩
    · rw [hkept]
      exact ⟨hsame.trans htable, hvar⟩
  obtain ⟨⟨htable, -⟩, hok⟩ := PostgresConnectionManager.attempt_spec hfactory
    (PostgresConnectionManager.notNull_keeps hop)
    (s := { s with world := { s.world with entityOpt := none } }) ⟨rfl, .inl rfl⟩
  refine ⟨htable, fun hres => ?_, fun hfailed => ?_⟩
  · obtain ⟨c, w, ⟨htable', hvar⟩, hc⟩ := hok hres
    cases c with
    | none => cases hc
    | some c =>
      have hworld : (self.retrieveOp id c w).2 = (self.callAttempt (.retrieve id) none s).2.world :=
        congrArg Prod.snd hc
      have hres : (self.retrieveOp id c w).1 = .ok () := congrArg Prod.fst hc
      rw [← hworld]
      obtain ⟨-, ⟨-, hassigned⟩ | ⟨⟨e, herror⟩, -⟩⟩ := retrieveOp_spec h id c w
      · rw [hassigned, htable', or_eq_left hvar]
      · rw [hres] at herror
        cases herror
  · -- An operation that throws assigns nothing
    refine PostgresConnectionManager.attempt_failed (I := fun w : World σ => w.entityOpt = none)
      (factoryKeeps h fun _ v => v = none) ?_
      (s := { s with world := { s.world with entityOpt := none } }) rfl hfailed
    intro c w e hw he
    cases c with
    | none => exact hw
    | some c =>
      obtain ⟨-, ⟨hres, -⟩ | ⟨-, hkept⟩⟩ := retrieveOp_spec h id c w
      · rw [show (self.retrieveOp id c w).1 = .error e from he] at hres
        cases hres
      · exact hkept.trans hw

/-! ## Calls of a map -/

/-- The entity that a table holds under an id, as it is sent. -/
def held (rows : List EntityRow) (id : String) : Option Entity :=
  entityOfResult (withKey EntityRow.id id rows)

/-- What the callers see of the state of a repo. -/
def contentsOf (table : σ → List EntityRow) (s : State σ) : String → Option Entity :=
  held (table s.world.server)

/-- The calls of a map that may fail: one that throws has no effect. Texts end at their first
    NUL, as they are sent. -/
def MapCall (call : RepoCall) (m : String → Option Entity) (result : CallResult)
    (m' : String → Option Entity) : Prop :=
  match call, result with
  | .store entity, .stored (.ok ()) =>
    m' = Function.update m entity.asSent.id (some entity.asSent)
  | .retrieve id, .retrieved (.ok found) => found = m (cStr id) ∧ m' = m
  | .store _, .stored (.error _) => m' = m
  | .retrieve _, .retrieved (.error _) => m' = m
  | _, _ => False

/-- The entity of a row that is stored, under its id; those under other ids stay. -/
theorem held_storeEntityRow {rows : List EntityRow} (hunique : KeysUnique EntityRow.id rows)
    (entity : Entity) :
    held (storeEntityRow (rowOf entity) rows) =
      Function.update (held rows) entity.asSent.id (some entity.asSent) := by
  have hset := storeEntityRow_sets hunique entity.asSent
  funext id
  unfold held
  -- The row with the id is the new one, and no other one has changed
  by_cases hid : id = entity.asSent.id
  · subst hid
    rw [Function.update_self, show rowOf entity = entity.asSent.row from rfl, hset.row]
    rfl
  · rw [Function.update_of_ne hid, show rowOf entity = entity.asSent.row from rfl,
      hset.others id hid]

/-- The locations of a call: `entity_opt` is empty before each attempt of a `Retrieve`. -/
def At (call : RepoCall) (l : CallLoc) : Prop :=
  l.call = call ∧ ∀ id, call = .retrieve id → l.entityOpt = none

/-- A section is an attempt. -/
theorem callProc_exec_snd (l : CallLoc) (s : State σ) :
    (self.callProc.exec l s).2 = (self.callAttempt l.call l.entityOpt s).2 := by
  unfold callProc
  dsimp only
  split <;> rfl

/-- A call goes on after an attempt that has not succeeded. -/
theorem callProc_goesOn {l l' : CallLoc} {s : State σ} (hx : (self.callProc.exec l s).1 = .inl l') :
    l'.call = l.call ∧
      l'.entityOpt = (self.callAttempt l.call l.entityOpt s).2.world.entityOpt ∧
      forwardErrors (self.callAttempt l.call l.entityOpt s).1 ≠ .ok () := by
  unfold callProc at hx
  dsimp only at hx
  split at hx
  · rename_i hretry
    cases hx
    exact ⟨rfl, rfl, RetryHook.forwardErrors_of_retries hretry.1⟩
  · cases hx

/-- It ends with the result of its last attempt. -/
theorem callProc_ends {l : CallLoc} {s : State σ} {r : CallResult}
    (hx : (self.callProc.exec l s).1 = .inr r) :
    r = callResult l.call (forwardErrors (self.callAttempt l.call l.entityOpt s).1)
      (self.callAttempt l.call l.entityOpt s).2.world.entityOpt := by
  unfold callProc at hx
  dsimp only at hx
  split at hx
  · cases hx
  · exact (Sum.inr.inj hx).symm

/-- The variable of a `Retrieve` stays empty until its last attempt. -/
theorem callProc_stays (h : self.pqxx.IsServer table transaction) (call : RepoCall) (l : CallLoc)
    (s : State σ) (l' : CallLoc) (hl : At call l) (hx : (self.callProc.exec l s).1 = .inl l') :
    At call l' := by
  obtain ⟨hcall, hvar⟩ := hl
  obtain ⟨hcall', hvar', hfailed⟩ := callProc_goesOn hx
  refine ⟨hcall'.trans hcall, fun id hid => ?_⟩
  rw [hcall, hid, hvar id hid] at hvar' hfailed
  -- The attempt has not succeeded, so it has left the variable empty
  exact hvar'.trans ((callAttempt_retrieve h id s).2.2 hfailed)

/-- An attempt keeps ids unique. -/
theorem callProc_unique (h : self.pqxx.IsServer table transaction) (call : RepoCall) (l : CallLoc)
    (s : State σ) (hl : At call l) (hunique : KeysUnique EntityRow.id (table s.world.server)) :
    KeysUnique EntityRow.id (table (self.callProc.exec l s).2.world.server) := by
  obtain ⟨rfl, hvar⟩ := hl
  rw [callProc_exec_snd]
  cases hc : l.call with
  | store entity =>
    obtain hsame | hdone := (callAttempt_store h entity l.entityOpt s).1
    · rw [hsame]
      exact hunique
    · rw [hdone]
      exact hunique.upsert onConflict_id (rowOf entity)
  | retrieve id =>
    rw [hvar id hc, (callAttempt_retrieve h id s).1]
    exact hunique

/-- Where transactions fail cleanly, the sections of a call are those of a call of a map. -/
theorem callProc_refines (h : self.pqxx.IsServer table transaction)
    (hclean : self.FailsCleanly table) :
    Refines self.callProc (fun s => KeysUnique EntityRow.id (table s.world.server))
      (contentsOf table) MapCall At where
  start call := ⟨rfl, fun _ _ => rfl⟩
  stays := callProc_stays h
  inv := callProc_unique h
  goesOn call l s l' hl _ hx := by
    obtain ⟨rfl, hvar⟩ := hl
    -- It goes on only after an attempt that has failed, which leaves the map
    obtain ⟨-, -, hfailed⟩ := callProc_goesOn hx
    unfold contentsOf
    rw [callProc_exec_snd]
    cases hc : l.call with
    | store entity =>
      rw [hc] at hfailed
      rw [callAttempt_store_failed h hclean entity l.entityOpt s hfailed]
    | retrieve id => rw [hvar id hc, (callAttempt_retrieve h id s).1]
  ends call l s r hl hunique hx := by
    obtain ⟨rfl, hvar⟩ := hl
    rw [callProc_ends hx]
    unfold contentsOf
    rw [callProc_exec_snd]
    cases hc : l.call with
    | store entity =>
      cases hres : forwardErrors (self.callAttempt (.store entity) l.entityOpt s).1 with
      | error e =>
        have hfailed : forwardErrors (self.callAttempt (.store entity) l.entityOpt s).1 ≠
            .ok () := by
          rw [hres]
          nofun
        exact congrArg held (callAttempt_store_failed h hclean entity l.entityOpt s hfailed)
      | ok u =>
        -- The attempt that ends the call is the moment at which it takes effect
        have hdone := (callAttempt_store h entity l.entityOpt s).2 hres
        exact (congrArg held hdone).trans (held_storeEntityRow hunique entity)
    | retrieve id =>
      rw [hvar id hc]
      obtain ⟨htable, hassigned, -⟩ := callAttempt_retrieve h id s
      cases hres : forwardErrors (self.callAttempt (.retrieve id) none s).1 with
      | error e => exact congrArg held htable
      | ok u => exact ⟨hassigned hres, congrArg held htable⟩

/-! ## The calls of a run -/

variable {ι : Type} [DecidableEq ι]

/-- **Concurrent calls are linearizable.** Where a transaction that failed has not taken effect,
    any number of threads that call `Store` and `Retrieve` at the same time see at every moment
    the calls of a map: the calls that have an outcome, in the order in which they got it, are
    calls of the map made one at a time with these outcomes, which lead to what the table holds;
    calls that do not overlap are in their order, and what happens later adds to the end only. The
    texts of the map end at their first NUL. -/
theorem calls_linearizable (self : PostgresRepo σ) (h : self.pqxx.IsServer table transaction)
    (hclean : self.FailsCleanly table) {call : ι → RepoCall} {s₀ : State σ}
    (hunique : KeysUnique EntityRow.id (table s₀.world.server)) {tr : List (Event ι)}
    {c : Config ι CallLoc (State σ) CallResult}
    (hrun : self.callProc.run call (.initial s₀) tr = some c) :
    Explains call (contentsOf table) MapCall (.initial s₀) tr c
      (self.callProc.history call (.initial s₀) tr) ∧
    ∀ tr', tr' <+: tr →
      self.callProc.history call (.initial s₀) tr' <+: self.callProc.history call (.initial s₀) tr :=
  ⟨(callProc_refines h hclean).explains hunique (fun _ => rfl) hrun,
    fun _ hpre => history_prefix hpre hrun⟩

/-! ## A store that is retried -/

/-- What a call writes under an id, as it is sent. -/
def writesUnder (id : String) : RepoCall → Option (Option Entity)
  | .store entity => if entity.asSent.id = id then some (some entity.asSent) else none
  | .retrieve _ => none

/-- A `Store` that returned normally. -/
def Stored (result : CallResult) : Prop :=
  result = .stored (.ok ())

/-- The table holds a register under each id, which the attempts of a `Store` write. -/
theorem callProc_register (h : self.pqxx.IsServer table transaction) (id : String) :
    Register self.callProc (fun s => contentsOf table s id) (writesUnder id) Stored
      (fun s => KeysUnique EntityRow.id (table s.world.server)) At where
  start call := ⟨rfl, fun _ _ => rfl⟩
  stays := callProc_stays h
  inv := callProc_unique h
  changes call l s hl hunique := by
    obtain ⟨rfl, hvar⟩ := hl
    unfold contentsOf
    rw [callProc_exec_snd]
    cases hc : l.call with
    | store entity =>
      -- Any attempt of a `Store` may write, whatever comes of it
      obtain hsame | hdone := (callAttempt_store h entity l.entityOpt s).1
      · exact .inl (by rw [hsame])
      · rw [hdone, held_storeEntityRow hunique]
        by_cases hid : entity.asSent.id = id
        · subst hid
          exact .inr (by rw [Function.update_self]; exact if_pos rfl)
        · exact .inl (Function.update_of_ne (Ne.symm hid) _ _)
    | retrieve id' => exact .inl (by rw [hvar id' hc, (callAttempt_retrieve h id' s).1])
  written call l s r v hl hunique hx hstored hv := by
    obtain ⟨rfl, -⟩ := hl
    have hr := callProc_ends hx
    unfold contentsOf
    rw [callProc_exec_snd]
    cases hc : l.call with
    | store entity =>
      rw [hc] at hr hv
      rw [hstored] at hr
      -- It returned normally, so its last attempt has written
      have hdone := (callAttempt_store h entity l.entityOpt s).2 (CallResult.stored.inj hr).symm
      rw [hdone, held_storeEntityRow hunique]
      dsimp only [writesUnder] at hv
      split at hv
      · rename_i hid
        rw [← hid, Function.update_self]
        exact Option.some.inj hv
      · cases hv
    | retrieve id' =>
      rw [hc] at hv
      cases hv

/-- **Concurrent calls are regular.** Whether or not a transaction that failed has taken effect:
    at every moment the table holds under an id what it held before, if no `Store` of this id
    has returned, or the entity of a `Store` after whose return no `Store` of this id was made
    that has returned. A `Retrieve` returns what was held before, if no `Store` of its id
    returned before it was made, or the entity of a `Store` that was not made after it returned,
    and after whose return no `Store` was made that returned before the `Retrieve` was made. All
    texts end at their first NUL here, as they are sent. -/
theorem retrieve_regular (self : PostgresRepo σ) (h : self.pqxx.IsServer table transaction)
    {call : ι → RepoCall} {s₀ : State σ}
    (hunique : KeysUnique EntityRow.id (table s₀.world.server)) {tr : List (Event ι)}
    {c : Config ι CallLoc (State σ) CallResult}
    (hrun : self.callProc.run call (.initial s₀) tr = some c) :
    (∀ id, IsRecent call (writesUnder id) tr (contentsOf table s₀ id)
      (contentsOf table c.shared id) (fun i => .call i ∈ tr)
      (Wrote call (writesUnder id) Stored c)) ∧
    ∀ k id found, call k = .retrieve id →
      (c.phase k).outcome? = some (.retrieved (.ok found)) →
      IsRecent call (writesUnder (cStr id)) tr (contentsOf table s₀ (cStr id)) found
        (fun i => .call i ∈ tr ∧ ¬[.ret k, .call i] <+ tr)
        (fun j => Wrote call (writesUnder (cStr id)) Stored c j ∧ [.ret j, .call k] <+ tr) := by
  constructor
  · intro id
    exact (callProc_register h id).holds (fun _ => rfl) hunique hrun
  · intro k id found hcall hout
    obtain ⟨l, s, ⟨hlcall, hvar⟩, -, hx, hrecent⟩ :=
      (callProc_register h (cStr id)).reads (fun _ => rfl) hunique hrun k _ hout
    -- The last attempt of the call has read what was held
    rw [hcall] at hlcall hvar
    have hr := callProc_ends hx
    rw [hlcall, hvar id rfl] at hr
    obtain ⟨-, hassigned, -⟩ := callAttempt_retrieve h id s
    cases hres : forwardErrors (self.callAttempt (.retrieve id) none s).1 with
    | error e =>
      rw [hres] at hr
      cases hr
    | ok u =>
      rw [hres, hassigned hres] at hr
      cases hr
      exact hrecent

/-! ## Two stores of one id -/

/-- The calls of two threads that store, and of one that retrieves three times. -/
inductive TestCall where
  | storeOld
  | storeNew
  | first
  | second
  | third
deriving DecidableEq

/-- Their arguments. -/
def testCall : TestCall → RepoCall
  | .storeOld => .store ⟨"id", "old", 1⟩
  | .storeNew => .store ⟨"id", "new", 2⟩
  | _ => .retrieve "id"

/-- One call without interruption. -/
def alone (i : TestCall) : List (Event TestCall) :=
  [.call i, .exec i, .ret i]

/-- The first attempt of the first `Store` breaks, and the second one is made after the other
    `Store` has returned. -/
def rewriting : List (Event TestCall) :=
  [.call .storeOld, .exec .storeOld] ++ alone .first ++ alone .storeNew ++ alone .second ++
    [.exec .storeOld, .ret .storeOld] ++ alone .third

/-- If the attempt that broke has taken effect, the lookups return the old entity, the new one
    and the old one again. -/
theorem retrieve_regular_test :
    ∃ c, faultyRepo.callProc.run testCall (.initial (faultyState [.after])) rewriting = some c ∧
      (c.phase .first).outcome? = some (.retrieved (.ok (some ⟨"id", "old", 1⟩))) ∧
      (c.phase .second).outcome? = some (.retrieved (.ok (some ⟨"id", "new", 2⟩))) ∧
      (c.phase .third).outcome? = some (.retrieved (.ok (some ⟨"id", "old", 1⟩))) ∧
      IsRecent testCall (writesUnder "id") rewriting none (some ⟨"id", "old", 1⟩)
        (fun i => .call i ∈ rewriting ∧ ¬[.ret .third, .call i] <+ rewriting)
        (fun j => Wrote testCall (writesUnder "id") Stored c j ∧ [.ret j, .call .third] <+ rewriting) := by
  have hunique : KeysUnique EntityRow.id (faultyState [.after]).world.server.rows :=
    fun _ => Nat.zero_le 1
  refine ⟨_, rfl, rfl, rfl, rfl, ?_⟩
  have hregular := @retrieve_regular _ _ _ TestCall _ faultyRepo faultyClient_isServer testCall _
    hunique rewriting _ rfl
  exact hregular.2 .third "id" (some ⟨"id", "old", 1⟩) rfl rfl

/-- The client of a server whose commits do not take effect if they fail. -/
def cleanClient : PqxxClient FaultyServer :=
  { faultyClient with
    commit := fun _ s =>
      match s.faults with
      | [] => (.ok (), { s with rows := s.pending })
      | _ :: faults => (.error (.brokenConnection "server closed the connection"), { s with faults }) }

/-- Its tables are those of a server. -/
theorem cleanClient_isServer : cleanClient.IsServer FaultyServer.rows FaultyServer.pending :=
  { faultyClient_isServer with
    commit_ok := by
      intro c s h
      simp only [cleanClient] at h ⊢
      split at h
      · rfl
      · cases h
    commit_any := by
      intro c s
      simp only [cleanClient]
      split
      · exact .inr rfl
      · exact .inl rfl }

/-- A repo at that server. -/
def cleanRepo : PostgresRepo FaultyServer :=
  { faultyRepo with pqxx := cleanClient }

/-- If it has not, they return nothing, the new entity and the old one: the first `Store` takes
    effect when it is retried. -/
theorem calls_linearizable_test :
    ∃ c, cleanRepo.callProc.run testCall (.initial (faultyState [.before])) rewriting = some c ∧
      cleanRepo.callProc.history testCall (.initial (faultyState [.before])) rewriting =
        [(.first, .retrieved (.ok none)), (.storeNew, .stored (.ok ())),
          (.second, .retrieved (.ok (some ⟨"id", "new", 2⟩))), (.storeOld, .stored (.ok ())),
          (.third, .retrieved (.ok (some ⟨"id", "old", 1⟩)))] ∧
      Explains testCall (contentsOf FaultyServer.rows) MapCall (.initial (faultyState [.before]))
        rewriting c (cleanRepo.callProc.history testCall (.initial (faultyState [.before])) rewriting) := by
  have hunique : KeysUnique EntityRow.id (faultyState [.before]).world.server.rows :=
    fun _ => Nat.zero_le 1
  have hclean : cleanRepo.FailsCleanly FaultyServer.rows := by
    intro c s e he
    simp only [cleanRepo, cleanClient] at he ⊢
    split at he
    · cases he
    · rfl
  refine ⟨_, rfl, rfl, ?_⟩
  exact (calls_linearizable cleanRepo cleanClient_isServer hclean hunique rfl).1

end PostgresRepo

end SapperBricks
