import SapperBricks.Spec.Backends
import SapperBricks.Spec.ConnectionManager

/-!
# Retries of `PostgresRepo::Store`

An attempt of `Store` whose connection breaks may or may not have committed its transaction,
and is followed by another one. Whatever the attempts do, the table has the row of the entity
once or is as it was, and a `Retrieve` finds what was stored. Texts are sent as C strings, so
the entity that is stored ends at the first NUL of each of its texts.

## Key results

- `storeEntityRow_sets`: what the statement makes of a table with a primary key
- `store_retries`: a `Store` with all its attempts, and a `Retrieve` after it
-/

namespace SapperBricks

open Keyed

/-- The entity whose texts are those of another one up to their first NUL. -/
def Entity.asSent (entity : Entity) : Entity :=
  ⟨cStr entity.id, cStr entity.stringProperty, entity.intProperty⟩

/-- An entity without NUL is sent as it is. -/
theorem Entity.asSent_eq_self {entity : Entity} (hid : '\x00' ∉ entity.id.toList)
    (hstring : '\x00' ∉ entity.stringProperty.toList) : entity.asSent = entity := by
  unfold asSent
  rw [cStr_eq_self hid, cStr_eq_self hstring]

/-- A table in which the row of an entity was set: under its id there is just this row, and
    under every other id the rows that were there. -/
structure RowSet (entity : Entity) (before after : List EntityRow) : Prop where
  row : withKey EntityRow.id entity.id after = [entity.row]
  others : ∀ id, id ≠ entity.id → withKey EntityRow.id id after = withKey EntityRow.id id before

/-- `store_entity` sets the row, in a table with at most one row under each id. -/
theorem storeEntityRow_sets {rows : List EntityRow} (hunique : KeysUnique EntityRow.id rows)
    (entity : Entity) : RowSet entity rows (storeEntityRow entity.row rows) := by
  constructor
  · -- On a conflict the new row replaces the old one, which has the same id
    have hmerge : ∀ old : EntityRow, old.id = entity.row.id → onConflict old entity.row = entity.row := by
      intro old hid
      unfold onConflict
      rw [hid]
    exact withKey_upsert_self onConflict_id hunique hmerge
  · intro id hne
    have hid : ¬entity.row.id = id := Ne.symm hne
    rw [withKey_storeEntityRow, if_neg hid]

namespace PostgresRepo

variable {σ : Type} {table transaction : σ → List EntityRow}

/-- What is found of an entity whose row was set. -/
theorem entityOfResult_rowSet {entity : Entity} {before after : List EntityRow}
    (h : RowSet entity.asSent before after) :
    entityOfResult (selectEntityRows entity.id after) = some entity.asSent := by
  have hrows : selectEntityRows entity.id after = [entity.asSent.row] := h.row
  rw [hrows]
  rfl

/-- **Stores that are retried.** Whatever each attempt does, before or after its transaction
    took effect: a `Store` that returns has set the row of its entity, one that throws has or
    has left the table as it was, and ids stay unique; a `Retrieve` that returns after a
    successful `Store` returns the entity. The entity is the one with its texts up to their
    first NUL. -/
theorem store_retries (self : PostgresRepo σ) (h : self.pqxx.IsServer table transaction)
    (entity : Entity) (s : State σ) (hunique : KeysUnique EntityRow.id (table s.world.server)) :
    ((self.store entity s).1 = .ok () →
      RowSet entity.asSent (table s.world.server) (table (self.store entity s).2.world.server)) ∧
    (table (self.store entity s).2.world.server = table s.world.server ∨
      RowSet entity.asSent (table s.world.server) (table (self.store entity s).2.world.server)) ∧
    KeysUnique EntityRow.id (table (self.store entity s).2.world.server) ∧
    ((self.store entity s).1 = .ok () →
      ∀ found, (self.retrieve entity.id (self.store entity s).2).1 = .ok found →
        found = some entity.asSent) ∧
    ('\x00' ∉ entity.id.toList → '\x00' ∉ entity.stringProperty.toList →
      entity.asSent = entity) := by
  obtain ⟨hany, hok⟩ := store_spec h entity s
  have hset : RowSet entity.asSent (table s.world.server)
      (storeEntityRow (rowOf entity) (table s.world.server)) :=
    storeEntityRow_sets hunique entity.asSent
  have hstored : (self.store entity s).1 = .ok () → RowSet entity.asSent (table s.world.server)
      (table (self.store entity s).2.world.server) := by
    intro hres
    rw [hok hres]
    exact hset
  refine ⟨hstored, ?_, ?_, ?_, Entity.asSent_eq_self⟩
  · -- A `Store` that throws has set the row as well if its commit took effect
    obtain hsame | hdone := hany
    · exact .inl hsame
    · rw [hdone]
      exact .inr hset
  · obtain hsame | hdone := hany
    · rw [hsame]
      exact hunique
    · rw [hdone]
      -- One row per id, since the row under the id is the one that is replaced
      exact hunique.upsert onConflict_id (rowOf entity)
  · intro hres found hfound
    -- The retries of the lookup all read the table that `Store` left
    obtain ⟨-, ⟨e, herror⟩ | ⟨hread, -⟩⟩ :=
      retrieve_spec h entity.id (self.store entity s).2
    · rw [hfound] at herror
      cases herror
    · rw [hfound, Except.ok.injEq, entityOfResult_rowSet (hstored hres)] at hread
      exact hread

/-! ## A server whose commits fail -/

/-- How a commit fails: before or after it took effect. -/
inductive CommitFault where
  | before
  | after
deriving DecidableEq, Repr

/-- A server with its table, the table of the open transaction, and the faults of the next
    commits. -/
structure FaultyServer where
  rows : List EntityRow
  pending : List EntityRow
  faults : List CommitFault
deriving DecidableEq, Repr

/-- A commit, which breaks the connection if it fails. -/
def FaultyServer.commit (s : FaultyServer) : Except Exn Unit × FaultyServer :=
  match s.faults with
  | [] => (.ok (), { s with rows := s.pending })
  | .before :: faults => (.error (.brokenConnection "server closed the connection"), { s with faults })
  | .after :: faults =>
    (.error (.brokenConnection "server closed the connection"),
      { s with rows := s.pending, faults })

/-- Its client. -/
def faultyClient : PqxxClient FaultyServer where
  connect _ s := (.ok (), s)
  prepare _ _ s := (.ok (), s)
  work _ s := (.ok (), { s with pending := s.rows })
  execStoreEntity _ id string int s :=
    (.ok (), { s with pending := storeEntityRow (storedRow id string int) s.pending })
  execRetrieveEntity _ id s := (.ok (selectEntityRows id s.pending), s)
  commit _ s := s.commit

/-- Its tables are those of a server. -/
theorem faultyClient_isServer :
    faultyClient.IsServer FaultyServer.rows FaultyServer.pending where
  connect_table _ _ := rfl
  prepare_table _ _ _ := rfl
  work_table _ _ := rfl
  work_ok _ _ _ := rfl
  store_table _ _ _ _ _ := rfl
  store_ok _ _ _ _ _ _ := rfl
  retrieve_table _ _ _ := rfl
  retrieve_ok _ _ _ _ h := (Except.ok.inj h).symm
  commit_ok c s h := by
    simp only [faultyClient, FaultyServer.commit] at h ⊢
    split at h
    · rfl
    · cases h
    · cases h
  commit_any c s := by
    simp only [faultyClient, FaultyServer.commit]
    split
    · exact .inr rfl
    · exact .inl rfl
    · exact .inr rfl

/-- A repo at that server that tries four times. -/
def faultyRepo : PostgresRepo FaultyServer where
  pqxx := faultyClient
  connectionString := "postgresql://localhost"
  retry := PostgresConnectionManager.testManager.retry
  exceptions := PostgresConnectionManager.testManager.exceptions

/-- The state of the repo over a table without rows, before some faults. -/
def faultyState (faults : List CommitFault) : State FaultyServer :=
  ⟨some 0, 1, ⟨⟨[], [], faults⟩, none⟩⟩

/-- Two attempts break, one of them after it committed, and the third stores the row again. -/
theorem store_retries_test :
    let s := faultyState [.before, .after]
    (faultyRepo.store exampleEntity s).1 = .ok () ∧
    RowSet exampleEntity [] (faultyRepo.store exampleEntity s).2.world.server.rows := by
  intro s
  have hok : (faultyRepo.store exampleEntity s).1 = .ok () := by decide
  apply And.intro hok
  -- There are no rows yet
  have hunique : KeysUnique EntityRow.id s.world.server.rows := fun _ => Nat.zero_le 1
  obtain ⟨hset, -, -, -, hself⟩ :=
    store_retries faultyRepo faultyClient_isServer exampleEntity s hunique
  have hsent : exampleEntity.asSent = exampleEntity := hself (by decide) (by decide)
  rw [← hsent]
  exact hset hok

/-- An entity whose id has a NUL. -/
def nulEntity : Entity := ⟨"a\x00b", "str", 42⟩

/-- Its `Store` returns, having set the row of another id, and a `Retrieve` of its id returns
    another entity. -/
theorem store_retries_nul :
    (faultyRepo.store nulEntity (faultyState [])).1 = .ok () ∧
    (faultyRepo.store nulEntity (faultyState [])).2.world.server.rows = [⟨"a", "str", 42⟩] ∧
    (faultyRepo.retrieve nulEntity.id (faultyRepo.store nulEntity (faultyState [])).2).1 =
      .ok (some ⟨"a", "str", 42⟩) := by
  refine ⟨?_, ?_, ?_⟩ <;> decide

end PostgresRepo

end SapperBricks
