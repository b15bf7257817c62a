import SapperBricks.ForStd.KeyedTable
import SapperBricks.Native.Repos
import SapperBricks.Native.StdString
import SapperBricks.Spec.WithConnection

/-!
# The stores behind the repos

What is relied on of the three client libraries: which contents a call leaves, and what an
answer says about them. Any call may fail, and a write that fails may have taken effect.
From this follows what the functions of the three repos leave and say.

## Key results

- `RedisRepo.retrieve_cases`, `CloudStorageRepo.retrieve_cases`: what the result of
  `Retrieve` says about the value held under the id
- `PostgresRepo.store_spec`, `PostgresRepo.retrieve_spec`: the same for tables, over all the
  attempts of a call
-/

namespace SapperBricks

open Keyed

/-- The texts a store holds. -/
abbrev TextMap := Std.ExtTreeMap String String

/-! ## Redis -/

/-- Redis holds texts under keys: `set` that returns true has put its value there, one that
    does not may have; a `get` that does not throw returns the value. -/
structure RedisClient.IsStore {σ : Type} (client : RedisClient σ) (values : σ → TextMap) :
    Prop where
  set_true : ∀ key value s, (client.set key value s).1 = .ok true →
    values (client.set key value s).2 = (values s).insert key value
  set_any : ∀ key value s, values (client.set key value s).2 = values s ∨
    values (client.set key value s).2 = (values s).insert key value
  get_values : ∀ key s, values (client.get key s).2 = values s
  get_ok : ∀ key s value, (client.get key s).1 = .ok value → value = (values s)[key]?

/-- No call fails. -/
structure RedisClient.NeverFails {σ : Type} (client : RedisClient σ) : Prop where
  set : ∀ key value s, (client.set key value s).1 = .ok true
  get : ∀ key s, ∃ value, (client.get key s).1 = .ok value

/-! ## Google Cloud Storage -/

/-- A bucket holds texts under names: a write whose metadata is there has put its text
    there, one that fails may have, a stream that is dropped may leave an empty object; a
    read that is not bad has the text, and one that is bad because there is no object says
    so. -/
structure CloudStorageClient.IsStore {σ : Type} (client : CloudStorageClient σ) (bucket : String)
    (objects : σ → TextMap) : Prop where
  create_objects : ∀ s, objects (client.createDefaultClient s).2 = objects s
  write_ok : ∀ name text s, (client.writeObject bucket name text s).1 = .ok () →
    objects (client.writeObject bucket name text s).2 = (objects s).insert name text
  write_any : ∀ name text s, objects (client.writeObject bucket name text s).2 = objects s ∨
    objects (client.writeObject bucket name text s).2 = (objects s).insert name text
  drop_any : ∀ name s, objects (client.dropWriteStream bucket name s) = objects s ∨
    objects (client.dropWriteStream bucket name s) = (objects s).insert name ""
  read_objects : ∀ name s, objects (client.readObject bucket name s).2 = objects s
  read_ok : ∀ name s text, (client.readObject bucket name s).1 = .ok text →
    (objects s)[name]? = some text
  read_notFound : ∀ name s status, (client.readObject bucket name s).1 = .error status →
    status.code = .notFound → (objects s)[name]? = none

/-- No call fails; a read is bad only where there is no object. -/
structure CloudStorageClient.NeverFails {σ : Type} (client : CloudStorageClient σ)
    (bucket : String) : Prop where
  create : ∀ s, (client.createDefaultClient s).1 = .ok ()
  write : ∀ name text s, (client.writeObject bucket name text s).1 = .ok ()
  read : ∀ name s status, (client.readObject bucket name s).1 = .error status →
    status.code = .notFound

/-! ## PostgreSQL -/

/-- The row of an entity. -/
def Entity.row (entity : Entity) : EntityRow :=
  ⟨entity.id, entity.stringProperty, entity.intProperty⟩

/-- The row that `store_entity` inserts; a text is sent as a C string. -/
def storedRow (id stringProperty : String) (intProperty : Int32) : EntityRow :=
  ⟨cStr id, cStr stringProperty, intProperty⟩

/-- `DO UPDATE SET string_property = EXCLUDED.string_property,
    int_property = EXCLUDED.int_property`. -/
def onConflict (row excluded : EntityRow) : EntityRow :=
  { row with stringProperty := excluded.stringProperty, intProperty := excluded.intProperty }

theorem onConflict_id (row excluded : EntityRow) : (onConflict row excluded).id = row.id := rfl

/-- The meaning of `store_entity` on a table. -/
def storeEntityRow (row : EntityRow) (table : List EntityRow) : List EntityRow :=
  upsert EntityRow.id onConflict row table

/-- The meaning of `retrieve_entity` on a table. -/
def selectEntityRows (id : String) (table : List EntityRow) : List EntityRow :=
  withKey EntityRow.id (cStr id) table

/-- The server holds a table, and for the open transaction the table as its statements have
    left it. Only a `commit` changes the table, to that of the transaction; one that fails
    may have. -/
structure PqxxClient.IsServer {σ : Type} (client : PqxxClient σ)
    (table transaction : σ → List EntityRow) : Prop where
  connect_table : ∀ connectionString s, table (client.connect connectionString s).2 = table s
  prepare_table : ∀ name statement s, table (client.prepare name statement s).2 = table s
  work_table : ∀ c s, table (client.work c s).2 = table s
  work_ok : ∀ c s, (client.work c s).1 = .ok () → transaction (client.work c s).2 = table s
  store_table : ∀ c id string int s, table (client.execStoreEntity c id string int s).2 = table s
  store_ok : ∀ c id string int s, (client.execStoreEntity c id string int s).1 = .ok () →
    transaction (client.execStoreEntity c id string int s).2 =
      storeEntityRow (storedRow id string int) (transaction s)
  retrieve_table : ∀ c id s, table (client.execRetrieveEntity c id s).2 = table s
  retrieve_ok : ∀ c id s rows, (client.execRetrieveEntity c id s).1 = .ok rows →
    rows = selectEntityRows id (transaction s)
  commit_ok : ∀ c s, (client.commit c s).1 = .ok () → table (client.commit c s).2 = transaction s
  commit_any : ∀ c s, table (client.commit c s).2 = table s ∨
    table (client.commit c s).2 = transaction s

/-- No call fails. -/
structure PqxxClient.NeverFails {σ : Type} (client : PqxxClient σ) : Prop where
  connect : ∀ connectionString s, (client.connect connectionString s).1 = .ok ()
  prepare : ∀ name statement s, (client.prepare name statement s).1 = .ok ()
  work : ∀ c s, (client.work c s).1 = .ok ()
  store : ∀ c id string int s, (client.execStoreEntity c id string int s).1 = .ok ()
  retrieve : ∀ c id s, ∃ rows, (client.execRetrieveEntity c id s).1 = .ok rows
  commit : ∀ c s, (client.commit c s).1 = .ok ()

/-- The rows with a key after `store_entity`. -/
theorem withKey_storeEntityRow (row : EntityRow) (id : String) (table : List EntityRow) :
    withKey EntityRow.id id (storeEntityRow row table) =
      if row.id = id then
        if withKey EntityRow.id id table = [] then [row]
        else (withKey EntityRow.id id table).map fun old => onConflict old row
      else withKey EntityRow.id id table :=
  withKey_upsert onConflict_id row id

/-! ## Sequences of statements -/

/-- Everything a statement followed by another can do. -/
theorem andThen_cases {σ α : Type} (first : σ → Except Exn Unit × σ)
    (second : σ → Except Exn α × σ) (s : σ) :
    (∃ e, (first s).1 = .error e ∧ andThen first second s = (.error e, (first s).2)) ∨
    ((first s).1 = .ok () ∧ andThen first second s = second (first s).2) := by
  unfold andThen
  cases h : first s with
  | mk r t =>
    cases r with
    | error e => exact .inl ⟨e, rfl, rfl⟩
    | ok u => exact .inr ⟨rfl, rfl⟩

/-- Statements one after the other return normally if each of them does. -/
theorem andThen_ok {σ α : Type} {first : σ → Except Exn Unit × σ} {second : σ → Except Exn α × σ}
    (hfirst : ∀ s, (first s).1 = .ok ()) {s : σ} :
    andThen first second s = second (first s).2 := by
  obtain ⟨e, herror, -⟩ | ⟨-, heq⟩ := andThen_cases first second s
  · rw [hfirst s] at herror
    exact nomatch herror
  · exact heq

/-! ## The Redis repo -/

namespace RedisRepo

variable {σ : Type} {self : RedisRepo σ} {values : σ → TextMap}

/-- What `Store` leaves: the values, or the values with a text under the id, and the latter
    if it returns normally. -/
theorem store_cases (h : self.connection.IsStore values) (entity : Entity) (s : σ) :
    ((∃ e, (self.store entity s).1 = .error e) ∧ values (self.store entity s).2 = values s) ∨
    ∃ text, self.json.dump (toJson entity) = .ok text ∧
      values (self.store entity s).2 = (values s).insert entity.id text := by
  unfold store
  cases hdump : self.json.dump (toJson entity) with
  | error what => exact .inl ⟨⟨_, rfl⟩, rfl⟩
  | ok text =>
    dsimp only
    have hany := h.set_any entity.id text s
    have htrue := h.set_true entity.id text s
    cases hset : self.connection.set entity.id text s with
    | mk r t =>
      rw [hset] at hany htrue
      cases r with
      | error e =>
        -- The call may have taken effect before it failed
        obtain hsame | hinsert := hany
        · exact .inl ⟨⟨_, rfl⟩, hsame⟩
        · exact .inr ⟨text, rfl, hinsert⟩
      | ok set =>
        cases set with
        | true => exact .inr ⟨text, rfl, htrue rfl⟩
        | false =>
          obtain hsame | hinsert := hany
          · exact .inl ⟨⟨_, rfl⟩, hsame⟩
          · exact .inr ⟨text, rfl, hinsert⟩

/-- What the result of `Retrieve` says: `get` threw and so did it, or it read the value. -/
theorem retrieve_cases (h : self.connection.IsStore values) (id : String) (s : σ) :
    (∃ e, (self.connection.get id s).1 = .error e ∧ (self.retrieve id s).1 = .error e) ∨
    ((self.connection.get id s).1 = .ok none ∧ (values s)[id]? = none ∧
      (self.retrieve id s).1 = .ok none) ∨
    ∃ text, (self.connection.get id s).1 = .ok (some text) ∧ (values s)[id]? = some text ∧
      (self.retrieve id s).1 = jsonExn ((self.json.parse text >>= self.fromJson).map some) := by
  unfold retrieve
  have hok := h.get_ok id s
  cases hget : self.connection.get id s with
  | mk r t =>
    rw [hget] at hok
    cases r with
    | error e => exact .inl ⟨e, rfl, rfl⟩
    | ok value =>
      have hvalue := hok value rfl
      -- What `get` returned is the value held under the id
      cases value with
      | none => exact .inr (.inl ⟨rfl, hvalue.symm, rfl⟩)
      | some text => exact .inr (.inr ⟨text, rfl, hvalue.symm, rfl⟩)

/-- `Retrieve` leaves the values alone. -/
theorem retrieve_values (h : self.connection.IsStore values) (id : String) (s : σ) :
    values (self.retrieve id s).2 = values s := by
  have hget := h.get_values id s
  unfold retrieve
  split <;> rename_i heq <;> rw [heq] at hget <;> exact hget

end RedisRepo

/-! ## The Cloud Storage repo -/

namespace CloudStorageRepo

variable {σ : Type} {self : CloudStorageRepo σ} {objects : σ → TextMap}

/-- What `Store` leaves: the objects, or the objects with a text under the id, and the text
    of the entity if it returns normally. -/
theorem store_cases (h : self.storage.IsStore self.bucket objects) (entity : Entity) (s : σ) :
    ((∃ e, (self.store entity s).1 = .error e) ∧
      (objects (self.store entity s).2 = objects s ∨
        ∃ text, objects (self.store entity s).2 = (objects s).insert entity.id text)) ∨
    ∃ text, self.json.dump (toJson entity) = .ok text ∧ (self.store entity s).1 = .ok () ∧
      objects (self.store entity s).2 = (objects s).insert entity.id text := by
  unfold store
  have hcreate := h.create_objects s
  cases hc : self.storage.createDefaultClient s with
  | mk r t =>
    rw [hc] at hcreate
    cases r with
    | error status => exact .inl ⟨⟨_, rfl⟩, .inl hcreate⟩
    | ok u =>
      dsimp only at hcreate ⊢
      cases hdump : self.json.dump (toJson entity) with
      | error what =>
        -- The stream is dropped, which may leave an empty object
        left
        apply And.intro ⟨_, rfl⟩
        rw [← hcreate]
        obtain hsame | hempty := h.drop_any entity.id t
        · exact .inl hsame
        · exact .inr ⟨"", hempty⟩
      | ok text =>
        dsimp only
        have hok := h.write_ok entity.id text t
        have hany := h.write_any entity.id text t
        rw [hcreate] at hok hany
        cases hw : self.storage.writeObject self.bucket entity.id text t with
        | mk r' t' =>
          rw [hw] at hok hany
          cases r' with
          | ok u => exact .inr ⟨text, rfl, rfl, hok rfl⟩
          | error status =>
            left
            apply And.intro ⟨_, rfl⟩
            obtain hsame | hinsert := hany
            · exact .inl hsame
            · exact .inr ⟨text, hinsert⟩

/-- What the result of `Retrieve` says: no client could be created and it threw, the stream
    was bad and it returned nothing, or it read the object. -/
theorem retrieve_cases (h : self.storage.IsStore self.bucket objects) (id : String) (s : σ) :
    (∃ status e, (self.storage.createDefaultClient s).1 = .error status ∧
      (self.retrieve id s).1 = .error e) ∨
    ((self.storage.createDefaultClient s).1 = .ok () ∧
      ((∃ status, (self.storage.readObject self.bucket id
          (self.storage.createDefaultClient s).2).1 = .error status ∧
        (self.retrieve id s).1 = .ok none ∧
        (status.code = .notFound → (objects s)[id]? = none)) ∨
      ∃ text, (self.storage.readObject self.bucket id
          (self.storage.createDefaultClient s).2).1 = .ok text ∧ (objects s)[id]? = some text ∧
        (self.retrieve id s).1 =
          jsonExn ((self.json.parse text >>= self.fromJson).map some))) := by
  unfold retrieve
  have hcreate := h.create_objects s
  cases hc : self.storage.createDefaultClient s with
  | mk r t =>
    rw [hc] at hcreate
    cases r with
    | error status => exact .inl ⟨status, _, rfl, rfl⟩
    | ok u =>
      dsimp only at hcreate ⊢
      have hok := h.read_ok id t
      have hnotFound := h.read_notFound id t
      rw [hcreate] at hok hnotFound
      cases hr : self.storage.readObject self.bucket id t with
      | mk r' t' =>
        rw [hr] at hok hnotFound
        cases r' with
        | error status => exact .inr ⟨rfl, .inl ⟨status, rfl, rfl, hnotFound status rfl⟩⟩
        | ok text => exact .inr ⟨rfl, .inr ⟨text, rfl, hok text rfl, rfl⟩⟩

/-- `Retrieve` leaves the objects alone. -/
theorem retrieve_objects (h : self.storage.IsStore self.bucket objects) (id : String) (s : σ) :
    objects (self.retrieve id s).2 = objects s := by
  have hcreate := h.create_objects s
  unfold retrieve
  cases hc : self.storage.createDefaultClient s with
  | mk r t =>
    rw [hc] at hcreate
    cases r with
    | error status => exact hcreate
    | ok u =>
      have hread := h.read_objects id t
      dsimp only
      split <;> rename_i heq <;> rw [heq] at hread <;> exact hread.trans hcreate

end CloudStorageRepo

/-! ## The PostgreSQL repo -/

namespace PostgresRepo

variable {σ : Type} {self : PostgresRepo σ} {table transaction : σ → List EntityRow}

/-- Creating a connection leaves the table and the variable alone. -/
theorem factoryKeeps (h : self.pqxx.IsServer table transaction)
    (J : List EntityRow → Option Entity → Prop) :
    self.connectionManager.FactoryKeeps fun w => J (table w.server) w.entityOpt := by
  intro connectionFactory hf w hw
  cases hf
  have htable : table (createPostgresConnection self.pqxx self.connectionString w.server).2 =
      table w.server := by
    unfold createPostgresConnection
    -- Connecting, and the two statements that are prepared
    obtain ⟨e, -, heq⟩ | ⟨-, heq⟩ := andThen_cases (self.pqxx.connect self.connectionString)
      (andThen (self.pqxx.prepare "store_entity" storeEntitySql)
        (self.pqxx.prepare "retrieve_entity" retrieveEntitySql)) w.server
    · rw [heq]
      exact h.connect_table _ _
    · rw [heq]
      obtain ⟨e, -, heq'⟩ | ⟨-, heq'⟩ :=
        andThen_cases (self.pqxx.prepare "store_entity" storeEntitySql)
          (self.pqxx.prepare "retrieve_entity" retrieveEntitySql)
          (self.pqxx.connect self.connectionString w.server).2
      · rw [heq', h.prepare_table, h.connect_table]
      · rw [heq', h.prepare_table, h.prepare_table, h.connect_table]
  show J (table (createPostgresConnection self.pqxx self.connectionString w.server).2) w.entityOpt
  rw [htable]
  exact hw

/-- One transaction of `Store`: it leaves the table or stores its row, and does the latter
    if it returns normally. -/
theorem storeOp_spec (h : self.pqxx.IsServer table transaction) (entity : Entity)
    (c : ConnectionId) (w : World σ) :
    (table (self.storeOp entity c w).2.server = table w.server ∨
      table (self.storeOp entity c w).2.server = storeEntityRow
        (storedRow entity.id entity.stringProperty entity.intProperty) (table w.server)) ∧
    ((self.storeOp entity c w).1 = .ok () → table (self.storeOp entity c w).2.server =
      storeEntityRow (storedRow entity.id entity.stringProperty entity.intProperty)
        (table w.server)) := by
  unfold storeOp onServer
  dsimp only
  have hwork := h.work_table c w.server
  have hworkOk := h.work_ok c w.server
  -- Beginning the transaction
  obtain ⟨e, -, heq⟩ | ⟨hok, heq⟩ := andThen_cases (self.pqxx.work c)
    (andThen (self.pqxx.execStoreEntity c entity.id entity.stringProperty entity.intProperty)
      (self.pqxx.commit c)) w.server
  · rw [heq]
    exact ⟨.inl hwork, nofun⟩
  rw [heq]
  have hpending := hworkOk hok
  generalize (self.pqxx.work c w.server).2 = s at hwork hpending ⊢
  have hstore := h.store_table c entity.id entity.stringProperty entity.intProperty s
  have hstoreOk := h.store_ok c entity.id entity.stringProperty entity.intProperty s
  -- The statement
  obtain ⟨e, -, heq'⟩ | ⟨hok', heq'⟩ := andThen_cases
    (self.pqxx.execStoreEntity c entity.id entity.stringProperty entity.intProperty)
    (self.pqxx.commit c) s
  · rw [heq']
    exact ⟨.inl (hstore.trans hwork), nofun⟩
  rw [heq']
  have hstored := hstoreOk hok'
  rw [hpending] at hstored
  generalize (self.pqxx.execStoreEntity c entity.id entity.stringProperty entity.intProperty s).2 =
    s' at hstore hstored ⊢
  -- The commit, which may have taken effect even if it fails
  constructor
  · obtain hsame | hdone := h.commit_any c s'
    · exact .inl (hsame.trans (hstore.trans hwork))
    · exact .inr (hdone.trans hstored)
  · intro hcommit
    exact (h.commit_ok c s' hcommit).trans hstored

/-- One transaction of `Retrieve`: it leaves the table alone, and if it returns normally it
    assigned the entity of the rows with the id, if there is one. -/
theorem retrieveOp_spec (h : self.pqxx.IsServer table transaction) (id : String)
    (c : ConnectionId) (w : World σ) :
    table (self.retrieveOp id c w).2.server = table w.server ∧
    ((self.retrieveOp id c w).1 = .ok () ∧ (self.retrieveOp id c w).2.entityOpt =
        (entityOfResult (selectEntityRows id (table w.server))).or w.entityOpt ∨
      (∃ e, (self.retrieveOp id c w).1 = .error e) ∧
        (self.retrieveOp id c w).2.entityOpt = w.entityOpt) := by
  have hwork := h.work_table c w.server
  have hworkOk := h.work_ok c w.server
  unfold retrieveOp onServer
  obtain ⟨e, -, heq⟩ | ⟨hok, heq⟩ := andThen_cases (self.pqxx.work c)
    (self.pqxx.execRetrieveEntity c id) w.server
  · rw [heq]
    exact ⟨hwork, .inr ⟨⟨e, rfl⟩, rfl⟩⟩
  rw [heq]
  have hpending := hworkOk hok
  generalize (self.pqxx.work c w.server).2 = s at hwork hpending ⊢
  have htable := h.retrieve_table c id s
  have hrows := h.retrieve_ok c id s
  cases hexec : self.pqxx.execRetrieveEntity c id s with
  | mk r t =>
    rw [hexec] at htable hrows
    cases r with
    | error e => exact ⟨htable.trans hwork, .inr ⟨⟨e, rfl⟩, rfl⟩⟩
    | ok rows =>
      -- The rows are those of the table the transaction began with
      apply And.intro (htable.trans hwork)
      dsimp only
      rw [hrows rows rfl, hpending]
      exact .inl ⟨rfl, rfl⟩

/-- The row a call of `Store` stores. -/
def rowOf (entity : Entity) : EntityRow :=
  storedRow entity.id entity.stringProperty entity.intProperty

/-- Executing `store_entity` again changes nothing. -/
theorem storeEntityRow_again (row : EntityRow) (t : List EntityRow) :
    storeEntityRow row (storeEntityRow row t) = storeEntityRow row t :=
  upsert_upsert onConflict_id rfl fun _ => rfl

/-- What a call of `Store` leaves, over all its attempts: the table, or the table with its
    row stored, and the latter if it returns normally. -/
theorem store_spec (h : self.pqxx.IsServer table transaction) (entity : Entity) (s : State σ) :
    (table (self.store entity s).2.world.server = table s.world.server ∨
      table (self.store entity s).2.world.server =
        storeEntityRow (rowOf entity) (table s.world.server)) ∧
    ((self.store entity s).1 = .ok () → table (self.store entity s).2.world.server =
      storeEntityRow (rowOf entity) (table s.world.server)) := by
  have hop : ∀ c (w : World σ),
      (table w.server = table s.world.server ∨
        table w.server = storeEntityRow (rowOf entity) (table s.world.server)) →
      table (self.storeOp entity c w).2.server = table s.world.server ∨
        table (self.storeOp entity c w).2.server =
          storeEntityRow (rowOf entity) (table s.world.server) := by
    intro c w hw
    -- An attempt after one that took effect executes the statement again
    obtain hsame | hdone := (storeOp_spec h entity c w).1
    · rw [hsame]
      exact hw
    · obtain hold | hnew := hw
      · rw [hdone, hold]
        exact .inr rfl
      · rw [hdone, hnew]
        exact .inr (storeEntityRow_again _ _)
  obtain ⟨hkeeps, hok⟩ := self.connectionManager.withConnection_spec
    (factoryKeeps h fun t _ => t = table s.world.server ∨
      t = storeEntityRow (rowOf entity) (table s.world.server)) hop (s := s) (.inl rfl)
  apply And.intro hkeeps
  intro hres
  -- The last attempt returned normally
  obtain ⟨c, w, hw, hc⟩ := hok hres
  have hdone := (storeOp_spec h entity c w).2 (by rw [hc])
  rw [hc] at hdone
  obtain hold | hnew := hw
  · exact hdone.trans (by rw [hold]; rfl)
  · exact hdone.trans (by rw [hnew]; exact storeEntityRow_again _ _)

/-- Assigning a value to a variable that holds nothing or this value. -/
theorem or_eq_left {α : Type} {x y : Option α} (h : y = none ∨ y = x) : x.or y = x := by
  obtain hnone | hsome := h
  · rw [hnone, Option.or_none]
  · rw [hsome, Option.or_self]

/-- What a call of `Retrieve` says and leaves, over all its attempts: it throws, or the
    server answered the last one of them, and it returns the entity of the one row with the id,
    if there is one. -/
theorem retrieve_spec (h : self.pqxx.IsServer table transaction) (id : String) (s : State σ) :
    table (self.retrieve id s).2.world.server = table s.world.server ∧
    ((∃ e, (self.retrieve id s).1 = .error e) ∨
      (self.retrieve id s).1 =
        .ok (entityOfResult (selectEntityRows id (table s.world.server))) ∧
      ∃ c w, table w.server = table s.world.server ∧
        self.retrieveOp id c w = (.ok (), (self.retrieve id s).2.world)) := by
  have hop : ∀ c (w : World σ),
      (table w.server = table s.world.server ∧ (w.entityOpt = none ∨
        w.entityOpt = entityOfResult (selectEntityRows id (table s.world.server)))) →
      table (self.retrieveOp id c w).2.server = table s.world.server ∧
        ((self.retrieveOp id c w).2.entityOpt = none ∨ (self.retrieveOp id c w).2.entityOpt =
          entityOfResult (selectEntityRows id (table s.world.server))) := by
    intro c w ⟨htable, hvar⟩
    obtain ⟨hsame, ⟨-, hassigned⟩ | ⟨-, hkept⟩⟩ := retrieveOp_spec h id c w
    · rw [hassigned, htable]
      exact ⟨hsame.trans htable, .inr (or_eq_left hvar)⟩
    · rw [hkept]
      exact ⟨hsame.trans htable, hvar⟩
  have hspec := self.connectionManager.withConnection_spec
    (factoryKeeps h fun t v => t = table s.world.server ∧ (v = none ∨
      v = entityOfResult (selectEntityRows id (table s.world.server)))) hop
    (s := { s with world := { s.world with entityOpt := none } }) ⟨rfl, .inl rfl⟩
  unfold retrieve
  dsimp only
  generalize self.connectionManager.withConnection (self.retrieveOp id)
    { s with world := { s.world with entityOpt := none } } = r at hspec ⊢
  obtain ⟨⟨htable, -⟩, hok⟩ := hspec
  obtain ⟨res, t⟩ := r
  cases res with
  | error e => exact ⟨htable, .inl ⟨e, rfl⟩⟩
  | ok u =>
    obtain ⟨c, w, ⟨htable', hvar⟩, hc⟩ := hok rfl
    apply And.intro htable
    -- The last attempt read the rows, and assigned their entity once more
    have hread := (retrieveOp_spec h id c w).2
    rw [hc] at hread
    obtain ⟨-, hassigned⟩ | ⟨⟨e, herror⟩, -⟩ := hread
    · dsimp only at hassigned ⊢
      rw [hassigned, htable', or_eq_left hvar]
      exact .inr ⟨rfl, c, w, htable', hc⟩
    · exact nomatch herror

/-- A call returns normally if its operation does and no call of the library fails. -/
theorem withConnection_ok (hnever : self.pqxx.NeverFails)
    (op : ConnectionId → World σ → Except Exn Unit × World σ) (hop : ∀ c w, (op c w).1 = .ok ())
    (s : State σ) : (self.connectionManager.withConnection op s).1 = .ok () := by
  apply self.connectionManager.withConnection_ok rfl _ hop s
  intro w
  have hcreate : (createPostgresConnection self.pqxx self.connectionString w.server).1 = .ok () := by
    unfold createPostgresConnection
    rw [andThen_ok (hnever.connect _), andThen_ok (hnever.prepare _ _), hnever.prepare]
  simp [onServer, hcreate, Except.map]

/-- `Store` returns normally if no call of the library fails. -/
theorem store_ok (hnever : self.pqxx.NeverFails) (entity : Entity) (s : State σ) :
    (self.store entity s).1 = .ok () := by
  apply withConnection_ok hnever
  intro c w
  unfold storeOp onServer
  dsimp only
  rw [andThen_ok (hnever.work c), andThen_ok (hnever.store c _ _ _), hnever.commit]

/-- `Retrieve` does not throw if no call of the library fails. -/
theorem retrieve_ne_error (hnever : self.pqxx.NeverFails) (id : String) (s : State σ) (e : Exn) :
    (self.retrieve id s).1 ≠ .error e := by
  have hop : ∀ c (w : World σ), (self.retrieveOp id c w).1 = .ok () := by
    intro c w
    unfold retrieveOp onServer
    dsimp only
    rw [andThen_ok (hnever.work c)]
    obtain ⟨rows, hrows⟩ := hnever.retrieve c id (self.pqxx.work c w.server).2
    rw [hrows]
  have hok := withConnection_ok hnever (self.retrieveOp id) hop
    { s with world := { s.world with entityOpt := none } }
  unfold retrieve
  dsimp only
  split
  · rename_i heq
    rw [heq] at hok
    exact nomatch hok
  · exact nofun

end PostgresRepo

end SapperBricks
