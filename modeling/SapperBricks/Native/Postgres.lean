import SapperBricks.Native.Request

/-!
# The PostgreSQL repository

The connection manager, which keeps one connection for all threads and makes a new one
when it is broken, and the repo that runs its two prepared statements over it
(`postgres-connection-manager.cpp`, `repo-postgres.cpp`).

The factory, the operations and libpqxx act on the state `σ` of the outside world.
-/

namespace SapperBricks

/-! ## Connection manager -/

/-- A `pqxx::connection`, named by the number of the factory call that created it. -/
abbrev ConnectionId := Nat

/-- `PostgresConnectionManager`. The factory is `none` if it is an empty function; what it
    returns says whether the pointer is not null. -/
structure PostgresConnectionManager (σ : Type) where
  connectionFactory : Option (σ → Except Exn Bool × σ)
  retry : RetryHook
  exceptions : ExceptionHook retry

namespace PostgresConnectionManager

variable {σ : Type}

/-- The mutable part of the manager, with the number of factory calls so far and the
    outside world. -/
structure State (σ : Type) where
  connection : Option ConnectionId
  factoryCalls : Nat
  world : σ

/-- What is done with a connection, which may be null. -/
abbrev Op (σ : Type) := Option ConnectionId → σ → Except Exn Unit × σ

/-- `createConnection`. -/
def createConnection (self : PostgresConnectionManager σ) (s : State σ) :
    Except Exn (Option ConnectionId) × State σ :=
  match self.connectionFactory with
  | none => (.error (.runtimeError "invalid connection factory"), s)
  | some connectionFactory =>
    let r := connectionFactory s.world
    let s' := { s with factoryCalls := s.factoryCalls + 1, world := r.2 }
    match r.1 with
    | .error e => (.error e, s')
    | .ok notNull => (.ok (if notNull then some s.factoryCalls else none), s')

/-- The constructor. -/
def construct (self : PostgresConnectionManager σ) (world : σ) : Except Exn Unit × State σ :=
  match self.createConnection ⟨none, 0, world⟩ with
  | (.error e, s) => (.error e, s)
  | (.ok connection, s) => (.ok (), { s with connection })

/-- The first half of the protected body: a connection is created if there is none. -/
def ensureConnection (self : PostgresConnectionManager σ) (s : State σ) :
    Except Exn Unit × State σ :=
  match s.connection with
  | some _ => (.ok (), s)
  | none =>
    match self.createConnection s with
    | (.error e, s) => (.error e, s)
    | (.ok connection, s) => (.ok (), { s with connection })

/-- The handler of `pqxx::broken_connection`: the connection is reset. -/
def resetIfBroken (e : Exn) (s : State σ) : State σ :=
  if e.isBrokenConnection then { s with connection := none } else s

@[simp] theorem resetIfBroken_connection (e : Exn) (s : State σ) :
    (resetIfBroken e s).connection = if e.isBrokenConnection then none else s.connection := by
  unfold resetIfBroken
  split <;> rfl

@[simp] theorem resetIfBroken_factoryCalls (e : Exn) (s : State σ) :
    (resetIfBroken e s).factoryCalls = s.factoryCalls := by
  unfold resetIfBroken
  split <;> rfl

@[simp] theorem resetIfBroken_world (e : Exn) (s : State σ) :
    (resetIfBroken e s).world = s.world := by
  unfold resetIfBroken
  split <;> rfl

/-- The protected body. -/
def protectedBody (self : PostgresConnectionManager σ) (op : Op σ) (s : State σ) :
    Except Exn Status × State σ :=
  match self.ensureConnection s with
  | (.error e, s) => (.error e, resetIfBroken e s)
  | (.ok (), s) =>
    let r := op s.connection s.world
    let s' := { s with world := r.2 }
    match r.1 with
    | .error e => (.error e, resetIfBroken e s')
    | .ok () => (.ok .ok, s')

/-- One attempt: the protected body, with its exceptions handled. -/
def attempt (self : PostgresConnectionManager σ) (op : Op σ) (s : State σ) :
    Except Exn Status × State σ :=
  let r := self.protectedBody op s
  (self.exceptions.process r.1, r.2)

/-- `WithConnection` of an operation that takes null as well. -/
def withConnectionOrNull (self : PostgresConnectionManager σ) (op : Op σ) (s : State σ) :
    Except Exn Unit × State σ :=
  let r := self.retry.process (self.attempt op) self.retry.maxRetryCount s
  (forwardErrors r.1, r.2)

/-- An operation that must not be given null. -/
def notNull (op : ConnectionId → σ → Except Exn Unit × σ) : Op σ
  | none, w => (.error (.runtimeError "invalid connection"), w)
  | some c, w => op c w

/-- `WithConnection`. -/
def withConnection (self : PostgresConnectionManager σ)
    (op : ConnectionId → σ → Except Exn Unit × σ) (s : State σ) : Except Exn Unit × State σ :=
  self.withConnectionOrNull (notNull op) s

end PostgresConnectionManager

/-! ## Repo -/

/-- A row of `entity.entity`. -/
structure EntityRow where
  id : String
  stringProperty : String
  intProperty : Int32
deriving DecidableEq, Repr

/-- What the repo uses of libpqxx: connections, the work object that is a transaction, and
    the two prepared statements. -/
structure PqxxClient (σ : Type) where
  /-- the constructor of `pqxx::connection` -/
  connect : String → σ → Except Exn Unit × σ
  /-- `prepare` on the newest connection -/
  prepare : String → String → σ → Except Exn Unit × σ
  /-- the constructor of `pqxx::work` -/
  work : ConnectionId → σ → Except Exn Unit × σ
  /-- `exec_prepared("store_entity", …)` -/
  execStoreEntity : ConnectionId → String → String → Int32 → σ → Except Exn Unit × σ
  /-- `exec_prepared("retrieve_entity", …)` -/
  execRetrieveEntity : ConnectionId → String → σ → Except Exn (List EntityRow) × σ
  /-- `commit` -/
  commit : ConnectionId → σ → Except Exn Unit × σ

/-- The statement prepared as `store_entity`. -/
def storeEntitySql : String :=
  "INSERT INTO entity.entity(id, string_property, int_property) VALUES ($1,$2,$3) " ++
    "ON CONFLICT (id) DO UPDATE SET string_property = EXCLUDED.string_property, " ++
    "int_property = EXCLUDED.int_property;"

/-- The statement prepared as `retrieve_entity`. -/
def retrieveEntitySql : String :=
  "SELECT id, string_property, int_property FROM entity.entity WHERE id = $1"

/-- One statement after another, the second only if the first did not throw. -/
def andThen {σ α : Type} (first : σ → Except Exn Unit × σ) (second : σ → Except Exn α × σ)
    (s : σ) : Except Exn α × σ :=
  match first s with
  | (.error e, s) => (.error e, s)
  | (.ok (), s) => second s

/-- `CreateConnection`. -/
def createPostgresConnection {σ : Type} (pqxx : PqxxClient σ) (connectionString : String) :
    σ → Except Exn Unit × σ :=
  andThen (pqxx.connect connectionString) <|
    andThen (pqxx.prepare "store_entity" storeEntitySql) <|
      pqxx.prepare "retrieve_entity" retrieveEntitySql

/-- `PostgresRepo`. -/
structure PostgresRepo (σ : Type) where
  pqxx : PqxxClient σ
  connectionString : String
  retry : RetryHook
  exceptions : ExceptionHook retry

namespace PostgresRepo

/-- The world an operation of the repo acts on: the outside world, and the variable
    `entity_opt` of the `Retrieve` that is being executed. -/
structure World (σ : Type) where
  server : σ
  entityOpt : Option Entity

/-- A call of libpqxx, which does not touch the variable. -/
def onServer {σ α : Type} (call : σ → Except Exn α × σ) (w : World σ) :
    Except Exn α × World σ :=
  let r := call w.server
  (r.1, { w with server := r.2 })

variable {σ : Type} (self : PostgresRepo σ)

/-- The connection manager of the repo, whose factory never returns null. -/
def connectionManager : PostgresConnectionManager (World σ) where
  connectionFactory := some fun w =>
    let r := onServer (createPostgresConnection self.pqxx self.connectionString) w
    (r.1.map fun _ => true, r.2)
  retry := self.retry
  exceptions := self.exceptions

/-- The state of the repo. -/
abbrev State (σ : Type) := PostgresConnectionManager.State (World σ)

/-- The constructor. -/
def construct (server : σ) : Except Exn Unit × State σ :=
  self.connectionManager.construct ⟨server, none⟩

/-- The operation of `Store`. -/
def storeOp (entity : Entity) (c : ConnectionId) : World σ → Except Exn Unit × World σ :=
  onServer <| andThen (self.pqxx.work c) <|
    andThen (self.pqxx.execStoreEntity c entity.id entity.stringProperty entity.intProperty) <|
      self.pqxx.commit c

/-- `PostgresRepo::Store`. -/
def store (entity : Entity) (s : State σ) : Except Exn Unit × State σ :=
  self.connectionManager.withConnection (self.storeOp entity) s

/-- The entity of a result of one row. -/
def entityOfResult : List EntityRow → Option Entity
  | [row] => some ⟨row.id, row.stringProperty, row.intProperty⟩
  | _ => none

/-- The operation of `Retrieve`, which assigns the variable if there is one row. -/
def retrieveOp (id : String) (c : ConnectionId) (w : World σ) : Except Exn Unit × World σ :=
  match onServer (andThen (self.pqxx.work c) (self.pqxx.execRetrieveEntity c id)) w with
  | (.error e, w) => (.error e, w)
  | (.ok result, w) => (.ok (), { w with entityOpt := (entityOfResult result).or w.entityOpt })

/-- `PostgresRepo::Retrieve`. -/
def retrieve (id : String) (s : State σ) : Except Exn (Option Entity) × State σ :=
  let s := { s with world := { s.world with entityOpt := none } }
  match self.connectionManager.withConnection (self.retrieveOp id) s with
  | (.error e, s) => (.error e, s)
  | (.ok (), s) => (.ok s.world.entityOpt, s)

/-- The repo as the core sees it. -/
def repo : EntityRepo (State σ) where
  store := self.store
  retrieve := self.retrieve

end PostgresRepo

end SapperBricks
