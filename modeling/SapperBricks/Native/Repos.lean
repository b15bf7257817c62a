import SapperBricks.Native.Json

/-!
# Repositories

The `EntityRepo` adapters over `std::map`, Redis and Google Cloud Storage
(`repo-in-memory.cpp`, `repo-redis.cpp`, `repo-cloud-storage.cpp`). What the last two use
of their client libraries acts on the state `σ` of the outside world and may fail.
-/

namespace SapperBricks

/-- `std::map<std::string, Entity>`. -/
abbrev EntityMap := Std.ExtTreeMap String Entity

/-- An exception of the JSON library. -/
def jsonExn {α : Type} : Except String α → Except Exn α
  | .ok a => .ok a
  | .error what => .error (.jsonException what)

/-! ## In memory -/

namespace InMemoryRepo

/-- `InMemoryRepo::Store`. -/
def store (entity : Entity) (data : EntityMap) : Except Exn Unit × EntityMap :=
  (.ok (), data.insert entity.id entity)

/-- `InMemoryRepo::Retrieve`. -/
def retrieve (id : String) (data : EntityMap) : Except Exn (Option Entity) × EntityMap :=
  match data[id]? with
  | none => (.ok none, data)
  | some entity => (.ok (some entity), data)

end InMemoryRepo

/-- `InMemoryRepo`. -/
def inMemoryRepo : EntityRepo EntityMap where
  store := InMemoryRepo.store
  retrieve := InMemoryRepo.retrieve

/-! ## Redis -/

/-- `sw::redis::Redis`. -/
structure RedisClient (σ : Type) where
  ping : String → σ → Except Exn String × σ
  set : String → String → σ → Except Exn Bool × σ
  get : String → σ → Except Exn (Option String) × σ

/-- `RedisRepo`. -/
structure RedisRepo (σ : Type) where
  json : NlohmannJson
  connection : RedisClient σ

namespace RedisRepo

variable {σ : Type} (self : RedisRepo σ)

/-- `to_json`. -/
def toJson : Entity → Json := entityToJson

/-- `from_json`. -/
def fromJson : Json → Except String Entity := entityFromJson self.json

/-- The constructor. -/
def construct (s : σ) : Except Exn Unit × σ :=
  match self.connection.ping "test" s with
  | (.error e, s) => (.error e, s)
  | (.ok answer, s) =>
    if answer ≠ "test" then (.error (.runtimeError "[redis] invalid connection"), s)
    else (.ok (), s)

/-- `RedisRepo::Store`. -/
def store (entity : Entity) (s : σ) : Except Exn Unit × σ :=
  match self.json.dump (toJson entity) with
  | .error what => (.error (.jsonException what), s)
  | .ok text =>
    match self.connection.set entity.id text s with
    | (.error e, s) => (.error e, s)
    | (.ok false, s) => (.error (.runtimeError "[redis] unable to set entity"), s)
    | (.ok true, s) => (.ok (), s)

/-- `RedisRepo::Retrieve`. -/
def retrieve (id : String) (s : σ) : Except Exn (Option Entity) × σ :=
  match self.connection.get id s with
  | (.error e, s) => (.error e, s)
  | (.ok none, s) => (.ok none, s)
  | (.ok (some text), s) => (jsonExn ((self.json.parse text >>= self.fromJson).map some), s)

/-- The repo as the core sees it. -/
def repo : EntityRepo σ where
  store := self.store
  retrieve := self.retrieve

end RedisRepo

/-! ## Google Cloud Storage -/

/-- `google::cloud::storage::Client`, for objects named by a bucket and a name. A
    `StatusOr` is its status or its value. -/
structure CloudStorageClient (σ : Type) where
  createDefaultClient : σ → Except Status Unit × σ
  /-- a write stream that is written to and closed, and the metadata of the object -/
  writeObject : String → String → String → σ → Except Status Unit × σ
  /-- a write stream that is destroyed before anything is written to it -/
  dropWriteStream : String → String → σ → σ
  /-- a read stream with its contents, or with its status if it is `bad()` -/
  readObject : String → String → σ → Except Status String × σ

/-- `CloudStorageRepo`. -/
structure CloudStorageRepo (σ : Type) where
  json : NlohmannJson
  storage : CloudStorageClient σ
  bucket : String

namespace CloudStorageRepo

variable {σ : Type} (self : CloudStorageRepo σ)

/-- `to_json`. -/
def toJson : Entity → Json := entityToJson

/-- `from_json`. -/
def fromJson : Json → Except String Entity := entityFromJson self.json

/-- `CloudStorageRepo::Store`. -/
def store (entity : Entity) (s : σ) : Except Exn Unit × σ :=
  match self.storage.createDefaultClient s with
  | (.error _, s) => (.error (.runtimeError "unable to create cloud storage client"), s)
  | (.ok (), s) =>
    -- The stream is open while the text is made
    match self.json.dump (toJson entity) with
    | .error what =>
      (.error (.jsonException what), self.storage.dropWriteStream self.bucket entity.id s)
    | .ok text =>
      match self.storage.writeObject self.bucket entity.id text s with
      | (.error status, s) => (.error (.runtimeError status.details), s)
      | (.ok (), s) => (.ok (), s)

/-- `CloudStorageRepo::Retrieve`. -/
def retrieve (id : String) (s : σ) : Except Exn (Option Entity) × σ :=
  match self.storage.createDefaultClient s with
  | (.error _, s) => (.error (.runtimeError "unable to create cloud storage client"), s)
  | (.ok (), s) =>
    match self.storage.readObject self.bucket id s with
    | (.error _, s) => (.ok none, s)
    | (.ok text, s) => (jsonExn ((self.json.parse text >>= self.fromJson).map some), s)

/-- The repo as the core sees it. -/
def repo : EntityRepo σ where
  store := self.store
  retrieve := self.retrieve

end CloudStorageRepo

end SapperBricks
