import SapperBricks.Spec.Backends
import SapperBricks.Spec.CoreInvariant

/-!
# The repos refine the in-memory repo

A repo over Redis, over a storage bucket or over a PostgreSQL table that is empty at first
and does not fail cannot be told from `InMemoryRepo`: the texts or rows it holds stand for
the entities of a map, and its functions return what those of the map return.

## Key results

- `Encodes.insert`, `Tabulates.store`: storing an entity in both keeps them related
- `RedisRepo.simulates`, `CloudStorageRepo.simulates`, `PostgresRepo.simulates`: each repo
  simulates `InMemoryRepo`
- `backends_agree`: a core over any of them gives the results of a core over `InMemoryRepo`
-/

namespace SapperBricks

open Keyed

/-! ## Texts and rows that stand for entities -/

/-- The texts of a store stand for entities: under each id there is a text exactly if there
    is an entity, and the library reads its document from it. -/
def Encodes (json : NlohmannJson) (texts : TextMap) (data : EntityMap) : Prop :=
  ∀ id : String, (data[id]? = none → texts[id]? = none) ∧
    ∀ entity, data[id]? = some entity →
      ∃ text, texts[id]? = some text ∧ json.parse text = .ok (entityToJson entity)

/-- Storing an entity and its text keeps them related. -/
theorem Encodes.insert {json : NlohmannJson} {texts : TextMap} {data : EntityMap}
    (h : Encodes json texts data) {entity : Entity} {text : String}
    (hparse : json.parse text = .ok (entityToJson entity)) :
    Encodes json (texts.insert entity.id text) (data.insert entity.id entity) := by
  intro id
  -- Both maps change under the same id
  rw [Std.ExtTreeMap.getElem?_insert, Std.ExtTreeMap.getElem?_insert]
  by_cases hid : compare entity.id id = .eq
  · rw [if_pos hid, if_pos hid]
    constructor
    · exact nofun
    · intro e he
      cases he
      exact ⟨text, rfl, hparse⟩
  · rw [if_neg hid, if_neg hid]
    exact h id

/-- A string without NUL. -/
def NulFree (s : String) : Prop :=
  '\x00' ∉ s.toList

/-- The rows of a table stand for entities: those with an id are the row of its entity. -/
def Tabulates (table : List EntityRow) (data : EntityMap) : Prop :=
  ∀ id : String, withKey EntityRow.id id table = data[id]?.toList.map Entity.row

/-- The row that is stored for an entity whose strings contain no NUL. -/
theorem rowOf_eq {entity : Entity} (hid : NulFree entity.id)
    (hstring : NulFree entity.stringProperty) : PostgresRepo.rowOf entity = entity.row := by
  unfold PostgresRepo.rowOf storedRow Entity.row
  rw [cStr_eq_self hid, cStr_eq_self hstring]

/-- Storing an entity and its row keeps them related. -/
theorem Tabulates.store {table : List EntityRow} {data : EntityMap} (h : Tabulates table data)
    (entity : Entity) :
    Tabulates (storeEntityRow entity.row table) (data.insert entity.id entity) := by
  intro id
  rw [withKey_storeEntityRow, Std.ExtTreeMap.getElem?_insert]
  by_cases hid : entity.id = id
  · subst hid
    have hrow : entity.row.id = entity.id := rfl
    have hcmp : compare entity.id entity.id = .eq := Std.ReflCmp.compare_self
    rw [if_pos hrow, if_pos hcmp]
    have hheld := h entity.id
    split
    · rfl
    · -- There was one row with the id, and the conflict leaves that of the entity
      rename_i hne
      cases hdata : data[entity.id]? with
      | none =>
        rw [hdata] at hheld
        exact absurd hheld hne
      | some old =>
        rw [hdata] at hheld
        have hmem : old.row ∈ withKey EntityRow.id entity.id table := by
          rw [hheld]
          exact List.mem_singleton.mpr rfl
        have hkey : old.row.id = entity.id := key_of_mem_withKey hmem
        rw [hheld]
        simp [onConflict, Entity.row, show old.id = entity.id from hkey]
  · have hrow : entity.row.id ≠ id := hid
    rw [if_neg hrow, if_neg (by simpa using hid)]
    exact h id

/-! ## Each repo simulates the map -/

/-- `Retrieve` of the map. -/
theorem InMemoryRepo.retrieve_eq (id : String) (data : EntityMap) :
    InMemoryRepo.retrieve id data = (.ok data[id]?, data) := by
  unfold InMemoryRepo.retrieve
  cases data[id]? <;> rfl

/-- What is read from the text of an entity. -/
theorem read_encoded {json : NlohmannJson} {text : String} {entity : Entity}
    (hparse : json.parse text = .ok (entityToJson entity)) :
    jsonExn ((json.parse text >>= entityFromJson json).map some) = .ok (some entity) := by
  rw [hparse]
  show jsonExn ((entityFromJson json (entityToJson entity)).map some) = _
  rw [entityFromJson_entityToJson]
  rfl

/-- A `RedisRepo` over a store that does not fail simulates the map. -/
theorem RedisRepo.simulates {σ : Type} (self : RedisRepo σ) {values : σ → TextMap}
    (h : self.connection.IsStore values) (hnever : self.connection.NeverFails) :
    self.repo.Simulates inMemoryRepo (fun s data => Encodes self.json (values s) data)
      self.json.RoundTrips fun _ => True where
  store entity s data hok hR := by
    obtain ⟨text, hdump, hparse⟩ := hok
    -- Nothing fails, so the call returns normally
    have hres : (self.store entity s).1 = .ok () := by
      have hset := hnever.set entity.id text s
      unfold store
      simp only [toJson, hdump]
      cases hx : self.connection.set entity.id text s with
      | mk r t =>
        rw [hx] at hset
        dsimp only at hset
        rw [hset]
    apply And.intro hres
    obtain ⟨⟨e, herror⟩, -⟩ | ⟨text', hdump', hvalues⟩ := store_cases h entity s
    · rw [hres] at herror
      exact nomatch herror
    · have htext : text' = text := Except.ok.inj (hdump'.symm.trans hdump)
      subst htext
      show Encodes self.json (values (self.store entity s).2) (data.insert entity.id entity)
      rw [hvalues]
      exact hR.insert hparse
  retrieve id s data _ hR := by
    show (self.retrieve id s).1 = (InMemoryRepo.retrieve id data).1 ∧
      Encodes self.json (values (self.retrieve id s).2) (InMemoryRepo.retrieve id data).2
    rw [InMemoryRepo.retrieve_eq, retrieve_values h]
    apply And.intro _ hR
    -- What the store answered is what it holds, and this stands for what the map holds
    obtain ⟨e, herror, -⟩ | ⟨-, hnone, hres⟩ | ⟨text, -, hsome, hres⟩ := retrieve_cases h id s
    · obtain ⟨value, hvalue⟩ := hnever.get id s
      rw [hvalue] at herror
      exact nomatch herror
    · cases hdata : data[id]? with
      | none => exact hres
      | some entity =>
        obtain ⟨text, htext, -⟩ := (hR id).2 entity hdata
        rw [hnone] at htext
        exact nomatch htext
    · cases hdata : data[id]? with
      | none =>
        rw [(hR id).1 hdata] at hsome
        exact nomatch hsome
      | some entity =>
        obtain ⟨text', htext, hparse⟩ := (hR id).2 entity hdata
        rw [hsome] at htext
        cases htext
        rw [hres]
        exact read_encoded hparse

/-- A `CloudStorageRepo` over a bucket that does not fail simulates the map. -/
theorem CloudStorageRepo.simulates {σ : Type} (self : CloudStorageRepo σ) {objects : σ → TextMap}
    (h : self.storage.IsStore self.bucket objects) (hnever : self.storage.NeverFails self.bucket) :
    self.repo.Simulates inMemoryRepo (fun s data => Encodes self.json (objects s) data)
      self.json.RoundTrips fun _ => True where
  store entity s data hok hR := by
    obtain ⟨text, hdump, hparse⟩ := hok
    have hres : (self.store entity s).1 = .ok () := by
      unfold store
      have hcreate := hnever.create s
      split
      · rename_i heq
        rw [heq] at hcreate
        exact nomatch hcreate
      · rename_i t heq
        have hwrite := hnever.write entity.id text t
        simp only [toJson, hdump]
        split
        · rename_i heq'
          rw [heq'] at hwrite
          exact nomatch hwrite
        · rfl
    apply And.intro hres
    obtain ⟨⟨e, herror⟩, -⟩ | ⟨text', hdump', -, hobjects⟩ := store_cases h entity s
    · rw [hres] at herror
      exact nomatch herror
    · have htext : text' = text := Except.ok.inj (hdump'.symm.trans hdump)
      subst htext
      show Encodes self.json (objects (self.store entity s).2) (data.insert entity.id entity)
      rw [hobjects]
      exact hR.insert hparse
  retrieve id s data _ hR := by
    show (self.retrieve id s).1 = (InMemoryRepo.retrieve id data).1 ∧
      Encodes self.json (objects (self.retrieve id s).2) (InMemoryRepo.retrieve id data).2
    rw [InMemoryRepo.retrieve_eq, retrieve_objects h]
    apply And.intro _ hR
    -- A bad stream only says that there is no object
    obtain ⟨status, e, herror, -⟩ |
      ⟨-, ⟨status, hbad, hres, hnotFound⟩ | ⟨text, -, hsome, hres⟩⟩ := retrieve_cases h id s
    · rw [hnever.create s] at herror
      exact nomatch herror
    · have hnone := hnotFound (hnever.read id _ status hbad)
      cases hdata : data[id]? with
      | none => exact hres
      | some entity =>
        obtain ⟨text, htext, -⟩ := (hR id).2 entity hdata
        rw [hnone] at htext
        exact nomatch htext
    · cases hdata : data[id]? with
      | none =>
        rw [(hR id).1 hdata] at hsome
        exact nomatch hsome
      | some entity =>
        obtain ⟨text', htext, hparse⟩ := (hR id).2 entity hdata
        rw [hsome] at htext
        cases htext
        rw [hres]
        exact read_encoded hparse

/-- A `PostgresRepo` over a server that does not fail simulates the map. -/
theorem PostgresRepo.simulates {σ : Type} (self : PostgresRepo σ)
    {table transaction : σ → List EntityRow} (h : self.pqxx.IsServer table transaction)
    (hnever : self.pqxx.NeverFails) :
    self.repo.Simulates inMemoryRepo (fun s data => Tabulates (table s.world.server) data)
      (fun entity => NulFree entity.id ∧ NulFree entity.stringProperty) NulFree where
  store entity s data hok hR := by
    have hres : (self.store entity s).1 = .ok () := store_ok hnever entity s
    apply And.intro hres
    show Tabulates (table (self.store entity s).2.world.server) (data.insert entity.id entity)
    rw [(store_spec h entity s).2 hres, rowOf_eq hok.1 hok.2]
    exact hR.store entity
  retrieve id s data hid hR := by
    obtain ⟨htable, hres⟩ := retrieve_spec h id s
    show (self.retrieve id s).1 = (InMemoryRepo.retrieve id data).1 ∧
      Tabulates (table (self.retrieve id s).2.world.server) (InMemoryRepo.retrieve id data).2
    rw [InMemoryRepo.retrieve_eq, htable]
    apply And.intro _ hR
    obtain ⟨e, herror⟩ | ⟨hread, -⟩ := hres
    · exact absurd herror (retrieve_ne_error hnever id s e)
    · -- The rows that were read stand for the entity, if there is one
      have hrows : selectEntityRows id (table s.world.server) =
          data[id]?.toList.map Entity.row := by
        unfold selectEntityRows
        rw [cStr_eq_self hid]
        exact hR id
      rw [hread, hrows]
      cases data[id]? <;> rfl

/-! ## Cores over the repos -/

/-- A repo in a state in which its store is empty, over a store that does not fail. -/
inductive FreshBackend (json : NlohmannJson) : {σ : Type} → EntityRepo σ → σ → Prop
  | redis {σ : Type} (connection : RedisClient σ) (values : σ → TextMap) (s : σ)
      (isStore : connection.IsStore values) (neverFails : connection.NeverFails)
      (isEmpty : values s = ∅) : FreshBackend json (RedisRepo.mk json connection).repo s
  | cloudStorage {σ : Type} (storage : CloudStorageClient σ) (bucket : String)
      (objects : σ → TextMap) (s : σ) (isStore : storage.IsStore bucket objects)
      (neverFails : storage.NeverFails bucket) (isEmpty : objects s = ∅) :
      FreshBackend json (CloudStorageRepo.mk json storage bucket).repo s
  | postgres {σ : Type} (self : PostgresRepo σ) (table transaction : σ → List EntityRow)
      (s : PostgresRepo.State σ) (isServer : self.pqxx.IsServer table transaction)
      (neverFails : self.pqxx.NeverFails) (isEmpty : table s.world.server = []) :
      FreshBackend json self.repo s

/-- An entity whose document the library prints and reads back and whose strings contain no
    NUL. -/
structure PlainEntity (json : NlohmannJson) (entity : Entity) : Prop where
  roundTrips : json.RoundTrips entity
  idNulFree : NulFree entity.id
  stringNulFree : NulFree entity.stringProperty

/-- A repo that simulates another for some entities and ids does so for fewer. -/
theorem EntityRepo.Simulates.mono {σ σ' : Type} {repo : EntityRepo σ} {repo' : EntityRepo σ'}
    {R : σ → σ' → Prop} {entityOk entityOk' : Entity → Prop} {idOk idOk' : String → Prop}
    (h : repo.Simulates repo' R entityOk idOk) (hentity : ∀ e, entityOk' e → entityOk e)
    (hid : ∀ id, idOk' id → idOk id) : repo.Simulates repo' R entityOk' idOk' where
  store entity s s' hok hR := h.store entity s s' (hentity entity hok) hR
  retrieve id s s' hok hR := h.retrieve id s s' (hid id hok) hR

/-- A repo over an empty store that does not fail simulates an empty map. -/
theorem FreshBackend.simulates {json : NlohmannJson} {σ : Type} {repo : EntityRepo σ} {s : σ}
    (h : FreshBackend json repo s) :
    ∃ R : σ → EntityMap → Prop, R s ∅ ∧
      repo.Simulates inMemoryRepo R (PlainEntity json) NulFree := by
  have hempty : Encodes json ∅ ∅ := by
    intro id
    rw [Std.ExtTreeMap.getElem?_empty, Std.ExtTreeMap.getElem?_empty]
    exact ⟨fun _ => rfl, fun _ => nofun⟩
  cases h with
  | redis connection values s isStore neverFails isEmpty =>
    refine ⟨fun s data => Encodes json (values s) data, ?_, ?_⟩
    · show Encodes json (values s) ∅
      rw [isEmpty]
      exact hempty
    · exact (RedisRepo.simulates ⟨json, connection⟩ isStore neverFails).mono
        (fun _ he => he.roundTrips) fun _ _ => trivial
  | cloudStorage storage bucket objects s isStore neverFails isEmpty =>
    refine ⟨fun s data => Encodes json (objects s) data, ?_, ?_⟩
    · show Encodes json (objects s) ∅
      rw [isEmpty]
      exact hempty
    · exact (CloudStorageRepo.simulates ⟨json, storage, bucket⟩ isStore neverFails).mono
        (fun _ he => he.roundTrips) fun _ _ => trivial
  | postgres self table transaction s isServer neverFails isEmpty =>
    refine ⟨fun s data => Tabulates (table s.world.server) data, ?_, ?_⟩
    · show Tabulates (table s.world.server) ∅
      rw [isEmpty]
      intro id
      rw [Std.ExtTreeMap.getElem?_empty]
      rfl
    · exact (PostgresRepo.simulates self isServer neverFails).mono
        (fun _ he => ⟨he.idNulFree, he.stringNulFree⟩) fun _ hid => hid

/-- **All repos agree.** For every sequence of calls with entities the library reads back and
    strings without NUL, a core over a repo for Redis, for a storage bucket or for
    PostgreSQL, whose store is empty at first and does not fail, gives the same result for
    every call as a core over `InMemoryRepo` with the same notifier; and afterwards it
    returns for each id the last entity stored under it, with all its fields. -/
theorem backends_agree {json : NlohmannJson} {σ ν : Type} {repo : EntityRepo σ} {s : σ}
    (hrepo : FreshBackend json repo s) (notifier : Option (EntityNotifier ν)) (n : ν)
    {calls : List Core.Call} (hcalls : ∀ c ∈ calls, c.Ok (PlainEntity json) NulFree) :
    ((Core.mk (some repo) notifier).run calls (s, n)).1 =
      ((Core.mk (some inMemoryRepo) notifier).run calls (∅, n)).1 ∧
    ∀ id, id ≠ "" → NulFree id →
      ((Core.mk (some repo) notifier).getEntity id
        ((Core.mk (some repo) notifier).run calls (s, n)).2).1 =
      .ok (latest Entity.id id (Core.accepted calls)) := by
  obtain ⟨R, hR, hsim⟩ := hrepo.simulates
  have hstart : R (s, n).1 ((∅ : EntityMap), n).1 ∧ (s, n).2 = ((∅ : EntityMap), n).2 := ⟨hR, rfl⟩
  obtain ⟨hresults, hstates⟩ := Core.run_simulation (R := fun s s' => R s.1 s'.1 ∧ s.2 = s'.2) _
    (Core.call_simulation hsim notifier) hcalls hstart
  apply And.intro hresults
  intro id hid hnul
  -- One more lookup, at both cores
  have hget := (Core.call_simulation hsim notifier (.getEntity id) _ _ hnul hstates).1
  have hcontents := Core.inMemory_contents notifier calls (s := (∅, n)) isLatest_empty id
  simp only [Core.call, Core.Result.got.injEq] at hget
  rw [hget]
  simp only [Core.getEntity, hid, if_false, inMemoryRepo, InMemoryRepo.retrieve_eq]
  exact congrArg Except.ok hcontents

/-! ## Redis as a map -/

/-- A Redis server that is a map and does not fail. -/
def testRedis : RedisClient TextMap where
  ping message s := (.ok message, s)
  set key value s := (.ok true, s.insert key value)
  get key s := (.ok s[key]?, s)

theorem testRedis_isStore : testRedis.IsStore id where
  set_true _ _ _ _ := rfl
  set_any _ _ _ := .inr rfl
  get_values _ _ := rfl
  get_ok _ _ _ h := (Except.ok.inj h).symm

/-- The library on the document of the entity of the usage examples. -/
def exampleJson : NlohmannJson where
  parse text :=
    if text = exampleText then .ok (entityToJson exampleEntity)
    else .error "[json.exception.parse_error.101] parse error"
  dump
    | .object [("id", .string "test"), ("int_property", .numberInteger 42),
        ("string_property", .string "str")] => .ok exampleText
    | _ => .error "[json.exception.type_error.316] invalid UTF-8 byte"
  atError _ _ := "[json.exception.out_of_range.403] key not found"
  typeError _ := "[json.exception.type_error.302] type must be another"
  castOutOfRange _ := Int32.minValue

/-- The entity is printed and read back, and its strings contain no NUL. -/
theorem exampleEntity_plain : PlainEntity exampleJson exampleEntity where
  roundTrips := ⟨exampleText, rfl, rfl⟩
  idNulFree := by unfold NulFree; decide
  stringNulFree := by unfold NulFree; decide

/-- Redis and the map agree on storing the entity. -/
theorem backends_agree_test :
    ((Core.mk (some (RedisRepo.mk exampleJson testRedis).repo) none).run
        [.setEntity exampleEntity, .getEntity "test"] ((∅ : TextMap), ())).1 =
      ((Core.mk (some inMemoryRepo) none).run
        [.setEntity exampleEntity, .getEntity "test"] (∅, ())).1 := by
  have hfresh : FreshBackend exampleJson (RedisRepo.mk exampleJson testRedis).repo (∅ : TextMap) :=
    .redis testRedis id ∅ testRedis_isStore ⟨fun _ _ _ => rfl, fun _ _ => ⟨_, rfl⟩⟩ rfl
  apply (backends_agree hfresh none () _).1
  intro c hc
  simp only [List.mem_cons, List.not_mem_nil, or_false] at hc
  obtain rfl | rfl := hc
  · exact exampleEntity_plain
  · exact exampleEntity_plain.idNulFree

end SapperBricks
