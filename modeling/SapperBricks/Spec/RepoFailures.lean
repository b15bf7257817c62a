import SapperBricks.Spec.RepoRefinement

/-!
# Failing stores

Which failures of the store behind a repo its callers get to see. `RedisRepo` and
`PostgresRepo` report every failed read as an exception; `CloudStorageRepo` takes every
read stream that is bad for a missing object.

## Key results

- `ReadModel.Sound`: what the repos share: entities stay stored, and a read is reported
  unless it is swallowed
- `reads_reported_iff`: the reads of a run are reported exactly when none is swallowed
-/

namespace SapperBricks

open Keyed

variable {σ : Type}

/-! ## Runs of a repo -/

/-- A call of a function of `EntityRepo`. -/
inductive RepoCall where
  | store (entity : Entity)
  | retrieve (id : String)
deriving DecidableEq, Repr

/-- The state a call leaves, whatever it returns or throws. -/
def EntityRepo.callState (repo : EntityRepo σ) : RepoCall → σ → σ
  | .store entity, s => (repo.store entity s).2
  | .retrieve id, s => (repo.retrieve id s).2

/-- The state some calls leave. -/
def EntityRepo.after (repo : EntityRepo σ) (calls : List RepoCall) (s : σ) : σ :=
  calls.foldl (fun s c => repo.callState c s) s

/-- The state after more calls. -/
theorem EntityRepo.after_append (repo : EntityRepo σ) (cs ds : List RepoCall) (s : σ) :
    repo.after (cs ++ ds) s = repo.after ds (repo.after cs s) :=
  List.foldl_append

/-! ## What is known of the store behind a repo -/

/-- The store of a repo, as far as reads are concerned. -/
structure ReadModel (σ : Type) where
  /-- the states the repo can be in -/
  Valid : σ → Prop
  /-- something is stored under an id -/
  Holds : σ → String → Prop
  /-- the store answers the read of a `Retrieve` made in this state -/
  Answered : σ → String → Prop
  /-- the read of a `Retrieve` made in this state fails in a way the repo does not tell from
      there being nothing -/
  Swallowed : σ → String → Prop

/-- A `Retrieve` that returns normally was answered by the store, and returns nothing only
    if nothing is stored. -/
def ReadModel.Reports (m : ReadModel σ) (repo : EntityRepo σ) (s : σ) (id : String) : Prop :=
  ∀ result, (repo.retrieve id s).1 = .ok result →
    m.Answered s id ∧ (result = none → ¬ m.Holds s id)

/-- What the repos share: what is stored stays stored, a `Store` that returns normally has
    stored its entity, and a read is reported exactly if it is not swallowed. -/
structure ReadModel.Sound (m : ReadModel σ) (repo : EntityRepo σ) : Prop where
  valid : ∀ c s, m.Valid s → m.Valid (repo.callState c s)
  holds : ∀ c s id, m.Holds s id → m.Holds (repo.callState c s) id
  stored : ∀ entity s, (repo.store entity s).1 = .ok () →
    m.Holds (repo.store entity s).2 entity.id
  reports : ∀ s id, m.Valid s → (m.Reports repo s id ↔ ¬ m.Swallowed s id)

/-- What is stored stays stored in every run. -/
theorem ReadModel.Sound.holds_after {m : ReadModel σ} {repo : EntityRepo σ} (h : m.Sound repo)
    (calls : List RepoCall) {s : σ} {id : String} (hs : m.Holds s id) :
    m.Holds (repo.after calls s) id := by
  induction calls generalizing s with
  | nil => exact hs
  | cons c cs ih => exact ih (h.holds c s id hs)

/-- Every run keeps to valid states. -/
theorem ReadModel.Sound.valid_after {m : ReadModel σ} {repo : EntityRepo σ} (h : m.Sound repo)
    (calls : List RepoCall) {s : σ} (hs : m.Valid s) : m.Valid (repo.after calls s) := by
  induction calls generalizing s with
  | nil => exact hs
  | cons c cs ih => exact ih (h.valid c s hs)

/-! ## The three repos -/

/-- Redis: a read fails if `get` throws. -/
def RedisRepo.readModel (self : RedisRepo σ) (values : σ → TextMap) : ReadModel σ where
  Valid _ := True
  Holds s id := (values s)[id]? ≠ none
  Answered s id := ∃ value, (self.connection.get id s).1 = .ok value
  Swallowed _ _ := False

/-- Cloud Storage: a read fails if no client can be created, or if the stream is bad for
    another reason than that there is no object; the latter is swallowed. -/
def CloudStorageRepo.readModel (self : CloudStorageRepo σ) (objects : σ → TextMap) :
    ReadModel σ where
  Valid _ := True
  Holds s id := (objects s)[id]? ≠ none
  Answered s id := (self.storage.createDefaultClient s).1 = .ok () ∧
    ∀ status, (self.storage.readObject self.bucket id
      (self.storage.createDefaultClient s).2).1 = .error status → status.code = .notFound
  Swallowed s id := (self.storage.createDefaultClient s).1 = .ok () ∧
    ∃ status, (self.storage.readObject self.bucket id
      (self.storage.createDefaultClient s).2).1 = .error status ∧ status.code ≠ .notFound

/-- PostgreSQL: a read is answered if the transaction of the last attempt is, which leaves the world
    as the call does; the ids in the table are unique. -/
def PostgresRepo.readModel (self : PostgresRepo σ) (table : σ → List EntityRow) :
    ReadModel (PostgresRepo.State σ) where
  Valid s := KeysUnique EntityRow.id (table s.world.server)
  Holds s id := withKey EntityRow.id (cStr id) (table s.world.server) ≠ []
  Answered s id := ∃ c w, table w.server = table s.world.server ∧
    self.retrieveOp id c w = (.ok (), (self.retrieve id s).2.world)
  Swallowed _ _ := False

/-- A map still has its keys when a text is inserted. -/
theorem insert_getElem?_ne_none {texts : TextMap} {id : String} (key text : String)
    (h : texts[id]? ≠ none) : (texts.insert key text)[id]? ≠ none := by
  rw [Std.ExtTreeMap.getElem?_insert]
  split
  · exact Option.some_ne_none _
  · exact h

/-- What was parsed is an entity. -/
theorem jsonExn_map_ne_none (r : Except String Entity) : jsonExn (r.map some) ≠ .ok none := by
  cases r <;> simp [jsonExn, Except.map]

/-- Redis: every failed read is reported. -/
theorem RedisRepo.readModel_sound {self : RedisRepo σ} {values : σ → TextMap}
    (h : self.connection.IsStore values) : (self.readModel values).Sound self.repo where
  valid _ _ _ := trivial
  holds c s id hs := by
    cases c with
    | store entity =>
      show (values (self.store entity s).2)[id]? ≠ none
      obtain ⟨-, hsame⟩ | ⟨text, -, hinsert⟩ := store_cases h entity s
      · rw [hsame]
        exact hs
      · rw [hinsert]
        exact insert_getElem?_ne_none _ _ hs
    | retrieve id' =>
      show (values (self.retrieve id' s).2)[id]? ≠ none
      rw [retrieve_values h]
      exact hs
  stored entity s hok := by
    show (values (self.store entity s).2)[entity.id]? ≠ none
    obtain ⟨⟨e, herror⟩, -⟩ | ⟨text, -, hinsert⟩ := store_cases h entity s
    · have hok' : (self.store entity s).1 = .ok () := hok
      rw [hok'] at herror
      exact nomatch herror
    · rw [hinsert, Std.ExtTreeMap.getElem?_insert_self]
      exact Option.some_ne_none _
  reports s id _ := by
    apply Iff.intro (fun _ => not_false)
    intro _ result hresult
    have hresult' : (self.retrieve id s).1 = .ok result := hresult
    obtain ⟨e, -, herror⟩ | ⟨hget, hnone, -⟩ | ⟨text, hget, -, hread⟩ := retrieve_cases h id s
    · -- A `get` that threw is no normal return
      rw [hresult'] at herror
      exact nomatch herror
    · exact ⟨⟨none, hget⟩, fun _ hholds => hholds hnone⟩
    · -- A text that was read is parsed, or not, but it is not nothing
      apply And.intro ⟨some text, hget⟩
      intro hnone
      rw [hresult', hnone] at hread
      exact absurd hread.symm (jsonExn_map_ne_none _)

/-- Cloud Storage: the reads that are not reported are those that are swallowed. -/
theorem CloudStorageRepo.readModel_sound {self : CloudStorageRepo σ} {objects : σ → TextMap}
    (h : self.storage.IsStore self.bucket objects) : (self.readModel objects).Sound self.repo where
  valid _ _ _ := trivial
  holds c s id hs := by
    cases c with
    | store entity =>
      show (objects (self.store entity s).2)[id]? ≠ none
      obtain ⟨-, hsame | ⟨text, hinsert⟩⟩ | ⟨text, -, -, hinsert⟩ := store_cases h entity s
      · rw [hsame]
        exact hs
      · -- Whatever text a failed call left, there is one
        rw [hinsert]
        exact insert_getElem?_ne_none _ _ hs
      · rw [hinsert]
        exact insert_getElem?_ne_none _ _ hs
    | retrieve id' =>
      show (objects (self.retrieve id' s).2)[id]? ≠ none
      rw [retrieve_objects h]
      exact hs
  stored entity s hok := by
    show (objects (self.store entity s).2)[entity.id]? ≠ none
    have hok' : (self.store entity s).1 = .ok () := hok
    obtain ⟨⟨e, herror⟩, -⟩ | ⟨text, -, -, hinsert⟩ := store_cases h entity s
    · rw [hok'] at herror
      exact nomatch herror
    · rw [hinsert, Std.ExtTreeMap.getElem?_insert_self]
      exact Option.some_ne_none _
  reports s id _ := by
    constructor
    · -- A swallowed read returns normally without an answer
      intro hreports ⟨hcreate, status, hbad, hcode⟩
      have hnone : (self.retrieve id s).1 = .ok none := by
        obtain ⟨status', e, herror, -⟩ | ⟨-, ⟨status', -, hres, -⟩ | ⟨text, hgood, -⟩⟩ :=
          retrieve_cases h id s
        · rw [hcreate] at herror
          exact nomatch herror
        · exact hres
        · rw [hbad] at hgood
          exact nomatch hgood
      exact hcode ((hreports none hnone).1.2 status hbad)
    · -- A read that is not swallowed and returns normally has its answer
      intro hswallowed result hresult
      have hresult' : (self.retrieve id s).1 = .ok result := hresult
      obtain ⟨status, e, -, herror⟩ |
        ⟨hcreate, ⟨status, hbad, -, hnotFound⟩ | ⟨text, hgood, -, hread⟩⟩ := retrieve_cases h id s
      · rw [hresult'] at herror
        exact nomatch herror
      · have hcode : status.code = .notFound := by
          by_contra hcode
          exact hswallowed ⟨hcreate, status, hbad, hcode⟩
        have hanswered : ∀ status', (self.storage.readObject self.bucket id
            (self.storage.createDefaultClient s).2).1 = .error status' →
            status'.code = .notFound := by
          intro status' hbad'
          rw [hbad] at hbad'
          cases hbad'
          exact hcode
        exact ⟨⟨hcreate, hanswered⟩, fun _ hholds => hholds (hnotFound hcode)⟩
      · have hanswered : ∀ status', (self.storage.readObject self.bucket id
            (self.storage.createDefaultClient s).2).1 = .error status' →
            status'.code = .notFound := by
          intro status' hbad'
          rw [hgood] at hbad'
          exact nomatch hbad'
        apply And.intro ⟨hcreate, hanswered⟩
        intro hnone
        rw [hresult', hnone] at hread
        exact absurd hread.symm (jsonExn_map_ne_none _)

/-- PostgreSQL: every failed read is reported. -/
theorem PostgresRepo.readModel_sound {self : PostgresRepo σ}
    {table transaction : σ → List EntityRow} (h : self.pqxx.IsServer table transaction) :
    (self.readModel table).Sound self.repo where
  valid c s hs := by
    cases c with
    | store entity =>
      show KeysUnique EntityRow.id (table (self.store entity s).2.world.server)
      obtain hsame | hdone := (store_spec h entity s).1
      · rw [hsame]
        exact hs
      · rw [hdone]
        exact hs.upsert onConflict_id _
    | retrieve id =>
      show KeysUnique EntityRow.id (table (self.retrieve id s).2.world.server)
      rw [(retrieve_spec h id s).1]
      exact hs
  holds c s id hs := by
    cases c with
    | store entity =>
      show withKey EntityRow.id (cStr id) (table (self.store entity s).2.world.server) ≠ []
      obtain hsame | hdone := (store_spec h entity s).1
      · rw [hsame]
        exact hs
      · rw [hdone]
        exact withKey_upsert_ne_nil onConflict_id _ (.inr hs)
    | retrieve id' =>
      show withKey EntityRow.id (cStr id) (table (self.retrieve id' s).2.world.server) ≠ []
      rw [(retrieve_spec h id' s).1]
      exact hs
  stored entity s hok := by
    show withKey EntityRow.id (cStr entity.id) (table (self.store entity s).2.world.server) ≠ []
    rw [(store_spec h entity s).2 hok]
    exact withKey_upsert_ne_nil onConflict_id _ (.inl rfl)
  reports s id hs := by
    apply Iff.intro (fun _ => not_false)
    intro _ result hresult
    have hresult' : (self.retrieve id s).1 = .ok result := hresult
    obtain ⟨-, ⟨e, herror⟩ | ⟨hread, hanswered⟩⟩ := retrieve_spec h id s
    · rw [hresult'] at herror
      exact nomatch herror
    apply And.intro hanswered
    intro hnone hholds
    apply hholds
    rw [hresult', hnone] at hread
    -- Two rows with the id would also give nothing, but the ids are unique
    have hlength := hs (cStr id)
    have hrows : entityOfResult (withKey EntityRow.id (cStr id) (table s.world.server)) = none :=
      (Except.ok.inj hread).symm
    cases hx : withKey EntityRow.id (cStr id) (table s.world.server) with
    | nil => rfl
    | cons row rows =>
      rw [hx] at hlength hrows
      have hnil : rows = [] := by
        simpa using hlength
      rw [hnil] at hrows
      exact nomatch hrows

/-! ## Reads of a run -/

/-- An adapter over an external store, with what is known of the store. -/
inductive ExternalRepo : {σ : Type} → EntityRepo σ → ReadModel σ → Prop
  | redis {σ : Type} (self : RedisRepo σ) (values : σ → TextMap)
      (isStore : self.connection.IsStore values) : ExternalRepo self.repo (self.readModel values)
  | cloudStorage {σ : Type} (self : CloudStorageRepo σ) (objects : σ → TextMap)
      (isStore : self.storage.IsStore self.bucket objects) :
      ExternalRepo self.repo (self.readModel objects)
  | postgres {σ : Type} (self : PostgresRepo σ) (table transaction : σ → List EntityRow)
      (isServer : self.pqxx.IsServer table transaction) :
      ExternalRepo self.repo (self.readModel table)

/-- Each of them is sound. -/
theorem ExternalRepo.sound {repo : EntityRepo σ} {m : ReadModel σ} (h : ExternalRepo repo m) :
    m.Sound repo := by
  cases h with
  | redis self values isStore => exact RedisRepo.readModel_sound isStore
  | cloudStorage self objects isStore => exact CloudStorageRepo.readModel_sound isStore
  | postgres self table transaction isServer => exact PostgresRepo.readModel_sound isServer

/-- The `Retrieve` at a position of a run is reported, and does not return nothing for an
    entity that an earlier `Store` of the run has stored. -/
def ReadModel.ReportsAt (m : ReadModel σ) (repo : EntityRepo σ) (calls : List RepoCall) (s : σ)
    (k : Nat) (id : String) : Prop :=
  m.Reports repo (repo.after (calls.take k) s) id ∧
  ∀ j entity, j < k → calls[j]? = some (.store entity) → entity.id = id →
    (repo.store entity (repo.after (calls.take j) s)).1 = .ok () →
    (repo.retrieve id (repo.after (calls.take k) s)).1 ≠ .ok none

/-- The state at a later position of a run, from an earlier one. -/
theorem EntityRepo.after_take {repo : EntityRepo σ} {calls : List RepoCall} {j k : Nat}
    (hjk : j < k) {c : RepoCall} (hc : calls[j]? = some c) (s : σ) :
    repo.after (calls.take k) s = repo.after ((calls.take k).drop (j + 1))
      (repo.callState c (repo.after (calls.take j) s)) := by
  have hlen : j < calls.length := (List.getElem?_eq_some_iff.mp hc).1
  have hprefix : (calls.take k).take (j + 1) = calls.take j ++ [c] := by
    rw [List.take_take, Nat.min_eq_left (by omega), List.take_add_one, hc, Option.toList_some]
  rw [← List.take_append_drop (j + 1) (calls.take k), EntityRepo.after_append, hprefix,
    EntityRepo.after_append, List.drop_left' (by simp; omega)]
  rfl

/-- **Reads of failing stores.** Whatever calls of a repo over an external store are made and
    whichever operations of the store fail, every `Retrieve` of the run reports the failure
    of its read as an exception, returns nothing only if nothing is stored, and so never
    loses what a `Store` has stored, exactly if no read of the run is swallowed. Only
    `CloudStorageRepo` swallows reads, those that are bad for another reason than a missing
    object. -/
theorem reads_reported_iff {repo : EntityRepo σ} {m : ReadModel σ} (h : ExternalRepo repo m)
    {s : σ} (hs : m.Valid s) (calls : List RepoCall) :
    (∀ k id, calls[k]? = some (.retrieve id) → m.ReportsAt repo calls s k id) ↔
      ∀ k id, calls[k]? = some (.retrieve id) →
        ¬ m.Swallowed (repo.after (calls.take k) s) id := by
  have hsound := h.sound
  -- Every state of the run is valid, so each read can be judged by itself
  have hreports : ∀ k id, m.Reports repo (repo.after (calls.take k) s) id ↔
      ¬ m.Swallowed (repo.after (calls.take k) s) id := fun k id =>
    hsound.reports _ id (hsound.valid_after (calls.take k) hs)
  constructor
  · intro hall k id hk
    exact (hreports k id).mp (hall k id hk).1
  · intro hnone k id hk
    have hreport := (hreports k id).mpr (hnone k id hk)
    apply And.intro hreport
    rintro j entity hjk hj rfl hstored hretrieve
    -- What was stored is still there, so returning nothing would not report it
    have hholds : m.Holds (repo.after (calls.take k) s) entity.id := by
      rw [EntityRepo.after_take hjk hj]
      exact hsound.holds_after _ (hsound.stored entity _ hstored)
    exact (hreport none hretrieve).2 rfl hholds

/-! ## A bucket that cannot be read -/

/-- A bucket that takes every write and, while the service is unavailable, fails every
    read. -/
def testStorage (available : Bool) : CloudStorageClient TextMap where
  createDefaultClient s := (.ok (), s)
  writeObject _ name text s := (.ok (), s.insert name text)
  dropWriteStream _ name s := s.insert name ""
  readObject _ name s :=
    if available then
      match s[name]? with
      | some text => (.ok text, s)
      | none => (.error ⟨.notFound, "No such object"⟩, s)
    else (.error ⟨.unavailable, "Service Unavailable"⟩, s)

/-- A repo over that bucket. -/
def testCloudRepo (available : Bool) : CloudStorageRepo TextMap :=
  ⟨exampleJson, testStorage available, "bucket"⟩

/-- It behaves as a bucket, available or not. -/
theorem testStorage_isStore (available : Bool) : (testStorage available).IsStore "bucket" id where
  create_objects _ := rfl
  write_ok _ _ _ _ := rfl
  write_any _ _ _ := .inr rfl
  drop_any _ _ := .inr rfl
  read_objects name s := by
    cases available
    · rfl
    · simp only [testStorage, if_true]
      cases s[name]? <;> rfl
  read_ok name s text hread := by
    cases available
    · exact nomatch hread
    · simp only [testStorage, if_true] at hread
      cases hs : s[name]? <;> rw [hs] at hread <;> cases hread
      exact hs
  read_notFound name s status hread hcode := by
    cases available
    · cases hread
      exact nomatch hcode
    · simp only [testStorage, if_true] at hread
      cases hs : s[name]? <;> rw [hs] at hread <;> cases hread
      exact hs

/-- The entity is stored, and while the service is unavailable it is reported as
    non-existent. -/
theorem reads_reported_outage :
    ((testCloudRepo false).store exampleEntity ∅).1 = .ok () ∧
    ((testCloudRepo false).store exampleEntity ∅).2["test"]? = some exampleText ∧
    ((testStorage false).readObject "bucket" "test"
      ((testCloudRepo false).store exampleEntity ∅).2).1 =
        .error ⟨.unavailable, "Service Unavailable"⟩ ∧
    ((testCloudRepo false).retrieve "test" ((testCloudRepo false).store exampleEntity ∅).2).1 =
      .ok none := by
  refine ⟨rfl, ?_, rfl, rfl⟩
  decide

/-- While the service is available the read of a run is reported. -/
theorem reads_reported_available :
    ((testCloudRepo true).readModel id).ReportsAt (testCloudRepo true).repo
      [.store exampleEntity, .retrieve "test"] ∅ 1 "test" := by
  have h : ExternalRepo (testCloudRepo true).repo ((testCloudRepo true).readModel id) :=
    .cloudStorage (testCloudRepo true) id (testStorage_isStore true)
  apply (reads_reported_iff h (s := ∅) trivial [.store exampleEntity, .retrieve "test"]).mpr _
    1 "test" rfl
  rintro k id hk ⟨-, status, hbad, hcode⟩
  have hread : ∀ name (s : TextMap) status,
      ((testStorage true).readObject "bucket" name s).1 = .error status →
      status.code = .notFound := by
    intro name s status hstatus
    simp only [testStorage, if_true] at hstatus
    cases hs : s[name]? <;> rw [hs] at hstatus <;> cases hstatus
    rfl
  exact hcode (hread _ _ status hbad)

end SapperBricks
