import SapperBricks.ForStd.PrefixUpdate
import SapperBricks.Spec.ServiceRequests

/-!
# Chains of services

Services that notify one another over HTTP: each has a repo, an `HttpHandler`, and an
`HttpNotifier` for the next service, of which the last one has none. A change that is made at
the first service is handed on from service to service while it waits for the response. Repos
may fail, and links may lose a request or its response, before or after other attempts of the
notifier.

## Key results

- `setEntity_reaches`: how far a change gets that is made at the first service
- `chain_replicates`, `change_everywhere`: what the services of a chain hold after any calls of the
  first one
- `stores_le`, `stores_storm`: how often the repo of each service is called
-/

namespace SapperBricks

open Adapter PrefixUpdate

/-! ## Services -/

/-- What becomes of a request on its way to the next service. -/
inductive Transmission where
  | delivered
  | requestLost (error : String)
  | responseLost (error : String)
deriving DecidableEq, Repr

/-- A service of a chain. Its repo holds a map, whatever of it fails, and the link to the next
    service has a state that says what becomes of requests. -/
structure ChainedService where
  RepoState : Type
  LinkState : Type
  repo : EntityRepo RepoState
  contents : RepoState → EntityMap
  holds : repo.Holds contents
  /-- a repo does not throw a success -/
  store_fails : ∀ entity s status details,
    (repo.store entity s).1 = .error (.errorForwarding status details) → status.code ≠ .ok
  requestHandler : RequestHandler
  retry : RetryHook
  transmit : LinkState → Transmission × LinkState

/-- What a service does with a request, given the state of the services. -/
abbrev Server (β : Type) :=
  HttpMethod → String → String → β → HttpResponse × β

/-- The libraries that all the services use. What the JSON library prints of an entity, it
    reads back. -/
structure ChainLibraries where
  json : NlohmannJson
  converter : StatusConverter
  readsBack : ∀ entity text, json.dump (entityToJson entity) = .ok text →
    json.parse text = .ok (entityToJson entity)

namespace ChainedService

variable (self : ChainedService) {β : Type} (libs : ChainLibraries)

/-- The client of the notifier, connected to a server. -/
def client (serve : Server β) : HttpClient (self.LinkState × β) where
  put target body _ b :=
    match self.transmit b.1 with
    | (.requestLost error, link) => (.error error, (link, b.2))
    | (.delivered, link) =>
      let r := serve .put target body b.2
      (.ok r.1, (link, r.2))
    | (.responseLost error, link) =>
      let r := serve .put target body b.2
      (.error error, (link, r.2))

/-- The notifier. -/
def httpNotifier (serve : Server β) : HttpNotifier (self.LinkState × β) :=
  ⟨libs.json, libs.converter, self.retry, self.client serve⟩

/-- The core: the last service has no notifier. -/
def core (next : Option (Server β)) : Core self.RepoState (self.LinkState × β) :=
  ⟨some self.repo, next.map fun serve => (self.httpNotifier libs serve).notifier⟩

/-- The handler. -/
def handler (next : Option (Server β)) : HttpHandler self.RepoState (self.LinkState × β) :=
  ⟨libs.json, self.requestHandler, libs.converter, self.core libs next⟩

end ChainedService

/-! ## Chains -/

namespace ServiceChain

/-- The state of the services of a chain, with their links. -/
def State : List ChainedService → Type
  | [] => Unit
  | service :: rest => service.RepoState × (service.LinkState × State rest)

/-- The first service of a chain, which serves requests if there is one. -/
def serve (libs : ChainLibraries) :
    (services : List ChainedService) → Option (Server (State services))
  | [] => none
  | service :: rest => some (service.handler libs (serve libs rest)).serve

/-- Its core. -/
def core (libs : ChainLibraries) (service : ChainedService) (rest : List ChainedService) :
    Core service.RepoState (service.LinkState × State rest) :=
  service.core libs (serve libs rest)

/-- What the services hold, one after the other. -/
def contents : (services : List ChainedService) → State services → List EntityMap
  | [], _ => []
  | service :: rest, s => service.contents s.1 :: contents rest s.2.2

@[simp] theorem length_contents (services : List ChainedService) (s : State services) :
    (contents services s).length = services.length := by
  induction services with
  | nil => rfl
  | cons service rest ih => exact congrArg (· + 1) (ih s.2.2)

/-- The change of a map that an entity makes that is stored. -/
def put (entity : Entity) (data : EntityMap) : EntityMap :=
  data.insert entity.id entity

/-- It may be repeated. -/
theorem put_put (entity : Entity) (data : EntityMap) :
    put entity (put entity data) = put entity data := by
  apply Std.ExtTreeMap.ext_getElem?
  intro id
  simp only [put, Std.ExtTreeMap.getElem?_insert]
  split <;> rfl

/-! ## One change -/

variable {libs : ChainLibraries} {entity : Entity}

/-- A change has reached some of the services, and all of them if it is said to have succeeded. -/
def Reaches (entity : Entity) (n : Nat) (succeeded : Prop) (before after : List EntityMap) : Prop :=
  (∃ k ≤ n, after = applyTo (put entity) k before) ∧
    (succeeded → after = applyTo (put entity) n before)

/-- What has failed may have reached none. -/
theorem Reaches.of_failed {n : Nat} {succeeded : Prop} (h : ¬succeeded) (before : List EntityMap) :
    Reaches entity n succeeded before before :=
  ⟨⟨0, Nat.zero_le n, (applyTo_zero _ before).symm⟩, fun hs => absurd hs h⟩

/-- What a server of notifications does with one: the change reaches some services, and all of
    them if the response is one of success. -/
def ServesChange (libs : ChainLibraries) (entity : Entity) (services : List ChainedService)
    (serve : Server (State services)) : Prop :=
  ∀ text, libs.json.dump (entityToJson entity) = .ok text → ∀ s,
    let r := serve .put ("/Entity/" ++ entity.id) text s
    Reaches entity services.length (libs.converter.fromHttp r.1.status = .ok)
      (contents services s) (contents services r.2)

/-- One attempt to notify, after others. -/
theorem attempt_reaches {service : ChainedService} {services : List ChainedService}
    {serve : Server (State services)} (h : ServesChange libs entity services serve)
    {before : List EntityMap} (b : service.LinkState × State services)
    (hb : ∃ k ≤ services.length, contents services b.2 = applyTo (put entity) k before) :
    let r := (service.httpNotifier libs serve).attempt entity b
    Reaches entity services.length (forwardErrors r.1 = .ok ()) before
      (contents services r.2.2) := by
  obtain ⟨j, hj, hb⟩ := hb
  unfold HttpNotifier.attempt
  dsimp only [ChainedService.httpNotifier, HttpNotifier.toJson]
  cases hdump : libs.json.dump (entityToJson entity) with
  | error what => exact ⟨⟨j, hj, hb⟩, nofun⟩
  | ok text =>
    obtain ⟨⟨k, hk, hreached⟩, hall⟩ := h text hdump b.2
    -- What the request does if it arrives
    have hserved : Reaches entity services.length
        (libs.converter.fromHttp (serve .put ("/Entity/" ++ entity.id) text b.2).1.status = .ok)
        before (contents services (serve .put ("/Entity/" ++ entity.id) text b.2).2) := by
      refine ⟨⟨max j k, Nat.max_le.mpr ⟨hj, hk⟩, ?_⟩, fun hok => ?_⟩
      · -- The change is made again where it was, and at as many services as it gets to now
        rw [hreached, hb, applyTo_applyTo (put_put entity)]
      · rw [hall hok, hb, applyTo_applyTo (put_put entity), Nat.max_eq_right hj]
    dsimp only [ChainedService.client]
    -- Only a response that arrives can be one of success
    cases htransmit : service.transmit b.1 with
    | mk transmission link =>
      cases transmission with
      | requestLost error => exact ⟨⟨j, hj, hb⟩, nofun⟩
      | responseLost error => exact ⟨hserved.1, nofun⟩
      | delivered =>
        refine ⟨hserved.1, fun hok => hserved.2 ?_⟩
        obtain ⟨status, hstatus, hcode⟩ := forwardErrors_eq_ok.mp hok
        cases hstatus
        exact hcode

/-- A notification, with all its attempts. -/
theorem entityChanged_reaches {service : ChainedService} {services : List ChainedService}
    {serve : Server (State services)} (h : ServesChange libs entity services serve)
    (b : service.LinkState × State services) :
    let r := (service.httpNotifier libs serve).entityChanged entity b
    Reaches entity services.length (r.1 = .ok ()) (contents services b.2)
      (contents services r.2.2) := by
  -- Attempts never undo what was reached
  exact @RetryHook.process_spec (service.LinkState × State services) service.retry
    ((service.httpNotifier libs serve).attempt entity)
    (fun b' => ∃ k ≤ services.length,
      contents services b'.2 = applyTo (put entity) k (contents services b.2))
    (fun b' => contents services b'.2 =
      applyTo (put entity) services.length (contents services b.2))
    (fun b' hb' => attempt_reaches h b' hb') service.retry.maxRetryCount b
    ⟨0, Nat.zero_le _, (applyTo_zero _ _).symm⟩

/-- What is thrown at the caller of the core stands for a failure. -/
def ThrowsFailures (r : Except Exn Unit) : Prop :=
  ∀ status details, r = .error (.errorForwarding status details) → status.code ≠ .ok

/-- Whatever the attempts of a notification come to, what is thrown stands for a failure. -/
theorem entityChanged_throws {β : Type} (service : ChainedService) (serve : Server β)
    (b : service.LinkState × β) :
    ThrowsFailures ((service.httpNotifier libs serve).entityChanged entity b).1 := by
  intro status details herror
  -- An attempt itself throws what the library does, never a status
  have hattempt : ∀ b', (∃ status details, ((service.httpNotifier libs serve).attempt entity b').1 =
      .error (.errorForwarding status details)) → False := by
    rintro b' ⟨status, details, h⟩
    unfold HttpNotifier.attempt at h
    split at h
    · cases h
    · split at h <;> cases h
  unfold HttpNotifier.entityChanged at herror
  dsimp only at herror
  obtain ⟨b', -, hlast⟩ := (service.httpNotifier libs serve).retry.process_eq_attempt
    ((service.httpNotifier libs serve).attempt entity) (I := fun _ => True) (fun _ _ => trivial)
    (service.httpNotifier libs serve).retry.maxRetryCount (s := b) trivial
  rw [hlast] at herror
  -- A status is forwarded only if it is no success
  cases hr : ((service.httpNotifier libs serve).attempt entity b').1 with
  | error e =>
    rw [hr] at herror
    cases herror
    exact (hattempt b' ⟨_, _, hr⟩).elim
  | ok status' =>
    rw [hr, forwardErrors] at herror
    split at herror
    · cases herror
    · rename_i hcode
      cases herror
      exact hcode

/-- A core whose notifier, if it has one, hands changes on. -/
theorem setEntity_reaches_of {service : ChainedService} {services : List ChainedService}
    {next : Option (Server (State services))} (hnext : next = none → services = [])
    (h : ∀ serve, next = some serve → ServesChange libs entity services serve)
    (s : service.RepoState × (service.LinkState × State services)) :
    let r := (service.core libs next).setEntity entity s
    Reaches entity (services.length + 1) (r.1 = .ok ()) (contents (service :: services) s)
      (contents (service :: services) r.2) ∧ ThrowsFailures r.1 := by
  intro r
  subst r
  unfold Core.setEntity
  dsimp only [ChainedService.core]
  by_cases hid : entity.id = ""
  · rw [if_pos hid]
    exact ⟨.of_failed nofun _, nofun⟩
  rw [if_neg hid]
  -- What holds of `Store`, whatever it comes to
  have hok := service.holds.store_ok entity s.1
  have hany := service.holds.store_any entity s.1
  have hfails := service.store_fails entity s.1
  cases hstore : service.repo.store entity s.1 with
  | mk r repo' =>
    rw [hstore] at hok hany hfails
    dsimp only at hok hany hfails
    cases r with
    | error e =>
      -- The repo throws, having stored the entity or not
      refine ⟨⟨?_, nofun⟩, fun status details he => hfails status details (by rw [Except.error.inj he])⟩
      obtain hsame | hdone := hany
      · exact ⟨0, Nat.zero_le _, by simp [contents, hsame]⟩
      · exact ⟨1, by omega, by simp [contents, hdone, put]⟩
    | ok u =>
      have hdone := hok rfl
      cases hn : next with
      | none =>
        cases hnext hn
        -- No service is behind this one
        refine ⟨⟨⟨1, Nat.le_refl 1, ?_⟩, fun _ => ?_⟩, nofun⟩ <;>
          simp [contents, hdone, put]
      | some serve =>
        -- The services behind this one are reached as far as the notification gets
        obtain ⟨⟨k, hk, hreached⟩, hall⟩ := entityChanged_reaches (h serve hn) s.2
        dsimp only [Option.map_some]
        refine ⟨⟨⟨k + 1, Nat.succ_le_succ hk, ?_⟩, fun hres => ?_⟩,
          entityChanged_throws service serve s.2⟩
        · show service.contents repo' :: _ = applyTo _ _ (service.contents s.1 :: _)
          rw [applyTo_cons, ← hreached, hdone]
          rfl
        · show service.contents repo' :: _ = applyTo _ _ (service.contents s.1 :: _)
          rw [applyTo_cons, ← hall hres, hdone]
          rfl

/-- The handler of a chain hands on the changes it is notified of. -/
theorem serve_reaches {service : ChainedService} {services : List ChainedService}
    {next : Option (Server (State services))} (hnext : next = none → services = [])
    (h : ∀ serve, next = some serve → ServesChange libs entity services serve) :
    ServesChange libs entity (service :: services) (service.handler libs next).serve := by
  intro text hdump (s : service.RepoState × (service.LinkState × State services))
  have hparse := libs.readsBack entity text hdump
  dsimp only
  by_cases hplain : PlainId entity.id
  · rw [(service.handler libs next).serve_plain hparse hplain s]
    obtain ⟨⟨hreached, hall⟩, hthrows⟩ := setEntity_reaches_of hnext h s
    refine ⟨hreached, fun hok => hall ?_⟩
    rw [HttpHandler.finish_status] at hok
    -- A failure of the core is answered as one
    cases hres : ((service.core libs next).setEntity entity s).1 with
    | ok u => rfl
    | error e =>
      rw [show ((service.handler libs next).api.setEntity entity s).1 = .error e from hres] at hok
      refine absurd hok (libs.converter.from_to_failure _ ?_)
      exact service.requestHandler.handle_failure e fun status details he =>
        hthrows status details (by rw [hres, he])
  · -- The id does not get through the path, so the request fails and changes nothing
    obtain ⟨hsame, hfails⟩ := (service.handler libs next).serve_other hparse hplain s
    generalize (service.handler libs next).serve .put ("/Entity/" ++ entity.id) text s = r at *
    rw [hsame]
    exact .of_failed hfails _

/-- Only a chain of no services serves nothing. -/
theorem serve_eq_none (services : List ChainedService) :
    serve libs services = none → services = [] := by
  cases services with
  | nil => exact fun _ => rfl
  | cons => exact nofun

/-- So does the first service of any chain. -/
theorem serve_servesChange (libs : ChainLibraries) (entity : Entity) (services : List ChainedService)
    (server : Server (State services)) (hserve : serve libs services = some server) :
    ServesChange libs entity services server := by
  -- Induction on the chain: the handler of each service notifies the rest
  induction services with
  | nil => cases hserve
  | cons service rest ih =>
    have hhandler : (service.handler libs (serve libs rest)).serve = server :=
      Option.some.inj hserve
    rw [← hhandler]
    exact serve_reaches (serve_eq_none rest) ih

/-- How far a change gets that is made at the first service: to some of the services, from the
    first one on, and to all of them if `SetEntity` returns. -/
theorem setEntity_reaches (libs : ChainLibraries) (service : ChainedService)
    (rest : List ChainedService) (entity : Entity) (s : State (service :: rest)) :
    Reaches entity (rest.length + 1) (((core libs service rest).setEntity entity s).1 = .ok ())
      (contents (service :: rest) s)
      (contents (service :: rest) ((core libs service rest).setEntity entity s).2) := by
  unfold core
  exact (setEntity_reaches_of (serve_eq_none rest) (serve_servesChange libs entity rest) s).1

/-! ## Runs -/

/-- The change that a call makes at a service it reaches. -/
def change : Core.Call → EntityMap → EntityMap
  | .setEntity entity => put entity
  | .getEntity _ => id

/-- How many of `n` services each of some calls reaches: all of them if it is a `SetEntity` that
    returns. -/
inductive Handed (n : Nat) : List Core.Call → List Core.Result → List Nat → Prop
  | nil : Handed n [] [] []
  | cons {c : Core.Call} {r : Core.Result} {k : Nat} {cs : List Core.Call}
      {rs : List Core.Result} {ks : List Nat} (hle : k ≤ n) (hall : r = .set (.ok ()) → k = n)
      (hrest : Handed n cs rs ks) : Handed n (c :: cs) (r :: rs) (k :: ks)

section Run

variable {service : ChainedService} {rest : List ChainedService}

/-- One call of the first core. -/
theorem call_reaches (c : Core.Call)
    (s : service.RepoState × (service.LinkState × State rest)) :
    let r := (core libs service rest).call c s
    ∃ k ≤ rest.length + 1, (r.1 = .set (.ok ()) → k = rest.length + 1) ∧
      contents (service :: rest) r.2 = applyTo (change c) k (contents (service :: rest) s) := by
  cases c with
  | setEntity entity =>
    obtain ⟨⟨k, hk, hreached⟩, hall⟩ := setEntity_reaches libs service rest entity s
    -- A call that returned reached all, any other as many as `SetEntity` did
    by_cases hok : ((core libs service rest).setEntity entity s).1 = .ok ()
    · exact ⟨rest.length + 1, Nat.le_refl _, fun _ => rfl, hall hok⟩
    · refine ⟨k, hk, fun hset => absurd ?_ hok, hreached⟩
      simpa only [Core.call, Core.Result.set.injEq] using hset
  | getEntity id =>
    obtain ⟨hsame, hlinks, -⟩ := @Core.getEntity_spec _ _ (core libs service rest) _ _ rfl
      service.holds id s
    -- A lookup reaches no service, and is no change
    refine ⟨0, Nat.zero_le _, ?_, ?_⟩
    · intro hgot
      cases hgot
    · rw [applyTo_zero]
      simp only [contents, Core.call]
      rw [hsame, hlinks]

/-- Calls of the first core, one after the other. -/
theorem run_reaches (calls : List Core.Call)
    (s : service.RepoState × (service.LinkState × State rest)) :
    let r := (core libs service rest).run calls s
    ∃ reach, Handed (rest.length + 1) calls r.1 reach ∧
      contents (service :: rest) r.2 =
        applyAll ((calls.zip reach).map fun u => (change u.1, u.2))
          (contents (service :: rest) s) := by
  induction calls generalizing s with
  | nil => exact ⟨[], .nil, rfl⟩
  | cons c cs ih =>
    -- How far the first call gets, and then each of the others
    obtain ⟨k, hk, hall, hcall⟩ := @call_reaches libs service rest c s
    obtain ⟨reach, hreach, hrest⟩ := ih ((core libs service rest).call c s).2
    refine ⟨k :: reach, .cons hk hall hreach, ?_⟩
    simp only [Core.run]
    rw [hrest, hcall]
    rfl

/-- **Replication along a chain.** Whatever is called at the first service of a chain, and
    whatever fails on the way: each service holds, on top of what it held, exactly the changes of
    the calls that reached it, in the order of the calls. A call that reached a service reached
    all the services before it, and a `SetEntity` that returned reached all of them. -/
theorem chain_replicates (libs : ChainLibraries) (service : ChainedService)
    (rest : List ChainedService) (calls : List Core.Call) (s : State (service :: rest)) :
    let r := (core libs service rest).run calls s
    ∃ reach, Handed (rest.length + 1) calls r.1 reach ∧
      ∀ i, (contents (service :: rest) r.2)[i]? = (contents (service :: rest) s)[i]?.map
        fun data => ((calls.zip reach).filter fun u => i < u.2).foldl
          (fun data u => change u.1 data) data := by
  obtain ⟨reach, hreach, hcontents⟩ := @run_reaches libs service rest calls s
  refine ⟨reach, hreach, fun i => ?_⟩
  rw [hcontents, applyAll_getElem?]
  simp only [List.filter_map, List.foldl_map, Function.comp_def]

/-- A call with another id leaves an entity where it is. -/
theorem change_getElem? {c : Core.Call} {id : String}
    (hc : ∀ entity, c = .setEntity entity → entity.id ≠ id) (data : EntityMap) :
    (change c data)[id]? = data[id]? := by
  cases c with
  | setEntity entity =>
    have hid := hc entity rfl
    simp only [change, put, Std.ExtTreeMap.getElem?_insert, Std.compare_eq_iff_eq, hid, if_false]
  | getEntity _ => rfl

/-- **Changes that succeed are everywhere.** Once a `SetEntity` of the first core has returned, all
    the services of the chain hold its entity, until there is another call with its id, whatever
    else is called and whatever fails of it. -/
theorem change_everywhere (libs : ChainLibraries) (service : ChainedService)
    (rest : List ChainedService) (entity : Entity) (s : State (service :: rest))
    (hok : ((core libs service rest).setEntity entity s).1 = .ok ()) (later : List Core.Call)
    (hlater : ∀ e, .setEntity e ∈ later → e.id ≠ entity.id) :
    ∀ data ∈ contents (service :: rest)
        ((core libs service rest).run later ((core libs service rest).setEntity entity s).2).2,
      data[entity.id]? = some entity := by
  have hall := (setEntity_reaches libs service rest entity s).2 hok
  generalize ((core libs service rest).setEntity entity s).2 = s' at hall ⊢
  -- The call that returned reached every service
  have hheld : ∀ data ∈ contents (service :: rest) s', data[entity.id]? = some entity := by
    intro data hdata
    have hlength := length_contents (service :: rest) s
    rw [List.length_cons] at hlength
    rw [hall, ← hlength, applyTo_length, List.mem_map] at hdata
    obtain ⟨data', -, rfl⟩ := hdata
    simp [put]
  obtain ⟨reach, -, hcontents⟩ := @run_reaches libs service rest later s'
  rw [hcontents]
  refine applyAll_keeps (fun update hupdate data hdata => ?_) hheld
  obtain ⟨u, hu, rfl⟩ := List.mem_map.mp hupdate
  rw [change_getElem? fun e he => hlater e (he ▸ (List.of_mem_zip hu).1)]
  exact hdata

/-- Libraries for the entity of the usage examples. -/
def testLibraries : ChainLibraries :=
  ⟨Services.documentJson exampleEntity exampleText, Services.testConverter,
    Services.documentJson_readsBack exampleEntity exampleText⟩

/-- A service over an `InMemoryRepo` whose requests all arrive. -/
def upService : ChainedService where
  RepoState := EntityMap
  LinkState := Unit
  repo := inMemoryRepo
  contents := id
  holds := inMemoryRepo_holds
  store_fails := ServiceRequest.testStore.store_fails
  requestHandler := Services.testRequestHandler
  retry := (Services.testServices exampleEntity exampleText).retry
  transmit _ := (.delivered, ())

/-- Two of them, freshly started. -/
def freshTwo : State [upService, upService] :=
  ((∅ : EntityMap), (), ((∅ : EntityMap), (), ()))

/-- What was set at the first one is at both, after more calls. -/
theorem change_everywhere_test :
    ((core testLibraries upService [upService]).setEntity exampleEntity freshTwo).1 = .ok () ∧
    ∀ data ∈ contents [upService, upService] ((core testLibraries upService [upService]).run
        [.getEntity "other", .setEntity ⟨"other", "", 0⟩]
        ((core testLibraries upService [upService]).setEntity exampleEntity freshTwo).2).2,
      data["test"]? = some exampleEntity := by
  have hok : ((core testLibraries upService [upService]).setEntity exampleEntity freshTwo).1 =
      .ok () := rfl
  refine ⟨hok, change_everywhere testLibraries upService [upService] exampleEntity freshTwo hok
    [.getEntity "other", .setEntity ⟨"other", "", 0⟩] fun e he => ?_⟩
  simp only [List.mem_cons, List.not_mem_nil, or_false, reduceCtorEq, false_or,
    Core.Call.setEntity.injEq] at he
  subst he
  decide

end Run

/-! ## How often a change is stored -/

end ServiceChain

/-- A repo that counts the calls of `Store`. -/
def EntityRepo.counted {σ : Type} (repo : EntityRepo σ) : EntityRepo (Nat × σ) where
  store entity s :=
    let r := repo.store entity s.2
    (r.1, (s.1 + 1, r.2))
  retrieve id s :=
    let r := repo.retrieve id s.2
    (r.1, (s.1, r.2))

/-- A service whose repo counts. -/
def ChainedService.counted (self : ChainedService) : ChainedService where
  RepoState := Nat × self.RepoState
  LinkState := self.LinkState
  repo := self.repo.counted
  contents s := self.contents s.2
  holds :=
    { store_ok := fun entity s => self.holds.store_ok entity s.2
      store_any := fun entity s => self.holds.store_any entity s.2
      retrieve_contents := fun id s => self.holds.retrieve_contents id s.2
      retrieve_ok := fun id s => self.holds.retrieve_ok id s.2 }
  store_fails entity s := self.store_fails entity s.2
  requestHandler := self.requestHandler
  retry := self.retry
  transmit := self.transmit

namespace ServiceChain

/-- The services, each with a repo that counts. -/
abbrev counted (services : List ChainedService) : List ChainedService :=
  services.map .counted

/-- What the repo of a service has counted. -/
def stores : (services : List ChainedService) → State (counted services) → Nat → Nat
  | [], _, _ => 0
  | _ :: _, s, 0 => s.1.1
  | _ :: rest, s, i + 1 => stores rest s.2.2 i

/-- As often as the services before one may attempt to notify, together. -/
def attempts (services : List ChainedService) (i : Nat) : Nat :=
  ((services.take i).map fun service => service.retry.maxRetryCount + 1).prod

@[simp] theorem attempts_zero (services : List ChainedService) : attempts services 0 = 1 := rfl

@[simp] theorem attempts_succ (service : ChainedService) (rest : List ChainedService) (i : Nat) :
    attempts (service :: rest) (i + 1) = (service.retry.maxRetryCount + 1) * attempts rest i := by
  simp [attempts]

/-- A server with whose requests the services store no more often than that. -/
def StoresWithin (services : List ChainedService) (serve : Server (State (counted services))) :
    Prop :=
  ∀ target body s i,
    stores services (serve .put target body s).2 i ≤ stores services s i + attempts services i

/-- A notification, with all its attempts. -/
theorem entityChanged_stores {service : ChainedService} {services : List ChainedService}
    {serve : Server (State (counted services))} (h : StoresWithin services serve)
    (b : service.LinkState × State (counted services)) (i : Nat) :
    stores services ((service.counted.httpNotifier libs serve).entityChanged entity b).2.2 i ≤
      stores services b.2 i + (service.retry.maxRetryCount + 1) * attempts services i := by
  apply @RetryHook.process_le (service.LinkState × State (counted services)) service.retry
    ((service.counted.httpNotifier libs serve).attempt entity) (fun b => stores services b.2 i)
  intro b
  unfold HttpNotifier.attempt
  dsimp only [ChainedService.httpNotifier, ChainedService.client]
  cases libs.json.dump (HttpNotifier.toJson entity) with
  | error what => exact Nat.le_add_right _ _
  | ok text =>
    dsimp only
    -- A lost request stores nothing, and a lost response does not undo it
    cases htransmit : service.counted.transmit b.1 with
    | mk transmission link =>
      cases transmission with
      | requestLost error => exact Nat.le_add_right _ _
      | responseLost error => exact h _ _ b.2 i
      | delivered => exact h _ _ b.2 i

/-- A core whose notifier, if it has one, has such a server. -/
theorem setEntity_stores_of {service : ChainedService} {services : List ChainedService}
    {next : Option (Server (State (counted services)))}
    (h : ∀ serve, next = some serve → StoresWithin services serve) (entity : Entity)
    (s : (Nat × service.RepoState) × (service.LinkState × State (counted services))) (i : Nat) :
    stores (service :: services) ((service.counted.core libs next).setEntity entity s).2 i ≤
      stores (service :: services) s i + attempts (service :: services) i := by
  unfold Core.setEntity
  dsimp only [ChainedService.core, ChainedService.counted, EntityRepo.counted]
  by_cases hid : entity.id = ""
  · rw [if_pos hid]
    exact Nat.le_add_right _ _
  rw [if_neg hid]
  cases hstore : service.repo.store entity s.1.2 with
  | mk r repo' =>
    cases r with
    | error e =>
      -- The others are not notified
      cases i with
      | zero => exact Nat.le_refl _
      | succ i => exact Nat.le_add_right _ _
    | ok u =>
      -- This repo was called once; the ones behind it as often as the notification makes them
      cases next with
      | none =>
        cases i with
        | zero => exact Nat.le_refl _
        | succ i => exact Nat.le_add_right _ _
      | some serve =>
        cases i with
        | zero => exact Nat.le_refl _
        | succ i =>
          rw [attempts_succ]
          exact entityChanged_stores (h serve rfl) s.2 i

/-- So has the handler of a chain. -/
theorem serve_stores {service : ChainedService} {services : List ChainedService}
    {next : Option (Server (State (counted services)))}
    (h : ∀ serve, next = some serve → StoresWithin services serve) :
    StoresWithin (service :: services) (service.counted.handler libs next).serve := by
  intro target body
    (s : (Nat × service.RepoState) × (service.LinkState × State (counted services))) i
  rw [(service.counted.handler libs next).serve_eq_plan .put target body s]
  -- The handler makes no call, or one of `SetEntity`
  obtain hsame | ⟨c, hc, hcall⟩ := Plan.run_state
    ((service.counted.handler libs next).plan .put target body) CoreCall.step s
  · rw [hsame]
    exact Nat.le_add_right _ _
  · obtain ⟨entity, rfl⟩ := (service.counted.handler libs next).call_of_put hc
    rw [hcall]
    exact setEntity_stores_of h entity s i

/-- The first service of any chain. -/
theorem serve_storesWithin (services : List ChainedService)
    (server : Server (State (counted services)))
    (hserve : serve libs (counted services) = some server) :
    StoresWithin services server := by
  induction services with
  | nil => cases hserve
  | cons service rest ih =>
    have hhandler : (service.counted.handler libs (serve libs (counted rest))).serve = server :=
      Option.some.inj hserve
    rw [← hhandler]
    exact serve_stores ih

/-- The number of calls of `SetEntity` among some calls. -/
def changes (calls : List Core.Call) : Nat :=
  calls.countP fun
    | .setEntity _ => true
    | .getEntity _ => false

/-- **Retries multiply.** Whatever is called at the first service of a chain, and whatever fails:
    the repo of a service is called to store at most once for each combination of attempts of the
    services before it. -/
theorem stores_le (libs : ChainLibraries) (service : ChainedService) (rest : List ChainedService)
    (calls : List Core.Call) (s : State (counted (service :: rest))) (i : Nat) :
    stores (service :: rest) ((core libs service.counted (counted rest)).run calls s).2 i ≤
      stores (service :: rest) s i + changes calls * attempts (service :: rest) i := by
  induction calls generalizing s with
  | nil => exact Nat.le_add_right _ _
  | cons c cs ih =>
    have hrest := ih ((core libs service.counted (counted rest)).call c s).2
    simp only [Core.run]
    cases c with
    | setEntity entity =>
      have hset : stores (service :: rest)
          ((core libs service.counted (counted rest)).setEntity entity s).2 i ≤ _ :=
        setEntity_stores_of (serve_storesWithin rest) entity s i
      have hchanges : changes (.setEntity entity :: cs) = changes cs + 1 := by simp [changes]
      -- One combination of attempts for each change
      rw [hchanges, Nat.succ_mul]
      simp only [Core.call] at hrest ⊢
      omega
    | getEntity id =>
      have hget : stores (service :: rest)
          ((core libs service.counted (counted rest)).getEntity id s).2 i =
          stores (service :: rest) s i := by
        -- A lookup calls no repo to store
        unfold Core.getEntity
        dsimp only [core, ChainedService.core, ChainedService.counted, EntityRepo.counted]
        split
        · rfl
        · cases i <;> rfl
      have hchanges : changes (.getEntity id :: cs) = changes cs := by simp [changes]
      rw [hchanges]
      simp only [Core.call] at hrest ⊢
      omega

/-! ## A repo that is unavailable -/

/-- The repo of the last service is unavailable, and all before it works. -/
inductive LastUnavailable : List ChainedService → Prop
  | last {service : ChainedService}
      (hstore : ∀ entity s, ∃ e, (service.repo.store entity s).1 = .error e ∧
        (service.requestHandler.handle e).code = .unavailable) :
      LastUnavailable [service]
  | before {service : ChainedService} {rest : List ChainedService}
      (hstore : ∀ entity s, (service.repo.store entity s).1 = .ok ())
      (hlink : ∀ link, (service.transmit link).1 = .delivered)
      (hforward : ∀ status details,
        (service.requestHandler.handle (.errorForwarding status details)).code = status.code)
      (hrest : LastUnavailable rest) : LastUnavailable (service :: rest)

/-- A change that fails with a status, and with which every repo is called as often as can be. -/
def Storms (services : List ChainedService) (s s' : State (counted services)) : Prop :=
  ∀ i < services.length, stores services s' i = stores services s i + attempts services i

/-- A server whose answer to a change says that something is unavailable, after all the attempts. -/
def ServesStorm (libs : ChainLibraries) (entity : Entity) (text : String)
    (services : List ChainedService) (serve : Server (State (counted services))) : Prop :=
  ∀ s, let r := serve .put ("/Entity/" ++ entity.id) text s
    libs.converter.fromHttp r.1.status = .unavailable ∧ Storms services s r.2

section Storm

variable {text : String}

/-- A notification of such a server is repeated as long as it can be. -/
theorem entityChanged_storm {service : ChainedService} {services : List ChainedService}
    {serve : Server (State (counted services))} (h : ServesStorm libs entity text services serve)
    (hdump : libs.json.dump (entityToJson entity) = .ok text)
    (hlink : ∀ link, (service.transmit link).1 = .delivered)
    (b : service.LinkState × State (counted services)) :
    let r := (service.counted.httpNotifier libs serve).entityChanged entity b
    r.1 = .error (.errorForwarding ⟨.unavailable, ""⟩ "") ∧
      ∀ i < services.length, stores services r.2.2 i =
        stores services b.2 i + (service.retry.maxRetryCount + 1) * attempts services i := by
  -- Every attempt gets through and is answered as unavailable
  have hattempt : ∀ b : service.LinkState × State (counted services),
      ((service.counted.httpNotifier libs serve).attempt entity b).1 = .ok ⟨.unavailable, ""⟩ ∧
      Storms services b.2 ((service.counted.httpNotifier libs serve).attempt entity b).2.2 := by
    intro b
    obtain ⟨hstatus, hstores⟩ := h b.2
    unfold HttpNotifier.attempt
    dsimp only [ChainedService.httpNotifier, HttpNotifier.toJson]
    rw [hdump]
    dsimp only [ChainedService.client]
    have hdelivered : (service.counted.transmit b.1).1 = .delivered := hlink b.1
    cases htransmit : service.counted.transmit b.1 with
    | mk transmission link =>
      rw [htransmit] at hdelivered
      dsimp only at hdelivered
      subst hdelivered
      dsimp only
      rw [hstatus]
      exact ⟨rfl, hstores⟩
  -- So every attempt but the last is repeated
  have hretry : ∀ b, service.retry.retries
      ((service.counted.httpNotifier libs serve).attempt entity b).1 = true := by
    intro b
    rw [(hattempt b).1]
    exact service.retry.retriable_unavailable
  constructor
  · -- What is thrown is what the last attempt forwards
    obtain ⟨b', -, hlast⟩ := service.retry.process_eq_attempt
      ((service.counted.httpNotifier libs serve).attempt entity) (I := fun _ => True)
      (fun _ _ => trivial) service.retry.maxRetryCount (s := b) trivial
    have hprocess : (service.counted.httpNotifier libs serve).entityChanged entity b =
        (forwardErrors ((service.counted.httpNotifier libs serve).attempt entity b').1,
          ((service.counted.httpNotifier libs serve).attempt entity b').2) :=
      congrArg (fun r => (forwardErrors r.1, r.2)) hlast
    rw [hprocess, (hattempt b').1]
    rfl
  · intro i hi
    exact @RetryHook.process_exhausted (service.LinkState × State (counted services)) service.retry
      ((service.counted.httpNotifier libs serve).attempt entity) (fun b => stores services b.2 i)
      (attempts services i) hretry (fun b => (hattempt b).2 i hi) service.retry.maxRetryCount b

/-- A core of such a chain. -/
theorem setEntity_storm {service : ChainedService} {rest : List ChainedService}
    (hchain : LastUnavailable (service :: rest))
    (hserve : ∀ server, serve libs (counted rest) = some server →
      LastUnavailable rest → ServesStorm libs entity text rest server)
    (hdump : libs.json.dump (entityToJson entity) = .ok text) (hid : entity.id ≠ "")
    (s : (Nat × service.RepoState) × (service.LinkState × State (counted rest))) :
    let r := (core libs service.counted (counted rest)).setEntity entity s
    (∃ e, r.1 = .error e ∧ (service.requestHandler.handle e).code = .unavailable) ∧
      Storms (service :: rest) s r.2 := by
  unfold Core.setEntity
  dsimp only [core, ChainedService.core, ChainedService.counted, EntityRepo.counted]
  rw [if_neg hid]
  cases hstore : service.repo.store entity s.1.2 with
  | mk r repo' =>
    cases hchain with
    | last hfails =>
      -- The repo itself is unavailable, and there is nothing behind it
      obtain ⟨e, he, hcode⟩ := hfails entity s.1.2
      rw [hstore] at he
      dsimp only at he
      subst he
      refine ⟨⟨e, rfl, hcode⟩, fun i hi => ?_⟩
      have hfirst : i = 0 := Nat.lt_one_iff.mp hi
      subst hfirst
      rfl
    | before hok hlink hforward hrest =>
      -- This repo works, so the service goes on to notify
      have hdone := hok entity s.1.2
      rw [hstore] at hdone
      dsimp only at hdone
      subst hdone
      cases hnext : serve libs (counted rest) with
      | none =>
        -- There is a service whose repo is unavailable
        have hempty := serve_eq_none (counted rest) hnext
        rw [List.map_eq_nil_iff] at hempty
        subst hempty
        cases hrest
      | some server =>
        obtain ⟨hthrown, hstores⟩ :=
          entityChanged_storm (hserve server hnext hrest) hdump hlink s.2
        refine ⟨⟨_, hthrown, hforward _ _⟩, fun i hi => ?_⟩
        cases i with
        | zero => rfl
        | succ i =>
          rw [attempts_succ]
          exact hstores i (Nat.lt_of_succ_lt_succ hi)

/-- The first service of such a chain. -/
theorem serve_storm (hunavailable : libs.converter.fromHttp (libs.converter.toHttp .unavailable) =
      .unavailable)
    (hdump : libs.json.dump (entityToJson entity) = .ok text) (hid : entity.id ≠ "")
    (hplain : PlainId entity.id) (services : List ChainedService)
    (server : Server (State (counted services)))
    (hserve : serve libs (counted services) = some server)
    (hchain : LastUnavailable services) : ServesStorm libs entity text services server := by
  induction services with
  | nil => cases hserve
  | cons service rest ih =>
    have hhandler : (service.counted.handler libs (serve libs (counted rest))).serve = server :=
      Option.some.inj hserve
    rw [← hhandler]
    intro (s : (Nat × service.RepoState) × (service.LinkState × State (counted rest)))
    obtain ⟨⟨e, he, hcode⟩, hstores⟩ := setEntity_storm hchain ih hdump hid s
    dsimp only
    -- The handler answers with the code of what was thrown
    rw [(service.counted.handler libs _).serve_plain (libs.readsBack entity text hdump) hplain s]
    refine ⟨?_, hstores⟩
    rw [HttpHandler.finish_status]
    have hres :
        ((service.counted.handler libs (serve libs (counted rest))).api.setEntity entity s).1 =
        .error e := he
    rw [hres]
    show libs.converter.fromHttp (libs.converter.toHttp (service.requestHandler.handle e).code) = _
    rw [hcode, hunavailable]

/-- **One outage, all the attempts.** If the repo of the last service of a chain is unavailable and
    all before it works, then one change that is made at the first service calls every repo as
    often as that: the attempts of the services multiply. -/
theorem stores_storm (libs : ChainLibraries) (service : ChainedService) (rest : List ChainedService)
    (hchain : LastUnavailable (service :: rest))
    (hunavailable : libs.converter.fromHttp (libs.converter.toHttp .unavailable) = .unavailable)
    (entity : Entity) (text : String) (hdump : libs.json.dump (entityToJson entity) = .ok text)
    (hid : entity.id ≠ "") (hplain : PlainId entity.id) (s : State (counted (service :: rest)))
    (i : Nat) (hi : i ≤ rest.length) :
    stores (service :: rest) ((core libs service.counted (counted rest)).setEntity entity s).2 i =
      stores (service :: rest) s i + attempts (service :: rest) i :=
  (setEntity_storm hchain (serve_storm hunavailable hdump hid hplain rest) hdump hid s).2 i
    (Nat.lt_succ_of_le hi)

/-- A repo that is unavailable. -/
def downRepo : EntityRepo EntityMap where
  store _ data := (.error (.errorForwarding ⟨.unavailable, "no connection"⟩ "no connection"), data)
  retrieve _ data :=
    (.error (.errorForwarding ⟨.unavailable, "no connection"⟩ "no connection"), data)

/-- A service over such a repo. -/
def downService : ChainedService where
  RepoState := EntityMap
  LinkState := Unit
  repo := downRepo
  contents := id
  holds :=
    { store_ok := fun _ _ h => by cases h
      store_any := fun _ _ => .inl rfl
      retrieve_contents := fun _ _ => rfl
      retrieve_ok := fun _ _ _ h => by cases h }
  store_fails _ _ _ _ h := by
    cases h
    decide
  requestHandler := Services.testRequestHandler
  retry := (Services.testServices exampleEntity exampleText).retry
  transmit _ := (.delivered, ())

/-- Three services that count, freshly started. -/
def freshThree : State (counted [upService, upService, downService]) :=
  ((0, (∅ : EntityMap)), (), ((0, (∅ : EntityMap)), (), ((0, (∅ : EntityMap)), (), ())))

/-- With three retries each, the last repo is called sixteen times. -/
theorem stores_storm_test :
    LastUnavailable [upService, upService, downService] ∧
    stores [upService, upService, downService]
      ((core testLibraries upService.counted (counted [upService, downService])).setEntity
        exampleEntity freshThree).2 2 = 0 + 4 * (4 * 1) := by
  have hup : ∀ rest, LastUnavailable rest → LastUnavailable (upService :: rest) :=
    fun rest => .before (fun _ _ => rfl) (fun _ => rfl) (fun _ _ => rfl)
  have hchain : LastUnavailable [upService, upService, downService] :=
    hup _ (hup _ (.last fun _ _ => ⟨_, rfl, rfl⟩))
  exact ⟨hchain, stores_storm testLibraries upService [upService, downService] hchain rfl
    exampleEntity exampleText (by decide) (by decide) (by decide) freshThree 2 (by decide)⟩

end Storm

end ServiceChain

end SapperBricks
