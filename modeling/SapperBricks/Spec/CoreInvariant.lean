import SapperBricks.ForStd.Latest
import SapperBricks.Native.Repos

/-!
# Runs of the core

A run is any sequence of calls of `SetEntity` and `GetEntity`, whatever each of them
returns or throws. This file has the simulation principle for such runs, between cores over
two repos, and the invariant of a core over `InMemoryRepo`.

## Key results

- `run_simulation`, `call_simulation`: a core over a repo that simulates another gives the
  same results
- `core_run_invariant`: contents, lookups, rejected calls and notifications of every run
-/

namespace SapperBricks

open Keyed

variable {σ σ' ν ν' : Type}

namespace Core

/-! ## Runs -/

/-- When every call keeps a relation between the states of two cores and gives the same
    result on related states, every run does. -/
theorem run_simulation {core : Core σ ν} {core' : Core σ' ν'} {R : σ × ν → σ' × ν' → Prop}
    (callOk : Call → Prop)
    (hcall : ∀ c s s', callOk c → R s s' →
      (core.call c s).1 = (core'.call c s').1 ∧ R (core.call c s).2 (core'.call c s').2)
    {calls : List Call} (hcalls : ∀ c ∈ calls, callOk c) {s : σ × ν} {s' : σ' × ν'}
    (hR : R s s') :
    (core.run calls s).1 = (core'.run calls s').1 ∧
    R (core.run calls s).2 (core'.run calls s').2 := by
  induction calls generalizing s s' with
  | nil => exact ⟨rfl, hR⟩
  | cons c cs ih =>
    -- The first call leads to related states, from which the rest goes on
    obtain ⟨hres, hR'⟩ := hcall c s s' (hcalls c List.mem_cons_self) hR
    obtain ⟨hress, hR''⟩ := ih (fun d hd => hcalls d (List.mem_cons_of_mem c hd)) hR'
    simp only [run]
    exact ⟨by rw [hres, hress], hR''⟩

/-- The entities a sequence of calls gets past validation, in order. -/
def accepted (calls : List Call) : List Entity :=
  calls.filterMap fun
    | .setEntity entity => if entity.id = "" then none else some entity
    | .getEntity _ => none

/-- Those of the first call come first. -/
theorem accepted_cons (c : Call) (cs : List Call) :
    accepted (c :: cs) = accepted [c] ++ accepted cs :=
  @List.filterMap_append _ _ [c] cs _

end Core

/-- After a run of a core over `InMemoryRepo` every id has the entity of the last accepted
    call with it, whatever the notifier does. -/
theorem Core.inMemory_contents (notifier : Option (EntityNotifier ν)) (calls : List Core.Call)
    {s : EntityMap × ν} {writes : List Entity} (h : IsLatest Entity.id s.1 writes) :
    IsLatest Entity.id ((Core.mk (some inMemoryRepo) notifier).run calls s).2.1
      (writes ++ Core.accepted calls) := by
  induction calls generalizing s writes with
  | nil => simpa [Core.accepted, Core.run] using h
  | cons c cs ih =>
    -- Only an accepted call of `SetEntity` changes the map
    have hc : IsLatest Entity.id ((Core.mk (some inMemoryRepo) notifier).call c s).2.1
        (writes ++ Core.accepted [c]) := by
      cases c with
      | setEntity entity =>
        by_cases hid : entity.id = ""
        · simpa [Core.call, Core.setEntity, Core.accepted, hid] using h
        · cases notifier <;>
            simpa [Core.call, Core.setEntity, Core.accepted, hid, inMemoryRepo,
              InMemoryRepo.store] using h.insert entity
      | getEntity id =>
        by_cases hid : id = ""
        · simpa [Core.call, Core.getEntity, Core.accepted, hid] using h
        · cases hget : s.1[id]? <;>
            simpa [Core.call, Core.getEntity, Core.accepted, hid, inMemoryRepo,
              InMemoryRepo.retrieve, hget] using h
    have hcs := ih hc
    rw [List.append_assoc, ← Core.accepted_cons c cs] at hcs
    exact hcs

/-! ## Simulations -/

/-- A repo simulates another: on related states, their functions return or throw the same
    and leave related states, for entities and ids that satisfy a condition. -/
structure EntityRepo.Simulates (repo : EntityRepo σ) (repo' : EntityRepo σ') (R : σ → σ' → Prop)
    (entityOk : Entity → Prop) (idOk : String → Prop) : Prop where
  store : ∀ entity s s', entityOk entity → R s s' →
    (repo.store entity s).1 = (repo'.store entity s').1 ∧
    R (repo.store entity s).2 (repo'.store entity s').2
  retrieve : ∀ id s s', idOk id → R s s' →
    (repo.retrieve id s).1 = (repo'.retrieve id s').1 ∧
    R (repo.retrieve id s).2 (repo'.retrieve id s').2

namespace Core

/-- A call with an entity or an id that satisfies the condition. -/
def Call.Ok (entityOk : Entity → Prop) (idOk : String → Prop) : Call → Prop
  | .setEntity entity => entityOk entity
  | .getEntity id => idOk id

/-- One call of two cores with the same notifier, over repos of which one simulates the
    other. -/
theorem call_simulation {repo : EntityRepo σ} {repo' : EntityRepo σ'} {R : σ → σ' → Prop}
    {entityOk : Entity → Prop} {idOk : String → Prop} (h : repo.Simulates repo' R entityOk idOk)
    (notifier : Option (EntityNotifier ν)) (c : Call) (s : σ × ν) (s' : σ' × ν)
    (hc : c.Ok entityOk idOk) (hR : R s.1 s'.1 ∧ s.2 = s'.2) :
    ((Core.mk (some repo) notifier).call c s).1 = ((Core.mk (some repo') notifier).call c s').1 ∧
    R ((Core.mk (some repo) notifier).call c s).2.1
      ((Core.mk (some repo') notifier).call c s').2.1 ∧
    ((Core.mk (some repo) notifier).call c s).2.2 =
      ((Core.mk (some repo') notifier).call c s').2.2 := by
  obtain ⟨s, n⟩ := s
  obtain ⟨s', n'⟩ := s'
  obtain ⟨hR, hn⟩ := hR
  dsimp only at hR hn
  subst hn
  cases c with
  | setEntity entity =>
    obtain ⟨hres, hstate⟩ := h.store entity s s' hc hR
    by_cases hid : entity.id = ""
    · simp only [call, setEntity, hid, if_true]
      exact ⟨trivial, hR, trivial⟩
    -- Both repos return or throw the same, so both cores go on or not
    cases hx : repo.store entity s with
    | mk r t =>
      cases hx' : repo'.store entity s' with
      | mk r' t' =>
        rw [hx, hx'] at hres hstate
        dsimp only at hres hstate
        subst hres
        simp only [call, setEntity, hid, if_false, hx, hx']
        cases r with
        | error e => exact ⟨rfl, hstate, rfl⟩
        | ok u =>
          -- The notifier, if there is one, is handed the same entity in the same state
          cases notifier <;> exact ⟨rfl, hstate, rfl⟩
  | getEntity id =>
    obtain ⟨hres, hstate⟩ := h.retrieve id s s' hc hR
    by_cases hid : id = ""
    · simp only [call, getEntity, hid, if_true]
      exact ⟨trivial, hR, trivial⟩
    · simp only [call, getEntity, hid, if_false]
      exact ⟨congrArg Result.got hres, hstate, trivial⟩

end Core

/-! ## Repos that hold a map -/

/-- A repo holds entities under ids: a `Store` that returns normally has put its entity under
    the id, one that throws may have; a `Retrieve` changes nothing, and what it returns is
    what is held under the id. -/
structure EntityRepo.Holds (repo : EntityRepo σ) (contents : σ → EntityMap) : Prop where
  store_ok : ∀ entity s, (repo.store entity s).1 = .ok () →
    contents (repo.store entity s).2 = (contents s).insert entity.id entity
  store_any : ∀ entity s, contents (repo.store entity s).2 = contents s ∨
    contents (repo.store entity s).2 = (contents s).insert entity.id entity
  retrieve_contents : ∀ id s, contents (repo.retrieve id s).2 = contents s
  retrieve_ok : ∀ id s result, (repo.retrieve id s).1 = .ok result → result = (contents s)[id]?

/-- `InMemoryRepo` holds its map. -/
theorem inMemoryRepo_holds : inMemoryRepo.Holds id where
  store_ok _ _ _ := rfl
  store_any _ _ := .inr rfl
  retrieve_contents id data := by
    simp only [inMemoryRepo, InMemoryRepo.retrieve]
    cases data[id]? <;> rfl
  retrieve_ok id data result h := by
    simp only [inMemoryRepo, InMemoryRepo.retrieve] at h
    cases hget : data[id]? <;> rw [hget] at h <;> cases h <;> exact hget.symm

namespace Core

variable {core : Core σ ν} {repo : EntityRepo σ} {contents : σ → EntityMap}

/-- Everything `SetEntity` can do to the repo: nothing, or what `Store` does. -/
theorem setEntity_cases (hrepo : core.repo = some repo) (entity : Entity) (s : σ × ν) :
    (entity.id = "" ∧ core.setEntity entity s = (.error (.invalidArgument "invalid id"), s)) ∨
    (entity.id ≠ "" ∧ (∃ e, (repo.store entity s.1).1 = .error e ∧
      core.setEntity entity s = (.error e, ((repo.store entity s.1).2, s.2)))) ∨
    (entity.id ≠ "" ∧ (repo.store entity s.1).1 = .ok () ∧
      (core.setEntity entity s).2.1 = (repo.store entity s.1).2) := by
  unfold setEntity
  rw [hrepo]
  dsimp only
  -- An empty id ends the call before the repo is called
  by_cases hid : entity.id = ""
  · rw [if_pos hid]
    exact .inl ⟨hid, rfl⟩
  · rw [if_neg hid]
    right
    cases hstore : repo.store entity s.1 with
    | mk r t =>
      cases r with
      | error e => exact .inl ⟨hid, e, rfl, rfl⟩
      | ok u =>
        right
        refine ⟨hid, rfl, ?_⟩
        cases core.notifier <;> rfl

/-- What `SetEntity` leaves in the repo. -/
theorem setEntity_contents (hrepo : core.repo = some repo) (h : repo.Holds contents)
    (entity : Entity) (s : σ × ν) :
    contents (core.setEntity entity s).2.1 = contents s.1 ∨
    contents (core.setEntity entity s).2.1 = (contents s.1).insert entity.id entity := by
  obtain ⟨-, heq⟩ | ⟨-, e, -, heq⟩ | ⟨-, -, heq⟩ := setEntity_cases hrepo entity s
  · rw [heq]
    exact .inl rfl
  · rw [heq]
    exact h.store_any entity s.1
  · rw [heq]
    exact h.store_any entity s.1

/-- A `SetEntity` that returns normally has stored its entity. -/
theorem setEntity_stored (hrepo : core.repo = some repo) (h : repo.Holds contents)
    {entity : Entity} {s : σ × ν} (hok : (core.setEntity entity s).1 = .ok ()) :
    contents (core.setEntity entity s).2.1 = (contents s.1).insert entity.id entity := by
  obtain ⟨-, heq⟩ | ⟨-, e, -, heq⟩ | ⟨-, hstore, heq⟩ := setEntity_cases hrepo entity s
  · rw [heq] at hok
    exact nomatch hok
  · rw [heq] at hok
    exact nomatch hok
  · rw [heq]
    exact h.store_ok entity s.1 hstore

/-- What `GetEntity` leaves and says. -/
theorem getEntity_spec (hrepo : core.repo = some repo) (h : repo.Holds contents) (id : String)
    (s : σ × ν) :
    contents (core.getEntity id s).2.1 = contents s.1 ∧ (core.getEntity id s).2.2 = s.2 ∧
    ∀ result, (core.getEntity id s).1 = .ok result → result = (contents s.1)[id]? := by
  unfold getEntity
  rw [hrepo]
  dsimp only
  by_cases hid : id = ""
  · rw [if_pos hid]
    exact ⟨rfl, rfl, nofun⟩
  · rw [if_neg hid]
    exact ⟨h.retrieve_contents id s.1, rfl, h.retrieve_ok id s.1⟩

end Core

/-! ## Logs -/

/-- A repo that writes down the entities it stored. -/
def EntityRepo.logged (repo : EntityRepo σ) : EntityRepo (List Entity × σ) where
  store entity s :=
    let r := repo.store entity s.2
    (r.1, (if r.1.isOk then s.1 ++ [entity] else s.1, r.2))
  retrieve id s :=
    let r := repo.retrieve id s.2
    (r.1, (s.1, r.2))

/-- A notifier that writes down the entities it is handed, whatever becomes of them. -/
def EntityNotifier.logged (notifier : EntityNotifier ν) : EntityNotifier (List Entity × ν) where
  entityChanged entity n :=
    let r := notifier.entityChanged entity n.2
    (r.1, (n.1 ++ [entity], r.2))

/-- A core over `InMemoryRepo` with both logs. -/
def loggedCore (notifier : EntityNotifier ν) : Core (List Entity × EntityMap) (List Entity × ν) :=
  ⟨some inMemoryRepo.logged, some notifier.logged⟩

/-! ## The core over a fresh `InMemoryRepo` -/

/-- What holds of a core over `InMemoryRepo` after some calls, in the state with both logs
    they led to. -/
structure RunInvariant (notifier : EntityNotifier ν) (calls : List Core.Call)
    (s : (List Entity × EntityMap) × (List Entity × ν)) : Prop where
  /-- every stored entry is under its own non-empty id -/
  keyed : ∀ id entity, s.1.2[id]? = some entity → entity.id = id ∧ id ≠ ""
  /-- a lookup returns the entity of the last accepted call with the id, and changes
      nothing -/
  lookup : ∀ id, id ≠ "" → (loggedCore notifier).getEntity id s =
    (.ok (latest Entity.id id (Core.accepted calls)), s)
  /-- a call with an empty id throws and changes nothing -/
  rejectsSet : ∀ entity, entity.id = "" → (loggedCore notifier).setEntity entity s =
    (.error (.invalidArgument "invalid id"), s)
  rejectsGet : (loggedCore notifier).getEntity "" s = (.error (.invalidArgument "invalid id"), s)
  /-- the notifier was handed the stored entities in the order in which they were stored -/
  notified : s.2.1 = s.1.1
  /-- the stored entities are those of the accepted calls -/
  stored : s.1.1 = Core.accepted calls

/-- The relation between the logs and the contents of the repo that every call keeps. -/
structure LogInvariant (s : (List Entity × EntityMap) × (List Entity × ν)) : Prop where
  contents : IsLatest Entity.id s.1.2 s.1.1
  nonempty : ∀ entity ∈ s.1.1, entity.id ≠ ""
  notified : s.2.1 = s.1.1

/-- The state after a call of `SetEntity` with a non-empty id. -/
theorem loggedCore_setEntity {notifier : EntityNotifier ν} {entity : Entity}
    (hid : entity.id ≠ "") (s : (List Entity × EntityMap) × (List Entity × ν)) :
    ((loggedCore notifier).setEntity entity s).2 =
      ((s.1.1 ++ [entity], s.1.2.insert entity.id entity),
        (s.2.1 ++ [entity], (notifier.entityChanged entity s.2.2).2)) := by
  simp [loggedCore, Core.setEntity, hid, EntityRepo.logged, inMemoryRepo, InMemoryRepo.store,
    EntityNotifier.logged, Except.isOk, Except.toBool]

/-- A call of `SetEntity` with an empty id. -/
theorem loggedCore_setEntity_empty {notifier : EntityNotifier ν} {entity : Entity}
    (hid : entity.id = "") (s : (List Entity × EntityMap) × (List Entity × ν)) :
    (loggedCore notifier).setEntity entity s = (.error (.invalidArgument "invalid id"), s) := by
  simp [loggedCore, Core.setEntity, hid]

/-- A call of `GetEntity` with a non-empty id. -/
theorem loggedCore_getEntity {notifier : EntityNotifier ν} {id : String} (hid : id ≠ "")
    (s : (List Entity × EntityMap) × (List Entity × ν)) :
    (loggedCore notifier).getEntity id s = (.ok s.1.2[id]?, s) := by
  cases h : s.1.2[id]? <;>
    simp [loggedCore, Core.getEntity, hid, EntityRepo.logged, inMemoryRepo,
      InMemoryRepo.retrieve, h]

/-- A call of `GetEntity` with an empty id. -/
theorem loggedCore_getEntity_empty {notifier : EntityNotifier ν}
    (s : (List Entity × EntityMap) × (List Entity × ν)) :
    (loggedCore notifier).getEntity "" s = (.error (.invalidArgument "invalid id"), s) := by
  simp [loggedCore, Core.getEntity]

/-- Writing down changes no result, and the rest of the state is that of the core without
    logs. -/
theorem loggedCore_results (notifier : EntityNotifier ν) (calls : List Core.Call)
    (s : (List Entity × EntityMap) × (List Entity × ν)) :
    ((loggedCore notifier).run calls s).1 =
      ((Core.mk (some inMemoryRepo) (some notifier)).run calls (s.1.2, s.2.2)).1 := by
  apply (Core.run_simulation (R := fun s s' => s' = (s.1.2, s.2.2)) (fun _ => True) _
    (fun _ _ => trivial) rfl).1
  -- The logs are beside the state, and nothing reads them
  rintro c s _ - rfl
  cases c with
  | setEntity entity => by_cases hid : entity.id = "" <;>
      simp [Core.call, Core.setEntity, loggedCore, hid, EntityRepo.logged, inMemoryRepo,
        InMemoryRepo.store, EntityNotifier.logged]
  | getEntity id => by_cases hid : id = "" <;>
      simp [Core.call, Core.getEntity, loggedCore, hid, EntityRepo.logged, inMemoryRepo,
        InMemoryRepo.retrieve]

/-- Every call keeps the relation, and its entity is stored exactly if it is accepted. -/
theorem LogInvariant.call (notifier : EntityNotifier ν)
    {s : (List Entity × EntityMap) × (List Entity × ν)} (h : LogInvariant s) (c : Core.Call) :
    LogInvariant ((loggedCore notifier).call c s).2 ∧
    ((loggedCore notifier).call c s).2.1.1 = s.1.1 ++ Core.accepted [c] := by
  cases c with
  | setEntity entity =>
    simp only [Core.call]
    by_cases hid : entity.id = ""
    · rw [loggedCore_setEntity_empty hid]
      exact ⟨h, by simp [Core.accepted, hid]⟩
    · -- Both logs and the map get the entity
      rw [loggedCore_setEntity hid]
      have hnonempty : ∀ e ∈ s.1.1 ++ [entity], e.id ≠ "" := by
        intro e he
        rw [List.mem_append, List.mem_singleton] at he
        obtain he | rfl := he
        · exact h.nonempty e he
        · exact hid
      exact ⟨⟨h.contents.insert entity, hnonempty, by rw [h.notified]⟩, by simp [Core.accepted, hid]⟩
  | getEntity id =>
    simp only [Core.call]
    by_cases hid : id = ""
    · subst hid
      rw [loggedCore_getEntity_empty]
      exact ⟨h, by simp [Core.accepted]⟩
    · rw [loggedCore_getEntity hid]
      exact ⟨h, by simp [Core.accepted]⟩

/-- After a run the relation still holds, and the accepted entities were stored. -/
theorem LogInvariant.run (notifier : EntityNotifier ν) (calls : List Core.Call)
    {s : (List Entity × EntityMap) × (List Entity × ν)} (h : LogInvariant s) :
    LogInvariant ((loggedCore notifier).run calls s).2 ∧
    ((loggedCore notifier).run calls s).2.1.1 = s.1.1 ++ Core.accepted calls := by
  induction calls generalizing s with
  | nil => exact ⟨h, (List.append_nil _).symm⟩
  | cons c cs ih =>
    obtain ⟨hc, hlog⟩ := h.call notifier c
    obtain ⟨hcs, hlogs⟩ := ih hc
    simp only [Core.run]
    apply And.intro hcs
    rw [hlogs, hlog, Core.accepted_cons c cs, List.append_assoc]

/-- **Every run of the core.** After any sequence of calls of a core over a fresh
    `InMemoryRepo`, with a notifier each of whose calls may return or throw, every stored
    entry is under its own non-empty id, a lookup returns the entity of the last accepted
    call with its id and changes nothing, a call with an empty id throws and changes
    nothing, and the notifier was handed exactly the stored entities, in their order. -/
theorem core_run_invariant (notifier : EntityNotifier ν) (n : ν) (calls : List Core.Call) :
    RunInvariant notifier calls ((loggedCore notifier).run calls (([], ∅), ([], n))).2 := by
  have hfresh : LogInvariant (([], ∅), (([] : List Entity), n)) :=
    ⟨isLatest_empty, nofun, rfl⟩
  obtain ⟨hinv, hstored⟩ := hfresh.run notifier calls
  rw [List.nil_append] at hstored
  constructor
  · -- What is held was stored last under its id
    intro id entity hget
    obtain ⟨hmem, hkey⟩ := hinv.contents.key_eq hget
    exact ⟨hkey, hkey ▸ hinv.nonempty entity hmem⟩
  · intro id hid
    rw [loggedCore_getEntity hid, hinv.contents id, hstored]
  · intro entity hid
    exact loggedCore_setEntity_empty hid _
  · exact loggedCore_getEntity_empty _
  · exact hinv.notified
  · exact hstored

end SapperBricks
