import SapperBricks.Spec.CoreInvariant

/-!
# Failures of `SetEntity`

`SetEntity` stores an entity and then notifies. Either step may throw, and nothing is taken
back: an entity whose notification failed stays in the repo. This file says how far a change
gets in each case, and what that makes of a run in which some calls fail.

## Key results

- `setEntity_recorded`: the outcomes of one call, with what is written down of it
- `run_stages`: a run as a sequence of changes of the contents and of the records
- `setEntity_effects`: both, for any repo that holds a map and any notifier
-/

namespace SapperBricks

variable {σ ν : Type}

/-! ## Records of notifications -/

/-- The entities a notifier was handed, and whether it returned normally: then the entity has
    been delivered. -/
abbrev Notifications := List (Entity × Bool)

/-- A notifier that writes down both. -/
def EntityNotifier.recorded (notifier : EntityNotifier ν) :
    EntityNotifier (Notifications × ν) where
  entityChanged entity n :=
    let r := notifier.entityChanged entity n.2
    (r.1, (n.1 ++ [(entity, r.1.isOk)], r.2))

/-- A core whose notifier does so. -/
def Core.recorded (core : Core σ ν) : Core σ (Notifications × ν) :=
  ⟨core.repo, core.notifier.map EntityNotifier.recorded⟩

/-- What is written down of an entity that was stored; nothing if there is no notifier. -/
def Core.record (core : Core σ ν) (entity : Entity) (result : Except Exn Unit) : Notifications :=
  core.notifier.toList.map fun _ => (entity, result.isOk)

/-! ## How far a change gets -/

/-- How far `SetEntity` gets with an entity. -/
inductive Stage where
  /-- nothing happened -/
  | refused
  /-- `Store` threw, but the repo has the entity -/
  | leftBehind
  /-- the repo has the entity, and `EntityChanged` threw -/
  | stored
  /-- the repo has the entity, and it was delivered -/
  | delivered
deriving DecidableEq, Repr

/-- What that makes of the contents of the repo and of the records. -/
def Stage.apply (entity : Entity) (s : EntityMap × Notifications) :
    Stage → EntityMap × Notifications
  | refused => s
  | leftBehind => (s.1.insert entity.id entity, s.2)
  | stored => (s.1.insert entity.id entity, s.2 ++ [(entity, false)])
  | delivered => (s.1.insert entity.id entity, s.2 ++ [(entity, true)])

/-- The same for changes one after the other. -/
def applyAll (changes : List (Entity × Stage)) (s : EntityMap × Notifications) :
    EntityMap × Notifications :=
  changes.foldl (fun s change => change.2.apply change.1 s) s

namespace Core

/-- The calls of `SetEntity` in a run, with what they returned or threw. -/
def attempts : List Call → List Result → List (Entity × Except Exn Unit)
  | .setEntity entity :: calls, .set result :: results => (entity, result) :: attempts calls results
  | _ :: calls, _ :: results => attempts calls results
  | _, _ => []

variable {core : Core σ ν} {repo : EntityRepo σ} {contents : σ → EntityMap}

/-- Writing down what is notified changes no result. -/
theorem recorded_results (core : Core σ ν) (calls : List Call) (s : σ × (Notifications × ν)) :
    (core.recorded.run calls s).1 = (core.run calls (s.1, s.2.2)).1 := by
  -- The states differ by what is written down, which no call reads
  apply (run_simulation (R := fun s s' => s' = (s.1, s.2.2)) (fun _ => True) _
    (fun _ _ => trivial) rfl).1
  rintro c s _ - rfl
  obtain ⟨repo, notifier⟩ := core
  cases repo with
  | none => cases c <;> simp [call, setEntity, getEntity, recorded]
  | some repo =>
    cases c with
    | getEntity id => by_cases hid : id = "" <;> simp [call, getEntity, recorded, hid]
    | setEntity entity =>
      by_cases hid : entity.id = ""
      · simp [call, setEntity, recorded, hid]
      · rcases hstore : repo.store entity s.1 with ⟨_ | _, _⟩ <;> cases notifier <;>
          simp [call, setEntity, recorded, hid, hstore, EntityNotifier.recorded]

/-! ## One call -/

/-- The outcomes of a call: no id, a `Store` that throws, or the outcome of `EntityChanged`,
    which is written down. -/
theorem setEntity_recorded (hrepo : core.repo = some repo) (entity : Entity)
    (s : σ × (Notifications × ν)) :
    (entity.id = "" ∧
      core.recorded.setEntity entity s = (.error (.invalidArgument "invalid id"), s)) ∨
    (entity.id ≠ "" ∧ ∃ e, (repo.store entity s.1).1 = .error e ∧
      core.recorded.setEntity entity s = (.error e, ((repo.store entity s.1).2, s.2))) ∨
    (entity.id ≠ "" ∧ (repo.store entity s.1).1 = .ok () ∧
      (core.recorded.setEntity entity s).2.1 = (repo.store entity s.1).2 ∧
      (core.recorded.setEntity entity s).2.2.1 =
        s.2.1 ++ core.record entity (core.recorded.setEntity entity s).1 ∧
      (core.notifier = none → (core.recorded.setEntity entity s).1 = .ok ())) := by
  have hrepo' : core.recorded.repo = some repo := hrepo
  obtain ⟨hid, heq⟩ | ⟨hid, e, hstore, heq⟩ | ⟨hid, hstore, heq⟩ :=
    setEntity_cases hrepo' entity s
  · exact .inl ⟨hid, heq⟩
  · exact .inr (.inl ⟨hid, e, hstore, heq⟩)
  · refine .inr (.inr ⟨hid, hstore, heq, ?_⟩)
    have hpair : repo.store entity s.1 = (.ok (), (repo.store entity s.1).2) :=
      Prod.ext hstore rfl
    unfold setEntity record
    rw [hrepo']
    dsimp only
    rw [if_neg hid, hpair]
    -- Without a notifier nothing is written down and nothing can throw
    cases hnotifier : core.notifier with
    | none => simp [recorded, hnotifier]
    | some notifier => simp [recorded, hnotifier, EntityNotifier.recorded]

/-- What one call of `SetEntity` does, whatever it returns or throws. -/
structure SetEntityEffects (core : Core σ ν) (repo : EntityRepo σ) (contents : σ → EntityMap)
    (entity : Entity) (s : σ × (Notifications × ν)) : Prop where
  /-- an entity without an id is refused: nothing happens -/
  refused : entity.id = "" →
    core.recorded.setEntity entity s = (.error (.invalidArgument "invalid id"), s)
  /-- when `Store` throws, nobody is notified, and the repo is as `Store` left it -/
  notStored : ∀ e, entity.id ≠ "" → (repo.store entity s.1).1 = .error e →
    core.recorded.setEntity entity s = (.error e, ((repo.store entity s.1).2, s.2))
  /-- when `Store` returns, the entity stays in the repo and is handed to `EntityChanged`
      once, whatever that does -/
  stored : entity.id ≠ "" → (repo.store entity s.1).1 = .ok () →
    contents (core.recorded.setEntity entity s).2.1 = (contents s.1).insert entity.id entity ∧
    (core.recorded.setEntity entity s).2.2.1 =
      s.2.1 ++ core.record entity (core.recorded.setEntity entity s).1 ∧
    (core.notifier = none → (core.recorded.setEntity entity s).1 = .ok ())
  /-- a call that returns has stored the entity, and delivered it once -/
  returned : (core.recorded.setEntity entity s).1 = .ok () →
    contents (core.recorded.setEntity entity s).2.1 = (contents s.1).insert entity.id entity ∧
    (core.recorded.setEntity entity s).2.2.1 = s.2.1 ++ core.record entity (.ok ())

/-- Every call of a core whose repo holds a map has these effects. -/
theorem setEntityEffects (hrepo : core.repo = some repo) (h : repo.Holds contents)
    (entity : Entity) (s : σ × (Notifications × ν)) :
    core.SetEntityEffects repo contents entity s := by
  have hrepo' : core.recorded.repo = some repo := hrepo
  have hcases := setEntity_recorded hrepo entity s
  constructor
  · intro hid
    obtain ⟨-, heq⟩ | ⟨hne, -⟩ | ⟨hne, -⟩ := hcases
    · exact heq
    · exact absurd hid hne
    · exact absurd hid hne
  · intro e hid hstore
    obtain ⟨hempty, -⟩ | ⟨-, e', hstore', heq⟩ | ⟨-, hstore', -⟩ := hcases
    · exact absurd hempty hid
    · -- The exception of `Store` is the one that is thrown
      rw [hstore, Except.error.injEq] at hstore'
      rw [heq, hstore']
    · rw [hstore] at hstore'
      cases hstore'
  · intro hid hstore
    obtain ⟨hempty, -⟩ | ⟨-, e', hstore', -⟩ | ⟨-, -, hstate, hlog, hnone⟩ := hcases
    · exact absurd hempty hid
    · rw [hstore] at hstore'
      cases hstore'
    · rw [hstate]
      exact ⟨h.store_ok entity s.1 hstore, hlog, hnone⟩
  · intro hok
    apply And.intro (setEntity_stored hrepo' h hok)
    obtain ⟨-, heq⟩ | ⟨-, e', -, heq⟩ | ⟨-, -, -, hlog, -⟩ := hcases
    · rw [heq] at hok
      cases hok
    · rw [heq] at hok
      cases hok
    · rw [hlog, hok]

/-! ## Runs -/

/-- The contents of the repo and the records. -/
def view (contents : σ → EntityMap) (s : σ × (Notifications × ν)) : EntityMap × Notifications :=
  (contents s.1, s.2.1)

/-- A `Store` that throws has no effect. -/
def StoresAtomically (repo : EntityRepo σ) (contents : σ → EntityMap) : Prop :=
  ∀ entity s e, (repo.store entity s).1 = .error e → contents (repo.store entity s).2 = contents s

/-- How far a call gets is consistent with its entity and its result. -/
structure Fits (repo : EntityRepo σ) (contents : σ → EntityMap)
    (attempt : Entity × Except Exn Unit) (stage : Stage) : Prop where
  /-- a call returns normally exactly if its entity was delivered -/
  returned : attempt.2 = .ok () ↔ stage = .delivered
  refused : attempt.1.id = "" → stage = .refused
  leftBehind : StoresAtomically repo contents → stage ≠ .leftBehind

/-- A run changes the contents and the records as far as each of its calls of `SetEntity`
    gets. -/
def RunsInStages (core : Core σ ν) (repo : EntityRepo σ) (contents : σ → EntityMap)
    (calls : List Call) (s : σ × (Notifications × ν)) : Prop :=
  ∃ stages : List Stage,
    List.Forall₂ (Fits repo contents) (attempts calls (core.recorded.run calls s).1) stages ∧
    view contents (core.recorded.run calls s).2 =
      applyAll (((attempts calls (core.recorded.run calls s).1).map Prod.fst).zip stages)
        (view contents s)

/-- One call is a change of the view. -/
theorem setEntity_stage (hrepo : core.repo = some repo) (h : repo.Holds contents)
    (hnotifier : core.notifier.isSome = true) (entity : Entity) (s : σ × (Notifications × ν)) :
    ∃ stage : Stage,
      Fits repo contents (entity, (core.recorded.setEntity entity s).1) stage ∧
      view contents (core.recorded.setEntity entity s).2 =
        stage.apply entity (view contents s) := by
  obtain ⟨notifier, hsome⟩ := Option.isSome_iff_exists.mp hnotifier
  obtain ⟨hid, heq⟩ | ⟨hid, e, hstore, heq⟩ | ⟨hid, hstore, hstate, hlog, -⟩ :=
    setEntity_recorded hrepo entity s
  · rw [heq]
    exact ⟨.refused, ⟨by simp, fun _ => rfl, by simp⟩, rfl⟩
  · rw [heq]
    -- `Store` threw: it took effect before, or it did nothing
    by_cases hsame : contents (repo.store entity s.1).2 = contents s.1
    · refine ⟨.refused, ⟨by simp, fun _ => rfl, by simp⟩, ?_⟩
      simp only [view, Stage.apply, hsame]
    · -- The repo has the entity although its `Store` threw
      refine ⟨.leftBehind, ⟨by simp, fun hempty => absurd hempty hid, ?_⟩, ?_⟩
      · intro hatomic
        exact absurd (hatomic entity s.1 e hstore) hsame
      · simp only [view, Stage.apply, (h.store_any entity s.1).resolve_left hsame]
  · -- The entity is stored, so only the notifier's outcome is open
    have hview : view contents (core.recorded.setEntity entity s).2 =
        ((contents s.1).insert entity.id entity,
          s.2.1 ++ core.record entity (core.recorded.setEntity entity s).1) := by
      simp only [view, hstate, hlog, h.store_ok entity s.1 hstore]
    rw [hview]
    simp only [record, hsome, Option.toList_some, List.map_cons, List.map_nil]
    cases (core.recorded.setEntity entity s).1 with
    | error e => exact ⟨.stored, ⟨by simp, fun hempty => absurd hempty hid, by simp⟩, rfl⟩
    | ok u => exact ⟨.delivered, ⟨by simp, fun hempty => absurd hempty hid, by simp⟩, rfl⟩

/-- A run is the sequence of the changes its calls make. -/
theorem run_stages (hrepo : core.repo = some repo) (h : repo.Holds contents)
    (hnotifier : core.notifier.isSome = true) (calls : List Call)
    (s : σ × (Notifications × ν)) : core.RunsInStages repo contents calls s := by
  have hrepo' : core.recorded.repo = some repo := hrepo
  induction calls generalizing s with
  | nil => exact ⟨[], .nil, rfl⟩
  | cons c calls ih =>
    -- The other calls go on in their stages from the state after the first
    obtain ⟨stages, hfits, hview⟩ := ih (core.recorded.call c s).2
    cases c with
    | setEntity entity =>
      obtain ⟨first, hfirst, hchange⟩ := setEntity_stage hrepo h hnotifier entity s
      refine ⟨first :: stages, .cons hfirst hfits, ?_⟩
      simp only [run]
      rw [hview]
      simp only [call, attempts, List.map_cons, List.zip_cons_cons, applyAll, List.foldl_cons]
      rw [← hchange]
    | getEntity id =>
      refine ⟨stages, hfits, ?_⟩
      simp only [run]
      rw [hview]
      simp only [call, attempts]
      -- A lookup leaves the view as it is
      have hsame := getEntity_spec hrepo' h id s
      have hview' : view contents (core.recorded.getEntity id s).2 = view contents s := by
        simp only [view, hsame.1, hsame.2.1]
      rw [hview']

/-- **What `SetEntity` has done when it fails.** For a core whose repo holds a map and any
    notifier: an entity that is refused changes nothing; if `Store` throws, nobody is
    notified; if it returns, the entity stays in the repo and is handed to the notifier once,
    and `SetEntity` returns exactly if that does. A lookup returns what the repo holds. After
    any run, what is in the repo and was not delivered is of calls that threw: their
    `EntityChanged` did, or their `Store` did after it took effect. -/
theorem setEntity_effects (core : Core σ ν) :
    (core.repo = none → ∀ entity s,
      core.setEntity entity s = (.error (.runtimeError "invalid repo"), s)) ∧
    (∀ calls s, (core.recorded.run calls s).1 = (core.run calls (s.1, s.2.2)).1) ∧
    ∀ (repo : EntityRepo σ) (contents : σ → EntityMap), core.repo = some repo →
      repo.Holds contents →
      (∀ entity s, core.SetEntityEffects repo contents entity s) ∧
      (∀ id s result, (core.getEntity id s).1 = .ok result → result = (contents s.1)[id]?) ∧
      (core.notifier.isSome = true → ∀ calls s, core.RunsInStages repo contents calls s) := by
  refine ⟨?_, core.recorded_results, ?_⟩
  · intro hnone entity s
    simp only [setEntity, hnone]
  · intro repo contents hrepo h
    refine ⟨setEntityEffects hrepo h, ?_, run_stages hrepo h⟩
    intro id s result hget
    exact (getEntity_spec hrepo h id s).2.2 result hget

/-- A core over a repo in memory, whose notifier gives up. -/
def unnotifiedCore : Core EntityMap Unit where
  repo := some inMemoryRepo
  notifier := some ⟨fun _ n => (.error (.errorForwarding
    ⟨.unavailable, "received error while notifying"⟩ "received error while notifying"), n)⟩

/-- The state that a `SetEntity` leaves of an empty repo. -/
def afterFailure : EntityMap × (Notifications × Unit) :=
  (unnotifiedCore.recorded.setEntity exampleEntity (∅, [], ())).2

/-- The entity of the usage examples stays in the repo. -/
theorem setEntity_effects_test :
    unnotifiedCore.SetEntityEffects inMemoryRepo id exampleEntity (∅, [], ()) :=
  ((setEntity_effects unnotifiedCore).2.2 inMemoryRepo id rfl inMemoryRepo_holds).1 _ _

/-- The call throws, and the entity, which was not there, is found afterwards although the
    notifier was never told about it. -/
theorem setEntity_not_atomic :
    (unnotifiedCore.getEntity "test" (∅, ())).1 = .ok none ∧
    (unnotifiedCore.setEntity exampleEntity (∅, ())).1 = .error (.errorForwarding
      ⟨.unavailable, "received error while notifying"⟩ "received error while notifying") ∧
    (unnotifiedCore.getEntity "test" (unnotifiedCore.setEntity exampleEntity (∅, ())).2).1 =
      .ok (some exampleEntity) ∧
    afterFailure.2.1 = [(exampleEntity, false)] := by
  refine ⟨?_, ?_, ?_, ?_⟩ <;> decide

end Core

end SapperBricks
