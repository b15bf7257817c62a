import SapperBricks.ForStd.Latest
import SapperBricks.ForStd.Sections
import SapperBricks.Native.Repos

/-!
# Concurrent calls of `SetEntity`

When several threads drive one core, storing an entity and notifying about it are two
atomic steps of a call, and those of different calls interleave: nothing in the core
orders them. This file follows which calls have stored and which have notified.

## Key results

- `setEntityProc_alone`: the steps of a call that is not interrupted are `SetEntity`
- `run_progress`: what a call has done so far, read off its phase
- `last_delivered`: what the entity delivered last for an id tells about the repo
-/

namespace SapperBricks

open Interleaving Keyed

/-! ## The two steps of a call -/

/-- Where a call is. -/
inductive SetEntityLoc where
  | store (entity : Entity)
  | notify (entity : Entity)

namespace Core

variable {σ ν : Type}

/-- `Core::SetEntity` in its two steps: up to the return of `Store`, and `EntityChanged`. -/
def setEntityProc (core : Core σ ν) : Proc Entity SetEntityLoc (σ × ν) (Except Exn Unit) where
  start := .store
  exec
    | .store entity, s =>
      match core.repo with
      | none => (.inr (.error (.runtimeError "invalid repo")), s)
      | some repo =>
        if entity.id = "" then (.inr (.error (.invalidArgument "invalid id")), s)
        else
          match repo.store entity s.1 with
          | (.error e, repo') => (.inr (.error e), (repo', s.2))
          | (.ok (), repo') =>
            match core.notifier with
            | none => (.inr (.ok ()), (repo', s.2))
            | some _ => (.inl (.notify entity), (repo', s.2))
    | .notify entity, s =>
      match core.notifier with
      | none => (.inr (.ok ()), s)
      | some notifier =>
        let r := notifier.entityChanged entity s.2
        (.inr r.1, (s.1, r.2))

/-- The steps of a call that is not interrupted are `SetEntity`. -/
theorem setEntityProc_alone (core : Core σ ν) (entity : Entity) (s : σ × ν) :
    core.setEntityProc.alone 2 (.store entity) s = some (core.setEntity entity s) := by
  unfold Proc.alone setEntity setEntityProc
  dsimp only
  cases core.repo with
  | none => rfl
  | some repo =>
    by_cases hid : entity.id = ""
    · simp only [hid, if_true]
    · simp only [hid, if_false]
      cases repo.store entity s.1 with
      | mk r repo' =>
        cases r with
        | error e => rfl
        | ok u => cases core.notifier <;> simp [Proc.alone]

end Core

/-! ## A core whose stores and notifications succeed -/

/-- A notifier that delivers every entity, given as the deliveries so far. -/
def deliveringNotifier : EntityNotifier (List Entity) where
  entityChanged entity deliveries := (.ok (), deliveries ++ [entity])

/-- `SetEntity` of a core over `InMemoryRepo` whose notifications succeed. -/
def setEntityDelivering : Proc Entity SetEntityLoc (EntityMap × List Entity) (Except Exn Unit) :=
  Core.setEntityProc ⟨some inMemoryRepo, some deliveringNotifier⟩

/-- The store step of an entity without an id changes nothing and ends the call. -/
theorem exec_store_empty {entity : Entity} (hid : entity.id = "") (s : EntityMap × List Entity) :
    setEntityDelivering.exec (.store entity) s =
      (.inr (.error (.invalidArgument "invalid id")), s) := by
  simp [setEntityDelivering, Core.setEntityProc, hid]

/-- The store step of any other entity. -/
theorem exec_store {entity : Entity} (hid : entity.id ≠ "") (s : EntityMap × List Entity) :
    setEntityDelivering.exec (.store entity) s =
      (.inl (.notify entity), (s.1.insert entity.id entity, s.2)) := by
  simp [setEntityDelivering, Core.setEntityProc, hid, inMemoryRepo, InMemoryRepo.store]

/-- The notify step. -/
theorem exec_notify (entity : Entity) (s : EntityMap × List Entity) :
    setEntityDelivering.exec (.notify entity) s = (.inr (.ok ()), (s.1, s.2 ++ [entity])) := rfl

/-! ## Calls that stored and calls that delivered -/

section Runs

variable {ι : Type} [DecidableEq ι] {entityOf : ι → Entity}

/-- The calls whose entity was stored, in the order of the stores. -/
def stored (xs : List (Section ι SetEntityLoc (EntityMap × List Entity))) : List ι :=
  xs.filterMap fun x =>
    match x.loc with
    | .store entity => if entity.id = "" then none else some x.call
    | .notify _ => none

/-- The calls whose entity was delivered, in the order of the deliveries. -/
def delivered (xs : List (Section ι SetEntityLoc (EntityMap × List Entity))) : List ι :=
  xs.filterMap fun x =>
    match x.loc with
    | .store _ => none
    | .notify _ => some x.call

omit [DecidableEq ι] in
@[simp] theorem stored_concat_store (xs : List (Section ι SetEntityLoc (EntityMap × List Entity)))
    (i : ι) (entity : Entity) (s : EntityMap × List Entity) :
    stored (xs ++ [⟨i, .store entity, s⟩]) =
      if entity.id = "" then stored xs else stored xs ++ [i] := by
  by_cases hid : entity.id = "" <;> simp [stored, hid]

omit [DecidableEq ι] in
@[simp] theorem stored_concat_notify (xs : List (Section ι SetEntityLoc (EntityMap × List Entity)))
    (i : ι) (entity : Entity) (s : EntityMap × List Entity) :
    stored (xs ++ [⟨i, .notify entity, s⟩]) = stored xs := by
  simp [stored]

omit [DecidableEq ι] in
@[simp] theorem delivered_concat_store
    (xs : List (Section ι SetEntityLoc (EntityMap × List Entity))) (i : ι) (entity : Entity)
    (s : EntityMap × List Entity) :
    delivered (xs ++ [⟨i, .store entity, s⟩]) = delivered xs := by
  simp [delivered]

omit [DecidableEq ι] in
@[simp] theorem delivered_concat_notify
    (xs : List (Section ι SetEntityLoc (EntityMap × List Entity))) (i : ι) (entity : Entity)
    (s : EntityMap × List Entity) :
    delivered (xs ++ [⟨i, .notify entity, s⟩]) = delivered xs ++ [i] := by
  simp [delivered]

/-- What a call has done, told by its phase: it stored before it notifies, and a call that
    has its outcome stored and delivered its entity, once each, or neither. -/
def Progress (entity : Entity) (stores deliveries : Nat) :
    Phase SetEntityLoc (Except Exn Unit) → Prop
  | .idle => stores = 0 ∧ deliveries = 0
  | .running (.store e) => e = entity ∧ stores = 0 ∧ deliveries = 0
  | .running (.notify e) => e = entity ∧ stores = 1 ∧ deliveries = 0
  | .finished _ => stores = deliveries ∧ stores ≤ 1
  | .returned _ => stores = deliveries ∧ stores ≤ 1

/-- What holds of the sections of a run and the configuration it leads to. -/
structure RunProgress (entityOf : ι → Entity)
    (xs : List (Section ι SetEntityLoc (EntityMap × List Entity)))
    (c : Config ι SetEntityLoc (EntityMap × List Entity) (Except Exn Unit)) : Prop where
  calls : ∀ i, Progress (entityOf i) ((stored xs).count i) ((delivered xs).count i) (c.phase i)
  contents : IsLatest Entity.id c.shared.1 ((stored xs).map entityOf)
  deliveries : c.shared.2 = (delivered xs).map entityOf

/-- A call keeps its progress when only others store or deliver. -/
theorem RunProgress.others {xs ys : List (Section ι SetEntityLoc (EntityMap × List Entity))}
    {c : Config ι SetEntityLoc (EntityMap × List Entity) (Except Exn Unit)}
    (h : RunProgress entityOf xs c) {i : ι} {φ : Phase SetEntityLoc (Except Exn Unit)}
    (hi : Progress (entityOf i) ((stored ys).count i) ((delivered ys).count i) φ)
    (hothers : ∀ j, j ≠ i → (stored ys).count j = (stored xs).count j ∧
      (delivered ys).count j = (delivered xs).count j) (j : ι) :
    Progress (entityOf j) ((stored ys).count j) ((delivered ys).count j)
      (Function.update c.phase i φ j) := by
  by_cases hj : j = i
  · subst hj
    rw [Function.update_self]
    exact hi
  · rw [Function.update_of_ne hj, (hothers j hj).1, (hothers j hj).2]
    exact h.calls j

/-- Every run keeps track of what its calls have done. -/
theorem run_progress {tr : List (Event ι)}
    {c : Config ι SetEntityLoc (EntityMap × List Entity) (Except Exn Unit)}
    (h : setEntityDelivering.run entityOf (.initial (∅, [])) tr = some c) :
    RunProgress entityOf (setEntityDelivering.sections entityOf (.initial (∅, [])) tr) c := by
  apply run_sections_induction (P := fun _ xs c => RunProgress entityOf xs c) _ _ _ _ h
  · exact ⟨fun _ => ⟨rfl, rfl⟩, isLatest_empty, rfl⟩
  · -- A call is made
    intro tr m i _ hm hi
    have hidle := hm.calls i
    rw [hi] at hidle
    exact ⟨hm.others ⟨rfl, hidle⟩ fun _ _ => ⟨rfl, rfl⟩, hm.contents, hm.deliveries⟩
  · -- A call executes one of its two sections
    intro tr m i l _ hm hl
    have hprogress := hm.calls i
    rw [hl] at hprogress
    cases l with
    | store entity =>
      obtain ⟨rfl, hstores, hdeliveries⟩ := hprogress
      by_cases hid : (entityOf i).id = ""
      · -- It throws, having neither stored nor delivered
        rw [exec_store_empty hid]
        refine ⟨hm.others ?_ ?_, ?_, ?_⟩
        · simp only [Phase.after, Progress, stored_concat_store, delivered_concat_store, hid,
            if_true]
          omega
        · intro j _
          simp [hid]
        · simpa [hid] using hm.contents
        · simpa using hm.deliveries
      · -- It has stored and goes on to notify
        rw [exec_store hid]
        refine ⟨hm.others ?_ ?_, ?_, ?_⟩
        · simp only [Phase.after, Progress, stored_concat_store, delivered_concat_store, hid,
            if_false, List.count_append, List.count_singleton_self]
          exact ⟨trivial, by omega, hdeliveries⟩
        · intro j hj
          simp [hid, List.count_append, Ne.symm hj]
        · simpa [hid] using hm.contents.insert (entityOf i)
        · simpa using hm.deliveries
    | notify entity =>
      -- It had stored, and has delivered now
      obtain ⟨rfl, hstores, hdeliveries⟩ := hprogress
      rw [exec_notify]
      refine ⟨hm.others ?_ ?_, ?_, ?_⟩
      · simp only [Phase.after, Progress, stored_concat_notify, delivered_concat_notify,
          List.count_append, List.count_singleton_self]
        omega
      · intro j hj
        simp [List.count_append, Ne.symm hj]
      · simpa using hm.contents
      · simp [hm.deliveries]
  · -- A call returns
    intro tr m i r _ hm hr
    have hdone := hm.calls i
    rw [hr] at hdone
    exact ⟨hm.others hdone fun _ _ => ⟨rfl, rfl⟩, hm.contents, hm.deliveries⟩

/-! ## Calls with one id -/

/-- At no moment of a trace are two calls with this id in progress. -/
def Serial (entityOf : ι → Entity) (id : String) (tr : List (Event ι)) : Prop :=
  ∀ k m, setEntityDelivering.run entityOf (.initial (∅, [])) (tr.take k) = some m →
    ∀ i j l l', (entityOf i).id = id → (entityOf j).id = id →
      m.phase i = .running l → m.phase j = .running l' → i = j

/-- A trace without its last event is serial if the trace is. -/
theorem Serial.of_concat {id : String} {tr : List (Event ι)} {e : Event ι}
    (h : Serial entityOf id (tr ++ [e])) : Serial entityOf id tr := by
  intro k m hm
  -- Past the end of the shorter trace there is nothing more to take
  obtain hk | hk := Nat.le_total k tr.length
  · exact h k m (by rwa [List.take_append_of_le_length hk])
  · rw [List.take_of_length_le hk] at hm
    exact h tr.length m (by rwa [List.take_left])

/-- Two calls in progress at the end of a serial trace are one. -/
theorem Serial.eq {id : String} {tr : List (Event ι)}
    {m : Config ι SetEntityLoc (EntityMap × List Entity) (Except Exn Unit)}
    (h : Serial entityOf id tr)
    (hm : setEntityDelivering.run entityOf (.initial (∅, [])) tr = some m) {i j : ι}
    {l l' : SetEntityLoc} (hi : (entityOf i).id = id) (hj : (entityOf j).id = id)
    (hl : m.phase i = .running l) (hl' : m.phase j = .running l') : i = j :=
  h tr.length m (by rwa [List.take_length]) i j l l' hi hj hl hl'

/-- The calls with an id among some calls. -/
def withId (entityOf : ι → Entity) (id : String) (calls : List ι) : List ι :=
  calls.filter fun i => (entityOf i).id = id

/-- Of the calls with an id, at most the last that stored has not delivered yet. -/
def Pending (entityOf : ι → Entity) (id : String)
    (xs : List (Section ι SetEntityLoc (EntityMap × List Entity)))
    (c : Config ι SetEntityLoc (EntityMap × List Entity) (Except Exn Unit)) : Prop :=
  (∃ i, (entityOf i).id = id ∧ c.phase i = .running (.notify (entityOf i)) ∧
    withId entityOf id (stored xs) = withId entityOf id (delivered xs) ++ [i]) ∨
  ((∀ i e, (entityOf i).id = id → c.phase i ≠ .running (.notify e)) ∧
    withId entityOf id (stored xs) = withId entityOf id (delivered xs))

/-- A step of a call that does not touch the calls with the id that wait to notify. -/
theorem Pending.update {id : String}
    {xs ys : List (Section ι SetEntityLoc (EntityMap × List Entity))}
    {c : Config ι SetEntityLoc (EntityMap × List Entity) (Except Exn Unit)}
    (h : Pending entityOf id xs c) {i : ι} {φ : Phase SetEntityLoc (Except Exn Unit)}
    (hi : (entityOf i).id = id → ∀ e, c.phase i ≠ .running (.notify e) ∧ φ ≠ .running (.notify e))
    (hstored : withId entityOf id (stored ys) = withId entityOf id (stored xs))
    (hdelivered : withId entityOf id (delivered ys) = withId entityOf id (delivered xs))
    (s : EntityMap × List Entity) :
    Pending entityOf id ys ⟨s, Function.update c.phase i φ⟩ := by
  unfold Pending
  rw [hstored, hdelivered]
  obtain ⟨j, hj, hphase, heq⟩ | ⟨hnone, heq⟩ := h
  · -- The call that waits is another one, so it still does
    have hne : j ≠ i := by
      intro hji
      subst hji
      exact (hi hj _).1 hphase
    have hphase' : Function.update c.phase i φ j = .running (.notify (entityOf j)) := by
      rw [Function.update_of_ne hne]
      exact hphase
    exact .inl ⟨j, hj, hphase', heq⟩
  · -- None waits, and the call of the step does not begin to
    have hnone' : ∀ j e, (entityOf j).id = id →
        Function.update c.phase i φ j ≠ .running (.notify e) := by
      intro j e hj
      by_cases hji : j = i
      · subst hji
        rw [Function.update_self]
        exact (hi hj e).2
      · rw [Function.update_of_ne hji]
        exact hnone j e hj
    exact .inr ⟨hnone', heq⟩

/-- In a serial run the calls with the id deliver in the order in which they store. -/
theorem run_pending {id : String} {tr : List (Event ι)}
    {c : Config ι SetEntityLoc (EntityMap × List Entity) (Except Exn Unit)}
    (h : setEntityDelivering.run entityOf (.initial (∅, [])) tr = some c)
    (hserial : Serial entityOf id tr) :
    Pending entityOf id (setEntityDelivering.sections entityOf (.initial (∅, [])) tr) c := by
  apply run_sections_induction (P := fun tr xs c => Serial entityOf id tr → Pending entityOf id xs c)
    _ _ _ _ h hserial
  · intro _
    refine .inr ⟨fun _ _ _ hphase => ?_, rfl⟩
    cases hphase
  · -- A call is made
    intro tr m i _ hm hi hser
    refine (hm hser.of_concat).update (fun _ e => ⟨?_, ?_⟩) rfl rfl _
    · rw [hi]
      intro hphase
      cases hphase
    · intro hstart
      cases hstart
  · -- A call executes one of its two sections
    intro tr m i l hrun hm hl hser
    have hpending := hm hser.of_concat
    have hprogress := (run_progress hrun).calls i
    rw [hl] at hprogress
    cases l with
    | store entity =>
      obtain ⟨rfl, -⟩ := hprogress
      by_cases hid : (entityOf i).id = ""
      · rw [exec_store_empty hid]
        refine hpending.update (fun _ e => ⟨?_, ?_⟩) (by simp [hid]) (by simp) _
        · rw [hl]
          intro hphase
          cases hphase
        · intro hend
          cases hend
      rw [exec_store hid]
      by_cases hi : (entityOf i).id = id
      · -- No other call with the id is in progress, so none waits to notify
        obtain ⟨j, hj, hphase, -⟩ | ⟨-, heq⟩ := hpending
        · have hij := hser.of_concat.eq hrun hi hj hl hphase
          subst hij
          rw [hl] at hphase
          cases hphase
        · -- Now this one waits
          refine .inl ⟨i, hi, by simp [Phase.after], ?_⟩
          simp only [stored_concat_store, delivered_concat_store, hid, if_false]
          unfold withId at heq ⊢
          rw [List.filter_append, heq]
          simp [hi]
      · exact hpending.update (fun hi' => absurd hi' hi) (by simp [withId, hid, hi]) (by simp) _
    | notify entity =>
      obtain ⟨rfl, -⟩ := hprogress
      rw [exec_notify]
      by_cases hi : (entityOf i).id = id
      · -- This call is the one that waited, and none waits any more
        obtain ⟨j, hj, hphase, heq⟩ | ⟨hnone, -⟩ := hpending
        · have hij := hser.of_concat.eq hrun hi hj hl hphase
          subst hij
          refine .inr ⟨fun j e hj' => ?_, ?_⟩
          · dsimp only
            by_cases hji : j = i
            · subst hji
              rw [Function.update_self]
              intro hphase'
              cases hphase'
            · rw [Function.update_of_ne hji]
              exact fun hphase' => hji (hser.of_concat.eq hrun hj' hi hphase' hl)
          · simp only [stored_concat_notify, delivered_concat_notify]
            rw [heq]
            simp [withId, hi]
        · exact absurd hl (hnone i _ hi)
      · exact hpending.update (fun hi' => absurd hi' hi) (by simp) (by simp [withId, hi]) _
  · -- A call returns
    intro tr m i r _ hm hr hser
    refine (hm hser.of_concat).update (fun _ e => ⟨?_, ?_⟩) rfl rfl _
    · rw [hr]
      intro hphase
      cases hphase
    · intro hend
      cases hend

/-! ## What has been delivered last -/

/-- **Concurrent calls and their notifications.** Once all calls have returned, every stored
    entity was delivered exactly once. For an id whose last store and last delivery are of
    the same call, and so for an id no two of whose calls overlap, the entity delivered last
    is the one the repo holds. -/
theorem last_delivered {tr : List (Event ι)}
    {c : Config ι SetEntityLoc (EntityMap × List Entity) (Except Exn Unit)}
    (h : setEntityDelivering.run entityOf (.initial (∅, [])) tr = some c)
    (hreturned : ∀ i, c.phase i = .idle ∨ ∃ r, c.phase i = .returned r) :
    let xs := setEntityDelivering.sections entityOf (.initial (∅, [])) tr
    c.shared.2 = (delivered xs).map entityOf ∧ (delivered xs).Perm (stored xs) ∧
    (stored xs).Nodup ∧
    ∀ id, (latest (fun i => (entityOf i).id) id (delivered xs) =
        latest (fun i => (entityOf i).id) id (stored xs) ∨ Serial entityOf id tr) →
      latest Entity.id id c.shared.2 = c.shared.1[id]? := by
  intro xs
  have hprogress := run_progress h
  have hcounts : ∀ i, (stored xs).count i = (delivered xs).count i ∧ (stored xs).count i ≤ 1 := by
    intro i
    have hi := hprogress.calls i
    obtain hidle | ⟨r, hr⟩ := hreturned i
    · rw [hidle] at hi
      exact ⟨hi.1.trans hi.2.symm, Nat.le_trans (Nat.le_of_eq hi.1) (Nat.zero_le 1)⟩
    · rw [hr] at hi
      exact hi
  have hperm : (delivered xs).Perm (stored xs) := by
    rw [List.perm_iff_count]
    exact fun i => (hcounts i).1.symm
  have hnodup : (stored xs).Nodup := by
    rw [List.nodup_iff_count]
    exact fun i => (hcounts i).2
  refine ⟨hprogress.deliveries, hperm, hnodup, fun id hid => ?_⟩
  have hlast : latest (fun i => (entityOf i).id) id (delivered xs) =
      latest (fun i => (entityOf i).id) id (stored xs) := by
    obtain heq | hserial := hid
    · exact heq
    obtain ⟨i, -, hphase, -⟩ | ⟨-, heq⟩ := run_pending h hserial
    · -- No call is in progress any more
      obtain hidle | ⟨r, hr⟩ := hreturned i
      · rw [hidle] at hphase
        cases hphase
      · rw [hr] at hphase
        cases hphase
    · exact congrArg List.getLast? heq.symm
  rw [hprogress.deliveries, hprogress.contents id, latest_map, latest_map, hlast]

end Runs

/-! ## Two overlapping calls -/

/-- Two entities with the same id. -/
def testEntity : Bool → Entity
  | false => ⟨"id", "old", 1⟩
  | true => ⟨"id", "new", 2⟩

/-- The second call stores after the first one and notifies before it. -/
def overlapping : List (Event Bool) :=
  [.call false, .call true, .exec false, .exec true, .exec true, .exec false, .ret true, .ret false]

/-- After two overlapping calls the entity delivered last is not the one the repo holds. -/
theorem last_delivered_overlapping :
    ∃ c, setEntityDelivering.run testEntity (.initial (∅, [])) overlapping = some c ∧
      (∀ i, c.phase i = .returned (.ok ())) ∧
      latest Entity.id "id" c.shared.2 = some (testEntity false) ∧
      c.shared.1["id"]? = some (testEntity true) ∧
      latest Entity.id "id" c.shared.2 ≠ c.shared.1["id"]? := by
  refine ⟨_, rfl, ?_, ?_, ?_, ?_⟩
  · intro i
    cases i <;> rfl
  · decide
  · decide
  · decide

/-- Two calls one after the other. -/
def serial : List (Event Bool) :=
  [.call false, .exec false, .exec false, .ret false, .call true, .exec true, .exec true, .ret true]

/-- After two calls one after the other it is. -/
theorem last_delivered_serial :
    ∃ c, setEntityDelivering.run testEntity (.initial (∅, [])) serial = some c ∧
      latest Entity.id "id" c.shared.2 = c.shared.1["id"]? := by
  refine ⟨_, rfl, ?_⟩
  have hlast := @last_delivered Bool _ testEntity serial _ rfl (by
    intro i
    cases i <;> exact .inr ⟨_, rfl⟩)
  exact hlast.2.2.2 "id" (.inl rfl)

end SapperBricks
