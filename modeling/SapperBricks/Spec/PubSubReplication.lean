import SapperBricks.ForStd.Delivery
import SapperBricks.Native.PubSub
import SapperBricks.Spec.ServiceRequests

/-!
# Replication over Pub/Sub

A service whose core has a `PubSubNotifier`, and a service whose `PubSubHandler` listens on a
subscription of the topic. The messages are delivered at least once, in any order, to any number
of callbacks at once; a callback acknowledges its message before it sets the entity.

## Key results

- `changes_accounted`: where the message of each `SetEntity` is that returned
- `replicated_at_rest`: what the subscriber holds once all messages are acknowledged and processed
-/

namespace SapperBricks

open Adapter Keyed
open scoped List

/-! ## The services -/

/-- What becomes of a message that is published. -/
inductive Publication where
  | published (id : String)
  | failed (status : CloudStatus) (h : status.code ≠ 0)
  /-- the topic has the message, but the publisher is not told so -/
  | unconfirmed (status : CloudStatus) (h : status.code ≠ 0)

/-- Two services and what they use. Both repos hold maps, whatever of them fails. -/
structure PubSubServices where
  RepoState : Type
  LinkState : Type
  SubscriberState : Type
  NotifierState : Type
  json : NlohmannJson
  readsBack : json.ReadsBack
  requestHandler : RequestHandler
  fromGrpcStatusCode : Nat → StatusCode
  fromGrpc_failure : ∀ code, code ≠ 0 → fromGrpcStatusCode code ≠ .ok
  /-- what becomes of the next message -/
  publish : LinkState → Publication × LinkState
  repo : EntityRepo RepoState
  contents : RepoState → EntityMap
  holds : repo.Holds contents
  subscriberRepo : EntityRepo SubscriberState
  subscriberContents : SubscriberState → EntityMap
  subscriberHolds : subscriberRepo.Holds subscriberContents
  /-- the core of the subscriber may have a notifier of its own -/
  subscriberNotifier : Option (EntityNotifier NotifierState)

namespace PubSubServices

variable (services : PubSubServices)

/-- The topic with its subscription, and the state of the subscriber. -/
abbrev Topic : Type :=
  Delivery.State String (services.SubscriberState × services.NotifierState)

/-- The publisher of the topic. -/
def publisher : PubSubPublisher (services.LinkState × services.Topic) where
  publish data b :=
    match services.publish b.1 with
    | (.published id, link) => (.ok id, (link, Delivery.send data b.2))
    | (.failed status _, link) => (.error status, (link, b.2))
    | (.unconfirmed status _, link) => (.error status, (link, Delivery.send data b.2))
  code_ne_zero data b status h := by
    cases hpublish : services.publish b.1 with
    | mk publication link =>
      rw [hpublish] at h
      cases publication with
      | published id => cases h
      | failed status' hcode =>
        cases h
        exact hcode
      | unconfirmed status' hcode =>
        cases h
        exact hcode

/-- The notifier. -/
def pubSubNotifier : PubSubNotifier (services.LinkState × services.Topic) :=
  ⟨services.json, services.fromGrpcStatusCode, services.fromGrpc_failure, services.publisher⟩

/-- The core of the publishing service. -/
def core : Core services.RepoState (services.LinkState × services.Topic) :=
  ⟨some services.repo, some services.pubSubNotifier.notifier⟩

/-- The handler of the subscriber. -/
def receiver : PubSubReceiver services.SubscriberState services.NotifierState :=
  ⟨services.json, services.requestHandler, ⟨some services.subscriberRepo, services.subscriberNotifier⟩⟩

/-- The state of both services. -/
structure State where
  repo : services.RepoState
  link : services.LinkState
  topic : services.Topic
  /-- the calls of the first core with what they came to, in their order -/
  calls : List (Core.Call × Core.Result)

/-- What can happen: a call of the first core, or something at the subscription. -/
inductive Event where
  | call (c : Core.Call)
  | subscription (e : Delivery.Event)
deriving DecidableEq, Repr

variable {services}

/-- The call and what it changes. -/
def State.call (s : services.State) (c : Core.Call) : services.State :=
  let r := services.core.call c (s.repo, (s.link, s.topic))
  ⟨r.2.1, r.2.2.1, r.2.2.2, s.calls ++ [(c, r.1)]⟩

/-- One event, if it can happen. -/
def step (s : services.State) : Event → Option services.State
  | .call c => some (s.call c)
  | .subscription e =>
    (Delivery.step services.receiver.setEntity s.topic e).map fun topic => { s with topic }

/-- Events one after the other. -/
def run : List Event → services.State → Option services.State
  | [], s => some s
  | e :: es, s => (step s e).bind (run es)

/-- Both services, before anything was published. -/
def start (repo : services.RepoState) (link : services.LinkState) (subscriber : services.SubscriberState)
    (notifier : services.NotifierState) : services.State :=
  ⟨repo, link, Delivery.initial (subscriber, notifier), []⟩

/-! ## The publishing service -/

/-- A notification: it fails and publishes nothing, or it publishes the document of the entity,
    whether it says so or not. -/
theorem entityChanged_cases (entity : Entity) (b : services.LinkState × services.Topic) :
    ((∃ e, (services.pubSubNotifier.entityChanged entity b).1 = .error e) ∧
      (services.pubSubNotifier.entityChanged entity b).2.2 = b.2) ∨
    ∃ text, services.json.dump (entityToJson entity) = .ok text ∧
      (services.pubSubNotifier.entityChanged entity b).2.2 = Delivery.send text b.2 := by
  unfold PubSubNotifier.entityChanged PubSubNotifier.request
  dsimp only [pubSubNotifier]
  cases hdump : services.json.dump (entityToJson entity) with
  | error what => exact .inl ⟨⟨_, rfl⟩, rfl⟩
  | ok text =>
    dsimp only [publisher]
    -- Only a publication that failed has sent nothing; one that is unconfirmed has
    cases hpublish : services.publish b.1 with
    | mk publication link =>
      cases publication with
      | published id => exact .inr ⟨text, rfl, rfl⟩
      | failed status hcode =>
        have hfailed : services.fromGrpcStatusCode status.code ≠ .ok :=
          services.fromGrpc_failure status.code hcode
        exact .inl ⟨⟨.errorForwarding ⟨services.fromGrpcStatusCode status.code, status.message⟩
          status.message, if_neg hfailed⟩, rfl⟩
      | unconfirmed status hcode => exact .inr ⟨text, rfl, rfl⟩

/-- A `SetEntity`: it fails and publishes nothing, having stored the entity or not, or it has stored
    the entity and publishes it. -/
theorem setEntity_cases (entity : Entity)
    (s : services.RepoState × (services.LinkState × services.Topic)) :
    ((∃ e, (services.core.setEntity entity s).1 = .error e) ∧
      (services.core.setEntity entity s).2.2.2 = s.2.2 ∧
      (services.contents (services.core.setEntity entity s).2.1 = services.contents s.1 ∨
        entity.id ≠ "" ∧ services.contents (services.core.setEntity entity s).2.1 =
          (services.contents s.1).insert entity.id entity)) ∨
    (entity.id ≠ "" ∧
      services.contents (services.core.setEntity entity s).2.1 =
        (services.contents s.1).insert entity.id entity ∧
      ∃ text, services.json.dump (entityToJson entity) = .ok text ∧
        (services.core.setEntity entity s).2.2.2 = Delivery.send text s.2.2) := by
  unfold Core.setEntity
  dsimp only [core]
  -- Without an id it is refused before anything is stored
  by_cases hid : entity.id = ""
  · rw [if_pos hid]
    exact .inl ⟨⟨_, rfl⟩, rfl, .inl rfl⟩
  rw [if_neg hid]
  have hok := services.holds.store_ok entity s.1
  have hany := services.holds.store_any entity s.1
  cases hstore : services.repo.store entity s.1 with
  | mk r repo' =>
    rw [hstore] at hok hany
    cases r with
    | error e => exact .inl ⟨⟨e, rfl⟩, rfl, hany.imp id fun h => ⟨hid, h⟩⟩
    | ok u =>
      dsimp only [PubSubNotifier.notifier]
      -- It is stored, and the rest is up to the notifier
      obtain ⟨hfails, hsame⟩ | ⟨text, hdump, hsent⟩ := entityChanged_cases entity s.2
      · exact .inl ⟨hfails, hsame, .inr ⟨hid, hok rfl⟩⟩
      · exact .inr ⟨hid, hok rfl, text, hdump, hsent⟩

/-- The entity of a message, as the subscriber reads it. -/
def decode (services : PubSubServices) (m : String) : Option Entity :=
  (services.json.parse m >>= entityFromJson services.json).toOption

/-- It reads what was printed. -/
theorem decode_dump {entity : Entity} {text : String}
    (h : services.json.dump (entityToJson entity) = .ok text) :
    services.decode text = some entity := by
  have hread : services.json.parse text >>= entityFromJson services.json = .ok entity := by
    rw [services.readsBack entity text h]
    exact entityFromJson_entityToJson services.json entity
  rw [decode, hread]
  rfl

/-- The entities of the messages that were sent. -/
def State.sentEntities (s : services.State) : List Entity :=
  s.topic.sent.filterMap services.decode

/-- Those of the messages that were processed, in the order in which they were. -/
def State.receivedEntities (s : services.State) : List Entity :=
  (Delivery.received s.topic).filterMap services.decode

/-- The entities of the calls of `SetEntity` that returned. -/
def returned (calls : List (Core.Call × Core.Result)) : List Entity :=
  calls.filterMap fun
    | (.setEntity entity, .set (.ok ())) => some entity
    | _ => none

/-- What was called. -/
def State.accepted (s : services.State) : List Entity :=
  Core.accepted (s.calls.map Prod.fst)

/-- What was published is what was stored, in its order, as far as it was; every `SetEntity` that
    returned has published its entity. -/
structure Publishes (s : services.State) : Prop where
  readable : ∀ m ∈ s.topic.sent, ∃ e, services.decode m = some e ∧ e.id ≠ ""
  stored : ∃ stored, stored.Sublist s.accepted ∧ s.sentEntities.Sublist stored ∧
    IsLatest Entity.id (services.contents s.repo) stored
  published : (returned s.calls).Sublist s.sentEntities

theorem publishes_start {repo : services.RepoState} (hempty : services.contents repo = ∅)
    (link : services.LinkState) (subscriber : services.SubscriberState)
    (notifier : services.NotifierState) : Publishes (start repo link subscriber notifier) where
  readable m hm := by cases hm
  stored := ⟨[], .slnil, .slnil, by rw [start, hempty]; exact isLatest_empty⟩
  published := .slnil

/-- One call more that was made. -/
theorem accepted_call (s : services.State) (c : Core.Call) :
    (s.call c).accepted = s.accepted ++ Core.accepted [c] := by
  have hcalls : (s.call c).calls.map Prod.fst = s.calls.map Prod.fst ++ [c] := by
    simp [State.call]
  rw [State.accepted, hcalls]
  exact List.filterMap_append

/-- One call more that returned, if it did. -/
theorem returned_call (s : services.State) (c : Core.Call) :
    returned (s.call c).calls = returned s.calls ++
      returned [(c, (services.core.call c (s.repo, (s.link, s.topic))).1)] :=
  List.filterMap_append

/-- Every call keeps to that. -/
theorem Publishes.call {s : services.State} (h : Publishes s) (c : Core.Call) :
    Publishes (s.call c) := by
  obtain ⟨stored, hstored, hsent, hlatest⟩ := h.stored
  have haccepted := accepted_call s c
  have hreturned := returned_call s c
  -- A call that publishes nothing
  have hquiet : (s.call c).topic = s.topic →
      returned [(c, (services.core.call c (s.repo, (s.link, s.topic))).1)] = [] →
      (∃ more, more.Sublist (Core.accepted [c]) ∧
        IsLatest Entity.id (services.contents (s.call c).repo) (stored ++ more)) →
      Publishes (s.call c) := by
    intro htopic hnot ⟨more, hmore, hcontents⟩
    rw [hnot, List.append_nil] at hreturned
    refine ⟨by rw [htopic]; exact h.readable, ⟨stored ++ more, ?_, ?_, hcontents⟩, ?_⟩
    · rw [haccepted]
      exact hstored.append hmore
    · rw [State.sentEntities, htopic]
      exact hsent.trans (List.sublist_append_left stored more)
    · rw [hreturned, State.sentEntities, htopic]
      exact h.published
  cases c with
  | getEntity id =>
    obtain ⟨hsame, hlinks, -⟩ := @Core.getEntity_spec _ _ services.core _ _ rfl services.holds id
      (s.repo, (s.link, s.topic))
    -- A lookup changes neither the contents nor the topic
    refine hquiet (congrArg Prod.snd hlinks) rfl ⟨[], List.nil_sublist _, ?_⟩
    have hcontents : services.contents (s.call (.getEntity id)).repo = services.contents s.repo :=
      hsame
    rw [hcontents, List.append_nil]
    exact hlatest
  | setEntity entity =>
    obtain ⟨⟨e, he⟩, htopic, hcontents⟩ | ⟨hid, hcontents, text, hdump, htopic⟩ :=
      setEntity_cases entity (s.repo, (s.link, s.topic))
    · -- It failed and sent nothing, whether the repo has the entity or not
      have hnot : returned [(.setEntity entity,
          (services.core.call (.setEntity entity) (s.repo, (s.link, s.topic))).1)] = [] := by
        simp only [Core.call, he]
        rfl
      obtain hsame | ⟨hid, hput⟩ := hcontents
      · refine hquiet htopic hnot ⟨[], List.nil_sublist _, ?_⟩
        have hsame' : services.contents (s.call (.setEntity entity)).repo =
            services.contents s.repo := hsame
        rw [hsame', List.append_nil]
        exact hlatest
      · refine hquiet htopic hnot ⟨[entity], by simp [Core.accepted, hid], ?_⟩
        have hput' : services.contents (s.call (.setEntity entity)).repo =
            (services.contents s.repo).insert entity.id entity := hput
        rw [hput']
        exact hlatest.insert entity
    · -- The document of the entity is one more message
      have hdecode := decode_dump hdump
      have htopic' : (s.call (.setEntity entity)).topic = Delivery.send text s.topic := htopic
      have hentities : (s.call (.setEntity entity)).sentEntities = s.sentEntities ++ [entity] := by
        simp [State.sentEntities, htopic', Delivery.send, List.filterMap_append, hdecode]
      refine ⟨fun m hm => ?_, ⟨stored ++ [entity], ?_, ?_, ?_⟩, ?_⟩
      · rw [htopic'] at hm
        -- Earlier messages can be read as before, and the new one is that of the entity
        obtain hm | hm := List.mem_append.mp hm
        · exact h.readable m hm
        · rw [List.mem_singleton.mp hm]
          exact ⟨entity, hdecode, hid⟩
      · rw [haccepted]
        exact hstored.append (by simp [Core.accepted, hid])
      · rw [hentities]
        exact hsent.append (List.Sublist.refl [entity])
      · have hput : services.contents (s.call (.setEntity entity)).repo =
            (services.contents s.repo).insert entity.id entity := hcontents
        rw [hput]
        exact hlatest.insert entity
      · rw [hreturned, hentities]
        refine h.published.append ?_
        cases hres : (services.core.setEntity entity (s.repo, (s.link, s.topic))).1 with
        | ok u => simp [Core.call, hres, returned]
        | error e => simp [Core.call, hres, returned]

/-! ## Which message is whose -/

/-- The entity of a `SetEntity` that returns. -/
def State.returns (s : services.State) : Event → List Entity
  | .call c => returned [(c, (services.core.call c (s.repo, (s.link, s.topic))).1)]
  | .subscription _ => []

/-- The calls of `SetEntity` in a run that return, in their order: the entity of each, and the place
    of the first message that is sent from then on. -/
def returnedAt : List Event → services.State → List (Entity × Nat)
  | [], _ => []
  | e :: es, s =>
    match step s e with
    | none => []
    | some s' => (s.returns e).map (·, s.topic.sent.length) ++ returnedAt es s'

/-- A call sends no message and does not return, or it sends one message, which is that of its
    entity if it returns. -/
theorem call_sends (s : services.State) (c : Core.Call) :
    ((s.call c).topic = s.topic ∧ s.returns (.call c) = []) ∨
    ∃ text, (s.call c).topic = Delivery.send text s.topic ∧
      (s.returns (.call c) = [] ∨
        ∃ entity, s.returns (.call c) = [entity] ∧ services.decode text = some entity) := by
  cases c with
  | getEntity id =>
    -- A lookup sends nothing
    have hlinks := (@Core.getEntity_spec _ _ services.core _ _ rfl services.holds id
      (s.repo, (s.link, s.topic))).2.1
    exact .inl ⟨congrArg Prod.snd hlinks, rfl⟩
  | setEntity entity =>
    have hreturns : s.returns (.call (.setEntity entity)) =
        match (services.core.setEntity entity (s.repo, (s.link, s.topic))).1 with
        | .ok () => [entity]
        | .error _ => [] := by
      simp only [State.returns, Core.call]
      cases (services.core.setEntity entity (s.repo, (s.link, s.topic))).1 <;> rfl
    obtain ⟨⟨e, he⟩, htopic, -⟩ | ⟨-, -, text, hdump, htopic⟩ :=
      setEntity_cases entity (s.repo, (s.link, s.topic))
    · rw [he] at hreturns
      exact .inl ⟨htopic, hreturns⟩
    · refine .inr ⟨text, htopic, ?_⟩
      rw [hreturns]
      -- It may throw although its message was sent
      cases (services.core.setEntity entity (s.repo, (s.link, s.topic))).1 with
      | error e => exact .inl rfl
      | ok u => exact .inr ⟨entity, rfl, decode_dump hdump⟩

/-- A call sends one message, or none. -/
theorem call_topic (s : services.State) (c : Core.Call) :
    (s.call c).topic = s.topic ∨ ∃ m, (s.call c).topic = Delivery.send m s.topic := by
  obtain ⟨hsame, -⟩ | ⟨text, hsent, -⟩ := call_sends s c
  · exact .inl hsame
  · exact .inr ⟨text, hsent⟩

variable {s s' : services.State}

/-- What an event returns, and what it sends. -/
theorem step_returns {e : Event} (hstep : step s e = some s') :
    returned s'.calls = returned s.calls ++ s.returns e ∧
    ∃ texts, s'.topic.sent = s.topic.sent ++ texts ∧
      (s.returns e = [] ∨ ∃ entity text, s.returns e = [entity] ∧ texts = [text] ∧
        services.decode text = some entity) := by
  cases e with
  | call c =>
    cases hstep
    refine ⟨returned_call s c, ?_⟩
    obtain ⟨hsame, hnot⟩ | ⟨text, hsent, hreturns⟩ := call_sends s c
    · exact ⟨[], by rw [hsame, List.append_nil], .inl hnot⟩
    · refine ⟨[text], by rw [hsent]; rfl, ?_⟩
      obtain hnot | ⟨entity, hentity, hdecode⟩ := hreturns
      · exact .inl hnot
      · exact .inr ⟨entity, text, hentity, rfl, hdecode⟩
  | subscription e =>
    obtain ⟨topic, htopic, rfl⟩ := Option.map_eq_some_iff.mp hstep
    -- Nothing is sent at the subscription, and no call is made there
    have hsent := (Delivery.received_step htopic).1
    exact ⟨(List.append_nil _).symm, [], by rw [List.append_nil]; exact hsent, .inl rfl⟩

/-- The calls of a run that return have sent their entities, each in a message of its own and in
    their order. -/
theorem returnedAt_run {es : List Event} (hrun : run es s = some s') :
    s.topic.sent <+: s'.topic.sent ∧
    returned s'.calls = returned s.calls ++ (returnedAt es s).map Prod.fst ∧
    ((returnedAt es s).map Prod.snd).Pairwise (· < ·) ∧
    ∀ c ∈ returnedAt es s, s.topic.sent.length ≤ c.2 ∧
      ∃ text, s'.topic.sent[c.2]? = some text ∧ services.decode text = some c.1 := by
  -- Induction on the events: the places of later calls are past that of the first one
  induction es generalizing s with
  | nil =>
    cases hrun
    exact ⟨List.prefix_rfl, (List.append_nil _).symm, .nil, fun c hc => by cases hc⟩
  | cons e es ih =>
    obtain ⟨t, hstep, hrest⟩ := Option.bind_eq_some_iff.mp hrun
    obtain ⟨hreturned, texts, hsent, hcases⟩ := step_returns hstep
    obtain ⟨hgrows, hcalls, hordered, hplaces⟩ := ih hrest
    have hbefore : s.topic.sent <+: t.topic.sent := hsent ▸ List.prefix_append _ _
    have hlength : s.topic.sent.length ≤ t.topic.sent.length := hbefore.length_le
    rw [returnedAt, hstep]
    dsimp only
    refine ⟨hbefore.trans hgrows, ?_, ?_⟩
    · rw [hcalls, hreturned, List.map_append, List.map_map, List.append_assoc]
      simp [Function.comp_def]
    obtain hnot | ⟨entity, text, hentity, rfl, hdecode⟩ := hcases
    · -- Nothing returned here, so the calls are the later ones
      rw [hnot]
      refine ⟨hordered, fun c hc => ?_⟩
      obtain ⟨hle, htext⟩ := hplaces c hc
      exact ⟨Nat.le_trans hlength hle, htext⟩
    · -- The message of this call is the first one from then on, those of later calls come after it
      have hnext : t.topic.sent.length = s.topic.sent.length + 1 := by
        rw [hsent, List.length_append, List.length_singleton]
      rw [hentity]
      constructor
      · refine List.Pairwise.cons (fun id hid => ?_) hordered
        obtain ⟨c, hc, rfl⟩ := List.mem_map.mp hid
        have hle := (hplaces c hc).1
        dsimp only
        omega
      · intro c hc
        obtain rfl | hc := List.mem_cons.mp hc
        · -- Later messages are appended, so this one stays at its place
          obtain ⟨more, hmore⟩ := hgrows
          have hplace : s'.topic.sent[s.topic.sent.length]? = some text := by
            rw [← hmore, hsent]
            simp
          exact ⟨Nat.le_refl _, text, hplace, hdecode⟩
        · obtain ⟨hle, htext⟩ := hplaces c hc
          exact ⟨Nat.le_trans hlength hle, htext⟩

/-! ## The subscriber -/

/-- A message that can be read. -/
theorem decode_eq {m : String} {entity : Entity} : services.decode m = some entity ↔
    services.json.parse m >>= entityFromJson services.json = .ok entity := by
  unfold decode
  cases services.json.parse m >>= entityFromJson services.json with
  | error what => simp [Except.toOption]
  | ok e => simp [Except.toOption]

/-- What the subscriber makes of a message: nothing, or what its entity says, and the latter if its
    repo does not fail. -/
theorem setEntity_contents {m : String} {entity : Entity} (hm : services.decode m = some entity)
    (hid : entity.id ≠ "") (b : services.SubscriberState × services.NotifierState) :
    let after := services.subscriberContents (services.receiver.setEntity m b).1
    (after = services.subscriberContents b.1 ∨
      after = (services.subscriberContents b.1).insert entity.id entity) ∧
    ((∀ e s, (services.subscriberRepo.store e s).1 = .ok ()) →
      after = (services.subscriberContents b.1).insert entity.id entity) := by
  unfold PubSubReceiver.setEntity PubSubReceiver.setEntityRequest
  rw [setEntityFromJson_eq]
  dsimp only [receiver]
  rw [decode_eq.mp hm]
  dsimp only
  refine ⟨Core.setEntity_contents rfl services.subscriberHolds entity b, fun hworks => ?_⟩
  -- The entity has an id and is stored, which leaves the last case
  obtain ⟨hempty, -⟩ | ⟨-, e, hfails, -⟩ | ⟨-, hstore, heq⟩ :=
    @Core.setEntity_cases _ _ ⟨some services.subscriberRepo, services.subscriberNotifier⟩ _ rfl
      entity b
  · exact absurd hempty hid
  · rw [hworks] at hfails
    cases hfails
  · rw [heq]
    exact services.subscriberHolds.store_ok entity b.1 hstore

/-- What messages that can be read leave, one after the other. -/
theorem consumed_contents {ms : List String}
    (hreadable : ∀ m ∈ ms, ∃ e, services.decode m = some e ∧ e.id ≠ "")
    {b : services.SubscriberState × services.NotifierState} {kept : List Entity}
    (h : IsLatest Entity.id (services.subscriberContents b.1) kept) :
    let after := services.subscriberContents
      (ms.foldl (fun b m => services.receiver.setEntity m b) b).1
    (∃ more, more.Sublist (ms.filterMap services.decode) ∧ IsLatest Entity.id after (kept ++ more)) ∧
    ((∀ e s, (services.subscriberRepo.store e s).1 = .ok ()) →
      IsLatest Entity.id after (kept ++ ms.filterMap services.decode)) := by
  -- Induction on the messages, with the entities that were kept before them
  induction ms generalizing b kept with
  | nil => exact ⟨⟨[], .slnil, by simpa using h⟩, fun _ => by simpa using h⟩
  | cons m ms ih =>
    rw [List.forall_mem_cons] at hreadable
    obtain ⟨⟨entity, hm, hid⟩, hreadable⟩ := hreadable
    obtain ⟨hany, hworks⟩ := setEntity_contents hm hid b
    have hput : services.subscriberContents (services.receiver.setEntity m b).1 =
        (services.subscriberContents b.1).insert entity.id entity →
        IsLatest Entity.id (services.subscriberContents (services.receiver.setEntity m b).1)
          (kept ++ [entity]) := by
      intro heq
      rw [heq]
      exact h.insert entity
    rw [List.filterMap_cons_some hm, List.foldl_cons]
    constructor
    · -- An entity that was not stored is left out, any other is kept in its order
      obtain hsame | heq := hany
      · rw [← hsame] at h
        obtain ⟨more, hmore, hlatest⟩ := (ih hreadable h).1
        exact ⟨more, hmore.cons entity, hlatest⟩
      · obtain ⟨more, hmore, hlatest⟩ := (ih hreadable (hput heq)).1
        exact ⟨entity :: more, hmore.cons_cons entity, by simpa using hlatest⟩
    · intro hstores
      simpa using (ih hreadable (hput (hworks hstores))).2 hstores

/-! ## Runs -/

/-- What holds of the two services, after anything that can have happened. -/
structure Invariant (start : services.SubscriberState × services.NotifierState) (s : services.State) :
    Prop where
  publishes : Publishes s
  accounted : Delivery.Accounted s.topic
  consumed : Delivery.Consumed services.receiver.setEntity start s.topic

theorem invariant_start {repo : services.RepoState} (hempty : services.contents repo = ∅)
    (link : services.LinkState) (subscriber : services.SubscriberState)
    (notifier : services.NotifierState) :
    Invariant (subscriber, notifier) (start repo link subscriber notifier) :=
  ⟨publishes_start hempty link subscriber notifier, Delivery.accounted_initial _,
    Delivery.consumed_initial _⟩

variable {start : services.SubscriberState × services.NotifierState}

/-- Every event keeps it. -/
theorem Invariant.step (h : Invariant start s) {e : Event} (hstep : step s e = some s') :
    Invariant start s' := by
  cases e with
  | call c =>
    cases hstep
    refine ⟨h.publishes.call c, ?_, ?_⟩
    · -- The topic is as before, or has one message more
      obtain hsame | ⟨m, hsent⟩ := call_topic s c
      · rw [hsame]
        exact h.accounted
      · rw [hsent]
        exact h.accounted.send m
    · obtain hsame | ⟨m, hsent⟩ := call_topic s c
      · rw [hsame]
        exact h.consumed
      · rw [hsent]
        exact h.consumed.send h.accounted m
  | subscription e =>
    obtain ⟨topic, htopic, rfl⟩ := Option.map_eq_some_iff.mp hstep
    -- What was published is the same after anything that the subscriber does
    have hsent := (Delivery.received_step htopic).1
    refine ⟨⟨?_, ?_, ?_⟩, h.accounted.step htopic, h.consumed.step htopic⟩
    · dsimp only
      rw [hsent]
      exact h.publishes.readable
    · obtain ⟨stored, hstored, hentities, hlatest⟩ := h.publishes.stored
      refine ⟨stored, hstored, ?_, hlatest⟩
      simp only [State.sentEntities]
      rw [hsent]
      exact hentities
    · simp only [State.sentEntities]
      rw [hsent]
      exact h.publishes.published

/-- So does a run. -/
theorem Invariant.run (h : Invariant start s) {es : List Event} (hrun : run es s = some s') :
    Invariant start s' := by
  induction es generalizing s with
  | nil =>
    cases hrun
    exact h
  | cons e es ih =>
    obtain ⟨t, hstep, hrest⟩ := Option.bind_eq_some_iff.mp hrun
    exact ih (h.step hstep) hrest

/-- What the subscriber holds comes from messages that were processed. -/
theorem Invariant.subscriber (h : Invariant start s)
    (hempty : services.subscriberContents start.1 = ∅) :
    (∃ kept, kept.Sublist s.receivedEntities ∧
      IsLatest Entity.id (services.subscriberContents s.topic.consumer.1) kept) ∧
    ((∀ e b, (services.subscriberRepo.store e b).1 = .ok ()) →
      IsLatest Entity.id (services.subscriberContents s.topic.consumer.1) s.receivedEntities) := by
  -- Only messages that were sent are processed, and those can be read
  have hreadable : ∀ m ∈ Delivery.received s.topic,
      ∃ e, services.decode m = some e ∧ e.id ≠ "" := by
    intro m hm
    unfold Delivery.received at hm
    obtain ⟨id, -, hid⟩ := List.mem_filterMap.mp hm
    exact h.publishes.readable m (List.mem_of_getElem? hid)
  have hnothing : IsLatest Entity.id (services.subscriberContents start.1) [] := by
    rw [hempty]
    exact isLatest_empty
  have hcontents := consumed_contents hreadable hnothing
  have hconsumed := h.consumed
  unfold Delivery.Consumed at hconsumed
  rw [hconsumed]
  exact hcontents

/-- What was received was sent. -/
theorem receivedEntities_subset (s : services.State) {entity : Entity}
    (h : entity ∈ s.receivedEntities) : entity ∈ s.sentEntities := by
  obtain ⟨m, hm, hdecode⟩ := List.mem_filterMap.mp h
  unfold Delivery.received at hm
  obtain ⟨id, -, hid⟩ := List.mem_filterMap.mp hm
  exact List.mem_filterMap.mpr ⟨m, List.mem_of_getElem? hid, hdecode⟩

/-- **No change is forgotten, and none is made up.** Whatever happens to two services: every
    `SetEntity` that returned has sent its entity in a message of its own, the first one that was
    sent from its call on, and these are in the order of the calls; each of them can be delivered,
    or is in a callback that has acknowledged it, or was processed, or was dropped by a restart of
    the subscriber. What the subscriber holds was set at the publishing service. -/
theorem changes_accounted {repo : services.RepoState} (hempty : services.contents repo = ∅)
    {subscriber : services.SubscriberState}
    (hempty' : services.subscriberContents subscriber = ∅) {link : services.LinkState}
    {notifier : services.NotifierState} {es : List Event} {s : services.State}
    (hrun : run es (PubSubServices.start repo link subscriber notifier) = some s) :
    let sets := returnedAt es (PubSubServices.start repo link subscriber notifier)
    sets.map Prod.fst = returned s.calls ∧ (sets.map Prod.snd).Pairwise (· < ·) ∧
    (∀ entity id, (entity, id) ∈ sets →
      (∃ text, s.topic.sent[id]? = some text ∧ services.decode text = some entity) ∧
      (id ∉ s.topic.arrived ∨ (id, .acknowledged) ∈ s.topic.callbacks ∨ id ∈ s.topic.processed ∨
        id ∈ s.topic.dropped)) ∧
    ∀ id entity, (services.subscriberContents s.topic.consumer.1)[id]? = some entity →
      entity.id = id ∧ entity ∈ s.accepted := by
  have h := (invariant_start hempty link subscriber notifier).run hrun
  obtain ⟨stored, hstored, hsent, -⟩ := h.publishes.stored
  obtain ⟨-, hcalls, hordered, hplaces⟩ := returnedAt_run hrun
  refine ⟨hcalls.symm, hordered, fun entity id hset => ?_, ?_⟩
  · exact ⟨(hplaces (entity, id) hset).2, h.accounted.cases id⟩
  · -- What is held was received, so it was sent, so it was set
    intro id entity hget
    obtain ⟨kept, hkept, hlatest⟩ := (h.subscriber hempty').1
    obtain ⟨hmem, hkey⟩ := hlatest.key_eq hget
    have hreceived := receivedEntities_subset s (hkept.subset hmem)
    exact ⟨hkey, hstored.subset (hsent.subset hreceived)⟩

/-- Without a restart nothing is dropped. -/
theorem dropped_run {es : List Event} (hno : .subscription .restart ∉ es)
    (hrun : run es s = some s') :
    s'.topic.dropped = s.topic.dropped := by
  induction es generalizing s with
  | nil =>
    cases hrun
    rfl
  | cons e es ih =>
    rw [List.mem_cons, not_or] at hno
    obtain ⟨t, hstep, hrest⟩ := Option.bind_eq_some_iff.mp hrun
    rw [ih hno.2 hrest]
    -- Only a restart drops messages
    cases e with
    | call c =>
      cases hstep
      obtain hsame | ⟨m, hsent⟩ := call_topic s c
      · rw [hsame]
      · rw [hsent]
        rfl
    | subscription e =>
      obtain ⟨topic, htopic, rfl⟩ := Option.map_eq_some_iff.mp hstep
      refine Delivery.dropped_step (fun he => hno.1 ?_) htopic
      rw [he]

/-- Calls of which every `SetEntity` with an id returned. -/
theorem accepted_sublist_returned {calls : List (Core.Call × Core.Result)}
    (h : ∀ c ∈ calls, ∀ entity, c.1 = .setEntity entity → entity.id ≠ "" → c.2 = .set (.ok ())) :
    (Core.accepted (calls.map Prod.fst)).Sublist (returned calls) := by
  induction calls with
  | nil => exact .slnil
  | cons c calls ih =>
    rw [List.forall_mem_cons] at h
    have hrest := ih h.2
    obtain ⟨call, result⟩ := c
    have hreturned : returned ((call, result) :: calls) =
        returned [(call, result)] ++ returned calls :=
      @List.filterMap_append _ _ [(call, result)] _ _
    rw [List.map_cons, Core.accepted_cons, hreturned]
    refine List.Sublist.append ?_ hrest
    -- A `SetEntity` with an id has returned, and no other call counts
    cases call with
    | getEntity id => exact List.nil_sublist _
    | setEntity entity =>
      by_cases hid : entity.id = ""
      · simp [Core.accepted, hid]
      · have hresult : result = .set (.ok ()) := h.1 entity rfl hid
        subst hresult
        simp [Core.accepted, hid, returned]

/-- **Replication at rest.** Where every `SetEntity` with an id returned, the repo of the subscriber
    does not fail and it was not restarted: once every message is known to be acknowledged and no
    callback is running, the subscriber has received exactly the entities that were set, in some
    order, each at least as often as it was set; each service holds under an id the entity that
    came last there. If no id is set to different entities, they hold the same. -/
theorem replicated_at_rest {repo : services.RepoState} (hempty : services.contents repo = ∅)
    {subscriber : services.SubscriberState}
    (hempty' : services.subscriberContents subscriber = ∅) {link : services.LinkState}
    {notifier : services.NotifierState} {es : List Event} {s : services.State}
    (hrun : run es (PubSubServices.start repo link subscriber notifier) = some s)
    (hreturned : ∀ c ∈ s.calls, ∀ entity, c.1 = .setEntity entity → entity.id ≠ "" →
      c.2 = .set (.ok ()))
    (hworks : ∀ entity b, (services.subscriberRepo.store entity b).1 = .ok ())
    (hno : .subscription .restart ∉ es) (hrest : Delivery.AtRest s.topic) :
    (∀ entity, entity ∈ s.receivedEntities ↔ entity ∈ s.accepted) ∧
    s.accepted <+~ s.receivedEntities ∧
    (∀ id, (services.contents s.repo)[id]? = latest Entity.id id s.accepted) ∧
    (∀ id, (services.subscriberContents s.topic.consumer.1)[id]? =
      latest Entity.id id s.receivedEntities) ∧
    ((∀ e ∈ s.accepted, ∀ e' ∈ s.accepted, e.id = e'.id → e = e') →
      services.subscriberContents s.topic.consumer.1 = services.contents s.repo) := by
  have h := (invariant_start hempty link subscriber notifier).run hrun
  obtain ⟨stored, hstored, hsent, hlatest⟩ := h.publishes.stored
  have hsubscriber := (h.subscriber hempty').2 hworks
  -- What returned was sent, and what was sent was stored, so it is all the same
  have hall : s.accepted.Sublist (returned s.calls) := accepted_sublist_returned hreturned
  have hsame : stored = s.accepted :=
    hstored.antisymm (hall.trans (h.publishes.published.trans hsent))
  have hsame' : s.sentEntities = s.accepted :=
    (hsame ▸ hsent).antisymm (hall.trans h.publishes.published)
  rw [hsame] at hlatest
  have hdropped : s.topic.dropped = [] := dropped_run hno hrun
  have hreceived : s.accepted <+~ s.receivedEntities := by
    rw [← hsame']
    exact Delivery.subperm_filterMap services.decode
      (Delivery.sent_subperm_received h.accounted hrest hdropped)
  have hmem : ∀ entity, entity ∈ s.receivedEntities ↔ entity ∈ s.accepted := by
    refine fun entity => ⟨fun hentity => ?_, fun hentity => hreceived.subset hentity⟩
    rw [← hsame']
    exact receivedEntities_subset s hentity
  refine ⟨hmem, hreceived, hlatest, hsubscriber, fun hunique => ?_⟩
  -- Each holds the last entity under an id, and the entities are the same
  apply Std.ExtTreeMap.ext_getElem?
  intro id
  rw [hsubscriber id, hlatest id]
  exact (latest_of_mem_iff (fun e => (hmem e).symm) hunique).symm

/-! ## A message that is delivered twice -/

/-- Two services over an `InMemoryRepo` each. -/
def testServices : PubSubServices where
  RepoState := EntityMap
  LinkState := Unit
  SubscriberState := EntityMap
  NotifierState := Unit
  json := Services.documentJson exampleEntity exampleText
  readsBack := Services.documentJson_readsBack exampleEntity exampleText
  requestHandler := Services.testRequestHandler
  fromGrpcStatusCode code := if code = 0 then .ok else .other code
  fromGrpc_failure code h := by simp [h]
  publish _ := (.published "1", ())
  repo := inMemoryRepo
  contents := id
  holds := inMemoryRepo_holds
  subscriberRepo := inMemoryRepo
  subscriberContents := id
  subscriberHolds := inMemoryRepo_holds
  subscriberNotifier := none

/-- An entity is set, and its message is delivered to two callbacks at once; then it is set once
    more. -/
def testEvents : List Event :=
  [.call (.setEntity exampleEntity), .subscription (.deliver 0), .subscription (.deliver 0),
    .subscription (.acknowledge 0), .subscription (.process 0), .call (.setEntity exampleEntity),
    .subscription (.acknowledge 0), .subscription (.ackArrives 0), .subscription (.process 0),
    .subscription (.deliver 1), .subscription (.acknowledge 0), .subscription (.ackArrives 1),
    .subscription (.process 0)]

/-- The entity alone. -/
def testMap : EntityMap := (∅ : EntityMap).insert "test" exampleEntity

/-- Where that leads. -/
def testState : testServices.State where
  repo := testMap.insert "test" exampleEntity
  link := ()
  topic := ⟨[exampleText, exampleText], [1, 0, 0], [1, 0], [],
    ((testMap.insert "test" exampleEntity).insert "test" exampleEntity, ()), [0, 0, 1], []⟩
  calls := [(.setEntity exampleEntity, .set (.ok ())), (.setEntity exampleEntity, .set (.ok ()))]

theorem run_testEvents :
    run testEvents (@PubSubServices.start testServices (∅ : EntityMap) () (∅ : EntityMap) ()) =
      some testState := rfl

/-- The second of two equal changes has a message of its own, and it is accounted for. -/
theorem changes_accounted_test :
    (∃ text, testState.topic.sent[1]? = some text ∧
      testServices.decode text = some exampleEntity) ∧
    (1 ∉ testState.topic.arrived ∨ (1, .acknowledged) ∈ testState.topic.callbacks ∨
      1 ∈ testState.topic.processed ∨ 1 ∈ testState.topic.dropped) :=
  (changes_accounted rfl rfl run_testEvents).2.2.1 exampleEntity 1 (by decide)

/-- At rest the subscriber holds what the publisher holds. -/
theorem replicated_at_rest_test :
    testServices.subscriberContents testState.topic.consumer.1 =
      testServices.contents testState.repo := by
  have hreturned : ∀ c ∈ testState.calls, ∀ entity, c.1 = .setEntity entity → entity.id ≠ "" →
      c.2 = .set (.ok ()) := by
    intro c hc _ _ _
    obtain rfl | hc := List.mem_cons.mp hc
    · rfl
    · rw [List.mem_singleton.mp hc]
  have hunique : ∀ e ∈ testState.accepted, ∀ e' ∈ testState.accepted, e.id = e'.id → e = e' := by
    decide
  exact (replicated_at_rest rfl rfl run_testEvents hreturned
    ServiceRequest.inMemoryRepo_store (by decide)
    ⟨by decide, rfl⟩).2.2.2.2 hunique

end PubSubServices

end SapperBricks
