import SapperBricks.ForStd.Adapter
import SapperBricks.Spec.EntityBodies

/-!
# Services over one store

A service takes requests over HTTP, over gRPC, from a command line or as messages, and services
of different kinds may share a store. Whatever the kind of a service, its handler is an adapter
in front of the core: it refuses a request, or makes one call and answers with its result.

## Key results

- `handle_eq`: each handler as an adapter
- `requests_are_calls`: requests to services are calls of their cores
- `reads_last_set`: what is got after something was set, whatever the services
-/

namespace SapperBricks

open Adapter

variable {σ ν : Type}

/-- What the library prints of entities, it reads back. -/
def NlohmannJson.ReadsBack (lib : NlohmannJson) : Prop :=
  ∀ entity text, lib.dump (entityToJson entity) = .ok text →
    lib.parse text = .ok (entityToJson entity)

/-! ## Handlers as adapters -/

/-- A call of one of several cores. -/
abbrev CoreCall (σ ν : Type) := Core σ ν × Core.Call

/-- One step: the call is made. -/
def CoreCall.step (c : CoreCall σ ν) (s : σ × ν) : Core.Result × (σ × ν) :=
  c.1.call c.2 s

/-- A call of `GetEntity`. -/
def planGet {A : Type} (api : Core σ ν) (id : String) (reply : Except Exn (Option Entity) → A)
    (otherwise : A) : Plan (CoreCall σ ν) Core.Result A :=
  .call (api, .getEntity id) fun
    | .got result => reply result
    | .set _ => otherwise

/-- A call of `SetEntity`. -/
def planSet {A : Type} (api : Core σ ν) (entity : Entity) (reply : Except Exn Unit → A)
    (otherwise : A) : Plan (CoreCall σ ν) Core.Result A :=
  .call (api, .setEntity entity) fun
    | .set result => reply result
    | .got _ => otherwise

@[simp] theorem planGet_run {A : Type} (api : Core σ ν) (id : String)
    (reply : Except Exn (Option Entity) → A) (otherwise : A) (s : σ × ν) :
    (planGet api id reply otherwise).run CoreCall.step s =
      (reply (api.getEntity id s).1, (api.getEntity id s).2) := rfl

@[simp] theorem planSet_run {A : Type} (api : Core σ ν) (entity : Entity)
    (reply : Except Exn Unit → A) (otherwise : A) (s : σ × ν) :
    (planSet api entity reply otherwise).run CoreCall.step s =
      (reply (api.setEntity entity s).1, (api.setEntity entity s).2) := rfl

theorem planGet_map {A A' : Type} (f : A → A') (api : Core σ ν) (id : String)
    (reply : Except Exn (Option Entity) → A) (otherwise : A) :
    (planGet api id reply otherwise).map f =
      planGet api id (fun result => f (reply result)) (f otherwise) :=
  congrArg (Plan.call (api, Core.Call.getEntity id)) (funext fun r => by cases r <;> rfl)

theorem planSet_map {A A' : Type} (f : A → A') (api : Core σ ν) (entity : Entity)
    (reply : Except Exn Unit → A) (otherwise : A) :
    (planSet api entity reply otherwise).map f =
      planSet api entity (fun result => f (reply result)) (f otherwise) :=
  congrArg (Plan.call (api, Core.Call.setEntity entity)) (funext fun r => by cases r <;> rfl)

/-- The status of a request that returned what was looked up, if anything. -/
def lookupStatus (id : String) : Except Exn (Option Entity) → Except Exn Status
  | .error e => .error e
  | .ok none => .ok ⟨.notFound, "unknown entity with id " ++ id⟩
  | .ok (some _) => .ok .ok

/-- The same where the entity is printed, with its text. -/
def printedLookup (json : NlohmannJson) (id : String) :
    Except Exn (Option Entity) → Except Exn Status × Option String
  | .ok (some e) =>
    match json.dump (entityToJson e) with
    | .error what => (.error (.jsonException what), none)
    | .ok text => (.ok .ok, some text)
  | result => (lookupStatus id result, none)

/-- A lookup is a success if it returned an entity. -/
theorem lookupStatus_ok {requestHandler : RequestHandler} {id : String}
    {result : Except Exn (Option Entity)}
    (hfails : ∀ status details, result = .error (.errorForwarding status details) →
      status.code ≠ .ok)
    (h : (requestHandler.process (lookupStatus id result)).code = .ok) :
    ∃ e, result = .ok (some e) := by
  cases result with
  | error e =>
    -- An exception is never processed to a success
    refine absurd h (requestHandler.handle_failure e fun status details he => ?_)
    exact hfails status details (by rw [he])
  | ok result =>
    cases result with
    | none => cases h
    | some e => exact ⟨e, rfl⟩

/-- Where the entity is printed, it could be. -/
theorem printedLookup_ok {requestHandler : RequestHandler} {json : NlohmannJson} {id : String}
    {result : Except Exn (Option Entity)}
    (hfails : ∀ status details, result = .error (.errorForwarding status details) →
      status.code ≠ .ok)
    (h : (requestHandler.process (printedLookup json id result).1).code = .ok) :
    ∃ e text, result = .ok (some e) ∧ json.dump (entityToJson e) = .ok text ∧
      printedLookup json id result = (.ok .ok, some text) := by
  -- Without an entity nothing is printed, and the status is that of the lookup
  have hlookup : ∀ result, printedLookup json id result = (lookupStatus id result, none) →
      (∀ e, result ≠ .ok (some e)) → (∀ status details,
        result = .error (.errorForwarding status details) → status.code ≠ .ok) →
      (requestHandler.process (printedLookup json id result).1).code ≠ .ok := by
    intro result heq hnone hfails hcode
    rw [heq] at hcode
    obtain ⟨e, he⟩ := lookupStatus_ok hfails hcode
    exact hnone e he
  cases result with
  | error e => exact absurd h (hlookup _ rfl (fun _ he => by cases he) hfails)
  | ok result =>
    cases result with
    | none => exact absurd h (hlookup _ rfl (fun _ he => by cases he) hfails)
    | some e =>
      -- An entity was found: only the printing is left to fail
      unfold printedLookup at h ⊢
      dsimp only at h ⊢
      cases hdump : json.dump (entityToJson e) with
      | error what =>
        rw [hdump] at h
        exact absurd h (requestHandler.handle_failure _ fun _ _ he => by cases he)
      | ok text => exact ⟨e, text, rfl, hdump, rfl⟩

namespace HttpHandler

variable (self : HttpHandler σ ν)

/-- A response is one of success if its status is. -/
theorem fromHttp_finish {status : Status} {response : HttpResponse} :
    self.converter.fromHttp (self.finish status response).status = .ok ↔ status.code = .ok := by
  rw [finish_status]
  constructor
  · intro h
    by_contra hcode
    exact self.converter.from_to_failure _ hcode h
  · intro h
    rw [h, self.converter.from_to_ok]

/-- The response to a `GET`. -/
def getReply (id : String) (result : Except Exn (Option Entity)) : HttpResponse :=
  let r := printedLookup self.json id result
  self.finish (self.requestHandler.process r.1)
    (match r.2 with
      | none => {}
      | some text => HttpResponse.setContent {} text "application/json")

/-- The response to a `PUT`. -/
def setReply (result : Except Exn Unit) : HttpResponse :=
  self.finish (self.requestHandler.process (result.map fun _ => .ok)) {}

/-- What the server does with a request. -/
def plan (method : HttpMethod) (target body : String) :
    Plan (CoreCall σ ν) Core.Result HttpResponse :=
  let refuse e := self.finish (self.requestHandler.process (.error e)) {}
  match matchRoute (requestPath target), method with
  | none, _ => .answer ⟨404, "", ""⟩
  | some _, .get =>
    match extractId (requestPath target) with
    | .error e => .answer (refuse e)
    | .ok id => planGet self.api id (self.getReply id) {}
  | some _, .put =>
    match self.json.parse body >>= self.fromJson with
    | .error what => .answer (refuse (.invalidArgument what))
    | .ok e =>
      match extractId (requestPath target) with
      | .error ex => .answer (refuse ex)
      | .ok id =>
        if e.id ≠ id then .answer (refuse (.invalidArgument "inconsistent id"))
        else planSet self.api e self.setReply {}

/-- The call that is made for a `PUT`. -/
theorem call_of_put {target body : String} {c : CoreCall σ ν}
    (h : (self.plan .put target body).call? = some c) :
    ∃ entity, c = (self.api, .setEntity entity) := by
  unfold plan at h
  dsimp only at h
  cases hroute : matchRoute (requestPath target) with
  | none =>
    rw [hroute] at h
    cases h
  | some group =>
    rw [hroute] at h
    dsimp only at h
    -- The id, the body and their comparison: each may end the request before the call
    split at h
    · cases h
    · split at h
      · cases h
      · split at h
        · cases h
        · exact ⟨_, (Option.some.inj h).symm⟩

/-- It refuses a request, or gets or sets an entity. -/
theorem plan_cases (method : HttpMethod) (target body : String) :
    (∃ response, self.plan method target body = .answer response) ∨
    (∃ id, self.plan method target body = planGet self.api id (self.getReply id) {}) ∨
    ∃ entity, self.plan method target body = planSet self.api entity self.setReply {} := by
  -- The cases are those of the handler, in its order
  unfold plan
  dsimp only
  cases matchRoute (requestPath target) with
  | none => exact .inl ⟨_, rfl⟩
  | some group =>
    cases method with
    | get =>
      cases extractId (requestPath target) with
      | error e => exact .inl ⟨_, rfl⟩
      | ok id => exact .inr (.inl ⟨id, rfl⟩)
    | put =>
      cases self.json.parse body >>= self.fromJson with
      | error what => exact .inl ⟨_, rfl⟩
      | ok e =>
        cases extractId (requestPath target) with
        | error ex => exact .inl ⟨_, rfl⟩
        | ok id =>
          dsimp only
          by_cases hid : e.id ≠ id
          · exact .inl ⟨_, if_pos hid⟩
          · exact .inr (.inr ⟨e, if_neg hid⟩)

/-- The server is an adapter. -/
theorem serve_eq_plan (method : HttpMethod) (target body : String) (s : σ × ν) :
    self.serve method target body s = (self.plan method target body).run CoreCall.step s := by
  unfold serve handleRequest plan
  dsimp only
  cases matchRoute (requestPath target) with
  | none => rfl
  | some group =>
    cases method with
    | get =>
      dsimp only [getEntity, getEntityRequest]
      cases extractId (requestPath target) with
      | error e => rfl
      | ok id =>
        dsimp only
        rw [planGet_run]
        -- Both sides look the entity up, and then go by what was found
        cases hget : self.api.getEntity id s with
        | mk r s' =>
          cases r with
          | error e => rfl
          | ok result =>
            cases result with
            | none => rfl
            | some e =>
              dsimp only [getReply, printedLookup, toJson]
              cases self.json.dump (entityToJson e) <;> rfl
    | put =>
      dsimp only [setEntity, setEntityRequest]
      cases self.json.parse body >>= self.fromJson with
      | error what => rfl
      | ok e =>
        cases extractId (requestPath target) with
        | error ex => rfl
        | ok id =>
          dsimp only
          -- The id of the body against the one of the path
          by_cases hid : e.id ≠ id
          · rw [if_pos hid, if_pos hid]
            rfl
          · rw [if_neg hid, if_neg hid, planSet_run]
            cases self.api.setEntity e s with
            | mk r s' => cases r <;> rfl

end HttpHandler

namespace CliHandler

variable (self : CliHandler σ ν)

/-- What the process ends with, whatever there is to print. -/
def exitWith (status : Status) (text : String) : Nat × String :=
  if status.code ≠ .ok then (1, "") else (0, text)

/-- The exit code says whether the status is one of success. -/
theorem exitWith_eq_zero {status : Status} {text : String} :
    (exitWith status text).1 = 0 ↔ status.code = .ok := by
  unfold exitWith
  by_cases h : status.code = .ok <;> simp [h]

/-- What `get` ends with. -/
def getReply (id : String) (result : Except Exn (Option Entity)) : Nat × String :=
  let r := printedLookup self.json id result
  exitWith (self.requestHandler.process r.1) (r.2.getD "" ++ "\n")

/-- What `set` ends with. -/
def setReply (result : Except Exn Unit) : Nat × String :=
  exitWith (self.requestHandler.process (result.map fun _ => .ok)) ""

/-- What the process does that is run with a command line. -/
def plan (app : CliApp) (argv : List String) : Plan (CoreCall σ ν) Core.Result (Nat × String) :=
  match app.parse argv with
  | .error e => .answer (0, app.exit e)
  | .ok (.get id) => planGet self.api id (self.getReply id) (1, "")
  | .ok (.set data) =>
    match self.json.parse data >>= entityFromJson self.json with
    | .error what =>
      .answer (exitWith (self.requestHandler.process (.error (.invalidArgument what))) "")
    | .ok e => planSet self.api e self.setReply (1, "")

/-- It refuses a command line, or gets or sets an entity. -/
theorem plan_cases (app : CliApp) (argv : List String) :
    (∃ answer, self.plan app argv = .answer answer) ∨
    (∃ id, self.plan app argv = planGet self.api id (self.getReply id) (1, "")) ∨
    ∃ entity, self.plan app argv = planSet self.api entity self.setReply (1, "") := by
  unfold plan
  cases app.parse argv with
  | error e => exact .inl ⟨_, rfl⟩
  | ok command =>
    cases command with
    | get id => exact .inr (.inl ⟨id, rfl⟩)
    | set data =>
      dsimp only
      cases self.json.parse data >>= entityFromJson self.json with
      | error what => exact .inl ⟨_, rfl⟩
      | ok e => exact .inr (.inr ⟨e, rfl⟩)

/-- The request of `get`. -/
theorem getEntityRequest_eq (id : String) (s : σ × ν) :
    self.getEntityRequest id s =
      let r := printedLookup self.json id (self.api.getEntity id s).1
      (r.1, (r.2.getD "", (self.api.getEntity id s).2)) := by
  unfold getEntityRequest
  -- The lookup is the same; what is printed depends on what it found
  cases self.api.getEntity id s with
  | mk result s' =>
    cases result with
    | error e => rfl
    | ok result =>
      cases result with
      | none => rfl
      | some e =>
        dsimp only [printedLookup]
        cases self.json.dump (entityToJson e) <;> rfl

/-- The process is an adapter. -/
theorem main_eq_plan (app : CliApp) (argv : List String) (s : σ × ν) :
    self.main app argv s = (self.plan app argv).run CoreCall.step s := by
  unfold main handle plan
  cases app.parse argv with
  | error e => rfl
  | ok command =>
    cases command with
    | get id =>
      dsimp only [getEntity]
      rw [getEntityRequest_eq, planGet_run]
      -- The exit code is 1 for whatever `throwUnlessOk` throws
      by_cases hcode : (self.requestHandler.process
          (printedLookup self.json id (self.api.getEntity id s).1).1).code = .ok
      · simp [throwUnlessOk, getReply, exitWith, hcode]
      · simp [throwUnlessOk, getReply, exitWith, hcode]
    | set data =>
      dsimp only [setEntity, setEntityRequest]
      rw [setEntityFromJson_eq]
      cases self.json.parse data >>= entityFromJson self.json with
      | error what =>
        -- A text that is no entity: nothing is called
        by_cases hcode : (self.requestHandler.process (.error (.invalidArgument what))).code = .ok
        · simp [Plan.run, throwUnlessOk, exitWith, hcode]
        · simp [Plan.run, throwUnlessOk, exitWith, hcode]
      | ok e =>
        dsimp only
        rw [planSet_run]
        by_cases hcode : (self.requestHandler.process
            ((self.api.setEntity e s).1.map fun _ => .ok)).code = .ok
        · simp [throwUnlessOk, setReply, exitWith, hcode]
        · simp [throwUnlessOk, setReply, exitWith, hcode]

end CliHandler

namespace PubSubReceiver

variable (self : PubSubReceiver σ ν)

/-- What is done with a message. There is no answer. -/
def plan (message : String) : Plan (CoreCall σ ν) Core.Result Unit :=
  match self.json.parse message >>= entityFromJson self.json with
  | .error _ => .answer ()
  | .ok e => planSet self.api e (fun _ => ()) ()

/-- The receiver is an adapter. -/
theorem setEntity_eq_plan (message : String) (s : σ × ν) :
    ((), self.setEntity message s) = (self.plan message).run CoreCall.step s := by
  unfold setEntity setEntityRequest plan
  rw [setEntityFromJson_eq]
  cases self.json.parse message >>= entityFromJson self.json with
  | error what => rfl
  | ok e => rfl

end PubSubReceiver

/-- The entity of a message. -/
def EntityMessage.toEntity (message : EntityMessage) : Entity :=
  ⟨message.id, message.stringProperty, message.intProperty⟩

/-- The message of an entity that was looked up. -/
def lookupMessage : Except Exn (Option Entity) → Option EntityMessage
  | .ok (some e) => some ⟨e.id, e.stringProperty, e.intProperty⟩
  | _ => none

namespace GrpcEntityService

variable (self : GrpcEntityService σ ν)

/-- What is done for a call of `GetEntity`. -/
def planGetEntity (id : String) :
    Plan (CoreCall σ ν) Core.Result (GrpcStatus × Option EntityMessage) :=
  planGet self.api id (fun result =>
    (self.converter.toGrpcStatus (self.requestHandler.process (lookupStatus id result)),
      lookupMessage result)) (⟨0, ""⟩, none)

/-- What is done for a call of `SetEntity`. -/
def planSetEntity (entity : Option EntityMessage) : Plan (CoreCall σ ν) Core.Result GrpcStatus :=
  planSet self.api (entity.getD {}).toEntity (fun result =>
    self.converter.toGrpcStatus (self.requestHandler.process (result.map fun _ => .ok))) ⟨0, ""⟩

/-- The service is an adapter. -/
theorem getEntity_eq_plan (id : String) (s : σ × ν) :
    self.getEntity id s = (self.planGetEntity id).run CoreCall.step s := by
  unfold getEntity getEntityRequest planGetEntity
  rw [planGet_run]
  cases self.api.getEntity id s with
  | mk result s' =>
    cases result with
    | error e => rfl
    | ok result => cases result <;> rfl

theorem setEntity_eq_plan (entity : Option EntityMessage) (s : σ × ν) :
    self.setEntity entity s = (self.planSetEntity entity).run CoreCall.step s := by
  unfold setEntity setEntityRequest planSetEntity
  rw [planSet_run]
  -- Fields that are not set have their defaults on both sides
  dsimp only [EntityMessage.toEntity]
  cases self.api.setEntity _ s with
  | mk result s' => cases result <;> rfl

end GrpcEntityService

/-! ## Requests to services -/

/-- A request to a service: over HTTP or gRPC, as a command line that is run, or as a message. -/
inductive ServiceRequest (σ ν : Type) where
  | http (handler : HttpHandler σ ν) (method : HttpMethod) (target body : String)
  | grpcGet (service : GrpcEntityService σ ν) (id : String)
  | grpcSet (service : GrpcEntityService σ ν) (entity : Option EntityMessage)
  | commandLine (handler : CliHandler σ ν) (app : CliApp) (argv : List String)
  | message (receiver : PubSubReceiver σ ν) (data : String)

/-- What comes of it, for the one who made it. -/
inductive ServiceAnswer where
  | http (response : HttpResponse)
  | grpcGet (status : GrpcStatus) (entity : Option EntityMessage)
  | grpcSet (status : GrpcStatus)
  | process (exitCode : Nat) (output : String)
  | nothing
deriving DecidableEq, Repr

namespace ServiceRequest

/-- What the service does with it. -/
def handle : ServiceRequest σ ν → σ × ν → ServiceAnswer × (σ × ν)
  | http handler method target body, s =>
    let r := handler.serve method target body s
    (.http r.1, r.2)
  | grpcGet service id, s =>
    let r := service.getEntity id s
    (.grpcGet r.1.1 r.1.2, r.2)
  | grpcSet service entity, s =>
    let r := service.setEntity entity s
    (.grpcSet r.1, r.2)
  | commandLine handler app argv, s =>
    let r := handler.main app argv s
    (.process r.1.1 r.1.2, r.2)
  | message receiver data, s => (.nothing, receiver.setEntity data s)

/-- The same as a plan. -/
def plan : ServiceRequest σ ν → Plan (CoreCall σ ν) Core.Result ServiceAnswer
  | http handler method target body => (handler.plan method target body).map .http
  | grpcGet service id => (service.planGetEntity id).map fun r => .grpcGet r.1 r.2
  | grpcSet service entity => (service.planSetEntity entity).map .grpcSet
  | commandLine handler app argv => (handler.plan app argv).map fun r => .process r.1 r.2
  | message receiver data => (receiver.plan data).map fun _ => .nothing

/-- **Every handler is an adapter.** Whatever a request is and however it is made: the service
    refuses it, or makes one call of its core and answers with what comes of that. -/
theorem handle_eq (request : ServiceRequest σ ν) (s : σ × ν) :
    request.handle s = request.plan.run CoreCall.step s := by
  cases request with
  | http handler method target body =>
    rw [plan, Plan.run_map, ← handler.serve_eq_plan]
    rfl
  | grpcGet service id =>
    rw [plan, Plan.run_map, ← service.getEntity_eq_plan]
    rfl
  | grpcSet service entity =>
    rw [plan, Plan.run_map, ← service.setEntity_eq_plan]
    rfl
  | commandLine handler app argv =>
    rw [plan, Plan.run_map, ← handler.main_eq_plan]
    rfl
  | message receiver data =>
    rw [plan, Plan.run_map, ← receiver.setEntity_eq_plan]
    rfl

/-- The core of the service. -/
def api : ServiceRequest σ ν → Core σ ν
  | http handler _ _ _ => handler.api
  | grpcGet service _ => service.api
  | grpcSet service _ => service.api
  | commandLine handler _ _ => handler.api
  | message receiver _ => receiver.api

/-- What the service makes of an entity that was looked up, or of what was thrown. -/
def getReply (id : String) : ServiceRequest σ ν → Except Exn (Option Entity) → ServiceAnswer
  | http handler _ _ _, result => .http (handler.getReply id result)
  | grpcGet service _, result =>
    .grpcGet (service.converter.toGrpcStatus
      (service.requestHandler.process (lookupStatus id result))) (lookupMessage result)
  | commandLine handler _ _, result =>
    .process (handler.getReply id result).1 (handler.getReply id result).2
  | _, _ => .nothing

/-- What it makes of the end of a `SetEntity`. -/
def setReply : ServiceRequest σ ν → Except Exn Unit → ServiceAnswer
  | http handler _ _ _, result => .http (handler.setReply result)
  | grpcSet service _, result =>
    .grpcSet (service.converter.toGrpcStatus
      (service.requestHandler.process (result.map fun _ => .ok)))
  | commandLine handler _ _, result =>
    .process (handler.setReply result).1 (handler.setReply result).2
  | _, _ => .nothing

/-- The service refuses a request, or gets or sets an entity. -/
theorem plan_cases (request : ServiceRequest σ ν) :
    (∃ answer, request.plan = .answer answer) ∨
    (∃ id otherwise, request.plan = planGet request.api id (request.getReply id) otherwise) ∨
    ∃ entity otherwise, request.plan = planSet request.api entity request.setReply otherwise := by
  cases request with
  | http handler method target body =>
    -- The plan of the handler, with its answer wrapped
    obtain ⟨a, h⟩ | ⟨id, h⟩ | ⟨entity, h⟩ := handler.plan_cases method target body
    · exact .inl ⟨.http a, by rw [plan, h]; rfl⟩
    · exact .inr (.inl ⟨id, .http {}, by rw [plan, h, planGet_map]; rfl⟩)
    · exact .inr (.inr ⟨entity, .http {}, by rw [plan, h, planSet_map]; rfl⟩)
  | grpcGet service id =>
    refine .inr (.inl ⟨id, .grpcGet ⟨0, ""⟩ none, ?_⟩)
    rw [plan, GrpcEntityService.planGetEntity, planGet_map]
    rfl
  | grpcSet service entity =>
    refine .inr (.inr ⟨(entity.getD {}).toEntity, .grpcSet ⟨0, ""⟩, ?_⟩)
    rw [plan, GrpcEntityService.planSetEntity, planSet_map]
    rfl
  | commandLine handler app argv =>
    obtain ⟨a, h⟩ | ⟨id, h⟩ | ⟨entity, h⟩ := handler.plan_cases app argv
    · exact .inl ⟨.process a.1 a.2, by rw [plan, h]; rfl⟩
    · exact .inr (.inl ⟨id, .process 1 "", by rw [plan, h, planGet_map]; rfl⟩)
    · exact .inr (.inr ⟨entity, .process 1 "", by rw [plan, h, planSet_map]; rfl⟩)
  | message receiver data =>
    rw [plan, PubSubReceiver.plan]
    -- Only a message that is an entity is a call
    cases receiver.json.parse data >>= entityFromJson receiver.json with
    | error what => exact .inl ⟨.nothing, rfl⟩
    | ok e =>
      refine .inr (.inr ⟨e, .nothing, ?_⟩)
      dsimp only
      rw [planSet_map]
      rfl

/-! ## Runs -/

/-- **Requests are calls.** Requests to any services, one after the other, leave the state that the
    calls leave which their cores get, one after the other, and every answer is made of what its
    own call came to. -/
theorem requests_are_calls (requests : List (ServiceRequest σ ν)) (s : σ × ν) :
    runs handle requests s =
      (answers (requests.map plan) (runs CoreCall.step (calls plan requests) s).1,
        (runs CoreCall.step (calls plan requests) s).2) := by
  -- `handle_eq` for all requests at once, for the run lemma of adapters
  have hhandle : (handle : ServiceRequest σ ν → _) = Adapter.handle plan CoreCall.step :=
    funext fun request => funext fun s => handle_eq request s
  rw [hhandle]
  exact runs_handle plan CoreCall.step requests s

/-- It sets an entity. -/
def Sets (request : ServiceRequest σ ν) (entity : Entity) : Prop :=
  request.plan.call? = some (request.api, .setEntity entity)

/-- It gets the entity with an id. -/
def Gets (request : ServiceRequest σ ν) (id : String) : Prop :=
  request.plan.call? = some (request.api, .getEntity id)

/-- The answer says that a request succeeded. For a message there is nobody to be told. -/
def Succeeds : ServiceRequest σ ν → ServiceAnswer → Prop
  | http handler _ _ _, .http response => handler.converter.fromHttp response.status = .ok
  | grpcGet _ _, .grpcGet status _ => status.errorCode = 0
  | grpcSet _ _, .grpcSet status => status.errorCode = 0
  | commandLine _ _ _, .process exitCode _ => exitCode = 0
  | _, _ => False

/-- The answer has an entity, in its message or as the text of a document. -/
def Gives (entity : Entity) : ServiceRequest σ ν → ServiceAnswer → Prop
  | http handler _ _ _, .http response =>
    handler.json.parse response.body >>= entityFromJson handler.json = .ok entity
  | grpcGet _ _, .grpcGet _ sent => sent.map EntityMessage.toEntity = some entity
  | commandLine handler _ _, .process _ output =>
    ∃ text, output = text ++ "\n" ∧
      handler.json.parse text >>= entityFromJson handler.json = .ok entity
  | _, _ => False

/-- The JSON library of the service, if it uses one for its answers, reads back what it prints. -/
def ReadsBack : ServiceRequest σ ν → Prop
  | http handler _ _ _ => handler.json.ReadsBack
  | grpcGet _ _ => True
  | grpcSet _ _ => True
  | commandLine handler _ _ => handler.json.ReadsBack
  | message _ _ => True

/-- What turns the exceptions of a service into statuses. -/
def requestHandler : ServiceRequest σ ν → RequestHandler
  | http handler _ _ _ => handler.requestHandler
  | grpcGet service _ => service.requestHandler
  | grpcSet service _ => service.requestHandler
  | commandLine handler _ _ => handler.requestHandler
  | message receiver _ => receiver.requestHandler

/-- A request with a call is answered with what the call came to. -/
theorem Sets.handle_eq {request : ServiceRequest σ ν} {entity : Entity} (h : request.Sets entity)
    (s : σ × ν) : request.handle s =
      (request.setReply (request.api.setEntity entity s).1, (request.api.setEntity entity s).2) := by
  rw [ServiceRequest.handle_eq]
  unfold Sets at h
  -- Only a plan that sets makes this call
  obtain ⟨a, hplan⟩ | ⟨id, otherwise, hplan⟩ | ⟨e, otherwise, hplan⟩ := request.plan_cases
  · rw [hplan] at h
    cases h
  · rw [hplan] at h
    cases h
  · rw [hplan] at h ⊢
    cases h
    rfl

theorem Gets.handle_eq {request : ServiceRequest σ ν} {id : String} (h : request.Gets id)
    (s : σ × ν) : request.handle s =
      (request.getReply id (request.api.getEntity id s).1, (request.api.getEntity id s).2) := by
  rw [ServiceRequest.handle_eq]
  unfold Gets at h
  -- Only a plan that gets makes this call
  obtain ⟨a, hplan⟩ | ⟨id, otherwise, hplan⟩ | ⟨e, otherwise, hplan⟩ := request.plan_cases
  · rw [hplan] at h
    cases h
  · rw [hplan] at h ⊢
    cases h
    rfl
  · rw [hplan] at h
    cases h

/-- The core that a request calls is that of its service. -/
theorem call_api {request : ServiceRequest σ ν} {c : CoreCall σ ν}
    (h : request.plan.call? = some c) : c.1 = request.api := by
  -- Both kinds of plan call the core of the service
  obtain ⟨a, hplan⟩ | ⟨id, otherwise, hplan⟩ | ⟨e, otherwise, hplan⟩ := request.plan_cases
  · rw [hplan] at h
    cases h
  · rw [hplan] at h
    cases h
    rfl
  · rw [hplan] at h
    cases h
    rfl

/-- A request that sets succeeds if its status does. -/
theorem succeeds_setReply {request : ServiceRequest σ ν} {result : Except Exn Unit}
    (h : request.Succeeds (request.setReply result)) :
    (request.requestHandler.process (result.map fun _ => .ok)).code = .ok := by
  cases request with
  | http handler method target body => exact handler.fromHttp_finish.mp h
  | grpcGet service id => cases h
  | grpcSet service entity => exact (service.converter.errorCode_eq_zero _).mp h
  | commandLine handler app argv => exact CliHandler.exitWith_eq_zero.mp h
  | message receiver data => cases h

/-- A request that gets has succeeded if an entity was looked up, and then gives it. -/
theorem succeeds_getReply {request : ServiceRequest σ ν} {id : String}
    {result : Except Exn (Option Entity)} (hreads : request.ReadsBack)
    (hfails : ∀ status details, result = .error (.errorForwarding status details) →
      status.code ≠ .ok)
    (h : request.Succeeds (request.getReply id result)) :
    ∃ entity, result = .ok (some entity) ∧ request.Gives entity (request.getReply id result) := by
  cases request with
  | http handler method target body =>
    -- A status of success means that an entity was printed
    obtain ⟨e, text, hresult, hdump, hprinted⟩ :=
      printedLookup_ok hfails (handler.fromHttp_finish.mp h)
    refine ⟨e, hresult, ?_⟩
    -- The body is the printed text, which the library reads back
    have hbody : (handler.getReply id result).body = text := by
      rw [HttpHandler.getReply, hprinted]
      rfl
    show handler.json.parse (handler.getReply id result).body >>= entityFromJson handler.json = _
    rw [hbody, hreads e text hdump]
    exact entityFromJson_entityToJson handler.json e
  | grpcGet service id' =>
    -- No text here: the message carries the entity itself
    obtain ⟨e, rfl⟩ := lookupStatus_ok hfails ((service.converter.errorCode_eq_zero _).mp h)
    exact ⟨e, rfl, rfl⟩
  | grpcSet service entity => cases h
  | commandLine handler app argv =>
    obtain ⟨e, text, hresult, hdump, hprinted⟩ :=
      printedLookup_ok hfails (CliHandler.exitWith_eq_zero.mp h)
    -- What is printed is the same text and a line break
    refine ⟨e, hresult, text, ?_, ?_⟩
    · rw [CliHandler.getReply, hprinted]
      rfl
    · rw [hreads e text hdump]
      exact entityFromJson_entityToJson handler.json e
  | message receiver data => cases h

end ServiceRequest

/-! ## A store that is shared -/

/-- A repo of a store that services share: it holds a map, and does not throw a success. -/
structure SharedStore (σ : Type) where
  repo : EntityRepo σ
  contents : σ → EntityMap
  holds : repo.Holds contents
  store_fails : ∀ entity s status details,
    (repo.store entity s).1 = .error (.errorForwarding status details) → status.code ≠ .ok
  retrieve_fails : ∀ id s status details,
    (repo.retrieve id s).1 = .error (.errorForwarding status details) → status.code ≠ .ok

namespace ServiceRequest

variable {store : SharedStore σ}

/-- The service of a request uses the store. -/
def Uses (store : SharedStore σ) (request : ServiceRequest σ ν) : Prop :=
  request.api.repo = some store.repo

/-- If the status of a `SetEntity` is one of success, the entity is stored. -/
theorem stored_of_succeeds {core : Core σ ν} (hrepo : core.repo = some store.repo) {entity : Entity}
    {s : σ × ν} {requestHandler : RequestHandler}
    (h : (requestHandler.process ((core.setEntity entity s).1.map fun _ => .ok)).code = .ok) :
    store.contents (core.setEntity entity s).2.1 =
      (store.contents s.1).insert entity.id entity := by
  -- Refused for its id, not stored, or stored: the first two end with an exception
  obtain ⟨-, heq⟩ | ⟨-, e, hstore, heq⟩ | ⟨-, hstore, heq⟩ := Core.setEntity_cases hrepo entity s
  · rw [heq] at h
    exact absurd h (requestHandler.handle_failure _ fun _ _ he => by cases he)
  · rw [heq] at h
    refine absurd h (requestHandler.handle_failure e fun status details he => ?_)
    exact store.store_fails entity s.1 status details (by rw [hstore, he])
  · rw [heq]
    exact store.holds.store_ok entity s.1 hstore

/-- What a failed `GetEntity` of such a service threw is no success. -/
theorem getEntity_fails {core : Core σ ν} (hrepo : core.repo = some store.repo) {id : String}
    {s : σ × ν} (status : Status) (details : String)
    (h : (core.getEntity id s).1 = .error (.errorForwarding status details)) :
    status.code ≠ .ok := by
  unfold Core.getEntity at h
  rw [hrepo] at h
  dsimp only at h
  split at h
  · cases h
  · exact store.retrieve_fails id s.1 status details h

/-- A request that sets no entity with an id leaves what is held under it. -/
theorem keeps {request : ServiceRequest σ ν} (huses : request.Uses store) {id : String}
    (hother : ∀ e, request.Sets e → e.id ≠ id) (c : CoreCall σ ν)
    (hc : request.plan.call? = some c) (s : σ × ν) :
    (store.contents (c.step s).2.1)[id]? = (store.contents s.1)[id]? := by
  have hrepo : c.1.repo = some store.repo := by
    rw [call_api hc]
    exact huses
  obtain ⟨core, call⟩ := c
  cases call with
  | getEntity id' =>
    -- A lookup leaves the contents as they are
    have hsame := (Core.getEntity_spec hrepo store.holds id' s).1
    exact congrArg (·[id]?) hsame
  | setEntity e =>
    -- The request sets something else, so the id is another one
    have hid : e.id ≠ id := by
      apply hother e
      rw [Sets, hc, ← call_api hc]
    -- Stored or not, what is held under this id stays
    obtain hsame | hset := Core.setEntity_contents hrepo store.holds e s
    · exact congrArg (·[id]?) hsame
    · have hget := congrArg (·[id]?) hset
      simp only [Std.ExtTreeMap.getElem?_insert, Std.compare_eq_iff_eq, hid, if_false] at hget
      exact hget

/-- **What was set last is what is got.** Services of any kinds share a store. One of them answers a
    request that an entity was set. Whatever requests follow to any of them, as long as none sets
    an entity with the same id: a request that gets the entity and is answered as a success is
    given exactly this entity, whatever failed in between. -/
theorem reads_last_set (store : SharedStore σ) {setter getter : ServiceRequest σ ν}
    {between : List (ServiceRequest σ ν)} {entity : Entity} (hset : setter.Sets entity)
    (hget : getter.Gets entity.id) (hreads : getter.ReadsBack) (hsetter : setter.Uses store)
    (hgetter : getter.Uses store)
    (hbetween : ∀ request ∈ between, request.Uses store ∧ ∀ e, request.Sets e → e.id ≠ entity.id)
    (s : σ × ν) (hsucceeds : setter.Succeeds (setter.handle s).1) :
    let s' := (runs handle between (setter.handle s).2).2
    getter.Succeeds (getter.handle s').1 → getter.Gives entity (getter.handle s').1 := by
  intro s' hgot
  -- A success of the first request means that the entity is stored
  rw [hset.handle_eq] at hsucceeds
  have hstored := stored_of_succeeds hsetter (succeeds_setReply hsucceeds)
  -- The requests in between are calls, and none of them sets anything under this id
  have hheld : (store.contents s'.1)[entity.id]? = some entity := by
    have hrun : s' = (runs (Adapter.handle plan CoreCall.step) between
        (setter.api.setEntity entity s).2).2 := by
      have hhandle : (handle : ServiceRequest σ ν → _) = Adapter.handle plan CoreCall.step :=
        funext fun request => funext fun s => handle_eq request s
      rw [← hhandle, ← congrArg Prod.snd (hset.handle_eq s)]
    rw [hrun]
    refine @runs_keeps _ _ _ _ (σ × ν) plan CoreCall.step
      (fun t => (store.contents t.1)[entity.id]? = some entity) between ?_ _ ?_
    · intro request hrequest c hc t ht
      obtain ⟨huses, hother⟩ := hbetween request hrequest
      rw [keeps huses hother c hc t]
      exact ht
    · rw [hstored]
      simp
  -- So this is what the last request looks up and gives
  rw [hget.handle_eq] at hgot ⊢
  obtain ⟨e, hresult, hgives⟩ := succeeds_getReply hreads (getEntity_fails hgetter) hgot
  have he := (Core.getEntity_spec hgetter store.holds entity.id s').2.2 _ hresult
  rw [hheld, Option.some.injEq] at he
  rw [he] at hgives
  exact hgives

/-! ## A PUT, other requests, and a command line -/

/-- `InMemoryRepo` throws nothing. -/
theorem inMemoryRepo_store (entity : Entity) (data : EntityMap) :
    (inMemoryRepo.store entity data).1 = .ok () := rfl

theorem inMemoryRepo_retrieve (id : String) (data : EntityMap) :
    (inMemoryRepo.retrieve id data).1 = .ok data[id]? := by
  simp only [inMemoryRepo, InMemoryRepo.retrieve]
  cases data[id]? <;> rfl

/-- The store of an `InMemoryRepo`. -/
def testStore : SharedStore EntityMap where
  repo := inMemoryRepo
  contents := id
  holds := inMemoryRepo_holds
  store_fails entity data _ _ h := by
    rw [inMemoryRepo_store] at h
    cases h
  retrieve_fails id data _ _ h := by
    rw [inMemoryRepo_retrieve] at h
    cases h

/-- The core of services over it, without a notifier. -/
def testCore : Core EntityMap Unit := ⟨some inMemoryRepo, none⟩

/-- The status codes of gRPC. -/
def testGrpcConverter : GrpcStatusConverter where
  toGrpcStatus status := ⟨if status.code = .ok then 0 else 2, status.details⟩
  errorCode_eq_zero status := by
    dsimp only
    split <;> simp_all

/-- The command line of the usage examples. -/
def testApp : CliApp where
  ParseError := Unit
  parse
    | ["get", "--id", id] => .ok (.get id)
    | ["set", "--data", data] => .ok (.set data)
    | _ => .error ()
  exit _ := ""

/-- The entity of the usage examples is put over HTTP. -/
def testPut : ServiceRequest EntityMap Unit :=
  .http ⟨Services.documentJson exampleEntity exampleText, Services.testRequestHandler,
    Services.testConverter, testCore⟩ .put "/Entity/test" exampleText

/-- An entity that is not set is refused over gRPC. -/
def testRefused : ServiceRequest EntityMap Unit :=
  .grpcSet ⟨Services.testRequestHandler, testGrpcConverter, testCore⟩ none

/-- The entity is read from a command line. -/
def testGet : ServiceRequest EntityMap Unit :=
  .commandLine ⟨Services.documentJson exampleEntity exampleText, Services.testRequestHandler,
    testCore⟩ testApp ["get", "--id", "test"]

/-- The command line prints what was put. -/
theorem reads_last_set_test :
    let s' := (runs handle [testRefused] (testPut.handle (∅, ())).2).2
    (testGet.handle s').1 = .process 0 (exampleText ++ "\n") ∧
      testGet.Gives exampleEntity (testGet.handle s').1 := by
  have hbetween : ∀ request ∈ [testRefused], request.Uses testStore ∧
      ∀ e, request.Sets e → e.id ≠ exampleEntity.id := by
    intro request hrequest
    rw [List.mem_singleton] at hrequest
    subst hrequest
    -- An entity that is not set has the empty id
    refine ⟨rfl, fun e he => ?_⟩
    have hcall : testRefused.plan.call? = some (testCore, .setEntity ⟨"", "", 0⟩) := rfl
    rw [Sets, hcall] at he
    cases he
    decide
  exact ⟨rfl, @reads_last_set _ _ testStore testPut testGet [testRefused] exampleEntity rfl rfl
    (Services.documentJson_readsBack exampleEntity exampleText) rfl rfl hbetween (∅, ()) rfl rfl⟩

end ServiceRequest

end SapperBricks
