import SapperBricks.Native.Http

/-!
# Entities from a command line, from messages and from gRPC

The handlers beside the HTTP handler: the command line (`handler-cli.cpp`), Pub/Sub messages
(`handler-pubsub.cpp`) and gRPC (`handler-grpc.cpp`). The metadata of requests are left out.
-/

namespace SapperBricks

/-- The request that a JSON text is processed as: a text that is no entity is an invalid
    argument, any other entity is set. -/
def setEntityFromJson {σ ν : Type} (json : NlohmannJson) (api : Core σ ν) (text : String)
    (s : σ × ν) : Except Exn Status × (σ × ν) :=
  match json.parse text >>= entityFromJson json with
  | .error what => (.error (.invalidArgument what), s)
  | .ok e =>
    match api.setEntity e s with
    | (.error ex, s) => (.error ex, s)
    | (.ok (), s) => (.ok .ok, s)

/-! ## Command line -/

/-- `CliHandler`. -/
structure CliHandler (σ ν : Type) where
  json : NlohmannJson
  requestHandler : RequestHandler
  api : Core σ ν

namespace CliHandler

variable {σ ν : Type} (self : CliHandler σ ν)

/-- What `getEntity` processes as a request, with the text it leaves in `entityJson`. -/
def getEntityRequest (id : String) (s : σ × ν) : Except Exn Status × (String × (σ × ν)) :=
  match self.api.getEntity id s with
  | (.error e, s) => (.error e, ("", s))
  | (.ok none, s) => (.ok ⟨.notFound, "unknown entity with id " ++ id⟩, ("", s))
  | (.ok (some e), s) =>
    match self.json.dump (entityToJson e) with
    | .error what => (.error (.jsonException what), ("", s))
    | .ok text => (.ok .ok, (text, s))

/-- What `setEntity` processes as a request. -/
def setEntityRequest (data : String) (s : σ × ν) : Except Exn Status × (σ × ν) :=
  setEntityFromJson self.json self.api data s

/-- What is thrown for a status. -/
def throwUnlessOk {α : Type} (status : Status) (result : α) : Except Exn α :=
  if status.code ≠ .ok then .error (.runtimeError (cStr status.details)) else .ok result

/-- `CliHandler::getEntity`. -/
def getEntity (id : String) (s : σ × ν) : Except Exn String × (σ × ν) :=
  let r := self.getEntityRequest id s
  (throwUnlessOk (self.requestHandler.process r.1) r.2.1, r.2.2)

/-- `CliHandler::setEntity`. -/
def setEntity (data : String) (s : σ × ν) : Except Exn Unit × (σ × ν) :=
  let r := self.setEntityRequest data s
  (throwUnlessOk (self.requestHandler.process r.1) (), r.2)

end CliHandler

/-- What is to be done for a command line. -/
inductive CliCommand where
  | get (id : String)
  | set (data : String)
deriving DecidableEq, Repr

/-- `CLI::App` with the options and subcommands that `Handle` adds. -/
structure CliApp where
  /-- the class `CLI::ParseError` -/
  ParseError : Type
  parse : List String → Except ParseError CliCommand
  /-- what `exit` prints on the standard output, as it does for a call for help -/
  exit : ParseError → String

namespace CliHandler

variable {σ ν : Type} (self : CliHandler σ ν)

/-- `CliHandler::Handle`, with what it prints. The callbacks of the subcommands are called by
    `parse`, and the exit code that `exit` returns is ignored. -/
def handle (app : CliApp) (argv : List String) (s : σ × ν) : Except Exn String × (σ × ν) :=
  match app.parse argv with
  | .error e => (.ok (app.exit e), s)
  | .ok (.get id) =>
    match self.getEntity id s with
    | (.error e, s) => (.error e, s)
    | (.ok text, s) => (.ok (text ++ "\n"), s)
  | .ok (.set data) =>
    match self.setEntity data s with
    | (.error e, s) => (.error e, s)
    | (.ok (), s) => (.ok "", s)

/-- `main`, with its exit code and what is printed on the standard output. -/
def main (app : CliApp) (argv : List String) (s : σ × ν) : (Nat × String) × (σ × ν) :=
  match self.handle app argv s with
  | (.ok text, s) => ((0, text), s)
  | (.error _, s) => ((1, ""), s)

end CliHandler

/-! ## Messages -/

/-- `PubSubHandler`, as far as it processes messages. -/
structure PubSubReceiver (σ ν : Type) where
  json : NlohmannJson
  requestHandler : RequestHandler
  api : Core σ ν

namespace PubSubReceiver

variable {σ ν : Type} (self : PubSubReceiver σ ν)

/-- What `setEntity` processes as a request. -/
def setEntityRequest (message : String) (s : σ × ν) : Except Exn Status × (σ × ν) :=
  setEntityFromJson self.json self.api message s

/-- `PubSubHandler::setEntity`. The status of the request is ignored: the message is
    acknowledged before it is processed. -/
def setEntity (message : String) (s : σ × ν) : σ × ν :=
  (self.setEntityRequest message s).2

end PubSubReceiver

/-! ## gRPC -/

/-- The message `EntityPackage.Entity`. What is not set has its default. -/
structure EntityMessage where
  id : String := ""
  stringProperty : String := ""
  intProperty : Int32 := 0
deriving DecidableEq, Repr

/-- `grpc::Status`. -/
structure GrpcStatus where
  errorCode : Nat
  errorMessage : String
deriving DecidableEq, Repr

/-- `mse::ToGrpcStatus`. -/
structure GrpcStatusConverter where
  toGrpcStatus : Status → GrpcStatus
  errorCode_eq_zero : ∀ status, (toGrpcStatus status).errorCode = 0 ↔ status.code = .ok

/-- `GrpcHandler`, as far as it serves requests. -/
structure GrpcEntityService (σ ν : Type) where
  requestHandler : RequestHandler
  converter : GrpcStatusConverter
  api : Core σ ν

namespace GrpcEntityService

variable {σ ν : Type} (self : GrpcEntityService σ ν)

/-- What `GetEntity` processes as a request, with the entity of its response. -/
def getEntityRequest (id : String) (s : σ × ν) :
    Except Exn Status × (Option EntityMessage × (σ × ν)) :=
  match self.api.getEntity id s with
  | (.error e, s) => (.error e, (none, s))
  | (.ok none, s) => (.ok ⟨.notFound, "unknown entity with id " ++ id⟩, (none, s))
  | (.ok (some e), s) => (.ok .ok, (some ⟨e.id, e.stringProperty, e.intProperty⟩, s))

/-- `GetEntity`. -/
def getEntity (id : String) (s : σ × ν) : (GrpcStatus × Option EntityMessage) × (σ × ν) :=
  let r := self.getEntityRequest id s
  ((self.converter.toGrpcStatus (self.requestHandler.process r.1), r.2.1), r.2.2)

/-- What `SetEntity` processes as a request. An entity that is not set is read as its default. -/
def setEntityRequest (entity : Option EntityMessage) (s : σ × ν) : Except Exn Status × (σ × ν) :=
  let message := entity.getD {}
  match self.api.setEntity ⟨message.id, message.stringProperty, message.intProperty⟩ s with
  | (.error e, s) => (.error e, s)
  | (.ok (), s) => (.ok .ok, s)

/-- `SetEntity`. -/
def setEntity (entity : Option EntityMessage) (s : σ × ν) : GrpcStatus × (σ × ν) :=
  let r := self.setEntityRequest entity s
  (self.converter.toGrpcStatus (self.requestHandler.process r.1), r.2)

end GrpcEntityService

end SapperBricks
