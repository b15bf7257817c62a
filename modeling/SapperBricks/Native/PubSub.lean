import SapperBricks.Native.EntityHandlers

/-!
# Pub/Sub notifier

The notifier that publishes changed entities to a topic (`notifier-pubsub.cpp`). The attributes
of the messages are left out.
-/

namespace SapperBricks

/-- `google::cloud::Status`. -/
structure CloudStatus where
  code : Nat
  message : String
deriving DecidableEq, Repr

/-- `pubsub::Publisher`, for a topic whose state is `β`: what the future of `Publish` holds, the id
    of the message or a status that is not that of success. -/
structure PubSubPublisher (β : Type) where
  publish : String → β → Except CloudStatus String × β
  code_ne_zero : ∀ data b status, (publish data b).1 = .error status → status.code ≠ 0

/-- `PubSubNotifier`. -/
structure PubSubNotifier (β : Type) where
  json : NlohmannJson
  /-- `mse::FromGrpcStatusCode` -/
  fromGrpcStatusCode : Nat → StatusCode
  fromGrpc_failure : ∀ code, code ≠ 0 → fromGrpcStatusCode code ≠ .ok
  publisher : PubSubPublisher β

namespace PubSubNotifier

variable {β : Type} (self : PubSubNotifier β)

/-- What `EntityChanged` processes as a request. -/
def request (entity : Entity) (b : β) : Except Exn Status × β :=
  match self.json.dump (entityToJson entity) with
  | .error what => (.error (.jsonException what), b)
  | .ok data =>
    match self.publisher.publish data b with
    | (.error status, b) => (.ok ⟨self.fromGrpcStatusCode status.code, status.message⟩, b)
    | (.ok _, b) => (.ok .ok, b)

/-- `PubSubNotifier::EntityChanged`. There is one attempt. -/
def entityChanged (entity : Entity) (b : β) : Except Exn Unit × β :=
  let r := self.request entity b
  (forwardErrors r.1, r.2)

/-- The notifier as the core sees it. -/
def notifier : EntityNotifier β where
  entityChanged := self.entityChanged

end PubSubNotifier

end SapperBricks
