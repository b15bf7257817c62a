import SapperBricks.Native.Tracing

/-!
# Services that are traced

Services that all have the hooks of `TracingRequestHook`, and the requests on their threads: those
that handlers receive (`handler-http.cpp`, `handler-grpc.cpp`, `handler-pubsub.cpp`,
`handler-cli.cpp`), those that notifiers and repositories issue meanwhile (`notifier-http.cpp`,
`notifier-pubsub.cpp`, `postgres-connection-manager.cpp`), and those that are received of what
notifiers send.

What a notifier sends are the metadata of its request, as far as they are to be propagated, as the
headers of an HTTP request or the attributes of a message. They may be received on any thread, more
than once, after others that were sent later, or not at all.
-/

namespace SapperBricks

open TracingRequestHook

/-- `headers_to_propagate`, as `main` makes it: the headers of other bricks, an empty one, and those
    of the tracer. -/
def headersToPropagate (others : List String) (type : PropagationType) : List String :=
  others ++ [""] ++ type.getPropagationHeaders

/-- What is exported of a span. -/
structure SpanData (Span : Type) where
  name : String
  parent : Option Span
  span : Span
deriving DecidableEq, Repr

namespace TracedServices

variable {Θ Span : Type}

/-- How services are set up, whose threads are those of a type `Θ`. -/
structure Setup (Θ Span : Type) where
  type : PropagationType
  /-- opentelemetry with the propagator of this type -/
  openTelemetry : OpenTelemetry Span
  /-- the other headers to propagate of the service of a thread -/
  others : Θ → List String
  /-- what `GetFilteredMetadata` gives for some headers, as metadata of the request that the
      receiver makes of it -/
  transport : List String → Metadata → Metadata

/-- A request in progress, and what is kept for its end. -/
abbrev InProgress (Span : Type) := TracedRequest × (Impl Span × Metadata)

structure State (Θ Span : Type) where
  threads : Θ → Thread Span
  /-- the requests in progress on a thread, the innermost first -/
  pending : Θ → List (InProgress Span)
  /-- the spans of all the requests, in the order in which these were made -/
  spans : List (SpanData Span)
  /-- the metadata that were sent, as they arrive -/
  sent : List Metadata

/-- Before any request. -/
def State.initial : State Θ Span where
  threads _ := ⟨[], [], 0, []⟩
  pending _ := []
  spans := []
  sent := []

/-- What happens on a thread. -/
inductive Event (Θ : Type) where
  /-- a handler receives a request from outside -/
  | receive (thread : Θ) (name : String) (metadata : Metadata)
  /-- a handler receives what was sent -/
  | deliver (thread : Θ) (name : String) (message : Nat)
  /-- a notifier or a repository issues a request -/
  | issue (thread : Θ) (name : String)
  /-- an attempt of the issued request: its metadata are sent -/
  | send (thread : Θ)
  /-- the innermost request is over -/
  | finish (thread : Θ)
  /-- an exception is thrown in it -/
  | throw (thread : Θ)
deriving DecidableEq, Repr

variable [DecidableEq Θ]

/-- Process a request with a hook of its own. The span it starts is exported with the one that is
    active then, as its parent. -/
def enter (ot : OpenTelemetry Span) (thread : Θ) (request : TracedRequest)
    (s : State Θ Span) : State Θ Span :=
  let t := { s.threads thread with started := s.spans.length }
  let r := (tracedRequests ot).enter request t
  let parent := (createRemoteScope ot request.type {} (request.localize t)).2.active
  { s with
    threads := Function.update s.threads thread r.2
    pending := Function.update s.pending thread ((request, r.1) :: s.pending thread)
    spans := s.spans ++ r.1.1.span.toList.map fun span => ⟨request.name, parent, span⟩ }

/-- An exception leaves issued requests, and their hooks are destroyed. In a received one it is
    caught, by the `ExceptionHandlingRequestHook` that `main` registers after the tracing hook. -/
def unwind : List (InProgress Span) → Thread Span → List (InProgress Span) × Thread Span
  | (.outgoing _, kept) :: pending, t => unwind pending (destroy kept.1 t)
  | pending, t => (pending, t)

/-- Go on, if possible. -/
def step (setup : Setup Θ Span) (event : Event Θ) (s : State Θ Span) :
    Option (State Θ Span) :=
  match event with
  | .receive thread name metadata =>
    some (enter setup.openTelemetry thread (.incoming name metadata) s)
  | .deliver thread name message =>
    s.sent[message]?.map fun metadata =>
      enter setup.openTelemetry thread (.incoming name metadata) s
  | .issue thread name => some (enter setup.openTelemetry thread (.outgoing name) s)
  | .send thread =>
    match s.pending thread with
    | (.outgoing _, _) :: _ =>
      let headers := headersToPropagate (setup.others thread) setup.type
      some { s with sent := s.sent ++ [setup.transport headers (s.threads thread).metadata] }
    | _ => none
  | .finish thread =>
    match s.pending thread with
    | [] => none
    | (request, kept) :: pending =>
      let t := (tracedRequests setup.openTelemetry).leave request kept (s.threads thread)
      some { s with
        threads := Function.update s.threads thread t
        pending := Function.update s.pending thread pending }
  | .throw thread =>
    let r := unwind (s.pending thread) (s.threads thread)
    some { s with
      threads := Function.update s.threads thread r.2
      pending := Function.update s.pending thread r.1 }

end TracedServices

end SapperBricks
