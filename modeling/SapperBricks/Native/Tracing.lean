import SapperBricks.ForStd.Nested

/-!
# Tracing

The hook that makes a span for each request and keeps the headers of the request metadata in
step with it (`tracing-request-hook.cpp`, `mse-context-carrier.cpp`), and what it uses of
opentelemetry: the propagator of its propagation type, the tracer, and the stack of contexts
of a thread.

The status and the times of spans, and where they are sent, are left out. A span is named by
its ids, of a type `Span`; the invalid span is `none`.
-/

namespace SapperBricks

/-! ## Request metadata -/

/-- `mse::Context::Metadata`, a `std::multimap` from names to values. -/
abbrev Metadata := List (String × String)

/-! `MSEContextCarrier`, over the metadata of a context. -/

namespace MSEContextCarrier

/-- `Get`. -/
def get (metadata : Metadata) (key : String) : String :=
  ((metadata.find? fun m => m.1 = key).map Prod.snd).getD ""

/-- `Set`: what is there under the key is erased. -/
def set (metadata : Metadata) (key value : String) : Metadata :=
  (metadata.filter fun m => m.1 ≠ key) ++ [(key, value)]

/-- The value under the key that is set, and the values under the others. -/
theorem get_set (metadata : Metadata) (key value : String) :
    get (set metadata key value) = Function.update (get metadata) key value := by
  funext k
  unfold get set
  by_cases hk : k = key
  · subst hk
    have hnone : (metadata.filter fun m => m.1 ≠ k).find? (fun m => m.1 = k) = none := by
      simp
    rw [Function.update_self, List.find?_append, hnone]
    simp
  · have hother : ((metadata.filter fun m => m.1 ≠ key) ++ [(key, value)]).find?
        (fun m => m.1 = k) = metadata.find? fun m => m.1 = k := by
      rw [List.find?_append, List.find?_filter]
      have hlast : [(key, value)].find? (fun m => m.1 = k) = none := by
        simp [Ne.symm hk]
      rw [hlast, Option.or_none]
      congr 1
      funext m
      by_cases hm : m.1 = k <;> simp [hm, hk]
    rw [Function.update_of_ne hk, hother]

end MSEContextCarrier

/-! ## Opentelemetry -/

/-- What the hook uses of opentelemetry. -/
structure OpenTelemetry (Span : Type) where
  /-- `Extract` of the propagator, from a carrier: the span in the context it returns -/
  extract : (String → String) → Option Span
  /-- `Inject` of the propagator in a context with a valid span: the headers that it sets; it
      sets none for an invalid span -/
  inject : Span → List (String × String)
  /-- `StartSpan` of the tracer, from the name, the span that is active, and how many were
      started before -/
  startSpan : String → Option Span → Nat → Span

/-- What the hooks of a thread act on. -/
structure Thread (Span : Type) where
  /-- the spans of the contexts that are attached, the newest first -/
  contexts : List (Option Span)
  /-- the metadata of the thread-local context -/
  metadata : Metadata
  started : Nat
  ended : List Span

namespace Thread

variable {Span : Type}

/-- The span of `RuntimeContext::GetCurrent()`. -/
def active (t : Thread Span) : Option Span :=
  t.contexts.head?.join

/-- What `Detach` is given: how many contexts were attached before. -/
abbrev Token := Nat

/-- The constructor of a `Scope`. -/
def withActiveSpan (span : Option Span) (t : Thread Span) : Token × Thread Span :=
  (t.contexts.length, { t with contexts := span :: t.contexts })

/-- The destructor of a `Scope`: everything is detached that was attached since, and what it
    attached itself. -/
def detach (token : Token) (t : Thread Span) : Thread Span :=
  { t with contexts := t.contexts.drop (t.contexts.length - token) }

end Thread

/-! ## The hook -/

/-- `PropagationType`. -/
inductive PropagationType where
  | b3SingleHeader
  | b3MultiHeader
  | http
deriving DecidableEq, Repr

/-- `get_propagation_headers`. -/
def PropagationType.getPropagationHeaders : PropagationType → List String
  | b3SingleHeader => ["b3"]
  | b3MultiHeader => ["X-B3-TraceId", "X-B3-SpanId", "X-B3-Sampled"]
  | http => ["traceparent", "tracestate"]

namespace TracingRequestHook

variable {Span : Type}

/-- `Impl`, as far as it changes. -/
structure Impl (Span : Type) where
  remoteScope : Option Thread.Token := none
  scope : Option Thread.Token := none
  span : Option Span := none

/-- `mse::RequestType`. -/
inductive RequestType where
  | incoming
  | outgoing
deriving DecidableEq, Repr

/-- `Inject` of the active span into the metadata of the thread-local context. -/
def injectCurrent (ot : OpenTelemetry Span) (t : Thread Span) : Thread Span :=
  match t.active with
  | none => t
  | some span =>
    { t with
      metadata := (ot.inject span).foldl (fun m h => MSEContextCarrier.set m h.1 h.2) t.metadata }

/-- The first step of `pre_process`: the span in the metadata of an incoming request. -/
def createRemoteScope (ot : OpenTelemetry Span) (type : RequestType) (impl : Impl Span)
    (t : Thread Span) : Impl Span × Thread Span :=
  match type with
  | .incoming =>
    let scope := t.withActiveSpan (ot.extract (MSEContextCarrier.get t.metadata))
    ({ impl with remoteScope := some scope.1 }, scope.2)
  | .outgoing => (impl, t)

/-- Its second step: the span of the request. -/
def createScope (ot : OpenTelemetry Span) (request : String) (impl : Impl Span)
    (t : Thread Span) : Impl Span × Thread Span :=
  let span := ot.startSpan request t.active t.started
  let scope := { t with started := t.started + 1 }.withActiveSpan (some span)
  ({ impl with span := some span, scope := some scope.1 }, scope.2)

/-- `pre_process`. The metadata of the context it is given are those of the thread-local one. -/
def preProcess (ot : OpenTelemetry Span) (type : RequestType) (request : String)
    (impl : Impl Span) (t : Thread Span) : Impl Span × Thread Span :=
  let r := createRemoteScope ot type impl t
  let r := createScope ot request r.1 r.2
  (r.1, injectCurrent ot r.2)

/-- Resetting a pointer to a scope. -/
def resetScope (scope : Option Thread.Token) (t : Thread Span) : Thread Span :=
  match scope with
  | none => t
  | some token => t.detach token

/-- `post_process`. -/
def postProcess (ot : OpenTelemetry Span) (impl : Impl Span) (t : Thread Span) :
    Impl Span × Thread Span :=
  let t := { t with ended := t.ended ++ impl.span.toList }
  let t := resetScope impl.scope t
  let t := injectCurrent ot t
  let t := resetScope impl.remoteScope t
  ({}, t)

/-- The destructor of a hook, without `post_process` before: its scopes are destroyed, and the span
    ends itself once no context has it any more. -/
def destroy (impl : Impl Span) (t : Thread Span) : Thread Span :=
  let t := resetScope impl.scope t
  let t := { t with ended := t.ended ++ impl.span.toList }
  resetScope impl.remoteScope t

end TracingRequestHook

/-! ## Requests of a thread -/

open TracingRequestHook

/-- A request with its name; an incoming one has metadata of its own. -/
inductive TracedRequest where
  | incoming (name : String) (metadata : Metadata)
  | outgoing (name : String)
deriving DecidableEq, Repr

namespace TracedRequest

variable {Span : Type}

def type : TracedRequest → RequestType
  | incoming _ _ => .incoming
  | outgoing _ => .outgoing

def name : TracedRequest → String
  | incoming name _ => name
  | outgoing name => name

/-- The thread as the hook of a request finds it: the context of an incoming request is the
    thread-local one while it is processed. -/
def localize (request : TracedRequest) (t : Thread Span) : Thread Span :=
  match request with
  | incoming _ metadata => { t with metadata }
  | outgoing _ => t

/-- The thread as a request leaves it: the thread-local context is the one before again. -/
def delocalize (request : TracedRequest) (metadata : Metadata) (t : Thread Span) : Thread Span :=
  match request with
  | incoming _ _ => { t with metadata }
  | outgoing _ => t

end TracedRequest

/-- Requests with a hook for each of them. Its state and the metadata of the enclosing context
    are kept while the request is processed. -/
def tracedRequests {Span : Type} (ot : OpenTelemetry Span) :
    Nested.Bracket TracedRequest (Impl Span × Metadata) (Thread Span) where
  enter request t :=
    let r := preProcess ot request.type request.name {} (request.localize t)
    ((r.1, t.metadata), r.2)
  leave request kept t := request.delocalize kept.2 (postProcess ot kept.1 t).2

end SapperBricks
