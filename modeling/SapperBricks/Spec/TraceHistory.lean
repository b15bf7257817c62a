import Mathlib.Data.List.Forall2
import Mathlib.Data.List.Induction
import Mathlib.Data.List.TakeWhile
import SapperBricks.ForStd.Machine
import SapperBricks.Native.TracedServices
import SapperBricks.Spec.TracingNesting

/-!
# Histories of traced services

The spans of requests that services make of one another are connected by headers only: those that
a hook injects into the metadata of a thread, a notifier sends, and a hook of another service
extracts. Here a history of requests says for each of them why it was made, without spans and
headers, and the spans are those that belong to it.

## Key results

- `Tracks`: the requests in progress on a thread, and what its hooks have made of it
- `follows_step`: services go on as their history does
- `spans_eq`: the spans are those of the history, and end with their requests
-/

namespace SapperBricks

open Nested TracingRequestHook

namespace TracedServices

variable {Θ Span : Type}

/-! ## Histories -/

/-- Why a request was made: it came from outside with metadata, another request sent it, it was
    issued during another one, or on its own. -/
inductive Cause where
  | outside (metadata : Metadata)
  | sentBy (n : Nat)
  | during (n : Nat)
  | alone
deriving DecidableEq, Repr

/-- The request that caused it. -/
def Cause.request? : Cause → Option Nat
  | sentBy n => some n
  | during n => some n
  | _ => none

/-- A request that was made. -/
structure Request (Θ : Type) where
  thread : Θ
  name : String
  cause : Cause
deriving DecidableEq, Repr

/-- Requests by their numbers: which are in progress on a thread, which of them sent something, and
    which are over. -/
structure History (Θ : Type) where
  requests : List (Request Θ)
  pending : Θ → List (RequestType × Nat)
  sent : List Nat
  finished : Θ → List Nat

namespace History

/-- Before any request. -/
def initial : History Θ where
  requests := []
  pending _ := []
  sent := []
  finished _ := []

variable [DecidableEq Θ]

/-- A request is made. -/
def enter (request : Request Θ) (type : RequestType) (h : History Θ) : History Θ :=
  { h with
    requests := h.requests ++ [request]
    pending := Function.update h.pending request.thread
      ((type, h.requests.length) :: h.pending request.thread) }

/-- Some requests of a thread are over, the rest is still in progress. -/
def leave (thread : Θ) (past : List Nat) (rest : List (RequestType × Nat)) (h : History Θ) :
    History Θ :=
  { h with
    pending := Function.update h.pending thread rest
    finished := Function.update h.finished thread (h.finished thread ++ past) }

/-- The cause of a request that is issued while others are in progress. -/
def issued : List (RequestType × Nat) → Cause
  | [] => .alone
  | r :: _ => .during r.2

/-- Go on, if possible. -/
def step (event : Event Θ) (h : History Θ) : Option (History Θ) :=
  match event with
  | .receive thread name metadata => some (h.enter ⟨thread, name, .outside metadata⟩ .incoming)
  | .deliver thread name message =>
    h.sent[message]?.map fun n => h.enter ⟨thread, name, .sentBy n⟩ .incoming
  | .issue thread name => some (h.enter ⟨thread, name, issued (h.pending thread)⟩ .outgoing)
  | .send thread =>
    match h.pending thread with
    | (.outgoing, n) :: _ => some { h with sent := h.sent ++ [n] }
    | _ => none
  | .finish thread =>
    match h.pending thread with
    | [] => none
    | r :: rest => some (h.leave thread [r.2] rest)
  | .throw thread =>
    let issued := (h.pending thread).takeWhile fun r => r.1 = .outgoing
    let rest := (h.pending thread).dropWhile fun r => r.1 = .outgoing
    some (h.leave thread (issued.map Prod.snd) rest)

end History

/-! ## Spans of a history -/

/-- The span of a request by its number. -/
def spanAt (spans : List (SpanData Span)) (n : Nat) : Option Span :=
  spans[n]?.map SpanData.span

/-- The span that a request is caused by. -/
def Cause.span? (ot : OpenTelemetry Span) (spans : List (SpanData Span)) : Cause → Option Span
  | outside metadata => ot.denoted metadata
  | sentBy n => spanAt spans n
  | during n => spanAt spans n
  | alone => none

/-- What is caused by a request is caused by its span. -/
theorem Cause.span?_of_request? {ot : OpenTelemetry Span} {spans : List (SpanData Span)}
    {cause : Cause} {m : Nat} (h : cause.request? = some m) :
    cause.span? ot spans = spanAt spans m := by
  cases cause with
  | outside metadata => cases h
  | sentBy k =>
    cases h
    rfl
  | during k =>
    cases h
    rfl
  | alone => cases h

/-- The spans of requests: each is started with the one it is caused by. -/
def spansOf (ot : OpenTelemetry Span) (requests : List (Request Θ)) : List (SpanData Span) :=
  requests.foldl (fun spans request =>
    let parent := request.cause.span? ot spans
    spans ++ [⟨request.name, parent, ot.startSpan request.name parent spans.length⟩]) []

variable {ot : OpenTelemetry Span} {requests : List (Request Θ)}

theorem spansOf_concat (request : Request Θ) :
    spansOf ot (requests ++ [request]) = spansOf ot requests ++
      [⟨request.name, request.cause.span? ot (spansOf ot requests),
        ot.startSpan request.name (request.cause.span? ot (spansOf ot requests))
          (spansOf ot requests).length⟩] := by
  unfold spansOf
  rw [List.foldl_append]
  rfl

/-- There is one span for each request. -/
@[simp] theorem length_spansOf : (spansOf ot requests).length = requests.length := by
  induction requests using List.reverseRecOn with
  | nil => rfl
  | append_singleton requests request ih =>
    rw [spansOf_concat, List.length_append, List.length_append, ih]
    rfl

/-- What a later request does not change. -/
theorem getElem?_spansOf_concat {n : Nat} {request : Request Θ} (h : n < requests.length) :
    (spansOf ot (requests ++ [request]))[n]? = (spansOf ot requests)[n]? := by
  -- Spans are appended, and this one stands before the end
  rw [spansOf_concat, List.getElem?_append_left (by rwa [length_spansOf])]

/-! ## Hooks -/

section Hooks

variable {request : TracedRequest} {s t : Thread Span}

/-- The span that the hook of a request starts, which is active during it and was injected. -/
theorem enter_started (ot : OpenTelemetry Span) (request : TracedRequest) (s : Thread Span) :
    let span := startedSpan ot request.name (request.parent ot s) s
    let r := (tracedRequests ot).enter request s
    r.1.1.span = some span ∧ r.2.active = some span ∧ r.2.ended = s.ended ∧
      r.2.metadata = ot.injected (some span) (request.localize s).metadata := by
  cases request with
  | incoming name metadata =>
    -- The two kinds differ in where the parent comes from, not in what is done with it
    simp only [tracedRequests, TracedRequest.type, preProcess_incoming]
    exact ⟨rfl, rfl, rfl, rfl⟩
  | outgoing name =>
    simp only [tracedRequests, TracedRequest.type, preProcess_outgoing]
    exact ⟨rfl, rfl, rfl, rfl⟩

/-- It is started with the span that is active again after the request. -/
theorem active_createRemoteScope :
    (createRemoteScope ot request.type {} (request.localize s)).2.active = request.parent ot s := by
  cases request <;> rfl

/-- What a request leaves: the contexts and the metadata from before, where an issued request has
    injected the span that is active again; and its span has ended. -/
theorem leave_ended {span : Span}
    (hspan : ((tracedRequests ot).enter request s).1.1.span = some span)
    (h : t.contexts = ((tracedRequests ot).enter request s).2.contexts) :
    let u := (tracedRequests ot).leave request ((tracedRequests ot).enter request s).1 t
    u.contexts = s.contexts ∧ u.ended = t.ended ++ [span] ∧
      (u.metadata = s.metadata ∨ u.metadata = ot.injected s.active t.metadata) := by
  cases request with
  | incoming name metadata =>
    simp only [tracedRequests, TracedRequest.type, preProcess_incoming] at h hspan ⊢
    rw [postProcess_incoming h]
    cases hspan
    exact ⟨rfl, rfl, .inl rfl⟩
  | outgoing name =>
    simp only [tracedRequests, TracedRequest.type, preProcess_outgoing] at h hspan ⊢
    rw [postProcess_outgoing h]
    cases hspan
    exact ⟨rfl, rfl, .inr rfl⟩

/-- What an issued request leaves whose hook is destroyed. -/
theorem destroy_outgoing {name : String} {span : Span}
    (hspan : ((tracedRequests ot).enter (.outgoing name) s).1.1.span = some span)
    (h : t.contexts = ((tracedRequests ot).enter (.outgoing name) s).2.contexts) :
    destroy ((tracedRequests ot).enter (.outgoing name) s).1.1 t =
      { t with contexts := s.contexts, ended := t.ended ++ [span] } := by
  -- Only the scope is reset: nothing is injected, unlike at the end of `postProcess`
  simp only [tracedRequests, TracedRequest.type, preProcess_outgoing] at h hspan ⊢
  unfold destroy
  simp only [resetScope, detach_eq h]
  cases hspan
  rfl

end Hooks

/-! ## Threads -/

/-- The requests in progress on a thread are those of a history, where `spanOf` gives the spans of
    these: each was entered on the thread as the one around it had left it. While the innermost one
    is an issued request, the metadata have its headers. -/
inductive Tracks (ot : OpenTelemetry Span) (spanOf : Nat → Option Span) :
    Thread Span → List (InProgress Span) → List (RequestType × Nat) → Prop where
  | idle {t : Thread Span} (contexts : t.contexts = []) : Tracks ot spanOf t [] []
  | request {s t : Thread Span} {request : TracedRequest} {pending : List (InProgress Span)}
      {numbers : List (RequestType × Nat)} {n : Nat} {span : Span}
      (around : Tracks ot spanOf s pending numbers) (number : spanOf n = some span)
      (started : ((tracedRequests ot).enter request s).1.1.span = some span)
      (contexts : t.contexts = ((tracedRequests ot).enter request s).2.contexts)
      (headers : request.type = .outgoing →
        ∃ metadata, t.metadata = ot.injected (some span) metadata) :
      Tracks ot spanOf t ((request, ((tracedRequests ot).enter request s).1) :: pending)
        ((request.type, n) :: numbers)

namespace Tracks

variable {spanOf spanOf' : Nat → Option Span} {s t : Thread Span}
  {pending : List (InProgress Span)} {numbers : List (RequestType × Nat)}

/-- The active span is that of the innermost request. -/
theorem active (h : Tracks ot spanOf t pending numbers) :
    t.active = numbers.head?.bind fun r => spanOf r.2 := by
  cases h with
  | idle contexts =>
    unfold Thread.active
    rw [contexts]
    rfl
  | @request s t request _ _ n span around number started contexts headers =>
    obtain ⟨hstarted, hactive, -⟩ := enter_started ot request s
    rw [started, Option.some.injEq] at hstarted
    -- The thread has the contexts that entering the request has left
    have hspan : t.active = some span := by
      rw [hstarted, ← hactive]
      unfold Thread.active
      rw [contexts]
    rw [hspan]
    exact number.symm

/-- Further spans make no difference. -/
theorem mono (h : Tracks ot spanOf t pending numbers)
    (hspan : ∀ n span, spanOf n = some span → spanOf' n = some span) :
    Tracks ot spanOf' t pending numbers := by
  induction h with
  | idle contexts => exact .idle contexts
  | request around number started contexts headers ih =>
    exact .request ih (hspan _ _ number) started contexts headers

/-- Nor do metadata, if they stay the same or the active span is injected. -/
theorem same (h : Tracks ot spanOf s pending numbers) (hcontexts : t.contexts = s.contexts)
    (hmetadata : t.metadata = s.metadata ∨
      ∃ metadata, t.metadata = ot.injected s.active metadata) :
    Tracks ot spanOf t pending numbers := by
  have hactive := h.active
  cases h with
  | idle contexts => exact .idle (hcontexts.trans contexts)
  | request around number started contexts headers =>
    -- For an issued request the headers must still be those of its span
    refine .request around number started (hcontexts.trans contexts) fun htype => ?_
    -- They are untouched, or the span was injected again, which is the active one
    obtain hsame | ⟨metadata, hinjected⟩ := hmetadata
    · rw [hsame]
      exact headers htype
    · rw [hactive] at hinjected
      exact ⟨metadata, hinjected.trans (congrArg (ot.injected · metadata) number)⟩

/-- The spans that are kept for the ends of the requests. -/
theorem map_span (h : Tracks ot spanOf t pending numbers) :
    (pending.map fun p => p.2.1.span) = (numbers.map Prod.snd).map spanOf := by
  induction h with
  | idle => rfl
  | request _ number started _ _ ih =>
    -- Each hook keeps the span that its request was started with
    rw [List.map_cons, List.map_cons, List.map_cons, ih]
    exact congrArg (· :: _) (started.trans number.symm)

/-- A request is made. -/
theorem enter (h : Tracks ot spanOf s pending numbers) {request : TracedRequest} {started n : Nat}
    {span : Span} (number : spanOf n = some span)
    (hstarted : ((tracedRequests ot).enter request { s with started }).1.1.span = some span) :
    Tracks ot spanOf ((tracedRequests ot).enter request { s with started }).2
      ((request, ((tracedRequests ot).enter request { s with started }).1) :: pending)
      ((request.type, n) :: numbers) := by
  -- Whatever was in the metadata before, the new span is injected into them
  refine .request (h.same rfl (.inl rfl)) number hstarted rfl fun _ => ?_
  obtain ⟨hspan, -, -, hmetadata⟩ := enter_started ot request { s with started }
  rw [← hspan, hstarted] at hmetadata
  exact ⟨_, hmetadata⟩

/-- The innermost request is over, and its span has ended. -/
theorem leave {p : InProgress Span} {r : RequestType × Nat}
    (h : Tracks ot spanOf t (p :: pending) (r :: numbers)) :
    let u := (tracedRequests ot).leave p.1 p.2 t
    Tracks ot spanOf u pending numbers ∧
      ∃ span, spanOf r.2 = some span ∧ u.ended = t.ended ++ [span] := by
  cases h with
  | request around number started contexts headers =>
    -- The thread is as before the request, except for what was injected last
    obtain ⟨hcontexts, hended, hmetadata⟩ := leave_ended started contexts
    exact ⟨around.same hcontexts (hmetadata.imp id fun h => ⟨_, h⟩), _, number, hended⟩

/-- Issued requests are left by an exception, and their spans have ended. -/
theorem unwind (h : Tracks ot spanOf s pending numbers) (hcontexts : t.contexts = s.contexts) :
    let u := TracedServices.unwind pending t
    Tracks ot spanOf u.2 u.1 (numbers.dropWhile fun r => r.1 = .outgoing) ∧
      ∃ spans, u.2.ended = t.ended ++ spans ∧
        List.Forall₂ (fun span n => spanOf n = some span) spans
          ((numbers.takeWhile fun r => r.1 = .outgoing).map Prod.snd) := by
  induction h generalizing t with
  | idle contexts =>
    exact ⟨.idle (hcontexts.trans contexts), [], (List.append_nil _).symm, .nil⟩
  | @request s _ request _ _ n span around number started contexts headers ih =>
    cases request with
    | incoming name metadata =>
      -- The exception is caught here: nothing changes from this request on
      refine ⟨.request around number started (hcontexts.trans contexts) nofun, [],
        (List.append_nil _).symm, .nil⟩
    | outgoing name =>
      -- The ones around it are left in the same way
      have hdestroy := destroy_outgoing started (hcontexts.trans contexts)
      obtain ⟨htracks, spans, hended, hspans⟩ :=
        @ih (destroy ((tracedRequests ot).enter (.outgoing name) s).1.1 t)
          (by rw [hdestroy])
      refine ⟨htracks, span :: spans, hended.trans ?_, .cons number hspans⟩
      rw [hdestroy]
      exact List.append_assoc _ _ _

end Tracks

/-! ## Histories of runs -/

theorem spanAt_append {spans more : List (SpanData Span)} {n : Nat} {span : Span}
    (h : spanAt spans n = some span) : spanAt (spans ++ more) n = some span := by
  unfold spanAt at h ⊢
  obtain ⟨data, hdata, hspan⟩ := Option.map_eq_some_iff.mp h
  -- A number that has a span is in range of the first list
  rw [List.getElem?_append_left (List.getElem?_eq_some_iff.mp hdata).1, hdata, ← hspan]
  rfl

/-- Services in the state that a history leads to. -/
structure Follows (ot : OpenTelemetry Span) (s : State Θ Span) (h : History Θ) : Prop where
  spans : s.spans = spansOf ot h.requests
  tracks : ∀ thread, Tracks ot (spanAt s.spans) (s.threads thread) (s.pending thread)
    (h.pending thread)
  ended : ∀ thread, List.Forall₂ (fun span n => spanAt s.spans n = some span)
    (s.threads thread).ended (h.finished thread)
  sent : List.Forall₂ (fun metadata n => ∃ span, spanAt s.spans n = some span ∧
    ot.denoted metadata = some span) s.sent h.sent

namespace Follows

variable {s : State Θ Span} {h : History Θ}

theorem length_spans (hs : Follows ot s h) : s.spans.length = h.requests.length := by
  rw [hs.spans, length_spansOf]

theorem initial : Follows ot (State.initial : State Θ Span) History.initial where
  spans := rfl
  tracks _ := .idle rfl
  ended _ := .nil
  sent := .nil

variable [DecidableEq Θ]

/-- The span of a request that is made. -/
theorem spans_enter (ot : OpenTelemetry Span) (thread : Θ) (request : TracedRequest)
    (s : State Θ Span) :
    (TracedServices.enter ot thread request s).spans = s.spans ++
      [⟨request.name, request.parent ot (s.threads thread),
        ot.startSpan request.name (request.parent ot (s.threads thread)) s.spans.length⟩] := by
  -- The parent does not depend on how many spans were started
  have hparent : ∀ started, request.parent ot { s.threads thread with started } =
      request.parent ot (s.threads thread) := by
    intro started
    cases request <;> rfl
  unfold TracedServices.enter
  simp only [active_createRemoteScope, hparent, (enter_started ot request _).1, startedSpan,
    Option.toList_some, List.map_cons, List.map_nil]

/-- A request is made, for a cause that the span it is started with belongs to. -/
theorem enter (hs : Follows ot s h) {thread : Θ} (request : TracedRequest) {cause : Cause}
    (hparent : request.parent ot (s.threads thread) = cause.span? ot s.spans) :
    Follows ot (TracedServices.enter ot thread request s)
      (h.enter ⟨thread, request.name, cause⟩ request.type) := by
  have hlength := hs.length_spans
  obtain ⟨hstarted, -, hended, -⟩ :=
    enter_started ot request { s.threads thread with started := s.spans.length }
  have hspans := spans_enter ot thread request s
  -- Earlier numbers keep their spans, and the next one has the new span
  have hmono : ∀ n span, spanAt s.spans n = some span →
      spanAt (TracedServices.enter ot thread request s).spans n = some span := by
    intro n span hspan
    rw [hspans]
    exact spanAt_append hspan
  have hnumber : spanAt (TracedServices.enter ot thread request s).spans h.requests.length =
      some (ot.startSpan request.name (request.parent ot (s.threads thread)) s.spans.length) := by
    unfold spanAt
    rw [hspans, ← hlength, List.getElem?_concat_length]
    rfl
  constructor
  · show _ = spansOf ot (h.requests ++ [_])
    rw [hspans, spansOf_concat, ← hs.spans, hparent]
  · intro other
    show Tracks ot _ (Function.update s.threads thread _ other)
      (Function.update s.pending thread _ other) (Function.update h.pending thread _ other)
    -- Only the thread of the request goes on
    by_cases hother : other = thread
    · subst hother
      simp only [Function.update_self]
      refine ((hs.tracks other).mono hmono).enter hnumber (hstarted.trans ?_)
      cases request <;> rfl
    · simp only [Function.update_of_ne hother]
      exact (hs.tracks other).mono hmono
  · intro other
    -- Nothing ends when a request is made
    have hsame : ((TracedServices.enter ot thread request s).threads other).ended =
        (s.threads other).ended := by
      show (Function.update s.threads thread _ other).ended = _
      by_cases hother : other = thread
      · subst hother
        simp only [Function.update_self]
        exact hended
      · rw [Function.update_of_ne hother]
    rw [hsame]
    exact (hs.ended other).imp fun span n => hmono n span
  · exact hs.sent.imp fun metadata n ⟨span, hspan, hdenoted⟩ => ⟨span, hmono n span hspan, hdenoted⟩

/-- Requests of a thread are over. -/
theorem leave (hs : Follows ot s h) {thread : Θ} {t : Thread Span}
    {pending : List (InProgress Span)} {past : List Nat} {rest : List (RequestType × Nat)}
    {spans : List Span} (htracks : Tracks ot (spanAt s.spans) t pending rest)
    (hended : t.ended = (s.threads thread).ended ++ spans)
    (hpast : List.Forall₂ (fun span n => spanAt s.spans n = some span) spans past) :
    Follows ot { s with
        threads := Function.update s.threads thread t
        pending := Function.update s.pending thread pending } (h.leave thread past rest) where
  spans := hs.spans
  tracks other := by
    unfold History.leave
    -- The thread goes on as `htracks` says, the others stay
    by_cases hother : other = thread
    · subst hother
      simpa only [Function.update_self] using htracks
    · simpa only [Function.update_of_ne hother] using hs.tracks other
  ended other := by
    unfold History.leave
    by_cases hother : other = thread
    · subst hother
      simp only [Function.update_self, hended]
      exact List.rel_append (hs.ended other) hpast
    · simpa only [Function.update_of_ne hother] using hs.ended other
  sent := hs.sent

end Follows

/-! ## Headers that are sent -/

/-- A name has no upper case letters: metadata may arrive under such names only. -/
def isLowerCase (name : String) : Bool :=
  name.toList.all fun c => !c.isUpper

/-- What is relied on of opentelemetry and of the transport: metadata that have, under the headers
    of the propagation type, the values that are there after a span was injected, denote this span;
    and the values of lower case headers that are to be propagated arrive. -/
structure Setup.Carries (setup : Setup Θ Span) : Prop where
  extracts : ∀ span get get', (∀ name ∈ setup.type.getPropagationHeaders,
    get name = setAll (setup.openTelemetry.inject span) get' name) →
    setup.openTelemetry.extract get = some span
  arrives : ∀ headers span metadata, ∀ name ∈ setup.type.getPropagationHeaders,
    name ∈ headers → isLowerCase name →
    MSEContextCarrier.get (setup.transport headers
      (setup.openTelemetry.injected (some span) metadata)) name =
        MSEContextCarrier.get (setup.openTelemetry.injected (some span) metadata) name

/-- The headers of the propagation types are in lower case, but for those of one. -/
theorem isLowerCase_propagationHeaders {type : PropagationType} (htype : type ≠ .b3MultiHeader) :
    ∀ name ∈ type.getPropagationHeaders, isLowerCase name := by
  have hall : type.getPropagationHeaders.all isLowerCase = true := by
    cases type with
    | b3SingleHeader => decide
    | b3MultiHeader => exact absurd rfl htype
    | http => decide
  exact List.all_eq_true.mp hall

/-- What was sent of metadata into which a span was injected denotes this span. -/
theorem Setup.Carries.denoted {setup : Setup Θ Span} (hcarries : setup.Carries)
    (htype : setup.type ≠ .b3MultiHeader) (others : List String) (span : Span)
    (metadata : Metadata) :
    setup.openTelemetry.denoted (setup.transport (headersToPropagate others setup.type)
      (setup.openTelemetry.injected (some span) metadata)) = some span := by
  -- It is enough that the headers of the type arrive as they were injected
  refine hcarries.extracts span _ (MSEContextCarrier.get metadata) fun name hname => ?_
  have hheader : name ∈ headersToPropagate others setup.type := List.mem_append_right _ hname
  rw [hcarries.arrives _ span metadata name hname hheader
    (isLowerCase_propagationHeaders htype name hname), OpenTelemetry.get_injected]

/-! ## The header b3 -/

/-- Ids that a header can have, which separates them by a character. -/
structure B3Ids where
  traceId : List Char
  spanId : List Char
  nonempty : traceId ≠ [] ∧ spanId ≠ []
  separable : '-' ∉ traceId ∧ '-' ∉ spanId
deriving DecidableEq

theorem separable_takeWhile (cs : List Char) : '-' ∉ cs.takeWhile (· != '-') := by
  intro hc
  have hne := List.mem_takeWhile_imp hc
  exact absurd hne (by decide)

/-- The ids of a header. -/
def b3Ids (header : List Char) : Option B3Ids :=
  let traceId := header.takeWhile (· != '-')
  let spanId := ((header.dropWhile (· != '-')).drop 1).takeWhile (· != '-')
  if h : traceId ≠ [] ∧ spanId ≠ [] then
    some ⟨traceId, spanId, h, separable_takeWhile _, separable_takeWhile _⟩
  else none

/-- The header of ids. -/
def B3Ids.header (ids : B3Ids) : List Char :=
  ids.traceId ++ '-' :: (ids.spanId ++ ['-', '1'])

theorem b3Ids_header (ids : B3Ids) : b3Ids ids.header = some ids := by
  -- Up to the first '-' a text without one is read, and the rest is left
  have hpast : ∀ {cs : List Char} (rest : List Char), '-' ∉ cs →
      (cs ++ '-' :: rest).takeWhile (· != '-') = cs ∧
      (cs ++ '-' :: rest).dropWhile (· != '-') = '-' :: rest := by
    intro cs rest hcs
    have hall : ∀ c ∈ cs, (c != '-') = true := by
      intro c hc
      rw [bne_iff_ne]
      rintro rfl
      exact hcs hc
    rw [List.takeWhile_append_of_pos hall, List.dropWhile_append_of_pos hall]
    simp
  obtain ⟨htake, hdrop⟩ := hpast (ids.spanId ++ ['-', '1']) ids.separable.1
  obtain ⟨hspan, -⟩ := hpast ['1'] ids.separable.2
  -- The trace id is before the first '-', the span id between this and the second
  unfold b3Ids B3Ids.header
  simp only [htake, hdrop, List.drop_succ_cons, List.drop_zero, hspan]
  rw [dif_pos ids.nonempty]

theorem digitChar_ne (n : Nat) : Nat.digitChar (n % 16) ≠ '-' := by
  -- A finite check, since only the remainder counts
  have hall : ∀ m < 16, Nat.digitChar m ≠ '-' := by decide
  exact hall (n % 16) (Nat.mod_lt n (by decide))

/-- Sixteen hexadecimal digits, of which the last one counts. -/
def b3SpanId (n : Nat) : List Char :=
  "e457b5a2e4d86bd".toList ++ [Nat.digitChar (n % 16)]

theorem b3SpanId_ne_nil (n : Nat) : b3SpanId n ≠ [] :=
  List.append_ne_nil_of_right_ne_nil _ (List.cons_ne_nil _ _)

theorem separable_b3SpanId (n : Nat) : '-' ∉ b3SpanId n := by
  unfold b3SpanId
  rw [List.mem_append, List.mem_singleton, not_or]
  exact ⟨by decide, (digitChar_ne n).symm⟩

/-- The ids of a span that is started. -/
def b3Started (parent : Option B3Ids) (n : Nat) : B3Ids where
  traceId := (parent.map B3Ids.traceId).getD (b3SpanId n)
  spanId := b3SpanId n
  nonempty := by
    cases parent with
    | none => exact ⟨b3SpanId_ne_nil n, b3SpanId_ne_nil n⟩
    | some parent => exact ⟨parent.nonempty.1, b3SpanId_ne_nil n⟩
  separable := by
    cases parent with
    | none => exact ⟨separable_b3SpanId n, separable_b3SpanId n⟩
    | some parent => exact ⟨parent.separable.1, separable_b3SpanId n⟩

/-- The propagation of one header, and a tracer whose spans are in the trace of their parent. -/
def b3SingleHeader : OpenTelemetry B3Ids where
  extract get := b3Ids (get "b3").toList
  inject ids := [("b3", String.ofList ids.header)]
  startSpan _ := b3Started

/-- Services with this header. What arrives are the headers to propagate. -/
def b3Setup : Setup Nat B3Ids where
  type := .b3SingleHeader
  openTelemetry := b3SingleHeader
  others _ := ["authorization"]
  transport headers metadata := metadata.filter fun m => m.1 ∈ headers

theorem b3Setup_carries : b3Setup.Carries where
  extracts ids get get' h := by
    have hget : get "b3" = String.ofList ids.header := h "b3" (List.mem_singleton_self _)
    show b3Ids (get "b3").toList = some ids
    rw [hget, String.toList_ofList]
    exact b3Ids_header ids
  arrives headers span metadata name _ hname _ := by
    show MSEContextCarrier.get (List.filter _ _) name = _
    unfold MSEContextCarrier.get
    -- The name is one of the headers, so filtering them leaves what is found under it
    rw [List.find?_filter]
    congr 3
    funext m
    by_cases hm : m.1 = name
    · simp [hm, hname]
    · simp [hm]

/-- A request without headers, during which another service is notified, and something is issued that
    throws; and one with headers. -/
def testEvents : List (Event Nat) :=
  [.receive 0 "setEntity" [], .issue 0 "entityChanged", .send 0, .deliver 1 "setEntity" 0,
    .finish 0, .issue 0 "withConnection", .throw 0, .finish 1, .finish 0,
    .receive 1 "getEntity" [("b3", "80f198ee56343ba864fe8b2a57d3eff7-05e3ac9a4f6e3b90-1")]]

/-! ## Runs -/

section Runs

variable [DecidableEq Θ] {setup : Setup Θ Span} {s : State Θ Span} {h : History Θ}

/-- A request is issued with the span of the innermost request as its parent. -/
theorem Follows.active {Θ : Type} {s : State Θ Span} {h : History Θ} (hs : Follows ot s h)
    (thread : Θ) :
    (s.threads thread).active = (History.issued (h.pending thread)).span? ot s.spans := by
  rw [(hs.tracks thread).active]
  cases h.pending thread <;> rfl

/-- What is related at each place is related at a given one. -/
theorem getElem?_rel {α β : Type} {R : α → β → Prop} {xs : List α} {ys : List β}
    (h : List.Forall₂ R xs ys) (i : Nat) : Option.Rel R xs[i]? ys[i]? := by
  induction h generalizing i with
  | nil => exact .none
  | cons hxy _ ih =>
    cases i with
    | zero => exact .some hxy
    | succ i => exact ih i

/-- Services go on as their history does. -/
theorem follows_step (hcarries : setup.Carries) (htype : setup.type ≠ .b3MultiHeader)
    (event : Event Θ) (s : State Θ Span) (h : History Θ)
    (hs : Follows setup.openTelemetry s h) :
    Option.Rel (Follows setup.openTelemetry) (step setup event s) (h.step event) := by
  cases event with
  | receive thread name metadata => exact .some (hs.enter (.incoming name metadata) rfl)
  | deliver thread name message =>
    refine Machine.rel_map (getElem?_rel hs.sent message) ?_
    -- What was sent denotes the span of the request that sent it, which is the cause
    rintro metadata n ⟨span, hspan, hdenoted⟩
    exact hs.enter (.incoming name metadata) (hdenoted.trans hspan.symm)
  | issue thread name =>
    exact .some (hs.enter (.outgoing name) (hs.active thread))
  | send thread =>
    have htracks := hs.tracks thread
    simp only [step, History.step]
    generalize s.pending thread = pending at htracks ⊢
    generalize h.pending thread = numbers at htracks ⊢
    cases htracks with
    -- Without a request in progress neither of them can send
    | idle contexts => exact .none
    | @request u _ request _ _ n span around number started contexts headers =>
      cases request with
      -- Nor during an incoming one
      | incoming name metadata => exact .none
      | outgoing name =>
        -- Whatever requests during this one have injected, its own span was injected after that
        obtain ⟨metadata, hmetadata⟩ := headers rfl
        refine .some ⟨hs.spans, hs.tracks, hs.ended, List.rel_append hs.sent (.cons ?_ .nil)⟩
        refine ⟨span, number, ?_⟩
        rw [hmetadata]
        exact hcarries.denoted htype _ span metadata
  | finish thread =>
    have htracks := hs.tracks thread
    simp only [step, History.step]
    generalize s.pending thread = pending at htracks ⊢
    generalize h.pending thread = numbers at htracks ⊢
    cases pending with
    | nil =>
      cases htracks
      exact .none
    | cons p pending =>
      cases numbers with
      | nil => cases htracks
      | cons r numbers =>
        -- The history has the numbers of the same requests, so `Tracks` gives the rest
        obtain ⟨hrest, span, hspan, hended⟩ := htracks.leave
        exact .some (hs.leave hrest hended (.cons hspan .nil))
  | throw thread =>
    -- The issued requests at the front are left together
    obtain ⟨htracks, spans, hended, hspans⟩ := (hs.tracks thread).unwind (t := s.threads thread) rfl
    exact .some (hs.leave htracks hended hspans)

/-- What is exported: the spans with their parents, and which of them end on a thread. -/
def State.exported (s : State Θ Span) : List (SpanData Span) × (Θ → List Span) :=
  (s.spans, fun thread => (s.threads thread).ended)

/-- What is exported of a history. -/
def History.exported (ot : OpenTelemetry Span) (h : History Θ) :
    List (SpanData Span) × (Θ → List Span) :=
  (spansOf ot h.requests,
    fun thread => (h.finished thread).filterMap (spanAt (spansOf ot h.requests)))

/-- The spans that have ended are those of the requests that are over. -/
theorem Follows.map_ended {Θ : Type} {s : State Θ Span} {h : History Θ} (hs : Follows ot s h)
    (thread : Θ) :
    (s.threads thread).ended.map some = (h.finished thread).map (spanAt s.spans) := by
  have hended := hs.ended thread
  generalize (s.threads thread).ended = spans at hended ⊢
  generalize h.finished thread = numbers at hended ⊢
  induction hended with
  | nil => rfl
  | cons hspan _ ih => rw [List.map_cons, List.map_cons, hspan, ih]

theorem Follows.ended_eq {Θ : Type} {s : State Θ Span} {h : History Θ} (hs : Follows ot s h)
    (thread : Θ) : (s.threads thread).ended = (h.finished thread).filterMap (spanAt s.spans) := by
  -- Every number of a request that is over has a span
  have hended : (h.finished thread).filterMap (spanAt s.spans) =
      ((h.finished thread).map (spanAt s.spans)).filterMap id := by
    rw [List.filterMap_map]
    rfl
  rw [hended, ← hs.map_ended, List.filterMap_map]
  exact List.filterMap_some.symm

theorem Follows.exported {Θ : Type} {s : State Θ Span} {h : History Θ} (hs : Follows ot s h) :
    s.exported = h.exported ot := by
  unfold State.exported History.exported
  rw [← hs.spans]
  exact congrArg (Prod.mk _) (funext hs.ended_eq)

/-- **The spans are those of the history.** Let services that are traced be run in any way: requests
    from outside with any headers, requests during one another and on their own, requests that are
    received of what was sent (any number of times, whenever, by whomever), and exceptions. Then a
    history of the same events says which requests cause one another; each request has one span,
    whose parent is the span of the one that caused it, or the one that the headers from outside
    denote; and spans end where and in the order in which their requests are over. -/
theorem spans_eq (setup : Setup Θ Span) (hcarries : setup.Carries)
    (htype : setup.type ≠ .b3MultiHeader) (events : List (Event Θ)) :
    (Machine.run (step setup) events State.initial).map State.exported =
      (Machine.run History.step events History.initial).map
        (History.exported setup.openTelemetry) :=
  Machine.map_eq_of_rel (fun _ _ hs => hs.exported)
    (Machine.run_rel (follows_step hcarries htype) events Follows.initial)

/-- The parents of the spans, and the order in which they end on the first thread. -/
theorem spans_eq_test :
    ((Machine.run (step b3Setup) testEvents State.initial).map State.exported).map
        (fun x => (x.1.map fun y => y.parent.map B3Ids.spanId, (x.2 0).map B3Ids.spanId)) =
      some ([none, some (b3SpanId 0), some (b3SpanId 1), some (b3SpanId 0),
        some "05e3ac9a4f6e3b90".toList], [b3SpanId 1, b3SpanId 3, b3SpanId 0]) := by
  -- Evaluated on the history, where no header is read or written
  rw [spans_eq b3Setup b3Setup_carries (by decide)]
  rfl

/-- The run of a history. -/
theorem exists_run (hcarries : setup.Carries) (htype : setup.type ≠ .b3MultiHeader)
    {events : List (Event Θ)}
    (hrun : Machine.run History.step events History.initial = some h) :
    ∃ s, Machine.run (step setup) events State.initial = some s ∧
      Follows setup.openTelemetry s h := by
  have hrel := Machine.run_rel (follows_step hcarries htype) events Follows.initial
  rw [hrun] at hrel
  exact Machine.exists_left hrel

/-- The history of a run. -/
theorem exists_history (hcarries : setup.Carries) (htype : setup.type ≠ .b3MultiHeader)
    {events : List (Event Θ)} (hrun : Machine.run (step setup) events State.initial = some s) :
    ∃ h, Machine.run History.step events History.initial = some h ∧
      Follows setup.openTelemetry s h := by
  have hrel := Machine.run_rel (follows_step hcarries htype) events Follows.initial
  rw [hrun] at hrel
  exact Machine.exists_right hrel

end Runs

/-- Why these requests are made. -/
def testRequests : List (Request Nat) :=
  [⟨0, "setEntity", .outside []⟩, ⟨0, "entityChanged", .during 0⟩, ⟨1, "setEntity", .sentBy 1⟩,
    ⟨0, "withConnection", .during 0⟩, ⟨1, "getEntity",
      .outside [("b3", "80f198ee56343ba864fe8b2a57d3eff7-05e3ac9a4f6e3b90-1")]⟩]

/-- The requests are made, and some of them are over. -/
theorem run_testEvents : ∃ h s, Machine.run History.step testEvents History.initial = some h ∧
    h.requests = testRequests ∧ h.finished 0 = [1, 3, 0] ∧
    Machine.run (step b3Setup) testEvents State.initial = some s ∧
    s.spans = spansOf b3SingleHeader testRequests := by
  have hh : ∃ h, Machine.run History.step testEvents History.initial = some h ∧
      h.requests = testRequests ∧ h.finished 0 = [1, 3, 0] := ⟨_, rfl, rfl, rfl⟩
  obtain ⟨h, hh, hrequests, hfinished⟩ := hh
  obtain ⟨s, hs, hfollows⟩ := exists_run b3Setup_carries (by decide) hh
  exact ⟨h, s, hh, hrequests, hfinished, hs, hrequests ▸ hfollows.spans⟩

end TracedServices

end SapperBricks
