import SapperBricks.Native.Tracing

/-!
# Tracing of nested requests

Requests of one thread are made one after the other and during one another, each with a
tracing hook of its own. After a request its span is not active any more, in any case. The
headers in the metadata are reset by injecting the span that is active then, which writes
nothing if there is none: they are reset for requests that have an enclosing span.

## Key results

- `preProcess_incoming`, `postProcess_incoming` and those for outgoing requests: what the
  hook does
- `headersFrame`: which requests restore the headers
- `headers_restored_iff`: the runs in which every request does
-/

namespace SapperBricks

open Nested TracingRequestHook

variable {Span : Type}

/-! ## Headers -/

/-- Headers that are set one after the other in a carrier. -/
def setAll (headers : List (String × String)) (get : String → String) : String → String :=
  headers.foldl (fun get h => Function.update get h.1 h.2) get

/-- What is relied on of the propagator: a span that is injected overwrites one that was injected
    before; the span that is extracted can be injected; where none is extracted, an injected one
    is, unless there are malformed headers that come before those it sets; and without headers
    there is no span. -/
structure OpenTelemetry.Propagates (ot : OpenTelemetry Span) : Prop where
  overwrites : ∀ get span span',
    ot.extract (setAll (ot.inject span) (setAll (ot.inject span') get)) =
      ot.extract (setAll (ot.inject span) get)
  keeps : ∀ get span, ot.extract get = some span →
    ot.extract (setAll (ot.inject span) get) = some span
  absent : ∀ get, ot.extract get = none →
    (∀ span, ot.extract (setAll (ot.inject span) get) = some span) ∨
    ∀ span, ot.extract (setAll (ot.inject span) get) = none
  empty : ot.extract (fun _ => "") = none
  inject_empty : ∀ span, ot.extract (setAll (ot.inject span) fun _ => "") = some span

namespace OpenTelemetry

variable (ot : OpenTelemetry Span)

/-- The span that the headers in metadata denote. -/
def denoted (metadata : Metadata) : Option Span :=
  ot.extract (MSEContextCarrier.get metadata)

/-- The metadata into which a span was injected. -/
def injected (span : Option Span) (metadata : Metadata) : Metadata :=
  match span with
  | none => metadata
  | some span =>
    (ot.inject span).foldl (fun m h => MSEContextCarrier.set m h.1 h.2) metadata

@[simp] theorem injected_none (metadata : Metadata) : ot.injected none metadata = metadata := rfl

/-- The values of the metadata into which a span was injected. -/
theorem get_injected (span : Span) (metadata : Metadata) :
    MSEContextCarrier.get (ot.injected (some span) metadata) =
      setAll (ot.inject span) (MSEContextCarrier.get metadata) := by
  show MSEContextCarrier.get ((ot.inject span).foldl
    (fun m h => MSEContextCarrier.set m h.1 h.2) metadata) = _
  unfold setAll
  -- Header by header, from whatever was injected before
  generalize ot.inject span = headers
  induction headers generalizing metadata with
  | nil => rfl
  | cons h headers ih =>
    simp only [List.foldl_cons]
    rw [ih, MSEContextCarrier.get_set]

/-- Metadata whose headers denote the same span, and do so whatever is injected. -/
structure SameHeaders (metadata metadata' : Metadata) : Prop where
  denoted : ot.denoted metadata' = ot.denoted metadata
  injected : ∀ span, ot.denoted (ot.injected (some span) metadata') =
    ot.denoted (ot.injected (some span) metadata)

variable {ot}

namespace Propagates

variable {metadata metadata' : Metadata} {span span' : Span}

/-- An injected span is overwritten. -/
theorem denoted_injected_injected (h : ot.Propagates) :
    ot.denoted (ot.injected (some span) (ot.injected (some span') metadata)) =
      ot.denoted (ot.injected (some span) metadata) := by
  unfold denoted
  rw [get_injected, get_injected, get_injected, h.overwrites]

/-- Injecting the span that is denoted changes nothing. -/
theorem denoted_injected (h : ot.Propagates) (hspan : ot.denoted metadata = some span) :
    ot.denoted (ot.injected (some span) metadata) = some span := by
  unfold denoted
  rw [get_injected]
  exact h.keeps _ _ hspan

/-- Where no span is denoted, every injected span is, or none. -/
theorem denoted_injected_none (h : ot.Propagates) (hnone : ot.denoted metadata = none) :
    (∀ span, ot.denoted (ot.injected (some span) metadata) = some span) ∨
    ∀ span, ot.denoted (ot.injected (some span) metadata) = none := by
  simp only [denoted, get_injected]
  exact h.absent _ hnone

/-- Without metadata no span is denoted, and every injected one is. -/
theorem denoted_nil (h : ot.Propagates) :
    ot.denoted [] = none ∧ ∀ span, ot.denoted (ot.injected (some span) []) = some span := by
  constructor
  · exact h.empty
  · intro span
    unfold denoted
    rw [get_injected]
    exact h.inject_empty span

/-- What is denoted after a span is injected into metadata that others have injected into. -/
theorem injected_of_same (h : ot.Propagates)
    (hsame : ot.SameHeaders (ot.injected (some span') metadata) metadata') (span : Span) :
    ot.denoted (ot.injected (some span) metadata') =
      ot.denoted (ot.injected (some span) metadata) := by
  rw [hsame.injected, h.denoted_injected_injected]

end Propagates

end OpenTelemetry

/-! ## The hook -/

section Hook

variable {ot : OpenTelemetry Span} {request : String} {t : Thread Span}

theorem injectCurrent_eq :
    injectCurrent ot t = { t with metadata := ot.injected t.active t.metadata } := by
  unfold injectCurrent OpenTelemetry.injected
  cases t.active <;> rfl

/-- Destroying the newest scope takes away its context. -/
theorem detach_eq {span : Option Span} {base : List (Option Span)}
    (h : t.contexts = span :: base) : t.detach base.length = { t with contexts := base } := by
  -- One context more than there were when it was attached
  have hlength : (span :: base).length - base.length = 1 := by
    rw [List.length_cons]
    omega
  unfold Thread.detach
  rw [h, hlength, List.drop_one, List.tail_cons]

/-- The span that is started for a request. -/
def startedSpan (ot : OpenTelemetry Span) (request : String) (parent : Option Span)
    (t : Thread Span) : Span :=
  ot.startSpan request parent t.started

/-- What `pre_process` of an incoming request does. -/
theorem preProcess_incoming :
    preProcess ot .incoming request {} t =
      (⟨some t.contexts.length, some (t.contexts.length + 1),
          some (startedSpan ot request (ot.denoted t.metadata) t)⟩,
        { t with
          contexts := some (startedSpan ot request (ot.denoted t.metadata) t) ::
            ot.denoted t.metadata :: t.contexts
          metadata := ot.injected (some (startedSpan ot request (ot.denoted t.metadata) t))
            t.metadata
          started := t.started + 1 }) := by
  unfold preProcess
  simp only [injectCurrent_eq]
  rfl

/-- What `pre_process` of an outgoing request does. -/
theorem preProcess_outgoing :
    preProcess ot .outgoing request {} t =
      (⟨none, some t.contexts.length, some (startedSpan ot request t.active t)⟩,
        { t with
          contexts := some (startedSpan ot request t.active t) :: t.contexts
          metadata := ot.injected (some (startedSpan ot request t.active t)) t.metadata
          started := t.started + 1 }) := by
  unfold preProcess
  simp only [injectCurrent_eq]
  rfl

/-- What `post_process` of an incoming request does, when the contexts are those it attached. -/
theorem postProcess_incoming {span remote : Option Span} {base : List (Option Span)}
    (h : t.contexts = span :: remote :: base) :
    (postProcess ot ⟨some base.length, some (base.length + 1), span⟩ t).2 =
      { t with
        contexts := base
        metadata := ot.injected remote t.metadata
        ended := t.ended ++ span.toList } := by
  unfold postProcess
  simp only [resetScope]
  have hcontexts : ({ t with ended := t.ended ++ span.toList } : Thread Span).contexts =
      span :: remote :: base := h
  -- The span has ended, and its scope is the newest one
  have hscope : ({ t with ended := t.ended ++ span.toList } : Thread Span).detach
      (base.length + 1) =
      { t with contexts := remote :: base, ended := t.ended ++ span.toList } :=
    detach_eq hcontexts
  -- Then the remote span is active, is injected, and its scope is reset, too
  rw [hscope, injectCurrent_eq, detach_eq rfl]
  cases remote <;> rfl

/-- What `post_process` of an outgoing request does. -/
theorem postProcess_outgoing {span : Option Span} {base : List (Option Span)}
    (h : t.contexts = span :: base) :
    (postProcess ot ⟨none, some base.length, span⟩ t).2 =
      { t with
        contexts := base
        metadata := ot.injected base.head?.join t.metadata
        ended := t.ended ++ span.toList } := by
  unfold postProcess
  simp only [resetScope]
  have hcontexts : ({ t with ended := t.ended ++ span.toList } : Thread Span).contexts =
      span :: base := h
  have hscope : ({ t with ended := t.ended ++ span.toList } : Thread Span).detach base.length =
      { t with contexts := base, ended := t.ended ++ span.toList } :=
    detach_eq hcontexts
  -- Whatever was active before is injected, if there was something
  rw [hscope, injectCurrent_eq]
  rfl

end Hook

/-! ## Requests -/

section Requests

variable (ot : OpenTelemetry Span)

/-- The thread right before the hook of a request. -/
def before (v : Visit TracedRequest (Thread Span)) : Thread Span :=
  v.call.localize v.entered

/-- The thread right after it. -/
def after (v : Visit TracedRequest (Thread Span)) : Thread Span :=
  (postProcess ot ((tracedRequests ot).enter v.call v.entered).1.1 v.left).2

/-- The headers in the metadata denote the span that they denoted before: for an incoming
    request the remote span, if there was one. -/
def RestoresHeaders (v : Visit TracedRequest (Thread Span)) : Prop :=
  ot.denoted (after ot v).metadata = ot.denoted (before v).metadata

/-- All the requests of a run do so. -/
def AllRestoreHeaders (calls : Calls TracedRequest) (t : Thread Span) : Prop :=
  ∀ v ∈ (tracedRequests ot).visits calls t, RestoresHeaders ot v

/-- The headers of an incoming request denote a span, or they are malformed and stay so whatever
    is injected. -/
def TracedRequest.Restorable : TracedRequest → Prop
  | incoming _ metadata => ot.denoted metadata ≠ none ∨
      ∀ span, ot.denoted (ot.injected (some span) metadata) = none
  | outgoing _ => True

/-- A request restores the headers: an incoming one whose headers are restorable, or an outgoing
    one with an enclosing span. -/
def TracedRequest.Good (request : TracedRequest) (t : Thread Span) : Prop :=
  request.Restorable ot ∧ (t.active = none → request.type = .incoming)

/-- The thread-local metadata have the headers of the active span, or none if there is none. -/
structure Settled (t : Thread Span) : Prop where
  active : ∀ span, t.active = some span →
    ot.denoted (ot.injected (some span) t.metadata) = ot.denoted t.metadata
  inactive : t.active = none → ot.denoted t.metadata = none ∧
    ∀ span, ot.denoted (ot.injected (some span) t.metadata) = some span

/-- The same contexts, and headers that denote the same. -/
structure SameThread (s t : Thread Span) : Prop where
  contexts : t.contexts = s.contexts
  headers : ot.SameHeaders s.metadata t.metadata

variable {ot}

theorem SameThread.active {s t : Thread Span} (h : SameThread ot s t) : t.active = s.active := by
  unfold Thread.active
  rw [h.contexts]

/-- The span that is active again after a request, when the headers are reset. -/
def TracedRequest.parent (ot : OpenTelemetry Span) (request : TracedRequest) (s : Thread Span) :
    Option Span :=
  match request with
  | incoming _ metadata => ot.denoted metadata
  | outgoing _ => s.active

/-- During a request its span is active, and was injected into the metadata. -/
theorem enter_spec (ot : OpenTelemetry Span) (request : TracedRequest) (s : Thread Span) :
    ∃ span, ((tracedRequests ot).enter request s).2.active = some span ∧
      ((tracedRequests ot).enter request s).2.metadata =
        ot.injected (some span) (request.localize s).metadata := by
  cases request with
  | incoming name metadata =>
    simp only [tracedRequests, TracedRequest.type, preProcess_incoming]
    exact ⟨_, rfl, rfl⟩
  | outgoing name =>
    simp only [tracedRequests, TracedRequest.type, preProcess_outgoing]
    exact ⟨_, rfl, rfl⟩

/-- After it the contexts are the ones before, if the requests made during it leave those that it
    attached, and the span that is active again was injected. -/
theorem after_spec {request : TracedRequest} {s t : Thread Span}
    (h : t.contexts = ((tracedRequests ot).enter request s).2.contexts) :
    (after ot ⟨request, s, t⟩).contexts = s.contexts ∧
    (after ot ⟨request, s, t⟩).metadata = ot.injected (request.parent ot s) t.metadata := by
  unfold after
  cases request with
  | incoming name metadata =>
    simp only [tracedRequests, TracedRequest.type, preProcess_incoming] at h ⊢
    rw [postProcess_incoming h]
    exact ⟨rfl, rfl⟩
  | outgoing name =>
    simp only [tracedRequests, TracedRequest.type, preProcess_outgoing] at h ⊢
    rw [postProcess_outgoing h]
    exact ⟨rfl, rfl⟩

/-- A request leaves the thread as its hook does, with the thread-local context from before. -/
theorem leave_eq (request : TracedRequest) (s t : Thread Span) :
    (tracedRequests ot).leave request ((tracedRequests ot).enter request s).1 t =
      request.delocalize s.metadata (after ot ⟨request, s, t⟩) := rfl

/-- So the contexts are those from before. -/
theorem leave_contexts {request : TracedRequest} {s t : Thread Span}
    (h : t.contexts = ((tracedRequests ot).enter request s).2.contexts) :
    ((tracedRequests ot).leave request ((tracedRequests ot).enter request s).1 t).contexts =
      s.contexts := by
  rw [leave_eq]
  cases request with
  | incoming name metadata => exact (after_spec h).1
  | outgoing name => exact (after_spec h).1

/-! ## Active spans -/

/-- Every request restores the active span. -/
theorem activeFrame (ot : OpenTelemetry Span) : Frame (tracedRequests ot) (fun _ => True)
    (fun s t => t.contexts = s.contexts) (fun _ _ => True)
    (fun v => (after ot v).active = (before v).active) where
  refl _ := rfl
  trans _ _ _ hst htu := htu.trans hst
  inv _ _ _ _ := trivial
  enter _ _ _ := trivial
  leave _ _ _ _ h _ := leave_contexts h
  restored request s t _ h := by
    -- The contexts are those from before, so their first one is
    refine iff_of_true ?_ trivial
    have hbefore : (before ⟨request, s, t⟩).contexts = s.contexts := by
      cases request <;> rfl
    unfold Thread.active
    rw [(after_spec h).1, hbefore]

/-! ## Restored headers -/

/-- The thread-local metadata are settled during a request. -/
theorem enter_settled (h : ot.Propagates) (request : TracedRequest) (s : Thread Span) :
    Settled ot ((tracedRequests ot).enter request s).2 := by
  obtain ⟨span, hactive, hmetadata⟩ := enter_spec ot request s
  constructor
  · intro span' hspan'
    -- Injecting the span of the request once more changes nothing
    rw [hactive, Option.some.injEq] at hspan'
    rw [hmetadata, hspan', h.denoted_injected_injected]
  · intro hnone
    rw [hactive] at hnone
    cases hnone

/-- What makes no difference to the headers keeps metadata settled. -/
theorem Settled.same {s t : Thread Span} (hs : Settled ot s) (h : SameThread ot s t) :
    Settled ot t := by
  constructor
  · intro span hspan
    rw [h.active] at hspan
    rw [h.headers.injected, h.headers.denoted, hs.active span hspan]
  · intro hnone
    rw [h.active] at hnone
    obtain ⟨hdenoted, hinjected⟩ := hs.inactive hnone
    refine ⟨h.headers.denoted.trans hdenoted, fun span => ?_⟩
    rw [h.headers.injected, hinjected]

/-- A span that is active again after a request is denoted again: it was denoted before. -/
theorem denoted_parent (h : ot.Propagates) {request : TracedRequest} {s : Thread Span}
    (hs : Settled ot s) {span : Span} (hparent : request.parent ot s = some span) :
    ot.denoted (ot.injected (some span) (request.localize s).metadata) =
      ot.denoted (request.localize s).metadata := by
  cases request with
  | incoming name metadata =>
    -- The remote span is read off the headers themselves
    have hdenoted : ot.denoted metadata = some span := hparent
    exact (h.denoted_injected hdenoted).trans hdenoted.symm
  | outgoing name => exact hs.active span hparent

/-- A request restores the headers exactly if it is a good one. -/
theorem restoresHeaders_iff (h : ot.Propagates) {request : TracedRequest} {s t : Thread Span}
    (hs : Settled ot s) (hsame : SameThread ot ((tracedRequests ot).enter request s).2 t) :
    RestoresHeaders ot ⟨request, s, t⟩ ↔ request.Good ot s := by
  obtain ⟨started, -, hmetadata⟩ := enter_spec ot request s
  have hheaders := hsame.headers
  rw [hmetadata] at hheaders
  unfold RestoresHeaders before
  rw [(after_spec hsame.contexts).2]
  dsimp only
  cases hparent : request.parent ot s with
  | some span =>
    -- There is a span to reset the headers to
    rw [h.injected_of_same hheaders, denoted_parent h hs hparent]
    refine iff_of_true rfl ?_
    cases request with
    | incoming name metadata =>
      have hdenoted : ot.denoted metadata = some span := hparent
      exact ⟨.inl (by simp [hdenoted]), fun _ => rfl⟩
    | outgoing name =>
      have hactive : s.active = some span := hparent
      exact ⟨trivial, by simp [hactive]⟩
  | none =>
    -- Nothing is injected, and the headers stay those of the request
    rw [OpenTelemetry.injected_none, hheaders.denoted]
    cases request with
    | incoming name metadata =>
      have hnone : ot.denoted metadata = none := hparent
      simp only [TracedRequest.localize, TracedRequest.Good, TracedRequest.Restorable, hnone,
        TracedRequest.type, implies_true, and_true, ne_eq, not_true, false_or]
      -- Without a remote span the injected one is left, if headers can denote it at all
      obtain hall | hall := h.denoted_injected_none hnone
      · constructor
        · intro hnone'
          rw [hall started] at hnone'
          cases hnone'
        · exact fun hmalformed => hmalformed started
      · exact iff_of_true (hall started) hall
    | outgoing name =>
      have hnone : s.active = none := hparent
      obtain ⟨hdenoted, hinjected⟩ := hs.inactive hnone
      -- There were no headers, and those of its own span are left
      simp [TracedRequest.localize, TracedRequest.Good, TracedRequest.type, hdenoted, hinjected,
        hnone]

/-- What a good request leaves. -/
theorem leave_same (h : ot.Propagates) {request : TracedRequest} {s t : Thread Span}
    (hs : Settled ot s) (hsame : SameThread ot ((tracedRequests ot).enter request s).2 t)
    (hgood : request.Good ot s) : SameThread ot s
      ((tracedRequests ot).leave request ((tracedRequests ot).enter request s).1 t) := by
  refine ⟨leave_contexts hsame.contexts, ?_⟩
  rw [leave_eq]
  cases request with
  | incoming name metadata => exact ⟨rfl, fun _ => rfl⟩
  | outgoing name =>
    obtain ⟨started, -, hmetadata⟩ := enter_spec ot (.outgoing name) s
    have hheaders := hsame.headers
    rw [hmetadata] at hheaders
    refine ⟨(restoresHeaders_iff h hs hsame).mpr hgood, fun span => ?_⟩
    -- What is injected later overwrites both injections
    simp only [TracedRequest.delocalize, (after_spec hsame.contexts).2]
    cases hparent : TracedRequest.parent ot (.outgoing name) s with
    | none => exact h.injected_of_same hheaders span
    | some parent =>
      rw [h.denoted_injected_injected]
      exact h.injected_of_same hheaders span

/-- Which requests restore the headers. -/
theorem headersFrame (h : ot.Propagates) : Frame (tracedRequests ot) (Settled ot) (SameThread ot)
    (TracedRequest.Good ot) (RestoresHeaders ot) where
  refl _ := ⟨rfl, rfl, fun _ => rfl⟩
  trans _ _ _ hst htu := ⟨htu.contexts.trans hst.contexts,
    htu.headers.denoted.trans hst.headers.denoted,
    fun span => (htu.headers.injected span).trans (hst.headers.injected span)⟩
  inv _ _ hs hsame := hs.same hsame
  enter request s _ := enter_settled h request s
  leave _ _ _ hs hsame hgood := leave_same h hs hsame hgood
  restored _ _ _ hs hsame := restoresHeaders_iff h hs hsame

/-- The good requests of a run: all are restorable, and the outermost are incoming unless a span
    is active already. -/
theorem good_visits_iff (calls : Calls TracedRequest) (t : Thread Span) :
    (∀ v ∈ (tracedRequests ot).visits calls t, v.call.Good ot v.entered) ↔
      (∀ request ∈ calls.all, request.Restorable ot) ∧
      (t.active = none → ∀ request ∈ calls.outermost, request.type = .incoming) := by
  induction calls generalizing t with
  -- Inside a request a span is active, after it the one from before
  | nil => simp [Bracket.visits, Calls.all, Calls.outermost]
  | call request inner next ihInner ihNext =>
    obtain ⟨span, hactive, -⟩ := enter_spec ot request t
    have hinner : ((tracedRequests ot).run inner
        ((tracedRequests ot).enter request t).2).contexts =
        ((tracedRequests ot).enter request t).2.contexts :=
      (activeFrame ot).run_same trivial fun _ _ => trivial
    have hleft : Thread.active ((tracedRequests ot).leave request
        ((tracedRequests ot).enter request t).1
        ((tracedRequests ot).run inner ((tracedRequests ot).enter request t).2)) = t.active := by
      unfold Thread.active
      rw [leave_contexts hinner]
    rw [Bracket.forall_visits_call, ihInner, ihNext, hactive, hleft]
    simp only [TracedRequest.Good, Calls.all, Calls.outermost, List.forall_mem_cons,
      List.mem_append]
    grind

/-- **Which runs restore the headers.** On a thread without an active span and without headers,
    let requests be made one after the other and during one another. Each of them restores the
    active span. All of them restore the headers exactly if every incoming request has headers
    that denote a span (or malformed ones that hide whatever is injected), and outgoing requests
    are made during others only; and then no header is left when they are over. -/
theorem headers_restored_iff (ot : OpenTelemetry Span) (h : ot.Propagates)
    (calls : Calls TracedRequest) {t : Thread Span} (hcontexts : t.contexts = [])
    (hmetadata : t.metadata = []) :
    (∀ v ∈ (tracedRequests ot).visits calls t, (after ot v).active = (before v).active) ∧
    (AllRestoreHeaders ot calls t ↔ (∀ request ∈ calls.all, request.Restorable ot) ∧
      ∀ request ∈ calls.outermost, request.type = .incoming) ∧
    (AllRestoreHeaders ot calls t →
      ot.denoted ((tracedRequests ot).run calls t).metadata = none) := by
  have hactive : t.active = none := by
    unfold Thread.active
    rw [hcontexts]
    rfl
  -- Nothing is active and no headers are there, so they are settled
  have hsettled : Settled ot t := by
    constructor
    · intro span hspan
      rw [hactive] at hspan
      cases hspan
    · intro _
      rw [hmetadata]
      exact h.denoted_nil
  refine ⟨?_, ?_, ?_⟩
  · exact ((activeFrame ot).restored_iff trivial).mpr fun _ _ => trivial
  · unfold AllRestoreHeaders
    rw [(headersFrame h).restored_iff hsettled, good_visits_iff, hactive]
    simp only [forall_const]
  · intro hrestored
    -- All requests are good then, and leave the thread as it was
    have hgood := ((headersFrame h).restored_iff hsettled).mp hrestored
    have hsame := (headersFrame h).run_same hsettled hgood
    exact hsame.headers.denoted.trans (hsettled.inactive hactive).1

end Requests

/-! ## B3 headers -/

/-- A span as the B3 headers name it. -/
structure B3Span where
  traceId : String
  spanId : String
  valid : traceId ≠ "" ∧ spanId ≠ ""

/-- The propagation of three headers, and a tracer whose spans are in the trace of their
    parent. -/
def b3MultiHeader : OpenTelemetry B3Span where
  extract get :=
    if h : get "X-B3-TraceId" ≠ "" ∧ get "X-B3-SpanId" ≠ "" then some ⟨_, _, h⟩ else none
  inject span :=
    [("X-B3-TraceId", span.traceId), ("X-B3-SpanId", span.spanId), ("X-B3-Sampled", "1")]
  startSpan _ parent _ :=
    match parent with
    | none => ⟨"80f198ee56343ba864fe8b2a57d3eff7", "e457b5a2e4d86bd1", by decide⟩
    | some parent => ⟨parent.traceId, "e457b5a2e4d86bd1", parent.valid.1, by decide⟩

/-- The values of the headers after a span was injected. -/
theorem b3MultiHeader_inject (get : String → String) (span : B3Span) :
    setAll (b3MultiHeader.inject span) get "X-B3-TraceId" = span.traceId ∧
    setAll (b3MultiHeader.inject span) get "X-B3-SpanId" = span.spanId := by
  simp [b3MultiHeader, setAll, Function.update]

/-- So it is extracted. -/
theorem b3MultiHeader_extract (get : String → String) (span : B3Span) :
    b3MultiHeader.extract (setAll (b3MultiHeader.inject span) get) = some span := by
  obtain ⟨htrace, hspan⟩ := b3MultiHeader_inject get span
  -- The ids of a span are not empty, as the extraction requires
  have hvalid := span.valid
  unfold b3MultiHeader at htrace hspan ⊢
  dsimp only at htrace hspan ⊢
  simp only [htrace, hspan]
  rw [dif_pos hvalid]

/-- It behaves as a propagator does. -/
theorem b3MultiHeader_propagates : b3MultiHeader.Propagates where
  overwrites get span span' := by rw [b3MultiHeader_extract, b3MultiHeader_extract]
  keeps get span _ := b3MultiHeader_extract get span
  absent get _ := .inl (b3MultiHeader_extract get)
  empty := rfl
  inject_empty := b3MultiHeader_extract _

/-- A thread on which nothing was traced. -/
def freshThread : Thread B3Span := ⟨[], [], 0, []⟩

/-- An incoming request with headers, during which another service is notified. -/
def tracedNotification : Calls TracedRequest :=
  .call (.incoming "setEntity" [("X-B3-TraceId", "80f198ee56343ba864fe8b2a57d3eff7"),
    ("X-B3-SpanId", "05e3ac9a4f6e3b90")]) (.call (.outgoing "entityChanged") .nil .nil) .nil

/-- Both restore the headers. -/
theorem headers_restored_iff_test :
    AllRestoreHeaders b3MultiHeader tracedNotification freshThread := by
  apply (headers_restored_iff b3MultiHeader b3MultiHeader_propagates tracedNotification rfl
    rfl).2.1.mpr
  constructor
  · intro request hrequest
    obtain rfl | rfl : request = _ ∨ request = _ := by simpa [tracedNotification, Calls.all] using hrequest
    · exact .inl (by decide)
    · trivial
  · intro request hrequest
    obtain rfl : request = _ := by simpa [tracedNotification, Calls.outermost] using hrequest
    rfl

/-- A request that is made alone, on that thread. -/
def aloneOn (request : TracedRequest) : Visit TracedRequest (Thread B3Span) :=
  ⟨request, freshThread, ((tracedRequests b3MultiHeader).enter request freshThread).2⟩

/-- The headers denote a span that has ended after a request, and none before it. -/
structure LeavesHeaders (v : Visit TracedRequest (Thread B3Span)) : Prop where
  none_before : b3MultiHeader.denoted (before v).metadata = none
  ended_after : ∃ span, b3MultiHeader.denoted (after b3MultiHeader v).metadata = some span ∧
    span ∈ (after b3MultiHeader v).ended

/-- An incoming request without headers leaves those of its span, and so does an outgoing one
    that is made alone. -/
theorem headers_left_behind :
    LeavesHeaders (aloneOn (.incoming "setEntity" [])) ∧
    ¬AllRestoreHeaders b3MultiHeader (.call (.incoming "setEntity" []) .nil .nil) freshThread ∧
    LeavesHeaders (aloneOn (.outgoing "entityChanged")) ∧
    ¬AllRestoreHeaders b3MultiHeader (.call (.outgoing "entityChanged") .nil .nil) freshThread := by
  have hincoming : LeavesHeaders (aloneOn (.incoming "setEntity" [])) :=
    ⟨rfl, _, rfl, List.mem_cons_self⟩
  have houtgoing : LeavesHeaders (aloneOn (.outgoing "entityChanged")) :=
    ⟨rfl, _, rfl, List.mem_cons_self⟩
  have hnot : ∀ request, LeavesHeaders (aloneOn request) →
      ¬AllRestoreHeaders b3MultiHeader (.call request .nil .nil) freshThread := by
    intro request hleaves hall
    -- It would have to denote no span, as before
    obtain ⟨span, hspan, -⟩ := hleaves.ended_after
    have hrestores : RestoresHeaders b3MultiHeader (aloneOn request) :=
      hall _ List.mem_cons_self
    unfold RestoresHeaders at hrestores
    rw [hspan, hleaves.none_before] at hrestores
    cases hrestores
  exact ⟨hincoming, hnot _ hincoming, houtgoing, hnot _ houtgoing⟩

end SapperBricks
