import SapperBricks.ForStd.Forest
import SapperBricks.Spec.TraceHistory

/-!
# Traces across services

What the spans that services export say about their requests: which of them caused which, in the
same service and in others, and which of them have the same first cause. The history of a run, in
which a request is caused by an earlier one, is a forest, and traces are its trees.

## Key results

- `History.Formed.run`: what holds of every history
- `parent_iff`: the parent of a span is that of the request that caused its request
- `trace_iff`: requests are in one trace exactly if they have the same first cause
- `ends_once`: a span ends once, after those of the requests that were made during its own
-/

namespace SapperBricks

open TracingRequestHook

namespace TracedServices

variable {Θ Span : Type} {ot : OpenTelemetry Span} {requests : List (Request Θ)}

/-! ## Causes -/

/-- Requests that are caused by earlier ones. -/
def Ordered (requests : List (Request Θ)) : Prop :=
  ∀ (n : Nat) (request : Request Θ) (m : Nat), requests[n]? = some request →
    request.cause.request? = some m → m < n

/-- The requests of a thread that are over, and those in progress: every one is made right before
    the ones around it, and is over when it becomes the last one before them. -/
def History.order (h : History Θ) (thread : Θ) : List Nat :=
  h.finished thread ++ (h.pending thread).map Prod.snd

/-- What there is at a place when something is added. -/
theorem getElem?_concat {α : Type} {xs : List α} {x y : α} {n : Nat} :
    (xs ++ [x])[n]? = some y ↔ xs[n]? = some y ∨ n = xs.length ∧ y = x := by
  -- Before the new element, at it, or behind it
  rcases Nat.lt_trichotomy n xs.length with hn | hn | hn
  · rw [List.getElem?_append_left hn]
    simp [Nat.ne_of_lt hn]
  · subst hn
    simp [eq_comm]
  · rw [List.getElem?_eq_none (by simp; omega), List.getElem?_eq_none (Nat.le_of_lt hn)]
    simp
    omega

/-- The numbers of the requests of a thread. -/
def History.numbers [DecidableEq Θ] (h : History Θ) (thread : Θ) : List Nat :=
  (List.range h.requests.length).filter fun n => h.requests[n]?.map Request.thread = some thread

/-- What holds of histories. -/
structure History.Formed (h : History Θ) : Prop where
  ordered : Ordered h.requests
  sent : ∀ n ∈ h.sent, n < h.requests.length
  mem_order : ∀ (thread : Θ) (n : Nat), n ∈ h.order thread ↔
    ∃ request, h.requests[n]? = some request ∧ request.thread = thread
  nodup : ∀ thread, (h.order thread).Nodup
  inner : ∀ (n m : Nat) (request : Request Θ), h.requests[n]? = some request →
    request.cause = .during m →
    List.Sublist [n, m] (h.order request.thread)

namespace History.Formed

variable {h : History Θ}

theorem initial : (History.initial : History Θ).Formed where
  ordered n request m hn := by
    cases hn
  sent n hn := by
    cases hn
  mem_order thread n := by
    simp [History.initial, History.order]
  nodup thread := List.nodup_nil
  inner n m request hn := by
    cases hn

/-- Numbers in progress are those of requests. -/
theorem lt_of_pending (hf : h.Formed) {thread : Θ} {r : RequestType × Nat}
    (hr : r ∈ h.pending thread) : r.2 < h.requests.length := by
  have hmem : r.2 ∈ h.order thread :=
    List.mem_append_right _ (List.mem_map_of_mem hr)
  obtain ⟨request, hrequest, -⟩ := (hf.mem_order thread r.2).mp hmem
  exact (List.getElem?_eq_some_iff.mp hrequest).1

variable [DecidableEq Θ]

/-- The order of a thread after a request is made. -/
theorem order_enter (request : Request Θ) (type : RequestType) (h : History Θ) (thread : Θ) :
    (h.enter request type).order thread =
      if thread = request.thread then
        h.finished thread ++ h.requests.length :: (h.pending thread).map Prod.snd
      else h.order thread := by
  unfold History.order History.enter
  by_cases hthread : thread = request.thread
  · subst hthread
    simp
  · simp [hthread]

/-- A request is made, for a cause that is a request, and during the innermost one if it is during
    one. -/
theorem enter (hf : h.Formed) {request : Request Θ} (type : RequestType)
    (hcause : ∀ m, request.cause.request? = some m → m < h.requests.length)
    (hduring : ∀ m, request.cause = .during m →
      m ∈ (h.pending request.thread).map Prod.snd) : (h.enter request type).Formed := by
  -- Every number in the order is that of a request, so the next one is new
  have hnew : h.requests.length ∉ h.order request.thread := by
    intro hmem
    obtain ⟨other, hother, -⟩ := (hf.mem_order _ _).mp hmem
    exact absurd (List.getElem?_eq_some_iff.mp hother).1 (Nat.lt_irrefl _)
  -- Its number stands right before those in progress, and the others stay in their order
  have hgrows : ∀ thread, List.Sublist (h.order thread) ((h.enter request type).order thread) := by
    intro thread
    rw [order_enter]
    split
    · exact (List.sublist_cons_self _ _).append_left _
    · exact .refl _
  constructor
  · intro n other m hother hm
    -- A cause is an earlier request: of the new one by `hcause`
    obtain hother | ⟨rfl, rfl⟩ := getElem?_concat.mp hother
    · exact hf.ordered n other m hother hm
    · exact hcause m hm
  · intro n hn
    have hlength : (h.enter request type).requests.length = h.requests.length + 1 :=
      List.length_append
    rw [hlength]
    exact Nat.lt_succ_of_lt (hf.sent n hn)
  · intro thread n
    have hmem := hf.mem_order thread n
    show _ ↔ ∃ other, (h.requests ++ [request])[n]? = some other ∧ other.thread = thread
    -- The new number belongs to the thread of the new request only
    simp only [getElem?_concat, or_and_right, exists_or, ← hmem, order_enter]
    split
    · rename_i hthread
      subst hthread
      simp only [History.order, List.mem_append, List.mem_cons]
      grind
    · grind
  · intro thread
    rw [order_enter]
    split
    · rename_i hthread
      subst hthread
      -- Inserted in the middle, the new number is like one in front
      exact (List.perm_middle.nodup_iff).mpr (List.nodup_cons.mpr ⟨hnew, hf.nodup _⟩)
    · exact hf.nodup thread
  · intro n m other hother hm
    -- Earlier pairs keep their order; the new request stands before the one around it
    obtain hother | ⟨rfl, rfl⟩ := getElem?_concat.mp hother
    · exact (hf.inner n m other hother hm).trans (hgrows _)
    · rw [order_enter, if_pos rfl]
      exact ((List.singleton_sublist.mpr (hduring m hm)).cons_cons _).trans
        (List.sublist_append_right _ _)

/-- Requests are over: nothing changes in the order. -/
theorem leave (hf : h.Formed) {thread : Θ} {past : List Nat} {rest : List (RequestType × Nat)}
    (hpending : (h.pending thread).map Prod.snd = past ++ rest.map Prod.snd) :
    (h.leave thread past rest).Formed := by
  -- What leaves the requests in progress is appended to those that are over
  have horder : (h.leave thread past rest).order = h.order := by
    funext other
    unfold History.order History.leave
    by_cases hother : other = thread
    · subst hother
      simp only [Function.update_self, hpending, List.append_assoc]
    · simp only [Function.update_of_ne hother]
  constructor
  · exact hf.ordered
  · exact hf.sent
  · rw [horder]
    exact hf.mem_order
  · rw [horder]
    exact hf.nodup
  · rw [horder]
    exact hf.inner

/-- Histories go on as histories. -/
theorem step {event : Event Θ} {h' : History Θ} (hf : h.Formed) (hstep : h.step event = some h') :
    h'.Formed := by
  cases event with
  | receive thread name metadata =>
    cases hstep
    -- No earlier request is the cause of what comes from outside
    exact hf.enter .incoming (fun m hm => by cases hm) fun m hm => by cases hm
  | deliver thread name message =>
    simp only [History.step, Option.map_eq_some_iff] at hstep
    obtain ⟨n, hn, rfl⟩ := hstep
    -- The cause is the request that sent the message
    refine hf.enter .incoming (fun m hm => ?_) fun m hm => by cases hm
    cases hm
    exact hf.sent n (List.mem_of_getElem? hn)
  | issue thread name =>
    cases hstep
    cases hpending : h.pending thread with
    | nil =>
      exact hf.enter .outgoing (fun m hm => by cases hm) fun m hm => by cases hm
    | cons r rest =>
      -- The cause is the innermost request in progress
      have hr : r ∈ h.pending thread := by
        rw [hpending]
        exact List.mem_cons_self
      refine hf.enter .outgoing (fun m hm => ?_) fun m hm => ?_
      · cases hm
        exact hf.lt_of_pending hr
      · cases hm
        exact List.mem_map_of_mem hr
  | send thread =>
    simp only [History.step] at hstep
    split at hstep
    · rename_i n rest hpending
      cases hstep
      -- Only what was sent is longer: by the innermost request, which has a number
      have hmem : (.outgoing, n) ∈ h.pending thread := by
        rw [hpending]
        exact List.mem_cons_self
      have hn : n < h.requests.length := hf.lt_of_pending hmem
      refine ⟨hf.ordered, fun m hm => ?_, hf.mem_order, hf.nodup, hf.inner⟩
      obtain hm | hm := List.mem_append.mp hm
      · exact hf.sent m hm
      · rw [List.mem_singleton.mp hm]
        exact hn
    · cases hstep
  | finish thread =>
    simp only [History.step] at hstep
    split at hstep
    · cases hstep
    · rename_i r rest hpending
      cases hstep
      refine hf.leave ?_
      rw [hpending]
      rfl
  | throw thread =>
    cases hstep
    refine hf.leave ?_
    -- An exception leaves the outgoing requests at the front, all at once
    rw [← List.map_append, List.takeWhile_append_dropWhile]

/-- The order of a thread has each of its requests once. -/
theorem order_perm (hf : h.Formed) (thread : Θ) : (h.order thread).Perm (h.numbers thread) := by
  unfold numbers
  -- Both lists are free of duplicates, so it is enough that they have the same members
  rw [List.perm_ext_iff_of_nodup (hf.nodup thread) (List.nodup_range.filter _)]
  intro n
  rw [hf.mem_order, List.mem_filter, List.mem_range, decide_eq_true_eq, Option.map_eq_some_iff]
  constructor
  · rintro ⟨request, hrequest, hthread⟩
    exact ⟨(List.getElem?_eq_some_iff.mp hrequest).1, request, hrequest, hthread⟩
  · exact fun h => h.2

/-- Every history is formed. -/
theorem run {events : List (Event Θ)}
    (hrun : Machine.run History.step events History.initial = some h) : h.Formed :=
  Machine.run_keeps (fun _ _ _ hf hstep => hf.step hstep) initial hrun

end History.Formed

/-! ## Spans and their causes -/

/-- What is caused by an earlier request is not changed by later ones. -/
theorem span?_concat {cause : Cause} {request : Request Θ}
    (h : ∀ m, cause.request? = some m → m < requests.length) :
    cause.span? ot (spansOf ot (requests ++ [request])) = cause.span? ot (spansOf ot requests) := by
  cases cause with
  | outside metadata => rfl
  | sentBy m => exact congrArg (Option.map SpanData.span) (getElem?_spansOf_concat (h m rfl))
  | during m => exact congrArg (Option.map SpanData.span) (getElem?_spansOf_concat (h m rfl))
  | alone => rfl

/-- The span of a request is started with that of its cause. -/
theorem getElem?_spansOf (h : Ordered requests) {n : Nat} {request : Request Θ}
    (hn : requests[n]? = some request) :
    (spansOf ot requests)[n]? = some ⟨request.name, request.cause.span? ot (spansOf ot requests),
      ot.startSpan request.name (request.cause.span? ot (spansOf ot requests)) n⟩ := by
  induction requests using List.reverseRecOn with
  | nil => cases hn
  | append_singleton requests last ih =>
    have hordered : Ordered requests := by
      intro k other m hk hm
      exact h k other m (getElem?_concat.mpr (.inl hk)) hm
    -- The cause is before the last request, whether this is the last one or not
    have hearlier : ∀ m, request.cause.request? = some m → m < requests.length := by
      intro m hm
      have hlast : n < (requests ++ [last]).length := (List.getElem?_eq_some_iff.mp hn).1
      rw [List.length_append, List.length_singleton] at hlast
      have hbefore := h n request m hn hm
      omega
    rw [span?_concat hearlier]
    -- An earlier request has its span from before; the last one is appended with its own
    obtain hn | ⟨rfl, rfl⟩ := getElem?_concat.mp hn
    · rw [getElem?_spansOf_concat (List.getElem?_eq_some_iff.mp hn).1]
      exact ih hordered hn
    · rw [spansOf_concat, getElem?_concat]
      exact .inr ⟨length_spansOf.symm, by rw [length_spansOf]⟩

/-- The spans of services by the requests of their history. -/
theorem Follows.getElem?_spans {s : State Θ Span} {h : History Θ} (hs : Follows ot s h)
    (hf : h.Formed) {n : Nat} {request : Request Θ} (hn : h.requests[n]? = some request) :
    s.spans[n]? = some ⟨request.name, request.cause.span? ot s.spans,
      ot.startSpan request.name (request.cause.span? ot s.spans) n⟩ := by
  rw [hs.spans]
  exact getElem?_spansOf hf.ordered hn

/-- Where spans differ, a span has one number. -/
theorem spanAt_eq_iff {spans : List (SpanData Span)}
    (hdistinct : (spans.map SpanData.span).Nodup) {m : Nat} {x : SpanData Span}
    (hx : spans[m]? = some x) (k : Nat) : spanAt spans k = some x.span ↔ k = m := by
  have hm : spanAt spans m = some x.span := by
    unfold spanAt
    rw [hx]
    rfl
  constructor
  · intro hk
    -- Two places of one span in a list of different spans are the same place
    have hsame : (spans.map SpanData.span)[k]? = (spans.map SpanData.span)[m]? := by
      rw [List.getElem?_map, List.getElem?_map]
      exact hk.trans hm.symm
    obtain ⟨y, hy, -⟩ := Option.map_eq_some_iff.mp hk
    have hlt : k < (spans.map SpanData.span).length := by
      rw [List.length_map]
      exact (List.getElem?_eq_some_iff.mp hy).1
    exact (List.getElem?_inj hlt hdistinct).mp hsame
  · rintro rfl
    exact hm

/-- The requests and what caused them. -/
def causes (requests : List (Request Θ)) : Forest :=
  Forest.ofParents (requests.map fun request => request.cause.request?)

theorem child_causes {n m : Nat} (h : (causes requests).Child n m) :
    ∃ request, requests[n]? = some request ∧ request.cause.request? = some m := by
  obtain ⟨hparent, -⟩ := Forest.child_ofParents.mp h
  rw [List.getElem?_map, Option.map_eq_some_iff] at hparent
  exact hparent

/-- The request by which one was caused in the end. -/
def firstCause (requests : List (Request Θ)) (n : Nat) : Nat :=
  (causes requests).root n

section Traces

variable {s : State Θ Span} {h : History Θ} {τ : Type} {trace : Span → τ}

/-- A span is in the trace of its parent. -/
theorem Follows.trace_parent (hs : Follows ot s h) (hf : h.Formed)
    (htrace : ∀ name parent n, trace (ot.startSpan name (some parent) n) = trace parent) {n : Nat}
    {x : SpanData Span} (hx : s.spans[n]? = some x) {p : Span} (hp : x.parent = some p) :
    trace x.span = trace p := by
  have hlength : n < h.requests.length := by
    rw [← hs.length_spans]
    exact (List.getElem?_eq_some_iff.mp hx).1
  -- The span was started by its request, and the tracer keeps the trace of a parent
  have hspan := hs.getElem?_spans hf (List.getElem?_eq_getElem hlength)
  rw [hx, Option.some.injEq] at hspan
  subst hspan
  dsimp only at hp ⊢
  rw [hp]
  exact htrace _ p n

/-- The span of a request that another one caused has the span of this one as its parent. -/
theorem Follows.parent_child (hs : Follows ot s h) (hf : h.Formed) {n m : Nat}
    (hchild : (causes h.requests).Child n m) {x y : SpanData Span} (hx : s.spans[m]? = some x)
    (hy : s.spans[n]? = some y) : y.parent = some x.span := by
  obtain ⟨request, hn, hm⟩ := child_causes hchild
  have hspan := hs.getElem?_spans hf hn
  rw [hy, Option.some.injEq] at hspan
  rw [hspan]
  rw [Cause.span?_of_request? hm]
  unfold spanAt
  rw [hx]
  rfl

/-- So it is in the trace of this one. -/
theorem Follows.trace_child (hs : Follows ot s h) (hf : h.Formed)
    (htrace : ∀ name parent n, trace (ot.startSpan name (some parent) n) = trace parent) {n m : Nat}
    (hchild : (causes h.requests).Child n m) :
    (spanAt s.spans n).map trace = (spanAt s.spans m).map trace := by
  obtain ⟨request, hn, hm⟩ := child_causes hchild
  have hn' : n < s.spans.length := by
    rw [hs.length_spans]
    exact (List.getElem?_eq_some_iff.mp hn).1
  have hm' : m < s.spans.length := Nat.lt_trans (hf.ordered n request m hn hm) hn'
  have hx := List.getElem?_eq_getElem hm'
  have hy := List.getElem?_eq_getElem hn'
  unfold spanAt
  rw [hx, hy]
  exact congrArg some (hs.trace_parent hf htrace hy (hs.parent_child hf hchild hx hy))

end Traces

/-- What comes before something in a list does so in the part of the list that has it. -/
theorem sublist_of_mem_left {α : Type} {xs ys : List α} {x y : α} (hnodup : (xs ++ ys).Nodup)
    (h : List.Sublist [x, y] (xs ++ ys)) (hy : y ∈ xs) : List.Sublist [x, y] xs := by
  obtain ⟨l₁, l₂, heq, h₁, h₂⟩ := List.sublist_append_iff.mp h
  have hnot : y ∉ l₂ := fun hl =>
    (List.nodup_append.mp hnodup).2.2 y hy y (h₂.subset hl) rfl
  -- Nothing of the pair is in the second part: its last one would be there, too
  have hlast : l₂ = [] := by
    rcases l₁ with _ | ⟨a, _ | ⟨b, l₁⟩⟩
    · rw [List.nil_append] at heq
      exact absurd (heq ▸ List.mem_cons_of_mem x List.mem_cons_self) hnot
    · rw [List.cons_append, List.nil_append, List.cons.injEq] at heq
      exact absurd (heq.2 ▸ List.mem_cons_self) hnot
    · simp only [List.cons_append, List.cons.injEq, List.nil_eq, List.append_eq_nil_iff] at heq
      exact heq.2.2.2
  rw [heq, hlast, List.append_nil]
  exact h₁

section Results

variable [DecidableEq Θ] {events : List (Event Θ)} {s : State Θ Span}

/-- **Parents are causes.** Where the ids that are drawn differ, the parent of the span of a request
    is that of another one exactly if this one caused it: it was made during the other one, or the
    other one has sent it; or it came from outside with headers that denote the span. -/
theorem parent_iff (setup : Setup Θ Span) (hcarries : setup.Carries)
    (htype : setup.type ≠ .b3MultiHeader)
    (hrun : Machine.run (step setup) events State.initial = some s)
    (hdistinct : (s.spans.map SpanData.span).Nodup) :
    ∃ h, Machine.run History.step events History.initial = some h ∧
      s.spans.length = h.requests.length ∧
      ∀ (m n : Nat) (x y : SpanData Span) (request : Request Θ), s.spans[m]? = some x →
        s.spans[n]? = some y → h.requests[n]? = some request →
        (y.parent = some x.span ↔ request.cause.request? = some m ∨
          ∃ metadata, request.cause = .outside metadata ∧
            setup.openTelemetry.denoted metadata = some x.span) := by
  obtain ⟨h, hh, hs⟩ := exists_history hcarries htype hrun
  refine ⟨h, hh, hs.length_spans, fun m n x y request hx hy hrequest => ?_⟩
  -- The span was started with that of the cause, whatever this is
  have hspan := hs.getElem?_spans (.run hh) hrequest
  rw [hy, Option.some.injEq] at hspan
  rw [hspan]
  cases hcause : request.cause with
  | outside metadata => simp [Cause.span?, Cause.request?]
  | sentBy k => simpa [Cause.request?, Cause.span?] using spanAt_eq_iff hdistinct hx k
  | during k => simpa [Cause.request?, Cause.span?] using spanAt_eq_iff hdistinct hx k
  | alone => simp [Cause.span?, Cause.request?]

/-- The spans have different ids. -/
theorem distinct_testRequests :
    ((spansOf b3SingleHeader testRequests).map SpanData.span).Nodup := by
  decide

/-- The parent of the span of a request is in another service. -/
theorem parent_iff_test : ∃ s x y, Machine.run (step b3Setup) testEvents State.initial = some s ∧
    s.spans[1]? = some x ∧ s.spans[2]? = some y ∧ y.parent = some x.span := by
  obtain ⟨h, s, hh, hrequests, -, hs, hspans⟩ := run_testEvents
  obtain ⟨h', hh', -, hparent⟩ := parent_iff b3Setup b3Setup_carries (by decide) hs
    (hspans ▸ distinct_testRequests)
  rw [hh, Option.some.injEq] at hh'
  rw [← hh', hrequests, hspans] at hparent
  exact ⟨s, _, _, hs, by rw [hspans]; rfl, by rw [hspans]; rfl,
    (hparent 1 2 _ _ _ rfl rfl rfl).mpr (.inl rfl)⟩

/-- **Traces are trees of causes.** Let a span that is started with a parent be in the trace of
    this, and spans that are started without one in traces of their own. Then a request is in the
    trace of its first cause, which is the one that the headers from outside denote, if they denote a
    span; and requests whose first causes came without a span are in the same trace exactly if they
    have the same first cause. -/
theorem trace_iff {τ : Type} (setup : Setup Θ Span) (hcarries : setup.Carries)
    (htype : setup.type ≠ .b3MultiHeader) (trace : Span → τ)
    (htrace : ∀ name parent n,
      trace (setup.openTelemetry.startSpan name (some parent) n) = trace parent)
    (hrun : Machine.run (step setup) events State.initial = some s)
    (hroots : ∀ (m n : Nat) (x y : SpanData Span), s.spans[m]? = some x → s.spans[n]? = some y →
      x.parent = none → y.parent = none → trace x.span = trace y.span → m = n) :
    ∃ h, Machine.run History.step events History.initial = some h ∧
      ∀ (m n : Nat) (x y : SpanData Span), s.spans[m]? = some x → s.spans[n]? = some y →
        ∃ u v, s.spans[firstCause h.requests m]? = some u ∧
          s.spans[firstCause h.requests n]? = some v ∧
          (∀ p, u.parent = some p → trace x.span = trace p) ∧
          (u.parent = none → v.parent = none →
            (trace x.span = trace y.span ↔
              firstCause h.requests m = firstCause h.requests n)) := by
  obtain ⟨h, hh, hs⟩ := exists_history hcarries htype hrun
  have hf : h.Formed := .run hh
  refine ⟨h, hh, fun m n x y hx hy => ?_⟩
  -- One step to the cause keeps the trace, so the trace is a colouring of the forest
  have hchild : ∀ n m, (causes h.requests).Child n m →
      (spanAt s.spans n).map trace = (spanAt s.spans m).map trace :=
    fun _ _ => hs.trace_child hf htrace
  have hroot : ∀ {k : Nat} {z : SpanData Span}, s.spans[k]? = some z →
      ∃ u, s.spans[firstCause h.requests k]? = some u := by
    intro k z hz
    have hlt := (List.getElem?_eq_some_iff.mp hz).1
    exact ⟨_, List.getElem?_eq_getElem (Nat.lt_of_le_of_lt (Forest.root_le k) hlt)⟩
  obtain ⟨u, hu⟩ := hroot hx
  obtain ⟨v, hv⟩ := hroot hy
  have hcolor : ∀ {k : Nat} {z : SpanData Span}, s.spans[k]? = some z →
      (spanAt s.spans k).map trace = some (trace z.span) := by
    intro k z hz
    unfold spanAt
    rw [hz]
    rfl
  -- A parent of the first cause hands its trace down; without parents, roots tell traces apart
  refine ⟨u, v, hu, hv, fun p hp => ?_, fun hup hvp => ?_⟩
  · have htraces : (spanAt s.spans m).map trace =
        (spanAt s.spans (firstCause h.requests m)).map trace := Forest.color_root hchild m
    rw [hcolor hx, hcolor hu, Option.some.injEq] at htraces
    rw [htraces]
    exact hs.trace_parent hf htrace hu hp
  · have hdistinct : (spanAt s.spans (firstCause h.requests m)).map trace =
        (spanAt s.spans (firstCause h.requests n)).map trace →
        firstCause h.requests m = firstCause h.requests n := by
      intro htraces
      rw [hcolor hu, hcolor hv, Option.some.injEq] at htraces
      exact hroots _ _ u v hu hv hup hvp htraces
    have hsame := Forest.color_eq_iff hchild hdistinct
    rw [hcolor hx, hcolor hy, Option.some.injEq] at hsame
    exact hsame

/-- Only the first one is started without a parent. -/
theorem eq_zero_of_parent {n : Nat} {x : SpanData B3Ids}
    (hx : (spansOf b3SingleHeader testRequests)[n]? = some x) (hparent : x.parent = none) :
    n = 0 := by
  match n with
  | 0 => rfl
  | 1 => cases hx; cases hparent
  | 2 => cases hx; cases hparent
  | 3 => cases hx; cases hparent
  | 4 => cases hx; cases hparent
  | n + 5 => cases hx

/-- It is in the trace of the request that came first. -/
theorem trace_iff_test : ∃ s x y, Machine.run (step b3Setup) testEvents State.initial = some s ∧
    s.spans[0]? = some x ∧ s.spans[2]? = some y ∧ x.span.traceId = y.span.traceId := by
  obtain ⟨h, s, hh, hrequests, -, hs, hspans⟩ := run_testEvents
  have hroots : ∀ (m n : Nat) (x y : SpanData B3Ids), s.spans[m]? = some x →
      s.spans[n]? = some y → x.parent = none → y.parent = none →
      x.span.traceId = y.span.traceId → m = n := by
    intro m n x y hx hy hm hn _
    rw [hspans] at hx hy
    rw [eq_zero_of_parent hx hm, eq_zero_of_parent hy hn]
  obtain ⟨h', hh', htraces⟩ := trace_iff b3Setup b3Setup_carries (by decide) B3Ids.traceId
    (fun _ _ _ => rfl) hs hroots
  rw [hh, Option.some.injEq] at hh'
  rw [← hh', hrequests, hspans] at htraces
  obtain ⟨u, v, hu, hv, -, hsame⟩ := htraces 0 2 _ _ rfl rfl
  have hfirst : firstCause testRequests 0 = 0 := by
    refine Forest.root_of_forall_not fun m hm => ?_
    exact absurd (Forest.child_ofParents.mp hm).2 (Nat.not_lt_zero m)
  have hthird : firstCause testRequests 2 = 0 := by
    have hchild : ∀ {n m : Nat}, (testRequests.map fun request => request.cause.request?)[n]? =
        some (some m) → m < n → (causes testRequests).Child n m :=
      fun hn hlt => Forest.child_ofParents.mpr ⟨hn, hlt⟩
    rw [firstCause, Forest.root_of_child (hchild rfl (by decide : 1 < 2)),
      Forest.root_of_child (hchild rfl (by decide : 0 < 1))]
    exact hfirst
  rw [hfirst] at hu hsame
  rw [hthird] at hv hsame
  cases hu
  cases hv
  exact ⟨s, _, _, hs, by rw [hspans]; rfl, by rw [hspans]; rfl, (hsame rfl rfl).mpr rfl⟩

/-- **Every span ends once.** The spans that have ended on a thread and those of the requests in
    progress there are those of the requests that were made there, each once. And when a request is
    over, the spans of the requests that were made during it have ended before its own. -/
theorem ends_once (setup : Setup Θ Span) (hcarries : setup.Carries)
    (htype : setup.type ≠ .b3MultiHeader)
    (hrun : Machine.run (step setup) events State.initial = some s) :
    ∃ h, Machine.run History.step events History.initial = some h ∧
      (∀ thread, ((s.threads thread).ended.map some ++
          (s.pending thread).map fun p => p.2.1.span).Perm
        ((h.numbers thread).map (spanAt s.spans))) ∧
      ∀ (m n : Nat) (x y : SpanData Span) (request : Request Θ), s.spans[m]? = some x →
        s.spans[n]? = some y → h.requests[n]? = some request → request.cause = .during m →
        m ∈ h.finished request.thread →
        List.Sublist [y.span, x.span] (s.threads request.thread).ended := by
  obtain ⟨h, hh, hs⟩ := exists_history hcarries htype hrun
  have hf : h.Formed := .run hh
  refine ⟨h, hh, fun thread => ?_, fun m n x y request hx hy hrequest hcause hm => ?_⟩
  · -- The tracking of the thread says which spans its requests in progress have
    rw [hs.map_ended, (hs.tracks thread).map_span, ← List.map_append]
    exact (hf.order_perm thread).map _
  · have hsub := sublist_of_mem_left (hf.nodup _) (hf.inner n m request hrequest hcause) hm
    -- Spans end in the order in which requests are over
    have hspans := hsub.filterMap (spanAt s.spans)
    rw [← hs.ended_eq] at hspans
    unfold spanAt at hspans
    simpa [hx, hy] using hspans

/-- The span of a request that an exception has left ends before that of the one during which it was
    made. -/
theorem ends_once_test : ∃ s x y, Machine.run (step b3Setup) testEvents State.initial = some s ∧
    s.spans[0]? = some x ∧ s.spans[3]? = some y ∧
    List.Sublist [y.span, x.span] (s.threads 0).ended := by
  obtain ⟨h, s, hh, hrequests, hfinished, hs, hspans⟩ := run_testEvents
  obtain ⟨h', hh', -, hinner⟩ := ends_once b3Setup b3Setup_carries (by decide) hs
  rw [hh, Option.some.injEq] at hh'
  rw [← hh', hrequests, hspans] at hinner
  have hover : 0 ∈ h.finished 0 := by
    rw [hfinished]
    decide
  exact ⟨s, _, _, hs, by rw [hspans]; rfl, by rw [hspans]; rfl,
    hinner 0 3 _ _ _ rfl rfl rfl rfl hover⟩

end Results

end TracedServices

end SapperBricks
