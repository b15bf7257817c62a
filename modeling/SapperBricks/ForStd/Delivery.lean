import Mathlib.Data.List.Perm.Subperm
import Mathlib.Tactic.Common

/-!
# Delivery at least once

Messages that are sent to a topic and delivered to a subscriber, each again and again, in any
order and to any number of callbacks at once, until it is known to be acknowledged. A callback
acknowledges its message first and processes it then. The subscriber may be restarted, which ends
its callbacks.

## Key results

- `Accounted.step`, `Accounted.cases`: where the messages are
- `Accounted.atRest`: when all are known to be acknowledged and no callback is running
- `Consumed.step`: what the consumer has made of them
- `sent_subperm_received`: at rest it was received as often as it was sent, or more often
-/

namespace Delivery

open scoped List

variable {M S : Type*}

/-- How far a callback has got with its message. -/
inductive Phase where
  | called
  | acknowledged
deriving DecidableEq, Repr

/-- A topic and its subscriber. Messages are known by their places among those sent. -/
structure State (M S : Type*) where
  sent : List M
  /-- the messages that were acknowledged -/
  acks : List Nat
  /-- those of which it is known -/
  arrived : List Nat
  callbacks : List (Nat × Phase)
  consumer : S
  /-- the messages that were processed, in the order in which they were -/
  processed : List Nat
  /-- the messages that were acknowledged when a restart ended their callbacks -/
  dropped : List Nat

/-- What can happen at the subscriber. -/
inductive Event where
  | deliver (id : Nat)
  | acknowledge (callback : Nat)
  | ackArrives (id : Nat)
  | process (callback : Nat)
  | restart
deriving DecidableEq, Repr

/-- Nothing was sent yet. -/
def initial (consumer : S) : State M S :=
  ⟨[], [], [], [], consumer, [], []⟩

/-- A message is sent. -/
def send (m : M) (s : State M S) : State M S :=
  { s with sent := s.sent ++ [m] }

/-- One event, if it can happen. -/
def step (consume : M → S → S) (s : State M S) : Event → Option (State M S)
  | .deliver id =>
    if id < s.sent.length ∧ id ∉ s.arrived then
      some { s with callbacks := s.callbacks ++ [(id, .called)] }
    else none
  | .acknowledge k =>
    match s.callbacks[k]? with
    | some (id, .called) =>
      some { s with callbacks := s.callbacks.set k (id, .acknowledged), acks := id :: s.acks }
    | _ => none
  | .ackArrives id => if id ∈ s.acks then some { s with arrived := id :: s.arrived } else none
  | .process k =>
    match s.callbacks[k]? with
    | some (id, .acknowledged) =>
      (s.sent[id]?).map fun m =>
        { s with
          callbacks := s.callbacks.eraseIdx k
          consumer := consume m s.consumer
          processed := s.processed ++ [id] }
    | _ => none
  | .restart =>
    some { s with
      callbacks := []
      dropped := s.dropped ++ s.callbacks.filterMap fun c =>
        if c.2 = .acknowledged then some c.1 else none }

/-- The messages that were processed, one after the other. -/
def received (s : State M S) : List M :=
  s.processed.filterMap (s.sent[·]?)

/-- Every message is known to be acknowledged, and no callback is running. -/
def AtRest (s : State M S) : Prop :=
  (∀ id < s.sent.length, id ∈ s.arrived) ∧ s.callbacks = []

/-! ## What an event does -/

variable {consume : M → S → S} {s s' : State M S}

/-- Everything that can happen. -/
theorem step_cases {e : Event} (h : step consume s e = some s') :
    (∃ id, id < s.sent.length ∧ s' = { s with callbacks := s.callbacks ++ [(id, .called)] }) ∨
    (∃ k id, s.callbacks[k]? = some (id, .called) ∧
      s' = { s with callbacks := s.callbacks.set k (id, .acknowledged), acks := id :: s.acks }) ∨
    (∃ id, id ∈ s.acks ∧ s' = { s with arrived := id :: s.arrived }) ∨
    (∃ k id m, s.callbacks[k]? = some (id, .acknowledged) ∧ s.sent[id]? = some m ∧
      s' = { s with
        callbacks := s.callbacks.eraseIdx k
        consumer := consume m s.consumer
        processed := s.processed ++ [id] }) ∨
    (e = .restart ∧ s' = { s with
      callbacks := []
      dropped := s.dropped ++ s.callbacks.filterMap fun c =>
        if c.2 = .acknowledged then some c.1 else none }) := by
  -- Where an event cannot happen there is no state after it
  cases e with
  | deliver id =>
    simp only [step] at h
    split at h
    · rename_i hid
      exact .inl ⟨id, hid.1, (Option.some.inj h).symm⟩
    · cases h
  | acknowledge k =>
    simp only [step] at h
    split at h
    · rename_i id hk
      exact .inr (.inl ⟨k, id, hk, (Option.some.inj h).symm⟩)
    · cases h
  | ackArrives id =>
    simp only [step] at h
    split at h
    · rename_i hid
      exact .inr (.inr (.inl ⟨id, hid, (Option.some.inj h).symm⟩))
    · cases h
  | process k =>
    simp only [step] at h
    split at h
    · rename_i id hk
      obtain ⟨m, hm, heq⟩ := Option.map_eq_some_iff.mp h
      exact .inr (.inr (.inr (.inl ⟨k, id, m, hk, hm, heq.symm⟩)))
    · cases h
  | restart => exact .inr (.inr (.inr (.inr ⟨rfl, (Option.some.inj h).symm⟩)))

/-! ## Where the messages are -/

/-- Every message that was acknowledged is in the callback that acknowledged it, was processed, or
    was dropped; nothing is processed that was not acknowledged. -/
structure Accounted (s : State M S) : Prop where
  arrived : ∀ id ∈ s.arrived, id ∈ s.acks
  acks : ∀ id ∈ s.acks, (id, .acknowledged) ∈ s.callbacks ∨ id ∈ s.processed ∨ id ∈ s.dropped
  callbacks : ∀ c ∈ s.callbacks, c.1 < s.sent.length ∧ (c.2 = .acknowledged → c.1 ∈ s.acks)
  processed : ∀ id ∈ s.processed, id < s.sent.length ∧ id ∈ s.acks

theorem accounted_initial (consumer : S) : Accounted (initial consumer : State M S) where
  arrived _ h := by cases h
  acks _ h := by cases h
  callbacks _ h := by cases h
  processed _ h := by cases h

/-- A message that is sent is one more that was not acknowledged. -/
theorem Accounted.send (h : Accounted s) (m : M) : Accounted (send m s) where
  arrived := h.arrived
  acks := h.acks
  callbacks c hc := by
    obtain ⟨hlt, hack⟩ := h.callbacks c hc
    -- The numbers of messages stay in range
    exact ⟨by simp only [Delivery.send, List.length_append, List.length_singleton]; omega, hack⟩
  processed id hid := by
    obtain ⟨hlt, hack⟩ := h.processed id hid
    exact ⟨by simp only [Delivery.send, List.length_append, List.length_singleton]; omega, hack⟩

/-- Every event keeps account of the messages. -/
theorem Accounted.step {e : Event} (h : Accounted s) (hstep : step consume s e = some s') :
    Accounted s' := by
  obtain ⟨id, hid, rfl⟩ | ⟨k, id, hk, rfl⟩ | ⟨id, hid, rfl⟩ | ⟨k, id, m, hk, hm, rfl⟩ | ⟨-, rfl⟩ :=
    step_cases hstep
  · -- One callback more, which has acknowledged nothing yet
    refine ⟨h.arrived, fun id' hid' => ?_, fun c hc => ?_, h.processed⟩
    · obtain hcb | hother := h.acks id' hid'
      · exact .inl (List.mem_append_left _ hcb)
      · exact .inr hother
    · obtain hc | hc := List.mem_append.mp hc
      · exact h.callbacks c hc
      · rw [List.mem_singleton.mp hc]
        exact ⟨hid, by simp⟩
  · -- The callback goes on to the next phase
    have hmem : (id, Phase.called) ∈ s.callbacks := List.mem_of_getElem? hk
    have hlt : k < s.callbacks.length := (List.getElem?_eq_some_iff.mp hk).1
    refine ⟨fun id' hid' => List.mem_cons_of_mem _ (h.arrived id' hid'), fun id' hid' => ?_,
      fun c hc => ?_, fun id' hid' => ?_⟩
    · obtain rfl | hid' := List.mem_cons.mp hid'
      · exact .inl (List.mem_set hlt _)
      · obtain hcb | hother := h.acks id' hid'
        · left
          obtain ⟨j, hj⟩ := List.mem_iff_getElem?.mp hcb
          -- An acknowledged callback is another one than the one that goes on
          have hjk : k ≠ j := by
            rintro rfl
            rw [hk] at hj
            cases hj
          exact List.mem_iff_getElem?.mpr ⟨j, by rw [List.getElem?_set_ne hjk]; exact hj⟩
        · exact .inr hother
    · obtain hc | rfl := List.mem_or_eq_of_mem_set hc
      · obtain ⟨hlt', hack⟩ := h.callbacks c hc
        exact ⟨hlt', fun hphase => List.mem_cons_of_mem _ (hack hphase)⟩
      · exact ⟨(h.callbacks _ hmem).1, fun _ => List.mem_cons_self⟩
    · obtain ⟨hlt', hack⟩ := h.processed id' hid'
      exact ⟨hlt', List.mem_cons_of_mem _ hack⟩
  · -- What arrives was acknowledged
    refine ⟨fun id' hid' => ?_, h.acks, h.callbacks, h.processed⟩
    obtain rfl | hid' := List.mem_cons.mp hid'
    · exact hid
    · exact h.arrived id' hid'
  · -- The message of the callback is processed, the other callbacks stay
    have hmem : (id, Phase.acknowledged) ∈ s.callbacks := List.mem_of_getElem? hk
    refine ⟨h.arrived, fun id' hid' => ?_, fun c hc => ?_, fun id' hid' => ?_⟩
    · obtain hcb | hdone | hdropped := h.acks id' hid'
      · by_cases hsame : id' = id
        · subst hsame
          exact .inr (.inl (List.mem_append_right _ List.mem_cons_self))
        · left
          obtain ⟨j, hj⟩ := List.mem_iff_getElem?.mp hcb
          -- A callback with another message is another callback
          have hjk : j ≠ k := by
            rintro rfl
            rw [hk] at hj
            exact hsame (congrArg Prod.fst (Option.some.inj hj)).symm
          exact List.mem_eraseIdx_iff_getElem?.mpr ⟨j, hjk, hj⟩
      · exact .inr (.inl (List.mem_append_left _ hdone))
      · exact .inr (.inr hdropped)
    · exact h.callbacks c (List.mem_of_mem_eraseIdx hc)
    · obtain hid' | hid' := List.mem_append.mp hid'
      · exact h.processed id' hid'
      · rw [List.mem_singleton.mp hid']
        exact ⟨(h.callbacks _ hmem).1, (h.callbacks _ hmem).2 rfl⟩
  · -- The acknowledged callbacks are dropped with their messages
    refine ⟨h.arrived, fun id' hid' => ?_, fun c hc => absurd hc List.not_mem_nil, h.processed⟩
    obtain hcb | hdone | hdropped := h.acks id' hid'
    · right
      right
      refine List.mem_append_right _ (List.mem_filterMap.mpr ⟨_, hcb, ?_⟩)
      simp
    · exact .inr (.inl hdone)
    · exact .inr (.inr (List.mem_append_left _ hdropped))

/-- No message is forgotten: one that is not known to be acknowledged can be delivered, any other
    is in a callback that has yet to process it, was processed, or was dropped. -/
theorem Accounted.cases (h : Accounted s) (id : Nat) :
    id ∉ s.arrived ∨ (id, .acknowledged) ∈ s.callbacks ∨ id ∈ s.processed ∨ id ∈ s.dropped := by
  -- Only what was acknowledged can be known to be
  by_cases harrived : id ∈ s.arrived
  · exact .inr (h.acks id (h.arrived id harrived))
  · exact .inl harrived

/-- At rest every message was processed or dropped. -/
theorem Accounted.atRest (h : Accounted s) (hrest : AtRest s) {id : Nat}
    (hid : id < s.sent.length) :
    id ∈ s.processed ∨ id ∈ s.dropped := by
  obtain ⟨harrived, hcallbacks⟩ := hrest
  obtain hnot | hcb | hdone := h.cases id
  · exact absurd (harrived id hid) hnot
  · rw [hcallbacks] at hcb
    cases hcb
  · exact hdone

/-- Without a restart nothing is dropped. -/
theorem dropped_step {e : Event} (he : e ≠ .restart) (hstep : step consume s e = some s') :
    s'.dropped = s.dropped := by
  obtain ⟨id, hid, rfl⟩ | ⟨k, id, hk, rfl⟩ | ⟨id, hid, rfl⟩ | ⟨k, id, m, hk, hm, rfl⟩ | ⟨hr, rfl⟩ :=
    step_cases hstep
  · rfl
  · rfl
  · rfl
  · rfl
  · exact absurd hr he

/-! ## What the consumer makes of them -/

/-- The consumer has consumed the messages that were received, from some state on. -/
def Consumed (consume : M → S → S) (start : S) (s : State M S) : Prop :=
  s.consumer = (received s).foldl (fun c m => consume m c) start

theorem consumed_initial (start : S) : Consumed consume start (initial start : State M S) := rfl

/-- A message that is sent is not received by that. -/
theorem received_send (h : Accounted s) (m : M) : received (send m s) = received s := by
  unfold received send
  -- Only messages that were sent before have been processed
  apply List.filterMap_congr
  intro id hid
  exact List.getElem?_append_left (h.processed id hid).1

/-- What was received before is still received, and one more message if one is processed. -/
theorem received_step {e : Event} (hstep : step consume s e = some s') :
    s'.sent = s.sent ∧
    (received s' = received s ∧ s'.consumer = s.consumer ∨
      ∃ m ∈ s.sent, received s' = received s ++ [m] ∧ s'.consumer = consume m s.consumer) := by
  obtain ⟨id, hid, rfl⟩ | ⟨k, id, hk, rfl⟩ | ⟨id, hid, rfl⟩ | ⟨k, id, m, hk, hm, rfl⟩ | ⟨-, rfl⟩ :=
    step_cases hstep
  · exact ⟨rfl, .inl ⟨rfl, rfl⟩⟩
  · exact ⟨rfl, .inl ⟨rfl, rfl⟩⟩
  · exact ⟨rfl, .inl ⟨rfl, rfl⟩⟩
  · refine ⟨rfl, .inr ⟨m, List.mem_of_getElem? hm, ?_, rfl⟩⟩
    simp [received, List.filterMap_append, hm]
  · exact ⟨rfl, .inl ⟨rfl, rfl⟩⟩

theorem Consumed.send {start : S} (hconsumed : Consumed consume start s) (h : Accounted s) (m : M) :
    Consumed consume start (send m s) := by
  unfold Consumed
  rw [received_send h]
  exact hconsumed

theorem Consumed.step {start : S} {e : Event} (hconsumed : Consumed consume start s)
    (hstep : Delivery.step consume s e = some s') : Consumed consume start s' := by
  unfold Consumed at hconsumed ⊢
  obtain ⟨-, ⟨hreceived, hconsumer⟩ | ⟨m, -, hreceived, hconsumer⟩⟩ := received_step hstep
  · rw [hreceived, hconsumer, hconsumed]
  · rw [hreceived, hconsumer, hconsumed, List.foldl_append]
    rfl

/-- A list by its places. -/
theorem range_filterMap_getElem? (ms : List M) :
    (List.range ms.length).filterMap (ms[·]?) = ms := by
  induction ms with
  | nil => rfl
  | cons m ms ih =>
    have hfirst : (m :: ms)[0]? = some m := rfl
    rw [List.length_cons, List.range_succ_eq_map, List.filterMap_cons_some hfirst,
      List.filterMap_map]
    exact congrArg (m :: ·) ih

/-- What messages are received does not depend on the order of those processed, and more are
    received if more are processed. -/
theorem subperm_filterMap {β : Type*} (f : M → Option β) {ms ms' : List M} (h : ms <+~ ms') :
    ms.filterMap f <+~ ms'.filterMap f := by
  obtain ⟨ns, hperm, hsub⟩ := h
  exact ⟨ns.filterMap f, hperm.filterMap f, hsub.filterMap f⟩

/-- At rest, if nothing was dropped, all that was sent was received, at least as often. -/
theorem sent_subperm_received (h : Accounted s) (hrest : AtRest s) (hdropped : s.dropped = []) :
    s.sent <+~ received s := by
  -- Every place is that of a message that was processed
  have hprocessed : List.range s.sent.length <+~ s.processed := by
    refine List.subperm_of_subset List.nodup_range fun id hid => ?_
    obtain hdone | hlost := h.atRest hrest (List.mem_range.mp hid)
    · exact hdone
    · rw [hdropped] at hlost
      cases hlost
  have hreceived := subperm_filterMap (s.sent[·]?) hprocessed
  rwa [range_filterMap_getElem?] at hreceived

end Delivery
