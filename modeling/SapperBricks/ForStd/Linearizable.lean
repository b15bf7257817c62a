import SapperBricks.ForStd.Sections

/-!
# Linearization points

A procedure is *linearizable* against a sequential specification when every run of any
number of concurrent calls can be explained by letting each call take effect at one
instant between its call and its return: executed one at a time in the order of these
instants, the calls have the same outcomes and leave the same shared state at every
moment of the run.

`linearizable` reduces this to a condition on single sections (`Atomic`): a section that
does not end its call leaves the shared state alone, and a section that ends its call does
to the shared state, and returns, exactly what the specification says. The instant of a
call is then the section that ends it.
-/

namespace Interleaving

universe u

variable {ι Arg Loc Sh Res : Type u}

/-! ## Sequential executions -/

/-- The outcomes of calls executed one at a time, and the state they leave. -/
def seqRun (spec : Arg → Sh → Res × Sh) (arg : ι → Arg) : List ι → Sh → List (ι × Res) × Sh
  | [], s => ([], s)
  | i :: is, s =>
    ((i, (spec (arg i) s).1) :: (seqRun spec arg is (spec (arg i) s).2).1,
      (seqRun spec arg is (spec (arg i) s).2).2)

/-- One more call at the end of a sequential execution. -/
theorem seqRun_concat (spec : Arg → Sh → Res × Sh) (arg : ι → Arg) (is : List ι) (i : ι)
    (s : Sh) :
    seqRun spec arg (is ++ [i]) s =
      ((seqRun spec arg is s).1 ++ [(i, (spec (arg i) (seqRun spec arg is s).2).1)],
        (spec (arg i) (seqRun spec arg is s).2).2) := by
  induction is generalizing s with
  | nil => rfl
  | cons j is ih => simp only [List.cons_append, seqRun, ih]

/-! ## Linearizations -/

/-- The instant at which a call takes effect: the position of an event of the trace. -/
structure Instant (ι : Type u) where
  pos : Nat
  call : ι

/-- `pts` explains a run from `c₀` along `tr` to `c` by sequential calls. -/
structure IsLinearization [DecidableEq ι] (p : Proc Arg Loc Sh Res) (arg : ι → Arg)
    (spec : Arg → Sh → Res × Sh) (c₀ : Config ι Loc Sh Res) (tr : List (Event ι))
    (c : Config ι Loc Sh Res) (pts : List (Instant ι)) : Prop where
  /-- The instants are in the order of the trace. -/
  ordered : pts.Pairwise fun a b => a.pos < b.pos
  /-- No call takes effect twice. -/
  once : (pts.map Instant.call).Nodup
  /-- A call takes effect after it was made. -/
  after_call : ∀ x ∈ pts, ∃ k < x.pos, tr[k]? = some (.call x.call)
  /-- A call takes effect before it returns. -/
  before_ret : ∀ x ∈ pts, ∀ k, tr[k]? = some (.ret x.call) → x.pos < k
  /-- A call that returned took effect, with the outcome it returned. -/
  outcomes : ∀ i r, c.phase i = .returned r →
    (i, r) ∈ (seqRun spec arg (pts.map Instant.call) c₀.shared).1
  /-- At every moment the shared state is the one the calls that took effect leave. -/
  states : ∀ k ≤ tr.length, ∀ d, p.run arg c₀ (tr.take k) = some d →
    d.shared = (seqRun spec arg ((pts.filter (·.pos < k)).map Instant.call) c₀.shared).2

/-- Every section either leaves the shared state alone and goes on with the same call, or
    ends the call as the specification of the call does. `argOf` reads off a location
    which call it belongs to. -/
structure Atomic (p : Proc Arg Loc Sh Res) (spec : Arg → Sh → Res × Sh)
    (argOf : Loc → Arg) : Prop where
  start : ∀ a, argOf (p.start a) = a
  goesOn : ∀ l s l' s', p.exec l s = (.inl l', s') → argOf l' = argOf l ∧ s' = s
  ends : ∀ l s r s', p.exec l s = (.inr r, s') → spec (argOf l) s = (r, s')

/-! ## The section that ends a call is its instant -/

section Linearize

variable [DecidableEq ι] {p : Proc Arg Loc Sh Res} {arg : ι → Arg}
  {spec : Arg → Sh → Res × Sh} {argOf : Loc → Arg}

/-- Where a call stands whose phase is known: `rs` are the outcomes of the calls that took
    effect, at the instants `pts`. -/
private def Tracked (arg : ι → Arg) (argOf : Loc → Arg) (tr : List (Event ι))
    (pts : List (Instant ι)) (rs : List (ι × Res)) (i : ι) : Phase Loc Res → Prop
  | .idle => i ∉ pts.map Instant.call ∧ .ret i ∉ tr
  | .running l => argOf l = arg i ∧ i ∉ pts.map Instant.call ∧ .ret i ∉ tr ∧ .call i ∈ tr
  | .finished r => (i, r) ∈ rs ∧ .ret i ∉ tr
  | .returned r => (i, r) ∈ rs

omit [DecidableEq ι] in
/-- An event of another call changes nothing for a call. -/
private theorem Tracked.frame {tr : List (Event ι)} {pts : List (Instant ι)}
    {rs rs' : List (ι × Res)} {j : ι} {ph : Phase Loc Res} {e : Event ι}
    (new : List (Instant ι)) (h : Tracked arg argOf tr pts rs j ph) (he : e ≠ .ret j)
    (hnew : j ∉ new.map Instant.call) (hrs : rs ⊆ rs') :
    Tracked arg argOf (tr ++ [e]) (pts ++ new) rs' j ph := by
  have hret : .ret j ∉ tr → .ret j ∉ tr ++ [e] := by
    intro ht hmem
    obtain hmem | hmem := List.mem_append.mp hmem
    · exact ht hmem
    · exact he (List.mem_singleton.mp hmem).symm
  have hpts : j ∉ pts.map Instant.call → j ∉ (pts ++ new).map Instant.call := by
    intro ht hmem
    rw [List.map_append] at hmem
    obtain hmem | hmem := List.mem_append.mp hmem
    · exact ht hmem
    · exact hnew hmem
  -- In each phase the facts about `j` are carried over one by one
  cases ph with
  | idle => exact ⟨hpts h.1, hret h.2⟩
  | running l => exact ⟨h.1, hpts h.2.1, hret h.2.2.1, List.mem_append_left _ h.2.2.2⟩
  | finished r => exact ⟨hrs h.1, hret h.2⟩
  | returned r => exact hrs h

omit [DecidableEq ι] in
/-- A position of a trace extended by one event. -/
private theorem getElem?_concat_cases {tr : List (Event ι)} {e f : Event ι} {k : Nat}
    (h : (tr ++ [e])[k]? = some f) : tr[k]? = some f ∨ (k = tr.length ∧ f = e) := by
  by_cases hk : k < tr.length
  · rw [List.getElem?_append_left hk] at h
    exact .inl h
  · -- Past the old trace there is only the new event
    rw [List.getElem?_append_right (by omega)] at h
    obtain ⟨hk', he⟩ := List.getElem?_eq_some_iff.mp h
    simp only [List.length_singleton] at hk'
    exact .inr ⟨by omega, by simpa using he.symm⟩

/-- One more event, with the instants `new` (at most one) that are at it. -/
private theorem IsLinearization.concat {c₀ m d : Config ι Loc Sh Res} {tr : List (Event ι)}
    {e : Event ι} {pts : List (Instant ι)} (new : List (Instant ι))
    (hlin : IsLinearization p arg spec c₀ tr m pts)
    (hbound : ∀ x ∈ pts, x.pos < tr.length)
    (hm : p.run arg c₀ tr = some m) (hd : p.step arg m e = some d)
    (hsorted : new.Pairwise fun a b => a.pos < b.pos)
    (hnew : ∀ x ∈ new, x.pos = tr.length ∧ .call x.call ∈ tr ∧ .ret x.call ∉ tr ++ [e])
    (honce : ((pts ++ new).map Instant.call).Nodup)
    (hshared : d.shared = (seqRun spec arg ((pts ++ new).map Instant.call) c₀.shared).2)
    (hout : ∀ i r, d.phase i = .returned r →
      (i, r) ∈ (seqRun spec arg ((pts ++ new).map Instant.call) c₀.shared).1) :
    IsLinearization p arg spec c₀ (tr ++ [e]) d (pts ++ new) where
  ordered := by
    have hbefore : ∀ x ∈ pts, ∀ y ∈ new, x.pos < y.pos := by
      intro x hx y hy
      rw [(hnew y hy).1]
      exact hbound x hx
    exact List.pairwise_append.mpr ⟨hlin.ordered, hsorted, hbefore⟩
  once := honce
  after_call x hx := by
    obtain hx | hx := List.mem_append.mp hx
    · obtain ⟨k, hk, hcall⟩ := hlin.after_call x hx
      exact ⟨k, hk, by rwa [List.getElem?_append_left (List.getElem?_eq_some_iff.mp hcall).1]⟩
    · -- The call of a new instant was made in the old trace
      obtain ⟨hpos, hcall, _⟩ := hnew x hx
      obtain ⟨k, hk⟩ := List.mem_iff_getElem?.mp hcall
      have hlt := (List.getElem?_eq_some_iff.mp hk).1
      exact ⟨k, by omega, by rwa [List.getElem?_append_left hlt]⟩
  before_ret x hx k hret := by
    obtain hx | hx := List.mem_append.mp hx
    · obtain hret | ⟨rfl, _⟩ := getElem?_concat_cases hret
      · exact hlin.before_ret x hx k hret
      · exact hbound x hx
    · exact absurd (List.mem_of_getElem? hret) (hnew x hx).2.2
  outcomes := hout
  states k hk d' hd' := by
    rw [List.filter_append]
    by_cases hk' : k ≤ tr.length
    · -- The moment is before the new event: so are the instants
      have hnone : new.filter (·.pos < k) = [] := by
        apply List.filter_eq_nil_iff.mpr
        intro x hx
        simpa [(hnew x hx).1] using hk'
      rw [List.take_append_of_le_length hk'] at hd'
      rw [hnone, List.append_nil]
      exact hlin.states k hk' d' hd'
    · -- The moment is after the new event: every instant counts
      rw [List.length_append, List.length_singleton] at hk
      have hlen : k = tr.length + 1 := by omega
      have hall : pts.filter (·.pos < k) ++ new.filter (·.pos < k) = pts ++ new := by
        rw [← List.filter_append]
        apply List.filter_eq_self.mpr
        intro x hx
        have hlt : x.pos < k := by
          obtain hx | hx := List.mem_append.mp hx
          · have := hbound x hx
            omega
          · have := (hnew x hx).1
            omega
        simpa using hlt
      rw [hlen, List.take_of_length_le (by simp), run_concat.mpr ⟨m, hm, hd⟩] at hd'
      cases hd'
      rw [hall, hshared]

/-- Before the first event there is nothing to explain. -/
private theorem isLinearization_nil {c₀ : Config ι Loc Sh Res} (h0 : ∀ i, c₀.phase i = .idle) :
    IsLinearization p arg spec c₀ [] c₀ [] where
  ordered := .nil
  once := .nil
  after_call x hx := nomatch hx
  before_ret x hx := nomatch hx
  outcomes i r hi := by
    rw [h0] at hi
    exact nomatch hi
  states k _ d hd := by
    rw [List.take_nil, run_nil, Option.some.injEq] at hd
    rw [← hd]
    rfl

/-- At the end of a run the shared state is the one the calls that took effect leave. -/
private theorem IsLinearization.final {c₀ c : Config ι Loc Sh Res} {tr : List (Event ι)}
    {pts : List (Instant ι)} (hlin : IsLinearization p arg spec c₀ tr c pts)
    (hbound : ∀ x ∈ pts, x.pos < tr.length) (hc : p.run arg c₀ tr = some c) :
    c.shared = (seqRun spec arg (pts.map Instant.call) c₀.shared).2 := by
  have hall : pts.filter (·.pos < tr.length) = pts := by
    apply List.filter_eq_self.mpr
    intro x hx
    simpa using hbound x hx
  simpa only [hall] using hlin.states tr.length (Nat.le_refl _) c (by rwa [List.take_length])

/-- What the induction over a run proves: a linearization whose instants are positions of
    the trace, and where every call stands. -/
private def Explained (p : Proc Arg Loc Sh Res) (arg : ι → Arg) (spec : Arg → Sh → Res × Sh)
    (argOf : Loc → Arg) (c₀ : Config ι Loc Sh Res) (tr : List (Event ι))
    (c : Config ι Loc Sh Res) : Prop :=
  ∃ pts, IsLinearization p arg spec c₀ tr c pts ∧ (∀ x ∈ pts, x.pos < tr.length) ∧
    ∀ i, Tracked arg argOf tr pts (seqRun spec arg (pts.map Instant.call) c₀.shared).1 i
      (c.phase i)

/-- A step that ends no call keeps a run explained, with the same instants. -/
private theorem Explained.quiet {c₀ m d : Config ι Loc Sh Res} {tr : List (Event ι)}
    {e : Event ι} {i : ι} {ph : Phase Loc Res} (h : Explained p arg spec argOf c₀ tr m)
    (hm : p.run arg c₀ tr = some m) (hd : p.step arg m e = some d)
    (heq : d = ⟨m.shared, Function.update m.phase i ph⟩) (he : ∀ j, j ≠ i → e ≠ .ret j)
    (hi : ∀ pts rs, Tracked arg argOf tr pts rs i (m.phase i) →
      Tracked arg argOf (tr ++ [e]) pts rs i ph) :
    Explained p arg spec argOf c₀ (tr ++ [e]) d := by
  obtain ⟨pts, hlin, hbound, htrack⟩ := h
  have htrack' : ∀ j, Tracked arg argOf (tr ++ [e]) pts
      (seqRun spec arg (pts.map Instant.call) c₀.shared).1 j (d.phase j) := by
    intro j
    rw [heq]
    by_cases hj : j = i
    · subst hj
      simpa only [Function.update_self] using hi _ _ (htrack j)
    · simpa only [Function.update_of_ne hj, List.append_nil] using
        (htrack j).frame [] (he j hj) (by simp) (fun _ hx => hx)
  have hlin' := hlin.concat [] hbound hm hd .nil (by simp)
    (by simpa using hlin.once) (by simpa [heq] using hlin.final hbound hm)
    (fun j r hj => by simpa [hj, Tracked] using htrack' j)
  rw [List.append_nil] at hlin'
  have hbound' : ∀ x ∈ pts, x.pos < (tr ++ [e]).length := by
    intro x hx
    have := hbound x hx
    rw [List.length_append]
    omega
  exact ⟨pts, hlin', hbound', htrack'⟩

/-- A section that ends its call keeps a run explained: it is the instant of the call. -/
private theorem Explained.ends {c₀ m d : Config ι Loc Sh Res} {tr : List (Event ι)} {i : ι}
    {l : Loc} {r : Res} (h : Explained p arg spec argOf c₀ tr m)
    (hm : p.run arg c₀ tr = some m) (hd : p.step arg m (.exec i) = some d)
    (hl : m.phase i = .running l)
    (hspec : spec (argOf l) m.shared = (r, d.shared))
    (hphase : d.phase = Function.update m.phase i (.finished r)) :
    Explained p arg spec argOf c₀ (tr ++ [.exec i]) d := by
  obtain ⟨pts, hlin, hbound, htrack⟩ := h
  obtain ⟨harg, hfresh, hret, hcall⟩ : argOf l = arg i ∧ i ∉ pts.map Instant.call ∧
      .ret i ∉ tr ∧ .call i ∈ tr := by
    have ht := htrack i
    rwa [hl] at ht
  have hret' : (.ret i : Event ι) ∉ tr ++ [.exec i] := by simpa using hret
  -- The new instant is at the section that ends the call
  let x : Instant ι := ⟨tr.length, i⟩
  have hrun : seqRun spec arg ((pts ++ [x]).map Instant.call) c₀.shared =
      ((seqRun spec arg (pts.map Instant.call) c₀.shared).1 ++ [(i, r)], d.shared) := by
    rw [List.map_append, List.map_singleton, seqRun_concat, ← hlin.final hbound hm, ← harg, hspec]
  have htrack' : ∀ j, Tracked arg argOf (tr ++ [.exec i]) (pts ++ [x])
      (seqRun spec arg ((pts ++ [x]).map Instant.call) c₀.shared).1 j (d.phase j) := by
    intro j
    rw [hphase, hrun]
    by_cases hj : j = i
    · subst hj
      rw [Function.update_self]
      exact ⟨List.mem_append_right _ (List.mem_singleton.mpr rfl), hret'⟩
    · rw [Function.update_of_ne hj]
      exact (htrack j).frame [x] (by simp) (by simpa [x] using hj) (List.subset_append_left _ _)
  have hlin' : IsLinearization p arg spec c₀ (tr ++ [.exec i]) d (pts ++ [x]) := by
    have hnew : ∀ y ∈ [x], y.pos = tr.length ∧ .call y.call ∈ tr ∧
        .ret y.call ∉ tr ++ [.exec i] := by
      intro y hy
      rw [List.mem_singleton.mp hy]
      exact ⟨rfl, hcall, hret'⟩
    have honce : ((pts ++ [x]).map Instant.call).Nodup := by
      rw [List.map_append, List.nodup_append]
      refine ⟨hlin.once, by simp, fun a ha b hb hab => hfresh ?_⟩
      rwa [hab, show b = i by simpa using hb] at ha
    apply hlin.concat [x] hbound hm hd (List.pairwise_singleton _ _) hnew honce (by rw [hrun])
    intro j r' hj
    have ht := htrack' j
    rwa [hj] at ht
  have hbound' : ∀ y ∈ pts ++ [x], y.pos < (tr ++ [Event.exec i]).length := by
    intro y hy
    rw [List.length_append, List.length_singleton]
    obtain hy | hy := List.mem_append.mp hy
    · exact Nat.lt_succ_of_lt (hbound y hy)
    · rw [List.mem_singleton.mp hy]
      exact Nat.lt_succ_self _
  exact ⟨_, hlin', hbound', htrack'⟩

/-- Every run of a procedure of atomic sections has a linearization. -/
theorem linearizable (hatom : Atomic p spec argOf) {c₀ c : Config ι Loc Sh Res}
    (h0 : ∀ i, c₀.phase i = .idle) {tr : List (Event ι)} (h : p.run arg c₀ tr = some c) :
    ∃ pts, IsLinearization p arg spec c₀ tr c pts := by
  suffices hs : Explained p arg spec argOf c₀ tr c from hs.imp fun _ hpts => hpts.1
  have hstart : Explained p arg spec argOf c₀ [] c₀ := by
    refine ⟨[], isLinearization_nil h0, by simp, fun i => ?_⟩
    rw [h0]
    exact ⟨by simp, by simp⟩
  apply run_induction (P := Explained p arg spec argOf c₀) hstart _ h
  intro tr m e d hm hP hd
  obtain ⟨i, rfl, hi, rfl⟩ | ⟨i, l, rfl, hl, rfl⟩ | ⟨i, r, rfl, hr, rfl⟩ := step_cases hd
  · -- A call is made
    apply hP.quiet hm hd rfl (by simp)
    intro pts rs ht
    rw [hi] at ht
    exact ⟨hatom.start _, ht.1, by simpa using ht.2, by simp⟩
  · rcases hx : p.exec l m.shared with ⟨l' | r, s'⟩ <;> rw [hx] at hd
    · -- The call goes on
      obtain ⟨harg, rfl⟩ := hatom.goesOn l _ l' s' hx
      apply hP.quiet hm hd rfl (by simp)
      intro pts rs ht
      rw [hl] at ht
      exact ⟨harg.trans ht.1, ht.2.1, by simpa using ht.2.2.1,
        List.mem_append_left _ ht.2.2.2⟩
    · -- The call ends
      exact hP.ends hm hd hl (hatom.ends l _ r s' hx) rfl
  · -- A call returns what it ended with
    apply hP.quiet hm hd rfl (fun j hj he => hj (Event.ret.inj he).symm)
    intro pts rs ht
    rw [hr] at ht
    exact ht.1

end Linearize

end Interleaving
