import SapperBricks.ForStd.Sections

/-!
# Histories of concurrent calls

What the outcomes of concurrent calls have to do with calls that are made one at a time, for
procedures whose sections change more of the shared state than its users see. `abs` is what
they see of it, and a specification says which outcomes a call may have there and what it may
leave.

A call that has only one section that matters takes effect there, and the calls in the order
in which they got their outcomes are a history that the specification allows. A call that
repeats its effect does not; a register that is written so is regular.

## Key results

- `Refines.explains`: the history of a run
- `completed_prefix`: it grows during the run
- `Register.holds`, `Register.reads`: whose value a register holds, and a read returns
-/

namespace Interleaving

open scoped List

universe u

variable {ι Arg Loc Sh Res Abs : Type u}

/-! ## Calls and returns of a run -/

/-- An event after another one in a trace of one more event. -/
theorem pair_sublist_concat {α : Type u} {x y z : α} {l : List α} :
    [x, y] <+ l ++ [z] ↔ [x, y] <+ l ∨ (x ∈ l ∧ y = z) := by
  constructor
  · intro h
    obtain ⟨l₁, l₂, heq, h₁, h₂⟩ := List.sublist_append_iff.mp h
    match l₂, h₂ with
    | [], _ =>
      rw [List.append_nil] at heq
      exact .inl (heq ▸ h₁)
    | [w], h₂ =>
      -- The last one is the new one
      have heq' : [x] ++ [y] = l₁ ++ [w] := heq
      obtain ⟨rfl, hw⟩ := List.append_inj' heq' rfl
      cases hw
      exact .inr ⟨List.singleton_sublist.mp h₁, by simpa using h₂⟩
    | _ :: _ :: _, h₂ => exact absurd h₂.length_le (by simp)
  · rintro (h | ⟨hx, rfl⟩)
    · exact h.trans (List.sublist_append_left l [z])
    · exact (List.singleton_sublist.mpr hx).append (List.Sublist.refl [y])

/-- An event after another one that is not the last one of a trace. -/
theorem pair_sublist_of_ne {α : Type u} {x y z : α} {l : List α} (h : [x, y] <+ l ++ [z])
    (hyz : y ≠ z) : [x, y] <+ l :=
  (pair_sublist_concat.mp h).resolve_right fun hlast => hyz hlast.2

section Events

variable [DecidableEq ι] {p : Proc Arg Loc Sh Res} {arg : ι → Arg}
  {c₀ c : Config ι Loc Sh Res} {tr : List (Event ι)}

/-- A call was made once it is not idle any more. -/
theorem call_mem_iff (h0 : ∀ i, c₀.phase i = .idle) (h : p.run arg c₀ tr = some c) (i : ι) :
    .call i ∈ tr ↔ c.phase i ≠ .idle := by
  apply run_induction (P := fun tr c => .call i ∈ tr ↔ c.phase i ≠ .idle)
    (by simp [h0]) _ h
  intro tr m e d _ hm hd
  obtain ⟨j, rfl, hj, rfl⟩ | ⟨j, l, rfl, hl, rfl⟩ | ⟨j, r, rfl, hr, rfl⟩ := step_cases hd <;>
    by_cases hij : i = j
  · subst hij
    simp
  · simp [hm, hij]
  · subst hij
    simp only [List.mem_append, hm, hl, Function.update_self]
    cases (p.exec l m.shared).1 <;> simp [Phase.after]
  · simp [hm, Function.update_of_ne hij]
  · subst hij
    simp [hm, hr]
  · simp [hm, Function.update_of_ne hij]

omit [DecidableEq ι] in
/-- A return event is one of the calls that return. -/
theorem mem_returns {i : ι} : i ∈ returns tr ↔ .ret i ∈ tr := by
  unfold returns
  rw [List.mem_filterMap]
  constructor
  · rintro ⟨e, he, hi⟩
    cases e with
    | ret j => exact Option.some.inj hi ▸ he
    | _ => cases hi
  · exact fun h => ⟨.ret i, h, rfl⟩

/-- A call that returned has an outcome. -/
theorem outcome?_of_ret (h0 : ∀ i, c₀.phase i = .idle) (h : p.run arg c₀ tr = some c) {i : ι}
    (hret : .ret i ∈ tr) : ∃ r, c.phase i = .returned r :=
  ((returns_spec h0 h).1 i).mp (mem_returns.mpr hret)

/-- Such a call was made. -/
theorem call_mem_of_outcome? (h0 : ∀ i, c₀.phase i = .idle) (h : p.run arg c₀ tr = some c)
    {i : ι} {r : Res} (hr : (c.phase i).outcome? = some r) : .call i ∈ tr := by
  rw [call_mem_iff h0 h]
  intro hidle
  rw [hidle] at hr
  cases hr

/-- A section of a trace that led a call to a phase. -/
def LastSection (p : Proc Arg Loc Sh Res) (arg : ι → Arg) (c₀ : Config ι Loc Sh Res)
    (tr : List (Event ι)) (i : ι) (ph : Phase Loc Res) : Prop :=
  ∃ tr' m l, tr' ++ [.exec i] <+: tr ∧ p.run arg c₀ tr' = some m ∧ m.phase i = .running l ∧
    (∀ l', ph = .running l' → (p.exec l m.shared).1 = .inl l') ∧
    ∀ r, ph.outcome? = some r → (p.exec l m.shared).1 = .inr r

theorem LastSection.concat {i : ι} {ph : Phase Loc Res} (h : LastSection p arg c₀ tr i ph)
    (e : Event ι) : LastSection p arg c₀ (tr ++ [e]) i ph := by
  obtain ⟨tr', m, l, hpre, h⟩ := h
  exact ⟨tr', m, l, hpre.trans (List.prefix_append _ _), h⟩

/-- How a call got where it is: it was not made, it was just made, or by a section. -/
theorem phase_cases (h0 : ∀ i, c₀.phase i = .idle) (h : p.run arg c₀ tr = some c) (i : ι) :
    c.phase i = .idle ∨ c.phase i = .running (p.start (arg i)) ∨
      LastSection p arg c₀ tr i (c.phase i) := by
  apply run_induction (P := fun tr c => c.phase i = .idle ∨
    c.phase i = .running (p.start (arg i)) ∨ LastSection p arg c₀ tr i (c.phase i))
    (.inl (h0 i)) _ h
  intro tr m e d hm hI hd
  have hI' : m.phase i = .idle ∨ m.phase i = .running (p.start (arg i)) ∨
      LastSection p arg c₀ (tr ++ [e]) i (m.phase i) :=
    hI.imp id (.imp id fun h => h.concat e)
  obtain ⟨j, rfl, hj, rfl⟩ | ⟨j, l, rfl, hl, rfl⟩ | ⟨j, r, rfl, hr, rfl⟩ := step_cases hd <;>
    by_cases hij : i = j
  · subst hij
    exact .inr (.inl (Function.update_self ..))
  · simpa only [Function.update_of_ne hij] using hI'
  · subst hij
    -- This is the section
    refine .inr (.inr ⟨tr, m, l, List.prefix_rfl, hm, hl, ?_⟩)
    simp only [Function.update_self]
    cases (p.exec l m.shared).1 with
    | inl l' =>
      constructor <;> intro _ h <;> cases h
      rfl
    | inr r =>
      constructor <;> intro _ h <;> cases h
      rfl
  · simpa only [Function.update_of_ne hij] using hI'
  · subst hij
    -- The outcome stays the same
    rw [hr] at hI'
    simp only [Function.update_self]
    obtain hidle | hstart | ⟨tr', m', l, hpre, hm', hl, -, hx⟩ := hI'
    · cases hidle
    · cases hstart
    · refine .inr (.inr ⟨tr', m', l, hpre, hm', hl, ?_, hx⟩)
      intro _ h
      cases h
  · simpa only [Function.update_of_ne hij] using hI'

end Events

/-! ## Histories -/

/-- Calls made one at a time, each with an outcome that the specification allows, that lead
    from one state to another. -/
inductive Legal (spec : Arg → Abs → Res → Abs → Prop) (arg : ι → Arg) (a : Abs) :
    List (ι × Res) → Abs → Prop where
  | nil : Legal spec arg a [] a
  | concat {hist : List (ι × Res)} {b b' : Abs} {i : ι} {r : Res} :
    Legal spec arg a hist b → spec (arg i) b r b' → Legal spec arg a (hist ++ [(i, r)]) b'

/-- A history explains a run: it is one that the specification allows, it is made of the calls
    that have an outcome, each once, and calls that do not overlap are in their order. -/
structure Explains (arg : ι → Arg) (abs : Sh → Abs) (spec : Arg → Abs → Res → Abs → Prop)
    (c₀ : Config ι Loc Sh Res) (tr : List (Event ι)) (c : Config ι Loc Sh Res)
    (hist : List (ι × Res)) : Prop where
  legal : Legal spec arg (abs c₀.shared) hist (abs c.shared)
  outcomes : ∀ i r, (i, r) ∈ hist ↔ (c.phase i).outcome? = some r
  once : (hist.map Prod.fst).Nodup
  order : ∀ i j, [.ret i, .call j] <+ tr → j ∈ hist.map Prod.fst → [i, j] <+ hist.map Prod.fst

/-- A section that does not end its call changes nothing that is seen, and one that ends it
    does what the specification allows. `At` says at which locations a call can be. -/
structure Refines (p : Proc Arg Loc Sh Res) (Inv : Sh → Prop) (abs : Sh → Abs)
    (spec : Arg → Abs → Res → Abs → Prop) (At : Arg → Loc → Prop) : Prop where
  start : ∀ a, At a (p.start a)
  stays : ∀ a l s l', At a l → (p.exec l s).1 = .inl l' → At a l'
  inv : ∀ a l s, At a l → Inv s → Inv (p.exec l s).2
  goesOn : ∀ a l s l', At a l → Inv s → (p.exec l s).1 = .inl l' → abs (p.exec l s).2 = abs s
  ends : ∀ a l s r, At a l → Inv s → (p.exec l s).1 = .inr r →
    spec a (abs s) r (abs (p.exec l s).2)

section Histories

variable [DecidableEq ι] {p : Proc Arg Loc Sh Res} {arg : ι → Arg} {Inv : Sh → Prop}
  {abs : Sh → Abs} {spec : Arg → Abs → Res → Abs → Prop} {At : Arg → Loc → Prop}
  {c₀ c : Config ι Loc Sh Res} {tr : List (Event ι)}

/-- The history of a run: the calls in the order in which they got their outcomes. -/
abbrev Proc.history (p : Proc Arg Loc Sh Res) (arg : ι → Arg) (c₀ : Config ι Loc Sh Res)
    (tr : List (Event ι)) : List (ι × Res) :=
  p.completed (p.sections arg c₀ tr)

omit [DecidableEq ι] in
/-- The history after a section: the call is appended that it ends. -/
theorem completed_concat {xs : List (Section ι Loc Sh)} {i : ι} {l : Loc} {s : Sh} :
    p.completed (xs ++ [⟨i, l, s⟩]) =
      p.completed xs ++ ((p.exec l s).1.getRight?.map fun r => (i, r)).toList := by
  rw [completed_append]
  unfold Proc.completed Proc.outcome?
  cases hx : (p.exec l s).1 <;> simp [hx]

/-- The history of a run is allowed. -/
private theorem Refines.legal (h : Refines p Inv abs spec At) (hinv : Inv c₀.shared)
    (h0 : ∀ i, c₀.phase i = .idle) (hrun : p.run arg c₀ tr = some c) :
    Legal spec arg (abs c₀.shared) (p.history arg c₀ tr) (abs c.shared) := by
  suffices hs : Legal spec arg (abs c₀.shared) (p.history arg c₀ tr) (abs c.shared) ∧
      Inv c.shared from hs.1
  apply run_sections h.start h.stays h0
    (P := fun xs _ s => Legal spec arg (abs c₀.shared) (p.completed xs) (abs s) ∧ Inv s)
    ⟨.nil, hinv⟩ _ hrun
  intro xs o i l s ⟨hlegal, hs⟩ _ hl
  refine ⟨?_, h.inv (arg i) l s hl hs⟩
  rw [completed_concat]
  cases hx : (p.exec l s).1 with
  | inl l' =>
    rw [h.goesOn (arg i) l s l' hl hs hx]
    simpa using hlegal
  | inr r => exact .concat hlegal (h.ends (arg i) l s r hl hs hx)

/-- It has the calls that do not overlap in their order. -/
private theorem history_order (h0 : ∀ i, c₀.phase i = .idle) (hrun : p.run arg c₀ tr = some c)
    (i j : ι) (hij : [.ret i, .call j] <+ tr) (hj : j ∈ (p.history arg c₀ tr).map Prod.fst) :
    [i, j] <+ (p.history arg c₀ tr).map Prod.fst := by
  refine run_sections_induction (P := fun tr xs c => p.run arg c₀ tr = some c →
    [.ret i, .call j] <+ tr → j ∈ (p.completed xs).map Prod.fst →
      [i, j] <+ (p.completed xs).map Prod.fst) ?_ ?_ ?_ ?_ hrun hrun hij hj
  · intro _ h
    exact absurd h.length_le (by simp)
  · -- A call that is made now has no outcome
    intro tr m k hm ih hk hd hij hj
    obtain hij | ⟨-, hjk⟩ := pair_sublist_concat.mp hij
    · exact ih hm hij hj
    · cases hjk
      obtain ⟨⟨_, r⟩, hr, rfl⟩ := List.mem_map.mp hj
      rw [(completed_spec h0 hm).1, hk] at hr
      cases hr
  · intro tr m k l hm ih hl hd hij hj
    obtain hij | ⟨-, hjk⟩ := pair_sublist_concat.mp hij
    · rw [completed_concat, List.map_append] at hj ⊢
      obtain hj | hj := List.mem_append.mp hj
      · exact (ih hm hij hj).trans (List.sublist_append_left _ _)
      · -- The call gets its outcome now, and the other one had returned
        obtain ⟨r, hr⟩ := outcome?_of_ret h0 hm (hij.subset List.mem_cons_self)
        have hi : i ∈ (p.history arg c₀ tr).map Prod.fst :=
          List.mem_map.mpr ⟨(i, r), ((completed_spec h0 hm).1 i r).mpr (by rw [hr]; rfl), rfl⟩
        exact (List.singleton_sublist.mpr hi).append (List.singleton_sublist.mpr hj)
    · cases hjk
  · intro tr m k r hm ih hk hd hij hj
    obtain hij | ⟨-, hjk⟩ := pair_sublist_concat.mp hij
    · exact ih hm hij hj
    · cases hjk

/-- The history of a run explains it. -/
theorem Refines.explains (h : Refines p Inv abs spec At) (hinv : Inv c₀.shared)
    (h0 : ∀ i, c₀.phase i = .idle) (hrun : p.run arg c₀ tr = some c) :
    Explains arg abs spec c₀ tr c (p.history arg c₀ tr) where
  legal := h.legal hinv h0 hrun
  outcomes := (completed_spec h0 hrun).1
  once := (completed_spec h0 hrun).2
  order := history_order h0 hrun

/-- The history of a run goes on from those of the runs before. -/
theorem history_prefix {tr' : List (Event ι)} (hpre : tr' <+: tr)
    (hrun : p.run arg c₀ tr = some c) :
    p.history arg c₀ tr' <+: p.history arg c₀ tr := by
  obtain ⟨rest, rfl⟩ := hpre
  -- One more event is at most one more outcome
  induction rest using List.reverseRecOn generalizing c with
  | nil => exact (List.append_nil tr').symm ▸ List.prefix_rfl
  | append_singleton rest e ih =>
    rw [← List.append_assoc] at hrun ⊢
    obtain ⟨m, hm, hd⟩ := run_concat.mp hrun
    rw [Proc.history, Proc.history, sections_concat hm hd, completed_append]
    exact (ih hm).trans (List.prefix_append _ _)

end Histories

/-! ## Registers -/

/-- A register that calls write and read, where the sections of a call may write its value more
    than once. A call that succeeds has written its value last. -/
structure Register {β : Type u} (p : Proc Arg Loc Sh Res) (view : Sh → β)
    (writes : Arg → Option β) (Succeeds : Res → Prop) (Inv : Sh → Prop)
    (At : Arg → Loc → Prop) : Prop where
  start : ∀ a, At a (p.start a)
  stays : ∀ a l s l', At a l → (p.exec l s).1 = .inl l' → At a l'
  inv : ∀ a l s, At a l → Inv s → Inv (p.exec l s).2
  changes : ∀ a l s, At a l → Inv s →
    view (p.exec l s).2 = view s ∨ writes a = some (view (p.exec l s).2)
  written : ∀ a l s r v, At a l → Inv s → (p.exec l s).1 = .inr r → Succeeds r →
    writes a = some v → view (p.exec l s).2 = v

section Registers

variable {β : Type u} {view : Sh → β} {writes : Arg → Option β} {Succeeds : Res → Prop}

/-- A call has written its value and succeeded. -/
def Wrote (arg : ι → Arg) (writes : Arg → Option β) (Succeeds : Res → Prop)
    (c : Config ι Loc Sh Res) (j : ι) : Prop :=
  ∃ r, (c.phase j).outcome? = some r ∧ Succeeds r ∧ writes (arg j) ≠ none

/-- A value is the one the register had before the first call, where none of some calls has
    written, or that of a call made in time that none of them was made after. -/
def IsRecent (arg : ι → Arg) (writes : Arg → Option β) (tr : List (Event ι)) (v₀ v : β)
    (inTime wrote : ι → Prop) : Prop :=
  (v = v₀ ∧ ∀ j, ¬wrote j) ∨
    ∃ i, writes (arg i) = some v ∧ inTime i ∧ ∀ j, wrote j → ¬[.ret i, .call j] <+ tr

/-- It is so with fewer calls that have written, when no call is made that matters. -/
theorem IsRecent.mono {arg : ι → Arg} {writes : Arg → Option β} {tr tr' : List (Event ι)}
    {v₀ v : β} {inTime inTime' wrote wrote' : ι → Prop}
    (h : IsRecent arg writes tr v₀ v inTime wrote) (hin : ∀ i, inTime i → inTime' i)
    (hwrote : ∀ j, wrote' j → wrote j)
    (htr : ∀ i j, wrote' j → [.ret i, .call j] <+ tr' → [.ret i, .call j] <+ tr) :
    IsRecent arg writes tr' v₀ v inTime' wrote' := by
  obtain ⟨hv, hnone⟩ | ⟨i, hi, hcall, hlast⟩ := h
  · exact .inl ⟨hv, fun j hj => hnone j (hwrote j hj)⟩
  · exact .inr ⟨i, hi, hin i hcall, fun j hj hij => hlast j (hwrote j hj) (htr i j hj hij)⟩

variable [DecidableEq ι] {p : Proc Arg Loc Sh Res} {arg : ι → Arg} {Inv : Sh → Prop}
  {At : Arg → Loc → Prop}
  {c₀ c : Config ι Loc Sh Res} {tr : List (Event ι)}

/-- A call that is in progress has not returned. -/
theorem not_ret_of_running (h0 : ∀ i, c₀.phase i = .idle) (h : p.run arg c₀ tr = some c) {i : ι}
    {l : Loc} (hl : c.phase i = .running l) : .ret i ∉ tr := by
  intro hret
  obtain ⟨r, hr⟩ := outcome?_of_ret h0 h hret
  rw [hl] at hr
  cases hr

omit [DecidableEq ι] in
/-- A call that was not made before the last event of a run has not written before. -/
private theorem Wrote.call_ne {j k : ι} (hj : Wrote arg writes Succeeds c j)
    (hk : c.phase k = .idle) : Event.call j ≠ .call k := by
  intro hjk
  cases hjk
  obtain ⟨r, hr, -⟩ := hj
  rw [hk] at hr
  cases hr

/-- Which calls have written is not changed by an event that gives no outcome. -/
private theorem wrote_update {i : ι} {ph : Phase Loc Res} {sh : Sh}
    (h : ph.outcome? = (c.phase i).outcome?) (j : ι) :
    Wrote arg writes Succeeds ⟨sh, Function.update c.phase i ph⟩ j ↔
      Wrote arg writes Succeeds c j := by
  unfold Wrote
  rw [show (Function.update c.phase i ph j).outcome? = (c.phase j).outcome? from
    outcome?_update h j]

/-- A section of one call does not change which of the others have written. -/
private theorem wrote_other {i j : ι} (hij : j ≠ i) {ph : Phase Loc Res} {sh : Sh} :
    Wrote arg writes Succeeds ⟨sh, Function.update c.phase i ph⟩ j ↔
      Wrote arg writes Succeeds c j := by
  unfold Wrote
  simp only [Function.update_of_ne hij]

/-- The locations of the calls in progress are their own, and the state is one of those. -/
private theorem Register.at_inv (h : Register p view writes Succeeds Inv At)
    (h0 : ∀ i, c₀.phase i = .idle) (hinv : Inv c₀.shared) (hrun : p.run arg c₀ tr = some c) :
    Inv c.shared ∧ ∀ i l, c.phase i = .running l → At (arg i) l :=
  ⟨run_sections h.start h.stays h0 (P := fun _ _ s => Inv s) hinv
    (fun _ _ i l s hs _ hl => h.inv (arg i) l s hl hs) hrun, run_running h.start h.stays h0 hrun⟩

/-- A section that leaves another value than that of its call leaves the value that was there,
    and its call has not written. -/
private theorem Register.exec_other (h : Register p view writes Succeeds Inv At)
    {m : Config ι Loc Sh Res} {k : ι} {l : Loc} (hat : At (arg k) l) (hinv : Inv m.shared)
    (hnew : writes (arg k) ≠ some (view (p.exec l m.shared).2)) :
    view (p.exec l m.shared).2 = view m.shared ∧
      ∀ j, Wrote arg writes Succeeds ⟨(p.exec l m.shared).2,
        Function.update m.phase k (.after (p.exec l m.shared).1)⟩ j →
        Wrote arg writes Succeeds m j := by
  constructor
  · exact (h.changes (arg k) l m.shared hat hinv).resolve_right hnew
  · intro j hj
    by_cases hjk : j = k
    · subst hjk
      obtain ⟨r, hr, hsucceeds, hwrites⟩ := hj
      dsimp only at hr
      rw [Function.update_self, outcome?_after] at hr
      obtain ⟨v, hv⟩ := Option.ne_none_iff_exists'.mp hwrites
      have hlast := h.written (arg j) l m.shared r v hat hinv (Sum.getRight?_eq_some_iff.mp hr)
        hsucceeds hv
      exact absurd (hv.trans (by rw [hlast])) hnew
    · exact (wrote_other hjk).mp hj

/-- The value of a register is that of a call that no call was made after which has written. -/
theorem Register.holds (h : Register p view writes Succeeds Inv At)
    (h0 : ∀ i, c₀.phase i = .idle) (hinv : Inv c₀.shared) (hrun : p.run arg c₀ tr = some c) :
    IsRecent arg writes tr (view c₀.shared) (view c.shared) (fun i => .call i ∈ tr)
      (Wrote arg writes Succeeds c) := by
  refine run_sections_induction (P := fun tr _ c => p.run arg c₀ tr = some c →
    IsRecent arg writes tr (view c₀.shared) (view c.shared) (fun i => .call i ∈ tr)
      (Wrote arg writes Succeeds c)) ?_ ?_ ?_ ?_ hrun hrun
  · intro _
    refine .inl ⟨rfl, ?_⟩
    rintro j ⟨r, hr, -⟩
    rw [h0] at hr
    cases hr
  · -- A call that is made now has not written
    intro tr m k hm ih hk _
    have hph : (Phase.running (p.start (arg k))).outcome? = (m.phase k).outcome? := by
      rw [hk]
      rfl
    exact (ih hm).mono (fun i hi => List.mem_append_left _ hi)
      (fun j hj => (wrote_update hph j).mp hj)
      fun i j hj hij => pair_sublist_of_ne hij (((wrote_update hph j).mp hj).call_ne hk)
  · intro tr m k l hm ih hl _
    have hold : ∀ i j, [.ret i, .call j] <+ tr ++ [.exec k] → [.ret i, .call j] <+ tr :=
      fun i j hij => pair_sublist_of_ne hij nofun
    by_cases hnew : writes (arg k) = some (view (p.exec l m.shared).2)
    · -- The value is that of this call now, which has not returned
      have hcall : .call k ∈ tr := (call_mem_iff h0 hm k).mpr (by rw [hl]; nofun)
      refine .inr ⟨k, hnew, List.mem_append_left _ hcall, fun j _ hkj => ?_⟩
      exact not_ret_of_running h0 hm hl ((hold k j hkj).subset List.mem_cons_self)
    · obtain ⟨hs, hat⟩ := h.at_inv h0 hinv hm
      obtain ⟨hview, hwrote⟩ := h.exec_other (hat k l hl) hs hnew
      dsimp only
      rw [hview]
      exact (ih hm).mono (fun i hi => List.mem_append_left _ hi) hwrote
        fun i j _ hij => hold i j hij
  · intro tr m k r hm ih hk _
    have hph : (Phase.returned r : Phase Loc Res).outcome? = (m.phase k).outcome? := by
      rw [hk]
      rfl
    exact (ih hm).mono (fun i hi => List.mem_append_left _ hi)
      (fun j hj => (wrote_update hph j).mp hj) fun i j _ hij => pair_sublist_of_ne hij nofun

/-- What a call with an outcome has read: a value that is as recent as the calls that returned
    before it was made, and not of a call that was made after it returned. -/
def ReadsRecent (p : Proc Arg Loc Sh Res) (arg : ι → Arg) (view : Sh → β)
    (writes : Arg → Option β) (Succeeds : Res → Prop) (Inv : Sh → Prop) (At : Arg → Loc → Prop)
    (v₀ : β) (tr : List (Event ι)) (c : Config ι Loc Sh Res) (k : ι) (r : Res) : Prop :=
  ∃ l s, At (arg k) l ∧ Inv s ∧ (p.exec l s).1 = .inr r ∧
    IsRecent arg writes tr v₀ (view s)
      (fun i => .call i ∈ tr ∧ ¬[.ret k, .call i] <+ tr)
      (fun j => Wrote arg writes Succeeds c j ∧ [.ret j, .call k] <+ tr)

/-- What a call has read stays as recent. -/
private theorem ReadsRecent.step (h0 : ∀ i, c₀.phase i = .idle) {m d : Config ι Loc Sh Res}
    {e : Event ι} {v₀ : β} {k : ι} {r : Res}
    (h : ReadsRecent p arg view writes Succeeds Inv At v₀ tr m k r)
    (hm : p.run arg c₀ tr = some m) (hr : (m.phase k).outcome? = some r)
    (hidle : ∀ i, e = .call i → m.phase i = .idle)
    (hwrote : ∀ j, .ret j ∈ tr → Wrote arg writes Succeeds d j → Wrote arg writes Succeeds m j) :
    ReadsRecent p arg view writes Succeeds Inv At v₀ (tr ++ [e]) d k r := by
  -- The calls that were made or have written are not made now
  have hmade : ∀ i, .call i ∈ tr → .call i ≠ e := fun i hi he =>
    (call_mem_iff h0 hm i).mp hi (hidle i he.symm)
  have hcall := call_mem_of_outcome? h0 hm hr
  obtain ⟨l, s, hat, hs, hx, hrecent⟩ := h
  have hbefore : ∀ j, [.ret j, .call k] <+ tr ++ [e] → [.ret j, .call k] <+ tr :=
    fun j hj => pair_sublist_of_ne hj (hmade k hcall)
  have hold : ∀ j, Wrote arg writes Succeeds d j ∧ [.ret j, .call k] <+ tr ++ [e] →
      Wrote arg writes Succeeds m j ∧ [.ret j, .call k] <+ tr := fun j hj =>
    ⟨hwrote j ((hbefore j hj.2).subset List.mem_cons_self) hj.1, hbefore j hj.2⟩
  refine ⟨l, s, hat, hs, hx, hrecent.mono ?_ hold ?_⟩
  · rintro i ⟨hi, hik⟩
    exact ⟨List.mem_append_left _ hi, fun h => hik (pair_sublist_of_ne h (hmade i hi))⟩
  · intro i j hj hij
    obtain ⟨r, hr, -⟩ := (hold j hj).1
    exact pair_sublist_of_ne hij (hmade j (call_mem_of_outcome? h0 hm hr))

/-- Every call that has an outcome has read such a value. -/
theorem Register.reads (h : Register p view writes Succeeds Inv At)
    (h0 : ∀ i, c₀.phase i = .idle) (hinv : Inv c₀.shared) (hrun : p.run arg c₀ tr = some c)
    (k : ι) (r : Res) (hr : (c.phase k).outcome? = some r) :
    ReadsRecent p arg view writes Succeeds Inv At (view c₀.shared) tr c k r := by
  refine run_sections_induction (P := fun tr _ c => p.run arg c₀ tr = some c →
    (c.phase k).outcome? = some r →
    ReadsRecent p arg view writes Succeeds Inv At (view c₀.shared) tr c k r) ?_ ?_ ?_ ?_
    hrun hrun hr
  · intro _ hr
    rw [h0] at hr
    cases hr
  · intro tr m i hm ih hi _ hr
    have hph : (Phase.running (p.start (arg i))).outcome? = (m.phase i).outcome? := by
      rw [hi]
      rfl
    have hr' : (m.phase k).outcome? = some r := (outcome?_update hph k).symm.trans hr
    refine (ih hm hr').step h0 hm hr' ?_ fun j _ => (wrote_update hph j).mp
    intro j hj
    cases hj
    exact hi
  · intro tr m i l hm ih hl _ hr
    dsimp only at hr
    by_cases hki : k = i
    · -- The call has read what is there now
      subst hki
      have hret := not_ret_of_running h0 hm hl
      have hbefore : ∀ j, [.ret j, .call k] <+ tr ++ [.exec k] → .ret j ∈ tr ∧ j ≠ k := by
        intro j hj
        have hj' := (pair_sublist_of_ne hj nofun).subset List.mem_cons_self
        exact ⟨hj', fun hjk => hret (hjk ▸ hj')⟩
      rw [Function.update_self, outcome?_after] at hr
      obtain ⟨hs, hat⟩ := h.at_inv h0 hinv hm
      refine ⟨l, m.shared, hat k l hl, hs, Sum.getRight?_eq_some_iff.mp hr,
        (h.holds h0 hinv hm).mono ?_ ?_ ?_⟩
      · intro j hj
        refine ⟨List.mem_append_left _ hj, fun h => hret ?_⟩
        exact (pair_sublist_of_ne h nofun).subset List.mem_cons_self
      · exact fun j hj => (wrote_other (hbefore j hj.2).2).mp hj.1
      · exact fun i j _ hij => pair_sublist_of_ne hij nofun
    · rw [Function.update_of_ne hki] at hr
      refine (ih hm hr).step h0 hm hr nofun fun j hj => (wrote_other ?_).mp
      exact fun hji => not_ret_of_running h0 hm hl (hji ▸ hj)
  · intro tr m i r' hm ih hi _ hr
    have hph : (Phase.returned r' : Phase Loc Res).outcome? = (m.phase i).outcome? := by
      rw [hi]
      rfl
    have hr' : (m.phase k).outcome? = some r := (outcome?_update hph k).symm.trans hr
    exact (ih hm hr').step h0 hm hr' nofun fun j _ => (wrote_update hph j).mp

end Registers

end Interleaving
