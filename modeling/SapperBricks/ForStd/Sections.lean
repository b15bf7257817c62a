import SapperBricks.ForStd.Interleaving

/-!
# The atomic sections a run executes

A run is determined by the order in which it executes the sections of its calls. This
file lists them, each with the shared state it started from, together with the calls that
got their outcome and the calls that returned.

## Key results

- `run_sections_induction`: induction over a run together with the sections it executed
- `run_sections`: what holds initially and is kept by every section holds of the sections a
  run executed, the outcomes it gave and the shared state it ended in
- `completed_spec`, `outcome?_eq_some`: a call has an outcome exactly when one of its
  sections ended it
- `completed_perm_returns`: once no call is between its outcome and its return, the calls
  that completed are the calls that returned
-/

namespace Interleaving

universe u

/-- An executed section: whose it is, at which location, and the shared state before it. -/
structure Section (ι Loc Sh : Type u) where
  call : ι
  loc : Loc
  before : Sh

/-- The call an event hands back, if it is a return. -/
def Event.return? {ι : Type u} : Event ι → Option ι
  | .ret i => some i
  | _ => none

/-- The calls that return in a trace, in order. -/
def returns {ι : Type u} (tr : List (Event ι)) : List ι :=
  tr.filterMap Event.return?

@[simp] theorem returns_concat_call {ι : Type u} (tr : List (Event ι)) (i : ι) :
    returns (tr ++ [.call i]) = returns tr := by
  simp [returns, Event.return?]

@[simp] theorem returns_concat_exec {ι : Type u} (tr : List (Event ι)) (i : ι) :
    returns (tr ++ [.exec i]) = returns tr := by
  simp [returns, Event.return?]

@[simp] theorem returns_concat_ret {ι : Type u} (tr : List (Event ι)) (i : ι) :
    returns (tr ++ [.ret i]) = returns tr ++ [i] := by
  simp [returns, Event.return?]

section Lists

variable {ι Arg Loc Sh Res : Type u} [DecidableEq ι]
variable (p : Proc Arg Loc Sh Res) (arg : ι → Arg)

/-- The section an event executes, if it executes one. -/
def Config.section? (c : Config ι Loc Sh Res) : Event ι → Option (Section ι Loc Sh)
  | .exec i =>
    match c.phase i with
    | .running l => some ⟨i, l, c.shared⟩
    | _ => none
  | _ => none

/-- The sections a trace executes, in order. -/
def Proc.sections (c : Config ι Loc Sh Res) : List (Event ι) → List (Section ι Loc Sh)
  | [] => []
  | e :: tr =>
    match p.step arg c e with
    | none => []
    | some d => (c.section? e).toList ++ Proc.sections d tr

/-- The outcome a section ends its call with, if it ends it. -/
def Proc.outcome? (x : Section ι Loc Sh) : Option Res :=
  (p.exec x.loc x.before).1.getRight?

/-- The calls that got their outcome, in the order in which they did. -/
def Proc.completed (xs : List (Section ι Loc Sh)) : List (ι × Res) :=
  xs.filterMap fun x => (p.outcome? x).map fun r => (x.call, r)

/-- How much a counter in the shared state grows in the sections of the selected calls. -/
def Proc.growth (m : Sh → Nat) (sel : ι → Bool) (xs : List (Section ι Loc Sh)) : Nat :=
  ((xs.filter fun x => sel x.call).map fun x => m (p.exec x.loc x.before).2 - m x.before).sum

variable {p arg}

/-- The sections of a run of one more event. -/
theorem sections_concat {c m d : Config ι Loc Sh Res} {tr : List (Event ι)} {e : Event ι}
    (hm : p.run arg c tr = some m) (hd : p.step arg m e = some d) :
    p.sections arg c (tr ++ [e]) = p.sections arg c tr ++ (m.section? e).toList := by
  induction tr generalizing c with
  | nil =>
    simp only [run_nil, Option.some.injEq] at hm
    subst hm
    simp [Proc.sections, hd]
  | cons a tr ih =>
    -- The first event leads to `c'`, from where the rest is a run
    rw [run_cons, Option.bind_eq_some_iff] at hm
    obtain ⟨c', hc', hm⟩ := hm
    simp only [List.cons_append, Proc.sections, hc', List.append_assoc, ih hm]

/-- The outcome of a call after a section. -/
theorem outcome?_after (x : Loc ⊕ Res) : (Phase.after x).outcome? = x.getRight? := by
  cases x <;> rfl

/-- Induction over a run with the sections it executed: what holds initially and is kept
    when a call is made, executes a section or returns holds after the run. -/
theorem run_sections_induction {c₀ c : Config ι Loc Sh Res}
    {P : List (Event ι) → List (Section ι Loc Sh) → Config ι Loc Sh Res → Prop} (h0 : P [] [] c₀)
    (hcall : ∀ tr m i, p.run arg c₀ tr = some m → P tr (p.sections arg c₀ tr) m →
      m.phase i = .idle → P (tr ++ [.call i]) (p.sections arg c₀ tr)
        ⟨m.shared, Function.update m.phase i (.running (p.start (arg i)))⟩)
    (hexec : ∀ tr m i l, p.run arg c₀ tr = some m → P tr (p.sections arg c₀ tr) m →
      m.phase i = .running l →
      P (tr ++ [.exec i]) (p.sections arg c₀ tr ++ [⟨i, l, m.shared⟩])
        ⟨(p.exec l m.shared).2, Function.update m.phase i (.after (p.exec l m.shared).1)⟩)
    (hret : ∀ tr m i r, p.run arg c₀ tr = some m → P tr (p.sections arg c₀ tr) m →
      m.phase i = .finished r → P (tr ++ [.ret i]) (p.sections arg c₀ tr)
        ⟨m.shared, Function.update m.phase i (.returned r)⟩)
    {tr : List (Event ι)} (h : p.run arg c₀ tr = some c) : P tr (p.sections arg c₀ tr) c := by
  apply run_induction (P := fun tr c => P tr (p.sections arg c₀ tr) c) h0 _ h
  intro tr m e d hm hI hd
  -- One more event is at most one more section
  rw [sections_concat hm hd]
  obtain ⟨i, rfl, hi, rfl⟩ | ⟨i, l, rfl, hl, rfl⟩ | ⟨i, r, rfl, hr, rfl⟩ := step_cases hd
  · simpa only [Config.section?, Option.toList_none, List.append_nil] using hcall tr m i hm hI hi
  · simpa only [Config.section?, hl, Option.toList_some] using hexec tr m i l hm hI hl
  · simpa only [Config.section?, Option.toList_none, List.append_nil] using hret tr m i r hm hI hr

/-- Induction over the sections of a run, without its calls and returns. `J` relates the
    argument of a call to its locations. What holds before the first section, and is kept
    by every section of a call that has no outcome yet, holds of the sections a run
    executed, the outcomes the calls have, and the shared state it ended in. -/
theorem run_sections {J : Arg → Loc → Prop} (hstart : ∀ a, J a (p.start a))
    (hgoesOn : ∀ a l s l', J a l → (p.exec l s).1 = .inl l' → J a l')
    {c₀ c : Config ι Loc Sh Res} (h0 : ∀ i, c₀.phase i = .idle)
    {P : List (Section ι Loc Sh) → (ι → Option Res) → Sh → Prop}
    (hP : P [] (fun _ => none) c₀.shared)
    (hexec : ∀ xs o i l s, P xs o s → o i = none → J (arg i) l →
      P (xs ++ [⟨i, l, s⟩]) (Function.update o i (p.exec l s).1.getRight?) (p.exec l s).2)
    {tr : List (Event ι)} (h : p.run arg c₀ tr = some c) :
    P (p.sections arg c₀ tr) (fun i => (c.phase i).outcome?) c.shared := by
  apply run_sections_induction
    (P := fun _ xs c => P xs (fun i => (c.phase i).outcome?) c.shared) _ _ _ _ h
  · simpa only [h0, Phase.outcome?] using hP
  · -- A call is made: nothing has an outcome that had none
    intro tr m i _ hI hi
    have hsame : (fun j => (Function.update m.phase i (.running (p.start (arg i))) j).outcome?) =
        fun j => (m.phase j).outcome? := by
      funext j
      exact outcome?_update (by rw [hi]; rfl) j
    simpa only [hsame] using hI
  · -- A section is executed: its call may have an outcome now
    intro tr m i l hm hI hl
    have hout : (fun j => (Function.update m.phase i (.after (p.exec l m.shared).1) j).outcome?) =
        Function.update (fun j => (m.phase j).outcome?) i (p.exec l m.shared).1.getRight? := by
      funext j
      by_cases hj : j = i
      · subst hj; rw [Function.update_self, Function.update_self, outcome?_after]
      · rw [Function.update_of_ne hj, Function.update_of_ne hj]
    have hnone : (m.phase i).outcome? = none := by simp only [hl, Phase.outcome?]
    simpa only [hout] using
      hexec _ _ i l _ hI hnone (run_running hstart hgoesOn h0 hm i l hl)
  · -- A call returns: with the outcome it had
    intro tr m i r _ hI hr
    have hsame : (fun j => (Function.update m.phase i (.returned r) j).outcome?) =
        fun j => (m.phase j).outcome? := by
      funext j
      exact outcome?_update (by rw [hr]; rfl) j
    simpa only [hsame] using hI

/-! ## Counters -/

omit [DecidableEq ι] in
/-- One more section of a selected call adds what the counter grows in it. -/
theorem growth_concat (m : Sh → Nat) (sel : ι → Bool) (xs : List (Section ι Loc Sh)) (i : ι)
    (l : Loc) (s : Sh) :
    p.growth m sel (xs ++ [⟨i, l, s⟩]) =
      p.growth m sel xs + if sel i then m (p.exec l s).2 - m s else 0 := by
  cases hi : sel i <;> simp [Proc.growth, hi]

/-! ## Calls that completed and calls that returned -/

omit [DecidableEq ι] in
@[simp] theorem completed_append (xs ys : List (Section ι Loc Sh)) :
    p.completed (xs ++ ys) = p.completed xs ++ p.completed ys :=
  List.filterMap_append ..

/-- A call has completed, with an outcome, exactly when its phase says so; no call
    completes twice. -/
theorem completed_spec {c₀ c : Config ι Loc Sh Res} (h0 : ∀ i, c₀.phase i = .idle)
    {tr : List (Event ι)} (h : p.run arg c₀ tr = some c) :
    (∀ i r, (i, r) ∈ p.completed (p.sections arg c₀ tr) ↔ (c.phase i).outcome? = some r) ∧
    ((p.completed (p.sections arg c₀ tr)).map Prod.fst).Nodup := by
  apply run_sections (J := fun _ _ => True) (fun _ => trivial) (fun _ _ _ _ _ _ => trivial) h0
    (P := fun xs o _ => (∀ i r, (i, r) ∈ p.completed xs ↔ o i = some r) ∧
      ((p.completed xs).map Prod.fst).Nodup) (by simp [Proc.completed]) _ h
  intro xs o i l s ⟨hmem, hnodup⟩ hnone _
  rw [completed_append]
  cases hx : (p.exec l s).1 with
  | inl l' =>
    -- The call goes on: nothing completes
    have hnil : p.completed [(⟨i, l, s⟩ : Section ι Loc Sh)] = [] := by
      simp [Proc.completed, Proc.outcome?, hx]
    rw [hnil, List.append_nil, Sum.getRight?_inl, ← hnone, Function.update_eq_self]
    exact ⟨hmem, hnodup⟩
  | inr r =>
    -- The call gets its outcome, and has completed with no other one before
    have hone : p.completed [(⟨i, l, s⟩ : Section ι Loc Sh)] = [(i, r)] := by
      simp [Proc.completed, Proc.outcome?, hx]
    have hfresh : ∀ r', (i, r') ∉ p.completed xs := by
      intro r' hr'
      rw [hmem, hnone] at hr'
      exact nomatch hr'
    rw [hone, Sum.getRight?_inr]
    constructor
    · intro j r'
      rw [List.mem_append, hmem]
      by_cases hj : j = i
      · subst hj
        simp [hnone, eq_comm]
      · simp [hj]
    · rw [List.map_append, List.nodup_append]
      have hdisjoint : ∀ a ∈ (p.completed xs).map Prod.fst, ∀ b ∈ [i], a ≠ b := by
        intro a ha b hb
        obtain ⟨⟨_, r'⟩, hr', rfl⟩ := List.mem_map.mp ha
        rw [List.mem_singleton.mp hb]
        exact fun hai => hfresh r' (hai ▸ hr')
      exact ⟨hnodup, by simp, hdisjoint⟩

/-- The outcome of a call is that of the section that ended it. -/
theorem outcome?_eq_some {c₀ c : Config ι Loc Sh Res} (h0 : ∀ i, c₀.phase i = .idle)
    {tr : List (Event ι)} (h : p.run arg c₀ tr = some c) {i : ι} {r : Res} :
    (c.phase i).outcome? = some r ↔
      ∃ x ∈ p.sections arg c₀ tr, x.call = i ∧ (p.exec x.loc x.before).1 = .inr r := by
  rw [← (completed_spec h0 h).1, Proc.completed, List.mem_filterMap]
  refine exists_congr fun x => and_congr_right fun _ => ?_
  unfold Proc.outcome?
  cases (p.exec x.loc x.before).1 <;> simp

/-- The calls with a return event are those whose phase says so; no call returns twice. -/
theorem returns_spec {c₀ c : Config ι Loc Sh Res} (h0 : ∀ i, c₀.phase i = .idle)
    {tr : List (Event ι)} (h : p.run arg c₀ tr = some c) :
    (∀ i, i ∈ returns tr ↔ ∃ r, c.phase i = .returned r) ∧ (returns tr).Nodup := by
  have hstart : (∀ i, i ∈ returns ([] : List (Event ι)) ↔ ∃ r, c₀.phase i = .returned r) ∧
      (returns ([] : List (Event ι))).Nodup := by
    simp [returns, h0]
  apply run_induction (P := fun tr c =>
    (∀ i, i ∈ returns tr ↔ ∃ r, c.phase i = .returned r) ∧ (returns tr).Nodup) hstart _ h
  intro tr m e d hm ⟨hmem, hnodup⟩ hd
  obtain ⟨i, rfl, hi, rfl⟩ | ⟨i, l, rfl, hl, rfl⟩ | ⟨i, r, rfl, hr, rfl⟩ := step_cases hd
  · -- A call that was not made before has not returned
    rw [returns_concat_call]
    apply And.intro _ hnodup
    intro j
    rw [hmem]
    by_cases hj : j = i
    · subst hj
      simp [hi]
    · simp [Function.update_of_ne hj]
  · -- Neither has one that executes a section
    rw [returns_concat_exec]
    apply And.intro _ hnodup
    intro j
    rw [hmem]
    by_cases hj : j = i
    · subst hj
      cases (p.exec l m.shared).1 <;> simp [hl, Phase.after]
    · simp [Function.update_of_ne hj]
  · -- The call returns now, and had not before
    rw [returns_concat_ret]
    have hfresh : i ∉ returns tr := by
      rw [hmem, hr]
      simp
    constructor
    · intro j
      rw [List.mem_append, hmem]
      by_cases hj : j = i
      · subst hj
        simp
      · simp [hj]
    · rw [List.nodup_append]
      have hdisjoint : ∀ a ∈ returns tr, ∀ b ∈ [i], a ≠ b := by
        intro a ha b hb
        rw [List.mem_singleton.mp hb]
        exact fun hab => hfresh (hab ▸ ha)
      exact ⟨hnodup, by simp, hdisjoint⟩

/-- Once no call is between its outcome and its return, the calls that completed are the
    calls that returned. -/
theorem completed_perm_returns {c₀ c : Config ι Loc Sh Res} (h0 : ∀ i, c₀.phase i = .idle)
    {tr : List (Event ι)} (h : p.run arg c₀ tr = some c) (hret : ∀ i r, c.phase i ≠ .finished r) :
    ((p.completed (p.sections arg c₀ tr)).map Prod.fst).Perm (returns tr) := by
  obtain ⟨hc, hcn⟩ := completed_spec h0 h
  obtain ⟨hr, hrn⟩ := returns_spec h0 h
  -- Neither list has duplicates, so it is enough that they have the same members
  rw [List.perm_ext_iff_of_nodup hcn hrn]
  intro i
  rw [hr]
  simp only [List.mem_map, Prod.exists, hc, exists_and_right, exists_eq_right]
  cases hi : c.phase i with
  | finished r => exact absurd hi (hret i r)
  | _ => simp [Phase.outcome?]

end Lists

end Interleaving
