import Mathlib.Data.List.ReduceOption
import Mathlib.Data.Multiset.AddSub
import Mathlib.Tactic.Common

/-!
# Handles with owners

Programs that acquire handles from a library and must give back each of them once: files, memory,
objects behind a C interface. A handle is live from its acquisition until it is freed; using or
freeing one that is not live is undefined. A pointer that owns a handle frees it at the end of its
scope, however the scope is left, unless it has released the handle before.

A heap records the handles that were released. A ledger says which pointers have come into scope
since some moment, which handles nobody owns, and which were released. Programs are specified by
what they do to it.

## Key results

- `Meets.bind`, `Meets.or`, `Meets.unique`: the rules for programs in sequence and for scopes
- `Meets.acquire`, `Meets.use`, `Meets.free`, `Meets.release`: those for what they do to handles
- `Meets.run`: what a program that meets a specification does to a heap
-/

namespace Handles

/-- A handle to an object of some kind. -/
structure Handle (K : Type) where
  kind : K
  id : Nat
deriving DecidableEq, Repr

/-- The handles that are live, the pointers in scope, the innermost one first, and the handles that
    pointers have released, the last one first. -/
structure Heap (K : Type) where
  next : Nat
  live : Multiset (Handle K)
  owners : List (Option (Handle K))
  released : List (Handle K)
  live_lt : ∀ x ∈ live, x.id < next
  live_nodup : live.Nodup

variable {K : Type}

namespace Heap

/-- Nothing was acquired. -/
def empty : Heap K where
  next := 0
  live := 0
  owners := []
  released := []
  live_lt _ h := absurd h (Multiset.notMem_zero _)
  live_nodup := Multiset.nodup_zero

/-- A new handle is live. -/
def add (h : Heap K) (kind : K) : Heap K where
  next := h.next + 1
  live := ⟨kind, h.next⟩ ::ₘ h.live
  owners := h.owners
  released := h.released
  live_lt x hx := by
    obtain rfl | hx := Multiset.mem_cons.mp hx
    · exact Nat.lt_succ_self _
    · exact Nat.lt_succ_of_lt (h.live_lt x hx)
  live_nodup := by
    refine Multiset.nodup_cons.mpr ⟨fun hx => ?_, h.live_nodup⟩
    exact Nat.lt_irrefl _ (h.live_lt _ hx)

variable [DecidableEq K]

/-- A handle is not live any more. -/
def remove (h : Heap K) (x : Handle K) : Heap K where
  next := h.next
  live := h.live.erase x
  owners := h.owners
  released := h.released
  live_lt y hy := h.live_lt y (Multiset.mem_of_mem_erase hy)
  live_nodup := h.live_nodup.erase x

end Heap

/-- A program that may throw; a run without an outcome is undefined behaviour. -/
abbrev Prog (K ε : Type) := ExceptT ε (StateT (Heap K) Option)

variable {ε α β : Type}

/-- A call of a constructor: a new handle, or null. -/
def acquire (kind : K) (ok : Bool) : Prog K ε (Option (Handle K)) := fun h =>
  if ok then some (.ok (some ⟨kind, h.next⟩), h.add kind) else some (.ok none, h)

/-- A check that throws. -/
def throwIf (failed : Bool) (e : ε) : Prog K ε Unit :=
  if failed then throw e else pure ()

section

variable [DecidableEq K]

/-- A call that reads or changes what is behind a handle. -/
def use : Option (Handle K) → Prog K ε Unit
  | none => fun _ => none
  | some x => fun h => if x ∈ h.live then some (.ok (), h) else none

/-- A call of a destructor, which does nothing for null. -/
def free : Option (Handle K) → Prog K ε Unit
  | none => pure ()
  | some x => fun h => if x ∈ h.live then some (.ok (), h.remove x) else none

/-- The pointers after one of them has given away its handle. -/
def clear (p : Option (Handle K)) : List (Option (Handle K)) → List (Option (Handle K))
  | [] => []
  | q :: qs => if q = p then none :: qs else q :: clear p qs

/-- A pointer that owns the handle gives it away. -/
def release (p : Option (Handle K)) : Prog K ε (Option (Handle K)) := fun h =>
  some (.ok p, { h with owners := clear p h.owners, released := p.toList ++ h.released })

/-- The scope of a pointer that owns a handle, or null. -/
def unique (p : Option (Handle K)) (body : Prog K ε α) : Prog K ε α := fun h =>
  match body { h with owners := p :: h.owners } with
  | none => none
  | some (r, h) =>
    match h.owners with
    | [] => none
    | q :: owners =>
      match free (ε := ε) q { h with owners } with
      | some (.ok (), h) => some (r, h)
      | _ => none

end

/-! ## Ledgers -/

/-- The pointers that have come into scope, the handles that no pointer owns, and those that were
    released, the last one first. -/
@[ext] structure Ledger (K : Type) where
  ptrs : List (Option (Handle K))
  loose : Multiset (Handle K)
  released : List (Handle K)

/-- All its handles. -/
def Ledger.handles (l : Ledger K) : Multiset (Handle K) :=
  (l.ptrs.reduceOption : Multiset (Handle K)) + l.loose

/-- Handles more that were released, and that nobody owns. -/
def Ledger.lose (l : Ledger K) (xs : List (Handle K)) : Ledger K :=
  ⟨l.ptrs, (xs : Multiset (Handle K)) + l.loose, xs ++ l.released⟩

/-- What has happened between two heaps. -/
structure Since (h₀ h : Heap K) (l : Ledger K) : Prop where
  owners : h.owners = l.ptrs ++ h₀.owners
  live : h.live = l.handles + h₀.live
  released : h.released = l.released ++ h₀.released

@[simp] theorem Ledger.lose_nil (l : Ledger K) : l.lose [] = l := by
  simp [lose]

@[simp] theorem Ledger.lose_lose (l : Ledger K) (xs ys : List (Handle K)) :
    (l.lose xs).lose ys = l.lose (ys ++ xs) := by
  simp [lose, ← Multiset.coe_add, Multiset.add_assoc]

/-- A pointer that comes into scope takes nothing away. -/
theorem Ledger.mem_push {l : Ledger K} {x : Handle K} (hx : x ∈ l.handles)
    (q : Option (Handle K)) : x ∈ Ledger.handles ⟨q :: l.ptrs, l.loose, l.released⟩ := by
  cases q with
  | none => simpa [Ledger.handles] using hx
  | some y =>
    simp only [Ledger.handles, List.reduceOption_cons_of_some, ← Multiset.cons_coe,
      Multiset.cons_add] at hx ⊢
    exact Multiset.mem_cons_of_mem hx

/-- Neither does a new handle. -/
theorem Ledger.mem_acquire {l : Ledger K} {x : Handle K} (hx : x ∈ l.handles) (y : Handle K) :
    x ∈ Ledger.handles ⟨l.ptrs, y ::ₘ l.loose, l.released⟩ := by
  simp only [Ledger.handles, Multiset.add_cons] at hx ⊢
  exact Multiset.mem_cons_of_mem hx

/-- What the innermost pointer owns is one of the handles. -/
theorem Ledger.mem_top {ptrs : List (Option (Handle K))} {loose : Multiset (Handle K)}
    {released : List (Handle K)} (x : Handle K) :
    x ∈ Ledger.handles ⟨some x :: ptrs, loose, released⟩ := by
  simp [Ledger.handles]

/-- So is a new handle. -/
theorem Ledger.mem_new {ptrs : List (Option (Handle K))} {loose : Multiset (Handle K)}
    {released : List (Handle K)} (x : Handle K) :
    x ∈ Ledger.handles ⟨ptrs, x ::ₘ loose, released⟩ := by
  simp [Ledger.handles]

/-- So are handles that nobody owns any more. -/
theorem Ledger.mem_lose {l : Ledger K} {x : Handle K} {xs : List (Handle K)} (hx : x ∈ xs) :
    x ∈ (l.lose xs).handles :=
  Multiset.mem_add.mpr (.inr (Multiset.mem_add.mpr (.inl hx)))

theorem Since.refl (h : Heap K) : Since h h ⟨[], 0, []⟩ where
  owners := rfl
  live := by simp [Ledger.handles, List.reduceOption]
  released := rfl

/-- The handles of a ledger are live. -/
theorem Since.mem {h₀ h : Heap K} {l : Ledger K} (hs : Since h₀ h l) {x : Handle K}
    (hx : x ∈ l.handles) : x ∈ h.live := by
  rw [hs.live]
  exact Multiset.mem_add.mpr (.inl hx)

/-- A program that, whatever heap the ledger belongs to, has an outcome for which the specification
    holds of the ledger then. -/
def Meets (prog : Prog K ε α) (Q : Except ε α → Ledger K → Prop) (l : Ledger K) : Prop :=
  ∀ h₀ h, Since h₀ h l → ∃ r h' l', prog h = some (r, h') ∧ Since h₀ h' l' ∧ Q r l'

namespace Meets

variable {Q : Except ε α → Ledger K → Prop} {l : Ledger K}

theorem mono {prog : Prog K ε α} {Q' : Except ε α → Ledger K → Prop} (h : Meets prog Q l)
    (hQ : ∀ r l', Q r l' → Q' r l') : Meets prog Q' l := by
  intro h₀ h₁ hs
  obtain ⟨r, h', l', hrun, hs', hq⟩ := h h₀ h₁ hs
  exact ⟨r, h', l', hrun, hs', hQ r l' hq⟩

theorem pure {a : α} (h : Q (.ok a) l) : Meets (pure a : Prog K ε α) Q l :=
  fun _ h₁ hs => ⟨.ok a, h₁, l, rfl, hs, h⟩

theorem throw {e : ε} (h : Q (.error e) l) : Meets (throw e : Prog K ε α) Q l :=
  fun _ h₁ hs => ⟨.error e, h₁, l, rfl, hs, h⟩

/-- Programs in sequence. -/
theorem bind {prog : Prog K ε β} {k : β → Prog K ε α}
    (h : Meets prog (fun r l' =>
      match r with
      | .ok b => Meets (k b) Q l'
      | .error e => Q (.error e) l') l) : Meets (prog >>= k) Q l := by
  intro h₀ h₁ hs
  obtain ⟨r, h', l', hrun, hs', hq⟩ := h h₀ h₁ hs
  -- `ExceptT` goes on only after a result
  have hbind : (prog >>= k) h₁ = (prog h₁).bind fun s => ExceptT.bindCont k s.1 s.2 := rfl
  rw [hbind, hrun]
  cases r with
  | ok b => exact hq h₀ h' hs'
  | error e => exact ⟨.error e, h', l', rfl, hs', hq⟩

theorem throwIf {Q : Except ε Unit → Ledger K → Prop} {failed : Bool} {e : ε}
    (hthrow : failed = true → Q (.error e) l) (hok : failed = false → Q (.ok ()) l) :
    Meets (throwIf failed e) Q l := by
  cases failed with
  | true => exact throw (hthrow rfl)
  | false => exact pure (hok rfl)

/-- A condition whose second part is evaluated only if the first one does not hold. -/
theorem or {Q : Except ε Bool → Ledger K → Prop} {a b : Prog K ε Bool}
    (h : Meets a (fun r l' =>
      match r with
      | .ok true => Q (.ok true) l'
      | .ok false => Meets b Q l'
      | .error e => Q (.error e) l') l) : Meets (a <||> b) Q l := by
  -- As a bind, in which the second part is not run after `true`
  have hor : (a <||> b) = a >>= fun x => bif x then Pure.pure true else b := by
    simp only [orM]
    congr 1
    funext x
    cases x <;> rfl
  rw [hor]
  apply bind
  apply h.mono
  intro r l' hr
  match r with
  | .ok true => exact pure hr
  | .ok false => exact hr
  | .error e => exact hr

/-- A handle that nobody owns yet. -/
theorem acquire {Q : Except ε (Option (Handle K)) → Ledger K → Prop} {kind : K} {ok : Bool}
    (hok : ok = true → ∀ x, x.kind = kind → x ∉ l.handles →
      Q (.ok (some x)) ⟨l.ptrs, x ::ₘ l.loose, l.released⟩)
    (hnull : ok = false → Q (.ok none) l) : Meets (acquire kind ok) Q l := by
  intro h₀ h hs
  cases ok with
  | true =>
    -- Its number is above those of all live handles
    have hnew : ⟨kind, h.next⟩ ∉ l.handles :=
      fun hmem => Nat.lt_irrefl _ (h.live_lt _ (hs.mem hmem))
    refine ⟨_, h.add kind, ⟨l.ptrs, ⟨kind, h.next⟩ ::ₘ l.loose, l.released⟩, rfl,
      ⟨hs.owners, ?_, hs.released⟩, hok rfl ⟨kind, h.next⟩ rfl hnew⟩
    simp only [Heap.add, Ledger.handles, hs.live, Multiset.add_cons, Multiset.cons_add]
  | false => exact ⟨_, h, l, rfl, hs, hnull rfl⟩

variable [DecidableEq K]

theorem use {Q : Except ε Unit → Ledger K → Prop} {x : Handle K} (hx : x ∈ l.handles)
    (h : Q (.ok ()) l) : Meets (use (some x)) Q l := by
  intro h₀ h₁ hs
  refine ⟨.ok (), h₁, l, ?_, hs, h⟩
  simp only [Handles.use, hs.mem hx, if_true]

/-- A handle that nobody owns is freed. -/
theorem free {Q : Except ε Unit → Ledger K → Prop} {x : Handle K} (hx : x ∈ l.loose)
    (h : Q (.ok ()) ⟨l.ptrs, l.loose.erase x, l.released⟩) : Meets (free (some x)) Q l := by
  intro h₀ h₁ hs
  have hlive : x ∈ h₁.live := hs.mem (Multiset.mem_add.mpr (.inr hx))
  refine ⟨.ok (), h₁.remove x, ⟨l.ptrs, l.loose.erase x, l.released⟩, ?_,
    ⟨hs.owners, ?_, hs.released⟩, h⟩
  · simp only [Handles.free, hlive, if_true]
  · simp only [Heap.remove, Ledger.handles]
    -- The handle is one of the ledger's, so what was live before stays
    rw [hs.live, Ledger.handles, Multiset.erase_add_left_pos _ (Multiset.mem_add.mpr (.inr hx)),
      Multiset.erase_add_right_pos _ hx]

end Meets

section Release

variable [DecidableEq K]

/-- A pointer that gives its handle away is one of those in scope. -/
theorem clear_append {x : Handle K} {ps : List (Option (Handle K))} (hx : some x ∈ ps)
    (qs : List (Option (Handle K))) : clear (some x) (ps ++ qs) = clear (some x) ps ++ qs := by
  induction ps with
  | nil => cases hx
  | cons p ps ih =>
    -- The first pointer with the handle gives it away
    by_cases hp : p = some x
    · simp only [List.cons_append, clear, hp, if_true]
    · have hx' : some x ∈ ps := by simpa [Ne.symm hp] using hx
      simp only [List.cons_append, clear, hp, if_false, ih hx']

/-- Its handle is all that it gives away. -/
theorem reduceOption_clear {x : Handle K} {ps : List (Option (Handle K))} (hx : some x ∈ ps) :
    (ps.reduceOption : Multiset (Handle K)) = x ::ₘ ((clear (some x) ps).reduceOption : Multiset (Handle K)) := by
  induction ps with
  | nil => cases hx
  | cons p ps ih =>
    by_cases hp : p = some x
    · subst hp
      simp [clear]
    · have hx' : some x ∈ ps := by simpa [Ne.symm hp] using hx
      simp only [clear, hp, if_false]
      -- The handle of another pointer stays in front of it
      cases p with
      | none => simpa using ih hx'
      | some y =>
        rw [List.reduceOption_cons_of_some, List.reduceOption_cons_of_some, ← Multiset.cons_coe,
          ← Multiset.cons_coe, ih hx', Multiset.cons_swap]

end Release

namespace Meets

variable {l : Ledger K}

variable [DecidableEq K]

/-- A pointer in scope gives its handle away. -/
theorem release {Q : Except ε (Option (Handle K)) → Ledger K → Prop} {x : Handle K}
    (hx : some x ∈ l.ptrs)
    (h : Q (.ok (some x)) ⟨clear (some x) l.ptrs, x ::ₘ l.loose, x :: l.released⟩) :
    Meets (release (some x)) Q l := by
  intro h₀ h₁ hs
  refine ⟨.ok (some x),
    { h₁ with owners := clear (some x) h₁.owners, released := x :: h₁.released },
    ⟨clear (some x) l.ptrs, x ::ₘ l.loose, x :: l.released⟩, rfl, ⟨?_, ?_, ?_⟩, h⟩
  · rw [hs.owners, clear_append hx]
  · simp only [Ledger.handles]
    -- What one pointer owned less is loose now
    rw [hs.live, Ledger.handles, reduceOption_clear hx, Multiset.cons_add, Multiset.add_cons]
  · rw [hs.released]
    rfl

/-- The end of a scope: the innermost pointer frees what it still owns. -/
def Leaving (Q : Except ε α → Ledger K → Prop) (r : Except ε α) (l : Ledger K) : Prop :=
  ∃ q ptrs, l.ptrs = q :: ptrs ∧ Q r ⟨ptrs, l.loose, l.released⟩

/-- The scope of a pointer. -/
theorem unique {Q : Except ε α → Ledger K → Prop} {ptrs : List (Option (Handle K))}
    {loose : Multiset (Handle K)} {released : List (Handle K)} {p : Option (Handle K)}
    {body : Prog K ε α} (h : Meets body (Leaving Q) ⟨p :: ptrs, loose, released⟩) :
    Meets (unique p body) Q ⟨ptrs, (p.toList : Multiset (Handle K)) + loose, released⟩ := by
  intro h₀ h₁ hs
  -- In the scope the pointer is one more, and owns what nobody owned
  have hs₁ : Since h₀ { h₁ with owners := p :: h₁.owners } ⟨p :: ptrs, loose, released⟩ := by
    refine ⟨by rw [hs.owners]; rfl, ?_, hs.released⟩
    have hlive := hs.live
    cases p with
    | none => simpa [Ledger.handles] using hlive
    | some x =>
      simpa [Ledger.handles, List.reduceOption_cons_of_some, ← Multiset.cons_coe] using hlive
  obtain ⟨r, h', ⟨ps, loose', released'⟩, hrun, hs', q, ptrs', rfl, hq⟩ := h h₀ _ hs₁
  have howners : h'.owners = q :: (ptrs' ++ h₀.owners) := hs'.owners
  have hlive := hs'.live
  simp only [Handles.unique, hrun, howners]
  cases q with
  | none =>
    -- Null, or what it owned was released: there is nothing to free
    refine ⟨r, { h' with owners := ptrs' ++ h₀.owners }, ⟨ptrs', loose', released'⟩, rfl,
      ⟨rfl, ?_, hs'.released⟩, hq⟩
    simpa [Ledger.handles] using hlive
  | some x =>
    -- It still owns a handle, which is live and freed at the end
    have hx : x ∈ h'.live := hs'.mem (Ledger.mem_top x)
    refine ⟨r, { h' with owners := ptrs' ++ h₀.owners }.remove x, ⟨ptrs', loose', released'⟩, ?_,
      ⟨rfl, ?_, hs'.released⟩, hq⟩
    · simp only [Handles.free, hx, if_true]
    · simp only [Heap.remove]
      rw [hlive]
      simp [Ledger.handles, List.reduceOption_cons_of_some, ← Multiset.cons_coe]

/-- The scope of a pointer to a handle that nobody owned. -/
theorem unique_some {Q : Except ε α → Ledger K → Prop} {x : Handle K} {body : Prog K ε α}
    (h : Meets body (Leaving Q) ⟨some x :: l.ptrs, l.loose, l.released⟩) :
    Meets (Handles.unique (some x) body) Q ⟨l.ptrs, x ::ₘ l.loose, l.released⟩ := by
  have hscope := unique h
  rwa [Option.toList_some, Multiset.coe_singleton, Multiset.singleton_add] at hscope

/-- A constructor whose result a pointer owns. -/
theorem acquire_unique {Q : Except ε α → Ledger K → Prop} {kind : K} {ok : Bool}
    {body : Option (Handle K) → Prog K ε α}
    (h : ∀ p : Option (Handle K), p.isSome = ok → (∀ x ∈ p, x.kind = kind ∧ x ∉ l.handles) →
      Meets (body p) (Leaving Q) ⟨p :: l.ptrs, l.loose, l.released⟩) :
    Meets (do let p ← Handles.acquire kind ok; Handles.unique p (body p)) Q l := by
  refine bind (acquire (fun hok x hkind hx => ?_) fun hok => ?_)
  · exact unique_some (h (some x) hok.symm (by simpa using ⟨hkind, hx⟩))
  · have hscope := unique (h none hok.symm (by simp))
    rwa [Option.toList_none, Multiset.coe_nil, Multiset.zero_add] at hscope

omit [DecidableEq K] in
/-- What a program that meets a specification does to a heap: it has an outcome, the pointers in
    scope are the same, and the handles of the ledger are those that it leaves. -/
theorem run {prog : Prog K ε α} {Q : Except ε α → Ledger K → Prop}
    (h : Meets prog Q ⟨[], 0, []⟩) (h₀ : Heap K) :
    ∃ r h' l', prog h₀ = some (r, h') ∧ Since h₀ h' l' ∧ Q r l' :=
  h h₀ h₀ (.refl h₀)

end Meets

end Handles
