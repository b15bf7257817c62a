import Mathlib.Logic.Function.Iterate
import SapperBricks.Native.Request

/-!
# Rules for request hooks

What a retried attempt and its forwarded status come down to, for the bricks that use them.

## Key results

- `RetryHook.process_eq_attempt`: a retried attempt ends with an attempt
- `RetryHook.process_spec`: the rule for what attempts keep and establish
- `RetryHook.process_of_ok`: an attempt that succeeds is the only one
- `RetryHook.process_le`, `RetryHook.process_exhausted`: what attempts cost
- `RetryHook.process_starts`: the attempts that are made, one after the other
-/

namespace SapperBricks

/-- The status a handled exception becomes is not `ok`. -/
theorem ExceptionHook.handle_ne_ok {retry : RetryHook} (self : ExceptionHook retry) {e : Exn}
    {status : Status} (h : self.handle e = .ok status) : status.code ≠ .ok := by
  cases hb : e.isBrokenConnection with
  | true =>
    -- A lost connection becomes the status that is retried
    rw [self.handle_broken e hb] at h
    cases h
    exact nofun
  | false => exact (self.handle_other e status hb h).1

/-- A result that reaches the caller as a normal return. -/
theorem forwardErrors_eq_ok {r : Except Exn Status} :
    forwardErrors r = .ok () ↔ ∃ status, r = .ok status ∧ status.code = .ok := by
  cases r with
  | error e => simp [forwardErrors]
  | ok status => by_cases h : status.code = .ok <;> simp [forwardErrors, h]

/-- An attempt that is to be retried has not succeeded. -/
theorem RetryHook.forwardErrors_of_retries {self : RetryHook} {r : Except Exn Status}
    (h : self.retries r = true) : forwardErrors r ≠ .ok () := by
  intro hok
  obtain ⟨status, rfl, hcode⟩ := forwardErrors_eq_ok.mp hok
  rw [RetryHook.retries, hcode, self.not_retriable_ok] at h
  cases h

/-- An attempt that is to be retried is followed by the others. -/
theorem RetryHook.process_of_retries {σ : Type} {self : RetryHook}
    {attempt : σ → Except Exn Status × σ} {s : σ} (h : self.retries (attempt s).1 = true) (n : Nat) :
    self.process attempt (n + 1) s = self.process attempt n (attempt s).2 := by
  rw [process]
  exact if_pos h

/-- An attempt that is not to be retried is the only one. -/
theorem RetryHook.process_of_not_retries {σ : Type} {self : RetryHook}
    {attempt : σ → Except Exn Status × σ} {s : σ} (h : ¬self.retries (attempt s).1 = true) (n : Nat) :
    self.process attempt n s = attempt s := by
  cases n with
  | zero => rfl
  | succ n =>
    unfold process
    exact if_neg h

/-- A retried attempt ends with an attempt, made in a state that satisfies what each attempt
    keeps. -/
theorem RetryHook.process_eq_attempt {σ : Type} (self : RetryHook)
    (attempt : σ → Except Exn Status × σ) {I : σ → Prop} (hattempt : ∀ s, I s → I (attempt s).2)
    (n : Nat) {s : σ} (hI : I s) : ∃ s', I s' ∧ self.process attempt n s = attempt s' := by
  induction n generalizing s with
  | zero => exact ⟨s, hI, rfl⟩
  | succ n ih =>
    by_cases hretry : self.retries (attempt s).1 = true
    · rw [process_of_retries hretry]
      -- The last attempt is the last one of those that follow
      exact ih (hattempt s hI)
    · exact ⟨s, hI, process_of_not_retries hretry (n + 1)⟩

/-- The rule for a retried attempt: what each attempt keeps, all of them keep, and what
    holds after an attempt that succeeds holds after attempts that do. -/
theorem RetryHook.process_spec {σ : Type} (self : RetryHook) {attempt : σ → Except Exn Status × σ}
    {I : σ → Prop} {Q : σ → Prop}
    (hattempt : ∀ s, I s → I (attempt s).2 ∧
      (forwardErrors (attempt s).1 = .ok () → Q (attempt s).2))
    (n : Nat) {s : σ} (hI : I s) :
    I (self.process attempt n s).2 ∧
    (forwardErrors (self.process attempt n s).1 = .ok () → Q (self.process attempt n s).2) := by
  obtain ⟨s', hs', hlast⟩ := self.process_eq_attempt attempt (fun s hs => (hattempt s hs).1) n hI
  rw [hlast]
  exact hattempt s' hs'

/-- An attempt that succeeds is not repeated. -/
theorem RetryHook.process_of_ok {σ : Type} (self : RetryHook) {attempt : σ → Except Exn Status × σ}
    {s : σ} {status : Status} (h : (attempt s).1 = .ok status) (hok : status.code = .ok) (n : Nat) :
    self.process attempt n s = attempt s := by
  apply process_of_not_retries
  rw [h, RetryHook.retries, hok, self.not_retriable_ok]
  exact Bool.false_ne_true

/-- The rule for what an attempt costs: attempts that are retried cost at most as often as much. -/
theorem RetryHook.process_le {σ : Type} (self : RetryHook) {attempt : σ → Except Exn Status × σ}
    {cost : σ → Nat} {c : Nat} (hattempt : ∀ s, cost (attempt s).2 ≤ cost s + c) (n : Nat) (s : σ) :
    cost (self.process attempt n s).2 ≤ cost s + (n + 1) * c := by
  induction n generalizing s with
  | zero =>
    rw [Nat.zero_add, Nat.one_mul]
    exact hattempt s
  | succ n ih =>
    have hfirst := hattempt s
    rw [Nat.succ_mul]
    by_cases hretry : self.retries (attempt s).1 = true
    · -- Its own cost, and at most `(n + 1) * c` for the others
      have hothers := ih (attempt s).2
      rw [process_of_retries hretry]
      omega
    · rw [process_of_not_retries hretry]
      omega

/-- Attempts that are all to be retried are all made. -/
theorem RetryHook.process_exhausted {σ : Type} (self : RetryHook)
    {attempt : σ → Except Exn Status × σ} {cost : σ → Nat} {c : Nat}
    (hretry : ∀ s, self.retries (attempt s).1 = true)
    (hattempt : ∀ s, cost (attempt s).2 = cost s + c) (n : Nat) (s : σ) :
    cost (self.process attempt n s).2 = cost s + (n + 1) * c := by
  induction n generalizing s with
  | zero =>
    rw [Nat.zero_add, Nat.one_mul]
    exact hattempt s
  | succ n ih =>
    have hfirst := hattempt s
    -- Every attempt is followed by the next one until there are none left
    have hothers := ih (attempt s).2
    rw [process_of_retries (hretry s), Nat.succ_mul]
    omega

/-! ## The attempts that are made -/

namespace RetryHook

variable {σ : Type}

/-- An attempt that writes down the state in which it starts. -/
def logged (attempt : σ → Except Exn Status × σ) (s : σ × List σ) :
    Except Exn Status × (σ × List σ) :=
  let r := attempt s.1
  (r.1, (r.2, s.2 ++ [s.1]))

/-- The states in which the attempts start that are made, as they write them down. -/
def starts (self : RetryHook) (attempt : σ → Except Exn Status × σ) (n : Nat) (s : σ) : List σ :=
  (self.process (logged attempt) n (s, [])).2.2

/-- Writing down where the attempts start changes nothing else. -/
theorem process_logged (self : RetryHook) (attempt : σ → Except Exn Status × σ) (n : Nat)
    (s : σ) (log : List σ) :
    self.process (logged attempt) n (s, log) =
      ((self.process attempt n s).1, ((self.process attempt n s).2,
        log ++ self.starts attempt n s)) := by
  unfold starts
  -- Whether an attempt is retried does not depend on what was written down before
  induction n generalizing s log with
  | zero => rfl
  | succ n ih =>
    by_cases hretry : self.retries (attempt s).1 = true
    · have hlogged : ∀ log, self.retries (logged attempt (s, log)).1 = true := fun _ => hretry
      rw [process_of_retries (hlogged log), process_of_retries (hlogged []),
        process_of_retries hretry]
      simp only [logged]
      rw [ih, ih _ ([] ++ [s])]
      simp
    · have hlogged : ∀ log, ¬self.retries (logged attempt (s, log)).1 = true := fun _ => hretry
      rw [process_of_not_retries (hlogged log), process_of_not_retries (hlogged []),
        process_of_not_retries hretry]
      rfl

/-- An attempt is made, and more if it is to be retried. -/
theorem starts_succ (self : RetryHook) (attempt : σ → Except Exn Status × σ) (n : Nat) (s : σ) :
    self.starts attempt (n + 1) s =
      s :: if self.retries (attempt s).1 then self.starts attempt n (attempt s).2 else [] := by
  by_cases hretry : self.retries (attempt s).1 = true
  · have hlogged : self.retries (logged attempt (s, [])).1 = true := hretry
    rw [if_pos hretry, starts, process_of_retries hlogged]
    simp only [logged]
    rw [process_logged]
    rfl
  · have hlogged : ¬self.retries (logged attempt (s, [])).1 = true := hretry
    rw [if_neg hretry, starts, process_of_not_retries hlogged]
    rfl

/-- The attempts that are made start where the one before ended. All but the last one are to
    be retried, the last one is the outcome, and it is not to be retried or there are none
    left. -/
theorem process_starts (self : RetryHook) (attempt : σ → Except Exn Status × σ) (n : Nat)
    (s : σ) :
    ∃ k, k ≤ n ∧
      self.starts attempt n s =
        (List.range (k + 1)).map (fun j => (fun t => (attempt t).2)^[j] s) ∧
      self.process attempt n s = attempt ((fun t => (attempt t).2)^[k] s) ∧
      (∀ j, j < k → self.retries (attempt ((fun t => (attempt t).2)^[j] s)).1 = true) ∧
      (k = n ∨ self.retries (attempt ((fun t => (attempt t).2)^[k] s)).1 = false) := by
  induction n generalizing s with
  | zero => exact ⟨0, Nat.le_refl 0, rfl, rfl, nofun, .inl rfl⟩
  | succ n ih =>
    by_cases hretry : self.retries (attempt s).1 = true
    · -- The others are the attempts from where this one ends
      obtain ⟨k, hk, hstarts, hlast, hretried, hends⟩ := ih (attempt s).2
      refine ⟨k + 1, Nat.succ_le_succ hk, ?_, ?_, ?_, ?_⟩
      · rw [starts_succ, if_pos hretry, hstarts, List.range_succ_eq_map (n := k + 1),
          List.map_cons, List.map_map]
        rfl
      · rw [process_of_retries hretry]
        exact hlast
      · intro j hj
        -- The first attempt is to be retried, the later ones by the induction
        cases j with
        | zero => exact hretry
        | succ j => exact hretried j (Nat.lt_of_succ_lt_succ hj)
      · exact hends.imp (congrArg Nat.succ) id
    · -- It is the only one, whatever is left
      refine ⟨0, Nat.zero_le _, ?_, ?_, nofun, .inr (Bool.eq_false_iff.mpr hretry)⟩
      · rw [starts_succ, if_neg hretry]
        rfl
      · exact process_of_not_retries hretry (n + 1)

end RetryHook

end SapperBricks
