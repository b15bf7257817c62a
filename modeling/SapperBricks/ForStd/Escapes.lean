import Mathlib.Data.List.DropRight
import Mathlib.Tactic.Common

/-!
# Escape sequences of three symbols

Texts in which three symbols in a row may stand for one, such as the `%41` of a URL. Which
triples are escapes, and of what, is a parameter. Decoding goes from left to right and
leaves everything alone that is not an escape.

## Key results

- `length_unescape_lt`: decoding a text with an escape makes it shorter
- `unescape_eq_self_iff`: decoding changes a text exactly if it has an escape
- `rtakeWhile_append_cons`: what comes after the last separator
-/

namespace Escapes

variable {α : Type} {escape : α → α → α → Option α}

/-- Decode the escapes of a text. -/
def unescape (escape : α → α → α → Option α) : List α → List α
  | a :: b :: c :: rest =>
    match escape a b c with
    | some x => x :: unescape escape rest
    | none => a :: unescape escape (b :: c :: rest)
  | short => short

/-- An escape occurs in a text. -/
def HasEscape (escape : α → α → α → Option α) (s : List α) : Prop :=
  ∃ a b c, (escape a b c).isSome ∧ [a, b, c] <:+: s

/-! ## Texts in which nothing is decoded -/

/-- A symbol that starts no escape stays. -/
theorem unescape_cons {a : α} (h : ∀ b c, escape a b c = none) (s : List α) :
    unescape escape (a :: s) = a :: unescape escape s := by
  match s with
  | [] => rfl
  | [b] => rfl
  | b :: c :: rest =>
    unfold unescape
    rw [h b c]
    cases rest <;> rfl

/-- So does a text of such symbols. -/
theorem unescape_append {p : List α} (h : ∀ a ∈ p, ∀ b c, escape a b c = none) (s : List α) :
    unescape escape (p ++ s) = p ++ unescape escape s := by
  induction p with
  | nil => rfl
  | cons a p ih =>
    have hp : ∀ a' ∈ p, ∀ b c, escape a' b c = none :=
      fun a' ha' => h a' (List.mem_cons_of_mem a ha')
    rw [List.cons_append, unescape_cons (h a List.mem_cons_self), ih hp, List.cons_append]

/-- Decoding leaves a text without escapes alone. -/
theorem unescape_eq_self {s : List α} (h : ¬HasEscape escape s) : unescape escape s = s := by
  fun_induction unescape escape s with
  | case1 a b c rest x hx ih =>
    -- The escape that is decoded here is one
    have hescape : HasEscape escape (a :: b :: c :: rest) := by
      refine ⟨a, b, c, ?_, [], rest, rfl⟩
      rw [hx]
      rfl
    exact absurd hescape h
  | case2 a b c rest hnone ih =>
    have htail : ¬HasEscape escape (b :: c :: rest) := by
      intro ⟨a', b', c', hsome, hinfix⟩
      exact h ⟨a', b', c', hsome, hinfix.trans (List.infix_cons List.infix_rfl)⟩
    rw [ih htail]
  | case3 s hs => rfl

/-! ## Lengths -/

/-- Decoding makes no text longer. -/
theorem length_unescape_le (escape : α → α → α → Option α) (s : List α) : (unescape escape s).length ≤ s.length := by
  fun_induction unescape escape s with
  | case1 a b c rest x hx ih =>
    simp only [List.length_cons]
    omega
  | case2 a b c rest hnone ih =>
    simp only [List.length_cons] at ih ⊢
    omega
  | case3 s hs => exact Nat.le_refl _

/-- Decoding makes a text with an escape shorter. -/
theorem length_unescape_lt {s : List α} (h : HasEscape escape s) :
    (unescape escape s).length < s.length := by
  fun_induction unescape escape s with
  | case1 a b c rest x hx ih =>
    have hrest := length_unescape_le escape rest
    simp only [List.length_cons]
    omega
  | case2 a b c rest hnone ih =>
    -- The escape does not start here, so it is in the rest
    have htail : HasEscape escape (b :: c :: rest) := by
      obtain ⟨a', b', c', hsome, hinfix⟩ := h
      obtain hprefix | hinfix := List.infix_cons_iff.mp hinfix
      · simp only [List.cons_prefix_cons, List.nil_prefix, and_true] at hprefix
        obtain ⟨rfl, rfl, rfl⟩ := hprefix
        rw [hnone] at hsome
        exact nomatch hsome
      · exact ⟨a', b', c', hsome, hinfix⟩
    have hlt := ih htail
    simp only [List.length_cons] at hlt ⊢
    omega
  | case3 s hs =>
    obtain ⟨a, b, c, -, hinfix⟩ := h
    have hlen : 3 ≤ s.length := hinfix.length_le
    match s, hs, hlen with
    | x :: y :: z :: rest, hs, _ => exact absurd rfl (hs x y z rest)

/-- Decoding changes a text exactly if it has an escape. -/
theorem unescape_eq_self_iff {s : List α} : unescape escape s = s ↔ ¬HasEscape escape s := by
  constructor
  · intro heq h
    have hlt := length_unescape_lt h
    rw [heq] at hlt
    exact Nat.lt_irrefl _ hlt
  · exact unescape_eq_self

/-! ## The text after the last separator -/

/-- What comes before a separator does not matter for what comes after the last one. -/
theorem rtakeWhile_append_cons {p : α → Bool} {a : α} (h : p a = false) (s t : List α) :
    (s ++ a :: t).rtakeWhile p = t.rtakeWhile p := by
  induction t using List.reverseRecOn with
  | nil =>
    rw [List.rtakeWhile_concat_neg _ _ _ (by rw [h]; exact Bool.false_ne_true),
      List.rtakeWhile_nil]
  | append_singleton t x ih =>
    have hassoc : s ++ a :: (t ++ [x]) = (s ++ a :: t) ++ [x] := by simp
    rw [hassoc, List.rtakeWhile_concat, List.rtakeWhile_concat, ih]

end Escapes
