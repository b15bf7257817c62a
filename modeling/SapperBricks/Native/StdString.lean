import Mathlib.Data.List.TakeWhile
import Mathlib.Tactic.Common

/-!
# Member functions of `std::string`

The operations of `std::string` the bricks use beside concatenation and comparison. Where
the source starts at a position, that position is within the string.
-/

namespace SapperBricks

/-- `substr(pos)`. -/
def substr (s : String) (pos : Nat) : String :=
  String.ofList (s.toList.drop pos)

/-- `substr(0, count)`, where `none` stands for `npos`. -/
def substrTo (s : String) : Option Nat → String
  | none => s
  | some count => String.ofList (s.toList.take count)

/-- `find(c)`, where `none` stands for `npos`. -/
def findChar (s : String) (c : Char) : Option Nat :=
  s.toList.findIdx? (· == c)

/-- A string handed on by `c_str()`: what comes before its first NUL. -/
def cStr (s : String) : String :=
  String.ofList (s.toList.takeWhile (· != '\x00'))

/-- `c_str()` hands on the whole of a string without NUL. -/
theorem cStr_eq_self {s : String} (h : '\x00' ∉ s.toList) : cStr s = s := by
  have hall : s.toList.takeWhile (· != '\x00') = s.toList := by
    rw [List.takeWhile_eq_self_iff]
    intro c hc
    simp only [bne_iff_ne, ne_eq]
    exact fun hnul => h (hnul ▸ hc)
  unfold cStr
  rw [hall, String.ofList_toList]

/-- What follows a prefix. -/
@[simp] theorem substr_append (pre rest : String) : substr (pre ++ rest) pre.length = rest := by
  unfold substr
  rw [String.toList_append, ← String.length_toList, List.drop_left, String.ofList_toList]

/-- A prefix. -/
@[simp] theorem substrTo_append (pre rest : String) :
    substrTo (pre ++ rest) (some pre.length) = pre := by
  simp only [substrTo]
  rw [String.toList_append, ← String.length_toList, List.take_left, String.ofList_toList]

/-- A string that starts with a prefix is the prefix followed by the rest. -/
theorem append_substr {s pre : String} (h : substrTo s (some pre.length) = pre) :
    pre ++ substr s pre.length = s := by
  have htake : pre.toList = s.toList.take pre.length := by
    have := congrArg String.toList h
    simpa [substrTo] using this.symm
  apply String.toList_injective
  rw [String.toList_append, substr, String.toList_ofList, htake, List.take_append_drop]

end SapperBricks
