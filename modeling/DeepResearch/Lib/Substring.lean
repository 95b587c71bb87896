/-
Occurrences of one text in another: the first one, the last one between
two bounds, and the part of a text between two positions.
-/
import Mathlib.Data.List.Basic

namespace Substring

universe u

variable {α : Type u}

/-- The part of a text from `start` to before `stop`. -/
def slice (text : List α) (start stop : Nat) : List α :=
  (text.drop start).take (stop - start)

section

variable [DecidableEq α] {needle text : List α} {n low high : Nat}

/-- The first position where `needle` occurs. -/
def find (needle text : List α) : Option Nat :=
  (List.range (text.length + 1)).find? fun n => needle <+: text.drop n

/-- The last position, from `low` on, where `needle` occurs before
`high`. -/
def rfind (needle text : List α) (low high : Nat) : Option Nat :=
  (List.range (high + 1)).reverse.find? fun n =>
    low ≤ n ∧ n + needle.length ≤ high ∧ needle <+: text.drop n

theorem prefix_of_find (h : find needle text = some n) :
    needle <+: text.drop n := by
  have hn := List.find?_some h
  exact of_decide_eq_true hn

theorem find_eq_none_iff :
    find needle text = none ↔ ¬ needle <:+: text := by
  unfold find
  rw [List.find?_eq_none]
  refine ⟨?_, ?_⟩
  · rintro h ⟨before, rest, rfl⟩
    refine h before.length (List.mem_range.mpr ?_) (decide_eq_true ?_)
    · rw [List.length_append, List.length_append]
      omega
    · rw [List.append_assoc, List.drop_left]
      exact List.prefix_append needle rest
  · intro h n _ hn
    refine h ?_
    exact (of_decide_eq_true hn).isInfix.trans (List.drop_suffix n text).isInfix

theorem rfind_some (h : rfind needle text low high = some n) :
    low ≤ n ∧ n + needle.length ≤ high ∧ needle <+: text.drop n := by
  have hn := List.find?_some h
  exact of_decide_eq_true hn

end

-- ================================================================ slices

variable {text left right : List α} {start stop : Nat}

/-- The part between two parts. -/
theorem slice_append_append (left middle right : List α) :
    slice (left ++ middle ++ right) left.length
      (left.length + middle.length) = middle := by
  unfold slice
  rw [List.append_assoc, List.drop_left, Nat.add_sub_cancel_left,
    List.take_left]

end Substring
