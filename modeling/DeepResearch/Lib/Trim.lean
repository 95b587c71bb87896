/-
Taking away, at both ends of a text, the characters that a predicate holds
of.
-/
import Mathlib.Data.List.DropRight

namespace Trim

universe u

variable {α : Type u} {p : α → Bool} {text : List α} {c : α}

/-- The text without the characters of `p` at its ends. -/
def trim (p : α → Bool) (text : List α) : List α :=
  (text.dropWhile p).rdropWhile p

theorem mem_dropWhile (h : c ∈ text) (hc : p c = false) :
    c ∈ text.dropWhile p := by
  induction text with
  | nil => cases h
  | cons d text ih =>
      rw [List.dropWhile_cons]
      split
      case isTrue hd =>
        rcases List.mem_cons.mp h with rfl | h
        · rw [hc] at hd
          cases hd
        · exact ih h
      case isFalse => exact h

theorem mem_rdropWhile (h : c ∈ text) (hc : p c = false) :
    c ∈ text.rdropWhile p := by
  unfold List.rdropWhile
  rw [List.mem_reverse]
  exact mem_dropWhile (List.mem_reverse.mpr h) hc

/-- Trimming drops no character but those of `p`. -/
theorem mem_trim (h : c ∈ text) (hc : p c = false) : c ∈ trim p text :=
  mem_rdropWhile (mem_dropWhile h hc) hc

theorem last_rdropWhile (h : (text.rdropWhile p).getLast? = some c) :
    p c = false := by
  have hne : text.rdropWhile p ≠ [] := by
    intro hnil
    rw [hnil] at h
    cases h
  have hlast := List.rdropWhile_last_not p text hne
  rw [List.getLast?_eq_some_getLast hne] at h
  rw [Option.some.inj h] at hlast
  exact Bool.eq_false_iff.mpr hlast

/-- A trimmed text does not end in a character of `p`. -/
theorem last_trim (h : (trim p text).getLast? = some c) : p c = false :=
  last_rdropWhile h

/-- A trimmed text does not begin with a character of `p`. -/
theorem head_trim (h : (trim p text).head? = some c) : p c = false := by
  have hprefix : trim p text <+: text.dropWhile p :=
    List.rdropWhile_prefix p (text.dropWhile p)
  have hhead : (text.dropWhile p).head? = some c := by
    obtain ⟨rest, hrest⟩ := hprefix
    rw [← hrest, List.head?_append, h]
    rfl
  have hnot := List.head?_dropWhile_not p text
  rw [hhead] at hnot
  simpa using hnot

theorem rdropWhile_eq_self
    (h : ∀ c, text.getLast? = some c → p c = false) :
    text.rdropWhile p = text := by
  rw [List.rdropWhile_eq_self_iff]
  intro hne
  rw [h _ (List.getLast?_eq_some_getLast hne)]
  exact Bool.false_ne_true

theorem dropWhile_eq_self (h : ∀ c, text.head? = some c → p c = false) :
    text.dropWhile p = text := by
  cases text with
  | nil => rfl
  | cons c text =>
      refine List.dropWhile_cons_of_neg ?_
      rw [h c rfl]
      exact Bool.false_ne_true

/-- Nothing before another character is dropped. -/
theorem rdropWhile_append_cons (left : List α) (hc : p c = false)
    (right : List α) :
    (left ++ c :: right).rdropWhile p = left ++ c :: right.rdropWhile p := by
  have hneg : ¬ p c = true := by
    rw [hc]
    exact Bool.false_ne_true
  induction right using List.reverseRecOn with
  | nil => rw [List.rdropWhile_concat_neg p left c hneg, List.rdropWhile_nil]
  | append_singleton right d ih =>
      rw [← List.cons_append, ← List.append_assoc]
      cases hd : p d with
      | true =>
          rw [List.rdropWhile_concat_pos p _ d hd,
            List.rdropWhile_concat_pos p _ d hd, ih]
      | false =>
          have hneg' : ¬ p d = true := by
            rw [hd]
            exact Bool.false_ne_true
          rw [List.rdropWhile_concat_neg p _ d hneg',
            List.rdropWhile_concat_neg p _ d hneg', List.append_assoc,
            List.cons_append]

/-- A text with other characters at its ends is trimmed. -/
theorem trim_eq_self (hhead : ∀ c, text.head? = some c → p c = false)
    (hlast : ∀ c, text.getLast? = some c → p c = false) :
    trim p text = text := by
  unfold trim
  rw [dropWhile_eq_self hhead, rdropWhile_eq_self hlast]

end Trim
