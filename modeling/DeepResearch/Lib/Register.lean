/-
Numbering by first reference: a register lists what has been referenced,
in the order of the first references.

Adding what is there changes nothing and adding anything else appends
it, so a register only grows at its end, and the position of an entry is
settled when it is added. Whoever numbers entries as they come up may
therefore be compared with the finished register.
-/
import Mathlib.Data.List.Basic
import Mathlib.Data.List.Induction
import Mathlib.Data.List.Nodup

namespace Register

variable {ι : Type*} [DecidableEq ι]

/-- A reference. -/
def add (register : List ι) (x : ι) : List ι :=
  if x ∈ register then register else register ++ [x]

/-- One reference after the other. -/
def addAll (register xs : List ι) : List ι := xs.foldl add register

variable {register register' xs ys : List ι} {x y : ι}

@[simp] theorem addAll_nil : addAll register [] = register := rfl

@[simp] theorem addAll_cons :
    addAll register (x :: xs) = addAll (add register x) xs := rfl

theorem addAll_append :
    addAll register (xs ++ ys) = addAll (addAll register xs) ys :=
  List.foldl_append

theorem mem_add : y ∈ add register x ↔ y ∈ register ∨ y = x := by
  unfold add
  by_cases hx : x ∈ register
  · rw [if_pos hx]
    refine ⟨.inl, fun h => ?_⟩
    rcases h with h | rfl
    · exact h
    · exact hx
  · rw [if_neg hx, List.mem_append, List.mem_singleton]

theorem mem_addAll : y ∈ addAll register xs ↔ y ∈ register ∨ y ∈ xs := by
  induction xs generalizing register with
  | nil => simp
  | cons x xs ih => rw [addAll_cons, ih, mem_add, List.mem_cons, or_assoc]

theorem add_of_mem (h : x ∈ register) : add register x = register := if_pos h

theorem addAll_eq_nil_iff : addAll [] xs = [] ↔ xs = [] := by
  refine ⟨fun h => List.eq_nil_iff_forall_not_mem.mpr fun x hx => ?_, ?_⟩
  · have hmem : x ∈ addAll [] xs := mem_addAll.mpr (.inr hx)
    rw [h] at hmem
    cases hmem
  · rintro rfl
    rfl

/-- References that were registered elsewhere first. -/
theorem addAll_addAll_nil : addAll register (addAll [] xs) = addAll register xs := by
  induction xs using List.reverseRecOn with
  | nil => rfl
  | append_singleton xs x ih =>
      rw [addAll_append, addAll_append, ← ih]
      show addAll register (add (addAll [] xs) x)
        = add (addAll register (addAll [] xs)) x
      by_cases hx : x ∈ addAll [] xs
      · rw [add_of_mem hx, add_of_mem (mem_addAll.mpr (.inr hx))]
      · rw [add, if_neg hx, addAll_append]
        rfl

-- ============================================================== positions

/-- A register grows at its end. -/
theorem grows_add : register <+: add register x := by
  unfold add
  split
  · exact List.prefix_refl register
  · exact List.prefix_append register [x]

theorem grows_addAll : register <+: addAll register xs := by
  induction xs generalizing register with
  | nil => exact List.prefix_refl register
  | cons x xs ih => exact grows_add.trans ih

/-- The position of an entry is settled. -/
theorem idxOf_of_grows (h : register <+: register') (hx : x ∈ register) :
    register'.idxOf x = register.idxOf x := by
  obtain ⟨rest, rfl⟩ := h
  exact List.idxOf_append_of_mem hx

end Register
