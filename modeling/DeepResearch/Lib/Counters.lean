/-
Totals over keyed tables: an association list, a weight for its entries,
and the sum of the weights.

Setting an entry moves the total by the difference of the weights,
erasing it takes its weight away. A separately kept sum that follows
every change by the same amount is therefore the total at any time.
A table of plain counters is weighed by the counters themselves.
-/
import Mathlib.Data.List.AList
import Mathlib.Algebra.BigOperators.Group.List.Basic
import Mathlib.Algebra.Order.BigOperators.Group.List
import Mathlib.Algebra.Order.Group.Nat
import Mathlib.Algebra.GroupWithZero.Nat

namespace Counters

variable {κ ρ : Type*}

-- ======================================================= weighed tables

/-- The sum of a weight over all entries. -/
def weigh (w : ρ → Nat) (m : AList fun _ : κ => ρ) : Nat :=
  (m.entries.map fun e => w e.2).sum

/-- No entries, no weight. -/
theorem weigh_of_entries_nil (w : ρ → Nat) {m : AList fun _ : κ => ρ}
    (h : m.entries = []) : weigh w m = 0 := by
  rw [weigh, h]
  rfl

/-- A smaller weight has a smaller sum. -/
theorem weigh_mono {v w : ρ → Nat} (h : ∀ r, v r ≤ w r)
    (m : AList fun _ : κ => ρ) : weigh v m ≤ weigh w m := by
  unfold weigh
  induction m.entries with
  | nil => exact Nat.le_refl _
  | cons e l ih =>
      have he := h e.2
      simp only [List.map_cons, List.sum_cons]
      omega

/-- Two weights that agree on the entries have the same sum. -/
theorem weigh_congr {v w : ρ → Nat} {m : AList fun _ : κ => ρ}
    (h : ∀ e ∈ m.entries, v e.2 = w e.2) : weigh v m = weigh w m := by
  unfold weigh
  congr 1
  exact List.map_congr_left h

/-- A weight that vanishes on the entries has no sum. -/
theorem weigh_eq_zero {w : ρ → Nat} {m : AList fun _ : κ => ρ}
    (h : ∀ e ∈ m.entries, w e.2 = 0) : weigh w m = 0 :=
  List.sum_eq_zero (List.forall_mem_map.mpr h)

/-- Where one weight is nowhere above another on the entries, the sums
agree only if the weights do. -/
theorem weigh_eq_iff {v w : ρ → Nat} {m : AList fun _ : κ => ρ}
    (h : ∀ e ∈ m.entries, v e.2 ≤ w e.2) :
    weigh v m = weigh w m ↔ ∀ e ∈ m.entries, v e.2 = w e.2 := by
  refine ⟨fun hsum => ?_, weigh_congr⟩
  unfold weigh at hsum
  generalize m.entries = l at h hsum ⊢
  induction l with
  | nil => exact fun e he => absurd he List.not_mem_nil
  | cons x l ih =>
      have hx := h x List.mem_cons_self
      have hl : ∀ e ∈ l, v e.2 ≤ w e.2 :=
        fun e he => h e (List.mem_cons_of_mem _ he)
      have hle : (l.map fun e => v e.2).sum ≤ (l.map fun e => w e.2).sum :=
        List.sum_le_sum hl
      rw [List.map_cons, List.sum_cons, List.map_cons, List.sum_cons] at hsum
      intro e he
      rcases List.mem_cons.mp he with rfl | he
      · omega
      · exact ih hl (by omega) e he

/-- The sum of two weights is the weight of the sums. -/
theorem weigh_add (v w : ρ → Nat) (m : AList fun _ : κ => ρ) :
    weigh (fun r => v r + w r) m = weigh v m + weigh w m :=
  List.sum_map_add

variable [DecidableEq κ]

/-- Erasing a key takes its entry out of the sum. -/
theorem sum_kerase (w : ρ → Nat) (k : κ)
    (l : List (Sigma fun _ : κ => ρ)) :
    ((l.kerase k).map fun e => w e.2).sum + (l.dlookup k).elim 0 w
      = (l.map fun e => w e.2).sum := by
  induction l with
  | nil => rfl
  | cons x l ih =>
      by_cases hk : k = x.1
      · subst hk
        have herase : (x :: l).kerase x.1 = l := List.kerase_cons_eq rfl
        have hlookup : (x :: l).dlookup x.1 = some x.2 :=
          List.dlookup_cons_eq l x.1 x.2
        rw [herase, hlookup, List.map_cons, List.sum_cons,
          Option.elim_some]
        omega
      · have herase : (x :: l).kerase k = x :: l.kerase k :=
          List.kerase_cons_ne hk
        have hlookup : (x :: l).dlookup k = l.dlookup k :=
          List.dlookup_cons_ne l x hk
        rw [herase, hlookup, List.map_cons, List.sum_cons, List.map_cons,
          List.sum_cons]
        omega

/-- Erasing an entry takes its weight out of the sum. -/
theorem weigh_erase (w : ρ → Nat) (m : AList fun _ : κ => ρ) (k : κ) :
    weigh w (m.erase k) + (m.lookup k).elim 0 w = weigh w m :=
  sum_kerase w k m.entries

/-- Setting an entry replaces the old weight by the new one. -/
theorem weigh_insert (w : ρ → Nat) (m : AList fun _ : κ => ρ) (k : κ)
    (r : ρ) :
    weigh w (m.insert k r) + (m.lookup k).elim 0 w
      = weigh w m + w r := by
  have h : weigh w (m.insert k r) = w r + weigh w (m.erase k) := by
    simp only [weigh, AList.entries_insert, List.map_cons, List.sum_cons]
    rfl
  rw [h, ← weigh_erase w m k]
  omega

/-- A new entry adds its weight. -/
theorem weigh_insert_new (w : ρ → Nat) {m : AList fun _ : κ => ρ} {k : κ}
    (h : m.lookup k = none) (r : ρ) :
    weigh w (m.insert k r) = weigh w m + w r := by
  have hinsert := weigh_insert w m k r
  rw [h, Option.elim_none] at hinsert
  omega

/-- An entry that replaces another replaces its weight. -/
theorem weigh_insert_over (w : ρ → Nat) {m : AList fun _ : κ => ρ} {k : κ}
    {r₀ : ρ} (h : m.lookup k = some r₀) (r : ρ) :
    weigh w (m.insert k r) + w r₀ = weigh w m + w r := by
  have hinsert := weigh_insert w m k r
  rwa [h, Option.elim_some] at hinsert

-- ============================================================ counters

/-- The sum of all counters. -/
def total (m : AList fun _ : κ => Nat) : Nat :=
  weigh id m

/-- An owner's counter, zero when it has none. -/
def count (m : AList fun _ : κ => Nat) (k : κ) : Nat :=
  (m.lookup k).getD 0

/-- A missing counter weighs nothing. -/
theorem count_eq_elim (m : AList fun _ : κ => Nat) (k : κ) :
    count m k = (m.lookup k).elim 0 id := by
  unfold count
  cases m.lookup k <;> rfl

/-- Erasing an owner takes its counter out of the total. -/
theorem total_erase (m : AList fun _ : κ => Nat) (k : κ) :
    total (m.erase k) + count m k = total m := by
  rw [count_eq_elim]
  exact weigh_erase id m k

/-- Setting a counter replaces the owner's share of the total. -/
theorem total_insert (m : AList fun _ : κ => Nat) (k : κ) (n : Nat) :
    total (m.insert k n) + count m k = total m + n := by
  rw [count_eq_elim]
  exact weigh_insert id m k n

/-- A counter is part of the total. -/
theorem count_le_total (m : AList fun _ : κ => Nat) (k : κ) :
    count m k ≤ total m := by
  rw [← total_erase m k]
  exact Nat.le_add_left _ _

end Counters
