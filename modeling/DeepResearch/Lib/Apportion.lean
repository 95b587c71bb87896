/-
Proportional shares of a pool, the last weight taking what is left.

Every weight but the last gets its exact share rounded down, so the
rounding is in favour of the last one: it never gets less than its own
exact share, and the shares add up to the pool.
-/
import Mathlib.Algebra.BigOperators.Group.List.Basic
import Mathlib.Tactic.Linarith

namespace Apportion

variable (pool total : ℤ)

/-- The shares of `pool` in proportion to weights that sum to `total`,
with `left` of it not yet given out. -/
def shares : ℤ → List ℤ → List ℤ
  | _, [] => []
  | left, [_] => [left]
  | left, weight :: next :: weights =>
      pool * weight / total
        :: shares (left - pool * weight / total) (next :: weights)

variable {pool total} {left : ℤ} {weights : List ℤ}

theorem length_shares : (shares pool total left weights).length
    = weights.length := by
  induction left, weights using shares.induct pool total with
  | case1 left => rfl
  | case2 left weight => rfl
  | case3 left weight next weights ih =>
      rw [shares, List.length_cons, ih]
      rfl

/-- Everything is given out. -/
theorem sum_shares (h : weights ≠ []) :
    (shares pool total left weights).sum = left := by
  induction left, weights using shares.induct pool total with
  | case1 left => exact absurd rfl h
  | case2 left weight => exact List.sum_singleton
  | case3 left weight next weights ih =>
      rw [shares, List.sum_cons, ih (List.cons_ne_nil _ _)]
      omega

/-- No share is negative, as long as what is left covers the exact shares
of the weights to come. -/
theorem shares_nonneg (hpool : 0 ≤ pool) (htotal : 0 < total)
    (hweights : ∀ weight ∈ weights, 0 ≤ weight)
    (hleft : pool * weights.sum ≤ left * total) :
    ∀ share ∈ shares pool total left weights, 0 ≤ share := by
  induction left, weights using shares.induct pool total with
  | case1 left => simp [shares]
  | case2 left weight =>
      intro share hshare
      rw [shares, List.mem_singleton] at hshare
      subst hshare
      rw [List.sum_singleton] at hleft
      have hexact : 0 ≤ pool * weight :=
        mul_nonneg hpool (hweights weight List.mem_cons_self)
      exact nonneg_of_mul_nonneg_left (le_trans hexact hleft) htotal
  | case3 left weight next weights ih =>
      have hweight : 0 ≤ weight := hweights weight List.mem_cons_self
      intro share hshare
      rw [shares, List.mem_cons] at hshare
      rcases hshare with rfl | hshare
      · exact Int.ediv_nonneg (mul_nonneg hpool hweight) htotal.le
      · refine ih (fun w hw => hweights w (List.mem_cons_of_mem _ hw)) ?_
          share hshare
        have hdown : pool * weight / total * total ≤ pool * weight :=
          Int.ediv_mul_le _ htotal.ne'
        rw [List.sum_cons, mul_add] at hleft
        rw [sub_mul]
        linarith

end Apportion
