/-
Infinite runs, and why they end.

`System.after` is the state a stream of actions has led to. A run ends
when it reaches a state that counts as ended and stays so. The engine is
`ends_of_descends`: as long as the run has not ended, every guarded step
goes down a well-founded relation, so a run whose steps are guarded from
some point on cannot go on for ever. Where an ended state satisfies every
guard, that is an equivalence: `ends_iff_eventually_guarded`.
-/
import Mathlib.Order.WellFounded
import DeepResearch.Lib.Transition

namespace Transition

universe u v w

variable {σ : Type u} {α : Type v} {β : Type w} {S : System σ α}

/-- The state after the first actions of a stream. -/
def System.after (S : System σ α) (s : σ) (as : ℕ → α) : ℕ → σ
  | 0 => s
  | n + 1 => S.step (S.after s as n) (as n)

/-- The invariant rule for infinite runs. -/
theorem System.after_invariant {Inv : σ → Prop}
    (hstep : ∀ s a, Inv s → Inv (S.step s a)) {s : σ} (hs : Inv s)
    (as : ℕ → α) (n : ℕ) : Inv (S.after s as n) := by
  induction n with
  | zero => exact hs
  | succ n ih => exact hstep _ _ ih

/-- What a step cannot undo holds from then on. -/
theorem System.after_stays {P : σ → Prop}
    (hstep : ∀ s a, P s → P (S.step s a)) {s : σ} {as : ℕ → α} {n k : ℕ}
    (hn : P (S.after s as n)) (hle : n ≤ k) : P (S.after s as k) := by
  induction k, hle using Nat.le_induction with
  | base => exact hn
  | succ k _ ih => exact hstep _ _ ih

section

variable {r : β → β → Prop} {measure : σ → β} {Inv Ended : σ → Prop}
  {G : σ → α → Prop}

/-- A run whose steps are guarded from some point on ends, when every
guarded step that does not end it goes down. -/
theorem ends_of_descends (hwf : WellFounded r)
    (hinv : ∀ s a, Inv s → Inv (S.step s a))
    (hdescends : ∀ s a, Inv s → G s a → ¬ Ended (S.step s a) →
      r (measure (S.step s a)) (measure s)) {s : σ} (hs : Inv s)
    {as : ℕ → α} {n : ℕ} (hguarded : ∀ k ≥ n, G (S.after s as k) (as k)) :
    ∃ k, Ended (S.after s as k) := by
  by_contra hcon
  rw [not_exists] at hcon
  have hdown : ∀ k ≥ n, r (measure (S.after s as (k + 1)))
      (measure (S.after s as k)) := fun k hk =>
    hdescends _ _ (S.after_invariant hinv hs as k) (hguarded k hk)
      (hcon (k + 1))
  -- The least measure reached from there on is left by the next step.
  obtain ⟨_, ⟨k, rfl⟩, hmin⟩ := hwf.has_min
    (Set.range fun k => measure (S.after s as (n + k))) ⟨_, 0, rfl⟩
  exact hmin _ ⟨k + 1, rfl⟩ (hdown (n + k) (Nat.le_add_right n k))

/-- Exactly the runs end whose steps are guarded from some point on. -/
theorem ends_iff_eventually_guarded (hwf : WellFounded r)
    (hinv : ∀ s a, Inv s → Inv (S.step s a))
    (hdescends : ∀ s a, Inv s → G s a → ¬ Ended (S.step s a) →
      r (measure (S.step s a)) (measure s))
    (hstays : ∀ s a, Ended s → Ended (S.step s a))
    (hfree : ∀ s a, Ended s → G s a) {s : σ} (hs : Inv s)
    (as : ℕ → α) :
    (∃ k, Ended (S.after s as k))
      ↔ ∃ n, ∀ k ≥ n, G (S.after s as k) (as k) := by
  constructor
  · rintro ⟨n, hn⟩
    exact ⟨n, fun k hk => hfree _ _ (System.after_stays hstays hn hk)⟩
  · rintro ⟨n, hguarded⟩
    exact ends_of_descends hwf hinv hdescends hs hguarded

end

-- ================================================================ measures

/-- The count of what is left falls when one of it is done. -/
theorem countP_lt_of_mem {p q : α → Bool} {l : List α} {x : α}
    (himp : ∀ y ∈ l, p y = true → q y = true) (hx : x ∈ l)
    (hq : q x = true) (hp : p x = false) : l.countP p < l.countP q := by
  induction l with
  | nil => cases hx
  | cons y ys ih =>
      have htail : ∀ z ∈ ys, p z = true → q z = true := fun z hz =>
        himp z (List.mem_cons_of_mem y hz)
      rw [List.countP_cons, List.countP_cons]
      rcases List.mem_cons.mp hx with rfl | hmem
      · have hle := List.countP_mono_left htail
        rw [hp, hq]
        simp only [Bool.false_eq_true, if_false, if_true]
        omega
      · have hlt := ih htail hmem
        have hhead := himp y List.mem_cons_self
        by_cases hpy : p y = true
        · rw [if_pos hpy, if_pos (hhead hpy)]
          omega
        · rw [if_neg hpy]
          omega

end Transition
