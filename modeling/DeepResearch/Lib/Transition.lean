/-
Deterministic transition systems: reachable states, invariants over
every reachable state, and properties of whole runs.

# The shape of a system

`step` is total: an action that is refused in a state leaves the state
as it is. A run is then nothing but a starting state and a list of
actions, and every question about "any interleaving" is a question
about every list of actions.

# The rules

- `Reachable.invariant` is the invariant rule: holds initially, kept by
  each step, so it holds in every reachable state.
- `throughout_iff_along` characterises the runs on which a property
  never breaks: when a guard on the steps is enough to keep an
  invariant, and every unguarded step breaks the property, the runs
  that keep the property are exactly the runs whose steps are guarded.
- `ordered_iff_along` does the same for a preorder on states: later
  states are above earlier ones exactly when every step goes up.
-/
import Mathlib.Logic.Basic

namespace Transition

universe u v w

/-- A deterministic system over states `σ` and actions `α`. -/
structure System (σ : Type u) (α : Type v) where
  init : σ → Prop
  step : σ → α → σ

variable {σ : Type u} {α : Type v} {S : System σ α}

-- ======================================================= reachable states

/-- The states some run reaches. -/
inductive Reachable (S : System σ α) : σ → Prop
  | init {s : σ} (h : S.init s) : Reachable S s
  | step {s : σ} (a : α) (h : Reachable S s) : Reachable S (S.step s a)

/-- The invariant rule. -/
theorem Reachable.invariant {Inv : σ → Prop}
    (hinit : ∀ s, S.init s → Inv s)
    (hstep : ∀ s a, Inv s → Inv (S.step s a)) {s : σ}
    (h : Reachable S s) : Inv s := by
  induction h with
  | init h0 => exact hinit _ h0
  | step a _ ih => exact hstep _ a ih

-- ================================================================== runs

/-- The state a list of actions leads to. -/
def System.exec (S : System σ α) : σ → List α → σ
  | s, [] => s
  | s, a :: as => S.exec (S.step s a) as

@[simp] theorem System.exec_nil (s : σ) : S.exec s [] = s := rfl

@[simp] theorem System.exec_cons (s : σ) (a : α) (as : List α) :
    S.exec s (a :: as) = S.exec (S.step s a) as := rfl

/-- Runs compose. -/
theorem System.exec_append (s : σ) (as bs : List α) :
    S.exec s (as ++ bs) = S.exec (S.exec s as) bs := by
  induction as generalizing s with
  | nil => rfl
  | cons a as ih => exact ih (S.step s a)

/-- A run from a reachable state ends in one. -/
theorem Reachable.exec {s : σ} (h : Reachable S s) (as : List α) :
    Reachable S (S.exec s as) := by
  induction as generalizing s with
  | nil => exact h
  | cons a as ih => exact ih (Reachable.step a h)

-- ===================================================== properties of runs

/-- `Q` holds in every state of the run, the first and the last one
included. -/
def System.Throughout (S : System σ α) (Q : σ → Prop) :
    σ → List α → Prop
  | s, [] => Q s
  | s, a :: as => Q s ∧ S.Throughout Q (S.step s a) as

/-- Every step of the run is taken from a state where the guard `G`
allows it. -/
def System.Along (S : System σ α) (G : σ → α → Prop) :
    σ → List α → Prop
  | _, [] => True
  | s, a :: as => G s a ∧ S.Along G (S.step s a) as

instance System.decidableThroughout (Q : σ → Prop) [DecidablePred Q] :
    ∀ (s : σ) (as : List α), Decidable (S.Throughout Q s as)
  | s, [] => inferInstanceAs (Decidable (Q s))
  | s, a :: as =>
      haveI := System.decidableThroughout Q (S.step s a) as
      inferInstanceAs (Decidable (Q s ∧ S.Throughout Q (S.step s a) as))

instance System.decidableAlong (G : σ → α → Prop)
    [∀ s a, Decidable (G s a)] :
    ∀ (s : σ) (as : List α), Decidable (S.Along G s as)
  | _, [] => inferInstanceAs (Decidable True)
  | s, a :: as =>
      haveI := System.decidableAlong G (S.step s a) as
      inferInstanceAs (Decidable (G s a ∧ S.Along G (S.step s a) as))

/-- A property of every state of a run holds in its first state. -/
theorem System.Throughout.head {Q : σ → Prop} {s : σ} {as : List α}
    (h : S.Throughout Q s as) : Q s := by
  cases as with
  | nil => exact h
  | cons a as => exact h.1

/-- A weaker property holds throughout as well. -/
theorem System.Throughout.mono {P Q : σ → Prop} (hPQ : ∀ s, P s → Q s)
    {s : σ} {as : List α} (h : S.Throughout P s as) :
    S.Throughout Q s as := by
  induction as generalizing s with
  | nil => exact hPQ s h
  | cons a as ih => exact ⟨hPQ s h.1, ih h.2⟩

/-- A property that holds throughout holds after every prefix. -/
theorem System.Throughout.after_run {Q : σ → Prop} {s : σ}
    {as bs : List α} (h : S.Throughout Q s (as ++ bs)) :
    Q (S.exec s as) := by
  induction as generalizing s with
  | nil => exact h.head
  | cons a as ih => exact ih h.2

/-- A guard that keeps the invariant keeps it along the whole run. -/
theorem System.Along.throughout {G : σ → α → Prop} {Inv : σ → Prop}
    (hstep : ∀ s a, Inv s → G s a → Inv (S.step s a)) {s : σ}
    {as : List α} (hs : Inv s) (h : S.Along G s as) :
    S.Throughout Inv s as := by
  induction as generalizing s with
  | nil => exact hs
  | cons a as ih => exact ⟨hs, ih (hstep s a hs h.1) h.2⟩

/-- What every guarded step from an invariant state satisfies, the steps
of a guarded run that keeps the invariant satisfy. -/
theorem System.Along.along_of_throughout {G H : σ → α → Prop}
    {Inv : σ → Prop} {s : σ} {as : List α} (h : S.Along G s as)
    (hinv : S.Throughout Inv s as)
    (hstep : ∀ s a, Inv s → G s a → H s a) : S.Along H s as := by
  induction as generalizing s with
  | nil => trivial
  | cons a as ih => exact ⟨hstep s a hinv.1 h.1, ih h.2 hinv.2⟩

/-- Guards that say the same of every step say the same of every run. -/
theorem System.along_congr {G H : σ → α → Prop}
    (h : ∀ s a, G s a ↔ H s a) (s : σ) (as : List α) :
    S.Along G s as ↔ S.Along H s as := by
  induction as generalizing s with
  | nil => exact Iff.rfl
  | cons a as ih => exact and_congr (h s a) (ih (S.step s a))

/-- A guard that looks at the action alone guards every action of the
run. -/
theorem System.along_forall {G : α → Prop} (s : σ) (as : List α) :
    S.Along (fun _ a => G a) s as ↔ ∀ a ∈ as, G a := by
  induction as generalizing s with
  | nil => simp [System.Along]
  | cons a as ih => rw [System.Along, ih, List.forall_mem_cons]

/-- A preorder relates every two states of a run, the earlier to the
later, exactly when every step stays in it. -/
theorem ordered_iff_along {R : σ → σ → Prop} (hrefl : ∀ s, R s s)
    (htrans : ∀ s t u, R s t → R t u → R s u) (s : σ) (as : List α) :
    (∀ xs ys zs, as = xs ++ (ys ++ zs) →
        R (S.exec s xs) (S.exec s (xs ++ ys)))
      ↔ S.Along (fun t a => R t (S.step t a)) s as := by
  constructor
  · intro h
    induction as generalizing s with
    | nil => trivial
    | cons a as ih =>
        refine ⟨h [] [a] as rfl, ih (S.step s a) ?_⟩
        intro xs ys zs heq
        exact h (a :: xs) ys zs (congrArg (a :: ·) heq)
  · intro h xs ys zs heq
    subst heq
    rw [System.exec_append]
    induction xs generalizing s with
    | nil =>
        simp only [List.nil_append, System.exec_nil] at h ⊢
        induction ys generalizing s with
        | nil => exact hrefl s
        | cons a ys ih => exact htrans _ _ _ h.1 (ih (S.step s a) h.2)
    | cons a xs ih => exact ih (S.step s a) h.2

/-- The runs that keep `Q` are exactly the guarded ones, when the guard
keeps an invariant that gives `Q` and an unguarded step out of the
invariant breaks `Q` at once. -/
theorem throughout_iff_along {G : σ → α → Prop} {Inv Q : σ → Prop}
    (hQ : ∀ s, Inv s → Q s)
    (hkeep : ∀ s a, Inv s → G s a → Inv (S.step s a))
    (hbreak : ∀ s a, Inv s → ¬ G s a → ¬ Q (S.step s a)) {s : σ}
    (hs : Inv s) (as : List α) :
    S.Throughout Q s as ↔ S.Along G s as := by
  refine ⟨fun h => ?_, fun h => (h.throughout hkeep hs).mono hQ⟩
  induction as generalizing s with
  | nil => trivial
  | cons a as ih =>
      have hG : G s a := Classical.byContradiction fun hn =>
        hbreak s a hs hn h.2.head
      exact ⟨hG, ih (hkeep s a hs hG) h.2⟩

end Transition
