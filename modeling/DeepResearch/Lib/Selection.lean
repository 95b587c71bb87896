/-
Selecting from a list by the least key, the first of several.

What is selected depends on how the keys compare and on nothing else, so a
key may be replaced by its rank in the list, a number (`argmin_rank`).
-/
import Mathlib.Data.List.MinMax

namespace Selection

universe u v w

variable {α : Type u} {β : Type v} {γ : Type w}

/-- Keeping the better of two, all along a list, keeps one of the list. -/
theorem foldl_pick_mem (better : α → α → Bool) (first : α) (l : List α) :
    l.foldl (fun best a => if better a best then a else best) first
      ∈ first :: l := by
  induction l generalizing first with
  | nil => exact List.mem_cons_self
  | cons a l ih =>
      rw [List.foldl_cons]
      rcases List.mem_cons.mp (ih _) with heq | hmem
      · rw [heq]
        split
        · exact List.mem_cons_of_mem _ List.mem_cons_self
        · exact List.mem_cons_self
      · exact List.mem_cons_of_mem _ (List.mem_cons_of_mem _ hmem)

/-- Keys that compare alike select alike. -/
theorem argmin_congr [LinearOrder β] [LinearOrder γ] {f : α → β}
    {g : α → γ} {l : List α}
    (h : ∀ a ∈ l, ∀ b ∈ l, f a < f b ↔ g a < g b) :
    l.argmin f = l.argmin g := by
  induction l with
  | nil => rfl
  | cons a l ih =>
      have hl : l.argmin f = l.argmin g := ih fun b hb c hc =>
        h b (List.mem_cons_of_mem _ hb) c (List.mem_cons_of_mem _ hc)
      rw [List.argmin_cons, List.argmin_cons, hl]
      cases hmin : l.argmin g with
      | none => rfl
      | some b =>
          have hb : b ∈ l := List.argmin_mem hmin
          have hcompare := h b (List.mem_cons_of_mem _ hb) a
            (List.mem_cons_self ..)
          simp only [hcompare]

/-- Selecting from the values of a function. -/
theorem argmin_map [LinearOrder β] (f : γ → β) (g : α → γ) (l : List α) :
    (l.map g).argmin f = (l.argmin fun a => f (g a)).map g := by
  induction l with
  | nil => rfl
  | cons a l ih =>
      rw [List.map_cons, List.argmin_cons, List.argmin_cons, ih]
      cases l.argmin fun a => f (g a) with
      | none => rfl
      | some b =>
          show (if f (g b) < f (g a) then some (g b) else some (g a))
            = (if f (g b) < f (g a) then some b else some a).map g
          split <;> rfl

/-- A predicate that holds more often. -/
theorem countP_lt_countP {p q : α → Bool} {l : List α} {a : α}
    (hpq : ∀ b, p b = true → q b = true) (ha : a ∈ l)
    (hp : p a = false) (hq : q a = true) : l.countP p < l.countP q := by
  induction l with
  | nil => cases ha
  | cons b l ih =>
      have hle : l.countP p ≤ l.countP q :=
        List.countP_mono_left fun x _ => hpq x
      rw [List.countP_cons, List.countP_cons]
      rcases List.mem_cons.mp ha with rfl | ha
      · rw [hp, hq]
        simp only [Bool.false_eq_true, if_false, if_true]
        omega
      · have hlt := ih ha
        cases hb : p b with
        | true =>
            rw [hpq b hb]
            omega
        | false =>
            simp only [Bool.false_eq_true, if_false]
            omega

/-- The number of keys below a given one. -/
def rank [LinearOrder β] (f : α → β) (l : List α) (key : β) : Nat :=
  l.countP fun a => f a < key

theorem rank_mono [LinearOrder β] (f : α → β) (l : List α) {b c : β}
    (h : b ≤ c) : rank f l b ≤ rank f l c :=
  List.countP_mono_left fun x _ hx => by
    simp only [decide_eq_true_eq] at hx ⊢
    exact lt_of_lt_of_le hx h

/-- The ranks of the keys of a list compare like the keys. -/
theorem rank_lt_rank_iff [LinearOrder β] {f : α → β} {l : List α} {a b : α}
    (ha : a ∈ l) : rank f l (f a) < rank f l (f b) ↔ f a < f b := by
  constructor
  · intro h
    by_contra hle
    have hmono := rank_mono f l (not_lt.mp hle)
    omega
  · intro h
    refine countP_lt_countP (fun x hx => ?_) ha (by simp) (by simpa using h)
    simp only [decide_eq_true_eq] at hx ⊢
    exact lt_trans hx h

theorem argmin_rank [LinearOrder β] (f : α → β) (l : List α) :
    (l.argmin fun a => rank f l (f a)) = l.argmin f :=
  argmin_congr fun _ ha _ _ => rank_lt_rank_iff ha

end Selection
