/-
Results that may be errors: when a guarded or a traversing computation
in `Except` returns, and what it then has returned.
-/
import Mathlib.Data.List.Forall2
import Mathlib.Logic.Basic

namespace Outcome

variable {ε α β γ : Type}

/-- An error is no result. -/
theorem error_ne_ok (e : ε) (a : α) : (.error e : Except ε α) ≠ .ok a :=
  nofun

/-- A guarded result is refused exactly when its guard fails. -/
theorem guard_refused_iff {c : Prop} [Decidable c] {a : α} {e : ε} :
    (∀ b, (if c then .ok a else .error e : Except ε α) ≠ .ok b) ↔ ¬ c := by
  split
  case isTrue hc => exact ⟨fun h => absurd rfl (h a), fun h => absurd hc h⟩
  case isFalse hc => exact ⟨fun _ => hc, fun _ => error_ne_ok e⟩

/-- A check in a row of them is passed by failing its condition. -/
theorem check_ok_iff {c : Prop} [Decidable c] {e : ε} {next : Except ε α}
    {a : α} :
    (if c then .error e else next) = .ok a ↔ ¬ c ∧ next = .ok a := by
  split
  case isTrue hc => exact ⟨fun h => (nomatch h), fun h => absurd hc h.1⟩
  case isFalse hc => exact ⟨fun h => ⟨hc, h⟩, fun h => h.2⟩

/-- A traversal returns exactly when every element does. -/
theorem mapM_ok_iff (f : α → Except ε β) (l : List α) :
    (∃ bs, l.mapM f = .ok bs) ↔ ∀ a ∈ l, ∃ b, f a = .ok b := by
  induction l with
  | nil => exact ⟨fun _ => nofun, fun _ => ⟨[], rfl⟩⟩
  | cons a l ih =>
      rw [List.mapM_cons, List.forall_mem_cons, ← ih]
      cases hfa : f a with
      | error e => exact ⟨fun h => (nomatch h), fun h => (nomatch h.1)⟩
      | ok b =>
          cases hl : l.mapM f with
          | error e => exact ⟨fun h => (nomatch h), fun h => (nomatch h.2)⟩
          | ok bs => exact ⟨fun _ => ⟨⟨b, rfl⟩, bs, rfl⟩, fun _ => ⟨_, rfl⟩⟩

/-- A traversal whose every element returns is a map. -/
theorem mapM_eq_ok {f : α → Except ε β} {g : α → β} {l : List α}
    (h : ∀ a ∈ l, f a = .ok (g a)) : l.mapM f = .ok (l.map g) := by
  induction l with
  | nil => rfl
  | cons a l ih =>
      rw [List.mapM_cons, h a (List.mem_cons_self ..),
        ih fun b hb => h b (List.mem_cons_of_mem _ hb)]
      rfl

/-- Every result of a traversal is the result of an element. -/
theorem mem_mapM_ok {f : α → Except ε β} {l : List α} {bs : List β}
    (h : l.mapM f = .ok bs) : ∀ b ∈ bs, ∃ a ∈ l, f a = .ok b := by
  induction l generalizing bs with
  | nil =>
      injection h with h
      subst h
      exact nofun
  | cons a l ih =>
      rw [List.mapM_cons] at h
      cases hfa : f a with
      | error e =>
          rw [hfa] at h
          cases h
      | ok b =>
          cases hl : l.mapM f with
          | error e =>
              rw [hfa, hl] at h
              cases h
          | ok bs' =>
              rw [hfa, hl] at h
              injection h with h
              subst h
              intro c hc
              rcases List.mem_cons.mp hc with rfl | hc
              · exact ⟨a, List.mem_cons_self .., hfa⟩
              · obtain ⟨a', ha', hfa'⟩ := ih hl c hc
                exact ⟨a', List.mem_cons_of_mem _ ha', hfa'⟩

/-- What a traversal keeps of its results is there for the elements that
are kept, in their order. -/
theorem forall₂_filter_of_mapM {f : α → Except ε β} {g : β → Option γ}
    {p : α → Bool} {R : α → γ → Prop}
    (hkept : ∀ a b, p a = true → f a = .ok b → ∃ c, g b = some c ∧ R a c)
    (hdropped : ∀ a b, p a = false → f a = .ok b → g b = none)
    {l : List α} {bs : List β} (h : l.mapM f = .ok bs) :
    List.Forall₂ R (l.filter p) (bs.filterMap g) := by
  induction l generalizing bs with
  | nil =>
      injection h with h
      subst h
      exact .nil
  | cons a l ih =>
      rw [List.mapM_cons] at h
      cases hfa : f a with
      | error e =>
          rw [hfa] at h
          cases h
      | ok b =>
          cases hl : l.mapM f with
          | error e =>
              rw [hfa, hl] at h
              cases h
          | ok bs' =>
              rw [hfa, hl] at h
              injection h with h
              subst h
              cases hp : p a with
              | false =>
                  rw [List.filter_cons_of_neg (by simp [hp])]
                  show List.Forall₂ R _ ((b :: bs').filterMap g)
                  rw [List.filterMap_cons_none (hdropped a b hp hfa)]
                  exact ih hl
              | true =>
                  obtain ⟨c, hc, hR⟩ := hkept a b hp hfa
                  rw [List.filter_cons_of_pos hp]
                  show List.Forall₂ R _ ((b :: bs').filterMap g)
                  rw [List.filterMap_cons_some hc]
                  exact .cons hR (ih hl)

/-- What stands in the second of two related lists is related to
something in the first. -/
theorem exists_of_mem_forall₂ {R : α → β → Prop} {l : List α}
    {bs : List β} (h : List.Forall₂ R l bs) {b : β} (hb : b ∈ bs) :
    ∃ a ∈ l, R a b := by
  induction h with
  | nil => cases hb
  | @cons a c _ _ hR _ ih =>
      rcases List.mem_cons.mp hb with rfl | hb
      · exact ⟨a, List.mem_cons_self .., hR⟩
      · obtain ⟨a', ha', hR'⟩ := ih hb
        exact ⟨a', List.mem_cons_of_mem _ ha', hR'⟩

/-- Related lists have the same keys, in the same order. -/
theorem map_eq_of_forall₂ {R : α → β → Prop} {f : α → γ} {g : β → γ}
    {l : List α} {bs : List β} (h : List.Forall₂ R l bs)
    (hkey : ∀ a b, R a b → g b = f a) : bs.map g = l.map f := by
  induction h with
  | nil => rfl
  | cons hab _ ih => rw [List.map_cons, List.map_cons, ih, hkey _ _ hab]

/-- A traversal whose results are changed one by one. -/
theorem mapM_map (f : α → Except ε β) (g : β → γ) (l : List α) :
    l.mapM (fun a => (f a).map g) = (l.mapM f).map (List.map g) := by
  induction l with
  | nil => rfl
  | cons a l ih =>
      rw [List.mapM_cons, List.mapM_cons, ih]
      cases f a with
      | error e => rfl
      | ok b =>
          cases l.mapM f with
          | error e => rfl
          | ok bs => rfl

/-- A step of a chain that answers hands its answer on. -/
theorem run_bind_some {x : Except ε (Option α)} {a : α}
    (h : x = .ok (some a)) (f : α → OptionT (Except ε) β) :
    (OptionT.mk x >>= f).run = (f a).run := by
  rw [h]
  rfl

/-- A step that has no answer ends the chain. -/
theorem run_bind_none {x : Except ε (Option α)} (h : x = .ok none)
    (f : α → OptionT (Except ε) β) :
    (OptionT.mk x >>= f).run = .ok none := by
  rw [h]
  rfl

/-- What a sequence needs to succeed. -/
theorem bind_ok_iff {x : Except ε α} {f : α → Except ε β}
    {b : β} : (x >>= f) = .ok b ↔ ∃ a, x = .ok a ∧ f a = .ok b := by
  cases x with
  | error e => exact ⟨nofun, fun ⟨_, h, _⟩ => nomatch h⟩
  | ok a => exact ⟨fun h => ⟨a, rfl, h⟩, fun ⟨_, h, hf⟩ => by cases h; exact hf⟩

theorem map_ok_iff {x : Except ε α} {f : α → β} {b : β} :
    f <$> x = .ok b ↔ ∃ a, x = .ok a ∧ f a = b := by
  cases x with
  | error e => exact ⟨nofun, fun ⟨_, h, _⟩ => nomatch h⟩
  | ok a =>
      exact ⟨fun h => ⟨a, rfl, Except.ok.inj h⟩,
        fun ⟨_, h, hf⟩ => by cases h; exact congrArg Except.ok hf⟩

-- ================================================================== options

/-- An optional traversal pairs the elements with their results. -/
theorem mapM_some_iff {f : α → Option β} {l : List α} {bs : List β} :
    l.mapM f = some bs ↔ List.Forall₂ (fun a b => f a = some b) l bs := by
  induction l generalizing bs with
  | nil =>
      rw [List.mapM_nil, List.forall₂_nil_left_iff]
      exact ⟨fun h => (Option.some.inj h).symm, fun h => congrArg some h.symm⟩
  | cons a l ih =>
      rw [List.mapM_cons]
      constructor
      · intro h
        obtain ⟨b, hb, h⟩ := Option.bind_eq_some_iff.mp h
        obtain ⟨bs', hbs', h⟩ := Option.bind_eq_some_iff.mp h
        cases h
        exact .cons hb (ih.mp hbs')
      · intro h
        cases h with
        | cons hb hbs =>
            rw [hb, ih.mpr hbs]
            rfl

/-- What it returns are the results of the elements. -/
theorem mem_iff_of_forall₂ {f : α → Option β} {l : List α} {bs : List β}
    (h : List.Forall₂ (fun a b => f a = some b) l bs) {b : β} :
    b ∈ bs ↔ ∃ a ∈ l, f a = some b := by
  constructor
  · exact exists_of_mem_forall₂ h
  · intro ⟨a, ha, hb⟩
    have hflip : List.Forall₂ (fun b a => f a = some b) bs l := h.flip
    obtain ⟨b', hb', hab⟩ := exists_of_mem_forall₂ hflip ha
    rw [hb] at hab
    cases hab
    exact hb'

/-- It returns exactly when every element does. -/
theorem exists_mapM_some {f : α → Option β} {l : List α} :
    (∃ bs, l.mapM f = some bs) ↔ ∀ a ∈ l, ∃ b, f a = some b := by
  constructor
  · intro ⟨bs, h⟩ a ha
    have hflip : List.Forall₂ (fun b a => f a = some b) bs l :=
      (mapM_some_iff.mp h).flip
    obtain ⟨b, -, hb⟩ := exists_of_mem_forall₂ hflip ha
    exact ⟨b, hb⟩
  · intro h
    induction l with
    | nil => exact ⟨[], rfl⟩
    | cons a l ih =>
        obtain ⟨b, hb⟩ := h a List.mem_cons_self
        obtain ⟨bs, hbs⟩ := ih fun c hc => h c (List.mem_cons_of_mem a hc)
        exact ⟨b :: bs, mapM_some_iff.mpr (.cons hb (mapM_some_iff.mp hbs))⟩

end Outcome
