/-
Journals: a state with a version, the entries that change it, and the
list of the entries that did.

An entry names the version it was made for and is applied to a state of
that version only, which it makes the next one. Then the entries of a
journal name the versions one after the other, and every state on the way
is found again by applying the entries up to it (`replay_take`).
-/
import Mathlib.Data.List.Range

universe u v

/-- How entries change a state. -/
structure Journal (σ : Type u) (π : Type v) where
  apply : σ → π → Option σ
  version : σ → Nat
  base : π → Nat
  base_eq : ∀ {s p s'}, apply s p = some s' → base p = version s
  version_eq : ∀ {s p s'}, apply s p = some s' → version s' = version s + 1

namespace Journal

variable {σ : Type u} {π : Type v} (J : Journal σ π)

/-- The entries are applied, the first one first. -/
def replay : σ → List π → Option σ
  | s, [] => some s
  | s, p :: ps => (J.apply s p).bind fun s' => replay s' ps

variable {J} {s t w : σ} {ps qs : List π}

theorem replay_append (s : σ) (ps qs : List π) :
    J.replay s (ps ++ qs) = (J.replay s ps).bind (J.replay · qs) := by
  induction ps generalizing s with
  | nil => rfl
  | cons p ps ih =>
      show (J.apply s p).bind (J.replay · (ps ++ qs))
        = ((J.apply s p).bind (J.replay · ps)).bind (J.replay · qs)
      cases J.apply s p with
      | none => rfl
      | some s' => exact ih s'

/-- One more entry. -/
theorem replay_concat {p : π} (h : J.replay s ps = some t)
    (hp : J.apply t p = some w) : J.replay s (ps ++ [p]) = some w := by
  rw [replay_append, h, Option.bind_some]
  show (J.apply t p).bind (J.replay · []) = some w
  rw [hp]
  rfl

/-- Each entry makes one version. -/
theorem version_replay (h : J.replay s ps = some t) :
    J.version t = J.version s + ps.length := by
  induction ps generalizing s with
  | nil =>
      cases h
      rfl
  | cons p ps ih =>
      obtain ⟨s', hp, hps⟩ := Option.bind_eq_some_iff.mp h
      rw [ih hps, J.version_eq hp, List.length_cons]
      omega

/-- The entries name the versions in their order. -/
theorem base_replay (h : J.replay s ps = some t) :
    ps.map J.base = List.range' (J.version s) ps.length := by
  induction ps generalizing s with
  | nil => rfl
  | cons p ps ih =>
      obtain ⟨s', hp, hps⟩ := Option.bind_eq_some_iff.mp h
      rw [List.map_cons, ih hps, J.base_eq hp, J.version_eq hp,
        List.length_cons, List.range'_succ]

/-- The state after some of the entries, from which the others go on. -/
theorem replay_take (h : J.replay s ps = some t) (n : Nat) :
    ∃ w, J.replay s (ps.take n) = some w
      ∧ J.replay w (ps.drop n) = some t := by
  rw [← List.take_append_drop n ps, replay_append] at h
  exact Option.bind_eq_some_iff.mp h

/-- What every entry keeps, a journal keeps. -/
theorem replay_invariant {Inv : σ → Prop}
    (hstep : ∀ p ∈ ps, ∀ s s', Inv s → J.apply s p = some s' → Inv s')
    (hs : Inv s) (h : J.replay s ps = some t) : Inv t := by
  induction ps generalizing s with
  | nil =>
      cases h
      exact hs
  | cons p ps ih =>
      obtain ⟨s', hp, hps⟩ := Option.bind_eq_some_iff.mp h
      exact ih (fun q hq => hstep q (List.mem_cons_of_mem p hq))
        (hstep p List.mem_cons_self s s' hs hp) hps

end Journal
