/-
Tables under unique indexes, partial ones included: a relation says which
two rows may not stand together, and a table is `Apart` if no two of its
rows are so related.

A table that is updated row by row stays apart where the update makes no
new conflict, and a new row has only to be compared with the others.
-/
import Mathlib.Data.List.Pairwise

namespace UniqueIndex

universe u

variable {ρ : Type u} {Conflict : ρ → ρ → Prop} {table : List ρ}

/-- No two rows conflict. -/
def Apart (Conflict : ρ → ρ → Prop) (table : List ρ) : Prop :=
  table.Pairwise fun a b => ¬ Conflict a b

instance [∀ a b, Decidable (Conflict a b)] :
    Decidable (Apart Conflict table) :=
  inferInstanceAs (Decidable (table.Pairwise fun a b => ¬ Conflict a b))

/-- Rows that conflict are one row. -/
theorem Apart.unique (h : Apart Conflict table)
    (hsymm : ∀ {a b}, Conflict a b → Conflict b a) {a b : ρ}
    (ha : a ∈ table) (hb : b ∈ table) (hconflict : Conflict a b) : a = b := by
  have : Std.Symm fun a b => ¬ Conflict a b :=
    ⟨fun a b hab hba => hab (hsymm hba)⟩
  by_contra hne
  exact List.Pairwise.forall h ha hb hne hconflict

/-- Updated rows conflict only where the old ones did. -/
theorem Apart.map {f : ρ → ρ} (h : Apart Conflict table)
    (hold : ∀ a ∈ table, ∀ b ∈ table, Conflict (f a) (f b) → Conflict a b) :
    Apart Conflict (table.map f) := by
  refine List.pairwise_map.mpr (h.imp_of_mem ?_)
  intro a b ha hb hab hconflict
  exact hab (hold a ha b hb hconflict)

/-- Rows are appended. -/
theorem apart_append {news : List ρ} :
    Apart Conflict (table ++ news)
      ↔ Apart Conflict table ∧ Apart Conflict news
        ∧ ∀ a ∈ table, ∀ b ∈ news, ¬ Conflict a b :=
  List.pairwise_append

theorem apart_singleton (new : ρ) : Apart Conflict [new] :=
  List.pairwise_singleton _ new

theorem apart_nil : Apart Conflict ([] : List ρ) :=
  List.Pairwise.nil

end UniqueIndex
