/-
Tables as lists of rows under a key: lookup, upsert, and the pairs of
rows of a table.

# Lookups instead of lists

Two tables that list their rows in different orders answer every lookup
alike, so a statement about what a table says is a statement about
`lookup`. Each operation has one lemma that gives its lookups:
`lookup_upsertAll` for a batch of upserts under distinct keys
(`lookup_upsertAll_of_some` for one whose keys may repeat),
`lookup_filter` for a deletion by key, `lookup_map` for an update in
place (`lookup_forall₂` for any update row by row).

# Pairs

`combinations` lists every two rows once, the earlier one first. In a
strictly ordered table membership is the order (`mem_combinations`).
-/
import Mathlib.Data.List.Forall2
import Mathlib.Data.List.Nodup
import Mathlib.Order.Basic
import Mathlib.Tactic.Tauto

namespace Table

universe u v

-- ================================================================ lookups

section

variable {ρ : Type u} {κ : Type v} [DecidableEq κ] (key : ρ → κ)

/-- The row stored under a key. -/
def lookup (k : κ) (table : List ρ) : Option ρ :=
  table.find? fun r => key r = k

variable {key} {k : κ} {r : ρ} {table : List ρ}

@[simp] theorem lookup_nil : lookup key k [] = none := rfl

theorem lookup_cons_of_eq (h : key r = k) :
    lookup key k (r :: table) = some r :=
  List.find?_cons_of_pos (decide_eq_true h)

theorem lookup_cons_of_ne (h : key r ≠ k) :
    lookup key k (r :: table) = lookup key k table :=
  List.find?_cons_of_neg (by simpa using h)

theorem mem_of_lookup (h : lookup key k table = some r) :
    r ∈ table ∧ key r = k :=
  ⟨List.mem_of_find?_eq_some h, by simpa using List.find?_some h⟩

theorem lookup_eq_none_iff :
    lookup key k table = none ↔ ∀ r ∈ table, key r ≠ k := by
  simp [lookup]

theorem lookup_isSome_iff :
    (lookup key k table).isSome ↔ ∃ r ∈ table, key r = k := by
  simp [lookup]

/-- Under distinct keys a lookup finds every row. -/
theorem lookup_of_mem (hnodup : (table.map key).Nodup) (h : r ∈ table) :
    lookup key (key r) table = some r := by
  induction table with
  | nil => cases h
  | cons x table ih =>
      rw [List.map_cons, List.nodup_cons] at hnodup
      rcases List.mem_cons.mp h with rfl | h
      · exact lookup_cons_of_eq rfl
      · have hne : key x ≠ key r := fun heq =>
          hnodup.1 (heq ▸ List.mem_map_of_mem h)
        rw [lookup_cons_of_ne hne]
        exact ih hnodup.2 h

omit [DecidableEq κ] in
/-- Under distinct keys a row's key tells whether the row was kept. -/
theorem key_mem_filter_iff (hnodup : (table.map key).Nodup)
    (h : r ∈ table) (p : ρ → Bool) :
    key r ∈ (table.filter p).map key ↔ p r = true := by
  constructor
  · intro hmem
    obtain ⟨r', hr', heq⟩ := List.mem_map.mp hmem
    obtain ⟨hr', hp⟩ := List.mem_filter.mp hr'
    rwa [List.inj_on_of_nodup_map hnodup hr' h heq] at hp
  · intro hp
    exact List.mem_map_of_mem (List.mem_filter.mpr ⟨h, hp⟩)

/-- The lookups after the rows with some keys are deleted. -/
theorem lookup_filter (p : κ → Bool) (table : List ρ) :
    lookup key k (table.filter fun r => p (key r))
      = if p k then lookup key k table else none := by
  induction table with
  | nil => simp
  | cons x table ih =>
      by_cases hx : key x = k
      · by_cases hp : p k = true
        · rw [List.filter_cons_of_pos (by rw [hx]; exact hp),
            lookup_cons_of_eq hx, lookup_cons_of_eq hx, if_pos hp]
        · rw [List.filter_cons_of_neg (by rw [hx]; exact hp), ih,
            if_neg hp, if_neg hp]
      · rw [lookup_cons_of_ne hx, ← ih, List.filter_cons]
        split
        · exact lookup_cons_of_ne hx
        · rfl

/-- The lookups after every row is updated in place. -/
theorem lookup_map {f : ρ → ρ} (hf : ∀ r, key (f r) = key r)
    (table : List ρ) :
    lookup key k (table.map f) = (lookup key k table).map f := by
  induction table with
  | nil => rfl
  | cons x table ih =>
      rw [List.map_cons]
      by_cases hx : key x = k
      · rw [lookup_cons_of_eq hx, lookup_cons_of_eq ((hf x).trans hx)]
        rfl
      · rw [lookup_cons_of_ne hx,
          lookup_cons_of_ne fun h => hx ((hf x).symm.trans h), ih]

/-- Rows that are related one by one, under their keys, are found
related. -/
theorem lookup_forall₂ {R : ρ → ρ → Prop}
    (hkey : ∀ r r', R r r' → key r' = key r) {table table' : List ρ}
    (h : List.Forall₂ R table table') :
    Option.Rel R (lookup key k table) (lookup key k table') := by
  induction h with
  | nil => exact .none
  | @cons r r' _ _ hrel _ ih =>
      by_cases hk : key r = k
      · rw [lookup_cons_of_eq hk,
          lookup_cons_of_eq ((hkey r r' hrel).trans hk)]
        exact .some hrel
      · rw [lookup_cons_of_ne hk,
          lookup_cons_of_ne fun h => hk ((hkey r r' hrel).symm.trans h)]
        exact ih

-- ================================================================ upserts

/-- A new row goes to the end of the table, unless its key is taken: then
it is merged into the row that is there. -/
def upsert (key : ρ → κ) (merge : ρ → ρ → ρ) (table : List ρ) (new : ρ) :
    List ρ :=
  if (lookup key (key new) table).isSome then
    table.map fun r => if key r = key new then merge new r else r
  else table ++ [new]

/-- One upsert after the other. -/
def upsertAll (key : ρ → κ) (merge : ρ → ρ → ρ) (table news : List ρ) :
    List ρ :=
  news.foldl (upsert key merge) table

variable {merge : ρ → ρ → ρ}

/-- A loop that upserts at most one row for every value. -/
theorem foldl_upsert {σ α : Type*} {rows : σ → List ρ} {step : σ → α → σ}
    {f : α → Option ρ}
    (hstep : ∀ s a, rows (step s a)
      = upsertAll key merge (rows s) (f a).toList) (l : List α) (s : σ) :
    rows (l.foldl step s) = upsertAll key merge (rows s) (l.filterMap f) := by
  induction l generalizing s with
  | nil => rfl
  | cons a l ih =>
      rw [List.foldl_cons, ih, hstep]
      cases hfa : f a with
      | none =>
          rw [List.filterMap_cons_none hfa]
          rfl
      | some r =>
          rw [List.filterMap_cons_some hfa]
          rfl

theorem mem_upsert {new : ρ} (h : r ∈ upsert key merge table new) :
    r = new ∨ ∃ old ∈ table, r = old ∨ r = merge new old := by
  unfold upsert at h
  split at h
  · obtain ⟨old, hold, rfl⟩ := List.mem_map.mp h
    refine .inr ⟨old, hold, ?_⟩
    split
    · exact .inr rfl
    · exact .inl rfl
  · rcases List.mem_append.mp h with h | h
    · exact .inr ⟨r, h, .inl rfl⟩
    · exact .inl (List.mem_singleton.mp h)

theorem lookup_upsert
    (hmerge : ∀ new r, key r = key new → key (merge new r) = key r)
    (new : ρ) (table : List ρ) :
    lookup key k (upsert key merge table new)
      = if key new = k then
          some ((lookup key k table).elim new (merge new))
        else lookup key k table := by
  have hstep : ∀ r, key (if key r = key new then merge new r else r)
      = key r := by
    intro r
    split
    case isTrue heq => exact hmerge new r heq
    case isFalse => rfl
  unfold upsert
  by_cases hk : key new = k
  · subst hk
    rw [if_pos rfl]
    cases hold : lookup key (key new) table with
    | none =>
        rw [if_neg (by simp), lookup, List.find?_append]
        have hold' : table.find? (fun r => key r = key new) = none := hold
        rw [hold']
        exact lookup_cons_of_eq rfl
    | some r =>
        rw [if_pos Option.isSome_some, lookup_map hstep, hold,
          Option.map_some, if_pos (mem_of_lookup hold).2]
        rfl
  · rw [if_neg hk]
    split
    · rw [lookup_map hstep]
      cases hold : lookup key k table with
      | none => rfl
      | some r =>
          rw [Option.map_some, if_neg]
          rw [(mem_of_lookup hold).2]
          exact fun h => hk h.symm
    · rw [lookup, List.find?_append]
      have hnew : [new].find? (fun r => key r = k) = none :=
        lookup_cons_of_ne hk
      rw [hnew, Option.or_none]
      rfl

/-- The lookups after a batch of upserts under distinct keys. -/
theorem lookup_upsertAll
    (hmerge : ∀ new r, key r = key new → key (merge new r) = key r)
    {news : List ρ} (hnodup : (news.map key).Nodup) (table : List ρ) :
    lookup key k (upsertAll key merge table news)
      = (lookup key k news).elim (lookup key k table)
        fun new => some ((lookup key k table).elim new (merge new)) := by
  induction news generalizing table with
  | nil => rfl
  | cons new news ih =>
      rw [List.map_cons, List.nodup_cons] at hnodup
      show lookup key k (upsertAll key merge (upsert key merge table new)
        news) = _
      rw [ih hnodup.2, lookup_upsert hmerge]
      by_cases hk : key new = k
      · have hrest : lookup key k news = none :=
          lookup_eq_none_iff.mpr fun r hr h =>
            hnodup.1 (by rw [hk, ← h]; exact List.mem_map_of_mem hr)
        rw [hrest, lookup_cons_of_eq hk, if_pos hk]
        rfl
      · rw [lookup_cons_of_ne hk, if_neg hk]

/-- The values for one key, in the order they were stored. -/
def newsOf (key : ρ → κ) (k : κ) (news : List ρ) : List ρ :=
  news.filter fun new => key new = k

/-- A stored row takes every value for its key, one after the other. -/
theorem lookup_upsertAll_of_some
    (hmerge : ∀ new r, key r = key new → key (merge new r) = key r)
    {news table : List ρ}
    {old : ρ} (h : lookup key k table = some old) :
    lookup key k (upsertAll key merge table news)
      = some ((newsOf key k news).foldl (fun r new => merge new r) old) := by
  induction news generalizing table old with
  | nil => exact h
  | cons new news ih =>
      show lookup key k (upsertAll key merge (upsert key merge table new)
        news) = _
      unfold newsOf
      by_cases hk : key new = k
      · rw [List.filter_cons_of_pos (by simpa using hk), List.foldl_cons]
        apply ih
        rw [lookup_upsert hmerge, if_pos hk, h, Option.elim_some]
      · rw [List.filter_cons_of_neg (by simpa using hk)]
        apply ih
        rw [lookup_upsert hmerge, if_neg hk, h]

/-- What a value overwrites is, after several values, what the last one
wrote. -/
theorem foldl_merge_last {β : Type*} {field : ρ → β}
    (hfield : ∀ new r, field (merge new r) = field new) (news : List ρ)
    (old : ρ) :
    field (news.foldl (fun r new => merge new r) old)
      = news.getLast?.elim (field old) field := by
  induction news generalizing old with
  | nil => rfl
  | cons new news ih =>
      rw [List.foldl_cons, ih, hfield]
      cases hlast : news.getLast? with
      | none =>
          rw [List.getLast?_eq_none_iff.mp hlast]
          rfl
      | some last =>
          rw [List.getLast?_cons, hlast]
          rfl

/-- An upsert keeps the keys distinct. -/
theorem nodup_upsert
    (hmerge : ∀ new r, key r = key new → key (merge new r) = key r)
    (new : ρ) (hnodup : (table.map key).Nodup) :
    ((upsert key merge table new).map key).Nodup := by
  unfold upsert
  split
  case isTrue =>
    have hkeys : (key ∘ fun r => if key r = key new then merge new r else r)
        = key := by
      funext r
      show key (if key r = key new then merge new r else r) = key r
      split
      case isTrue heq => exact hmerge new r heq
      case isFalse => rfl
    rw [List.map_map, hkeys]
    exact hnodup
  case isFalse hnone =>
    rw [List.map_append, List.nodup_append]
    refine ⟨hnodup, List.nodup_singleton _, ?_⟩
    intro k hk k' hk' heq
    obtain ⟨r, hr, rfl⟩ := List.mem_map.mp hk
    apply hnone
    rw [lookup_isSome_iff]
    exact ⟨r, hr, by rw [heq, List.mem_singleton.mp hk']⟩

/-- So does a batch of them. -/
theorem nodup_upsertAll
    (hmerge : ∀ new r, key r = key new → key (merge new r) = key r)
    (news : List ρ) (hnodup : (table.map key).Nodup) :
    ((upsertAll key merge table news).map key).Nodup := by
  induction news generalizing table with
  | nil => exact hnodup
  | cons new news ih => exact ih (nodup_upsert hmerge new hnodup)

end

-- ================================================================== pairs

section

variable {α : Type*}

/-- `itertools.combinations(l, 2)`. -/
def combinations : List α → List (α × α)
  | [] => []
  | x :: xs => xs.map (x, ·) ++ combinations xs

theorem mem_of_mem_combinations {l : List α} {p : α × α}
    (hp : p ∈ combinations l) : p.1 ∈ l ∧ p.2 ∈ l := by
  induction l with
  | nil => cases hp
  | cons x l ih =>
      rcases List.mem_append.mp hp with h | h
      · obtain ⟨c, hc, rfl⟩ := List.mem_map.mp h
        exact ⟨List.mem_cons_self .., List.mem_cons_of_mem _ hc⟩
      · exact ⟨List.mem_cons_of_mem _ (ih h).1,
          List.mem_cons_of_mem _ (ih h).2⟩

/-- In a strictly ordered list the pairs are the ordered ones. -/
theorem mem_combinations {β : Type v} [Preorder β] {f : α → β}
    {l : List α} (hl : l.Pairwise fun a b => f a < f b) {a b : α} :
    (a, b) ∈ combinations l ↔ a ∈ l ∧ b ∈ l ∧ f a < f b := by
  induction l with
  | nil => simp [combinations]
  | cons x l ih =>
      rw [List.pairwise_cons] at hl
      rw [combinations, List.mem_append, ih hl.2]
      constructor
      · rintro (h | ⟨ha, hb, hlt⟩)
        · obtain ⟨c, hc, heq⟩ := List.mem_map.mp h
          injection heq with hx hcb
          subst hx hcb
          exact ⟨List.mem_cons_self .., List.mem_cons_of_mem _ hc,
            hl.1 c hc⟩
        · exact ⟨List.mem_cons_of_mem _ ha, List.mem_cons_of_mem _ hb, hlt⟩
      · rintro ⟨ha, hb, hlt⟩
        rcases List.mem_cons.mp ha with rfl | ha
        · rcases List.mem_cons.mp hb with rfl | hb
          · exact absurd hlt (lt_irrefl _)
          · exact .inl (List.mem_map.mpr ⟨b, hb, rfl⟩)
        · rcases List.mem_cons.mp hb with hx | hb
          · exact absurd hlt (lt_asymm (hx ▸ hl.1 a ha))
          · exact .inr ⟨ha, hb, hlt⟩

/-- A loop that adds a list of items for every value. -/
theorem mem_foldl_collect {σ β : Type*} {items : σ → List β}
    {step : σ → α → σ} {f : α → List β}
    (hstep : ∀ s a, items (step s a) = f a ++ items s) (l : List α) (s : σ)
    {b : β} :
    b ∈ items (l.foldl step s) ↔ b ∈ items s ∨ ∃ a ∈ l, b ∈ f a := by
  induction l generalizing s with
  | nil => simp
  | cons a l ih =>
      rw [List.foldl_cons, ih, hstep, List.mem_append]
      simp only [List.mem_cons, exists_eq_or_imp]
      tauto

/-- A loop that collects the keys of the rows it makes. -/
theorem mem_foldl_keys {σ ρ κ : Type*} {key : ρ → κ} {keys : σ → List κ}
    {step : σ → α → σ} {f : α → Option ρ}
    (hstep : ∀ s a, keys (step s a) = (f a).toList.map key ++ keys s)
    (l : List α) (s : σ) {k : κ} :
    k ∈ keys (l.foldl step s)
      ↔ k ∈ keys s ∨ ∃ r ∈ l.filterMap f, key r = k := by
  rw [mem_foldl_collect hstep]
  refine or_congr Iff.rfl ⟨?_, ?_⟩
  · rintro ⟨a, ha, hk⟩
    obtain ⟨r, hr, hk⟩ := List.mem_map.mp hk
    exact ⟨r, List.mem_filterMap.mpr ⟨a, ha, Option.mem_toList.mp hr⟩, hk⟩
  · rintro ⟨r, hr, hk⟩
    obtain ⟨a, ha, hr⟩ := List.mem_filterMap.mp hr
    exact ⟨a, ha, List.mem_map.mpr ⟨r, Option.mem_toList.mpr hr, hk⟩⟩

/-- No pair is listed twice. -/
theorem nodup_combinations {l : List α} (hl : l.Nodup) :
    (combinations l).Nodup := by
  induction l with
  | nil => exact List.nodup_nil
  | cons x l ih =>
      rw [List.nodup_cons] at hl
      rw [combinations]
      refine List.Nodup.append
        (hl.2.map fun a b h => (Prod.mk.inj h).2) (ih hl.2) ?_
      intro p hp hp'
      obtain ⟨c, -, rfl⟩ := List.mem_map.mp hp
      exact hl.1 (mem_of_mem_combinations hp').1

/-- Rows made from distinct values that can be told from their keys have
distinct keys. -/
theorem nodup_filterMap_key {ρ : Type u} {κ : Type v} {key : ρ → κ}
    {f : α → Option ρ} {l : List α} (hnodup : l.Nodup)
    (hinj : ∀ a ∈ l, ∀ b ∈ l, ∀ r s, f a = some r → f b = some s →
      key r = key s → a = b) : ((l.filterMap f).map key).Nodup := by
  induction l with
  | nil => exact List.nodup_nil
  | cons a l ih =>
      rw [List.nodup_cons] at hnodup
      have hrest := ih hnodup.2 fun a ha b hb =>
        hinj a (List.mem_cons_of_mem _ ha) b (List.mem_cons_of_mem _ hb)
      cases hfa : f a with
      | none =>
          rw [List.filterMap_cons_none hfa]
          exact hrest
      | some r =>
          rw [List.filterMap_cons_some hfa, List.map_cons, List.nodup_cons]
          refine ⟨fun hmem => ?_, hrest⟩
          obtain ⟨s, hs, hkey⟩ := List.mem_map.mp hmem
          obtain ⟨b, hb, hfb⟩ := List.mem_filterMap.mp hs
          have hab := hinj a (List.mem_cons_self ..) b
            (List.mem_cons_of_mem _ hb) r s hfa hfb hkey.symm
          exact hnodup.1 (hab ▸ hb)

end

end Table
