/-
Dictionaries: tables in which a value replaces the one under its key in
place, and a new key goes to the end.

`Updated old news rows` says what a dictionary holds once values are
stored in it: whose keys it lists, and in which order, and which value
each key has. One assignment keeps it (`Updated.assign`), so a loop of
assignments makes it true (`updated_update`), and so does an update from
a dictionary of the values (`updated_update_ofRows`).
-/
import Mathlib.Data.List.Induction
import DeepResearch.Lib.Table

namespace Dict

open Table

universe u v

-- =========================================================== distinct values

section

variable {κ : Type v} [DecidableEq κ]

theorem eraseDups_concat (l : List κ) (a : κ) :
    (l ++ [a]).eraseDups
      = if a ∈ l then l.eraseDups else l.eraseDups ++ [a] := by
  rw [List.eraseDups_append]
  split
  case isTrue h =>
    have hrest : [a].removeAll l = [] := by simp [List.removeAll, h]
    rw [hrest, List.eraseDups_nil, List.append_nil]
  case isFalse h =>
    have hrest : [a].removeAll l = [a] := by simp [List.removeAll, h]
    rw [hrest]
    rfl

theorem eraseDups_filter_eraseDups (p : κ → Bool) (l : List κ) :
    (l.eraseDups.filter p).eraseDups = (l.filter p).eraseDups := by
  induction l using List.reverseRecOn with
  | nil => rfl
  | append_singleton l a ih =>
      rw [eraseDups_concat, List.filter_append]
      by_cases ha : a ∈ l
      · rw [if_pos ha, ih]
        by_cases hp : p a = true
        · rw [List.filter_cons_of_pos hp, List.filter_nil, eraseDups_concat,
            if_pos (List.mem_filter.mpr ⟨ha, hp⟩)]
        · rw [List.filter_cons_of_neg hp, List.filter_nil, List.append_nil]
      · rw [if_neg ha, List.filter_append]
        by_cases hp : p a = true
        · rw [List.filter_cons_of_pos hp, List.filter_nil, eraseDups_concat,
            eraseDups_concat, ih,
            if_neg fun h => ha (List.mem_filter.mp h).1,
            if_neg fun h =>
              ha (List.mem_eraseDups.mp (List.mem_filter.mp h).1)]
        · rw [List.filter_cons_of_neg hp, List.filter_nil, List.append_nil,
            List.append_nil, ih]

end

-- ============================================================== dictionaries

section

variable {ρ : Type u} {κ : Type v} [DecidableEq κ] (key : ρ → κ)

/-- `rows[key(new)] = new`. -/
def assign (rows : List ρ) (new : ρ) : List ρ :=
  upsert key (fun new _ => new) rows new

/-- One assignment after the other. -/
def update (rows news : List ρ) : List ρ :=
  upsertAll key (fun new _ => new) rows news

/-- `{key(row): row for row in news}`. -/
def ofRows (news : List ρ) : List ρ :=
  update key [] news

/-- A dictionary after values are stored in it: the keys that were there
keep their places, the new ones follow in the order in which they came,
and every key has the last value stored under it. -/
structure Updated (old news rows : List ρ) : Prop where
  keys : rows.map key
    = old.map key ++ ((news.map key).filter (· ∉ old.map key)).eraseDups
  lookups : ∀ k, lookup key k rows
    = (lookup key k news.reverse).or (lookup key k old)

variable {key} {old news rows : List ρ}

/-- An assignment adds its key at the end, unless it is there. -/
theorem map_key_assign (rows : List ρ) (new : ρ) :
    (assign key rows new).map key
      = if key new ∈ rows.map key then rows.map key
        else rows.map key ++ [key new] := by
  have hmem : (lookup key (key new) rows).isSome ↔ key new ∈ rows.map key :=
    lookup_isSome_iff.trans List.mem_map.symm
  unfold assign upsert
  by_cases h : key new ∈ rows.map key
  · rw [if_pos (hmem.mpr h), if_pos h, List.map_map]
    refine List.map_congr_left fun r _ => ?_
    show key (if key r = key new then new else r) = key r
    split
    case isTrue heq => exact heq.symm
    case isFalse => rfl
  · rw [if_neg (fun hsome => h (hmem.mp hsome)), if_neg h, List.map_append]
    rfl
/-- The rows after an assignment. -/
theorem mem_assign {new r : ρ} :
    r ∈ assign key rows new ↔ r = new ∨ r ∈ rows ∧ key r ≠ key new := by
  unfold assign upsert
  split
  case isTrue hsome =>
    obtain ⟨old, hold, hkey⟩ := lookup_isSome_iff.mp hsome
    rw [List.mem_map]
    constructor
    · rintro ⟨other, hother, rfl⟩
      split
      case isTrue => exact .inl rfl
      case isFalse hne => exact .inr ⟨hother, hne⟩
    · rintro (rfl | ⟨hr, hne⟩)
      · exact ⟨old, hold, if_pos hkey⟩
      · exact ⟨r, hr, if_neg hne⟩
  case isFalse hnone =>
    rw [List.mem_append, List.mem_singleton]
    constructor
    · rintro (hr | rfl)
      · exact .inr ⟨hr, fun hkey =>
          hnone (lookup_isSome_iff.mpr ⟨r, hr, hkey⟩)⟩
      · exact .inl rfl
    · rintro (rfl | ⟨hr, -⟩)
      · exact .inr rfl
      · exact .inl hr

/-- What is found after an assignment. -/
theorem lookup_assign (rows : List ρ) (new : ρ) (k : κ) :
    lookup key k (assign key rows new)
      = if key new = k then some new else lookup key k rows := by
  unfold assign
  rw [lookup_upsert fun _ _ heq => heq.symm]
  cases lookup key k rows <;> rfl

/-- Keys stay distinct. -/
theorem nodup_update (news : List ρ) (hnodup : (rows.map key).Nodup) :
    ((update key rows news).map key).Nodup :=
  nodup_upsertAll (fun _ _ heq => heq.symm) news hnodup

theorem nodup_ofRows (news : List ρ) :
    ((ofRows key news).map key).Nodup :=
  nodup_update news List.nodup_nil

/-- Nothing stored yet. -/
theorem Updated.refl (old : List ρ) : Updated key old [] old where
  keys := by simp
  lookups := by simp

/-- One more value is stored. -/
theorem Updated.assign (h : Updated key old news rows) (new : ρ) :
    Updated key old (news ++ [new]) (assign key rows new) where
  keys := by
    have hmem : key new ∈ rows.map key ↔ key new ∈ old.map key
        ∨ key new ∈ (news.map key).filter (· ∉ old.map key) := by
      rw [h.keys, List.mem_append, List.mem_eraseDups]
    rw [map_key_assign, List.map_append, List.filter_append]
    by_cases hold : key new ∈ old.map key
    · rw [if_pos (hmem.mpr (.inl hold)), h.keys, List.map_singleton,
        List.filter_cons_of_neg (by simpa using hold), List.filter_nil,
        List.append_nil]
    · rw [List.map_singleton,
        List.filter_cons_of_pos (by simpa using hold), List.filter_nil,
        eraseDups_concat]
      by_cases hnew : key new ∈ (news.map key).filter (· ∉ old.map key)
      · rw [if_pos (hmem.mpr (.inr hnew)), if_pos hnew, h.keys]
      · rw [if_neg (fun hk => (hmem.mp hk).elim hold hnew), if_neg hnew,
          h.keys, List.append_assoc]
  lookups k := by
    rw [lookup_assign, List.reverse_append, List.reverse_singleton,
      List.singleton_append]
    split
    case isTrue heq =>
      rw [lookup_cons_of_eq heq]
      rfl
    case isFalse hne => rw [lookup_cons_of_ne hne, h.lookups]

/-- A loop of assignments. -/
theorem updated_update (old news : List ρ) :
    Updated key old news (update key old news) := by
  induction news using List.reverseRecOn with
  | nil => exact .refl old
  | append_singleton news new ih =>
      have hstep : update key old (news ++ [new])
          = assign key (update key old news) new := List.foldl_concat ..
      rw [hstep]
      exact ih.assign new

/-- With distinct keys the order does not matter. -/
theorem lookup_reverse (hnodup : (rows.map key).Nodup) (k : κ) :
    lookup key k rows.reverse = lookup key k rows := by
  have hnodup' : (rows.reverse.map key).Nodup := by
    rw [List.map_reverse]
    exact List.nodup_reverse.mpr hnodup
  cases h : lookup key k rows with
  | none =>
      rw [lookup_eq_none_iff] at h ⊢
      exact fun r hr => h r (List.mem_reverse.mp hr)
  | some r =>
      obtain ⟨hr, rfl⟩ := mem_of_lookup h
      exact lookup_of_mem hnodup' (List.mem_reverse.mpr hr)

/-- The values may go through a dictionary of their own first. -/
theorem updated_update_ofRows (old news : List ρ) :
    Updated key old news (update key old (ofRows key news)) := by
  have hnews : Updated key [] news (ofRows key news) := updated_update ..
  have hold : Updated key old (ofRows key news)
      (update key old (ofRows key news)) := updated_update ..
  have hkeys : (ofRows key news).map key = (news.map key).eraseDups := by
    rw [hnews.keys]
    simp
  constructor
  · rw [hold.keys, hkeys, eraseDups_filter_eraseDups]
  · intro k
    rw [hold.lookups, lookup_reverse (nodup_ofRows news)]
    have hlast : lookup key k (ofRows key news)
        = (lookup key k news.reverse).or (lookup key k []) :=
      hnews.lookups k
    rw [hlast, lookup_nil, Option.or_none]

/-- The keys are those of the old rows and those of the new ones. -/
theorem Updated.mem_key_iff (h : Updated key old news rows) {k : κ} :
    k ∈ rows.map key ↔ k ∈ old.map key ∨ k ∈ news.map key := by
  rw [h.keys, List.mem_append, List.mem_eraseDups, List.mem_filter]
  by_cases hk : k ∈ old.map key
  · exact ⟨fun _ => .inl hk, fun _ => .inl hk⟩
  · simp [hk]

/-- Every row was there, or is one of the values. -/
theorem Updated.mem_or_mem (h : Updated key old news rows)
    (hnodup : (rows.map key).Nodup) {r : ρ} (hr : r ∈ rows) :
    r ∈ news ∨ r ∈ old := by
  have hlookup := h.lookups (key r)
  rw [lookup_of_mem hnodup hr] at hlookup
  cases hnew : lookup key (key r) news.reverse with
  | none =>
      rw [hnew, Option.none_or] at hlookup
      exact .inr (mem_of_lookup hlookup.symm).1
  | some new =>
      rw [hnew, Option.some_or] at hlookup
      cases hlookup
      exact .inl (List.mem_reverse.mp (mem_of_lookup hnew).1)

/-- Under distinct keys the rows are the values, and the old ones under
other keys. -/
theorem Updated.mem_iff (h : Updated key old news rows)
    (hrows : (rows.map key).Nodup) (hnews : (news.map key).Nodup)
    (hold : (old.map key).Nodup) {r : ρ} :
    r ∈ rows ↔ r ∈ news ∨ r ∈ old ∧ ∀ new ∈ news, key new ≠ key r := by
  have hlookup := h.lookups (key r)
  rw [lookup_reverse hnews] at hlookup
  constructor
  · intro hr
    rw [lookup_of_mem hrows hr] at hlookup
    cases hnew : lookup key (key r) news with
    | none =>
        rw [hnew, Option.none_or] at hlookup
        exact .inr ⟨(mem_of_lookup hlookup.symm).1,
          lookup_eq_none_iff.mp hnew⟩
    | some new =>
        rw [hnew, Option.some_or] at hlookup
        cases hlookup
        exact .inl (mem_of_lookup hnew).1
  · intro hr
    rcases hr with hr | ⟨hr, hother⟩
    · rw [lookup_of_mem hnews hr, Option.some_or] at hlookup
      exact (mem_of_lookup hlookup).1
    · rw [lookup_eq_none_iff.mpr hother, Option.none_or,
        lookup_of_mem hold hr] at hlookup
      exact (mem_of_lookup hlookup).1

-- ---------------------------------------------------------- a stored row

variable (key) in
/-- A row is in the table, and no other under its key. -/
structure Stored (rows : List ρ) (row : ρ) : Prop where
  mem : row ∈ rows
  only : ∀ r ∈ rows, key r = key row → r = row

/-- What is assigned is stored. -/
theorem stored_assign (rows : List ρ) (new : ρ) :
    Stored key (assign key rows new) new where
  mem := mem_assign.mpr (.inl rfl)
  only _ hr hkey := (mem_assign.mp hr).elim id fun h => absurd hkey h.2

/-- An assignment to another key keeps it stored. -/
theorem Stored.assign_of_ne {row new : ρ} (h : Stored key rows row)
    (hne : key row ≠ key new) : Stored key (assign key rows new) row where
  mem := mem_assign.mpr (.inr ⟨h.mem, hne⟩)
  only r hr hkey := by
    rcases mem_assign.mp hr with rfl | ⟨hr, -⟩
    · exact absurd hkey.symm hne
    · exact h.only r hr hkey

/-- To store a row again changes nothing. -/
theorem Stored.assign_eq {row : ρ} (h : Stored key rows row) :
    assign key rows row = rows := by
  unfold assign upsert
  rw [if_pos (lookup_isSome_iff.mpr ⟨row, h.mem, rfl⟩)]
  conv => rhs; rw [← List.map_id rows]
  refine List.map_congr_left fun r hr => ?_
  split
  case isTrue heq => exact (h.only r hr heq).symm
  case isFalse => rfl

-- --------------------------------------------------------- distinct keys

theorem assign_of_notMem {new : ρ} (h : key new ∉ rows.map key) :
    assign key rows new = rows ++ [new] := by
  unfold assign upsert
  rw [if_neg]
  rw [lookup_isSome_iff]
  rintro ⟨r, hr, heq⟩
  exact h (List.mem_map.mpr ⟨r, hr, heq⟩)

/-- Values under new and distinct keys go to the end. -/
theorem update_of_nodup (hnodup : ((rows ++ news).map key).Nodup) :
    update key rows news = rows ++ news := by
  induction news generalizing rows with
  | nil => exact (List.append_nil rows).symm
  | cons new news ih =>
      have hnew : key new ∉ rows.map key := by
        intro hmem
        rw [List.map_append, List.nodup_append] at hnodup
        exact hnodup.2.2 _ hmem _ (List.mem_cons_self ..) rfl
      have hstep : update key rows (new :: news)
          = update key (rows ++ [new]) news := by
        rw [← assign_of_notMem hnew]
        rfl
      rw [List.append_cons] at hnodup ⊢
      rw [hstep]
      exact ih hnodup

/-- A dictionary of rows whose keys are distinct lists those rows. -/
theorem ofRows_of_nodup (hnodup : (rows.map key).Nodup) :
    ofRows key rows = rows :=
  update_of_nodup hnodup

/-- Looking every key up finds every row once. -/
theorem perm_filterMap_lookup {keys : List κ} (hkeys : keys.Nodup)
    (hnodup : (rows.map key).Nodup) (hmem : ∀ r ∈ rows, key r ∈ keys) :
    (keys.filterMap fun k => lookup key k rows).Perm rows := by
  have hfound : (keys.filterMap fun k => lookup key k rows).Nodup := by
    refine hkeys.filterMap fun k k' r hr hr' => ?_
    rw [← (mem_of_lookup hr).2, ← (mem_of_lookup hr').2]
  rw [List.perm_ext_iff_of_nodup hfound (List.Nodup.of_map key hnodup)]
  intro r
  rw [List.mem_filterMap]
  constructor
  · rintro ⟨k, -, hr⟩
    exact (mem_of_lookup hr).1
  · intro hr
    exact ⟨key r, hmem r hr, lookup_of_mem hnodup hr⟩

end

end Dict
