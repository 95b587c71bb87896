/-
A cache table that keeps the first value stored under a key, with writers
that look, insert against a unique index, and look again when the index
refuses the row.

# The parties

The rows of an owner exist only while the owner does; deleting the owner
deletes them, and a sweep deletes them alone. Each of the three steps of a
call is a transaction of its own, and between two of them anyone may act.

# What is kept

No two rows agree on the index, no row holds an empty value, and every
row has its owner (`Consistent`). On an owner that nothing is deleted from
(`Undisturbed`), a row once there stays, a call that has returned left a
row under its key, and a call has failed exactly where the row that holds
its place in the index is another key's (`Settled`).
-/
import DeepResearch.Lib.Table
import DeepResearch.Lib.Transition

namespace FirstWriter

open Transition (System Reachable)

universe u v w x

variable {κ : Type u} {ν : Type v} {ο : Type w} {ι : Type x}

-- =============================================================== the table

/-- The columns a table is keyed by: whose the row is, and what the unique
index is on. The owner's column is one of the index. -/
structure Layout (κ : Type u) (ο : Type w) (ι : Type x) where
  owner : κ → ο
  index : κ → ι
  owner_of_index : ∀ {a b : κ}, index a = index b → owner a = owner b

/-- A row. -/
structure Row (κ : Type u) (ν : Type v) where
  key : κ
  value : ν
  deriving DecidableEq

/-- How far a call has come with its key. -/
inductive Call (κ : Type u) (ν : Type v)
  | inserting (key : κ) (value : ν)
  | checking (key : κ)
  | returned (key : κ) (stored : Bool)
  | raised (key : κ)
  deriving DecidableEq

/-- The key of a call. -/
def Call.key : Call κ ν → κ
  | .inserting key _ => key
  | .checking key => key
  | .returned key _ => key
  | .raised key => key

/-- The owners there are, the rows, and each caller's last call. -/
structure State (κ : Type u) (ν : Type v) (ο : Type w) where
  owners : ο → Bool
  rows : List (Row κ ν)
  calls : Nat → Option (Call κ ν)

/-- What can happen next. -/
inductive Action (κ : Type u) (ν : Type v) (ο : Type w)
  | put (caller : Nat) (key : κ) (value : ν)
  | insert (caller : Nat)
  | check (caller : Nat)
  | addOwner (owner : ο)
  | removeOwner (owner : ο)
  | sweep (owner : ο)

/-- The action deletes rows of an owner. -/
def Action.disturbs [DecidableEq ο] (owner : ο) : Action κ ν ο → Bool
  | .removeOwner o => o = owner
  | .sweep o => o = owner
  | _ => false

section

variable [DecidableEq κ] [DecidableEq ο] [DecidableEq ι]

/-- The value under a key. -/
def State.get (s : State κ ν ο) (key : κ) : Option ν :=
  (Table.lookup Row.key key s.rows).map (·.value)

/-- A call has come to its next point. -/
def State.settle (s : State κ ν ο) (caller : Nat) (call : Call κ ν) :
    State κ ν ο :=
  { s with calls := Function.update s.calls caller (some call) }

/-- The rows of an owner are deleted. -/
def State.delete (L : Layout κ ο ι) (s : State κ ν ο) (owner : ο) :
    State κ ν ο :=
  { s with rows := s.rows.filter fun row => L.owner row.key ≠ owner }

/-- The start of a call: an empty value is not stored, and a key that is
there keeps its value. -/
def State.put (isEmpty : ν → Bool) (s : State κ ν ο) (caller : Nat)
    (key : κ) (value : ν) : State κ ν ο :=
  if isEmpty value = true then s.settle caller (.returned key false)
  else if (s.get key).isSome = true then
    s.settle caller (.returned key true)
  else s.settle caller (.inserting key value)

/-- The index or the reference to the owner refuses a row. -/
def State.refuses (L : Layout κ ο ι) (s : State κ ν ο) (key : κ) : Bool :=
  !s.owners (L.owner key)
    || s.rows.any fun row => L.index row.key = L.index key

/-- The insert of a call. -/
def State.insert (L : Layout κ ο ι) (s : State κ ν ο) (caller : Nat) :
    State κ ν ο :=
  match s.calls caller with
  | some (.inserting key value) =>
      if s.refuses L key = true then s.settle caller (.checking key)
      else
        { s.settle caller (.returned key true) with
          rows := s.rows ++ [⟨key, value⟩] }
  | _ => s

/-- The second look of a call. -/
def State.check (s : State κ ν ο) (caller : Nat) : State κ ν ο :=
  match s.calls caller with
  | some (.checking key) =>
      if (s.get key).isSome = true then
        s.settle caller (.returned key true)
      else s.settle caller (.raised key)
  | _ => s

/-- One transaction. A caller that is inside a call starts no other. -/
def State.step (L : Layout κ ο ι) (isEmpty : ν → Bool)
    (s : State κ ν ο) : Action κ ν ο → State κ ν ο
  | .put caller key value =>
      match s.calls caller with
      | some (.inserting ..) => s
      | some (.checking _) => s
      | _ => s.put isEmpty caller key value
  | .insert caller => s.insert L caller
  | .check caller => s.check caller
  | .addOwner owner =>
      { s with owners := Function.update s.owners owner true }
  | .removeOwner owner =>
      { s.delete L owner with
        owners := Function.update s.owners owner false }
  | .sweep owner => s.delete L owner

/-- Any transactions in any order, from the empty table. -/
def cacheSystem (L : Layout κ ο ι) (isEmpty : ν → Bool) :
    System (State κ ν ο) (Action κ ν ο) where
  init s := s.rows = [] ∧ s.calls = fun _ => none
  step s a := s.step L isEmpty a

end

-- ================================================================ one step

section

variable [DecidableEq κ] [DecidableEq ο] [DecidableEq ι]
  {L : Layout κ ο ι} {isEmpty : ν → Bool} {s s' : State κ ν ο}

/-- What is known of the state a call moves on in, without a row. -/
def Moves (L : Layout κ ο ι) (isEmpty : ν → Bool) (s : State κ ν ο) :
    Call κ ν → Prop
  | .inserting _ value => isEmpty value = false
  | .checking key => s.refuses L key = true
  | .returned key stored => stored = true → (s.get key).isSome = true
  | .raised key =>
      s.get key = none ∧ ∃ caller, s.calls caller = some (.checking key)

/-- What a transaction does. -/
inductive Effect (L : Layout κ ο ι) (isEmpty : ν → Bool)
    (s s' : State κ ν ο) (a : Action κ ν ο) : Prop
  | quiet (hrows : s'.rows = s.rows) (hcalls : s'.calls = s.calls)
    (howners : ∀ o, s.owners o = true → s'.owners o = true)
  | moved (caller : Nat) (call : Call κ ν) (hmoves : Moves L isEmpty s call)
    (h : s' = s.settle caller call)
  | added (caller : Nat) (key : κ) (value : ν)
    (hcall : s.calls caller = some (.inserting key value))
    (hfree : s.refuses L key = false)
    (h : s' = { s.settle caller (.returned key true) with
      rows := s.rows ++ [⟨key, value⟩] })
  | deleted (owner : ο) (hdisturbs : a.disturbs owner = true)
    (hrows : s'.rows = s.rows.filter fun row => L.owner row.key ≠ owner)
    (hcalls : s'.calls = s.calls)
    (howners : ∀ o, o ≠ owner → s.owners o = true → s'.owners o = true)

theorem put_effect (caller : Nat) (key : κ) (value : ν)
    (a : Action κ ν ο) :
    Effect L isEmpty s (s.put isEmpty caller key value) a := by
  unfold State.put
  split
  case isTrue =>
    exact .moved caller _ Bool.noConfusion rfl
  case isFalse hvalue =>
    split
    case isTrue hthere =>
      exact .moved caller (.returned key true) (fun _ => hthere) rfl
    case isFalse =>
      exact .moved caller (.inserting key value) (Bool.eq_false_iff.mpr hvalue)
        rfl

theorem step_effect (L : Layout κ ο ι) (isEmpty : ν → Bool)
    (s : State κ ν ο) (a : Action κ ν ο) :
    Effect L isEmpty s (s.step L isEmpty a) a := by
  cases a with
  | put caller key value =>
      unfold State.step
      dsimp only
      split
      · exact .quiet rfl rfl fun _ h => h
      · exact .quiet rfl rfl fun _ h => h
      · exact put_effect caller key value _
  | insert caller =>
      unfold State.step State.insert
      dsimp only
      split
      next key value hcall =>
        split
        case isTrue hrefuses =>
          exact .moved caller (.checking key) hrefuses rfl
        case isFalse hfree =>
          exact .added caller key value hcall (Bool.eq_false_iff.mpr hfree)
            rfl
      next => exact .quiet rfl rfl fun _ h => h
  | check caller =>
      unfold State.step State.check
      dsimp only
      split
      next key hcall =>
        split
        -- The look-up after a refusal: another writer was first, or the
        -- index refused another key.
        case isTrue hthere =>
          exact .moved caller (.returned key true) (fun _ => hthere) rfl
        case isFalse hthere =>
          have hnone : s.get key = none := by simpa using hthere
          exact .moved caller (.raised key) ⟨hnone, caller, hcall⟩ rfl
      next => exact .quiet rfl rfl fun _ h => h
  | addOwner owner =>
      refine .quiet rfl rfl fun o h => ?_
      show Function.update s.owners owner true o = true
      by_cases heq : o = owner
      · rw [heq, Function.update_self]
      · rw [Function.update_of_ne heq]
        exact h
  | removeOwner owner =>
      refine .deleted owner (decide_eq_true rfl) rfl rfl fun o hne h => ?_
      show Function.update s.owners owner false o = true
      rw [Function.update_of_ne hne]
      exact h
  | sweep owner =>
      exact .deleted owner (decide_eq_true rfl) rfl rfl fun _ _ h => h

omit [DecidableEq κ] [DecidableEq ο] in
/-- A call recorded after one has moved: that one, or an older one. -/
theorem settle_calls {caller other : Nat} {call call' : Call κ ν}
    (h : (s.settle caller call).calls other = some call') :
    call' = call ∨ s.calls other = some call' := by
  change Function.update s.calls caller (some call) other = some call' at h
  by_cases heq : other = caller
  · rw [heq, Function.update_self] at h
    exact .inl (Option.some.inj h).symm
  · rw [Function.update_of_ne heq] at h
    exact .inr h

-- ============================================================ the database

/-- A table as its constraints keep it. -/
structure Consistent (L : Layout κ ο ι) (isEmpty : ν → Bool)
    (s : State κ ν ο) : Prop where
  index_nodup : (s.rows.map fun row => L.index row.key).Nodup
  nonempty : ∀ row ∈ s.rows, isEmpty row.value = false
  inserting : ∀ caller key value,
    s.calls caller = some (.inserting key value) → isEmpty value = false

omit [DecidableEq κ] [DecidableEq ο] in
theorem index_ne_of_free {key : κ} (h : s.refuses L key = false) :
    ∀ row ∈ s.rows, L.index row.key ≠ L.index key := by
  intro row hrow heq
  have hany : (s.rows.any fun row => L.index row.key = L.index key) = true :=
    List.any_eq_true.mpr ⟨row, hrow, decide_eq_true heq⟩
  simp [State.refuses, hany] at h

theorem Consistent.step (h : Consistent L isEmpty s) (a : Action κ ν ο) :
    Consistent L isEmpty (s.step L isEmpty a) := by
  cases step_effect L isEmpty s a with
  | quiet hrows hcalls _ =>
      refine ⟨?_, ?_, ?_⟩
      · rw [hrows]
        exact h.index_nodup
      · rw [hrows]
        exact h.nonempty
      · rw [hcalls]
        exact h.inserting
  | moved caller call hmoves heq =>
      rw [heq]
      refine ⟨h.index_nodup, h.nonempty, fun other key value hother => ?_⟩
      rcases settle_calls hother with hcall | hcall
      · rw [← hcall] at hmoves
        exact hmoves
      · exact h.inserting other key value hcall
  | added caller key value hcall hfree heq =>
      rw [heq]
      refine ⟨?_, ?_, fun other key' value' hother => ?_⟩
      · show ((s.rows ++ [(⟨key, value⟩ : Row κ ν)]).map fun row =>
          L.index row.key).Nodup
        rw [List.map_append]
        refine List.nodup_append'.mpr ⟨h.index_nodup,
          List.nodup_singleton _, List.disjoint_singleton.mpr fun hmem => ?_⟩
        obtain ⟨row, hrow, hindex⟩ := List.mem_map.mp hmem
        -- The insert was not refused, so no row has the new index.
        exact index_ne_of_free hfree row hrow hindex
      · intro row hrow
        change row ∈ s.rows ++ [⟨key, value⟩] at hrow
        rcases List.mem_append.mp hrow with hrow | hrow
        · exact h.nonempty row hrow
        · rw [List.mem_singleton.mp hrow]
          exact h.inserting caller key value hcall
      · rcases settle_calls hother with hcall | hcall
        · cases hcall
        · exact h.inserting other key' value' hcall
  | deleted owner _ hrows hcalls _ =>
      refine ⟨?_, ?_, ?_⟩
      · rw [hrows]
        exact h.index_nodup.sublist (List.filter_sublist.map _)
      · rw [hrows]
        exact fun row hrow => h.nonempty row (List.mem_filter.mp hrow).1
      · rw [hcalls]
        exact h.inserting

/-- The constraints hold whatever the transactions were. -/
theorem consistent_reachable (h : Reachable (cacheSystem L isEmpty) s) :
    Consistent L isEmpty s := by
  refine h.invariant (fun s hs => ?_) fun s a h => h.step a
  obtain ⟨hrows, hcalls⟩ := hs
  refine ⟨?_, ?_, fun caller key value hcall => ?_⟩
  · rw [hrows]
    exact List.nodup_nil
  · rw [hrows]
    intro row hrow
    cases hrow
  · rw [hcalls] at hcall
    cases hcall

omit [DecidableEq κ] [DecidableEq ο] [DecidableEq ι] in
/-- The row that holds a place of the index is the only one. -/
theorem Consistent.row_unique (h : Consistent L isEmpty s)
    {row row' : Row κ ν} (hrow : row ∈ s.rows) (hrow' : row' ∈ s.rows)
    (hindex : L.index row.key = L.index row'.key) : row = row' :=
  List.inj_on_of_nodup_map h.index_nodup hrow hrow' hindex

omit [DecidableEq ο] [DecidableEq ι] in
/-- A key reads the value of its row. -/
theorem Consistent.get_eq_some_iff (h : Consistent L isEmpty s) {key : κ}
    {value : ν} : s.get key = some value ↔ ⟨key, value⟩ ∈ s.rows := by
  unfold State.get
  constructor
  · intro hget
    obtain ⟨row, hrow, rfl⟩ := Option.map_eq_some_iff.mp hget
    obtain ⟨hmem, rfl⟩ := Table.mem_of_lookup hrow
    exact hmem
  · intro hmem
    cases hlookup : Table.lookup Row.key key s.rows with
    | none =>
        exact absurd rfl (Table.lookup_eq_none_iff.mp hlookup _ hmem)
    | some row =>
        obtain ⟨hrow, hkey⟩ := Table.mem_of_lookup hlookup
        have heq := h.row_unique hrow hmem (congrArg L.index hkey)
        rw [heq]
        rfl

omit [DecidableEq ο] in
theorem get_isSome_iff {key : κ} :
    (s.get key).isSome = true ↔ ∃ row ∈ s.rows, row.key = key := by
  rw [State.get, Option.isSome_map]
  exact Table.lookup_isSome_iff

-- ==================================================== an undisturbed owner

/-- What a call on an owner from whom nothing is deleted has left behind. -/
def Kept (L : Layout κ ο ι) (s : State κ ν ο) : Call κ ν → Prop
  | .inserting .. => True
  | .checking key => ∃ row ∈ s.rows, L.index row.key = L.index key
  | .returned key stored => stored = true → ∃ row ∈ s.rows, row.key = key
  | .raised key =>
      ∃ row ∈ s.rows, L.index row.key = L.index key ∧ row.key ≠ key

/-- The owner is there, and every call on it has left its traces. -/
structure Settled (L : Layout κ ο ι) (owner : ο) (s : State κ ν ο) :
    Prop where
  there : s.owners owner = true
  calls : ∀ caller call, s.calls caller = some call →
    L.owner call.key = owner → Kept L s call

omit [DecidableEq κ] [DecidableEq ο] [DecidableEq ι] in
/-- Traces stay where the rows of their owner stay. -/
theorem Kept.mono {call : Call κ ν} (h : Kept L s call)
    (hrows : ∀ row ∈ s.rows, L.owner row.key = L.owner call.key →
      row ∈ s'.rows) : Kept L s' call := by
  cases call with
  | inserting key value => trivial
  | checking key =>
      obtain ⟨row, hrow, hindex⟩ := h
      exact ⟨row, hrows row hrow (L.owner_of_index hindex), hindex⟩
  | returned key stored =>
      intro hstored
      obtain ⟨row, hrow, hkey⟩ := h hstored
      exact ⟨row, hrows row hrow (congrArg L.owner hkey), hkey⟩
  | raised key =>
      obtain ⟨row, hrow, hindex, hne⟩ := h
      exact ⟨row, hrows row hrow (L.owner_of_index hindex), hindex, hne⟩

omit [DecidableEq ο] in
/-- A call that moves on leaves its traces, if its owner is there. -/
theorem Moves.kept {owner : ο} {call : Call κ ν}
    (h : Moves L isEmpty s call) (hsettled : Settled L owner s)
    (howner : L.owner call.key = owner) : Kept L s call := by
  cases call with
  | inserting key value => trivial
  | checking key =>
      have hthere : s.owners (L.owner key) = true := by
        rw [show L.owner key = owner from howner]
        exact hsettled.there
      change s.refuses L key = true at h
      simpa [State.refuses, hthere, Kept] using h
  | returned key stored => exact fun hstored => get_isSome_iff.mp (h hstored)
  | raised key =>
      obtain ⟨hnone, caller, hcall⟩ := h
      obtain ⟨row, hrow, hindex⟩ := hsettled.calls caller _ hcall howner
      refine ⟨row, hrow, hindex, fun hkey => ?_⟩
      have hsome := get_isSome_iff.mpr ⟨row, hrow, hkey⟩
      rw [hnone] at hsome
      cases hsome

/-- A transaction that deletes nothing of an owner keeps the owner's rows. -/
theorem rows_step {owner : ο} {a : Action κ ν ο}
    (ha : a.disturbs owner = false) {row : Row κ ν} (hrow : row ∈ s.rows)
    (howner : L.owner row.key = owner) :
    row ∈ (s.step L isEmpty a).rows := by
  cases step_effect L isEmpty s a with
  | quiet hrows _ _ =>
      rw [hrows]
      exact hrow
  | moved caller call _ heq =>
      rw [heq]
      exact hrow
  | added caller key value _ _ heq =>
      rw [heq]
      exact List.mem_append_left _ hrow
  | deleted owner' hdisturbs hrows _ _ =>
      rw [hrows]
      refine List.mem_filter.mpr ⟨hrow, decide_eq_true fun heq => ?_⟩
      rw [← heq, howner, ha] at hdisturbs
      cases hdisturbs

theorem Settled.step {owner : ο} (h : Settled L owner s)
    {a : Action κ ν ο} (ha : a.disturbs owner = false) :
    Settled L owner (s.step L isEmpty a) := by
  have hrows : ∀ call : Call κ ν, L.owner call.key = owner →
      ∀ row ∈ s.rows, L.owner row.key = L.owner call.key →
        row ∈ (s.step L isEmpty a).rows := fun call hcall row hrow heq =>
    rows_step ha hrow (heq.trans hcall)
  have heffect := step_effect L isEmpty s a
  generalize s.step L isEmpty a = t at hrows heffect
  cases heffect with
  | quiet _ hcalls howners =>
      refine ⟨howners owner h.there, fun caller call hcall hkey => ?_⟩
      rw [hcalls] at hcall
      exact (h.calls caller call hcall hkey).mono (hrows call hkey)
  | moved caller call hmoves heq =>
      subst heq
      refine ⟨h.there, fun other call' hother hkey => ?_⟩
      rcases settle_calls hother with rfl | hcall
      · exact (hmoves.kept h hkey).mono (hrows _ hkey)
      · exact (h.calls other call' hcall hkey).mono (hrows _ hkey)
  | added caller key value _ _ heq =>
      subst heq
      refine ⟨h.there, fun other call' hother hkey => ?_⟩
      rcases settle_calls hother with rfl | hcall
      · exact fun _ => ⟨⟨key, value⟩,
          List.mem_append_right _ (List.mem_singleton.mpr rfl), rfl⟩
      · exact (h.calls other call' hcall hkey).mono (hrows _ hkey)
  | deleted owner' hdisturbs _ hcalls howners =>
      have hne : owner ≠ owner' := by
        rintro rfl
        rw [ha] at hdisturbs
        cases hdisturbs
      refine ⟨howners owner hne h.there, fun caller call hcall hkey => ?_⟩
      rw [hcalls] at hcall
      exact (h.calls caller call hcall hkey).mono (hrows call hkey)

/-- The traces of a run that deletes nothing of an owner. -/
theorem Settled.exec {owner : ο} (h : Settled L owner s)
    {as : List (Action κ ν ο)} (has : ∀ a ∈ as, a.disturbs owner = false) :
    Settled L owner ((cacheSystem L isEmpty).exec s as) := by
  induction as generalizing s with
  | nil => exact h
  | cons a as ih =>
      obtain ⟨ha, has⟩ := List.forall_mem_cons.mp has
      exact ih (h.step ha) has

/-- The rows of a run that deletes nothing of an owner. -/
theorem rows_exec {owner : ο} {as : List (Action κ ν ο)}
    (has : ∀ a ∈ as, a.disturbs owner = false) {row : Row κ ν}
    (hrow : row ∈ s.rows) (howner : L.owner row.key = owner) :
    row ∈ ((cacheSystem L isEmpty).exec s as).rows := by
  induction as generalizing s with
  | nil => exact hrow
  | cons a as ih =>
      obtain ⟨ha, has⟩ := List.forall_mem_cons.mp has
      exact ih has (rows_step ha hrow howner)

/-- The first value stored stays, as long as nothing of its owner is
deleted. -/
theorem get_exec (h : Reachable (cacheSystem L isEmpty) s) {key : κ}
    {value : ν} {as : List (Action κ ν ο)}
    (has : ∀ a ∈ as, a.disturbs (L.owner key) = false)
    (hget : s.get key = some value) :
    ((cacheSystem L isEmpty).exec s as).get key = some value := by
  have hrow := (consistent_reachable h).get_eq_some_iff.mp hget
  exact (consistent_reachable (h.exec as)).get_eq_some_iff.mpr
    (rows_exec has hrow rfl)

omit [DecidableEq κ] [DecidableEq ο] [DecidableEq ι] in
/-- A call that has come to its end has failed exactly where the row that
holds its place in the index is of another key. -/
theorem raised_iff {owner : ο} (hconsistent : Consistent L isEmpty s)
    (h : Settled L owner s) {caller : Nat} {key : κ}
    (hkey : L.owner key = owner)
    (hend : s.calls caller = some (.raised key)
      ∨ s.calls caller = some (.returned key true)) :
    s.calls caller = some (.raised key)
      ↔ ∃ row ∈ s.rows, L.index row.key = L.index key ∧ row.key ≠ key := by
  refine ⟨fun hraised => h.calls caller _ hraised hkey, ?_⟩
  rintro ⟨row, hrow, hindex, hne⟩
  refine hend.resolve_right fun hreturned => ?_
  obtain ⟨row', hrow', rfl⟩ := h.calls caller _ hreturned hkey rfl
  exact hne (congrArg Row.key (hconsistent.row_unique hrow hrow' hindex))

end

end FirstWriter
