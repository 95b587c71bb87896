/-
Schemas of JSON values, and normalisers that rewrite the fields of a
dictionary in place.

# Validators

A validator reads a value, or refuses it: `text` and `list` keep a
length between bounds, `object` forbids extra keys, `field` reads a
required one. `Carries validate f keeps after` says what a validator
makes of a value it reads once `f` has rewritten the value: it refuses
it, or it reads `after` of what it read before.

# Rewriting

`rewriteAll` sets fields one after the other, each to a function of its
value. Under distinct keys a field is found rewritten once
(`find?_rewriteAll_of_mem`), and rewriting a second time changes nothing
exactly when every function is settled on the field it rewrites
(`rewriteAll_rewriteAll_iff`).
-/
import DeepResearch.Lib.Dict
import DeepResearch.Lib.Json

namespace Schema

universe u v

variable {F : Type u} {α : Type v}

-- ============================================================== validators

/-- The least and the most length. -/
structure Bounds where
  least : Nat
  most : Nat

def Bounds.Admits (bounds : Bounds) (length : Nat) : Prop :=
  bounds.least ≤ length ∧ length ≤ bounds.most

instance (bounds : Bounds) (length : Nat) :
    Decidable (bounds.Admits length) :=
  inferInstanceAs (Decidable (_ ∧ _))

/-- A text between bounds. -/
def text (bounds : Bounds) : Json F → Option String
  | .str value => if bounds.Admits value.length then some value else none
  | _ => none

/-- A list between bounds. -/
def list (bounds : Bounds) (item : Json F → Option α) :
    Json F → Option (List α)
  | .list items =>
      if bounds.Admits items.length then items.mapM item else none
  | _ => none

/-- A dictionary with no keys but these. -/
def object (names : List String) : Json F → Option (List (String × Json F))
  | .dict items =>
      if ∀ item ∈ items, item.1 ∈ names then some items else none
  | _ => none

/-- A required field. -/
def field (validate : Json F → Option α) (items : List (String × Json F))
    (key : String) : Option α :=
  (Json.find? items key).bind validate

variable {bounds : Bounds} {value : Json F}

/-- A text is read if its length is admitted. -/
theorem text_eq_some_iff {read : String} :
    text bounds value = some read
      ↔ value = .str read ∧ bounds.Admits read.length := by
  cases value with
  | str found =>
      unfold text
      rw [Option.ite_none_right_eq_some, Option.some.injEq, Json.str.injEq]
      constructor
      · rintro ⟨hlength, rfl⟩
        exact ⟨rfl, hlength⟩
      · rintro ⟨rfl, hlength⟩
        exact ⟨hlength, rfl⟩
  | _ => exact ⟨fun h => (nomatch h), fun h => (nomatch h.1)⟩

/-- A list is read if its length is admitted and each item is read. -/
theorem list_eq_some_iff {item : Json F → Option α} {read : List α} :
    list bounds item value = some read
      ↔ ∃ items, value = .list items ∧ bounds.Admits items.length
        ∧ items.mapM item = some read := by
  cases value with
  | list found =>
      unfold list
      rw [Option.ite_none_right_eq_some]
      constructor
      · rintro ⟨hlength, hread⟩
        exact ⟨found, rfl, hlength, hread⟩
      · rintro ⟨items, hitems, h⟩
        cases hitems
        exact h
  | _ => exact ⟨fun h => (nomatch h), fun ⟨_, h, _⟩ => (nomatch h)⟩

/-- A dictionary is read if it has no other names. -/
theorem object_eq_some_iff {names : List String}
    {items : List (String × Json F)} :
    object names value = some items
      ↔ value = .dict items ∧ ∀ key ∈ items.map Prod.fst, key ∈ names := by
  cases value with
  | dict found =>
      unfold object
      rw [Option.ite_none_right_eq_some, Option.some.injEq, Json.dict.injEq,
        List.forall_mem_map]
      constructor
      · rintro ⟨hnames, rfl⟩
        exact ⟨rfl, hnames⟩
      · rintro ⟨rfl, hnames⟩
        exact ⟨hnames, rfl⟩
  | _ => exact ⟨fun h => (nomatch h), fun h => (nomatch h.1)⟩

theorem mapM_cons_eq_some_iff {item : Json F → Option α} {first : Json F}
    {items : List (Json F)} {read : List α} :
    (first :: items).mapM item = some read
      ↔ ∃ x xs, item first = some x ∧ items.mapM item = some xs
        ∧ read = x :: xs := by
  rw [List.mapM_cons]
  simp only [bind, Option.bind_eq_some_iff, pure, Option.some.injEq]
  constructor
  · rintro ⟨x, hx, xs, hxs, rfl⟩
    exact ⟨x, xs, hx, hxs, rfl⟩
  · rintro ⟨x, xs, hx, hxs, rfl⟩
    exact ⟨x, hx, xs, hxs, rfl⟩

-- ======================================================= normalised values

/-- What a validator reads in a value that it reads, once the value is
rewritten: nothing, or `after` of what it read. -/
def Carries (validate : Json F → Option α) (f : Json F → Json F)
    (keeps : α → Prop) (after : α → α) : Prop :=
  ∀ value read, validate value = some read →
    ∀ read', validate (f value) = some read'
      ↔ keeps read ∧ read' = after read

/-- A list is rewritten item by item. -/
theorem Carries.mapM {item : Json F → Option α} {f : Json F → Json F}
    {keeps : α → Prop} {after : α → α} (h : Carries item f keeps after)
    {items : List (Json F)} {read : List α}
    (hread : items.mapM item = some read) (read' : List α) :
    (items.map f).mapM item = some read'
      ↔ (∀ x ∈ read, keeps x) ∧ read' = read.map after := by
  induction items generalizing read read' with
  | nil =>
      have hnil : read = [] := (Option.some.inj hread).symm
      subst hnil
      show some [] = some read' ↔ _
      rw [Option.some.injEq]
      exact ⟨fun h => ⟨nofun, h.symm⟩, fun h => h.2.symm⟩
  | cons first items ih =>
      obtain ⟨x, xs, hx, hxs, rfl⟩ := mapM_cons_eq_some_iff.mp hread
      rw [List.map_cons, mapM_cons_eq_some_iff, List.map_cons,
        List.forall_mem_cons]
      constructor
      · rintro ⟨y, ys, hy, hys, rfl⟩
        obtain ⟨hkeeps, rfl⟩ := (h first x hx y).mp hy
        obtain ⟨hkeeps', rfl⟩ := (ih hxs ys).mp hys
        exact ⟨⟨hkeeps, hkeeps'⟩, rfl⟩
      · rintro ⟨⟨hkeeps, hkeeps'⟩, rfl⟩
        exact ⟨after x, xs.map after, (h first x hx _).mpr ⟨hkeeps, rfl⟩,
          (ih hxs _).mpr ⟨hkeeps', rfl⟩, rfl⟩

/-- The number of items does not change, so the bounds of a list do not
matter. -/
theorem Carries.list {item : Json F → Option α} {f : Json F → Json F}
    {keeps : α → Prop} {after : α → α} (h : Carries item f keeps after)
    {g : Json F → Json F}
    (hg : ∀ items, items.length ≤ bounds.most →
      g (.list items) = .list (items.map f)) :
    Carries (list bounds item) g (fun read => ∀ x ∈ read, keeps x)
      (List.map after) := by
  intro value read hread read'
  obtain ⟨items, rfl, hlength, hitems⟩ := list_eq_some_iff.mp hread
  rw [hg items hlength.2, list_eq_some_iff, ← h.mapM hitems]
  constructor
  · rintro ⟨items', hitems', -, hread'⟩
    cases hitems'
    exact hread'
  · intro hread'
    exact ⟨items.map f, rfl, by rwa [List.length_map], hread'⟩

-- ============================================================== rewriting

/-- A field, and what becomes of its value. -/
abbrev Rule (F : Type u) := String × (Json F → Json F)

/-- `payload[key] = value`. -/
def put (items : List (String × Json F)) (key : String) (value : Json F) :
    List (String × Json F) :=
  Dict.assign Prod.fst items (key, value)

/-- `payload[key] = f(payload.get(key))`. -/
def rewrite (items : List (String × Json F)) (rule : Rule F) :
    List (String × Json F) :=
  put items rule.1 (rule.2 (Json.get items rule.1))

/-- One field after the other. -/
def rewriteAll (items : List (String × Json F)) (rules : List (Rule F)) :
    List (String × Json F) :=
  rules.foldl rewrite items

variable {items : List (String × Json F)} {rules : List (Rule F)}
  {rule : Rule F} {key : String}

theorem find?_put (items : List (String × Json F)) (key : String)
    (value : Json F) (key' : String) :
    Json.find? (put items key value) key'
      = if key = key' then some value else Json.find? items key' := by
  show (Table.lookup Prod.fst key' (Dict.assign Prod.fst items _)).map _ = _
  rw [Dict.lookup_assign]
  split
  · rfl
  · rfl

/-- A field without a rule is found as before. -/
theorem find?_rewriteAll_of_notMem (h : key ∉ rules.map Prod.fst) :
    Json.find? (rewriteAll items rules) key = Json.find? items key := by
  induction rules generalizing items with
  | nil => rfl
  | cons rule rules ih =>
      rw [List.map_cons, List.mem_cons, not_or] at h
      show Json.find? (rewriteAll (rewrite items rule) rules) key = _
      rw [ih h.2, rewrite, find?_put, if_neg (Ne.symm h.1)]

theorem get_rewriteAll_of_notMem (h : key ∉ rules.map Prod.fst) :
    Json.get (rewriteAll items rules) key = Json.get items key := by
  unfold Json.get
  rw [find?_rewriteAll_of_notMem h]

/-- A field is rewritten once, from the value it had at the start. -/
theorem find?_rewriteAll_of_mem (hnodup : (rules.map Prod.fst).Nodup)
    (h : rule ∈ rules) :
    Json.find? (rewriteAll items rules) rule.1
      = some (rule.2 (Json.get items rule.1)) := by
  induction rules generalizing items with
  | nil => cases h
  | cons first rules ih =>
      rw [List.map_cons, List.nodup_cons] at hnodup
      show Json.find? (rewriteAll (rewrite items first) rules) rule.1 = _
      rcases List.mem_cons.mp h with rfl | h
      · rw [find?_rewriteAll_of_notMem hnodup.1, rewrite, find?_put,
          if_pos rfl]
      · have hne : first.1 ≠ rule.1 := fun heq =>
          hnodup.1 (heq ▸ List.mem_map_of_mem h)
        rw [ih hnodup.2 h]
        unfold Json.get
        rw [rewrite, find?_put, if_neg hne]

/-- A field with a rule is rewritten once. -/
theorem get_rewriteAll_of_mem (hnodup : (rules.map Prod.fst).Nodup)
    (h : rule ∈ rules) :
    Json.get (rewriteAll items rules) rule.1
      = rule.2 (Json.get items rule.1) := by
  unfold Json.get
  rw [find?_rewriteAll_of_mem hnodup h]
  rfl

theorem field_rewriteAll_of_notMem (validate : Json F → Option α)
    (h : key ∉ rules.map Prod.fst) :
    field validate (rewriteAll items rules) key
      = field validate items key := by
  unfold field
  rw [find?_rewriteAll_of_notMem h]

/-- A field that was read, once it is rewritten. -/
theorem Carries.field {validate : Json F → Option α} {f : Json F → Json F}
    {keeps : α → Prop} {after : α → α} (h : Carries validate f keeps after)
    (hnodup : (rules.map Prod.fst).Nodup) (hmem : (key, f) ∈ rules)
    {read : α} (hread : field validate items key = some read) (read' : α) :
    field validate (rewriteAll items rules) key = some read'
      ↔ keeps read ∧ read' = after read := by
  obtain ⟨value, hvalue, hread⟩ := Option.bind_eq_some_iff.mp hread
  have hget : Json.get items key = value := by
    rw [Json.get, hvalue, Option.getD_some]
  have hfound : Json.find? (rewriteAll items rules) key
      = some (f (Json.get items key)) := find?_rewriteAll_of_mem hnodup hmem
  rw [Schema.field, hfound, Option.bind_some, hget]
  exact h value read hread read'

/-- A rewriting adds the names of its rules. -/
theorem mem_keys_rewriteAll :
    key ∈ (rewriteAll items rules).map Prod.fst
      ↔ key ∈ items.map Prod.fst ∨ key ∈ rules.map Prod.fst := by
  induction rules generalizing items with
  | nil => simp [rewriteAll]
  | cons rule rules ih =>
      show key ∈ (rewriteAll (rewrite items rule) rules).map Prod.fst ↔ _
      rw [ih, rewrite, put, Dict.map_key_assign, List.map_cons,
        List.mem_cons]
      split
      case isTrue hmem =>
        constructor
        · rintro (h | h)
          · exact .inl h
          · exact .inr (.inr h)
        · rintro (h | rfl | h)
          · exact .inl h
          · exact .inl hmem
          · exact .inr h
      case isFalse =>
        rw [List.mem_append, List.mem_singleton]
        exact or_assoc

-- ---------------------------------------------------------- a second time

theorem stored_rewriteAll_of_notMem {row : String × Json F}
    (hrow : row.1 ∉ rules.map Prod.fst)
    (hstored : Dict.Stored Prod.fst items row) :
    Dict.Stored Prod.fst (rewriteAll items rules) row := by
  induction rules generalizing items with
  | nil => exact hstored
  | cons rule rules ih =>
      rw [List.map_cons, List.mem_cons, not_or] at hrow
      exact ih hrow.2 (hstored.assign_of_ne hrow.1)

/-- A rewritten field stays as it is, whatever is rewritten after. -/
theorem stored_rewriteAll (hnodup : (rules.map Prod.fst).Nodup)
    (h : rule ∈ rules) :
    Dict.Stored Prod.fst (rewriteAll items rules)
      (rule.1, rule.2 (Json.get items rule.1)) := by
  induction rules generalizing items with
  | nil => cases h
  | cons first rules ih =>
      rw [List.map_cons, List.nodup_cons] at hnodup
      show Dict.Stored Prod.fst (rewriteAll (rewrite items first) rules) _
      rcases List.mem_cons.mp h with rfl | h
      · exact stored_rewriteAll_of_notMem hnodup.1 (Dict.stored_assign ..)
      · have hne : first.1 ≠ rule.1 := fun heq =>
          hnodup.1 (heq ▸ List.mem_map_of_mem h)
        have hget : Json.get (rewrite items first) rule.1
            = Json.get items rule.1 := by
          unfold Json.get
          rw [rewrite, find?_put, if_neg hne]
        rw [← hget]
        exact ih hnodup.2 h

/-- Rewriting again changes nothing exactly when every rule is settled
on its field. -/
theorem rewriteAll_rewriteAll_iff (hnodup : (rules.map Prod.fst).Nodup) :
    rewriteAll (rewriteAll items rules) rules = rewriteAll items rules
      ↔ ∀ rule ∈ rules, rule.2 (rule.2 (Json.get items rule.1))
        = rule.2 (Json.get items rule.1) := by
  constructor
  · intro h rule hrule
    rw [← get_rewriteAll_of_mem hnodup hrule,
      ← get_rewriteAll_of_mem hnodup hrule, h]
  · intro h
    have hsettled : ∀ rest : List (Rule F), (∀ rule ∈ rest, rule ∈ rules) →
        rewriteAll (rewriteAll items rules) rest
          = rewriteAll items rules := by
      intro rest hrest
      induction rest with
      | nil => rfl
      | cons rule rest ih =>
          have hrule : rule ∈ rules := hrest rule (List.mem_cons_self ..)
          have hsame : rewrite (rewriteAll items rules) rule
              = rewriteAll items rules := by
            unfold rewrite put
            rw [get_rewriteAll_of_mem hnodup hrule, h rule hrule]
            exact (stored_rewriteAll hnodup hrule).assign_eq
          show rewriteAll (rewrite (rewriteAll items rules) rule) rest = _
          rw [hsame]
          exact ih fun r hr => hrest r (List.mem_cons_of_mem _ hr)
    exact hsettled rules fun _ hrule => hrule

end Schema
