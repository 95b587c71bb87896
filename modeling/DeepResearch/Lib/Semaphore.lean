/-
A counting semaphore that serves those who wait in the order in which they
asked (`asyncio.Semaphore`).

# The queue

The deque of waiters is `woken ++ waiting`. A waiter in front has been
handed a permit and has not run since; until it runs it stays in the
deque, and a semaphore with a deque that is not empty is locked, whatever
its value.

# The books

A semaphore says nothing of who holds its permits. `Books` keeps that
beside it, as a role for every member: outside, in the deque, or holding a
permit. Each operation is the change of one role (`Books.take`,
`Books.enqueue`, `Books.resume`, `Books.release`, `Books.leave`), the
permits are conserved, and no permit lies idle while a member waits that
nobody has woken (`Books.full_of_waiting`).
-/
import Mathlib.Data.List.Nodup
import Mathlib.Data.List.Perm.Basic
import Mathlib.Logic.Function.Basic

universe u

/-- `Semaphore`: its `_value` and its `_waiters`. -/
structure Semaphore (α : Type u) where
  value : Nat
  woken : List α
  waiting : List α

namespace Semaphore

variable {α : Type u}

-- ============================================================== operations

/-- A semaphore nobody has asked yet. -/
def new (capacity : Nat) : Semaphore α := ⟨capacity, [], []⟩

/-- `locked()`: a permit cannot be had at once. -/
def locked (s : Semaphore α) : Bool :=
  s.value = 0 || !(s.woken ++ s.waiting).isEmpty

/-- `while self._value > 0: self._wake_up_next()`. -/
def wakeAll (value : Nat) (woken : List α) : List α → Semaphore α
  | [] => ⟨value, woken, []⟩
  | a :: waiting =>
      match value with
      | 0 => ⟨0, woken, a :: waiting⟩
      | value + 1 => wakeAll value (woken ++ [a]) waiting

/-- `acquire()` of a semaphore that is not locked. -/
def take (s : Semaphore α) : Semaphore α := { s with value := s.value - 1 }

/-- `acquire()` of a locked semaphore, up to its `await`. -/
def enqueue (s : Semaphore α) (a : α) : Semaphore α :=
  { s with waiting := s.waiting ++ [a] }

/-- `acquire()` from its `await` on, of a waiter that was woken. -/
def resume [DecidableEq α] (s : Semaphore α) (a : α) : Semaphore α :=
  wakeAll s.value (s.woken.erase a) s.waiting

/-- `acquire()` from its `await` on, of a waiter that is cancelled. A
permit it was handed goes back. -/
def leave [DecidableEq α] (s : Semaphore α) (a : α) : Semaphore α :=
  if a ∈ s.woken then wakeAll (s.value + 1) (s.woken.erase a) s.waiting
  else wakeAll s.value s.woken (s.waiting.erase a)

/-- `release()`: the first waiter that was not woken yet gets the permit. -/
def release (s : Semaphore α) : Semaphore α :=
  match s.waiting with
  | [] => { s with value := s.value + 1 }
  | a :: waiting => ⟨s.value, s.woken ++ [a], waiting⟩

-- =============================================================== the books

/-- Where a member stands with a semaphore. -/
inductive Role
  | outside
  | queued
  | holding
  deriving DecidableEq

/-- How many members hold a permit. -/
def held (members : List α) (role : α → Role) : Nat :=
  members.countP fun a => role a = .holding

/-- The semaphore and the roles of the members agree. -/
structure Books (members : List α) (capacity : Nat) (role : α → Role)
    (s : Semaphore α) : Prop where
  conserved : s.value + s.woken.length + held members role = capacity
  nodup : (s.woken ++ s.waiting).Nodup
  queued : ∀ a, a ∈ s.woken ++ s.waiting
    ↔ a ∈ members ∧ role a = .queued
  eager : s.waiting = [] ∨ s.value = 0 ∨ s.woken ≠ []

variable {members : List α} {capacity : Nat} {role : α → Role}
  {s : Semaphore α} {a : α}

/-- What changing one role does to the permits held. -/
theorem held_update [DecidableEq α] (role : α → Role)
    (hnodup : members.Nodup) (hmem : a ∈ members) (r : Role) :
    held members (Function.update role a r)
        + (if role a = .holding then 1 else 0)
      = held members role + if r = .holding then 1 else 0 := by
  unfold held
  induction members with
  | nil => cases hmem
  | cons b members ih =>
      obtain ⟨hb, hnodup⟩ := List.nodup_cons.mp hnodup
      rw [List.countP_cons, List.countP_cons]
      rcases List.mem_cons.mp hmem with rfl | hmem
      · have hrest : members.countP (fun c =>
            decide (Function.update role a r c = .holding))
            = members.countP fun c => decide (role c = .holding) := by
          refine List.countP_congr fun c hc => ?_
          have hne : c ≠ a := by
            rintro rfl
            exact hb hc
          rw [Function.update_of_ne hne]
        rw [hrest, Function.update_self]
        simp only [decide_eq_true_eq]
        omega
      · have hne : b ≠ a := by
          rintro rfl
          exact hb hmem
        have := ih hnodup hmem
        rw [Function.update_of_ne hne]
        omega

/-- What `wakeAll` does: it moves the front of those who wait to those
who are woken, a permit each, until one of the two runs out. -/
theorem wakeAll_spec (value : Nat) (woken waiting : List α) :
    (wakeAll value woken waiting).value
        + (wakeAll value woken waiting).woken.length
      = value + woken.length
    ∧ (wakeAll value woken waiting).woken
        ++ (wakeAll value woken waiting).waiting = woken ++ waiting
    ∧ ((wakeAll value woken waiting).waiting = []
      ∨ (wakeAll value woken waiting).value = 0) := by
  induction waiting generalizing value woken with
  | nil => simp [wakeAll]
  | cons a waiting ih =>
      cases value with
      | zero => exact ⟨rfl, rfl, .inr rfl⟩
      | succ value =>
          obtain ⟨hsum, hdeque, hend⟩ := ih value (woken ++ [a])
          refine ⟨?_, ?_, hend⟩
          · rw [wakeAll, hsum, List.length_append, List.length_singleton]
            omega
          · rw [wakeAll, hdeque, List.append_assoc]
            rfl

namespace Books

/-- At first everyone is outside. -/
theorem new (hrole : ∀ a ∈ members, role a = .outside) :
    Books members capacity role (Semaphore.new capacity) where
  conserved := by
    have hheld : held members role = 0 := by
      refine List.countP_eq_zero.mpr fun a ha => ?_
      rw [hrole a ha]
      decide
    rw [hheld]
    rfl
  nodup := List.nodup_nil
  queued a := by
    constructor
    · intro h
      cases h
    · rintro ⟨ha, h⟩
      rw [hrole a ha] at h
      cases h
  eager := .inl rfl

/-- Books after the loop that wakes: it is enough to know them before. -/
theorem wakeAll {value : Nat} {woken waiting : List α}
    (conserved : value + woken.length + held members role = capacity)
    (nodup : (woken ++ waiting).Nodup)
    (queued : ∀ a, a ∈ woken ++ waiting ↔ a ∈ members ∧ role a = .queued) :
    Books members capacity role (Semaphore.wakeAll value woken waiting) := by
  obtain ⟨hsum, hdeque, hend⟩ := wakeAll_spec value woken waiting
  refine ⟨by omega, hdeque ▸ nodup, ?_, ?_⟩
  · rw [hdeque]
    exact queued
  · rcases hend with hnil | hzero
    · exact .inl hnil
    · exact .inr (.inl hzero)

/-- No member holds a permit beyond the capacity. -/
theorem held_le (h : Books members capacity role s) :
    held members role ≤ capacity := by
  have := h.conserved
  omega

/-- While a member waits that nobody has woken and nobody woken is still
to run, every permit is held. -/
theorem full_of_waiting (h : Books members capacity role s)
    (hidle : s.woken = []) (hwaiting : s.waiting ≠ []) :
    held members role = capacity := by
  have hvalue : s.value = 0 := by
    rcases h.eager with hnil | hzero | hwoken
    · exact absurd hnil hwaiting
    · exact hzero
    · exact absurd hidle hwoken
  have := h.conserved
  rw [hvalue, hidle, List.length_nil] at this
  omega

section

variable [DecidableEq α] (hnodup : members.Nodup) (hmem : a ∈ members)
include hnodup hmem

/-- A permit is taken. -/
theorem take (h : Books members capacity role s) (hrole : role a = .outside)
    (hfree : s.locked = false) :
    Books members capacity (Function.update role a .holding) s.take := by
  have hheld := held_update role hnodup hmem .holding
  rw [hrole] at hheld
  have hparts : s.value ≠ 0 ∧ s.woken = [] ∧ s.waiting = [] := by
    simpa [locked] using hfree
  have hconserved := h.conserved
  refine ⟨?_, h.nodup, fun b => ?_, .inl hparts.2.2⟩
  · show s.value - 1 + s.woken.length + _ = _
    simp only [reduceCtorEq, if_false, if_true] at hheld
    omega
  · show b ∈ s.woken ++ s.waiting ↔ _
    rw [h.queued b]
    by_cases hba : b = a
    · subst hba
      simp [hrole]
    · rw [Function.update_of_ne hba]

/-- A member joins the deque. -/
theorem enqueue (h : Books members capacity role s)
    (hrole : role a = .outside) (hlocked : s.locked = true) :
    Books members capacity (Function.update role a .queued)
      (s.enqueue a) := by
  have hheld := held_update role hnodup hmem .queued
  rw [hrole] at hheld
  have hnot : a ∉ s.woken ++ s.waiting := by
    rw [h.queued a, hrole]
    exact fun hqueued => Role.noConfusion hqueued.2
  have hconserved := h.conserved
  refine ⟨?_, ?_, fun b => ?_, ?_⟩
  · show s.value + s.woken.length + _ = _
    simp only [reduceCtorEq, if_false] at hheld
    omega
  · show (s.woken ++ (s.waiting ++ [a])).Nodup
    rw [← List.append_assoc]
    exact List.nodup_append'.mpr ⟨h.nodup, List.nodup_singleton a,
      List.disjoint_singleton.mpr hnot⟩
  · show b ∈ s.woken ++ (s.waiting ++ [a]) ↔ _
    rw [← List.append_assoc, List.mem_append, h.queued b,
      List.mem_singleton]
    by_cases hba : b = a
    · subst hba
      simp [hmem]
    · rw [Function.update_of_ne hba]
      simp [hba]
  · show s.waiting ++ [a] = [] ∨ s.value = 0 ∨ s.woken ≠ []
    right
    rcases h.eager with hnil | hend
    · by_cases hvalue : s.value = 0
      · exact .inl hvalue
      · right
        intro hwoken
        simp [locked, hnil, hwoken, hvalue] at hlocked
    · exact hend

/-- A member that was woken has its permit. -/
theorem resume (h : Books members capacity role s) (hwoken : a ∈ s.woken) :
    Books members capacity (Function.update role a .holding)
      (s.resume a) := by
  have hrole : role a = .queued :=
    ((h.queued a).mp (List.mem_append_left _ hwoken)).2
  have hheld := held_update role hnodup hmem .holding
  rw [hrole] at hheld
  have hconserved := h.conserved
  have hlength := List.length_erase_of_mem hwoken
  have hpos := List.length_pos_of_mem hwoken
  have hdeque : s.woken.erase a ++ s.waiting
      = (s.woken ++ s.waiting).erase a :=
    (List.erase_append_left _ hwoken).symm
  refine .wakeAll ?_ ?_ fun b => ?_
  · simp only [reduceCtorEq, if_false, if_true] at hheld
    omega
  · rw [hdeque]
    exact h.nodup.erase a
  · rw [hdeque, h.nodup.mem_erase_iff, h.queued b]
    by_cases hba : b = a
    · subst hba
      simp
    · rw [Function.update_of_ne hba]
      simp [hba]

/-- A member leaves the deque. -/
theorem leave (h : Books members capacity role s)
    (hrole : role a = .queued) :
    Books members capacity (Function.update role a .outside)
      (s.leave a) := by
  have hheld := held_update role hnodup hmem .outside
  rw [hrole] at hheld
  simp only [reduceCtorEq, if_false] at hheld
  have hconserved := h.conserved
  have hqueued : ∀ b, b ∈ (s.woken ++ s.waiting).erase a
      ↔ b ∈ members ∧ Function.update role a .outside b = .queued :=
    fun b => by
    rw [h.nodup.mem_erase_iff, h.queued b]
    by_cases hba : b = a
    · subst hba
      simp
    · rw [Function.update_of_ne hba]
      simp [hba]
  unfold Semaphore.leave
  split
  case isTrue hwoken =>
    have hlength := List.length_erase_of_mem hwoken
    have hpos := List.length_pos_of_mem hwoken
    have hdeque := List.erase_append_left s.waiting hwoken
    refine .wakeAll (by omega) ?_ ?_
    · rw [← hdeque]
      exact h.nodup.erase a
    · rw [← hdeque]
      exact hqueued
  case isFalse hwoken =>
    have hdeque := List.erase_append_right s.waiting hwoken
    refine .wakeAll (by omega) ?_ ?_
    · rw [← hdeque]
      exact h.nodup.erase a
    · rw [← hdeque]
      exact hqueued

/-- A permit is given back. -/
theorem release (h : Books members capacity role s)
    (hrole : role a = .holding) :
    Books members capacity (Function.update role a .outside) s.release := by
  have hheld := held_update role hnodup hmem .outside
  rw [hrole] at hheld
  simp only [reduceCtorEq, if_false, if_true] at hheld
  have hconserved := h.conserved
  have hqueued : ∀ b, b ∈ s.woken ++ s.waiting
      ↔ b ∈ members ∧ Function.update role a .outside b = .queued :=
    fun b => by
    rw [h.queued b]
    by_cases hba : b = a
    · subst hba
      simp [hrole]
    · rw [Function.update_of_ne hba]
  unfold Semaphore.release
  split
  next hnil =>
    exact ⟨by dsimp only; omega, h.nodup, hqueued, .inl hnil⟩
  next b waiting hcons =>
    have hdeque : s.woken ++ [b] ++ waiting = s.woken ++ s.waiting := by
      rw [hcons, List.append_assoc]
      rfl
    refine ⟨?_, hdeque ▸ h.nodup, ?_, .inr (.inr ?_)⟩
    · rw [List.length_append, List.length_singleton]
      dsimp only
      omega
    · dsimp only
      rw [hdeque]
      exact hqueued
    · exact List.append_ne_nil_of_right_ne_nil _ (List.cons_ne_nil b [])

end

end Books

end Semaphore
