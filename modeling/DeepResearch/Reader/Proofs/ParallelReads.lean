/-
Concurrent page reads stay within their caps and come to an end.

Every move of a task changes its role with at most the semaphore of its
host and the pool, as the phase says (`Phase.hostRole`, `Phase.poolRole`).
So the books of all semaphores are kept by every move
(`ReadInv.move`), and by a turn, which is three moves.

- The caps are the books of the semaphores (`parallel_reads_bounded`).
- A task left waiting by an idle event loop waits for a slot that another
  task holds (`parallel_reads_work_conserving`).
- Every move goes down a measure, and a task that has not ended and
  cannot run waits, in the end, for a read (`parallel_reads_complete`).
-/
import DeepResearch.Reader.ParallelReads
import Mathlib.Algebra.BigOperators.Group.List.Basic
import Mathlib.Algebra.Order.BigOperators.Group.List
import Mathlib.Algebra.Order.Group.Nat
import Mathlib.Algebra.GroupWithZero.Nat

namespace DeepResearch.Reader

open DeepResearch.Source (UrlText)
open Semaphore (Books Role)
open Transition (Reachable)

variable {Page : Type} {b : ReadBatch} {s : ReadState Page} {url : UrlText}

-- =============================================================== the roles

/-- What a task holds of the semaphore of its host. -/
def Phase.hostRole : Phase Page → Role
  | .atHost => .queued
  | .admitted => .holding
  | .atPool => .holding
  | .ready => .holding
  | .reading => .holding
  | _ => .outside

/-- What a task holds of the pool. -/
def Phase.poolRole : Phase Page → Role
  | .atPool => .queued
  | .ready => .holding
  | .reading => .holding
  | _ => .outside

/-- The tasks in their places at the semaphore of a host. -/
def ReadState.hostRole (b : ReadBatch) (host : UrlText)
    (s : ReadState Page) (url : UrlText) : Role :=
  if b.host url = host then (s.phase url).hostRole else .outside

/-- The tasks in their places at the pool. -/
def ReadState.poolRole (s : ReadState Page) (url : UrlText) : Role :=
  (s.phase url).poolRole

/-- The read has begun, or will not. -/
def Phase.isPast : Phase Page → Bool
  | .reading => true
  | .done _ => true
  | .raised => true
  | .cancelled => true
  | _ => false

/-- There is something of a read. -/
def Phase.hasRead : Phase Page → Bool
  | .reading => true
  | .done outcome => outcome.page.isSome
  | _ => false

/-- The books of the semaphores, and those of the reader. -/
structure ReadInv (b : ReadBatch) (s : ReadState Page) : Prop where
  pool : Books b.uniqueUrls b.maxConcurrency s.poolRole s.pool
  hosts : ∀ host,
    Books b.uniqueUrls b.maxSameHost (s.hostRole b host) (s.hosts host)
  reads_nodup : s.reads.Nodup
  reads_past : ∀ url ∈ s.reads,
    url ∈ b.uniqueUrls ∧ (s.phase url).isPast = true
  has_read : ∀ url ∈ b.uniqueUrls,
    (s.phase url).hasRead = true → url ∈ s.reads

namespace ReadState

/-- A move changes the role of its own task in the pool. -/
theorem poolRole_move (phase : Phase Page) (host pool : Semaphore UrlText) :
    (s.move b url phase host pool).poolRole
      = Function.update s.poolRole url phase.poolRole := by
  funext v
  exact Function.apply_update (fun _ p => p.poolRole) s.phase url phase v

/-- And at the host of its own task. -/
theorem hostRole_move (phase : Phase Page) (host pool : Semaphore UrlText) :
    (s.move b url phase host pool).hostRole b (b.host url)
      = Function.update (s.hostRole b (b.host url)) url phase.hostRole := by
  funext v
  by_cases hv : v = url
  · subst hv
    rw [Function.update_self, hostRole, if_pos rfl]
    exact congrArg Phase.hostRole (Function.update_self ..)
  · rw [Function.update_of_ne hv, hostRole, hostRole]
    rw [show (s.move b url phase host pool).phase v = s.phase v from
      Function.update_of_ne hv ..]

/-- At every other host nothing changes. -/
theorem hostRole_move_of_ne (phase : Phase Page)
    (host pool : Semaphore UrlText) {other : UrlText}
    (hne : other ≠ b.host url) :
    (s.move b url phase host pool).hostRole b other
      = s.hostRole b other := by
  funext v
  by_cases hv : v = url
  · subst hv
    rw [hostRole, hostRole, if_neg hne.symm, if_neg hne.symm]
  · rw [hostRole, hostRole]
    rw [show (s.move b url phase host pool).phase v = s.phase v from
      Function.update_of_ne hv ..]

/-- A task that keeps its place at the pool. -/
theorem poolRole_same {phase : Phase Page}
    (h : (s.phase url).poolRole = phase.poolRole) :
    Function.update s.poolRole url phase.poolRole = s.poolRole := by
  rw [← h]
  exact Function.update_eq_self url s.poolRole

/-- A task that keeps its place at its host. -/
theorem hostRole_same {phase : Phase Page}
    (h : (s.phase url).hostRole = phase.hostRole) :
    Function.update (s.hostRole b (b.host url)) url phase.hostRole
      = s.hostRole b (b.host url) := by
  have hself : s.hostRole b (b.host url) url = phase.hostRole := by
    rw [hostRole, if_pos rfl, h]
  rw [← hself]
  exact Function.update_eq_self url _

theorem poolRole_eq {phase : Phase Page} (h : s.phase url = phase) :
    s.poolRole url = phase.poolRole :=
  congrArg Phase.poolRole h

theorem hostRole_eq {phase : Phase Page} (h : s.phase url = phase) :
    s.hostRole b (b.host url) url = phase.hostRole := by
  rw [hostRole, if_pos rfl, h]

end ReadState

-- ================================================================ one move

namespace ReadInv

/-- A move keeps the books, if it keeps those of the two semaphores the
task deals with, and the reads are noted as the phase says. -/
theorem moveReads (h : ReadInv b s) {phase : Phase Page}
    {host pool : Semaphore UrlText} {reads : List UrlText}
    (hmem : url ∈ b.uniqueUrls)
    (hpool : Books b.uniqueUrls b.maxConcurrency
      (Function.update s.poolRole url phase.poolRole) pool)
    (hhost : Books b.uniqueUrls b.maxSameHost
      (Function.update (s.hostRole b (b.host url)) url phase.hostRole) host)
    (hnodup : reads.Nodup)
    (hothers : ∀ v, v ≠ url → (v ∈ reads ↔ v ∈ s.reads))
    (hpast : url ∈ reads → phase.isPast = true)
    (hread : phase.hasRead = true → url ∈ reads) :
    ReadInv b { s.move b url phase host pool with reads } where
  pool := by
    show Books _ _ (s.move b url phase host pool).poolRole pool
    rw [ReadState.poolRole_move]
    exact hpool
  hosts other := by
    show Books _ _ ((s.move b url phase host pool).hostRole b other)
      (Function.update s.hosts (b.host url) host other)
    -- Two tasks share a semaphore if they share a host.
    by_cases heq : other = b.host url
    · subst heq
      rw [ReadState.hostRole_move, Function.update_self]
      exact hhost
    · rw [ReadState.hostRole_move_of_ne _ _ _ heq,
        Function.update_of_ne heq]
      exact h.hosts other
  reads_nodup := hnodup
  reads_past v hv := by
    show v ∈ b.uniqueUrls
      ∧ (Function.update s.phase url phase v).isPast = true
    by_cases heq : v = url
    · subst heq
      rw [Function.update_self]
      exact ⟨hmem, hpast hv⟩
    · rw [Function.update_of_ne heq]
      exact h.reads_past v ((hothers v heq).mp hv)
  has_read v hv hvread := by
    change (Function.update s.phase url phase v).hasRead = true at hvread
    show v ∈ reads
    by_cases heq : v = url
    · subst heq
      rw [Function.update_self] at hvread
      exact hread hvread
    · rw [Function.update_of_ne heq] at hvread
      exact (hothers v heq).mpr (h.has_read v hv hvread)

/-- A move that calls no reader. -/
theorem move (h : ReadInv b s) {phase : Phase Page}
    {host pool : Semaphore UrlText} (hmem : url ∈ b.uniqueUrls)
    (hpool : Books b.uniqueUrls b.maxConcurrency
      (Function.update s.poolRole url phase.poolRole) pool)
    (hhost : Books b.uniqueUrls b.maxSameHost
      (Function.update (s.hostRole b (b.host url)) url phase.hostRole) host)
    (hpast : (s.phase url).isPast = true → phase.isPast = true)
    (hread : phase.hasRead = true → url ∈ s.reads) :
    ReadInv b (s.move b url phase host pool) :=
  h.moveReads hmem hpool hhost h.reads_nodup (fun _ _ => Iff.rfl)
    (fun hurl => hpast (h.reads_past url hurl).2) hread

/-- At first no task has asked for anything. -/
theorem start : ReadInv b (b.start : ReadState Page) where
  pool := .new fun _ _ => rfl
  hosts host := .new fun url _ => by
    show (if b.host url = host then Role.outside else .outside) = _
    split <;> rfl
  reads_nodup := List.nodup_nil
  reads_past url hurl := by cases hurl
  has_read url _ hread := by cases hread

variable (hmem : url ∈ b.uniqueUrls)
include hmem

/-- The permit of the host: taken, or the task queues for it. -/
theorem enterHost (h : ReadInv b s) : ReadInv b (s.enterHost b url) := by
  unfold ReadState.enterHost
  dsimp only
  split
  case h_1 hphase =>
    have hrole := ReadState.hostRole_eq (b := b) hphase
    have hpast : (s.phase url).isPast = false := by rw [hphase]; rfl
    split
    case isTrue hlocked =>
      refine h.move hmem ?_ ((h.hosts _).enqueue b.nodup hmem hrole hlocked)
        (by simp [hpast]) (by simp [Phase.hasRead])
      rw [ReadState.poolRole_same (by rw [hphase]; rfl)]
      exact h.pool
    case isFalse hlocked =>
      refine h.move hmem ?_ ((h.hosts _).take b.nodup hmem hrole
        (Bool.eq_false_iff.mpr hlocked)) (by simp [hpast])
        (by simp [Phase.hasRead])
      rw [ReadState.poolRole_same (by rw [hphase]; rfl)]
      exact h.pool
  case h_2 hphase =>
    split
    case isTrue hwoken =>
      refine h.move hmem ?_ ((h.hosts _).resume b.nodup hmem hwoken)
        (by simp [hphase, Phase.isPast]) (by simp [Phase.hasRead])
      rw [ReadState.poolRole_same (by rw [hphase]; rfl)]
      exact h.pool
    case isFalse => exact h
  case h_3 => exact h

/-- The permit of the pool: taken, or the task queues for it. -/
theorem enter (h : ReadInv b s) : ReadInv b (s.enter b url) := by
  unfold ReadState.enter
  dsimp only
  split
  case h_1 hphase =>
    have hrole := ReadState.poolRole_eq hphase
    split
    case isTrue hlocked =>
      refine h.move hmem (h.pool.enqueue b.nodup hmem hrole hlocked) ?_
        (by simp [hphase, Phase.isPast]) (by simp [Phase.hasRead])
      rw [ReadState.hostRole_same (by rw [hphase]; rfl)]
      exact h.hosts _
    case isFalse hlocked =>
      refine h.move hmem (h.pool.take b.nodup hmem hrole
        (Bool.eq_false_iff.mpr hlocked)) ?_
        (by simp [hphase, Phase.isPast]) (by simp [Phase.hasRead])
      rw [ReadState.hostRole_same (by rw [hphase]; rfl)]
      exact h.hosts _
  case h_2 hphase =>
    split
    case isTrue hwoken =>
      refine h.move hmem (h.pool.resume b.nodup hmem hwoken) ?_
        (by simp [hphase, Phase.isPast]) (by simp [Phase.hasRead])
      rw [ReadState.hostRole_same (by rw [hphase]; rfl)]
      exact h.hosts _
    case isFalse => exact h
  case h_3 => exact h

/-- Both slots go back when a task that holds them ends. -/
theorem settle (h : ReadInv b s) {phase : Phase Page}
    (hhost : (s.phase url).hostRole = .holding)
    (hpool : (s.phase url).poolRole = .holding)
    (hover : phase.isOver = true)
    (hread : phase.hasRead = true → url ∈ s.reads) :
    ReadInv b (s.settle b url phase) := by
  have houtside : phase.hostRole = .outside ∧ phase.poolRole = .outside
      ∧ phase.isPast = true := by
    cases phase <;> simp_all [Phase.isOver, Phase.hostRole, Phase.poolRole,
      Phase.isPast]
  refine h.move hmem ?_ ?_ (fun _ => houtside.2.2) hread
  · rw [houtside.2.1]
    exact h.pool.release b.nodup hmem hpool
  · rw [houtside.1]
    refine (h.hosts _).release b.nodup hmem ?_
    rw [ReadState.hostRole, if_pos rfl, hhost]

/-- A task that has both permits starts to read, or is over if its time is
up. -/
theorem begin (h : ReadInv b s) (expired : Bool) :
    ReadInv b (s.begin b expired url) := by
  unfold ReadState.begin
  split
  case h_1 hphase =>
    split
    case isTrue =>
      exact h.settle hmem (by rw [hphase]; rfl) (by rw [hphase]; rfl) rfl
        (by simp [Phase.hasRead])
    case isFalse =>
      have hnew : url ∉ s.reads := fun hmem => by
        have hpast := (h.reads_past url hmem).2
        rw [hphase] at hpast
        cases hpast
      refine h.moveReads hmem ?_ ?_ ?_ (fun v hv => ?_) (fun _ => rfl)
        fun _ => List.mem_append_right _ (List.mem_singleton.mpr rfl)
      · rw [ReadState.poolRole_same (by rw [hphase]; rfl)]
        exact h.pool
      · rw [ReadState.hostRole_same (by rw [hphase]; rfl)]
        exact h.hosts _
      · exact List.nodup_append'.mpr ⟨h.reads_nodup,
          List.nodup_singleton url, List.disjoint_singleton.mpr hnew⟩
      · rw [List.mem_append, List.mem_singleton]
        exact or_iff_left hv
  case h_2 => exact h

theorem run (h : ReadInv b s) (expired : Bool) :
    ReadInv b (s.run b url expired) :=
  ((h.enterHost hmem).enter hmem).begin hmem expired

/-- The end of a read gives both permits back. -/
theorem finish (h : ReadInv b s) (result : ReadResult Page) :
    ReadInv b (s.finish b url result) := by
  unfold ReadState.finish
  split
  case h_1 hphase =>
    refine h.settle hmem (by rw [hphase]; rfl) (by rw [hphase]; rfl) ?_
      fun _ => h.has_read url hmem (by rw [hphase]; rfl)
    cases result <;> rfl
  case h_2 => exact h

/-- A cancelled task gives back what it holds and leaves the queues. -/
theorem cancel (h : ReadInv b s) : ReadInv b (s.cancel b url) := by
  unfold ReadState.cancel
  dsimp only
  split
  case h_1 hphase =>
    refine h.move hmem ?_ ?_ (fun _ => rfl) (by simp [Phase.hasRead])
    · rw [ReadState.poolRole_same (by rw [hphase]; rfl)]
      exact h.pool
    · rw [ReadState.hostRole_same (by rw [hphase]; rfl)]
      exact h.hosts _
  case h_2 hphase =>
    refine h.move hmem ?_ ((h.hosts _).leave b.nodup hmem
      (ReadState.hostRole_eq hphase)) (fun _ => rfl) (by simp [Phase.hasRead])
    rw [ReadState.poolRole_same (by rw [hphase]; rfl)]
    exact h.pool
  case h_3 hphase =>
    exact h.move hmem (h.pool.leave b.nodup hmem (ReadState.poolRole_eq hphase))
      ((h.hosts _).release b.nodup hmem (ReadState.hostRole_eq hphase))
      (fun _ => rfl) (by simp [Phase.hasRead])
  case h_4 hphase =>
    exact h.settle hmem (by rw [hphase]; rfl) (by rw [hphase]; rfl) rfl
      (by simp [Phase.hasRead])
  case h_5 => exact h

end ReadInv

/-- Every action keeps the books. -/
theorem readInv_step (s : ReadState Page) (action : ReadAction Page)
    (h : ReadInv b s) : ReadInv b (s.step b action) := by
  unfold ReadState.step
  split
  case isTrue hmem =>
    cases action with
    | run url expired => exact h.run hmem expired
    | finish url result => exact h.finish hmem result
    | cancel url => exact h.cancel hmem
  case isFalse => exact h

/-- The books are kept in every state a call comes to. -/
theorem readInv_reachable (h : Reachable (readSystem Page b) s) :
    ReadInv b s :=
  h.invariant (fun _ hs => hs ▸ ReadInv.start) readInv_step

-- ========================================================== an example call

/-- Two pages of one host. -/
def firstPage : UrlText := "http://h/a".toList

def secondPage : UrlText := "http://h/b".toList

def twoPages : ReadBatch where
  uniqueUrls := fromKeys [firstPage, secondPage, firstPage]
  nodup := nodup_fromKeys _
  host := fun _ => "h".toList
  maxConcurrency := 2
  maxSameHost := 1
  concurrency_pos := Nat.two_pos
  sameHost_pos := Nat.one_pos
  hasDeadline := false

/-- The first turns of its tasks: one page is read, one waits. -/
def firstTurns : ReadState Unit :=
  (readSystem Unit twoPages).exec twoPages.start
    [.run firstPage false, .run secondPage false]

theorem firstTurns_reachable : Reachable (readSystem Unit twoPages) firstTurns :=
  Reachable.exec (.init rfl) _

-- ================================================================ the caps

/-- Whatever the schedule, the answers of the reader and the cancellations:
never more than `max_concurrency` reads are in flight, never more than
`max_same_host` at one host, and no URL is read twice. -/
theorem parallel_reads_bounded (h : Reachable (readSystem Page b) s) :
    s.inFlight b ≤ b.maxConcurrency
      ∧ (∀ host, s.inFlightAt b host ≤ b.maxSameHost)
      ∧ s.reads.Nodup ∧ ∀ url ∈ s.reads, url ∈ b.uniqueUrls := by
  have hinv := readInv_reachable h
  refine ⟨?_, fun host => ?_, hinv.reads_nodup, fun url hurl =>
    (hinv.reads_past url hurl).1⟩
  · refine le_trans (List.countP_mono_left fun url _ hreading => ?_)
      hinv.pool.held_le
    rw [ReadState.poolRole, decide_eq_true_eq]
    cases hphase : s.phase url <;> rw [hphase] at hreading <;>
      first | rfl | cases hreading
  · refine le_trans (List.countP_mono_left fun url _ hreading => ?_)
      (hinv.hosts host).held_le
    rw [Bool.and_eq_true, decide_eq_true_eq] at hreading
    rw [decide_eq_true_eq, ReadState.hostRole, if_pos hreading.1]
    replace hreading := hreading.2
    cases hphase : s.phase url <;> rw [hphase] at hreading <;>
      first | rfl | cases hreading

theorem parallel_reads_bounded_two :
    firstTurns.inFlight twoPages ≤ 2
      ∧ (∀ host, firstTurns.inFlightAt twoPages host ≤ 1)
      ∧ firstTurns.reads.Nodup
      ∧ ∀ url ∈ firstTurns.reads, url ∈ twoPages.uniqueUrls :=
  parallel_reads_bounded firstTurns_reachable

-- ============================================================= the measure

/-- What a task still has to do. -/
def Phase.weight : Phase Page → Nat
  | .created => 6
  | .atHost => 5
  | .admitted => 4
  | .atPool => 3
  | .ready => 2
  | .reading => 1
  | _ => 0

/-- What all tasks still have to do. -/
def ReadState.weight (b : ReadBatch) (s : ReadState Page) : Nat :=
  (b.uniqueUrls.map fun url => (s.phase url).weight).sum

/-- A step that leaves everything, or takes one task further. -/
def Descends (url : UrlText) (s s' : ReadState Page) : Prop :=
  s' = s ∨ (∀ v, v ≠ url → s'.phase v = s.phase v)
    ∧ (s'.phase url).weight < (s.phase url).weight

namespace Descends

variable {s' s'' : ReadState Page}

/-- No action raises the weight of a task. -/
theorem le (h : Descends url s s') :
    (s'.phase url).weight ≤ (s.phase url).weight := by
  rcases h with rfl | ⟨-, hlt⟩
  · exact Nat.le_refl _
  · exact Nat.le_of_lt hlt

/-- Descents compose, for one task. -/
theorem trans (h : Descends url s s') (h' : Descends url s' s'') :
    Descends url s s'' := by
  rcases h with rfl | ⟨hothers, hlt⟩
  · exact h'
  · rcases h' with rfl | ⟨hothers', hlt'⟩
    · exact .inr ⟨hothers, hlt⟩
    · exact .inr ⟨fun v hv => (hothers' v hv).trans (hothers v hv),
        hlt'.trans hlt⟩

/-- A move to a phase further on. -/
theorem move {phase : Phase Page} (hosts : UrlText → Semaphore UrlText)
    (pool : Semaphore UrlText) (reads : List UrlText)
    (h : phase.weight < (s.phase url).weight) :
    Descends url s
      ⟨Function.update s.phase url phase, hosts, pool, reads⟩ := by
  refine .inr ⟨fun v hv => Function.update_of_ne hv .., ?_⟩
  show (Function.update s.phase url phase url).weight < _
  rw [Function.update_self]
  exact h

end Descends

namespace ReadState

theorem enterHost_descends : Descends url s (s.enterHost b url) := by
  unfold enterHost
  dsimp only
  split
  case h_1 hphase =>
    split <;> exact .move _ _ _ (by simp [hphase, Phase.weight])
  case h_2 hphase =>
    split
    · exact .move _ _ _ (by simp [hphase, Phase.weight])
    · exact .inl rfl
  case h_3 => exact .inl rfl

theorem enter_descends : Descends url s (s.enter b url) := by
  unfold enter
  dsimp only
  split
  case h_1 hphase =>
    split <;> exact .move _ _ _ (by simp [hphase, Phase.weight])
  case h_2 hphase =>
    split
    · exact .move _ _ _ (by simp [hphase, Phase.weight])
    · exact .inl rfl
  case h_3 => exact .inl rfl

theorem begin_descends (expired : Bool) :
    Descends url s (s.begin b expired url) := by
  unfold begin
  split
  case h_1 hphase =>
    split <;> exact .move _ _ _ (by simp [hphase, Phase.weight])
  case h_2 => exact .inl rfl

theorem run_descends (expired : Bool) :
    Descends url s (s.run b url expired) :=
  (enterHost_descends.trans enter_descends).trans (begin_descends expired)

/-- The end of a read takes its task further. -/
theorem finish_lt (result : ReadResult Page) (hphase : s.phase url = .reading) :
    ((s.finish b url result).phase url).weight < (s.phase url).weight := by
  unfold finish
  rw [hphase]
  show (Function.update s.phase url result.phase url).weight < 1
  rw [Function.update_self]
  cases result <;> exact Nat.one_pos

theorem finish_descends (result : ReadResult Page) :
    Descends url s (s.finish b url result) := by
  unfold finish
  split
  case h_1 hphase =>
    refine .move _ _ _ ?_
    rw [hphase]
    cases result <;> exact Nat.one_pos
  case h_2 => exact .inl rfl

/-- A cancelled task is over, which weighs nothing. -/
theorem cancel_descends : Descends url s (s.cancel b url) := by
  unfold cancel
  dsimp only
  split
  case h_5 => exact .inl rfl
  all_goals
    rename_i hphase
    exact .move _ _ _ (by simp [hphase, Phase.weight])

/-- An action leaves everything, or takes its task further. -/
theorem step_descends (s : ReadState Page) (action : ReadAction Page) :
    s.step b action = s ∨ action.url ∈ b.uniqueUrls
      ∧ Descends action.url s (s.step b action) := by
  unfold step
  split
  case isTrue hmem =>
    right
    refine ⟨hmem, ?_⟩
    cases action with
    | run url expired => exact run_descends expired
    | finish url result => exact finish_descends result
    | cancel url => exact cancel_descends
  case isFalse => exact .inl rfl

/-- An action that changes anything goes down the measure. -/
theorem weight_lt {action : ReadAction Page}
    (hne : s.step b action ≠ s) : (s.step b action).weight b < s.weight b := by
  obtain ⟨hmem, hdescends⟩ := (step_descends s action).resolve_left hne
  obtain ⟨hothers, hlt⟩ := hdescends.resolve_left hne
  refine List.sum_lt_sum _ _ (fun v _ => ?_) ⟨action.url, hmem, hlt⟩
  by_cases hv : v = action.url
  · rw [hv]
    exact Nat.le_of_lt hlt
  · rw [hothers v hv]

end ReadState

-- =========================================================== who can go on

/-- The event loop has a turn for the task. -/
def ReadState.Runnable (b : ReadBatch) (s : ReadState Page)
    (url : UrlText) : Prop :=
  match s.phase url with
  | .created | .admitted | .ready => True
  | .atHost => url ∈ (s.hosts (b.host url)).woken
  | .atPool => url ∈ s.pool.woken
  | _ => False

/-- A turn takes a task that has one further. -/
theorem ReadState.run_lt (h : s.Runnable b url) (expired : Bool) :
    ((s.run b url expired).phase url).weight < (s.phase url).weight := by
  have hbegin : ((((s.enterHost b url).enter b url).begin b expired url).phase
      url).weight
      ≤ (((s.enterHost b url).enter b url).phase url).weight :=
    (begin_descends expired).le
  have henter : (((s.enterHost b url).enter b url).phase url).weight
      ≤ ((s.enterHost b url).phase url).weight := enter_descends.le
  -- The first move that the phase allows is strict.
  unfold Runnable at h
  unfold run
  cases hphase : s.phase url <;> rw [hphase] at h <;> dsimp only at h
  case created =>
    have hentered : ((s.enterHost b url).phase url).weight < 6 := by
      unfold enterHost
      rw [hphase]
      dsimp only
      split <;>
        · show (Function.update s.phase url _ url).weight < 6
          rw [Function.update_self]
          simp [Phase.weight]
    exact (hbegin.trans henter).trans_lt hentered
  case atHost =>
    have hentered : ((s.enterHost b url).phase url).weight < 5 := by
      unfold enterHost
      rw [hphase]
      dsimp only
      rw [if_pos h]
      show (Function.update s.phase url _ url).weight < 5
      rw [Function.update_self]
      simp [Phase.weight]
    exact (hbegin.trans henter).trans_lt hentered
  case admitted =>
    have hentered : s.enterHost b url = s := by
      unfold enterHost
      rw [hphase]
    rw [hentered] at hbegin ⊢
    refine hbegin.trans_lt ?_
    unfold enter
    rw [hphase]
    dsimp only
    split <;>
      · show (Function.update s.phase url _ url).weight < 4
        rw [Function.update_self]
        simp [Phase.weight]
  case atPool =>
    have hentered : s.enterHost b url = s := by
      unfold enterHost
      rw [hphase]
    rw [hentered] at hbegin ⊢
    refine hbegin.trans_lt ?_
    unfold enter
    rw [hphase]
    dsimp only
    rw [if_pos h]
    show (Function.update s.phase url _ url).weight < 3
    rw [Function.update_self]
    simp [Phase.weight]
  case ready =>
    have hentered : s.enterHost b url = s := by
      unfold enterHost
      rw [hphase]
    have henter : s.enter b url = s := by
      unfold enter
      rw [hphase]
    rw [hentered, henter]
    unfold begin
    rw [hphase]
    dsimp only
    split <;>
      · show (Function.update s.phase url _ url).weight < 2
        rw [Function.update_self]
        simp [Phase.weight]

-- ======================================================= an idle event loop

section

variable (hinv : ReadInv b s) (hidle : s.Idle b)
include hidle

theorem not_runnable (hmem : url ∈ b.uniqueUrls) : ¬ s.Runnable b url := by
  intro hrunnable
  have hlt := ReadState.run_lt hrunnable false
  rw [hidle url hmem false] at hlt
  exact Nat.lt_irrefl _ hlt

/-- Where the tasks are when the event loop is idle. -/
theorem idle_cases (hmem : url ∈ b.uniqueUrls) :
    s.phase url = .atHost ∨ s.phase url = .atPool ∨ s.phase url = .reading
      ∨ (s.phase url).isOver = true := by
  have hnot := not_runnable hidle hmem
  unfold ReadState.Runnable at hnot
  cases hphase : s.phase url <;> rw [hphase] at hnot <;>
    simp_all [Phase.isOver]

include hinv

/-- Nobody in the queue of the pool has been woken. -/
theorem idle_pool : s.pool.woken = [] := by
  refine List.eq_nil_iff_forall_not_mem.mpr fun url hwoken => ?_
  obtain ⟨hmem, hrole⟩ :=
    (hinv.pool.queued url).mp (List.mem_append_left _ hwoken)
  refine not_runnable hidle hmem ?_
  unfold ReadState.Runnable
  unfold ReadState.poolRole at hrole
  cases hphase : s.phase url <;> rw [hphase] at hrole <;>
    first | exact hwoken | cases hrole

/-- Nobody in the queue of a host has been woken. -/
theorem idle_host (host : UrlText) : (s.hosts host).woken = [] := by
  refine List.eq_nil_iff_forall_not_mem.mpr fun url hwoken => ?_
  obtain ⟨hmem, hrole⟩ :=
    ((hinv.hosts host).queued url).mp (List.mem_append_left _ hwoken)
  unfold ReadState.hostRole at hrole
  split at hrole
  case isTrue hhost =>
    refine not_runnable hidle hmem ?_
    unfold ReadState.Runnable
    cases hphase : s.phase url <;> rw [hphase] at hrole <;>
      first | exact hhost ▸ hwoken | cases hrole
  case isFalse => cases hrole

/-- Every slot of the pool is that of a read while a task waits for one. -/
theorem full_pool (hmem : url ∈ b.uniqueUrls)
    (hphase : s.phase url = .atPool) : s.inFlight b = b.maxConcurrency := by
  have hwoken := idle_pool hinv hidle
  have hqueued : url ∈ s.pool.woken ++ s.pool.waiting :=
    (hinv.pool.queued url).mpr ⟨hmem, ReadState.poolRole_eq hphase⟩
  rw [hwoken, List.nil_append] at hqueued
  rw [← hinv.pool.full_of_waiting hwoken (List.ne_nil_of_mem hqueued)]
  refine List.countP_congr fun v hv => ?_
  rw [decide_eq_true_eq, ReadState.poolRole]
  have hcases := idle_cases hidle hv
  cases hv : s.phase v <;> rw [hv] at hcases <;>
    simp_all [Phase.isReading, Phase.poolRole, Phase.isOver]

/-- Every slot of a host is that of a task past its queue while a task
waits for one. -/
theorem full_host (hmem : url ∈ b.uniqueUrls)
    (hphase : s.phase url = .atHost) :
    s.admittedAt b (b.host url) = b.maxSameHost := by
  have hwoken := idle_host hinv hidle (b.host url)
  have hqueued := ((hinv.hosts (b.host url)).queued url).mpr
    ⟨hmem, ReadState.hostRole_eq hphase⟩
  rw [hwoken, List.nil_append] at hqueued
  rw [← (hinv.hosts _).full_of_waiting hwoken (List.ne_nil_of_mem hqueued)]
  refine List.countP_congr fun v hv => ?_
  rw [decide_eq_true_eq, Bool.and_eq_true, decide_eq_true_eq,
    ReadState.hostRole]
  split
  case isTrue hhost =>
    cases s.phase v <;> simp [hhost, Phase.isAdmitted, Phase.hostRole]
  case isFalse hhost => simp [hhost]

end

/-- No slot lies idle: when the event loop has nothing left to run, a task
waits for the pool only while `max_concurrency` reads are in flight, and
for its host only while `max_same_host` other tasks of that host are past
the host's queue. -/
theorem parallel_reads_work_conserving
    (h : Reachable (readSystem Page b) s) (hidle : s.Idle b)
    (hmem : url ∈ b.uniqueUrls) :
    (s.phase url = .atPool → s.inFlight b = b.maxConcurrency)
      ∧ (s.phase url = .atHost →
        s.admittedAt b (b.host url) = b.maxSameHost) :=
  ⟨full_pool (readInv_reachable h) hidle hmem,
    full_host (readInv_reachable h) hidle hmem⟩

theorem parallel_reads_work_conserving_two :
    firstTurns.admittedAt twoPages (twoPages.host secondPage) = 1 := by
  have hmem : secondPage ∈ twoPages.uniqueUrls := by decide
  refine (parallel_reads_work_conserving firstTurns_reachable
    (fun url hmem expired => ?_) hmem).2 rfl
  have hcases : url = firstPage ∨ url = secondPage ∨ url = firstPage := by
    simpa using mem_fromKeys.mp hmem
  rcases hcases with rfl | rfl | rfl <;> rfl

-- ==================================================================== the end

/-- Where the event loop is idle and no read is in flight, every task has
ended. -/
theorem over_of_idle (hinv : ReadInv b s) (hidle : s.Idle b)
    (hreads : ∀ url ∈ b.uniqueUrls, s.phase url ≠ .reading)
    (hmem : url ∈ b.uniqueUrls) : (s.phase url).isOver = true := by
  have hflight : s.inFlight b = 0 := by
    refine List.countP_eq_zero.mpr fun v hv => ?_
    have hne := hreads v hv
    cases hphase : s.phase v <;> simp_all [Phase.isReading]
  have hpool : ∀ v ∈ b.uniqueUrls, s.phase v ≠ .atPool := by
    intro v hv hphase
    have hfull := full_pool hinv hidle hv hphase
    have hpos := b.concurrency_pos
    omega
  have hhost : s.phase url ≠ .atHost := by
    intro hphase
    have hfull := full_host hinv hidle hmem hphase
    have hpos := b.sameHost_pos
    rw [← hfull] at hpos
    obtain ⟨v, hv, hadmitted⟩ := List.countP_pos_iff.mp hpos
    have hcases := idle_cases hidle hv
    have hne := hreads v hv
    have hne' := hpool v hv
    cases hvphase : s.phase v <;>
      simp_all [Phase.isAdmitted, Phase.isOver]
  rcases idle_cases hidle hmem with hp | hp | hp | hp
  · exact absurd hp hhost
  · exact absurd hp (hpool url hmem)
  · exact absurd hp (hreads url hmem)
  · exact hp

/-- A call that is stuck has ended. -/
theorem over_of_stuck (hinv : ReadInv b s) (hstuck : s.Stuck b)
    (hmem : url ∈ b.uniqueUrls) : (s.phase url).isOver = true := by
  have hstep : ∀ action, action.isCancel = false →
      action.url ∈ b.uniqueUrls → s.step b action = s := fun action h _ =>
    hstuck action h
  refine over_of_idle hinv (fun v hv expired => ?_) (fun v hv hreading => ?_)
    hmem
  · have hrun := hstep (.run v expired) rfl hv
    unfold ReadState.step at hrun
    rwa [if_pos (show (ReadAction.run v expired).url ∈ _ from hv)] at hrun
  · have hfinish := hstep (.finish v .raises) rfl hv
    unfold ReadState.step at hfinish
    rw [if_pos (show (ReadAction.finish v .raises).url ∈ _ from hv)]
      at hfinish
    have hlt := ReadState.finish_lt (b := b) .raises hreading
    dsimp only at hfinish
    rw [hfinish] at hlt
    exact Nat.lt_irrefl _ hlt

/-- A task that is over has an outcome, or was cancelled or raised. -/
theorem Phase.over_cases {phase : Phase Page} (h : phase.isOver = true) :
    (∃ outcome, phase = .done outcome) ∨ phase.isFailed = true := by
  cases phase with
  | done outcome => exact .inl ⟨outcome, rfl⟩
  | raised | cancelled => exact .inr rfl
  | created | atHost | admitted | atPool | ready | reading => cases h

/-- Nothing moves a task that has ended. -/
theorem step_of_over {action : ReadAction Page}
    (hover : (s.phase action.url).isOver = true)
    (haction : action.isCancel = false) : s.step b action = s := by
  unfold ReadState.step
  split
  case isFalse => rfl
  case isTrue =>
    cases action with
    | run url expired =>
        dsimp only [ReadAction.url] at hover ⊢
        unfold ReadState.run ReadState.enterHost ReadState.enter ReadState.begin
        cases hphase : s.phase url <;> simp_all [Phase.isOver]
    | finish url result =>
        dsimp only [ReadAction.url] at hover ⊢
        unfold ReadState.finish
        cases hphase : s.phase url <;> simp_all [Phase.isOver]
    | cancel url => cases haction

/-- A call is stuck exactly when its tasks have ended. -/
theorem stuck_iff (hinv : ReadInv b s) :
    s.Stuck b ↔ ∀ url ∈ b.uniqueUrls, (s.phase url).isOver = true := by
  refine ⟨fun hstuck url hmem => over_of_stuck hinv hstuck hmem,
    fun hover action haction => ?_⟩
  by_cases hmem : action.url ∈ b.uniqueUrls
  · exact step_of_over (hover _ hmem) haction
  · unfold ReadState.step
    rw [if_neg hmem]

/-- A run of actions that all change something goes down the measure each
time. -/
theorem length_le_weight {s : ReadState Page}
    {actions : List (ReadAction Page)}
    (h : (readSystem Page b).Along (fun t a => t.step b a ≠ t) s actions) :
    actions.length ≤ s.weight b := by
  induction actions generalizing s with
  | nil => exact Nat.zero_le _
  | cons action actions ih =>
      have hlt := ReadState.weight_lt h.1
      have htail := ih h.2
      change actions.length ≤ (s.step b action).weight b at htail
      rw [List.length_cons]
      omega

/-- At the start every task has its six actions ahead of it. -/
theorem weight_start :
    (b.start : ReadState Page).weight b = 6 * b.uniqueUrls.length := by
  show (b.uniqueUrls.map fun _ => 6).sum = _
  rw [List.map_const', List.sum_replicate_nat, Nat.mul_comm]

/-- The dictionary of tasks that have all returned. -/
theorem results_spec {urls : List UrlText}
    (hdone : ∀ url ∈ urls, ∃ outcome, s.phase url = .done outcome) :
    ∃ results, (urls.mapM fun url =>
        (s.phase url).outcome?.map fun outcome => (url, outcome))
          = some results
      ∧ results.map Prod.fst = urls
      ∧ ∀ result ∈ results, s.phase result.1 = .done result.2 := by
  induction urls with
  | nil => exact ⟨[], rfl, rfl, fun _ h => by cases h⟩
  | cons url urls ih =>
      obtain ⟨⟨outcome, hphase⟩, htail⟩ := List.forall_mem_cons.mp hdone
      obtain ⟨results, hresults, hkeys, hphases⟩ := ih htail
      refine ⟨(url, outcome) :: results, ?_, ?_, ?_⟩
      · rw [List.mapM_cons, hphase, hresults]
        rfl
      · rw [List.map_cons, hkeys]
      · exact List.forall_mem_cons.mpr ⟨hphase, hphases⟩

/-- Without a result of one task there is no dictionary. -/
theorem results_eq_none {urls : List UrlText}
    (hmem : url ∈ urls) (hfailed : (s.phase url).isFailed = true) :
    (urls.mapM fun url =>
      (s.phase url).outcome?.map fun outcome => (url, outcome)) = none := by
  have hnone : (s.phase url).outcome? = none := by
    cases hphase : s.phase url <;> rw [hphase] at hfailed <;>
      first | rfl | cases hfailed
  induction urls with
  | nil => cases hmem
  | cons first urls ih =>
      rw [List.mapM_cons]
      rcases List.mem_cons.mp hmem with rfl | hrest
      · rw [hnone]
        rfl
      · rw [ih hrest]
        cases (s.phase first).outcome? <;> rfl

/-- A call comes to its end. A run in which every action changes something
has at most six actions for each URL, and when neither a turn nor the end
of a read changes anything any more, every task has ended. If one of them
was cancelled or raised what is not caught, there is no dictionary; else it
has one entry for each URL, in the order of the URLs, and a page only where
the URL was read. -/
theorem parallel_reads_complete {actions : List (ReadAction Page)}
    (hmoves : (readSystem Page b).Along (fun t a => t.step b a ≠ t) b.start
      actions)
    (hs : (readSystem Page b).exec b.start actions = s) :
    actions.length ≤ 6 * b.uniqueUrls.length
      ∧ (s.Stuck b →
        (∀ url ∈ b.uniqueUrls, (s.phase url).isOver = true)
          ∧ ((∃ url ∈ b.uniqueUrls, (s.phase url).isFailed = true) →
            s.results b = none)
          ∧ ((∀ url ∈ b.uniqueUrls, (s.phase url).isFailed = false) →
            ∃ results, s.results b = some results
              ∧ results.map Prod.fst = b.uniqueUrls
              ∧ ∀ result ∈ results, result.2.page.isSome = true →
                result.1 ∈ s.reads)) := by
  have hinv : ReadInv b s := by
    rw [← hs]
    exact readInv_reachable (Reachable.exec (.init rfl) actions)
  constructor
  · have hle : actions.length ≤ (b.start : ReadState Page).weight b :=
      length_le_weight hmoves
    rwa [weight_start] at hle
  intro hstuck
  -- Where nothing moves nobody waits: a permit is always handed on.
  have hover := (stuck_iff hinv).mp hstuck
  refine ⟨hover, fun hfailed => ?_, fun hreturned => ?_⟩
  · obtain ⟨url, hmem, hfailed⟩ := hfailed
    exact results_eq_none hmem hfailed
  · have hdone : ∀ url ∈ b.uniqueUrls,
        ∃ outcome, s.phase url = .done outcome := by
      intro url hmem
      rcases Phase.over_cases (hover url hmem) with hdone | hfailed
      · exact hdone
      · rw [hreturned url hmem] at hfailed
        cases hfailed
    obtain ⟨results, hresults, hkeys, hphases⟩ := results_spec hdone
    refine ⟨results, hresults, hkeys, fun result hmem hpage => ?_⟩
    have hurl : result.1 ∈ b.uniqueUrls :=
      hkeys ▸ List.mem_map_of_mem hmem
    refine hinv.has_read _ hurl ?_
    rw [hphases result hmem]
    exact hpage

/-- All turns of the example call: the second page waits for the first, and
is not read in time. -/
def allTurns : List (ReadAction Unit) :=
  [.run firstPage false, .run secondPage false,
    .finish firstPage (.read () 5), .run secondPage false,
    .finish secondPage (.timeout 9)]

def lastTurns : ReadState Unit :=
  (readSystem Unit twoPages).exec twoPages.start allTurns

theorem parallel_reads_complete_two :
    allTurns.length ≤ 6 * twoPages.uniqueUrls.length
      ∧ (∀ url ∈ twoPages.uniqueUrls, (lastTurns.phase url).isOver = true)
      ∧ ∃ results, lastTurns.results twoPages = some results
        ∧ results.map Prod.fst = [firstPage, secondPage]
        ∧ ∀ result ∈ results, result.2.page.isSome = true →
          result.1 ∈ lastTurns.reads := by
  have hmoves : (readSystem Unit twoPages).Along
      (fun t a => t.step twoPages a ≠ t) twoPages.start allTurns := by
    have hne : ∀ {t t' : ReadState Unit} (url : UrlText),
        (t'.phase url).weight ≠ (t.phase url).weight → t' ≠ t :=
      fun url hweight heq => hweight (congrArg (fun t => (t.phase url).weight)
        heq)
    exact ⟨hne firstPage (by decide), hne secondPage (by decide),
      hne firstPage (by decide), hne secondPage (by decide),
      hne secondPage (by decide), trivial⟩
  obtain ⟨hlength, hend⟩ := parallel_reads_complete hmoves
    (rfl : _ = lastTurns)
  have hstuck : lastTurns.Stuck twoPages := by
    refine (stuck_iff (readInv_reachable (Reachable.exec (.init rfl) _))).mpr ?_
    decide
  obtain ⟨hover, -, hresults⟩ := hend hstuck
  exact ⟨hlength, hover, hresults (by decide)⟩

end DeepResearch.Reader
