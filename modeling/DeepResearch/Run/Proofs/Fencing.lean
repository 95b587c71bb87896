/-
When the ownership check fences workers off.

A worker's writes are guarded by its task id, and the task id is the
dispatch key. Two deliveries of one message carry the same id, so the
check tells two executions apart only while they come from different
dispatches. `fenced_iff` makes this exact: on a run of the system the
check is a fence — never two executions of a run pass it, and one that
lost the run to a later execution never passes it again — if and only if
no delivery acquires a run under a task id that a live execution holds.

The invariant behind it (`FenceInv`) says that the owner of a RUNNING
run is the run's latest execution, and that a live execution is the
latest under its own task id; both together leave one execution that can
pass.
-/
import DeepResearch.Run.Cluster
import DeepResearch.Run.Proofs.Commit
import DeepResearch.Run.Proofs.Effects

namespace DeepResearch.Run

-- ============================================================ statements

/-- The execution is alive and passes the ownership check. -/
def Cluster.Passes (s : Cluster) (e : Execution) : Prop :=
  e ∈ s.executions ∧ (s.db.runs e.runId).any (·.OwnedBy e.taskId)

instance (s : Cluster) (e : Execution) : Decidable (s.Passes e) :=
  inferInstanceAs (Decidable (_ ∧ _))

/-- The ownership check is a fence in this state. -/
structure Fenced (s : Cluster) : Prop where
  exclusive : ∀ e₁ e₂, e₁.runId = e₂.runId → s.Passes e₁ →
    s.Passes e₂ → e₁ = e₂
  lost : ∀ e₁ ∈ s.acquired, ∀ e₂ ∈ s.acquired, e₁.runId = e₂.runId →
    e₁.number < e₂.number → ¬ s.Passes e₁

/-- The action starts no execution under a task id that is still in use
by a live one. -/
def Cluster.FreshTaskId (s : Cluster) : Action → Prop
  | .deliver key leaseSeconds =>
      key ∈ s.broker → s.acquires key leaseSeconds →
        ∀ e ∈ s.executions, e.taskId ≠ key
  | _ => True

/-- What carries the induction. -/
structure FenceInv (s : Cluster) : Prop where
  alive : ∀ e ∈ s.executions, e ∈ s.acquired
  numbers : s.acquired.map (·.number) = List.range s.acquired.length
  owner : ∀ runId run, s.db.runs runId = some run →
    run.status = .running → ∀ task, run.workerTaskId = some task →
    ∃ e ∈ s.acquired, e.runId = runId ∧ e.taskId = task
      ∧ ∀ e' ∈ s.acquired, e'.runId = runId → e'.number ≤ e.number
  latest : ∀ e ∈ s.executions, ∀ e' ∈ s.acquired,
    e'.taskId = e.taskId → e'.number ≤ e.number

variable {s : Cluster}

theorem passes_iff {e : Execution} : s.Passes e ↔
    e ∈ s.executions ∧ ∃ run, s.db.runs e.runId = some run
      ∧ run.OwnedBy e.taskId := by
  simp only [Cluster.Passes, Option.any_eq_true, decide_eq_true_eq]

-- ================================================= the fence from the invariant

/-- Executions are told apart by their numbers. -/
theorem FenceInv.eq_of_number (hinv : FenceInv s) {e₁ e₂ : Execution}
    (h₁ : e₁ ∈ s.acquired) (h₂ : e₂ ∈ s.acquired)
    (hnumber : e₁.number = e₂.number) : e₁ = e₂ := by
  have hnodup : (s.acquired.map (·.number)).Nodup := by
    rw [hinv.numbers]
    exact List.nodup_range
  exact List.inj_on_of_nodup_map hnodup h₁ h₂ hnumber

/-- An execution that passes is the latest of its run. -/
theorem FenceInv.passes_latest (hinv : FenceInv s) {e e' : Execution}
    (hpass : s.Passes e) (h' : e' ∈ s.acquired)
    (hrun : e'.runId = e.runId) : e'.number ≤ e.number := by
  obtain ⟨halive, run, hget, hown⟩ := passes_iff.mp hpass
  obtain ⟨o, ho, -, htask, hmax⟩ :=
    hinv.owner e.runId run hget hown.1 e.taskId hown.2
  exact (hmax e' h' hrun).trans (hinv.latest e halive o ho htask)

theorem FenceInv.fenced (hinv : FenceInv s) : Fenced s where
  exclusive e₁ e₂ hrun h₁ h₂ := by
    have ha₁ := hinv.alive e₁ h₁.1
    have ha₂ := hinv.alive e₂ h₂.1
    refine hinv.eq_of_number ha₁ ha₂ (Nat.le_antisymm ?_ ?_)
    · exact hinv.passes_latest h₂ ha₁ hrun
    · exact hinv.passes_latest h₁ ha₂ hrun.symm
  lost e₁ _ e₂ h₂ hrun hlt hpass := by
    have hle := hinv.passes_latest hpass h₂ hrun.symm
    omega

-- ============================================================ preservation

theorem FenceInv.init (now : Nat) : FenceInv { now } where
  alive _ h := by cases h
  numbers := rfl
  owner _ _ h := by cases h
  latest _ h := by cases h

/-- A commit that does not hand the run to a new owner keeps the
invariant. -/
theorem FenceInv.commit (hinv : FenceInv s) {runId : RunId}
    {w : RunWrite}
    (hsame : w.run.status = .running → ∃ run, s.db.runs runId = some run
      ∧ run.status = .running ∧ w.run.workerTaskId = run.workerTaskId) :
    FenceInv (s.withDb (s.db.commit runId s.now w)) where
  alive := hinv.alive
  numbers := hinv.numbers
  owner id run' hrun' hstatus task htask := by
    have hrun' : (s.db.commit runId s.now w).runs id = some run' := hrun'
    by_cases hid : id = runId
    · subst hid
      rw [Database.commit_run] at hrun'
      injection hrun' with hrun'
      subst hrun'
      obtain ⟨run, hrun, hbusy, hworker⟩ := hsame hstatus
      exact hinv.owner id run hrun hbusy task (hworker ▸ htask)
    · rw [Database.commit_other hid] at hrun'
      exact hinv.owner id run' hrun' hstatus task htask
  latest := hinv.latest

/-- Every operation but an acquisition keeps the invariant. -/
theorem FenceInv.runOp (hinv : FenceInv s) (runId : RunId) {op : RunOp}
    (hop : ∀ task lease, op ≠ .acquireForExecution task lease) :
    FenceInv (s.withDb (s.db.step s.now (.run runId op))) := by
  simp only [Database.step]
  rcases s.db.runOp_cases runId s.now op with
    heq | ⟨run, w, hrun, hw, heq⟩
  · rw [heq]
    exact ⟨hinv.alive, hinv.numbers, hinv.owner, hinv.latest⟩
  · rw [heq]
    refine hinv.commit fun hstatus => ?_
    cases op.write_effect hw with
    | keeps h =>
        obtain ⟨_, _, -, hown⟩ := h.by_owner
        exact ⟨run, hrun, hown.1, h.worker⟩
    | acquires h =>
        obtain ⟨task, lease, heq, -⟩ := h.by_task
        exact absurd heq (hop task lease)
    | requeues h =>
        rw [h.queued] at hstatus
        cases hstatus
    | interrupts h =>
        rw [h.interrupted] at hstatus
        cases hstatus
    | stops h =>
        have ht := h.terminal
        rw [hstatus] at ht
        cases ht

theorem FenceInv.create (hinv : FenceInv s) (runId : RunId)
    (budget : BudgetSnapshot) :
    FenceInv (s.withDb (s.db.step s.now (.create runId budget))) := by
  simp only [Database.step]
  rcases s.db.create_cases runId budget s.now with heq | ⟨-, heq⟩
  · rw [heq]
    exact ⟨hinv.alive, hinv.numbers, hinv.owner, hinv.latest⟩
  · rw [heq]
    exact hinv.commit fun hstatus => by cases hstatus

/-- Changes of the outbox do not matter to the fence. -/
theorem FenceInv.outbox (hinv : FenceInv s) {db : Database}
    (hruns : db.runs = s.db.runs) : FenceInv (s.withDb db) where
  alive := hinv.alive
  numbers := hinv.numbers
  owner id run hrun := by
    have hrun : db.runs id = some run := hrun
    rw [hruns] at hrun
    exact hinv.owner id run hrun
  latest := hinv.latest

/-- Whether a delivery acquires, as a fact about the database. -/
theorem acquires_iff {key : DispatchKey} {lease : Nat} :
    s.acquires key lease = true ↔ ∃ run w,
      s.db.runs key.runId = some run
        ∧ acquireForExecution key lease s.now run = .ok w := by
  simp only [Cluster.acquires, Option.any_eq_true]
  constructor
  · rintro ⟨run, hrun, hok⟩
    cases hw : acquireForExecution key lease s.now run with
    | error r =>
        rw [hw] at hok
        cases hok
    | ok w => exact ⟨run, w, hrun, hw⟩
  · rintro ⟨run, w, hrun, hw⟩
    exact ⟨run, hrun, by rw [hw]; rfl⟩

/-- A delivery that acquires commits the acquisition. -/
theorem deliver_run {key : DispatchKey} {lease : Nat}
    {run : ResearchRunRow} {w : RunWrite}
    (hrun : s.db.runs key.runId = some run)
    (hw : acquireForExecution key lease s.now run = .ok w) :
    s.db.step s.now (.run key.runId (.acquireForExecution key lease))
      = s.db.commit key.runId s.now w := by
  have hop : RunOp.write s.now run (.acquireForExecution key lease)
      = .ok w := hw
  simp only [Database.step]
  exact Database.runOp_ok hrun hop

/-- A delivery that does not acquire leaves the database as it is. -/
theorem deliver_refused {key : DispatchKey} {lease : Nat}
    (h : ¬ s.acquires key lease = true) :
    s.db.step s.now (.run key.runId (.acquireForExecution key lease))
      = s.db := by
  simp only [Database.step]
  rcases s.db.runOp_cases key.runId s.now (.acquireForExecution key lease)
    with heq | ⟨run, w, hrun, hw, -⟩
  · exact heq
  · exact absurd (acquires_iff.mpr ⟨run, w, hrun, hw⟩) h

/-- A delivery under a fresh task id keeps the invariant: the execution
it starts is the latest of its run, and no live one shares its id. -/
theorem FenceInv.deliver (hinv : FenceInv s) {key : DispatchKey}
    {lease : Nat} (hfresh : s.FreshTaskId (.deliver key lease)) :
    FenceInv (s.deliver key lease) := by
  unfold Cluster.deliver
  by_cases hbroker : key ∈ s.broker
  -- No such message is in flight.
  case neg =>
    rw [if_neg hbroker]
    exact hinv
  rw [if_pos hbroker]
  by_cases hacq : s.acquires key lease = true
  case neg =>
    simp only [if_neg hacq, List.append_nil, deliver_refused hacq]
    exact ⟨hinv.alive, hinv.numbers, hinv.owner, hinv.latest⟩
  obtain ⟨run, w, hrun, hw⟩ := acquires_iff.mp hacq
  obtain ⟨task, _, hop, hworker⟩ := (acquireForExecution_acquires hw).by_task
  injection hop with htask
  subst htask
  -- The new execution has the highest number.
  have hold : ∀ e ∈ s.acquired, e.number < s.acquired.length := by
    intro e he
    rw [← List.mem_range, ← hinv.numbers]
    exact List.mem_map_of_mem he
  simp only [if_pos hacq, deliver_run hrun hw]
  refine ⟨?_, ?_, ?_, ?_⟩
  · intro e he
    rcases List.mem_append.mp he with he | he
    · exact List.mem_append_left _ (hinv.alive e he)
    · exact List.mem_append_right _ he
  · simp only [List.map_append, List.map_cons, List.map_nil, hinv.numbers,
      List.length_append, List.length_singleton, List.range_succ]
  · intro id run' hrun' hstatus task htask
    have hrun' : (s.db.commit key.runId s.now w).runs id = some run' := hrun'
    -- The run has a new owner, every other keeps its own.
    by_cases hid : id = key.runId
    · rw [hid, Database.commit_run] at hrun'
      injection hrun' with hrun'
      rw [← hrun', hworker] at htask
      injection htask with htask
      refine ⟨_, List.mem_append_right _ (List.mem_singleton_self _),
        hid.symm, htask, fun e' he' _ => ?_⟩
      rcases List.mem_append.mp he' with he' | he'
      · exact (hold e' he').le
      · rw [List.mem_singleton.mp he']
    · rw [Database.commit_other hid] at hrun'
      obtain ⟨e, he, herun, hetask, hmax⟩ :=
        hinv.owner id run' hrun' hstatus task htask
      refine ⟨e, List.mem_append_left _ he, herun, hetask,
        fun e' he' hrunid => ?_⟩
      rcases List.mem_append.mp he' with he' | he'
      · exact hmax e' he' hrunid
      · rw [List.mem_singleton] at he'
        subst he'
        exact absurd hrunid.symm hid
  · intro e he e' he' hsame
    rcases List.mem_append.mp he with he | he
    · rcases List.mem_append.mp he' with he' | he'
      · exact hinv.latest e he e' he' hsame
      · rw [List.mem_singleton] at he'
        subst he'
        -- No earlier execution was acquired under this task id.
        exact absurd hsame.symm (hfresh hbroker hacq e he)
    · rw [List.mem_singleton.mp he]
      rcases List.mem_append.mp he' with he' | he'
      · exact (hold e' he').le
      · rw [List.mem_singleton.mp he']

/-- Every step under fresh task ids keeps the invariant. -/
theorem FenceInv.step (hinv : FenceInv s) (a : Action)
    (hfresh : s.FreshTaskId a) : FenceInv (s.step a) := by
  cases a with
  | tick seconds =>
      exact ⟨hinv.alive, hinv.numbers, hinv.owner, hinv.latest⟩
  | create id budget => exact hinv.create id budget
  | cancel id => exact hinv.runOp id (fun _ _ h => by cases h)
  | pause id => exact hinv.runOp id (fun _ _ h => by cases h)
  | resume id => exact hinv.runOp id (fun _ _ h => by cases h)
  | reconcile id => exact hinv.runOp id (fun _ _ h => by cases h)
  | claimBatch limit stale locked =>
      have h : FenceInv (s.withDb (s.db.step s.now
          (.claimBatch limit stale locked))) := hinv.outbox rfl
      exact ⟨h.alive, h.numbers, h.owner, h.latest⟩
  | send claim result =>
      simp only [Cluster.step, Cluster.send]
      split
      case h_1 => exact hinv
      case h_2 =>
        exact ⟨hinv.alive, hinv.numbers, hinv.owner, hinv.latest⟩
  | mark claim code =>
      simp only [Cluster.step, Cluster.mark]
      split
      case h_1 => exact hinv
      case h_2 =>
        split
        case h_1 => exact hinv
        all_goals
          exact ⟨hinv.alive, hinv.numbers, hinv.owner, hinv.latest⟩
  | deliver key lease => exact hinv.deliver hfresh
  | work e op =>
      simp only [Cluster.step]
      split
      case isTrue => exact hinv.runOp e.runId (fun _ _ h => by cases h)
      case isFalse => exact hinv
  | finish e =>
      exact ⟨fun e' he' => hinv.alive e' (List.mem_filter.mp he').1,
        hinv.numbers, hinv.owner,
        fun e' he' => hinv.latest e' (List.mem_filter.mp he').1⟩

-- ============================================================= exactness

/-- Acquiring a run under a task id in use breaks the fence at once: the
old execution and the new one both pass. -/
theorem not_fenced_of_reused (hinv : FenceInv s) {a : Action}
    (hreused : ¬ s.FreshTaskId a) : ¬ Fenced (s.step a) := by
  intro hfenced
  cases a with
  | deliver key lease =>
      simp only [Cluster.FreshTaskId, not_forall, Classical.not_not]
        at hreused
      obtain ⟨hbroker, hacq, e, he, htask⟩ := hreused
      obtain ⟨run, w, hrun, hw⟩ := acquires_iff.mp hacq
      have hacquires := acquireForExecution_acquires hw
      obtain ⟨task, _, hop, hworker⟩ := hacquires.by_task
      injection hop with hkey
      subst hkey
      have hstep : s.step (.deliver key lease) = { s.withDb
            (s.db.commit key.runId s.now w) with
          consumed := s.consumed ++ [key]
          executions := s.executions ++ [⟨s.acquired.length, key⟩]
          acquired := s.acquired ++ [⟨s.acquired.length, key⟩] } := by
        simp only [Cluster.step, Cluster.deliver, if_pos hbroker,
          if_pos hacq, deliver_run hrun hw]
      rw [hstep] at hfenced
      -- The new execution and the old one have the same task id, and pass
      -- the same check.
      have hpass : ∀ e' ∈ s.executions ++ [⟨s.acquired.length, key⟩],
          e'.taskId = key → Cluster.Passes { s.withDb
              (s.db.commit key.runId s.now w) with
            consumed := s.consumed ++ [key]
            executions := s.executions ++ [⟨s.acquired.length, key⟩]
            acquired := s.acquired ++ [⟨s.acquired.length, key⟩] } e' := by
        intro e' he' htask'
        refine passes_iff.mpr ⟨he', w.run, ?_, hacquires.running, ?_⟩
        · rw [Execution.runId, htask']
          exact Database.commit_run w
        · rw [htask']
          exact hworker
      have heq := hfenced.exclusive e ⟨s.acquired.length, key⟩
        (by rw [Execution.runId, htask]; rfl)
        (hpass e (List.mem_append_left _ he) htask)
        (hpass _ (List.mem_append_right _ (List.mem_singleton_self _)) rfl)
      have hlt : e.number < s.acquired.length := by
        rw [← List.mem_range, ← hinv.numbers]
        exact List.mem_map_of_mem (hinv.alive e he)
      rw [heq] at hlt
      exact Nat.lt_irrefl _ hlt
  | _ => exact hreused trivial

/-- Over every run of the system, the ownership check is a fence in every
state exactly when no delivery acquires a run under a task id that a live
execution holds. -/
theorem fenced_iff (now : Nat) (as : List Action) :
    clusterSystem.Throughout Fenced { now } as
      ↔ clusterSystem.Along Cluster.FreshTaskId { now } as := by
  have hfenced : ∀ s, FenceInv s → Fenced s := fun _ h => h.fenced
  have hkeep : ∀ s a, FenceInv s → s.FreshTaskId a →
      FenceInv (clusterSystem.step s a) := fun _ a h hg => h.step a hg
  have hbreak : ∀ s a, FenceInv s → ¬ s.FreshTaskId a →
      ¬ Fenced (clusterSystem.step s a) :=
    fun _ _ h hg => not_fenced_of_reused h hg
  exact Transition.throughout_iff_along hfenced hkeep hbreak
    (FenceInv.init now) as

-- =========================================== two workers behind one task id

/-- A run is acquired, its lease runs out while the worker is alive, and
the message is delivered again. -/
def redeliveredAfterExpiry : List Action :=
  [.create sampleRunId {}, .claimBatch 20 30 [], .send 0 .ok, .mark 0 "",
    .deliver ⟨sampleRunId, .start, 1⟩ 900, .tick 900,
    .deliver ⟨sampleRunId, .start, 1⟩ 900]

/-- The fence does not always hold: after the redelivery the stale
execution and the new one both pass the ownership check. -/
theorem both_executions_pass :
    ¬ ∀ now as, clusterSystem.Throughout Fenced { now } as := by
  intro hfenced
  have hlast := (hfenced 0 (redeliveredAfterExpiry ++ [])).after_run
  have heq := hlast.exclusive ⟨0, ⟨sampleRunId, .start, 1⟩⟩
    ⟨1, ⟨sampleRunId, .start, 1⟩⟩ rfl (by decide) (by decide)
  cases heq

end DeepResearch.Run
