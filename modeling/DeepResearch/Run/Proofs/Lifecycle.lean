/-
Run status and lease agree.

The invariant `LifecycleInv` ties the five fields every transition sets
by hand: exactly the RUNNING runs have an owner and a lease, exactly the
terminal ones a finishing time, and terminal runs are in the TERMINAL
phase with nothing left of their lease. It is kept by each of the five
effects of an operation (`Effects`), so it holds in every reachable
database, whatever the order of the transactions and whatever their
clocks say.
-/
import DeepResearch.Run.Proofs.Commit
import DeepResearch.Run.Proofs.Effects

namespace DeepResearch.Run

-- ========================================================= the invariant

/-- Status, phase, lease and finishing time fit together. -/
structure LifecycleInv (run : ResearchRunRow) : Prop where
  busy : run.status = .running →
    run.workerTaskId.isSome ∧ run.leaseUntil.isSome
  idle : run.status ≠ .running →
    run.leaseOwner = none ∧ run.workerTaskId = none ∧ run.leaseUntil = none
  terminal : run.status.isTerminal = true →
    run.phase = .terminal ∧ run.finishedAt.isSome
  unfinished : run.status.isTerminal = false → run.finishedAt = none

/-- A fresh run satisfies the invariant. -/
theorem LifecycleInv.create (budget : BudgetSnapshot) (now : Nat) :
    LifecycleInv (createWrite budget now).run where
  busy h := by cases h
  idle _ := ⟨rfl, rfl, rfl⟩
  terminal h := by cases h
  unfinished _ := rfl

section

variable {now : Nat} {op : RunOp} {run : ResearchRunRow} {w : RunWrite}

/-- A running run is unfinished. -/
theorem LifecycleInv.running_unfinished (hinv : LifecycleInv run)
    (hrun : run.status = .running) : run.finishedAt = none :=
  hinv.unfinished (by rw [hrun]; rfl)

theorem LifecycleInv.keeps (hinv : LifecycleInv run)
    (h : Keeps op run w) : LifecycleInv w.run := by
  obtain ⟨task, workerOp, -, hown⟩ := h.by_owner
  have hbusy := hinv.busy hown.1
  refine ⟨fun _ => ?_, fun hn => absurd h.running hn, fun ht => ?_,
    fun _ => ?_⟩
  · rw [h.worker]
    exact ⟨hbusy.1, h.lease hbusy.2⟩
  · rw [h.running] at ht
    cases ht
  · rw [h.finished]
    exact hinv.running_unfinished hown.1

theorem LifecycleInv.acquires (hinv : LifecycleInv run)
    (h : Acquires now op run w) : LifecycleInv w.run := by
  obtain ⟨task, lease, -, hworker⟩ := h.by_task
  have hopen : run.status.isTerminal = false := by
    rcases h.free with hs | ⟨hs, -⟩ <;> rw [hs] <;> rfl
  refine ⟨fun _ => ?_, fun hn => absurd h.running hn, fun ht => ?_,
    fun _ => ?_⟩
  · rw [hworker]
    exact ⟨rfl, h.lease⟩
  · rw [h.running] at ht
    cases ht
  · rw [h.finished]
    exact hinv.unfinished hopen

/-- Queueing is where `resume` leans on the invariant: it clears no
lease field itself. -/
theorem LifecycleInv.requeues (hinv : LifecycleInv run)
    (h : Requeues now op run w) : LifecycleInv w.run := by
  refine ⟨fun hr => ?_, fun _ => ⟨?_, ?_, ?_⟩, fun ht => ?_, fun _ => ?_⟩
  · rw [h.queued] at hr
    cases hr
  · rcases h.owner with ho | ⟨ho, hn⟩
    · exact ho
    · rw [ho]
      exact (hinv.idle hn).1
  · rcases h.worker with ho | ⟨ho, hn⟩
    · exact ho
    · rw [ho]
      exact (hinv.idle hn).2.1
  · rcases h.lease with ho | ⟨ho, hn⟩
    · exact ho
    · rw [ho]
      exact (hinv.idle hn).2.2
  · rw [h.queued] at ht
    cases ht
  · rcases h.finished with hf | ⟨hf, hrun⟩
    · exact hf
    · rw [hf]
      exact hinv.running_unfinished hrun

theorem LifecycleInv.interrupts (hinv : LifecycleInv run)
    (h : Interrupts op run w) : LifecycleInv w.run := by
  refine ⟨fun hr => ?_, fun _ => ⟨h.owner, h.worker, h.lease⟩,
    fun ht => ?_, fun _ => ?_⟩
  · rw [h.interrupted] at hr
    cases hr
  · rw [h.interrupted] at ht
    cases ht
  · rcases h.finished with hf | hf
    · exact hf
    · rw [hf]
      exact hinv.unfinished h.source

theorem LifecycleInv.stops (h : Stops now op run w) :
    LifecycleInv w.run := by
  refine ⟨fun hr => ?_, fun _ => ⟨h.owner, h.worker, h.lease⟩,
    fun _ => ⟨h.phase, ?_⟩, fun hf => ?_⟩
  · have ht := h.terminal
    rw [hr] at ht
    cases ht
  · rw [h.finished]
    rfl
  · rw [h.terminal] at hf
    cases hf

/-- Every committed operation keeps the invariant. -/
theorem LifecycleInv.write (hinv : LifecycleInv run)
    (h : op.write now run = .ok w) : LifecycleInv w.run := by
  cases op.write_effect h with
  | keeps h => exact hinv.keeps h
  | acquires h => exact hinv.acquires h
  | requeues h => exact hinv.requeues h
  | interrupts h => exact hinv.interrupts h
  | stops h => exact LifecycleInv.stops h

/-- A terminal run is left by `resume` only. -/
theorem terminal_left_by_resume (h : op.write now run = .ok w)
    (hterm : run.status.isTerminal = true) :
    op = .resume ∧ (run.status = .cancelled ∨ run.status = .failed) := by
  have hrunning : run.status ≠ .running := by
    intro hr
    rw [hr] at hterm
    cases hterm
  cases op.write_effect h with
  | keeps h =>
      obtain ⟨_, _, -, hown⟩ := h.by_owner
      exact absurd hown.1 hrunning
  | acquires h =>
      rcases h.free with hs | ⟨hs, -⟩
      · rw [hs] at hterm
        cases hterm
      · exact absurd hs hrunning
  | requeues h =>
      rcases h.source with hr | ⟨hop, hs | hs | hs⟩
      · exact absurd hr hrunning
      · exact ⟨hop, .inl hs⟩
      · exact ⟨hop, .inr hs⟩
      · rw [hs] at hterm
        cases hterm
  | interrupts h =>
      rw [h.source] at hterm
      cases hterm
  | stops h =>
      rw [h.source] at hterm
      cases hterm

end

-- =========================================================== every database

/-- The invariant holds of every run of every reachable database. -/
theorem lifecycleInv_reachable {db : Database}
    (h : Transition.Reachable databaseSystem db) {runId : RunId}
    {run : ResearchRunRow} (hrun : db.runs runId = some run) :
    LifecycleInv run :=
  runs_invariant LifecycleInv.create
    (fun _ _ _ _ hinv hw => hinv.write hw) h runId run hrun

/-- Status and lease agree, as the fields of one row. -/
structure StatusLeaseAgree (run : ResearchRunRow) : Prop where
  running_iff : run.status = .running ↔
    run.workerTaskId.isSome ∧ run.leaseUntil.isSome
  terminal : run.status.isTerminal = true →
    run.phase = .terminal ∧ run.finishedAt.isSome
      ∧ run.leaseOwner = none ∧ run.leaseUntil = none
      ∧ run.workerTaskId = none
  unfinished : run.status.isTerminal = false → run.finishedAt = none

theorem LifecycleInv.agree {run : ResearchRunRow}
    (hinv : LifecycleInv run) : StatusLeaseAgree run where
  running_iff := by
    refine ⟨hinv.busy, fun hset => ?_⟩
    by_contra hn
    rw [(hinv.idle hn).2.1] at hset
    cases hset.1
  terminal ht := by
    have hn : run.status ≠ .running := by
      intro hr
      rw [hr] at ht
      cases ht
    obtain ⟨howner, hworker, hlease⟩ := hinv.idle hn
    obtain ⟨hphase, hfinished⟩ := hinv.terminal ht
    exact ⟨hphase, hfinished, howner, hlease, hworker⟩
  unfinished := hinv.unfinished

/-- In every reachable database every run's status, phase, lease and
finishing time agree; and in the step any transaction takes from there,
a failed or cancelled run changes its status through `resume` only, a
completed one not at all. -/
theorem run_status_and_lease_agree {db : Database}
    (h : Transition.Reachable databaseSystem db) {runId : RunId}
    {run : ResearchRunRow} (hrun : db.runs runId = some run) :
    StatusLeaseAgree run
      ∧ ∀ now a run', (db.step now a).runs runId = some run' →
        (run.status = .failed ∨ run.status = .cancelled →
          run'.status = run.status ∨ a = .run runId .resume)
        ∧ (run.status.isCompleted = true → run' = run) := by
  refine ⟨(lifecycleInv_reachable h hrun).agree, fun now a run' hrun' => ?_⟩
  rcases Database.step_run hrun' with
    hsame | ⟨hnone, -⟩ | ⟨run₀, op, w, ha, hrun₀, hw, rfl⟩
  · rw [hrun] at hsame
    injection hsame with hsame
    rw [← hsame]
    exact ⟨fun _ => .inl rfl, fun _ => rfl⟩
  · rw [hrun] at hnone
    cases hnone
  · rw [hrun] at hrun₀
    injection hrun₀ with hrun₀
    subst hrun₀
    refine ⟨fun hs => .inr ?_, fun hs => ?_⟩
    · have hterm : run.status.isTerminal = true := by
        rcases hs with hs | hs <;> rw [hs] <;> rfl
      rw [ha, (terminal_left_by_resume hw hterm).1]
    · have hterm : run.status.isTerminal = true := by
        revert hs
        cases run.status <;> decide
      rcases (terminal_left_by_resume hw hterm).2 with hf | hf <;>
        rw [hf] at hs <;> cases hs

/-- A run a worker has acquired. -/
def acquiredDatabase : Database :=
  databaseSystem.exec {}
    [(0, .create sampleRunId {}),
      (1, .run sampleRunId
        (.acquireForExecution ⟨sampleRunId, .start, 1⟩ 900))]

/-- The acquired run is RUNNING with an owner and a lease, and no
completed or failed fields. -/
theorem run_status_and_lease_agree_acquired :
    StatusLeaseAgree
      ((acquiredDatabase.runs sampleRunId).get (by decide)) := by
  have hinit : databaseSystem.init {} := ⟨rfl, rfl⟩
  have hreach : Transition.Reachable databaseSystem acquiredDatabase :=
    (Transition.Reachable.init hinit).exec _
  exact (run_status_and_lease_agree hreach (Option.some_get _).symm).1

end DeepResearch.Run
