/-
What a committed operation can do to a run, said once.

Every write of `RunOp.write` is one of five: the worker goes on, a
worker acquires the run, the run is queued again, it is interrupted, or
it stops. `RunOp.write_effect` sorts the operations into these; the
invariants of the lifecycle, the wake-ups and the fencing are read off
the five effects and never unfold an operation again.
-/
import DeepResearch.Run.Operations

namespace DeepResearch.Run

-- =========================================================== the effects

/-- The worker that owns the run goes on: ownership stays with it and
nothing is dispatched or revoked. -/
structure Keeps (op : RunOp) (run : ResearchRunRow) (w : RunWrite) :
    Prop where
  by_owner : ∃ task workerOp, op = .worker task workerOp ∧ run.OwnedBy task
  running : w.run.status = .running
  worker : w.run.workerTaskId = run.workerTaskId
  lease : run.leaseUntil.isSome → w.run.leaseUntil.isSome
  finished : w.run.finishedAt = run.finishedAt
  version : run.stateVersion ≤ w.run.stateVersion
  revoke : w.revoke = none
  dispatch : w.dispatch = none

/-- A worker takes a queued run, or an expired one from its owner. -/
structure Acquires (now : Nat) (op : RunOp) (run : ResearchRunRow)
    (w : RunWrite) : Prop where
  free : run.status = .queued
    ∨ run.status = .running ∧ run.leaseExpired now = true
  by_task : ∃ task lease, op = .acquireForExecution task lease
    ∧ w.run.workerTaskId = some task
  running : w.run.status = .running
  lease : w.run.leaseUntil.isSome
  finished : w.run.finishedAt = run.finishedAt
  version : w.run.stateVersion = run.stateVersion + 1
  revoke : w.revoke = none
  dispatch : w.dispatch = none

/-- The run is queued, with a dispatch under its new state version. The
lease fields are cleared, except by `resume`, which finds them so. -/
structure Requeues (now : Nat) (op : RunOp) (run : ResearchRunRow)
    (w : RunWrite) : Prop where
  source : run.status = .running
    ∨ op = .resume ∧ (run.status = .cancelled ∨ run.status = .failed
      ∨ run.status = .interrupted)
  queued : w.run.status = .queued
  owner : w.run.leaseOwner = none ∨ w.run.leaseOwner = run.leaseOwner
    ∧ run.status ≠ .running
  worker : w.run.workerTaskId = none ∨ w.run.workerTaskId = run.workerTaskId
    ∧ run.status ≠ .running
  lease : w.run.leaseUntil = none ∨ w.run.leaseUntil = run.leaseUntil
    ∧ run.status ≠ .running
  finished : w.run.finishedAt = none
    ∨ w.run.finishedAt = run.finishedAt ∧ run.status = .running
  version : w.run.stateVersion = run.stateVersion + 1
  revoke : w.revoke = none
  dispatch : ∃ d, w.dispatch = some d ∧ d.number = w.run.stateVersion

/-- The run is interrupted: by `pause`, which revokes its dispatches, or
by its own worker. -/
structure Interrupts (op : RunOp) (run : ResearchRunRow) (w : RunWrite) :
    Prop where
  source : run.status.isTerminal = false
  actor : op = .pause ∨ run.status = .running
  interrupted : w.run.status = .interrupted
  owner : w.run.leaseOwner = none
  worker : w.run.workerTaskId = none
  lease : w.run.leaseUntil = none
  finished : w.run.finishedAt = none ∨ w.run.finishedAt = run.finishedAt
  version : w.run.stateVersion = run.stateVersion + 1
  dispatch : w.dispatch = none

/-- The run stops: by `cancel`, which revokes its dispatches, or at the
hands of its own worker. -/
structure Stops (now : Nat) (op : RunOp) (run : ResearchRunRow)
    (w : RunWrite) : Prop where
  source : run.status.isTerminal = false
  actor : op = .cancel ∨ run.status = .running
  terminal : w.run.status.isTerminal = true
  phase : w.run.phase = .terminal
  owner : w.run.leaseOwner = none
  worker : w.run.workerTaskId = none
  lease : w.run.leaseUntil = none
  finished : w.run.finishedAt = some now
  version : w.run.stateVersion = run.stateVersion + 1
  dispatch : w.dispatch = none

/-- The five effects. -/
inductive RunEffect (now : Nat) (op : RunOp) (run : ResearchRunRow)
    (w : RunWrite) : Prop
  | keeps (h : Keeps op run w)
  | acquires (h : Acquires now op run w)
  | requeues (h : Requeues now op run w)
  | interrupts (h : Interrupts op run w)
  | stops (h : Stops now op run w)

-- ===================================================== operation by operation

/-- A guarded transaction committed: its guard held. -/
theorem ok_of_guard {ε α : Type} {c : Prop} [Decidable c] {w w' : α}
    {r : ε} (h : (if c then .ok w' else .error r : Except ε α) = .ok w) :
    c ∧ w' = w := by
  split at h
  case isTrue hc => exact ⟨hc, Except.ok.inj h⟩
  case isFalse => cases h

/-- A transaction that refuses under `c` committed: `c` did not hold. -/
theorem ok_of_refusal {c : Prop} [Decidable c]
    {w : RunWrite} {x : Except Refusal RunWrite} {r : Refusal}
    (h : (if c then .error r else x) = .ok w) : ¬ c ∧ x = .ok w := by
  split at h
  case isTrue => cases h
  case isFalse hc => exact ⟨hc, h⟩

/-- What an operation under a map returned. -/
theorem ok_of_map {ε α β : Type} {f : α → β} {x : Except ε α} {b : β}
    (h : f <$> x = .ok b) : ∃ a, x = .ok a ∧ f a = b := by
  cases x with
  | error e => cases h
  | ok a =>
      injection h with h
      exact ⟨a, rfl, h⟩

section

variable {now : Nat} {run : ResearchRunRow} {w : RunWrite}

/-- A cancelled run is over, without an owner. -/
theorem cancel_stops (h : cancel now run = .ok w) :
    Stops now .cancel run w := by
  unfold cancel at h
  obtain ⟨hopen, hw⟩ := ok_of_refusal h
  injection hw with hw
  subst hw
  exact {
    source := by simpa using hopen
    actor := .inl rfl
    terminal := rfl, phase := rfl, owner := rfl, worker := rfl
    lease := rfl, finished := rfl, version := rfl, dispatch := rfl }

/-- A paused run is interrupted, without an owner. -/
theorem pause_interrupts (h : pause now run = .ok w) :
    Interrupts .pause run w := by
  unfold pause at h
  obtain ⟨hopen, hw⟩ := ok_of_refusal h
  injection hw with hw
  subst hw
  exact {
    source := by simpa using hopen
    actor := .inl rfl
    interrupted := rfl, owner := rfl, worker := rfl, lease := rfl
    finished := .inl rfl, version := rfl, dispatch := rfl }

/-- A resumed run is queued again, under a new version. -/
theorem resume_requeues (h : resume now run = .ok w) :
    Requeues now .resume run w := by
  unfold resume at h
  obtain ⟨-, h⟩ := ok_of_refusal h
  obtain ⟨hfrom, rfl⟩ := ok_of_guard h
  have hidle : run.status ≠ .running := by
    rcases hfrom with hs | hs | hs <;> rw [hs] <;> decide
  exact {
    source := .inr ⟨rfl, hfrom⟩
    queued := rfl
    owner := .inr ⟨rfl, hidle⟩
    worker := .inr ⟨rfl, hidle⟩
    lease := .inr ⟨rfl, hidle⟩
    finished := .inl rfl
    version := rfl, revoke := rfl
    dispatch := ⟨_, rfl, rfl⟩ }

/-- An acquired run is owned by the task. -/
theorem acquireForExecution_acquires {task : TaskId} {lease : Nat}
    (h : acquireForExecution task lease now run = .ok w) :
    Acquires now (.acquireForExecution task lease) run w := by
  unfold acquireForExecution at h
  obtain ⟨hfree, hw⟩ := ok_of_refusal h
  injection hw with hw
  subst hw
  exact {
    free := by
      by_cases hq : run.status = .queued
      · exact .inl hq
      · exact .inr (Classical.not_not.mp fun hx => hfree ⟨hq, hx⟩)
    by_task := ⟨task, lease, rfl, rfl⟩
    running := rfl, lease := rfl, finished := rfl, version := rfl
    revoke := rfl, dispatch := rfl }

/-- A run whose lease has expired is queued again. -/
theorem reconcileExpiredLease_requeues
    (h : reconcileExpiredLease now run = .ok w) :
    Requeues now .reconcileExpiredLease run w := by
  unfold reconcileExpiredLease at h
  obtain ⟨hexp, rfl⟩ := ok_of_guard h
  exact {
    source := .inl hexp.1
    queued := rfl
    owner := .inl rfl, worker := .inl rfl, lease := .inl rfl
    finished := .inr ⟨rfl, hexp.1⟩
    version := rfl, revoke := rfl
    dispatch := ⟨_, rfl, rfl⟩ }

/-- So is a run that is deferred. -/
theorem deferRetryableError_requeues {transport : Transport}
    {task : TaskId} {code : String} {detail : Option String} {op : RunOp}
    (h : deferRetryableError transport task code detail now run = .ok w) :
    Requeues now op run w := by
  unfold deferRetryableError at h
  split at h
  case isFalse => cases h
  case isTrue hown =>
    split at h
    case h_1 => cases h
    case h_2 =>
      injection h with hw
      subst hw
      exact {
        source := .inl hown.1
        queued := rfl
        owner := .inl rfl, worker := .inl rfl, lease := .inl rfl
        finished := .inl rfl
        version := rfl, revoke := rfl
        dispatch := ⟨_, rfl, rfl⟩ }

/-- A write that only touches the usage snapshot keeps the rest. -/
theorem writeUsage_keeps {task : TaskId} {op : WorkerOp}
    {update : UsageSnapshot → UsageSnapshot}
    (h : writeUsage task update run = .ok w) :
    Keeps (.worker task op) run w := by
  unfold writeUsage at h
  obtain ⟨hown, rfl⟩ := ok_of_guard h
  exact {
    by_owner := ⟨task, op, rfl, hown⟩
    running := hown.1
    worker := rfl, lease := id, finished := rfl
    version := Nat.le_refl _
    revoke := rfl, dispatch := rfl }

/-- A running run is not terminal. -/
theorem OwnedBy.not_terminal {task : TaskId} (hown : run.OwnedBy task) :
    run.status.isTerminal = false := by
  rw [hown.1]
  rfl

/-- The effect of a worker's operation. -/
theorem WorkerOp.write_effect {task : TaskId} {op : WorkerOp}
    (h : op.write now task run = .ok w) :
    RunEffect now (.worker task op) run w := by
  cases op with
  | renewExecutionLease lease =>
      simp only [WorkerOp.write, Run.renewExecutionLease] at h
      obtain ⟨hown, rfl⟩ := ok_of_guard h
      exact .keeps {
        by_owner := ⟨task, _, rfl, hown.1⟩
        running := hown.1.1
        worker := rfl, lease := fun _ => rfl, finished := rfl
        version := Nat.le_refl _
        revoke := rfl, dispatch := rfl }
  | saveGapResolutionPlan =>
      simp only [WorkerOp.write, Run.saveGapResolutionPlan] at h
      obtain ⟨hown, rfl⟩ := ok_of_guard h
      exact .keeps {
        by_owner := ⟨task, _, rfl, hown.1⟩
        running := hown.1.1
        worker := rfl, lease := id, finished := rfl
        version := Nat.le_succ _
        revoke := rfl, dispatch := rfl }
  | saveReplannedQuestions budgets =>
      simp only [WorkerOp.write, Run.saveReplannedQuestions] at h
      obtain ⟨hown, rfl⟩ := ok_of_guard h
      exact .keeps {
        by_owner := ⟨task, _, rfl, hown.1⟩
        running := hown.1.1
        worker := rfl, lease := id, finished := rfl
        version := Nat.le_succ _
        revoke := rfl, dispatch := rfl }
  | saveGeneratedPlan usage budgets =>
      simp only [WorkerOp.write, Run.saveGeneratedPlan] at h
      obtain ⟨hown, rfl⟩ := ok_of_guard h
      exact .keeps {
        by_owner := ⟨task, _, rfl, hown⟩
        running := hown.1
        worker := rfl, lease := id, finished := rfl
        version := Nat.le_succ _
        revoke := rfl, dispatch := rfl }
  | interruptForPendingPlanner =>
      simp only [WorkerOp.write, Run.interruptForPendingPlanner] at h
      obtain ⟨hown, rfl⟩ := ok_of_guard h
      exact .interrupts {
        source := OwnedBy.not_terminal hown
        actor := .inr hown.1
        interrupted := rfl, owner := rfl, worker := rfl, lease := rfl
        finished := .inr rfl, version := rfl, dispatch := rfl }
  | recordModelRetry =>
      simp only [WorkerOp.write, Run.recordModelRetry] at h
      obtain ⟨hown, rfl⟩ := ok_of_guard h
      exact .keeps {
        by_owner := ⟨task, _, rfl, hown⟩
        running := hown.1
        worker := rfl, lease := fun _ => rfl, finished := rfl
        version := Nat.le_succ _
        revoke := rfl, dispatch := rfl }
  | deferRetryableModelError code detail =>
      exact .requeues (deferRetryableError_requeues h)
  | deferRetryableSearchError code detail =>
      exact .requeues (deferRetryableError_requeues h)
  | failExecution code =>
      simp only [WorkerOp.write, Run.failExecution] at h
      obtain ⟨hown, rfl⟩ := ok_of_guard h
      exact .stops {
        source := OwnedBy.not_terminal hown
        actor := .inr hown.1
        terminal := rfl, phase := rfl, owner := rfl, worker := rfl
        lease := rfl, finished := rfl, version := rfl, dispatch := rfl }
  -- From here on only the usage snapshot is written, by the owner.
  | reservePageSlots requested fresh =>
      simp only [WorkerOp.write] at h
      exact .keeps (writeUsage_keeps h)
  | recordPageFetched reused latency =>
      simp only [WorkerOp.write] at h
      exact .keeps (writeUsage_keeps h)
  | recordPageFailure latency =>
      simp only [WorkerOp.write] at h
      exact .keeps (writeUsage_keeps h)
  | releasePageSlots count =>
      simp only [WorkerOp.write] at h
      exact .keeps (writeUsage_keeps (ok_of_refusal h).2)
  | reserveExtractionSlot =>
      simp only [WorkerOp.write] at h
      exact .keeps (writeUsage_keeps (ok_of_refusal h).2)
  | releaseExtractionSlot =>
      simp only [WorkerOp.write] at h
      exact .keeps (writeUsage_keeps h)
  | recordPage usage hit =>
      simp only [WorkerOp.write] at h
      exact .keeps (writeUsage_keeps h)
  | recordExtractionFailure usage =>
      simp only [WorkerOp.write] at h
      exact .keeps (writeUsage_keeps h)
  -- These change the phase or the plan as well.
  | enterWriting reason =>
      simp only [WorkerOp.write, Run.enterWriting] at h
      obtain ⟨hown, rfl⟩ := ok_of_guard h
      exact .keeps {
        by_owner := ⟨task, _, rfl, hown⟩
        running := rfl
        worker := rfl, lease := fun _ => rfl, finished := rfl
        version := Nat.le_succ _
        revoke := rfl, dispatch := rfl }
  | requestReplan =>
      simp only [WorkerOp.write, Run.requestReplan] at h
      obtain ⟨hown, rfl⟩ := ok_of_guard h
      exact .keeps {
        by_owner := ⟨task, _, rfl, hown⟩
        running := hown.1
        worker := rfl, lease := id, finished := rfl
        version := Nat.le_refl _
        revoke := rfl, dispatch := rfl }
  | handOutTarget =>
      simp only [WorkerOp.write] at h
      exact .keeps (writeUsage_keeps h)
  | finishIteration outcome reason =>
      simp only [WorkerOp.write, Run.finishIteration] at h
      split at h
      case isFalse => cases h
      case isTrue hown =>
        split at h
        case isTrue =>
          injection h with hw
          subst hw
          exact .keeps {
            by_owner := ⟨task, _, rfl, hown⟩
            running := hown.1
            worker := rfl, lease := id, finished := rfl
            version := Nat.le_refl _
            revoke := rfl, dispatch := rfl }
        case isFalse =>
          injection h with hw
          subst hw
          exact .keeps {
            by_owner := ⟨task, _, rfl, hown⟩
            running := rfl
            worker := rfl, lease := fun _ => rfl, finished := rfl
            version := Nat.le_succ _
            revoke := rfl, dispatch := rfl }
  -- The two ends of the writer.
  | saveReport writer limited =>
      simp only [WorkerOp.write, Run.saveReport] at h
      obtain ⟨hlease, rfl⟩ := ok_of_guard h
      exact .stops {
        source := OwnedBy.not_terminal hlease.1
        actor := .inr hlease.1.1
        terminal := by cases limited <;> rfl
        phase := rfl, owner := rfl, worker := rfl
        lease := rfl, finished := rfl, version := rfl, dispatch := rfl }
  | failNoEvidence =>
      simp only [WorkerOp.write, Run.failNoEvidence] at h
      obtain ⟨hlease, rfl⟩ := ok_of_guard h
      exact .stops {
        source := OwnedBy.not_terminal hlease.1
        actor := .inr hlease.1.1
        terminal := rfl, phase := rfl, owner := rfl, worker := rfl
        lease := rfl, finished := rfl, version := rfl, dispatch := rfl }

/-- The inversion lemma of the lifecycle: a committed operation has one
of the five effects. -/
theorem RunOp.write_effect {op : RunOp} (h : op.write now run = .ok w) :
    RunEffect now op run w := by
  cases op with
  | cancel => exact .stops (cancel_stops h)
  | pause => exact .interrupts (pause_interrupts h)
  | resume => exact .requeues (resume_requeues h)
  | acquireForExecution task lease =>
      exact .acquires (acquireForExecution_acquires h)
  | reconcileExpiredLease =>
      exact .requeues (reconcileExpiredLease_requeues h)
  | worker task op => exact op.write_effect h

end

end DeepResearch.Run
