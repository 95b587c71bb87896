/-
Which counters an operation moves, said once.

The limits of the research loop compare counters of the usage snapshot
with figures of the budget snapshot. Among all operations on a run three
move such a counter: `finish_iteration` counts an iteration,
`prepare_target` a scheduler action, `save_gap_resolution_plan` a replan.
No operation moves a figure of the budget, and none takes back the guard
of the token budget. The loops read their frame conditions off
`RunOp.write_moves` and never unfold an operation again.
-/
import DeepResearch.Run.Proofs.Effects

namespace DeepResearch.Run

-- =========================================================== statements

/-- The counters and the limits the gates of the loop compare. -/
structure Gauges where
  iterations : Nat
  schedulerActions : Nat
  replans : Nat
  searches : Option Nat
  logicalQueries : Option Nat
  searchProviderRequests : Nat
  maxIterations : Option Nat
  maxSchedulerActions : Option Nat
  maxSearches : Option Nat
  maxLogicalQueries : Option Nat
  maxProviderRequests : Option Nat

def ResearchRunRow.gauges (run : ResearchRunRow) : Gauges where
  iterations := run.usageSnapshot.iterations
  schedulerActions := run.usageSnapshot.schedulerActions
  replans := run.usageSnapshot.replans
  searches := run.usageSnapshot.searches
  logicalQueries := run.usageSnapshot.logicalQueries
  searchProviderRequests := run.usageSnapshot.searchProviderRequests
  maxIterations := run.budgetSnapshot.maxIterations
  maxSchedulerActions := run.budgetSnapshot.maxSchedulerActions
  maxSearches := run.budgetSnapshot.maxSearches
  maxLogicalQueries := run.budgetSnapshot.maxLogicalQueries
  maxProviderRequests := run.budgetSnapshot.maxProviderRequests

/-- What a worker's operation counts. -/
def WorkerOp.count (gauges : Gauges) : WorkerOp → Gauges
  | .finishIteration outcome _ =>
      if outcome.yields then gauges
      else
        { gauges with
          iterations :=
            gauges.iterations
              + if researchAttemptConsumesIteration outcome then 1 else 0 }
  | .handOutTarget =>
      { gauges with schedulerActions := gauges.schedulerActions + 1 }
  | .saveGapResolutionPlan =>
      { gauges with replans := gauges.replans + 1 }
  | _ => gauges

/-- What an operation counts. -/
def RunOp.count (gauges : Gauges) : RunOp → Gauges
  | .worker _ op => op.count gauges
  | _ => gauges

/-- The counters moved as `gauges` says, and the guard of the token
budget was not taken back. -/
structure Moves (gauges : Gauges) (run run' : ResearchRunRow) : Prop where
  gauges : run'.gauges = gauges
  guarded : run.usageSnapshot.modelBudgetGuarded = true →
    run'.usageSnapshot.modelBudgetGuarded = true

-- ================================================ operation by operation

section

variable {now : Nat} {run : ResearchRunRow} {w : RunWrite}

theorem acquireUsage_moves (run run' : ResearchRunRow)
    (hbudget : run'.budgetSnapshot = run.budgetSnapshot)
    (husage : run'.usageSnapshot = acquireUsage run) :
    Moves run.gauges run run' := by
  unfold acquireUsage at husage
  dsimp only at husage
  constructor
  · unfold ResearchRunRow.gauges
    rw [husage, hbudget]
    split <;> rfl
  · intro h
    rw [husage]
    split
    case isTrue => rfl
    case isFalse => exact h

theorem reservePageSlots_moves (task : TaskId) (requested : Nat)
    (fresh : Bool) :
    Moves run.gauges run
      { run with
        usageSnapshot := Run.reservePageSlots run.budgetSnapshot
          run.usageSnapshot task requested fresh } := by
  unfold Run.reservePageSlots
  dsimp only
  split <;> exact ⟨rfl, id⟩

theorem recordExtractionFailure_moves (call : Option TokenUsage) :
    Moves run.gauges run
      { run with
        usageSnapshot :=
          Run.recordExtractionFailure run.usageSnapshot call } := by
  cases call <;> exact ⟨rfl, id⟩

/-- A usage write that moves no counter. -/
theorem writeUsage_moves {task : TaskId} {gauges : Gauges}
    {update : UsageSnapshot → UsageSnapshot}
    (hupdate : Moves gauges run
      { run with usageSnapshot := update run.usageSnapshot })
    (h : writeUsage task update run = .ok w) : Moves gauges run w.run := by
  unfold writeUsage at h
  obtain ⟨-, rfl⟩ := ok_of_guard h
  exact hupdate

theorem deferRetryableError_moves {transport : Transport} {task : TaskId}
    {code : String} {detail : Option String}
    (h : deferRetryableError transport task code detail now run = .ok w) :
    Moves run.gauges run w.run := by
  unfold deferRetryableError at h
  split at h
  case isFalse => cases h
  case isTrue =>
    split at h
    case h_1 => cases h
    case h_2 =>
      injection h with hw
      subst hw
      cases transport <;> exact ⟨rfl, id⟩

theorem WorkerOp.write_moves {task : TaskId} {op : WorkerOp}
    (h : op.write now task run = .ok w) :
    Moves (op.count run.gauges) run w.run := by
  cases op with
  | renewExecutionLease lease =>
      simp only [WorkerOp.write, Run.renewExecutionLease] at h
      obtain ⟨-, rfl⟩ := ok_of_guard h
      exact ⟨rfl, id⟩
  | saveGeneratedPlan usage budgets =>
      simp only [WorkerOp.write, Run.saveGeneratedPlan] at h
      obtain ⟨-, rfl⟩ := ok_of_guard h
      exact ⟨rfl, id⟩
  | saveGapResolutionPlan =>
      simp only [WorkerOp.write, Run.saveGapResolutionPlan] at h
      obtain ⟨-, rfl⟩ := ok_of_guard h
      exact ⟨rfl, id⟩
  | saveReplannedQuestions budgets =>
      simp only [WorkerOp.write, Run.saveReplannedQuestions] at h
      obtain ⟨-, rfl⟩ := ok_of_guard h
      exact ⟨rfl, id⟩
  | interruptForPendingPlanner =>
      simp only [WorkerOp.write, Run.interruptForPendingPlanner] at h
      obtain ⟨-, rfl⟩ := ok_of_guard h
      exact ⟨rfl, id⟩
  | recordModelRetry =>
      simp only [WorkerOp.write, Run.recordModelRetry] at h
      obtain ⟨-, rfl⟩ := ok_of_guard h
      exact ⟨rfl, id⟩
  | deferRetryableModelError code detail =>
      exact deferRetryableError_moves h
  | deferRetryableSearchError code detail =>
      exact deferRetryableError_moves h
  | failExecution code =>
      simp only [WorkerOp.write, Run.failExecution] at h
      obtain ⟨-, rfl⟩ := ok_of_guard h
      exact ⟨rfl, id⟩
  | reservePageSlots requested fresh =>
      simp only [WorkerOp.write] at h
      have hmoves := writeUsage_moves
        (reservePageSlots_moves task requested fresh) h
      exact hmoves
  | recordPageFetched reused latency =>
      simp only [WorkerOp.write] at h
      exact writeUsage_moves ⟨rfl, id⟩ h
  | recordPageFailure latency =>
      simp only [WorkerOp.write] at h
      exact writeUsage_moves ⟨rfl, id⟩ h
  | releasePageSlots count =>
      simp only [WorkerOp.write] at h
      exact writeUsage_moves ⟨rfl, id⟩ (ok_of_refusal h).2
  | reserveExtractionSlot =>
      simp only [WorkerOp.write] at h
      exact writeUsage_moves ⟨rfl, id⟩ (ok_of_refusal h).2
  | releaseExtractionSlot =>
      simp only [WorkerOp.write] at h
      exact writeUsage_moves ⟨rfl, id⟩ h
  | recordPage usage hit =>
      simp only [WorkerOp.write] at h
      exact writeUsage_moves ⟨rfl, id⟩ h
  | recordExtractionFailure usage =>
      simp only [WorkerOp.write] at h
      have hmoves := writeUsage_moves (recordExtractionFailure_moves usage) h
      exact hmoves
  | enterWriting reason =>
      simp only [WorkerOp.write, Run.enterWriting] at h
      obtain ⟨-, rfl⟩ := ok_of_guard h
      exact ⟨rfl, id⟩
  | requestReplan =>
      simp only [WorkerOp.write, Run.requestReplan] at h
      obtain ⟨-, rfl⟩ := ok_of_guard h
      exact ⟨rfl, id⟩
  | handOutTarget =>
      simp only [WorkerOp.write] at h
      exact writeUsage_moves ⟨rfl, id⟩ h
  | finishIteration outcome reason =>
      simp only [WorkerOp.write, Run.finishIteration] at h
      split at h
      case isFalse => cases h
      case isTrue =>
        unfold WorkerOp.count
        dsimp only
        split at h
        case isTrue hyields =>
          rw [if_pos hyields]
          injection h with hw
          subst hw
          exact ⟨rfl, id⟩
        case isFalse hyields =>
          rw [if_neg hyields]
          injection h with hw
          subst hw
          exact ⟨rfl, id⟩
  | saveReport writer limited =>
      simp only [WorkerOp.write, Run.saveReport] at h
      obtain ⟨-, rfl⟩ := ok_of_guard h
      exact ⟨rfl, id⟩
  | failNoEvidence =>
      simp only [WorkerOp.write, Run.failNoEvidence] at h
      obtain ⟨-, rfl⟩ := ok_of_guard h
      exact ⟨rfl, id⟩

/-- What a committed operation does to the counters. -/
theorem RunOp.write_moves {op : RunOp} (h : op.write now run = .ok w) :
    Moves (op.count run.gauges) run w.run := by
  cases op with
  | cancel =>
      simp only [RunOp.write, Run.cancel] at h
      obtain ⟨-, hw⟩ := ok_of_refusal h
      injection hw with hw
      subst hw
      exact ⟨rfl, id⟩
  | pause =>
      simp only [RunOp.write, Run.pause] at h
      obtain ⟨-, hw⟩ := ok_of_refusal h
      injection hw with hw
      subst hw
      exact ⟨rfl, id⟩
  | resume =>
      simp only [RunOp.write, Run.resume] at h
      obtain ⟨-, h⟩ := ok_of_refusal h
      obtain ⟨-, rfl⟩ := ok_of_guard h
      exact ⟨rfl, id⟩
  | acquireForExecution task lease =>
      simp only [RunOp.write, Run.acquireForExecution] at h
      obtain ⟨-, hw⟩ := ok_of_refusal h
      injection hw with hw
      subst hw
      exact acquireUsage_moves _ _ rfl rfl
  | reconcileExpiredLease =>
      simp only [RunOp.write, Run.reconcileExpiredLease] at h
      obtain ⟨-, rfl⟩ := ok_of_guard h
      exact ⟨rfl, id⟩
  | worker task op => exact op.write_moves h

end

end DeepResearch.Run
