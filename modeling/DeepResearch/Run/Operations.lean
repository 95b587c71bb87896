/-
The transitions a worker makes on the run it owns, and the collection of
all operations on a run.

The worker's transitions come from three repositories: planning and
failure from `research_runs.py`, the research loop from
`research_tools.py`, the report from `reports.py`. All of them check the
same ownership first (`ResearchRunRow.OwnedBy`); the report's also
requires the WRITING phase.
-/
import DeepResearch.Run.Repository

namespace DeepResearch.Run

-- ========================================================== planning

/-- `model_token_pool_limits(allocation)["writer"]`. -/
def Allocation.writerReserve (allocation : Allocation) : Nat :=
  (allocation.writerTokensInitial.or allocation.writerTokens).getD 0

/-- `save_generated_plan`: the plan itself is kept elsewhere; the run
gets its question token budgets, the planner's usage in place of the one
before, and the token total derived from it. -/
def saveGeneratedPlan (workerTaskId : TaskId) (usage : TokenUsage)
    (questionTokenBudgets : List (String × Nat)) (now : Nat)
    (run : ResearchRunRow) : Except Refusal RunWrite :=
  if run.OwnedBy workerTaskId then .ok
    { run :=
        { run with
          planVersion := run.planVersion + 1
          budgetSnapshot :=
            { run.budgetSnapshot with
              allocation :=
                { run.budgetSnapshot.allocation with
                  writerTokensInitial :=
                    some run.budgetSnapshot.allocation.writerReserve
                  questionTokenBudgets } }
          usageSnapshot :=
            syncModelTokens { run.usageSnapshot with planner := some usage }
          phase := .researching
          terminationReason := none
          updatedAt := now
          stateVersion := run.stateVersion + 1 } }
  else .error .leaseLost

/-- `save_gap_resolution_plan`, when it finds a question to reset: a new
plan version for the same questions. -/
def saveGapResolutionPlan (workerTaskId : TaskId) (now : Nat)
    (run : ResearchRunRow) : Except Refusal RunWrite :=
  if run.OwnedBy workerTaskId ∧ 1 ≤ run.planVersion then .ok
    { run :=
        { run with
          planVersion := run.planVersion + 1
          usageSnapshot :=
            { run.usageSnapshot with
              replans := run.usageSnapshot.replans + 1 }
          phase := .researching
          terminationReason := none
          updatedAt := now
          stateVersion := run.stateVersion + 1 } }
  else .error .leaseLost

/-- `save_replanned_questions`, when it adds a question: a new plan
version with rebalanced question budgets. -/
def saveReplannedQuestions (workerTaskId : TaskId)
    (questionTokenBudgets : List (String × Nat)) (now : Nat)
    (run : ResearchRunRow) : Except Refusal RunWrite :=
  if run.OwnedBy workerTaskId ∧ 1 ≤ run.planVersion then .ok
    { run :=
        { run with
          planVersion := run.planVersion + 1
          budgetSnapshot :=
            { run.budgetSnapshot with
              allocation :=
                { run.budgetSnapshot.allocation with
                  questionTokenBudgets } }
          phase := .researching
          terminationReason := none
          updatedAt := now
          stateVersion := run.stateVersion + 1 } }
  else .error .leaseLost

/-- `interrupt_for_pending_planner`. -/
def interruptForPendingPlanner (workerTaskId : TaskId) (now : Nat)
    (run : ResearchRunRow) : Except Refusal RunWrite :=
  if run.OwnedBy workerTaskId then .ok
    { run :=
        { run with
          status := .interrupted
          phase := .planning
          terminationReason := some "planner_not_implemented"
          leaseOwner := none
          leaseUntil := none
          workerTaskId := none
          updatedAt := now
          stateVersion := run.stateVersion + 1 } }
  else .error .leaseLost

/-- `record_model_retry`: an in-process retry keeps the lease alive. -/
def recordModelRetry (workerTaskId : TaskId) (now : Nat)
    (run : ResearchRunRow) : Except Refusal RunWrite :=
  if run.OwnedBy workerTaskId then .ok
    { run :=
        { run with
          updatedAt := now
          leaseUntil := some (now + executionLeaseSeconds)
          stateVersion := run.stateVersion + 1 } }
  else .error .leaseLost

/-- `fail_execution`. -/
def failExecution (workerTaskId : TaskId) (errorCode : String)
    (now : Nat) (run : ResearchRunRow) : Except Refusal RunWrite :=
  if run.OwnedBy workerTaskId then
    let safeCode :=
      if isUpper errorCode then errorCode else "WORKER_EXECUTION_FAILED"
    .ok
      { run :=
          { run with
            status := .failed
            phase := .terminal
            terminationReason := some (truncate100 safeCode)
            leaseOwner := none
            leaseUntil := none
            workerTaskId := none
            updatedAt := now
            finishedAt := some now
            usageSnapshot :=
              { run.usageSnapshot with pageSlotsReserved := 0 }
            stateVersion := run.stateVersion + 1 } }
  else .error .leaseLost

-- ====================================================== research loop

/-- A write of a worker that only touches the usage snapshot. -/
def writeUsage (workerTaskId : TaskId)
    (update : UsageSnapshot → UsageSnapshot) (run : ResearchRunRow) :
    Except Refusal RunWrite :=
  if run.OwnedBy workerTaskId then
    .ok { run := { run with usageSnapshot := update run.usageSnapshot } }
  else .error .leaseLost

/-- `_enter_writing`, the way `prepare_target` ends research. -/
def enterWriting (workerTaskId : TaskId) (reason : String) (now : Nat)
    (run : ResearchRunRow) : Except Refusal RunWrite :=
  if run.OwnedBy workerTaskId then .ok
    { run :=
        { run with
          status := .running
          phase := .writing
          terminationReason := some reason
          leaseUntil := some (now + executionLeaseSeconds)
          updatedAt := now
          stateVersion := run.stateVersion + 1 } }
  else .error .leaseLost

/-- The exit of `prepare_target` that asks for a replan. -/
def requestReplan (workerTaskId : TaskId) (run : ResearchRunRow) :
    Except Refusal RunWrite :=
  if run.OwnedBy workerTaskId then
    .ok { run := { run with phase := .researching } }
  else .error .leaseLost

/-- How a research attempt ended (`attempt_outcome`); `other` stands for
any text the code compares with none of these. -/
inductive AttemptOutcome
  | evidenceGained
  | yieldQuestion
  | questionBudgetExhausted
  | stopRun
  | insufficientQuestionBudget
  | zeroResults
  | unreadable
  | noEvidence
  | providerError
  | budgetExhausted
  | deadlineExhausted
  | other
  deriving DecidableEq, Repr

/-- `_NON_CONSUMING_ITERATION_OUTCOMES`. -/
def AttemptOutcome.isNonConsuming : AttemptOutcome → Bool
  | .yieldQuestion | .questionBudgetExhausted | .stopRun
  | .insufficientQuestionBudget | .zeroResults | .unreadable
  | .noEvidence | .providerError | .budgetExhausted => true
  | .evidenceGained | .deadlineExhausted | .other => false

/-- The outcomes `finish_iteration` answers before any evaluation: the
question gives up its turn and research goes on. -/
def AttemptOutcome.yields : AttemptOutcome → Bool
  | .yieldQuestion | .questionBudgetExhausted => true
  | _ => false

/-- `_research_attempt_consumes_iteration`. -/
def researchAttemptConsumesIteration (outcome : AttemptOutcome) : Bool :=
  !(outcome == .providerError) && !outcome.isNonConsuming

/-- The counters `finish_iteration` writes before it decides. -/
def finishIterationUsage (outcome : AttemptOutcome)
    (usage : UsageSnapshot) : UsageSnapshot :=
  { usage with
    technicalRetries :=
      usage.technicalRetries + if outcome = .providerError then 1 else 0
    iterations :=
      usage.iterations
        + if researchAttemptConsumesIteration outcome then 1 else 0 }

/-- The write of `finish_iteration` once the stop reason is decided:
research goes on without one and turns to writing with one. -/
def finishIteration (workerTaskId : TaskId) (outcome : AttemptOutcome)
    (stopReason : Option String) (now : Nat) (run : ResearchRunRow) :
    Except Refusal RunWrite :=
  if run.OwnedBy workerTaskId then
    if outcome.yields then .ok { run }
    else .ok
      { run :=
          { run with
            usageSnapshot := finishIterationUsage outcome run.usageSnapshot
            updatedAt := now
            stateVersion := run.stateVersion + 1
            status := .running
            phase := if stopReason.isSome then .writing else .researching
            terminationReason := stopReason
            leaseUntil := some (now + executionLeaseSeconds) } }
  else .error .leaseLost

-- ============================================================= report

/-- `_require_writing_lease`. -/
def ResearchRunRow.HasWritingLease (run : ResearchRunRow)
    (workerTaskId : TaskId) : Prop :=
  run.OwnedBy workerTaskId ∧ run.phase = .writing

instance (run : ResearchRunRow) (workerTaskId : TaskId) :
    Decidable (run.HasWritingLease workerTaskId) :=
  inferInstanceAs (Decidable (_ ∧ _))

/-- The usage write of `save`: the writer's usage replaces the one
before, and one verification call is counted while any is left. -/
def saveReportUsage (budget : BudgetSnapshot) (usage : UsageSnapshot)
    (writer : Option TokenUsage) : UsageSnapshot :=
  let maximum := budget.maxVerificationCalls.getD 0
  syncModelTokens
    { usage with
      writer
      verificationCalls :=
        if 0 < maximum ∧ maximum ≤ usage.verificationCalls then
          usage.verificationCalls
        else usage.verificationCalls + 1 }

/-- `ReportRepository.save`. -/
def saveReport (workerTaskId : TaskId) (writer : Option TokenUsage)
    (completedWithLimitations : Bool) (now : Nat) (run : ResearchRunRow) :
    Except Refusal RunWrite :=
  if run.HasWritingLease workerTaskId then .ok
    { run :=
        { run with
          usageSnapshot :=
            saveReportUsage run.budgetSnapshot run.usageSnapshot writer
          status :=
            if completedWithLimitations then .completedWithLimitations
            else .completed
          phase := .terminal
          terminationReason := some
            (if completedWithLimitations then "completed_with_limitations"
            else "quality_met")
          leaseOwner := none
          leaseUntil := none
          workerTaskId := none
          finishedAt := some now
          updatedAt := now
          stateVersion := run.stateVersion + 1 } }
  else .error .writingLeaseLost

/-- `ReportRepository.fail_no_evidence`. -/
def failNoEvidence (workerTaskId : TaskId) (now : Nat)
    (run : ResearchRunRow) : Except Refusal RunWrite :=
  if run.HasWritingLease workerTaskId then .ok
    { run :=
        { run with
          status := .failed
          phase := .terminal
          terminationReason := some "REPORT_NO_ACCEPTED_EVIDENCE"
          leaseOwner := none
          leaseUntil := none
          workerTaskId := none
          finishedAt := some now
          updatedAt := now
          stateVersion := run.stateVersion + 1 } }
  else .error .writingLeaseLost

-- ====================================================== all operations

/-- The operations a worker calls under its task id. -/
inductive WorkerOp
  | renewExecutionLease (leaseSeconds : Nat)
  | saveGeneratedPlan (usage : TokenUsage)
      (questionTokenBudgets : List (String × Nat))
  | saveGapResolutionPlan
  | saveReplannedQuestions (questionTokenBudgets : List (String × Nat))
  | interruptForPendingPlanner
  | recordModelRetry
  | deferRetryableModelError (errorCode : String)
      (detailCode : Option String)
  | deferRetryableSearchError (errorCode : String)
      (detailCode : Option String)
  | failExecution (errorCode : String)
  | reservePageSlots (requested : Nat) (freshSearch : Bool)
  | recordPageFetched (reused : Bool) (latencyMs : Nat)
  | recordPageFailure (latencyMs : Nat)
  | releasePageSlots (count : Nat)
  | reserveExtractionSlot
  | releaseExtractionSlot
  | recordPage (usage : TokenUsage) (cacheHit : Bool)
  | recordExtractionFailure (usage : Option TokenUsage)
  | enterWriting (reason : String)
  | requestReplan
  | handOutTarget
  | finishIteration (outcome : AttemptOutcome) (stopReason : Option String)
  | saveReport (writer : Option TokenUsage)
      (completedWithLimitations : Bool)
  | failNoEvidence

/-- The operations on one run's row. -/
inductive RunOp
  | cancel
  | pause
  | resume
  | acquireForExecution (workerTaskId : TaskId) (leaseSeconds : Nat)
  | reconcileExpiredLease
  | worker (workerTaskId : TaskId) (op : WorkerOp)

/-- What a worker's operation writes. -/
def WorkerOp.write (now : Nat) (workerTaskId : TaskId)
    (run : ResearchRunRow) : WorkerOp → Except Refusal RunWrite
  | .renewExecutionLease leaseSeconds =>
      Run.renewExecutionLease workerTaskId leaseSeconds now run
  | .saveGeneratedPlan usage budgets =>
      Run.saveGeneratedPlan workerTaskId usage budgets now run
  | .saveGapResolutionPlan => Run.saveGapResolutionPlan workerTaskId now run
  | .saveReplannedQuestions budgets =>
      Run.saveReplannedQuestions workerTaskId budgets now run
  | .interruptForPendingPlanner =>
      Run.interruptForPendingPlanner workerTaskId now run
  | .recordModelRetry => Run.recordModelRetry workerTaskId now run
  | .deferRetryableModelError errorCode detailCode =>
      Run.deferRetryableModelError workerTaskId errorCode detailCode now run
  | .deferRetryableSearchError errorCode detailCode =>
      Run.deferRetryableSearchError workerTaskId errorCode detailCode now run
  | .failExecution errorCode =>
      Run.failExecution workerTaskId errorCode now run
  | .reservePageSlots requested freshSearch =>
      writeUsage workerTaskId
        (Run.reservePageSlots run.budgetSnapshot · workerTaskId requested
          freshSearch) run
  | .recordPageFetched reused latencyMs =>
      writeUsage workerTaskId
        (Run.recordPageFetched · workerTaskId reused latencyMs) run
  | .recordPageFailure latencyMs =>
      writeUsage workerTaskId
        (Run.recordPageFailure · workerTaskId latencyMs) run
  | .releasePageSlots count =>
      if count = 0 then .error .unchanged
      else
        writeUsage workerTaskId
          (Run.releasePageSlots · workerTaskId count) run
  | .reserveExtractionSlot =>
      if run.OwnedBy workerTaskId ∧ ¬ canReserveExtractionSlot now run then
        .error .unchanged
      else writeUsage workerTaskId Run.reserveExtractionSlot run
  | .releaseExtractionSlot =>
      writeUsage workerTaskId Run.releaseExtractionSlot run
  | .recordPage usage cacheHit =>
      writeUsage workerTaskId (Run.recordPage · usage cacheHit) run
  | .recordExtractionFailure usage =>
      writeUsage workerTaskId (Run.recordExtractionFailure · usage) run
  | .enterWriting reason => Run.enterWriting workerTaskId reason now run
  | .requestReplan => Run.requestReplan workerTaskId run
  | .handOutTarget =>
      writeUsage workerTaskId
        (fun usage =>
          { usage with schedulerActions := usage.schedulerActions + 1 }) run
  | .finishIteration outcome stopReason =>
      Run.finishIteration workerTaskId outcome stopReason now run
  | .saveReport writer completedWithLimitations =>
      Run.saveReport workerTaskId writer completedWithLimitations now run
  | .failNoEvidence => Run.failNoEvidence workerTaskId now run

/-- What an operation writes on a run's row at a given time. -/
def RunOp.write (now : Nat) (run : ResearchRunRow) :
    RunOp → Except Refusal RunWrite
  | .cancel => Run.cancel now run
  | .pause => Run.pause now run
  | .resume => Run.resume now run
  | .acquireForExecution workerTaskId leaseSeconds =>
      Run.acquireForExecution workerTaskId leaseSeconds now run
  | .reconcileExpiredLease => Run.reconcileExpiredLease now run
  | .worker workerTaskId op => op.write now workerTaskId run

/-- The run an operation leaves. -/
def RunOp.after (op : RunOp) (now : Nat) (run : ResearchRunRow) :
    ResearchRunRow :=
  match op.write now run with
  | .ok w => w.run
  | .error _ => run

end DeepResearch.Run
