/-
The gates of the research loop (`research_tools.py`:
`_budget_exhaustion_reason`, `prepare_target`, `finish_iteration`; the
iteration check of `state.py`: `ResearchState`).

# One reason out of many

`_budget_exhaustion_reason` answers with the first exhausted limit in a
fixed order. The two callers treat four of the reasons, the search
acquisition ones, as "no new searches": cached work may go on. Every
other reason ends research.

# What comes from other tables

Which question the scheduler selects, whether it has cached work, and
the quality figures of an evaluation are computed from plan items,
evidence and search history. They are inputs here (`SchedulerView`,
`EvaluationView`); the decisions taken on them are the source's.
-/
import DeepResearch.Lib.Transition
import DeepResearch.Run.BudgetShares
import DeepResearch.Run.Operations

namespace DeepResearch.Run

-- ============================================================ the limits

/-- The reasons of `_budget_exhaustion_reason`. -/
inductive BudgetReason
  | providerRequest
  | logicalQuery
  | search
  | fetchedPage
  | page
  | pageFetchAttempt
  | extractedPage
  | extractionCall
  | verificationCall
  | action
  | token
  | iteration
  | deadline
  deriving DecidableEq, Repr

def BudgetReason.text : BudgetReason → String
  | .providerRequest => "provider_request_budget_exhausted"
  | .logicalQuery => "logical_query_budget_exhausted"
  | .search => "search_budget_exhausted"
  | .fetchedPage => "fetched_page_budget_exhausted"
  | .page => "page_budget_exhausted"
  | .pageFetchAttempt => "page_fetch_attempt_budget_exhausted"
  | .extractedPage => "extracted_page_budget_exhausted"
  | .extractionCall => "extraction_call_budget_exhausted"
  | .verificationCall => "verification_call_budget_exhausted"
  | .action => "action_budget_exhausted"
  | .token => "token_budget_exhausted"
  | .iteration => "iteration_budget_exhausted"
  | .deadline => "deadline_exhausted"

/-- `_SEARCH_ACQUISITION_BUDGET_REASONS`. -/
def BudgetReason.isSearchAcquisition : BudgetReason → Bool
  | .search | .logicalQuery | .providerRequest | .pageFetchAttempt => true
  | _ => false

/-- One row of `checks`. -/
structure BudgetCheck where
  reason : BudgetReason
  used : Nat
  maximum : Nat
  deriving DecidableEq, Repr

/-- A limit of zero is no limit. -/
def BudgetCheck.isExhausted (check : BudgetCheck) : Bool :=
  0 < check.maximum && check.maximum ≤ check.used

/-- `checks`, in the order of the source. Snapshots without the split
counters keep the older names of the search and page reasons. -/
def budgetChecks (run : ResearchRunRow) : List BudgetCheck :=
  let budget := run.budgetSnapshot
  let usage := run.usageSnapshot
  let hasSplitSearchBudget :=
    budget.maxLogicalQueries.isSome || usage.logicalQueries.isSome
  let hasSplitPageBudget :=
    budget.maxPagesFetched.isSome || usage.pagesFetched.isSome
  [{ reason := .providerRequest
     used := usage.searchProviderRequests
     maximum := budget.maxProviderRequests.getD 0 },
    { reason := if hasSplitSearchBudget then .logicalQuery else .search
      used := (usage.logicalQueries.or usage.searches).getD 0
      maximum := (budget.maxLogicalQueries.or budget.maxSearches).getD 0 },
    { reason := if hasSplitPageBudget then .fetchedPage else .page
      used := (usage.pagesFetched.or usage.pages).getD 0
      maximum := (budget.maxPagesFetched.or budget.maxPages).getD 0 },
    { reason := .pageFetchAttempt
      used := (usage.pageFetchAttempts.or usage.pagesFetched).getD 0
      maximum :=
        (budget.maxPageFetchAttempts.or
          (budget.maxPagesFetched.or budget.maxPages)).getD 0 },
    { reason := if hasSplitPageBudget then .extractedPage else .page
      used := (usage.pagesExtracted.or usage.pages).getD 0
      maximum := (budget.maxPagesExtracted.or budget.maxPages).getD 0 },
    { reason := .extractionCall
      used := usage.extractionCalls.getD 0
      maximum := budget.maxExtractionCalls.getD 0 },
    { reason := .verificationCall
      used := usage.verificationCalls
      maximum := budget.maxVerificationCalls.getD 0 },
    { reason := .action
      used := usage.schedulerActions
      maximum := budget.maxSchedulerActions.getD 0 },
    { reason := .token
      used := modelTokens usage
      maximum := budget.maxTokens.getD 0 },
    { reason := .iteration
      used := usage.iterations
      maximum := budget.maxIterations.getD 0 }]

/-- The deadline has passed. -/
def deadlinePassed (now : Nat) (run : ResearchRunRow) : Bool :=
  (deadlineAt run).any (decide <| · ≤ now)

/-- `_budget_exhaustion_reason`. -/
def budgetExhaustionReason (now : Nat) (run : ResearchRunRow) :
    Option BudgetReason :=
  if run.usageSnapshot.modelBudgetGuarded then some .token
  else
    match (budgetChecks run).find? (·.isExhausted) with
    | some check => some check.reason
    | none => if deadlinePassed now run then some .deadline else none

/-- `_search_acquisition_budget_exhausted`. -/
def searchAcquisitionBudgetExhausted (reason : Option BudgetReason) :
    Bool :=
  reason.any (·.isSearchAcquisition)

-- ========================================================= prepare_target

/-- `_MAX_REPLANS`. -/
def maxReplans : Nat := 12

/-- The question the scheduler selected. `target` is what is handed out
for it; the strategy is exhausted when every query was already run. -/
structure Selection (τ : Type) where
  target : τ
  strategyExhausted : Bool
  hasReusable : Bool

/-- What `prepare_target` reads from other tables. -/
structure SchedulerView (τ : Type) where
  feedbackTarget : Option τ := none
  selected : Option (Selection τ) := none
  qualityMet : Bool := false
  unresolvedGapCount : Nat := 0

variable {τ : Type}

/-- An exit of `prepare_target` that hands nothing out. -/
def withoutTarget (result : Except Refusal RunWrite) :
    Except Refusal (ResearchRunRow × Option τ) :=
  (fun w => (w.run, none)) <$> result

/-- `prepare_target`: the run it leaves and the target it hands out. -/
def prepareTarget (workerTaskId : TaskId) (view : SchedulerView τ)
    (now : Nat) (run : ResearchRunRow) :
    Except Refusal (ResearchRunRow × Option τ) :=
  let budgetStopReason := budgetExhaustionReason now run
  let searchBudgetExhausted :=
    searchAcquisitionBudgetExhausted budgetStopReason
  let searchStopReason :=
    (budgetStopReason.getD .logicalQuery).text
  if run.OwnedBy workerTaskId then
    match budgetStopReason, searchBudgetExhausted with
    | some reason, false =>
        withoutTarget (enterWriting workerTaskId reason.text now run)
    | _, _ =>
        match view.feedbackTarget, view.selected with
        | some target, _ => .ok (run, some target)
        | none, none =>
            if !searchBudgetExhausted && !view.qualityMet
                && 0 < view.unresolvedGapCount
                && run.usageSnapshot.replans < maxReplans then
              withoutTarget (requestReplan workerTaskId run)
            else
              withoutTarget
                (enterWriting workerTaskId
                  (if searchBudgetExhausted then searchStopReason
                    else if view.qualityMet then "quality_met"
                    else "sources_exhausted") now run)
        | none, some selection =>
            if selection.strategyExhausted then .ok (run, none)
            else if searchBudgetExhausted && !selection.hasReusable then
              withoutTarget
                (enterWriting workerTaskId searchStopReason now run)
            else
              (fun w => (w.run, some selection.target)) <$>
                WorkerOp.handOutTarget.write now workerTaskId run
  else .error .leaseLost

-- ======================================================= finish_iteration

/-- What `finish_iteration` computes from other tables. -/
structure EvaluationView where
  qualityMet : Bool := false
  informationStagnated : Bool := false
  qualityEnrichmentNeeded : Bool := false
  retryCurrent : Bool := false
  allFirstAttempted : Bool := false
  sourceSpaceExhausted : Bool := false
  remaining : Nat := 0
  unresolvedGapCount : Nat := 0
  lowInformationGainStreak : Nat := 0
  deriving DecidableEq, Repr

/-- The decisions of `finish_iteration`. -/
inductive Decision
  | stopBudget
  | readyToWrite
  | continueCached
  | replan
  | stopInformationGain
  | continueQuality
  | writeWithLimitations
  | continuePlan
  | retryTechnical
  | retryCurrent
  deriving DecidableEq, Repr

def Decision.text : Decision → String
  | .stopBudget => "stop_budget"
  | .readyToWrite => "ready_to_write"
  | .continueCached => "continue_cached"
  | .replan => "replan"
  | .stopInformationGain => "stop_information_gain"
  | .continueQuality => "continue_quality"
  | .writeWithLimitations => "write_with_limitations"
  | .continuePlan => "continue_plan"
  | .retryTechnical => "retry_technical"
  | .retryCurrent => "retry_current"

/-- `_LOW_INFORMATION_GAIN_STREAK_TO_STOP`. -/
def lowInformationGainStreakToStop : Nat := 2

/-- `int(total * 0.20)`. -/
def twentyPercent : Nat → Nat := floatShare 7205759403792794 55

/-- `_replan_reserve_reached`. -/
def replanReserveReached (run : ResearchRunRow) : Bool :=
  let maximum := run.budgetSnapshot.maxIterations.getD 0
  let used := run.usageSnapshot.iterations
  let reserve := max 2 (twentyPercent maximum)
  0 < maximum && maximum ≤ used + reserve

/-- `replan_needed`. -/
def replanNeeded (view : EvaluationView) (run : ResearchRunRow) : Bool :=
  run.usageSnapshot.replans < maxReplans && run.planVersion ≤ maxReplans
    && view.allFirstAttempted && 0 < view.unresolvedGapCount
    && (view.remaining == 0
      || lowInformationGainStreakToStop ≤ view.lowInformationGainStreak
      || replanReserveReached run)

/-- The decision of `finish_iteration` and the reason to stop, on a run
whose counters it has already written. -/
def decideIteration (outcome : AttemptOutcome) (view : EvaluationView)
    (now : Nat) (run : ResearchRunRow) : Decision × Option String :=
  let budgetStopReason := budgetExhaustionReason now run
  let searchBudgetExhausted :=
    searchAcquisitionBudgetExhausted budgetStopReason
  if outcome = .deadlineExhausted then
    (.stopBudget, some BudgetReason.deadline.text)
  else
    match budgetStopReason, searchBudgetExhausted with
    | some reason, false => (.stopBudget, some reason.text)
    | _, _ =>
        if view.qualityMet then (.readyToWrite, some "quality_met")
        else if searchBudgetExhausted then (.continueCached, none)
        else if replanNeeded view run then (.replan, none)
        else if view.informationStagnated then
          (.stopInformationGain, some "stagnation")
        else if view.qualityEnrichmentNeeded then (.continueQuality, none)
        else if view.remaining = 0 ∧ view.unresolvedGapCount = 0 then
          (.writeWithLimitations, some "sources_exhausted")
        else if view.remaining = 0 ∧ 0 < view.unresolvedGapCount
            ∧ view.sourceSpaceExhausted then
          (.writeWithLimitations, some "source_space_exhausted")
        else if view.remaining = 0 ∧ 0 < view.unresolvedGapCount then
          (.continuePlan, none)
        else if view.retryCurrent then
          (if outcome = .providerError then .retryTechnical
            else .retryCurrent, none)
        else (.continuePlan, none)

/-- The reason to stop where no hard limit is in force. -/
def openStop (searchBudgetExhausted : Bool) (view : EvaluationView)
    (run : ResearchRunRow) : Option String :=
  if view.qualityMet then some "quality_met"
  else if searchBudgetExhausted || replanNeeded view run then none
  else if view.informationStagnated then some "stagnation"
  else if view.qualityEnrichmentNeeded || view.remaining != 0 then none
  else if view.unresolvedGapCount = 0 then some "sources_exhausted"
  else if view.sourceSpaceExhausted then some "source_space_exhausted"
  else none

section

variable {outcome : AttemptOutcome} {view : EvaluationView} {now : Nat}
  {run : ResearchRunRow}

theorem decideIteration_deadline (h : outcome = .deadlineExhausted) :
    decideIteration outcome view now run
      = (.stopBudget, some BudgetReason.deadline.text) :=
  if_pos h

theorem decideIteration_hard {reason : BudgetReason}
    (hout : outcome ≠ .deadlineExhausted)
    (hreason : budgetExhaustionReason now run = some reason)
    (hhard : reason.isSearchAcquisition = false) :
    decideIteration outcome view now run
      = (.stopBudget, some reason.text) := by
  unfold decideIteration
  rw [if_neg hout, hreason]
  simp only [searchAcquisitionBudgetExhausted, Option.any_some, hhard]

theorem decideIteration_open (hout : outcome ≠ .deadlineExhausted)
    (hopen : ∀ reason, budgetExhaustionReason now run = some reason →
      reason.isSearchAcquisition = true) :
    (decideIteration outcome view now run).2
      = openStop (searchAcquisitionBudgetExhausted
          (budgetExhaustionReason now run)) view run := by
  unfold decideIteration openStop
  rw [if_neg hout]
  split
  case h_1 reason hreason hhard =>
    rw [hreason, searchAcquisitionBudgetExhausted, Option.any_some,
      hopen reason hreason] at hhard
    cases hhard
  case h_2 =>
    by_cases hquality : view.qualityMet = true
    · rw [if_pos hquality, if_pos hquality]
    rw [if_neg hquality, if_neg hquality]
    cases searchAcquisitionBudgetExhausted (budgetExhaustionReason now run)
    case true => rfl
    case false =>
      rw [if_neg (by decide), Bool.false_or]
      by_cases hreplan : replanNeeded view run = true
      · rw [if_pos hreplan, if_pos hreplan]
      rw [if_neg hreplan, if_neg hreplan]
      by_cases hstagnated : view.informationStagnated = true
      · rw [if_pos hstagnated, if_pos hstagnated]
      rw [if_neg hstagnated, if_neg hstagnated]
      by_cases henrich : view.qualityEnrichmentNeeded = true
      · rw [if_pos henrich, henrich, Bool.true_or, if_pos rfl]
      rw [if_neg henrich, Bool.eq_false_iff.mpr henrich, Bool.false_or]
      by_cases hremaining : view.remaining = 0
      · by_cases hgaps : view.unresolvedGapCount = 0
        · simp [hremaining, hgaps]
        · have hpos : 0 < view.unresolvedGapCount :=
            Nat.pos_of_ne_zero hgaps
          cases view.sourceSpaceExhausted <;>
            simp [hremaining, hgaps, hpos]
      · cases view.retryCurrent <;> simp [hremaining]

end

/-- `IterationEvaluation`, less its quality figures. -/
structure IterationEvaluation where
  continueResearch : Bool
  decision : Decision
  stopReason : Option String
  deriving DecidableEq, Repr

/-- The run after `finish_iteration` has written its counters. -/
def ResearchRunRow.counted (run : ResearchRunRow)
    (outcome : AttemptOutcome) : ResearchRunRow :=
  { run with
    usageSnapshot := finishIterationUsage outcome run.usageSnapshot }

/-- `finish_iteration`: the run it leaves and what it returns. A question
that gives up its turn is answered before any evaluation. -/
def evaluateIteration (workerTaskId : TaskId) (outcome : AttemptOutcome)
    (view : EvaluationView) (now : Nat) (run : ResearchRunRow) :
    Except Refusal (ResearchRunRow × IterationEvaluation) :=
  let (decision, stopReason) :=
    if outcome.yields then (.continuePlan, none)
    else decideIteration outcome view now (run.counted outcome)
  (fun w =>
      (w.run,
        { continueResearch := stopReason.isNone, decision, stopReason }))
    <$> finishIteration workerTaskId outcome stopReason now run

-- ================================================================ the loop

/-- The iteration check of `ResearchState.validate_state_invariants`, on
the state `synchronize` builds from the run: "iteration budget
exceeded". -/
def iterationBudgetExceeded (run : ResearchRunRow) : Bool :=
  let limit := run.budgetSnapshot.maxIterations.getD 8
  max 1 (if limit = 0 then 8 else limit) < run.usageSnapshot.iterations

/-- A write to the run that is neither of the two gates: it keeps the
iteration counter and its limit. -/
structure OtherWrite where
  update : ResearchRunRow → ResearchRunRow
  iterations : ∀ run, (update run).usageSnapshot.iterations
    = run.usageSnapshot.iterations
  maxIterations : ∀ run, (update run).budgetSnapshot.maxIterations
    = run.budgetSnapshot.maxIterations

/-- The run, and the target the execution works on. -/
structure LoopState (τ : Type) where
  run : ResearchRunRow
  inHand : Option τ := none

/-- The steps of the loop. Between the two gates an execution, and
anybody else, may write whatever is no gate; it may also be lost, with
the target it worked on, and start again. -/
inductive LoopAction (τ : Type)
  | prepareTarget (workerTaskId : TaskId) (view : SchedulerView τ)
      (now : Nat)
  | finishIteration (workerTaskId : TaskId) (outcome : AttemptOutcome)
      (view : EvaluationView) (now : Nat)
  | write (write : OtherWrite)
  | restart

/-- One step of `run_one_iteration`. An iteration is finished only for a
target that was prepared. -/
def LoopState.step (s : LoopState τ) : LoopAction τ → LoopState τ
  | .prepareTarget workerTaskId view now =>
      match Run.prepareTarget workerTaskId view now s.run with
      | .ok (run, target) => { run, inHand := target }
      | .error _ => s
  | .finishIteration workerTaskId outcome view now =>
      match s.inHand with
      | none => s
      | some _ =>
          match evaluateIteration workerTaskId outcome view now s.run with
          | .ok (run, _) => { run }
          | .error _ => s
  | .write write => { s with run := write.update s.run }
  | .restart => { s with inHand := none }

/-- The loop starts without a target, inside its iteration limit. -/
def loopSystem (τ : Type) : Transition.System (LoopState τ) (LoopAction τ)
    where
  init s := s.inHand = none ∧ ∃ maximum,
    s.run.budgetSnapshot.maxIterations = some maximum ∧ 0 < maximum
      ∧ s.run.usageSnapshot.iterations ≤ maximum
  step := LoopState.step

end DeepResearch.Run
