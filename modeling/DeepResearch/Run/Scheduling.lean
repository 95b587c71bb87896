/-
The scheduler and the calls of the research loop (`research_tools.py`:
`prepare_target`, `_prepare_feedback_target`, `record_search_results`,
`finish_iteration`; `research_loop.py`: `run_one_iteration`;
`research_graph.py`: the research and the replan node).

# What the scheduler remembers

`SchedulingState` is what one call leaves for the next: the run's ledgers,
the items of the current plan version, the searches and their results, the
questions that were given up, the feedback requests that wait. The gates
on the run's row are those of `ResearchLoop`; an attempt is that of
`ResearchAttempt`.

# What comes from elsewhere

Coverage, repair targets and utilities are figures of the evaluator; the
schedule key and the two lanes that pass questions over are computed from
them, and the query texts from the question and what it lacks. They are
inputs of a call (`SchedulingView`, `IterationFacts`), and so are what the
attempt meets and the gaps a replan is given.

The texts of queries are normalised, so that equal texts stand for equal
hashes, and so are urls. Legacy entries of
`question_budget_exhausted_by_question`, which a replan may clear, are left
out.
-/
import Mathlib.Data.List.MinMax
import Mathlib.Data.List.Sort
import DeepResearch.Run.ResearchAttempt

namespace DeepResearch.Run

-- ============================================================= the plan

/-- The status of a plan item. -/
inductive PlanItemStatus
  | pending
  | active
  | blocked
  | answeredInPart
  | technicalRetry
  | technicalDegraded
  | researched
  deriving DecidableEq, Repr

def PlanItemStatus.text : PlanItemStatus → String
  | .pending => "pending"
  | .active => "active"
  | .blocked => "blocked"
  | .answeredInPart => "partial"
  | .technicalRetry => "technical_retry"
  | .technicalDegraded => "technical_degraded"
  | .researched => "researched"

/-- The statuses `prepare_target` selects candidates by. -/
def PlanItemStatus.isCandidate : PlanItemStatus → Bool
  | .pending | .active | .blocked | .answeredInPart | .technicalRetry => true
  | .technicalDegraded | .researched => false

/-- The statuses `remaining` counts. -/
def PlanItemStatus.remains : PlanItemStatus → Bool
  | .pending | .active | .technicalRetry => true
  | _ => false

/-- A plan item of the current version; `gapAttempts` are the resolution
attempts of its row of `research_gaps`, once there is one. -/
structure ScheduledItem where
  questionId : String
  priority : Nat := 2
  status : PlanItemStatus := .pending
  gapAttempts : Option Nat := none
  deriving DecidableEq, Repr

/-- The item after an evaluation; a failure of the search service is no
attempt. -/
def ScheduledItem.settled (outcome : AttemptOutcome)
    (status : PlanItemStatus) (item : ScheduledItem) : ScheduledItem :=
  { item with
    status
    gapAttempts :=
      if outcome = .providerError then item.gapAttempts
      else item.gapAttempts.map (· + 1) }

/-- A pending request of the closure feedback. -/
structure FeedbackRequest where
  questionId : String
  query : String
  deriving DecidableEq, Repr

/-- A row of `search_queries`; all of them have succeeded. -/
structure SearchQueryRow where
  questionId : String
  query : String
  deriving DecidableEq, Repr

/-- A row of `search_results`, with its query. -/
structure SearchResultRow where
  search : SearchQueryRow
  rank : Nat
  url : String
  deriving DecidableEq, Repr

-- ================================================================ the state

/-- What the scheduler finds when it is called. Queries are kept newest
first, the results of a query by rank; `closedUrls` are those that were
read or rejected, `succeededCalls` the tool calls in status
`succeeded`. -/
structure SchedulingState where
  ledger : TokenLedger
  items : List ScheduledItem := []
  queries : List SearchQueryRow := []
  results : List SearchResultRow := []
  closedUrls : List String := []
  succeededCalls : List SearchQueryRow := []
  questionBudgetExhausted : List String := []
  queryStrategyExhausted : List String := []
  sourceSpaceExhausted : List String := []
  frozenQuestions : List String := []
  technicalFailures : List String := []
  replanRequested : Bool := false
  feedback : List FeedbackRequest := []
  feedbackExecutionCount : Nat := 0

/-- What `prepare_target` computes from other tables. -/
structure SchedulingView where
  now : Nat
  covered : List String := []
  coveredInPart : List String := []
  passedOver : List String := []
  scheduleKey : String → Nat := fun _ => 0
  familyQueries : String → List String := fun _ => []
  reusablePages : String → List String := fun _ => []
  crossQuestionSearchCache : Bool := true
  qualityMet : Bool := false
  unresolvedGapCount : Nat := 0

/-- `ResearchTarget`, less what only the texts of events read; `toolCall`
is what the tool call of the target is known by. -/
structure ScheduledTarget where
  questionId : String
  query : String
  toolCall : SearchQueryRow
  priority : Nat
  search : ResearchTarget := {}
  reusableResults : List String := []
  reusablePages : List String := []
  deriving DecidableEq, Repr

abbrev SchedulingState.run (s : SchedulingState) : ResearchRunRow :=
  s.ledger.run

/-- An entry is added to a mapping or a list of questions once. -/
def addQuestion (questionId : String) (questions : List String) :
    List String :=
  if questionId ∈ questions then questions else questionId :: questions

namespace SchedulingState

variable (workerTaskId : TaskId)

def withRun (run : ResearchRunRow) (s : SchedulingState) :
    SchedulingState :=
  { s with ledger := { s.ledger with run } }

def updateItem (questionId : String)
    (update : ScheduledItem → ScheduledItem) (s : SchedulingState) :
    SchedulingState :=
  { s with
    items := s.items.map fun item =>
      if item.questionId = questionId then update item else item }

-- ========================================================== prepare_target

/-- A stale `partial` question without anything left to gain. -/
def repairStale (view : SchedulingView) (s : SchedulingState) :
    SchedulingState :=
  { s with
    items := s.items.map fun item =>
      if item.status = .answeredInPart ∧ item.questionId ∈ view.covered then
        { item with status := .researched }
      else item }

/-- `cached_question_ids`. -/
def cachedQuestionIds (s : SchedulingState) : List String :=
  s.results.map (·.search.questionId)

/-- The candidate competes for the selection. -/
def isEligible (view : SchedulingView) (searchBudgetExhausted : Bool)
    (s : SchedulingState) (item : ScheduledItem) : Bool :=
  item.status.isCandidate
    && item.questionId ∉ s.questionBudgetExhausted
    && item.questionId ∉ s.queryStrategyExhausted
    && item.questionId ∉ s.frozenQuestions
    && (!searchBudgetExhausted || item.questionId ∈ s.cachedQuestionIds)
    && item.questionId ∉ view.passedOver

/-- `selected_entry`. -/
def selectedEntry (view : SchedulingView) (searchBudgetExhausted : Bool)
    (s : SchedulingState) : Option ScheduledItem :=
  (s.items.filter (s.isEligible view searchBudgetExhausted)).argmin
    (view.scheduleKey ·.questionId)

/-- The selected question is activated, and its gap opened. -/
def activate (questionId : String) (s : SchedulingState) :
    SchedulingState :=
  s.updateItem questionId fun item =>
    { item with
      status := .active
      gapAttempts := some (item.gapAttempts.getD
        (s.queries.countP (·.questionId = questionId))) }

/-- The first family whose query has not succeeded for the question. -/
def nextQuery (view : SchedulingView) (questionId : String)
    (s : SchedulingState) : Option String :=
  (view.familyQueries questionId).find? fun query =>
    query ≠ "" && ⟨questionId, query⟩ ∉ s.queries

/-- The question is given up until a replan targets it. -/
def giveUp (questionId : String) (s : SchedulingState) : SchedulingState :=
  { s with
    queryStrategyExhausted :=
      addQuestion questionId s.queryStrategyExhausted
    sourceSpaceExhausted := addQuestion questionId s.sourceSpaceExhausted }

def freeze (questionId : String) (s : SchedulingState) : SchedulingState :=
  { s with frozenQuestions := addQuestion questionId s.frozenQuestions }

def countFailure (questionId : String) (s : SchedulingState) :
    SchedulingState :=
  { s with technicalFailures := questionId :: s.technicalFailures }

/-- No query is left for the selected question. -/
def exhaustStrategy (view : SchedulingView) (questionId : String)
    (s : SchedulingState) : SchedulingState :=
  (s.giveUp questionId).updateItem questionId fun item =>
    { item with
      status :=
        if questionId ∈ view.coveredInPart then .answeredInPart
        else .blocked }

/-- `reusable_rows`: the results of the question, those of its newest
query first. -/
def reusableRows (questionId : String) (s : SchedulingState) :
    List SearchResultRow :=
  ((s.queries.filter (·.questionId = questionId)).flatMap fun search =>
    s.results.filter (·.search = search)).take 20

/-- `cross_question_rows`: the results other questions found for the same
query. -/
def crossQuestionRows (view : SchedulingView) (search : SearchQueryRow)
    (s : SchedulingState) : List SearchResultRow :=
  if view.crossQuestionSearchCache then
    let rows := s.results.filter fun row =>
      row.search.questionId ≠ search.questionId
        && row.search.query = search.query
    (rows.insertionSort (·.rank ≤ ·.rank)).take 20
  else []

/-- `reusable_results`: cached results nobody has read or rejected. -/
def reusableUrls (view : SchedulingView) (search : SearchQueryRow)
    (s : SchedulingState) : List String :=
  ((s.reusableRows search.questionId
    ++ s.crossQuestionRows view search).map (·.url)).filter
    (· ∉ s.closedUrls)

/-- The target for a query of the selected question. -/
def scheduledTarget (view : SchedulingView) (searchBudgetExhausted : Bool)
    (item : ScheduledItem) (query : String) (s : SchedulingState) :
    ScheduledTarget :=
  let search : SearchQueryRow := ⟨item.questionId, query⟩
  let reusableResults := s.reusableUrls view search
  let reusablePages := view.reusablePages item.questionId
  { questionId := item.questionId
    query
    toolCall := search
    priority := item.priority
    search :=
      { searchBudgetExhausted
        queryAlreadyExecuted :=
          search ∈ s.succeededCalls
            || !(s.crossQuestionRows view search).isEmpty
        cachedCandidates := !reusableResults.isEmpty || !reusablePages.isEmpty
        gapAttemptIndex := item.gapAttempts.getD
          (s.queries.countP (·.questionId = item.questionId)) }
    reusableResults
    reusablePages }

/-- `_prepare_feedback_target`, on the first request that waits: the
target, and the requests that are left. -/
def pendingFeedback (s : SchedulingState) :
    Option (ScheduledTarget × List FeedbackRequest) :=
  match s.feedback with
  | [] => none
  | request :: rest =>
      match s.items.find? (·.questionId = request.questionId) with
      | none => none
      | some item =>
          if request.questionId = "" ∨ request.query = "" then none
          else some
            ({ questionId := request.questionId
               query := request.query
               toolCall := ⟨request.questionId, request.query⟩
               priority := item.priority }, rest)

/-- `_enter_writing`. -/
def enterWriting (reason : String) (now : Nat) (s : SchedulingState) :
    Except Refusal (SchedulingState × Option ScheduledTarget) :=
  (fun w => (s.withRun w.run, none))
    <$> Run.enterWriting workerTaskId reason now s.run

/-- `prepare_target`, for a selected question. -/
def prepareQuestion (view : SchedulingView) (searchBudgetExhausted : Bool)
    (searchStopReason : String) (item : ScheduledItem)
    (s : SchedulingState) :
    Except Refusal (SchedulingState × Option ScheduledTarget) :=
  let active := s.activate item.questionId
  match s.nextQuery view item.questionId with
  | none => .ok (active.exhaustStrategy view item.questionId, none)
  | some query =>
      let search : SearchQueryRow := ⟨item.questionId, query⟩
      let target := s.scheduledTarget view searchBudgetExhausted item query
      -- The tool call of the query is running again.
      let called :=
        { active with
          succeededCalls := active.succeededCalls.filter (· ≠ search) }
      if searchBudgetExhausted && !target.search.cachedCandidates then
        called.enterWriting workerTaskId searchStopReason view.now
      else
        (fun w => (called.withRun w.run, some target))
          <$> WorkerOp.handOutTarget.write view.now workerTaskId s.run

/-- `prepare_target`. -/
def prepareTarget (view : SchedulingView) (s : SchedulingState) :
    Except Refusal (SchedulingState × Option ScheduledTarget) :=
  let budgetStopReason := budgetExhaustionReason view.now s.run
  let searchBudgetExhausted :=
    searchAcquisitionBudgetExhausted budgetStopReason
  let searchStopReason :=
    (budgetStopReason.getD .logicalQuery).text
  if s.run.OwnedBy workerTaskId then
    match budgetStopReason, searchBudgetExhausted with
    | some reason, false => s.enterWriting workerTaskId reason.text view.now
    | _, _ =>
        match s.pendingFeedback with
        | some (target, feedback) => .ok ({ s with feedback }, some target)
        | none =>
            let s := s.repairStale view
            match s.selectedEntry view searchBudgetExhausted with
            | none =>
                if !searchBudgetExhausted && !view.qualityMet
                    && 0 < view.unresolvedGapCount
                    && s.run.usageSnapshot.replans < maxReplans then
                  (fun w =>
                      ({ s.withRun w.run with replanRequested := true },
                        none))
                    <$> requestReplan workerTaskId s.run
                else
                  s.enterWriting workerTaskId
                    (if searchBudgetExhausted then searchStopReason
                      else if view.qualityMet then "quality_met"
                      else "sources_exhausted") view.now
            | some item =>
                s.prepareQuestion workerTaskId view searchBudgetExhausted
                  searchStopReason item
  else .error .leaseLost

-- ============================================================== an attempt

/-- The rows of some urls, ranked from a number on. -/
def rankedRows (search : SearchQueryRow) (rank : Nat)
    (urls : List String) : List SearchResultRow :=
  (urls.zipIdx rank).map fun (url, rank) => ⟨search, rank, url⟩

/-- `record_search_results`: the search under the text that was run, and
the tool call. A reuse records the cached results once; a fresh search adds
what is new behind what the query has found before. -/
def recordSearchRows (target : ScheduledTarget) (found : List String)
    (s : SchedulingState) : SchedulingState :=
  let search : SearchQueryRow := ⟨target.questionId, target.query⟩
  let existing := s.results.filter (·.search = search)
  let results :=
    if target.search.reuseOnly then
      if search ∈ s.queries then []
      else
        (rankedRows search 1 target.reusableResults).eraseDupsBy
          (·.url == ·.url)
    else
      rankedRows search ((existing.map (·.rank)).foldl max 0 + 1)
        (found.eraseDups.filter (· ∉ existing.map (·.url)))
  { s with
    queries := if search ∈ s.queries then s.queries else search :: s.queries
    results := s.results ++ results
    succeededCalls := target.toolCall :: s.succeededCalls }

/-- `feedback_execution_allowed` is asked for each request; two are
allowed in a run. -/
def startFeedback (requests : List FeedbackRequest)
    (s : SchedulingState) : SchedulingState :=
  let allowed := requests.take (2 - s.feedbackExecutionCount)
  { s with
    feedback := s.feedback ++ allowed
    feedbackExecutionCount := s.feedbackExecutionCount + allowed.length }

-- ======================================================== finish_iteration

/-- `_query_strategy_limit`. -/
def queryStrategyLimit : Nat := 4

end SchedulingState

/-- What `finish_iteration` computes of the question from other
tables. -/
structure IterationFacts where
  requirementsMet : Bool := false
  acceptedForQuestion : Nat := 0
  executedFamilies : Nat := 0
  lowUtility : Bool := false
  qualityRepairTargets : List String := []
  deriving DecidableEq, Repr

namespace SchedulingState

/-- `query_strategy_exhausted`. -/
def strategyExhaustedNow (outcome : AttemptOutcome)
    (facts : IterationFacts) : Bool :=
  !(outcome == .providerError) && !facts.requirementsMet
    && queryStrategyLimit ≤ facts.executedFamilies

/-- `retry_current`, on the failures counted already. -/
def retryCurrent (questionId : String) (outcome : AttemptOutcome)
    (facts : IterationFacts) (s : SchedulingState) : Bool :=
  if outcome = .providerError then
    s.technicalFailures.count questionId < 3
  else !facts.requirementsMet && !strategyExhaustedNow outcome facts

/-- The status `finish_iteration` gives the item of the question. -/
def finishedStatus (questionId : String) (outcome : AttemptOutcome)
    (facts : IterationFacts) (s : SchedulingState) : PlanItemStatus :=
  let retry := s.retryCurrent questionId outcome facts
  if outcome = .providerError then
    if retry then .technicalRetry else .technicalDegraded
  else if retry then .active
  else if questionId ∈ facts.qualityRepairTargets then .answeredInPart
  else if facts.requirementsMet then .researched
  else if 0 < facts.acceptedForQuestion then .answeredInPart
  else .blocked

/-- Questions whose evidence may still improve are reopened. -/
def reopenForQuality (qualityRepairTargets : List String)
    (s : SchedulingState) : SchedulingState :=
  { s with
    items := s.items.map fun item =>
      if item.questionId ∈ qualityRepairTargets
          ∧ item.status = .researched then
        { item with status := .answeredInPart }
      else item }

/-- The question is frozen: its last two families gained nothing. -/
def isFrozen (target : ScheduledTarget) (facts : IterationFacts) : Bool :=
  1 < target.priority && facts.lowUtility
    && queryStrategyLimit ≤ facts.executedFamilies

/-- What `finish_iteration` writes beside the run's row. -/
def settleQuestion (target : ScheduledTarget) (outcome : AttemptOutcome)
    (facts : IterationFacts) (s : SchedulingState) : SchedulingState :=
  let questionId := target.questionId
  let s := if outcome = .providerError then s.countFailure questionId else s
  let s :=
    if strategyExhaustedNow outcome facts then s.giveUp questionId else s
  let s := if isFrozen target facts then s.freeze questionId else s
  let status := s.finishedStatus questionId outcome facts
  reopenForQuality facts.qualityRepairTargets
    (s.updateItem questionId (·.settled outcome status))

/-- The figures of the evaluation that are read off the plan. -/
def evaluationView (questionId : String) (outcome : AttemptOutcome)
    (facts : IterationFacts) (view : EvaluationView)
    (s : SchedulingState) : EvaluationView :=
  let allFirstAttempted := s.items.all (·.status ≠ .pending)
  { view with
    retryCurrent := s.retryCurrent questionId outcome facts
    remaining := s.items.countP (·.status.remains)
    allFirstAttempted
    sourceSpaceExhausted :=
      allFirstAttempted && s.items.all fun item =>
        item.status = .researched
          || item.questionId ∈ s.sourceSpaceExhausted }

/-- The question is out of tokens. -/
def exhaustQuestionBudget (questionId : String) (facts : IterationFacts)
    (s : SchedulingState) : SchedulingState :=
  { s.updateItem questionId fun item =>
      { item with
        status :=
          if 0 < facts.acceptedForQuestion then .answeredInPart
          else .blocked } with
    questionBudgetExhausted :=
      addQuestion questionId s.questionBudgetExhausted }

/-- `finish_iteration`. A question that is out of tokens is remembered;
one that yields its turn leaves no trace. -/
def finishIteration (workerTaskId : TaskId) (target : ScheduledTarget)
    (outcome : AttemptOutcome) (facts : IterationFacts)
    (view : EvaluationView) (now : Nat) (s : SchedulingState) :
    Except Refusal (SchedulingState × IterationEvaluation) :=
  let s :=
    match outcome with
    | .questionBudgetExhausted =>
        s.exhaustQuestionBudget target.questionId facts
    | .yieldQuestion => s
    | _ => s.settleQuestion target outcome facts
  (fun result => (s.withRun result.1, result.2))
    <$> evaluateIteration workerTaskId outcome
      (s.evaluationView target.questionId outcome facts view) now s.run

-- ============================================================= replanning

/-- `save_gap_resolution_plan`, for the gaps of the first three questions:
a new version of the same items, the targeted ones pending again and
forgotten as given up. Without any of them in the plan it is refused. -/
def saveGapResolutionPlan (workerTaskId : TaskId) (gaps : List String)
    (now : Nat) (s : SchedulingState) : Option SchedulingState :=
  let targets := gaps.take 3
  if s.items.any (·.questionId ∈ targets) then
    match Run.saveGapResolutionPlan workerTaskId now s.run with
    | .error _ => none
    | .ok w =>
        some
          { s.withRun w.run with
            items := s.items.map fun item =>
              { item with
                status :=
                  if item.questionId ∈ targets then .pending
                  else item.status
                gapAttempts := none }
            queryStrategyExhausted :=
              s.queryStrategyExhausted.filter (· ∉ targets)
            frozenQuestions := s.frozenQuestions.filter (· ∉ targets)
            replanRequested := false }
  else none

end SchedulingState

-- ======================================================= run_one_iteration

/-- What one call meets: what the scheduler and the evaluator read from
other tables, the service's settings, what the attempt's calls return,
and the gaps a replan is given. `enrich` is the enrichment of the query,
`found` what a fresh search finds, `closedUrls` the pages the attempt saves
or rejects; the borrow gate of the tokens may freeze the question. `raises`
is an exception of any other call of the turn. -/
structure IterationEnv where
  scheduling : SchedulingView
  enrich : String → String := id
  firstPass : Bool := false
  cheapTriageEnabled : Bool := false
  parallelReadsEnabled : Bool := false
  minimumCall : Int := 0
  actions : List AttemptAction := []
  found : List String := []
  freezesQuestion : Bool := false
  closedUrls : List String := []
  feedback : List FeedbackRequest := []
  facts : IterationFacts := {}
  evaluation : EvaluationView := {}
  finishedAt : Nat := 0
  gaps : List String := []
  replannedAt : Nat := 0
  raises : Bool := false

/-- The decision of a call. -/
inductive LoopDecision
  | evaluated (decision : Decision)
  | replan
  | schedulerAdvanced
  | noPendingQuestion
  deriving DecidableEq, Repr

def LoopDecision.text : LoopDecision → String
  | .evaluated decision => decision.text
  | .replan => "replan"
  | .schedulerAdvanced => "scheduler_advanced"
  | .noPendingQuestion => "no_pending_question"

/-- `ResearchIterationResult`, less its figures. -/
structure ResearchIterationResult where
  continueResearch : Bool
  decision : LoopDecision
  deriving DecidableEq, Repr

/-- What `_research_target` is given. -/
def ScheduledTarget.attemptTarget (target : ScheduledTarget)
    (env : IterationEnv) : AttemptTarget where
  questionId := target.questionId
  reusablePages := target.reusablePages
  search := target.search
  firstPass := env.firstPass
  priority := target.priority
  cheapTriageEnabled := env.cheapTriageEnabled
  parallelReadsEnabled := env.parallelReadsEnabled
  minimumCall := env.minimumCall

namespace SchedulingState

variable (workerTaskId : TaskId)

/-- What an attempt leaves beside the run's ledgers. -/
def attempted (target : ScheduledTarget) (attempt : AttemptState)
    (env : IterationEnv) (s : SchedulingState) : SchedulingState :=
  let s := { s with ledger := attempt.ledger }
  let s :=
    if attempt.searched then s.recordSearchRows target env.found else s
  let s := if env.freezesQuestion then s.freeze target.questionId else s
  { s.startFeedback env.feedback with
    closedUrls := env.closedUrls ++ s.closedUrls }

/-- `run_one_iteration`, unless a call raises. An attempt that is not at
its end does not return either. -/
def runOneIteration (env : IterationEnv) (s : SchedulingState) :
    Option (SchedulingState × ResearchIterationResult) :=
  match s.prepareTarget workerTaskId env.scheduling with
  | .error _ => none
  | .ok (s, none) =>
      let continueResearch := s.run.phase == .researching
      some (s,
        { continueResearch
          decision :=
            if s.replanRequested then .replan
            else if continueResearch then .schedulerAdvanced
            else .noPendingQuestion })
  | .ok (s, some target) =>
      let enriched := { target with query := env.enrich target.query }
      let attempt := (attemptSystem workerTaskId
        (enriched.attemptTarget env)).exec { ledger := s.ledger } env.actions
      match attempt.call with
      | .exited (.returned outcome) =>
          match (s.attempted enriched attempt env).finishIteration
              workerTaskId enriched outcome env.facts env.evaluation
              env.finishedAt with
          | .error _ => none
          | .ok (s, evaluation) =>
              some (s,
                { continueResearch := evaluation.continueResearch
                  decision := .evaluated evaluation.decision })
      | _ => none

end SchedulingState

-- ================================================================ the loop

/-- How the loop ends: with a result that does not continue, or with an
exception. -/
inductive LoopEnd
  | stopped
  | raised
  deriving DecidableEq, Repr

structure ResearchLoop where
  state : SchedulingState
  ended : Option LoopEnd := none

/-- The replan node, where the result asks for it. -/
def ResearchLoop.replan (workerTaskId : TaskId) (env : IterationEnv)
    (s : SchedulingState) : ResearchLoop :=
  match s.saveGapResolutionPlan workerTaskId env.gaps env.replannedAt with
  | none => { state := s, ended := some .raised }
  | some s => { state := s }

/-- One turn of the graph: the research node and what follows it. A result
that does not continue is the end of research. -/
def ResearchLoop.step (workerTaskId : TaskId) (l : ResearchLoop)
    (env : IterationEnv) : ResearchLoop :=
  match l.ended with
  | some _ => l
  | none =>
      match l.state.runOneIteration workerTaskId env with
      | none => { l with ended := some .raised }
      | some (s, result) =>
          if env.raises then { state := s, ended := some .raised }
          else if result.continueResearch = false then
            { state := s, ended := some .stopped }
          else if result.decision.text = "replan" then
            ResearchLoop.replan workerTaskId env s
          else { state := s }

/-- The loop, from any state. -/
def researchLoopSystem (workerTaskId : TaskId) :
    Transition.System ResearchLoop IterationEnv where
  init l := l.ended = none
  step := ResearchLoop.step workerTaskId

end DeepResearch.Run
