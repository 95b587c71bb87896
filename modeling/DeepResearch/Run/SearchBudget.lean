/-
The search budget: which targets start a fresh search, and the counters
a search is recorded in (`research_tools.py`: `prepare_target`,
`_prepare_feedback_target`, `record_search_results`,
`record_tool_failure`; `research_loop.py`: `reuse_only` of
`_research_target`; the search check of `state.py`: `ResearchState`).

# Two kinds of target

The target of a selected question carries what `prepare_target` found
out about the budget and the query. The target of a feedback request is
built without any of it: the fields stand at their defaults.

# One search for one target

`_research_target` searches at most once, unless it only reuses cached
work. A search ends in recorded results or in a recorded failure of the
provider; a deadline, a refused token budget or any other exception ends
the attempt before either is recorded.
-/
import DeepResearch.Run.ResearchLoop

namespace DeepResearch.Run

-- ================================================================ targets

/-- `ResearchTarget`, the fields `reuse_only` is computed from.
`cachedCandidates` says that it carries reusable results or pages. -/
structure ResearchTarget where
  searchBudgetExhausted : Bool := false
  queryAlreadyExecuted : Bool := false
  cachedCandidates : Bool := false
  gapAttemptIndex : Nat := 0
  deriving DecidableEq, Repr

/-- `reuse_only`: no fresh search is made. With cached candidates every
other attempt searches. -/
def ResearchTarget.reuseOnly (target : ResearchTarget) : Bool :=
  target.searchBudgetExhausted || target.queryAlreadyExecuted
    || (target.cachedCandidates && target.gapAttemptIndex % 2 == 0)

/-- The question the scheduler selected, from its queries and its cached
work. -/
structure ScheduledQuestion where
  strategyExhausted : Bool := false
  queryAlreadyExecuted : Bool := false
  cachedCandidates : Bool := false
  gapAttemptIndex : Nat := 0
  deriving DecidableEq, Repr

/-- The question as `prepare_target` treats it. -/
def ScheduledQuestion.selection (question : ScheduledQuestion)
    (searchBudgetExhausted : Bool) : Selection ResearchTarget where
  target :=
    { searchBudgetExhausted
      queryAlreadyExecuted := question.queryAlreadyExecuted
      cachedCandidates := question.cachedCandidates
      gapAttemptIndex := question.gapAttemptIndex }
  strategyExhausted := question.strategyExhausted
  hasReusable := question.cachedCandidates

/-- The target `_prepare_feedback_target` returns. -/
def feedbackTarget : ResearchTarget := {}

/-- What the scheduler finds: a pending feedback request, a question. -/
structure SearchView where
  feedbackPending : Bool := false
  selected : Option ScheduledQuestion := none
  qualityMet : Bool := false
  unresolvedGapCount : Nat := 0
  deriving DecidableEq, Repr

/-- The view of `prepare_target`, under the reason it found. -/
def SearchView.schedulerView (view : SearchView) (now : Nat)
    (run : ResearchRunRow) : SchedulerView ResearchTarget where
  feedbackTarget := if view.feedbackPending then some feedbackTarget else none
  selected := view.selected.map
    (·.selection
      (searchAcquisitionBudgetExhausted (budgetExhaustionReason now run)))
  qualityMet := view.qualityMet
  unresolvedGapCount := view.unresolvedGapCount

-- =============================================================== counters

/-- `searches` and `logical_queries` after a fresh search: a snapshot
without the second counter takes it over from the first. -/
def countSearch (usage : UsageSnapshot) : UsageSnapshot :=
  let searches := usage.searches.getD 0 + 1
  { usage with
    searches := some searches
    logicalQueries := some (usage.logicalQueries.getD (searches - 1) + 1) }

def countProviderRequests (usage : UsageSnapshot) (providerRequests : Nat) :
    UsageSnapshot :=
  { usage with
    searchProviderRequests :=
      usage.searchProviderRequests + providerRequests }

/-- The usage write of `record_search_results`. -/
def recordSearchResults (usage : UsageSnapshot) (reused : Bool)
    (providerRequests : Nat) : UsageSnapshot :=
  countProviderRequests (if reused then usage else countSearch usage)
    providerRequests

/-- The usage write of `record_tool_failure`. -/
def recordToolFailure (usage : UsageSnapshot) (providerRequests : Nat) :
    UsageSnapshot :=
  countProviderRequests (countSearch usage) providerRequests

-- ================================================================ the loop

/-- The search check of `ResearchState.validate_state_invariants`, on the
state `synchronize` builds from the run: "search budget exceeded". -/
def searchBudgetExceeded (run : ResearchRunRow) : Bool :=
  run.budgetSnapshot.maxSearches.getD 15
    < run.usageSnapshot.searches.getD 0

/-- How far the execution is with its target. -/
inductive SearchWork
  | idle
  | prepared (target : ResearchTarget)
  | searched
  deriving DecidableEq, Repr

/-- How the search of an attempt ended. -/
inductive SearchOutcome
  | succeeded (providerRequests : Nat)
  | providerFailed (providerRequests : Nat)
  | cutShort
  deriving DecidableEq, Repr

/-- What the search of a target writes. Without a fresh search there is
nothing that could fail. -/
def recordSearch (target : ResearchTarget) (outcome : SearchOutcome)
    (usage : UsageSnapshot) : UsageSnapshot :=
  match outcome with
  | .succeeded requests =>
      recordSearchResults usage target.reuseOnly requests
  | .providerFailed requests =>
      if target.reuseOnly then usage else recordToolFailure usage requests
  | .cutShort => usage

/-- A search writes the search counters and nothing else. -/
theorem recordSearch_writes (target : ResearchTarget)
    (outcome : SearchOutcome) (usage : UsageSnapshot) :
    ∃ searches logicalQueries searchProviderRequests,
      recordSearch target outcome usage
        = { usage with searches, logicalQueries, searchProviderRequests } := by
  unfold recordSearch recordSearchResults recordToolFailure
    countProviderRequests countSearch
  cases outcome with
  | cutShort => exact ⟨_, _, _, rfl⟩
  | succeeded requests | providerFailed requests =>
      cases target.reuseOnly <;> exact ⟨_, _, _, rfl⟩

structure SearchState where
  run : ResearchRunRow
  work : SearchWork := .idle

/-- The steps of the loop: a target is prepared, searched for, and its
iteration finished. In between, any operation may write to the run; the
execution may be lost, with the target it worked on, and start again. -/
inductive SearchAction
  | prepareTarget (workerTaskId : TaskId) (view : SearchView) (now : Nat)
  | search (workerTaskId : TaskId) (outcome : SearchOutcome)
  | finishIteration (workerTaskId : TaskId) (outcome : AttemptOutcome)
      (view : EvaluationView) (now : Nat)
  | operation (op : RunOp) (now : Nat)
  | restart

def SearchState.step (s : SearchState) : SearchAction → SearchState
  | .prepareTarget workerTaskId view now =>
      match Run.prepareTarget workerTaskId (view.schedulerView now s.run)
          now s.run with
      | .ok (run, some target) => { run, work := .prepared target }
      | .ok (run, none) => { run }
      | .error _ => s
  | .search workerTaskId outcome =>
      match s.work with
      | .prepared target =>
          match writeUsage workerTaskId (recordSearch target outcome)
              s.run with
          | .ok w => { run := w.run, work := .searched }
          | .error _ => s
      | .idle | .searched => s
  | .finishIteration workerTaskId outcome view now =>
      match s.work with
      | .idle => s
      | .prepared _ | .searched =>
          match evaluateIteration workerTaskId outcome view now s.run with
          | .ok (run, _) => { run }
          | .error _ => s
  | .operation op now => { s with run := op.after now s.run }
  | .restart => { s with work := .idle }

/-- The loop starts without a target, inside its search limit. -/
def searchSystem : Transition.System SearchState SearchAction where
  init s := s.work = .idle ∧ ∃ maximum,
    s.run.budgetSnapshot.maxSearches = some maximum ∧ 0 < maximum
      ∧ s.run.usageSnapshot.searches.getD 0 ≤ maximum
  step := SearchState.step

end DeepResearch.Run
