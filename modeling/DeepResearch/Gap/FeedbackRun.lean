/-
The closure feedback of a run (`research_tools.py`,
`_align_and_evaluate_evidence`, `_emit_closure_feedback_chain`,
`_dispatch_closure_feedback`, `_run_feedback_completeness_pass`,
`_dispatch_backfilled_closure_feedbacks`, `_finalize_run_closure_feedback`
and `_closure_feedback_ids_by_gap`).

# Three writers

New evidence evaluates its gaps, and a gap that stays open gets a feedback
of the evaluation. When the evaluations of a batch are done, a pass over
the question writes one for every open gap that has none. When research
ends, the finalization does so for the whole plan, unless the run was cut
short, which explains every gap.

# What a feedback leaves

Each feedback is an event, and what the pass and the finalization look for
is in these events. Its dispatch is an event too, and its id is kept in
the usage snapshot, so that it is dispatched once. At most two feedback
queries of a run are started. The other events of the chain, and the
metadata that explains an evaluation (an open function of its alignment),
are left out.
-/
import DeepResearch.Gap.FeedbackRequest

namespace DeepResearch.Gap

open DeepResearch.Run (RunId)
open DeepResearch.Search (ResearchContext)

-- ================================================================= the state

/-- What a run has of its gaps and their feedback: the table, the events
`closure.feedback.generated`, `research.feedback.dispatched` and
`feedback.query.execution.started`, how many
`feedback.query.execution.blocked`, and two entries of the usage
snapshot. -/
structure FeedbackRun where
  runId : RunId
  planVersion : Nat
  table : GapTable
  feedbacks : List ClosureFeedback := []
  dispatches : List FeedbackDispatchResult := []
  executions : List QueryExecutionRequest := []
  blockedExecutions : Nat := 0
  dispatchedFeedbackIds : List FeedbackId := []
  feedbackExecutionCount : Nat := 0

namespace FeedbackRun

/-- The limit that `feedback_execution_allowed` is asked with. -/
def executionLimit : Nat := 2

/-- The end of `_dispatch_closure_feedback`: the query is started, or
blocked by the limit. -/
def startExecution (s : FeedbackRun) (request : QueryExecutionRequest) :
    FeedbackRun :=
  if s.feedbackExecutionCount < executionLimit then
    { s with
      executions := s.executions ++ [request]
      feedbackExecutionCount := s.feedbackExecutionCount + 1 }
  else { s with blockedExecutions := s.blockedExecutions + 1 }

/-- The events of a feedback and its dispatch, and its id, where it has
become a need. -/
def recordDispatch (s : FeedbackRun) (feedback : ClosureFeedback)
    (dispatch : FeedbackDispatchResult) : FeedbackRun :=
  { s with
    feedbacks := s.feedbacks ++ [feedback]
    dispatches := s.dispatches ++ [dispatch]
    dispatchedFeedbackIds :=
      if dispatch.researchNeed.isSome
          ∧ feedback.feedbackId ∉ s.dispatchedFeedbackIds then
        s.dispatchedFeedbackIds ++ [feedback.feedbackId]
      else s.dispatchedFeedbackIds }

/-- The loops over the needs and the actions. -/
def handOver (s : FeedbackRun) (feedback : ClosureFeedback)
    (requirement : GapRequirement) (dispatch : FeedbackDispatchResult) :
    Option FeedbackRun :=
  match dispatch.researchNeed, dispatch.suggestedAction with
  | some need, some action =>
      match (feedbackRequest feedback requirement need action).run with
      | .error _ => none
      | .ok none => some s
      | .ok (some request) => some (s.startExecution request)
  | _, _ => some s

/-- `_dispatch_closure_feedback`, with the dispatcher's ids. -/
def dispatchClosureFeedback (s : FeedbackRun)
    (alreadyDispatched : List FeedbackId) (feedback : ClosureFeedback)
    (requirement : GapRequirement) : Option FeedbackRun :=
  match dispatchFeedback alreadyDispatched feedback requirement with
  | .error _ => none
  | .ok dispatch =>
      (s.recordDispatch feedback dispatch).handOver feedback requirement
        dispatch

/-- The loop of `_dispatch_backfilled_closure_feedbacks`: its dispatcher
is made before. -/
def dispatchBackfilled (alreadyDispatched : List FeedbackId)
    (requirements : List GapRequirement) :
    List ClosureFeedback → FeedbackRun → Option FeedbackRun
  | [], s => some s
  | feedback :: feedbacks, s =>
      match requirements.reverse.find? (·.gapId = feedback.gapId) with
      | none =>
          dispatchBackfilled alreadyDispatched requirements feedbacks s
      | some requirement =>
          (s.dispatchClosureFeedback alreadyDispatched feedback
            requirement).bind
            (dispatchBackfilled alreadyDispatched requirements feedbacks)

/-- `_closure_feedback_ids_by_gap`, of a question or of the run. -/
def closureFeedbackIds (s : FeedbackRun) (questionId : Option String) :
    FeedbackIds :=
  (s.feedbacks.filter fun feedback =>
      questionId.all (feedback.questionId = ·)).map
    fun feedback => (feedback.gapId, feedback.feedbackId)

-- ============================================================ the evaluations

/-- `_emit_closure_feedback_chain`: the state, and the feedback it has
written. -/
def emitClosureFeedback (s : FeedbackRun)
    (execution : ClosureEvaluationExecution) (metadata : ResearchContext) :
    Option (FeedbackRun × FeedbackIds) :=
  match generateClosureFeedback execution metadata with
  | .error _ => none
  | .ok none => some (s, [])
  | .ok (some feedback) =>
      (s.dispatchClosureFeedback s.dispatchedFeedbackIds feedback
        execution.requirement).map
        fun s => (s, [(feedback.gapId, feedback.feedbackId)])

end FeedbackRun

/-- The context that a batch is evaluated in. -/
def batchContext (requirement : GapRequirement) (batch : EvidenceBatch) :
    ClosureEvaluationContext :=
  .fromAlignments
    { coverage := requirement.currentCoverage
      evidenceCount := batch.beforeCount
      independentSources := batch.beforeOwners
      verificationStatus := requirement.verificationStatus }
    (alignBatch requirement batch) batch.afterOwners

/-- `updated_requirement`. -/
def updatedRequirement (execution : ClosureEvaluationExecution)
    (batch : EvidenceBatch) : GapRequirement :=
  { execution.requirement with
    currentEvidenceCount := batch.afterCount
    currentIndependentSources := batch.afterOwners }

/-- The metadata of a feedback, from the requirement and its batch. -/
abbrev FeedbackAnalysis := GapRequirement → EvidenceBatch → ResearchContext

namespace FeedbackRun

/-- One turn of the loop over the dimensions that have new evidence. -/
def evaluateDimension (analysis : FeedbackAnalysis)
    (target : AlignmentTarget) (now : Nat) (s : FeedbackRun)
    (batch : EvidenceBatch) : Option (FeedbackRun × FeedbackIds) :=
  match s.table.requirementRow s.runId target batch.dimensionKey with
  | none => some (s, [])
  | some row =>
      let requirement := beforeBatch row batch
      if alignBatch requirement batch = [] then some (s, [])
      else
        match closureExecution (batchContext requirement batch) requirement
            now with
        | .error _ => none
        | .ok execution =>
            (s.table.upsertMany [updatedRequirement execution batch]
              now).bind fun table =>
                { s with table }.emitClosureFeedback execution
                  (analysis execution.requirement batch)

/-- The loop: the feedback written so far, the latest first. -/
def evaluateDimensions (analysis : FeedbackAnalysis)
    (target : AlignmentTarget) (now : Nat) :
    List EvidenceBatch → FeedbackRun × FeedbackIds →
      Option (FeedbackRun × FeedbackIds)
  | [], progress => some progress
  | batch :: batches, (s, written) =>
      (s.evaluateDimension analysis target now batch).bind
        fun (s, ids) =>
          evaluateDimensions analysis target now batches (s, ids ++ written)

/-- The loop over the acceptance dimensions. -/
def ensureRequirements (target : AlignmentTarget) (now : Nat) :
    List (String × String) → FeedbackRun → Option FeedbackRun
  | [], s => some s
  | dimension :: dimensions, s =>
      (s.table.ensureRequirement s.runId target dimension.1 dimension.2
        now).bind fun table =>
          ensureRequirements target now dimensions { s with table }

-- ==================================================== the pass and the end

/-- The requirements of a question. -/
def questionRequirements (s : FeedbackRun) (questionId : String)
    (planVersion : Nat) : List GapRequirement :=
  s.table.rows.filter fun row =>
    row.runId = s.runId && row.questionId = questionId
      && row.planVersion = planVersion

/-- The requirements of the plan. -/
def planRequirements (s : FeedbackRun) : List GapRequirement :=
  s.table.rows.filter fun row =>
    row.runId = s.runId && row.planVersion = s.planVersion

/-- `_run_feedback_completeness_pass`. `written` is the feedback of the
evaluations before it. -/
def runFeedbackCompletenessPass (s : FeedbackRun) (questionId : String)
    (planVersion : Nat) (written : FeedbackIds) : Option FeedbackRun :=
  let requirements := s.questionRequirements questionId planVersion
  match completenessPass requirements
      (written ++ s.closureFeedbackIds (some questionId)) with
  | .error _ => none
  | .ok verdicts =>
      dispatchBackfilled s.dispatchedFeedbackIds requirements
        (verdicts.filterMap (·.feedback?)) s

/-- `terminal_reasons`: a reason that cuts a run short is the one of all
its gaps. -/
def terminalReason (stopReason : Option String) : Option String :=
  stopReason.filter isTerminalRunStopReason

/-- `_finalize_run_closure_feedback`. -/
def finalizeRunClosureFeedback (s : FeedbackRun)
    (stopReason : Option String) : Option FeedbackRun :=
  match Gap.finalizeRunClosureFeedback s.planRequirements
      (s.closureFeedbackIds none) (terminalReason stopReason) with
  | .error _ => none
  | .ok verdicts =>
      dispatchBackfilled s.dispatchedFeedbackIds s.planRequirements
        (verdicts.filterMap (·.feedback?)) s

/-- `_align_and_evaluate_evidence`. -/
def alignAndEvaluate (analysis : FeedbackAnalysis)
    (target : AlignmentTarget) (batches : List EvidenceBatch) (now : Nat)
    (s : FeedbackRun) : Option FeedbackRun :=
  (ensureRequirements target now target.acceptanceDimensions s).bind
    fun s =>
      (evaluateDimensions analysis target now batches (s, [])).bind
        fun (s, written) =>
          s.runFeedbackCompletenessPass target.questionId
            target.planVersion written

end FeedbackRun

-- ================================================================== the runs

/-- The transactions of a run on its gaps and their feedback. -/
inductive FeedbackTransaction
  | alignAndEvaluate (target : AlignmentTarget)
      (batches : List EvidenceBatch) (now : Nat)
  | projectRequirements (planVersion stateVersion : Nat)
      (coverageMap : List CoverageMapEntry) (claimStates : List ClaimState)
      (now : Nat)
  | finalize (stopReason : Option String)
  /-- a plan is saved -/
  | savePlan (planVersion : Nat)

/-- A transaction, or nothing where it raises. -/
def FeedbackTransaction.apply (analysis : FeedbackAnalysis)
    (s : FeedbackRun) : FeedbackTransaction → Option FeedbackRun
  | .alignAndEvaluate target batches now =>
      s.alignAndEvaluate analysis target batches now
  | .projectRequirements planVersion stateVersion coverageMap claimStates
      now =>
      (GapWrite.apply s.runId s.table (.project planVersion stateVersion
        coverageMap claimStates now)).map fun table => { s with table }
  | .finalize stopReason => s.finalizeRunClosureFeedback stopReason
  | .savePlan planVersion => some { s with planVersion }

/-- A run begins without gaps. A transaction that raises leaves everything
as it is. -/
def feedbackRunSystem (analysis : FeedbackAnalysis) :
    Transition.System FeedbackRun FeedbackTransaction where
  init s := ∃ runId planVersion, s =
    { runId, planVersion, table := { rows := [], nodup := List.nodup_nil } }
  step s transaction := (transaction.apply analysis s).getD s

end DeepResearch.Gap
