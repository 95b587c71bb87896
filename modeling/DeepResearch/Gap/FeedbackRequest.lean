/-
The candidate, its request, and the dispatcher (`query_candidate.py`,
`query_candidate_validation.py`, `query_candidate_ranking.py`,
`query_execution.py`, `feedback_execution.py`,
`closure_feedback_dispatcher.py`; `research_tools.py`,
`_dispatch_closure_feedback`).

Texts are folded as CPython folds them.
-/
import DeepResearch.Gap.FeedbackPipeline

namespace DeepResearch.Gap

open DeepResearch.Run (RunId)
open DeepResearch.Search (QueryText ResearchContext meaningfulContext
  queryHintAdditions textIn)

-- ============================================================ the candidate

/-- `query_candidate_id`. -/
structure QueryCandidateId where
  queryPlanId : QueryPlanId
  queryText : QueryText
  deriving DecidableEq

/-- `QueryCandidate`. Its generation reason is a name made of the
validation and the feedback. -/
structure QueryCandidate where
  queryCandidateId : QueryCandidateId
  runId : RunId
  questionId : String
  gapId : GapId
  dimensionKey : String
  requirementType : GapRequirementType
  researchQueryPlanId : QueryPlanId
  queryText : QueryText
  queryPurpose : String
  targetTopics : List String
  preferredSourceTypes : List String
  constraints : List String
  generatedFrom : PlanValidationId
  feedbackId : FeedbackId
  avoidPreviousFailureReason : ClosureFeedbackReason
  researchContext : Option ResearchContext
  queryText_nonblank : Nonblank queryText

/-- `_candidate_text`: what stands behind the dimension key, and the
purpose. -/
def candidateText : ResearchQueryPlanStrategy → String × String
  | .independentSourceDiscovery =>
      (" market report official statistics third party analysis",
        "寻找满足独立来源要求的行业数据")
  | .additionalSourceDiscovery =>
      (" industry data research report official material",
        "寻找额外来源补充当前 Requirement")
  | .claimValidation =>
      (" claim official documentation technical report verification",
        "寻找能够验证或反驳 Claim 的官方或第三方依据")
  | .evidenceUpgrade =>
      (" primary source official report authoritative evidence",
        "寻找更高可信度证据")
  | .dataCollection =>
      (" official dataset industry statistics research data",
        "收集当前 Requirement 缺失的研究数据")
  | .dimensionCompletion =>
      (" official material industry report independent research",
        "补足目标研究维度的 Coverage")
  | .unknown =>
      (" research evidence Requirement",
        "生成与目标 Requirement 直接相关的查询候选")

/-- `query_text`: the text of the strategy, and the hints of a context. -/
def candidateQuery (strategy : ResearchQueryPlanStrategy)
    (dimensionKey : String) (context : Option ResearchContext) :
    QueryText :=
  let base := dimensionKey.toList ++ (candidateText strategy).1.toList
  match meaningfulContext context with
  | none => base
  | some meaningful =>
      (queryHintAdditions base meaningful.queryHints).1

/-- `QueryCandidateGenerator.generate`. -/
def generateCandidate (plan : ResearchQueryPlan)
    (requirement : GapRequirement) (validation : QueryPlanValidation)
    (feedback : ClosureFeedback) : Except String (Option QueryCandidate) :=
  if requirement.closureStatus = .gapClosed then .ok none
  else if validation.alignment.status ≠ .valid then .ok none
  else if validation.queryPlanId ≠ plan.queryPlanId then
    .error "validation and query plan do not match"
  else if validation.gapId ≠ plan.gapId then
    .error "validation and query plan gap do not match"
  else if requirement.gapId ≠ plan.gapId then
    .error "query plan and requirement do not match"
  else if requirement.questionId ≠ plan.questionId then
    .error "query plan and requirement question do not match"
  else if requirement.dimensionKey ≠ plan.dimensionKey then
    .error "query plan and requirement dimension do not match"
  else
    let queryText := candidateQuery plan.searchStrategyType
      plan.dimensionKey plan.researchContext
    if h : Nonblank queryText then
      .ok (some
        { queryCandidateId := ⟨plan.queryPlanId, queryText⟩
          runId := plan.runId
          questionId := plan.questionId
          gapId := plan.gapId
          dimensionKey := plan.dimensionKey
          requirementType := plan.requirementType
          researchQueryPlanId := plan.queryPlanId
          queryText
          queryPurpose := (candidateText plan.searchStrategyType).2
          targetTopics := plan.text.topics
          preferredSourceTypes := plan.text.sourceTypes
          constraints := plan.text.constraints
          generatedFrom := validation.validationId
          feedbackId := feedback.feedbackId
          avoidPreviousFailureReason := feedback.failureReason
          researchContext := meaningfulContext plan.researchContext
          queryText_nonblank := h })
    else .error "query candidate text must not be empty"

-- ================================================= the candidate's validation

/-- `QueryCandidateAlignmentType`. -/
inductive QueryCandidateAlignmentType
  | planAligned
  | gapAligned
  | sourceMismatch
  | topicMismatch
  | insufficientQueryIntent
  | unknown
  deriving DecidableEq, Repr

/-- What `_evaluate_candidate` answers. -/
structure CandidateAlignment where
  status : ValidationStatus
  alignmentType : QueryCandidateAlignmentType
  issues : List String
  explanation : String
  deriving DecidableEq, Repr

/-- `any(term in text for term in terms)`. -/
def mentionsAny (text : QueryText) (terms : List String) : Bool :=
  terms.any fun term => textIn term.toList text

/-- The answer of `_evaluate_candidate` where no rule holds. -/
def unsupportedCandidate : CandidateAlignment where
  status := .unknown
  alignmentType := .insufficientQueryIntent
  issues := ["candidate_intent_is_not_supported_by_validation_rule"]
  explanation := "当前 Requirement 类型没有足够的候选查询验证规则。"

/-- The answer of `_evaluate_candidate` for a candidate that follows its
plan. -/
def planAlignedCandidate : CandidateAlignment where
  status := .valid
  alignmentType := .planAligned
  issues := []
  explanation := "候选查询与 Query Plan 的目标方向一致。"

/-- `_evaluate_candidate`. -/
def evaluateCandidate (requirementType : GapRequirementType)
    (candidate : QueryCandidate) : CandidateAlignment :=
  let text := CaseFolding.casefold candidate.queryText
  match requirementType with
  | .independentSource =>
      if candidate.preferredSourceTypes.all fun sourceType =>
          !(["government", "research_institution", "industry_report",
            "independent_analysis"].contains sourceType) then
        { status := .invalid
          alignmentType := .sourceMismatch
          issues :=
            ["candidate_sources_do_not_support_independent_source"]
          explanation := "候选查询的来源约束不支持独立来源要求。" }
      else if mentionsAny text
          ["industry", "report", "statistics", "third party",
            "analysis"] = false then
        { status := .invalid
          alignmentType := .topicMismatch
          issues := ["candidate_topics_do_not_target_independent_source"]
          explanation := "候选查询主题没有指向第三方或独立来源。" }
      else
        { status := .valid
          alignmentType := .gapAligned
          issues := []
          explanation := "候选查询同时满足独立来源的主题和来源约束。" }
  | .claimVerification =>
      if candidate.preferredSourceTypes.all fun sourceType =>
          !(["official", "technical_document",
            "research_institution"].contains sourceType) then
        { status := .invalid
          alignmentType := .sourceMismatch
          issues := ["candidate_sources_do_not_support_claim_validation"]
          explanation := "候选查询的来源约束不支持 Claim 验证。" }
      else if mentionsAny text
          ["claim", "verification", "official", "documentation",
            "technical"] = false then
        { status := .invalid
          alignmentType := .topicMismatch
          issues := ["candidate_topics_do_not_target_claim"]
          explanation := "候选查询主题无法直接验证目标 Claim。" }
      else
        { status := .valid
          alignmentType := .gapAligned
          issues := []
          explanation := "候选查询指向官方或技术材料,可用于验证目标 Claim。" }
  | .evidenceQuality =>
      if mentionsAny text ["primary", "official", "authoritative"] then
        planAlignedCandidate
      else unsupportedCandidate
  | .dimensionCoverage =>
      if textIn (CaseFolding.casefold candidate.dimensionKey.toList)
          text then
        planAlignedCandidate
      else unsupportedCandidate

/-- `QueryCandidateValidation`; its id is made of the candidate's. -/
structure QueryCandidateValidation where
  queryCandidateId : QueryCandidateId
  queryPlanId : QueryPlanId
  gapId : GapId
  questionId : String
  alignment : CandidateAlignment
  deriving DecidableEq

/-- `QueryCandidateValidator.validate`. -/
def validateCandidate (candidate : QueryCandidate)
    (plan : ResearchQueryPlan) (requirement : GapRequirement) :
    Except String (Option QueryCandidateValidation) :=
  if requirement.closureStatus = .gapClosed then .ok none
  else if candidate.researchQueryPlanId ≠ plan.queryPlanId then
    .error "query candidate and query plan do not match"
  else if candidate.gapId ≠ plan.gapId
      ∨ plan.gapId ≠ requirement.gapId then
    .error "query candidate, plan, and requirement gaps do not match"
  else if candidate.questionId ≠ plan.questionId then
    .error "query candidate and query plan questions do not match"
  else if plan.questionId ≠ requirement.questionId then
    .error "query plan and requirement questions do not match"
  else if candidate.dimensionKey ≠ plan.dimensionKey then
    .error "query candidate and query plan dimensions do not match"
  else if plan.dimensionKey ≠ requirement.dimensionKey then
    .error "query plan and requirement dimensions do not match"
  else .ok (some
    { queryCandidateId := candidate.queryCandidateId
      queryPlanId := plan.queryPlanId
      gapId := requirement.gapId
      questionId := requirement.questionId
      alignment := evaluateCandidate requirement.requirementType
        candidate })

-- ============================================================== the request

/-- `QueryCandidateRanking`, less its score. -/
structure QueryCandidateRanking where
  candidateId : QueryCandidateId
  rank : Nat
  deriving DecidableEq

/-- `QueryCandidateRanker.rank` of one candidate, and its first place. -/
def rankCandidate (candidate : QueryCandidate)
    (requirement : GapRequirement) : Option QueryCandidateRanking :=
  if requirement.closureStatus = .gapClosed then none
  else some ⟨candidate.queryCandidateId, 1⟩

/-- `QueryExecutionEligibility`. -/
inductive QueryExecutionEligibility
  | ready
  | blocked
  | rejected
  | unknown
  deriving DecidableEq, Repr

/-- `QueryExecutionDecision`, of a candidate. -/
structure QueryExecutionDecision where
  eligibility : QueryExecutionEligibility
  reason : String
  deriving DecidableEq, Repr

/-- `QueryExecutionAdapter.evaluate`. -/
def evaluateExecution (candidate : QueryCandidate)
    (validation : QueryCandidateValidation)
    (ranking : Option QueryCandidateRanking)
    (requirement : GapRequirement) :
    Except String QueryExecutionDecision :=
  if requirement.closureStatus = .gapClosed then
    .ok ⟨.blocked, "gap_already_closed"⟩
  else if validation.queryCandidateId ≠ candidate.queryCandidateId then
    .error "validation and query candidate do not match"
  else if validation.alignment.status = .invalid then
    .ok ⟨.rejected, "invalid_query_candidate"⟩
  else if validation.alignment.status ≠ .valid then
    .ok ⟨.blocked, "candidate_validation_not_ready"⟩
  else
    match ranking with
    | none => .ok ⟨.blocked, "candidate_ranking_missing"⟩
    | some ranking =>
        if ranking.candidateId ≠ candidate.queryCandidateId then
          .error "ranking and query candidate do not match"
        else .ok ⟨.ready, "valid_candidate_with_ranking_and_open_gap"⟩

/-- `feedback_execution_id`. -/
structure FeedbackExecutionId where
  feedbackId : FeedbackId
  queryCandidateId : QueryCandidateId
  deriving DecidableEq

/-- `FeedbackExecutionContext`. -/
structure FeedbackExecutionContext where
  feedbackExecutionId : FeedbackExecutionId
  feedbackId : FeedbackId
  runId : RunId
  questionId : String
  gapId : GapId
  dimensionKey : String
  requirementType : GapRequirementType
  researchNeedId : NeedId
  queryCandidateId : QueryCandidateId
  deriving DecidableEq

/-- `FeedbackExecutionContext.create`, as the dispatch of a feedback calls
it. -/
def createContext (feedback : ClosureFeedback) (need : ResearchNeed)
    (candidate : QueryCandidate) : FeedbackExecutionContext where
  feedbackExecutionId := ⟨feedback.feedbackId, candidate.queryCandidateId⟩
  feedbackId := feedback.feedbackId
  runId := candidate.runId
  questionId := candidate.questionId
  gapId := candidate.gapId
  dimensionKey := candidate.dimensionKey
  requirementType := candidate.requirementType
  researchNeedId := need.needId
  queryCandidateId := candidate.queryCandidateId

/-- `QueryExecutionRequest`, with a feedback context; its id is made of
the candidate's. -/
structure QueryExecutionRequest where
  runId : RunId
  questionId : String
  gapId : GapId
  dimensionKey : String
  candidateId : QueryCandidateId
  queryText : QueryText
  sourceConstraints : List String
  requirementType : GapRequirementType
  feedbackId : FeedbackId
  feedbackExecutionId : FeedbackExecutionId
  triggerReason : ClosureFeedbackReason
  queryText_nonblank : Nonblank queryText

/-- `QueryExecutionAdapter.create_request`. -/
def createRequest (candidate : QueryCandidate)
    (validation : QueryCandidateValidation)
    (ranking : Option QueryCandidateRanking)
    (requirement : GapRequirement) (context : FeedbackExecutionContext) :
    Except String (Option QueryExecutionRequest) :=
  (evaluateExecution candidate validation ranking requirement).map
    fun decision =>
      if decision.eligibility = .ready then some
        { runId := candidate.runId
          questionId := candidate.questionId
          gapId := candidate.gapId
          dimensionKey := candidate.dimensionKey
          candidateId := candidate.queryCandidateId
          queryText := candidate.queryText
          sourceConstraints := candidate.constraints
          requirementType := candidate.requirementType
          feedbackId := context.feedbackId
          feedbackExecutionId := context.feedbackExecutionId
          triggerReason := candidate.avoidPreviousFailureReason
          queryText_nonblank := candidate.queryText_nonblank }
      else none

/-- The loops of `_dispatch_closure_feedback` from an action on: the
request it comes to, if it comes to one. -/
def feedbackRequest (feedback : ClosureFeedback)
    (requirement : GapRequirement) (need : ResearchNeed)
    (action : SuggestedResearchAction) :
    OptionT (Except String) QueryExecutionRequest := do
  let intent ←
    OptionT.mk (generateIntent action requirement need.researchContext)
  let plan ← OptionT.mk (generatePlan intent requirement action)
  let validation ← OptionT.mk (validatePlan plan requirement)
  let candidate ←
    OptionT.mk (generateCandidate plan requirement validation feedback)
  let candidateValidation ←
    OptionT.mk (validateCandidate candidate plan requirement)
  OptionT.mk (createRequest candidate candidateValidation
    (rankCandidate candidate requirement) requirement
    (createContext feedback need candidate))

-- ============================================================ the dispatcher

/-- `FeedbackDispatchStatus`. -/
inductive FeedbackDispatchStatus
  | created
  | skipped
  | duplicated
  | blocked
  deriving DecidableEq, Repr

/-- `FeedbackDispatchResult`. -/
structure FeedbackDispatchResult where
  feedbackId : FeedbackId
  gapId : GapId
  dispatchStatus : FeedbackDispatchStatus
  reason : String
  researchNeed : Option ResearchNeed := none
  suggestedAction : Option SuggestedResearchAction := none

/-- `ClosureFeedbackDispatcher._verdict`. -/
def dispatchVerdict (feedback : ClosureFeedback)
    (status : FeedbackDispatchStatus) (reason : String) :
    FeedbackDispatchResult where
  feedbackId := feedback.feedbackId
  gapId := feedback.gapId
  dispatchStatus := status
  reason

/-- `ClosureFeedbackDispatcher.dispatch`. -/
def dispatchFeedback (alreadyDispatched : List FeedbackId)
    (feedback : ClosureFeedback) (requirement : GapRequirement) :
    Except String FeedbackDispatchResult :=
  if requirement.closureStatus = .gapClosed then
    .ok (dispatchVerdict feedback .skipped "closed_gap")
  else if feedback.gapId ≠ requirement.gapId then
    .ok (dispatchVerdict feedback .blocked "feedback_requirement_mismatch")
  else if feedback.feedbackId ∈ alreadyDispatched then
    .ok (dispatchVerdict feedback .duplicated "feedback_already_dispatched")
  else
    match generateNeed requirement feedback with
    | none =>
        .ok (dispatchVerdict feedback .blocked "no_research_need_generated")
    | some need =>
        (generateAction need requirement feedback).map fun action =>
          { dispatchVerdict feedback .created "research_need_created" with
            researchNeed := some need
            suggestedAction := action }

end DeepResearch.Gap
