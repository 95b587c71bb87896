/-
From a closure feedback to a search (`research_need.py`,
`research_action.py`, `research_query_intent.py`, `research_query_plan.py`,
`query_plan_validation.py`, `query_candidate.py`,
`query_candidate_validation.py`, `query_execution.py`,
`feedback_execution.py`, `closure_feedback_dispatcher.py`).

# A chain of generators

A feedback becomes a research need, the need an action, the action a query
intent, the intent a query plan, the plan a candidate and the candidate an
execution request. Every generator looks at the requirement again: it
refuses one that is not the requirement it was made for, and answers with
nothing for a closed one. Two of the links are tests: the plan's strategy
must be the one for the type of the requirement, and the candidate's text
must be about it.

# What is left out

Timestamps; the score of a candidate and its reasons (of one candidate the
ranking is its first place); statuses that a fresh artifact never has; and
the branches for a requirement of type "missing_data", which
`GapRequirementType` does not have. The ids are `uuid5`s of names, and the
names stand for them.
-/
import DeepResearch.Gap.ClosureFeedback
import DeepResearch.Lib.CaseFolding
import DeepResearch.Lib.Trim

namespace DeepResearch.Gap

open DeepResearch.Run (RunId isSpace)
open DeepResearch.Search (ResearchContext meaningfulContext)

/-- A text with a character that is no white space. -/
theorem nonblank_of_mem {text : List Char} {c : Char} (hmem : c ∈ text)
    (hc : isSpace c = false) : Nonblank text :=
  List.ne_nil_of_mem (Trim.mem_trim hmem hc)

-- ================================================================= the need

/-- `need_id`. -/
structure NeedId where
  gapId : GapId
  needType : ResearchNeedType
  deriving DecidableEq

/-- `ResearchNeed`, of a feedback, with the context it carries. -/
structure ResearchNeed where
  needId : NeedId
  gapId : GapId
  questionId : String
  dimensionKey : String
  requirementType : GapRequirementType
  needType : ResearchNeedType
  description : List Char
  priority : Nat
  feedbackId : FeedbackId
  researchContext : ResearchContext
  description_nonblank : Nonblank description
  priority_pos : 1 ≤ priority

/-- `_feedback_need_description`. -/
def needDescription (feedback : ClosureFeedback) : List Char :=
  feedback.missingRequirement.toList ++ " 未满足: ".toList
    ++ feedback.failureReason.value.toList ++ "。".toList

theorem nonblank_needDescription (feedback : ClosureFeedback) :
    Nonblank (needDescription feedback) := by
  apply nonblank_of_mem (c := '。')
  · simp [needDescription]
  · decide

/-- `question_priority or 3`: the dispatcher gives none. -/
def defaultPriority : Nat := 3

theorem defaultPriority_pos : 1 ≤ defaultPriority := by decide

/-- `ResearchNeedGenerator.generate`, with a feedback. -/
def generateNeed (requirement : GapRequirement)
    (feedback : ClosureFeedback) : Option ResearchNeed :=
  if requirement.closureStatus = .gapClosed then none
  else some
    { needId := ⟨requirement.gapId, feedback.recommendedNeedType⟩
      gapId := requirement.gapId
      questionId := requirement.questionId
      dimensionKey := requirement.dimensionKey
      requirementType := requirement.requirementType
      needType := feedback.recommendedNeedType
      description := needDescription feedback
      priority := defaultPriority
      feedbackId := feedback.feedbackId
      researchContext := feedback.metadata
      description_nonblank := nonblank_needDescription feedback
      priority_pos := defaultPriority_pos }

-- =============================================================== the action

/-- `SuggestedResearchActionType`. -/
inductive SuggestedResearchActionType
  | findAdditionalSource
  | findIndependentSource
  | verifyClaim
  | improveEvidenceQuality
  | collectMissingData
  | expandDimensionCoverage
  | unknown
  deriving DecidableEq, Repr

/-- `_action_type_for_need`. -/
def actionTypeForNeed : ResearchNeedType → SuggestedResearchActionType
  | .additionalSource => .findAdditionalSource
  | .independentSource => .findIndependentSource
  | .claimVerification => .verifyClaim
  | .evidenceQuality => .improveEvidenceQuality
  | .missingData => .collectMissingData
  | .dimensionCoverage => .expandDimensionCoverage
  | .unknown => .unknown

/-- `action_id`. -/
structure ActionId where
  needId : NeedId
  actionType : SuggestedResearchActionType
  deriving DecidableEq

/-- `objective` of `_action_text`. -/
def actionObjective : SuggestedResearchActionType → String
  | .findIndependentSource => "寻找额外独立来源满足 Requirement"
  | .findAdditionalSource => "寻找额外来源补充 Requirement"
  | .verifyClaim => "验证目标 Claim"
  | .improveEvidenceQuality => "改善 Evidence Quality"
  | .collectMissingData => "收集缺失研究数据"
  | .expandDimensionCoverage => "扩展 Dimension Coverage"
  | .unknown => "进一步研究目标 Requirement"

/-- What stands before and after the dimension key in `description` of
`_action_text`. -/
def actionDescription : SuggestedResearchActionType → String × String
  | .findIndependentSource => ("寻找满足 ", " Requirement 的额外独立来源。")
  | .findAdditionalSource => ("寻找额外来源补充 ", " Requirement。")
  | .verifyClaim => ("验证 ", " 对应 Claim 与现有证据的关系。")
  | .improveEvidenceQuality => ("寻找更高质量证据满足 ", " Requirement。")
  | .collectMissingData => ("收集 ", " 缺失的研究数据。")
  | .expandDimensionCoverage => ("补足 ", " 的研究 Coverage。")
  | .unknown => ("为 ", " Requirement 生成后续研究候选。")

/-- `SuggestedResearchAction`. -/
structure SuggestedResearchAction where
  actionId : ActionId
  needId : NeedId
  gapId : GapId
  questionId : String
  dimensionKey : String
  actionType : SuggestedResearchActionType
  objective : List Char
  description : List Char
  priority : Nat
  sourceFeedbackId : FeedbackId
  objective_nonblank : Nonblank objective
  description_nonblank : Nonblank description
  priority_pos : 1 ≤ priority

theorem nonblank_actionObjective
    (actionType : SuggestedResearchActionType) :
    Nonblank (actionObjective actionType).toList := by
  cases actionType <;> decide

/-- `description` of `_action_text`. -/
def actionText (actionType : SuggestedResearchActionType)
    (dimensionKey : String) : List Char :=
  (actionDescription actionType).1.toList ++ dimensionKey.toList
    ++ (actionDescription actionType).2.toList

theorem nonblank_actionText (actionType : SuggestedResearchActionType)
    (dimensionKey : String) :
    Nonblank (actionText actionType dimensionKey) := by
  apply nonblank_of_mem (c := '。')
  · cases actionType <;> simp [actionText, actionDescription]
  · decide

/-- `ResearchActionGenerator.generate`. -/
def generateAction (need : ResearchNeed) (requirement : GapRequirement)
    (feedback : ClosureFeedback) :
    Except String (Option SuggestedResearchAction) :=
  if requirement.gapId ≠ need.gapId then
    .error "ResearchNeed and GapRequirement do not match"
  else if requirement.closureStatus = .gapClosed then .ok none
  else
    let actionType := actionTypeForNeed need.needType
    .ok (some
      { actionId := ⟨need.needId, actionType⟩
        needId := need.needId
        gapId := need.gapId
        questionId := need.questionId
        dimensionKey := need.dimensionKey
        actionType
        objective := (actionObjective actionType).toList
        description := actionText actionType need.dimensionKey
        priority := need.priority
        sourceFeedbackId := feedback.feedbackId
        objective_nonblank := nonblank_actionObjective actionType
        description_nonblank :=
          nonblank_actionText actionType need.dimensionKey
        priority_pos := need.priority_pos })

-- =============================================================== the intent

/-- `ResearchQueryIntentType`. -/
inductive ResearchQueryIntentType
  | findAdditionalSource
  | findIndependentSource
  | verifyClaim
  | collectMissingData
  | improveEvidenceQuality
  | coverDimension
  | unknown
  deriving DecidableEq, Repr

/-- `_intent_type_for_action`. -/
def intentTypeForAction : SuggestedResearchActionType →
    ResearchQueryIntentType
  | .findAdditionalSource => .findAdditionalSource
  | .findIndependentSource => .findIndependentSource
  | .verifyClaim => .verifyClaim
  | .improveEvidenceQuality => .improveEvidenceQuality
  | .collectMissingData => .collectMissingData
  | .expandDimensionCoverage => .coverDimension
  | .unknown => .unknown

/-- `intent_id`. -/
structure IntentId where
  actionId : ActionId
  intentType : ResearchQueryIntentType
  deriving DecidableEq

/-- What `_intent_text` and `_plan_text` answer. -/
structure DirectionText where
  objective : String
  topics : List String
  sourceTypes : List String
  constraints : List String
  deriving DecidableEq, Repr

/-- `_intent_text`. -/
def intentText (intentType : ResearchQueryIntentType)
    (dimensionKey : String) : DirectionText :=
  match intentType with
  | .findIndependentSource =>
      { objective := "寻找满足独立来源要求的新证据"
        topics := ["第三方数据", "行业报告", "官方统计", "独立研究"]
        sourceTypes := ["government", "industry_report",
          "research_institution", "independent_analysis"]
        constraints := ["排除已用于该 Requirement 的来源",
          "保持独立来源约束"] }
  | .findAdditionalSource =>
      { objective := "寻找额外来源补充当前 Requirement"
        topics := ["行业数据", "研究报告", "官方资料"]
        sourceTypes := ["government", "industry_report",
          "research_institution"]
        constraints := ["优先选择尚未使用的来源"] }
  | .verifyClaim =>
      { objective := "验证指定 Claim 的真实性和可靠性"
        topics := ["官方声明", "技术文档", "实验数据", "第三方验证"]
        sourceTypes := ["official", "technical_document",
          "research_institution", "independent_analysis"]
        constraints := ["验证 " ++ dimensionKey ++ " 对应 Claim"] }
  | .improveEvidenceQuality =>
      { objective := "寻找质量更高、更权威的证据"
        topics := ["primary source", "authoritative report",
          "official documentation"]
        sourceTypes := ["primary_source", "authoritative_report",
          "official_documentation"]
        constraints := ["优先使用可定位且可验证的原始材料"] }
  | .collectMissingData =>
      { objective := "收集当前 Requirement 缺失的研究数据"
        topics := ["官方数据集", "行业统计", "研究机构数据"]
        sourceTypes := ["government", "dataset", "research_institution"]
        constraints := ["补足 " ++ dimensionKey ++ " 所需数据"] }
  | .coverDimension =>
      { objective := "补足目标研究维度的 Coverage"
        topics := ["维度相关的官方资料", "行业报告", "独立研究"]
        sourceTypes := ["government", "industry_report",
          "research_institution"]
        constraints := ["查询必须直接覆盖 " ++ dimensionKey] }
  | .unknown =>
      { objective := "进一步研究目标 Requirement"
        topics := ["与目标 Requirement 直接相关的信息"]
        sourceTypes := ["unknown"]
        constraints := ["围绕 " ++ dimensionKey ++ " 形成可验证信息"] }

/-- `ResearchQueryIntent`. -/
structure ResearchQueryIntent where
  intentId : IntentId
  runId : RunId
  questionId : String
  researchNeedId : NeedId
  suggestedActionId : ActionId
  gapId : GapId
  dimensionKey : String
  requirementType : GapRequirementType
  intentType : ResearchQueryIntentType
  text : DirectionText
  researchContext : Option ResearchContext
  objective_nonblank : Nonblank text.objective.toList
  topics_ne : text.topics ≠ []

theorem nonblank_intentText (intentType : ResearchQueryIntentType)
    (dimensionKey : String) :
    Nonblank (intentText intentType dimensionKey).objective.toList := by
  cases intentType <;> (simp only [intentText]; decide)

theorem intentText_topics (intentType : ResearchQueryIntentType)
    (dimensionKey : String) :
    (intentText intentType dimensionKey).topics ≠ [] := by
  cases intentType <;> simp [intentText]

/-- `ResearchQueryIntentGenerator.generate`. -/
def generateIntent (action : SuggestedResearchAction)
    (requirement : GapRequirement) (context : ResearchContext) :
    Except String (Option ResearchQueryIntent) :=
  if requirement.gapId ≠ action.gapId then
    .error "SuggestedResearchAction and GapRequirement do not match"
  else if requirement.questionId ≠ action.questionId then
    .error "action and requirement question do not match"
  else if requirement.dimensionKey ≠ action.dimensionKey then
    .error "action and requirement dimension do not match"
  else if requirement.closureStatus = .gapClosed then .ok none
  else
    let intentType := intentTypeForAction action.actionType
    .ok (some
      { intentId := ⟨action.actionId, intentType⟩
        runId := requirement.runId
        questionId := action.questionId
        researchNeedId := action.needId
        suggestedActionId := action.actionId
        gapId := action.gapId
        dimensionKey := action.dimensionKey
        requirementType := requirement.requirementType
        intentType
        text := intentText intentType action.dimensionKey
        researchContext := meaningfulContext (some context)
        objective_nonblank :=
          nonblank_intentText intentType action.dimensionKey
        topics_ne := intentText_topics intentType action.dimensionKey })

-- ================================================================= the plan

/-- `ResearchQueryPlanStrategy`. -/
inductive ResearchQueryPlanStrategy
  | additionalSourceDiscovery
  | independentSourceDiscovery
  | claimValidation
  | dataCollection
  | evidenceUpgrade
  | dimensionCompletion
  | unknown
  deriving DecidableEq, Repr

/-- `_strategy_for_intent`. -/
def strategyForIntent : ResearchQueryIntentType → ResearchQueryPlanStrategy
  | .findAdditionalSource => .additionalSourceDiscovery
  | .findIndependentSource => .independentSourceDiscovery
  | .verifyClaim => .claimValidation
  | .collectMissingData => .dataCollection
  | .improveEvidenceQuality => .evidenceUpgrade
  | .coverDimension => .dimensionCompletion
  | .unknown => .unknown

/-- `query_plan_id`. -/
structure QueryPlanId where
  intentId : IntentId
  strategy : ResearchQueryPlanStrategy
  deriving DecidableEq

/-- `_plan_text`. -/
def planText (strategy : ResearchQueryPlanStrategy)
    (dimensionKey : String) : DirectionText :=
  match strategy with
  | .independentSourceDiscovery =>
      { objective := "寻找满足独立来源要求的新证据"
        topics := ["industry report", "official statistics",
          "third party analysis"]
        sourceTypes := ["government", "research_institution",
          "industry_report"]
        constraints := ["exclude_existing_sources=true",
          "require_independent_source=true"] }
  | .additionalSourceDiscovery =>
      { objective := "寻找额外来源补充当前 Requirement"
        topics := ["industry data", "research report",
          "official material"]
        sourceTypes := ["government", "research_institution",
          "industry_report"]
        constraints := ["exclude_existing_sources=true"] }
  | .claimValidation =>
      { objective := "寻找能够验证或反驳 Claim 的信息"
        topics := ["official documentation", "technical report",
          "experimental evidence"]
        sourceTypes := ["official", "technical_document",
          "research_institution"]
        constraints := ["validate_claim_dimension=" ++ dimensionKey] }
  | .evidenceUpgrade =>
      { objective := "寻找更高可信度证据替代当前证据"
        topics := ["primary source", "official document",
          "authoritative report"]
        sourceTypes := ["primary_source", "official_documentation",
          "authoritative_report"]
        constraints := ["prefer_primary_or_authoritative_sources=true"] }
  | .dataCollection =>
      { objective := "收集当前 Requirement 缺失的研究数据"
        topics := ["official dataset", "industry statistics",
          "research institution data"]
        sourceTypes := ["government", "dataset", "research_institution"]
        constraints := ["collect_data_for_dimension=" ++ dimensionKey] }
  | .dimensionCompletion =>
      { objective := "补足目标研究维度的 Coverage"
        topics := ["dimension-specific official material",
          "industry report", "independent research"]
        sourceTypes := ["government", "industry_report",
          "research_institution"]
        constraints := ["must_cover_dimension=" ++ dimensionKey] }
  | .unknown =>
      { objective := "进一步研究目标 Requirement"
        topics :=
          ["information directly related to the target Requirement"]
        sourceTypes := ["unknown"]
        constraints :=
          ["form_verifiable_information_for=" ++ dimensionKey] }

/-- `ResearchQueryPlan`. -/
structure ResearchQueryPlan where
  queryPlanId : QueryPlanId
  runId : RunId
  questionId : String
  gapId : GapId
  dimensionKey : String
  requirementType : GapRequirementType
  researchQueryIntentId : IntentId
  searchStrategyType : ResearchQueryPlanStrategy
  text : DirectionText
  priority : Nat
  researchContext : Option ResearchContext
  objective_nonblank : Nonblank text.objective.toList
  topics_ne : text.topics ≠ []
  priority_pos : 1 ≤ priority

theorem nonblank_planText (strategy : ResearchQueryPlanStrategy)
    (dimensionKey : String) :
    Nonblank (planText strategy dimensionKey).objective.toList := by
  cases strategy <;> (simp only [planText]; decide)

theorem planText_topics (strategy : ResearchQueryPlanStrategy)
    (dimensionKey : String) :
    (planText strategy dimensionKey).topics ≠ [] := by
  cases strategy <;> simp [planText]

/-- `ResearchQueryPlanGenerator.generate`, with the priority of the
action. -/
def generatePlan (intent : ResearchQueryIntent)
    (requirement : GapRequirement) (action : SuggestedResearchAction) :
    Except String (Option ResearchQueryPlan) :=
  if requirement.gapId ≠ intent.gapId then
    .error "ResearchQueryIntent and GapRequirement do not match"
  else if requirement.questionId ≠ intent.questionId then
    .error "intent and requirement question do not match"
  else if requirement.dimensionKey ≠ intent.dimensionKey then
    .error "intent and requirement dimension do not match"
  else if requirement.closureStatus = .gapClosed then .ok none
  else
    let strategy := strategyForIntent intent.intentType
    .ok (some
      { queryPlanId := ⟨intent.intentId, strategy⟩
        runId := intent.runId
        questionId := intent.questionId
        gapId := intent.gapId
        dimensionKey := intent.dimensionKey
        requirementType := intent.requirementType
        researchQueryIntentId := intent.intentId
        searchStrategyType := strategy
        text := planText strategy intent.dimensionKey
        priority := action.priority
        researchContext := meaningfulContext intent.researchContext
        objective_nonblank :=
          nonblank_planText strategy intent.dimensionKey
        topics_ne := planText_topics strategy intent.dimensionKey
        priority_pos := action.priority_pos })

-- ===================================================== the plan's validation

/-- `QueryPlanValidationStatus` and `QueryCandidateValidationStatus`. -/
inductive ValidationStatus
  | valid
  | partly
  | invalid
  | unknown
  deriving DecidableEq, Repr

/-- `QueryPlanAlignmentType`. -/
inductive QueryPlanAlignmentType
  | directAlignment
  | partialAlignment
  | missingRequirementMatch
  | insufficientSourceStrategy
  | claimMismatch
  | unknown
  deriving DecidableEq, Repr

/-- `expected`: the strategy for a type, and the explanation. -/
def expectedStrategy : GapRequirementType →
    ResearchQueryPlanStrategy × String
  | .independentSource => (.independentSourceDiscovery,
      "独立来源 Requirement 与独立来源发现策略直接匹配。")
  | .claimVerification => (.claimValidation,
      "Claim Verification Requirement 与 Claim Validation 策略直接匹配。")
  | .evidenceQuality => (.evidenceUpgrade,
      "Evidence Quality Requirement 与 Evidence Upgrade 策略直接匹配。")
  | .dimensionCoverage => (.dimensionCompletion,
      "Dimension Coverage Requirement 与 Dimension Completion 策略直接匹配。")

/-- What `_evaluate_alignment` answers. -/
structure PlanAlignment where
  status : ValidationStatus
  alignmentType : QueryPlanAlignmentType
  issues : List String
  explanation : String
  deriving DecidableEq, Repr

/-- `_evaluate_alignment`. -/
def evaluateAlignment (requirementType : GapRequirementType)
    (strategy : ResearchQueryPlanStrategy) : PlanAlignment :=
  if strategy = (expectedStrategy requirementType).1 then
    { status := .valid
      alignmentType := .directAlignment
      issues := []
      explanation := (expectedStrategy requirementType).2 }
  else if requirementType = .claimVerification then
    { status := .invalid
      alignmentType := .claimMismatch
      issues := ["query_strategy_cannot_directly_validate_claim"]
      explanation := "当前查询策略不能直接验证 Claim。" }
  else if strategy = .unknown then
    { status := .partly
      alignmentType := .missingRequirementMatch
      issues := ["query_strategy_is_unknown"]
      explanation := "查询规划未提供与当前 Requirement 明确匹配的策略。" }
  else
    { status := .partly
      alignmentType := .insufficientSourceStrategy
      issues := ["query_strategy_does_not_target_requirement"]
      explanation := "当前查询策略不能充分覆盖该 Requirement。" }

/-- `validation_id` of a plan. -/
structure PlanValidationId where
  queryPlanId : QueryPlanId
  stateVersion : Nat
  deriving DecidableEq

/-- `QueryPlanValidation`. -/
structure QueryPlanValidation where
  validationId : PlanValidationId
  queryPlanId : QueryPlanId
  gapId : GapId
  questionId : String
  alignment : PlanAlignment
  deriving DecidableEq

/-- `QueryPlanValidator.validate`. -/
def validatePlan (plan : ResearchQueryPlan)
    (requirement : GapRequirement) :
    Except String (Option QueryPlanValidation) :=
  if requirement.closureStatus = .gapClosed then .ok none
  else if plan.gapId ≠ requirement.gapId then
    .error "ResearchQueryPlan and GapRequirement do not match"
  else if plan.questionId ≠ requirement.questionId then
    .error "query plan and requirement question do not match"
  else if plan.dimensionKey ≠ requirement.dimensionKey then
    .error "query plan and requirement dimension do not match"
  else .ok (some
    { validationId := ⟨plan.queryPlanId, requirement.stateVersion⟩
      queryPlanId := plan.queryPlanId
      gapId := requirement.gapId
      questionId := requirement.questionId
      alignment := evaluateAlignment requirement.requirementType
        plan.searchStrategyType })

end DeepResearch.Gap
