/-
When a closure feedback becomes a search.

No generator of the chain refuses what the one before it has made
(`generateIntent_spec` and its like), so a feedback of an open requirement
always becomes a need and an action. It becomes a request where its reason
is the one that the type of the requirement asks for (`searchedFor`), and,
for a requirement on a dimension, where the key is in the text of the
query.

The text of a query ends its own words before the hints begin, whatever
the hints are (`words_infix_candidateQuery`), so the candidates of the
other types are about their requirement by these words alone.
-/
import DeepResearch.Gap.FeedbackRequest
import DeepResearch.Lib.Outcome
import DeepResearch.Search.Proofs.ContextEnricher

namespace DeepResearch.Gap

open DeepResearch.Run (isSpace_space)
open DeepResearch.Search (QueryText ResearchContext meaningfulContext
  queryHintAdditions textIn appendHints appendHints_appended collapseSpace)

-- =========================================================== the query's text

/-- The words of a strategy, behind the dimension key. -/
def strategyWords : ResearchQueryPlanStrategy → String
  | .independentSourceDiscovery =>
      "market report official statistics third party analysis"
  | .additionalSourceDiscovery =>
      "industry data research report official material"
  | .claimValidation =>
      "claim official documentation technical report verification"
  | .evidenceUpgrade =>
      "primary source official report authoritative evidence"
  | .dataCollection =>
      "official dataset industry statistics research data"
  | .dimensionCompletion =>
      "official material industry report independent research"
  | .unknown => "research evidence Requirement"

section

variable {strategy : ResearchQueryPlanStrategy} {key : String}
  {context : Option ResearchContext}

theorem candidateText_eq (strategy : ResearchQueryPlanStrategy) :
    (candidateText strategy).1.toList
      = ' ' :: (strategyWords strategy).toList := by
  cases strategy <;> rfl

theorem collapse_strategyWords (strategy : ResearchQueryPlanStrategy) :
    collapseSpace (strategyWords strategy).toList
      = (strategyWords strategy).toList := by
  cases strategy <;> rfl

/-- The meaningful part of a context is meaningful. -/
theorem meaningfulContext_idem (context : Option ResearchContext) :
    meaningfulContext (meaningfulContext context)
      = meaningfulContext context := by
  unfold meaningfulContext
  rw [Option.filter_filter]
  simp

/-- Hints come behind the words of the strategy. -/
theorem words_infix_candidateQuery (strategy : ResearchQueryPlanStrategy)
    (key : String) (context : Option ResearchContext) :
    (strategyWords strategy).toList
      <:+: candidateQuery strategy key context := by
  have hbase : (strategyWords strategy).toList
      <:+: key.toList ++ (candidateText strategy).1.toList := by
    rw [candidateText_eq]
    exact ⟨key.toList ++ [' '], [], by simp⟩
  unfold candidateQuery
  dsimp only
  cases hcontext : meaningfulContext context with
  | none => exact hbase
  | some meaningful =>
      dsimp only
      unfold queryHintAdditions
      cases hhints : meaningful.queryHints with
      | nil => exact hbase
      | cons hint hints =>
          dsimp only
          have hcollapsed : (strategyWords strategy).toList
              <:+ collapseSpace
                (key.toList ++ (candidateText strategy).1.toList) := by
            rw [candidateText_eq]
            exact Words.suffix_collapse isSpace_space
              (collapse_strategyWords strategy)
          have hcontinues :
              collapseSpace
                  (key.toList ++ (candidateText strategy).1.toList)
                <+: (appendHints
                  (collapseSpace
                    (key.toList ++ (candidateText strategy).1.toList))
                  (hint :: hints)).1 :=
            (appendHints_appended _ _).continues
          exact hcollapsed.isInfix.trans hcontinues.isInfix

/-- The strategy puts words into every query. -/
theorem nonblank_candidateQuery (strategy : ResearchQueryPlanStrategy)
    (key : String) (context : Option ResearchContext) :
    Nonblank (candidateQuery strategy key context) := by
  have hmem : 'e' ∈ (strategyWords strategy).toList := by
    cases strategy <;> decide
  exact nonblank_of_mem
    ((words_infix_candidateQuery strategy key context).subset hmem)
    (by decide)

/-- A folding keeps what stands inside a text inside. -/
theorem infix_casefold {part text : List Char} (h : part <:+: text) :
    CaseFolding.casefold part <:+: CaseFolding.casefold text := by
  obtain ⟨left, right, rfl⟩ := h
  exact ⟨CaseFolding.casefold left, CaseFolding.casefold right, by simp⟩

/-- A word of the strategy, in small letters, is in the folded text. -/
theorem textIn_candidateQuery {term : String}
    (hterm : term.toList <:+: (strategyWords strategy).toList)
    (hsmall : term.toList.all
      (fun c => decide (c.toNat < 128 ∧ c.toLower = c)) = true) :
    textIn term.toList
      (CaseFolding.casefold (candidateQuery strategy key context))
      = true := by
  have hfolded : CaseFolding.casefold term.toList = term.toList := by
    apply CaseFolding.casefold_eq_self
    intro c hc
    have hcode := of_decide_eq_true (List.all_eq_true.mp hsmall c hc)
    rw [CaseFolding.foldChar_ascii hcode.1, hcode.2]
  have hinfix := infix_casefold
    (hterm.trans (words_infix_candidateQuery strategy key context))
  rw [hfolded] at hinfix
  exact decide_eq_true hinfix

end

-- ============================================================ the generators

section

variable {requirement : GapRequirement} {feedback : ClosureFeedback}
  {need : ResearchNeed} {action : SuggestedResearchAction}
  {intent : ResearchQueryIntent} {plan : ResearchQueryPlan}
  {validation : QueryPlanValidation} {candidate : QueryCandidate}

/-- A gap that is open gives a need, with its ids. -/
theorem generateNeed_spec (feedback : ClosureFeedback)
    (hopen : requirement.closureStatus ≠ .gapClosed) :
    ∃ need, generateNeed requirement feedback = some need
      ∧ need.gapId = requirement.gapId
      ∧ need.questionId = requirement.questionId
      ∧ need.dimensionKey = requirement.dimensionKey
      ∧ need.needType = feedback.recommendedNeedType
      ∧ need.researchContext = feedback.metadata := by
  unfold generateNeed
  rw [if_neg hopen]
  exact ⟨_, rfl, rfl, rfl, rfl, rfl, rfl⟩

/-- The need gives an action for the same gap. -/
theorem generateAction_spec (feedback : ClosureFeedback)
    (hopen : requirement.closureStatus ≠ .gapClosed)
    (hgap : need.gapId = requirement.gapId) :
    ∃ action, generateAction need requirement feedback = .ok (some action)
      ∧ action.gapId = need.gapId
      ∧ action.questionId = need.questionId
      ∧ action.dimensionKey = need.dimensionKey
      ∧ action.actionType = actionTypeForNeed need.needType := by
  unfold generateAction
  rw [if_neg (not_not.mpr hgap.symm), if_neg hopen]
  exact ⟨_, rfl, rfl, rfl, rfl, rfl⟩

/-- The action gives an intent for the same gap. -/
theorem generateIntent_spec (hopen : requirement.closureStatus ≠ .gapClosed)
    (hgap : action.gapId = requirement.gapId)
    (hquestion : action.questionId = requirement.questionId)
    (hkey : action.dimensionKey = requirement.dimensionKey)
    (context : ResearchContext) :
    ∃ intent, generateIntent action requirement context = .ok (some intent)
      ∧ intent.gapId = requirement.gapId
      ∧ intent.questionId = requirement.questionId
      ∧ intent.dimensionKey = requirement.dimensionKey
      ∧ intent.intentType = intentTypeForAction action.actionType
      ∧ intent.researchContext = meaningfulContext (some context) := by
  unfold generateIntent
  rw [if_neg (not_not.mpr hgap.symm), if_neg (not_not.mpr hquestion.symm),
    if_neg (not_not.mpr hkey.symm), if_neg hopen]
  exact ⟨_, rfl, hgap, hquestion, hkey, rfl, rfl⟩

/-- The intent gives a plan for the same gap. -/
theorem generatePlan_spec (hopen : requirement.closureStatus ≠ .gapClosed)
    (hgap : intent.gapId = requirement.gapId)
    (hquestion : intent.questionId = requirement.questionId)
    (hkey : intent.dimensionKey = requirement.dimensionKey)
    (action : SuggestedResearchAction) :
    ∃ plan, generatePlan intent requirement action = .ok (some plan)
      ∧ plan.gapId = requirement.gapId
      ∧ plan.questionId = requirement.questionId
      ∧ plan.dimensionKey = requirement.dimensionKey
      ∧ plan.searchStrategyType = strategyForIntent intent.intentType
      ∧ plan.text = planText plan.searchStrategyType plan.dimensionKey
      ∧ plan.researchContext = meaningfulContext intent.researchContext := by
  unfold generatePlan
  rw [if_neg (not_not.mpr hgap.symm), if_neg (not_not.mpr hquestion.symm),
    if_neg (not_not.mpr hkey.symm), if_neg hopen]
  exact ⟨_, rfl, hgap, hquestion, hkey, rfl, rfl, rfl⟩

/-- The plan is validated against the requirement, whatever comes out. -/
theorem validatePlan_spec (hopen : requirement.closureStatus ≠ .gapClosed)
    (hgap : plan.gapId = requirement.gapId)
    (hquestion : plan.questionId = requirement.questionId)
    (hkey : plan.dimensionKey = requirement.dimensionKey) :
    ∃ validation, validatePlan plan requirement = .ok (some validation)
      ∧ validation.queryPlanId = plan.queryPlanId
      ∧ validation.gapId = requirement.gapId
      ∧ (validation.alignment.status = .valid
        ↔ plan.searchStrategyType
          = (expectedStrategy requirement.requirementType).1) := by
  unfold validatePlan
  rw [if_neg hopen, if_neg (not_not.mpr hgap),
    if_neg (not_not.mpr hquestion), if_neg (not_not.mpr hkey)]
  refine ⟨_, rfl, rfl, rfl, ?_⟩
  dsimp only
  unfold evaluateAlignment
  split
  case isTrue h => exact ⟨fun _ => h, fun _ => rfl⟩
  case isFalse h =>
    refine ⟨fun hvalid => ?_, fun heq => absurd heq h⟩
    split at hvalid
    · cases hvalid
    · split at hvalid <;> cases hvalid

/-- A plan that does not fit its requirement gives no candidate. -/
theorem generateCandidate_invalid
    (h : validation.alignment.status ≠ .valid) :
    generateCandidate plan requirement validation feedback = .ok none := by
  unfold generateCandidate
  by_cases hclosed : requirement.closureStatus = .gapClosed
  · rw [if_pos hclosed]
  · rw [if_neg hclosed, if_pos h]

/-- One that fits gives a candidate for the same gap. -/
theorem generateCandidate_spec (feedback : ClosureFeedback)
    (hopen : requirement.closureStatus ≠ .gapClosed)
    (hvalid : validation.alignment.status = .valid)
    (hplan : validation.queryPlanId = plan.queryPlanId)
    (hvalidation : validation.gapId = requirement.gapId)
    (hgap : plan.gapId = requirement.gapId)
    (hquestion : plan.questionId = requirement.questionId)
    (hkey : plan.dimensionKey = requirement.dimensionKey) :
    ∃ candidate,
      generateCandidate plan requirement validation feedback
          = .ok (some candidate)
        ∧ candidate.researchQueryPlanId = plan.queryPlanId
        ∧ candidate.gapId = requirement.gapId
        ∧ candidate.questionId = requirement.questionId
        ∧ candidate.dimensionKey = requirement.dimensionKey
        ∧ candidate.queryText = candidateQuery plan.searchStrategyType
          requirement.dimensionKey plan.researchContext
        ∧ candidate.preferredSourceTypes = plan.text.sourceTypes
        ∧ candidate.avoidPreviousFailureReason = feedback.failureReason := by
  unfold generateCandidate
  rw [if_neg hopen, if_neg (not_not.mpr hvalid), if_neg (not_not.mpr hplan),
    if_neg (not_not.mpr (hvalidation.trans hgap.symm)),
    if_neg (not_not.mpr hgap.symm), if_neg (not_not.mpr hquestion.symm),
    if_neg (not_not.mpr hkey.symm)]
  dsimp only
  rw [dif_pos (nonblank_candidateQuery _ _ _)]
  exact ⟨_, rfl, rfl, hgap, hquestion, hkey, by rw [hkey], rfl, rfl⟩

theorem validateCandidate_spec
    (hopen : requirement.closureStatus ≠ .gapClosed)
    (hplan : candidate.researchQueryPlanId = plan.queryPlanId)
    (hgap : candidate.gapId = requirement.gapId)
    (hquestion : candidate.questionId = requirement.questionId)
    (hkey : candidate.dimensionKey = requirement.dimensionKey)
    (hgap' : plan.gapId = requirement.gapId)
    (hquestion' : plan.questionId = requirement.questionId)
    (hkey' : plan.dimensionKey = requirement.dimensionKey) :
    ∃ validation, validateCandidate candidate plan requirement
        = .ok (some validation)
      ∧ validation.queryCandidateId = candidate.queryCandidateId
      ∧ validation.alignment
        = evaluateCandidate requirement.requirementType candidate := by
  have hgaps : ¬ (candidate.gapId ≠ plan.gapId
      ∨ plan.gapId ≠ requirement.gapId) := by
    simp [hgap, hgap']
  unfold validateCandidate
  rw [if_neg hopen, if_neg (not_not.mpr hplan), if_neg hgaps,
    if_neg (not_not.mpr (hquestion.trans hquestion'.symm)),
    if_neg (not_not.mpr hquestion'),
    if_neg (not_not.mpr (hkey.trans hkey'.symm)),
    if_neg (not_not.mpr hkey')]
  exact ⟨_, rfl, rfl, rfl⟩

/-- A request is made exactly of a candidate that is valid. -/
theorem createRequest_spec (hopen : requirement.closureStatus ≠ .gapClosed)
    {validation : QueryCandidateValidation}
    (hcandidate : validation.queryCandidateId = candidate.queryCandidateId)
    (context : FeedbackExecutionContext) :
    ∃ outcome, createRequest candidate validation
        (rankCandidate candidate requirement) requirement context
          = .ok outcome
      ∧ (outcome.isSome = true ↔ validation.alignment.status = .valid)
      ∧ ∀ request, outcome = some request →
        request.gapId = candidate.gapId
          ∧ request.questionId = candidate.questionId
          ∧ request.dimensionKey = candidate.dimensionKey
          ∧ request.queryText = candidate.queryText
          ∧ request.feedbackId = context.feedbackId
          ∧ request.feedbackExecutionId = context.feedbackExecutionId
          ∧ request.triggerReason = candidate.avoidPreviousFailureReason := by
  have hrank : rankCandidate candidate requirement
      = some ⟨candidate.queryCandidateId, 1⟩ := if_neg hopen
  unfold createRequest evaluateExecution
  rw [if_neg hopen, if_neg (not_not.mpr hcandidate), hrank]
  by_cases hinvalid : validation.alignment.status = .invalid
  · rw [if_pos hinvalid]
    refine ⟨none, rfl, ?_, fun request h => by cases h⟩
    simp [hinvalid]
  · rw [if_neg hinvalid]
    by_cases hvalid : validation.alignment.status = .valid
    · rw [if_neg (not_not.mpr hvalid)]
      dsimp only
      rw [if_neg (not_not.mpr rfl)]
      refine ⟨_, rfl, by simp [hvalid], fun request h => ?_⟩
      cases h
      exact ⟨rfl, rfl, rfl, rfl, rfl, rfl, rfl⟩
    · rw [if_pos hvalid]
      refine ⟨none, rfl, ?_, fun request h => by cases h⟩
      simp [hvalid]

end

-- ============================================================= the pipeline

/-- The reasons for which a requirement of a type is searched for. -/
def searchedFor : GapRequirementType → ClosureFeedbackReason → Bool
  | .independentSource, .missingIndependentSource => true
  | .claimVerification, .claimNotVerified => true
  | .evidenceQuality, .insufficientEvidence => true
  | .evidenceQuality, .evidenceQualityLow => true
  | .dimensionCoverage, .dimensionMismatch => true
  | _, _ => false

/-- The strategy of a query for a reason. -/
def strategyForReason (reason : ClosureFeedbackReason) :
    ResearchQueryPlanStrategy :=
  strategyForIntent (intentTypeForAction (actionTypeForNeed
    (needTypeForReason reason)))

/-- The strategy of the reason is that of the requirement exactly where the
reason is one the requirement is searched for. -/
theorem strategyForReason_iff (requirementType : GapRequirementType)
    (reason : ClosureFeedbackReason) :
    strategyForReason reason = (expectedStrategy requirementType).1
      ↔ searchedFor requirementType reason = true := by
  cases requirementType <;> cases reason <;> decide

/-- The query of a dimension names it, up to case. Behind white space that
the hints have collapsed it need not. -/
def NamesDimension (key : String) (context : ResearchContext) : Prop :=
  textIn (CaseFolding.casefold key.toList)
    (CaseFolding.casefold
      (candidateQuery .dimensionCompletion key (some context))) = true

/-- A feedback that the generators write for a requirement. -/
structure ClosureFeedback.Explains (feedback : ClosureFeedback)
    (requirement : GapRequirement) : Prop where
  gapId : feedback.gapId = requirement.gapId
  need : feedback.recommendedNeedType
    = needTypeForReason feedback.failureReason

section

variable {requirement : GapRequirement} {feedback : ClosureFeedback}
  {candidate : QueryCandidate} {context : ResearchContext}

/-- A query is made from the meaningful part of the context. -/
theorem candidateQuery_meaningful (strategy : ResearchQueryPlanStrategy)
    (key : String) (context : Option ResearchContext) :
    candidateQuery strategy key (meaningfulContext context)
      = candidateQuery strategy key context := by
  unfold candidateQuery
  rw [meaningfulContext_idem]

theorem mentionsAny_of_mem {text : QueryText} {term : String}
    {terms : List String} (hmem : term ∈ terms)
    (hterm : textIn term.toList text = true) :
    mentionsAny text terms = true :=
  List.any_eq_true.mpr ⟨term, hmem, hterm⟩

/-- A candidate of the strategy for its requirement is about it; of a
dimension, if it names it. -/
theorem evaluateCandidate_valid_iff
    (requirementType : GapRequirementType)
    (hsources : candidate.preferredSourceTypes
      = (planText (expectedStrategy requirementType).1
          candidate.dimensionKey).sourceTypes)
    (htext : candidate.queryText
      = candidateQuery (expectedStrategy requirementType).1
        candidate.dimensionKey (some context)) :
    (evaluateCandidate requirementType candidate).status = .valid
      ↔ (requirementType = .dimensionCoverage →
        NamesDimension candidate.dimensionKey context) := by
  unfold evaluateCandidate
  rw [hsources, htext]
  cases requirementType with
  -- Only this strategy has no words of its own that the evaluation looks
  -- for.
  | dimensionCoverage =>
      dsimp only [expectedStrategy]
      unfold NamesDimension
      split
      case isTrue h =>
        refine iff_of_true rfl ?_
        intro _
        exact h
      case isFalse h =>
        refine iff_of_false (fun hvalid => ?_) (fun hnames => h (hnames rfl))
        cases hvalid
  | independentSource =>
      have hmentions : mentionsAny
          (CaseFolding.casefold (candidateQuery .independentSourceDiscovery
            candidate.dimensionKey (some context)))
          ["industry", "report", "statistics", "third party", "analysis"]
          = true := by
        apply mentionsAny_of_mem (List.mem_cons_of_mem _ List.mem_cons_self)
        exact textIn_candidateQuery (by decide) (by decide)
      simp [expectedStrategy, planText, hmentions]
  | claimVerification =>
      have hmentions : mentionsAny
          (CaseFolding.casefold (candidateQuery .claimValidation
            candidate.dimensionKey (some context)))
          ["claim", "verification", "official", "documentation",
            "technical"] = true := by
        apply mentionsAny_of_mem List.mem_cons_self
        exact textIn_candidateQuery (by decide) (by decide)
      simp [expectedStrategy, planText, hmentions]
  | evidenceQuality =>
      have hmentions : mentionsAny
          (CaseFolding.casefold (candidateQuery .evidenceUpgrade
            candidate.dimensionKey (some context)))
          ["primary", "official", "authoritative"] = true := by
        apply mentionsAny_of_mem List.mem_cons_self
        exact textIn_candidateQuery (by decide) (by decide)
      simp [expectedStrategy, hmentions, planAlignedCandidate]

/-- What a request tells of the feedback it was made for. -/
structure QueryExecutionRequest.Answers (request : QueryExecutionRequest)
    (feedback : ClosureFeedback) (requirement : GapRequirement) : Prop where
  gapId : request.gapId = requirement.gapId
  questionId : request.questionId = requirement.questionId
  dimensionKey : request.dimensionKey = requirement.dimensionKey
  feedbackId : request.feedbackId = feedback.feedbackId
  triggerReason : request.triggerReason = feedback.failureReason
  queryText : request.queryText
    = candidateQuery (strategyForReason feedback.failureReason)
      requirement.dimensionKey (some feedback.metadata)

/-- The condition for a feedback of a requirement to be searched for. -/
def Searched (feedback : ClosureFeedback) (requirement : GapRequirement) :
    Prop :=
  searchedFor requirement.requirementType feedback.failureReason = true
    ∧ (requirement.requirementType = .dimensionCoverage →
      NamesDimension requirement.dimensionKey feedback.metadata)

/-- The loops end in a request exactly where a search is due. -/
theorem feedbackRequest_spec
    (hopen : requirement.closureStatus ≠ .gapClosed)
    (hexplains : feedback.Explains requirement)
    {need : ResearchNeed} {action : SuggestedResearchAction}
    (hneed : generateNeed requirement feedback = some need)
    (haction : generateAction need requirement feedback
      = .ok (some action)) :
    ∃ outcome, (feedbackRequest feedback requirement need action).run
        = .ok outcome
      ∧ (outcome.isSome = true ↔ Searched feedback requirement)
      ∧ ∀ request, outcome = some request →
        request.Answers feedback requirement := by
  -- What the need and the action carry.
  obtain ⟨need', hneed', hngap, hnquestion, hnkey, hntype, hncontext⟩ :=
    generateNeed_spec feedback hopen
  cases hneed.symm.trans hneed'
  obtain ⟨action', haction', hagap, haquestion, hakey, hatype⟩ :=
    generateAction_spec feedback hopen hngap
  cases haction.symm.trans haction'
  -- The intent and the plan.
  obtain ⟨intent, hintent, higap, hiquestion, hikey, hitype, hicontext⟩ :=
    generateIntent_spec hopen (hagap.trans hngap)
      (haquestion.trans hnquestion) (hakey.trans hnkey)
      need.researchContext
  obtain ⟨plan, hplan, hpgap, hpquestion, hpkey, hpstrategy, hptext,
    hpcontext⟩ := generatePlan_spec hopen higap hiquestion hikey action
  have hstrategy : plan.searchStrategyType
      = strategyForReason feedback.failureReason := by
    rw [hpstrategy, hitype, hatype, hntype, hexplains.need]
    rfl
  obtain ⟨validation, hvalidation, hvplan, hvgap, hvalid⟩ :=
    validatePlan_spec hopen hpgap hpquestion hpkey
  rw [hstrategy, strategyForReason_iff] at hvalid
  unfold feedbackRequest
  rw [Outcome.run_bind_some hintent, Outcome.run_bind_some hplan,
    Outcome.run_bind_some hvalidation]
  by_cases hsearched : searchedFor requirement.requirementType
      feedback.failureReason = true
  · -- The strategy is the expected one, so there is a candidate.
    obtain ⟨candidate, hcandidate, hcplan, hcgap, hcquestion, hckey, hctext,
      hcsources, hcreason⟩ := generateCandidate_spec feedback hopen
        (hvalid.mpr hsearched) hvplan hvgap hpgap hpquestion hpkey
    obtain ⟨checked, hchecked, hcheckedId, halignment⟩ :=
      validateCandidate_spec hopen hcplan hcgap hcquestion hckey hpgap
        hpquestion hpkey
    rw [Outcome.run_bind_some hcandidate, Outcome.run_bind_some hchecked]
    obtain ⟨outcome, hrun, hsome, hrequest⟩ := createRequest_spec hopen
      hcheckedId (createContext feedback need candidate)
    have hquery : candidate.queryText
        = candidateQuery (strategyForReason feedback.failureReason)
          requirement.dimensionKey (some feedback.metadata) := by
      rw [hctext, hstrategy, hpcontext, candidateQuery_meaningful,
        hicontext, candidateQuery_meaningful, hncontext]
    have hexpected := (strategyForReason_iff _ _).mpr hsearched
    have hstatus :
        (evaluateCandidate requirement.requirementType candidate).status
            = .valid
          ↔ (requirement.requirementType = .dimensionCoverage →
            NamesDimension candidate.dimensionKey feedback.metadata) := by
      apply evaluateCandidate_valid_iff
      · rw [hcsources, hptext, hstrategy, hexpected, hckey, hpkey]
      · rw [hquery, hexpected, hckey]
    refine ⟨outcome, hrun, ?_, fun request heq => ?_⟩
    · rw [hsome, halignment, hstatus, hckey]
      exact ⟨fun h => ⟨hsearched, h⟩, fun h => h.2⟩
    · obtain ⟨hgap, hquestion, hkey, htext, hfeedback, -, hreason⟩ :=
        hrequest request heq
      exact ⟨hgap.trans hcgap, hquestion.trans hcquestion,
        hkey.trans hckey, hfeedback, hreason.trans hcreason,
        htext.trans hquery⟩
  · -- Another strategy: the plan is not valid.
    have hinvalid : validation.alignment.status ≠ .valid :=
      fun h => hsearched (hvalid.mp h)
    rw [Outcome.run_bind_none (generateCandidate_invalid hinvalid)]
    refine ⟨none, rfl, ?_, fun request heq => by cases heq⟩
    refine iff_of_false (by simp) (fun h => hsearched h.1)

/-- A feedback that is dispatched for the first time becomes a need and an
action of its requirement. -/
theorem dispatchFeedback_created
    (hopen : requirement.closureStatus ≠ .gapClosed)
    (hgap : feedback.gapId = requirement.gapId)
    {alreadyDispatched : List FeedbackId}
    (hnew : feedback.feedbackId ∉ alreadyDispatched) :
    ∃ need action, generateNeed requirement feedback = some need
      ∧ generateAction need requirement feedback = .ok (some action)
      ∧ dispatchFeedback alreadyDispatched feedback requirement
        = .ok { dispatchVerdict feedback .created "research_need_created" with
            researchNeed := some need
            suggestedAction := some action } := by
  obtain ⟨need, hneed, hngap, -⟩ := generateNeed_spec feedback hopen
  obtain ⟨action, haction, -⟩ := generateAction_spec feedback hopen hngap
  refine ⟨need, action, hneed, haction, ?_⟩
  unfold dispatchFeedback
  rw [if_neg hopen, if_neg (not_not.mpr hgap), if_neg hnew, hneed]
  dsimp only
  rw [haction]
  rfl

end

-- ============================================================= the theorems

/-- A feedback of an open requirement, dispatched for the first time,
always becomes a need and an action, and no generator behind them raises.
A request is made exactly where the reason is one that the requirement's
type is searched for, and a dimension is named by its query; it carries
the gap, the question, the feedback and the reason it comes from. -/
theorem feedback_request_iff {requirement : GapRequirement}
    {feedback : ClosureFeedback} {alreadyDispatched : List FeedbackId}
    (hopen : requirement.closureStatus ≠ .gapClosed)
    (hexplains : feedback.Explains requirement)
    (hnew : feedback.feedbackId ∉ alreadyDispatched) :
    ∃ need action,
      dispatchFeedback alreadyDispatched feedback requirement
          = .ok { dispatchVerdict feedback .created
              "research_need_created" with
            researchNeed := some need
            suggestedAction := some action }
        ∧ ∃ outcome,
          (feedbackRequest feedback requirement need action).run
              = .ok outcome
            ∧ (outcome.isSome = true ↔ Searched feedback requirement)
            ∧ ∀ request, outcome = some request →
              request.Answers feedback requirement := by
  obtain ⟨need, action, hneed, haction, hdispatch⟩ :=
    dispatchFeedback_created hopen hexplains.gapId hnew
  exact ⟨need, action, hdispatch,
    feedbackRequest_spec hopen hexplains hneed haction⟩

/-- A requirement for two sources that has evidence from one. -/
def shortOfSources : GapRequirement where
  gapId := ⟨Run.sampleRunId, 1, "q1:d1"⟩
  runId := Run.sampleRunId
  questionId := "q1"
  dimensionKey := "q1:d1"
  requirementType := .independentSource
  criterion := "Two independent sources."
  requiredEvidenceCount := 1
  requiredIndependentSources := 2
  currentEvidenceCount := 1
  currentIndependentSources := 1
  verificationStatus := .required
  closureStatus := .gapPartial
  createdAt := 0
  updatedAt := 0
  stateVersion := 1
  stateVersion_pos := Nat.one_pos
  planVersion_pos := Nat.one_pos

/-- Its feedback after an evaluation. -/
def shortOfSourcesFeedback : ClosureFeedback where
  feedbackId := ⟨.closure, shortOfSources.gapId, 1, .missingIndependentSource⟩
  runId := Run.sampleRunId
  questionId := "q1"
  gapId := shortOfSources.gapId
  dimensionKey := "q1:d1"
  requirementType := .independentSource
  previousStatus := .gapOpen
  currentStatus := .gapPartial
  closureResult := .gapPartial
  failureReason := .missingIndependentSource
  missingRequirement := "independent_source"
  recommendedNeedType := .independentSource
  missingRequirement_nonblank := by decide

theorem feedback_request_iff_sources :
    ∃ need action outcome,
      (feedbackRequest shortOfSourcesFeedback shortOfSources need
          action).run = .ok (some outcome)
        ∧ outcome.Answers shortOfSourcesFeedback shortOfSources := by
  have hopen : shortOfSources.closureStatus ≠ .gapClosed := by decide
  have hexplains : shortOfSourcesFeedback.Explains shortOfSources :=
    ⟨rfl, rfl⟩
  have hnew : shortOfSourcesFeedback.feedbackId ∉ ([] : List FeedbackId) :=
    List.not_mem_nil
  obtain ⟨need, action, -, outcome, hrun, hsome, hrequest⟩ :=
    feedback_request_iff hopen hexplains hnew
  have hsearched : Searched shortOfSourcesFeedback shortOfSources :=
    ⟨rfl, fun htype => by cases htype⟩
  obtain ⟨request, rfl⟩ := Option.isSome_iff_exists.mp (hsome.mpr hsearched)
  exact ⟨need, action, request, hrun, hrequest request rfl⟩

/-- Where the counts of a requirement, and not an alignment, tell what is
missing: the requirements whose completeness feedback is searched for. -/
def SearchedFrom (requirement : GapRequirement) : Prop :=
  match requirement.requirementType with
  | .evidenceQuality =>
      requirement.requiredEvidenceCount ≤ requirement.currentEvidenceCount →
        requirement.requiredIndependentSources
          ≤ requirement.currentIndependentSources
  | .independentSource =>
      requirement.requiredEvidenceCount ≤ requirement.currentEvidenceCount
        ∧ requirement.currentIndependentSources
          < requirement.requiredIndependentSources
  | .claimVerification =>
      requirement.requiredEvidenceCount ≤ requirement.currentEvidenceCount
        ∧ requirement.requiredIndependentSources
          ≤ requirement.currentIndependentSources
        ∧ requirement.verificationStatus ≠ .verified
  | .dimensionCoverage => False

theorem searched_completeness_iff {requirement : GapRequirement}
    {feedback : ClosureFeedback}
    (hreason : feedback.failureReason
      = deriveFeedbackReason requirement none) :
    Searched feedback requirement ↔ SearchedFrom requirement := by
  unfold Searched SearchedFrom
  rw [hreason]
  unfold deriveFeedbackReason
  by_cases hevidence : requirement.currentEvidenceCount
      < requirement.requiredEvidenceCount
  · rw [if_pos hevidence]
    cases htype : requirement.requirementType <;>
      simp [searchedFor, hevidence]
  · rw [if_neg hevidence]
    by_cases hsources : requirement.currentIndependentSources
        < requirement.requiredIndependentSources
    · rw [if_pos hsources]
      cases htype : requirement.requirementType <;>
        simp [searchedFor, hsources, not_lt.mp hevidence]
    · rw [if_neg hsources]
      cases htype : requirement.requirementType <;>
        by_cases hverified : requirement.verificationStatus = .verified <;>
        simp [searchedFor, hverified, hsources, not_lt.mp hevidence,
          not_lt.mp hsources]

/-- The feedback that a requirement gets where no evaluation has explained
it. -/
theorem generateCompletenessFeedback_spec {requirement : GapRequirement}
    (hopen : requirement.closureStatus ≠ .gapClosed)
    (hkey : Nonblank requirement.dimensionKey.toList)
    (alignmentStatus : Option EvidenceAlignmentStatus) :
    ∃ feedback, generateCompletenessFeedback requirement alignmentStatus
        = .ok (some feedback)
      ∧ feedback.Explains requirement
      ∧ feedback.feedbackId = ⟨.completeness, requirement.gapId,
        requirement.stateVersion,
        deriveFeedbackReason requirement alignmentStatus⟩
      ∧ feedback.failureReason
        = deriveFeedbackReason requirement alignmentStatus
      ∧ feedback.questionId = requirement.questionId := by
  have hmissing : Nonblank (completenessMissing requirement
      (deriveFeedbackReason requirement alignmentStatus)).toList := by
    unfold completenessMissing
    split
    · decide
    · split
      · decide
      · exact hkey
  unfold generateCompletenessFeedback
  rw [if_neg hopen]
  dsimp only
  rw [dif_pos hmissing]
  exact ⟨_, rfl, ⟨rfl, rfl⟩, rfl, rfl, rfl⟩

/-- The feedback that the completeness pass and the finalization write for
an open gap leads to a request exactly for the requirements of
`SearchedFrom`. For a gap with no evidence it does only if the type is
`EVIDENCE_QUALITY`, and for a dimension it never does. -/
theorem completeness_request_iff {requirement : GapRequirement}
    {alreadyDispatched : List FeedbackId}
    (hopen : requirement.closureStatus ≠ .gapClosed)
    (hkey : Nonblank requirement.dimensionKey.toList)
    (hnew : ∀ id ∈ alreadyDispatched, id.gapId ≠ requirement.gapId) :
    ∃ feedback need action outcome,
      generateCompletenessFeedback requirement none = .ok (some feedback)
        ∧ dispatchFeedback alreadyDispatched feedback requirement
          = .ok { dispatchVerdict feedback .created
              "research_need_created" with
            researchNeed := some need
            suggestedAction := some action }
        ∧ (feedbackRequest feedback requirement need action).run
          = .ok outcome
        ∧ (outcome.isSome = true ↔ SearchedFrom requirement) := by
  obtain ⟨feedback, hfeedback, hexplains, hid, hreason, -⟩ :=
    generateCompletenessFeedback_spec hopen hkey none
  have hfresh : feedback.feedbackId ∉ alreadyDispatched := by
    intro hmem
    apply hnew _ hmem
    rw [hid]
  obtain ⟨need, action, hdispatch, outcome, hrun, hsome, -⟩ :=
    feedback_request_iff hopen hexplains hfresh
  rw [searched_completeness_iff hreason] at hsome
  exact ⟨feedback, need, action, outcome, hfeedback, hdispatch, hrun, hsome⟩

theorem completeness_request_iff_sources :
    ∃ feedback need action request,
      generateCompletenessFeedback shortOfSources none = .ok (some feedback)
        ∧ (feedbackRequest feedback shortOfSources need action).run
          = .ok (some request) := by
  have hopen : shortOfSources.closureStatus ≠ .gapClosed := by decide
  have hkey : Nonblank shortOfSources.dimensionKey.toList := by decide
  obtain ⟨feedback, need, action, outcome, hfeedback, -, hrun, hsome⟩ :=
    completeness_request_iff hopen hkey
      (show ∀ id ∈ ([] : List FeedbackId), id.gapId ≠ shortOfSources.gapId
        from fun id hid => absurd hid List.not_mem_nil)
  have hsearched : SearchedFrom shortOfSources :=
    ⟨by decide, by decide⟩
  obtain ⟨request, rfl⟩ := Option.isSome_iff_exists.mp (hsome.mpr hsearched)
  exact ⟨feedback, need, action, request, hfeedback, hrun⟩

end DeepResearch.Gap
