/-
Why a gap is still open (`closure_feedback.py`,
`closure_feedback_completeness.py`, `closure_feedback_completeness_pass.py`,
`run_closure_feedback_finalizer.py`).

A closure feedback names the one reason for which a requirement is not
closed, and the kind of research that would help. It is written in two
ways: from the result of a closure evaluation, and from the requirement
alone, for a gap that no evaluation has explained (`completeness`). The
pass over a question and the finalization of a run do the latter for
every gap that has no feedback yet.

An id is the `uuid5` of a name; here the name stands for it. Timestamps
and evaluation ids are left out, and of a feedback's metadata there is
the `ResearchContext` that is read off it.
-/
import DeepResearch.Gap.Requirements
import DeepResearch.Search.ContextEnricher

namespace DeepResearch.Gap

open DeepResearch.Run (RunId strip)
open DeepResearch.Search (ResearchContext)

-- ============================================================== the reasons

/-- `ClosureFeedbackReason`. -/
inductive ClosureFeedbackReason
  | missingIndependentSource
  | claimNotVerified
  | insufficientEvidence
  | evidenceQualityLow
  | dimensionMismatch
  | noValidPath
  | unknown
  deriving DecidableEq, Repr

/-- The values of `ClosureFeedbackReason`. -/
def ClosureFeedbackReason.value : ClosureFeedbackReason → String
  | .missingIndependentSource => "missing_independent_source"
  | .claimNotVerified => "claim_not_verified"
  | .insufficientEvidence => "insufficient_evidence"
  | .evidenceQualityLow => "evidence_quality_low"
  | .dimensionMismatch => "dimension_mismatch"
  | .noValidPath => "no_valid_path"
  | .unknown => "unknown"

/-- `ResearchNeedType`. -/
inductive ResearchNeedType
  | additionalSource
  | independentSource
  | claimVerification
  | evidenceQuality
  | missingData
  | dimensionCoverage
  | unknown
  deriving DecidableEq, Repr

/-- `need_type_for_reason`. -/
def needTypeForReason : ClosureFeedbackReason → ResearchNeedType
  | .missingIndependentSource => .independentSource
  | .claimNotVerified => .claimVerification
  | .insufficientEvidence => .evidenceQuality
  | .evidenceQualityLow => .evidenceQuality
  | .dimensionMismatch => .dimensionCoverage
  | .noValidPath => .additionalSource
  | .unknown => .unknown

-- ============================================================= the feedback

/-- The two names that feedback ids are made from. -/
inductive FeedbackPath
  | closure
  | completeness
  deriving DecidableEq, Repr

/-- The id of a feedback. -/
structure FeedbackId where
  path : FeedbackPath
  gapId : GapId
  stateVersion : Nat
  reason : ClosureFeedbackReason
  deriving DecidableEq

/-- A text that `strip` does not empty. -/
def Nonblank (text : List Char) : Prop := strip text ≠ []

instance decidableNonblank (text : List Char) : Decidable (Nonblank text) := by
  unfold Nonblank
  infer_instance

/-- `ClosureFeedback`. -/
structure ClosureFeedback where
  feedbackId : FeedbackId
  runId : RunId
  questionId : String
  gapId : GapId
  dimensionKey : String
  requirementType : GapRequirementType
  previousStatus : GapClosureStatus
  currentStatus : GapClosureStatus
  closureResult : GapClosureStatus
  failureReason : ClosureFeedbackReason
  missingRequirement : String
  recommendedNeedType : ResearchNeedType
  metadata : ResearchContext := {}
  missingRequirement_nonblank : Nonblank missingRequirement.toList
  deriving DecidableEq

/-- The `ValueError` of `ClosureFeedback.__post_init__`. -/
def missingRequirementEmpty : String :=
  "closure feedback missing requirement must not be empty"

-- =========================================== after a closure evaluation

/-- `ClosureEvaluationResult`, less its id. -/
structure ClosureEvaluationResult where
  beforeStatus : GapClosureStatus
  afterStatus : GapClosureStatus
  closureStatus : GapClosureStatus
  transitionReason : String
  alignedEvidenceCount : Nat
  partialEvidenceCount : Nat
  remainingRequirements : List String
  stateVersion : Nat
  deriving DecidableEq, Repr

/-- `ClosureEvaluationExecution`: the requirement that comes out of an
evaluation, and what is told of it. -/
structure ClosureEvaluationExecution where
  requirement : GapRequirement
  result : ClosureEvaluationResult

/-- `raw_status` and `reason` of `ClosureEvaluator.evaluate`. -/
def rawClosure (context : ClosureEvaluationContext)
    (requirement : GapRequirement) : GapClosureStatus × String :=
  if requirement.closureStatus = .gapClosed then
    (.gapClosed, "closed_state_immutable")
  else
    let evaluation := ClosureEvaluation.evaluate requirement
      context.beforeSnapshot (afterSnapshot context requirement)
    if closureRank evaluation.closureStatus
        < closureRank requirement.closureStatus then
      (requirement.closureStatus, "existing_closure_state_preserved")
    else
      (evaluation.closureStatus, transitionReason context evaluation.reason)

/-- `_remaining_requirements`. -/
def remainingRequirements (requirement : GapRequirement)
    (context : ClosureEvaluationContext) (status : GapClosureStatus) :
    List String :=
  if status = .gapClosed then []
  else if requirement.requirementType = .independentSource
      ∧ context.independentSourceCount
        < requirement.requiredIndependentSources then
    ["independent_source"]
  else if requirement.requirementType = .claimVerification
      ∧ context.independentSourceCount
        < requirement.requiredIndependentSources then
    ["claim_verification"]
  else [requirement.dimensionKey]

/-- `ClosureEvaluator.evaluate`, with its result. -/
def closureExecution (context : ClosureEvaluationContext)
    (requirement : GapRequirement) (now : Nat) :
    Except ClosureError ClosureEvaluationExecution :=
  (closureEvaluatorEvaluate context requirement now).map fun after =>
    { requirement := after
      result :=
        { beforeStatus := requirement.closureStatus
          afterStatus := after.closureStatus
          closureStatus := (rawClosure context requirement).1
          transitionReason := (rawClosure context requirement).2
          alignedEvidenceCount := context.alignedEvidenceCount
          partialEvidenceCount := context.partialEvidenceCount
          remainingRequirements :=
            remainingRequirements requirement context after.closureStatus
          stateVersion := after.stateVersion } }

/-- `_feedback_reason`. -/
def feedbackReason (result : ClosureEvaluationResult) :
    ClosureFeedbackReason :=
  if result.transitionReason = "missing_independent_source" then
    .missingIndependentSource
  else if result.transitionReason = "claim_verification_required" then
    .claimNotVerified
  else if result.transitionReason = "dimension_mismatch" then
    .dimensionMismatch
  else if result.transitionReason = "insufficient_evidence" then
    .insufficientEvidence
  else if result.transitionReason = "requirement_not_satisfied" then
    if result.alignedEvidenceCount = 0 ∧ result.partialEvidenceCount = 0 then
      .noValidPath
    else .insufficientEvidence
  else if result.transitionReason
      = "evidence_or_verification_progress_without_closure" then
    .insufficientEvidence
  else .unknown

/-- `_missing_requirement` of `closure_feedback.py`. -/
def missingRequirement (requirement : GapRequirement)
    (result : ClosureEvaluationResult) (reason : ClosureFeedbackReason) :
    String :=
  if reason = .missingIndependentSource then "independent_source"
  else if reason = .claimNotVerified then "claim_verification"
  else result.remainingRequirements.head?.getD requirement.dimensionKey

/-- `ClosureFeedbackGenerator.generate`, and the metadata that
`_emit_closure_feedback_chain` replaces. A closed gap has none. -/
def generateClosureFeedback (execution : ClosureEvaluationExecution)
    (metadata : ResearchContext) : Except String (Option ClosureFeedback) :=
  let requirement := execution.requirement
  let result := execution.result
  if result.afterStatus = .gapClosed then .ok none
  else
    let reason := feedbackReason result
    if h : Nonblank (missingRequirement requirement result reason).toList then
      .ok (some
        { feedbackId :=
            ⟨.closure, requirement.gapId, result.stateVersion, reason⟩
          runId := requirement.runId
          questionId := requirement.questionId
          gapId := requirement.gapId
          dimensionKey := requirement.dimensionKey
          requirementType := requirement.requirementType
          previousStatus := result.beforeStatus
          currentStatus := result.afterStatus
          closureResult := result.closureStatus
          failureReason := reason
          missingRequirement := missingRequirement requirement result reason
          recommendedNeedType := needTypeForReason reason
          metadata
          missingRequirement_nonblank := h })
    else .error missingRequirementEmpty

-- ======================================================= from a requirement

/-- `derive_feedback_reason`. No status is an alignment that is
`UNKNOWN`, which the two callers leave it at. -/
def deriveFeedbackReason (requirement : GapRequirement)
    (alignmentStatus : Option EvidenceAlignmentStatus) :
    ClosureFeedbackReason :=
  if requirement.currentEvidenceCount
      < requirement.requiredEvidenceCount then
    .insufficientEvidence
  else if requirement.currentIndependentSources
      < requirement.requiredIndependentSources then
    .missingIndependentSource
  else if requirement.requirementType = .claimVerification
      ∧ requirement.verificationStatus ≠ .verified then
    .claimNotVerified
  else if alignmentStatus = some .notAligned then .dimensionMismatch
  else if alignmentStatus = some .partlyAligned then .evidenceQualityLow
  else if requirement.requirementType = .evidenceQuality then
    .evidenceQualityLow
  else .noValidPath

/-- `_missing_requirement` of `closure_feedback_completeness.py`. -/
def completenessMissing (requirement : GapRequirement)
    (reason : ClosureFeedbackReason) : String :=
  if reason = .missingIndependentSource then "independent_source"
  else if reason = .claimNotVerified then "claim_verification"
  else requirement.dimensionKey

/-- `generate_completeness_feedback`. -/
def generateCompletenessFeedback (requirement : GapRequirement)
    (alignmentStatus : Option EvidenceAlignmentStatus) :
    Except String (Option ClosureFeedback) :=
  if requirement.closureStatus = .gapClosed then .ok none
  else
    let reason := deriveFeedbackReason requirement alignmentStatus
    if h : Nonblank (completenessMissing requirement reason).toList then
      .ok (some
        { feedbackId := ⟨.completeness, requirement.gapId,
            requirement.stateVersion, reason⟩
          runId := requirement.runId
          questionId := requirement.questionId
          gapId := requirement.gapId
          dimensionKey := requirement.dimensionKey
          requirementType := requirement.requirementType
          previousStatus := requirement.closureStatus
          currentStatus := requirement.closureStatus
          closureResult := requirement.closureStatus
          failureReason := reason
          missingRequirement := completenessMissing requirement reason
          recommendedNeedType := needTypeForReason reason
          missingRequirement_nonblank := h })
    else .error missingRequirementEmpty

-- ==================================================== the pass and the end

/-- The mapping from a gap to the feedback it has: the first one. -/
abbrev FeedbackIds := List (GapId × FeedbackId)

/-- `mapping.get(gap_id)`. -/
def FeedbackIds.get? (existing : FeedbackIds) (gapId : GapId) :
    Option FeedbackId :=
  (existing.find? (·.1 = gapId)).map (·.2)

/-- `FeedbackCompletenessPassStatus` of one gap, with its reason. -/
inductive CompletenessVerdict
  /-- `skipped`, "closed_gap" -/
  | closedGap
  /-- `skipped`, "feedback_exists" -/
  | feedbackExists (feedbackId : FeedbackId)
  /-- `skipped`, "no_feedback_generated" -/
  | noFeedbackGenerated
  /-- `generated`, "completeness_feedback_generated" -/
  | generated (feedback : ClosureFeedback)
  deriving DecidableEq

/-- The feedback of a verdict that generated one. -/
def CompletenessVerdict.feedback? : CompletenessVerdict →
    Option ClosureFeedback
  | .generated feedback => some feedback
  | _ => none

/-- One turn of `run_closure_feedback_completeness_pass`. -/
def completenessVerdict (existing : FeedbackIds)
    (requirement : GapRequirement) : Except String CompletenessVerdict :=
  if requirement.closureStatus = .gapClosed then .ok .closedGap
  else
    match existing.get? requirement.gapId with
    | some feedbackId => .ok (.feedbackExists feedbackId)
    | none =>
        (generateCompletenessFeedback requirement none).map fun feedback =>
          feedback.elim .noFeedbackGenerated .generated

/-- `run_closure_feedback_completeness_pass`: a verdict for each
requirement, in their order. -/
def completenessPass (requirements : List GapRequirement)
    (existing : FeedbackIds) : Except String (List CompletenessVerdict) :=
  requirements.mapM (completenessVerdict existing)

/-- `GapFinalizationAction` of one gap, with the terminal reason or the
feedback. -/
inductive FinalizationVerdict
  | existingComplete
  | existingFeedback (feedbackId : FeedbackId)
  | terminal (reason : String)
  | blocked
  | generatedFeedback (feedback : ClosureFeedback)
  deriving DecidableEq

/-- The feedback of a verdict that generated one. -/
def FinalizationVerdict.feedback? : FinalizationVerdict →
    Option ClosureFeedback
  | .generatedFeedback feedback => some feedback
  | _ => none

/-- `is_terminal_run_stop_reason`. -/
def isTerminalRunStopReason (reason : String) : Bool :=
  reason = "cancelled" || reason = "user_stopped"
    || "_exhausted".toList.isSuffixOf reason.toList

/-- One turn of `finalize_run_closure_feedback`. The terminal reason is
the same for every gap of the run. -/
def finalizationVerdict (existing : FeedbackIds)
    (terminalReason : Option String) (requirement : GapRequirement) :
    Except String FinalizationVerdict :=
  if requirement.closureStatus = .gapClosed then .ok .existingComplete
  else
    match existing.get? requirement.gapId, terminalReason with
    | some feedbackId, _ => .ok (.existingFeedback feedbackId)
    | none, some reason => .ok (.terminal reason)
    | none, none =>
        (generateCompletenessFeedback requirement none).map fun feedback =>
          feedback.elim .blocked .generatedFeedback

/-- `finalize_run_closure_feedback`. -/
def finalizeRunClosureFeedback (requirements : List GapRequirement)
    (existing : FeedbackIds) (terminalReason : Option String) :
    Except String (List FinalizationVerdict) :=
  requirements.mapM (finalizationVerdict existing terminalReason)

end DeepResearch.Gap
