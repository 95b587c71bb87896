/-
Gap requirements and their closure (`gap_closure.py`,
`gap_projection.py`, `closure_evaluator.py`,
`closure_evaluation_context.py`, `evidence_alignment.py`).

A requirement is OPEN, PARTIAL or CLOSED. Its status is computed in two
ways: from a before/after pair of facts (`ClosureEvaluation.evaluate`),
where anything that has moved counts as progress, and from the facts
alone (`project_gap_requirements`), which is the same evaluation against
the empty facts. Statuses are ordered, and a transition applied to one
record may only go up.

Counts are natural numbers and coverages lie between 0 and 1, by the
checks of the two `__post_init__` methods: a snapshot or a requirement
that fails them cannot be built. Evaluation ids and event records are
left out; nothing reads them.
-/
import Mathlib.Algebra.Order.Ring.Rat
import Mathlib.Data.Rat.Init
import Mathlib.Order.Basic
import DeepResearch.Run.TokenLedger

namespace DeepResearch.Gap

open DeepResearch.Run (RunId strip)

-- ========================================================= enumerations

/-- `GapRequirementType`. -/
inductive GapRequirementType
  | dimensionCoverage
  | independentSource
  | claimVerification
  | evidenceQuality
  deriving DecidableEq, Repr

/-- `VerificationStatus`. -/
inductive VerificationStatus
  | notEvaluated
  | required
  | verified
  | failed
  deriving DecidableEq, Repr

/-- `GapClosureStatus`. -/
inductive GapClosureStatus
  | gapOpen
  | gapPartial
  | gapClosed
  deriving DecidableEq, Repr

/-- `EvidenceAlignmentStatus`, less UNKNOWN, which is never assigned. -/
inductive EvidenceAlignmentStatus
  | aligned
  | partlyAligned
  | notAligned
  deriving DecidableEq, Repr

/-- `EvidenceAlignmentReason`. -/
inductive EvidenceAlignmentReason
  | missingIndependentSource
  | insufficientQuality
  | claimNotVerified
  | dimensionMismatch
  | requirementNotSatisfied
  deriving DecidableEq, Repr

-- ================================================================ records

/-- A coverage, between 0 and 1. -/
abbrev Coverage := {coverage : ℚ // 0 ≤ coverage ∧ coverage ≤ 1}

theorem zero_isCoverage : (0 : ℚ) ≤ 0 ∧ (0 : ℚ) ≤ 1 :=
  ⟨le_refl 0, zero_le_one⟩

/-- No coverage. -/
def Coverage.zero : Coverage := ⟨0, zero_isCoverage⟩

/-- Full coverage. -/
def Coverage.one : Coverage := ⟨1, zero_le_one, le_refl 1⟩

/-- `ClosureSnapshot`: the facts at one evaluation point. -/
structure ClosureSnapshot where
  coverage : Coverage := .zero
  evidenceCount : Nat := 0
  independentSources : Nat := 0
  verificationStatus : VerificationStatus := .notEvaluated
  deriving DecidableEq

/-- The identity of a requirement, the name `gap_requirement_id` hashes. -/
structure GapId where
  runId : RunId
  planVersion : Nat
  dimensionKey : String
  deriving DecidableEq

/-- `GapRequirement`. The row of `gap_requirements` has the same fields. -/
structure GapRequirement where
  gapId : GapId
  runId : RunId
  questionId : String
  dimensionKey : String
  requirementType : GapRequirementType
  criterion : String
  requiredEvidenceCount : Nat
  requiredIndependentSources : Nat
  currentEvidenceCount : Nat
  currentIndependentSources : Nat
  verificationStatus : VerificationStatus
  closureStatus : GapClosureStatus
  createdAt : Nat
  updatedAt : Nat
  stateVersion : Nat
  currentCoverage : Coverage := .zero
  requiredCoverage : Option Coverage := none
  transitionReason : String := "evaluator_projection"
  planVersion : Nat := 1
  migrationSource : String := "runtime"
  stateVersion_pos : 1 ≤ stateVersion
  planVersion_pos : 1 ≤ planVersion

/-- The facts a requirement carries. -/
def GapRequirement.snapshot (requirement : GapRequirement) :
    ClosureSnapshot :=
  { coverage := requirement.currentCoverage
    evidenceCount := requirement.currentEvidenceCount
    independentSources := requirement.currentIndependentSources
    verificationStatus := requirement.verificationStatus }

-- ============================================================ evaluation

/-- `_closure_rank` (`_status_rank`, `rank`). -/
def closureRank : GapClosureStatus → Nat
  | .gapOpen => 0
  | .gapPartial => 1
  | .gapClosed => 2

/-- `_requirement_is_satisfied`. -/
def requirementIsSatisfied (requirement : GapRequirement)
    (snapshot : ClosureSnapshot) : Bool :=
  match requirement.requirementType with
  | .dimensionCoverage =>
      (requirement.requiredCoverage.getD .one) ≤ snapshot.coverage
  | .independentSource | .claimVerification =>
      requirement.requiredIndependentSources ≤ snapshot.independentSources
  | .evidenceQuality =>
      requirement.requiredEvidenceCount ≤ snapshot.evidenceCount
        && snapshot.verificationStatus = .verified

/-- `_has_progress`. A verification status that has changed in any
direction counts. -/
def hasProgress (before after : ClosureSnapshot) : Bool :=
  before.coverage < after.coverage
    || before.evidenceCount < after.evidenceCount
    || before.independentSources < after.independentSources
    || after.verificationStatus ≠ before.verificationStatus

/-- `ClosureEvaluation`, less its ids and deltas. -/
structure ClosureEvaluation where
  gapId : GapId
  afterSnapshot : ClosureSnapshot
  closureStatus : GapClosureStatus
  reason : String
  deriving DecidableEq

/-- `ClosureEvaluation.evaluate`. -/
def ClosureEvaluation.evaluate (requirement : GapRequirement)
    (before after : ClosureSnapshot) : ClosureEvaluation :=
  let (closureStatus, reason) :=
    if requirementIsSatisfied requirement after then
      (.gapClosed, "requirement_satisfied")
    else if hasProgress before after then
      (.gapPartial, "evidence_or_verification_progress_without_closure")
    else (.gapOpen, "requirement_not_satisfied")
  { gapId := requirement.gapId, afterSnapshot := after, closureStatus,
    reason }

/-- The status an evaluation ends in. -/
theorem evaluate_closureStatus (requirement : GapRequirement)
    (before after : ClosureSnapshot) :
    (ClosureEvaluation.evaluate requirement before after).closureStatus
      = if requirementIsSatisfied requirement after then .gapClosed
        else if hasProgress before after then .gapPartial
        else .gapOpen := by
  unfold ClosureEvaluation.evaluate
  by_cases hsatisfied : requirementIsSatisfied requirement after = true
  · simp only [if_pos hsatisfied]
  · simp only [if_neg hsatisfied]
    by_cases hprogress : hasProgress before after = true
    · simp only [if_pos hprogress]
    · simp only [if_neg hprogress]

/-- An evaluation belongs to the requirement it is made for. -/
theorem evaluate_gapId (requirement : GapRequirement)
    (before after : ClosureSnapshot) :
    (ClosureEvaluation.evaluate requirement before after).gapId
      = requirement.gapId := by
  unfold ClosureEvaluation.evaluate
  generalize (if requirementIsSatisfied requirement after = true then _
    else _ : GapClosureStatus × String) = answer
  cases answer
  rfl

-- =========================================================== transitions

/-- The `ValueError`s of the two ways to apply a transition. -/
inductive ClosureError
  /-- "transition_reason must not be empty" -/
  | emptyTransitionReason
  /-- "GapRequirement closure state cannot move backwards" (in
  `apply_closure_evaluation`: "gap closure state cannot move
  backwards") -/
  | movesBackwards
  /-- "closure evaluation does not belong to requirement" -/
  | foreignEvaluation
  deriving DecidableEq, Repr

/-- `apply_closure_transition`. -/
def GapRequirement.applyClosureTransition (requirement : GapRequirement)
    (newStatus : GapClosureStatus) (transitionReason : String)
    (updatedAt : Nat) : Except ClosureError GapRequirement :=
  if strip transitionReason.toList = [] then
    .error .emptyTransitionReason
  else if closureRank newStatus < closureRank requirement.closureStatus then
    .error .movesBackwards
  else if newStatus = requirement.closureStatus then .ok requirement
  else .ok
    { requirement with
      closureStatus := newStatus
      stateVersion := requirement.stateVersion + 1
      transitionReason
      updatedAt
      stateVersion_pos := Nat.le_add_left 1 _ }

/-- `apply_closure_evaluation`. -/
def applyClosureEvaluation (requirement : GapRequirement)
    (evaluation : ClosureEvaluation) (now : Nat) :
    Except ClosureError GapRequirement :=
  if evaluation.gapId ≠ requirement.gapId then .error .foreignEvaluation
  else if closureRank evaluation.closureStatus
      < closureRank requirement.closureStatus then .error .movesBackwards
  else
    let after := evaluation.afterSnapshot
    .ok
      { requirement with
        currentCoverage := after.coverage
        currentEvidenceCount := after.evidenceCount
        currentIndependentSources := after.independentSources
        verificationStatus := after.verificationStatus
        closureStatus := evaluation.closureStatus
        updatedAt := now
        stateVersion := requirement.stateVersion + 1
        transitionReason := evaluation.reason
        stateVersion_pos := Nat.le_add_left 1 _ }

/-- `previous_by_id.get(gap_id)`: of several requirements under one id
the last one counts. -/
def previousById (previous : List GapRequirement) (gapId : GapId) :
    Option GapRequirement :=
  previous.reverse.find? (·.gapId = gapId)

/-- What `synchronize_gap_requirements` makes of one candidate. -/
def synchronizeOne (previous : List GapRequirement) (now : Nat)
    (candidate : GapRequirement) : Except ClosureError GapRequirement :=
  match previousById previous candidate.gapId with
  | none => .ok candidate
  | some prior =>
      applyClosureEvaluation prior
        (ClosureEvaluation.evaluate prior prior.snapshot
          candidate.snapshot) now

/-- `synchronize_gap_requirements`. -/
def synchronizeGapRequirements (previous current : List GapRequirement)
    (now : Nat) : Except ClosureError (List GapRequirement) :=
  current.mapM (synchronizeOne previous now)

-- ============================================================ projection

/-- `_as_coverage`, of a number. -/
def asCoverage (value : ℚ) : Coverage :=
  ⟨min 1 (max 0 value), le_min zero_le_one (le_max_left 0 value),
    min_le_left 1 _⟩

/-- One entry of a question's `requirement_statuses`, with the numbers
that the coercions read from it. -/
structure RequirementStatus where
  dimensionKey : String
  criterion : String := ""
  coverage : ℚ := 0
  acceptedEvidence : Int := 0
  independentSources : Int := 0
  requiredSources : Int := 1
  deriving DecidableEq

/-- One entry of a coverage map. -/
structure CoverageMapEntry where
  dimensionKey : String
  requirementStatuses : List RequirementStatus := []
  deriving DecidableEq

/-- What the projection reads of a claim's risk state. -/
structure ClaimState where
  dimensionKey : String
  unresolved : Bool := false
  deriving DecidableEq

/-- `unresolved_claim`. -/
def unresolvedClaim (claimStates : List ClaimState)
    (dimensionKey : String) : Bool :=
  claimStates.any fun claim =>
    claim.dimensionKey = dimensionKey && claim.unresolved

/-- `requirement_type` of a projected requirement. -/
def RequirementStatus.requirementType (status : RequirementStatus)
    (claimStates : List ClaimState) : GapRequirementType :=
  if unresolvedClaim claimStates status.dimensionKey then .claimVerification
  else if 1 < status.requiredSources.toNat then .independentSource
  else .evidenceQuality

/-- `verification_status` of a projected requirement. -/
def RequirementStatus.verificationStatus (status : RequirementStatus)
    (claimStates : List ClaimState) : VerificationStatus :=
  if unresolvedClaim claimStates status.dimensionKey then .required
  else if Coverage.one ≤ asCoverage status.coverage then .verified
  else .required

/-- `project_gap_requirements` on one entry: the requirement is
evaluated against the empty facts. -/
def projectRequirement (runId : RunId) (planVersion stateVersion : Nat)
    (hplan : 1 ≤ planVersion) (hstate : 1 ≤ stateVersion)
    (claimStates : List ClaimState) (now : Nat) (questionId : String)
    (status : RequirementStatus) : GapRequirement :=
  let requirement : GapRequirement :=
    { gapId := ⟨runId, planVersion, status.dimensionKey⟩
      runId
      questionId
      dimensionKey := status.dimensionKey
      requirementType := status.requirementType claimStates
      criterion := status.criterion
      requiredEvidenceCount := 1
      requiredIndependentSources := status.requiredSources.toNat
      currentEvidenceCount := status.acceptedEvidence.toNat
      currentIndependentSources := status.independentSources.toNat
      verificationStatus := status.verificationStatus claimStates
      closureStatus := .gapOpen
      createdAt := now
      updatedAt := now
      stateVersion
      currentCoverage := asCoverage status.coverage
      requiredCoverage := some .one
      transitionReason := "evaluator_projection"
      planVersion
      stateVersion_pos := hstate
      planVersion_pos := hplan }
  { requirement with
    closureStatus :=
      (ClosureEvaluation.evaluate requirement {}
        requirement.snapshot).closureStatus }

/-- `project_gap_requirements`. An entry without a dimension key is
skipped. -/
def projectGapRequirements (runId : RunId) (planVersion stateVersion : Nat)
    (hplan : 1 ≤ planVersion) (hstate : 1 ≤ stateVersion)
    (coverageMap : List CoverageMapEntry) (claimStates : List ClaimState)
    (now : Nat) : List GapRequirement :=
  coverageMap.flatMap fun question =>
    (question.requirementStatuses.filter (·.dimensionKey ≠ "")).map
      (projectRequirement runId planVersion stateVersion hplan hstate
        claimStates now question.dimensionKey)

-- ============================================================= alignment

/-- `EvidenceAlignment.evaluate` as the loop calls it: the evidence is
of the requirement's dimension, and no claim counts as verified. -/
def alignEvidence (requirement : GapRequirement) (accepted : Bool)
    (independentSources : Nat) :
    EvidenceAlignmentStatus × Option EvidenceAlignmentReason :=
  if !accepted then (.notAligned, some .insufficientQuality)
  else
    match requirement.requirementType with
    | .claimVerification =>
        if independentSources < requirement.requiredIndependentSources then
          (.partlyAligned, some .claimNotVerified)
        else (.aligned, none)
    | .independentSource =>
        if independentSources < requirement.requiredIndependentSources then
          (.partlyAligned, some .missingIndependentSource)
        else (.aligned, none)
    | .evidenceQuality =>
        (.partlyAligned, some .requirementNotSatisfied)
    | .dimensionCoverage => (.aligned, none)

/-- `ClosureEvaluationContext`, less its ids. -/
structure ClosureEvaluationContext where
  beforeSnapshot : ClosureSnapshot
  alignedEvidenceCount : Nat
  partialEvidenceCount : Nat
  rejectionReasons : List EvidenceAlignmentReason
  independentSourceCount : Nat

/-- `ClosureEvaluationContext.from_alignments`. -/
def ClosureEvaluationContext.fromAlignments (before : ClosureSnapshot)
    (alignments :
      List (EvidenceAlignmentStatus × Option EvidenceAlignmentReason))
    (independentSourceCount : Nat) : ClosureEvaluationContext :=
  { beforeSnapshot := before
    alignedEvidenceCount := alignments.countP (·.1 = .aligned)
    partialEvidenceCount := alignments.countP (·.1 = .partlyAligned)
    rejectionReasons := alignments.filterMap (·.2)
    independentSourceCount }

/-- `_after_snapshot`. -/
def afterSnapshot (context : ClosureEvaluationContext)
    (requirement : GapRequirement) : ClosureSnapshot :=
  { coverage := context.beforeSnapshot.coverage
    evidenceCount := context.beforeSnapshot.evidenceCount
      + context.alignedEvidenceCount + context.partialEvidenceCount
    independentSources := context.independentSourceCount
    verificationStatus :=
      if requirement.requirementType = .claimVerification then
        if requirement.requiredIndependentSources
            ≤ context.independentSourceCount then .verified
        else .required
      else context.beforeSnapshot.verificationStatus }

/-- `_transition_reason`. -/
def transitionReason (context : ClosureEvaluationContext)
    (fallback : String) : String :=
  if .missingIndependentSource ∈ context.rejectionReasons then
    "missing_independent_source"
  else if .claimNotVerified ∈ context.rejectionReasons then
    "claim_verification_required"
  else if .dimensionMismatch ∈ context.rejectionReasons then
    "dimension_mismatch"
  else fallback

/-- `ClosureEvaluator.evaluate`: a status that would go down is kept. -/
def closureEvaluatorEvaluate (context : ClosureEvaluationContext)
    (requirement : GapRequirement) (now : Nat) :
    Except ClosureError GapRequirement :=
  if requirement.closureStatus = .gapClosed then .ok requirement
  else
    let evaluation := ClosureEvaluation.evaluate requirement
      context.beforeSnapshot (afterSnapshot context requirement)
    if closureRank evaluation.closureStatus
        < closureRank requirement.closureStatus then
      requirement.applyClosureTransition requirement.closureStatus
        "existing_closure_state_preserved" now
    else
      requirement.applyClosureTransition evaluation.closureStatus
        (transitionReason context evaluation.reason) now

end DeepResearch.Gap
