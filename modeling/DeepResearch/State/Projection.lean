/-
The projection of a run's rows into its public state (`state_runtime.py`:
`_project_gap`, `_budget_limits`, `_budget_usage`, `_quality`,
`_coverage_map`, `_state_phase`, `_score`, and the patch that
`synchronize` builds).

A record whose texts or numbers are out of bounds cannot be built; the
`ValidationError` of its constructor is `none`. `uuid5` is a parameter. A
text that stands for a number is that number; a count is a natural number.
-/
import DeepResearch.State.Reducer

namespace DeepResearch.State

-- ================================================================== numbers

/-- What `float` reads. -/
inductive Double
  | finite (x : ℚ)
  | infinity
  | negInfinity
  | nan
  deriving DecidableEq

theorem clamp_mem (x : ℚ) : 0 ≤ min 1 (max 0 x) ∧ min 1 (max 0 x) ≤ 1 :=
  ⟨le_min zero_le_one (le_max_left 0 x), min_le_left 1 _⟩

/-- `_score`; `none` is a value that is no number. -/
def score : Option Double → Score
  | some (.finite x) => ⟨min 1 (max 0 x), clamp_mem x⟩
  | some .infinity => ⟨min 1 (max 0 1), clamp_mem 1⟩
  | some .negInfinity | some .nan | none => Score.zero

/-- A field of type `Score`. -/
def Score.ofDouble : Double → Option Score
  | .finite x => if h : 0 ≤ x ∧ x ≤ 1 then some ⟨x, h⟩ else none
  | _ => none

/-- A field with `min_length` and `max_length`. -/
def Text.ofString (least most : Nat) (text : String) :
    Option (Text least most) :=
  if h : least ≤ text.length ∧ text.length ≤ most then some ⟨text, h⟩
  else none

/-- A field with `ge=0`. -/
def natOfInt (n : ℤ) : Option Nat :=
  if 0 ≤ n then some n.toNat else none

-- ===================================================================== rows

/-- `ResearchSourceRow`. -/
structure ResearchSourceRow where
  id : UUID
  domain : String
  deriving DecidableEq

/-- `ResearchEvidenceRow`. -/
structure ResearchEvidenceRow where
  id : UUID
  runId : UUID
  questionId : String
  sourceId : UUID
  evidenceScore : Double
  accepted : Bool
  createdAt : ℤ
  deriving DecidableEq

/-- `ResearchGapRow`. -/
structure ResearchGapRow where
  id : UUID
  runId : UUID
  questionId : String
  gapType : String
  description : String
  acceptanceCriteria : String
  severity : Double
  resolutionAttempts : Nat
  status : String
  createdAt : ℤ
  deriving DecidableEq

/-- A dictionary of `requirement_statuses`. -/
structure RawRequirement where
  dimensionKey : String
  criterion : String
  coverage : Double
  acceptedEvidence : ℤ
  independentSources : ℤ
  requiredSources : ℤ
  deriving DecidableEq

/-- A dictionary of `coverage_map`. -/
structure RawDimension where
  dimensionKey : String
  question : String
  priority : ℤ
  coverage : Double
  acceptedEvidence : ℤ
  independentSources : ℤ
  acceptanceCriteria : List String
  requirementStatuses : List RawRequirement
  missingReasons : List String
  deriving DecidableEq

/-- `quality_snapshot`. Of the coverage map, `none` is a value that is no
list, and an element that is `none` is no dictionary. -/
structure RawQuality where
  coverage : Option Double := none
  informationGain : Option Double := none
  lowInformationGainStreak : ℤ := 0
  sourceQuality : Option Double := none
  sourceIndependence : Option Double := none
  crossValidation : Option Double := none
  freshness : Option Double := none
  citationSupport : Option Double := none
  coverageMap : Option (List (Option RawDimension)) := none
  deriving DecidableEq

/-- A row of `research_runs`, with the snapshots that only the public
state shows. -/
structure ProjectedRun where
  run : Run.ResearchRunRow
  productiveIterations : Option Nat := none
  qualitySnapshot : RawQuality := {}

-- ==================================================================== the run

/-- `_state_phase`. -/
def statePhase : Run.RunPhase → ResearchPhase
  | .initializing => .init
  | .planning => .plan
  | .researching => .research
  | .evaluating => .evaluate
  | .writing => .write
  | .verifying => .verify
  | .terminal => .finalize

/-- `max(1, int(value or default))`. -/
def positiveOr (value : Option Nat) (default : Nat) : Nat :=
  max 1 (if value.getD default = 0 then default else value.getD default)

theorem one_le_positiveOr (value : Option Nat) (default : Nat) :
    1 ≤ positiveOr value default :=
  le_max_left ..

/-- `_budget_limits`. -/
def budgetLimits (row : ProjectedRun) : BudgetLimits :=
  let budget := row.run.budgetSnapshot
  { maxIterations := positiveOr budget.maxIterations 8
    maxSearches := budget.maxSearches.getD 15
    maxLogicalQueries :=
      (budget.maxLogicalQueries.or budget.maxSearches).getD 15
    maxProviderRequests := budget.maxProviderRequests.getD 30
    maxPages := budget.maxPages.getD 30
    maxPagesFetched := (budget.maxPagesFetched.or budget.maxPages).getD 30
    maxPagesExtracted := (budget.maxPagesExtracted.or budget.maxPages).getD 30
    maxExtractionCalls :=
      (budget.maxExtractionCalls.or budget.maxPages).getD 30
    maxVerificationCalls := budget.maxVerificationCalls.getD 5
    maxSchedulerActions := budget.maxSchedulerActions.getD 60
    maxModelTokens := positiveOr budget.maxTokens 100000
    maxWallClockSeconds := positiveOr budget.maxWallClockSeconds 720
    one_le_maxIterations := one_le_positiveOr ..
    one_le_maxModelTokens := one_le_positiveOr ..
    one_le_maxWallClockSeconds := one_le_positiveOr .. }

/-- `_budget_usage`. -/
def budgetUsage (row : ProjectedRun) : BudgetUsage :=
  let usage := row.run.usageSnapshot
  { iterations := usage.iterations
    searches := usage.searches.getD 0
    logicalQueries := (usage.logicalQueries.or usage.searches).getD 0
    searchProviderRequests := usage.searchProviderRequests
    pages := usage.pages.getD 0
    pagesFetched := (usage.pagesFetched.or usage.pages).getD 0
    pagesExtracted := (usage.pagesExtracted.or usage.pages).getD 0
    extractionCalls := usage.extractionCalls.getD 0
    verificationCalls := usage.verificationCalls
    schedulerActions := usage.schedulerActions
    productiveIterations := row.productiveIterations.getD usage.iterations
    technicalRetries := usage.technicalRetries
    modelTokens := usage.planner.elim 0 Run.TokenUsage.totalTokens
      + usage.writer.elim 0 Run.TokenUsage.totalTokens
      + usage.evidenceTotalTokens
    modelBudgetGuarded := usage.modelBudgetGuarded }

/-- `_quality`. -/
def quality (row : ProjectedRun) : QualitySnapshot :=
  let quality := row.qualitySnapshot
  { coverage := score quality.coverage
    informationGain := score quality.informationGain
    lowInformationGainStreak := quality.lowInformationGainStreak.toNat
    sourceQuality := score quality.sourceQuality
    sourceIndependence := score quality.sourceIndependence
    crossValidation := score quality.crossValidation
    freshness := score quality.freshness
    citationSupport := score quality.citationSupport }

/-- `RequirementCoverageSnapshot.model_validate`. -/
def RawRequirement.validate (raw : RawRequirement) :
    Option RequirementCoverageSnapshot := do
  let dimensionKey ← Text.ofString 1 100 raw.dimensionKey
  let criterion ← Text.ofString 1 1000 raw.criterion
  let coverage ← Score.ofDouble raw.coverage
  let acceptedEvidence ← natOfInt raw.acceptedEvidence
  let independentSources ← natOfInt raw.independentSources
  let requiredSources ← natOfInt raw.requiredSources
  if h : 1 ≤ requiredSources then
    some ⟨dimensionKey, criterion, coverage, acceptedEvidence,
      independentSources, requiredSources, h⟩
  else none

/-- `CoverageDimensionSnapshot.model_validate`. -/
def RawDimension.validate (raw : RawDimension) :
    Option CoverageDimensionSnapshot := do
  let dimensionKey ← Text.ofString 1 100 raw.dimensionKey
  let question ← Text.ofString 1 500 raw.question
  let priority ← natOfInt raw.priority
  let coverage ← Score.ofDouble raw.coverage
  let acceptedEvidence ← natOfInt raw.acceptedEvidence
  let independentSources ← natOfInt raw.independentSources
  let requirements ← raw.requirementStatuses.mapM RawRequirement.validate
  if h : 1 ≤ priority ∧ priority ≤ 3 then
    some ⟨dimensionKey, question, priority, coverage, acceptedEvidence,
      independentSources, raw.acceptanceCriteria, requirements,
      raw.missingReasons, h⟩
  else none

/-- `_coverage_map`. -/
def coverageMap (row : ProjectedRun) :
    Option (List CoverageDimensionSnapshot) :=
  ((row.qualitySnapshot.coverageMap.getD []).filterMap id).mapM
    RawDimension.validate

-- ========================================================== claims and gaps

/-- `_gap_type`. -/
def gapType (value : String) : GapType :=
  if value = "weak" then .weak
  else if value = "stale" then .stale
  else if value = "conflict" then .conflict
  else if value = "insufficient_diversity" then .insufficientDiversity
  else .missing

/-- `_gap_status`. -/
def gapStatus (value : String) : GapStatus :=
  if value = "resolving" then .resolving
  else if value = "resolved" then .resolved
  else if value = "abandoned" then .abandoned
  else .open

/-- `status` and `resolved_ids` of `_project_gap`. -/
def resolution (status : GapStatus) (claimIds : List UUID) :
    GapStatus × List UUID :=
  if status = .resolved then
    if claimIds.isEmpty then (.abandoned, []) else (.resolved, claimIds)
  else (status, [])

theorem resolution_cites (status : GapStatus) (claimIds : List UUID) :
    (resolution status claimIds).1 = .resolved
      ↔ (resolution status claimIds).2 ≠ [] := by
  unfold resolution
  by_cases hresolved : status = .resolved
  · rw [if_pos hresolved]
    cases claimIds with
    | nil => simp
    | cons id ids => simp
  · rw [if_neg hresolved]
    simp [hresolved]

/-- `uuid5`, of a namespace and a name. -/
abbrev Uuid5 := UUID → String → UUID

/-- `_question_uuid`. -/
def questionUuid (uuid5 : Uuid5) (runId : UUID) (questionId : String) :
    UUID :=
  uuid5 runId ("question:" ++ questionId)

/-- The `KnownClaimRef` of an accepted row and its source. -/
def knownClaim (uuid5 : Uuid5) (runId : UUID)
    (row : ResearchEvidenceRow × ResearchSourceRow) :
    Option KnownClaimRef := do
  let dimensionKey ← Text.ofString 1 100 row.1.questionId
  some
    { claimId := row.1.id
      questionId := questionUuid uuid5 runId row.1.questionId
      dimensionKey := dimensionKey
      status := .supported
      confidence := score (some row.1.evidenceScore)
      evidenceIds := [row.1.id]
      independentSourceOwnerKeys := [row.2.domain]
      supported_claim_requires_evidence := fun _ => List.cons_ne_nil _ _ }

/-- `_project_gap`. -/
def projectGap (uuid5 : Uuid5) (runId : UUID) (row : ResearchGapRow)
    (claimIds : List UUID) : Option ResearchGap := do
  let dimensionKey ← Text.ofString 1 100 row.questionId
  let description ← Text.ofString 1 1000 row.description
  let acceptanceCriteria ← Text.ofString 1 1000 row.acceptanceCriteria
  let resolved := resolution (gapStatus row.status) claimIds
  some
    { gapId := row.id
      questionId := questionUuid uuid5 runId row.questionId
      dimensionKey := dimensionKey
      gapType := gapType row.gapType
      description := description
      acceptanceCriteria := acceptanceCriteria
      severity := score (some row.severity)
      resolutionAttempts := row.resolutionAttempts
      status := resolved.1
      resolvedByClaimIds := resolved.2
      resolved_gap_requires_claim := (resolution_cites _ _).mp }

/-- `claim_ids_by_question.get(question_id, [])`. -/
def claimIdsByQuestion (rows : List (ResearchEvidenceRow × ResearchSourceRow))
    (questionId : String) : List UUID :=
  (rows.filter (·.1.questionId = questionId)).map (·.1.id)

/-- The patch of `synchronize`. -/
def projectedPatch (uuid5 : Uuid5) (runId : UUID) (row : ProjectedRun)
    (evidenceRows : List (ResearchEvidenceRow × ResearchSourceRow))
    (gapRows : List ResearchGapRow) (patchId : UUID) (baseVersion : Nat) :
    Option StatePatch := do
  let known ← evidenceRows.mapM (knownClaim uuid5 runId)
  let gaps ← gapRows.mapM fun gap =>
    projectGap uuid5 runId gap
      (claimIdsByQuestion evidenceRows gap.questionId)
  let coverage ← coverageMap row
  some
    { patchId := patchId
      baseVersion := baseVersion
      knownUpserts := known
      gapUpserts := gaps
      budgetUsage := some (budgetUsage row)
      quality := some (quality row)
      coverageMap := some coverage
      phase := some (statePhase row.run.phase)
      status := some (Run.stateStatus row.run.status row.run.phase)
      stopReason := Run.stopReason row.run.terminationReason
      clearStopReason := row.run.terminationReason = none }

end DeepResearch.State
