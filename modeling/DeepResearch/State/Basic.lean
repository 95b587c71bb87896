/-
The public state of a research run (`domain/state.py`): its records, and
`validate_state_invariants`.

# Two kinds of invariants

What a nested record checks about itself is a field of the record, or
the type of one: a bounded text, a score, a count with a lower bound.
What the state checks across its fields is `ResearchState.Valid`, and
`validate` decides it, in the source's order and with the source's texts
(`validate_ok_iff`).
-/
import Mathlib.Data.List.Dedup
import Mathlib.Data.NNRat.Defs
import Mathlib.Order.WithBot
import Mathlib.Tactic.NormNum
import DeepResearch.Run.StopReason

namespace DeepResearch.State

open DeepResearch.Run (StateStatus StopReason)

-- ============================================================ field types

abbrev UUID := BitVec 128

/-- `Score`: a double from zero to one. -/
abbrev Score := { x : ℚ // 0 ≤ x ∧ x ≤ 1 }

def Score.half : Score := ⟨1 / 2, by norm_num⟩

/-- `float` with `ge=0.0`: infinity passes, NaN does not. -/
abbrev Cost := WithTop ℚ≥0

/-- `str` with `min_length` and `max_length`. -/
abbrev Text (least most : Nat) :=
  { text : String // least ≤ text.length ∧ text.length ≤ most }

/-- `ResearchPhase`. -/
inductive ResearchPhase
  | init
  | analyzeQuery
  | plan
  | research
  | evaluate
  | write
  | verify
  | finalize
  deriving DecidableEq, Repr

/-- `KnowledgeStatus`. -/
inductive KnowledgeStatus
  | supported
  | partly
  | disputed
  | stale
  deriving DecidableEq, Repr

/-- `GapType`. -/
inductive GapType
  | missing
  | weak
  | stale
  | conflict
  | insufficientDiversity
  deriving DecidableEq, Repr

/-- `GapStatus`. -/
inductive GapStatus
  | open
  | resolving
  | resolved
  | abandoned
  deriving DecidableEq, Repr

/-- `ActionType`. -/
inductive ActionType
  | retrieveMemory
  | searchDatabase
  | searchWeb
  | readSource
  | extract
  | saveEvidence
  | analyzeData
  | replan
  | evaluate
  | write
  | stop
  deriving DecidableEq, Repr

/-- `EXTERNAL_ACTIONS`. -/
def externalActions : List ActionType :=
  [.searchWeb, .readSource, .saveEvidence, .analyzeData]

/-- `ActionStatus`. -/
inductive ActionStatus
  | proposed
  | selected
  | running
  | completed
  | blocked
  | failed
  deriving DecidableEq, Repr

-- ================================================================ records

/-- `KnownClaimRef`. -/
structure KnownClaimRef where
  claimId : UUID
  questionId : UUID
  dimensionKey : Text 1 100
  status : KnowledgeStatus
  confidence : Score
  evidenceIds : List UUID := []
  independentSourceOwnerKeys : List String := []
  supported_claim_requires_evidence :
    status = .supported → evidenceIds ≠ []
  deriving DecidableEq

/-- `ResearchGap`. -/
structure ResearchGap where
  gapId : UUID
  questionId : UUID
  dimensionKey : Text 1 100
  gapType : GapType
  description : Text 1 1000
  acceptanceCriteria : Text 1 1000
  severity : Score
  expectedInformationGain : Score := Score.half
  resolutionAttempts : Nat := 0
  status : GapStatus := .open
  resolvedByClaimIds : List UUID := []
  resolved_gap_requires_claim :
    status = .resolved → resolvedByClaimIds ≠ []
  deriving DecidableEq

/-- `NextAction`. -/
structure NextAction where
  actionId : UUID
  actionType : ActionType
  targetGapIds : List UUID := []
  toolName : Option (Text 0 100) := none
  expectedOutput : Text 1 1000
  expectedInformationGain : Score := Score.half
  estimatedCost : Cost := ((0 : ℚ≥0) : Cost)
  duplicateKey : Option (Text 0 256) := none
  publicDecisionSummary : Text 1 1000
  status : ActionStatus := .selected
  external_action_requires_gap_and_tool :
    actionType ∈ externalActions →
      targetGapIds ≠ [] ∧ ∃ name ∈ toolName, name.val ≠ ""

/-- `BudgetLimits`. -/
structure BudgetLimits where
  maxIterations : Nat := 8
  maxSearches : Nat := 15
  maxLogicalQueries : Nat := 15
  maxProviderRequests : Nat := 30
  maxPages : Nat := 30
  maxPagesFetched : Nat := 30
  maxPagesExtracted : Nat := 15
  maxExtractionCalls : Nat := 15
  maxVerificationCalls : Nat := 5
  maxSchedulerActions : Nat := 60
  maxModelTokens : Nat := 100000
  maxWallClockSeconds : Nat := 720
  one_le_maxIterations : 1 ≤ maxIterations := by decide
  one_le_maxModelTokens : 1 ≤ maxModelTokens := by decide
  one_le_maxWallClockSeconds : 1 ≤ maxWallClockSeconds := by decide
  deriving DecidableEq

/-- `BudgetUsage`. -/
structure BudgetUsage where
  iterations : Nat := 0
  searches : Nat := 0
  logicalQueries : Nat := 0
  searchProviderRequests : Nat := 0
  pages : Nat := 0
  pagesFetched : Nat := 0
  pagesExtracted : Nat := 0
  extractionCalls : Nat := 0
  verificationCalls : Nat := 0
  schedulerActions : Nat := 0
  productiveIterations : Nat := 0
  technicalRetries : Nat := 0
  modelTokens : Nat := 0
  modelBudgetGuarded : Bool := false
  deriving DecidableEq

def Score.zero : Score := ⟨0, by norm_num⟩

/-- `QualitySnapshot`. -/
structure QualitySnapshot where
  coverage : Score := Score.zero
  informationGain : Score := Score.zero
  lowInformationGainStreak : Nat := 0
  sourceQuality : Score := Score.zero
  sourceIndependence : Score := Score.zero
  crossValidation : Score := Score.zero
  freshness : Score := Score.zero
  citationSupport : Score := Score.zero
  deriving DecidableEq

/-- `RequirementCoverageSnapshot`. -/
structure RequirementCoverageSnapshot where
  dimensionKey : Text 1 100
  criterion : Text 1 1000
  coverage : Score
  acceptedEvidence : Nat
  independentSources : Nat
  requiredSources : Nat
  one_le_requiredSources : 1 ≤ requiredSources
  deriving DecidableEq

/-- `CoverageDimensionSnapshot`. -/
structure CoverageDimensionSnapshot where
  dimensionKey : Text 1 100
  question : Text 1 500
  priority : Nat
  coverage : Score
  acceptedEvidence : Nat
  independentSources : Nat
  acceptanceCriteria : List String := []
  requirementStatuses : List RequirementCoverageSnapshot := []
  missingReasons : List String := []
  priority_mem : 1 ≤ priority ∧ priority ≤ 3
  deriving DecidableEq

-- ============================================================== the state

/-- The fields of `ResearchState`. -/
structure ResearchState where
  schemaVersion : String := "1"
  graphSchemaRevision : String := "2026-08-v1"
  runId : UUID
  stateVersion : Nat := 0
  status : StateStatus := .created
  phase : ResearchPhase := .init
  iteration : Nat := 0
  currentQuestionId : Option UUID := none
  known : List KnownClaimRef := []
  gaps : List ResearchGap := []
  nextAction : Option NextAction := none
  budgetLimits : BudgetLimits := {}
  budgetUsage : BudgetUsage := {}
  quality : QualitySnapshot := {}
  coverageMap : List CoverageDimensionSnapshot := []
  noProgressIterations : Nat := 0
  cancelRequested : Bool := false
  stopReason : Option StopReason := none

namespace ResearchState

variable (s : ResearchState)

/-- `open_gap_ids`. -/
def openGapIds : List UUID :=
  (s.gaps.filter fun gap => gap.status ∈ [.open, .resolving]).map
    ResearchGap.gapId

/-- `unknown_targets`, of an external action. -/
def unknownTargets (action : NextAction) : List UUID :=
  action.targetGapIds.filter (· ∉ s.openGapIds)

/-- `page_overrun_is_terminal`. -/
def pageOverrunIsTerminal : Bool :=
  s.status = .failed ∧ s.stopReason = some .budgetExhausted

/-- `page_limit`. -/
def pageLimit : Nat :=
  if s.budgetUsage.pagesFetched > 0 then s.budgetLimits.maxPagesFetched
  else s.budgetLimits.maxPages

/-- `page_usage`. -/
def pageUsage : Nat :=
  max s.budgetUsage.pages s.budgetUsage.pagesFetched

/-- `model_overrun_is_terminal`. -/
def modelOverrunIsTerminal : Bool :=
  s.phase ∈ [.write, .verify, .finalize]

/-- The external action aims at a gap that is not open. -/
def misdirected : Bool :=
  s.nextAction.any fun action =>
    action.actionType ∈ externalActions ∧ s.unknownTargets action ≠ []

/-- `validate_state_invariants`. -/
def validate : Except String Unit := do
  let claimIds := s.known.map KnownClaimRef.claimId
  if claimIds.length ≠ claimIds.dedup.length then
    throw "known claims must be unique by claim_id"
  let gapIds := s.gaps.map ResearchGap.gapId
  if gapIds.length ≠ gapIds.dedup.length then
    throw "research gaps must be unique by gap_id"
  if s.misdirected then
    throw "external actions may only target open or resolving gaps"
  if s.budgetUsage.iterations > s.budgetLimits.maxIterations then
    throw "iteration budget exceeded"
  if s.budgetUsage.searches > s.budgetLimits.maxSearches then
    throw "search budget exceeded"
  if s.pageUsage > s.pageLimit ∧ ¬ s.pageOverrunIsTerminal then
    throw "page budget exceeded"
  if s.budgetUsage.modelTokens > s.budgetLimits.maxModelTokens
      ∧ ¬ s.modelOverrunIsTerminal ∧ ¬ s.budgetUsage.modelBudgetGuarded then
    throw "model token budget exceeded"

/-- The invariants of a state. -/
structure Valid : Prop where
  claims_unique : (s.known.map KnownClaimRef.claimId).Nodup
  gaps_unique : (s.gaps.map ResearchGap.gapId).Nodup
  targets_open : ∀ action ∈ s.nextAction,
    action.actionType ∈ externalActions →
      ∀ id ∈ action.targetGapIds, ∃ gap ∈ s.gaps, gap.gapId = id
        ∧ (gap.status = .open ∨ gap.status = .resolving)
  iterations_within :
    s.budgetUsage.iterations ≤ s.budgetLimits.maxIterations
  searches_within : s.budgetUsage.searches ≤ s.budgetLimits.maxSearches
  pages_within :
    (s.status = .failed ∧ s.stopReason = some .budgetExhausted)
      ∨ s.pageUsage ≤ s.pageLimit
  tokens_within :
    s.phase ∈ [ResearchPhase.write, .verify, .finalize]
      ∨ s.budgetUsage.modelBudgetGuarded = true
      ∨ s.budgetUsage.modelTokens ≤ s.budgetLimits.maxModelTokens

end ResearchState

end DeepResearch.State
