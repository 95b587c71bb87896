/-
The stored gap requirements and their two writers
(`gap_requirements.py`; `research_tools.py`,
`_align_and_evaluate_evidence` and the projection of
`finish_iteration`).

`upsert_many` overwrites the stored row with whatever it is handed, and
counts the state version up when anything but the times has changed. The
alignment hands it a requirement that went through the
`ClosureEvaluator`, or a fresh OPEN one where the question has none; the
projection hands it requirements computed from the coverage map alone.

The counts and owners of a batch are inputs: they are what the evidence
tables say at that time. Events are left out.
-/
import Mathlib.Data.List.Infix
import DeepResearch.Gap.Closure
import DeepResearch.Lib.Table
import DeepResearch.Lib.Transition

namespace DeepResearch.Gap

open DeepResearch.Run (RunId)

-- ============================================================= the table

/-- The table `gap_requirements`, under its primary key. -/
structure GapTable where
  rows : List GapRequirement
  nodup : (rows.map (·.gapId)).Nodup

/-- The row of a gap id. -/
def GapTable.row (table : GapTable) (gapId : GapId) :
    Option GapRequirement :=
  Table.lookup (·.gapId) gapId table.rows

/-- `_state_changed`. -/
def stateChanged (row requirement : GapRequirement) : Bool :=
  row.requirementType ≠ requirement.requirementType
    || row.criterion ≠ requirement.criterion
    || row.requiredEvidenceCount ≠ requirement.requiredEvidenceCount
    || row.requiredIndependentSources
      ≠ requirement.requiredIndependentSources
    || row.currentEvidenceCount ≠ requirement.currentEvidenceCount
    || row.currentIndependentSources
      ≠ requirement.currentIndependentSources
    || row.currentCoverage ≠ requirement.currentCoverage
    || row.requiredCoverage ≠ requirement.requiredCoverage
    || row.verificationStatus ≠ requirement.verificationStatus
    || row.closureStatus ≠ requirement.closureStatus
    || row.transitionReason ≠ requirement.transitionReason
    || row.migrationSource ≠ requirement.migrationSource

/-- `effective`, for a requirement with a stored row. -/
def effective (now : Nat) (requirement row : GapRequirement) :
    GapRequirement :=
  if stateChanged row requirement then
    { requirement with
      stateVersion := max requirement.stateVersion (row.stateVersion + 1)
      createdAt := row.createdAt
      updatedAt := now
      stateVersion_pos := le_max_of_le_left requirement.stateVersion_pos }
  else
    { requirement with
      stateVersion := row.stateVersion
      createdAt := row.createdAt
      updatedAt := row.updatedAt
      stateVersion_pos := row.stateVersion_pos }

/-- `_copy_to_row`: all but the gap id and the plan version. -/
def copyToRow (row requirement : GapRequirement) : GapRequirement :=
  { requirement with
    gapId := row.gapId
    planVersion := row.planVersion
    planVersion_pos := row.planVersion_pos }

/-- What a stored row becomes. -/
def upsertRow (now : Nat) (requirement row : GapRequirement) :
    GapRequirement :=
  copyToRow row (effective now requirement row)

theorem upsertRow_gapId (now : Nat) (requirement row : GapRequirement) :
    (upsertRow now requirement row).gapId = row.gapId := by
  unfold upsertRow copyToRow
  rfl

/-- Two of the requirements that have no row yet share their gap id. -/
def GapTable.insertsTwice (table : GapTable)
    (requirements : List GapRequirement) : Bool :=
  !((requirements.filter fun requirement =>
      (table.row requirement.gapId).isNone).map (·.gapId)).Nodup

/-- `GapRequirementRepository.upsert_many`. The rows are looked up before
the first one is written, so a gap id that is new twice is inserted
twice, which the primary key refuses. -/
def GapTable.upsertMany (table : GapTable)
    (requirements : List GapRequirement) (now : Nat) : Option GapTable :=
  if table.insertsTwice requirements then none
  else some
    { rows := Table.upsertAll (·.gapId) (upsertRow now) table.rows
        requirements
      nodup := Table.nodup_upsertAll
        (fun new r _ => upsertRow_gapId now new r) requirements
        table.nodup }

-- ================================================ the alignment's writes

/-- What `ResearchTarget` tells the alignment. -/
structure AlignmentTarget where
  planVersion : Nat
  questionId : String
  acceptanceDimensions : List (String × String)
  planVersion_pos : 1 ≤ planVersion

/-- The new evidence of one dimension, with the acceptance of each item
and the counts and distinct owners without it and with it. -/
structure EvidenceBatch where
  dimensionKey : String
  accepted : List Bool
  beforeCount : Nat
  afterCount : Nat
  beforeOwners : Nat
  afterOwners : Nat
  deriving DecidableEq

/-- `requirements_by_dimension.get(dimension_key)`: of the rows that
`list_for_run` returns for the plan version, the last one of the
question and the dimension. -/
def GapTable.requirementRow (table : GapTable) (runId : RunId)
    (target : AlignmentTarget) (dimensionKey : String) :
    Option GapRequirement :=
  table.rows.reverse.find? fun row =>
    row.runId = runId && row.planVersion = target.planVersion
      && row.questionId = target.questionId
      && row.dimensionKey = dimensionKey

/-- The markers of `_requires_independent_sources`. -/
def independentSourceMarkers : List String :=
  ["两个", "两条", "第二", "独立来源", "two ", "2 ", "independent",
    "市场规模", "市场份额", "市场预测", "增长率", "预测", "趋势", "第一",
    "领先", "比较", "market size", "market share", "forecast",
    "projection", "growth rate", "leading", "largest", "comparative"]

/-- `_requires_independent_sources`. -/
def requiresIndependentSources (criterion : String) : Bool :=
  let normalized := CaseFolding.casefold criterion.toList
  independentSourceMarkers.any fun marker =>
    marker.toList <:+: normalized

/-- `_runtime_gap_requirement`. -/
def runtimeGapRequirement (runId : RunId) (target : AlignmentTarget)
    (dimensionKey criterion : String) (timestamp : Nat) : GapRequirement :=
  let independent := requiresIndependentSources criterion
  { gapId := ⟨runId, target.planVersion, dimensionKey⟩
    runId
    questionId := target.questionId
    dimensionKey
    requirementType :=
      if independent then .independentSource else .evidenceQuality
    criterion
    requiredEvidenceCount := 1
    requiredIndependentSources := if independent then 2 else 1
    currentEvidenceCount := 0
    currentIndependentSources := 0
    verificationStatus := .required
    closureStatus := .gapOpen
    createdAt := timestamp
    updatedAt := timestamp
    stateVersion := 1
    currentCoverage := .zero
    requiredCoverage := some .one
    transitionReason := "runtime_evidence_alignment"
    planVersion := target.planVersion
    stateVersion_pos := Nat.le_refl 1
    planVersion_pos := target.planVersion_pos }

/-- One turn of the loop over the acceptance dimensions. -/
def GapTable.ensureRequirement (table : GapTable) (runId : RunId)
    (target : AlignmentTarget) (dimensionKey criterion : String)
    (now : Nat) : Option GapTable :=
  match table.requirementRow runId target dimensionKey with
  | some _ => some table
  | none =>
      table.upsertMany
        [runtimeGapRequirement runId target dimensionKey criterion now] now

/-- The requirement with the counts from before the batch. -/
def beforeBatch (row : GapRequirement) (batch : EvidenceBatch) :
    GapRequirement :=
  { row with
    currentEvidenceCount := batch.beforeCount
    currentIndependentSources := batch.beforeOwners
    stateVersion :=
      if row.currentEvidenceCount ≠ batch.beforeCount
          ∨ row.currentIndependentSources ≠ batch.beforeOwners then
        max row.stateVersion (row.stateVersion + 1)
      else row.stateVersion
    stateVersion_pos := by
      have hpos := row.stateVersion_pos
      split <;> omega }

/-- `alignments`: a closed requirement is not aligned with. -/
def alignBatch (requirement : GapRequirement) (batch : EvidenceBatch) :
    List (EvidenceAlignmentStatus × Option EvidenceAlignmentReason) :=
  if requirement.closureStatus = .gapClosed then []
  else batch.accepted.map fun accepted =>
    alignEvidence requirement accepted batch.afterOwners

/-- The closure evaluation of one batch. -/
def evaluateBatch (requirement : GapRequirement) (batch : EvidenceBatch)
    (now : Nat) : Except ClosureError GapRequirement :=
  let context := ClosureEvaluationContext.fromAlignments
    { coverage := requirement.currentCoverage
      evidenceCount := batch.beforeCount
      independentSources := batch.beforeOwners
      verificationStatus := requirement.verificationStatus }
    (alignBatch requirement batch) batch.afterOwners
  (closureEvaluatorEvaluate context requirement now).map fun updated =>
    { updated with
      currentEvidenceCount := batch.afterCount
      currentIndependentSources := batch.afterOwners }

/-- One turn of the loop over the dimensions that have new evidence. -/
def GapTable.evaluateDimension (table : GapTable) (runId : RunId)
    (target : AlignmentTarget) (batch : EvidenceBatch) (now : Nat) :
    Option GapTable :=
  match table.requirementRow runId target batch.dimensionKey with
  | none => some table
  | some row =>
      let requirement := beforeBatch row batch
      if alignBatch requirement batch = [] then some table
      else
        match evaluateBatch requirement batch now with
        | .error _ => none
        | .ok updated => table.upsertMany [updated] now

-- ============================================================ the writers

/-- The single writes; each ends in at most one call of
`upsert_many`. -/
inductive GapWrite
  | ensure (target : AlignmentTarget) (dimensionKey criterion : String)
      (now : Nat)
  | evaluate (target : AlignmentTarget) (batch : EvidenceBatch) (now : Nat)
  | project (planVersion stateVersion : Nat)
      (coverageMap : List CoverageMapEntry) (claimStates : List ClaimState)
      (now : Nat)

/-- A write, or nothing where it raises. Of a run without a plan the
projection makes no requirement. -/
def GapWrite.apply (runId : RunId) (table : GapTable) :
    GapWrite → Option GapTable
  | .ensure target dimensionKey criterion now =>
      table.ensureRequirement runId target dimensionKey criterion now
  | .evaluate target batch now =>
      table.evaluateDimension runId target batch now
  | .project planVersion stateVersion coverageMap claimStates now =>
      if h : 1 ≤ planVersion ∧ 1 ≤ stateVersion then
        table.upsertMany
          (projectGapRequirements runId planVersion stateVersion h.1 h.2
            coverageMap claimStates now) now
      else none

/-- A transaction on the requirements of a run. -/
inductive GapOperation
  /-- `_align_and_evaluate_evidence` -/
  | alignAndEvaluate (target : AlignmentTarget)
      (batches : List EvidenceBatch) (now : Nat)
  /-- the projection of `finish_iteration` -/
  | projectRequirements (planVersion stateVersion : Nat)
      (coverageMap : List CoverageMapEntry) (claimStates : List ClaimState)
      (now : Nat)

/-- The writes of a transaction, in their order. -/
def GapOperation.writes : GapOperation → List GapWrite
  | .alignAndEvaluate target batches now =>
      (target.acceptanceDimensions.map fun dimension =>
          .ensure target dimension.1 dimension.2 now)
        ++ batches.map fun batch => .evaluate target batch now
  | .projectRequirements planVersion stateVersion coverageMap claimStates
      now =>
      [.project planVersion stateVersion coverageMap claimStates now]

/-- The table under writes. One that raises leaves it as it is. -/
def gapSystem (runId : RunId) : Transition.System GapTable GapWrite where
  init table := table.rows = []
  step table write := (write.apply runId table).getD table

end DeepResearch.Gap
