/-
Gap-resolution replanning (`research_runs.py`,
`save_gap_resolution_plan`).

The next plan version is a copy of the current one in which the targeted
questions get new hints and are pending again; what the run remembers of
the targeted questions is reset. The copies are handed to the session
one by one, and the transaction commits whenever the function returns,
whatever it returns.

Rows are taken in table order, which decides only the order of the reset
ids. The hints of a targeted question are a parameter: nothing here
reads them back. The resource pools, a figure derived from the usage,
are left out.
-/
import Mathlib.Data.List.AList
import DeepResearch.Run.Basic

namespace DeepResearch.Plan

open DeepResearch.Run (ResearchRunRow TaskId)

-- ================================================================== rows

/-- A row of `research_plan_items`, less its ids. -/
structure ResearchPlanItemRow where
  planVersion : Nat
  questionId : String
  question : String
  priority : Nat
  rationale : String
  evidenceRequirements : List String
  searchHints : List String
  status : String := "pending"
  deriving DecidableEq

/-- What `uq_research_plan_item_version_question` keeps unique. -/
def ResearchPlanItemRow.key (row : ResearchPlanItemRow) : Nat × String :=
  (row.planVersion, row.questionId)

/-- The plan items of a run, under the unique constraint. -/
structure PlanTable where
  rows : List ResearchPlanItemRow
  nodup : (rows.map (·.key)).Nodup

/-- The items of one plan version. -/
def PlanTable.version (table : PlanTable) (planVersion : Nat) :
    List ResearchPlanItemRow :=
  table.rows.filter (·.planVersion = planVersion)

/-- The rows a session adds, or nothing where the flush refuses them. -/
def PlanTable.insertAll (table : PlanTable)
    (rows : List ResearchPlanItemRow) : Option PlanTable :=
  if h : ((table.rows ++ rows).map (·.key)).Nodup then
    some ⟨table.rows ++ rows, h⟩
  else none

/-- An entry of `question_budget_exhausted_by_question`: a legacy flag,
or a record with its reason. -/
inductive ExhaustionEntry
  | flag (exhausted : Bool)
  | record (reason : String)
  deriving DecidableEq

/-- `hard_exhaustion`. -/
def ExhaustionEntry.isHard : ExhaustionEntry → Bool
  | .flag _ => false
  | .record reason => reason = "hard_question_token_limit"

/-- The part of `usage_snapshot` that is kept for each question. A field
that is absent or no mapping is `none`. -/
structure QuestionUsage where
  replanRequested : Bool := false
  replans : Nat := 0
  questionBudgetExhausted :
    Option (AList fun _ : String => ExhaustionEntry) := none
  queryStrategyExhausted : Option (AList fun _ : String => Bool) := none
  executedQueryFamilies : Option (AList fun _ : String => List String) :=
    none
  frozenQuestions : Option (List String) := none

/-- One entry of `risk_state_by_question`. -/
structure RiskState where
  reasons : List String := []
  gapOpen : Bool := false
  lifecycle : String := ""
  borrowEligible : Bool := false
  unresolvedHighRisk : Bool := false
  deriving DecidableEq

/-- `risk_state`, less its questions, which are those of
`risk_state_by_question`. -/
structure RiskSummary where
  version : String := ""
  planVersion : Option Nat := none
  unresolvedQuestions : Nat := 0
  borrowEligibleQuestions : Nat := 0
  deriving DecidableEq

/-- What replanning resets of `quality_snapshot`. -/
structure QualityState where
  lowStreakByQuestion : Option (AList fun _ : String => Nat) := none
  lowStreak : Nat := 0
  riskStates : AList fun _ : String => RiskState := ∅
  risk : RiskSummary := {}

/-- The event `plan.revised`. -/
structure PlanRevised where
  planVersion : Nat
  questionIds : List String
  questionCount : Nat
  deriving DecidableEq

/-- A run with its plan. -/
structure PlannedRun where
  run : ResearchRunRow
  items : PlanTable
  usage : QuestionUsage := {}
  quality : QualityState := {}
  events : List PlanRevised := []

-- ================================================================ resets

/-- The entries of some questions are popped, those that are kept
excepted; a mapping that becomes empty is removed. -/
def popQuestions {V : Type} (keep : V → Bool)
    (values : Option (AList fun _ : String => V))
    (questionIds : List String) : Option (AList fun _ : String => V) :=
  if questionIds = [] then values
  else values.bind fun entries =>
    let remaining := questionIds.foldl
      (fun remaining questionId =>
        if (remaining.lookup questionId).any keep then remaining
        else remaining.erase questionId) entries
    if remaining.keys = [] then none else some remaining

/-- `_reset_plan_scoped_question_budget`. -/
def resetPlanScopedQuestionBudget (usage : QuestionUsage)
    (resetQuestionIds : List String) : QuestionUsage :=
  { usage with
    replanRequested := false
    questionBudgetExhausted :=
      popQuestions ExhaustionEntry.isHard usage.questionBudgetExhausted
        resetQuestionIds
    queryStrategyExhausted :=
      popQuestions (fun _ => false) usage.queryStrategyExhausted
        resetQuestionIds
    executedQueryFamilies :=
      popQuestions (fun _ => false) usage.executedQueryFamilies
        resetQuestionIds
    frozenQuestions :=
      if resetQuestionIds = [] then usage.frozenQuestions
      else usage.frozenQuestions.map fun frozen =>
        frozen.filter fun questionId => questionId ∉ resetQuestionIds }

/-- A risk state that a replan reopens. -/
def RiskState.reopen (state : RiskState) : RiskState :=
  { state with
    reasons :=
      if "replan_reopened" ∈ state.reasons then state.reasons
      else state.reasons ++ ["replan_reopened"]
    gapOpen := true
    lifecycle := "open"
    borrowEligible := state.unresolvedHighRisk }

/-- `_reset_replanned_quality_state`. -/
def resetReplannedQualityState (quality : QualityState)
    (resetQuestionIds : List String) (planVersion : Nat) : QualityState :=
  let states := resetQuestionIds.foldl
    (fun states questionId =>
      states.insert questionId
        ((states.lookup questionId).getD {}).reopen) quality.riskStates
  { lowStreakByQuestion := quality.lowStreakByQuestion.map fun streaks =>
      resetQuestionIds.foldl (fun streaks questionId =>
        streaks.erase questionId) streaks
    lowStreak := 0
    riskStates := states
    risk :=
      { version := "claim_gap.v2"
        planVersion := some planVersion
        unresolvedQuestions :=
          states.entries.countP (·.2.unresolvedHighRisk)
        borrowEligibleQuestions :=
          states.entries.countP (·.2.borrowEligible) } }

-- ============================================================ replanning

/-- `ResearchQuestion` accepts a row: the pattern of its id and the
bounds of its fields. -/
def ResearchPlanItemRow.validQuestion (row : ResearchPlanItemRow) : Bool :=
  let between (lower upper length : Nat) : Bool :=
    lower ≤ length && length ≤ upper
  (match row.questionId.toList with
    | 'q' :: first :: rest =>
        '1' ≤ first && first ≤ '9'
          && rest.all fun c => '0' ≤ c && c ≤ '9'
    | _ => false)
  && between 5 500 row.question.length
  && between 1 3 row.priority
  && between 5 500 row.rationale.length
  && between 1 5 row.evidenceRequirements.length
  && row.searchHints.length ≤ 3

/-- A gap: a question and what is missing. -/
abbrev PlanGap := String × List String

/-- `targets.get(question_id)`, of the first three gaps. -/
def targetReasons (gaps : List PlanGap) (questionId : String) :
    Option (List String) :=
  ((gaps.take 3).reverse.find? (·.1 = questionId)).map (·.2)

/-- Why `save_gap_resolution_plan` raises; the transaction is then rolled
back. -/
inductive PlanError
  /-- `ValidationError` of a targeted question -/
  | invalidQuestion
  /-- `IntegrityError` of the unique constraint -/
  | duplicateItem
  deriving DecidableEq, Repr

section

-- `build_gap_resolution_hints`, of a question, its reasons and the rotation
variable (buildGapResolutionHints :
  ResearchPlanItemRow → List String → Nat → List String)

/-- The row of the next version for a row of the current one. -/
def nextItem (gaps : List PlanGap) (planVersion : Nat)
    (row : ResearchPlanItemRow) : Except PlanError ResearchPlanItemRow :=
  match targetReasons gaps row.questionId with
  | none => .ok { row with planVersion }
  | some reasons =>
      if row.validQuestion then .ok
        { row with
          planVersion
          searchHints := buildGapResolutionHints row reasons planVersion
          status := "pending" }
      else .error .invalidQuestion

/-- `save_gap_resolution_plan`: what it returns, and the run it commits
when it returns. -/
def saveGapResolutionPlan (state : PlannedRun) (workerTaskId : TaskId)
    (gaps : List PlanGap) (now : Nat) : Except PlanError (Bool × PlannedRun) :=
  if ¬ (state.run.OwnedBy workerTaskId ∧ 1 ≤ state.run.planVersion) then
    .ok (false, state)
  else if gaps.take 3 = [] then .ok (false, state)
  else
    let rows := state.items.version state.run.planVersion
    let planVersion := state.run.planVersion + 1
    match rows.mapM (nextItem buildGapResolutionHints gaps planVersion) with
    | .error e => .error e
    | .ok items =>
        match state.items.insertAll items with
        | none => .error .duplicateItem
        | some table =>
            let resetIds := (rows.map (·.questionId)).filter
              fun questionId => (targetReasons gaps questionId).isSome
            if resetIds = [] then .ok (false, { state with items := table })
            else .ok (true,
              { run :=
                  { state.run with
                    planVersion
                    phase := .researching
                    terminationReason := none
                    updatedAt := now
                    stateVersion := state.run.stateVersion + 1 }
                items := table
                usage :=
                  { resetPlanScopedQuestionBudget state.usage resetIds with
                    replans := state.usage.replans + 1 }
                quality :=
                  resetReplannedQualityState state.quality resetIds
                    planVersion
                events := state.events
                  ++ [{ planVersion, questionIds := resetIds,
                        questionCount := rows.length }] })

end

end DeepResearch.Plan
