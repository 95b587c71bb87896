/-
The Planner's drafts (`domain/planning.py`: `ResearchPlanDraft`,
`CompactResearchPlanDraft`, `normalize_research_plan_draft_payload`).

A payload is a JSON value. What the schema makes of a number field is
open (`laxInt`: Pydantic also takes integral floats and digits for an
`int`); nothing that is said here depends on it. The limits of the
normaliser and the bounds of the schemas stand in the source twice, and
so they do here.
-/
import DeepResearch.Lib.Schema
import DeepResearch.Lib.Words
import DeepResearch.Run.TokenLedger

namespace DeepResearch.Plan

open DeepResearch.Run (isSpace)

abbrev PlanText := List Char

/-- `" ".join(text.split())`. -/
def collapseSpaces (text : PlanText) : PlanText :=
  Words.collapse isSpace ' ' text

-- ============================================================== the schemas

/-- The bounds of a draft's fields. -/
structure DraftSchema where
  scopeSummary : Schema.Bounds
  questions : Schema.Bounds
  question : Schema.Bounds
  rationale : Schema.Bounds
  evidenceRequirements : Schema.Bounds
  evidenceRequirement : Schema.Bounds
  searchHints : Schema.Bounds
  searchHint : Schema.Bounds
  completionCriteria : Schema.Bounds
  completionCriterion : Schema.Bounds

/-- `ResearchPlanDraft`, with `ResearchQuestionDraft`. -/
def researchPlanDraft : DraftSchema :=
  { scopeSummary := ⟨5, 160⟩
    questions := ⟨5, 8⟩
    question := ⟨5, 120⟩
    rationale := ⟨5, 80⟩
    evidenceRequirements := ⟨1, 2⟩
    evidenceRequirement := ⟨2, 60⟩
    searchHints := ⟨1, 2⟩
    searchHint := ⟨2, 80⟩
    completionCriteria := ⟨2, 4⟩
    completionCriterion := ⟨2, 60⟩ }

/-- `CompactResearchPlanDraft`, with `CompactResearchQuestionDraft`. -/
def compactResearchPlanDraft : DraftSchema :=
  { scopeSummary := ⟨5, 100⟩
    questions := ⟨5, 5⟩
    question := ⟨5, 100⟩
    rationale := ⟨5, 50⟩
    evidenceRequirements := ⟨1, 1⟩
    evidenceRequirement := ⟨2, 50⟩
    searchHints := ⟨0, 1⟩
    searchHint := ⟨2, 50⟩
    completionCriteria := ⟨2, 2⟩
    completionCriterion := ⟨2, 60⟩ }

/-- The schema of a size. -/
def draftSchema (compact : Bool) : DraftSchema :=
  if compact then compactResearchPlanDraft else researchPlanDraft

/-- A question of a draft. -/
structure QuestionDraft where
  question : String
  priority : Int
  rationale : String
  evidenceRequirements : List String
  searchHints : List String
  deriving DecidableEq, Repr

/-- A draft. -/
structure PlanDraft where
  scopeSummary : String
  questions : List QuestionDraft
  completionCriteria : List String
  deriving DecidableEq, Repr

section

variable {F : Type} (laxInt : Json F → Option Int)

/-- `int` with `ge=1` and `le=3`. -/
def priority (value : Json F) : Option Int :=
  (laxInt value).filter fun n => 1 ≤ n ∧ n ≤ 3

/-- `model_validate` of a question. -/
def validateQuestion (schema : DraftSchema) (value : Json F) :
    Option QuestionDraft := do
  let items ← Schema.object ["question", "priority", "rationale",
    "evidence_requirements", "search_hints"] value
  let question ← Schema.field (Schema.text schema.question) items "question"
  let priority ← Schema.field (priority laxInt) items "priority"
  let rationale ←
    Schema.field (Schema.text schema.rationale) items "rationale"
  let evidenceRequirements ← Schema.field
    (Schema.list schema.evidenceRequirements
      (Schema.text schema.evidenceRequirement)) items "evidence_requirements"
  let searchHints ← Schema.field
    (Schema.list schema.searchHints (Schema.text schema.searchHint)) items
    "search_hints"
  return { question, priority, rationale, evidenceRequirements, searchHints }

/-- `model_validate` of a draft. -/
def validateDraft (schema : DraftSchema) (value : Json F) :
    Option PlanDraft := do
  let items ← Schema.object
    ["scope_summary", "questions", "completion_criteria"] value
  let scopeSummary ←
    Schema.field (Schema.text schema.scopeSummary) items "scope_summary"
  let questions ← Schema.field
    (Schema.list schema.questions (validateQuestion laxInt schema)) items
    "questions"
  let completionCriteria ← Schema.field
    (Schema.list schema.completionCriteria
      (Schema.text schema.completionCriterion)) items "completion_criteria"
  return { scopeSummary, questions, completionCriteria }

end

-- ============================================================ normalisation

/-- The limits of `normalize_research_plan_draft_payload`. -/
structure DraftLimits where
  scopeLimit : Nat
  questionLimit : Nat
  rationaleLimit : Nat
  requirementLimit : Nat
  hintLimit : Nat
  questionCount : Nat
  requirementCount : Nat
  hintCount : Nat
  criteriaCount : Nat

def draftLimits (compact : Bool) : DraftLimits :=
  { scopeLimit := if compact then 100 else 160
    questionLimit := if compact then 100 else 120
    rationaleLimit := if compact then 50 else 80
    requirementLimit := if compact then 50 else 60
    hintLimit := if compact then 50 else 80
    questionCount := if compact then 5 else 8
    requirementCount := if compact then 1 else 2
    hintCount := if compact then 1 else 2
    criteriaCount := if compact then 2 else 4 }

section

variable {F : Type}

/-- A text with its white space collapsed. -/
def collapsed (value : String) : PlanText :=
  collapseSpaces value.toList

/-- `_clip_text`. -/
def clipText (maxChars : Nat) : Json F → Json F
  | .str value => .str (String.ofList ((collapsed value).take maxChars))
  | value => value

/-- `_clip_text_list`. -/
def clipTextList (maxItems maxChars : Nat) : Json F → Json F
  | .list items => .list ((items.take maxItems).map (clipText maxChars))
  | value => value

/-- The fields of a question that are rewritten, in order. -/
def questionRules (limits : DraftLimits) : List (Schema.Rule F) :=
  [("question", clipText limits.questionLimit),
    ("rationale", clipText limits.rationaleLimit),
    ("evidence_requirements",
      clipTextList limits.requirementCount limits.requirementLimit),
    ("search_hints", clipTextList limits.hintCount limits.hintLimit)]

/-- A `raw_question` as it is bounded. -/
def boundQuestion (limits : DraftLimits) : Json F → Json F
  | .dict items => .dict (Schema.rewriteAll items (questionRules limits))
  | rawQuestion => rawQuestion

/-- The questions, where they are a list; else the key is not set. -/
def boundQuestions (limits : DraftLimits) (items : List (String × Json F)) :
    List (String × Json F) :=
  match Json.get items "questions" with
  | .list questions =>
      Schema.put items "questions" (.list
        ((questions.take limits.questionCount).map (boundQuestion limits)))
  | _ => items

/-- `normalize_research_plan_draft_payload`. -/
def normalizeResearchPlanDraftPayload (compact : Bool) : Json F → Json F
  | .dict items =>
      let limits := draftLimits compact
      let normalized := Schema.rewrite items
        ("scope_summary", clipText limits.scopeLimit)
      let normalized := boundQuestions limits normalized
      .dict (Schema.rewrite normalized
        ("completion_criteria", clipTextList limits.criteriaCount 60))
  | payload => payload

end

end DeepResearch.Plan
