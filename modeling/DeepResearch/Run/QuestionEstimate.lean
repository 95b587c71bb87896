/-
The token targets the questions of a plan start with
(`research_budget.py`: `estimate_question_budgets`).

What the planner and the writer leave is shared out: a floor for every
question, and the rest in proportion to weights taken from the priority
and the requirements of a question. The last row takes what the rounding
leaves.

A question is the JSON object the plan stores. How Python reads a number
from a text, and prints a value that is no text, is open.
-/
import DeepResearch.Lib.Apportion
import DeepResearch.Run.QualityGate

namespace DeepResearch.Run

/-- `QuestionBudgetEstimate`. -/
structure QuestionBudgetEstimate where
  questionId : String
  minimumTokens : Int
  targetTokens : Int
  priority : Int
  complexity : Int
  deriving DecidableEq, Repr

/-- A row of the estimate: `(question_id, priority, complexity,
weight)`. -/
structure QuestionWeight where
  questionId : String
  priority : Int
  complexity : Int
  weight : Int
  deriving DecidableEq, Repr

inductive EstimateError
  /-- `ValueError`. -/
  | negativeBudget
  deriving DecidableEq, Repr

def EstimateError.text : EstimateError → String
  | .negativeBudget => "token budgets must be non-negative"

/-- A planned question. -/
abbrev PlannedQuestion := List (String × Json ℚ)

/-- `len(value)` of a sequence that is no text, else nothing. -/
def sequenceLength : Json ℚ → Nat
  | .list items => items.length
  | _ => 0

section

variable (intOfText : String → Option Int) (strOf : Json ℚ → String)

/-- `_safe_int(value, default=2)`. -/
def priorityInt : Json ℚ → Int
  | .int n => n
  | .float x => if 0 ≤ x then ⌊x⌋ else ⌈x⌉
  | .str text => (intOfText text).getD 2
  | _ => 2

/-- `str(question.get("id") or f"q{index}")`. -/
def questionName (index : Nat) (question : PlannedQuestion) : String :=
  match Json.get question "id" with
  | .str text => if text = "" then "q" ++ toString index else text
  | value => if value.truthy then strOf value else "q" ++ toString index

/-- The row of a question. -/
def questionWeight (index : Nat) (question : PlannedQuestion) :
    QuestionWeight :=
  let priority :=
    min 3 (max 1 (priorityInt intOfText
      ((Json.find? question "priority").getD (.int 2))))
  let requirementCount :=
    sequenceLength (Json.get question "evidence_requirements")
  let hintCount := sequenceLength (Json.get question "search_hints")
  let complexity : Int :=
    1 + requirementCount + max 0 ((hintCount : Int) - 1)
  { questionId := questionName strOf index question
    priority, complexity
    weight := (4 - priority) + complexity }

/-- `rows`. -/
def questionWeights (questions : List PlannedQuestion) :
    List QuestionWeight :=
  questions.mapIdx fun index question =>
    questionWeight intOfText strOf (index + 1) question

end

/-- The estimate of a row. -/
def QuestionWeight.estimate (row : QuestionWeight)
    (minimumTokens targetTokens : Int) : QuestionBudgetEstimate where
  questionId := row.questionId
  minimumTokens
  targetTokens
  priority := row.priority
  complexity := row.complexity

/-- The loop over the rows: `remaining_pool` goes down by each share, and
the last row takes what is left of it. -/
def spreadEstimates (remaining totalWeight floor : Int) :
    Int → List QuestionWeight → List QuestionBudgetEstimate
  | _, [] => []
  | remainingPool, [row] => [row.estimate floor (floor + remainingPool)]
  | remainingPool, row :: next :: rows =>
      let share := remaining * row.weight / totalWeight
      row.estimate floor (floor + share)
        :: spreadEstimates remaining totalWeight floor
          (remainingPool - share) (next :: rows)

def assignedTokens (estimates : List QuestionBudgetEstimate) : Int :=
  (estimates.map (·.targetTokens)).sum

/-- What is not assigned is given to the first row. -/
def topUpFirst (pool : Int) :
    List QuestionBudgetEstimate → List QuestionBudgetEstimate
  | [] => []
  | first :: rest =>
      let assigned := assignedTokens (first :: rest)
      if assigned < pool then
        { first with targetTokens := first.targetTokens + pool - assigned }
          :: rest
      else first :: rest

/-- `estimate_question_budgets`, of the rows. -/
def estimateRows (pool floor : Int) (rows : List QuestionWeight) :
    List QuestionBudgetEstimate :=
  if pool < floor * rows.length then
    let equal := pool / rows.length
    rows.map fun row => row.estimate equal equal
  else
    let remaining := pool - floor * rows.length
    topUpFirst pool
      (spreadEstimates remaining (rows.map (·.weight)).sum floor remaining
        rows)

/-- `estimate_question_budgets`. -/
def estimateQuestionBudgets (intOfText : String → Option Int)
    (strOf : Json ℚ → String) (questions : List PlannedQuestion)
    (maxTokens plannerTokens writerReserve minimumPerQuestion : Int) :
    Except EstimateError (List QuestionBudgetEstimate) :=
  if maxTokens < 0 ∨ plannerTokens < 0 ∨ writerReserve < 0 then
    .error .negativeBudget
  else if questions.isEmpty then .ok []
  else
    .ok (estimateRows (max 0 (maxTokens - plannerTokens - writerReserve))
      (max 1 minimumPerQuestion)
      (questionWeights intOfText strOf questions))

end DeepResearch.Run
