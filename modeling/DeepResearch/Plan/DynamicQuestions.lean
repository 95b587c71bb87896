/-
Follow-up questions for a plan (`domain/planning.py`: `ResearchQuestion`,
`ResearchPlan`, `append_dynamic_questions`, `build_gap_driven_questions`).

Texts are lists of code points, and `str.casefold` is a parameter: any
function of texts will do. A copy made by `model_copy` is not validated,
so records are plain, and what a constructor checks is `Valid`.

Python converts numbers to and from decimal texts only up to a number of
digits (`maxStrDigits`); an id has no such bound. The loop that looks for
a free number has fuel for every id that is in use.
-/
import DeepResearch.Plan.DraftPayload

namespace DeepResearch.Plan

def maxDynamicQuestions : Nat := 12

def maxDynamicAppend : Nat := 3

/-- What the functions below raise. -/
inductive PlanningError
  | validationError
  | intStringLimit
  | invalidLiteral
  | emptyMax
  | tooManyAdditions
  | budgetExhausted
  | outOfFuel
  deriving DecidableEq, Repr

/-- The texts of the errors the functions raise themselves. -/
def PlanningError.message? : PlanningError → Option String
  | .tooManyAdditions =>
      some "at most three dynamic questions may be added per revision"
  | .budgetExhausted => some "dynamic question budget exhausted"
  | _ => none

-- ================================================================ numbers

/-- `sys.int_info.default_max_str_digits`. -/
def maxStrDigits : Nat := 4300

/-- `int(text)`, of a text of ASCII digits. -/
def pyInt (text : PlanText) : Except PlanningError Nat :=
  if text.isEmpty ∨ ¬ text.all Char.isDigit then .error .invalidLiteral
  else if maxStrDigits < text.length then .error .intStringLimit
  else .ok (Nat.ofDigitChars 10 text 0)

/-- `str(n)`. -/
def pyStr (n : Nat) : Except PlanningError PlanText :=
  if maxStrDigits < (Nat.toDigits 10 n).length then .error .intStringLimit
  else .ok (Nat.toDigits 10 n)

-- ================================================================ records

/-- `ResearchQuestion`. -/
structure ResearchQuestion where
  id : PlanText
  question : PlanText
  priority : Int
  rationale : PlanText
  evidenceRequirements : List PlanText
  searchHints : List PlanText := []
  deriving DecidableEq, Repr

/-- The pattern `^q[1-9][0-9]*$`. -/
def matchesId : PlanText → Bool
  | 'q' :: first :: rest =>
      first.isDigit && first ≠ '0' && rest.all Char.isDigit
  | _ => false

/-- What `ResearchQuestion` validates. -/
structure ResearchQuestion.Valid (q : ResearchQuestion) : Prop where
  id : matchesId q.id = true
  question : 5 ≤ q.question.length ∧ q.question.length ≤ 500
  priority : 1 ≤ q.priority ∧ q.priority ≤ 3
  rationale : 5 ≤ q.rationale.length ∧ q.rationale.length ≤ 500
  evidenceRequirements : 1 ≤ q.evidenceRequirements.length
    ∧ q.evidenceRequirements.length ≤ 5
  searchHints : q.searchHints.length ≤ 3

instance (q : ResearchQuestion) : Decidable q.Valid :=
  decidable_of_iff (matchesId q.id = true
      ∧ (5 ≤ q.question.length ∧ q.question.length ≤ 500)
      ∧ (1 ≤ q.priority ∧ q.priority ≤ 3)
      ∧ (5 ≤ q.rationale.length ∧ q.rationale.length ≤ 500)
      ∧ (1 ≤ q.evidenceRequirements.length
        ∧ q.evidenceRequirements.length ≤ 5)
      ∧ q.searchHints.length ≤ 3)
    ⟨fun ⟨h₁, h₂, h₃, h₄, h₅, h₆⟩ => ⟨h₁, h₂, h₃, h₄, h₅, h₆⟩,
      fun ⟨h₁, h₂, h₃, h₄, h₅, h₆⟩ => ⟨h₁, h₂, h₃, h₄, h₅, h₆⟩⟩

/-- `ResearchQuestion(...)`. -/
def ResearchQuestion.create (q : ResearchQuestion) :
    Except PlanningError ResearchQuestion :=
  if q.Valid then .ok q else .error .validationError

/-- `ResearchPlan`. -/
structure ResearchPlan where
  goal : PlanText
  scopeSummary : PlanText
  questions : List ResearchQuestion
  completionCriteria : List PlanText
  deriving DecidableEq, Repr

/-- What `ResearchPlan` validates. -/
structure ResearchPlan.Valid (plan : ResearchPlan) : Prop where
  goal : 5 ≤ plan.goal.length ∧ plan.goal.length ≤ 2000
  scopeSummary :
    5 ≤ plan.scopeSummary.length ∧ plan.scopeSummary.length ≤ 1000
  questions : ∀ q ∈ plan.questions, q.Valid
  questions_length : 5 ≤ plan.questions.length
    ∧ plan.questions.length ≤ maxDynamicQuestions
  completionCriteria : 2 ≤ plan.completionCriteria.length
    ∧ plan.completionCriteria.length ≤ 8
  unique_ids : (plan.questions.map (·.id)).Nodup

-- =============================================================== appending

section

variable (casefold : PlanText → PlanText)

/-- A text up to white space and case. -/
def textKey (text : PlanText) : PlanText :=
  casefold (collapseSpaces text)

/-- The loop of `append_dynamic_questions`. -/
def appendLoop : List ResearchQuestion → List ResearchQuestion →
    List PlanText → Except PlanningError (List ResearchQuestion)
  | [], merged, _ => .ok merged
  | question :: additions, merged, existingText =>
      let normalized := collapseSpaces question.question
      if casefold normalized ∈ existingText then
        appendLoop additions merged existingText
      else if merged.length ≥ maxDynamicQuestions then
        .error .budgetExhausted
      else
        appendLoop additions
          (merged ++ [{ question with question := normalized }])
          (casefold normalized :: existingText)

/-- `append_dynamic_questions`. -/
def appendDynamicQuestions (plan : ResearchPlan)
    (additions : List ResearchQuestion) : Except PlanningError ResearchPlan :=
  if additions.length > maxDynamicAppend then .error .tooManyAdditions
  else do
    let existingText := plan.questions.map fun q =>
      textKey casefold q.question
    let merged ← appendLoop casefold additions plan.questions existingText
    return { plan with questions := merged }

end

-- ================================================================ building

/-- An entry of `gaps`. -/
structure CoverageGap where
  dimensionKey : PlanText
  question : PlanText
  missingReasons : List PlanText
  priority : Int
  deriving DecidableEq, Repr

namespace CoverageGap

variable (gap : CoverageGap)

/-- `reason_text`. -/
def reasonText : PlanText :=
  let reasons := "; ".toList.intercalate gap.missingReasons
  if reasons.isEmpty then "缺少满足验收标准的独立证据".toList else reasons

/-- `follow_up`. -/
def followUp : PlanText :=
  ("针对研究问题「".toList ++ (gap.question
    ++ "」, 还需哪些独立公开证据补齐缺口: ".toList
    ++ gap.reasonText ++ "?".toList)).take 500

/-- The question that is built for a gap, under an id. -/
def draft (id : PlanText) : ResearchQuestion :=
  { id := id
    question := gap.followUp
    priority := max 1 (min gap.priority 3)
    rationale := "Evaluator 发现维度 ".toList ++ gap.dimensionKey
      ++ " 尚未满足验收标准.".toList
    evidenceRequirements := (gap.missingReasons.take 4
      ++ ["至少一个此前未使用的独立来源".toList]).take 5
    searchHints := [gap.question.take 300,
      gap.question.take 260 ++ " independent source".toList] }

end CoverageGap

/-- The id of a number. -/
def numberedId (n : Nat) : Except PlanningError PlanText := do
  let digits ← pyStr n
  return 'q' :: digits

/-- The `while` loop: the first number from `n` on whose id is free. -/
def nextFree (usedIds : List PlanText) : Nat → Nat → Except PlanningError Nat
  | 0, _ => .error .outOfFuel
  | fuel + 1, n => do
      let id ← numberedId n
      if id ∈ usedIds then nextFree usedIds fuel (n + 1) else return n

/-- The `for` loop of `build_gap_driven_questions`. -/
def buildLoop (available : Nat) : List CoverageGap →
    List ResearchQuestion → List PlanText → Nat →
    Except PlanningError (List ResearchQuestion)
  | [], additions, _, _ => .ok additions
  | gap :: gaps, additions, usedIds, nextNumber =>
      if additions.length ≥ available then .ok additions
      else do
        let number ← nextFree usedIds (usedIds.length + 1) nextNumber
        let id ← numberedId number
        let question ← (gap.draft id).create
        buildLoop available gaps (additions ++ [question]) (id :: usedIds)
          (number + 1)

/-- `max(...)` of the numbers. -/
def pyMax : List Nat → Except PlanningError Nat
  | [] => .error .emptyMax
  | n :: ns => .ok (ns.foldl max n)

/-- `available`. -/
def ResearchPlan.available (plan : ResearchPlan) : Nat :=
  min maxDynamicAppend (maxDynamicQuestions - plan.questions.length)

/-- `build_gap_driven_questions`. -/
def buildGapDrivenQuestions (plan : ResearchPlan)
    (gaps : List CoverageGap) :
    Except PlanningError (List ResearchQuestion) := do
  let numbers ← plan.questions.mapM fun q => pyInt (q.id.drop 1)
  let last ← pyMax numbers
  buildLoop plan.available gaps [] (plan.questions.map (·.id)) (last + 1)

/-- The follow-up questions of some gaps, in the plan. -/
def extendPlan (casefold : PlanText → PlanText) (plan : ResearchPlan)
    (gaps : List CoverageGap) : Except PlanningError ResearchPlan := do
  let additions ← buildGapDrivenQuestions plan gaps
  appendDynamicQuestions casefold plan additions

end DeepResearch.Plan
