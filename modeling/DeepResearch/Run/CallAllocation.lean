/-
The seats of the research calls (`research_budget.py`:
`allocate_research_call`).

A call may take its share of what is available, after which every other
seat can still be given the least a call costs. `ResearchCall.allocate`
is the function on all integers; `allocateResearchCall` is the same on
the natural numbers its caller has.

A run of calls has one eligible question fewer after each call. What a
call spends and how often its question was tried before is open.
-/
import DeepResearch.Lib.Transition
import DeepResearch.Run.ModelBudget

namespace DeepResearch.Run

/-- The arguments of `allocate_research_call`. -/
structure ResearchCall where
  available : Int
  eligibleQuestions : Int
  otherUnattempted : Int
  currentAttempts : Int
  minimumCall : Int
  maximumCall : Int
  deriving DecidableEq, Repr

/-- `ResearchBudgetDecision`, of any integers. -/
structure ResearchCallDecision where
  outcome : BudgetOutcome
  callTokens : Int
  futureReserve : Int
  reason : String
  deriving DecidableEq, Repr

namespace ResearchCall

/-- `seats`. -/
def seats (call : ResearchCall) : Int :=
  min (max 1 call.eligibleQuestions) (call.available / call.minimumCall)

/-- `allocate_research_call`. -/
def allocate (call : ResearchCall) :
    Except EvidenceBudgetError ResearchCallDecision :=
  if call.minimumCall ≤ 0 ∨ call.maximumCall < call.minimumCall then
    .error .invalidCallBounds
  else if call.available < call.minimumCall then
    .ok ⟨.stopRun, 0, 0, "no_affordable_call"⟩
  else if 0 < call.currentAttempts ∧ 0 < call.otherUnattempted then
    .ok ⟨.yieldQuestion, 0, 0, "unattempted_questions_first"⟩
  else
    .ok ⟨.execute, min call.maximumCall (call.available / call.seats),
      (call.seats - 1) * call.minimumCall, "affordable_question_share"⟩

/-- The answer is `execute`. -/
def executes (call : ResearchCall) : Bool :=
  match call.allocate with
  | .ok decision => decision.outcome = .execute
  | .error _ => false

/-- `call_tokens` of the answer. -/
def granted (call : ResearchCall) : Int :=
  match call.allocate with
  | .ok decision => decision.callTokens
  | .error _ => 0

end ResearchCall

/-- What a sequence of calls shares. -/
structure ResearchPool where
  available : Int
  eligibleQuestions : Int
  deriving DecidableEq, Repr

/-- A call for the next question, and what it spends. -/
structure CallStep where
  currentAttempts : Int
  otherUnattempted : Int
  spent : Int
  deriving DecidableEq, Repr

section

variable (minimumCall maximumCall : Int)

/-- The question of a step is put to the allocation. -/
def ResearchPool.call (pool : ResearchPool) (a : CallStep) :
    ResearchCall where
  available := pool.available
  eligibleQuestions := pool.eligibleQuestions
  otherUnattempted := a.otherUnattempted
  currentAttempts := a.currentAttempts
  minimumCall
  maximumCall

/-- Calls that share a pool, one question after the other. -/
def callSystem : Transition.System ResearchPool CallStep where
  init pool := 0 ≤ pool.available
  step pool a :=
    { available := pool.available - a.spent
      eligibleQuestions := pool.eligibleQuestions - 1 }

end

end DeepResearch.Run
