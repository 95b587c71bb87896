/-
The guard of the token budget: what `evidence_model_budget` answers a
research attempt before it calls the model, and what the gates of the
loop make of a stop (`research_tools.py`: `evidence_model_budget`;
`research_budget.py`: `allocate_research_call`,
`estimate_writer_reserve_tokens`; `research_loop.py`: the two places in
`_research_target` that ask).

# How a stop travels

The answer reaches the loop as a text, `stop_run`, and ends the attempt.
`finish_iteration` does not read that text: it asks
`_budget_exhaustion_reason` again, which looks at the persisted flag
`model_budget_guarded` first.

# What comes from other tables

The unfinished questions with their search attempts, and the number of
accepted evidence, are inputs of a call (`EvidenceBudgetView`).
-/
import DeepResearch.Run.ResearchLoop
import DeepResearch.Run.SearchBudget
import DeepResearch.Run.TokenLedger

namespace DeepResearch.Run

-- ============================================================ the seats

/-- `ResearchBudgetDecision.outcome`. -/
inductive BudgetOutcome
  | execute
  | yieldQuestion
  | stopRun
  deriving DecidableEq, Repr

def BudgetOutcome.text : BudgetOutcome → String
  | .execute => "execute"
  | .yieldQuestion => "yield_question"
  | .stopRun => "stop_run"

structure ResearchBudgetDecision where
  outcome : BudgetOutcome
  callTokens : Nat
  futureReserve : Nat
  reason : String
  deriving DecidableEq, Repr

/-- Why `evidence_model_budget` raises. -/
inductive EvidenceBudgetError
  /-- `ValueError`, from `allocate_research_call`. -/
  | invalidCallBounds
  /-- `ResearchLeaseLostError`. -/
  | leaseLost
  deriving DecidableEq, Repr

def EvidenceBudgetError.text : EvidenceBudgetError → String
  | .invalidCallBounds => "invalid call bounds"
  | .leaseLost => "ResearchLeaseLostError"

/-- `allocate_research_call`. -/
def allocateResearchCall (available eligibleQuestions otherUnattempted
    currentAttempts minimumCall maximumCall : Nat) :
    Except EvidenceBudgetError ResearchBudgetDecision :=
  if minimumCall = 0 ∨ maximumCall < minimumCall then
    .error .invalidCallBounds
  else if available < minimumCall then
    .ok ⟨.stopRun, 0, 0, "no_affordable_call"⟩
  else if 0 < currentAttempts ∧ 0 < otherUnattempted then
    .ok ⟨.yieldQuestion, 0, 0, "unattempted_questions_first"⟩
  else
    let seats := min (max 1 eligibleQuestions) (available / minimumCall)
    let allowance := min maximumCall (available / seats)
    .ok ⟨.execute, allowance, (seats - 1) * minimumCall,
      "affordable_question_share"⟩

-- ==================================================== the writer's reserve

/-- `math.ceil(base * 0.15)`. -/
def ceilFifteenPercent (base : Nat) : Nat :=
  (roundToDouble (roundToDouble base * 5404319552844595) + (2 ^ 55 - 1))
    / 2 ^ 55

/-- `estimate_writer_reserve_tokens`, under its default parameters. -/
def estimateWriterReserveTokens
    (questionCount evidenceCount maximum : Nat) : Nat :=
  let base := 1500 + questionCount * 220 + evidenceCount * 180 + 2000
  let margin := max 1 (ceilFifteenPercent base)
  min (max 1 maximum) (base + margin)

/-- `_MAX_REPORT_WRITER_RESERVE_TOKENS`. -/
def maxReportWriterReserveTokens : Nat := 15000

-- =================================================== evidence_model_budget

/-- `_MAX_EVIDENCE_MODEL_CALL_TOKENS`. -/
def maxEvidenceModelCallTokens : Nat := 12000

/-- `_MIN_EVIDENCE_MODEL_CALL_TOKENS`. -/
def minEvidenceModelCallTokens : Nat := 3000

/-- What `evidence_model_budget` reads from other tables: the unfinished
questions with the searches made for each, and `accepted_evidence`. -/
structure EvidenceBudgetView where
  eligible : List (String × Nat) := []
  acceptedEvidence : Nat := 0
  deriving DecidableEq, Repr

/-- The arguments of `evidence_model_budget`. -/
structure EvidenceBudgetCall where
  questionId : Option String := none
  minimumCall : Option Int := none
  deriving DecidableEq, Repr

/-- `EvidenceModelBudget`. -/
structure EvidenceModelBudget where
  allowed : Bool
  maxCallTokens : Nat
  remainingTokens : Nat
  writerReserveTokens : Nat
  outcome : BudgetOutcome
  deriving DecidableEq, Repr

/-- `maximum_call`: the run's own limit, within the fixed bounds. -/
def maximumCall (budget : BudgetSnapshot) : Nat :=
  min maxEvidenceModelCallTokens
    (max minEvidenceModelCallTokens
      (budget.maxEvidenceCallTokens.getD maxEvidenceModelCallTokens))

/-- `effective_minimum`. -/
def EvidenceBudgetCall.effectiveMinimum (call : EvidenceBudgetCall) : Nat :=
  match call.minimumCall with
  | none => minEvidenceModelCallTokens
  | some minimum => (max 1 minimum).toNat

/-- `writer_reserve`: the writer's pool, else an estimate. -/
def writerReserve (view : EvidenceBudgetView) (ledger : TokenLedger) : Nat :=
  let poolLimit :=
    modelTokenPoolLimits ledger.run.budgetSnapshot.allocation .writer
  if poolLimit ≠ 0 then poolLimit
  else if 0 < ledger.maximum then
    estimateWriterReserveTokens view.eligible.length
      (if 0 < view.acceptedEvidence then 20 else 0)
      maxReportWriterReserveTokens
  else 0

/-- `research_available`: what the other pools leave, and the research
pool has left. -/
def researchAvailable (view : EvidenceBudgetView) (now : Nat)
    (ledger : TokenLedger) : Nat :=
  let allocation := ledger.run.budgetSnapshot.allocation
  let globalResearchAvailable :=
    if 0 < ledger.maximum then
      ledger.available now - writerReserve view ledger
        - allocation.verificationTokens.getD 0
        - allocation.safetyTokens.getD 0
    else maxEvidenceModelCallTokens * max 1 view.eligible.length
  let researchPoolLimit := modelTokenPoolLimits allocation .research
  if 0 < researchPoolLimit then
    min globalResearchAvailable
      (researchPoolLimit - ledger.poolCommitted .research now)
  else globalResearchAvailable

/-- `evidence_model_budget`: the answer, and the ledger it leaves. -/
def evidenceModelBudget (workerTaskId : TaskId)
    (call : EvidenceBudgetCall) (view : EvidenceBudgetView) (now : Nat)
    (ledger : TokenLedger) :
    Except EvidenceBudgetError (EvidenceModelBudget × TokenLedger) :=
  let remaining := ledger.available now
  let reserve := writerReserve view ledger
  let effectiveMinimum := call.effectiveMinimum
  let maximumCall := maximumCall ledger.run.budgetSnapshot
  if ledger.run.OwnedBy workerTaskId then
    if maximumCall < effectiveMinimum then
      .ok
        ({ allowed := false, maxCallTokens := 0
           remainingTokens := remaining, writerReserveTokens := reserve
           outcome := .stopRun }, ledger)
    else
      match allocateResearchCall (researchAvailable view now ledger)
          view.eligible.length 0
          ((call.questionId.bind (List.lookup · view.eligible)).getD 0)
          effectiveMinimum maximumCall with
      | .error e => .error e
      | .ok decision =>
          let usage := ledger.run.usageSnapshot
          .ok
            ({ allowed := decision.outcome == .execute
               maxCallTokens := decision.callTokens
               remainingTokens := remaining, writerReserveTokens := reserve
               outcome := decision.outcome },
              ledger.setUsage
                { usage with
                  modelTokens := modelTokens usage
                  modelBudgetGuarded :=
                    usage.modelBudgetGuarded
                      || decision.outcome == .stopRun })
  else .error .leaseLost

-- ================================================================ the loop

/-- The guard of the token budget is set. -/
def TokenLedger.Guarded (ledger : TokenLedger) : Prop :=
  ledger.run.usageSnapshot.modelBudgetGuarded = true

instance TokenLedger.decidableGuarded (ledger : TokenLedger) :
    Decidable ledger.Guarded :=
  inferInstanceAs (Decidable (_ = _))

/-- A write that is none of the two gates and does not ask for a budget:
it does not take back the guard. -/
structure GuardWrite where
  update : TokenLedger → TokenLedger
  guarded : ∀ ledger, ledger.Guarded → (update ledger).Guarded

/-- The ledger, whether an attempt is under way, whether a stop was
answered, and whether research went on after it. -/
structure GuardState where
  ledger : TokenLedger
  working : Bool := false
  stopAnswered : Bool := false
  wentOn : Bool := false

/-- The steps of the loop, as in `LoopAction`, with the calls of
`evidence_model_budget` an attempt makes. -/
inductive GuardAction
  | prepareTarget (workerTaskId : TaskId) (view : SchedulerView Unit)
      (now : Nat)
  | evidenceModelBudget (workerTaskId : TaskId)
      (call : EvidenceBudgetCall) (view : EvidenceBudgetView) (now : Nat)
  | finishIteration (workerTaskId : TaskId) (outcome : AttemptOutcome)
      (view : EvaluationView) (now : Nat)
  | write (write : GuardWrite)
  | restart

/-- One step. An attempt that was answered `stop_run` ends there: the
question does not give up its turn any more, which takes a reservation
that is refused later. -/
def GuardState.step (s : GuardState) : GuardAction → GuardState
  | .prepareTarget workerTaskId view now =>
      match Run.prepareTarget workerTaskId view now s.ledger.run with
      | .ok (run, some _) =>
          { s with
            ledger := { s.ledger with run }
            working := true
            wentOn := s.wentOn || s.stopAnswered }
      | .ok (run, none) =>
          { s with ledger := { s.ledger with run }, working := false }
      | .error _ => s
  | .evidenceModelBudget workerTaskId call view now =>
      if s.working then
        match Run.evidenceModelBudget workerTaskId call view now
            s.ledger with
        | .ok (answer, ledger) =>
            { s with
              ledger
              stopAnswered := s.stopAnswered || answer.outcome == .stopRun }
        | .error _ => s
      else s
  | .finishIteration workerTaskId outcome view now =>
      if s.working ∧ ¬ (s.stopAnswered ∧ outcome.yields) then
        match evaluateIteration workerTaskId outcome view now
            s.ledger.run with
        | .ok (run, evaluation) =>
            { s with
              ledger := { s.ledger with run }
              working := false
              wentOn :=
                s.wentOn || (s.stopAnswered && evaluation.continueResearch) }
        | .error _ => s
      else s
  | .write write => { s with ledger := write.update s.ledger }
  | .restart => { s with working := false }

/-- The loop starts before any stop was answered, in whatever state the
run is. -/
def guardSystem : Transition.System GuardState GuardAction where
  init s := s.stopAnswered = false ∧ s.wentOn = false
  step := GuardState.step

end DeepResearch.Run
