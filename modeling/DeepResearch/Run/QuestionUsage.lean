/-
The token usage the run reports for its questions (`research_tools.py`:
`_question_token_pool_usage`).

The report folds the reservations once, and charges a question with the
rows of the research pool whose lease has not passed. The borrow gate
folds them again at each request (`questionSpend`).

The floors of the questions and the risk states of the last quality
snapshot are read from other columns (`QuestionUsageView`).
-/
import DeepResearch.Run.QuestionBorrow

namespace DeepResearch.Run

/-- `risk_state_by_question`, as far as it is read. -/
structure ReportedRisk where
  priority : Int := 3
  unresolvedHighRisk : Bool := false
  deriving DecidableEq, Repr

structure QuestionUsageView where
  questionTokenFloors : List (String × Int) := []
  riskStateByQuestion : List (String × ReportedRisk) := []
  deriving DecidableEq, Repr

inductive QuestionUsageStatus
  | hardExhausted
  | borrowing
  | targetExhausted
  | available
  deriving DecidableEq, Repr

def QuestionUsageStatus.text : QuestionUsageStatus → String
  | .hardExhausted => "hard_exhausted"
  | .borrowing => "borrowing"
  | .targetExhausted => "target_exhausted"
  | .available => "available"

/-- An entry of the report. -/
structure QuestionUsage where
  floorTokens : Nat
  targetTokens : Nat
  hardLimitTokens : Nat
  settledTokens : Nat
  reservedTokens : Nat
  uncertainTokens : Nat
  committedTokens : Nat
  projectedTokens : Nat
  borrowedTokens : Nat
  remainingToTargetTokens : Nat
  remainingToHardLimitTokens : Nat
  recoveryLimitTokens : Nat
  remainingToRecoveryLimitTokens : Nat
  p1HighRiskException : Bool
  status : QuestionUsageStatus
  deriving DecidableEq, Repr

/-- A row is charged to a question of the report. -/
def ModelBudgetReservationRow.charges (row : ModelBudgetReservationRow)
    (now : Nat) (questionId : String) : Bool :=
  row.questionId = questionId
    && modelTokenPoolForNode row.node = .research
    && !row.leaseExpired now

/-- `charges[question_id][status]`. -/
def TokenLedger.questionCharge (ledger : TokenLedger) (now : Nat)
    (questionId : String) (status : ReservationStatus) : Nat :=
  Counters.weigh
    (fun row =>
      if row.status = status ∧ row.charges now questionId = true then
        match row.status with
        | .settled => row.actualTotal.getD 0
        | .reserved | .uncertain => row.reservedTotal
        | .released => 0
      else 0)
    ledger.reservations

/-- The entry of a question with a target. -/
def TokenLedger.questionUsage (ledger : TokenLedger)
    (view : QuestionUsageView) (now : Nat) (questionId : String)
    (target : Nat) : QuestionUsage :=
  let floor := ((view.questionTokenFloors.lookup questionId).getD 0).toNat
  let settled := ledger.questionCharge now questionId .settled
  let reserved := ledger.questionCharge now questionId .reserved
  let uncertain := ledger.questionCharge now questionId .uncertain
  let projected := settled + reserved + uncertain
  let risk := (view.riskStateByQuestion.lookup questionId).getD {}
  let p1Exception := risk.priority = 1 && risk.unresolvedHighRisk
  let hardLimit := borrowCap target
  let recoveryLimit := recoveryCap target
  { floorTokens := floor
    targetTokens := target
    hardLimitTokens := hardLimit
    settledTokens := settled
    reservedTokens := reserved
    uncertainTokens := uncertain
    committedTokens := settled
    projectedTokens := projected
    borrowedTokens := projected - target
    remainingToTargetTokens := target - projected
    remainingToHardLimitTokens := hardLimit - projected
    recoveryLimitTokens := recoveryLimit
    remainingToRecoveryLimitTokens := recoveryLimit - projected
    p1HighRiskException := p1Exception
    status :=
      if (0 < recoveryLimit ∧ recoveryLimit ≤ projected)
          ∨ (0 < hardLimit ∧ hardLimit ≤ projected
            ∧ p1Exception = false) then .hardExhausted
      else if target < projected then .borrowing
      else if 0 < target ∧ target ≤ projected then .targetExhausted
      else .available }

/-- `_question_token_pool_usage`. -/
def TokenLedger.questionTokenPoolUsage (ledger : TokenLedger)
    (view : QuestionUsageView) (now : Nat) : List (String × QuestionUsage) :=
  ledger.run.budgetSnapshot.allocation.questionTokenBudgets.map
    fun (questionId, target) =>
      (questionId, ledger.questionUsage view now questionId target)

end DeepResearch.Run
