/-
The borrow gate of a question's token budget (`research_budget.py`:
`decide_question_borrow`; `question_research_state.py`: the states it
reads; `research_tools.py`: the gate of `reserve_model_tokens`).

A question has a target of tokens. A request that would take its spend
over the target is put to the gate, which weighs the question's risk and
its research so far. The normal envelope is one and a half targets; the
recovery exceptions widen it to two.

Where the risk, the utility and the search history come from is left
open (`BorrowFacts`): the bounds hold whatever they are. The utility is
the rational number its double stands for.
-/
import DeepResearch.Lib.Binary64
import DeepResearch.Run.BudgetShares
import DeepResearch.Run.TokenLedger

namespace DeepResearch.Run

open Binary64 (nearest)

-- ================================================================= states

inductive ResearchOpportunityState
  | notStarted
  | active
  | completedWithGap
  | completedQuality
  | blockedTechnical
  | blockedResource
  deriving DecidableEq, Repr

inductive RecoveryEligibilityState
  | notEvaluated
  | eligible
  | denied
  | deferred
  deriving DecidableEq, Repr

/-- The parts of `QuestionResearchState` the gate reads. -/
structure QuestionResearchState where
  researchOpportunity : ResearchOpportunityState
  recoveryEligibility : RecoveryEligibilityState
  deriving DecidableEq, Repr

inductive VerificationState
  | notRequired
  | required
  | verified
  | blocked
  deriving DecidableEq, Repr

/-- The parts of `QuestionRiskState` the gate reads. -/
structure QuestionRiskState where
  priority : Int
  unresolvedHighRisk : Bool
  gapOpen : Bool
  openDimensionKeys : List String
  verificationState : VerificationState
  borrowEligible : Bool
  deriving DecidableEq, Repr

/-- The arguments of `decide_question_borrow` that do not come from the
ledger. -/
structure BorrowFacts where
  state : QuestionRiskState
  allFirstPassesComplete : Bool
  researchState : Option QuestionResearchState := none
  expectedUtility : ℚ
  lowGainStreak : Int
  hasUntriedQueryFamily : Bool := false
  deriving DecidableEq, Repr

-- =============================================================== the gate

/-- `borrow_cap`: `int(target_tokens * 1.5)`. -/
def borrowCap : Nat → Nat := floatShare 3 1

/-- `recovery_cap`: `int(target_tokens * 2.0)`. -/
def recoveryCap : Nat → Nat := floatShare 2 0

namespace BorrowFacts

variable (facts : BorrowFacts)

def acceptanceGapOpen : Bool :=
  facts.state.gapOpen || !facts.state.openDimensionKeys.isEmpty

def p1HighRiskException : Bool :=
  facts.state.priority = 1 && facts.state.unresolvedHighRisk

def highRiskRecoveryException : Bool :=
  facts.state.unresolvedHighRisk && facts.hasUntriedQueryFamily

def acceptanceRecoveryException : Bool :=
  facts.acceptanceGapOpen && facts.hasUntriedQueryFamily

def replannedHighRiskException : Bool :=
  facts.state.unresolvedHighRisk && facts.acceptanceGapOpen
    && facts.lowGainStreak < 2

def recoveryException : Bool :=
  facts.p1HighRiskException || facts.highRiskRecoveryException
    || facts.acceptanceRecoveryException || facts.replannedHighRiskException

def p1RecoveryVariant : Bool :=
  facts.state.priority = 1 && facts.state.unresolvedHighRisk
    && facts.hasUntriedQueryFamily

/-- What the question's first passes leave to decide. Without a research
state it is the first passes of the whole plan that count. -/
def firstPassDenial : Option (String × Bool) :=
  match facts.researchState with
  | none =>
      if facts.allFirstPassesComplete then none
      else some ("first_pass_floor_protected", false)
  | some research =>
      if research.researchOpportunity = .notStarted then
        some ("first_pass_floor_protected", false)
      else
        match research.recoveryEligibility with
        | .notEvaluated | .deferred =>
            some ("first_pass_floor_protected", false)
        | .denied => some ("recovery_ineligible", true)
        | .eligible => none

end BorrowFacts

/-- `QuestionBorrowDecision`, with the freeze of the question. -/
structure BorrowDecision extends QuestionBorrowDecision where
  freezeQuestion : Bool := false
  deriving DecidableEq, Repr

def BorrowDecision.denied (reason : String) (hardLimit freezeQuestion : Bool) :
    BorrowDecision :=
  { allowed := false, reason, hardLimit, freezeQuestion }

def BorrowDecision.granted (reason : String) : BorrowDecision :=
  { allowed := true, reason }

/-- `utility_threshold`. -/
def utilityThreshold : ℚ := nearest (5 / 1000)

/-- `decide_question_borrow`. -/
def decideQuestionBorrow (facts : BorrowFacts)
    (projectedSpend targetTokens : Nat) : BorrowDecision :=
  if projectedSpend ≤ targetTokens then .granted "within_question_target"
  else
    match facts.firstPassDenial with
    | some (reason, freeze) => .denied reason false freeze
    | none =>
        if borrowCap targetTokens < projectedSpend
            ∧ facts.recoveryException = false then
          .denied "hard_question_token_limit" true false
        else if facts.recoveryException = true
            ∧ recoveryCap targetTokens < projectedSpend then
          .denied "bounded_recovery_limit" true true
        else if facts.state.verificationState = .blocked then
          .denied "verification_blocked" false true
        else if (facts.state.unresolvedHighRisk = false
              ∧ facts.acceptanceGapOpen = false)
            ∨ (facts.state.borrowEligible = false
              ∧ facts.acceptanceGapOpen = false) then
          .denied "no_unresolved_high_risk_gap" false true
        else if 2 ≤ facts.lowGainStreak
            ∧ ¬ (facts.p1RecoveryVariant = true
              ∨ facts.acceptanceRecoveryException = true) then
          .denied "low_gain_streak" false true
        else if facts.expectedUtility < utilityThreshold then
          .denied "expected_utility_below_threshold" false true
        else .granted "high_risk_high_utility_borrow"

-- ================================================================= a run

/-- `question_limit`: the target of a question. -/
def TokenLedger.questionTarget (ledger : TokenLedger)
    (questionId : String) : Nat :=
  (ledger.run.budgetSnapshot.allocation.questionTokenBudgets.lookup
    questionId).getD 0

/-- The gate, as `reserve_model_tokens` puts a request to it: the spend
comes from the ledger at each request. -/
def TokenLedger.borrowDecision (ledger : TokenLedger)
    (request : TokenRequest) (facts : BorrowFacts) : BorrowDecision :=
  decideQuestionBorrow facts
    (ledger.questionSpend request.questionId + request.requested)
    (ledger.questionTarget request.questionId)

/-- An operation on the ledger, with what the gate is told when the
operation is a request. -/
structure BorrowAction where
  action : LedgerAction
  facts : BorrowFacts
  deriving DecidableEq

/-- The operation, decided by the gate. -/
def BorrowAction.decided (a : BorrowAction) (ledger : TokenLedger) :
    LedgerAction :=
  match a.action.op with
  | .reserveModelTokens request _ =>
      { a.action with
        op := .reserveModelTokens request
          (ledger.borrowDecision request a.facts).toQuestionBorrowDecision }
  | _ => a.action

/-- The ledger under the gate. -/
def borrowSystem : Transition.System TokenLedger BorrowAction where
  init := TokenLedger.IsFresh
  step ledger a := ledger.step (a.decided ledger)

end DeepResearch.Run
