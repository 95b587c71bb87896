/-
One planner attempt (`services/planner.py`: `PlannerService.generate`;
`research_graph.py`: `planner_node`): reserve, a first call, a compact
repair call when the first answer cannot be used, and the plan saved
with the usage of both.

What the provider and the schema validation answer is the input of an
attempt; so is whether the compact request can be built. What the
attempt does to the reservation and to the usage snapshot is computed.
-/
import DeepResearch.Run.TokenLedger

namespace DeepResearch.Run

-- ================================================================== calls

/-- A provider's `TokenUsage`, and whether its accuracy is EXACT. -/
structure CallUsage where
  tokens : TokenUsage
  exact : Bool
  deriving DecidableEq, Repr

/-- `ModelGatewayError`, less its diagnostics. -/
structure ModelGatewayError where
  code : String
  retryable : Bool
  detailCode : Option String := none
  usage : Option CallUsage := none
  deriving DecidableEq, Repr

/-- How a call ended: the gateway raised, or a result came back whose
payload passes the plan schema or fails it with a detail. -/
inductive ModelCall
  | raised (error : ModelGatewayError)
  | returned (usage : CallUsage) (schemaFailure : Option String)
  deriving DecidableEq, Repr

/-- The usage a call returned. -/
def ModelCall.usage : ModelCall → Option CallUsage
  | .raised error => error.usage
  | .returned usage _ => some usage

/-- `_PLANNER_RETRYABLE_OUTPUT_ERRORS`. -/
def plannerRetryableOutputErrors : List String :=
  ["MODEL_OUTPUT_INVALID", "MODEL_OUTPUT_TRUNCATED"]

/-- `_PLANNER_OUTPUT_TOKENS`. -/
def plannerOutputTokens : Nat := 4000

/-- `_combine_optional_usage`. -/
def combineOptionalUsage (first : Option CallUsage) (second : CallUsage) :
    CallUsage :=
  match first with
  | none => second
  | some first =>
      { tokens :=
          { inputTokens :=
              first.tokens.inputTokens + second.tokens.inputTokens
            outputTokens :=
              first.tokens.outputTokens + second.tokens.outputTokens
            totalTokens :=
              first.tokens.totalTokens + second.tokens.totalTokens }
        exact := first.exact && second.exact }

/-- The error a payload that fails the schema is turned into. -/
def schemaInvalid (detail : String) (usage : CallUsage) :
    ModelGatewayError :=
  { code := "MODEL_OUTPUT_SCHEMA_INVALID"
    retryable := false
    detailCode := some detail
    usage := some usage }

/-- `_planner_retry_error`. -/
def plannerRetryError (error firstError : ModelGatewayError) :
    ModelGatewayError :=
  { code :=
      if error.code = "MODEL_OUTPUT_TRUNCATED" then
        "PLAN_OUTPUT_BUDGET_EXCEEDED"
      else error.code
    retryable := error.retryable
    detailCode := error.detailCode
    usage :=
      match error.usage with
      | some usage => some (combineOptionalUsage firstError.usage usage)
      | none => firstError.usage }

-- ================================================================ attempts

/-- An attempt, and what it will meet. `maxOutputTokens` is the
binding's, of which zero counts as absent. -/
structure PlannerAttempt where
  workerTaskId : TaskId
  attemptId : AttemptId
  maxOutputTokens : Option Nat := none
  borrow : QuestionBorrowDecision
  first : ModelCall
  compactRequestBuilt : Bool
  compact : ModelCall
  questionTokenBudgets : List (String × Nat) := []
  startedAt : Nat
  finishedAt : Nat
  deriving DecidableEq

/-- Why an attempt raises. -/
inductive PlannerError
  | ledger (error : LedgerError)
  | gateway (error : ModelGatewayError)
  /-- Whatever `_build_compact_request` raised. -/
  | compactRequest
  deriving DecidableEq, Repr

/-- `min(_PLANNER_OUTPUT_TOKENS, max_output_tokens or …)`. -/
def PlannerAttempt.outputTokens (attempt : PlannerAttempt) : Nat :=
  let limit := attempt.maxOutputTokens.getD 0
  min plannerOutputTokens (if limit = 0 then plannerOutputTokens else limit)

/-- The planner's reservation request. -/
def PlannerAttempt.request (attempt : PlannerAttempt) : TokenRequest :=
  { questionId := "__planner__"
    node := "planner"
    attemptId := attempt.attemptId
    estimatedInput := 1500
    maxOutput := attempt.outputTokens }

/-- The ledger after an operation made under the run's lock, which the
attempt holds since it has reserved. -/
def TokenLedger.after (ledger : TokenLedger)
    (result : Except LedgerError (Bool × TokenLedger)) : TokenLedger :=
  match result with
  | .ok (_, ledger') => ledger'
  | .error _ => ledger

/-- `settle_planner`. -/
def PlannerAttempt.settlePlanner (attempt : PlannerAttempt)
    (usage : CallUsage) (ledger : TokenLedger) : TokenLedger :=
  ledger.after
    (settleModelReservation attempt.workerTaskId attempt.attemptId
      usage.tokens.totalTokens (!usage.exact) attempt.finishedAt ledger)

/-- `release_planner`. -/
def PlannerAttempt.releasePlanner (attempt : PlannerAttempt)
    (ledger : TokenLedger) : TokenLedger :=
  ledger.after
    (releaseModelReservation attempt.workerTaskId attempt.attemptId
      attempt.finishedAt ledger)

/-- The reservation kept, with an unknown billing outcome. -/
def PlannerAttempt.keepUncertain (attempt : PlannerAttempt)
    (ledger : TokenLedger) : TokenLedger :=
  ledger.after
    (markModelReservationUncertain attempt.workerTaskId attempt.attemptId
      ledger)

/-- The compact repair, after a first call that ended in `firstError`. -/
def PlannerAttempt.repair (attempt : PlannerAttempt)
    (firstError : ModelGatewayError) (ledger : TokenLedger) :
    Except PlannerError CallUsage × TokenLedger :=
  if attempt.compactRequestBuilt then
    match attempt.compact with
    | .raised error =>
        (.error (.gateway (plannerRetryError error firstError)),
          attempt.keepUncertain ledger)
    | .returned usage none =>
        let combined := combineOptionalUsage firstError.usage usage
        (.ok combined, attempt.settlePlanner combined ledger)
    | .returned usage (some detail) =>
        let combined := combineOptionalUsage firstError.usage usage
        (.error (.gateway
            (plannerRetryError (schemaInvalid detail usage) firstError)),
          attempt.settlePlanner combined ledger)
  else (.error .compactRequest, attempt.releasePlanner ledger)

/-- The first call, once the tokens are reserved. -/
def PlannerAttempt.firstCall (attempt : PlannerAttempt)
    (ledger : TokenLedger) : Except PlannerError CallUsage × TokenLedger :=
  match attempt.first with
  | .returned usage none => (.ok usage, attempt.settlePlanner usage ledger)
  | .returned usage (some detail) =>
      attempt.repair (schemaInvalid detail usage) ledger
  | .raised error =>
      if error.code ∈ plannerRetryableOutputErrors then
        attempt.repair error ledger
      else (.error (.gateway error), attempt.releasePlanner ledger)

/-- `PlannerService.generate`: the usage it returns with the plan. -/
def PlannerAttempt.generate (attempt : PlannerAttempt)
    (ledger : TokenLedger) : Except PlannerError CallUsage × TokenLedger :=
  match reserveModelTokens attempt.workerTaskId attempt.request
    attempt.borrow attempt.startedAt ledger with
  | .error error => (.error (.ledger error), ledger)
  | .ok (reservation, ledger) =>
      if reservation.granted then attempt.firstCall ledger
      else
        (.error (.gateway
            { code := "PLANNER_BUDGET_EXHAUSTED"
              retryable := false
              detailCode :=
                match reservation.reason with
                | none | some "" => some reservation.status.text
                | some reason => some reason }),
          ledger)

/-- The generated plan is saved, with the usage that came with it. -/
def PlannerAttempt.savePlan (attempt : PlannerAttempt) (usage : CallUsage)
    (ledger : TokenLedger) : TokenLedger :=
  match saveGeneratedPlan attempt.workerTaskId usage.tokens
    attempt.questionTokenBudgets attempt.finishedAt ledger.run with
  | .ok w => { ledger with run := w.run }
  | .error _ => ledger

/-- `planner_node`. -/
def PlannerAttempt.run (attempt : PlannerAttempt) (ledger : TokenLedger) :
    TokenLedger :=
  match attempt.generate ledger with
  | (.error _, ledger) => ledger
  | (.ok usage, ledger) => attempt.savePlan usage ledger

/-- Attempts one after the other, from any ledger. -/
def plannerSystem : Transition.System TokenLedger PlannerAttempt where
  init _ := True
  step ledger attempt := attempt.run ledger

end DeepResearch.Run
