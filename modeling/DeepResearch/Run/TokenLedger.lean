/-
The model token ledger of a run: one reservation row per provider
attempt, written before the call starts and settled, released or kept
as uncertain when it ends (`research_tools.py`: `reserve_model_tokens`,
`settle_model_reservation`, `release_model_reservation`,
`mark_model_reservation_uncertain`, and the token part of `record_page`
and `record_extraction_failure`; `research_budget.py`:
`model_token_pool_for_node`, `model_token_pool_limits`).

# What a grant looks at

The run's total budget less the tokens already charged and the
reservations still outstanding; the pool of the calling node; the
reserves kept back for other nodes; the question's own budget, which the
borrow gate may exceed. The gate weighs risk, evidence and search
history from half a dozen other tables. Its decision is an input here:
what holds of the ledger holds whatever the gate decides.

# What is elsewhere

The usage of a planner attempt is added to the run when its plan is saved
(`saveGeneratedPlan`). That write is no action of `ledgerSystem`: it has
its own system, with the attempt it belongs to (`plannerSystem`).
-/
import DeepResearch.Lib.CaseFolding
import DeepResearch.Lib.Counters
import DeepResearch.Lib.Transition
import DeepResearch.Run.Operations

namespace DeepResearch.Run

-- ============================================================ token pools

/-- `ModelTokenPool`. -/
inductive ModelTokenPool
  | planner
  | research
  | verification
  | writer
  | safety
  deriving DecidableEq, Repr

def ModelTokenPool.text : ModelTokenPool → String
  | .planner => "planner"
  | .research => "research"
  | .verification => "verification"
  | .writer => "writer"
  | .safety => "safety"

/-- Equal texts have the same characters. -/
instance lawfulBEq_text : LawfulBEq (List Char) := inferInstance

/-- The characters `str.strip` removes. -/
def isSpace (c : Char) : Bool :=
  let n := c.toNat
  (9 ≤ n && n ≤ 13) || (28 ≤ n && n ≤ 32) || n == 0x85 || n == 0xA0
    || n == 0x1680 || (0x2000 ≤ n && n ≤ 0x200A) || n == 0x2028
    || n == 0x2029 || n == 0x202F || n == 0x205F || n == 0x3000

theorem isSpace_space : isSpace ' ' = true := by decide

/-- Folding makes no white space, and leaves it. -/
theorem isSpace_caseless {c : Char} (h : isSpace c = true) :
    CaseFolding.Caseless c := by
  have hrows : ∀ first last,
      CaseFolding.Row.mk first last 1 0 [] ∈ CaseFolding.caselessRows →
      first ≤ c.toNat → c.toNat ≤ last → CaseFolding.Caseless c :=
    fun first last hrow => CaseFolding.caseless_of_range hrow
  unfold isSpace at h
  simp only [Bool.or_eq_true, Bool.and_eq_true, decide_eq_true_eq,
    beq_iff_eq] at h
  rcases h with (((((((((h | h) | h) | h) | h) | h) | h) | h) | h) | h) | h
  · exact hrows 0x0 0x40 (by decide) (by omega) (by omega)
  · exact hrows 0x0 0x40 (by decide) (by omega) (by omega)
  · exact hrows 0x7B 0xB4 (by decide) (by omega) (by omega)
  · exact hrows 0x7B 0xB4 (by decide) (by omega) (by omega)
  · exact hrows 0x1680 0x1680 (by decide) (by omega) (by omega)
  · exact hrows 0x2000 0x2125 (by decide) (by omega) (by omega)
  · exact hrows 0x2000 0x2125 (by decide) (by omega) (by omega)
  · exact hrows 0x2000 0x2125 (by decide) (by omega) (by omega)
  · exact hrows 0x2000 0x2125 (by decide) (by omega) (by omega)
  · exact hrows 0x2000 0x2125 (by decide) (by omega) (by omega)
  · exact hrows 0x3000 0x3000 (by decide) (by omega) (by omega)

/-- `str.strip`. -/
def strip (text : List Char) : List Char :=
  ((text.dropWhile isSpace).reverse.dropWhile isSpace).reverse

/-- `model_token_pool_for_node`. -/
def modelTokenPoolForNode (node : String) : ModelTokenPool :=
  let normalized := String.ofList (CaseFolding.casefold (strip node.toList))
  if normalized = "planner" then .planner
  else if normalized ∈ ["report_writer", "writer"] then .writer
  else if normalized ∈
      ["verification", "claim_verifier", "report_verifier"] then
    .verification
  else if normalized ∈ ["safety", "reconciliation"] then .safety
  else .research

/-- `model_token_pool_limits`. -/
def modelTokenPoolLimits (allocation : Allocation) : ModelTokenPool → Nat
  | .planner => allocation.plannerTokens.getD 0
  | .research => allocation.researchTokens.getD 0
  | .verification => allocation.verificationTokens.getD 0
  | .writer => allocation.writerReserve
  | .safety => allocation.safetyTokens.getD 0

/-- The tokens a grant to `node` must leave available. -/
def protectedReserve (allocation : Allocation) (node : String) : Nat :=
  allocation.verificationTokens.getD 0 + allocation.safetyTokens.getD 0
    + if node = "report_writer" then 0
      else max (allocation.writerTokensInitial.getD 0)
        (allocation.writerTokens.getD 0)

-- ============================================================ reservations

/-- A provider attempt's UUID. -/
abbrev AttemptId := Nat

/-- The status column of a reservation. -/
inductive ReservationStatus
  | reserved
  | uncertain
  | settled
  | released
  deriving DecidableEq, Repr

def ReservationStatus.text : ReservationStatus → String
  | .reserved => "reserved"
  | .uncertain => "uncertain"
  | .settled => "settled"
  | .released => "released"

/-- The attempt has been accounted for. -/
def ReservationStatus.isClosed : ReservationStatus → Bool
  | .settled | .released => true
  | .reserved | .uncertain => false

/-- `ModelBudgetReservationRow`, less its keys. -/
structure ModelBudgetReservationRow where
  questionId : String
  node : String
  estimatedInput : Nat
  maxOutput : Nat
  reservedTotal : Nat
  actualTotal : Option Nat := none
  status : ReservationStatus := .reserved
  usageEstimated : Bool := false
  leaseUntil : Option Nat
  createdAt : Nat
  settledAt : Option Nat := none
  deriving DecidableEq, Repr

/-- A run and its reservations, of which an attempt has at most one. -/
structure TokenLedger where
  run : ResearchRunRow
  reservations : AList fun _ : AttemptId => ModelBudgetReservationRow := ∅

/-- The lease of an in-flight reservation has passed. -/
def ModelBudgetReservationRow.leaseExpired (row : ModelBudgetReservationRow)
    (now : Nat) : Bool :=
  row.status = .reserved && row.leaseUntil.any (decide <| · < now)

/-- A row's part of `_outstanding_reservation_total`. -/
def ModelBudgetReservationRow.outstanding (row : ModelBudgetReservationRow)
    (now : Nat) : Nat :=
  if row.status.isClosed || row.leaseExpired now then 0
  else row.reservedTotal

/-- A row's part of `_model_pool_committed`. -/
def ModelBudgetReservationRow.committed (row : ModelBudgetReservationRow)
    (now : Nat) : Nat :=
  match row.status with
  | .settled => row.actualTotal.getD 0
  | .released => 0
  | .reserved | .uncertain =>
      if row.leaseExpired now then 0 else row.reservedTotal

/-- A row's part of a question's spend. -/
def ModelBudgetReservationRow.spend (row : ModelBudgetReservationRow) :
    Nat :=
  if row.status = .released then 0
  else row.actualTotal.getD row.reservedTotal

/-- `_outstanding_reservation_total`. -/
def TokenLedger.outstandingTotal (ledger : TokenLedger) (now : Nat) : Nat :=
  Counters.weigh (·.outstanding now) ledger.reservations

/-- `_model_pool_committed`, for one pool. -/
def TokenLedger.poolCommitted (ledger : TokenLedger)
    (pool : ModelTokenPool) (now : Nat) : Nat :=
  Counters.weigh
    (fun row =>
      if modelTokenPoolForNode row.node = pool then row.committed now else 0)
    ledger.reservations

/-- `text[:length]`. -/
def textUpTo (length : Nat) (text : String) : String :=
  String.ofList (text.toList.take length)

/-- The tokens a question has spent or holds. -/
def TokenLedger.questionSpend (ledger : TokenLedger)
    (questionId : String) : Nat :=
  Counters.weigh
    (fun row => if row.questionId = textUpTo 50 questionId then row.spend
      else 0)
    ledger.reservations

/-- `max_tokens`; zero is no limit. -/
def TokenLedger.maximum (ledger : TokenLedger) : Nat :=
  ledger.run.budgetSnapshot.maxTokens.getD 0

/-- The tokens still available. The source's value may be negative, which
is as much too little for a positive request as zero. -/
def TokenLedger.available (ledger : TokenLedger) (now : Nat) : Nat :=
  ledger.maximum - modelTokens ledger.run.usageSnapshot
    - ledger.outstandingTotal now

-- ================================================================= reserve

/-- The arguments of `reserve_model_tokens`. -/
structure TokenRequest where
  questionId : String
  node : String
  attemptId : AttemptId
  estimatedInput : Nat
  maxOutput : Nat
  leaseUntil : Option Nat := none
  deriving DecidableEq, Repr

def TokenRequest.requested (request : TokenRequest) : Nat :=
  request.estimatedInput + request.maxOutput

/-- What `decide_question_borrow` answered for this request. -/
structure QuestionBorrowDecision where
  allowed : Bool
  reason : String
  hardLimit : Bool := false
  deriving DecidableEq, Repr

/-- The status a reservation request is answered with. -/
inductive ReservationAnswer
  | row (status : ReservationStatus)
  | insufficientBudget
  | poolBudgetExhausted
  | questionBudgetExhausted
  | questionBudgetYielded
  deriving DecidableEq, Repr

def ReservationAnswer.text : ReservationAnswer → String
  | .row status => status.text
  | .insufficientBudget => "insufficient_budget"
  | .poolBudgetExhausted => "pool_budget_exhausted"
  | .questionBudgetExhausted => "question_budget_exhausted"
  | .questionBudgetYielded => "question_budget_yielded"

/-- `ModelTokenReservation`. -/
structure ModelTokenReservation where
  granted : Bool
  reservedTotal : Nat
  status : ReservationAnswer
  reason : Option String := none
  deriving DecidableEq, Repr

def ModelTokenReservation.denied (status : ReservationAnswer)
    (reason : String) : ModelTokenReservation :=
  { granted := false, reservedTotal := 0, status, reason := some reason }

/-- `_MODEL_RESERVATION_LEASE`, in seconds. -/
def modelReservationLeaseSeconds : Nat := 900

/-- Why `reserve_model_tokens` refuses a new attempt, if it does: the
checks in the order of the source. -/
def modelTokenDenial (request : TokenRequest)
    (borrow : QuestionBorrowDecision) (now : Nat) (ledger : TokenLedger) :
    Option ModelTokenReservation :=
  let allocation := ledger.run.budgetSnapshot.allocation
  let requested := request.requested
  let available := ledger.available now
  let pool := modelTokenPoolForNode request.node
  let poolLimit := modelTokenPoolLimits allocation pool
  let questionLimit :=
    (allocation.questionTokenBudgets.lookup request.questionId).getD 0
  if ledger.maximum = 0 then none
  else if available < requested then
    some (.denied .insufficientBudget "outstanding_reservations")
  else if 0 < poolLimit
      ∧ poolLimit < ledger.poolCommitted pool now + requested then
    some (.denied .poolBudgetExhausted (pool.text ++ "_token_pool"))
  else if available - requested < protectedReserve allocation request.node
  then some (.denied .insufficientBudget "protected_token_pools")
  else if 0 < questionLimit
      ∧ questionLimit < ledger.questionSpend request.questionId + requested
      ∧ borrow.allowed = false then
    some (.denied
      (if borrow.hardLimit then .questionBudgetExhausted
        else .questionBudgetYielded)
      borrow.reason)
  else none

/-- The row `reserve_model_tokens` inserts. -/
def TokenRequest.row (request : TokenRequest) (now : Nat) :
    ModelBudgetReservationRow :=
  { questionId := textUpTo 50 request.questionId
    node := textUpTo 100 request.node
    estimatedInput := request.estimatedInput
    maxOutput := request.maxOutput
    reservedTotal := request.requested
    leaseUntil :=
      some (request.leaseUntil.getD (now + modelReservationLeaseSeconds))
    createdAt := now }

/-- Why an operation on the ledger raises. -/
inductive LedgerError
  /-- `ValueError`: the request reserves nothing. -/
  | nothingRequested
  /-- `ResearchLeaseLostError`. -/
  | leaseLost
  deriving DecidableEq, Repr

def LedgerError.text : LedgerError → String
  | .nothingRequested => "reservation must reserve a positive token amount"
  | .leaseLost => "ResearchLeaseLostError"

/-- `reserve_model_tokens`. -/
def reserveModelTokens (workerTaskId : TaskId) (request : TokenRequest)
    (borrow : QuestionBorrowDecision) (now : Nat) (ledger : TokenLedger) :
    Except LedgerError (ModelTokenReservation × TokenLedger) :=
  if request.requested = 0 then .error .nothingRequested
  else if ledger.run.OwnedBy workerTaskId then
    match ledger.reservations.lookup request.attemptId with
    | some row =>
        if row.status = .reserved then .ok
          ({ granted := true, reservedTotal := row.reservedTotal
             status := .row .reserved }, ledger)
        else .ok (.denied (.row row.status) "attempt_already_terminal",
          ledger)
    | none =>
        match modelTokenDenial request borrow now ledger with
        | some denied => .ok (denied, ledger)
        | none => .ok
            ({ granted := true, reservedTotal := request.requested
               status := .row .reserved },
              { ledger with
                reservations :=
                  ledger.reservations.insert request.attemptId
                    (request.row now) })
  else .error .leaseLost

-- ==================================================== ends of an attempt

/-- A settled row. -/
def ModelBudgetReservationRow.settle (row : ModelBudgetReservationRow)
    (actualTotal : Nat) (usageEstimated : Bool) (now : Nat) :
    ModelBudgetReservationRow :=
  { row with
    status := .settled
    actualTotal := some actualTotal
    usageEstimated
    settledAt := some now }

/-- `_settle_reservation_row`: nothing happens to an attempt that is
unknown, settled or released. -/
def settleReservationRow (attemptId : AttemptId) (actualTotal : Nat)
    (usageEstimated : Bool) (now : Nat) (ledger : TokenLedger) :
    Bool × TokenLedger :=
  match ledger.reservations.lookup attemptId with
  | none => (false, ledger)
  | some row =>
      if row.status.isClosed then (false, ledger)
      else
        (true,
          { run :=
              { ledger.run with
                usageSnapshot :=
                  { ledger.run.usageSnapshot with
                    settledReservations :=
                      ledger.run.usageSnapshot.settledReservations + 1 } }
            reservations :=
              ledger.reservations.insert attemptId
                (row.settle actualTotal usageEstimated now) })

/-- Moving a reserved attempt to another status, as `release` and
`mark_uncertain` do. -/
def changeReserved (attemptId : AttemptId)
    (change : ModelBudgetReservationRow → ModelBudgetReservationRow)
    (ledger : TokenLedger) : Bool × TokenLedger :=
  match ledger.reservations.lookup attemptId with
  | none => (false, ledger)
  | some row =>
      if row.status = .reserved then
        (true,
          { ledger with
            reservations :=
              ledger.reservations.insert attemptId (change row) })
      else (false, ledger)

/-- The write of `release_model_reservation`. -/
def releaseReservationRow (attemptId : AttemptId) (now : Nat)
    (ledger : TokenLedger) : Bool × TokenLedger :=
  changeReserved attemptId
    (fun row => { row with status := .released, settledAt := some now })
    ledger

/-- The write of `mark_model_reservation_uncertain`. -/
def uncertainReservationRow (attemptId : AttemptId) (ledger : TokenLedger) :
    Bool × TokenLedger :=
  changeReserved attemptId (fun row => { row with status := .uncertain })
    ledger

/-- A ledger operation runs under the worker's lock on the run. -/
def lockedRun (workerTaskId : TaskId)
    (body : TokenLedger → Bool × TokenLedger) (ledger : TokenLedger) :
    Except LedgerError (Bool × TokenLedger) :=
  if ledger.run.OwnedBy workerTaskId then .ok (body ledger)
  else .error .leaseLost

/-- `settle_model_reservation`. -/
def settleModelReservation (workerTaskId : TaskId) (attemptId : AttemptId)
    (actualTotal : Nat) (usageEstimated : Bool) (now : Nat) :
    TokenLedger → Except LedgerError (Bool × TokenLedger) :=
  lockedRun workerTaskId
    (settleReservationRow attemptId actualTotal usageEstimated now)

/-- `release_model_reservation`. -/
def releaseModelReservation (workerTaskId : TaskId)
    (attemptId : AttemptId) (now : Nat) :
    TokenLedger → Except LedgerError (Bool × TokenLedger) :=
  lockedRun workerTaskId (releaseReservationRow attemptId now)

/-- `mark_model_reservation_uncertain`. -/
def markModelReservationUncertain (workerTaskId : TaskId)
    (attemptId : AttemptId) :
    TokenLedger → Except LedgerError (Bool × TokenLedger) :=
  lockedRun workerTaskId (uncertainReservationRow attemptId)

-- ================================================================ charges

/-- The ledger under another usage snapshot. -/
def TokenLedger.setUsage (ledger : TokenLedger) (usage : UsageSnapshot) :
    TokenLedger :=
  { ledger with run := { ledger.run with usageSnapshot := usage } }

/-- The token part of `record_page`: the usage is charged, then the
attempt's reservation, if there is one, is settled with it. -/
def chargePage (usage : TokenUsage) (cacheHit : Bool)
    (attemptId : Option AttemptId) (usageEstimated : Bool) (now : Nat)
    (ledger : TokenLedger) : TokenLedger :=
  let charged := ledger.setUsage
    (recordPage ledger.run.usageSnapshot usage cacheHit)
  match attemptId with
  | none => charged
  | some attempt =>
      (settleReservationRow attempt usage.totalTokens usageEstimated now
        charged).2

/-- The token part of `record_extraction_failure`. A call that reported
no usage may have been billed: its reservation becomes uncertain. -/
def chargeExtractionFailure (usage : Option TokenUsage)
    (attemptId : Option AttemptId) (usageEstimated : Bool) (now : Nat)
    (ledger : TokenLedger) : TokenLedger :=
  let charged := ledger.setUsage
    (recordExtractionFailure ledger.run.usageSnapshot usage)
  match attemptId, usage with
  | none, _ => charged
  | some attempt, some usage =>
      (settleReservationRow attempt usage.totalTokens usageEstimated now
        charged).2
  | some attempt, none => (uncertainReservationRow attempt charged).2

-- ============================================================= the system

/-- The operations on the ledger. A replan changes the questions'
budgets while attempts are under way. -/
inductive LedgerOp
  | reserveModelTokens (request : TokenRequest)
      (borrow : QuestionBorrowDecision)
  | settleModelReservation (attemptId : AttemptId) (actualTotal : Nat)
      (usageEstimated : Bool)
  | releaseModelReservation (attemptId : AttemptId)
  | markModelReservationUncertain (attemptId : AttemptId)
  | recordPage (usage : TokenUsage) (cacheHit : Bool)
      (attemptId : Option AttemptId) (usageEstimated : Bool)
  | recordExtractionFailure (usage : Option TokenUsage)
      (attemptId : Option AttemptId) (usageEstimated : Bool)
  | saveReplannedQuestions (questionTokenBudgets : List (String × Nat))
  deriving DecidableEq, Repr

/-- An operation, the worker that makes it, and the time. -/
structure LedgerAction where
  now : Nat
  workerTaskId : TaskId
  op : LedgerOp
  deriving DecidableEq

/-- What an action leaves when it does not raise. -/
def LedgerAction.run (a : LedgerAction) (ledger : TokenLedger) :
    Except LedgerError TokenLedger :=
  match a.op with
  | .reserveModelTokens request borrow =>
      (·.2) <$> reserveModelTokens a.workerTaskId request borrow a.now
        ledger
  | .settleModelReservation attemptId actualTotal usageEstimated =>
      (·.2) <$> settleModelReservation a.workerTaskId attemptId actualTotal
        usageEstimated a.now ledger
  | .releaseModelReservation attemptId =>
      (·.2) <$> releaseModelReservation a.workerTaskId attemptId a.now
        ledger
  | .markModelReservationUncertain attemptId =>
      (·.2) <$> markModelReservationUncertain a.workerTaskId attemptId
        ledger
  | .recordPage usage cacheHit attemptId usageEstimated =>
      if ledger.run.OwnedBy a.workerTaskId then
        .ok (chargePage usage cacheHit attemptId usageEstimated a.now
          ledger)
      else .error .leaseLost
  | .recordExtractionFailure usage attemptId usageEstimated =>
      if ledger.run.OwnedBy a.workerTaskId then
        .ok (chargeExtractionFailure usage attemptId usageEstimated a.now
          ledger)
      else .error .leaseLost
  | .saveReplannedQuestions budgets =>
      match Run.saveReplannedQuestions a.workerTaskId budgets a.now
        ledger.run with
      | .ok w => .ok { ledger with run := w.run }
      | .error _ => .error .leaseLost

/-- A transaction that raises is rolled back. -/
def TokenLedger.step (ledger : TokenLedger) (a : LedgerAction) :
    TokenLedger :=
  match a.run ledger with
  | .ok ledger' => ledger'
  | .error _ => ledger

/-- The ledger of a run that has reserved nothing yet. -/
def TokenLedger.IsFresh (ledger : TokenLedger) : Prop :=
  ledger.reservations = ∅
    ∧ modelTokens ledger.run.usageSnapshot ≤ ledger.maximum

def ledgerSystem : Transition.System TokenLedger LedgerAction where
  init := TokenLedger.IsFresh
  step := TokenLedger.step

end DeepResearch.Run
