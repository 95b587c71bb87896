/-
The operations of the run repository (`research_runs.py`), of the
worker's research and report repositories on the run row
(`research_tools.py`, `reports.py`), each as what its transaction
writes.

# One transaction, one write

Every operation locks the run's row, checks it, and either leaves the
database as it is or commits: a new run row, possibly the revocation of
the run's unpublished dispatches, possibly one new dispatch. That is
`RunWrite`; a refused operation is a `Refusal`. `RunOp.write` collects
the operations, so that a fact about every transition of a run is a fact
about `RunOp.write`.
-/
import DeepResearch.Run.PageLedger

namespace DeepResearch.Run

-- ================================================================ writes

/-- The dispatch a transaction adds: its key is built from the run id,
the kind and the number. -/
structure NewDispatch where
  dispatchType : DispatchKind
  kind : DispatchKind
  number : Nat
  nextAttemptAt : Nat
  deriving DecidableEq, Repr

/-- What a committed transaction on a locked run writes. `revoke` is the
`last_error` put on the run's unpublished dispatches. -/
structure RunWrite where
  run : ResearchRunRow
  revoke : Option String := none
  dispatch : Option NewDispatch := none

/-- Why a transaction wrote nothing. -/
inductive Refusal
  /-- The operation returned without a write. -/
  | unchanged
  /-- `InvalidRunTransitionError`. -/
  | invalidTransition (message : String)
  /-- `ResearchLeaseLostError`, or the same check answered by a return. -/
  | leaseLost
  /-- `ReportWritingLeaseLostError`. -/
  | writingLeaseLost
  deriving DecidableEq, Repr

-- ============================================================= constants

/-- `EXECUTION_LEASE_SECONDS`. -/
def executionLeaseSeconds : Nat := 900

/-- `_MODEL_TRANSPORT_REQUEUE_DELAYS_SECONDS`. -/
def modelTransportRequeueDelaysSeconds : List Nat := [30, 60, 120, 240]

/-- `_SEARCH_TRANSPORT_REQUEUE_DELAYS_SECONDS`. -/
def searchTransportRequeueDelaysSeconds : List Nat := [30, 60, 120, 240]

/-- `_MODEL_TRANSPORT_RETRY_PENDING`. -/
def modelTransportRetryPending : String := "model_transport_retry_pending"

/-- `_SEARCH_TRANSPORT_RETRY_PENDING`. -/
def searchTransportRetryPending : String := "search_transport_retry_pending"

/-- `_RETRY_COMPLETION_RESERVE_SECONDS`. -/
def retryCompletionReserveSeconds : Nat := 45

/-- `_MIN_DURABLE_RETRY_DELAY_SECONDS`. -/
def minDurableRetryDelaySeconds : Nat := 5

/-- `text[:100]`. -/
def truncate100 (text : String) : String :=
  String.ofList (text.toList.take 100)

/-- `str.isupper` on the ASCII texts error codes are made of. -/
def isUpper (text : String) : Bool :=
  text.toList.any Char.isUpper && !text.toList.any Char.isLower

-- ===================================================== user transitions

/-- `cancel`. -/
def cancel (now : Nat) (run : ResearchRunRow) : Except Refusal RunWrite :=
  if run.status.isTerminal then .error .unchanged
  else .ok
    { run :=
        { run with
          status := .cancelled
          phase := .terminal
          terminationReason := some "user_cancelled"
          leaseOwner := none
          leaseUntil := none
          workerTaskId := none
          finishedAt := some now
          updatedAt := now
          stateVersion := run.stateVersion + 1 }
      revoke := some "run_cancelled_by_user" }

/-- `pause`. The phase stays. -/
def pause (now : Nat) (run : ResearchRunRow) : Except Refusal RunWrite :=
  if run.status.isTerminal then .error .unchanged
  else .ok
    { run :=
        { run with
          status := .interrupted
          terminationReason := some "user_paused"
          leaseOwner := none
          leaseUntil := none
          workerTaskId := none
          finishedAt := none
          updatedAt := now
          stateVersion := run.stateVersion + 1 }
      revoke := some "run_paused_by_user" }

/-- `resume`. -/
def resume (now : Nat) (run : ResearchRunRow) : Except Refusal RunWrite :=
  if run.status = .completed then
    .error (.invalidTransition "completed runs cannot be resumed")
  else if run.status = .cancelled ∨ run.status = .failed
      ∨ run.status = .interrupted then
    .ok
      { run :=
          { run with
            status := .queued
            phase := .initializing
            terminationReason := none
            finishedAt := none
            updatedAt := now
            stateVersion := run.stateVersion + 1 }
        dispatch := some
          { dispatchType := .resume
            kind := .resume
            number := run.stateVersion + 1
            nextAttemptAt := now } }
  else .error .unchanged

-- ================================================================ leases

/-- A lease that is set and no longer in the future. -/
def ResearchRunRow.leaseExpired (run : ResearchRunRow) (now : Nat) : Bool :=
  run.leaseUntil.any (· ≤ now)

/-- The usage write of `acquire_for_execution`: a run resumed after its
token ceiling was already passed is marked guarded, and the pending
model retry is over. -/
def acquireUsage (run : ResearchRunRow) : UsageSnapshot :=
  let usage := run.usageSnapshot
  let total := modelTokensFromUsage usage
  let maximumTokens := run.budgetSnapshot.maxTokens.getD 0
  let usage :=
    if 0 < maximumTokens ∧ maximumTokens ≤ total then
      { usage with modelTokens := total, modelBudgetGuarded := true }
    else usage
  { usage with
    modelTransport :=
      { usage.modelTransport with
        retryAfterSeconds := none
        retryNotBefore := none } }

/-- `acquire_for_execution`: a worker takes a QUEUED run, or takes over
a RUNNING one whose lease has expired. -/
def acquireForExecution (workerTaskId : TaskId) (leaseSeconds now : Nat)
    (run : ResearchRunRow) : Except Refusal RunWrite :=
  let expiredTakeover := run.status = .running ∧ run.leaseExpired now
  if run.status ≠ .queued ∧ ¬ expiredTakeover then .error .unchanged
  else .ok
    { run :=
        { run with
          status := .running
          phase :=
            if ¬ expiredTakeover ∧ run.phase = .initializing then
              if 0 < run.planVersion then .researching else .planning
            else run.phase
          usageSnapshot := acquireUsage run
          terminationReason :=
            if run.terminationReason = some modelTransportRetryPending
                ∨ run.terminationReason = some searchTransportRetryPending
            then none
            else run.terminationReason
          startedAt := some (run.startedAt.getD now)
          updatedAt := now
          leaseOwner := some "celery-worker"
          leaseUntil := some (now + leaseSeconds)
          workerTaskId := some workerTaskId
          stateVersion := run.stateVersion + 1 } }

/-- `renew_execution_lease`. An expired lease is not renewed. -/
def renewExecutionLease (workerTaskId : TaskId) (leaseSeconds now : Nat)
    (run : ResearchRunRow) : Except Refusal RunWrite :=
  if run.OwnedBy workerTaskId ∧ run.leaseUntil.any (now < ·) then .ok
    { run :=
        { run with
          leaseUntil := some (now + max 60 leaseSeconds)
          updatedAt := now } }
  else .error .leaseLost

/-- `reconcile_expired_leases` on one of the rows its query selects. -/
def reconcileExpiredLease (now : Nat) (run : ResearchRunRow) :
    Except Refusal RunWrite :=
  if run.status = .running ∧ run.leaseExpired now then .ok
    { run :=
        { run with
          status := .queued
          phase := .initializing
          terminationReason := some "stale_worker_lease_recovered"
          leaseOwner := none
          leaseUntil := none
          workerTaskId := none
          updatedAt := now
          stateVersion := run.stateVersion + 1 }
      dispatch := some
        { dispatchType := .resume
          kind := .reconcile
          number := run.stateVersion + 1
          nextAttemptAt := now } }
  else .error .unchanged

-- ======================================================== retry deferrals

/-- `_bounded_retry_delay`: the requested delay, cut to leave room to
finish before the deadline; `none` when no useful retry fits. -/
def boundedRetryDelay (budget : BudgetSnapshot)
    (requestedDelaySeconds now : Nat) : Option Nat :=
  match budget.deadlineAt with
  | none => some (max minDurableRetryDelaySeconds requestedDelaySeconds)
  | some deadline =>
      if deadline < now + retryCompletionReserveSeconds
          + minDurableRetryDelaySeconds then none
      else some
        (min (max minDurableRetryDelaySeconds requestedDelaySeconds)
          (deadline - now - retryCompletionReserveSeconds))

/-- What tells the two durable transport retries apart. -/
inductive Transport
  | model
  | search
  deriving DecidableEq, Repr

def Transport.delays : Transport → List Nat
  | .model => modelTransportRequeueDelaysSeconds
  | .search => searchTransportRequeueDelaysSeconds

def Transport.retryPending : Transport → String
  | .model => modelTransportRetryPending
  | .search => searchTransportRetryPending

def Transport.dispatchKind : Transport → DispatchKind
  | .model => .modelRetry
  | .search => .searchRetry

def Transport.retryState : Transport → UsageSnapshot → TransportRetry
  | .model, usage => usage.modelTransport
  | .search, usage => usage.searchTransport

/-- Storing the retry record; `defer_retryable_search_error` also counts
a technical retry. -/
def Transport.recordRetry :
    Transport → UsageSnapshot → TransportRetry → UsageSnapshot
  | .model, usage, retry => { usage with modelTransport := retry }
  | .search, usage, retry =>
      { usage with
        searchTransport := retry
        technicalRetries := usage.technicalRetries + 1 }

/-- The requeues already spent in the run's current phase. -/
def Transport.completedRequeues (transport : Transport)
    (run : ResearchRunRow) : Nat :=
  let retry := transport.retryState run.usageSnapshot
  if retry.retryPhase = some run.phase then retry.requeues else 0

/-- The delay a deferral selects, `none` when the retry budget of the
phase or the deadline allows none. -/
def Transport.retryDelay (transport : Transport) (now : Nat)
    (run : ResearchRunRow) : Option Nat :=
  match transport.delays[transport.completedRequeues run]? with
  | none => none
  | some requested => boundedRetryDelay run.budgetSnapshot requested now

/-- The common body of the two deferrals: release the lease, drop the
page total, requeue with a delayed dispatch. -/
def deferRetryableError (transport : Transport) (workerTaskId : TaskId)
    (errorCode : String) (detailCode : Option String) (now : Nat)
    (run : ResearchRunRow) : Except Refusal RunWrite :=
  if run.OwnedBy workerTaskId then
    match transport.retryDelay now run with
    | none => .error .unchanged
    | some delaySeconds =>
        let retryAt := now + delaySeconds
        let usage := transport.recordRetry run.usageSnapshot
          { requeues := transport.completedRequeues run + 1
            retryPhase := some run.phase
            retryAfterSeconds := some delaySeconds
            retryNotBefore := some retryAt
            lastErrorCode := some (truncate100 errorCode)
            lastDetailCode :=
              some (truncate100 (detailCode.getD "UNKNOWN")) }
        .ok
          { run :=
              { run with
                -- The total is cleared, the per-worker breakdown and the
                -- extraction slots are not.
                usageSnapshot := { usage with pageSlotsReserved := 0 }
                status := .queued
                terminationReason := some transport.retryPending
                leaseOwner := none
                leaseUntil := none
                workerTaskId := none
                finishedAt := none
                updatedAt := now
                stateVersion := run.stateVersion + 1 }
            dispatch := some
              { dispatchType := .resume
                kind := transport.dispatchKind
                number := run.stateVersion + 1
                nextAttemptAt := retryAt } }
  else .error .leaseLost

/-- `defer_retryable_model_error`. -/
def deferRetryableModelError (workerTaskId : TaskId) (errorCode : String)
    (detailCode : Option String) (now : Nat) (run : ResearchRunRow) :
    Except Refusal RunWrite :=
  deferRetryableError .model workerTaskId errorCode detailCode now run

/-- `defer_retryable_search_error`. -/
def deferRetryableSearchError (workerTaskId : TaskId) (errorCode : String)
    (detailCode : Option String) (now : Nat) (run : ResearchRunRow) :
    Except Refusal RunWrite :=
  deferRetryableError .search workerTaskId errorCode detailCode now run

end DeepResearch.Run
