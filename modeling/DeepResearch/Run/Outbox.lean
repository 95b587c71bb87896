/-
The dispatch outbox (`outbox.py`), creation (`ResearchRunRepository.
create`) and the commit of a run's write to the database.

The outbox is one table for all runs. `claim_batch` skips rows another
transaction has locked; which ones those are is the caller's `locked`
list, so every outcome of `FOR UPDATE SKIP LOCKED` is covered.
-/
import DeepResearch.Lib.Transition
import DeepResearch.Run.Operations
import Mathlib.Data.List.Sort

namespace DeepResearch.Run

-- ========================================================= the dispatcher

/-- `PendingDispatch`; its run is the key's. -/
structure PendingDispatch where
  outboxId : Nat
  dispatchKey : DispatchKey
  deriving DecidableEq

/-- The `where` clause of `claim_batch`: due, or claimed so long ago that
its dispatcher is taken for dead. -/
def isClaimable (staleAfterSeconds now : Nat)
    (row : TaskDispatchOutboxRow) : Bool :=
  match row.status with
  | .pending | .retry => decide (row.nextAttemptAt ≤ now)
  | .publishing => row.claimedAt.any (· + staleAfterSeconds ≤ now)
  | .published | .cancelled => false

/-- The rows one `claim_batch` takes: claimable and not locked, oldest
first, at most `limit`. -/
def claimedRows (limit staleAfterSeconds : Nat) (locked : List Nat)
    (now : Nat) (outbox : List TaskDispatchOutboxRow) :
    List TaskDispatchOutboxRow :=
  ((outbox.filter fun row =>
      isClaimable staleAfterSeconds now row && !locked.contains row.id)
    |>.insertionSort fun a b => a.createdAt ≤ b.createdAt).take limit

/-- The write of `claim_batch` on one row it takes. -/
def TaskDispatchOutboxRow.claim (row : TaskDispatchOutboxRow)
    (now : Nat) : TaskDispatchOutboxRow :=
  { row with
    status := .publishing
    claimedAt := some now
    attemptCount := row.attemptCount + 1 }

/-- `claim_batch`: the table it leaves. -/
def claimBatch (limit staleAfterSeconds : Nat) (locked : List Nat)
    (now : Nat) (outbox : List TaskDispatchOutboxRow) :
    List TaskDispatchOutboxRow :=
  let rows := claimedRows limit staleAfterSeconds locked now outbox
  outbox.map fun row => if row ∈ rows then row.claim now else row

/-- `claim_batch`: the dispatches it hands out. -/
def claimedDispatches (limit staleAfterSeconds : Nat) (locked : List Nat)
    (now : Nat) (outbox : List TaskDispatchOutboxRow) :
    List PendingDispatch :=
  (claimedRows limit staleAfterSeconds locked now outbox).map fun row =>
    { outboxId := row.id, dispatchKey := row.dispatchKey }

/-- The write of `mark_published`, whatever the row's status. -/
def TaskDispatchOutboxRow.published (row : TaskDispatchOutboxRow)
    (now : Nat) : TaskDispatchOutboxRow :=
  { row with
    status := .published
    publishedAt := some now
    lastError := none }

/-- The write of `mark_retry`, whatever the row's status. -/
def TaskDispatchOutboxRow.retried (row : TaskDispatchOutboxRow)
    (errorCode : String) (now : Nat) : TaskDispatchOutboxRow :=
  { row with
    status := .retry
    nextAttemptAt := now + min (2 ^ (row.attemptCount - 1)) 60
    lastError := some (String.ofList (errorCode.toList.take 1000)) }

/-- Writing one row of the table, found by its id. -/
def updateOutboxRow (outboxId : Nat)
    (f : TaskDispatchOutboxRow → TaskDispatchOutboxRow)
    (outbox : List TaskDispatchOutboxRow) : List TaskDispatchOutboxRow :=
  outbox.map fun row => if row.id = outboxId then f row else row

/-- `mark_published`. -/
def markPublished (outboxId now : Nat)
    (outbox : List TaskDispatchOutboxRow) : List TaskDispatchOutboxRow :=
  updateOutboxRow outboxId (·.published now) outbox

/-- `mark_retry`. -/
def markRetry (outboxId : Nat) (errorCode : String) (now : Nat)
    (outbox : List TaskDispatchOutboxRow) : List TaskDispatchOutboxRow :=
  updateOutboxRow outboxId (·.retried errorCode now) outbox

-- ============================================================== commits

/-- The revocation `cancel` and `pause` commit with the run: the run's
unpublished dispatches become cancelled. -/
def TaskDispatchOutboxRow.revoke (row : TaskDispatchOutboxRow)
    (runId : RunId) (lastError : String) : TaskDispatchOutboxRow :=
  if row.runId = runId ∧ row.status.isUnpublished then
    { row with status := .cancelled, lastError := some lastError }
  else row

/-- The outbox row a transaction adds. -/
def NewDispatch.row (dispatch : NewDispatch) (runId : RunId)
    (outboxId now : Nat) : TaskDispatchOutboxRow :=
  { id := outboxId
    dispatchType := dispatch.dispatchType
    dispatchKey :=
      { runId, kind := dispatch.kind, number := dispatch.number }
    nextAttemptAt := dispatch.nextAttemptAt
    createdAt := now }

/-- The outbox after a commit: revocations first, then the new row under
a fresh id. -/
def RunWrite.outbox (w : RunWrite) (runId : RunId) (now : Nat)
    (outbox : List TaskDispatchOutboxRow) : List TaskDispatchOutboxRow :=
  let revoked :=
    match w.revoke with
    | none => outbox
    | some lastError => outbox.map (·.revoke runId lastError)
  match w.dispatch with
  | none => revoked
  | some dispatch => revoked ++ [dispatch.row runId outbox.length now]

/-- Committing one transaction: the run row and the outbox together. -/
def Database.commit (db : Database) (runId : RunId) (now : Nat)
    (w : RunWrite) : Database :=
  { runs := Function.update db.runs runId (some w.run)
    outbox := w.outbox runId now db.outbox }

/-- Running one operation on one run. A run that does not exist or an
operation that is refused leaves the database as it is. -/
def Database.runOp (db : Database) (runId : RunId) (now : Nat)
    (op : RunOp) : Database :=
  match db.runs runId with
  | none => db
  | some run =>
      match op.write now run with
      | .error _ => db
      | .ok w => db.commit runId now w

/-- The first write of a run: QUEUED, with its start dispatch. -/
def createWrite (budgetSnapshot : BudgetSnapshot) (now : Nat) : RunWrite :=
  { run :=
      { status := .queued
        phase := .initializing
        budgetSnapshot
        createdAt := now
        updatedAt := now }
    dispatch := some
      { dispatchType := .start
        kind := .start
        number := 1
        nextAttemptAt := now } }

/-- `create`. A run that exists already is returned unchanged. -/
def Database.create (db : Database) (runId : RunId)
    (budgetSnapshot : BudgetSnapshot) (now : Nat) : Database :=
  match db.runs runId with
  | some _ => db
  | none => db.commit runId now (createWrite budgetSnapshot now)

-- ==================================================== the database system

/-- The transactions on the database. `reconcile_expired_leases` selects
any number of expired rows and treats each on its own; it is a sequence
of `reconcileExpiredLease` steps. -/
inductive DatabaseOp
  | create (runId : RunId) (budgetSnapshot : BudgetSnapshot)
  | run (runId : RunId) (op : RunOp)
  | claimBatch (limit staleAfterSeconds : Nat) (locked : List Nat)
  | markPublished (outboxId : Nat)
  | markRetry (outboxId : Nat) (errorCode : String)

/-- One transaction at a given time. -/
def Database.step (db : Database) (now : Nat) : DatabaseOp → Database
  | .create runId budgetSnapshot => db.create runId budgetSnapshot now
  | .run runId op => db.runOp runId now op
  | .claimBatch limit staleAfterSeconds locked =>
      { db with
        outbox := claimBatch limit staleAfterSeconds locked now db.outbox }
  | .markPublished outboxId =>
      { db with outbox := markPublished outboxId now db.outbox }
  | .markRetry outboxId errorCode =>
      { db with outbox := markRetry outboxId errorCode now db.outbox }

/-- Any transactions, in any order, each at any time, from the empty
database. -/
def databaseSystem : Transition.System Database (Nat × DatabaseOp) where
  init db := db.runs = (fun _ => none) ∧ db.outbox = []
  step db a := db.step a.1 a.2

end DeepResearch.Run
