/-
The parties around the database: any number of dispatchers
(`dispatcher.py`), the broker, and the worker processes it delivers to
(`tasks.py`), under one clock.

# Dispatchers

A dispatcher claims a batch, sends each dispatch, and marks it published
or for retry according to how the send ended. Claim, send and mark are
separate transactions, so each is an action of its own; `publishing`
holds the claims between their claim and their mark. A send that raised
may or may not have reached the broker.

# Delivery

Tasks are acknowledged late and rejected on worker loss: a message once
sent can be delivered any number of times, at any time. A delivery runs
`acquire_for_execution` under the message's task id, the dispatch key;
when that succeeds an execution starts. A delivery that raises before the
acquisition, and is acknowledged all the same, is no action here. An
execution can end at any time (it returned, or its process died); while
it is alive it may call any worker operation, late ones included.

# Observers

`consumed`, `acquired`, `claims` and `queuedAt` record the past for the
statements about runs; no transition reads them.
-/
import DeepResearch.Run.Outbox

namespace DeepResearch.Run

-- ================================================================ states

/-- Where a claimed dispatch stands with its dispatcher. -/
inductive PublishState
  | claimed
  | sent
  | sendFailed
  deriving DecidableEq, Repr

/-- A claimed dispatch that is not marked yet. -/
structure Publishing where
  claim : Nat
  dispatch : PendingDispatch
  state : PublishState
  deriving DecidableEq

/-- How `send_task` ended. -/
inductive SendResult
  | ok
  | failed
  | failedAfterEnqueue
  deriving DecidableEq, Repr

/-- One execution of a run: a delivery whose acquisition succeeded. -/
structure Execution where
  number : Nat
  taskId : TaskId
  deriving DecidableEq

/-- The run an execution works on. -/
def Execution.runId (e : Execution) : RunId := e.taskId.runId

/-- The whole system. -/
structure Cluster where
  now : Nat := 0
  db : Database := {}
  /-- The dispatch keys of the messages sent. -/
  broker : List DispatchKey := []
  publishing : List Publishing := []
  /-- The executions alive. -/
  executions : List Execution := []
  /-- The keys delivered at least once. -/
  consumed : List DispatchKey := []
  /-- Every execution ever started, in order. -/
  acquired : List Execution := []
  /-- The number of dispatches claimed so far. -/
  claims : Nat := 0
  /-- When a run last became QUEUED. -/
  queuedAt : RunId → Nat := fun _ => 0

-- =============================================================== actions

inductive Action
  | tick (seconds : Nat)
  | create (runId : RunId) (budgetSnapshot : BudgetSnapshot)
  | cancel (runId : RunId)
  | pause (runId : RunId)
  | resume (runId : RunId)
  | reconcile (runId : RunId)
  | claimBatch (limit staleAfterSeconds : Nat) (locked : List Nat)
  | send (claim : Nat) (result : SendResult)
  | mark (claim : Nat) (errorCode : String)
  | deliver (key : DispatchKey) (leaseSeconds : Nat)
  | work (execution : Execution) (op : WorkerOp)
  | finish (execution : Execution)

/-- Whether a run is QUEUED. -/
def Database.isQueued (db : Database) (runId : RunId) : Bool :=
  (db.runs runId).any (·.status = .queued)

/-- Committing a new database, and noting which runs became QUEUED. -/
def Cluster.withDb (s : Cluster) (db : Database) : Cluster :=
  { s with
    db
    queuedAt := fun runId =>
      if db.isQueued runId ∧ ¬ s.db.isQueued runId then s.now
      else s.queuedAt runId }

/-- Whether a delivery of the key acquires its run. -/
def Cluster.acquires (s : Cluster) (key : DispatchKey)
    (leaseSeconds : Nat) : Bool :=
  (s.db.runs key.runId).any fun run =>
    (acquireForExecution key leaseSeconds s.now run).isOk

/-- The claims of one batch enter the dispatcher's hands. -/
def Cluster.claimBatch (s : Cluster) (limit staleAfterSeconds : Nat)
    (locked : List Nat) : Cluster :=
  let dispatches :=
    claimedDispatches limit staleAfterSeconds locked s.now s.db.outbox
  { s.withDb
      (s.db.step s.now (.claimBatch limit staleAfterSeconds locked)) with
    publishing := s.publishing
      ++ dispatches.mapIdx fun i dispatch =>
        { claim := s.claims + i, dispatch, state := .claimed }
    claims := s.claims + dispatches.length }

/-- `send_task` for a claimed dispatch. -/
def Cluster.send (s : Cluster) (claim : Nat) (result : SendResult) :
    Cluster :=
  match s.publishing.find? (fun p => p.claim = claim && p.state = .claimed)
  with
  | none => s
  | some p =>
      { s with
        broker :=
          if result = .failed then s.broker
          else s.broker ++ [p.dispatch.dispatchKey]
        publishing := s.publishing.map fun q =>
          if q = p then
            { p with
              state := if result = .ok then .sent else .sendFailed }
          else q }

/-- The mark that ends a claim: published after a send, for retry after
a failed one. -/
def Cluster.mark (s : Cluster) (claim : Nat) (errorCode : String) :
    Cluster :=
  match s.publishing.find? (·.claim = claim) with
  | none => s
  | some p =>
      let publishing := s.publishing.filter (·.claim ≠ claim)
      match p.state with
      | .claimed => s
      | .sent =>
          { s.withDb (s.db.step s.now (.markPublished p.dispatch.outboxId))
            with publishing }
      | .sendFailed =>
          { s.withDb
              (s.db.step s.now (.markRetry p.dispatch.outboxId errorCode))
            with publishing }

/-- A delivery: `execute_research_run` up to its acquisition. -/
def Cluster.deliver (s : Cluster) (key : DispatchKey)
    (leaseSeconds : Nat) : Cluster :=
  if key ∈ s.broker then
    let execution := { number := s.acquired.length, taskId := key }
    let started := if s.acquires key leaseSeconds then [execution] else []
    { s.withDb
        (s.db.step s.now
          (.run key.runId (.acquireForExecution key leaseSeconds))) with
      consumed := s.consumed ++ [key]
      executions := s.executions ++ started
      acquired := s.acquired ++ started }
  else s

/-- One action of the system. -/
def Cluster.step (s : Cluster) : Action → Cluster
  | .tick seconds => { s with now := s.now + seconds }
  | .create runId budgetSnapshot =>
      s.withDb (s.db.step s.now (.create runId budgetSnapshot))
  | .cancel runId => s.withDb (s.db.step s.now (.run runId .cancel))
  | .pause runId => s.withDb (s.db.step s.now (.run runId .pause))
  | .resume runId => s.withDb (s.db.step s.now (.run runId .resume))
  | .reconcile runId =>
      s.withDb (s.db.step s.now (.run runId .reconcileExpiredLease))
  | .claimBatch limit staleAfterSeconds locked =>
      s.claimBatch limit staleAfterSeconds locked
  | .send claim result => s.send claim result
  | .mark claim errorCode => s.mark claim errorCode
  | .deliver key leaseSeconds => s.deliver key leaseSeconds
  | .work execution op =>
      if execution ∈ s.executions then
        s.withDb
          (s.db.step s.now
            (.run execution.runId (.worker execution.taskId op)))
      else s
  | .finish execution =>
      { s with executions := s.executions.filter (· ≠ execution) }

/-- The system, started empty at any time. -/
def clusterSystem : Transition.System Cluster Action where
  init s := ∃ now, s = { now }
  step := Cluster.step

/-- Any actions from the empty system lead to a reachable state. -/
theorem clusterSystem_reachable (as : List Action) :
    Transition.Reachable clusterSystem (clusterSystem.exec {} as) :=
  have hinit : clusterSystem.init {} := ⟨0, rfl⟩
  (Transition.Reachable.init hinit).exec as

end DeepResearch.Run
