/-
The persisted data of a research run: the run row with its budget and
usage snapshots, the dispatch outbox, and the database they live in.

# Snapshots

`budget_snapshot` and `usage_snapshot` are JSON objects in the source,
read through `.get(key, default)`. A field whose absence the source can
tell from zero (it falls back to another key) is an `Option`; a field
that is only ever read with default zero is a number. Derived views that
no decision reads (`resource_pools`, dashboard projections, statistics)
are left out.

# Clocks and identifiers

Timestamps are whole seconds. A run id is its UUID text, of which only
the absence of `:` matters: dispatch keys are built by joining with it.
-/
import Mathlib.Data.List.AList
import Mathlib.Logic.Function.Basic

namespace DeepResearch.Run

-- ========================================================= enumerations

/-- `RunStatus`. -/
inductive RunStatus
  | queued
  | running
  | interrupted
  | failed
  | cancelled
  | completed
  | completedWithLimitations
  | credentialsRequired
  deriving DecidableEq, Repr

/-- `RunPhase`. -/
inductive RunPhase
  | initializing
  | planning
  | researching
  | evaluating
  | writing
  | verifying
  | terminal
  deriving DecidableEq, Repr

/-- `TERMINAL_RUN_STATUSES`. -/
def RunStatus.isTerminal : RunStatus → Bool
  | .failed | .cancelled | .completed | .completedWithLimitations => true
  | .queued | .running | .interrupted | .credentialsRequired => false

/-- The two ways a run is completed. -/
def RunStatus.isCompleted : RunStatus → Bool
  | .completed | .completedWithLimitations => true
  | _ => false

/-- The status column of an outbox row. -/
inductive DispatchStatus
  | pending
  | retry
  | publishing
  | published
  | cancelled
  deriving DecidableEq, Repr

/-- The statuses a dispatch can still be published from; `cancel` and
`pause` revoke exactly these. -/
def DispatchStatus.isUnpublished : DispatchStatus → Bool
  | .pending | .retry | .publishing => true
  | .published | .cancelled => false

-- ================================================== identifiers and keys

/-- A run's UUID, as the text that goes into dispatch keys. -/
structure RunId where
  text : String
  no_colon : ':' ∉ text.toList
  deriving DecidableEq

/-- The word between the colons of a dispatch key. -/
inductive DispatchKind
  | start
  | resume
  | reconcile
  | modelRetry
  | searchRetry
  deriving DecidableEq, Repr

def DispatchKind.text : DispatchKind → String
  | .start => "start"
  | .resume => "resume"
  | .reconcile => "reconcile"
  | .modelRetry => "model-retry"
  | .searchRetry => "search-retry"

/-- A dispatch key `{run.id}:{kind}:{number}`: the number is 1 for the
start dispatch and the run's new `state_version` otherwise. -/
structure DispatchKey where
  runId : RunId
  kind : DispatchKind
  number : Nat
  deriving DecidableEq

def DispatchKey.text (key : DispatchKey) : String :=
  key.runId.text ++ ":" ++ key.kind.text ++ ":" ++ key.number.repr

/-- The dispatcher sends every task under its dispatch key, so a
worker's task id is one. -/
abbrev TaskId := DispatchKey

-- ============================================================ snapshots

/-- The usage a provider reports for one call. -/
structure TokenUsage where
  inputTokens : Nat
  outputTokens : Nat
  totalTokens : Nat
  deriving DecidableEq, Repr

/-- `budget_snapshot["allocation"]`: the token pools and the per
question token budgets. -/
structure Allocation where
  plannerTokens : Option Nat := none
  researchTokens : Option Nat := none
  verificationTokens : Option Nat := none
  writerTokensInitial : Option Nat := none
  writerTokens : Option Nat := none
  safetyTokens : Option Nat := none
  questionTokenBudgets : List (String × Nat) := []
  deriving DecidableEq, Repr

/-- `budget_snapshot`. `deadlineAt` is the parsed timestamp, absent when
the source finds no readable one. -/
structure BudgetSnapshot where
  maxIterations : Option Nat := none
  maxSearches : Option Nat := none
  maxLogicalQueries : Option Nat := none
  maxProviderRequests : Option Nat := none
  maxPages : Option Nat := none
  maxPagesFetched : Option Nat := none
  maxPageFetchAttempts : Option Nat := none
  maxPagesExtracted : Option Nat := none
  maxExtractionCalls : Option Nat := none
  maxVerificationCalls : Option Nat := none
  maxSchedulerActions : Option Nat := none
  maxTokens : Option Nat := none
  maxWallClockSeconds : Option Nat := none
  maxEvidenceCallTokens : Option Nat := none
  deadlineAt : Option Nat := none
  allocation : Allocation := {}
  deriving DecidableEq, Repr

/-- One of the two durable transport retries (`model_…`, `search_…`
keys of the usage snapshot). -/
structure TransportRetry where
  requeues : Nat := 0
  retryPhase : Option RunPhase := none
  retryAfterSeconds : Option Nat := none
  retryNotBefore : Option Nat := none
  lastErrorCode : Option String := none
  lastDetailCode : Option String := none
  deriving DecidableEq, Repr

/-- `usage_snapshot`. -/
structure UsageSnapshot where
  searches : Option Nat := none
  logicalQueries : Option Nat := none
  searchProviderRequests : Nat := 0
  pages : Option Nat := none
  pagesFetched : Option Nat := none
  pageFetchAttempts : Option Nat := none
  pagesExtracted : Option Nat := none
  extractionCalls : Option Nat := none
  verificationCalls : Nat := 0
  schedulerActions : Nat := 0
  iterations : Nat := 0
  replans : Nat := 0
  pageSlotsReserved : Nat := 0
  pageSlotsReservedByWorker : AList fun _ : TaskId => Nat := ∅
  extractionSlotsReserved : Nat := 0
  pageFetchLatencyMs : Nat := 0
  pageReadFailures : Nat := 0
  evidenceExtractionFailures : Nat := 0
  technicalRetries : Nat := 0
  planner : Option TokenUsage := none
  writer : Option TokenUsage := none
  evidenceInputTokens : Nat := 0
  evidenceOutputTokens : Nat := 0
  evidenceTotalTokens : Nat := 0
  modelTokens : Nat := 0
  modelBudgetGuarded : Bool := false
  settledReservations : Nat := 0
  modelTransport : TransportRetry := {}
  searchTransport : TransportRetry := {}
  deriving DecidableEq

-- ================================================================= rows

/-- A row of `research_runs`, less its primary key. -/
structure ResearchRunRow where
  status : RunStatus
  phase : RunPhase
  stateVersion : Nat := 1
  planVersion : Nat := 0
  budgetSnapshot : BudgetSnapshot
  usageSnapshot : UsageSnapshot := {}
  terminationReason : Option String := none
  leaseOwner : Option String := none
  leaseUntil : Option Nat := none
  workerTaskId : Option TaskId := none
  createdAt : Nat
  updatedAt : Nat
  startedAt : Option Nat := none
  finishedAt : Option Nat := none
  deriving DecidableEq

/-- A row of `task_dispatch_outbox`. Its `run_id` column is the run its
key is built from. -/
structure TaskDispatchOutboxRow where
  id : Nat
  dispatchType : DispatchKind
  dispatchKey : DispatchKey
  status : DispatchStatus := .pending
  attemptCount : Nat := 0
  nextAttemptAt : Nat
  claimedAt : Option Nat := none
  publishedAt : Option Nat := none
  lastError : Option String := none
  createdAt : Nat
  deriving DecidableEq

def TaskDispatchOutboxRow.runId (row : TaskDispatchOutboxRow) : RunId :=
  row.dispatchKey.runId

/-- The two tables, the runs under their primary key. Rows of either are
never deleted. -/
structure Database where
  runs : RunId → Option ResearchRunRow := fun _ => none
  outbox : List TaskDispatchOutboxRow := []

-- ============================================================ ownership

/-- The check that guards every write of a worker: the run is RUNNING
under the worker's task id. -/
def ResearchRunRow.OwnedBy (run : ResearchRunRow) (workerTaskId : TaskId) :
    Prop :=
  run.status = .running ∧ run.workerTaskId = some workerTaskId

instance (run : ResearchRunRow) (workerTaskId : TaskId) :
    Decidable (run.OwnedBy workerTaskId) :=
  inferInstanceAs (Decidable (_ ∧ _))

/-- A run id to evaluate the model on. -/
def sampleRunId : RunId := ⟨"run-1", by decide⟩

end DeepResearch.Run
