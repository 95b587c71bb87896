/-
The projection of a run into its public `ResearchState`
(`state_runtime.py`: `_state_status`, `_stop_reason`,
`ensure_initialized`, `synchronize`; `state_reducer.py`: the stop reason
part of `apply_patch`).

# What survives a synchronisation

A patch carries the stop reason of the run's termination reason. Without
a termination reason the old stop reason is cleared; with one that is
projected to nothing, the old stop reason stays.

# The system

`stateSystem` is a run under every operation of `RunOp`, the two gates
of the research loop, and the two projections. The operations that a
gate performs with a reason of its own choice are left to the gates:
outside of them nobody chooses a reason.
-/
import DeepResearch.Run.ResearchLoop

namespace DeepResearch.Run

-- ========================================================= enumerations

/-- `domain.state.RunStatus`, the public status. -/
inductive StateStatus
  | created
  | queued
  | interrupted
  | researching
  | writing
  | verifying
  | completed
  | completedWithLimitations
  | failed
  | cancelled
  | credentialsRequired
  deriving DecidableEq, Repr

/-- `StopReason`. -/
inductive StopReason
  | qualityMet
  | completedWithLimitations
  | budgetExhausted
  | stagnation
  | sourcesExhausted
  | cancelled
  | fatalError
  | credentialsRequired
  | providerCapabilityInsufficient
  deriving DecidableEq, Repr

-- ======================================================= the projections

/-- `_state_status`. -/
def stateStatus (status : RunStatus) (phase : RunPhase) : StateStatus :=
  match status with
  | .queued => .queued
  | .completed => .completed
  | .completedWithLimitations => .completedWithLimitations
  | .cancelled => .cancelled
  | .credentialsRequired => .credentialsRequired
  | .interrupted => .interrupted
  | .failed => .failed
  | .running =>
      match phase with
      | .writing => .writing
      | .verifying => .verifying
      | _ => .researching

/-- The reasons `_stop_reason` maps to BUDGET_EXHAUSTED. -/
def budgetStopReasons : List String :=
  ["research_budget_exhausted", "RESEARCH_BUDGET_EXHAUSTED",
    "page_budget_exhausted", "search_budget_exhausted",
    "token_budget_exhausted", "iteration_budget_exhausted",
    "deadline_exhausted", "logical_query_budget_exhausted",
    "provider_request_budget_exhausted", "fetched_page_budget_exhausted",
    "extracted_page_budget_exhausted", "action_budget_exhausted"]

/-- `_stop_reason`. -/
def stopReason : Option String → Option StopReason
  | none => none
  | some reason =>
      if reason = modelTransportRetryPending
          ∨ reason = searchTransportRetryPending then none
      else if reason = "quality_met" ∨ reason = "completed" then
        some .qualityMet
      else if reason = "completed_with_limitations" then
        some .completedWithLimitations
      else if reason ∈ budgetStopReasons then some .budgetExhausted
      else if reason = "stagnation" then some .stagnation
      else if reason = "sources_exhausted" then some .sourcesExhausted
      else if reason = "user_cancelled" then some .cancelled
      else if reason = "credentials_required" then
        some .credentialsRequired
      else some .fatalError

/-- The part of `ResearchState` this is about. -/
structure ResearchState where
  status : StateStatus
  stopReason : Option StopReason
  deriving DecidableEq, Repr

/-- The state `ensure_initialized` stores for a run without one. -/
def ResearchState.initial (run : ResearchRunRow) : ResearchState :=
  { status := stateStatus run.status run.phase
    stopReason := Run.stopReason run.terminationReason }

/-- `synchronize`: the patch it builds from the run, applied to the
stored state. -/
def ResearchState.synchronized (current : ResearchState)
    (run : ResearchRunRow) : ResearchState :=
  { status := stateStatus run.status run.phase
    stopReason :=
      if run.terminationReason = none then none
      else (Run.stopReason run.terminationReason).or current.stopReason }

-- ============================================================ the system

/-- The row `create` inserts. -/
def ResearchRunRow.created (budget : BudgetSnapshot) (now : Nat) :
    ResearchRunRow :=
  { status := .queued
    phase := .initializing
    budgetSnapshot := budget
    createdAt := now
    updatedAt := now }

/-- The run, and its stored `ResearchState` once there is one. -/
structure StateRow where
  run : ResearchRunRow
  snapshot : Option ResearchState := none

/-- The worker's operations that the gates perform. -/
def WorkerOp.isGate : WorkerOp → Bool
  | .enterWriting _ | .requestReplan | .handOutTarget
  | .finishIteration _ _ => true
  | _ => false

def RunOp.isGate : RunOp → Bool
  | .worker _ op => op.isGate
  | _ => false

/-- What happens to a run and its state. A synchronisation is refused
when the caller is not the run's worker, or when the state it builds is
not valid (`accepted`). -/
inductive StateAction (τ : Type)
  | op (op : RunOp) (now : Nat)
  | prepareTarget (workerTaskId : TaskId) (view : SchedulerView τ)
      (now : Nat)
  | finishIteration (workerTaskId : TaskId) (outcome : AttemptOutcome)
      (view : EvaluationView) (now : Nat)
  | ensureInitialized
  | synchronize (workerTaskId : Option TaskId) (accepted : Bool)

variable {τ : Type}

/-- The run after an operation; a refused one leaves it. -/
def RunOp.applyTo (op : RunOp) (now : Nat) (run : ResearchRunRow) :
    ResearchRunRow :=
  match op.write now run with
  | .ok w => w.run
  | .error _ => run

/-- The run a gate leaves; a refused gate leaves it as it is. -/
def gateRun {β : Type} (run : ResearchRunRow)
    (result : Except Refusal (ResearchRunRow × β)) : ResearchRunRow :=
  match result with
  | .ok (run', _) => run'
  | .error _ => run

def StateRow.step (s : StateRow) : StateAction τ → StateRow
  | .op op now =>
      if op.isGate then s else { s with run := op.applyTo now s.run }
  | .prepareTarget workerTaskId view now =>
      { s with
        run := gateRun s.run (Run.prepareTarget workerTaskId view now s.run) }
  | .finishIteration workerTaskId outcome view now =>
      { s with
        run := gateRun s.run
          (evaluateIteration workerTaskId outcome view now s.run) }
  | .ensureInitialized =>
      { s with
        snapshot := some (s.snapshot.getD (ResearchState.initial s.run)) }
  | .synchronize workerTaskId accepted =>
      match s.snapshot with
      | none => s
      | some current =>
          if accepted && workerTaskId.all (s.run.workerTaskId = some ·) then
            { s with snapshot := some (current.synchronized s.run) }
          else s

/-- A run from its creation on. -/
def stateSystem (τ : Type) : Transition.System StateRow (StateAction τ)
    where
  init s := ∃ budget now, s = { run := .created budget now }
  step := StateRow.step

end DeepResearch.Run
