/-
The stored public state of a run (`state_runtime.py`:
`ResearchStateRuntimeRepository`; `state_models.py`).

A snapshot is kept per run, with the journal of the patches that made it.
An operation is one transaction under the locks of the snapshot and the
run; a refused one leaves the tables. What other code writes into the
runs, the evidence, the sources and the gaps between two operations is
arbitrary, up to the primary keys. The events of the run are left out.
-/
import DeepResearch.Lib.Journal
import DeepResearch.Lib.Transition
import DeepResearch.State.Projection

namespace DeepResearch.State

-- =================================================================== tables

/-- `ResearchStateSnapshotRow`, under its primary key `run_id`. -/
structure ResearchStateSnapshotRow where
  stateVersion : Nat
  graphSchemaRevision : String
  stateJson : ResearchState
  stateHash : String

/-- `ResearchStatePatchRow`. -/
structure ResearchStatePatchRow where
  id : UUID
  runId : UUID
  baseVersion : Nat
  resultVersion : Nat
  nodeName : String
  patchJson : StatePatch
  resultStateHash : String

/-- The tables that the projection reads. -/
structure BusinessTables where
  runs : UUID → Option ProjectedRun := fun _ => none
  evidence : List ResearchEvidenceRow := []
  sources : List ResearchSourceRow := []
  gaps : List ResearchGapRow := []
  evidence_ids : (evidence.map (·.id)).Nodup
  source_ids : (sources.map (·.id)).Nodup
  gap_ids : (gaps.map (·.id)).Nodup

structure StateTables where
  business : BusinessTables
  snapshots : UUID → Option ResearchStateSnapshotRow := fun _ => none
  patches : List ResearchStatePatchRow := []

/-- What the operations raise. -/
inductive RuntimeError
  | stateSnapshotNotFound
  | leaseLost
  | versionsDiverged
  | reducer (error : ReducerError)
  | validationError
  | integrityError
  deriving DecidableEq, Repr

/-- `order_by(created_at, id)`. -/
def createdBefore (a b : ℤ × UUID) : Bool :=
  a.1 < b.1 || (a.1 = b.1 && a.2 ≤ b.2)

namespace BusinessTables

variable (tables : BusinessTables) (runId : UUID)

/-- `evidence_rows`. -/
def evidenceRows : List (ResearchEvidenceRow × ResearchSourceRow) :=
  ((tables.evidence.filter fun row => row.runId = runId && row.accepted)
    |>.mergeSort fun a b =>
      createdBefore (a.createdAt, a.id) (b.createdAt, b.id)).filterMap
    fun row => (tables.sources.find? fun source =>
      source.id = row.sourceId).map fun source => (row, source)

/-- `gap_rows`. -/
def gapRows : List ResearchGapRow :=
  (tables.gaps.filter fun row => row.runId = runId).mergeSort fun a b =>
    createdBefore (a.createdAt, a.id) (b.createdAt, b.id)

end BusinessTables

-- =============================================================== operations

/-- What the operations use: `uuid5`, and `_state_hash`. -/
structure StateRuntime where
  uuid5 : Uuid5
  stateHash : ResearchState → String

variable (rt : StateRuntime)

/-- The state of a run without a snapshot. -/
def initialState (runId : UUID) (row : ProjectedRun) :
    Option ResearchState := do
  let coverage ← coverageMap row
  some
    { runId := runId
      status := Run.stateStatus row.run.status row.run.phase
      phase := statePhase row.run.phase
      budgetLimits := budgetLimits row
      budgetUsage := budgetUsage row
      quality := quality row
      coverageMap := coverage
      stopReason := Run.stopReason row.run.terminationReason }

/-- The row that stores a state. -/
def StateRuntime.snapshotRow (state : ResearchState) :
    ResearchStateSnapshotRow :=
  { stateVersion := state.stateVersion
    graphSchemaRevision := state.graphSchemaRevision
    stateJson := state
    stateHash := rt.stateHash state }

namespace StateTables

variable (tables : StateTables) (runId : UUID)

/-- The journal of a run. -/
def journal : List ResearchStatePatchRow :=
  tables.patches.filter fun row => row.runId = runId

def store (row : ResearchStateSnapshotRow) : StateTables :=
  { tables with snapshots := Function.update tables.snapshots runId (some row) }

/-- `ensure_initialized`. -/
def ensureInitialized : Except RuntimeError (StateTables × ResearchState) :=
  match tables.snapshots runId with
  | some existing => .ok (tables, existing.stateJson)
  | none =>
      match tables.business.runs runId with
      | none => .error .stateSnapshotNotFound
      | some row =>
          match initialState runId row with
          | none => .error .validationError
          | some payload =>
              match payload.modelValidate with
              | .error error => .error (.reducer error)
              | .ok state =>
                  .ok (tables.store runId (rt.snapshotRow state), state)

/-- The constraints of `research_state_patches` refuse a row. -/
def refuses (row : ResearchStatePatchRow) : Bool :=
  tables.patches.any fun old => old.id = row.id
    || (old.runId = row.runId && old.resultVersion = row.resultVersion)

/-- The tables after an update of the snapshot. -/
def append (row : ResearchStatePatchRow) (updated : ResearchState) :
    StateTables :=
  { tables.store runId (rt.snapshotRow updated) with
    patches := tables.patches ++ [row] }

/-- The row of an applied patch. -/
def patchRow (nodeName : String) (patch : StatePatch)
    (updated : ResearchState) : ResearchStatePatchRow :=
  { id := patch.patchId
    runId := runId
    baseVersion := patch.baseVersion
    resultVersion := updated.stateVersion
    nodeName := nodeName
    patchJson := patch
    resultStateHash := rt.stateHash updated }

/-- The patch that a synchronisation makes of the tables. -/
def patch (row : ProjectedRun) (patchId : UUID) (baseVersion : Nat) :
    Option StatePatch :=
  projectedPatch rt.uuid5 runId row (tables.business.evidenceRows runId)
    (tables.business.gapRows runId) patchId baseVersion

/-- `synchronize`. -/
def synchronize (nodeName : String) (workerTaskId : Option Run.TaskId)
    (patchId : UUID) : Except RuntimeError (StateTables × ResearchState) :=
  match tables.snapshots runId, tables.business.runs runId with
  | some snapshot, some row =>
      if ¬ workerTaskId.all (row.run.workerTaskId = some ·) then
        .error .leaseLost
      else if snapshot.stateJson.stateVersion ≠ snapshot.stateVersion then
        .error .versionsDiverged
      else
        match tables.patch rt runId row patchId
            snapshot.stateJson.stateVersion with
        | none => .error .validationError
        | some patch =>
            match applyPatch snapshot.stateJson patch with
            | .error error => .error (.reducer error)
            | .ok updated =>
                let new := patchRow rt runId nodeName patch updated
                if tables.refuses new then .error .integrityError
                else .ok (tables.append rt runId new updated, updated)
  | _, _ => .error .stateSnapshotNotFound

end StateTables

-- =============================================================== the system

/-- What happens to the tables. -/
inductive StateTransaction
  | write (business : BusinessTables)
  | ensureInitialized (runId : UUID)
  | synchronize (runId : UUID) (nodeName : String)
      (workerTaskId : Option Run.TaskId) (patchId : UUID)

/-- The tables that an operation leaves. -/
def StateTables.left (tables : StateTables)
    (result : Except RuntimeError (StateTables × ResearchState)) :
    StateTables :=
  match result with
  | .ok (tables', _) => tables'
  | .error _ => tables

def StateTables.step (tables : StateTables) : StateTransaction → StateTables
  | .write business => { tables with business := business }
  | .ensureInitialized runId =>
      tables.left (tables.ensureInitialized rt runId)
  | .synchronize runId nodeName workerTaskId patchId =>
      tables.left
        (tables.synchronize rt runId nodeName workerTaskId patchId)

/-- The tables, with no snapshot at first. -/
def stateTableSystem : Transition.System StateTables StateTransaction where
  init tables := tables.snapshots = (fun _ => none) ∧ tables.patches = []
  step := StateTables.step rt

end DeepResearch.State
