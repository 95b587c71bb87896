/-
The three quality gates (`research_tools.py`: `quality_met` and the
`quality_snapshot` of `finish_iteration`, `_quality_gate_met_from_snapshot`;
`report_writer.py`: `_research_quality_gate_met`,
`_research_completion_has_limitations`).

`finish_iteration` decides on the figures it has just computed and stores
them in the quality snapshot, two of them rounded. The scheduler and the
writer decide on the snapshot, each with its own way of reading a number.

Floats are the rational numbers they stand for (`Binary64`); a threshold
is the double nearest to its decimal. The figures are inputs, whatever
arithmetic produced them. How Python reads a number from a text is a
parameter: the snapshot of `finish_iteration` has no texts.

# The system

`qualitySystem` is a run under every operation of `RunOp`, with the
quality snapshot that `finish_iteration` stores and the context a writer
has loaded. The writer decides on what it loaded, whatever happened to
the run before and after: a pause, a recovery or a deferred retry
rewrites the termination reason, and a later stop gives another.
-/
import DeepResearch.Lib.Binary64
import DeepResearch.Lib.Json
import DeepResearch.Run.StopReason

namespace DeepResearch.Run

open Binary64 (nearest pyRound)

-- =============================================================== the figures

/-- The figures of `finish_iteration` that its quality gate looks at. -/
structure QualityFigures where
  coverage : ℚ
  priorityOneCoverage : ℚ
  sourceQuality : ℚ
  crossValidation : ℚ
  criticalGaps : Nat
  highRiskConflictIds : List String
  numericScopeQuality : ℚ
  sourceRoleQuality : ℚ
  freshness : ℚ

/-- `quality_met`. -/
def QualityFigures.qualityMet (figures : QualityFigures) : Bool :=
  nearest (85 / 100) ≤ figures.coverage
    && nearest (80 / 100) ≤ figures.priorityOneCoverage
    && nearest (75 / 100) ≤ figures.sourceQuality
    && nearest (70 / 100) ≤ figures.crossValidation
    && figures.criticalGaps == 0
    && figures.highRiskConflictIds.isEmpty
    && 1 ≤ figures.numericScopeQuality
    && 1 ≤ figures.sourceRoleQuality
    && nearest (70 / 100) ≤ figures.freshness

/-- A quality snapshot, as its items. -/
abbrev QualitySnapshot := List (String × Json ℚ)

/-- The snapshot `finish_iteration` stores: the gate's figures, and the
entries no gate reads. -/
def QualityFigures.snapshot (figures : QualityFigures)
    (rest : QualitySnapshot) : QualitySnapshot :=
  [("coverage", .float figures.coverage),
    ("source_quality", .float (pyRound 4 figures.sourceQuality)),
    ("priority_one_coverage",
      .float (pyRound 4 figures.priorityOneCoverage)),
    ("cross_validation", .float figures.crossValidation),
    ("unresolved_high_risk_conflicts",
      .int figures.highRiskConflictIds.length),
    ("numeric_scope_consistency", .float figures.numericScopeQuality),
    ("source_role_fit", .float figures.sourceRoleQuality),
    ("freshness", .float figures.freshness),
    ("critical_gaps", .int figures.criticalGaps)] ++ rest

-- ======================================================== the snapshot gates

section

variable (floatOfText : String → Option ℚ) (intOfText : String → Option Int)

/-- `number`: any value `float` takes, a boolean included. -/
def snapshotNumber (snapshot : QualitySnapshot) (name : String) : ℚ :=
  match Json.get snapshot name with
  | .bool b => if b then 1 else 0
  | .int n => nearest n
  | .float x => x
  | .str text => (floatOfText text).getD 0
  | _ => 0

/-- `_quality_gate_met_from_snapshot`. -/
def qualityGateMetFromSnapshot (snapshot : QualitySnapshot) : Bool :=
  let number := snapshotNumber floatOfText snapshot
  nearest (85 / 100) ≤ number "coverage"
    && nearest (80 / 100) ≤ number "priority_one_coverage"
    && nearest (75 / 100) ≤ number "source_quality"
    && nearest (70 / 100) ≤ number "cross_validation"
    && number "critical_gaps" == 0
    && number "unresolved_high_risk_conflicts" == 0
    && (!Json.contains snapshot "numeric_scope_consistency"
      || 1 ≤ number "numeric_scope_consistency")
    && (!Json.contains snapshot "source_role_fit"
      || 1 ≤ number "source_role_fit")
    && (!Json.contains snapshot "freshness"
      || nearest (70 / 100) ≤ number "freshness")

/-- `_safe_float`: a boolean is no number. -/
def safeFloat : Json ℚ → ℚ
  | .int n => nearest n
  | .float x => x
  | .str text => (floatOfText text).getD 0
  | _ => 0

/-- `_safe_int`; `int` drops the fraction of a float. -/
def safeInt : Json ℚ → Int
  | .int n => n
  | .float x => if 0 ≤ x then ⌊x⌋ else ⌈x⌉
  | .str text => (intOfText text).getD 0
  | _ => 0

/-- `_research_quality_gate_met`. -/
def researchQualityGateMet (quality : QualitySnapshot) : Bool :=
  let float := fun name => safeFloat floatOfText (Json.get quality name)
  let int := fun name => safeInt intOfText (Json.get quality name)
  nearest (85 / 100) ≤ float "coverage"
    && nearest (80 / 100) ≤ float "priority_one_coverage"
    && nearest (75 / 100) ≤ float "source_quality"
    && nearest (70 / 100) ≤ float "cross_validation"
    && int "critical_gaps" == 0
    && int "unresolved_high_risk_conflicts" == 0
    && (!Json.contains quality "numeric_scope_consistency"
      || 1 ≤ float "numeric_scope_consistency")
    && (!Json.contains quality "source_role_fit"
      || 1 ≤ float "source_role_fit")
    && (!Json.contains quality "freshness"
      || nearest (70 / 100) ≤ float "freshness")

-- ================================================================ the writer

/-- What the writer's completion looks at of a `ReportContext`. -/
structure CompletionContext where
  stopReason : Option String
  qualitySnapshot : QualitySnapshot

/-- `_research_completion_has_limitations`. -/
def researchCompletionHasLimitations (context : CompletionContext) : Bool :=
  if context.stopReason = some "quality_met" then
    !researchQualityGateMet floatOfText intOfText context.qualitySnapshot
  else true

/-- `load_for_writing`. -/
def loadForWriting (workerTaskId : TaskId) (run : ResearchRunRow)
    (qualitySnapshot : QualitySnapshot) : Option CompletionContext :=
  if run.HasWritingLease workerTaskId then
    some { stopReason := run.terminationReason, qualitySnapshot }
  else none

/-- The end of `write`: `save` with the completion of the context it was
loaded with. -/
def completeReport (workerTaskId : TaskId) (writer : Option TokenUsage)
    (context : CompletionContext) (now : Nat) (run : ResearchRunRow) :
    Except Refusal RunWrite :=
  saveReport workerTaskId writer
    (researchCompletionHasLimitations floatOfText intOfText context) now run

end

-- ================================================================ the system

/-- The entries a snapshot gate reads. -/
def gateKeys : List String :=
  ["coverage", "priority_one_coverage", "source_quality",
    "cross_validation", "critical_gaps", "unresolved_high_risk_conflicts",
    "numeric_scope_consistency", "source_role_fit", "freshness"]

/-- The run, its quality snapshot, and the context its writer has
loaded. -/
structure GatedRun where
  run : ResearchRunRow
  qualitySnapshot : QualitySnapshot := []
  context : Option CompletionContext := none

/-- What happens to a run on the way to its report. The other writers of
the quality snapshot (risk states, repair targets, the figures of the
report) write no entry of the gates. -/
inductive QualityAction (τ : Type)
  | op (op : RunOp) (now : Nat)
  | prepareTarget (workerTaskId : TaskId) (view : SchedulerView τ)
      (now : Nat)
  | finishIteration (workerTaskId : TaskId) (outcome : AttemptOutcome)
      (view : EvaluationView) (figures : QualityFigures)
      (rest : QualitySnapshot) (now : Nat)
  | writeQuality (entries : QualitySnapshot)
      (h : ∀ entry ∈ entries, entry.1 ∉ gateKeys)
  | loadForWriting (workerTaskId : TaskId)
  | completeReport (workerTaskId : TaskId) (writer : Option TokenUsage)
      (now : Nat)

/-- The operations that a gate or the writer decides on. -/
def RunOp.isDecided : RunOp → Bool
  | .worker _ (.saveReport _ _) => true
  | op => op.isGate

section

variable {τ : Type} (floatOfText : String → Option ℚ)
  (intOfText : String → Option Int)

/-- The scheduler's view, with the gate it evaluates on the snapshot. -/
def GatedRun.schedulerView (s : GatedRun) (view : SchedulerView τ) :
    SchedulerView τ :=
  { view with
    qualityMet := qualityGateMetFromSnapshot floatOfText s.qualitySnapshot }

def GatedRun.step (s : GatedRun) :
    QualityAction τ → GatedRun
  | .op op now =>
      if op.isDecided then s else { s with run := op.applyTo now s.run }
  | .prepareTarget workerTaskId view now =>
      { s with
        run := gateRun s.run
          (Run.prepareTarget workerTaskId (s.schedulerView floatOfText view)
            now s.run) }
  | .finishIteration workerTaskId outcome view figures rest now =>
      match evaluateIteration workerTaskId outcome
          { view with qualityMet := figures.qualityMet } now s.run with
      | .error _ => s
      | .ok (run, _) =>
          { s with
            run
            qualitySnapshot :=
              if outcome.yields then s.qualitySnapshot
              else figures.snapshot rest }
  | .writeQuality entries _ =>
      { s with qualitySnapshot := entries ++ s.qualitySnapshot }
  | .loadForWriting workerTaskId =>
      { s with
        context :=
          (Run.loadForWriting workerTaskId s.run s.qualitySnapshot).or
            s.context }
  | .completeReport workerTaskId writer now =>
      match s.context with
      | none => s
      | some context =>
          match Run.completeReport floatOfText intOfText workerTaskId writer
              context now s.run with
          | .error _ => s
          | .ok w => { s with run := w.run }

/-- A run from its creation on. -/
def qualitySystem (τ : Type) :
    Transition.System GatedRun (QualityAction τ) where
  init s := ∃ budget now, s = { run := .created budget now }
  step := GatedRun.step floatOfText intOfText

end

end DeepResearch.Run
