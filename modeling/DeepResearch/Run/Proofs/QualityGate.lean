/-
The three quality gates agree on what `finish_iteration` stores.

Seven of the nine figures are stored as they are, and the two rounded ones
stay above their thresholds: 0.75 and 0.80 have no more than four
decimals (`Binary64.nearest_le_pyRound`). The two readers of the snapshot
differ on booleans and on fractions of counts only, and the snapshot has
neither. A gate reads its nine entries and nothing else, so what other
operations write to the snapshot later does not matter.

# Runs

Only a gate that holds leaves `quality_met` behind: every other operation
keeps the termination reason of a run that has not ended or writes
another (`RunOp.write_reasonKept`). So wherever a run has that reason its
snapshot passes the writer's gate, and so does the snapshot of every
context that was loaded with it (`GatedRun.Sound`).
-/
import DeepResearch.Run.Proofs.Effects
import DeepResearch.Run.Proofs.HardLimits
import DeepResearch.Run.QualityGate

namespace DeepResearch.Run

open Binary64

-- ================================================================ the numbers

theorem nearest_natCast_eq_zero_iff (n : ℕ) : nearest (n : ℚ) = 0 ↔ n = 0 := by
  constructor
  · intro h
    by_contra hn
    have hone : (1 : ℚ) ≤ n := by exact_mod_cast Nat.one_le_iff_ne_zero.mpr hn
    have hle := nearest_mono zero_le_one hone
    have hnearest : nearest 1 = 1 := by decide +kernel
    rw [h, hnearest] at hle
    exact absurd hle (by norm_num)
  · rintro rfl
    rw [Nat.cast_zero, nearest_zero]

/-- 0.80 survives the rounding. -/
theorem eighty_le_pyRound {x : ℚ} (h : nearest (80 / 100) ≤ x) :
    nearest (80 / 100) ≤ pyRound 4 x := by
  have hdecimal : (80 / 100 : ℚ) = ((8000 : ℕ) : ℚ) / 10 ^ 4 := by norm_num
  rw [hdecimal] at h ⊢
  exact nearest_le_pyRound (by decide +kernel) h

/-- 0.75 survives the rounding. -/
theorem seventyFive_le_pyRound {x : ℚ} (h : nearest (75 / 100) ≤ x) :
    nearest (75 / 100) ≤ pyRound 4 x := by
  have hdecimal : (75 / 100 : ℚ) = ((7500 : ℕ) : ℚ) / 10 ^ 4 := by norm_num
  rw [hdecimal] at h ⊢
  exact nearest_le_pyRound (by decide +kernel) h

-- =========================================================== what a gate reads

/-- Two snapshots with the same entries for the gates. -/
def SameGateEntries (snapshot later : QualitySnapshot) : Prop :=
  ∀ key ∈ gateKeys, Json.find? later key = Json.find? snapshot key

section

variable {floatOfText : String → Option ℚ} {intOfText : String → Option Int}

/-- The writer reads the gate off its own entries. -/
theorem SameGateEntries.researchQualityGateMet
    {snapshot later : QualitySnapshot} (h : SameGateEntries snapshot later) :
    researchQualityGateMet floatOfText intOfText later
      = researchQualityGateMet floatOfText intOfText snapshot := by
  simp only [SameGateEntries, gateKeys, List.forall_mem_cons] at h
  obtain ⟨h1, h2, h3, h4, h5, h6, h7, h8, h9, -⟩ := h
  simp only [Run.researchQualityGateMet, Json.get, Json.contains, h1, h2,
    h3, h4, h5, h6, h7, h8, h9]
  rfl

/-- So does the scheduler. -/
theorem SameGateEntries.qualityGateMetFromSnapshot
    {snapshot later : QualitySnapshot} (h : SameGateEntries snapshot later) :
    qualityGateMetFromSnapshot floatOfText later
      = qualityGateMetFromSnapshot floatOfText snapshot := by
  simp only [SameGateEntries, gateKeys, List.forall_mem_cons] at h
  obtain ⟨h1, h2, h3, h4, h5, h6, h7, h8, h9, -⟩ := h
  simp only [Run.qualityGateMetFromSnapshot, snapshotNumber, Json.get,
    Json.contains, h1, h2, h3, h4, h5, h6, h7, h8, h9]
  rfl

-- ============================================================ the stored gate

/-- The gate on the figures as they are stored. -/
def QualityFigures.storedGate (figures : QualityFigures) : Bool :=
  nearest (85 / 100) ≤ figures.coverage
    && nearest (80 / 100) ≤ pyRound 4 figures.priorityOneCoverage
    && nearest (75 / 100) ≤ pyRound 4 figures.sourceQuality
    && nearest (70 / 100) ≤ figures.crossValidation
    && figures.criticalGaps == 0
    && figures.highRiskConflictIds.isEmpty
    && 1 ≤ figures.numericScopeQuality
    && 1 ≤ figures.sourceRoleQuality
    && nearest (70 / 100) ≤ figures.freshness

/-- Figures that meet the gate are stored as meeting it. -/
theorem QualityFigures.storedGate_of_qualityMet {figures : QualityFigures}
    (h : figures.qualityMet = true) : figures.storedGate = true := by
  simp only [qualityMet, Bool.and_eq_true, decide_eq_true_eq] at h
  obtain ⟨⟨⟨⟨⟨⟨⟨⟨hcoverage, hpriority⟩, hsource⟩, hcross⟩, hgaps⟩,
    hconflicts⟩, hnumeric⟩, hrole⟩, hfreshness⟩ := h
  simp only [storedGate, Bool.and_eq_true, decide_eq_true_eq]
  exact ⟨⟨⟨⟨⟨⟨⟨⟨hcoverage, eighty_le_pyRound hpriority⟩,
    seventyFive_le_pyRound hsource⟩, hcross⟩, hgaps⟩, hconflicts⟩,
    hnumeric⟩, hrole⟩, hfreshness⟩

/-- The entries of a stored snapshot. -/
theorem QualityFigures.find?_snapshot (figures : QualityFigures)
    (rest : QualitySnapshot) :
    let found := Json.find? (figures.snapshot rest)
    found "coverage" = some (.float figures.coverage)
      ∧ found "priority_one_coverage"
        = some (.float (pyRound 4 figures.priorityOneCoverage))
      ∧ found "source_quality"
        = some (.float (pyRound 4 figures.sourceQuality))
      ∧ found "cross_validation" = some (.float figures.crossValidation)
      ∧ found "critical_gaps" = some (.int figures.criticalGaps)
      ∧ found "unresolved_high_risk_conflicts"
        = some (.int figures.highRiskConflictIds.length)
      ∧ found "numeric_scope_consistency"
        = some (.float figures.numericScopeQuality)
      ∧ found "source_role_fit" = some (.float figures.sourceRoleQuality)
      ∧ found "freshness" = some (.float figures.freshness) := by
  exact ⟨rfl, rfl, rfl, rfl, rfl, rfl, rfl, rfl, rfl⟩

theorem length_beq_zero {α : Type} (l : List α) :
    (l.length == 0) = l.isEmpty := by
  cases l <;> rfl

theorem nearest_count_beq (n : ℕ) :
    (nearest ((n : ℤ) : ℚ) == 0) = (n == 0) := by
  rw [Bool.eq_iff_iff, beq_iff_eq, beq_iff_eq, Int.cast_natCast,
    nearest_natCast_eq_zero_iff]

/-- What is stored is what the scheduler reads back. -/
theorem QualityFigures.qualityGateMetFromSnapshot_snapshot
    (figures : QualityFigures) (rest : QualitySnapshot) :
    qualityGateMetFromSnapshot floatOfText (figures.snapshot rest)
      = figures.storedGate := by
  obtain ⟨h1, h2, h3, h4, h5, h6, h7, h8, h9⟩ :=
    figures.find?_snapshot rest
  simp only [qualityGateMetFromSnapshot, snapshotNumber, Json.get,
    Json.contains, h1, h2, h3, h4, h5, h6, h7, h8, h9, Option.getD_some,
    nearest_count_beq, length_beq_zero, storedGate, Option.isSome_some,
    Bool.not_true, Bool.false_or]

theorem intCast_count_beq (n : ℕ) : ((n : ℤ) == 0) = (n == 0) := by
  rw [Bool.eq_iff_iff, beq_iff_eq, beq_iff_eq, Int.natCast_eq_zero]

/-- And what the writer reads back. -/
theorem QualityFigures.researchQualityGateMet_snapshot
    (figures : QualityFigures) (rest : QualitySnapshot) :
    researchQualityGateMet floatOfText intOfText (figures.snapshot rest)
      = figures.storedGate := by
  obtain ⟨h1, h2, h3, h4, h5, h6, h7, h8, h9⟩ :=
    figures.find?_snapshot rest
  simp only [researchQualityGateMet, safeFloat, safeInt, Json.get,
    Json.contains, h1, h2, h3, h4, h5, h6, h7, h8, h9, Option.getD_some,
    intCast_count_beq, length_beq_zero, storedGate, Option.isSome_some,
    Bool.not_true, Bool.false_or]

end

-- ============================================================ the completion

/-- No budget reason passes for a met gate. -/
theorem budgetReason_text_ne_quality_met (reason : BudgetReason) :
    reason.text ≠ "quality_met" := by
  cases reason <;> decide

/-- The evaluation gives this reason only where the gate is met. -/
theorem openStop_quality_met {searchBudgetExhausted : Bool}
    {view : EvaluationView} {run : ResearchRunRow}
    (h : openStop searchBudgetExhausted view run = some "quality_met") :
    view.qualityMet = true := by
  unfold openStop at h
  split at h
  case isTrue hmet => exact hmet
  case isFalse =>
    repeat' split at h
    all_goals exact absurd h (by decide)

/-- Of all its reasons to stop, `finish_iteration` gives `quality_met`
only when the live gate holds. -/
theorem decideIteration_quality_met {outcome : AttemptOutcome}
    {view : EvaluationView} {now : Nat} {run : ResearchRunRow}
    (h : (decideIteration outcome view now run).2 = some "quality_met") :
    view.qualityMet = true := by
  by_cases hdeadline : outcome = .deadlineExhausted
  · rw [decideIteration_deadline hdeadline] at h
    exact absurd h (by decide)
  by_cases hopen : ∀ reason, budgetExhaustionReason now run = some reason →
      reason.isSearchAcquisition = true
  · rw [decideIteration_open hdeadline hopen] at h
    exact openStop_quality_met h
  · push Not at hopen
    obtain ⟨reason, hreason, hhard⟩ := hopen
    rw [decideIteration_hard hdeadline hreason
      (Bool.eq_false_iff.mpr hhard)] at h
    exact absurd (Option.some.inj h)
      (budgetReason_text_ne_quality_met reason)

/-- An iteration that is evaluated leaves `quality_met` only when the live
gate holds; one whose question gives up its turn leaves the run. -/
theorem evaluateIteration_quality_met {workerTaskId : TaskId}
    {outcome : AttemptOutcome} {view : EvaluationView} {now : Nat}
    {run ended : ResearchRunRow} {evaluation : IterationEvaluation}
    (h : evaluateIteration workerTaskId outcome view now run
      = .ok (ended, evaluation)) :
    if outcome.yields then ended = run
    else ended.terminationReason = some "quality_met" →
      view.qualityMet = true := by
  unfold evaluateIteration finishIteration at h
  split at h
  rename_i decision reason hdecided
  by_cases hown : run.OwnedBy workerTaskId
  case neg =>
    rw [if_neg hown] at h
    cases h
  rw [if_pos hown] at h
  by_cases hyields : outcome.yields = true
  · rw [if_pos hyields] at h ⊢
    cases h
    rfl
  · rw [if_neg hyields] at hdecided h ⊢
    cases h
    intro hreason
    have hstop : (decideIteration outcome view now
        (run.counted outcome)).2 = some "quality_met" := by
      rw [hdecided]
      exact hreason
    exact decideIteration_quality_met hstop

/-- `prepare_target`, too, stops for quality only when its gate holds. -/
theorem prepareTarget_quality_met {τ : Type} {workerTaskId : TaskId}
    {view : SchedulerView τ} {now : Nat} {run ended : ResearchRunRow}
    {target : Option τ}
    (h : prepareTarget workerTaskId view now run = .ok (ended, target))
    (hbefore : run.terminationReason ≠ some "quality_met")
    (hafter : ended.terminationReason = some "quality_met") :
    view.qualityMet = true := by
  have hwriting : ∀ {reason : String},
      withoutTarget (enterWriting workerTaskId reason now run)
        = .ok (ended, target) → reason = "quality_met" := by
    intro reason h
    obtain ⟨rfl, w, hw, hrun⟩ := withoutTarget_inv h
    unfold enterWriting at hw
    split at hw
    case isTrue =>
      cases hw
      rw [← hrun] at hafter
      exact Option.some.inj hafter
    case isFalse => cases hw
  by_contra hmet
  have hfalse : view.qualityMet = false := by simpa using hmet
  unfold prepareTarget at h
  rw [hfalse] at h
  dsimp only at h
  split at h
  case isFalse => cases h
  case isTrue hown =>
    split at h
    case h_1 reason _ _ =>
      -- A hard limit writes its own reason.
      exact budgetReason_text_ne_quality_met reason (hwriting h)
    case h_2 =>
      split at h
      case h_1 =>
        cases h
        exact hbefore hafter
      case h_2 =>
        split at h
        case isTrue =>
          obtain ⟨-, w, hw, hrun⟩ := withoutTarget_inv h
          rw [requestReplan, if_pos hown] at hw
          cases hw
          rw [← hrun] at hafter
          exact hbefore hafter
        case isFalse =>
          have hreason := hwriting h
          split at hreason
          · exact budgetReason_text_ne_quality_met _ hreason
          · exact absurd hreason (by decide)
      case h_3 =>
        split at h
        case isTrue =>
          cases h
          exact hbefore hafter
        case isFalse =>
          split at h
          case isTrue =>
            exact budgetReason_text_ne_quality_met _ (hwriting h)
          case isFalse =>
            obtain ⟨w, hw, hpair⟩ := ok_of_map h
            injection hpair with hrun htarget
            rw [WorkerOp.write, writeUsage, if_pos hown] at hw
            cases hw
            rw [← hrun] at hafter
            exact hbefore hafter

-- ================================================================= the runs

/-- The operation keeps the reason of a run that has not ended, or writes
one that is not `quality_met`. -/
def ReasonKept (run run' : ResearchRunRow) : Prop :=
  run'.terminationReason = some "quality_met" →
    run.terminationReason = some "quality_met" ∧ run.status ≠ .completed

section

variable {now : Nat} {run : ResearchRunRow} {w : RunWrite}

/-- The owner may keep the reason. -/
theorem ReasonKept.of_owned {run' : ResearchRunRow} {task : TaskId}
    (hown : run.OwnedBy task)
    (h : run'.terminationReason = run.terminationReason) :
    ReasonKept run run' := by
  intro hreason
  refine ⟨h ▸ hreason, ?_⟩
  rw [hown.1]
  decide

/-- Anyone may replace it by one that promises nothing. -/
theorem ReasonKept.of_ne {run' : ResearchRunRow} (reason : Option String)
    (h : run'.terminationReason = reason) (hne : reason ≠ some "quality_met") :
    ReasonKept run run' :=
  fun hreason => absurd (h.symm.trans hreason) hne

theorem writeUsage_reasonKept {task : TaskId}
    {update : UsageSnapshot → UsageSnapshot}
    (h : writeUsage task update run = .ok w) : ReasonKept run w.run := by
  unfold writeUsage at h
  obtain ⟨hown, rfl⟩ := ok_of_guard h
  exact .of_owned hown rfl

/-- An error code is an upper case text. -/
theorem truncate100_ne_quality_met {code : String}
    (h : isUpper code = true) : truncate100 code ≠ "quality_met" := by
  intro heq
  have hmem : 'q' ∈ code.toList := by
    apply List.take_subset 100
    have hlist := congrArg String.toList heq
    rw [truncate100, String.toList_ofList] at hlist
    rw [hlist]
    decide
  simp only [isUpper, Bool.and_eq_true, Bool.not_eq_true'] at h
  exact List.any_eq_false.mp h.2 'q' hmem (by decide)

theorem failExecution_reasonKept {task : TaskId} {code : String}
    (h : failExecution task code now run = .ok w) : ReasonKept run w.run := by
  unfold failExecution at h
  obtain ⟨-, rfl⟩ := ok_of_guard h
  refine .of_ne _ rfl fun heq => ?_
  have htext := Option.some.inj heq
  by_cases hupper : isUpper code = true
  · rw [if_pos hupper] at htext
    exact truncate100_ne_quality_met hupper htext
  · rw [if_neg hupper] at htext
    exact truncate100_ne_quality_met (by decide) htext

theorem deferRetryableError_reasonKept {transport : Transport}
    {task : TaskId} {code : String} {detail : Option String}
    (h : deferRetryableError transport task code detail now run = .ok w) :
    ReasonKept run w.run := by
  unfold deferRetryableError at h
  split at h
  case isFalse => cases h
  case isTrue =>
    split at h
    case h_1 => cases h
    case h_2 =>
      injection h with hw
      subst hw
      refine .of_ne (some transport.retryPending) rfl ?_
      cases transport <;> decide

/-- The worker's operations that neither a gate nor the writer decides
on. -/
theorem WorkerOp.write_reasonKept {task : TaskId} {op : WorkerOp}
    (h : op.write now task run = .ok w)
    (hop : (RunOp.worker task op).isDecided = false) :
    ReasonKept run w.run := by
  cases op with
  | renewExecutionLease lease =>
      obtain ⟨hown, rfl⟩ := ok_of_guard h
      exact .of_owned hown.1 rfl
  | saveGeneratedPlan usage budgets =>
      obtain ⟨-, rfl⟩ := ok_of_guard h
      exact .of_ne none rfl (by decide)
  | saveGapResolutionPlan =>
      obtain ⟨-, rfl⟩ := ok_of_guard h
      exact .of_ne none rfl (by decide)
  | saveReplannedQuestions budgets =>
      obtain ⟨-, rfl⟩ := ok_of_guard h
      exact .of_ne none rfl (by decide)
  | interruptForPendingPlanner =>
      obtain ⟨-, rfl⟩ := ok_of_guard h
      exact .of_ne (some "planner_not_implemented") rfl (by decide)
  | recordModelRetry =>
      obtain ⟨hown, rfl⟩ := ok_of_guard h
      exact .of_owned hown rfl
  | deferRetryableModelError code detail =>
      exact deferRetryableError_reasonKept h
  | deferRetryableSearchError code detail =>
      exact deferRetryableError_reasonKept h
  | failExecution code => exact failExecution_reasonKept h
  | reservePageSlots requested fresh =>
      simp only [WorkerOp.write] at h
      exact writeUsage_reasonKept h
  | recordPageFetched reused latency =>
      simp only [WorkerOp.write] at h
      exact writeUsage_reasonKept h
  | recordPageFailure latency =>
      simp only [WorkerOp.write] at h
      exact writeUsage_reasonKept h
  | releasePageSlots count =>
      exact writeUsage_reasonKept (ok_of_refusal h).2
  | reserveExtractionSlot =>
      exact writeUsage_reasonKept (ok_of_refusal h).2
  | releaseExtractionSlot =>
      simp only [WorkerOp.write] at h
      exact writeUsage_reasonKept h
  | recordPage usage hit =>
      simp only [WorkerOp.write] at h
      exact writeUsage_reasonKept h
  | recordExtractionFailure usage =>
      simp only [WorkerOp.write] at h
      exact writeUsage_reasonKept h
  | enterWriting reason => cases hop
  | requestReplan => cases hop
  | handOutTarget => cases hop
  | finishIteration outcome reason => cases hop
  | saveReport writer limited => cases hop
  | failNoEvidence =>
      obtain ⟨-, rfl⟩ := ok_of_guard h
      exact .of_ne (some "REPORT_NO_ACCEPTED_EVIDENCE") rfl (by decide)

/-- A user's pause, a cancellation, a recovery and a resumption rewrite
the reason; an acquisition keeps it or drops a pending retry. -/
theorem RunOp.write_reasonKept {op : RunOp} (h : op.write now run = .ok w)
    (hop : op.isDecided = false) : ReasonKept run w.run := by
  cases op with
  | cancel =>
      obtain ⟨-, hw⟩ := ok_of_refusal h
      cases hw
      exact .of_ne (some "user_cancelled") rfl (by decide)
  | pause =>
      obtain ⟨-, hw⟩ := ok_of_refusal h
      cases hw
      exact .of_ne (some "user_paused") rfl (by decide)
  | resume =>
      obtain ⟨-, hw⟩ := ok_of_refusal h
      obtain ⟨-, rfl⟩ := ok_of_guard hw
      exact .of_ne none rfl (by decide)
  | acquireForExecution task lease =>
      have hfree := (acquireForExecution_acquires h).free
      obtain ⟨-, hw⟩ := ok_of_refusal h
      cases hw
      intro hreason
      have hkept : (if run.terminationReason = some modelTransportRetryPending
            ∨ run.terminationReason = some searchTransportRetryPending
          then none else run.terminationReason) = some "quality_met" := hreason
      split at hkept
      case isTrue => cases hkept
      case isFalse =>
        refine ⟨hkept, ?_⟩
        rcases hfree with hqueued | hrunning
        · rw [hqueued]
          decide
        · rw [hrunning.1]
          decide
  | reconcileExpiredLease =>
      obtain ⟨-, rfl⟩ := ok_of_guard h
      exact .of_ne (some "stale_worker_lease_recovered") rfl (by decide)
  | worker task op => exact op.write_reasonKept h hop

end

section

variable {floatOfText : String → Option ℚ} {intOfText : String → Option Int}

/-- The two snapshot gates agree, and where the run, or a loaded context,
was stopped for quality they hold. -/
structure GatedRun.Sound (floatOfText : String → Option ℚ)
    (intOfText : String → Option Int) (s : GatedRun) : Prop where
  agree : qualityGateMetFromSnapshot floatOfText s.qualitySnapshot
    = researchQualityGateMet floatOfText intOfText s.qualitySnapshot
  reason : s.run.terminationReason = some "quality_met" →
    s.run.status = .completed
      ∨ researchQualityGateMet floatOfText intOfText s.qualitySnapshot = true
  context : ∀ context, s.context = some context →
    context.stopReason = some "quality_met" →
      researchQualityGateMet floatOfText intOfText context.qualitySnapshot
        = true

/-- A step that keeps the reason and the snapshot keeps all. -/
theorem GatedRun.Sound.of_kept {s : GatedRun}
    (h : s.Sound floatOfText intOfText) {run : ResearchRunRow}
    (hkept : ReasonKept s.run run) :
    GatedRun.Sound floatOfText intOfText { s with run } :=
  { h with
    reason := fun hreason =>
      have ⟨hbefore, hopen⟩ := hkept hreason
      .inr ((h.reason hbefore).resolve_left hopen) }

/-- A run in writing has not ended, so its reason is backed by the
snapshot. -/
theorem GatedRun.Sound.writing_gate {s : GatedRun}
    (h : s.Sound floatOfText intOfText) {task : TaskId}
    (hlease : s.run.HasWritingLease task)
    (hreason : s.run.terminationReason = some "quality_met") :
    researchQualityGateMet floatOfText intOfText s.qualitySnapshot = true := by
  refine (h.reason hreason).resolve_left ?_
  rw [hlease.1.1]
  decide

/-- Entries that no gate reads change no gate. -/
theorem sameGateEntries_append {entries : QualitySnapshot}
    (h : ∀ entry ∈ entries, entry.1 ∉ gateKeys) (snapshot : QualitySnapshot) :
    SameGateEntries snapshot (entries ++ snapshot) := by
  intro key hkey
  induction entries with
  | nil => rfl
  | cons entry entries ih =>
      have hne : entry.1 ≠ key := fun heq =>
        h entry (List.mem_cons_self ..) (heq ▸ hkey)
      rw [List.cons_append, Json.find?_cons, if_neg hne]
      exact ih fun e he => h e (List.mem_cons_of_mem _ he)

/-- What the writer makes of a context that was loaded for quality. -/
theorem completeReport_of_gate {task : TaskId} {writer : Option TokenUsage}
    {context : CompletionContext} {now : Nat} {run : ResearchRunRow}
    (hlease : run.HasWritingLease task)
    (hgate : context.stopReason = some "quality_met" →
      researchQualityGateMet floatOfText intOfText context.qualitySnapshot
        = true) :
    ∃ w, completeReport floatOfText intOfText task writer context now run
        = .ok w
      ∧ w.run.status = (if context.stopReason = some "quality_met"
        then .completed else .completedWithLimitations)
      ∧ (w.run.terminationReason = some "quality_met"
        → w.run.status = .completed) := by
  unfold completeReport saveReport researchCompletionHasLimitations
  rw [if_pos hlease]
  by_cases hreason : context.stopReason = some "quality_met"
  · rw [if_pos hreason, if_pos hreason, hgate hreason]
    exact ⟨_, rfl, rfl, fun _ => rfl⟩
  · rw [if_neg hreason, if_neg hreason]
    refine ⟨_, rfl, rfl, fun hcompleted => ?_⟩
    exact absurd (Option.some.inj hcompleted) (by decide)

/-- What `prepare_target` leaves is sound: it stops for quality only where
the snapshot gate holds. -/
theorem GatedRun.Sound.prepareTarget {τ : Type} {s : GatedRun}
    (h : s.Sound floatOfText intOfText) {task : TaskId}
    {view : SchedulerView τ} {now : Nat} {run : ResearchRunRow}
    {target : Option τ}
    (hok : Run.prepareTarget task (s.schedulerView floatOfText view) now s.run
      = .ok (run, target)) :
    GatedRun.Sound floatOfText intOfText { s with run } := by
  refine { h with reason := fun hreason => .inr ?_ }
  by_cases hbefore : s.run.terminationReason = some "quality_met"
  · refine (h.reason hbefore).resolve_left ?_
    rw [(prepareTarget_cases hok).1.1]
    decide
  · have hgate : qualityGateMetFromSnapshot floatOfText s.qualitySnapshot
        = true := prepareTarget_quality_met hok hbefore hreason
    rw [← h.agree]
    exact hgate

theorem GatedRun.Sound.finishIteration {s : GatedRun}
    (h : s.Sound floatOfText intOfText) {task : TaskId}
    {outcome : AttemptOutcome} {view : EvaluationView} {now : Nat}
    {figures : QualityFigures} (rest : QualitySnapshot)
    {run : ResearchRunRow} {evaluation : IterationEvaluation}
    (hok : evaluateIteration task outcome
      { view with qualityMet := figures.qualityMet } now s.run
        = .ok (run, evaluation)) :
    GatedRun.Sound floatOfText intOfText
      { s with
        run
        qualitySnapshot :=
          if outcome.yields then s.qualitySnapshot
          else figures.snapshot rest } := by
  have hleft := evaluateIteration_quality_met hok
  by_cases hyields : outcome.yields = true
  · rw [if_pos hyields] at hleft ⊢
    rw [hleft]
    exact h
  · rw [if_neg hyields] at hleft ⊢
    have hwriter := @QualityFigures.researchQualityGateMet_snapshot floatOfText
      intOfText figures rest
    exact {
      agree := (figures.qualityGateMetFromSnapshot_snapshot rest).trans
        hwriter.symm
      reason := fun hreason => .inr (hwriter.trans
        (QualityFigures.storedGate_of_qualityMet (hleft hreason)))
      context := h.context }

/-- One step keeps the gates and the contexts sound. -/
theorem GatedRun.Sound.step {τ : Type} {s : GatedRun}
    (h : s.Sound floatOfText intOfText) (a : QualityAction τ) :
    (s.step floatOfText intOfText a).Sound floatOfText intOfText := by
  cases a with
  | op op now =>
      unfold GatedRun.step
      dsimp only
      split
      case isTrue => exact h
      case isFalse hop =>
        unfold RunOp.applyTo
        split
        case h_1 w hw =>
          exact h.of_kept
            (op.write_reasonKept hw (Bool.eq_false_iff.mpr hop))
        case h_2 => exact h
  | prepareTarget task view now =>
      unfold GatedRun.step
      dsimp only
      unfold gateRun
      split
      case h_1 run target hok => exact h.prepareTarget hok
      case h_2 => exact h
  | finishIteration task outcome view figures rest now =>
      unfold GatedRun.step
      dsimp only
      split
      case h_1 => exact h
      case h_2 run evaluation hok => exact h.finishIteration rest hok
  | writeQuality entries hentries =>
      have hsame := sameGateEntries_append hentries s.qualitySnapshot
      exact {
        agree := by
          rw [GatedRun.step, hsame.qualityGateMetFromSnapshot,
            hsame.researchQualityGateMet]
          exact h.agree
        reason := fun hreason => by
          rw [GatedRun.step, hsame.researchQualityGateMet]
          exact h.reason hreason
        context := h.context }
  | loadForWriting task =>
      refine { h with context := fun context hcontext hreason => ?_ }
      unfold GatedRun.step Run.loadForWriting at hcontext
      dsimp only at hcontext
      split at hcontext
      case isTrue hlease =>
        cases hcontext
        exact h.writing_gate hlease hreason
      case isFalse => exact h.context context hcontext hreason
  | completeReport task writer now =>
      unfold GatedRun.step
      dsimp only
      split
      case h_1 => exact h
      case h_2 context hcontext =>
        split
        case h_1 => exact h
        case h_2 w hw =>
          -- The report is saved under the lease, whatever the run did
          -- since.
          have hlease : s.run.HasWritingLease task := by
            unfold completeReport saveReport at hw
            exact (ok_of_guard hw).1
          obtain ⟨w', hw', -, hcompleted⟩ :=
            @completeReport_of_gate floatOfText intOfText task writer context
              now s.run hlease (h.context context hcontext)
          rw [hw] at hw'
          cases hw'
          exact { h with reason := fun hreason => .inl (hcompleted hreason) }

/-- Every reachable state is sound: a new run has no reason, and passes
neither gate. -/
theorem GatedRun.sound_reachable {τ : Type} {s : GatedRun}
    (h : Transition.Reachable (qualitySystem floatOfText intOfText τ) s) :
    s.Sound floatOfText intOfText := by
  refine h.invariant ?_ fun s a hs => hs.step a
  rintro s ⟨budget, now, rfl⟩
  have hnone : ¬ nearest (85 / 100) ≤ 0 := by decide +kernel
  exact {
    agree := by
      simp [qualityGateMetFromSnapshot, researchQualityGateMet,
        snapshotNumber, safeFloat, Json.get, hnone]
    reason := fun hreason => by cases hreason
    context := fun context hcontext => by cases hcontext }

end

-- ======================================================== the main result

/-- Where the live gate holds both readers of the stored snapshot find
theirs to hold; on any stored snapshot they agree; and in every reachable
state a run that is stopped for quality can be loaded by the writer that
has its lease, and is completed from there. Whenever the context was
loaded, the report of a writer that still has the lease is saved: as
completed if the run was then stopped for quality, and otherwise as
completed with limitations. -/
theorem quality_gates_agree (floatOfText : String → Option ℚ)
    (intOfText : String → Option Int) (τ : Type) :
    (∀ (figures : QualityFigures) (rest : QualitySnapshot),
        (figures.qualityMet = true →
          qualityGateMetFromSnapshot floatOfText (figures.snapshot rest)
              = true
            ∧ researchQualityGateMet floatOfText intOfText
              (figures.snapshot rest) = true)
        ∧ qualityGateMetFromSnapshot floatOfText (figures.snapshot rest)
          = researchQualityGateMet floatOfText intOfText
            (figures.snapshot rest))
      ∧ ∀ s, Transition.Reachable (qualitySystem floatOfText intOfText τ) s →
        ∀ task, s.run.HasWritingLease task →
          (s.run.terminationReason = some "quality_met" →
            ∃ context,
              loadForWriting task s.run s.qualitySnapshot = some context
                ∧ ∀ writer now, ∃ w, completeReport floatOfText intOfText
                    task writer context now s.run = .ok w
                  ∧ w.run.status = .completed)
          ∧ ∀ context, s.context = some context → ∀ writer now,
            ∃ w, completeReport floatOfText intOfText task writer context now
                s.run = .ok w
              ∧ w.run.status = if context.stopReason = some "quality_met"
                then .completed else .completedWithLimitations := by
  constructor
  · intro figures rest
    have hscheduler := @QualityFigures.qualityGateMetFromSnapshot_snapshot
      floatOfText figures rest
    have hwriter := @QualityFigures.researchQualityGateMet_snapshot floatOfText
      intOfText figures rest
    refine ⟨fun hmet => ?_, hscheduler.trans hwriter.symm⟩
    have hstored := QualityFigures.storedGate_of_qualityMet hmet
    exact ⟨hscheduler.trans hstored, hwriter.trans hstored⟩
  · intro s hs task hlease
    have hsound := GatedRun.sound_reachable hs
    constructor
    · intro hreason
      refine ⟨⟨s.run.terminationReason, s.qualitySnapshot⟩, if_pos hlease,
        fun writer now => ?_⟩
      obtain ⟨w, hw, hstatus, -⟩ :=
        @completeReport_of_gate floatOfText intOfText task writer
          ⟨s.run.terminationReason, s.qualitySnapshot⟩ now s.run hlease
          fun _ => hsound.writing_gate hlease hreason
      exact ⟨w, hw, hstatus.trans (if_pos hreason)⟩
    · intro context hcontext writer now
      obtain ⟨w, hw, hstatus, -⟩ :=
        @completeReport_of_gate floatOfText intOfText task writer context now
          s.run hlease (hsound.context context hcontext)
      exact ⟨w, hw, hstatus⟩

/-- Figures at which every gate holds. -/
def metFigures : QualityFigures where
  coverage := 1
  priorityOneCoverage := 1
  sourceQuality := 1
  crossValidation := 1
  criticalGaps := 0
  highRiskConflictIds := []
  numericScopeQuality := 1
  sourceRoleQuality := 1
  freshness := 1

/-- A run is acquired, stopped for quality, paused and resumed, stopped
for quality again, and its context is loaded. -/
def metRun : List (QualityAction Unit) :=
  let stop now : QualityAction Unit :=
    .finishIteration sampleLoopTask .evidenceGained {} metFigures [] now
  [.op (.acquireForExecution sampleLoopTask 60) 1, stop 2, .op .pause 3,
    .op .resume 4, .op (.acquireForExecution sampleLoopTask 60) 5, stop 6,
    .loadForWriting sampleLoopTask]

theorem quality_gates_agree_sample :
    let s := (qualitySystem (fun _ => none) (fun _ => none) Unit).exec
      { run := .created {} 0 } metRun
    (∃ context, loadForWriting sampleLoopTask s.run s.qualitySnapshot
          = some context
        ∧ ∀ writer now, ∃ w, completeReport (fun _ => none) (fun _ => none)
            sampleLoopTask writer context now s.run = .ok w
          ∧ w.run.status = .completed)
      ∧ ∃ context, s.context = some context
        ∧ ∃ w, completeReport (fun _ => none) (fun _ => none) sampleLoopTask
            none context 7 s.run = .ok w
          ∧ w.run.status = .completed := by
  intro s
  have hloaded : s.context.bind (·.stopReason) = some "quality_met" := by
    decide +kernel
  obtain ⟨context, hcontext, hquality⟩ := Option.bind_eq_some_iff.mp hloaded
  have hinit : (qualitySystem (fun _ => none) (fun _ => none) Unit).init
      { run := .created {} 0 } := ⟨{}, 0, rfl⟩
  have hreached := (Transition.Reachable.init hinit).exec metRun
  obtain ⟨hstopped, hcompletes⟩ :=
    (quality_gates_agree (fun _ => none) (fun _ => none) Unit).2 s hreached
      sampleLoopTask (by decide +kernel)
  obtain ⟨w, hw, hstatus⟩ := hcompletes context hcontext none 7
  rw [if_pos hquality] at hstatus
  exact ⟨hstopped (by decide +kernel), context, hcontext, w, hw, hstatus⟩

end DeepResearch.Run
