/-
Which stop reason a run's public state carries.

`_stop_reason` maps what is in its list and answers FATAL_ERROR for
everything else. Some reasons that operations leave on a run that has
not failed are missing from the list: the three interruptions
(`user_paused`, `stale_worker_lease_recovered`,
`planner_not_implemented`), three of the budget reasons, and
`source_space_exhausted`. A synchronisation under a pending transport
retry keeps the stop reason stored before, which may be the fatal one of
a failure the run has been resumed from.

# The shape of the proof

`RunOp.write_honest` says of every operation outside the gates and the
interruptions that it leaves no fatal reason on a run that is not
failed; `prepareTarget_fatal_iff` and `evaluateIteration_fatal_iff` say
exactly when a gate does. The theorem about runs puts these together.
-/
import DeepResearch.Lib.Outcome
import DeepResearch.Run.Proofs.Effects
import DeepResearch.Run.StopReason

namespace DeepResearch.Run

-- =========================================================== statements

/-- A fatal stop reason is projected from a failed run only. -/
def ResearchRunRow.Honest (run : ResearchRunRow) : Prop :=
  stopReason run.terminationReason = some .fatalError →
    run.status = .failed

instance (run : ResearchRunRow) : Decidable run.Honest :=
  inferInstanceAs (Decidable (_ → _))

/-- FATAL_ERROR stands in the stored state only beside FAILED, and what
the next synchronisation projects is no fatal reason either, unless the
run has failed. -/
structure StateRow.FatalOnlyIfFailed (s : StateRow) : Prop where
  run : s.run.Honest
  snapshot : ∀ state, s.snapshot = some state →
    state.stopReason = some .fatalError → state.status = .failed

/-- The budget reasons `_stop_reason` does not list. -/
def BudgetReason.isUnlisted : BudgetReason → Bool
  | .pageFetchAttempt | .extractionCall | .verificationCall => true
  | _ => false

section

variable {τ : Type}

/-- `prepare_target` finds neither a feedback target nor a selected
question with cached work. -/
def SchedulerView.noCachedWork (view : SchedulerView τ) : Bool :=
  match view.feedbackTarget, view.selected with
  | some _, _ => false
  | none, none => true
  | none, some selection =>
      !selection.strategyExhausted && !selection.hasReusable

/-- `prepare_target` ends research over an unlisted budget reason. -/
def SchedulerView.EndsUnlisted (view : SchedulerView τ) (now : Nat)
    (run : ResearchRunRow) : Prop :=
  (budgetExhaustionReason now run).any
    (fun reason => reason.isUnlisted
      && (!reason.isSearchAcquisition || view.noCachedWork)) = true

/-- `finish_iteration` finds every question researched or its source
space exhausted, gaps left, and nothing that decides before that. -/
def EvaluationView.EndsForSourceSpace (view : EvaluationView)
    (run : ResearchRunRow) : Prop :=
  view.qualityMet = false ∧ replanNeeded view run = false
    ∧ view.informationStagnated = false
    ∧ view.qualityEnrichmentNeeded = false
    ∧ view.remaining = 0 ∧ 0 < view.unresolvedGapCount
    ∧ view.sourceSpaceExhausted = true

/-- `finish_iteration` ends research over an unlisted reason. -/
def EvaluationView.EndsUnlisted (view : EvaluationView)
    (outcome : AttemptOutcome) (now : Nat) (run : ResearchRunRow) : Prop :=
  outcome.yields = false ∧ outcome ≠ .deadlineExhausted
    ∧ match budgetExhaustionReason now (run.counted outcome) with
      | some reason =>
          reason.isUnlisted = true ∧ reason.isSearchAcquisition = false
      | none => view.EndsForSourceSpace (run.counted outcome)

instance (view : SchedulerView τ) (now : Nat) (run : ResearchRunRow) :
    Decidable (view.EndsUnlisted now run) :=
  inferInstanceAs (Decidable (_ = true))

/-- The stored state carries the FATAL_ERROR of an earlier failure while
the run waits for a transport retry. -/
def StateRow.RetriesAfterFailure (s : StateRow) : Prop :=
  s.run.terminationReason ≠ none ∧ stopReason s.run.terminationReason = none
    ∧ s.run.status ≠ .failed
    ∧ ∃ state, s.snapshot = some state
      ∧ state.stopReason = some .fatalError

/-- The step leaves no reason outside the list on a run that is not
failed, and projects no stop reason of an earlier failure. -/
def StateRow.Listed (s : StateRow) : StateAction τ → Prop
  | .op .pause _ => s.run.status.isTerminal = true
  | .op .reconcileExpiredLease now =>
      ¬ (s.run.status = .running ∧ s.run.leaseExpired now = true)
  | .op (.worker task .interruptForPendingPlanner) _ =>
      ¬ s.run.OwnedBy task
  | .op _ _ => True
  | .prepareTarget task view now =>
      s.run.OwnedBy task → ¬ view.EndsUnlisted now s.run
  | .finishIteration task outcome view now =>
      s.run.OwnedBy task → ¬ view.EndsUnlisted outcome now s.run
  | .ensureInitialized => True
  | .synchronize task accepted =>
      accepted = true → task.all (s.run.workerTaskId = some ·) = true →
        ¬ s.RetriesAfterFailure

end

-- ====================================================== the reasons' list

/-- What `_stop_reason` makes of a budget reason. -/
theorem stopReason_budget (reason : BudgetReason) :
    stopReason (some reason.text) = some
      (if reason.isUnlisted then .fatalError else .budgetExhausted) := by
  cases reason <;> decide

/-- A run that is not failed carries no fatal reason. -/
theorem ResearchRunRow.Honest.not_fatal {run : ResearchRunRow}
    (h : run.Honest) (hs : run.status ≠ .failed) :
    stopReason run.terminationReason ≠ some .fatalError :=
  fun hfatal => hs (h hfatal)

/-- A reason that is not fatal is honest under every status. -/
theorem honest_of_reason {run : ResearchRunRow} (reason : Option String)
    (h : run.terminationReason = reason)
    (hreason : stopReason reason ≠ some .fatalError) : run.Honest := by
  intro hfatal
  rw [h] at hfatal
  exact absurd hfatal hreason

/-- A fatal reason is not, unless the run has failed. -/
theorem not_honest_of_reason {run : ResearchRunRow}
    (reason : Option String) (h : run.terminationReason = reason)
    (hreason : stopReason reason = some .fatalError)
    (hs : run.status ≠ .failed) : ¬ run.Honest := by
  intro hrun
  apply hs
  apply hrun
  rw [h]
  exact hreason

/-- Where the owner's write keeps the termination reason, the reason
stays as honest as it was. -/
theorem ResearchRunRow.Honest.keep {run run' : ResearchRunRow}
    {task : TaskId} (h : run.Honest) (hown : run.OwnedBy task)
    (hreason : run'.terminationReason = run.terminationReason) :
    run'.Honest := by
  apply honest_of_reason _ hreason
  apply h.not_fatal
  rw [hown.1]
  decide

-- =========================================================== operations

section

variable {now : Nat} {run : ResearchRunRow} {w : RunWrite}

/-- A usage write keeps the termination reason. -/
theorem writeUsage_reason {task : TaskId}
    {update : UsageSnapshot → UsageSnapshot}
    (h : writeUsage task update run = .ok w) (hrun : run.Honest) :
    w.run.Honest := by
  unfold writeUsage at h
  obtain ⟨hown, rfl⟩ := ok_of_guard h
  exact hrun.keep hown rfl

/-- A deferral leaves its transport's pending reason. -/
theorem deferRetryableError_honest {transport : Transport} {task : TaskId}
    {code : String} {detail : Option String}
    (h : deferRetryableError transport task code detail now run = .ok w) :
    w.run.Honest := by
  unfold deferRetryableError at h
  split at h
  case isFalse => cases h
  case isTrue =>
    split at h
    case h_1 => cases h
    case h_2 =>
      injection h with hw
      subst hw
      apply honest_of_reason (some transport.retryPending) rfl
      cases transport <;> decide

/-- The worker's operations outside the gates, less the interruption. -/
theorem WorkerOp.write_honest {task : TaskId} {op : WorkerOp}
    (h : op.write now task run = .ok w) (hgate : op.isGate = false)
    (hop : op ≠ .interruptForPendingPlanner) (hrun : run.Honest) :
    w.run.Honest := by
  cases op with
  | renewExecutionLease lease =>
      simp only [WorkerOp.write, Run.renewExecutionLease] at h
      obtain ⟨hown, rfl⟩ := ok_of_guard h
      exact hrun.keep hown.1 rfl
  -- A new plan takes the reason away.
  | saveGeneratedPlan usage budgets =>
      simp only [WorkerOp.write, Run.saveGeneratedPlan] at h
      obtain ⟨-, rfl⟩ := ok_of_guard h
      exact honest_of_reason none rfl (by decide)
  | saveGapResolutionPlan =>
      simp only [WorkerOp.write, Run.saveGapResolutionPlan] at h
      obtain ⟨-, rfl⟩ := ok_of_guard h
      exact honest_of_reason none rfl (by decide)
  | saveReplannedQuestions budgets =>
      simp only [WorkerOp.write, Run.saveReplannedQuestions] at h
      obtain ⟨-, rfl⟩ := ok_of_guard h
      exact honest_of_reason none rfl (by decide)
  | interruptForPendingPlanner => exact absurd rfl hop
  | recordModelRetry =>
      simp only [WorkerOp.write, Run.recordModelRetry] at h
      obtain ⟨hown, rfl⟩ := ok_of_guard h
      exact hrun.keep hown rfl
  | deferRetryableModelError code detail =>
      exact deferRetryableError_honest h
  | deferRetryableSearchError code detail =>
      exact deferRetryableError_honest h
  | failExecution code =>
      simp only [WorkerOp.write, Run.failExecution] at h
      obtain ⟨-, rfl⟩ := ok_of_guard h
      exact fun _ => rfl
  | reservePageSlots requested fresh =>
      simp only [WorkerOp.write] at h
      exact writeUsage_reason h hrun
  | recordPageFetched reused latency =>
      simp only [WorkerOp.write] at h
      exact writeUsage_reason h hrun
  | recordPageFailure latency =>
      simp only [WorkerOp.write] at h
      exact writeUsage_reason h hrun
  | releasePageSlots count =>
      simp only [WorkerOp.write] at h
      exact writeUsage_reason (ok_of_refusal h).2 hrun
  | reserveExtractionSlot =>
      simp only [WorkerOp.write] at h
      exact writeUsage_reason (ok_of_refusal h).2 hrun
  | releaseExtractionSlot =>
      simp only [WorkerOp.write] at h
      exact writeUsage_reason h hrun
  | recordPage usage hit =>
      simp only [WorkerOp.write] at h
      exact writeUsage_reason h hrun
  | recordExtractionFailure usage =>
      simp only [WorkerOp.write] at h
      exact writeUsage_reason h hrun
  -- The reasons of these are computed by the gates.
  | enterWriting reason => cases hgate
  | requestReplan => cases hgate
  | handOutTarget => cases hgate
  | finishIteration outcome reason => cases hgate
  | saveReport writer limited =>
      simp only [WorkerOp.write, Run.saveReport] at h
      obtain ⟨-, rfl⟩ := ok_of_guard h
      cases limited with
      | false => exact honest_of_reason (some "quality_met") rfl (by decide)
      | true =>
          exact honest_of_reason (some "completed_with_limitations") rfl
            (by decide)
  | failNoEvidence =>
      simp only [WorkerOp.write, Run.failNoEvidence] at h
      obtain ⟨-, rfl⟩ := ok_of_guard h
      exact fun _ => rfl

/-- An acquired run keeps its reason or drops a pending retry; it was
not failed before. -/
theorem acquireForExecution_honest {task : TaskId} {lease : Nat}
    (h : acquireForExecution task lease now run = .ok w)
    (hrun : run.Honest) : w.run.Honest := by
  have hfree := (acquireForExecution_acquires h).free
  unfold acquireForExecution at h
  obtain ⟨-, hw⟩ := ok_of_refusal h
  injection hw with hw
  subst hw
  apply honest_of_reason
    (if run.terminationReason = some modelTransportRetryPending
        ∨ run.terminationReason = some searchTransportRetryPending
      then none else run.terminationReason) rfl
  split
  case isTrue => decide
  case isFalse =>
    apply hrun.not_fatal
    rcases hfree with hq | hr
    · rw [hq]
      decide
    · rw [hr.1]
      decide

/-- The three operations that interrupt a run without failing it leave a
fatal reason whenever they commit. -/
theorem fatal_of_interruption {op : RunOp}
    (hop : op = .pause ∨ op = .reconcileExpiredLease
      ∨ ∃ task, op = .worker task .interruptForPendingPlanner)
    (h : op.write now run = .ok w) : ¬ w.run.Honest := by
  rcases hop with rfl | rfl | ⟨task, rfl⟩
  · simp only [RunOp.write, Run.pause] at h
    obtain ⟨-, hw⟩ := ok_of_refusal h
    injection hw with hw
    subst hw
    exact not_honest_of_reason (some "user_paused") rfl (by decide)
      fun hstatus => RunStatus.noConfusion hstatus
  · simp only [RunOp.write, Run.reconcileExpiredLease] at h
    obtain ⟨-, rfl⟩ := ok_of_guard h
    exact not_honest_of_reason (some "stale_worker_lease_recovered") rfl
      (by decide) fun hstatus => RunStatus.noConfusion hstatus
  · simp only [RunOp.write, WorkerOp.write, interruptForPendingPlanner] at h
    obtain ⟨-, rfl⟩ := ok_of_guard h
    exact not_honest_of_reason (some "planner_not_implemented") rfl
      (by decide) fun hstatus => RunStatus.noConfusion hstatus

/-- Every other operation outside the gates leaves an honest reason. -/
theorem RunOp.write_honest {op : RunOp} (h : op.write now run = .ok w)
    (hgate : op.isGate = false)
    (hop : ¬ (op = .pause ∨ op = .reconcileExpiredLease
      ∨ ∃ task, op = .worker task .interruptForPendingPlanner))
    (hrun : run.Honest) : w.run.Honest := by
  cases op with
  | cancel =>
      simp only [RunOp.write, Run.cancel] at h
      obtain ⟨-, hw⟩ := ok_of_refusal h
      injection hw with hw
      subst hw
      exact honest_of_reason (some "user_cancelled") rfl (by decide)
  | pause => exact absurd (.inl rfl) hop
  | resume =>
      simp only [RunOp.write, Run.resume] at h
      obtain ⟨-, h⟩ := ok_of_refusal h
      obtain ⟨-, rfl⟩ := ok_of_guard h
      exact honest_of_reason none rfl (by decide)
  | acquireForExecution task lease =>
      exact acquireForExecution_honest h hrun
  | reconcileExpiredLease => exact absurd (.inr (.inl rfl)) hop
  | worker task op =>
      exact op.write_honest h hgate
        (fun heq => hop (.inr (.inr ⟨task, by rw [heq]⟩))) hrun

end

-- ================================================================= gates

section

variable {τ : Type} {now : Nat} {run : ResearchRunRow} {task : TaskId}

/-- Turning to writing is honest when the reason is no fatal one. -/
theorem enterWriting_honest_iff (reason : String) (hown : run.OwnedBy task) :
    (gateRun run (withoutTarget (enterWriting task reason now run)
      : Except Refusal (ResearchRunRow × Option τ))).Honest
      ↔ stopReason (some reason) ≠ some .fatalError := by
  unfold enterWriting
  rw [if_pos hown]
  constructor
  · intro h hfatal
    cases h hfatal
  · intro h
    exact honest_of_reason (some reason) rfl h

/-- Turning to writing over a budget reason. -/
theorem enterWriting_budget_honest_iff (reason : BudgetReason)
    (hown : run.OwnedBy task) :
    (gateRun run (withoutTarget (enterWriting task reason.text now run)
      : Except Refusal (ResearchRunRow × Option τ))).Honest
      ↔ reason.isUnlisted = false := by
  rw [enterWriting_honest_iff reason.text hown, stopReason_budget]
  cases reason.isUnlisted <;> decide

/-- Asking for a replan keeps the reason. -/
theorem requestReplan_honest (hrun : run.Honest) (hown : run.OwnedBy task) :
    (gateRun run (withoutTarget (requestReplan task run)
      : Except Refusal (ResearchRunRow × Option τ))).Honest := by
  unfold requestReplan
  rw [if_pos hown]
  exact hrun.keep hown rfl

/-- So does handing out a target. -/
theorem handOutTarget_honest (target : τ) (hrun : run.Honest)
    (hown : run.OwnedBy task) :
    (gateRun run ((fun w => (w.run, some target)) <$>
      WorkerOp.handOutTarget.write now task run)).Honest := by
  simp only [WorkerOp.write, writeUsage]
  rw [if_pos hown]
  exact hrun.keep hown rfl

/-- Without an exhausted limit `prepare_target` leaves no fatal reason. -/
theorem prepareTarget_honest_of_none (view : SchedulerView τ)
    (hrun : run.Honest) (hown : run.OwnedBy task)
    (hb : budgetExhaustionReason now run = none) :
    (gateRun run (prepareTarget task view now run)).Honest := by
  unfold prepareTarget
  simp only [hb, searchAcquisitionBudgetExhausted, Option.any_none,
    if_pos hown]
  split
  case h_1 => exact hrun
  case h_2 =>
    split
    case isTrue => exact requestReplan_honest hrun hown
    case isFalse =>
      rw [enterWriting_honest_iff _ hown, if_neg Bool.false_ne_true]
      split <;> decide
  case h_3 selection _ _ =>
    split
    case isTrue => exact hrun
    case isFalse =>
      rw [if_neg (by simp)]
      exact handOutTarget_honest selection.target hrun hown

/-- A hard limit turns every `prepare_target` to writing. -/
theorem prepareTarget_honest_of_hard (view : SchedulerView τ)
    (hown : run.OwnedBy task) {reason : BudgetReason}
    (hb : budgetExhaustionReason now run = some reason)
    (hhard : reason.isSearchAcquisition = false) :
    (gateRun run (prepareTarget task view now run)).Honest
      ↔ reason.isUnlisted = false := by
  unfold prepareTarget
  simp only [hb, searchAcquisitionBudgetExhausted, Option.any_some, hhard,
    if_pos hown]
  exact enterWriting_budget_honest_iff reason hown

/-- A search limit turns it to writing when there is no cached work. -/
theorem prepareTarget_honest_of_search (view : SchedulerView τ)
    (hrun : run.Honest) (hown : run.OwnedBy task) {reason : BudgetReason}
    (hb : budgetExhaustionReason now run = some reason)
    (hsearch : reason.isSearchAcquisition = true) :
    (gateRun run (prepareTarget task view now run)).Honest
      ↔ (reason.isUnlisted && view.noCachedWork) = false := by
  obtain ⟨feedbackTarget, selected, qualityMet, gaps⟩ := view
  unfold prepareTarget SchedulerView.noCachedWork
  simp only [hb, searchAcquisitionBudgetExhausted, Option.any_some, hsearch,
    if_pos hown, Option.getD_some]
  cases feedbackTarget with
  | some target => exact ⟨fun _ => Bool.and_false _, fun _ => hrun⟩
  | none =>
      cases selected with
      | none =>
          rw [if_neg (by simp), if_pos trivial, Bool.and_true]
          exact enterWriting_budget_honest_iff reason hown
      | some selection =>
          cases hx : selection.strategyExhausted with
          | true =>
              simp only [hx, if_pos]
              exact ⟨fun _ => Bool.and_false _, fun _ => hrun⟩
          | false =>
              have hout :=
                @handOutTarget_honest τ now run task selection.target hrun hown
              have hend :=
                @enterWriting_budget_honest_iff τ now run task reason hown
              cases hr : selection.hasReusable with
              | true => simpa [hx, hr] using hout
              | false => simpa [hx, hr] using hend

/-- When `prepare_target` leaves no fatal reason. -/
theorem prepareTarget_honest_iff (view : SchedulerView τ)
    (hrun : run.Honest) :
    (gateRun run (prepareTarget task view now run)).Honest
      ↔ (run.OwnedBy task → ¬ view.EndsUnlisted now run) := by
  by_cases hown : run.OwnedBy task
  case neg =>
    unfold prepareTarget
    rw [if_neg hown]
    exact ⟨fun _ h => absurd h hown, fun _ => hrun⟩
  case pos =>
    unfold SchedulerView.EndsUnlisted
    cases hb : budgetExhaustionReason now run with
    | none =>
        have h := prepareTarget_honest_of_none view hrun hown hb
        exact ⟨fun _ _ => nofun, fun _ => h⟩
    | some reason =>
        cases hsearch : reason.isSearchAcquisition with
        | true =>
            rw [prepareTarget_honest_of_search view hrun hown hb hsearch]
            simp [hown, hsearch]
        | false =>
            rw [prepareTarget_honest_of_hard view hown hb hsearch]
            simp [hown, hsearch]

/-- Without a hard limit, the reason is fatal exactly when the source
space is exhausted. -/
theorem openStop_fatal_iff (searchBudgetExhausted : Bool)
    (view : EvaluationView) :
    stopReason (openStop searchBudgetExhausted view run) = some .fatalError
      ↔ searchBudgetExhausted = false ∧ view.EndsForSourceSpace run := by
  unfold openStop EvaluationView.EndsForSourceSpace
  -- In the order of the branches; each but the last gives a reason that is
  -- public as another one.
  by_cases hquality : view.qualityMet = true
  · rw [if_pos hquality]
    simp [hquality, stopReason, modelTransportRetryPending,
      searchTransportRetryPending]
  rw [if_neg hquality]
  by_cases hcontinues : (searchBudgetExhausted || replanNeeded view run)
      = true
  · rw [if_pos hcontinues]
    rcases Bool.or_eq_true_iff.mp hcontinues with h | h <;>
      simp [h, stopReason]
  rw [if_neg hcontinues]
  by_cases hstagnated : view.informationStagnated = true
  · rw [if_pos hstagnated]
    simp [hstagnated, stopReason, modelTransportRetryPending,
      searchTransportRetryPending, budgetStopReasons]
  rw [if_neg hstagnated]
  by_cases henrich : (view.qualityEnrichmentNeeded || view.remaining != 0)
      = true
  · rw [if_pos henrich]
    rcases Bool.or_eq_true_iff.mp henrich with h | h
    · simp [h, stopReason]
    · simp [bne_iff_ne.mp h, stopReason]
  rw [if_neg henrich]
  by_cases hgaps : view.unresolvedGapCount = 0
  · rw [if_pos hgaps]
    simp [hgaps, stopReason, modelTransportRetryPending,
      searchTransportRetryPending, budgetStopReasons]
  rw [if_neg hgaps]
  simp only [Bool.or_eq_true, not_or, Bool.not_eq_true, bne_eq_false_iff_eq]
    at hcontinues henrich
  cases hspace : view.sourceSpaceExhausted with
  | true =>
      simp [hquality, hcontinues, hstagnated, henrich,
        Nat.pos_of_ne_zero hgaps, stopReason, modelTransportRetryPending,
        searchTransportRetryPending, budgetStopReasons]
  | false => simp [stopReason]

/-- When the reason `finish_iteration` decides on is fatal. -/
theorem decideIteration_fatal_iff (outcome : AttemptOutcome)
    (view : EvaluationView) :
    stopReason (decideIteration outcome view now run).2 = some .fatalError
      ↔ outcome ≠ .deadlineExhausted
        ∧ match budgetExhaustionReason now run with
          | some reason =>
              reason.isUnlisted = true ∧ reason.isSearchAcquisition = false
          | none => view.EndsForSourceSpace run := by
  by_cases hout : outcome = .deadlineExhausted
  · rw [decideIteration_deadline hout, stopReason_budget]
    simp [hout, BudgetReason.isUnlisted]
  cases hb : budgetExhaustionReason now run with
  | none =>
      rw [decideIteration_open hout (by simp [hb]), openStop_fatal_iff, hb]
      simp [hout, searchAcquisitionBudgetExhausted]
  | some reason =>
      cases hsearch : reason.isSearchAcquisition with
      | false =>
          rw [decideIteration_hard hout hb hsearch, stopReason_budget]
          cases hunlisted : reason.isUnlisted <;>
            simp [hout, hsearch, hunlisted]
      | true =>
          rw [decideIteration_open hout (by simp [hb, hsearch]),
            openStop_fatal_iff, hb]
          simp [searchAcquisitionBudgetExhausted, hsearch]

/-- When `finish_iteration` leaves no fatal reason. -/
theorem evaluateIteration_honest_iff (outcome : AttemptOutcome)
    (view : EvaluationView) (hrun : run.Honest) :
    (gateRun run (evaluateIteration task outcome view now run)).Honest
      ↔ (run.OwnedBy task → ¬ view.EndsUnlisted outcome now run) := by
  unfold evaluateIteration finishIteration EvaluationView.EndsUnlisted
  by_cases hown : run.OwnedBy task
  case neg =>
    simp only [if_neg hown]
    exact ⟨fun _ h => absurd h hown, fun _ => hrun⟩
  case pos =>
    simp only [hown, forall_const]
    cases hyields : outcome.yields with
    | true =>
        exact ⟨fun _ h => Bool.false_ne_true h.1.symm, fun _ => hrun⟩
    | false =>
        have hfatal := @decideIteration_fatal_iff now
          (run.counted outcome) outcome view
        simp only [true_and]
        rw [← hfatal]
        constructor
        · intro h hx
          cases h hx
        · intro h
          exact honest_of_reason _ rfl h

end

-- ==================================================================== runs

section

variable {τ : Type}

/-- An interruption leaves an honest reason exactly when it is
refused. -/
theorem applyTo_honest_of_interruption {op : RunOp} {now : Nat}
    {run : ResearchRunRow}
    (hop : op = .pause ∨ op = .reconcileExpiredLease
      ∨ ∃ task, op = .worker task .interruptForPendingPlanner)
    (hrun : run.Honest) :
    (op.applyTo now run).Honest ↔ ∀ w, op.write now run ≠ .ok w := by
  unfold RunOp.applyTo
  cases h : op.write now run with
  | error r => exact ⟨fun _ => Outcome.error_ne_ok r, fun _ => hrun⟩
  | ok w =>
      have hfatal := fatal_of_interruption hop h
      exact ⟨fun hon => absurd hon hfatal, fun hno => absurd rfl (hno w)⟩

/-- An operation outside the gates leaves an honest reason exactly when
it is no interruption that commits. -/
theorem applyTo_honest_iff (op : RunOp) (now : Nat) {s : StateRow}
    (hgate : op.isGate = false) (hrun : s.run.Honest) :
    (op.applyTo now s.run).Honest
      ↔ s.Listed (.op op now : StateAction τ) := by
  by_cases hop : op = .pause ∨ op = .reconcileExpiredLease
      ∨ ∃ task, op = .worker task .interruptForPendingPlanner
  case pos =>
    rw [applyTo_honest_of_interruption hop hrun]
    rcases hop with rfl | rfl | ⟨task, rfl⟩
    · show (∀ w, Run.pause now s.run ≠ .ok w) ↔ s.run.status.isTerminal = true
      unfold Run.pause
      split
      case isTrue hterminal =>
        exact ⟨fun _ => hterminal, fun _ => Outcome.error_ne_ok _⟩
      case isFalse hopen =>
        exact ⟨fun h => absurd rfl (h _), fun h => absurd h hopen⟩
    · simp only [RunOp.write, Run.reconcileExpiredLease]
      exact Outcome.guard_refused_iff
    · simp only [RunOp.write, WorkerOp.write, interruptForPendingPlanner]
      exact Outcome.guard_refused_iff
  case neg =>
    constructor
    · intro _
      unfold StateRow.Listed
      split
      case h_1 heq =>
        cases heq
        exact absurd (.inl rfl) hop
      case h_2 heq =>
        cases heq
        exact absurd (.inr (.inl rfl)) hop
      case h_3 heq =>
        cases heq
        exact absurd (.inr (.inr ⟨_, rfl⟩)) hop
      case h_4 => trivial
      all_goals next heq => cases heq
    · intro _
      unfold RunOp.applyTo
      cases h : op.write now s.run with
      | error r => exact hrun
      | ok w => exact op.write_honest h hgate hop hrun

/-- The public status of a run is FAILED exactly when the run is. -/
theorem stateStatus_failed_iff (status : RunStatus) (phase : RunPhase) :
    stateStatus status phase = .failed ↔ status = .failed := by
  cases status <;> cases phase <;> decide

/-- What a synchronisation projects is fatal when the run's own reason
is, or when the reason projects to nothing and the stored one was. -/
theorem synchronized_fatal_iff (current : ResearchState)
    (run : ResearchRunRow) :
    (current.synchronized run).stopReason = some .fatalError
      ↔ stopReason run.terminationReason = some .fatalError
        ∨ run.terminationReason ≠ none
          ∧ stopReason run.terminationReason = none
          ∧ current.stopReason = some .fatalError := by
  unfold ResearchState.synchronized
  cases hr : run.terminationReason with
  | none => simp [stopReason]
  | some reason =>
      cases hs : stopReason (some reason) with
      | none => simp
      | some r => simp

/-- A synchronisation keeps FATAL_ERROR beside FAILED, unless it finds
the one of an earlier failure under a pending retry. -/
theorem synchronize_iff (task : Option TaskId) (accepted : Bool)
    {s : StateRow} (hs : s.FatalOnlyIfFailed) :
    (s.step (.synchronize task accepted : StateAction τ)).FatalOnlyIfFailed
      ↔ s.Listed (.synchronize task accepted : StateAction τ) := by
  unfold StateRow.step StateRow.Listed StateRow.RetriesAfterFailure
  cases hsnap : s.snapshot with
  | none => simp [hs]
  | some current =>
      by_cases hok : (accepted
          && task.all (s.run.workerTaskId = some ·)) = true
      case neg =>
        simp only [if_neg hok]
        constructor
        · intro _ haccepted htask
          exact absurd (by rw [haccepted, htask]; rfl) hok
        · exact fun _ => hs
      case pos =>
        simp only [if_pos hok]
        obtain ⟨haccepted, htask⟩ := Bool.and_eq_true_iff.mp hok
        constructor
        -- A retry after a failure would leave the fatal reason behind.
        · intro h _ _ hretry
          obtain ⟨hreason, hnone, hfailed, state, hstate, hfatal⟩ := hretry
          injection hstate with hstate
          subst hstate
          have hstatus := h.snapshot _ rfl
            ((synchronized_fatal_iff current s.run).mpr
              (.inr ⟨hreason, hnone, hfatal⟩))
          exact hfailed ((stateStatus_failed_iff _ _).mp hstatus)
        · intro h
          refine ⟨hs.run, ?_⟩
          intro state hstate hfatal
          injection hstate with hstate
          subst hstate
          apply (stateStatus_failed_iff _ _).mpr
          rcases (synchronized_fatal_iff current s.run).mp hfatal with hr | hr
          · exact hs.run hr
          · by_contra hfailed
            exact h haccepted htask
              ⟨hr.1, hr.2.1, hfailed, current, rfl, hr.2.2⟩

/-- A step that leaves the stored state as it is. -/
theorem fatalOnlyIfFailed_of_run {s : StateRow} {run : ResearchRunRow}
    (hs : s.FatalOnlyIfFailed) :
    ({ s with run } : StateRow).FatalOnlyIfFailed ↔ run.Honest :=
  ⟨fun h => h.run, fun h => ⟨h, hs.snapshot⟩⟩

/-- One step keeps FATAL_ERROR to failed runs exactly when it is
listed. -/
theorem step_iff (s : StateRow) (a : StateAction τ)
    (hs : s.FatalOnlyIfFailed) :
    (s.step a).FatalOnlyIfFailed ↔ s.Listed a := by
  cases a with
  | op op now =>
      cases hgate : op.isGate with
      | true =>
          simp only [StateRow.step, hgate, if_true]
          refine ⟨fun _ => ?_, fun _ => hs⟩
          cases op with
          | worker task op => cases op <;> trivial
          | _ => cases hgate
      | false =>
          simp only [StateRow.step, hgate, Bool.false_eq_true, if_false]
          rw [fatalOnlyIfFailed_of_run hs]
          exact applyTo_honest_iff op now hgate hs.run
  | prepareTarget task view now =>
      exact (fatalOnlyIfFailed_of_run hs).trans
        (prepareTarget_honest_iff view hs.run)
  | finishIteration task outcome view now =>
      exact (fatalOnlyIfFailed_of_run hs).trans
        (evaluateIteration_honest_iff outcome view hs.run)
  | ensureInitialized =>
      refine ⟨fun _ => trivial, fun _ => ⟨hs.run, ?_⟩⟩
      intro state hstate hfatal
      injection hstate with hstate
      subst hstate
      cases hsnap : s.snapshot with
      | some current =>
          rw [hsnap] at hfatal
          exact hs.snapshot current hsnap hfatal
      | none =>
          rw [hsnap] at hfatal
          exact (stateStatus_failed_iff _ _).mpr (hs.run hfatal)
  | synchronize task accepted => exact synchronize_iff task accepted hs

/-- Along a run from its creation FATAL_ERROR is reported for failed
runs only, exactly when every step of the run is listed. -/
theorem fatal_error_only_when_failed_iff (budget : BudgetSnapshot)
    (now : Nat) (as : List (StateAction τ)) :
    (stateSystem τ).Throughout StateRow.FatalOnlyIfFailed
        { run := .created budget now } as
      ↔ (stateSystem τ).Along StateRow.Listed
        { run := .created budget now } as := by
  apply Transition.throughout_iff_along (fun _ hs => hs)
  · exact fun s a hs hlisted => (step_iff s a hs).mpr hlisted
  · exact fun s a hs hlisted h => hlisted ((step_iff s a hs).mp h)
  · exact ⟨nofun, nofun⟩

/-- The worker is at the run when the user pauses it; the state is
synchronised after the pause. -/
def pausedRun : List (StateAction Unit) :=
  [.op (.acquireForExecution ⟨sampleRunId, .start, 1⟩ 900) 1,
    .ensureInitialized, .op .pause 2, .synchronize none true]

/-- The state of a paused run carries FATAL_ERROR beside INTERRUPTED. -/
theorem paused_run_reports_fatal_error :
    ¬ ∀ (budget : BudgetSnapshot) (now : Nat)
      (as : List (StateAction Unit)),
      (stateSystem Unit).Throughout StateRow.FatalOnlyIfFailed
        { run := .created budget now } as := by
  intro h
  have hrun := h {} 0 pausedRun
  have hlast : ((stateSystem Unit).exec { run := .created {} 0 }
      pausedRun).FatalOnlyIfFailed := by
    apply Transition.System.Throughout.after_run
    rw [List.append_nil]
    exact hrun
  have hfailed := hlast.snapshot ⟨.interrupted, some .fatalError⟩ rfl rfl
  cases hfailed

end

end DeepResearch.Run
