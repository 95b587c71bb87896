/-
What one research attempt leaves alone: the budget of the run and the
counters of the scheduler. Every helper of the method keeps these figures,
so every call does, and every run of calls.
-/
import DeepResearch.Run.Proofs.AttemptPages

namespace DeepResearch.Run

-- ============================================================== an attempt

/-- What the limits of the scheduler are read off. -/
structure SchedulerFigures where
  budget : BudgetSnapshot
  schedulerActions : Nat
  replans : Nat

def TokenLedger.figures (ledger : TokenLedger) : SchedulerFigures where
  budget := ledger.run.budgetSnapshot
  schedulerActions := ledger.run.usageSnapshot.schedulerActions
  replans := ledger.run.usageSnapshot.replans

/-- The usage keeps what the scheduler counts. -/
structure SameSchedule (usage usage' : UsageSnapshot) : Prop where
  actions : usage'.schedulerActions = usage.schedulerActions
  replans : usage'.replans = usage.replans

theorem figures_setUsage {ledger : TokenLedger} {usage : UsageSnapshot}
    (hsame : SameSchedule ledger.run.usageSnapshot usage) :
    (ledger.setUsage usage).figures = ledger.figures := by
  show SchedulerFigures.mk _ usage.schedulerActions usage.replans = _
  rw [hsame.actions, hsame.replans]
  rfl

theorem figures_close {attemptId : AttemptId} {ledger ledger' : TokenLedger}
    (hcloses : ClosesReservation attemptId ledger ledger') :
    ledger'.figures = ledger.figures := by
  obtain ⟨settled, hrun⟩ := hcloses.run
  unfold TokenLedger.figures
  rw [hrun]

theorem figures_chargeExtractionFailure (usage : Option TokenUsage)
    (attemptId : AttemptId) (usageEstimated : Bool) (now : Nat)
    (ledger : TokenLedger) :
    (chargeExtractionFailure usage (some attemptId) usageEstimated now
      ledger).figures = ledger.figures := by
  have hcounted : (ledger.setUsage (recordExtractionFailure
      ledger.run.usageSnapshot usage)).figures = ledger.figures := by
    cases usage <;> exact figures_setUsage ⟨rfl, rfl⟩
  cases usage with
  | none =>
      exact (figures_close uncertainReservationRow_closes).trans hcounted
  | some usage =>
      exact (figures_close (settleReservationRow_closes _ _ _)).trans hcounted

theorem figures_chargePage (usage : TokenUsage) (cacheHit : Bool)
    (attemptId : AttemptId) (usageEstimated : Bool) (now : Nat)
    (ledger : TokenLedger) :
    (chargePage usage cacheHit (some attemptId) usageEstimated now
      ledger).figures = ledger.figures := by
  have hcounted : (ledger.setUsage (recordPage ledger.run.usageSnapshot
      usage cacheHit)).figures = ledger.figures := figures_setUsage ⟨rfl, rfl⟩
  exact (figures_close (settleReservationRow_closes _ _ _)).trans hcounted

namespace AttemptState

variable {task : TaskId} {target : AttemptTarget} {s : AttemptState}

@[simp] theorem ledger_goto (call : AttemptCall) :
    (s.goto call).ledger = s.ledger := rfl

@[simp] theorem ledger_raised : s.raised.ledger = s.ledger := rfl

@[simp] theorem ledger_returned (outcome : AttemptOutcome) :
    (s.returned outcome).ledger = s.ledger := rfl

theorem figures_updateUsage {update : UsageSnapshot → UsageSnapshot}
    (hsame : SameSchedule s.usage (update s.usage)) :
    (s.updateUsage update).ledger.figures = s.ledger.figures :=
  figures_setUsage hsame

@[simp] theorem figures_releasePages (count : Nat) :
    (s.releasePages task count).ledger.figures = s.ledger.figures := by
  unfold releasePages
  split
  case isTrue => rfl
  case isFalse => exact figures_updateUsage ⟨rfl, rfl⟩

@[simp] theorem figures_releaseUnused :
    (s.releaseUnused task).ledger.figures = s.ledger.figures :=
  figures_releasePages _

@[simp] theorem figures_releaseExtraction :
    s.releaseExtraction.ledger.figures = s.ledger.figures :=
  figures_updateUsage ⟨rfl, rfl⟩

@[simp] theorem figures_recordFetch (reused : Bool) (latencyMs : Nat) :
    (s.recordFetch task reused latencyMs).ledger.figures
      = s.ledger.figures := by
  cases reused <;> rfl

@[simp] theorem figures_recordReadFailure (latencyMs : Nat) :
    (s.recordReadFailure task latencyMs).ledger.figures
      = s.ledger.figures := rfl

@[simp] theorem figures_cleanupAttempt (attemptId : AttemptId)
    (uncertain : Bool) (now : Nat) :
    (s.cleanupAttempt task attemptId uncertain now).ledger.figures
      = s.ledger.figures := by
  unfold cleanupAttempt
  rw [figures_releasePages, figures_releaseExtraction]
  cases uncertain with
  | true => exact figures_close uncertainReservationRow_closes
  | false => exact figures_close (releaseReservationRow_closes now)

@[simp] theorem figures_recordFailure (usage : Option TokenUsage)
    (attemptId : AttemptId) (usageEstimated : Bool) (now : Nat) :
    (s.recordFailure usage attemptId usageEstimated now).ledger.figures
      = s.ledger.figures :=
  figures_chargeExtractionFailure usage attemptId usageEstimated now s.ledger

@[simp] theorem figures_reservePages (results : List String) :
    (s.reservePages task target results).ledger.figures
      = s.ledger.figures := by
  unfold reservePages
  dsimp only
  split
  case isTrue => rfl
  case isFalse =>
    refine figures_setUsage ?_
    unfold Run.reservePageSlots
    dsimp only
    split <;> exact ⟨rfl, rfl⟩

@[simp] theorem ledger_nextCandidate :
    (s.nextCandidate target).ledger = s.ledger := by
  unfold nextCandidate
  split
  case h_1 => rfl
  case h_2 => split <;> rfl

@[simp] theorem ledger_startRead (url : String) :
    (s.startRead target url).ledger = s.ledger := by
  unfold startRead
  split
  case isTrue => split <;> simp
  case isFalse => rfl

@[simp] theorem ledger_nextPrefetched (urls pages : List String) :
    (s.nextPrefetched target urls pages).ledger = s.ledger := by
  unfold nextPrefetched
  split <;> simp

@[simp] theorem ledger_dispatched (results : List String) :
    (s.dispatched target results).ledger = s.ledger := by
  unfold dispatched
  dsimp only
  generalize (if target.parallelReadsEnabled = true then _ else []) = urls
  split <;> simp

@[simp] theorem figures_prefetchRecorded (url : String)
    (rest pages : List String) (latencyMs : Nat) :
    (s.prefetchRecorded task target url rest pages latencyMs).ledger.figures
      = s.ledger.figures := by
  unfold prefetchRecorded
  split
  case isTrue =>
    rw [ledger_nextPrefetched]
    exact figures_recordFetch false latencyMs
  case isFalse =>
    rw [ledger_nextPrefetched]
    exact figures_recordReadFailure latencyMs

@[simp] theorem ledger_selected (already : Bool) :
    (s.selected target already).ledger = s.ledger := by
  unfold selected
  split <;> simp

@[simp] theorem figures_reserveSlot (deadlinePassed : Bool) (now : Nat) :
    (s.reserveSlot task deadlinePassed now).ledger.figures
      = s.ledger.figures := by
  have hreserved : (s.updateUsage reserveExtractionSlot).ledger.figures
      = s.ledger.figures := figures_updateUsage ⟨rfl, rfl⟩
  unfold reserveSlot
  split
  case isTrue =>
    dsimp only
    split
    case isTrue => simpa using hreserved
    case isFalse => exact hreserved
  case isFalse => rfl

/-- A question to `evidence_model_budget`. -/
theorem figures_evidenceModelBudget {call : EvidenceBudgetCall}
    {view : EvidenceBudgetView} {now : Nat} {answer : EvidenceModelBudget}
    {ledger ledger' : TokenLedger}
    (hanswer : evidenceModelBudget task call view now ledger
      = .ok (answer, ledger')) : ledger'.figures = ledger.figures := by
  obtain ⟨tokens, guarded, rfl⟩ := evidenceModelBudget_ledger hanswer
  exact figures_setUsage ⟨rfl, rfl⟩

@[simp] theorem figures_askBudget (view : EvidenceBudgetView) (now : Nat) :
    (s.askBudget task target view now).ledger.figures
      = s.ledger.figures := by
  unfold askBudget
  split
  case h_1 answer ledger hanswer =>
    have hkept := figures_evidenceModelBudget hanswer
    dsimp only
    split
    case isTrue => simpa using hkept
    case isFalse => exact hkept
  case h_2 => rfl

@[simp] theorem figures_askInitialBudget (view : EvidenceBudgetView)
    (now : Nat) :
    (s.askInitialBudget task target view now).ledger.figures
      = s.ledger.figures := by
  unfold askInitialBudget
  split
  case h_1 answer ledger hanswer =>
    have hkept := figures_evidenceModelBudget hanswer
    dsimp only
    split <;> exact hkept
  case h_2 => rfl

@[simp] theorem figures_reserveTokens (maxCallTokens : Nat)
    (attemptId : AttemptId) (borrow : QuestionBorrowDecision)
    (recovers : Bool) (now : Nat) :
    (s.reserveTokens task target maxCallTokens attemptId borrow recovers
      now).ledger.figures = s.ledger.figures := by
  unfold reserveTokens
  split
  case h_1 => rfl
  case h_2 =>
    split
    case h_1 answer ledger hreserve =>
      have hkept : ledger.figures = s.ledger.figures := by
        rcases reserveModelTokens_cases hreserve with rfl | ⟨-, -, -, rfl⟩
        · rfl
        · rfl
      dsimp only
      split
      case isTrue => exact hkept
      case isFalse => simpa using hkept
    case h_2 => rfl

@[simp] theorem figures_extractionFailed (code : String)
    (usage : Option TokenUsage) (usageEstimated recorded : Bool)
    (attemptId : AttemptId) (now : Nat) :
    (s.extractionFailed task target code usage usageEstimated recorded
      attemptId now).ledger.figures = s.ledger.figures := by
  unfold extractionFailed
  split
  case isTrue => rfl
  case isFalse =>
    split
    case isTrue => simp
    case isFalse =>
      dsimp only
      split
      case isTrue => simp
      case isFalse =>
        split
        case isTrue => split <;> simp
        case isFalse => simp

@[simp] theorem figures_pageRecorded (usage : TokenUsage)
    (cacheHit usageEstimated : Bool) (attemptId : AttemptId)
    (candidates accepted now : Nat) :
    (s.pageRecorded target usage cacheHit usageEstimated attemptId candidates
      accepted now).ledger.figures = s.ledger.figures := by
  have hcharged := figures_chargePage usage cacheHit attemptId
    usageEstimated now s.ledger
  unfold pageRecorded
  dsimp only
  split
  case isTrue => exact hcharged
  case isFalse =>
    generalize (if accepted = 0 then s.zeroYieldPages + 1 else 0) = pages
    split
    case isTrue => exact hcharged
    case isFalse => simpa using hcharged

@[simp] theorem figures_searchRecorded (outcome : SearchOutcome)
    (results : List String) :
    (s.searchRecorded target outcome results).ledger.figures
      = s.ledger.figures := by
  have hrecorded : (s.updateUsage
      (recordSearch target.search outcome)).ledger.figures
      = s.ledger.figures := by
    refine figures_updateUsage ?_
    obtain ⟨_, _, _, hwrites⟩ :=
      recordSearch_writes target.search outcome s.usage
    rw [hwrites]
    exact ⟨rfl, rfl⟩
  unfold searchRecorded
  dsimp only
  split
  case h_1 => rfl
  case h_2 =>
    split
    case isTrue => rfl
    case isFalse => exact hrecorded
  case h_3 => split <;> exact hrecorded

@[simp] theorem figures_pageRead (outcome : CallOutcome)
    (latencyMs : Nat) :
    (s.pageRead task target outcome latencyMs).ledger.figures
      = s.ledger.figures := by
  unfold pageRead
  split <;> simp

@[simp] theorem figures_extractionEnded (attemptId : AttemptId)
    (outcome : CallOutcome) (now : Nat) :
    (s.extractionEnded task target attemptId outcome now).ledger.figures
      = s.ledger.figures := by
  unfold extractionEnded
  split <;> simp

theorem figures_called (a : AttemptAction) :
    (s.called task target a).ledger.figures = s.ledger.figures := by
  unfold called
  split
  case h_1 => rfl
  case h_8 => split <;> first | rfl | simp | (split <;> simp)
  case h_9 => split <;> first | rfl | simp | (split <;> simp)
  case h_10 => simp
  case h_12 => split <;> first | rfl | simp | (split <;> simp)
  case h_18 => simp
  all_goals split <;> simp

/-- One call of an attempt. -/
theorem figures_step (a : AttemptAction) :
    (s.step task target a).ledger.figures = s.ledger.figures := by
  unfold step
  split
  case h_1 => rfl
  case h_2 => rfl
  case h_3 => exact figures_called a

/-- An attempt leaves the scheduler's counters alone. -/
theorem figures_exec (as : List AttemptAction) :
    ((attemptSystem task target).exec s as).ledger.figures
      = s.ledger.figures := by
  induction as generalizing s with
  | nil => rfl
  | cons a as ih => exact ih.trans (figures_step a)

end AttemptState

end DeepResearch.Run
