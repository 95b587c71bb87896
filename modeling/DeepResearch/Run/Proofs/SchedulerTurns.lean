/-
What one call of the research loop uses up.

# The measure

`turnsLeft` adds up what bounds the turns: scheduler actions, feedback
requests, replans. A call that costs none of them gives a question up
(`openQuestions`), and only a replan takes that back; one that was asked
for and not made is `replanOwed`. So the pair `left` goes down, the turns
first.

# The scheduler and its gate

`prepareTarget_row` is the link to the gate on the run's row: the scheduler
leaves of the row what the gate leaves, for the view that the scheduler's
own state amounts to.
-/
import Mathlib.Data.Prod.Lex
import DeepResearch.Lib.Descent
import DeepResearch.Run.Proofs.AttemptFigures
import DeepResearch.Run.Scheduling

namespace DeepResearch.Run

-- ============================================================== the measure

/-- The limit of scheduler actions is not reached. -/
def ResearchRunRow.HasActionLeft (run : ResearchRunRow) : Prop :=
  run.usageSnapshot.schedulerActions
    < run.budgetSnapshot.maxSchedulerActions.getD 0

/-- Without a hard reason the limit of scheduler actions is not reached,
unless a search acquisition limit hides it. -/
theorem ResearchRunRow.NoHardReason.hasActionLeft {now : ℕ}
    {run : ResearchRunRow} (hreason : run.NoHardReason now)
    (hpositive : 0 < run.budgetSnapshot.maxSchedulerActions.getD 0)
    (hwithin : searchAcquisitionBudgetExhausted
        (budgetExhaustionReason now run) = true → run.HasActionLeft) :
    run.HasActionLeft := by
  cases hbudget : budgetExhaustionReason now run with
  | some reason =>
      apply hwithin
      rw [hbudget]
      exact hreason reason hbudget
  | none =>
      unfold budgetExhaustionReason at hbudget
      split at hbudget
      case isTrue => cases hbudget
      case isFalse =>
        split at hbudget
        case h_1 => cases hbudget
        case h_2 hfind =>
          have haction := List.find?_eq_none.mp hfind
            { reason := .action
              used := run.usageSnapshot.schedulerActions
              maximum := run.budgetSnapshot.maxSchedulerActions.getD 0 }
            (by simp [budgetChecks])
          unfold BudgetCheck.isExhausted at haction
          simp only [Bool.and_eq_true, decide_eq_true_eq, not_and,
            not_le] at haction
          exact haction hpositive

namespace SchedulingState

/-- The turns the limits leave: scheduler actions, feedback requests and
replans. -/
def turnsLeft (s : SchedulingState) : ℕ :=
  (s.ledger.figures.budget.maxSchedulerActions.getD 0
      - s.ledger.figures.schedulerActions)
    + (s.feedback.length + (2 - s.feedbackExecutionCount))
    + (maxReplans - s.ledger.figures.replans)

/-- A replan is asked for and not made. -/
def replanOwed (s : SchedulingState) : ℕ := if s.replanRequested then 1 else 0

/-- The items of the plan whose question is not given up. -/
def openQuestions (s : SchedulingState) : ℕ :=
  s.items.countP (·.questionId ∉ s.queryStrategyExhausted)

/-- What the loop uses up. -/
def left (s : SchedulingState) : ℕ ×ₗ ℕ :=
  toLex (s.turnsLeft + s.replanOwed, s.openQuestions)

/-- Nothing that bounds the turns is changed. -/
structure SameTurns (s s' : SchedulingState) : Prop where
  figures : s'.ledger.figures = s.ledger.figures
  feedback : s'.feedback = s.feedback
  executions : s'.feedbackExecutionCount = s.feedbackExecutionCount
  requested : s'.replanRequested = s.replanRequested

variable {task : TaskId} {view : SchedulingView} {s s' : SchedulingState}

theorem SameTurns.trans {s'' : SchedulingState} (h : SameTurns s s')
    (h' : SameTurns s' s'') : SameTurns s s'' :=
  ⟨h'.figures.trans h.figures, h'.feedback.trans h.feedback,
    h'.executions.trans h.executions, h'.requested.trans h.requested⟩

/-- The turns left are those of the counters and the budget. -/
theorem SameTurns.turnsLeft (h : SameTurns s s') :
    s'.turnsLeft = s.turnsLeft := by
  unfold SchedulingState.turnsLeft
  rw [h.figures, h.feedback, h.executions]

theorem SameTurns.budget (h : SameTurns s s') :
    s'.run.budgetSnapshot = s.run.budgetSnapshot :=
  congrArg SchedulerFigures.budget h.figures

theorem SameTurns.replanOwed (h : SameTurns s s') :
    s'.replanOwed = s.replanOwed := by
  unfold SchedulingState.replanOwed
  rw [h.requested]

/-- Items that change keep their question. -/
theorem openQuestions_mapItems {update : ScheduledItem → ScheduledItem}
    (hid : ∀ item, (update item).questionId = item.questionId) :
    ({ s with items := s.items.map update } : SchedulingState).openQuestions
      = s.openQuestions := by
  show (s.items.map update).countP _ = _
  rw [List.countP_map]
  unfold openQuestions
  congr 1
  funext item
  show decide ((update item).questionId ∉ s.queryStrategyExhausted) = _
  rw [hid item]

/-- An update of an item that keeps its id opens and closes no question. -/
theorem openQuestions_updateItem {questionId : String}
    {update : ScheduledItem → ScheduledItem}
    (hid : ∀ item, (update item).questionId = item.questionId) :
    (s.updateItem questionId update).openQuestions = s.openQuestions := by
  refine openQuestions_mapItems fun item => ?_
  split
  case isTrue => exact hid item
  case isFalse => rfl

/-- Activation is no change of the open questions. -/
theorem openQuestions_activate (questionId : String) :
    (s.activate questionId).openQuestions = s.openQuestions := by
  unfold activate
  exact openQuestions_updateItem fun _ => rfl

-- ============================================================ the scheduler

/-- The repair changes statuses, not turns. -/
theorem repairStale_same : SameTurns s (s.repairStale view) :=
  ⟨rfl, rfl, rfl, rfl⟩

/-- Nor does the repair open a question. -/
theorem openQuestions_repairStale :
    (s.repairStale view).openQuestions = s.openQuestions := by
  refine openQuestions_mapItems fun item => ?_
  split <;> rfl

/-- A question that is given up was open. -/
theorem openQuestions_giveUp {item : ScheduledItem} (hitem : item ∈ s.items)
    (hopen : item.questionId ∉ s.queryStrategyExhausted) :
    (s.giveUp item.questionId).openQuestions < s.openQuestions := by
  unfold openQuestions giveUp addQuestion
  rw [if_neg hopen]
  refine Transition.countP_lt_of_mem (fun other _ hother => ?_) hitem
    (by simpa using hopen) (by simp)
  simp only [List.mem_cons, not_or, decide_eq_true_eq] at hother ⊢
  exact hother.2

/-- A question whose strategy is exhausted is open no more. -/
theorem openQuestions_exhaustStrategy {item : ScheduledItem}
    (hitem : item ∈ s.items)
    (hopen : item.questionId ∉ s.queryStrategyExhausted) :
    ((s.activate item.questionId).exhaustStrategy view
      item.questionId).openQuestions < s.openQuestions := by
  have hexhaust : ((s.activate item.questionId).exhaustStrategy view
      item.questionId).openQuestions
      = ((s.activate item.questionId).giveUp item.questionId).openQuestions :=
    openQuestions_updateItem fun _ => rfl
  have hcommute : (s.activate item.questionId).giveUp item.questionId
      = (s.giveUp item.questionId).activate item.questionId := rfl
  rw [hexhaust, hcommute, openQuestions_activate]
  exact openQuestions_giveUp hitem hopen

/-- The selected question is in the plan and not given up. -/
theorem selectedEntry_inv {searchBudgetExhausted : Bool}
    {item : ScheduledItem}
    (h : s.selectedEntry view searchBudgetExhausted = some item) :
    item ∈ s.items ∧ item.questionId ∉ s.queryStrategyExhausted := by
  have hmem : item ∈ s.items.filter (s.isEligible view searchBudgetExhausted) :=
    List.argmin_mem h
  obtain ⟨hitem, heligible⟩ := List.mem_filter.mp hmem
  refine ⟨hitem, ?_⟩
  unfold isEligible at heligible
  simp only [Bool.and_eq_true, decide_eq_true_eq] at heligible
  exact heligible.1.1.1.2

/-- A request that is handed out waits no longer. -/
theorem pendingFeedback_length {target : ScheduledTarget}
    {feedback : List FeedbackRequest}
    (h : s.pendingFeedback = some (target, feedback)) :
    s.feedback.length = feedback.length + 1 := by
  unfold pendingFeedback at h
  split at h
  case h_1 => cases h
  case h_2 request rest hfeedback =>
    split at h
    case h_1 => cases h
    case h_2 =>
      split at h
      case isTrue => cases h
      case isFalse =>
        injection h with h
        injection h with _ hrest
        rw [hfeedback, ← hrest]
        rfl

/-- What `prepare_target` uses up: it turned to writing, it asked for a
replan while one was left, it gave a question up, or it handed a target
out; that costs a turn while an action is left. -/
inductive PreparedTurn (now : ℕ) (s s' : SchedulingState) :
    Option ScheduledTarget → Prop
  | writing (hphase : s'.run.phase = .writing) : PreparedTurn now s s' none
  | replanning (hrequested : s'.replanRequested = true)
      (hleft : s'.ledger.figures.replans < maxReplans)
      (hbudget : s'.run.budgetSnapshot = s.run.budgetSnapshot)
      (hturns : s'.turnsLeft = s.turnsLeft) : PreparedTurn now s s' none
  | gaveUp (hsame : SameTurns s s')
      (hopen : s'.openQuestions < s.openQuestions) : PreparedTurn now s s' none
  | handedOut (target : ScheduledTarget) (hreason : s.run.NoHardReason now)
      (hrequested : s'.replanRequested = s.replanRequested)
      (hbudget : s'.run.budgetSnapshot = s.run.budgetSnapshot)
      (hturns : s.run.HasActionLeft → s'.turnsLeft < s.turnsLeft) :
      PreparedTurn now s s' (some target)

variable {now : ℕ}

/-- What came before the selection took no turn. -/
theorem PreparedTurn.of_same {s₀ : SchedulingState}
    {target : Option ScheduledTarget} (h : PreparedTurn now s s' target)
    (hrun : s.run = s₀.run) (hsame : SameTurns s₀ s)
    (hopen : s.openQuestions = s₀.openQuestions) :
    PreparedTurn now s₀ s' target := by
  cases h with
  | writing hphase => exact .writing hphase
  | replanning hrequested hleft hbudget hturns =>
      exact .replanning hrequested hleft (hbudget.trans hsame.budget)
        (hturns.trans hsame.turnsLeft)
  | gaveUp h hless =>
      refine .gaveUp (hsame.trans h) ?_
      rw [← hopen]
      exact hless
  | handedOut target hreason hrequested hbudget hturns =>
      rw [hrun] at hreason hturns
      refine .handedOut target hreason (hrequested.trans hsame.requested)
        (hbudget.trans hsame.budget) fun hleft => ?_
      rw [← hsame.turnsLeft]
      exact hturns hleft

/-- A call that turns to writing hands nothing out. -/
theorem enterWriting_turn {reason : String}
    {target : Option ScheduledTarget}
    (h : s.enterWriting task reason now = .ok (s', target)) :
    PreparedTurn now s s' target := by
  obtain ⟨w, hw, hpair⟩ := ok_of_map h
  injection hpair with hs' htarget
  rw [← htarget]
  refine .writing ?_
  rw [← hs']
  unfold Run.enterWriting at hw
  split at hw
  case isTrue =>
    injection hw with hw
    rw [← hw]
    rfl
  case isFalse => cases hw

/-- An action that is left can be counted. -/
theorem handOut_turnsLeft {w : RunWrite}
    (hw : WorkerOp.handOutTarget.write now task s.run = .ok w) :
    w.run.budgetSnapshot = s.run.budgetSnapshot
      ∧ (s.run.HasActionLeft → (s.withRun w.run).turnsLeft < s.turnsLeft) := by
  simp only [WorkerOp.write] at hw
  unfold writeUsage at hw
  split at hw
  case isTrue =>
    injection hw with hw
    rw [← hw]
    refine ⟨rfl, fun hleft => ?_⟩
    have hleft : s.ledger.figures.schedulerActions
      < s.ledger.figures.budget.maxSchedulerActions.getD 0 := hleft
    unfold turnsLeft
    show s.ledger.figures.budget.maxSchedulerActions.getD 0
          - (s.ledger.figures.schedulerActions + 1)
        + (s.feedback.length + (2 - s.feedbackExecutionCount))
        + (maxReplans - s.ledger.figures.replans) < _
    omega
  case isFalse => cases hw

/-- What it uses up to prepare the selected question. -/
theorem prepareQuestion_turn {searchBudgetExhausted : Bool}
    {searchStopReason : String} {item : ScheduledItem}
    {target : Option ScheduledTarget}
    (hselected : s.selectedEntry view searchBudgetExhausted = some item)
    (hreason : s.run.NoHardReason view.now)
    (h : s.prepareQuestion task view searchBudgetExhausted searchStopReason
      item = .ok (s', target)) : PreparedTurn view.now s s' target := by
  obtain ⟨hitem, hopen⟩ := selectedEntry_inv hselected
  unfold prepareQuestion at h
  dsimp only at h
  split at h
  case h_1 =>
    injection h with h
    injection h with hs' htarget
    rw [← hs', ← htarget]
    exact .gaveUp ⟨rfl, rfl, rfl, rfl⟩
      (openQuestions_exhaustStrategy hitem hopen)
  case h_2 query _ =>
    split at h
    case isTrue =>
      exact (enterWriting_turn h).of_same rfl ⟨rfl, rfl, rfl, rfl⟩
        (openQuestions_activate (s := s) item.questionId)
    case isFalse =>
      obtain ⟨w, hw, hpair⟩ := ok_of_map h
      injection hpair with hs' htarget
      rw [← hs', ← htarget]
      obtain ⟨hbudget, hturns⟩ := handOut_turnsLeft hw
      exact .handedOut _ hreason rfl hbudget hturns

/-- Asking for a replan uses nothing up by itself. -/
theorem requestReplan_turn {target : Option ScheduledTarget}
    (hleft : s.run.usageSnapshot.replans < maxReplans)
    (h : (fun w : RunWrite =>
        (({ s.withRun w.run with replanRequested := true } :
          SchedulingState), (none : Option ScheduledTarget)))
      <$> requestReplan task s.run = .ok (s', target)) :
    PreparedTurn now s s' target := by
  obtain ⟨w, hw, hpair⟩ := ok_of_map h
  injection hpair with hs' htarget
  rw [← hs', ← htarget]
  unfold requestReplan at hw
  split at hw
  case isTrue =>
    injection hw with hw
    rw [← hw]
    exact .replanning rfl hleft rfl rfl
  case isFalse => cases hw

/-- What a call of `prepare_target` uses up. -/
theorem prepareTarget_turn {target : Option ScheduledTarget}
    (h : s.prepareTarget task view = .ok (s', target)) :
    PreparedTurn view.now s s' target := by
  unfold prepareTarget at h
  dsimp only at h
  split at h
  case isFalse => cases h
  case isTrue =>
    split at h
    case h_1 => exact enterWriting_turn h
    case h_2 hnothard =>
      have hreason : s.run.NoHardReason view.now := by
        intro reason heq
        by_contra hsearch
        have hsearch := Bool.eq_false_iff.mpr hsearch
        exact hnothard reason heq (by rw [heq]; exact hsearch)
      split at h
      case h_1 target feedback hfeedback =>
        injection h with h
        injection h with hs' htarget
        rw [← hs', ← htarget]
        have hlength := pendingFeedback_length hfeedback
        refine .handedOut target hreason rfl rfl fun _ => ?_
        unfold turnsLeft
        dsimp only
        omega
      case h_2 =>
        have hsame : SameTurns s (s.repairStale view) := repairStale_same
        have hopen : (s.repairStale view).openQuestions = s.openQuestions :=
          openQuestions_repairStale
        split at h
        case h_1 =>
          split at h
          case isTrue hgaps =>
            simp only [Bool.and_eq_true, decide_eq_true_eq] at hgaps
            exact (requestReplan_turn hgaps.2 h).of_same rfl hsame hopen
          case isFalse => exact (enterWriting_turn h).of_same rfl hsame hopen
        case h_2 item hselected =>
          exact (prepareQuestion_turn hselected hreason h).of_same rfl hsame
            hopen

-- =================================================================== a turn

/-- A feedback request is paid for when it is started. -/
theorem startFeedback_turnsLeft (requests : List FeedbackRequest) :
    (s.startFeedback requests).turnsLeft = s.turnsLeft := by
  have hallowed := List.length_take_le (2 - s.feedbackExecutionCount) requests
  unfold turnsLeft startFeedback
  dsimp only
  rw [List.length_append]
  omega

/-- A write that is made or not. -/
theorem SameTurns.ite {c : Prop} [Decidable c]
    {write : SchedulingState → SchedulingState}
    (hwrite : ∀ t, SameTurns t (write t)) (h : SameTurns s s') :
    SameTurns s (if c then write s' else s') := by
  split
  case isTrue => exact h.trans (hwrite s')
  case isFalse => exact h

theorem recordSearchRows_same (target : ScheduledTarget)
    (found : List String) (s : SchedulingState) :
    SameTurns s (s.recordSearchRows target found) := ⟨rfl, rfl, rfl, rfl⟩

theorem freeze_same (questionId : String) (s : SchedulingState) :
    SameTurns s (s.freeze questionId) := ⟨rfl, rfl, rfl, rfl⟩

theorem giveUp_same (questionId : String) (s : SchedulingState) :
    SameTurns s (s.giveUp questionId) := ⟨rfl, rfl, rfl, rfl⟩

theorem countFailure_same (questionId : String) (s : SchedulingState) :
    SameTurns s (s.countFailure questionId) := ⟨rfl, rfl, rfl, rfl⟩

/-- What an attempt leaves, before its feedback is started. -/
theorem attempted_same {attempt : AttemptState}
    (hfigures : attempt.ledger.figures = s.ledger.figures)
    (target : ScheduledTarget) (env : IterationEnv) :
    ∃ t, SameTurns s t ∧ s.attempted target attempt env
      = { t.startFeedback env.feedback with
          closedUrls := env.closedUrls ++ t.closedUrls } := by
  have hledger : SameTurns s { s with ledger := attempt.ledger } :=
    ⟨hfigures, rfl, rfl, rfl⟩
  have hsearched := hledger.ite (c := attempt.searched = true)
    (recordSearchRows_same target env.found)
  have hfrozen := hsearched.ite (c := env.freezesQuestion = true)
    (freeze_same target.questionId)
  exact ⟨_, hfrozen, rfl⟩

/-- An attempt uses no turn up. -/
theorem attempted_turns {attempt : AttemptState}
    (hfigures : attempt.ledger.figures = s.ledger.figures)
    (target : ScheduledTarget) (env : IterationEnv) :
    (s.attempted target attempt env).turnsLeft = s.turnsLeft
      ∧ (s.attempted target attempt env).replanRequested
        = s.replanRequested
      ∧ (s.attempted target attempt env).run.budgetSnapshot
        = s.run.budgetSnapshot := by
  obtain ⟨t, hsame, hattempted⟩ := attempted_same hfigures target env
  rw [hattempted]
  exact ⟨(startFeedback_turnsLeft _).trans hsame.turnsLeft,
    hsame.requested, hsame.budget⟩

/-- Settling a question takes no turn. -/
theorem settleQuestion_same (target : ScheduledTarget)
    (outcome : AttemptOutcome) (facts : IterationFacts) :
    SameTurns s (s.settleQuestion target outcome facts) := by
  have hstart : SameTurns s s := ⟨rfl, rfl, rfl, rfl⟩
  have hcounted := hstart.ite (c := outcome = .providerError)
    (countFailure_same target.questionId)
  have hgivenUp := hcounted.ite
    (c := strategyExhaustedNow outcome facts = true)
    (giveUp_same target.questionId)
  have hfrozen := hgivenUp.ite (c := isFrozen target facts = true)
    (freeze_same target.questionId)
  exact hfrozen.trans ⟨rfl, rfl, rfl, rfl⟩

/-- An evaluation leaves the scheduler's counters alone. -/
theorem evaluateIteration_keeps {outcome : AttemptOutcome}
    {evaluationView : EvaluationView} {evaluation : IterationEvaluation}
    {now : ℕ} {run : ResearchRunRow}
    (h : evaluateIteration task outcome evaluationView now s.run
      = .ok (run, evaluation)) : SameTurns s (s.withRun run) := by
  unfold evaluateIteration at h
  dsimp only at h
  obtain ⟨w, hw, hpair⟩ := ok_of_map h
  injection hpair with hrun _
  subst hrun
  unfold Run.finishIteration at hw
  split at hw
  case isFalse => cases hw
  case isTrue =>
    split at hw
    case isTrue =>
      injection hw with hw
      subst hw
      exact ⟨rfl, rfl, rfl, rfl⟩
    case isFalse =>
      injection hw with hw
      subst hw
      exact ⟨rfl, rfl, rfl, rfl⟩

/-- The end of an iteration takes no turn of the scheduler. -/
theorem finishIteration_same {target : ScheduledTarget}
    {outcome : AttemptOutcome} {facts : IterationFacts}
    {evaluationView : EvaluationView} {now : ℕ}
    {evaluation : IterationEvaluation}
    (h : s.finishIteration task target outcome facts evaluationView now
      = .ok (s', evaluation)) : SameTurns s s' := by
  unfold finishIteration at h
  dsimp only at h
  obtain ⟨⟨run, evaluation'⟩, hevaluated, hpair⟩ := ok_of_map h
  injection hpair with hs' _
  rw [← hs']
  refine SameTurns.trans ?_ (evaluateIteration_keeps hevaluated)
  split
  case h_1 => exact ⟨rfl, rfl, rfl, rfl⟩
  case h_2 => exact ⟨rfl, rfl, rfl, rfl⟩
  case h_3 => exact settleQuestion_same target outcome facts

/-- What a replan uses up. -/
theorem saveGapResolutionPlan_turn {gaps : List String} {now : ℕ}
    (h : s.saveGapResolutionPlan task gaps now = some s') :
    s'.replanRequested = false
      ∧ s'.run.budgetSnapshot = s.run.budgetSnapshot
      ∧ s'.turnsLeft ≤ s.turnsLeft
      ∧ (s.ledger.figures.replans < maxReplans →
        s'.turnsLeft < s.turnsLeft) := by
  unfold saveGapResolutionPlan at h
  dsimp only at h
  split at h
  case isFalse => cases h
  case isTrue =>
    split at h
    case h_1 => cases h
    case h_2 w hw =>
      injection h with h
      unfold Run.saveGapResolutionPlan at hw
      split at hw
      case isFalse => cases hw
      case isTrue =>
        injection hw with hw
        have hturns : s'.turnsLeft
            = s.ledger.figures.budget.maxSchedulerActions.getD 0
                - s.ledger.figures.schedulerActions
              + (s.feedback.length + (2 - s.feedbackExecutionCount))
              + (maxReplans - (s.ledger.figures.replans + 1)) := by
          rw [← h, ← hw]
          rfl
        refine ⟨by rw [← h], by rw [← h, ← hw]; rfl, ?_, fun hleft => ?_⟩
        · rw [hturns]
          unfold turnsLeft
          omega
        · rw [hturns]
          unfold turnsLeft
          omega

/-- What a call of `run_one_iteration` uses up when research goes on. -/
inductive IterationTurn (now : ℕ) (s s' : SchedulingState)
    (result : ResearchIterationResult) : Prop
  | replanning (hdecision : result.decision.text = "replan")
      (hleft : s'.ledger.figures.replans < maxReplans)
      (hbudget : s'.run.budgetSnapshot = s.run.budgetSnapshot)
      (hturns : s'.turnsLeft = s.turnsLeft)
  | gaveUp (hsame : SameTurns s s')
      (hopen : s'.openQuestions < s.openQuestions)
      (hdecision : result.decision.text = "replan" →
        s.replanRequested = true)
  | attempted (hreason : s.run.NoHardReason now)
      (hrequested : s'.replanRequested = s.replanRequested)
      (hbudget : s'.run.budgetSnapshot = s.run.budgetSnapshot)
      (hturns : s.run.HasActionLeft → s'.turnsLeft < s.turnsLeft)

/-- What an iteration uses up after which research goes on. -/
theorem runOneIteration_turn {env : IterationEnv}
    {result : ResearchIterationResult}
    (h : s.runOneIteration task env = some (s', result))
    (hcontinues : result.continueResearch = true) :
    IterationTurn env.scheduling.now s s' result := by
  unfold runOneIteration at h
  split at h
  case h_1 => cases h
  case h_2 prepared hprepare =>
    injection h with h
    injection h with hs' hresult
    subst hs'
    rw [← hresult] at hcontinues
    cases prepareTarget_turn hprepare with
    | writing hphase =>
        dsimp only at hcontinues
        rw [hphase] at hcontinues
        cases hcontinues
    | replanning hrequested hleft hbudget hturns =>
        refine .replanning ?_ hleft hbudget hturns
        rw [← hresult]
        dsimp only
        rw [if_pos hrequested]
        rfl
    | gaveUp hsame hopen =>
        refine .gaveUp hsame hopen fun hdecision => ?_
        rw [← hsame.requested]
        by_contra hrequested
        rw [← hresult] at hdecision
        dsimp only at hdecision hcontinues
        rw [if_neg hrequested, if_pos hcontinues] at hdecision
        exact absurd hdecision (by decide)
  case h_3 prepared target hprepare =>
    dsimp only at h
    split at h
    case h_2 => cases h
    case h_1 outcome _ =>
      split at h
      case h_1 => cases h
      case h_2 evaluation hfinish =>
        injection h with h
        injection h with hs' _
        subst hs'
        -- The attempt in between takes no turn.
        have hfigures := @AttemptState.figures_exec task
          (ScheduledTarget.attemptTarget
            { target with query := env.enrich target.query } env)
          { ledger := prepared.ledger } env.actions
        obtain ⟨hturns', hrequested', hbudget'⟩ := attempted_turns
          (s := prepared) hfigures
          { target with query := env.enrich target.query } env
        have hfinished := finishIteration_same hfinish
        cases prepareTarget_turn hprepare with
        | handedOut _ hreason hrequested hbudget hturns =>
            refine .attempted hreason ?_ ?_ fun hleft => ?_
            · rw [hfinished.requested, hrequested', hrequested]
            · rw [hfinished.budget, hbudget', hbudget]
            · rw [hfinished.turnsLeft, hturns']
              exact hturns hleft

-- ================================================================= the gate

/-- What `Run.prepareTarget` reads of a selected question. -/
def selectionOf (view : SchedulingView) (searchBudgetExhausted : Bool)
    (item : ScheduledItem) (s : SchedulingState) :
    Selection ScheduledTarget :=
  let query := s.nextQuery view item.questionId
  let target :=
    s.scheduledTarget view searchBudgetExhausted item (query.getD "")
  { target
    strategyExhausted := query.isNone
    hasReusable := target.search.cachedCandidates }

/-- What the gates of the run's row read of the scheduler. -/
def schedulerView (view : SchedulingView) (s : SchedulingState) :
    SchedulerView ScheduledTarget where
  feedbackTarget := s.pendingFeedback.map (·.1)
  selected :=
    let searchBudgetExhausted := searchAcquisitionBudgetExhausted
      (budgetExhaustionReason view.now s.run)
    let s := s.repairStale view
    (s.selectedEntry view searchBudgetExhausted).map
      (s.selectionOf view searchBudgetExhausted ·)
  qualityMet := view.qualityMet
  unresolvedGapCount := view.unresolvedGapCount

/-- What a call leaves of the run's row. -/
def rowOf (result : SchedulingState × Option ScheduledTarget) :
    ResearchRunRow × Option ScheduledTarget := (result.1.run, result.2)

theorem enterWriting_row (reason : String) (now : ℕ) :
    rowOf <$> s.enterWriting task reason now
      = withoutTarget (Run.enterWriting task reason now s.run) := by
  unfold enterWriting withoutTarget
  cases Run.enterWriting task reason now s.run <;> rfl


theorem requestReplan_row :
    rowOf <$> (fun w : RunWrite =>
        (({ s.withRun w.run with replanRequested := true } :
          SchedulingState), (none : Option ScheduledTarget)))
      <$> requestReplan task s.run
      = withoutTarget (requestReplan task s.run) := by
  unfold withoutTarget
  cases requestReplan task s.run <;> rfl

theorem prepareQuestion_row (searchBudgetExhausted : Bool)
    (searchStopReason : String) (item : ScheduledItem)
    {selected : Selection ScheduledTarget}
    (hselected : selected = s.selectionOf view searchBudgetExhausted item) :
    rowOf <$> s.prepareQuestion task view searchBudgetExhausted
        searchStopReason item
      = if selected.strategyExhausted then .ok (s.run, none)
        else if searchBudgetExhausted && !selected.hasReusable then
          withoutTarget
            (Run.enterWriting task searchStopReason view.now s.run)
        else
          (fun w => (w.run, some selected.target)) <$>
            WorkerOp.handOutTarget.write view.now task s.run := by
  rw [hselected]
  unfold prepareQuestion selectionOf
  dsimp only
  cases s.nextQuery view item.questionId with
  | none => rfl
  | some query =>
      dsimp only [Option.getD_some, Option.isNone_some]
      rw [if_neg Bool.false_ne_true]
      split
      case isTrue => exact enterWriting_row searchStopReason view.now
      case isFalse =>
        cases WorkerOp.handOutTarget.write view.now task s.run <;> rfl

/-- The scheduler is the gate of the run's row. -/
theorem prepareTarget_row :
    rowOf <$> s.prepareTarget task view
      = Run.prepareTarget task (s.schedulerView view) view.now s.run := by
  unfold prepareTarget Run.prepareTarget schedulerView
  dsimp only
  by_cases hown : s.run.OwnedBy task
  · rw [if_pos hown, if_pos hown]
    generalize budgetExhaustionReason view.now s.run = reason
    generalize searchAcquisitionBudgetExhausted reason = searchExhausted
    cases reason <;> cases searchExhausted
    case some.false reason => exact enterWriting_row reason.text view.now
    -- Whatever the reason, searches are all it may stop.
    all_goals
      cases s.pendingFeedback with
      | some pending => rfl
      | none =>
          dsimp only [Option.map_none]
          cases (s.repairStale view).selectedEntry view _ with
          | none =>
              have hrun : (s.repairStale view).run = s.run := rfl
              dsimp only [Option.map_none]
              rw [hrun]
              split
              case isTrue =>
                exact requestReplan_row (s := s.repairStale view)
              case isFalse =>
                exact enterWriting_row (s := s.repairStale view) _ view.now
          | some item => exact prepareQuestion_row _ _ item rfl
  · rw [if_neg hown, if_neg hown]
    rfl

end SchedulingState

end DeepResearch.Run
