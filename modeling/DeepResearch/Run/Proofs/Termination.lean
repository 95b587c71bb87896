/-
The end of the research loop.

Every turn of the loop uses something up, and nothing gives it back
(`Continued.descends`), as long as the scheduler keeps within its own
limit. It does not look at it when a search acquisition limit is the first
one exhausted: the later checks are not reached. `ActsWithinLimit` is the
condition on a call that an action is left there, and the loop ends exactly
when its calls meet it from some call on. An attempt that neither counts an
iteration nor uses its cached work up otherwise repeats for ever.
-/
import DeepResearch.Run.Proofs.SchedulerTurns

namespace DeepResearch.Run

-- ================================================================ the loop

namespace ResearchLoop

variable {task : TaskId} {l : ResearchLoop} {env : IterationEnv}

/-- A call that finds a search acquisition limit exhausted still has a
scheduler action left. -/
def ActsWithinLimit (l : ResearchLoop) (env : IterationEnv) : Prop :=
  l.ended = none →
    searchAcquisitionBudgetExhausted
        (budgetExhaustionReason env.scheduling.now l.state.run) = true →
      l.state.run.HasActionLeft

/-- A turn that research goes on after: an iteration that continues, and
the replan where it asks for one. -/
inductive Continued (task : TaskId) (env : IterationEnv)
    (s : SchedulingState) : SchedulingState → Prop
  | iterated {s' : SchedulingState} {result : ResearchIterationResult}
      (hturn : s.runOneIteration task env = some (s', result))
      (hcontinues : result.continueResearch = true)
      (hdecision : result.decision.text ≠ "replan") :
      Continued task env s s'
  | replanned {s' s'' : SchedulingState}
      {result : ResearchIterationResult}
      (hturn : s.runOneIteration task env = some (s', result))
      (hcontinues : result.continueResearch = true)
      (hdecision : result.decision.text = "replan")
      (hreplan : s'.saveGapResolutionPlan task env.gaps env.replannedAt
        = some s'') :
      Continued task env s s''

theorem step_continued (hended : (l.step task env).ended = none) :
    l.ended = none ∧ Continued task env l.state (l.step task env).state := by
  unfold step at hended ⊢
  split at hended
  case h_1 hsome => rw [hsome] at hended; cases hended
  case h_2 hnone =>
    refine ⟨hnone, ?_⟩
    split at hended
    case h_1 => cases hended
    case h_2 s result hturn =>
      split at hended
      case isTrue => cases hended
      case isFalse hraises =>
        split at hended
        case isTrue => cases hended
        case isFalse hcontinues =>
          have hcontinues := (Bool.not_eq_false _).mp hcontinues
          split at hended
          case isTrue hdecision =>
            unfold replan at hended
            split at hended
            case h_1 => cases hended
            case h_2 s' hreplan =>
              simp only [hraises, hcontinues, hdecision]
              unfold replan
              rw [hreplan]
              exact .replanned hturn hcontinues hdecision hreplan
          case isFalse hdecision =>
            simp only [hraises, hcontinues, hdecision]
            exact .iterated hturn hcontinues hdecision

/-- A call that goes on keeps the budget. -/
theorem Continued.budget {s s' : SchedulingState}
    (h : Continued task env s s') :
    s'.run.budgetSnapshot = s.run.budgetSnapshot := by
  have hiterated : ∀ {t : SchedulingState}
      {result : ResearchIterationResult},
      s.runOneIteration task env = some (t, result) →
      result.continueResearch = true →
      t.run.budgetSnapshot = s.run.budgetSnapshot := by
    intro t result hturn hcontinues
    cases SchedulingState.runOneIteration_turn hturn hcontinues with
    | replanning _ _ hbudget _ => exact hbudget
    | gaveUp hsame _ _ => exact hsame.budget
    | attempted _ _ hbudget _ => exact hbudget
  cases h with
  | iterated hturn hcontinues _ => exact hiterated hturn hcontinues
  | replanned hturn hcontinues _ hreplan =>
      obtain ⟨-, hbudget, -⟩ :=
        SchedulingState.saveGapResolutionPlan_turn hreplan
      exact hbudget.trans (hiterated hturn hcontinues)

/-- Every turn uses something up, while an action is left. -/
theorem Continued.descends {s s' : SchedulingState}
    (h : Continued task env s s')
    (hleft : s.run.NoHardReason env.scheduling.now → s.run.HasActionLeft) :
    s'.left < s.left := by
  cases h with
  | iterated hturn hcontinues hdecision =>
      cases SchedulingState.runOneIteration_turn hturn hcontinues with
      | replanning htext => exact absurd htext hdecision
      | gaveUp hsame hopen =>
          refine Prod.Lex.toLex_lt_toLex.mpr (Or.inr ⟨?_, hopen⟩)
          show s'.turnsLeft + s'.replanOwed = s.turnsLeft + s.replanOwed
          rw [hsame.turnsLeft, hsame.replanOwed]
      | attempted hreason hrequested _ hturns =>
          have hless := hturns (hleft hreason)
          refine Prod.Lex.toLex_lt_toLex.mpr (Or.inl ?_)
          show s'.turnsLeft + s'.replanOwed < s.turnsLeft + s.replanOwed
          unfold SchedulingState.replanOwed
          rw [hrequested]
          omega
  | replanned hturn hcontinues hdecision hreplan =>
      obtain ⟨hmade, -, hle, hless⟩ :=
        SchedulingState.saveGapResolutionPlan_turn hreplan
      have howed : s'.replanOwed = 0 := by
        unfold SchedulingState.replanOwed
        rw [hmade]
        rfl
      suffices hsum : s'.turnsLeft < s.turnsLeft + s.replanOwed by
        refine Prod.Lex.toLex_lt_toLex.mpr (Or.inl ?_)
        show s'.turnsLeft + s'.replanOwed < _
        rw [howed]
        exact hsum
      cases SchedulingState.runOneIteration_turn hturn hcontinues with
      | replanning _ hreplans _ hturns =>
          have hreplanned := hless hreplans
          omega
      | gaveUp hsame _ hasked =>
          -- A replan that nobody asked for now was owed before.
          have howes : s.replanOwed = 1 := by
            unfold SchedulingState.replanOwed
            rw [hasked hdecision]
            rfl
          have hturns := hsame.turnsLeft
          omega
      | attempted hreason _ _ hturns =>
          have hless := hturns (hleft hreason)
          omega

/-- A loop that has ended takes no step. -/
theorem step_of_ended {e : LoopEnd} (h : l.ended = some e) :
    l.step task env = l := by
  unfold step
  rw [h]

/-- While the loop runs, the limit of scheduler actions is set. -/
def Limited (l : ResearchLoop) : Prop :=
  l.ended = none →
    0 < l.state.run.budgetSnapshot.maxSchedulerActions.getD 0

/-- No step takes the limit away. -/
theorem Limited.step (h : l.Limited) : (l.step task env).Limited := by
  intro hended
  obtain ⟨hnone, hcontinued⟩ := step_continued hended
  rw [hcontinued.budget]
  exact h hnone

/-- What the loop has left to use up. -/
def left (l : ResearchLoop) : ℕ ×ₗ ℕ := l.state.left

/-- A turn within the limit that does not end the loop. -/
theorem step_descends (h : l.Limited) (hwithin : l.ActsWithinLimit env)
    (hended : ¬ (l.step task env).ended ≠ none) :
    (l.step task env).left < l.left := by
  obtain ⟨hnone, hcontinued⟩ := step_continued (not_not.mp hended)
  exact hcontinued.descends fun hreason =>
    hreason.hasActionLeft (h hnone) (hwithin hnone)

end ResearchLoop

-- ===================================================== the end of the loop

/-- A run of the loop. -/
abbrev researchLoopAfter (task : TaskId) (s : SchedulingState)
    (envs : ℕ → IterationEnv) : ℕ → ResearchLoop :=
  (researchLoopSystem task).after { state := s } envs

section

variable {task : TaskId} {s : SchedulingState} {envs : ℕ → IterationEnv}

/-- The loop ends in one way. -/
theorem researchLoop_ended_stays {e : LoopEnd} {n k : ℕ}
    (hn : (researchLoopAfter task s envs n).ended = some e) (hle : n ≤ k) :
    (researchLoopAfter task s envs k).ended = some e := by
  have hstays : ∀ (l : ResearchLoop) (env : IterationEnv),
      l.ended = some e →
      ((researchLoopSystem task).step l env).ended = some e := by
    intro l env hended
    show (l.step task env).ended = some e
    rw [ResearchLoop.step_of_ended hended]
    exact hended
  exact Transition.System.after_stays hstays hn hle

/-- The loop is left, with a result or an exception, exactly when its calls
keep within the limit from some call on. -/
theorem researchLoop_ends_iff
    (hpositive : 0 < s.run.budgetSnapshot.maxSchedulerActions.getD 0) :
    (∃ n, (researchLoopAfter task s envs n).ended ≠ none)
      ↔ ∃ n, ∀ k ≥ n,
        (researchLoopAfter task s envs k).ActsWithinLimit (envs k) := by
  have hwf : WellFounded fun a b : ℕ ×ₗ ℕ => a < b := wellFounded_lt
  have hinv : ∀ (l : ResearchLoop) (env : IterationEnv), l.Limited →
      ((researchLoopSystem task).step l env).Limited :=
    fun _ _ h => h.step
  have hdescends : ∀ (l : ResearchLoop) (env : IterationEnv), l.Limited →
      l.ActsWithinLimit env →
      ¬ ((researchLoopSystem task).step l env).ended ≠ none →
      ((researchLoopSystem task).step l env).left < l.left :=
    fun _ _ h hwithin hended => ResearchLoop.step_descends h hwithin hended
  have hstays : ∀ (l : ResearchLoop) (env : IterationEnv), l.ended ≠ none →
      ((researchLoopSystem task).step l env).ended ≠ none := by
    intro l env hended
    obtain ⟨e, he⟩ := Option.ne_none_iff_exists'.mp hended
    show (l.step task env).ended ≠ none
    rw [ResearchLoop.step_of_ended he]
    exact hended
  have hfree : ∀ (l : ResearchLoop) (env : IterationEnv), l.ended ≠ none →
      l.ActsWithinLimit env := fun _ _ hended hnone => absurd hnone hended
  have hstart : ({ state := s } : ResearchLoop).Limited := fun _ => hpositive
  exact Transition.ends_iff_eventually_guarded hwf hinv hdescends hstays hfree
    hstart envs

end

/-- The loop stops with a result exactly when no call raises and, from some
call on, none finds a search acquisition limit exhausted while no scheduler
action is left. -/
theorem research_loop_stops_iff (task : TaskId) (s : SchedulingState)
    (envs : ℕ → IterationEnv)
    (hpositive : 0 < s.run.budgetSnapshot.maxSchedulerActions.getD 0) :
    (∃ n, (researchLoopAfter task s envs n).ended = some .stopped)
      ↔ (∀ n, (researchLoopAfter task s envs n).ended ≠ some .raised)
        ∧ ∃ n, ∀ k ≥ n,
          (researchLoopAfter task s envs k).ActsWithinLimit (envs k) := by
  rw [← researchLoop_ends_iff hpositive]
  constructor
  · rintro ⟨n, hstopped⟩
    refine ⟨fun m hraised => ?_, n, by rw [hstopped]; nofun⟩
    have hboth := (researchLoop_ended_stays hstopped
      (Nat.le_max_left n m)).symm.trans
      (researchLoop_ended_stays hraised (Nat.le_max_right n m))
    cases hboth
  · rintro ⟨hreturns, n, hended⟩
    obtain ⟨e, he⟩ := Option.ne_none_iff_exists'.mp hended
    cases e with
    | stopped => exact ⟨n, he⟩
    | raised => exact absurd he (hreturns n)

-- ================================================================= a sample

/-- A question with one query, in a run that may search three times. -/
def searchedQuestion : SchedulingState where
  ledger :=
    { run :=
        { status := .running
          phase := .researching
          planVersion := 1
          budgetSnapshot :=
            { maxSchedulerActions := some 2
              maxLogicalQueries := some 3
              maxProviderRequests := some 3
              maxPagesFetched := some 4
              maxPageFetchAttempts := some 4
              maxTokens := some 100000 }
          workerTaskId := some sampleLoopTask
          createdAt := 0
          updatedAt := 0 } }
  items := [{ questionId := "q1" }]

/-- A search that finds one page, which cannot be read. -/
def unreadableEnv (unresolvedGapCount : ℕ) : IterationEnv where
  scheduling :=
    { now := 1, familyQueries := fun _ => ["price"], unresolvedGapCount }
  minimumCall := 4000
  actions :=
    [⟨.answered { eligible := [("q1", 1)] }, 1, 0⟩,
      ⟨.searched (.succeeded 1) ["page"], 1, 0⟩, ⟨.returns, 1, 0⟩,
      ⟨.ordered ["page"], 1, 0⟩, ⟨.returns, 1, 0⟩, ⟨.toolError, 1, 0⟩,
      ⟨.returns, 1, 0⟩]
  found := ["page"]
  evaluation :=
    { allFirstAttempted := true, unresolvedGapCount, remaining := 1 }
  finishedAt := 1
  gaps := ["q1"]
  replannedAt := 1

/-- The gap is closed after the third call. -/
def unreadableEnvs (n : ℕ) : IterationEnv :=
  unreadableEnv (if n < 3 then 1 else 0)

/-- The question is searched, given up, planned anew and given up again;
the fifth call turns to writing. -/
theorem research_loop_stops_iff_sample :
    ((researchLoopAfter sampleLoopTask searchedQuestion unreadableEnvs
        4).state.queries = [⟨"q1", "price"⟩]
      ∧ (researchLoopAfter sampleLoopTask searchedQuestion unreadableEnvs
        4).state.run.usageSnapshot.replans = 1)
      ∧ (∀ n, (researchLoopAfter sampleLoopTask searchedQuestion
        unreadableEnvs n).ended ≠ some .raised)
      ∧ ∃ n, ∀ k ≥ n, (researchLoopAfter sampleLoopTask searchedQuestion
        unreadableEnvs k).ActsWithinLimit (unreadableEnvs k) :=
  ⟨by decide +kernel,
    (research_loop_stops_iff sampleLoopTask searchedQuestion unreadableEnvs
      (by decide)).mp ⟨5, by decide +kernel⟩⟩

/-- A run with its one logical query and its one page used up. -/
def cachedRun (schedulerActions stateVersion : ℕ) : ResearchRunRow where
  status := .running
  phase := .researching
  stateVersion
  planVersion := 1
  budgetSnapshot :=
    { maxIterations := some 3
      maxLogicalQueries := some 1
      maxProviderRequests := some 5
      maxPagesFetched := some 1
      maxPageFetchAttempts := some 4
      maxPagesExtracted := some 4
      maxExtractionCalls := some 4
      maxVerificationCalls := some 4
      maxSchedulerActions := some 2
      maxTokens := some 100000
      maxWallClockSeconds := some 3600
      allocation :=
        { researchTokens := some 60000, writerTokens := some 15000 } }
  usageSnapshot :=
    { logicalQueries := some 1
      searchProviderRequests := 1
      pages := some 1
      pagesFetched := some 1
      pageFetchAttempts := some 1
      pagesExtracted := some 1
      extractionCalls := some 1
      schedulerActions
      iterations := 1 }
  leaseUntil := some (1 + executionLeaseSeconds)
  workerTaskId := some sampleLoopTask
  createdAt := 0
  updatedAt := 1

/-- Its question, searched under the enriched text: one of the two results
was read. -/
def cachedState (run : ResearchRunRow) (gapAttempts : ℕ)
    (succeededCalls : List SearchQueryRow) : SchedulingState where
  ledger := { run }
  items := [⟨"q1", 1, .active, some gapAttempts⟩]
  queries := [⟨"q1", "price official"⟩]
  results :=
    [⟨⟨"q1", "price official"⟩, 1, "read"⟩,
      ⟨⟨"q1", "price official"⟩, 2, "unread"⟩]
  closedUrls := ["read"]
  succeededCalls

/-- A call that finds the cached result, and no page to read it with. -/
def cachedIterationEnv : IterationEnv where
  scheduling :=
    { now := 1, familyQueries := fun _ => ["price"], unresolvedGapCount := 1 }
  enrich := fun query => query ++ " official"
  minimumCall := 4000
  actions :=
    [⟨.answered { eligible := [("q1", 1)] }, 1, 0⟩,
      ⟨.searched (.succeeded 0) ["unread"], 1, 0⟩, ⟨.returns, 1, 0⟩]
  facts := { executedFamilies := 1 }
  evaluation := { allFirstAttempted := true, unresolvedGapCount := 1 }
  finishedAt := 1

/-- The target of each such call. -/
def cachedTarget (query : String) (gapAttemptIndex : ℕ) :
    ScheduledTarget where
  questionId := "q1"
  query
  toolCall := ⟨"q1", "price"⟩
  priority := 1
  search :=
    { searchBudgetExhausted := true
      queryAlreadyExecuted := true
      cachedCandidates := true
      gapAttemptIndex }
  reusableResults := ["unread"]

/-- What the attempt is given, the query enriched. -/
def cachedAttemptTarget (attempts : ℕ) : AttemptTarget :=
  (cachedTarget "price official" attempts).attemptTarget cachedIterationEnv

abbrev cachedAttempt (attempts : ℕ) :
    Transition.System AttemptState AttemptAction :=
  attemptSystem sampleLoopTask (cachedAttemptTarget attempts)

section

variable (actions version attempts : ℕ)

theorem cachedState_prepareTarget :
    (cachedState (cachedRun actions version) attempts
        [⟨"q1", "price"⟩]).prepareTarget sampleLoopTask
        cachedIterationEnv.scheduling
      = .ok (cachedState (cachedRun (actions + 1) version) attempts [],
          some (cachedTarget "price" attempts)) := rfl

theorem cachedRun_researchAvailable :
    researchAvailable { eligible := [("q1", 1)] } 1
      { run := cachedRun actions version } = 60000 := by
  have hreserve : writerReserve { eligible := [("q1", 1)] }
      { run := cachedRun actions version } = 15000 := rfl
  have havailable : ({ run := cachedRun actions version } :
      TokenLedger).available 1 = 100000 := rfl
  unfold researchAvailable
  rw [hreserve, havailable]
  rfl

/-- The budget answer allows a call. -/
theorem cachedRun_evidenceModelBudget :
    ∃ answer, evidenceModelBudget sampleLoopTask
        { questionId := some "q1", minimumCall := some 4000 }
        { eligible := [("q1", 1)] } 1 { run := cachedRun actions version }
      = .ok (answer, { run := cachedRun actions version })
        ∧ answer.allowed = true ∧ answer.maxCallTokens = 12000 := by
  unfold evidenceModelBudget
  rw [cachedRun_researchAvailable]
  exact ⟨_, rfl, rfl, rfl⟩

/-- The attempt reuses the result and is granted no page. -/
theorem cachedAttempt_exec :
    (cachedAttempt attempts).exec
        { ledger := { run := cachedRun actions version } }
        cachedIterationEnv.actions
      = { ledger := { run := cachedRun actions version }
          call := .exited (.returned .budgetExhausted)
          searched := true } := by
  -- Three steps: the budget allows, the search finds a page, no slot is
  -- left to read it.
  have hasked : (cachedAttempt attempts).step
      { ledger := { run := cachedRun actions version } }
      ⟨.answered { eligible := [("q1", 1)] }, 1, 0⟩
      = { ledger := { run := cachedRun actions version }
          call := .search } := by
    obtain ⟨answer, hanswer, hallowed, htokens⟩ :=
      cachedRun_evidenceModelBudget actions version
    have hanswer' : evidenceModelBudget sampleLoopTask
        { questionId := some (cachedAttemptTarget attempts).questionId
          minimumCall := some (cachedAttemptTarget attempts).minimumCall }
        { eligible := [("q1", 1)] } 1 { run := cachedRun actions version }
      = .ok (answer, { run := cachedRun actions version }) := hanswer
    simp only [attemptSystem, AttemptState.step, AttemptState.called,
      AttemptState.askInitialBudget]
    rw [hanswer']
    unfold AttemptState.refuses
    dsimp only
    rw [hallowed, htokens]
    rfl
  have hsearched : (cachedAttempt attempts).step
      { ledger := { run := cachedRun actions version }, call := .search }
      ⟨.searched (.succeeded 0) ["unread"], 1, 0⟩
      = { ledger := { run := cachedRun actions version }
          call := .reservePageSlots ["unread"]
          searched := true } := rfl
  have hreserved : (cachedAttempt attempts).step
      { ledger := { run := cachedRun actions version }
        call := .reservePageSlots ["unread"]
        searched := true } ⟨.returns, 1, 0⟩
      = { ledger := { run := cachedRun actions version }
          call := .exited (.returned .budgetExhausted)
          searched := true } := rfl
  unfold cachedIterationEnv
  rw [Transition.System.exec_cons, hasked, Transition.System.exec_cons,
    hsearched, Transition.System.exec_cons, hreserved,
    Transition.System.exec_nil]

/-- Nothing is left of the attempt but its tool call. -/
theorem cachedState_attempted :
    (cachedState (cachedRun actions version) attempts []).attempted
        (cachedTarget "price official" attempts)
        { ledger := { run := cachedRun actions version }
          call := .exited (.returned .budgetExhausted)
          searched := true } cachedIterationEnv
      = cachedState (cachedRun actions version) attempts
          [⟨"q1", "price"⟩] := rfl

theorem cachedState_finishIteration :
    (cachedState (cachedRun actions version) attempts
        [⟨"q1", "price"⟩]).finishIteration sampleLoopTask
        (cachedTarget "price official" attempts) .budgetExhausted
        cachedIterationEnv.facts cachedIterationEnv.evaluation
        cachedIterationEnv.finishedAt
      = .ok (cachedState (cachedRun actions (version + 1)) (attempts + 1)
          [⟨"q1", "price"⟩], ⟨true, .continueCached, none⟩) := rfl

/-- A call counts a scheduler action, and that is all. -/
theorem cachedState_step :
    ({ state := cachedState (cachedRun actions version) attempts
        [⟨"q1", "price"⟩] } : ResearchLoop).step sampleLoopTask
        cachedIterationEnv
      = { state := cachedState (cachedRun (actions + 1) (version + 1))
            (attempts + 1) [⟨"q1", "price"⟩] } := by
  have hturn : (cachedState (cachedRun actions version) attempts
      [⟨"q1", "price"⟩]).runOneIteration sampleLoopTask cachedIterationEnv
      = some (cachedState (cachedRun (actions + 1) (version + 1))
          (attempts + 1) [⟨"q1", "price"⟩],
          ⟨true, .evaluated .continueCached⟩) := by
    unfold SchedulingState.runOneIteration
    rw [cachedState_prepareTarget]
    have henriched : ({ cachedTarget "price" attempts with
        query := cachedIterationEnv.enrich (cachedTarget "price"
          attempts).query } : ScheduledTarget)
        = cachedTarget "price official" attempts := rfl
    dsimp only
    rw [henriched]
    have hattempt : (attemptSystem sampleLoopTask ((cachedTarget
        "price official" attempts).attemptTarget cachedIterationEnv)).exec
        { ledger := (cachedState (cachedRun (actions + 1) version) attempts
            []).ledger } cachedIterationEnv.actions
        = { ledger := { run := cachedRun (actions + 1) version }
            call := .exited (.returned .budgetExhausted)
            searched := true } :=
      cachedAttempt_exec (actions + 1) version attempts
    rw [hattempt]
    dsimp only
    rw [cachedState_attempted]
    rw [cachedState_finishIteration]
  unfold ResearchLoop.step
  dsimp only
  rw [hturn]
  rfl

end

/-- Cached work that cannot be read is handed out for ever: the search
limit hides the limit of scheduler actions, the enriched text is not the
text the scheduler asks for, and no iteration is counted. -/
theorem cached_work_repeats_for_ever :
    (∀ check ∈ budgetChecks (cachedRun 1 1), 0 < check.maximum)
      ∧ ∀ n, (researchLoopAfter sampleLoopTask
          (cachedState (cachedRun 1 1) 1 [⟨"q1", "price"⟩])
          (fun _ => cachedIterationEnv) n).ended = none := by
  refine ⟨by decide, fun n => ?_⟩
  have hrun : researchLoopAfter sampleLoopTask
      (cachedState (cachedRun 1 1) 1 [⟨"q1", "price"⟩])
      (fun _ => cachedIterationEnv) n
      = { state := cachedState (cachedRun (1 + n) (1 + n)) (1 + n)
            [⟨"q1", "price"⟩] } := by
    induction n with
    | zero => rfl
    | succ n ih =>
        show (researchLoopAfter sampleLoopTask _ _ n).step sampleLoopTask
          cachedIterationEnv = _
        rw [ih]
        exact cachedState_step (1 + n) (1 + n) (1 + n)
  rw [hrun]

end DeepResearch.Run
