/-
When the searches of a run keep to their limit.

A fresh search is counted without another look at the limit, so all
depends on what `prepare_target` hands out once the limit is reached
(`SearchView.StartsSearch`). A selected question is told that the budget
is exhausted; a feedback request is not, and it comes first. Two more
ways lead past the limit: the limit on logical queries may lie above the
limit on searches, and the counter of logical queries may lag behind the
counter of searches (`SearchesTied` excludes both).

`SearchState.RoomLeft` is the invariant: the counter is within its limit,
and below it while a target that will search is in hand.
-/
import DeepResearch.Run.Proofs.HardLimits
import DeepResearch.Run.SearchBudget

namespace DeepResearch.Run

open Transition

-- =========================================================== statements

/-- The search limit is reached. -/
def ResearchRunRow.SearchLimitReached (run : ResearchRunRow) : Prop :=
  run.budgetSnapshot.maxSearches.getD 0
    ≤ run.usageSnapshot.searches.getD 0

instance (run : ResearchRunRow) : Decidable run.SearchLimitReached :=
  inferInstanceAs (Decidable (_ ≤ _))

/-- A fresh search is due for the question, as long as the budget is not
reported exhausted. -/
def ScheduledQuestion.searches (question : ScheduledQuestion) : Bool :=
  !question.strategyExhausted
    && !(question.selection false).target.reuseOnly

/-- On this run, `prepare_target` starts a fresh search: for a feedback
request unless a hard limit is the reason found, for a question only
without any reason. -/
def SearchView.StartsSearch (view : SearchView) (now : Nat)
    (run : ResearchRunRow) : Prop :=
  match budgetExhaustionReason now run with
  | some reason =>
      reason.isSearchAcquisition = true ∧ view.feedbackPending = true
  | none =>
      view.feedbackPending = true
        ∨ view.selected.any (·.searches) = true

instance (view : SearchView) (now : Nat) (run : ResearchRunRow) :
    Decidable (view.StartsSearch now run) := by
  unfold SearchView.StartsSearch
  split <;> infer_instance

/-- A `prepare_target` that finds the search limit reached starts no
fresh search. -/
def SearchState.Guarded (s : SearchState) : SearchAction → Prop
  | .prepareTarget workerTaskId view now =>
      s.run.OwnedBy workerTaskId → s.run.SearchLimitReached →
        ¬ view.StartsSearch now s.run
  | _ => True

instance (s : SearchState) : ∀ a, Decidable (s.Guarded a)
  | .prepareTarget _ _ _ => inferInstanceAs (Decidable (_ → _ → ¬ _))
  | .search _ _ => inferInstanceAs (Decidable True)
  | .finishIteration _ _ _ _ => inferInstanceAs (Decidable True)
  | .operation _ _ => inferInstanceAs (Decidable True)
  | .restart => inferInstanceAs (Decidable True)

/-- The search counter is within its limit, and `synchronize` accepts
it. -/
def SearchState.WithinSearches (s : SearchState) : Prop :=
  s.run.usageSnapshot.searches.getD 0
      ≤ s.run.budgetSnapshot.maxSearches.getD 0
    ∧ searchBudgetExceeded s.run = false

instance (s : SearchState) : Decidable s.WithinSearches :=
  inferInstanceAs (Decidable (_ ∧ _))

/-- The counter is within its limit, and stays there however the search
in hand ends. -/
def SearchState.SafelyWithin (s : SearchState) : Prop :=
  s.WithinSearches
    ∧ ∀ task outcome, (s.step (.search task outcome)).WithinSearches

-- ======================================================== what is searched

section

variable {now : Nat} {run run' : ResearchRunRow} {task : TaskId}

/-- Whether a search is started, by the target handed out. -/
theorem startsSearch_iff {view : SearchView} {target : ResearchTarget}
    (h : prepareTarget task (view.schedulerView now run) now run
      = .ok (run', some target)) :
    view.StartsSearch now run ↔ target.reuseOnly = false := by
  obtain ⟨-, hprepared⟩ := prepareTarget_cases h
  unfold SearchView.StartsSearch
  cases hprepared with
  | feedback _ hreason hview _ =>
      have hpending : view.feedbackPending = true ∧ target = feedbackTarget :=
        by
          unfold SearchView.schedulerView at hview
          dsimp only at hview
          split at hview
          case isTrue hpending =>
            exact ⟨hpending, (Option.some.inj hview).symm⟩
          case isFalse => cases hview
      rw [hpending.2]
      refine ⟨fun _ => rfl, fun _ => ?_⟩
      split
      case h_1 reason heq => exact ⟨hreason reason heq, hpending.1⟩
      case h_2 => exact Or.inl hpending.1
  | selected selection w hreason hfeedback hview hstrategy _ _ =>
      have hpending : view.feedbackPending = false := by
        unfold SearchView.schedulerView at hfeedback
        dsimp only at hfeedback
        split at hfeedback
        case isTrue => cases hfeedback
        case isFalse hpending => exact Bool.eq_false_iff.mpr hpending
      obtain ⟨question, hquestion, rfl⟩ := Option.map_eq_some_iff.mp hview
      rw [hquestion, hpending, Option.any_some]
      split
      case h_1 reason heq =>
        -- Past the gate the reason is one of the search limits.
        have hexhausted : searchAcquisitionBudgetExhausted
            (budgetExhaustionReason now run) = true := by
          rw [heq]
          exact hreason reason heq
        rw [hexhausted]
        simp [ScheduledQuestion.selection, ResearchTarget.reuseOnly]
      case h_2 heq =>
        have hunspent : searchAcquisitionBudgetExhausted
            (budgetExhaustionReason now run) = false := by
          rw [heq]
          rfl
        have hstrategy : question.strategyExhausted = false := hstrategy
        rw [hunspent]
        simp [ScheduledQuestion.searches, hstrategy]

/-- Where a search would be started, a target is handed out. -/
theorem SearchView.StartsSearch.prepares {view : SearchView}
    (h : view.StartsSearch now run) (hown : run.OwnedBy task) :
    ∃ run' target,
      prepareTarget task (view.schedulerView now run) now run
        = .ok (run', some target) := by
  unfold SearchView.StartsSearch at h
  unfold prepareTarget
  rw [if_pos hown]
  cases hreason : budgetExhaustionReason now run with
  | some reason =>
      rw [hreason] at h
      obtain ⟨hsearch, hpending⟩ := h
      have hexhausted :
          searchAcquisitionBudgetExhausted (some reason) = true := hsearch
      simp only [hexhausted, SearchView.schedulerView, hpending, if_true]
      exact ⟨_, _, rfl⟩
  | none =>
      rw [hreason] at h
      have hunspent : searchAcquisitionBudgetExhausted none = false := rfl
      simp only [hunspent, SearchView.schedulerView]
      cases hpending : view.feedbackPending with
      | true =>
          simp only [if_true]
          exact ⟨_, _, rfl⟩
      | false =>
          rw [hpending] at h
          obtain hfeedback | hsearches := h
          · cases hfeedback
          · obtain ⟨question, hquestion, hfresh⟩ :=
              (Option.any_eq_true _ _).mp hsearches
            have hstrategy : question.strategyExhausted = false := by
              simp only [ScheduledQuestion.searches, Bool.and_eq_true,
                Bool.not_eq_true'] at hfresh
              exact hfresh.1
            simp only [Bool.false_eq_true, if_false, hquestion,
              Option.map_some, ScheduledQuestion.selection, hstrategy,
              Bool.false_and, WorkerOp.write, writeUsage]
            rw [if_pos hown]
            exact ⟨_, _, rfl⟩

-- ============================================================= the frame

/-- Neither the search counters nor their limits moved. -/
structure SameSearches (run run' : ResearchRunRow) : Prop where
  searches : run'.usageSnapshot.searches = run.usageSnapshot.searches
  logicalQueries :
    run'.usageSnapshot.logicalQueries = run.usageSnapshot.logicalQueries
  maxSearches :
    run'.budgetSnapshot.maxSearches = run.budgetSnapshot.maxSearches
  maxLogicalQueries :
    run'.budgetSnapshot.maxLogicalQueries
      = run.budgetSnapshot.maxLogicalQueries

theorem SameSearches.refl (run : ResearchRunRow) : SameSearches run run :=
  ⟨rfl, rfl, rfl, rfl⟩

/-- No operation of the other modules counts a search. -/
theorem RunOp.write_sameSearches {op : RunOp} {w : RunWrite}
    (h : op.write now run = .ok w) : SameSearches run w.run := by
  have hcount : (op.count run.gauges).searches = run.gauges.searches
      ∧ (op.count run.gauges).logicalQueries = run.gauges.logicalQueries
      ∧ (op.count run.gauges).maxSearches = run.gauges.maxSearches
      ∧ (op.count run.gauges).maxLogicalQueries
        = run.gauges.maxLogicalQueries := by
    cases op with
    | worker task op =>
        cases op with
        | finishIteration outcome reason =>
            unfold RunOp.count WorkerOp.count
            dsimp only
            split <;> exact ⟨rfl, rfl, rfl, rfl⟩
        | _ => exact ⟨rfl, rfl, rfl, rfl⟩
    | _ => exact ⟨rfl, rfl, rfl, rfl⟩
  have hgauges := (RunOp.write_moves h).gauges
  exact
    { searches := (congrArg Gauges.searches hgauges).trans hcount.1
      logicalQueries :=
        (congrArg Gauges.logicalQueries hgauges).trans hcount.2.1
      maxSearches := (congrArg Gauges.maxSearches hgauges).trans hcount.2.2.1
      maxLogicalQueries :=
        (congrArg Gauges.maxLogicalQueries hgauges).trans hcount.2.2.2 }

/-- No operation of the run row counts a search. -/
theorem RunOp.after_sameSearches (op : RunOp) (now : Nat)
    (run : ResearchRunRow) : SameSearches run (op.after now run) := by
  unfold RunOp.after
  split
  case h_1 w h => exact RunOp.write_sameSearches h
  case h_2 => exact .refl run

/-- Nor does any of the worker. -/
theorem WorkerOp.write_sameSearches {op : WorkerOp} {w : RunWrite}
    (h : op.write now task run = .ok w) : SameSearches run w.run := by
  have hworker : (RunOp.worker task op).write now run = .ok w := h
  exact RunOp.write_sameSearches hworker

/-- Preparing a target hands a search out, and counts none. -/
theorem prepareTarget_sameSearches {τ : Type} {view : SchedulerView τ}
    {target : Option τ}
    (h : prepareTarget task view now run = .ok (run', target)) :
    SameSearches run run' := by
  obtain ⟨-, hprepared⟩ := prepareTarget_cases h
  cases hprepared with
  | stepped hrun | feedback target _ _ hrun =>
      rw [hrun]
      exact .refl run
  | turned w hwrite hrun =>
      rw [hrun]
      obtain ⟨reason, hw⟩ | hw := hwrite
      · exact WorkerOp.write_sameSearches hw
      · exact WorkerOp.write_sameSearches hw
  | selected selection w _ _ _ _ hw hrun =>
      rw [hrun]
      exact WorkerOp.write_sameSearches hw

/-- Nor does the end of an iteration. -/
theorem evaluateIteration_sameSearches {outcome : AttemptOutcome}
    {view : EvaluationView} {evaluation : IterationEvaluation}
    (h : evaluateIteration task outcome view now run
      = .ok (run', evaluation)) : SameSearches run run' := by
  unfold evaluateIteration at h
  dsimp only at h
  obtain ⟨w, hw, hpair⟩ := ok_of_map h
  injection hpair with hrun _
  rw [← hrun]
  have hfinish : WorkerOp.write now task run (.finishIteration outcome _)
    = .ok w := hw
  exact WorkerOp.write_sameSearches hfinish

/-- A target is handed out to the owner, who stays the owner. -/
theorem prepareTarget_ownedBy {τ : Type} {view : SchedulerView τ}
    {target : τ}
    (h : prepareTarget task view now run = .ok (run', some target)) :
    run'.OwnedBy task := by
  obtain ⟨hown, hprepared⟩ := prepareTarget_cases h
  cases hprepared with
  | feedback _ _ _ hrun =>
      rw [hrun]
      exact hown
  | selected selection w _ _ _ _ hw hrun =>
      simp only [WorkerOp.write, writeUsage] at hw
      obtain ⟨-, rfl⟩ := ok_of_guard hw
      rw [hrun]
      exact hown

-- ======================================================== a search recorded

/-- What a recorded search does to the counter. -/
theorem recordSearch_searches (target : ResearchTarget)
    (outcome : SearchOutcome) (usage : UsageSnapshot) :
    (recordSearch target outcome usage).searches.getD 0
      = usage.searches.getD 0
        + if target.reuseOnly = false ∧ outcome ≠ .cutShort then 1
          else 0 := by
  unfold recordSearch
  cases outcome with
  | succeeded requests =>
      unfold recordSearchResults countProviderRequests countSearch
      cases target.reuseOnly <;> rfl
  | providerFailed requests =>
      unfold recordToolFailure countProviderRequests countSearch
      cases target.reuseOnly <;> rfl
  | cutShort => simp

end

-- ============================================================ the invariant

/-- The counter is within its limit, and below it while a target that
will search is in hand. -/
structure SearchState.RoomLeft (maximum : Nat) (s : SearchState) : Prop where
  limit : s.run.budgetSnapshot.maxSearches = some maximum
  within : s.run.usageSnapshot.searches.getD 0 ≤ maximum
  inHand : ∀ target, s.work = .prepared target →
    target.reuseOnly = false →
    s.run.usageSnapshot.searches.getD 0 < maximum

section

variable {s : SearchState} {maximum : Nat}

/-- Whatever keeps the counter and takes up no target that will search
keeps the invariant. -/
theorem SearchState.RoomLeft.of_same (hroom : s.RoomLeft maximum)
    {run' : ResearchRunRow} (hsame : SameSearches s.run run')
    {work : SearchWork}
    (hwork : ∀ target, work = .prepared target →
      target.reuseOnly = false →
      s.run.usageSnapshot.searches.getD 0 < maximum) :
    SearchState.RoomLeft maximum ⟨run', work⟩ where
  limit := hsame.maxSearches.trans hroom.limit
  within := by
    show run'.usageSnapshot.searches.getD 0 ≤ maximum
    rw [hsame.searches]
    exact hroom.within
  inHand target htarget hfresh := by
    show run'.usageSnapshot.searches.getD 0 < maximum
    rw [hsame.searches]
    exact hwork target htarget hfresh

theorem SearchState.RoomLeft.withinSearches (hroom : s.RoomLeft maximum) :
    s.WithinSearches := by
  unfold SearchState.WithinSearches searchBudgetExceeded
  rw [hroom.limit]
  refine ⟨hroom.within, ?_⟩
  have hwithin := hroom.within
  simp only [Option.getD_some, decide_eq_false_iff_not]
  omega

/-- A guarded step keeps the invariant. -/
theorem SearchState.RoomLeft.step (a : SearchAction)
    (hroom : s.RoomLeft maximum) (hguard : s.Guarded a) :
    (s.step a).RoomLeft maximum := by
  cases a with
  | prepareTarget task view now =>
      unfold SearchState.step
      dsimp only
      split
      case h_1 run' target hprepare =>
        refine hroom.of_same (prepareTarget_sameSearches hprepare)
          fun handed hhanded hfresh => ?_
        injection hhanded with hhanded
        rw [← hhanded] at hfresh
        -- The call hands out a fresh search, so the guard says that one is
        -- left.
        have hstarts := (startsSearch_iff hprepare).mpr hfresh
        by_contra hreached
        refine hguard (prepareTarget_cases hprepare).1 ?_ hstarts
        unfold ResearchRunRow.SearchLimitReached
        rw [hroom.limit]
        exact Nat.le_of_not_lt hreached
      case h_2 run' hprepare =>
        exact hroom.of_same (prepareTarget_sameSearches hprepare)
          fun _ h => by cases h
      case h_3 => exact hroom
  | search task outcome =>
      unfold SearchState.step
      dsimp only
      split
      case h_1 target hwork =>
        split
        case h_1 w hw =>
          unfold writeUsage at hw
          obtain ⟨-, rfl⟩ := ok_of_guard hw
          refine ⟨hroom.limit, ?_, fun _ h => by cases h⟩
          show (recordSearch target outcome
            s.run.usageSnapshot).searches.getD 0 ≤ maximum
          -- Only a fresh search counts, and there was room for it when it
          -- was handed out.
          rw [recordSearch_searches]
          split
          case isTrue hfresh => exact hroom.inHand target hwork hfresh.1
          case isFalse => exact hroom.within
        case h_2 => exact hroom
      case h_2 => exact hroom
      case h_3 => exact hroom
  | finishIteration task outcome view now =>
      have hfinish : ∀ {run' evaluation},
          evaluateIteration task outcome view now s.run
            = .ok (run', evaluation) →
          SearchState.RoomLeft maximum ⟨run', .idle⟩ := fun h =>
        hroom.of_same (evaluateIteration_sameSearches h)
          fun _ h => by cases h
      unfold SearchState.step
      dsimp only
      split
      case h_1 => exact hroom
      case h_2 | h_3 =>
        split
        case h_1 run' evaluation hevaluate => exact hfinish hevaluate
        case h_2 => exact hroom
  | operation op now =>
      exact hroom.of_same (op.after_sameSearches now s.run) hroom.inHand
  | restart => exact hroom.of_same (.refl _) fun _ h => by cases h

/-- A step that starts a fresh search at the limit leaves a state whose
search, however it ends, is counted past the limit. -/
theorem SearchState.not_safelyWithin {a : SearchAction}
    (hguard : ¬ s.Guarded a) : ¬ (s.step a).SafelyWithin := by
  cases a with
  | search | finishIteration | operation | restart =>
      exact absurd trivial hguard
  | prepareTarget task view now =>
      unfold SearchState.Guarded at hguard
      push Not at hguard
      obtain ⟨hown, hreached, hstarts⟩ := hguard
      obtain ⟨run', target, hprepare⟩ := hstarts.prepares hown
      have hsame := prepareTarget_sameSearches hprepare
      have hfresh := (startsSearch_iff hprepare).mp hstarts
      have hstep : s.step (.prepareTarget task view now)
          = ⟨run', .prepared target⟩ := by
        unfold SearchState.step
        simp only [hprepare]
      intro hsafe
      rw [hstep] at hsafe
      have hwithin := (hsafe.2 task (.succeeded 1)).1
      unfold SearchState.step writeUsage at hwithin
      simp only [if_pos (prepareTarget_ownedBy hprepare),
        recordSearch_searches] at hwithin
      rw [if_pos ⟨hfresh, by decide⟩, hsame.searches, hsame.maxSearches]
        at hwithin
      unfold ResearchRunRow.SearchLimitReached at hreached
      omega

end

-- ======================================================== the main result

/-- From within a positive search limit, every state of a run is within
it, however the search in hand ends, exactly when no `prepare_target`
that finds the limit reached starts a fresh search. -/
theorem searches_within_limit_iff (s : SearchState)
    (as : List SearchAction) (hinit : searchSystem.init s) :
    searchSystem.Throughout SearchState.SafelyWithin s as
      ↔ searchSystem.Along SearchState.Guarded s as := by
  obtain ⟨hidle, maximum, hlimit, -, hwithin⟩ := hinit
  have hroom : s.RoomLeft maximum :=
    { limit := hlimit, within := hwithin
      inHand := fun _ h => by rw [hidle] at h; cases h }
  have hsafe : ∀ t : SearchState, t.RoomLeft maximum → t.SafelyWithin :=
    fun t ht => ⟨ht.withinSearches, fun task outcome =>
      (ht.step (.search task outcome) trivial).withinSearches⟩
  exact throughout_iff_along hsafe (fun _ a ht hguard => ht.step a hguard)
    (fun _ _ _ hguard => SearchState.not_safelyWithin hguard) hroom as

-- ========================================================= tied counters

/-- The limit on logical queries is the limit on searches, and the two
counters agree. The budgets of all tiers are such, and so is a run that
has not searched yet. -/
structure ResearchRunRow.SearchesTied (run : ResearchRunRow) : Prop where
  limits : (run.budgetSnapshot.maxLogicalQueries.or
      run.budgetSnapshot.maxSearches).getD 0
    = run.budgetSnapshot.maxSearches.getD 0
  counters : (run.usageSnapshot.logicalQueries.or
      run.usageSnapshot.searches).getD 0
    = run.usageSnapshot.searches.getD 0

/-- A `prepare_target` that finds the search limit reached finds no
pending feedback request. -/
def SearchState.NoLateFeedback (s : SearchState) : SearchAction → Prop
  | .prepareTarget _ view _ =>
      s.run.SearchLimitReached → view.feedbackPending = false
  | _ => True

section

variable {now : Nat} {run run' : ResearchRunRow}

/-- With tied counters a reached search limit is found. -/
theorem ResearchRunRow.SearchesTied.reason_isSome
    (htied : run.SearchesTied)
    (hpos : 0 < run.budgetSnapshot.maxSearches.getD 0)
    (hreached : run.SearchLimitReached) :
    (budgetExhaustionReason now run).isSome = true := by
  unfold budgetExhaustionReason
  split
  case isTrue => rfl
  case isFalse =>
    split
    case h_1 => rfl
    case h_2 hnone =>
      exfalso
      -- The second check is the one of the logical queries.
      obtain ⟨check, hmem, hused, hmaximum⟩ :
          ∃ check ∈ budgetChecks run,
            check.used = (run.usageSnapshot.logicalQueries.or
              run.usageSnapshot.searches).getD 0
            ∧ check.maximum = (run.budgetSnapshot.maxLogicalQueries.or
              run.budgetSnapshot.maxSearches).getD 0 :=
        ⟨_, List.mem_cons_of_mem _ (List.mem_cons_self ..), rfl, rfl⟩
      apply List.find?_eq_none.mp hnone check hmem
      unfold BudgetCheck.isExhausted
      unfold ResearchRunRow.SearchLimitReached at hreached
      rw [hused, hmaximum, htied.counters, htied.limits]
      simp only [Bool.and_eq_true, decide_eq_true_eq]
      exact ⟨hpos, hreached⟩

/-- With tied counters only a feedback request starts a search at the
limit. -/
theorem ResearchRunRow.SearchesTied.feedbackPending
    (htied : run.SearchesTied)
    (hpos : 0 < run.budgetSnapshot.maxSearches.getD 0)
    (hreached : run.SearchLimitReached) {view : SearchView}
    (hstarts : view.StartsSearch now run) : view.feedbackPending = true := by
  have hsome : (budgetExhaustionReason now run).isSome = true :=
    htied.reason_isSome hpos hreached
  obtain ⟨reason, hreason⟩ := Option.isSome_iff_exists.mp hsome
  unfold SearchView.StartsSearch at hstarts
  rw [hreason] at hstarts
  exact hstarts.2

theorem ResearchRunRow.SearchesTied.of_same (htied : run.SearchesTied)
    (hsame : SameSearches run run') : run'.SearchesTied where
  limits := by
    rw [hsame.maxSearches, hsame.maxLogicalQueries]
    exact htied.limits
  counters := by
    rw [hsame.searches, hsame.logicalQueries]
    exact htied.counters

/-- A fresh search moves both counters. -/
theorem countSearch_tied (usage : UsageSnapshot)
    (h : (usage.logicalQueries.or usage.searches).getD 0
      = usage.searches.getD 0) :
    ((countSearch usage).logicalQueries.or
        (countSearch usage).searches).getD 0
      = (countSearch usage).searches.getD 0 := by
  unfold countSearch
  cases hlogical : usage.logicalQueries with
  | none => simp
  | some queries =>
      rw [hlogical] at h
      simp only [Option.some_or, Option.getD_some] at h ⊢
      omega

/-- The logical queries are counted with the searches. -/
theorem recordSearch_tied (target : ResearchTarget)
    (outcome : SearchOutcome) {usage : UsageSnapshot}
    (h : (usage.logicalQueries.or usage.searches).getD 0
      = usage.searches.getD 0) :
    ((recordSearch target outcome usage).logicalQueries.or
        (recordSearch target outcome usage).searches).getD 0
      = (recordSearch target outcome usage).searches.getD 0 := by
  unfold recordSearch
  cases outcome with
  | succeeded requests =>
      unfold recordSearchResults countProviderRequests
      cases target.reuseOnly with
      | true => exact h
      | false => exact countSearch_tied usage h
  | providerFailed requests =>
      unfold recordToolFailure countProviderRequests
      cases target.reuseOnly with
      | true => exact h
      | false => exact countSearch_tied usage h
  | cutShort => exact h

/-- The counters stay tied. -/
theorem SearchState.step_tied (s : SearchState) (a : SearchAction)
    (htied : s.run.SearchesTied) : (s.step a).run.SearchesTied := by
  cases a with
  | prepareTarget task view now =>
      unfold SearchState.step
      dsimp only
      split
      case h_1 run' target hprepare =>
        exact htied.of_same (prepareTarget_sameSearches hprepare)
      case h_2 run' hprepare =>
        exact htied.of_same (prepareTarget_sameSearches hprepare)
      case h_3 => exact htied
  | search task outcome =>
      unfold SearchState.step
      dsimp only
      split
      case h_1 target hwork =>
        split
        case h_1 w hw =>
          unfold writeUsage at hw
          obtain ⟨-, rfl⟩ := ok_of_guard hw
          exact ⟨htied.limits, recordSearch_tied target outcome htied.counters⟩
        case h_2 => exact htied
      case h_2 => exact htied
      case h_3 => exact htied
  | finishIteration task outcome view now =>
      unfold SearchState.step
      dsimp only
      split
      case h_1 => exact htied
      case h_2 | h_3 =>
        split
        case h_1 run' evaluation hevaluate =>
          exact htied.of_same (evaluateIteration_sameSearches hevaluate)
        case h_2 => exact htied
  | operation op now => exact htied.of_same (op.after_sameSearches now s.run)
  | restart => exact htied

end

/-- With tied counters, ordinary questions, cached work, provider
failures and every other write keep the searches within their limit: it
takes a feedback request at the limit to pass it. -/
theorem tied_searches_within_limit (s : SearchState)
    (as : List SearchAction) (hinit : searchSystem.init s)
    (htied : s.run.SearchesTied)
    (hfeedback : searchSystem.Along SearchState.NoLateFeedback s as) :
    searchSystem.Throughout SearchState.WithinSearches s as := by
  obtain ⟨hidle, maximum, hlimit, hpos, hwithin⟩ := hinit
  have hroom : s.RoomLeft maximum :=
    { limit := hlimit, within := hwithin
      inHand := fun _ h => by rw [hidle] at h; cases h }
  have hstep : ∀ (t : SearchState) (a : SearchAction),
      t.RoomLeft maximum ∧ t.run.SearchesTied → t.NoLateFeedback a →
      (t.step a).RoomLeft maximum ∧ (t.step a).run.SearchesTied := by
    rintro t a ⟨hroom, htied⟩ hlate
    refine ⟨hroom.step a ?_, t.step_tied a htied⟩
    cases a with
    | prepareTarget task view now =>
        intro _ hreached hstarts
        have hpositive : 0 < t.run.budgetSnapshot.maxSearches.getD 0 := by
          rw [hroom.limit]
          exact hpos
        have hpending := htied.feedbackPending hpositive hreached hstarts
        rw [hlate hreached] at hpending
        cases hpending
    | search | finishIteration | operation | restart => trivial
  exact (hfeedback.throughout hstep ⟨hroom, htied⟩).mono
    fun _ h => h.1.withinSearches

-- ================================================================= a sample

/-- A run with `searches` of its two searches used. -/
def searchedRun (searches : Nat) : ResearchRunRow where
  status := .running
  phase := .researching
  budgetSnapshot := { maxSearches := some 2, maxLogicalQueries := some 2 }
  usageSnapshot :=
    { searches := some searches, logicalQueries := some searches }
  workerTaskId := some sampleLoopTask
  createdAt := 0
  updatedAt := 0

/-- A feedback request is taken up and searched for. -/
def feedbackSearch : List SearchAction :=
  [.prepareTarget sampleLoopTask { feedbackPending := true } 1,
    .search sampleLoopTask (.succeeded 1)]

theorem searches_within_limit_iff_sample :
    searchSystem.Throughout SearchState.SafelyWithin
      ⟨searchedRun 1, .idle⟩ feedbackSearch :=
  (searches_within_limit_iff _ _ ⟨rfl, 2, rfl, by decide, by decide⟩).mpr
    (by decide)

/-- With the searches used up, the feedback request is searched for all
the same: the third search of two is counted, and `synchronize`
raises. -/
theorem feedback_search_passes_limit :
    searchSystem.init ⟨searchedRun 2, .idle⟩
      ∧ ¬ searchSystem.Throughout SearchState.WithinSearches
        ⟨searchedRun 2, .idle⟩ feedbackSearch
      ∧ searchBudgetExceeded
          (searchSystem.exec ⟨searchedRun 2, .idle⟩ feedbackSearch).run
        = true := by
  refine ⟨⟨rfl, 2, rfl, by decide, by decide⟩, by decide, by decide⟩

end DeepResearch.Run
