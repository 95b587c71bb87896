/-
When a hard limit ends research.

The answer of `_budget_exhaustion_reason` is a hard reason exactly when
some hard limit is exhausted and no search acquisition limit before it
in the order of the checks is (`HardLimitUnmasked`). Then `prepare_target`
turns to writing without a target, and `finish_iteration` does not
continue. A search reason found first hides every hard limit behind it,
and both gates go on unless they have nothing left to go on with
(`WritesAnyway`, `EndsAnyway`).

Only `finish_iteration` counts an iteration, and only for a target that
was handed out. So the iteration counter keeps to its limit along every
run in which the limit is not hidden from `prepare_target` once it is
reached.
-/
import DeepResearch.Run.Proofs.Gauges
import DeepResearch.Run.ResearchLoop

namespace DeepResearch.Run

-- =========================================================== statements

/-- A limit other than the search acquisition ones is exhausted, and no
search acquisition limit that is checked before it. The guard of the
token budget comes before every check, the deadline after them. -/
inductive HardLimitUnmasked (now : Nat) (run : ResearchRunRow) : Prop
  | guarded (h : run.usageSnapshot.modelBudgetGuarded = true)
  | limit (before : List BudgetCheck) (check : BudgetCheck)
      (after : List BudgetCheck)
      (hchecks : budgetChecks run = before ++ check :: after)
      (hhard : check.reason.isSearchAcquisition = false)
      (hexhausted : check.isExhausted = true)
      (hunmasked : ∀ b ∈ before, b.reason.isSearchAcquisition = true →
        b.isExhausted = false)
  | deadline (h : deadlinePassed now run = true)
      (hunmasked : ∀ b ∈ budgetChecks run,
        b.reason.isSearchAcquisition = true → b.isExhausted = false)

/-- Once the iteration limit is reached, no exhausted search acquisition
limit hides it. -/
def ResearchRunRow.IterationLimitUnmasked (run : ResearchRunRow) : Prop :=
  run.budgetSnapshot.maxIterations.getD 0 ≤ run.usageSnapshot.iterations →
    run.usageSnapshot.modelBudgetGuarded = true
      ∨ ∀ b ∈ budgetChecks run, b.reason.isSearchAcquisition = true →
        b.isExhausted = false

instance (run : ResearchRunRow) : Decidable run.IterationLimitUnmasked :=
  inferInstanceAs (Decidable (_ → _ ∨ ∀ b ∈ budgetChecks run, _))

section

variable {τ : Type}

/-- The limit is not hidden from a `prepare_target`. -/
def LoopState.Unmasked (s : LoopState τ) : LoopAction τ → Prop
  | .prepareTarget _ _ _ => s.run.IterationLimitUnmasked
  | _ => True

instance (s : LoopState τ) : ∀ a, Decidable (s.Unmasked a)
  | .prepareTarget _ _ _ => inferInstanceAs (Decidable (_ → _))
  | .finishIteration _ _ _ _ => inferInstanceAs (Decidable True)
  | .write _ => inferInstanceAs (Decidable True)
  | .restart => inferInstanceAs (Decidable True)

/-- The iteration counter is within its limit, and `synchronize` accepts
it. -/
def LoopState.WithinIterations (s : LoopState τ) : Prop :=
  s.run.usageSnapshot.iterations
      ≤ s.run.budgetSnapshot.maxIterations.getD 0
    ∧ iterationBudgetExceeded s.run = false

/-- An exhausted search acquisition limit. -/
def ResearchRunRow.AcquisitionExhausted (run : ResearchRunRow) : Prop :=
  ∃ check ∈ budgetChecks run,
    check.reason.isSearchAcquisition = true ∧ check.isExhausted = true

/-- Without a hard limit: no feedback waits, and of the questions none is
left to replan for, or the selected one has no query, or no cached work
once searches are over. -/
def SchedulerView.WritesAnyway (view : SchedulerView τ)
    (run : ResearchRunRow) : Prop :=
  view.feedbackTarget = none
    ∧ match view.selected with
      | none =>
          run.AcquisitionExhausted ∨ view.qualityMet = true
            ∨ view.unresolvedGapCount = 0
            ∨ maxReplans ≤ run.usageSnapshot.replans
      | some selection =>
          if selection.strategyExhausted then run.phase = .writing
          else run.AcquisitionExhausted ∧ selection.hasReusable = false

/-- Without a hard limit: the quality is met, or, while searches are left
and nothing is to be replanned, research stagnates or has nothing left to
do. -/
def EvaluationView.EndsAnyway (view : EvaluationView)
    (run : ResearchRunRow) : Prop :=
  view.qualityMet = true
    ∨ ¬ run.AcquisitionExhausted ∧ replanNeeded view run = false
      ∧ (view.informationStagnated = true
        ∨ view.qualityEnrichmentNeeded = false ∧ view.remaining = 0
          ∧ (view.unresolvedGapCount = 0
            ∨ view.sourceSpaceExhausted = true))

/-- `prepare_target` leaves the run in writing and hands nothing out. -/
def StopsPreparing (task : TaskId) (view : SchedulerView τ) (now : Nat)
    (run : ResearchRunRow) : Prop :=
  ∃ run', prepareTarget task view now run = .ok (run', none)
    ∧ run'.phase = .writing

/-- `finish_iteration` does not continue. -/
def StopsFinishing (task : TaskId) (outcome : AttemptOutcome)
    (view : EvaluationView) (now : Nat) (run : ResearchRunRow) : Prop :=
  ∃ run' evaluation,
    evaluateIteration task outcome view now run = .ok (run', evaluation)
      ∧ evaluation.continueResearch = false

end

-- ====================================================== the first reason

/-- The first element with `p` has `q` exactly when some element with
both has no element with `p` but not `q` before it. -/
theorem find?_any_iff {α : Type} (p q : α → Bool) (l : List α) :
    (l.find? p).any q = true ↔ ∃ before x after,
      l = before ++ x :: after ∧ p x = true ∧ q x = true
        ∧ ∀ b ∈ before, q b = false → p b = false := by
  induction l with
  | nil => simp
  | cons y l ih =>
      cases hp : p y with
      | true =>
          rw [List.find?_cons_of_pos hp, Option.any_some]
          constructor
          · intro hq
            exact ⟨[], y, l, rfl, hp, hq, fun b hb => by cases hb⟩
          · rintro ⟨before, x, after, hl, hpx, hqx, hbefore⟩
            cases before with
            | nil =>
                injection hl with hy
                rw [hy]
                exact hqx
            | cons b before =>
                injection hl with hy
                cases hq : q y with
                | true => rfl
                | false =>
                    have hpy := hbefore b (List.mem_cons_self ..)
                      (by rw [← hy, hq])
                    rw [← hy, hp] at hpy
                    cases hpy
      | false =>
          rw [List.find?_cons_of_neg (by rw [hp]; decide), ih]
          constructor
          · rintro ⟨before, x, after, rfl, hpx, hqx, hbefore⟩
            refine ⟨y :: before, x, after, rfl, hpx, hqx, fun b hb hq => ?_⟩
            rcases List.mem_cons.mp hb with rfl | hb
            · exact hp
            · exact hbefore b hb hq
          · rintro ⟨before, x, after, hl, hpx, hqx, hbefore⟩
            cases before with
            | nil =>
                injection hl with hy
                rw [hy, hpx] at hp
                cases hp
            | cons b before =>
                injection hl with hy hl
                exact ⟨before, x, after, hl, hpx, hqx,
                  fun b hb => hbefore b (List.mem_cons_of_mem _ hb)⟩

/-- The answer of `_budget_exhaustion_reason` is a hard reason exactly
when a hard limit is exhausted and not hidden. -/
theorem budgetExhaustionReason_hard_iff (now : Nat) (run : ResearchRunRow) :
    (∃ reason, budgetExhaustionReason now run = some reason
      ∧ reason.isSearchAcquisition = false)
      ↔ HardLimitUnmasked now run := by
  unfold budgetExhaustionReason
  by_cases hguard : run.usageSnapshot.modelBudgetGuarded = true
  · rw [if_pos hguard]
    exact ⟨fun _ => .guarded hguard, fun _ => ⟨.token, rfl, rfl⟩⟩
  rw [if_neg hguard]
  -- The first exhausted check decides, so a search limit hides what is
  -- behind it.
  have hfirst := find?_any_iff BudgetCheck.isExhausted
    (fun check => !check.reason.isSearchAcquisition) (budgetChecks run)
  cases hfind : (budgetChecks run).find? (·.isExhausted) with
  | some check =>
      rw [hfind, Option.any_some] at hfirst
      constructor
      · rintro ⟨reason, hreason, hhard⟩
        injection hreason with hreason
        obtain ⟨before, x, after, hchecks, hx, hq, hbefore⟩ :=
          hfirst.mp (by rw [hreason, hhard]; rfl)
        exact .limit before x after hchecks (by simpa using hq) hx
          fun b hb hsearch => hbefore b hb (by rw [hsearch]; rfl)
      · intro h
        refine ⟨check.reason, rfl, ?_⟩
        cases h with
        | guarded h => exact absurd h hguard
        | limit before x after hchecks hhard hx hunmasked =>
            have hq := hfirst.mpr ⟨before, x, after, hchecks, hx,
              by rw [hhard]; rfl,
              fun b hb hq => hunmasked b hb (by simpa using hq)⟩
            simpa using hq
        -- The deadline is checked last.
        | deadline _ hunmasked =>
            apply Bool.eq_false_iff.mpr
            intro hsearch
            have hmem := List.mem_of_find?_eq_some hfind
            have hex := List.find?_some hfind
            rw [hunmasked check hmem hsearch] at hex
            cases hex
  | none =>
      have hnone := List.find?_eq_none.mp hfind
      constructor
      · rintro ⟨reason, hreason, hhard⟩
        by_cases hdeadline : deadlinePassed now run = true
        · exact .deadline hdeadline fun b hb _ =>
            Bool.eq_false_iff.mpr (hnone b hb)
        · rw [if_neg hdeadline] at hreason
          cases hreason
      · intro h
        cases h with
        | guarded h => exact absurd h hguard
        | limit before x after hchecks _ hx _ =>
            exact absurd hx (hnone x (by simp [hchecks]))
        | deadline h _ => exact ⟨.deadline, by rw [if_pos h], rfl⟩

-- =========================================== counting an iteration

/-- The checks of a run after an iteration was counted: only the
iteration check has moved, and only up. -/
theorem budgetChecks_counted (run : ResearchRunRow)
    (outcome : AttemptOutcome) :
    ∃ before used, used ≤ (run.counted outcome).usageSnapshot.iterations
      ∧ budgetChecks run = before
        ++ [⟨.iteration, used, run.budgetSnapshot.maxIterations.getD 0⟩]
      ∧ budgetChecks (run.counted outcome) = before
        ++ [⟨.iteration, (run.counted outcome).usageSnapshot.iterations,
          run.budgetSnapshot.maxIterations.getD 0⟩] := by
  refine ⟨(budgetChecks run).dropLast, run.usageSnapshot.iterations, ?_,
    rfl, rfl⟩
  exact Nat.le_add_right _ _

/-- A check that is exhausted stays so under a larger counter. -/
theorem BudgetCheck.isExhausted_mono {reason : BudgetReason}
    {used used' maximum : Nat} (hle : used ≤ used')
    (h : (BudgetCheck.mk reason used maximum).isExhausted = true) :
    (BudgetCheck.mk reason used' maximum).isExhausted = true := by
  simp only [BudgetCheck.isExhausted, Bool.and_eq_true,
    decide_eq_true_eq] at h ⊢
  omega

/-- A limit that is in force before an iteration is counted is in force
after it. -/
theorem HardLimitUnmasked.counted {now : Nat} {run : ResearchRunRow}
    (h : HardLimitUnmasked now run) (outcome : AttemptOutcome) :
    HardLimitUnmasked now (run.counted outcome) := by
  obtain ⟨init, used, hle, hchecks, hchecks'⟩ :=
    budgetChecks_counted run outcome
  cases h with
  | guarded h => exact .guarded h
  | limit before check after hsplit hhard hexhausted hunmasked =>
      rw [hchecks] at hsplit
      rcases List.eq_nil_or_concat after with rfl | ⟨mid, last, rfl⟩
      · obtain ⟨rfl, hlast⟩ := List.append_inj' hsplit rfl
        injection hlast with hlast
        subst hlast
        exact .limit init _ [] hchecks' rfl
          (BudgetCheck.isExhausted_mono hle hexhausted) hunmasked
      · rw [List.concat_eq_append, ← List.cons_append,
          ← List.append_assoc] at hsplit
        obtain ⟨hinit, -⟩ := List.append_inj' hsplit rfl
        rw [hinit, List.append_assoc] at hchecks'
        exact .limit before check _ hchecks' hhard hexhausted hunmasked
  | deadline h hunmasked =>
      refine .deadline h fun b hb hsearch => ?_
      rw [hchecks'] at hb
      rcases List.mem_append.mp hb with hb | hb
      · exact hunmasked b (hchecks ▸ List.mem_append_left _ hb) hsearch
      · rw [List.mem_singleton.mp hb] at hsearch
        cases hsearch

-- ============================================================ the gates

section

variable {τ : Type} {now : Nat} {run : ResearchRunRow}

theorem withoutTarget_inv {result : Except Refusal RunWrite}
    {run' : ResearchRunRow} {target : Option τ}
    (h : withoutTarget result = .ok (run', target)) :
    target = none ∧ ∃ w, result = .ok w ∧ w.run = run' := by
  obtain ⟨w, hw, hpair⟩ := ok_of_map h
  injection hpair with hrun htarget
  exact ⟨htarget.symm, w, hw, hrun⟩

/-- The owner's turn to writing goes through. -/
theorem enterWriting_stops {task : TaskId} (hown : run.OwnedBy task)
    (reason : String) :
    ∃ run', withoutTarget (enterWriting task reason now run)
        = .ok (run', (none : Option τ))
      ∧ run'.phase = .writing := by
  unfold enterWriting
  rw [if_pos hown]
  exact ⟨_, rfl, rfl⟩

/-- Asking for a new plan leaves the run in research. -/
theorem requestReplan_goes_on {task : TaskId} (hown : run.OwnedBy task) :
    ¬ ∃ run', withoutTarget (requestReplan task run)
        = .ok (run', (none : Option τ))
      ∧ run'.phase = .writing := by
  rintro ⟨run', hok, hphase⟩
  obtain ⟨-, w, hw, hrun⟩ := withoutTarget_inv hok
  rw [requestReplan, if_pos hown] at hw
  cases hw
  rw [← hrun] at hphase
  cases hphase

/-- A hard limit in force ends `prepare_target` in writing, without a
target. -/
theorem HardLimitUnmasked.prepares (h : HardLimitUnmasked now run)
    (view : SchedulerView τ) {task : TaskId} (hown : run.OwnedBy task) :
    ∃ run', prepareTarget task view now run = .ok (run', none)
      ∧ run'.phase = .writing := by
  obtain ⟨reason, hreason, hhard⟩ :=
    (budgetExhaustionReason_hard_iff now run).mpr h
  have hsearch : searchAcquisitionBudgetExhausted (some reason) = false :=
    hhard
  unfold prepareTarget
  rw [if_pos hown, hreason]
  simp only [hsearch]
  exact enterWriting_stops hown _

/-- Where no hard limit is in force, the reason found is a search reason
exactly when a search acquisition limit is exhausted. -/
theorem searchAcquisitionBudgetExhausted_iff
    (h : ¬ HardLimitUnmasked now run) :
    searchAcquisitionBudgetExhausted (budgetExhaustionReason now run) = true
      ↔ run.AcquisitionExhausted := by
  have hopen := fun reason hreason =>
    not_and.mp (not_exists.mp
      (mt (budgetExhaustionReason_hard_iff now run).mp h) reason) hreason
  have hguard : ¬ run.usageSnapshot.modelBudgetGuarded = true := fun hg =>
    h (.guarded hg)
  unfold budgetExhaustionReason at hopen ⊢
  rw [if_neg hguard] at hopen ⊢
  cases hfind : (budgetChecks run).find? (·.isExhausted) with
  | some check =>
      rw [hfind] at hopen
      have hsearch : check.reason.isSearchAcquisition = true := by
        simpa using hopen check.reason rfl
      exact ⟨fun _ => ⟨check, List.mem_of_find?_eq_some hfind, hsearch,
        List.find?_some hfind⟩, fun _ => hsearch⟩
  | none =>
      have hdeadline : ¬ deadlinePassed now run = true := by
        intro hpassed
        rw [hfind] at hopen
        exact hopen .deadline (if_pos hpassed) rfl
      simp only [if_neg hdeadline]
      constructor
      · exact fun hnone => absurd hnone (by decide)
      · rintro ⟨check, hcheck, -, hexhausted⟩
        exact absurd hexhausted (List.find?_eq_none.mp hfind check hcheck)

/-- A target is handed out where the gate neither ends nor advances. -/
theorem handOutTarget_write {task : TaskId} (hown : run.OwnedBy task) :
    ∃ w, WorkerOp.handOutTarget.write now task run = .ok w :=
  ⟨_, if_pos hown⟩

/-- `prepare_target` turns to writing and hands nothing out exactly when a
hard limit is in force, or nothing is left to hand out. -/
theorem stopsPreparing_iff {task : TaskId} (hown : run.OwnedBy task)
    (view : SchedulerView τ) :
    StopsPreparing task view now run
      ↔ HardLimitUnmasked now run ∨ view.WritesAnyway run := by
  by_cases hhard : HardLimitUnmasked now run
  · exact ⟨fun _ => .inl hhard, fun _ => hhard.prepares view hown⟩
  rw [or_iff_right hhard]
  have hsearch := searchAcquisitionBudgetExhausted_iff hhard
  unfold StopsPreparing prepareTarget SchedulerView.WritesAnyway
  simp only [if_pos hown]
  split
  case h_1 reason hreason hnot =>
    -- A hard reason: excluded.
    exact absurd ((budgetExhaustionReason_hard_iff now run).mp
      ⟨reason, hreason, by rw [hreason] at hnot; exact hnot⟩) hhard
  case h_2 =>
    cases hfeedback : view.feedbackTarget with
    | some target =>
        refine ⟨?_, fun h => by cases h.1⟩
        rintro ⟨run', hok, -⟩
        cases hok
    | none =>
        cases hselected : view.selected with
        | none =>
            dsimp only
            split
            case isTrue hgaps =>
              simp only [Bool.and_eq_true, Bool.not_eq_true',
                decide_eq_true_eq] at hgaps
              obtain ⟨⟨⟨hopen, hquality⟩, hgaps⟩, hreplans⟩ := hgaps
              refine ⟨fun h => absurd h (requestReplan_goes_on hown), ?_⟩
              rintro ⟨-, hreached | hmet | hnone | hspent⟩
              · rw [hsearch.mpr hreached] at hopen
                cases hopen
              · rw [hquality] at hmet
                cases hmet
              · omega
              · omega
            case isFalse hnot =>
              refine ⟨fun _ => ⟨rfl, ?_⟩, fun _ => enterWriting_stops hown _⟩
              by_contra hnone
              simp only [not_or, Nat.not_le] at hnone
              obtain ⟨hunreached, hunmet, hgaps, hreplans⟩ := hnone
              apply hnot
              simp only [Bool.and_eq_true, Bool.not_eq_true',
                decide_eq_true_eq]
              exact ⟨⟨⟨Bool.eq_false_iff.mpr (mt hsearch.mp hunreached),
                Bool.eq_false_iff.mpr hunmet⟩, Nat.pos_of_ne_zero hgaps⟩,
                hreplans⟩
        | some selection =>
            dsimp only
            split
            case isTrue hexhausted =>
              constructor
              · rintro ⟨run', hok, hphase⟩
                cases hok
                exact ⟨rfl, hphase⟩
              · exact fun h => ⟨run, rfl, h.2⟩
            case isFalse hstrategy =>
              split
              case isTrue hspent =>
                rw [Bool.and_eq_true, Bool.not_eq_true'] at hspent
                exact ⟨fun _ => ⟨rfl, hsearch.mp hspent.1, hspent.2⟩,
                  fun _ => enterWriting_stops hown _⟩
              case isFalse hopen =>
                obtain ⟨w, hw⟩ := @handOutTarget_write now run task hown
                constructor
                · rintro ⟨run', hok, -⟩
                  rw [hw] at hok
                  cases hok
                · rintro ⟨-, hreached, hreusable⟩
                  apply absurd _ hopen
                  rw [hsearch.mpr hreached, hreusable]
                  rfl

theorem openStop_isSome_iff (searchBudgetExhausted : Bool)
    (view : EvaluationView) (run : ResearchRunRow) :
    (openStop searchBudgetExhausted view run).isSome = true
      ↔ view.qualityMet = true
        ∨ searchBudgetExhausted = false ∧ replanNeeded view run = false
          ∧ (view.informationStagnated = true
            ∨ view.qualityEnrichmentNeeded = false ∧ view.remaining = 0
              ∧ (view.unresolvedGapCount = 0
                ∨ view.sourceSpaceExhausted = true)) := by
  unfold openStop
  by_cases hquality : view.qualityMet = true
  · simp [hquality]
  rw [if_neg hquality]
  by_cases hcontinues : (searchBudgetExhausted || replanNeeded view run)
      = true
  · rw [if_pos hcontinues]
    rcases Bool.or_eq_true_iff.mp hcontinues with h | h <;>
      simp [h, hquality]
  rw [if_neg hcontinues]
  simp only [Bool.or_eq_true, not_or, Bool.not_eq_true] at hcontinues
  by_cases hstagnated : view.informationStagnated = true
  · simp [hstagnated, hcontinues]
  rw [if_neg hstagnated]
  by_cases henrich : view.qualityEnrichmentNeeded = true
  · simp [henrich, hquality, hstagnated]
  by_cases hremaining : view.remaining = 0
  · by_cases hgaps : view.unresolvedGapCount = 0
    · simp [henrich, hremaining, hgaps, hcontinues]
    · cases view.sourceSpaceExhausted <;>
        simp [henrich, hremaining, hgaps, hcontinues, hquality, hstagnated]
  · simp [hremaining, hquality, hstagnated]

/-- The decision has a reason to stop exactly when a hard limit is in
force or research ends of itself. -/
theorem decideIteration_isSome_iff {outcome : AttemptOutcome}
    (hout : outcome ≠ .deadlineExhausted) (view : EvaluationView) :
    (decideIteration outcome view now run).2.isSome = true
      ↔ HardLimitUnmasked now run ∨ view.EndsAnyway run := by
  by_cases hhard : HardLimitUnmasked now run
  · obtain ⟨reason, hreason, hsearch⟩ :=
      (budgetExhaustionReason_hard_iff now run).mpr hhard
    rw [decideIteration_hard hout hreason hsearch]
    exact ⟨fun _ => .inl hhard, fun _ => rfl⟩
  · have hopen : ∀ reason, budgetExhaustionReason now run = some reason →
        reason.isSearchAcquisition = true := by
      intro reason hreason
      by_contra hsearch
      exact hhard ((budgetExhaustionReason_hard_iff now run).mp
        ⟨reason, hreason, by simpa using hsearch⟩)
    rw [decideIteration_open hout hopen, openStop_isSome_iff,
      or_iff_right hhard, EvaluationView.EndsAnyway,
      ← searchAcquisitionBudgetExhausted_iff hhard, Bool.not_eq_true]

/-- What `finish_iteration` returns for a question that keeps its
turn. -/
theorem evaluateIteration_continues {outcome : AttemptOutcome}
    {task : TaskId} (hown : run.OwnedBy task)
    (hyields : outcome.yields = false) (view : EvaluationView) :
    ∃ run' evaluation,
      evaluateIteration task outcome view now run = .ok (run', evaluation)
        ∧ (evaluation.continueResearch = false
          ↔ (decideIteration outcome view now
              (run.counted outcome)).2.isSome = true) := by
  unfold evaluateIteration
  rw [if_neg (by rw [hyields]; decide)]
  unfold finishIteration
  simp only [if_pos hown]
  rw [if_neg (by rw [hyields]; decide)]
  refine ⟨_, _, rfl, ?_⟩
  cases (decideIteration outcome view now (run.counted outcome)).2 <;> simp

/-- `finish_iteration` does not continue exactly when the question keeps
its turn and, once the iteration is counted, the deadline ended the
attempt, a hard limit is in force or research ends of itself. -/
theorem stopsFinishing_iff {outcome : AttemptOutcome} {task : TaskId}
    (hown : run.OwnedBy task) (view : EvaluationView) :
    StopsFinishing task outcome view now run
      ↔ outcome.yields = false
        ∧ (outcome = .deadlineExhausted
          ∨ HardLimitUnmasked now (run.counted outcome)
          ∨ view.EndsAnyway (run.counted outcome)) := by
  unfold StopsFinishing
  cases hyields : outcome.yields with
  | true =>
      refine ⟨?_, fun h => by cases h.1⟩
      rintro ⟨run', evaluation, hok, hstop⟩
      unfold evaluateIteration at hok
      rw [if_pos hyields] at hok
      dsimp only at hok
      obtain ⟨w, -, hpair⟩ := ok_of_map hok
      injection hpair with _ hevaluation
      rw [← hevaluation] at hstop
      cases hstop
  | false =>
      obtain ⟨run', evaluation, hok, hstops⟩ :=
        @evaluateIteration_continues now run outcome task hown hyields view
      have hdecide : (decideIteration outcome view now
          (run.counted outcome)).2.isSome = true
          ↔ outcome = .deadlineExhausted
            ∨ HardLimitUnmasked now (run.counted outcome)
            ∨ view.EndsAnyway (run.counted outcome) := by
        by_cases hdeadline : outcome = .deadlineExhausted
        · rw [decideIteration_deadline hdeadline]
          exact ⟨fun _ => .inl hdeadline, fun _ => rfl⟩
        · rw [decideIteration_isSome_iff hdeadline, or_iff_right hdeadline]
      rw [← hdecide, ← hstops]
      constructor
      · rintro ⟨run'', evaluation', hok', hstop⟩
        rw [hok] at hok'
        injection hok' with hpair
        injection hpair with _ hevaluation
        exact ⟨rfl, hevaluation ▸ hstop⟩
      · exact fun h => ⟨run', evaluation, hok, h.2⟩

/-- A reached iteration limit that is not hidden is a hard limit in
force. -/
theorem ResearchRunRow.IterationLimitUnmasked.hardLimit
    (h : run.IterationLimitUnmasked) {maximum : Nat}
    (hmaximum : run.budgetSnapshot.maxIterations = some maximum)
    (hpos : 0 < maximum) (hreached : maximum ≤ run.usageSnapshot.iterations) :
    HardLimitUnmasked now run := by
  unfold ResearchRunRow.IterationLimitUnmasked at h
  rw [hmaximum] at h
  rcases h hreached with hguard | hunmasked
  · exact .guarded hguard
  · refine .limit (budgetChecks run).dropLast
      ⟨.iteration, run.usageSnapshot.iterations,
        run.budgetSnapshot.maxIterations.getD 0⟩ [] rfl rfl ?_
      fun b hb => hunmasked b (List.dropLast_subset _ hb)
    rw [hmaximum]
    simp only [BudgetCheck.isExhausted, Option.getD_some, Bool.and_eq_true,
      decide_eq_true_eq]
    exact ⟨hpos, hreached⟩

end

-- ============================================================= the frame

/-- Neither the iteration counter nor its limit moved. -/
structure SameIterations (run run' : ResearchRunRow) : Prop where
  iterations : run'.usageSnapshot.iterations = run.usageSnapshot.iterations
  maxIterations :
    run'.budgetSnapshot.maxIterations = run.budgetSnapshot.maxIterations

section

variable {now : Nat} {run : ResearchRunRow} {w : RunWrite}

/-- An operation that counts no iteration leaves the counter and its
limit alone. -/
theorem Moves.sameIterations {gauges : Gauges} {run' : ResearchRunRow}
    (h : Moves gauges run run')
    (hiterations : gauges.iterations = run.gauges.iterations)
    (hmax : gauges.maxIterations = run.gauges.maxIterations) :
    SameIterations run run' where
  iterations := (congrArg Gauges.iterations h.gauges).trans hiterations
  maxIterations := (congrArg Gauges.maxIterations h.gauges).trans hmax

/-- The operations of a worker other than `finish_iteration`. -/
def WorkerOp.countsIteration : WorkerOp → Bool
  | .finishIteration _ _ => true
  | _ => false

/-- The operations that count an iteration. -/
def RunOp.countsIteration : RunOp → Bool
  | .worker _ op => op.countsIteration
  | _ => false

/-- Only `finish_iteration` counts an iteration. -/
theorem WorkerOp.write_sameIterations {task : TaskId} {op : WorkerOp}
    (hop : op.countsIteration = false) (h : op.write now task run = .ok w) :
    SameIterations run w.run := by
  have hcount : (op.count run.gauges).iterations = run.gauges.iterations
      ∧ (op.count run.gauges).maxIterations = run.gauges.maxIterations := by
    cases op <;> first | exact ⟨rfl, rfl⟩ | cases hop
  exact (op.write_moves h).sameIterations hcount.1 hcount.2

/-- Only `finish_iteration` counts an iteration, among all operations on
a run. -/
theorem RunOp.write_sameIterations {op : RunOp}
    (hop : op.countsIteration = false) (h : op.write now run = .ok w) :
    SameIterations run w.run := by
  cases op with
  | worker task op => exact op.write_sameIterations hop h
  | cancel | pause | resume | acquireForExecution _ _
  | reconcileExpiredLease =>
      exact (RunOp.write_moves h).sameIterations rfl rfl

theorem RunOp.after_sameIterations {op : RunOp}
    (hop : op.countsIteration = false) (now : Nat)
    (run : ResearchRunRow) : SameIterations run (op.after now run) := by
  unfold RunOp.after
  split
  case h_1 w h => exact op.write_sameIterations hop h
  case h_2 => exact ⟨rfl, rfl⟩

/-- An operation that counts no iteration, as a write of the loop. -/
def RunOp.otherWrite (op : RunOp) (now : Nat)
    (hop : op.countsIteration = false) : OtherWrite where
  update := op.after now
  iterations run := (op.after_sameIterations hop now run).iterations
  maxIterations run := (op.after_sameIterations hop now run).maxIterations

end

-- ================================================================ the loop

section

variable {τ : Type} {now : Nat} {run run' : ResearchRunRow}

/-- No hard limit is the reason `_budget_exhaustion_reason` finds. -/
def ResearchRunRow.NoHardReason (run : ResearchRunRow) (now : Nat) : Prop :=
  ∀ reason, budgetExhaustionReason now run = some reason →
    reason.isSearchAcquisition = true

/-- What `prepare_target` did: it handed nothing out, with a step of the
scheduler or a change of phase; it handed out the feedback target and
wrote nothing; or it handed out the selected question and counted an
action. -/
inductive Prepared (now : Nat) (task : TaskId) (view : SchedulerView τ)
    (run run' : ResearchRunRow) : Option τ → Prop
  | stepped (h : run' = run) : Prepared now task view run run' none
  | turned (w : RunWrite)
      (hwrite : (∃ reason,
          WorkerOp.write now task run (.enterWriting reason) = .ok w)
        ∨ WorkerOp.write now task run .requestReplan = .ok w)
      (h : run' = w.run) : Prepared now task view run run' none
  | feedback (target : τ) (hreason : run.NoHardReason now)
      (hview : view.feedbackTarget = some target) (h : run' = run) :
      Prepared now task view run run' (some target)
  | selected (selection : Selection τ) (w : RunWrite)
      (hreason : run.NoHardReason now)
      (hfeedback : view.feedbackTarget = none)
      (hview : view.selected = some selection)
      (hstrategy : selection.strategyExhausted = false)
      (hwrite : WorkerOp.write now task run .handOutTarget = .ok w)
      (h : run' = w.run) :
      Prepared now task view run run' (some selection.target)

/-- The ways out of `prepare_target`. -/
theorem prepareTarget_cases {task : TaskId} {view : SchedulerView τ}
    {target : Option τ}
    (h : prepareTarget task view now run = .ok (run', target)) :
    run.OwnedBy task ∧ Prepared now task view run run' target := by
  have hwriting : ∀ {reason : String},
      withoutTarget (enterWriting task reason now run)
        = .ok (run', target) → Prepared now task view run run' target := by
    intro reason h
    obtain ⟨rfl, w, hw, hrun⟩ := withoutTarget_inv h
    exact .turned w (Or.inl ⟨reason, hw⟩) hrun.symm
  unfold prepareTarget at h
  dsimp only at h
  split at h
  case isFalse => cases h
  case isTrue hown =>
    refine ⟨hown, ?_⟩
    split at h
    case h_1 => exact hwriting h
    case h_2 hnothard =>
      -- Past the gate only a search limit can be exhausted.
      have hreason : run.NoHardReason now := by
        intro reason heq
        by_contra hsearch
        have hsearch := Bool.eq_false_iff.mpr hsearch
        exact hnothard reason heq (by rw [heq]; exact hsearch)
      split at h
      case h_1 _ feedback hview =>
        injection h with h
        injection h with hrun htarget
        rw [← htarget]
        exact .feedback feedback hreason hview hrun.symm
      case h_2 =>
        split at h
        case isTrue =>
          obtain ⟨rfl, w, hw, hrun⟩ := withoutTarget_inv h
          exact .turned w (Or.inr hw) hrun.symm
        case isFalse => exact hwriting h
      case h_3 selection hfeedback hview =>
        split at h
        case isTrue =>
          injection h with h
          injection h with hrun htarget
          rw [← htarget]
          exact .stepped hrun.symm
        case isFalse hstrategy =>
          split at h
          case isTrue => exact hwriting h
          case isFalse =>
            obtain ⟨w, hw, hpair⟩ := ok_of_map h
            injection hpair with hrun htarget
            rw [← htarget]
            exact .selected selection w hreason hfeedback hview
              (Bool.eq_false_iff.mpr hstrategy) hw hrun.symm

/-- What `prepare_target` leaves: the run's owner was at work, and the
iteration counter stays. -/
theorem prepareTarget_inv {task : TaskId} {view : SchedulerView τ}
    {target : Option τ}
    (h : prepareTarget task view now run = .ok (run', target)) :
    run.OwnedBy task ∧ SameIterations run run' := by
  obtain ⟨hown, hprepared⟩ := prepareTarget_cases h
  refine ⟨hown, ?_⟩
  cases hprepared with
  | stepped hrun | feedback target _ _ hrun =>
      rw [hrun]
      exact ⟨rfl, rfl⟩
  | turned w hwrite hrun =>
      rw [hrun]
      obtain ⟨reason, hw⟩ | hw := hwrite
      · exact WorkerOp.write_sameIterations rfl hw
      · exact WorkerOp.write_sameIterations rfl hw
  | selected selection w _ _ _ _ hw hrun =>
      rw [hrun]
      exact WorkerOp.write_sameIterations rfl hw

/-- An evaluation counts at most one iteration. -/
theorem evaluateIteration_inv {task : TaskId} {outcome : AttemptOutcome}
    {view : EvaluationView} {evaluation : IterationEvaluation}
    (h : evaluateIteration task outcome view now run
      = .ok (run', evaluation)) :
    run'.usageSnapshot.iterations ≤ run.usageSnapshot.iterations + 1
      ∧ run'.budgetSnapshot.maxIterations
        = run.budgetSnapshot.maxIterations := by
  unfold evaluateIteration at h
  dsimp only at h
  obtain ⟨w, hw, hpair⟩ := ok_of_map h
  injection hpair with hrun _
  subst hrun
  unfold finishIteration at hw
  split at hw
  case isFalse => cases hw
  case isTrue =>
    split at hw
    case isTrue =>
      injection hw with hw
      subst hw
      exact ⟨Nat.le_succ _, rfl⟩
    case isFalse =>
      injection hw with hw
      subst hw
      refine ⟨?_, rfl⟩
      show run.usageSnapshot.iterations
        + (if researchAttemptConsumesIteration outcome then 1 else 0) ≤ _
      split <;> omega

/-- The invariant of the loop: the counter is within the limit, and
below it while a target is in hand. -/
structure LoopState.RoomLeft (maximum : Nat) (s : LoopState τ) : Prop where
  limit : s.run.budgetSnapshot.maxIterations = some maximum
  within : s.run.usageSnapshot.iterations ≤ maximum
  inHand : s.inHand.isSome → s.run.usageSnapshot.iterations < maximum

/-- Whatever keeps the counter and takes up no target keeps the
invariant. -/
theorem LoopState.RoomLeft.of_same {maximum : Nat} {s : LoopState τ}
    (hroom : s.RoomLeft maximum) {inHand : Option τ}
    (hsame : SameIterations s.run run')
    (hinHand : inHand.isSome → s.run.usageSnapshot.iterations < maximum) :
    LoopState.RoomLeft maximum ⟨run', inHand⟩ where
  limit := hsame.maxIterations.trans hroom.limit
  within := by
    show run'.usageSnapshot.iterations ≤ maximum
    rw [hsame.iterations]
    exact hroom.within
  inHand h := by
    show run'.usageSnapshot.iterations < maximum
    rw [hsame.iterations]
    exact hinHand h

/-- A step that does not hide a reached limit keeps the invariant. -/
theorem LoopState.RoomLeft.step {maximum : Nat} (hpos : 0 < maximum)
    (s : LoopState τ) (a : LoopAction τ) (hroom : s.RoomLeft maximum)
    (hunmasked : s.Unmasked a) : (s.step a).RoomLeft maximum := by
  cases a with
  | prepareTarget task view now =>
      unfold LoopState.step
      dsimp only
      split
      case h_2 => exact hroom
      case h_1 run' target hprepare =>
        obtain ⟨hown, hsame⟩ := prepareTarget_inv hprepare
        refine hroom.of_same hsame fun htarget => ?_
        -- A target is only handed out while the limit is not reached.
        by_contra hreached
        have hhard : HardLimitUnmasked now s.run :=
          ResearchRunRow.IterationLimitUnmasked.hardLimit hunmasked
            hroom.limit hpos (Nat.le_of_not_lt hreached)
        obtain ⟨run'', hnone, -⟩ := hhard.prepares view hown
        rw [hprepare] at hnone
        injection hnone with hnone
        injection hnone with _ hnone
        rw [hnone] at htarget
        cases htarget
  | finishIteration task outcome view now =>
      unfold LoopState.step
      dsimp only
      split
      case h_1 => exact hroom
      case h_2 target hinHand =>
        split
        case h_2 => exact hroom
        case h_1 run' evaluation hevaluate =>
          obtain ⟨hcount, hmax⟩ := evaluateIteration_inv hevaluate
          have hlt := hroom.inHand (by rw [hinHand]; rfl)
          exact {
            limit := hmax.trans hroom.limit
            within := Nat.le_trans hcount hlt
            inHand := fun h => by cases h }
  | write write =>
      exact hroom.of_same
        ⟨write.iterations s.run, write.maxIterations s.run⟩ hroom.inHand
  | restart =>
      exact hroom.of_same ⟨rfl, rfl⟩ fun h => by cases h

/-- A counter within a positive limit passes the check of the state. -/
theorem LoopState.RoomLeft.withinIterations {maximum : Nat}
    (hpos : 0 < maximum) {s : LoopState τ} (hroom : s.RoomLeft maximum) :
    s.WithinIterations := by
  unfold LoopState.WithinIterations iterationBudgetExceeded
  rw [hroom.limit]
  refine ⟨hroom.within, ?_⟩
  have hwithin := hroom.within
  simp only [Option.getD_some, if_neg (Nat.ne_of_gt hpos),
    decide_eq_false_iff_not]
  omega

end

-- ======================================================== the main result

/-- `prepare_target` turns to writing and hands nothing out exactly when a
hard limit is in force that no search acquisition limit hides, or nothing
is left to hand out; `finish_iteration` does not continue exactly when
the question keeps its turn and, once the iteration is counted, the
deadline ended the attempt, such a limit is in force or research ends of
itself. A limit in force stays so when the iteration is counted. Along
every run of the loop in which the iteration limit is not hidden from
`prepare_target` once it is reached, the counter keeps to its limit and
the check of `ResearchState` accepts it. -/
theorem hard_limits_stop_research (τ : Type) :
    (∀ now (run : ResearchRunRow) task, run.OwnedBy task →
        (∀ view : SchedulerView τ, StopsPreparing task view now run
          ↔ HardLimitUnmasked now run ∨ view.WritesAnyway run)
        ∧ ∀ outcome view, StopsFinishing task outcome view now run
          ↔ outcome.yields = false
            ∧ (outcome = .deadlineExhausted
              ∨ HardLimitUnmasked now (run.counted outcome)
              ∨ view.EndsAnyway (run.counted outcome)))
      ∧ (∀ now run outcome, HardLimitUnmasked now run →
        HardLimitUnmasked now (run.counted outcome))
      ∧ ∀ s as, (loopSystem τ).init s →
        (loopSystem τ).Along LoopState.Unmasked s as →
        (loopSystem τ).Throughout LoopState.WithinIterations s as := by
  refine ⟨fun now run task hown => ⟨stopsPreparing_iff hown,
    fun outcome view => stopsFinishing_iff hown view⟩,
    fun now run outcome h => h.counted outcome, fun s as hinit halong => ?_⟩
  obtain ⟨hfree, maximum, hlimit, hpos, hwithin⟩ := hinit
  have hroom : s.RoomLeft maximum :=
    { limit := hlimit, within := hwithin
      inHand := fun h => by rw [hfree] at h; cases h }
  have hkeep := halong.throughout
    (fun s a => LoopState.RoomLeft.step hpos s a) hroom
  exact hkeep.mono fun _ h => h.withinIterations hpos

-- ================================================================= a sample

/-- The task that owns the sample runs. -/
def sampleLoopTask : TaskId := ⟨sampleRunId, .start, 1⟩

/-- A run with all of its three iterations used, and two provider
requests used out of `maxProviderRequests`. -/
def spentRun (maxProviderRequests : Nat) : ResearchRunRow where
  status := .running
  phase := .researching
  budgetSnapshot :=
    { maxIterations := some 3
      maxProviderRequests := some maxProviderRequests }
  usageSnapshot := { searchProviderRequests := 2, iterations := 3 }
  workerTaskId := some sampleLoopTask
  createdAt := 0
  updatedAt := 0

/-- A question with cached work is selected. -/
def cachedWork : SchedulerView Unit where
  selected := some
    { target := (), strategyExhausted := false, hasReusable := true }

/-- One iteration on cached work. -/
def cachedIteration : List (LoopAction Unit) :=
  [.prepareTarget sampleLoopTask cachedWork 1,
    .finishIteration sampleLoopTask .evidenceGained {} 2]

/-- With provider requests left the reached iteration limit ends both
gates, and the counter stays. -/
theorem hard_limits_stop_research_sample :
    StopsPreparing sampleLoopTask cachedWork 1 (spentRun 5)
      ∧ StopsFinishing sampleLoopTask .evidenceGained {} 1 (spentRun 5)
      ∧ (loopSystem Unit).Throughout LoopState.WithinIterations
        ⟨spentRun 5, none⟩ cachedIteration := by
  have hhard : HardLimitUnmasked 1 (spentRun 5) :=
    .limit (budgetChecks (spentRun 5)).dropLast _ [] rfl rfl rfl (by decide)
  obtain ⟨hgates, hcounted, hruns⟩ := hard_limits_stop_research Unit
  obtain ⟨hprepares, hfinishes⟩ :=
    hgates 1 (spentRun 5) sampleLoopTask ⟨rfl, rfl⟩
  exact ⟨(hprepares cachedWork).mpr (.inl hhard),
    (hfinishes .evidenceGained {}).mpr
      ⟨rfl, .inr (.inl (hcounted 1 _ _ hhard))⟩,
    hruns _ _ ⟨rfl, 3, rfl, by decide, by decide⟩ (by decide)⟩

/-- With the provider requests exhausted as well, the reached iteration
limit is hidden: a target is handed out, research continues, and the
counter passes its limit. -/
theorem search_limit_hides_iteration_limit :
    (∃ check ∈ budgetChecks (spentRun 2),
        check.reason = .iteration ∧ check.isExhausted = true)
      ∧ (∃ run', prepareTarget sampleLoopTask cachedWork 1 (spentRun 2)
        = .ok (run', some ()))
      ∧ (∃ run' evaluation,
        evaluateIteration sampleLoopTask .evidenceGained {} 1 (spentRun 2)
            = .ok (run', evaluation)
          ∧ evaluation.continueResearch = true)
      ∧ (loopSystem Unit).init ⟨spentRun 2, none⟩
      ∧ iterationBudgetExceeded
          ((loopSystem Unit).exec ⟨spentRun 2, none⟩ cachedIteration).run
        = true := by
  refine ⟨⟨⟨.iteration, 3, 3⟩, by decide, rfl, rfl⟩, ⟨_, rfl⟩, ⟨_, _, rfl, rfl⟩,
    ⟨rfl, 3, rfl, by decide, by decide⟩, by decide⟩

end DeepResearch.Run
