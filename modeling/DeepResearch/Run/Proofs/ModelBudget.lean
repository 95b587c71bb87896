/-
When a stop of the token guard ends research.

`evidence_model_budget` answers `stop_run` in two places. Where the pools
cannot pay for the call it also sets the persisted guard, and everything
after it follows: the guard is the first thing `_budget_exhaustion_reason`
looks at, no write takes it back, so `finish_iteration` does not continue
and `prepare_target` hands nothing out. Where the call is larger than a
call may be it answers the same and sets nothing, and `finish_iteration`
goes on unless it finds a reason of its own (`StopsAnyway`).
-/
import DeepResearch.Run.ModelBudget
import DeepResearch.Run.Proofs.CallAllocation
import DeepResearch.Run.Proofs.Ledger
import DeepResearch.Run.Proofs.SearchBudget

namespace DeepResearch.Run

open Transition

-- =========================================================== statements

/-- A call of `evidence_model_budget` that may be made at all, or finds
the guard set. -/
def TokenLedger.Affordable (ledger : TokenLedger)
    (call : EvidenceBudgetCall) : Prop :=
  call.effectiveMinimum ≤ maximumCall ledger.run.budgetSnapshot
    ∨ ledger.Guarded

instance (ledger : TokenLedger) (call : EvidenceBudgetCall) :
    Decidable (ledger.Affordable call) :=
  inferInstanceAs (Decidable (_ ∨ _))

/-- Every call the owner makes is affordable in this sense. -/
def GuardState.AsksAffordable (s : GuardState) : GuardAction → Prop
  | .evidenceModelBudget workerTaskId call _ _ =>
      s.working = true → s.ledger.run.OwnedBy workerTaskId →
        s.ledger.Affordable call
  | _ => True

instance (s : GuardState) : ∀ a, Decidable (s.AsksAffordable a)
  | .evidenceModelBudget _ _ _ _ => inferInstanceAs (Decidable (_ → _ → _))
  | .prepareTarget _ _ _ => inferInstanceAs (Decidable True)
  | .finishIteration _ _ _ _ => inferInstanceAs (Decidable True)
  | .write _ => inferInstanceAs (Decidable True)
  | .restart => inferInstanceAs (Decidable True)

/-- Research did not go on after a stop: no iteration was continued and
no target handed out. -/
def GuardState.StopBinds (s : GuardState) : Prop :=
  s.wentOn = false

instance (s : GuardState) : Decidable s.StopBinds :=
  inferInstanceAs (Decidable (_ = _))

/-- `finish_iteration` has a reason of its own to stop: a hard limit, the
quality, or, while searches are left, stagnation or nothing left to do. -/
def EvaluationView.StopsAnyway (view : EvaluationView) (now : Nat)
    (run : ResearchRunRow) : Prop :=
  HardLimitUnmasked now run ∨ view.qualityMet = true
    ∨ (searchAcquisitionBudgetExhausted (budgetExhaustionReason now run)
          = false
      ∧ replanNeeded view run = false
      ∧ (view.informationStagnated = true
        ∨ view.qualityEnrichmentNeeded = false ∧ view.remaining = 0
          ∧ (view.unresolvedGapCount = 0
            ∨ view.sourceSpaceExhausted = true)))

/-- The call is answered with a stop that changes nothing, and the
`finish_iteration` of the attempt does not continue exactly when it has a
reason of its own. -/
def TokenLedger.StopOverruled (ledger : TokenLedger) (task : TaskId)
    (call : EvidenceBudgetCall) (view : EvidenceBudgetView) (now : Nat) :
    Prop :=
  (∃ answer, evidenceModelBudget task call view now ledger
      = .ok (answer, ledger) ∧ answer.outcome = .stopRun)
    ∧ ∀ (evaluated : EvaluationView) (later : Nat), ∃ run' evaluation,
      evaluateIteration task .stopRun evaluated later ledger.run
          = .ok (run', evaluation)
        ∧ (evaluation.continueResearch = false
          ↔ evaluated.StopsAnyway later (ledger.run.counted .stopRun))

-- ============================================================= the answers

section

variable {task : TaskId} {call : EvidenceBudgetCall}
  {view : EvidenceBudgetView} {now : Nat} {ledger ledger' : TokenLedger}
  {answer : EvidenceModelBudget}

/-- What `allocate_research_call` answers. An execution can pay for the
call and for the seats it keeps back. -/
theorem allocateResearchCall_cases {available eligible other attempts
    minimum maximum : Nat} {decision : ResearchBudgetDecision}
    (h : allocateResearchCall available eligible other attempts minimum
      maximum = .ok decision) :
    0 < minimum ∧ minimum ≤ maximum
      ∧ (decision.outcome = .stopRun ∧ available < minimum
        ∨ decision.outcome = .yieldQuestion ∧ 0 < attempts ∧ 0 < other
        ∨ decision.outcome = .execute ∧ minimum ≤ decision.callTokens
          ∧ decision.callTokens ≤ maximum
          ∧ decision.callTokens + decision.futureReserve ≤ available) := by
  have hcall := h
  unfold allocateResearchCall at h
  split at h
  case isTrue => cases h
  case isFalse hbounds =>
    push Not at hbounds
    have hpos : 0 < minimum := Nat.pos_of_ne_zero hbounds.1
    refine ⟨hpos, hbounds.2, ?_⟩
    split at h
    case isTrue hshort =>
      injection h with h
      rw [← h]
      exact .inl ⟨rfl, hshort⟩
    case isFalse hpays =>
      split at h
      case isTrue hyields =>
        injection h with h
        rw [← h]
        exact .inr (.inl ⟨rfl, hyields⟩)
      case isFalse =>
        have hexecute : decision.outcome = .execute := by
          injection h with h
          rw [← h]
        exact .inr (.inr ⟨hexecute, ResearchCall.grants_natCast hcall hexecute⟩)

/-- What `evidence_model_budget` answers: a stop that writes nothing, for
a call larger than any may be; a stop that sets the guard, where the
pools cannot pay; or an execution within what the pools can pay. -/
inductive Answered (call : EvidenceBudgetCall) (view : EvidenceBudgetView)
    (now : Nat) (ledger ledger' : TokenLedger)
    (answer : EvidenceModelBudget) : Prop
  | oversized
      (hcall : maximumCall ledger.run.budgetSnapshot < call.effectiveMinimum)
      (hstop : answer.outcome = .stopRun) (hrefused : answer.allowed = false)
      (hledger : ledger' = ledger)
  | unaffordable
      (hcall : call.effectiveMinimum ≤ maximumCall ledger.run.budgetSnapshot)
      (hpools : researchAvailable view now ledger < call.effectiveMinimum)
      (hstop : answer.outcome = .stopRun) (hrefused : answer.allowed = false)
      (hguard : ledger'.Guarded)
  | execute (hexecute : answer.outcome = .execute)
      (hallowed : answer.allowed = true)
      (hcovers : call.effectiveMinimum ≤ answer.maxCallTokens)
      (hcapped : answer.maxCallTokens
        ≤ maximumCall ledger.run.budgetSnapshot)
      (hpays : answer.maxCallTokens ≤ researchAvailable view now ledger)
      (hguard : ledger'.run.usageSnapshot.modelBudgetGuarded
        = ledger.run.usageSnapshot.modelBudgetGuarded)

theorem evidenceModelBudget_cases
    (h : evidenceModelBudget task call view now ledger
      = .ok (answer, ledger')) :
    ledger.run.OwnedBy task
      ∧ Answered call view now ledger ledger' answer := by
  unfold evidenceModelBudget at h
  dsimp only at h
  split at h
  case isFalse => cases h
  case isTrue hown =>
    refine ⟨hown, ?_⟩
    split at h
    case isTrue hcall =>
      injection h with h
      injection h with hanswer hledger
      rw [← hanswer]
      exact .oversized hcall rfl rfl hledger.symm
    case isFalse hcall =>
      split at h
      case h_1 => cases h
      case h_2 decision hdecision =>
        injection h with h
        injection h with hanswer hledger
        obtain ⟨-, -, hcases⟩ := allocateResearchCall_cases hdecision
        rw [← hanswer, ← hledger]
        rcases hcases with ⟨hstop, hshort⟩ | ⟨-, -, hother⟩
          | ⟨hexecute, hcovers, hcapped, hpays⟩
        · refine .unaffordable (Nat.le_of_not_lt hcall) hshort hstop ?_ ?_
          · show (decision.outcome == .execute) = false
            rw [hstop]
            rfl
          · show (_ || decision.outcome == .stopRun) = true
            rw [hstop]
            exact Bool.or_true _
        -- No other question is asked about, so none has to be waited for.
        · exact absurd hother (Nat.lt_irrefl 0)
        · refine .execute hexecute ?_ hcovers hcapped
            (Nat.le_trans (Nat.le_add_right _ _) hpays) ?_
          · show (decision.outcome == .execute) = true
            rw [hexecute]
            rfl
          · show (_ || decision.outcome == .stopRun) = _
            rw [hexecute]
            exact Bool.or_false _

/-- Asking writes the token total and the guard, and nothing else. -/
theorem evidenceModelBudget_ledger
    (h : evidenceModelBudget task call view now ledger
      = .ok (answer, ledger')) :
    ∃ tokens guarded, ledger' = ledger.setUsage
      { ledger.run.usageSnapshot with
        modelTokens := tokens
        modelBudgetGuarded := guarded } := by
  unfold evidenceModelBudget at h
  dsimp only at h
  split at h
  case isFalse => cases h
  case isTrue =>
    split at h
    case isTrue =>
      injection h with h
      injection h with _ hledger
      exact ⟨_, _, hledger.symm⟩
    case isFalse =>
      split at h
      case h_1 => cases h
      case h_2 =>
        injection h with h
        injection h with _ hledger
        exact ⟨_, _, hledger.symm⟩

/-- The smallest call takes tokens. -/
theorem EvidenceBudgetCall.effectiveMinimum_pos (call : EvidenceBudgetCall) :
    0 < call.effectiveMinimum := by
  unfold EvidenceBudgetCall.effectiveMinimum
  split
  case h_1 => decide
  case h_2 minimum _ =>
    have hone : 1 ≤ max 1 minimum := Int.le_max_left 1 minimum
    omega

/-- The bounds it passes on are valid: only a lost lease raises. -/
theorem evidenceModelBudget_total (call : EvidenceBudgetCall)
    (view : EvidenceBudgetView) (now : Nat)
    (hown : ledger.run.OwnedBy task) :
    ∃ answer ledger',
      evidenceModelBudget task call view now ledger
        = .ok (answer, ledger') := by
  have hpos := Nat.ne_of_gt call.effectiveMinimum_pos
  unfold evidenceModelBudget
  simp only [if_pos hown]
  split
  case isTrue => exact ⟨_, _, rfl⟩
  case isFalse hcall =>
    have hbounds : ¬ (call.effectiveMinimum = 0
        ∨ maximumCall ledger.run.budgetSnapshot < call.effectiveMinimum) :=
      fun h => h.elim hpos hcall
    unfold allocateResearchCall
    rw [if_neg hbounds]
    split
    case h_1 heq =>
      split at heq
      case isTrue => cases heq
      case isFalse => split at heq <;> cases heq
    case h_2 => exact ⟨_, _, rfl⟩

/-- Asking never takes back the guard. -/
theorem Answered.guarded (h : Answered call view now ledger ledger' answer)
    (hguard : ledger.Guarded) : ledger'.Guarded := by
  cases h with
  | oversized _ _ _ hledger =>
      rw [hledger]
      exact hguard
  | unaffordable _ _ _ _ hset => exact hset
  | execute _ _ _ _ _ hsame => exact hsame.trans hguard

/-- An affordable call that is answered with a stop leaves the guard
set. -/
theorem Answered.stop_guarded
    (h : Answered call view now ledger ledger' answer)
    (haffordable : ledger.Affordable call)
    (hstop : answer.outcome = .stopRun) : ledger'.Guarded := by
  cases h with
  | oversized hcall _ _ hledger =>
      rw [hledger]
      exact haffordable.resolve_left (Nat.not_le_of_lt hcall)
  | unaffordable _ _ _ _ hset => exact hset
  | execute hexecute =>
      rw [hexecute] at hstop
      cases hstop

end

-- ============================================================ other writes

section

variable {ledger : TokenLedger} {now : Nat}

theorem RunOp.after_guarded (op : RunOp) (now : Nat) {run : ResearchRunRow}
    (hguard : run.usageSnapshot.modelBudgetGuarded = true) :
    (op.after now run).usageSnapshot.modelBudgetGuarded = true := by
  unfold RunOp.after
  split
  case h_1 w h => exact (RunOp.write_moves h).guarded hguard
  case h_2 => exact hguard

/-- No operation on the run takes back the guard. -/
def RunOp.guardWrite (op : RunOp) (now : Nat) : GuardWrite where
  update ledger := { ledger with run := op.after now ledger.run }
  guarded _ hguard := op.after_guarded now hguard

/-- Recording a search leaves the guard alone. -/
def searchGuardWrite (target : ResearchTarget) (outcome : SearchOutcome) :
    GuardWrite where
  update ledger :=
    ledger.setUsage (recordSearch target outcome ledger.run.usageSnapshot)
  guarded ledger hguard := by
    show (recordSearch target outcome
      ledger.run.usageSnapshot).modelBudgetGuarded = true
    obtain ⟨_, _, _, hwrites⟩ :=
      recordSearch_writes target outcome ledger.run.usageSnapshot
    rw [hwrites]
    exact hguard

theorem LedgerAction.step_guarded (a : LedgerAction)
    (hguard : ledger.Guarded) : (ledger.step a).Guarded := by
  have hwrite := ledger.step_write a
  generalize ledger.step a = s' at hwrite ⊢
  cases hwrite with
  | none => exact hguard
  | grants request borrow hop hpos hfresh hdenial => exact hguard
  | charges charged hcharged hop => exact hcharged.guard.trans hguard
  | settles charged hcharged id amount estimated hop hamount =>
      rcases settleReservationRow_cases charged id amount estimated a.now
        with ⟨hsame, -⟩ | ⟨row, -, -, hs'⟩
      · rw [hsame]
        exact hcharged.guard.trans hguard
      · rw [hs']
        exact hcharged.guard.trans hguard
  | changes charged hcharged id change hop hcharge hchange =>
      rcases changeReserved_cases charged id change with
        hsame | ⟨row, -, -, hs'⟩
      · rw [hsame]
        exact hcharged.guard.trans hguard
      · rw [hs']
        exact hcharged.guard.trans hguard
  | replans replanned budgets hop hrows husage hbudget =>
      have hkept := congrArg (·.modelBudgetGuarded) husage
      exact hkept.trans hguard

/-- No operation on the token ledger takes back the guard. -/
def LedgerAction.guardWrite (a : LedgerAction) : GuardWrite where
  update ledger := ledger.step a
  guarded _ hguard := a.step_guarded hguard

end

-- ============================================================ the invariant

/-- After an answered stop the guard is set and research has not gone
on. -/
structure GuardState.Held (s : GuardState) : Prop where
  guarded : s.stopAnswered = true → s.ledger.Guarded
  binds : s.wentOn = false

section

variable {s : GuardState}

/-- With the guard set, `prepare_target` hands nothing out. -/
theorem prepareTarget_guarded {τ : Type} {view : SchedulerView τ}
    {task : TaskId} {now : Nat} {run run' : ResearchRunRow}
    {target : Option τ}
    (hguard : run.usageSnapshot.modelBudgetGuarded = true)
    (h : prepareTarget task view now run = .ok (run', target)) :
    target = none := by
  obtain ⟨hown, -⟩ := prepareTarget_cases h
  obtain ⟨run'', hnone, -⟩ :=
    (HardLimitUnmasked.guarded hguard).prepares view hown
  rw [hnone] at h
  injection h with h
  injection h with _ htarget
  exact htarget.symm

/-- With the guard set, an iteration that is evaluated does not
continue. -/
theorem evaluateIteration_guarded {task : TaskId}
    {outcome : AttemptOutcome} {view : EvaluationView} {now : Nat}
    {run run' : ResearchRunRow} {evaluation : IterationEvaluation}
    (hguard : run.usageSnapshot.modelBudgetGuarded = true)
    (hyields : outcome.yields = false)
    (h : evaluateIteration task outcome view now run
      = .ok (run', evaluation)) : evaluation.continueResearch = false := by
  have hown : run.OwnedBy task := by
    unfold evaluateIteration at h
    dsimp only at h
    obtain ⟨w, hw, -⟩ := ok_of_map h
    unfold finishIteration at hw
    split at hw
    case isTrue hown => exact hown
    case isFalse => cases hw
  have hlimit : HardLimitUnmasked now (run.counted outcome) :=
    .guarded hguard
  obtain ⟨run'', evaluation', hstops, hfalse⟩ :=
    (stopsFinishing_iff hown view).mpr ⟨hyields, .inr (.inl hlimit)⟩
  rw [hstops] at h
  injection h with h
  injection h with _ hevaluation
  rw [← hevaluation]
  exact hfalse

theorem prepareTarget_keeps_guard {τ : Type} {view : SchedulerView τ}
    {task : TaskId} {now : Nat} {run run' : ResearchRunRow}
    {target : Option τ}
    (h : prepareTarget task view now run = .ok (run', target))
    (hguard : run.usageSnapshot.modelBudgetGuarded = true) :
    run'.usageSnapshot.modelBudgetGuarded = true := by
  obtain ⟨-, hprepared⟩ := prepareTarget_cases h
  cases hprepared with
  | stepped hrun | feedback target _ _ hrun =>
      rw [hrun]
      exact hguard
  | turned w hwrite hrun =>
      rw [hrun]
      obtain ⟨reason, hw⟩ | hw := hwrite
      · exact (WorkerOp.write_moves hw).guarded hguard
      · exact (WorkerOp.write_moves hw).guarded hguard
  | selected selection w _ _ _ _ hw hrun =>
      rw [hrun]
      exact (WorkerOp.write_moves hw).guarded hguard

theorem evaluateIteration_keeps_guard {task : TaskId}
    {outcome : AttemptOutcome} {view : EvaluationView} {now : Nat}
    {run run' : ResearchRunRow} {evaluation : IterationEvaluation}
    (h : evaluateIteration task outcome view now run
      = .ok (run', evaluation))
    (hguard : run.usageSnapshot.modelBudgetGuarded = true) :
    run'.usageSnapshot.modelBudgetGuarded = true := by
  unfold evaluateIteration at h
  dsimp only at h
  obtain ⟨w, hw, hpair⟩ := ok_of_map h
  injection hpair with hrun _
  rw [← hrun]
  have hfinish : WorkerOp.write now task run (.finishIteration outcome _)
    = .ok w := hw
  exact (WorkerOp.write_moves hfinish).guarded hguard

/-- A step that asks for affordable calls only keeps the invariant. -/
theorem GuardState.Held.step (a : GuardAction) (hheld : s.Held)
    (haffordable : s.AsksAffordable a) : (s.step a).Held := by
  cases a with
  | prepareTarget task view now =>
      unfold GuardState.step
      dsimp only
      split
      case h_1 run target hprepare =>
        -- A target was handed out, so no stop had been answered.
        have hfresh : s.stopAnswered = false := by
          by_contra hstop
          have hguard := hheld.guarded (Bool.not_eq_false _ ▸ hstop)
          cases prepareTarget_guarded hguard hprepare
        exact
          { guarded := fun h => by
              rw [show s.stopAnswered = true from h] at hfresh
              cases hfresh
            binds := by
              show (s.wentOn || s.stopAnswered) = false
              rw [hheld.binds, hfresh]
              rfl }
      case h_2 run hprepare =>
        exact
          { guarded := fun h =>
              prepareTarget_keeps_guard hprepare (hheld.guarded h)
            binds := hheld.binds }
      case h_3 => exact hheld
  | evidenceModelBudget task call view now =>
      unfold GuardState.step
      dsimp only
      split
      case isFalse => exact hheld
      case isTrue hworking =>
        split
        case h_2 => exact hheld
        case h_1 answer ledger hanswer =>
          obtain ⟨hown, hcases⟩ := evidenceModelBudget_cases hanswer
          refine { guarded := fun h => ?_, binds := hheld.binds }
          have h : (s.stopAnswered || answer.outcome == .stopRun) = true := h
          rcases Bool.or_eq_true_iff.mp h with hbefore | hnow
          · exact hcases.guarded (hheld.guarded hbefore)
          · exact hcases.stop_guarded (haffordable hworking hown)
              (beq_iff_eq.mp hnow)
  | finishIteration task outcome view now =>
      unfold GuardState.step
      dsimp only
      split
      case isFalse => exact hheld
      case isTrue hends =>
        split
        case h_2 => exact hheld
        case h_1 run evaluation hevaluate =>
          refine
            { guarded := fun h =>
                evaluateIteration_keeps_guard hevaluate (hheld.guarded h)
              binds := ?_ }
          show (s.wentOn || (s.stopAnswered && evaluation.continueResearch))
            = false
          rw [hheld.binds, Bool.false_or]
          cases hstop : s.stopAnswered with
          | false => rfl
          | true =>
              have hyields : outcome.yields = false := by
                by_contra hyields
                exact hends.2 ⟨hstop, Bool.not_eq_false _ ▸ hyields⟩
              rw [evaluateIteration_guarded (hheld.guarded hstop) hyields
                hevaluate]
              rfl
  | write write =>
      exact
        { guarded := fun h => write.guarded _ (hheld.guarded h)
          binds := hheld.binds }
  | restart => exact { guarded := hheld.guarded, binds := hheld.binds }

end

-- ========================================================= a stop overruled

/-- A reason of its own, in terms of the limits of the run. -/
theorem EvaluationView.stopsAnyway_iff (view : EvaluationView) (now : Nat)
    (run : ResearchRunRow) :
    view.StopsAnyway now run
      ↔ HardLimitUnmasked now run ∨ view.EndsAnyway run := by
  unfold EvaluationView.StopsAnyway EvaluationView.EndsAnyway
  by_cases hhard : HardLimitUnmasked now run
  · exact ⟨fun _ => .inl hhard, fun _ => .inl hhard⟩
  · rw [← searchAcquisitionBudgetExhausted_iff hhard, Bool.not_eq_true]

/-- What `finish_iteration` returns after a stop. -/
theorem evaluateIteration_stopRun_iff {task : TaskId} {run : ResearchRunRow}
    (hown : run.OwnedBy task) (view : EvaluationView) (now : Nat) :
    ∃ run' evaluation,
      evaluateIteration task .stopRun view now run = .ok (run', evaluation)
        ∧ (evaluation.continueResearch = false
          ↔ view.StopsAnyway now (run.counted .stopRun)) := by
  rw [view.stopsAnyway_iff,
    ← decideIteration_isSome_iff (by decide : AttemptOutcome.stopRun ≠ _)]
  exact evaluateIteration_continues hown rfl view

/-- A call that is not affordable is answered with a stop that may be
overruled. -/
theorem TokenLedger.stopOverruled {ledger : TokenLedger} {task : TaskId}
    {call : EvidenceBudgetCall} (hown : ledger.run.OwnedBy task)
    (hcall : ¬ ledger.Affordable call) (view : EvidenceBudgetView)
    (now : Nat) : ledger.StopOverruled task call view now := by
  have hlarge : ¬ call.effectiveMinimum
      ≤ maximumCall ledger.run.budgetSnapshot := fun hle =>
    hcall (Or.inl hle)
  obtain ⟨answer, ledger', hanswer⟩ :=
    evidenceModelBudget_total call view now hown
  refine ⟨?_, evaluateIteration_stopRun_iff hown⟩
  cases (evidenceModelBudget_cases hanswer).2 with
  | oversized _ hstop _ hledger =>
      rw [hledger] at hanswer
      exact ⟨answer, hanswer, hstop⟩
  | unaffordable hle => exact absurd hle hlarge
  | execute _ _ hcovers hcapped =>
      exact absurd (Nat.le_trans hcovers hcapped) hlarge

-- ======================================================== the main result

/-- In every run whose calls of `evidence_model_budget` are affordable, a
stop binds: no iteration is continued and no target handed out after it.
Any other call is answered with a stop that changes nothing, and the
iteration it ends continues exactly when `finish_iteration` finds no
reason of its own. -/
theorem stop_run_binds_when_affordable (s : GuardState)
    (as : List GuardAction) :
    (guardSystem.init s →
        guardSystem.Along GuardState.AsksAffordable s as →
        guardSystem.Throughout GuardState.StopBinds s as)
      ∧ ∀ (ledger : TokenLedger) task call view now,
        ledger.run.OwnedBy task → ¬ ledger.Affordable call →
        ledger.StopOverruled task call view now := by
  refine ⟨fun hinit halong => ?_,
    fun ledger task call view now hown hcall =>
      TokenLedger.stopOverruled hown hcall view now⟩
  have hheld : s.Held :=
    { guarded := fun h => by
        rw [hinit.1] at h
        cases h
      binds := hinit.2 }
  have hstep : ∀ (t : GuardState) (a : GuardAction), t.Held →
      t.AsksAffordable a → (t.step a).Held := fun _ a ht haffordable =>
    ht.step a haffordable
  exact (halong.throughout hstep hheld).mono fun _ h => h.binds

-- ================================================================= a sample

/-- A run of a hundred thousand tokens, whose calls may take 12 000. -/
def freshBudgetRun : TokenLedger where
  run :=
    { status := .running
      phase := .researching
      budgetSnapshot := { maxTokens := some 100000 }
      workerTaskId := some sampleLoopTask
      createdAt := 0
      updatedAt := 0 }

/-- A question is selected, asks for a call and is answered; its
iteration ends. -/
def askedIteration (minimumCall : Int) : List GuardAction :=
  [.prepareTarget sampleLoopTask
      { selected := some
          { target := (), strategyExhausted := false, hasReusable := false } }
      1,
    .evidenceModelBudget sampleLoopTask { minimumCall := some minimumCall }
      {} 1,
    .finishIteration sampleLoopTask .stopRun { remaining := 1 } 2]

/-- The run with nearly all of its tokens used. -/
def spentBudgetRun : TokenLedger where
  run :=
    { freshBudgetRun.run with usageSnapshot := { modelTokens := 95000 } }

/-- The call of an affordable size finds nothing left, so its stop holds
when the next target is asked for. -/
theorem stop_run_binds_when_affordable_sample :
    (guardSystem.exec ⟨spentBudgetRun, false, false, false⟩
        (askedIteration 9000)).stopAnswered = true
      ∧ guardSystem.Throughout GuardState.StopBinds
        ⟨spentBudgetRun, false, false, false⟩
        (askedIteration 9000 ++ askedIteration 9000)
      ∧ freshBudgetRun.StopOverruled sampleLoopTask
        { minimumCall := some 12001 } {} 1 :=
  have sample := stop_run_binds_when_affordable
    ⟨spentBudgetRun, false, false, false⟩
    (askedIteration 9000 ++ askedIteration 9000)
  ⟨by decide, sample.1 ⟨rfl, rfl⟩ (by decide),
    sample.2 freshBudgetRun _ _ _ _ ⟨rfl, rfl⟩ (by decide)⟩

/-- A question whose smallest call needs 12 001 tokens is answered
`stop_run`, and research goes on. -/
theorem oversized_call_goes_on :
    guardSystem.init ⟨freshBudgetRun, false, false, false⟩
      ∧ (∃ answer, evidenceModelBudget sampleLoopTask
          { minimumCall := some 12001 } {} 1 freshBudgetRun
            = .ok (answer, freshBudgetRun)
          ∧ answer.outcome = .stopRun)
      ∧ ¬ guardSystem.Throughout GuardState.StopBinds
        ⟨freshBudgetRun, false, false, false⟩ (askedIteration 12001) := by
  refine ⟨⟨rfl, rfl⟩, ⟨_, rfl, rfl⟩, by decide⟩

end DeepResearch.Run
