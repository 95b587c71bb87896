/-
When page and extraction reservations do not outlive their owner.

The slot operations themselves keep the total and the per-worker
breakdown together: each changes both by the same amount. What breaks
the ledger is the end of an execution. `pause`, `cancel`, reconciliation,
an expired takeover and `fail_no_evidence` leave every reservation
counted; the two deferrals and `fail_execution` clear the page total and
neither the breakdown nor the extraction slots; `acquire_for_execution`
clears nothing.

So the ledger is sound on the runs that release before they end: where
every operation that takes a RUNNING run away from its execution finds
no slot reserved (`ReleasedBeforeEnd`), the total is the sum of the
breakdown in every state, and every acquisition starts from an empty
ledger.
-/
import DeepResearch.Run.Proofs.Commit
import DeepResearch.Run.Proofs.Effects

namespace DeepResearch.Run

-- =========================================================== statements

/-- Nothing is reserved. -/
def NoSlots (usage : UsageSnapshot) : Prop :=
  usage.pageSlotsReserved = 0 ∧ usage.extractionSlotsReserved = 0

instance (usage : UsageSnapshot) : Decidable (NoSlots usage) :=
  inferInstanceAs (Decidable (_ ∧ _))

/-- The page total is the sum of the breakdown. -/
def SlotsAgree (usage : UsageSnapshot) : Prop :=
  usage.pageSlotsReserved
    = Counters.total usage.pageSlotsReservedByWorker

instance (usage : UsageSnapshot) : Decidable (SlotsAgree usage) :=
  inferInstanceAs (Decidable (_ = _))

/-- The worker operations that end the execution of a run that may run
again. -/
def WorkerOp.endsExecution (now : Nat) (run : ResearchRunRow) :
    WorkerOp → Bool
  | .interruptForPendingPlanner | .failExecution _ => true
  | .deferRetryableModelError _ _ =>
      (Transport.model.retryDelay now run).isSome
  | .deferRetryableSearchError _ _ =>
      (Transport.search.retryDelay now run).isSome
  | .failNoEvidence => run.phase = .writing
  | _ => false

/-- The operation takes a RUNNING run away from its execution, and the
run may run again. -/
def RunOp.EndsExecution (now : Nat) (run : ResearchRunRow) : RunOp → Prop
  | .cancel | .pause => run.status = .running
  | .resume => False
  | .acquireForExecution _ _ | .reconcileExpiredLease =>
      run.status = .running ∧ run.leaseExpired now
  | .worker task op => run.OwnedBy task ∧ op.endsExecution now run

instance (now : Nat) (run : ResearchRunRow) :
    ∀ op : RunOp, Decidable (op.EndsExecution now run)
  | .cancel | .pause => inferInstanceAs (Decidable (_ = _))
  | .resume => inferInstanceAs (Decidable False)
  | .acquireForExecution _ _ | .reconcileExpiredLease =>
      inferInstanceAs (Decidable (_ ∧ _))
  | .worker _ _ => inferInstanceAs (Decidable (_ ∧ _))

/-- Whoever ends an execution finds all its slots settled or released. -/
def Database.ReleasedBeforeEnd (db : Database) : Nat × DatabaseOp → Prop
  | (now, .run runId op) => (db.runs runId).all fun run =>
      op.EndsExecution now run → NoSlots run.usageSnapshot
  | _ => True

instance (db : Database) : ∀ a, Decidable (db.ReleasedBeforeEnd a)
  | (_, .run _ _) => inferInstanceAs (Decidable (_ = true))
  | (_, .create _ _) | (_, .claimBatch _ _ _) | (_, .markPublished _)
  | (_, .markRetry _ _) => inferInstanceAs (Decidable True)

/-- An acquisition that starts an execution leaves no reservation of an
earlier one counted. -/
def Database.AcquiresClean (db : Database) (a : Nat × DatabaseOp) :
    Prop :=
  ∀ runId task lease run w,
    a.2 = .run runId (.acquireForExecution task lease) →
    db.runs runId = some run →
    acquireForExecution task lease a.1 run = .ok w →
    NoSlots w.run.usageSnapshot

/-- Every run's page total is the sum of its breakdown. -/
def Database.SlotsAgree (db : Database) : Prop :=
  db.AllRuns fun run => Run.SlotsAgree run.usageSnapshot

-- ====================================================== the slot operations

section

variable {usage : UsageSnapshot} {task : TaskId}

/-- Changing a worker's share changes the sum by as much. -/
theorem total_setOwnedPageSlots (owners : AList fun _ : TaskId => Nat)
    (task : TaskId) (left : Nat) :
    Counters.total (setOwnedPageSlots owners task left)
        + Counters.count owners task
      = Counters.total owners + left := by
  unfold setOwnedPageSlots
  split
  case isTrue h =>
    rw [h, Counters.total_erase]
    rfl
  case isFalse => exact Counters.total_insert owners task left

theorem SlotsAgree.reserve (h : SlotsAgree usage) (budget : BudgetSnapshot)
    (requested : Nat) (fresh : Bool) :
    SlotsAgree (reservePageSlots budget usage task requested fresh) := by
  unfold reservePageSlots
  simp only
  split
  case isTrue => exact h
  case isFalse =>
    have hinsert := Counters.total_insert usage.pageSlotsReservedByWorker
      task (ownedPageSlots usage task
        + (pageSlotGrant budget usage requested fresh).granted)
    simp only [SlotsAgree, ownedPageSlots] at h hinsert ⊢
    omega

theorem SlotsAgree.settle (h : SlotsAgree usage) :
    SlotsAgree (settlePageSlot usage task) := by
  unfold settlePageSlot
  by_cases hnil : usage.pageSlotsReservedByWorker.entries = []
  · have htotal : Counters.total usage.pageSlotsReservedByWorker = 0 :=
      Counters.weigh_of_entries_nil id hnil
    simp only [SlotsAgree, hnil, if_true] at h ⊢
    omega
  · have hset := total_setOwnedPageSlots usage.pageSlotsReservedByWorker
      task (ownedPageSlots usage task
        - min 1 (ownedPageSlots usage task))
    have hle := Counters.count_le_total usage.pageSlotsReservedByWorker task
    simp only [SlotsAgree, if_neg hnil, ownedPageSlots] at h hset ⊢
    omega

theorem SlotsAgree.fetched (h : SlotsAgree usage) (reused : Bool)
    (latency : Nat) :
    SlotsAgree (recordPageFetched usage task reused latency) :=
  h.settle

theorem SlotsAgree.failed (h : SlotsAgree usage) (latency : Nat) :
    SlotsAgree (recordPageFailure usage task latency) :=
  h.settle

theorem SlotsAgree.release (h : SlotsAgree usage) (count : Nat) :
    SlotsAgree (releasePageSlots usage task count) := by
  unfold releasePageSlots
  by_cases hnil : usage.pageSlotsReservedByWorker.entries = []
  · have htotal : Counters.total usage.pageSlotsReservedByWorker = 0 :=
      Counters.weigh_of_entries_nil id hnil
    simp only [SlotsAgree, hnil, if_true] at h ⊢
    omega
  · have hset := total_setOwnedPageSlots usage.pageSlotsReservedByWorker
      task (ownedPageSlots usage task
        - min count (ownedPageSlots usage task))
    have hle := Counters.count_le_total usage.pageSlotsReservedByWorker task
    simp only [SlotsAgree, if_neg hnil, ownedPageSlots] at h hset ⊢
    omega

/-- Recording a model outcome leaves the page ledger alone. -/
theorem SlotsAgree.extraction (h : SlotsAgree usage)
    (call : Option TokenUsage) :
    SlotsAgree (recordExtractionFailure usage call) := by
  cases call <;> exact h

end

-- ========================================================= the invariant

/-- Total and breakdown agree, and a run without an execution that may
run again holds nothing. -/
structure SlotInv (run : ResearchRunRow) : Prop where
  agree : SlotsAgree run.usageSnapshot
  idle : run.status ≠ .running → run.status.isCompleted = false →
    NoSlots run.usageSnapshot

section

variable {now : Nat} {run : ResearchRunRow} {w : RunWrite}

/-- A write that keeps the execution going and the ledger sound. -/
theorem SlotInv.of_running (hstatus : w.run.status = .running)
    (hagree : SlotsAgree w.run.usageSnapshot) : SlotInv w.run :=
  ⟨hagree, fun hn => absurd hstatus hn⟩

/-- An empty ledger whose page total is cleared is empty. -/
theorem SlotInv.of_empty (hinv : SlotInv run)
    (hempty : NoSlots run.usageSnapshot)
    (hpages : w.run.usageSnapshot.pageSlotsReserved = 0
      ∨ w.run.usageSnapshot.pageSlotsReserved
        = run.usageSnapshot.pageSlotsReserved)
    (howners : w.run.usageSnapshot.pageSlotsReservedByWorker
      = run.usageSnapshot.pageSlotsReservedByWorker)
    (hextraction : w.run.usageSnapshot.extractionSlotsReserved
      = run.usageSnapshot.extractionSlotsReserved) : SlotInv w.run := by
  have hzero : w.run.usageSnapshot.pageSlotsReserved = 0 := by
    rcases hpages with h | h
    · exact h
    · rw [h]
      exact hempty.1
  refine ⟨?_, fun _ _ => ⟨hzero, hextraction.trans hempty.2⟩⟩
  have hagree := hinv.agree
  simp only [SlotsAgree, howners] at hagree ⊢
  rw [hzero, ← hagree]
  exact hempty.1.symm

/-- Before a run is queued or runs again nothing is reserved: it was
idle, or the guard says so. -/
theorem SlotInv.empty_of_guard (hinv : SlotInv run)
    (hcompleted : run.status.isCompleted = false)
    (hguard : run.status = .running → NoSlots run.usageSnapshot) :
    NoSlots run.usageSnapshot := by
  by_cases hrun : run.status = .running
  · exact hguard hrun
  · exact hinv.idle hrun hcompleted

/-- `acquire_for_execution` keeps every slot counter as it is. -/
theorem acquire_slots {task : TaskId} {lease : Nat}
    (h : acquireForExecution task lease now run = .ok w) :
    w.run.usageSnapshot.pageSlotsReserved
        = run.usageSnapshot.pageSlotsReserved
      ∧ w.run.usageSnapshot.pageSlotsReservedByWorker
        = run.usageSnapshot.pageSlotsReservedByWorker
      ∧ w.run.usageSnapshot.extractionSlotsReserved
        = run.usageSnapshot.extractionSlotsReserved := by
  unfold acquireForExecution at h
  obtain ⟨-, hw⟩ := ok_of_refusal h
  injection hw with hw
  subst hw
  simp only [acquireUsage]
  split <;> exact ⟨rfl, rfl, rfl⟩

/-- Under the guard an acquisition finds, and leaves, an empty ledger. -/
theorem SlotInv.acquire_empty (hinv : SlotInv run) {task : TaskId}
    {lease : Nat} (h : acquireForExecution task lease now run = .ok w)
    (hguard : (RunOp.acquireForExecution task lease).EndsExecution now run →
      NoSlots run.usageSnapshot) : NoSlots run.usageSnapshot := by
  rcases (acquireForExecution_acquires h).free with hq | hexpired
  · exact hinv.idle (by rw [hq]; decide) (by rw [hq]; rfl)
  · exact hguard hexpired

/-- A worker's write of usage keeps the invariant when it keeps the
ledger sound. -/
theorem SlotInv.writeUsage (hinv : SlotInv run) {task : TaskId}
    {update : UsageSnapshot → UsageSnapshot}
    (hupdate : SlotsAgree run.usageSnapshot →
      SlotsAgree (update run.usageSnapshot))
    (h : Run.writeUsage task update run = .ok w) : SlotInv w.run := by
  unfold Run.writeUsage at h
  obtain ⟨hown, rfl⟩ := ok_of_guard h
  exact SlotInv.of_running hown.1 (hupdate hinv.agree)

/-- A deferral clears the page total only; it is sound on an empty
ledger. -/
theorem SlotInv.defer (hinv : SlotInv run) {transport : Transport}
    {task : TaskId} {code : String} {detail : Option String}
    (hguard : run.OwnedBy task ∧ (transport.retryDelay now run).isSome →
      NoSlots run.usageSnapshot)
    (h : deferRetryableError transport task code detail now run = .ok w) :
    SlotInv w.run := by
  unfold deferRetryableError at h
  split at h
  case isFalse => cases h
  case isTrue hown =>
    split at h
    case h_1 => cases h
    case h_2 delay hdelay =>
      injection h with hw
      subst hw
      have hempty := hguard ⟨hown, by rw [hdelay]; rfl⟩
      cases transport <;>
        exact hinv.of_empty hempty (.inl rfl) rfl rfl

/-- A worker's operation keeps the invariant under the guard. -/
theorem SlotInv.workerWrite (hinv : SlotInv run) {task : TaskId}
    {op : WorkerOp}
    (hguard : run.OwnedBy task ∧ op.endsExecution now run →
      NoSlots run.usageSnapshot)
    (h : op.write now task run = .ok w) : SlotInv w.run := by
  cases op with
  | renewExecutionLease lease =>
      simp only [WorkerOp.write, Run.renewExecutionLease] at h
      obtain ⟨hown, rfl⟩ := ok_of_guard h
      exact SlotInv.of_running hown.1.1 hinv.agree
  | saveGeneratedPlan usage budgets =>
      simp only [WorkerOp.write, Run.saveGeneratedPlan] at h
      obtain ⟨hown, rfl⟩ := ok_of_guard h
      exact SlotInv.of_running hown.1 hinv.agree
  | saveGapResolutionPlan =>
      simp only [WorkerOp.write, Run.saveGapResolutionPlan] at h
      obtain ⟨hown, rfl⟩ := ok_of_guard h
      exact SlotInv.of_running hown.1.1 hinv.agree
  | saveReplannedQuestions budgets =>
      simp only [WorkerOp.write, Run.saveReplannedQuestions] at h
      obtain ⟨hown, rfl⟩ := ok_of_guard h
      exact SlotInv.of_running hown.1.1 hinv.agree
  | interruptForPendingPlanner =>
      simp only [WorkerOp.write, Run.interruptForPendingPlanner] at h
      obtain ⟨hown, rfl⟩ := ok_of_guard h
      exact hinv.of_empty (hguard ⟨hown, rfl⟩) (.inr rfl) rfl rfl
  | recordModelRetry =>
      simp only [WorkerOp.write, Run.recordModelRetry] at h
      obtain ⟨hown, rfl⟩ := ok_of_guard h
      exact SlotInv.of_running hown.1 hinv.agree
  | deferRetryableModelError code detail => exact hinv.defer hguard h
  | deferRetryableSearchError code detail => exact hinv.defer hguard h
  | failExecution code =>
      simp only [WorkerOp.write, Run.failExecution] at h
      obtain ⟨hown, rfl⟩ := ok_of_guard h
      exact hinv.of_empty (hguard ⟨hown, rfl⟩) (.inl rfl) rfl rfl
  | reservePageSlots requested fresh =>
      simp only [WorkerOp.write] at h
      exact hinv.writeUsage (fun ha => ha.reserve _ _ _) h
  | recordPageFetched reused latency =>
      simp only [WorkerOp.write] at h
      exact hinv.writeUsage (fun ha => ha.fetched _ _) h
  | recordPageFailure latency =>
      simp only [WorkerOp.write] at h
      exact hinv.writeUsage (fun ha => ha.failed _) h
  | releasePageSlots count =>
      simp only [WorkerOp.write] at h
      exact hinv.writeUsage (fun ha => ha.release _) (ok_of_refusal h).2
  | reserveExtractionSlot =>
      simp only [WorkerOp.write] at h
      exact hinv.writeUsage id (ok_of_refusal h).2
  | releaseExtractionSlot =>
      simp only [WorkerOp.write] at h
      exact hinv.writeUsage id h
  | recordPage usage hit =>
      simp only [WorkerOp.write] at h
      exact hinv.writeUsage id h
  | recordExtractionFailure usage =>
      simp only [WorkerOp.write] at h
      exact hinv.writeUsage (fun ha => ha.extraction _) h
  | enterWriting reason =>
      simp only [WorkerOp.write, Run.enterWriting] at h
      obtain ⟨hown, rfl⟩ := ok_of_guard h
      exact SlotInv.of_running rfl hinv.agree
  | requestReplan =>
      simp only [WorkerOp.write, Run.requestReplan] at h
      obtain ⟨hown, rfl⟩ := ok_of_guard h
      exact SlotInv.of_running hown.1 hinv.agree
  | handOutTarget =>
      simp only [WorkerOp.write] at h
      exact hinv.writeUsage id h
  | finishIteration outcome reason =>
      simp only [WorkerOp.write, Run.finishIteration] at h
      split at h
      case isFalse => cases h
      case isTrue hown =>
        split at h
        case isTrue =>
          injection h with hw
          subst hw
          exact SlotInv.of_running hown.1 hinv.agree
        case isFalse =>
          injection h with hw
          subst hw
          exact SlotInv.of_running rfl hinv.agree
  | saveReport writer limited =>
      simp only [WorkerOp.write, Run.saveReport] at h
      obtain ⟨-, rfl⟩ := ok_of_guard h
      refine ⟨hinv.agree, fun _ hopen => ?_⟩
      -- A completed run never runs again.
      cases limited <;> cases hopen
  | failNoEvidence =>
      simp only [WorkerOp.write, Run.failNoEvidence] at h
      obtain ⟨hlease, rfl⟩ := ok_of_guard h
      have hends : WorkerOp.endsExecution now run .failNoEvidence = true :=
        decide_eq_true hlease.2
      exact hinv.of_empty (hguard ⟨hlease.1, hends⟩) (.inr rfl) rfl rfl

/-- Every committed operation keeps the invariant under the guard. -/
theorem SlotInv.write (hinv : SlotInv run) {op : RunOp}
    (hguard : op.EndsExecution now run → NoSlots run.usageSnapshot)
    (h : op.write now run = .ok w) : SlotInv w.run := by
  cases op with
  | cancel =>
      simp only [RunOp.write, Run.cancel] at h
      obtain ⟨hopen, hw⟩ := ok_of_refusal h
      injection hw with hw
      subst hw
      have hempty := hinv.empty_of_guard
        (by revert hopen; cases run.status <;> decide) hguard
      exact hinv.of_empty hempty (.inr rfl) rfl rfl
  | pause =>
      simp only [RunOp.write, Run.pause] at h
      obtain ⟨hopen, hw⟩ := ok_of_refusal h
      injection hw with hw
      subst hw
      have hempty := hinv.empty_of_guard
        (by revert hopen; cases run.status <;> decide) hguard
      exact hinv.of_empty hempty (.inr rfl) rfl rfl
  -- Only a run that stands still is resumed, and such a run has no slots.
  | resume =>
      simp only [RunOp.write, Run.resume] at h
      obtain ⟨-, h⟩ := ok_of_refusal h
      obtain ⟨hfrom, rfl⟩ := ok_of_guard h
      have hempty : NoSlots run.usageSnapshot := by
        rcases hfrom with hs | hs | hs <;>
          exact hinv.idle (by rw [hs]; decide) (by rw [hs]; rfl)
      exact hinv.of_empty hempty (.inr rfl) rfl rfl
  | acquireForExecution task lease =>
      have hempty := hinv.acquire_empty h hguard
      obtain ⟨hpages, howners, hextraction⟩ := acquire_slots h
      exact hinv.of_empty hempty (.inr hpages) howners hextraction
  | reconcileExpiredLease =>
      simp only [RunOp.write, Run.reconcileExpiredLease] at h
      obtain ⟨hexpired, rfl⟩ := ok_of_guard h
      exact hinv.of_empty (hguard hexpired) (.inr rfl) rfl rfl
  | worker task op => exact hinv.workerWrite hguard h

end

-- ================================================================ the runs

variable {db : Database}

/-- A fresh run reserves nothing. -/
theorem SlotInv.create (budget : BudgetSnapshot) (now : Nat) :
    SlotInv (createWrite budget now).run :=
  ⟨rfl, fun _ _ => ⟨rfl, rfl⟩⟩

/-- The guard, for the run of the step. -/
theorem Database.ReleasedBeforeEnd.of_run {now : Nat} {runId : RunId}
    {op : RunOp} {run : ResearchRunRow}
    (hguard : db.ReleasedBeforeEnd (now, .run runId op))
    (hrun : db.runs runId = some run) :
    op.EndsExecution now run → NoSlots run.usageSnapshot := by
  simp only [Database.ReleasedBeforeEnd, hrun, Option.all_some,
    decide_eq_true_eq] at hguard
  exact hguard

/-- A step that releases before it ends an execution keeps the invariant
of every run. -/
theorem allRuns_slotInv_step (hinv : db.AllRuns SlotInv)
    {a : Nat × DatabaseOp} (hguard : db.ReleasedBeforeEnd a) :
    (databaseSystem.step db a).AllRuns SlotInv := by
  obtain ⟨now, a⟩ := a
  intro runId run' hrun'
  rcases Database.step_run hrun' with
    hsame | ⟨-, budget, -, rfl⟩ | ⟨run, op, w, rfl, hrun, hw, rfl⟩
  · exact hinv runId run' hsame
  · exact SlotInv.create budget now
  · exact (hinv runId run hrun).write (hguard.of_run hrun) hw

/-- Under the same guard a step that acquires starts from an empty
ledger. -/
theorem acquiresClean_of_released (hinv : db.AllRuns SlotInv)
    {a : Nat × DatabaseOp} (hguard : db.ReleasedBeforeEnd a) :
    db.AcquiresClean a := by
  obtain ⟨now, a⟩ := a
  intro runId task lease run w ha hrun hw
  simp only at ha
  subst ha
  have hempty := (hinv runId run hrun).acquire_empty hw (hguard.of_run hrun)
  obtain ⟨hpages, -, hextraction⟩ := acquire_slots hw
  exact ⟨hpages.trans hempty.1, hextraction.trans hempty.2⟩

/-- In every run of the database whose operations find all slots settled
or released when they end an execution, each run's page total is the sum
of its per-worker breakdown in every state, and every acquisition that
starts an execution leaves no page or extraction reservation of an
earlier one counted. -/
theorem slots_do_not_outlive_owner (as : List (Nat × DatabaseOp))
    (h : databaseSystem.Along Database.ReleasedBeforeEnd {} as) :
    databaseSystem.Throughout Database.SlotsAgree {} as
      ∧ databaseSystem.Along Database.AcquiresClean {} as := by
  have hinit : Database.AllRuns SlotInv {} := fun _ _ hrun => by cases hrun
  have hkeep : ∀ db a, Database.AllRuns SlotInv db →
      db.ReleasedBeforeEnd a →
      (databaseSystem.step db a).AllRuns SlotInv :=
    fun _ _ hinv hguard => allRuns_slotInv_step hinv hguard
  have hruns := h.throughout hkeep hinit
  refine ⟨hruns.mono fun db hinv runId run hrun =>
    (hinv runId run hrun).agree, ?_⟩
  exact h.along_of_throughout hruns
    fun _ _ hinv hguard => acquiresClean_of_released hinv hguard

-- ============================================================ two short runs

/-- A worker acquires a run and reserves one page slot. -/
def pageReserved : List (Nat × DatabaseOp) :=
  [(0, .create sampleRunId { maxPages := some 10 }),
    (1, .run sampleRunId
      (.acquireForExecution ⟨sampleRunId, .start, 1⟩ 900)),
    (2, .run sampleRunId (.worker ⟨sampleRunId, .start, 1⟩
      (.reservePageSlots 1 false)))]

/-- It settles its page and defers, and the worker of the retry takes over
and reserves pages of its own. -/
def handedOver : List (Nat × DatabaseOp) :=
  pageReserved ++
    [(3, .run sampleRunId (.worker ⟨sampleRunId, .start, 1⟩
        (.recordPageFailure 5))),
      (4, .run sampleRunId (.worker ⟨sampleRunId, .start, 1⟩
        (.deferRetryableModelError "MODEL_TIMEOUT" none))),
      (5, .run sampleRunId
        (.acquireForExecution ⟨sampleRunId, .modelRetry, 3⟩ 900)),
      (6, .run sampleRunId (.worker ⟨sampleRunId, .modelRetry, 3⟩
        (.reservePageSlots 2 false)))]

/-- A worker that settles its page before it defers leaves a clean
ledger to the next one, which has acquired the run at the end. -/
theorem slots_clean_after_settlement :
    ((databaseSystem.exec {} handedOver).runs sampleRunId).map
        (fun run => (run.workerTaskId, run.usageSnapshot.pageSlotsReserved))
      = some (some ⟨sampleRunId, .modelRetry, 3⟩, 2)
    ∧ databaseSystem.Throughout Database.SlotsAgree {} handedOver
    ∧ databaseSystem.Along Database.AcquiresClean {} handedOver :=
  ⟨by decide, slots_do_not_outlive_owner _ (by decide)⟩

/-- A worker that defers with a page still reserved does not: the total
is cleared, its share in the breakdown is not. -/
theorem deferral_keeps_breakdown :
    ¬ ∀ as, databaseSystem.Throughout Database.SlotsAgree {} as
      ∧ databaseSystem.Along Database.AcquiresClean {} as := by
  intro hclaim
  have hlast := (hclaim (pageReserved ++
    [(3, .run sampleRunId (.worker ⟨sampleRunId, .start, 1⟩
      (.deferRetryableModelError "MODEL_TIMEOUT" none)))] ++ [])).1.after_run
  exact absurd (hlast sampleRunId _ rfl) (by decide)

end DeepResearch.Run
