/-
The writer's share is protected.

Every grant to another node leaves the verification, safety and writer
reserves available, and a settlement only makes more available. So the
budget account stays within the maximum less the reserves along every
run without writer calls, and the writer's pool stays empty: the first
request for at most the writer's initial tokens meets every check.
-/
import DeepResearch.Run.BudgetShares
import DeepResearch.Run.Proofs.Ledger

namespace DeepResearch.Run

-- =========================================================== statements

/-- The tokens kept for the writer, verification and safety. -/
def Allocation.reserves (allocation : Allocation) : Nat :=
  allocation.writerTokensInitial.getD 0
    + allocation.verificationTokens.getD 0
    + allocation.safetyTokens.getD 0

/-- A run with `maxTokens`, the pools allocated for it and any question
budgets, that has charged and reserved nothing. -/
structure TokenLedger.IsAllocated (ledger : TokenLedger)
    (maxTokens : Nat) : Prop where
  maximum : ledger.run.budgetSnapshot.maxTokens = some maxTokens
  allocation : ∃ budgets, budgets.lookup "__writer__" = none
    ∧ ledger.run.budgetSnapshot.allocation
      = { allocateBudgetShares maxTokens with
          questionTokenBudgets := budgets }
  tokens : modelTokens ledger.run.usageSnapshot = 0
  reservations : ledger.reservations = ∅

/-- A disciplined step that reserves, if it does, for the planner,
research or verification. The questions of a plan are numbered, so none
is the writer's. -/
structure TokenLedger.BeforeWriter (ledger : TokenLedger)
    (a : LedgerAction) : Prop where
  disciplined : ledger.Disciplined a
  pools : ∀ request ∈ a.op.request,
    modelTokenPoolForNode request.node
      ∈ [ModelTokenPool.planner, .research, .verification]
  questions : ∀ budgets ∈ a.op.questionBudgets,
    budgets.lookup "__writer__" = none

instance (ledger : TokenLedger) (a : LedgerAction) :
    Decidable (ledger.BeforeWriter a) :=
  decidable_of_iff
    (ledger.Disciplined a
      ∧ (∀ request ∈ a.op.request, modelTokenPoolForNode request.node
        ∈ [ModelTokenPool.planner, .research, .verification])
      ∧ ∀ budgets ∈ a.op.questionBudgets,
        budgets.lookup "__writer__" = none)
    ⟨fun ⟨hd, hp, hq⟩ => ⟨hd, hp, hq⟩, fun ⟨hd, hp, hq⟩ => ⟨hd, hp, hq⟩⟩

/-- The reserves of all three are still available. -/
def TokenLedger.ReservesAvailable (ledger : TokenLedger) : Prop :=
  ∀ now, ledger.run.budgetSnapshot.allocation.reserves
    ≤ ledger.available now

/-- The writer's first request, for at most its initial tokens, is
granted, whatever the borrow gate would say. -/
def TokenLedger.GrantsWriter (ledger : TokenLedger) : Prop :=
  ∀ task request borrow now, ledger.run.OwnedBy task →
    request.node = "report_writer" → request.questionId = "__writer__" →
    ledger.reservations.lookup request.attemptId = none →
    0 < request.requested →
    request.requested
      ≤ ledger.run.budgetSnapshot.allocation.writerTokensInitial.getD 0 →
    ∃ ledger', reserveModelTokens task request borrow now ledger = .ok
      ({ granted := true, reservedTotal := request.requested
         status := .row .reserved }, ledger')

-- ============================================================== the pools

section

variable (maxTokens : Nat)

/-- The five pools share out the whole budget. -/
theorem allocateBudgetShares_total :
    (allocateBudgetShares maxTokens).plannerTokens.getD 0
      + (allocateBudgetShares maxTokens).researchTokens.getD 0
      + (allocateBudgetShares maxTokens).reserves = maxTokens := by
  simp only [allocateBudgetShares, Allocation.reserves, Option.getD_some]
  -- The rounding of the percentages plays no part.
  generalize fivePercent maxTokens = five
  generalize tenPercent maxTokens = ten
  generalize fifteenPercent maxTokens = fifteen
  by_cases hzero : maxTokens = 0
  · rw [if_pos hzero, if_pos hzero]
    omega
  · rw [if_neg hzero, if_neg hzero]
    omega

/-- The reserves are part of the budget. -/
theorem allocateBudgetShares_reserves_le :
    (allocateBudgetShares maxTokens).reserves ≤ maxTokens := by
  have htotal := allocateBudgetShares_total maxTokens
  omega

end

-- =========================================================== the invariant

/-- No reservation counts in the writer's pool. -/
def TokenLedger.NoWriterRow (ledger : TokenLedger) : Prop :=
  ∀ attemptId row, ledger.reservations.lookup attemptId = some row →
    modelTokenPoolForNode row.node ≠ .writer

/-- The limits are those of the start, the budget account keeps the
reserves free, and the writer's pool is empty. -/
structure WriterInv (maxTokens : Nat) (s : TokenLedger) : Prop where
  maximum : s.run.budgetSnapshot.maxTokens = some maxTokens
  allocation : ∃ budgets, budgets.lookup "__writer__" = none
    ∧ s.run.budgetSnapshot.allocation
      = { allocateBudgetShares maxTokens with
          questionTokenBudgets := budgets }
  budget : s.budgetAccount.Within
    (maxTokens - (allocateBudgetShares maxTokens).reserves)
  noWriterRow : s.NoWriterRow

section

variable {maxTokens : Nat} {s : TokenLedger} {a : LedgerAction}

theorem WriterInv.maximum_eq (h : WriterInv maxTokens s) :
    s.maximum = maxTokens := by
  rw [TokenLedger.maximum, h.maximum]
  rfl

theorem WriterInv.reserves_eq (h : WriterInv maxTokens s) :
    s.run.budgetSnapshot.allocation.reserves
      = (allocateBudgetShares maxTokens).reserves := by
  obtain ⟨budgets, -, hallocation⟩ := h.allocation
  rw [hallocation]
  rfl

/-- The start. -/
theorem WriterInv.init (h : s.IsAllocated maxTokens) :
    WriterInv maxTokens s := by
  refine ⟨h.maximum, h.allocation, ?_, fun attemptId row hrow => ?_⟩
  · have hheld : s.budgetAccount.held = 0 := by
      show Counters.weigh _ s.reservations = 0
      rw [h.reservations]
      rfl
    have hspent : s.budgetAccount.spent = 0 := h.tokens
    unfold Escrow.Account.Within
    omega
  · rw [h.reservations] at hrow
    cases hrow

/-- Without the second writer field, any other node must leave all three
reserves. -/
theorem protectedReserve_eq_reserves {allocation : Allocation}
    {node : String} (hsecond : allocation.writerTokens = none)
    (hnode : node ≠ "report_writer") :
    protectedReserve allocation node = allocation.reserves := by
  rw [protectedReserve, if_neg hnode, hsecond, Allocation.reserves,
    Option.getD_none, Nat.max_zero]
  omega

theorem WriterInv.protectedReserve_eq (h : WriterInv maxTokens s)
    {node : String} (hnode : modelTokenPoolForNode node ≠ .writer) :
    protectedReserve s.run.budgetSnapshot.allocation node
      = (allocateBudgetShares maxTokens).reserves := by
  have hother : node ≠ "report_writer" := by
    rintro rfl
    exact hnode (by decide)
  have hsecond : s.run.budgetSnapshot.allocation.writerTokens = none := by
    obtain ⟨budgets, -, hallocation⟩ := h.allocation
    rw [hallocation]
    rfl
  rw [protectedReserve_eq_reserves hsecond hother, h.reserves_eq]

/-- Before the writer no request is for its pool. -/
theorem TokenLedger.BeforeWriter.pool_ne (h : s.BeforeWriter a)
    {request : TokenRequest} (hrequest : request ∈ a.op.request) :
    modelTokenPoolForNode request.node ≠ .writer := by
  intro hwriter
  have hpools := h.pools request hrequest
  rw [hwriter] at hpools
  revert hpools
  decide

/-- A step before the writer keeps the reserves free. -/
theorem WriterInv.budget_step (h : WriterInv maxTokens s)
    (hmax : 0 < maxTokens) (hguard : s.BeforeWriter a) :
    (s.step a).budgetAccount.Within
      (maxTokens - (allocateBudgetShares maxTokens).reserves) := by
  refine Escrow.Move.within ?_ h.budget
  refine hguard.disciplined.budget_move_of_room
    (by rw [h.maximum_eq]; exact hmax) fun request hrequest hpos hchecks => ?_
  have hroom := hchecks.room hpos hguard.disciplined.leases
  have hprotects := hchecks.protects
  rw [h.protectedReserve_eq (hguard.pool_ne hrequest),
    TokenLedger.available,
    hguard.disciplined.leases.outstandingTotal_eq] at hprotects
  rw [h.maximum_eq] at hroom hprotects
  have hspent : s.budgetAccount.spent = modelTokens s.run.usageSnapshot :=
    rfl
  omega

/-- A step before the writer inserts no row of the writer's. -/
theorem WriterInv.noWriterRow_step (h : WriterInv maxTokens s)
    (hguard : s.BeforeWriter a) : (s.step a).NoWriterRow := by
  -- Setting a row whose node is not the writer's keeps the property.
  have hset : ∀ {s' : TokenLedger} {id row'},
      s'.reservations = s.reservations.insert id row' →
      modelTokenPoolForNode row'.node ≠ .writer → s'.NoWriterRow := by
    intro s' id row' hrows hne attemptId row hrow
    by_cases hid : attemptId = id
    · rw [hrows, hid, AList.lookup_insert] at hrow
      rwa [← Option.some.inj hrow]
    · rw [hrows, AList.lookup_insert_ne hid] at hrow
      exact h.noWriterRow attemptId row hrow
  cases s.step_effect a with
  | same hs' =>
      rw [hs']
      exact h.noWriterRow
  | keeps hrows htokens hclosed =>
      intro attemptId row hrow
      rw [hrows] at hrow
      exact h.noWriterRow attemptId row hrow
  | grants request borrow hop hpos hfresh hdenial hrows htokens =>
      have hrequest : request ∈ a.op.request := by
        rw [hop]
        rfl
      have hnode : (request.row a.now).node = request.node :=
        textUpTo_of_fits (hguard.disciplined.node request hrequest)
      refine hset hrows ?_
      rw [hnode]
      exact hguard.pool_ne hrequest
  | settles attemptId amount estimated row hop hrow hopen hrows htokens =>
      exact hset hrows (h.noWriterRow attemptId row hrow)
  | moves attemptId row row' hrow hreserved hmoved hrows htokens =>
      refine hset hrows ?_
      rw [hmoved.node]
      exact h.noWriterRow attemptId row hrow

/-- Only a replan touches the limits, and it names no writer question. -/
theorem WriterInv.allocation_step (h : WriterInv maxTokens s)
    (hguard : s.BeforeWriter a) :
    ∃ budgets, budgets.lookup "__writer__" = none
      ∧ (s.step a).run.budgetSnapshot.allocation
        = { allocateBudgetShares maxTokens with
            questionTokenBudgets := budgets } := by
  obtain ⟨budgets, hbudgets, hstep⟩ := s.step_budget a
  obtain ⟨before, hbefore, hallocation⟩ := h.allocation
  rw [hstep, hallocation]
  rcases hbudgets with rfl | hreplan
  · refine ⟨_, ?_, rfl⟩
    rw [hallocation]
    exact hbefore
  · exact ⟨budgets, hguard.questions budgets hreplan, rfl⟩

/-- A step before the writer keeps the invariant. -/
theorem WriterInv.step (h : WriterInv maxTokens s) (hmax : 0 < maxTokens)
    (hguard : s.BeforeWriter a) : WriterInv maxTokens (s.step a) := by
  refine ⟨?_, h.allocation_step hguard, h.budget_step hmax hguard,
    h.noWriterRow_step hguard⟩
  obtain ⟨budgets, -, hstep⟩ := s.step_budget a
  rw [hstep]
  exact h.maximum

-- ============================================================ the theorem

/-- The budget account has the reserves available. -/
theorem WriterInv.reservesAvailable (h : WriterInv maxTokens s) :
    s.ReservesAvailable := by
  intro now
  have hkept := h.budget.available (allocateBudgetShares_reserves_le maxTokens)
  have houtstanding : s.outstandingTotal now ≤ s.budgetAccount.held :=
    TokenLedger.outstandingTotal_le
  have hspent : s.budgetAccount.spent = modelTokens s.run.usageSnapshot :=
    rfl
  unfold Escrow.Account.available at hkept
  unfold TokenLedger.available
  rw [h.reserves_eq, h.maximum_eq]
  omega

/-- Without a writer row the writer's pool has committed nothing. -/
theorem TokenLedger.NoWriterRow.poolCommitted (h : s.NoWriterRow)
    (now : Nat) : s.poolCommitted .writer now = 0 := by
  refine Counters.weigh_eq_zero fun e he => if_neg ?_
  exact h e.1 e.2 (AList.mem_lookup_iff.mpr he)

/-- No check refuses the writer's first request. -/
theorem WriterInv.grantsWriter (h : WriterInv maxTokens s) :
    s.GrantsWriter := by
  intro task request borrow now hown hnode hquestion hfresh hpos hle
  have havailable := h.reservesAvailable now
  have hcommitted := h.noWriterRow.poolCommitted now
  have hpool : modelTokenPoolForNode request.node = .writer := by
    rw [hnode]
    decide
  have hlimit : modelTokenPoolLimits s.run.budgetSnapshot.allocation .writer
      = s.run.budgetSnapshot.allocation.writerTokensInitial.getD 0 := by
    obtain ⟨budgets, -, hallocation⟩ := h.allocation
    rw [hallocation]
    rfl
  have hprotected :
      protectedReserve s.run.budgetSnapshot.allocation request.node
        = s.run.budgetSnapshot.allocation.verificationTokens.getD 0
          + s.run.budgetSnapshot.allocation.safetyTokens.getD 0 := by
    rw [protectedReserve, if_pos hnode, Nat.add_zero]
  have hbudget : s.run.budgetSnapshot.allocation.questionTokenBudgets.lookup
      request.questionId = none := by
    obtain ⟨budgets, hbudgets, hallocation⟩ := h.allocation
    rw [hallocation, hquestion]
    exact hbudgets
  have hdenial : modelTokenDenial request borrow now s = none := by
    unfold Allocation.reserves at havailable
    simp only [modelTokenDenial, hpool, hlimit, hprotected, hcommitted,
      hbudget, Option.getD_none]
    by_cases hzero : s.maximum = 0
    · rw [if_pos hzero]
    · rw [if_neg hzero, if_neg (by omega), if_neg (by omega),
        if_neg (by omega), if_neg (by omega)]
  exact ⟨_, reserveModelTokens_of_checks hpos hown hfresh hdenial⟩

/-- From a run with a positive token limit and the pools allocated for it
(which share it out completely), along every run of planner, research and
verification reservations, the writer, verification and safety reserves
stay available, and in every state the writer's first request for at most
its initial tokens is granted. -/
theorem writer_share_protected (hmax : 0 < maxTokens)
    (hs : s.IsAllocated maxTokens) (as : List LedgerAction)
    (h : ledgerSystem.Along TokenLedger.BeforeWriter s as) :
    (allocateBudgetShares maxTokens).plannerTokens.getD 0
        + (allocateBudgetShares maxTokens).researchTokens.getD 0
        + (allocateBudgetShares maxTokens).reserves = maxTokens
      ∧ ledgerSystem.Throughout
        (fun t => t.ReservesAvailable ∧ t.GrantsWriter) s as := by
  have hkeep : ∀ t a, WriterInv maxTokens t → t.BeforeWriter a →
      WriterInv maxTokens (ledgerSystem.step t a) :=
    fun _ _ hinv hguard => hinv.step hmax hguard
  have hinv := h.throughout hkeep (WriterInv.init hs)
  exact ⟨allocateBudgetShares_total maxTokens,
    hinv.mono fun t ht => ⟨ht.reservesAvailable, ht.grantsWriter⟩⟩

end

/-- A run allocated for 60,000 tokens, with a budget for its only
question. -/
def allocatedLedger : TokenLedger where
  run :=
    { sampleLedger.run with
      budgetSnapshot :=
        { maxTokens := some 60000
          allocation :=
            { allocateBudgetShares 60000 with
              questionTokenBudgets := [("q1", 12000)] } } }

theorem writer_share_protected_sample :
    (allocateBudgetShares 60000).plannerTokens.getD 0
        + (allocateBudgetShares 60000).researchTokens.getD 0
        + (allocateBudgetShares 60000).reserves = 60000
      ∧ ledgerSystem.Throughout
        (fun t => t.ReservesAvailable ∧ t.GrantsWriter) allocatedLedger
        sampleAttempts :=
  writer_share_protected (by decide)
    ⟨rfl, ⟨_, by decide, rfl⟩, rfl, rfl⟩ _ (by decide)

end DeepResearch.Run
