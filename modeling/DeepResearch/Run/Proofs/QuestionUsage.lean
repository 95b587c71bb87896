/-
The spend the borrow gate enforces against the spend the run reports.

Both are sums over the same rows. A row counts for what it has spent or
holds in both (`chargeOf_eq`), but the gate counts every row of the
question, and the report only those of the research pool whose lease has
not passed. So the report is never above the gate, and they agree exactly
when no other row has spent anything (`spend_reported_iff`).
-/
import DeepResearch.Run.Proofs.QuestionBorrow
import DeepResearch.Run.QuestionUsage

namespace DeepResearch.Run

-- ================================================================= the rows

/-- What holds of every row of a ledger: its question fits the column,
and it has an actual total once it is settled and not before. -/
structure ModelBudgetReservationRow.Kept (row : ModelBudgetReservationRow) :
    Prop where
  question : row.questionId.toList.length ≤ 50
  settled : row.status = .settled → row.actualTotal.isSome = true
  underWay : row.status.isClosed = false → row.actualTotal = none

/-- It does hold of every row. -/
def TokenLedger.RowsKept (ledger : TokenLedger) : Prop :=
  ∀ attemptId row, ledger.reservations.lookup attemptId = some row →
    row.Kept

section

variable {s s' : TokenLedger} {a : LedgerAction}

theorem rowsKept_of_reachable (h : Transition.Reachable ledgerSystem s) :
    s.RowsKept := by
  refine h.invariant (fun s hinit => ?_) fun s a hs => ?_
  · intro attemptId row hrow
    rw [hinit.1] at hrow
    cases hrow
  · refine (s.step_write a).forall_rows (fun request _ => ⟨?_, ?_, ?_⟩)
      (fun row amount estimated hrow => ⟨hrow.question, ?_, ?_⟩)
      (fun row status settledAt hstatus hreserved hrow =>
        ⟨hrow.question, ?_, ?_⟩) hs
    · show (textUpTo 50 request.questionId).toList.length ≤ 50
      rw [textUpTo, String.toList_ofList, List.length_take]
      exact Nat.min_le_left _ _
    · intro hsettled
      cases hsettled
    · intro _
      rfl
    · intro _
      rfl
    · intro hopen
      cases hopen
    · rintro rfl
      rcases hstatus with hstatus | hstatus <;> cases hstatus
    · intro _
      exact hrow.underWay (by rw [hreserved]; rfl)

end

-- ================================================================= the sums

/-- A row's part of what is reported for a question. -/
def ModelBudgetReservationRow.reportedOf (row : ModelBudgetReservationRow)
    (now : Nat) (questionId : String) : Nat :=
  if row.charges now questionId = true then row.spend else 0

/-- A column entry is its own prefix. -/
theorem textUpTo_eq {questionId : String}
    (h : questionId.toList.length ≤ 50) :
    textUpTo 50 questionId = questionId := by
  rw [textUpTo, List.take_of_length_le h, String.ofList_toList]

section

variable {row : ModelBudgetReservationRow} {now : Nat} {questionId : String}
  {s : TokenLedger}

/-- The three charges of a row are its spend, once. -/
theorem ModelBudgetReservationRow.Kept.chargeOf_eq (h : row.Kept) :
    ((if row.status = .settled ∧ row.charges now questionId = true then
        row.actualTotal.getD 0 else 0)
      + (if row.status = .reserved ∧ row.charges now questionId = true then
        row.reservedTotal else 0)
      + if row.status = .uncertain ∧ row.charges now questionId = true then
        row.reservedTotal else 0)
      = row.reportedOf now questionId := by
  unfold reportedOf
  by_cases hcharges : row.charges now questionId = true
  · rw [if_pos hcharges]
    unfold spend
    cases hstatus : row.status with
    | reserved =>
        rw [h.underWay (by rw [hstatus]; rfl)]
        simp [hcharges]
    | uncertain =>
        rw [h.underWay (by rw [hstatus]; rfl)]
        simp [hcharges]
    | settled =>
        obtain ⟨amount, hamount⟩ := Option.isSome_iff_exists.mp
          (h.settled hstatus)
        rw [hamount]
        simp [hcharges]
    | released => simp
  · rw [if_neg hcharges, if_neg fun hc => hcharges hc.2,
      if_neg fun hc => hcharges hc.2, if_neg fun hc => hcharges hc.2]

/-- What is reported for a question is the sum over its charged rows. -/
theorem projectedTokens_eq (view : QuestionUsageView) (target : Nat)
    (h : s.RowsKept) :
    (s.questionUsage view now questionId target).projectedTokens
      = Counters.weigh (·.reportedOf now questionId) s.reservations := by
  show s.questionCharge now questionId .settled
    + s.questionCharge now questionId .reserved
    + s.questionCharge now questionId .uncertain = _
  unfold TokenLedger.questionCharge
  rw [← Counters.weigh_add, ← Counters.weigh_add]
  refine Counters.weigh_congr fun e he => ?_
  have hkept : e.2.Kept := h e.1 e.2 (AList.mem_lookup_iff.mpr he)
  rw [← hkept.chargeOf_eq]
  cases e.2.status <;> simp

/-- A kept row is reported for no more than the gate counts. -/
theorem ModelBudgetReservationRow.Kept.reportedOf_cases (h : row.Kept) :
    row.reportedOf now questionId ≤ row.spendOf questionId
      ∧ (row.reportedOf now questionId = row.spendOf questionId
        ↔ (row.questionId = textUpTo 50 questionId → 0 < row.spend →
          row.charges now questionId = true)) := by
  unfold reportedOf spendOf
  by_cases hcharges : row.charges now questionId = true
  · have hquestion : row.questionId = questionId := by
      unfold charges at hcharges
      simp only [Bool.and_eq_true, decide_eq_true_eq] at hcharges
      exact hcharges.1.1
    have hcolumn : row.questionId = textUpTo 50 questionId := by
      rw [← hquestion, textUpTo_eq h.question]
    rw [if_pos hcharges, if_pos hcolumn]
    exact ⟨Nat.le_refl _, iff_of_true rfl fun _ _ => hcharges⟩
  · rw [if_neg hcharges]
    refine ⟨Nat.zero_le _, ?_⟩
    split
    case isTrue hcolumn =>
      constructor
      · intro hzero _ hpos
        omega
      · intro hspend
        by_contra hne
        exact hcharges (hspend hcolumn (by omega))
    case isFalse hother =>
      exact iff_of_true rfl fun hcolumn => absurd hcolumn hother

end

-- ============================================================= the theorem

/-- Every row that the gate counts for a question and that has spent or
holds something is charged to the question in the report: the question's
name fits the column, the node is one of the research pool, and the lease
has not passed. -/
def TokenLedger.SpendCharged (ledger : TokenLedger) (now : Nat)
    (questionId : String) : Prop :=
  ∀ e ∈ ledger.reservations.entries,
    e.2.questionId = textUpTo 50 questionId → 0 < e.2.spend →
      e.2.charges now questionId = true

instance (ledger : TokenLedger) (now : Nat) (questionId : String) :
    Decidable (ledger.SpendCharged now questionId) :=
  inferInstanceAs (Decidable (∀ e ∈ ledger.reservations.entries, _ → _))

/-- A request that the gate counts for a question is made on a node of
the research pool. -/
def OnResearchNode (questionId : String) (a : LedgerAction) : Prop :=
  ∀ request ∈ a.op.request,
    textUpTo 50 request.questionId = questionId →
      modelTokenPoolForNode (textUpTo 100 request.node) = .research

/-- Every row of a question is one of the research pool. -/
def TokenLedger.OnResearchNodes (ledger : TokenLedger)
    (questionId : String) : Prop :=
  ∀ attemptId row, ledger.reservations.lookup attemptId = some row →
    row.questionId = questionId →
      modelTokenPoolForNode row.node = .research

section

variable {s : TokenLedger} {questionId : String}

theorem spend_eq_projected_iff (hs : s.RowsKept) (view : QuestionUsageView)
    (now target : Nat) :
    s.questionSpend questionId
        = (s.questionUsage view now questionId target).projectedTokens
      ↔ s.SpendCharged now questionId := by
  have hrows : ∀ e ∈ s.reservations.entries, e.2.Kept :=
    fun e he => hs e.1 e.2 (AList.mem_lookup_iff.mpr he)
  show Counters.weigh (·.spendOf questionId) s.reservations
    = (s.questionUsage view now questionId target).projectedTokens ↔ _
  rw [projectedTokens_eq view target hs, eq_comm,
    Counters.weigh_eq_iff fun e he => (hrows e he).reportedOf_cases.1]
  exact forall₂_congr fun e he => (hrows e he).reportedOf_cases.2

/-- While no lease is outlived, the rows of the research pool are
charged. -/
theorem TokenLedger.OnResearchNodes.spendCharged {now : Nat}
    (h : s.OnResearchNodes questionId)
    (hfits : questionId.toList.length ≤ 50) (hleases : s.LeasesHold now) :
    s.SpendCharged now questionId := by
  intro e he hcolumn _
  rw [textUpTo_eq hfits] at hcolumn
  have hpool := h e.1 e.2 (AList.mem_lookup_iff.mpr he) hcolumn
  unfold ModelBudgetReservationRow.charges
  rw [hleases e he, hcolumn, hpool]
  simp

theorem onResearchNodes_step {a : LedgerAction}
    (h : OnResearchNode questionId a) (hs : s.OnResearchNodes questionId) :
    (s.step a).OnResearchNodes questionId :=
  (s.step_write a).forall_rows (fun request hrequest => h request hrequest)
    (fun _ _ _ hrow => hrow) (fun _ _ _ _ _ hrow => hrow) hs

end

/-- The gate's spend is the reported one exactly when the report charges
every row that has spent something. That is so all along a run whose
requests for the question are made on nodes of the research pool, when no
lease is outlived. -/
theorem spend_reported_iff {s : TokenLedger}
    (hs : Transition.Reachable ledgerSystem s) (view : QuestionUsageView) :
    (∀ now, ∀ item ∈ s.questionTokenPoolUsage view now,
      s.questionSpend item.1 = item.2.projectedTokens
        ↔ s.SpendCharged now item.1)
    ∧ ∀ (questionId : String) (as : List LedgerAction),
      questionId.toList.length ≤ 50 → s.reservations = ∅ →
      ledgerSystem.Along (fun _ a => OnResearchNode questionId a) s as →
      ledgerSystem.Throughout
        (fun u => ∀ now, u.LeasesHold now →
          ∀ item ∈ u.questionTokenPoolUsage view now, item.1 = questionId →
            u.questionSpend item.1 = item.2.projectedTokens) s as := by
  constructor
  · intro now item hitem
    obtain ⟨⟨questionId, target⟩, -, rfl⟩ := List.mem_map.mp hitem
    exact spend_eq_projected_iff (rowsKept_of_reachable hs) view now target
  · intro questionId as hfits hempty h
    have hkeep : ∀ u a, (Transition.Reachable ledgerSystem u
          ∧ u.OnResearchNodes questionId) →
        OnResearchNode questionId a →
        Transition.Reachable ledgerSystem (ledgerSystem.step u a)
          ∧ (ledgerSystem.step u a).OnResearchNodes questionId :=
      fun u a hu ha => ⟨.step a hu.1, onResearchNodes_step ha hu.2⟩
    have hnone : s.OnResearchNodes questionId := by
      intro attemptId row hrow
      rw [hempty] at hrow
      cases hrow
    refine (h.throughout hkeep ⟨hs, hnone⟩).mono
      fun u hu now hleases item hitem hquestion => ?_
    obtain ⟨⟨name, target⟩, -, rfl⟩ := List.mem_map.mp hitem
    subst hquestion
    exact (spend_eq_projected_iff (rowsKept_of_reachable hu.1) view now
      target).mpr (hu.2.spendCharged hfits hleases)

/-- A worker dies with a reservation whose lease ends at 5. -/
def abandonedReservation : LedgerAction :=
  ⟨1, ⟨sampleRunId, .start, 1⟩,
    .reserveModelTokens
      { questionId := "q1", node := "evidence_extractor", attemptId := 1
        estimatedInput := 3000, maxOutput := 500, leaseUntil := some 5 }
      ⟨false, "not_needed", false⟩⟩

/-- The ledger it leaves. -/
def abandonedLedger : TokenLedger :=
  ledgerSystem.step borrowSampleLedger abandonedReservation

theorem abandonedLedger_reachable :
    Transition.Reachable ledgerSystem abandonedLedger :=
  .step abandonedReservation (.init ⟨rfl, by decide⟩)

theorem spend_reported_iff_sample :
    (∀ item ∈ abandonedLedger.questionTokenPoolUsage {} 3,
      abandonedLedger.questionSpend item.1 = item.2.projectedTokens
        ↔ abandonedLedger.SpendCharged 3 item.1)
    ∧ ledgerSystem.Throughout
        (fun u => ∀ now, u.LeasesHold now →
          ∀ item ∈ u.questionTokenPoolUsage {} now, item.1 = "q1" →
            u.questionSpend item.1 = item.2.projectedTokens)
        borrowSampleLedger [abandonedReservation] :=
  ⟨(spend_reported_iff abandonedLedger_reachable {}).1 3,
    (spend_reported_iff (.init ⟨rfl, by decide⟩) {}).2 "q1" _ (by decide)
      rfl ⟨fun request hrequest _ => by cases hrequest; decide, trivial⟩⟩

/-- The gate still counts what the report has given up. -/
theorem expired_lease_unreported :
    ¬ ∀ (s : TokenLedger), Transition.Reachable ledgerSystem s →
      ∀ (view : QuestionUsageView) (now : Nat),
        ∀ item ∈ s.questionTokenPoolUsage view now, 0 < item.2.targetTokens →
          s.questionSpend item.1 = item.2.projectedTokens := by
  intro h
  exact absurd (h _ abandonedLedger_reachable {} 9) (by decide +kernel)

end DeepResearch.Run
