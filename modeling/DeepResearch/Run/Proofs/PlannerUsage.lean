/-
When the tokens a planner attempt was billed for stay counted.

Only the attempt that saves its plan charges the run, with the usage of
both calls; it puts that usage in the place of any planner usage charged
before. An attempt that raises charges nothing: where the repair call
failed or its payload did, the reservation is at least kept or settled;
where the first call failed for good, or the compact request could not
be built, it is released although the first call may have been billed.
-/
import DeepResearch.Run.Planner
import DeepResearch.Run.Proofs.Ledger

namespace DeepResearch.Run

-- =========================================================== statements

/-- The reservation is granted: the attempt is new and passes every
check, or it is already reserved. -/
def TokenLedger.Reserves (ledger : TokenLedger) (task : TaskId)
    (request : TokenRequest) (borrow : QuestionBorrowDecision)
    (now : Nat) : Prop :=
  request.requested ≠ 0 ∧ ledger.run.OwnedBy task
    ∧ ((ledger.reservations.lookup request.attemptId).map (·.status)
        = some .reserved
      ∨ ledger.reservations.lookup request.attemptId = none
        ∧ modelTokenDenial request borrow now ledger = none)

instance (ledger : TokenLedger) (task : TaskId) (request : TokenRequest)
    (borrow : QuestionBorrowDecision) (now : Nat) :
    Decidable (ledger.Reserves task request borrow now) :=
  inferInstanceAs (Decidable (_ ∧ _ ∧ _))

/-- The attempt gets its reservation. -/
def PlannerAttempt.Starts (attempt : PlannerAttempt)
    (ledger : TokenLedger) : Prop :=
  ledger.Reserves attempt.workerTaskId attempt.request attempt.borrow
    attempt.startedAt

instance (attempt : PlannerAttempt) (ledger : TokenLedger) :
    Decidable (attempt.Starts ledger) :=
  inferInstanceAs (Decidable (TokenLedger.Reserves _ _ _ _ _))

/-- The first call's answer is not a plan, and can be repaired. -/
def PlannerAttempt.isRepairable (attempt : PlannerAttempt) : Bool :=
  match attempt.first with
  | .returned _ failure => failure.isSome
  | .raised error => error.code ∈ plannerRetryableOutputErrors

/-- How an attempt that got its reservation ends. -/
inductive PlannerEnding
  /-- A call returned a valid plan, which is saved. -/
  | saved
  /-- The repair call failed, or its payload did. -/
  | unrepaired
  /-- The first call failed for good, or no compact request was built. -/
  | abandoned
  deriving DecidableEq, Repr

def PlannerAttempt.ending (attempt : PlannerAttempt) : PlannerEnding :=
  if attempt.isRepairable then
    if attempt.compactRequestBuilt then
      match attempt.compact with
      | .returned _ none => .saved
      | .returned _ (some _) | .raised _ => .unrepaired
    else .abandoned
  else
    match attempt.first with
    | .returned _ _ => .saved
    | .raised _ => .abandoned

/-- The usage returned by the calls the attempt makes. -/
def PlannerAttempt.billed (attempt : PlannerAttempt) : List CallUsage :=
  if attempt.isRepairable && attempt.compactRequestBuilt then
    attempt.first.usage.toList ++ attempt.compact.usage.toList
  else attempt.first.usage.toList

/-- The tokens of those calls. -/
def PlannerAttempt.billedTokens (attempt : PlannerAttempt) : Nat :=
  (attempt.billed.map (·.tokens.totalTokens)).sum

/-- The attempt's billed tokens stay counted: its reservation is settled
or uncertain, and they are added to `model_tokens`. -/
def TokenLedger.KeepsBilling (ledger : TokenLedger)
    (attempt : PlannerAttempt) : Prop :=
  attempt.Starts ledger →
    (attempt.billed ≠ [] →
      ((attempt.run ledger).reservations.lookup attempt.attemptId).any
        fun row => row.status = .settled || row.status = .uncertain)
    ∧ (attempt.run ledger).run.usageSnapshot.modelTokens
      = ledger.run.usageSnapshot.modelTokens + attempt.billedTokens

instance (ledger : TokenLedger) (attempt : PlannerAttempt) :
    Decidable (ledger.KeepsBilling attempt) :=
  inferInstanceAs (Decidable (_ → _ ∧ _))

/-- The condition: a plan is saved where no planner usage has been
charged yet; an attempt that fails after a repair call was billed
nothing, and one that is abandoned had no call that returned usage. -/
def TokenLedger.BillingSafe (ledger : TokenLedger)
    (attempt : PlannerAttempt) : Prop :=
  attempt.Starts ledger →
    match attempt.ending with
    | .saved =>
        ledger.run.usageSnapshot.modelTokens
          = ledger.run.usageSnapshot.writer.elim 0 (·.totalTokens)
            + ledger.run.usageSnapshot.evidenceTotalTokens
    | .unrepaired => attempt.billedTokens = 0
    | .abandoned => attempt.billed = []

-- =============================================== the ledger in an attempt

section

variable {s t : TokenLedger} {attempt : PlannerAttempt}

/-- A reservation that is granted leaves a reserved row, and the run
as it was. -/
theorem TokenLedger.Reserves.granted {task : TaskId}
    {request : TokenRequest} {borrow : QuestionBorrowDecision} {now : Nat}
    (h : s.Reserves task request borrow now) :
    ∃ answer t row,
      reserveModelTokens task request borrow now s = .ok (answer, t)
      ∧ answer.granted = true ∧ t.run = s.run
      ∧ t.reservations.lookup request.attemptId = some row
      ∧ row.status = .reserved := by
  obtain ⟨hpos, hown, hreserved | ⟨hfresh, hdenial⟩⟩ := h
  · cases hrow : s.reservations.lookup request.attemptId with
    | none =>
        rw [hrow] at hreserved
        cases hreserved
    | some row =>
        rw [hrow] at hreserved
        have hstatus : row.status = .reserved := Option.some.inj hreserved
        refine ⟨{ granted := true, reservedTotal := row.reservedTotal
                  status := .row .reserved }, s, row, ?_, rfl, rfl, hrow,
          hstatus⟩
        rw [reserveModelTokens, if_neg hpos, if_pos hown, hrow]
        simp only [hstatus, if_true]
  · exact ⟨_, _, request.row now,
      reserveModelTokens_of_checks (Nat.pos_of_ne_zero hpos) hown hfresh
        hdenial,
      rfl, rfl, AList.lookup_insert _, rfl⟩

/-- The attempt has reserved: it holds the run's lock, nothing has been
charged since `s`, and its row is reserved. -/
structure PlannerAttempt.Reserved (attempt : PlannerAttempt)
    (s t : TokenLedger) : Prop where
  run : t.run = s.run
  owned : s.run.OwnedBy attempt.workerTaskId
  row : ∃ row, t.reservations.lookup attempt.attemptId = some row
    ∧ row.status = .reserved

/-- The attempt has ended its reservation: its row has the status, and
nothing has been charged since `s`. -/
structure PlannerAttempt.Ended (attempt : PlannerAttempt)
    (s t : TokenLedger) (status : ReservationStatus) : Prop where
  owned : t.run.OwnedBy attempt.workerTaskId
  modelTokens : t.run.usageSnapshot.modelTokens
    = s.run.usageSnapshot.modelTokens
  writer : t.run.usageSnapshot.writer = s.run.usageSnapshot.writer
  evidence : t.run.usageSnapshot.evidenceTotalTokens
    = s.run.usageSnapshot.evidenceTotalTokens
  row : ∃ row, t.reservations.lookup attempt.attemptId = some row
    ∧ row.status = status

/-- An operation under the lock does what its body does. -/
theorem TokenLedger.after_lockedRun {task : TaskId}
    {body : TokenLedger → Bool × TokenLedger} (hown : t.run.OwnedBy task) :
    t.after (lockedRun task body t) = (body t).2 := by
  rw [lockedRun, if_pos hown]
  rfl

theorem PlannerAttempt.Reserved.owned' (h : attempt.Reserved s t) :
    t.run.OwnedBy attempt.workerTaskId := by
  rw [h.run]
  exact h.owned

theorem PlannerAttempt.Reserved.settle (h : attempt.Reserved s t)
    (usage : CallUsage) :
    attempt.Ended s (attempt.settlePlanner usage t) .settled := by
  obtain ⟨row, hrow, hreserved⟩ := h.row
  rw [PlannerAttempt.settlePlanner, settleModelReservation,
    TokenLedger.after_lockedRun h.owned']
  have hopen : row.status.isClosed = false := by
    rw [hreserved]
    rfl
  simp only [settleReservationRow, hrow, hopen, Bool.false_eq_true,
    if_false]
  have hrun := h.run
  exact ⟨h.owned', by rw [hrun], by rw [hrun], by rw [hrun],
    _, AList.lookup_insert _, rfl⟩

/-- Releasing the reservation and keeping it uncertain change the row
alone. -/
theorem PlannerAttempt.Reserved.change (h : attempt.Reserved s t)
    {change : ModelBudgetReservationRow → ModelBudgetReservationRow}
    {status : ReservationStatus}
    (hstatus : ∀ row, (change row).status = status) :
    attempt.Ended s
      (t.after (lockedRun attempt.workerTaskId
        (changeReserved attempt.attemptId change) t)) status := by
  obtain ⟨row, hrow, hreserved⟩ := h.row
  rw [TokenLedger.after_lockedRun h.owned']
  simp only [changeReserved, hrow, hreserved, if_true]
  have hrun := h.run
  exact ⟨h.owned', by rw [hrun], by rw [hrun], by rw [hrun],
    _, AList.lookup_insert _, hstatus row⟩

theorem PlannerAttempt.Reserved.release (h : attempt.Reserved s t) :
    attempt.Ended s (attempt.releasePlanner t) .released :=
  h.change fun _ => rfl

theorem PlannerAttempt.Reserved.uncertain (h : attempt.Reserved s t) :
    attempt.Ended s (attempt.keepUncertain t) .uncertain :=
  h.change fun _ => rfl

-- ============================================================= the endings

/-- The combined usage has the tokens of both calls. -/
theorem combineOptionalUsage_total (first : Option CallUsage)
    (second : CallUsage) :
    (combineOptionalUsage first second).tokens.totalTokens
      = ((first.toList ++ [second]).map (·.tokens.totalTokens)).sum := by
  cases first <;> simp [combineOptionalUsage]

/-- What `generate` returns and leaves in each ending: the usage of the
calls made and a settled row, a row that keeps the reservation, or a
released row. -/
def PlannerAttempt.EndsAs (attempt : PlannerAttempt) (s : TokenLedger) :
    PlannerEnding → Prop
  | .saved => ∃ usage t, attempt.generate s = (.ok usage, t)
      ∧ usage.tokens.totalTokens = attempt.billedTokens
      ∧ attempt.Ended s t .settled
  | .unrepaired => ∃ error t status,
      attempt.generate s = (.error error, t)
      ∧ (status = .settled ∨ status = .uncertain)
      ∧ attempt.Ended s t status
  | .abandoned => ∃ error t, attempt.generate s = (.error error, t)
      ∧ attempt.Ended s t .released

/-- The repair, after a payload that failed its schema or a gateway
error that can be repaired. -/
theorem PlannerAttempt.Reserved.repair (h : attempt.Reserved s t)
    (firstError : ModelGatewayError)
    (hrepairable : attempt.isRepairable = true)
    (husage : attempt.first.usage = firstError.usage)
    (hgenerate : attempt.generate s = attempt.repair firstError t) :
    attempt.EndsAs s attempt.ending := by
  unfold PlannerAttempt.ending
  rw [if_pos hrepairable]
  unfold PlannerAttempt.repair at hgenerate
  cases hbuilt : attempt.compactRequestBuilt with
  | false =>
      rw [hbuilt] at hgenerate
      exact ⟨_, _, hgenerate, h.release⟩
  | true =>
      rw [hbuilt, if_pos rfl] at hgenerate
      rw [if_pos rfl]
      cases hcompact : attempt.compact with
      | raised error =>
          rw [hcompact] at hgenerate
          exact ⟨_, _, _, hgenerate, .inr rfl, h.uncertain⟩
      | returned usage failure =>
          rw [hcompact] at hgenerate
          cases failure with
          | some detail =>
              exact ⟨_, _, _, hgenerate, .inl rfl, h.settle _⟩
          | none =>
              refine ⟨_, _, hgenerate, ?_, h.settle _⟩
              rw [combineOptionalUsage_total, ← husage,
                PlannerAttempt.billedTokens, PlannerAttempt.billed,
                hrepairable, hbuilt, hcompact]
              rfl

/-- How an attempt that gets its reservation ends. -/
theorem PlannerAttempt.endsAs_of_starts (h : attempt.Starts s) :
    attempt.EndsAs s attempt.ending := by
  obtain ⟨answer, t, row, hreserve, hgranted, hrun, hrow, hstatus⟩ :=
    TokenLedger.Reserves.granted h
  have hreserved : attempt.Reserved s t :=
    ⟨hrun, h.2.1, row, hrow, hstatus⟩
  have hgenerate : attempt.generate s = attempt.firstCall t := by
    rw [PlannerAttempt.generate, hreserve]
    exact if_pos hgranted
  unfold PlannerAttempt.firstCall at hgenerate
  cases hfirst : attempt.first with
  | returned usage failure =>
      rw [hfirst] at hgenerate
      cases failure with
      -- The plan fails its schema: the repair is called with the usage of
      -- the first call.
      | some detail =>
          have hrepairable : attempt.isRepairable = true := by
            rw [PlannerAttempt.isRepairable, hfirst]
            rfl
          have husage : attempt.first.usage
              = (schemaInvalid detail usage).usage := by
            rw [hfirst]
            rfl
          exact hreserved.repair _ hrepairable husage hgenerate
      | none =>
          have hrepairable : attempt.isRepairable = false := by
            rw [PlannerAttempt.isRepairable, hfirst]
            rfl
          have hbilled : attempt.billedTokens = usage.tokens.totalTokens := by
            rw [PlannerAttempt.billedTokens, PlannerAttempt.billed,
              hrepairable, hfirst]
            exact Nat.add_zero _
          unfold PlannerAttempt.ending
          rw [hrepairable, hfirst]
          exact ⟨usage, _, hgenerate, hbilled.symm, hreserved.settle usage⟩
  | raised error =>
      rw [hfirst] at hgenerate
      -- An error of another code releases the reservation at once.
      by_cases hcode : error.code ∈ plannerRetryableOutputErrors
      · have hrepairable : attempt.isRepairable = true := by
          rw [PlannerAttempt.isRepairable, hfirst]
          exact decide_eq_true hcode
        have husage : attempt.first.usage = error.usage := by
          rw [hfirst]
          rfl
        simp only [if_pos hcode] at hgenerate
        exact hreserved.repair error hrepairable husage hgenerate
      · have hrepairable : attempt.isRepairable = false := by
          rw [PlannerAttempt.isRepairable, hfirst]
          exact decide_eq_false hcode
        simp only [if_neg hcode] at hgenerate
        unfold PlannerAttempt.ending
        rw [hrepairable, hfirst]
        exact ⟨_, _, hgenerate, hreserved.release⟩

-- ============================================================ the theorem

/-- An attempt that raised leaves the ledger its generation left. -/
theorem PlannerAttempt.run_of_error {error : PlannerError}
    (h : attempt.generate s = (.error error, t)) : attempt.run s = t := by
  rw [PlannerAttempt.run, h]

/-- A generated plan is saved: its usage takes the place of the planner
usage charged before. -/
theorem PlannerAttempt.run_of_ok {usage : CallUsage}
    {status : ReservationStatus}
    (h : attempt.generate s = (.ok usage, t))
    (hended : attempt.Ended s t status) :
    (attempt.run s).reservations = t.reservations
      ∧ (attempt.run s).run.usageSnapshot.modelTokens
        = usage.tokens.totalTokens
          + (s.run.usageSnapshot.writer.elim 0 (·.totalTokens)
            + s.run.usageSnapshot.evidenceTotalTokens) := by
  have hrun : attempt.run s = attempt.savePlan usage t := by
    rw [PlannerAttempt.run, h]
  rw [hrun, ← hended.writer, ← hended.evidence, PlannerAttempt.savePlan,
    saveGeneratedPlan, if_pos hended.owned]
  exact ⟨rfl, Nat.add_assoc _ _ _⟩

/-- An attempt keeps its billing exactly under the condition. -/
theorem TokenLedger.keepsBilling_iff (s : TokenLedger)
    (attempt : PlannerAttempt) :
    s.KeepsBilling attempt ↔ s.BillingSafe attempt := by
  refine imp_congr_right fun hstarts => ?_
  have hends := attempt.endsAs_of_starts hstarts
  cases hending : attempt.ending with
  -- The plan is saved: the usage is counted, and must be all that was
  -- billed.
  | saved =>
      rw [hending] at hends
      obtain ⟨usage, t, hgenerate, hbilled, hended⟩ := hends
      obtain ⟨hrows, htokens⟩ := attempt.run_of_ok hgenerate hended
      obtain ⟨row, hrow, hstatus⟩ := hended.row
      have hkept : ((attempt.run s).reservations.lookup
          attempt.attemptId).any
            (fun row => row.status = .settled || row.status = .uncertain)
          = true := by
        rw [hrows, hrow]
        simp [hstatus]
      rw [htokens, hbilled]
      constructor
      · rintro ⟨-, heq⟩
        omega
      · intro heq
        exact ⟨fun _ => hkept, by omega⟩
  -- The repair failed: its row is kept, but no usage is counted.
  | unrepaired =>
      rw [hending] at hends
      obtain ⟨error, t, status, hgenerate, hstatus, hended⟩ := hends
      obtain ⟨row, hrow, hrowStatus⟩ := hended.row
      rw [attempt.run_of_error hgenerate, hended.modelTokens]
      have hkept : (t.reservations.lookup attempt.attemptId).any
            (fun row => row.status = .settled || row.status = .uncertain)
          = true := by
        rw [hrow]
        rcases hstatus with rfl | rfl <;> simp [hrowStatus]
      constructor
      · rintro ⟨-, heq⟩
        omega
      · intro hzero
        exact ⟨fun _ => hkept, by omega⟩
  -- The reservation is released, as if nothing had been billed.
  | abandoned =>
      rw [hending] at hends
      obtain ⟨error, t, hgenerate, hended⟩ := hends
      obtain ⟨row, hrow, hreleased⟩ := hended.row
      rw [attempt.run_of_error hgenerate, hended.modelTokens]
      have hgone : (t.reservations.lookup attempt.attemptId).any
            (fun row => row.status = .settled || row.status = .uncertain)
          = false := by
        rw [hrow]
        simp [hreleased]
      rw [hgone]
      constructor
      · rintro ⟨hkept, -⟩
        by_contra hbilled
        cases hkept hbilled
      · intro hnone
        refine ⟨fun hbilled => absurd hnone hbilled, ?_⟩
        rw [PlannerAttempt.billedTokens, hnone]
        rfl

end

/-- Along every sequence of planner attempts, from every ledger, the
billed tokens stay counted at each attempt exactly when each attempt
meets the condition. -/
theorem billed_planner_tokens_counted_iff (s : TokenLedger)
    (attempts : List PlannerAttempt) :
    plannerSystem.Along TokenLedger.KeepsBilling s attempts
      ↔ plannerSystem.Along TokenLedger.BillingSafe s attempts :=
  Transition.System.along_congr TokenLedger.keepsBilling_iff s attempts

/-- The first call is billed 3,000 tokens for an output that cannot be
used, and the compact request does not fit the context. -/
def abandonedAttempt : PlannerAttempt where
  workerTaskId := ⟨sampleRunId, .start, 1⟩
  attemptId := 1
  borrow := ⟨false, "not_needed", false⟩
  first := .raised
    { code := "MODEL_OUTPUT_INVALID"
      retryable := false
      usage := some ⟨⟨2000, 1000, 3000⟩, true⟩ }
  compactRequestBuilt := false
  compact := .returned ⟨⟨0, 0, 0⟩, true⟩ none
  startedAt := 1
  finishedAt := 2

/-- Its reservation is released, and the 3,000 tokens are dropped. -/
theorem abandoned_attempt_drops_billing :
    ¬ ∀ s attempts, plannerSystem.Along TokenLedger.KeepsBilling s
      attempts := by
  intro hclaim
  exact absurd (hclaim sampleLedger [abandonedAttempt]).1 (by decide)

end DeepResearch.Run
