/-
The model token ledger never overspends, and no attempt is accounted
for twice.

`TokenLedger.step_write` says once what a step writes. What comes of it
(`TokenLedger.step_effect`) is nothing, the row of a granted attempt, the
settlement of an open one, or the move of a reserved one. The global
budget and every token pool are then escrow accounts of the ledger
(`budgetAccount`, `poolAccount`), and each disciplined step is one move
of each: a grant holds what it has checked there is room for, a
settlement spends at most what was held.

An attempt's row only moves forward, from reserved to uncertain or to
its end. What an operation has done to an attempt therefore stays done,
and doing it again finds nothing left to do.
-/
import DeepResearch.Lib.Escrow
import DeepResearch.Run.Proofs.Effects
import DeepResearch.Run.TokenLedger

namespace DeepResearch.Run

-- =========================================================== statements

/-- The attempt's reservation is neither settled nor released. -/
def TokenLedger.isOpen (ledger : TokenLedger) (attemptId : AttemptId) :
    Bool :=
  (ledger.reservations.lookup attemptId).any (!·.status.isClosed)

/-- The attempt an operation settles, and for how much. -/
def LedgerOp.settlement : LedgerOp → Option (AttemptId × Nat)
  | .settleModelReservation attemptId actualTotal _ =>
      some (attemptId, actualTotal)
  | .recordPage usage _ attemptId _ => attemptId.map (·, usage.totalTokens)
  | .recordExtractionFailure (some usage) attemptId _ =>
      attemptId.map (·, usage.totalTokens)
  | _ => none

/-- The tokens an operation charges to the run. -/
def LedgerOp.charge : LedgerOp → Nat
  | .recordPage usage _ _ _ => usage.totalTokens
  | .recordExtractionFailure usage _ _ => usage.elim 0 (·.totalTokens)
  | _ => 0

/-- No reservation in flight has outlived its lease. -/
def TokenLedger.LeasesHold (ledger : TokenLedger) (now : Nat) : Prop :=
  ∀ e ∈ ledger.reservations.entries, e.2.leaseExpired now = false

/-- The reservation an operation asks for. -/
def LedgerOp.request : LedgerOp → Option TokenRequest
  | .reserveModelTokens request _ => some request
  | _ => none

/-- The question budgets an operation stores. -/
def LedgerOp.questionBudgets : LedgerOp → Option (List (String × Nat))
  | .saveReplannedQuestions budgets => some budgets
  | _ => none

/-- What the callers keep to: leases are not outlived, node names fit
their column (they are constants of the callers), a settlement spends at
most the reservation, and a charge is made together with the settlement
of its own open reservation. -/
structure TokenLedger.Disciplined (ledger : TokenLedger)
    (a : LedgerAction) : Prop where
  leases : ledger.LeasesHold a.now
  node : ∀ request ∈ a.op.request, request.node.toList.length ≤ 100
  settled : ∀ p ∈ a.op.settlement,
    ∀ row ∈ ledger.reservations.lookup p.1,
      row.status.isClosed = false → p.2 ≤ row.reservedTotal
  covered : a.op.charge = 0 ∨ ∃ p ∈ a.op.settlement, ledger.isOpen p.1

instance (ledger : TokenLedger) (now : Nat) :
    Decidable (ledger.LeasesHold now) :=
  inferInstanceAs (Decidable (∀ e ∈ ledger.reservations.entries, _))

instance (ledger : TokenLedger) (a : LedgerAction) :
    Decidable (ledger.Disciplined a) :=
  decidable_of_iff
    (ledger.LeasesHold a.now
      ∧ (∀ request ∈ a.op.request, request.node.toList.length ≤ 100)
      ∧ (∀ p ∈ a.op.settlement, ∀ row ∈ ledger.reservations.lookup p.1,
        row.status.isClosed = false → p.2 ≤ row.reservedTotal)
      ∧ (a.op.charge = 0 ∨ ∃ p ∈ a.op.settlement, ledger.isOpen p.1))
    ⟨fun ⟨hl, hn, hs, hc⟩ => ⟨hl, hn, hs, hc⟩,
      fun ⟨hl, hn, hs, hc⟩ => ⟨hl, hn, hs, hc⟩⟩

/-- Charged and outstanding tokens stay within the run's budget, and
every limited pool's committed tokens within the pool's limit, whenever
one looks. -/
structure TokenLedger.WithinBudgets (ledger : TokenLedger) : Prop where
  budget : ∀ now, modelTokens ledger.run.usageSnapshot
    + ledger.outstandingTotal now ≤ ledger.maximum
  pools : ∀ pool now,
    0 < modelTokenPoolLimits ledger.run.budgetSnapshot.allocation pool →
    ledger.poolCommitted pool now
      ≤ modelTokenPoolLimits ledger.run.budgetSnapshot.allocation pool

/-- The four operations on one attempt. -/
inductive AttemptOp
  | reserve
  | settle
  | release
  | markUncertain
  deriving DecidableEq, Repr

/-- Which of the four an operation is, and on which attempt. -/
def LedgerOp.attemptOp : LedgerOp → Option (AttemptOp × AttemptId)
  | .reserveModelTokens request _ => some (.reserve, request.attemptId)
  | .settleModelReservation attemptId _ _ => some (.settle, attemptId)
  | .releaseModelReservation attemptId => some (.release, attemptId)
  | .markModelReservationUncertain attemptId =>
      some (.markUncertain, attemptId)
  | _ => none

/-- After an operation took effect on an attempt, and anything that
happens next, the same operation on it changes nothing. -/
def TokenLedger.RepeatsChangeNothing (ledger : TokenLedger) : Prop :=
  ∀ a b kind attemptId, a.op.attemptOp = some (kind, attemptId) →
    ledger.step a ≠ ledger → b.op.attemptOp = some (kind, attemptId) →
    ∀ as, (ledgerSystem.exec (ledger.step a) as).step b
      = ledgerSystem.exec (ledger.step a) as

/-- Once an attempt is settled or released, none of the four operations
changes anything. -/
def TokenLedger.ClosedStaysClosed (ledger : TokenLedger) : Prop :=
  ∀ b kind attemptId row,
    ledger.reservations.lookup attemptId = some row →
    row.status.isClosed → b.op.attemptOp = some (kind, attemptId) →
    ∀ as, (ledgerSystem.exec ledger as).step b = ledgerSystem.exec ledger as

-- ============================================================ the effects

/-- A row after its attempt was released or became uncertain. -/
structure ModelBudgetReservationRow.MovedTo
    (row row' : ModelBudgetReservationRow) : Prop where
  status : row'.status = .released ∨ row'.status = .uncertain
  node : row'.node = row.node
  reservedTotal : row'.reservedTotal = row.reservedTotal

/-- What a step can do to the ledger. -/
inductive LedgerEffect (a : LedgerAction) (s s' : TokenLedger) : Prop
  /-- The step is refused, or only answers. -/
  | same (h : s' = s)
  /-- The rows stay. A charge may be added, for an attempt that is not
  open. -/
  | keeps (hrows : s'.reservations = s.reservations)
      (htokens : modelTokens s'.run.usageSnapshot
        ≤ modelTokens s.run.usageSnapshot + a.op.charge)
      (hclosed : ∀ attemptId amount,
        a.op.settlement = some (attemptId, amount) →
        s.isOpen attemptId = false)
  /-- A new attempt is granted. -/
  | grants (request : TokenRequest) (borrow : QuestionBorrowDecision)
      (hop : a.op = .reserveModelTokens request borrow)
      (hpos : request.requested ≠ 0)
      (hfresh : s.reservations.lookup request.attemptId = none)
      (hdenial : modelTokenDenial request borrow a.now s = none)
      (hrows : s'.reservations
        = s.reservations.insert request.attemptId (request.row a.now))
      (htokens : modelTokens s'.run.usageSnapshot
        = modelTokens s.run.usageSnapshot)
  /-- An open attempt is settled, with or without a charge. -/
  | settles (attemptId : AttemptId) (amount : Nat) (estimated : Bool)
      (row : ModelBudgetReservationRow)
      (hop : a.op.settlement = some (attemptId, amount))
      (hrow : s.reservations.lookup attemptId = some row)
      (hopen : row.status.isClosed = false)
      (hrows : s'.reservations
        = s.reservations.insert attemptId
          (row.settle amount estimated a.now))
      (htokens : modelTokens s'.run.usageSnapshot
        ≤ modelTokens s.run.usageSnapshot + amount)
  /-- A reserved attempt is released or becomes uncertain. -/
  | moves (attemptId : AttemptId) (row row' : ModelBudgetReservationRow)
      (hrow : s.reservations.lookup attemptId = some row)
      (hreserved : row.status = .reserved)
      (hmoved : row.MovedTo row')
      (hrows : s'.reservations = s.reservations.insert attemptId row')
      (htokens : modelTokens s'.run.usageSnapshot
        ≤ modelTokens s.run.usageSnapshot)

/-- The ledger after an operation's charge to the run, which leaves the
rows, the budget and the guard alone. -/
structure LedgerAction.Charges (a : LedgerAction)
    (s charged : TokenLedger) : Prop where
  rows : charged.reservations = s.reservations
  tokens : modelTokens charged.run.usageSnapshot
    ≤ modelTokens s.run.usageSnapshot + a.op.charge
  budget : charged.run.budgetSnapshot = s.run.budgetSnapshot
  guard : charged.run.usageSnapshot.modelBudgetGuarded
    = s.run.usageSnapshot.modelBudgetGuarded

/-- What a step writes: a charge, if the operation makes one, and then
the row of its attempt, if it names one. -/
inductive LedgerWrite (a : LedgerAction) (s : TokenLedger) :
    TokenLedger → Prop
  /-- The step is refused, or only answers. -/
  | none : LedgerWrite a s s
  | grants (request : TokenRequest) (borrow : QuestionBorrowDecision)
      (hop : a.op = .reserveModelTokens request borrow)
      (hpos : request.requested ≠ 0)
      (hfresh : s.reservations.lookup request.attemptId = none)
      (hdenial : modelTokenDenial request borrow a.now s = none) :
      LedgerWrite a s
        { s with
          reservations :=
            s.reservations.insert request.attemptId (request.row a.now) }
  | charges (charged : TokenLedger) (hcharged : a.Charges s charged)
      (hop : a.op.settlement = none) : LedgerWrite a s charged
  | settles (charged : TokenLedger) (hcharged : a.Charges s charged)
      (id : AttemptId) (amount : Nat) (estimated : Bool)
      (hop : a.op.settlement = some (id, amount))
      (hamount : a.op.charge ≤ amount) :
      LedgerWrite a s
        (settleReservationRow id amount estimated a.now charged).2
  /-- The attempt is released or becomes uncertain. -/
  | changes (charged : TokenLedger) (hcharged : a.Charges s charged)
      (id : AttemptId)
      (change : ModelBudgetReservationRow → ModelBudgetReservationRow)
      (hop : a.op.settlement = none) (hcharge : a.op.charge = 0)
      (hchange : ∀ row, ∃ status settledAt,
        (status = .released ∨ status = .uncertain)
          ∧ change row = { row with status, settledAt }) :
      LedgerWrite a s (changeReserved id change charged).2
  | replans (replanned : TokenLedger) (budgets : List (String × Nat))
      (hop : a.op = .saveReplannedQuestions budgets)
      (hrows : replanned.reservations = s.reservations)
      (husage : replanned.run.usageSnapshot = s.run.usageSnapshot)
      (hbudget : replanned.run.budgetSnapshot =
        { s.run.budgetSnapshot with
          allocation :=
            { s.run.budgetSnapshot.allocation with
              questionTokenBudgets := budgets } }) :
      LedgerWrite a s replanned

section

variable {s : TokenLedger} {attemptId : AttemptId}

theorem TokenLedger.isOpen_of_none
    (h : s.reservations.lookup attemptId = none) :
    s.isOpen attemptId = false := by
  rw [TokenLedger.isOpen, h]
  rfl

theorem TokenLedger.isOpen_of_some {row : ModelBudgetReservationRow}
    (h : s.reservations.lookup attemptId = some row) :
    s.isOpen attemptId = !row.status.isClosed := by
  rw [TokenLedger.isOpen, h]
  rfl

/-- `_settle_reservation_row` settles an open attempt and leaves any
other alone. -/
theorem settleReservationRow_cases (s : TokenLedger)
    (attemptId : AttemptId) (amount : Nat) (estimated : Bool) (now : Nat) :
    ((settleReservationRow attemptId amount estimated now s).2 = s
        ∧ s.isOpen attemptId = false)
      ∨ ∃ row, s.reservations.lookup attemptId = some row
        ∧ row.status.isClosed = false
        ∧ (settleReservationRow attemptId amount estimated now s).2
          = { run :=
                { s.run with
                  usageSnapshot :=
                    { s.run.usageSnapshot with
                      settledReservations :=
                        s.run.usageSnapshot.settledReservations + 1 } }
              reservations :=
                s.reservations.insert attemptId
                  (row.settle amount estimated now) } := by
  unfold settleReservationRow
  cases hrow : s.reservations.lookup attemptId with
  | none => exact .inl ⟨rfl, TokenLedger.isOpen_of_none hrow⟩
  | some row =>
      cases hclosed : row.status.isClosed with
      | true =>
          refine .inl ⟨by simp [hclosed], ?_⟩
          rw [TokenLedger.isOpen_of_some hrow, hclosed]
          rfl
      | false => exact .inr ⟨row, rfl, hclosed, by simp [hclosed]⟩

/-- `release` and `mark_uncertain` move a reserved attempt and leave any
other alone. -/
theorem changeReserved_cases (s : TokenLedger) (attemptId : AttemptId)
    (change : ModelBudgetReservationRow → ModelBudgetReservationRow) :
    (changeReserved attemptId change s).2 = s
      ∨ ∃ row, s.reservations.lookup attemptId = some row
        ∧ row.status = .reserved
        ∧ (changeReserved attemptId change s).2
          = { s with
              reservations :=
                s.reservations.insert attemptId (change row) } := by
  unfold changeReserved
  cases hrow : s.reservations.lookup attemptId with
  | none => exact .inl rfl
  | some row =>
      by_cases hreserved : row.status = .reserved
      · exact .inr ⟨row, rfl, hreserved, by simp [hreserved]⟩
      · exact .inl (by simp [hreserved])

/-- A new attempt that no check refuses is granted. -/
theorem reserveModelTokens_of_checks {task : TaskId}
    {request : TokenRequest} {borrow : QuestionBorrowDecision} {now : Nat}
    (hpos : 0 < request.requested) (hown : s.run.OwnedBy task)
    (hfresh : s.reservations.lookup request.attemptId = none)
    (hdenial : modelTokenDenial request borrow now s = none) :
    reserveModelTokens task request borrow now s = .ok
      ({ granted := true, reservedTotal := request.requested
         status := .row .reserved },
        { s with
          reservations :=
            s.reservations.insert request.attemptId (request.row now) }) := by
  unfold reserveModelTokens
  rw [if_neg (Nat.ne_of_gt hpos), if_pos hown, hfresh, hdenial]

/-- `reserve_model_tokens` inserts the row of an attempt it grants and
leaves the ledger alone otherwise. -/
theorem reserveModelTokens_cases {task : TaskId} {request : TokenRequest}
    {borrow : QuestionBorrowDecision} {now : Nat}
    {answer : ModelTokenReservation} {s' : TokenLedger}
    (h : reserveModelTokens task request borrow now s = .ok (answer, s')) :
    s' = s ∨ (request.requested ≠ 0
      ∧ s.reservations.lookup request.attemptId = none
      ∧ modelTokenDenial request borrow now s = none
      ∧ s' = { s with
          reservations :=
            s.reservations.insert request.attemptId (request.row now) }) := by
  unfold reserveModelTokens at h
  split at h
  case isTrue => cases h
  case isFalse hpos =>
    split at h
    case isFalse => cases h
    case isTrue =>
      split at h
      case h_1 row hrow =>
        split at h <;> (injection h with h; injection h with _ h)
        · exact .inl h.symm
        · exact .inl h.symm
      case h_2 hfresh =>
        split at h
        case h_1 denied hdenied =>
          injection h with h
          injection h with _ h
          exact .inl h.symm
        case h_2 hdenial =>
          injection h with h
          injection h with _ h
          exact .inr ⟨hpos, hfresh, hdenial, h.symm⟩

/-- A recorded page adds its usage to the charged tokens. -/
theorem modelTokens_recordPage (usage : UsageSnapshot) (call : TokenUsage)
    (hit : Bool) :
    modelTokens (recordPage usage call hit)
      ≤ modelTokens usage + call.totalTokens := by
  simp only [modelTokens, recordPage, syncModelTokens, chargeEvidenceUsage,
    settleExtraction, modelTokensFromUsage]
  omega

/-- So does a failed extraction, when it reported usage. -/
theorem modelTokens_recordExtractionFailure (usage : UsageSnapshot)
    (call : Option TokenUsage) :
    modelTokens (recordExtractionFailure usage call)
      ≤ modelTokens usage + call.elim 0 (·.totalTokens) := by
  cases call <;>
    simp only [modelTokens, recordExtractionFailure, syncModelTokens,
      chargeEvidenceUsage, settleExtraction, modelTokensFromUsage,
      Option.elim_none, Option.elim_some] <;> omega

/-- An operation that charges nothing. -/
theorem LedgerAction.Charges.refl {a : LedgerAction} : a.Charges s s :=
  ⟨rfl, Nat.le_add_right _ _, rfl, rfl⟩

/-- A recorded page charges the tokens of its call. -/
theorem charges_recordPage (s : TokenLedger) (now : Nat) (task : TaskId)
    (usage : TokenUsage) (hit : Bool) (attemptId : Option AttemptId)
    (estimated : Bool) :
    LedgerAction.Charges
      ⟨now, task, .recordPage usage hit attemptId estimated⟩ s
      (s.setUsage (recordPage s.run.usageSnapshot usage hit)) :=
  ⟨rfl, modelTokens_recordPage s.run.usageSnapshot usage hit, rfl, rfl⟩

/-- A failed extraction charges what was billed for it. -/
theorem charges_recordExtractionFailure (s : TokenLedger) (now : Nat)
    (task : TaskId) (usage : Option TokenUsage)
    (attemptId : Option AttemptId) (estimated : Bool) :
    LedgerAction.Charges
      ⟨now, task, .recordExtractionFailure usage attemptId estimated⟩ s
      (s.setUsage
        (recordExtractionFailure s.run.usageSnapshot usage)) where
  rows := rfl
  tokens := modelTokens_recordExtractionFailure s.run.usageSnapshot usage
  budget := rfl
  guard := by cases usage <;> rfl

/-- A row that only changed its status. -/
theorem movedTo_of_change {row row' : ModelBudgetReservationRow}
    (h : ∃ status settledAt, (status = .released ∨ status = .uncertain)
      ∧ row' = { row with status, settledAt }) : row.MovedTo row' := by
  obtain ⟨status, settledAt, hstatus, rfl⟩ := h
  exact ⟨hstatus, rfl, rfl⟩

/-- Settling an attempt, after a charge that is the operation's. -/
theorem effect_of_settle {a : LedgerAction} {charged : TokenLedger}
    {amount : Nat} {estimated : Bool}
    (hrows : charged.reservations = s.reservations)
    (hcharge : modelTokens charged.run.usageSnapshot
      ≤ modelTokens s.run.usageSnapshot + a.op.charge)
    (hamount : a.op.charge ≤ amount)
    (hop : a.op.settlement = some (attemptId, amount)) :
    LedgerEffect a s
      (settleReservationRow attemptId amount estimated a.now charged).2 := by
  have hlookup : charged.reservations.lookup attemptId
      = s.reservations.lookup attemptId := by rw [hrows]
  rcases settleReservationRow_cases charged attemptId amount estimated a.now
    with ⟨hsame, hclosed⟩ | ⟨row, hrow, hopen, hs'⟩
  · rw [hsame]
    refine .keeps hrows hcharge fun id n hid => ?_
    obtain ⟨rfl, rfl⟩ : attemptId = id ∧ amount = n := by
      simpa using hop.symm.trans hid
    rwa [TokenLedger.isOpen, hlookup] at hclosed
  · rw [hs']
    refine .settles attemptId amount estimated row hop
      (hlookup.symm.trans hrow) hopen (by rw [hrows]) ?_
    -- Counting the settlement does not touch the tokens.
    have htokens : modelTokens charged.run.usageSnapshot
        ≤ modelTokens s.run.usageSnapshot + amount := by omega
    exact htokens

/-- Releasing an attempt or marking it uncertain, charging nothing. -/
theorem effect_of_change {a : LedgerAction} {charged : TokenLedger}
    {change : ModelBudgetReservationRow → ModelBudgetReservationRow}
    (hrows : charged.reservations = s.reservations)
    (htokens : modelTokens charged.run.usageSnapshot
      ≤ modelTokens s.run.usageSnapshot)
    (hop : a.op.settlement = none)
    (hchange : ∀ row : ModelBudgetReservationRow,
      row.MovedTo (change row)) :
    LedgerEffect a s (changeReserved attemptId change charged).2 := by
  rcases changeReserved_cases charged attemptId change with
    hsame | ⟨row, hrow, hreserved, hs'⟩
  · rw [hsame]
    refine .keeps hrows (by omega) fun id n hid => ?_
    rw [hop] at hid
    cases hid
  · rw [hs']
    rw [hrows] at hrow
    refine .moves attemptId row _ hrow hreserved (hchange row) ?_ htokens
    rw [hrows]

/-- An operation under the worker's lock returned what its body does. -/
theorem ok_of_lockedRun {task : TaskId}
    {body : TokenLedger → Bool × TokenLedger} {s' : TokenLedger}
    (h : (·.2) <$> lockedRun task body s = .ok s') : (body s).2 = s' := by
  obtain ⟨r, hr, rfl⟩ := ok_of_map h
  unfold lockedRun at hr
  obtain ⟨-, rfl⟩ := ok_of_guard hr
  rfl

/-- Every step is one of the writes. -/
theorem TokenLedger.step_write (s : TokenLedger) (a : LedgerAction) :
    LedgerWrite a s (s.step a) := by
  obtain ⟨now, task, op⟩ := a
  unfold TokenLedger.step
  cases hrun : LedgerAction.run ⟨now, task, op⟩ s with
  | error e => exact .none
  | ok s' =>
      cases op with
      | reserveModelTokens request borrow =>
          obtain ⟨⟨answer, s''⟩, hreserve, rfl⟩ := ok_of_map hrun
          -- Refused, or granted with every check passed.
          rcases reserveModelTokens_cases hreserve with
            rfl | ⟨hpos, hfresh, hdenial, rfl⟩
          · exact .none
          · exact .grants request borrow rfl hpos hfresh hdenial
      | settleModelReservation id amount estimated =>
          rw [← ok_of_lockedRun hrun]
          exact .settles s .refl id amount estimated rfl (Nat.zero_le _)
      | releaseModelReservation id =>
          rw [← ok_of_lockedRun hrun]
          exact .changes s .refl id _ rfl rfl
            fun row => ⟨_, _, .inl rfl, rfl⟩
      | markModelReservationUncertain id =>
          rw [← ok_of_lockedRun hrun]
          exact .changes s .refl id _ rfl rfl
            fun row => ⟨_, _, .inr rfl, rfl⟩
      -- A page without an attempt charges the run and no row.
      | recordPage usage hit attemptId estimated =>
          simp only [LedgerAction.run] at hrun
          obtain ⟨-, rfl⟩ := ok_of_guard hrun
          have hcharged : LedgerAction.Charges _ s _ :=
            charges_recordPage s now task usage hit attemptId estimated
          cases attemptId with
          | none => exact .charges _ hcharged rfl
          | some id =>
              exact .settles _ hcharged id _ estimated rfl (Nat.le_refl _)
      | recordExtractionFailure usage attemptId estimated =>
          simp only [LedgerAction.run] at hrun
          obtain ⟨-, rfl⟩ := ok_of_guard hrun
          have hcharged : LedgerAction.Charges _ s _ :=
            charges_recordExtractionFailure s now task usage attemptId
              estimated
          cases attemptId with
          | none =>
              cases usage <;> exact .charges _ hcharged rfl
          | some id =>
              cases usage with
              | none =>
                  exact .changes _ hcharged id _ rfl rfl
                    fun row => ⟨_, _, .inr rfl, rfl⟩
              | some usage =>
                  exact .settles _ hcharged id _ estimated rfl
                    (Nat.le_refl _)
      | saveReplannedQuestions budgets =>
          simp only [LedgerAction.run] at hrun
          split at hrun
          case h_2 => cases hrun
          case h_1 w hw =>
            injection hrun with hrun
            subst hrun
            unfold Run.saveReplannedQuestions at hw
            obtain ⟨-, rfl⟩ := ok_of_guard hw
            exact .replans _ budgets rfl rfl rfl rfl

/-- Every step has one of the effects. -/
theorem TokenLedger.step_effect (s : TokenLedger) (a : LedgerAction) :
    LedgerEffect a s (s.step a) := by
  have hwrite := s.step_write a
  generalize s.step a = s' at hwrite ⊢
  cases hwrite with
  | none => exact .same rfl
  | grants request borrow hop hpos hfresh hdenial =>
      exact .grants request borrow hop hpos hfresh hdenial rfl rfl
  | charges charged hcharged hop =>
      refine .keeps hcharged.rows hcharged.tokens fun id n hid => ?_
      rw [hop] at hid
      cases hid
  | settles charged hcharged id amount estimated hop hamount =>
      exact effect_of_settle hcharged.rows hcharged.tokens hamount hop
  | changes charged hcharged id change hop hcharge hchange =>
      have htokens := hcharged.tokens
      rw [hcharge] at htokens
      exact effect_of_change hcharged.rows htokens hop
        fun row => movedTo_of_change (hchange row)
  | replans replanned budgets hop hrows husage hbudget =>
      refine .keeps hrows (by rw [husage]; omega) fun id n hid => ?_
      rw [hop] at hid
      cases hid

/-- A step changes no limit but the questions' budgets. -/
theorem TokenLedger.step_budget (s : TokenLedger) (a : LedgerAction) :
    ∃ budgets, (budgets = s.run.budgetSnapshot.allocation.questionTokenBudgets
        ∨ budgets ∈ a.op.questionBudgets)
      ∧ (s.step a).run.budgetSnapshot =
        { s.run.budgetSnapshot with
          allocation :=
            { s.run.budgetSnapshot.allocation with
              questionTokenBudgets := budgets } } := by
  have hwrite := s.step_write a
  generalize s.step a = s' at hwrite ⊢
  cases hwrite with
  | none => exact ⟨_, .inl rfl, rfl⟩
  | grants request borrow hop hpos hfresh hdenial =>
      exact ⟨_, .inl rfl, rfl⟩
  | charges charged hcharged hop => exact ⟨_, .inl rfl, hcharged.budget⟩
  | settles charged hcharged id amount estimated hop hamount =>
      refine ⟨_, .inl rfl, Eq.trans ?_ hcharged.budget⟩
      rcases settleReservationRow_cases charged id amount estimated a.now
        with ⟨hsame, -⟩ | ⟨row, -, -, hs'⟩
      · rw [hsame]
      · rw [hs']
  | changes charged hcharged id change hop hcharge hchange =>
      refine ⟨_, .inl rfl, Eq.trans ?_ hcharged.budget⟩
      rcases changeReserved_cases charged id change with
        hsame | ⟨row, -, -, hs'⟩
      · rw [hsame]
      · rw [hs']
  | replans replanned budgets hop hrows husage hbudget =>
      refine ⟨budgets, .inr ?_, hbudget⟩
      rw [hop]
      rfl

/-- No action changes the budget. -/
theorem TokenLedger.step_maximum (s : TokenLedger) (a : LedgerAction) :
    (s.step a).maximum = s.maximum := by
  obtain ⟨budgets, -, hbudget⟩ := s.step_budget a
  rw [TokenLedger.maximum, hbudget]
  rfl

/-- Nor the limits of its pools. -/
theorem TokenLedger.step_poolLimit (s : TokenLedger) (a : LedgerAction)
    (pool : ModelTokenPool) :
    modelTokenPoolLimits (s.step a).run.budgetSnapshot.allocation pool
      = modelTokenPoolLimits s.run.budgetSnapshot.allocation pool := by
  obtain ⟨budgets, -, hbudget⟩ := s.step_budget a
  rw [hbudget]
  cases pool <;> rfl

end

-- =========================================================== the accounts

/-- What a row holds while its attempt is open, whatever its lease. -/
def ModelBudgetReservationRow.held (row : ModelBudgetReservationRow) :
    Nat :=
  if row.status.isClosed then 0 else row.reservedTotal

/-- What a settled row has spent. -/
def ModelBudgetReservationRow.paid (row : ModelBudgetReservationRow) :
    Nat :=
  if row.status = .settled then row.actualTotal.getD 0 else 0

/-- A weight that counts the rows of one pool. -/
def inPool (pool : ModelTokenPool) (w : ModelBudgetReservationRow → Nat)
    (row : ModelBudgetReservationRow) : Nat :=
  if modelTokenPoolForNode row.node = pool then w row else 0

/-- A row counts in the pool of its node. -/
theorem inPool_of_eq {pool : ModelTokenPool}
    {w : ModelBudgetReservationRow → Nat} {row : ModelBudgetReservationRow}
    (h : modelTokenPoolForNode row.node = pool) :
    inPool pool w row = w row := by
  unfold inPool
  rw [if_pos h]

/-- And in no other. -/
theorem inPool_of_ne {pool : ModelTokenPool}
    {w : ModelBudgetReservationRow → Nat} {row : ModelBudgetReservationRow}
    (h : modelTokenPoolForNode row.node ≠ pool) :
    inPool pool w row = 0 := by
  unfold inPool
  rw [if_neg h]

/-- The run's budget as an account. -/
def TokenLedger.budgetAccount (ledger : TokenLedger) : Escrow.Account where
  spent := modelTokens ledger.run.usageSnapshot
  held := Counters.weigh (·.held) ledger.reservations

/-- A token pool as an account. -/
def TokenLedger.poolAccount (ledger : TokenLedger)
    (pool : ModelTokenPool) : Escrow.Account where
  spent := Counters.weigh (inPool pool (·.paid)) ledger.reservations
  held := Counters.weigh (inPool pool (·.held)) ledger.reservations

section

variable {row : ModelBudgetReservationRow} {now : Nat}

/-- An expired lease only makes a row count less. -/
theorem ModelBudgetReservationRow.outstanding_le :
    row.outstanding now ≤ row.held := by
  unfold ModelBudgetReservationRow.outstanding
    ModelBudgetReservationRow.held
  cases row.status.isClosed <;> cases row.leaseExpired now <;> simp

/-- While its lease holds, a row is outstanding with what it holds. -/
theorem ModelBudgetReservationRow.outstanding_eq
    (h : row.leaseExpired now = false) : row.outstanding now = row.held := by
  unfold ModelBudgetReservationRow.outstanding
    ModelBudgetReservationRow.held
  rw [h, Bool.or_false]

/-- What a row commits is paid or held. -/
theorem ModelBudgetReservationRow.committed_le :
    row.committed now ≤ row.paid + row.held := by
  unfold ModelBudgetReservationRow.committed ModelBudgetReservationRow.paid
    ModelBudgetReservationRow.held
  cases row.status <;> cases row.leaseExpired now <;>
    simp [ReservationStatus.isClosed]

/-- While its lease holds, it commits all that it holds. -/
theorem ModelBudgetReservationRow.committed_eq
    (h : row.leaseExpired now = false) :
    row.committed now = row.paid + row.held := by
  unfold ModelBudgetReservationRow.committed ModelBudgetReservationRow.paid
    ModelBudgetReservationRow.held
  rw [h]
  cases row.status <;> simp [ReservationStatus.isClosed]

end

section

variable {s : TokenLedger} {now : Nat}

/-- What is outstanding at any time is held. -/
theorem TokenLedger.outstandingTotal_le :
    s.outstandingTotal now ≤ s.budgetAccount.held :=
  Counters.weigh_mono
    (fun _ => ModelBudgetReservationRow.outstanding_le) s.reservations

theorem TokenLedger.LeasesHold.outstandingTotal_eq
    (h : s.LeasesHold now) :
    s.outstandingTotal now = s.budgetAccount.held :=
  Counters.weigh_congr
    fun e he => ModelBudgetReservationRow.outstanding_eq (h e he)

/-- What a pool has committed at any time is paid or held. -/
theorem TokenLedger.poolCommitted_le (pool : ModelTokenPool) :
    s.poolCommitted pool now
      ≤ (s.poolAccount pool).spent + (s.poolAccount pool).held := by
  rw [TokenLedger.poolAccount, ← Counters.weigh_add]
  refine Counters.weigh_mono (fun row => ?_) s.reservations
  unfold inPool
  split
  case isTrue => exact ModelBudgetReservationRow.committed_le
  case isFalse => exact Nat.zero_le _

theorem TokenLedger.LeasesHold.poolCommitted_eq (h : s.LeasesHold now)
    (pool : ModelTokenPool) :
    s.poolCommitted pool now
      = (s.poolAccount pool).spent + (s.poolAccount pool).held := by
  rw [TokenLedger.poolAccount, ← Counters.weigh_add]
  refine Counters.weigh_congr fun e he => ?_
  unfold inPool
  split
  case isTrue => exact ModelBudgetReservationRow.committed_eq (h e he)
  case isFalse => rfl

/-- Text that fits its column is stored whole. -/
theorem textUpTo_of_fits {length : Nat} {text : String}
    (h : text.toList.length ≤ length) : textUpTo length text = text := by
  rw [textUpTo, List.take_of_length_le h, String.ofList_toList]

/-- What `reserve_model_tokens` has checked when it grants. -/
structure GrantChecks (request : TokenRequest) (now : Nat)
    (s : TokenLedger) : Prop where
  available : request.requested ≤ s.available now
  pool :
    0 < modelTokenPoolLimits s.run.budgetSnapshot.allocation
      (modelTokenPoolForNode request.node) →
    s.poolCommitted (modelTokenPoolForNode request.node) now
        + request.requested
      ≤ modelTokenPoolLimits s.run.budgetSnapshot.allocation
        (modelTokenPoolForNode request.node)
  protects : protectedReserve s.run.budgetSnapshot.allocation request.node
    ≤ s.available now - request.requested

/-- A request that is not denied has passed every check. -/
theorem GrantChecks.of_denial {request : TokenRequest}
    {borrow : QuestionBorrowDecision} (hmax : 0 < s.maximum)
    (h : modelTokenDenial request borrow now s = none) :
    GrantChecks request now s := by
  unfold modelTokenDenial at h
  simp only at h
  split at h
  case isTrue hzero => omega
  split at h
  case isTrue => cases h
  split at h
  case isTrue => cases h
  split at h
  case isTrue => cases h
  case isFalse havailable hpool hprotects =>
    exact ⟨by omega, fun hpos => by omega, by omega⟩

/-- The grant's global check, as room in the budget account. -/
theorem GrantChecks.room {request : TokenRequest}
    (h : GrantChecks request now s) (hpos : request.requested ≠ 0)
    (hleases : s.LeasesHold now) :
    s.budgetAccount.spent + s.budgetAccount.held + request.requested
      ≤ s.maximum := by
  have havailable := h.available
  unfold TokenLedger.available at havailable
  rw [hleases.outstandingTotal_eq] at havailable
  simp only [TokenLedger.budgetAccount] at havailable ⊢
  omega

end

-- ============================================================== the moves

/-- A row's attempt gives up `n` held tokens and spends `c` of them. -/
structure RowChange (row row' : ModelBudgetReservationRow) (n c : Nat) :
    Prop where
  node : row'.node = row.node
  held : row'.held + n = row.held
  paid : row'.paid = row.paid + c
  covered : c ≤ n

section

variable {row row' : ModelBudgetReservationRow}

/-- An open row holds its reservation and has paid nothing. -/
theorem ModelBudgetReservationRow.held_of_open
    (h : row.status.isClosed = false) : row.held = row.reservedTotal := by
  rw [ModelBudgetReservationRow.held, h]
  rfl

theorem ModelBudgetReservationRow.paid_of_ne
    (h : row.status ≠ .settled) : row.paid = 0 :=
  if_neg h

/-- Settling gives up the reservation and spends the amount. -/
theorem settle_change {amount now : Nat} {estimated : Bool}
    (hopen : row.status.isClosed = false)
    (hle : amount ≤ row.reservedTotal) :
    RowChange row (row.settle amount estimated now) row.reservedTotal
      amount := by
  have hpaid : row.paid = 0 := by
    refine ModelBudgetReservationRow.paid_of_ne fun hsettled => ?_
    rw [hsettled] at hopen
    cases hopen
  refine ⟨rfl, ?_, ?_, hle⟩
  · rw [row.held_of_open hopen]
    exact Nat.zero_add _
  · rw [hpaid, Nat.zero_add]
    rfl

/-- A release gives the reservation back; an uncertain attempt goes on
holding it. -/
theorem ModelBudgetReservationRow.MovedTo.change (h : row.MovedTo row')
    (hreserved : row.status = .reserved) : ∃ n, RowChange row row' n 0 := by
  have hheld : row.held = row.reservedTotal :=
    row.held_of_open (by rw [hreserved]; rfl)
  have hpaid : row.paid = 0 :=
    row.paid_of_ne (by rw [hreserved]; decide)
  rcases h.status with hreleased | huncertain
  · have hheld' : row'.held = 0 := by
      rw [ModelBudgetReservationRow.held, hreleased]
      rfl
    have hpaid' : row'.paid = 0 :=
      row'.paid_of_ne (by rw [hreleased]; decide)
    exact ⟨row.reservedTotal, h.node, by omega, by omega, Nat.zero_le _⟩
  · have hheld' : row'.held = row'.reservedTotal :=
      row'.held_of_open (by rw [huncertain]; rfl)
    have hpaid' : row'.paid = 0 :=
      row'.paid_of_ne (by rw [huncertain]; decide)
    have htotal := h.reservedTotal
    exact ⟨0, h.node, by omega, by omega, Nat.le_refl _⟩

/-- A granted row holds what was requested. -/
theorem TokenRequest.row_held (request : TokenRequest) (now : Nat) :
    (request.row now).held = request.requested := rfl

theorem TokenRequest.row_paid (request : TokenRequest) (now : Nat) :
    (request.row now).paid = 0 := rfl

end

section

variable {s s' : TokenLedger} {pool : ModelTokenPool}
  {attemptId : AttemptId} {row row' : ModelBudgetReservationRow} {n c : Nat}

/-- Changing a row gives up its held tokens in the run's budget. -/
theorem RowChange.budget_held (h : RowChange row row' n c)
    (hrow : s.reservations.lookup attemptId = some row)
    (hrows : s'.reservations = s.reservations.insert attemptId row') :
    s'.budgetAccount.held + n = s.budgetAccount.held := by
  have hover := Counters.weigh_insert_over (·.held) hrow row'
  have hheld := h.held
  simp only [TokenLedger.budgetAccount]
  rw [hrows]
  omega

/-- A row of another pool, new or old, does not count in this one. -/
theorem TokenLedger.poolAccount_other
    (hrows : s'.reservations = s.reservations.insert attemptId row')
    (hother : modelTokenPoolForNode row'.node ≠ pool)
    (hold : ∀ row, s.reservations.lookup attemptId = some row →
      row.node = row'.node) :
    s'.poolAccount pool = s.poolAccount pool := by
  have hweigh : ∀ w, Counters.weigh (inPool pool w) s'.reservations
      = Counters.weigh (inPool pool w) s.reservations := by
    intro w
    have hinsert := Counters.weigh_insert (inPool pool w) s.reservations
      attemptId row'
    have hnew : inPool pool w row' = 0 := inPool_of_ne hother
    have hgone : (s.reservations.lookup attemptId).elim 0 (inPool pool w)
        = 0 := by
      cases hrow : s.reservations.lookup attemptId with
      | none => rfl
      | some row =>
          have hnode : modelTokenPoolForNode row.node ≠ pool := by
            rw [hold row hrow]
            exact hother
          rw [Option.elim_some]
          exact inPool_of_ne hnode
    rw [hnew, hgone, Nat.add_zero, Nat.add_zero] at hinsert
    rw [hrows]
    exact hinsert
  simp only [TokenLedger.poolAccount, hweigh]

/-- Changing a row is a move of its pool's account, and of no other. -/
theorem RowChange.pool_move (h : RowChange row row' n c)
    (hrow : s.reservations.lookup attemptId = some row)
    (hrows : s'.reservations = s.reservations.insert attemptId row')
    (capacity : Nat) :
    Escrow.Move capacity (s.poolAccount pool) (s'.poolAccount pool) := by
  by_cases hpool : modelTokenPoolForNode row.node = pool
  · have hpool' : modelTokenPoolForNode row'.node = pool := by
      rw [h.node, hpool]
    have hin : ∀ w, inPool pool w row = w row := fun w =>
      inPool_of_eq hpool
    have hin' : ∀ w, inPool pool w row' = w row' := fun w =>
      inPool_of_eq hpool'
    have hheld := Counters.weigh_insert_over (inPool pool (·.held)) hrow row'
    have hpaid := Counters.weigh_insert_over (inPool pool (·.paid)) hrow row'
    rw [hin, hin', ← hrows] at hheld hpaid
    have hheld' := h.held
    have hpaid' := h.paid
    refine .settle n c h.covered ?_ ?_
    · show Counters.weigh _ s'.reservations
        ≤ Counters.weigh _ s.reservations + c
      omega
    · show Counters.weigh _ s'.reservations + n
        = Counters.weigh _ s.reservations
      omega
  · have hsame : s'.poolAccount pool = s.poolAccount pool := by
      refine TokenLedger.poolAccount_other hrows ?_ fun row₀ hrow₀ => ?_
      · rwa [h.node]
      · rw [hrow] at hrow₀
        injection hrow₀ with hrow₀
        rw [← hrow₀, h.node]
    rw [hsame]
    exact .stay (Nat.le_refl _) rfl

end

section

variable {s : TokenLedger} {a : LedgerAction}

/-- A charge is covered, so where no open attempt is settled nothing is
charged. -/
theorem TokenLedger.Disciplined.charge_zero (h : s.Disciplined a)
    (hclosed : ∀ attemptId amount,
      a.op.settlement = some (attemptId, amount) →
      s.isOpen attemptId = false) : a.op.charge = 0 := by
  rcases h.covered with hzero | ⟨⟨attemptId, amount⟩, hop, hopen⟩
  · exact hzero
  · rw [hclosed attemptId amount hop] at hopen
    cases hopen

/-- A disciplined step is a move of the run's budget account, under any
capacity its grants have room in. -/
theorem TokenLedger.Disciplined.budget_move_of_room (h : s.Disciplined a)
    (hmax : 0 < s.maximum) {capacity : Nat}
    (hroom : ∀ request ∈ a.op.request, request.requested ≠ 0 →
      GrantChecks request a.now s →
      s.budgetAccount.spent + s.budgetAccount.held + request.requested
        ≤ capacity) :
    Escrow.Move capacity s.budgetAccount (s.step a).budgetAccount := by
  cases s.step_effect a with
  | same hs' =>
      rw [hs']
      exact .stay (Nat.le_refl _) rfl
  | keeps hrows htokens hclosed =>
      rw [h.charge_zero hclosed] at htokens
      exact .stay htokens (congrArg (Counters.weigh _) hrows)
  | grants request borrow hop hpos hfresh hdenial hrows htokens =>
      have hfits := hroom request (by rw [hop]; rfl) hpos
        (GrantChecks.of_denial hmax hdenial)
      refine .hold request.requested hfits htokens ?_
      simp only [TokenLedger.budgetAccount]
      rw [hrows, Counters.weigh_insert_new _ hfresh, request.row_held]
  | settles attemptId amount estimated row hop hrow hopen hrows htokens =>
      have hle := h.settled (attemptId, amount) hop row hrow hopen
      have hchange : RowChange row (row.settle amount estimated a.now)
          row.reservedTotal amount := settle_change hopen hle
      exact .settle row.reservedTotal amount hle htokens
        (hchange.budget_held hrow hrows)
  | moves attemptId row row' hrow hreserved hmoved hrows htokens =>
      obtain ⟨n, hchange⟩ := hmoved.change hreserved
      exact .settle n 0 (Nat.zero_le _) htokens
        (hchange.budget_held hrow hrows)

/-- Every grant has room in the run's budget. -/
theorem TokenLedger.Disciplined.budget_move (h : s.Disciplined a)
    (hmax : 0 < s.maximum) :
    Escrow.Move s.maximum s.budgetAccount (s.step a).budgetAccount :=
  h.budget_move_of_room hmax fun _ _ hpos hchecks =>
    hchecks.room hpos h.leases

/-- A disciplined step is a move of every limited pool's account. -/
theorem TokenLedger.Disciplined.pool_move (h : s.Disciplined a)
    (hmax : 0 < s.maximum) (pool : ModelTokenPool)
    (hlimit : 0 < modelTokenPoolLimits
      s.run.budgetSnapshot.allocation pool) :
    Escrow.Move
      (modelTokenPoolLimits s.run.budgetSnapshot.allocation pool)
      (s.poolAccount pool) ((s.step a).poolAccount pool) := by
  cases s.step_effect a with
  | same hs' =>
      rw [hs']
      exact .stay (Nat.le_refl _) rfl
  | keeps hrows htokens hclosed =>
      have hsame : (s.step a).poolAccount pool = s.poolAccount pool := by
        simp only [TokenLedger.poolAccount, hrows]
      rw [hsame]
      exact .stay (Nat.le_refl _) rfl
  | grants request borrow hop hpos hfresh hdenial hrows htokens =>
      -- The row's pool is the one the grant has checked.
      have hnode : (request.row a.now).node = request.node :=
        textUpTo_of_fits (h.node request (by rw [hop]; rfl))
      by_cases hpool : modelTokenPoolForNode request.node = pool
      · have hroom := (GrantChecks.of_denial hmax hdenial).pool
        rw [hpool, h.leases.poolCommitted_eq pool] at hroom
        have hin : ∀ w, inPool pool w (request.row a.now)
            = w (request.row a.now) := fun w =>
          inPool_of_eq (by rw [hnode, hpool])
        have hheld := Counters.weigh_insert_new (inPool pool (·.held))
          hfresh (request.row a.now)
        have hpaid := Counters.weigh_insert_new (inPool pool (·.paid))
          hfresh (request.row a.now)
        rw [hin, ← hrows] at hheld hpaid
        rw [request.row_held] at hheld
        rw [request.row_paid] at hpaid
        exact .hold request.requested (hroom hlimit) hpaid hheld
      · have hsame : (s.step a).poolAccount pool = s.poolAccount pool := by
          refine TokenLedger.poolAccount_other hrows ?_ fun row hrow => ?_
          · rwa [hnode]
          · rw [hfresh] at hrow
            cases hrow
        rw [hsame]
        exact .stay (Nat.le_refl _) rfl
  | settles attemptId amount estimated row hop hrow hopen hrows htokens =>
      have hle := h.settled (attemptId, amount) hop row hrow hopen
      have hchange : RowChange row (row.settle amount estimated a.now)
          row.reservedTotal amount := settle_change hopen hle
      exact hchange.pool_move hrow hrows _
  | moves attemptId row row' hrow hreserved hmoved hrows htokens =>
      obtain ⟨n, hchange⟩ := hmoved.change hreserved
      exact hchange.pool_move hrow hrows _

end

-- ====================================================== what stays done

/-- The attempt statuses an operation has nothing left to do for. -/
def AttemptOp.isDone : AttemptOp → ReservationStatus → Bool
  | .reserve, _ => true
  | .settle, status => status.isClosed
  | .release, status | .markUncertain, status => status ≠ .reserved

/-- An operation has nothing left to do for an attempt. -/
def TokenLedger.Done (ledger : TokenLedger) (kind : AttemptOp)
    (attemptId : AttemptId) : Prop :=
  ∃ row, ledger.reservations.lookup attemptId = some row
    ∧ kind.isDone row.status

section

variable {s : TokenLedger} {a : LedgerAction} {kind : AttemptOp}
  {attemptId : AttemptId}

/-- A settled or released attempt is done with. -/
theorem AttemptOp.isDone_of_closed {status : ReservationStatus}
    (h : status.isClosed) : kind.isDone status := by
  revert h
  cases kind <;> cases status <;> decide

/-- An attempt whose row says that the operation is not done. -/
theorem TokenLedger.not_done_of_row {row : ModelBudgetReservationRow}
    (hrow : s.reservations.lookup attemptId = some row)
    (h : kind.isDone row.status = false) : ¬ s.Done kind attemptId := by
  rintro ⟨row₀, hrow₀, hdone⟩
  rw [hrow] at hrow₀
  injection hrow₀ with hrow₀
  subst hrow₀
  rw [h] at hdone
  cases hdone

/-- Releasing an attempt, or marking it uncertain, once. -/
theorem changeReserved_attempt
    {change : ModelBudgetReservationRow → ModelBudgetReservationRow}
    (hreserved : kind.isDone .reserved = false)
    (hchange : ∀ row, kind.isDone (change row).status = true) :
    (changeReserved attemptId change s).2 = s
      ∨ ¬ s.Done kind attemptId
        ∧ (changeReserved attemptId change s).2.Done kind attemptId := by
  rcases changeReserved_cases s attemptId change with
    hsame | ⟨row, hrow, hstatus, hs'⟩
  · exact .inl hsame
  · rw [← hstatus] at hreserved
    refine .inr ⟨TokenLedger.not_done_of_row hrow hreserved, ?_⟩
    rw [hs']
    exact ⟨change row, AList.lookup_insert _, hchange row⟩

/-- An operation on an attempt changes nothing, or was not done and is
done now. -/
theorem TokenLedger.step_attempt
    (hop : a.op.attemptOp = some (kind, attemptId)) :
    s.step a = s
      ∨ ¬ s.Done kind attemptId ∧ (s.step a).Done kind attemptId := by
  obtain ⟨now, task, op⟩ := a
  unfold TokenLedger.step
  cases hrun : LedgerAction.run ⟨now, task, op⟩ s with
  | error e => exact .inl rfl
  | ok s' =>
      cases op with
      | reserveModelTokens request borrow =>
          injection hop with hop
          injection hop with hkind hid
          subst hkind hid
          obtain ⟨⟨answer, s''⟩, hreserve, rfl⟩ := ok_of_map hrun
          -- A grant writes the row of the attempt; before, there was none.
          rcases reserveModelTokens_cases hreserve with
            hsame | ⟨-, hfresh, -, hs'⟩
          · exact .inl hsame
          · refine .inr ⟨?_, ?_⟩
            · rintro ⟨row, hrow, -⟩
              rw [hfresh] at hrow
              cases hrow
            · rw [hs']
              exact ⟨request.row now, AList.lookup_insert _, rfl⟩
      | settleModelReservation id amount estimated =>
          injection hop with hop
          injection hop with hkind hid
          subst hkind hid
          rw [← ok_of_lockedRun hrun]
          rcases settleReservationRow_cases s id amount estimated now with
            ⟨hsame, -⟩ | ⟨row, hrow, hopen, hs'⟩
          · exact .inl hsame
          · refine .inr ⟨TokenLedger.not_done_of_row hrow hopen, ?_⟩
            rw [hs']
            exact ⟨_, AList.lookup_insert _, rfl⟩
      | releaseModelReservation id =>
          injection hop with hop
          injection hop with hkind hid
          subst hkind hid
          rw [← ok_of_lockedRun hrun, releaseReservationRow]
          exact changeReserved_attempt rfl (fun row => rfl)
      | markModelReservationUncertain id =>
          injection hop with hop
          injection hop with hkind hid
          subst hkind hid
          rw [← ok_of_lockedRun hrun, uncertainReservationRow]
          exact changeReserved_attempt rfl (fun row => rfl)
      | recordPage usage hit id estimated => cases hop
      | recordExtractionFailure usage id estimated => cases hop
      | saveReplannedQuestions budgets => cases hop

/-- An operation that is done changes nothing. -/
theorem TokenLedger.Done.step_eq (h : s.Done kind attemptId)
    (hop : a.op.attemptOp = some (kind, attemptId)) : s.step a = s := by
  rcases TokenLedger.step_attempt hop with hsame | ⟨hnot, -⟩
  · exact hsame
  · exact absurd h hnot

/-- An operation that changed the ledger is done. -/
theorem TokenLedger.done_of_step_ne
    (hop : a.op.attemptOp = some (kind, attemptId))
    (hne : s.step a ≠ s) : (s.step a).Done kind attemptId := by
  rcases TokenLedger.step_attempt hop with hsame | ⟨-, hdone⟩
  · exact absurd hsame hne
  · exact hdone

/-- Setting another status on a row that is done leaves it done, when
the status only moves forward. -/
theorem TokenLedger.Done.insert {s' : TokenLedger} {id : AttemptId}
    {row row' : ModelBudgetReservationRow} (h : s.Done kind attemptId)
    (hrow : s.reservations.lookup id = some row)
    (hrows : s'.reservations = s.reservations.insert id row')
    (hforward : kind.isDone row.status → kind.isDone row'.status) :
    s'.Done kind attemptId := by
  obtain ⟨row₀, hrow₀, hdone⟩ := h
  by_cases hid : attemptId = id
  · subst hid
    rw [hrow] at hrow₀
    injection hrow₀ with hrow₀
    subst hrow₀
    exact ⟨row', by rw [hrows, AList.lookup_insert], hforward hdone⟩
  · exact ⟨row₀, by rw [hrows, AList.lookup_insert_ne hid, hrow₀], hdone⟩

/-- What is done stays done: a row is never taken away, and its status
only moves forward. -/
theorem TokenLedger.Done.step (h : s.Done kind attemptId)
    (a : LedgerAction) : (s.step a).Done kind attemptId := by
  cases s.step_effect a with
  | same hs' => rwa [hs']
  | keeps hrows htokens hclosed => rwa [TokenLedger.Done, hrows]
  | grants request borrow hop hpos hfresh hdenial hrows htokens =>
      obtain ⟨row, hrow, hdone⟩ := h
      have hne : attemptId ≠ request.attemptId := by
        intro heq
        rw [← heq, hrow] at hfresh
        cases hfresh
      exact ⟨row, by rw [hrows, AList.lookup_insert_ne hne, hrow], hdone⟩
  | settles id amount estimated row hop hrow hopen hrows htokens =>
      exact h.insert hrow hrows fun _ => AttemptOp.isDone_of_closed rfl
  | moves id row row' hrow hreserved hmoved hrows htokens =>
      refine h.insert hrow hrows fun hdone => ?_
      rw [hreserved] at hdone
      -- Only a reservation is done for a reserved attempt.
      cases kind <;> first | rfl | cases hdone

/-- It stays done along every run. -/
theorem TokenLedger.Done.exec (h : s.Done kind attemptId)
    (as : List LedgerAction) :
    (ledgerSystem.exec s as).Done kind attemptId := by
  induction as generalizing s with
  | nil => exact h
  | cons a as ih => exact ih (h.step a)

/-- A repeated settlement, release or mark finds its row closed. -/
theorem TokenLedger.repeatsChangeNothing (s : TokenLedger) :
    s.RepeatsChangeNothing := by
  intro a b kind attemptId hop hne hop' as
  have hdone : (s.step a).Done kind attemptId :=
    TokenLedger.done_of_step_ne hop hne
  exact (hdone.exec as).step_eq hop'

/-- No action opens a row again. -/
theorem TokenLedger.closedStaysClosed (s : TokenLedger) :
    s.ClosedStaysClosed := by
  intro b kind attemptId row hrow hclosed hop as
  have hdone : s.Done kind attemptId :=
    ⟨row, hrow, AttemptOp.isDone_of_closed hclosed⟩
  exact (hdone.exec as).step_eq hop

end

-- ============================================================ the theorem

/-- The run has a token limit, and every account keeps to its own. -/
structure TokenLedger.Bounded (ledger : TokenLedger) : Prop where
  limited : 0 < ledger.maximum
  budget : ledger.budgetAccount.Bounded ledger.maximum
  pools : ∀ pool, (ledger.poolAccount pool).Bounded
    (modelTokenPoolLimits ledger.run.budgetSnapshot.allocation pool)

section

variable {s : TokenLedger}

/-- Nothing is held or paid before the first reservation. -/
theorem TokenLedger.IsFresh.bounded (h : s.IsFresh)
    (hmax : 0 < s.maximum) : s.Bounded := by
  have hempty : ∀ w, Counters.weigh w s.reservations = 0 := by
    intro w
    rw [h.1]
    rfl
  refine ⟨hmax, fun _ => ?_, fun pool _ => ?_⟩
  · show modelTokens s.run.usageSnapshot
      + Counters.weigh _ s.reservations ≤ s.maximum
    rw [hempty]
    exact h.2
  · show Counters.weigh _ s.reservations + Counters.weigh _ s.reservations
      ≤ _
    rw [hempty, hempty]
    exact Nat.zero_le _

/-- A disciplined step keeps every account to its limit. -/
theorem TokenLedger.Bounded.step (h : s.Bounded) {a : LedgerAction}
    (hguard : s.Disciplined a) : (s.step a).Bounded := by
  have hmaximum := s.step_maximum a
  refine ⟨?_, ?_, fun pool => ?_⟩
  · rw [hmaximum]
    exact h.limited
  · rw [hmaximum]
    exact Escrow.Move.bounded (fun hlimit => hguard.budget_move hlimit)
      h.budget
  · rw [s.step_poolLimit a pool]
    exact Escrow.Move.bounded
      (fun hlimit => hguard.pool_move h.limited pool hlimit) (h.pools pool)

/-- Accounts within their limits put the ledger within its budgets. -/
theorem TokenLedger.Bounded.withinBudgets (h : s.Bounded) :
    s.WithinBudgets := by
  refine ⟨fun now => ?_, fun pool now hlimit => ?_⟩
  · have hwithin : s.budgetAccount.spent + s.budgetAccount.held
        ≤ s.maximum := h.budget h.limited
    have houtstanding : s.outstandingTotal now ≤ s.budgetAccount.held :=
      TokenLedger.outstandingTotal_le
    have hspent : s.budgetAccount.spent
        = modelTokens s.run.usageSnapshot := rfl
    omega
  · have hwithin : (s.poolAccount pool).spent + (s.poolAccount pool).held
        ≤ _ := h.pools pool hlimit
    have hcommitted : s.poolCommitted pool now
        ≤ (s.poolAccount pool).spent + (s.poolAccount pool).held :=
      TokenLedger.poolCommitted_le pool
    omega

/-- In every disciplined run of the ledger, from a run with a token
limit that has reserved nothing, charged and outstanding tokens stay
within the limit and every limited pool's committed tokens within the
pool's; and whatever was done to an attempt, doing it again, or doing
anything to an attempt that was settled or released, changes nothing. -/
theorem model_token_ledger_safe (hfresh : s.IsFresh) (hmax : 0 < s.maximum)
    (as : List LedgerAction)
    (h : ledgerSystem.Along TokenLedger.Disciplined s as) :
    ledgerSystem.Throughout
      (fun t => t.WithinBudgets ∧ t.RepeatsChangeNothing
        ∧ t.ClosedStaysClosed) s as := by
  have hkeep : ∀ t a, TokenLedger.Bounded t → t.Disciplined a →
      (ledgerSystem.step t a).Bounded :=
    fun _ _ hinv hguard => hinv.step hguard
  have hbounded := h.throughout hkeep (hfresh.bounded hmax)
  exact hbounded.mono fun t ht =>
    ⟨ht.withinBudgets, t.repeatsChangeNothing, t.closedStaysClosed⟩

end

/-- A running worker with 60,000 tokens, 5,500 of them for the planner. -/
def sampleLedger : TokenLedger where
  run :=
    { status := .running
      phase := .planning
      budgetSnapshot :=
        { maxTokens := some 60000
          allocation :=
            { plannerTokens := some 5500
              researchTokens := some 30500
              verificationTokens := some 9000
              writerTokensInitial := some 9000
              safetyTokens := some 6000 } }
      workerTaskId := some ⟨sampleRunId, .start, 1⟩
      createdAt := 0
      updatedAt := 0 }

/-- The planner reserves and settles, then an extraction is charged
together with its settlement and settled once more. -/
def sampleAttempts : List LedgerAction :=
  [⟨1, ⟨sampleRunId, .start, 1⟩,
      .reserveModelTokens
        { questionId := "__planner__", node := "planner", attemptId := 1
          estimatedInput := 1500, maxOutput := 4000 }
        ⟨false, "not_needed", false⟩⟩,
    ⟨2, ⟨sampleRunId, .start, 1⟩, .settleModelReservation 1 4200 false⟩,
    ⟨3, ⟨sampleRunId, .start, 1⟩,
      .reserveModelTokens
        { questionId := "q1", node := "evidence_extractor", attemptId := 2
          estimatedInput := 3000, maxOutput := 1000 }
        ⟨false, "not_needed", false⟩⟩,
    ⟨4, ⟨sampleRunId, .start, 1⟩,
      .recordPage ⟨2500, 500, 3000⟩ false (some 2) false⟩,
    ⟨5, ⟨sampleRunId, .start, 1⟩, .settleModelReservation 2 3000 false⟩]

theorem model_token_ledger_safe_sample :
    ledgerSystem.Throughout
      (fun t => t.WithinBudgets ∧ t.RepeatsChangeNothing
        ∧ t.ClosedStaysClosed) sampleLedger sampleAttempts :=
  model_token_ledger_safe ⟨rfl, by decide⟩ (by decide) _ (by decide)

-- =============================================================== every row

/-- What a grant establishes, and the other writes keep, holds of every
row. -/
theorem LedgerWrite.forall_rows {s s' : TokenLedger} {a : LedgerAction}
    {P : ModelBudgetReservationRow → Prop}
    (h : LedgerWrite a s s')
    (hgrants : ∀ request ∈ a.op.request, P (request.row a.now))
    (hsettles : ∀ row amount estimated, P row →
      P (ModelBudgetReservationRow.settle row amount estimated a.now))
    (hchanges : ∀ row status settledAt,
      status = .released ∨ status = .uncertain →
      ModelBudgetReservationRow.status row = .reserved → P row →
      P { row with status, settledAt })
    (hs : ∀ attemptId row, s.reservations.lookup attemptId = some row →
      P row) :
    ∀ attemptId row, s'.reservations.lookup attemptId = some row →
      P row := by
  -- A table with one row replaced.
  have hinsert : ∀ (m : AList fun _ : AttemptId => _)
      (id : AttemptId) (row : ModelBudgetReservationRow), P row →
      (∀ attemptId row, m.lookup attemptId = some row → P row) →
      ∀ attemptId row', (m.insert id row).lookup attemptId = some row' →
        P row' := by
    intro m id row hrow hm attemptId row' hlookup
    by_cases hid : attemptId = id
    · subst hid
      rw [AList.lookup_insert] at hlookup
      injection hlookup with hlookup
      exact hlookup ▸ hrow
    · rw [AList.lookup_insert_ne hid] at hlookup
      exact hm attemptId row' hlookup
  cases h with
  | none => exact hs
  | grants request borrow hop hpos hfresh hdenial =>
      exact hinsert _ _ _ (hgrants request (by rw [hop]; rfl)) hs
  | charges charged hcharged hop =>
      rw [hcharged.rows]
      exact hs
  | settles charged hcharged id amount estimated hop hamount =>
      rw [← hcharged.rows] at hs
      rcases settleReservationRow_cases charged id amount estimated a.now
        with ⟨hsame, -⟩ | ⟨row, hrow, -, hs'⟩
      · rw [hsame]
        exact hs
      · rw [hs']
        exact hinsert _ _ _ (hsettles row amount estimated (hs id row hrow))
          hs
  | changes charged hcharged id change hop hcharge hchange =>
      rw [← hcharged.rows] at hs
      rcases changeReserved_cases charged id change with
        hsame | ⟨row, hrow, hreserved, hs'⟩
      · rw [hsame]
        exact hs
      · rw [hs']
        obtain ⟨status, settledAt, hstatus, hrow'⟩ := hchange row
        refine hinsert _ _ _ ?_ hs
        rw [hrow']
        exact hchanges row status settledAt hstatus hreserved
          (hs id row hrow)
  | replans replanned budgets hop hrows husage hbudget =>
      rw [hrows]
      exact hs

end DeepResearch.Run
