/-
A question never spends more than two of its targets, and more than one
and a half only under a recovery exception.

The gate is asked before a request would take the spend over the target,
with the spend as the ledger has it then (`decideQuestionBorrow_bounds`).
No other step raises the spend: an attempt ends with at most what was
reserved for it (`RowsEffect`). The caps are floats cut to integers;
`roundToDouble` errs by less than one part in 2 ^ 52, which leaves them
in order.
-/
import DeepResearch.Run.Proofs.Ledger
import DeepResearch.Run.QuestionBorrow

namespace DeepResearch.Run

-- ================================================================ the caps

/-- The last place of a number's double. -/
theorem lastPlace_le (n : ℕ) (h : n ≠ 0) :
    2 ^ (n.log2 + 1 - 53) = 1
      ∨ 2 ^ 52 * 2 ^ (n.log2 + 1 - 53) ≤ n := by
  by_cases hsmall : n.log2 + 1 ≤ 53
  · left
    rw [Nat.sub_eq_zero_of_le hsmall, pow_zero]
  · right
    rw [← pow_add]
    have hexp : 52 + (n.log2 + 1 - 53) = n.log2 := by omega
    rw [hexp]
    exact Nat.log2_self_le h

/-- Rounding errs by less than one part in 2 ^ 52, either way. -/
theorem roundToDouble_bounds (n : ℕ) :
    2 ^ 52 * n ≤ 2 ^ 52 * roundToDouble n + n
      ∧ 2 ^ 52 * roundToDouble n ≤ 2 ^ 52 * n + n := by
  rcases Nat.eq_zero_or_pos n with rfl | hpos
  · decide
  have hplace := lastPlace_le n (Nat.ne_of_gt hpos)
  have hunit : 0 < 2 ^ (n.log2 + 1 - 53) := Nat.two_pow_pos _
  unfold roundToDouble
  dsimp only
  generalize 2 ^ (n.log2 + 1 - 53) = unit at hplace hunit ⊢
  have hdiv : unit * (n / unit) + n % unit = n := Nat.div_add_mod n unit
  have hrest : n % unit < unit := Nat.mod_lt n hunit
  have hkept : n / unit * unit = unit * (n / unit) := Nat.mul_comm _ _
  split
  case isTrue hup =>
    rw [Nat.add_mul, Nat.one_mul, hkept]
    rcases hplace with rfl | hplace <;> omega
  case isFalse =>
    rw [hkept]
    rcases hplace with rfl | hplace <;> omega

theorem le_borrowCap (t : ℕ) : t ≤ borrowCap t := by
  have hdouble := (roundToDouble_bounds t).1
  have hproduct := (roundToDouble_bounds (roundToDouble t * 3)).1
  unfold borrowCap floatShare
  omega

theorem borrowCap_le_recoveryCap (t : ℕ) : borrowCap t ≤ recoveryCap t := by
  have hthree := (roundToDouble_bounds (roundToDouble t * 3)).2
  have htwo := (roundToDouble_bounds (roundToDouble t * 2)).1
  unfold borrowCap recoveryCap floatShare
  omega

-- ================================================================ the gate

/-- What the gate allows stays in the normal envelope, or, under an
exception, in the wider one. -/
theorem decideQuestionBorrow_bounds {facts : BorrowFacts}
    {projected target : ℕ}
    (h : (decideQuestionBorrow facts projected target).allowed = true) :
    projected ≤ borrowCap target
      ∨ facts.recoveryException = true ∧ projected ≤ recoveryCap target := by
  unfold decideQuestionBorrow at h
  split at h
  case isTrue hwithin =>
    exact .inl (le_trans hwithin (le_borrowCap target))
  case isFalse =>
    split at h
    case h_1 => cases h
    case h_2 =>
      split at h
      case isTrue => cases h
      case isFalse hcap =>
        split at h
        case isTrue => cases h
        case isFalse hrecovery =>
          cases hexception : facts.recoveryException with
          | true =>
              refine .inr ⟨rfl, ?_⟩
              by_contra hover
              exact hrecovery ⟨hexception, Nat.lt_of_not_le hover⟩
          | false =>
              refine .inl ?_
              by_contra hover
              exact hcap ⟨Nat.lt_of_not_le hover, hexception⟩

-- ================================================================ the rows

/-- What a step does to the rows: nothing, the row of a granted attempt,
or the change of an open attempt's row, which is settled or keeps its
totals. -/
inductive RowsEffect (a : LedgerAction) (s s' : TokenLedger) : Prop
  | keeps (hrows : s'.reservations = s.reservations)
  | grants (request : TokenRequest) (borrow : QuestionBorrowDecision)
      (hop : a.op = .reserveModelTokens request borrow)
      (hfresh : s.reservations.lookup request.attemptId = none)
      (hdenial : modelTokenDenial request borrow a.now s = none)
      (hrows : s'.reservations
        = s.reservations.insert request.attemptId (request.row a.now))
  | settles (attemptId : AttemptId) (amount : Nat) (estimated : Bool)
      (row : ModelBudgetReservationRow)
      (hop : a.op.settlement = some (attemptId, amount))
      (hrow : s.reservations.lookup attemptId = some row)
      (hopen : row.status.isClosed = false)
      (hrows : s'.reservations
        = s.reservations.insert attemptId
          (row.settle amount estimated a.now))
  | moves (attemptId : AttemptId) (row row' : ModelBudgetReservationRow)
      (hrow : s.reservations.lookup attemptId = some row)
      (hreserved : row.status = .reserved)
      (hquestion : row'.questionId = row.questionId)
      (hactual : row'.actualTotal = row.actualTotal)
      (htotal : row'.reservedTotal = row.reservedTotal)
      (hrows : s'.reservations = s.reservations.insert attemptId row')

/-- Every step has one of the effects. -/
theorem TokenLedger.step_rowsEffect (s : TokenLedger) (a : LedgerAction) :
    RowsEffect a s (s.step a) := by
  have hwrite := s.step_write a
  generalize s.step a = s' at hwrite ⊢
  cases hwrite with
  | none => exact .keeps rfl
  | grants request borrow hop hpos hfresh hdenial =>
      exact .grants request borrow hop hfresh hdenial rfl
  | charges charged hcharged hop => exact .keeps hcharged.rows
  | settles charged hcharged id amount estimated hop hamount =>
      rcases settleReservationRow_cases charged id amount estimated a.now
        with ⟨hsame, -⟩ | ⟨row, hrow, hopen, hs'⟩
      · rw [hsame]
        exact .keeps hcharged.rows
      · rw [hs']
        rw [hcharged.rows] at hrow
        exact .settles id amount estimated row hop hrow hopen
          (by rw [hcharged.rows])
  | changes charged hcharged id change hop hcharge hchange =>
      rcases changeReserved_cases charged id change with
        hsame | ⟨row, hrow, hreserved, hs'⟩
      · rw [hsame]
        exact .keeps hcharged.rows
      · rw [hs']
        rw [hcharged.rows] at hrow
        obtain ⟨status, settledAt, -, hrow'⟩ := hchange row
        exact .moves id row (change row) hrow hreserved (by rw [hrow'])
          (by rw [hrow']) (by rw [hrow']) (by rw [hcharged.rows])
  | replans replanned budgets hop hrows husage hbudget =>
      exact .keeps hrows

-- ============================================================ the spend

/-- A row's part of the question's spend. -/
def ModelBudgetReservationRow.spendOf (row : ModelBudgetReservationRow)
    (questionId : String) : Nat :=
  if row.questionId = textUpTo 50 questionId then row.spend else 0

/-- Attempts under way have not been charged. -/
def TokenLedger.OpenUncharged (ledger : TokenLedger) : Prop :=
  ∀ attemptId row, ledger.reservations.lookup attemptId = some row →
    row.status.isClosed = false → row.actualTotal = none

section

variable {s s' : TokenLedger} {attemptId : AttemptId}
  {row row' : ModelBudgetReservationRow} {questionId : String}

/-- A row of the same question that is replaced, at no more spend when
the question is the one that is counted. -/
theorem TokenLedger.questionSpend_over
    (hrow : s.reservations.lookup attemptId = some row)
    (hrows : s'.reservations = s.reservations.insert attemptId row')
    (hquestion : row'.questionId = row.questionId)
    (hspend : row.questionId = textUpTo 50 questionId →
      row'.spend ≤ row.spend) :
    s'.questionSpend questionId ≤ s.questionSpend questionId := by
  have hle : row'.spendOf questionId ≤ row.spendOf questionId := by
    unfold ModelBudgetReservationRow.spendOf
    rw [hquestion]
    split
    case isTrue hq => exact hspend hq
    case isFalse => exact Nat.le_refl 0
  have hover := Counters.weigh_insert_over (·.spendOf questionId) hrow row'
  show Counters.weigh (·.spendOf questionId) s'.reservations
    ≤ Counters.weigh (·.spendOf questionId) s.reservations
  rw [hrows]
  omega

/-- The new row of a granted request. -/
theorem TokenLedger.questionSpend_new {request : TokenRequest} {now : Nat}
    (hfresh : s.reservations.lookup request.attemptId = none)
    (hrows : s'.reservations
      = s.reservations.insert request.attemptId (request.row now)) :
    s'.questionSpend questionId
      = s.questionSpend questionId
        + if textUpTo 50 request.questionId = textUpTo 50 questionId then
            request.requested
          else 0 := by
  have hnew := Counters.weigh_insert_new (·.spendOf questionId) hfresh
    (request.row now)
  show Counters.weigh (·.spendOf questionId) s'.reservations = _
  rw [hrows, hnew]
  rfl

/-- The spend of an attempt under way is its reservation. -/
theorem ModelBudgetReservationRow.spend_of_open
    (hopen : row.status.isClosed = false) (hnone : row.actualTotal = none) :
    row.spend = row.reservedTotal := by
  unfold ModelBudgetReservationRow.spend
  rw [if_neg (fun hreleased => by rw [hreleased] at hopen; cases hopen),
    hnone]
  rfl

theorem ModelBudgetReservationRow.spend_le_of_uncharged
    (hnone : row.actualTotal = none) : row.spend ≤ row.reservedTotal := by
  unfold ModelBudgetReservationRow.spend
  split
  · exact Nat.zero_le _
  · rw [hnone]
    exact Nat.le_refl _

/-- A step leaves the attempts under way uncharged. -/
theorem TokenLedger.openUncharged_step (a : LedgerAction)
    (hs : s.OpenUncharged) : (s.step a).OpenUncharged := by
  refine (s.step_write a).forall_rows (fun request _ _ => rfl) ?_ ?_ hs
  · intro row amount estimated _ hopen
    cases hopen
  · intro row status settledAt _ hreserved hrow _
    exact hrow (by rw [hreserved]; rfl)

end

-- ============================================================== the steps

/-- What the bound on a question's spend takes for granted while the
question's target is `t`: the run has a token limit, another question's
column entry is not taken for this one's, and an attempt of the question
is settled for at most its reservation. -/
structure OnTarget (questionId : String) (t : Nat) (s : TokenLedger)
    (a : BorrowAction) : Prop where
  limited : 0 < s.maximum
  target : s.questionTarget questionId = t
  named : ∀ request ∈ a.action.op.request,
    textUpTo 50 request.questionId = textUpTo 50 questionId →
      request.questionId = questionId
  settled : ∀ p ∈ a.action.op.settlement,
    ∀ row ∈ s.reservations.lookup p.1, row.status.isClosed = false →
      row.questionId = textUpTo 50 questionId → p.2 ≤ row.reservedTotal

instance decidableOnTarget (questionId : String) (t : Nat) (s : TokenLedger)
    (a : BorrowAction) : Decidable (OnTarget questionId t s a) :=
  decidable_of_iff
    (0 < s.maximum ∧ s.questionTarget questionId = t
      ∧ (∀ request ∈ a.action.op.request,
        textUpTo 50 request.questionId = textUpTo 50 questionId →
          request.questionId = questionId)
      ∧ ∀ p ∈ a.action.op.settlement,
        ∀ row ∈ s.reservations.lookup p.1, row.status.isClosed = false →
          row.questionId = textUpTo 50 questionId →
            p.2 ≤ row.reservedTotal)
    ⟨fun ⟨hl, ht, hn, hs⟩ => ⟨hl, ht, hn, hs⟩,
      fun ⟨hl, ht, hn, hs⟩ => ⟨hl, ht, hn, hs⟩⟩

section

variable {s : TokenLedger} {a : BorrowAction} {questionId : String}
  {t : Nat}

/-- A grant stays on the question's target, or the gate allowed it. -/
theorem allowed_of_denial {request : TokenRequest}
    {borrow : QuestionBorrowDecision} {now : Nat} (hmax : 0 < s.maximum)
    (htarget : 0 < s.questionTarget request.questionId)
    (h : modelTokenDenial request borrow now s = none) :
    s.questionSpend request.questionId + request.requested
        ≤ s.questionTarget request.questionId
      ∨ borrow.allowed = true := by
  unfold TokenLedger.questionTarget at htarget ⊢
  unfold modelTokenDenial at h
  simp only at h
  split at h
  case isTrue hzero => omega
  split at h
  case isTrue => cases h
  split at h
  case isTrue => cases h
  split at h
  case isTrue => cases h
  split at h
  case isTrue => cases h
  case isFalse hquestion =>
    by_cases hallowed : borrow.allowed = true
    · exact .inr hallowed
    · refine .inl ?_
      by_contra hover
      exact hquestion ⟨htarget, Nat.lt_of_not_le hover,
        Bool.eq_false_iff.mpr hallowed⟩

/-- The gate decides requests and nothing else. -/
theorem BorrowAction.decided_settlement (a : BorrowAction)
    (s : TokenLedger) :
    (a.decided s).op.settlement = a.action.op.settlement := by
  obtain ⟨⟨now, task, op⟩, facts⟩ := a
  cases op <;> rfl

theorem BorrowAction.decided_reserve {request : TokenRequest}
    {borrow : QuestionBorrowDecision}
    (h : (a.decided s).op = .reserveModelTokens request borrow) :
    a.action.op.request = some request
      ∧ borrow
        = (s.borrowDecision request a.facts).toQuestionBorrowDecision := by
  obtain ⟨⟨now, task, op⟩, facts⟩ := a
  cases op with
  | reserveModelTokens request' borrow' =>
      obtain ⟨rfl, rfl⟩ : request' = request ∧ _ = borrow := by
        simpa [BorrowAction.decided] using h
      exact ⟨rfl, rfl⟩
  | _ => cases h

/-- A step lowers the question's spend, or takes it to where the gate
lets it go. -/
theorem OnTarget.step_spend (h : OnTarget questionId t s a) (ht : 0 < t)
    (hs : s.OpenUncharged) :
    (borrowSystem.step s a).questionSpend questionId
        ≤ s.questionSpend questionId
      ∨ (borrowSystem.step s a).questionSpend questionId ≤ borrowCap t
      ∨ a.facts.recoveryException = true
        ∧ (borrowSystem.step s a).questionSpend questionId
          ≤ recoveryCap t := by
  have heffect : RowsEffect (a.decided s) s (borrowSystem.step s a) :=
    s.step_rowsEffect (a.decided s)
  generalize borrowSystem.step s a = s' at heffect ⊢
  cases heffect with
  | keeps hrows =>
      refine .inl (Nat.le_of_eq ?_)
      unfold TokenLedger.questionSpend
      rw [hrows]
  | settles attemptId amount estimated row hop hrow hopen hrows =>
      rw [a.decided_settlement] at hop
      refine .inl
        (TokenLedger.questionSpend_over hrow hrows rfl fun hq => ?_)
      -- A settlement within its reservation spends no more than was held.
      have hle : amount ≤ row.reservedTotal :=
        h.settled _ hop row hrow hopen hq
      rw [row.spend_of_open hopen (hs attemptId row hrow hopen)]
      exact hle
  | moves attemptId row row' hrow hreserved hquestion hactual htotal hrows =>
      have hopen : row.status.isClosed = false := by
        rw [hreserved]
        rfl
      have hnone := hs attemptId row hrow hopen
      have hle : row'.spend ≤ row.spend := by
        rw [row.spend_of_open hopen hnone, ← htotal]
        exact row'.spend_le_of_uncharged (hactual.trans hnone)
      exact .inl
        (TokenLedger.questionSpend_over hrow hrows hquestion fun _ => hle)
  | grants request borrow hop hfresh hdenial hrows =>
      have hnew : s'.questionSpend questionId = _ :=
        TokenLedger.questionSpend_new hfresh hrows
      obtain ⟨hrequest, rfl⟩ := BorrowAction.decided_reserve hop
      by_cases hq : textUpTo 50 request.questionId = textUpTo 50 questionId
      · have hid := h.named request hrequest hq
        subst hid
        rw [if_pos rfl] at hnew
        have htarget : 0 < s.questionTarget request.questionId := by
          rw [h.target]
          exact ht
        rw [hnew]
        -- Within the target, or past the borrow gate.
        rcases allowed_of_denial h.limited htarget hdenial with
          hwithin | hallowed
        · rw [h.target] at hwithin
          exact .inr (.inl (le_trans hwithin (le_borrowCap t)))
        · have hbounds := decideQuestionBorrow_bounds hallowed
          rw [h.target] at hbounds
          exact .inr hbounds
      · rw [if_neg hq] at hnew
        exact .inl (Nat.le_of_eq hnew)

end

-- ============================================================ the theorem

section

variable {s : TokenLedger} {questionId : String} {t : Nat}

/-- Attempts under way are uncharged in every state. -/
theorem openUncharged_of_reachable
    (h : Transition.Reachable borrowSystem s) : s.OpenUncharged := by
  refine h.invariant (fun s hinit => ?_) fun s a hs => ?_
  · intro attemptId row hrow
    rw [hinit.1] at hrow
    cases hrow
  · exact s.openUncharged_step (a.decided s) hs

/-- While a question's target is `t`, its spend stays within two targets,
and a step takes it beyond one and a half only if one of the recovery
exceptions holds then. -/
theorem question_spend_bounded (hs : Transition.Reachable borrowSystem s)
    (ht : 0 < t) (hspend : s.questionSpend questionId ≤ recoveryCap t)
    (as : List BorrowAction)
    (h : borrowSystem.Along (OnTarget questionId t) s as) :
    borrowSystem.Throughout
        (fun u => u.questionSpend questionId ≤ recoveryCap t) s as
      ∧ borrowSystem.Along
        (fun u a =>
          u.questionSpend questionId
              < (borrowSystem.step u a).questionSpend questionId →
            borrowCap t
              < (borrowSystem.step u a).questionSpend questionId →
            a.facts.recoveryException = true) s as := by
  have hkeep : ∀ u a,
      TokenLedger.OpenUncharged u
        ∧ u.questionSpend questionId ≤ recoveryCap t →
      OnTarget questionId t u a →
      TokenLedger.OpenUncharged (borrowSystem.step u a)
        ∧ (borrowSystem.step u a).questionSpend questionId
          ≤ recoveryCap t := by
    intro u a hu hguard
    refine ⟨u.openUncharged_step (a.decided u) hu.1, ?_⟩
    have hcaps := borrowCap_le_recoveryCap t
    rcases hguard.step_spend ht hu.1 with hless | hcap | ⟨-, hcap⟩
    · exact le_trans hless hu.2
    · exact le_trans hcap hcaps
    · exact hcap
  have hinv := h.throughout hkeep ⟨openUncharged_of_reachable hs, hspend⟩
  refine ⟨hinv.mono fun u hu => hu.2, ?_⟩
  refine h.along_of_throughout hinv fun u a hu hguard hgrows hbeyond => ?_
  rcases hguard.step_spend ht hu.1 with hless | hcap | ⟨hexception, -⟩
  · omega
  · omega
  · exact hexception

end

/-- A run of 60,000 tokens, 4,000 of them for its question. -/
def borrowSampleLedger : TokenLedger where
  run :=
    { sampleLedger.run with
      budgetSnapshot :=
        { sampleLedger.run.budgetSnapshot with
          allocation :=
            { sampleLedger.run.budgetSnapshot.allocation with
              questionTokenBudgets := [("q1", 4000)] } } }

/-- A question of the first priority whose risk is unresolved. -/
def borrowSampleFacts : BorrowFacts where
  state :=
    { priority := 1
      unresolvedHighRisk := true
      gapOpen := true
      openDimensionKeys := []
      verificationState := .required
      borrowEligible := true }
  allFirstPassesComplete := true
  expectedUtility := 1
  lowGainStreak := 0

/-- The question spends most of its target and borrows the rest of what
its exception allows. -/
def borrowSampleActions : List BorrowAction :=
  [⟨⟨1, ⟨sampleRunId, .start, 1⟩,
        .reserveModelTokens
          { questionId := "q1", node := "evidence_extractor", attemptId := 1
            estimatedInput := 3000, maxOutput := 500 }
          ⟨false, "not_needed", false⟩⟩, borrowSampleFacts⟩,
    ⟨⟨2, ⟨sampleRunId, .start, 1⟩, .settleModelReservation 1 3400 false⟩,
      borrowSampleFacts⟩,
    ⟨⟨3, ⟨sampleRunId, .start, 1⟩,
        .reserveModelTokens
          { questionId := "q1", node := "evidence_extractor", attemptId := 2
            estimatedInput := 4000, maxOutput := 600 }
          ⟨false, "not_needed", false⟩⟩, borrowSampleFacts⟩]

theorem question_spend_bounded_sample :
    (borrowSystem.exec borrowSampleLedger
        borrowSampleActions).questionSpend "q1" = 8000
      ∧ borrowSystem.Throughout
        (fun u => u.questionSpend "q1" ≤ recoveryCap 4000)
        borrowSampleLedger borrowSampleActions
      ∧ borrowSystem.Along
        (fun u a =>
          u.questionSpend "q1"
              < (borrowSystem.step u a).questionSpend "q1" →
            borrowCap 4000 < (borrowSystem.step u a).questionSpend "q1" →
            a.facts.recoveryException = true)
        borrowSampleLedger borrowSampleActions :=
  ⟨by decide +kernel,
    question_spend_bounded (.init ⟨rfl, by decide⟩) (by decide)
      (by decide) borrowSampleActions (by decide +kernel)⟩

end DeepResearch.Run
