/-
What a research attempt holds, call by call.

`Balanced` is the balance of the three ledgers while the method runs: the
worker's page slots are those it had plus the granted ones that are not
settled, the extraction slots are those there were plus the one in hand,
and no reservation of the attempt is reserved but the one in hand. Which
are in hand is read off the call in progress. Every helper of the method
keeps the balance or closes an item of it.

`step_effect` says once what a call can do: the method goes on in
balance, it is left with nothing held, or an exception escapes.
-/
import DeepResearch.Run.Proofs.ModelBudget
import DeepResearch.Run.ResearchAttempt

namespace DeepResearch.Run

-- ========================================================= the page ledger

section

variable (usage : UsageSnapshot) (task : TaskId)

/-- An owner that is left without slots has no entry, and so counts none.
-/
theorem count_setOwnedPageSlots (owners : AList fun _ : TaskId => Nat)
    (left : Nat) :
    Counters.count (setOwnedPageSlots owners task left) task = left := by
  unfold setOwnedPageSlots Counters.count
  split
  case isTrue hzero =>
    rw [AList.lookup_erase, hzero]
    rfl
  case isFalse =>
    rw [AList.lookup_insert]
    rfl

/-- Without any entry a worker owns nothing. -/
theorem ownedPageSlots_of_nil
    (h : usage.pageSlotsReservedByWorker.entries = []) :
    ownedPageSlots usage task = 0 := by
  unfold ownedPageSlots
  have hle := Counters.count_le_total usage.pageSlotsReservedByWorker task
  rw [Counters.total, Counters.weigh_of_entries_nil id h] at hle
  exact Nat.le_zero.mp hle

/-- A settlement uses up a slot of the owner, where it has one. -/
theorem ownedPageSlots_settle :
    ownedPageSlots (settlePageSlot usage task) task
      = ownedPageSlots usage task - 1 := by
  by_cases hnil : usage.pageSlotsReservedByWorker.entries = []
  · have hzero := ownedPageSlots_of_nil usage task hnil
    have hsame : ownedPageSlots (settlePageSlot usage task) task
        = ownedPageSlots usage task := by
      unfold settlePageSlot ownedPageSlots
      simp only [hnil, if_true]
    rw [hsame, hzero]
  · have howned : ownedPageSlots (settlePageSlot usage task) task
        = ownedPageSlots usage task - min 1 (ownedPageSlots usage task) := by
      unfold settlePageSlot
      simp only [hnil, if_false]
      exact count_setOwnedPageSlots task _ _
    rw [howned]
    omega

/-- A release gives back as many as are asked for, or all there are. -/
theorem ownedPageSlots_release (count : Nat) :
    ownedPageSlots (releasePageSlots usage task count) task
      = ownedPageSlots usage task - count := by
  by_cases hnil : usage.pageSlotsReservedByWorker.entries = []
  · have hzero := ownedPageSlots_of_nil usage task hnil
    have hsame : ownedPageSlots (releasePageSlots usage task count) task
        = ownedPageSlots usage task := by
      unfold releasePageSlots ownedPageSlots
      simp only [hnil, if_true]
    rw [hsame, hzero]
    omega
  · have howned : ownedPageSlots (releasePageSlots usage task count) task
        = ownedPageSlots usage task
          - min count (ownedPageSlots usage task) := by
      unfold releasePageSlots
      simp only [hnil, if_false]
      exact count_setOwnedPageSlots task _ _
    rw [howned]
    omega

/-- A reservation adds what was granted to the slots of its owner. -/
theorem ownedPageSlots_reserve (budget : BudgetSnapshot) (requested : Nat)
    (fresh : Bool) :
    ownedPageSlots (reservePageSlots budget usage task requested fresh) task
      = ownedPageSlots usage task
        + (pageSlotGrant budget usage requested fresh).granted := by
  unfold reservePageSlots
  dsimp only
  split
  case isTrue hzero => rw [hzero, Nat.add_zero]
  case isFalse =>
    unfold ownedPageSlots Counters.count
    rw [AList.lookup_insert]
    rfl

/-- Page slots and extraction slots are counted apart. -/
theorem extractionSlots_reserve (budget : BudgetSnapshot) (requested : Nat)
    (fresh : Bool) :
    (reservePageSlots budget usage task requested
        fresh).extractionSlotsReserved
      = usage.extractionSlotsReserved := by
  unfold reservePageSlots
  dsimp only
  split <;> rfl

/-- A failed extraction gives its slot back and leaves the page slots. -/
theorem recordExtractionFailure_slots (call : Option TokenUsage) :
    (recordExtractionFailure usage call).pageSlotsReservedByWorker
        = usage.pageSlotsReservedByWorker
      ∧ (recordExtractionFailure usage call).extractionSlotsReserved
        = usage.extractionSlotsReserved - 1 := by
  cases call <;> exact ⟨rfl, rfl⟩

end

-- ============================================================ reservations

/-- The attempt is not in status `reserved`. -/
def TokenLedger.NotReserved (ledger : TokenLedger) (attemptId : AttemptId) :
    Prop :=
  ∀ row, ledger.reservations.lookup attemptId = some row →
    row.status ≠ .reserved

/-- One reservation was closed, and no other touched; of the run only the
count of settlements may differ. -/
structure ClosesReservation (attemptId : AttemptId)
    (ledger ledger' : TokenLedger) : Prop where
  closed : ledger'.NotReserved attemptId
  others : ∀ other, other ≠ attemptId →
    ledger'.reservations.lookup other = ledger.reservations.lookup other
  run : ∃ settled, ledger'.run =
    { ledger.run with
      usageSnapshot :=
        { ledger.run.usageSnapshot with settledReservations := settled } }

section

variable {ledger : TokenLedger} {attemptId : AttemptId}

/-- A settlement closes the reservation of the attempt. -/
theorem settleReservationRow_closes (amount : Nat) (estimated : Bool)
    (now : Nat) :
    ClosesReservation attemptId ledger
      (settleReservationRow attemptId amount estimated now ledger).2 := by
  rcases settleReservationRow_cases ledger attemptId amount estimated now
    with ⟨hsame, hclosed⟩ | ⟨row, hrow, -, hs'⟩
  · rw [hsame]
    refine ⟨fun row hrow hreserved => ?_, fun _ _ => rfl, ⟨_, rfl⟩⟩
    rw [TokenLedger.isOpen_of_some hrow, hreserved] at hclosed
    cases hclosed
  · rw [hs']
    refine ⟨fun row' hrow' => ?_, fun other hne => ?_, ⟨_, rfl⟩⟩
    · have hinsert := AList.lookup_insert
        (b := row.settle amount estimated now) ledger.reservations
        (a := attemptId)
      rw [hinsert] at hrow'
      rw [← Option.some.inj hrow']
      show ReservationStatus.settled ≠ .reserved
      decide
    · exact AList.lookup_insert_ne hne

/-- Any change of the reserved row to another status closes it. -/
theorem changeReserved_closes
    {change : ModelBudgetReservationRow → ModelBudgetReservationRow}
    (hchange : ∀ row, (change row).status ≠ .reserved) :
    ClosesReservation attemptId ledger
      (changeReserved attemptId change ledger).2 := by
  unfold changeReserved
  cases hrow : ledger.reservations.lookup attemptId with
  | none =>
      refine ⟨fun row h => ?_, fun _ _ => rfl, ⟨_, rfl⟩⟩
      have hnone : ledger.reservations.lookup attemptId = some row := h
      rw [hrow] at hnone
      cases hnone
  | some row =>
      dsimp only
      split
      case isTrue =>
        refine ⟨fun row' hrow' => ?_, fun other hne => ?_, ⟨_, rfl⟩⟩
        · rw [AList.lookup_insert] at hrow'
          rw [← Option.some.inj hrow']
          exact hchange row
        · exact AList.lookup_insert_ne hne
      case isFalse hreserved =>
        refine ⟨fun row' hrow' => ?_, fun _ _ => rfl, ⟨_, rfl⟩⟩
        have hsame : ledger.reservations.lookup attemptId = some row' :=
          hrow'
        rw [hrow] at hsame
        rw [← Option.some.inj hsame]
        exact hreserved

/-- So does the mark that the usage is uncertain. -/
theorem uncertainReservationRow_closes :
    ClosesReservation attemptId ledger
      (uncertainReservationRow attemptId ledger).2 := by
  refine changeReserved_closes fun row => ?_
  show ReservationStatus.uncertain ≠ .reserved
  decide

/-- And so does a release. -/
theorem releaseReservationRow_closes (now : Nat) :
    ClosesReservation attemptId ledger
      (releaseReservationRow attemptId now ledger).2 := by
  refine changeReserved_closes fun row => ?_
  show ReservationStatus.released ≠ .reserved
  decide

end

-- ============================================================= the balance

abbrev AttemptState.usage (s : AttemptState) : UsageSnapshot :=
  s.ledger.run.usageSnapshot

/-- While the method runs: the owner's page slots are those it started
with and the granted ones not settled, `extra` extraction slots are in
hand, and of the attempt's reservations only `current` may be
reserved. -/
structure Balanced (start : TokenLedger) (task : TaskId) (extra : Nat)
    (current : Option AttemptId) (s : AttemptState) : Prop where
  owner : s.ledger.run.OwnedBy task
  pages : ownedPageSlots s.usage task
    = ownedPageSlots start.run.usageSnapshot task + s.granted
      - s.settledSlots
  extraction : s.usage.extractionSlotsReserved
    = start.run.usageSnapshot.extractionSlotsReserved + extra
  closed : ∀ attemptId ∈ s.attempts, current ≠ some attemptId →
    s.ledger.NotReserved attemptId

/-- Nothing the attempt took is held. Page slots are counted and have no
names, so none of the attempt's own is left when the owner holds no more
than before; it may hold fewer, where pages beyond the grant were settled
from slots it had. Extraction slots are as before, and no reservation of
the attempt is in status `reserved`. -/
structure LeavesNothing (start : TokenLedger) (task : TaskId)
    (s : AttemptState) : Prop where
  pages : ownedPageSlots s.usage task
    ≤ ownedPageSlots start.run.usageSnapshot task
  extraction : s.usage.extractionSlotsReserved
    = start.run.usageSnapshot.extractionSlotsReserved
  closed : ∀ attemptId ∈ s.attempts, s.ledger.NotReserved attemptId

section

variable {start : TokenLedger} {task : TaskId} {target : AttemptTarget}
  {extra : Nat} {current : Option AttemptId} {attemptId : AttemptId}
  {s s' : AttemptState}

/-- The balance is one of the ledgers, the slot counters and the attempts;
it does not read the other variables. -/
theorem Balanced.of_same (h : Balanced start task extra current s)
    (hledger : s'.ledger = s.ledger) (hgranted : s'.granted = s.granted)
    (hsettled : s'.settledSlots = s.settledSlots)
    (hattempts : s'.attempts = s.attempts) :
    Balanced start task extra current s' where
  owner := by
    rw [hledger]
    exact h.owner
  pages := by
    rw [AttemptState.usage, hledger, hgranted, hsettled]
    exact h.pages
  extraction := by
    rw [AttemptState.usage, hledger]
    exact h.extraction
  closed := by
    rw [hledger, hattempts]
    exact h.closed

/-- The balance does not read the call. -/
theorem Balanced.goto (h : Balanced start task extra current s)
    (call : AttemptCall) : Balanced start task extra current (s.goto call) :=
  h.of_same rfl rfl rfl rfl

/-- What is left behind does not depend on the call. -/
theorem LeavesNothing.goto (h : LeavesNothing start task s)
    (call : AttemptCall) : LeavesNothing start task (s.goto call) :=
  ⟨h.pages, h.extraction, h.closed⟩

/-- A write to the usage snapshot that leaves the page slots alone. -/
theorem Balanced.updateUsage (h : Balanced start task extra current s)
    {update : UsageSnapshot → UsageSnapshot} {extra' : Nat}
    (howners : (update s.usage).pageSlotsReservedByWorker
      = s.usage.pageSlotsReservedByWorker)
    (hextraction : (update s.usage).extractionSlotsReserved
      = start.run.usageSnapshot.extractionSlotsReserved + extra') :
    Balanced start task extra' current (s.updateUsage update) where
  owner := h.owner
  pages := by
    have hsame : ownedPageSlots (update s.usage) task
        = ownedPageSlots s.usage task := by
      unfold ownedPageSlots
      rw [howners]
    exact hsame.trans h.pages
  extraction := hextraction
  closed := h.closed

-- ================================================================= releases

/-- What `release_page_slots` leaves. -/
theorem releasePages_usage (task : TaskId) (count : Nat)
    (s : AttemptState) :
    ownedPageSlots (s.releasePages task count).usage task
        = ownedPageSlots s.usage task - count
      ∧ (s.releasePages task count).usage.extractionSlotsReserved
        = s.usage.extractionSlotsReserved := by
  unfold AttemptState.releasePages
  split
  case isTrue hzero =>
    rw [hzero]
    exact ⟨rfl, rfl⟩
  case isFalse => exact ⟨ownedPageSlots_release s.usage task count, rfl⟩

/-- A release of slots does not touch the reservations. -/
theorem releasePages_reservations (task : TaskId) (count : Nat)
    (s : AttemptState) :
    (s.releasePages task count).ledger.reservations = s.ledger.reservations
      ∧ (s.releasePages task count).attempts = s.attempts := by
  unfold AttemptState.releasePages
  split <;> exact ⟨rfl, rfl⟩

/-- Releasing page slots when nothing else is in hand. -/
theorem Balanced.releasePages (h : Balanced start task 0 none s)
    {count : Nat} (hcount : s.granted - s.settledSlots ≤ count) :
    LeavesNothing start task (s.releasePages task count) where
  pages := by
    have hpages := h.pages
    rw [(releasePages_usage task count s).1]
    omega
  extraction := (releasePages_usage task count s).2.trans h.extraction
  closed := by
    obtain ⟨hrows, hattempts⟩ := releasePages_reservations task count s
    intro attemptId hmem
    rw [hattempts] at hmem
    unfold TokenLedger.NotReserved
    rw [hrows]
    exact h.closed attemptId hmem fun hnone => by cases hnone

/-- Once the unused slots are released, a balanced attempt leaves nothing
behind. -/
theorem Balanced.releaseUnused (h : Balanced start task 0 none s) :
    LeavesNothing start task (s.releaseUnused task) :=
  h.releasePages (Nat.le_refl _)

/-- The extraction slot is the one that is extra. -/
theorem Balanced.reserveExtraction (h : Balanced start task 0 none s) :
    Balanced start task 1 none (s.updateUsage reserveExtractionSlot) :=
  h.updateUsage rfl (congrArg (· + 1) h.extraction)

/-- Without the extraction slot nothing is extra. -/
theorem Balanced.releaseExtraction (h : Balanced start task 1 current s) :
    Balanced start task 0 current s.releaseExtraction :=
  h.updateUsage rfl (congrArg (· - 1) h.extraction)

/-- Closing the reservation in hand. -/
theorem Balanced.close (h : Balanced start task extra (some attemptId) s)
    {ledger : TokenLedger}
    (hcloses : ClosesReservation attemptId s.ledger ledger) :
    Balanced start task extra none { s with ledger } := by
  obtain ⟨settled, hrun⟩ := hcloses.run
  refine ⟨?_, ?_, ?_, fun other hmem _ => ?_⟩
  · show ledger.run.OwnedBy task
    rw [hrun]
    exact h.owner
  · show ownedPageSlots ledger.run.usageSnapshot task = _
    rw [hrun]
    exact h.pages
  · show ledger.run.usageSnapshot.extractionSlotsReserved = _
    rw [hrun]
    exact h.extraction
  · by_cases hother : other = attemptId
    · rw [hother]
      exact hcloses.closed
    · unfold TokenLedger.NotReserved
      rw [show ({ s with ledger } : AttemptState).ledger = ledger from rfl,
        hcloses.others other hother]
      exact h.closed other hmem fun heq => hother (Option.some.inj heq).symm

/-- `cleanup_attempt` leaves nothing. -/
theorem Balanced.cleanupAttempt
    (h : Balanced start task 1 (some attemptId) s) (uncertain : Bool)
    (now : Nat) :
    LeavesNothing start task
      (s.cleanupAttempt task attemptId uncertain now) := by
  unfold AttemptState.cleanupAttempt
  refine Balanced.releasePages (Balanced.releaseExtraction (h.close ?_))
    (Nat.sub_le _ _)
  cases uncertain with
  | true => exact uncertainReservationRow_closes
  | false => exact releaseReservationRow_closes now

-- ================================================================== records

/-- A fetch settles one slot, and counts it as settled. -/
theorem Balanced.recordFetch (h : Balanced start task extra current s)
    (reused : Bool) (latencyMs : Nat) :
    Balanced start task extra current
      (s.recordFetch task reused latencyMs) where
  owner := h.owner
  pages := by
    have hsettle := ownedPageSlots_settle s.usage task
    have hpages := h.pages
    show ownedPageSlots (settlePageSlot s.usage task) task
      = _ + s.granted - (s.settledSlots + 1)
    omega
  extraction := h.extraction
  closed := h.closed

/-- So does a read that failed. -/
theorem Balanced.recordReadFailure
    (h : Balanced start task extra current s) (latencyMs : Nat) :
    Balanced start task extra current
      (s.recordReadFailure task latencyMs) where
  owner := h.owner
  pages := by
    have hsettle := ownedPageSlots_settle s.usage task
    have hpages := h.pages
    show ownedPageSlots (settlePageSlot s.usage task) task
      = _ + s.granted - (s.settledSlots + 1)
    omega
  extraction := h.extraction
  closed := h.closed

/-- `record_extraction_failure` settles the slot and the reservation. -/
theorem Balanced.recordFailure
    (h : Balanced start task 1 (some attemptId) s)
    (usage : Option TokenUsage) (usageEstimated : Bool) (now : Nat) :
    Balanced start task 0 none
      (s.recordFailure usage attemptId usageEstimated now) := by
  obtain ⟨howners, hslots⟩ := recordExtractionFailure_slots s.usage usage
  have hcharged : Balanced start task 0 (some attemptId)
      (s.updateUsage (recordExtractionFailure · usage)) :=
    h.updateUsage howners
      (hslots.trans (congrArg (· - 1) h.extraction))
  cases usage with
  | none =>
      exact (hcharged.close
        uncertainReservationRow_closes).of_same rfl rfl rfl rfl
  | some usage =>
      exact (hcharged.close
        (settleReservationRow_closes _ _ _)).of_same rfl rfl rfl rfl

/-- So does `record_page`. -/
theorem Balanced.chargePage
    (h : Balanced start task 1 (some attemptId) s) (usage : TokenUsage)
    (cacheHit usageEstimated : Bool) (now : Nat) :
    Balanced start task 0 none
      { s with
        ledger := Run.chargePage usage cacheHit (some attemptId)
          usageEstimated now s.ledger } := by
  have hcharged : Balanced start task 0 (some attemptId)
      (s.updateUsage (recordPage · usage cacheHit)) :=
    h.updateUsage rfl (congrArg (· - 1) h.extraction)
  exact (hcharged.close
    (settleReservationRow_closes _ _ _)).of_same rfl rfl rfl rfl

-- ================================================================= requests

/-- `reserve_page_slots` adds the grant to what the worker owns. -/
theorem Balanced.reservePages (h : Balanced start task 0 none s)
    (hgranted : s.granted = 0) (hsettled : s.settledSlots = 0)
    (results : List String) :
    (∃ outcome, s.reservePages task target results = s.returned outcome)
      ∨ (s.reservePages task target results).call = .dispatch results
        ∧ Balanced start task 0 none (s.reservePages task target results) :=
    by
  unfold AttemptState.reservePages
  dsimp only
  split
  case isTrue => exact .inl ⟨_, rfl⟩
  case isFalse =>
    refine .inr ⟨rfl, h.owner, ?_, ?_, h.closed⟩
    · have hreserve := ownedPageSlots_reserve s.usage task
        s.ledger.run.budgetSnapshot target.requestedPages
        (!target.search.reuseOnly)
      have hpages := h.pages
      rw [hgranted, hsettled] at hpages
      show ownedPageSlots (Run.reservePageSlots s.ledger.run.budgetSnapshot
        s.usage task target.requestedPages (!target.search.reuseOnly)) task
          = _ + (pageSlotGrant s.ledger.run.budgetSnapshot s.usage
            target.requestedPages (!target.search.reuseOnly)).granted
            - s.settledSlots
      rw [hreserve, hsettled]
      omega
    · exact (extractionSlots_reserve s.usage task _ _ _).trans h.extraction

/-- The ledger after a question to `evidence_model_budget`. -/
theorem Balanced.asked (h : Balanced start task extra current s)
    {call : EvidenceBudgetCall} {view : EvidenceBudgetView} {now : Nat}
    {answer : EvidenceModelBudget} {ledger : TokenLedger}
    (hanswer : evidenceModelBudget task call view now s.ledger
      = .ok (answer, ledger)) :
    Balanced start task extra current { s with ledger } := by
  obtain ⟨tokens, guarded, rfl⟩ := evidenceModelBudget_ledger hanswer
  exact ⟨h.owner, h.pages, h.extraction, h.closed⟩

/-- An answer that is not refused pays for tokens. -/
theorem maxCallTokens_pos {call : EvidenceBudgetCall}
    {view : EvidenceBudgetView} {now : Nat} {answer : EvidenceModelBudget}
    {ledger ledger' : TokenLedger}
    (hanswer : evidenceModelBudget task call view now ledger
      = .ok (answer, ledger'))
    (hpays : AttemptState.refuses target answer = false) :
    0 < answer.maxCallTokens := by
  have hallowed : answer.allowed = true := by
    unfold AttemptState.refuses at hpays
    simp only [Bool.or_eq_false_iff, Bool.not_eq_false'] at hpays
    exact hpays.1
  cases (evidenceModelBudget_cases hanswer).2 with
  | oversized _ _ hrefused =>
      rw [hrefused] at hallowed
      cases hallowed
  | unaffordable _ _ _ hrefused =>
      rw [hrefused] at hallowed
      cases hallowed
  | execute _ _ hcovers =>
      exact Nat.lt_of_lt_of_le call.effectiveMinimum_pos hcovers

/-- The request asks for as many tokens as the answer allows. -/
theorem tokenRequest_requested (target : AttemptTarget)
    (attemptId : AttemptId) (maxCallTokens : Nat) :
    (AttemptState.tokenRequest target attemptId maxCallTokens).requested
      = maxCallTokens := by
  show maxCallTokens - min (maxCallTokens / 4) 4000
    + min (maxCallTokens / 4) 4000 = maxCallTokens
  have hle : maxCallTokens / 4 ≤ maxCallTokens := Nat.div_le_self _ _
  omega

end

-- ============================================================= one call

/-- The balance that belongs to the call in progress. -/
def Running (start : TokenLedger) (task : TaskId) (s : AttemptState) :
    Prop :=
  match s.call with
  | .initialBudget => s = { ledger := start }
  | .search | .reservePageSlots _ =>
      Balanced start task 0 none s ∧ s.granted = 0 ∧ s.settledSlots = 0
  | .evidenceModelBudget => Balanced start task 1 none s
  | .reserveModelTokens maxCallTokens =>
      Balanced start task 1 none s ∧ 0 < maxCallTokens
  | .recovery attemptId | .extractionSetup attemptId | .extract attemptId
  | .recordPage attemptId _ _ _ => Balanced start task 1 (some attemptId) s
  | .exited _ => False
  | _ => Balanced start task 0 none s

/-- The call raises, and nothing cleans up. -/
def AttemptState.escapes (s : AttemptState) (a : AttemptAction) : Bool :=
  match s.call, a.outcome with
  | .exited _, _ => false
  | _, .cancelled => true
  | .extractionSetup _, _ | .recordPage _ _ _ _, _ => false
  | .read _, .timedOut recorded | .extract _, .timedOut recorded => !recorded
  | .extract _, .gatewayError code _ _ _ =>
      decide (code ∉ isolatedExtractionErrors)
  | .extract _, .raises => false
  | _, .raises => true
  | _, _ => false

/-- What a call of the running method does. -/
inductive StepEffect (start : TokenLedger) (task : TaskId)
    (s : AttemptState) (a : AttemptAction) (s' : AttemptState) : Prop
  /-- The method goes on. -/
  | runs (h : Running start task s')
  /-- The method is left with nothing held. -/
  | leaves (exit : AttemptExit) (hcall : s'.call = .exited exit)
      (h : LeavesNothing start task s')
  /-- The exception of the call escapes. -/
  | escapes (hescapes : s.escapes a = true) (h : s' = s.raised)

section

variable {start : TokenLedger} {task : TaskId} {target : AttemptTarget}
  {attemptId : AttemptId} {s : AttemptState} {a : AttemptAction}

/-- Between two candidates nothing is open. -/
theorem Balanced.nextCandidate (h : Balanced start task 0 none s) :
    Running start task (s.nextCandidate target) := by
  unfold AttemptState.nextCandidate
  split
  case h_1 => exact h.goto .finish
  case h_2 url rest _ =>
    split
    case isTrue => exact h.goto .finish
    case isFalse =>
      have hnext : Balanced start task 0 none
          { s with call := .candidate url, pending := rest } :=
        h.of_same rfl rfl rfl rfl
      exact hnext

/-- A page that was read ahead is in hand; another is read now. -/
theorem Balanced.startRead (h : Balanced start task 0 none s)
    (url : String) : Running start task (s.startRead target url) := by
  unfold AttemptState.startRead
  split
  case isTrue =>
    split
    case isTrue => exact h.goto .selection
    case isFalse => exact h.nextCandidate
  case isFalse => exact h.goto (.read url)

/-- Between two pages of a batch nothing is open. -/
theorem Balanced.nextPrefetched (h : Balanced start task 0 none s)
    (urls pages : List String) :
    Running start task (s.nextPrefetched target urls pages) := by
  unfold AttemptState.nextPrefetched
  split
  case h_1 => exact h.nextCandidate
  case h_2 url rest => exact h.goto (.recordPrefetched (url :: rest) pages)

/-- Leaving a balance with the page slots released. -/
theorem Balanced.leaves {s' : AttemptState}
    (h : Balanced start task 0 none s') (exit : AttemptExit) :
    StepEffect start task s a
      ((s'.releaseUnused task).goto (.exited exit)) :=
  .leaves exit rfl (h.releaseUnused.goto _)

/-- Before any reservation there is nothing to release. -/
theorem Balanced.leaves_unreserved {s' : AttemptState}
    (h : Balanced start task 0 none s') (hgranted : s'.granted = 0)
    (exit : AttemptExit) :
    StepEffect start task s a (s'.goto (.exited exit)) := by
  have hpages := h.pages
  rw [hgranted] at hpages
  have hnothing : LeavesNothing start task s' :=
    { pages := by omega
      extraction := h.extraction
      closed := fun attemptId hmem =>
        h.closed attemptId hmem fun hnone => by cases hnone }
  exact .leaves exit rfl (hnothing.goto _)

theorem effect_initialBudget (h : s = { ledger := start }) :
    StepEffect start task s a (AttemptState.called task target s a) := by
  have hnothing : LeavesNothing start task s := by
    rw [h]
    exact ⟨Nat.le_refl _, rfl, fun _ hmem => by cases hmem⟩
  have hcall : s.call = .initialBudget := by rw [h]
  have hrunning : Running start task s := by
    unfold Running
    rw [hcall]
    exact h
  unfold AttemptState.called
  rw [hcall]
  dsimp only
  split
  case h_1 view _ =>
    unfold AttemptState.askInitialBudget
    split
    case h_2 => exact .leaves _ rfl (hnothing.goto _)
    case h_1 answer ledger hanswer =>
      have hstart : Balanced start task 0 none s := by
        have hown := (evidenceModelBudget_cases hanswer).1
        rw [h] at hown ⊢
        exact ⟨hown, rfl, rfl, fun _ hmem => by cases hmem⟩
      have hasked := hstart.asked hanswer
      have hgranted : s.granted = 0 ∧ s.settledSlots = 0 := by
        rw [h]
        exact ⟨rfl, rfl⟩
      dsimp only
      split
      case isTrue => exact hasked.leaves_unreserved hgranted.1 _
      case isFalse => exact .runs ⟨hasked.goto .search, hgranted⟩
  case h_2 => exact .leaves _ rfl (hnothing.goto _)
  case h_3 => exact .leaves _ rfl (hnothing.goto _)
  case h_4 => exact .runs hrunning

/-- A search holds no slots. -/
theorem recordSearch_slots (target : ResearchTarget)
    (outcome : SearchOutcome) (usage : UsageSnapshot) :
    (recordSearch target outcome usage).pageSlotsReservedByWorker
        = usage.pageSlotsReservedByWorker
      ∧ (recordSearch target outcome usage).extractionSlotsReserved
        = usage.extractionSlotsReserved := by
  obtain ⟨_, _, _, hwrites⟩ := recordSearch_writes target outcome usage
  rw [hwrites]
  exact ⟨rfl, rfl⟩

/-- A search that finds nothing ends the attempt before it has taken
anything. -/
theorem effect_searchRecorded (h : Balanced start task 0 none s)
    (hgranted : s.granted = 0) (hsettled : s.settledSlots = 0)
    (hcall : s.call = .search) (outcome : SearchOutcome)
    (results : List String) :
    StepEffect start task s a (s.searchRecorded target outcome results) := by
  obtain ⟨howners, hslots⟩ := recordSearch_slots target.search outcome s.usage
  have hrecorded : Balanced start task 0 none
      (s.updateUsage (recordSearch target.search outcome)) :=
    h.updateUsage howners (hslots.trans h.extraction)
  unfold AttemptState.searchRecorded
  dsimp only
  split
  case h_1 => exact h.leaves_unreserved hgranted _
  case h_2 =>
    split
    case isTrue =>
      refine .runs ?_
      unfold Running
      rw [hcall]
      exact ⟨h, hgranted, hsettled⟩
    case isFalse => exact hrecorded.leaves_unreserved hgranted _
  case h_3 requests =>
    have hkept : Balanced start task 0 none
        { s.updateUsage (recordSearch target.search (.succeeded requests)) with
          searched := true } :=
      hrecorded.of_same rfl rfl rfl rfl
    split
    case isTrue => exact hkept.leaves_unreserved hgranted _
    case isFalse =>
      exact .runs ⟨hkept.goto (.reservePageSlots results), hgranted,
        hsettled⟩

/-- The grant is added to the slots of the owner and to `granted` alike. -/
theorem effect_reservePages (h : Balanced start task 0 none s)
    (hgranted : s.granted = 0) (hsettled : s.settledSlots = 0)
    (results : List String) :
    StepEffect start task s a (s.reservePages task target results) := by
  rcases h.reservePages hgranted hsettled results with
    ⟨outcome, hreturned⟩ | ⟨hcall, hbalanced⟩
  · rw [hreturned]
    exact h.leaves_unreserved hgranted _
  · refine .runs ?_
    unfold Running
    rw [hcall]
    exact hbalanced

/-- The pages are read ahead, or the loop over the candidates begins. -/
theorem Balanced.dispatched (h : Balanced start task 0 none s)
    (results : List String) :
    Running start task (s.dispatched target results) := by
  unfold AttemptState.dispatched
  dsimp only
  generalize (if target.parallelReadsEnabled = true then
    (results.take (s.pageLimit target)).filter (· ∉ target.reusablePages)
    else []) = batchUrls
  have hstarted : Balanced start task 0 none
      { s with pending := results.take maxPageAttempts, batchUrls } :=
    h.of_same rfl rfl rfl rfl
  split
  case isTrue => exact hstarted.nextCandidate
  case isFalse => exact hstarted.goto .prefetch

/-- A page of the batch settles a slot of the grant, whether or not it
could be read. -/
theorem Balanced.prefetchRecorded (h : Balanced start task 0 none s)
    (url : String) (rest pages : List String) (latencyMs : Nat) :
    Running start task
      (s.prefetchRecorded task target url rest pages latencyMs) := by
  unfold AttemptState.prefetchRecorded
  split
  case isTrue =>
    have hfetched : Balanced start task 0 none
        { s.recordFetch task false latencyMs with
          prefetched := s.prefetched ++ [url] } :=
      (h.recordFetch false latencyMs).of_same rfl rfl rfl rfl
    exact hfetched.nextPrefetched rest pages
  case isFalse =>
    exact (h.recordReadFailure latencyMs).nextPrefetched rest pages

/-- A case for each outcome of a read. Where it raises, the exception
escapes. -/
theorem effect_pageRead (h : Balanced start task 0 none s)
    {url : String} (hcall : s.call = .read url)
    (latencyMs : Nat) :
    StepEffect start task s a (s.pageRead task target a.outcome latencyMs) := by
  unfold AttemptState.pageRead
  have hescapes : ∀ {outcome : CallOutcome}, a.outcome = outcome →
      outcome = .raises ∨ outcome = .timedOut false →
      s.escapes a = true := by
    intro outcome heq hcases
    unfold AttemptState.escapes
    rw [hcall, heq]
    rcases hcases with rfl | rfl <;> rfl
  split
  case h_1 => exact .runs ((h.recordFetch false latencyMs).goto .selection)
  case h_2 => exact .runs (h.recordReadFailure latencyMs).nextCandidate
  case h_3 => exact (h.recordReadFailure latencyMs).leaves _
  case h_4 heq => exact .escapes (hescapes heq (.inr rfl)) rfl
  case h_5 => exact h.leaves _
  case h_6 heq => exact .escapes (hescapes heq (.inl rfl)) rfl
  case h_7 =>
    refine .runs ?_
    unfold Running
    rw [hcall]
    exact h

/-- A page that was processed before is passed over. -/
theorem Balanced.selected (h : Balanced start task 0 none s)
    (already : Bool) : Running start task (s.selected target already) := by
  unfold AttemptState.selected
  split
  case isTrue => exact h.nextCandidate
  case isFalse =>
    have hread : Balanced start task 0 none
        { s with pagesRead := s.pagesRead + 1 } :=
      h.of_same rfl rfl rfl rfl
    dsimp only
    split
    case isTrue => exact hread.goto .triage
    case isFalse => exact hread.goto .reserveExtractionSlot

/-- Without an extraction slot the loop ends; past the deadline the slot is
given back at once. -/
theorem effect_reserveSlot (h : Balanced start task 0 none s)
    (deadlinePassed : Bool) (now : Nat) :
    StepEffect start task s a (s.reserveSlot task deadlinePassed now) := by
  unfold AttemptState.reserveSlot
  split
  case isTrue =>
    dsimp only
    split
    case isTrue => exact h.reserveExtraction.releaseExtraction.leaves _
    case isFalse => exact .runs (h.reserveExtraction.goto .evidenceModelBudget)
  case isFalse => exact .runs (h.goto .finish)

/-- A refusal gives the extraction slot back. -/
theorem effect_askBudget (h : Balanced start task 1 none s)
    (view : EvidenceBudgetView) (now : Nat) :
    StepEffect start task s a (s.askBudget task target view now) := by
  unfold AttemptState.askBudget
  split
  case h_1 answer ledger hanswer =>
    have hasked := h.asked hanswer
    dsimp only
    split
    case isTrue => exact .runs (hasked.releaseExtraction.goto .finish)
    case isFalse hpays =>
      exact .runs ⟨hasked.goto (.reserveModelTokens answer.maxCallTokens),
        maxCallTokens_pos hanswer (Bool.eq_false_iff.mpr hpays)⟩
  case h_2 e herror =>
    -- The worker holds its lease, and the bounds are valid.
    obtain ⟨answer, ledger, hanswer⟩ := evidenceModelBudget_total
      { questionId := some target.questionId
        minimumCall := some target.minimumCall } view now h.owner
    rw [hanswer] at herror
    cases herror

/-- A refused request leaves the ledger alone. -/
theorem reserveModelTokens_refused {request : TokenRequest}
    {borrow : QuestionBorrowDecision} {now : Nat}
    {answer : ModelTokenReservation} {ledger ledger' : TokenLedger}
    (h : reserveModelTokens task request borrow now ledger
      = .ok (answer, ledger'))
    (hrefused : answer.granted = false) : ledger' = ledger := by
  rcases reserveModelTokens_cases h with hsame | ⟨hpos, hnew, hdenial, -⟩
  · exact hsame
  · -- A new attempt that is not denied is granted.
    unfold reserveModelTokens at h
    rw [if_neg hpos, hnew, hdenial] at h
    dsimp only at h
    split at h
    case isTrue =>
      injection h with h
      injection h with hanswer
      rw [← hanswer] at hrefused
      cases hrefused
    case isFalse => cases h

/-- A request of the owner for some tokens is answered. -/
theorem reserveModelTokens_total {request : TokenRequest}
    {ledger : TokenLedger} (borrow : QuestionBorrowDecision) (now : Nat)
    (hpos : request.requested ≠ 0) (hown : ledger.run.OwnedBy task) :
    ∃ answer ledger', reserveModelTokens task request borrow now ledger
      = .ok (answer, ledger') := by
  unfold reserveModelTokens
  rw [if_neg hpos, if_pos hown]
  split
  case h_1 => split <;> exact ⟨_, _, rfl⟩
  case h_2 => split <;> exact ⟨_, _, rfl⟩

/-- The reservation becomes the one in hand. -/
theorem Balanced.reserved (h : Balanced start task 1 none s)
    {request : TokenRequest} {borrow : QuestionBorrowDecision} {now : Nat}
    {answer : ModelTokenReservation} {ledger : TokenLedger}
    (hreserve : reserveModelTokens task request borrow now s.ledger
      = .ok (answer, ledger)) :
    Balanced start task 1 (some request.attemptId)
      { s with ledger, attempts := request.attemptId :: s.attempts } := by
  have hrows : ∀ other, other ≠ request.attemptId →
      ledger.reservations.lookup other
        = s.ledger.reservations.lookup other := by
    intro other hne
    rcases reserveModelTokens_cases hreserve with rfl | ⟨-, -, -, rfl⟩
    · rfl
    · exact AList.lookup_insert_ne hne
  have hrun : ledger.run = s.ledger.run := by
    rcases reserveModelTokens_cases hreserve with rfl | ⟨-, -, -, rfl⟩ <;> rfl
  refine ⟨?_, ?_, ?_, fun other hmem hcurrent => ?_⟩
  · show ledger.run.OwnedBy task
    rw [hrun]
    exact h.owner
  · show ownedPageSlots ledger.run.usageSnapshot task = _
    rw [hrun]
    exact h.pages
  · show ledger.run.usageSnapshot.extractionSlotsReserved = _
    rw [hrun]
    exact h.extraction
  · have hne : other ≠ request.attemptId := fun heq =>
      hcurrent (congrArg some heq.symm)
    rcases List.mem_cons.mp hmem with heq | hmem
    · exact absurd heq hne
    · intro row hrow
      have hold : s.ledger.reservations.lookup other = some row :=
        (hrows other hne).symm.trans hrow
      exact h.closed other hmem (fun hnone => by cases hnone) row hold

/-- `reserve_model_tokens` under a new id. -/
theorem effect_reserveTokens (h : Balanced start task 1 none s)
    {maxCallTokens : Nat} (hpos : 0 < maxCallTokens)
    (hcall : s.call = .reserveModelTokens maxCallTokens)
    (attemptId : AttemptId) (borrow : QuestionBorrowDecision)
    (recovers : Bool) (now : Nat) :
    StepEffect start task s a
      (s.reserveTokens task target maxCallTokens attemptId borrow recovers
        now) := by
  have hrunning : Running start task s := by
    unfold Running
    rw [hcall]
    exact ⟨h, hpos⟩
  unfold AttemptState.reserveTokens
  split
  case h_1 => exact .runs hrunning
  case h_2 =>
    split
    case h_1 answer ledger hreserve =>
      dsimp only
      split
      case isTrue =>
        have hreserved := h.reserved hreserve
        refine .runs ?_
        cases recovers with
        | true => exact hreserved.goto (.recovery attemptId)
        | false => exact hreserved.goto (.extractionSetup attemptId)
      case isFalse hrefused =>
        have hsame := reserveModelTokens_refused hreserve
          (Bool.eq_false_iff.mpr hrefused)
        refine .runs ?_
        rw [hsame]
        have hreleased := h.releaseExtraction
        exact hreleased.of_same rfl rfl rfl rfl
    case h_2 e herror =>
      -- The request is for some tokens, and the worker holds its lease.
      have hsome : (AttemptState.tokenRequest target attemptId
          maxCallTokens).requested ≠ 0 := by
        rw [tokenRequest_requested]
        omega
      obtain ⟨answer, ledger, hanswer⟩ :=
        reserveModelTokens_total borrow now hsome h.owner
      rw [hanswer] at herror
      cases herror

/-- The handler of `ModelGatewayError`: an error that is not isolated
escapes, any other closes what is in hand first. -/
theorem effect_extractionFailed
    (h : Balanced start task 1 (some attemptId) s)
    (hcall : s.call = .extract attemptId) {code : String}
    {usage : Option TokenUsage} {usageEstimated recorded : Bool}
    (houtcome : a.outcome
      = .gatewayError code usage usageEstimated recorded) (now : Nat) :
    StepEffect start task s a
      (s.extractionFailed task target code usage usageEstimated recorded
        attemptId now) := by
  have hfailed := h.recordFailure usage usageEstimated now
  unfold AttemptState.extractionFailed
  split
  -- The handler passes on what it does not isolate.
  case isTrue hother =>
    refine .escapes ?_ rfl
    unfold AttemptState.escapes
    rw [hcall, houtcome]
    exact decide_eq_true hother
  case isFalse =>
    split
    case isTrue => exact .leaves _ rfl ((h.cleanupAttempt true now).goto _)
    case isFalse =>
      dsimp only
      split
      -- The transport is down for all pages.
      case isTrue => exact hfailed.leaves _
      case isFalse =>
        split
        case isTrue =>
          have hcounted : Balanced start task 0 none
              { s.recordFailure usage attemptId usageEstimated now with
                structuredExtractionFailures :=
                  (s.recordFailure usage attemptId usageEstimated
                    now).structuredExtractionFailures + 1 } :=
            hfailed.of_same rfl rfl rfl rfl
          split
          case isTrue => exact hcounted.leaves _
          case isFalse => exact .runs hcounted.nextCandidate
        case isFalse =>
          have hreset : Balanced start task 0 none
              { s.recordFailure usage attemptId usageEstimated now with
                structuredExtractionFailures := 0 } :=
            hfailed.of_same rfl rfl rfl rfl
          exact .runs hreset.nextCandidate

/-- A case for each outcome of an extraction: its reservation is left to
`record_page`, closed, or kept where the exception escapes. -/
theorem effect_extractionEnded
    (h : Balanced start task 1 (some attemptId) s)
    (hcall : s.call = .extract attemptId) (now : Nat) :
    StepEffect start task s a
      (s.extractionEnded task target attemptId a.outcome now) := by
  unfold AttemptState.extractionEnded
  split
  case h_1 usage cacheHit usageEstimated _ =>
    exact .runs
      (h.goto (.recordPage attemptId usage cacheHit usageEstimated))
  case h_2 => exact (h.recordFailure none false now).leaves _
  case h_3 heq =>
    refine .escapes ?_ rfl
    unfold AttemptState.escapes
    rw [hcall, heq]
    rfl
  case h_4 heq => exact effect_extractionFailed h hcall heq now
  case h_5 => exact .leaves _ rfl ((h.cleanupAttempt true now).goto _)
  case h_6 =>
    refine .runs ?_
    unfold Running
    rw [hcall]
    exact h

/-- The recorded page settles the reservation and gives the extraction slot
back. -/
theorem Balanced.pageRecorded
    (h : Balanced start task 1 (some attemptId) s) (usage : TokenUsage)
    (cacheHit usageEstimated : Bool) (candidates accepted now : Nat) :
    Running start task
      (s.pageRecorded target usage cacheHit usageEstimated attemptId
        candidates accepted now) := by
  have hrecorded : ∀ zeroYieldPages, Balanced start task 0 none
      { s with
        ledger := Run.chargePage usage cacheHit (some attemptId)
          usageEstimated now s.ledger
        accepted := s.accepted + accepted
        structuredExtractionFailures := 0
        zeroYieldPages } := fun _ =>
    (h.chargePage usage cacheHit usageEstimated now).of_same rfl rfl rfl rfl
  unfold AttemptState.pageRecorded
  dsimp only
  split
  case isTrue => exact (hrecorded s.zeroYieldPages).goto .finish
  case isFalse =>
    generalize (if accepted = 0 then s.zeroYieldPages + 1 else 0)
      = zeroYieldPages
    split
    case isTrue => exact (hrecorded zeroYieldPages).goto .finish
    case isFalse => exact (hrecorded zeroYieldPages).nextCandidate

/-- What one call does: a case for each call, in the order of the attempt.
-/
theorem called_effect (h : Running start task s) :
    StepEffect start task s a (AttemptState.called task target s a) := by
  have hstay : StepEffect start task s a s := .runs h
  have hraised : s.escapes a = true → StepEffect start task s a s.raised :=
    fun hescapes => .escapes hescapes rfl
  unfold Running at h
  unfold AttemptState.escapes at hraised
  -- What is open before the call is said by `Running`, call by call.
  cases hcall : s.call <;> rw [hcall] at h hraised
  case initialBudget => exact effect_initialBudget h
  case exited => exact h.elim
  all_goals
    unfold AttemptState.called
    rw [hcall]
    dsimp only at h hraised ⊢
  case search =>
    split
    case h_1 outcome results _ =>
      exact effect_searchRecorded h.1 h.2.1 h.2.2 hcall outcome results
    case h_2 heq => exact hraised (by rw [heq])
    case h_3 => exact hstay
  case reservePageSlots results =>
    split
    case h_1 => exact effect_reservePages h.1 h.2.1 h.2.2 results
    case h_2 heq => exact hraised (by rw [heq])
    case h_3 => exact hstay
  case dispatch results =>
    split
    case h_1 => exact .runs (h.dispatched _)
    case h_2 heq => exact hraised (by rw [heq])
    case h_3 => exact hstay
  case prefetch =>
    split
    case h_1 pages _ => exact .runs (h.nextPrefetched s.batchUrls pages)
    case h_2 heq => exact hraised (by rw [heq])
    case h_3 => exact hstay
  case recordPrefetched urls pages =>
    split
    case h_1 url rest _ =>
      exact .runs (h.prefetchRecorded url rest pages a.latencyMs)
    case h_2 heq => exact hraised (by rw [heq])
    case h_3 => exact hstay
  case candidate url =>
    split
    case h_1 =>
      split
      case isTrue => exact .runs (h.goto (.readArtifact url))
      case isFalse => exact .runs (h.startRead url)
    case h_2 => exact h.leaves _
    case h_3 heq => exact hraised (by rw [heq])
    case h_4 => exact hstay
  case readArtifact url =>
    split
    case h_1 =>
      split
      case isTrue => exact .runs (h.goto .selection)
      case isFalse => exact .runs ((h.recordFetch true 0).goto .selection)
    case h_2 => exact .runs (h.startRead url)
    case h_3 heq => exact hraised (by rw [heq])
    case h_4 => exact hstay
  case read => exact effect_pageRead h hcall a.latencyMs
  case selection =>
    split
    case h_1 already _ => exact .runs (h.selected already)
    case h_2 heq => exact hraised (by rw [heq])
    case h_3 => exact hstay
  case triage =>
    split
    case h_1 =>
      split
      case isTrue => exact .runs (h.goto .reserveExtractionSlot)
      case isFalse => exact .runs h.nextCandidate
    case h_2 heq => exact hraised (by rw [heq])
    case h_3 => exact hstay
  case reserveExtractionSlot =>
    split
    case h_1 deadlinePassed _ =>
      exact effect_reserveSlot h deadlinePassed a.now
    case h_2 heq => exact hraised (by rw [heq])
    case h_3 => exact hstay
  case evidenceModelBudget =>
    split
    case h_1 view _ => exact effect_askBudget h view a.now
    case h_2 heq => exact hraised (by rw [heq])
    case h_3 => exact hstay
  case reserveModelTokens maxCallTokens =>
    split
    case h_1 attemptId borrow recovers _ =>
      exact effect_reserveTokens h.1 h.2 hcall attemptId borrow recovers
        a.now
    case h_2 heq => exact hraised (by rw [heq])
    case h_3 => exact hstay
  case recovery attemptId =>
    split
    case h_1 => exact .runs (h.goto (.extractionSetup attemptId))
    case h_2 heq => exact hraised (by rw [heq])
    case h_3 => exact hstay
  -- From here to the record of the page a clean-up catches what is raised.
  case extractionSetup attemptId =>
    split
    case h_1 => exact .runs (h.goto (.extract attemptId))
    case h_2 => exact .leaves _ rfl ((h.cleanupAttempt false a.now).goto _)
    case h_3 => exact hstay
  case extract attemptId => exact effect_extractionEnded h hcall a.now
  case recordPage attemptId usage cacheHit usageEstimated =>
    split
    case h_1 candidates accepted _ =>
      exact .runs (h.pageRecorded usage cacheHit usageEstimated candidates
        accepted a.now)
    case h_2 => exact .leaves _ rfl ((h.cleanupAttempt true a.now).goto _)
    case h_3 => exact hstay
  case finish =>
    split
    case h_1 => exact h.leaves _
    case h_2 heq => exact hraised (by rw [heq])
    case h_3 => exact hstay

/-- Every call of the running method goes on in balance, leaves with
nothing held, or escapes. -/
theorem step_effect (h : Running start task s) :
    StepEffect start task s a (AttemptState.step task target s a) := by
  unfold AttemptState.step
  split
  case h_1 hcall =>
    unfold Running at h
    rw [hcall] at h
    exact h.elim
  case h_2 hcancelled hrunning =>
    refine .escapes ?_ rfl
    unfold AttemptState.escapes
    rw [hcancelled]
    cases hcall : s.call with
    | exited exit => exact absurd hcall (hrunning exit)
    | _ => rfl
  case h_3 => exact called_effect h

end

end DeepResearch.Run
