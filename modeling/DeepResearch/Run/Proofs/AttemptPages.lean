/-
The page budget during one research attempt.

`reserve_page_slots` grants what the page pool leaves, and the method
reads at most as many pages as it was granted: but a read that fails and a
page that was processed before settle a slot and count as no page, so the
loop goes on to a read that nobody granted. `Roomy` is the balance that
holds all the same: the pages fetched and those granted stay within the
limit and the slots settled. A page that was reused counts as read when
its extraction is recorded, as long as the run has fetched none: `held`
is that page.
-/
import DeepResearch.Run.Proofs.AttemptCleanup

namespace DeepResearch.Run

/-- The limit `reserve_page_slots` reads. -/
def BudgetSnapshot.pageMaximum (budget : BudgetSnapshot) : Nat :=
  (budget.maxPagesFetched.or budget.maxPages).getD 0

/-- `usage.get("pages_fetched", usage.get("pages", 0))`. -/
def UsageSnapshot.committedPages (usage : UsageSnapshot) : Nat :=
  (usage.pagesFetched.or usage.pages).getD 0

/-- A usage within the page limit. Until `pages_fetched` is written,
`pages` counts for it, which every write sets to `pages_extracted`. -/
structure UsageSnapshot.StartsWithin (usage : UsageSnapshot)
    (budget : BudgetSnapshot) : Prop where
  within : usage.committedPages ≤ budget.pageMaximum
  tied : usage.pagesFetched = none →
    (usage.pagesExtracted.or usage.pages).getD 0 ≤ usage.pages.getD 0

instance UsageSnapshot.decidableStartsWithin (usage : UsageSnapshot)
    (budget : BudgetSnapshot) : Decidable (usage.StartsWithin budget) :=
  decidable_of_iff
    (usage.committedPages ≤ budget.pageMaximum
      ∧ (usage.pagesFetched = none →
        (usage.pagesExtracted.or usage.pages).getD 0 ≤ usage.pages.getD 0))
    ⟨fun h => ⟨h.1, h.2⟩, fun h => ⟨h.1, h.2⟩⟩

/-- A page is in hand: it was read, and its extraction is not recorded. -/
def AttemptCall.holdsPage : AttemptCall → Bool
  | .selection | .triage | .reserveExtractionSlot => true
  | call => call.holdsExtraction

/-- The reader's answer is recorded: a page, or a failure. -/
def CallOutcome.recordsRead : CallOutcome → Bool
  | .returns | .toolError | .timedOut true => true
  | _ => false

namespace AttemptState

/-- The call ends with a page fetched from the network. -/
def fetchesPage (s : AttemptState) (a : AttemptAction) : Bool :=
  match s.call, a.outcome with
  | .read _, .returns => true
  | .recordPrefetched (url :: _) pages, .returns => decide (url ∈ pages)
  | _, _ => false

/-- A page is fetched only while a granted slot is unsettled. -/
def FetchesOnGrant (s : AttemptState) (a : AttemptAction) : Prop :=
  s.fetchesPage a = true → s.settledSlots < s.granted

/-- The call ends with a page recorded, as fetched, reused or failed, which
settles a slot. -/
def settlesSlot (s : AttemptState) (a : AttemptAction) : Bool :=
  match s.call with
  | .read _ => a.outcome.recordsRead
  | .recordPrefetched urls _ => decide (urls ≠ [] ∧ a.outcome = .returns)
  | .readArtifact url => decide (url ∉ s.batchUrls ∧ a.outcome = .returns)
  | _ => false

/-- Every page is fetched while fewer pages have been recorded than
`reserve_page_slots` granted slots. What is recorded is counted by the
outcomes of the calls so far: a page fetched or reused, or a failure. -/
def ReadsOnGrant (task : TaskId) (target : AttemptTarget) :
    AttemptState → Nat → List AttemptAction → Prop
  | _, _, [] => True
  | s, recorded, a :: as =>
      (s.fetchesPage a = true → recorded < s.granted)
        ∧ ReadsOnGrant task target (step task target s a)
          (recorded + (s.settlesSlot a).toNat) as

instance decidableReadsOnGrant (task : TaskId) (target : AttemptTarget) :
    (s : AttemptState) → (recorded : Nat) → (as : List AttemptAction) →
      Decidable (s.ReadsOnGrant task target recorded as)
  | _, _, [] => inferInstanceAs (Decidable True)
  | s, recorded, a :: as =>
      have := decidableReadsOnGrant task target (step task target s a)
        (recorded + (s.settlesSlot a).toNat) as
      inferInstanceAs (Decidable
        ((s.fetchesPage a = true → recorded < s.granted) ∧ _))

/-- `pages_fetched` is within `max_pages_fetched`, and every page was
fetched on a slot of the worker. -/
def PagesCovered (s : AttemptState) : Prop :=
  s.usage.pagesFetched.getD 0 ≤ s.ledger.run.budgetSnapshot.pageMaximum
    ∧ s.uncovered = false

instance decidablePagesCovered (s : AttemptState) :
    Decidable s.PagesCovered :=
  inferInstanceAs (Decidable
    (s.usage.pagesFetched.getD 0 ≤ s.ledger.run.budgetSnapshot.pageMaximum
      ∧ s.uncovered = false))

end AttemptState

-- ============================================================== the balance

/-- What `PagesCovered` reads. -/
structure PageView where
  budget : BudgetSnapshot
  fetched : Option Nat
  uncovered : Bool

/-- The page counters agree. -/
structure SamePageCounts (usage usage' : UsageSnapshot) : Prop where
  fetched : usage'.pagesFetched = usage.pagesFetched
  pages : usage'.pages = usage.pages
  extracted : usage'.pagesExtracted = usage.pagesExtracted

/-- The pages fetched, held and granted are within the limit and the slots
settled. -/
structure Roomy (target : AttemptTarget) (view : PageView) (held : Nat)
    (s : AttemptState) : Prop where
  budget : s.ledger.run.budgetSnapshot = view.budget
  fetched : s.usage.pagesFetched = view.fetched
  uncovered : s.uncovered = view.uncovered
  tied : view.fetched = none →
    (s.usage.pagesExtracted.or s.usage.pages).getD 0 ≤ s.usage.pages.getD 0
  room : s.usage.committedPages + s.granted
      + (if view.fetched = none then held else 0)
    ≤ view.budget.pageMaximum + s.settledSlots
  prefetched : s.prefetched ≠ [] → view.fetched ≠ none
  fresh : ∀ url ∈ s.batchUrls, url ∉ target.reusablePages

/-- The balance that belongs to the call in progress. -/
structure Paged (target : AttemptTarget) (view : PageView)
    (s : AttemptState) : Prop where
  roomy : Roomy target view (if s.call.holdsPage then 1 else 0) s
  artifact : ∀ url, s.call = .readArtifact url →
    url ∈ target.reusablePages

section

variable {task : TaskId} {target : AttemptTarget} {view : PageView}
  {held : Nat} {s s' : AttemptState} {a : AttemptAction}

/-- What the bound reads: the ledger, the grant, the pages read ahead and
those read without a slot. -/
theorem Roomy.of_same (h : Roomy target view held s)
    (hledger : s'.ledger = s.ledger) (hgranted : s'.granted = s.granted)
    (hsettled : s'.settledSlots = s.settledSlots)
    (hprefetched : s'.prefetched = s.prefetched)
    (hbatch : s'.batchUrls = s.batchUrls)
    (huncovered : s'.uncovered = s.uncovered) :
    Roomy target view held s' := by
  have husage : s'.usage = s.usage := by
    unfold AttemptState.usage
    rw [hledger]
  refine ⟨?_, ?_, ?_, ?_, ?_, ?_, ?_⟩
  · rw [hledger]
    exact h.budget
  · rw [husage]
    exact h.fetched
  · rw [huncovered]
    exact h.uncovered
  · rw [husage]
    exact h.tied
  · rw [husage, hgranted, hsettled]
    exact h.room
  · rw [hprefetched]
    exact h.prefetched
  · rw [hbatch]
    exact h.fresh

/-- A ledger with the same page counters. -/
theorem Roomy.setLedger (h : Roomy target view held s)
    {ledger : TokenLedger}
    (hbudget : ledger.run.budgetSnapshot = s.ledger.run.budgetSnapshot)
    (hsame : SamePageCounts s.usage ledger.run.usageSnapshot) :
    Roomy target view held { s with ledger } := by
  have hcommitted : ledger.run.usageSnapshot.committedPages
      = s.usage.committedPages := by
    unfold UsageSnapshot.committedPages
    rw [hsame.fetched, hsame.pages]
  refine ⟨hbudget.trans h.budget, hsame.fetched.trans h.fetched,
    h.uncovered, ?_, ?_, h.prefetched, h.fresh⟩
  · show _ → (ledger.run.usageSnapshot.pagesExtracted.or
        ledger.run.usageSnapshot.pages).getD 0
      ≤ ledger.run.usageSnapshot.pages.getD 0
    rw [hsame.extracted, hsame.pages]
    exact h.tied
  · show ledger.run.usageSnapshot.committedPages + _ + _ ≤ _
    rw [hcommitted]
    exact h.room

/-- A write to the usage snapshot that counts no page. -/
theorem Roomy.updateUsage (h : Roomy target view held s)
    {update : UsageSnapshot → UsageSnapshot}
    (hsame : SamePageCounts s.usage (update s.usage)) :
    Roomy target view held (s.updateUsage update) := by
  have hledger : Roomy target view held
      { s with ledger := s.ledger.setUsage (update s.usage) } :=
    h.setLedger rfl hsame
  exact hledger

/-- A page that is put down leaves its room unused. -/
theorem Roomy.putDown (h : Roomy target view held s) :
    Roomy target view 0 s := by
  have hroom := h.room
  refine { h with room := ?_ }
  split
  case isTrue hnone =>
    rw [if_pos hnone] at hroom
    omega
  case isFalse hsome =>
    rw [if_neg hsome] at hroom
    exact hroom

/-- Once pages are counted for themselves, any page may be in hand. -/
theorem Roomy.pickUp (h : Roomy target view held s)
    (hfetched : view.fetched ≠ none) (held' : Nat) :
    Roomy target view held' s := by
  have hroom := h.room
  rw [if_neg hfetched] at hroom
  refine { h with room := ?_ }
  rw [if_neg hfetched]
  exact hroom

/-- To a call that is not about a page, with no page in hand. -/
theorem Roomy.goto (h : Roomy target view 0 s) {call : AttemptCall}
    (hidle : call.holdsPage = false)
    (hartifact : ∀ url, call ≠ .readArtifact url) :
    Paged target view (s.goto call) := by
  refine ⟨?_, fun url hcall => absurd hcall (hartifact url)⟩
  rw [show (s.goto call).call = call from rfl, hidle]
  exact h.of_same rfl rfl rfl rfl rfl rfl

/-- To a call that has a page in hand. -/
theorem Roomy.goto_holding (h : Roomy target view 1 s) {call : AttemptCall}
    (hholds : call.holdsPage = true) : Paged target view (s.goto call) := by
  refine ⟨?_, fun url hcall => ?_⟩
  · rw [show (s.goto call).call = call from rfl, hholds]
    exact h.of_same rfl rfl rfl rfl rfl rfl
  · rw [show (s.goto call).call = call from rfl] at hcall
    rw [hcall] at hholds
    cases hholds

-- ================================================================== records

/-- A page that was fetched before settles a slot and is in hand. -/
theorem Roomy.recordReuse (h : Roomy target view 0 s) (task : TaskId)
    (latencyMs : Nat) :
    Roomy target view 1 (s.recordFetch task true latencyMs) := by
  have hroom := h.room
  refine ⟨h.budget, h.fetched, ?_, h.tied, ?_, h.prefetched, h.fresh⟩
  · show (s.uncovered || false) = view.uncovered
    rw [Bool.or_false]
    exact h.uncovered
  · show s.usage.committedPages + s.granted + _ ≤ _ + (s.settledSlots + 1)
    split
    case isTrue => omega
    case isFalse => omega

/-- What `PagesCovered` reads after a page was fetched. -/
def PageView.fetch (view : PageView) (task : TaskId)
    (usage : UsageSnapshot) : PageView :=
  { view with
    fetched := some (usage.committedPages + 1)
    uncovered := view.uncovered || ownedPageSlots usage task == 0 }

/-- A fetched page takes the room of the slot it settles. -/
theorem Roomy.recordFetch (h : Roomy target view 0 s) (task : TaskId)
    (latencyMs : Nat) :
    Roomy target (view.fetch task s.usage) 0
      (s.recordFetch task false latencyMs) := by
  have hroom := h.room
  refine ⟨h.budget, rfl, ?_, fun hnone => ?_, ?_, fun _ hnone => ?_, h.fresh⟩
  · show (s.uncovered || ownedPageSlots s.usage task == 0) = _
    rw [h.uncovered]
    rfl
  · cases hnone
  · show s.usage.committedPages + 1 + s.granted + _
      ≤ view.budget.pageMaximum + (s.settledSlots + 1)
    simp only [ite_self] at hroom ⊢
    omega
  · cases hnone

/-- A read that failed settles a slot and fetches nothing. -/
theorem Roomy.recordReadFailure (h : Roomy target view held s)
    (task : TaskId) (latencyMs : Nat) :
    Roomy target view held (s.recordReadFailure task latencyMs) := by
  have hroom := h.room
  refine ⟨h.budget, h.fetched, h.uncovered, h.tied, ?_, h.prefetched,
    h.fresh⟩
  show s.usage.committedPages + s.granted + _ ≤ _ + (s.settledSlots + 1)
  omega

/-- An extraction is recorded: the page in hand is a page of the run. -/
theorem Roomy.extracted (h : Roomy target view 1 s) {ledger : TokenLedger}
    (hbudget : ledger.run.budgetSnapshot = s.ledger.run.budgetSnapshot)
    (hfetched : ledger.run.usageSnapshot.pagesFetched
      = s.usage.pagesFetched)
    (hpages : ledger.run.usageSnapshot.pages
      = some ((s.usage.pagesExtracted.or s.usage.pages).getD 0 + 1))
    (hextracted : ledger.run.usageSnapshot.pagesExtracted
      = ledger.run.usageSnapshot.pages) :
    Roomy target view 0 { s with ledger } := by
  have hroom := h.room
  refine ⟨hbudget.trans h.budget, hfetched.trans h.fetched, h.uncovered, ?_,
    ?_, h.prefetched, h.fresh⟩
  · intro _
    show (ledger.run.usageSnapshot.pagesExtracted.or
        ledger.run.usageSnapshot.pages).getD 0
      ≤ ledger.run.usageSnapshot.pages.getD 0
    rw [hextracted, hpages]
    exact Nat.le_refl _
  · show ledger.run.usageSnapshot.committedPages + s.granted + _
      ≤ _ + s.settledSlots
    unfold UsageSnapshot.committedPages at hroom ⊢
    rw [hfetched, hpages]
    by_cases hnone : view.fetched = none
    · have htied := h.tied hnone
      rw [if_pos hnone, h.fetched, hnone] at hroom
      rw [if_pos hnone, h.fetched, hnone]
      simp only [Option.none_or, Option.getD_some] at hroom ⊢
      omega
    · obtain ⟨fetched, hsome⟩ := Option.ne_none_iff_exists'.mp hnone
      rw [h.fetched, hsome] at hroom ⊢
      exact hroom

-- ============================================================ the ledgers

/-- Closing a reservation charges tokens, never pages. -/
theorem Roomy.close (h : Roomy target view held s) {attemptId : AttemptId}
    {ledger : TokenLedger}
    (hcloses : ClosesReservation attemptId s.ledger ledger) :
    Roomy target view held { s with ledger } := by
  obtain ⟨settled, hrun⟩ := hcloses.run
  refine h.setLedger ?_ ?_
  · rw [hrun]
  · rw [hrun]
    exact ⟨rfl, rfl, rfl⟩

/-- The page in hand is used up by a failed extraction. -/
theorem Roomy.recordFailure (h : Roomy target view 1 s)
    (usage : Option TokenUsage) (attemptId : AttemptId)
    (usageEstimated : Bool) (now : Nat) :
    Roomy target view 0
      (s.recordFailure usage attemptId usageEstimated now) := by
  cases usage with
  | none =>
      have hcharged : Roomy target view 0
          (s.updateUsage (recordExtractionFailure · none)) :=
        h.extracted rfl rfl rfl rfl
      exact hcharged.close uncertainReservationRow_closes
  | some usage =>
      have hcharged : Roomy target view 0
          (s.updateUsage (recordExtractionFailure · (some usage))) :=
        h.extracted rfl rfl rfl rfl
      exact hcharged.close (settleReservationRow_closes _ _ _)

/-- The page in hand is used up when it is recorded. -/
theorem Roomy.chargePage (h : Roomy target view 1 s) (usage : TokenUsage)
    (cacheHit : Bool) (attemptId : AttemptId) (usageEstimated : Bool)
    (now : Nat) :
    Roomy target view 0
      { s with
        ledger := Run.chargePage usage cacheHit (some attemptId)
          usageEstimated now s.ledger } := by
  have hcharged : Roomy target view 0
      (s.updateUsage (recordPage · usage cacheHit)) :=
    h.extracted rfl rfl rfl rfl
  exact hcharged.close (settleReservationRow_closes _ _ _)

/-- A release gives back slots that no page has used. -/
theorem Roomy.releasePages (h : Roomy target view held s) (task : TaskId)
    (count : Nat) : Roomy target view held (s.releasePages task count) := by
  unfold AttemptState.releasePages
  split
  case isTrue => exact h
  case isFalse => exact h.updateUsage ⟨rfl, rfl, rfl⟩

theorem Roomy.releaseExtraction (h : Roomy target view held s) :
    Roomy target view held s.releaseExtraction :=
  h.updateUsage ⟨rfl, rfl, rfl⟩

/-- The cleanup changes reservations and slots, not pages. -/
theorem Roomy.cleanupAttempt (h : Roomy target view held s) (task : TaskId)
    (attemptId : AttemptId) (uncertain : Bool) (now : Nat) :
    Roomy target view held
      (s.cleanupAttempt task attemptId uncertain now) := by
  unfold AttemptState.cleanupAttempt
  refine Roomy.releasePages (Roomy.releaseExtraction ?_) task _
  cases uncertain with
  | true => exact h.close uncertainReservationRow_closes
  | false => exact h.close (releaseReservationRow_closes now)

/-- The ledger after a question to `evidence_model_budget`. -/
theorem Roomy.asked (h : Roomy target view held s)
    {call : EvidenceBudgetCall} {budgetView : EvidenceBudgetView}
    {now : Nat} {answer : EvidenceModelBudget} {ledger : TokenLedger}
    (hanswer : evidenceModelBudget task call budgetView now s.ledger
      = .ok (answer, ledger)) :
    Roomy target view held { s with ledger } := by
  obtain ⟨tokens, guarded, rfl⟩ := evidenceModelBudget_ledger hanswer
  exact h.setLedger rfl ⟨rfl, rfl, rfl⟩

/-- The ledger after `reserve_model_tokens`. -/
theorem Roomy.reserved (h : Roomy target view held s)
    {request : TokenRequest} {borrow : QuestionBorrowDecision} {now : Nat}
    {answer : ModelTokenReservation} {ledger : TokenLedger}
    (hreserve : reserveModelTokens task request borrow now s.ledger
      = .ok (answer, ledger)) :
    Roomy target view held { s with ledger } := by
  rcases reserveModelTokens_cases hreserve with rfl | ⟨-, -, -, rfl⟩
  · exact h
  · exact h.setLedger rfl ⟨rfl, rfl, rfl⟩

-- =================================================================== a grant

/-- A grant fits in what the pages fetched leave of the limit. -/
theorem pageSlotGrant_within {budget : BudgetSnapshot}
    {usage : UsageSnapshot}
    (h : usage.committedPages ≤ budget.pageMaximum) (requested : Nat)
    (fresh : Bool) :
    usage.committedPages
        + (pageSlotGrant budget usage requested fresh).granted
      ≤ budget.pageMaximum := by
  have hleft : (pageSlotGrant budget usage requested fresh).granted
      ≤ budget.pageMaximum - usage.committedPages := by
    unfold pageSlotGrant BudgetSnapshot.pageMaximum
      UsageSnapshot.committedPages
    dsimp only
    omega
  omega

/-- A reservation of slots counts no page. -/
theorem reservePageSlots_counts (budget : BudgetSnapshot)
    (usage : UsageSnapshot) (task : TaskId) (requested : Nat)
    (fresh : Bool) :
    SamePageCounts usage
      (reservePageSlots budget usage task requested fresh) := by
  unfold reservePageSlots
  dsimp only
  split <;> exact ⟨rfl, rfl, rfl⟩

/-- The grant is the first of its attempt: the room it leaves is what
`page_slot_grant` computes from the run. -/
theorem Roomy.reservePages (h : Roomy target view 0 s)
    (hgranted : s.granted = 0) (hsettled : s.settledSlots = 0)
    (task : TaskId) (results : List String) :
    Paged target view (s.reservePages task target results) := by
  unfold AttemptState.reservePages
  dsimp only
  split
  case isTrue => exact h.goto rfl nofun
  case isFalse =>
    have hroom := h.room
    rw [hgranted, hsettled, ← h.budget] at hroom
    have hwithin : s.usage.committedPages
        ≤ s.ledger.run.budgetSnapshot.pageMaximum := by omega
    have hgrant := pageSlotGrant_within hwithin target.requestedPages
      (!target.search.reuseOnly)
    have hreserved : Roomy target view 0
        (s.updateUsage (reservePageSlots s.ledger.run.budgetSnapshot · task
          target.requestedPages (!target.search.reuseOnly))) :=
      h.updateUsage (reservePageSlots_counts _ _ _ _ _)
    refine ⟨⟨hreserved.budget, hreserved.fetched, hreserved.uncovered,
      hreserved.tied, ?_, hreserved.prefetched, hreserved.fresh⟩, nofun⟩
    have hcommitted : (Run.reservePageSlots s.ledger.run.budgetSnapshot
          s.usage task target.requestedPages
          (!target.search.reuseOnly)).committedPages
        = s.usage.committedPages := by
      have hsame := reservePageSlots_counts s.ledger.run.budgetSnapshot
        s.usage task target.requestedPages (!target.search.reuseOnly)
      unfold UsageSnapshot.committedPages
      rw [hsame.fetched, hsame.pages]
    show (Run.reservePageSlots s.ledger.run.budgetSnapshot s.usage task
          target.requestedPages (!target.search.reuseOnly)).committedPages
        + (pageSlotGrant s.ledger.run.budgetSnapshot s.usage
          target.requestedPages (!target.search.reuseOnly)).granted
        + (if view.fetched = none then 0 else 0)
      ≤ view.budget.pageMaximum + s.settledSlots
    rw [hcommitted, ← h.budget, ite_self]
    omega

-- ================================================================ one call

/-- The next candidate, or the end of the loop: no page is in hand. -/
theorem Roomy.nextCandidate (h : Roomy target view 0 s) :
    Paged target view (s.nextCandidate target) := by
  unfold AttemptState.nextCandidate
  split
  case h_1 => exact h.goto rfl nofun
  case h_2 url rest _ =>
    split
    case isTrue => exact h.goto rfl nofun
    case isFalse =>
      have hnext : Roomy target view 0 { s with pending := rest } :=
        h.of_same rfl rfl rfl rfl rfl rfl
      exact hnext.goto rfl nofun

/-- A page that was read ahead is in hand: the run has fetched a page. -/
theorem Roomy.startRead (h : Roomy target view 0 s) (url : String) :
    Paged target view (s.startRead target url) := by
  unfold AttemptState.startRead
  split
  case isTrue =>
    split
    case isTrue hread =>
      have hfetched := h.prefetched (List.ne_nil_of_mem hread)
      exact (h.pickUp hfetched 1).goto_holding rfl
    case isFalse => exact h.nextCandidate
  case isFalse => exact h.goto rfl nofun

/-- The next page of the batch is recorded, or the loop over the candidates
begins. -/
theorem Roomy.nextPrefetched (h : Roomy target view 0 s)
    (urls pages : List String) :
    Paged target view (s.nextPrefetched target urls pages) := by
  unfold AttemptState.nextPrefetched
  split
  case h_1 => exact h.nextCandidate
  case h_2 => exact h.goto rfl nofun

/-- No page is read ahead that was fetched before. -/
theorem Roomy.dispatched (h : Roomy target view 0 s)
    (results : List String) :
    Paged target view (s.dispatched target results) := by
  have hfresh : ∀ url ∈ (if target.parallelReadsEnabled = true then
      (results.take (s.pageLimit target)).filter (· ∉ target.reusablePages)
      else []), url ∉ target.reusablePages := by
    intro url hmem
    split at hmem
    case isTrue => exact of_decide_eq_true (List.mem_filter.mp hmem).2
    case isFalse => cases hmem
  unfold AttemptState.dispatched
  dsimp only
  revert hfresh
  generalize (if target.parallelReadsEnabled = true then
    (results.take (s.pageLimit target)).filter (· ∉ target.reusablePages)
    else []) = batchUrls
  intro hfresh
  have hstarted : Roomy target view 0
      { s with pending := results.take maxPageAttempts, batchUrls } :=
    ⟨h.budget, h.fetched, h.uncovered, h.tied, h.room, h.prefetched, hfresh⟩
  split
  case isTrue => exact hstarted.nextCandidate
  case isFalse => exact hstarted.goto rfl nofun

/-- A page that was processed before is dropped, any other goes on to its
extraction. -/
theorem Roomy.selected (h : Roomy target view 1 s) (already : Bool) :
    Paged target view (s.selected target already) := by
  unfold AttemptState.selected
  split
  case isTrue => exact h.putDown.nextCandidate
  case isFalse =>
    have hread : Roomy target view 1
        { s with pagesRead := s.pagesRead + 1 } :=
      h.of_same rfl rfl rfl rfl rfl rfl
    dsimp only
    split
    case isTrue => exact hread.goto_holding rfl
    case isFalse => exact hread.goto_holding rfl

/-- The page in hand goes on to its budget, unless there is no extraction
slot or the deadline has passed. -/
theorem Roomy.reserveSlot (h : Roomy target view 1 s)
    (deadlinePassed : Bool) (now : Nat) :
    Paged target view (s.reserveSlot task deadlinePassed now) := by
  unfold AttemptState.reserveSlot
  split
  case isTrue =>
    have hreserved : Roomy target view 1
        (s.updateUsage reserveExtractionSlot) := h.updateUsage ⟨rfl, rfl, rfl⟩
    dsimp only
    split
    case isTrue =>
      have hreleased := hreserved.releaseExtraction.putDown
      exact (hreleased.releasePages task _).goto rfl nofun
    case isFalse => exact hreserved.goto_holding rfl
  case isFalse => exact h.putDown.goto rfl nofun

theorem Roomy.askBudget (h : Roomy target view 1 s)
    (budgetView : EvidenceBudgetView) (now : Nat) :
    Paged target view (s.askBudget task target budgetView now) := by
  unfold AttemptState.askBudget
  split
  case h_1 answer ledger hanswer =>
    have hasked := h.asked hanswer
    dsimp only
    split
    case isTrue => exact hasked.releaseExtraction.putDown.goto rfl nofun
    case isFalse => exact hasked.goto_holding rfl
  case h_2 => exact h.putDown.goto rfl nofun

theorem Roomy.askInitialBudget (h : Roomy target view 0 s)
    (budgetView : EvidenceBudgetView) (now : Nat) :
    Paged target view (s.askInitialBudget task target budgetView now) := by
  unfold AttemptState.askInitialBudget
  split
  case h_1 answer ledger hanswer =>
    have hasked := h.asked hanswer
    dsimp only
    split
    case isTrue => exact hasked.goto rfl nofun
    case isFalse => exact hasked.goto rfl nofun
  case h_2 => exact h.goto rfl nofun

/-- A refused reservation ends the loop; a granted one goes on to the
extraction with the page in hand. -/
theorem Roomy.reserveTokens (h : Roomy target view 1 s)
    {maxCallTokens : Nat} (hcall : s.call = .reserveModelTokens maxCallTokens)
    (attemptId : AttemptId) (borrow : QuestionBorrowDecision)
    (recovers : Bool) (now : Nat) :
    Paged target view
      (s.reserveTokens task target maxCallTokens attemptId borrow recovers
        now) := by
  unfold AttemptState.reserveTokens
  split
  case h_1 =>
    refine ⟨?_, fun url hartifact => ?_⟩
    · rw [hcall]
      exact h
    · rw [hcall] at hartifact
      cases hartifact
  case h_2 =>
    split
    case h_1 answer ledger hreserve =>
      have hreserved := h.reserved hreserve
      dsimp only
      split
      case isTrue =>
        have htaken : Roomy target view 1
            { s with ledger, attempts := attemptId :: s.attempts } :=
          hreserved.of_same rfl rfl rfl rfl rfl rfl
        cases recovers with
        | true => exact htaken.goto_holding rfl
        | false => exact htaken.goto_holding rfl
      case isFalse =>
        have hreleased := hreserved.releaseExtraction.putDown
        exact ⟨hreleased.of_same rfl rfl rfl rfl rfl rfl, nofun⟩
    case h_2 => exact h.putDown.goto rfl nofun

theorem Roomy.extractionFailed (h : Roomy target view 1 s) (code : String)
    (usage : Option TokenUsage) (usageEstimated recorded : Bool)
    (attemptId : AttemptId) (now : Nat) :
    Paged target view
      (s.extractionFailed task target code usage usageEstimated recorded
        attemptId now) := by
  have hfailed := h.recordFailure usage attemptId usageEstimated now
  unfold AttemptState.extractionFailed
  split
  case isTrue => exact h.putDown.goto rfl nofun
  case isFalse =>
    split
    case isTrue =>
      exact (h.putDown.cleanupAttempt task attemptId true now).goto rfl nofun
    case isFalse =>
      dsimp only
      split
      case isTrue => exact (hfailed.releasePages task _).goto rfl nofun
      case isFalse =>
        split
        case isTrue =>
          have hcounted : Roomy target view 0
              { s.recordFailure usage attemptId usageEstimated now with
                structuredExtractionFailures :=
                  (s.recordFailure usage attemptId usageEstimated
                    now).structuredExtractionFailures + 1 } :=
            hfailed.of_same rfl rfl rfl rfl rfl rfl
          split
          case isTrue => exact (hcounted.releasePages task _).goto rfl nofun
          case isFalse => exact hcounted.nextCandidate
        case isFalse =>
          have hreset : Roomy target view 0
              { s.recordFailure usage attemptId usageEstimated now with
                structuredExtractionFailures := 0 } :=
            hfailed.of_same rfl rfl rfl rfl rfl rfl
          exact hreset.nextCandidate

/-- A recorded page is counted, and the attempt goes on without it. -/
theorem Roomy.pageRecorded (h : Roomy target view 1 s) (usage : TokenUsage)
    (cacheHit usageEstimated : Bool) (attemptId : AttemptId)
    (candidates accepted now : Nat) :
    Paged target view
      (s.pageRecorded target usage cacheHit usageEstimated attemptId
        candidates accepted now) := by
  have hrecorded : ∀ zeroYieldPages, Roomy target view 0
      { s with
        ledger := Run.chargePage usage cacheHit (some attemptId)
          usageEstimated now s.ledger
        accepted := s.accepted + accepted
        structuredExtractionFailures := 0
        zeroYieldPages } := fun _ =>
    (h.chargePage usage cacheHit attemptId usageEstimated now).of_same rfl
      rfl rfl rfl rfl rfl
  unfold AttemptState.pageRecorded
  dsimp only
  split
  case isTrue => exact (hrecorded s.zeroYieldPages).goto rfl nofun
  case isFalse =>
    generalize (if accepted = 0 then s.zeroYieldPages + 1 else 0)
      = zeroYieldPages
    split
    case isTrue => exact (hrecorded zeroYieldPages).goto rfl nofun
    case isFalse => exact (hrecorded zeroYieldPages).nextCandidate

/-- A search counts no page. -/
theorem recordSearch_counts (target : ResearchTarget)
    (outcome : SearchOutcome) (usage : UsageSnapshot) :
    SamePageCounts usage (recordSearch target outcome usage) := by
  obtain ⟨_, _, _, hwrites⟩ := recordSearch_writes target outcome usage
  rw [hwrites]
  exact ⟨rfl, rfl, rfl⟩

theorem Roomy.searchRecorded (h : Roomy target view 0 s)
    (hcall : s.call = .search) (outcome : SearchOutcome)
    (results : List String) :
    Paged target view (s.searchRecorded target outcome results) := by
  have hrecorded : Roomy target view 0
      (s.updateUsage (recordSearch target.search outcome)) :=
    h.updateUsage (recordSearch_counts _ _ _)
  unfold AttemptState.searchRecorded
  dsimp only
  split
  case h_1 => exact h.goto rfl nofun
  case h_2 =>
    split
    case isTrue =>
      refine ⟨?_, fun url hartifact => ?_⟩
      · rw [hcall]
        exact h
      · rw [hcall] at hartifact
        cases hartifact
    case isFalse => exact hrecorded.goto rfl nofun
  case h_3 requests =>
    have hkept : Roomy target view 0
        { s.updateUsage (recordSearch target.search (.succeeded requests)) with
          searched := true } :=
      hrecorded.of_same rfl rfl rfl rfl rfl rfl
    split
    case isTrue => exact hkept.goto rfl nofun
    case isFalse => exact hkept.goto rfl nofun

/-- What a call does to the pages of the run. -/
inductive PageEffect (task : TaskId) (target : AttemptTarget)
    (view : PageView) (s : AttemptState) (a : AttemptAction)
    (s' : AttemptState) : Prop
  /-- No page is fetched. -/
  | keeps (h : Paged target view s')
  /-- A page is fetched. -/
  | fetches (hfetches : s.fetchesPage a = true)
      (h : Paged target (view.fetch task s.usage) s')

/-- A page of the batch is fetched on a slot, or its read is recorded as
failed. -/
theorem pages_prefetchRecorded (h : Roomy target view 0 s) {url : String}
    {rest pages : List String}
    (hcall : s.call = .recordPrefetched (url :: rest) pages)
    (houtcome : a.outcome = .returns) (latencyMs : Nat) :
    PageEffect task target view s a
      (s.prefetchRecorded task target url rest pages latencyMs) := by
  unfold AttemptState.prefetchRecorded
  split
  case isTrue hread =>
    have hfetched := h.recordFetch task latencyMs
    have hprefetched : Roomy target (view.fetch task s.usage) 0
        { s.recordFetch task false latencyMs with
          prefetched := s.prefetched ++ [url] } :=
      { hfetched with prefetched := fun _ hnone => by cases hnone }
    refine .fetches ?_ (hprefetched.nextPrefetched rest pages)
    unfold AttemptState.fetchesPage
    rw [hcall, houtcome]
    exact decide_eq_true hread
  case isFalse =>
    exact .keeps ((h.recordReadFailure task latencyMs).nextPrefetched rest
      pages)

/-- What a read leaves, for each of the outcomes it can have. -/
theorem pages_pageRead (h : Paged target view s) {url : String}
    (hcall : s.call = .read url) (latencyMs : Nat) :
    PageEffect task target view s a
      (s.pageRead task target a.outcome latencyMs) := by
  have hroomy := h.roomy
  rw [hcall] at hroomy
  unfold AttemptState.pageRead
  split
  case h_1 houtcome =>
    have hfetched := (hroomy.recordFetch task latencyMs).pickUp nofun 1
    refine .fetches ?_ (hfetched.goto_holding rfl)
    unfold AttemptState.fetchesPage
    rw [hcall, houtcome]
  case h_2 => exact .keeps (hroomy.recordReadFailure task _).nextCandidate
  case h_3 =>
    have hfailed := hroomy.recordReadFailure task latencyMs
    exact .keeps ((hfailed.releasePages task _).goto rfl nofun)
  case h_4 => exact .keeps (hroomy.goto rfl nofun)
  case h_5 => exact .keeps ((hroomy.releasePages task _).goto rfl nofun)
  case h_6 => exact .keeps (hroomy.goto rfl nofun)
  case h_7 => exact .keeps h

/-- What an extraction leaves, for each of the outcomes it can have. -/
theorem pages_extractionEnded (h : Paged target view s)
    {attemptId : AttemptId} (hcall : s.call = .extract attemptId)
    (now : Nat) :
    Paged target view
      (s.extractionEnded task target attemptId a.outcome now) := by
  have hroomy := h.roomy
  rw [hcall] at hroomy
  unfold AttemptState.extractionEnded
  split
  case h_1 => exact hroomy.goto_holding rfl
  case h_2 =>
    have hfailed := hroomy.recordFailure none attemptId false now
    exact (hfailed.releasePages task _).goto rfl nofun
  case h_3 => exact hroomy.putDown.goto rfl nofun
  case h_4 code usage usageEstimated recorded _ =>
    exact hroomy.extractionFailed code usage usageEstimated recorded
      attemptId now
  case h_5 =>
    exact (hroomy.putDown.cleanupAttempt task attemptId true now).goto rfl
      nofun
  case h_6 => exact h

/-- One call keeps the bound: a case for each call, in the order of the
attempt. -/
theorem called_pages (h : Paged target view s)
    (hgrant : ∀ results, s.call = .reservePageSlots results →
      s.granted = 0 ∧ s.settledSlots = 0) :
    PageEffect task target view s a
      (AttemptState.called task target s a) := by
  have hroomy := h.roomy
  have hartifact := h.artifact
  unfold AttemptState.called
  cases hcall : s.call <;> rw [hcall] at hroomy hartifact hgrant
  case read url => exact pages_pageRead h hcall a.latencyMs
  case extract attemptId =>
    exact .keeps (pages_extractionEnded h hcall a.now)
  case exited => exact .keeps h
  all_goals
    -- An exception that escapes drops the page in hand.
    have hraised : Paged target view s.raised :=
      hroomy.putDown.goto rfl nofun
    dsimp only
  case initialBudget =>
    split
    case h_1 budgetView _ =>
      exact .keeps (hroomy.askInitialBudget budgetView a.now)
    case h_2 => exact .keeps (hroomy.goto rfl nofun)
    case h_3 => exact .keeps hraised
    case h_4 => exact .keeps h
  case search =>
    split
    case h_1 outcome results _ =>
      exact .keeps (hroomy.searchRecorded hcall outcome results)
    case h_2 => exact .keeps hraised
    case h_3 => exact .keeps h
  case reservePageSlots results =>
    obtain ⟨hgranted, hsettled⟩ := hgrant results rfl
    split
    case h_1 => exact .keeps (hroomy.reservePages hgranted hsettled task _)
    case h_2 => exact .keeps hraised
    case h_3 => exact .keeps h
  case dispatch results =>
    split
    case h_1 => exact .keeps (hroomy.dispatched _)
    case h_2 => exact .keeps hraised
    case h_3 => exact .keeps h
  case prefetch =>
    split
    case h_1 pages _ =>
      exact .keeps (hroomy.nextPrefetched s.batchUrls pages)
    case h_2 => exact .keeps hraised
    case h_3 => exact .keeps h
  case recordPrefetched urls pages =>
    split
    case h_1 url rest houtcome =>
      exact pages_prefetchRecorded hroomy hcall houtcome a.latencyMs
    case h_2 => exact .keeps hraised
    case h_3 => exact .keeps h
  case candidate url =>
    split
    case h_1 =>
      split
      -- A saved text is read without a slot: `Paged.artifact` remembers
      -- which.
      case isTrue hreusable =>
        refine .keeps ⟨hroomy.of_same rfl rfl rfl rfl rfl rfl,
          fun url' heq => ?_⟩
        injection heq with heq
        rw [← heq]
        exact hreusable
      case isFalse => exact .keeps (hroomy.startRead url)
    case h_2 => exact .keeps ((hroomy.releasePages task _).goto rfl nofun)
    case h_3 => exact .keeps hraised
    case h_4 => exact .keeps h
  case readArtifact url =>
    split
    case h_1 =>
      split
      case isTrue hbatch =>
        -- The batch holds no url with a saved text.
        exact absurd (hartifact url rfl) (hroomy.fresh url hbatch)
      case isFalse =>
        exact .keeps ((hroomy.recordReuse task 0).goto_holding rfl)
    case h_2 => exact .keeps (hroomy.startRead url)
    case h_3 => exact .keeps hraised
    case h_4 => exact .keeps h
  case selection =>
    split
    case h_1 already _ => exact .keeps (hroomy.selected already)
    case h_2 => exact .keeps hraised
    case h_3 => exact .keeps h
  case triage =>
    split
    case h_1 =>
      split
      case isTrue => exact .keeps (hroomy.goto_holding rfl)
      case isFalse => exact .keeps hroomy.putDown.nextCandidate
    case h_2 => exact .keeps hraised
    case h_3 => exact .keeps h
  case reserveExtractionSlot =>
    split
    case h_1 deadlinePassed _ =>
      exact .keeps (hroomy.reserveSlot deadlinePassed a.now)
    case h_2 => exact .keeps hraised
    case h_3 => exact .keeps h
  case evidenceModelBudget =>
    split
    case h_1 budgetView _ => exact .keeps (hroomy.askBudget budgetView a.now)
    case h_2 => exact .keeps hraised
    case h_3 => exact .keeps h
  case reserveModelTokens maxCallTokens =>
    split
    case h_1 attemptId borrow recovers _ =>
      exact .keeps
        (hroomy.reserveTokens hcall attemptId borrow recovers a.now)
    case h_2 => exact .keeps hraised
    case h_3 => exact .keeps h
  case recovery attemptId =>
    split
    case h_1 => exact .keeps (hroomy.goto_holding rfl)
    case h_2 => exact .keeps hraised
    case h_3 => exact .keeps h
  case extractionSetup attemptId =>
    split
    case h_1 => exact .keeps (hroomy.goto_holding rfl)
    case h_2 =>
      have hclean := hroomy.putDown.cleanupAttempt task attemptId false a.now
      exact .keeps (hclean.goto rfl nofun)
    case h_3 => exact .keeps h
  case recordPage attemptId usage cacheHit usageEstimated =>
    split
    case h_1 candidates accepted _ =>
      exact .keeps (hroomy.pageRecorded usage cacheHit usageEstimated
        attemptId candidates accepted a.now)
    case h_2 =>
      have hclean := hroomy.putDown.cleanupAttempt task attemptId true a.now
      exact .keeps (hclean.goto rfl nofun)
    case h_3 => exact .keeps h
  case finish =>
    split
    case h_1 => exact .keeps ((hroomy.releasePages task _).goto rfl nofun)
    case h_2 => exact .keeps hraised
    case h_3 => exact .keeps h

/-- One step keeps the bound; an attempt that has exited takes none. -/
theorem step_pages (h : Paged target view s)
    (hgrant : ∀ results, s.call = .reservePageSlots results →
      s.granted = 0 ∧ s.settledSlots = 0) :
    PageEffect task target view s a (AttemptState.step task target s a) := by
  unfold AttemptState.step
  split
  case h_1 => exact .keeps h
  case h_2 => exact .keeps (h.roomy.putDown.goto rfl nofun)
  case h_3 => exact called_pages h hgrant

-- ======================================================= a page is fetched

/-- Going through a batch reads nothing. -/
theorem nextPrefetched_uncovered (urls pages : List String) :
    (s.nextPrefetched target urls pages).uncovered = s.uncovered := by
  unfold AttemptState.nextPrefetched
  split
  case h_1 =>
    unfold AttemptState.nextCandidate
    split
    case h_1 => rfl
    case h_2 => split <;> rfl
  case h_2 => rfl

/-- A page that is fetched without a slot of the worker is noted. -/
theorem step_of_fetchesPage (h : s.fetchesPage a = true) :
    (AttemptState.step task target s a).uncovered
      = (s.uncovered || ownedPageSlots s.usage task == 0) := by
  unfold AttemptState.fetchesPage at h
  split at h
  case h_1 url hcall houtcome =>
    rw [step_eq_called (by rw [hcall]; nofun) (by rw [houtcome]; nofun)]
    unfold AttemptState.called
    rw [hcall, houtcome]
    rfl
  case h_2 url rest pages hcall houtcome =>
    rw [step_eq_called (by rw [hcall]; nofun) (by rw [houtcome]; nofun)]
    unfold AttemptState.called
    rw [hcall, houtcome]
    dsimp only
    unfold AttemptState.prefetchRecorded
    rw [if_pos (of_decide_eq_true h), nextPrefetched_uncovered]
    rfl
  case h_3 => cases h

/-- An exited method fetches nothing. -/
theorem call_of_fetchesPage (h : s.fetchesPage a = true)
    (exit : AttemptExit) : s.call ≠ .exited exit := by
  intro hcall
  unfold AttemptState.fetchesPage at h
  rw [hcall] at h
  cases h

-- ============================================================ the invariant

/-- Every page so far was fetched on a grant. -/
structure AttemptState.OnGrant (start : TokenLedger) (task : TaskId)
    (target : AttemptTarget) (s : AttemptState) : Prop where
  runs : Running start task s ∨ ∃ exit, s.call = .exited exit
  paged : ∃ view, Paged target view s
    ∧ view.fetched.getD 0 ≤ view.budget.pageMaximum
    ∧ view.uncovered = false

variable {start : TokenLedger}

/-- On its grant, an attempt has covered every page it fetched. -/
theorem AttemptState.OnGrant.pagesCovered
    (h : AttemptState.OnGrant start task target s) : s.PagesCovered := by
  obtain ⟨view, hpaged, hwithin, hcovered⟩ := h.paged
  constructor
  · rw [hpaged.roomy.fetched, hpaged.roomy.budget]
    exact hwithin
  · exact hpaged.roomy.uncovered.trans hcovered

/-- Before its grant an attempt has no slots, granted or settled. -/
theorem Running.nothingGranted (h : Running start task s)
    {results : List String} (hcall : s.call = .reservePageSlots results) :
    s.granted = 0 ∧ s.settledSlots = 0 := by
  unfold Running at h
  rw [hcall] at h
  exact h.2

/-- A step goes on running or exits. -/
theorem AttemptState.OnGrant.step_runs
    (h : AttemptState.OnGrant start task target s) :
    Running start task (AttemptState.step task target s a)
      ∨ ∃ exit, (AttemptState.step task target s a).call = .exited exit := by
  rcases h.runs with hrunning | ⟨exit, hcall⟩
  · have heffect : StepEffect start task s a
        (AttemptState.step task target s a) := step_effect hrunning
    cases heffect with
    | runs h => exact .inl h
    | leaves exit hcall h => exact .inr ⟨exit, hcall⟩
    | escapes hescapes h => exact .inr ⟨.raised, by rw [h]; rfl⟩
  · refine .inr ⟨exit, ?_⟩
    unfold AttemptState.step
    rw [hcall]
    exact hcall

/-- Before the first call nothing is granted and nothing fetched. -/
theorem UsageSnapshot.StartsWithin.onGrant
    (h : start.run.usageSnapshot.StartsWithin start.run.budgetSnapshot) :
    AttemptState.OnGrant start task target { ledger := start } := by
  have hwithin := h.within
  refine ⟨.inl ?_, ⟨start.run.budgetSnapshot,
    start.run.usageSnapshot.pagesFetched, false⟩, ⟨⟨rfl, rfl, rfl, h.tied,
    ?_, nofun, nofun⟩, nofun⟩, ?_, rfl⟩
  · unfold Running
    rfl
  · show start.run.usageSnapshot.committedPages + 0
        + (if start.run.usageSnapshot.pagesFetched = none then 0 else 0)
      ≤ start.run.budgetSnapshot.pageMaximum + 0
    rw [ite_self]
    exact hwithin
  · unfold UsageSnapshot.committedPages at hwithin
    show start.run.usageSnapshot.pagesFetched.getD 0
      ≤ start.run.budgetSnapshot.pageMaximum
    cases hfetched : start.run.usageSnapshot.pagesFetched with
    | none => exact Nat.zero_le _
    | some fetched =>
        rw [hfetched] at hwithin
        exact hwithin

/-- A step that fetches on a grant only. -/
theorem AttemptState.OnGrant.step
    (h : AttemptState.OnGrant start task target s)
    (hguard : s.FetchesOnGrant a) :
    AttemptState.OnGrant start task target
      (AttemptState.step task target s a) := by
  refine ⟨h.step_runs, ?_⟩
  obtain ⟨view, hpaged, hwithin, hcovered⟩ := h.paged
  have hgrant : ∀ results, s.call = .reservePageSlots results →
      s.granted = 0 ∧ s.settledSlots = 0 := by
    intro results hcall
    rcases h.runs with hrunning | ⟨exit, hexited⟩
    · exact hrunning.nothingGranted hcall
    · rw [hcall] at hexited
      cases hexited
  have heffect : PageEffect task target view s a
      (AttemptState.step task target s a) := step_pages hpaged hgrant
  cases heffect with
  | keeps h => exact ⟨view, h, hwithin, hcovered⟩
  | fetches hfetches hfetched =>
      have hsettled := hguard hfetches
      refine ⟨_, hfetched, ?_, ?_⟩
      · -- The settled slot was one of those that were granted.
        have hroom := hpaged.roomy.room
        show s.usage.committedPages + 1 ≤ view.budget.pageMaximum
        omega
      · rcases h.runs with hrunning | ⟨exit, hexited⟩
        · have howned := hrunning.counters.1
          have hpositive : ownedPageSlots s.usage task ≠ 0 := by omega
          show (view.uncovered || ownedPageSlots s.usage task == 0) = false
          rw [hcovered, Bool.false_or]
          exact beq_false_of_ne hpositive
        · exact absurd hexited (call_of_fetchesPage hfetches exit)

/-- A worker that had no slot of its own fetches no page past its grant
without being noted. -/
theorem AttemptState.OnGrant.breaks
    (h : AttemptState.OnGrant start task target s)
    (hstart : ownedPageSlots start.run.usageSnapshot task = 0)
    (hguard : ¬ s.FetchesOnGrant a) :
    ¬ (AttemptState.step task target s a).PagesCovered := by
  obtain ⟨hfetches, hsettled⟩ := Classical.not_imp.mp hguard
  intro hcovered
  have hnoted := hcovered.2
  rw [step_of_fetchesPage hfetches] at hnoted
  rcases h.runs with hrunning | ⟨exit, hexited⟩
  · have howned := hrunning.counters.1
    have hzero : ownedPageSlots s.usage task = 0 := by omega
    rw [hzero] at hnoted
    simp at hnoted
  · exact absurd hexited (call_of_fetchesPage hfetches exit)

end

-- ========================================================== slots settled

namespace AttemptState

variable {task : TaskId} {target : AttemptTarget} {s : AttemptState}
  {a : AttemptAction}

@[simp] theorem settledSlots_goto (call : AttemptCall) :
    (s.goto call).settledSlots = s.settledSlots := rfl

@[simp] theorem settledSlots_raised :
    s.raised.settledSlots = s.settledSlots := rfl

@[simp] theorem settledSlots_returned (outcome : AttemptOutcome) :
    (s.returned outcome).settledSlots = s.settledSlots := rfl

@[simp] theorem settledSlots_updateUsage
    (update : UsageSnapshot → UsageSnapshot) :
    (s.updateUsage update).settledSlots = s.settledSlots := rfl

@[simp] theorem settledSlots_releasePages (count : Nat) :
    (s.releasePages task count).settledSlots = s.settledSlots := by
  unfold releasePages
  split <;> rfl

@[simp] theorem settledSlots_releaseUnused :
    (s.releaseUnused task).settledSlots = s.settledSlots :=
  settledSlots_releasePages _

@[simp] theorem settledSlots_releaseExtraction :
    s.releaseExtraction.settledSlots = s.settledSlots := rfl

@[simp] theorem settledSlots_cleanupAttempt (attemptId : AttemptId)
    (uncertain : Bool) (now : Nat) :
    (s.cleanupAttempt task attemptId uncertain now).settledSlots
      = s.settledSlots :=
  settledSlots_releasePages _

@[simp] theorem settledSlots_recordFailure (usage : Option TokenUsage)
    (attemptId : AttemptId) (usageEstimated : Bool) (now : Nat) :
    (s.recordFailure usage attemptId usageEstimated now).settledSlots
      = s.settledSlots := rfl

@[simp] theorem settledSlots_recordFetch (reused : Bool) (latencyMs : Nat) :
    (s.recordFetch task reused latencyMs).settledSlots
      = s.settledSlots + 1 := rfl

@[simp] theorem settledSlots_recordReadFailure (latencyMs : Nat) :
    (s.recordReadFailure task latencyMs).settledSlots
      = s.settledSlots + 1 := rfl

@[simp] theorem settledSlots_nextCandidate :
    (s.nextCandidate target).settledSlots = s.settledSlots := by
  unfold nextCandidate
  split
  case h_1 => rfl
  case h_2 => split <;> rfl

@[simp] theorem settledSlots_nextPrefetched (urls pages : List String) :
    (s.nextPrefetched target urls pages).settledSlots = s.settledSlots := by
  unfold nextPrefetched
  split
  case h_1 => exact settledSlots_nextCandidate
  case h_2 => rfl

@[simp] theorem settledSlots_startRead (url : String) :
    (s.startRead target url).settledSlots = s.settledSlots := by
  unfold startRead
  split
  case isTrue =>
    split
    case isTrue => rfl
    case isFalse => exact settledSlots_nextCandidate
  case isFalse => rfl

@[simp] theorem settledSlots_reservePages (results : List String) :
    (s.reservePages task target results).settledSlots = s.settledSlots := by
  unfold reservePages
  dsimp only
  split <;> rfl

@[simp] theorem settledSlots_dispatched (results : List String) :
    (s.dispatched target results).settledSlots = s.settledSlots := by
  unfold dispatched
  dsimp only
  generalize (if target.parallelReadsEnabled = true then _ else []) = urls
  split <;> simp

@[simp] theorem settledSlots_selected (already : Bool) :
    (s.selected target already).settledSlots = s.settledSlots := by
  unfold selected
  split
  case isTrue => exact settledSlots_nextCandidate
  case isFalse => rfl

@[simp] theorem settledSlots_reserveSlot (deadlinePassed : Bool)
    (now : Nat) :
    (s.reserveSlot task deadlinePassed now).settledSlots
      = s.settledSlots := by
  unfold reserveSlot
  split
  case isTrue =>
    dsimp only
    split
    case isTrue => simp
    case isFalse => rfl
  case isFalse => rfl

@[simp] theorem settledSlots_askBudget (view : EvidenceBudgetView)
    (now : Nat) :
    (s.askBudget task target view now).settledSlots = s.settledSlots := by
  unfold askBudget
  split
  case h_1 =>
    dsimp only
    split <;> rfl
  case h_2 => rfl

@[simp] theorem settledSlots_askInitialBudget (view : EvidenceBudgetView)
    (now : Nat) :
    (s.askInitialBudget task target view now).settledSlots
      = s.settledSlots := by
  unfold askInitialBudget
  split
  case h_1 =>
    dsimp only
    split <;> rfl
  case h_2 => rfl

@[simp] theorem settledSlots_reserveTokens (maxCallTokens : Nat)
    (attemptId : AttemptId) (borrow : QuestionBorrowDecision)
    (recovers : Bool) (now : Nat) :
    (s.reserveTokens task target maxCallTokens attemptId borrow recovers
      now).settledSlots = s.settledSlots := by
  unfold reserveTokens
  split
  case h_1 => rfl
  case h_2 =>
    split
    case h_1 =>
      dsimp only
      split <;> rfl
    case h_2 => rfl

@[simp] theorem settledSlots_extractionFailed (code : String)
    (usage : Option TokenUsage) (usageEstimated recorded : Bool)
    (attemptId : AttemptId) (now : Nat) :
    (s.extractionFailed task target code usage usageEstimated recorded
      attemptId now).settledSlots = s.settledSlots := by
  unfold extractionFailed
  dsimp only
  repeat' split
  all_goals simp

@[simp] theorem settledSlots_extractionEnded (attemptId : AttemptId)
    (outcome : CallOutcome) (now : Nat) :
    (s.extractionEnded task target attemptId outcome now).settledSlots
      = s.settledSlots := by
  unfold extractionEnded
  split <;> simp

@[simp] theorem settledSlots_pageRecorded (usage : TokenUsage)
    (cacheHit usageEstimated : Bool) (attemptId : AttemptId)
    (candidates accepted now : Nat) :
    (s.pageRecorded target usage cacheHit usageEstimated attemptId candidates
      accepted now).settledSlots = s.settledSlots := by
  unfold pageRecorded
  dsimp only
  repeat' split
  all_goals simp

@[simp] theorem settledSlots_searchRecorded (outcome : SearchOutcome)
    (results : List String) :
    (s.searchRecorded target outcome results).settledSlots
      = s.settledSlots := by
  unfold searchRecorded
  dsimp only
  repeat' split
  all_goals simp

@[simp] theorem settledSlots_prefetchRecorded (url : String)
    (rest pages : List String) (latencyMs : Nat) :
    (s.prefetchRecorded task target url rest pages latencyMs).settledSlots
      = s.settledSlots + 1 := by
  unfold prefetchRecorded
  split <;> simp

@[simp] theorem settledSlots_pageRead (outcome : CallOutcome)
    (latencyMs : Nat) :
    (s.pageRead task target outcome latencyMs).settledSlots
      = s.settledSlots + outcome.recordsRead.toNat := by
  unfold pageRead CallOutcome.recordsRead
  cases outcome with
  | timedOut recorded => cases recorded <;> simp
  | _ => simp

/-- What follows a call settles a slot where the outcome tells so. -/
theorem settledSlots_called :
    (s.called task target a).settledSlots
      = s.settledSlots + (s.settlesSlot a).toNat := by
  unfold called settlesSlot
  cases hcall : s.call with
  | read url => simp
  | recordPrefetched urls pages =>
      cases urls with
      | nil =>
          dsimp only
          split
          case h_1 hnil _ => cases hnil
          all_goals simp
      | cons url rest =>
          dsimp only
          split
          case h_1 houtcome => simp [houtcome]
          case h_2 houtcome => simp [houtcome]
          case h_3 hother =>
            have hno : ¬ a.outcome = .returns := hother url rest rfl
            simp [hno]
  | readArtifact url =>
      dsimp only
      split
      case h_1 houtcome =>
        split
        case isTrue hbatch => simp [hbatch]
        case isFalse hbatch => simp [hbatch, houtcome]
      case h_2 houtcome => simp [houtcome]
      case h_3 houtcome => simp [houtcome]
      case h_4 hother _ _ =>
        have hno : ¬ (url ∉ s.batchUrls ∧ a.outcome = .returns) :=
          fun h => hother h.2
        simp [hno]
  | candidate url =>
      dsimp only
      split
      case h_1 => split <;> simp
      all_goals simp
  | triage =>
      dsimp only
      split
      case h_1 => split <;> simp
      all_goals simp
  | exited exit => rfl
  | extract attemptId => simp
  | _ =>
      dsimp only
      split <;> simp

/-- So does a step; an attempt that has exited takes none. -/
theorem settledSlots_step :
    (step task target s a).settledSlots
      = s.settledSlots + (s.settlesSlot a).toNat := by
  unfold step
  split
  case h_1 hcall => 
    unfold settlesSlot
    rw [hcall]
    rfl
  case h_2 houtcome _ =>
    unfold settlesSlot
    rw [houtcome]
    split <;> simp [CallOutcome.recordsRead]
  case h_3 => exact settledSlots_called

/-- The guard counts the records made so far. -/
theorem along_fetchesOnGrant_iff (s : AttemptState)
    (as : List AttemptAction) :
    (attemptSystem task target).Along FetchesOnGrant s as
      ↔ s.ReadsOnGrant task target s.settledSlots as := by
  induction as generalizing s with
  | nil => exact Iff.rfl
  | cons a as ih =>
      have hstep := @settledSlots_step task target s a
      rw [Transition.System.Along, ih, ReadsOnGrant, ← hstep]
      rfl

end AttemptState

-- ======================================================== the main result

/-- A run that fetches every page while fewer pages have been recorded than
slots were granted stays within the page limit, with every page covered; a
worker that starts without a slot covers its pages on no other run. -/
theorem attempt_covers_pages_iff (task : TaskId) (target : AttemptTarget)
    (start : TokenLedger)
    (hstart : start.run.usageSnapshot.StartsWithin
      start.run.budgetSnapshot) (as : List AttemptAction) :
    (AttemptState.ReadsOnGrant task target { ledger := start } 0 as →
      (attemptSystem task target).Throughout AttemptState.PagesCovered
        { ledger := start } as)
      ∧ (ownedPageSlots start.run.usageSnapshot task = 0 →
        ((attemptSystem task target).Throughout AttemptState.PagesCovered
            { ledger := start } as
          ↔ AttemptState.ReadsOnGrant task target { ledger := start } 0
            as)) := by
  have hkeep : ∀ (s : AttemptState) (a : AttemptAction),
      AttemptState.OnGrant start task target s → s.FetchesOnGrant a →
      AttemptState.OnGrant start task target
        ((attemptSystem task target).step s a) :=
    fun _ _ h hguard => h.step hguard
  have hcovers : ∀ s, AttemptState.OnGrant start task target s →
      s.PagesCovered := fun _ h => h.pagesCovered
  have hinit : AttemptState.OnGrant start task target
      { ledger := start } := hstart.onGrant
  have hguards := @AttemptState.along_fetchesOnGrant_iff task target
    { ledger := start } as
  refine ⟨fun hreads =>
    ((hguards.mpr hreads).throughout hkeep hinit).mono hcovers,
    fun hidle => ?_⟩
  have hbreak : ∀ (s : AttemptState) (a : AttemptAction),
      AttemptState.OnGrant start task target s → ¬ s.FetchesOnGrant a →
      ¬ ((attemptSystem task target).step s a).PagesCovered :=
    fun _ _ h hguard => h.breaks hidle hguard
  exact (Transition.throughout_iff_along hcovers hkeep hbreak hinit
    as).trans hguards

-- ================================================================= a sample

/-- The first page is read, and was processed before; the method goes on
to the next one. -/
def duplicateFirst : List AttemptAction :=
  upToFirstRead ["a", "b"] ++
    [⟨.returns, 1, 0⟩, ⟨.processed true, 1, 0⟩, ⟨.returns, 1, 0⟩,
      ⟨.toolError, 1, 0⟩]

theorem attempt_covers_pages_iff_sample :
    (attemptSystem sampleLoopTask sampleTarget).Throughout
      AttemptState.PagesCovered { ledger := onePageRun } duplicateFirst :=
  ((attempt_covers_pages_iff sampleLoopTask sampleTarget onePageRun
    (by decide) duplicateFirst).2 (by decide)).mpr (by decide)

/-- With one page left the method is granted one slot. It settles it on a
page that was processed before, reads the next one all the same, and the
run has fetched two pages of one. -/
theorem duplicate_page_passes_limit :
    let run := upToFirstRead ["a", "b"] ++
      [⟨.returns, 1, 0⟩, ⟨.processed true, 1, 0⟩, ⟨.returns, 1, 0⟩,
        ⟨.returns, 1, 0⟩]
    let read := (attemptSystem sampleLoopTask sampleTarget).exec
      { ledger := onePageRun } run
    onePageRun.run.usageSnapshot.StartsWithin onePageRun.run.budgetSnapshot
      ∧ onePageRun.run.budgetSnapshot.pageMaximum = 1
      ∧ read.usage.pagesFetched = some 2
      ∧ ¬ (attemptSystem sampleLoopTask sampleTarget).Throughout
        AttemptState.PagesCovered { ledger := onePageRun } run := by
  refine ⟨by decide, rfl, rfl, by decide⟩

end DeepResearch.Run
