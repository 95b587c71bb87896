/-
The page and extraction ledgers inside the usage snapshot: slots are
reserved before an external read starts, settled when its outcome is
recorded, and released when an iteration stops early
(`research_tools.py`: `reserve_page_slots`, `record_page_fetched`,
`record_page_failure`, `release_page_slots`, `reserve_extraction_slot`,
`release_extraction_slot`, and the usage part of `record_page` and
`record_extraction_failure`).

`page_slots_reserved` is the run's total, `page_slots_reserved_by_worker`
the breakdown by task id. Every operation writes the two separately.
-/
import DeepResearch.Lib.Counters
import DeepResearch.Run.Basic

namespace DeepResearch.Run

-- ============================================================= deadline

/-- `_deadline_at`: the explicit deadline, else the wall clock limit
counted from the start (from creation before the run has started). -/
def deadlineAt (run : ResearchRunRow) : Option Nat :=
  match run.budgetSnapshot.deadlineAt with
  | some deadline => some deadline
  | none =>
      let maximum := run.budgetSnapshot.maxWallClockSeconds.getD 0
      if maximum = 0 then none
      else some (run.startedAt.getD run.createdAt + maximum)

/-- `_deadline_remaining_seconds`. -/
def deadlineRemainingSeconds (now : Nat) (run : ResearchRunRow) : Nat :=
  match deadlineAt run with
  | some deadline => deadline - now
  | none => 0

-- =========================================================== page slots

/-- `PageBudgetReservation`. -/
structure PageBudgetReservation where
  granted : Nat
  remaining : Nat
  deriving DecidableEq, Repr

/-- The grant of `reserve_page_slots`: what the page pool and the fetch
attempt pool leave, after one page is kept back for every fresh search
still available. -/
def pageSlotGrant (budget : BudgetSnapshot) (usage : UsageSnapshot)
    (requested : Nat) (freshSearch : Bool) : PageBudgetReservation :=
  let maximum := (budget.maxPagesFetched.or budget.maxPages).getD 0
  let committed := (usage.pagesFetched.or usage.pages).getD 0
  let committedAttempts := usage.pageFetchAttempts.getD committed
  let reserved := usage.pageSlotsReserved
  let remaining := maximum - committed - reserved
  let attemptMaximum :=
    match budget.maxPageFetchAttempts with
    | some limit => if limit = 0 then maximum else limit
    | none => maximum
  let attemptRemaining := attemptMaximum - committedAttempts - reserved
  let maximumSearches := budget.maxSearches.getD 0
  let usedSearches := usage.searches.getD 0
  let remainingFreshSearches :=
    if freshSearch then maximumSearches - usedSearches else 0
  let currentSearchCapacity := remaining - remainingFreshSearches
  let granted := min (min requested currentSearchCapacity) attemptRemaining
  { granted, remaining := remaining - granted }

/-- The slots a worker holds according to the breakdown. -/
def ownedPageSlots (usage : UsageSnapshot) (workerTaskId : TaskId) : Nat :=
  Counters.count usage.pageSlotsReservedByWorker workerTaskId

/-- The write of `reserve_page_slots`; nothing is written when nothing
is granted. -/
def reservePageSlots (budget : BudgetSnapshot) (usage : UsageSnapshot)
    (workerTaskId : TaskId) (requested : Nat) (freshSearch : Bool) :
    UsageSnapshot :=
  let granted := (pageSlotGrant budget usage requested freshSearch).granted
  if granted = 0 then usage
  else
    { usage with
      pageSlotsReserved := usage.pageSlotsReserved + granted
      pageSlotsReservedByWorker :=
        usage.pageSlotsReservedByWorker.insert workerTaskId
          (ownedPageSlots usage workerTaskId + granted) }

/-- The breakdown after a worker's share becomes `left`: an entry that
reaches zero is popped. -/
def setOwnedPageSlots (owners : AList fun _ : TaskId => Nat)
    (workerTaskId : TaskId) (left : Nat) : AList fun _ : TaskId => Nat :=
  if left = 0 then owners.erase workerTaskId
  else owners.insert workerTaskId left

/-- Settling one page slot, shared by `record_page_fetched` and
`record_page_failure`. Without any breakdown one slot of the total is
settled; with one, only a slot the worker owns. -/
def settlePageSlot (usage : UsageSnapshot) (workerTaskId : TaskId) :
    UsageSnapshot :=
  let owners := usage.pageSlotsReservedByWorker
  let owned := ownedPageSlots usage workerTaskId
  let settled := if owners.entries = [] then 1 else min 1 owned
  { usage with
    pageSlotsReservedByWorker :=
      if owners.entries = [] then owners
      else setOwnedPageSlots owners workerTaskId (owned - settled)
    pageSlotsReserved := usage.pageSlotsReserved - settled }

/-- The usage write of `record_page_fetched`. -/
def recordPageFetched (usage : UsageSnapshot) (workerTaskId : TaskId)
    (reused : Bool) (latencyMs : Nat) : UsageSnapshot :=
  let usage := settlePageSlot usage workerTaskId
  { usage with
    pageFetchAttempts :=
      some (usage.pageFetchAttempts.getD 0 + if reused then 0 else 1)
    pagesFetched :=
      if reused then usage.pagesFetched
      else some ((usage.pagesFetched.or usage.pages).getD 0 + 1)
    pageFetchLatencyMs := usage.pageFetchLatencyMs + latencyMs }

/-- The usage write of `record_page_failure`. -/
def recordPageFailure (usage : UsageSnapshot) (workerTaskId : TaskId)
    (latencyMs : Nat) : UsageSnapshot :=
  let usage := settlePageSlot usage workerTaskId
  { usage with
    pageFetchAttempts := some (usage.pageFetchAttempts.getD 0 + 1)
    pageFetchLatencyMs := usage.pageFetchLatencyMs + latencyMs
    pageReadFailures := usage.pageReadFailures + 1 }

/-- The usage write of `release_page_slots`, for a positive count. -/
def releasePageSlots (usage : UsageSnapshot) (workerTaskId : TaskId)
    (count : Nat) : UsageSnapshot :=
  let owners := usage.pageSlotsReservedByWorker
  let owned := ownedPageSlots usage workerTaskId
  let released :=
    if owners.entries = [] then min count usage.pageSlotsReserved
    else min count owned
  { usage with
    pageSlotsReservedByWorker :=
      if owners.entries = [] then owners
      else setOwnedPageSlots owners workerTaskId (owned - released)
    pageSlotsReserved := usage.pageSlotsReserved - released }

-- ====================================================== extraction slots

/-- Whether `reserve_extraction_slot` grants a slot. -/
def canReserveExtractionSlot (now : Nat) (run : ResearchRunRow) : Bool :=
  let budget := run.budgetSnapshot
  let usage := run.usageSnapshot
  let maximum := (budget.maxPagesExtracted.or budget.maxPages).getD 0
  let maxCalls := budget.maxExtractionCalls.getD maximum
  let extracted := (usage.pagesExtracted.or usage.pages).getD 0
  let calls := usage.extractionCalls.getD extracted
  let reserved := usage.extractionSlotsReserved
  !(decide (0 < budget.maxWallClockSeconds.getD 0)
      && decide (deadlineRemainingSeconds now run = 0)
    || decide (0 < maximum) && decide (maximum ≤ extracted + reserved)
    || decide (0 < maxCalls) && decide (maxCalls ≤ calls + reserved))

def reserveExtractionSlot (usage : UsageSnapshot) : UsageSnapshot :=
  { usage with
    extractionSlotsReserved := usage.extractionSlotsReserved + 1 }

def releaseExtractionSlot (usage : UsageSnapshot) : UsageSnapshot :=
  { usage with
    extractionSlotsReserved := usage.extractionSlotsReserved - 1 }

-- ================================================ recorded model outcomes

/-- `_model_tokens_from_usage` (and `_model_token_total`, its twin in
`research_runs.py`). -/
def modelTokensFromUsage (usage : UsageSnapshot) : Nat :=
  (usage.planner.elim 0 (·.totalTokens))
    + (usage.writer.elim 0 (·.totalTokens)) + usage.evidenceTotalTokens

/-- `_model_tokens`. -/
def modelTokens (usage : UsageSnapshot) : Nat :=
  max (modelTokensFromUsage usage) usage.modelTokens

/-- Adding an extraction call's usage to the evidence counters. -/
def chargeEvidenceUsage (usage : UsageSnapshot) (call : TokenUsage) :
    UsageSnapshot :=
  { usage with
    evidenceInputTokens := usage.evidenceInputTokens + call.inputTokens
    evidenceOutputTokens := usage.evidenceOutputTokens + call.outputTokens
    evidenceTotalTokens := usage.evidenceTotalTokens + call.totalTokens }

/-- The counters `record_page` and `record_extraction_failure` write
alike: one more extracted page, one extraction slot settled. -/
def settleExtraction (usage : UsageSnapshot) (calls : Nat) :
    UsageSnapshot :=
  let extracted := (usage.pagesExtracted.or usage.pages).getD 0 + 1
  { usage with
    pagesExtracted := some extracted
    pages := some extracted
    extractionCalls := some (usage.extractionCalls.getD 0 + calls)
    extractionSlotsReserved := usage.extractionSlotsReserved - 1 }

/-- `usage["model_tokens"] = _model_tokens_from_usage(usage)`. -/
def syncModelTokens (usage : UsageSnapshot) : UsageSnapshot :=
  { usage with modelTokens := modelTokensFromUsage usage }

/-- The usage write of `record_page`; a cache hit is no model call. -/
def recordPage (usage : UsageSnapshot) (call : TokenUsage)
    (cacheHit : Bool) : UsageSnapshot :=
  syncModelTokens
    (chargeEvidenceUsage
      (settleExtraction usage (if cacheHit then 0 else 1)) call)

/-- The usage write of `record_extraction_failure`; the failed call may
have reported no usage. -/
def recordExtractionFailure (usage : UsageSnapshot)
    (call : Option TokenUsage) : UsageSnapshot :=
  let usage := settleExtraction usage 1
  let usage :=
    { usage with
      evidenceExtractionFailures := usage.evidenceExtractionFailures + 1 }
  syncModelTokens (call.elim usage (chargeEvidenceUsage usage))

end DeepResearch.Run
