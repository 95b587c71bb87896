/-
One research attempt and the resources it takes (`research_loop.py`:
`_research_target`): page slots, an extraction slot, a model token
reservation.

# Calls

The method is a sequence of calls to the repository, the search, the
reader, the artifact store and the extractor; everything between two
calls is computed. `AttemptCall` names the call in progress, an action is
what it returns or raises. Calls that only record an event are made
together with the call before or after them: an exception there leaves
the method from the same place, with the same resources.

# Exceptions

`raises` stands for every `Exception` a call site has no handler of its
own for. Where the method guards a call by `cleanup_attempt`, the
exception is passed on after the clean-up; everywhere else it leaves the
method as it is. A cancellation is no `Exception` and is caught nowhere.
The clean-up calls themselves return: the worker holds its lease.

# What is left out

Selection, ranking and triage of the candidates are inputs, and so are
the texts and events they are recorded with.
-/
import DeepResearch.Run.ModelBudget

namespace DeepResearch.Run

-- =============================================================== the target

/-- `_MAX_PAGE_ATTEMPTS`. -/
def maxPageAttempts : Nat := 12

/-- `_MAX_PAGES_READ`. -/
def maxPagesRead : Nat := 2

/-- `_ISOLATED_EXTRACTION_ERRORS`. -/
def isolatedExtractionErrors : List String :=
  ["EVIDENCE_OUTPUT_SCHEMA_INVALID", "MODEL_OUTPUT_INVALID",
    "MODEL_OUTPUT_TRUNCATED", "MODEL_RESPONSE_INVALID", "MODEL_TIMEOUT",
    "MODEL_NETWORK_ERROR", "MODEL_RATE_LIMITED",
    "MODEL_PROVIDER_UNAVAILABLE", "MODEL_TOKEN_BUDGET_EXHAUSTED"]

/-- `_STRUCTURED_EXTRACTION_ERRORS`. -/
def structuredExtractionErrors : List String :=
  ["EVIDENCE_OUTPUT_SCHEMA_INVALID", "MODEL_OUTPUT_INVALID",
    "MODEL_OUTPUT_TRUNCATED", "MODEL_RESPONSE_INVALID"]

/-- `_DURABLE_EXTRACTION_TRANSPORT_ERRORS`. -/
def durableExtractionTransportErrors : List String :=
  ["MODEL_TIMEOUT", "MODEL_NETWORK_ERROR", "MODEL_RATE_LIMITED",
    "MODEL_PROVIDER_UNAVAILABLE"]

/-- `_STRUCTURED_EXTRACTION_FAILURE_LIMIT`. -/
def structuredExtractionFailureLimit : Nat := 2

/-- What the method reads of its target and of the service; the reusable
pages are those of the candidates that were fetched before, by url. -/
structure AttemptTarget where
  questionId : String
  reusablePages : List String := []
  search : ResearchTarget := {}
  firstPass : Bool := false
  priority : Nat := 1
  cheapTriageEnabled : Bool := false
  parallelReadsEnabled : Bool := false
  minimumCall : Int := 0
  deriving DecidableEq, Repr

/-- The `requested` argument of `reserve_page_slots`. -/
def AttemptTarget.requestedPages (target : AttemptTarget) : Nat :=
  if target.firstPass ∧ target.priority = 1 then maxPagesRead
  else if target.firstPass then 1
  else min maxPageAttempts maxPagesRead

/-- `desired_page_limit`. -/
def AttemptTarget.desiredPageLimit (target : AttemptTarget) : Nat :=
  if ¬ target.firstPass ∨ target.priority = 1 then maxPagesRead else 1

-- ================================================================ the calls

/-- How the method is left. -/
inductive AttemptExit
  | returned (outcome : AttemptOutcome)
  | raised
  deriving DecidableEq, Repr

/-- The call in progress. -/
inductive AttemptCall
  /-- `evidence_model_budget`, before anything else. -/
  | initialBudget
  /-- The search, and `record_search_results` or `record_tool_failure`. -/
  | search
  | reservePageSlots (results : List String)
  /-- The dispatch events that follow the reservation. -/
  | dispatch (results : List String)
  /-- `read_page_attempts_concurrently`. -/
  | prefetch
  /-- `record_page_fetched` or `record_page_failure`, for each page that
  was read ahead. -/
  | recordPrefetched (urls pages : List String)
  /-- The dispatch event of the next candidate. -/
  | candidate (url : String)
  /-- `read_text`, for a page that was fetched before. -/
  | readArtifact (url : String)
  /-- The reader, and the record of what it returned. -/
  | read (url : String)
  /-- `page_already_processed`. -/
  | selection
  /-- `cheap_triage`, and `record_triage_rejection`. -/
  | triage
  | reserveExtractionSlot
  | evidenceModelBudget
  | reserveModelTokens (maxCallTokens : Nat)
  /-- `record_recovery_event` and `attach_recovery_context`. -/
  | recovery (attemptId : AttemptId)
  /-- `save_page` and `record_extraction_started`. -/
  | extractionSetup (attemptId : AttemptId)
  /-- The extractor, and `record_extraction_failure`. -/
  | extract (attemptId : AttemptId)
  | recordPage (attemptId : AttemptId) (usage : TokenUsage)
      (cacheHit usageEstimated : Bool)
  /-- The dispatch events of the candidates that were not tried. -/
  | finish
  | exited (exit : AttemptExit)
  deriving DecidableEq, Repr

/-- What a call returns or raises. -/
inductive CallOutcome
  | raises
  /-- The task is cancelled while it awaits the call. -/
  | cancelled
  | returns
  /-- The deadline has passed before the call. -/
  | deadline
  /-- `TimeoutError`; the failure is recorded, or that raises. -/
  | timedOut (recorded : Bool)
  /-- `ToolExecutionError`, recorded. -/
  | toolError
  /-- The saved text is missing or does not match its hash. -/
  | unreadable
  | answered (view : EvidenceBudgetView)
  | searched (outcome : SearchOutcome) (results : List String)
  /-- `ordered_results`: the results that are topically relevant, the best
  first. -/
  | ordered (urls : List String)
  /-- The pages that were read ahead, by url. -/
  | prefetched (pages : List String)
  | processed (already : Bool)
  | triaged (accepted : Bool)
  /-- The slot is asked for; the deadline passes meanwhile. -/
  | slot (deadlinePassed : Bool)
  /-- The tokens are asked for under a new id; a borrowed budget is
  recorded as a recovery. -/
  | tokens (attemptId : AttemptId) (borrow : QuestionBorrowDecision)
      (recovers : Bool)
  /-- `ModelGatewayError`; if isolated, the failure is recorded, or that
  raises. -/
  | gatewayError (code : String) (usage : Option TokenUsage)
      (usageEstimated recorded : Bool)
  | extracted (usage : TokenUsage) (cacheHit usageEstimated : Bool)
  | recorded (candidates accepted : Nat)
  deriving DecidableEq, Repr

structure AttemptAction where
  outcome : CallOutcome
  now : Nat := 0
  latencyMs : Nat := 0
  deriving DecidableEq, Repr

-- ================================================================ the state

/-- The ledgers, the call in progress and the variables of the method.
`searched` says that the search was recorded as succeeded, `fetches`
counts the network reads recorded, `uncovered` says that one was recorded
without a slot of the worker, `attempts` are the token reservations
taken. -/
structure AttemptState where
  ledger : TokenLedger
  call : AttemptCall := .initialBudget
  searched : Bool := false
  granted : Nat := 0
  settledSlots : Nat := 0
  pending : List String := []
  batchUrls : List String := []
  prefetched : List String := []
  pagesRead : Nat := 0
  accepted : Nat := 0
  zeroYieldPages : Nat := 0
  structuredExtractionFailures : Nat := 0
  questionBudgetExhausted : Bool := false
  questionBudgetYielded : Bool := false
  fetches : Nat := 0
  uncovered : Bool := false
  attempts : List AttemptId := []

namespace AttemptState

variable (task : TaskId) (target : AttemptTarget)

/-- A write to the usage snapshot. -/
def updateUsage (update : UsageSnapshot → UsageSnapshot)
    (s : AttemptState) : AttemptState :=
  { s with ledger := s.ledger.setUsage (update s.ledger.run.usageSnapshot) }

def goto (call : AttemptCall) (s : AttemptState) : AttemptState :=
  { s with call }

def raised (s : AttemptState) : AttemptState :=
  s.goto (.exited .raised)

def returned (outcome : AttemptOutcome) (s : AttemptState) :
    AttemptState :=
  s.goto (.exited (.returned outcome))

/-- `release_page_slots`; nothing is written for a count of zero. -/
def releasePages (count : Nat) (s : AttemptState) : AttemptState :=
  if count = 0 then s
  else s.updateUsage (releasePageSlots · task count)

/-- `release_page_slots(max(0, granted - settled_slots))`. -/
def releaseUnused (s : AttemptState) : AttemptState :=
  s.releasePages task (s.granted - s.settledSlots)

/-- `release_extraction_slot`. -/
def releaseExtraction (s : AttemptState) : AttemptState :=
  s.updateUsage releaseExtractionSlot

/-- `cleanup_attempt`: the reservation is closed, then the extraction
slot and as many page slots as were granted are released. -/
def cleanupAttempt (attemptId : AttemptId) (uncertain : Bool) (now : Nat)
    (s : AttemptState) : AttemptState :=
  ({ s with
    ledger :=
      if uncertain then (uncertainReservationRow attemptId s.ledger).2
      else (releaseReservationRow attemptId now s.ledger).2 }
    |>.releaseExtraction).releasePages task s.granted

/-- `record_page_fetched`, and the slot it settles. -/
def recordFetch (reused : Bool) (latencyMs : Nat) (s : AttemptState) :
    AttemptState :=
  { s.updateUsage (recordPageFetched · task reused latencyMs) with
    settledSlots := s.settledSlots + 1
    fetches := s.fetches + if reused then 0 else 1
    uncovered :=
      s.uncovered
        || !reused && ownedPageSlots s.ledger.run.usageSnapshot task == 0 }

/-- `record_page_failure`, and the slot it settles. -/
def recordReadFailure (latencyMs : Nat) (s : AttemptState) :
    AttemptState :=
  { s.updateUsage (recordPageFailure · task latencyMs) with
    settledSlots := s.settledSlots + 1 }

/-- `page_limit`. -/
def pageLimit (s : AttemptState) : Nat :=
  min s.granted target.desiredPageLimit

/-- The head of the loop over the candidates. -/
def nextCandidate (s : AttemptState) : AttemptState :=
  match s.pending with
  | [] => s.goto .finish
  | url :: rest =>
      if s.pageLimit target ≤ s.pagesRead then s.goto .finish
      else { s with call := .candidate url, pending := rest }

/-- A candidate without a saved text: its page was read ahead, or is read
now. One that could not be read ahead is passed over. -/
def startRead (url : String) (s : AttemptState) : AttemptState :=
  if url ∈ s.batchUrls then
    if url ∈ s.prefetched then s.goto .selection
    else s.nextCandidate target
  else s.goto (.read url)

/-- What the next page read ahead is recorded as. -/
def nextPrefetched (urls pages : List String) (s : AttemptState) :
    AttemptState :=
  match urls with
  | [] => s.nextCandidate target
  | _ :: _ => s.goto (.recordPrefetched urls pages)

/-- The outcome after the loop. -/
def attemptOutcome (s : AttemptState) : AttemptOutcome :=
  if s.questionBudgetExhausted then .questionBudgetExhausted
  else if s.questionBudgetYielded then .yieldQuestion
  else if s.pagesRead = 0 then .unreadable
  else if s.accepted = 0 then .noEvidence
  else .evidenceGained

/-- The request for the tokens of one extraction call. -/
def tokenRequest (attemptId : AttemptId) (maxCallTokens : Nat) :
    TokenRequest :=
  let maxOutput := min (maxCallTokens / 4) 4000
  { questionId := target.questionId
    node := "evidence_extractor"
    attemptId
    maxOutput
    estimatedInput := maxCallTokens - maxOutput }

/-- The answer cannot pay for the smallest call. -/
def refuses (answer : EvidenceModelBudget) : Bool :=
  !answer.allowed || decide ((answer.maxCallTokens : Int) < target.minimumCall)

/-- How the outcome of a budget answer is reported. -/
def budgetOutcome : BudgetOutcome → AttemptOutcome
  | .execute => .other
  | .yieldQuestion => .yieldQuestion
  | .stopRun => .stopRun

-- ============================================================ call by call

/-- `reserve_page_slots`. -/
def reservePages (results : List String) (s : AttemptState) :
    AttemptState :=
  let budget := s.ledger.run.budgetSnapshot
  let fresh := !target.search.reuseOnly
  let granted := (pageSlotGrant budget s.ledger.run.usageSnapshot
    target.requestedPages fresh).granted
  if granted = 0 then s.returned .budgetExhausted
  else
    { s.updateUsage
        (reservePageSlots budget · task target.requestedPages fresh) with
      granted
      call := .dispatch results }

/-- After the dispatch events: with parallel reads the first pages are
read ahead, as many as the limit allows. -/
def dispatched (results : List String) (s : AttemptState) :
    AttemptState :=
  let batchUrls :=
    if target.parallelReadsEnabled then
      (results.take (s.pageLimit target)).filter (· ∉ target.reusablePages)
    else []
  let s :=
    { s with pending := results.take maxPageAttempts, batchUrls }
  if batchUrls = [] then s.nextCandidate target else s.goto .prefetch

/-- A page read ahead is recorded. -/
def prefetchRecorded (url : String) (rest pages : List String)
    (latencyMs : Nat) (s : AttemptState) : AttemptState :=
  if url ∈ pages then
    ({ s.recordFetch task false latencyMs with
        prefetched := s.prefetched ++ [url] }).nextPrefetched target rest
      pages
  else (s.recordReadFailure task latencyMs).nextPrefetched target rest pages

/-- After `page_already_processed`. -/
def selected (already : Bool) (s : AttemptState) : AttemptState :=
  if already then s.nextCandidate target
  else
    let s := { s with pagesRead := s.pagesRead + 1 }
    s.goto (if target.cheapTriageEnabled then .triage
      else .reserveExtractionSlot)

/-- `reserve_extraction_slot`, and the deadline check after it. -/
def reserveSlot (deadlinePassed : Bool) (now : Nat) (s : AttemptState) :
    AttemptState :=
  if canReserveExtractionSlot now s.ledger.run then
    let s := s.updateUsage reserveExtractionSlot
    if deadlinePassed then
      (s.releaseExtraction.releaseUnused task).returned .deadlineExhausted
    else s.goto .evidenceModelBudget
  else s.goto .finish

/-- `evidence_model_budget`, for a page. -/
def askBudget (view : EvidenceBudgetView) (now : Nat) (s : AttemptState) :
    AttemptState :=
  match Run.evidenceModelBudget task
      { questionId := some target.questionId
        minimumCall := some target.minimumCall } view now s.ledger with
  | .ok (answer, ledger) =>
      let s := { s with ledger }
      if refuses target answer then s.releaseExtraction.goto .finish
      else s.goto (.reserveModelTokens answer.maxCallTokens)
  | .error _ => s.raised

/-- `evidence_model_budget`, for the attempt. -/
def askInitialBudget (view : EvidenceBudgetView) (now : Nat)
    (s : AttemptState) : AttemptState :=
  match Run.evidenceModelBudget task
      { questionId := some target.questionId
        minimumCall := some target.minimumCall } view now s.ledger with
  | .ok (answer, ledger) =>
      let s := { s with ledger }
      if refuses target answer then s.returned (budgetOutcome answer.outcome)
      else s.goto .search
  | .error _ => s.raised

/-- `reserve_model_tokens`. The id is new: an id in use is no step. -/
def reserveTokens (maxCallTokens : Nat) (attemptId : AttemptId)
    (borrow : QuestionBorrowDecision) (recovers : Bool) (now : Nat)
    (s : AttemptState) : AttemptState :=
  match s.ledger.reservations.lookup attemptId with
  | some _ => s
  | none =>
      match reserveModelTokens task
          (tokenRequest target attemptId maxCallTokens) borrow now
          s.ledger with
      | .ok (reservation, ledger) =>
          let s := { s with ledger }
          if reservation.granted then
            { s with
              attempts := attemptId :: s.attempts
              call :=
                if recovers then .recovery attemptId
                else .extractionSetup attemptId }
          else
            { s.releaseExtraction with
              questionBudgetExhausted :=
                reservation.status == .questionBudgetExhausted
              questionBudgetYielded :=
                reservation.status == .questionBudgetYielded
              call := .finish }
      | .error _ => s.raised

/-- `record_extraction_failure`. -/
def recordFailure (usage : Option TokenUsage) (attemptId : AttemptId)
    (usageEstimated : Bool) (now : Nat) (s : AttemptState) : AttemptState :=
  { s with
    ledger :=
      chargeExtractionFailure usage (some attemptId) usageEstimated now
        s.ledger }

/-- The handler of `ModelGatewayError`. -/
def extractionFailed (code : String) (usage : Option TokenUsage)
    (usageEstimated recorded : Bool) (attemptId : AttemptId) (now : Nat)
    (s : AttemptState) : AttemptState :=
  if code ∉ isolatedExtractionErrors then s.raised
  else if ¬ recorded then (s.cleanupAttempt task attemptId true now).raised
  else
    let s := s.recordFailure usage attemptId usageEstimated now
    if code ∈ durableExtractionTransportErrors then
      (s.releaseUnused task).raised
    else if code ∈ structuredExtractionErrors then
      let s :=
        { s with
          structuredExtractionFailures := s.structuredExtractionFailures + 1 }
      if structuredExtractionFailureLimit ≤ s.structuredExtractionFailures
          ∧ s.accepted = 0 then
        (s.releaseUnused task).raised
      else s.nextCandidate target
    else { s with structuredExtractionFailures := 0 }.nextCandidate target

/-- `record_page`, and whether another page is read. -/
def pageRecorded (usage : TokenUsage) (cacheHit usageEstimated : Bool)
    (attemptId : AttemptId) (candidates accepted now : Nat)
    (s : AttemptState) : AttemptState :=
  let s :=
    { s with
      ledger := chargePage usage cacheHit (some attemptId) usageEstimated now
        s.ledger
      accepted := s.accepted + accepted
      structuredExtractionFailures := 0 }
  if candidates = 0 then s.goto .finish
  else
    let s :=
      { s with
        zeroYieldPages := if accepted = 0 then s.zeroYieldPages + 1 else 0 }
    if 2 ≤ s.zeroYieldPages then s.goto .finish else s.nextCandidate target

/-- `record_search_results` or `record_tool_failure`. Nothing fails when
only cached work is reused. -/
def searchRecorded (outcome : SearchOutcome) (results : List String)
    (s : AttemptState) : AttemptState :=
  let recorded := s.updateUsage (recordSearch target.search outcome)
  match outcome with
  | .cutShort => s.returned .deadlineExhausted
  | .providerFailed _ =>
      if target.search.reuseOnly then s else recorded.returned .providerError
  | .succeeded _ =>
      let recorded := { recorded with searched := true }
      if results = [] then recorded.returned .zeroResults
      else recorded.goto (.reservePageSlots results)

/-- What the reader returned, and the record of it. -/
def pageRead (outcome : CallOutcome) (latencyMs : Nat) (s : AttemptState) :
    AttemptState :=
  match outcome with
  | .returns => (s.recordFetch task false latencyMs).goto .selection
  | .toolError =>
      (s.recordReadFailure task latencyMs).nextCandidate target
  | .timedOut true =>
      ((s.recordReadFailure task latencyMs).releaseUnused task).returned
        .deadlineExhausted
  | .timedOut false => s.raised
  | .deadline => (s.releaseUnused task).returned .deadlineExhausted
  | .raises => s.raised
  | _ => s

/-- What the extractor returned, and the record of a failure. An
exception of another kind is passed on after the clean-up. -/
def extractionEnded (attemptId : AttemptId) (outcome : CallOutcome)
    (now : Nat) (s : AttemptState) : AttemptState :=
  match outcome with
  | .extracted usage cacheHit usageEstimated =>
      s.goto (.recordPage attemptId usage cacheHit usageEstimated)
  | .timedOut true =>
      ((s.recordFailure none attemptId false now).releaseUnused
        task).returned .deadlineExhausted
  | .timedOut false => s.raised
  | .gatewayError code usage usageEstimated recorded =>
      s.extractionFailed task target code usage usageEstimated recorded
        attemptId now
  | .raises => (s.cleanupAttempt task attemptId true now).raised
  | _ => s

/-- What follows the call, by what it returns or raises. An outcome that
the call cannot have is no step. -/
def called (s : AttemptState) (a : AttemptAction) : AttemptState :=
  match s.call with
  | .exited _ => s
  | .initialBudget =>
      match a.outcome with
      | .answered view => s.askInitialBudget task target view a.now
      | .deadline => s.returned .deadlineExhausted
      | .raises => s.raised
      | _ => s
  | .search =>
      match a.outcome with
      | .searched outcome results => s.searchRecorded target outcome results
      | .raises => s.raised
      | _ => s
  | .reservePageSlots results =>
      match a.outcome with
      | .returns => s.reservePages task target results
      | .raises => s.raised
      | _ => s
  | .dispatch results =>
      match a.outcome with
      | .ordered urls => s.dispatched target (urls.filter (· ∈ results))
      | .raises => s.raised
      | _ => s
  | .prefetch =>
      match a.outcome with
      | .prefetched pages => s.nextPrefetched target s.batchUrls pages
      | .raises => s.raised
      | _ => s
  | .recordPrefetched urls pages =>
      match urls, a.outcome with
      | url :: rest, .returns =>
          s.prefetchRecorded task target url rest pages a.latencyMs
      | _, .raises => s.raised
      | _, _ => s
  | .candidate url =>
      match a.outcome with
      | .returns =>
          if url ∈ target.reusablePages then s.goto (.readArtifact url)
          else s.startRead target url
      | .deadline => (s.releaseUnused task).returned .deadlineExhausted
      | .raises => s.raised
      | _ => s
  | .readArtifact url =>
      match a.outcome with
      | .returns =>
          if url ∈ s.batchUrls then s.goto .selection
          else (s.recordFetch task true 0).goto .selection
      | .unreadable => s.startRead target url
      | .raises => s.raised
      | _ => s
  | .read _ => s.pageRead task target a.outcome a.latencyMs
  | .selection =>
      match a.outcome with
      | .processed already => s.selected target already
      | .raises => s.raised
      | _ => s
  | .triage =>
      match a.outcome with
      | .triaged accepted =>
          if accepted then s.goto .reserveExtractionSlot
          else s.nextCandidate target
      | .raises => s.raised
      | _ => s
  | .reserveExtractionSlot =>
      match a.outcome with
      | .slot deadlinePassed => s.reserveSlot task deadlinePassed a.now
      | .raises => s.raised
      | _ => s
  | .evidenceModelBudget =>
      match a.outcome with
      | .answered view => s.askBudget task target view a.now
      | .raises => s.raised
      | _ => s
  | .reserveModelTokens maxCallTokens =>
      match a.outcome with
      | .tokens attemptId borrow recovers =>
          s.reserveTokens task target maxCallTokens attemptId borrow recovers
            a.now
      | .raises => s.raised
      | _ => s
  | .recovery attemptId =>
      match a.outcome with
      | .returns => s.goto (.extractionSetup attemptId)
      | .raises => s.raised
      | _ => s
  | .extractionSetup attemptId =>
      match a.outcome with
      | .returns => s.goto (.extract attemptId)
      | .raises => (s.cleanupAttempt task attemptId false a.now).raised
      | _ => s
  | .extract attemptId => s.extractionEnded task target attemptId a.outcome a.now
  | .recordPage attemptId usage cacheHit usageEstimated =>
      match a.outcome with
      | .recorded candidates accepted =>
          s.pageRecorded target usage cacheHit usageEstimated attemptId
            candidates accepted a.now
      | .raises => (s.cleanupAttempt task attemptId true a.now).raised
      | _ => s
  | .finish =>
      match a.outcome with
      | .returns => (s.releaseUnused task).returned s.attemptOutcome
      | .raises => s.raised
      | _ => s

/-- One call of the method. -/
def step (s : AttemptState) (a : AttemptAction) : AttemptState :=
  match s.call, a.outcome with
  | .exited _, _ => s
  | _, .cancelled => s.raised
  | _, _ => s.called task target a

end AttemptState

/-- The attempt of one worker on one target, from any state of the
ledgers. -/
def attemptSystem (task : TaskId) (target : AttemptTarget) :
    Transition.System AttemptState AttemptAction where
  init s := ∃ ledger, s = { ledger }
  step := AttemptState.step task target

end DeepResearch.Run
