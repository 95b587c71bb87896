/-
The handoff of closure feedback to the research loop (`research_tools.py`:
`normalize_search_query`, `search_query_duplicate_key`,
`_prepare_feedback_target`, the tool call of `prepare_target` and the
started events of `_dispatch_closure_feedback`; `research_models.py`: the
unique index of `research_tool_calls`).

# A queue in the event log

A feedback query waits as an event `feedback.query.execution.started`.
It has been handed over when an event `feedback.query.execution.consumed`
names its execution; nothing else takes it out of the queue.

# One table of tool calls

The scheduler, the feedback and the two other tools of a run insert into
one table, which has at most one row for a tool and a duplicate key.
All but the feedback look for the row first.
-/
import DeepResearch.Run.ResearchLoop
import DeepResearch.Run.TokenLedger

namespace DeepResearch.Run

-- ============================================================ query texts

/-- What `unicodedata`, `re` and `hashlib` provide: NFKC, `casefold`, the
characters of `[\w\u3400-\u9fff]` and the hex digest of a text's SHA-256. -/
structure TextFunctions where
  nfkc : List Char → List Char
  casefold : List Char → List Char
  isWord : Char → Bool
  sha256 : String → String

section

variable (text : TextFunctions)

/-- `normalize_search_query`. Every separator becomes a space; `split`
drops the empty words, so a run of separators counts as one. -/
def normalizeSearchQuery (value : String) : String :=
  let normalized := text.casefold (text.nfkc value.toList)
  let spaced := normalized.map fun c => if text.isWord c then c else ' '
  let words := (spaced.splitOnP isSpace).filter (!·.isEmpty)
  String.ofList ([' '].intercalate words)

/-- `search_query_duplicate_key`. -/
def searchQueryDuplicateKey (questionId query : String) : String :=
  text.sha256 (questionId ++ ":" ++ normalizeSearchQuery text query)

end

-- ============================================================= tool calls

/-- The tools that write to `research_tool_calls`. -/
inductive ToolName
  | webSearch
  | searchEvidence
  | analyzeData
  deriving DecidableEq, Repr

inductive ToolCallStatus
  | running
  | succeeded
  | failed
  deriving DecidableEq, Repr

/-- The arguments of a web search. -/
structure ToolCallArguments where
  query : String
  alternateQuery : Option String := none
  limit : Option Nat := none
  queryFamily : String
  feedbackId : Option String := none
  feedbackExecutionId : Option String := none
  deriving DecidableEq, Repr

/-- A row of `research_tool_calls`, less its timestamps. -/
structure ToolCallRow where
  id : String
  questionId : String
  gapId : String
  actionId : String
  toolName : ToolName
  duplicateKey : String
  status : ToolCallStatus := .running
  arguments : Option ToolCallArguments := none
  errorCode : Option String := none
  retryable : Option Bool := none
  deriving DecidableEq, Repr

/-- The columns of `uq_research_tool_call_dedupe`, for one run. -/
def ToolCallRow.dedupeKey (row : ToolCallRow) : ToolName × String :=
  (row.toolName, row.duplicateKey)

/-- The violation of `uq_research_tool_call_dedupe`. -/
inductive IntegrityError
  | researchToolCallDedupe
  deriving DecidableEq, Repr

/-- `session.add` and `session.flush`. -/
def insertToolCall (new : ToolCallRow) (rows : List ToolCallRow) :
    Except IntegrityError (List ToolCallRow) :=
  if rows.any (·.dedupeKey = new.dedupeKey) then
    .error .researchToolCallDedupe
  else .ok (rows ++ [new])

/-- The lookup the callers of the table begin with: a row that is there
is used again. -/
def upsertToolCall (reuse : ToolCallRow → ToolCallRow) (new : ToolCallRow)
    (rows : List ToolCallRow) : Except IntegrityError (List ToolCallRow) :=
  if rows.any (·.dedupeKey = new.dedupeKey) then
    .ok (rows.map fun row =>
      if row.dedupeKey = new.dedupeKey then reuse row else row)
  else insertToolCall new rows

-- ================================================================= events

/-- The refs of a started event: those of the feedback context and of the
request. The ids are texts of UUIDs. -/
structure FeedbackExecutionRefs where
  feedbackId : String
  feedbackExecutionId : String
  executionId : String
  queryCandidateId : String
  gapId : String
  questionId : String := ""
  queryText : String := ""
  triggerReason : Option String := none
  deriving DecidableEq, Repr

/-- The refs of a consumed event. -/
structure ConsumedRefs where
  feedbackId : String
  feedbackExecutionId : String
  queryExecutionId : String
  queryCandidateId : String
  questionId : String
  gapId : String
  deriving DecidableEq, Repr

/-- The events of a run, in the order of `run_seq`. Refs that are no
dictionary are `none`. -/
inductive FeedbackEvent
  | executionStarted (refs : Option FeedbackExecutionRefs)
  | executionConsumed (refs : Option ConsumedRefs)
  | other (eventType : String)
  deriving DecidableEq, Repr

def FeedbackEvent.startedRefs : FeedbackEvent → Option FeedbackExecutionRefs
  | .executionStarted refs => refs
  | _ => none

def FeedbackEvent.consumedId : FeedbackEvent → Option String
  | .executionConsumed refs => refs.map (·.feedbackExecutionId)
  | _ => none

-- ================================================================== state

/-- A row of `research_plan_items`. -/
structure FeedbackPlanItem where
  planVersion : Nat
  questionId : String
  question : String := ""
  priority : Nat := 2
  evidenceRequirements : List String := []
  deriving DecidableEq, Repr

/-- A row of `research_gaps`. -/
structure LegacyGapRow where
  id : String
  planVersion : Nat
  questionId : String
  gapType : String := "missing"
  description : String := ""
  acceptanceCriteria : String := ""
  status : String := "open"
  resolutionAttempts : Nat := 0
  deriving DecidableEq, Repr

/-- `feedback_query_context` of the usage snapshot. -/
structure FeedbackQueryContext where
  feedbackId : String
  feedbackExecutionId : String
  queryExecutionId : String
  feedbackQuestionId : String
  deriving DecidableEq, Repr

/-- What the handoff reads and writes. `searchedQuestions` has the
question of every row of `research_search_queries`. -/
structure FeedbackState where
  runId : RunId
  run : ResearchRunRow
  planItems : List FeedbackPlanItem := []
  gaps : List LegacyGapRow := []
  searchedQuestions : List String := []
  toolCalls : List ToolCallRow := []
  events : List FeedbackEvent := []
  feedbackQueryContext : Option FeedbackQueryContext := none
  feedbackExecutionCount : Nat := 0
  deriving DecidableEq

/-- The fields `_prepare_feedback_target` gives a `ResearchTarget`. -/
structure FeedbackTarget where
  planVersion : Nat
  questionId : String
  question : String
  query : String
  gapId : String
  toolCallId : String
  sourceIdSeed : String
  acceptanceDimensions : List (String × String)
  priority : Nat
  queryFamily : String := "scope"
  providerRequestAllowance : Nat := 1
  baselineModelTokens : Nat
  baselinePagesFetched : Nat
  baselinePagesExtracted : Nat
  baselineProviderRequests : Nat
  deadlineAt : Option Nat
  feedbackId : String
  feedbackExecutionId : String
  queryExecutionId : String
  feedbackTriggerReason : String
  deriving DecidableEq, Repr

/-- The ids a handoff draws. -/
structure HandoffIds where
  toolCallId : String
  actionId : String
  sourceIdSeed : String
  deriving DecidableEq, Repr

namespace FeedbackState

-- =============================================== _prepare_feedback_target

/-- `consumed`. -/
def consumed (s : FeedbackState) : List String :=
  s.events.filterMap (·.consumedId)

/-- The started events that have not been consumed. -/
def unconsumed (s : FeedbackState) : List FeedbackExecutionRefs :=
  (s.events.filterMap (·.startedRefs)).filter
    (·.feedbackExecutionId ∉ s.consumed)

/-- `pending`: the first of them. -/
def pending (s : FeedbackState) : Option FeedbackExecutionRefs :=
  s.unconsumed.head?

/-- `question`: the plan item of the current version. -/
def planItem (questionId : String) (s : FeedbackState) :
    Option FeedbackPlanItem :=
  s.planItems.find? fun item =>
    item.planVersion = s.run.planVersion ∧ item.questionId = questionId

/-- `legacy_gap`, where it is missing. Its id is the `uuid5` of this
text. -/
def newLegacyGap (questionId : String) (s : FeedbackState) :
    LegacyGapRow where
  id := "legacy-research-gap:" ++ s.runId.text ++ ":"
    ++ s.run.planVersion.repr ++ ":" ++ questionId
  planVersion := s.run.planVersion
  questionId
  description := "当前缺少对研究问题 " ++ questionId ++ " 的可验证证据。"
  acceptanceCriteria := "至少获得一条可定位到原网页逐字引文的有效证据。"
  resolutionAttempts := s.searchedQuestions.count questionId

/-- `legacy_gap`, and the gaps with it. -/
def openLegacyGap (questionId : String) (s : FeedbackState) :
    LegacyGapRow × List LegacyGapRow :=
  match s.gaps.find? fun gap =>
      gap.planVersion = s.run.planVersion ∧ gap.questionId = questionId with
  | some gap => (gap, s.gaps)
  | none =>
      (s.newLegacyGap questionId, s.gaps ++ [s.newLegacyGap questionId])

/-- `dimensions`. -/
def acceptanceDimensions (question : FeedbackPlanItem) :
    List (String × String) :=
  question.evidenceRequirements.mapIdx fun index criterion =>
    (question.questionId ++ ":d" ++ (index + 1).repr, criterion)

variable (text : TextFunctions)

/-- The tool call of a feedback query. -/
def feedbackToolCall (ids : HandoffIds) (gap : LegacyGapRow)
    (refs : FeedbackExecutionRefs) (query : String) : ToolCallRow where
  id := ids.toolCallId
  questionId := refs.questionId
  gapId := gap.id
  actionId := ids.actionId
  toolName := .webSearch
  duplicateKey := searchQueryDuplicateKey text refs.questionId query
  arguments := some
    { query
      queryFamily := "feedback_recovery"
      feedbackId := some refs.feedbackId
      feedbackExecutionId := some refs.feedbackExecutionId }

/-- The target of a feedback query. -/
def feedbackTarget (ids : HandoffIds) (gap : LegacyGapRow)
    (question : FeedbackPlanItem) (refs : FeedbackExecutionRefs)
    (query : String) (s : FeedbackState) : FeedbackTarget where
  planVersion := s.run.planVersion
  questionId := refs.questionId
  question := question.question
  query
  gapId := gap.id
  toolCallId := ids.toolCallId
  sourceIdSeed := ids.sourceIdSeed
  acceptanceDimensions := acceptanceDimensions question
  priority := question.priority
  baselineModelTokens := modelTokens s.run.usageSnapshot
  baselinePagesFetched := s.run.usageSnapshot.pagesFetched.getD 0
  baselinePagesExtracted := s.run.usageSnapshot.pagesExtracted.getD 0
  baselineProviderRequests := s.run.usageSnapshot.searchProviderRequests
  deadlineAt := Run.deadlineAt s.run
  feedbackId := refs.feedbackId
  feedbackExecutionId := refs.feedbackExecutionId
  queryExecutionId := refs.executionId
  feedbackTriggerReason := refs.triggerReason.getD "feedback_recovery"

/-- The state the handoff leaves. -/
def handedOver (gaps : List LegacyGapRow) (toolCalls : List ToolCallRow)
    (refs : FeedbackExecutionRefs) (s : FeedbackState) : FeedbackState :=
  { s with
    gaps
    toolCalls
    feedbackQueryContext := some
      { feedbackId := refs.feedbackId
        feedbackExecutionId := refs.feedbackExecutionId
        queryExecutionId := refs.executionId
        feedbackQuestionId := refs.questionId }
    events := s.events ++
      [.executionConsumed (some
        { feedbackId := refs.feedbackId
          feedbackExecutionId := refs.feedbackExecutionId
          queryExecutionId := refs.executionId
          queryCandidateId := refs.queryCandidateId
          questionId := refs.questionId
          gapId := refs.gapId })] }

/-- `query`: the text of the request, stripped. -/
def queryOf (refs : FeedbackExecutionRefs) : String :=
  String.ofList (strip refs.queryText.toList)

/-- `_prepare_feedback_target`. -/
def prepareFeedbackTarget (ids : HandoffIds) (s : FeedbackState) :
    Except IntegrityError (FeedbackState × Option FeedbackTarget) :=
  match s.pending with
  | none => .ok (s, none)
  | some refs =>
      let query := queryOf refs
      if refs.questionId = "" ∨ query = "" then .ok (s, none)
      else
        match s.planItem refs.questionId with
        | none => .ok (s, none)
        | some question => do
            let (gap, gaps) := s.openLegacyGap refs.questionId
            let toolCalls ← insertToolCall
              (feedbackToolCall text ids gap refs query) s.toolCalls
            .ok (s.handedOver gaps toolCalls refs,
              some (s.feedbackTarget ids gap question refs query))

-- ========================================================= prepare_target

/-- The query `prepare_target` selected, with the gap of its question. -/
structure ScheduledSearch where
  questionId : String
  gapId : String
  query : String
  alternateQuery : String := ""
  queryFamily : String
  deriving DecidableEq, Repr

/-- `duplicate_key` in `prepare_target`: the key of the normalized
query, which is normalized once more. -/
def scheduledKey (search : ScheduledSearch) : String :=
  searchQueryDuplicateKey text search.questionId
    (normalizeSearchQuery text search.query)

/-- The tool call of the selected query. -/
def scheduledToolCall (ids : HandoffIds) (search : ScheduledSearch) :
    ToolCallRow where
  id := ids.toolCallId
  questionId := search.questionId
  gapId := search.gapId
  actionId := ids.actionId
  toolName := .webSearch
  duplicateKey := scheduledKey text search
  arguments := some
    { query := search.query
      alternateQuery := some search.alternateQuery
      limit := some 10
      queryFamily := search.queryFamily }

/-- The row of an earlier attempt runs again. -/
def ScheduledSearch.runAgain (search : ScheduledSearch) (row : ToolCallRow) :
    ToolCallRow :=
  { row with
    status := .running
    errorCode := none
    retryable := some false
    arguments := some
      { row.arguments.getD { query := "", queryFamily := "" } with
        query := search.query
        alternateQuery := some search.alternateQuery
        queryFamily := search.queryFamily } }

/-- `tool_call`, of the selected query. -/
def callScheduled (ids : HandoffIds) (search : ScheduledSearch)
    (s : FeedbackState) : Except IntegrityError FeedbackState := do
  let toolCalls ← upsertToolCall search.runAgain
    (scheduledToolCall text ids search) s.toolCalls
  .ok { s with toolCalls }

/-- The part of `prepare_target` that makes tool calls: the feedback goes
first, and the selected query is called where there is none. -/
def prepareTarget (ids : HandoffIds) (selected : Option ScheduledSearch)
    (s : FeedbackState) :
    Except IntegrityError (FeedbackState × Option FeedbackTarget) := do
  let (s, target) ← s.prepareFeedbackTarget text ids
  match target, selected with
  | none, some search =>
      let s ← s.callScheduled text ids search
      .ok (s, none)
  | target, _ => .ok (s, target)

end FeedbackState

-- =================================================================== runs

/-- The steps of a run that concern the handoff. -/
inductive FeedbackAction
  | prepareTarget (ids : HandoffIds)
      (selected : Option FeedbackState.ScheduledSearch)
  | dispatch (refs : FeedbackExecutionRefs)
  | callTool (row : ToolCallRow) (h : row.toolName ≠ .webSearch)
  | endToolCall (id : String) (status : ToolCallStatus)
      (errorCode : Option String) (retryable : Option Bool)
  | recordSearch (questionId : String)
  | replan (items : List FeedbackPlanItem)
  | openGap (gap : LegacyGapRow)
  | writeRun (run : ResearchRunRow)
  | appendEvent (eventType : String)

namespace FeedbackState

variable (text : TextFunctions)

/-- The limit of `feedback_execution_allowed`. -/
def feedbackExecutionLimit : Nat := 2

/-- The started event of a request. Requests have a query
(`QueryExecutionRequest`), and a run has two at most. -/
def dispatch (refs : FeedbackExecutionRefs) (s : FeedbackState) :
    FeedbackState :=
  if queryOf refs = "" then s
  else if s.feedbackExecutionCount < feedbackExecutionLimit then
    { s with
      feedbackExecutionCount := s.feedbackExecutionCount + 1
      events := s.events ++ [.executionStarted (some refs)] }
  else s

/-- One step; a transaction that is refused leaves everything as it
was. -/
def step (s : FeedbackState) : FeedbackAction → FeedbackState
  | .prepareTarget ids selected =>
      match s.prepareTarget text ids selected with
      | .ok (s', _) => s'
      | .error _ => s
  | .dispatch refs => s.dispatch refs
  | .callTool row _ =>
      match upsertToolCall id row s.toolCalls with
      | .ok toolCalls => { s with toolCalls }
      | .error _ => s
  | .endToolCall id status errorCode retryable =>
      { s with
        toolCalls := s.toolCalls.map fun row =>
          if row.id = id then { row with status, errorCode, retryable }
          else row }
  | .recordSearch questionId =>
      { s with searchedQuestions := questionId :: s.searchedQuestions }
  | .replan items =>
      { s with
        planItems := s.planItems ++ items
        run := { s.run with planVersion := s.run.planVersion + 1 } }
  | .openGap gap => { s with gaps := s.gaps ++ [gap] }
  | .writeRun run => { s with run }
  | .appendEvent eventType =>
      { s with events := s.events ++ [.other eventType] }

end FeedbackState

/-- A run starts without tool calls and without feedback. -/
def FeedbackState.created (runId : RunId) (run : ResearchRunRow)
    (planItems : List FeedbackPlanItem) : FeedbackState :=
  { runId, run, planItems }

def feedbackSystem (text : TextFunctions) :
    Transition.System FeedbackState FeedbackAction where
  init s := ∃ runId run planItems, s = .created runId run planItems
  step := FeedbackState.step text

end DeepResearch.Run
