/-
The measurement of a recovery attempt (`research_tools.py`: the recovery
branch of `reserve_model_tokens`, `record_recovery_event`,
`_evaluate_recovery_outcome`, `attach_recovery_context`, the refs of
`_append_event`; `recovery_execution.py`: `RecoveryOutcome.evaluate`,
`RecoveryContext.as_refs`, `clear_recovery_context`).

# One slot

The figures before an attempt are taken when its tokens are reserved.
Two of them, the evidence candidates and the independent sources, travel
to the evaluation in `recovery_context` of the usage snapshot, of which a
run has one, whatever attempts are under way; whoever writes it replaces
what is there.

# Numbers

Coverages are the rational numbers doubles stand for, and every float
operation rounds (`Binary64`). Events and evidence rows have the columns
the measurement reads.
-/
import DeepResearch.Lib.Binary64
import DeepResearch.Lib.Transition
import DeepResearch.Lib.UuidText
import DeepResearch.Run.TokenLedger
import Mathlib.Data.List.Sort

namespace DeepResearch.Run

open Binary64 (nearest pyRound)

-- ============================================================ the outcome

inductive RecoveryOutcomeType
  | successful
  | partly
  | lowGain
  | failed
  deriving DecidableEq, Repr

def RecoveryOutcomeType.text : RecoveryOutcomeType → String
  | .successful => "successful"
  | .partly => "partial"
  | .lowGain => "low_gain"
  | .failed => "failed"

/-- What `RecoveryOutcome.evaluate` is given. -/
structure RecoveryFigures where
  questionId : String
  planVersion : Nat
  recoveryAttemptId : AttemptId
  coverageBefore : ℚ
  coverageAfter : ℚ
  gapCountBefore : Nat
  gapCountAfter : Nat
  acceptedEvidenceBefore : Nat
  acceptedEvidenceAfter : Nat
  candidateEvidenceBefore : Nat
  candidateEvidenceAfter : Nat
  independentSourcesBefore : Nat
  independentSourcesAfter : Nat
  tokensReserved : Nat
  tokensUsed : Nat
  newSourcesCount : Nat
  newIndependentSourcesCount : Nat
  executionFailed : Bool := false
  closureEvaluationIds : List (BitVec 128) := []
  closedGapIds : List String := []
  partialGapIds : List String := []
  remainingGapIds : List String := []
  deriving DecidableEq, Repr

/-- `RecoveryOutcome`. -/
structure RecoveryOutcome where
  figures : RecoveryFigures
  outcomeType : RecoveryOutcomeType
  utilityGain : ℚ
  deriving DecidableEq, Repr

namespace RecoveryFigures

def coverageDelta (figures : RecoveryFigures) : ℚ :=
  max 0 (nearest (figures.coverageAfter - figures.coverageBefore))

def gapReduction (figures : RecoveryFigures) : Nat :=
  figures.gapCountBefore - figures.gapCountAfter

def acceptedDelta (figures : RecoveryFigures) : Nat :=
  figures.acceptedEvidenceAfter - figures.acceptedEvidenceBefore

def candidateDelta (figures : RecoveryFigures) : Nat :=
  figures.candidateEvidenceAfter - figures.candidateEvidenceBefore

def independentDelta (figures : RecoveryFigures) : Nat :=
  figures.independentSourcesAfter - figures.independentSourcesBefore

/-- `useful_result`. -/
def usefulResult (figures : RecoveryFigures) : Bool :=
  0 < figures.coverageDelta || 0 < figures.gapReduction
    || 0 < figures.acceptedDelta || 0 < figures.candidateDelta
    || 0 < figures.independentDelta || 0 < figures.newSourcesCount

/-- `outcome_type`. -/
def outcomeType (figures : RecoveryFigures) : RecoveryOutcomeType :=
  if figures.executionFailed then .failed
  else if !figures.usefulResult then
    if 0 < figures.tokensUsed || 0 < figures.tokensReserved then .lowGain
    else .failed
  else if nearest (2 / 10) ≤ figures.coverageDelta
      || 0 < figures.gapReduction || 5 ≤ figures.acceptedDelta
      || 0 < figures.independentDelta then .successful
  else .partly

/-- `utility_gain`, the sum taken from the left. -/
def utilityGain (figures : RecoveryFigures) : ℚ :=
  let weighted := fun (gain : ℚ) (count : Nat) (weight : ℚ) =>
    nearest (gain + nearest (count * nearest weight))
  pyRound 6
    (weighted
      (weighted
        (weighted
          (weighted figures.coverageDelta figures.gapReduction (1 / 10))
          figures.acceptedDelta (2 / 100))
        figures.independentDelta (5 / 100))
      figures.newSourcesCount (1 / 100))

/-- `RecoveryOutcome.evaluate`. -/
def evaluate (figures : RecoveryFigures) : RecoveryOutcome where
  figures
  outcomeType := figures.outcomeType
  utilityGain := figures.utilityGain

end RecoveryFigures

-- ============================================================== the tables

/-- A row of `research_evidence` with the owner of its source. -/
structure MeasuredEvidenceRow where
  questionId : String
  accepted : Bool
  sourceOwnerKey : Option String
  deriving DecidableEq, Repr

/-- A row of the model reservations. -/
structure AttemptReservation where
  attemptId : AttemptId
  reservedTotal : Nat
  actualTotal : Option Nat := none
  deriving DecidableEq, Repr

/-- An event, with the refs the measurement reads. -/
structure RecoveryLogEvent where
  eventType : String
  questionId : Option String := none
  recoveryAttemptId : Option AttemptId := none
  sourceId : Option String := none
  candidateId : Option String := none
  evaluationId : Option String := none
  gapId : Option String := none
  afterStatus : Option String := none
  deriving DecidableEq, Repr

/-- `evaluation_id`, as a UUID. A text that is none counts as missing. -/
def RecoveryLogEvent.evaluationUuid (event : RecoveryLogEvent) :
    Option (BitVec 128) :=
  event.evaluationId.bind fun text => UuidText.ofText? isSpace text.toList

/-- `RecoveryContext.as_refs`, with the two counts that
`reserve_model_tokens` adds. -/
structure RecoveryContextRefs where
  recoveryAttemptId : AttemptId
  recoveryQuestionId : String
  recoveryPlanVersion : Nat
  recoveryTriggerReason : String
  recoveryCoverageBefore : ℚ
  recoveryGapBefore : List String
  recoveryCandidateEvidenceBefore : Option Nat := none
  recoveryIndependentSourcesBefore : Option Nat := none
  deriving DecidableEq, Repr

/-- The entries of the usage snapshot. -/
structure RecoveryUsage where
  recoveryAttemptId : Option AttemptId := none
  recoveryQuestionId : Option String := none
  recoveryContext : Option RecoveryContextRefs := none
  deriving DecidableEq, Repr

structure RecoveryState where
  planVersion : Nat := 1
  usage : RecoveryUsage := {}
  evidence : List MeasuredEvidenceRow := []
  reservations : List AttemptReservation := []
  events : List RecoveryLogEvent := []
  deriving DecidableEq, Repr

-- =========================================================== the operations

/-- A request of `reserve_model_tokens` that the borrow gate lets
through, with what the gate looked at. -/
structure RecoveryRequest where
  attemptId : AttemptId
  questionId : String
  requested : Nat
  reason : String
  coverage : ℚ
  openDimensionKeys : List String
  deriving DecidableEq, Repr

/-- The arguments of `record_recovery_event` for `recovery.started`. -/
structure RecoveryStarted where
  attemptId : AttemptId
  questionId : String
  planVersion : Nat
  coverageBefore : ℚ
  gapBefore : List String := []
  reason : Option String := none
  deriving DecidableEq, Repr

inductive RecoveryEnd
  | completed
  | failed
  | cancelled
  deriving DecidableEq, Repr

def RecoveryEnd.eventType : RecoveryEnd → String
  | .completed => "recovery.completed"
  | .failed => "recovery.failed"
  | .cancelled => "recovery.cancelled"

/-- The arguments of `record_recovery_event` for a terminal event. -/
structure RecoveryTerminal where
  kind : RecoveryEnd := .completed
  attemptId : AttemptId
  questionId : String
  coverageBefore : ℚ
  coverageAfter : Option ℚ := none
  gapBefore : List String := []
  gapAfter : List String := []
  acceptedEvidenceBefore : Nat := 0
  acceptedEvidenceAfter : Nat := 0
  tokensReserved : Nat := 0
  deriving DecidableEq, Repr

namespace RecoveryState

/-- The count of a question's evidence rows. -/
def candidateEvidence (s : RecoveryState) (questionId : String) : Nat :=
  s.evidence.countP (·.questionId = questionId)

def acceptedEvidence (s : RecoveryState) (questionId : String) : Nat :=
  s.evidence.countP fun row => row.questionId = questionId && row.accepted

/-- `count(distinct(source_owner_key))`, which passes over NULLs. -/
def independentSources (s : RecoveryState) (questionId : String) : Nat :=
  ((s.evidence.filter fun row =>
    row.questionId = questionId && row.accepted).filterMap
      (·.sourceOwnerKey)).dedup.length

/-- `_append_event`: the refs of the active context go under those of the
event. -/
def appendEvent (event : RecoveryLogEvent) (s : RecoveryState) :
    RecoveryState :=
  { s with
    events := s.events ++
      [{ event with
          recoveryAttemptId := event.recoveryAttemptId.or
            (s.usage.recoveryContext.map (·.recoveryAttemptId)) }] }

/-- `_append_recovery_event`. -/
def appendRecoveryEvent (eventType questionId : String)
    (attemptId : AttemptId) (s : RecoveryState) : RecoveryState :=
  s.appendEvent
    { eventType
      questionId := some questionId
      recoveryAttemptId := some attemptId }

/-- `recovery_context`, as `reserve_model_tokens` writes it. -/
def reservedUsage (request : RecoveryRequest) (s : RecoveryState) :
    RecoveryUsage where
  recoveryAttemptId := some request.attemptId
  recoveryQuestionId := some request.questionId
  recoveryContext := some
    { recoveryAttemptId := request.attemptId
      recoveryQuestionId := request.questionId
      recoveryPlanVersion := s.planVersion
      recoveryTriggerReason := request.reason
      recoveryCoverageBefore := request.coverage
      recoveryGapBefore := request.openDimensionKeys
      recoveryCandidateEvidenceBefore :=
        some (s.candidateEvidence request.questionId)
      recoveryIndependentSourcesBefore :=
        some (s.independentSources request.questionId) }

/-- `existing`: the attempt has a reservation already. -/
def isReserved (attemptId : AttemptId) (s : RecoveryState) : Bool :=
  s.reservations.any (·.attemptId = attemptId)

/-- The recovery branch of `reserve_model_tokens`. An attempt that has a
reservation is answered before. -/
def reserveModelTokens (request : RecoveryRequest) (s : RecoveryState) :
    RecoveryState :=
  if s.isReserved request.attemptId then s
  else
    let reserved : RecoveryState :=
      { s with
        usage := s.reservedUsage request
        reservations := s.reservations ++
          [{ attemptId := request.attemptId
             reservedTotal := request.requested }] }
    (reserved.appendRecoveryEvent "recovery.borrow.allowed"
      request.questionId request.attemptId).appendRecoveryEvent
      "recovery.token_reserved" request.questionId request.attemptId

/-- `record_recovery_event`, for `recovery.started`. -/
def recordStarted (started : RecoveryStarted) (s : RecoveryState) :
    RecoveryState :=
  let usage : RecoveryUsage :=
    { recoveryAttemptId := some started.attemptId
      recoveryQuestionId := some started.questionId
      recoveryContext := some
        { recoveryAttemptId := started.attemptId
          recoveryQuestionId := started.questionId
          recoveryPlanVersion := started.planVersion
          recoveryTriggerReason := started.reason.getD "borrow_allowed"
          recoveryCoverageBefore := started.coverageBefore
          recoveryGapBefore := started.gapBefore } }
  let announced : RecoveryState := { s with usage }
  announced.appendRecoveryEvent "recovery.started" started.questionId
    started.attemptId

/-- `clear_recovery_context`. -/
def clearRecoveryContext (usage : RecoveryUsage) (attemptId : AttemptId) :
    RecoveryUsage :=
  if usage.recoveryAttemptId ≠ some attemptId then usage else {}

-- ============================================= _evaluate_recovery_outcome

/-- `candidate_before`. -/
def candidateBefore (s : RecoveryState) : Nat :=
  (s.usage.recoveryContext.bind (·.recoveryCandidateEvidenceBefore)).getD 0

/-- `independent_before`. -/
def independentBefore (s : RecoveryState) : Nat :=
  (s.usage.recoveryContext.bind (·.recoveryIndependentSourcesBefore)).getD 0

/-- `tokens_used`. -/
def tokensUsed (s : RecoveryState) (attemptId : AttemptId) : Nat :=
  ((s.reservations.filter (·.attemptId = attemptId)).map fun row =>
    row.actualTotal.getD row.reservedTotal).sum

/-- The events of some types that carry the attempt. -/
def eventsOf (s : RecoveryState) (eventTypes : List String)
    (attemptId : AttemptId) : List RecoveryLogEvent :=
  s.events.filter fun event =>
    event.eventType ∈ eventTypes && event.recoveryAttemptId = some attemptId

/-- `new_sources`. An empty id counts as missing. -/
def newSources (s : RecoveryState) (attemptId : AttemptId) : List String :=
  ((s.eventsOf ["source.readable", "candidate.readable", "source.read"]
    attemptId).filterMap fun event =>
      (event.sourceId.filter (· ≠ "")).or event.candidateId).dedup

/-- `closure_rows`, those of the attempt. -/
def closureRows (s : RecoveryState) (attemptId : AttemptId) :
    List RecoveryLogEvent :=
  s.eventsOf ["gap.closure.completed", "gap.closure.transition"] attemptId

/-- The gaps whose status after the closure meets a condition. -/
def gapIds (rows : List RecoveryLogEvent) (p : String → Bool) :
    List String :=
  (rows.filter fun row => p (row.afterStatus.getD "open")).filterMap (·.gapId)

/-- `closure_evaluation_ids`, in the order of their first appearance. -/
def closureEvaluationIds (s : RecoveryState) (attemptId : AttemptId) :
    List (BitVec 128) :=
  ((s.closureRows attemptId).filterMap (·.evaluationUuid)).reverse.dedup.reverse

/-- `tuple(sorted(gap_ids))`, of a set. -/
def sortedSet (ids : List String) : List String :=
  ids.dedup.insertionSort (· ≤ ·)

/-- `_evaluate_recovery_outcome`, up to the evaluation of its figures. -/
def recoveryFigures (terminal : RecoveryTerminal) (s : RecoveryState) :
    RecoveryFigures :=
  let acceptedAfter :=
    let count := s.acceptedEvidence terminal.questionId
    if count = 0 then terminal.acceptedEvidenceAfter else count
  let independentAfter := s.independentSources terminal.questionId
  let rows := s.closureRows terminal.attemptId
  let closureEvaluationIds := s.closureEvaluationIds terminal.attemptId
  let remainingGapIds :=
    gapIds rows (· ≠ "closed")
      ++ if closureEvaluationIds.isEmpty then terminal.gapAfter else []
  { questionId := terminal.questionId
    planVersion := s.planVersion
    recoveryAttemptId := terminal.attemptId
    coverageBefore := terminal.coverageBefore
    coverageAfter := terminal.coverageAfter.getD terminal.coverageBefore
    gapCountBefore := terminal.gapBefore.length
    gapCountAfter := (sortedSet remainingGapIds).length
    acceptedEvidenceBefore := terminal.acceptedEvidenceBefore
    acceptedEvidenceAfter := max terminal.acceptedEvidenceAfter acceptedAfter
    candidateEvidenceBefore := s.candidateBefore
    candidateEvidenceAfter := s.candidateEvidence terminal.questionId
    independentSourcesBefore := s.independentBefore
    independentSourcesAfter := independentAfter
    tokensReserved := terminal.tokensReserved
    tokensUsed := s.tokensUsed terminal.attemptId
    newSourcesCount := (s.newSources terminal.attemptId).length
    newIndependentSourcesCount := independentAfter - s.independentBefore
    executionFailed := terminal.kind = .failed
    closureEvaluationIds
    closedGapIds := sortedSet (gapIds rows (· = "closed"))
    partialGapIds := sortedSet (gapIds rows (· = "partial"))
    remainingGapIds := sortedSet remainingGapIds }

/-- `_evaluate_recovery_outcome`. -/
def evaluateRecoveryOutcome (terminal : RecoveryTerminal)
    (s : RecoveryState) : RecoveryOutcome :=
  (s.recoveryFigures terminal).evaluate

/-- `record_recovery_event`, for a terminal event: what it records and
the state it leaves. A cancelled attempt is not evaluated. -/
def recordTerminal (terminal : RecoveryTerminal) (s : RecoveryState) :
    Option RecoveryOutcome × RecoveryState :=
  let outcome :=
    if terminal.kind = .cancelled then none
    else some (s.evaluateRecoveryOutcome terminal)
  let appended := s.appendRecoveryEvent terminal.kind.eventType
    terminal.questionId terminal.attemptId
  (outcome,
    { appended with
      usage := clearRecoveryContext appended.usage terminal.attemptId })

/-- `attach_recovery_context`: the events of the question from a position
on that carry no attempt get this one. `propagated` is
`_RECOVERY_PROPAGATED_EVENT_TYPES`. -/
def attachRecoveryContext (propagated : List String)
    (attemptId : AttemptId) (questionId : String) (fromRunSeq : Nat)
    (s : RecoveryState) : RecoveryState :=
  { s with
    events := s.events.mapIdx fun index event =>
      if fromRunSeq ≤ index + 1 ∧ event.eventType ∈ propagated
          ∧ event.questionId = some questionId
          ∧ event.recoveryAttemptId = none then
        { event with recoveryAttemptId := some attemptId }
      else event }

end RecoveryState

-- ==================================================================== runs

/-- The steps of a run that concern recovery. Evidence and reservations
change in many ways; none touches the usage entries. -/
inductive RecoveryAction
  | reserveModelTokens (request : RecoveryRequest)
  | recordStarted (started : RecoveryStarted)
  | recordTerminal (terminal : RecoveryTerminal)
  | attachRecoveryContext (propagated : List String)
      (attemptId : AttemptId) (questionId : String) (fromRunSeq : Nat)
  | appendEvent (event : RecoveryLogEvent)
  | writeEvidence (evidence : List MeasuredEvidenceRow)
  | settle (attemptId : AttemptId) (actualTotal : Nat)
  | replan

namespace RecoveryState

def step (s : RecoveryState) : RecoveryAction → RecoveryState
  | .reserveModelTokens request => s.reserveModelTokens request
  | .recordStarted started => s.recordStarted started
  | .recordTerminal terminal => (s.recordTerminal terminal).2
  | .attachRecoveryContext propagated attemptId questionId fromRunSeq =>
      s.attachRecoveryContext propagated attemptId questionId fromRunSeq
  | .appendEvent event => s.appendEvent event
  | .writeEvidence evidence => { s with evidence }
  | .settle attemptId actualTotal =>
      { s with
        reservations := s.reservations.map fun row =>
          if row.attemptId = attemptId then
            { row with actualTotal := some actualTotal }
          else row }
  | .replan => { s with planVersion := s.planVersion + 1 }

end RecoveryState

/-- A run starts without a recovery context. -/
def recoverySystem : Transition.System RecoveryState RecoveryAction where
  init s := s.usage = {} ∧ s.reservations = []
  step := RecoveryState.step

end DeepResearch.Run
