/-
The scheduler's choice of a question (`research_tools.py`: the candidate
selection of `prepare_target`, `_protected_page_schedule_key`,
`_p1_variant_schedule_key`, `_zero_yield_retry_deprioritized`,
`_query_family_capacity_remaining`, `_executed_query_families`;
`adaptive_scheduler.py`: `QueryFamily`, `expected_utility`).

The snapshots are read into figures, which fails on a coverage that is no
number. Of the candidates the figures leave, a first loop finds those with
a variant lane of their own, a second one gives each that is still eligible
a schedule key, and the least key is selected.

The entries of the usage snapshot that name questions are JSON, read the
way the source reads them; its counters are those of `UsageSnapshot`. How
Python reads a number from a text, and prints a value that is no text, are
parameters. Doubles are the rational numbers they stand for.
-/
import Mathlib.Data.List.MinMax
import Mathlib.Data.Prod.Lex
import Mathlib.Data.String.Basic
import DeepResearch.Run.QualityGate
import DeepResearch.Run.Scheduling

namespace DeepResearch.Run

open Binary64 (nearest pyRound)

-- ========================================================= query families

inductive QueryFamily
  | scope
  | authoritative
  | alternate
  | contradiction
  deriving DecidableEq, Repr

def QueryFamily.text : QueryFamily → String
  | .scope => "scope"
  | .authoritative => "authoritative"
  | .alternate => "alternate"
  | .contradiction => "contradiction"

/-- `QUERY_FAMILIES`. -/
def queryFamilies : List QueryFamily :=
  [.scope, .authoritative, .alternate, .contradiction]

/-- `query_family_for_attempt`. -/
def queryFamilyForAttempt (attemptIndex : Nat) : Option QueryFamily :=
  queryFamilies[attemptIndex]?

/-- `_query_family_capacity_remaining`. -/
def queryFamilyCapacityRemaining (attemptedFamilies : Nat) : Bool :=
  attemptedFamilies < SchedulingState.queryStrategyLimit

-- ================================================================= utility

structure ActionCost where
  estimatedTokens : Int := 0
  latencyMs : Int := 0
  pages : Int := 0
  providerRequests : Int := 0

/-- `_unit`. -/
def unit (value : ℚ) : ℚ := min 1 (max 0 value)

def priorityWeight (priority : Int) : ℚ :=
  if priority = 1 then 3 / 2
  else if priority = 2 then 1
  else nearest (7 / 10)

/-- `expected_utility`. -/
def expectedUtility (priority : Int) (gapRisk
    probabilityOfAcceptedEvidence expectedCoverageDelta sourceNovelty : ℚ)
    (cost : ActionCost) : ℚ :=
  let tokens := max 1 (nearest (cost.estimatedTokens / 1000))
  let latency := max 0 (nearest (cost.latencyMs / 2000))
  let pages := nearest (nearest (max 0 cost.pages : Int) * (3 / 2))
  let requests := nearest (max 0 cost.providerRequests : Int)
  let denominator :=
    nearest (nearest (nearest (tokens + latency) + pages) + requests)
  let numerator :=
    [gapRisk, probabilityOfAcceptedEvidence, expectedCoverageDelta,
      sourceNovelty].foldl (fun product x => nearest (product * unit x))
      (priorityWeight priority)
  pyRound 6 (nearest (numerator / denominator))

/-- `int(x)`: the fraction is dropped. -/
def truncate (x : ℚ) : Int := if 0 ≤ x then ⌊x⌋ else ⌈x⌉

-- ============================================================ schedule keys

/-- The tuples the candidates are compared by. -/
def ScheduleKey := ℤ ×ₗ ℤ ×ₗ ℚ ×ₗ ℤ ×ₗ String

namespace ScheduleKey

instance linearOrder : LinearOrder ScheduleKey :=
  inferInstanceAs (LinearOrder (ℤ ×ₗ ℤ ×ₗ ℚ ×ₗ ℤ ×ₗ String))

def of (turn rank : ℤ) (coverage : ℚ) (priority : ℤ)
    (questionId : String) : ScheduleKey :=
  toLex (turn, toLex (rank, toLex (coverage, toLex (priority, questionId))))

/-- The first entry of the tuple. -/
def turn (key : ScheduleKey) : ℤ :=
  (ofLex (show ℤ ×ₗ ℤ ×ₗ ℚ ×ₗ ℤ ×ₗ String from key)).1

theorem turn_le_of_le {key key' : ScheduleKey} (h : key ≤ key') :
    key.turn ≤ key'.turn :=
  Prod.Lex.monotone_fst _ _ h

end ScheduleKey

/-- `_protected_page_schedule_key`. -/
def protectedPageScheduleKey (attempts : Nat) (coverage : ℚ)
    (priority : ℤ) (questionId : String) : ScheduleKey :=
  .of (if attempts = 0 then 0 else 1) 0 coverage priority questionId

/-- `_p1_variant_schedule_key`. -/
def p1VariantScheduleKey (attempts : Nat) (coverage : ℚ) (priority : ℤ)
    (questionId : String) : ScheduleKey :=
  .of 1 (truncate (nearest (max 0 (min 1 coverage) * 1000000)))
    (nearest attempts) priority questionId

/-- `_zero_yield_retry_deprioritized`. -/
def zeroYieldRetryDeprioritized (searchBudgetExhausted : Bool)
    (attempts : Nat) (coverage : ℚ) (acceptedEvidence : ℤ)
    (isCorroborationTarget : Bool) : Bool :=
  !searchBudgetExhausted && 2 ≤ attempts && coverage ≤ 0
    && acceptedEvidence ≤ 0 && !isCorroborationTarget

-- ============================================================= the figures

/-- What the snapshots and tables say of the questions. `candidates` are
the rows with a schedulable status, stale ones repaired; of two entries of
a question the first one counts. -/
structure CandidateFigures where
  searchBudgetExhausted : Bool := false
  coverageByQuestion : List (String × ℚ) := []
  acceptedByQuestion : List (String × ℤ) := []
  qualityRepairTargets : List String := []
  corroborationTargets : List String := []
  protectedPageMode : Bool := false
  exhaustedQuestions : List String := []
  strategyExhaustedQuestions : List String := []
  frozenQuestions : List String := []
  cachedQuestionIds : List String := []
  historicalAttempts : String → Nat := fun _ => 0
  executedQueryFamilies : String → List QueryFamily := fun _ => []
  logicalQueries : QueryFamily → ℤ := fun _ => 0
  acceptedEvidence : QueryFamily → ℤ := fun _ => 0
  candidates : List ScheduledItem := []

namespace CandidateFigures

variable (figures : CandidateFigures)

def coverage (questionId : String) : ℚ :=
  (figures.coverageByQuestion.lookup questionId).getD 0

/-- `executed_family_attempts`. -/
def executedFamilyAttempts : List (String × Nat) :=
  figures.candidates.map fun candidate =>
    (candidate.questionId,
      (figures.executedQueryFamilies candidate.questionId).length)

/-- `attempts`. -/
def attempts (questionId : String) : Nat :=
  (figures.executedFamilyAttempts.lookup questionId).getD
    (figures.historicalAttempts questionId)

/-- `zero_yield_deprioritized_questions`, as its members. -/
def zeroYieldDeprioritized (questionId : String) : Bool :=
  zeroYieldRetryDeprioritized figures.searchBudgetExhausted
    (figures.attempts questionId) (figures.coverage questionId)
    ((figures.acceptedByQuestion.lookup questionId).getD 0)
    (questionId ∈ figures.corroborationTargets)

/-- The question was given up, or is done. -/
def isClosedOff (candidate : ScheduledItem) : Bool :=
  candidate.questionId ∈ figures.exhaustedQuestions
    || candidate.questionId ∈ figures.strategyExhaustedQuestions
    || candidate.questionId ∈ figures.frozenQuestions
    || candidate.status = .researched

/-- No new search can be made for the question, and none is cached. -/
def isOutOfResults (candidate : ScheduledItem) : Bool :=
  figures.searchBudgetExhausted
    && candidate.questionId ∉ figures.cachedQuestionIds

def unattemptedQuestions : Nat :=
  figures.candidates.countP fun candidate =>
    !figures.isClosedOff candidate
      && (figures.executedFamilyAttempts.lookup
        candidate.questionId).getD 0 = 0

/-- What the first loop collects. -/
def isUnfinishedP1Variant (candidate : ScheduledItem) : Bool :=
  !(figures.isClosedOff candidate
      || (figures.zeroYieldDeprioritized candidate.questionId
        && candidate.priority ≠ 1
        && candidate.questionId ∉ figures.corroborationTargets)
      || figures.isOutOfResults candidate)
    && (candidate.priority = 1
      || candidate.questionId ∈ figures.corroborationTargets)
    && figures.coverage candidate.questionId < 1
    && queryFamilyCapacityRemaining (figures.attempts candidate.questionId)

def unfinishedP1Variants : List String :=
  (figures.candidates.filter figures.isUnfinishedP1Variant).map
    (·.questionId)

/-- `p1_variant_mode`: not before every open question had its first
attempt. -/
def p1VariantMode : Bool :=
  !figures.unfinishedP1Variants.isEmpty
    && !(0 < figures.unattemptedQuestions : Bool)

/-- `protected_candidate`. -/
def isProtected (candidate : ScheduledItem) : Bool :=
  candidate.priority = 1
    || figures.coverage candidate.questionId < 1
    || candidate.questionId ∈ figures.qualityRepairTargets
    || candidate.status ∈ [.answeredInPart, .blocked, .technicalRetry]

def effectivePriority (candidate : ScheduledItem) : ℤ :=
  candidate.priority
    + if figures.protectedPageMode ∧ 1 < candidate.priority
        ∧ 1 ≤ figures.coverage candidate.questionId then 10
      else 0

/-- `acceptance_probability`. -/
def acceptanceProbability (attempts : Nat) : ℚ :=
  let nextFamily := (queryFamilyForAttempt attempts).getD .contradiction
  let familyQueries := figures.logicalQueries nextFamily
  let familyAccepted := figures.acceptedEvidence nextFamily
  if familyQueries = 0 then nearest (55 / 100)
  else
    min (nearest (9 / 10))
      (max (nearest (15 / 100)) (nearest (familyAccepted / familyQueries)))

def utility (candidate : ScheduledItem) : ℚ :=
  let attempts := figures.attempts candidate.questionId
  let gap := max (nearest (1 / 10))
    (nearest (1 - figures.coverage candidate.questionId))
  expectedUtility (figures.effectivePriority candidate) gap
    (figures.acceptanceProbability attempts) gap
    (if attempts = 0 then nearest (9 / 10) else nearest (65 / 100))
    { estimatedTokens := 6000
      latencyMs := 2000
      pages := 1
      providerRequests := 1 }

def utilityRank (candidate : ScheduledItem) : ℤ :=
  let questionId := candidate.questionId
  let attempts := figures.attempts questionId
  let utility := figures.utility candidate
  let rank := - truncate (nearest (utility * 1000000))
  if 0 < attempts ∧ questionId ∈ figures.corroborationTargets then
    -1000000000 + attempts * 1000000 - truncate (nearest (utility * 1000))
  else if 0 < attempts ∧ 0 < figures.coverage questionId then
    rank - 500000000
  else if figures.zeroYieldDeprioritized questionId then rank + 500000000
  else rank

/-- The last value of `schedule_key`. -/
def scheduleKey (candidate : ScheduledItem) : ScheduleKey :=
  let questionId := candidate.questionId
  let attempts := figures.attempts questionId
  let coverage := figures.coverage questionId
  let priority := figures.effectivePriority candidate
  if figures.p1VariantMode then
    p1VariantScheduleKey attempts coverage priority questionId
  else if figures.protectedPageMode then
    protectedPageScheduleKey attempts coverage priority questionId
  else
    .of (if attempts = 0 then 0 else 1)
      (if attempts = 0 then 0 else figures.utilityRank candidate)
      coverage priority questionId

/-- What the second loop keeps. -/
def isEligible (candidate : ScheduledItem) : Bool :=
  !(figures.isClosedOff candidate || figures.isOutOfResults candidate)
    && !(figures.p1VariantMode
      && candidate.questionId ∉ figures.unfinishedP1Variants)
    && !(figures.protectedPageMode && !figures.isProtected candidate)

/-- `eligible`. -/
def eligible : List (ScheduleKey × ScheduledItem) :=
  (figures.candidates.filter figures.isEligible).map fun candidate =>
    (figures.scheduleKey candidate, candidate)

/-- `selected_entry`. -/
def selectedEntry : Option ScheduledItem :=
  (figures.eligible.argmin Prod.fst).map Prod.snd

end CandidateFigures

-- ===================================================== reading the figures

/-- How Python reads numbers from texts, and prints a value that is no
text. -/
structure PyText where
  floatOfText : String → Option ℚ
  intOfText : String → Option Int
  strOf : Json ℚ → String

namespace PyText

variable (py : PyText)

/-- `str(value)`. -/
def str : Json ℚ → String
  | .str text => text
  | value => py.strOf value

/-- `_as_int`. -/
def asInt : Json ℚ → Int := safeInt py.intOfText

/-- `float(value or 0.0)`, which may raise. -/
def floatOrZero (value : Json ℚ) : Option ℚ :=
  if value.truthy then
    match value with
    | .bool _ => some 1
    | .int n => some (nearest n)
    | .float x => some x
    | .str text => py.floatOfText text
    | _ => none
  else some 0

end PyText

/-- The entries of a list; anything else has none. -/
def listItems : Json ℚ → List (Json ℚ)
  | .list items => items
  | _ => []

/-- The items of a dictionary; anything else has none. -/
def dictItems : Json ℚ → List (String × Json ℚ)
  | .dict items => items
  | _ => []

/-- A row of `search_queries`, with the number of its results. -/
structure SearchRecord where
  questionId : String
  succeeded : Bool
  results : Nat
  deriving DecidableEq, Repr

/-- What the selection is made from: `usage` are the entries of the usage
snapshot that tell of questions and query families, `planItems` the rows of
the current plan version. -/
structure SelectionInput where
  now : Nat
  run : ResearchRunRow
  usage : List (String × Json ℚ) := []
  quality : QualitySnapshot := []
  planItems : List ScheduledItem := []
  searches : List SearchRecord := []

namespace SelectionInput

variable (py : PyText) (input : SelectionInput)

def searchBudgetExhausted : Bool :=
  searchAcquisitionBudgetExhausted
    (budgetExhaustionReason input.now input.run)

/-- `coverage_entries`, as far as they are dictionaries. -/
def coverageEntries : List (List (String × Json ℚ)) :=
  (listItems (Json.get input.quality "coverage_map")).filterMap
    Json.mapping?

def coverageByQuestion : Option (List (String × ℚ)) :=
  let keyed := input.coverageEntries.filter fun entry =>
    match Json.get entry "dimension_key" with
    | .null => false
    | _ => true
  List.reverse <$> keyed.mapM fun entry =>
    (fun coverage => (py.str (Json.get entry "dimension_key"), coverage))
      <$> py.floatOrZero (Json.get entry "coverage")

/-- The questions `quality_repair_targets` names. -/
def qualityRepairTargets : List String :=
  (dictItems (Json.get input.quality "quality_repair_targets")).filterMap
    fun item =>
      match item.2 with
      | .list _ => some item.1
      | _ => none

/-- The entries that name a question, under its id. -/
def questionEntries : List (String × List (String × Json ℚ)) :=
  (input.coverageEntries.map fun entry =>
    ((Json.find? entry "dimension_key").elim "" py.str, entry)).filter
    (·.1 ≠ "")

/-- A dimension has evidence, from too few independent sources. -/
def needsCorroboration (entry : List (String × Json ℚ)) : Bool :=
  ((listItems (Json.get entry "requirement_statuses")).filterMap
    Json.mapping?).any fun status =>
      0 < py.asInt (Json.get status "accepted_evidence")
        && py.asInt (Json.get status "independent_sources")
          < max 1 (py.asInt
            ((Json.find? status "required_sources").getD (.int 1)))

def corroborationTargets : List String :=
  input.qualityRepairTargets
    ++ ((input.questionEntries py).filter fun entry =>
      needsCorroboration py entry.2).map (·.1)

def acceptedByQuestion : List (String × ℤ) :=
  ((input.questionEntries py).map fun entry =>
    (entry.1, py.asInt (Json.get entry.2 "accepted_evidence"))).reverse

def protectedPageMode : Bool :=
  let maxPages : ℤ := input.run.budgetSnapshot.maxPages.getD 0
  let committedPages : ℤ := input.run.usageSnapshot.pages.getD 0
  let reservedPages : ℤ := input.run.usageSnapshot.pageSlotsReserved
  let remainingPages := max 0 (maxPages - committedPages - reservedPages)
  let criticalGapCount := py.asInt (Json.get input.quality "critical_gaps")
  let qualityReserve :=
    max (criticalGapCount * 2) (input.qualityRepairTargets.length * 2)
  let pageReserve := min maxPages (max 0 qualityReserve)
  0 < pageReserve && remainingPages ≤ pageReserve

/-- The questions an entry of the usage snapshot flags. -/
def flaggedQuestions (name : String) : List String :=
  ((dictItems (Json.get input.usage name)).filter (·.2.truthy)).map (·.1)

def frozenQuestions : List String :=
  (listItems (Json.get input.usage "frozen_questions")).map py.str

/-- `_executed_query_families`. -/
def executedQueryFamilies (questionId : String) : List QueryFamily :=
  let byQuestion :=
    dictItems (Json.get input.usage "executed_query_families_by_question")
  let executed := (listItems (Json.get byQuestion questionId)).map py.str
  queryFamilies.filter (·.text ∈ executed)

/-- A figure of `query_family_stats`. -/
def familyFigure (name : String) (family : QueryFamily) : ℤ :=
  let stats := dictItems (Json.get input.usage "query_family_stats")
  py.asInt (Json.get (dictItems (Json.get stats family.text)) name)

def cachedQuestionIds : List String :=
  if input.searchBudgetExhausted then
    (input.searches.filter fun search =>
      search.succeeded && 0 < search.results).map (·.questionId)
  else []

/-- A `partial` question without anything left to gain is done. -/
def repaired (coverageByQuestion : List (String × ℚ))
    (item : ScheduledItem) : ScheduledItem :=
  if item.status = .answeredInPart
      ∧ 1 ≤ (coverageByQuestion.lookup item.questionId).getD 0
      ∧ item.questionId ∉ input.qualityRepairTargets
      ∧ item.questionId ∉ input.corroborationTargets py then
    { item with status := .researched }
  else item

/-- The figures the loops are run on, unless reading a coverage raises. -/
def figures : Option CandidateFigures :=
  (fun coverageByQuestion =>
    { searchBudgetExhausted := input.searchBudgetExhausted
      coverageByQuestion
      acceptedByQuestion := input.acceptedByQuestion py
      qualityRepairTargets := input.qualityRepairTargets
      corroborationTargets := input.corroborationTargets py
      protectedPageMode := input.protectedPageMode py
      exhaustedQuestions :=
        input.flaggedQuestions "question_budget_exhausted_by_question"
      strategyExhaustedQuestions :=
        input.flaggedQuestions "query_strategy_exhausted_by_question"
      frozenQuestions := input.frozenQuestions py
      cachedQuestionIds := input.cachedQuestionIds
      historicalAttempts := fun questionId =>
        input.searches.countP (·.questionId = questionId)
      executedQueryFamilies := input.executedQueryFamilies py
      logicalQueries := input.familyFigure py "logical_queries"
      acceptedEvidence := input.familyFigure py "accepted_evidence"
      candidates :=
        (input.planItems.filter (·.status.isCandidate)).map
          (input.repaired py coverageByQuestion) })
    <$> input.coverageByQuestion py

/-- The candidate selection of `prepare_target`. -/
def selectedEntry : Option (Option ScheduledItem) :=
  (·.selectedEntry) <$> input.figures py

end SelectionInput

end DeepResearch.Run
