/-
How an attempt uses the provider health: the selection before it and the
record after it (`db/research_tools.py`, `services/research_loop.py`,
`domain/provider_failure_classification.py`).

The health lives in the usage snapshot as a payload. Selecting reads it
and writes nothing. Recording a failure classifies it, charges one
provider, and asks the router which provider it would choose next. Where
the router selects no provider at all, no adapter is called, and the
attempt records a failure of its own making: a routing stop.

An operation that raises rolls its transaction back, `none` here.
-/
import Mathlib.Data.List.Infix
import DeepResearch.Lib.CaseFolding
import DeepResearch.Search.ProviderRouter

namespace DeepResearch.Search

open Iso8601 (Datetime)

variable {F : Type} [PyFloat F] [DecidableEq F]

-- ============================================================ classification

/-- What `details` of a tool failure say about it: the provider, the
failure type and, of the metrics, `empty_response_count`. -/
structure FailureDetails where
  provider : Option String
  failureType : Option String
  emptyResponseCount : Option Int
deriving DecidableEq, Repr

/-- `ProviderFailureType(value)`. -/
def ProviderFailureType.ofValue? : String → Option ProviderFailureType
  | "timeout" => some .timeout
  | "unresponsive" => some .unresponsive
  | "rate_limit" => some .rateLimit
  | "network_error" => some .networkError
  | "server_error" => some .serverError
  | "empty_response" => some .emptyResponse
  | "circuit_open" => some .circuitOpen
  | "unknown" => some .unknown
  | _ => none

/-- `needle in text`. -/
def occursIn (needle : String) (text : List Char) : Bool :=
  needle.toList <:+: text

/-- The words of an error code, in the order they are looked for. -/
def classifyErrorCode (errorCode : String) : ProviderFailureType :=
  let normalized := CaseFolding.casefold errorCode.toList
  if occursIn "timeout" normalized then .timeout
  else if occursIn "rate" normalized || occursIn "429" normalized then
    .rateLimit
  else if occursIn "network" normalized || occursIn "connect" normalized then
    .networkError
  else if occursIn "empty" normalized then .emptyResponse
  else if occursIn "circuit" normalized then .circuitOpen
  else if occursIn "server" normalized || occursIn "http" normalized
      || occursIn "5" normalized then .serverError
  else .unknown

/-- `classify_provider_failure`. -/
def classifyProviderFailure (errorCode : String)
    (details : Option FailureDetails) : ProviderFailureType :=
  match details.bind FailureDetails.failureType with
  | none => classifyErrorCode errorCode
  | some "fallback_failure" =>
      if 0 < (details.bind FailureDetails.emptyResponseCount).getD 0 then
        .emptyResponse
      else .circuitOpen
  | some value =>
      (ProviderFailureType.ofValue? value).getD
        (classifyErrorCode errorCode)

/-- `RetryDecision`. -/
inductive RetryDecision
  | retry
  | fallback
  | stop
deriving DecidableEq, Repr

/-- `retry_decision`. -/
def retryDecision : ProviderFailureType → RetryDecision
  | .timeout | .unresponsive | .rateLimit | .networkError | .serverError =>
      .retry
  | .circuitOpen | .emptyResponse => .fallback
  | .unknown => .stop

-- ================================================================= the state

/-- What routing keeps in the usage snapshot. -/
structure HealthUsage (F : Type) where
  /-- `provider_health`; null where nothing is stored yet. -/
  providerHealth : Json F
  /-- `provider_retry_count`. -/
  providerRetryCount : Int

/-- What routing reads of a target. -/
structure RoutingTarget where
  feedbackId : Option String
  feedbackExecutionId : Option String
deriving DecidableEq, Repr

/-- `_SEARCH_CANDIDATE_PROVIDERS`. -/
def searchCandidateProviders : List String := ["SearXNG", "Bing"]

/-- `_candidate_providers`: the active providers of the registry, where
there is one and it has any. -/
def candidateProviders (activeProviders : Option (List String)) :
    List String :=
  match activeProviders with
  | some (provider :: providers) => provider :: providers
  | _ => searchCandidateProviders

/-- `ProviderHealthTracker.from_payload` on the stored health. -/
def HealthUsage.tracker (usage : HealthUsage F) (now : Datetime) :
    ProviderHealthTracker F :=
  .fromPayload (usage.providerHealth.mapping?.getD []) providerCooldown
    failureStreakToUnavailable maxProbeFailures now

-- ================================================================ operations

/-- `select_provider_for_target`. -/
def selectProviderForTarget (usage : HealthUsage F)
    (activeProviders : Option (List String)) (target : RoutingTarget)
    (now : Datetime) : Option ProviderSelectionDecision := do
  let (tracker, updates) := (usage.tracker now).expireCooldowns now
  let _ ← updates
  let router ← ProviderRouter.new? tracker
    (candidateProviders activeProviders) defaultMaxProviderSwitches
  return router.selectFor target.feedbackId.isSome
    target.feedbackExecutionId [] usage.providerRetryCount

/-- The failure of an attempt, where it has one. -/
def recordFailing (tracker : ProviderHealthTracker F)
    (failingProvider : Option String)
    (failureType : Option ProviderFailureType) (now : Datetime) :
    Option (ProviderHealthTracker F) :=
  match failingProvider, failureType with
  | some provider, some failureType =>
      let (after, update) := tracker.recordFailure provider failureType 0 now
      update.map fun _ => after
  | _, _ => some tracker

/-- `_record_provider_health_and_routing`. -/
def recordProviderHealthAndRouting (usage : HealthUsage F)
    (activeProviders : Option (List String)) (target : RoutingTarget)
    (failingProvider : Option String)
    (failureType : Option ProviderFailureType)
    (succeedingProviders : List String) (now : Datetime) :
    Option (HealthUsage F × ProviderSelectionDecision) := do
  let (expired, updates) := (usage.tracker now).expireCooldowns now
  let _ ← updates
  let failed ← recordFailing expired failingProvider failureType now
  let tracker := succeedingProviders.foldl
    (fun tracker provider => (tracker.recordSuccess provider 0 now).1) failed
  let router ← ProviderRouter.new? tracker
    (candidateProviders activeProviders) defaultMaxProviderSwitches
  return ({ usage with providerHealth := .dict tracker.toPayload },
    router.selectFor target.feedbackId.isSome target.feedbackExecutionId
      (failingProvider.filter (· ≠ "")).toList usage.providerRetryCount)

/-- The `provider` of `record_tool_failure`: the executed one, else the
one the details name. -/
def reportedProvider (executedProvider : Option String)
    (details : Option FailureDetails) : String :=
  let named := (details.map fun details =>
    details.provider.getD "unknown").getD "unknown"
  match executedProvider with
  | some executed => if executed = "" then named else executed
  | none => named

/-- `failing_candidate`: the reported provider where the pool has it, else
the first of the pool. -/
def failingCandidate (candidates : List String) (provider : String) :
    String :=
  if provider ∈ candidates then provider
  else candidates.head?.getD provider

/-- `record_tool_failure`, as far as the provider health goes. -/
def recordToolFailure (usage : HealthUsage F)
    (activeProviders : Option (List String)) (target : RoutingTarget)
    (errorCode : String) (details : Option FailureDetails)
    (executedProvider : Option String) (now : Datetime) :
    Option (HealthUsage F × ProviderSelectionDecision) :=
  let failureType := classifyProviderFailure errorCode details
  let usage :=
    if retryDecision failureType = .retry then
      { usage with providerRetryCount := usage.providerRetryCount + 1 }
    else usage
  recordProviderHealthAndRouting usage activeProviders target
    (some (failingCandidate (candidateProviders activeProviders)
      (reportedProvider executedProvider details)))
    (some failureType) [] now

-- ============================================================= routing stops

/-- The details of the error `_research_target` raises when no provider
was selected. -/
def routingStopDetails : FailureDetails where
  provider := some ""
  failureType := some "circuit_open"
  emptyResponseCount := none

/-- An attempt at a search: when the provider is selected and when its
failure is recorded. -/
structure RoutedAttempt where
  activeProviders : Option (List String)
  target : RoutingTarget
  selectedAt : Datetime
  recordedAt : Datetime

/-- `_research_target` up to the dispatch, where the router selected no
provider: the stop is recorded as a failure, no adapter was called. -/
def routingStop (usage : HealthUsage F) (attempt : RoutedAttempt) :
    Option (HealthUsage F) := do
  let decision ← selectProviderForTarget usage attempt.activeProviders
    attempt.target attempt.selectedAt
  if decision.selectedProvider.isSome then none
  else do
    let (after, _) ← recordToolFailure usage attempt.activeProviders
      attempt.target "SEARCH_PROVIDER_DEGRADED" (some routingStopDetails) none
      attempt.recordedAt
    return after

end DeepResearch.Search
