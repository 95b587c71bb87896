/-
Whom a routing stop is charged to.

The error of a stop names no provider (`""`), and `record_tool_failure`
charges a failure whose provider the pool does not have to the first of
the pool. So every stop adds a failure to a provider that did not run and,
the type being `circuit_open`, blocks it (`routingStop_charges`); the
other providers only see their cooldowns end. The failures on record never
fall, so no run of stops but the empty one spares every provider.
-/
import DeepResearch.Lib.Transition
import DeepResearch.Search.ProviderAttempt
import DeepResearch.Search.Proofs.Disabled
import DeepResearch.Search.Proofs.HealthPayload

namespace DeepResearch.Search

open Iso8601 (Datetime)
open Transition

variable {F : Type} [PyFloat F] [DecidableEq F]

-- ==================================================== statement vocabulary

/-- A record after which nothing was charged to its provider: at most a
cooldown ended. -/
structure Spared (before after : ProviderRecord F) : Prop where
  successCount : after.successCount = before.successCount
  failureCount : after.failureCount = before.failureCount
  timeoutCount : after.timeoutCount = before.timeoutCount
  unresponsiveCount : after.unresponsiveCount = before.unresponsiveCount
  successStreak : after.successStreak = before.successStreak
  failureStreak : after.failureStreak = before.failureStreak
  probeFailureStreak : after.probeFailureStreak = before.probeFailureStreak
  state : after.state = before.state
    ∨ before.state = .unavailable ∧ after.state = .cooldown

/-- Nothing was charged to any provider. -/
def Spares (before after : ProviderHealthTracker F) : Prop :=
  ∀ name, Option.Rel Spared (before.record? name) (after.record? name)

/-- Attempts one after the other; an attempt that is no routing stop
changes nothing here. -/
def stopSystem : System (HealthUsage F) RoutedAttempt where
  init _ := True
  step usage attempt := (routingStop usage attempt).getD usage

/-- The router selects no provider, and the stop is recorded. -/
def Stops (usage : HealthUsage F) (attempt : RoutedAttempt) : Prop :=
  (routingStop usage attempt).isSome

-- ========================================================== the stored health

namespace ProviderHealthTracker

theorem Configured.fromPayload (payload : List (String × Json F))
    (cooldown streak probes : Int) (now : Datetime) :
    Configured cooldown streak probes
      (fromPayload payload cooldown streak probes now) := by
  have hfold : ∀ (payload : List (String × Json F))
      (tracker : ProviderHealthTracker F),
      Configured cooldown streak probes tracker →
      Configured cooldown streak probes
        (payload.foldl (readItem now) tracker) := by
    intro payload
    induction payload with
    | nil => exact fun _ h => h
    | cons item payload ih =>
        intro tracker h
        apply ih
        unfold readItem
        split
        · exact h
        · exact h
  exact hfold payload _ ⟨rfl, rfl, rfl⟩

/-- When a payload is read does not change the failures it has. -/
theorem failures_fromPayload (payload : List (String × Json F))
    (cooldown streak probes : Int) (now later : Datetime) (name : String) :
    (fromPayload payload cooldown streak probes now).failures name
      = (fromPayload payload cooldown streak probes later).failures
        name := by
  have hfold : ∀ (payload : List (String × Json F))
      (a b : ProviderHealthTracker F), a.failures name = b.failures name →
      (payload.foldl (readItem now) a).failures name
        = (payload.foldl (readItem later) b).failures name := by
    intro payload
    induction payload with
    | nil => exact fun _ _ h => h
    | cons item payload ih =>
        intro a b h
        apply ih
        unfold readItem
        split
        · unfold failures
          rw [record?_put, record?_put]
          by_cases hname : item.1 = name
          · rw [if_pos (show (ProviderRecord.fromPayload item.1 _
                now).providerName = name from hname),
              if_pos (show (ProviderRecord.fromPayload item.1 _
                later).providerName = name from hname)]
            rfl
          · rw [if_neg (show ¬ (ProviderRecord.fromPayload item.1 _
                now).providerName = name from hname),
              if_neg (show ¬ (ProviderRecord.fromPayload item.1 _
                later).providerName = name from hname)]
            exact h
        · exact h
  exact hfold payload _ _ rfl

end ProviderHealthTracker

-- ============================================================= one stop

section

open ProviderHealthTracker

variable {usage after : HealthUsage F}

/-- A loaded tracker has the settings of the service. -/
theorem tracker_configured (usage : HealthUsage F) (now : Datetime) :
    Configured providerCooldown failureStreakToUnavailable maxProbeFailures
      (usage.tracker now) :=
  Configured.fromPayload ..

/-- What one attempt stores the next one reads. -/
theorem tracker_store {tracker : ProviderHealthTracker F}
    (h : Configured providerCooldown failureStreakToUnavailable
      maxProbeFailures tracker) (retries : Int) (now : Datetime) :
    (HealthUsage.mk (.dict tracker.toPayload) retries).tracker now
      = tracker :=
  h.store now

/-- The tracker after a failure was recorded. -/
def HealthUsage.charged (usage : HealthUsage F) (provider : String)
    (failureType : ProviderFailureType) (now : Datetime) :
    ProviderHealthTracker F :=
  (((usage.tracker now).expireCooldowns now).1.recordFailure provider
    failureType 0 now).1

/-- Charging an attempt keeps the settings. -/
theorem charged_configured (usage : HealthUsage F) (provider : String)
    (failureType : ProviderFailureType) (now : Datetime) :
    Configured providerCooldown failureStreakToUnavailable maxProbeFailures
      (usage.charged provider failureType now) :=
  ((tracker_configured usage now).apply (.expireCooldowns now)).apply
    (.recordFailure provider failureType 0 now)

/-- A recorded failure stores the charged tracker. -/
theorem recordProviderHealthAndRouting_failure
    {activeProviders : Option (List String)} {target : RoutingTarget}
    {provider : String} {failureType : ProviderFailureType} {now : Datetime}
    {decision : ProviderSelectionDecision}
    (h : recordProviderHealthAndRouting usage activeProviders target
      (some provider) (some failureType) [] now = some (after, decision)) :
    after = ⟨.dict (usage.charged provider failureType now).toPayload,
      usage.providerRetryCount⟩ := by
  unfold recordProviderHealthAndRouting recordFailing at h
  simp only [Option.bind_eq_bind, Option.bind_eq_some_iff,
    Option.map_eq_some_iff] at h
  obtain ⟨_, _, _, ⟨_, _, rfl⟩, _, _, hafter⟩ := h
  cases hafter
  rfl

/-- The pool is never empty, so a failure whose provider it does not have
is charged to a provider it has. -/
theorem failingCandidate_mem (activeProviders : Option (List String))
    (provider : String) :
    failingCandidate (candidateProviders activeProviders) provider
      ∈ candidateProviders activeProviders := by
  unfold failingCandidate
  split
  · assumption
  · unfold candidateProviders
    split
    · exact List.mem_cons_self
    · exact List.mem_cons_self

/-- The provider a stop is charged to. -/
def RoutedAttempt.chargedProvider (attempt : RoutedAttempt) : String :=
  failingCandidate (candidateProviders attempt.activeProviders)
    (reportedProvider none (some routingStopDetails))

/-- A stop charges the provider and stores the whole tracker. -/
theorem routingStop_eq {attempt : RoutedAttempt}
    (h : routingStop usage attempt = some after) :
    after = ⟨.dict (usage.charged attempt.chargedProvider .circuitOpen
      attempt.recordedAt).toPayload, usage.providerRetryCount⟩ := by
  unfold routingStop at h
  simp only [Option.bind_eq_bind, Option.bind_eq_some_iff] at h
  obtain ⟨decision, -, h⟩ := h
  split at h
  · cases h
  · obtain ⟨⟨stored, next⟩, hrecord, hafter⟩ := Option.bind_eq_some_iff.mp h
    cases hafter
    have htype : classifyProviderFailure "SEARCH_PROVIDER_DEGRADED"
        (some routingStopDetails) = .circuitOpen := rfl
    unfold recordToolFailure at hrecord
    rw [htype] at hrecord
    exact recordProviderHealthAndRouting_failure hrecord

/-- A stop is charged to a provider of the pool, which gets one more
failure and is blocked; of the others at most a cooldown ends. -/
theorem routingStop_charges {attempt : RoutedAttempt}
    (h : routingStop usage attempt = some after) (now : Datetime) :
    attempt.chargedProvider ∈ candidateProviders attempt.activeProviders
      ∧ (∀ name, (after.tracker now).failures name
        = (usage.tracker now).failures name
          + if name = attempt.chargedProvider then 1 else 0)
      ∧ ((after.tracker now).stateOf attempt.chargedProvider).isBlocked
        = true
      ∧ ∀ name, name ≠ attempt.chargedProvider →
        Option.Rel (Expires attempt.recordedAt)
          ((usage.tracker attempt.recordedAt).record? name)
          ((after.tracker now).record? name) := by
  have hread : after.tracker now = usage.charged attempt.chargedProvider
      .circuitOpen attempt.recordedAt := by
    rw [routingStop_eq h]
    exact tracker_store (charged_configured ..) _ now
  have hfailures : ∀ name, (usage.charged attempt.chargedProvider
      .circuitOpen attempt.recordedAt).failures name
        = (usage.tracker now).failures name
          + if name = attempt.chargedProvider then 1 else 0 := by
    intro name
    unfold HealthUsage.charged
    rw [failures_recordFailure, failures_expireCooldowns]
    congr 1
    exact failures_fromPayload ..
  rw [hread]
  refine ⟨failingCandidate_mem .., hfailures, ?_, ?_⟩
  · unfold HealthUsage.charged
    rw [stateOf, record?_recordFailure, if_pos rfl]
    exact failedRecord_circuitOpen _ _ _ _ rfl
  · intro name hname
    unfold HealthUsage.charged
    rw [record?_recordFailure, if_neg (Ne.symm hname)]
    exact record?_expireCooldowns ..

end

-- ============================================================ the whole run

/-- The stop is charged to a provider of the pool: it has one more failure
and is blocked. -/
def Charges (usage : HealthUsage F) (attempt : RoutedAttempt) : Prop :=
  ∃ name ∈ candidateProviders attempt.activeProviders, ∀ now,
    ((stopSystem.step usage attempt).tracker now).failures name
        = (usage.tracker now).failures name + 1
      ∧ (((stopSystem.step usage attempt).tracker now).stateOf
        name).isBlocked = true

/-- The step of a stop is what the source does. -/
theorem step_of_stops {usage : HealthUsage F} {attempt : RoutedAttempt}
    (h : Stops usage attempt) :
    routingStop usage attempt = some (stopSystem.step usage attempt) := by
  obtain ⟨after, hafter⟩ := Option.isSome_iff_exists.mp h
  show _ = some ((routingStop usage attempt).getD usage)
  rw [hafter, Option.getD_some]

/-- Every stop charges its provider. -/
theorem charges_of_stops {usage : HealthUsage F} {attempt : RoutedAttempt}
    (h : Stops usage attempt) : Charges usage attempt := by
  refine ⟨attempt.chargedProvider,
    failingCandidate_mem attempt.activeProviders _, fun now => ?_⟩
  obtain ⟨-, hfailures, hblocked, -⟩ :=
    routingStop_charges (step_of_stops h) now
  refine ⟨?_, hblocked⟩
  rw [hfailures, if_pos rfl]

/-- The failures on record never fall. -/
theorem failures_le_exec {usage : HealthUsage F}
    {attempts : List RoutedAttempt}
    (h : stopSystem.Along Stops usage attempts) (now : Datetime)
    (name : String) :
    (usage.tracker now).failures name
      ≤ ((stopSystem.exec usage attempts).tracker now).failures name := by
  induction attempts generalizing usage with
  | nil => exact le_refl _
  | cons attempt attempts ih =>
      refine le_trans ?_ (ih h.2)
      rw [(routingStop_charges (step_of_stops h.1) now).2.1]
      split
      · omega
      · omega

omit [PyFloat F] [DecidableEq F] in
/-- A stop that spares counts no failure. -/
theorem Spares.failures {before after : ProviderHealthTracker F}
    (h : Spares before after) (name : String) :
    after.failures name = before.failures name := by
  have hrel := h name
  unfold ProviderHealthTracker.failures
  generalize before.record? name = old at hrel ⊢
  generalize after.record? name = new at hrel ⊢
  cases hrel with
  | none => rfl
  | some hspared => exact hspared.failureCount

omit [PyFloat F] [DecidableEq F] in
theorem Spares.refl (tracker : ProviderHealthTracker F) :
    Spares tracker tracker := by
  intro name
  cases tracker.record? name with
  | none => exact .none
  | some record => exact .some ⟨rfl, rfl, rfl, rfl, rfl, rfl, rfl, .inl rfl⟩

/-- Over every run of routing stops, every stop is charged to a provider
of its pool, which is blocked for it; so a run spares every provider
exactly when it is empty. -/
theorem routing_stops_spare_iff {usage : HealthUsage F}
    {attempts : List RoutedAttempt}
    (h : stopSystem.Along Stops usage attempts) (now : Datetime) :
    (Spares (usage.tracker now)
        ((stopSystem.exec usage attempts).tracker now) ↔ attempts = [])
      ∧ stopSystem.Along Charges usage attempts := by
  constructor
  · constructor
    · intro hspares
      cases attempts with
      | nil => rfl
      | cons attempt attempts =>
          have hle := failures_le_exec h.2 now attempt.chargedProvider
          have hcharged := (routingStop_charges (step_of_stops h.1)
            now).2.1 attempt.chargedProvider
          have hsame := hspares.failures attempt.chargedProvider
          rw [if_pos rfl] at hcharged
          rw [System.exec_cons] at hsame
          omega
    · rintro rfl
      exact Spares.refl _
  · have hcharges : ∀ (s : HealthUsage F) (as : List RoutedAttempt),
        stopSystem.Along Stops s as → stopSystem.Along Charges s as := by
      intro s as
      induction as generalizing s with
      | nil => exact fun _ => trivial
      | cons a as ih => exact fun h => ⟨charges_of_stops h.1, ih _ h.2⟩
    exact hcharges usage attempts h

-- ================================================================= a sample

/-- Bing answered; SearXNG was never called. -/
def bingHealthTracker : ProviderHealthTracker Int :=
  ((ProviderHealthTracker.new providerCooldown failureStreakToUnavailable
    maxProbeFailures).recordSuccess "Bing" 0 (probeTime ⟨0, by decide⟩)).1

/-- One retry was counted, so the switch to Bing is not allowed. -/
def bingHealthUsage : HealthUsage Int :=
  ⟨.dict bingHealthTracker.toPayload, 1⟩

def laterAttempt : RoutedAttempt where
  activeProviders := none
  target := { feedbackId := none, feedbackExecutionId := none }
  selectedAt := probeTime ⟨1, by decide⟩
  recordedAt := probeTime ⟨1, by decide⟩

theorem bingHealthUsage_tracker (now : Datetime) :
    bingHealthUsage.tracker now = bingHealthTracker :=
  tracker_store ⟨rfl, rfl, rfl⟩ 1 now

theorem laterAttempt_stops : Stops bingHealthUsage laterAttempt := by
  unfold Stops routingStop selectProviderForTarget recordToolFailure
    recordProviderHealthAndRouting
  simp only [bingHealthUsage_tracker]
  rfl

theorem routing_stops_spare_sample :
    (Spares (bingHealthUsage.tracker (probeTime 2))
        ((stopSystem.exec bingHealthUsage [laterAttempt]).tracker
          (probeTime 2)) ↔ [laterAttempt] = [])
      ∧ stopSystem.Along Charges bingHealthUsage [laterAttempt] :=
  routing_stops_spare_iff
    (show stopSystem.Along Stops bingHealthUsage [laterAttempt] from
      ⟨laterAttempt_stops, trivial⟩) (probeTime 2)

/-- SearXNG, never called, is unavailable after one stop. -/
theorem stop_blocks_uncalled_provider :
    Stops bingHealthUsage laterAttempt
      ∧ ∀ now, (bingHealthUsage.tracker now).record? "SearXNG" = none
        ∧ ((stopSystem.step bingHealthUsage laterAttempt).tracker
          now).stateOf "SearXNG" = .unavailable := by
  refine ⟨laterAttempt_stops, fun now => ⟨?_, ?_⟩⟩
  · rw [bingHealthUsage_tracker]
    decide
  · rw [routingStop_eq (step_of_stops laterAttempt_stops),
      tracker_store (charged_configured ..), HealthUsage.charged,
      bingHealthUsage_tracker]
    decide

end DeepResearch.Search
