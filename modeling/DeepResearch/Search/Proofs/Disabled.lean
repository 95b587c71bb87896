/-
How long a provider stays disabled for the run.

`expire_cooldowns` moves unavailable providers only, so a disabled one is
not rearmed. `record_failure` asks whether the provider was being probed
and nothing else about its state: a failure that arrives for a disabled
provider makes it degraded or unavailable again
(`failedRecord_not_probed`). So it stays disabled exactly as long as no
attempt of its own is recorded.
-/
import DeepResearch.Lib.Transition
import DeepResearch.Search.Proofs.HealthRecords

namespace DeepResearch.Search

open Iso8601 (Datetime)
open Transition

universe u

variable {F : Type u} [PyFloat F]

-- ==================================================== statement vocabulary

/-- A tracker from its construction on. -/
def healthSystem : System (ProviderHealthTracker F) (HealthOp F) where
  init tracker := ∃ cooldown streak probes,
    tracker = ProviderHealthTracker.new cooldown streak probes
  step tracker op := (tracker.apply op).1

/-- Whether an operation records an attempt of a provider. -/
def HealthOp.Records (name : String) : HealthOp F → Prop
  | .recordSuccess other _ _ => other = name
  | .recordFailure other _ _ _ => other = name
  | .expireCooldowns _ => False

omit [PyFloat F] in
/-- The provider is disabled, and no router over this health selects
it. -/
def NeverSelected (name : String) (tracker : ProviderHealthTracker F) :
    Prop :=
  tracker.stateOf name = .disabledForRun
    ∧ ∀ router : ProviderRouter F, router.health = tracker →
      ∀ isFeedback feedbackExecutionId excluded switches,
        (router.selectFor isFeedback feedbackExecutionId excluded
          switches).selectedProvider ≠ some name

-- ============================================================== invariants

/-- The streaks of a record count attempts. -/
def ProviderRecord.Counted (record : ProviderRecord F) : Prop :=
  0 ≤ record.failureStreak ∧ 0 ≤ record.successStreak

namespace ProviderHealthTracker

variable {tracker : ProviderHealthTracker F}

/-- The streaks of every record count attempts. -/
def Counted (tracker : ProviderHealthTracker F) : Prop :=
  ∀ name record, tracker.record? name = some record → record.Counted

theorem Counted.setdefault (h : tracker.Counted) (name : String)
    (now : Datetime) : (tracker.setdefault name now).Counted := by
  unfold ProviderHealthTracker.setdefault
  cases hold : tracker.record? name with
  | none => exact ⟨le_refl 0, le_refl 0⟩
  | some old => exact h name old hold

theorem Counted.apply (h : tracker.Counted) (op : HealthOp F) :
    (tracker.apply op).1.Counted := by
  intro other record hrecord
  cases op with
  | recordSuccess name latency now =>
      have hnew := tracker.succeeded_fields name latency now
      have hold := h.setdefault name now
      change (tracker.recordSuccess name latency now).1.record? other = _
        at hrecord
      rw [record?_recordSuccess] at hrecord
      split at hrecord
      · cases hrecord
        exact ⟨hnew.2.1.ge, by rw [hnew.2.2]; have := hold.2; omega⟩
      · exact h other record hrecord
  | recordFailure name failureType latency now =>
      have hnew := tracker.failed_fields name failureType latency now
      have hold := h.setdefault name now
      change (tracker.recordFailure name failureType latency now).1.record?
        other = _ at hrecord
      rw [record?_recordFailure] at hrecord
      split at hrecord
      · cases hrecord
        exact ⟨by rw [hnew.2.2.1]; have := hold.1; omega, hnew.2.2.2.ge⟩
      · exact h other record hrecord
  -- An expiry changes the state of a record, and none of its counts.
  | expireCooldowns moment =>
      have hrel := tracker.record?_expireCooldowns moment other
      change (tracker.expireCooldowns moment).1.record? other = _ at hrecord
      rw [hrecord] at hrel
      cases hold : tracker.record? other with
      | none =>
          rw [hold] at hrel
          cases hrel
      | some old =>
          rw [hold] at hrel
          cases hrel with
          | some hexpires =>
              cases hexpires with
              | kept => exact h other _ hold
              | rearmed => exact h other old hold

end ProviderHealthTracker

theorem counted_of_reachable {tracker : ProviderHealthTracker F}
    (h : Reachable healthSystem tracker) : tracker.Counted := by
  refine h.invariant ?_ fun _ op hcounted => hcounted.apply op
  rintro _ ⟨cooldown, streak, probes, rfl⟩ name record hrecord
  cases hrecord

-- ========================================================= leaving the state

namespace ProviderHealthTracker

variable {tracker : ProviderHealthTracker F} {name : String}

omit [PyFloat F] in
theorem record?_of_disabled (h : tracker.stateOf name = .disabledForRun) :
    ∃ record, tracker.record? name = some record
      ∧ record.state = .disabledForRun := by
  unfold stateOf at h
  cases hold : tracker.record? name with
  | none =>
      rw [hold] at h
      cases h
  | some record =>
      rw [hold] at h
      exact ⟨record, rfl, h⟩

/-- What other providers attempt and when cooldowns end does not reach a
disabled provider. -/
theorem stays_disabled (h : tracker.stateOf name = .disabledForRun)
    {op : HealthOp F} (hop : ¬ op.Records name) :
    (tracker.apply op).1.stateOf name = .disabledForRun := by
  cases op with
  | recordSuccess other latency now =>
      show (tracker.recordSuccess other latency now).1.stateOf name = _
      rw [stateOf, record?_recordSuccess,
        if_neg (show ¬ other = name from hop)]
      exact h
  | recordFailure other failureType latency now =>
      show (tracker.recordFailure other failureType latency now).1.stateOf
        name = _
      rw [stateOf, record?_recordFailure,
        if_neg (show ¬ other = name from hop)]
      exact h
  | expireCooldowns moment =>
      obtain ⟨record, hrecord, hstate⟩ := record?_of_disabled h
      have hrel := tracker.record?_expireCooldowns moment name
      rw [hrecord] at hrel
      show (tracker.expireCooldowns moment).1.stateOf name = _
      rw [stateOf]
      generalize (tracker.expireCooldowns moment).1.record? name = after
        at hrel ⊢
      cases hrel with
      | some hexpires =>
          rw [hexpires.eq_of_state (by rw [hstate]; decide)]
          exact hstate

/-- An attempt of its own takes a provider out of the state, a success
and a failure alike. -/
theorem leaves_disabled (h : tracker.stateOf name = .disabledForRun)
    (hcounted : tracker.Counted) {op : HealthOp F} (hop : op.Records name) :
    (tracker.apply op).1.stateOf name ≠ .disabledForRun := by
  obtain ⟨record, hrecord, hstate⟩ := record?_of_disabled h
  have hsetdefault : ∀ now, tracker.setdefault name now = record :=
    fun now => by rw [setdefault, hrecord, Option.getD_some]
  have hcount := hcounted name record hrecord
  cases op with
  | recordSuccess other latency now =>
      cases hop
      show (tracker.recordSuccess name latency now).1.stateOf name ≠ _
      rw [stateOf, record?_recordSuccess, if_pos rfl, Option.elim_some,
        succeeded_state latency now (by rw [hsetdefault]; exact hcount.2)]
      decide
  | recordFailure other failureType latency now =>
      cases hop
      show (tracker.recordFailure name failureType latency now).1.stateOf
        name ≠ _
      rw [stateOf, record?_recordFailure, if_pos rfl, Option.elim_some]
      have hne : (tracker.setdefault name now).state ≠ .cooldown := by
        rw [hsetdefault, hstate]
        decide
      have hstreak : 1 ≤ ((tracker.setdefault name now).countFailure
          failureType latency now).failureStreak := by
        rw [ProviderRecord.countFailure_failureStreak, hsetdefault]
        have := hcount.1
        omega
      rcases tracker.failedRecord_not_probed failureType _ now hne hstreak
        with hnew | hnew
      · rw [failed, hnew]
        decide
      · rw [failed, hnew]
        decide
  | expireCooldowns moment => cases hop

omit [PyFloat F] in
theorem neverSelected_of_disabled
    (h : tracker.stateOf name = .disabledForRun) :
    NeverSelected name tracker := by
  refine ⟨h, ?_⟩
  rintro router rfl isFeedback feedbackExecutionId excluded switches hselected
  have heligible := ProviderRouter.eligible_of_selectFor hselected
  rw [ProviderRouter.eligible, h] at heligible
  simp [ProviderHealthState.isBlocked] at heligible

end ProviderHealthTracker

-- ============================================================ the whole run

/-- From any reachable state in which a provider is disabled, it stays
disabled and is never selected exactly as long as no attempt of its own
is recorded: other providers' attempts and the end of cooldowns do not
matter, and the first failure recorded for it ends the state. -/
theorem disabled_stays_iff {tracker : ProviderHealthTracker F}
    (hreachable : Reachable healthSystem tracker) {name : String}
    (hdisabled : tracker.stateOf name = .disabledForRun)
    (ops : List (HealthOp F)) :
    healthSystem.Throughout (NeverSelected name) tracker ops
      ↔ ∀ op ∈ ops, ¬ op.Records name := by
  rw [← System.along_forall (S := healthSystem) tracker ops]
  refine throughout_iff_along
    (fun t (h : t.Counted ∧ t.stateOf name = .disabledForRun) =>
      ProviderHealthTracker.neverSelected_of_disabled h.2)
    (fun t op h hop => ⟨h.1.apply op,
      ProviderHealthTracker.stays_disabled h.2 hop⟩)
    (fun t op h hop hnever => ?_)
    ⟨counted_of_reachable hreachable, hdisabled⟩ ops
  exact ProviderHealthTracker.leaves_disabled h.2 h.1
    (Classical.not_not.mp hop) hnever.1

-- ================================================================= a sample

/-- A minute of one hour. -/
def probeTime (minute : Fin 60) : Datetime where
  year := 2026
  month := 9
  day := 20
  hour := 12
  minute := minute
  second := 0
  microsecond := 0
  utcoffset := some 0
  valid := by
    revert minute
    decide

/-- A circuit opens, and three probes fail. -/
def disablingOps : List (HealthOp Int) :=
  [.recordFailure "SearXNG" .circuitOpen 0 (probeTime 0),
    .expireCooldowns (probeTime 1),
    .recordFailure "SearXNG" .timeout 0 (probeTime 1),
    .expireCooldowns (probeTime 2),
    .recordFailure "SearXNG" .timeout 0 (probeTime 2),
    .expireCooldowns (probeTime 3),
    .recordFailure "SearXNG" .timeout 0 (probeTime 3)]

/-- The tracker after it. -/
def disabledTracker : ProviderHealthTracker Int :=
  healthSystem.exec (.new providerCooldown failureStreakToUnavailable
    maxProbeFailures) disablingOps

theorem disabledTracker_reachable :
    Reachable healthSystem disabledTracker :=
  (Reachable.init (S := healthSystem) ⟨_, _, _, rfl⟩).exec disablingOps

theorem disabled_stays_sample :
    healthSystem.Throughout (NeverSelected "SearXNG") disabledTracker
      [.recordFailure "Bing" .timeout 0 (probeTime 3),
        .expireCooldowns (probeTime 9)] :=
  (disabled_stays_iff disabledTracker_reachable (by decide) _).mpr (by
    simp [HealthOp.Records])

/-- One more failure that arrives for the disabled provider makes it
unavailable; after the cooldown it is probed again, and selected. -/
theorem late_failure_rearms :
    Reachable healthSystem disabledTracker
      ∧ disabledTracker.stateOf "SearXNG" = .disabledForRun
      ∧ ∃ router : ProviderRouter Int,
        router.health = healthSystem.exec disabledTracker
            [.recordFailure "SearXNG" .timeout 0 (probeTime 3),
              .expireCooldowns (probeTime 4)]
          ∧ router.health.stateOf "SearXNG" = .cooldown
          ∧ (router.selectFor false none [] 0).selectedProvider
            = some "SearXNG" :=
  ⟨disabledTracker_reachable, by decide,
    ⟨healthSystem.exec disabledTracker
      [.recordFailure "SearXNG" .timeout 0 (probeTime 3),
        .expireCooldowns (probeTime 4)], "SearXNG", [], 1⟩,
    rfl, by decide, by decide⟩

end DeepResearch.Search
