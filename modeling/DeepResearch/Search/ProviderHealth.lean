/-
The health of the search providers of a run: `domain/provider_health.py`.

# The tracker

One record for every provider that was attempted, in the order of the
first attempt. `record_success` and `record_failure` store the outcome of
one attempt and move the provider's state; `expire_cooldowns` moves the
providers whose cooldown is over to `COOLDOWN`, where one probe is
allowed.

# The payload

`to_payload` is what is stored in the run's usage snapshot between two
attempts, `from_payload` reads it back. Reading is lenient: a value of
the wrong type is read as the field's default.

# Exceptions

Adding the cooldown to a time near the end of the calendar raises, and so
does the comparison of a naive and an aware time. Both happen after
records were changed, so the operations return the tracker as it is left
and the updates, `none` where they raised.
-/
import DeepResearch.Lib.Iso8601
import DeepResearch.Lib.Json
import DeepResearch.Lib.Table

namespace DeepResearch.Search

open Iso8601 (Datetime)

universe u

-- ============================================================== enumerations

/-- `ProviderFailureType`. -/
inductive ProviderFailureType
  | timeout
  | unresponsive
  | rateLimit
  | networkError
  | serverError
  | emptyResponse
  | circuitOpen
  | unknown
deriving DecidableEq, Repr

/-- `ProviderHealthState`. -/
inductive ProviderHealthState
  | healthy
  | degraded
  | unavailable
  | cooldown
  | unknown
  | disabledForRun
deriving DecidableEq, Repr

def ProviderHealthState.value : ProviderHealthState → String
  | .healthy => "healthy"
  | .degraded => "degraded"
  | .unavailable => "unavailable"
  | .cooldown => "cooldown"
  | .unknown => "unknown"
  | .disabledForRun => "disabled_for_run"

-- ================================================================ thresholds

def consecutiveSuccessToHealthy : Int := 1
def failureStreakToDegraded : Int := 1
def failureStreakToUnavailable : Int := 3
/-- In microseconds. -/
def providerCooldown : Int := 15000000
def maxProbeFailures : Int := 3
def recentWindow : Nat := 10

/-- `_UNRESPONSIVE_TYPES`. -/
def ProviderFailureType.isUnresponsive : ProviderFailureType → Bool
  | .unresponsive | .emptyResponse => true
  | _ => false

-- ========================================================= the recent window

/-- `deque(maxlen=_RECENT_WINDOW)`. -/
structure RecentWindow where
  values : List Bool
  bounded : values.length ≤ recentWindow
deriving DecidableEq

namespace RecentWindow

def empty : RecentWindow := ⟨[], Nat.zero_le _⟩

/-- `deque(values, maxlen=_RECENT_WINDOW)`: the last values. -/
def ofList (values : List Bool) : RecentWindow :=
  ⟨values.drop (values.length - recentWindow), by
    rw [List.length_drop]
    omega⟩

/-- The oldest value leaves a full window. -/
def append (window : RecentWindow) (value : Bool) : RecentWindow :=
  ofList (window.values ++ [value])

theorem ofList_values (window : RecentWindow) :
    ofList window.values = window := by
  obtain ⟨values, hbounded⟩ := window
  simp [ofList, Nat.sub_eq_zero_of_le hbounded]

end RecentWindow

-- =================================================================== records

/-- `_ProviderRecord`. -/
structure ProviderRecord (F : Type u) where
  providerName : String
  state : ProviderHealthState
  successCount : Int
  failureCount : Int
  timeoutCount : Int
  unresponsiveCount : Int
  successStreak : Int
  failureStreak : Int
  probeFailureStreak : Int
  /-- `True` for a failed attempt. -/
  recent : RecentWindow
  latencySum : F
  latencyCount : Int
  lastSuccessAt : Option Datetime
  lastFailureAt : Option Datetime
  cooldownUntil : Option Datetime
  updatedAt : Datetime
deriving DecidableEq

/-- `ProviderHealthSnapshot`. -/
structure ProviderHealthSnapshot (F : Type u) where
  providerName : String
  state : ProviderHealthState
  successCount : Int
  failureCount : Int
  timeoutCount : Int
  unresponsiveCount : Int
  recentFailureRate : F
  averageLatency : F
  lastSuccessAt : Option Datetime
  lastFailureAt : Option Datetime
  updatedAt : Datetime
deriving DecidableEq

/-- `ProviderHealthUpdate`. -/
structure ProviderHealthUpdate (F : Type u) where
  providerName : String
  previousState : ProviderHealthState
  state : ProviderHealthState
  changed : Bool
  reason : String
  snapshot : ProviderHealthSnapshot F
deriving DecidableEq

variable {F : Type u} [PyFloat F]

namespace ProviderRecord

/-- `_ProviderRecord(provider_name=...)`. -/
def new (providerName : String) (now : Datetime) : ProviderRecord F where
  providerName := providerName
  state := .unknown
  successCount := 0
  failureCount := 0
  timeoutCount := 0
  unresponsiveCount := 0
  successStreak := 0
  failureStreak := 0
  probeFailureStreak := 0
  recent := .empty
  latencySum := 0
  latencyCount := 0
  lastSuccessAt := none
  lastFailureAt := none
  cooldownUntil := none
  updatedAt := now

def snapshot (record : ProviderRecord F) : ProviderHealthSnapshot F :=
  let window := record.recent.values.length
  let recentFailures := record.recent.values.count true
  { providerName := record.providerName
    state := record.state
    successCount := record.successCount
    failureCount := record.failureCount
    timeoutCount := record.timeoutCount
    unresponsiveCount := record.unresponsiveCount
    recentFailureRate :=
      if window = 0 then 0
      else ((recentFailures : Int) : F) / ((window : Int) : F)
    averageLatency :=
      if record.latencyCount = 0 then 0
      else record.latencySum / (record.latencyCount : F)
    lastSuccessAt := record.lastSuccessAt
    lastFailureAt := record.lastFailureAt
    updatedAt := record.updatedAt }

/-- `_update`. -/
def update (record : ProviderRecord F) (previous : ProviderHealthState)
    (reason : String) : ProviderHealthUpdate F where
  providerName := record.providerName
  previousState := previous
  state := record.state
  changed := previous ≠ record.state
  reason := reason
  snapshot := record.snapshot

/-- A latency counts where it is positive. -/
def addLatency (record : ProviderRecord F) (latency : F) :
    ProviderRecord F :=
  if 0 < latency then
    { record with
      latencySum := record.latencySum + latency
      latencyCount := record.latencyCount + 1 }
  else record

/-- What `record_success` writes before it decides the state. -/
def countSuccess (record : ProviderRecord F) (latency : F)
    (now : Datetime) : ProviderRecord F :=
  addLatency
    { record with
      successCount := record.successCount + 1
      successStreak := record.successStreak + 1
      failureStreak := 0
      probeFailureStreak := 0
      recent := record.recent.append false
      lastSuccessAt := some now
      cooldownUntil := none
      updatedAt := now }
    latency

/-- What `record_failure` writes before it decides the state. -/
def countFailure (record : ProviderRecord F)
    (failureType : ProviderFailureType) (latency : F) (now : Datetime) :
    ProviderRecord F :=
  addLatency
    { record with
      failureCount := record.failureCount + 1
      failureStreak := record.failureStreak + 1
      successStreak := 0
      recent := record.recent.append true
      lastFailureAt := some now
      updatedAt := now
      timeoutCount :=
        if failureType = .timeout then record.timeoutCount + 1
        else record.timeoutCount
      unresponsiveCount :=
        if failureType.isUnresponsive then record.unresponsiveCount + 1
        else record.unresponsiveCount }
    latency

/-- Whether `expire_cooldowns` moves the record; `none` is the
`TypeError` of the comparison. -/
def due (record : ProviderRecord F) (moment : Datetime) : Option Bool :=
  match record.state, record.cooldownUntil with
  | .unavailable, some cooldownUntil => cooldownUntil.le? moment
  | _, _ => some false

def rearm (record : ProviderRecord F) (moment : Datetime) :
    ProviderRecord F :=
  { record with state := .cooldown, updatedAt := moment }

end ProviderRecord

-- =================================================================== tracker

/-- `ProviderHealthTracker`: its records, one a provider, and its
configuration. -/
@[ext]
structure ProviderHealthTracker (F : Type u) where
  records : List (ProviderRecord F)
  /-- `timedelta(seconds=cooldown_seconds)`, in microseconds. -/
  cooldown : Int
  unavailableStreak : Int
  maxProbeFailures : Int
  nodup : (records.map ProviderRecord.providerName).Nodup
deriving DecidableEq

namespace ProviderHealthTracker

/-- `ProviderHealthTracker(...)`. -/
def new (cooldown failureStreakToUnavailable maxProbeFailures : Int) :
    ProviderHealthTracker F where
  records := []
  cooldown := cooldown
  unavailableStreak := max 1 failureStreakToUnavailable
  maxProbeFailures := max 1 maxProbeFailures
  nodup := List.nodup_nil

/-- `self._records.get(provider_name)`. -/
def record? (tracker : ProviderHealthTracker F) (name : String) :
    Option (ProviderRecord F) :=
  Table.lookup ProviderRecord.providerName name tracker.records

def stateOf (tracker : ProviderHealthTracker F) (name : String) :
    ProviderHealthState :=
  (tracker.record? name).elim .unknown ProviderRecord.state

/-- `snapshot(provider_name)`; a provider without a record has the
snapshot of a new one. -/
def snapshot (tracker : ProviderHealthTracker F) (name : String)
    (now : Datetime) : ProviderHealthSnapshot F :=
  ((tracker.record? name).getD (.new name now)).snapshot

def snapshots (tracker : ProviderHealthTracker F) :
    List (ProviderHealthSnapshot F) :=
  tracker.records.map ProviderRecord.snapshot

/-- A stored record takes the values of another one. -/
def overwrite (new old : ProviderRecord F) : ProviderRecord F :=
  { new with providerName := old.providerName }

omit [PyFloat F] in
theorem overwrite_providerName (new old : ProviderRecord F) :
    (overwrite new old).providerName = old.providerName := rfl

/-- The record of a provider after it was changed in place. -/
def put (tracker : ProviderHealthTracker F) (record : ProviderRecord F) :
    ProviderHealthTracker F :=
  { tracker with
    records := Table.upsert ProviderRecord.providerName overwrite
      tracker.records record
    nodup := Table.nodup_upsert
      (fun new r _ => overwrite_providerName new r) record tracker.nodup }

/-- `self._records.setdefault(provider_name, ...)`. -/
def setdefault (tracker : ProviderHealthTracker F) (name : String)
    (now : Datetime) : ProviderRecord F :=
  (tracker.record? name).getD (.new name now)

/-- `record_success`. -/
def recordSuccess (tracker : ProviderHealthTracker F) (name : String)
    (latency : F) (now : Datetime) :
    ProviderHealthTracker F × ProviderHealthUpdate F :=
  let old := tracker.setdefault name now
  let previous := old.state
  let counted := old.countSuccess latency now
  let reason := if previous ≠ .healthy then "recovered_healthy"
    else "healthy"
  let record :=
    if consecutiveSuccessToHealthy ≤ counted.successStreak then
      { counted with state := .healthy }
    else counted
  (tracker.put record, record.update previous reason)

/-- The record of a provider that goes to `UNAVAILABLE` for a cooldown,
and whether the end of the cooldown is a date; the state is written
before the end of the cooldown is computed. -/
def cool (tracker : ProviderHealthTracker F) (record : ProviderRecord F)
    (now : Datetime) : ProviderRecord F × Bool :=
  let record := { record with state := .unavailable }
  match now.add? tracker.cooldown with
  | some cooldownUntil =>
      ({ record with cooldownUntil := some cooldownUntil }, true)
  | none => (record, false)

/-- What `record_failure` makes of the counted record: the new record,
whether it completes and the reason it gives. -/
def failedRecord (tracker : ProviderHealthTracker F)
    (previous : ProviderHealthState) (failureType : ProviderFailureType)
    (counted : ProviderRecord F) (now : Datetime) :
    (ProviderRecord F × Bool) × String :=
  if previous = .cooldown then
    let probed :=
      { counted with probeFailureStreak := counted.probeFailureStreak + 1 }
    if tracker.maxProbeFailures ≤ probed.probeFailureStreak then
      (({ probed with state := .disabledForRun, cooldownUntil := none },
        true), "probe_failures_exceeded_disabled_for_run")
    else (tracker.cool probed now, "cooldown_probe_failed")
  else if failureType = .circuitOpen
      ∨ tracker.unavailableStreak ≤ counted.failureStreak then
    (tracker.cool counted now,
      if failureType = .circuitOpen then "circuit_open_unavailable"
      else "failure_streak_unavailable")
  else if failureStreakToDegraded ≤ counted.failureStreak then
    (({ counted with state := .degraded }, true), "failure_streak_degraded")
  else ((counted, true), "failure_recorded")

/-- `record_failure`. -/
def recordFailure (tracker : ProviderHealthTracker F) (name : String)
    (failureType : ProviderFailureType) (latency : F) (now : Datetime) :
    ProviderHealthTracker F × Option (ProviderHealthUpdate F) :=
  let old := tracker.setdefault name now
  let previous := old.state
  let ((record, completed), reason) := tracker.failedRecord previous
    failureType (old.countFailure failureType latency now) now
  (tracker.put record,
    if completed then some (record.update previous reason) else none)

/-- The loop of `expire_cooldowns`. -/
def expireRecords (moment : Datetime) :
    List (ProviderRecord F) →
      List (ProviderRecord F) × Option (List (ProviderHealthUpdate F))
  | [] => ([], some [])
  | record :: records =>
      match record.due moment with
      | none => (record :: records, none)
      | some false =>
          let (rest, updates) := expireRecords moment records
          (record :: rest, updates)
      | some true =>
          let rearmed := record.rearm moment
          let (rest, updates) := expireRecords moment records
          (rearmed :: rest, updates.map
            (rearmed.update record.state "cooldown_expired_ready_to_probe"
              :: ·))

theorem expireRecords_names (moment : Datetime)
    (records : List (ProviderRecord F)) :
    (expireRecords moment records).1.map ProviderRecord.providerName
      = records.map ProviderRecord.providerName := by
  induction records with
  | nil => rfl
  | cons record records ih =>
      unfold expireRecords
      split
      · rfl
      · rw [List.map_cons, List.map_cons, ih]
      · rw [List.map_cons, List.map_cons, ih]
        rfl

/-- `expire_cooldowns`. -/
def expireCooldowns (tracker : ProviderHealthTracker F)
    (moment : Datetime) :
    ProviderHealthTracker F × Option (List (ProviderHealthUpdate F)) :=
  let expired := expireRecords moment tracker.records
  ({ tracker with
      records := expired.1
      nodup := by
        rw [expireRecords_names]
        exact tracker.nodup },
    expired.2)

end ProviderHealthTracker

-- ============================================================== the payload

/-- `_state_from_value`. -/
def stateFromValue : Json F → ProviderHealthState
  | .str "healthy" => .healthy
  | .str "degraded" => .degraded
  | .str "unavailable" => .unavailable
  | .str "cooldown" => .cooldown
  | .str "disabled_for_run" => .disabledForRun
  | _ => .unknown

/-- `_int`. -/
def int : Json F → Int
  | .int n => n
  | _ => 0

/-- `_float`. -/
def float : Json F → F
  | .int n => (n : F)
  | .float x => x
  | _ => 0

/-- `_datetime`. -/
def datetime : Json F → Option Datetime
  | .str text => if text = "" then none else Iso8601.fromisoformat text
  | _ => none

namespace ProviderRecord

/-- The `isoformat` of a time that is set. -/
def timestamp (time : Option Datetime) : Json F :=
  Json.orNull (fun time => .str time.isoformat) time

def toPayload (record : ProviderRecord F) : List (String × Json F) :=
  [("state", .str record.state.value),
    ("success_count", .int record.successCount),
    ("failure_count", .int record.failureCount),
    ("timeout_count", .int record.timeoutCount),
    ("unresponsive_count", .int record.unresponsiveCount),
    ("success_streak", .int record.successStreak),
    ("failure_streak", .int record.failureStreak),
    ("probe_failure_streak", .int record.probeFailureStreak),
    ("recent", .list (record.recent.values.map .bool)),
    ("latency_sum", .float record.latencySum),
    ("latency_count", .int record.latencyCount),
    ("last_success_at", timestamp record.lastSuccessAt),
    ("last_failure_at", timestamp record.lastFailureAt),
    ("cooldown_until", timestamp record.cooldownUntil),
    ("updated_at", .str record.updatedAt.isoformat)]

variable [DecidableEq F]

def fromPayload (providerName : String) (payload : List (String × Json F))
    (now : Datetime) : ProviderRecord F where
  providerName := providerName
  state := stateFromValue (Json.get payload "state")
  successCount := int (Json.get payload "success_count")
  failureCount := int (Json.get payload "failure_count")
  timeoutCount := int (Json.get payload "timeout_count")
  unresponsiveCount := int (Json.get payload "unresponsive_count")
  successStreak := int (Json.get payload "success_streak")
  failureStreak := int (Json.get payload "failure_streak")
  probeFailureStreak := int (Json.get payload "probe_failure_streak")
  recent :=
    match Json.get payload "recent" with
    | .list values => .ofList (values.map Json.truthy)
    | _ => .empty
  latencySum := float (Json.get payload "latency_sum")
  latencyCount := int (Json.get payload "latency_count")
  lastSuccessAt := datetime (Json.get payload "last_success_at")
  lastFailureAt := datetime (Json.get payload "last_failure_at")
  cooldownUntil := datetime (Json.get payload "cooldown_until")
  updatedAt := (datetime (Json.get payload "updated_at")).getD now

end ProviderRecord

namespace ProviderHealthTracker

def toPayload (tracker : ProviderHealthTracker F) :
    List (String × Json F) :=
  tracker.records.map fun record =>
    (record.providerName, .dict record.toPayload)

variable [DecidableEq F]

/-- `from_payload`; items that are no mappings are skipped. -/
def fromPayload (payload : List (String × Json F))
    (cooldown failureStreakToUnavailable maxProbeFailures : Int)
    (now : Datetime) : ProviderHealthTracker F :=
  payload.foldl
    (fun tracker item =>
      match item.2.mapping? with
      | some items => tracker.put (.fromPayload item.1 items now)
      | none => tracker)
    (new cooldown failureStreakToUnavailable maxProbeFailures)

end ProviderHealthTracker

-- =============================================================== operations

/-- One operation on a tracker. -/
inductive HealthOp (F : Type u)
  | recordSuccess (name : String) (latency : F) (now : Datetime)
  | recordFailure (name : String) (failureType : ProviderFailureType)
      (latency : F) (now : Datetime)
  | expireCooldowns (moment : Datetime)

/-- The tracker an operation leaves and the updates it returns, `none`
where it raises. -/
def ProviderHealthTracker.apply (tracker : ProviderHealthTracker F) :
    HealthOp F →
      ProviderHealthTracker F × Option (List (ProviderHealthUpdate F))
  | .recordSuccess name latency now =>
      let (after, update) := tracker.recordSuccess name latency now
      (after, some [update])
  | .recordFailure name failureType latency now =>
      let (after, update) := tracker.recordFailure name failureType latency
        now
      (after, update.map fun update => [update])
  | .expireCooldowns moment => tracker.expireCooldowns moment

end DeepResearch.Search
