/-
Storing the health of the providers between two attempts is invisible.

A record is read back from its payload with every field
(`ProviderRecord.fromPayload_toPayload`): the counters as integers, the
window because it is never longer than what is read, the times through
`fromisoformat_isoformat`. A tracker is read back with every record, in
the same order, under its own configuration (`fromPayload_toPayload`), and
no operation changes the configuration. So a run with payload round trips
anywhere in it is the run without them.
-/
import DeepResearch.Search.ProviderHealth

namespace DeepResearch.Search

open Iso8601 (Datetime)

universe u

variable {F : Type u} [PyFloat F] [DecidableEq F]

-- =================================================================== records

omit [PyFloat F] [DecidableEq F] in
theorem stateFromValue_value (state : ProviderHealthState) :
    stateFromValue (.str state.value : Json F) = state := by
  cases state <;> rfl

omit [PyFloat F] [DecidableEq F] in
theorem datetime_isoformat (time : Datetime) :
    datetime (.str time.isoformat : Json F) = some time := by
  have hread := Iso8601.fromisoformat_isoformat time
  have hne : time.isoformat ≠ "" := by
    intro h
    rw [h] at hread
    cases hread
  rw [datetime, if_neg hne, hread]

omit [PyFloat F] [DecidableEq F] in
theorem datetime_timestamp (time : Option Datetime) :
    datetime (ProviderRecord.timestamp time : Json F) = time := by
  cases time with
  | none => rfl
  | some time => exact datetime_isoformat time

theorem truthy_comp_bool (values : List Bool) :
    values.map (Json.truthy ∘ Json.bool (F := F)) = values :=
  List.map_id values

/-- Every field of a record survives. -/
theorem ProviderRecord.fromPayload_toPayload (record : ProviderRecord F)
    (now : Datetime) :
    fromPayload record.providerName record.toPayload now = record := by
  unfold fromPayload toPayload
  simp [Json.get, Json.find?_cons, stateFromValue_value, datetime_timestamp,
    datetime_isoformat, int, float, truthy_comp_bool,
    RecentWindow.ofList_values]

-- ================================================================== trackers

namespace ProviderHealthTracker

omit [PyFloat F] [DecidableEq F] in
/-- A provider without a record gets one at the end. -/
theorem records_put_new {tracker : ProviderHealthTracker F}
    {record : ProviderRecord F}
    (h : record.providerName
      ∉ tracker.records.map ProviderRecord.providerName) :
    (tracker.put record).records = tracker.records ++ [record] := by
  have hnone : Table.lookup ProviderRecord.providerName
      record.providerName tracker.records = none := by
    rw [Table.lookup_eq_none_iff]
    intro r hr heq
    exact h (heq ▸ List.mem_map_of_mem hr)
  show Table.upsert _ _ _ _ = _
  rw [Table.upsert, hnone]
  rfl

/-- One step of `from_payload`. -/
def readItem (now : Datetime) (tracker : ProviderHealthTracker F)
    (item : String × Json F) : ProviderHealthTracker F :=
  match item.2.mapping? with
  | some items => tracker.put (.fromPayload item.1 items now)
  | none => tracker

/-- The records are read back in their order, behind those already
read. -/
theorem foldl_readItem (now : Datetime) (records : List (ProviderRecord F))
    (tracker : ProviderHealthTracker F)
    (hnodup : ((tracker.records ++ records).map
      ProviderRecord.providerName).Nodup) :
    let read := (records.map fun record =>
      (record.providerName, Json.dict record.toPayload)).foldl
        (readItem now) tracker
    read.records = tracker.records ++ records
      ∧ read.cooldown = tracker.cooldown
      ∧ read.unavailableStreak = tracker.unavailableStreak
      ∧ read.maxProbeFailures = tracker.maxProbeFailures := by
  induction records generalizing tracker with
  | nil => exact ⟨(List.append_nil _).symm, rfl, rfl, rfl⟩
  | cons record records ih =>
      have hread : readItem now tracker
          (record.providerName, Json.dict record.toPayload)
            = tracker.put record := by
        show tracker.put (.fromPayload record.providerName
          record.toPayload now) = _
        rw [ProviderRecord.fromPayload_toPayload]
      have hnew : record.providerName
          ∉ tracker.records.map ProviderRecord.providerName := by
        rw [List.map_append, List.nodup_append] at hnodup
        intro hmem
        exact hnodup.2.2 _ hmem _ (List.mem_cons_self ..) rfl
      have hput := records_put_new hnew
      rw [List.append_cons, ← hput] at hnodup
      have h := ih (tracker.put record) hnodup
      rw [List.map_cons, List.foldl_cons, hread]
      rw [hput, ← List.append_cons] at h
      exact h

/-- A tracker is read back under its own configuration. -/
theorem fromPayload_toPayload (tracker : ProviderHealthTracker F)
    {cooldown streak probes : Int} (hcooldown : tracker.cooldown = cooldown)
    (hstreak : tracker.unavailableStreak = max 1 streak)
    (hprobes : tracker.maxProbeFailures = max 1 probes) (now : Datetime) :
    fromPayload tracker.toPayload cooldown streak probes now = tracker := by
  obtain ⟨hrecords, hcool, hstr, hprobe⟩ := foldl_readItem now
    tracker.records (new cooldown streak probes) tracker.nodup
  exact ProviderHealthTracker.ext hrecords (hcool.trans hcooldown.symm)
    (hstr.trans hstreak.symm) (hprobe.trans hprobes.symm)

omit [DecidableEq F] in
/-- No operation changes the configuration. -/
theorem apply_config (tracker : ProviderHealthTracker F) (op : HealthOp F) :
    (tracker.apply op).1.cooldown = tracker.cooldown
      ∧ (tracker.apply op).1.unavailableStreak = tracker.unavailableStreak
      ∧ (tracker.apply op).1.maxProbeFailures = tracker.maxProbeFailures := by
  cases op with
  | recordSuccess name latency now => exact ⟨rfl, rfl, rfl⟩
  | recordFailure name failureType latency now => exact ⟨rfl, rfl, rfl⟩
  | expireCooldowns moment => exact ⟨rfl, rfl, rfl⟩

-- ====================================================== runs with round trips

/-- A step of a run: an operation, or the end of an attempt, where the
health is stored and read back by the next one. -/
inductive StoredStep (F : Type u)
  | operation (op : HealthOp F)
  | store (now : Datetime)

def StoredStep.isOperation : StoredStep F → Bool
  | .operation _ => true
  | .store _ => false

/-- The tracker a run leaves and what its operations return. -/
def run (cooldown streak probes : Int) :
    ProviderHealthTracker F → List (StoredStep F) →
      ProviderHealthTracker F × List (Option (List (ProviderHealthUpdate F)))
  | tracker, [] => (tracker, [])
  | tracker, .operation op :: steps =>
      let (after, updates) := tracker.apply op
      let (last, outputs) := run cooldown streak probes after steps
      (last, updates :: outputs)
  | tracker, .store now :: steps =>
      run cooldown streak probes
        (fromPayload tracker.toPayload cooldown streak probes now) steps

/-- The configuration the tracker of a run was built with. -/
def Configured (cooldown streak probes : Int)
    (tracker : ProviderHealthTracker F) : Prop :=
  tracker.cooldown = cooldown ∧ tracker.unavailableStreak = max 1 streak
    ∧ tracker.maxProbeFailures = max 1 probes

variable {cooldown streak probes : Int}

omit [DecidableEq F] in
theorem Configured.apply {tracker : ProviderHealthTracker F}
    (h : Configured cooldown streak probes tracker) (op : HealthOp F) :
    Configured cooldown streak probes (tracker.apply op).1 := by
  obtain ⟨hcooldown, hstreak, hprobes⟩ := apply_config tracker op
  exact ⟨hcooldown.trans h.1, hstreak.trans h.2.1, hprobes.trans h.2.2⟩

theorem Configured.store {tracker : ProviderHealthTracker F}
    (h : Configured cooldown streak probes tracker) (now : Datetime) :
    fromPayload tracker.toPayload cooldown streak probes now = tracker :=
  fromPayload_toPayload tracker h.1 h.2.1 h.2.2 now

/-- A run is the run of its operations, and keeps the configuration. -/
theorem Configured.run {tracker : ProviderHealthTracker F}
    (h : Configured cooldown streak probes tracker)
    (steps : List (StoredStep F)) :
    run cooldown streak probes tracker steps
        = run cooldown streak probes tracker
          (steps.filter StoredStep.isOperation)
      ∧ Configured cooldown streak probes
        (ProviderHealthTracker.run cooldown streak probes tracker
          steps).1 := by
  induction steps generalizing tracker with
  | nil => exact ⟨rfl, h⟩
  | cons step steps ih =>
      cases step with
      | operation op =>
          obtain ⟨hrun, hconfigured⟩ := ih (h.apply op)
          refine ⟨?_, hconfigured⟩
          rw [List.filter_cons_of_pos (by rfl)]
          simp only [ProviderHealthTracker.run]
          rw [hrun]
      | store now =>
          rw [List.filter_cons_of_neg (by simp [StoredStep.isOperation])]
          simp only [ProviderHealthTracker.run]
          rw [h.store now]
          exact ih h

end ProviderHealthTracker

open ProviderHealthTracker in
/-- Whatever happened to a tracker since it was built, its payload is read
back as the tracker, record by record; and a run with payload round trips
anywhere ends in the same tracker and returns the same updates as its
operations alone. -/
theorem health_payload_invisible (cooldown streak probes : Int)
    (steps : List (StoredStep F)) :
    let start : ProviderHealthTracker F := new cooldown streak probes
    let last := (run cooldown streak probes start steps).1
    (∀ now, fromPayload last.toPayload cooldown streak probes now = last)
      ∧ run cooldown streak probes start steps
        = run cooldown streak probes start
          (steps.filter StoredStep.isOperation) := by
  intro start last
  have hstart : Configured cooldown streak probes start := ⟨rfl, rfl, rfl⟩
  obtain ⟨hrun, hlast⟩ := hstart.run steps
  exact ⟨hlast.store, hrun⟩

end DeepResearch.Search
