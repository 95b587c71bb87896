/-
What each operation on the provider health does to each record: the
provider it names gets a new record, every other one keeps its own; the
end of the cooldowns moves a record to `COOLDOWN` or leaves it alone.
-/
import DeepResearch.Search.ProviderRouter

namespace DeepResearch.Search

open Iso8601 (Datetime)

universe u

variable {F : Type u}

-- ================================================================ the lookups

namespace ProviderHealthTracker

variable {tracker : ProviderHealthTracker F} {name : String}

/-- A record is found under its own name. -/
theorem providerName_of_record? {record : ProviderRecord F}
    (h : tracker.record? name = some record) : record.providerName = name :=
  (Table.mem_of_lookup h).2

/-- The changed record is found under its name, every other lookup is
as before. -/
theorem record?_put (record : ProviderRecord F) (name : String) :
    (tracker.put record).record? name
      = if record.providerName = name then some record
        else tracker.record? name := by
  show Table.lookup _ _ (Table.upsert _ _ _ _) = _
  rw [Table.lookup_upsert fun new r _ => overwrite_providerName new r]
  split
  · rename_i hname
    cases hold : Table.lookup ProviderRecord.providerName name
        tracker.records with
    | none => rfl
    | some old =>
        have hold' := (Table.mem_of_lookup hold).2
        show some (overwrite record old) = _
        rw [overwrite, hold', ← hname]
  · rfl

-- =============================================================== the cooling

@[simp] theorem cool_providerName (record : ProviderRecord F)
    (now : Datetime) :
    (tracker.cool record now).1.providerName = record.providerName := by
  unfold cool
  dsimp only
  split <;> rfl

@[simp] theorem cool_failureCount (record : ProviderRecord F)
    (now : Datetime) :
    (tracker.cool record now).1.failureCount = record.failureCount := by
  unfold cool
  dsimp only
  split <;> rfl

@[simp] theorem cool_failureStreak (record : ProviderRecord F)
    (now : Datetime) :
    (tracker.cool record now).1.failureStreak = record.failureStreak := by
  unfold cool
  dsimp only
  split <;> rfl

@[simp] theorem cool_state (record : ProviderRecord F) (now : Datetime) :
    (tracker.cool record now).1.state = .unavailable := by
  unfold cool
  dsimp only
  split <;> rfl

@[simp] theorem cool_successStreak (record : ProviderRecord F)
    (now : Datetime) :
    (tracker.cool record now).1.successStreak = record.successStreak := by
  unfold cool
  dsimp only
  split <;> rfl

-- ================================================== the state after a failure

section

variable (tracker) (previous : ProviderHealthState)
  (failureType : ProviderFailureType) (counted : ProviderRecord F)
  (now : Datetime)

/-- The state of a failed provider is decided after its figures are
counted. -/
theorem failedRecord_fields :
    let record := (tracker.failedRecord previous failureType counted now).1.1
    record.providerName = counted.providerName
      ∧ record.failureCount = counted.failureCount
      ∧ record.failureStreak = counted.failureStreak
      ∧ record.successStreak = counted.successStreak := by
  unfold failedRecord
  dsimp only
  split
  · split
    · exact ⟨rfl, rfl, rfl, rfl⟩
    · simp
  · split
    · simp
    · split
      · exact ⟨rfl, rfl, rfl, rfl⟩
      · exact ⟨rfl, rfl, rfl, rfl⟩

variable {failureType}

/-- An open circuit leaves the provider blocked, after a probe as at any
other time. -/
theorem failedRecord_circuitOpen (hopen : failureType = .circuitOpen) :
    (tracker.failedRecord previous failureType counted now).1.1.state.isBlocked
      = true := by
  unfold failedRecord
  by_cases hprobe : previous = .cooldown
  · rw [if_pos hprobe]
    dsimp only
    split
    · rfl
    · rw [cool_state]
      rfl
  · rw [if_neg hprobe, if_pos (.inl hopen), cool_state]
    rfl

variable {previous} (failureType)

/-- Any failure of a provider that was not probed makes it degraded or
unavailable, whatever it was before. -/
theorem failedRecord_not_probed (hprevious : previous ≠ .cooldown)
    (hstreak : 1 ≤ counted.failureStreak) :
    (tracker.failedRecord previous failureType counted now).1.1.state
        = .unavailable
      ∨ (tracker.failedRecord previous failureType counted now).1.1.state
        = .degraded := by
  unfold failedRecord
  rw [if_neg hprevious]
  split
  · exact .inl (cool_state _ _)
  · rw [if_pos (show failureStreakToDegraded ≤ _ from hstreak)]
    exact .inr rfl

end

-- ===================================================== the end of a cooldown

/-- A record after the cooldowns that are over at `moment` ended. -/
inductive Expires (moment : Datetime) :
    ProviderRecord F → ProviderRecord F → Prop
  | kept (record : ProviderRecord F) : Expires moment record record
  | rearmed {record : ProviderRecord F}
      (hdue : record.due moment = some true) :
      Expires moment record (record.rearm moment)

/-- An expiry leaves the name. -/
theorem Expires.providerName {moment : Datetime}
    {before after : ProviderRecord F} (h : Expires moment before after) :
    after.providerName = before.providerName := by
  cases h <;> rfl

/-- The end of a cooldown counts nothing. -/
theorem Expires.failureCount {moment : Datetime}
    {before after : ProviderRecord F} (h : Expires moment before after) :
    after.failureCount = before.failureCount := by
  cases h <;> rfl

/-- Only an unavailable provider is rearmed. -/
theorem Expires.eq_of_state {moment : Datetime}
    {before after : ProviderRecord F} (h : Expires moment before after)
    (hstate : before.state ≠ .unavailable) : after = before := by
  cases h with
  | kept => rfl
  | rearmed hdue =>
      unfold ProviderRecord.due at hdue
      split at hdue
      · contradiction
      · cases hdue

end ProviderHealthTracker

variable [PyFloat F]

-- =============================================================== one record

namespace ProviderRecord

@[simp] theorem addLatency_providerName (record : ProviderRecord F)
    (latency : F) :
    (record.addLatency latency).providerName = record.providerName := by
  unfold addLatency
  split <;> rfl

@[simp] theorem addLatency_failureCount (record : ProviderRecord F)
    (latency : F) :
    (record.addLatency latency).failureCount = record.failureCount := by
  unfold addLatency
  split <;> rfl

@[simp] theorem addLatency_failureStreak (record : ProviderRecord F)
    (latency : F) :
    (record.addLatency latency).failureStreak = record.failureStreak := by
  unfold addLatency
  split <;> rfl

@[simp] theorem addLatency_successStreak (record : ProviderRecord F)
    (latency : F) :
    (record.addLatency latency).successStreak = record.successStreak := by
  unfold addLatency
  split <;> rfl

variable (record : ProviderRecord F) (failureType : ProviderFailureType)
  (latency : F) (now : Datetime)

@[simp] theorem countFailure_providerName :
    (record.countFailure failureType latency now).providerName
      = record.providerName := by
  simp [countFailure]

@[simp] theorem countFailure_failureCount :
    (record.countFailure failureType latency now).failureCount
      = record.failureCount + 1 := by
  simp [countFailure]

@[simp] theorem countFailure_failureStreak :
    (record.countFailure failureType latency now).failureStreak
      = record.failureStreak + 1 := by
  simp [countFailure]

@[simp] theorem countSuccess_providerName :
    (record.countSuccess latency now).providerName
      = record.providerName := by
  simp [countSuccess]

@[simp] theorem countFailure_successStreak :
    (record.countFailure failureType latency now).successStreak = 0 := by
  simp [countFailure]

@[simp] theorem countSuccess_successStreak :
    (record.countSuccess latency now).successStreak
      = record.successStreak + 1 := by
  simp [countSuccess]

@[simp] theorem countSuccess_failureStreak :
    (record.countSuccess latency now).failureStreak = 0 := by
  simp [countSuccess]

end ProviderRecord

namespace ProviderHealthTracker

variable {tracker : ProviderHealthTracker F} {name : String}

/-- A new record has the name it was asked for. -/
theorem setdefault_providerName (now : Datetime) :
    (tracker.setdefault name now).providerName = name := by
  unfold setdefault
  cases hold : tracker.record? name with
  | none => rfl
  | some old => exact providerName_of_record? hold

-- ================================================================= a failure

/-- The record a failure leaves under the name. -/
def failed (tracker : ProviderHealthTracker F) (name : String)
    (failureType : ProviderFailureType) (latency : F) (now : Datetime) :
    ProviderRecord F :=
  (tracker.failedRecord (tracker.setdefault name now).state failureType
    ((tracker.setdefault name now).countFailure failureType latency now)
    now).1.1

/-- What a failure leaves in the record. -/
theorem failed_fields (tracker : ProviderHealthTracker F) (name : String)
    (failureType : ProviderFailureType) (latency : F) (now : Datetime) :
    (tracker.failed name failureType latency now).providerName = name
      ∧ (tracker.failed name failureType latency now).failureCount
        = (tracker.setdefault name now).failureCount + 1
      ∧ (tracker.failed name failureType latency now).failureStreak
        = (tracker.setdefault name now).failureStreak + 1
      ∧ (tracker.failed name failureType latency now).successStreak
        = 0 := by
  obtain ⟨hname, hcount, hstreak, hsuccess⟩ := tracker.failedRecord_fields
    (tracker.setdefault name now).state failureType
    ((tracker.setdefault name now).countFailure failureType latency now) now
  refine ⟨hname.trans ?_, hcount.trans ?_, hstreak.trans ?_,
    hsuccess.trans ?_⟩
  · rw [ProviderRecord.countFailure_providerName, setdefault_providerName]
  · exact ProviderRecord.countFailure_failureCount ..
  · exact ProviderRecord.countFailure_failureStreak ..
  · exact ProviderRecord.countFailure_successStreak ..

/-- A failure writes the record of its provider and no other. -/
theorem record?_recordFailure (failureType : ProviderFailureType)
    (latency : F) (now : Datetime) (other : String) :
    (tracker.recordFailure name failureType latency now).1.record? other
      = if name = other then
          some (tracker.failed name failureType latency now)
        else tracker.record? other := by
  show (tracker.put (tracker.failed name failureType latency now)).record?
    other = _
  rw [record?_put, (failed_fields tracker name failureType latency now).1]

-- ================================================================= a success

/-- The record a success leaves under the name. -/
def succeeded (tracker : ProviderHealthTracker F) (name : String)
    (latency : F) (now : Datetime) : ProviderRecord F :=
  let counted := (tracker.setdefault name now).countSuccess latency now
  if consecutiveSuccessToHealthy ≤ counted.successStreak then
    { counted with state := .healthy }
  else counted

/-- What a success leaves in the record. -/
theorem succeeded_fields (tracker : ProviderHealthTracker F)
    (name : String) (latency : F) (now : Datetime) :
    (tracker.succeeded name latency now).providerName = name
      ∧ (tracker.succeeded name latency now).failureStreak = 0
      ∧ (tracker.succeeded name latency now).successStreak
        = (tracker.setdefault name now).successStreak + 1 := by
  unfold succeeded
  dsimp only
  split
  · simp [setdefault_providerName]
  · simp [setdefault_providerName]

/-- After a success a provider is healthy. -/
theorem succeeded_state (latency : F) (now : Datetime)
    (h : 0 ≤ (tracker.setdefault name now).successStreak) :
    (tracker.succeeded name latency now).state = .healthy := by
  unfold succeeded
  dsimp only
  rw [if_pos]
  rw [ProviderRecord.countSuccess_successStreak]
  show 1 ≤ _
  omega

/-- A success writes the record of its provider and no other. -/
theorem record?_recordSuccess (latency : F) (now : Datetime)
    (other : String) :
    (tracker.recordSuccess name latency now).1.record? other
      = if name = other then some (tracker.succeeded name latency now)
        else tracker.record? other := by
  show (tracker.put (tracker.succeeded name latency now)).record? other = _
  rw [record?_put, (succeeded_fields tracker name latency now).1]

-- ============================================================= the cooldowns

/-- The expiry goes through the records in their places. -/
theorem forall₂_expireRecords (moment : Datetime)
    (records : List (ProviderRecord F)) :
    List.Forall₂ (Expires moment) records
      (expireRecords moment records).1 := by
  induction records with
  | nil => exact .nil
  | cons record records ih =>
      unfold expireRecords
      split
      · exact List.forall₂_same.mpr fun record _ => .kept record
      · exact .cons (.kept _) ih
      · exact .cons (.rearmed ‹_›) ih

/-- Ending the cooldowns ends some of them, and does nothing else to any
record. -/
theorem record?_expireCooldowns (tracker : ProviderHealthTracker F)
    (moment : Datetime) (name : String) :
    Option.Rel (Expires moment) (tracker.record? name)
      ((tracker.expireCooldowns moment).1.record? name) :=
  Table.lookup_forall₂ (fun _ _ h => h.providerName)
    (forall₂_expireRecords moment tracker.records)

-- ============================================================== the failures

omit [PyFloat F] in
/-- The failures on record. -/
def failures (tracker : ProviderHealthTracker F) (name : String) : Int :=
  (tracker.record? name).elim 0 ProviderRecord.failureCount

/-- The failures of a provider are those of its record, and none without
one. -/
theorem setdefault_failureCount (tracker : ProviderHealthTracker F)
    (name : String) (now : Datetime) :
    (tracker.setdefault name now).failureCount = tracker.failures name := by
  unfold setdefault failures
  cases tracker.record? name <;> rfl

/-- The end of a cooldown forgets no failure. -/
theorem failures_expireCooldowns (tracker : ProviderHealthTracker F)
    (moment : Datetime) (name : String) :
    (tracker.expireCooldowns moment).1.failures name
      = tracker.failures name := by
  have hrel := tracker.record?_expireCooldowns moment name
  unfold failures
  generalize (tracker.expireCooldowns moment).1.record? name = expired
    at hrel ⊢
  generalize tracker.record? name = record at hrel ⊢
  cases hrel with
  | none => rfl
  | some hexpires => exact hexpires.failureCount

/-- Every failure is counted once, at its provider. -/
theorem failures_recordFailure (tracker : ProviderHealthTracker F)
    (name : String) (failureType : ProviderFailureType) (latency : F)
    (now : Datetime) (other : String) :
    (tracker.recordFailure name failureType latency now).1.failures other
      = tracker.failures other + if other = name then 1 else 0 := by
  unfold failures
  rw [record?_recordFailure]
  by_cases hname : name = other
  · subst hname
    rw [if_pos rfl, if_pos rfl, Option.elim_some,
      (tracker.failed_fields name failureType latency now).2.1,
      setdefault_failureCount]
    rfl
  · rw [if_neg hname, if_neg (Ne.symm hname), add_zero]

end ProviderHealthTracker

end DeepResearch.Search
