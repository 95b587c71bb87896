/-
The gaps a recovery attempt closed and the gaps it left.

The evaluation puts every event of the attempt into one of two sets, and
takes nothing out again. An event is found in the set its status belongs
to (`mem_gapIds_of_row`), so each set has the gaps that ever were in it
(`mem_closedGapIds`, `mem_remainingGapIds`): a gap that was left open and
closed later is in both.
-/
import DeepResearch.Run.RecoveryMeasurement

namespace DeepResearch.Run

/-- `after_status`, as the evaluation reads it. -/
def RecoveryLogEvent.closureStatus (event : RecoveryLogEvent) : String :=
  event.afterStatus.getD "open"

/-- A closed gap was partially closed before, and that one open. -/
def closureRank (status : String) : Nat :=
  if status = "closed" then 2 else if status = "partial" then 1 else 0

/-- The status of a gap never goes back. -/
def MonotonePerGap (rows : List RecoveryLogEvent) : Prop :=
  rows.Pairwise fun event later => event.gapId = later.gapId →
    closureRank event.closureStatus ≤ closureRank later.closureStatus

instance (rows : List RecoveryLogEvent) : Decidable (MonotonePerGap rows) :=
  inferInstanceAs (Decidable (List.Pairwise _ rows))

/-- The status of a gap in the last event that names it. -/
def latestStatus (rows : List RecoveryLogEvent) (gapId : String) :
    Option String :=
  ((rows.filter (·.gapId = some gapId)).getLast?).map (·.closureStatus)

namespace RecoveryState

/-- No closure event of the attempt names an evaluation by its UUID. -/
def unevaluated (s : RecoveryState) (attemptId : AttemptId) : Bool :=
  ((s.closureRows attemptId).filterMap (·.evaluationUuid)).isEmpty

section

variable {rows : List RecoveryLogEvent} {p : String → Bool}
  {gapId : String} {terminal : RecoveryTerminal} {s : RecoveryState}

/-- An event puts its gap into the set its status belongs to. -/
theorem mem_gapIds :
    gapId ∈ gapIds rows p
      ↔ ∃ row ∈ rows, row.gapId = some gapId
        ∧ p row.closureStatus = true := by
  unfold gapIds
  simp only [List.mem_filterMap, List.mem_filter]
  constructor
  · rintro ⟨row, ⟨hrow, hstatus⟩, hgap⟩
    exact ⟨row, hrow, hgap, hstatus⟩
  · rintro ⟨row, hrow, hgap, hstatus⟩
    exact ⟨row, ⟨hrow, hstatus⟩, hgap⟩

theorem mem_sortedSet {ids : List String} :
    gapId ∈ sortedSet ids ↔ gapId ∈ ids := by
  unfold sortedSet
  rw [List.mem_insertionSort, List.mem_dedup]

/-- A closed gap was closed by one of the events. -/
theorem mem_closedGapIds :
    gapId ∈ (s.recoveryFigures terminal).closedGapIds
      ↔ ∃ row ∈ s.closureRows terminal.attemptId,
        row.gapId = some gapId ∧ row.closureStatus = "closed" := by
  have hmem : gapId ∈ (s.recoveryFigures terminal).closedGapIds
      ↔ gapId ∈ gapIds (s.closureRows terminal.attemptId)
        (· = "closed") := mem_sortedSet
  rw [hmem, mem_gapIds]
  simp only [decide_eq_true_eq]

/-- The reversals that keep the order of first appearance lose none. -/
theorem unevaluated_iff :
    (s.closureEvaluationIds terminal.attemptId).isEmpty
      = s.unevaluated terminal.attemptId := by
  unfold unevaluated closureEvaluationIds
  rw [Bool.eq_iff_iff]
  simp [List.isEmpty_iff, List.dedup_eq_nil]

/-- A gap that remains was left by one of the events, or is listed where
nothing was evaluated. -/
theorem mem_remainingGapIds :
    gapId ∈ (s.recoveryFigures terminal).remainingGapIds
      ↔ (∃ row ∈ s.closureRows terminal.attemptId,
          row.gapId = some gapId ∧ row.closureStatus ≠ "closed")
        ∨ s.unevaluated terminal.attemptId = true
          ∧ gapId ∈ terminal.gapAfter := by
  have hmem : gapId ∈ (s.recoveryFigures terminal).remainingGapIds
      ↔ gapId ∈ gapIds (s.closureRows terminal.attemptId) (· ≠ "closed")
        ++ if s.unevaluated terminal.attemptId then terminal.gapAfter
          else [] := by
    rw [← unevaluated_iff]
    exact mem_sortedSet
  rw [hmem, List.mem_append, mem_gapIds]
  simp only [decide_eq_true_eq]
  split
  case isTrue h => simp [h]
  case isFalse h => simp [h]

/-- A gap with a latest status has an event that says so. -/
theorem row_of_latestStatus {status : String}
    (h : latestStatus rows gapId = some status) :
    ∃ row ∈ rows, row.gapId = some gapId ∧ row.closureStatus = status := by
  unfold latestStatus at h
  obtain ⟨row, hrow, hstatus⟩ := Option.map_eq_some_iff.mp h
  have hmem := List.mem_of_getLast? hrow
  obtain ⟨hrows, hgap⟩ := List.mem_filter.mp hmem
  exact ⟨row, hrows, by simpa using hgap, hstatus⟩

end

/-- The closed and the remaining gaps are disjoint, and every gap is in
the set of its latest status. -/
structure GapsSeparated (terminal : RecoveryTerminal) (s : RecoveryState) :
    Prop where
  disjoint : ∀ gapId ∈ (s.recoveryFigures terminal).closedGapIds,
    gapId ∉ (s.recoveryFigures terminal).remainingGapIds
  latest : ∀ gapId status,
    latestStatus (s.closureRows terminal.attemptId) gapId = some status →
    if status = "closed" then
      gapId ∈ (s.recoveryFigures terminal).closedGapIds
    else gapId ∈ (s.recoveryFigures terminal).remainingGapIds

/-- No gap the attempt closed was left open or partially closed by
another of its events, and none is listed as left where no evaluation
was recorded. -/
structure ClosedAtOnce (terminal : RecoveryTerminal) (s : RecoveryState) :
    Prop where
  steady : ∀ row ∈ s.closureRows terminal.attemptId,
    ∀ other ∈ s.closureRows terminal.attemptId, row.gapId ≠ none →
    row.gapId = other.gapId → row.closureStatus = "closed" →
      other.closureStatus = "closed"
  unlisted : s.unevaluated terminal.attemptId = true →
    ∀ row ∈ s.closureRows terminal.attemptId,
      row.closureStatus = "closed" →
      ∀ gapId ∈ row.gapId, gapId ∉ terminal.gapAfter

/-- Every gap is in the set of its latest status, whatever else it is
in. -/
theorem mem_of_latestStatus {terminal : RecoveryTerminal}
    {s : RecoveryState} {gapId status : String}
    (h : latestStatus (s.closureRows terminal.attemptId) gapId
      = some status) :
    if status = "closed" then
      gapId ∈ (s.recoveryFigures terminal).closedGapIds
    else gapId ∈ (s.recoveryFigures terminal).remainingGapIds := by
  obtain ⟨row, hrow, hgap, rfl⟩ := row_of_latestStatus h
  split
  case isTrue hclosed =>
    exact mem_closedGapIds.mpr ⟨row, hrow, hgap, hclosed⟩
  case isFalse hopen =>
    exact mem_remainingGapIds.mpr (.inl ⟨row, hrow, hgap, hopen⟩)

section

variable {terminal : RecoveryTerminal} {s : RecoveryState}

/-- A gap with two statuses is in both sets. -/
theorem GapsSeparated.closedAtOnce (h : GapsSeparated terminal s) :
    ClosedAtOnce terminal s := by
  constructor
  · intro row hrow other hother hgap hsame hclosed
    obtain ⟨gapId, hgapId⟩ := Option.ne_none_iff_exists'.mp hgap
    by_contra hopen
    refine h.disjoint gapId
      (mem_closedGapIds.mpr ⟨row, hrow, hgapId, hclosed⟩)
      (mem_remainingGapIds.mpr (.inl ⟨other, hother, ?_, hopen⟩))
    rw [← hsame, hgapId]
  · intro hunevaluated row hrow hclosed gapId hgapId hlisted
    exact h.disjoint gapId
      (mem_closedGapIds.mpr ⟨row, hrow, hgapId, hclosed⟩)
      (mem_remainingGapIds.mpr (.inr ⟨hunevaluated, hlisted⟩))

/-- A gap with one status is in one set. -/
theorem ClosedAtOnce.gapsSeparated (h : ClosedAtOnce terminal s) :
    GapsSeparated terminal s := by
  refine ⟨fun gapId hgap hremaining => ?_,
    fun gapId status hlatest => mem_of_latestStatus hlatest⟩
  obtain ⟨row, hrow, hgapId, hclosed⟩ := mem_closedGapIds.mp hgap
  rcases mem_remainingGapIds.mp hremaining with
    ⟨other, hother, hotherId, hopen⟩ | ⟨hunevaluated, hlisted⟩
  · refine hopen (h.steady row hrow other hother ?_ ?_ hclosed)
    · rw [hgapId]
      exact Option.some_ne_none gapId
    · rw [hgapId, hotherId]
  · exact h.unlisted hunevaluated row hrow hclosed gapId hgapId hlisted

end

/-- The sets are separated exactly when every gap is closed at once. -/
theorem gaps_separated_iff (terminal : RecoveryTerminal)
    (s : RecoveryState) :
    GapsSeparated terminal s ↔ ClosedAtOnce terminal s :=
  ⟨GapsSeparated.closedAtOnce, ClosedAtOnce.gapsSeparated⟩

/-- A gap that an attempt leaves open at first and then closes. -/
def closedLaterSample : RecoveryState :=
  recoverySystem.exec {}
    [.recordStarted
      { attemptId := 7, questionId := "q1", planVersion := 1
        coverageBefore := 0 },
    .appendEvent
      { eventType := "gap.closure.transition", questionId := some "q1"
        evaluationId := some "6f1c2f0e-9a51-4c1b-8f5e-0d2f6a7b3c41"
        gapId := some "g1", afterStatus := some "partial" },
    .appendEvent
      { eventType := "gap.closure.completed", questionId := some "q1"
        evaluationId := some "b7e0a3d4-52c8-4e6f-9b1a-3c5d7e9f1a2b"
        gapId := some "g1", afterStatus := some "closed" }]

theorem closed_gap_remains :
    ¬ ∀ (terminal : RecoveryTerminal) (s : RecoveryState),
      MonotonePerGap (s.closureRows terminal.attemptId) →
      GapsSeparated terminal s := by
  intro h
  have hsteady := (h
    { attemptId := 7, questionId := "q1", coverageBefore := 0 }
    closedLaterSample (by decide +kernel)).closedAtOnce.steady
  exact absurd hsteady (by decide +kernel)

end RecoveryState

end DeepResearch.Run
