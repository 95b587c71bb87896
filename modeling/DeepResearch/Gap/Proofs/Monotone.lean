/-
When stored closure never moves backwards.

`upsert_many` gives a stored row the status of the last requirement it
is handed for the gap, whatever the row's own status is, and counts the
state version up when the status changes. So the version half of the law
always holds, and the rank half is a statement about what the two
writers hand over.

- The evaluation of a batch starts from the stored row and goes through
  `ClosureEvaluator`, which never goes down.
- A fresh OPEN requirement is handed over where the *question* has no
  row. It goes down when the gap's row belongs to another question.
- The projection hands over CLOSED or PARTIAL, from the coverage map
  alone. It goes down when a closed gap is in the map unsatisfied.
-/
import DeepResearch.Gap.Requirements

namespace DeepResearch.Gap

open DeepResearch.Run (RunId)

variable {runId : RunId} {table : GapTable} {now : Nat}

-- =========================================================== statements

/-- Every stored status is kept or raised, and the state version is
higher where the status is another one. -/
def GapTable.Forward (earlier later : GapTable) : Prop :=
  ∀ gapId row, earlier.row gapId = some row →
    ∃ row', later.row gapId = some row'
      ∧ closureRank row.closureStatus ≤ closureRank row'.closureStatus
      ∧ row.stateVersion ≤ row'.stateVersion
      ∧ (row.closureStatus ≠ row'.closureStatus →
        row.stateVersion < row'.stateVersion)

/-- The entry of a coverage map meets the requirement that the
projection makes of it. -/
def RequirementStatus.Satisfied (claimStates : List ClaimState)
    (status : RequirementStatus) : Prop :=
  if status.requirementType claimStates = .evidenceQuality then
    1 ≤ status.acceptedEvidence.toNat
      ∧ status.verificationStatus claimStates = .verified
  else status.requiredSources.toNat ≤ status.independentSources.toNat

instance (claimStates : List ClaimState) (status : RequirementStatus) :
    Decidable (status.Satisfied claimStates) := by
  unfold RequirementStatus.Satisfied
  infer_instance

/-- The entries of a coverage map that are projected. -/
def projectedStatuses (coverageMap : List CoverageMapEntry) :
    List RequirementStatus :=
  coverageMap.flatMap fun question =>
    question.requirementStatuses.filter (·.dimensionKey ≠ "")

/-- The entry of a dimension; of several the last one counts. -/
def lastStatus (coverageMap : List CoverageMapEntry)
    (dimensionKey : String) : Option RequirementStatus :=
  ((projectedStatuses coverageMap).filter
    (·.dimensionKey = dimensionKey)).getLast?

/-- The dimensions of a coverage map that have no row. -/
def GapTable.newDimensions (table : GapTable) (runId : RunId)
    (planVersion : Nat) (coverageMap : List CoverageMapEntry) :
    List String :=
  ((projectedStatuses coverageMap).map (·.dimensionKey)).filter
    fun dimensionKey => (table.row ⟨runId, planVersion, dimensionKey⟩).isNone

/-- A write does not take back what is stored: a dimension without a row
of its question has none of another question that is not open, and a
coverage map that can be stored satisfies every closed gap it lists. -/
def GapWrite.Sustains (runId : RunId) (table : GapTable) :
    GapWrite → Prop
  | .ensure target dimensionKey _ _ =>
      table.requirementRow runId target dimensionKey = none →
        ∀ row, table.row ⟨runId, target.planVersion, dimensionKey⟩
            = some row → row.closureStatus = .gapOpen
  | .evaluate _ _ _ => True
  | .project planVersion stateVersion coverageMap claimStates _ =>
      1 ≤ planVersion → 1 ≤ stateVersion →
        (table.newDimensions runId planVersion coverageMap).Nodup →
        ∀ dimensionKey row,
          table.row ⟨runId, planVersion, dimensionKey⟩ = some row →
          row.closureStatus = .gapClosed →
          ∀ status, lastStatus coverageMap dimensionKey = some status →
            status.Satisfied claimStates

-- ============================================================= the order

theorem GapTable.Forward.refl (table : GapTable) :
    table.Forward table := by
  intro gapId row hrow
  exact ⟨row, hrow, le_refl _, le_refl _, fun hne => absurd rfl hne⟩

theorem GapTable.Forward.trans {t₁ t₂ t₃ : GapTable}
    (h₁₂ : t₁.Forward t₂) (h₂₃ : t₂.Forward t₃) : t₁.Forward t₃ := by
  intro gapId row hrow
  obtain ⟨row', hrow', hrank, hversion, hchange⟩ := h₁₂ gapId row hrow
  obtain ⟨row'', hrow'', hrank', hversion', hchange'⟩ :=
    h₂₃ gapId row' hrow'
  refine ⟨row'', hrow'', hrank.trans hrank', hversion.trans hversion', ?_⟩
  intro hne
  by_cases hfirst : row.closureStatus = row'.closureStatus
  · exact hversion.trans_lt (hchange' (fun heq => hne (hfirst.trans heq)))
  · exact (hchange hfirst).trans_le hversion'

-- ========================================================== `upsert_many`

theorem upsertRow_closureStatus (now : Nat)
    (requirement row : GapRequirement) :
    (upsertRow now requirement row).closureStatus
      = requirement.closureStatus := by
  unfold upsertRow copyToRow effective
  split <;> rfl

/-- The version of a row counts up when its status changes. -/
theorem upsertRow_stateVersion (now : Nat)
    (requirement row : GapRequirement) :
    row.stateVersion ≤ (upsertRow now requirement row).stateVersion
      ∧ (row.closureStatus ≠ requirement.closureStatus →
        row.stateVersion
          < (upsertRow now requirement row).stateVersion) := by
  unfold upsertRow copyToRow effective
  by_cases hchanged : stateChanged row requirement = true
  · simp only [if_pos hchanged]
    have hle := le_max_right requirement.stateVersion (row.stateVersion + 1)
    exact ⟨by omega, fun _ => by omega⟩
  · simp only [if_neg hchanged]
    refine ⟨le_refl _, fun hne => absurd ?_ hchanged⟩
    unfold stateChanged
    simp [hne]

/-- The version of a row over several requirements. -/
theorem foldl_upsertRow_stateVersion (now : Nat)
    (requirements : List GapRequirement) (row : GapRequirement) :
    let last := requirements.foldl (fun r new => upsertRow now new r) row
    row.stateVersion ≤ last.stateVersion
      ∧ (row.closureStatus ≠ last.closureStatus →
        row.stateVersion < last.stateVersion) := by
  induction requirements generalizing row with
  | nil => exact ⟨le_refl _, fun hne => absurd rfl hne⟩
  | cons new requirements ih =>
      obtain ⟨hversion, hchange⟩ := ih (upsertRow now new row)
      obtain ⟨hfirst, hfirst'⟩ := upsertRow_stateVersion now new row
      rw [upsertRow_closureStatus] at hchange
      rw [List.foldl_cons]
      refine ⟨hfirst.trans hversion, fun hne => ?_⟩
      by_cases heq : row.closureStatus = new.closureStatus
      · exact hfirst.trans_lt (hchange (fun h => hne (heq.trans h)))
      · exact (hfirst' heq).trans_le hversion

/-- A stored row after an upsert. -/
theorem row_upsertMany {table' : GapTable}
    {requirements : List GapRequirement}
    (h : table.upsertMany requirements now = some table') {gapId : GapId}
    {row : GapRequirement} (hrow : table.row gapId = some row) :
    table'.row gapId
      = some ((Table.newsOf (·.gapId) gapId requirements).foldl
          (fun r new => upsertRow now new r) row) := by
  unfold GapTable.upsertMany at h
  split at h
  · cases h
  · have htable := Option.some.inj h
    subst htable
    exact Table.lookup_upsertAll_of_some
      (fun new r _ => upsertRow_gapId now new r) hrow

/-- An upsert goes forward exactly when no stored row is above the last
requirement for its gap. -/
theorem forward_upsertMany_iff {table' : GapTable}
    {requirements : List GapRequirement}
    (h : table.upsertMany requirements now = some table') :
    table.Forward table'
      ↔ ∀ gapId row, table.row gapId = some row →
        ∀ last,
          (Table.newsOf (·.gapId) gapId requirements).getLast? = some last →
          closureRank row.closureStatus ≤ closureRank last.closureStatus := by
  have hstatus : ∀ gapId (row : GapRequirement),
      ((Table.newsOf (·.gapId) gapId requirements).foldl
        (fun r new => upsertRow now new r) row).closureStatus
      = (Table.newsOf (·.gapId) gapId requirements).getLast?.elim
          row.closureStatus (·.closureStatus) :=
    fun gapId row => Table.foldl_merge_last
      (upsertRow_closureStatus now) _ row
  constructor
  · intro hforward gapId row hrow last hlast
    obtain ⟨row', hrow', hrank, -⟩ := hforward gapId row hrow
    rw [row_upsertMany h hrow] at hrow'
    rw [← Option.some.inj hrow', hstatus, hlast] at hrank
    exact hrank
  · intro hlast gapId row hrow
    obtain ⟨hversion, hchange⟩ := foldl_upsertRow_stateVersion now
      (Table.newsOf (·.gapId) gapId requirements) row
    refine ⟨_, row_upsertMany h hrow, ?_, hversion, hchange⟩
    rw [hstatus]
    cases hget : (Table.newsOf (·.gapId) gapId requirements).getLast? with
    | none => exact le_refl _
    | some last => exact hlast gapId row hrow last hget

/-- One requirement is never inserted twice. -/
theorem upsertMany_singleton (table : GapTable)
    (requirement : GapRequirement) (now : Nat) :
    ∃ table', table.upsertMany [requirement] now = some table' := by
  unfold GapTable.upsertMany
  rw [if_neg]
  · exact ⟨_, rfl⟩
  · unfold GapTable.insertsTwice
    by_cases hnone : (table.row requirement.gapId).isNone
    · simp [List.filter, hnone]
    · simp [List.filter, hnone]

/-- An upsert of one requirement goes forward exactly when its row is not
above it. -/
theorem forward_upsertOne_iff {table' : GapTable}
    {requirement : GapRequirement}
    (h : table.upsertMany [requirement] now = some table') :
    table.Forward table'
      ↔ ∀ row, table.row requirement.gapId = some row →
        closureRank row.closureStatus
          ≤ closureRank requirement.closureStatus := by
  rw [forward_upsertMany_iff h]
  constructor
  · intro hall row hrow
    apply hall requirement.gapId row hrow requirement
    simp [Table.newsOf]
  · intro hone gapId row hrow last hlast
    have hmem := List.mem_of_getLast? hlast
    unfold Table.newsOf at hmem
    obtain ⟨hsingle, hkey⟩ := List.mem_filter.mp hmem
    rw [List.mem_singleton.mp hsingle] at hkey ⊢
    apply hone row
    have hid : requirement.gapId = gapId := of_decide_eq_true hkey
    rw [hid]
    exact hrow

-- ========================================================= the alignment

/-- A row found by dimension is the row of its gap id, and belongs to
the question. -/
theorem row_of_requirementRow {target : AlignmentTarget}
    {dimensionKey : String} {row : GapRequirement}
    (h : table.requirementRow runId target dimensionKey = some row) :
    table.row row.gapId = some row :=
  Table.lookup_of_mem table.nodup
    (List.mem_reverse.mp (List.mem_of_find?_eq_some h))

/-- The reasons a closure evaluation gives. -/
def closureReasons : List String :=
  ["requirement_satisfied",
    "evidence_or_verification_progress_without_closure",
    "requirement_not_satisfied", "existing_closure_state_preserved",
    "missing_independent_source", "claim_verification_required",
    "dimension_mismatch"]

/-- None of them is blank. -/
theorem strip_closureReason_ne_nil :
    ∀ reason ∈ closureReasons, Run.strip reason.toList ≠ [] := by
  unfold closureReasons
  simp only [List.forall_mem_cons]
  decide

/-- A transition that does not go down is applied, to the status it
names. -/
theorem applyClosureTransition_ok {requirement : GapRequirement}
    {status : GapClosureStatus} {reason : String} (now : Nat)
    (hreason : Run.strip reason.toList ≠ [])
    (hup : closureRank requirement.closureStatus ≤ closureRank status) :
    ∃ updated,
      requirement.applyClosureTransition status reason now = .ok updated
        ∧ updated.gapId = requirement.gapId
        ∧ updated.closureStatus = status := by
  unfold GapRequirement.applyClosureTransition
  rw [if_neg hreason, if_neg (Nat.not_lt.mpr hup)]
  by_cases hsame : status = requirement.closureStatus
  · rw [if_pos hsame]
    exact ⟨requirement, rfl, rfl, hsame.symm⟩
  · rw [if_neg hsame]
    exact ⟨_, rfl, rfl, rfl⟩

/-- The reason of an evaluation is one of them. -/
theorem evaluate_reason_mem (requirement : GapRequirement)
    (before after : ClosureSnapshot) :
    (ClosureEvaluation.evaluate requirement before after).reason
      ∈ closureReasons := by
  unfold ClosureEvaluation.evaluate closureReasons
  by_cases hsatisfied : requirementIsSatisfied requirement after = true
  · simp [hsatisfied]
  · by_cases hprogress : hasProgress before after = true
    · simp [hsatisfied, hprogress]
    · simp [hsatisfied, hprogress]

/-- So is the reason of a transition. -/
theorem transitionReason_mem (context : ClosureEvaluationContext)
    {fallback : String} (h : fallback ∈ closureReasons) :
    transitionReason context fallback ∈ closureReasons := by
  unfold transitionReason
  split
  · simp [closureReasons]
  · split
    · simp [closureReasons]
    · split
      · simp [closureReasons]
      · exact h

/-- The evaluator always answers, and never below the requirement. -/
theorem closureEvaluatorEvaluate_ok (context : ClosureEvaluationContext)
    (requirement : GapRequirement) (now : Nat) :
    ∃ updated,
      closureEvaluatorEvaluate context requirement now = .ok updated
        ∧ updated.gapId = requirement.gapId
        ∧ closureRank requirement.closureStatus
          ≤ closureRank updated.closureStatus := by
  unfold closureEvaluatorEvaluate
  by_cases hclosed : requirement.closureStatus = .gapClosed
  · rw [if_pos hclosed]
    exact ⟨requirement, rfl, rfl, le_refl _⟩
  · rw [if_neg hclosed]
    by_cases hdown : closureRank (ClosureEvaluation.evaluate requirement
        context.beforeSnapshot
        (afterSnapshot context requirement)).closureStatus
        < closureRank requirement.closureStatus
    · simp only [if_pos hdown]
      obtain ⟨updated, hok, hid, hstatus⟩ := applyClosureTransition_ok now
        (strip_closureReason_ne_nil "existing_closure_state_preserved"
          (by simp [closureReasons])) (le_refl _)
      exact ⟨updated, hok, hid, le_of_eq (by rw [hstatus])⟩
    · simp only [if_neg hdown]
      obtain ⟨updated, hok, hid, hstatus⟩ := applyClosureTransition_ok now
        (strip_closureReason_ne_nil _ (transitionReason_mem context
          (evaluate_reason_mem requirement context.beforeSnapshot
            (afterSnapshot context requirement))))
        (Nat.not_lt.mp hdown)
      exact ⟨updated, hok, hid, by rw [hstatus]; exact Nat.not_lt.mp hdown⟩

/-- A batch is evaluated, to a requirement that is not below its
row. -/
theorem evaluateBatch_ok (row : GapRequirement) (batch : EvidenceBatch)
    (now : Nat) :
    ∃ updated,
      evaluateBatch (beforeBatch row batch) batch now = .ok updated
        ∧ updated.gapId = row.gapId
        ∧ closureRank row.closureStatus
          ≤ closureRank updated.closureStatus := by
  unfold evaluateBatch
  obtain ⟨updated, hok, hid, hrank⟩ := closureEvaluatorEvaluate_ok
    (ClosureEvaluationContext.fromAlignments
      { coverage := (beforeBatch row batch).currentCoverage
        evidenceCount := batch.beforeCount
        independentSources := batch.beforeOwners
        verificationStatus := (beforeBatch row batch).verificationStatus }
      (alignBatch (beforeBatch row batch) batch) batch.afterOwners)
    (beforeBatch row batch) now
  simp only [hok]
  exact ⟨_, rfl, hid, hrank⟩

/-- The evaluation of a batch goes forward. -/
theorem evaluateDimension_forward (table : GapTable) (runId : RunId)
    (target : AlignmentTarget) (batch : EvidenceBatch) (now : Nat) :
    ∃ table',
      table.evaluateDimension runId target batch now = some table'
        ∧ table.Forward table' := by
  unfold GapTable.evaluateDimension
  cases hrow : table.requirementRow runId target batch.dimensionKey with
  | none => exact ⟨table, rfl, .refl table⟩
  | some row =>
      by_cases hnone : alignBatch (beforeBatch row batch) batch = []
      · simp only [if_pos hnone]
        exact ⟨table, rfl, .refl table⟩
      · obtain ⟨updated, hok, hid, hrank⟩ := evaluateBatch_ok row batch now
        simp only [if_neg hnone, hok]
        obtain ⟨table', htable'⟩ := upsertMany_singleton table updated now
        refine ⟨table', htable', (forward_upsertOne_iff htable').mpr ?_⟩
        intro stored hstored
        rw [hid, row_of_requirementRow hrow] at hstored
        rw [← Option.some.inj hstored]
        exact hrank

/-- A requirement is made sure of, and that goes forward exactly when
the gap has no row of another question that is not open. -/
theorem ensureRequirement_forward_iff (table : GapTable) (runId : RunId)
    (target : AlignmentTarget) (dimensionKey criterion : String)
    (now : Nat) :
    ∃ table',
      table.ensureRequirement runId target dimensionKey criterion now
          = some table'
        ∧ (table.Forward table'
          ↔ (GapWrite.ensure target dimensionKey criterion now).Sustains
              runId table) := by
  unfold GapTable.ensureRequirement
  cases hrow : table.requirementRow runId target dimensionKey with
  | some row =>
      refine ⟨table, rfl, ?_⟩
      simp only [GapWrite.Sustains, hrow]
      exact ⟨fun _ => nofun, fun _ => .refl table⟩
  | none =>
      obtain ⟨table', htable'⟩ := upsertMany_singleton table
        (runtimeGapRequirement runId target dimensionKey criterion now) now
      refine ⟨table', htable', ?_⟩
      rw [forward_upsertOne_iff htable']
      simp only [GapWrite.Sustains, hrow, forall_const]
      apply forall₂_congr
      intro stored _
      cases stored.closureStatus <;>
        simp [runtimeGapRequirement, closureRank]

-- ======================================================== the projection

/-- What an entry of the coverage map is projected to: CLOSED where it is
satisfied, and PARTIAL elsewhere. -/
def projectedClosure (claimStates : List ClaimState)
    (status : RequirementStatus) : GapClosureStatus :=
  if status.Satisfied claimStates then .gapClosed else .gapPartial

section

variable {planVersion stateVersion : Nat} (hplan : 1 ≤ planVersion)
  (hstate : 1 ≤ stateVersion)

/-- A projected requirement is satisfied by its own facts where its entry
is. -/
theorem requirementIsSatisfied_projectRequirement
    (claimStates : List ClaimState) (questionId : String)
    (status : RequirementStatus) :
    requirementIsSatisfied
        (projectRequirement runId planVersion stateVersion hplan hstate
          claimStates now questionId status)
        (projectRequirement runId planVersion stateVersion hplan hstate
          claimStates now questionId status).snapshot = true
      ↔ status.Satisfied claimStates := by
  have htype : status.requirementType claimStates ≠ .dimensionCoverage := by
    unfold RequirementStatus.requirementType
    split
    · exact nofun
    · split <;> exact nofun
  unfold requirementIsSatisfied RequirementStatus.Satisfied
  simp only [projectRequirement, GapRequirement.snapshot]
  cases hcase : status.requirementType claimStates with
  | dimensionCoverage => exact absurd hcase htype
  | independentSource => simp
  | claimVerification => simp
  | evidenceQuality =>
      rw [if_pos rfl, Bool.and_eq_true]
      exact ⟨fun h => ⟨of_decide_eq_true h.1, of_decide_eq_true h.2⟩,
        fun h => ⟨decide_eq_true h.1, decide_eq_true h.2⟩⟩

/-- A projected requirement is never OPEN: against the empty facts its
verification status has moved. -/
theorem projectRequirement_closureStatus (claimStates : List ClaimState)
    (questionId : String) (status : RequirementStatus) :
    (projectRequirement runId planVersion stateVersion hplan hstate
        claimStates now questionId status).closureStatus
      = projectedClosure claimStates status := by
  have hprogress : ∀ snapshot : ClosureSnapshot,
      snapshot.verificationStatus = status.verificationStatus claimStates →
      hasProgress {} snapshot = true := by
    intro snapshot hverification
    unfold hasProgress RequirementStatus.verificationStatus at *
    rw [hverification]
    split
    · simp
    · split <;> simp
  unfold projectRequirement projectedClosure
  simp only [evaluate_closureStatus]
  rw [hprogress _ rfl, if_pos rfl]
  congr 1
  exact propext (@requirementIsSatisfied_projectRequirement runId now
    planVersion stateVersion hplan hstate claimStates questionId status)

/-- The gap ids of the projection, entry by entry. -/
theorem map_gapId_projectGapRequirements
    (coverageMap : List CoverageMapEntry) (claimStates : List ClaimState) :
    (projectGapRequirements runId planVersion stateVersion hplan hstate
        coverageMap claimStates now).map (·.gapId)
      = (projectedStatuses coverageMap).map fun status =>
          ⟨runId, planVersion, status.dimensionKey⟩ := by
  unfold projectGapRequirements projectedStatuses
  rw [List.map_flatMap, List.map_flatMap]
  congr 1
  funext question
  rw [List.map_map]
  rfl

/-- The statuses handed over for one gap, in their order. -/
theorem newsOf_projectGapRequirements
    (coverageMap : List CoverageMapEntry) (claimStates : List ClaimState)
    (dimensionKey : String) :
    (Table.newsOf (·.gapId) ⟨runId, planVersion, dimensionKey⟩
        (projectGapRequirements runId planVersion stateVersion hplan hstate
          coverageMap claimStates now)).map (·.closureStatus)
      = ((projectedStatuses coverageMap).filter
          (·.dimensionKey = dimensionKey)).map
            (projectedClosure claimStates) := by
  unfold projectGapRequirements projectedStatuses Table.newsOf
  rw [List.filter_flatMap, List.filter_flatMap, List.map_flatMap,
    List.map_flatMap]
  congr 1
  funext question
  rw [List.filter_map, List.map_map]
  have hkey : ((fun new : GapRequirement => decide
      (new.gapId = ⟨runId, planVersion, dimensionKey⟩))
        ∘ projectRequirement runId planVersion stateVersion hplan hstate
          claimStates now question.dimensionKey)
      = fun status => decide (status.dimensionKey = dimensionKey) := by
    funext status
    simp [projectRequirement]
  rw [hkey]
  apply List.map_congr_left
  intro status _
  exact projectRequirement_closureStatus hplan hstate claimStates _ status

/-- The last status handed over for a gap. -/
theorem last_projectGapRequirements
    (coverageMap : List CoverageMapEntry) (claimStates : List ClaimState)
    (dimensionKey : String) :
    ((Table.newsOf (·.gapId) ⟨runId, planVersion, dimensionKey⟩
        (projectGapRequirements runId planVersion stateVersion hplan hstate
          coverageMap claimStates now)).getLast?.map (·.closureStatus))
      = (lastStatus coverageMap dimensionKey).map
          (projectedClosure claimStates) := by
  unfold lastStatus
  rw [← List.getLast?_map, ← List.getLast?_map,
    newsOf_projectGapRequirements]

/-- The projection inserts a gap twice exactly when the coverage map
lists a dimension without a row twice. -/
theorem insertsTwice_projectGapRequirements (table : GapTable)
    (coverageMap : List CoverageMapEntry) (claimStates : List ClaimState) :
    table.insertsTwice
        (projectGapRequirements runId planVersion stateVersion hplan hstate
          coverageMap claimStates now) = true
      ↔ ¬ (table.newDimensions runId planVersion coverageMap).Nodup := by
  have hfilter : ((projectGapRequirements runId planVersion stateVersion
        hplan hstate coverageMap claimStates now).filter
          fun r => (table.row r.gapId).isNone).map (·.gapId)
      = ((projectGapRequirements runId planVersion stateVersion hplan
        hstate coverageMap claimStates now).map (·.gapId)).filter
          fun gapId => (table.row gapId).isNone := by
    rw [List.filter_map]
    rfl
  have hdimensions : ((projectedStatuses coverageMap).map fun status =>
          (⟨runId, planVersion, status.dimensionKey⟩ : GapId)).filter
        (fun gapId => (table.row gapId).isNone)
      = (table.newDimensions runId planVersion coverageMap).map
          (GapId.mk runId planVersion) := by
    unfold GapTable.newDimensions
    rw [List.filter_map, List.filter_map, List.map_map]
    rfl
  have hinj : Function.Injective (GapId.mk runId planVersion) := by
    intro d d' heq
    exact (GapId.mk.inj heq).2.2
  unfold GapTable.insertsTwice
  rw [hfilter, map_gapId_projectGapRequirements, hdimensions]
  simp [List.nodup_map_iff hinj]

/-- The projection goes forward exactly when it satisfies every closed
gap that it lists. -/
theorem forward_project_iff (table : GapTable)
    (coverageMap : List CoverageMapEntry) (claimStates : List ClaimState) :
    table.Forward
        ((table.upsertMany
          (projectGapRequirements runId planVersion stateVersion hplan
            hstate coverageMap claimStates now) now).getD table)
      ↔ ((table.newDimensions runId planVersion coverageMap).Nodup →
        ∀ dimensionKey row,
          table.row ⟨runId, planVersion, dimensionKey⟩ = some row →
          row.closureStatus = .gapClosed →
          ∀ status, lastStatus coverageMap dimensionKey = some status →
            status.Satisfied claimStates) := by
  -- A rank is kept unless a closed gap is not satisfied any more.
  have hrank : ∀ (closure : GapClosureStatus) (status : RequirementStatus),
      closureRank closure
          ≤ closureRank (projectedClosure claimStates status)
        ↔ (closure = .gapClosed → status.Satisfied claimStates) := by
    intro closure status
    unfold projectedClosure
    split
    case isTrue h => cases closure <;> simp [closureRank, h]
    case isFalse h => cases closure <;> simp [closureRank, h]
  -- The requirement written last for a gap is that of the last status.
  have hlast : ∀ dimensionKey,
      ((Table.newsOf (·.gapId) ⟨runId, planVersion, dimensionKey⟩
        (projectGapRequirements runId planVersion stateVersion hplan hstate
          coverageMap claimStates now)).getLast?.map (·.closureStatus))
      = (lastStatus coverageMap dimensionKey).map
          (projectedClosure claimStates) :=
    last_projectGapRequirements hplan hstate coverageMap claimStates
  have htwice : table.insertsTwice
        (projectGapRequirements runId planVersion stateVersion hplan hstate
          coverageMap claimStates now) = true
      ↔ ¬ (table.newDimensions runId planVersion coverageMap).Nodup :=
    insertsTwice_projectGapRequirements hplan hstate table coverageMap
      claimStates
  by_cases hnodup :
      (table.newDimensions runId planVersion coverageMap).Nodup
  -- The unique index refuses the batch, and the table stays.
  case neg =>
    have hnone : table.upsertMany (projectGapRequirements runId planVersion
        stateVersion hplan hstate coverageMap claimStates now) now
        = none := if_pos (htwice.mpr hnodup)
    rw [hnone]
    exact ⟨fun _ h => absurd h hnodup, fun _ => .refl table⟩
  case pos =>
    obtain ⟨table', hupsert⟩ : ∃ table', table.upsertMany
        (projectGapRequirements runId planVersion stateVersion hplan hstate
          coverageMap claimStates now) now = some table' :=
      ⟨_, if_neg fun h => htwice.mp h hnodup⟩
    rw [hupsert, Option.getD_some, forward_upsertMany_iff hupsert]
    constructor
    · intro hall _ dimensionKey row hrow hclosed status hstatus
      have hkey := hlast dimensionKey
      rw [hstatus, Option.map_some, Option.map_eq_some_iff] at hkey
      obtain ⟨last, hget, hcs⟩ := hkey
      have hle := hall _ row hrow last hget
      rw [hcs] at hle
      exact (hrank _ status).mp hle hclosed
    · intro hall gapId row hrow last hget
      obtain ⟨hmem, hid⟩ := List.mem_filter.mp (List.mem_of_getLast? hget)
      have hids := List.mem_map_of_mem (f := (·.gapId)) hmem
      rw [map_gapId_projectGapRequirements] at hids
      obtain ⟨entry, -, hentry⟩ := List.mem_map.mp hids
      -- Every gap that is written is that of an entry.
      have hgap : gapId = ⟨runId, planVersion, entry.dimensionKey⟩ :=
        (of_decide_eq_true hid).symm.trans hentry.symm
      subst hgap
      have hkey := hlast entry.dimensionKey
      rw [hget, Option.map_some] at hkey
      obtain ⟨status, hstatus, hcs⟩ :=
        Option.map_eq_some_iff.mp hkey.symm
      rw [← hcs]
      apply (hrank _ status).mpr
      intro hclosed
      exact hall hnodup entry.dimensionKey row hrow hclosed status hstatus

end

-- =================================================================== runs

/-- One write goes forward exactly when it sustains what is stored. -/
theorem step_forward_iff (table : GapTable) (write : GapWrite) :
    table.Forward ((gapSystem runId).step table write)
      ↔ write.Sustains runId table := by
  show table.Forward ((write.apply runId table).getD table) ↔ _
  cases write with
  | ensure target dimensionKey criterion now =>
      obtain ⟨table', htable', hiff⟩ := ensureRequirement_forward_iff table
        runId target dimensionKey criterion now
      simp only [GapWrite.apply, htable', Option.getD_some]
      exact hiff
  | evaluate target batch now =>
      obtain ⟨table', htable', hforward⟩ := evaluateDimension_forward table
        runId target batch now
      simp only [GapWrite.apply, htable', Option.getD_some]
      exact ⟨fun _ => trivial, fun _ => hforward⟩
  | project planVersion stateVersion coverageMap claimStates now =>
      simp only [GapWrite.apply, GapWrite.Sustains]
      by_cases hplan : 1 ≤ planVersion
      · by_cases hstate : 1 ≤ stateVersion
        · rw [dif_pos ⟨hplan, hstate⟩,
            forward_project_iff hplan hstate table coverageMap claimStates]
          exact ⟨fun h _ _ => h, fun h => h hplan hstate⟩
        · rw [dif_neg fun h => hstate h.2]
          exact ⟨fun _ _ h => absurd h hstate, fun _ => .refl table⟩
      · rw [dif_neg fun h => hplan h.1]
        exact ⟨fun _ h => absurd h hplan, fun _ => .refl table⟩

/-- Over any sequence of alignments and projections, stored closure goes
forward between every two writes exactly when every write sustains what
is stored. -/
theorem closure_forward_iff (runId : RunId) (table : GapTable)
    (operations : List GapOperation) :
    (∀ earlier between later,
        operations.flatMap GapOperation.writes
            = earlier ++ (between ++ later) →
          ((gapSystem runId).exec table earlier).Forward
            ((gapSystem runId).exec table (earlier ++ between)))
      ↔ (gapSystem runId).Along (fun t write => write.Sustains runId t)
          table (operations.flatMap GapOperation.writes) := by
  rw [Transition.ordered_iff_along GapTable.Forward.refl
    (fun _ _ _ => GapTable.Forward.trans)]
  exact Transition.System.along_congr step_forward_iff table _

/-- A dimension with one accepted source, which is all it requires. -/
def coveredDimension : List CoverageMapEntry :=
  [{ dimensionKey := "q1"
     requirementStatuses :=
      [{ dimensionKey := "q1:d1", criterion := "the price in 2024",
         coverage := 1, acceptedEvidence := 1, independentSources := 1,
         requiredSources := 1 }] }]

/-- The same dimension once its claim is high-risk and a second source
is required. -/
def contestedDimension : List CoverageMapEntry :=
  [{ dimensionKey := "q1"
     requirementStatuses :=
      [{ dimensionKey := "q1:d1", criterion := "the price in 2024",
         coverage := 1/2, acceptedEvidence := 1, independentSources := 1,
         requiredSources := 2 }] }]

/-- The gap is CLOSED by the first projection and PARTIAL after the
second one. -/
theorem closed_gap_reopens :
    ¬ ∀ (runId : RunId) (operations : List GapOperation)
      (earlier between later : List GapWrite),
      operations.flatMap GapOperation.writes
          = earlier ++ (between ++ later) →
        ((gapSystem runId).exec ⟨[], List.nodup_nil⟩ earlier).Forward
          ((gapSystem runId).exec ⟨[], List.nodup_nil⟩
            (earlier ++ between)) := by
  intro h
  have hforward := h Run.sampleRunId
    [.projectRequirements 1 1 coveredDimension [] 0,
      .projectRequirements 1 2 contestedDimension [] 1]
    [.project 1 1 coveredDimension [] 0]
    [.project 1 2 contestedDimension [] 1] [] rfl
  rw [Transition.System.exec_append] at hforward
  have hsustains := (step_forward_iff _ _).mp hforward
  have hclosed : (((gapSystem Run.sampleRunId).exec ⟨[], List.nodup_nil⟩
      [.project 1 1 coveredDimension [] 0]).row
        ⟨Run.sampleRunId, 1, "q1:d1"⟩).map (·.closureStatus)
      = some .gapClosed := by
    decide +kernel
  obtain ⟨row, hrow, hstatus⟩ := Option.map_eq_some_iff.mp hclosed
  have hsatisfied := hsustains (Nat.le_refl 1) (by decide)
    (by decide +kernel) "q1:d1" row hrow hstatus _ rfl
  revert hsatisfied
  decide +kernel

end DeepResearch.Gap
