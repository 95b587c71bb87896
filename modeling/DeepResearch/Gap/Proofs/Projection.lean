/-
What the status of a projected requirement says about its facts.

The projection evaluates a requirement against the empty facts, whose
verification status is NOT_EVALUATED. No projected requirement has that
status, so the evaluation always sees progress: CLOSED tells that the
requirement is satisfied, but PARTIAL is also the status of a requirement
with no coverage, no evidence and no source, and OPEN is never projected
(`projectRequirement_closureStatus`). The statuses tell the facts exactly
when the coverage map has no such entry.
-/
import DeepResearch.Gap.Proofs.Monotone

namespace DeepResearch.Gap

open DeepResearch.Run (RunId)

-- ==================================================== statement vocabulary

/-- Some progress: coverage, accepted evidence or an independent
source. -/
def GapRequirement.Progress (requirement : GapRequirement) : Prop :=
  0 < requirement.currentCoverage.val
    ∨ 0 < requirement.currentEvidenceCount
    ∨ 0 < requirement.currentIndependentSources

/-- The closure status tells the facts of the requirement. -/
structure GapRequirement.TellsFacts (requirement : GapRequirement) :
    Prop where
  closed : requirement.closureStatus = .gapClosed
    ↔ requirementIsSatisfied requirement requirement.snapshot = true
  progressing : requirement.closureStatus = .gapPartial
    ↔ requirementIsSatisfied requirement requirement.snapshot = false
      ∧ requirement.Progress
  untouched : requirement.closureStatus = .gapOpen
    ↔ requirementIsSatisfied requirement requirement.snapshot = false
      ∧ ¬ requirement.Progress

/-- Some progress, in an entry of the coverage map. -/
def RequirementStatus.Progress (status : RequirementStatus) : Prop :=
  0 < status.coverage ∨ 0 < status.acceptedEvidence
    ∨ 0 < status.independentSources

/-- The same requirement with at least as much coverage, accepted
evidence and independent sources. -/
structure RequirementStatus.Grows (earlier later : RequirementStatus) :
    Prop where
  dimensionKey : later.dimensionKey = earlier.dimensionKey
  requiredSources : later.requiredSources = earlier.requiredSources
  coverage : earlier.coverage ≤ later.coverage
  acceptedEvidence : earlier.acceptedEvidence ≤ later.acceptedEvidence
  independentSources : earlier.independentSources ≤ later.independentSources

section

variable {runId : RunId} {planVersion stateVersion now : Nat}
  (hplan : 1 ≤ planVersion) (hstate : 1 ≤ stateVersion)
  (claimStates : List ClaimState) (questionId : String)

-- ============================================================= one entry

/-- The requirement has the progress its entry has: the coercions cut off
what is negative only. -/
theorem progress_projectRequirement (status : RequirementStatus) :
    (projectRequirement runId planVersion stateVersion hplan hstate
        claimStates now questionId status).Progress ↔ status.Progress := by
  unfold GapRequirement.Progress RequirementStatus.Progress
  simp only [projectRequirement, asCoverage]
  have hcoverage : 0 < min 1 (max 0 status.coverage)
      ↔ 0 < status.coverage := by
    rw [lt_min_iff, lt_max_iff]
    constructor
    · rintro ⟨-, h | h⟩
      · exact absurd h (lt_irrefl 0)
      · exact h
    · exact fun h => ⟨zero_lt_one, .inr h⟩
  rw [hcoverage]
  exact or_congr Iff.rfl (or_congr Int.pos_iff_toNat_pos.symm
    Int.pos_iff_toNat_pos.symm)

/-- The status of a projected requirement tells its facts unless the entry
is unsatisfied without any progress. -/
theorem projectRequirement_tellsFacts_iff (status : RequirementStatus) :
    (projectRequirement runId planVersion stateVersion hplan hstate
        claimStates now questionId status).TellsFacts
      ↔ status.Satisfied claimStates ∨ status.Progress := by
  let requirement := projectRequirement runId planVersion stateVersion hplan
    hstate claimStates now questionId status
  have hsatisfied : requirementIsSatisfied requirement requirement.snapshot
      = true ↔ status.Satisfied claimStates :=
    requirementIsSatisfied_projectRequirement hplan hstate claimStates
      questionId status
  have hprogress : requirement.Progress ↔ status.Progress :=
    progress_projectRequirement hplan hstate claimStates questionId status
  have hstatus : requirement.closureStatus
      = projectedClosure claimStates status :=
    projectRequirement_closureStatus hplan hstate claimStates questionId
      status
  show requirement.TellsFacts ↔ _
  unfold projectedClosure at hstatus
  -- A satisfied status is projected as closed, any other as in progress.
  by_cases hsat : status.Satisfied claimStates
  · rw [if_pos hsat] at hstatus
    have htrue := hsatisfied.mpr hsat
    refine iff_of_true ⟨?_, ?_, ?_⟩ (.inl hsat)
    · rw [hstatus, htrue]
      simp
    · rw [hstatus, htrue]
      simp
    · rw [hstatus, htrue]
      simp
  · rw [if_neg hsat] at hstatus
    have hfalse : requirementIsSatisfied requirement requirement.snapshot
        = false := Bool.eq_false_iff.mpr fun h => hsat (hsatisfied.mp h)
    constructor
    · intro h
      exact .inr (hprogress.mp (h.progressing.mp hstatus).2)
    · rintro (h | h)
      · exact absurd h hsat
      · have hmade := hprogress.mpr h
        refine ⟨?_, ?_, ?_⟩
        · rw [hstatus, hfalse]
          simp
        · rw [hstatus, hfalse]
          exact iff_of_true rfl ⟨rfl, hmade⟩
        · rw [hstatus, hfalse]
          exact iff_of_false nofun fun h => h.2 hmade

variable {claimStates}

/-- An entry that is satisfied stays so as it grows. -/
theorem RequirementStatus.Satisfied.grows {earlier later : RequirementStatus}
    (h : earlier.Satisfied claimStates) (hgrows : earlier.Grows later) :
    later.Satisfied claimStates := by
  have htype : later.requirementType claimStates
      = earlier.requirementType claimStates := by
    unfold RequirementStatus.requirementType
    rw [hgrows.dimensionKey, hgrows.requiredSources]
  have hevidence := hgrows.acceptedEvidence
  have hsources := hgrows.independentSources
  unfold RequirementStatus.Satisfied at h ⊢
  rw [htype]
  split at h
  · rename_i hquality
    rw [if_pos hquality]
    refine ⟨by omega, ?_⟩
    obtain ⟨-, hverified⟩ := h
    unfold RequirementStatus.verificationStatus at hverified ⊢
    rw [hgrows.dimensionKey]
    split at hverified
    · cases hverified
    · rename_i hclaim
      rw [if_neg hclaim]
      split at hverified
      · rename_i hfull
        rw [if_pos]
        exact le_trans hfull (Subtype.mk_le_mk.mpr
          (min_le_min_left 1 (max_le_max_left 0 hgrows.coverage)))
      · cases hverified
  · rename_i hquality
    rw [if_neg hquality, hgrows.requiredSources]
    omega

variable (claimStates)

/-- More coverage, evidence or sources never lower the status. -/
theorem closureRank_projectRequirement_grows
    {earlier later : RequirementStatus} (hgrows : earlier.Grows later) :
    closureRank (projectRequirement runId planVersion stateVersion hplan
        hstate claimStates now questionId earlier).closureStatus
      ≤ closureRank (projectRequirement runId planVersion stateVersion hplan
        hstate claimStates now questionId later).closureStatus := by
  rw [projectRequirement_closureStatus, projectRequirement_closureStatus]
  unfold projectedClosure
  by_cases hsat : earlier.Satisfied claimStates
  · rw [if_pos hsat, if_pos (hsat.grows hgrows)]
  · rw [if_neg hsat]
    split
    · decide
    · exact le_refl _

-- ======================================================= the whole projection

/-- The statuses of a projection tell the facts exactly when no entry of
the coverage map is both unsatisfied and without any progress; the rank
never falls when an entry grows. -/
theorem projection_tells_facts_iff (coverageMap : List CoverageMapEntry) :
    ((∀ requirement ∈ projectGapRequirements runId planVersion stateVersion
          hplan hstate coverageMap claimStates now,
        requirement.TellsFacts)
      ↔ ∀ status ∈ projectedStatuses coverageMap,
        status.Satisfied claimStates ∨ status.Progress)
      ∧ ∀ questionId earlier later, RequirementStatus.Grows earlier later →
        closureRank (projectRequirement runId planVersion stateVersion hplan
            hstate claimStates now questionId earlier).closureStatus
          ≤ closureRank (projectRequirement runId planVersion stateVersion
            hplan hstate claimStates now questionId
            later).closureStatus := by
  refine ⟨?_, fun questionId earlier later hgrows =>
    closureRank_projectRequirement_grows hplan hstate claimStates questionId
      hgrows⟩
  unfold projectGapRequirements projectedStatuses
  constructor
  · intro h status hstatus
    obtain ⟨question, hquestion, hmem⟩ := List.mem_flatMap.mp hstatus
    exact (projectRequirement_tellsFacts_iff hplan hstate claimStates
      question.dimensionKey status).mp (h _ (List.mem_flatMap.mpr
        ⟨question, hquestion, List.mem_map_of_mem hmem⟩))
  · intro h requirement hrequirement
    obtain ⟨question, hquestion, hmem⟩ := List.mem_flatMap.mp hrequirement
    obtain ⟨status, hstatus, rfl⟩ := List.mem_map.mp hmem
    exact (projectRequirement_tellsFacts_iff hplan hstate claimStates
      question.dimensionKey status).mpr (h status (List.mem_flatMap.mpr
        ⟨question, hquestion, hstatus⟩))

end

-- ================================================================= a sample

/-- A dimension with the two sources it needs. -/
def sampleCoverageMap : List CoverageMapEntry :=
  [{ dimensionKey := "q1"
     requirementStatuses :=
      [{ dimensionKey := "q1:d1", coverage := 1, acceptedEvidence := 2
         independentSources := 2, requiredSources := 2 }] }]

/-- A dimension for which nothing was found yet. -/
def emptyCoverageMap : List CoverageMapEntry :=
  [{ dimensionKey := "q1"
     requirementStatuses :=
      [{ dimensionKey := "q1:d1", requiredSources := 2 }] }]

theorem projection_tells_facts_sample :
    projectGapRequirements Run.sampleRunId 1 1 le_rfl le_rfl
        sampleCoverageMap [] 0 ≠ []
      ∧ ∀ requirement ∈ projectGapRequirements Run.sampleRunId 1 1 le_rfl
          le_rfl sampleCoverageMap [] 0, requirement.TellsFacts := by
  have hsatisfied : ∀ status ∈ projectedStatuses sampleCoverageMap,
      status.Satisfied [] := by
    decide
  refine ⟨List.cons_ne_nil _ _, ?_⟩
  exact (projection_tells_facts_iff le_rfl le_rfl [] sampleCoverageMap).1.mpr
    fun status hstatus => .inl (hsatisfied status hstatus)

/-- A requirement with no evidence at all is projected PARTIAL. -/
theorem untouched_requirement_is_partial :
    ∃ requirement ∈ projectGapRequirements Run.sampleRunId 1 1 le_rfl le_rfl
        emptyCoverageMap [] 0,
      ¬ requirement.Progress
        ∧ requirementIsSatisfied requirement requirement.snapshot = false
        ∧ requirement.closureStatus = .gapPartial := by
  refine ⟨_, List.mem_singleton.mpr rfl, ?_, ?_, ?_⟩
  · rw [progress_projectRequirement]
    rintro (h | h | h) <;> cases h
  · decide
  · decide

end DeepResearch.Gap
