/-
When re-synchronising gap requirements succeeds.

`apply_closure_evaluation` refuses every move backwards, so what is
returned is never below its predecessor. The evaluation it is given is
made from the difference between the two sets of facts: without progress
it answers OPEN, whatever the predecessor was. So facts that have not
moved are refused for a PARTIAL predecessor, and a CLOSED one is kept
only as long as it is satisfied.
-/
import DeepResearch.Gap.Closure
import DeepResearch.Lib.Outcome

namespace DeepResearch.Gap

-- =========================================================== statements

/-- The current facts hold the status a requirement has reached. -/
def GapRequirement.SustainedBy (prior : GapRequirement)
    (facts : ClosureSnapshot) : Prop :=
  requirementIsSatisfied prior facts = true
    ∨ prior.closureStatus = .gapOpen
    ∨ prior.closureStatus = .gapPartial
      ∧ hasProgress prior.snapshot facts = true

/-- A call returned, and nothing it returned is below its
predecessor. -/
def ReturnsMonotone (previous : List GapRequirement)
    (outcome : Except ClosureError (List GapRequirement)) : Prop :=
  ∃ synchronized, outcome = .ok synchronized
    ∧ ∀ requirement ∈ synchronized, ∀ prior,
      previousById previous requirement.gapId = some prior →
        closureRank prior.closureStatus
          ≤ closureRank requirement.closureStatus

-- ====================================================== one requirement

/-- Facts that have not moved are no progress. -/
theorem hasProgress_self (facts : ClosureSnapshot) :
    hasProgress facts facts = false := by
  simp [hasProgress]

/-- A requirement found under an id has that id. -/
theorem gapId_of_previousById {previous : List GapRequirement}
    {gapId : GapId} {prior : GapRequirement}
    (h : previousById previous gapId = some prior) :
    prior.gapId = gapId := by
  have hprior := List.find?_some h
  simpa using hprior

/-- The evaluation against the facts a requirement carries is not below
its status exactly when the new facts sustain it. -/
theorem closureRank_le_evaluate_iff (prior : GapRequirement)
    (facts : ClosureSnapshot) :
    closureRank prior.closureStatus
        ≤ closureRank (ClosureEvaluation.evaluate prior prior.snapshot
          facts).closureStatus
      ↔ prior.SustainedBy facts := by
  rw [evaluate_closureStatus]
  unfold GapRequirement.SustainedBy
  by_cases hsatisfied : requirementIsSatisfied prior facts = true
  · rw [if_pos hsatisfied]
    cases prior.closureStatus <;> simp [hsatisfied, closureRank]
  · rw [if_neg hsatisfied]
    by_cases hprogress : hasProgress prior.snapshot facts = true
    · rw [if_pos hprogress]
      cases prior.closureStatus <;>
        simp [hsatisfied, hprogress, closureRank]
    · rw [if_neg hprogress]
      cases prior.closureStatus <;>
        simp [hsatisfied, hprogress, closureRank]

/-- An evaluation of the requirement that was applied did not move
backwards, and gave the requirement its status. -/
theorem applyClosureEvaluation_spec {requirement updated : GapRequirement}
    {evaluation : ClosureEvaluation} {now : Nat}
    (h : applyClosureEvaluation requirement evaluation now = .ok updated)
    (hid : evaluation.gapId = requirement.gapId) :
    closureRank requirement.closureStatus
        ≤ closureRank evaluation.closureStatus
      ∧ updated.gapId = requirement.gapId
      ∧ updated.closureStatus = evaluation.closureStatus := by
  unfold applyClosureEvaluation at h
  rw [if_neg (fun hne => hne hid)] at h
  split at h
  case isTrue => exact absurd h (Outcome.error_ne_ok _ _)
  case isFalse hforward =>
    injection h with h
    subst h
    exact ⟨Nat.le_of_not_lt hforward, rfl, rfl⟩

/-- An evaluation that does not move backwards is applied. -/
theorem applyClosureEvaluation_ok {requirement : GapRequirement}
    {evaluation : ClosureEvaluation} (now : Nat)
    (hid : evaluation.gapId = requirement.gapId)
    (hforward : closureRank requirement.closureStatus
      ≤ closureRank evaluation.closureStatus) :
    ∃ updated,
      applyClosureEvaluation requirement evaluation now = .ok updated := by
  unfold applyClosureEvaluation
  rw [if_neg (fun hne => hne hid), if_neg (Nat.not_lt.mpr hforward)]
  exact ⟨_, rfl⟩

/-- One candidate is synchronised exactly when it sustains its
predecessor. -/
theorem synchronizeOne_ok_iff (previous : List GapRequirement) (now : Nat)
    (candidate : GapRequirement) :
    (∃ updated, synchronizeOne previous now candidate = .ok updated)
      ↔ ∀ prior, previousById previous candidate.gapId = some prior →
        prior.SustainedBy candidate.snapshot := by
  unfold synchronizeOne
  cases hprior : previousById previous candidate.gapId with
  | none =>
      constructor
      · intro _ prior heq
        cases heq
      · intro _
        exact ⟨candidate, rfl⟩
  | some prior =>
      constructor
      · intro h prior' heq
        obtain ⟨updated, hupdated⟩ := h
        injection heq with heq
        subst heq
        apply (closureRank_le_evaluate_iff prior _).mp
        exact (applyClosureEvaluation_spec hupdated
          (evaluate_gapId prior _ _)).1
      · intro h
        apply applyClosureEvaluation_ok now (evaluate_gapId prior _ _)
        exact (closureRank_le_evaluate_iff prior _).mpr (h prior rfl)

/-- What one candidate becomes is not below its predecessor. -/
theorem synchronizeOne_monotone {previous : List GapRequirement}
    {now : Nat} {candidate updated prior : GapRequirement}
    (h : synchronizeOne previous now candidate = .ok updated)
    (hprior : previousById previous updated.gapId = some prior) :
    closureRank prior.closureStatus ≤ closureRank updated.closureStatus := by
  unfold synchronizeOne at h
  cases hfound : previousById previous candidate.gapId with
  | none =>
      rw [hfound] at h
      injection h with h
      subst h
      rw [hfound] at hprior
      cases hprior
  | some found =>
      rw [hfound] at h
      obtain ⟨hforward, hid, hstatus⟩ := applyClosureEvaluation_spec h
        (evaluate_gapId found _ _)
      rw [hid, gapId_of_previousById hfound, hfound] at hprior
      injection hprior with hprior
      subst hprior
      rw [hstatus]
      exact hforward

-- ======================================================== the whole call

/-- Re-synchronising returns, monotonically, exactly when the current
facts sustain the status of every predecessor. -/
theorem synchronizeGapRequirements_total_iff
    (previous current : List GapRequirement) (now : Nat) :
    ReturnsMonotone previous
        (synchronizeGapRequirements previous current now)
      ↔ ∀ candidate ∈ current, ∀ prior,
        previousById previous candidate.gapId = some prior →
          prior.SustainedBy candidate.snapshot := by
  unfold ReturnsMonotone synchronizeGapRequirements
  constructor
  · intro h candidate hcandidate
    obtain ⟨synchronized, hok, -⟩ := h
    apply (synchronizeOne_ok_iff previous now candidate).mp
    exact (Outcome.mapM_ok_iff _ current).mp ⟨synchronized, hok⟩ candidate
      hcandidate
  · intro h
    have hall : ∀ candidate ∈ current,
        ∃ updated, synchronizeOne previous now candidate = .ok updated :=
      fun candidate hcandidate =>
        (synchronizeOne_ok_iff previous now candidate).mpr
          (h candidate hcandidate)
    obtain ⟨synchronized, hok⟩ := (Outcome.mapM_ok_iff _ current).mpr hall
    refine ⟨synchronized, hok, ?_⟩
    intro requirement hrequirement prior hprior
    obtain ⟨candidate, -, hone⟩ :=
      Outcome.mem_mapM_ok hok requirement hrequirement
    exact synchronizeOne_monotone hone hprior

/-- A requirement with one of its two sources. -/
def partialRequirement : GapRequirement :=
  { gapId := ⟨Run.sampleRunId, 1, "q1:d1"⟩
    runId := Run.sampleRunId
    questionId := "q1"
    dimensionKey := "q1:d1"
    requirementType := .independentSource
    criterion := "two independent sources"
    requiredEvidenceCount := 1
    requiredIndependentSources := 2
    currentEvidenceCount := 1
    currentIndependentSources := 1
    verificationStatus := .required
    closureStatus := .gapPartial
    createdAt := 0
    updatedAt := 0
    stateVersion := 1
    stateVersion_pos := Nat.one_pos
    planVersion_pos := Nat.one_pos }

/-- Synchronising a PARTIAL requirement with its own facts raises. -/
theorem synchronize_unchanged_partial_raises :
    ¬ ∀ (previous current : List GapRequirement) (now : Nat),
      ReturnsMonotone previous
        (synchronizeGapRequirements previous current now) := by
  intro h
  obtain ⟨synchronized, hok, -⟩ :=
    h [partialRequirement] [partialRequirement] 1
  obtain ⟨updated, hupdated⟩ := (Outcome.mapM_ok_iff _ _).mp
    ⟨synchronized, hok⟩ partialRequirement (List.mem_singleton.mpr rfl)
  have hsustained := (synchronizeOne_ok_iff [partialRequirement] 1
    partialRequirement).mp ⟨updated, hupdated⟩ partialRequirement rfl
  obtain hsatisfied | hopen | ⟨-, hprogress⟩ := hsustained
  · cases hsatisfied
  · cases hopen
  · rw [hasProgress_self] at hprogress
    cases hprogress

end DeepResearch.Gap
