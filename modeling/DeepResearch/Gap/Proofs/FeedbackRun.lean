/-
What a run has of its closure feedback, after any transactions.

# A log of feedbacks

Whoever writes a feedback, it becomes an event, then it is dispatched, and
a feedback that is dispatched for the first time may start one query
(`Fed`). Every transaction is a sequence of such steps, between which the
table and the plan change (`FeedStep`). The three writers differ in when a
feedback is due, and that is in the step: the pass and the finalization
write for a gap only where its question has no feedback of it yet.

# What follows

What one step keeps, a run keeps: the accounts of the dispatches and the
queries agree with the log (`feedback_accounted`), and a gap is explained
without an evaluation at most once (`completeness_feedback_first`). And the
log only grows, so a gap that the pass or the finalization has explained
stays explained (`alignment_explains`, `finalization_explains`).
-/
import Mathlib.Logic.Relation
import DeepResearch.Gap.FeedbackRun
import DeepResearch.Gap.Proofs.FeedbackPipeline
import DeepResearch.Gap.Proofs.Monotone

namespace DeepResearch.Gap

open DeepResearch.Run (RunId)
open DeepResearch.Search (ResearchContext)
open Relation (ReflTransGen)

-- ============================================================ one feedback

namespace FeedbackRun

variable {s : FeedbackRun} {request : QueryExecutionRequest}

@[simp] theorem startExecution_runId :
    (s.startExecution request).runId = s.runId := by
  unfold startExecution
  split <;> rfl

@[simp] theorem startExecution_planVersion :
    (s.startExecution request).planVersion = s.planVersion := by
  unfold startExecution
  split <;> rfl

@[simp] theorem startExecution_table :
    (s.startExecution request).table = s.table := by
  unfold startExecution
  split <;> rfl

@[simp] theorem startExecution_feedbacks :
    (s.startExecution request).feedbacks = s.feedbacks := by
  unfold startExecution
  split <;> rfl

@[simp] theorem startExecution_dispatches :
    (s.startExecution request).dispatches = s.dispatches := by
  unfold startExecution
  split <;> rfl

@[simp] theorem startExecution_dispatchedFeedbackIds :
    (s.startExecution request).dispatchedFeedbackIds
      = s.dispatchedFeedbackIds := by
  unfold startExecution
  split <;> rfl

end FeedbackRun

/-- The dispatch of a feedback that becomes a need. -/
def createdDispatch (feedback : ClosureFeedback) (need : ResearchNeed)
    (action : SuggestedResearchAction) : FeedbackDispatchResult :=
  { dispatchVerdict feedback .created "research_need_created" with
    researchNeed := some need
    suggestedAction := some action }

/-- The dispatch of a feedback that was dispatched before. -/
def duplicatedDispatch (feedback : ClosureFeedback) :
    FeedbackDispatchResult :=
  dispatchVerdict feedback .duplicated "feedback_already_dispatched"

/-- A feedback becomes an event and is dispatched: again, or for the first
time, without a query or with one. -/
inductive Fed (feedback : ClosureFeedback) (s : FeedbackRun) :
    FeedbackRun → Prop
  | duplicated (hmem : feedback.feedbackId ∈ s.dispatchedFeedbackIds) :
      Fed feedback s (s.recordDispatch feedback (duplicatedDispatch feedback))
  | created (hnew : feedback.feedbackId ∉ s.dispatchedFeedbackIds)
      (need : ResearchNeed) (action : SuggestedResearchAction) :
      Fed feedback s
        (s.recordDispatch feedback (createdDispatch feedback need action))
  | handedOver (hnew : feedback.feedbackId ∉ s.dispatchedFeedbackIds)
      (need : ResearchNeed) (action : SuggestedResearchAction)
      (request : QueryExecutionRequest)
      (hrequest : request.feedbackId = feedback.feedbackId) :
      Fed feedback s
        ((s.recordDispatch feedback
          (createdDispatch feedback need action)).startExecution request)

section

variable {s s' : FeedbackRun} {feedback : ClosureFeedback}
  {requirement : GapRequirement} {alreadyDispatched : List FeedbackId}

/-- The dispatch of a feedback of an open requirement never raises. -/
theorem dispatchClosureFeedback_fed
    (hopen : requirement.closureStatus ≠ .gapClosed)
    (hexplains : feedback.Explains requirement)
    (halready : feedback.feedbackId ∈ alreadyDispatched
      ↔ feedback.feedbackId ∈ s.dispatchedFeedbackIds) :
    ∃ s', s.dispatchClosureFeedback alreadyDispatched feedback requirement
        = some s'
      ∧ Fed feedback s s' := by
  unfold FeedbackRun.dispatchClosureFeedback
  by_cases hmem : feedback.feedbackId ∈ alreadyDispatched
  · have hdispatch : dispatchFeedback alreadyDispatched feedback requirement
        = .ok (duplicatedDispatch feedback) := by
      unfold dispatchFeedback
      rw [if_neg hopen, if_neg (not_not.mpr hexplains.gapId), if_pos hmem]
      rfl
    rw [hdispatch]
    exact ⟨_, rfl, .duplicated (halready.mp hmem)⟩
  · have hnew : feedback.feedbackId ∉ s.dispatchedFeedbackIds :=
      fun h => hmem (halready.mpr h)
    obtain ⟨need, action, hneed, haction, hdispatch⟩ :=
      dispatchFeedback_created hopen hexplains.gapId hmem
    obtain ⟨outcome, hrun, -, hrequest⟩ :=
      feedbackRequest_spec hopen hexplains hneed haction
    rw [hdispatch]
    dsimp only [FeedbackRun.handOver]
    rw [hrun]
    cases outcome with
    | none => exact ⟨_, rfl, .created hnew need action⟩
    | some request =>
        exact ⟨_, rfl, .handedOver hnew need action request
          (hrequest request rfl).feedbackId⟩

/-- The log gets the feedback, and the gaps stay. -/
theorem Fed.frame (h : Fed feedback s s') :
    s'.feedbacks = s.feedbacks ++ [feedback] ∧ s'.runId = s.runId
      ∧ s'.planVersion = s.planVersion ∧ s'.table = s.table := by
  cases h with
  | duplicated => exact ⟨rfl, rfl, rfl, rfl⟩
  | created => exact ⟨rfl, rfl, rfl, rfl⟩
  | handedOver => simp [FeedbackRun.recordDispatch]

/-- The ids that are dispatched after a feedback. -/
theorem Fed.mem_dispatched (h : Fed feedback s s') {id : FeedbackId} :
    id ∈ s'.dispatchedFeedbackIds
      ↔ id ∈ s.dispatchedFeedbackIds ∨ id = feedback.feedbackId := by
  cases h with
  | duplicated hmem =>
      simp only [FeedbackRun.recordDispatch, duplicatedDispatch,
        dispatchVerdict]
      constructor
      · intro hid
        exact .inl hid
      · intro hid
        rcases hid with hid | hid
        · exact hid
        · rw [hid]
          exact hmem
  | created hnew need action =>
      simp [FeedbackRun.recordDispatch, createdDispatch, hnew]
  | handedOver hnew need action request hrequest =>
      simp [FeedbackRun.recordDispatch, createdDispatch, hnew]

end

-- ============================================================== the accounts

/-- The accounts of a run agree with its log. -/
structure FeedbackRun.Accounted (s : FeedbackRun) : Prop where
  /-- Every feedback has its dispatch. -/
  dispatched : s.dispatches.map (·.feedbackId)
    = s.feedbacks.map (·.feedbackId)
  /-- No dispatch is blocked or skipped. -/
  statuses : ∀ dispatch ∈ s.dispatches,
    dispatch.dispatchStatus = .created
      ∨ dispatch.dispatchStatus = .duplicated
  /-- The ids in the snapshot are those that became a need. -/
  created : (s.dispatches.filter (·.dispatchStatus = .created)).map
    (·.feedbackId) = s.dispatchedFeedbackIds
  /-- No feedback becomes a need twice. -/
  once : s.dispatchedFeedbackIds.Nodup
  /-- Every feedback becomes one. -/
  becomes : ∀ feedback ∈ s.feedbacks,
    feedback.feedbackId ∈ s.dispatchedFeedbackIds
  /-- A query is started for a need, and at most one for each. -/
  started : (s.executions.map (·.feedbackId)).Sublist
    s.dispatchedFeedbackIds
  counted : s.executions.length = s.feedbackExecutionCount
  limited : s.feedbackExecutionCount ≤ FeedbackRun.executionLimit

section

variable {s s' : FeedbackRun} {feedback : ClosureFeedback}

/-- A feedback that was dispatched before is noted as a duplicate. -/
theorem FeedbackRun.Accounted.duplicated (h : s.Accounted)
    (hmem : feedback.feedbackId ∈ s.dispatchedFeedbackIds) :
    (s.recordDispatch feedback (duplicatedDispatch feedback)).Accounted where
  dispatched := by
    simp [FeedbackRun.recordDispatch, duplicatedDispatch, dispatchVerdict,
      h.dispatched]
  statuses := by
    intro dispatch hdispatch
    rcases List.mem_append.mp hdispatch with hdispatch | hdispatch
    · exact h.statuses dispatch hdispatch
    · rw [List.mem_singleton.mp hdispatch]
      exact .inr rfl
  created := by
    simpa [FeedbackRun.recordDispatch, duplicatedDispatch, dispatchVerdict]
      using h.created
  once := h.once
  becomes := by
    intro other hother
    rcases List.mem_append.mp hother with hother | hother
    · exact h.becomes other hother
    · rw [List.mem_singleton.mp hother]
      exact hmem
  started := h.started
  counted := h.counted
  limited := h.limited

/-- A feedback that is new gets a need and an action. -/
theorem FeedbackRun.Accounted.created_new (h : s.Accounted)
    (hnew : feedback.feedbackId ∉ s.dispatchedFeedbackIds)
    (need : ResearchNeed) (action : SuggestedResearchAction) :
    (s.recordDispatch feedback
      (createdDispatch feedback need action)).Accounted := by
  -- The id is new, and goes to the end of those dispatched.
  have hids : (s.recordDispatch feedback
      (createdDispatch feedback need action)).dispatchedFeedbackIds
      = s.dispatchedFeedbackIds ++ [feedback.feedbackId] := by
    simp [FeedbackRun.recordDispatch, createdDispatch, hnew]
  constructor
  case dispatched =>
    simp [FeedbackRun.recordDispatch, createdDispatch, dispatchVerdict,
      h.dispatched]
  case statuses =>
    intro dispatch hdispatch
    rcases List.mem_append.mp hdispatch with hdispatch | hdispatch
    · exact h.statuses dispatch hdispatch
    · rw [List.mem_singleton.mp hdispatch]
      exact .inl rfl
  case created =>
    rw [hids, ← h.created]
    simp [FeedbackRun.recordDispatch, createdDispatch, dispatchVerdict]
  case once =>
    rw [hids, List.nodup_append]
    refine ⟨h.once, List.nodup_singleton _, ?_⟩
    intro id hid other hother heq
    rw [heq, List.mem_singleton.mp hother] at hid
    exact hnew hid
  case becomes =>
    intro other hother
    rw [hids]
    rcases List.mem_append.mp hother with hother | hother
    · exact List.mem_append_left _ (h.becomes other hother)
    · rw [List.mem_singleton.mp hother]
      simp
  case started =>
    rw [hids]
    exact h.started.trans (List.sublist_append_left _ _)
  case counted => exact h.counted
  case limited => exact h.limited

/-- A query behind the need it is started for. -/
theorem FeedbackRun.Accounted.handedOver (h : s.Accounted)
    (hnew : feedback.feedbackId ∉ s.dispatchedFeedbackIds)
    (need : ResearchNeed) (action : SuggestedResearchAction)
    {request : QueryExecutionRequest}
    (hrequest : request.feedbackId = feedback.feedbackId) :
    ((s.recordDispatch feedback
      (createdDispatch feedback need action)).startExecution
        request).Accounted := by
  have hcreated := h.created_new hnew need action
  unfold FeedbackRun.startExecution
  split
  case isFalse => exact { hcreated with }
  case isTrue hlimit =>
    refine { hcreated with started := ?_, counted := ?_, limited := ?_ }
    · -- The id of the request stands at the end of both lists.
      have hids : (s.recordDispatch feedback
          (createdDispatch feedback need action)).dispatchedFeedbackIds
          = s.dispatchedFeedbackIds ++ [feedback.feedbackId] := by
        simp [FeedbackRun.recordDispatch, createdDispatch, hnew]
      show List.Sublist (List.map _ (_ ++ [request])) _
      rw [List.map_append, hids]
      apply List.Sublist.append h.started
      simp [hrequest]
    · show (_ ++ [request]).length = _ + 1
      rw [List.length_append, List.length_singleton]
      exact congrArg (· + 1) h.counted
    · exact hlimit

/-- Whatever is decided about a feedback is accounted for. -/
theorem FeedbackRun.Accounted.fed (h : s.Accounted)
    (hfed : Fed feedback s s') : s'.Accounted := by
  cases hfed with
  | duplicated hmem => exact h.duplicated hmem
  | created hnew need action => exact h.created_new hnew need action
  | handedOver hnew need action request hrequest =>
      exact h.handedOver hnew need action hrequest

end

-- ================================================================= the steps

/-- A feedback of an earlier one's gap and question is not one that was
written for want of a feedback. -/
def ClosureFeedback.Admits (earlier feedback : ClosureFeedback) : Prop :=
  feedback.feedbackId.path = .completeness →
    earlier.gapId = feedback.gapId →
      earlier.questionId ≠ feedback.questionId

/-- What the transactions of a run are made of. -/
inductive FeedStep : FeedbackRun → FeedbackRun → Prop
  | keep (s : FeedbackRun) (table : GapTable) (planVersion : Nat) :
      FeedStep s { s with table, planVersion }
  | feed {s s' : FeedbackRun} {feedback : ClosureFeedback}
      (hdue : ∀ earlier ∈ s.feedbacks, earlier.Admits feedback)
      (hfed : Fed feedback s s') : FeedStep s s'

section

variable {s s' : FeedbackRun}

/-- No step takes a feedback back. -/
theorem FeedStep.grows (h : FeedStep s s') :
    s.feedbacks <+: s'.feedbacks := by
  cases h with
  | keep => exact List.prefix_rfl
  | feed _ hfed =>
      rw [hfed.frame.1]
      exact List.prefix_append _ _

/-- One step keeps the account. -/
theorem FeedStep.accounted (h : FeedStep s s') (hs : s.Accounted) :
    s'.Accounted := by
  cases h with
  | keep => exact { hs with }
  | feed _ hfed => exact hs.fed hfed

/-- One step keeps the feedbacks admissible, each to those before it. -/
theorem FeedStep.admits (h : FeedStep s s')
    (hs : s.feedbacks.Pairwise ClosureFeedback.Admits) :
    s'.feedbacks.Pairwise ClosureFeedback.Admits := by
  cases h with
  | keep => exact hs
  | feed hdue hfed =>
      rw [hfed.frame.1, List.pairwise_append]
      refine ⟨hs, List.pairwise_singleton _ _, ?_⟩
      intro earlier hearlier feedback hfeedback
      rw [List.mem_singleton.mp hfeedback]
      exact hdue earlier hearlier

/-- The feedbacks of a run only grow. -/
theorem steps_grow (h : ReflTransGen FeedStep s s') :
    s.feedbacks <+: s'.feedbacks := by
  induction h with
  | refl => exact List.prefix_rfl
  | tail _ hstep ih => exact ih.trans hstep.grows

/-- Every run keeps the account. -/
theorem steps_accounted (h : ReflTransGen FeedStep s s')
    (hs : s.Accounted) : s'.Accounted := by
  induction h with
  | refl => exact hs
  | tail _ hstep ih => exact hstep.accounted ih

/-- Every run keeps the feedbacks admissible. -/
theorem steps_admit (h : ReflTransGen FeedStep s s')
    (hs : s.feedbacks.Pairwise ClosureFeedback.Admits) :
    s'.feedbacks.Pairwise ClosureFeedback.Admits := by
  induction h with
  | refl => exact hs
  | tail _ hstep ih => exact hstep.admits ih

end

-- ============================================================ the backfill

/-- The feedback that a requirement gets for want of one. -/
def Backfills (requirement : GapRequirement)
    (feedback : ClosureFeedback) : Prop :=
  requirement.closureStatus ≠ .gapClosed
    ∧ generateCompletenessFeedback requirement none = .ok (some feedback)

section

variable {requirement : GapRequirement} {feedback : ClosureFeedback}

/-- A backfilled feedback explains its requirement, under the id of its gap
and for its question. -/
theorem Backfills.spec (h : Backfills requirement feedback) :
    feedback.Explains requirement
      ∧ feedback.feedbackId.gapId = requirement.gapId
      ∧ feedback.questionId = requirement.questionId := by
  obtain ⟨hopen, hgenerate⟩ := h
  unfold generateCompletenessFeedback at hgenerate
  rw [if_neg hopen] at hgenerate
  dsimp only at hgenerate
  split at hgenerate
  case isTrue =>
    injection hgenerate with hsome
    injection hsome with hfeedback
    rw [← hfeedback]
    exact ⟨⟨rfl, rfl⟩, rfl, rfl⟩
  case isFalse => cases hgenerate

/-- An open requirement gets one unless what it misses has a blank
name. -/
theorem backfills_iff (hopen : requirement.closureStatus ≠ .gapClosed) :
    (∃ feedback, Backfills requirement feedback)
      ↔ Nonblank (completenessMissing requirement
        (deriveFeedbackReason requirement none)).toList := by
  unfold Backfills generateCompletenessFeedback
  rw [if_neg hopen]
  dsimp only
  split
  case isTrue hmissing => exact ⟨fun _ => hmissing, fun _ => ⟨_, hopen, rfl⟩⟩
  case isFalse hblank =>
    refine iff_of_false ?_ hblank
    intro h
    obtain ⟨feedback, -, heq⟩ := h
    cases heq

/-- One of two requirements of one table. -/
theorem find?_gapId {requirements : List GapRequirement}
    (hnodup : (requirements.map (·.gapId)).Nodup)
    (hmem : requirement ∈ requirements) :
    requirements.reverse.find? (·.gapId = requirement.gapId)
      = some requirement := by
  have hreverse : (requirements.reverse.map (·.gapId)).Nodup := by
    rw [List.map_reverse]
    exact List.nodup_reverse.mpr hnodup
  exact Table.lookup_of_mem hreverse (List.mem_reverse.mpr hmem)

/-- The feedbacks of a backfill are all dispatched, as steps of the
run. -/
theorem dispatchBackfilled_steps {requirements : List GapRequirement}
    {alreadyDispatched : List FeedbackId}
    (hnodup : (requirements.map (·.gapId)).Nodup)
    (feedbacks : List ClosureFeedback) (s : FeedbackRun)
    (hback : ∀ feedback ∈ feedbacks, ∃ requirement ∈ requirements,
      Backfills requirement feedback)
    (hdistinct : (feedbacks.map (·.gapId)).Nodup)
    (halready : ∀ feedback ∈ feedbacks,
      feedback.feedbackId ∈ alreadyDispatched
        ↔ feedback.feedbackId ∈ s.dispatchedFeedbackIds)
    (hdue : ∀ feedback ∈ feedbacks, ∀ earlier ∈ s.feedbacks,
      earlier.Admits feedback) :
    ∃ s', FeedbackRun.dispatchBackfilled alreadyDispatched requirements
        feedbacks s = some s'
      ∧ ReflTransGen FeedStep s s'
      ∧ s'.feedbacks = s.feedbacks ++ feedbacks
      ∧ s'.runId = s.runId ∧ s'.planVersion = s.planVersion
      ∧ s'.table = s.table := by
  induction feedbacks generalizing s with
  | nil => exact ⟨s, rfl, .refl, (List.append_nil _).symm, rfl, rfl, rfl⟩
  | cons feedback feedbacks ih =>
      rw [List.map_cons, List.nodup_cons] at hdistinct
      rw [List.forall_mem_cons] at hback halready hdue
      obtain ⟨⟨requirement, hmem, hbackfills⟩, hback⟩ := hback
      obtain ⟨hexplains, hgap, hquestion⟩ := hbackfills.spec
      obtain ⟨s₁, hdispatch, hfed⟩ := dispatchClosureFeedback_fed
        hbackfills.1 hexplains halready.1
      obtain ⟨hlog, hrun, hplan, htable⟩ := hfed.frame
      -- The feedbacks that are still to come are of other gaps.
      have hother : ∀ later ∈ feedbacks, later.gapId ≠ feedback.gapId :=
        fun later hlater heq =>
          hdistinct.1 (heq ▸ List.mem_map_of_mem hlater)
      have halready₁ : ∀ later ∈ feedbacks,
          later.feedbackId ∈ alreadyDispatched
            ↔ later.feedbackId ∈ s₁.dispatchedFeedbackIds := by
        intro later hlater
        obtain ⟨owner, -, howner⟩ := hback later hlater
        obtain ⟨hexplains', hgap', -⟩ := howner.spec
        have hne : later.feedbackId ≠ feedback.feedbackId := by
          intro heq
          apply hother later hlater
          rw [hexplains'.gapId, ← hgap', heq, hgap, hexplains.gapId]
        rw [hfed.mem_dispatched, halready.2 later hlater]
        simp [hne]
      have hdue₁ : ∀ later ∈ feedbacks, ∀ earlier ∈ s₁.feedbacks,
          earlier.Admits later := by
        intro later hlater earlier hearlier
        rw [hlog] at hearlier
        rcases List.mem_append.mp hearlier with hearlier | hearlier
        · exact hdue.2 later hlater earlier hearlier
        · intro _ heq
          rw [List.mem_singleton.mp hearlier] at heq
          exact absurd heq.symm (hother later hlater)
      obtain ⟨s', hrest, hsteps, hlog', hrun', hplan', htable'⟩ :=
        ih s₁ hback hdistinct.2 halready₁ hdue₁
      refine ⟨s', ?_, ?_, ?_, hrun'.trans hrun, hplan'.trans hplan,
        htable'.trans htable⟩
      · unfold FeedbackRun.dispatchBackfilled
        rw [hexplains.gapId, find?_gapId hnodup hmem]
        dsimp only
        rw [hdispatch]
        exact hrest
      · exact .head (.feed hdue.1 hfed) hsteps
      · rw [hlog', hlog]
        simp

end

-- ================================================== the pass and the end

section

variable {existing : FeedbackIds} {requirement : GapRequirement}

/-- A gap without an entry. -/
theorem get?_eq_none_iff {gapId : GapId} :
    existing.get? gapId = none ↔ ∀ entry ∈ existing, entry.1 ≠ gapId := by
  unfold FeedbackIds.get?
  simp

/-- The open requirements that have no feedback. -/
def unexplained (existing : FeedbackIds) (requirement : GapRequirement) :
    Bool :=
  requirement.closureStatus ≠ .gapClosed
    && (existing.get? requirement.gapId).isNone

/-- The completeness pass looks for gaps that are not closed and have no
feedback. -/
theorem unexplained_iff :
    unexplained existing requirement = true
      ↔ requirement.closureStatus ≠ .gapClosed
        ∧ existing.get? requirement.gapId = none := by
  simp [unexplained]

/-- The generator of a feedback that is due, in a verdict. -/
theorem generated_cases {v : CompletenessVerdict}
    (hopen : requirement.closureStatus ≠ .gapClosed)
    (h : (generateCompletenessFeedback requirement none).map
      (fun feedback => feedback.elim .noFeedbackGenerated .generated)
        = .ok v) :
    ∃ feedback, v = .generated feedback
      ∧ Backfills requirement feedback := by
  cases hgenerate : generateCompletenessFeedback requirement none with
  | error e =>
      rw [hgenerate] at h
      cases h
  | ok outcome =>
      rw [hgenerate] at h
      injection h with h
      cases outcome with
      | some feedback => exact ⟨feedback, h.symm, hopen, hgenerate⟩
      | none =>
          -- Of an open requirement there is a feedback or an error.
          unfold generateCompletenessFeedback at hgenerate
          rw [if_neg hopen] at hgenerate
          dsimp only at hgenerate
          split at hgenerate
          · cases hgenerate
          · cases hgenerate

/-- A turn for a gap that has no feedback generates one. -/
theorem completenessVerdict_due
    (hdue : unexplained existing requirement = true)
    (verdict : CompletenessVerdict) :
    completenessVerdict existing requirement = .ok verdict
      ↔ ∃ feedback, verdict = .generated feedback
        ∧ Backfills requirement feedback := by
  obtain ⟨hopen, hnone⟩ := unexplained_iff.mp hdue
  unfold completenessVerdict
  rw [if_neg hopen, hnone]
  constructor
  · exact generated_cases hopen
  · intro h
    obtain ⟨feedback, hverdict, hback⟩ := h
    rw [hverdict]
    dsimp only
    rw [hback.2]
    rfl

/-- A turn for any other gap generates none. -/
theorem completenessVerdict_idle
    (hidle : unexplained existing requirement = false) :
    ∃ verdict, completenessVerdict existing requirement = .ok verdict
      ∧ verdict.feedback? = none := by
  unfold completenessVerdict
  by_cases hclosed : requirement.closureStatus = .gapClosed
  · rw [if_pos hclosed]
    exact ⟨_, rfl, rfl⟩
  · rw [if_neg hclosed]
    cases hget : existing.get? requirement.gapId with
    | some feedbackId => exact ⟨_, rfl, rfl⟩
    | none =>
        have hdue := unexplained_iff.mpr ⟨hclosed, hget⟩
        rw [hidle] at hdue
        cases hdue

/-- The feedbacks of a pass are those of the open gaps that have none. -/
theorem completenessPass_generates {requirements : List GapRequirement}
    {verdicts : List CompletenessVerdict}
    (h : completenessPass requirements existing = .ok verdicts) :
    List.Forall₂ Backfills (requirements.filter (unexplained existing))
      (verdicts.filterMap (·.feedback?)) := by
  refine Outcome.forall₂_filter_of_mapM ?_ ?_ h
  · intro requirement verdict hdue hverdict
    obtain ⟨feedback, rfl, hback⟩ :=
      (completenessVerdict_due hdue verdict).mp hverdict
    exact ⟨feedback, rfl, hback⟩
  · intro requirement verdict hidle hverdict
    obtain ⟨verdict', hverdict', hnone⟩ := completenessVerdict_idle hidle
    cases hverdict.symm.trans hverdict'
    exact hnone

/-- A pass raises where an open gap has no feedback and what it misses has
a blank name. -/
theorem completenessPass_returns_iff {requirements : List GapRequirement} :
    (∃ verdicts, completenessPass requirements existing = .ok verdicts)
      ↔ ∀ requirement ∈ requirements,
        unexplained existing requirement = true →
          Nonblank (completenessMissing requirement
            (deriveFeedbackReason requirement none)).toList := by
  unfold completenessPass
  rw [Outcome.mapM_ok_iff]
  refine forall₂_congr fun requirement _ => ?_
  cases hdue : unexplained existing requirement with
  | false =>
      obtain ⟨verdict, hverdict, -⟩ := completenessVerdict_idle hdue
      simp [hverdict]
  | true =>
      rw [← backfills_iff (unexplained_iff.mp hdue).1]
      simp [completenessVerdict_due hdue]

-- ============================================== the finalization as a pass

/-- The verdict of the finalization in place of the one of the pass. -/
def CompletenessVerdict.finalize : CompletenessVerdict →
    FinalizationVerdict
  | .closedGap => .existingComplete
  | .feedbackExists feedbackId => .existingFeedback feedbackId
  | .noFeedbackGenerated => .blocked
  | .generated feedback => .generatedFeedback feedback

/-- Finalization changes a verdict and none of its feedback. -/
theorem feedback?_finalize (verdict : CompletenessVerdict) :
    verdict.finalize.feedback? = verdict.feedback? := by
  cases verdict <;> rfl

/-- Of a run that was not cut short the finalization is a pass. -/
theorem finalizeRunClosureFeedback_live
    (requirements : List GapRequirement) :
    finalizeRunClosureFeedback requirements existing none
      = (completenessPass requirements existing).map
        (List.map CompletenessVerdict.finalize) := by
  unfold finalizeRunClosureFeedback completenessPass
  rw [← Outcome.mapM_map]
  refine congrArg (requirements.mapM ·) (funext fun requirement => ?_)
  unfold finalizationVerdict completenessVerdict
  split
  · rfl
  · cases existing.get? requirement.gapId with
    | some feedbackId => rfl
    | none =>
        cases generateCompletenessFeedback requirement none with
        | error e => rfl
        | ok outcome =>
            cases outcome with
            | none => rfl
            | some feedback => rfl

/-- Of a run that was cut short it generates nothing. -/
theorem finalizeRunClosureFeedback_terminal (existing : FeedbackIds)
    (reason : String) (requirements : List GapRequirement) :
    ∃ verdicts,
      finalizeRunClosureFeedback requirements existing (some reason)
          = .ok verdicts
        ∧ verdicts.filterMap (·.feedback?) = [] := by
  have hturn : ∀ requirement, ∃ verdict,
      finalizationVerdict existing (some reason) requirement = .ok verdict
        ∧ verdict.feedback? = none := by
    intro requirement
    unfold finalizationVerdict
    split
    · exact ⟨_, rfl, rfl⟩
    · cases existing.get? requirement.gapId with
      | some feedbackId => exact ⟨_, rfl, rfl⟩
      | none => exact ⟨_, rfl, rfl⟩
  obtain ⟨verdicts, hverdicts⟩ := (Outcome.mapM_ok_iff
      (finalizationVerdict existing (some reason)) requirements).mpr
    fun requirement _ => by
      obtain ⟨verdict, hverdict, -⟩ := hturn requirement
      exact ⟨verdict, hverdict⟩
  refine ⟨verdicts, hverdicts, List.filterMap_eq_nil_iff.mpr ?_⟩
  intro verdict hmem
  obtain ⟨requirement, -, heq⟩ := Outcome.mem_mapM_ok hverdicts verdict hmem
  obtain ⟨verdict', hverdict', hnone⟩ := hturn requirement
  cases heq.symm.trans hverdict'
  exact hnone

end

-- ====================================================== a backfill of a run

namespace FeedbackRun

variable {s s' : FeedbackRun}

/-- A pass over requirements, and the dispatch of what it generates. -/
def backfill (s : FeedbackRun) (requirements : List GapRequirement)
    (existing : FeedbackIds) : Option FeedbackRun :=
  match completenessPass requirements existing with
  | .error _ => none
  | .ok verdicts =>
      dispatchBackfilled s.dispatchedFeedbackIds requirements
        (verdicts.filterMap (·.feedback?)) s

theorem runFeedbackCompletenessPass_eq (questionId : String)
    (planVersion : Nat) (written : FeedbackIds) :
    s.runFeedbackCompletenessPass questionId planVersion written
      = s.backfill (s.questionRequirements questionId planVersion)
        (written ++ s.closureFeedbackIds (some questionId)) := rfl

/-- A run that has not ended is backfilled as in the pass. -/
theorem finalizeRunClosureFeedback_of_live {stopReason : Option String}
    (hlive : terminalReason stopReason = none) :
    s.finalizeRunClosureFeedback stopReason
      = s.backfill s.planRequirements (s.closureFeedbackIds none) := by
  unfold FeedbackRun.finalizeRunClosureFeedback backfill
  rw [hlive, finalizeRunClosureFeedback_live]
  cases completenessPass s.planRequirements (s.closureFeedbackIds none) with
  | error e => rfl
  | ok verdicts =>
      dsimp only [Except.map]
      rw [List.filterMap_map]
      exact congrArg (dispatchBackfilled _ _ · s)
        (List.filterMap_congr fun verdict _ => feedback?_finalize verdict)

theorem finalizeRunClosureFeedback_of_terminal
    {stopReason : Option String}
    (hterminal : terminalReason stopReason ≠ none) :
    s.finalizeRunClosureFeedback stopReason = some s := by
  obtain ⟨reason, hreason⟩ := Option.ne_none_iff_exists'.mp hterminal
  obtain ⟨verdicts, hverdicts, hnone⟩ :=
    finalizeRunClosureFeedback_terminal (s.closureFeedbackIds none) reason
      s.planRequirements
  unfold FeedbackRun.finalizeRunClosureFeedback
  rw [hreason, hverdicts]
  dsimp only
  rw [hnone]
  rfl

/-- A gap has a feedback. -/
def Explained (s : FeedbackRun) (gapId : GapId) : Prop :=
  ∃ feedback ∈ s.feedbacks, feedback.gapId = gapId

/-- What is explained stays explained while feedbacks are added. -/
theorem Explained.mono {gapId : GapId} (h : s.Explained gapId)
    (hgrows : s.feedbacks <+: s'.feedbacks) : s'.Explained gapId := by
  obtain ⟨feedback, hmem, hgap⟩ := h
  exact ⟨feedback, hgrows.subset hmem, hgap⟩

/-- A backfill returns unless something that is missing has no name, is
steps of the run, and explains every open gap. -/
theorem backfill_spec {requirements : List GapRequirement}
    {existing : FeedbackIds}
    (hnodup : (requirements.map (·.gapId)).Nodup)
    (hlisted : ∀ entry ∈ existing, s.Explained entry.1)
    (hfresh : ∀ requirement ∈ requirements,
      existing.get? requirement.gapId = none → ∀ earlier ∈ s.feedbacks,
        earlier.gapId = requirement.gapId →
          earlier.questionId ≠ requirement.questionId) :
    ((∃ s', s.backfill requirements existing = some s')
        ↔ ∀ requirement ∈ requirements,
          unexplained existing requirement = true →
            Nonblank (completenessMissing requirement
              (deriveFeedbackReason requirement none)).toList)
      ∧ ∀ s', s.backfill requirements existing = some s' →
        ReflTransGen FeedStep s s' ∧ s'.runId = s.runId
          ∧ s'.planVersion = s.planVersion ∧ s'.table = s.table
          ∧ ∀ requirement ∈ requirements,
            requirement.closureStatus ≠ .gapClosed →
              s'.Explained requirement.gapId := by
  rw [← completenessPass_returns_iff]
  unfold backfill
  cases hpass : completenessPass requirements existing with
  | error e => simp
  | ok verdicts =>
      have hgenerates := completenessPass_generates hpass
      have hback : ∀ feedback ∈ verdicts.filterMap (·.feedback?),
          ∃ requirement ∈ requirements,
            existing.get? requirement.gapId = none
              ∧ Backfills requirement feedback := by
        intro feedback hfeedback
        obtain ⟨requirement, hmem, hbackfills⟩ :=
          Outcome.exists_of_mem_forall₂ hgenerates hfeedback
        obtain ⟨hmem, hdue⟩ := List.mem_filter.mp hmem
        exact ⟨requirement, hmem, (unexplained_iff.mp hdue).2, hbackfills⟩
      -- The feedbacks are of the unexplained gaps, one by one.
      have hgaps : (verdicts.filterMap (·.feedback?)).map (·.gapId)
          = (requirements.filter (unexplained existing)).map (·.gapId) := by
        rw [← List.forall₂_eq_eq_eq, List.forall₂_map_left_iff,
          List.forall₂_map_right_iff]
        apply hgenerates.flip.imp
        intro feedback requirement hbackfills
        exact (Backfills.spec hbackfills).1.gapId
      obtain ⟨s₁, hdispatch, hsteps, hlog, hrun, hplan, htable⟩ :=
        dispatchBackfilled_steps hnodup (verdicts.filterMap (·.feedback?)) s
          (fun feedback hfeedback => by
            obtain ⟨requirement, hmem, -, hbackfills⟩ :=
              hback feedback hfeedback
            exact ⟨requirement, hmem, hbackfills⟩)
          (by
            rw [hgaps]
            exact hnodup.sublist (List.filter_sublist.map _))
          (fun _ _ => Iff.rfl)
          (fun feedback hfeedback earlier hearlier _ hgap => by
            obtain ⟨requirement, hmem, hnone, hbackfills⟩ :=
              hback feedback hfeedback
            obtain ⟨hexplains, -, hquestion⟩ := hbackfills.spec
            rw [hquestion]
            exact hfresh requirement hmem hnone earlier hearlier
              (hgap.trans hexplains.gapId))
      refine ⟨iff_of_true ⟨s₁, hdispatch⟩ ⟨verdicts, rfl⟩, ?_⟩
      intro s' hs'
      cases hdispatch.symm.trans hs'
      refine ⟨hsteps, hrun, hplan, htable, ?_⟩
      intro requirement hmem hopen
      cases hget : existing.get? requirement.gapId with
      | some feedbackId =>
          -- It was listed, and what is explained stays explained.
          unfold FeedbackIds.get? at hget
          obtain ⟨entry, hfind, -⟩ := Option.map_eq_some_iff.mp hget
          have hentry := hlisted entry (List.mem_of_find?_eq_some hfind)
          have hkey : entry.1 = requirement.gapId := by
            simpa using List.find?_some hfind
          rw [hkey] at hentry
          exact hentry.mono (steps_grow hsteps)
      | none =>
          have hdue : requirement.gapId
              ∈ (verdicts.filterMap (·.feedback?)).map (·.gapId) := by
            rw [hgaps]
            exact List.mem_map_of_mem
              (List.mem_filter.mpr ⟨hmem, unexplained_iff.mpr ⟨hopen, hget⟩⟩)
          obtain ⟨feedback, hfeedback, hgap⟩ := List.mem_map.mp hdue
          refine ⟨feedback, ?_, hgap⟩
          rw [hlog]
          exact List.mem_append_right _ hfeedback

/-- Where every open gap has a feedback there is nothing to do. -/
theorem backfill_of_explained {requirements : List GapRequirement}
    {existing : FeedbackIds}
    (h : ∀ requirement ∈ requirements,
      unexplained existing requirement = false) :
    s.backfill requirements existing = some s := by
  have hnone : requirements.filter (unexplained existing) = [] := by
    rw [List.filter_eq_nil_iff]
    intro requirement hmem
    simp [h requirement hmem]
  obtain ⟨verdicts, hpass⟩ :
      ∃ verdicts, completenessPass requirements existing = .ok verdicts := by
    rw [completenessPass_returns_iff]
    intro requirement hmem hdue
    rw [h requirement hmem] at hdue
    cases hdue
  have hgenerates := completenessPass_generates hpass
  rw [hnone, List.forall₂_nil_left_iff] at hgenerates
  unfold backfill
  rw [hpass]
  dsimp only
  rw [hgenerates]
  rfl

-- ================================================================ the writers

/-- The ids that are read from the log. -/
theorem closureFeedbackIds_explained {questionId : Option String}
    {entry : GapId × FeedbackId}
    (h : entry ∈ s.closureFeedbackIds questionId) :
    s.Explained entry.1 := by
  obtain ⟨feedback, hmem, rfl⟩ := List.mem_map.mp h
  exact ⟨feedback, (List.mem_filter.mp hmem).1, rfl⟩

/-- A gap that is not in them has no feedback of the question. -/
theorem fresh_of_get?_eq_none {questionId : Option String}
    {written : FeedbackIds} {gapId : GapId}
    (h : (written ++ s.closureFeedbackIds questionId).get? gapId = none)
    {earlier : ClosureFeedback} (hearlier : earlier ∈ s.feedbacks)
    (hgap : earlier.gapId = gapId) :
    questionId.all (earlier.questionId = ·) = false := by
  rw [get?_eq_none_iff] at h
  by_contra hall
  rw [Bool.not_eq_false] at hall
  have hentry : (earlier.gapId, earlier.feedbackId)
      ∈ s.closureFeedbackIds questionId :=
    List.mem_map_of_mem (f := fun feedback =>
        (feedback.gapId, feedback.feedbackId))
      (List.mem_filter.mpr ⟨hearlier, hall⟩)
  exact h _ (List.mem_append_right _ hentry) hgap

/-- The log of a run tells exactly which gaps are explained. -/
theorem get?_ids_eq_none_iff {gapId : GapId} :
    (s.closureFeedbackIds none).get? gapId = none
      ↔ ¬ s.Explained gapId := by
  constructor
  · intro hnone hexplained
    obtain ⟨feedback, hmem, hgap⟩ := hexplained
    have hnone' : FeedbackIds.get? ([] ++ s.closureFeedbackIds none) gapId
        = none := hnone
    have hother := fresh_of_get?_eq_none hnone' hmem hgap
    cases hother
  · intro hnot
    rw [get?_eq_none_iff]
    intro entry hentry heq
    apply hnot
    rw [← heq]
    exact closureFeedbackIds_explained hentry

/-- The pass over a question. -/
theorem runFeedbackCompletenessPass_spec {questionId : String}
    {planVersion : Nat} {written : FeedbackIds}
    (hwritten : ∀ entry ∈ written, s.Explained entry.1)
    (h : s.runFeedbackCompletenessPass questionId planVersion written
      = some s') :
    ReflTransGen FeedStep s s'
      ∧ ∀ requirement ∈ s'.questionRequirements questionId planVersion,
        requirement.closureStatus ≠ .gapClosed →
          s'.Explained requirement.gapId := by
  rw [runFeedbackCompletenessPass_eq] at h
  have hlisted : ∀ entry
      ∈ written ++ s.closureFeedbackIds (some questionId),
      s.Explained entry.1 := by
    intro entry hentry
    rcases List.mem_append.mp hentry with hentry | hentry
    · exact hwritten entry hentry
    · exact closureFeedbackIds_explained hentry
  have hnodup : ((s.questionRequirements questionId planVersion).map
      (·.gapId)).Nodup :=
    s.table.nodup.sublist (List.filter_sublist.map _)
  have hfresh : ∀ requirement
      ∈ s.questionRequirements questionId planVersion,
      (written ++ s.closureFeedbackIds (some questionId)).get?
          requirement.gapId = none →
        ∀ earlier ∈ s.feedbacks, earlier.gapId = requirement.gapId →
          earlier.questionId ≠ requirement.questionId := by
    intro requirement hmem hnone earlier hearlier hgap heq
    have hquestion : requirement.questionId = questionId := by
      have hrow := (List.mem_filter.mp hmem).2
      simp only [Bool.and_eq_true, decide_eq_true_eq] at hrow
      exact hrow.1.2
    have hother := fresh_of_get?_eq_none hnone hearlier hgap
    simp [heq, hquestion] at hother
  obtain ⟨hsteps, hrun, -, htable, hexplained⟩ :=
    (backfill_spec hnodup hlisted hfresh).2 s' h
  refine ⟨hsteps, ?_⟩
  unfold questionRequirements at hexplained ⊢
  rw [htable, hrun]
  exact hexplained

/-- The finalization of a run. -/
theorem finalizeRunClosureFeedback_spec {stopReason : Option String}
    (hlive : terminalReason stopReason = none) :
    ((∃ s', s.finalizeRunClosureFeedback stopReason = some s')
        ↔ ∀ requirement ∈ s.planRequirements,
          requirement.closureStatus ≠ .gapClosed →
            ¬ s.Explained requirement.gapId →
              Nonblank (completenessMissing requirement
                (deriveFeedbackReason requirement none)).toList)
      ∧ ∀ s', s.finalizeRunClosureFeedback stopReason = some s' →
        ReflTransGen FeedStep s s'
          ∧ s'.planRequirements = s.planRequirements
          ∧ ∀ requirement ∈ s'.planRequirements,
            requirement.closureStatus ≠ .gapClosed →
              s'.Explained requirement.gapId := by
  rw [finalizeRunClosureFeedback_of_live hlive]
  have hnodup : (s.planRequirements.map (·.gapId)).Nodup :=
    s.table.nodup.sublist (List.filter_sublist.map _)
  obtain ⟨hreturns, hspec⟩ := backfill_spec hnodup
    (fun _ => closureFeedbackIds_explained)
    (fun requirement _ hnone earlier hearlier hgap _ =>
      get?_ids_eq_none_iff.mp hnone ⟨earlier, hearlier, hgap⟩)
  constructor
  · rw [hreturns]
    simp only [unexplained_iff, get?_ids_eq_none_iff, and_imp]
  · intro s' hs'
    obtain ⟨hsteps, hrun, hplan, htable, hexplained⟩ := hspec s' hs'
    have hsame : s'.planRequirements = s.planRequirements := by
      unfold planRequirements
      rw [htable, hrun, hplan]
    refine ⟨hsteps, hsame, ?_⟩
    rw [hsame]
    exact hexplained

/-- An evaluation tells the status of the requirement it comes to. -/
theorem closureExecution_status {context : ClosureEvaluationContext}
    {requirement : GapRequirement} {now : Nat}
    {execution : ClosureEvaluationExecution}
    (h : closureExecution context requirement now = .ok execution) :
    execution.result.afterStatus = execution.requirement.closureStatus := by
  unfold closureExecution at h
  cases hevaluate : closureEvaluatorEvaluate context requirement now with
  | error e =>
      rw [hevaluate] at h
      cases h
  | ok after =>
      rw [hevaluate] at h
      injection h with heq
      rw [← heq]

/-- The feedback of an evaluation explains its requirement. -/
theorem generateClosureFeedback_some
    {execution : ClosureEvaluationExecution} {metadata : ResearchContext}
    {feedback : ClosureFeedback}
    (h : generateClosureFeedback execution metadata = .ok (some feedback)) :
    execution.result.afterStatus ≠ .gapClosed
      ∧ feedback.Explains execution.requirement
      ∧ feedback.feedbackId.path = .closure := by
  unfold generateClosureFeedback at h
  dsimp only at h
  split at h
  case isTrue => cases h
  case isFalse hopen =>
    split at h
    case isFalse => cases h
    case isTrue =>
      injection h with hsome
      injection hsome with hfeedback
      rw [← hfeedback]
      exact ⟨hopen, ⟨rfl, rfl⟩, rfl⟩

/-- It is one step of the run, and is in what the evaluation has
written. -/
theorem emitClosureFeedback_steps {context : ClosureEvaluationContext}
    {requirement : GapRequirement} {now : Nat}
    {execution : ClosureEvaluationExecution} {metadata : ResearchContext}
    {ids : FeedbackIds}
    (hexecution : closureExecution context requirement now = .ok execution)
    (h : s.emitClosureFeedback execution metadata = some (s', ids)) :
    ReflTransGen FeedStep s s' ∧ ∀ entry ∈ ids, s'.Explained entry.1 := by
  unfold emitClosureFeedback at h
  cases hgenerate : generateClosureFeedback execution metadata with
  | error e =>
      rw [hgenerate] at h
      cases h
  | ok outcome =>
      rw [hgenerate] at h
      cases outcome with
      | none =>
          cases h
          exact ⟨.refl, fun entry hentry => absurd hentry List.not_mem_nil⟩
      | some feedback =>
          obtain ⟨hopen, hexplains, hpath⟩ :=
            generateClosureFeedback_some hgenerate
          rw [closureExecution_status hexecution] at hopen
          obtain ⟨s₁, hdispatch, hfed⟩ :=
            dispatchClosureFeedback_fed (s := s) hopen hexplains Iff.rfl
          dsimp only at h
          rw [hdispatch] at h
          cases h
          have hdue : ∀ earlier ∈ s.feedbacks, earlier.Admits feedback := by
            intro earlier _ hcompleteness
            rw [hpath] at hcompleteness
            cases hcompleteness
          refine ⟨.single (.feed hdue hfed), ?_⟩
          intro entry hentry
          rw [List.mem_singleton.mp hentry]
          refine ⟨feedback, ?_, rfl⟩
          rw [hfed.frame.1]
          exact List.mem_append_right _ (List.mem_singleton_self _)

theorem keep_table (s : FeedbackRun) (table : GapTable) :
    FeedStep s { s with table } := .keep s table s.planVersion

variable {analysis : FeedbackAnalysis} {target : AlignmentTarget}
  {now : Nat} {ids : FeedbackIds}

/-- One evaluation. -/
theorem evaluateDimension_steps {batch : EvidenceBatch}
    (h : s.evaluateDimension analysis target now batch = some (s', ids)) :
    ReflTransGen FeedStep s s' ∧ ∀ entry ∈ ids, s'.Explained entry.1 := by
  unfold evaluateDimension at h
  split at h
  · cases h
    exact ⟨.refl, fun entry hentry => absurd hentry List.not_mem_nil⟩
  · dsimp only at h
    split at h
    · cases h
      exact ⟨.refl, fun entry hentry => absurd hentry List.not_mem_nil⟩
    · split at h
      · cases h
      · rename_i execution hexecution
        obtain ⟨table, -, hemit⟩ := Option.bind_eq_some_iff.mp h
        obtain ⟨hsteps, hids⟩ := emitClosureFeedback_steps hexecution hemit
        exact ⟨.head (keep_table s table) hsteps, hids⟩

/-- The loop over the evaluations. -/
theorem evaluateDimensions_steps (batches : List EvidenceBatch)
    {written : FeedbackIds} (hids : ∀ entry ∈ ids, s.Explained entry.1)
    (h : evaluateDimensions analysis target now batches (s, ids)
      = some (s', written)) :
    ReflTransGen FeedStep s s'
      ∧ ∀ entry ∈ written, s'.Explained entry.1 := by
  induction batches generalizing s ids with
  | nil =>
      cases h
      exact ⟨.refl, hids⟩
  | cons batch batches ih =>
      unfold evaluateDimensions at h
      obtain ⟨⟨s₁, ids₁⟩, hfirst, hrest⟩ := Option.bind_eq_some_iff.mp h
      obtain ⟨hsteps, hids₁⟩ := evaluateDimension_steps hfirst
      have hboth : ∀ entry ∈ ids₁ ++ ids, s₁.Explained entry.1 := by
        intro entry hentry
        rcases List.mem_append.mp hentry with hentry | hentry
        · exact hids₁ entry hentry
        · exact (hids entry hentry).mono (steps_grow hsteps)
      obtain ⟨hsteps', hwritten⟩ := ih hboth hrest
      exact ⟨hsteps.trans hsteps', hwritten⟩

/-- The loop over the acceptance dimensions. -/
theorem ensureRequirements_steps (dimensions : List (String × String))
    (h : ensureRequirements target now dimensions s = some s') :
    ReflTransGen FeedStep s s' := by
  induction dimensions generalizing s with
  | nil =>
      cases h
      exact .refl
  | cons dimension dimensions ih =>
      unfold ensureRequirements at h
      obtain ⟨table, -, hrest⟩ := Option.bind_eq_some_iff.mp h
      exact .head (keep_table s table) (ih hrest)

/-- The alignment of new evidence. -/
theorem alignAndEvaluate_spec {batches : List EvidenceBatch}
    (h : s.alignAndEvaluate analysis target batches now = some s') :
    ReflTransGen FeedStep s s'
      ∧ ∀ requirement
          ∈ s'.questionRequirements target.questionId target.planVersion,
        requirement.closureStatus ≠ .gapClosed →
          s'.Explained requirement.gapId := by
  unfold alignAndEvaluate at h
  obtain ⟨s₁, hensure, h⟩ := Option.bind_eq_some_iff.mp h
  obtain ⟨⟨s₂, written⟩, hevaluate, hpass⟩ := Option.bind_eq_some_iff.mp h
  obtain ⟨hevaluations, hwritten⟩ := evaluateDimensions_steps batches
    (fun entry hentry => absurd hentry List.not_mem_nil) hevaluate
  obtain ⟨hbackfill, hexplained⟩ :=
    runFeedbackCompletenessPass_spec hwritten hpass
  exact ⟨(ensureRequirements_steps _ hensure).trans
    (hevaluations.trans hbackfill), hexplained⟩

end FeedbackRun

-- ================================================================== the runs

section

variable {s s' : FeedbackRun} {analysis : FeedbackAnalysis}

/-- A transaction is a sequence of steps. -/
theorem apply_steps {transaction : FeedbackTransaction}
    (h : transaction.apply analysis s = some s') :
    ReflTransGen FeedStep s s' := by
  cases transaction with
  | alignAndEvaluate target batches now =>
      exact (FeedbackRun.alignAndEvaluate_spec h).1
  | projectRequirements planVersion stateVersion coverageMap claimStates
      now =>
      obtain ⟨table, -, heq⟩ := Option.map_eq_some_iff.mp h
      rw [← heq]
      exact .single (FeedbackRun.keep_table s table)
  | finalize stopReason =>
      have hfinalize : s.finalizeRunClosureFeedback stopReason = some s' := h
      by_cases hlive : FeedbackRun.terminalReason stopReason = none
      · exact ((FeedbackRun.finalizeRunClosureFeedback_spec hlive).2 s'
          hfinalize).1
      · rw [FeedbackRun.finalizeRunClosureFeedback_of_terminal hlive]
          at hfinalize
        cases hfinalize
        exact .refl
  | savePlan planVersion =>
      cases h
      exact .single (.keep s s.table planVersion)

/-- So is a run. -/
theorem exec_steps (analysis : FeedbackAnalysis) (s : FeedbackRun)
    (transactions : List FeedbackTransaction) :
    ReflTransGen FeedStep s
      ((feedbackRunSystem analysis).exec s transactions) := by
  induction transactions generalizing s with
  | nil => exact .refl
  | cons transaction transactions ih =>
      rw [Transition.System.exec_cons]
      refine ReflTransGen.trans ?_ (ih _)
      show ReflTransGen FeedStep s
        ((transaction.apply analysis s).getD s)
      cases happly : transaction.apply analysis s with
      | none => exact .refl
      | some s₁ => exact apply_steps happly

end

-- ============================================================== the theorems

/-- A run that has no gaps yet. -/
def FeedbackRun.fresh (runId : RunId) (planVersion : Nat) : FeedbackRun :=
  { runId, planVersion, table := { rows := [], nodup := List.nodup_nil } }

/-- After any transactions the accounts agree with the log: each feedback
was dispatched, its id became a need once, at most one query was started
for it, and at most two were started in all. -/
theorem feedback_accounted (analysis : FeedbackAnalysis) (runId : RunId)
    (planVersion : Nat) (transactions : List FeedbackTransaction) :
    ((feedbackRunSystem analysis).exec (.fresh runId planVersion)
      transactions).Accounted := by
  apply steps_accounted (exec_steps analysis _ transactions)
  constructor
  case dispatched => rfl
  case statuses => exact fun _ h => absurd h List.not_mem_nil
  case created => rfl
  case once => exact List.nodup_nil
  case becomes => exact fun _ h => absurd h List.not_mem_nil
  case started => exact List.Sublist.slnil
  case counted => rfl
  case limited => exact Nat.zero_le _

/-- A feedback for want of one is the first of its gap and question. So
a gap whose question stays the same gets at most one over the run. -/
theorem completeness_feedback_first (analysis : FeedbackAnalysis)
    (runId : RunId) (planVersion : Nat)
    (transactions : List FeedbackTransaction) :
    ((feedbackRunSystem analysis).exec (.fresh runId planVersion)
      transactions).feedbacks.Pairwise ClosureFeedback.Admits :=
  steps_admit (exec_steps analysis _ transactions) List.Pairwise.nil

/-- Once new evidence is aligned with a question, every gap that it leaves
open has a feedback, in every later state of the run. -/
theorem alignment_explains {s s' : FeedbackRun} {analysis : FeedbackAnalysis}
    {target : AlignmentTarget} {batches : List EvidenceBatch} {now : Nat}
    (h : s.alignAndEvaluate analysis target batches now = some s')
    (later : List FeedbackTransaction) :
    ∀ requirement
        ∈ s'.questionRequirements target.questionId target.planVersion,
      requirement.closureStatus ≠ .gapClosed →
        ((feedbackRunSystem analysis).exec s' later).Explained
          requirement.gapId := by
  intro requirement hmem hopen
  have hexplained :=
    (FeedbackRun.alignAndEvaluate_spec h).2 requirement hmem hopen
  exact hexplained.mono (steps_grow (exec_steps analysis s' later))

/-- A question of two dimensions. -/
def priceTarget : AlignmentTarget where
  planVersion := 1
  questionId := "q1"
  acceptanceDimensions :=
    [("q1:d1", "The price in two markets."), ("q1:d2", "The price a year ago.")]
  planVersion_pos := Nat.one_pos

/-- A first source for the first of them. -/
def firstSource : EvidenceBatch where
  dimensionKey := "q1:d1"
  accepted := [true]
  beforeCount := 0
  afterCount := 1
  beforeOwners := 0
  afterOwners := 1

/-- The run goes on, stagnates, and is planned anew. -/
def laterTransactions : List FeedbackTransaction :=
  [.alignAndEvaluate priceTarget [] 1, .finalize (some "stagnation"),
    .savePlan 2]

/-- Neither gap is closed by the one source, and both are explained from
then on. -/
theorem alignment_explains_two :
    ∃ s', (FeedbackRun.fresh Run.sampleRunId 1).alignAndEvaluate
        (fun _ _ => {}) priceTarget [firstSource] 0 = some s'
      ∧ ∀ dimensionKey ∈ ["q1:d1", "q1:d2"],
        ((feedbackRunSystem fun _ _ => {}).exec s'
          laterTransactions).Explained
            ⟨Run.sampleRunId, 1, dimensionKey⟩ := by
  have hany : ((FeedbackRun.fresh Run.sampleRunId 1).alignAndEvaluate
      (fun _ _ => {}) priceTarget [firstSource] 0).any (fun s' =>
        ["q1:d1", "q1:d2"].all fun dimensionKey =>
          (s'.questionRequirements "q1" 1).any fun requirement =>
            requirement.closureStatus ≠ .gapClosed
              && requirement.gapId = ⟨Run.sampleRunId, 1, dimensionKey⟩)
      = true := by
    decide +kernel
  obtain ⟨s', hs', hopen⟩ := (Option.any_eq_true _ _).mp hany
  refine ⟨s', hs', fun dimensionKey hkey => ?_⟩
  obtain ⟨requirement, hmem, hrow⟩ :=
    List.any_eq_true.mp (List.all_eq_true.mp hopen dimensionKey hkey)
  simp only [Bool.and_eq_true, decide_eq_true_eq] at hrow
  rw [← hrow.2]
  exact alignment_explains hs' laterTransactions requirement hmem hrow.1

/-- A run that is not cut short is finalized unless something that is
missing has a blank name. Then every gap of the plan that is open has a
feedback, in every later state, and another finalization writes
nothing. -/
theorem finalization_explains {s : FeedbackRun}
    {stopReason : Option String}
    (hlive : FeedbackRun.terminalReason stopReason = none)
    (analysis : FeedbackAnalysis) :
    ((∃ s', s.finalizeRunClosureFeedback stopReason = some s')
        ↔ ∀ requirement ∈ s.planRequirements,
          requirement.closureStatus ≠ .gapClosed →
            ¬ s.Explained requirement.gapId →
              Nonblank (completenessMissing requirement
                (deriveFeedbackReason requirement none)).toList)
      ∧ ∀ s', s.finalizeRunClosureFeedback stopReason = some s' →
        s'.planRequirements = s.planRequirements
          ∧ (∀ requirement ∈ s'.planRequirements,
            requirement.closureStatus ≠ .gapClosed →
              ∀ later : List FeedbackTransaction,
                ((feedbackRunSystem analysis).exec s' later).Explained
                  requirement.gapId)
          ∧ ∀ stopReason',
            s'.finalizeRunClosureFeedback stopReason' = some s' := by
  obtain ⟨hreturns, hspec⟩ :=
    FeedbackRun.finalizeRunClosureFeedback_spec (s := s) hlive
  refine ⟨hreturns, fun s' hs' => ?_⟩
  obtain ⟨-, hsame, hexplained⟩ := hspec s' hs'
  refine ⟨hsame, ?_, ?_⟩
  · intro requirement hmem hopen later
    exact (hexplained requirement hmem hopen).mono
      (steps_grow (exec_steps analysis s' later))
  · intro stopReason'
    -- A second finalization finds nothing left to explain.
    by_cases hlive' : FeedbackRun.terminalReason stopReason' = none
    · rw [FeedbackRun.finalizeRunClosureFeedback_of_live hlive']
      apply FeedbackRun.backfill_of_explained
      intro requirement hmem
      rw [← Bool.not_eq_true, unexplained_iff,
        FeedbackRun.get?_ids_eq_none_iff]
      exact fun h => h.2 (hexplained requirement hmem h.1)
    · exact FeedbackRun.finalizeRunClosureFeedback_of_terminal hlive'

/-- A run that stagnates, short of a source. -/
def shortRun : FeedbackRun :=
  { FeedbackRun.fresh Run.sampleRunId 1 with
    table := { rows := [shortOfSources], nodup := List.nodup_singleton _ } }

theorem finalization_explains_short :
    ∃ s', shortRun.finalizeRunClosureFeedback (some "stagnation") = some s'
      ∧ s'.Explained shortOfSources.gapId := by
  have hlive : FeedbackRun.terminalReason (some "stagnation") = none := by
    decide
  have hopen : shortOfSources.closureStatus ≠ .gapClosed := by decide
  have hplan : shortRun.planRequirements = [shortOfSources] := rfl
  obtain ⟨hreturns, hspec⟩ := finalization_explains (s := shortRun) hlive
    (fun _ _ => {})
  have hnamed : ∀ requirement ∈ shortRun.planRequirements,
      requirement.closureStatus ≠ .gapClosed →
        ¬ shortRun.Explained requirement.gapId →
          Nonblank (completenessMissing requirement
            (deriveFeedbackReason requirement none)).toList := by
    intro requirement hmem _ _
    rw [hplan] at hmem
    rw [List.mem_singleton.mp hmem]
    decide
  obtain ⟨s', hs'⟩ := hreturns.mpr hnamed
  obtain ⟨hsame, hexplained, -⟩ := hspec s' hs'
  refine ⟨s', hs', hexplained shortOfSources ?_ hopen []⟩
  rw [hsame, hplan]
  exact List.mem_singleton_self _

end DeepResearch.Gap
