/-
A patch either leaves the state alone or makes the next version of it.

# The validator

`validate` is a row of checks, each with its own text; `validate_ok_iff`
is its one specification, and `model_validate` returns exactly the
payloads that are valid.

# The patch

What a patch that passes leaves behind is `Patched`: the next version,
the fields that the patch names replaced, the others as they were, and
the two keyed lists as dictionaries after an update. Versions only grow
over a run of patches, so after one patch of a base version no other of
that base version is applied (`conflict_after`).
-/
import DeepResearch.Lib.Outcome
import DeepResearch.State.Reducer

namespace DeepResearch.State

open DeepResearch.Run (StopReason)

-- =========================================================== the validator

/-- How the validators ask for distinct ids. -/
theorem length_eq_dedup_iff {κ : Type} [DecidableEq κ] (l : List κ) :
    l.length = l.dedup.length ↔ l.Nodup := by
  constructor
  · intro h
    rw [← List.dedup_eq_self]
    exact (List.dedup_sublist l).eq_of_length h.symm
  · intro h
    rw [h.dedup]

namespace ResearchState

variable {s : ResearchState}

/-- The open gaps are those that are open or being resolved. -/
theorem mem_openGapIds {id : UUID} : id ∈ s.openGapIds ↔
    ∃ gap ∈ s.gaps, gap.gapId = id
      ∧ (gap.status = .open ∨ gap.status = .resolving) := by
  unfold openGapIds
  rw [List.mem_map]
  constructor
  · rintro ⟨gap, hgap, hid⟩
    obtain ⟨hmem, hstatus⟩ := List.mem_filter.mp hgap
    exact ⟨gap, hmem, hid, by simpa using hstatus⟩
  · rintro ⟨gap, hmem, hid, hstatus⟩
    exact ⟨gap, List.mem_filter.mpr ⟨hmem, by simpa using hstatus⟩, hid⟩

/-- An action has no unknown target if each is an open gap. -/
theorem unknownTargets_eq_nil_iff {action : NextAction} :
    s.unknownTargets action = []
      ↔ ∀ id ∈ action.targetGapIds, ∃ gap ∈ s.gaps, gap.gapId = id
        ∧ (gap.status = .open ∨ gap.status = .resolving) := by
  unfold unknownTargets
  rw [List.filter_eq_nil_iff]
  refine forall₂_congr fun id _ => ?_
  rw [decide_eq_true_eq, not_not, mem_openGapIds]

theorem not_misdirected_iff : ¬ s.misdirected = true ↔
    ∀ action ∈ s.nextAction, action.actionType ∈ externalActions →
      ∀ id ∈ action.targetGapIds, ∃ gap ∈ s.gaps, gap.gapId = id
        ∧ (gap.status = .open ∨ gap.status = .resolving) := by
  unfold misdirected
  cases s.nextAction with
  | none => simp
  | some action =>
      rw [Option.any_some, decide_eq_true_eq, not_and, not_not,
        unknownTargets_eq_nil_iff]
      constructor
      · rintro h _ ⟨⟩
        exact h
      · intro h
        exact h action rfl

/-- What the page check lets through. -/
theorem pages_check_iff :
    ¬ (s.pageUsage > s.pageLimit ∧ ¬ s.pageOverrunIsTerminal)
      ↔ (s.status = .failed ∧ s.stopReason = some .budgetExhausted)
        ∨ s.pageUsage ≤ s.pageLimit := by
  unfold pageOverrunIsTerminal
  rw [decide_eq_true_eq, not_and, not_not]
  constructor
  · intro h
    rcases Nat.lt_or_ge s.pageLimit s.pageUsage with hover | hwithin
    · exact .inl (h hover)
    · exact .inr hwithin
  · rintro (hterminal | hwithin) hover
    · exact hterminal
    · omega

/-- What the token check lets through. -/
theorem tokens_check_iff :
    ¬ (s.budgetUsage.modelTokens > s.budgetLimits.maxModelTokens
      ∧ ¬ s.modelOverrunIsTerminal ∧ ¬ s.budgetUsage.modelBudgetGuarded)
      ↔ s.phase ∈ [ResearchPhase.write, .verify, .finalize]
        ∨ s.budgetUsage.modelBudgetGuarded = true
        ∨ s.budgetUsage.modelTokens ≤ s.budgetLimits.maxModelTokens := by
  unfold modelOverrunIsTerminal
  rw [decide_eq_true_eq]
  constructor
  · intro h
    by_contra hnone
    rw [not_or, not_or] at hnone
    obtain ⟨hphase, hguarded, htokens⟩ := hnone
    exact h ⟨by omega, hphase, hguarded⟩
  · rintro (hphase | hguarded | htokens) ⟨hover, hphase', hguarded'⟩
    · exact hphase' hphase
    · exact hguarded' hguarded
    · omega

/-- The validators accept exactly the valid states. -/
theorem validate_ok_iff : s.validate = .ok () ↔ s.Valid := by
  unfold validate
  simp only [bind, Except.bind, throw, throwThe, MonadExceptOf.throw, pure,
    Except.pure]
  simp only [Outcome.check_ok_iff, ne_eq, not_not, length_eq_dedup_iff,
    not_misdirected_iff, not_lt, pages_check_iff, tokens_check_iff]
  constructor
  · rintro ⟨hclaims, hgaps, htargets, hiterations, hsearches, hpages,
      htokens, -⟩
    exact ⟨hclaims, hgaps, htargets, hiterations, hsearches, hpages, htokens⟩
  · rintro ⟨hclaims, hgaps, htargets, hiterations, hsearches, hpages,
      htokens⟩
    exact ⟨hclaims, hgaps, htargets, hiterations, hsearches, hpages,
      htokens, trivial⟩

/-- The validation of a payload changes nothing. -/
theorem modelValidate_ok_iff {payload updated : ResearchState} :
    payload.modelValidate = .ok updated
      ↔ updated = payload ∧ payload.Valid := by
  unfold modelValidate
  rw [← validate_ok_iff]
  cases payload.validate with
  | error message => exact ⟨fun h => (nomatch h), fun h => (nomatch h.2)⟩
  | ok _ =>
      constructor
      · intro h
        injection h with h
        exact ⟨h.symm, rfl⟩
      · rintro ⟨rfl, -⟩
        rfl

end ResearchState

-- =============================================================== the patch

/-- A field after a patch: what the patch names for it, or what it was. -/
structure Replaced {α : Type} (named : Option α) (old new : α) : Prop where
  kept : named = none → new = old
  taken : ∀ a, named = some a → new = a

theorem replaced_getD {α : Type} (named : Option α) (old : α) :
    Replaced named old (named.getD old) where
  kept h := by rw [h, Option.getD_none]
  taken a h := by rw [h, Option.getD_some]

theorem replaced_or {α : Type} (named old : Option α) :
    Replaced (named.map some) old (named.or old) where
  kept h := by rw [Option.map_eq_none_iff.mp h, Option.none_or]
  taken a h := by
    obtain ⟨value, hvalue, rfl⟩ := Option.map_eq_some_iff.mp h
    rw [hvalue, Option.some_or]

/-- The stop reason that a patch names: none at all, if it clears it. -/
def StatePatch.namedStopReason (patch : StatePatch) :
    Option (Option StopReason) :=
  if patch.clearStopReason then some none else patch.stopReason.map some

/-- The next version of a state, by a patch. -/
structure Patched (s : ResearchState) (p : StatePatch)
    (s' : ResearchState) : Prop where
  stateVersion : s'.stateVersion = s.stateVersion + 1
  known : Dict.Updated KnownClaimRef.claimId s.known p.knownUpserts s'.known
  known_kept : p.knownUpserts = [] → s'.known = s.known
  gaps : Dict.Updated ResearchGap.gapId s.gaps p.gapUpserts s'.gaps
  gaps_kept : p.gapUpserts = [] → s'.gaps = s.gaps
  nextAction : Replaced (p.nextAction.map some) s.nextAction s'.nextAction
  budgetUsage : Replaced p.budgetUsage s.budgetUsage s'.budgetUsage
  quality : Replaced p.quality s.quality s'.quality
  coverageMap : Replaced p.coverageMap s.coverageMap s'.coverageMap
  phase : Replaced p.phase s.phase s'.phase
  status : Replaced p.status s.status s'.status
  stopReason : Replaced p.namedStopReason s.stopReason s'.stopReason
  schemaVersion : s'.schemaVersion = s.schemaVersion
  graphSchemaRevision : s'.graphSchemaRevision = s.graphSchemaRevision
  runId : s'.runId = s.runId
  iteration : s'.iteration = s.iteration
  currentQuestionId : s'.currentQuestionId = s.currentQuestionId
  budgetLimits : s'.budgetLimits = s.budgetLimits
  noProgressIterations : s'.noProgressIterations = s.noProgressIterations
  cancelRequested : s'.cancelRequested = s.cancelRequested

variable {s s' : ResearchState} {p q : StatePatch}

/-- The payload is the state with what the patch names replaced. -/
theorem payload_patched (hs : s.Valid) (p : StatePatch) :
    Patched s p (s.payload p) := by
  have hclaims := Dict.ofRows_of_nodup hs.claims_unique
  have hgaps := Dict.ofRows_of_nodup hs.gaps_unique
  have hstop : Replaced p.namedStopReason s.stopReason
      (s.payload p).stopReason := by
    unfold StatePatch.namedStopReason ResearchState.payload
    by_cases hclear : p.clearStopReason = true
    · rw [if_pos hclear]
      simp only [if_pos hclear]
      exact replaced_getD (some none) _
    · rw [if_neg hclear]
      simp only [if_neg hclear]
      exact replaced_or ..
  constructor
  case known =>
    unfold ResearchState.payload
    rw [hclaims]
    exact Dict.updated_update_ofRows ..
  case known_kept =>
    intro hnone
    unfold ResearchState.payload
    rw [hclaims, hnone]
    rfl
  case gaps =>
    unfold ResearchState.payload
    rw [hgaps]
    exact Dict.updated_update_ofRows ..
  case gaps_kept =>
    intro hnone
    unfold ResearchState.payload
    rw [hgaps, hnone]
    rfl
  case nextAction => exact replaced_or ..
  case stopReason => exact hstop
  case budgetUsage | quality | coverageMap | phase | status =>
    exact replaced_getD ..
  all_goals rfl

/-- The patch of `synchronize` moves the status and the stop reason as
the projection of the run does. -/
theorem payload_synchronized {run : Run.ResearchRunRow}
    (hstatus : p.status = some (Run.stateStatus run.status run.phase))
    (hreason : p.stopReason = Run.stopReason run.terminationReason)
    (hclear : p.clearStopReason = decide (run.terminationReason = none)) :
    Run.ResearchState.mk (s.payload p).status (s.payload p).stopReason
      = (Run.ResearchState.mk s.status s.stopReason).synchronized run := by
  unfold ResearchState.payload Run.ResearchState.synchronized
  simp only [hstatus, hreason, hclear, Option.getD_some, decide_eq_true_eq]

-- ========================================================= the application

/-- A patch of another version is refused before anything is merged. -/
theorem applyPatch_of_ne (h : p.baseVersion ≠ s.stateVersion) :
    applyPatch s p = .error (.stateVersionConflict
      (conflictMessage p.baseVersion s.stateVersion)) :=
  if_pos h

/-- What an application can return. -/
theorem applyPatch_ok_iff : applyPatch s p = .ok s' ↔
    p.baseVersion = s.stateVersion ∧ s' = s.payload p ∧ s'.Valid := by
  unfold applyPatch
  rw [Outcome.check_ok_iff, not_not, ResearchState.modelValidate_ok_iff]
  refine and_congr_right fun _ => and_congr_right fun hs' => ?_
  rw [hs']

theorem patched_of_ok (h : applyPatch s p = .ok s') : s.patched p = s' := by
  unfold ResearchState.patched
  rw [h]

/-- A refused patch leaves the state. -/
theorem patched_of_error {e : ReducerError} (h : applyPatch s p = .error e) :
    s.patched p = s := by
  unfold ResearchState.patched
  rw [h]

/-- One patch, of the caller's state. -/
theorem patched_cases (s : ResearchState) (p : StatePatch) :
    s.patched p = s
      ∨ (s.patched p).Valid
        ∧ (s.patched p).stateVersion = s.stateVersion + 1 := by
  cases h : applyPatch s p with
  | error e => exact .inl (patched_of_error h)
  | ok s' =>
      rw [patched_of_ok h]
      obtain ⟨-, rfl, hvalid⟩ := applyPatch_ok_iff.mp h
      exact .inr ⟨hvalid, rfl⟩

/-- Versions only grow over a run of patches. -/
theorem version_le_patches (s : ResearchState) (patches : List StatePatch) :
    s.stateVersion
      ≤ (patches.foldl ResearchState.patched s).stateVersion := by
  induction patches generalizing s with
  | nil => exact le_refl _
  | cons p patches ih =>
      rw [List.foldl_cons]
      refine le_trans ?_ (ih (s.patched p))
      rcases patched_cases s p with hsame | ⟨-, hversion⟩
      · rw [hsame]
      · omega

/-- Once a patch was applied, no other of its base version is, however
many patches later. -/
theorem conflict_after (hp : applyPatch s p = .ok s')
    (hbase : q.baseVersion = p.baseVersion) (patches : List StatePatch) :
    applyPatch (patches.foldl ResearchState.patched s') q
      = .error (.stateVersionConflict (conflictMessage q.baseVersion
        (patches.foldl ResearchState.patched s').stateVersion)) := by
  obtain ⟨hbase', rfl, -⟩ := applyPatch_ok_iff.mp hp
  have hnext : (s.payload p).stateVersion = s.stateVersion + 1 := rfl
  have hlater := version_le_patches (s.payload p) patches
  exact applyPatch_of_ne (by omega)

/-- A patch of a valid state raises and leaves the state as it is, or
makes its next version; and of two patches of one base version the one
that comes second meets a version conflict. -/
theorem patch_once (hs : s.Valid) (p : StatePatch) :
    ((∃ e, applyPatch s p = .error e ∧ s.patched p = s)
      ∨ ∃ s', applyPatch s p = .ok s' ∧ s.patched p = s'
        ∧ s'.Valid ∧ Patched s p s')
    ∧ ∀ q s', q.baseVersion = p.baseVersion → applyPatch s p = .ok s' →
        applyPatch s' q = .error (.stateVersionConflict
          (conflictMessage q.baseVersion s'.stateVersion)) := by
  constructor
  · cases h : applyPatch s p with
    | error e => exact .inl ⟨e, rfl, patched_of_error h⟩
    | ok s' =>
        obtain ⟨-, hs', hvalid⟩ := applyPatch_ok_iff.mp h
        refine .inr ⟨s', rfl, patched_of_ok h, hvalid, ?_⟩
        rw [hs']
        exact payload_patched hs p
  · intro q s' hbase hp
    exact conflict_after hp hbase []

/-- A claim on the price, supported by one evidence row. -/
def priceClaim (claimId : UUID) : KnownClaimRef where
  claimId
  questionId := 5
  dimensionKey := ⟨"price", by decide⟩
  status := .supported
  confidence := Score.half
  evidenceIds := [31]
  supported_claim_requires_evidence _ := by decide

/-- The gap of the price, resolved by some claims or open. -/
def priceGap (resolvedByClaimIds : List UUID) : ResearchGap where
  gapId := 21
  questionId := 5
  dimensionKey := ⟨"price", by decide⟩
  gapType := .missing
  description := ⟨"no second source", by decide⟩
  acceptanceCriteria := ⟨"two sources", by decide⟩
  severity := Score.half
  status := if resolvedByClaimIds = [] then .open else .resolved
  resolvedByClaimIds
  resolved_gap_requires_claim h hnil := by
    rw [if_pos hnil] at h
    cases h

/-- A search for the gap. -/
def searchAction : NextAction where
  actionId := 41
  actionType := .searchWeb
  targetGapIds := [21]
  toolName := some ⟨"web_search", by decide⟩
  expectedOutput := ⟨"a second source", by decide⟩
  publicDecisionSummary := ⟨"search the price", by decide⟩
  external_action_requires_gap_and_tool _ := by decide

/-- The evaluation of what it finds. -/
def evaluateAction : NextAction where
  actionId := 42
  actionType := .evaluate
  expectedOutput := ⟨"coverage", by decide⟩
  publicDecisionSummary := ⟨"evaluate", by decide⟩
  external_action_requires_gap_and_tool h := by
    exact absurd h (by decide)

/-- A run that searches for a gap, two patches into its research. -/
def searchingState : ResearchState where
  runId := 1
  stateVersion := 2
  status := .researching
  phase := .research
  iteration := 1
  known := [priceClaim 11]
  gaps := [priceGap []]
  nextAction := some searchAction
  budgetLimits :=
    { maxIterations := 14, maxModelTokens := 64000, maxWallClockSeconds := 640 }
  budgetUsage := { iterations := 1, searches := 1 }

/-- The gap is closed by a second claim, with or without another action. -/
def resolvingPatch (nextAction : Option NextAction) : StatePatch where
  patchId := 51
  baseVersion := 2
  knownUpserts := [priceClaim 12]
  gapUpserts := [priceGap [12]]
  nextAction
  budgetUsage := some { iterations := 2, searches := 2 }

/-- The patch that leaves the action aiming at the closed gap is refused
and changes nothing; the one that replaces it is applied, and a further one
of the same base version then meets the conflict. -/
theorem patch_once_sample :
    searchingState.Valid
    ∧ searchingState.patched (resolvingPatch none) = searchingState
    ∧ ∃ s', applyPatch searchingState (resolvingPatch (some evaluateAction))
        = .ok s'
      ∧ s'.stateVersion = 3 ∧ s'.known = [priceClaim 11, priceClaim 12]
      ∧ s'.gaps = [priceGap [12]]
      ∧ applyPatch s' (resolvingPatch none)
        = .error (.stateVersionConflict (conflictMessage 2 3)) := by
  have hvalid : searchingState.Valid :=
    ResearchState.validate_ok_iff.mp rfl
  obtain ⟨hkept, -⟩ := patch_once hvalid (resolvingPatch none)
  obtain ⟨hmade, hconflict⟩ :=
    patch_once hvalid (resolvingPatch (some evaluateAction))
  refine ⟨hvalid, ?_, ?_⟩
  · rcases hkept with ⟨e, -, hsame⟩ | ⟨s', hs', -⟩
    · exact hsame
    · cases hs'
  · rcases hmade with ⟨e, he, -⟩ | ⟨s', hs', -, -, hpatched⟩
    · cases he
    · have hnext : searchingState.payload
          (resolvingPatch (some evaluateAction)) = s' := by
        obtain ⟨-, hpayload, -⟩ := applyPatch_ok_iff.mp hs'
        exact hpayload.symm
      have hversion := hpatched.stateVersion
      refine ⟨s', hs', hversion, ?_, ?_, ?_⟩
      · rw [← hnext]
        rfl
      · rw [← hnext]
        rfl
      · rw [hconflict (resolvingPatch none) s' rfl hs', hversion]
        rfl

end DeepResearch.State
