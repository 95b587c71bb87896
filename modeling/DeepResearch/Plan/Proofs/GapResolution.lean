/-
When gap-resolution replanning is all-or-nothing.

The copies of the plan items are added before it is known whether any
question is reset, and returning commits. So the call that resets no
question is the one that breaks the law: it returns False and leaves a
next version behind, which the next attempt collides with.

# The shape of the proof

The call has four ends: refused before it reads the plan, rolled back by
a row that is no question, rolled back by the unique constraint, and
returned. `Refused`, `Invalid` and `Collides` tell them apart, and each
has a lemma that gives the result. A returned call is then read field by
field; the resets have one lemma each that says what they leave alone.
-/
import DeepResearch.Plan.GapResolution
import DeepResearch.Lib.Outcome

namespace DeepResearch.Plan

open DeepResearch.Run (TaskId)

variable {hints : ResearchPlanItemRow → List String → Nat → List String}
  {state : PlannedRun} {workerTaskId : TaskId} {gaps : List PlanGap}
  {now : Nat}

-- =========================================================== statements

/-- The items of the current plan version. -/
def PlannedRun.currentItems (state : PlannedRun) :
    List ResearchPlanItemRow :=
  state.items.version state.run.planVersion

/-- The items already stored for the next plan version. -/
def PlannedRun.nextItems (state : PlannedRun) : List ResearchPlanItemRow :=
  state.items.version (state.run.planVersion + 1)

/-- A question is frozen. -/
def QuestionUsage.Frozen (usage : QuestionUsage) (questionId : String) :
    Prop :=
  questionId ∈ usage.frozenQuestions.getD []

/-- The next plan version has the questions and evidence requirements of
the old one, and whatever is not targeted is as it was. -/
structure Local (gaps : List PlanGap) (before after : PlannedRun) :
    Prop where
  version : after.run.planVersion = before.run.planVersion + 1
  questions : ∀ questionId requirements,
    (∃ row ∈ after.currentItems, row.questionId = questionId
        ∧ row.evidenceRequirements = requirements)
      ↔ ∃ row ∈ before.currentItems, row.questionId = questionId
        ∧ row.evidenceRequirements = requirements
  items : ∀ questionId, targetReasons gaps questionId = none →
    ∀ status searchHints,
      (∃ row ∈ after.currentItems, row.questionId = questionId
          ∧ row.status = status ∧ row.searchHints = searchHints)
        ↔ ∃ row ∈ before.currentItems, row.questionId = questionId
          ∧ row.status = status ∧ row.searchHints = searchHints
  exhaustion : ∀ questionId, targetReasons gaps questionId = none →
    after.usage.questionBudgetExhausted.bind (·.lookup questionId)
      = before.usage.questionBudgetExhausted.bind (·.lookup questionId)
  strategy : ∀ questionId, targetReasons gaps questionId = none →
    after.usage.queryStrategyExhausted.bind (·.lookup questionId)
      = before.usage.queryStrategyExhausted.bind (·.lookup questionId)
  families : ∀ questionId, targetReasons gaps questionId = none →
    after.usage.executedQueryFamilies.bind (·.lookup questionId)
      = before.usage.executedQueryFamilies.bind (·.lookup questionId)
  frozen : ∀ questionId, targetReasons gaps questionId = none →
    (after.usage.Frozen questionId ↔ before.usage.Frozen questionId)

/-- False wrote nothing, and True replanned locally. -/
def AllOrNothing (gaps : List PlanGap) (before : PlannedRun)
    (outcome : Except PlanError (Bool × PlannedRun)) : Prop :=
  (∀ after, outcome = .ok (false, after) → after = before)
    ∧ ∀ after, outcome = .ok (true, after) → Local gaps before after

/-- The call returns before it reads the plan. -/
def PlannedRun.Refused (state : PlannedRun) (workerTaskId : TaskId)
    (gaps : List PlanGap) : Prop :=
  ¬ (state.run.OwnedBy workerTaskId ∧ 1 ≤ state.run.planVersion)
    ∨ gaps = []

/-- A targeted item of the plan is no valid question. -/
def PlannedRun.Invalid (state : PlannedRun) (gaps : List PlanGap) : Prop :=
  ∃ row ∈ state.currentItems,
    targetReasons gaps row.questionId ≠ none ∧ row.validQuestion = false

/-- An item of the plan is already stored for the next version. -/
def PlannedRun.Collides (state : PlannedRun) : Prop :=
  ∃ row ∈ state.currentItems, ∃ stored ∈ state.nextItems,
    stored.questionId = row.questionId

/-- One of the first three gaps names a question of the plan. -/
def PlannedRun.Targeted (state : PlannedRun) (gaps : List PlanGap) : Prop :=
  ∃ row ∈ state.currentItems, targetReasons gaps row.questionId ≠ none

/-- The calls that are all-or-nothing. -/
def PlannedRun.Settles (state : PlannedRun) (workerTaskId : TaskId)
    (gaps : List PlanGap) : Prop :=
  state.Refused workerTaskId gaps ∨ state.Invalid gaps ∨ state.Collides
    ∨ state.currentItems = []
    ∨ state.Targeted gaps ∧ state.nextItems = []

/-- A table is its rows. -/
theorem PlanTable.eq_of_rows {table table' : PlanTable}
    (h : table.rows = table'.rows) : table = table' := by
  cases table
  cases table'
  cases h
  rfl

-- ============================================================ the copies

/-- The copy of a row, where its question is valid. -/
def copyItem (hints : ResearchPlanItemRow → List String → Nat → List String)
    (gaps : List PlanGap) (planVersion : Nat) (row : ResearchPlanItemRow) :
    ResearchPlanItemRow :=
  (targetReasons gaps row.questionId).elim { row with planVersion }
    fun reasons =>
      { row with
        planVersion
        searchHints := hints row reasons planVersion
        status := "pending" }

section

variable {planVersion : Nat} (row : ResearchPlanItemRow)

@[simp] theorem copyItem_planVersion :
    (copyItem hints gaps planVersion row).planVersion = planVersion := by
  unfold copyItem
  cases targetReasons gaps row.questionId <;> rfl

@[simp] theorem copyItem_questionId :
    (copyItem hints gaps planVersion row).questionId = row.questionId := by
  unfold copyItem
  cases targetReasons gaps row.questionId <;> rfl

@[simp] theorem copyItem_evidenceRequirements :
    (copyItem hints gaps planVersion row).evidenceRequirements
      = row.evidenceRequirements := by
  unfold copyItem
  cases targetReasons gaps row.questionId <;> rfl

/-- A row that is not targeted is copied as it is. -/
theorem copyItem_untargeted
    (h : targetReasons gaps row.questionId = none) :
    copyItem hints gaps planVersion row = { row with planVersion } := by
  unfold copyItem
  rw [h, Option.elim_none]

/-- A row is copied unless it is targeted and invalid. -/
theorem nextItem_eq (h : ¬ (targetReasons gaps row.questionId ≠ none
      ∧ row.validQuestion = false)) :
    nextItem hints gaps planVersion row
      = .ok (copyItem hints gaps planVersion row) := by
  unfold nextItem copyItem
  cases htarget : targetReasons gaps row.questionId with
  | none => rfl
  | some reasons =>
      have hvalid : row.validQuestion = true := by
        cases hvalid : row.validQuestion with
        | true => rfl
        | false => exact absurd ⟨by rw [htarget]; nofun, hvalid⟩ h
      simp only [hvalid, if_true]
      rfl

end

/-- The items of a version have distinct questions. -/
theorem nodup_version (table : PlanTable) (planVersion : Nat) :
    ((table.version planVersion).map (·.questionId)).Nodup := by
  have hkeys : ((table.version planVersion).map (·.key)).Nodup :=
    table.nodup.sublist (List.filter_sublist.map _)
  have heq : (table.version planVersion).map (·.key)
      = ((table.version planVersion).map (·.questionId)).map
          (planVersion, ·) := by
    rw [List.map_map]
    apply List.map_congr_left
    intro row hrow
    have hversion : row.planVersion = planVersion := by
      simpa using (List.mem_filter.mp hrow).2
    show (row.planVersion, row.questionId) = (planVersion, row.questionId)
    rw [hversion]
  rw [heq] at hkeys
  exact List.Nodup.of_map _ hkeys

/-- The rows the call adds. -/
def PlannedRun.copies
    (hints : ResearchPlanItemRow → List String → Nat → List String)
    (state : PlannedRun) (gaps : List PlanGap) :
    List ResearchPlanItemRow :=
  state.currentItems.map (copyItem hints gaps (state.run.planVersion + 1))

/-- The unique constraint refuses the copies exactly when one of their
questions is stored for the next version. -/
theorem nodup_copies_iff :
    ((state.items.rows ++ state.copies hints gaps).map (·.key)).Nodup
      ↔ ¬ state.Collides := by
  -- The copies have the next version and the ids of the current items.
  have hcopies : (state.copies hints gaps).map (·.key)
      = (state.currentItems.map (·.questionId)).map
          (state.run.planVersion + 1, ·) := by
    unfold PlannedRun.copies
    rw [List.map_map, List.map_map]
    apply List.map_congr_left
    intro row _
    show ((copyItem hints gaps _ row).planVersion,
      (copyItem hints gaps _ row).questionId) = _
    rw [copyItem_planVersion, copyItem_questionId]
    rfl
  have hnodup : ((state.copies hints gaps).map (·.key)).Nodup := by
    rw [hcopies]
    apply (nodup_version state.items state.run.planVersion).map
    intro questionId questionId' heq
    exact congrArg Prod.snd heq
  rw [List.map_append, List.nodup_append]
  constructor
  · intro h hcollides
    obtain ⟨row, hrow, stored, hstored, heq⟩ := hcollides
    obtain ⟨hmem, hversion⟩ := List.mem_filter.mp hstored
    refine h.2.2 stored.key (List.mem_map_of_mem hmem) stored.key ?_ rfl
    rw [hcopies]
    have hkey : stored.key
        = (state.run.planVersion + 1, row.questionId) := by
      show (stored.planVersion, stored.questionId) = _
      rw [of_decide_eq_true hversion, heq]
    rw [hkey]
    exact List.mem_map_of_mem (List.mem_map_of_mem hrow)
  · intro hfree
    refine ⟨state.items.nodup, hnodup, ?_⟩
    intro k hk k' hk' heq
    rw [hcopies] at hk'
    obtain ⟨questionId, hquestion, rfl⟩ := List.mem_map.mp hk'
    obtain ⟨row, hrow, rfl⟩ := List.mem_map.mp hquestion
    obtain ⟨stored, hstored, hkey⟩ := List.mem_map.mp hk
    rw [heq] at hkey
    apply hfree
    refine ⟨row, hrow, stored, ?_, congrArg Prod.snd hkey⟩
    apply List.mem_filter.mpr
    exact ⟨hstored, decide_eq_true (congrArg Prod.fst hkey)⟩

-- ============================================================= the resets

/-- The ids of the questions the call resets. -/
def PlannedRun.resetIds (state : PlannedRun) (gaps : List PlanGap) :
    List String :=
  (state.currentItems.map (·.questionId)).filter
    fun questionId => (targetReasons gaps questionId).isSome

theorem not_mem_resetIds {questionId : String}
    (h : targetReasons gaps questionId = none) :
    questionId ∉ state.resetIds gaps := by
  intro hmem
  have hsome := (List.mem_filter.mp hmem).2
  rw [h] at hsome
  cases hsome

theorem resetIds_eq_nil_iff :
    state.resetIds gaps = [] ↔ ¬ state.Targeted gaps := by
  unfold PlannedRun.resetIds PlannedRun.Targeted
  simp [List.filter_eq_nil_iff]

/-- Popping questions leaves the entries of the others alone. -/
theorem lookup_popQuestions {V : Type} (keep : V → Bool)
    (values : Option (AList fun _ : String => V)) {questionIds : List String}
    {questionId : String} (h : questionId ∉ questionIds) :
    (popQuestions keep values questionIds).bind (·.lookup questionId)
      = values.bind (·.lookup questionId) := by
  have hfold : ∀ (ids : List String) (entries : AList fun _ : String => V),
      questionId ∉ ids →
      (ids.foldl (fun remaining id =>
          if (remaining.lookup id).any keep then remaining
          else remaining.erase id) entries).lookup questionId
        = entries.lookup questionId := by
    intro ids
    induction ids with
    | nil =>
        intro entries _
        rfl
    | cons id ids ih =>
        intro entries hid
        rw [List.foldl_cons, ih _ (fun hmem =>
          hid (List.mem_cons_of_mem _ hmem))]
        split
        · rfl
        · apply AList.lookup_erase_ne
          intro heq
          apply hid
          rw [heq]
          exact List.mem_cons_self ..
  unfold popQuestions
  split
  · rfl
  · cases values with
    | none => rfl
    | some entries =>
        simp only [Option.bind_some]
        rw [← hfold questionIds entries h]
        split
        case isTrue hempty =>
          rw [Option.bind_none]
          symm
          apply AList.lookup_eq_none.mpr
          intro hmem
          rw [AList.mem_keys, hempty] at hmem
          cases hmem
        case isFalse => rfl

/-- A question that is not reset stays frozen or not frozen. -/
theorem frozen_reset_iff (usage : QuestionUsage) {questionIds : List String}
    {questionId : String} (h : questionId ∉ questionIds) :
    (resetPlanScopedQuestionBudget usage questionIds).Frozen questionId
      ↔ usage.Frozen questionId := by
  unfold QuestionUsage.Frozen resetPlanScopedQuestionBudget
  by_cases hnil : questionIds = []
  · simp only [if_pos hnil]
  · simp only [if_neg hnil]
    cases usage.frozenQuestions with
    | none => exact Iff.rfl
    | some frozen => simp [h]

-- ====================================================== the ends of a call

/-- A refused call returns False at once. -/
theorem save_of_refused (h : state.Refused workerTaskId gaps) :
    saveGapResolutionPlan hints state workerTaskId gaps now
      = .ok (false, state) := by
  unfold saveGapResolutionPlan
  by_cases howned :
      state.run.OwnedBy workerTaskId ∧ 1 ≤ state.run.planVersion
  · have hgaps : gaps = [] := h.resolve_left (fun hn => hn howned)
    rw [if_neg (not_not.mpr howned), hgaps]
    rfl
  · rw [if_pos howned]

/-- A targeted row that is no valid question raises. -/
theorem save_of_invalid (hrefused : ¬ state.Refused workerTaskId gaps)
    (h : state.Invalid gaps) (outcome : Bool × PlannedRun) :
    saveGapResolutionPlan hints state workerTaskId gaps now
      ≠ .ok outcome := by
  unfold PlannedRun.Refused at hrefused
  rw [not_or, not_not] at hrefused
  obtain ⟨row, hrow, htarget, hinvalid⟩ := h
  intro hok
  unfold saveGapResolutionPlan at hok
  rw [if_neg (not_not.mpr hrefused.1), if_neg] at hok
  · cases hitems : (state.items.version state.run.planVersion).mapM
        (nextItem hints gaps (state.run.planVersion + 1)) with
    | error e =>
        simp only [hitems] at hok
        cases hok
    | ok items =>
        obtain ⟨item, hitem⟩ := (Outcome.mapM_ok_iff _ _).mp
          ⟨items, hitems⟩ row hrow
        unfold nextItem at hitem
        cases hreasons : targetReasons gaps row.questionId with
        | none => exact htarget hreasons
        | some reasons =>
            rw [hreasons] at hitem
            simp only [hinvalid] at hitem
            cases hitem
  · rw [List.take_eq_nil_iff]
    simp [hrefused.2]

/-- A call that reaches the flush raises when the copies collide, and
returns otherwise. -/
theorem save_of_valid (hrefused : ¬ state.Refused workerTaskId gaps)
    (hinvalid : ¬ state.Invalid gaps) :
    saveGapResolutionPlan hints state workerTaskId gaps now
      = match state.items.insertAll (state.copies hints gaps) with
        | none => .error .duplicateItem
        | some table =>
            if state.resetIds gaps = [] then
              .ok (false, { state with items := table })
            else .ok (true,
              { run :=
                  { state.run with
                    planVersion := state.run.planVersion + 1
                    phase := .researching
                    terminationReason := none
                    updatedAt := now
                    stateVersion := state.run.stateVersion + 1 }
                items := table
                usage :=
                  { resetPlanScopedQuestionBudget state.usage
                      (state.resetIds gaps) with
                    replans := state.usage.replans + 1 }
                quality :=
                  resetReplannedQualityState state.quality
                    (state.resetIds gaps) (state.run.planVersion + 1)
                events := state.events
                  ++ [{ planVersion := state.run.planVersion + 1
                        questionIds := state.resetIds gaps
                        questionCount := state.currentItems.length }] }) := by
  unfold PlannedRun.Refused at hrefused
  rw [not_or, not_not] at hrefused
  have hcopies : (state.items.version state.run.planVersion).mapM
      (nextItem hints gaps (state.run.planVersion + 1))
      = .ok (state.copies hints gaps) := by
    apply Outcome.mapM_eq_ok
    intro row hrow
    apply nextItem_eq
    intro hbad
    exact hinvalid ⟨row, hrow, hbad⟩
  unfold saveGapResolutionPlan
  rw [if_neg (not_not.mpr hrefused.1), if_neg]
  · simp only [hcopies]
    rfl
  · rw [List.take_eq_nil_iff]
    simp [hrefused.2]

/-- The next version after the copies are added. -/
theorem version_append_copies (table : PlanTable)
    (htable : table.rows = state.items.rows ++ state.copies hints gaps) :
    table.version (state.run.planVersion + 1)
      = state.nextItems ++ state.copies hints gaps := by
  unfold PlannedRun.nextItems PlanTable.version
  rw [htable, List.filter_append]
  congr 1
  rw [List.filter_eq_self]
  intro item hitem
  obtain ⟨row, -, rfl⟩ := List.mem_map.mp hitem
  simp

/-- A property of copies is the property of the rows they copy. -/
theorem exists_copies_iff {P Q : ResearchPlanItemRow → Prop}
    (h : ∀ row ∈ state.currentItems,
      (P (copyItem hints gaps (state.run.planVersion + 1) row) ↔ Q row)) :
    (∃ row ∈ state.copies hints gaps, P row)
      ↔ ∃ row ∈ state.currentItems, Q row := by
  constructor
  · intro hex
    obtain ⟨item, hitem, hp⟩ := hex
    obtain ⟨row, hrow, rfl⟩ := List.mem_map.mp hitem
    exact ⟨row, hrow, (h row hrow).mp hp⟩
  · intro hex
    obtain ⟨row, hrow, hq⟩ := hex
    exact ⟨_, List.mem_map_of_mem hrow, (h row hrow).mpr hq⟩

/-- The copies replan locally, where nothing else is stored for the next
version. -/
theorem local_copies {after : PlannedRun} (hnext : state.nextItems = [])
    (hversion : after.run.planVersion = state.run.planVersion + 1)
    (hitems : after.items.rows = state.items.rows ++ state.copies hints gaps)
    (husage : after.usage =
      { resetPlanScopedQuestionBudget state.usage (state.resetIds gaps) with
        replans := state.usage.replans + 1 }) :
    Local gaps state after := by
  have hcurrent : after.currentItems = state.copies hints gaps := by
    unfold PlannedRun.currentItems
    rw [hversion, version_append_copies after.items hitems, hnext,
      List.nil_append]
  constructor
  case version => exact hversion
  case questions =>
    intro questionId requirements
    rw [hcurrent]
    apply exists_copies_iff
    intro row _
    rw [copyItem_questionId, copyItem_evidenceRequirements]
  case items =>
    intro questionId huntargeted status searchHints
    rw [hcurrent]
    apply exists_copies_iff
    intro row _
    rw [copyItem_questionId]
    apply and_congr_right
    intro hquestion
    rw [← hquestion] at huntargeted
    rw [copyItem_untargeted row huntargeted]
  case exhaustion =>
    intro questionId huntargeted
    rw [husage]
    exact lookup_popQuestions _ _ (not_mem_resetIds huntargeted)
  case strategy =>
    intro questionId huntargeted
    rw [husage]
    exact lookup_popQuestions _ _ (not_mem_resetIds huntargeted)
  case families =>
    intro questionId huntargeted
    rw [husage]
    exact lookup_popQuestions _ _ (not_mem_resetIds huntargeted)
  case frozen =>
    intro questionId huntargeted
    rw [husage]
    exact frozen_reset_iff state.usage (not_mem_resetIds huntargeted)

/-- Something else stored for the next version becomes part of it. -/
theorem not_local_of_stray {after : PlannedRun}
    (hstray : state.nextItems ≠ []) (hfree : ¬ state.Collides)
    (hversion : after.run.planVersion = state.run.planVersion + 1)
    (hitems : after.items.rows
      = state.items.rows ++ state.copies hints gaps) :
    ¬ Local gaps state after := by
  intro hlocal
  obtain ⟨stray, hstray⟩ := List.exists_mem_of_ne_nil _ hstray
  have hmem : stray ∈ after.currentItems := by
    unfold PlannedRun.currentItems
    rw [hversion, version_append_copies after.items hitems]
    exact List.mem_append_left _ hstray
  obtain ⟨row, hrow, hquestion, -⟩ := (hlocal.questions stray.questionId
    stray.evidenceRequirements).mp ⟨stray, hmem, rfl, rfl⟩
  exact hfree ⟨row, hrow, stray, hstray, hquestion.symm⟩

-- ========================================================= the whole call

section

variable {before after : PlannedRun}

/-- A call that returns False may have written nothing. -/
theorem allOrNothing_false_iff :
    AllOrNothing gaps before (.ok (false, after)) ↔ after = before := by
  unfold AllOrNothing
  constructor
  · intro h
    exact h.1 after rfl
  · intro heq
    constructor
    · intro after' h
      exact (congrArg Prod.snd (Except.ok.inj h)).symm.trans heq
    · intro after' h
      exact absurd (congrArg Prod.fst (Except.ok.inj h)) Bool.false_ne_true

/-- A call that returns True must have replanned locally. -/
theorem allOrNothing_true_iff :
    AllOrNothing gaps before (.ok (true, after))
      ↔ Local gaps before after := by
  unfold AllOrNothing
  constructor
  · intro h
    exact h.2 after rfl
  · intro hlocal
    constructor
    · intro after' h
      exact absurd (congrArg Prod.fst (Except.ok.inj h)).symm
        Bool.false_ne_true
    · intro after' h
      have heq : after = after' := congrArg Prod.snd (Except.ok.inj h)
      rw [← heq]
      exact hlocal

/-- A call that raises promises nothing. -/
theorem allOrNothing_of_raises {outcome : Except PlanError (Bool × PlannedRun)}
    (h : ∀ result, outcome ≠ .ok result) :
    AllOrNothing gaps before outcome :=
  ⟨fun _ hok => absurd hok (h _), fun _ hok => absurd hok (h _)⟩

end

/-- Adding the copies changes the table unless the plan is empty. -/
theorem copies_eq_nil_iff :
    state.copies hints gaps = [] ↔ state.currentItems = [] := by
  unfold PlannedRun.copies
  exact List.map_eq_nil_iff

/-- An empty plan has no targeted question. -/
theorem not_targeted_of_nil (h : state.currentItems = []) :
    ¬ state.Targeted gaps := by
  intro htargeted
  obtain ⟨row, hrow, -⟩ := htargeted
  rw [h] at hrow
  cases hrow

/-- Replanning is all-or-nothing and local exactly when it is refused or
rolled back, or resets a question and no other item is stored for the
next version, or the plan is empty. -/
theorem save_all_or_nothing_iff
    (hints : ResearchPlanItemRow → List String → Nat → List String)
    (state : PlannedRun) (workerTaskId : TaskId) (gaps : List PlanGap)
    (now : Nat) :
    AllOrNothing gaps state
        (saveGapResolutionPlan hints state workerTaskId gaps now)
      ↔ state.Settles workerTaskId gaps := by
  unfold PlannedRun.Settles
  -- In the order of the code: the guard, the validation, the unique index
  -- of the copies.
  by_cases hrefused : state.Refused workerTaskId gaps
  · rw [save_of_refused hrefused, allOrNothing_false_iff]
    exact ⟨fun _ => .inl hrefused, fun _ => rfl⟩
  by_cases hinvalid : state.Invalid gaps
  · refine ⟨fun _ => .inr (.inl hinvalid), fun _ => ?_⟩
    exact allOrNothing_of_raises (save_of_invalid hrefused hinvalid)
  rw [save_of_valid hrefused hinvalid]
  unfold PlanTable.insertAll
  by_cases hcollides : state.Collides
  · rw [dif_neg (fun h => nodup_copies_iff.mp h hcollides)]
    refine ⟨fun _ => .inr (.inr (.inl hcollides)), fun _ => ?_⟩
    exact allOrNothing_of_raises (Outcome.error_ne_ok _)
  rw [dif_pos (nodup_copies_iff.mpr hcollides)]
  simp only [hrefused, hinvalid, hcollides, false_or]
  -- The plan is saved if a question is set back, and given up else.
  by_cases htargeted : state.Targeted gaps
  · rw [if_neg (fun h => resetIds_eq_nil_iff.mp h htargeted),
      allOrNothing_true_iff]
    constructor
    · intro hlocal
      refine .inr ⟨htargeted, Classical.byContradiction fun hstray => ?_⟩
      exact not_local_of_stray hstray hcollides rfl rfl hlocal
    · intro hsettled
      rcases hsettled with hnil | ⟨-, hnext⟩
      · exact absurd htargeted (not_targeted_of_nil hnil)
      · exact local_copies hnext rfl rfl rfl
  · rw [if_pos (resetIds_eq_nil_iff.mpr htargeted), allOrNothing_false_iff]
    constructor
    · intro hsame
      -- False with the table unchanged means that there were no copies.
      have hrows : state.items.rows ++ state.copies hints gaps
          = state.items.rows :=
        congrArg (fun after : PlannedRun => after.items.rows) hsame
      exact .inl (copies_eq_nil_iff.mp (List.append_right_eq_self.mp hrows))
    · intro hsettled
      have hnil := hsettled.resolve_right (fun h => htargeted h.1)
      have hcopies : state.copies hints gaps = [] :=
        copies_eq_nil_iff.mpr hnil
      have htable : (⟨state.items.rows ++ state.copies hints gaps,
          nodup_copies_iff.mpr hcollides⟩ : PlanTable) = state.items := by
        apply PlanTable.eq_of_rows
        show state.items.rows ++ state.copies hints gaps = state.items.rows
        rw [hcopies, List.append_nil]
      rw [htable]

/-- A run of one question at plan version 1. -/
def plannedRun : PlannedRun :=
  { run :=
      { status := .running, phase := .researching, planVersion := 1
        budgetSnapshot := {}, createdAt := 0, updatedAt := 0
        workerTaskId := some ⟨Run.sampleRunId, .start, 1⟩ }
    items :=
      { rows :=
          [{ planVersion := 1, questionId := "q1"
             question := "Which price was paid?", priority := 1
             rationale := "The price decides.",
             evidenceRequirements := ["the price in 2024"]
             searchHints := ["price 2024"] }]
        nodup := List.nodup_singleton _ } }

/-- A gap that names no question of the plan: False is returned, and
version 2 has been written. -/
theorem untargeted_replan_writes_items :
    ¬ ∀ (hints : ResearchPlanItemRow → List String → Nat → List String)
      (state : PlannedRun) (workerTaskId : TaskId) (gaps : List PlanGap)
      (now : Nat),
      AllOrNothing gaps state
        (saveGapResolutionPlan hints state workerTaskId gaps now) := by
  intro h
  have hfalse := (h (fun _ _ _ => []) plannedRun
    ⟨Run.sampleRunId, .start, 1⟩ [("q9", ["no source"])] 1).1 _ rfl
  have hrows := congrArg (fun state : PlannedRun => state.items.rows.length)
    hfalse
  revert hrows
  decide

end DeepResearch.Plan
