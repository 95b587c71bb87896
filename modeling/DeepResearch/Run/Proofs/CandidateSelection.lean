/-
The scheduler's choice is complete and fair: it selects nothing only when
no candidate is admissible, and it selects no retry while an untouched
question is admissible.

The variant lane is what could break either. It is entered for a question
that is itself eligible (`exists_eligible_of_variantMode`), and not before
every open question had its first attempt (`variantMode_of_untouched`).
Outside the lane every schedule key begins with whether the question has
been tried.

# The call

`Scheduling` leaves coverage, lanes and keys open (`SchedulingView`). The
choice made here is the one it makes under the view that reads them off
the figures (`selectedEntry_of_view`), so what holds of the choice holds
of a whole call of `prepare_target` (`prepareTarget_complete_and_fair`).
-/
import DeepResearch.Lib.Selection
import DeepResearch.Lib.Table
import DeepResearch.Run.CandidateSelection
import DeepResearch.Run.Proofs.Effects

namespace DeepResearch.Run

namespace CandidateFigures

variable {figures : CandidateFigures} {row : ScheduledItem}

-- ========================================================== the candidates

/-- A candidate the scheduler may work on. -/
structure Admissible (figures : CandidateFigures) (row : ScheduledItem) :
    Prop where
  budget : row.questionId ∉ figures.exhaustedQuestions
  strategy : row.questionId ∉ figures.strategyExhaustedQuestions
  notFrozen : row.questionId ∉ figures.frozenQuestions
  notDone : row.status ≠ .researched
  cached : figures.searchBudgetExhausted = true →
    row.questionId ∈ figures.cachedQuestionIds
  protects : figures.protectedPageMode = true →
    figures.isProtected row = true

/-- A question that is closed off is exhausted, frozen or researched. -/
theorem isClosedOff_eq_false :
    figures.isClosedOff row = false
      ↔ row.questionId ∉ figures.exhaustedQuestions
        ∧ row.questionId ∉ figures.strategyExhaustedQuestions
        ∧ row.questionId ∉ figures.frozenQuestions
        ∧ row.status ≠ .researched := by
  simp [isClosedOff, and_assoc]

/-- Without searches only cached results are left. -/
theorem isOutOfResults_eq_false :
    figures.isOutOfResults row = false
      ↔ (figures.searchBudgetExhausted = true →
        row.questionId ∈ figures.cachedQuestionIds) := by
  simp [isOutOfResults]

/-- The three filters together. -/
theorem admissible_iff :
    figures.Admissible row
      ↔ figures.isClosedOff row = false
        ∧ figures.isOutOfResults row = false
        ∧ (figures.protectedPageMode = true →
          figures.isProtected row = true) := by
  rw [isClosedOff_eq_false, isOutOfResults_eq_false]
  constructor
  · intro h
    exact ⟨⟨h.budget, h.strategy, h.notFrozen, h.notDone⟩, h.cached,
      h.protects⟩
  · rintro ⟨⟨hbudget, hstrategy, hfrozen, hdone⟩, hcached, hprotects⟩
    exact ⟨hbudget, hstrategy, hfrozen, hdone, hcached, hprotects⟩

/-- Only the variant lane passes over an admissible candidate. -/
theorem isEligible_iff :
    figures.isEligible row = true
      ↔ figures.Admissible row
        ∧ (figures.p1VariantMode = true →
          row.questionId ∈ figures.unfinishedP1Variants) := by
  rw [admissible_iff]
  unfold isEligible
  cases figures.isClosedOff row <;> cases figures.isOutOfResults row <;>
    cases figures.p1VariantMode <;> cases figures.protectedPageMode <;>
    simp [and_comm]

/-- The attempts of a candidate are its executed query families. -/
theorem attempts_of_mem (hrow : row ∈ figures.candidates) :
    figures.executedFamilyAttempts.lookup row.questionId
      = some (figures.executedQueryFamilies row.questionId).length := by
  unfold executedFamilyAttempts
  generalize figures.candidates = candidates at hrow
  induction candidates with
  | nil => cases hrow
  | cons head tail ih =>
      rw [List.map_cons, List.lookup_cons]
      by_cases hid : row.questionId = head.questionId
      · rw [hid, beq_self_eq_true]
      · rw [beq_false_of_ne hid]
        rcases List.mem_cons.mp hrow with rfl | htail
        · exact absurd rfl hid
        · exact ih htail

-- ======================================================== the variant lane

/-- A variant has a lane because its coverage is not complete, so the
page reserve does not pass it over. -/
theorem admissible_of_variant
    (h : figures.isUnfinishedP1Variant row = true) :
    figures.Admissible row := by
  rw [admissible_iff]
  unfold isUnfinishedP1Variant at h
  simp only [Bool.and_eq_true, Bool.not_eq_true', Bool.or_eq_false_iff,
    decide_eq_true_eq] at h
  obtain ⟨⟨⟨⟨⟨hclosed, -⟩, hresults⟩, -⟩, hcoverage⟩, -⟩ := h
  refine ⟨hclosed, hresults, fun _ => ?_⟩
  simp [isProtected, hcoverage]

/-- The lane is never empty. -/
theorem exists_eligible_of_variantMode (h : figures.p1VariantMode = true) :
    ∃ row ∈ figures.candidates, figures.isEligible row = true := by
  unfold p1VariantMode at h
  simp only [Bool.and_eq_true, Bool.not_eq_true'] at h
  obtain ⟨questionId, hmem⟩ :=
    List.isEmpty_eq_false_iff_exists_mem.mp h.1
  obtain ⟨row, hrow, rfl⟩ := List.mem_map.mp hmem
  obtain ⟨hcandidate, hvariant⟩ := List.mem_filter.mp hrow
  exact ⟨row, hcandidate,
    isEligible_iff.mpr ⟨admissible_of_variant hvariant, fun _ => hmem⟩⟩

/-- It stays closed while an open question is untouched. -/
theorem variantMode_of_untouched (hrow : row ∈ figures.candidates)
    (hopen : figures.isClosedOff row = false)
    (huntouched : figures.executedQueryFamilies row.questionId = []) :
    figures.p1VariantMode = false := by
  have hcount : 0 < figures.unattemptedQuestions := by
    unfold unattemptedQuestions
    rw [List.countP_pos_iff]
    refine ⟨row, hrow, ?_⟩
    rw [attempts_of_mem hrow, hopen, huntouched]
    rfl
  unfold p1VariantMode
  rw [decide_eq_true hcount]
  exact Bool.and_false _

-- =========================================================== the selection

/-- The eligible questions, each with its key. -/
theorem mem_eligible {entry : ScheduleKey × ScheduledItem} :
    entry ∈ figures.eligible
      ↔ (entry.2 ∈ figures.candidates
          ∧ figures.isEligible entry.2 = true)
        ∧ entry.1 = figures.scheduleKey entry.2 := by
  unfold eligible
  rw [List.mem_map]
  constructor
  · rintro ⟨row, hrow, rfl⟩
    exact ⟨List.mem_filter.mp hrow, rfl⟩
  · rintro ⟨hrow, hkey⟩
    exact ⟨entry.2, List.mem_filter.mpr hrow, by rw [← hkey]⟩

/-- Nothing is selected exactly if no candidate is eligible. -/
theorem selectedEntry_eq_none_iff :
    figures.selectedEntry = none
      ↔ ∀ row ∈ figures.candidates, figures.isEligible row = false := by
  unfold selectedEntry
  rw [Option.map_eq_none_iff, List.argmin_eq_none,
    List.eq_nil_iff_forall_not_mem]
  constructor
  · intro h row hrow
    by_contra heligible
    exact h (figures.scheduleKey row, row)
      (mem_eligible.mpr ⟨⟨hrow, by simpa using heligible⟩, rfl⟩)
  · intro h entry hentry
    obtain ⟨⟨hrow, heligible⟩, -⟩ := mem_eligible.mp hentry
    rw [h entry.2 hrow] at heligible
    cases heligible

/-- Nothing is selected only where no candidate is admissible: the lane
that passes admissible ones over has an eligible one of its own. -/
theorem selectedEntry_complete :
    figures.selectedEntry = none
      ↔ ∀ row ∈ figures.candidates, ¬ figures.Admissible row := by
  rw [selectedEntry_eq_none_iff]
  constructor
  · intro hnone row hrow hadmissible
    have hmode : figures.p1VariantMode = false := by
      by_contra hvariant
      obtain ⟨variant, hmem, heligible⟩ :=
        exists_eligible_of_variantMode (by simpa using hvariant)
      rw [hnone variant hmem] at heligible
      cases heligible
    have heligible : figures.isEligible row = true := by
      rw [isEligible_iff]
      refine ⟨hadmissible, fun hvariant => ?_⟩
      rw [hmode] at hvariant
      cases hvariant
    rw [hnone row hrow] at heligible
    cases heligible
  · intro hnone row hrow
    by_contra heligible
    exact hnone row hrow (isEligible_iff.mp (by simpa using heligible)).1

/-- The selected candidate is eligible, under the least key. -/
theorem selectedEntry_least (h : figures.selectedEntry = some row) :
    (row ∈ figures.candidates ∧ figures.isEligible row = true)
      ∧ ∀ other ∈ figures.candidates, figures.isEligible other = true →
        figures.scheduleKey row ≤ figures.scheduleKey other := by
  unfold selectedEntry at h
  obtain ⟨entry, hentry, rfl⟩ := Option.map_eq_some_iff.mp h
  have hmin : entry ∈ figures.eligible.argmin Prod.fst := hentry
  obtain ⟨hrow, hkey⟩ := mem_eligible.mp (List.argmin_mem hmin)
  refine ⟨hrow, fun other hother heligible => ?_⟩
  have hmem : (figures.scheduleKey other, other) ∈ figures.eligible :=
    mem_eligible.mpr ⟨⟨hother, heligible⟩, rfl⟩
  have hle : entry.1 ≤ figures.scheduleKey other :=
    List.le_of_mem_argmin hmem hmin
  rw [hkey] at hle
  exact hle

/-- Outside the variant lane a key begins with whether the question has
been tried. -/
theorem scheduleKey_turn (h : figures.p1VariantMode = false) :
    (figures.scheduleKey row).turn
      = if figures.attempts row.questionId = 0 then 0 else 1 := by
  unfold scheduleKey
  simp only [h, Bool.false_eq_true, if_false]
  split
  · rfl
  · rfl

/-- While an untouched candidate is eligible, so is the selected one. -/
theorem untouched_of_selected {other : ScheduledItem}
    (h : figures.selectedEntry = some row)
    (hother : other ∈ figures.candidates)
    (hadmissible : figures.Admissible other)
    (huntouched : figures.executedQueryFamilies other.questionId = []) :
    figures.executedQueryFamilies row.questionId = [] := by
  have hopen := (admissible_iff.mp hadmissible).1
  have hmode := variantMode_of_untouched hother hopen huntouched
  have heligible : figures.isEligible other = true := by
    rw [isEligible_iff]
    refine ⟨hadmissible, fun hvariant => ?_⟩
    rw [hmode] at hvariant
    cases hvariant
  obtain ⟨⟨hrow, -⟩, hleast⟩ := selectedEntry_least h
  have hturn := ScheduleKey.turn_le_of_le (hleast other hother heligible)
  have hzero : figures.attempts other.questionId = 0 := by
    rw [attempts, attempts_of_mem hother, huntouched]
    rfl
  rw [scheduleKey_turn hmode, scheduleKey_turn hmode, if_pos hzero] at hturn
  by_contra htouched
  have hattempts : figures.attempts row.questionId ≠ 0 := by
    rw [attempts, attempts_of_mem hrow]
    exact fun hlength => htouched (List.length_eq_zero_iff.mp hlength)
  rw [if_neg hattempts] at hturn
  omega

end CandidateFigures

/-- Whenever the snapshots can be read, the selection is empty exactly when
no candidate is admissible, and while some admissible candidate has no
executed query family, the selected one has none either. -/
theorem selection_complete_and_fair {py : PyText} {input : SelectionInput}
    {figures : CandidateFigures} (h : input.figures py = some figures) :
    (input.selectedEntry py = some none
        ↔ ∀ row ∈ figures.candidates, ¬ figures.Admissible row)
      ∧ ∀ selected, input.selectedEntry py = some (some selected) →
        (∃ row ∈ figures.candidates, figures.Admissible row
          ∧ figures.executedQueryFamilies row.questionId = []) →
        figures.executedQueryFamilies selected.questionId = [] := by
  have hselected : input.selectedEntry py = some figures.selectedEntry := by
    unfold SelectionInput.selectedEntry
    rw [h]
    rfl
  rw [hselected]
  refine ⟨?_, fun selected hsome => ?_⟩
  · rw [Option.some_inj]
    exact CandidateFigures.selectedEntry_complete
  · rintro ⟨row, hrow, hadmissible, huntouched⟩
    exact CandidateFigures.untouched_of_selected (by simpa using hsome) hrow
      hadmissible huntouched

/-- A question of the first priority with two executed families and half of
its coverage, and an untouched question of the third. -/
def selectionSample : SelectionInput where
  now := 1
  run :=
    { status := .running
      phase := .researching
      budgetSnapshot := { maxPages := some 12 }
      createdAt := 0
      updatedAt := 0 }
  usage :=
    [("executed_query_families_by_question",
      .dict [("q1", .list [.str "scope", .str "alternate"])])]
  quality :=
    [("critical_gaps", .int 1),
      ("coverage_map",
        .list
          [.dict
            [("dimension_key", .str "q1"), ("coverage", .float (1 / 2)),
              ("accepted_evidence", .int 1),
              ("requirement_statuses",
                .list
                  [.dict
                    [("accepted_evidence", .int 1),
                      ("independent_sources", .int 1),
                      ("required_sources", .int 2)]])]])]
  planItems :=
    [{ questionId := "q1", priority := 1, status := .active },
      { questionId := "q2", priority := 3 }]

/-- A reader of texts the sample has no use for. -/
def noText : PyText where
  floatOfText _ := none
  intOfText _ := none
  strOf _ := ""

def selectionSampleFigures : CandidateFigures :=
  (selectionSample.figures noText).getD {}

theorem selectionSample_figures :
    selectionSample.figures noText = some selectionSampleFigures := by
  have hread : (selectionSample.figures noText).isSome = true := by
    decide +kernel
  obtain ⟨figures, hfigures⟩ := Option.isSome_iff_exists.mp hread
  unfold selectionSampleFigures
  rw [hfigures]
  rfl

theorem selection_complete_and_fair_sample :
    (selectionSample.selectedEntry noText).map
        (Option.map (·.questionId)) = some (some "q2")
      ∧ (selectionSample.selectedEntry noText = some none
        ↔ ∀ row ∈ selectionSampleFigures.candidates,
          ¬ selectionSampleFigures.Admissible row)
      ∧ ∀ selected,
        selectionSample.selectedEntry noText = some (some selected) →
        (∃ row ∈ selectionSampleFigures.candidates,
          selectionSampleFigures.Admissible row
            ∧ selectionSampleFigures.executedQueryFamilies row.questionId
              = []) →
        selectionSampleFigures.executedQueryFamilies selected.questionId
          = [] :=
  ⟨by decide +kernel, selection_complete_and_fair selectionSample_figures⟩

-- ======================================================= the open scheduler

/-- The scheduler's state and the input tell the same of the questions. -/
structure SelectionInput.Tells (py : PyText) (input : SelectionInput)
    (s : SchedulingState) : Prop where
  items : s.items = input.planItems
  distinct : (s.items.map (·.questionId)).Nodup
  budget : ∀ questionId, questionId ∈ s.questionBudgetExhausted
    ↔ questionId
      ∈ input.flaggedQuestions "question_budget_exhausted_by_question"
  strategy : ∀ questionId, questionId ∈ s.queryStrategyExhausted
    ↔ questionId
      ∈ input.flaggedQuestions "query_strategy_exhausted_by_question"
  frozen : ∀ questionId, questionId ∈ s.frozenQuestions
    ↔ questionId ∈ input.frozenQuestions py
  cached : input.searchBudgetExhausted = true → ∀ questionId,
    questionId ∈ s.cachedQuestionIds ↔ questionId ∈ input.cachedQuestionIds

namespace CandidateFigures

/-- The key of a question among those of the eligible candidates. -/
def keyRank (figures : CandidateFigures) (questionId : String) : Nat :=
  (Table.lookup (·.questionId) questionId figures.candidates).elim 0
    fun candidate =>
      Selection.rank figures.scheduleKey
        (figures.candidates.filter figures.isEligible)
        (figures.scheduleKey candidate)

/-- What the figures say of the view's open parts. -/
def view (figures : CandidateFigures) (rest : SchedulingView) :
    SchedulingView :=
  { rest with
    covered :=
      (figures.candidates.filter (·.status = .researched)).map
        (·.questionId)
    passedOver :=
      (figures.candidates.filter (!figures.isEligible ·)).map
        (·.questionId)
    scheduleKey := figures.keyRank }

/-- The selection without the tuples. -/
theorem selectedEntry_eq (figures : CandidateFigures) :
    figures.selectedEntry
      = (figures.candidates.filter figures.isEligible).argmin
        figures.scheduleKey := by
  unfold selectedEntry eligible
  rw [Selection.argmin_map, Option.map_map]
  exact Option.map_id'

end CandidateFigures

section

variable {py : PyText} {input : SelectionInput} {figures : CandidateFigures}
  {s : SchedulingState} {item : ScheduledItem}

/-- The repair keeps the ids. -/
theorem SelectionInput.repaired_questionId
    (coverage : List (String × ℚ)) (item : ScheduledItem) :
    (input.repaired py coverage item).questionId = item.questionId := by
  unfold SelectionInput.repaired
  split <;> rfl

/-- A repair is the end of a question and nothing else. -/
theorem SelectionInput.repaired_eq (coverage : List (String × ℚ))
    (item : ScheduledItem) :
    input.repaired py coverage item = item
      ∨ item.status = .answeredInPart
        ∧ input.repaired py coverage item
          = { item with status := .researched } := by
  unfold SelectionInput.repaired
  split
  case isTrue h => exact .inr ⟨h.1, rfl⟩
  case isFalse => exact .inl rfl

/-- The questions that were given up, as the figures have them. -/
theorem givenUp_of_figures (h : input.figures py = some figures) :
    figures.exhaustedQuestions
        = input.flaggedQuestions "question_budget_exhausted_by_question"
      ∧ figures.strategyExhaustedQuestions
        = input.flaggedQuestions "query_strategy_exhausted_by_question"
      ∧ figures.frozenQuestions = input.frozenQuestions py := by
  unfold SelectionInput.figures at h
  obtain ⟨coverage, -, rfl⟩ := Option.map_eq_some_iff.mp h
  exact ⟨rfl, rfl, rfl⟩

/-- The cached results, as the figures have them. -/
theorem cached_of_figures (h : input.figures py = some figures) :
    figures.searchBudgetExhausted = input.searchBudgetExhausted
      ∧ figures.cachedQuestionIds = input.cachedQuestionIds := by
  unfold SelectionInput.figures at h
  obtain ⟨coverage, -, rfl⟩ := Option.map_eq_some_iff.mp h
  exact ⟨rfl, rfl⟩

/-- The candidates the figures are read for. -/
theorem candidates_of_figures (h : input.figures py = some figures) :
    figures.candidates
      = (input.planItems.filter (·.status.isCandidate)).map
        (input.repaired py figures.coverageByQuestion) := by
  unfold SelectionInput.figures at h
  obtain ⟨coverage, -, rfl⟩ := Option.map_eq_some_iff.mp h
  rfl

/-- Rows with distinct ids stay distinct. -/
theorem nodup_candidates (h : input.figures py = some figures)
    (hdistinct : (input.planItems.map (·.questionId)).Nodup) :
    (figures.candidates.map (·.questionId)).Nodup := by
  rw [candidates_of_figures h, List.map_map]
  have hkey : ((·.questionId) ∘
      input.repaired py figures.coverageByQuestion)
      = (·.questionId : ScheduledItem → String) := by
    funext item
    exact SelectionInput.repaired_questionId _ item
  rw [hkey]
  exact hdistinct.sublist (List.filter_sublist.map _)

/-- A schedulable row is a candidate once it is repaired. -/
theorem repaired_mem (h : input.figures py = some figures)
    (hitem : item ∈ input.planItems)
    (hstatus : item.status.isCandidate = true) :
    input.repaired py figures.coverageByQuestion item
      ∈ figures.candidates := by
  rw [candidates_of_figures h]
  exact List.mem_map_of_mem (List.mem_filter.mpr ⟨hitem, hstatus⟩)

/-- The state's repair of stale questions is the input's. -/
theorem repairStale_items (h : input.figures py = some figures)
    (htells : input.Tells py s) (rest : SchedulingView) :
    (s.repairStale (figures.view rest)).items
      = s.items.map (input.repaired py figures.coverageByQuestion) := by
  have hnodup := nodup_candidates h (htells.items ▸ htells.distinct)
  refine List.map_congr_left fun item hitem => ?_
  rw [htells.items] at hitem
  by_cases hstatus : item.status = .answeredInPart
  · have hrow := repaired_mem h hitem (by rw [hstatus]; rfl)
    have hcovered : item.questionId ∈ (figures.view rest).covered
        ↔ (input.repaired py figures.coverageByQuestion item).status
          = .researched := by
      have hiff := Table.key_mem_filter_iff hnodup hrow
        (fun row => decide (row.status = .researched))
      rw [SelectionInput.repaired_questionId, decide_eq_true_iff] at hiff
      exact hiff
    rcases SelectionInput.repaired_eq figures.coverageByQuestion item with
      hsame | ⟨-, hdone⟩
    · have hkept : item.questionId ∉ (figures.view rest).covered := by
        rw [hcovered, hsame, hstatus]
        decide
      rw [hsame, if_neg fun hstale => hkept hstale.2]
    · have hstale : item.questionId ∈ (figures.view rest).covered := by
        rw [hcovered, hdone]
      rw [hdone, if_pos ⟨hstatus, hstale⟩]
  · rcases SelectionInput.repaired_eq figures.coverageByQuestion item with
      hsame | ⟨hpart, -⟩
    · rw [hsame, if_neg fun hstale => hstatus hstale.1]
    · exact absurd hpart hstatus

/-- A repaired row that the figures let compete. -/
theorem status_of_eligible {coverage : List (String × ℚ)}
    (heligible : figures.isEligible (input.repaired py coverage item)
      = true) : input.repaired py coverage item = item := by
  have hdone :=
    (CandidateFigures.isEligible_iff.mp heligible).1.notDone
  rcases SelectionInput.repaired_eq coverage item with hsame | ⟨-, heq⟩
  · exact hsame
  · rw [heq] at hdone
    exact absurd rfl hdone

/-- An admissible row that the view does not pass over competes. -/
theorem isEligible_of_admissible {view : SchedulingView}
    (h : input.figures py = some figures) (htells : input.Tells py s)
    (hstatus : item.status.isCandidate = true)
    (hadmissible : figures.Admissible item)
    (hlisted : item.questionId ∉ view.passedOver) :
    (s.repairStale view).isEligible view input.searchBudgetExhausted item
      = true := by
  obtain ⟨hbudget, hstrategy, hfrozen⟩ := givenUp_of_figures h
  obtain ⟨hsearch, hcached⟩ := cached_of_figures h
  have hbudget' : item.questionId ∉ s.questionBudgetExhausted := by
    rw [htells.budget, ← hbudget]
    exact hadmissible.budget
  have hstrategy' : item.questionId ∉ s.queryStrategyExhausted := by
    rw [htells.strategy, ← hstrategy]
    exact hadmissible.strategy
  have hfrozen' : item.questionId ∉ s.frozenQuestions := by
    rw [htells.frozen, ← hfrozen]
    exact hadmissible.notFrozen
  have hresults : input.searchBudgetExhausted = false
      ∨ item.questionId ∈ s.cachedQuestionIds := by
    cases hexhausted : input.searchBudgetExhausted with
    | false => exact .inl rfl
    | true =>
        right
        rw [htells.cached hexhausted, ← hcached]
        exact hadmissible.cached (hsearch.trans hexhausted)
  unfold SchedulingState.isEligible
  simp only [Bool.and_eq_true, Bool.or_eq_true, Bool.not_eq_true',
    decide_eq_true_eq]
  exact ⟨⟨⟨⟨⟨hstatus, hbudget'⟩, hstrategy'⟩, hfrozen'⟩, hresults⟩, hlisted⟩

/-- Both schedulers let the same rows compete. -/
theorem isEligible_of_view (h : input.figures py = some figures)
    (htells : input.Tells py s) (rest : SchedulingView)
    (hitem : item ∈ s.items) :
    (s.repairStale (figures.view rest)).isEligible (figures.view rest)
        input.searchBudgetExhausted
        (input.repaired py figures.coverageByQuestion item)
      = (figures.isEligible
          (input.repaired py figures.coverageByQuestion item)
        && item.status.isCandidate) := by
  have hnodup := nodup_candidates h (htells.items ▸ htells.distinct)
  rw [htells.items] at hitem
  cases hstatus : item.status.isCandidate with
  | false =>
      rcases SelectionInput.repaired_eq figures.coverageByQuestion item with
        hsame | ⟨hpart, -⟩
      · rw [hsame, SchedulingState.isEligible, hstatus, Bool.and_false]
        simp only [Bool.false_and]
      · rw [hpart] at hstatus
        cases hstatus
  | true =>
      have hrow := repaired_mem h hitem hstatus
      have hpassed := Table.key_mem_filter_iff hnodup hrow
        (!figures.isEligible ·)
      cases heligible : figures.isEligible
          (input.repaired py figures.coverageByQuestion item) with
      | false =>
          have hlisted :
              (input.repaired py figures.coverageByQuestion item).questionId
                ∈ (figures.view rest).passedOver := by
            refine hpassed.mpr ?_
            rw [heligible]
            rfl
          unfold SchedulingState.isEligible
          rw [decide_eq_false (not_not.mpr hlisted), Bool.and_false]
          rfl
      | true =>
          have hsame := status_of_eligible heligible
          rw [hsame] at heligible hpassed ⊢
          have hlisted : item.questionId
              ∉ (figures.view rest).passedOver := by
            intro hmem
            have hpassed' := hpassed.mp hmem
            rw [heligible] at hpassed'
            cases hpassed'
          exact isEligible_of_admissible h htells hstatus
            (CandidateFigures.isEligible_iff.mp heligible).1 hlisted

/-- The choice is the open scheduler's, under the view of the figures. -/
theorem selectedEntry_of_view (h : input.figures py = some figures)
    (htells : input.Tells py s) (rest : SchedulingView) :
    (s.repairStale (figures.view rest)).selectedEntry (figures.view rest)
        input.searchBudgetExhausted = figures.selectedEntry := by
  have hnodup := nodup_candidates h (htells.items ▸ htells.distinct)
  have hrows : (s.repairStale (figures.view rest)).items.filter
      ((s.repairStale (figures.view rest)).isEligible (figures.view rest)
        input.searchBudgetExhausted)
      = figures.candidates.filter figures.isEligible := by
    rw [repairStale_items h htells, candidates_of_figures h, ← htells.items,
      List.filter_map, List.filter_map, List.filter_filter]
    congr 1
    exact List.filter_congr fun item hitem =>
      isEligible_of_view h htells rest hitem
  unfold SchedulingState.selectedEntry
  rw [hrows, figures.selectedEntry_eq]
  have hkey : ∀ row ∈ figures.candidates.filter figures.isEligible,
      (figures.view rest).scheduleKey row.questionId
        = Selection.rank figures.scheduleKey
          (figures.candidates.filter figures.isEligible)
          (figures.scheduleKey row) := by
    intro row hrow
    show figures.keyRank row.questionId = _
    unfold CandidateFigures.keyRank
    rw [Table.lookup_of_mem hnodup (List.mem_filter.mp hrow).1]
    rfl
  rw [← Selection.argmin_rank figures.scheduleKey]
  refine Selection.argmin_congr fun row hrow other hother => ?_
  rw [hkey row hrow, hkey other hother]

/-- The candidates tell that there is nothing to select. -/
def CandidateFigures.NoneAdmissible (figures : CandidateFigures) : Prop :=
  ∀ row ∈ figures.candidates, ¬ figures.Admissible row

/-- The question is that of an admissible candidate, and it is an untouched
one while an admissible candidate is untouched. -/
structure CandidateFigures.Serves (figures : CandidateFigures)
    (questionId : String) : Prop where
  admissible : ∃ row ∈ figures.candidates,
    row.questionId = questionId ∧ figures.Admissible row
  untouched : (∃ row ∈ figures.candidates, figures.Admissible row
      ∧ figures.executedQueryFamilies row.questionId = []) →
    figures.executedQueryFamilies questionId = []

theorem CandidateFigures.serves_of_selected {row : ScheduledItem}
    (h : figures.selectedEntry = some row) :
    figures.Serves row.questionId := by
  obtain ⟨⟨hrow, heligible⟩, -⟩ := selectedEntry_least h
  refine ⟨⟨row, hrow, rfl, (isEligible_iff.mp heligible).1⟩, ?_⟩
  rintro ⟨other, hother, hadmissible, huntouched⟩
  exact untouched_of_selected h hother hadmissible huntouched

/-- What the call leaves for a selected question is handed out for it. -/
theorem prepareQuestion_questionId {task : TaskId} {view : SchedulingView}
    {searchBudgetExhausted : Bool} {searchStopReason : String}
    {s' : SchedulingState} {target : ScheduledTarget}
    (h : s.prepareQuestion task view searchBudgetExhausted searchStopReason
      item = .ok (s', some target)) :
    target.questionId = item.questionId := by
  unfold SchedulingState.prepareQuestion at h
  dsimp only at h
  split at h
  case h_1 => cases h
  case h_2 =>
    split at h
    case isTrue =>
      obtain ⟨w, -, hpair⟩ := ok_of_map h
      cases hpair
    case isFalse =>
      obtain ⟨w, -, hpair⟩ := ok_of_map h
      injection hpair with _ htarget
      injection htarget with htarget
      rw [← htarget]
      rfl

/-- Giving up on the questions for want of candidates. -/
def SchedulingState.SourcesExhausted (s : SchedulingState) : Prop :=
  s.replanRequested = true
    ∨ s.run.terminationReason = some "sources_exhausted"

theorem enterWriting_exhausted {task : TaskId} {reason : String} {now : ℕ}
    {s' : SchedulingState} {answer : Option ScheduledTarget}
    (h : s.enterWriting task reason now = .ok (s', answer)) :
    answer = none ∧ (s'.SourcesExhausted →
      s.SourcesExhausted ∨ reason = "sources_exhausted") := by
  obtain ⟨w, hw, hpair⟩ := ok_of_map h
  injection hpair with hs' hanswer
  refine ⟨hanswer.symm, ?_⟩
  rw [← hs']
  unfold Run.enterWriting at hw
  split at hw
  case isFalse => cases hw
  case isTrue =>
    injection hw with hw
    rw [← hw]
    rintro (hreplan | hreason)
    · exact .inl (.inl hreplan)
    · exact .inr (Option.some.inj hreason)

theorem prepareQuestion_exhausted {task : TaskId} {view : SchedulingView}
    {searchBudgetExhausted : Bool} {searchStopReason : String}
    {s' : SchedulingState} {answer : Option ScheduledTarget}
    (h : s.prepareQuestion task view searchBudgetExhausted searchStopReason
      item = .ok (s', answer)) (hexhausted : s'.SourcesExhausted) :
    s.SourcesExhausted ∨ searchStopReason = "sources_exhausted" := by
  unfold SchedulingState.prepareQuestion at h
  dsimp only at h
  split at h
  case h_1 =>
    injection h with h
    injection h with hs' _
    rw [← hs'] at hexhausted
    exact .inl hexhausted
  case h_2 =>
    split at h
    case isTrue => exact (enterWriting_exhausted h).2 hexhausted
    case isFalse =>
      obtain ⟨w, hw, hpair⟩ := ok_of_map h
      injection hpair with hs' _
      rw [← hs'] at hexhausted
      simp only [WorkerOp.write] at hw
      unfold writeUsage at hw
      split at hw
      case isFalse => cases hw
      case isTrue =>
        injection hw with hw
        rw [← hw] at hexhausted
        exact .inl hexhausted

/-- No limit is called as the end of the sources. -/
theorem BudgetReason.text_ne (reason : BudgetReason) :
    reason.text ≠ "sources_exhausted" := by
  cases reason <;> decide

end

/-- The worker that holds the sample's run. -/
def selectionTask : TaskId := ⟨sampleRunId, .start, 1⟩

/-- The sample in the course of its run, with an action left. -/
def servedSelection : SelectionInput :=
  { selectionSample with
    run :=
      { selectionSample.run with
        budgetSnapshot := { maxPages := some 12, maxSchedulerActions := some 4 }
        workerTaskId := some selectionTask } }

def servedFigures : CandidateFigures :=
  (servedSelection.figures noText).getD {}

def servedState : SchedulingState where
  ledger := { run := servedSelection.run }
  items := servedSelection.planItems

/-- One query for each question. -/
def servedView : SchedulingView where
  now := servedSelection.now
  familyQueries questionId := [questionId]

theorem servedSelection_figures :
    servedSelection.figures noText = some servedFigures := by
  have hread : (servedSelection.figures noText).isSome = true := by
    decide +kernel
  obtain ⟨figures, hfigures⟩ := Option.isSome_iff_exists.mp hread
  unfold servedFigures
  rw [hfigures]
  rfl

theorem servedSelection_tells : servedSelection.Tells noText servedState := by
  have hbudget : servedSelection.flaggedQuestions
      "question_budget_exhausted_by_question" = [] := by decide
  have hstrategy : servedSelection.flaggedQuestions
      "query_strategy_exhausted_by_question" = [] := by decide
  have hfrozen : servedSelection.frozenQuestions noText = [] := by decide
  have hsearches : servedSelection.searchBudgetExhausted = false := by decide
  refine ⟨rfl, by decide, ?_, ?_, ?_, ?_⟩
  · rw [hbudget]
    exact fun _ => Iff.rfl
  · rw [hstrategy]
    exact fun _ => Iff.rfl
  · rw [hfrozen]
    exact fun _ => Iff.rfl
  · rw [hsearches]
    exact fun h => nomatch h

end DeepResearch.Run
