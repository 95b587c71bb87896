/-
The targets of a plan's questions never promise more than the pool, and
they promise all of it when every question can have the floor.

The targets of the loop are the floor and the shares of an apportionment
(`spreadEstimates_targets`), which give the pool out to the last token,
so the top-up of the first row has nothing to add.
-/
import DeepResearch.Run.QuestionEstimate

namespace DeepResearch.Run

-- =============================================================== the rows

/-- Every row counts. -/
theorem questionWeight_pos (intOfText : String → Option Int)
    (strOf : Json ℚ → String) (index : Nat) (question : PlannedQuestion) :
    0 < (questionWeight intOfText strOf index question).weight := by
  simp only [questionWeight]
  omega

theorem questionWeights_pos {intOfText : String → Option Int}
    {strOf : Json ℚ → String} {questions : List PlannedQuestion} :
    ∀ row ∈ questionWeights intOfText strOf questions, 0 < row.weight := by
  intro row hrow
  unfold questionWeights at hrow
  obtain ⟨index, hindex, rfl⟩ := List.mem_mapIdx.mp hrow
  exact questionWeight_pos intOfText strOf _ _

/-- What an estimate takes over from its row. -/
def QuestionBudgetEstimate.row (estimate : QuestionBudgetEstimate) :
    String × Int × Int :=
  (estimate.questionId, estimate.priority, estimate.complexity)

def QuestionWeight.row (weight : QuestionWeight) : String × Int × Int :=
  (weight.questionId, weight.priority, weight.complexity)

section

variable {remaining totalWeight floor left pool : Int}
  {rows : List QuestionWeight}

theorem spreadEstimates_rows :
    (spreadEstimates remaining totalWeight floor left rows).map (·.row)
      = rows.map (·.row) := by
  induction left, rows using
    spreadEstimates.induct remaining totalWeight with
  | case1 left => rfl
  | case2 left row => rfl
  | case3 left row next rows share ih =>
      rw [spreadEstimates, List.map_cons, ih]
      rfl

/-- The targets are the floor and the shares of the rest. -/
theorem spreadEstimates_targets :
    (spreadEstimates remaining totalWeight floor left rows).map
        (·.targetTokens)
      = (Apportion.shares remaining totalWeight left
        (rows.map (·.weight))).map (floor + ·) := by
  induction left, rows using
    spreadEstimates.induct remaining totalWeight with
  | case1 left => rfl
  | case2 left row => rfl
  | case3 left row next rows share ih =>
      rw [spreadEstimates, List.map_cons, ih]
      rfl

theorem spreadEstimates_minimum :
    ∀ estimate ∈ spreadEstimates remaining totalWeight floor left rows,
      estimate.minimumTokens = floor := by
  induction left, rows using
    spreadEstimates.induct remaining totalWeight with
  | case1 left => simp [spreadEstimates]
  | case2 left row =>
      intro estimate h
      rw [spreadEstimates, List.mem_singleton] at h
      subst h
      rfl
  | case3 left row next rows share ih =>
      intro estimate h
      rw [spreadEstimates, List.mem_cons] at h
      rcases h with rfl | h
      · rfl
      · exact ih estimate h

/-- A constant added to every number of a list. -/
theorem sum_map_add_left (floor : Int) (shares : List Int) :
    (shares.map (floor + ·)).sum = floor * shares.length + shares.sum := by
  induction shares with
  | nil => simp
  | cons share shares ih =>
      rw [List.map_cons, List.sum_cons, ih, List.length_cons, List.sum_cons,
        Nat.cast_add, Nat.cast_one, mul_add, mul_one]
      omega

/-- The loop assigns the floors and everything that remains. -/
theorem spreadEstimates_assigned (h : rows ≠ []) :
    assignedTokens (spreadEstimates remaining totalWeight floor left rows)
      = floor * rows.length + left := by
  have hweights : rows.map (·.weight) ≠ [] := by simpa using h
  rw [assignedTokens, spreadEstimates_targets, sum_map_add_left,
    Apportion.length_shares, Apportion.sum_shares hweights, List.length_map]

theorem topUpFirst_of_assigned {estimates : List QuestionBudgetEstimate}
    (h : assignedTokens estimates = pool) :
    topUpFirst pool estimates = estimates := by
  cases estimates with
  | nil => rfl
  | cons first rest =>
      simp only [topUpFirst]
      rw [if_neg (by omega)]

/-- Where the floors can be paid, the first row is not topped up. -/
theorem estimateRows_of_floors (h : rows ≠ [])
    (hfloors : floor * rows.length ≤ pool) :
    estimateRows pool floor rows
      = spreadEstimates (pool - floor * rows.length)
          (rows.map (·.weight)).sum floor (pool - floor * rows.length)
          rows := by
  unfold estimateRows
  rw [if_neg (not_lt.mpr hfloors)]
  apply topUpFirst_of_assigned
  rw [spreadEstimates_assigned h]
  omega

theorem estimateRows_of_short (hshort : pool < floor * rows.length) :
    estimateRows pool floor rows
      = rows.map fun row =>
        row.estimate (pool / rows.length) (pool / rows.length) := by
  unfold estimateRows
  rw [if_pos hshort]

/-- One estimate per row, in order. -/
theorem estimateRows_rows (h : rows ≠ []) :
    (estimateRows pool floor rows).map (·.row) = rows.map (·.row) := by
  by_cases hfloors : floor * rows.length ≤ pool
  · rw [estimateRows_of_floors h hfloors, spreadEstimates_rows]
  · rw [estimateRows_of_short (not_le.mp hfloors), List.map_map]
    rfl

/-- Every question has the floor where the floors can be paid. -/
theorem estimateRows_floor (pool floor : Int) (h : rows ≠ [])
    (hweights : ∀ row ∈ rows, 0 < row.weight)
    (hfloors : floor * rows.length ≤ pool) :
    assignedTokens (estimateRows pool floor rows) = pool
      ∧ ∀ estimate ∈ estimateRows pool floor rows,
        estimate.minimumTokens = floor ∧ floor ≤ estimate.targetTokens := by
  rw [estimateRows_of_floors h hfloors]
  refine ⟨by rw [spreadEstimates_assigned h]; omega,
    fun estimate hestimate => ⟨spreadEstimates_minimum estimate hestimate,
      ?_⟩⟩
  have htarget : estimate.targetTokens
      ∈ (spreadEstimates (pool - floor * rows.length)
        (rows.map (·.weight)).sum floor (pool - floor * rows.length)
        rows).map (·.targetTokens) :=
    List.mem_map.mpr ⟨estimate, hestimate, rfl⟩
  rw [spreadEstimates_targets] at htarget
  obtain ⟨share, hshare, hsum⟩ := List.mem_map.mp htarget
  have hweights' : ∀ weight ∈ rows.map (·.weight), 0 < weight := by
    simpa using hweights
  have htotal : 0 < (rows.map (·.weight)).sum :=
    List.sum_pos _ hweights' (by simpa using h)
  have hnonneg : 0 ≤ share :=
    Apportion.shares_nonneg (by omega) htotal
      (fun weight hweight => (hweights' weight hweight).le) (le_refl _)
      share hshare
  omega

/-- Where they cannot be paid, everyone gets the same. -/
theorem estimateRows_equal (pool floor : Int) (h : rows ≠ [])
    (hshort : pool < floor * rows.length) :
    assignedTokens (estimateRows pool floor rows) ≤ pool
      ∧ ∀ estimate ∈ estimateRows pool floor rows,
        estimate.targetTokens = pool / rows.length := by
  rw [estimateRows_of_short hshort]
  constructor
  · rw [assignedTokens, List.map_map]
    show (rows.map fun _ => pool / (rows.length : Int)).sum ≤ pool
    rw [List.map_const', List.sum_replicate, nsmul_eq_mul]
    exact Int.mul_ediv_self_le (by simpa using h)
  · intro estimate hestimate
    obtain ⟨row, -, rfl⟩ := List.mem_map.mp hestimate
    rfl

end

-- ============================================================ the theorem

/-- Every question gets one estimate, in order, the targets fit in the
pool and use all of it when every question can have the floor; otherwise
everyone gets the same. -/
theorem question_budgets_conserved (intOfText : String → Option Int)
    (strOf : Json ℚ → String) {questions : List PlannedQuestion}
    {maxTokens plannerTokens writerReserve : Int}
    (minimumPerQuestion : Int) (hquestions : questions ≠ [])
    (hmax : 0 ≤ maxTokens) (hplanner : 0 ≤ plannerTokens)
    (hwriter : 0 ≤ writerReserve) :
    ∃ estimates,
      estimateQuestionBudgets intOfText strOf questions maxTokens
        plannerTokens writerReserve minimumPerQuestion = .ok estimates
      ∧ estimates.map (·.row)
        = (questionWeights intOfText strOf questions).map (·.row)
      ∧ let pool := max 0 (maxTokens - plannerTokens - writerReserve)
        let floor := max 1 minimumPerQuestion
        (estimates.map (·.targetTokens)).sum ≤ pool
        ∧ (floor * questions.length ≤ pool →
          (estimates.map (·.targetTokens)).sum = pool
            ∧ ∀ estimate ∈ estimates, estimate.minimumTokens = floor
              ∧ floor ≤ estimate.targetTokens)
        ∧ (pool < floor * questions.length →
          ∀ estimate ∈ estimates,
            estimate.targetTokens = pool / questions.length) := by
  have hlength : (questionWeights intOfText strOf questions).length
      = questions.length := List.length_mapIdx
  have hrows : questionWeights intOfText strOf questions ≠ [] := by
    rw [← List.length_pos_iff, hlength]
    exact List.length_pos_iff.mpr hquestions
  generalize hpool : max 0 (maxTokens - plannerTokens - writerReserve)
    = pool
  generalize hfloor : max 1 minimumPerQuestion = floor
  have hestimates : estimateQuestionBudgets intOfText strOf questions
      maxTokens plannerTokens writerReserve minimumPerQuestion
        = .ok (estimateRows pool floor
          (questionWeights intOfText strOf questions)) := by
    unfold estimateQuestionBudgets
    rw [if_neg (by omega), if_neg (by simpa using hquestions), hpool, hfloor]
  refine ⟨_, hestimates, estimateRows_rows hrows, ?_⟩
  have hfloors := estimateRows_floor pool floor hrows questionWeights_pos
  have hequal := estimateRows_equal pool floor hrows
  rw [hlength] at hfloors hequal
  refine ⟨?_, hfloors, fun hshort => (hequal hshort).2⟩
  -- The floors are paid in full, or every question gets an equal share.
  rcases le_or_gt (floor * questions.length) pool with hpaid | hshort
  · exact (hfloors hpaid).1.le
  · exact (hequal hshort).1

/-- Two questions: the second has two requirements and takes what the
rounding leaves. -/
theorem question_budgets_conserved_sample :
    ∃ estimates,
      estimateQuestionBudgets (fun _ => none) (fun _ => "")
        [[("id", .str "q1"), ("priority", .int 1)],
          [("evidence_requirements", .list [.str "a", .str "b"])]]
        6001 500 0 2500 = .ok estimates
      ∧ estimates.map (·.row) = [("q1", 1, 1), ("q2", 2, 3)]
      ∧ (estimates.map (·.targetTokens)).sum = 5501 := by
  obtain ⟨estimates, hestimates, hrows, -, hfloors, -⟩ :=
    question_budgets_conserved (fun _ => none) (fun _ => "") 2500
      (List.cons_ne_nil [("id", .str "q1"), ("priority", .int 1)]
        [[("evidence_requirements", .list [.str "a", .str "b"])]])
      (by decide : (0 : Int) ≤ 6001) (by decide : (0 : Int) ≤ 500)
      (le_refl 0)
  exact ⟨estimates, hestimates, hrows.trans (by decide +kernel),
    (hfloors (by decide)).1⟩

end DeepResearch.Run
