/-
Follow-up questions keep a plan well formed.

# Building

As long as the numbers can be written, `build_gap_driven_questions`
returns one draft for every gap it has room for, under the numbers that
follow the plan's (`build_eq`); so no id is used twice. Every draft
passes the validation, and still does with its text collapsed, because
its text begins with seven characters that are no white space.

# Appending

`append_dynamic_questions` appends some of what it is given, and nothing
whose text is there already (`appendLoop_spec`); the limits of the
building leave it room (`appendLoop_returns`).
-/
import DeepResearch.Lib.Outcome
import DeepResearch.Plan.DynamicQuestions

namespace DeepResearch.Plan

open DeepResearch.Run (isSpace isSpace_space)

-- ================================================================ numbers

/-- The id of a number. -/
def idOf (n : Nat) : PlanText :=
  'q' :: Nat.toDigits 10 n

/-- The number of an id. -/
def idNumber (id : PlanText) : Nat :=
  Nat.ofDigitChars 10 (id.drop 1) 0

@[simp] theorem idNumber_idOf (n : Nat) : idNumber (idOf n) = n :=
  Nat.ofDigitChars_ten_toDigits

/-- Different numbers give different ids. -/
theorem idOf_injective : Function.Injective idOf := by
  intro m n h
  rw [← idNumber_idOf m, h, idNumber_idOf]

/-- A number of few enough digits is written. -/
theorem numberedId_eq {n : Nat} (h : n < 10 ^ maxStrDigits) :
    numberedId n = .ok (idOf n) := by
  have hlength : (Nat.toDigits 10 n).length ≤ maxStrDigits :=
    (Nat.length_toDigits_le_iff (by decide) (by decide)).mpr h
  unfold numberedId pyStr
  rw [if_neg (by omega)]
  rfl

/-- A positive number is not written with a zero in front. -/
theorem toDigits_eq_cons {n : Nat} (h : 0 < n) :
    ∃ first rest, Nat.toDigits 10 n = first :: rest ∧ first ≠ '0' := by
  induction n using Nat.strongRecOn with
  | ind n ih =>
      rw [Nat.toDigits_eq_if (by decide)]
      split
      case isTrue hlt =>
        refine ⟨n.digitChar, [], rfl, ?_⟩
        have hdigits : ∀ d : Fin 10, 0 < d.val →
            d.val.digitChar ≠ '0' := by decide
        exact hdigits ⟨n, hlt⟩ h
      case isFalse hge =>
        obtain ⟨first, rest, hdigits, hne⟩ := ih (n / 10) (by omega)
          (by omega)
        rw [hdigits]
        exact ⟨first, rest ++ [(n % 10).digitChar], rfl, hne⟩

theorem matchesId_cons (first : Char) (rest : PlanText) :
    matchesId ('q' :: first :: rest)
      = (first.isDigit && first ≠ '0' && rest.all Char.isDigit) := rfl

/-- A positive number gives a well formed id. -/
theorem matchesId_idOf {n : Nat} (h : 0 < n) : matchesId (idOf n) = true := by
  obtain ⟨first, rest, hdigits, hne⟩ := toDigits_eq_cons h
  have hdigit : ∀ c ∈ first :: rest, c.isDigit = true := fun c hc =>
    Nat.isDigit_of_mem_toDigits (by decide) (le_refl 10) (hdigits ▸ hc)
  obtain ⟨hfirst, hrest⟩ := List.forall_mem_cons.mp hdigit
  rw [idOf, hdigits, matchesId_cons, hfirst, decide_eq_true hne,
    List.all_eq_true.mpr hrest]
  rfl

theorem lt_toNat_of_isDigit {c : Char} (hdigit : c.isDigit = true)
    (hne : c ≠ '0') : 48 < c.toNat := by
  have hle : 48 ≤ c.toNat := by
    simp only [Char.isDigit, Bool.and_eq_true, decide_eq_true_eq] at hdigit
    exact UInt32.le_iff_toNat_le.mp hdigit.1
  have hne' : c.toNat ≠ 48 := fun h => hne (Char.toNat_inj.mp h)
  omega

/-- A number with a digit other than zero in front is as large as its
digits tell. -/
theorem pow_le_ofDigitChars {first : Char} (hdigit : first.isDigit = true)
    (hne : first ≠ '0') (rest : PlanText) :
    10 ^ rest.length ≤ Nat.ofDigitChars 10 (first :: rest) 0 := by
  have hfirst := lt_toNat_of_isDigit hdigit hne
  have hzero : '0'.toNat = 48 := rfl
  rw [Nat.ofDigitChars_cons, Nat.ofDigitChars_eq_ofDigitChars_zero]
  have hpos : 1 ≤ 10 * 0 + (first.toNat - '0'.toNat) := by omega
  calc 10 ^ rest.length
      ≤ 10 ^ rest.length * (10 * 0 + (first.toNat - '0'.toNat)) :=
        Nat.le_mul_of_pos_right _ hpos
    _ ≤ _ := Nat.le_add_right ..

/-- The id of a valid question is read, if its number is small enough. -/
theorem pyInt_eq {id : PlanText} (hid : matchesId id = true)
    (h : idNumber id < 10 ^ maxStrDigits) :
    pyInt (id.drop 1) = .ok (idNumber id) := by
  unfold matchesId at hid
  split at hid
  case h_2 => cases hid
  case h_1 first rest =>
    simp only [Bool.and_eq_true, decide_eq_true_eq] at hid
    obtain ⟨⟨hfirst, hne⟩, hrest⟩ := hid
    have hdigits : (first :: rest).all Char.isDigit = true := by
      rw [List.all_cons, hfirst, hrest]
      rfl
    have hpow : 10 ^ rest.length < 10 ^ maxStrDigits :=
      lt_of_le_of_lt (pow_le_ofDigitChars hfirst hne rest) h
    have hlength : rest.length < maxStrDigits :=
      (Nat.pow_lt_pow_iff_right (by decide)).mp hpow
    show pyInt (first :: rest) = .ok (Nat.ofDigitChars 10 (first :: rest) 0)
    unfold pyInt
    rw [if_neg, if_neg]
    · rw [List.length_cons]
      omega
    · rw [hdigits]
      simp

/-- The largest number of the plan's ids. -/
def ResearchPlan.lastNumber (plan : ResearchPlan) : Nat :=
  (plan.questions.map fun q => idNumber q.id).foldl max 0

theorem foldl_max_le {l : List Nat} {start bound : Nat} :
    l.foldl max start ≤ bound ↔ start ≤ bound ∧ ∀ n ∈ l, n ≤ bound := by
  induction l generalizing start with
  | nil => simp
  | cons n l ih =>
      rw [List.foldl_cons, ih, Nat.max_le, List.forall_mem_cons, and_assoc]

/-- The last number bounds those of the plan. -/
theorem ResearchPlan.idNumber_le_lastNumber {plan : ResearchPlan}
    {q : ResearchQuestion} (hq : q ∈ plan.questions) :
    idNumber q.id ≤ plan.lastNumber :=
  (foldl_max_le.mp (le_refl plan.lastNumber)).2 _
    (List.mem_map_of_mem hq)

/-- The numbers of a valid plan are read. -/
theorem lastNumber_eq {plan : ResearchPlan} (hplan : plan.Valid)
    (hlast : plan.lastNumber < 10 ^ maxStrDigits) :
    (plan.questions.mapM fun q => pyInt (q.id.drop 1)) >>= pyMax
      = .ok plan.lastNumber := by
  have hread : (plan.questions.mapM fun q => pyInt (q.id.drop 1))
      = .ok (plan.questions.map fun q => idNumber q.id) :=
    Outcome.mapM_eq_ok fun q hq => pyInt_eq (hplan.questions q hq).id
      (lt_of_le_of_lt (plan.idNumber_le_lastNumber hq) hlast)
  have hpos := hplan.questions_length.1
  unfold ResearchPlan.lastNumber
  rw [hread]
  cases hq : plan.questions with
  | nil =>
      rw [hq] at hpos
      simp at hpos
  | cons q qs =>
      show pyMax (idNumber q.id :: qs.map fun q => idNumber q.id) = _
      rw [List.map_cons, List.foldl_cons, Nat.zero_max]
      rfl

-- ================================================================ building

/-- The drafts for some gaps, under the numbers from `n` on. -/
def drafts : Nat → List CoverageGap → List ResearchQuestion
  | _, [] => []
  | n, gap :: gaps => gap.draft (idOf n) :: drafts (n + 1) gaps

/-- A number that is free is taken at once. -/
theorem nextFree_eq {usedIds : List PlanText} {n : Nat} (fuel : Nat)
    (hused : idOf n ∉ usedIds) (h : n < 10 ^ maxStrDigits) :
    nextFree usedIds (fuel + 1) n = .ok n := by
  unfold nextFree
  rw [numberedId_eq h]
  show (if idOf n ∈ usedIds then nextFree usedIds fuel (n + 1)
    else pure n) = _
  rw [if_neg hused]
  rfl

/-- A follow-up question is cut to the 500 characters of the schema. -/
theorem followUp_eq (gap : CoverageGap) : ∃ rest,
    gap.followUp = "针对研究问题「".toList ++ rest ∧ rest.length ≤ 493 := by
  refine ⟨(gap.question ++ "」, 还需哪些独立公开证据补齐缺口: ".toList
    ++ gap.reasonText ++ "?".toList).take 493, ?_, List.length_take_le ..⟩
  unfold CoverageGap.followUp
  rw [List.take_append]
  rfl

theorem solid_start :
    ∀ c ∈ "针对研究问题「".toList, isSpace c = false := by
  have hall : ("针对研究问题「".toList.all fun c => isSpace c = false)
      = true := by decide
  exact fun c hc => of_decide_eq_true (List.all_eq_true.mp hall c hc)

/-- The text of a draft, collapsed or not, is within its bounds. -/
theorem length_followUp (gap : CoverageGap) :
    7 ≤ gap.followUp.length ∧ gap.followUp.length ≤ 500
      ∧ 7 ≤ (collapseSpaces gap.followUp).length
      ∧ (collapseSpaces gap.followUp).length ≤ 500 := by
  obtain ⟨rest, hfollow, hrest⟩ := followUp_eq gap
  have hstart : "针对研究问题「".toList.length = 7 := rfl
  obtain ⟨tail, htail⟩ : ∃ tail, collapseSpaces gap.followUp
      = "针对研究问题「".toList ++ tail := by
    rw [hfollow]
    exact Words.collapse_of_solid (by decide) solid_start rest
  have hcollapse : (collapseSpaces gap.followUp).length
      ≤ gap.followUp.length := Words.length_collapse_le gap.followUp
  have hlength := congrArg List.length hfollow
  have hlength' := congrArg List.length htail
  rw [List.length_append, hstart] at hlength hlength'
  omega

/-- A draft is valid under any text within the bounds. -/
theorem draft_valid {gap : CoverageGap} {n : Nat} (hn : 0 < n)
    (hkey : gap.dimensionKey.length ≤ 100) {text : PlanText}
    (htext : 7 ≤ text.length ∧ text.length ≤ 500) :
    ({ gap.draft (idOf n) with question := text }
      : ResearchQuestion).Valid where
  id := matchesId_idOf hn
  question := ⟨by show 5 ≤ text.length; omega, htext.2⟩
  priority := by
    show 1 ≤ max 1 (min gap.priority 3) ∧ max 1 (min gap.priority 3) ≤ 3
    omega
  rationale := by
    have hbefore : "Evaluator 发现维度 ".toList.length = 15 := rfl
    have hafter : " 尚未满足验收标准.".toList.length = 10 := rfl
    show 5 ≤ ("Evaluator 发现维度 ".toList ++ gap.dimensionKey
        ++ " 尚未满足验收标准.".toList).length
      ∧ ("Evaluator 发现维度 ".toList ++ gap.dimensionKey
        ++ " 尚未满足验收标准.".toList).length ≤ 500
    rw [List.length_append, List.length_append, hbefore, hafter]
    omega
  evidenceRequirements := by
    show 1 ≤ ((gap.missingReasons.take 4 ++ [_]).take 5).length
      ∧ ((gap.missingReasons.take 4 ++ [_]).take 5).length ≤ 5
    rw [List.length_take, List.length_append, List.length_singleton]
    omega
  searchHints := Nat.le_succ 2

/-- The loop builds a draft for every gap there is room for. -/
theorem buildLoop_eq {available : Nat} {gaps : List CoverageGap}
    {additions : List ResearchQuestion} {usedIds : List PlanText} {n : Nat}
    (hn : 0 < n) (hkeys : ∀ gap ∈ gaps, gap.dimensionKey.length ≤ 100)
    (hused : ∀ id ∈ usedIds, idNumber id < n)
    (hnumbers : n + min gaps.length (available - additions.length)
      ≤ 10 ^ maxStrDigits) :
    buildLoop available gaps additions usedIds n = .ok (additions
      ++ drafts n (gaps.take (available - additions.length))) := by
  induction gaps generalizing additions usedIds n with
  | nil =>
      rw [List.take_nil]
      show Except.ok additions = .ok (additions ++ [])
      rw [List.append_nil]
  | cons gap gaps ih =>
      obtain ⟨hkey, hkeys⟩ := List.forall_mem_cons.mp hkeys
      rw [buildLoop]
      -- The loop ends at the limit of the additions.
      by_cases hroom : additions.length ≥ available
      · rw [if_pos hroom, Nat.sub_eq_zero_of_le hroom, List.take_zero]
        show Except.ok additions = .ok (additions ++ [])
        rw [List.append_nil]
      · rw [if_neg hroom]
        obtain ⟨k, hk⟩ : ∃ k, available - additions.length = k + 1 :=
          ⟨available - additions.length - 1, by omega⟩
        rw [hk, List.length_cons] at hnumbers
        have hlt : n < 10 ^ maxStrDigits := by omega
        -- All ids in use have smaller numbers.
        have hfree : idOf n ∉ usedIds := by
          intro hmem
          have hless := hused _ hmem
          rw [idNumber_idOf] at hless
          omega
        have hvalid : (gap.draft (idOf n)).Valid :=
          draft_valid hn hkey ⟨(length_followUp gap).1,
            (length_followUp gap).2.1⟩
        have hcreate : (gap.draft (idOf n)).create
            = .ok (gap.draft (idOf n)) := if_pos hvalid
        have hrest : available - (additions ++ [gap.draft (idOf n)]).length
            = k := by
          rw [List.length_append, List.length_singleton]
          omega
        have hused' : ∀ id ∈ idOf n :: usedIds, idNumber id < n + 1 := by
          rw [List.forall_mem_cons, idNumber_idOf]
          exact ⟨by omega, fun id hid => Nat.lt_succ_of_lt (hused id hid)⟩
        rw [nextFree_eq _ hfree hlt]
        show (numberedId n >>= fun id => (gap.draft id).create >>=
          fun question => buildLoop available gaps (additions ++ [question])
            (id :: usedIds) (n + 1)) = _
        rw [numberedId_eq hlt]
        show ((gap.draft (idOf n)).create >>= fun question =>
          buildLoop available gaps (additions ++ [question])
            (idOf n :: usedIds) (n + 1)) = _
        rw [hcreate]
        show buildLoop available gaps (additions ++ [gap.draft (idOf n)])
          (idOf n :: usedIds) (n + 1) = _
        rw [ih (by omega) hkeys hused' (by rw [hrest]; omega), hrest, hk,
          List.take_succ_cons, drafts, List.append_assoc]
        rfl

/-- What is built for a plan. -/
theorem build_eq {plan : ResearchPlan} (hplan : plan.Valid)
    {gaps : List CoverageGap}
    (hkeys : ∀ gap ∈ gaps, gap.dimensionKey.length ≤ 100)
    (hnumbers : plan.lastNumber + min gaps.length plan.available
      < 10 ^ maxStrDigits) :
    buildGapDrivenQuestions plan gaps
      = .ok (drafts (plan.lastNumber + 1) (gaps.take plan.available)) := by
  have hlast := lastNumber_eq hplan (by omega)
  have hused : ∀ id ∈ plan.questions.map (·.id),
      idNumber id < plan.lastNumber + 1 := by
    rw [List.forall_mem_map]
    exact fun q hq => Nat.lt_succ_of_le (plan.idNumber_le_lastNumber hq)
  have hloop : buildLoop plan.available gaps []
      (plan.questions.map (·.id)) (plan.lastNumber + 1)
      = .ok ([] ++ drafts (plan.lastNumber + 1)
        (gaps.take (plan.available - [].length))) :=
    buildLoop_eq (Nat.succ_pos plan.lastNumber) hkeys hused
      (by rw [List.length_nil, Nat.sub_zero]; omega)
  unfold buildGapDrivenQuestions
  rw [← bind_assoc, hlast]
  exact hloop

/-- Every draft is about one of the gaps, under a number from `n` on. -/
theorem mem_drafts {n : Nat} {gaps : List CoverageGap}
    {q : ResearchQuestion} (h : q ∈ drafts n gaps) :
    ∃ gap ∈ gaps, ∃ m, n ≤ m ∧ q = gap.draft (idOf m) := by
  induction gaps generalizing n with
  | nil => cases h
  | cons gap gaps ih =>
      rcases List.mem_cons.mp h with rfl | h
      · exact ⟨gap, List.mem_cons_self, n, le_refl n, rfl⟩
      · obtain ⟨gap', hgap, m, hm, rfl⟩ := ih h
        exact ⟨gap', List.mem_cons_of_mem _ hgap, m, by omega, rfl⟩

/-- There is one draft for each gap. -/
theorem length_drafts (n : Nat) (gaps : List CoverageGap) :
    (drafts n gaps).length = gaps.length := by
  induction gaps generalizing n with
  | nil => rfl
  | cons gap gaps ih => exact congrArg (· + 1) (ih (n + 1))

/-- No two drafts share an id. -/
theorem nodup_drafts (n : Nat) (gaps : List CoverageGap) :
    ((drafts n gaps).map (·.id)).Nodup := by
  induction gaps generalizing n with
  | nil => exact List.nodup_nil
  | cons gap gaps ih =>
      rw [drafts, List.map_cons, List.nodup_cons]
      refine ⟨fun hmem => ?_, ih (n + 1)⟩
      obtain ⟨q, hq, heq⟩ := List.mem_map.mp hmem
      obtain ⟨gap', -, m, hm, rfl⟩ := mem_drafts hq
      have hmn : m = n := idOf_injective heq
      omega

-- =============================================================== appending

/-- A question as it is appended. -/
def ResearchQuestion.normalized (q : ResearchQuestion) : ResearchQuestion :=
  { q with question := collapseSpaces q.question }

section

variable {casefold : PlanText → PlanText}

/-- The key of a text does not see its white space. -/
theorem textKey_collapseSpaces (text : PlanText) :
    textKey casefold (collapseSpaces text) = textKey casefold text :=
  congrArg casefold (Words.collapse_collapse isSpace_space)

/-- What the loop appends: some of the additions, with texts that are
new. -/
theorem appendLoop_spec {additions merged result : List ResearchQuestion}
    {existingText : List PlanText}
    (h : appendLoop casefold additions merged existingText = .ok result) :
    ∃ appended, result = merged ++ appended
      ∧ appended.Sublist (additions.map ResearchQuestion.normalized)
      ∧ (appended.map fun q => textKey casefold q.question).Nodup
      ∧ ∀ q ∈ appended, textKey casefold q.question ∉ existingText := by
  induction additions generalizing merged existingText with
  | nil =>
      injection h with h
      subst h
      exact ⟨[], (List.append_nil _).symm, .slnil, .nil, nofun⟩
  | cons question additions ih =>
      rw [appendLoop] at h
      split at h
      case isTrue =>
        obtain ⟨appended, hresult, hsub, hnodup, hnew⟩ := ih h
        exact ⟨appended, hresult, hsub.cons _, hnodup, hnew⟩
      case isFalse hfresh =>
        split at h
        case isTrue => cases h
        case isFalse =>
          obtain ⟨appended, hresult, hsub, hnodup, hnew⟩ := ih h
          have hkey : textKey casefold question.normalized.question
              = casefold (collapseSpaces question.question) :=
            textKey_collapseSpaces question.question
          refine ⟨question.normalized :: appended, ?_, hsub.cons_cons _, ?_, ?_⟩
          · rw [hresult, List.append_assoc]
            rfl
          · rw [List.map_cons, List.nodup_cons, hkey]
            refine ⟨fun hmem => ?_, hnodup⟩
            obtain ⟨q, hq, heq⟩ := List.mem_map.mp hmem
            exact hnew q hq (heq ▸ List.mem_cons_self)
          · rw [List.forall_mem_cons, hkey]
            exact ⟨hfresh, fun q hq hmem =>
              hnew q hq (List.mem_cons_of_mem _ hmem)⟩

/-- The loop stays within the limit. -/
theorem length_appendLoop_le
    {additions merged result : List ResearchQuestion}
    {existingText : List PlanText}
    (h : appendLoop casefold additions merged existingText = .ok result)
    (hmerged : merged.length ≤ maxDynamicQuestions) :
    result.length ≤ maxDynamicQuestions := by
  induction additions generalizing merged existingText with
  | nil =>
      injection h with h
      exact h ▸ hmerged
  | cons question additions ih =>
      rw [appendLoop] at h
      split at h
      case isTrue => exact ih h hmerged
      case isFalse =>
        split at h
        case isTrue => cases h
        case isFalse hroom =>
          refine ih h ?_
          rw [List.length_append, List.length_singleton]
          omega

/-- With room for every addition, it returns. -/
theorem appendLoop_returns {additions merged : List ResearchQuestion}
    {existingText : List PlanText}
    (hroom : merged.length + additions.length ≤ maxDynamicQuestions) :
    ∃ result, appendLoop casefold additions merged existingText
      = .ok result := by
  induction additions generalizing merged existingText with
  | nil => exact ⟨merged, rfl⟩
  | cons question additions ih =>
      rw [List.length_cons] at hroom
      rw [appendLoop]
      split
      · exact ih (by omega)
      · rw [if_neg (by omega)]
        refine ih ?_
        rw [List.length_append, List.length_singleton]
        omega

end

-- ================================================================ the plan

variable {casefold : PlanText → PlanText} {plan revised : ResearchPlan}
  {gaps : List CoverageGap}

/-- A plan with follow-up questions appended: the plan is still valid,
and no new question says what another one says, up to white space and
case. -/
structure Extended (casefold : PlanText → PlanText)
    (plan revised : ResearchPlan) (appended : List ResearchQuestion) :
    Prop where
  questions : revised = { plan with questions := plan.questions ++ appended }
  valid : revised.Valid
  new_texts : ∀ q ∈ appended, ∀ p ∈ plan.questions,
    textKey casefold q.question ≠ textKey casefold p.question
  distinct_texts :
    (appended.map fun q => textKey casefold q.question).Nodup

theorem append_eq {additions : List ResearchQuestion}
    (h : ¬ additions.length > maxDynamicAppend) :
    appendDynamicQuestions casefold plan additions
      = (appendLoop casefold additions plan.questions
          (plan.questions.map fun q => textKey casefold q.question)).map
        fun merged => { plan with questions := merged } := by
  rw [appendDynamicQuestions, if_neg h]
  show appendLoop _ _ _ _ >>= _ = _
  cases appendLoop casefold additions plan.questions
    (plan.questions.map fun q => textKey casefold q.question) with
  | error e => rfl
  | ok merged => rfl

/-- Whatever is appended has a new text. -/
theorem append_spec {additions : List ResearchQuestion}
    (h : appendDynamicQuestions casefold plan additions = .ok revised) :
    ∃ appended,
      revised = { plan with questions := plan.questions ++ appended }
      ∧ appended.Sublist (additions.map ResearchQuestion.normalized)
      ∧ (appended.map fun q => textKey casefold q.question).Nodup
      ∧ (∀ q ∈ appended, ∀ p ∈ plan.questions,
        textKey casefold q.question ≠ textKey casefold p.question)
      ∧ (plan.questions.length ≤ maxDynamicQuestions →
        revised.questions.length ≤ maxDynamicQuestions) := by
  by_cases hmany : additions.length > maxDynamicAppend
  · rw [appendDynamicQuestions, if_pos hmany] at h
    cases h
  · rw [append_eq hmany] at h
    cases hloop : appendLoop casefold additions plan.questions
        (plan.questions.map fun q => textKey casefold q.question) with
    | error e =>
        rw [hloop] at h
        cases h
    | ok merged =>
        rw [hloop] at h
        injection h with h
        subst h
        obtain ⟨appended, rfl, hsub, hnodup, hnew⟩ := appendLoop_spec hloop
        refine ⟨appended, rfl, hsub, hnodup, fun q hq p hp heq => ?_,
          length_appendLoop_le hloop⟩
        exact hnew q hq (List.mem_map.mpr ⟨p, hp, heq.symm⟩)

/-- The drafts of a plan's gaps are appended without an error. -/
theorem extendPlan_returns (hplan : plan.Valid)
    (hkeys : ∀ gap ∈ gaps, gap.dimensionKey.length ≤ 100)
    (hnumbers : plan.lastNumber + min gaps.length plan.available
      < 10 ^ maxStrDigits) :
    ∃ revised, extendPlan casefold plan gaps = .ok revised
      ∧ appendDynamicQuestions casefold plan (drafts (plan.lastNumber + 1)
        (gaps.take plan.available)) = .ok revised := by
  have hlength : (drafts (plan.lastNumber + 1)
      (gaps.take plan.available)).length ≤ plan.available := by
    rw [length_drafts]
    exact List.length_take_le ..
  have hfew : plan.available ≤ maxDynamicAppend := Nat.min_le_left ..
  have hleft : plan.available ≤ maxDynamicQuestions - plan.questions.length :=
    Nat.min_le_right ..
  have hmost := hplan.questions_length.2
  have happend : ∃ revised, appendDynamicQuestions casefold plan
      (drafts (plan.lastNumber + 1) (gaps.take plan.available))
      = .ok revised := by
    have hroom : plan.questions.length + (drafts (plan.lastNumber + 1)
        (gaps.take plan.available)).length ≤ maxDynamicQuestions := by omega
    obtain ⟨merged, hmerged⟩ : ∃ merged, appendLoop casefold
        (drafts (plan.lastNumber + 1) (gaps.take plan.available))
        plan.questions
        (plan.questions.map fun q => textKey casefold q.question)
        = .ok merged := appendLoop_returns hroom
    rw [append_eq (by omega), hmerged]
    exact ⟨_, rfl⟩
  obtain ⟨revised, hrevised⟩ := happend
  refine ⟨revised, ?_, hrevised⟩
  unfold extendPlan
  rw [build_eq hplan hkeys hnumbers]
  exact hrevised

/-- What is appended of the drafts of a plan's gaps is valid, under new
ids. -/
theorem valid_of_appended (hplan : plan.Valid)
    (hkeys : ∀ gap ∈ gaps, gap.dimensionKey.length ≤ 100)
    {appended : List ResearchQuestion}
    (hsub : appended.Sublist ((drafts (plan.lastNumber + 1)
      (gaps.take plan.available)).map ResearchQuestion.normalized))
    (hlength : (plan.questions ++ appended).length ≤ maxDynamicQuestions) :
    ({ plan with questions := plan.questions ++ appended }
      : ResearchPlan).Valid := by
  have hdraft : ∀ q ∈ appended, ∃ gap ∈ gaps, ∃ n, plan.lastNumber < n
      ∧ q = (gap.draft (idOf n)).normalized := by
    intro q hq
    obtain ⟨d, hd, rfl⟩ := List.mem_map.mp (hsub.subset hq)
    obtain ⟨gap, hgap, n, hn, rfl⟩ := mem_drafts hd
    exact ⟨gap, List.mem_of_mem_take hgap, n, hn, rfl⟩
  have hids : (appended.map (·.id)).Nodup := by
    have hall : (((drafts (plan.lastNumber + 1)
        (gaps.take plan.available)).map ResearchQuestion.normalized).map
        (·.id)).Nodup := by
      rw [List.map_map]
      exact nodup_drafts _ _
    exact hall.sublist (hsub.map _)
  have hmost := hplan.questions_length.1
  constructor
  case goal => exact hplan.goal
  case scopeSummary => exact hplan.scopeSummary
  case completionCriteria => exact hplan.completionCriteria
  case questions =>
    intro q hq
    rcases List.mem_append.mp hq with hq | hq
    · exact hplan.questions q hq
    · obtain ⟨gap, hgap, n, hn, rfl⟩ := hdraft q hq
      exact draft_valid (by omega) (hkeys gap hgap)
        (length_followUp gap).2.2
  case questions_length =>
    refine ⟨?_, hlength⟩
    show 5 ≤ (plan.questions ++ appended).length
    rw [List.length_append]
    omega
  case unique_ids =>
    show ((plan.questions ++ appended).map (·.id)).Nodup
    rw [List.map_append, List.nodup_append]
    refine ⟨hplan.unique_ids, hids, ?_⟩
    intro id hid id' hid' heq
    obtain ⟨p, hp, rfl⟩ := List.mem_map.mp hid
    obtain ⟨q, hq, rfl⟩ := List.mem_map.mp hid'
    obtain ⟨gap, -, n, hn, rfl⟩ := hdraft q hq
    -- An id of the plan with the number of a draft would be larger than
    -- the last.
    have hnumber : idNumber p.id = n := by
      rw [heq]
      exact idNumber_idOf n
    have hle := plan.idNumber_le_lastNumber hp
    omega

/-- A plan's gaps extend it, as long as the numbers that are needed can
be written; and the same gaps append nothing to the result for a gap
whose follow-up question is there. -/
theorem follow_ups_extend_plan (casefold : PlanText → PlanText)
    (hplan : plan.Valid)
    (hkeys : ∀ gap ∈ gaps, gap.dimensionKey.length ≤ 100)
    (hnumbers : plan.lastNumber + min gaps.length plan.available
      < 10 ^ maxStrDigits) :
    ∃ revised appended, extendPlan casefold plan gaps = .ok revised
      ∧ Extended casefold plan revised appended
      ∧ ∀ again, extendPlan casefold revised gaps = .ok again →
          ∃ appended', again.questions = revised.questions ++ appended'
            ∧ ∀ gap ∈ gaps, (∃ q ∈ revised.questions,
                textKey casefold q.question
                  = textKey casefold gap.followUp) →
              ∀ q ∈ appended', textKey casefold q.question
                ≠ textKey casefold gap.followUp := by
  obtain ⟨revised, hrevised, happend⟩ : ∃ revised,
      extendPlan casefold plan gaps = .ok revised
        ∧ appendDynamicQuestions casefold plan (drafts (plan.lastNumber + 1)
          (gaps.take plan.available)) = .ok revised :=
    extendPlan_returns hplan hkeys hnumbers
  obtain ⟨appended, rfl, hsub, hdistinct, hnew, hlength⟩ :=
    append_spec happend
  refine ⟨_, appended, hrevised, ⟨rfl, valid_of_appended hplan hkeys hsub
    (hlength hplan.questions_length.2), hnew, hdistinct⟩, ?_⟩
  -- The same gaps again: what is appended is new up to its key.
  intro again hagain
  unfold extendPlan at hagain
  cases hbuild : buildGapDrivenQuestions
      { plan with questions := plan.questions ++ appended } gaps with
  | error e =>
      rw [hbuild] at hagain
      cases hagain
  | ok additions =>
      rw [hbuild] at hagain
      obtain ⟨appended', hagain', -, -, hnew', -⟩ := append_spec hagain
      refine ⟨appended', congrArg ResearchPlan.questions hagain', ?_⟩
      rintro gap - ⟨p, hp, heq⟩ q hq hsame
      exact hnew' q hq p hp (hsame.trans heq.symm)

def sampleQuestion (id : PlanText) : ResearchQuestion :=
  { id := id
    question := "What is known?".toList
    priority := 1
    rationale := "The basis".toList
    evidenceRequirements := ["a source".toList] }

theorem sampleQuestion_valid {id : PlanText} (hid : matchesId id = true) :
    (sampleQuestion id).Valid :=
  have htexts : (5 ≤ "What is known?".toList.length
      ∧ "What is known?".toList.length ≤ 500)
      ∧ (5 ≤ "The basis".toList.length
        ∧ "The basis".toList.length ≤ 500) := by decide
  have hpriority : (1 : Int) ≤ 1 ∧ (1 : Int) ≤ 3 := by decide
  have hcounts : (1 ≤ 1 ∧ 1 ≤ 5) ∧ 0 ≤ 3 := by decide
  ⟨hid, htexts.1, hpriority, htexts.2, hcounts.1, hcounts.2⟩

/-- A plan of five questions, of which the first has the given id. -/
def samplePlan (firstId : PlanText) : ResearchPlan :=
  { goal := "A survey".toList
    scopeSummary := "The field".toList
    questions := (firstId :: ["q2", "q3", "q4", "q5"].map String.toList).map
      sampleQuestion
    completionCriteria := ["covered".toList, "cited".toList] }

theorem samplePlan_valid {firstId : PlanText}
    (hid : matchesId firstId = true)
    (hnew : firstId ∉ ["q2", "q3", "q4", "q5"].map String.toList) :
    (samplePlan firstId).Valid where
  goal := by
    show 5 ≤ "A survey".toList.length ∧ "A survey".toList.length ≤ 2000
    decide
  scopeSummary := by
    show 5 ≤ "The field".toList.length ∧ "The field".toList.length ≤ 1000
    decide
  questions := by
    have hids : ∀ id ∈ firstId :: ["q2", "q3", "q4", "q5"].map String.toList,
        matchesId id = true :=
      List.forall_mem_cons.mpr ⟨hid, by decide⟩
    show ∀ q ∈ List.map sampleQuestion _, _
    rw [List.forall_mem_map]
    exact fun id hmem => sampleQuestion_valid (hids id hmem)
  questions_length := by
    show 5 ≤ 5 ∧ 5 ≤ 12
    decide
  completionCriteria := by
    show 2 ≤ 2 ∧ 2 ≤ 8
    decide
  unique_ids := by
    show (firstId :: ["q2", "q3", "q4", "q5"].map String.toList).Nodup
    exact List.nodup_cons.mpr ⟨hnew, by decide⟩

/-- One gap of a plan with the ids q1 to q5. -/
theorem follow_ups_extend_plan_sample :
    ∃ revised appended, extendPlan (List.map Char.toLower)
        (samplePlan "q1".toList) [⟨"q1".toList, "Why?".toList, [], 2⟩]
        = .ok revised
      ∧ Extended (List.map Char.toLower) (samplePlan "q1".toList) revised
        appended := by
  have hlimit : 6 < 10 ^ maxStrDigits :=
    lt_of_lt_of_le (by decide : 6 < 10 ^ 1)
      (Nat.pow_le_pow_right (by decide) (by decide))
  have hlast : (samplePlan "q1".toList).lastNumber = 5 := by decide
  obtain ⟨revised, appended, hrevised, hextended, -⟩ :=
    @follow_ups_extend_plan (samplePlan "q1".toList)
      [⟨"q1".toList, "Why?".toList, [], 2⟩] (List.map Char.toLower)
      (samplePlan_valid (by decide) (by decide))
      (by decide) (by rw [hlast]; exact hlimit)
  exact ⟨revised, appended, hrevised, hextended⟩

/-- An id with more digits than Python converts. -/
def longId : PlanText :=
  'q' :: '1' :: List.replicate maxStrDigits '0'

/-- A valid plan with such an id is not extended, not even by no gap. -/
theorem long_id_raises : (samplePlan longId).Valid
    ∧ extendPlan (List.map Char.toLower) (samplePlan longId) []
      = .error .intStringLimit := by
  have hzeros : (List.replicate maxStrDigits '0').all Char.isDigit
      = true := by
    rw [List.all_replicate]
    decide
  have hid : matchesId longId = true := by
    rw [longId, matchesId_cons, hzeros]
    decide
  have hnew : longId ∉ ["q2", "q3", "q4", "q5"].map String.toList := by
    intro hmem
    have hlength : ∀ id ∈ ["q2", "q3", "q4", "q5"].map String.toList,
        id.length = 2 := by decide
    have hlong := hlength _ hmem
    rw [longId, List.length_cons, List.length_cons, List.length_replicate]
      at hlong
    simp [maxStrDigits] at hlong
  refine ⟨samplePlan_valid hid hnew, ?_⟩
  have hint : pyInt ('1' :: List.replicate maxStrDigits '0')
      = .error .intStringLimit := by
    unfold pyInt
    rw [if_neg, if_pos]
    · rw [List.length_cons, List.length_replicate]
      exact Nat.lt_succ_self _
    · rw [List.all_cons, hzeros]
      decide
  unfold extendPlan buildGapDrivenQuestions
  show ((List.mapM (fun q : ResearchQuestion => pyInt (q.id.drop 1))
    (sampleQuestion longId :: _) >>= _) >>= _) = _
  rw [List.mapM_cons]
  show (((pyInt ('1' :: List.replicate maxStrDigits '0') >>= _) >>= _)
    >>= _) = _
  rw [hint]
  rfl

end DeepResearch.Plan
