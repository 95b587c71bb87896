/-
When normalising a draft's payload spoils it, and when it settles.

# A valid draft

The normaliser's limits are the schema's maxima (`draftLimits_fit`), so
of a valid draft nothing is cut: every text is collapsed, and no list
gets shorter. The draft stays valid exactly when no text falls under its
least length by that (`PlanDraft.Roomy`).

# A second time

Cutting a collapsed text behind a space leaves the space, which the next
collapse removes. That is the only way in which a second normalisation
changes anything (`SettledPayload`), for any payload.
-/
import DeepResearch.Plan.DraftPayload

namespace DeepResearch.Plan

open DeepResearch.Run (isSpace_space)

variable {F : Type}

-- ============================================================= one text

/-- A text with its white space collapsed. -/
def collapseText (value : String) : String :=
  String.ofList (collapsed value)

@[simp] theorem length_collapseText (value : String) :
    (collapseText value).length = (collapsed value).length :=
  String.length_ofList

/-- Collapsing white space makes no text longer. -/
theorem length_collapsed_le (value : String) :
    (collapsed value).length ≤ value.length := by
  rw [← String.length_toList]
  exact Words.length_collapse_le value.toList

/-- A text that is read is not cut, only collapsed. -/
theorem carries_clipText (bounds : Schema.Bounds) :
    Schema.Carries (F := F) (Schema.text bounds) (clipText bounds.most)
      (fun value => bounds.least ≤ (collapsed value).length)
      collapseText := by
  intro value read hread read'
  obtain ⟨rfl, -, hmost⟩ := Schema.text_eq_some_iff.mp hread
  have hlength := length_collapsed_le read
  have hwhole : (collapsed read).take bounds.most = collapsed read :=
    List.take_of_length_le (by omega)
  have hclip : clipText bounds.most (.str read : Json F)
      = .str (collapseText read) := by
    rw [clipText, hwhole]
    rfl
  rw [hclip, Schema.text_eq_some_iff, Json.str.injEq]
  constructor
  · rintro ⟨rfl, hleast, -⟩
    rw [length_collapseText] at hleast
    exact ⟨hleast, rfl⟩
  · rintro ⟨hleast, rfl⟩
    refine ⟨rfl, ?_, ?_⟩
    · rw [length_collapseText]
      exact hleast
    · rw [length_collapseText]
      omega

/-- Clipping a list of texts carries what the schema accepts over,
collapsed. -/
theorem carries_clipTextList (bounds item : Schema.Bounds) :
    Schema.Carries (F := F) (Schema.list bounds (Schema.text item))
      (clipTextList bounds.most item.most)
      (fun values => ∀ value ∈ values,
        item.least ≤ (collapsed value).length)
      (List.map collapseText) := by
  refine (carries_clipText item).list fun items hlength => ?_
  rw [clipTextList, List.take_of_length_le hlength]

-- =========================================================== a valid draft

/-- The normaliser cuts at the bounds of the schema. -/
structure DraftLimits.Fit (limits : DraftLimits) (schema : DraftSchema) :
    Prop where
  scope : limits.scopeLimit = schema.scopeSummary.most
  question : limits.questionLimit = schema.question.most
  rationale : limits.rationaleLimit = schema.rationale.most
  requirement : limits.requirementLimit = schema.evidenceRequirement.most
  hint : limits.hintLimit = schema.searchHint.most
  questions : limits.questionCount = schema.questions.most
  requirements : limits.requirementCount = schema.evidenceRequirements.most
  hints : limits.hintCount = schema.searchHints.most
  criteria : limits.criteriaCount = schema.completionCriteria.most
  criterion : 60 = schema.completionCriterion.most

/-- The limits of the normalisation are those of the schema, in both sizes.
-/
theorem draftLimits_fit (compact : Bool) :
    (draftLimits compact).Fit (draftSchema compact) := by
  cases compact with
  | false => constructor <;> rfl
  | true => constructor <;> rfl

/-- The texts of a question keep their least lengths when they are
collapsed. -/
structure QuestionDraft.Roomy (schema : DraftSchema)
    (draft : QuestionDraft) : Prop where
  question : schema.question.least ≤ (collapsed draft.question).length
  rationale : schema.rationale.least ≤ (collapsed draft.rationale).length
  evidenceRequirements : ∀ value ∈ draft.evidenceRequirements,
    schema.evidenceRequirement.least ≤ (collapsed value).length
  searchHints : ∀ value ∈ draft.searchHints,
    schema.searchHint.least ≤ (collapsed value).length

/-- So do all texts of a draft. -/
structure PlanDraft.Roomy (schema : DraftSchema) (draft : PlanDraft) :
    Prop where
  scopeSummary :
    schema.scopeSummary.least ≤ (collapsed draft.scopeSummary).length
  questions : ∀ question ∈ draft.questions, question.Roomy schema
  completionCriteria : ∀ value ∈ draft.completionCriteria,
    schema.completionCriterion.least ≤ (collapsed value).length

def QuestionDraft.collapse (draft : QuestionDraft) : QuestionDraft :=
  { draft with
    question := collapseText draft.question
    rationale := collapseText draft.rationale
    evidenceRequirements := draft.evidenceRequirements.map collapseText
    searchHints := draft.searchHints.map collapseText }

def PlanDraft.collapse (draft : PlanDraft) : PlanDraft :=
  { scopeSummary := collapseText draft.scopeSummary
    questions := draft.questions.map QuestionDraft.collapse
    completionCriteria := draft.completionCriteria.map collapseText }

/-- Every field of a question has one rule. -/
theorem nodup_questionRules (limits : DraftLimits) :
    ((questionRules limits : List (Schema.Rule F)).map Prod.fst).Nodup := by
  show ["question", "rationale", "evidence_requirements",
    "search_hints"].Nodup
  decide

variable {laxInt : Json F → Option Int} {schema : DraftSchema}
  {limits : DraftLimits}

/-- A question draft is accepted as a dictionary of the five fields, each
of which is. -/
theorem validateQuestion_eq_some_iff {value : Json F}
    {draft : QuestionDraft} :
    validateQuestion laxInt schema value = some draft
      ↔ ∃ items, value = .dict items
        ∧ (∀ key ∈ items.map Prod.fst, key ∈ ["question", "priority",
          "rationale", "evidence_requirements", "search_hints"])
        ∧ Schema.field (Schema.text schema.question) items "question"
          = some draft.question
        ∧ Schema.field (priority laxInt) items "priority"
          = some draft.priority
        ∧ Schema.field (Schema.text schema.rationale) items "rationale"
          = some draft.rationale
        ∧ Schema.field (Schema.list schema.evidenceRequirements
            (Schema.text schema.evidenceRequirement)) items
            "evidence_requirements" = some draft.evidenceRequirements
        ∧ Schema.field (Schema.list schema.searchHints
            (Schema.text schema.searchHint)) items "search_hints"
          = some draft.searchHints := by
  unfold validateQuestion
  simp only [bind, Option.bind_eq_some_iff, Schema.object_eq_some_iff, pure,
    Option.some.injEq]
  constructor
  · rintro ⟨items, ⟨hvalue, hnames⟩, question, hquestion, n, hn, rationale,
      hrationale, requirements, hrequirements, hints, hhints, rfl⟩
    exact ⟨items, hvalue, hnames, hquestion, hn, hrationale, hrequirements,
      hhints⟩
  · rintro ⟨items, hvalue, hnames, hquestion, hn, hrationale, hrequirements,
      hhints⟩
    exact ⟨items, ⟨hvalue, hnames⟩, _, hquestion, _, hn, _, hrationale, _,
      hrequirements, _, hhints, rfl⟩

/-- Bounding a question carries it over, field by field. -/
theorem carries_boundQuestion (hfit : limits.Fit schema) :
    Schema.Carries (validateQuestion laxInt schema) (boundQuestion limits)
      (QuestionDraft.Roomy schema) QuestionDraft.collapse := by
  intro value read hread read'
  obtain ⟨items, rfl, hnames, hquestion, hpriority, hrationale,
    hrequirements, hhints⟩ := validateQuestion_eq_some_iff.mp hread
  have hrules := nodup_questionRules (F := F) limits
  -- The priority has no rule, and is read as before.
  have hpriority' : Schema.field (priority laxInt)
      (Schema.rewriteAll items (questionRules limits)) "priority"
      = some read.priority := by
    rw [Schema.field_rewriteAll_of_notMem]
    · exact hpriority
    · show "priority" ∉ ["question", "rationale", "evidence_requirements",
        "search_hints"]
      decide
  have hquestion' := (carries_clipText schema.question).field hrules
    (hfit.question ▸ .head _) hquestion read'.question
  have hrationale' := (carries_clipText schema.rationale).field hrules
    (hfit.rationale ▸ .tail _ (.head _)) hrationale read'.rationale
  have hrequirements' := (carries_clipTextList schema.evidenceRequirements
    schema.evidenceRequirement).field hrules
    (hfit.requirements ▸ hfit.requirement ▸ .tail _ (.tail _ (.head _)))
    hrequirements read'.evidenceRequirements
  have hhints' := (carries_clipTextList schema.searchHints
    schema.searchHint).field hrules
    (hfit.hints ▸ hfit.hint ▸ .tail _ (.tail _ (.tail _ (.head _)))) hhints
    read'.searchHints
  rw [boundQuestion, validateQuestion_eq_some_iff]
  constructor
  · rintro ⟨items', hitems', -, hq, hp, hr, hrs, hhs⟩
    cases hitems'
    obtain ⟨hq, hq'⟩ := hquestion'.mp hq
    obtain ⟨hr, hr'⟩ := hrationale'.mp hr
    obtain ⟨hrs, hrs'⟩ := hrequirements'.mp hrs
    obtain ⟨hhs, hhs'⟩ := hhints'.mp hhs
    have hp' : read'.priority = read.priority :=
      Option.some.inj (hp.symm.trans hpriority')
    refine ⟨⟨hq, hr, hrs, hhs⟩, ?_⟩
    rw [QuestionDraft.collapse, ← hq', ← hr', ← hrs', ← hhs', ← hp']
  · rintro ⟨hroomy, rfl⟩
    refine ⟨_, rfl, ?_, hquestion'.mpr ⟨hroomy.question, rfl⟩, hpriority',
      hrationale'.mpr ⟨hroomy.rationale, rfl⟩,
      hrequirements'.mpr ⟨hroomy.evidenceRequirements, rfl⟩,
      hhints'.mpr ⟨hroomy.searchHints, rfl⟩⟩
    intro key hkey
    rcases Schema.mem_keys_rewriteAll.mp hkey with hkey | hkey
    · exact hnames key hkey
    -- The rewriting adds no name.
    · have hsub : ∀ key ∈ ["question", "rationale",
          "evidence_requirements", "search_hints"], key ∈ ["question",
          "priority", "rationale", "evidence_requirements",
          "search_hints"] := by decide
      exact hsub key hkey

/-- The questions' rule, as a function of their value. -/
def boundQuestionList (limits : DraftLimits) : Json F → Json F
  | .list questions =>
      .list ((questions.take limits.questionCount).map (boundQuestion limits))
  | value => value

/-- And so for the list of questions. -/
theorem carries_boundQuestionList (hfit : limits.Fit schema) :
    Schema.Carries
      (Schema.list schema.questions (validateQuestion laxInt schema))
      (boundQuestionList limits)
      (fun questions => ∀ question ∈ questions, question.Roomy schema)
      (List.map QuestionDraft.collapse) := by
  refine (carries_boundQuestion hfit).list fun items hlength => ?_
  rw [boundQuestionList, hfit.questions, List.take_of_length_le hlength]

/-- The fields of a payload that are rewritten, if its questions are a
list. -/
def draftRules (limits : DraftLimits) : List (Schema.Rule F) :=
  [("scope_summary", clipText limits.scopeLimit),
    ("questions", boundQuestionList limits),
    ("completion_criteria", clipTextList limits.criteriaCount 60)]

theorem nodup_draftRules (limits : DraftLimits) :
    ((draftRules limits : List (Schema.Rule F)).map Prod.fst).Nodup := by
  show ["scope_summary", "questions", "completion_criteria"].Nodup
  decide

/-- And if they are not. -/
def outerRules (limits : DraftLimits) : List (Schema.Rule F) :=
  [("scope_summary", clipText limits.scopeLimit),
    ("completion_criteria", clipTextList limits.criteriaCount 60)]

theorem nodup_outerRules (limits : DraftLimits) :
    ((outerRules limits : List (Schema.Rule F)).map Prod.fst).Nodup := by
  show ["scope_summary", "completion_criteria"].Nodup
  decide

/-- The questions of a payload are a list. -/
def listsQuestions (items : List (String × Json F)) : Prop :=
  ∃ questions, Json.get items "questions" = .list questions

/-- The questions are bounded where the payload lists them. -/
theorem boundQuestions_of_lists {items : List (String × Json F)}
    (h : listsQuestions items) :
    boundQuestions limits items
      = Schema.rewrite items ("questions", boundQuestionList limits) := by
  obtain ⟨questions, hquestions⟩ := h
  unfold boundQuestions Schema.rewrite
  rw [hquestions]
  rfl

/-- Anything else under `questions` is left to the validation. -/
theorem boundQuestions_of_not_lists {items : List (String × Json F)}
    (h : ¬ listsQuestions items) : boundQuestions limits items = items := by
  unfold boundQuestions
  split
  case h_1 questions hquestions => exact absurd ⟨questions, hquestions⟩ h
  case h_2 => rfl

/-- The rules before the questions' do not touch them. -/
theorem listsQuestions_rewriteAll {items : List (String × Json F)}
    {rules : List (Schema.Rule F)} (h : "questions" ∉ rules.map Prod.fst) :
    listsQuestions (Schema.rewriteAll items rules)
      ↔ listsQuestions items := by
  unfold listsQuestions
  rw [Schema.get_rewriteAll_of_notMem h]

/-- Rewriting the summary leaves the questions. -/
theorem listsQuestions_rewrite_scope {items : List (String × Json F)}
    {f : Json F → Json F} :
    listsQuestions (Schema.rewrite items ("scope_summary", f))
      ↔ listsQuestions items := by
  show listsQuestions (Schema.rewriteAll items [("scope_summary", f)]) ↔ _
  apply listsQuestions_rewriteAll
  show "questions" ∉ ["scope_summary"]
  decide

theorem normalize_of_lists (compact : Bool)
    {items : List (String × Json F)} (h : listsQuestions items) :
    normalizeResearchPlanDraftPayload compact (.dict items)
      = .dict (Schema.rewriteAll items (draftRules (draftLimits compact))) := by
  rw [normalizeResearchPlanDraftPayload,
    boundQuestions_of_lists (listsQuestions_rewrite_scope.mpr h)]
  rfl

theorem normalize_of_not_lists (compact : Bool)
    {items : List (String × Json F)} (h : ¬ listsQuestions items) :
    normalizeResearchPlanDraftPayload compact (.dict items)
      = .dict (Schema.rewriteAll items (outerRules (draftLimits compact))) := by
  rw [normalizeResearchPlanDraftPayload, boundQuestions_of_not_lists
    fun hlists => h (listsQuestions_rewrite_scope.mp hlists)]
  rfl

/-- A draft is accepted as a dictionary of the three fields, each of which
is. -/
theorem validateDraft_eq_some_iff {value : Json F} {draft : PlanDraft} :
    validateDraft laxInt schema value = some draft
      ↔ ∃ items, value = .dict items
        ∧ (∀ key ∈ items.map Prod.fst,
          key ∈ ["scope_summary", "questions", "completion_criteria"])
        ∧ Schema.field (Schema.text schema.scopeSummary) items
            "scope_summary" = some draft.scopeSummary
        ∧ Schema.field (Schema.list schema.questions
            (validateQuestion laxInt schema)) items "questions"
          = some draft.questions
        ∧ Schema.field (Schema.list schema.completionCriteria
            (Schema.text schema.completionCriterion)) items
            "completion_criteria" = some draft.completionCriteria := by
  unfold validateDraft
  simp only [bind, Option.bind_eq_some_iff, Schema.object_eq_some_iff, pure,
    Option.some.injEq]
  constructor
  · rintro ⟨items, ⟨hvalue, hnames⟩, scope, hscope, questions, hquestions,
      criteria, hcriteria, rfl⟩
    exact ⟨items, hvalue, hnames, hscope, hquestions, hcriteria⟩
  · rintro ⟨items, hvalue, hnames, hscope, hquestions, hcriteria⟩
    exact ⟨items, ⟨hvalue, hnames⟩, _, hscope, _, hquestions, _, hcriteria,
      rfl⟩

/-- A valid draft, once its payload is normalised. -/
theorem carries_normalize (laxInt : Json F → Option Int) (compact : Bool) :
    Schema.Carries (validateDraft laxInt (draftSchema compact))
      (normalizeResearchPlanDraftPayload compact)
      (PlanDraft.Roomy (draftSchema compact)) PlanDraft.collapse := by
  intro value read hread read'
  obtain ⟨items, rfl, hnames, hscope, hquestions, hcriteria⟩ :=
    validateDraft_eq_some_iff.mp hread
  have hfit := draftLimits_fit compact
  have hrules := nodup_draftRules (F := F) (draftLimits compact)
  have hlists : listsQuestions items := by
    obtain ⟨found, hfound, hread⟩ := Option.bind_eq_some_iff.mp hquestions
    obtain ⟨questions, rfl, -⟩ := Schema.list_eq_some_iff.mp hread
    exact ⟨questions, by rw [Json.get, hfound, Option.getD_some]⟩
  have hscope' := (carries_clipText (draftSchema compact).scopeSummary).field
    hrules (hfit.scope ▸ .head _) hscope read'.scopeSummary
  have hquestions' := (carries_boundQuestionList hfit).field hrules
    (.tail _ (.head _)) hquestions read'.questions
  have hcriteria' := (carries_clipTextList
    (draftSchema compact).completionCriteria
    (draftSchema compact).completionCriterion).field hrules
    (hfit.criteria ▸ hfit.criterion ▸ .tail _ (.tail _ (.head _))) hcriteria
    read'.completionCriteria
  rw [normalize_of_lists compact hlists, validateDraft_eq_some_iff]
  constructor
  · rintro ⟨items', hitems', -, hs, hqs, hcs⟩
    cases hitems'
    obtain ⟨hs, hs'⟩ := hscope'.mp hs
    obtain ⟨hqs, hqs'⟩ := hquestions'.mp hqs
    obtain ⟨hcs, hcs'⟩ := hcriteria'.mp hcs
    refine ⟨⟨hs, hqs, hcs⟩, ?_⟩
    rw [PlanDraft.collapse, ← hs', ← hqs', ← hcs']
  · rintro ⟨hroomy, rfl⟩
    refine ⟨_, rfl, ?_, hscope'.mpr ⟨hroomy.scopeSummary, rfl⟩,
      hquestions'.mpr ⟨hroomy.questions, rfl⟩,
      hcriteria'.mpr ⟨hroomy.completionCriteria, rfl⟩⟩
    intro key hkey
    exact (Schema.mem_keys_rewriteAll.mp hkey).elim (hnames key) id

-- ============================================================ a second time

/-- A text that is not cut behind a space. -/
def SettledText (maxChars : Nat) : Json F → Prop
  | .str value => (collapsed value)[maxChars - 1]? ≠ some ' '
  | _ => True

/-- So are the texts of a list that are kept. -/
def SettledTexts (maxItems maxChars : Nat) : Json F → Prop
  | .list items => ∀ item ∈ items.take maxItems, SettledText maxChars item
  | _ => True

/-- And the texts of a question. -/
def SettledQuestion (limits : DraftLimits) : Json F → Prop
  | .dict items =>
      SettledText limits.questionLimit (Json.get items "question")
      ∧ SettledText limits.rationaleLimit (Json.get items "rationale")
      ∧ SettledTexts limits.requirementCount limits.requirementLimit
        (Json.get items "evidence_requirements")
      ∧ SettledTexts limits.hintCount limits.hintLimit
        (Json.get items "search_hints")
  | _ => True

def SettledQuestions (limits : DraftLimits) : Json F → Prop
  | .list questions => ∀ question ∈ questions.take limits.questionCount,
      SettledQuestion limits question
  | _ => True

/-- And all texts of a payload. -/
def SettledPayload (compact : Bool) : Json F → Prop
  | .dict items =>
      SettledText (draftLimits compact).scopeLimit
        (Json.get items "scope_summary")
      ∧ SettledQuestions (draftLimits compact) (Json.get items "questions")
      ∧ SettledTexts (draftLimits compact).criteriaCount 60
        (Json.get items "completion_criteria")
  | _ => True

theorem collapsed_ofList (chars : List Char) :
    collapsed (String.ofList chars) = collapseSpaces chars := by
  rw [collapsed, String.toList_ofList]

/-- Clipping a text again changes nothing exactly where the first cut was
not behind a space. -/
theorem clipText_clipText_iff (maxChars : Nat) (value : Json F) :
    clipText maxChars (clipText maxChars value) = clipText maxChars value
      ↔ SettledText maxChars value := by
  cases value with
  | str value =>
      rw [clipText, clipText, Json.str.injEq, String.ofList_inj,
        collapsed_ofList]
      exact Words.clip_clip_iff isSpace_space maxChars
  | _ => exact ⟨fun _ => trivial, fun _ => rfl⟩

/-- The first items of a list, rewritten one by one. -/
theorem map_take_map_iff (f : Json F → Json F) (n : Nat)
    (items : List (Json F)) :
    (((items.take n).map f).take n).map f = (items.take n).map f
      ↔ ∀ item ∈ items.take n, f (f item) = f item := by
  have hlength : ((items.take n).map f).length ≤ n := by
    rw [List.length_map]
    exact List.length_take_le n items
  rw [List.take_of_length_le hlength, List.map_map, List.map_inj_left]
  rfl

theorem clipTextList_clipTextList_iff (maxItems maxChars : Nat)
    (value : Json F) :
    clipTextList maxItems maxChars (clipTextList maxItems maxChars value)
        = clipTextList maxItems maxChars value
      ↔ SettledTexts maxItems maxChars value := by
  cases value with
  | list items =>
      rw [clipTextList, clipTextList, Json.list.injEq, map_take_map_iff]
      exact forall₂_congr fun item _ => clipText_clipText_iff maxChars item
  | _ => exact ⟨fun _ => trivial, fun _ => rfl⟩

/-- A question is settled if each of its fields is. -/
theorem boundQuestion_boundQuestion_iff (value : Json F) :
    boundQuestion limits (boundQuestion limits value)
        = boundQuestion limits value
      ↔ SettledQuestion limits value := by
  cases value with
  | dict items =>
      rw [boundQuestion, boundQuestion, Json.dict.injEq,
        Schema.rewriteAll_rewriteAll_iff (nodup_questionRules limits)]
      unfold questionRules
      simp only [List.forall_mem_cons, clipText_clipText_iff,
        clipTextList_clipTextList_iff, List.not_mem_nil, IsEmpty.forall_iff,
        implies_true, and_true]
      rfl
  | _ => exact ⟨fun _ => trivial, fun _ => rfl⟩

theorem boundQuestionList_boundQuestionList_iff (value : Json F) :
    boundQuestionList limits (boundQuestionList limits value)
        = boundQuestionList limits value
      ↔ SettledQuestions limits value := by
  cases value with
  | list questions =>
      rw [boundQuestionList, boundQuestionList, Json.list.injEq,
        map_take_map_iff]
      exact forall₂_congr fun question _ =>
        boundQuestion_boundQuestion_iff question
  | _ => exact ⟨fun _ => trivial, fun _ => rfl⟩

theorem settledQuestions_of_not_lists {items : List (String × Json F)}
    (h : ¬ listsQuestions items) :
    SettledQuestions limits (Json.get items "questions") := by
  cases hget : Json.get items "questions" with
  | list questions => exact absurd ⟨questions, hget⟩ h
  | _ => trivial

/-- A payload of which no text is cut behind a space is settled by one
normalisation, and no other. -/
theorem normalize_normalize_iff (compact : Bool) (payload : Json F) :
    normalizeResearchPlanDraftPayload compact
        (normalizeResearchPlanDraftPayload compact payload)
        = normalizeResearchPlanDraftPayload compact payload
      ↔ SettledPayload compact payload := by
  cases payload with
  | dict items =>
      by_cases h : listsQuestions items
      · have h' : listsQuestions (Schema.rewriteAll items
            (draftRules (draftLimits compact))) := by
          have hget : Json.get (Schema.rewriteAll items
              (draftRules (draftLimits compact))) "questions"
              = boundQuestionList (draftLimits compact)
                (Json.get items "questions") :=
            Schema.get_rewriteAll_of_mem (nodup_draftRules _)
              (.tail _ (.head _))
          obtain ⟨questions, hquestions⟩ := h
          rw [hquestions] at hget
          exact ⟨_, hget⟩
        rw [normalize_of_lists compact h, normalize_of_lists compact h',
          Json.dict.injEq,
          Schema.rewriteAll_rewriteAll_iff (nodup_draftRules _)]
        unfold draftRules
        simp only [List.forall_mem_cons, clipText_clipText_iff,
          boundQuestionList_boundQuestionList_iff,
          clipTextList_clipTextList_iff, List.not_mem_nil,
          IsEmpty.forall_iff, implies_true, and_true]
        rfl
      · have h' : ¬ listsQuestions (Schema.rewriteAll items
            (outerRules (draftLimits compact))) := by
          rw [listsQuestions_rewriteAll]
          · exact h
          · show "questions" ∉ ["scope_summary", "completion_criteria"]
            decide
        rw [normalize_of_not_lists compact h,
          normalize_of_not_lists compact h', Json.dict.injEq,
          Schema.rewriteAll_rewriteAll_iff (nodup_outerRules _)]
        unfold outerRules
        simp only [List.forall_mem_cons, clipText_clipText_iff,
          clipTextList_clipTextList_iff, List.not_mem_nil,
          IsEmpty.forall_iff, implies_true, and_true]
        exact and_congr_right fun _ =>
          (and_iff_right (settledQuestions_of_not_lists h)).symm
  | _ => exact ⟨fun _ => trivial, fun _ => rfl⟩

-- ========================================================== both together

/-- Normalising a payload keeps a valid draft valid, with its questions
and their priorities, and settles the payload, exactly when no text of a
valid draft falls under its least length by the collapse of its white
space, and no text of the payload is cut behind a space. -/
theorem normalize_spoils_nothing_iff (laxInt : Json F → Option Int)
    (compact : Bool) (payload : Json F) :
    ((∀ draft, validateDraft laxInt (draftSchema compact) payload
          = some draft →
        ∃ draft', validateDraft laxInt (draftSchema compact)
            (normalizeResearchPlanDraftPayload compact payload)
            = some draft'
          ∧ draft'.questions.length = draft.questions.length
          ∧ draft'.questions.map (·.priority)
            = draft.questions.map (·.priority))
      ∧ normalizeResearchPlanDraftPayload compact
          (normalizeResearchPlanDraftPayload compact payload)
        = normalizeResearchPlanDraftPayload compact payload)
    ↔ (∀ draft, validateDraft laxInt (draftSchema compact) payload
          = some draft → draft.Roomy (draftSchema compact))
      ∧ SettledPayload compact payload := by
  rw [normalize_normalize_iff]
  refine and_congr_left fun _ => forall₂_congr fun draft hdraft => ?_
  have hcarries := carries_normalize laxInt compact payload draft hdraft
  constructor
  · rintro ⟨draft', hdraft', -⟩
    exact ((hcarries draft').mp hdraft').1
  · intro hroomy
    refine ⟨draft.collapse, (hcarries _).mpr ⟨hroomy, rfl⟩, ?_, ?_⟩
    · rw [PlanDraft.collapse, List.length_map]
    · rw [PlanDraft.collapse, List.map_map]
      rfl

/-- A payload that is valid because of the white space in its scope. -/
def paddedPayload : Json Int :=
  let question : Json Int := .dict
    [("question", .str "What is known?"), ("priority", .int 1),
      ("rationale", .str "The basis"),
      ("evidence_requirements", .list [.str "a source"]),
      ("search_hints", .list [.str "overview"])]
  .dict [("scope_summary", .str "a    b"),
    ("questions", .list (List.replicate 5 question)),
    ("completion_criteria", .list [.str "covered", .str "cited"])]

/-- A payload whose scope is cut behind a space. -/
def cutPayload : Json Int :=
  .dict [("scope_summary",
    .str (String.ofList (List.replicate 99 'a' ++ [' ', 'b'])))]

/-- The first is refused once it is normalised; the second loses the
space when it is normalised again. -/
theorem padded_draft_spoiled :
    let laxInt : Json Int → Option Int
      | .int n => some n
      | _ => none
    (∃ draft, validateDraft laxInt (draftSchema true) paddedPayload
      = some draft)
    ∧ validateDraft laxInt (draftSchema true)
      (normalizeResearchPlanDraftPayload true paddedPayload) = none
    ∧ normalizeResearchPlanDraftPayload true
        (normalizeResearchPlanDraftPayload true cutPayload)
      ≠ normalizeResearchPlanDraftPayload true cutPayload := by
  refine ⟨⟨_, rfl⟩, by decide, ?_⟩
  rw [ne_eq, normalize_normalize_iff]
  rintro ⟨hscope, -⟩
  have hscope' : (collapsed (String.ofList
      (List.replicate 99 'a' ++ [' ', 'b'])))[99]? ≠ some ' ' := hscope
  rw [collapsed_ofList] at hscope'
  exact hscope' (by decide)

end DeepResearch.Plan
