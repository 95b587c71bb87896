/-
Enriching a query is stable: doing it again changes nothing.

A hint that has been appended, or was there already, occurs in every text
that continues the one it was looked up in (`appendHints_occurs`). The
final text is collapsed, but for a space in front of it when the query
was blank (`Tidy`). No hint begins with white space, so a hint never needs
that space, and the second pass, which drops it, finds all of them.
-/
import DeepResearch.Search.ContextEnricher

namespace DeepResearch.Search

open CaseFolding (casefold casefold_append casefold_cons foldChar)
open DeepResearch.Run (isSpace isSpace_caseless isSpace_space)

variable {text query hint : QueryText}
  {hints : List QueryText}

-- ============================================================ folded texts

@[simp] theorem collapseSpace_nil : collapseSpace [] = [] := rfl

theorem collapseSpace_idem (text : QueryText) :
    collapseSpace (collapseSpace text) = collapseSpace text :=
  Words.collapse_collapse isSpace_space

theorem foldChar_space : foldChar ' ' = [' '] := by decide

theorem foldChar_solid (c : Char) (hc : isSpace c = false) :
    ∃ d ds, foldChar c = d :: ds ∧ isSpace d = false := by
  cases hfold : foldChar c with
  | nil => exact absurd hfold (CaseFolding.foldChar_ne_nil c)
  | cons d ds =>
      refine ⟨d, ds, rfl, ?_⟩
      by_contra hspace
      rw [Bool.not_eq_false] at hspace
      have hmem : d ∈ foldChar c := by
        rw [hfold]
        exact List.mem_cons_self
      have heq := CaseFolding.eq_of_mem_foldChar
        (isSpace_caseless hspace) hmem
      rw [heq, hc] at hspace
      cases hspace

theorem casefold_space_cons (text : QueryText) :
    casefold (' ' :: text) = ' ' :: casefold text := by
  rw [casefold_cons, foldChar_space]
  rfl

/-- A hint that occurs behind a leading space occurs without it. -/
theorem infix_of_infix_space
    (h : casefold (collapseSpace hint)
      <:+: casefold (' ' :: text)) :
    casefold (collapseSpace hint) <:+: casefold text := by
  rw [casefold_space_cons, List.infix_cons_iff] at h
  rcases h with hstarts | hoccurs
  · cases hhint : collapseSpace hint with
    | nil => exact List.nil_infix
    | cons c rest =>
        have hc : isSpace c = false :=
          Words.not_sep_of_collapse_eq_cons hhint
        obtain ⟨d, ds, hfold, hd⟩ := foldChar_solid c hc
        rw [hhint] at hstarts
        rw [casefold_cons, hfold, List.cons_append,
          List.cons_prefix_cons] at hstarts
        rw [hstarts.1, isSpace_space] at hd
        cases hd
  · exact hoccurs

-- ================================================================ the loop

/-- A text that is collapsed, but for a space in front of it. -/
inductive Tidy : QueryText → Prop
  | collapsed {text : QueryText} (h : collapseSpace text = text) :
      Tidy text
  | behindSpace {text : QueryText} (h : collapseSpace text = text)
      (hne : text ≠ []) : Tidy (' ' :: text)

/-- The text after a hint was appended. -/
theorem Tidy.append {token : QueryText} (h : Tidy text)
    (htoken : collapseSpace token = token) (hne : token ≠ []) :
    Tidy (text ++ ' ' :: token) := by
  cases h with
  | collapsed htext =>
      by_cases hnil : text = []
      · subst hnil
        exact .behindSpace htoken hne
      · exact .collapsed
          (Words.collapse_append isSpace_space htext hnil htoken hne)
  | behindSpace htext hnil =>
      exact .behindSpace
        (Words.collapse_append isSpace_space htext hnil htoken hne)
        (List.append_ne_nil_of_left_ne_nil hnil _)

/-- A hint that occurs in a tidy text occurs in the collapsed one. -/
theorem Tidy.occurs (h : Tidy text)
    (hoccurs : casefold (collapseSpace hint)
      <:+: casefold text) :
    casefold (collapseSpace hint)
      <:+: casefold (collapseSpace text) := by
  cases h with
  | collapsed htext => rwa [htext]
  | behindSpace htext hne =>
      have hcollapse : ∀ text, collapseSpace (' ' :: text)
          = collapseSpace text :=
        fun _ => Words.collapse_cons isSpace_space
      rw [hcollapse, htext]
      exact infix_of_infix_space hoccurs

/-- A hint is in the text, up to white space and case. -/
def Mentions (text hint : QueryText) : Prop :=
  casefold (collapseSpace hint)
    <:+: casefold (collapseSpace text)

/-- What the loop makes of a text: it continues it, adding the words of
the appended hints, and has every hint in the end. -/
structure Appended (text : QueryText)
    (hints : List QueryText) (final : QueryText)
    (applied : List QueryText) : Prop where
  continues : text <+: final
  words : splitSpace text <+: splitSpace final
  occurs : ∀ hint ∈ hints, casefold (collapseSpace hint)
    <:+: casefold final
  tidy : Tidy text → Tidy final
  none : applied = [] → final = text

theorem appendHints_appended (text : QueryText) (hints : List QueryText) :
    Appended text hints (appendHints text hints).1
      (appendHints text hints).2 := by
  induction text, hints using appendHints.induct with
  | case1 text =>
      exact ⟨List.prefix_rfl, List.prefix_rfl, fun hint hmem => (by cases hmem),
        id, fun _ => rfl⟩
  | case2 text hint hints token hskip ih =>
      rw [appendHints, if_pos hskip]
      refine ⟨ih.continues, ih.words, ?_, ih.tidy, ih.none⟩
      rintro other (_ | ⟨_, hother⟩)
      · rcases hskip with hblank | hoccurs
        · rw [show collapseSpace hint = [] from hblank]
          exact List.nil_infix
        · obtain ⟨rest, hrest⟩ := ih.continues
          rw [← hrest, casefold_append]
          exact (of_decide_eq_true hoccurs).trans (List.infix_append' [] _ _)
      · exact ih.occurs other hother
  | case3 text hint hints token hskip final applied heq ih =>
      rw [heq] at ih
      rw [appendHints, if_neg hskip, heq]
      obtain ⟨hne, -⟩ := not_or.mp hskip
      refine ⟨(List.prefix_append _ _).trans ih.continues, ?_, ?_, ?_,
        fun happlied => by cases happlied⟩
      · refine List.IsPrefix.trans ?_ ih.words
        unfold splitSpace
        rw [Words.words_append_cons isSpace_space]
        exact List.prefix_append _ _
      · rintro other (_ | ⟨_, hother⟩)
        · obtain ⟨rest, hrest⟩ := ih.continues
          rw [← hrest, casefold_append, casefold_append,
            casefold_space_cons]
          exact ⟨casefold text ++ [' '], casefold rest,
            by simp [token]⟩
        · exact ih.occurs other hother
      · exact fun htidy => ih.tidy
          (htidy.append (collapseSpace_idem hint) hne)

/-- With every hint in the text, nothing is appended. -/
theorem appendHints_of_occurs
    (h : ∀ hint ∈ hints, casefold (collapseSpace hint)
      <:+: casefold text) :
    appendHints text hints = (text, []) := by
  induction hints with
  | nil => rfl
  | cons hint hints ih =>
      have hoccurs : textIn (casefold (collapseSpace hint))
          (casefold text) = true :=
        decide_eq_true (h hint List.mem_cons_self)
      rw [appendHints, if_pos (.inr hoccurs)]
      exact ih fun other hother => h other (List.mem_cons_of_mem _ hother)

-- ============================================================== enrichment

/-- A context with hints is no empty one. -/
theorem meaningfulContext_of_hints {context : ResearchContext}
    (h : context.queryHints ≠ []) :
    meaningfulContext (some context) = some context := by
  have hset : (!context.queryHints.isEmpty) = true := by simpa using h
  unfold meaningfulContext
  refine Option.filter_some_pos ?_
  rw [ResearchContext.isEmpty, hset]
  simp

/-- Without hints a query stays as it is. -/
theorem enrich_of_no_hints {context : Option ResearchContext}
    (h : ∀ c ∈ context, c.queryHints = []) :
    enrich query context = .unchanged query := by
  unfold enrich
  cases hmeaningful : meaningfulContext context with
  | none => rfl
  | some meaningful =>
      have hmem : meaningful ∈ context :=
        (Option.filter_eq_some_iff.mp hmeaningful).1
      exact if_pos (h meaningful hmem)

/-- With hints it is the loop that decides. -/
theorem enrich_of_hints {context : ResearchContext}
    (h : context.queryHints ≠ []) :
    enrich query (some context)
      = if (appendHints (collapseSpace query)
            context.queryHints).2 = [] then .unchanged query
        else
          { originalQuery := query
            enrichedQuery := (appendHints (collapseSpace query)
              context.queryHints).1
            appliedHints := (appendHints (collapseSpace query)
              context.queryHints).2
            changed := (appendHints (collapseSpace query)
              context.queryHints).1 ≠ query } := by
  have hadditions : queryHintAdditions query context.queryHints
      = appendHints (collapseSpace query) context.queryHints := by
    unfold queryHintAdditions
    split
    case h_1 heq => exact absurd heq h
    case h_2 => rfl
  unfold enrich
  rw [meaningfulContext_of_hints h]
  simp only
  rw [if_neg h, hadditions]

/-- What enriching a query with hints gives: a text that the loop leaves
alone, with the words of the query in front, and every hint in it. -/
structure Enriched (query : QueryText)
    (hints : List QueryText) (enriched : QueryText) : Prop where
  words : splitSpace query <+: splitSpace enriched
  mentions : ∀ hint ∈ hints, Mentions enriched hint

theorem enrich_enriched {context : ResearchContext}
    (h : context.queryHints ≠ []) :
    Enriched query context.queryHints
      (enrich query (some context)).enrichedQuery := by
  have hloop : Appended (collapseSpace query) context.queryHints
      _ _ :=
    appendHints_appended (collapseSpace query) context.queryHints
  have hwords : splitSpace (collapseSpace query) = splitSpace query :=
    Words.words_collapse isSpace_space
  have htidy : Tidy (collapseSpace query) :=
    .collapsed (collapseSpace_idem query)
  rw [enrich_of_hints h]
  split
  case isTrue hnone =>
    refine ⟨List.prefix_rfl, fun hint hmem => ?_⟩
    have hoccurs := hloop.occurs hint hmem
    rwa [hloop.none hnone] at hoccurs
  case isFalse =>
    refine ⟨hwords ▸ hloop.words, fun hint hmem => ?_⟩
    exact (hloop.tidy htidy).occurs (hloop.occurs hint hmem)

/-- A text that mentions every hint is left alone. -/
theorem enrich_of_mentions {context : ResearchContext}
    (h : ∀ hint ∈ context.queryHints, Mentions query hint) :
    enrich query (some context) = .unchanged query := by
  by_cases hne : context.queryHints = []
  · exact enrich_of_no_hints fun c hc => by cases hc; exact hne
  · rw [enrich_of_hints hne, appendHints_of_occurs h]
    exact if_pos rfl

-- ============================================================ the theorem

/-- Enriching twice is enriching once, the words of the query come first,
and every hint occurs up to white space and case. -/
theorem enrich_stable (query : QueryText)
    (context : Option ResearchContext) :
    let enriched := (enrich query context).enrichedQuery
    (enrich enriched context).enrichedQuery = enriched
      ∧ (enrich enriched context).changed = false
      ∧ splitSpace query <+: splitSpace enriched
      ∧ ∀ c ∈ context, ∀ hint ∈ c.queryHints, collapseSpace hint ≠ [] →
        casefold (collapseSpace hint)
          <:+: casefold (collapseSpace enriched) := by
  intro enriched
  have hunchanged : enrich enriched context
        = .unchanged enriched
      ∧ splitSpace query <+: splitSpace enriched
      ∧ ∀ c ∈ context, ∀ hint ∈ c.queryHints,
        Mentions enriched hint := by
    cases context with
    | none => exact ⟨rfl, List.prefix_rfl, fun c hc => by cases hc⟩
    | some context =>
        by_cases hne : context.queryHints = []
        · have hnone : ∀ c ∈ some context, c.queryHints = [] :=
            fun c hc => by cases hc; exact hne
          have hsame : enriched = query := by
            show (enrich query (some context)).enrichedQuery = _
            rw [enrich_of_no_hints hnone]
            rfl
          rw [hsame]
          refine ⟨enrich_of_no_hints hnone, List.prefix_rfl,
            fun c hc hint hhint => ?_⟩
          rw [hnone c hc] at hhint
          cases hhint
        · have hresult : Enriched query context.queryHints
              enriched := enrich_enriched hne
          exact ⟨enrich_of_mentions hresult.mentions, hresult.words,
            fun c hc => by cases hc; exact hresult.mentions⟩
  obtain ⟨hsame, hwords, hmentions⟩ := hunchanged
  rw [hsame]
  exact ⟨rfl, rfl, hwords,
    fun c hc hint hhint _ => hmentions c hc hint hhint⟩

-- A blank query: the first hint comes behind a space, and the second
-- occurs in it.
example : (enrich [' '] (some
    { queryHints := ["a  b".toList, "b".toList] })).enrichedQuery
      = " a b".toList := by
  decide +kernel

end DeepResearch.Search
