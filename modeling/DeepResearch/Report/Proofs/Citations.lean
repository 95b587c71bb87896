/-
Which numbers an assembled report carries, and where.

# The register

The citations are a register of evidence ids in the order of their first
reference, numbered from 1. A card's number never changes once it is
given, so every line may be compared with the finished register
(`lineOf`), and the report is a function of the paragraphs that are
rendered.

# What a text can smuggle in

Markers are removed in one pass. What is removed may have stood inside
another bracket, and then leaves a marker behind: `[[9]2]` becomes
`[2]`. The numbers in a line are the numbers of its paragraph's cards
together with those that its text leaves (`LeavesMarker`), so the law
holds exactly when the latter are among the former. Which paragraphs are
rendered and in what order their evidence is first referenced is told
from their ids and texts (`Renders`, `referenceOrder`).
-/
import Mathlib.Data.List.Induction
import DeepResearch.Lib.Outcome
import DeepResearch.Lib.Register
import DeepResearch.Report.Assemble
import DeepResearch.Report.Proofs.Markers

namespace DeepResearch.Report

open DeepResearch.Run (strip)

variable {selected : List ReportEvidenceCard}
  {citations before after : List PersistedCitation}
  {draft : Option ReportDraft}

-- ================================================= what is rendered, purely

/-- The evidence ids of a paragraph that are selected. -/
def knownIds (selected : List ReportEvidenceCard)
    (paragraph : DraftParagraph) : List String :=
  paragraph.evidenceIds.filter (· ∈ selected.map (·.evidenceId))

/-- A paragraph has a known id and a text. -/
def Renders (selected : List ReportEvidenceCard)
    (paragraph : DraftParagraph) : Bool :=
  knownIds selected paragraph ≠ [] ∧ ¬ Blank paragraph.text

/-- The paragraphs of which a line is made. -/
def renderable (selected : List ReportEvidenceCard)
    (paragraphs : List DraftParagraph) : List DraftParagraph :=
  paragraphs.filter fun paragraph => Renders selected paragraph

/-- The claim of a card as a paragraph. -/
def claimDraft (card : ReportEvidenceCard) : DraftParagraph :=
  { text := card.claim, evidenceIds := [card.evidenceId] }

/-- The drafted paragraphs that are rendered, or else the claims. -/
def chosen (selected : List ReportEvidenceCard)
    (drafted : List DraftParagraph) (cards : List ReportEvidenceCard) :
    List DraftParagraph :=
  if renderable selected drafted = [] then
    renderable selected (cards.map claimDraft)
  else renderable selected drafted

/-- The paragraphs of the summary. -/
def summaryParagraphs (selected : List ReportEvidenceCard)
    (draft : Option ReportDraft) : List DraftParagraph :=
  chosen selected (draft.elim [] (·.executiveSummary))
    ((topCards selected).take 3)

/-- The paragraphs drafted for a question. -/
def draftedParagraphs (draft : Option ReportDraft)
    (question : ReportQuestion) : List DraftParagraph :=
  (draftSection draft question.questionId).elim [] (·.paragraphs)

/-- The paragraphs of a question's section. -/
def sectionParagraphs (selected : List ReportEvidenceCard)
    (draft : Option ReportDraft) (question : ReportQuestion) :
    List DraftParagraph :=
  chosen selected (draftedParagraphs draft question)
    ((questionCards selected question.questionId).take 3)

/-- The evidence ids that paragraphs reference, in their order. -/
def cardIds (selected : List ReportEvidenceCard)
    (paragraphs : List DraftParagraph) : List String :=
  paragraphs.flatMap (knownIds selected)

/-- The evidence ids of a report in the order of their first
reference. -/
def referenceOrder (context : ReportContext)
    (selected : List ReportEvidenceCard) (draft : Option ReportDraft) :
    List String :=
  Register.addAll [] (cardIds selected
    (summaryParagraphs selected draft
      ++ context.questions.flatMap (sectionParagraphs selected draft)))

/-- The paragraphs behind the factual lines. -/
def factualParagraphs (context : ReportContext)
    (selected : List ReportEvidenceCard) (draft : Option ReportDraft) :
    List DraftParagraph :=
  summaryParagraphs selected draft
    ++ (context.questions.filter
        (·.questionId ∉ unfactualKeys)).flatMap
          (sectionParagraphs selected draft)

-- =========================================================== statements

/-- Citations are numbered 1 to n for distinct selected evidence; the
factual lines are those of the paragraphs; every number in such a line
is the citation of a card that its paragraph references; and a question
with a claim to show has a section. -/
structure CitationSound (context : ReportContext)
    (selected : List ReportEvidenceCard) (report : AssembledReport) :
    Prop where
  numbers : report.citations.map (·.citationNumber)
    = List.range' 1 report.citations.length
  distinct : (report.citations.map (·.evidenceId)).Nodup
  evidence : ∀ citation ∈ report.citations,
    ∃ card ∈ selected, card.evidenceId = citation.evidenceId
  lines : report.factualLines = report.paragraphs.map (·.line)
  markers : ∀ rendered ∈ report.paragraphs,
    ∀ number ∈ markerNumbers rendered.line,
      ∃ card ∈ paragraphCards selected rendered.paragraph,
        ∃ citation ∈ report.citations,
          citation.evidenceId = card.evidenceId
            ∧ citation.citationNumber = number
  sections : ∀ question ∈ context.questions,
    (∃ card ∈ (questionCards selected question.questionId).take 3,
        cleanParagraph card.claim ≠ []) →
      ∃ part ∈ report.sections, part.sectionKey = question.questionId

/-- A claim is a valid paragraph. -/
def ClaimFits (card : ReportEvidenceCard) : Prop :=
  1 ≤ card.claim.length ∧ card.claim.length ≤ 4000

/-- Where claims stand in for drafted paragraphs, they are valid. -/
def ClaimsFit (context : ReportContext)
    (selected : List ReportEvidenceCard) (draft : Option ReportDraft) :
    Prop :=
  (renderable selected (draft.elim [] (·.executiveSummary)) = [] →
      ∀ card ∈ (topCards selected).take 3, ClaimFits card)
    ∧ ∀ question ∈ context.questions,
      renderable selected (draftedParagraphs draft question) = [] →
        ∀ card ∈ (questionCards selected question.questionId).take 3,
          ClaimFits card

/-- Every marker that a factual paragraph's text leaves when markers are
removed has for its number the position at which one of the paragraph's own
ids is first referenced. -/
def OwnMarkers (context : ReportContext)
    (selected : List ReportEvidenceCard) (draft : Option ReportDraft) :
    Prop :=
  ∀ paragraph ∈ factualParagraphs context selected draft,
    ∀ number, LeavesMarker paragraph.text number →
      ∃ evidenceId ∈ knownIds selected paragraph,
        (referenceOrder context selected draft).idxOf evidenceId + 1 = number

-- ============================================================= the cards

/-- A card found by id is selected, under that id. -/
theorem cardById_some {evidenceId : String} {card : ReportEvidenceCard}
    (h : cardById selected evidenceId = some card) :
    card ∈ selected ∧ card.evidenceId = evidenceId := by
  have hid := List.find?_some h
  exact ⟨List.mem_reverse.mp (List.mem_of_find?_eq_some h),
    of_decide_eq_true hid⟩

theorem cardById_eq_none_iff {evidenceId : String} :
    cardById selected evidenceId = none
      ↔ evidenceId ∉ selected.map (·.evidenceId) := by
  unfold cardById
  rw [List.find?_eq_none, List.mem_map, not_exists]
  apply forall_congr'
  intro card
  rw [List.mem_reverse, decide_eq_true_eq, not_and]

/-- The cards of a paragraph are found by their ids, which are its known
ids, each once. -/
theorem paragraphCards_spec (selected : List ReportEvidenceCard)
    (paragraph : DraftParagraph) :
    (∀ card ∈ paragraphCards selected paragraph,
        cardById selected card.evidenceId = some card)
      ∧ (paragraphCards selected paragraph).map (·.evidenceId)
        = Register.addAll [] (knownIds selected paragraph) := by
  unfold paragraphCards knownIds
  induction paragraph.evidenceIds using List.reverseRecOn with
  | nil => exact ⟨fun card hcard => absurd hcard List.not_mem_nil, rfl⟩
  | append_singleton ids id ih =>
      rw [List.foldl_append, List.foldl_cons, List.foldl_nil,
        List.filter_append]
      generalize ids.foldl _ [] = cards at ih ⊢
      obtain ⟨hfound, hids⟩ := ih
      cases hcard : cardById selected id with
      | none =>
          have hid := cardById_eq_none_iff.mp hcard
          rw [List.filter_cons_of_neg (by simpa using hid), List.filter_nil,
            List.append_nil]
          exact ⟨hfound, hids⟩
      | some card =>
          have hid : id ∈ selected.map (·.evidenceId) := by
            by_contra hnone
            rw [cardById_eq_none_iff.mpr hnone] at hcard
            cases hcard
          have hcardId : card.evidenceId = id := (cardById_some hcard).2
          rw [List.filter_cons_of_pos (by simpa using hid), List.filter_nil,
            Register.addAll_append, ← hids]
          show (∀ c ∈ if card ∈ cards then cards else cards ++ [card], _)
            ∧ (if card ∈ cards then cards else cards ++ [card]).map
                (·.evidenceId)
              = Register.add (cards.map (·.evidenceId)) id
          by_cases hmem : card ∈ cards
          · rw [if_pos hmem, Register.add_of_mem]
            · exact ⟨hfound, rfl⟩
            · rw [← hcardId]
              exact List.mem_map_of_mem hmem
          · have hnew : id ∉ cards.map (·.evidenceId) := by
              intro hmap
              obtain ⟨other, hother, hotherId⟩ := List.mem_map.mp hmap
              have hsame := hfound other hother
              rw [hotherId, hcard] at hsame
              exact hmem (Option.some.inj hsame ▸ hother)
            rw [if_neg hmem, Register.add, if_neg hnew]
            refine ⟨List.forall_mem_append.mpr ⟨hfound, ?_⟩, ?_⟩
            · rw [List.forall_mem_singleton, hcardId]
              exact hcard
            · rw [List.map_append, List.map_singleton, hcardId]

/-- The cards of a paragraph are selected. -/
theorem mem_of_mem_paragraphCards {paragraph : DraftParagraph}
    {card : ReportEvidenceCard}
    (h : card ∈ paragraphCards selected paragraph) : card ∈ selected :=
  (cardById_some ((paragraphCards_spec selected paragraph).1 card h)).1

/-- The ids of a paragraph's cards are its known ids. -/
theorem exists_mem_paragraphCards_iff {paragraph : DraftParagraph}
    {p : String → Prop} :
    (∃ card ∈ paragraphCards selected paragraph, p card.evidenceId)
      ↔ ∃ evidenceId ∈ knownIds selected paragraph, p evidenceId := by
  have hids := (paragraphCards_spec selected paragraph).2
  constructor
  · rintro ⟨card, hcard, hp⟩
    have hmem := List.mem_map_of_mem (f := (·.evidenceId)) hcard
    rw [hids, Register.mem_addAll] at hmem
    exact ⟨_, hmem.resolve_left List.not_mem_nil, hp⟩
  · rintro ⟨evidenceId, hid, hp⟩
    have hmem : evidenceId ∈ Register.addAll [] (knownIds selected paragraph) :=
      Register.mem_addAll.mpr (.inr hid)
    rw [← hids] at hmem
    obtain ⟨card, hcard, rfl⟩ := List.mem_map.mp hmem
    exact ⟨card, hcard, hp⟩

theorem paragraphCards_eq_nil_iff {paragraph : DraftParagraph} :
    paragraphCards selected paragraph = []
      ↔ knownIds selected paragraph = [] := by
  rw [← @Register.addAll_eq_nil_iff _ _ (knownIds selected paragraph),
    ← (paragraphCards_spec selected paragraph).2, List.map_eq_nil_iff]

/-- A paragraph is rendered unless `render` leaves it out. -/
theorem renders_eq (selected : List ReportEvidenceCard)
    (paragraph : DraftParagraph) :
    Renders selected paragraph
      = !((paragraphCards selected paragraph).isEmpty
        || (cleanParagraph paragraph.text).isEmpty) := by
  unfold Renders
  rw [Bool.eq_iff_iff, decide_eq_true_eq, Bool.not_eq_true', Bool.or_eq_false_iff,
    List.isEmpty_eq_false_iff, List.isEmpty_eq_false_iff, ne_eq, ne_eq, ne_eq,
    paragraphCards_eq_nil_iff, cleanParagraph_eq_nil_iff]

/-- The paragraph of a selected card's claim has a known id. -/
theorem knownIds_claimDraft {card : ReportEvidenceCard}
    (h : card ∈ selected) : knownIds selected (claimDraft card) ≠ [] := by
  have hid : card.evidenceId ∈ selected.map (·.evidenceId) :=
    List.mem_map_of_mem h
  unfold knownIds claimDraft
  rw [List.filter_cons_of_pos (by simpa using hid)]
  exact List.cons_ne_nil _ _

-- ======================================================== the citations

/-- The evidence ids of citations. -/
def evidenceIds (citations : List PersistedCitation) : List String :=
  citations.map (·.evidenceId)

/-- Citations of distinct selected evidence, numbered from 1. -/
structure Numbered (selected : List ReportEvidenceCard)
    (citations : List PersistedCitation) : Prop where
  numbers : citations.map (·.citationNumber)
    = List.range' 1 citations.length
  nodup : (evidenceIds citations).Nodup
  selected : ∀ citation ∈ citations,
    ∃ card ∈ selected, card.evidenceId = citation.evidenceId

theorem numbered_nil : Numbered selected [] :=
  ⟨rfl, List.nodup_nil, by simp⟩

/-- In citations numbered on from a start, a number is a position. -/
theorem citationNumber_of_numbers {start : Nat}
    (h : citations.map (·.citationNumber)
      = List.range' start citations.length) (evidenceId : String) :
    citationNumber citations evidenceId
      = if evidenceId ∈ evidenceIds citations then
          some ((evidenceIds citations).idxOf evidenceId + start)
        else none := by
  unfold citationNumber evidenceIds
  induction citations generalizing start with
  | nil => simp
  | cons citation citations ih =>
      rw [List.map_cons, List.length_cons, List.range'_succ,
        List.cons.injEq] at h
      obtain ⟨hhead, htail⟩ := h
      by_cases heq : citation.evidenceId = evidenceId
      · rw [List.find?_cons_of_pos (by simpa using heq), Option.map_some,
          List.map_cons, if_pos (by simp [heq]), hhead,
          List.idxOf_cons_eq _ heq, Nat.zero_add]
      · rw [List.find?_cons_of_neg (by simpa using heq), ih htail,
          List.map_cons, List.idxOf_cons_ne _ heq]
        have hne : evidenceId ≠ citation.evidenceId := fun h => heq h.symm
        by_cases hmem : evidenceId ∈ citations.map (·.evidenceId)
        · rw [if_pos hmem, if_pos (List.mem_cons_of_mem _ hmem)]
          congr 1
          omega
        · rw [if_neg hmem, if_neg]
          rw [List.mem_cons, not_or]
          exact ⟨hne, hmem⟩

/-- The number of a card that is cited. -/
theorem mem_citations_iff (h : Numbered selected citations)
    {evidenceId : String} (hmem : evidenceId ∈ evidenceIds citations)
    {number : Nat} :
    (∃ citation ∈ citations, citation.evidenceId = evidenceId
        ∧ citation.citationNumber = number)
      ↔ (evidenceIds citations).idxOf evidenceId + 1 = number := by
  have hnumber := citationNumber_of_numbers h.numbers evidenceId
  rw [if_pos hmem] at hnumber
  unfold citationNumber at hnumber
  obtain ⟨found, hfound, hposition⟩ := Option.map_eq_some_iff.mp hnumber
  have hid := List.find?_some hfound
  have hfound' : found.evidenceId = evidenceId := of_decide_eq_true hid
  have hmem' := List.mem_of_find?_eq_some hfound
  constructor
  · intro hex
    obtain ⟨citation, hcitation, hid, hnum⟩ := hex
    have hsame : citation = found := by
      apply List.inj_on_of_nodup_map h.nodup hcitation hmem'
      rw [hid, hfound']
    rw [← hposition, ← hsame, hnum]
  · intro hnum
    exact ⟨found, hmem', hfound', hposition.trans hnum⟩

/-- Citing a card registers its evidence and appends its marker. -/
theorem citeCard_spec {cited : List PersistedCitation × Text}
    {card : ReportEvidenceCard} (h : Numbered selected cited.1)
    (hcard : card ∈ selected) :
    Numbered selected (citeCard cited card).1
      ∧ evidenceIds (citeCard cited card).1
        = Register.add (evidenceIds cited.1) card.evidenceId
      ∧ (citeCard cited card).2 = cited.2
        ++ marker ((Register.add (evidenceIds cited.1)
          card.evidenceId).idxOf card.evidenceId + 1) := by
  have hnumber := citationNumber_of_numbers h.numbers card.evidenceId
  unfold citeCard Register.add
  by_cases hmem : card.evidenceId ∈ evidenceIds cited.1
  · rw [if_pos hmem] at hnumber
    simp only [hnumber, if_pos hmem]
    exact ⟨h, trivial, trivial⟩
  · rw [if_neg hmem] at hnumber
    simp only [hnumber, if_neg hmem]
    have hids : evidenceIds
        (cited.1 ++ [persistedCitation card (cited.1.length + 1)])
        = evidenceIds cited.1 ++ [card.evidenceId] := by
      simp [evidenceIds, persistedCitation]
    refine ⟨⟨?_, ?_, ?_⟩, hids, ?_⟩
    · rw [List.map_append, h.numbers, List.length_append,
        List.length_singleton, List.range'_concat]
      simp [persistedCitation, Nat.add_comm]
    · rw [hids]
      apply h.nodup.append (List.nodup_singleton _)
      simpa using hmem
    · intro citation hcitation
      rcases List.mem_append.mp hcitation with hcitation | hcitation
      · exact h.selected citation hcitation
      · rw [List.mem_singleton.mp hcitation]
        exact ⟨card, hcard, rfl⟩
    · have hlength : (evidenceIds cited.1).length = cited.1.length :=
        List.length_map _
      rw [List.idxOf_append_of_notMem hmem, hlength, List.idxOf_cons_self,
        Nat.add_zero]

-- ============================================================= rendering

/-- The line of a paragraph under the finished register. -/
def lineOf (selected : List ReportEvidenceCard) (order : List String)
    (paragraph : DraftParagraph) : RenderedLine :=
  { paragraph
    line := cleanParagraph paragraph.text
      ++ ' ' :: ((paragraphCards selected paragraph).map fun card =>
        order.idxOf card.evidenceId + 1).flatMap marker }

/-- Citing the cards of a paragraph. -/
theorem citeCards_spec {cards : List ReportEvidenceCard}
    {cited : List PersistedCitation × Text}
    (h : Numbered selected cited.1) (hcards : ∀ card ∈ cards, card ∈ selected) :
    Numbered selected (cards.foldl citeCard cited).1
      ∧ evidenceIds (cards.foldl citeCard cited).1
        = Register.addAll (evidenceIds cited.1)
          (cards.map (·.evidenceId))
      ∧ ∀ order, evidenceIds (cards.foldl citeCard cited).1 <+: order →
        (cards.foldl citeCard cited).2 = cited.2
          ++ (cards.map fun card =>
            order.idxOf card.evidenceId + 1).flatMap marker := by
  induction cards generalizing cited with
  | nil =>
      refine ⟨h, rfl, fun order _ => ?_⟩
      simp
  | cons card cards ih =>
      obtain ⟨hnumbered, hids, hmarker⟩ := citeCard_spec h
        (hcards card (List.mem_cons_self ..))
      obtain ⟨hnumbered', hids', hmarkers⟩ := ih hnumbered fun c hc =>
        hcards c (List.mem_cons_of_mem _ hc)
      rw [hids] at hids'
      refine ⟨hnumbered', hids', fun order horder => ?_⟩
      have hgrows : Register.add (evidenceIds cited.1) card.evidenceId
          <+: order := by
        apply Register.grows_addAll.trans
        rw [← hids']
        exact horder
      rw [List.foldl_cons, hmarkers order horder, hmarker, List.map_cons,
        List.flatMap_cons, List.append_assoc,
        Register.idxOf_of_grows hgrows (Register.mem_add.mpr (.inr rfl))]

/-- Paragraphs were rendered to lines: their cards are registered, and
the lines are those of any register that goes on from there. -/
structure Rendered (selected : List ReportEvidenceCard)
    (before : List PersistedCitation) (paragraphs : List DraftParagraph)
    (lines : List RenderedLine) (after : List PersistedCitation) :
    Prop where
  numbered : Numbered selected after
  ids : evidenceIds after
    = Register.addAll (evidenceIds before) (cardIds selected paragraphs)
  lines : ∀ order, evidenceIds after <+: order →
    lines = paragraphs.map (lineOf selected order)

theorem Rendered.nil (h : Numbered selected citations) :
    Rendered selected citations [] [] citations :=
  ⟨h, rfl, fun _ _ => rfl⟩

/-- Rendering goes on from where it stopped. -/
theorem Rendered.append {between : List PersistedCitation}
    {paragraphs paragraphs' : List DraftParagraph}
    {lines lines' : List RenderedLine}
    (h : Rendered selected before paragraphs lines between)
    (h' : Rendered selected between paragraphs' lines' after) :
    Rendered selected before (paragraphs ++ paragraphs')
      (lines ++ lines') after := by
  constructor
  case numbered => exact h'.numbered
  case ids =>
    rw [h'.ids, h.ids]
    unfold cardIds
    rw [List.flatMap_append, Register.addAll_append]
  case lines =>
    intro order horder
    rw [List.map_append, h'.lines order horder]
    congr 1
    apply h.lines
    apply Register.grows_addAll.trans
    rw [← h'.ids]
    exact horder

/-- One paragraph. -/
theorem render_spec (h : Numbered selected citations)
    (paragraph : DraftParagraph) :
    Rendered selected citations (renderable selected [paragraph])
      (render selected citations paragraph).1.toList
      (render selected citations paragraph).2 := by
  unfold render renderable
  by_cases hrenders : Renders selected paragraph = true
  · rw [List.filter_cons_of_pos hrenders]
    have hskip : ((paragraphCards selected paragraph).isEmpty
        || (cleanParagraph paragraph.text).isEmpty) = false := by
      rw [renders_eq] at hrenders
      simpa using hrenders
    simp only [hskip]
    obtain ⟨hnumbered, hids, hmarkers⟩ :=
      @citeCards_spec selected (paragraphCards selected paragraph)
        (citations, []) h fun card hcard => mem_of_mem_paragraphCards hcard
    refine ⟨hnumbered, ?_, fun order horder => ?_⟩
    · rw [(paragraphCards_spec selected paragraph).2,
        Register.addAll_addAll_nil] at hids
      simpa [cardIds] using hids
    · have hline := hmarkers order horder
      rw [List.nil_append] at hline
      simp [lineOf, hline]
  · rw [List.filter_cons_of_neg hrenders]
    have hskip : ((paragraphCards selected paragraph).isEmpty
        || (cleanParagraph paragraph.text).isEmpty) = true := by
      rw [renders_eq] at hrenders
      simpa [or_iff_not_imp_left] using hrenders
    simp only [hskip]
    exact Rendered.nil h

/-- Several paragraphs. -/
theorem renderMany_spec (h : Numbered selected citations)
    (paragraphs : List DraftParagraph) :
    Rendered selected citations (renderable selected paragraphs)
      (renderMany selected citations paragraphs).1
      (renderMany selected citations paragraphs).2 := by
  induction paragraphs generalizing citations with
  | nil => exact Rendered.nil h
  | cons paragraph paragraphs ih =>
      have hone := render_spec h paragraph
      have hrest := ih hone.numbered
      have hsplit : renderable selected (paragraph :: paragraphs)
          = renderable selected [paragraph]
            ++ renderable selected paragraphs := by
        unfold renderable
        rw [← List.filter_append]
        rfl
      rw [hsplit]
      exact hone.append hrest

/-- Lines are made of exactly the paragraphs that are rendered. -/
theorem Rendered.isEmpty_iff {paragraphs : List DraftParagraph}
    {lines : List RenderedLine}
    (h : Rendered selected before paragraphs lines after) :
    lines.isEmpty = true ↔ paragraphs = [] := by
  rw [h.lines (evidenceIds after) (List.prefix_refl _), List.isEmpty_iff,
    List.map_eq_nil_iff]

/-- The claims of cards become paragraphs exactly when they are valid. -/
theorem mapM_claimParagraph_iff (cards : List ReportEvidenceCard) :
    (∃ paragraphs, cards.mapM claimParagraph = .ok paragraphs)
      ↔ ∀ card ∈ cards, ClaimFits card := by
  rw [Outcome.mapM_ok_iff]
  apply forall₂_congr
  intro card _
  unfold claimParagraph ClaimFits
  split
  case isTrue h => exact ⟨fun _ => h, fun _ => ⟨_, rfl⟩⟩
  case isFalse h =>
    exact ⟨fun hok => absurd hok.choose_spec (Outcome.error_ne_ok _ _),
      fun hfits => absurd hfits h⟩

/-- The paragraphs that valid claims become. -/
theorem mapM_claimParagraph_eq {cards : List ReportEvidenceCard}
    (h : ∀ card ∈ cards, ClaimFits card) :
    cards.mapM claimParagraph = .ok (cards.map claimDraft) := by
  apply Outcome.mapM_eq_ok
  intro card hcard
  exact if_pos (h card hcard)

/-- What was drafted is rendered, or else the claims; that raises exactly
when the claims are needed and one of them is not valid. -/
theorem renderOrClaims_spec (h : Numbered selected citations)
    (drafted : List DraftParagraph) (cards : List ReportEvidenceCard) :
    (renderable selected drafted = [] → ∀ card ∈ cards, ClaimFits card)
        ∧ (∃ lines after,
          renderOrClaims selected citations drafted cards
              = .ok (lines, after)
            ∧ Rendered selected citations (chosen selected drafted cards)
                lines after)
      ∨ ¬ (renderable selected drafted = []
            → ∀ card ∈ cards, ClaimFits card)
        ∧ ∀ result,
          renderOrClaims selected citations drafted cards
            ≠ .ok result := by
  have hdrafted := renderMany_spec h drafted
  have hempty := hdrafted.isEmpty_iff
  unfold renderOrClaims chosen
  by_cases hnone : renderable selected drafted = []
  · have hlines := hempty.mpr hnone
    rw [hnone] at hdrafted
    simp only [hnone, hlines, if_true, true_implies]
    by_cases hfits : ∀ card ∈ cards, ClaimFits card
    · left
      refine ⟨hfits, ?_⟩
      rw [mapM_claimParagraph_eq hfits]
      have hclaims := renderMany_spec hdrafted.numbered
        (cards.map claimDraft)
      refine ⟨_, _, rfl, hclaims.numbered, ?_, hclaims.lines⟩
      rw [hclaims.ids, hdrafted.ids]
      rfl
    · right
      refine ⟨hfits, ?_⟩
      intro result hok
      apply hfits
      rw [← mapM_claimParagraph_iff]
      cases hmap : cards.mapM claimParagraph with
      | error e =>
          rw [hmap] at hok
          cases hok
      | ok paragraphs => exact ⟨paragraphs, rfl⟩
  · left
    have hlines : ¬ (renderMany selected citations drafted).1.isEmpty
        = true := fun hemp => hnone (hempty.mp hemp)
    refine ⟨fun hnone' => absurd hnone' hnone, ?_⟩
    simp only [if_neg hnone, if_neg hlines]
    exact ⟨_, _, rfl, hdrafted⟩

-- ================================================================= lines

/-- What is chosen is rendered. -/
theorem renders_of_mem_chosen {drafted : List DraftParagraph}
    {cards : List ReportEvidenceCard} {paragraph : DraftParagraph}
    (h : paragraph ∈ chosen selected drafted cards) :
    Renders selected paragraph = true := by
  unfold chosen renderable at h
  split at h
  · exact (List.mem_filter.mp h).2
  · exact (List.mem_filter.mp h).2

/-- No marker has a line break. -/
theorem newline_notMem_marker (n : Nat) : '\n' ∉ marker n := by
  unfold marker
  rw [Nat.toList_repr]
  intro h
  rcases List.mem_cons.mp h with h | h
  · cases h
  · rcases List.mem_append.mp h with h | h
    · have hdigit := Nat.isDigit_of_mem_toDigits (by omega) (le_refl 10) h
      revert hdigit
      decide
    · rw [List.mem_singleton] at h
      cases h

/-- No line has a line break. -/
theorem newline_notMem_line (order : List String)
    (paragraph : DraftParagraph) :
    '\n' ∉ (lineOf selected order paragraph).line := by
  intro h
  unfold lineOf at h
  rcases List.mem_append.mp h with h | h
  · exact newline_notMem_cleanParagraph _ h
  · rcases List.mem_cons.mp h with h | h
    · cases h
    · obtain ⟨n, -, h⟩ := List.mem_flatMap.mp h
      exact newline_notMem_marker n h

/-- The line of a rendered paragraph is not blank: it has a marker. -/
theorem strip_line_ne_nil {paragraph : DraftParagraph}
    (h : Renders selected paragraph = true) (order : List String) :
    strip (lineOf selected order paragraph).line ≠ [] := by
  have hcards : paragraphCards selected paragraph ≠ [] := by
    intro hnil
    rw [renders_eq, hnil] at h
    cases h
  obtain ⟨card, hcard⟩ := List.exists_mem_of_ne_nil _ hcards
  have hbracket : '[' ∈ (lineOf selected order paragraph).line := by
    unfold lineOf
    apply List.mem_append_right
    apply List.mem_cons_of_mem
    apply List.mem_flatMap.mpr
    exact ⟨_, List.mem_map_of_mem hcard, List.mem_cons_self ..⟩
  intro hnil
  have hmem := mem_strip hbracket (by decide)
  rw [hnil] at hmem
  cases hmem

/-- The lines of a section are found again in its markdown. -/
theorem splitParagraphs_joinLines {paragraphs : List DraftParagraph}
    {order : List String} (hne : paragraphs ≠ [])
    (h : ∀ paragraph ∈ paragraphs, Renders selected paragraph = true) :
    (splitParagraphs [] (joinLines
        (paragraphs.map (lineOf selected order)))).filter (strip · ≠ [])
      = (paragraphs.map (lineOf selected order)).map (·.line) := by
  unfold joinLines
  rw [splitParagraphs_intercalate]
  · rw [List.filter_eq_self]
    intro line hline
    rw [List.map_map] at hline
    obtain ⟨paragraph, hparagraph, rfl⟩ := List.mem_map.mp hline
    simpa using strip_line_ne_nil (h paragraph hparagraph) order
  · simpa using hne
  · intro line hline
    rw [List.map_map] at hline
    obtain ⟨paragraph, -, rfl⟩ := List.mem_map.mp hline
    exact newline_notMem_line order paragraph

-- ============================================================= the parts

/-- A claim that stands in for the draft of a question is valid. -/
def QuestionFits (selected : List ReportEvidenceCard)
    (draft : Option ReportDraft) (question : ReportQuestion) : Prop :=
  renderable selected (draftedParagraphs draft question) = [] →
    ∀ card ∈ (questionCards selected question.questionId).take 3,
      ClaimFits card

/-- The questions that have a section. -/
def answered (selected : List ReportEvidenceCard)
    (draft : Option ReportDraft) (questions : List ReportQuestion) :
    List ReportQuestion :=
  questions.filter fun question =>
    sectionParagraphs selected draft question ≠ []

/-- Questions were assembled to parts. -/
structure Parts (selected : List ReportEvidenceCard)
    (draft : Option ReportDraft) (before : List PersistedCitation)
    (questions : List ReportQuestion) (parts : List QuestionPart)
    (after : List PersistedCitation) : Prop where
  rendered : Rendered selected before
    (questions.flatMap (sectionParagraphs selected draft))
    (parts.flatMap (·.lines)) after
  keyed : ∀ order, evidenceIds after <+: order →
    parts.map (fun part => (part.persisted.sectionKey, part.lines))
      = (answered selected draft questions).map fun question =>
        (question.questionId, (sectionParagraphs selected draft
          question).map (lineOf selected order))
  markdown : ∀ part ∈ parts,
    part.persisted.markdown = joinLines part.lines

/-- The planned questions are assembled, unless a claim that stands in
for a draft is not valid. -/
theorem assembleQuestions_spec (h : Numbered selected citations)
    (draft : Option ReportDraft) (questions : List ReportQuestion) :
    (∀ question ∈ questions, QuestionFits selected draft question)
        ∧ (∃ parts after,
          assembleQuestions selected draft citations questions
              = .ok (parts, after)
            ∧ Parts selected draft citations questions parts after)
      ∨ ¬ (∀ question ∈ questions, QuestionFits selected draft question)
        ∧ ∀ result,
          assembleQuestions selected draft citations questions
            ≠ .ok result := by
  induction questions generalizing citations with
  | nil =>
      left
      refine ⟨by simp, [], citations, rfl, Rendered.nil h, ?_, by simp⟩
      intro order _
      rfl
  | cons question questions ih =>
      rw [List.forall_mem_cons]
      have hone := renderOrClaims_spec h (draftedParagraphs draft question)
        ((questionCards selected question.questionId).take 3)
      unfold assembleQuestions
      rcases hone with ⟨hfits, lines, between, hok, hrendered⟩
        | ⟨hunfit, hraises⟩
      -- The paragraphs of this question raise.
      case inr =>
        right
        refine ⟨fun hall => hunfit hall.1, fun result hok => ?_⟩
        cases hfirst : renderOrClaims selected citations
            (draftedParagraphs draft question)
            ((questionCards selected question.questionId).take 3) with
        | error e =>
            unfold draftedParagraphs at hfirst
            simp only [hfirst] at hok
            cases hok
        | ok result' => exact hraises result' hfirst
      case inl =>
        unfold draftedParagraphs at hok
        simp only [hok]
        -- The later questions number on from where this one ends.
        rcases ih hrendered.numbered with ⟨hrest, parts, after, hparts, hspec⟩
          | ⟨hunfit, hraises⟩
        case inr =>
          right
          refine ⟨fun hall => hunfit hall.2, fun result hok' => ?_⟩
          cases hparts : assembleQuestions selected draft between
              questions with
          | error e =>
              simp only [hparts] at hok'
              cases hok'
          | ok result' => exact hraises result' hparts
        case inl =>
          left
          refine ⟨⟨hfits, hrest⟩, ?_⟩
          simp only [hparts]
          have hempty := hrendered.isEmpty_iff
          have hall := hrendered.append hspec.rendered
          -- A question without a paragraph has no section.
          by_cases hnone : sectionParagraphs selected draft question = []
          · have hlines := hempty.mpr hnone
            rw [List.isEmpty_iff.mp hlines, List.nil_append] at hall
            simp only [hlines, if_true]
            refine ⟨parts, after, rfl, hall, ?_, hspec.markdown⟩
            intro order horder
            rw [hspec.keyed order horder]
            unfold answered
            rw [List.filter_cons_of_neg (by simpa using hnone)]
          · have hlines : ¬ lines.isEmpty = true :=
              fun hemp => hnone (hempty.mp hemp)
            simp only [if_neg hlines]
            refine ⟨_, after, rfl, hall, ?_, ?_⟩
            · intro order horder
              have hgrows : evidenceIds between <+: order := by
                apply Register.grows_addAll.trans
                rw [← hspec.rendered.ids]
                exact horder
              unfold answered
              rw [List.filter_cons_of_pos (by simpa using hnone),
                List.map_cons, List.map_cons,
                hrendered.lines order hgrows]
              congr 1
              exact hspec.keyed order horder
            · intro part hpart
              rcases List.mem_cons.mp hpart with rfl | hpart
              · rfl
              · exact hspec.markdown part hpart

-- ============================================================ the report

/-- What an assembled report consists of. -/
structure Assembled (context : ReportContext)
    (selected : List ReportEvidenceCard) (draft : Option ReportDraft)
    (report : AssembledReport) : Prop where
  numbered : Numbered selected report.citations
  ids : evidenceIds report.citations = referenceOrder context selected draft
  paragraphs : report.paragraphs
    = (factualParagraphs context selected draft).map
        (lineOf selected (referenceOrder context selected draft))
  lines : report.factualLines = report.paragraphs.map (·.line)
  sections : ∀ question ∈ answered selected draft context.questions,
    ∃ part ∈ report.sections, part.sectionKey = question.questionId

/-- A question without a section has no paragraphs to miss. -/
theorem flatMap_answered (order : List String)
    (questions : List ReportQuestion) :
    ((answered selected draft questions).filter
        (·.questionId ∉ unfactualKeys)).flatMap (fun question =>
          (sectionParagraphs selected draft question).map
            (lineOf selected order))
      = ((questions.filter (·.questionId ∉ unfactualKeys)).flatMap
          (sectionParagraphs selected draft)).map
            (lineOf selected order) := by
  unfold answered
  induction questions with
  | nil => rfl
  | cons question questions ih =>
      by_cases hnone : sectionParagraphs selected draft question = []
      · by_cases hkey : question.questionId ∈ unfactualKeys
        · simpa [hnone, hkey] using ih
        · simpa [hnone, hkey] using ih
      · by_cases hkey : question.questionId ∈ unfactualKeys
        · simpa [hnone, hkey] using ih
        · simpa [hnone, hkey] using ih

/-- The parts that are factual, in terms of their questions. -/
theorem factual_parts {questions : List ReportQuestion}
    {parts : List QuestionPart} {order : List String}
    (hkeyed : parts.map (fun part => (part.persisted.sectionKey, part.lines))
      = (answered selected draft questions).map fun question =>
        (question.questionId, (sectionParagraphs selected draft
          question).map (lineOf selected order))) :
    (parts.filter (·.persisted.sectionKey ∉ unfactualKeys)).flatMap
        (·.lines)
      = ((questions.filter (·.questionId ∉ unfactualKeys)).flatMap
          (sectionParagraphs selected draft)).map
            (lineOf selected order) := by
  have hpairs : ∀ {α : Type} (l : List α) (f : α → String × List RenderedLine),
      (l.filter fun a => (f a).1 ∉ unfactualKeys).flatMap
          (fun a => (f a).2)
        = ((l.map f).filter fun pair => pair.1 ∉ unfactualKeys).flatMap
          (·.2) := by
    intro α l f
    rw [List.filter_map, List.flatMap_map]
    rfl
  have hparts := hpairs parts
    fun part => (part.persisted.sectionKey, part.lines)
  rw [hkeyed, ← hpairs] at hparts
  exact hparts.trans (flatMap_answered order questions)

/-- The lines found again in the factual sections are their lines. -/
theorem split_factual_parts {questions : List ReportQuestion}
    {parts : List QuestionPart} {order : List String}
    (hkeyed : parts.map (fun part => (part.persisted.sectionKey, part.lines))
      = (answered selected draft questions).map fun question =>
        (question.questionId, (sectionParagraphs selected draft
          question).map (lineOf selected order)))
    (hmarkdown : ∀ part ∈ parts,
      part.persisted.markdown = joinLines part.lines) :
    ((parts.map (·.persisted)).filter
        (·.sectionKey ∉ unfactualKeys)).flatMap (fun persisted =>
          (splitParagraphs [] persisted.markdown).filter (strip · ≠ []))
      = ((parts.filter (·.persisted.sectionKey ∉ unfactualKeys)).flatMap
          (·.lines)).map (·.line) := by
  rw [List.filter_map, List.flatMap_map, List.map_flatMap]
  apply List.flatMap_congr
  intro part hpart
  have hmem := (List.mem_filter.mp hpart).1
  have hpair := List.mem_map_of_mem
    (f := fun part : QuestionPart => (part.persisted.sectionKey, part.lines))
    hmem
  rw [hkeyed] at hpair
  obtain ⟨question, hquestion, heq⟩ := List.mem_map.mp hpair
  have hlines : (sectionParagraphs selected draft question).map
      (lineOf selected order) = part.lines := congrArg Prod.snd heq
  rw [hmarkdown part hmem, ← hlines]
  apply splitParagraphs_joinLines
  · simpa using (List.mem_filter.mp hquestion).2
  · intro paragraph hparagraph
    exact renders_of_mem_chosen hparagraph

/-- A report is assembled, unless a claim that stands in for a draft is
not valid. -/
theorem assembleReport_spec (context : ReportContext)
    (selected : List ReportEvidenceCard) (draft : Option ReportDraft) :
    ClaimsFit context selected draft
        ∧ (∃ report, assembleReport context selected draft = .ok report
            ∧ Assembled context selected draft report)
      ∨ ¬ ClaimsFit context selected draft
        ∧ ∀ report,
          assembleReport context selected draft ≠ .ok report := by
  have hsummary := renderOrClaims_spec (@numbered_nil selected)
    (draft.elim [] (·.executiveSummary)) ((topCards selected).take 3)
  unfold assembleReport
  rcases hsummary with ⟨hfits, lines, between, hok, hrendered⟩
    | ⟨hunfit, hraises⟩
  case inr =>
    right
    refine ⟨fun hall => hunfit hall.1, fun report hok => ?_⟩
    cases hfirst : renderOrClaims selected []
        (draft.elim [] (·.executiveSummary))
        ((topCards selected).take 3) with
    | error e =>
        simp only [hfirst] at hok
        cases hok
    | ok result => exact hraises result hfirst
  case inl =>
    simp only [hok]
    -- The questions number on from where the summary ends.
    rcases assembleQuestions_spec hrendered.numbered draft
        context.questions with ⟨hrest, parts, after, hparts, hspec⟩
      | ⟨hunfit, hraises⟩
    case inr =>
      right
      refine ⟨fun hall => hunfit hall.2, fun report hok' => ?_⟩
      cases hparts : assembleQuestions selected draft between
          context.questions with
      | error e =>
          simp only [hparts] at hok'
          cases hok'
      | ok result => exact hraises result hparts
    case inl =>
      left
      refine ⟨⟨hfits, hrest⟩, ?_⟩
      simp only [hparts]
      have hall := hrendered.append hspec.rendered
      have hids : evidenceIds after = referenceOrder context selected draft :=
        hall.ids
      have horder : evidenceIds after
          <+: referenceOrder context selected draft :=
        ⟨[], (List.append_nil _).trans hids⟩
      have hbetween : evidenceIds between
          <+: referenceOrder context selected draft := by
        apply Register.grows_addAll.trans
        rw [← hspec.rendered.ids]
        exact horder
      have hkeyed := hspec.keyed _ horder
      refine ⟨_, rfl, hall.numbered, hids, ?_, ?_, ?_⟩
      · show lines ++ _ = _
        unfold factualParagraphs
        rw [List.map_append, hrendered.lines _ hbetween,
          factual_parts hkeyed]
        rfl
      · show factualLines lines _ = (lines ++ _).map (·.line)
        unfold factualLines
        rw [List.map_append, ← split_factual_parts hkeyed hspec.markdown]
        congr 2
        -- The title and the notes are no factual sections.
        rw [List.cons_append, List.filter_cons_of_neg
            (by simp [unfactualKeys]), List.filter_append]
        split
        · rw [List.filter_nil, List.append_nil]
        · rw [List.filter_cons_of_neg (by simp [unfactualKeys]),
            List.filter_nil, List.append_nil]
      · intro question hquestion
        have hpair := List.mem_map_of_mem
          (f := fun question : ReportQuestion => (question.questionId,
            (sectionParagraphs selected draft question).map (lineOf selected
              (referenceOrder context selected draft)))) hquestion
        rw [← hkeyed] at hpair
        obtain ⟨part, hpart, heq⟩ := List.mem_map.mp hpair
        refine ⟨part.persisted, ?_, congrArg Prod.fst heq⟩
        apply List.mem_append_left
        apply List.mem_cons_of_mem
        exact List.mem_map_of_mem hpart

/-- A question with a claim to show is answered. -/
theorem mem_answered {context : ReportContext} {question : ReportQuestion}
    (hquestion : question ∈ context.questions)
    (h : ∃ card ∈ (questionCards selected question.questionId).take 3,
      cleanParagraph card.claim ≠ []) :
    question ∈ answered selected draft context.questions := by
  obtain ⟨card, hcard, hclaim⟩ := h
  unfold answered
  rw [List.mem_filter]
  refine ⟨hquestion, decide_eq_true ?_⟩
  unfold sectionParagraphs chosen
  split
  case isFalse hne => exact hne
  case isTrue =>
    apply List.ne_nil_of_mem
    apply List.mem_filter.mpr
    refine ⟨List.mem_map_of_mem hcard, ?_⟩
    have hselected : card ∈ selected :=
      (List.mem_filter.mp (List.mem_of_mem_take hcard)).1
    rw [Renders, decide_eq_true_eq]
    exact ⟨knownIds_claimDraft hselected,
      fun hblank => hclaim ((cleanParagraph_eq_nil_iff _).mpr hblank)⟩

/-- The evidence of a factual paragraph is registered. -/
theorem mem_referenceOrder {context : ReportContext}
    {paragraph : DraftParagraph} {evidenceId : String}
    (hparagraph : paragraph ∈ factualParagraphs context selected draft)
    (hid : evidenceId ∈ knownIds selected paragraph) :
    evidenceId ∈ referenceOrder context selected draft := by
  apply Register.mem_addAll.mpr
  right
  apply List.mem_flatMap.mpr
  refine ⟨paragraph, ?_, hid⟩
  rcases List.mem_append.mp hparagraph with h | h
  · exact List.mem_append_left _ h
  · obtain ⟨question, hquestion, h⟩ := List.mem_flatMap.mp h
    apply List.mem_append_right
    apply List.mem_flatMap.mpr
    exact ⟨question, (List.mem_filter.mp hquestion).1, h⟩

/-- The citations of an assembled report are sound exactly when its
texts leave no markers but their own. -/
theorem Assembled.sound_iff {context : ReportContext}
    {report : AssembledReport}
    (h : Assembled context selected draft report) :
    CitationSound context selected report
      ↔ OwnMarkers context selected draft := by
  -- A number is cited by a paragraph exactly if it is the position of one
  -- of its ids.
  have hcited : ∀ paragraph ∈ factualParagraphs context selected draft,
      ∀ number,
      (∃ card ∈ paragraphCards selected paragraph,
          ∃ citation ∈ report.citations,
            citation.evidenceId = card.evidenceId
              ∧ citation.citationNumber = number)
        ↔ ∃ evidenceId ∈ knownIds selected paragraph,
          (referenceOrder context selected draft).idxOf evidenceId + 1
            = number := by
    intro paragraph hparagraph number
    rw [@exists_mem_paragraphCards_iff selected paragraph fun evidenceId =>
      ∃ citation ∈ report.citations, citation.evidenceId = evidenceId
        ∧ citation.citationNumber = number]
    apply exists_congr
    intro evidenceId
    apply and_congr_right
    intro hid
    have hmem := mem_referenceOrder hparagraph hid
    rw [← h.ids] at hmem ⊢
    exact mem_citations_iff h.numbered hmem
  -- The numbers of a line: those its text left, and the ones appended.
  have hnumbers : ∀ (paragraph : DraftParagraph) (number : Nat),
      number ∈ markerNumbers (lineOf selected
          (referenceOrder context selected draft) paragraph).line
        ↔ LeavesMarker paragraph.text number
          ∨ ∃ evidenceId ∈ knownIds selected paragraph,
            (referenceOrder context selected draft).idxOf evidenceId + 1
              = number := by
    intro paragraph number
    show number ∈ markerNumbers (_ ++ ' ' :: List.flatMap marker _) ↔ _
    rw [markerNumbers_line, List.mem_append, List.mem_map,
      mem_markerNumbers_cleanParagraph_iff,
      @exists_mem_paragraphCards_iff selected paragraph fun evidenceId =>
        (referenceOrder context selected draft).idxOf evidenceId + 1 = number]
  constructor
  · intro hsound paragraph hparagraph number hleft
    have hrendered : lineOf selected (referenceOrder context selected draft)
        paragraph ∈ report.paragraphs := by
      rw [h.paragraphs]
      exact List.mem_map_of_mem hparagraph
    exact (hcited paragraph hparagraph number).mp
      (hsound.markers _ hrendered number
        ((hnumbers paragraph number).mpr (.inl hleft)))
  · intro hown
    constructor
    case numbers => exact h.numbered.numbers
    case distinct => exact h.numbered.nodup
    case evidence => exact h.numbered.selected
    case lines => exact h.lines
    case markers =>
      intro rendered hrendered number hnumber
      rw [h.paragraphs] at hrendered
      obtain ⟨paragraph, hparagraph, rfl⟩ := List.mem_map.mp hrendered
      apply (hcited paragraph hparagraph number).mpr
      rcases (hnumbers paragraph number).mp hnumber with hleft | hposition
      · exact hown paragraph hparagraph number hleft
      · exact hposition
    case sections =>
      intro question hquestion hclaim
      exact h.sections question (mem_answered hquestion hclaim)

/-- A report is assembled with sound citations exactly when the claims
that stand in for a draft are valid paragraphs and no factual text leaves
a marker that is not its own. -/
theorem assembleReport_sound_iff (context : ReportContext)
    (selected : List ReportEvidenceCard) (draft : Option ReportDraft) :
    (∃ report, assembleReport context selected draft = .ok report
        ∧ CitationSound context selected report)
      ↔ ClaimsFit context selected draft
        ∧ OwnMarkers context selected draft := by
  rcases assembleReport_spec context selected draft with
    ⟨hfits, report, hok, hassembled⟩ | ⟨hunfit, hraises⟩
  case inl =>
    constructor
    · intro hex
      obtain ⟨report', hok', hsound⟩ := hex
      have hsame : report = report' :=
        Except.ok.inj (hok.symm.trans hok')
      subst hsame
      exact ⟨hfits, hassembled.sound_iff.mp hsound⟩
    · intro hboth
      exact ⟨report, hok, hassembled.sound_iff.mpr hboth.2⟩
  case inr =>
    constructor
    · intro hex
      obtain ⟨report, hok, -⟩ := hex
      exact absurd hok (hraises report)
    · intro hboth
      exact absurd hboth.1 hunfit

/-- A report on one question. -/
def priceContext : ReportContext :=
  { goal := "Prices".toList
    questions := [{ questionId := "q1", question := "Price?".toList }] }

/-- Its only card. -/
def priceCard : ReportEvidenceCard :=
  { evidenceId := "e1", questionId := "q1"
    claim := "The price was 5 EUR.".toList }

/-- A draft whose summary has a marker inside a bracket. -/
def nestedDraft : ReportDraft :=
  { title := "Prices".toList
    executiveSummary :=
      [{ text := "The price rose [[9]2].".toList, evidenceIds := ["e1"] }]
    sections :=
      [{ questionId := "q1", title := "Price".toList
         paragraphs :=
          [{ text := "The price was 5 EUR.".toList
             evidenceIds := ["e1"] }] }] }

/-- The summary's line carries the number 2, and there is one
citation. -/
theorem nested_marker_survives :
    ¬ ∀ (context : ReportContext) (selected : List ReportEvidenceCard)
      (draft : Option ReportDraft),
      (selected.map (·.evidenceId)).Nodup →
      ∃ report, assembleReport context selected draft = .ok report
        ∧ CitationSound context selected report := by
  intro h
  obtain ⟨report, hok, hsound⟩ := h priceContext [priceCard]
    (some nestedDraft) (List.nodup_singleton _)
  rcases assembleReport_spec priceContext [priceCard] (some nestedDraft)
    with ⟨-, report', hok', hassembled⟩ | ⟨-, hraises⟩
  case inr => exact hraises report hok
  case inl =>
    have hsame : report' = report := Except.ok.inj (hok'.symm.trans hok)
    subst hsame
    have hown := hassembled.sound_iff.mp hsound
    have hleft : LeavesMarker "The price rose [[9]2].".toList 2 :=
      ⟨"The price rose ".toList, ['.'], [.marker ['9'], .char '2'],
        by decide +kernel,
        List.forall_mem_cons.mpr
          ⟨⟨List.cons_ne_nil _ _, List.forall_mem_singleton.mpr rfl⟩,
            List.forall_mem_singleton.mpr rfl⟩,
        ⟨['9'], List.mem_cons_self⟩, List.cons_ne_nil _ _, rfl⟩
    have hnumber := hown
      { text := "The price rose [[9]2].".toList, evidenceIds := ["e1"] }
      (by decide +kernel) 2 hleft
    revert hnumber
    decide +kernel

end DeepResearch.Report
