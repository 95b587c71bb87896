/-
Assembling a report (`report_writer.py`, `assemble_report`).

Paragraphs are rendered one after the other; a paragraph without a known
card or without text is left out, and every card gets its number when it
is first rendered. Where nothing of what was drafted remains, the claims
of up to three cards stand in.

The verification figures are left out, as are the limitations that
`_limitations` finds in the state of the run: they come with the
context. `factualLines` is what the verification reads.
-/
import Mathlib.Algebra.Order.Ring.Rat
import Mathlib.Data.List.Sort
import DeepResearch.Report.Markers

namespace DeepResearch.Report

open DeepResearch.Run (strip)

-- ================================================================ inputs

/-- `ReportEvidenceCard`, less what only the Writer and the support
check read. Ids are the texts of their UUIDs. -/
structure ReportEvidenceCard where
  evidenceId : String
  claimId : String := ""
  snapshotId : String := ""
  chunkId : String := ""
  questionId : String
  claim : Text
  evidenceScore : ℚ := 0
  sourceTitle : Text := []
  sourceUrl : Text := []
  sourceDomain : Text := []
  sourceContentHash : Text := []
  fetchedAt : Nat := 0
  analysisArtifactId : Option String := none
  deriving DecidableEq

/-- `DraftParagraph`. -/
structure DraftParagraph where
  text : Text
  evidenceIds : List String
  deriving DecidableEq

/-- `DraftSection`. -/
structure DraftSection where
  questionId : String
  title : Text
  paragraphs : List DraftParagraph
  deriving DecidableEq

/-- `ReportDraft`. -/
structure ReportDraft where
  title : Text
  executiveSummary : List DraftParagraph
  sections : List DraftSection
  limitations : List Text := []
  deriving DecidableEq

/-- `ReportQuestion`. -/
structure ReportQuestion where
  questionId : String
  question : Text
  deriving DecidableEq

/-- `ReportContext`, with the limitations of the run. -/
structure ReportContext where
  goal : Text
  questions : List ReportQuestion
  limitations : List Text := []
  deriving DecidableEq

-- =============================================================== outputs

/-- `PersistedCitation`. -/
structure PersistedCitation where
  citationNumber : Nat
  evidenceId : String
  claimId : String
  snapshotId : String
  chunkId : String
  sourceContentHash : Text
  url : Text
  accessedAt : Nat
  analysisArtifactId : Option String
  deriving DecidableEq

/-- `PersistedSection`, less its verification figures. -/
structure PersistedSection where
  sectionKey : String
  title : Text
  markdown : Text
  deriving DecidableEq

/-- A line, with the paragraph it was rendered from. -/
structure RenderedLine where
  paragraph : DraftParagraph
  line : Text
  deriving DecidableEq

/-- `AssembledReport`, with its factual lines and the paragraphs they
were rendered from. -/
structure AssembledReport where
  title : Text
  finalMarkdown : Text
  limitations : List Text
  sections : List PersistedSection
  citations : List PersistedCitation
  factualLines : List Text
  paragraphs : List RenderedLine
  deriving DecidableEq

/-- A claim that `DraftParagraph` does not accept (`ValidationError`). -/
inductive ReportError
  | invalidParagraph
  deriving DecidableEq, Repr

-- ============================================================= rendering

/-- `card_by_id.get(evidence_id)`. -/
def cardById (selected : List ReportEvidenceCard) (evidenceId : String) :
    Option ReportEvidenceCard :=
  selected.reverse.find? (·.evidenceId = evidenceId)

/-- The known cards of a paragraph, each once. -/
def paragraphCards (selected : List ReportEvidenceCard)
    (paragraph : DraftParagraph) : List ReportEvidenceCard :=
  paragraph.evidenceIds.foldl
    (fun cards evidenceId =>
      match cardById selected evidenceId with
      | none => cards
      | some card => if card ∈ cards then cards else cards ++ [card]) []

/-- `citation_numbers.get(evidence_id)`: the numbers are those of the
citations so far. -/
def citationNumber (citations : List PersistedCitation)
    (evidenceId : String) : Option Nat :=
  (citations.find? (·.evidenceId = evidenceId)).map (·.citationNumber)

/-- The citation of a card. -/
def persistedCitation (card : ReportEvidenceCard) (number : Nat) :
    PersistedCitation :=
  { citationNumber := number
    evidenceId := card.evidenceId
    claimId := card.claimId
    snapshotId := card.snapshotId
    chunkId := card.chunkId
    sourceContentHash := card.sourceContentHash
    url := card.sourceUrl
    accessedAt := card.fetchedAt
    analysisArtifactId := card.analysisArtifactId }

/-- One turn of the loop over the cards of a paragraph. -/
def citeCard (cited : List PersistedCitation × Text)
    (card : ReportEvidenceCard) : List PersistedCitation × Text :=
  match citationNumber cited.1 card.evidenceId with
  | some number => (cited.1, cited.2 ++ marker number)
  | none =>
      let number := cited.1.length + 1
      (cited.1 ++ [persistedCitation card number],
        cited.2 ++ marker number)

/-- `render`. -/
def render (selected : List ReportEvidenceCard)
    (citations : List PersistedCitation) (paragraph : DraftParagraph) :
    Option RenderedLine × List PersistedCitation :=
  let cards := paragraphCards selected paragraph
  let text := cleanParagraph paragraph.text
  if cards.isEmpty || text.isEmpty then (none, citations)
  else
    let cited := cards.foldl citeCard (citations, [])
    (some ⟨paragraph, text ++ ' ' :: cited.2⟩, cited.1)

/-- `render_many`. -/
def renderMany (selected : List ReportEvidenceCard) :
    List PersistedCitation → List DraftParagraph →
      List RenderedLine × List PersistedCitation
  | citations, [] => ([], citations)
  | citations, item :: items =>
      let (line, citations) := render selected citations item
      let (lines, citations) := renderMany selected citations items
      (line.toList ++ lines, citations)

/-- `DraftParagraph(text=card.claim, evidence_ids=[…])`. -/
def claimParagraph (card : ReportEvidenceCard) :
    Except ReportError DraftParagraph :=
  if 1 ≤ card.claim.length ∧ card.claim.length ≤ 4000 then
    .ok { text := card.claim, evidenceIds := [card.evidenceId] }
  else .error .invalidParagraph

/-- The drafted paragraphs, or the claims of the cards where none of them
is rendered. -/
def renderOrClaims (selected : List ReportEvidenceCard)
    (citations : List PersistedCitation) (drafted : List DraftParagraph)
    (cards : List ReportEvidenceCard) :
    Except ReportError (List RenderedLine × List PersistedCitation) :=
  let rendered := renderMany selected citations drafted
  if rendered.1.isEmpty then
    (cards.mapM claimParagraph).map (renderMany selected rendered.2)
  else .ok rendered

-- ============================================================== the parts

/-- `top_cards`. -/
def topCards (selected : List ReportEvidenceCard) :
    List ReportEvidenceCard :=
  selected.insertionSort fun card other =>
    other.evidenceScore ≤ card.evidenceScore

/-- `draft_sections.get(question_id)`. -/
def draftSection (draft : Option ReportDraft) (questionId : String) :
    Option DraftSection :=
  (draft.elim [] (·.sections)).reverse.find? (·.questionId = questionId)

/-- The selected cards of a question. -/
def questionCards (selected : List ReportEvidenceCard)
    (questionId : String) : List ReportEvidenceCard :=
  selected.filter (·.questionId = questionId)

/-- Lines below each other, with a blank line between. -/
def joinLines (lines : List RenderedLine) : Text :=
  ['\n', '\n'].intercalate (lines.map (·.line))

/-- A question's part of the report. -/
structure QuestionPart where
  persisted : PersistedSection
  lines : List RenderedLine

/-- The loop over the planned questions. -/
def assembleQuestions (selected : List ReportEvidenceCard)
    (draft : Option ReportDraft) :
    List PersistedCitation → List ReportQuestion →
      Except ReportError (List QuestionPart × List PersistedCitation)
  | citations, [] => .ok ([], citations)
  | citations, question :: questions =>
      let drafted := draftSection draft question.questionId
      match renderOrClaims selected citations
          (drafted.elim [] (·.paragraphs))
          ((questionCards selected question.questionId).take 3) with
      | .error e => .error e
      | .ok (lines, citations) =>
          match assembleQuestions selected draft citations questions with
          | .error e => .error e
          | .ok (parts, citations) =>
              if lines.isEmpty then .ok (parts, citations)
              else .ok
                ({ persisted :=
                    { sectionKey := question.questionId
                      title :=
                        drafted.elim question.question (strip ·.title)
                      markdown := joinLines lines }
                   lines } :: parts, citations)

/-- `_limitations`: those of the run, then the draft's, each once. -/
def reportLimitations (context : ReportContext)
    (draft : Option ReportDraft) : List Text :=
  let drafted := ((draft.elim [] (·.limitations)).filter
    (strip · ≠ [])).map cleanParagraph
  ((context.limitations ++ drafted).filter (· ≠ [])).eraseDups

/-- The sections that are not factual. -/
def unfactualKeys : List String := ["executive_summary", "limitations"]

/-- `factual_lines`. -/
def factualLines (summary : List RenderedLine)
    (persisted : List PersistedSection) : List Text :=
  summary.map (·.line)
    ++ (persisted.filter (·.sectionKey ∉ unfactualKeys)).flatMap
      fun part =>
        (splitParagraphs [] part.markdown).filter (strip · ≠ [])

/-- One entry of the references. -/
def referenceLine (selected : List ReportEvidenceCard)
    (citation : PersistedCitation) : Text :=
  let card := selected.find? (·.evidenceId = citation.evidenceId)
  citation.citationNumber.repr.toList ++ ". [".toList
    ++ card.elim [] (·.sourceTitle) ++ "](".toList
    ++ card.elim [] (·.sourceUrl) ++ ") (".toList
    ++ card.elim [] (·.sourceDomain) ++ ",快照 ".toList
    ++ card.elim [] (·.sourceContentHash.take 12) ++ [')']

/-- `assemble_report`. -/
def assembleReport (context : ReportContext)
    (selected : List ReportEvidenceCard) (draft : Option ReportDraft) :
    Except ReportError AssembledReport :=
  match renderOrClaims selected []
      (draft.elim [] (·.executiveSummary)) ((topCards selected).take 3) with
  | .error e => .error e
  | .ok (summary, citations) =>
      match assembleQuestions selected draft citations
          context.questions with
      | .error e => .error e
      | .ok (parts, citations) =>
          let title := strip (draft.elim context.goal (·.title))
          let limitations := reportLimitations context draft
          let limitationsMarkdown := ['\n'].intercalate
            (limitations.map ("- ".toList ++ ·))
          let sections : List PersistedSection :=
            { sectionKey := "executive_summary"
              title := "执行摘要".toList
              markdown := joinLines summary }
              :: parts.map (·.persisted)
              ++ if limitations.isEmpty then []
                else
                  [{ sectionKey := "limitations"
                     title := "研究限制".toList
                     markdown := limitationsMarkdown }]
          let markdownParts : List Text :=
            ["# ".toList ++ title, [], "## 执行摘要".toList, []]
              ++ summary.map (·.line)
              ++ parts.flatMap (fun part =>
                [[], "## ".toList ++ part.persisted.title, [],
                  part.persisted.markdown])
              ++ (if limitations.isEmpty then []
                else [[], "## 研究限制".toList, [], limitationsMarkdown])
              ++ [[], "## 参考资料".toList, []]
              ++ citations.map (referenceLine selected)
          .ok
            { title
              finalMarkdown :=
                strip (['\n'].intercalate markdownParts) ++ ['\n']
              limitations
              sections
              citations
              factualLines := factualLines summary sections
              paragraphs := summary
                ++ (parts.filter
                    (·.persisted.sectionKey ∉ unfactualKeys)).flatMap
                      (·.lines) }

end DeepResearch.Report
