/-
The hints that a query is enriched with (`research_context.py`:
`ResearchContext`, `meaningful_context`, `query_hint_additions`;
`research_context_enricher.py`: `ResearchContextEnricher.enrich`).

Texts are lists of characters, and `str.casefold` is that of the tables
(`CaseFolding`).
-/
import Mathlib.Data.List.Infix
import DeepResearch.Lib.CaseFolding
import DeepResearch.Lib.Words
import DeepResearch.Run.TokenLedger

namespace DeepResearch.Search

open CaseFolding (casefold)
open DeepResearch.Run (isSpace)

/-- A text, by its code points. -/
abbrev QueryText := List Char

/-- `" ".join(text.split())`. -/
def collapseSpace (text : QueryText) : QueryText :=
  Words.collapse isSpace ' ' text

/-- `text.split()`. -/
def splitSpace (text : QueryText) : List QueryText :=
  Words.words isSpace text

/-- `needle in text`. -/
def textIn (needle text : QueryText) : Bool :=
  needle <:+: text

/-- `ResearchContext`. -/
structure ResearchContext where
  evidenceFailureReason : Option QueryText := none
  missingEvidenceType : Option QueryText := none
  refinedNeedType : Option QueryText := none
  queryHints : List QueryText := []
  existingSourceOwners : List QueryText := []
  existingDomains : List QueryText := []
  requiredSourceCount : Option Int := none
  missingSourceCount : Option Int := none
  targetClaimId : Option QueryText := none
  deriving DecidableEq, Repr

namespace ResearchContext

/-- `bool(text)`, of a text that may be missing. -/
def textSet (text : Option QueryText) : Bool :=
  text.any (!·.isEmpty)

def countSet (count : Option Int) : Bool :=
  count.any (· ≠ 0)

/-- `is_empty`. -/
def isEmpty (context : ResearchContext) : Bool :=
  !(textSet context.evidenceFailureReason
    || textSet context.missingEvidenceType
    || textSet context.refinedNeedType
    || !context.queryHints.isEmpty
    || !context.existingSourceOwners.isEmpty
    || !context.existingDomains.isEmpty
    || countSet context.requiredSourceCount
    || countSet context.missingSourceCount
    || textSet context.targetClaimId)

end ResearchContext

/-- `meaningful_context`. -/
def meaningfulContext (context : Option ResearchContext) :
    Option ResearchContext :=
  context.filter (!·.isEmpty)

/-- `ResearchContextEnrichmentResult`. -/
structure EnrichmentResult where
  originalQuery : QueryText
  enrichedQuery : QueryText
  appliedHints : List QueryText
  changed : Bool
  deriving DecidableEq, Repr

/-- The query as it is. -/
def EnrichmentResult.unchanged (query : QueryText) : EnrichmentResult where
  originalQuery := query
  enrichedQuery := query
  appliedHints := []
  changed := false

/-- The loop over the hints: the text so far, and the hints appended. A
hint that occurs already, up to case, is passed over. -/
def appendHints : QueryText → List QueryText → QueryText × List QueryText
  | text, [] => (text, [])
  | text, hint :: hints =>
      let token := collapseSpace hint
      if token = []
          ∨ textIn (casefold token) (casefold text) then
        appendHints text hints
      else
        let (final, applied) := appendHints (text ++ ' ' :: token) hints
        (final, token :: applied)

/-- `query_hint_additions`. -/
def queryHintAdditions (queryText : QueryText) (hints : List QueryText) :
    QueryText × List QueryText :=
  match hints with
  | [] => (queryText, [])
  | hints => appendHints (collapseSpace queryText) hints

/-- `ResearchContextEnricher.enrich`. -/
def enrich (query : QueryText) (context : Option ResearchContext) :
    EnrichmentResult :=
  match meaningfulContext context with
  | none => .unchanged query
  | some meaningful =>
      if meaningful.queryHints = [] then .unchanged query
      else
        let (enriched, applied) :=
          queryHintAdditions query meaningful.queryHints
        if applied = [] then .unchanged query
        else
          { originalQuery := query
            enrichedQuery := enriched
            appliedHints := applied
            changed := enriched ≠ query }

end DeepResearch.Search
