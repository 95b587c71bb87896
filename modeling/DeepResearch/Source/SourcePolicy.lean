/-
The identity of a source (`domain/source_policy.py`), and where it decides
that a page was processed before (`page_already_processed` of
`db/research_tools.py`).

A URL is a text of characters. A `ValueError` of `urlsplit` is `none`; that
of the port is caught. Where a capital sigma ends a word (`final`) is a
parameter: the host is folded behind its lower case, and a sigma is then
written in one way.
-/
import DeepResearch.Lib.FormCoding
import DeepResearch.Lib.UrlSplit
import DeepResearch.Run.TokenLedger
import Mathlib.Data.Char
import Mathlib.Data.List.Lex
import Mathlib.Data.List.Sort
import Mathlib.Data.Prod.Lex

namespace DeepResearch.Source

open CaseFolding (casefold)
open DeepResearch.Run (strip)
open FormCoding (parseQsl urlencode)
open UrlSplit (SplitResult urlsplit urlunsplit)

/-- A URL, or a part of one. -/
abbrev UrlText := List Char

/-- `_TRACKING_QUERY_KEYS`. -/
def trackingQueryKeys : List String :=
  ["fbclid", "gclid", "mc_cid", "mc_eid", "ref", "ref_src"]

/-- The parameter says where a reader came from. -/
def isTracking (key : UrlText) : Bool :=
  "utm_".toList.isPrefixOf (casefold key)
    || casefold key ∈ trackingQueryKeys.map String.toList

/-- `(parsed.hostname or "").casefold().rstrip(".")`. -/
def identityHost (final : UrlText → UrlText → Bool) (netloc : UrlText) :
    UrlText :=
  (casefold (UrlSplit.hostname final netloc)).rdropWhile (· = '.')

/-- `scheme`: `http` is `https`. -/
def identityScheme (originalScheme : UrlText) : UrlText :=
  if originalScheme = "http".toList ∨ originalScheme = "https".toList then
    "https".toList
  else originalScheme

/-- `default_port`. -/
def isDefaultPort (originalScheme : UrlText) (port : Nat) : Bool :=
  (originalScheme = "https".toList && port = 443)
    || (originalScheme = "http".toList && port = 80)

/-- `netloc`. -/
def identityNetloc (originalScheme hostname : UrlText) :
    Option Nat → UrlText
  | none => hostname
  | some port =>
      if isDefaultPort originalScheme port = true then hostname
      else hostname ++ ':' :: Nat.toDigits 10 port

/-- `path`. -/
def identityPath (parsedPath : UrlText) : UrlText :=
  let path := if parsedPath = [] then ['/'] else parsedPath
  if path ≠ ['/'] then path.rdropWhile (· = '/') else path

/-- `query_pairs`. -/
def queryPairs (query : UrlText) : List (UrlText × UrlText) :=
  (parseQsl query true).filter fun pair => !isTracking pair.1

/-- `a <= b`, of pairs of texts. -/
def pairLe (a b : UrlText × UrlText) : Prop := toLex a ≤ toLex b

instance : DecidableRel pairLe := fun a b =>
  inferInstanceAs (Decidable (toLex a ≤ toLex b))

/-- `urlencode(sorted(query_pairs))`. -/
def identityQuery (query : UrlText) : UrlText :=
  urlencode ((queryPairs query).insertionSort pairLe)

/-- What is put together again. -/
def identityParts (parsed : SplitResult) (hostname : UrlText)
    (port : Option Nat) : SplitResult :=
  let originalScheme := casefold parsed.scheme
  ⟨identityScheme originalScheme, identityNetloc originalScheme hostname port,
    identityPath parsed.path, identityQuery parsed.query, []⟩

/-- `normalize_source_url`. -/
def normalizeSourceUrl (final : UrlText → UrlText → Bool) (url : UrlText) :
    Option UrlText :=
  let value := strip url
  match urlsplit value with
  | none => none
  | some parsed =>
      let hostname := identityHost final parsed.netloc
      if hostname = [] then some (casefold value)
      else
        match UrlSplit.port parsed.netloc with
        | none => some (casefold value)
        | some port => some (urlunsplit (identityParts parsed hostname port))

/-- What `CandidateIdentity` says about a URL. -/
structure CandidateIdentity where
  rawUrl : UrlText
  normalizedUrl : UrlText
  domain : UrlText

/-- The first search result with the identity. -/
def resultWith (final : UrlText → UrlText → Bool) (normalizedUrl : UrlText) :
    List UrlText → Option (Option UrlText)
  | [] => some none
  | resultUrl :: rows =>
      match normalizeSourceUrl final resultUrl with
      | none => none
      | some identity =>
          if identity ≠ normalizedUrl then resultWith final normalizedUrl rows
          else some (some resultUrl)

/-- `(urlsplit(normalized_url).hostname or "unknown")[:255]`. -/
def candidateDomain (final : UrlText → UrlText → Bool)
    (parsed : SplitResult) : UrlText :=
  let hostname := UrlSplit.hostname final parsed.netloc
  (if hostname = [] then "unknown".toList else hostname).take 255

/-- `_candidate_identity_for_url`, of the URLs the question's searches
found. -/
def candidateIdentityForUrl (final : UrlText → UrlText → Bool)
    (resultUrls : List UrlText) (url : UrlText) : Option CandidateIdentity :=
  match normalizeSourceUrl final url with
  | none => none
  | some normalizedUrl =>
      match resultWith final normalizedUrl resultUrls,
          urlsplit normalizedUrl with
      | some row, some parsed =>
          some ⟨row.getD url, normalizedUrl, candidateDomain final parsed⟩
      | _, _ => none

abbrev SourceId := Nat

/-- A `ResearchSourceRow`. -/
structure SourceRow where
  id : SourceId
  canonicalUrl : UrlText
  contentHash : UrlText

/-- The first known source with one of the identities, or the content. -/
def duplicateOf (final : UrlText → UrlText → Bool)
    (identities : List UrlText) (contentHash : UrlText) :
    List SourceRow → Option (Option SourceRow)
  | [] => some none
  | source :: knownSources =>
      match normalizeSourceUrl final source.canonicalUrl with
      | none => none
      | some identity =>
          if identity ∈ identities ∨ source.contentHash = contentHash then
            some (some source)
          else duplicateOf final identities contentHash knownSources

/-- `page_already_processed`, of the sources of the run and those that were
processed for the question. -/
def pageAlreadyProcessed (final : UrlText → UrlText → Bool)
    (resultUrls : List UrlText) (processedSourceIds : List SourceId)
    (sources : List SourceRow) (requestedUrl finalUrl : UrlText)
    (contentHash : UrlText) : Option Bool :=
  match candidateIdentityForUrl final resultUrls requestedUrl with
  | none => none
  | some _ =>
      if processedSourceIds = [] then some false
      else
        match normalizeSourceUrl final requestedUrl,
            normalizeSourceUrl final finalUrl with
        | some requested, some identity =>
            (duplicateOf final [requested, identity] contentHash
              (sources.filter (·.id ∈ processedSourceIds))).map Option.isSome
        | _, _ => none

/-- The row of a page that is processed: its `canonical_url` is
`normalize_source_url(page.final_url)`. -/
def sourceRow (final : UrlText → UrlText → Bool) (id : SourceId)
    (finalUrl contentHash : UrlText) : Option SourceRow :=
  (normalizeSourceUrl final finalUrl).map fun canonicalUrl =>
    ⟨id, canonicalUrl, contentHash⟩

end DeepResearch.Source
