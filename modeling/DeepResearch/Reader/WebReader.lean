/-
Reading a public page (`tools/web_reader.py`).

What the network does is a parameter, and may change between two requests:
each turn of the redirect loop has a `Hop` of its own, with its name
resolution and its server's answer. `ipaddress.ip_address(_).is_global`,
`urljoin`, the extraction of the text and the hash are parameters as well;
nothing is assumed of them.

A `ToolExecutionError` is a `ToolError`; what the caller sees of any other
exception is `raises`. The events of a read are there for the caller only
where the read has answered (`_finish_events`).
-/
import DeepResearch.Lib.DecimalDigits
import DeepResearch.Lib.UrlParts
import DeepResearch.Run.TokenLedger
import DeepResearch.Source.SourcePolicy
import Mathlib.Data.List.Infix

namespace DeepResearch.Reader

open DecimalDigits (isDecimal)
open DeepResearch.Run (strip)
open DeepResearch.Source (UrlText)
open UrlSplit (SplitResult urlsplit urlunsplit hostname)

def maxDownloadBytes : Nat := 2000000

def maxPdfDownloadBytes : Nat := 12000000

def maxCleanChars : Nat := 30000

def maxRedirects : Nat := 3

-- ================================================================= failures

/-- `ToolExecutionError`, with the `http_status` of its details. -/
structure ToolError where
  code : String
  retryable : Bool
  httpStatus : Option Nat := none
  deriving DecidableEq, Repr

/-- How a step fails. -/
inductive ReadFailure
  | tool (error : ToolError)
  | timeout
  | requestError
  /-- A `ValueError`, or any other exception that is not caught. -/
  | raises
  deriving DecidableEq, Repr

/-- A `ToolExecutionError` that is raised. -/
def reject {α : Type} (code : String) (retryable : Bool)
    (httpStatus : Option Nat) : Except ReadFailure α :=
  .error (.tool ⟨code, retryable, httpStatus⟩)

-- ============================================================= the network

/-- How a body ends. -/
inductive StreamEnd
  | complete
  | timeout
  | requestError

/-- `httpx.Response`. -/
structure Response where
  statusCode : Nat
  location : Option UrlText
  contentType : UrlText
  contentLength : Option UrlText
  encoding : Option UrlText
  chunks : List (List UInt8)
  ending : StreamEnd

/-- What a request leads to; `raises` is an exception of no kind that is
caught (`httpx.InvalidURL`). -/
inductive Answer
  | response (response : Response)
  | timeout
  | requestError
  | raises

/-- The network during one turn of the loop. -/
structure Hop where
  /-- The addresses of `getaddrinfo`; `none` is a `gaierror`. -/
  resolve : UrlText → Option (List UrlText)
  answer : UrlText → Answer

/-- What the text of a page comes to. -/
inductive Extraction
  | text (extracted title : UrlText) (isDynamic : Bool)
    (publishedAt : Option Nat)
  | timeout
  | raises

/-- What the reader depends on. -/
structure Web where
  final : UrlText → UrlText → Bool
  isGlobal : UrlText → Bool
  /-- `urljoin`; `none` is a `ValueError`. -/
  urljoin : UrlText → UrlText → Option UrlText
  hop : Nat → Hop
  extract : Bool → List UInt8 → UrlText → Extraction
  sha256 : UrlText → UrlText
  fetchedAt : Nat

-- ================================================================= the URLs

/-- `parsed.username or parsed.password`. -/
def hasCredentials (netloc : UrlText) : Bool :=
  let userinfo := (netloc.rdropWhile (· != '@')).dropLast
  let (username, password) := UrlSplit.partition ':' userinfo
  username ≠ [] || password.getD [] ≠ []

/-- `_normalize_url`. -/
def normalizeUrl (final : UrlText → UrlText → Bool) (url : UrlText) :
    Except ReadFailure UrlText :=
  match urlsplit (strip url) with
  | none => .error .raises
  | some parsed =>
      if parsed.scheme ≠ "http".toList ∧ parsed.scheme ≠ "https".toList then
        reject "WEBPAGE_URL_REJECTED" false none
      else if hostname final parsed.netloc = []
          ∨ hasCredentials parsed.netloc = true then
        reject "WEBPAGE_URL_REJECTED" false none
      else
        match UrlSplit.port parsed.netloc with
        | none => reject "WEBPAGE_URL_REJECTED" false none
        | some port =>
            if port ≠ none ∧ port ≠ some 80 ∧ port ≠ some 443 then
              reject "WEBPAGE_PORT_REJECTED" false none
            else
              let host :=
                CaseFolding.lower final (hostname final parsed.netloc)
              .ok <| urlunsplit
                { scheme := parsed.scheme
                  netloc := host ++ port.elim [] fun port =>
                    ':' :: Nat.toDigits 10 port
                  path := if parsed.path = [] then ['/'] else parsed.path
                  query := parsed.query
                  fragment := [] }

/-- `_require_public_destination`. -/
def requirePublicDestination (web : Web) (hop : Hop) (url : UrlText) :
    Except ReadFailure Unit :=
  match urlsplit url with
  | none => .error .raises
  | some parsed =>
      let host := hostname web.final parsed.netloc
      if host = []
          ∨ CaseFolding.lower web.final host = "localhost".toList then
        reject "WEBPAGE_PRIVATE_DESTINATION" false none
      else if (IpAddress.isIPv4 host || IpAddress.isIPv6 host) = true then
        if web.isGlobal host = true then .ok ()
        else reject "WEBPAGE_PRIVATE_DESTINATION" false none
      else
        match hop.resolve host with
        | none => reject "WEBPAGE_DNS_FAILED" true none
        | some addresses =>
            if addresses = [] ∨ addresses.any (!web.isGlobal ·) = true then
              reject "WEBPAGE_PRIVATE_DESTINATION" false none
            else .ok ()

-- ============================================================ the fallbacks

/-- The digits right behind a lead, if there are any. -/
def digitsBehind (lead text : UrlText) : Option UrlText :=
  if lead.isPrefixOf text = true then
    let digits := (text.drop lead.length).takeWhile isDecimal
    if digits = [] then none else some digits
  else none

/-- `re.search` for one of some leads and digits behind it, and the
digits. -/
def searchDigits (leads : List UrlText) (text : UrlText) : Option UrlText :=
  text.tails.findSome? fun tail => leads.findSome? (digitsBehind · tail)

/-- `str.replace`; `skip` characters belong to the last occurrence. -/
def replaceFrom (old new : UrlText) : Nat → UrlText → UrlText
  | _, [] => []
  | skip + 1, _ :: text => replaceFrom old new skip text
  | 0, c :: text =>
      if old.isPrefixOf (c :: text) = true then
        new ++ replaceFrom old new (old.length - 1) text
      else c :: replaceFrom old new 0 text

/-- A URL of the same site, without a fragment. -/
def sameSite (parsed : SplitResult) (path query : UrlText) : UrlText :=
  urlunsplit ⟨parsed.scheme, parsed.netloc, path, query, []⟩

/-- `_public_fallback_url`. -/
def publicFallbackUrl (final : UrlText → UrlText → Bool) (url : UrlText) :
    Option UrlText :=
  match urlsplit url with
  | none => none
  | some parsed =>
      let host :=
        String.ofList (CaseFolding.lower final (hostname final parsed.netloc))
      let path := parsed.path
      let ssrn :=
        if host = "www.ssrn.com" ∨ host = "ssrn.com" then
          searchDigits
            ["abstractid=".toList, "abstractid/".toList,
              "abstract=".toList, "abstract/".toList]
            (path ++ '?' :: parsed.query)
        else none
      let ieee :=
        if host = "ieeexplore.ieee.org"
            ∨ host = "www.ieeexplore.ieee.org" then
          searchDigits ["/document/".toList] path
        else none
      if let some digits := ssrn then
        some ("https://papers.ssrn.com/sol3/Delivery.cfm?abstractid=".toList
          ++ digits)
      else if host = "www.mdpi.com" ∧ ¬ "/pdf".toList <:+ path then
        some (sameSite parsed (path.rdropWhile (· = '/') ++ "/pdf".toList)
          parsed.query)
      else if let some digits := ieee then
        some ("https://ieeexplore.ieee.org/stamp/stamp.jsp?tp=&arnumber=".toList
          ++ digits)
      else if host = "dl.acm.org" ∧ "/doi/abs/".toList <:+: path then
        some (sameSite parsed
          (replaceFrom "/doi/abs/".toList "/doi/pdf/".toList 0 path)
          parsed.query)
      else if host = "academic.oup.com" ∧ "/article/".toList <:+: path
          ∧ parsed.query = [] then
        some (sameSite parsed path "download=1".toList)
      else if (host = "www.spiedigitallibrary.org"
            ∨ host = "proceedings.spiedigitallibrary.org")
          ∧ ".aspx".toList <:+ path then
        some (sameSite parsed
          (path.take (path.length - 5) ++ ".full".toList) parsed.query)
      else none

-- ================================================================= the body

/-- The loop of `_bounded_body`. -/
def readChunks (maxBytes : Nat) (ending : StreamEnd) :
    List UInt8 → List (List UInt8) → Except ReadFailure (List UInt8)
  | body, [] =>
      match ending with
      | .complete => .ok body
      | .timeout => .error .timeout
      | .requestError => .error .requestError
  | body, chunk :: chunks =>
      if maxBytes < (body ++ chunk).length then
        reject "WEBPAGE_TOO_LARGE" false none
      else readChunks maxBytes ending (body ++ chunk) chunks

/-- `_bounded_body`, of a declared length in ASCII digits. -/
def boundedBody (maxBytes : Nat) (response : Response) :
    Except ReadFailure (List UInt8) :=
  let declared := response.contentLength.getD []
  if declared ≠ [] ∧ declared.all Char.isDigit = true then
    if UrlSplit.maxStrDigits < declared.length then .error .raises
    else if maxBytes < Nat.ofDigitChars 10 declared 0 then
      reject "WEBPAGE_TOO_LARGE" false none
    else readChunks maxBytes response.ending [] response.chunks
  else readChunks maxBytes response.ending [] response.chunks

/-- A body and what is known of it. -/
structure Fetched where
  isPdf : Bool
  contentType : UrlText
  body : List UInt8
  encoding : UrlText

/-- What one turn of the loop leads to. -/
inductive Turn
  | next (url : UrlText)
  | fetched (page : Fetched)

/-- The turn from the response on. -/
def handleResponse (web : Web) (redirectCount : Nat) (current : UrlText)
    (response : Response) : Except ReadFailure Turn :=
  let status := some response.statusCode
  if 300 ≤ response.statusCode ∧ response.statusCode < 400 then
    let location := response.location.getD []
    if location = [] ∨ maxRedirects ≤ redirectCount then
      reject "WEBPAGE_REDIRECT_REJECTED" false status
    else
      match web.urljoin current location with
      | none => .error .raises
      | some target => (normalizeUrl web.final target).map .next
  else if 500 ≤ response.statusCode then
    reject "WEBPAGE_PROVIDER_UNAVAILABLE" true status
  else if 400 ≤ response.statusCode then
    match publicFallbackUrl web.final current with
    | some fallbackUrl =>
        if redirectCount < maxRedirects then .ok (.next fallbackUrl)
        else reject "WEBPAGE_REQUEST_REJECTED" false status
    | none => reject "WEBPAGE_REQUEST_REJECTED" false status
  else
    let contentType := CaseFolding.lower web.final response.contentType
    let isPdf := decide ("application/pdf".toList <:+: contentType)
    if isPdf = false ∧ ¬ "text/html".toList <:+: contentType
        ∧ ¬ "application/xhtml+xml".toList <:+: contentType then
      reject "WEBPAGE_CONTENT_TYPE_UNSUPPORTED" false none
    else
      (boundedBody
        (if isPdf = true then maxPdfDownloadBytes else maxDownloadBytes)
        response).map fun body => .fetched
          { isPdf
            contentType
            body
            encoding := response.encoding.elim "utf-8".toList fun encoding =>
              if encoding = [] then "utf-8".toList else encoding }

-- =============================================================== the events

/-- `event_type`. -/
inductive EventType
  | fetchStarted
  | fetchFailed
  | fetchSuccess
  | parseStarted
  | parseFailed
  | parseSuccess
  | contentExtracted
  | contentQualityRejected
  | contentQualityPassed
  | readable
  deriving DecidableEq, Repr

/-- `stage`. -/
def EventType.stage : EventType → String
  | .fetchStarted => "fetch"
  | .fetchFailed => "fetch"
  | .fetchSuccess => "fetch"
  | .parseStarted => "parse"
  | .parseFailed => "parse"
  | .parseSuccess => "parse"
  | .contentExtracted => "content"
  | .contentQualityRejected => "content"
  | .contentQualityPassed => "content"
  | .readable => "reader"

/-- A value of `metrics`. -/
inductive Metric
  | int (n : Nat)
  | str (text : UrlText)
  | bool (b : Bool)
  deriving DecidableEq

/-- `_event`, without its time. `final_url` is `normalized_url`. -/
structure Event where
  eventType : EventType
  requestedUrl : UrlText
  finalUrl : UrlText
  domain : UrlText
  reason : Option String
  metrics : List (String × Metric)
  deriving DecidableEq

/-- `parsed.hostname or "unknown"`, of a URL that splits. -/
def eventDomain (final : UrlText → UrlText → Bool) (url : UrlText) :
    UrlText :=
  let host := (urlsplit url).elim [] fun parsed => hostname final parsed.netloc
  (if host = [] then "unknown".toList else host).take 255

/-- `_event`. -/
def event (final : UrlText → UrlText → Bool) (eventType : EventType)
    (requestedUrl currentUrl : UrlText) (reason : Option String)
    (metrics : List (String × Metric)) : Event :=
  { eventType
    requestedUrl := requestedUrl.take 1000
    finalUrl := currentUrl.take 1000
    domain := eventDomain final currentUrl
    reason
    metrics }

/-- The event of a failure inside the loop and the exception the caller
gets; none for what is not caught. -/
def ReadFailure.report (final : UrlText → UrlText → Bool)
    (requestedUrl currentUrl : UrlText) (redirectCount : Nat) :
    ReadFailure → Option (Event × ToolError)
  | .tool error =>
      let reason :=
        if error.httpStatus.isSome = true then "http_error"
        else error.code.toLower
      some (event final .fetchFailed requestedUrl currentUrl (some reason)
        ([("redirect_count", .int redirectCount),
            ("error_code", .str error.code.toList)]
          ++ error.httpStatus.elim [] fun status =>
            [("http_status", .int status)]), error)
  | .timeout =>
      some (event final .fetchFailed requestedUrl currentUrl (some "timeout")
        [("redirect_count", .int redirectCount)],
        ⟨"WEBPAGE_TIMEOUT", true, none⟩)
  | .requestError =>
      some (event final .fetchFailed requestedUrl currentUrl
        (some "network_error") [("redirect_count", .int redirectCount)],
        ⟨"WEBPAGE_NETWORK_ERROR", true, none⟩)
  | .raises => none

-- ================================================================= the read

/-- `ReadPage`. -/
structure ReadPage where
  finalUrl : UrlText
  title : UrlText
  cleanText : UrlText
  contentHash : UrlText
  fetchedAt : Nat
  publishedAt : Option Nat
  truncated : Bool

/-- How a read ends. -/
inductive ReadOutcome
  | page (page : ReadPage)
  | toolError (error : ToolError)
  | raises

/-- A read: the requests it made and the events it finished with. -/
structure ReadTrace where
  requests : List UrlText
  events : List Event
  outcome : ReadOutcome

/-- The title of a page that names none: the last part of its path, or its
host. -/
def fallbackTitle (final : UrlText → UrlText → Bool) (url : UrlText) :
    UrlText :=
  match urlsplit url with
  | none => "Untitled source".toList
  | some parsed =>
      let name := UrlSplit.afterLast '/' parsed.path
      let host := hostname final parsed.netloc
      if name ≠ [] then name
      else if host ≠ [] then host
      else "Untitled source".toList

/-- The read from a body on; `events` is what was logged before. -/
def readBody (web : Web) (requestedUrl current : UrlText)
    (requests : List UrlText) (events : List Event) (fetched : Fetched) :
    ReadTrace :=
  let log eventType reason metrics :=
    event web.final eventType requestedUrl current reason metrics
  let events := events
    ++ [log .parseStarted none [("content_type", .str fetched.contentType)]]
  let empty : ReadOutcome :=
    .toolError ⟨"WEBPAGE_EXTRACTION_EMPTY", false, none⟩
  match web.extract fetched.isPdf fetched.body fetched.encoding with
  | .timeout =>
      { requests
        events := events ++ [log .parseFailed (some "parser_error")
          [("error_code", .str "WEBPAGE_EXTRACTION_TIMEOUT".toList)]]
        outcome := .toolError ⟨"WEBPAGE_EXTRACTION_TIMEOUT", false, none⟩ }
  | .raises =>
      { requests
        events := events ++ [log .parseFailed (some "parser_error") []]
        outcome := .raises }
  | .text extracted title isDynamic publishedAt =>
      let clean := strip extracted
      if clean = [] ∧ fetched.isPdf = false ∧ isDynamic = true then
        { requests
          events := events ++ [log .parseFailed (some "dynamic_page") []]
          outcome := empty }
      else
        let events := events
          ++ [log .parseSuccess none [],
            log .contentExtracted none
              [("extracted", .bool (clean ≠ [])),
                ("clean_chars", .int clean.length)]]
        if clean = [] then
          { requests
            events := events
              ++ [log .contentQualityRejected (some "empty_content") []]
            outcome := empty }
        else if clean.length < 100 then
          { requests
            events := events
              ++ [log .contentQualityRejected (some "body_too_short")
                [("clean_chars", .int clean.length)]]
            outcome := empty }
        else
          let text := clean.take maxCleanChars
          let truncated := decide (maxCleanChars < clean.length)
          let title :=
            (if title ≠ [] then title
              else fallbackTitle web.final current).take 1000
          { requests
            events := events
              ++ [log .contentQualityPassed none
                  [("clean_chars", .int clean.length)],
                log .readable none
                  [("clean_chars", .int text.length),
                    ("truncated", .bool truncated)]]
            outcome :=
              -- `ReadPage` takes no URL longer than this.
              if current.length ≤ 4000 then
                .page
                  { finalUrl := current
                    title
                    cleanText := text
                    contentHash := web.sha256 text
                    fetchedAt := web.fetchedAt
                    publishedAt
                    truncated }
              else .raises }

/-- One turn of the loop, and the request it makes. -/
def readTurn (web : Web) (redirectCount : Nat) (current : UrlText) :
    List UrlText × Except ReadFailure Turn :=
  let hop := web.hop redirectCount
  match requirePublicDestination web hop current with
  | .error failure => ([], .error failure)
  | .ok () =>
      match hop.answer current with
      | .timeout => ([current], .error .timeout)
      | .requestError => ([current], .error .requestError)
      | .raises => ([current], .error .raises)
      | .response response =>
          ([current], handleResponse web redirectCount current response)

/-- `for redirect_count in range(_MAX_REDIRECTS + 1)`, from a count on. -/
def readLoop (web : Web) (requestedUrl : UrlText) :
    List Nat → UrlText → List UrlText → List Event → ReadTrace
  | [], _, requests, events =>
      { requests
        events
        outcome := .toolError ⟨"WEBPAGE_REDIRECT_REJECTED", false, none⟩ }
  | redirectCount :: counts, current, requests, events =>
      let (made, turn) := readTurn web redirectCount current
      let requests := requests ++ made
      match turn with
      | .error failure =>
          match failure.report web.final requestedUrl current
              redirectCount with
          | some (failed, error) =>
              { requests
                events := events ++ [failed]
                outcome := .toolError error }
          | none => { requests, events := [], outcome := .raises }
      | .ok (.next url) => readLoop web requestedUrl counts url requests events
      | .ok (.fetched fetched) =>
          readBody web requestedUrl current requests
            (events ++ [event web.final .fetchSuccess requestedUrl current none
              [("redirect_count", .int redirectCount),
                ("content_type", .str fetched.contentType),
                ("response_bytes", .int fetched.body.length)]])
            fetched

/-- `PublicWebReader.read`. -/
def read (web : Web) (url : UrlText) : ReadTrace :=
  if (urlsplit url).isNone = true then
    { requests := [], events := [], outcome := .raises }
  else
    match normalizeUrl web.final url with
    | .error (.tool error) =>
        { requests := []
          events :=
            [event web.final .fetchStarted url url none [],
              event web.final .fetchFailed url url (some "http_error")
                [("error_code", .str error.code.toList)]]
          outcome := .toolError error }
    | .error _ => { requests := [], events := [], outcome := .raises }
    | .ok current =>
        if (urlsplit current).isNone = true then
          { requests := [], events := [], outcome := .raises }
        else
          readLoop web url (List.range (maxRedirects + 1)) current []
            [{ event web.final .fetchStarted url url none [] with
              finalUrl := current.take 1000
              domain := eventDomain web.final current }]

end DeepResearch.Reader
