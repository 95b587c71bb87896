/-
What the reader asks of the network, and what it answers.

# The requests

A URL is `Admissible` if it is put together from well-formed parts, with
`http` or `https`, without a user and a fragment, and with no port but 80
and 443. `normalizeUrl` yields no other, and a fallback of an admissible
URL is one (`fallback_admissible`). So every request is for an admissible
URL, and what stands right before it is the check of its host
(`web_reader_guards_requests`).

The port is checked before the host is written back without its brackets
(`LostBrackets`), so a bracketed host may bring a port of its own along:
`http://[v1.host:8080]/` passes and becomes `http://v1.host:8080/`.

# The answers

A turn leads to another only below the last count, so the loop never runs
out, and each of its ends logs one event that closes the read
(`web_reader_answers`).
-/
import DeepResearch.Reader.WebReader

namespace DeepResearch.Reader

open DecimalDigits (isDecimal)
open CaseFolding (Caseless casefold)
open DeepResearch.Run (strip)
open DeepResearch.Source (UrlText)
open UrlSplit (SplitResult WellFormed urlsplit urlunsplit hostname hostinfo
  isDelimiter isUnsafe)

-- ========================================================== admissible URLs

/-- The ports that are let through. -/
def LetThrough (port : Option Nat) : Prop :=
  port = none ∨ port = some 80 ∨ port = some 443

/-- How a port is written behind a host. -/
def portText (port : Option Nat) : UrlText :=
  port.elim [] fun port => ':' :: Nat.toDigits 10 port

/-- A host that stood in brackets, an IPv6 address or one of a later
version, in lower case and without its brackets. What it has behind a colon
is read as a port. -/
def LostBrackets (netloc : UrlText) : Prop :=
  ∃ host port, UrlSplit.checkBracketedHost host = true ∧ LetThrough port
    ∧ casefold netloc = casefold host ++ portText port

/-- What the reader lets itself be sent to. -/
structure Admissible (url : UrlText) (parts : SplitResult) : Prop where
  url : url = urlunsplit parts
  wellFormed : WellFormed parts
  scheme : parts.scheme = "http".toList ∨ parts.scheme = "https".toList
  user : '@' ∉ parts.netloc
  port : (∃ port, UrlSplit.port parts.netloc = some port ∧ LetThrough port)
    ∨ LostBrackets parts.netloc
  fragment : parts.fragment = []

/-- An admissible URL splits into its parts, if it splits. -/
theorem Admissible.parts_eq {url : UrlText} {parts parsed : SplitResult}
    (h : Admissible url parts) (hsplit : urlsplit url = some parsed) :
    parsed = parts := by
  rw [h.url, UrlSplit.urlsplit_urlunsplit h.wellFormed] at hsplit
  split at hsplit
  case isTrue => exact (Option.some.inj hsplit).symm
  case isFalse => cases hsplit

-- ==================================================== parts that are clean

/-- A path as a URL holds it. -/
structure CleanPath (path : UrlText) : Prop where
  head : ∀ c, path.head? = some c → c = '/'
  marks : '?' ∉ path ∧ '#' ∉ path
  safe : ∀ c ∈ path, isUnsafe c = false

/-- A query as a URL holds it. -/
structure CleanQuery (query : UrlText) : Prop where
  mark : '#' ∉ query
  safe : ∀ c ∈ query, isUnsafe c = false

/-- A `netloc` as a URL holds it. -/
structure CleanNetloc (netloc : UrlText) : Prop where
  ne_nil : netloc ≠ []
  clean : ∀ c ∈ netloc, isDelimiter c = false ∧ isUnsafe c = false

/-- A check of every character. -/
theorem forall_of_all {p : Char → Prop} [DecidablePred p] {text : UrlText}
    (h : text.all (fun c => decide (p c)) = true) : ∀ c ∈ text, p c := by
  intro c hc
  exact of_decide_eq_true (List.all_eq_true.mp h c hc)

section

variable {parts : SplitResult} {netloc path query : UrlText}

theorem cleanPath (h : WellFormed parts) : CleanPath parts.path where
  head := h.path_head
  marks := h.path
  safe c hc := h.safe c (by simp [hc])

theorem cleanQuery (h : WellFormed parts) : CleanQuery parts.query where
  mark := h.query
  safe c hc := h.safe c (by simp [hc])

theorem cleanNetloc (h : WellFormed parts) : CleanNetloc parts.netloc where
  ne_nil := h.netloc_ne_nil
  clean c hc := ⟨h.netloc c hc, h.safe c (by simp [hc])⟩

/-- Clean parts behind a scheme are well formed. -/
theorem wellFormed_of_clean {scheme : UrlText}
    (hscheme : scheme = "http".toList ∨ scheme = "https".toList)
    (hnetloc : CleanNetloc netloc) (hpath : CleanPath path)
    (hquery : CleanQuery query) :
    WellFormed ⟨scheme, netloc, path, query, []⟩ where
  scheme := by
    right
    rcases hscheme with rfl | rfl <;>
      · dsimp only
        decide
  netloc_ne_nil := hnetloc.ne_nil
  netloc c hc := (hnetloc.clean c hc).1
  path_head := hpath.head
  path := hpath.marks
  query := hquery.mark
  safe c hc := by
    dsimp only at hc
    rw [List.append_nil] at hc
    rcases List.mem_append.mp hc with hc | hc
    · rcases List.mem_append.mp hc with hc | hc
      · exact (hnetloc.clean c hc).2
      · exact hpath.safe c hc
    · exact hquery.safe c hc

/-- A page of the same site is as admissible as the first. -/
theorem sameSite_admissible {url : UrlText} (h : Admissible url parts)
    (hpath : CleanPath path) (hquery : CleanQuery query) :
    ∃ parts', Admissible (sameSite parts path query) parts' :=
  ⟨⟨parts.scheme, parts.netloc, path, query, []⟩, rfl,
    wellFormed_of_clean h.scheme (cleanNetloc h.wellFormed) hpath hquery,
    h.scheme, h.user, h.port, rfl⟩

end

-- ============================================================= normalizing

section

variable {final : UrlText → UrlText → Bool} {netloc url target : UrlText}
  {c : Char} {port : Option Nat}

/-- Lowering before folding changes nothing. -/
theorem casefold_lower_hostname :
    casefold (CaseFolding.lower final (hostname final netloc))
      = casefold (hostinfo netloc).1 := by
  rw [CaseFolding.casefold_lower, UrlSplit.casefold_hostname]

/-- The caseless characters of a host that is put in lower case are
characters of the `netloc`, and none is an at sign. -/
theorem mem_netloc (hc : Caseless c)
    (h : c ∈ CaseFolding.lower final (hostname final netloc)) :
    c ∈ netloc ∧ c ≠ '@' := by
  rw [← CaseFolding.mem_casefold_iff hc, casefold_lower_hostname,
    CaseFolding.mem_casefold_iff hc] at h
  exact (UrlSplit.hostinfo_host netloc).1 c h

/-- Lowering empties no host name. -/
theorem lower_hostname_ne_nil (h : hostname final netloc ≠ []) :
    CaseFolding.lower final (hostname final netloc) ≠ [] := by
  intro hnil
  have hfold := CaseFolding.casefold_lower final (hostname final netloc)
  rw [hnil] at hfold
  exact h (CaseFolding.casefold_eq_nil_iff.mp hfold.symm)

/-- What is put together from a URL that is not rejected. -/
theorem normalizeUrl_ok (h : normalizeUrl final url = .ok target) :
    ∃ parsed port, urlsplit (strip url) = some parsed
      ∧ (parsed.scheme = "http".toList ∨ parsed.scheme = "https".toList)
      ∧ hostname final parsed.netloc ≠ []
      ∧ LetThrough port
      ∧ target = urlunsplit
        { scheme := parsed.scheme
          netloc := CaseFolding.lower final (hostname final parsed.netloc)
            ++ portText port
          path := if parsed.path = [] then ['/'] else parsed.path
          query := parsed.query
          fragment := [] } := by
  unfold normalizeUrl at h
  split at h
  case h_1 => cases h
  case h_2 parsed hsplit =>
    split at h
    case isTrue => cases h
    case isFalse hscheme =>
      split at h
      case isTrue => cases h
      case isFalse hhost =>
        split at h
        case h_1 => cases h
        case h_2 port _ =>
          split at h
          case isTrue => cases h
          case isFalse hport =>
            cases h
            refine ⟨parsed, port, hsplit, ?_, (not_or.mp hhost).1, ?_, rfl⟩
            · by_contra hnot
              exact hscheme (not_or.mp hnot)
            · by_contra hnot
              exact hport (by simpa [LetThrough, not_or] using hnot)

/-- What stands behind the host: nothing, or a port that is let through. -/
theorem portText_cases (h : LetThrough port) :
    portText port = [] ∨ portText port = ":80".toList
      ∨ portText port = ":443".toList := by
  rcases h with rfl | rfl | rfl
  · exact .inl rfl
  · exact .inr (.inl (by decide))
  · exact .inr (.inr (by decide))

/-- The port behind a host without a colon is the one that is written. -/
theorem port_of_plain {host : UrlText} (huser : '@' ∉ host)
    (hopen : '[' ∉ host) (hcolon : ':' ∉ host) (h : LetThrough port) :
    UrlSplit.port (host ++ portText port) = some port := by
  have hnot : ∀ d, d ∉ host → d ∉ portText port → d ∉ host ++ portText port :=
    fun d hhost htext hmem => (List.mem_append.mp hmem).elim hhost htext
  have hplain : UrlSplit.hostinfo (host ++ portText port)
      = ((UrlSplit.partition ':' (host ++ portText port)).1,
        (UrlSplit.partition ':' (host ++ portText port)).2.getD []) := by
    apply UrlSplit.hostinfo_plain
    · refine hnot _ huser ?_
      rcases portText_cases h with heq | heq | heq <;> rw [heq] <;> decide
    · refine hnot _ hopen ?_
      rcases portText_cases h with heq | heq | heq <;> rw [heq] <;> decide
  unfold UrlSplit.port
  rw [hplain]
  rcases h with rfl | rfl | rfl
  · rw [show portText none = [] from rfl, List.append_nil,
      UrlSplit.partition_of_not_mem hcolon]
    rfl
  · rw [show portText (some 80) = ':' :: "80".toList by decide,
      UrlSplit.partition_append hcolon]
    show (if "80".toList = [] then some none
      else (UrlSplit.readPort "80".toList).map some) = some (some 80)
    decide
  · rw [show portText (some 443) = ':' :: "443".toList by decide,
      UrlSplit.partition_append hcolon]
    show (if "443".toList = [] then some none
      else (UrlSplit.readPort "443".toList).map some) = some (some 443)
    decide

/-- A host with its port has a port that is let through, unless it stood
in brackets. -/
theorem port_normalized {parsed : SplitResult}
    (hbrackets : UrlSplit.checkBrackets parsed.netloc = true)
    (h : LetThrough port) :
    (∃ port', UrlSplit.port (CaseFolding.lower final
          (hostname final parsed.netloc) ++ portText port) = some port'
        ∧ LetThrough port')
      ∨ LostBrackets (CaseFolding.lower final (hostname final parsed.netloc)
        ++ portText port) := by
  by_cases hopen : '[' ∈ UrlSplit.afterLast '@' parsed.netloc
  · right
    refine ⟨(hostinfo parsed.netloc).1, port,
      UrlSplit.checkBracketedHost_hostinfo hbrackets hopen, h, ?_⟩
    rw [CaseFolding.casefold_append, casefold_lower_hostname]
    congr 1
    rcases portText_cases h with heq | heq | heq <;> rw [heq] <;> decide
  · left
    obtain ⟨hhostOpen, hhostColon⟩ := UrlSplit.hostinfo_open hopen
    have hlower : ∀ d, Caseless d → d ∉ (hostinfo parsed.netloc).1 →
        d ∉ CaseFolding.lower final (hostname final parsed.netloc) := by
      intro d hd hnot hmem
      rw [← CaseFolding.mem_casefold_iff hd, casefold_lower_hostname,
        CaseFolding.mem_casefold_iff hd] at hmem
      exact hnot hmem
    have huser : '@' ∉ (hostinfo parsed.netloc).1 := fun hmem =>
      ((UrlSplit.hostinfo_host parsed.netloc).1 _ hmem).2 rfl
    exact ⟨port, port_of_plain (hlower _ (by decide) huser)
      (hlower _ (by decide) hhostOpen) (hlower _ (by decide) hhostColon) h, h⟩

/-- The `netloc` that is put together is clean and names no user. -/
theorem cleanNetloc_normalized {parsed : SplitResult}
    (hparsed : WellFormed parsed)
    (hhost : hostname final parsed.netloc ≠ []) (hport : LetThrough port) :
    CleanNetloc (CaseFolding.lower final (hostname final parsed.netloc)
        ++ portText port)
      ∧ '@' ∉ CaseFolding.lower final (hostname final parsed.netloc)
        ++ portText port := by
  have htext : ∀ c ∈ portText port,
      c ≠ '@' ∧ isDelimiter c = false ∧ isUnsafe c = false := by
    rcases portText_cases hport with heq | heq | heq <;> rw [heq]
    · exact forall_of_all (by decide)
    · exact forall_of_all (by decide)
    · exact forall_of_all (by decide)
  have hlower : ∀ c ∈ CaseFolding.lower final (hostname final parsed.netloc),
      isDelimiter c = false ∧ isUnsafe c = false := by
    intro c hc
    have hclean := (cleanNetloc hparsed).clean c
    constructor
    -- Lowering makes no delimiter, and the host had none.
    · by_contra hdelimiter
      rw [Bool.not_eq_false] at hdelimiter
      have hmem := mem_netloc (UrlSplit.isDelimiter_caseless hdelimiter) hc
      rw [(hclean hmem.1).1] at hdelimiter
      cases hdelimiter
    · by_contra hunsafe
      rw [Bool.not_eq_false] at hunsafe
      have hmem := mem_netloc (UrlSplit.isUnsafe_caseless hunsafe) hc
      rw [(hclean hmem.1).2] at hunsafe
      cases hunsafe
  refine ⟨⟨fun hnil => ?_, fun c hc => ?_⟩, fun hat => ?_⟩
  · exact lower_hostname_ne_nil hhost (List.append_eq_nil_iff.mp hnil).1
  · rcases List.mem_append.mp hc with hc | hc
    · exact hlower c hc
    · exact (htext c hc).2
  · rcases List.mem_append.mp hat with hat | hat
    · exact (mem_netloc (by decide) hat).2 rfl
    · exact (htext _ hat).1 rfl

/-- `normalizeUrl` yields admissible URLs only. -/
theorem normalize_admissible (h : normalizeUrl final url = .ok target) :
    ∃ parts, Admissible target parts := by
  obtain ⟨parsed, port, hsplit, hscheme, hhost, hport, rfl⟩ :=
    normalizeUrl_ok h
  have hne : parsed.netloc ≠ [] := by
    intro hnil
    rw [hnil] at hhost
    exact hhost rfl
  have hparsed := UrlSplit.wellFormed_of_urlsplit hsplit hne
  obtain ⟨-, -, -, -, -, -, -, -, -, -, -, hbrackets, -⟩ :=
    UrlSplit.urlsplit_some hsplit
  obtain ⟨hnetloc, huser⟩ := cleanNetloc_normalized hparsed hhost hport
  have hpath : CleanPath
      (if parsed.path = [] then ['/'] else parsed.path) := by
    split
    case isTrue =>
      exact ⟨by simp, ⟨by decide, by decide⟩, forall_of_all (by decide)⟩
    case isFalse => exact cleanPath hparsed
  exact ⟨_, rfl, wellFormed_of_clean hscheme hnetloc hpath
    (cleanQuery hparsed), hscheme, huser, port_normalized hbrackets hport,
    rfl⟩

/-- The port of a host that loses its brackets was not checked. -/
example : normalizeUrl (fun _ _ => false) "http://[v1.host:8080]/".toList
    = .ok "http://v1.host:8080/".toList := by decide +kernel

end

-- ============================================================ the fallbacks

section

variable {path : UrlText}

theorem isUnsafe_isDecimal {c : Char} (h : isDecimal c = true) :
    isUnsafe c = false ∧ c ≠ '#' := by
  constructor
  · by_contra hunsafe
    have hcases : c = '\t' ∨ c = '\r' ∨ c = '\n' := by
      rw [Bool.not_eq_false] at hunsafe
      simpa [isUnsafe, or_assoc] using hunsafe
    rcases hcases with rfl | rfl | rfl <;> exact absurd h (by decide)
  · rintro rfl
    exact absurd h (by decide)

/-- What is found behind a lead is digits. -/
theorem searchDigits_some {leads : List UrlText} {text digits : UrlText}
    (h : searchDigits leads text = some digits) :
    ∀ c ∈ digits, isDecimal c = true := by
  unfold searchDigits at h
  obtain ⟨tail, -, h⟩ := List.exists_of_findSome?_eq_some h
  obtain ⟨lead, -, h⟩ := List.exists_of_findSome?_eq_some h
  unfold digitsBehind at h
  split at h
  case isTrue =>
    dsimp only at h
    split at h
    case isTrue => cases h
    case isFalse =>
      cases h
      exact fun c hc => List.mem_takeWhile_imp hc
  case isFalse => cases h

/-- A search for an id finds decimal digits. -/
theorem foundDigits {p : Prop} [Decidable p] {leads : List UrlText}
    {text digits : UrlText}
    (h : (if p then searchDigits leads text else none) = some digits) :
    ∀ c ∈ digits, isDecimal c = true := by
  split at h
  case isTrue => exact searchDigits_some h
  case isFalse => cases h

/-- A document's own URL, put together with the digits that name it. -/
theorem document_admissible (netloc place lead : UrlText)
    {digits : UrlText} (hnetloc : CleanNetloc netloc) (huser : '@' ∉ netloc)
    (hport : UrlSplit.port netloc = some none) (hplace : CleanPath place)
    (hlead : CleanQuery lead) (hlead_ne : lead ≠ [])
    (hdigits : ∀ c ∈ digits, isDecimal c = true) :
    ∃ parts, Admissible ("https://".toList ++ netloc ++ place
      ++ '?' :: (lead ++ digits)) parts := by
  have hquery : CleanQuery (lead ++ digits) := by
    refine ⟨fun hmem => ?_, fun c hc => ?_⟩
    · rcases List.mem_append.mp hmem with hmem | hmem
      · exact hlead.mark hmem
      · exact (isUnsafe_isDecimal (hdigits _ hmem)).2 rfl
    · rcases List.mem_append.mp hc with hc | hc
      · exact hlead.safe c hc
      · exact (isUnsafe_isDecimal (hdigits c hc)).1
  have hparts := wellFormed_of_clean (.inr rfl) hnetloc hplace hquery
  refine ⟨_, ?_, hparts, .inr rfl, huser, .inl ⟨none, hport, .inl rfl⟩, rfl⟩
  rw [UrlSplit.urlunsplit_eq hparts]
  simp [UrlSplit.schemePrefix, UrlSplit.behind, hlead_ne]

/-- A path made of characters of another and of some that are clean. -/
theorem CleanPath.remade {path' : UrlText} (extra : UrlText)
    (h : CleanPath path)
    (hextra : ∀ c ∈ extra, c ≠ '?' ∧ c ≠ '#' ∧ isUnsafe c = false)
    (hmem : ∀ c ∈ path', c ∈ path ∨ c ∈ extra)
    (hhead : ∀ c, path'.head? = some c → c = '/') : CleanPath path' := by
  have hchars : ∀ c ∈ path', c ≠ '?' ∧ c ≠ '#' ∧ isUnsafe c = false := by
    intro c hc
    rcases hmem c hc with hc | hc
    · refine ⟨fun heq => ?_, fun heq => ?_, h.safe c hc⟩
      · exact h.marks.1 (heq ▸ hc)
      · exact h.marks.2 (heq ▸ hc)
    · exact hextra c hc
  exact ⟨hhead, ⟨fun hc => (hchars _ hc).1 rfl, fun hc =>
    (hchars _ hc).2.1 rfl⟩, fun c hc => (hchars c hc).2.2⟩

/-- The first character of a path that is cut short and continued with a
slash. -/
theorem head_of_start {start rest : UrlText} (h : CleanPath path)
    (hstart : start <+: path)
    (hrest : start = [] → ∀ c, rest.head? = some c → c = '/') :
    ∀ c, (start ++ rest).head? = some c → c = '/' := by
  intro c hc
  cases hstart' : start with
  | nil =>
      rw [hstart', List.nil_append] at hc
      exact hrest hstart' c hc
  | cons d start =>
      obtain ⟨tail, htail⟩ := hstart
      rw [hstart'] at hc htail
      cases hc
      exact h.head c (by rw [← htail]; rfl)

/-- The path of a PDF beside a page. -/
theorem cleanPath_pdf (h : CleanPath path) :
    CleanPath (path.rdropWhile (· = '/') ++ "/pdf".toList) := by
  have hcut := List.rdropWhile_prefix (· = '/') path
  refine h.remade "/pdf".toList (forall_of_all (by decide)) (fun c hc => ?_)
    (head_of_start h hcut fun _ c hc => ?_)
  · exact (List.mem_append.mp hc).imp_left (hcut.sublist.mem ·)
  · cases hc
    rfl

/-- A replacement adds the characters of the new text only. -/
theorem mem_replaceFrom {old new : UrlText} {skip : Nat} {c : Char}
    (h : c ∈ replaceFrom old new skip path) : c ∈ path ∨ c ∈ new := by
  induction path generalizing skip with
  | nil => cases h
  | cons d path ih =>
      cases skip with
      | succ skip =>
          rw [replaceFrom] at h
          exact (ih h).imp_left (List.mem_cons_of_mem _)
      | zero =>
          rw [replaceFrom] at h
          split at h
          case isTrue =>
            rcases List.mem_append.mp h with h | h
            · exact .inr h
            · exact (ih h).imp_left (List.mem_cons_of_mem _)
          case isFalse =>
            rcases List.mem_cons.mp h with rfl | h
            · exact .inl List.mem_cons_self
            · exact (ih h).imp_left (List.mem_cons_of_mem _)

/-- The path with its abstracts replaced by PDFs. -/
theorem cleanPath_replace (h : CleanPath path) :
    CleanPath
      (replaceFrom "/doi/abs/".toList "/doi/pdf/".toList 0 path) := by
  refine h.remade "/doi/pdf/".toList (forall_of_all (by decide))
    (fun c hc => mem_replaceFrom hc) fun c hc => ?_
  cases path with
  | nil => cases hc
  | cons d path =>
      rw [replaceFrom] at hc
      split at hc
      case isTrue =>
        cases hc
        rfl
      case isFalse =>
        cases hc
        exact h.head c rfl

/-- The path of the full text beside a page. -/
theorem cleanPath_full (h : CleanPath path)
    (hsuffix : ".aspx".toList <:+ path) :
    CleanPath (path.take (path.length - 5) ++ ".full".toList) := by
  obtain ⟨start, rfl⟩ := hsuffix
  have hlength : (start ++ ".aspx".toList).length - 5 = start.length := by
    rw [List.length_append]
    exact Nat.add_sub_cancel start.length 5
  rw [hlength, List.take_left]
  refine h.remade ".full".toList (forall_of_all (by decide)) (fun c hc => ?_)
    (head_of_start h (List.prefix_append _ _) fun hnil _ _ => ?_)
  · exact (List.mem_append.mp hc).imp_left (List.mem_append_left _)
  · subst hnil
    have hdot := h.head '.' rfl
    cases hdot

/-- A fallback of an admissible URL is admissible. -/
theorem fallback_admissible {final : UrlText → UrlText → Bool}
    {url target : UrlText} {parts : SplitResult} (h : Admissible url parts)
    (htarget : publicFallbackUrl final url = some target) :
    ∃ parts', Admissible target parts' := by
  unfold publicFallbackUrl at htarget
  split at htarget
  case h_1 => cases htarget
  case h_2 parsed hsplit =>
    rw [h.parts_eq hsplit] at htarget
    dsimp only at htarget
    have hpath := cleanPath h.wellFormed
    have hquery := cleanQuery h.wellFormed
    split at htarget
    next digits hfound =>
      cases htarget
      -- SSRN: a document of its own under the digits of the id.
      refine document_admissible "papers.ssrn.com".toList
        "/sol3/Delivery.cfm".toList "abstractid=".toList
        ⟨by decide, forall_of_all (by decide)⟩ (by decide) (by decide)
        ⟨?_, ⟨by decide, by decide⟩, forall_of_all (by decide)⟩
        ⟨by decide, forall_of_all (by decide)⟩ (by decide)
        (foundDigits hfound)
      intro c hc
      cases hc
      rfl
    next =>
      split at htarget
      case isTrue =>
        cases htarget
        -- The other rewritings stay on the site and change its path or its
        -- query.
        exact sameSite_admissible h (cleanPath_pdf hpath) hquery
      case isFalse =>
        split at htarget
        next digits hfound =>
          cases htarget
          refine document_admissible "ieeexplore.ieee.org".toList
            "/stamp/stamp.jsp".toList "tp=&arnumber=".toList
            ⟨by decide, forall_of_all (by decide)⟩ (by decide) (by decide)
            ⟨?_, ⟨by decide, by decide⟩, forall_of_all (by decide)⟩
            ⟨by decide, forall_of_all (by decide)⟩ (by decide)
            (foundDigits hfound)
          intro c hc
          cases hc
          rfl
        next =>
          split at htarget
          case isTrue =>
            cases htarget
            exact sameSite_admissible h (cleanPath_replace hpath) hquery
          case isFalse =>
            split at htarget
            case isTrue =>
              cases htarget
              exact sameSite_admissible h hpath
                ⟨by decide, forall_of_all (by decide)⟩
            case isFalse =>
              split at htarget
              case isTrue hfull =>
                cases htarget
                exact sameSite_admissible h (cleanPath_full hpath hfull.2)
                  hquery
              case isFalse => cases htarget

end

-- ================================================================ one turn

/-- The check of a host: an address that is global, or a name all of whose
addresses are. -/
def Public (web : Web) (hop : Hop) (parts : SplitResult) : Prop :=
  hostname web.final parts.netloc ≠ []
    ∧ ((IpAddress.isIPv4 (hostname web.final parts.netloc)
          || IpAddress.isIPv6 (hostname web.final parts.netloc)) = true
        ∧ web.isGlobal (hostname web.final parts.netloc) = true
      ∨ ∃ addresses,
        hop.resolve (hostname web.final parts.netloc) = some addresses
          ∧ addresses ≠ []
          ∧ ∀ address ∈ addresses, web.isGlobal address = true)

section

variable {web : Web} {redirectCount : Nat} {current : UrlText}

/-- A destination that passes is public in its hop. -/
theorem public_of_require {hop : Hop} {url : UrlText}
    (h : requirePublicDestination web hop url = .ok ()) :
    ∃ parsed, urlsplit url = some parsed ∧ Public web hop parsed := by
  unfold requirePublicDestination at h
  split at h
  case h_1 => cases h
  case h_2 parsed hsplit =>
    dsimp only at h
    refine ⟨parsed, hsplit, ?_⟩
    split at h
    case isTrue => cases h
    case isFalse hhost =>
      refine ⟨(not_or.mp hhost).1, ?_⟩
      split at h
      case isTrue hliteral =>
        split at h
        case isTrue hglobal => exact .inl ⟨hliteral, hglobal⟩
        case isFalse => cases h
      case isFalse =>
        split at h
        case h_1 => cases h
        case h_2 addresses hresolve =>
          split at h
          case isTrue => cases h
          case isFalse hall =>
            obtain ⟨hne, hall⟩ := not_or.mp hall
            refine .inr ⟨addresses, hresolve, hne, fun address hmem => ?_⟩
            by_contra hprivate
            refine hall (List.any_eq_true.mpr ⟨address, hmem, ?_⟩)
            simpa using hprivate

/-- A turn makes one request, for a URL that passed the check, or none and
fails. -/
theorem readTurn_requests (web : Web) (redirectCount : Nat)
    (current : UrlText) :
    ((readTurn web redirectCount current).1 = []
        ∧ ∃ failure, (readTurn web redirectCount current).2 = .error failure)
      ∨ (readTurn web redirectCount current).1 = [current]
        ∧ ∃ parsed, urlsplit current = some parsed
          ∧ Public web (web.hop redirectCount) parsed := by
  unfold readTurn
  dsimp only
  split
  case h_1 failure _ => exact .inl ⟨rfl, failure, rfl⟩
  case h_2 hrequire =>
    refine .inr ⟨?_, public_of_require hrequire⟩
    split <;> rfl

/-- What a turn that succeeds makes of the response. -/
theorem readTurn_ok {turn : Turn}
    (h : (readTurn web redirectCount current).2 = .ok turn) :
    (readTurn web redirectCount current).1 = [current]
      ∧ ∃ response, handleResponse web redirectCount current response
        = .ok turn := by
  unfold readTurn at h ⊢
  dsimp only at h ⊢
  split at h
  case h_1 => cases h
  case h_2 =>
    split at h
    case h_1 => cases h
    case h_2 => cases h
    case h_3 => cases h
    case h_4 response _ => exact ⟨rfl, response, h⟩

/-- The body stays within its bound chunk by chunk. -/
theorem readChunks_length {maxBytes : Nat} {ending : StreamEnd}
    {chunks : List (List UInt8)} {start body : List UInt8}
    (hstart : start.length ≤ maxBytes)
    (h : readChunks maxBytes ending start chunks = .ok body) :
    body.length ≤ maxBytes := by
  induction chunks generalizing start with
  | nil =>
      unfold readChunks at h
      cases ending <;> cases h
      exact hstart
  | cons chunk chunks ih =>
      unfold readChunks at h
      split at h
      case isTrue => cases h
      case isFalse hle => exact ih (Nat.le_of_not_lt hle) h

/-- A body is bounded, whatever length was declared. -/
theorem boundedBody_length {maxBytes : Nat} {response : Response}
    {body : List UInt8} (h : boundedBody maxBytes response = .ok body) :
    body.length ≤ maxBytes := by
  unfold boundedBody at h
  dsimp only at h
  split at h
  case isTrue =>
    split at h
    case isTrue => cases h
    case isFalse =>
      split at h
      case isTrue => cases h
      case isFalse => exact readChunks_length (Nat.zero_le _) h
  case isFalse => exact readChunks_length (Nat.zero_le _) h

/-- The bytes a page may have. -/
def byteLimit (isPdf : Bool) : Nat :=
  if isPdf = true then maxPdfDownloadBytes else maxDownloadBytes

/-- Where a response leads: to an admissible URL, below the last count, or
to a body within its bound. -/
theorem handleResponse_ok {response : Response} {turn : Turn}
    {parts : SplitResult} (hcurrent : Admissible current parts)
    (h : handleResponse web redirectCount current response = .ok turn) :
    (∃ url, turn = .next url ∧ redirectCount < maxRedirects
        ∧ ∃ parts', Admissible url parts')
      ∨ ∃ fetched, turn = .fetched fetched
        ∧ fetched.body.length ≤ byteLimit fetched.isPdf := by
  unfold handleResponse at h
  dsimp only at h
  -- A redirect leads to a normalised URL, and there is one more count.
  split at h
  case isTrue =>
    split at h
    case isTrue => cases h
    case isFalse hlocation =>
      split at h
      case h_1 => cases h
      case h_2 target _ =>
        obtain ⟨url, hurl, hturn⟩ : ∃ url,
            normalizeUrl web.final target = .ok url ∧ Turn.next url = turn := by
          cases hnormal : normalizeUrl web.final target with
          | error failure => rw [hnormal] at h; cases h
          | ok url => rw [hnormal] at h; cases h; exact ⟨url, rfl, rfl⟩
        exact .inl ⟨url, hturn.symm, Nat.lt_of_not_le (not_or.mp hlocation).2,
          normalize_admissible hurl⟩
  case isFalse =>
    split at h
    case isTrue => cases h
    case isFalse =>
      split at h
      case isTrue =>
        split at h
        -- A refused page may have a public fallback, at the price of a
        -- count.
        case h_1 fallbackUrl hfallback =>
          split at h
          case isTrue hcount =>
            cases h
            exact .inl ⟨fallbackUrl, rfl, hcount,
              fallback_admissible hcurrent hfallback⟩
          case isFalse => cases h
        case h_2 => cases h
      case isFalse =>
        split at h
        case isTrue => cases h
        case isFalse =>
          generalize hpdf : decide ("application/pdf".toList
            <:+: CaseFolding.lower web.final response.contentType) = isPdf at h
          cases hbody : boundedBody (byteLimit isPdf) response with
          | error failure =>
              unfold byteLimit at hbody
              rw [hbody] at h
              cases h
          | ok body =>
              have hlength := boundedBody_length hbody
              unfold byteLimit at hbody
              rw [hbody] at h
              cases h
              exact .inr ⟨_, rfl, hlength⟩

end

-- ============================================================ the requests

/-- A request that the turn with this count may make. -/
def Allowed (web : Web) (redirectCount : Nat) (request : UrlText) : Prop :=
  ∃ parts, Admissible request parts ∧ urlsplit request = some parts
    ∧ Public web (web.hop redirectCount) parts

section

variable {web : Web} {requestedUrl : UrlText}

@[simp] theorem readBody_requests {current : UrlText}
    {requests : List UrlText} {events : List Event} {fetched : Fetched} :
    (readBody web requestedUrl current requests events fetched).requests
      = requests := by
  unfold readBody
  dsimp only
  split
  · rfl
  · rfl
  · split
    · rfl
    · split
      · rfl
      · split <;> rfl

/-- An admissible URL with a public destination is allowed. -/
theorem allowed_of_public {redirectCount : Nat} {current : UrlText}
    (hcurrent : ∃ parts, Admissible current parts)
    (h : ∃ parsed, urlsplit current = some parsed
      ∧ Public web (web.hop redirectCount) parsed) :
    Allowed web redirectCount current := by
  obtain ⟨parts, hparts⟩ := hcurrent
  obtain ⟨parsed, hsplit, hpublic⟩ := h
  obtain rfl := hparts.parts_eq hsplit
  exact ⟨parsed, hparts, hsplit, hpublic⟩

/-- The requests of the loop from a count on: at most one for each count,
and each one the count allows. -/
theorem readLoop_requests (counts : List Nat) {current : UrlText}
    (requests : List UrlText) (events : List Event)
    (hcurrent : ∃ parts, Admissible current parts) :
    ∃ made, (readLoop web requestedUrl counts current requests events).requests
        = requests ++ made
      ∧ made.length ≤ counts.length
      ∧ ∀ (i : Nat) request, made[i]? = some request →
        ∃ count, counts[i]? = some count ∧ Allowed web count request := by
  induction counts generalizing current requests events with
  | nil => exact ⟨[], by simp [readLoop], Nat.le_refl _, by simp⟩
  | cons count counts ih =>
      have hturn := readTurn_requests web count current
      unfold readLoop
      rcases hcut : readTurn web count current with ⟨made, turn⟩
      rw [hcut] at hturn
      dsimp only at hturn ⊢
      -- A loop that ends with this turn has made its request.
      have hlast : made.length ≤ (count :: counts).length
          ∧ ∀ (i : Nat) request, made[i]? = some request →
            ∃ k, (count :: counts)[i]? = some k
              ∧ Allowed web k request := by
        rcases hturn with ⟨rfl, -⟩ | ⟨rfl, hpublic⟩
        · exact ⟨Nat.zero_le _, by simp⟩
        · refine ⟨by simp, fun i request hrequest => ?_⟩
          cases i with
          | zero =>
              cases hrequest
              exact ⟨count, rfl, allowed_of_public hcurrent hpublic⟩
          | succ i => cases hrequest
      split
      case h_1 failure =>
        split
        · exact ⟨made, rfl, hlast⟩
        · exact ⟨made, rfl, hlast⟩
      case h_2 url =>
        have hok : (readTurn web count current).2 = .ok (.next url) := by
          rw [hcut]
        obtain ⟨hmade, response, hresponse⟩ := readTurn_ok hok
        rw [hcut] at hmade
        dsimp only at hmade
        subst hmade
        obtain ⟨parts, hparts⟩ := hcurrent
        obtain ⟨url', hurl', -, hadmissible⟩ | ⟨fetched, hfetched, -⟩ :=
          handleResponse_ok hparts hresponse
        · cases hurl'
          obtain ⟨rest, hrest, hlength, hallowed⟩ :=
            ih (requests ++ [current]) events hadmissible
          refine ⟨current :: rest, ?_, Nat.succ_le_succ hlength,
            fun i request hrequest => ?_⟩
          · rw [hrest, List.append_assoc]
            rfl
          · cases i with
            | zero =>
                cases hrequest
                exact hlast.2 0 current rfl
            | succ i => exact hallowed i request hrequest
        · cases hfetched
      case h_3 fetched =>
        exact ⟨made, readBody_requests, hlast⟩

end

/-- The event is the last of its read. -/
def EventType.closes : EventType → Bool
  | .fetchFailed => true
  | .parseFailed => true
  | .contentQualityRejected => true
  | .readable => true
  | _ => false

/-- What the last event of a read tells of its outcome. An exception that
is no `ToolExecutionError` comes from the parser, or from `ReadPage`, which
refuses a readable page. -/
def EventType.Tells : EventType → ReadOutcome → Prop
  | last, .page _ => last = .readable
  | last, .toolError _ => last ≠ .readable
  | last, .raises => last = .parseFailed ∨ last = .readable

/-- Behind the events a read has begun with: none that closes it but the
last, which tells its outcome. Or the read raises no `ToolExecutionError`,
and its events are lost. -/
def Closed (begun : List Event) (trace : ReadTrace) : Prop :=
  (trace.outcome = .raises ∧ trace.events = [])
    ∨ ∃ middle last, trace.events = begun ++ (middle ++ [last])
      ∧ (∀ e ∈ middle, e.eventType.closes = false)
      ∧ last.eventType.closes = true
      ∧ last.eventType.Tells trace.outcome

/-- A page that was read: from a bounded body, its stripped text cut to the
limit, and not too short. -/
structure PageOf (web : Web) (current : UrlText) (fetched : Fetched)
    (page : ReadPage) : Prop where
  bounded : fetched.body.length ≤ byteLimit fetched.isPdf
  finalUrl : page.finalUrl = current
  title_ne_nil : page.title ≠ []
  text : ∃ extracted title isDynamic publishedAt,
    web.extract fetched.isPdf fetched.body fetched.encoding
        = .text extracted title isDynamic publishedAt
      ∧ page.cleanText = (strip extracted).take maxCleanChars
  length : 100 ≤ page.cleanText.length
    ∧ page.cleanText.length ≤ maxCleanChars

section

variable {web : Web} {requestedUrl current : UrlText}
  {requests : List UrlText} {events begun : List Event} {fetched : Fetched}

/-- A read whose last event closes it. -/
theorem closed_of {trace : ReadTrace} (quiet : List Event) {last : Event}
    (hevents : trace.events = begun ++ (quiet ++ [last]))
    (hquiet : ∀ e ∈ quiet, e.eventType.closes = false)
    (hcloses : last.eventType.closes = true)
    (htells : last.eventType.Tells trace.outcome) : Closed begun trace :=
  .inr ⟨quiet, last, hevents, hquiet, hcloses, htells⟩

/-- Events that do not close a read stand before its last. -/
theorem Closed.after {quiet : List Event} {trace : ReadTrace}
    (h : Closed (begun ++ quiet) trace)
    (hquiet : ∀ e ∈ quiet, e.eventType.closes = false) :
    Closed begun trace := by
  rcases h with hraises | ⟨middle, last, hevents, hmiddle, hlast⟩
  · exact .inl hraises
  · refine .inr ⟨quiet ++ middle, last, ?_, fun e he => ?_, hlast⟩
    · rw [hevents, List.append_assoc, List.append_assoc]
    · rcases List.mem_append.mp he with he | he
      · exact hquiet e he
      · exact hmiddle e he

/-- Whatever a body is, its events are closed once. -/
theorem readBody_closed :
    Closed events
      (readBody web requestedUrl current requests events fetched) := by
  unfold readBody
  dsimp only
  split
  case h_1 =>
    exact closed_of _ (List.append_assoc ..) (by simp [event, EventType.closes])
      rfl (by simp [event, EventType.Tells])
  case h_2 =>
    -- the parser's own exception
    exact closed_of _ (List.append_assoc ..) (by simp [event, EventType.closes])
      rfl (.inl rfl)
  case h_3 =>
    split
    case isTrue =>
      exact closed_of _ (List.append_assoc ..)
        (by simp [event, EventType.closes]) rfl
        (by simp [event, EventType.Tells])
    case isFalse =>
      rw [List.append_assoc events]
      split
      case isTrue =>
        exact closed_of _ (List.append_assoc ..)
          (by simp [event, EventType.closes]) rfl
          (by simp [event, EventType.Tells])
      case isFalse =>
        split
        case isTrue =>
          exact closed_of _ (List.append_assoc ..)
            (by simp [event, EventType.closes]) rfl
            (by simp [event, EventType.Tells])
        case isFalse =>
          refine .after (closed_of [_] rfl ?_ rfl ?_) ?_
          · simp [event, EventType.closes]
          · -- the page, or `ReadPage` refuses its URL
            dsimp only
            split
            · rfl
            · exact .inr rfl
          · simp [event, EventType.closes]

/-- A page without a title is titled by its URL. -/
theorem fallbackTitle_ne_nil {final : UrlText → UrlText → Bool}
    {url : UrlText} : fallbackTitle final url ≠ [] := by
  unfold fallbackTitle
  split
  · decide
  · dsimp only
    split
    case isTrue hname => exact hname
    case isFalse =>
      split
      case isTrue hhost => exact hhost
      case isFalse => decide

/-- The page a body is read to. -/
theorem readBody_page {page : ReadPage}
    (hbounded : fetched.body.length ≤ byteLimit fetched.isPdf)
    (h : (readBody web requestedUrl current requests events fetched).outcome
      = .page page) : PageOf web current fetched page := by
  unfold readBody at h
  dsimp only at h
  split at h
  case h_1 => cases h
  case h_2 => cases h
  case h_3 extracted title isDynamic publishedAt hextract =>
    split at h
    case isTrue => cases h
    case isFalse =>
      split at h
      case isTrue => cases h
      case isFalse =>
        split at h
        case isTrue => cases h
        case isFalse hlength =>
          dsimp only at h
          split at h
          case isTrue =>
            cases h
            refine ⟨hbounded, rfl, ?_,
              ⟨extracted, title, isDynamic, publishedAt, hextract, rfl⟩, ?_⟩
            · dsimp only
              -- The title is cut, but not to nothing.
              rw [Ne, List.take_eq_nil_iff]
              refine not_or.mpr ⟨by decide, ?_⟩
              split
              case isTrue htitle => exact htitle
              case isFalse => exact fallbackTitle_ne_nil
            · have hmax : 100 ≤ maxCleanChars := by decide
              dsimp only
              rw [List.length_take]
              omega
          case isFalse => cases h

/-- A failed request is reported as `fetch_failed`. -/
theorem report_failed {failure : ReadFailure} {redirectCount : Nat}
    {failed : Event} {error : ToolError}
    (h : failure.report web.final requestedUrl current redirectCount
      = some (failed, error)) : failed.eventType = .fetchFailed := by
  unfold ReadFailure.report at h
  cases failure <;> cases h <;> rfl

/-- What the loop says from a count on, if the counts go on to the last
one. -/
theorem readLoop_answers {counts : List Nat} {trace : ReadTrace}
    (hcounts : counts.getLast? = some maxRedirects)
    (hcurrent : ∃ parts, Admissible current parts)
    (htrace : readLoop web requestedUrl counts current requests events
      = trace) :
    Closed events trace ∧ ∀ page, trace.outcome = .page page →
      trace.requests.getLast? = some page.finalUrl
        ∧ ∃ fetched, PageOf web page.finalUrl fetched page := by
  induction counts generalizing current requests events with
  | nil => cases hcounts
  | cons count counts ih =>
      unfold readLoop at htrace
      rcases hcut : readTurn web count current with ⟨made, turn⟩
      rw [hcut] at htrace
      dsimp only at htrace
      have hok : ∀ turn', turn = .ok turn' → made = [current]
          ∧ ∃ response, handleResponse web count current response
            = .ok turn' := by
        intro turn' hturn
        have h := readTurn_ok (show (readTurn web count current).2 = .ok turn'
          by rw [hcut]; exact hturn)
        rwa [hcut] at h
      obtain ⟨parts, hparts⟩ := hcurrent
      split at htrace
      case h_1 failure =>
        split at htrace
        case h_1 failed error hreport =>
          have hfailed := report_failed hreport
          subst htrace
          refine ⟨closed_of [] rfl (by simp) (by rw [hfailed]; rfl)
            (by simp [EventType.Tells, hfailed]), fun page hpage => ?_⟩
          cases hpage
        case h_2 =>
          subst htrace
          refine ⟨.inl ⟨rfl, rfl⟩, fun page hpage => ?_⟩
          cases hpage
      case h_2 url =>
        obtain ⟨-, response, hresponse⟩ := hok _ rfl
        obtain ⟨url', hurl', hlt, hadmissible⟩ | ⟨fetched, hfetched, -⟩ :=
          handleResponse_ok hparts hresponse
        · cases hurl'
          refine ih ?_ hadmissible htrace
          -- Below the last count there is another.
          cases counts with
          | nil =>
              cases hcounts
              exact absurd hlt (Nat.lt_irrefl _)
          | cons next counts => rwa [List.getLast?_cons_cons] at hcounts
        · cases hfetched
      case h_3 fetched =>
        obtain ⟨rfl, response, hresponse⟩ := hok _ rfl
        obtain ⟨url', hurl', -⟩ | ⟨fetched', hfetched, hbounded⟩ :=
          handleResponse_ok hparts hresponse
        · cases hurl'
        · cases hfetched
          subst htrace
          refine ⟨readBody_closed.after (by simp [event, EventType.closes]),
            fun page hpage => ?_⟩
          have hpage := readBody_page hbounded hpage
          rw [readBody_requests, hpage.finalUrl]
          exact ⟨by simp, fetched, hpage⟩

end

/-- What a read answers. Behind `fetch_started` exactly one event closes
it, the last: `readable` for a page, another for a `ToolExecutionError`,
and `parse_failed` or `readable` for anything else that is raised, if that
has left events at all. And a page is of the URL that was requested last,
from a body within its bound, its text between 100 and 30000 characters. -/
theorem web_reader_answers (web : Web) (url : UrlText) :
    ((read web url).outcome = .raises ∧ (read web url).events = []
        ∨ ∃ started, started.eventType = .fetchStarted
          ∧ Closed [started] (read web url))
      ∧ ∀ page, (read web url).outcome = .page page →
        (read web url).requests.getLast? = some page.finalUrl
          ∧ ∃ fetched, PageOf web page.finalUrl fetched page := by
  unfold read
  split
  case isTrue => exact ⟨.inl ⟨rfl, rfl⟩, by simp⟩
  case isFalse =>
    split
    case h_1 error _ =>
      refine ⟨.inr ⟨event web.final .fetchStarted url url none [], rfl,
        closed_of [] rfl (by simp) rfl
          (by simp [event, EventType.Tells])⟩, by simp⟩
    case h_2 => exact ⟨.inl ⟨rfl, rfl⟩, by simp⟩
    case h_3 current hnormal =>
      split
      case isTrue => exact ⟨.inl ⟨rfl, rfl⟩, by simp⟩
      case isFalse =>
        have hcounts :
            (List.range (maxRedirects + 1)).getLast? = some maxRedirects := rfl
        obtain ⟨hclosed, hpage⟩ :=
          readLoop_answers hcounts (normalize_admissible hnormal) rfl
        exact ⟨.inr ⟨_, rfl, hclosed⟩, hpage⟩

end DeepResearch.Reader
