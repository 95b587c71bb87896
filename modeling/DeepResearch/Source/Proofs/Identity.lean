/-
The parts of an identity.

They are well formed (`wellFormed_identityParts`), so they come back when
the identity is split, but for a bracket in the host. A folded text is
stripped, and so is what equals its own identity
(`strip_eq_of_identity`).
-/
import DeepResearch.Lib.UrlParts
import DeepResearch.Source.SourcePolicy

namespace DeepResearch.Source

open CaseFolding (casefold Caseless)
open DeepResearch.Run (isSpace isSpace_caseless strip)
open UrlSplit (SplitResult WellFormed urlsplit urlunsplit)

variable {final : UrlText → UrlText → Bool} {parsed parts : SplitResult}
  {url text netloc : UrlText} {port : Option Nat}

-- =========================================================== white space

theorem strip_eq (text : UrlText) : strip text = Trim.trim isSpace text := rfl

/-- A stripped text that is folded is stripped. -/
theorem strip_casefold_strip (url : UrlText) :
    strip (casefold (strip url)) = casefold (strip url) := by
  refine Trim.trim_eq_self (fun c hc => ?_) (fun c hc => ?_)
  · rw [← Bool.not_eq_true]
    intro hspace
    have hhead := CaseFolding.head_of_casefold (isSpace_caseless hspace) hc
    rw [strip_eq] at hhead
    rw [Trim.head_trim hhead] at hspace
    cases hspace
  · rw [← Bool.not_eq_true]
    intro hspace
    have hlast := CaseFolding.last_of_casefold (isSpace_caseless hspace) hc
    rw [strip_eq] at hlast
    rw [Trim.last_trim hlast] at hspace
    cases hspace

-- ============================================================== the host

theorem mem_rdropWhile_of {p : Char → Bool} {c : Char}
    (h : c ∈ text.rdropWhile p) : c ∈ text :=
  (List.rdropWhile_prefix p text).sublist.mem h

/-- The host of an identity is the folded host name without its last dots.
-/
theorem identityHost_eq (final : UrlText → UrlText → Bool)
    (netloc : UrlText) :
    identityHost final netloc
      = (casefold (UrlSplit.hostinfo netloc).1).rdropWhile (· = '.') := by
  unfold identityHost
  rw [UrlSplit.casefold_hostname]

/-- A host stays when it is folded. -/
theorem casefold_identityHost (final : UrlText → UrlText → Bool)
    (netloc : UrlText) :
    casefold (identityHost final netloc) = identityHost final netloc := by
  refine CaseFolding.casefold_eq_self fun c hc => ?_
  rw [identityHost_eq] at hc
  exact CaseFolding.foldChar_of_casefold_eq
    (CaseFolding.casefold_casefold _) (mem_rdropWhile_of hc)

/-- It has no last dots to lose. -/
theorem rdropWhile_identityHost (final : UrlText → UrlText → Bool)
    (netloc : UrlText) :
    (identityHost final netloc).rdropWhile (· = '.')
      = identityHost final netloc := by
  unfold identityHost
  rw [List.rdropWhile_idempotent]

/-- A caseless character of the host is one of the `netloc`. -/
theorem mem_of_identityHost {c : Char} (hc : Caseless c)
    (h : c ∈ identityHost final netloc) :
    c ∈ (UrlSplit.hostinfo netloc).1 := by
  rw [identityHost_eq] at h
  exact (CaseFolding.mem_casefold_iff hc).mp (mem_rdropWhile_of h)

/-- A host comes from a network location. -/
theorem netloc_ne_nil (h : identityHost final netloc ≠ []) : netloc ≠ [] := by
  rintro rfl
  rw [identityHost_eq] at h
  exact h rfl

/-- What is not in a `netloc` is not in the identity's, but for the colon
and digits. -/
theorem mem_identityNetloc {scheme host : UrlText} {c : Char}
    (h : c ∈ identityNetloc scheme host port) :
    c ∈ host ∨ c = ':' ∨ c.isDigit = true := by
  unfold identityNetloc at h
  split at h
  case h_1 => exact .inl h
  case h_2 n =>
    split at h
    · exact .inl h
    · rcases List.mem_append.mp h with h | h
      · exact .inl h
      · rcases List.mem_cons.mp h with h | h
        · exact .inr (.inl h)
        · exact .inr (.inr (Nat.isDigit_of_mem_toDigits (by decide)
            (by decide) h))

-- ============================================================== the parts

/-- A caseless character that is neither a colon nor a digit. -/
theorem not_mem_identityNetloc {scheme : UrlText} {c : Char}
    (hcaseless : Caseless c) (hcolon : c ≠ ':') (hdigit : c.isDigit = false)
    (hc : c ∉ (UrlSplit.hostinfo netloc).1) :
    c ∉ identityNetloc scheme (identityHost final netloc) port := by
  intro hmem
  rcases mem_identityNetloc hmem with h | h | h
  · exact hc (mem_of_identityHost hcaseless h)
  · exact hcolon h
  · rw [hdigit] at h
    cases h

theorem identityNetloc_ne_nil {scheme host : UrlText} (h : host ≠ []) :
    identityNetloc scheme host port ≠ [] := by
  unfold identityNetloc
  split
  · exact h
  · split
    · exact h
    · exact List.append_ne_nil_of_left_ne_nil h _

/-- A path keeps its first slash, if anything is left of it. -/
theorem identityPath_eq (path : UrlText) :
    identityPath path = ['/'] ∧ (path = [] ∨ path = ['/'])
      ∨ identityPath path = path.rdropWhile (· = '/') := by
  unfold identityPath
  simp only
  by_cases hnil : path = []
  · rw [if_pos hnil]
    exact .inl ⟨rfl, .inl hnil⟩
  · rw [if_neg hnil]
    by_cases hslash : path = ['/']
    · rw [if_neg (not_not.mpr hslash)]
      exact .inl ⟨hslash, .inr hslash⟩
    · exact .inr (if_pos hslash)

/-- The path of an identity adds a slash at most. -/
theorem mem_identityPath {path : UrlText} {c : Char}
    (h : c ∈ identityPath path) : c ∈ path ∨ c = '/' := by
  rcases identityPath_eq path with ⟨hpath, -⟩ | hpath
  · rw [hpath] at h
    exact .inr (List.mem_singleton.mp h)
  · rw [hpath] at h
    exact .inl (mem_rdropWhile_of h)

theorem head_identityPath {path : UrlText}
    (h : ∀ c, path.head? = some c → c = '/') :
    ∀ c, (identityPath path).head? = some c → c = '/' := by
  intro c hc
  rcases identityPath_eq path with ⟨hpath, -⟩ | hpath
  · rw [hpath] at hc
    exact (Option.some.inj hc).symm
  · rw [hpath] at hc
    obtain ⟨rest, hrest⟩ := List.rdropWhile_prefix (· = '/') path
    refine h c ?_
    rw [← hrest, List.head?_append, hc]
    rfl

/-- What is written in a query is plain. -/
theorem mem_identityQuery {query : UrlText} {c : Char}
    (h : c ∈ identityQuery query) :
    c ≠ '#' ∧ UrlSplit.isUnsafe c = false ∧ isSpace c = false := by
  rcases FormCoding.mem_urlencode h with ⟨pair, -, hpair⟩ | rfl
  · rcases FormCoding.mem_writePair hpair with hwritten | rfl
    · refine ⟨hwritten.ne (by decide), ?_, ?_⟩
      · rw [← Bool.not_eq_true]
        intro hunsafe
        unfold UrlSplit.isUnsafe at hunsafe
        simp only [Bool.or_eq_true, decide_eq_true_eq] at hunsafe
        rcases hunsafe with (rfl | rfl) | rfl <;>
          exact absurd hwritten (by decide)
      · exact @CaseFolding.ascii_forall
          (fun c => FormCoding.Written c → isSpace c = false)
          (by decide +kernel) c hwritten.lt hwritten
    · decide
  · decide

/-- A scheme is lowered when it is split off. -/
theorem casefold_scheme (h : WellFormed parsed) :
    casefold parsed.scheme = parsed.scheme := by
  rcases h.scheme with hnil | ⟨hscheme, hlower⟩
  · rw [hnil]
    rfl
  · rw [(UrlSplit.isScheme_lower hscheme).1, hlower]

/-- A scheme is kept, or `https`. -/
theorem identityScheme_cases (scheme : UrlText) :
    identityScheme scheme = "https".toList
      ∨ identityScheme scheme = scheme := by
  unfold identityScheme
  split
  · exact .inl rfl
  · exact .inr rfl

/-- The parts of an identity are well formed. -/
theorem wellFormed_identityParts (h : WellFormed parsed)
    (hhost : identityHost final parsed.netloc ≠ []) (port : Option Nat) :
    WellFormed (identityParts parsed (identityHost final parsed.netloc)
      port) := by
  have hhostinfo := (UrlSplit.hostinfo_host parsed.netloc).1
  have hsafe := h.safe
  simp only [List.mem_append] at hsafe
  constructor
  case scheme =>
    show identityScheme (casefold parsed.scheme) = [] ∨ _
    rw [casefold_scheme h]
    rcases identityScheme_cases parsed.scheme with hscheme | hscheme
    · refine .inr ?_
      show UrlSplit.isScheme (identityScheme (casefold parsed.scheme)) = true
        ∧ (identityScheme (casefold parsed.scheme)).map Char.toLower
          = identityScheme (casefold parsed.scheme)
      rw [casefold_scheme h, hscheme]
      decide
    · show _ ∨ UrlSplit.isScheme (identityScheme (casefold parsed.scheme))
          = true
        ∧ (identityScheme (casefold parsed.scheme)).map Char.toLower
          = identityScheme (casefold parsed.scheme)
      rw [casefold_scheme h, hscheme]
      exact h.scheme
  case netloc_ne_nil => exact identityNetloc_ne_nil hhost
  -- A delimiter is caseless, so that folding the host makes none.
  case netloc =>
    intro c hc
    rw [← Bool.not_eq_true]
    intro hdelimiter
    -- The host had none either.
    have hnot : c ∉ (UrlSplit.hostinfo parsed.netloc).1 := by
      intro hmem
      rw [h.netloc c (hhostinfo c hmem).1] at hdelimiter
      cases hdelimiter
    refine not_mem_identityNetloc
      (UrlSplit.isDelimiter_caseless hdelimiter) ?_ ?_ hnot hc
    · rintro rfl
      cases hdelimiter
    · unfold UrlSplit.isDelimiter at hdelimiter
      simp only [Bool.or_eq_true, decide_eq_true_eq] at hdelimiter
      rcases hdelimiter with (rfl | rfl) | rfl <;> rfl
  case path_head => exact head_identityPath h.path_head
  case path =>
    refine ⟨fun hmem => ?_, fun hmem => ?_⟩
    · rcases mem_identityPath hmem with hmem | heq
      · exact h.path.1 hmem
      · cases heq
    · rcases mem_identityPath hmem with hmem | heq
      · exact h.path.2 hmem
      · cases heq
  case query => exact fun hmem => (mem_identityQuery hmem).1 rfl
  case safe =>
    intro c hc
    simp only [List.mem_append] at hc
    rcases hc with ((hc | hc) | hc) | hc
    · rw [← Bool.not_eq_true]
      intro hunsafe
      have hnot : c ∉ (UrlSplit.hostinfo parsed.netloc).1 := by
        intro hmem
        rw [hsafe c (.inl (.inl (.inl (hhostinfo c hmem).1)))] at hunsafe
        cases hunsafe
      refine not_mem_identityNetloc
        (UrlSplit.isUnsafe_caseless hunsafe) ?_ ?_ hnot hc
      · rintro rfl
        cases hunsafe
      · unfold UrlSplit.isUnsafe at hunsafe
        simp only [Bool.or_eq_true, decide_eq_true_eq] at hunsafe
        rcases hunsafe with (rfl | rfl) | rfl <;> rfl
    · rcases mem_identityPath hc with hc | rfl
      · exact hsafe c (.inl (.inl (.inr hc)))
      · rfl
    · exact (mem_identityQuery hc).2.1
    · cases hc

/-- The network location of an identity passes the normalisation check. -/
theorem checkNetloc_identityNetloc {scheme : UrlText}
    (h : UrlSplit.checkNetloc netloc = true) :
    UrlSplit.checkNetloc
      (identityNetloc scheme (identityHost final netloc) port) = true := by
  have hforms : UrlSplit.delimiterForms.all
      (fun c => decide (c ≠ ':' ∧ c.isDigit = false)) = true := by decide
  refine List.all_eq_true.mpr fun c hc => decide_eq_true fun hmem => ?_
  obtain ⟨hcolon, hdigit⟩ :=
    of_decide_eq_true (List.all_eq_true.mp hforms c hmem)
  refine not_mem_identityNetloc (UrlSplit.delimiterForms_caseless c hmem)
    hcolon hdigit (fun hhost => ?_) hc
  have hnetloc := ((UrlSplit.hostinfo_host netloc).1 c hhost).1
  exact of_decide_eq_true (List.all_eq_true.mp h c hnetloc) hmem

/-- A bracket of the identity's `netloc` is one of the host. -/
theorem mem_identityNetloc_iff {scheme host : UrlText} {c : Char}
    (hcolon : c ≠ ':') (hdigit : c.isDigit = false) :
    c ∈ identityNetloc scheme host port ↔ c ∈ host := by
  refine ⟨fun h => ?_, fun h => ?_⟩
  · rcases mem_identityNetloc h with h | h | h
    · exact h
    · exact absurd h hcolon
    · rw [hdigit] at h
      cases h
  · unfold identityNetloc
    split
    · exact h
    · split
      · exact h
      · exact List.mem_append_left _ h

/-- The host has no bracket. -/
def Unbracketed (host : UrlText) : Prop := '[' ∉ host ∧ ']' ∉ host

/-- It passes the check of its brackets exactly if the host has none. -/
theorem checkBrackets_identityNetloc_iff {scheme : UrlText} :
    UrlSplit.checkBrackets
        (identityNetloc scheme (identityHost final netloc) port) = true
      ↔ Unbracketed (identityHost final netloc) := by
  have hopen := @mem_identityNetloc_iff port scheme
    (identityHost final netloc) '[' (by decide) (by decide)
  have hclose := @mem_identityNetloc_iff port scheme
    (identityHost final netloc) ']' (by decide) (by decide)
  have hpair : '[' ∉ identityHost final netloc
      ∨ ']' ∉ identityHost final netloc :=
    (UrlSplit.hostinfo_host netloc).2.imp
      (fun hnot h => hnot (mem_of_identityHost (by decide) h))
      (fun hnot h => hnot (mem_of_identityHost (by decide) h))
  unfold Unbracketed
  refine ⟨fun h => ?_, fun h => ?_⟩
  · by_contra hbracket
    rw [UrlSplit.checkBrackets_single] at h
    · cases h
    · rw [hopen, hclose]
      rcases hpair with hnot | hnot
      · exact .inl ⟨hnot, by_contra fun hnot' => hbracket ⟨hnot, hnot'⟩⟩
      · exact .inr ⟨by_contra fun hnot' => hbracket ⟨hnot', hnot⟩, hnot⟩
  · exact UrlSplit.checkBrackets_plain (fun hmem => h.1 (hopen.mp hmem))
      fun hmem => h.2 (hclose.mp hmem)

/-- The parts of an identity come back from it, unless the host has a
bracket. -/
theorem urlsplit_identity (h : urlsplit url = some parsed)
    (hhost : identityHost final parsed.netloc ≠ []) (port : Option Nat) :
    (Unbracketed (identityHost final parsed.netloc) →
      urlsplit (urlunsplit (identityParts parsed
          (identityHost final parsed.netloc) port))
        = some (identityParts parsed (identityHost final parsed.netloc)
            port))
      ∧ (¬ Unbracketed (identityHost final parsed.netloc) →
        urlsplit (urlunsplit (identityParts parsed
          (identityHost final parsed.netloc) port)) = none) := by
  have hwell := UrlSplit.wellFormed_of_urlsplit h (netloc_ne_nil hhost)
  obtain ⟨-, -, -, -, -, -, -, -, -, -, -, -, hforms⟩ :=
    UrlSplit.urlsplit_some h
  have hsplit := UrlSplit.urlsplit_urlunsplit
    (wellFormed_identityParts hwell hhost port)
  have hbrackets := @checkBrackets_identityNetloc_iff final parsed.netloc port
    (casefold parsed.scheme)
  refine ⟨fun hplain => ?_, fun hplain => ?_⟩
  · rw [hsplit]
    exact if_pos ⟨hbrackets.mpr hplain, checkNetloc_identityNetloc hforms⟩
  · rw [hsplit]
    exact if_neg fun hchecks => hplain (hbrackets.mp hchecks.1)

-- =========================================================== the identity

/-- There is a host, and the port is one or none. -/
def HasIdentity (final : UrlText → UrlText → Bool) (netloc : UrlText) :
    Prop :=
  identityHost final netloc ≠ [] ∧ ∃ port, UrlSplit.port netloc = some port

/-- What cannot be split has no identity. -/
theorem normalizeSourceUrl_none (h : urlsplit (strip url) = none) :
    normalizeSourceUrl final url = none := by
  unfold normalizeSourceUrl
  simp only [h]

/-- The identity of a URL with a host and a readable port, by its parts. -/
theorem normalizeSourceUrl_identity (h : urlsplit (strip url) = some parsed)
    (hhost : identityHost final parsed.netloc ≠ [])
    (hport : UrlSplit.port parsed.netloc = some port) :
    normalizeSourceUrl final url
      = some (urlunsplit (identityParts parsed
          (identityHost final parsed.netloc) port)) := by
  unfold normalizeSourceUrl
  simp only [h, hport]
  exact if_neg hhost

/-- Without a host, or with a port that is none, the URL is folded. -/
theorem normalizeSourceUrl_fold (h : urlsplit (strip url) = some parsed)
    (hno : ¬ HasIdentity final parsed.netloc) :
    normalizeSourceUrl final url = some (casefold (strip url)) := by
  unfold normalizeSourceUrl
  simp only [h]
  split
  case isTrue => rfl
  case isFalse hhost =>
    cases hport : UrlSplit.port parsed.netloc with
    | none => rfl
    | some port => exact absurd ⟨hhost, port, hport⟩ hno

/-- The identity of a URL is assembled or folded. -/
theorem normalizeSourceUrl_cases {out : UrlText}
    (h : normalizeSourceUrl final url = some out) :
    ∃ parsed, urlsplit (strip url) = some parsed
      ∧ ((∃ port, identityHost final parsed.netloc ≠ []
          ∧ UrlSplit.port parsed.netloc = some port
          ∧ out = urlunsplit (identityParts parsed
              (identityHost final parsed.netloc) port))
        ∨ ¬ HasIdentity final parsed.netloc
          ∧ out = casefold (strip url)) := by
  cases hsplit : urlsplit (strip url) with
  | none =>
      rw [normalizeSourceUrl_none hsplit] at h
      cases h
  | some parsed =>
      refine ⟨parsed, rfl, ?_⟩
      by_cases hidentity : HasIdentity final parsed.netloc
      · obtain ⟨hhost, port, hport⟩ := hidentity
        rw [normalizeSourceUrl_identity hsplit hhost hport] at h
        exact .inl ⟨port, hhost, hport, (Option.some.inj h).symm⟩
      · rw [normalizeSourceUrl_fold hsplit hidentity] at h
        exact .inr ⟨hidentity, (Option.some.inj h).symm⟩

theorem isC0OrSpace_of_isSpace {c : Char} (h : isSpace c = true)
    (hc : c.toNat < 128) : UrlSplit.isC0OrSpace c = true :=
  @CaseFolding.ascii_forall
    (fun c => isSpace c = true → UrlSplit.isC0OrSpace c = true)
    (by decide +kernel) c hc h

/-- A URL that begins with its scheme or its slashes is stripped at its
end only. -/
theorem strip_prefix {scheme : UrlText} (text : UrlText)
    (h : scheme = [] ∨ UrlSplit.isScheme scheme = true
      ∧ scheme.map Char.toLower = scheme) :
    strip (UrlSplit.schemePrefix scheme ++ '/' :: '/' :: text)
      = UrlSplit.schemePrefix scheme
        ++ '/' :: '/' :: text.rdropWhile isSpace := by
  have hhead : ∀ c, (UrlSplit.schemePrefix scheme
      ++ '/' :: '/' :: text).head? = some c → isSpace c = false := by
    intro c hc
    unfold UrlSplit.schemePrefix at hc
    split at hc
    case isTrue =>
      cases hc
      decide
    case isFalse hne =>
      obtain ⟨-, hall⟩ := UrlSplit.isScheme_all (h.resolve_left hne).1
      cases scheme with
      | nil => exact absurd rfl hne
      | cons d scheme =>
          cases hc
          have hfacts := UrlSplit.schemeChar_facts
            (hall c List.mem_cons_self)
          rw [← Bool.not_eq_true]
          intro hspace
          have hc0 := isC0OrSpace_of_isSpace hspace
            hfacts.2.2.2.2.2.2.2
          rw [hfacts.2.2.2.2.2.1] at hc0
          cases hc0
  have hslash : ('/' :: text).rdropWhile isSpace
      = '/' :: text.rdropWhile isSpace :=
    Trim.rdropWhile_append_cons [] (by decide) text
  rw [strip_eq]
  unfold Trim.trim
  rw [Trim.dropWhile_eq_self hhead,
    Trim.rdropWhile_append_cons _ (by decide), hslash]

/-- A path that is there does not grow. -/
theorem length_identityPath {path : UrlText} (h : path ≠ []) :
    (identityPath path).length ≤ path.length := by
  rcases identityPath_eq path with ⟨hpath, hnil | hslash⟩ | hpath
  · exact absurd hnil h
  · rw [hpath, hslash]
  · rw [hpath]
    exact (List.rdropWhile_prefix _ path).length_le

/-- The last character is white space. -/
def EndsInSpace (text : UrlText) : Prop :=
  ∃ c, text.getLast? = some c ∧ isSpace c = true

theorem rdropWhile_eq_self_iff :
    text.rdropWhile isSpace = text ↔ ¬ EndsInSpace text := by
  refine ⟨?_, fun h => ?_⟩
  · rintro h ⟨c, hc, hspace⟩
    rw [← h] at hc
    rw [Trim.last_rdropWhile hc] at hspace
    cases hspace
  · refine Trim.rdropWhile_eq_self fun c hc => ?_
    rw [← Bool.not_eq_true]
    exact fun hspace => h ⟨c, hc, hspace⟩

/-- Parts without white space in the query have nothing to strip unless
they end before it. -/
theorem strip_urlunsplit_iff (h : WellFormed parts)
    (hfragment : parts.fragment = [])
    (hquery : ∀ c ∈ parts.query, isSpace c = false) :
    strip (urlunsplit parts) = urlunsplit parts
      ↔ (parts.query = [] → ¬ EndsInSpace (parts.netloc ++ parts.path)) := by
  have htext : parts.netloc ++ (parts.path
      ++ UrlSplit.behind '?' parts.query ++ UrlSplit.behind '#' [])
      = parts.netloc ++ parts.path ++ UrlSplit.behind '?' parts.query := by
    show parts.netloc ++ (parts.path ++ UrlSplit.behind '?' parts.query
      ++ []) = _
    rw [List.append_nil, List.append_assoc]
  rw [UrlSplit.urlunsplit_eq h, hfragment, htext, strip_prefix _ h.scheme,
    List.append_cancel_left_eq, List.cons.injEq, List.cons.injEq]
  simp only [true_and, rdropWhile_eq_self_iff]
  by_cases hq : parts.query = []
  · rw [hq]
    show ¬ EndsInSpace (parts.netloc ++ parts.path ++ []) ↔ _
    rw [List.append_nil]
    exact ⟨fun hends _ => hends, fun hends => hends rfl⟩
  · refine ⟨fun _ hnil => absurd hnil hq, fun _ => ?_⟩
    rintro ⟨c, hc, hspace⟩
    have hbehind : UrlSplit.behind '?' parts.query
        = ['?'] ++ parts.query := if_neg hq
    rw [hbehind, ← List.append_assoc,
      List.getLast?_append_of_ne_nil _ hq] at hc
    rw [hquery c (List.mem_of_getLast? hc)] at hspace
    cases hspace

/-- A text that is cut loses as much behind its head, if anything is left
there. -/
theorem length_dropWhile_of_prefix {p : Char → Bool} {text cut : UrlText}
    (h : cut <+: text) (hne : cut.dropWhile p ≠ []) :
    (text.dropWhile p).length + cut.length
      = (cut.dropWhile p).length + text.length := by
  obtain ⟨rest, rfl⟩ := h
  have hdrop : (cut ++ rest).dropWhile p = cut.dropWhile p ++ rest := by
    rw [List.dropWhile_append, if_neg]
    rw [List.isEmpty_iff]
    exact hne
  rw [hdrop, List.length_append, List.length_append]
  omega

/-- The path of a stripped URL without query is no identity's path if more
was stripped. -/
theorem not_endsInSpace_of_path (h : WellFormed parts)
    (hfragment : parts.fragment = []) (hquery : parts.query = [])
    (hsplit : urlsplit (strip (urlunsplit parts)) = some parsed)
    (hpath : parts.path = identityPath parsed.path) :
    ¬ EndsInSpace (parts.netloc ++ parts.path) := by
  have hmem : ∀ c ∈ parts.netloc ++ parts.path,
      UrlSplit.isUnsafe c = false ∧ c ≠ '?' ∧ c ≠ '#' := by
    intro c hc
    have hsafe := h.safe c
      (List.mem_append_left _ (List.mem_append_left _ hc))
    rcases List.mem_append.mp hc with hc | hc
    · have hdelimiter := h.netloc c hc
      refine ⟨hsafe, ?_, ?_⟩ <;> rintro rfl <;> cases hdelimiter
    · refine ⟨hsafe, ?_, ?_⟩
      · rintro rfl
        exact h.path.1 hc
      · rintro rfl
        exact h.path.2 hc
  have hurl : urlunsplit parts = UrlSplit.schemePrefix parts.scheme
      ++ '/' :: '/' :: (parts.netloc ++ parts.path) := by
    have htext : parts.path ++ UrlSplit.behind '?' []
        ++ UrlSplit.behind '#' [] = parts.path :=
      (List.append_nil _).trans (List.append_nil _)
    rw [UrlSplit.urlunsplit_eq h, hfragment, hquery, htext]
  have hdrop : (parts.netloc ++ parts.path).dropWhile
      (!UrlSplit.isDelimiter ·) = parts.path := by
    refine (UrlSplit.span_append (fun c hc => ?_) fun c hc => ?_).2
    · rw [h.netloc c hc]
      rfl
    · rw [h.path_head c hc]
      rfl
  rw [hurl, strip_prefix _ h.scheme] at hsplit
  generalize htext : parts.netloc ++ parts.path = text at *
  have hpre : text.rdropWhile isSpace <+: text :=
    List.rdropWhile_prefix isSpace text
  -- Stripping cuts the path, and a path that is cut would be shorter than
  -- its identity.
  have hcut := UrlSplit.urlsplit_path h.scheme
    (fun c hc => (hmem c (hpre.sublist.mem hc)).1)
    ⟨fun hc => (hmem _ (hpre.sublist.mem hc)).2.1 rfl,
      fun hc => (hmem _ (hpre.sublist.mem hc)).2.2 rfl⟩ hsplit
  by_cases hnil : parsed.path = []
  · rintro ⟨c, hc, hspace⟩
    rw [hnil] at hpath
    have hlast : (parts.netloc ++ identityPath []).getLast? = some '/' :=
      List.getLast?_concat
    rw [← htext, hpath, hlast] at hc
    cases hc
    cases hspace
  · have hlength := length_dropWhile_of_prefix hpre (hcut ▸ hnil)
    have hle := length_identityPath hnil
    rw [← hpath] at hle
    rw [hdrop, ← hcut] at hlength
    exact rdropWhile_eq_self_iff.mp (hpre.eq_of_length_le (by omega))

/-- What is its own identity has nothing to strip. -/
theorem strip_eq_of_identity (h : normalizeSourceUrl final url = some url) :
    strip url = url := by
  obtain ⟨parsed, hsplit, ⟨port, hhost, -, hout⟩ | ⟨-, hout⟩⟩ :=
    normalizeSourceUrl_cases h
  · have hwell := wellFormed_identityParts
      (UrlSplit.wellFormed_of_urlsplit hsplit (netloc_ne_nil hhost)) hhost
      port
    rw [hout] at hsplit
    rw [hout, strip_urlunsplit_iff hwell rfl
      fun c hc => (mem_identityQuery hc).2.2]
    exact fun hquery => not_endsInSpace_of_path hwell rfl hquery hsplit rfl
  · rw [hout, strip_casefold_strip]

end DeepResearch.Source
