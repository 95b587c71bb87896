/-
When the identity of an identity is that identity: the condition
(`Settled`), and a URL that is its own identity. One with a host and a port
is in normal form (`identity_iff_normalForm`). A folded one is folded
again, unless the folding made a scheme (`folded_iff`).
-/
import DeepResearch.Source.Proofs.Identity

namespace DeepResearch.Source

open CaseFolding (casefold)
open DeepResearch.Run (strip)
open UrlSplit (SplitResult urlsplit urlunsplit partition readPort)

variable {final : UrlText → UrlText → Bool} {parsed parts : SplitResult}
  {url text netloc scheme host name rest : UrlText} {port : Option Nat}

-- ================================================== statement vocabulary

/-- The URL is assembled from parts that are written as an identity's: the
host and the port, a path without trailing slashes, the sorted query of its
pairs, and no fragment. -/
structure NormalForm (final : UrlText → UrlText → Bool) (url : UrlText)
    (parts : SplitResult) (port : Option Nat) : Prop where
  assembled : urlunsplit parts = url
  scheme : parts.scheme ≠ "http".toList
  netloc : identityNetloc parts.scheme (identityHost final parts.netloc) port
    = parts.netloc
  path : parts.path = ['/']
    ∨ parts.path ≠ [] ∧ parts.path.getLast? ≠ some '/'
  query : ∃ pairs : List (UrlText × UrlText), pairs.Pairwise pairLe
    ∧ (∀ pair ∈ pairs, isTracking pair.1 = false)
    ∧ FormCoding.urlencode pairs = parts.query
  fragment : parts.fragment = []

/-- More than one slash and nothing else: no path is left. -/
def PathLost (path : UrlText) : Prop :=
  path ≠ [] ∧ path ≠ ['/'] ∧ ∀ c ∈ path, c = '/'

/-- Something is left of the path, and it does not end in white space
where the URL ends. -/
def PathSettled (parsed : SplitResult) : Prop :=
  ¬ PathLost parsed.path
    ∧ (queryPairs parsed.query = [] →
      ¬ EndsInSpace (parsed.path.rdropWhile (· = '/')))

/-- The port is not written. -/
def PortDropped (scheme : UrlText) (port : Option Nat) : Prop :=
  ∀ n, port = some n → isDefaultPort scheme n = true

/-- A host with a colon, which comes out of brackets, is a host and a port
without them. -/
def ReadAgain (scheme name rest : UrlText) (port : Option Nat) : Prop :=
  name.rdropWhile (· = '.') ≠ [] ∧ PortDropped scheme port
    ∧ (rest = [] ∨ ∃ n, readPort rest = some n)

/-- The host and the port that come out of the brackets are written as an
identity writes them. -/
def RereadSettled (parsed : SplitResult) (name rest : UrlText) : Prop :=
  name.rdropWhile (· = '.') = name
    ∧ (∃ n, readPort rest = some n ∧ Nat.toDigits 10 n = rest
      ∧ ¬ (identityScheme parsed.scheme = "https".toList ∧ n = 443))
    ∧ PathSettled parsed

/-- Folding changes nothing of what is assembled, and there is nothing to
strip. -/
def FoldSettled (parsed : SplitResult) (host : UrlText)
    (port : Option Nat) : Prop :=
  casefold parsed.path = parsed.path
    ∧ (∀ pair ∈ queryPairs parsed.query,
      casefold (FormCoding.writePair pair) = FormCoding.writePair pair)
    ∧ (queryPairs parsed.query = [] →
      ¬ EndsInSpace (parsed.path.rdropWhile (· = '/'))
        ∧ (PathLost parsed.path → PortDropped parsed.scheme port →
          ¬ EndsInSpace host))

/-- An assembled identity is its own identity. -/
def AssembledSettled (parsed : SplitResult) (host : UrlText)
    (port : Option Nat) : Prop :=
  Unbracketed host
    ∧ match partition ':' host with
      | (_, none) =>
          ¬ (parsed.scheme = "http".toList ∧ port = some 443)
            ∧ PathSettled parsed
      | (name, some rest) =>
          (ReadAgain parsed.scheme name rest port →
            RereadSettled parsed name rest)
          ∧ (¬ ReadAgain parsed.scheme name rest port →
            FoldSettled parsed host port)

/-- A folded URL is its own identity. -/
def FoldedSettled (final : UrlText → UrlText → Bool) (value : UrlText) :
    Prop :=
  UrlSplit.MakesScheme value →
    ∃ parts, urlsplit (casefold value) = some parts
      ∧ ∀ port, identityHost final parts.netloc ≠ [] →
        UrlSplit.port parts.netloc = some port →
        NormalForm final (casefold value) parts port

/-- The identity of the URL is its own identity. -/
def Settled (final : UrlText → UrlText → Bool) (url : UrlText) : Prop :=
  ∃ parsed, urlsplit (strip url) = some parsed
    ∧ (∀ port, identityHost final parsed.netloc ≠ [] →
      UrlSplit.port parsed.netloc = some port →
      AssembledSettled parsed (identityHost final parsed.netloc) port)
    ∧ (¬ HasIdentity final parsed.netloc → FoldedSettled final (strip url))

-- ============================================================ fixed points

theorem identityScheme_identityScheme (scheme : UrlText) :
    identityScheme (identityScheme scheme) = identityScheme scheme
      ∧ identityScheme scheme ≠ "http".toList := by
  unfold identityScheme
  split
  case isTrue => exact ⟨by decide, by decide⟩
  case isFalse h => exact ⟨rfl, fun heq => h (.inl heq)⟩

theorem identityPath_eq_self_iff {path : UrlText} :
    identityPath path = path
      ↔ path = ['/'] ∨ path ≠ [] ∧ path.getLast? ≠ some '/' := by
  refine ⟨fun h => ?_, ?_⟩
  · have hne : path ≠ [] := by
      rintro rfl
      cases h
    by_cases hslash : path = ['/']
    · exact .inl hslash
    · refine .inr ⟨hne, fun hlast => ?_⟩
      rcases identityPath_eq path with ⟨-, hnil | hslash'⟩ | hpath
      · exact hne hnil
      · exact hslash hslash'
      · rw [h] at hpath
        rw [hpath] at hlast
        have hkept := Trim.last_rdropWhile hlast
        cases hkept
  · rintro (rfl | ⟨hne, hlast⟩)
    · rfl
    · rcases identityPath_eq path with ⟨hpath, hnil | hslash⟩ | hpath
      · exact absurd hnil hne
      · rw [hpath, hslash]
      · rw [hpath]
        refine Trim.rdropWhile_eq_self fun c hc => decide_eq_false ?_
        rintro rfl
        exact hlast hc

theorem identityPath_ne_nil_iff {path : UrlText} :
    identityPath path ≠ [] ↔ ¬ PathLost path := by
  rcases identityPath_eq path with ⟨hpath, hshort⟩ | hpath
  · rw [hpath]
    refine ⟨fun _ hlost => ?_, fun _ => List.cons_ne_nil _ _⟩
    rcases hshort with hnil | hslash
    · exact hlost.1 hnil
    · exact hlost.2.1 hslash
  · rw [hpath, Ne, List.rdropWhile_eq_nil_iff]
    simp only [decide_eq_true_eq]
    refine ⟨fun hsome hlost => hsome hlost.2.2, fun hkept hall => ?_⟩
    refine hkept ⟨?_, ?_, hall⟩
    · rintro rfl
      cases hpath
    · rintro rfl
      cases hpath

/-- What is left of a path does not end in a slash, but for the root. -/
theorem identityPath_identityPath (path : UrlText) :
    identityPath (identityPath path) = identityPath path
      ↔ identityPath path ≠ [] := by
  refine ⟨?_, fun hne => ?_⟩
  · intro h hnil
    rw [hnil] at h
    cases h
  · rw [identityPath_eq_self_iff]
    rcases identityPath_eq path with ⟨hpath, -⟩ | hpath
    · exact .inl hpath
    · refine .inr ⟨hne, fun hlast => ?_⟩
      rw [hpath] at hlast
      have hkept := Trim.last_rdropWhile hlast
      cases hkept

instance : Std.Total pairLe :=
  ⟨fun a b => le_total (toLex a) (toLex b)⟩

instance : IsTrans (UrlText × UrlText) pairLe :=
  ⟨fun _ _ _ => le_trans⟩

/-- A query of an identity: sorted pairs without tracking keys. -/
theorem identityQuery_written (query : UrlText) :
    ∃ pairs : List (UrlText × UrlText), pairs.Pairwise pairLe
      ∧ (∀ pair ∈ pairs, isTracking pair.1 = false)
      ∧ FormCoding.urlencode pairs = identityQuery query := by
  refine ⟨(queryPairs query).insertionSort pairLe,
    List.pairwise_insertionSort _ _, fun pair hpair => ?_, rfl⟩
  rw [List.mem_insertionSort] at hpair
  rw [← Bool.not_eq_true']
  exact (List.mem_filter.mp hpair).2

theorem identityQuery_eq_self_iff {query : UrlText} :
    identityQuery query = query
      ↔ ∃ pairs : List (UrlText × UrlText), pairs.Pairwise pairLe
        ∧ (∀ pair ∈ pairs, isTracking pair.1 = false)
        ∧ FormCoding.urlencode pairs = query := by
  refine ⟨fun h => ?_, ?_⟩
  · have hwritten := identityQuery_written query
    rw [h] at hwritten
    exact hwritten
  · rintro ⟨pairs, hsorted, hkept, rfl⟩
    have hpairs : queryPairs (FormCoding.urlencode pairs) = pairs := by
      unfold queryPairs
      rw [FormCoding.parseQsl_urlencode]
      refine List.filter_eq_self.mpr fun pair hpair => ?_
      rw [hkept pair hpair]
      rfl
    unfold identityQuery
    rw [hpairs, hsorted.insertionSort_eq]

theorem identityQuery_identityQuery (query : UrlText) :
    identityQuery (identityQuery query) = identityQuery query :=
  identityQuery_eq_self_iff.mpr (identityQuery_written query)

theorem identityQuery_eq_nil_iff (query : UrlText) :
    identityQuery query = [] ↔ queryPairs query = [] := by
  unfold identityQuery
  rw [FormCoding.urlencode_eq_nil_iff, ← List.length_eq_zero_iff,
    List.length_insertionSort, List.length_eq_zero_iff]

-- ======================================================== its own identity

/-- A stripped URL with a host and a port is its own identity just when it
is in normal form. -/
theorem identity_iff_normalForm (hstrip : strip url = url)
    (h : urlsplit url = some parts)
    (hhost : identityHost final parts.netloc ≠ [])
    (hport : UrlSplit.port parts.netloc = some port) :
    normalizeSourceUrl final url = some url
      ↔ NormalForm final url parts port := by
  have hwell := UrlSplit.wellFormed_of_urlsplit h (netloc_ne_nil hhost)
  have hscheme := casefold_scheme hwell
  have hidentity : normalizeSourceUrl final url
      = some (urlunsplit (identityParts parts
          (identityHost final parts.netloc) port)) :=
    normalizeSourceUrl_identity (by rw [hstrip]; exact h) hhost hport
  refine ⟨fun hself => ?_, fun hnormal => ?_⟩
  · rw [hidentity] at hself
    have hout := Option.some.inj hself
    obtain ⟨hplain, hbracket⟩ := urlsplit_identity h hhost port
    rw [hout] at hplain hbracket
    -- A host with a bracket would not be split again.
    have hunbracketed : Unbracketed (identityHost final parts.netloc) := by
      by_contra hnot
      rw [hbracket hnot] at h
      cases h
    have hparts : identityParts parts (identityHost final parts.netloc) port
        = parts := by
      rw [hplain hunbracketed] at h
      exact Option.some.inj h
    -- The parts agree, and so does each field.
    have hfields : identityScheme (casefold parts.scheme) = parts.scheme
        ∧ identityNetloc (casefold parts.scheme)
            (identityHost final parts.netloc) port = parts.netloc
        ∧ identityPath parts.path = parts.path
        ∧ identityQuery parts.query = parts.query
        ∧ [] = parts.fragment := by
      unfold identityParts at hparts
      exact ⟨congrArg SplitResult.scheme hparts,
        congrArg SplitResult.netloc hparts, congrArg SplitResult.path hparts,
        congrArg SplitResult.query hparts,
        congrArg SplitResult.fragment hparts⟩
    rw [hscheme] at hfields
    obtain ⟨hs, hn, hp, hq, hf⟩ := hfields
    rw [hparts] at hout
    refine ⟨hout, ?_, hn, identityPath_eq_self_iff.mp hp,
      identityQuery_eq_self_iff.mp hq, hf.symm⟩
    · rw [← hs]
      exact (identityScheme_identityScheme _).2
  · have hs : identityScheme parts.scheme = parts.scheme := by
      unfold identityScheme
      split
      case isTrue hweb => exact (hweb.resolve_left hnormal.scheme).symm
      case isFalse => rfl
    have hparts : identityParts parts (identityHost final parts.netloc) port
        = parts := by
      unfold identityParts
      simp only
      rw [hscheme, hs, hnormal.netloc,
        identityPath_eq_self_iff.mpr hnormal.path,
        identityQuery_eq_self_iff.mpr hnormal.query, ← hnormal.fragment]
    rw [hidentity, hparts, hnormal.assembled]

/-- A URL that is not assembled is its own identity just when it is stripped
and folded. -/
theorem identity_iff_folded (hstrip : strip url = url)
    (h : urlsplit url = some parts)
    (hno : ¬ HasIdentity final parts.netloc) :
    normalizeSourceUrl final url = some url ↔ casefold url = url := by
  rw [normalizeSourceUrl_fold (by rw [hstrip]; exact h) hno, hstrip,
    Option.some.injEq]

-- ========================================================= a folded text

/-- A URL that was folded is its own identity, but for a scheme that the
folding makes. -/
theorem folded_iff (h : urlsplit (strip url) = some parsed)
    (hno : ¬ HasIdentity final parsed.netloc) :
    normalizeSourceUrl final (casefold (strip url))
        = some (casefold (strip url))
      ↔ FoldedSettled final (strip url) := by
  have hstrip := strip_casefold_strip url
  have hfold : casefold (casefold (strip url)) = casefold (strip url) :=
    CaseFolding.casefold_casefold _
  by_cases hscheme : UrlSplit.MakesScheme (strip url)
  · unfold FoldedSettled
    simp only [hscheme, true_implies]
    refine ⟨fun hself => ?_, ?_⟩
    · obtain ⟨parts, hsplit, -⟩ := normalizeSourceUrl_cases hself
      rw [hstrip] at hsplit
      refine ⟨parts, hsplit, fun port hhost hport => ?_⟩
      exact (identity_iff_normalForm hstrip hsplit hhost hport).mp hself
    · rintro ⟨parts, hsplit, hnormal⟩
      by_cases hidentity : HasIdentity final parts.netloc
      · obtain ⟨hhost, port, hport⟩ := hidentity
        exact (identity_iff_normalForm hstrip hsplit hhost hport).mpr
          (hnormal port hhost hport)
      · exact (identity_iff_folded hstrip hsplit hidentity).mpr hfold
  · have hsplit := UrlSplit.urlsplit_casefold h hscheme
    have hno' : ¬ HasIdentity final parsed.casefold.netloc := by
      rintro ⟨hhost, port, hport⟩
      refine hno ⟨?_, port, ?_⟩
      · rw [identityHost_eq] at hhost ⊢
        have hnetloc : parsed.casefold.netloc = casefold parsed.netloc := rfl
        rw [hnetloc, UrlSplit.hostinfo_casefold,
          CaseFolding.casefold_casefold] at hhost
        exact hhost
      · rw [← UrlSplit.port_casefold]
        exact hport
    refine ⟨fun _ hmakes => absurd hmakes hscheme, fun _ => ?_⟩
    exact (identity_iff_folded hstrip hsplit hno').mpr hfold

end DeepResearch.Source
