/-
What comes back of a URL.

What `urlsplit` yields is `WellFormed`, and what is well formed comes back
from the URL it is put together to (`urlsplit_urlunsplit`). A URL that is
folded splits into the folded parts, unless folding makes a scheme
(`urlsplit_casefold`), and has the same port and the folded host.
-/
import DeepResearch.Lib.UrlSplit

namespace UrlSplit

open CaseFolding (casefold Caseless)
open IpAddress (isHexDigit)

-- ============================================================= well formed

/-- What the parts of a URL with a `netloc` are like. -/
structure WellFormed (parts : SplitResult) : Prop where
  scheme : parts.scheme = [] ∨ isScheme parts.scheme = true
    ∧ parts.scheme.map Char.toLower = parts.scheme
  netloc_ne_nil : parts.netloc ≠ []
  netloc : ∀ c ∈ parts.netloc, isDelimiter c = false
  path_head : ∀ c, parts.path.head? = some c → c = '/'
  path : '?' ∉ parts.path ∧ '#' ∉ parts.path
  query : '#' ∉ parts.query
  safe : ∀ c ∈ parts.netloc ++ parts.path ++ parts.query ++ parts.fragment,
    isUnsafe c = false

/-- The steps that take a URL apart. -/
theorem urlsplit_eq {url scheme rest netloc tail before path : List Char}
    {fragment query : Option (List Char)}
    (hscheme : splitScheme (clean url) = (scheme, rest))
    (hnetloc : splitNetloc rest = (netloc, tail))
    (hfragment : partition '#' tail = (before, fragment))
    (hquery : partition '?' before = (path, query)) :
    urlsplit url
      = if checkBrackets netloc = true ∧ checkNetloc netloc = true then
          some ⟨scheme, netloc, path, query.getD [], fragment.getD []⟩
        else none := by
  unfold urlsplit
  simp only [hscheme, hnetloc, hfragment, hquery]
  cases checkBrackets netloc <;> cases checkNetloc netloc <;> rfl

/-- What a split does, stage by stage. -/
theorem urlsplit_some {url : List Char} {parts : SplitResult}
    (h : urlsplit url = some parts) :
    ∃ rest tail before fragment query,
      splitScheme (clean url) = (parts.scheme, rest)
      ∧ splitNetloc rest = (parts.netloc, tail)
      ∧ partition '#' tail = (before, fragment)
      ∧ partition '?' before = (parts.path, query)
      ∧ parts.query = query.getD [] ∧ parts.fragment = fragment.getD []
      ∧ checkBrackets parts.netloc = true
      ∧ checkNetloc parts.netloc = true := by
  rcases hscheme : splitScheme (clean url) with ⟨scheme, rest⟩
  rcases hnetloc : splitNetloc rest with ⟨netloc, tail⟩
  rcases hfragment : partition '#' tail with ⟨before, fragment⟩
  rcases hquery : partition '?' before with ⟨path, query⟩
  rw [urlsplit_eq hscheme hnetloc hfragment hquery] at h
  split at h
  case isTrue hchecks =>
    cases h
    exact ⟨rest, tail, before, fragment, query, rfl, hnetloc, hfragment,
      hquery, rfl, rfl, hchecks.1, hchecks.2⟩
  case isFalse => cases h

/-- A partition adds no character. -/
theorem mem_of_partition {sep : Char} {text left : List Char}
    {right : Option (List Char)} (h : partition sep text = (left, right)) :
    (∀ c ∈ left, c ∈ text) ∧ ∀ c ∈ right.getD [], c ∈ text := by
  cases right with
  | none =>
      obtain ⟨rfl, -⟩ := partition_eq_none h
      exact ⟨fun c hc => hc, nofun⟩
  | some right =>
      obtain ⟨rfl, -⟩ := partition_eq_some h
      exact ⟨fun c hc => List.mem_append_left _ hc, fun c hc =>
        List.mem_append_right _ (List.mem_cons_of_mem _ hc)⟩

/-- The left part ends before the separator and begins where the text does.
-/
theorem not_mem_of_partition {sep : Char} {text left : List Char}
    {right : Option (List Char)} (h : partition sep text = (left, right)) :
    sep ∉ left ∧ ∀ c, left.head? = some c → text.head? = some c := by
  cases right with
  | none =>
      obtain ⟨rfl, hnot⟩ := partition_eq_none h
      exact ⟨hnot, fun c hc => hc⟩
  | some right =>
      obtain ⟨rfl, hnot⟩ := partition_eq_some h
      refine ⟨hnot, fun c hc => ?_⟩
      rw [List.head?_append, hc]
      rfl

/-- What `urlsplit` yields is well formed, if it has a `netloc`. -/
theorem wellFormed_of_urlsplit {url : List Char} {parts : SplitResult}
    (h : urlsplit url = some parts) (hne : parts.netloc ≠ []) :
    WellFormed parts := by
  obtain ⟨rest, tail, before, fragment, query, hscheme, hnetloc, hfragment,
    hquery, hq, hf, -, -⟩ := urlsplit_some h
  -- What is behind the scheme.
  have hrest : (parts.scheme = [] ∨ isScheme parts.scheme = true
      ∧ parts.scheme.map Char.toLower = parts.scheme)
      ∧ ∀ c ∈ rest, c ∈ clean url := by
    rcases splitScheme_cases (clean url) with
      hcut | ⟨name, rest', hurl, hname, hcut⟩
    · rw [hscheme] at hcut
      obtain ⟨hs, hr⟩ := Prod.mk.inj hcut
      exact ⟨.inl hs, fun c hc => hr ▸ hc⟩
    · rw [hscheme] at hcut
      obtain ⟨hs, rfl⟩ := Prod.mk.inj hcut
      rw [hs]
      refine ⟨.inr (isScheme_lower hname).2, fun c hc => ?_⟩
      rw [hurl]
      exact List.mem_append_right _ (List.mem_cons_of_mem _ hc)
  rcases splitNetloc_cases rest with
    hcut | ⟨netloc, tail', hurl, hall, hhead, hcut⟩
  · rw [hnetloc] at hcut
    exact absurd (Prod.mk.inj hcut).1 hne
  · rw [hnetloc] at hcut
    obtain ⟨hn, rfl⟩ := Prod.mk.inj hcut
    rw [← hn] at hall hurl
    have hbefore := mem_of_partition hfragment
    have hpath := mem_of_partition hquery
    have hmem : ∀ c, c ∈ parts.netloc ∨ c ∈ tail → c ∈ clean url := by
      intro c hc
      refine hrest.2 c ?_
      rw [hurl]
      exact List.mem_cons_of_mem _ (List.mem_cons_of_mem _
        (List.mem_append.mpr hc))
    refine ⟨hrest.1, hne, hall, ?_, ?_, ?_, ?_⟩
    · intro c hc
      -- The path begins where the network location ended: at a delimiter.
      have hdelimiter := hhead c ((not_mem_of_partition hfragment).2 c
        ((not_mem_of_partition hquery).2 c hc))
      have hquestion : c ≠ '?' := by
        rintro rfl
        exact (not_mem_of_partition hquery).1 (List.mem_of_head? hc)
      have hhash : c ≠ '#' := by
        rintro rfl
        exact (not_mem_of_partition hfragment).1
          (hpath.1 _ (List.mem_of_head? hc))
      unfold isDelimiter at hdelimiter
      simpa [hquestion, hhash] using hdelimiter
    · exact ⟨(not_mem_of_partition hquery).1, fun hmem =>
        (not_mem_of_partition hfragment).1 (hpath.1 _ hmem)⟩
    · rw [hq]
      exact fun hmem => (not_mem_of_partition hfragment).1 (hpath.2 _ hmem)
    · intro c hc
      rw [hq, hf, List.mem_append, List.mem_append, List.mem_append] at hc
      refine isUnsafe_of_mem_clean (hmem c ?_)
      rcases hc with ((hc | hc) | hc) | hc
      · exact .inl hc
      · exact .inr (hbefore.1 c (hpath.1 c hc))
      · exact .inr (hbefore.1 c (hpath.2 c hc))
      · exact .inr (hbefore.2 c hc)

/-- A part that is left out, with its mark, where it is empty. -/
def behind (mark : Char) (text : List Char) : List Char :=
  if text = [] then [] else mark :: text

/-- Behind a left part without the separator the partition finds it. -/
theorem partition_behind {sep : Char} {left : List Char} (h : sep ∉ left)
    (text : List Char) :
    ∃ right, partition sep (left ++ behind sep text) = (left, right)
      ∧ right.getD [] = text := by
  unfold behind
  split
  case isTrue hnil =>
    rw [List.append_nil, partition_of_not_mem h, hnil]
    exact ⟨none, rfl, rfl⟩
  case isFalse => exact ⟨some text, partition_append h text, rfl⟩

/-- The scheme as it is written. -/
def schemePrefix (scheme : List Char) : List Char :=
  if scheme = [] then [] else scheme ++ [':']

/-- How well-formed parts are put together. -/
theorem urlunsplit_eq {parts : SplitResult} (h : WellFormed parts) :
    urlunsplit parts
      = schemePrefix parts.scheme ++ '/' :: '/' :: (parts.netloc
        ++ (parts.path ++ behind '?' parts.query
          ++ behind '#' parts.fragment)) := by
  have hslash : ¬ (parts.path ≠ [] ∧ parts.path.take 1 ≠ ['/']) := by
    rintro ⟨hne, hhead⟩
    cases hpath : parts.path with
    | nil => exact hne hpath
    | cons c path =>
        have hc := h.path_head c (by rw [hpath]; rfl)
        rw [hpath, hc] at hhead
        exact hhead rfl
  unfold urlunsplit schemePrefix behind
  simp only [h.netloc_ne_nil, ne_eq, not_false_eq_true, true_or, if_true,
    if_neg hslash]
  by_cases hscheme : parts.scheme = [] <;> by_cases hquery : parts.query = []
    <;> by_cases hfragment : parts.fragment = [] <;>
    simp [hscheme, hquery, hfragment]

theorem mem_behind {mark : Char} {text : List Char} {c : Char}
    (h : c ∈ behind mark text) : c = mark ∨ c ∈ text := by
  unfold behind at h
  split at h
  · cases h
  · exact List.mem_cons.mp h

theorem head_behind {mark : Char} {text : List Char} {c : Char}
    (h : (behind mark text).head? = some c) : c = mark := by
  unfold behind at h
  split at h
  · cases h
  · rw [List.head?_cons] at h
    exact (Option.some.inj h).symm

/-- A written scheme has nothing that cleaning takes away. -/
theorem schemePrefix_facts {scheme : List Char}
    (h : scheme = [] ∨ isScheme scheme = true
      ∧ scheme.map Char.toLower = scheme) :
    ∀ c ∈ schemePrefix scheme, isUnsafe c = false ∧ isC0OrSpace c = false := by
  unfold schemePrefix
  split
  case isTrue => nofun
  case isFalse hne =>
    have hscheme := (h.resolve_left hne).1
    intro c hc
    rcases List.mem_append.mp hc with hc | hc
    · have hfacts := schemeChar_facts ((isScheme_all hscheme).2 c hc)
      exact ⟨hfacts.2.2.2.2.1, hfacts.2.2.2.2.2.1⟩
    · rw [List.mem_singleton.mp hc]
      decide

/-- The first character stays, and there is none to remove. -/
theorem clean_schemePrefix {scheme rest : List Char}
    (h : scheme = [] ∨ isScheme scheme = true
      ∧ scheme.map Char.toLower = scheme)
    (hsafe : ∀ c ∈ rest, isUnsafe c = false) :
    clean (schemePrefix scheme ++ '/' :: rest)
      = schemePrefix scheme ++ '/' :: rest := by
  refine clean_eq_self ?_ ?_
  · intro c hc
    rw [List.head?_append] at hc
    cases hpre : (schemePrefix scheme).head? with
    | none =>
        rw [hpre] at hc
        cases hc
        decide
    | some d =>
        rw [hpre] at hc
        cases hc
        exact (schemePrefix_facts h _ (List.mem_of_head? hpre)).2
  · intro c hc
    rcases List.mem_append.mp hc with hc | hc
    · exact (schemePrefix_facts h c hc).1
    · rcases List.mem_cons.mp hc with rfl | hc
      · decide
      · exact hsafe c hc

/-- What is written from well formed parts is clean. -/
theorem clean_urlunsplit {parts : SplitResult} (h : WellFormed parts) :
    clean (urlunsplit parts) = urlunsplit parts := by
  have hsafe := h.safe
  simp only [List.mem_append] at hsafe
  rw [urlunsplit_eq h]
  refine clean_schemePrefix h.scheme fun c hc => ?_
  simp only [List.mem_cons, List.mem_append] at hc
  rcases hc with rfl | hc | (hc | hc) | hc
  · decide
  · exact hsafe c (.inl (.inl (.inl hc)))
  · exact hsafe c (.inl (.inl (.inr hc)))
  · rcases mem_behind hc with rfl | hc
    · decide
    · exact hsafe c (.inl (.inr hc))
  · rcases mem_behind hc with rfl | hc
    · decide
    · exact hsafe c (.inr hc)

/-- A written scheme is read back. -/
theorem splitScheme_prefix {scheme : List Char}
    (h : scheme = [] ∨ isScheme scheme = true
      ∧ scheme.map Char.toLower = scheme) (rest : List Char) :
    splitScheme (schemePrefix scheme ++ '/' :: rest)
      = (scheme, '/' :: rest) := by
  unfold schemePrefix
  split
  case isTrue hnil =>
    rw [List.nil_append, splitScheme_slash, hnil]
  case isFalse hne =>
    obtain ⟨hscheme, hlower⟩ := h.resolve_left hne
    rw [List.append_assoc, List.singleton_append,
      splitScheme_append hscheme, hlower]

/-- The path of a URL without query and fragment. -/
theorem urlsplit_path {scheme text : List Char} {parts : SplitResult}
    (hscheme : scheme = [] ∨ isScheme scheme = true
      ∧ scheme.map Char.toLower = scheme)
    (hsafe : ∀ c ∈ text, isUnsafe c = false)
    (hmarks : '?' ∉ text ∧ '#' ∉ text)
    (h : urlsplit (schemePrefix scheme ++ '/' :: '/' :: text) = some parts) :
    parts.path = text.dropWhile (!isDelimiter ·) := by
  have hsafe' : ∀ c ∈ '/' :: text, isUnsafe c = false := by
    intro c hc
    rcases List.mem_cons.mp hc with rfl | hc
    · decide
    · exact hsafe c hc
  have hs : splitScheme (clean (schemePrefix scheme ++ '/' :: '/' :: text))
      = (scheme, '/' :: '/' :: text) := by
    rw [clean_schemePrefix hscheme hsafe']
    exact splitScheme_prefix hscheme _
  have hdrop : ∀ c ∈ text.dropWhile (!isDelimiter ·), c ∈ text :=
    fun c hc => (List.dropWhile_sublist _).mem hc
  have hf := partition_of_not_mem fun hmem => hmarks.2 (hdrop _ hmem)
  have hq := partition_of_not_mem fun hmem => hmarks.1 (hdrop _ hmem)
  have hn : splitNetloc ('/' :: '/' :: text)
      = (text.takeWhile (!isDelimiter ·), text.dropWhile (!isDelimiter ·)) :=
    rfl
  rw [urlsplit_eq hs hn hf hq] at h
  split at h
  case isTrue =>
    cases h
    rfl
  case isFalse => cases h

/-- Well-formed parts come back from the URL they are put together to,
unless the checks of the `netloc` raise. -/
theorem urlsplit_urlunsplit {parts : SplitResult} (h : WellFormed parts) :
    urlsplit (urlunsplit parts)
      = if checkBrackets parts.netloc = true
            ∧ checkNetloc parts.netloc = true then some parts
        else none := by
  have hhash : '#' ∉ parts.path ++ behind '?' parts.query := by
    intro hmem
    rcases List.mem_append.mp hmem with hmem | hmem
    · exact h.path.2 hmem
    · rcases mem_behind hmem with heq | hmem
      · cases heq
      · exact h.query hmem
  have htail : ∀ c, (parts.path ++ behind '?' parts.query
      ++ behind '#' parts.fragment).head? = some c →
      isDelimiter c = true := by
    intro c hc
    rw [List.head?_append, List.head?_append] at hc
    cases hpath : parts.path.head? with
    | some d =>
        rw [hpath] at hc
        cases hc
        rw [h.path_head _ hpath]
        rfl
    | none =>
        rw [hpath, Option.none_or] at hc
        cases hquery : (behind '?' parts.query).head? with
        | some d =>
            rw [hquery] at hc
            cases hc
            rw [head_behind hquery]
            rfl
        | none =>
            rw [hquery, Option.none_or] at hc
            rw [head_behind hc]
            rfl
  obtain ⟨fragment, hfragment, hf⟩ :=
    partition_behind hhash parts.fragment
  obtain ⟨query, hquery, hq⟩ := partition_behind h.path.1 parts.query
  have hscheme : splitScheme (clean (urlunsplit parts))
      = (parts.scheme, '/' :: '/' :: (parts.netloc
        ++ (parts.path ++ behind '?' parts.query
          ++ behind '#' parts.fragment))) := by
    rw [clean_urlunsplit h, urlunsplit_eq h]
    exact splitScheme_prefix h.scheme _
  rw [urlsplit_eq hscheme (splitNetloc_append h.netloc htail) hfragment
    hquery, hf, hq]

-- ================================================================= folding

/-- Folding makes a scheme of what is before the first colon. -/
def MakesScheme (url : List Char) : Prop :=
  ∃ name rest, partition ':' (clean url) = (name, some rest)
    ∧ isScheme name = false ∧ isScheme (casefold name) = true

/-- Folding and splitting off the scheme commute, unless folding makes a
scheme of what was none. -/
theorem casefold_splitScheme {url : List Char}
    (h : ∀ name rest, partition ':' url = (name, some rest) →
      isScheme name = false → isScheme (casefold name) = false) :
    splitScheme (casefold url)
      = ((splitScheme url).1, casefold (splitScheme url).2) := by
  have hcolon : Caseless ':' := by decide
  have hfold := casefold_partition hcolon url
  unfold splitScheme
  rw [hfold]
  rcases hcut : partition ':' url with ⟨name, _ | rest⟩
  · rfl
  · cases hname : isScheme name with
    | false =>
        have hname' := h name rest hcut hname
        simp only [Option.map_some, hname, hname', Bool.false_eq_true,
          if_false]
    | true =>
        obtain ⟨hlower, hscheme, hagain⟩ := isScheme_lower hname
        simp only [Option.map_some, hname, hlower, hscheme, hagain, if_true]

/-- Without two slashes there is no network location. -/
theorem splitNetloc_of_not {url : List Char}
    (h : ∀ rest, url ≠ '/' :: '/' :: rest) : splitNetloc url = ([], url) := by
  unfold splitNetloc
  split
  case h_1 rest => exact absurd rfl (h rest)
  case h_2 => rfl

/-- Folding keeps the delimiters, and with them the network location. -/
theorem casefold_splitNetloc (url : List Char) :
    splitNetloc (casefold url)
      = (casefold (splitNetloc url).1, casefold (splitNetloc url).2) := by
  have hslash : Caseless '/' := by decide
  have hdelimiter : ∀ c, (!isDelimiter c) = false → Caseless c := fun c hc =>
    isDelimiter_caseless (by simpa using hc)
  by_cases hurl : ∃ rest, url = '/' :: '/' :: rest
  · obtain ⟨rest, rfl⟩ := hurl
    rw [CaseFolding.casefold_cons, CaseFolding.casefold_cons,
      CaseFolding.foldChar_of_caseless hslash]
    show ((casefold rest).takeWhile (!isDelimiter ·),
      (casefold rest).dropWhile (!isDelimiter ·)) = _
    rw [CaseFolding.casefold_takeWhile hdelimiter,
      CaseFolding.casefold_dropWhile hdelimiter]
    rfl
  · rw [splitNetloc_of_not fun rest hrest => hurl ⟨rest, hrest⟩,
      splitNetloc_of_not]
    · rfl
    · intro rest hrest
      have hhead : url.head? = some '/' :=
        CaseFolding.head_of_casefold hslash (by rw [hrest]; rfl)
      cases url with
      | nil => cases hhead
      | cons c url =>
          cases hhead
          rw [CaseFolding.casefold_cons,
            CaseFolding.foldChar_of_caseless hslash,
            List.singleton_append] at hrest
          have hnext : url.head? = some '/' :=
            CaseFolding.head_of_casefold hslash
              (by rw [(List.cons.inj hrest).2]; rfl)
          cases url with
          | nil => cases hnext
          | cons d url =>
              cases hnext
              exact hurl ⟨url, rfl⟩

/-- A future address stays one. -/
theorem isIPvFuture_casefold {text : List Char}
    (h : isIPvFuture text = true) : isIPvFuture (casefold text) = true := by
  have hv : CaseFolding.foldChar 'v' = ['v'] := by decide +kernel
  have hdot : CaseFolding.foldChar '.' = ['.'] :=
    CaseFolding.foldChar_of_caseless (by decide)
  have hnewline : Caseless '\n' := by decide
  unfold isIPvFuture at h
  split at h
  case h_2 => cases h
  case h_1 rest =>
    rw [Bool.and_eq_true] at h
    obtain ⟨hhex, htail⟩ := h
    split at htail
    case h_2 => cases htail
    case h_1 tail hrest =>
      simp only [Bool.and_eq_true, decide_eq_true_eq] at htail
      have hdigits : (rest.takeWhile isHexDigit).all isHexDigit = true :=
        List.all_eq_true.mpr fun c hc => List.mem_takeWhile_imp hc
      have hfold := (IpAddress.casefold_hexDigits hdigits).1
      have hstop : ∀ c, ('.' :: casefold tail).head? = some c →
          isHexDigit c = false := by
        intro c hc
        cases hc
        decide
      have hcut : rest = rest.takeWhile isHexDigit ++ '.' :: tail := by
        rw [← hrest, List.takeWhile_append_dropWhile]
      have hfolded : casefold rest
          = casefold (rest.takeWhile isHexDigit) ++ '.' :: casefold tail := by
        conv_lhs => rw [hcut]
        rw [CaseFolding.casefold_append, CaseFolding.casefold_cons, hdot,
          List.singleton_append]
      obtain ⟨htake, hdrop⟩ := span_append (List.all_eq_true.mp hfold) hstop
      rw [← hfolded] at htake hdrop
      rw [CaseFolding.casefold_cons, hv, List.singleton_append]
      unfold isIPvFuture
      simp only [htake, hdrop, Bool.and_eq_true, decide_eq_true_eq, Ne,
        CaseFolding.casefold_eq_nil_iff,
        CaseFolding.mem_casefold_iff hnewline]
      exact ⟨of_decide_eq_true hhex, htail⟩

/-- What is allowed in brackets is allowed folded. -/
theorem checkBracketedHost_casefold {hostname : List Char}
    (h : checkBracketedHost hostname = true) :
    checkBracketedHost (casefold hostname) = true := by
  unfold checkBracketedHost at h
  split at h
  case isTrue hv =>
    have hv' : (casefold hostname).head? = some 'v' := by
      cases hostname with
      | nil => cases hv
      | cons c rest =>
          cases hv
          have hfold : CaseFolding.foldChar 'v' = ['v'] := by decide +kernel
          rw [CaseFolding.casefold_cons, hfold]
          rfl
    unfold checkBracketedHost
    rw [if_pos hv']
    exact isIPvFuture_casefold h
  case isFalse =>
    rw [Bool.and_eq_true] at h
    have hipv6 := IpAddress.isIPv6_casefold h.2
    obtain ⟨hv, hipv4⟩ := IpAddress.isIPv6_only hipv6
    unfold checkBracketedHost
    rw [if_neg hv, hipv4, hipv6]
    rfl

theorem checkBracketedNetloc_casefold {netloc : List Char}
    (h : checkBracketedNetloc netloc = true) :
    checkBracketedNetloc (casefold netloc) = true := by
  have hcolon : Caseless ':' := by decide
  have hclose : Caseless ']' := by decide
  unfold checkBracketedNetloc at h ⊢
  simp only at h ⊢
  rw [casefold_afterLast (by decide), casefold_partition (by decide)]
  rcases hcut : partition '[' (afterLast '@' netloc) with
    ⟨before, _ | bracketed⟩
  · rw [hcut] at h
    simp only [Option.map_none, casefold_partition hcolon]
    exact checkBracketedHost_casefold h
  · rw [hcut] at h
    simp only [Bool.and_eq_true, Bool.or_eq_true, decide_eq_true_eq] at h
    obtain ⟨⟨rfl, hport⟩, hhost⟩ := h
    simp only [Option.map_some, casefold_partition hclose,
      Bool.and_eq_true, Bool.or_eq_true, decide_eq_true_eq]
    refine ⟨⟨rfl, ?_⟩, checkBracketedHost_casefold hhost⟩
    cases hafter : (partition ']' bracketed).2 with
    | none => exact .inl rfl
    | some port =>
        rw [hafter] at hport
        rcases hport with hnil | hhead
        · rw [Option.getD_some] at hnil
          subst hnil
          exact .inl rfl
        · right
          rw [Option.getD_some] at hhead
          cases port with
          | nil => cases hhead
          | cons c port =>
              cases hhead
              show (casefold (':' :: port)).head? = some ':'
              rw [CaseFolding.casefold_cons,
                CaseFolding.foldChar_of_caseless hcolon]
              rfl

theorem checkBrackets_casefold {netloc : List Char}
    (h : checkBrackets netloc = true) :
    checkBrackets (casefold netloc) = true := by
  have hopen : Caseless '[' := by decide
  have hclose : Caseless ']' := by decide
  unfold checkBrackets at h ⊢
  simp only [CaseFolding.mem_casefold_iff hopen,
    CaseFolding.mem_casefold_iff hclose]
  split at h
  · cases h
  · rename_i hboth
    rw [if_neg hboth]
    split at h
    · rename_i hand
      rw [if_pos hand]
      exact checkBracketedNetloc_casefold h
    · rename_i hand
      rw [if_neg hand]

theorem delimiterForms_caseless : ∀ c ∈ delimiterForms, Caseless c := by
  have hall : delimiterForms.all (fun c => decide (Caseless c)) = true := by
    decide
  exact fun c hc => of_decide_eq_true (List.all_eq_true.mp hall c hc)

/-- The normalisation check passes folded texts too. -/
theorem checkNetloc_casefold {netloc : List Char}
    (h : checkNetloc netloc = true) :
    checkNetloc (casefold netloc) = true := by
  refine List.all_eq_true.mpr fun c hc => decide_eq_true fun hmem => ?_
  have hc := (CaseFolding.mem_casefold_iff
    (delimiterForms_caseless c hmem)).mp hc
  exact of_decide_eq_true (List.all_eq_true.mp h c hc) hmem

/-- The parts, folded. -/
def SplitResult.casefold (parts : SplitResult) : SplitResult :=
  ⟨parts.scheme, CaseFolding.casefold parts.netloc,
    CaseFolding.casefold parts.path, CaseFolding.casefold parts.query,
    CaseFolding.casefold parts.fragment⟩

/-- A URL that is folded splits into the folded parts, unless folding makes
a scheme. -/
theorem urlsplit_casefold {url : List Char} {parts : SplitResult}
    (h : urlsplit url = some parts) (hscheme : ¬ MakesScheme url) :
    urlsplit (casefold url) = some parts.casefold := by
  obtain ⟨rest, tail, before, fragment, query, hs, hn, hf, hq, hquery,
    hfragment, hbrackets, hforms⟩ := urlsplit_some h
  have hs' : splitScheme (clean (casefold url))
      = (parts.scheme, casefold rest) := by
    rw [clean_casefold, casefold_splitScheme, hs]
    intro name rest' hcut hname
    rw [← Bool.not_eq_true]
    exact fun hname' => hscheme ⟨name, rest', hcut, hname, hname'⟩
  have hn' : splitNetloc (casefold rest)
      = (casefold parts.netloc, casefold tail) := by
    rw [casefold_splitNetloc, hn]
  have hf' : partition '#' (casefold tail)
      = (casefold before, fragment.map casefold) := by
    rw [casefold_partition (by decide), hf]
  have hq' : partition '?' (casefold before)
      = (casefold parts.path, query.map casefold) := by
    rw [casefold_partition (by decide), hq]
  have hgetD : ∀ text : Option (List Char),
      (text.map casefold).getD [] = casefold (text.getD []) := by
    intro text
    cases text <;> rfl
  rw [urlsplit_eq hs' hn' hf' hq', if_pos
    ⟨checkBrackets_casefold hbrackets, checkNetloc_casefold hforms⟩,
    hgetD, hgetD, ← hquery, ← hfragment]
  rfl

/-- Host and port are divided at the same place. -/
theorem hostinfo_casefold (netloc : List Char) :
    hostinfo (casefold netloc)
      = (casefold (hostinfo netloc).1, casefold (hostinfo netloc).2) := by
  have hcolon : Caseless ':' := by decide
  have hclose : Caseless ']' := by decide
  unfold hostinfo
  simp only
  rw [casefold_afterLast (by decide), casefold_partition (by decide)]
  rcases partition '[' (afterLast '@' netloc) with ⟨before, _ | bracketed⟩
  · simp only [Option.map_none, casefold_partition hcolon]
    cases (partition ':' (afterLast '@' netloc)).2 <;> rfl
  · simp only [Option.map_some, casefold_partition hclose]
    cases (partition ']' bracketed).2 with
    | none => rfl
    | some port =>
        simp only [Option.map_some, Option.getD_some,
          casefold_partition hcolon]
        cases (partition ':' port).2 <;> rfl

/-- The host name is lowered already, so that folding it is folding what
was written. -/
theorem casefold_hostname (final : List Char → List Char → Bool)
    (netloc : List Char) :
    casefold (hostname final netloc) = casefold (hostinfo netloc).1 := by
  unfold hostname
  simp only
  rw [CaseFolding.casefold_append, CaseFolding.casefold_lower,
    ← CaseFolding.casefold_append, List.takeWhile_append_dropWhile]

/-- A text of digits stays, and no other becomes one. -/
theorem all_isDigit_casefold (text : List Char) :
    (casefold text).all Char.isDigit = text.all Char.isDigit := by
  have hcaseless : ∀ c : Char, c.isDigit = true → Caseless c :=
    fun c => IpAddress.isDigit_caseless
  rw [Bool.eq_iff_iff, List.all_eq_true, List.all_eq_true]
  refine ⟨fun h c hc => ?_, fun h d hd => ?_⟩
  · cases hfold : CaseFolding.foldChar c with
    | nil => exact absurd hfold (CaseFolding.foldChar_ne_nil c)
    | cons d rest =>
        have hd : d ∈ CaseFolding.foldChar c := hfold ▸ List.mem_cons_self
        have hdigit := h d (List.mem_flatMap.mpr ⟨c, hc, hd⟩)
        rw [← CaseFolding.eq_of_mem_foldChar (hcaseless d hdigit) hd]
        exact hdigit
  · obtain ⟨c, hc, hd⟩ := List.mem_flatMap.mp hd
    rw [CaseFolding.foldChar_of_caseless (hcaseless c (h c hc))] at hd
    rw [List.mem_singleton.mp hd]
    exact h c hc

/-- Digits have no case. -/
theorem readPort_casefold (text : List Char) :
    readPort (casefold text) = readPort text := by
  cases hall : text.all Char.isDigit with
  | true =>
      rw [IpAddress.casefold_digits
        fun c hc => .inl (List.all_eq_true.mp hall c hc)]
  | false =>
      unfold readPort
      rw [all_isDigit_casefold, hall]
      simp

/-- A `netloc` that is folded has the same port. -/
theorem port_casefold (netloc : List Char) :
    port (casefold netloc) = port netloc := by
  unfold port
  rw [hostinfo_casefold]
  simp only [CaseFolding.casefold_eq_nil_iff, readPort_casefold]

-- ================================================================ the host

/-- A host is part of the `netloc`, and has no pair of brackets. -/
theorem hostinfo_host (netloc : List Char) :
    (∀ c ∈ (hostinfo netloc).1, c ∈ netloc ∧ c ≠ '@')
      ∧ ('[' ∉ (hostinfo netloc).1 ∨ ']' ∉ (hostinfo netloc).1) := by
  have hinfo : ∀ c ∈ afterLast '@' netloc, c ∈ netloc ∧ c ≠ '@' := by
    intro c hc
    refine ⟨(List.rtakeWhile_suffix _ _).sublist.mem hc, ?_⟩
    simpa using List.mem_rtakeWhile_imp hc
  unfold hostinfo
  simp only
  rcases hcut : partition '[' (afterLast '@' netloc) with
    ⟨before, _ | bracketed⟩
  · rcases hport : partition ':' (afterLast '@' netloc) with ⟨host, port⟩
    have hhost := (mem_of_partition hport).1
    refine ⟨fun c hc => hinfo c (hhost c hc), .inl fun hmem => ?_⟩
    exact (partition_eq_none hcut).2 (hhost _ hmem)
  · rcases hclose : partition ']' bracketed with ⟨host, port⟩
    have hhost := (mem_of_partition hclose).1
    have hbracketed := (mem_of_partition hcut).2
    simp only [hclose]
    refine ⟨fun c hc => hinfo c (hbracketed c (hhost c hc)), .inr ?_⟩
    exact (not_mem_of_partition hclose).1

/-- A host in brackets is checked. -/
theorem checkBracketedHost_hostinfo {netloc : List Char}
    (hcheck : checkBrackets netloc = true)
    (hopen : '[' ∈ afterLast '@' netloc) :
    checkBracketedHost (hostinfo netloc).1 = true := by
  have hmem : '[' ∈ netloc := (List.rtakeWhile_suffix _ _).sublist.mem hopen
  unfold checkBrackets at hcheck
  by_cases hclose : ']' ∈ netloc
  · rw [if_neg (by simp [hmem, hclose]), if_pos ⟨hmem, hclose⟩] at hcheck
    unfold checkBracketedNetloc at hcheck
    unfold hostinfo
    dsimp only at hcheck ⊢
    rcases partition_cases '[' (afterLast '@' netloc) with
      ⟨hnot, -⟩ | ⟨before, bracketed, -, -, hcut⟩
    · exact absurd hopen hnot
    · rw [hcut] at hcheck ⊢
      simp only [Bool.and_eq_true] at hcheck
      exact hcheck.2
  · rw [if_pos (.inl ⟨hmem, hclose⟩)] at hcheck
    cases hcheck

/-- A host that is not in brackets ends at the first colon. -/
theorem hostinfo_open {netloc : List Char}
    (hopen : '[' ∉ afterLast '@' netloc) :
    '[' ∉ (hostinfo netloc).1 ∧ ':' ∉ (hostinfo netloc).1 := by
  unfold hostinfo
  dsimp only
  rw [partition_of_not_mem hopen]
  rcases hcut : partition ':' (afterLast '@' netloc) with ⟨host, port⟩
  exact ⟨fun h => hopen ((mem_of_partition hcut).1 _ h),
    (not_mem_of_partition hcut).1⟩

/-- The host and the port of a `netloc` without user and brackets. -/
theorem hostinfo_plain {netloc : List Char} (hat : '@' ∉ netloc)
    (hopen : '[' ∉ netloc) :
    hostinfo netloc
      = ((partition ':' netloc).1, (partition ':' netloc).2.getD []) := by
  unfold hostinfo
  simp only
  rw [afterLast_of_not_mem hat, partition_of_not_mem hopen]

/-- Without brackets there is nothing to check. -/
theorem checkBrackets_plain {netloc : List Char} (hopen : '[' ∉ netloc)
    (hclose : ']' ∉ netloc) : checkBrackets netloc = true := by
  unfold checkBrackets
  rw [if_neg (by simp [hopen, hclose]), if_neg (by simp [hopen])]

/-- A bracket without the other raises. -/
theorem checkBrackets_single {netloc : List Char}
    (h : '[' ∉ netloc ∧ ']' ∈ netloc ∨ '[' ∈ netloc ∧ ']' ∉ netloc) :
    checkBrackets netloc = false := by
  unfold checkBrackets
  rw [if_pos]
  rcases h with ⟨hopen, hclose⟩ | ⟨hopen, hclose⟩
  · exact .inr ⟨hclose, hopen⟩
  · exact .inl ⟨hopen, hclose⟩

/-- A port is a decimal number in its range. -/
theorem readPort_some {text : List Char} {n : Nat}
    (h : readPort text = some n) :
    text.all Char.isDigit = true ∧ n = Nat.ofDigitChars 10 text 0
      ∧ n ≤ 65535 := by
  unfold readPort at h
  split at h
  case isTrue hport =>
    obtain ⟨-, hall, -, hmax⟩ := hport
    cases h
    exact ⟨hall, rfl, hmax⟩
  case isFalse => cases h

/-- A port that is written is read. -/
theorem readPort_toDigits {n : Nat} (h : n ≤ 65535) :
    readPort (Nat.toDigits 10 n) = some n := by
  have hlength : (Nat.toDigits 10 n).length ≤ 5 :=
    (Nat.length_toDigits_le_iff (by decide) (by decide)).mpr (by omega)
  have hread : Nat.ofDigitChars 10 (Nat.toDigits 10 n) 0 = n :=
    Nat.ofDigitChars_ten_toDigits
  unfold readPort
  rw [hread]
  refine if_pos ⟨Nat.toDigits_ne_nil, ?_, ?_, h⟩
  · exact List.all_eq_true.mpr fun c hc =>
      Nat.isDigit_of_mem_toDigits (by decide) (by decide) hc
  · exact hlength.trans (by decide)

end UrlSplit
