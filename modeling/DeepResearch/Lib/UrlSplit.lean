/-
URLs as `urllib.parse` takes them apart and puts them together
(`urlsplit`, `urlunsplit`, and the host and the port of a `netloc`). A
`ValueError` is `none`. Each cut is at a caseless character, and so the
same in a text that is folded.
-/
import DeepResearch.Lib.IpAddress
import DeepResearch.Lib.Trim

namespace UrlSplit

open CaseFolding (casefold Caseless)
open IpAddress (isHexDigit)

/-- `SplitResult`. -/
structure SplitResult where
  scheme : List Char
  netloc : List Char
  path : List Char
  query : List Char
  fragment : List Char
  deriving DecidableEq

/-- `text.partition(sep)`: what is before the separator and, if there is
one, what is behind it. -/
def partition (sep : Char) (text : List Char) :
    List Char × Option (List Char) :=
  (text.takeWhile (· != sep), (text.dropWhile (· != sep)).tail?)

/-- `text.rpartition(sep)[2]`. -/
def afterLast (sep : Char) (text : List Char) : List Char :=
  text.rtakeWhile (· != sep)

-- ============================================================ taking apart

/-- `_WHATWG_C0_CONTROL_OR_SPACE`. -/
def isC0OrSpace (c : Char) : Bool := c.toNat ≤ 0x20

/-- `_UNSAFE_URL_BYTES_TO_REMOVE`. -/
def isUnsafe (c : Char) : Bool := c = '\t' || c = '\r' || c = '\n'

/-- The URL as it is taken apart. -/
def clean (url : List Char) : List Char :=
  (url.dropWhile isC0OrSpace).filter (!isUnsafe ·)

/-- `scheme_chars`. -/
def isSchemeChar (c : Char) : Bool :=
  c.isAlphanum || c = '+' || c = '-' || c = '.'

/-- The name before a colon is a scheme. -/
def isScheme : List Char → Bool
  | [] => false
  | c :: name => c.isAlpha && (c :: name).all isSchemeChar

/-- The scheme and what is behind it. -/
def splitScheme (url : List Char) : List Char × List Char :=
  match partition ':' url with
  | (name, some rest) =>
      if isScheme name = true then (name.map Char.toLower, rest)
      else ([], url)
  | (_, none) => ([], url)

/-- A character that ends a `netloc`. -/
def isDelimiter (c : Char) : Bool := c = '/' || c = '?' || c = '#'

/-- The `netloc` and what is behind it (`_splitnetloc`). -/
def splitNetloc : List Char → List Char × List Char
  | '/' :: '/' :: rest =>
      (rest.takeWhile (!isDelimiter ·), rest.dropWhile (!isDelimiter ·))
  | url => ([], url)

/-- `re.match(r"\Av[a-fA-F0-9]+\..+\Z", hostname)`. -/
def isIPvFuture : List Char → Bool
  | 'v' :: rest =>
      rest.takeWhile isHexDigit ≠ []
        && match rest.dropWhile isHexDigit with
          | '.' :: tail => tail ≠ [] && '\n' ∉ tail
          | _ => false
  | _ => false

/-- `_check_bracketed_host` raises nothing. -/
def checkBracketedHost (hostname : List Char) : Bool :=
  if hostname.head? = some 'v' then isIPvFuture hostname
  else !IpAddress.isIPv4 hostname && IpAddress.isIPv6 hostname

/-- `_check_bracketed_netloc` raises nothing. -/
def checkBracketedNetloc (netloc : List Char) : Bool :=
  let hostnameAndPort := afterLast '@' netloc
  match partition '[' hostnameAndPort with
  | (before, some bracketed) =>
      let port := (partition ']' bracketed).2.getD []
      before = [] && (port = [] || port.head? = some ':')
        && checkBracketedHost (partition ']' bracketed).1
  | (_, none) => checkBracketedHost (partition ':' hostnameAndPort).1

/-- The brackets of a `netloc` raise nothing. -/
def checkBrackets (netloc : List Char) : Bool :=
  if '[' ∈ netloc ∧ ']' ∉ netloc ∨ ']' ∈ netloc ∧ '[' ∉ netloc then false
  else if '[' ∈ netloc ∧ ']' ∈ netloc then checkBracketedNetloc netloc
  else true

/-- The characters whose NFKC form holds one of `/?#@:` (these five
apart). -/
def delimiterForms : List Char :=
  [0x2047, 0x2048, 0x2049, 0x2100, 0x2101, 0x2105, 0x2106, 0x2A74, 0xFE13,
    0xFE16, 0xFE55, 0xFE56, 0xFE5F, 0xFE6B, 0xFF03, 0xFF0F, 0xFF1A, 0xFF1F,
    0xFF20].map Char.ofNat

/-- `_checknetloc` raises nothing. -/
def checkNetloc (netloc : List Char) : Bool :=
  netloc.all fun c => c ∉ delimiterForms

/-- `urlsplit(url)`. -/
def urlsplit (url : List Char) : Option SplitResult :=
  let (scheme, url) := splitScheme (clean url)
  let (netloc, url) := splitNetloc url
  if checkBrackets netloc = false then none
  else
    let (url, fragment) := partition '#' url
    let (url, query) := partition '?' url
    if checkNetloc netloc = false then none
    else some ⟨scheme, netloc, url, query.getD [], fragment.getD []⟩

/-- `_hostinfo`: the host and the text of the port. -/
def hostinfo (netloc : List Char) : List Char × List Char :=
  let info := afterLast '@' netloc
  match partition '[' info with
  | (_, some bracketed) =>
      let (hostname, port) := partition ']' bracketed
      (hostname, (partition ':' (port.getD [])).2.getD [])
  | (_, none) =>
      let (hostname, port) := partition ':' info
      (hostname, port.getD [])

/-- `hostname`, empty where it is `None`. What is behind a percent sign is
not put in lower case. -/
def hostname (final : List Char → List Char → Bool) (netloc : List Char) :
    List Char :=
  let host := (hostinfo netloc).1
  CaseFolding.lower final (host.takeWhile (· != '%'))
    ++ host.dropWhile (· != '%')

/-- The most digits that `int` reads. -/
def maxStrDigits : Nat := 4300

/-- `int(port)`, of a port that is one. -/
def readPort (text : List Char) : Option Nat :=
  if text ≠ [] ∧ text.all Char.isDigit = true ∧ text.length ≤ maxStrDigits
      ∧ Nat.ofDigitChars 10 text 0 ≤ 65535 then
    some (Nat.ofDigitChars 10 text 0)
  else none

/-- `port`. -/
def port (netloc : List Char) : Option (Option Nat) :=
  if (hostinfo netloc).2 = [] then some none
  else (readPort (hostinfo netloc).2).map some

-- ========================================================= putting together

/-- `uses_netloc`. -/
def usesNetloc : List String :=
  ["", "ftp", "http", "gopher", "nntp", "telnet", "imap", "wais", "file",
    "mms", "https", "shttp", "snews", "prospero", "rtsp", "rtsps", "rtspu",
    "rsync", "svn", "svn+ssh", "sftp", "nfs", "git", "git+ssh", "ws", "wss",
    "itms-services"]

/-- `urlunsplit(parts)`. -/
def urlunsplit (parts : SplitResult) : List Char :=
  let url := parts.path
  let url :=
    if parts.netloc ≠ [] ∨ (parts.scheme ≠ []
        ∧ (usesNetloc.map String.toList).contains parts.scheme = true
        ∧ url.take 2 ≠ ['/', '/']) then
      let url :=
        if url ≠ [] ∧ url.take 1 ≠ ['/'] then '/' :: url else url
      ['/', '/'] ++ parts.netloc ++ url
    else url
  let url := if parts.scheme ≠ [] then parts.scheme ++ ':' :: url else url
  let url := if parts.query ≠ [] then url ++ '?' :: parts.query else url
  if parts.fragment ≠ [] then url ++ '#' :: parts.fragment else url

-- ================================================================= cutting

/-- Where a run of characters ends. -/
theorem span_append {p : Char → Bool} {left right : List Char}
    (hleft : ∀ c ∈ left, p c = true)
    (hright : ∀ c, right.head? = some c → p c = false) :
    (left ++ right).takeWhile p = left
      ∧ (left ++ right).dropWhile p = right := by
  rw [List.takeWhile_append_of_pos hleft, List.dropWhile_append_of_pos hleft,
    Trim.dropWhile_eq_self hright]
  cases right with
  | nil => exact ⟨List.append_nil left, rfl⟩
  | cons c right =>
      have hneg : ¬ p c = true := by
        rw [hright c rfl]
        exact Bool.false_ne_true
      rw [List.takeWhile_cons_of_neg hneg, List.append_nil]
      exact ⟨rfl, rfl⟩

section

variable {sep : Char} {text left right : List Char}

theorem bne_of_not_mem (h : sep ∉ text) :
    ∀ c ∈ text, (c != sep) = true := by
  intro c hc
  rw [bne_iff_ne]
  rintro rfl
  exact h hc

/-- Without the separator the text is all there is. -/
theorem partition_of_not_mem (h : sep ∉ text) :
    partition sep text = (text, none) := by
  unfold partition
  rw [List.takeWhile_eq_self_iff.mpr (bne_of_not_mem h),
    List.dropWhile_eq_nil_iff.mpr (bne_of_not_mem h)]
  rfl

theorem head_sep (sep : Char) (right : List Char) :
    ∀ c, (sep :: right).head? = some c → (c != sep) = false := by
  intro c hc
  rw [List.head?_cons] at hc
  cases hc
  exact bne_self_eq_false sep

/-- The partition ends at the first separator. -/
theorem partition_append (h : sep ∉ left) (right : List Char) :
    partition sep (left ++ sep :: right) = (left, some right) := by
  obtain ⟨htake, hdrop⟩ :=
    span_append (bne_of_not_mem h) (head_sep sep right)
  unfold partition
  rw [htake, hdrop]
  rfl

/-- A text is cut at its first separator, if it has one. -/
theorem partition_cases (sep : Char) (text : List Char) :
    (sep ∉ text ∧ partition sep text = (text, none))
      ∨ ∃ left right, text = left ++ sep :: right ∧ sep ∉ left
        ∧ partition sep text = (left, some right) := by
  by_cases h : sep ∈ text
  · obtain ⟨left, right, rfl, hleft⟩ := List.eq_append_cons_of_mem h
    exact .inr ⟨left, right, rfl, hleft, partition_append hleft right⟩
  · exact .inl ⟨h, partition_of_not_mem h⟩

/-- A partition with a separator is read off the text. -/
theorem partition_eq_some (h : partition sep text = (left, some right)) :
    text = left ++ sep :: right ∧ sep ∉ left := by
  rcases partition_cases sep text with
    ⟨-, hcut⟩ | ⟨left', right', htext, hleft, hcut⟩
  · rw [h] at hcut
    cases hcut
  · rw [h] at hcut
    cases hcut
    exact ⟨htext, hleft⟩

/-- A partition without one is the text. -/
theorem partition_eq_none (h : partition sep text = (left, none)) :
    left = text ∧ sep ∉ text := by
  rcases partition_cases sep text with
    ⟨hnot, hcut⟩ | ⟨left', right', -, -, hcut⟩
  · rw [h] at hcut
    cases hcut
    exact ⟨rfl, hnot⟩
  · rw [h] at hcut
    cases hcut

/-- A caseless separator is found at the same place in the folded text. -/
theorem casefold_partition (hsep : Caseless sep) (text : List Char) :
    partition sep (casefold text)
      = (casefold (partition sep text).1,
        (partition sep text).2.map casefold) := by
  rcases partition_cases sep text with
    ⟨hnot, hcut⟩ | ⟨left, right, rfl, hleft, hcut⟩
  · rw [hcut, partition_of_not_mem
      fun h => hnot ((CaseFolding.mem_casefold_iff hsep).mp h)]
    rfl
  · rw [hcut, CaseFolding.casefold_append, CaseFolding.casefold_cons,
      CaseFolding.foldChar_of_caseless hsep, List.singleton_append,
      partition_append
        fun h => hleft ((CaseFolding.mem_casefold_iff hsep).mp h)]
    rfl

theorem afterLast_of_not_mem (h : sep ∉ text) : afterLast sep text = text :=
  List.rtakeWhile_eq_self_iff.mpr (bne_of_not_mem h)

/-- What is behind the last separator. -/
theorem afterLast_append (left : List Char) (h : sep ∉ right) :
    afterLast sep (left ++ sep :: right) = right := by
  have hright : ∀ c ∈ right.reverse, (c != sep) = true := fun c hc =>
    bne_of_not_mem h c (List.mem_reverse.mp hc)
  unfold afterLast List.rtakeWhile
  rw [List.reverse_append, List.reverse_cons, List.append_assoc,
    List.singleton_append,
    (span_append hright (head_sep sep left.reverse)).1, List.reverse_reverse]

/-- A text is cut at its last separator, if it has one. -/
theorem afterLast_cases (sep : Char) (text : List Char) :
    (sep ∉ text ∧ afterLast sep text = text)
      ∨ ∃ left right, text = left ++ sep :: right ∧ sep ∉ right
        ∧ afterLast sep text = right := by
  by_cases h : sep ∈ text
  · obtain ⟨right, left, htext, hright⟩ :=
      List.eq_append_cons_of_mem (List.mem_reverse.mpr h)
    have hcut : text = left.reverse ++ sep :: right.reverse := by
      rw [← List.reverse_reverse text, htext, List.reverse_append,
        List.reverse_cons, List.append_assoc, List.singleton_append]
    have hnot : sep ∉ right.reverse := fun h =>
      hright (List.mem_reverse.mp h)
    refine .inr ⟨left.reverse, right.reverse, hcut, hnot, ?_⟩
    rw [hcut, afterLast_append _ hnot]
  · exact .inl ⟨h, afterLast_of_not_mem h⟩

theorem casefold_afterLast (hsep : Caseless sep) (text : List Char) :
    afterLast sep (casefold text) = casefold (afterLast sep text) := by
  rcases afterLast_cases sep text with
    ⟨hnot, hcut⟩ | ⟨left, right, rfl, hright, hcut⟩
  · rw [hcut, afterLast_of_not_mem
      fun h => hnot ((CaseFolding.mem_casefold_iff hsep).mp h)]
  · rw [hcut, CaseFolding.casefold_append, CaseFolding.casefold_cons,
      CaseFolding.foldChar_of_caseless hsep, List.singleton_append,
      afterLast_append _
        fun h => hright ((CaseFolding.mem_casefold_iff hsep).mp h)]

end

-- ================================================================ cleaning

theorem isC0OrSpace_caseless {c : Char} (h : isC0OrSpace c = true) :
    Caseless c := by
  have hc : c.toNat ≤ 0x20 := of_decide_eq_true h
  exact CaseFolding.caseless_of_range List.mem_cons_self (Nat.zero_le _)
    (hc.trans (by decide))

theorem isUnsafe_caseless {c : Char} (h : isUnsafe c = true) :
    Caseless c := by
  unfold isUnsafe at h
  simp only [Bool.or_eq_true, decide_eq_true_eq] at h
  rcases h with (rfl | rfl) | rfl <;> decide

/-- Cleaning takes away caseless characters only. -/
theorem clean_casefold (url : List Char) :
    clean (casefold url) = casefold (clean url) := by
  have hunsafe : ∀ c, (!isUnsafe c) = false → Caseless c := fun c hc =>
    isUnsafe_caseless (by simpa using hc)
  unfold clean
  rw [CaseFolding.casefold_dropWhile_caseless fun c => isC0OrSpace_caseless,
    CaseFolding.casefold_filter hunsafe]

/-- A clean text has no unsafe character. -/
theorem isUnsafe_of_mem_clean {url : List Char} {c : Char}
    (h : c ∈ clean url) : isUnsafe c = false := by
  have hkeep := (List.mem_filter.mp h).2
  simpa using hkeep

/-- A URL of other characters is taken apart as it is. -/
theorem clean_eq_self {url : List Char}
    (hhead : ∀ c, url.head? = some c → isC0OrSpace c = false)
    (hsafe : ∀ c ∈ url, isUnsafe c = false) : clean url = url := by
  unfold clean
  rw [Trim.dropWhile_eq_self hhead]
  exact List.filter_eq_self.mpr fun c hc => by rw [hsafe c hc]; rfl

-- ================================================================= schemes

/-- A character of a scheme is plain, and so is its lower case. -/
theorem schemeChar_facts {c : Char} (h : isSchemeChar c = true) :
    CaseFolding.foldChar c = [c.toLower] ∧ isSchemeChar c.toLower = true
      ∧ c.toLower.toLower = c.toLower
      ∧ (c.isAlpha = true → c.toLower.isAlpha = true)
      ∧ isUnsafe c = false ∧ isC0OrSpace c = false ∧ c ≠ ':'
      ∧ c.toNat < 128 := by
  have hlt : c.toNat < 128 := by
    unfold isSchemeChar Char.isAlphanum Char.isAlpha Char.isUpper
      Char.isLower Char.isDigit at h
    simp only [Bool.or_eq_true, Bool.and_eq_true, decide_eq_true_eq] at h
    change (((((65 ≤ c.toNat ∧ c.toNat ≤ 90)
      ∨ (97 ≤ c.toNat ∧ c.toNat ≤ 122))
      ∨ (48 ≤ c.toNat ∧ c.toNat ≤ 57)) ∨ c = '+') ∨ c = '-') ∨ c = '.' at h
    rcases h with (((((h | h) | h) | rfl) | rfl) | rfl)
    · omega
    · omega
    · omega
    · decide
    · decide
    · decide
  have hrest := @CaseFolding.ascii_forall
    (fun c => isSchemeChar c = true → isSchemeChar c.toLower = true
      ∧ c.toLower.toLower = c.toLower
      ∧ (c.isAlpha = true → c.toLower.isAlpha = true)
      ∧ isUnsafe c = false ∧ isC0OrSpace c = false ∧ c ≠ ':'
      ∧ c.toNat < 128)
    (by decide +kernel) c hlt h
  exact ⟨CaseFolding.foldChar_ascii hlt, hrest⟩

theorem isScheme_all {name : List Char} (h : isScheme name = true) :
    name ≠ [] ∧ ∀ c ∈ name, isSchemeChar c = true := by
  cases name with
  | nil => cases h
  | cons c name =>
      unfold isScheme at h
      rw [Bool.and_eq_true, List.all_eq_true] at h
      exact ⟨List.cons_ne_nil _ _, h.2⟩

/-- The characters of a scheme are ASCII, where folding is lowering. -/
theorem casefold_schemeChars {name : List Char}
    (h : ∀ c ∈ name, isSchemeChar c = true) :
    casefold name = name.map Char.toLower := by
  induction name with
  | nil => rfl
  | cons c name ih =>
      rw [CaseFolding.casefold_cons,
        (schemeChar_facts (h c List.mem_cons_self)).1,
        ih fun d hd => h d (List.mem_cons_of_mem _ hd)]
      rfl

/-- A scheme folds to its lower case, and that is a scheme. -/
theorem isScheme_lower {name : List Char} (h : isScheme name = true) :
    casefold name = name.map Char.toLower
      ∧ isScheme (name.map Char.toLower) = true
      ∧ (name.map Char.toLower).map Char.toLower
        = name.map Char.toLower := by
  have hall := (isScheme_all h).2
  refine ⟨casefold_schemeChars hall, ?_, ?_⟩
  · cases name with
    | nil => cases h
    | cons c name =>
        unfold isScheme at h
        rw [Bool.and_eq_true] at h
        unfold isScheme
        rw [List.map_cons]
        simp only [Bool.and_eq_true, List.all_eq_true]
        have hc := schemeChar_facts (hall c List.mem_cons_self)
        refine ⟨hc.2.2.2.1 h.1, fun d hd => ?_⟩
        rw [← List.map_cons] at hd
        obtain ⟨e, he, rfl⟩ := List.mem_map.mp hd
        exact (schemeChar_facts (hall e he)).2.1
  · rw [List.map_map]
    refine List.map_congr_left fun c hc => ?_
    exact (schemeChar_facts (hall c hc)).2.2.1

/-- A scheme ends before the first colon. -/
theorem colon_not_mem_scheme {name : List Char} (h : isScheme name = true) :
    ':' ∉ name := fun hmem =>
  absurd rfl (schemeChar_facts ((isScheme_all h).2 _ hmem)).2.2.2.2.2.2.1

/-- What looks like a scheme before the first colon is one. -/
theorem splitScheme_append {name : List Char} (h : isScheme name = true)
    (rest : List Char) :
    splitScheme (name ++ ':' :: rest) = (name.map Char.toLower, rest) := by
  unfold splitScheme
  rw [partition_append (colon_not_mem_scheme h)]
  exact if_pos h

/-- A URL that begins with a slash has no scheme. -/
theorem splitScheme_slash (rest : List Char) :
    splitScheme ('/' :: rest) = ([], '/' :: rest) := by
  unfold splitScheme
  rcases partition_cases ':' ('/' :: rest) with
    ⟨-, hcut⟩ | ⟨left, right, htext, -, hcut⟩
  · rw [hcut]
  · rw [hcut]
    refine if_neg ?_
    cases left with
    | nil => cases (List.cons.inj htext).1
    | cons c left =>
        cases (List.cons.inj htext).1
        unfold isScheme
        rw [Bool.and_eq_true]
        rintro ⟨halpha, -⟩
        revert halpha
        decide

/-- A URL has no scheme, or one before its first colon. -/
theorem splitScheme_cases (url : List Char) :
    splitScheme url = ([], url)
      ∨ ∃ name rest, url = name ++ ':' :: rest ∧ isScheme name = true
        ∧ splitScheme url = (name.map Char.toLower, rest) := by
  rcases partition_cases ':' url with
    ⟨-, hcut⟩ | ⟨left, right, rfl, hleft, hcut⟩
  · left
    unfold splitScheme
    rw [hcut]
  · by_cases hname : isScheme left = true
    · exact .inr ⟨left, right, rfl, hname, splitScheme_append hname right⟩
    · left
      unfold splitScheme
      rw [hcut]
      exact if_neg hname

-- ============================================================== the netloc

theorem isDelimiter_caseless {c : Char} (h : isDelimiter c = true) :
    Caseless c := by
  unfold isDelimiter at h
  simp only [Bool.or_eq_true, decide_eq_true_eq] at h
  rcases h with (rfl | rfl) | rfl <;> decide

/-- The cut behind a `netloc`. -/
theorem splitNetloc_append {netloc tail : List Char}
    (hnetloc : ∀ c ∈ netloc, isDelimiter c = false)
    (htail : ∀ c, tail.head? = some c → isDelimiter c = true) :
    splitNetloc ('/' :: '/' :: (netloc ++ tail)) = (netloc, tail) := by
  have hpos : ∀ c ∈ netloc, (!isDelimiter c) = true := fun c hc => by
    rw [hnetloc c hc]
    rfl
  have htail' : ∀ c, tail.head? = some c → (!isDelimiter c) = false :=
    fun c hc => by
      rw [htail c hc]
      rfl
  obtain ⟨htake, hdrop⟩ := span_append hpos htail'
  show ((netloc ++ tail).takeWhile (!isDelimiter ·),
    (netloc ++ tail).dropWhile (!isDelimiter ·)) = (netloc, tail)
  rw [htake, hdrop]

/-- There is a `netloc` only behind two slashes. -/
theorem splitNetloc_cases (url : List Char) :
    splitNetloc url = ([], url)
      ∨ ∃ netloc tail, url = '/' :: '/' :: (netloc ++ tail)
        ∧ (∀ c ∈ netloc, isDelimiter c = false)
        ∧ (∀ c, tail.head? = some c → isDelimiter c = true)
        ∧ splitNetloc url = (netloc, tail) := by
  unfold splitNetloc
  split
  case h_1 rest =>
    refine .inr ⟨_, _, ?_, ?_, ?_, rfl⟩
    · rw [List.takeWhile_append_dropWhile]
    · intro c hc
      have hkeep := List.mem_takeWhile_imp hc
      simpa using hkeep
    · intro c hc
      have hstop := List.head?_dropWhile_not (!isDelimiter ·) rest
      rw [hc] at hstop
      simpa using hstop
  case h_2 => exact .inl rfl

end UrlSplit
