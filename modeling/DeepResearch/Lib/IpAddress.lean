/-
The texts of IP addresses that `ipaddress` accepts, and that folding keeps
accepted. What an address is worth as a number is left out.
-/
import DeepResearch.Lib.CaseFolding

namespace IpAddress

open CaseFolding (casefold Caseless)

/-- `_HEX_DIGITS`. -/
def isHexDigit (c : Char) : Bool :=
  c.isDigit || ('a' ≤ c && c ≤ 'f') || ('A' ≤ c && c ≤ 'F')

/-- What `IPv4Address._parse_octet` reads. -/
def isOctet (text : List Char) : Bool :=
  text ≠ [] && text.all Char.isDigit && text.length ≤ 3
    && (text = ['0'] || text.head? ≠ some '0')
    && Nat.ofDigitChars 10 text 0 ≤ 255

/-- What `IPv4Address` reads. -/
def isIPv4 (text : List Char) : Bool :=
  (text.splitOn '.').length = 4 && (text.splitOn '.').all isOctet

/-- What `IPv6Address._parse_hextet` reads. -/
def isHextet (text : List Char) : Bool :=
  text ≠ [] && text.all isHexDigit && text.length ≤ 4

/-- The parts between the colons, with two hextets for an IPv4 address at
the end. -/
def ipv6Parts (text : List Char) : Option (List (List Char)) :=
  let parts := text.splitOn ':'
  let suffix := parts.getLastD []
  if parts.length < 3 then none
  else if '.' ∈ suffix then
    if isIPv4 suffix = true then some (parts.dropLast ++ [['0'], ['0']])
    else none
  else some parts

/-- Of the parts, told which are empty, one at most stands for zeros that
are skipped, and the others are as many as they must be. -/
def partsFit (empty : List Bool) : Bool :=
  let inner := empty.tail.dropLast
  let first := empty.headD false
  let last := empty.getLastD false
  match inner.count true with
  | 0 => empty.length = 8 && !first && !last
  | 1 =>
      let skipIndex := 1 + inner.idxOf true
      let partsHi := if first then skipIndex - 1 else skipIndex
      let partsLo := empty.length - skipIndex - 1 - if last then 1 else 0
      (!first || partsHi = 0) && (!last || partsLo = 0)
        && partsHi + partsLo < 8
  | _ => false

/-- What `IPv6Address._ip_int_from_string` reads. -/
def isIPv6Int (text : List Char) : Bool :=
  match ipv6Parts text with
  | none => false
  | some parts =>
      parts.length ≤ 9 && partsFit (parts.map List.isEmpty)
        && parts.all fun part => part.isEmpty || isHextet part

/-- What `IPv6Address` reads: an address and perhaps a scope. -/
def isIPv6 (text : List Char) : Bool :=
  '/' ∉ text && isIPv6Int (text.takeWhile (· != '%'))
    && match (text.dropWhile (· != '%')).tail? with
      | none => true
      | some scopeId => scopeId ≠ [] && '%' ∉ scopeId

-- ================================================================ folding

theorem isDigit_caseless {c : Char} (h : c.isDigit = true) : Caseless c := by
  unfold Char.isDigit at h
  simp only [Bool.and_eq_true, decide_eq_true_eq] at h
  have hhigh : c.toNat ≤ 57 := h.2
  exact CaseFolding.caseless_of_range
    List.mem_cons_self (Nat.zero_le _)
    (hhigh.trans (by decide))

theorem casefold_digits {text : List Char}
    (h : ∀ c ∈ text, c.isDigit = true ∨ c = '.') : casefold text = text := by
  refine CaseFolding.casefold_eq_self fun c hc => ?_
  rcases h c hc with hdigit | rfl
  · exact CaseFolding.foldChar_of_caseless (isDigit_caseless hdigit)
  · exact CaseFolding.foldChar_of_caseless (by decide)

/-- A hexadecimal digit folds to one. -/
theorem foldChar_hexDigit {c : Char} (h : isHexDigit c = true) :
    ∃ d, CaseFolding.foldChar c = [d] ∧ isHexDigit d = true := by
  have hc : c.toNat < 128 := by
    unfold isHexDigit Char.isDigit at h
    simp only [Bool.or_eq_true, Bool.and_eq_true, decide_eq_true_eq] at h
    rcases h with (⟨-, h⟩ | ⟨-, h⟩) | ⟨-, h⟩
    · have : c.toNat ≤ 57 := h
      omega
    · have : c.toNat ≤ 102 := h
      omega
    · have : c.toNat ≤ 70 := h
      omega
  have hlower : isHexDigit c = true → isHexDigit c.toLower = true :=
    @CaseFolding.ascii_forall
      (fun c => isHexDigit c = true → isHexDigit c.toLower = true)
      (by decide +kernel) c hc
  exact ⟨c.toLower, CaseFolding.foldChar_ascii hc, hlower h⟩

theorem casefold_hexDigits {text : List Char}
    (h : text.all isHexDigit = true) :
    (casefold text).all isHexDigit = true
      ∧ (casefold text).length = text.length := by
  induction text with
  | nil => exact ⟨rfl, rfl⟩
  | cons c text ih =>
      rw [List.all_cons, Bool.and_eq_true] at h
      obtain ⟨d, hfold, hd⟩ := foldChar_hexDigit h.1
      obtain ⟨hall, hlength⟩ := ih h.2
      rw [CaseFolding.casefold_cons, hfold, List.singleton_append]
      refine ⟨?_, ?_⟩
      · rw [List.all_cons, hd, hall]
        rfl
      · rw [List.length_cons, List.length_cons, hlength]

theorem isHextet_casefold {text : List Char} (h : isHextet text = true) :
    isHextet (casefold text) = true := by
  unfold isHextet at h ⊢
  simp only [Bool.and_eq_true, decide_eq_true_eq] at h ⊢
  obtain ⟨⟨hne, hall⟩, hlength⟩ := h
  obtain ⟨hall', hlength'⟩ := casefold_hexDigits hall
  refine ⟨⟨?_, hall'⟩, ?_⟩
  · rw [Ne, CaseFolding.casefold_eq_nil_iff]
    exact hne
  · rw [hlength']
    exact hlength

theorem mem_of_splitOn {c : Char} {text : List Char} {d : Char}
    (h : d ∈ text) (hd : d ≠ c) : ∃ part ∈ text.splitOn c, d ∈ part := by
  induction text with
  | nil => cases h
  | cons e text ih =>
      rw [List.splitOn_cons_eq_if_modifyHead]
      by_cases he : e = c
      · rw [he, beq_self_eq_true, if_pos rfl]
        rcases List.mem_cons.mp h with rfl | h
        · exact absurd he hd
        · obtain ⟨part, hpart, hmem⟩ := ih h
          exact ⟨part, List.mem_cons_of_mem _ hpart, hmem⟩
      · rw [beq_eq_false_iff_ne.mpr he, if_neg Bool.false_ne_true]
        cases hsplit : text.splitOn c with
        | nil => exact absurd hsplit (List.splitOn_ne_nil c text)
        | cons first rest =>
            rw [List.modifyHead_cons]
            rcases List.mem_cons.mp h with rfl | h
            · exact ⟨_, List.mem_cons_self, List.mem_cons_self⟩
            · obtain ⟨part, hpart, hmem⟩ := ih h
              rw [hsplit] at hpart
              rcases List.mem_cons.mp hpart with rfl | hpart
              · exact ⟨_, List.mem_cons_self, List.mem_cons_of_mem _ hmem⟩
              · exact ⟨part, List.mem_cons_of_mem _ hpart, hmem⟩

theorem mem_isIPv4 {text : List Char} (h : isIPv4 text = true) {c : Char}
    (hc : c ∈ text) : c.isDigit = true ∨ c = '.' := by
  unfold isIPv4 at h
  rw [Bool.and_eq_true] at h
  by_cases hdot : c = '.'
  · exact .inr hdot
  · obtain ⟨part, hpart, hmem⟩ := mem_of_splitOn hc hdot
    have hoctet := List.all_eq_true.mp h.2 part hpart
    unfold isOctet at hoctet
    simp only [Bool.and_eq_true] at hoctet
    exact .inl (List.all_eq_true.mp hoctet.1.1.1.2 c hmem)

theorem casefold_isIPv4 {text : List Char} (h : isIPv4 text = true) :
    casefold text = text :=
  casefold_digits fun _ hc => mem_isIPv4 h hc

theorem ipv6Parts_casefold {text : List Char} {parts : List (List Char)}
    (h : ipv6Parts text = some parts) :
    ipv6Parts (casefold text) = some (parts.map casefold) := by
  have hdot : Caseless '.' := by decide
  unfold ipv6Parts at h ⊢
  simp only at h ⊢
  rw [CaseFolding.casefold_splitOn (by decide), List.length_map]
  have hsuffix : ((text.splitOn ':').map casefold).getLastD []
      = casefold ((text.splitOn ':').getLastD []) := by
    rw [List.getLastD_eq_getLast?, List.getLastD_eq_getLast?,
      List.getLast?_map]
    cases (text.splitOn ':').getLast? <;> rfl
  rw [hsuffix]
  split at h
  · cases h
  · rename_i hlength
    rw [if_neg hlength]
    split at h
    · rename_i hmem
      rw [if_pos ((CaseFolding.mem_casefold_iff hdot).mpr hmem)]
      split at h
      · rename_i hipv4
        cases h
        rw [casefold_isIPv4 hipv4, if_pos hipv4, List.map_append,
          List.map_dropLast]
        rfl
      · cases h
    · rename_i hmem
      rw [if_neg fun hmem' =>
        hmem ((CaseFolding.mem_casefold_iff hdot).mp hmem')]
      cases h
      rfl

theorem isIPv6Int_casefold {text : List Char} (h : isIPv6Int text = true) :
    isIPv6Int (casefold text) = true := by
  unfold isIPv6Int at h ⊢
  cases hparts : ipv6Parts text with
  | none => rw [hparts] at h; cases h
  | some parts =>
      rw [hparts] at h
      rw [ipv6Parts_casefold hparts]
      simp only [Bool.and_eq_true, decide_eq_true_eq] at h ⊢
      obtain ⟨⟨hlength, hfit⟩, hall⟩ := h
      have hempty : ∀ part : List Char,
          (casefold part).isEmpty = part.isEmpty := by
        intro part
        rw [Bool.eq_iff_iff, List.isEmpty_iff, List.isEmpty_iff,
          CaseFolding.casefold_eq_nil_iff]
      refine ⟨⟨?_, ?_⟩, ?_⟩
      · rw [List.length_map]
        exact hlength
      · have hempties : parts.map (List.isEmpty ∘ casefold)
            = parts.map List.isEmpty :=
          List.map_congr_left fun part _ => hempty part
        rw [List.map_map, hempties]
        exact hfit
      · rw [List.all_map]
        refine List.all_eq_true.mpr fun part hpart => ?_
        have hpart := List.all_eq_true.mp hall part hpart
        rw [Bool.or_eq_true] at hpart
        simp only [Function.comp_apply, hempty, Bool.or_eq_true]
        exact hpart.imp_right isHextet_casefold

/-- What the text of an address consists of. -/
theorem mem_isIPv6Int {text : List Char} (h : isIPv6Int text = true)
    {c : Char} (hc : c ∈ text) :
    isHexDigit c = true ∨ c = '.' ∨ c = ':' := by
  by_cases hcolon : c = ':'
  · exact .inr (.inr hcolon)
  have hdigit : c.isDigit = true → isHexDigit c = true := fun hd => by
    unfold isHexDigit
    rw [hd, Bool.true_or, Bool.true_or]
  have hhextets : ∀ {parts : List (List Char)} {part : List Char},
      (parts.all fun part => part.isEmpty || isHextet part) = true →
      part ∈ parts → c ∈ part → isHexDigit c = true := by
    intro parts part hall hpart hmem
    have hpart := List.all_eq_true.mp hall part hpart
    rw [Bool.or_eq_true, List.isEmpty_iff] at hpart
    have hhextet := hpart.resolve_left (List.ne_nil_of_mem hmem)
    unfold isHextet at hhextet
    simp only [Bool.and_eq_true] at hhextet
    exact List.all_eq_true.mp hhextet.1.2 c hmem
  obtain ⟨part, hpart, hmem⟩ := mem_of_splitOn hc hcolon
  unfold isIPv6Int ipv6Parts at h
  simp only at h
  split at h
  case h_1 => cases h
  case h_2 parts hparts =>
    simp only [Bool.and_eq_true] at h
    split at hparts
    · cases hparts
    · split at hparts
      · split at hparts
        case isTrue hipv4 =>
          cases hparts
          rw [← List.dropLast_append_getLast (List.splitOn_ne_nil ':' text),
            List.mem_append, List.mem_singleton] at hpart
          rcases hpart with hpart | rfl
          · exact .inl (hhextets h.2 (List.mem_append_left _ hpart) hmem)
          · rw [List.getLastD_eq_getLast?, List.getLast?_eq_some_getLast
              (List.splitOn_ne_nil ':' text)] at hipv4
            rcases mem_isIPv4 hipv4 hmem with hd | hdot
            · exact .inl (hdigit hd)
            · exact .inr (.inl hdot)
        case isFalse => cases hparts
      · cases hparts
        exact .inl (hhextets h.2 hpart hmem)

/-- An address has a colon. -/
theorem colon_mem_isIPv6Int {text : List Char} (h : isIPv6Int text = true) :
    ':' ∈ text := by
  by_contra hnot
  unfold isIPv6Int ipv6Parts at h
  rw [List.splitOn_eq_singleton hnot] at h
  cases h

/-- A text that is read as an IPv6 address is read as nothing else. -/
theorem isIPv6_only {text : List Char} (h : isIPv6 text = true) :
    text.head? ≠ some 'v' ∧ isIPv4 text = false := by
  unfold isIPv6 at h
  simp only [Bool.and_eq_true] at h
  have hcolon := colon_mem_isIPv6Int h.1.2
  refine ⟨?_, ?_⟩
  · intro hhead
    cases text with
    | nil => cases hhead
    | cons c text =>
        cases hhead
        have hmem : 'v' ∈ ('v' :: text).takeWhile (· != '%') := by
          rw [List.takeWhile_cons_of_pos (by decide)]
          exact List.mem_cons_self
        have hv := mem_isIPv6Int h.1.2 hmem
        revert hv
        decide
  · rw [← Bool.not_eq_true]
    intro hipv4
    have hv := mem_isIPv4 hipv4
      ((List.takeWhile_sublist _).mem hcolon)
    revert hv
    decide

/-- An address that is folded is one still. -/
theorem isIPv6_casefold {text : List Char} (h : isIPv6 text = true) :
    isIPv6 (casefold text) = true := by
  have hslash : Caseless '/' := by decide
  have hpercent : Caseless '%' := by decide
  have hcut : ∀ c : Char, (c != '%') = false → Caseless c := by
    intro c hc
    rw [bne_eq_false_iff_eq.mp hc]
    exact hpercent
  unfold isIPv6 at h ⊢
  simp only [Bool.and_eq_true, decide_eq_true_eq] at h ⊢
  obtain ⟨⟨hnot, haddress⟩, hscope⟩ := h
  rw [CaseFolding.casefold_takeWhile hcut, CaseFolding.casefold_dropWhile hcut]
  refine ⟨⟨?_, isIPv6Int_casefold haddress⟩, ?_⟩
  · rw [CaseFolding.mem_casefold_iff hslash]
    exact hnot
  · cases hrest : text.dropWhile (· != '%') with
    | nil => rfl
    | cons c rest =>
        have hc : c = '%' := by
          have hhead := List.head?_dropWhile_not (· != '%') text
          rw [hrest] at hhead
          simpa using hhead
        subst hc
        rw [hrest] at hscope
        simp only [List.tail?_cons, Bool.and_eq_true,
          decide_eq_true_eq] at hscope
        rw [CaseFolding.casefold_cons,
          CaseFolding.foldChar_of_caseless hpercent, List.singleton_append]
        simp only [List.tail?_cons, Bool.and_eq_true, decide_eq_true_eq,
          CaseFolding.mem_casefold_iff hpercent, Ne,
          CaseFolding.casefold_eq_nil_iff]
        exact hscope

end IpAddress
