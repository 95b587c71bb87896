/-
A quote is located where it stands: what is found says what the quote
says up to white space, and what is not found does not stand there.

Normalising with positions marks the characters it keeps (`marks`): each
with the position it was read at, and one space for a run of white space.
A mark that is no space parts the marks as its character parts the source
(`marks_split`), whatever white space is around it. So the marks from the
first character of the quote to the last are those of the part of the
source in between (`marks_slice`).
-/
import Mathlib.Data.List.Chain
import DeepResearch.Evidence.QuoteLocation
import DeepResearch.Lib.Trim

namespace DeepResearch.Evidence

open DeepResearch.Run (isSpace isSpace_space)

variable {value sourceText exactQuote : GraphText} {c : Char} {n p : Nat}

-- ================================================================= marks

/-- The characters that normalising keeps, with their positions, of a
text that begins at `n`: `started` and `matching` tell whether something
has been kept before it, and whether it follows white space. -/
def marks (started matching : Bool) (n : Nat) :
    GraphText → List (Char × Nat)
  | [] => []
  | c :: value =>
      if isSpace c then
        (if started = true ∧ matching = false then [(' ', n)] else [])
          ++ marks started true (n + 1) value
      else (c, n) :: marks true false (n + 1) value

/-- A text without the one space that may stand at its end. -/
def dropSpace (text : GraphText) : GraphText :=
  if text.getLast? = some ' ' then text.dropLast else text

theorem read_char {s : Normalization} (hc : ¬ isSpace c = true) :
    s.read (c, n) =
      { normalized := s.normalized ++ [c]
        positions := s.positions ++ [n]
        inWhitespace := false } :=
  if_neg hc

theorem read_gap {s : Normalization} (hc : isSpace c = true)
    (hgap : s.normalized ≠ [] ∧ s.inWhitespace = false) :
    s.read (c, n) =
      { normalized := s.normalized ++ [' ']
        positions := s.positions ++ [n]
        inWhitespace := true } :=
  (if_pos hc).trans (if_pos hgap)

theorem read_skip {s : Normalization} (hc : isSpace c = true)
    (hgap : ¬ (s.normalized ≠ [] ∧ s.inWhitespace = false)) :
    s.read (c, n) = { s with inWhitespace := true } :=
  (if_pos hc).trans (if_neg hgap)

/-- The loop keeps the marks. -/
theorem foldl_read {s : Normalization} {started : Bool}
    (hstarted : started = true ↔ s.normalized ≠ []) (n : Nat)
    (value : GraphText) :
    ((value.zipIdx n).foldl Normalization.read s).normalized
        = s.normalized
          ++ (marks started s.inWhitespace n value).map Prod.fst
      ∧ ((value.zipIdx n).foldl Normalization.read s).positions
        = s.positions
          ++ (marks started s.inWhitespace n value).map Prod.snd := by
  induction value generalizing s started n with
  | nil => exact ⟨(List.append_nil _).symm, (List.append_nil _).symm⟩
  | cons c value ih =>
      rw [List.zipIdx_cons, List.foldl_cons, marks]
      by_cases hc : isSpace c = true
      · rw [if_pos hc]
        by_cases hgap : s.normalized ≠ [] ∧ s.inWhitespace = false
        · rw [read_gap hc hgap, if_pos ⟨hstarted.mpr hgap.1, hgap.2⟩,
            hstarted.mpr hgap.1]
          obtain ⟨htext, hpositions⟩ := @ih
            ⟨s.normalized ++ [' '], s.positions ++ [n], true⟩ true
            (by simp) (n + 1)
          rw [htext, hpositions, List.append_assoc, List.append_assoc]
          exact ⟨rfl, rfl⟩
        · rw [read_skip hc hgap,
            if_neg fun h => hgap ⟨hstarted.mp h.1, h.2⟩, List.nil_append]
          exact @ih { s with inWhitespace := true } started hstarted (n + 1)
      · rw [if_neg hc, read_char hc]
        obtain ⟨htext, hpositions⟩ := @ih
          ⟨s.normalized ++ [c], s.positions ++ [n], false⟩ true
          (by simp) (n + 1)
        rw [htext, hpositions, List.append_assoc, List.append_assoc]
        exact ⟨rfl, rfl⟩

/-- A mark that is no space parts the marks as its character parts the
text. -/
theorem marks_split {started matching : Bool}
    {before rest : List (Char × Nat)}
    (h : marks started matching n value = before ++ (c, p) :: rest)
    (hc : isSpace c = false) :
    ∃ left right, value = left ++ c :: right ∧ p = n + left.length
      ∧ marks started matching n (left ++ [c]) = before ++ [(c, p)]
      ∧ marks true false (p + 1) right = rest := by
  induction value generalizing started matching n before with
  | nil => cases before <;> cases h
  | cons d value ih =>
      rw [marks] at h
      -- A space is a mark at the first place of a gap only.
      by_cases hd : isSpace d = true
      · rw [if_pos hd] at h
        by_cases hgap : started = true ∧ matching = false
        · rw [if_pos hgap, List.singleton_append] at h
          cases before with
          | nil =>
              rw [List.nil_append] at h
              injection h with hmark _
              injection hmark with hspace _
              -- The mark looked for is no space.
              rw [← hspace, isSpace_space] at hc
              cases hc
          | cons mark before =>
              rw [List.cons_append] at h
              injection h with hmark htail
              obtain ⟨left, right, rfl, rfl, hleft, hright⟩ := ih htail
              refine ⟨d :: left, right, rfl, ?_, ?_, hright⟩
              · rw [List.length_cons]
                omega
              · rw [List.cons_append, marks, if_pos hd, if_pos hgap, hleft,
                  hmark]
                rfl
        · rw [if_neg hgap, List.nil_append] at h
          obtain ⟨left, right, rfl, rfl, hleft, hright⟩ := ih h
          refine ⟨d :: left, right, rfl, ?_, ?_, hright⟩
          · rw [List.length_cons]
            omega
          · rw [List.cons_append, marks, if_pos hd, if_neg hgap, hleft]
            rfl
      · rw [if_neg hd] at h
        cases before with
        | nil =>
            rw [List.nil_append] at h
            injection h with hmark htail
            injection hmark with hchar hpos
            subst hchar hpos
            refine ⟨[], value, rfl, rfl, ?_, htail⟩
            rw [List.nil_append, marks, if_neg hd]
            rfl
        | cons mark before =>
            rw [List.cons_append] at h
            injection h with hmark htail
            obtain ⟨left, right, rfl, rfl, hleft, hright⟩ := ih htail
            refine ⟨d :: left, right, rfl, ?_, ?_, hright⟩
            · rw [List.length_cons]
              omega
            · rw [List.cons_append, marks, if_neg hd, hleft, hmark]
              rfl

/-- What is kept does not depend on where the text begins. -/
theorem fst_marks (started matching : Bool) (n m : Nat)
    (value : GraphText) :
    (marks started matching n value).map Prod.fst
      = (marks started matching m value).map Prod.fst := by
  induction value generalizing started matching n m with
  | nil => rfl
  | cons c value ih =>
      rw [marks, marks]
      split
      · rw [List.map_append, List.map_append, ih started true (n + 1) (m + 1)]
        split <;> rfl
      · rw [List.map_cons, List.map_cons, ih true false (n + 1) (m + 1)]

/-- The marks between two that are no spaces are those of the part of the
text in between. -/
theorem marks_slice {before middle rest : List (Char × Nat)}
    {first last : Char} {start stop : Nat}
    (h : marks false false 0 sourceText
      = before ++ middle ++ rest)
    (hfirst : middle.head? = some (first, start))
    (hlast : middle.getLast? = some (last, stop))
    (hsolid : isSpace first = false) (hsolid' : isSpace last = false) :
    start ≤ stop ∧ stop < sourceText.length
      ∧ (marks false false 0
          (Substring.slice sourceText start (stop + 1))).map Prod.fst
        = middle.map Prod.fst := by
  obtain ⟨front, rfl⟩ := List.getLast?_eq_some_iff.mp hlast
  rw [← List.append_assoc, List.append_assoc _ _ rest,
    List.singleton_append] at h
  obtain ⟨left, right, hsource, hstop, hleft, -⟩ := marks_split h hsolid'
  obtain ⟨back, hback⟩ := List.head?_eq_some_iff.mp hfirst
  rw [List.append_assoc, hback] at hleft
  obtain ⟨outer, inner, hinner, hstart, -, hmarks⟩ :=
    marks_split hleft hsolid
  have hlength : left.length + 1 = outer.length + (inner.length + 1) := by
    have hsame := congrArg List.length hinner
    rw [List.length_append, List.length_append] at hsame
    exact hsame
  have hwhole : sourceText = outer ++ (first :: inner) ++ right := by
    rw [hsource, ← hinner, List.append_assoc]
    rfl
  rw [Nat.zero_add] at hstart hstop
  have hslice : Substring.slice sourceText start (stop + 1)
      = first :: inner := by
    rw [hwhole, hstart, hstop, hlength]
    exact Substring.slice_append_append outer (first :: inner) right
  refine ⟨?_, ?_, ?_⟩
  · omega
  · rw [hsource, List.length_append, List.length_cons]
    omega
  · have hsolid : ¬ isSpace first = true := by
      rw [hsolid]
      exact Bool.false_ne_true
    rw [hslice, hback, ← hmarks, marks, if_neg hsolid, List.map_cons,
      List.map_cons, fst_marks true false (0 + 1) (start + 1)]

-- =========================================================== normal texts

/-- No space but the one, and nowhere two of them. -/
structure SingleSpaced (text : GraphText) : Prop where
  space : ∀ c ∈ text, isSpace c = true → c = ' '
  apart : text.IsChain fun a b => isSpace a = true → isSpace b = false

theorem SingleSpaced.cons {text : GraphText} (h : SingleSpaced text)
    (hc : isSpace c = true → c = ' ')
    (hnext : isSpace c = true →
      ∀ d, text.head? = some d → isSpace d = false) :
    SingleSpaced (c :: text) where
  space d hd := by
    rcases List.mem_cons.mp hd with rfl | hd
    · exact hc
    · exact h.space d hd
  apart := List.isChain_cons.mpr ⟨fun d hd hspace => hnext hspace d hd, h.apart⟩

theorem singleSpaced_subWhitespace (value : GraphText) :
    SingleSpaced (subWhitespace false value)
      ∧ SingleSpaced (subWhitespace true value)
      ∧ ∀ d, (subWhitespace true value).head? = some d →
        isSpace d = false := by
  induction value with
  | nil => exact ⟨⟨nofun, .nil⟩, ⟨nofun, .nil⟩, nofun⟩
  | cons c value ih =>
      obtain ⟨hfalse, htrue, hhead⟩ := ih
      rw [subWhitespace, subWhitespace]
      by_cases hc : isSpace c = true
      · rw [if_pos hc, if_pos hc, if_neg Bool.false_ne_true, if_pos rfl]
        exact ⟨htrue.cons (fun _ => rfl) fun _ => hhead, htrue, hhead⟩
      · rw [if_neg hc, if_neg hc]
        have hcons : SingleSpaced (c :: subWhitespace false value) :=
          hfalse.cons (fun h => absurd h hc) fun h => absurd h hc
        refine ⟨hcons, hcons, ?_⟩
        rintro d ⟨⟩
        exact Bool.eq_false_iff.mpr hc

/-- Of a text with single spaces, `rstrip` takes at most one. -/
theorem SingleSpaced.rdropWhile {text : GraphText} (h : SingleSpaced text) :
    text.rdropWhile isSpace = dropSpace text := by
  rcases List.eq_nil_or_concat text with rfl | ⟨front, c, rfl⟩
  · rfl
  · unfold dropSpace
    rw [List.concat_eq_append, List.getLast?_concat, List.dropLast_concat]
    rw [List.concat_eq_append] at h
    by_cases hc : isSpace c = true
    · have hspace : c = ' ' :=
        h.space c (List.mem_append_right _ List.mem_cons_self) hc
      rw [List.rdropWhile_concat_pos isSpace front c hc, hspace, if_pos rfl]
      refine Trim.rdropWhile_eq_self fun d hd => ?_
      rw [← Bool.not_eq_true]
      intro hdspace
      have hnot := (List.isChain_append.mp h.apart).2.2 d hd c rfl hdspace
      rw [hc] at hnot
      cases hnot
    · have hspace : c ≠ ' ' := by
        rintro rfl
        exact hc isSpace_space
      rw [List.rdropWhile_concat_neg isSpace front c hc,
        if_neg fun h => hspace (Option.some.inj h)]

/-- Stripping first, or substituting first. -/
theorem dropWhile_subWhitespace (matching : Bool) (value : GraphText) :
    (subWhitespace matching value).dropWhile isSpace
      = subWhitespace false (value.dropWhile isSpace) := by
  induction value generalizing matching with
  | nil => rfl
  | cons c value ih =>
      rw [subWhitespace]
      by_cases hc : isSpace c = true
      · rw [if_pos hc, List.dropWhile_cons_of_pos hc, ← ih true]
        split
        · rfl
        · exact List.dropWhile_cons_of_pos isSpace_space
      · rw [if_neg hc, List.dropWhile_cons_of_neg hc,
          List.dropWhile_cons_of_neg hc, subWhitespace, if_neg hc]

/-- Once something is kept, the marks are the substituted text. -/
theorem marks_started (matching : Bool) (n : Nat) (value : GraphText) :
    (marks true matching n value).map Prod.fst
      = subWhitespace matching value := by
  induction value generalizing matching n with
  | nil => rfl
  | cons c value ih =>
      rw [marks, subWhitespace]
      by_cases hc : isSpace c = true
      · rw [if_pos hc, if_pos hc, List.map_append, ih]
        cases matching <;> rfl
      · rw [if_neg hc, if_neg hc, List.map_cons, ih]

theorem marks_fresh (matching : Bool) (n : Nat) (value : GraphText) :
    (marks false matching n value).map Prod.fst
      = subWhitespace false (value.dropWhile isSpace) := by
  induction value generalizing matching n with
  | nil => rfl
  | cons c value ih =>
      rw [marks]
      by_cases hc : isSpace c = true
      · rw [if_pos hc, if_neg fun h => Bool.false_ne_true h.1,
          List.nil_append, ih, List.dropWhile_cons_of_pos hc]
      · rw [if_neg hc, List.map_cons, marks_started,
          List.dropWhile_cons_of_neg hc, subWhitespace, if_neg hc]

/-- The normal text is what the marks keep. -/
theorem normalizeGraphText_eq (value : GraphText) :
    normalizeGraphText value
      = dropSpace ((marks false false 0 value).map Prod.fst) := by
  have hspaced := (singleSpaced_subWhitespace (value.dropWhile isSpace)).1
  show ((subWhitespace false value).dropWhile isSpace).rdropWhile isSpace = _
  rw [marks_fresh, ← hspaced.rdropWhile, dropWhile_subWhitespace]

/-- The hand-written normaliser agrees with the regular expression, and
its positions are those of the marks. -/
theorem normalizeWithPositions_eq (value : GraphText) :
    ∃ kept rest, marks false false 0 value = kept ++ rest
      ∧ normalizeWithPositions value
        = (kept.map Prod.fst, kept.map Prod.snd)
      ∧ normalizeGraphText value = kept.map Prod.fst := by
  obtain ⟨htext, hpositions⟩ := @foldl_read {} false (by simp) 0 value
  rw [normalizeGraphText_eq]
  unfold normalizeWithPositions dropSpace
  rw [List.nil_append] at htext hpositions
  simp only [htext, hpositions]
  by_cases hlast : ((marks false false 0 value).map Prod.fst).getLast?
      = some ' '
  · have hne : marks false false 0 value ≠ [] := by
      intro hnil
      rw [hnil] at hlast
      cases hlast
    refine ⟨(marks false false 0 value).dropLast,
      [(marks false false 0 value).getLast hne], ?_, ?_, ?_⟩
    · exact (List.dropLast_append_getLast hne).symm
    · rw [if_pos hlast, List.map_dropLast, List.map_dropLast]
    · rw [if_pos hlast, List.map_dropLast]
  · refine ⟨marks false false 0 value, [], (List.append_nil _).symm, ?_, ?_⟩
    · rw [if_neg hlast]
    · rw [if_neg hlast]

-- =============================================================== locating

theorem mem_subWhitespace (h : c ∈ value) (hc : isSpace c = false)
    (matching : Bool) : c ∈ subWhitespace matching value := by
  induction value generalizing matching with
  | nil => cases h
  | cons d value ih =>
      rw [subWhitespace]
      by_cases hd : isSpace d = true
      · have hmem : c ∈ value := by
          rcases List.mem_cons.mp h with rfl | h
          · rw [hc] at hd
            cases hd
          · exact h
        rw [if_pos hd]
        split
        · exact ih hmem true
        · exact List.mem_cons_of_mem _ (ih hmem true)
      · rw [if_neg hd]
        rcases List.mem_cons.mp h with rfl | h
        · exact List.mem_cons_self
        · exact List.mem_cons_of_mem _ (ih h false)

/-- The normal form of a text that is not blank begins and ends with
characters that are no white space. -/
theorem normalizeGraphText_ends (h : ∃ c ∈ value, isSpace c = false) :
    normalizeGraphText value ≠ []
      ∧ (∀ c, (normalizeGraphText value).head? = some c → isSpace c = false)
      ∧ ∀ c, (normalizeGraphText value).getLast? = some c →
        isSpace c = false := by
  obtain ⟨c, hc, hsolid⟩ := h
  refine ⟨?_, fun c => Trim.head_trim, fun c => Trim.last_trim⟩
  exact List.ne_nil_of_mem
    (Trim.mem_trim (mem_subWhitespace hc hsolid false) hsolid)

/-- Kept marks that spell the normal form of a text span a part of the
source with the same normal form. -/
theorem span_spec {before middle rest : List (Char × Nat)}
    (h : marks false false 0 sourceText = before ++ middle ++ rest)
    (hquote : ∃ c ∈ exactQuote, isSpace c = false)
    (hspell : middle.map Prod.fst = normalizeGraphText exactQuote) :
    ∃ first last start stop, middle.head? = some (first, start)
      ∧ middle.getLast? = some (last, stop)
      ∧ start ≤ stop ∧ stop < sourceText.length
      ∧ normalizeGraphText (Substring.slice sourceText start (stop + 1))
        = normalizeGraphText exactQuote := by
  obtain ⟨hne, hhead, hlast⟩ := normalizeGraphText_ends hquote
  rw [← hspell] at hne hhead hlast
  have hmiddle : middle ≠ [] := fun hnil => hne (by rw [hnil]; rfl)
  obtain ⟨⟨first, start⟩, hfirst⟩ :=
    Option.ne_none_iff_exists'.mp (List.head?_eq_none_iff.not.mpr hmiddle)
  obtain ⟨⟨last, stop⟩, hstop⟩ :=
    Option.ne_none_iff_exists'.mp (List.getLast?_eq_none_iff.not.mpr hmiddle)
  rw [List.head?_map, hfirst] at hhead
  have hend := hlast last (by rw [List.getLast?_map, hstop]; rfl)
  obtain ⟨hle, hlt, hmarks⟩ :=
    marks_slice h hfirst hstop (hhead first rfl) hend
  refine ⟨first, last, start, stop, hfirst, hstop, hle, hlt, ?_⟩
  rw [normalizeGraphText_eq, hmarks, ← hspell]
  unfold dropSpace
  rw [if_neg]
  intro hspace
  have hsolid := hlast ' ' hspace
  rw [isSpace_space] at hsolid
  cases hsolid

/-- Looking up the ends of a quote among the kept marks. -/
theorem positions_of_parts (before after : List (Char × Nat))
    {middle : List (Char × Nat)} {first last : Char} {start stop : Nat}
    (hfirst : middle.head? = some (first, start))
    (hlast : middle.getLast? = some (last, stop)) :
    ((before ++ middle ++ after).map Prod.snd).getD before.length 0 = start
      ∧ ((before ++ middle ++ after).map Prod.snd).getD
          (before.length + middle.length - 1) 0 = stop := by
  have hpos : 0 < middle.length := by
    cases middle with
    | nil => cases hfirst
    | cons mark middle => exact Nat.succ_pos _
  have hinside : ∀ k, k < middle.length →
      (before ++ middle ++ after)[before.length + k]? = middle[k]? := by
    intro k hk
    rw [List.append_assoc, List.getElem?_append_right (by omega),
      Nat.add_sub_cancel_left, List.getElem?_append_left hk]
  have hstop : before.length + middle.length - 1
      = before.length + (middle.length - 1) := by omega
  rw [List.getD_eq_getElem?_getD, List.getD_eq_getElem?_getD,
    List.getElem?_map, List.getElem?_map]
  refine ⟨?_, ?_⟩
  · rw [← Nat.add_zero before.length, hinside 0 hpos,
      ← List.head?_eq_getElem?, hfirst]
    rfl
  · rw [hstop, hinside _ (by omega), ← List.getLast?_eq_getElem?, hlast]
    rfl

/-- Where the normal form of a quote occurs among the kept characters, the
quote is located. -/
theorem locate_normalized {kept rest : List (Char × Nat)} {start : Nat}
    (h : marks false false 0 sourceText = kept ++ rest)
    (hquote : ∃ c ∈ exactQuote, isSpace c = false)
    (hfind : Substring.find (normalizeGraphText exactQuote)
      (kept.map Prod.fst) = some start) :
    let stop := start + (normalizeGraphText exactQuote).length - 1
    stop < kept.length
      ∧ (kept.map Prod.snd).getD start 0
          < (kept.map Prod.snd).getD stop 0 + 1
      ∧ (kept.map Prod.snd).getD stop 0 + 1 ≤ sourceText.length
      ∧ normalizeGraphText (Substring.slice sourceText
          ((kept.map Prod.snd).getD start 0)
          ((kept.map Prod.snd).getD stop 0 + 1))
        = normalizeGraphText exactQuote := by
  have hprefix := Substring.prefix_of_find hfind
  rw [← List.map_drop] at hprefix
  obtain ⟨tail, htail⟩ := hprefix
  -- The marks found spell the quote.
  have hspell : ((kept.drop start).take
      (normalizeGraphText exactQuote).length).map Prod.fst
      = normalizeGraphText exactQuote := by
    rw [List.map_take, ← htail, List.take_left]
  have hparts : kept = kept.take start
      ++ (kept.drop start).take (normalizeGraphText exactQuote).length
      ++ (kept.drop start).drop (normalizeGraphText exactQuote).length := by
    rw [List.append_assoc, List.take_append_drop, List.take_append_drop]
  have hlength := congrArg List.length hspell
  rw [List.length_map] at hlength
  have hne := (normalizeGraphText_ends hquote).1
  have hpos : 0 < (normalizeGraphText exactQuote).length :=
    List.length_pos_iff.mpr hne
  have hstart : (kept.take start).length = start := by
    rw [List.length_take, List.length_drop] at hlength
    rw [List.length_take]
    omega
  have hsource : marks false false 0 sourceText = kept.take start
      ++ (kept.drop start).take (normalizeGraphText exactQuote).length
      ++ ((kept.drop start).drop (normalizeGraphText exactQuote).length
        ++ rest) := by
    rw [h, ← List.append_assoc, ← hparts]
  -- Their first and last places bound the span in the source.
  obtain ⟨first, last, s, e, hfirst, hlast, hle, hlt, hnormal⟩ :=
    span_spec hsource hquote hspell
  obtain ⟨hs, he⟩ := positions_of_parts (kept.take start)
    ((kept.drop start).drop (normalizeGraphText exactQuote).length)
    hfirst hlast
  rw [← hparts, hstart] at hs
  rw [← hparts, hstart, hlength] at he
  show start + (normalizeGraphText exactQuote).length - 1 < kept.length ∧ _
  rw [hs, he]
  refine ⟨?_, by omega, by omega, hnormal⟩
  rw [List.length_take, List.length_drop] at hlength
  omega

/-- Locating a quote that is not blank: what is returned is a part of the
source with the quote's normal form, and nothing is returned only where
the normal form of the quote does not occur in that of the source. -/
theorem locateQuote_exact
    (hquote : ∃ c ∈ exactQuote, isSpace c = false) :
    (∀ start stop, locateQuote sourceText exactQuote = some (start, stop) →
      start < stop ∧ stop ≤ sourceText.length
        ∧ normalizeGraphText (Substring.slice sourceText start stop)
          = normalizeGraphText exactQuote)
    ∧ (locateQuote sourceText exactQuote = none →
      ¬ normalizeGraphText exactQuote
        <:+: normalizeGraphText sourceText) := by
  unfold locateQuote
  cases hdirect : Substring.find exactQuote sourceText with
  | some directStart =>
      refine ⟨?_, nofun⟩
      rintro start stop ⟨⟩
      obtain ⟨tail, htail⟩ := Substring.prefix_of_find hdirect
      have hlength := congrArg List.length htail
      rw [List.length_append, List.length_drop] at hlength
      have hpos : 0 < exactQuote.length := by
        obtain ⟨c, hc, -⟩ := hquote
        exact List.length_pos_of_mem hc
      refine ⟨by omega, by omega, ?_⟩
      unfold Substring.slice
      rw [← htail, Nat.add_sub_cancel_left, List.take_left]
  | none =>
      obtain ⟨kept, rest, hmarks, hsource, hnormal⟩ :=
        normalizeWithPositions_eq sourceText
      simp only [hsource]
      rw [hnormal]
      cases hfind : Substring.find (normalizeGraphText exactQuote)
          (kept.map Prod.fst) with
      | none =>
          exact ⟨nofun, fun _ => Substring.find_eq_none_iff.mp hfind⟩
      | some normalizedStart =>
          obtain ⟨hstop, hlt, hle, hsame⟩ :=
            locate_normalized hmarks hquote hfind
          have hne := (normalizeGraphText_ends hquote).1
          simp only [List.length_map]
          rw [if_neg hne, if_neg (Nat.not_le.mpr hstop)]
          refine ⟨?_, nofun⟩
          rintro start stop ⟨⟩
          exact ⟨hlt, hle, hsame⟩

/-- A quote across a line break. -/
theorem locateQuote_exact_sample :
    locateQuote ['x', ' ', 'a', ' ', '\n', 'b', ' '] ['a', ' ', 'b']
        = some (2, 6)
      ∧ normalizeGraphText (Substring.slice
          ['x', ' ', 'a', ' ', '\n', 'b', ' '] 2 6)
        = normalizeGraphText ['a', ' ', 'b'] := by
  have hfound : locateQuote ['x', ' ', 'a', ' ', '\n', 'b', ' ']
      ['a', ' ', 'b'] = some (2, 6) := by decide
  have hquote : ∃ c ∈ ['a', ' ', 'b'], isSpace c = false :=
    ⟨'a', by decide, by decide⟩
  exact ⟨hfound, ((locateQuote_exact hquote).1 2 6 hfound).2.2⟩

end DeepResearch.Evidence
