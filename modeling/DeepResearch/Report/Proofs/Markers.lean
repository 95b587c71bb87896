/-
What the marker pattern reads in an assembled line.

A line is a cleaned text, a space and the markers of its cards. The
space ends whatever the text had begun, so the markers of the line are
those still in the text, followed by the appended ones. Cleaned text has
no line break, so the lines of a section can be split again.

# What cleaning leaves over

Reading loses nothing (`flatMap_text_scan`), so a marker in a text whose
markers were removed can be found in the text itself: its brackets and
digits stood there with whole markers between them. Were there none
between them it would have been read as a marker and removed. So exactly
the brackets with digits and markers in them leave a marker
(`mem_markerNumbers_removeMarkers_iff`), and as no marker has a space,
cleaning changes nothing about that
(`mem_markerNumbers_cleanParagraph_iff`).
-/
import DeepResearch.Lib.Words
import Mathlib.Data.List.DropRight
import DeepResearch.Report.Markers

namespace DeepResearch.Report

open DecimalDigits (intOf intOf_toDigits isDecimal isDecimal_induction
  isDecimal_of_mem_toDigits)
open DeepResearch.Run (isSpace isSpace_space strip)
open Words (not_sep_of_mem_splitOnP)

-- ================================================================= tokens

/-- The text that is read as a token. -/
def Token.text : Token → Text
  | .char c => [c]
  | .marker digits => '[' :: (digits ++ [']'])

/-- The character that a token leaves behind when markers are removed. -/
def Token.kept : Token → Option Char
  | .char c => some c
  | .marker _ => none

/-- A character of a kind, or a marker. -/
def Token.IsOf (p : Char → Bool) : Token → Prop
  | .char c => p c = true
  | .marker digits => digits ≠ [] ∧ ∀ c ∈ digits, isDecimal c = true

instance (p : Char → Bool) : (token : Token) → Decidable (token.IsOf p)
  | .char c => inferInstanceAs (Decidable (p c = true))
  | .marker digits =>
      inferInstanceAs (Decidable (digits ≠ [] ∧ ∀ c ∈ digits, _))

theorem removeMarkers_eq (value : Text) :
    removeMarkers value = (scan none value).filterMap Token.kept := rfl

theorem Token.text_ne_nil (token : Token) : token.text ≠ [] := by
  cases token <;> exact List.cons_ne_nil _ _

@[simp] theorem flatMap_text_char (cs : Text) :
    (cs.map Token.char).flatMap Token.text = cs := by
  rw [List.flatMap_map]
  exact List.flatMap_singleton' cs

/-- Tokens none of which is a marker. -/
theorem eq_map_char {tokens : List Token}
    (h : ∀ digits, .marker digits ∉ tokens) :
    tokens = (tokens.filterMap Token.kept).map .char := by
  induction tokens with
  | nil => rfl
  | cons token tokens ih =>
      cases token with
      | char c =>
          have htokens := ih fun digits hmem =>
            h digits (List.mem_cons_of_mem _ hmem)
          exact congrArg (Token.char c :: ·) htokens
      | marker digits => exact absurd List.mem_cons_self (h digits)

/-- Tokens are told apart by their texts, where they go on the same. -/
theorem prefix_eq {tokens tokens' rest rest' : List Token}
    (htext : tokens.flatMap Token.text = tokens'.flatMap Token.text)
    (h : tokens ++ rest = tokens' ++ rest') : tokens = tokens' := by
  have hnil : ∀ more : List Token, more.flatMap Token.text = [] →
      more = [] := by
    intro more hmore
    rw [List.flatMap_eq_nil_iff] at hmore
    exact List.eq_nil_iff_forall_not_mem.mpr fun token hmem =>
      token.text_ne_nil (hmore token hmem)
  rcases List.append_eq_append_iff.mp h with ⟨more, rfl, -⟩ | ⟨more, rfl, -⟩
  · rw [List.flatMap_append, List.self_eq_append_right] at htext
    rw [hnil more htext, List.append_nil]
  · rw [List.flatMap_append, List.append_right_eq_self] at htext
    rw [hnil more htext, List.append_nil]

-- ================================================================== scan

/-- Reading loses nothing. -/
theorem flatMap_text_scan (pending : Option Text) (value : Text) :
    (scan pending value).flatMap Token.text
      = pending.elim [] ('[' :: ·) ++ value := by
  induction value generalizing pending with
  | nil =>
      cases pending with
      | none => rfl
      | some digits =>
          show (unread digits).flatMap Token.text = _
          rw [unread, flatMap_text_char]
          exact (List.append_nil _).symm
  | cons c value ih =>
      cases pending with
      | none =>
          simp only [scan]
          split
          case isTrue hc =>
            rw [ih, hc]
            rfl
          case isFalse =>
            rw [List.flatMap_cons, ih]
            rfl
      | some digits =>
          simp only [scan]
          split
          case isTrue =>
            rw [ih]
            simp
          case isFalse =>
            split
            case isTrue hclose =>
              rw [List.flatMap_cons, ih, hclose.1]
              simp [Token.text]
            case isFalse =>
              rw [List.flatMap_append, unread, flatMap_text_char]
              split
              case isTrue hc =>
                rw [ih, hc]
                rfl
              case isFalse =>
                rw [List.flatMap_cons, ih]
                rfl

/-- What is read as a marker is one. -/
theorem isOf_of_mem_scan {pending : Option Text} {value : Text}
    (hpending : ∀ digits, pending = some digits →
      ∀ c ∈ digits, isDecimal c = true) :
    ∀ token ∈ scan pending value, token.IsOf fun _ => true := by
  have hchars : ∀ (cs : Text), ∀ token ∈ cs.map Token.char,
      token.IsOf fun _ => true := by
    intro cs token htoken
    obtain ⟨c, -, rfl⟩ := List.mem_map.mp htoken
    rfl
  have hopen : ∀ digits : Text, some [] = some digits →
      ∀ c ∈ digits, isDecimal c = true := by
    rintro digits hdigits c hc
    cases hdigits
    cases hc
  have hnone : ∀ digits : Text, none = some digits →
      ∀ c ∈ digits, isDecimal c = true := fun digits h => by cases h
  induction value generalizing pending with
  | nil =>
      cases pending with
      | none => exact fun token h => by cases h
      | some digits => exact hchars _
  | cons c value ih =>
      cases pending with
      | none =>
          simp only [scan]
          split
          · exact ih hopen
          · exact List.forall_mem_cons.mpr ⟨rfl, ih hnone⟩
      | some digits =>
          have hdigits := hpending digits rfl
          simp only [scan]
          split
          -- A further digit of the open marker.
          case isTrue hc =>
            refine ih fun digits' h d hd => ?_
            cases h
            rcases List.mem_append.mp hd with hd | hd
            · exact hdigits d hd
            · rw [List.mem_singleton.mp hd]
              exact hc
          case isFalse =>
            split
            case isTrue hclose =>
              exact List.forall_mem_cons.mpr ⟨⟨hclose.2, hdigits⟩, ih hnone⟩
            case isFalse =>
              -- The bracket opened no marker: what was pending is text.
              refine List.forall_mem_append.mpr ⟨hchars _, ?_⟩
              split
              · exact ih hopen
              · exact List.forall_mem_cons.mpr ⟨rfl, ih hnone⟩

/-- What ends whatever has been begun is read on its own. -/
theorem scan_append_of {rest : Text} {tokens : List Token}
    (h : ∀ pending, scan pending rest = scan pending [] ++ tokens)
    (pending : Option Text) (text : Text) :
    scan pending (text ++ rest) = scan pending text ++ tokens := by
  induction text generalizing pending with
  | nil => exact h pending
  | cons c text ih =>
      rw [List.cons_append]
      cases pending with
      | none =>
          simp only [scan]
          split
          · exact ih _
          · rw [ih, List.cons_append]
      | some digits =>
          simp only [scan]
          split
          · exact ih _
          · split
            · rw [ih, List.cons_append]
            · split
              · rw [ih, List.append_assoc]
              · rw [ih, List.append_assoc, List.cons_append]

/-- An opening bracket ends what has been begun. -/
theorem scan_append_bracket (pending : Option Text) (text rest : Text) :
    scan pending (text ++ '[' :: rest)
      = scan pending text ++ scan (some []) rest := by
  have hbracket : isDecimal '[' = false := by decide
  refine scan_append_of (fun pending => ?_) pending text
  cases pending with
  | none => simp [scan]
  | some digits => simp [scan, hbracket]

/-- A character of no marker ends what has been begun. -/
theorem scan_append_plain {c : Char} (hdecimal : isDecimal c = false)
    (hopen : c ≠ '[') (hclose : c ≠ ']') (pending : Option Text)
    (text rest : Text) :
    scan pending (text ++ c :: rest)
      = scan pending text ++ .char c :: scan none rest := by
  refine scan_append_of (fun pending => ?_) pending text
  cases pending with
  | none => simp [scan, hopen]
  | some digits => simp [scan, hdecimal, hopen, hclose]

/-- Digits after an opening bracket are kept. -/
theorem scan_decimals (pending : Text) {digits : Text}
    (h : ∀ c ∈ digits, isDecimal c = true) (rest : Text) :
    scan (some pending) (digits ++ rest)
      = scan (some (pending ++ digits)) rest := by
  induction digits generalizing pending with
  | nil => rw [List.append_nil, List.nil_append]
  | cons c digits ih =>
      rw [List.cons_append, scan, if_pos (h c (List.mem_cons_self ..)),
        ih _ fun d hd => h d (List.mem_cons_of_mem _ hd)]
      rw [List.append_assoc, List.singleton_append]

/-- Digits between brackets are a marker. -/
theorem scan_digits {digits : Text} (hne : digits ≠ [])
    (h : ∀ c ∈ digits, isDecimal c = true) (rest : Text) :
    scan (some []) (digits ++ ']' :: rest)
      = .marker digits :: scan none rest := by
  have hbracket : isDecimal ']' = false := by decide
  rw [scan_decimals [] h, List.nil_append, scan, if_neg (by simp [hbracket]),
    if_pos ⟨rfl, hne⟩]

/-- Tokens outside a bracket are read as they are. -/
theorem scan_tokens {p : Char → Bool} (hp : p '[' = false)
    {tokens : List Token} (h : ∀ token ∈ tokens, token.IsOf p)
    (rest : Text) :
    scan none (tokens.flatMap Token.text ++ rest)
      = tokens ++ scan none rest := by
  induction tokens with
  | nil => rfl
  | cons token tokens ih =>
      have hrest := ih fun t ht => h t (List.mem_cons_of_mem _ ht)
      have htoken := h token List.mem_cons_self
      rw [List.flatMap_cons, List.append_assoc]
      cases token with
      | char c =>
          have hc : c ≠ '[' := by
            rintro rfl
            exact Bool.false_ne_true (hp.symm.trans htoken)
          show scan none (c :: (tokens.flatMap Token.text ++ rest)) = _
          rw [scan, if_neg hc, hrest]
          rfl
      | marker digits =>
          show scan none ('[' :: ((digits ++ [']'])
            ++ (tokens.flatMap Token.text ++ rest))) = _
          rw [scan, if_pos rfl, List.append_assoc, List.singleton_append,
            scan_digits htoken.1 htoken.2, hrest]
          rfl

/-- Behind a bracket that a marker follows, tokens are read as they
are. -/
theorem scan_open {pending : Text} {tokens : List Token}
    (h : ∀ token ∈ tokens, token.IsOf isDecimal)
    (hmarker : ∃ digits, .marker digits ∈ tokens) (rest : Text) :
    scan (some pending) (tokens.flatMap Token.text ++ rest)
      = unread pending ++ tokens ++ scan none rest := by
  have hbracket : isDecimal '[' = false := by decide
  induction tokens generalizing pending with
  | nil =>
      obtain ⟨digits, hdigits⟩ := hmarker
      cases hdigits
  | cons token tokens ih =>
      have htokens : ∀ t ∈ tokens, t.IsOf isDecimal := fun t ht =>
        h t (List.mem_cons_of_mem _ ht)
      have htoken := h token List.mem_cons_self
      rw [List.flatMap_cons, List.append_assoc]
      cases token with
      | char c =>
          have hmore : ∃ digits, .marker digits ∈ tokens := by
            obtain ⟨digits, hdigits⟩ := hmarker
            rcases List.mem_cons.mp hdigits with heq | hmem
            · cases heq
            · exact ⟨digits, hmem⟩
          have hc : isDecimal c = true := htoken
          show scan (some pending)
            (c :: (tokens.flatMap Token.text ++ rest)) = _
          rw [scan, if_pos hc, ih htokens hmore]
          simp [unread]
      | marker digits =>
          show scan (some pending) ('[' :: ((digits ++ [']'])
            ++ (tokens.flatMap Token.text ++ rest))) = _
          rw [scan, if_neg (by simp [hbracket]), if_neg (by simp), if_pos rfl,
            List.append_assoc, List.singleton_append,
            scan_digits htoken.1 htoken.2, scan_tokens hbracket htokens]
          simp

/-- A marker is read as one. -/
theorem scan_marker (n : Nat) (rest : Text) :
    scan none (marker n ++ rest)
      = .marker (Nat.toDigits 10 n) :: scan none rest := by
  have hbracket : isDecimal ']' = false := by decide
  unfold marker
  rw [Nat.toList_repr, List.cons_append, List.append_assoc, scan,
    if_pos rfl, scan_decimals [] fun c hc => isDecimal_of_mem_toDigits hc]
  rw [List.nil_append, List.singleton_append, scan, if_neg (by simp [hbracket]),
    if_pos ⟨rfl, Nat.toDigits_ne_nil⟩]

/-- The numbers of appended markers. -/
theorem markerNumbers_markers (numbers : List Nat) :
    markerNumbers (numbers.flatMap marker) = numbers := by
  unfold markerNumbers
  induction numbers with
  | nil => rfl
  | cons n numbers ih =>
      rw [List.flatMap_cons, scan_marker, List.filterMap_cons]
      simp only [intOf_toDigits, ih]

/-- The numbers of an assembled line. -/
theorem markerNumbers_line (text : Text) (numbers : List Nat) :
    markerNumbers (text ++ ' ' :: numbers.flatMap marker)
      = markerNumbers text ++ numbers := by
  have hnumbers := markerNumbers_markers numbers
  unfold markerNumbers at hnumbers ⊢
  rw [scan_append_plain (by decide) (by decide) (by decide),
    List.filterMap_append, List.filterMap_cons]
  simp only [hnumbers]

-- ================================================= markers that come about

/-- A bracket with digits and markers in it: without the markers, the
digits are a marker of this number. -/
def LeavesMarker (value : Text) (number : Nat) : Prop :=
  ∃ (before after : Text) (inner : List Token),
    value = before ++ '[' :: (inner.flatMap Token.text ++ ']' :: after)
      ∧ (∀ token ∈ inner, token.IsOf isDecimal)
      ∧ (∃ digits, .marker digits ∈ inner)
      ∧ inner.filterMap Token.kept ≠ []
      ∧ intOf (inner.filterMap Token.kept) = number

/-- The numbers of a line are read off its tokens. -/
theorem mem_markerNumbers {line : Text} {number : Nat} :
    number ∈ markerNumbers line
      ↔ ∃ digits, .marker digits ∈ scan none line
        ∧ intOf digits = number := by
  unfold markerNumbers
  rw [List.mem_filterMap]
  constructor
  · rintro ⟨token, htoken, hnumber⟩
    cases token with
    | char c => cases hnumber
    | marker digits => exact ⟨digits, htoken, Option.some.inj hnumber⟩
  · rintro ⟨digits, hdigits, rfl⟩
    exact ⟨_, hdigits, rfl⟩

/-- What is kept of digits and markers is digits. -/
theorem isDecimal_of_mem_kept {inner : List Token}
    (h : ∀ token ∈ inner, token.IsOf isDecimal) :
    ∀ c ∈ inner.filterMap Token.kept, isDecimal c = true := by
  intro c hc
  obtain ⟨token, htoken, hkept⟩ := List.mem_filterMap.mp hc
  cases token with
  | char d =>
      rw [← Option.some.inj hkept]
      exact h _ htoken
  | marker digits => cases hkept

/-- A bracket around a whole marker is a marker once that is removed. -/
theorem LeavesMarker.mem {value : Text} {number : Nat}
    (h : LeavesMarker value number) :
    number ∈ markerNumbers (removeMarkers value) := by
  obtain ⟨before, after, inner, rfl, hinner, hmarker, hne, hnumber⟩ := h
  have hclose : scan none (']' :: after) = .char ']' :: scan none after := by
    rw [scan, if_neg (by decide)]
  have hkept : removeMarkers
      (before ++ '[' :: (inner.flatMap Token.text ++ ']' :: after))
      = removeMarkers before ++ '['
        :: (inner.filterMap Token.kept ++ ']' :: removeMarkers after) := by
    simp only [removeMarkers_eq]
    rw [scan_append_bracket, scan_open hinner hmarker, hclose]
    simp [unread, Token.kept]
  refine mem_markerNumbers.mpr ⟨inner.filterMap Token.kept, ?_, hnumber⟩
  rw [hkept, scan_append_bracket,
    scan_digits hne (isDecimal_of_mem_kept hinner)]
  exact List.mem_append_right _ List.mem_cons_self

/-- Brackets that are kept stood in the text, with whole markers between
them. -/
theorem brackets_of_kept {tokens : List Token} {left digits right : Text}
    (h : tokens.filterMap Token.kept
      = left ++ '[' :: (digits ++ ']' :: right)) :
    ∃ before inner after,
      tokens = before ++ .char '[' :: (inner ++ .char ']' :: after)
        ∧ inner.filterMap Token.kept = digits := by
  have hchar : ∀ {token : Token} {c : Char}, token.kept = some c →
      token = .char c := by
    intro token c hkept
    cases token with
    | char d => rw [Option.some.inj hkept]
    | marker digits => cases hkept
  obtain ⟨tokens, opened, rfl, -, hopened⟩ :=
    List.filterMap_eq_append_iff.mp h
  obtain ⟨skipped, first, behind, rfl, -, hfirst, hbehind⟩ :=
    List.filterMap_eq_cons_iff.mp hopened
  obtain ⟨inner, closed, rfl, hinner, hclosed⟩ :=
    List.filterMap_eq_append_iff.mp hbehind
  obtain ⟨skipped', last, rest, rfl, hskipped, hlast, -⟩ :=
    List.filterMap_eq_cons_iff.mp hclosed
  refine ⟨tokens ++ skipped, inner ++ skipped', rest, ?_, ?_⟩
  · rw [hchar hfirst, hchar hlast]
    simp
  · rw [List.filterMap_append, hinner,
      List.filterMap_eq_nil_iff.mpr hskipped, List.append_nil]

/-- Digits alone between brackets are read as a marker, so where the
brackets are no marker there is one between them. -/
theorem marker_of_brackets {value digits : Text}
    {before inner after : List Token}
    (h : scan none value
      = before ++ .char '[' :: (inner ++ .char ']' :: after))
    (hinner : inner.filterMap Token.kept = digits) (hne : digits ≠ [])
    (hdecimal : ∀ c ∈ digits, isDecimal c = true) :
    ∃ digits', .marker digits' ∈ inner := by
  by_contra hnone
  have hchars := eq_map_char fun digits hmem => hnone ⟨digits, hmem⟩
  rw [hinner] at hchars
  have hvalue := flatMap_text_scan none value
  rw [h, hchars] at hvalue
  have hscan : scan none value
      = scan none (before.flatMap Token.text)
        ++ .marker digits :: scan none (after.flatMap Token.text) := by
    have htext : value = before.flatMap Token.text
        ++ '[' :: (digits ++ ']' :: after.flatMap Token.text) := by
      refine hvalue.symm.trans ?_
      simp [Token.text]
    rw [htext, scan_append_bracket, scan_digits hne hdecimal]
  have hboth := h.symm.trans hscan
  have hsame := prefix_eq
    (flatMap_text_scan none (before.flatMap Token.text)).symm hboth
  rw [← hsame] at hboth
  cases List.append_cancel_left hboth

/-- And only such a bracket leaves one. -/
theorem leavesMarker_of_mem {value : Text} {number : Nat}
    (h : number ∈ markerNumbers (removeMarkers value)) :
    LeavesMarker value number := by
  obtain ⟨digits, hdigits, hnumber⟩ := mem_markerNumbers.mp h
  obtain ⟨hne, hdecimal⟩ := isOf_of_mem_scan (fun _ h => by cases h) _ hdigits
  obtain ⟨left, right, hsplit⟩ := List.append_of_mem hdigits
  -- Where the marker stands in the text without markers.
  have hkept : (scan none value).filterMap Token.kept
      = left.flatMap Token.text
        ++ '[' :: (digits ++ ']' :: right.flatMap Token.text) := by
    rw [← removeMarkers_eq, ← List.nil_append (removeMarkers value)]
    refine (flatMap_text_scan none (removeMarkers value)).symm.trans ?_
    rw [hsplit]
    simp [Token.text]
  -- And in the text.
  obtain ⟨before, inner, after, htokens, hinner⟩ := brackets_of_kept hkept
  have hvalue := flatMap_text_scan none value
  rw [htokens] at hvalue
  refine ⟨before.flatMap Token.text, after.flatMap Token.text, inner, ?_, ?_,
    marker_of_brackets htokens hinner hne hdecimal, ?_, ?_⟩
  · refine hvalue.symm.trans ?_
    simp [Token.text]
  · intro token htoken
    have hmem : token ∈ scan none value := by
      rw [htokens]
      simp [htoken]
    have hread := isOf_of_mem_scan (fun _ h => by cases h) _ hmem
    cases token with
    | char c =>
        exact hdecimal c (hinner ▸ List.mem_filterMap.mpr ⟨_, htoken, rfl⟩)
    | marker digits' => exact hread
  · rw [hinner]
    exact hne
  · rw [hinner]
    exact hnumber

/-- The markers in a text whose markers were removed are those that only
came about by it. -/
theorem mem_markerNumbers_removeMarkers_iff (value : Text) (number : Nat) :
    number ∈ markerNumbers (removeMarkers value)
      ↔ LeavesMarker value number :=
  ⟨leavesMarker_of_mem, LeavesMarker.mem⟩

-- ============================================================== cleaning

/-- A character of joined pieces is of the separator or of a piece. -/
theorem mem_intercalate {sep : Text} {pieces : List Text} {c : Char}
    (h : c ∈ sep.intercalate pieces) :
    c ∈ sep ∨ ∃ piece ∈ pieces, c ∈ piece := by
  unfold List.intercalate at h
  induction pieces with
  | nil => cases h
  | cons piece pieces ih =>
      cases pieces with
      | nil =>
          refine .inr ⟨piece, List.mem_cons_self .., ?_⟩
          simpa using h
      | cons next pieces =>
          simp only [List.intersperse_cons_cons, List.flatten_cons,
            List.mem_append] at h
          rcases h with h | h | h
          · exact .inr ⟨piece, List.mem_cons_self .., h⟩
          · exact .inl h
          · rcases ih h with h | ⟨piece', hpiece', h⟩
            · exact .inl h
            · exact .inr ⟨piece', List.mem_cons_of_mem _ hpiece', h⟩

theorem mem_of_mem_strip {value : Text} {c : Char} (h : c ∈ strip value) :
    c ∈ value := by
  unfold strip at h
  rw [List.mem_reverse] at h
  have h := (List.dropWhile_sublist _).subset h
  rw [List.mem_reverse] at h
  exact (List.dropWhile_sublist _).subset h

/-- Stripping drops no character but spaces. -/
theorem mem_strip {value : Text} {c : Char} (h : c ∈ value)
    (hc : isSpace c = false) : c ∈ strip value := by
  have hdrop : ∀ l : Text, c ∈ l → c ∈ l.dropWhile isSpace := by
    intro l
    induction l with
    | nil => exact fun h => h
    | cons d l ih =>
        intro hmem
        rw [List.dropWhile_cons]
        split
        case isTrue hd =>
          rcases List.mem_cons.mp hmem with rfl | hmem
          · rw [hc] at hd
            cases hd
          · exact ih hmem
        case isFalse => exact hmem
  unfold strip
  rw [List.mem_reverse]
  apply hdrop
  rw [List.mem_reverse]
  exact hdrop value h

/-- Cleaned text has no line break. -/
theorem newline_notMem_cleanParagraph (value : Text) :
    '\n' ∉ cleanParagraph value := by
  intro h
  unfold cleanParagraph at h
  rcases mem_intercalate (mem_of_mem_strip h) with h | ⟨piece, hpiece, h⟩
  · revert h
    decide
  · have hsplit := (List.mem_filter.mp hpiece).1
    have hspace := not_sep_of_mem_splitOnP hsplit h
    revert hspace
    decide

-- ================================================ what cleaning leaves over

/-- Nothing but spaces and markers. -/
def Blank (value : Text) : Prop :=
  ∃ tokens : List Token, value = tokens.flatMap Token.text
    ∧ ∀ token ∈ tokens, token.IsOf isSpace

/-- White space is no part of a marker. -/
theorem isSpace_plain {c : Char} (h : isSpace c = true) :
    isDecimal c = false ∧ c ≠ '[' ∧ c ≠ ']' := by
  refine ⟨?_, fun heq => ?_, fun heq => ?_⟩
  · by_contra hdecimal
    rw [Bool.not_eq_false] at hdecimal
    have hsolid : isSpace c = false :=
      @isDecimal_induction (isSpace · = false) (by decide +kernel) c hdecimal
    rw [h] at hsolid
    cases hsolid
  · rw [heq] at h
    revert h
    decide
  · rw [heq] at h
    revert h
    decide

/-- The numbers on both sides of a space. -/
theorem markerNumbers_append_space {c : Char} (h : isSpace c = true)
    (left right : Text) :
    markerNumbers (left ++ c :: right)
      = markerNumbers left ++ markerNumbers right := by
  obtain ⟨hdecimal, hopen, hclose⟩ := isSpace_plain h
  unfold markerNumbers
  rw [scan_append_plain hdecimal hopen hclose, List.filterMap_append]
  rfl

/-- No marker reaches over a space. -/
theorem markerNumbers_join (pieces : List Text) :
    markerNumbers (Words.join ' ' pieces) = pieces.flatMap markerNumbers := by
  induction pieces with
  | nil => rfl
  | cons piece pieces ih =>
      by_cases hne : pieces = []
      · subst hne
        rw [Words.join_singleton, List.flatMap_singleton]
      · rw [Words.join_cons hne,
          markerNumbers_append_space isSpace_space, ih, List.flatMap_cons]

/-- The numbers of a text are those of its words. -/
theorem flatMap_markerNumbers_words (value : Text) :
    (Words.words isSpace value).flatMap markerNumbers
      = markerNumbers value := by
  induction hlength : value.length using Nat.strong_induction_on
    generalizing value with
  | h n ih =>
      by_cases hspace : ∃ c ∈ value, isSpace c = true
      · obtain ⟨c, hc, hsep⟩ := hspace
        obtain ⟨left, right, rfl⟩ := List.append_of_mem hc
        rw [List.length_append, List.length_cons] at hlength
        rw [Words.words_append_cons hsep, List.flatMap_append,
          ih left.length (by omega) left rfl,
          ih right.length (by omega) right rfl,
          markerNumbers_append_space hsep]
      · by_cases hne : value = []
        · subst hne
          rfl
        · have hword : Words.IsWord isSpace value := by
            refine ⟨hne, fun c hc => Bool.eq_false_iff.mpr fun hsep => ?_⟩
            exact hspace ⟨c, hc, hsep⟩
          rw [hword.words_eq, List.flatMap_singleton]

/-- Stripping takes no marker away. -/
theorem markerNumbers_strip (value : Text) :
    markerNumbers (strip value) = markerNumbers value := by
  have hfront : ∀ text : Text,
      markerNumbers (text.dropWhile isSpace) = markerNumbers text := by
    intro text
    induction text with
    | nil => rfl
    | cons c text ih =>
        rw [List.dropWhile_cons]
        split
        case isTrue hc =>
          rw [ih]
          exact (markerNumbers_append_space hc [] text).symm
        case isFalse => rfl
  have hback : ∀ text : Text,
      markerNumbers (text.rdropWhile isSpace) = markerNumbers text := by
    intro text
    induction text using List.reverseRecOn with
    | nil => rfl
    | append_singleton text c ih =>
        by_cases hc : isSpace c = true
        · rw [List.rdropWhile_concat_pos isSpace text c hc, ih,
            markerNumbers_append_space hc]
          exact (List.append_nil _).symm
        · rw [List.rdropWhile_concat_neg isSpace text c hc]
  exact (hback _).trans (hfront value)

/-- Cleaning is trimming the words, joined. -/
theorem cleanParagraph_eq (value : Text) :
    cleanParagraph value
      = strip (Words.collapse isSpace ' ' (removeMarkers value)) := by
  unfold cleanParagraph Words.collapse Words.join Words.words words
  congr 3
  funext piece
  cases piece <;> rfl

/-- The numbers in a cleaned text are those that only came about by
removing markers. -/
theorem mem_markerNumbers_cleanParagraph_iff (value : Text) (number : Nat) :
    number ∈ markerNumbers (cleanParagraph value)
      ↔ LeavesMarker value number := by
  rw [cleanParagraph_eq, markerNumbers_strip, Words.collapse,
    markerNumbers_join, flatMap_markerNumbers_words,
    mem_markerNumbers_removeMarkers_iff]

/-- A text is blank if only white space is left of it. -/
theorem blank_iff (value : Text) :
    Blank value ↔ ∀ c ∈ removeMarkers value, isSpace c = true := by
  constructor
  · rintro ⟨tokens, rfl, htokens⟩ c hc
    have hscan := scan_tokens (by decide) htokens []
    rw [List.append_nil] at hscan
    rw [removeMarkers_eq, hscan, scan, List.append_nil] at hc
    obtain ⟨token, htoken, hkept⟩ := List.mem_filterMap.mp hc
    cases token with
    | char d =>
        rw [← Option.some.inj hkept]
        exact htokens _ htoken
    | marker digits => cases hkept
  · intro hspaces
    refine ⟨scan none value, (flatMap_text_scan none value).symm,
      fun token htoken => ?_⟩
    have hread := isOf_of_mem_scan (fun _ h => by cases h) _ htoken
    cases token with
    | char c => exact hspaces c (List.mem_filterMap.mpr ⟨_, htoken, rfl⟩)
    | marker digits => exact hread

/-- Only a blank text has nothing left when it is cleaned. -/
theorem cleanParagraph_eq_nil_iff (value : Text) :
    cleanParagraph value = [] ↔ Blank value := by
  rw [blank_iff, ← Words.words_eq_nil_iff, ← @Words.collapse_eq_nil_iff _ _ ' ',
    cleanParagraph_eq]
  constructor
  · intro hstrip
    by_contra hne
    obtain ⟨c, rest, heq⟩ := List.exists_cons_of_ne_nil hne
    have hmem := mem_strip (heq ▸ List.mem_cons_self)
      (Words.not_sep_of_collapse_eq_cons heq)
    rw [hstrip] at hmem
    cases hmem
  · intro hnil
    rw [hnil]
    rfl

instance (value : Text) : Decidable (Blank value) :=
  decidable_of_iff _ (cleanParagraph_eq_nil_iff value)

-- ============================================================ paragraphs

/-- A line without a line break is read up to the next blank line. -/
theorem splitParagraphs_line {line : Text} (h : '\n' ∉ line)
    (pending rest : Text) :
    splitParagraphs pending (line ++ '\n' :: '\n' :: rest)
      = (pending ++ line) :: splitParagraphs [] rest := by
  induction line generalizing pending with
  | nil => simp [splitParagraphs]
  | cons c line ih =>
      have hc : c ≠ '\n' := fun heq => h (heq ▸ List.mem_cons_self ..)
      rw [List.cons_append, splitParagraphs]
      · rw [ih fun hmem => h (List.mem_cons_of_mem _ hmem)]
        simp
      · intro rest' heq
        exact absurd heq hc

/-- A line without a line break is a paragraph. -/
theorem splitParagraphs_single {line : Text} (h : '\n' ∉ line)
    (pending : Text) :
    splitParagraphs pending line = [pending ++ line] := by
  induction line generalizing pending with
  | nil => simp [splitParagraphs]
  | cons c line ih =>
      have hc : c ≠ '\n' := fun heq => h (heq ▸ List.mem_cons_self ..)
      rw [splitParagraphs]
      · rw [ih fun hmem => h (List.mem_cons_of_mem _ hmem)]
        simp
      · intro rest' heq
        exact absurd heq hc

/-- Joined lines are split again. -/
theorem splitParagraphs_intercalate {lines : List Text} (hne : lines ≠ [])
    (h : ∀ line ∈ lines, '\n' ∉ line) :
    splitParagraphs [] (['\n', '\n'].intercalate lines) = lines := by
  induction lines with
  | nil => exact absurd rfl hne
  | cons line lines ih =>
      have hline := h line (List.mem_cons_self ..)
      cases lines with
      | nil =>
          have hsingle := splitParagraphs_single hline []
          simpa [List.intercalate] using hsingle
      | cons next lines =>
          have hrest := ih (by simp) fun l hl =>
            h l (List.mem_cons_of_mem _ hl)
          have hjoin : ['\n', '\n'].intercalate (line :: next :: lines)
              = line ++ '\n' :: '\n'
                :: ['\n', '\n'].intercalate (next :: lines) := by
            simp [List.intercalate]
          rw [hjoin, splitParagraphs_line hline, hrest]
          rfl

end DeepResearch.Report
