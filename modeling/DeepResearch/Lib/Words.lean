/-
Texts as words between separators.

`words` are the maximal runs without a separator, `join` puts one gap
between words, and `collapse` does both: every run of separators becomes
one gap, and none is left at the ends. Where the gap is a separator
itself, joining words and splitting them again are inverse
(`words_join`), so collapsing keeps the words and is idempotent.
-/
import Mathlib.Algebra.Order.BigOperators.Group.List
import Mathlib.Algebra.Order.Group.Nat
import Mathlib.Algebra.GroupWithZero.Nat

namespace Words

universe u

variable {α : Type u}

-- ================================================================ pieces

/-- A piece between separators has no separator. -/
theorem not_sep_of_mem_splitOnP {p : α → Bool} {value piece : List α}
    (hpiece : piece ∈ value.splitOnP p) {c : α} (hc : c ∈ piece) :
    p c = false := by
  induction value generalizing piece with
  | nil =>
      rw [List.splitOnP_nil, List.mem_singleton] at hpiece
      subst hpiece
      cases hc
  | cons x value ih =>
      rw [List.splitOnP_cons_eq_if_modifyHead] at hpiece
      split at hpiece
      case isTrue =>
        rcases List.mem_cons.mp hpiece with rfl | hpiece
        · cases hc
        · exact ih hpiece hc
      case isFalse hx =>
        cases hsplit : value.splitOnP p with
        | nil => exact absurd hsplit (List.splitOnP_ne_nil p value)
        | cons head tail =>
            rw [hsplit, List.modifyHead_cons] at hpiece
            rcases List.mem_cons.mp hpiece with rfl | hpiece
            · rcases List.mem_cons.mp hc with rfl | hc
              · simpa using hx
              · exact ih (hsplit ▸ List.mem_cons_self ..) hc
            · exact ih (hsplit ▸ List.mem_cons_of_mem _ hpiece) hc

-- ================================================================= words

/-- A word: something, and no separator in it. -/
structure IsWord (sep : α → Bool) (word : List α) : Prop where
  ne_nil : word ≠ []
  solid : ∀ c ∈ word, sep c = false

/-- The words of a text. -/
def words (sep : α → Bool) (text : List α) : List (List α) :=
  (text.splitOnP sep).filter (!·.isEmpty)

/-- Words with one gap between them. -/
def join (gap : α) (pieces : List (List α)) : List α :=
  [gap].intercalate pieces

/-- The words of a text, with one gap between them. -/
def collapse (sep : α → Bool) (gap : α) (text : List α) : List α :=
  join gap (words sep text)

variable {sep : α → Bool} {gap : α} {text left right word : List α}
  {pieces : List (List α)}

@[simp] theorem words_nil : words sep [] = [] := rfl

@[simp] theorem join_nil : join gap [] = [] := rfl

@[simp] theorem join_singleton : join gap [word] = word :=
  List.intercalate_singleton

theorem join_cons (h : pieces ≠ []) :
    join gap (word :: pieces) = word ++ gap :: join gap pieces := by
  unfold join
  rw [List.intercalate_cons_of_ne_nil h, List.append_assoc]
  rfl

/-- What a text is divided into are words. -/
theorem isWord_of_mem_words (h : word ∈ words sep text) :
    IsWord sep word := by
  obtain ⟨hpiece, hne⟩ := List.mem_filter.mp h
  exact ⟨by simpa using hne, fun c hc => not_sep_of_mem_splitOnP hpiece hc⟩

/-- A word is its only word. -/
theorem IsWord.words_eq (h : IsWord sep word) : words sep word = [word] := by
  unfold words
  rw [List.splitOnP_eq_singleton h.solid]
  simpa using h.ne_nil

/-- A separator parts the words before it from those after it. -/
theorem words_append_cons {c : α} (h : sep c = true) :
    words sep (left ++ c :: right) = words sep left ++ words sep right := by
  unfold words
  rw [List.splitOnP_append_cons left right h, List.filter_append]

theorem words_cons {c : α} (h : sep c = true) :
    words sep (c :: right) = words sep right := by
  rw [← List.nil_append (c :: right), words_append_cons h]
  rfl

/-- Splitting undoes joining. -/
theorem words_join (hgap : sep gap = true)
    (h : ∀ word ∈ pieces, IsWord sep word) :
    words sep (join gap pieces) = pieces := by
  induction pieces with
  | nil => rfl
  | cons word pieces ih =>
      have hword := (h word List.mem_cons_self).words_eq
      have hpieces := ih fun w hw => h w (List.mem_cons_of_mem _ hw)
      by_cases hne : pieces = []
      · subst hne
        rw [join_singleton, hword]
      · rw [join_cons hne, words_append_cons hgap, hword, hpieces]
        rfl

-- ============================================================== collapsing

/-- Collapsing keeps the words. -/
theorem words_collapse (hgap : sep gap = true) :
    words sep (collapse sep gap text) = words sep text :=
  words_join hgap fun _ => isWord_of_mem_words

/-- Collapsing twice is collapsing once. -/
theorem collapse_collapse (hgap : sep gap = true) :
    collapse sep gap (collapse sep gap text) = collapse sep gap text := by
  unfold collapse
  rw [words_join hgap fun _ => isWord_of_mem_words]

@[simp] theorem collapse_nil : collapse sep gap [] = [] := rfl

theorem join_eq_nil (h : ∀ word ∈ pieces, IsWord sep word)
    (hjoin : join gap pieces = []) : pieces = [] := by
  cases pieces with
  | nil => rfl
  | cons word pieces =>
      have hword := (h word List.mem_cons_self).ne_nil
      by_cases hne : pieces = []
      · subst hne
        rw [join_singleton] at hjoin
        exact absurd hjoin hword
      · rw [join_cons hne] at hjoin
        simp at hjoin

/-- What collapses to nothing has no words. -/
theorem collapse_eq_nil_iff :
    collapse sep gap text = [] ↔ words sep text = [] := by
  refine ⟨join_eq_nil fun _ => isWord_of_mem_words, fun h => ?_⟩
  rw [collapse, h, join_nil]

/-- Joined pieces are joined by one more gap. -/
theorem join_append {others : List (List α)} (hpieces : pieces ≠ [])
    (hothers : others ≠ []) :
    join gap (pieces ++ others)
      = join gap pieces ++ gap :: join gap others := by
  induction pieces with
  | nil => exact absurd rfl hpieces
  | cons word pieces ih =>
      by_cases hne : pieces = []
      · subst hne
        rw [List.singleton_append, join_cons hothers, join_singleton]
      · rw [List.cons_append, join_cons (by simp [hne]), join_cons hne,
          ih hne, List.append_assoc]
        rfl

/-- Collapsed texts with a gap between them are collapsed. -/
theorem collapse_append (hgap : sep gap = true)
    (hleft : collapse sep gap left = left) (hne : left ≠ [])
    (hright : collapse sep gap right = right) (hne' : right ≠ []) :
    collapse sep gap (left ++ gap :: right) = left ++ gap :: right := by
  have hwords : words sep left ≠ [] := fun h =>
    hne (hleft ▸ collapse_eq_nil_iff.mpr h)
  have hwords' : words sep right ≠ [] := fun h =>
    hne' (hright ▸ collapse_eq_nil_iff.mpr h)
  have hsplit : collapse sep gap (left ++ gap :: right)
      = collapse sep gap left ++ gap :: collapse sep gap right := by
    unfold collapse
    rw [words_append_cons hgap, join_append hwords hwords']
  rw [hsplit, hleft, hright]

/-- A collapsed text behind a gap stays as it is. -/
theorem suffix_collapse (hgap : sep gap = true)
    (hright : collapse sep gap right = right) :
    right <:+ collapse sep gap (left ++ gap :: right) := by
  have hwords : words sep (left ++ gap :: right)
      = words sep left ++ words sep right := words_append_cons hgap
  unfold collapse at hright ⊢
  rw [hwords]
  by_cases hleft : words sep left = []
  · refine ⟨[], ?_⟩
    rw [hleft, List.nil_append, List.nil_append, hright]
  · by_cases hnil : words sep right = []
    · rw [hnil, join_nil] at hright
      rw [← hright]
      exact List.nil_suffix
    · rw [join_append hleft hnil, hright]
      exact ⟨join gap (words sep left) ++ [gap], by simp⟩

/-- A collapsed text begins with a word. -/
theorem not_sep_of_collapse_eq_cons {c : α} {rest : List α}
    (h : collapse sep gap text = c :: rest) : sep c = false := by
  unfold collapse at h
  cases hwords : words sep text with
  | nil =>
      rw [hwords, join_nil] at h
      cases h
  | cons word pieces =>
      have hword : IsWord sep word :=
        isWord_of_mem_words (hwords ▸ List.mem_cons_self)
      obtain ⟨x, tail, rfl⟩ := List.exists_cons_of_ne_nil hword.ne_nil
      have hx : sep x = false := hword.solid x List.mem_cons_self
      rw [hwords] at h
      by_cases hne : pieces = []
      · subst hne
        rw [join_singleton] at h
        cases h
        exact hx
      · rw [join_cons hne, List.cons_append] at h
        cases h
        exact hx

/-- Separators in front do not count. -/
theorem collapse_cons {c : α} (h : sep c = true) :
    collapse sep gap (c :: text) = collapse sep gap text := by
  unfold collapse
  rw [words_cons h]

/-- The pieces between separators, with the separators, are the text. -/
theorem sum_length_splitOnP (text : List α) :
    ((text.splitOnP sep).map fun piece => piece.length + 1).sum
      = text.length + 1 := by
  induction text with
  | nil => rfl
  | cons x text ih =>
      rw [List.splitOnP_cons_eq_if_modifyHead]
      split
      · rw [List.map_cons, List.sum_cons, ih, List.length_cons,
          List.length_nil]
        omega
      · cases hsplit : text.splitOnP sep with
        | nil => exact absurd hsplit (List.splitOnP_ne_nil sep text)
        | cons head tail =>
            rw [hsplit, List.map_cons, List.sum_cons] at ih
            rw [List.modifyHead_cons, List.map_cons, List.sum_cons,
              List.length_cons, List.length_cons]
            omega

/-- Every piece but the last has a gap behind it. -/
theorem length_join (h : pieces ≠ []) :
    (join gap pieces).length + 1
      = (pieces.map fun piece => piece.length + 1).sum := by
  induction pieces with
  | nil => exact absurd rfl h
  | cons word pieces ih =>
      by_cases hne : pieces = []
      · subst hne
        rw [join_singleton]
        rfl
      · rw [join_cons hne, List.length_append, List.length_cons,
          List.map_cons, List.sum_cons, ← ih hne]
        omega

/-- Collapsing makes no text longer. -/
theorem length_collapse_le (text : List α) :
    (collapse sep gap text).length ≤ text.length := by
  by_cases hnil : words sep text = []
  · rw [collapse, hnil, join_nil]
    exact Nat.zero_le _
  · have hpieces : ((text.splitOnP sep).map fun piece =>
        piece.length + 1).sum = text.length + 1 := sum_length_splitOnP text
    have hwords : (join gap (words sep text)).length + 1
        = ((words sep text).map fun piece => piece.length + 1).sum :=
      length_join hnil
    have hle : ((words sep text).map fun piece => piece.length + 1).sum
        ≤ ((text.splitOnP sep).map fun piece => piece.length + 1).sum :=
      (List.filter_sublist.map _).sum_le_sum fun _ _ => Nat.zero_le _
    unfold collapse
    omega

/-- The first word begins as the text does. -/
theorem words_of_solid {start : List α} (hne : start ≠ [])
    (hsolid : ∀ c ∈ start, sep c = false) (text : List α) :
    ∃ tail pieces, words sep (start ++ text) = (start ++ tail) :: pieces := by
  induction text generalizing start with
  | nil =>
      refine ⟨[], [], ?_⟩
      rw [List.append_nil]
      exact IsWord.words_eq ⟨hne, hsolid⟩
  | cons c text ih =>
      by_cases hc : sep c = true
      · refine ⟨[], words sep text, ?_⟩
        rw [words_append_cons hc, IsWord.words_eq ⟨hne, hsolid⟩,
          List.append_nil]
        rfl
      · have hsolid' : ∀ d ∈ start ++ [c], sep d = false := by
          intro d hd
          rcases List.mem_append.mp hd with hd | hd
          · exact hsolid d hd
          · rw [List.mem_singleton.mp hd]
            simpa using hc
        obtain ⟨tail, pieces, h⟩ := ih (by simp) hsolid'
        refine ⟨c :: tail, pieces, ?_⟩
        rw [List.append_cons, h, ← List.append_cons]

/-- A text of separators only has no words. -/
theorem words_eq_nil_iff :
    words sep text = [] ↔ ∀ c ∈ text, sep c = true := by
  induction text with
  | nil => exact ⟨fun _ _ h => absurd h List.not_mem_nil, fun _ => rfl⟩
  | cons c text ih =>
      by_cases hc : sep c = true
      · rw [words_cons hc, ih, List.forall_mem_cons, and_iff_right hc]
      · have hsolid : ∀ d ∈ [c], sep d = false := by
          intro d hd
          rw [List.mem_singleton.mp hd]
          exact Bool.eq_false_iff.mpr hc
        obtain ⟨tail, pieces, hwords⟩ :=
          words_of_solid (List.cons_ne_nil c []) hsolid text
        rw [List.singleton_append] at hwords
        rw [hwords]
        exact ⟨fun h => absurd h (List.cons_ne_nil _ _),
          fun h => absurd (h c List.mem_cons_self) hc⟩

/-- A beginning without separators is kept. -/
theorem collapse_of_solid {start : List α} (hne : start ≠ [])
    (hsolid : ∀ c ∈ start, sep c = false) (text : List α) :
    ∃ rest, collapse sep gap (start ++ text) = start ++ rest := by
  obtain ⟨tail, pieces, h⟩ := words_of_solid hne hsolid text
  rw [collapse, h]
  by_cases hpieces : pieces = []
  · subst hpieces
    exact ⟨tail, join_singleton⟩
  · refine ⟨tail ++ gap :: join gap pieces, ?_⟩
    rw [join_cons hpieces, List.append_assoc]

-- ================================================================ prefixes

/-- A word has nothing to collapse. -/
theorem IsWord.collapse_eq (h : IsWord sep word) :
    collapse sep gap word = word := by
  rw [collapse, h.words_eq, join_singleton]

/-- The beginning of a word is a word. -/
theorem IsWord.take (h : IsWord sep word) {n : ℕ} (hn : n ≠ 0) :
    IsWord sep (word.take n) where
  ne_nil := by
    rw [ne_eq, List.take_eq_nil_iff, not_or]
    exact ⟨hn, h.ne_nil⟩
  solid c hc := h.solid c (List.mem_of_mem_take hc)

/-- The beginning of a word is collapsed. -/
theorem IsWord.collapse_take (h : IsWord sep word) (n : ℕ) :
    collapse sep gap (word.take n) = word.take n := by
  by_cases hn : n = 0
  · subst hn
    rfl
  · exact (h.take hn).collapse_eq

theorem IsWord.getElem?_ne (h : IsWord sep word) (hgap : sep gap = true)
    (n : ℕ) : word[n]? ≠ some gap := by
  intro hn
  have hsolid := h.solid gap (List.mem_of_getElem? hn)
  rw [hgap] at hsolid
  cases hsolid

/-- A word in front stays in front. -/
theorem collapse_word_append (hgap : sep gap = true)
    (hword : IsWord sep word) (hne : collapse sep gap right ≠ []) :
    collapse sep gap (word ++ gap :: right)
      = word ++ gap :: collapse sep gap right := by
  have hwords : words sep right ≠ [] := fun h =>
    hne (collapse_eq_nil_iff.mpr h)
  unfold collapse
  rw [words_append_cons hgap, hword.words_eq, List.singleton_append,
    join_cons hwords]

/-- A gap behind a word is dropped. -/
theorem collapse_word_gap (hgap : sep gap = true)
    (hword : IsWord sep word) :
    collapse sep gap (word ++ [gap]) = word := by
  unfold collapse
  rw [words_append_cons hgap, hword.words_eq, words_nil, List.append_nil,
    join_singleton]

/-- The beginning of words with gaps between them is collapsed, unless it
ends in a gap, which collapsing removes. -/
theorem collapse_take_join (hgap : sep gap = true)
    (h : ∀ word ∈ pieces, IsWord sep word) (n : ℕ) :
    (collapse sep gap ((join gap pieces).take n) = (join gap pieces).take n
      ∧ (join gap pieces)[n - 1]? ≠ some gap)
    ∨ ∃ rest, (join gap pieces).take n = rest ++ [gap]
      ∧ collapse sep gap (rest ++ [gap]) = rest
      ∧ (join gap pieces)[n - 1]? = some gap := by
  induction pieces generalizing n with
  | nil => exact .inl ⟨by simp, by simp⟩
  | cons word pieces ih =>
      have hword := h word List.mem_cons_self
      by_cases hne : pieces = []
      · subst hne
        rw [join_singleton]
        exact .inl ⟨hword.collapse_take n, hword.getElem?_ne hgap _⟩
      · rw [join_cons hne]
        have hpos := List.length_pos_iff.mpr hword.ne_nil
        rcases Nat.lt_or_ge word.length n with hn | hn
        case inr =>
          -- the end is in the first word
          rw [List.take_append_of_le_length hn,
            List.getElem?_append_left (by omega)]
          exact .inl ⟨hword.collapse_take n, hword.getElem?_ne hgap _⟩
        obtain ⟨m, rfl⟩ : ∃ m, n = word.length + 1 + m :=
          ⟨n - (word.length + 1), by omega⟩
        have htake : (word ++ gap :: join gap pieces).take
            (word.length + 1 + m)
            = word ++ gap :: (join gap pieces).take m := by
          have hlength : (word ++ [gap]).length = word.length + 1 :=
            List.length_append
          rw [List.append_cons, ← hlength, List.take_length_add_append,
            ← List.append_cons]
        have hget : (word ++ gap :: join gap pieces)[
            word.length + 1 + m - 1]? = (gap :: join gap pieces)[m]? := by
          rw [List.getElem?_append_right (by omega)]
          congr 1
          omega
        rw [htake, hget]
        cases m with
        | zero =>
            rw [List.take_zero]
            exact .inr ⟨word, rfl, collapse_word_gap hgap hword, rfl⟩
        | succ m =>
            have hpieces : ∀ w ∈ pieces, IsWord sep w := fun w hw =>
              h w (List.mem_cons_of_mem _ hw)
            rw [List.getElem?_cons_succ]
            rcases ih hpieces (m + 1)
              with ⟨hsame, hend⟩ | ⟨rest, hrest, hcollapse, hend⟩
            · have hstart : (join gap pieces).take (m + 1) ≠ [] := by
                rw [ne_eq, List.take_eq_nil_iff, not_or]
                exact ⟨Nat.succ_ne_zero m, fun h =>
                  hne (join_eq_nil hpieces h)⟩
              left
              refine ⟨?_, hend⟩
              rw [collapse_word_append hgap hword (by rw [hsame]; exact hstart),
                hsame]
            · have hrest' : rest ≠ [] := by
                rintro rfl
                have hfirst : collapse sep gap (join gap pieces)
                    = gap :: (join gap pieces).drop (m + 1) := by
                  rw [collapse, words_join hgap hpieces]
                  conv => lhs; rw [← List.take_append_drop (m + 1)
                    (join gap pieces), hrest]
                  rfl
                have hsolid := not_sep_of_collapse_eq_cons hfirst
                rw [hgap] at hsolid
                cases hsolid
              right
              refine ⟨word ++ gap :: rest, ?_, ?_, hend⟩
              · rw [hrest, List.append_assoc]
                rfl
              · have hassoc : word ++ gap :: rest ++ [gap]
                    = word ++ gap :: (rest ++ [gap]) := by
                  rw [List.append_assoc]
                  rfl
                rw [hassoc, collapse_word_append hgap hword
                  (by rw [hcollapse]; exact hrest'), hcollapse]

/-- A text is collapsed and cut. To do so again changes nothing exactly
when the cut is not behind a gap. -/
theorem clip_clip_iff (hgap : sep gap = true) (n : ℕ) :
    (collapse sep gap ((collapse sep gap text).take n)).take n
        = (collapse sep gap text).take n
      ↔ (collapse sep gap text)[n - 1]? ≠ some gap := by
  have hwords : ∀ word ∈ words sep text, IsWord sep word := fun _ =>
    isWord_of_mem_words
  rcases collapse_take_join hgap hwords n
    with ⟨hsame, hend⟩ | ⟨rest, hrest, hcollapse, hend⟩
  · refine ⟨fun _ => hend, fun _ => ?_⟩
    show (collapse sep gap ((join gap (words sep text)).take n)).take n = _
    rw [hsame, List.take_take, Nat.min_self]
    rfl
  · refine ⟨fun h => absurd h ?_, fun h => absurd hend h⟩
    show ¬ (collapse sep gap ((join gap (words sep text)).take n)).take n
      = (join gap (words sep text)).take n
    rw [hrest, hcollapse]
    intro heq
    have hlength := congrArg List.length heq
    rw [List.length_take, List.length_append] at hlength
    simp at hlength
    omega

end Words
