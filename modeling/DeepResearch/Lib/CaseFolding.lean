/-
Lower case and case folding of texts, character by character.

A character is caseless when it lies where no row of the tables begins or
ends. Folding keeps it and makes none (`eq_of_mem_foldChar`), so a text may
be cut at caseless characters before it is folded or after.
-/
import DeepResearch.Lib.CaseTables
import DeepResearch.Lib.Trim

namespace CaseFolding

/-- `str.lower`, of one character. -/
def lowerChar (c : Char) : List Char := (lowerCode c.toNat).map Char.ofNat

/-- `str.casefold`, of one character. -/
def foldChar (c : Char) : List Char := (foldCode c.toNat).map Char.ofNat

/-- `str.casefold`. -/
def casefold (text : List Char) : List Char := text.flatMap foldChar

/-- `str.lower` of `text`, behind `before` (backwards). A capital sigma is
written another way at the end of a word: `final` tells, from what stands
before it and behind it. -/
def lowerFrom (final : List Char → List Char → Bool) :
    List Char → List Char → List Char
  | _, [] => []
  | before, c :: text =>
      (if c = 'Σ' then [if final before text then 'ς' else 'σ']
        else lowerChar c)
      ++ lowerFrom final (c :: before) text

/-- `str.lower`. -/
def lower (final : List Char → List Char → Bool) (text : List Char) :
    List Char :=
  lowerFrom final [] text

/-- The character neither folds nor results from folding another. -/
def Caseless (c : Char) : Prop :=
  ∃ row ∈ caselessRows, row.covers c.toNat = true

instance (c : Char) : Decidable (Caseless c) :=
  inferInstanceAs (Decidable (∃ row ∈ caselessRows, _))

/-- The characters of a row that keeps clear are caseless. -/
theorem caseless_of_range {row : Row} (hrow : row ∈ caselessRows) {c : Char}
    (hfirst : row.first ≤ c.toNat) (hlast : c.toNat ≤ row.last) :
    Caseless c := by
  have hstep : ∀ row ∈ caselessRows, row.step = 1 := by decide
  refine ⟨row, hrow, Row.covers_iff.mpr ⟨hfirst, hlast, ?_⟩⟩
  rw [hstep row hrow]
  exact Nat.mod_one _

-- ============================================================= characters

theorem toNat_ofNat {c : Char} {m : Nat} (h : Result c.toNat m) :
    (Char.ofNat m).toNat = m := by
  unfold Char.ofNat
  rw [dif_pos (h.valid c.valid)]
  rfl

theorem mem_foldChar {c d : Char} (h : d ∈ foldChar c) :
    d.toNat ∈ foldCode c.toNat := by
  obtain ⟨m, hm, rfl⟩ := List.mem_map.mp h
  rw [toNat_ofNat (.of_foldCode hm)]
  exact hm

/-- No folding is empty. -/
theorem foldChar_ne_nil (c : Char) : foldChar c ≠ [] := fun h =>
  foldCode_ne_nil c.toNat (List.map_eq_nil_iff.mp h)

/-- What results from folding stays. -/
theorem foldChar_of_mem {c d : Char} (h : d ∈ foldChar c) :
    foldChar d = [d] := by
  unfold foldChar
  rw [foldCode_foldCode (mem_foldChar h), List.map_singleton,
    Char.ofNat_toNat]

/-- A caseless character folds to itself. -/
theorem foldChar_of_caseless {c : Char} (h : Caseless c) :
    foldChar c = [c] := by
  obtain ⟨row, hrow, hcovers⟩ := h
  unfold foldChar
  rw [foldCode_of_caseless hrow hcovers, List.map_singleton,
    Char.ofNat_toNat]

/-- Nothing else folds to a caseless character. -/
theorem eq_of_mem_foldChar {c d : Char} (hd : Caseless d)
    (h : d ∈ foldChar c) : d = c := by
  obtain ⟨row, hrow, hcovers⟩ := hd
  exact Char.toNat_inj.mp
    (eq_of_mem_foldCode hrow hcovers (mem_foldChar h))

-- ================================================================== texts

@[simp] theorem casefold_nil : casefold [] = [] := rfl

@[simp] theorem casefold_cons (c : Char) (text : List Char) :
    casefold (c :: text) = foldChar c ++ casefold text :=
  List.flatMap_cons

@[simp] theorem casefold_append (left right : List Char) :
    casefold (left ++ right) = casefold left ++ casefold right :=
  List.flatMap_append

/-- Folding empties no text. -/
theorem casefold_eq_nil_iff {text : List Char} :
    casefold text = [] ↔ text = [] := by
  cases text with
  | nil => exact ⟨fun _ => rfl, fun _ => rfl⟩
  | cons c text =>
      rw [casefold_cons]
      refine ⟨fun h => ?_, fun h => nomatch h⟩
      exact absurd (List.append_eq_nil_iff.mp h).1 (foldChar_ne_nil c)

/-- A text of characters that stay is its own folding. -/
theorem casefold_eq_self {text : List Char}
    (h : ∀ c ∈ text, foldChar c = [c]) : casefold text = text := by
  induction text with
  | nil => rfl
  | cons c text ih =>
      rw [casefold_cons, h c List.mem_cons_self,
        ih fun d hd => h d (List.mem_cons_of_mem _ hd)]
      rfl

/-- Folding a folded text changes nothing. -/
theorem casefold_casefold (text : List Char) :
    casefold (casefold text) = casefold text := by
  refine casefold_eq_self fun d hd => ?_
  obtain ⟨c, -, hc⟩ := List.mem_flatMap.mp hd
  exact foldChar_of_mem hc

/-- A folded text consists of characters that stay. -/
theorem foldChar_of_casefold_eq {text : List Char}
    (h : casefold text = text) {c : Char} (hc : c ∈ text) :
    foldChar c = [c] := by
  rw [← h] at hc
  obtain ⟨d, -, hd⟩ := List.mem_flatMap.mp hc
  exact foldChar_of_mem hd

/-- A text is folded if each of its characters is. -/
theorem casefold_eq_self_iff {text : List Char} :
    casefold text = text ↔ ∀ c ∈ text, foldChar c = [c] :=
  ⟨fun h _ hc => foldChar_of_casefold_eq h hc, casefold_eq_self⟩

/-- A caseless character is in the folded text exactly if it was in the
text. -/
theorem mem_casefold_iff {c : Char} (hc : Caseless c) {text : List Char} :
    c ∈ casefold text ↔ c ∈ text := by
  refine ⟨fun h => ?_, fun h => ?_⟩
  · obtain ⟨d, hd, hmem⟩ := List.mem_flatMap.mp h
    rw [eq_of_mem_foldChar hc hmem]
    exact hd
  · refine List.mem_flatMap.mpr ⟨c, h, ?_⟩
    rw [foldChar_of_caseless hc]
    exact List.mem_cons_self

theorem casefold_lowerChar (c : Char) :
    casefold (lowerChar c) = foldChar c := by
  have hcodes : ∀ m ∈ lowerCode c.toNat,
      foldChar (Char.ofNat m) = (foldCode m).map Char.ofNat := by
    intro m hm
    unfold foldChar
    rw [toNat_ofNat (.of_lowerCode hm)]
  unfold casefold lowerChar
  rw [List.flatMap_map, List.flatMap_congr hcodes, ← List.map_flatMap,
    foldCode_lowerCode]
  rfl

/-- The lower case of a text folds as the text does. -/
theorem casefold_lowerFrom (final : List Char → List Char → Bool)
    (before text : List Char) :
    casefold (lowerFrom final before text) = casefold text := by
  induction text generalizing before with
  | nil => rfl
  | cons c text ih =>
      have hc : casefold (if c = 'Σ' then
          [if final before text then 'ς' else 'σ'] else lowerChar c)
          = foldChar c := by
        split
        case isTrue hsigma =>
          subst hsigma
          split <;> decide +kernel
        case isFalse =>
          exact casefold_lowerChar c
      rw [lowerFrom, casefold_append, ih, hc, casefold_cons]

/-- Lowering before folding changes nothing, whatever the final sigma. -/
theorem casefold_lower (final : List Char → List Char → Bool)
    (text : List Char) : casefold (lower final text) = casefold text :=
  casefold_lowerFrom final [] text

-- ================================================================ cutting

section

variable {p : Char → Bool} (hp : ∀ c, p c = false → Caseless c)

include hp

theorem foldChar_all {c : Char} (h : p c = true) {d : Char}
    (hd : d ∈ foldChar c) : p d = true := by
  cases hpd : p d with
  | true => rfl
  | false =>
      rw [eq_of_mem_foldChar (hp d hpd) hd, h] at hpd
      cases hpd

/-- A text may be cut before it is folded or after. -/
theorem casefold_takeWhile (text : List Char) :
    (casefold text).takeWhile p = casefold (text.takeWhile p) := by
  induction text with
  | nil => rfl
  | cons c text ih =>
      rw [casefold_cons]
      cases hc : p c with
      | true =>
          rw [List.takeWhile_append_of_pos fun d hd => foldChar_all hp hc hd,
            ih, List.takeWhile_cons_of_pos hc, casefold_cons]
      | false =>
          have hneg : ¬ p c = true := by
            rw [hc]
            exact Bool.false_ne_true
          rw [foldChar_of_caseless (hp c hc), List.singleton_append,
            List.takeWhile_cons_of_neg hneg, List.takeWhile_cons_of_neg hneg]
          rfl

theorem casefold_dropWhile (text : List Char) :
    (casefold text).dropWhile p = casefold (text.dropWhile p) := by
  induction text with
  | nil => rfl
  | cons c text ih =>
      rw [casefold_cons]
      cases hc : p c with
      | true =>
          rw [List.dropWhile_append_of_pos fun d hd => foldChar_all hp hc hd,
            ih, List.dropWhile_cons_of_pos hc]
      | false =>
          have hneg : ¬ p c = true := by
            rw [hc]
            exact Bool.false_ne_true
          rw [foldChar_of_caseless (hp c hc), List.singleton_append,
            List.dropWhile_cons_of_neg hneg, List.dropWhile_cons_of_neg hneg,
            casefold_cons, foldChar_of_caseless (hp c hc)]
          rfl

/-- Folding and filtering commute, for a property that folding keeps. -/
theorem casefold_filter (text : List Char) :
    (casefold text).filter p = casefold (text.filter p) := by
  induction text with
  | nil => rfl
  | cons c text ih =>
      rw [casefold_cons, List.filter_append, ih]
      cases hc : p c with
      | true =>
          have hall : (foldChar c).filter p = foldChar c :=
            List.filter_eq_self.mpr fun d hd => foldChar_all hp hc hd
          rw [hall, List.filter_cons_of_pos hc, casefold_cons]
      | false =>
          have hneg : ¬ p c = true := by
            rw [hc]
            exact Bool.false_ne_true
          rw [foldChar_of_caseless (hp c hc), List.filter_cons_of_neg hneg,
            List.filter_cons_of_neg hneg]
          rfl

end

/-- A text begins with a caseless character if it does so folded. -/
theorem head_of_casefold {text : List Char} {c : Char} (hc : Caseless c)
    (h : (casefold text).head? = some c) : text.head? = some c := by
  cases text with
  | nil => cases h
  | cons d text =>
      cases hfold : foldChar d with
      | nil => exact absurd hfold (foldChar_ne_nil d)
      | cons e rest =>
          rw [casefold_cons, hfold, List.cons_append, List.head?_cons] at h
          cases h
          have hmem : c ∈ foldChar d := hfold ▸ List.mem_cons_self
          rw [eq_of_mem_foldChar hc hmem, List.head?_cons]

/-- A text ends in a caseless character if it does so folded. -/
theorem last_of_casefold {text : List Char} {c : Char} (hc : Caseless c)
    (h : (casefold text).getLast? = some c) : text.getLast? = some c := by
  rcases List.eq_nil_or_concat' text with rfl | ⟨text, d, rfl⟩
  · cases h
  · rw [casefold_append, casefold_cons, casefold_nil, List.append_nil,
      List.getLast?_append_of_ne_nil _ (foldChar_ne_nil d)] at h
    rw [List.getLast?_concat,
      eq_of_mem_foldChar hc (List.mem_of_getLast? h)]

/-- Caseless characters may be dropped before a text is folded or after. -/
theorem casefold_dropWhile_caseless {p : Char → Bool}
    (hp : ∀ c, p c = true → Caseless c) (text : List Char) :
    (casefold text).dropWhile p = casefold (text.dropWhile p) := by
  induction text with
  | nil => rfl
  | cons c text ih =>
      cases hc : p c with
      | true =>
          rw [casefold_cons, foldChar_of_caseless (hp c hc),
            List.singleton_append, List.dropWhile_cons_of_pos hc,
            List.dropWhile_cons_of_pos hc, ih]
      | false =>
          have hneg : ¬ p c = true := by
            rw [hc]
            exact Bool.false_ne_true
          rw [List.dropWhile_cons_of_neg hneg]
          refine Trim.dropWhile_eq_self fun d hd => ?_
          rw [← Bool.not_eq_true]
          intro hpd
          have hhead := head_of_casefold (hp d hpd) hd
          rw [List.head?_cons] at hhead
          cases hhead
          exact hneg hpd

theorem splitOn_append {c : Char} {left : List Char} (h : c ∉ left)
    (right : List Char) :
    (left ++ right).splitOn c = (right.splitOn c).modifyHead (left ++ ·) := by
  induction left with
  | nil =>
      cases hsplit : right.splitOn c with
      | nil => exact absurd hsplit (List.splitOn_ne_nil c right)
      | cons first rest => exact hsplit
  | cons d left ih =>
      have hd : (d == c) = false :=
        beq_eq_false_iff_ne.mpr fun hd => h (hd ▸ List.mem_cons_self)
      rw [List.cons_append, List.splitOn_cons_eq_if_modifyHead, hd,
        if_neg Bool.false_ne_true,
        ih fun hmem => h (List.mem_cons_of_mem _ hmem)]
      cases right.splitOn c <;> rfl

/-- A text may be split before it is folded or after. -/
theorem casefold_splitOn {c : Char} (hc : Caseless c) (text : List Char) :
    (casefold text).splitOn c = (text.splitOn c).map casefold := by
  induction text with
  | nil => rfl
  | cons d text ih =>
      rw [casefold_cons, List.splitOn_cons_eq_if_modifyHead]
      by_cases hd : d = c
      · subst hd
        rw [foldChar_of_caseless hc, List.singleton_append,
          List.splitOn_cons_eq_if_modifyHead, beq_self_eq_true, if_pos rfl,
          if_pos rfl, ih]
        rfl
      · have hnot : c ∉ foldChar d := fun h =>
          hd (eq_of_mem_foldChar hc h).symm
        rw [splitOn_append hnot, ih, beq_eq_false_iff_ne.mpr hd,
          if_neg Bool.false_ne_true]
        cases text.splitOn c with
        | nil => rfl
        | cons first rest =>
            rw [List.map_cons, List.modifyHead_cons, List.modifyHead_cons,
              List.map_cons, casefold_cons]

-- ================================================================== ASCII

/-- What holds of the 128 codes holds of every ASCII character. -/
theorem ascii_forall {P : Char → Prop} (h : ∀ n < 128, P (Char.ofNat n))
    {c : Char} (hc : c.toNat < 128) : P c := by
  have hn := h c.toNat hc
  rwa [Char.ofNat_toNat] at hn

/-- An ASCII character folds to its lower case. -/
theorem foldChar_ascii {c : Char} (h : c.toNat < 128) :
    foldChar c = [c.toLower] :=
  @ascii_forall (fun c => foldChar c = [c.toLower])
    (by unfold foldChar; decide +kernel) c h

end CaseFolding
