/-
Finding all matches of a pattern in a text, from the left, and the pieces
of the text between them.

A pattern is given by what it matches at the beginning of a text; it may
look further than it matches. After an empty match the search goes on at
the same place, where it must then match something. The matches come in
order and do not overlap (`ordered_finditer`), so what is left between
them comes in order too, and each position is in one of the pieces or in
a match (`exists_piece`).
-/
import Mathlib.Data.List.Pairwise
import DeepResearch.Lib.Substring

namespace Scan

universe u

variable {α : Type u}

-- ================================================================= spans

/-- Spans of positions between `low` and `high`, each from where the one
before it ends, or later. -/
def Ordered : Nat → Nat → List (Nat × Nat) → Prop
  | low, high, [] => low ≤ high
  | low, high, (start, stop) :: spans =>
      low ≤ start ∧ start ≤ stop ∧ Ordered stop high spans

variable {low high : Nat} {spans : List (Nat × Nat)}

theorem Ordered.le (h : Ordered low high spans) : low ≤ high := by
  induction spans generalizing low with
  | nil => exact h
  | cons span spans ih =>
      obtain ⟨hstart, hstop, hrest⟩ := h
      exact Nat.le_trans hstart (Nat.le_trans hstop (ih hrest))

theorem Ordered.mono {low' : Nat} (h : Ordered low high spans)
    (hlow : low' ≤ low) : Ordered low' high spans := by
  cases spans with
  | nil => exact Nat.le_trans hlow h
  | cons span spans => exact ⟨Nat.le_trans hlow h.1, h.2⟩

theorem Ordered.bounds (h : Ordered low high spans) {span : Nat × Nat}
    (hspan : span ∈ spans) :
    low ≤ span.1 ∧ span.1 ≤ span.2 ∧ span.2 ≤ high := by
  induction spans generalizing low with
  | nil => cases hspan
  | cons other spans ih =>
      obtain ⟨hstart, hstop, hrest⟩ := h
      rcases List.mem_cons.mp hspan with rfl | hspan
      · exact ⟨hstart, hstop, hrest.le⟩
      · obtain ⟨hlow, hmiddle, hhigh⟩ := ih hrest hspan
        exact ⟨by omega, hmiddle, hhigh⟩

theorem Ordered.pairwise (h : Ordered low high spans) :
    spans.Pairwise fun a b => a.2 ≤ b.1 := by
  induction spans generalizing low with
  | nil => exact .nil
  | cons span spans ih =>
      obtain ⟨-, -, hrest⟩ := h
      exact .cons (fun other hother => (hrest.bounds hother).1) (ih hrest)

/-- Of disjoint spans, at most one has a position. -/
theorem existsUnique_of_disjoint {β : Type u} {items : List β}
    {start stop : β → Nat} {n : Nat}
    (hdisjoint : items.Pairwise fun a b =>
      stop a ≤ start b ∨ stop b ≤ start a)
    (h : ∃ a ∈ items, start a ≤ n ∧ n < stop a) :
    ∃! a, a ∈ items ∧ start a ≤ n ∧ n < stop a := by
  obtain ⟨a, ha, hstart, hstop⟩ := h
  refine ⟨a, ⟨ha, hstart, hstop⟩, ?_⟩
  rintro b ⟨hb, hstart', hstop'⟩
  have hsymm : Std.Symm fun a b : β =>
      stop a ≤ start b ∨ stop b ≤ start a := ⟨fun _ _ => Or.symm⟩
  by_contra hne
  rcases hdisjoint.forall hb ha hne with h | h
  · omega
  · omega

/-- Spans that are not empty, each from where the one before it ends. -/
def Tiles : Nat → Nat → List (Nat × Nat) → Prop
  | low, high, [] => low = high
  | low, high, (start, stop) :: spans =>
      start = low ∧ low < stop ∧ Tiles stop high spans

theorem Tiles.ordered (h : Tiles low high spans) :
    Ordered low high spans := by
  induction spans generalizing low with
  | nil => exact Nat.le_of_eq h
  | cons span spans ih =>
      obtain ⟨hstart, hstop, hrest⟩ := h
      refine ⟨Nat.le_of_eq hstart.symm, ?_, ih hrest⟩
      show span.1 ≤ span.2
      omega

theorem Tiles.lt_of_mem (h : Tiles low high spans) {span : Nat × Nat}
    (hspan : span ∈ spans) : span.1 < span.2 := by
  induction spans generalizing low with
  | nil => cases hspan
  | cons other spans ih =>
      obtain ⟨hstart, hstop, hrest⟩ := h
      rcases List.mem_cons.mp hspan with rfl | hspan
      · exact hstart ▸ hstop
      · exact ih hrest hspan

/-- Each position is in one of the tiles. -/
theorem Tiles.exists_span (h : Tiles low high spans) {n : Nat}
    (hlow : low ≤ n) (hhigh : n < high) :
    ∃ span ∈ spans, span.1 ≤ n ∧ n < span.2 := by
  induction spans generalizing low with
  | nil =>
      have heq : low = high := h
      omega
  | cons span spans ih =>
      obtain ⟨hstart, hstop, hrest⟩ := h
      by_cases hn : n < span.2
      · exact ⟨span, List.mem_cons_self, hstart ▸ hlow, hn⟩
      · obtain ⟨other, hother, hin⟩ := ih hrest (Nat.le_of_not_lt hn)
        exact ⟨other, List.mem_cons_of_mem _ hother, hin⟩

-- =============================================================== matching

variable (matchAt : Bool → List α → Option Nat)

/-- `re.finditer`. The text begins at `pos`, and the first `skip`
characters of it belong to the match before. The pattern tells how much it
matches at the beginning of a text; with `true`, it must match
something. -/
def finditer (pos : Nat) : Nat → List α → List (Nat × Nat)
  | 0, [] => if matchAt false [] = some 0 then [(pos, pos)] else []
  | _ + 1, [] => []
  | skip + 1, _ :: text => finditer (pos + 1) skip text
  | 0, c :: text =>
      match matchAt false (c :: text) with
      | none => finditer (pos + 1) 0 text
      | some (n + 1) => (pos, pos + n + 1) :: finditer (pos + 1) n text
      | some 0 =>
          (pos, pos) ::
            match matchAt true (c :: text) with
            | some (n + 1) => (pos, pos + n + 1) :: finditer (pos + 1) n text
            | _ => finditer (pos + 1) 0 text

variable {matchAt} {pos skip : Nat} {text : List α}

/-- Matches come in order and do not overlap. -/
theorem ordered_finditer
    (hbound : ∀ must text n, matchAt must text = some n → n ≤ text.length)
    (hskip : skip ≤ text.length) :
    Ordered (pos + skip) (pos + text.length)
      (finditer matchAt pos skip text) := by
  induction text generalizing pos skip with
  | nil =>
      have hzero : skip = 0 := Nat.le_zero.mp hskip
      subst hzero
      rw [finditer]
      split
      · exact ⟨Nat.le_refl _, Nat.le_refl _, Nat.le_refl _⟩
      · exact Nat.le_refl _
  | cons c text ih =>
      have hnext : ∀ n, n ≤ text.length →
          Ordered (pos + n + 1) (pos + (c :: text).length)
            (finditer matchAt (pos + 1) n text) := by
        intro n hn
        have hrest := @ih (pos + 1) n hn
        rw [List.length_cons]
        have hlow : pos + 1 + n = pos + n + 1 := by omega
        have hhigh : pos + 1 + text.length = pos + (text.length + 1) := by
          omega
        rwa [hlow, hhigh] at hrest
      have hlength : ∀ must n, matchAt must (c :: text) = some (n + 1) →
          n ≤ text.length := fun must n h =>
        Nat.le_of_succ_le_succ (hbound must _ _ h)
      cases skip with
      | succ skip => exact hnext _ (Nat.le_of_succ_le_succ hskip)
      | zero =>
          rw [finditer]
          split
          case h_1 => exact (hnext 0 (Nat.zero_le _)).mono (by omega)
          case h_2 n h =>
            exact ⟨by omega, by omega, hnext n (hlength false n h)⟩
          case h_3 =>
            refine ⟨Nat.le_refl _, Nat.le_refl _, ?_⟩
            split
            case h_1 n h =>
              exact ⟨by omega, by omega, hnext n (hlength true n h)⟩
            case h_2 => exact (hnext 0 (Nat.zero_le _)).mono (by omega)

/-- A match is one of the pattern. -/
theorem matchAt_of_mem_finditer {start stop : Nat}
    (h : (start, stop) ∈ finditer matchAt pos skip text) :
    ∃ must n, stop = start + n ∧ pos ≤ start
      ∧ matchAt must (text.drop (start - pos)) = some n := by
  induction text generalizing pos skip with
  | nil =>
      cases skip with
      | succ skip => cases h
      | zero =>
          rw [finditer] at h
          split at h
          case isTrue hempty =>
            cases List.mem_singleton.mp h
            refine ⟨false, 0, rfl, Nat.le_refl _, ?_⟩
            rw [Nat.sub_self]
            exact hempty
          case isFalse => cases h
  | cons c text ih =>
      -- A match further on.
      have hnext : ∀ n, (start, stop) ∈ finditer matchAt (pos + 1) n text →
          ∃ must n, stop = start + n ∧ pos ≤ start
            ∧ matchAt must ((c :: text).drop (start - pos)) = some n := by
        intro n hn
        obtain ⟨must, k, hstop, hpos, hmatch⟩ := ih hn
        refine ⟨must, k, hstop, by omega, ?_⟩
        have hdrop : start - pos = (start - (pos + 1)) + 1 := by omega
        rw [hdrop, List.drop_succ_cons]
        exact hmatch
      -- A match at this place.
      have hhere : ∀ must n, matchAt must (c :: text) = some n →
          (start, stop) = (pos, pos + n) →
          ∃ must n, stop = start + n ∧ pos ≤ start
            ∧ matchAt must ((c :: text).drop (start - pos)) = some n := by
        rintro must n hmatch ⟨⟩
        refine ⟨must, n, rfl, Nat.le_refl _, ?_⟩
        rw [Nat.sub_self]
        exact hmatch
      cases skip with
      | succ skip => exact hnext _ h
      | zero =>
          rw [finditer] at h
          split at h
          case h_1 => exact hnext _ h
          case h_2 n hmatch =>
            rcases List.mem_cons.mp h with h | h
            · exact hhere false (n + 1) hmatch h
            · exact hnext _ h
          -- An empty match is followed by a second try that must not be
          -- empty.
          case h_3 hmatch =>
            rcases List.mem_cons.mp h with h | h
            · exact hhere false 0 hmatch h
            · split at h
              case h_1 n hmatch' =>
                rcases List.mem_cons.mp h with h | h
                · exact hhere true (n + 1) hmatch' h
                · exact hnext _ h
              case h_2 => exact hnext _ h

-- ================================================================= pieces

/-- What is left between the spans, from `low` to `high`. -/
def pieces (high : Nat) : Nat → List (Nat × Nat) → List (Nat × Nat)
  | low, [] => if low < high then [(low, high)] else []
  | low, (start, stop) :: spans =>
      (if low < start then [(low, start)] else []) ++ pieces high stop spans

/-- Pieces come in order. -/
theorem ordered_pieces (h : Ordered low high spans) :
    Ordered low high (pieces high low spans) := by
  induction spans generalizing low with
  | nil =>
      rw [pieces]
      split
      · exact ⟨Nat.le_refl _, h, Nat.le_refl _⟩
      · exact h
  | cons span spans ih =>
      obtain ⟨hstart, hstop, hrest⟩ := h
      rw [pieces]
      split
      · exact ⟨Nat.le_refl _, hstart, (ih hrest).mono hstop⟩
      · exact (ih hrest).mono (Nat.le_trans hstart hstop)

/-- No piece is empty. -/
theorem lt_of_mem_pieces {piece : Nat × Nat}
    (h : piece ∈ pieces high low spans) : piece.1 < piece.2 := by
  induction spans generalizing low with
  | nil =>
      rw [pieces] at h
      split at h
      case isTrue hlt =>
        rw [List.mem_singleton.mp h]
        exact hlt
      case isFalse => cases h
  | cons span spans ih =>
      rw [pieces] at h
      rcases List.mem_append.mp h with h | h
      · split at h
        case isTrue hlt =>
          rw [List.mem_singleton.mp h]
          exact hlt
        case isFalse => cases h
      · exact ih h

/-- Each position is in a piece or in one of the spans. -/
theorem exists_piece {n : Nat} (hlow : low ≤ n) (hhigh : n < high) :
    (∃ piece ∈ pieces high low spans, piece.1 ≤ n ∧ n < piece.2)
      ∨ ∃ span ∈ spans, span.1 ≤ n ∧ n < span.2 := by
  induction spans generalizing low with
  | nil =>
      rw [pieces, if_pos (by omega)]
      exact .inl ⟨_, List.mem_singleton_self _, hlow, hhigh⟩
  | cons span spans ih =>
      rw [pieces]
      by_cases hstart : n < span.1
      · rw [if_pos (by omega)]
        exact .inl ⟨_, List.mem_append_left _ (List.mem_singleton_self _),
          hlow, hstart⟩
      · by_cases hstop : n < span.2
        · exact .inr ⟨span, List.mem_cons_self, by omega, hstop⟩
        · rcases ih (Nat.le_of_not_lt hstop) with
            ⟨piece, hpiece, hin⟩ | ⟨other, hother, hin⟩
          · exact .inl ⟨piece, List.mem_append_right _ hpiece, hin⟩
          · exact .inr ⟨other, List.mem_cons_of_mem _ hother, hin⟩

end Scan
