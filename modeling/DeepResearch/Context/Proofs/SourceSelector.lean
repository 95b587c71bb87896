/-
Windows and blocks are exact: what is returned are parts of the text at
the positions it says, no two of which overlap, and nothing is lost where
the limit does not bite.

What the parts are does not depend on the scores. The windows tile the
text, since each ends behind where it begins (`windowEnd_spec`). The
blocks are what is left between the boundaries, and a boundary matches
nothing but white space (`blockBoundary_spec`). Selection reorders the
indices and leaves some out (`selectLoop_spec`), and that is all the
returned list depends on.
-/
import Mathlib.Data.List.GetD
import Mathlib.Data.List.TakeWhile
import DeepResearch.Context.SourceSelector
import DeepResearch.Lib.Selection

namespace DeepResearch.Context

open DeepResearch.Report (Text)
open DeepResearch.Run (isSpace)

variable {F : Type} [ScoreFloat F] {text : Text}

-- ============================================================ vocabulary

section

omit [ScoreFloat F]

/-- Each window is the part of the text at its positions. -/
def PartsOf (text : Text) (windows : List (SourceWindow F)) : Prop :=
  ∀ w ∈ windows, w.start < w.stop ∧ w.stop ≤ text.length
    ∧ w.content = Substring.slice text w.start w.stop

/-- No two windows overlap. -/
def NoOverlap (windows : List (SourceWindow F)) : Prop :=
  windows.Pairwise fun w w' => w.stop ≤ w'.start ∨ w'.stop ≤ w.start

/-- Each window ends before the next one begins. -/
def InOrder (windows : List (SourceWindow F)) : Prop :=
  windows.Pairwise fun w w' => w.stop ≤ w'.start

/-- The position is in exactly one of the windows. -/
def InOne (windows : List (SourceWindow F)) (n : Nat) : Prop :=
  ∃! w, w ∈ windows ∧ w.start ≤ n ∧ n < w.stop

/-- The windows are blocks of the text. -/
def AreBlocks (text : Text) (windows : List (SourceWindow F)) : Prop :=
  ∀ w ∈ windows, ⟨w.start, w.stop, w.content⟩ ∈ splitBlocks text

end

-- ============================================================== selection

omit [ScoreFloat F] in
/-- What a run of the selection has chosen, and what it has left. -/
structure Selected (limit : Int) (selected remaining chosen rest : List Nat) :
    Prop where
  perm : (chosen ++ rest).Perm (selected ++ remaining)
  full : rest = [] ∨ limit ≤ chosen.length
  within : (selected.length : Int) ≤ limit → (chosen.length : Int) ≤ limit

theorem maxIndex_mem {score : Nat → F × Int} {remaining : List Nat}
    {winner : Nat} (h : maxIndex score remaining = some winner) :
    winner ∈ remaining := by
  cases remaining with
  | nil => cases h
  | cons i remaining =>
      injection h with h
      rw [← h]
      exact Selection.foldl_pick_mem
        (fun j best => pairGreater (score j) (score best)) i remaining

theorem maxIndex_ne_none {score : Nat → F × Int} {remaining : List Nat}
    (h : maxIndex score remaining = none) : remaining = [] := by
  cases remaining with
  | nil => rfl
  | cons i remaining => cases h

/-- The loop ends, and what it has selected it took from the indices. -/
theorem selectLoop_spec {score : List Nat → Nat → F × Int} {limit : Int}
    {fuel : Nat} {remaining selected : List Nat}
    (hfuel : remaining.length ≤ fuel) :
    ∃ chosen rest, selectLoop score limit fuel remaining selected
        = some chosen
      ∧ Selected limit selected remaining chosen rest := by
  induction fuel generalizing remaining selected with
  | zero =>
      have hnil := List.length_eq_zero_iff.mp (Nat.le_zero.mp hfuel)
      rw [selectLoop, if_pos (.inl hnil)]
      exact ⟨selected, remaining, rfl, .refl _, .inl hnil, id⟩
  | succ fuel ih =>
      rw [selectLoop]
      by_cases hstop : remaining = [] ∨ limit ≤ selected.length
      · rw [if_pos hstop]
        exact ⟨selected, remaining, rfl, .refl _, hstop, id⟩
      · rw [if_neg hstop]
        cases hmax : maxIndex (score selected) remaining with
        | none => exact absurd (.inl (maxIndex_ne_none hmax)) hstop
        | some winner =>
            have hmem := maxIndex_mem hmax
            have hlength := List.length_erase_of_mem hmem
            obtain ⟨chosen, rest, hrun, hchosen⟩ :=
              @ih (remaining.erase winner) (selected ++ [winner]) (by omega)
            refine ⟨chosen, rest, hrun, ?_, hchosen.full, ?_⟩
            · refine hchosen.perm.trans ?_
              rw [List.append_assoc]
              exact (List.perm_cons_erase hmem).symm.append_left selected
            · intro _
              refine hchosen.within ?_
              rw [List.length_append, List.length_singleton]
              omega

/-- The selected indices: each once, within the limit, and all of them
where the limit allows it. -/
theorem selectIndices_spec {words : List (List Text)} {relevance : List F}
    {limit : Int} (hlimit : 1 ≤ limit) :
    ∃ selected, selectIndices words relevance limit = some selected
      ∧ selected.Nodup ∧ (∀ i ∈ selected, i < words.length)
      ∧ (selected.length : Int) ≤ limit
      ∧ ((words.length : Int) ≤ limit →
        ∀ i, i < words.length → i ∈ selected) := by
  obtain ⟨selected, rest, hrun, hperm, hfull, hwithin⟩ :=
    @selectLoop_spec F _ (windowScore words relevance) limit words.length
      (List.range words.length) [] (Nat.le_of_eq List.length_range)
  rw [List.nil_append] at hperm
  have hnodup : (selected ++ rest).Nodup :=
    hperm.nodup_iff.mpr List.nodup_range
  have hmem : ∀ i, i ∈ selected ++ rest ↔ i < words.length := fun i =>
    hperm.mem_iff.trans List.mem_range
  refine ⟨selected, hrun, (List.nodup_append.mp hnodup).1,
    fun i hi => (hmem i).mp (List.mem_append_left _ hi), ?_, ?_⟩
  · refine hwithin ?_
    rw [List.length_nil]
    omega
  · intro hall i hi
    have hlength := hperm.length_eq
    rw [List.length_append, List.length_range] at hlength
    have hrest : rest = [] := by
      rcases hfull with hnil | hfull
      · exact hnil
      · exact List.length_eq_zero_iff.mp (by omega)
    have hin := (hmem i).mpr hi
    rw [hrest, List.append_nil] at hin
    exact hin

-- ================================================================ windows

/-- A window ends behind where it begins. -/
theorem windowEnd_spec {windowChars start : Nat} (hchars : 1 ≤ windowChars)
    (hstart : start < text.length) :
    start < windowEnd text windowChars start
      ∧ windowEnd text windowChars start ≤ text.length := by
  unfold windowEnd
  dsimp only
  split
  case h_1 => omega
  case h_2 boundary hfind =>
    obtain ⟨-, hhigh, -⟩ := Substring.rfind_some hfind
    have hlength : (['\n', '\n'] : Text).length = 2 := rfl
    split
    · omega
    · omega

/-- The windows tile the text. -/
theorem windowLoop_spec {windowChars fuel start : Nat}
    (hchars : 1 ≤ windowChars) (hstart : start ≤ text.length)
    (hfuel : text.length - start ≤ fuel) :
    ∃ spans, windowLoop text windowChars fuel start = some spans
      ∧ Scan.Tiles start text.length spans := by
  induction fuel generalizing start with
  | zero =>
      rw [windowLoop, if_neg (by omega)]
      exact ⟨[], rfl, by show start = text.length; omega⟩
  | succ fuel ih =>
      rw [windowLoop]
      by_cases hlt : start < text.length
      · rw [if_pos hlt]
        obtain ⟨hnext, hend⟩ := windowEnd_spec hchars hlt
        obtain ⟨spans, hrun, htiles⟩ := ih hend (by omega)
        refine ⟨(start, windowEnd text windowChars start) :: spans, ?_, ?_⟩
        · simp only [hrun, Option.map_some]
        · exact ⟨rfl, hnext, htiles⟩
      · rw [if_neg hlt]
        exact ⟨[], rfl, by show start = text.length; omega⟩

theorem windowSpans_spec {windowChars : Nat} (hchars : 1 ≤ windowChars) :
    ∃ spans, windowSpans text windowChars = some spans
      ∧ Scan.Tiles 0 text.length spans :=
  windowLoop_spec hchars (Nat.zero_le _) (Nat.sub_le _ _)

/-- Spans in order are disjoint at different indices. -/
theorem disjoint_getD {spans : List (Nat × Nat)}
    (h : spans.Pairwise fun a b => a.2 ≤ b.1) {i j : Nat}
    (hi : i < spans.length) (hj : j < spans.length) (hij : i ≠ j) :
    (spans.getD i (0, 0)).2 ≤ (spans.getD j (0, 0)).1
      ∨ (spans.getD j (0, 0)).2 ≤ (spans.getD i (0, 0)).1 := by
  have hget := List.pairwise_iff_getElem.mp h
  rw [List.getD_eq_getElem _ _ hi, List.getD_eq_getElem _ _ hj]
  rcases Nat.lt_or_gt_of_ne hij with hlt | hlt
  · exact .inl (hget i j hi hj hlt)
  · exact .inr (hget j i hj hi hlt)

/-- Ranking the windows of a text. -/
theorem rankSourceWindows_spec {objectives : List Text}
    {windowChars limit : Int} (hchars : 1 ≤ windowChars)
    (hlimit : 1 ≤ limit) :
    ∃ spans, windowSpans text windowChars.toNat = some spans
      ∧ ∃ windows : List (SourceWindow F),
        rankSourceWindows text objectives windowChars limit = .ok windows
        ∧ (windows.length : Int) ≤ limit
        ∧ NoOverlap windows ∧ PartsOf text windows
        ∧ ((spans.length : Int) ≤ limit →
            ∀ n, n < text.length → InOne windows n) := by
  obtain ⟨spans, hspans, htiles⟩ :=
    @windowSpans_spec text windowChars.toNat (by omega)
  have hordered := htiles.ordered
  let words := spans.map fun w => terms (Substring.slice text w.1 w.2)
  have hwords : words.length = spans.length := List.length_map _
  obtain ⟨selected, hselected, hnodup, hbound, hcount, hall⟩ :=
    @selectIndices_spec F _ words
      (words.map (relevanceOf (queriesOf objectives))) limit hlimit
  rw [hwords] at hbound hall
  -- The window of a selected span, scored by its rank.
  let window : Nat × Nat → SourceWindow F := fun pair =>
    { start := (spans.getD pair.1 (0, 0)).1
      stop := (spans.getD pair.1 (0, 0)).2
      content := Substring.slice text (spans.getD pair.1 (0, 0)).1
        (spans.getD pair.1 (0, 0)).2
      score := quotient 1 1 - quotient pair.2 (max 1 selected.length) }
  have hranked : ∀ pair ∈ selected.zipIdx, pair.1 ∈ selected :=
    fun pair hpair => List.fst_mem_of_mem_zipIdx hpair
  -- Different spans do not meet, and no span is selected twice.
  have hdisjoint : NoOverlap (selected.zipIdx.map window) := by
    unfold NoOverlap
    rw [List.pairwise_map]
    have hne : selected.zipIdx.Pairwise fun a b => a.1 ≠ b.1 := by
      rw [← List.pairwise_map (f := Prod.fst) (R := (· ≠ ·)), List.zipIdx_map_fst]
      exact hnodup
    refine hne.imp_of_mem fun {a b} ha hb hab => ?_
    exact disjoint_getD hordered.pairwise (hbound _ (hranked a ha))
      (hbound _ (hranked b hb)) hab
  refine ⟨spans, hspans, selected.zipIdx.map window, ?_, ?_, hdisjoint, ?_, ?_⟩
  · unfold rankSourceWindows
    rw [if_neg (by omega), hspans]
    dsimp only
    rw [hselected]
  · rw [List.length_map, List.length_zipIdx]
    exact hcount
  · intro w hw
    obtain ⟨⟨i, rank⟩, hpair, rfl⟩ := List.mem_map.mp hw
    have hi : i < spans.length := hbound i (hranked _ hpair)
    have hspan : spans.getD i (0, 0) ∈ spans := by
      rw [List.getD_eq_getElem _ _ hi]
      exact List.getElem_mem hi
    exact ⟨htiles.lt_of_mem hspan, (hordered.bounds hspan).2.2, rfl⟩
  -- With room for all spans every one is selected.
  · intro hlimit n hn
    refine Scan.existsUnique_of_disjoint hdisjoint ?_
    obtain ⟨span, hspan, hin⟩ := htiles.exists_span (Nat.zero_le n) hn
    obtain ⟨i, hi, rfl⟩ := List.mem_iff_getElem.mp hspan
    have hmem : i ∈ selected.zipIdx.map Prod.fst := by
      rw [List.zipIdx_map_fst]
      exact hall hlimit i hi
    obtain ⟨⟨j, rank⟩, hpair, rfl⟩ := List.mem_map.mp hmem
    refine ⟨window (j, rank), List.mem_map_of_mem hpair, ?_⟩
    show (spans.getD j (0, 0)).1 ≤ n ∧ n < (spans.getD j (0, 0)).2
    rw [List.getD_eq_getElem _ _ hi]
    exact hin

-- ============================================================= boundaries

theorem blankLineAt_spec {n : Nat} (h : blankLineAt text = some n) :
    n ≤ text.length ∧ ∀ c ∈ text.take n, isSpace c = true := by
  unfold blankLineAt at h
  split at h
  case h_1 rest =>
    obtain ⟨k, hfind, rfl⟩ := Option.map_eq_some_iff.mp h
    obtain ⟨-, hhigh, -⟩ := Substring.rfind_some hfind
    have hrun : k + 1 ≤ (rest.takeWhile isSpace).length := hhigh
    have hprefix := List.takeWhile_prefix isSpace (l := rest)
    have hlength := hprefix.length_le
    refine ⟨by rw [List.length_cons]; omega, ?_⟩
    intro c hc
    rw [List.take_succ_cons] at hc
    rcases List.mem_cons.mp hc with rfl | hc
    · decide
    · obtain ⟨tail, htail⟩ := hprefix
      rw [← htail, List.take_append_of_le_length hrun] at hc
      exact List.mem_takeWhile_imp (List.mem_of_mem_take hc)
  case h_2 => cases h

/-- A boundary is within the text, and is white space. -/
theorem blockBoundary_spec {mustAdvance : Bool} {n : Nat}
    (h : blockBoundary mustAdvance text = some n) :
    n ≤ text.length ∧ ∀ c ∈ text.take n, isSpace c = true := by
  unfold blockBoundary at h
  split at h
  case h_1 k hblank =>
    cases h
    exact blankLineAt_spec hblank
  case h_2 =>
    split at h
    case isTrue hbreak =>
      cases h
      obtain ⟨rest, rfl⟩ := hbreak
      refine ⟨?_, ?_⟩
      · rw [List.length_append]
        exact Nat.le_add_right 4 _
      · intro c hc
        have hmem : c ∈ ['\r', '\n', '\r', '\n'] := hc
        have hall : ['\r', '\n', '\r', '\n'].all isSpace = true := by
          decide
        exact List.all_eq_true.mp hall c hmem
    case isFalse =>
      split at h
      · cases h
        exact ⟨Nat.zero_le _, nofun⟩
      · cases h

-- ================================================================= blocks

/-- The block at a span. -/
def blockAt (text : Text) (span : Nat × Nat) : Block :=
  ⟨span.1, span.2, Substring.slice text span.1 span.2⟩

/-- The loop cuts the pieces between the boundaries. -/
theorem splitFrom_eq (start : Nat) (boundaries : List (Nat × Nat)) :
    splitFrom text start boundaries
      = (Scan.pieces text.length start boundaries).map (blockAt text) := by
  induction boundaries generalizing start with
  | nil =>
      rw [splitFrom, Scan.pieces]
      split <;> rfl
  | cons boundary boundaries ih =>
      rw [splitFrom, Scan.pieces, List.map_append, ih]
      split <;> rfl

/-- The boundaries of a text. -/
def boundaries (text : Text) : List (Nat × Nat) :=
  Scan.finditer blockBoundary 0 0 text

theorem ordered_boundaries (text : Text) :
    Scan.Ordered 0 text.length (boundaries text) := by
  have hordered := @Scan.ordered_finditer _ blockBoundary 0 0 text
    (fun _ _ _ h => (blockBoundary_spec h).1) (Nat.zero_le _)
  rw [Nat.zero_add, Nat.zero_add] at hordered
  exact hordered

/-- What a boundary takes away is white space. -/
theorem isSpace_of_boundary {span : Nat × Nat}
    (hspan : span ∈ boundaries text) {n : Nat} (hstart : span.1 ≤ n)
    (hstop : n < span.2) {c : Char} (hc : text[n]? = some c) :
    isSpace c = true := by
  obtain ⟨must, k, hk, -, hmatch⟩ := Scan.matchAt_of_mem_finditer hspan
  rw [Nat.sub_zero] at hmatch
  refine (blockBoundary_spec hmatch).2 c ?_
  refine List.mem_of_getElem? (i := n - span.1) ?_
  rw [List.getElem?_take_of_lt (by omega), List.getElem?_drop]
  have hindex : span.1 + (n - span.1) = n := by omega
  rw [hindex]
  exact hc

theorem splitBlocks_eq (text : Text) :
    splitBlocks text
      = (Scan.pieces text.length 0 (boundaries text)).map (blockAt text) := by
  unfold splitBlocks
  split
  case isTrue hnil =>
    subst hnil
    decide
  case isFalse => exact splitFrom_eq 0 (boundaries text)

/-- Blocks are parts of the text, come in order, and leave out nothing but
white space. -/
structure BlocksOf (text : Text) (blocks : List Block) : Prop where
  ordered : blocks.Pairwise fun b b' => b.stop ≤ b'.start
  parts : ∀ b ∈ blocks, b.start < b.stop ∧ b.stop ≤ text.length
    ∧ b.content = Substring.slice text b.start b.stop
  covers : ∀ n c, text[n]? = some c → isSpace c = false →
    ∃ b ∈ blocks, b.start ≤ n ∧ n < b.stop

theorem blocksOf_splitBlocks (text : Text) :
    BlocksOf text (splitBlocks text) := by
  have hordered := Scan.ordered_pieces (ordered_boundaries text)
  rw [splitBlocks_eq]
  refine ⟨?_, ?_, ?_⟩
  · rw [List.pairwise_map]
    exact hordered.pairwise
  · intro b hb
    obtain ⟨piece, hpiece, rfl⟩ := List.mem_map.mp hb
    exact ⟨Scan.lt_of_mem_pieces hpiece, (hordered.bounds hpiece).2.2, rfl⟩
  · intro n c hc hsolid
    have hn : n < text.length := (List.getElem?_eq_some_iff.mp hc).1
    rcases Scan.exists_piece (Nat.zero_le n) hn with
      ⟨piece, hpiece, hin⟩ | ⟨span, hspan, hstart, hstop⟩
    · exact ⟨blockAt text piece, List.mem_map_of_mem hpiece, hin⟩
    · rw [isSpace_of_boundary hspan hstart hstop hc] at hsolid
      cases hsolid

-- ======================================================== relevant blocks

omit [ScoreFloat F] in
/-- What is returned of the blocks with some indices. -/
theorem blockWindows_spec {blocks : List Block} (hblocks : BlocksOf text blocks)
    {indices : List Nat} (hsorted : indices.Pairwise (· < ·))
    (hbound : ∀ i ∈ indices, i < blocks.length) (score : Nat → F) :
    let windows := indices.map fun i => blockWindow blocks i (score i)
    InOrder windows ∧ PartsOf text windows
      ∧ (∀ w ∈ windows, ⟨w.start, w.stop, w.content⟩ ∈ blocks)
      ∧ ((∀ i, i < blocks.length → i ∈ indices) →
          ∀ n c, text[n]? = some c → isSpace c = false →
            InOne windows n) := by
  intro windows
  have hget : ∀ i, i < blocks.length →
      blocks.getD i ⟨0, 0, []⟩ ∈ blocks := by
    intro i hi
    rw [List.getD_eq_getElem _ _ hi]
    exact List.getElem_mem hi
  have hordered : InOrder windows := by
    unfold InOrder
    rw [List.pairwise_map]
    refine hsorted.imp_of_mem fun {i j} hi hj hij => ?_
    show (blocks.getD i ⟨0, 0, []⟩).stop ≤ (blocks.getD j ⟨0, 0, []⟩).start
    rw [List.getD_eq_getElem _ _ (hbound i hi),
      List.getD_eq_getElem _ _ (hbound j hj)]
    exact List.pairwise_iff_getElem.mp hblocks.ordered i j _ _ hij
  refine ⟨hordered, ?_, ?_, ?_⟩
  · intro w hw
    obtain ⟨i, hi, rfl⟩ := List.mem_map.mp hw
    exact hblocks.parts _ (hget i (hbound i hi))
  · intro w hw
    obtain ⟨i, hi, rfl⟩ := List.mem_map.mp hw
    exact hget i (hbound i hi)
  · intro hall n c hc hsolid
    refine Scan.existsUnique_of_disjoint (hordered.imp Or.inl) ?_
    obtain ⟨b, hb, hin⟩ := hblocks.covers n c hc hsolid
    obtain ⟨i, hi, rfl⟩ := List.mem_iff_getElem.mp hb
    refine ⟨blockWindow blocks i (score i),
      List.mem_map_of_mem (hall i hi), ?_⟩
    show (blocks.getD i ⟨0, 0, []⟩).start ≤ n
      ∧ n < (blocks.getD i ⟨0, 0, []⟩).stop
    rw [List.getD_eq_getElem _ _ hi]
    exact hin

/-- Expanding adds indices of blocks, each once. -/
theorem expandIndices_spec {n : Nat} {expandNeighbors : Int}
    {selected : List Nat} (hbound : ∀ i ∈ selected, i < n) :
    (expandIndices n expandNeighbors selected).Nodup
      ∧ (∀ i ∈ expandIndices n expandNeighbors selected, i < n)
      ∧ ∀ i ∈ selected, i ∈ expandIndices n expandNeighbors selected := by
  unfold expandIndices
  refine ⟨List.nodup_dedup _, ?_, ?_⟩
  · intro i hi
    rcases List.mem_append.mp (List.mem_dedup.mp hi) with hi | hi
    · exact hbound i hi
    · obtain ⟨j, hj, hi⟩ := List.mem_flatMap.mp hi
      obtain ⟨distance, -, hi⟩ := List.mem_flatMap.mp hi
      have hjn := hbound j hj
      rcases List.mem_append.mp hi with hi | hi
      · split at hi
        · have heq := List.mem_singleton.mp hi
          omega
        · cases hi
      · split at hi
        · have heq := List.mem_singleton.mp hi
          omega
        · cases hi
  · intro i hi
    exact List.mem_dedup.mpr (List.mem_append_left _ hi)

/-- With their neighbours or without, the indices are those of blocks, each
once, and none is lost. -/
theorem expanded_spec {n : Nat} {expandNeighbors : Int}
    {selected : List Nat} (hnodup : selected.Nodup)
    (hbound : ∀ i ∈ selected, i < n) :
    let indices :=
      if 0 < expandNeighbors then expandIndices n expandNeighbors selected
      else selected
    indices.Nodup ∧ (∀ i ∈ indices, i < n) ∧ ∀ i ∈ selected, i ∈ indices := by
  intro indices
  by_cases hexpand : 0 < expandNeighbors
  · have heq : indices = expandIndices n expandNeighbors selected :=
      if_pos hexpand
    rw [heq]
    exact expandIndices_spec hbound
  · have heq : indices = selected := if_neg hexpand
    rw [heq]
    exact ⟨hnodup, hbound, fun _ hi => hi⟩

/-- Indices in order. -/
theorem sorted_mergeSort {indices : List Nat} (h : indices.Nodup) :
    (indices.mergeSort (· ≤ ·)).Pairwise (· < ·) := by
  have hle : (indices.mergeSort (· ≤ ·)).Pairwise fun a b =>
      decide (a ≤ b) = true := by
    refine List.pairwise_mergeSort ?_ ?_ indices
    · intro a b c hab hbc
      rw [decide_eq_true_iff] at hab hbc ⊢
      exact Nat.le_trans hab hbc
    · intro a b
      rw [Bool.or_eq_true, decide_eq_true_iff, decide_eq_true_iff]
      exact Nat.le_total a b
  have hne : (indices.mergeSort (· ≤ ·)).Pairwise (· ≠ ·) :=
    (List.mergeSort_perm indices _).nodup_iff.mpr h
  refine (hle.and hne).imp fun {a b} hab => ?_
  have hab' : a ≤ b := of_decide_eq_true hab.1
  exact Nat.lt_of_le_of_ne hab' hab.2

/-- Selecting from the blocks of a text. -/
theorem selectRelevantBlocks_spec {objectives : List Text}
    {limit expandNeighbors : Int} (hlimit : 1 ≤ limit) :
    ∃ windows : List (SourceWindow F),
      selectRelevantBlocks text objectives limit expandNeighbors
        = .ok windows
      ∧ InOrder windows ∧ PartsOf text windows ∧ AreBlocks text windows
      ∧ (((splitBlocks text).length : Int) ≤ limit →
          ∀ n c, text[n]? = some c → isSpace c = false →
            InOne windows n) := by
  have hblocks := blocksOf_splitBlocks text
  unfold selectRelevantBlocks
  rw [if_neg (by omega)]
  dsimp only
  by_cases hnone : splitBlocks text = []
  · rw [if_pos hnone]
    refine ⟨[], rfl, .nil, nofun, nofun, fun _ n c hc hsolid => ?_⟩
    obtain ⟨b, hb, -⟩ := hblocks.covers n c hc hsolid
    rw [hnone] at hb
    cases hb
  rw [if_neg hnone]
  -- Without a query the first blocks are taken, in their order.
  by_cases hqueries : queriesOf objectives = []
  · rw [if_pos hqueries]
    obtain ⟨hordered, hparts, hmem, hcovers⟩ := @blockWindows_spec F _
      (splitBlocks text) hblocks
      (List.range (min limit.toNat (splitBlocks text).length))
      List.pairwise_lt_range
      (fun i hi => by have hlt := List.mem_range.mp hi; omega)
      fun _ => quotient 1 1
    refine ⟨_, rfl, hordered, hparts, hmem, fun hall =>
      hcovers fun i hi => ?_⟩
    exact List.mem_range.mpr (by omega)
  · rw [if_neg hqueries]
    obtain ⟨selected, hselected, hnodup, hbound, -, hall⟩ :=
      @selectIndices_spec F _
        ((splitBlocks text).map fun block => terms block.content)
        (((splitBlocks text).map fun block => terms block.content).map
          (relevanceOf (queriesOf objectives))) limit hlimit
    rw [List.length_map] at hbound hall
    rw [hselected]
    -- The neighbours are added and the whole is sorted again.
    obtain ⟨hdistinct, hwithin, hkept⟩ :=
      @expanded_spec (splitBlocks text).length expandNeighbors selected
        hnodup hbound
    obtain ⟨hordered, hparts, hmem, hcovers⟩ := @blockWindows_spec F _
      (splitBlocks text) hblocks _ (sorted_mergeSort hdistinct)
      (fun i hi => hwithin i (List.mem_mergeSort.mp hi))
      fun i => (((splitBlocks text).map fun block =>
        terms block.content).map (relevanceOf (queriesOf objectives))).getD i 0
    exact ⟨_, rfl, hordered, hparts, hmem, fun hlimit => hcovers fun i hi =>
      List.mem_mergeSort.mpr (hkept i (hall hlimit i hi))⟩

/-- Windows and blocks are exact: `rank_source_windows` returns within the
limit disjoint parts of the text, all of it where the limit is not less
than their number, and `select_relevant_blocks` returns blocks of the text
in order, and where the limit is not less than their number every
character that is no white space is in exactly one of them. -/
theorem source_windows_exact (text : Text) (objectives : List Text) :
    (∀ windowChars limit : Int, 1 ≤ windowChars → 1 ≤ limit →
      ∃ spans, windowSpans text windowChars.toNat = some spans
        ∧ ∃ windows : List (SourceWindow F),
          rankSourceWindows text objectives windowChars limit = .ok windows
          ∧ (windows.length : Int) ≤ limit
          ∧ NoOverlap windows ∧ PartsOf text windows
          ∧ ((spans.length : Int) ≤ limit →
              ∀ n, n < text.length → InOne windows n))
    ∧ ∀ limit expandNeighbors : Int, 1 ≤ limit →
      ∃ windows : List (SourceWindow F),
        selectRelevantBlocks text objectives limit expandNeighbors
          = .ok windows
        ∧ InOrder windows ∧ PartsOf text windows ∧ AreBlocks text windows
        ∧ (((splitBlocks text).length : Int) ≤ limit →
            ∀ n c, text[n]? = some c → isSpace c = false →
              InOne windows n) :=
  ⟨fun _ _ hchars hlimit => rankSourceWindows_spec hchars hlimit,
    fun _ _ hlimit => selectRelevantBlocks_spec hlimit⟩

/-- A text of two paragraphs, cut at the blank line. -/
theorem source_windows_exact_sample :
    splitBlocks ['a', '\n', ' ', '\n', 'b']
        = [⟨0, 1, ['a']⟩, ⟨4, 5, ['b']⟩]
      ∧ (∃ windows : List (SourceWindow Int),
          rankSourceWindows ['a', '\n', ' ', '\n', 'b'] [['a']] 2 1
            = .ok windows
          ∧ NoOverlap windows
          ∧ PartsOf ['a', '\n', ' ', '\n', 'b'] windows)
      ∧ ∃ windows : List (SourceWindow Int),
          selectRelevantBlocks ['a', '\n', ' ', '\n', 'b'] [['a', 'a']] 2 1
            = .ok windows
          ∧ InOne windows 0 ∧ InOne windows 4 := by
  have hblocks : splitBlocks ['a', '\n', ' ', '\n', 'b']
      = [⟨0, 1, ['a']⟩, ⟨4, 5, ['b']⟩] := by decide +kernel
  refine ⟨hblocks, ?_, ?_⟩
  · obtain ⟨-, -, windows, hrun, -, hdisjoint, hparts, -⟩ :=
      (@source_windows_exact Int _ ['a', '\n', ' ', '\n', 'b'] [['a']]).1 2 1
        (by decide) (by decide)
    exact ⟨windows, hrun, hdisjoint, hparts⟩
  · obtain ⟨windows, hrun, -, -, -, hcovers⟩ :=
      (@source_windows_exact Int _ ['a', '\n', ' ', '\n', 'b']
        [['a', 'a']]).2 2 1 (by decide)
    rw [hblocks] at hcovers
    exact ⟨windows, hrun, hcovers (by decide) 0 'a' rfl (by decide),
      hcovers (by decide) 4 'b' rfl (by decide)⟩

end DeepResearch.Context
