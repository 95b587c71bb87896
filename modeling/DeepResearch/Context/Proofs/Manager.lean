/-
The selection keeps what is protected, loses no candidate, and stays
within its budget.

# The order

Every candidate is protected, ranked or pruned, and only one of these
(`mmrOrder_partition`), however the scores compare.

# The loop

`buildStep_cases` is what one round can do: nothing, or to store a form
of the candidate that fits. A run stores its rows at the end, under new
indices (`foldl_buildStep`). The protected candidates come first, fit
together, and so are all stored as they are
(`foldl_buildStep_protected`).
-/
import Mathlib.Tactic.Linarith
import DeepResearch.Context.Manager
import DeepResearch.Lib.Selection

namespace DeepResearch.Context

open DeepResearch.Report (Text)

-- =============================================================== estimates

/-- A third, rounded up, in natural numbers. -/
theorem ceil_third (n : Nat) : ⌈(n : ℚ) / 3⌉₊ = (n + 2) / 3 := by
  apply le_antisymm
  · rw [Nat.ceil_le, div_le_iff₀ (by norm_num)]
    have h : n ≤ (n + 2) / 3 * 3 := by omega
    exact_mod_cast h
  · have h : (n : ℚ) / 3 ≤ (⌈(n : ℚ) / 3⌉₊ : ℚ) := Nat.le_ceil _
    rw [div_le_iff₀ (by norm_num)] at h
    have h' : n ≤ ⌈(n : ℚ) / 3⌉₊ * 3 := by exact_mod_cast h
    omega

/-- The two estimates are the same. -/
theorem compressorEstimateTokens_eq (content : Text) :
    compressorEstimateTokens content = estimateTokens content := by
  unfold compressorEstimateTokens estimateTokens
  rw [ceil_third]

-- =============================================================== the order

section

variable {F : Type} [ScoreFloat F] {policy : ContextPolicy F}

/-- The best entry is one of them. -/
theorem maxEntry_mem {score : Entry F → F × F × Int}
    {entries : List (Entry F)} {best : Entry F}
    (h : maxEntry score entries = some best) : best ∈ entries := by
  cases entries with
  | nil => cases h
  | cons entry entries =>
      injection h with h
      subst h
      exact Selection.foldl_pick_mem
        (fun other best => scoreGreater (score other) (score best)) entry
        entries

/-- There is a best entry unless there is none at all. -/
theorem maxEntry_ne_none {score : Entry F → F × F × Int}
    {entries : List (Entry F)} (h : maxEntry score entries = none) :
    entries = [] := by
  cases entries with
  | nil => rfl
  | cons entry entries => cases h

omit [ScoreFloat F] in
/-- Removing the best leaves the others. -/
theorem perm_removeEntry {eligible : List (Entry F)} {best : Entry F}
    (hnodup : (eligible.map Prod.snd).Nodup) (h : best ∈ eligible) :
    eligible.Perm (best :: removeEntry eligible best) := by
  induction eligible with
  | nil => cases h
  | cons entry eligible ih =>
      rw [List.map_cons, List.nodup_cons] at hnodup
      unfold removeEntry
      rcases List.mem_cons.mp h with rfl | h
      · rw [List.eraseP_cons_of_pos (by simp)]
      · have hne : entry.2 ≠ best.2 := fun heq =>
          hnodup.1 (heq ▸ List.mem_map_of_mem h)
        rw [List.eraseP_cons_of_neg (by simpa using hne)]
        exact ((ih hnodup.2 h).cons entry).trans (.swap ..)

/-- The `while` loop selects or prunes every eligible candidate. -/
theorem mmrLoop_partition {fuel : Nat} {eligible selected : List (Entry F)}
    {pruned : List Nat} (hnodup : (eligible.map Prod.snd).Nodup)
    (hfuel : eligible.length ≤ fuel) :
    ∃ added dropped,
      (mmrLoop policy fuel eligible selected pruned).1 = selected ++ added
      ∧ (∀ i, i ∈ (mmrLoop policy fuel eligible selected pruned).2
        ↔ i ∈ pruned ∨ i ∈ dropped.map Prod.snd)
      ∧ eligible.Perm (added ++ dropped) := by
  induction fuel generalizing eligible selected pruned with
  | zero =>
      have hnil := List.length_eq_zero_iff.mp (Nat.le_zero.mp hfuel)
      subst hnil
      exact ⟨[], [], (List.append_nil _).symm, fun i => by simp [mmrLoop],
        .nil⟩
  | succ fuel ih =>
      rw [mmrLoop]
      cases hbest : maxEntry (mmrScore policy selected) eligible with
      | none =>
          rw [maxEntry_ne_none hbest]
          exact ⟨[], [], (List.append_nil _).symm, fun i => by simp, .nil⟩
      | some best =>
          have hperm := perm_removeEntry hnodup (maxEntry_mem hbest)
          have hlength := hperm.length_eq
          rw [List.length_cons] at hlength
          have hrest : ((removeEntry eligible best).map Prod.snd).Nodup :=
            ((hperm.map Prod.snd).nodup_iff.mp hnodup).of_cons
          -- The best entry leaves the eligible ones: dropped if it is
          -- redundant, else added.
          by_cases hredundant : isRedundant policy selected best
          · obtain ⟨added, dropped, hselected, hpruned, hparts⟩ :=
              @ih _ selected (best.2 :: pruned) hrest (by omega)
            simp only [if_pos hredundant]
            refine ⟨added, best :: dropped, hselected, fun i => ?_, ?_⟩
            · rw [hpruned, List.mem_cons, List.map_cons, List.mem_cons]
              tauto
            · exact hperm.trans ((hparts.cons best).trans
                List.perm_middle.symm)
          · obtain ⟨added, dropped, hselected, hpruned, hparts⟩ :=
              @ih _ (selected ++ [best]) pruned hrest (by omega)
            simp only [if_neg hredundant]
            refine ⟨best :: added, dropped, ?_, hpruned, ?_⟩
            · rw [hselected, List.append_assoc]
              rfl
            · exact hperm.trans (hparts.cons best)

omit [ScoreFloat F] in
/-- The caps keep or prune every remaining candidate. -/
theorem capStep_partition (policy : ContextPolicy F)
    (entries : List (Entry F)) (s : CapState F) :
    ∃ kept cut,
      (entries.foldl (capStep policy) s).eligible = s.eligible ++ kept
      ∧ (∀ i, i ∈ (entries.foldl (capStep policy) s).pruned
        ↔ i ∈ s.pruned ∨ i ∈ cut.map Prod.snd)
      ∧ entries.Perm (kept ++ cut) := by
  induction entries generalizing s with
  | nil => exact ⟨[], [], (List.append_nil _).symm, fun i => by simp, .nil⟩
  | cons entry entries ih =>
      obtain ⟨kept, cut, hkept, hcut, hparts⟩ := ih (capStep policy s entry)
      rw [List.foldl_cons]
      unfold capStep at hkept hcut ⊢
      by_cases hcap : (policy.maxItemsByType entry.1.itemType).any
          (· ≤ s.counts entry.1.itemType)
      · simp only [if_pos hcap] at hkept hcut ⊢
        refine ⟨kept, entry :: cut, hkept, fun i => ?_, ?_⟩
        · rw [hcut, List.mem_cons, List.map_cons, List.mem_cons]
          tauto
        · exact (hparts.cons entry).trans List.perm_middle.symm
      · simp only [if_neg hcap] at hkept hcut ⊢
        refine ⟨entry :: kept, cut, ?_, hcut, hparts.cons entry⟩
        rw [hkept, List.append_assoc]
        rfl

omit [ScoreFloat F] in
theorem nodup_indices (candidates : List (ContextCandidate F)) :
    (candidates.zipIdx.map Prod.snd).Nodup := by
  rw [List.zipIdx_map_snd]
  exact List.nodup_range' ..

/-- Every candidate is protected, ranked or pruned. -/
theorem mmrOrder_partition (candidates : List (ContextCandidate F))
    (policy : ContextPolicy F) :
    ∃ ranked dropped,
      (mmrOrder candidates policy).1
        = candidates.zipIdx.filter (·.1.isProtected) ++ ranked
      ∧ (∀ i, i ∈ (mmrOrder candidates policy).2
        ↔ i ∈ dropped.map Prod.snd)
      ∧ (candidates.zipIdx.filter (!·.1.isProtected)).Perm
        (ranked ++ dropped) := by
  obtain ⟨kept, cut, hkept, hcut, hparts⟩ := capStep_partition
    policy (candidates.zipIdx.filter (!·.1.isProtected)) {}
  have heligible : ((candidates.zipIdx.filter (!·.1.isProtected)).foldl
      (capStep policy) {}).eligible = kept := hkept
  have hnodup : (kept.map Prod.snd).Nodup := by
    have hall : ((kept ++ cut).map Prod.snd).Nodup :=
      (hparts.map Prod.snd).nodup_iff.mp ((nodup_indices candidates).sublist
        (List.filter_sublist.map _))
    rw [List.map_append] at hall
    exact hall.of_append_left
  obtain ⟨ranked, dropped, hranked, hdropped, hparts'⟩ :=
    @mmrLoop_partition F _ policy kept.length kept []
      ((candidates.zipIdx.filter (!·.1.isProtected)).foldl
        (capStep policy) {}).pruned hnodup (le_refl _)
  unfold mmrOrder
  simp only [heligible]
  refine ⟨ranked, dropped ++ cut, ?_, fun i => ?_, ?_⟩
  · rw [hranked]
    rfl
  · rw [hdropped, hcut, List.map_append, List.mem_append]
    simp only [List.not_mem_nil, false_or]
    exact or_comm
  · rw [← List.append_assoc]
    exact hparts.trans (hparts'.append_right cut)

/-- What the loop needs of the order: every index comes once, and no
protected one is pruned. -/
theorem mmrOrder_indices (candidates : List (ContextCandidate F))
    (policy : ContextPolicy F) :
    ∃ ranked,
      (mmrOrder candidates policy).1
        = candidates.zipIdx.filter (·.1.isProtected) ++ ranked
      ∧ (∀ entry ∈ ranked, entry ∈ candidates.zipIdx)
      ∧ ((candidates.zipIdx.filter (·.1.isProtected)).map Prod.snd
        ++ ranked.map Prod.snd).Nodup
      ∧ ∀ entry ∈ candidates.zipIdx.filter (·.1.isProtected),
        entry.2 ∉ (mmrOrder candidates policy).2 := by
  obtain ⟨ranked, dropped, hordered, hpruned, hparts⟩ :=
    mmrOrder_partition candidates policy
  have hall : ((candidates.zipIdx.filter (·.1.isProtected)
      ++ (ranked ++ dropped)).map Prod.snd).Nodup := by
    have hperm := (hparts.symm.append_left
      (candidates.zipIdx.filter (·.1.isProtected))).trans
      (List.filter_append_perm (·.1.isProtected) candidates.zipIdx)
    exact (hperm.map Prod.snd).nodup_iff.mpr (nodup_indices candidates)
  rw [List.map_append, List.map_append] at hall
  refine ⟨ranked, hordered, fun entry hentry => ?_, ?_,
    fun entry hentry hmem => ?_⟩
  · exact (List.mem_filter.mp (hparts.mem_iff.mpr
      (List.mem_append_left _ hentry))).1
  · rw [← List.append_assoc] at hall
    exact hall.of_append_left
  · rw [hpruned] at hmem
    exact (List.nodup_append.mp hall).2.2 _ (List.mem_map_of_mem hentry) _
      (List.mem_append_right _ hmem) rfl

end

-- ================================================================ the loop

section

variable {F H : Type} {sha256 : Text → H}

/-- What a compression returns fits its target, and is estimated right. -/
theorem compressCandidate_fits {candidate : ContextCandidate F}
    {targetTokens : Int} {compressed : CompressionResult F H}
    (h : compressCandidate sha256 candidate targetTokens
      = some compressed) :
    compressed.tokenAfter = estimateTokens compressed.candidate.content
      ∧ (compressed.tokenAfter : Int) ≤ targetTokens := by
  unfold compressCandidate at h
  simp only at h
  split at h
  case isTrue => cases h
  case isFalse =>
    split at h
    case isTrue => cases h
    case isFalse =>
      obtain ⟨chosen, -, h⟩ := Option.bind_eq_some_iff.mp h
      split at h
      case isTrue => cases h
      case isFalse hfits =>
        injection h with h
        subst h
        rw [not_or, not_or, not_lt] at hfits
        exact ⟨compressorEstimateTokens_eq _, hfits.2.2⟩

/-- A form in which a candidate may be selected. -/
def FormOf (sha256 : Text → H) (candidate form : ContextCandidate F) :
    Prop :=
  form = candidate ∨ ∃ targetTokens compressed,
    compressCandidate sha256 candidate targetTokens = some compressed
    ∧ form = compressed.candidate

variable {policy : ContextPolicy F} {inputBudget : Int}
  {policyPruned : List Nat}

/-- What one round can do. -/
theorem buildStep_cases (s : BuildState F H) (entry : Entry F) :
    buildStep sha256 policy inputBudget policyPruned s entry = s
    ∨ ∃ form, FormOf sha256 entry.1 form
      ∧ (buildStep sha256 policy inputBudget policyPruned s
          entry).selectedByIndex
        = Dict.assign Prod.fst s.selectedByIndex (entry.2, form)
      ∧ (buildStep sha256 policy inputBudget policyPruned s entry).used
        = s.used + estimateTokens form.content
      ∧ ((buildStep sha256 policy inputBudget policyPruned s entry).used
        : Int) ≤ inputBudget := by
  obtain ⟨candidate, index⟩ := entry
  unfold buildStep
  simp only
  split
  case isTrue => exact .inl rfl
  case isFalse =>
    split
    case isTrue hfits =>
      exact .inr ⟨candidate, .inl rfl, rfl, rfl, hfits⟩
    case isFalse =>
      split
      case isTrue => exact .inl rfl
      case isFalse =>
        cases hcompress : compressCandidate sha256 candidate
            (inputBudget - s.used) with
        | none => exact .inl rfl
        | some compressed =>
            obtain ⟨hestimate, hfits⟩ := compressCandidate_fits hcompress
            refine .inr ⟨compressed.candidate,
              .inr ⟨_, compressed, hcompress, rfl⟩, rfl, ?_, ?_⟩
            · show s.used + compressed.tokenAfter = _
              rw [hestimate]
            · show ((s.used + compressed.tokenAfter : Nat) : Int) ≤ _
              push_cast
              linarith

/-- The rows of a dictionary by index that come from some entries. -/
structure RowsOf (sha256 : Text → H) (entries : List (Entry F))
    (rows : List (Nat × ContextCandidate F)) : Prop where
  indices : (rows.map Prod.fst).Sublist (entries.map Prod.snd)
  forms : ∀ row ∈ rows, ∃ entry ∈ entries, row.1 = entry.2
    ∧ FormOf sha256 entry.1 row.2

variable {entries : List (Entry F)} {rows : List (Nat × ContextCandidate F)}

/-- A candidate that is left out. -/
theorem RowsOf.skip (h : RowsOf sha256 entries rows) (entry : Entry F) :
    RowsOf sha256 (entry :: entries) rows where
  indices := h.indices.cons _
  forms row hrow := by
    obtain ⟨other, hother, hform⟩ := h.forms row hrow
    exact ⟨other, List.mem_cons_of_mem _ hother, hform⟩

/-- A candidate that is stored in one of its forms. -/
theorem RowsOf.cons (h : RowsOf sha256 entries rows) {entry : Entry F}
    {form : ContextCandidate F} (hform : FormOf sha256 entry.1 form) :
    RowsOf sha256 (entry :: entries) ((entry.2, form) :: rows) where
  indices := h.indices.cons_cons _
  forms := by
    rw [List.forall_mem_cons]
    exact ⟨⟨entry, List.mem_cons_self, rfl, hform⟩, (h.skip entry).forms⟩

/-- A row under a new index goes to the end. -/
theorem assign_fresh {entry : Entry F} (form : ContextCandidate F)
    (hnodup : (rows.map Prod.fst ++ (entry :: entries).map Prod.snd).Nodup) :
    Dict.assign Prod.fst rows (entry.2, form) = rows ++ [(entry.2, form)]
      ∧ ((rows ++ [(entry.2, form)]).map Prod.fst
        ++ entries.map Prod.snd).Nodup := by
  rw [List.map_cons] at hnodup
  constructor
  · refine Dict.assign_of_notMem fun hmem => ?_
    exact (List.nodup_append.mp hnodup).2.2 _ hmem _ List.mem_cons_self rfl
  · rw [List.map_append, List.append_assoc]
    exact hnodup

/-- The estimates of the rows. -/
def rowTokens (rows : List (Nat × ContextCandidate F)) : Nat :=
  (rows.map fun row => estimateTokens row.2.content).sum

theorem rowTokens_cons (index : Nat) (form : ContextCandidate F)
    (rows : List (Nat × ContextCandidate F)) :
    rowTokens ((index, form) :: rows)
      = estimateTokens form.content + rowTokens rows := rfl

/-- A run over entries with new indices: it stores rows at the end,
counts their estimates, and stays within the budget. -/
theorem foldl_buildStep (entries : List (Entry F)) (s : BuildState F H)
    (hnodup : (s.selectedByIndex.map Prod.fst
      ++ entries.map Prod.snd).Nodup)
    (hwithin : (s.used : Int) ≤ inputBudget) :
    ∃ rows, RowsOf sha256 entries rows
      ∧ (entries.foldl (buildStep sha256 policy inputBudget policyPruned)
          s).selectedByIndex = s.selectedByIndex ++ rows
      ∧ (entries.foldl (buildStep sha256 policy inputBudget policyPruned)
          s).used = s.used + rowTokens rows
      ∧ ((entries.foldl (buildStep sha256 policy inputBudget policyPruned)
          s).used : Int) ≤ inputBudget := by
  induction entries generalizing s with
  | nil =>
      exact ⟨[], ⟨.slnil, nofun⟩, (List.append_nil _).symm, rfl, hwithin⟩
  | cons entry entries ih =>
      rw [List.foldl_cons]
      rcases buildStep_cases s entry with hsame | ⟨form, hform, hrows, hused,
        hfits⟩
      · have hnodup' : (s.selectedByIndex.map Prod.fst
            ++ entries.map Prod.snd).Nodup :=
          hnodup.sublist ((List.sublist_cons_self ..).append_left _)
        rw [hsame]
        obtain ⟨rows, horigin, hrest⟩ := ih s hnodup' hwithin
        exact ⟨rows, horigin.skip entry, hrest⟩
      · obtain ⟨happend, hnodup'⟩ := assign_fresh form hnodup
        rw [happend] at hrows
        obtain ⟨rows, horigin, hselected, htotal, hrest⟩ := ih
          (buildStep sha256 policy inputBudget policyPruned s entry)
          (by rw [hrows]; exact hnodup') hfits
        refine ⟨(entry.2, form) :: rows, horigin.cons hform, ?_, ?_, hrest⟩
        · rw [hselected, hrows, List.append_assoc]
          rfl
        · rw [htotal, hused, rowTokens_cons, Nat.add_assoc]

/-- A candidate that fits is stored as it is. -/
theorem buildStep_select (s : BuildState F H) {entry : Entry F}
    (hpruned : entry.2 ∉ policyPruned)
    (hfits : ((s.used + estimateTokens entry.1.content : Nat) : Int)
      ≤ inputBudget) :
    buildStep sha256 policy inputBudget policyPruned s entry
      = s.select entry.2 entry.1 (estimateTokens entry.1.content) := by
  unfold buildStep
  simp only
  rw [if_neg hpruned, if_pos hfits]

/-- Entries that are not pruned and fit together are stored as they
are. -/
theorem foldl_buildStep_fitting (entries : List (Entry F))
    (s : BuildState F H)
    (hnodup : (s.selectedByIndex.map Prod.fst
      ++ entries.map Prod.snd).Nodup)
    (hpruned : ∀ entry ∈ entries, entry.2 ∉ policyPruned)
    (hfit : ((s.used + (entries.map fun entry =>
      estimateTokens entry.1.content).sum : Nat) : Int) ≤ inputBudget) :
    (entries.foldl (buildStep sha256 policy inputBudget policyPruned)
        s).selectedByIndex
      = s.selectedByIndex ++ entries.map Prod.swap
    ∧ (entries.foldl (buildStep sha256 policy inputBudget policyPruned)
        s).used = s.used + (entries.map fun entry =>
          estimateTokens entry.1.content).sum := by
  induction entries generalizing s with
  | nil => exact ⟨(List.append_nil _).symm, rfl⟩
  | cons entry entries ih =>
      obtain ⟨hentry, hpruned⟩ := List.forall_mem_cons.mp hpruned
      rw [List.map_cons, List.sum_cons] at hfit
      rw [List.foldl_cons, buildStep_select s hentry (by omega)]
      obtain ⟨happend, hnodup'⟩ := assign_fresh entry.1 hnodup
      have hrows : (s.select entry.2 entry.1
          (estimateTokens entry.1.content)).selectedByIndex
          = s.selectedByIndex ++ [(entry.2, entry.1)] := happend
      have hused : (s.select entry.2 entry.1
          (estimateTokens entry.1.content)).used
          = s.used + estimateTokens entry.1.content := rfl
      obtain ⟨hselected, htotal⟩ := ih
        (s.select entry.2 entry.1 (estimateTokens entry.1.content))
        (by rw [hrows]; exact hnodup') hpruned (by rw [hused]; omega)
      constructor
      · rw [hselected, hrows, List.append_assoc]
        rfl
      · rw [htotal, hused, List.map_cons, List.sum_cons]
        omega

end

-- =========================================================== the selection

variable {F H : Type} [ScoreFloat F] {sha256 : Text → H}
  {policy : ContextPolicy F} {candidates : List (ContextCandidate F)}

/-- A selection under a budget: `kept` tells in which form a candidate is
selected, by its index. -/
structure Selection (sha256 : Text → H)
    (allocation : ContextBudgetAllocation)
    (candidates : List (ContextCandidate F))
    (kept : Nat → Option (ContextCandidate F))
    (envelope : ContextEnvelope F H) : Prop where
  selected :
    envelope.selected = (List.range candidates.length).filterMap kept
  rejected : envelope.rejected
    = candidates.zipIdx.filterMap fun (candidate, index) =>
      if (kept index).isSome then none else some candidate
  protected_kept : ∀ index candidate, candidates[index]? = some candidate →
    candidate.isProtected = true → kept index = some candidate
  forms : ∀ index form, kept index = some form →
    ∃ candidate, candidates[index]? = some candidate
      ∧ FormOf sha256 candidate form
  token_after : envelope.tokenAfter
    = (envelope.selected.map fun form => estimateTokens form.content).sum
  within : (envelope.tokenAfter : Int) ≤ allocation.inputBudget

omit [ScoreFloat F] in
/-- The protected candidates with their indices. -/
theorem protectedTokens_eq :
    protectedTokens candidates
      = ((candidates.zipIdx.filter (·.1.isProtected)).map fun entry =>
        estimateTokens entry.1.content).sum := by
  unfold protectedTokens
  conv => lhs; rw [← List.zipIdx_map_fst 0 candidates]
  rw [List.filter_map, List.map_map]
  rfl

omit [ScoreFloat F] in
theorem rowTokens_append (rows others : List (Nat × ContextCandidate F)) :
    rowTokens (rows ++ others) = rowTokens rows + rowTokens others := by
  unfold rowTokens
  rw [List.map_append, List.sum_append]

/-- The rows the loop stores: the protected candidates, and forms of
others. -/
theorem buildLoop_rows {inputBudget : Int}
    (hfit : (protectedTokens candidates : Int) ≤ inputBudget) :
    ∃ rows, (buildLoop sha256 policy inputBudget candidates).selectedByIndex
        = (candidates.zipIdx.filter (·.1.isProtected)).map Prod.swap ++ rows
      ∧ (∀ row ∈ rows, ∃ entry ∈ candidates.zipIdx, row.1 = entry.2
        ∧ FormOf sha256 entry.1 row.2)
      ∧ ((buildLoop sha256 policy inputBudget candidates).selectedByIndex.map
        Prod.fst).Nodup
      ∧ (buildLoop sha256 policy inputBudget candidates).used = rowTokens
        (buildLoop sha256 policy inputBudget candidates).selectedByIndex
      ∧ ((buildLoop sha256 policy inputBudget candidates).used : Int)
        ≤ inputBudget := by
  obtain ⟨ranked, hordered, hranked, hnodup, hkept⟩ :=
    mmrOrder_indices candidates policy
  rw [protectedTokens_eq] at hfit
  -- The protected candidates come first and fit together.
  obtain ⟨hfirst, htotal⟩ := @foldl_buildStep_fitting F H sha256 policy
    inputBudget (mmrOrder candidates policy).2
    (candidates.zipIdx.filter (·.1.isProtected)) {} hnodup.of_append_left
    hkept (by simpa using hfit)
  have hfirst' : (((candidates.zipIdx.filter (·.1.isProtected)).foldl
      (buildStep sha256 policy inputBudget (mmrOrder candidates policy).2)
      {}).selectedByIndex).map Prod.fst
      = (candidates.zipIdx.filter (·.1.isProtected)).map Prod.snd := by
    rw [hfirst, List.nil_append, List.map_map]
    rfl
  -- Then the ranked ones, as far as there is room.
  obtain ⟨rows, horigin, hselected, hused, hwithin⟩ :=
    @foldl_buildStep F H sha256 policy inputBudget
      (mmrOrder candidates policy).2 ranked
      ((candidates.zipIdx.filter (·.1.isProtected)).foldl
        (buildStep sha256 policy inputBudget (mmrOrder candidates policy).2)
        {}) (by rw [hfirst']; exact hnodup)
      (by rw [htotal]; simpa using hfit)
  have hloop : buildLoop sha256 policy inputBudget candidates
      = ranked.foldl (buildStep sha256 policy inputBudget
        (mmrOrder candidates policy).2)
        ((candidates.zipIdx.filter (·.1.isProtected)).foldl
          (buildStep sha256 policy inputBudget
            (mmrOrder candidates policy).2) {}) := by
    rw [← List.foldl_append, ← hordered]
    rfl
  rw [hloop]
  refine ⟨rows, ?_, fun row hrow => ?_, ?_, ?_, hwithin⟩
  · rw [hselected, hfirst]
    rfl
  · obtain ⟨entry, hentry, h⟩ := horigin.forms row hrow
    exact ⟨entry, hranked entry hentry, h⟩
  · rw [hselected, List.map_append, hfirst']
    exact hnodup.sublist (horigin.indices.append_left _)
  · rw [hused, htotal, hselected, hfirst, rowTokens_append]
    unfold rowTokens
    rw [List.nil_append, List.map_map]
    simp only [Nat.zero_add]
    rfl

/-- The candidate of an index, in the form in which it is selected. -/
def keptForm (sha256 : Text → H) (policy : ContextPolicy F)
    (inputBudget : Int) (candidates : List (ContextCandidate F))
    (index : Nat) : Option (ContextCandidate F) :=
  (Table.lookup Prod.fst index (buildLoop sha256 policy inputBudget
    candidates).selectedByIndex).map Prod.snd

/-- Every stored row has a candidate. -/
theorem forms_of_rows {inputBudget : Int}
    (hfit : (protectedTokens candidates : Int) ≤ inputBudget)
    {row : Nat × ContextCandidate F}
    (hrow : row ∈ (buildLoop sha256 policy inputBudget
      candidates).selectedByIndex) :
    ∃ candidate, candidates[row.1]? = some candidate
      ∧ FormOf sha256 candidate row.2 := by
  obtain ⟨rows, hselected, hforms, -⟩ :=
    @buildLoop_rows F H _ sha256 policy candidates _ hfit
  rw [hselected] at hrow
  rcases List.mem_append.mp hrow with hrow | hrow
  · obtain ⟨entry, hentry, rfl⟩ := List.mem_map.mp hrow
    exact ⟨entry.1, List.mem_zipIdx_iff_getElem?.mp
      (List.mem_filter.mp hentry).1, .inl rfl⟩
  · obtain ⟨entry, hentry, hindex, hform⟩ := hforms row hrow
    exact ⟨entry.1, hindex ▸ List.mem_zipIdx_iff_getElem?.mp hentry, hform⟩

/-- If the protected candidates fit, they are all selected as they are,
every candidate is selected or rejected once, in order, and the total
that is reported is that of the selected forms and within the budget. -/
theorem build_within_budget (sha256 : Text → H) (policy : ContextPolicy F)
    {allocation : ContextBudgetAllocation} (manifestId : Nat)
    (hfit : (protectedTokens candidates : Int) ≤ allocation.inputBudget) :
    ∃ envelope kept,
      build sha256 policy allocation manifestId candidates = .ok envelope
      ∧ Selection sha256 allocation candidates kept envelope := by
  obtain ⟨rows, hselected, -, hnodup, hused, hwithin⟩ :=
    @buildLoop_rows F H _ sha256 policy candidates _ hfit
  refine ⟨_, keptForm sha256 policy allocation.inputBudget candidates,
    if_neg (not_lt.mpr hfit), ?_⟩
  constructor
  case selected => rfl
  case rejected =>
    refine List.filterMap_congr fun entry _ => ?_
    unfold keptForm
    simp only [Option.isSome_map]
  case protected_kept =>
    intro index candidate hcandidate hprotected
    have hrow : (index, candidate) ∈ (buildLoop sha256 policy
        allocation.inputBudget candidates).selectedByIndex := by
      rw [hselected]
      refine List.mem_append_left _ (List.mem_map.mpr
        ⟨(candidate, index), List.mem_filter.mpr ⟨?_, hprotected⟩, rfl⟩)
      exact List.mem_zipIdx_iff_getElem?.mpr hcandidate
    unfold keptForm
    rw [Table.lookup_of_mem hnodup hrow]
    rfl
  case forms =>
    intro index form hform
    obtain ⟨row, hlookup, rfl⟩ := Option.map_eq_some_iff.mp hform
    obtain ⟨hrow, rfl⟩ := Table.mem_of_lookup hlookup
    exact forms_of_rows hfit hrow
  case token_after =>
    have hindices : ∀ row ∈ (buildLoop sha256 policy allocation.inputBudget
        candidates).selectedByIndex,
        row.1 ∈ List.range candidates.length := by
      intro row hrow
      obtain ⟨candidate, hcandidate, -⟩ := forms_of_rows hfit hrow
      exact List.mem_range.mpr (List.getElem?_eq_some_iff.mp hcandidate).1
    have hperm := Dict.perm_filterMap_lookup List.nodup_range hnodup
      hindices
    show (buildLoop sha256 policy allocation.inputBudget candidates).used
      = (((List.range candidates.length).filterMap (keptForm sha256 policy
        allocation.inputBudget candidates)).map fun form =>
          estimateTokens form.content).sum
    have hkept : (List.range candidates.length).filterMap (keptForm sha256
        policy allocation.inputBudget candidates)
        = ((List.range candidates.length).filterMap fun index =>
          Table.lookup Prod.fst index (buildLoop sha256 policy
            allocation.inputBudget candidates).selectedByIndex).map
          Prod.snd := (List.map_filterMap ..).symm
    rw [hused, hkept, List.map_map]
    exact ((hperm.map _).sum_eq).symm
  case within => exact hwithin

/-- The candidates of a question, with a source that is too long as it
is and a memory that does not fit. -/
def deviceCandidates : List (ContextCandidate Int) :=
  [{ itemType := .sourceChunk
     content := ("The price of the device is ten in the first market. " ++
       "Nobody knows why it was raised by a third in the course of the " ++
       "year.").toList
     rankScore := 3 },
   { itemType := .taskBrief
     content := "The task.".toList
     rankScore := 0
     isProtected := true },
   { itemType := .sourceChunk
     content := "A source.".toList
     rankScore := 2 },
   { itemType := .memory
     content := "A memory that is too long to be kept.".toList
     rankScore := 1 }]

/-- The task is kept, the long source is compressed, the short one fits
and the memory is rejected. -/
theorem build_within_budget_sample :
    let allocation : ContextBudgetAllocation := ⟨1024, 30, 100, 512⟩
    let policy : ContextPolicy Int :=
      ⟨"default", 1, 1, fun _ => none, [.sourceChunk]⟩
    (protectedTokens deviceCandidates : Int) ≤ allocation.inputBudget
    ∧ ∃ envelope kept,
      build id policy allocation 0 deviceCandidates = .ok envelope
      ∧ Selection id allocation deviceCandidates kept envelope
      ∧ envelope.selected.map (·.content)
        = ["The price of the device is ten in the first market.".toList,
          "The task.".toList, "A source.".toList]
      ∧ envelope.rejected.map (·.content)
        = ["A memory that is too long to be kept.".toList]
      ∧ envelope.tokenAfter = 23 := by
  intro allocation policy
  have hfit : (protectedTokens deviceCandidates : Int)
      ≤ allocation.inputBudget := by decide +kernel
  have hcontents : ((build id policy allocation 0 deviceCandidates).map
      fun envelope => (envelope.selected.map (·.content),
        envelope.rejected.map (·.content), envelope.tokenAfter)).toOption
      = some (["The price of the device is ten in the first market.".toList,
          "The task.".toList, "A source.".toList],
        ["A memory that is too long to be kept.".toList], 23) := by
    decide +kernel
  obtain ⟨envelope, kept, hbuild, hselection⟩ :=
    build_within_budget id policy 0 hfit
  rw [hbuild] at hcontents
  have hparts := Prod.ext_iff.mp (Option.some.inj hcontents)
  obtain ⟨hrejected, htokens⟩ := Prod.ext_iff.mp hparts.2
  exact ⟨hfit, envelope, kept, hbuild, hselection, hparts.1, hrejected,
    htokens⟩

end DeepResearch.Context
