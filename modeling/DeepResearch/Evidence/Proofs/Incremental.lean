/-
When an incremental relation refresh leaves what a full one would.

The incremental refresh looks at the pairs with a touched claim, and
dismisses conflicts of the touched claims' best evidence as it is now. A
conflict whose evidence is no longer the best of its claim is out of
its sight, unless its other evidence still is the best of a touched
claim. So the two refreshes agree exactly when every conflict that loses
one side keeps its other side, as the best evidence of a touched claim
(`KeepsConflicts`).

Otherwise the old conflict stays open, and the untouched claim on its
other side may stay disputed. Edges and the statuses of touched claims
always agree.

Over runs: `recordPage` after `recordPage` agrees with one full refresh
of all rows, throughout, exactly when every batch keeps the conflicts of
the graph it meets (`incremental_refresh_eq_full_iff`).
-/
import DeepResearch.Evidence.Proofs.FullRefresh
import DeepResearch.Lib.Transition

namespace DeepResearch.Evidence

open QuestionGraph

-- ============================================================= statements

/-- The batch gives the claim another best evidence. -/
def Batch.Moves (b : Batch) {g : QuestionGraph} (h : b.Fresh g)
    (claimId : ClaimId) : Prop :=
  (g.insert b h).bestEvidence claimId ≠ g.bestEvidence claimId

instance (b : Batch) {g : QuestionGraph} (h : b.Fresh g) :
    DecidablePred (b.Moves h) :=
  fun _ => inferInstanceAs (Decidable (_ ≠ _))

section

variable
  (inferClaimRelation : String → String → Option ClaimRelationDecision)

/-- A conflict of the graph that loses one side to the batch keeps its
other side, which is a touched claim. -/
def Batch.KeepsConflicts (b : Batch) {g : QuestionGraph} (h : b.Fresh g) :
    Prop :=
  ∀ p ∈ g.allPairs none, (desiredConflict inferClaimRelation g p).isSome →
    (b.Moves h p.1.id → p.2.id ∈ b.touched ∧ ¬ b.Moves h p.2.id)
      ∧ (b.Moves h p.2.id → p.1.id ∈ b.touched ∧ ¬ b.Moves h p.1.id)

instance (b : Batch) {g : QuestionGraph} (h : b.Fresh g) :
    Decidable (b.KeepsConflicts inferClaimRelation h) :=
  inferInstanceAs (Decidable (∀ p ∈ _, _ → _))

/-- A question recorded page by page, and the same rows only inserted. -/
structure TwoGraphs where
  incremental : QuestionGraph
  inserted : QuestionGraph

/-- The runs of `record_page` on a graph that a full refresh left. -/
def recordSystem : Transition.System TwoGraphs Batch where
  init s := ∃ g : QuestionGraph,
    s.incremental = g.fullRefresh inferClaimRelation
    ∧ s.inserted = g.fullRefresh inferClaimRelation
  step s b :=
    { incremental := s.incremental.recordPage inferClaimRelation b
      inserted := s.inserted.tryInsert b }

/-- The graph says what one full refresh of the inserted rows says. -/
def TwoGraphs.AgreesWithFull (s : TwoGraphs) : Prop :=
  s.incremental.SameGraph (s.inserted.fullRefresh inferClaimRelation)

/-- The batch is refused or keeps the conflicts of the graph. -/
def TwoGraphs.KeepsConflicts (s : TwoGraphs) (b : Batch) : Prop :=
  ∀ h : b.Fresh s.incremental, b.KeepsConflicts inferClaimRelation h

instance (s : TwoGraphs) (b : Batch) :
    Decidable (s.KeepsConflicts inferClaimRelation b) :=
  inferInstanceAs (Decidable (∀ _ : b.Fresh s.incremental, _))

end

variable
  {inferClaimRelation : String → String → Option ClaimRelationDecision}
  {g : QuestionGraph} {b : Batch} (hfresh : b.Fresh g)

-- ========================================================= untouched claims

section

variable {a c : ClaimId} {e f : ResearchEvidenceRow}
  {edge : ResearchClaimEdgeRow} {conflict : ResearchConflictRow}

theorem looksAt_some (x : ClaimId) :
    looksAt (some b.touched) x = true ↔ x ∈ b.touched :=
  decide_eq_true_iff

/-- A text of an untouched claim is not new. -/
theorem mem_texts_of_untouched {s : String} (ha : a ∉ b.touched)
    (h : (a, s) ∈ (g.insert b hfresh).texts) : (a, s) ∈ g.texts := by
  rcases (mem_texts_insert hfresh).mp h with h | h
  · exact h
  · obtain ⟨d, hd, heq⟩ := List.mem_map.mp h
    injection heq with hid _
    have hmem : a ∈ b.touched :=
      List.mem_append_left _ (hid ▸ List.mem_map_of_mem hd)
    exact absurd hmem ha

/-- An untouched claim gets no evidence. -/
theorem acceptedFor_of_untouched (ha : a ∉ b.touched) :
    (g.insert b hfresh).acceptedFor a = g.acceptedFor a := by
  have hnew : b.evidence.filter
      (fun e => e.accepted && e.claimId == some a) = [] := by
    apply List.filter_eq_nil_iff.mpr
    intro e he htrue
    simp only [Bool.and_eq_true, beq_iff_eq] at htrue
    exact ha (List.mem_append_right _
      (List.mem_filterMap.mpr ⟨e, he, htrue.2⟩))
  unfold QuestionGraph.acceptedFor
  show (g.evidence ++ b.evidence).filter _ = _
  rw [List.filter_append, hnew, List.append_nil]

/-- A claim with another best evidence is touched. -/
theorem touched_of_moves (h : b.Moves hfresh a) : a ∈ b.touched := by
  by_contra ha
  exact h (bestEvidence_congr (acceptedFor_of_untouched hfresh ha))

/-- A pair without a touched claim was there before the batch. -/
theorem AsksEdge.of_untouched (ha : a ∉ b.touched) (hc : c ∉ b.touched)
    (h : AsksEdge inferClaimRelation (g.insert b hfresh) a c edge) :
    AsksEdge inferClaimRelation g a c edge := by
  obtain ⟨hlt, s, t, decision, hs, ht, hdecision, hedge⟩ := h
  exact ⟨hlt, s, t, decision, mem_texts_of_untouched hfresh ha hs,
    mem_texts_of_untouched hfresh hc ht, hdecision, hedge⟩

/-- Two untouched claims ask for what they asked for. -/
theorem AsksConflict.of_untouched (ha : a ∉ b.touched) (hc : c ∉ b.touched)
    (h : AsksConflict inferClaimRelation (g.insert b hfresh) a c e f
      conflict) : AsksConflict inferClaimRelation g a c e f conflict := by
  obtain ⟨hlt, s, t, decision, hs, ht, hdecision, hrel, he, hf, hrest⟩ := h
  rw [bestEvidence_congr (acceptedFor_of_untouched hfresh ha)] at he
  rw [bestEvidence_congr (acceptedFor_of_untouched hfresh hc)] at hf
  exact ⟨hlt, s, t, decision, mem_texts_of_untouched hfresh ha hs,
    mem_texts_of_untouched hfresh hc ht, hdecision, hrel, he, hf, hrest⟩

/-- A conflict that keeps both sides is asked for again. -/
theorem AsksConflict.of_kept (ha : ¬ b.Moves hfresh a)
    (hc : ¬ b.Moves hfresh c)
    (h : AsksConflict inferClaimRelation g a c e f conflict) :
    AsksConflict inferClaimRelation (g.insert b hfresh) a c e f
      conflict := by
  obtain ⟨hlt, s, t, decision, hs, ht, hdecision, hrel, he, hf, hrest⟩ := h
  exact ⟨hlt, s, t, decision, (mem_texts_insert hfresh).mpr (.inl hs),
    (mem_texts_insert hfresh).mpr (.inl ht), hdecision, hrel,
    (not_not.mp ha).trans he, (not_not.mp hc).trans hf, hrest⟩

-- ======================================================= the kept evidence

/-- The best evidence of a claim of the grown graph that has the id of an
old row is that row, and the claim is the row's. -/
theorem bestEvidence_of_id {x : ClaimId} {y : ResearchEvidenceRow}
    (hy : (g.insert b hfresh).bestEvidence x = some y)
    (he : g.bestEvidence a = some e) (hid : y.id = e.id) :
    x = a ∧ y = e := by
  obtain ⟨hmem, hclaim⟩ := bestEvidence_mem hy
  obtain ⟨hmem', hclaim'⟩ := bestEvidence_mem he
  have heq : y = e := List.inj_on_of_nodup_map
    (g.insert b hfresh).evidence_nodup hmem (List.mem_append_left _ hmem') hid
  rw [heq, hclaim'] at hclaim
  exact ⟨(Option.some.inj hclaim).symm, heq⟩

/-- A conflict of the graph is asked for again only with the same sides,
none of which has moved. -/
theorem AsksConflict.kept_of_key {a' c' : ClaimId}
    {e' f' : ResearchEvidenceRow} {conflict' : ResearchConflictRow}
    (h : AsksConflict inferClaimRelation g a c e f conflict)
    (h' : AsksConflict inferClaimRelation (g.insert b hfresh) a' c' e' f'
      conflict') (hkey : conflict'.key = conflict.key) :
    ¬ b.Moves hfresh a ∧ ¬ b.Moves hfresh c := by
  obtain ⟨hlt, _, _, _, -, -, -, -, he, hf, -, hconflict⟩ := id h
  obtain ⟨hlt', _, _, _, -, -, -, -, he', hf', -, hconflict'⟩ := id h'
  rw [hconflict, hconflict'] at hkey
  rcases conflictRow_key.mp hkey with ⟨h₁, h₂⟩ | ⟨h₁, h₂⟩
  · obtain ⟨rfl, rfl⟩ := bestEvidence_of_id hfresh he' he h₁
    obtain ⟨rfl, rfl⟩ := bestEvidence_of_id hfresh hf' hf h₂
    exact ⟨not_not.mpr (he'.trans he.symm), not_not.mpr (hf'.trans hf.symm)⟩
  · -- The sides cannot be exchanged: the pairs are ordered.
    obtain ⟨rfl, -⟩ := bestEvidence_of_id hfresh he' hf h₁
    obtain ⟨rfl, -⟩ := bestEvidence_of_id hfresh hf' he h₂
    exact absurd hlt' (lt_asymm hlt)

/-- The selection of the incremental refresh: a conflict one side of
which is the best evidence of a touched claim. -/
theorem selectsConflict_iff {k : EvidencePair} :
    g.selectsConflict (some b.touched) k = true
      ↔ ∃ x ∈ b.touched, ∃ y, g.bestEvidence x = some y
        ∧ (y.id = k.leftEvidenceId ∨ y.id = k.rightEvidenceId) := by
  have hmem : ∀ i, i ∈ g.touchedEvidenceIds b.touched
      ↔ ∃ x ∈ b.touched, ∃ y, g.bestEvidence x = some y ∧ y.id = i := by
    intro i
    unfold QuestionGraph.touchedEvidenceIds
    rw [List.mem_filterMap]
    simp only [Option.map_eq_some_iff]
  show (decide _ || decide _) = true ↔ _
  rw [Bool.or_eq_true, decide_eq_true_iff, decide_eq_true_iff, hmem, hmem]
  constructor
  · rintro (⟨x, hx, y, hy, hid⟩ | ⟨x, hx, y, hy, hid⟩)
    · exact ⟨x, hx, y, hy, .inl hid⟩
    · exact ⟨x, hx, y, hy, .inr hid⟩
  · rintro ⟨x, hx, y, hy, hid | hid⟩
    · exact .inl ⟨x, hx, y, hy, hid⟩
    · exact .inr ⟨x, hx, y, hy, hid⟩

/-- A conflict of the graph is in sight exactly when one of its sides is
still the best evidence of a touched claim. -/
theorem AsksConflict.selected_iff
    (h : AsksConflict inferClaimRelation g a c e f conflict) :
    (g.insert b hfresh).selectsConflict (some b.touched) conflict.key = true
      ↔ a ∈ b.touched ∧ ¬ b.Moves hfresh a
        ∨ c ∈ b.touched ∧ ¬ b.Moves hfresh c := by
  obtain ⟨-, -, -, -, -, -, -, -, he, hf, -, -⟩ := id h
  rw [selectsConflict_iff]
  constructor
  · rintro ⟨x, hx, y, hy, hid⟩
    have hside : y.id = e.id ∨ y.id = f.id := by
      rcases h.key with ⟨hl, hr⟩ | ⟨hl, hr⟩
      · rwa [hl, hr] at hid
      · rw [hl, hr] at hid
        exact hid.symm
    rcases hside with hid | hid
    · obtain ⟨rfl, rfl⟩ := bestEvidence_of_id hfresh hy he hid
      exact .inl ⟨hx, not_not.mpr (hy.trans he.symm)⟩
    · obtain ⟨rfl, rfl⟩ := bestEvidence_of_id hfresh hy hf hid
      exact .inr ⟨hx, not_not.mpr (hy.trans hf.symm)⟩
  · rintro (⟨hx, hkept⟩ | ⟨hx, hkept⟩)
    · refine ⟨a, hx, e, (not_not.mp hkept).trans he, ?_⟩
      rcases h.key with ⟨hl, hr⟩ | ⟨hl, hr⟩
      · exact .inl hl.symm
      · exact .inr hr.symm
    · refine ⟨c, hx, f, (not_not.mp hkept).trans hf, ?_⟩
      rcases h.key with ⟨hl, hr⟩ | ⟨hl, hr⟩
      · exact .inr hr.symm
      · exact .inl hl.symm

/-- The condition, on what the claims ask for. -/
theorem keepsConflicts_iff :
    b.KeepsConflicts inferClaimRelation hfresh
      ↔ ∀ a c e f conflict,
        AsksConflict inferClaimRelation g a c e f conflict →
        (b.Moves hfresh a → c ∈ b.touched ∧ ¬ b.Moves hfresh c)
          ∧ (b.Moves hfresh c → a ∈ b.touched ∧ ¬ b.Moves hfresh a) := by
  constructor
  · intro hkeep a c e f conflict hasks
    obtain ⟨hlt, s, t, -, hs, ht, -⟩ := id hasks
    obtain ⟨p, hp, rfl, rfl⟩ := exists_pair hlt hs ht
    apply hkeep p hp
    rw [(desiredConflict_iff hp).mpr ⟨e, f, hasks⟩]
    rfl
  · intro hkeep p hp hsome
    obtain ⟨conflict, hconflict⟩ := Option.isSome_iff_exists.mp hsome
    obtain ⟨e, f, hasks⟩ := (desiredConflict_iff hp).mp hconflict
    exact hkeep _ _ e f conflict hasks

end

-- ================================================================ one batch

/-- A graph that a full refresh leaves as it is. -/
def QuestionGraph.Settled
    (inferClaimRelation : String → String → Option ClaimRelationDecision)
    (g : QuestionGraph) : Prop :=
  (g.fullRefresh inferClaimRelation).SameGraph g

/-- Under the condition an untouched claim is disputed after the batch
exactly when it was before, unless the incremental refresh sees it. -/
theorem isDisputed_of_untouched
    (hkeep : b.KeepsConflicts inferClaimRelation hfresh) {x : ClaimId}
    (hx : x ∉ b.touched)
    (hunseen : ¬ IsDisputed inferClaimRelation (some b.touched)
      (g.insert b hfresh) x) :
    IsDisputed inferClaimRelation none g x
      ↔ IsDisputed inferClaimRelation none (g.insert b hfresh) x := by
  have hquiet : ∀ {a c e f conflict},
      AsksConflict inferClaimRelation (g.insert b hfresh) a c e f conflict →
      x = a ∨ x = c → a ∉ b.touched ∧ c ∉ b.touched := by
    intro a c e f conflict hasks hmem
    rw [← not_or]
    intro hlooks
    rw [← looksAt_some, ← looksAt_some, ← Bool.or_eq_true] at hlooks
    exact hunseen (isDisputed_iff.mpr ⟨a, c, e, f, conflict, hasks, hlooks,
      hmem⟩)
  rw [isDisputed_iff, isDisputed_iff]
  constructor
  · rintro ⟨a, c, e, f, conflict, hasks, -, hmem⟩
    obtain ⟨hleft, hright⟩ :=
      (keepsConflicts_iff hfresh).mp hkeep a c e f conflict hasks
    -- The other side has not moved: it would need the untouched one.
    have hkept : ¬ b.Moves hfresh a ∧ ¬ b.Moves hfresh c := by
      have hstill := fun h => hx (touched_of_moves hfresh h)
      rcases hmem with rfl | rfl
      · exact ⟨hstill, fun hc => hx (hright hc).1⟩
      · exact ⟨fun ha => hx (hleft ha).1, hstill⟩
    exact ⟨a, c, e, f, conflict, hasks.of_kept hfresh hkept.1 hkept.2, rfl,
      hmem⟩
  · rintro ⟨a, c, e, f, conflict, hasks, -, hmem⟩
    obtain ⟨ha, hc⟩ := hquiet hasks hmem
    exact ⟨a, c, e, f, conflict, hasks.of_untouched hfresh ha hc, rfl, hmem⟩

section

variable (hsettled : g.Settled inferClaimRelation)
include hsettled

/-- The edges of a settled graph are the desired ones. -/
theorem Settled.edgeAt (k : EdgeKey) :
    g.edgeAt k = (g.desiredEdgeAt inferClaimRelation none k).map
      fun e => (g.edgeAt k).getD e :=
  (hsettled.edges k).symm.trans (edgeAt_fullRefresh g k)

/-- So are its open conflicts. -/
theorem Settled.openConflict (k : EvidencePair) :
    g.openConflict k = g.desiredConflictAt inferClaimRelation none k :=
  (hsettled.conflicts k).symm.trans (openConflict_fullRefresh g k)

/-- And its statuses are those of a full refresh. -/
theorem Settled.status {d : ResearchClaimRow} (hd : d ∈ g.claims) :
    d.status = g.fullStatus inferClaimRelation d.id := by
  rw [← hsettled.claims, claims_fullRefresh] at hd
  obtain ⟨p, -, rfl⟩ := List.mem_map.mp hd
  rfl

/-- The edges always agree. -/
theorem incremental_edgeAt (k : EdgeKey) :
    ((g.insert b hfresh).incrementalRefresh inferClaimRelation b).edgeAt k
      = ((g.insert b hfresh).fullRefresh inferClaimRelation).edgeAt k := by
  rw [edgeAt_fullRefresh]
  refine (edgeAt_refresh (some b.touched) (g.insert b hfresh) k).trans ?_
  show Option.elim _ (if _ then none else g.edgeAt k)
    (fun e => some ((g.edgeAt k).getD e))
    = Option.map (fun e => (g.edgeAt k).getD e) _
  -- Before the batch the edges were those of a full refresh.
  have hbefore := Settled.edgeAt hsettled k
  have hselects : ∀ a c, k.fromClaimId = a → k.toClaimId = c →
      ((g.insert b hfresh).selectsEdge (some b.touched) k = true
        ↔ a ∈ b.touched ∨ c ∈ b.touched) := by
    rintro a c rfl rfl
    unfold QuestionGraph.selectsEdge
    rw [Option.getD_some, Bool.or_eq_true, decide_eq_true_iff,
      decide_eq_true_iff]
  cases htouched : (g.insert b hfresh).desiredEdgeAt inferClaimRelation
      (some b.touched) k with
  | some e =>
      obtain ⟨a, c, hasks, hkey, -⟩ := desiredEdgeAt_iff.mp htouched
      rw [desiredEdgeAt_iff.mpr ⟨a, c, hasks, hkey, rfl⟩]
      rfl
  | none =>
      rw [Option.elim_none]
      cases hafter : (g.insert b hfresh).desiredEdgeAt inferClaimRelation
          none k with
      | some e =>
          obtain ⟨a, c, hasks, hkey, -⟩ := desiredEdgeAt_iff.mp hafter
          -- The edge is desired, but neither claim is touched.
          have hquiet : ¬ (a ∈ b.touched ∨ c ∈ b.touched) := by
            intro hlooks
            rw [← looksAt_some, ← looksAt_some, ← Bool.or_eq_true] at hlooks
            rw [desiredEdgeAt_iff.mpr ⟨a, c, hasks, hkey, hlooks⟩] at htouched
            cases htouched
          obtain ⟨ha, hc⟩ := not_or.mp hquiet
          have hold := hasks.of_untouched hfresh ha hc
          rw [desiredEdgeAt_iff.mpr ⟨a, c, hold, hkey, rfl⟩] at hbefore
          subst hkey
          rw [if_neg fun h => hquiet
            ((hselects a c hasks.key.1 hasks.key.2).mp h)]
          exact hbefore
      | none =>
          rw [Option.map_none]
          by_cases hselected : (g.insert b hfresh).selectsEdge
              (some b.touched) k = true
          · rw [if_pos hselected]
          · rw [if_neg hselected]
            cases hold : g.desiredEdgeAt inferClaimRelation none k with
            | none =>
                rw [hold] at hbefore
                exact hbefore
            | some e =>
                obtain ⟨a, c, hasks, hkey, -⟩ := desiredEdgeAt_iff.mp hold
                -- What an old pair asks for, it asks for after the batch
                -- too.
                have hnew := hasks.insert hfresh
                rw [desiredEdgeAt_iff.mpr ⟨a, c, hnew, hkey, rfl⟩] at hafter
                cases hafter

/-- What the incremental refresh leaves open. -/
theorem incremental_openConflict (k : EvidencePair) :
    ((g.insert b hfresh).incrementalRefresh inferClaimRelation
        b).openConflict k
      = ((g.insert b hfresh).desiredConflictAt inferClaimRelation
          (some b.touched) k).elim
        (if (g.insert b hfresh).selectsConflict (some b.touched) k then none
          else g.desiredConflictAt inferClaimRelation none k) some := by
  rw [← Settled.openConflict hsettled]
  exact openConflict_refresh (some b.touched) (g.insert b hfresh) k

/-- Under the condition the open conflicts agree. -/
theorem incremental_conflicts
    (hkeep : b.KeepsConflicts inferClaimRelation hfresh)
    (k : EvidencePair) :
    ((g.insert b hfresh).incrementalRefresh inferClaimRelation
        b).openConflict k
      = ((g.insert b hfresh).fullRefresh inferClaimRelation).openConflict
        k := by
  rw [incremental_openConflict hfresh hsettled, openConflict_fullRefresh]
  cases htouched : (g.insert b hfresh).desiredConflictAt inferClaimRelation
      (some b.touched) k with
  | some conflict =>
      obtain ⟨a, c, e, f, hasks, hkey, -⟩ := desiredConflictAt_iff.mp htouched
      rw [desiredConflictAt_iff.mpr ⟨a, c, e, f, hasks, hkey, rfl⟩]
      rfl
  | none =>
      rw [Option.elim_none]
      cases hafter : (g.insert b hfresh).desiredConflictAt inferClaimRelation
          none k with
      | some conflict =>
          -- A conflict of two untouched claims, which was there before.
          obtain ⟨a, c, e, f, hasks, hkey, -⟩ :=
            desiredConflictAt_iff.mp hafter
          have hquiet : ¬ (a ∈ b.touched ∨ c ∈ b.touched) := by
            intro hlooks
            rw [← looksAt_some, ← looksAt_some, ← Bool.or_eq_true] at hlooks
            rw [desiredConflictAt_iff.mpr
              ⟨a, c, e, f, hasks, hkey, hlooks⟩] at htouched
            cases htouched
          obtain ⟨ha, hc⟩ := not_or.mp hquiet
          have hold := hasks.of_untouched hfresh ha hc
          have hunselected : ¬ (g.insert b hfresh).selectsConflict
              (some b.touched) k = true := by
            rw [← hkey, hold.selected_iff hfresh]
            rintro (⟨h, -⟩ | ⟨h, -⟩)
            · exact ha h
            · exact hc h
          rw [if_neg hunselected]
          exact desiredConflictAt_iff.mpr ⟨a, c, e, f, hold, hkey, rfl⟩
      | none =>
          cases hold : g.desiredConflictAt inferClaimRelation none k with
          | none => exact ite_self none
          | some conflict =>
              -- A conflict that is gone: one side has moved, and the other
              -- one brings it into sight.
              obtain ⟨a, c, e, f, hasks, hkey, -⟩ :=
                desiredConflictAt_iff.mp hold
              obtain ⟨hleft, hright⟩ :=
                (keepsConflicts_iff hfresh).mp hkeep a c e f conflict hasks
              have hmoved : b.Moves hfresh a ∨ b.Moves hfresh c := by
                by_contra hkept
                obtain ⟨ha, hc⟩ := not_or.mp hkept
                rw [desiredConflictAt_iff.mpr ⟨a, c, e, f,
                  hasks.of_kept hfresh ha hc, hkey, rfl⟩] at hafter
                cases hafter
              have hselected : (g.insert b hfresh).selectsConflict
                  (some b.touched) k = true := by
                rw [← hkey, hasks.selected_iff hfresh]
                rcases hmoved with ha | hc
                · exact .inr (hleft ha)
                · exact .inl (hright hc)
              rw [if_pos hselected]

/-- Where the open conflicts agree, the condition holds. -/
theorem keepsConflicts_of_conflicts
    (hsame : ∀ k, ((g.insert b hfresh).incrementalRefresh inferClaimRelation
        b).openConflict k
      = ((g.insert b hfresh).fullRefresh inferClaimRelation).openConflict
        k) :
    b.KeepsConflicts inferClaimRelation hfresh := by
  rw [keepsConflicts_iff]
  intro a c e f conflict hasks
  have hin : b.Moves hfresh a ∨ b.Moves hfresh c →
      (g.insert b hfresh).selectsConflict (some b.touched) conflict.key
        = true := by
    intro hmoved
    -- The conflict is asked for no more, so it has to be in sight.
    have hgone : ∀ touched, (g.insert b hfresh).desiredConflictAt
        inferClaimRelation touched conflict.key = none := by
      intro touched
      rw [Option.eq_none_iff_forall_ne_some]
      intro conflict' hconflict'
      obtain ⟨a', c', e', f', hasks', hkey', -⟩ :=
        desiredConflictAt_iff.mp hconflict'
      obtain ⟨ha, hc⟩ := hasks.kept_of_key hfresh hasks' hkey'
      exact hmoved.elim ha hc
    have hk := hsame conflict.key
    rw [incremental_openConflict hfresh hsettled, openConflict_fullRefresh,
      hgone, hgone, Option.elim_none,
      desiredConflictAt_iff.mpr ⟨a, c, e, f, hasks, rfl, rfl⟩] at hk
    by_contra hunselected
    rw [if_neg hunselected] at hk
    cases hk
  refine ⟨fun ha => ?_, fun hc => ?_⟩
  · rcases (hasks.selected_iff hfresh).mp (hin (.inl ha)) with h | h
    · exact absurd ha h.2
    · exact h
  · rcases (hasks.selected_iff hfresh).mp (hin (.inr hc)) with h | h
    · exact h
    · exact absurd hc h.2

/-- Under the condition the claims get the same statuses. -/
theorem incremental_claims
    (hkeep : b.KeepsConflicts inferClaimRelation hfresh) :
    ((g.insert b hfresh).incrementalRefresh inferClaimRelation b).claims
      = ((g.insert b hfresh).fullRefresh inferClaimRelation).claims := by
  refine List.map_congr_left fun d hd => ?_
  have hall : looksAt none d.id ∨ d.id ∈ (examinePairs inferClaimRelation
      none true (g.insert b hfresh)).disputedClaimIds := .inl rfl
  dsimp only
  rw [if_pos hall]
  by_cases htouched : d.id ∈ b.touched
  · -- Every pair of a touched claim is examined.
    rw [if_pos (.inl ((looksAt_some d.id).mpr htouched))]
    rw [expectedStatus_congr rfl]
    rw [mem_disputedClaimIds, mem_disputedClaimIds, isDisputed_iff,
      isDisputed_iff]
    constructor
    · rintro ⟨a, c, e, f, conflict, hasks, -, hmem⟩
      exact ⟨a, c, e, f, conflict, hasks, rfl, hmem⟩
    · rintro ⟨a, c, e, f, conflict, hasks, -, hmem⟩
      refine ⟨a, c, e, f, conflict, hasks, ?_, hmem⟩
      rw [Bool.or_eq_true, looksAt_some, looksAt_some]
      rcases hmem with heq | heq
      · exact .inl (heq ▸ htouched)
      · exact .inr (heq ▸ htouched)
  · by_cases hseen : IsDisputed inferClaimRelation (some b.touched)
        (g.insert b hfresh) d.id
    · have hseen' := (mem_disputedClaimIds (some b.touched) _ _).mpr hseen
      rw [if_pos (.inr hseen')]
      rw [expectedStatus_congr rfl]
      refine iff_of_true hseen' ?_
      rw [mem_disputedClaimIds]
      obtain ⟨a, c, e, f, conflict, hasks, -, hmem⟩ := isDisputed_iff.mp hseen
      exact isDisputed_iff.mpr ⟨a, c, e, f, conflict, hasks, rfl, hmem⟩
    · have hskipped : ¬ (looksAt (some b.touched) d.id = true
          ∨ d.id ∈ (examinePairs inferClaimRelation (some b.touched) true
            (g.insert b hfresh)).disputedClaimIds) := by
        rw [looksAt_some, mem_disputedClaimIds]
        exact not_or.mpr ⟨htouched, hseen⟩
      rw [if_neg hskipped]
      have hold : d ∈ g.claims := by
        rcases List.mem_append.mp hd with h | h
        · exact h
        · exact absurd (List.mem_append_left _ (List.mem_map_of_mem h))
            htouched
      rw [Settled.status hsettled hold]
      unfold QuestionGraph.fullStatus
      rw [expectedStatus_congr
        (acceptedFor_of_untouched hfresh htouched).symm]
      rw [mem_disputedClaimIds, mem_disputedClaimIds]
      exact isDisputed_of_untouched hfresh hkeep htouched hseen

/-- One batch on a settled graph. -/
theorem incremental_sameGraph_iff :
    ((g.insert b hfresh).incrementalRefresh inferClaimRelation b).SameGraph
        ((g.insert b hfresh).fullRefresh inferClaimRelation)
      ↔ b.KeepsConflicts inferClaimRelation hfresh := by
  constructor
  · intro hsame
    exact keepsConflicts_of_conflicts hfresh hsettled hsame.conflicts
  · intro hkeep
    exact {
      claims := incremental_claims hfresh hsettled hkeep
      evidence := rfl
      edges := incremental_edgeAt hfresh hsettled
      conflicts := incremental_conflicts hfresh hsettled hkeep }

end

-- ================================================================== runs

/-- The same batch keeps two graphs the same. -/
theorem QuestionGraph.SameGraph.insert {h : QuestionGraph}
    (hsame : g.SameGraph h) (hg : b.Fresh g) (hh : b.Fresh h) :
    (g.insert b hg).SameGraph (h.insert b hh) where
  claims := by
    show g.claims ++ b.claims = h.claims ++ b.claims
    rw [hsame.claims]
  evidence := by
    show g.evidence ++ b.evidence = h.evidence ++ b.evidence
    rw [hsame.evidence]
  edges := hsame.edges
  conflicts := hsame.conflicts

/-- One step of a run keeps the agreement exactly when its batch keeps
the conflicts. -/
theorem agreesWithFull_step_iff {s : TwoGraphs}
    (hagrees : s.AgreesWithFull inferClaimRelation) (b : Batch) :
    ((recordSystem inferClaimRelation).step s b).AgreesWithFull
        inferClaimRelation
      ↔ s.KeepsConflicts inferClaimRelation b := by
  have hrows : s.incremental.SameRows s.inserted :=
    hagrees.rows.trans (fullRefresh_sameRows s.inserted)
  have hsettled : s.incremental.Settled inferClaimRelation :=
    (hagrees.fullRefresh.trans (fullRefresh_idem s.inserted)).trans
      hagrees.symm
  show (s.incremental.recordPage inferClaimRelation b).SameGraph
    ((s.inserted.tryInsert b).fullRefresh inferClaimRelation) ↔ _
  unfold QuestionGraph.recordPage QuestionGraph.tryInsert
  by_cases hfresh : b.Fresh s.incremental
  · have hfresh' : b.Fresh s.inserted := hrows.fresh hfresh
    rw [dif_pos hfresh, dif_pos hfresh']
    -- Inserting into either graph gives the same full refresh.
    have hfull : ((s.inserted.insert b hfresh').fullRefresh
        inferClaimRelation).SameGraph
        ((s.incremental.insert b hfresh).fullRefresh
          inferClaimRelation) := by
      have hfresh'' : b.Fresh (s.inserted.fullRefresh inferClaimRelation) :=
        hagrees.rows.fresh hfresh
      have hbetween := hagrees.symm.insert hfresh'' hfresh
      exact (fullRefresh_insert hfresh' hfresh'').symm.trans
        hbetween.fullRefresh
    have hone := incremental_sameGraph_iff hfresh hsettled
    constructor
    · intro hsame _
      exact hone.mp (hsame.trans hfull)
    · intro hkeep
      exact (hone.mpr (hkeep hfresh)).trans hfull.symm
  · rw [dif_neg hfresh, dif_neg fun h => hfresh (hrows.symm.fresh h)]
    exact iff_of_true hagrees fun h => absurd h hfresh

/-- The incremental refresh of a batch leaves what a full refresh would,
on a graph that a full refresh left, exactly when the batch keeps the
conflicts of the graph. And a run of incremental refreshes agrees
throughout with one full refresh of all the rows exactly when every
batch of it does. -/
theorem incremental_refresh_eq_full_iff
    (inferClaimRelation : String → String → Option ClaimRelationDecision) :
    (∀ (g : QuestionGraph) (b : Batch)
        (h : b.Fresh (g.fullRefresh inferClaimRelation)),
      (((g.fullRefresh inferClaimRelation).insert b h).incrementalRefresh
          inferClaimRelation b).SameGraph
          (((g.fullRefresh inferClaimRelation).insert b h).fullRefresh
            inferClaimRelation)
        ↔ b.KeepsConflicts inferClaimRelation h)
      ∧ ∀ s bs, (recordSystem inferClaimRelation).init s →
        ((recordSystem inferClaimRelation).Throughout
            (TwoGraphs.AgreesWithFull inferClaimRelation) s bs
          ↔ (recordSystem inferClaimRelation).Along
            (TwoGraphs.KeepsConflicts inferClaimRelation) s bs) := by
  constructor
  · intro g b h
    exact incremental_sameGraph_iff h (fullRefresh_idem g)
  · rintro s bs ⟨g, hincremental, hinserted⟩
    have hstart : s.AgreesWithFull inferClaimRelation := by
      unfold TwoGraphs.AgreesWithFull
      rw [hincremental, hinserted]
      exact (fullRefresh_idem g).symm
    refine Transition.throughout_iff_along (fun _ h => h) ?_ ?_ hstart bs
    · intro t b hagrees hkeep
      exact (agreesWithFull_step_iff hagrees b).mpr hkeep
    · intro t b hagrees hbreak hsame
      exact hbreak ((agreesWithFull_step_iff hagrees b).mp hsame)

-- ================================================================= a sample

/-- Claims with different texts contradict each other. -/
def sampleRelation (left right : String) : Option ClaimRelationDecision :=
  if left = right then none
  else some
    { relation := .contradicts
      confidence := 9 / 10
      severity := 1 / 2
      reasonCode := "same_scope_numeric_difference" }

/-- Two claims that contradict each other, each with the evidence of one
owner. -/
def sampleGraph : QuestionGraph where
  claims :=
    [{ id := 1, atomicClaim := "2025年工业机器视觉市场规模为120亿美元。" },
      { id := 2, atomicClaim := "2025年工业机器视觉市场规模为180亿美元。" }]
  evidence :=
    [{ id := 11, claimId := some 1, evidenceScore := 1 / 2, createdAt := 0
       sourceOwnerKey := "owner-a" },
      { id := 12, claimId := some 2, evidenceScore := 1 / 2, createdAt := 0
        sourceOwnerKey := "owner-b" }]
  edges := []
  conflicts := []
  claims_nodup := by decide
  evidence_nodup := by decide
  evidence_claims := by decide
  edge_claims := by decide

/-- Weaker evidence of a third owner for the first claim. -/
def weakerBatch : Batch where
  claims := []
  evidence :=
    [{ id := 13, claimId := some 1, evidenceScore := 1 / 4, createdAt := 1
       sourceOwnerKey := "owner-c" }]

/-- Stronger evidence for the first claim, of the owner that supports the
second one. -/
def strongerBatch : Batch where
  claims := []
  evidence :=
    [{ id := 13, claimId := some 1, evidenceScore := 3 / 4, createdAt := 1
       sourceOwnerKey := "owner-b" }]

theorem weakerBatch_fresh :
    weakerBatch.Fresh (sampleGraph.fullRefresh sampleRelation) := by
  decide

theorem incremental_refresh_eq_full_iff_sample :
    (((sampleGraph.fullRefresh sampleRelation).insert weakerBatch
        weakerBatch_fresh).incrementalRefresh sampleRelation
        weakerBatch).SameGraph
      (((sampleGraph.fullRefresh sampleRelation).insert weakerBatch
        weakerBatch_fresh).fullRefresh sampleRelation)
      ∧ (recordSystem sampleRelation).Throughout
        (TwoGraphs.AgreesWithFull sampleRelation)
        ⟨sampleGraph.fullRefresh sampleRelation,
          sampleGraph.fullRefresh sampleRelation⟩ [weakerBatch] := by
  obtain ⟨hone, hruns⟩ := incremental_refresh_eq_full_iff sampleRelation
  have hkeep : weakerBatch.KeepsConflicts sampleRelation
      weakerBatch_fresh := by decide +kernel
  refine ⟨(hone sampleGraph weakerBatch weakerBatch_fresh).mpr hkeep,
    (hruns _ _ ⟨sampleGraph, rfl, rfl⟩).mpr ⟨?_, trivial⟩⟩
  exact fun _ => hkeep

/-- The stronger evidence takes the first claim's side of the conflict
away, and the untouched second claim does not show it: the old conflict
stays open and the second claim disputed, where a full refresh dismisses
the one and clears the other. -/
theorem moved_evidence_leaves_stale_conflict :
    ∃ h : strongerBatch.Fresh (sampleGraph.fullRefresh sampleRelation),
      let g := (sampleGraph.fullRefresh sampleRelation).insert strongerBatch h
      let incremental := g.incrementalRefresh sampleRelation strongerBatch
      let full := g.fullRefresh sampleRelation
      (incremental.openConflict ⟨11, 12⟩).isSome = true
        ∧ full.openConflict ⟨11, 12⟩ = none
        ∧ incremental.claims.map (·.status) = [.supported, .disputed]
        ∧ full.claims.map (·.status) = [.supported, .partly]
        ∧ ¬ incremental.SameGraph full := by
  refine ⟨by decide, ?_⟩
  dsimp only
  refine ⟨by decide +kernel, by decide +kernel, by decide +kernel,
    by decide +kernel, ?_⟩
  intro hsame
  have hclaims := congrArg (List.map (·.status)) hsame.claims
  revert hclaims
  decide +kernel

end DeepResearch.Evidence
