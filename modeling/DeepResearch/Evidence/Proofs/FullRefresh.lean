/-
What a claim graph says, and what a full refresh makes it say.

Two claims ask for an edge or a conflict (`AsksEdge`, `AsksConflict`)
through their ids, their texts and their best evidence, so what a
question asks for is a function of its rows. A full refresh establishes
it: afterwards the open conflicts are the ones asked for
(`openConflict_fullRefresh`), and the edges and the statuses follow too.
Hence the full refresh only depends on the rows and the edges
(`SameGraph.fullRefresh`), a second one changes nothing
(`fullRefresh_idem`), and one before an insertion makes no difference
after it (`fullRefresh_insert`).
-/
import DeepResearch.Evidence.Proofs.Refresh

namespace DeepResearch.Evidence

namespace QuestionGraph

-- ============================================================= statements

/-- What a refresh reads of the claims: ids and texts, in table order. -/
def texts (g : QuestionGraph) : List (ClaimId × String) :=
  g.claims.map fun c => (c.id, c.atomicClaim)

/-- The same claims and evidence, whatever the statuses. -/
structure SameRows (g h : QuestionGraph) : Prop where
  texts : g.texts = h.texts
  evidence : g.evidence = h.evidence

/-- Two graphs say the same: the same claims with the same statuses, the
same evidence, the same edges and the same open conflicts. -/
structure SameGraph (g h : QuestionGraph) : Prop where
  claims : g.claims = h.claims
  evidence : g.evidence = h.evidence
  edges : ∀ k, g.edgeAt k = h.edgeAt k
  conflicts : ∀ k, g.openConflict k = h.openConflict k

end QuestionGraph

open QuestionGraph

section

variable
  (inferClaimRelation : String → String → Option ClaimRelationDecision)

/-- The claims `a` and `b`, in this order, ask for an edge. -/
def AsksEdge (g : QuestionGraph) (a b : ClaimId)
    (edge : ResearchClaimEdgeRow) : Prop :=
  a < b ∧ ∃ s t decision, (a, s) ∈ g.texts ∧ (b, t) ∈ g.texts
    ∧ inferClaimRelation s t = some decision
    ∧ edge = ⟨⟨a, b, decision.relation⟩, decision.confidence⟩

/-- The claims `a` and `b`, in this order, ask for a conflict, with `e`
and `f` as their best evidence. -/
def AsksConflict (g : QuestionGraph) (a b : ClaimId)
    (e f : ResearchEvidenceRow) (conflict : ResearchConflictRow) : Prop :=
  a < b ∧ ∃ s t decision, (a, s) ∈ g.texts ∧ (b, t) ∈ g.texts
    ∧ inferClaimRelation s t = some decision
    ∧ decision.relation = .contradicts
    ∧ g.bestEvidence a = some e ∧ g.bestEvidence b = some f
    ∧ e.sourceOwnerKey ≠ f.sourceOwnerKey
    ∧ conflict = conflictRow decision e f

end

variable
  {inferClaimRelation : String → String → Option ClaimRelationDecision}

section

variable {g h : QuestionGraph} {a b : ClaimId} {e f : ResearchEvidenceRow}
  {edge : ResearchClaimEdgeRow} {conflict : ResearchConflictRow}

-- ======================================================= what is asked for

/-- The texts of the graph are those of its claims. -/
theorem mem_texts {s : String} :
    (a, s) ∈ g.texts ↔ ∃ c ∈ g.claims, c.id = a ∧ c.atomicClaim = s := by
  unfold texts
  rw [List.mem_map]
  simp only [Prod.mk.injEq]

theorem texts_ids (g : QuestionGraph) :
    g.texts.map Prod.fst = g.claims.map (·.id) := by
  unfold texts
  rw [List.map_map]
  rfl

/-- The id tells the text. -/
theorem text_unique {s t : String} (hs : (a, s) ∈ g.texts)
    (ht : (a, t) ∈ g.texts) : s = t := by
  obtain ⟨c, hc, hca, rfl⟩ := mem_texts.mp hs
  obtain ⟨d, hd, hda, rfl⟩ := mem_texts.mp ht
  rw [claim_ext hc hd (hca.trans hda.symm)]

/-- An edge that is asked for is between the two claims. -/
theorem AsksEdge.key (h : AsksEdge inferClaimRelation g a b edge) :
    edge.key.fromClaimId = a ∧ edge.key.toClaimId = b := by
  obtain ⟨-, s, t, decision, -, -, -, rfl⟩ := h
  exact ⟨rfl, rfl⟩

/-- The key tells the edge. -/
theorem AsksEdge.unique {a' b' : ClaimId} {edge' : ResearchClaimEdgeRow}
    (h : AsksEdge inferClaimRelation g a b edge)
    (h' : AsksEdge inferClaimRelation g a' b' edge')
    (hkey : edge.key = edge'.key) : edge = edge' := by
  obtain ⟨ha, hb⟩ := h.key
  obtain ⟨ha', hb'⟩ := h'.key
  rw [hkey] at ha hb
  rw [ha] at ha'
  rw [hb] at hb'
  subst ha' hb'
  obtain ⟨-, s, t, decision, hs, ht, hdecision, rfl⟩ := h
  obtain ⟨-, s', t', decision', hs', ht', hdecision', rfl⟩ := h'
  rw [text_unique hs hs', text_unique ht ht', hdecision'] at hdecision
  rw [Option.some.inj hdecision]

/-- A conflict that is asked for is between the two best evidences, in one
of the orders. -/
theorem AsksConflict.key
    (h : AsksConflict inferClaimRelation g a b e f conflict) :
    conflict.key.leftEvidenceId = e.id ∧ conflict.key.rightEvidenceId = f.id
      ∨ conflict.key.leftEvidenceId = f.id
        ∧ conflict.key.rightEvidenceId = e.id := by
  obtain ⟨-, s, t, decision, -, -, -, -, -, -, -, rfl⟩ := h
  unfold conflictRow canonicalPair
  by_cases hlt : e.id < f.id
  · rw [if_pos hlt]
    exact .inl ⟨rfl, rfl⟩
  · rw [if_neg hlt]
    exact .inr ⟨rfl, rfl⟩

/-- A pair of claims asks for an edge. -/
theorem desiredEdge_iff {p : ResearchClaimRow × ResearchClaimRow}
    (hp : p ∈ g.allPairs none) :
    desiredEdge inferClaimRelation p = some edge
      ↔ AsksEdge inferClaimRelation g p.1.id p.2.id edge := by
  obtain ⟨hp₁, hp₂, hlt, -⟩ := mem_allPairs.mp hp
  have ht₁ : (p.1.id, p.1.atomicClaim) ∈ g.texts :=
    mem_texts.mpr ⟨p.1, hp₁, rfl, rfl⟩
  have ht₂ : (p.2.id, p.2.atomicClaim) ∈ g.texts :=
    mem_texts.mpr ⟨p.2, hp₂, rfl, rfl⟩
  have hedge : ∀ decision, claimEdge decision p.1 p.2
      = ⟨⟨p.1.id, p.2.id, decision.relation⟩, decision.confidence⟩ := by
    intro decision
    unfold claimEdge
    rw [canonicalPair_of_lt hlt]
  unfold desiredEdge
  rw [Option.map_eq_some_iff]
  constructor
  · rintro ⟨decision, hdecision, rfl⟩
    exact ⟨hlt, _, _, decision, ht₁, ht₂, hdecision, hedge decision⟩
  · rintro ⟨-, s, t, decision, hs, ht, hdecision, rfl⟩
    rw [text_unique hs ht₁, text_unique ht ht₂] at hdecision
    exact ⟨decision, hdecision, hedge decision⟩

/-- A pair of claims asks for a conflict. -/
theorem desiredConflict_iff {p : ResearchClaimRow × ResearchClaimRow}
    (hp : p ∈ g.allPairs none) :
    desiredConflict inferClaimRelation g p = some conflict
      ↔ ∃ e f, AsksConflict inferClaimRelation g p.1.id p.2.id e f
        conflict := by
  obtain ⟨hp₁, hp₂, hlt, -⟩ := mem_allPairs.mp hp
  have ht₁ : (p.1.id, p.1.atomicClaim) ∈ g.texts :=
    mem_texts.mpr ⟨p.1, hp₁, rfl, rfl⟩
  have ht₂ : (p.2.id, p.2.atomicClaim) ∈ g.texts :=
    mem_texts.mpr ⟨p.2, hp₂, rfl, rfl⟩
  rw [desiredConflict_eq_some_iff]
  constructor
  · rintro ⟨decision, e, f, hdecision, hrel, he, hf, hne, rfl⟩
    exact ⟨e, f, hlt, _, _, decision, ht₁, ht₂, hdecision, hrel, he, hf, hne,
      rfl⟩
  · rintro ⟨e, f, -, s, t, decision, hs, ht, hdecision, hrel, he, hf, hne,
      rfl⟩
    rw [text_unique hs ht₁, text_unique ht ht₂] at hdecision
    exact ⟨decision, e, f, hdecision, hrel, he, hf, hne, rfl⟩

/-- Two claims of the graph are one of its pairs. -/
theorem exists_pair {s t : String} (hlt : a < b) (hs : (a, s) ∈ g.texts)
    (ht : (b, t) ∈ g.texts) :
    ∃ p ∈ g.allPairs none, p.1.id = a ∧ p.2.id = b := by
  obtain ⟨c, hc, rfl, -⟩ := mem_texts.mp hs
  obtain ⟨d, hd, rfl, -⟩ := mem_texts.mp ht
  exact ⟨(c, d), mem_allPairs.mpr ⟨hc, hd, hlt, rfl⟩, rfl, rfl⟩

/-- With touched ids the pairs are those of the full refresh that have a
touched claim. -/
theorem mem_allPairs_iff {touched : Option (List ClaimId)}
    {p : ResearchClaimRow × ResearchClaimRow} :
    p ∈ g.allPairs touched ↔ p ∈ g.allPairs none
      ∧ (looksAt touched p.1.id || looksAt touched p.2.id) = true := by
  rw [mem_allPairs, mem_allPairs]
  have hall : (looksAt none p.1.id || looksAt none p.2.id) = true := rfl
  tauto

/-- The edge a refresh is asked for under a key. -/
theorem desiredEdgeAt_iff {touched : Option (List ClaimId)} {k : EdgeKey} :
    g.desiredEdgeAt inferClaimRelation touched k = some edge
      ↔ ∃ a b, AsksEdge inferClaimRelation g a b edge ∧ edge.key = k
        ∧ (looksAt touched a || looksAt touched b) = true := by
  constructor
  · intro h
    obtain ⟨hmem, hkey⟩ := Table.mem_of_lookup h
    obtain ⟨p, hp, hedge⟩ := List.mem_filterMap.mp hmem
    obtain ⟨hp, hlooks⟩ := mem_allPairs_iff.mp hp
    exact ⟨_, _, (desiredEdge_iff hp).mp hedge, hkey, hlooks⟩
  · rintro ⟨a, b, hasks, rfl, hlooks⟩
    obtain ⟨hlt, s, t, -, hs, ht, -, -⟩ := id hasks
    obtain ⟨p, hp, rfl, rfl⟩ := exists_pair hlt hs ht
    exact Table.lookup_of_mem (nodup_desiredEdges touched g)
      (List.mem_filterMap.mpr ⟨p, mem_allPairs_iff.mpr ⟨hp, hlooks⟩,
        (desiredEdge_iff hp).mpr hasks⟩)

/-- The conflict a refresh is asked for under a key. -/
theorem desiredConflictAt_iff {touched : Option (List ClaimId)}
    {k : EvidencePair} :
    g.desiredConflictAt inferClaimRelation touched k = some conflict
      ↔ ∃ a b e f, AsksConflict inferClaimRelation g a b e f conflict
        ∧ conflict.key = k
        ∧ (looksAt touched a || looksAt touched b) = true := by
  constructor
  · intro h
    obtain ⟨hmem, hkey⟩ := Table.mem_of_lookup h
    obtain ⟨p, hp, hconflict⟩ := List.mem_filterMap.mp hmem
    obtain ⟨hp, hlooks⟩ := mem_allPairs_iff.mp hp
    obtain ⟨e, f, hasks⟩ := (desiredConflict_iff hp).mp hconflict
    exact ⟨_, _, e, f, hasks, hkey, hlooks⟩
  · rintro ⟨a, b, e, f, hasks, rfl, hlooks⟩
    obtain ⟨hlt, s, t, -, hs, ht, -⟩ := id hasks
    obtain ⟨p, hp, rfl, rfl⟩ := exists_pair hlt hs ht
    exact Table.lookup_of_mem (nodup_desiredConflicts touched g)
      (List.mem_filterMap.mpr ⟨p, mem_allPairs_iff.mpr ⟨hp, hlooks⟩,
        (desiredConflict_iff hp).mpr ⟨e, f, hasks⟩⟩)

/-- The claims a refresh finds disputed. -/
theorem isDisputed_iff {touched : Option (List ClaimId)} {x : ClaimId} :
    IsDisputed inferClaimRelation touched g x
      ↔ ∃ a b e f conflict,
        AsksConflict inferClaimRelation g a b e f conflict
        ∧ (looksAt touched a || looksAt touched b) = true
        ∧ (x = a ∨ x = b) := by
  constructor
  · rintro ⟨p, hp, hsome, hx⟩
    obtain ⟨hp, hlooks⟩ := mem_allPairs_iff.mp hp
    obtain ⟨conflict, hconflict⟩ := Option.isSome_iff_exists.mp hsome
    obtain ⟨e, f, hasks⟩ := (desiredConflict_iff hp).mp hconflict
    exact ⟨_, _, e, f, conflict, hasks, hlooks, hx⟩
  · rintro ⟨a, b, e, f, conflict, hasks, hlooks, hx⟩
    obtain ⟨hlt, s, t, -, hs, ht, -⟩ := id hasks
    obtain ⟨p, hp, rfl, rfl⟩ := exists_pair hlt hs ht
    refine ⟨p, mem_allPairs_iff.mpr ⟨hp, hlooks⟩, ?_, hx⟩
    rw [(desiredConflict_iff hp).mpr ⟨e, f, hasks⟩]
    rfl

end

-- ========================================================== the same rows

section

variable {g h i : QuestionGraph}

theorem QuestionGraph.SameRows.symm (hrows : g.SameRows h) : h.SameRows g :=
  ⟨hrows.texts.symm, hrows.evidence.symm⟩

theorem QuestionGraph.SameRows.trans (hgh : g.SameRows h)
    (hhi : h.SameRows i) : g.SameRows i :=
  ⟨hgh.texts.trans hhi.texts, hgh.evidence.trans hhi.evidence⟩

theorem QuestionGraph.SameGraph.symm (hsame : g.SameGraph h) :
    h.SameGraph g :=
  ⟨hsame.claims.symm, hsame.evidence.symm, fun k => (hsame.edges k).symm,
    fun k => (hsame.conflicts k).symm⟩

theorem QuestionGraph.SameGraph.trans (hgh : g.SameGraph h)
    (hhi : h.SameGraph i) : g.SameGraph i :=
  ⟨hgh.claims.trans hhi.claims, hgh.evidence.trans hhi.evidence,
    fun k => (hgh.edges k).trans (hhi.edges k),
    fun k => (hgh.conflicts k).trans (hhi.conflicts k)⟩

/-- Graphs that are the same have the same rows to read. -/
theorem QuestionGraph.SameGraph.rows (hsame : g.SameGraph h) :
    g.SameRows h where
  texts := by
    unfold QuestionGraph.texts
    rw [hsame.claims]
  evidence := hsame.evidence

theorem QuestionGraph.SameRows.claimIds (hrows : g.SameRows h) :
    g.claims.map (·.id) = h.claims.map (·.id) := by
  rw [← texts_ids, ← texts_ids, hrows.texts]

theorem QuestionGraph.SameRows.acceptedFor (hrows : g.SameRows h)
    (a : ClaimId) : g.acceptedFor a = h.acceptedFor a := by
  unfold QuestionGraph.acceptedFor
  rw [hrows.evidence]

/-- The best evidence is chosen among the accepted ones. -/
theorem bestEvidence_congr {a : ClaimId}
    (haccepted : g.acceptedFor a = h.acceptedFor a) :
    g.bestEvidence a = h.bestEvidence a := by
  unfold QuestionGraph.bestEvidence
  rw [haccepted]

/-- The expected status depends on the claim's evidence and on whether it
is disputed. -/
theorem expectedStatus_congr {a : ClaimId} {d d' : List ClaimId}
    (haccepted : g.acceptedFor a = h.acceptedFor a)
    (hdisputed : a ∈ d ↔ a ∈ d') :
    g.expectedStatus d a = h.expectedStatus d' a := by
  unfold QuestionGraph.expectedStatus QuestionGraph.hasRefutingEvidence
    QuestionGraph.sourceOwnersByClaim
  rw [haccepted]
  by_cases hd : a ∈ d
  · rw [if_pos hd, if_pos (hdisputed.mp hd)]
  · rw [if_neg hd, if_neg (fun h => hd (hdisputed.mpr h))]

/-- Whether an edge is asked for is told from the texts. -/
theorem QuestionGraph.SameRows.asksEdge (hrows : g.SameRows h)
    {a b : ClaimId} {edge : ResearchClaimEdgeRow} :
    AsksEdge inferClaimRelation g a b edge
      ↔ AsksEdge inferClaimRelation h a b edge := by
  unfold AsksEdge
  rw [hrows.texts]

/-- Whether a conflict is asked for is told from the texts and the
evidence. -/
theorem QuestionGraph.SameRows.asksConflict (hrows : g.SameRows h)
    {a b : ClaimId} {e f : ResearchEvidenceRow}
    {conflict : ResearchConflictRow} :
    AsksConflict inferClaimRelation g a b e f conflict
      ↔ AsksConflict inferClaimRelation h a b e f conflict := by
  unfold AsksConflict
  rw [hrows.texts, bestEvidence_congr (hrows.acceptedFor a),
    bestEvidence_congr (hrows.acceptedFor b)]

/-- The desired edges do not depend on those that are there. -/
theorem QuestionGraph.SameRows.desiredEdgeAt (hrows : g.SameRows h)
    (touched : Option (List ClaimId)) (k : EdgeKey) :
    g.desiredEdgeAt inferClaimRelation touched k
      = h.desiredEdgeAt inferClaimRelation touched k := by
  apply Option.ext
  intro edge
  rw [desiredEdgeAt_iff, desiredEdgeAt_iff]
  simp only [hrows.asksEdge]

/-- Nor do the desired conflicts. -/
theorem QuestionGraph.SameRows.desiredConflictAt (hrows : g.SameRows h)
    (touched : Option (List ClaimId)) (k : EvidencePair) :
    g.desiredConflictAt inferClaimRelation touched k
      = h.desiredConflictAt inferClaimRelation touched k := by
  apply Option.ext
  intro conflict
  rw [desiredConflictAt_iff, desiredConflictAt_iff]
  simp only [hrows.asksConflict]

theorem QuestionGraph.SameRows.isDisputed (hrows : g.SameRows h)
    (touched : Option (List ClaimId)) (a : ClaimId) :
    IsDisputed inferClaimRelation touched g a
      ↔ IsDisputed inferClaimRelation touched h a := by
  rw [isDisputed_iff, isDisputed_iff]
  simp only [hrows.asksConflict]

end

-- ======================================================== the full refresh

section

variable {g h : QuestionGraph}

/-- A refresh writes neither ids, nor texts, nor evidence. -/
theorem refresh_sameRows (touched : Option (List ClaimId))
    (g : QuestionGraph) :
    (refreshQuestionRelations inferClaimRelation touched true g).1.SameRows
      g where
  texts := by
    show (g.withStatuses _).map _ = _
    unfold QuestionGraph.withStatuses
    rw [List.map_map]
    rfl
  evidence := rfl

/-- A refresh writes edges, conflicts and statuses, and none of the rows it
reads. -/
theorem fullRefresh_sameRows (g : QuestionGraph) :
    (g.fullRefresh inferClaimRelation).SameRows g :=
  refresh_sameRows none g

/-- An edge of the graph is one of a claim of the graph. -/
theorem selectsEdge_of_edgeAt {k : EdgeKey} {edge : ResearchClaimEdgeRow}
    (h : g.edgeAt k = some edge) : g.selectsEdge none k = true := by
  obtain ⟨hmem, rfl⟩ := Table.mem_of_lookup h
  have hfrom : edge.key.fromClaimId ∈ g.claimIds :=
    (g.edge_claims edge hmem).1
  unfold QuestionGraph.selectsEdge
  rw [Option.getD_none, decide_eq_true hfrom, Bool.true_or]

/-- A full refresh leaves the edges that are asked for, each as it was if
it was there. -/
theorem edgeAt_fullRefresh (g : QuestionGraph) (k : EdgeKey) :
    (g.fullRefresh inferClaimRelation).edgeAt k
      = (g.desiredEdgeAt inferClaimRelation none k).map
        fun e => (g.edgeAt k).getD e := by
  refine (edgeAt_refresh none g k).trans ?_
  cases g.desiredEdgeAt inferClaimRelation none k with
  | some e => rfl
  | none =>
      rw [Option.elim_none, Option.map_none]
      cases hold : g.edgeAt k with
      | none => exact ite_self none
      | some edge => rw [if_pos (selectsEdge_of_edgeAt hold)]

/-- A full refresh leaves exactly the conflicts that are asked for
open. -/
theorem openConflict_fullRefresh (g : QuestionGraph) (k : EvidencePair) :
    (g.fullRefresh inferClaimRelation).openConflict k
      = g.desiredConflictAt inferClaimRelation none k := by
  refine (openConflict_refresh none g k).trans ?_
  cases g.desiredConflictAt inferClaimRelation none k with
  | some c => rfl
  | none => rfl

/-- The status a full refresh gives a claim. -/
def QuestionGraph.fullStatus
    (inferClaimRelation : String → String → Option ClaimRelationDecision)
    (g : QuestionGraph) (a : ClaimId) : ClaimStatus :=
  g.expectedStatus
    (examinePairs inferClaimRelation none true g).disputedClaimIds a

/-- After a full refresh a claim has the status that the rows give it. -/
theorem claims_fullRefresh (g : QuestionGraph) :
    (g.fullRefresh inferClaimRelation).claims
      = g.texts.map fun p =>
        ⟨p.1, p.2, g.fullStatus inferClaimRelation p.1⟩ := by
  unfold QuestionGraph.texts
  rw [List.map_map]
  refine List.map_congr_left fun c _ => ?_
  have hlooks : looksAt none c.id ∨ c.id ∈
      (examinePairs inferClaimRelation none true g).disputedClaimIds :=
    .inl rfl
  dsimp only
  rw [if_pos hlooks]
  rfl

/-- That status is told from the rows alone. -/
theorem QuestionGraph.SameRows.fullStatus (hrows : g.SameRows h)
    (a : ClaimId) : g.fullStatus inferClaimRelation a
      = h.fullStatus inferClaimRelation a := by
  refine expectedStatus_congr (hrows.acceptedFor a) ?_
  rw [mem_disputedClaimIds, mem_disputedClaimIds]
  exact hrows.isDisputed none a

/-- Two full refreshes agree when they read the same rows and find or
make the same edges. -/
theorem fullRefresh_congr (hrows : g.SameRows h)
    (hedges : ∀ k e, g.desiredEdgeAt inferClaimRelation none k = some e →
      (g.edgeAt k).getD e = (h.edgeAt k).getD e) :
    (g.fullRefresh inferClaimRelation).SameGraph
      (h.fullRefresh inferClaimRelation) where
  claims := by
    rw [claims_fullRefresh, claims_fullRefresh, hrows.texts]
    simp only [hrows.fullStatus]
  evidence := hrows.evidence
  edges k := by
    rw [edgeAt_fullRefresh, edgeAt_fullRefresh, ← hrows.desiredEdgeAt]
    exact Option.map_congr (hedges k)
  conflicts k := by
    rw [openConflict_fullRefresh, openConflict_fullRefresh,
      hrows.desiredConflictAt]

/-- The full refresh depends on the rows and the edges. -/
theorem QuestionGraph.SameGraph.fullRefresh (hsame : g.SameGraph h) :
    (g.fullRefresh inferClaimRelation).SameGraph
      (h.fullRefresh inferClaimRelation) :=
  fullRefresh_congr hsame.rows fun k e _ => by rw [hsame.edges k]

/-- A second full refresh changes nothing. -/
theorem fullRefresh_idem (g : QuestionGraph) :
    ((g.fullRefresh inferClaimRelation).fullRefresh
      inferClaimRelation).SameGraph (g.fullRefresh inferClaimRelation) := by
  refine fullRefresh_congr (fullRefresh_sameRows g) fun k e he => ?_
  rw [(fullRefresh_sameRows g).desiredEdgeAt] at he
  rw [edgeAt_fullRefresh, he, Option.map_some, Option.getD_some]

end

-- ============================================================== insertions

section

variable {g h : QuestionGraph} {b : Batch}

/-- Whether a batch is new is told from the rows alone. -/
theorem QuestionGraph.SameRows.fresh (hrows : g.SameRows h)
    (hfresh : b.Fresh g) : b.Fresh h where
  claims := by
    rw [List.map_append, ← hrows.claimIds, ← List.map_append]
    exact hfresh.claims
  evidence := by
    rw [← hrows.evidence]
    exact hfresh.evidence
  evidence_claims := by
    rw [List.map_append, ← hrows.claimIds, ← List.map_append]
    exact hfresh.evidence_claims

/-- A batch adds its texts behind those that are there. -/
theorem texts_insert (hfresh : b.Fresh g) :
    (g.insert b hfresh).texts
      = g.texts ++ b.claims.map fun c => (c.id, c.atomicClaim) :=
  List.map_append

theorem QuestionGraph.SameRows.insert (hrows : g.SameRows h)
    (hg : b.Fresh g) (hh : b.Fresh h) :
    (g.insert b hg).SameRows (h.insert b hh) where
  texts := by rw [texts_insert, texts_insert, hrows.texts]
  evidence := by
    show g.evidence ++ b.evidence = h.evidence ++ b.evidence
    rw [hrows.evidence]

/-- A text of the graph stays, a new one is of a claim of the batch. -/
theorem mem_texts_insert (hfresh : b.Fresh g) {a : ClaimId} {s : String} :
    (a, s) ∈ (g.insert b hfresh).texts
      ↔ (a, s) ∈ g.texts
        ∨ (a, s) ∈ b.claims.map fun c => (c.id, c.atomicClaim) := by
  rw [texts_insert, List.mem_append]

/-- An edge that the graph with the batch asks for, between claims of the
graph, is one the graph asks for. -/
theorem AsksEdge.of_insert {hfresh : b.Fresh g} {a c : ClaimId}
    {edge : ResearchClaimEdgeRow}
    (hasks : AsksEdge inferClaimRelation (g.insert b hfresh) a c edge)
    (ha : a ∈ g.claims.map (·.id)) (hc : c ∈ g.claims.map (·.id)) :
    AsksEdge inferClaimRelation g a c edge := by
  have hold : ∀ {x s}, x ∈ g.claims.map (·.id) →
      (x, s) ∈ (g.insert b hfresh).texts → (x, s) ∈ g.texts := by
    intro x s hx hs
    rw [← texts_ids] at hx
    obtain ⟨⟨x', t⟩, ht, rfl⟩ := List.mem_map.mp hx
    rw [text_unique hs ((mem_texts_insert hfresh).mpr (.inl ht))]
    exact ht
  obtain ⟨hlt, s, t, decision, hs, ht, hdecision, hedge⟩ := hasks
  exact ⟨hlt, s, t, decision, hold ha hs, hold hc ht, hdecision, hedge⟩

/-- What the graph asks for, the graph with the batch asks for. -/
theorem AsksEdge.insert (hfresh : b.Fresh g) {a c : ClaimId}
    {edge : ResearchClaimEdgeRow}
    (hasks : AsksEdge inferClaimRelation g a c edge) :
    AsksEdge inferClaimRelation (g.insert b hfresh) a c edge := by
  obtain ⟨hlt, s, t, decision, hs, ht, hdecision, hedge⟩ := hasks
  exact ⟨hlt, s, t, decision, (mem_texts_insert hfresh).mpr (.inl hs),
    (mem_texts_insert hfresh).mpr (.inl ht), hdecision, hedge⟩

/-- A full refresh before the rows of a batch are inserted makes no
difference to the one after. -/
theorem fullRefresh_insert (hfresh : b.Fresh g)
    (hfresh' : b.Fresh (g.fullRefresh inferClaimRelation)) :
    (((g.fullRefresh inferClaimRelation).insert b hfresh').fullRefresh
      inferClaimRelation).SameGraph
      ((g.insert b hfresh).fullRefresh inferClaimRelation) := by
  have hrows : ((g.fullRefresh inferClaimRelation).insert b hfresh').SameRows
      (g.insert b hfresh) := (fullRefresh_sameRows g).insert hfresh' hfresh
  refine fullRefresh_congr hrows fun k e he => ?_
  rw [hrows.desiredEdgeAt] at he
  show ((g.fullRefresh inferClaimRelation).edgeAt k).getD e
    = (g.edgeAt k).getD e
  rw [edgeAt_fullRefresh]
  obtain ⟨a, c, hasks, hkey, -⟩ := desiredEdgeAt_iff.mp he
  cases hbefore : g.desiredEdgeAt inferClaimRelation none k with
  | some e' =>
      obtain ⟨a', c', hasks', hkey', -⟩ := desiredEdgeAt_iff.mp hbefore
      have heq : e' = e := (hasks'.insert hfresh).unique hasks
        (hkey'.trans hkey.symm)
      rw [Option.map_some, Option.getD_some, heq]
  | none =>
      cases hold : g.edgeAt k with
      | none => rfl
      | some edge =>
          -- An edge that is there is between claims of the graph.
          obtain ⟨hmem, hedge⟩ := Table.mem_of_lookup hold
          have hclaims := g.edge_claims edge hmem
          rw [hedge, ← hkey, hasks.key.1, hasks.key.2] at hclaims
          have hasks' := hasks.of_insert hclaims.1 hclaims.2
          rw [desiredEdgeAt_iff.mpr ⟨a, c, hasks', hkey, rfl⟩] at hbefore
          cases hbefore

end

end DeepResearch.Evidence
