/-
What a relation refresh leaves: its edges, its open conflicts and its
claim statuses, as functions of the rows it reads.

`examinePairs` interleaves three tables; `examinePairs_edges`,
`examinePairs_conflicts` and `mem_disputedClaimIds` take them apart. Each
pair asks for at most one edge (`desiredEdge`) and one conflict
(`desiredConflict`), under keys that tell the pair
(`nodup_desiredEdges`, `nodup_desiredConflicts`), so a lookup in the
result is a lookup in what the pairs ask for, or else in the table as it
was (`edgeAt_refresh`, `openConflict_refresh`, `claims_refresh`).
-/
import DeepResearch.Evidence.Relations

namespace DeepResearch.Evidence

variable
  {inferClaimRelation : String → String → Option ClaimRelationDecision}

-- ==================================================== what a pair asks for

section

variable
  (inferClaimRelation : String → String → Option ClaimRelationDecision)

/-- The edge a pair asks for. -/
def desiredEdge (p : ResearchClaimRow × ResearchClaimRow) :
    Option ResearchClaimEdgeRow :=
  (inferClaimRelation p.1.atomicClaim p.2.atomicClaim).map
    (claimEdge · p.1 p.2)

/-- The conflict a pair asks for. -/
def desiredConflict (g : QuestionGraph)
    (p : ResearchClaimRow × ResearchClaimRow) : Option ResearchConflictRow :=
  match inferClaimRelation p.1.atomicClaim p.2.atomicClaim with
  | none => none
  | some decision =>
      if decision.relation = .contradicts then
        g.conflictBetween decision p.1 p.2
      else none

def desiredEdges (touched : Option (List ClaimId)) (g : QuestionGraph) :
    List ResearchClaimEdgeRow :=
  (g.allPairs touched).filterMap (desiredEdge inferClaimRelation)

def desiredConflicts (touched : Option (List ClaimId))
    (g : QuestionGraph) : List ResearchConflictRow :=
  (g.allPairs touched).filterMap (desiredConflict inferClaimRelation g)

/-- The claims of the pairs that ask for a conflict. -/
def IsDisputed (touched : Option (List ClaimId)) (g : QuestionGraph)
    (claimId : ClaimId) : Prop :=
  ∃ p ∈ g.allPairs touched,
    (desiredConflict inferClaimRelation g p).isSome
      ∧ (claimId = p.1.id ∨ claimId = p.2.id)

end

-- ========================================================= the loop apart

section

variable (g : QuestionGraph) (s : RefreshState)
  (p : ResearchClaimRow × ResearchClaimRow)

/-- The edge a pair asks for is upserted. -/
theorem examinePair_edges :
    (examinePair inferClaimRelation true g s p).edges
      = Table.upsertAll ResearchClaimEdgeRow.key keepEdge s.edges
        (desiredEdge inferClaimRelation p).toList := by
  unfold examinePair desiredEdge
  dsimp only
  cases inferClaimRelation p.1.atomicClaim p.2.atomicClaim with
  | none => rfl
  | some decision =>
      dsimp only
      split
      · cases g.conflictBetween decision p.1 p.2 <;> rfl
      · rfl

/-- And its key is noted as desired. -/
theorem examinePair_desiredEdgeKeys :
    (examinePair inferClaimRelation true g s p).desiredEdgeKeys
      = (desiredEdge inferClaimRelation p).toList.map (·.key)
        ++ s.desiredEdgeKeys := by
  unfold examinePair desiredEdge
  dsimp only
  cases inferClaimRelation p.1.atomicClaim p.2.atomicClaim with
  | none => rfl
  | some decision =>
      dsimp only
      split
      · cases g.conflictBetween decision p.1 p.2 <;> rfl
      · rfl

/-- So is the conflict of their best evidences. -/
theorem examinePair_conflicts :
    (examinePair inferClaimRelation true g s p).conflicts
      = Table.upsertAll ResearchConflictRow.key redetect s.conflicts
        (desiredConflict inferClaimRelation g p).toList := by
  unfold examinePair desiredConflict
  dsimp only
  cases inferClaimRelation p.1.atomicClaim p.2.atomicClaim with
  | none => rfl
  | some decision =>
      dsimp only
      split
      · cases g.conflictBetween decision p.1 p.2 <;> rfl
      · rfl

theorem examinePair_desiredConflictPairs :
    (examinePair inferClaimRelation true g s p).desiredConflictPairs
      = (desiredConflict inferClaimRelation g p).toList.map (·.key)
        ++ s.desiredConflictPairs := by
  unfold examinePair desiredConflict
  dsimp only
  cases inferClaimRelation p.1.atomicClaim p.2.atomicClaim with
  | none => rfl
  | some decision =>
      dsimp only
      split
      · cases g.conflictBetween decision p.1 p.2 <;> rfl
      · rfl

/-- The claims of a pair in conflict are disputed. -/
theorem examinePair_disputedClaimIds :
    (examinePair inferClaimRelation true g s p).disputedClaimIds
      = (desiredConflict inferClaimRelation g p).elim []
          (fun _ => [p.1.id, p.2.id]) ++ s.disputedClaimIds := by
  unfold examinePair desiredConflict
  dsimp only
  cases inferClaimRelation p.1.atomicClaim p.2.atomicClaim with
  | none => rfl
  | some decision =>
      dsimp only
      split
      · cases g.conflictBetween decision p.1 p.2 <;> rfl
      · rfl

end

section

variable (touched : Option (List ClaimId)) (g : QuestionGraph)

/-- All pairs: the desired edges are upserted one after the other. -/
theorem examinePairs_edges :
    (examinePairs inferClaimRelation touched true g).edges
      = Table.upsertAll ResearchClaimEdgeRow.key keepEdge g.edges
        (desiredEdges inferClaimRelation touched g) := by
  exact Table.foldl_upsert (examinePair_edges g) _ _

/-- The keys noted are those of the desired edges. -/
theorem mem_desiredEdgeKeys (k : EdgeKey) :
    k ∈ (examinePairs inferClaimRelation touched true g).desiredEdgeKeys
      ↔ ∃ e ∈ desiredEdges inferClaimRelation touched g, e.key = k := by
  unfold examinePairs
  rw [Table.mem_foldl_keys (examinePair_desiredEdgeKeys g)]
  simp [desiredEdges]

/-- All pairs: the desired conflicts are upserted one after the other. -/
theorem examinePairs_conflicts :
    (examinePairs inferClaimRelation touched true g).conflicts
      = Table.upsertAll ResearchConflictRow.key redetect g.conflicts
        (desiredConflicts inferClaimRelation touched g) := by
  exact Table.foldl_upsert (examinePair_conflicts g) _ _

/-- The pairs noted are those of the desired conflicts. -/
theorem mem_desiredConflictPairs (k : EvidencePair) :
    k ∈ (examinePairs inferClaimRelation touched true
        g).desiredConflictPairs
      ↔ ∃ c ∈ desiredConflicts inferClaimRelation touched g, c.key = k := by
  unfold examinePairs
  rw [Table.mem_foldl_keys (examinePair_desiredConflictPairs g)]
  simp [desiredConflicts]

/-- The claims noted are the disputed ones. -/
theorem mem_disputedClaimIds (c : ClaimId) :
    c ∈ (examinePairs inferClaimRelation touched true g).disputedClaimIds
      ↔ IsDisputed inferClaimRelation touched g c := by
  unfold examinePairs IsDisputed
  rw [Table.mem_foldl_collect (examinePair_disputedClaimIds g)]
  constructor
  · rintro (h | ⟨p, hp, hc⟩)
    · cases h
    · cases hd : desiredConflict inferClaimRelation g p with
      | none =>
          rw [hd] at hc
          cases hc
      | some d =>
          rw [hd] at hc
          exact ⟨p, hp, by rw [hd]; rfl, by simpa using hc⟩
  · rintro ⟨p, hp, hd, hc⟩
    refine .inr ⟨p, hp, ?_⟩
    obtain ⟨d, hd⟩ := Option.isSome_iff_exists.mp hd
    rw [hd]
    simpa using hc

end

-- ================================================================ the keys

namespace QuestionGraph

variable {g : QuestionGraph}

/-- The claims come in the order of their ids. -/
theorem claimsById_strict (g : QuestionGraph) :
    g.claimsById.Pairwise fun a b => a.id < b.id := by
  have hsorted : g.claimsById.Pairwise fun a b => a.id ≤ b.id :=
    List.pairwise_insertionSort _ _
  have hperm : (g.claimsById.map (·.id)).Perm (g.claims.map (·.id)) :=
    (List.perm_insertionSort _ _).map _
  have hnodup : (g.claimsById.map (·.id)).Nodup :=
    hperm.nodup_iff.mpr g.claims_nodup
  have hne : g.claimsById.Pairwise fun a b => a.id ≠ b.id :=
    List.pairwise_map.mp hnodup
  exact (hsorted.and hne).imp fun h => Nat.lt_of_le_of_ne h.1 h.2

/-- The pairs a refresh examines. -/
theorem mem_allPairs {touched : Option (List ClaimId)}
    {p : ResearchClaimRow × ResearchClaimRow} :
    p ∈ g.allPairs touched ↔ p.1 ∈ g.claims ∧ p.2 ∈ g.claims
      ∧ p.1.id < p.2.id
      ∧ (looksAt touched p.1.id || looksAt touched p.2.id) = true := by
  unfold allPairs
  rw [List.mem_filter, Table.mem_combinations g.claimsById_strict,
    mem_claimsById, mem_claimsById]
  simp only [and_assoc]

/-- No pair is examined twice. -/
theorem nodup_allPairs (g : QuestionGraph)
    (touched : Option (List ClaimId)) : (g.allPairs touched).Nodup := by
  have hnodup : g.claimsById.Nodup :=
    g.claimsById_strict.imp fun h heq => by
      rw [heq] at h
      exact lt_irrefl _ h
  exact (Table.nodup_combinations hnodup).filter _

/-- The id tells the claim. -/
theorem claim_ext {c d : ResearchClaimRow} (hc : c ∈ g.claims)
    (hd : d ∈ g.claims) (h : c.id = d.id) : c = d :=
  List.inj_on_of_nodup_map g.claims_nodup hc hd h

/-- The best evidence of a claim is evidence for it. -/
theorem bestEvidence_mem {c : ClaimId} {e : ResearchEvidenceRow}
    (h : g.bestEvidence c = some e) : e ∈ g.evidence ∧ e.claimId = some c := by
  have hmem : e ∈ g.acceptedFor c :=
    (List.mem_insertionSort _).mp (List.mem_of_head? h)
  unfold acceptedFor at hmem
  rw [List.mem_filter] at hmem
  refine ⟨hmem.1, ?_⟩
  simpa using (Bool.and_eq_true_iff.mp hmem.2).2

/-- The id of the best evidence tells the claim and the evidence. -/
theorem bestEvidence_inj {c d : ClaimId} {e f : ResearchEvidenceRow}
    (he : g.bestEvidence c = some e) (hf : g.bestEvidence d = some f)
    (h : e.id = f.id) : c = d ∧ e = f := by
  obtain ⟨hmem, hclaim⟩ := bestEvidence_mem he
  obtain ⟨hmem', hclaim'⟩ := bestEvidence_mem hf
  have heq := List.inj_on_of_nodup_map g.evidence_nodup hmem hmem' h
  rw [heq] at hclaim
  exact ⟨Option.some.inj (hclaim.symm.trans hclaim'), heq⟩

end QuestionGraph

theorem canonicalPair_of_lt {a b : Nat} (h : a < b) :
    canonicalPair a b = (a, b) :=
  if_pos h

/-- A canonical pair tells its two members, but not their order. -/
theorem canonicalPair_eq_iff {a b c d : Nat} :
    canonicalPair a b = canonicalPair c d
      ↔ a = c ∧ b = d ∨ a = d ∧ b = c := by
  unfold canonicalPair
  split <;> split <;> rw [Prod.mk.injEq] <;> omega

/-- An edge goes from the lower id to the higher. -/
theorem desiredEdge_key {p : ResearchClaimRow × ResearchClaimRow}
    {e : ResearchClaimEdgeRow} (hlt : p.1.id < p.2.id)
    (h : desiredEdge inferClaimRelation p = some e) :
    e.key.fromClaimId = p.1.id ∧ e.key.toClaimId = p.2.id := by
  obtain ⟨decision, -, rfl⟩ := Option.map_eq_some_iff.mp h
  unfold claimEdge
  rw [canonicalPair_of_lt hlt]
  exact ⟨rfl, rfl⟩

/-- When a pair asks for a conflict, and for which. -/
theorem desiredConflict_eq_some_iff {g : QuestionGraph}
    {p : ResearchClaimRow × ResearchClaimRow} {c : ResearchConflictRow} :
    desiredConflict inferClaimRelation g p = some c
      ↔ ∃ decision e f,
        inferClaimRelation p.1.atomicClaim p.2.atomicClaim = some decision
        ∧ decision.relation = .contradicts
        ∧ g.bestEvidence p.1.id = some e ∧ g.bestEvidence p.2.id = some f
        ∧ e.sourceOwnerKey ≠ f.sourceOwnerKey
        ∧ conflictRow decision e f = c := by
  unfold desiredConflict QuestionGraph.conflictBetween
  constructor
  · intro h
    split at h
    case h_1 => cases h
    case h_2 decision hdecision =>
      split at h
      case isFalse => cases h
      case isTrue hrel =>
        split at h
        case h_2 => cases h
        case h_1 e f he hf =>
          split at h
          case isTrue => cases h
          case isFalse hne =>
            exact ⟨decision, e, f, hdecision, hrel, he, hf, hne,
              Option.some.inj h⟩
  · rintro ⟨decision, e, f, hdecision, hrel, he, hf, hne, rfl⟩
    rw [hdecision]
    dsimp only
    rw [if_pos hrel, he, hf]
    dsimp only
    rw [if_neg hne]

/-- Conflict rows have the same key if they are about the same two
evidences, in either order. -/
theorem conflictRow_key {decision decision' : ClaimRelationDecision}
    {e f e' f' : ResearchEvidenceRow} :
    (conflictRow decision e f).key = (conflictRow decision' e' f').key
      ↔ e.id = e'.id ∧ f.id = f'.id ∨ e.id = f'.id ∧ f.id = e'.id := by
  rw [← canonicalPair_eq_iff, Prod.ext_iff]
  show EvidencePair.mk (canonicalPair e.id f.id).1 (canonicalPair e.id f.id).2
    = EvidencePair.mk (canonicalPair e'.id f'.id).1
      (canonicalPair e'.id f'.id).2 ↔ _
  rw [EvidencePair.mk.injEq]

section

variable (touched : Option (List ClaimId)) (g : QuestionGraph)

/-- No edge is desired twice. -/
theorem nodup_desiredEdges :
    ((desiredEdges inferClaimRelation touched g).map
      ResearchClaimEdgeRow.key).Nodup := by
  refine Table.nodup_filterMap_key (g.nodup_allPairs touched) ?_
  intro p hp q hq e f he hf hkey
  obtain ⟨hp₁, hp₂, hp, -⟩ := QuestionGraph.mem_allPairs.mp hp
  obtain ⟨hq₁, hq₂, hq, -⟩ := QuestionGraph.mem_allPairs.mp hq
  obtain ⟨hfrom, hto⟩ := desiredEdge_key hp he
  obtain ⟨hfrom', hto'⟩ := desiredEdge_key hq hf
  rw [hkey] at hfrom hto
  exact Prod.ext (QuestionGraph.claim_ext hp₁ hq₁ (hfrom.symm.trans hfrom'))
    (QuestionGraph.claim_ext hp₂ hq₂ (hto.symm.trans hto'))

/-- The key of a conflict tells the pair that asks for it. -/
theorem desiredConflict_inj {g : QuestionGraph}
    {p q : ResearchClaimRow × ResearchClaimRow}
    {c d : ResearchConflictRow} (hp : p ∈ g.allPairs none)
    (hq : q ∈ g.allPairs none)
    (hc : desiredConflict inferClaimRelation g p = some c)
    (hd : desiredConflict inferClaimRelation g q = some d)
    (hkey : c.key = d.key) : p = q := by
  obtain ⟨_, e, f, -, -, he, hf, -, rfl⟩ := desiredConflict_eq_some_iff.mp hc
  obtain ⟨_, e', f', -, -, he', hf', -, rfl⟩ :=
    desiredConflict_eq_some_iff.mp hd
  obtain ⟨hp₁, hp₂, hp, -⟩ := QuestionGraph.mem_allPairs.mp hp
  obtain ⟨hq₁, hq₂, hq, -⟩ := QuestionGraph.mem_allPairs.mp hq
  rcases conflictRow_key.mp hkey with ⟨h₁, h₂⟩ | ⟨h₁, h₂⟩
  · have h₁ := (QuestionGraph.bestEvidence_inj he he' h₁).1
    have h₂ := (QuestionGraph.bestEvidence_inj hf hf' h₂).1
    exact Prod.ext (QuestionGraph.claim_ext hp₁ hq₁ h₁)
      (QuestionGraph.claim_ext hp₂ hq₂ h₂)
  · have h₁ := (QuestionGraph.bestEvidence_inj he hf' h₁).1
    have h₂ := (QuestionGraph.bestEvidence_inj hf he' h₂).1
    rw [h₁, h₂] at hp
    exact absurd hp (lt_asymm hq)

theorem QuestionGraph.allPairs_subset {g : QuestionGraph}
    {touched : Option (List ClaimId)}
    {p : ResearchClaimRow × ResearchClaimRow} (hp : p ∈ g.allPairs touched) :
    p ∈ g.allPairs none := by
  obtain ⟨h₁, h₂, h, -⟩ := mem_allPairs.mp hp
  exact mem_allPairs.mpr ⟨h₁, h₂, h, rfl⟩

/-- No conflict is desired twice. -/
theorem nodup_desiredConflicts :
    ((desiredConflicts inferClaimRelation touched g).map
      ResearchConflictRow.key).Nodup := by
  refine Table.nodup_filterMap_key (g.nodup_allPairs touched) ?_
  intro p hp q hq c d hc hd hkey
  exact desiredConflict_inj (QuestionGraph.allPairs_subset hp)
    (QuestionGraph.allPairs_subset hq) hc hd hkey

end

-- =============================================================== the views

namespace QuestionGraph

/-- The edge under a key. -/
def edgeAt (g : QuestionGraph) (k : EdgeKey) : Option ResearchClaimEdgeRow :=
  Table.lookup ResearchClaimEdgeRow.key k g.edges

/-- A conflict as it is seen while it is open. Its resolution summary
belongs to its dismissal. -/
def openView (c : ResearchConflictRow) : Option ResearchConflictRow :=
  if c.status = .isOpen then some { c with resolutionSummary := none }
  else none

/-- The open conflict between two rows of evidence. -/
def openConflict (g : QuestionGraph) (k : EvidencePair) :
    Option ResearchConflictRow :=
  (Table.lookup ResearchConflictRow.key k g.conflicts).bind openView

/-- The edge the pairs ask for under a key. -/
def desiredEdgeAt
    (inferClaimRelation : String → String → Option ClaimRelationDecision)
    (touched : Option (List ClaimId)) (g : QuestionGraph) (k : EdgeKey) :
    Option ResearchClaimEdgeRow :=
  Table.lookup ResearchClaimEdgeRow.key k
    (desiredEdges inferClaimRelation touched g)

/-- The conflict the pairs ask for under a key. -/
def desiredConflictAt
    (inferClaimRelation : String → String → Option ClaimRelationDecision)
    (touched : Option (List ClaimId)) (g : QuestionGraph)
    (k : EvidencePair) : Option ResearchConflictRow :=
  Table.lookup ResearchConflictRow.key k
    (desiredConflicts inferClaimRelation touched g)

section

variable (touched : Option (List ClaimId)) (g : QuestionGraph)

theorem keepEdge_key (new old : ResearchClaimEdgeRow) :
    (keepEdge new old).key = old.key := rfl

theorem redetect_key (new old : ResearchConflictRow) :
    (redetect new old).key = old.key := rfl

/-- The edges after a refresh. -/
theorem edgeAt_refresh (k : EdgeKey) :
    (refreshQuestionRelations inferClaimRelation touched true g).1.edgeAt k
      = (g.desiredEdgeAt inferClaimRelation touched k).elim
        (if g.selectsEdge touched k then none else g.edgeAt k)
        fun e => some ((g.edgeAt k).getD e) := by
  have hlookup : Table.lookup ResearchClaimEdgeRow.key k
      (examinePairs inferClaimRelation touched true g).edges
      = (g.desiredEdgeAt inferClaimRelation touched k).elim (g.edgeAt k)
        fun e => some ((g.edgeAt k).elim e (keepEdge e)) := by
    rw [examinePairs_edges]
    exact Table.lookup_upsertAll (fun new r _ => keepEdge_key new r)
      (nodup_desiredEdges touched g) g.edges
  have hkey : k ∈ (examinePairs inferClaimRelation touched true
      g).desiredEdgeKeys ↔ _ := mem_desiredEdgeKeys touched g k
  refine (Table.lookup_filter (fun k => !(g.selectsEdge touched k && decide
    (k ∉ (examinePairs inferClaimRelation touched true
      g).desiredEdgeKeys))) _).trans ?_
  rw [hlookup]
  cases hdesired : g.desiredEdgeAt inferClaimRelation touched k with
  | none =>
      have hnot : k ∉ (examinePairs inferClaimRelation touched true
          g).desiredEdgeKeys := by
        rw [hkey]
        rintro ⟨e, he, hk⟩
        exact Table.lookup_eq_none_iff.mp hdesired e he hk
      rw [decide_eq_true hnot, Bool.and_true]
      cases g.selectsEdge touched k <;> rfl
  | some e =>
      rw [decide_eq_false (not_not_intro
        (hkey.mpr ⟨e, Table.mem_of_lookup hdesired⟩)), Bool.and_false]
      cases g.edgeAt k <;> rfl

/-- What the pairs ask for is open and new. -/
theorem desiredConflictAt_spec {touched : Option (List ClaimId)}
    {g : QuestionGraph} {k : EvidencePair} {c : ResearchConflictRow}
    (h : g.desiredConflictAt inferClaimRelation touched k = some c) :
    c.key = k ∧ c.relationVersion = 2 ∧ c.status = .isOpen
      ∧ c.resolutionSummary = none := by
  obtain ⟨hmem, hkey⟩ := Table.mem_of_lookup h
  obtain ⟨p, -, hp⟩ := List.mem_filterMap.mp hmem
  obtain ⟨_, e, f, -, -, -, -, -, rfl⟩ := desiredConflict_eq_some_iff.mp hp
  exact ⟨hkey, rfl, rfl, rfl⟩

/-- A stale conflict is dismissed if it is open; then it is no longer
seen. -/
theorem openView_dismiss (stale : Bool) (c : ResearchConflictRow) :
    openView (if stale && c.status == .isOpen then dismiss c else c)
      = if stale then none else openView c := by
  cases stale with
  | false => rfl
  | true =>
      rw [Bool.true_and, if_pos rfl]
      unfold openView
      cases hstatus : c.status with
      | isOpen => rfl
      | dismissed =>
          have hclosed : (ConflictStatus.dismissed == .isOpen) = false := rfl
          simp [hclosed, hstatus]

/-- A conflict detected again is seen as a new one. -/
theorem openView_redetect {c old : ResearchConflictRow}
    (hkey : old.key = c.key) (hversion : c.relationVersion = 2)
    (hopen : c.status = .isOpen) (hsummary : c.resolutionSummary = none) :
    openView (redetect c old) = some c := by
  obtain ⟨key, attribute', version, severity, status, summary⟩ := c
  obtain ⟨key', attribute'', version', severity', status', summary'⟩ := old
  subst hkey hversion hopen hsummary
  rfl

/-- A conflict that is open and unresolved is seen as it is. -/
theorem openView_of_open {c : ResearchConflictRow}
    (hopen : c.status = .isOpen) (hsummary : c.resolutionSummary = none) :
    openView c = some c := by
  obtain ⟨key, attribute', version, severity, status, summary⟩ := c
  subst hopen hsummary
  rfl

/-- The open conflicts after a refresh. -/
theorem openConflict_refresh (k : EvidencePair) :
    (refreshQuestionRelations inferClaimRelation touched true
        g).1.openConflict k
      = (g.desiredConflictAt inferClaimRelation touched k).elim
        (if g.selectsConflict touched k then none else g.openConflict k)
        some := by
  -- After the pairs: what is desired is upserted, the rest is as before.
  have hlookup : Table.lookup ResearchConflictRow.key k
      (examinePairs inferClaimRelation touched true g).conflicts
      = (g.desiredConflictAt inferClaimRelation touched k).elim
        (Table.lookup ResearchConflictRow.key k g.conflicts)
        fun c => some
          ((Table.lookup ResearchConflictRow.key k g.conflicts).elim c
            (redetect c)) := by
    rw [examinePairs_conflicts]
    exact Table.lookup_upsertAll (fun new r _ => redetect_key new r)
      (nodup_desiredConflicts touched g) g.conflicts
  have hkey : k ∈ (examinePairs inferClaimRelation touched true
      g).desiredConflictPairs ↔ _ := mem_desiredConflictPairs touched g k
  refine (congrArg (Option.bind · openView) (Table.lookup_map
    (fun c => by dsimp only; split <;> rfl) _)).trans ?_
  rw [hlookup]
  cases hdesired : g.desiredConflictAt inferClaimRelation touched k with
  -- Not desired: dismissed if it is selected.
  | none =>
      have hnot : k ∉ (examinePairs inferClaimRelation touched true
          g).desiredConflictPairs := by
        rw [hkey]
        rintro ⟨c, hc, hk⟩
        exact Table.lookup_eq_none_iff.mp hdesired c hc hk
      rw [Option.elim_none, Option.elim_none]
      unfold openConflict
      cases hold : Table.lookup ResearchConflictRow.key k g.conflicts with
      | none => cases g.selectsConflict touched k <;> rfl
      -- Desired: inserted, or detected again and opened.
      | some c =>
          rw [Option.map_some]
          refine (openView_dismiss _ c).trans ?_
          rw [(Table.mem_of_lookup hold).2, decide_eq_true hnot,
            Bool.and_true]
          rfl
  | some c =>
      obtain ⟨hck, hversion, hopen, hsummary⟩ :=
        desiredConflictAt_spec hdesired
      have hmem := hkey.mpr ⟨c, Table.mem_of_lookup hdesired⟩
      rw [Option.elim_some, Option.elim_some, Option.map_some]
      refine (openView_dismiss _ _).trans ?_
      cases hold : Table.lookup ResearchConflictRow.key k g.conflicts with
      | none =>
          rw [Option.elim_none, hck, decide_eq_false (not_not_intro hmem),
            Bool.and_false, if_neg (by decide)]
          exact openView_of_open hopen hsummary
      | some old =>
          have hold := (Table.mem_of_lookup hold).2
          rw [Option.elim_some, redetect_key, hold,
            decide_eq_false (not_not_intro hmem), Bool.and_false,
            if_neg (by decide)]
          exact openView_redetect (hold.trans hck.symm) hversion hopen
            hsummary

end

end QuestionGraph

end DeepResearch.Evidence
