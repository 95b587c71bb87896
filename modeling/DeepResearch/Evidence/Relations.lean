/-
The evidence graph of a question and its relation refresh
(`evidence_graph_relations.py`: `refresh_question_relations`;
`evidence_graph.py`: `derive_claim_status`).

# One question

A `QuestionGraph` holds the rows of one question of one run: its claims
and evidence with their keys, and what a refresh derives from them, the
claim edges, the conflicts and the status column of the claims. Evidence
comes joined with its source, of which only the owner matters here.

# What is a parameter

`infer_claim_relation` compares two claim texts. The refresh only needs
that it is a function of them, so it is one, `inferClaimRelation`.

# Identifiers and numbers

Ids are UUIDs, of which only the order matters; the order of their texts
is the same. Scores, confidences and severities are floats that are
stored and compared, never computed with, so they are rationals.
-/
import DeepResearch.Lib.Table
import Mathlib.Data.List.Sort
import Mathlib.Data.Rat.Defs
import Mathlib.Algebra.Order.Ring.Rat

namespace DeepResearch.Evidence

-- =================================================================== rows

abbrev ClaimId := Nat

abbrev EvidenceId := Nat

/-- The status column of a claim; `partly` is the text "partial". -/
inductive ClaimStatus
  | candidate
  | partly
  | supported
  | disputed
  | rejected
  deriving DecidableEq, Repr

/-- `EvidenceRelation`. -/
inductive EvidenceRelation
  | supports
  | refutes
  | context
  deriving DecidableEq, Repr

/-- The relations between two claims. -/
inductive ClaimRelation
  | supports
  | contradicts
  | supplements
  deriving DecidableEq, Repr

/-- `ClaimRelationDecision`. -/
structure ClaimRelationDecision where
  relation : ClaimRelation
  confidence : ℚ
  severity : ℚ
  reasonCode : String
  deriving DecidableEq

/-- A row of `research_claims`. -/
structure ResearchClaimRow where
  id : ClaimId
  atomicClaim : String
  status : ClaimStatus := .candidate
  deriving DecidableEq, Repr

/-- A row of `research_evidence`, joined with its source. -/
structure ResearchEvidenceRow where
  id : EvidenceId
  claimId : Option ClaimId
  accepted : Bool := true
  relation : EvidenceRelation := .supports
  evidenceScore : ℚ
  createdAt : Nat
  sourceOwnerKey : String
  deriving DecidableEq

/-- The unique key of an edge. -/
structure EdgeKey where
  fromClaimId : ClaimId
  toClaimId : ClaimId
  relation : ClaimRelation
  deriving DecidableEq, Repr

/-- A row of `research_claim_edges`. -/
structure ResearchClaimEdgeRow where
  key : EdgeKey
  confidence : ℚ
  deriving DecidableEq

/-- The unique key of a conflict. -/
structure EvidencePair where
  leftEvidenceId : EvidenceId
  rightEvidenceId : EvidenceId
  deriving DecidableEq, Repr

inductive ConflictStatus
  | isOpen
  | dismissed
  deriving DecidableEq, Repr

/-- A row of `research_conflicts`; its `attribute` column is
`conflictAttribute`. The refresh is the only writer of the
table, so every `definition_scope` is `deterministic_relation_v` with a
version, and the `LIKE` on that text selects every row. -/
structure ResearchConflictRow where
  key : EvidencePair
  conflictAttribute : String
  relationVersion : Nat
  severity : ℚ
  status : ConflictStatus
  resolutionSummary : Option String := none
  deriving DecidableEq

/-- The rows of one question: primary keys are unique and foreign keys
point into the question. -/
structure QuestionGraph where
  claims : List ResearchClaimRow
  evidence : List ResearchEvidenceRow
  edges : List ResearchClaimEdgeRow
  conflicts : List ResearchConflictRow
  claims_nodup : (claims.map (·.id)).Nodup
  evidence_nodup : (evidence.map (·.id)).Nodup
  evidence_claims : ∀ e ∈ evidence, ∀ c ∈ e.claimId, c ∈ claims.map (·.id)
  edge_claims : ∀ e ∈ edges, e.key.fromClaimId ∈ claims.map (·.id)
    ∧ e.key.toClaimId ∈ claims.map (·.id)

namespace QuestionGraph

variable (g : QuestionGraph)

def claimIds : List ClaimId := g.claims.map (·.id)

/-- The claims, `ORDER BY id`. -/
def claimsById : List ResearchClaimRow :=
  g.claims.insertionSort fun a b => a.id ≤ b.id

-- ========================================================== what is read

/-- The accepted evidence of a claim. -/
def acceptedFor (claimId : ClaimId) : List ResearchEvidenceRow :=
  g.evidence.filter fun e => e.accepted && e.claimId == some claimId

/-- `ORDER BY evidence_score DESC, created_at`. -/
def EvidenceFirst (a b : ResearchEvidenceRow) : Prop :=
  b.evidenceScore < a.evidenceScore
    ∨ a.evidenceScore = b.evidenceScore ∧ a.createdAt ≤ b.createdAt

instance : DecidableRel EvidenceFirst := fun _ _ =>
  inferInstanceAs (Decidable (_ ∨ _ ∧ _))

/-- `best_evidence`: the query orders by claim first, so the first row of
a claim is the first of its own rows. Rows that tie keep their order. -/
def bestEvidence (claimId : ClaimId) : Option ResearchEvidenceRow :=
  ((g.acceptedFor claimId).insertionSort EvidenceFirst).head?

/-- `source_owners_by_claim`. -/
def sourceOwnersByClaim (claimId : ClaimId) : List String :=
  ((g.acceptedFor claimId).map (·.sourceOwnerKey)).dedup

/-- Membership in `refuting_claim_ids`. -/
def hasRefutingEvidence (claimId : ClaimId) : Bool :=
  (g.acceptedFor claimId).any (·.relation == .refutes)

end QuestionGraph

/-- `derive_claim_status`. -/
def deriveClaimStatus (hasAcceptedEvidence hasRefutingEvidence : Bool)
    (independentSourceCount : Nat) : ClaimStatus :=
  if hasRefutingEvidence then .disputed
  else if !hasAcceptedEvidence then .rejected
  else if 2 ≤ independentSourceCount then .supported
  else .partly

-- ================================================================ the pairs

/-- `_canonical_pair` and `_canonical_evidence_pair`, on the ids. -/
def canonicalPair (left right : Nat) : Nat × Nat :=
  if left < right then (left, right) else (right, left)

/-- Whether a refresh looks at a claim: the incremental one is given the
touched claims, the full one looks at every claim. -/
def looksAt (touched : Option (List ClaimId)) (claimId : ClaimId) : Bool :=
  touched.elim true (decide <| claimId ∈ ·)

/-- `all_pairs`. -/
def QuestionGraph.allPairs (g : QuestionGraph)
    (touched : Option (List ClaimId)) :
    List (ResearchClaimRow × ResearchClaimRow) :=
  (Table.combinations g.claimsById).filter fun (p, q) =>
    looksAt touched p.id || looksAt touched q.id

/-- The edge a decision asks for. -/
def claimEdge (decision : ClaimRelationDecision)
    (left right : ResearchClaimRow) : ResearchClaimEdgeRow :=
  let (fromClaim, toClaim) := canonicalPair left.id right.id
  { key :=
      { fromClaimId := fromClaim
        toClaimId := toClaim
        relation := decision.relation }
    confidence := decision.confidence }

/-- The conflict between two rows of evidence. -/
def conflictRow (decision : ClaimRelationDecision)
    (left right : ResearchEvidenceRow) : ResearchConflictRow :=
  let (conflictLeft, conflictRight) := canonicalPair left.id right.id
  { key :=
      { leftEvidenceId := conflictLeft
        rightEvidenceId := conflictRight }
    conflictAttribute := decision.reasonCode
    relationVersion := 2
    severity := decision.severity
    status := .isOpen }

/-- The conflict a contradiction asks for: between the best evidence of
the two claims, when it has two owners. -/
def QuestionGraph.conflictBetween (g : QuestionGraph)
    (decision : ClaimRelationDecision) (left right : ResearchClaimRow) :
    Option ResearchConflictRow :=
  match g.bestEvidence left.id, g.bestEvidence right.id with
  | some leftEvidence, some rightEvidence =>
      if leftEvidence.sourceOwnerKey = rightEvidence.sourceOwnerKey then
        none
      else some (conflictRow decision leftEvidence rightEvidence)
  | _, _ => none

-- ============================================================== the refresh

/-- `RelationRefreshStats`. -/
structure RelationRefreshStats where
  examinedPairs : Nat := 0
  detectedEdges : Nat := 0
  createdEdges : Nat := 0
  deletedEdges : Nat := 0
  detectedConflicts : Nat := 0
  createdConflicts : Nat := 0
  dismissedConflicts : Nat := 0
  reopenedConflicts : Nat := 0
  deriving DecidableEq, Repr

/-- The tables and sets the loop over the pairs works on. -/
structure RefreshState where
  edges : List ResearchClaimEdgeRow
  conflicts : List ResearchConflictRow
  desiredEdgeKeys : List EdgeKey := []
  desiredConflictPairs : List EvidencePair := []
  disputedClaimIds : List ClaimId := []
  stats : RelationRefreshStats := {}

/-- An edge that is there stays as it is. -/
def keepEdge (_new old : ResearchClaimEdgeRow) : ResearchClaimEdgeRow := old

/-- A detected edge: it is added unless it is there. -/
def recordEdge (persist : Bool) (edge : ResearchClaimEdgeRow)
    (s : RefreshState) : RefreshState :=
  let missing :=
    (Table.lookup ResearchClaimEdgeRow.key edge.key s.edges).isNone
  { s with
    edges :=
      if persist then
        Table.upsert ResearchClaimEdgeRow.key keepEdge s.edges edge
      else s.edges
    desiredEdgeKeys := edge.key :: s.desiredEdgeKeys
    stats :=
      { s.stats with
        detectedEdges := s.stats.detectedEdges + 1
        createdEdges :=
          s.stats.createdEdges + if persist && missing then 1 else 0 } }

/-- A conflict that is there is opened again and gets the values of the
new decision. -/
def redetect (new old : ResearchConflictRow) : ResearchConflictRow :=
  { old with
    status := .isOpen
    resolutionSummary :=
      if old.status = .isOpen then old.resolutionSummary else none
    conflictAttribute := new.conflictAttribute
    relationVersion := 2
    severity := new.severity }

/-- A detected conflict, between the best evidence of two claims. -/
def recordConflict (persist : Bool) (conflict : ResearchConflictRow)
    (left right : ResearchClaimRow) (s : RefreshState) : RefreshState :=
  let old :=
    Table.lookup ResearchConflictRow.key conflict.key s.conflicts
  { s with
    conflicts :=
      if persist then
        Table.upsert ResearchConflictRow.key redetect s.conflicts conflict
      else s.conflicts
    desiredConflictPairs := conflict.key :: s.desiredConflictPairs
    disputedClaimIds := left.id :: right.id :: s.disputedClaimIds
    stats :=
      { s.stats with
        detectedConflicts := s.stats.detectedConflicts + 1
        createdConflicts :=
          s.stats.createdConflicts
            + if persist && old.isNone then 1 else 0
        reopenedConflicts :=
          s.stats.reopenedConflicts
            + if persist && old.any (·.status != .isOpen) then 1 else 0 } }

/-- The update `conflict.status = "dismissed"`. -/
def dismiss (conflict : ResearchConflictRow) : ResearchConflictRow :=
  { conflict with
    status := .dismissed
    resolutionSummary := some
      "auto-dismissed: scope mismatch under deterministic_relation_v2" }

section

variable
  (inferClaimRelation : String → String → Option ClaimRelationDecision)

/-- One round of the loop over the pairs. -/
def examinePair (persist : Bool) (g : QuestionGraph) (s : RefreshState)
    (pair : ResearchClaimRow × ResearchClaimRow) : RefreshState :=
  let (left, right) := pair
  let s :=
    { s with
      stats :=
        { s.stats with examinedPairs := s.stats.examinedPairs + 1 } }
  match inferClaimRelation left.atomicClaim right.atomicClaim with
  | none => s
  | some decision =>
      let s := recordEdge persist (claimEdge decision left right) s
      if decision.relation = .contradicts then
        match g.conflictBetween decision left right with
        | none => s
        | some conflict => recordConflict persist conflict left right s
      else s

/-- The loop over the pairs. -/
def examinePairs (touched : Option (List ClaimId)) (persist : Bool)
    (g : QuestionGraph) : RefreshState :=
  (g.allPairs touched).foldl (examinePair inferClaimRelation persist g)
    { edges := g.edges, conflicts := g.conflicts }

end

-- ============================================== the edges stay in the graph

/-- Both ends of every edge are claims of the graph. -/
def QuestionGraph.HoldsEdges (g : QuestionGraph)
    (edges : List ResearchClaimEdgeRow) : Prop :=
  ∀ e ∈ edges, e.key.fromClaimId ∈ g.claimIds ∧ e.key.toClaimId ∈ g.claimIds

theorem claimEdge_claims {g : QuestionGraph}
    (decision : ClaimRelationDecision) {left right : ResearchClaimRow}
    (hleft : left.id ∈ g.claimIds) (hright : right.id ∈ g.claimIds) :
    (claimEdge decision left right).key.fromClaimId ∈ g.claimIds
      ∧ (claimEdge decision left right).key.toClaimId ∈ g.claimIds := by
  unfold claimEdge canonicalPair
  by_cases hlt : left.id < right.id
  · rw [if_pos hlt]
    exact ⟨hleft, hright⟩
  · rw [if_neg hlt]
    exact ⟨hright, hleft⟩

theorem QuestionGraph.mem_claimsById {g : QuestionGraph}
    {c : ResearchClaimRow} : c ∈ g.claimsById ↔ c ∈ g.claims :=
  (List.perm_insertionSort _ g.claims).mem_iff

theorem QuestionGraph.claims_of_mem_allPairs {g : QuestionGraph}
    {touched : Option (List ClaimId)}
    {p : ResearchClaimRow × ResearchClaimRow} (hp : p ∈ g.allPairs touched) :
    p.1 ∈ g.claims ∧ p.2 ∈ g.claims := by
  have hpair := Table.mem_of_mem_combinations (List.mem_of_mem_filter hp)
  exact ⟨mem_claimsById.mp hpair.1, mem_claimsById.mp hpair.2⟩

theorem examinePair_holdsEdges
    {inferClaimRelation : String → String → Option ClaimRelationDecision}
    {persist : Bool} {g : QuestionGraph} {s : RefreshState}
    {p : ResearchClaimRow × ResearchClaimRow} (hs : g.HoldsEdges s.edges)
    (hp : p.1 ∈ g.claims ∧ p.2 ∈ g.claims) :
    g.HoldsEdges (examinePair inferClaimRelation persist g s p).edges := by
  have hedge : ∀ decision, g.HoldsEdges
      (recordEdge persist (claimEdge decision p.1 p.2)
        { s with
          stats :=
            { s.stats with
              examinedPairs := s.stats.examinedPairs + 1 } }).edges := by
    intro decision e he
    unfold recordEdge at he
    dsimp only at he
    split at he
    · rcases Table.mem_upsert he with rfl | ⟨old, hold, rfl | rfl⟩
      · exact claimEdge_claims decision (List.mem_map_of_mem hp.1)
          (List.mem_map_of_mem hp.2)
      · exact hs _ hold
      · exact hs _ hold
    · exact hs e he
  unfold examinePair
  dsimp only
  split
  · exact hs
  · split
    · split
      · exact hedge _
      · exact hedge _
    · exact hedge _

/-- The loop only adds edges between claims of the graph. -/
theorem examinePairs_holdsEdges
    (inferClaimRelation : String → String → Option ClaimRelationDecision)
    (touched : Option (List ClaimId)) (persist : Bool) (g : QuestionGraph) :
    g.HoldsEdges
      (examinePairs inferClaimRelation touched persist g).edges := by
  unfold examinePairs
  have hpairs : ∀ p ∈ g.allPairs touched, p.1 ∈ g.claims ∧ p.2 ∈ g.claims :=
    fun p hp => QuestionGraph.claims_of_mem_allPairs hp
  have hstart : g.HoldsEdges g.edges := g.edge_claims
  generalize g.allPairs touched = pairs at hpairs
  generalize hs : ({ edges := g.edges, conflicts := g.conflicts } :
    RefreshState) = s
  have hedges : g.HoldsEdges s.edges := by rw [← hs]; exact hstart
  clear hs
  induction pairs generalizing s with
  | nil => exact hedges
  | cons p pairs ih =>
      exact ih (fun q hq => hpairs q (List.mem_cons_of_mem _ hq)) _
        (examinePair_holdsEdges hedges (hpairs p (List.mem_cons_self ..)))

-- ======================================================= the whole refresh

/-- `touched_evidence_ids`. -/
def QuestionGraph.touchedEvidenceIds (g : QuestionGraph)
    (touched : List ClaimId) : List EvidenceId :=
  touched.filterMap fun claimId => (g.bestEvidence claimId).map (·.id)

/-- The selection of `existing_conflicts`. -/
def QuestionGraph.selectsConflict (g : QuestionGraph)
    (touched : Option (List ClaimId)) (key : EvidencePair) : Bool :=
  touched.elim true fun touched =>
    decide (key.leftEvidenceId ∈ g.touchedEvidenceIds touched)
      || decide (key.rightEvidenceId ∈ g.touchedEvidenceIds touched)

/-- The selection of `existing_edges`: the edges of the claims the
refresh looks at. -/
def QuestionGraph.selectsEdge (g : QuestionGraph)
    (touched : Option (List ClaimId)) (key : EdgeKey) : Bool :=
  decide (key.fromClaimId ∈ touched.getD g.claimIds)
    || decide (key.toClaimId ∈ touched.getD g.claimIds)

/-- `expected_status`. -/
def QuestionGraph.expectedStatus (g : QuestionGraph)
    (disputed : List ClaimId) (claimId : ClaimId) : ClaimStatus :=
  if claimId ∈ disputed then .disputed
  else
    deriveClaimStatus (!(g.acceptedFor claimId).isEmpty)
      (g.hasRefutingEvidence claimId) (g.sourceOwnersByClaim claimId).length

/-- The claims with a new status column. -/
def QuestionGraph.withStatuses (g : QuestionGraph)
    (status : ResearchClaimRow → ClaimStatus) : List ResearchClaimRow :=
  g.claims.map fun c => { c with status := status c }

theorem QuestionGraph.withStatuses_ids (g : QuestionGraph)
    (status : ResearchClaimRow → ClaimStatus) :
    (g.withStatuses status).map (·.id) = g.claims.map (·.id) := by
  unfold withStatuses
  rw [List.map_map]
  rfl

/-- The graph with other derived rows. -/
def QuestionGraph.withRelations (g : QuestionGraph)
    (edges : List ResearchClaimEdgeRow)
    (conflicts : List ResearchConflictRow)
    (status : ResearchClaimRow → ClaimStatus) (h : g.HoldsEdges edges) :
    QuestionGraph where
  claims := g.withStatuses status
  evidence := g.evidence
  edges := edges
  conflicts := conflicts
  claims_nodup := by
    rw [g.withStatuses_ids]
    exact g.claims_nodup
  evidence_nodup := g.evidence_nodup
  evidence_claims := by
    rw [g.withStatuses_ids]
    exact g.evidence_claims
  edge_claims := by
    rw [g.withStatuses_ids]
    exact h

section

variable
  (inferClaimRelation : String → String → Option ClaimRelationDecision)

/-- `refresh_question_relations`: the graph it leaves and its statistics.
Without `persist` nothing is written. -/
def refreshQuestionRelations (touched : Option (List ClaimId))
    (persist : Bool) (g : QuestionGraph) :
    QuestionGraph × RelationRefreshStats :=
  let s := examinePairs inferClaimRelation touched persist g
  if persist then
    let staleEdge := fun e : ResearchClaimEdgeRow =>
      g.selectsEdge touched e.key && decide (e.key ∉ s.desiredEdgeKeys)
    let staleConflict := fun c : ResearchConflictRow =>
      g.selectsConflict touched c.key
        && decide (c.key ∉ s.desiredConflictPairs) && c.status == .isOpen
    (g.withRelations (s.edges.filter (!staleEdge ·))
        (s.conflicts.map fun c => if staleConflict c then dismiss c else c)
        (fun c =>
          if looksAt touched c.id ∨ c.id ∈ s.disputedClaimIds then
            g.expectedStatus s.disputedClaimIds c.id
          else c.status)
        (fun e he => examinePairs_holdsEdges inferClaimRelation touched
          persist g e (List.mem_of_mem_filter he)),
      { s.stats with
        deletedEdges := (s.edges.filter staleEdge).length
        dismissedConflicts := (s.conflicts.filter staleConflict).length })
  else (g, s.stats)

end

-- ============================================================== insertions

/-- The rows one page adds to a question. The status a claim is stored
with is overwritten by the refresh that follows. -/
structure Batch where
  claims : List ResearchClaimRow
  evidence : List ResearchEvidenceRow

/-- `graph_claim_ids`: the claims of the inserted rows. -/
def Batch.touched (b : Batch) : List ClaimId :=
  b.claims.map (·.id) ++ b.evidence.filterMap (·.claimId)

/-- The keys of the batch fit the graph. -/
structure Batch.Fresh (b : Batch) (g : QuestionGraph) : Prop where
  claims : ((g.claims ++ b.claims).map (·.id)).Nodup
  evidence : ((g.evidence ++ b.evidence).map (·.id)).Nodup
  evidence_claims : ∀ e ∈ b.evidence, ∀ c ∈ e.claimId,
    c ∈ (g.claims ++ b.claims).map (·.id)

instance (b : Batch) (g : QuestionGraph) : Decidable (b.Fresh g) :=
  decidable_of_iff
    (((g.claims ++ b.claims).map (·.id)).Nodup
      ∧ ((g.evidence ++ b.evidence).map (·.id)).Nodup
      ∧ ∀ e ∈ b.evidence, ∀ c ∈ e.claimId,
        c ∈ (g.claims ++ b.claims).map (·.id))
    ⟨fun ⟨h, h', h''⟩ => ⟨h, h', h''⟩, fun ⟨h, h', h''⟩ => ⟨h, h', h''⟩⟩

/-- The rows of the batch are inserted. -/
def QuestionGraph.insert (g : QuestionGraph) (b : Batch) (h : b.Fresh g) :
    QuestionGraph where
  claims := g.claims ++ b.claims
  evidence := g.evidence ++ b.evidence
  edges := g.edges
  conflicts := g.conflicts
  claims_nodup := h.claims
  evidence_nodup := h.evidence
  evidence_claims := by
    intro e he c hc
    rcases List.mem_append.mp he with he | he
    · rw [List.map_append]
      exact List.mem_append_left _ (g.evidence_claims e he c hc)
    · exact h.evidence_claims e he c hc
  edge_claims := by
    intro e he
    rw [List.map_append]
    exact ⟨List.mem_append_left _ (g.edge_claims e he).1,
      List.mem_append_left _ (g.edge_claims e he).2⟩

/-- A batch whose keys do not fit is refused. -/
def QuestionGraph.tryInsert (g : QuestionGraph) (b : Batch) :
    QuestionGraph :=
  if h : b.Fresh g then g.insert b h else g

section

variable
  (inferClaimRelation : String → String → Option ClaimRelationDecision)

/-- The full refresh. -/
def QuestionGraph.fullRefresh (g : QuestionGraph) : QuestionGraph :=
  (refreshQuestionRelations inferClaimRelation none true g).1

/-- The refresh of the claims of a batch. -/
def QuestionGraph.incrementalRefresh (g : QuestionGraph) (b : Batch) :
    QuestionGraph :=
  (refreshQuestionRelations inferClaimRelation (some b.touched) true g).1

/-- What `record_page` does with the graph: the rows are inserted and
their claims refreshed. -/
def QuestionGraph.recordPage (g : QuestionGraph) (b : Batch) :
    QuestionGraph :=
  if h : b.Fresh g then
    (g.insert b h).incrementalRefresh inferClaimRelation b
  else g

end

end DeepResearch.Evidence
