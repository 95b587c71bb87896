/-
The research memory (`memory/manager.py`; `retrieval/projections.py`,
`rebuild_memory`; `retrieval/normalization.py`,
`reciprocal_rank_fusion`).

# Items and their documents

A capture of a state supersedes the working memory of the run and inserts
what is new: a working item, an episodic one, and one for each accepted
evidence. It then rebuilds the search documents of the run's owner, in the
same transaction. The daily lifecycle changes items and leaves their
documents. A script rebuilds those of an owner, or all. A retrieval joins
the two tables.

# The database

Ids are drawn before a transaction; where one is taken, or the unique
index over run, type and fingerprint would be violated, the transaction
raises. A fingerprint is the SHA-256 of a name, and the name stands for
it. What PostgreSQL makes of a query and a document is a parameter
(`TextSearch`); no program deletes a run. Transactions are one after the
other. Of one run they are: its worker captures at the end of a node and
retrieves at the start of one. `capture_state` itself takes no lock before
it rebuilds, and the rebuilds of one owner wait for each other.

The keywords of an item, its scope type, its utility count (always zero)
and the ids of the access log are left out: nothing reads them.
-/
import DeepResearch.Lib.Binary64
import DeepResearch.Lib.Table
import DeepResearch.Lib.Transition
import DeepResearch.State.Basic

namespace DeepResearch.Memory

open DeepResearch.State (ActionType GapStatus ResearchPhase ResearchState
  Score UUID)

-- ============================================================== the records

/-- `MemoryType`. -/
inductive MemoryType
  | working
  | episodic
  | semantic
  deriving DecidableEq, Repr

/-- `MemoryStatus`. -/
inductive MemoryStatus
  | active
  | stale
  | superseded
  | forgotten
  deriving DecidableEq, Repr

/-- What `_fingerprint` hashes. -/
inductive Fingerprint
  | working (stateVersion : Nat) (summary : String)
  | episodic (nodeName : String) (stateVersion : Nat)
  | semantic (evidenceId : UUID)
  deriving DecidableEq

/-- An entry of `source_ref_ids`. -/
inductive MemoryRef
  | state (stateVersion : Nat)
  | claim (claimId : Option UUID)
  | gap (gapId : UUID)
  | node (nodeName : String)
  | evidence (evidenceId : UUID)
  | snapshot (snapshotId : Option UUID)
  deriving DecidableEq

/-- The unique index over `memory_items`. -/
structure MemoryKey where
  originRunId : UUID
  memoryType : MemoryType
  fingerprint : Fingerprint
  deriving DecidableEq

/-- A row of `memory_items`. Times are in microseconds. -/
structure MemoryItem where
  id : UUID
  originRunId : UUID
  ownerHash : String
  memoryType : MemoryType
  contentSummary : String
  sourceRefIds : List MemoryRef
  confidence : Score
  importance : Score
  fingerprint : Fingerprint
  status : MemoryStatus := .active
  accessCount : Nat := 0
  expiresAt : Option ℤ
  lastAccessedAt : Option ℤ := none
  createdAt : ℤ
  updatedAt : ℤ
  deriving DecidableEq

def MemoryItem.key (item : MemoryItem) : MemoryKey :=
  ⟨item.originRunId, item.memoryType, item.fingerprint⟩

/-- A row of `memory_search_documents`. Its texts and its vector are made
of the summary. -/
structure MemorySearchDocument where
  memoryId : UUID
  scopeId : UUID
  memoryType : MemoryType
  status : MemoryStatus
  text : String
  confidence : Score
  importance : Score
  expiresAt : Option ℤ
  deriving DecidableEq

/-- A row of `memory_access_logs`. -/
structure MemoryAccessLog where
  runId : UUID
  query : String
  requestedTypes : List MemoryType
  candidateIds : List UUID
  selectedIds : List UUID
  hit : Bool
  revalidationRequiredCount : Nat
  createdAt : ℤ
  deriving DecidableEq

/-- The tables, under their primary keys and the unique index. A run has
its owner. -/
structure MemoryStore where
  owners : List (UUID × String) := []
  items : List MemoryItem := []
  documents : List MemorySearchDocument := []
  accesses : List MemoryAccessLog := []
  ids_nodup : (items.map MemoryItem.id).Nodup
  keys_nodup : (items.map MemoryItem.key).Nodup
  documents_nodup : (documents.map MemorySearchDocument.memoryId).Nodup

/-- `owner_hash` of a run. -/
def MemoryStore.owner? (s : MemoryStore) (runId : UUID) : Option String :=
  (Table.lookup Prod.fst runId s.owners).map Prod.snd

-- ============================================================ the summaries

/-- The values of `ResearchPhase`. -/
def phaseValue : ResearchPhase → String
  | .init => "init"
  | .analyzeQuery => "analyze_query"
  | .plan => "plan"
  | .research => "research"
  | .evaluate => "evaluate"
  | .write => "write"
  | .verify => "verify"
  | .finalize => "finalize"

/-- The values of `ActionType`. -/
def actionValue : ActionType → String
  | .retrieveMemory => "retrieve_memory"
  | .searchDatabase => "search_database"
  | .searchWeb => "search_web"
  | .readSource => "read_source"
  | .extract => "extract"
  | .saveEvidence => "save_evidence"
  | .analyzeData => "analyze_data"
  | .replan => "replan"
  | .evaluate => "evaluate"
  | .write => "write"
  | .stop => "stop"

/-- A double from zero on, with a number of decimals. -/
def fixed (decimals : Nat) (x : ℚ) : String :=
  let scaled := (Binary64.roundHalfEven (x * 10 ^ decimals)).toNat
  toString (scaled / 10 ^ decimals) ++ "."
    ++ String.ofList (List.leftpad decimals '0'
      (Nat.toDigits 10 (scaled % 10 ^ decimals)))

/-- `:.1%` of a double. -/
def percent (x : ℚ) : String := fixed 1 (Binary64.nearest (x * 100)) ++ "%"

/-- `_working_summary`. -/
def workingSummary (state : ResearchState) : String :=
  let openGaps := (state.gaps.filter fun gap =>
    gap.status ∈ [GapStatus.open, .resolving]).length
  let nextAction := state.nextAction.elim "none"
    fun action => actionValue action.actionType
  "phase=" ++ phaseValue state.phase
    ++ "; iteration=" ++ toString state.iteration
    ++ "; known=" ++ toString state.known.length
    ++ "; open_gaps=" ++ toString openGaps
    ++ "; next_action=" ++ nextAction
    ++ "; coverage=" ++ fixed 3 state.quality.coverage.val

/-- `_episodic_summary`. -/
def episodicSummary (state : ResearchState) (nodeName : String) : String :=
  let decision := state.nextAction.elim "no next action"
    fun action => action.publicDecisionSummary.val
  "节点 " ++ nodeName ++ " 完成于状态版本 " ++ toString state.stateVersion
    ++ "; 覆盖度 " ++ percent state.quality.coverage.val
    ++ ", 信息增益 " ++ percent state.quality.informationGain.val
    ++ "; 研究决策: " ++ decision

/-- `_state_refs`. -/
def stateRefs (state : ResearchState) : List MemoryRef :=
  MemoryRef.state state.stateVersion
    :: state.known.map (fun item => .claim (some item.claimId))
    ++ state.gaps.map (fun item => .gap item.gapId)

-- ============================================================== the capture

/-- `timedelta(days=…)`. -/
def days (n : ℤ) : ℤ := n * 86400000000

/-- `windows` of `_expires_at`. -/
def expiryWindow : MemoryType → ℤ
  | .working => days 7
  | .episodic => days 30
  | .semantic => days 90

/-- `_expires_at`. -/
def expiresAt (memoryType : MemoryType) (now : ℤ) : Option ℤ :=
  some (now + expiryWindow memoryType)

theorem clamp_mem (x : ℚ) : 0 ≤ max 0 (min 1 x) ∧ max 0 (min 1 x) ≤ 1 :=
  ⟨le_max_left .., max_le (by norm_num) (min_le_left ..)⟩

/-- `max(0.0, min(1.0, x))`. -/
def clampScore (x : ℚ) : Score := ⟨max 0 (min 1 x), clamp_mem x⟩

theorem one_mem : (0 : ℚ) ≤ 1 ∧ (1 : ℚ) ≤ 1 := by norm_num

def Score.one : Score := ⟨1, one_mem⟩

theorem nearest_seven_tenths :
    0 ≤ Binary64.nearest (7 / 10) ∧ Binary64.nearest (7 / 10) ≤ 1 :=
  ⟨Binary64.nearest_nonneg (by norm_num), by decide +kernel⟩

theorem nearest_eight_tenths :
    0 ≤ Binary64.nearest (8 / 10) ∧ Binary64.nearest (8 / 10) ≤ 1 :=
  ⟨Binary64.nearest_nonneg (by norm_num), by decide +kernel⟩

/-- The importance of a type: 1.0, 0.7 and 0.8. -/
def importanceOf : MemoryType → Score
  | .working => Score.one
  | .episodic => ⟨Binary64.nearest (7 / 10), nearest_seven_tenths⟩
  | .semantic => ⟨Binary64.nearest (8 / 10), nearest_eight_tenths⟩

/-- An accepted row of the evidence of a run. -/
structure AcceptedEvidence where
  id : UUID
  claim : String
  claimId : Option UUID
  snapshotId : Option UUID
  evidenceScore : ℚ
  deriving DecidableEq

/-- What the items of one capture share: the run, its owner, the time, and
the ids that are drawn. -/
structure CaptureContext where
  runId : UUID
  ownerHash : String
  now : ℤ
  draw : Fingerprint → UUID

/-- The row that `_insert_if_absent` adds. -/
def CaptureContext.item (context : CaptureContext) (memoryType : MemoryType)
    (contentSummary : String) (sourceRefIds : List MemoryRef)
    (confidence : Score) (fingerprint : Fingerprint) : MemoryItem where
  id := context.draw fingerprint
  originRunId := context.runId
  ownerHash := context.ownerHash
  memoryType
  contentSummary
  sourceRefIds
  confidence
  importance := importanceOf memoryType
  fingerprint
  expiresAt := expiresAt memoryType context.now
  createdAt := context.now
  updatedAt := context.now

/-- The fingerprint of the working memory of a state. -/
def workingFingerprint (state : ResearchState) : Fingerprint :=
  .working state.stateVersion (workingSummary state)

/-- The working item of a state. -/
def CaptureContext.workingItem (context : CaptureContext)
    (state : ResearchState) : MemoryItem :=
  context.item .working (workingSummary state) (stateRefs state) Score.one
    (workingFingerprint state)

/-- The episodic item of a node. -/
def CaptureContext.episodicItem (context : CaptureContext)
    (state : ResearchState) (nodeName : String) : MemoryItem :=
  context.item .episodic (episodicSummary state nodeName)
    [.state state.stateVersion, .node nodeName] Score.one
    (.episodic nodeName state.stateVersion)

/-- The semantic item of an accepted evidence. -/
def CaptureContext.semanticItem (context : CaptureContext)
    (evidence : AcceptedEvidence) : MemoryItem :=
  context.item .semantic evidence.claim
    [.evidence evidence.id, .claim evidence.claimId,
      .snapshot evidence.snapshotId]
    (clampScore evidence.evidenceScore) (.semantic evidence.id)

/-- What a capture inserts, where it is absent. -/
def CaptureContext.items (context : CaptureContext) (state : ResearchState)
    (nodeName : String) (evidence : List AcceptedEvidence) :
    List MemoryItem :=
  context.workingItem state :: context.episodicItem state nodeName
    :: evidence.map context.semanticItem

/-- `_insert_if_absent`. -/
def insertIfAbsent (items : List MemoryItem) (new : MemoryItem) :
    List MemoryItem :=
  if (Table.lookup MemoryItem.key new.key items).isSome then items
  else items ++ [new]

/-- A row is the active working memory of a run. -/
def MemoryItem.isWorkingOf (runId : UUID) (item : MemoryItem) : Bool :=
  item.originRunId = runId && item.memoryType = .working
    && item.status = .active

/-- The update that a capture begins with. -/
def supersedeWorking (runId : UUID) (now : ℤ) (item : MemoryItem) :
    MemoryItem :=
  if item.isWorkingOf runId then
    { item with
      status := .superseded
      updatedAt := now }
  else item

-- ========================================================== the projection

/-- `values` of `rebuild_memory`. -/
def MemoryItem.document (item : MemoryItem) : MemorySearchDocument where
  memoryId := item.id
  scopeId := item.originRunId
  memoryType := item.memoryType
  status := item.status
  text := item.contentSummary
  confidence := item.confidence
  importance := item.importance
  expiresAt := item.expiresAt

/-- The rows a rebuild is for: those of an owner, or all. -/
def MemoryItem.isRebuiltFor (ownerHash : Option String) (item : MemoryItem) :
    Bool :=
  ownerHash.all (item.ownerHash = ·)

/-- The documents a rebuild does not delete. Without an owner all of them
are deleted, where there are rows. -/
def keptDocuments (ownerHash : Option String) (rows : List MemoryItem)
    (documents : List MemorySearchDocument) : List MemorySearchDocument :=
  match ownerHash with
  | some _ =>
      documents.filter fun document =>
        !((rows.map MemoryItem.originRunId).contains document.scopeId)
  | none => if rows.isEmpty then documents else []

/-- `rebuild_memory`: the documents of the owner's runs are deleted, and
one is upserted for each row. -/
def rebuildMemory (ownerHash : Option String) (items : List MemoryItem)
    (documents : List MemorySearchDocument) : List MemorySearchDocument :=
  let rows := items.filter (·.isRebuiltFor ownerHash)
  Table.upsertAll MemorySearchDocument.memoryId (fun new _ => new)
    (keptDocuments ownerHash rows documents) (rows.map MemoryItem.document)

theorem keptDocuments_sublist (ownerHash : Option String)
    (rows : List MemoryItem) (documents : List MemorySearchDocument) :
    (keptDocuments ownerHash rows documents).Sublist documents := by
  unfold keptDocuments
  split
  · exact List.filter_sublist
  · split
    · exact List.Sublist.refl documents
    · exact List.nil_sublist documents

theorem nodup_rebuildMemory (ownerHash : Option String)
    (items : List MemoryItem) {documents : List MemorySearchDocument}
    (h : (documents.map MemorySearchDocument.memoryId).Nodup) :
    ((rebuildMemory ownerHash items documents).map
      MemorySearchDocument.memoryId).Nodup := by
  apply Table.nodup_upsertAll
  · intro new r heq
    exact heq.symm
  · exact h.sublist ((keptDocuments_sublist ownerHash _ documents).map _)

namespace MemoryStore

/-- The items after a capture. -/
def captured (s : MemoryStore) (context : CaptureContext)
    (state : ResearchState) (nodeName : String)
    (evidence : List AcceptedEvidence) : List MemoryItem :=
  (context.items state nodeName evidence).foldl insertIfAbsent
    (s.items.map (supersedeWorking context.runId context.now))

/-- `capture_state`, or nothing where it raises. A run that there is not
has no memory. -/
def captureState (s : MemoryStore) (draw : Fingerprint → UUID)
    (state : ResearchState) (nodeName : String)
    (evidence : List AcceptedEvidence) (now : ℤ) : Option MemoryStore :=
  match s.owner? state.runId with
  | none => some s
  | some ownerHash =>
      let items := s.captured ⟨state.runId, ownerHash, now, draw⟩ state
        nodeName evidence
      if h : (items.map MemoryItem.id).Nodup
          ∧ (items.map MemoryItem.key).Nodup then
        some
          { s with
            items
            documents := rebuildMemory (some ownerHash) items s.documents
            ids_nodup := h.1
            keys_nodup := h.2
            documents_nodup :=
              nodup_rebuildMemory (some ownerHash) items s.documents_nodup }
      else none

/-- A rebuild of its own, of an owner's documents or of all
(`scripts/rebuild_retrieval_projections.py`). -/
def rebuild (s : MemoryStore) (ownerHash : Option String) : MemoryStore :=
  { s with
    documents := rebuildMemory ownerHash s.items s.documents
    documents_nodup :=
      nodup_rebuildMemory ownerHash s.items s.documents_nodup }

end MemoryStore

-- ============================================================ the lifecycle

/-- The literal 0.35. -/
def forgottenBelow : ℚ := Binary64.nearest (35 / 100)

/-- The condition of the first update of `apply_lifecycle`. -/
def MemoryItem.expired (now : ℤ) (item : MemoryItem) : Bool :=
  item.status = .active && item.expiresAt.any (· ≤ now)

/-- The condition of the second one. -/
def MemoryItem.unused (now : ℤ) (item : MemoryItem) : Bool :=
  item.status = .active && item.memoryType ≠ .working
    && item.importance.val < forgottenBelow && item.accessCount = 0
    && item.updatedAt < now - days 30

/-- An update of the status of some rows. -/
def MemoryItem.retire (status : MemoryStatus) (now : ℤ)
    (condition : MemoryItem → Bool) (item : MemoryItem) : MemoryItem :=
  if condition item then
    { item with
      status
      updatedAt := now }
  else item

theorem retire_id (status : MemoryStatus) (now : ℤ)
    (condition : MemoryItem → Bool) (item : MemoryItem) :
    (item.retire status now condition).id = item.id := by
  unfold MemoryItem.retire
  split <;> rfl

theorem retire_key (status : MemoryStatus) (now : ℤ)
    (condition : MemoryItem → Bool) (item : MemoryItem) :
    (item.retire status now condition).key = item.key := by
  unfold MemoryItem.retire
  split <;> rfl

/-- Rows that are updated in place keep what is not written. -/
theorem nodup_map_update {κ : Type} {field : MemoryItem → κ}
    {update : MemoryItem → MemoryItem}
    (hfield : ∀ item, field (update item) = field item)
    {items : List MemoryItem} (h : (items.map field).Nodup) :
    ((items.map update).map field).Nodup := by
  have heq : field ∘ update = field := funext hfield
  rw [List.map_map, heq]
  exact h

namespace MemoryStore

/-- A store whose items are updated in place. -/
def updateItems (s : MemoryStore) (update : MemoryItem → MemoryItem)
    (hid : ∀ item, (update item).id = item.id)
    (hkey : ∀ item, (update item).key = item.key) : MemoryStore :=
  { s with
    items := s.items.map update
    ids_nodup := nodup_map_update hid s.ids_nodup
    keys_nodup := nodup_map_update hkey s.keys_nodup }

/-- `update` of `status`, and its row count. -/
def retire (s : MemoryStore) (status : MemoryStatus) (now : ℤ)
    (condition : MemoryItem → Bool) : MemoryStore × Nat :=
  (s.updateItems (MemoryItem.retire status now condition)
      (retire_id status now condition) (retire_key status now condition),
    (s.items.filter condition).length)

/-- `apply_lifecycle`: the store, and how many items have become stale and
how many forgotten. -/
def applyLifecycle (s : MemoryStore) (now : ℤ) :
    MemoryStore × Nat × Nat :=
  let stale := s.retire .stale now (MemoryItem.expired now)
  let forgotten := stale.1.retire .forgotten now (MemoryItem.unused now)
  (forgotten.1, stale.2, forgotten.2)

end MemoryStore

-- ============================================================ the retrieval

/-- What PostgreSQL makes of a query and the text of a document:
`ts_rank_cd` where the text matches, and `similarity`. -/
structure TextSearch where
  lexical : String → String → Option ℚ
  similarity : String → String → ℚ

/-- `filters`, on a row of the join. -/
def eligible (ownerHash : String) (memoryTypes : List MemoryType) (now : ℤ)
    (row : MemoryItem × MemorySearchDocument) : Bool :=
  row.1.ownerHash = ownerHash && row.1.status = .active
    && row.1.memoryType ∈ memoryTypes && row.2.status = .active
    && row.2.expiresAt.all (now < ·)

/-- The order of two ranked rows: by rank, downwards, then by id. -/
def before (a b : MemoryItem × ℚ) : Bool :=
  b.2 < a.2 || a.2 = b.2 && a.1.id.toNat ≤ b.1.id.toNat

/-- `order_by(rank.desc(), MemoryItemRow.id).limit(50)`. -/
def rankedRows (rank : String → Option ℚ)
    (rows : List (MemoryItem × MemorySearchDocument)) : List MemoryItem :=
  (((rows.filterMap fun row => (rank row.2.text).map (row.1, ·)).mergeSort
    before).take 50).map Prod.fst

/-- `fuzzy_score >= 0.05`. -/
def fuzzyRank (search : TextSearch) (query text : String) : Option ℚ :=
  if Binary64.nearest (5 / 100) ≤ search.similarity query text then
    some (search.similarity query text)
  else none

/-- The terms of one list of `reciprocal_rank_fusion`. -/
def rankTerms (ids : List UUID) : List (UUID × ℚ) :=
  ids.zipIdx.map fun entry =>
    (entry.1, Binary64.nearest (1 / (60 + (entry.2 + 1 : ℕ))))

/-- `reciprocal_rank_fusion`. -/
def reciprocalRankFusion (rankedLists : List (List UUID)) :
    List (UUID × ℚ) :=
  Table.upsertAll Prod.fst
    (fun new old => (old.1, Binary64.nearest (old.2 + new.2))) []
    (rankedLists.flatMap rankTerms)

/-- `maximum_rrf`. -/
def maximumRrf : ℚ := Binary64.nearest (2 / 61)

/-- The score of a candidate. -/
def retrievalScore (runId : UUID) (item : MemoryItem) (rrf : ℚ) : ℚ :=
  let lexical := Binary64.nearest (Binary64.nearest (65 / 100)
    * min 1 (Binary64.nearest (rrf / maximumRrf)))
  let confidence := Binary64.nearest (Binary64.nearest (20 / 100)
    * item.confidence.val)
  let importance := Binary64.nearest (Binary64.nearest (10 / 100)
    * item.importance.val)
  let own := if item.originRunId = runId then Binary64.nearest (5 / 100)
    else 0
  min 1 (Binary64.nearest (Binary64.nearest
    (Binary64.nearest (lexical + confidence) + importance) + own))

/-- An item of a retrieval, with `revalidation_required`. -/
structure MemoryItemView where
  item : MemoryItem
  revalidationRequired : Bool
  deriving DecidableEq

/-- `MemoryRetrievalResult`. -/
structure MemoryRetrievalResult where
  items : List MemoryItemView
  hit : Bool
  deriving DecidableEq

/-- What a retrieval writes to a row that it selects. -/
def MemoryItem.accessed (now : ℤ) (item : MemoryItem) : MemoryItem :=
  { item with
    lastAccessedAt := some now
    accessCount := item.accessCount + 1
    updatedAt := now }

/-- The rows of a retrieval after it. -/
def MemoryItem.accessedIn (ids : List UUID) (now : ℤ) (item : MemoryItem) :
    MemoryItem :=
  if ids.contains item.id then item.accessed now else item

theorem accessedIn_id (ids : List UUID) (now : ℤ) (item : MemoryItem) :
    (item.accessedIn ids now).id = item.id := by
  unfold MemoryItem.accessedIn
  split <;> rfl

theorem accessedIn_key (ids : List UUID) (now : ℤ) (item : MemoryItem) :
    (item.accessedIn ids now).key = item.key := by
  unfold MemoryItem.accessedIn
  split <;> rfl

/-- `scored`, in its order. -/
def scoredItems (search : TextSearch) (runId : UUID) (query : String)
    (rows : List (MemoryItem × MemorySearchDocument)) :
    List (MemoryItem × ℚ) :=
  let lexical := rankedRows (search.lexical query) rows
  let fuzzy := rankedRows (fuzzyRank search query) rows
  let fused := reciprocalRankFusion
    [lexical.map MemoryItem.id, fuzzy.map MemoryItem.id]
  (fused.filterMap fun entry =>
    (Table.lookup MemoryItem.id entry.1 (lexical ++ fuzzy)).map fun item =>
      (item, retrievalScore runId item entry.2)).mergeSort before

/-- `max(1, min(top_k, 20))`. -/
def selectionSize (topK : ℤ) : Nat := (max 1 (min topK 20)).toNat

/-- `selected`. -/
def selectedItems (topK : ℤ) (scored : List (MemoryItem × ℚ)) :
    List MemoryItem :=
  (scored.take (selectionSize topK)).map Prod.fst

/-- `_item_view` of a selected row. -/
def MemoryItem.view (runId : UUID) (now : ℤ) (item : MemoryItem) :
    MemoryItemView where
  item := item.accessed now
  revalidationRequired := item.originRunId ≠ runId

namespace MemoryStore

/-- The rows of the join that pass the filters. -/
def candidates (s : MemoryStore) (ownerHash : String)
    (memoryTypes : List MemoryType) (now : ℤ) :
    List (MemoryItem × MemorySearchDocument) :=
  s.items.filterMap fun item =>
    ((Table.lookup MemorySearchDocument.memoryId item.id s.documents).map
      fun document => (item, document)).filter
        (eligible ownerHash memoryTypes now)

/-- `retrieve_for_run`, for the query or else the goal of the run, its
blanks joined; or nothing where it raises. -/
def retrieveForRun (s : MemoryStore) (search : TextSearch) (runId : UUID)
    (query : String) (memoryTypes : List MemoryType) (topK now : ℤ) :
    Option (MemoryStore × MemoryRetrievalResult) :=
  (s.owner? runId).map fun ownerHash =>
    let scored := scoredItems search runId query
      (s.candidates ownerHash memoryTypes now)
    let selected := selectedItems topK scored
    let ids := selected.map MemoryItem.id
    let access : MemoryAccessLog :=
      { runId
        query
        requestedTypes := memoryTypes
        candidateIds := scored.map (·.1.id)
        selectedIds := ids
        hit := selected ≠ []
        revalidationRequiredCount :=
          (selected.filter (·.originRunId ≠ runId)).length
        createdAt := now }
    ({ s.updateItems (MemoryItem.accessedIn ids now)
          (accessedIn_id ids now) (accessedIn_key ids now) with
        accesses := s.accesses ++ [access] },
      { items := selected.map (MemoryItem.view runId now)
        hit := selected ≠ [] })

end MemoryStore

-- ================================================================== the runs

/-- The transactions on the memory. -/
inductive MemoryTransaction
  | createRun (runId : UUID) (ownerHash : String)
  | captureState (draw : Fingerprint → UUID) (state : ResearchState)
      (nodeName : String) (evidence : List AcceptedEvidence) (now : ℤ)
  | retrieveForRun (runId : UUID) (query : String)
      (memoryTypes : List MemoryType) (topK now : ℤ)
  | applyLifecycle (now : ℤ)
  | rebuildMemory (ownerHash : Option String)

/-- A transaction, or nothing where it raises. -/
def MemoryTransaction.apply (search : TextSearch) (s : MemoryStore) :
    MemoryTransaction → Option MemoryStore
  | .createRun runId ownerHash =>
      if (s.owner? runId).isSome then none
      else some { s with owners := s.owners ++ [(runId, ownerHash)] }
  | .captureState draw state nodeName evidence now =>
      s.captureState draw state nodeName evidence now
  | .retrieveForRun runId query memoryTypes topK now =>
      (s.retrieveForRun search runId query memoryTypes topK now).map
        Prod.fst
  | .applyLifecycle now => some (s.applyLifecycle now).1
  | .rebuildMemory ownerHash => some (s.rebuild ownerHash)

/-- A memory without rows. -/
def MemoryStore.empty : MemoryStore where
  items := []
  documents := []
  ids_nodup := List.nodup_nil
  keys_nodup := List.nodup_nil
  documents_nodup := List.nodup_nil

/-- A transaction that raises leaves the memory as it is. -/
def memorySystem (search : TextSearch) :
    Transition.System MemoryStore MemoryTransaction where
  init s := s = .empty
  step s transaction := (transaction.apply search s).getD s

end DeepResearch.Memory
