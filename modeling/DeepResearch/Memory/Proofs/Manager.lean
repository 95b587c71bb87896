/-
What the research memory keeps over any transactions.

# Items

An item never changes but in its status, its access figures and its time
of update, and its status leaves `active` once (`Retains`). So a run has
at most one active working item, and what was retired is never retrieved
again. No item is as unimportant as the lifecycle asks for, so it forgets
none (`lifecycle_forgets_nothing`).

# Documents

The lifecycle and the retrievals leave the documents as they are, and a
capture rebuilds those of one owner. The document of an active item is
nevertheless the one that would be made of it now (`Documented`), so a
retrieval answers as if the projection had just been rebuilt
(`retrieval_as_if_rebuilt`).
-/
import DeepResearch.Memory.Manager

namespace DeepResearch.Memory

open DeepResearch.State (ResearchState UUID)

-- ============================================================= the updates

/-- What no update of an item writes. -/
def MemoryItem.content (item : MemoryItem) : MemoryItem :=
  { item with
    status := .active
    accessCount := 0
    lastAccessedAt := none
    updatedAt := 0 }

/-- What an update makes of an item. -/
structure Retains (item item' : MemoryItem) : Prop where
  content : item'.content = item.content
  status : item'.status = item.status
    ∨ item.status = .active ∧ item'.status ≠ .active
  accessCount : item.accessCount ≤ item'.accessCount

section

variable {item item' item'' : MemoryItem} {runId : UUID} {now : ℤ}

theorem Retains.refl (item : MemoryItem) : Retains item item :=
  ⟨rfl, .inl rfl, Nat.le_refl _⟩

theorem Retains.trans (h : Retains item item')
    (h' : Retains item' item'') : Retains item item'' where
  content := h'.content.trans h.content
  status := by
    rcases h.status with heq | hleft
    · rw [← heq]
      exact h'.status
    · rcases h'.status with heq' | hleft'
      · exact .inr ⟨hleft.1, heq' ▸ hleft.2⟩
      · exact absurd hleft'.1 hleft.2
  accessCount := h.accessCount.trans h'.accessCount

/-- The id is part of the content that stays. -/
theorem Retains.id_eq (h : Retains item item') : item'.id = item.id := by
  show item'.content.id = item.content.id
  rw [h.content]

theorem Retains.originRunId_eq (h : Retains item item') :
    item'.originRunId = item.originRunId := by
  show item'.content.originRunId = item.content.originRunId
  rw [h.content]

theorem Retains.ownerHash_eq (h : Retains item item') :
    item'.ownerHash = item.ownerHash := by
  show item'.content.ownerHash = item.content.ownerHash
  rw [h.content]

theorem Retains.importance_eq (h : Retains item item') :
    item'.importance = item.importance := by
  show item'.content.importance = item.content.importance
  rw [h.content]

/-- No update makes an item active again. -/
theorem Retains.active (h : Retains item item')
    (hactive : item'.status = .active) : item.status = .active := by
  rcases h.status with heq | hleft
  · rw [← heq]
    exact hactive
  · exact hleft.1

/-- A working item was one before. -/
theorem Retains.isWorkingOf (h : Retains item item')
    (hworking : item'.isWorkingOf runId = true) :
    item.isWorkingOf runId = true := by
  unfold MemoryItem.isWorkingOf at hworking ⊢
  simp only [Bool.and_eq_true, decide_eq_true_eq] at hworking ⊢
  have htype : item'.memoryType = item.memoryType := by
    show item'.content.memoryType = item.content.memoryType
    rw [h.content]
  rw [← h.originRunId_eq, ← htype]
  exact ⟨hworking.1, h.active hworking.2⟩

/-- A capture supersedes; it changes nothing else of an item. -/
theorem supersedeWorking_retains (runId : UUID) (now : ℤ)
    (item : MemoryItem) : Retains item (supersedeWorking runId now item) := by
  unfold supersedeWorking
  split
  case isFalse => exact .refl item
  case isTrue h =>
    unfold MemoryItem.isWorkingOf at h
    simp only [Bool.and_eq_true, decide_eq_true_eq] at h
    exact ⟨rfl, .inr ⟨h.2, by simp⟩, Nat.le_refl _⟩

/-- A retirement to a status other than active, of active items only, keeps
what an item holds. -/
theorem retire_retains {status : MemoryStatus} {now : ℤ}
    {condition : MemoryItem → Bool} (hstatus : status ≠ .active)
    (hcondition : ∀ item, condition item = true → item.status = .active)
    (item : MemoryItem) : Retains item (item.retire status now condition) := by
  unfold MemoryItem.retire
  split
  case isFalse => exact .refl item
  case isTrue h => exact ⟨rfl, .inr ⟨hcondition item h, hstatus⟩, Nat.le_refl _⟩

/-- An access moves the times and the count of uses only. -/
theorem accessedIn_retains (ids : List UUID) (now : ℤ)
    (item : MemoryItem) : Retains item (item.accessedIn ids now) := by
  unfold MemoryItem.accessedIn
  split
  case isFalse => exact .refl item
  case isTrue => exact ⟨rfl, .inl rfl, Nat.le_succ _⟩

/-- Only an active item expires. -/
theorem active_of_expired (h : item.expired now = true) :
    item.status = .active := by
  unfold MemoryItem.expired at h
  simp only [Bool.and_eq_true, decide_eq_true_eq] at h
  exact h.1

/-- Only an active item is forgotten. -/
theorem active_of_unused (h : item.unused now = true) :
    item.status = .active := by
  unfold MemoryItem.unused at h
  simp only [Bool.and_eq_true, decide_eq_true_eq] at h
  exact h.1.1.1.1

/-- The two updates of the lifecycle. -/
theorem expire_retains (now : ℤ) (item : MemoryItem) :
    Retains item (item.retire .stale now (MemoryItem.expired now)) := by
  apply retire_retains
  · simp
  · intro item hitem
    exact active_of_expired hitem

theorem forget_retains (now : ℤ) (item : MemoryItem) :
    Retains item (item.retire .forgotten now (MemoryItem.unused now)) := by
  apply retire_retains
  · simp
  · intro item hitem
    exact active_of_unused hitem

/-- No item is as unimportant. -/
theorem forgottenBelow_le_importanceOf (memoryType : MemoryType) :
    forgottenBelow ≤ (importanceOf memoryType).val := by
  cases memoryType with
  | working =>
      show Binary64.nearest (35 / 100) ≤ 1
      decide +kernel
  | episodic =>
      show Binary64.nearest (35 / 100) ≤ Binary64.nearest (7 / 10)
      decide +kernel
  | semantic =>
      show Binary64.nearest (35 / 100) ≤ Binary64.nearest (8 / 10)
      decide +kernel

end

-- ========================================================== the insertions

/-- The unique key does not contain the status. -/
theorem supersedeWorking_key (runId : UUID) (now : ℤ) (item : MemoryItem) :
    (supersedeWorking runId now item).key = item.key := by
  unfold supersedeWorking
  split <;> rfl

/-- What is inserted comes behind the rows that are there. -/
theorem foldl_insertIfAbsent (news items : List MemoryItem) :
    ∃ added, news.foldl insertIfAbsent items = items ++ added
      ∧ added.Sublist news := by
  induction news generalizing items with
  | nil => exact ⟨[], (List.append_nil _).symm, List.Sublist.slnil⟩
  | cons new news ih =>
      obtain ⟨added, hadded, hsublist⟩ := ih (insertIfAbsent items new)
      rw [List.foldl_cons, hadded]
      unfold insertIfAbsent
      split
      case isTrue => exact ⟨added, rfl, hsublist.cons new⟩
      case isFalse =>
        refine ⟨new :: added, ?_, hsublist.cons_cons new⟩
        rw [List.append_assoc, List.singleton_append]

section

variable {context : CaptureContext} {state : ResearchState}
  {nodeName : String} {evidence : List AcceptedEvidence}
  {item : MemoryItem}

/-- The items of a capture are of its run and its owner, and active. -/
theorem mem_capture_items
    (h : item ∈ context.items state nodeName evidence) :
    item.originRunId = context.runId ∧ item.ownerHash = context.ownerHash
      ∧ item.status = .active
      ∧ item.importance = importanceOf item.memoryType := by
  unfold CaptureContext.items at h
  simp only [List.mem_cons, List.mem_map] at h
  rcases h with rfl | rfl | ⟨e, -, rfl⟩
  · exact ⟨rfl, rfl, rfl, rfl⟩
  · exact ⟨rfl, rfl, rfl, rfl⟩
  · exact ⟨rfl, rfl, rfl, rfl⟩

/-- A row after a capture is an old one or one of the capture. -/
theorem mem_captured {s : MemoryStore}
    (h : item ∈ s.captured context state nodeName evidence) :
    (∃ old ∈ s.items,
        item = supersedeWorking context.runId context.now old)
      ∨ item ∈ context.items state nodeName evidence := by
  obtain ⟨added, hadded, hsublist⟩ := foldl_insertIfAbsent
    (context.items state nodeName evidence)
    (s.items.map (supersedeWorking context.runId context.now))
  unfold MemoryStore.captured at h
  rw [hadded] at h
  rcases List.mem_append.mp h with h | h
  · obtain ⟨old, hold, heq⟩ := List.mem_map.mp h
    exact .inl ⟨old, hold, heq.symm⟩
  · exact .inr (hsublist.subset h)

/-- Every row is there after a capture, updated. -/
theorem supersede_mem_captured {s : MemoryStore} (h : item ∈ s.items) :
    supersedeWorking context.runId context.now item
      ∈ s.captured context state nodeName evidence := by
  obtain ⟨added, hadded, -⟩ := foldl_insertIfAbsent
    (context.items state nodeName evidence)
    (s.items.map (supersedeWorking context.runId context.now))
  unfold MemoryStore.captured
  rw [hadded]
  exact List.mem_append_left _ (List.mem_map_of_mem h)

end

-- ============================================================ the documents

/-- The document of an item, which may be from before it was retired. -/
def MemoryItem.Documented (documents : List MemorySearchDocument)
    (item : MemoryItem) : Prop :=
  ∃ status,
    Table.lookup MemorySearchDocument.memoryId item.id documents
        = some { item.document with status }
      ∧ (item.status = .active → status = .active)

section

variable {ownerHash : Option String} {items : List MemoryItem}
  {documents : List MemorySearchDocument} {item : MemoryItem}

/-- A document is found by what an item retains, so no update loses it. -/
theorem MemoryItem.Documented.of_retains {item' : MemoryItem}
    (h : item.Documented documents) (hretains : Retains item item') :
    item'.Documented documents := by
  obtain ⟨status, hlookup, hactive⟩ := h
  refine ⟨status, ?_, fun h => hactive (hretains.active h)⟩
  have hdocument : { item'.document with status }
      = { item.content.document with status } := by
    rw [← hretains.content]
    rfl
  rw [hretains.id_eq, hdocument]
  exact hlookup

/-- The documents of some rows have distinct keys. -/
theorem nodup_rowDocuments (hids : (items.map MemoryItem.id).Nodup)
    (p : MemoryItem → Bool) :
    (((items.filter p).map MemoryItem.document).map
      MemorySearchDocument.memoryId).Nodup := by
  rw [List.map_map]
  exact hids.sublist (List.filter_sublist.map MemoryItem.id)

/-- The rows a rebuild is for get their documents. -/
theorem lookup_rebuildMemory_own (hids : (items.map MemoryItem.id).Nodup)
    (hmem : item ∈ items) (hown : item.isRebuiltFor ownerHash = true) :
    Table.lookup MemorySearchDocument.memoryId item.id
      (rebuildMemory ownerHash items documents) = some item.document := by
  have hkeys := nodup_rowDocuments hids (·.isRebuiltFor ownerHash)
  have hrow : item.document
      ∈ (items.filter (·.isRebuiltFor ownerHash)).map MemoryItem.document :=
    List.mem_map_of_mem (List.mem_filter.mpr ⟨hmem, hown⟩)
  have hnew := Table.lookup_of_mem hkeys hrow
  unfold rebuildMemory
  rw [Table.lookup_upsertAll (fun new r heq => heq.symm) hkeys]
  have hid : item.document.memoryId = item.id := rfl
  rw [← hid, hnew, Option.elim_some]
  cases Table.lookup MemorySearchDocument.memoryId item.document.memoryId
    (keptDocuments ownerHash (items.filter (·.isRebuiltFor ownerHash))
      documents) with
  | none => rfl
  | some old => rfl

/-- The rows of other owners keep theirs. -/
theorem lookup_rebuildMemory_other
    (hdocuments :
      (documents.map MemorySearchDocument.memoryId).Nodup)
    (hids : (items.map MemoryItem.id).Nodup) (hmem : item ∈ items)
    (hother : item.isRebuiltFor ownerHash = false)
    (hruns : ∀ row ∈ items, row.isRebuiltFor ownerHash = true →
      row.originRunId ≠ item.originRunId)
    {document : MemorySearchDocument}
    (hscope : document.scopeId = item.originRunId)
    (hlookup : Table.lookup MemorySearchDocument.memoryId item.id documents
      = some document) :
    Table.lookup MemorySearchDocument.memoryId item.id
      (rebuildMemory ownerHash items documents) = some document := by
  have hkeys := nodup_rowDocuments hids (·.isRebuiltFor ownerHash)
  -- The item is not one of the rows, so nothing is upserted for it.
  have hnone : Table.lookup MemorySearchDocument.memoryId item.id
      ((items.filter (·.isRebuiltFor ownerHash)).map MemoryItem.document)
      = none := by
    rw [Table.lookup_eq_none_iff]
    intro other hother' heq
    obtain ⟨row, hrow, rfl⟩ := List.mem_map.mp hother'
    obtain ⟨hrow, hrowner⟩ := List.mem_filter.mp hrow
    have hsame : row = item :=
      List.inj_on_of_nodup_map hids hrow hmem heq
    rw [hsame, hother] at hrowner
    cases hrowner
  obtain ⟨hold, hkey⟩ := Table.mem_of_lookup hlookup
  -- And its document is not deleted: its run is of no row.
  have hkept : document ∈ keptDocuments ownerHash
      (items.filter (·.isRebuiltFor ownerHash)) documents := by
    unfold keptDocuments
    cases ownerHash with
    | none => cases hother
    | some owner =>
        refine List.mem_filter.mpr ⟨hold, ?_⟩
        rw [Bool.not_eq_true', List.contains_eq_mem,
          decide_eq_false_iff_not]
        intro hscoped
        obtain ⟨row, hrow, heq⟩ := List.mem_map.mp hscoped
        obtain ⟨hrow, hrowner⟩ := List.mem_filter.mp hrow
        exact hruns row hrow hrowner (heq.trans hscope)
  unfold rebuildMemory
  rw [Table.lookup_upsertAll (fun new r heq => heq.symm) hkeys, hnone,
    Option.elim_none, ← hkey]
  exact Table.lookup_of_mem (hdocuments.sublist
    ((keptDocuments_sublist ownerHash _ documents).map _)) hkept

/-- Every row has its document after a rebuild: the rows it is for, and
the others where they had theirs. A run has one owner. -/
theorem documented_rebuildMemory {owner? : UUID → Option String}
    (howned : ∀ row ∈ items, owner? row.originRunId = some row.ownerHash)
    (hids : (items.map MemoryItem.id).Nodup)
    (hdocuments : (documents.map MemorySearchDocument.memoryId).Nodup)
    (hmem : item ∈ items)
    (hkept : item.isRebuiltFor ownerHash = false →
      item.Documented documents) :
    item.Documented (rebuildMemory ownerHash items documents) := by
  cases hown : item.isRebuiltFor ownerHash with
  | true =>
      exact ⟨item.status, lookup_rebuildMemory_own hids hmem hown,
        fun hactive => hactive⟩
  | false =>
      obtain ⟨status, hlookup, hactive⟩ := hkept hown
      refine ⟨status, ?_, hactive⟩
      refine lookup_rebuildMemory_other hdocuments hids hmem hown ?_ rfl
        hlookup
      intro row hrow hrowOwner hsame
      have howner := howned row hrow
      rw [hsame, howned item hmem] at howner
      have hsameOwner : item.isRebuiltFor ownerHash
          = row.isRebuiltFor ownerHash := by
        unfold MemoryItem.isRebuiltFor
        rw [Option.some.inj howner]
      rw [hsameOwner, hrowOwner] at hown
      cases hown

end

-- =========================================================== the invariant

/-- What holds of every memory that transactions lead to. -/
structure MemoryStore.Sound (s : MemoryStore) : Prop where
  owned : ∀ item ∈ s.items,
    s.owner? item.originRunId = some item.ownerHash
  working : ∀ runId, s.items.countP (·.isWorkingOf runId) ≤ 1
  important : ∀ item ∈ s.items, forgottenBelow ≤ item.importance.val
  unforgotten : ∀ item ∈ s.items, item.status ≠ .forgotten
  documented : ∀ item ∈ s.items, item.Documented s.documents

section

variable {s s' : MemoryStore} {now : ℤ}

/-- A rebuild changes the documents only. -/
theorem MemoryStore.Sound.rebuild (h : s.Sound)
    (ownerHash : Option String) : (s.rebuild ownerHash).Sound where
  owned := h.owned
  working := h.working
  important := h.important
  unforgotten := h.unforgotten
  documented item hitem :=
    documented_rebuildMemory h.owned s.ids_nodup s.documents_nodup hitem
      fun _ => h.documented item hitem

/-- An update of the items in place. -/
theorem MemoryStore.Sound.updateItems (h : s.Sound)
    {update : MemoryItem → MemoryItem}
    (hid : ∀ item, (update item).id = item.id)
    (hkey : ∀ item, (update item).key = item.key)
    (hretains : ∀ item, Retains item (update item))
    (hstatus : ∀ item ∈ s.items, (update item).status ≠ .forgotten) :
    (s.updateItems update hid hkey).Sound where
  owned := by
    intro item hitem
    obtain ⟨old, hold, rfl⟩ := List.mem_map.mp hitem
    rw [(hretains old).originRunId_eq, (hretains old).ownerHash_eq]
    exact h.owned old hold
  working := by
    intro runId
    show (s.items.map update).countP _ ≤ 1
    rw [List.countP_map]
    refine le_trans (List.countP_mono_left fun item _ hworking => ?_)
      (h.working runId)
    exact (hretains item).isWorkingOf hworking
  important := by
    intro item hitem
    obtain ⟨old, hold, rfl⟩ := List.mem_map.mp hitem
    rw [(hretains old).importance_eq]
    exact h.important old hold
  unforgotten := by
    intro item hitem
    obtain ⟨old, hold, rfl⟩ := List.mem_map.mp hitem
    exact hstatus old hold
  documented := by
    intro item hitem
    obtain ⟨old, hold, rfl⟩ := List.mem_map.mp hitem
    exact (h.documented old hold).of_retains (hretains old)

/-- The second update of the lifecycle finds nothing. -/
theorem MemoryStore.Sound.not_unused (h : s.Sound) {item : MemoryItem}
    (hitem : item ∈ s.items) : item.unused now = false := by
  have himportant := h.important item hitem
  unfold MemoryItem.unused
  simp [not_lt.mpr himportant]

theorem MemoryStore.Sound.stale (h : s.Sound) (now : ℤ) :
    (s.retire .stale now (MemoryItem.expired now)).1.Sound := by
  refine h.updateItems (retire_id .stale now _) (retire_key .stale now _)
    (expire_retains now) ?_
  · intro item hitem
    unfold MemoryItem.retire
    split
    · simp
    · exact h.unforgotten item hitem

theorem MemoryStore.Sound.forget (h : s.Sound) (now : ℤ) :
    (s.retire .forgotten now (MemoryItem.unused now)).1.Sound := by
  refine h.updateItems (retire_id .forgotten now _) (retire_key .forgotten now _)
    (forget_retains now) ?_
  · intro item hitem
    unfold MemoryItem.retire
    rw [h.not_unused hitem]
    exact h.unforgotten item hitem

/-- The lifecycle retires twice, and each retirement keeps the store sound.
-/
theorem MemoryStore.Sound.applyLifecycle (h : s.Sound) (now : ℤ) :
    (s.applyLifecycle now).1.Sound :=
  (h.stale now).forget now

/-- A new run changes the owner of no other. -/
theorem owner?_append {runId other : UUID} {ownerHash other' : String}
    {owners : List (UUID × String)}
    (h : (Table.lookup Prod.fst runId owners).map Prod.snd
      = some ownerHash) :
    (Table.lookup Prod.fst runId (owners ++ [(other, other')])).map Prod.snd
      = some ownerHash := by
  unfold Table.lookup at h ⊢
  obtain ⟨entry, hfind, heq⟩ := Option.map_eq_some_iff.mp h
  rw [List.find?_append, hfind, Option.some_or]
  exact congrArg some heq

theorem MemoryStore.Sound.createRun (h : s.Sound) (runId : UUID)
    (ownerHash : String) :
    MemoryStore.Sound
      { s with owners := s.owners ++ [(runId, ownerHash)] } where
  owned item hitem := owner?_append (h.owned item hitem)
  working := h.working
  important := h.important
  unforgotten := h.unforgotten
  documented := h.documented

end

-- ============================================================== a capture

section

variable {s s' : MemoryStore} {context : CaptureContext}
  {state : ResearchState} {nodeName : String}
  {evidence : List AcceptedEvidence}

/-- No active working item is left where a capture begins. -/
theorem countP_supersede_own (items : List MemoryItem) (runId : UUID)
    (now : ℤ) :
    (items.map (supersedeWorking runId now)).countP (·.isWorkingOf runId)
      = 0 := by
  rw [List.countP_eq_zero]
  intro item hitem
  obtain ⟨old, -, rfl⟩ := List.mem_map.mp hitem
  unfold supersedeWorking
  split
  case isTrue => simp [MemoryItem.isWorkingOf]
  case isFalse hnot => exact hnot

/-- The items of a capture, less the working one, are no working items. -/
theorem not_working_of_mem_rest {item : MemoryItem} (runId : UUID)
    (h : item ∈ context.episodicItem state nodeName
      :: evidence.map context.semanticItem) :
    item.isWorkingOf runId = false := by
  rcases List.mem_cons.mp h with rfl | h
  · simp [MemoryItem.isWorkingOf, CaptureContext.episodicItem,
      CaptureContext.item]
  · obtain ⟨e, -, rfl⟩ := List.mem_map.mp h
    simp [MemoryItem.isWorkingOf, CaptureContext.semanticItem,
      CaptureContext.item]

/-- The active working items of a run after a capture. -/
theorem filter_working_captured (s : MemoryStore) (runId : UUID) :
    (s.captured context state nodeName evidence).filter
        (·.isWorkingOf runId)
      = (insertIfAbsent
          (s.items.map (supersedeWorking context.runId context.now))
          (context.workingItem state)).filter (·.isWorkingOf runId) := by
  obtain ⟨added, hadded, hsublist⟩ := foldl_insertIfAbsent
    (context.episodicItem state nodeName
      :: evidence.map context.semanticItem)
    (insertIfAbsent
      (s.items.map (supersedeWorking context.runId context.now))
      (context.workingItem state))
  have hnone : added.filter (·.isWorkingOf runId) = [] := by
    rw [List.filter_eq_nil_iff]
    intro item hitem
    simp [not_working_of_mem_rest runId (hsublist.subset hitem)]
  show List.filter _ (List.foldl insertIfAbsent _ (_ :: _)) = _
  rw [List.foldl_cons, hadded, List.filter_append, hnone, List.append_nil]

/-- The one of the run itself: the item of the state, if its fingerprint
is new, and otherwise none. -/
theorem filter_working_own (s : MemoryStore) (context : CaptureContext)
    (state : ResearchState) (nodeName : String)
    (evidence : List AcceptedEvidence) :
    (s.captured context state nodeName evidence).filter
        (·.isWorkingOf context.runId)
      = if (Table.lookup MemoryItem.key (context.workingItem state).key
          s.items).isSome then [] else [context.workingItem state] := by
  have hold : (s.items.map
      (supersedeWorking context.runId context.now)).filter
        (·.isWorkingOf context.runId) = [] := by
    rw [← List.length_eq_zero_iff, ← List.countP_eq_length_filter]
    exact countP_supersede_own s.items context.runId context.now
  rw [filter_working_captured]
  unfold insertIfAbsent
  rw [Table.lookup_map (supersedeWorking_key context.runId context.now),
    Option.isSome_map]
  split
  case isTrue => exact hold
  case isFalse =>
    rw [List.filter_append, hold, List.nil_append]
    simp [MemoryItem.isWorkingOf, CaptureContext.workingItem,
      CaptureContext.item]

/-- Those of other runs are the old ones. -/
theorem countP_working_other (s : MemoryStore) {runId : UUID}
    (hne : runId ≠ context.runId) :
    (s.captured context state nodeName evidence).countP
        (·.isWorkingOf runId)
      ≤ s.items.countP (·.isWorkingOf runId) := by
  have hnew : (context.workingItem state).isWorkingOf runId = false := by
    simp [MemoryItem.isWorkingOf, CaptureContext.workingItem,
      CaptureContext.item, hne.symm]
  have hold : (s.items.map
      (supersedeWorking context.runId context.now)).countP
        (·.isWorkingOf runId) ≤ s.items.countP (·.isWorkingOf runId) := by
    rw [List.countP_map]
    apply List.countP_mono_left
    intro item _ hworking
    exact (supersedeWorking_retains context.runId context.now
      item).isWorkingOf hworking
  rw [List.countP_eq_length_filter, filter_working_captured,
    ← List.countP_eq_length_filter]
  unfold insertIfAbsent
  split
  case isTrue => exact hold
  case isFalse => simpa [List.countP_append, hnew] using hold

/-- What a capture leaves where it returns. -/
theorem captureState_some {draw : Fingerprint → UUID} {now : ℤ}
    {ownerHash : String}
    (howner : s.owner? state.runId = some ownerHash)
    (h : s.captureState draw state nodeName evidence now = some s') :
    s'.owners = s.owners
      ∧ s'.items = s.captured ⟨state.runId, ownerHash, now, draw⟩ state
        nodeName evidence
      ∧ s'.documents = rebuildMemory (some ownerHash) s'.items s.documents := by
  unfold MemoryStore.captureState at h
  rw [howner] at h
  dsimp only at h
  split at h
  case isTrue =>
    injection h with heq
    rw [← heq]
    exact ⟨rfl, rfl, rfl⟩
  case isFalse => cases h

/-- The rows after a capture belong to the owners of their runs. -/
theorem MemoryStore.Sound.owned_captured (h : s.Sound)
    (howner : s.owner? context.runId = some context.ownerHash)
    {item : MemoryItem}
    (hitem : item ∈ s.captured context state nodeName evidence) :
    s.owner? item.originRunId = some item.ownerHash := by
  rcases mem_captured hitem with hold | hnew
  · obtain ⟨old, hold, rfl⟩ := hold
    have hretains :=
      supersedeWorking_retains context.runId context.now old
    rw [hretains.originRunId_eq, hretains.ownerHash_eq]
    exact h.owned old hold
  · obtain ⟨hrun, howned, -⟩ := mem_capture_items hnew
    rw [hrun, howned]
    exact howner

/-- Every row has its document after a capture: the owner's rows by the
rebuild, and the other rows have kept theirs. -/
theorem MemoryStore.Sound.documented_captured (h : s.Sound)
    (howner : s.owner? context.runId = some context.ownerHash)
    (hids : ((s.captured context state nodeName evidence).map
      MemoryItem.id).Nodup) {item : MemoryItem}
    (hitem : item ∈ s.captured context state nodeName evidence) :
    item.Documented (rebuildMemory (some context.ownerHash)
      (s.captured context state nodeName evidence) s.documents) := by
  refine documented_rebuildMemory
    (fun row hrow => h.owned_captured howner hrow) hids s.documents_nodup
    hitem fun hother => ?_
  rcases mem_captured hitem with hold | hnew
  · obtain ⟨old, hold, rfl⟩ := hold
    exact (h.documented old hold).of_retains
      (supersedeWorking_retains context.runId context.now old)
  · have hown := (mem_capture_items hnew).2.1
    rw [MemoryItem.isRebuiltFor, Option.all_some, hown] at hother
    simp at hother

/-- A capture keeps the store sound: old items retain what they hold, new
ones are active and documented by the rebuild at its end. -/
theorem MemoryStore.Sound.captureState (h : s.Sound)
    {draw : Fingerprint → UUID} {now : ℤ}
    (hcapture : s.captureState draw state nodeName evidence now
      = some s') : s'.Sound := by
  cases howner : s.owner? state.runId with
  | none =>
      unfold MemoryStore.captureState at hcapture
      rw [howner] at hcapture
      injection hcapture with heq
      rw [← heq]
      exact h
  | some ownerHash =>
      obtain ⟨howners, hitems, hdocuments⟩ :=
        captureState_some howner hcapture
      have hids := s'.ids_nodup
      rw [hitems] at hids hdocuments
      have howner' : ∀ runId, s'.owner? runId = s.owner? runId := by
        intro runId
        unfold MemoryStore.owner?
        rw [howners]
      constructor
      case owned =>
        intro item hitem
        rw [hitems] at hitem
        rw [howner']
        exact h.owned_captured howner hitem
      -- The run has at most the working memory it has just written; other
      -- runs keep theirs.
      case working =>
        intro runId
        rw [hitems]
        by_cases hrun : runId = state.runId
        · rw [List.countP_eq_length_filter, hrun]
          rw [filter_working_own s ⟨state.runId, ownerHash, now, draw⟩]
          split <;> simp
        · exact (countP_working_other s hrun).trans (h.working runId)
      case important =>
        intro item hitem
        rw [hitems] at hitem
        rcases mem_captured hitem with hold | hnew
        · obtain ⟨old, hold, rfl⟩ := hold
          rw [(supersedeWorking_retains _ _ old).importance_eq]
          exact h.important old hold
        · rw [(mem_capture_items hnew).2.2.2]
          exact forgottenBelow_le_importanceOf _
      -- A capture supersedes old items, and its own are active.
      case unforgotten =>
        intro item hitem
        rw [hitems] at hitem
        rcases mem_captured hitem with hold | hnew
        · obtain ⟨old, hold, rfl⟩ := hold
          unfold supersedeWorking
          split
          · simp
          · exact h.unforgotten old hold
        · rw [(mem_capture_items hnew).2.2.1]
          simp
      case documented =>
        intro item hitem
        rw [hitems] at hitem
        rw [hdocuments]
        exact h.documented_captured howner hids hitem

end

-- =================================================================== runs

section

variable {search : TextSearch} {s s' : MemoryStore}

/-- The empty memory is sound. -/
theorem sound_empty : MemoryStore.empty.Sound where
  owned _ hitem := absurd hitem List.not_mem_nil
  working _ := Nat.zero_le _
  important _ hitem := absurd hitem List.not_mem_nil
  unforgotten _ hitem := absurd hitem List.not_mem_nil
  documented _ hitem := absurd hitem List.not_mem_nil

/-- What a retrieval selects. -/
def MemoryStore.selectedFor (s : MemoryStore) (search : TextSearch)
    (ownerHash : String) (runId : UUID) (query : String)
    (memoryTypes : List MemoryType) (topK now : ℤ) : List MemoryItem :=
  selectedItems topK (scoredItems search runId query
    (s.candidates ownerHash memoryTypes now))

variable {runId : UUID} {query : String} {memoryTypes : List MemoryType}
  {topK now : ℤ} {result : MemoryRetrievalResult}

/-- A retrieval answers with what it selects, and writes to it. -/
theorem retrieveForRun_some
    (h : s.retrieveForRun search runId query memoryTypes topK now
      = some (s', result)) :
    ∃ ownerHash, s.owner? runId = some ownerHash
      ∧ s'.owners = s.owners ∧ s'.documents = s.documents
      ∧ s'.items = s.items.map (MemoryItem.accessedIn
        ((s.selectedFor search ownerHash runId query memoryTypes topK
          now).map MemoryItem.id) now)
      ∧ result.items = (s.selectedFor search ownerHash runId query
        memoryTypes topK now).map (MemoryItem.view runId now) := by
  unfold MemoryStore.retrieveForRun at h
  obtain ⟨ownerHash, howner, heq⟩ := Option.map_eq_some_iff.mp h
  injection heq with hstore hresult
  refine ⟨ownerHash, howner, ?_, ?_, ?_, ?_⟩
  · rw [← hstore]
    rfl
  · rw [← hstore]
    rfl
  · rw [← hstore]
    rfl
  · rw [← hresult]
    rfl

/-- An access leaves the status. -/
theorem accessedIn_status (ids : List UUID) (now : ℤ) (item : MemoryItem) :
    (item.accessedIn ids now).status = item.status := by
  unfold MemoryItem.accessedIn
  split <;> rfl

/-- A retrieval only notes accesses. -/
theorem MemoryStore.Sound.retrieveForRun (h : s.Sound)
    (hretrieve : s.retrieveForRun search runId query memoryTypes topK now
      = some (s', result)) : s'.Sound := by
  obtain ⟨ownerHash, -, howners, hdocuments, hitems, -⟩ :=
    retrieveForRun_some hretrieve
  have hupdated := h.updateItems
    (accessedIn_id ((s.selectedFor search ownerHash runId query memoryTypes
      topK now).map MemoryItem.id) now)
    (accessedIn_key _ now) (accessedIn_retains _ now)
    (fun item hitem => by
      rw [accessedIn_status]
      exact h.unforgotten item hitem)
  constructor
  case owned =>
    intro item hitem
    rw [hitems] at hitem
    have howned := hupdated.owned item hitem
    unfold MemoryStore.owner? at howned ⊢
    rw [howners]
    exact howned
  case working =>
    intro runId
    rw [hitems]
    exact hupdated.working runId
  case important =>
    rw [hitems]
    exact hupdated.important
  case unforgotten =>
    rw [hitems]
    exact hupdated.unforgotten
  case documented =>
    rw [hitems, hdocuments]
    exact hupdated.documented

/-- Every transaction keeps a sound memory sound. -/
theorem MemoryStore.Sound.apply (h : s.Sound)
    {transaction : MemoryTransaction}
    (happly : transaction.apply search s = some s') : s'.Sound := by
  cases transaction with
  | createRun runId ownerHash =>
      unfold MemoryTransaction.apply at happly
      dsimp only at happly
      split at happly
      · cases happly
      · injection happly with heq
        rw [← heq]
        exact h.createRun runId ownerHash
  | captureState draw state nodeName evidence now =>
      exact h.captureState happly
  | retrieveForRun runId query memoryTypes topK now =>
      obtain ⟨⟨s₁, result⟩, hretrieve, rfl⟩ :=
        Option.map_eq_some_iff.mp happly
      exact h.retrieveForRun hretrieve
  | applyLifecycle now =>
      injection happly with heq
      rw [← heq]
      exact h.applyLifecycle now
  | rebuildMemory ownerHash =>
      injection happly with heq
      rw [← heq]
      exact h.rebuild ownerHash

/-- Every transaction keeps the store sound, one that raises by changing
nothing. -/
theorem MemoryStore.Sound.step (h : s.Sound)
    (transaction : MemoryTransaction) :
    ((memorySystem search).step s transaction).Sound := by
  show ((transaction.apply search s).getD s).Sound
  cases happly : transaction.apply search s with
  | none => exact h
  | some s₁ => exact h.apply happly

/-- Every store that transactions reach is sound. -/
theorem sound_reachable
    (h : Transition.Reachable (memorySystem search) s) : s.Sound :=
  h.invariant (fun _ hinit => hinit ▸ sound_empty)
    (fun _ transaction hsound => hsound.step transaction)

/-- The items of a memory are in a later one. -/
def MemoryStore.Carried (s s' : MemoryStore) : Prop :=
  ∀ item ∈ s.items, ∃ item' ∈ s'.items, Retains item item'

/-- An update that retains what an item holds carries every item over. -/
theorem carried_map {update : MemoryItem → MemoryItem}
    (hretains : ∀ item, Retains item (update item))
    (hitems : s'.items = s.items.map update) : s.Carried s' := by
  intro item hitem
  refine ⟨update item, ?_, hretains item⟩
  rw [hitems]
  exact List.mem_map_of_mem hitem

/-- No transaction loses an item. -/
theorem carried_apply {transaction : MemoryTransaction}
    (happly : transaction.apply search s = some s') : s.Carried s' := by
  cases transaction with
  | createRun runId ownerHash =>
      unfold MemoryTransaction.apply at happly
      dsimp only at happly
      split at happly
      · cases happly
      · injection happly with heq
        rw [← heq]
        exact fun item hitem => ⟨item, hitem, .refl item⟩
  | captureState draw state nodeName evidence now =>
      cases howner : s.owner? state.runId with
      | none =>
          have hsame : s.captureState draw state nodeName evidence now
              = some s := by
            unfold MemoryStore.captureState
            rw [howner]
          have heq := hsame.symm.trans happly
          injection heq with heq
          rw [← heq]
          exact fun item hitem => ⟨item, hitem, .refl item⟩
      | some ownerHash =>
          obtain ⟨-, hitems, -⟩ := captureState_some howner happly
          intro item hitem
          refine ⟨supersedeWorking state.runId now item, ?_,
            supersedeWorking_retains state.runId now item⟩
          rw [hitems]
          exact supersede_mem_captured hitem
  | retrieveForRun runId query memoryTypes topK now =>
      obtain ⟨⟨s₁, result⟩, hretrieve, rfl⟩ :=
        Option.map_eq_some_iff.mp happly
      obtain ⟨ownerHash, -, -, -, hitems, -⟩ :=
        retrieveForRun_some hretrieve
      exact carried_map (accessedIn_retains _ now) hitems
  | applyLifecycle now =>
      injection happly with heq
      rw [← heq]
      intro item hitem
      exact ⟨_, List.mem_map_of_mem (List.mem_map_of_mem hitem),
        (expire_retains now item).trans (forget_retains now _)⟩
  | rebuildMemory ownerHash =>
      injection happly with heq
      rw [← heq]
      exact fun item hitem => ⟨item, hitem, .refl item⟩

/-- No run of transactions loses an item. -/
theorem carried_exec (search : TextSearch) (s : MemoryStore)
    (transactions : List MemoryTransaction) :
    s.Carried ((memorySystem search).exec s transactions) := by
  induction transactions generalizing s with
  | nil => exact fun item hitem => ⟨item, hitem, .refl item⟩
  | cons transaction transactions ih =>
      intro item hitem
      have hstep : s.Carried ((memorySystem search).step s transaction) := by
        show s.Carried ((transaction.apply search s).getD s)
        cases happly : transaction.apply search s with
        | none => exact fun item hitem => ⟨item, hitem, .refl item⟩
        | some s₁ => exact carried_apply happly
      obtain ⟨item₁, hitem₁, hretains⟩ := hstep item hitem
      obtain ⟨item₂, hitem₂, hretains'⟩ := ih _ item₁ hitem₁
      exact ⟨item₂, hitem₂, hretains.trans hretains'⟩

-- ============================================================ the retrieval

/-- The documents that would be made of the items now. -/
theorem nodup_documents (s : MemoryStore) :
    ((s.items.map MemoryItem.document).map
      MemorySearchDocument.memoryId).Nodup := by
  rw [List.map_map]
  exact s.ids_nodup

/-- A memory whose documents are all rebuilt. -/
def MemoryStore.rebuilt (s : MemoryStore) : MemoryStore :=
  { s with
    documents := s.items.map MemoryItem.document
    documents_nodup := nodup_documents s }

/-- The join of a sound memory passes what it would pass rebuilt. -/
theorem MemoryStore.Sound.candidates_rebuilt (h : s.Sound)
    (ownerHash : String) (memoryTypes : List MemoryType) (now : ℤ) :
    s.candidates ownerHash memoryTypes now
      = s.rebuilt.candidates ownerHash memoryTypes now := by
  unfold MemoryStore.candidates
  apply List.filterMap_congr
  intro item hitem
  have hrebuilt : Table.lookup MemorySearchDocument.memoryId item.id
      s.rebuilt.documents = some item.document :=
    Table.lookup_of_mem (nodup_documents s) (List.mem_map_of_mem hitem)
  obtain ⟨status, hlookup, hactive⟩ := h.documented item hitem
  rw [hrebuilt, hlookup, Option.map_some, Option.map_some]
  by_cases hstatus : item.status = .active
  · -- An active item has the document that would be made of it.
    have hdocument : { item.document with status } = item.document := by
      rw [hactive hstatus]
      unfold MemoryItem.document
      rw [hstatus]
    rw [hdocument]
  · -- Any other item passes the filters with no document.
    rw [Option.filter_some, Option.filter_some]
    simp [eligible, hstatus]

/-- A ranked item is the item of one of the rows. -/
theorem mem_rankedRows {rank : String → Option ℚ}
    {rows : List (MemoryItem × MemorySearchDocument)} {item : MemoryItem}
    (h : item ∈ rankedRows rank rows) : ∃ row ∈ rows, row.1 = item := by
  unfold rankedRows at h
  obtain ⟨ranked, hranked, rfl⟩ := List.mem_map.mp h
  have hsorted := List.mem_mergeSort.mp (List.mem_of_mem_take hranked)
  obtain ⟨row, hrow, hrank⟩ := List.mem_filterMap.mp hsorted
  obtain ⟨x, -, rfl⟩ := Option.map_eq_some_iff.mp hrank
  exact ⟨row, hrow, rfl⟩

/-- A scored item is the item of one of the rows, whichever list ranked it.
-/
theorem mem_scoredItems {rows : List (MemoryItem × MemorySearchDocument)}
    {scored : MemoryItem × ℚ}
    (h : scored ∈ scoredItems search runId query rows) :
    ∃ row ∈ rows, row.1 = scored.1 := by
  unfold scoredItems at h
  obtain ⟨entry, -, hentry⟩ :=
    List.mem_filterMap.mp (List.mem_mergeSort.mp h)
  obtain ⟨item, hlookup, rfl⟩ := Option.map_eq_some_iff.mp hentry
  rcases List.mem_append.mp (Table.mem_of_lookup hlookup).1 with hmem | hmem
  · exact mem_rankedRows hmem
  · exact mem_rankedRows hmem

/-- A fusion names every id once. -/
theorem nodup_reciprocalRankFusion (rankedLists : List (List UUID)) :
    ((reciprocalRankFusion rankedLists).map Prod.fst).Nodup := by
  apply Table.nodup_upsertAll
  · intro new r _
    rfl
  · exact List.nodup_nil

/-- The fusion scores an item once, however many lists rank it. -/
theorem nodup_scoredItems (search : TextSearch) (runId : UUID)
    (query : String) (rows : List (MemoryItem × MemorySearchDocument)) :
    ((scoredItems search runId query rows).map (·.1.id)).Nodup := by
  unfold scoredItems
  dsimp only
  rw [((List.mergeSort_perm _ before).map _).nodup_iff]
  -- A score is for the item that has the id of its entry.
  generalize rankedRows (search.lexical query) rows
    ++ rankedRows (fuzzyRank search query) rows = found
  have hsublist : ∀ entries : List (UUID × ℚ),
      ((entries.filterMap fun entry =>
        (Table.lookup MemoryItem.id entry.1 found).map fun item =>
          (item, retrievalScore runId item entry.2)).map (·.1.id)).Sublist
        (entries.map Prod.fst) := by
    intro entries
    induction entries with
    | nil => exact List.Sublist.slnil
    | cons entry entries ih =>
        cases hlookup : Table.lookup MemoryItem.id entry.1 found with
        | none =>
            rw [List.filterMap_cons_none (by rw [hlookup]; rfl)]
            exact ih.cons entry.1
        | some item =>
            rw [List.filterMap_cons_some (by rw [hlookup]; rfl),
              List.map_cons, List.map_cons,
              (Table.mem_of_lookup hlookup).2]
            exact ih.cons_cons entry.1
  exact (nodup_reciprocalRankFusion _).sublist (hsublist _)

/-- A selected item passes the filters. -/
theorem mem_selectedFor {ownerHash : String} {item : MemoryItem}
    (h : item ∈ s.selectedFor search ownerHash runId query memoryTypes topK
      now) :
    item ∈ s.items ∧ ∃ document,
      Table.lookup MemorySearchDocument.memoryId item.id s.documents
          = some document
        ∧ eligible ownerHash memoryTypes now (item, document) = true := by
  unfold MemoryStore.selectedFor selectedItems at h
  obtain ⟨scored, hscored, rfl⟩ := List.mem_map.mp h
  obtain ⟨row, hrow, heq⟩ := mem_scoredItems (List.mem_of_mem_take hscored)
  obtain ⟨item, hitem, hfilter⟩ := List.mem_filterMap.mp hrow
  obtain ⟨hjoined, heligible⟩ := Option.filter_eq_some_iff.mp hfilter
  obtain ⟨document, hlookup, rfl⟩ := Option.map_eq_some_iff.mp hjoined
  rw [← heq]
  exact ⟨hitem, document, hlookup, heligible⟩

/-- A retrieval selects an item once. -/
theorem nodup_selectedFor (s : MemoryStore) (search : TextSearch)
    (ownerHash : String) (runId : UUID) (query : String)
    (memoryTypes : List MemoryType) (topK now : ℤ) :
    ((s.selectedFor search ownerHash runId query memoryTypes topK now).map
      MemoryItem.id).Nodup := by
  unfold MemoryStore.selectedFor selectedItems
  rw [List.map_map]
  exact (nodup_scoredItems _ _ _ _).sublist ((List.take_sublist _ _).map _)

end

-- ============================================================ the theorems

section

variable {search : TextSearch} {s s' : MemoryStore} {state : ResearchState}
  {nodeName : String} {evidence : List AcceptedEvidence}
  {draw : Fingerprint → UUID} {ownerHash : String} {now : ℤ}

/-- After a capture no run has two active working items. The captured run
has one exactly if it had no item of the state's fingerprint, and then it
is of this state: a state that is captured twice leaves the run without
one. -/
theorem capture_working_iff
    (hs : Transition.Reachable (memorySystem search) s)
    (howner : s.owner? state.runId = some ownerHash)
    (h : s.captureState draw state nodeName evidence now = some s') :
    (∀ runId, s'.items.countP (·.isWorkingOf runId) ≤ 1)
      ∧ ((∃ item ∈ s'.items, item.isWorkingOf state.runId = true)
        ↔ ∀ item ∈ s.items,
          item.key ≠ ⟨state.runId, .working, workingFingerprint state⟩)
      ∧ ∀ item ∈ s'.items, item.isWorkingOf state.runId = true →
        item.contentSummary = workingSummary state
          ∧ item.sourceRefIds = stateRefs state
          ∧ item.expiresAt = some (now + days 7) := by
  obtain ⟨-, hitems, -⟩ := captureState_some howner h
  have hfilter := filter_working_own s ⟨state.runId, ownerHash, now, draw⟩
    state nodeName evidence
  rw [← hitems] at hfilter
  refine ⟨((sound_reachable hs).captureState h).working, ?_, ?_⟩
  · have hexists : (∃ item ∈ s'.items, item.isWorkingOf state.runId = true)
        ↔ s'.items.filter (·.isWorkingOf state.runId) ≠ [] := by
      simp [List.filter_eq_nil_iff]
    rw [hexists, hfilter]
    split
    -- The fingerprint is taken: nothing is inserted, and the old memory is
    -- superseded.
    case isTrue htaken =>
      obtain ⟨item, hitem, hkey⟩ := Table.lookup_isSome_iff.mp htaken
      simp only [ne_eq, not_true_eq_false, false_iff, not_forall]
      exact ⟨item, hitem, fun hne => hne hkey⟩
    case isFalse hfree =>
      simp only [ne_eq, List.cons_ne_nil, not_false_eq_true, true_iff]
      intro item hitem hkey
      exact hfree (Table.lookup_isSome_iff.mpr ⟨item, hitem, hkey⟩)
  · intro item hitem hworking
    have hmem : item ∈ s'.items.filter (·.isWorkingOf state.runId) :=
      List.mem_filter.mpr ⟨hitem, hworking⟩
    rw [hfilter] at hmem
    split at hmem
    · exact absurd hmem List.not_mem_nil
    · rw [List.mem_singleton.mp hmem]
      exact ⟨rfl, rfl, rfl⟩

/-- A state of a run that has just begun. -/
def initialState : ResearchState := { runId := 1 }

/-- Ids from a number on. -/
def drawFrom (first : Nat) : Fingerprint → UUID
  | .working _ _ => BitVec.ofNat 128 first
  | .episodic _ _ => BitVec.ofNat 128 (first + 1)
  | .semantic evidenceId => evidenceId

/-- A search that finds a text by the text itself. -/
def textItself : TextSearch where
  lexical query text := if query = text then some (1 / 10) else none
  similarity query text := if query = text then 1 else 0

/-- A memory that has captured it. -/
def capturedOnce : MemoryStore :=
  (memorySystem textItself).exec .empty
    [.createRun 1 "owner",
      .captureState (drawFrom 1) initialState "planner" [] 0]

theorem capturedOnce_reachable :
    Transition.Reachable (memorySystem textItself) capturedOnce :=
  Transition.Reachable.exec (.init rfl) _

/-- A second capture of the same state finds the fingerprint taken, and
leaves the run without a working memory. -/
theorem capture_working_iff_twice :
    ∃ s', capturedOnce.captureState (drawFrom 3) initialState "planner" [] 1
        = some s'
      ∧ ¬ ∃ item ∈ s'.items, item.isWorkingOf 1 = true := by
  have howner : capturedOnce.owner? initialState.runId = some "owner" := by
    decide +kernel
  have hreturns : (capturedOnce.captureState (drawFrom 3) initialState
      "planner" [] 1).isSome = true := by
    decide +kernel
  have htaken : capturedOnce.items.any (fun item => item.key
      = ⟨1, .working, workingFingerprint initialState⟩) = true := by
    decide +kernel
  obtain ⟨s', hs'⟩ := Option.isSome_iff_exists.mp hreturns
  refine ⟨s', hs', fun hworking => ?_⟩
  obtain ⟨-, hiff, -⟩ :=
    capture_working_iff capturedOnce_reachable howner hs'
  obtain ⟨item, hitem, hkey⟩ := List.any_eq_true.mp htaken
  exact hiff.mp hworking item hitem (of_decide_eq_true hkey)

/-- The lifecycle never forgets an item, and leaves no active one that has
expired. -/
theorem lifecycle_forgets_nothing
    (hs : Transition.Reachable (memorySystem search) s) (now : ℤ) :
    (s.applyLifecycle now).2.2 = 0
      ∧ ∀ item ∈ (s.applyLifecycle now).1.items,
        item.status ≠ .forgotten
          ∧ (item.status = .active → ∀ time ∈ item.expiresAt, now < time) := by
  have hstale := (sound_reachable hs).stale now
  constructor
  · show (List.filter _ _).length = 0
    rw [List.length_eq_zero_iff, List.filter_eq_nil_iff]
    intro item hitem
    simp [hstale.not_unused hitem]
  · intro item hitem
    obtain ⟨old, hold, rfl⟩ := List.mem_map.mp hitem
    have hsame : old.retire .forgotten now (MemoryItem.unused now)
        = old := by
      unfold MemoryItem.retire
      rw [hstale.not_unused hold]
      rfl
    rw [hsame]
    refine ⟨hstale.unforgotten old hold, fun hactive time htime => ?_⟩
    -- An active item that has expired was made stale before.
    obtain ⟨first, -, rfl⟩ := List.mem_map.mp hold
    unfold MemoryItem.retire at hactive htime
    split at hactive
    case isTrue => cases hactive
    case isFalse hnot =>
      rw [if_neg hnot] at htime
      unfold MemoryItem.expired at hnot
      have htime' : first.expiresAt = some time := htime
      simpa [hactive, htime'] using hnot

theorem lifecycle_forgets_nothing_once :
    (capturedOnce.applyLifecycle (days 400)).2.2 = 0 :=
  (lifecycle_forgets_nothing capturedOnce_reachable (days 400)).1

/-- What a retrieval returns: distinct items, no more than were asked for,
each of the run's owner, of a requested type, active and not expired, and
with its access counted. -/
theorem retrieval_returns {runId : UUID} {query : String}
    {memoryTypes : List MemoryType} {topK : ℤ}
    {result : MemoryRetrievalResult}
    (hs : Transition.Reachable (memorySystem search) s)
    (h : s.retrieveForRun search runId query memoryTypes topK now
      = some (s', result)) :
    (result.items.map (·.item.id)).Nodup
      ∧ result.items.length ≤ selectionSize topK
      ∧ ∀ view ∈ result.items, ∃ item ∈ s.items,
        view = item.view runId now ∧ view.item ∈ s'.items
          ∧ s.owner? runId = some item.ownerHash
          ∧ item.memoryType ∈ memoryTypes ∧ item.status = .active
          ∧ ∀ time ∈ item.expiresAt, now < time := by
  obtain ⟨ownerHash, howner, -, -, hitems, hviews⟩ := retrieveForRun_some h
  rw [hviews]
  refine ⟨?_, ?_, ?_⟩
  · rw [List.map_map]
    exact nodup_selectedFor s search ownerHash runId query memoryTypes topK
      now
  · rw [List.length_map]
    unfold MemoryStore.selectedFor selectedItems
    rw [List.length_map]
    exact List.length_take_le _ _
  · intro view hview
    obtain ⟨item, hitem, rfl⟩ := List.mem_map.mp hview
    obtain ⟨hmem, document, hlookup, heligible⟩ := mem_selectedFor hitem
    unfold eligible at heligible
    simp only [Bool.and_eq_true, decide_eq_true_eq] at heligible
    obtain ⟨⟨⟨⟨hown, hactive⟩, htype⟩, -⟩, htime⟩ := heligible
    refine ⟨item, hmem, rfl, ?_, hown ▸ howner, htype, hactive, ?_⟩
    · rw [hitems]
      refine List.mem_map.mpr ⟨item, hmem, ?_⟩
      unfold MemoryItem.accessedIn
      rw [if_pos (List.contains_iff_mem.mpr (List.mem_map_of_mem hitem))]
      rfl
    · -- The time in the document is the item's.
      intro time hitemTime
      obtain ⟨status, hdocument, -⟩ :=
        (sound_reachable hs).documented item hmem
      cases hlookup.symm.trans hdocument
      have hexpires : item.expiresAt = some time := hitemTime
      simpa [MemoryItem.document, hexpires] using htime

theorem retrieval_returns_once :
    ∃ s' result,
      capturedOnce.retrieveForRun textItself 1
          (episodicSummary initialState "planner") [.episodic, .semantic] 8 0
          = some (s', result)
        ∧ result.items.length = 1
        ∧ ∀ view ∈ result.items, ∃ item ∈ capturedOnce.items,
          view = item.view 1 0 ∧ item.status = .active := by
  have hone : (capturedOnce.retrieveForRun textItself 1
      (episodicSummary initialState "planner") [.episodic, .semantic] 8
      0).any (fun answer => answer.2.items.length = 1) = true := by
    decide +kernel
  obtain ⟨answer, hanswer, hlength⟩ := (Option.any_eq_true _ _).mp hone
  obtain ⟨-, -, hreturned⟩ :=
    retrieval_returns capturedOnce_reachable hanswer
  refine ⟨answer.1, answer.2, hanswer, of_decide_eq_true hlength, ?_⟩
  intro view hview
  obtain ⟨item, hitem, hview', -, -, -, hactive, -⟩ := hreturned view hview
  exact ⟨item, hitem, hview', hactive⟩

/-- An item that was superseded or has become stale is never retrieved
again, whatever transactions come. -/
theorem retired_never_retrieved {runId : UUID} {query : String}
    {memoryTypes : List MemoryType} {topK : ℤ}
    {result : MemoryRetrievalResult} {item : MemoryItem}
    (hs : Transition.Reachable (memorySystem search) s)
    (hitem : item ∈ s.items) (hretired : item.status ≠ .active)
    (transactions : List MemoryTransaction)
    (h : ((memorySystem search).exec s transactions).retrieveForRun search
      runId query memoryTypes topK now = some (s', result)) :
    ∀ view ∈ result.items, view.item.id ≠ item.id := by
  intro view hview heq
  obtain ⟨-, -, hreturned⟩ := retrieval_returns (hs.exec transactions) h
  obtain ⟨found, hfound, rfl, -, -, -, hactive, -⟩ := hreturned view hview
  obtain ⟨later, hlater, hretains⟩ :=
    carried_exec search s transactions item hitem
  have hid : found.id = later.id := by
    rw [hretains.id_eq]
    exact heq
  have hsame : found = later := List.inj_on_of_nodup_map
    ((memorySystem search).exec s transactions).ids_nodup hfound hlater hid
  rw [hsame] at hactive
  exact hretired (hretains.active hactive)

/-- The memory after a second node. -/
def capturedTwice : MemoryStore :=
  (memorySystem textItself).step capturedOnce
    (.captureState (drawFrom 3) { initialState with stateVersion := 1 }
      "research_iteration" [] 1)

/-- The working memory of the first state is superseded by the second and
not found again. -/
theorem retired_never_retrieved_twice :
    ∃ item ∈ capturedTwice.items, item.status = .superseded
      ∧ ∃ s' result,
        capturedTwice.retrieveForRun textItself 1
            (workingSummary initialState) [.working] 8 2
            = some (s', result)
          ∧ ∀ view ∈ result.items, view.item.id ≠ item.id := by
  have hsuperseded : capturedTwice.items.any
      (fun item => item.status = .superseded) = true := by
    decide +kernel
  have hreturns : (capturedTwice.retrieveForRun textItself 1
      (workingSummary initialState) [.working] 8 2).isSome = true := by
    decide +kernel
  obtain ⟨item, hitem, hstatus⟩ := List.any_eq_true.mp hsuperseded
  have hstatus' : item.status = .superseded := of_decide_eq_true hstatus
  have hretired : item.status ≠ .active := by
    rw [hstatus']
    simp
  obtain ⟨answer, hanswer⟩ := Option.isSome_iff_exists.mp hreturns
  exact ⟨item, hitem, hstatus', answer.1, answer.2, hanswer,
    retired_never_retrieved (.step _ capturedOnce_reachable) hitem hretired
      [] hanswer⟩

end

end DeepResearch.Memory
