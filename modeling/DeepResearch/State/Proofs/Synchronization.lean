/-
When a synchronisation is accepted, and what it then shows.

The patch of the rows is valid in every state that stored states can be
in, up to the budget (`valid_payload_iff`): its upserts go through
dictionaries, and no stored state has an action. So what is left of all
the checks is the lease, the bounds of the texts, the budget against the
limits of the initialisation, and a fresh patch id.
-/
import DeepResearch.State.Proofs.Runtime

namespace DeepResearch.State

open Table Transition

variable {rt : StateRuntime} {tables tables' : StateTables} {runId : UUID}
  {s s' : ResearchState} {row : ProjectedRun} {patch : StatePatch}
  {patchId : UUID}

-- ============================================================== the projection

/-- What the constructors of the projected records check. -/
structure Representable
    (evidenceRows : List (ResearchEvidenceRow × ResearchSourceRow))
    (gapRows : List ResearchGapRow) (row : ProjectedRun) : Prop where
  evidence : ∀ r ∈ evidenceRows,
    1 ≤ r.1.questionId.length ∧ r.1.questionId.length ≤ 100
  gaps : ∀ g ∈ gapRows,
    (1 ≤ g.questionId.length ∧ g.questionId.length ≤ 100)
      ∧ (1 ≤ g.description.length ∧ g.description.length ≤ 1000)
      ∧ (1 ≤ g.acceptanceCriteria.length
        ∧ g.acceptanceCriteria.length ≤ 1000)
  coverage : ∃ coverage, coverageMap row = some coverage

/-- A bounded text is one of an admitted length. -/
theorem exists_ofString {least most : Nat} {text : String} :
    (∃ t, Text.ofString least most text = some t)
      ↔ least ≤ text.length ∧ text.length ≤ most := by
  unfold Text.ofString
  constructor
  · intro ⟨t, ht⟩
    by_contra hout
    rw [dif_neg hout] at ht
    cases ht
  · intro h
    exact ⟨_, dif_pos h⟩

section

variable {uuid5 : Uuid5} {baseVersion : Nat}
  {evidenceRows : List (ResearchEvidenceRow × ResearchSourceRow)}
  {gapRows : List ResearchGapRow}

/-- A claim can be projected if its question id fits the schema. -/
theorem exists_knownClaim {r : ResearchEvidenceRow × ResearchSourceRow} :
    (∃ claim, knownClaim uuid5 runId r = some claim)
      ↔ 1 ≤ r.1.questionId.length ∧ r.1.questionId.length ≤ 100 := by
  rw [← exists_ofString]
  constructor
  · intro ⟨claim, h⟩
    obtain ⟨t, ht, -⟩ := Option.bind_eq_some_iff.mp h
    exact ⟨t, ht⟩
  · intro ⟨t, ht⟩
    unfold knownClaim
    rw [ht]
    exact ⟨_, rfl⟩

/-- A gap can be projected if its texts fit the schema. -/
theorem exists_projectGap {g : ResearchGapRow} {claimIds : List UUID} :
    (∃ gap, projectGap uuid5 runId g claimIds = some gap)
      ↔ (1 ≤ g.questionId.length ∧ g.questionId.length ≤ 100)
        ∧ (1 ≤ g.description.length ∧ g.description.length ≤ 1000)
        ∧ (1 ≤ g.acceptanceCriteria.length
          ∧ g.acceptanceCriteria.length ≤ 1000) := by
  rw [← exists_ofString, ← exists_ofString, ← exists_ofString]
  constructor
  · intro ⟨gap, h⟩
    obtain ⟨dimensionKey, hkey, h⟩ := Option.bind_eq_some_iff.mp h
    obtain ⟨description, hdescription, h⟩ := Option.bind_eq_some_iff.mp h
    obtain ⟨acceptance, hacceptance, -⟩ := Option.bind_eq_some_iff.mp h
    exact ⟨⟨_, hkey⟩, ⟨_, hdescription⟩, ⟨_, hacceptance⟩⟩
  · intro ⟨⟨_, hkey⟩, ⟨_, hdescription⟩, ⟨_, hacceptance⟩⟩
    unfold projectGap
    rw [hkey, hdescription, hacceptance]
    exact ⟨_, rfl⟩

/-- The patch exists exactly if the rows fit the schema. -/
theorem exists_projectedPatch :
    (∃ patch, projectedPatch uuid5 runId row evidenceRows gapRows patchId
        baseVersion = some patch)
      ↔ Representable evidenceRows gapRows row := by
  constructor
  · intro ⟨patch, h⟩
    obtain ⟨-, -, hpatch⟩ := projectedPatch_spec h
    refine ⟨?_, ?_, hpatch.coverage⟩
    · intro r hr
      exact exists_knownClaim.mp (Outcome.exists_mapM_some.mp
        ⟨_, Outcome.mapM_some_iff.mpr hpatch.claims⟩ r hr)
    · intro g hg
      exact exists_projectGap.mp (Outcome.exists_mapM_some.mp
        ⟨_, Outcome.mapM_some_iff.mpr hpatch.gaps⟩ g hg)
  · intro h
    obtain ⟨coverage, hcoverage⟩ := h.coverage
    have hclaims : ∀ r ∈ evidenceRows,
        ∃ claim, knownClaim uuid5 runId r = some claim :=
      fun r hr => exists_knownClaim.mpr (h.evidence r hr)
    have hgaps : ∀ g ∈ gapRows, ∃ gap, projectGap uuid5 runId g
        (claimIdsByQuestion evidenceRows g.questionId) = some gap :=
      fun g hg => exists_projectGap.mpr (h.gaps g hg)
    obtain ⟨known, hknown⟩ := Outcome.exists_mapM_some.mpr hclaims
    obtain ⟨gaps, hgaps⟩ := Outcome.exists_mapM_some.mpr hgaps
    unfold projectedPatch
    rw [hknown, hgaps, hcoverage]
    exact ⟨_, rfl⟩

end

-- ================================================================== the budget

/-- The budget of the run, against the limits of its initialisation. -/
structure WithinLimits (s : ResearchState) (row : ProjectedRun) : Prop where
  iterations : (budgetUsage row).iterations ≤ s.budgetLimits.maxIterations
  searches : (budgetUsage row).searches ≤ s.budgetLimits.maxSearches
  pages : (Run.ResearchState.mk s.status s.stopReason).synchronized row.run
      = ⟨.failed, some .budgetExhausted⟩
    ∨ max (budgetUsage row).pages (budgetUsage row).pagesFetched
      ≤ if (budgetUsage row).pagesFetched > 0 then
          s.budgetLimits.maxPagesFetched
        else s.budgetLimits.maxPages
  tokens : statePhase row.run.phase ∈ [ResearchPhase.write, .verify, .finalize]
    ∨ (budgetUsage row).modelBudgetGuarded = true
    ∨ (budgetUsage row).modelTokens ≤ s.budgetLimits.maxModelTokens

/-- A patch of the rows is refused for the budget only. -/
theorem valid_payload_iff {uuid5 : Uuid5}
    {evidenceRows : List (ResearchEvidenceRow × ResearchSourceRow)}
    {gapRows : List ResearchGapRow} (hs : Sourced s)
    (hrow : PatchOf uuid5 runId row evidenceRows gapRows patch) :
    (s.payload patch).Valid ↔ WithinLimits s row := by
  have hpublic := payload_synchronized hrow.status hrow.reason hrow.clear
    (s := s)
  have hterminal : ((s.payload patch).status = .failed
        ∧ (s.payload patch).stopReason = some .budgetExhausted)
      ↔ (Run.ResearchState.mk s.status s.stopReason).synchronized row.run
        = ⟨.failed, some .budgetExhausted⟩ := by
    rw [← hpublic, Run.ResearchState.mk.injEq]
  have husage : (s.payload patch).budgetUsage = budgetUsage row := by
    show patch.budgetUsage.getD s.budgetUsage = _
    rw [hrow.usage]
    rfl
  have hphase : (s.payload patch).phase = statePhase row.run.phase := by
    show patch.phase.getD s.phase = _
    rw [hrow.phase]
    rfl
  have haction : (s.payload patch).nextAction = none := by
    show patch.nextAction.or s.nextAction = none
    rw [hrow.action, hs.action]
    rfl
  -- What the validator checks beyond the limits holds of any projected
  -- patch.
  constructor
  · intro hvalid
    refine ⟨?_, ?_, ?_, ?_⟩
    · rw [← husage]
      exact hvalid.iterations_within
    · rw [← husage]
      exact hvalid.searches_within
    · rw [← hterminal, ← husage]
      exact hvalid.pages_within
    · rw [← hphase, ← husage]
      exact hvalid.tokens_within
  · intro hwithin
    constructor
    case claims_unique => exact Dict.nodup_update _ (Dict.nodup_ofRows _)
    case gaps_unique => exact Dict.nodup_update _ (Dict.nodup_ofRows _)
    case targets_open =>
      rw [haction]
      intro action haction
      cases haction
    case iterations_within =>
      rw [husage]
      exact hwithin.iterations
    case searches_within =>
      rw [husage]
      exact hwithin.searches
    case pages_within =>
      rw [hterminal]
      unfold ResearchState.pageUsage ResearchState.pageLimit
      rw [husage]
      exact hwithin.pages
    case tokens_within =>
      rw [hphase, husage]
      exact hwithin.tokens

-- ============================================================== the acceptance

/-- No journal row is of a later version than the stored state. -/
theorem resultVersion_le {journal : List ResearchStatePatchRow}
    {snapshot : ResearchStateSnapshotRow}
    (h : Recorded rt runId journal snapshot) :
    ∀ old ∈ journal,
      old.resultVersion ≤ snapshot.stateJson.stateVersion := by
  intro old hold
  obtain ⟨first, hfirst, hreplay⟩ := h.replayed
  have hversion : snapshot.stateJson.stateVersion
      = first.stateVersion + journal.length := Journal.version_replay hreplay
  have hmem : old.resultVersion
      ∈ journal.map ResearchStatePatchRow.resultVersion :=
    List.mem_map_of_mem hold
  rw [resultVersion_replay hreplay, List.mem_range'_1] at hmem
  omega

/-- The constraints on the journal refuse a used patch id, and nothing
else. -/
theorem refuses_eq_false_iff (hsound : tables.Sound rt)
    {snapshot : ResearchStateSnapshotRow} {nodeName : String}
    (hsnapshot : tables.snapshots runId = some snapshot)
    (happly : applyPatch snapshot.stateJson patch = .ok s') :
    tables.refuses (StateTables.patchRow rt runId nodeName patch s') = false
      ↔ ∀ old ∈ tables.patches, old.id ≠ patch.patchId := by
  unfold StateTables.refuses
  rw [List.any_eq_false]
  constructor
  · intro h old hold hid
    refine h old hold ?_
    rw [Bool.or_eq_true, decide_eq_true_eq]
    exact .inl hid
  · intro h old hold hrefused
    rw [Bool.or_eq_true, Bool.and_eq_true, decide_eq_true_eq,
      decide_eq_true_eq, decide_eq_true_eq] at hrefused
    rcases hrefused with hid | ⟨hrun, hversion⟩
    · exact h old hold hid
    · have hjournal : old ∈ tables.journal runId :=
        List.mem_filter.mpr ⟨hold, decide_eq_true hrun⟩
      have hle := resultVersion_le
        (hsound.recorded runId snapshot hsnapshot) old hjournal
      have hnext := stateVersion_applyPatch happly
      have hversion : old.resultVersion = s'.stateVersion := hversion
      omega

/-- In every reachable state of the tables, a synchronisation is accepted
exactly if the run has a snapshot, the caller holds its lease, the texts
and figures of the rows are in bounds, the usage is within the limits of
the initialisation, and the patch id is new. -/
theorem synchronize_accepted_iff
    (h : Reachable (stateTableSystem rt) tables) (runId : UUID)
    (nodeName : String) (workerTaskId : Option Run.TaskId)
    (patchId : UUID) :
    (∃ result, tables.synchronize rt runId nodeName workerTaskId patchId
        = .ok result)
      ↔ ∃ snapshot row, tables.snapshots runId = some snapshot
        ∧ tables.business.runs runId = some row
        ∧ (∀ task ∈ workerTaskId, row.run.workerTaskId = some task)
        ∧ Representable (tables.business.evidenceRows runId)
          (tables.business.gapRows runId) row
        ∧ WithinLimits snapshot.stateJson row
        ∧ ∀ old ∈ tables.patches, old.id ≠ patchId := by
  have hsound := sound_reachable h
  have hlease : ∀ row : ProjectedRun,
      workerTaskId.all (row.run.workerTaskId = some ·) = true
        ↔ ∀ task ∈ workerTaskId, row.run.workerTaskId = some task := by
    intro row
    cases workerTaskId with
    | none => simp
    | some task => simp
  constructor
  · intro ⟨⟨tables', s'⟩, hok⟩
    obtain ⟨snapshot, row, patch, hsnapshot, hrow, hall, -, hpatch, happly,
      hnew, -⟩ := synchronize_ok_iff.mp hok
    obtain ⟨hid, -, hpatchOf⟩ := projectedPatch_spec hpatch
    have hrecorded := hsound.recorded runId snapshot hsnapshot
    obtain ⟨-, hpayload, hvalid⟩ := applyPatch_ok_iff.mp happly
    rw [hpayload, valid_payload_iff hrecorded.sourced hpatchOf] at hvalid
    refine ⟨snapshot, row, hsnapshot, hrow, (hlease row).mp hall,
      exists_projectedPatch.mp ⟨patch, hpatch⟩, hvalid, ?_⟩
    rw [← hid]
    exact (refuses_eq_false_iff hsound hsnapshot happly).mp hnew
  · intro ⟨snapshot, row, hsnapshot, hrow, hall, hrepresentable, hwithin,
      hnew⟩
    have hrecorded := hsound.recorded runId snapshot hsnapshot
    obtain ⟨patch, hpatch⟩ : ∃ patch, tables.patch rt runId row patchId
        snapshot.stateJson.stateVersion = some patch :=
      exists_projectedPatch.mpr hrepresentable
    obtain ⟨hid, hbase, hpatchOf⟩ := projectedPatch_spec hpatch
    have hvalid := (valid_payload_iff hrecorded.sourced hpatchOf).mpr hwithin
    have happly : applyPatch snapshot.stateJson patch
        = .ok (snapshot.stateJson.payload patch) :=
      applyPatch_ok_iff.mpr ⟨hbase, rfl, hvalid⟩
    -- The version the patch is based on is the stored one.
    have hversion : snapshot.stateJson.stateVersion
        = snapshot.stateVersion := by
      rw [hrecorded.stored]
      rfl
    rw [← hid] at hnew
    exact ⟨_, synchronize_ok_iff.mpr ⟨snapshot, row, patch, hsnapshot, hrow,
      (hlease row).mpr hall, hversion, hpatch, happly,
      (refuses_eq_false_iff hsound hsnapshot happly).mpr hnew, rfl⟩⟩

/-- A patch id is used once. -/
theorem synchronize_accepted_iff_used :
    ¬ ∃ result, sampleRun.synchronize sampleRuntime 1 "planner" none 5
      = .ok result := by
  intro h
  obtain ⟨-, -, -, -, -, -, -, hnew⟩ :=
    (synchronize_accepted_iff sampleRun_reachable 1 "planner" none 5).mp h
  have hused : sampleRun.patches.any (fun old => old.id = 5) = true := by
    decide +kernel
  obtain ⟨old, hold, hid⟩ := List.any_eq_true.mp hused
  exact hnew old hold (of_decide_eq_true hid)

-- ============================================================= what is shown

/-- A run reads every evidence row once. -/
theorem nodup_evidenceRows (business : BusinessTables) (runId : UUID) :
    ((business.evidenceRows runId).map (·.1.id)).Nodup := by
  have hids := business.evidence_ids
  refine nodup_filterMap_key ?_ ?_
  · rw [(List.mergeSort_perm _ _).nodup_iff]
    exact (List.Nodup.of_map _ hids).filter _
  · intro a ha b hb r t hr ht hid
    obtain ⟨source, -, hr⟩ := Option.map_eq_some_iff.mp hr
    obtain ⟨source', -, ht⟩ := Option.map_eq_some_iff.mp ht
    rw [← hr, ← ht] at hid
    have ha' := List.mem_of_mem_filter (List.mem_mergeSort.mp ha)
    have hb' := List.mem_of_mem_filter (List.mem_mergeSort.mp hb)
    exact List.inj_on_of_nodup_map hids ha' hb' hid

/-- And every gap row. -/
theorem nodup_gapRows (business : BusinessTables) (runId : UUID) :
    ((business.gapRows runId).map (·.id)).Nodup := by
  have hperm := (List.mergeSort_perm (business.gaps.filter fun row =>
    row.runId = runId) fun a b =>
      createdBefore (a.createdAt, a.id) (b.createdAt, b.id)).map (·.id)
  rw [BusinessTables.gapRows, hperm.nodup_iff]
  exact (List.filter_sublist.map _).nodup business.gap_ids

/-- How a gap row is shown. -/
theorem projectGap_resolved {uuid5 : Uuid5}
    {evidenceRows : List (ResearchEvidenceRow × ResearchSourceRow)}
    {g : ResearchGapRow} {gap : ResearchGap}
    (h : projectGap uuid5 runId g
      (claimIdsByQuestion evidenceRows g.questionId) = some gap) :
    gap.status = .resolved ↔ gapStatus g.status = .resolved
      ∧ ∃ r ∈ evidenceRows, r.1.questionId = g.questionId := by
  have hsome : claimIdsByQuestion evidenceRows g.questionId ≠ []
      ↔ ∃ r ∈ evidenceRows, r.1.questionId = g.questionId := by
    simp [claimIdsByQuestion]
  rw [(projectGap_spec h).2.1, ← hsome]
  unfold resolution
  by_cases hresolved : gapStatus g.status = .resolved
  · rw [if_pos hresolved]
    cases claimIdsByQuestion evidenceRows g.questionId with
    | nil => simp
    | cons id ids => simp [hresolved]
  · rw [if_neg hresolved]
    simp [hresolved]

theorem forall_ids_iff {α κ : Type} {f : α → κ} {l : List α} {k : κ} :
    (∀ a ∈ l, f a ≠ k) ↔ k ∉ l.map f := by
  simp

section

variable {uuid5 : Uuid5} {business : BusinessTables}

/-- What is known after a patch of the rows. -/
theorem PatchOf.mem_known_iff
    (h : PatchOf uuid5 runId row (business.evidenceRows runId)
      (business.gapRows runId) patch)
    (hpatched : Patched s patch s') (hs : s.Valid) (hs' : s'.Valid)
    (claim : KnownClaimRef) :
    claim ∈ s'.known
      ↔ (∃ r ∈ business.evidenceRows runId,
          knownClaim uuid5 runId r = some claim)
        ∨ claim ∈ s.known
          ∧ ∀ r ∈ business.evidenceRows runId, r.1.id ≠ claim.claimId := by
  have hnodup : (patch.knownUpserts.map KnownClaimRef.claimId).Nodup := by
    rw [h.claimIds]
    exact nodup_evidenceRows ..
  rw [hpatched.known.mem_iff hs'.claims_unique hnodup hs.claims_unique,
    Outcome.mem_iff_of_forall₂ h.claims, forall_ids_iff, h.claimIds,
    ← forall_ids_iff]

/-- The gaps after a patch of the rows. -/
theorem PatchOf.mem_gaps_iff
    (h : PatchOf uuid5 runId row (business.evidenceRows runId)
      (business.gapRows runId) patch)
    (hpatched : Patched s patch s') (hs : s.Valid) (hs' : s'.Valid)
    (gap : ResearchGap) :
    gap ∈ s'.gaps
      ↔ (∃ g ∈ business.gapRows runId, projectGap uuid5 runId g
          (claimIdsByQuestion (business.evidenceRows runId) g.questionId)
            = some gap)
        ∨ gap ∈ s.gaps
          ∧ ∀ g ∈ business.gapRows runId, g.id ≠ gap.gapId := by
  have hnodup : (patch.gapUpserts.map ResearchGap.gapId).Nodup := by
    rw [h.gapIds]
    exact nodup_gapRows ..
  rw [hpatched.gaps.mem_iff hs'.gaps_unique hnodup hs.gaps_unique,
    Outcome.mem_iff_of_forall₂ h.gaps, forall_ids_iff, h.gapIds,
    ← forall_ids_iff]

end

/-- After a synchronisation of a reachable state the known claims are the
projections of the accepted rows, and those earlier ones that are of no
such row; each gap row is shown, as resolved exactly if it is resolved
and there is accepted evidence of its question; and gaps of no row are
those of before. -/
theorem synchronize_shows (h : Reachable (stateTableSystem rt) tables)
    {nodeName : String} {workerTaskId : Option Run.TaskId}
    (hok : tables.synchronize rt runId nodeName workerTaskId patchId
      = .ok (tables', s')) :
    ∃ snapshot, tables.snapshots runId = some snapshot
      ∧ (∀ claim, claim ∈ s'.known
        ↔ (∃ r ∈ tables.business.evidenceRows runId,
            knownClaim rt.uuid5 runId r = some claim)
          ∨ claim ∈ snapshot.stateJson.known
            ∧ ∀ r ∈ tables.business.evidenceRows runId,
              r.1.id ≠ claim.claimId)
      ∧ (∀ g ∈ tables.business.gapRows runId, ∃ gap ∈ s'.gaps,
        gap.gapId = g.id
          ∧ (gap.status = .resolved ↔ gapStatus g.status = .resolved
            ∧ ∃ r ∈ tables.business.evidenceRows runId,
              r.1.questionId = g.questionId))
      ∧ ∀ gap ∈ s'.gaps, (∀ g ∈ tables.business.gapRows runId,
        g.id ≠ gap.gapId) → gap ∈ snapshot.stateJson.gaps := by
  obtain ⟨snapshot, row, patch, hsnapshot, -, -, -, hpatch, happly, -, -⟩ :=
    synchronize_ok_iff.mp hok
  have hsourced :=
    ((sound_reachable h).recorded runId snapshot hsnapshot).sourced
  obtain ⟨-, hpayload, hvalid⟩ := applyPatch_ok_iff.mp happly
  have hpatched : Patched snapshot.stateJson patch s' := by
    rw [hpayload]
    exact payload_patched hsourced.valid patch
  obtain ⟨-, -, hpatchOf⟩ := projectedPatch_spec hpatch
  have hshown := hpatchOf.mem_gaps_iff hpatched hsourced.valid hvalid
  refine ⟨snapshot, hsnapshot,
    hpatchOf.mem_known_iff hpatched hsourced.valid hvalid, ?_, ?_⟩
  · intro g hg
    obtain ⟨gap, -, hproject⟩ :=
      Outcome.exists_of_mem_forall₂ hpatchOf.gaps.flip hg
    exact ⟨gap, (hshown gap).mpr (.inl ⟨g, hg, hproject⟩),
      (projectGap_spec hproject).1, projectGap_resolved hproject⟩
  · intro gap hgap hother
    rcases (hshown gap).mp hgap with ⟨g, hg, hproject⟩ | ⟨hold, -⟩
    · exact absurd (projectGap_spec hproject).1.symm (hother g hg)
    · exact hold

theorem synchronize_shows_again : ∃ tables' s',
    sampleRun.synchronize sampleRuntime 1 "report_writer" none 6
        = .ok (tables', s')
      ∧ ∃ gap ∈ s'.gaps, gap.gapId = 4 := by
  have hsome : (sampleRun.synchronize sampleRuntime 1 "report_writer" none
      6).toOption.isSome = true := by decide +kernel
  cases hok : sampleRun.synchronize sampleRuntime 1 "report_writer" none 6
    with
  | error e =>
      rw [hok] at hsome
      cases hsome
  | ok result =>
      obtain ⟨tables', s'⟩ := result
      obtain ⟨-, -, -, hgaps, -⟩ :=
        synchronize_shows sampleRun_reachable hok
      have hrow : (sampleRun.business.gapRows 1).any (fun g => g.id = 4)
          = true := by decide +kernel
      obtain ⟨g, hg, hid⟩ := List.any_eq_true.mp hrow
      obtain ⟨gap, hgap, hgapId, -⟩ := hgaps g hg
      exact ⟨tables', s', rfl, gap, hgap,
        hgapId.trans (of_decide_eq_true hid)⟩

end DeepResearch.State
