/-
The stored state of a run is what its journal makes of the first one.

# The journal

`audited` applies the patch of a journal row and compares the versions and
the hash that the row carries. A row that a synchronisation appends is
passed (`step_cases`), so by induction over the run the whole journal is:
it leads from the state at initialisation to the stored one
(`journal_audits`), and so does every part of it.

# What is never refused

A synchronisation makes patches of the stored version only, upserts by id
and never names an action. So of all the checks it runs through, those
of the versions, of the unique ids, of the targets and of the constraint
on run and version pass in every reachable state
(`synchronize_accepted_iff`).
-/
import DeepResearch.State.Runtime
import DeepResearch.State.Proofs.Reducer

namespace DeepResearch.State

open Transition

variable {rt : StateRuntime}

-- ================================================================ the journal

/-- A journal row is applied, if it says of the result what is true. -/
def audited (rt : StateRuntime) (s : ResearchState)
    (row : ResearchStatePatchRow) : Option ResearchState :=
  match applyPatch s row.patchJson with
  | .error _ => none
  | .ok updated =>
      if row.baseVersion = row.patchJson.baseVersion
          ∧ row.resultVersion = updated.stateVersion
          ∧ row.resultStateHash = rt.stateHash updated then some updated
      else none

/-- An audit succeeds when the patch applies and the row has the versions
and the hash of what it leaves. -/
theorem audited_eq_some_iff {s s' : ResearchState}
    {row : ResearchStatePatchRow} : audited rt s row = some s'
      ↔ applyPatch s row.patchJson = .ok s'
        ∧ row.baseVersion = row.patchJson.baseVersion
        ∧ row.resultVersion = s'.stateVersion
        ∧ row.resultStateHash = rt.stateHash s' := by
  unfold audited
  cases h : applyPatch s row.patchJson with
  | error e => simp
  | ok updated =>
      simp only [Option.ite_none_right_eq_some, Except.ok.injEq,
        Option.some.injEq]
      constructor
      · intro ⟨htrue, hs'⟩
        rw [← hs']
        exact ⟨rfl, htrue⟩
      · intro ⟨hs', htrue⟩
        rw [← hs'] at htrue
        exact ⟨htrue, hs'⟩

/-- An accepted patch raises the version by one. -/
theorem stateVersion_applyPatch {s s' : ResearchState} {p : StatePatch}
    (h : applyPatch s p = .ok s') : s'.stateVersion = s.stateVersion + 1 := by
  obtain ⟨-, hs', -⟩ := applyPatch_ok_iff.mp h
  rw [hs']
  rfl

/-- The journals of the stored states. -/
def stateJournal (rt : StateRuntime) :
    Journal ResearchState ResearchStatePatchRow where
  apply := audited rt
  version := ResearchState.stateVersion
  base := ResearchStatePatchRow.baseVersion
  base_eq h := by
    obtain ⟨happly, hbase, -⟩ := audited_eq_some_iff.mp h
    rw [hbase]
    exact (applyPatch_ok_iff.mp happly).1
  version_eq h := stateVersion_applyPatch (audited_eq_some_iff.mp h).1

/-- The rows name the versions that they lead to. -/
theorem resultVersion_replay {s t : ResearchState}
    {rows : List ResearchStatePatchRow}
    (h : (stateJournal rt).replay s rows = some t) :
    rows.map ResearchStatePatchRow.resultVersion
      = List.range' (s.stateVersion + 1) rows.length := by
  induction rows generalizing s with
  | nil => rfl
  | cons row rows ih =>
      obtain ⟨s', hrow, hrows⟩ := Option.bind_eq_some_iff.mp h
      have hversion := (stateJournal rt).version_eq hrow
      have hresult := (audited_eq_some_iff.mp hrow).2.2.1
      have hnext : s'.stateVersion = s.stateVersion + 1 := hversion
      rw [List.map_cons, ih hrows, hresult, hnext, List.length_cons,
        List.range'_succ]

-- ============================================================= the operations

variable {tables tables' : StateTables} {runId : UUID} {s s' : ResearchState}

/-- A state at initialisation. -/
structure Initial (runId : UUID) (s : ResearchState) : Prop where
  run : s.runId = runId
  version : s.stateVersion = 0
  known : s.known = []
  gaps : s.gaps = []
  action : s.nextAction = none
  valid : s.Valid

/-- The state a run starts with, once it is valid, is an initial one. -/
theorem initial_of_initialState {row : ProjectedRun}
    (h : initialState runId row = some s) (hvalid : s.Valid) :
    Initial runId s := by
  obtain ⟨coverage, -, hs⟩ := Option.bind_eq_some_iff.mp h
  cases hs
  exact ⟨rfl, rfl, rfl, rfl, rfl, hvalid⟩

/-- What an initialisation can do. -/
theorem ensureInitialized_cases
    (h : tables.ensureInitialized rt runId = .ok (tables', s)) :
    tables' = tables
      ∨ tables.snapshots runId = none
        ∧ tables' = tables.store runId (rt.snapshotRow s)
        ∧ Initial runId s := by
  unfold StateTables.ensureInitialized at h
  split at h
  · cases h
    exact .inl rfl
  · rename_i hnone
    split at h
    · cases h
    · split at h
      · cases h
      · rename_i payload hpayload
        split at h
        · cases h
        · rename_i state hstate
          cases h
          obtain ⟨hsame, hvalid⟩ :=
            ResearchState.modelValidate_ok_iff.mp hstate
          rw [← hsame] at hpayload hvalid
          exact .inr ⟨hnone, rfl, initial_of_initialState hpayload hvalid⟩

section

variable {nodeName : String} {workerTaskId : Option Run.TaskId}
  {patchId : UUID}

/-- What a synchronisation needs, and what it does. -/
theorem synchronize_ok_iff :
    tables.synchronize rt runId nodeName workerTaskId patchId
        = .ok (tables', s')
      ↔ ∃ snapshot row patch, tables.snapshots runId = some snapshot
        ∧ tables.business.runs runId = some row
        ∧ workerTaskId.all (row.run.workerTaskId = some ·) = true
        ∧ snapshot.stateJson.stateVersion = snapshot.stateVersion
        ∧ tables.patch rt runId row patchId snapshot.stateJson.stateVersion
          = some patch
        ∧ applyPatch snapshot.stateJson patch = .ok s'
        ∧ tables.refuses (StateTables.patchRow rt runId nodeName patch s')
          = false
        ∧ tables' = tables.append rt runId
          (StateTables.patchRow rt runId nodeName patch s') s' := by
  unfold StateTables.synchronize
  cases hsnapshot : tables.snapshots runId with
  | none => simp
  | some snapshot =>
      cases hrow : tables.business.runs runId with
      | none => simp
      | some row =>
          simp only [Outcome.check_ok_iff, not_not, ne_eq, Option.some.injEq,
            exists_and_left, exists_eq_left']
          refine and_congr_right fun hlease => and_congr_right fun hversion =>
            ?_
          cases hpatch : tables.patch rt runId row patchId
              snapshot.stateJson.stateVersion with
          | none => simp
          | some patch =>
              cases happly : applyPatch snapshot.stateJson patch with
              | error e => simp [happly]
              | ok updated =>
                  simp only [happly, Outcome.check_ok_iff, Except.ok.injEq,
                    Prod.mk.injEq, Option.some.injEq, exists_eq_left',
                    Bool.not_eq_true]
                  constructor
                  · intro ⟨hnew, htables, hs'⟩
                    rw [← hs']
                    exact ⟨rfl, hnew, htables.symm⟩
                  · intro ⟨hs', hnew, htables⟩
                    rw [← hs'] at hnew htables
                    exact ⟨hnew, htables.symm, hs'⟩

end

-- ================================================================ the patches

/-- A gap is resolved exactly if it cites claims, and those are known. -/
structure Cites (claims : List UUID) (gap : ResearchGap) : Prop where
  resolved : gap.status = .resolved ↔ gap.resolvedByClaimIds ≠ []
  known : ∀ id ∈ gap.resolvedByClaimIds, id ∈ claims

/-- A claim of an accepted row. -/
structure Grounded (claim : KnownClaimRef) : Prop where
  supported : claim.status = .supported
  evidence : claim.evidenceIds = [claim.claimId]

/-- What a patch of the rows is like. -/
structure Projected (patch : StatePatch) : Prop where
  action : patch.nextAction = none
  claims : ∀ claim ∈ patch.knownUpserts, Grounded claim
  gaps : ∀ gap ∈ patch.gapUpserts,
    Cites (patch.knownUpserts.map KnownClaimRef.claimId) gap

section

variable {uuid5 : Uuid5} {row : ProjectedRun} {patch : StatePatch}
  {evidenceRows : List (ResearchEvidenceRow × ResearchSourceRow)}
  {gapRows : List ResearchGapRow} {patchId : UUID} {baseVersion : Nat}

/-- A claim that is projected has the id of its evidence row and is
grounded in its source. -/
theorem knownClaim_spec {r : ResearchEvidenceRow × ResearchSourceRow}
    {claim : KnownClaimRef} (h : knownClaim uuid5 runId r = some claim) :
    claim.claimId = r.1.id ∧ Grounded claim := by
  obtain ⟨dimensionKey, -, h⟩ := Option.bind_eq_some_iff.mp h
  cases h
  exact ⟨rfl, rfl, rfl⟩

/-- A gap is shown with the status and the claims of its resolution. -/
theorem projectGap_spec {g : ResearchGapRow} {claimIds : List UUID}
    {gap : ResearchGap} (h : projectGap uuid5 runId g claimIds = some gap) :
    gap.gapId = g.id
      ∧ gap.status = (resolution (gapStatus g.status) claimIds).1
      ∧ gap.resolvedByClaimIds
        = (resolution (gapStatus g.status) claimIds).2 := by
  obtain ⟨dimensionKey, -, h⟩ := Option.bind_eq_some_iff.mp h
  obtain ⟨description, -, h⟩ := Option.bind_eq_some_iff.mp h
  obtain ⟨acceptance, -, h⟩ := Option.bind_eq_some_iff.mp h
  cases h
  exact ⟨rfl, rfl, rfl⟩

/-- The claims that resolve a gap are among those of its question. -/
theorem mem_resolution {status : GapStatus} {claimIds : List UUID}
    {id : UUID} (h : id ∈ (resolution status claimIds).2) :
    id ∈ claimIds := by
  unfold resolution at h
  split at h
  · split at h
    · cases h
    · exact h
  · cases h

/-- A projected gap cites among the claims of its question. -/
theorem cites_projectGap {g : ResearchGapRow} {claimIds : List UUID}
    {gap : ResearchGap} (h : projectGap uuid5 runId g claimIds = some gap) :
    Cites claimIds gap := by
  obtain ⟨-, hstatus, hids⟩ := projectGap_spec h
  constructor
  · rw [hstatus, hids]
    exact resolution_cites ..
  · intro id hid
    rw [hids] at hid
    exact mem_resolution hid

/-- What the patch of the rows says. -/
structure PatchOf (uuid5 : Uuid5) (runId : UUID) (row : ProjectedRun)
    (evidenceRows : List (ResearchEvidenceRow × ResearchSourceRow))
    (gapRows : List ResearchGapRow) (patch : StatePatch) : Prop where
  action : patch.nextAction = none
  claims : List.Forall₂ (fun r claim => knownClaim uuid5 runId r = some claim)
    evidenceRows patch.knownUpserts
  gaps : List.Forall₂ (fun g gap => projectGap uuid5 runId g
      (claimIdsByQuestion evidenceRows g.questionId) = some gap)
    gapRows patch.gapUpserts
  coverage : ∃ coverage, coverageMap row = some coverage
  usage : patch.budgetUsage = some (budgetUsage row)
  phase : patch.phase = some (statePhase row.run.phase)
  status : patch.status = some (Run.stateStatus row.run.status row.run.phase)
  reason : patch.stopReason = Run.stopReason row.run.terminationReason
  clear : patch.clearStopReason = decide (row.run.terminationReason = none)

/-- The patch of a synchronisation has the id and the base version it was
given, and says what the rows say. -/
theorem projectedPatch_spec (h : projectedPatch uuid5 runId row
    evidenceRows gapRows patchId baseVersion = some patch) :
    patch.patchId = patchId ∧ patch.baseVersion = baseVersion
      ∧ PatchOf uuid5 runId row evidenceRows gapRows patch := by
  obtain ⟨known, hknown, h⟩ := Option.bind_eq_some_iff.mp h
  obtain ⟨gaps, hgaps, h⟩ := Option.bind_eq_some_iff.mp h
  obtain ⟨coverage, hcoverage, h⟩ := Option.bind_eq_some_iff.mp h
  cases h
  exact ⟨rfl, rfl, rfl, Outcome.mapM_some_iff.mp hknown,
    Outcome.mapM_some_iff.mp hgaps, ⟨coverage, hcoverage⟩, rfl, rfl, rfl, rfl,
    rfl⟩

/-- The claims of the patch are those of the evidence rows, in their order.
-/
theorem PatchOf.claimIds
    (h : PatchOf uuid5 runId row evidenceRows gapRows patch) :
    patch.knownUpserts.map KnownClaimRef.claimId
      = evidenceRows.map (·.1.id) :=
  Outcome.map_eq_of_forall₂ h.claims fun _ _ hr => (knownClaim_spec hr).1

/-- The gaps of the patch are those of the gap rows, in their order. -/
theorem PatchOf.gapIds
    (h : PatchOf uuid5 runId row evidenceRows gapRows patch) :
    patch.gapUpserts.map ResearchGap.gapId = gapRows.map (·.id) :=
  Outcome.map_eq_of_forall₂ h.gaps fun _ _ hg => (projectGap_spec hg).1

/-- A patch of the rows is grounded in them. -/
theorem PatchOf.projected
    (h : PatchOf uuid5 runId row evidenceRows gapRows patch) :
    Projected patch := by
  refine ⟨h.action, ?_, ?_⟩
  · intro claim hclaim
    obtain ⟨r, -, hr⟩ := Outcome.exists_of_mem_forall₂ h.claims hclaim
    exact (knownClaim_spec hr).2
  · intro gap hgap
    obtain ⟨g, -, hg⟩ := Outcome.exists_of_mem_forall₂ h.gaps hgap
    obtain ⟨hresolved, hids⟩ := cites_projectGap hg
    refine ⟨hresolved, fun id hid => ?_⟩
    rw [h.claimIds]
    obtain ⟨r, hr, hid⟩ := List.mem_map.mp (hids id hid)
    rw [← hid]
    exact List.mem_map.mpr ⟨r, List.mem_of_mem_filter hr, rfl⟩

end

-- ================================================================== the steps

/-- What a transaction can do. -/
theorem step_cases (rt : StateRuntime) (tables : StateTables)
    (a : StateTransaction) :
    (∃ business, tables.step rt a = { tables with business := business })
      ∨ (∃ runId s, tables.snapshots runId = none ∧ Initial runId s
        ∧ tables.step rt a = tables.store runId (rt.snapshotRow s))
      ∨ ∃ runId nodeName snapshot patch s',
        tables.snapshots runId = some snapshot ∧ Projected patch
          ∧ applyPatch snapshot.stateJson patch = .ok s'
          ∧ tables.step rt a = tables.append rt runId
            (StateTables.patchRow rt runId nodeName patch s') s' := by
  cases a with
  | write business => exact .inl ⟨business, rfl⟩
  | ensureInitialized runId =>
      show (∃ business, tables.left (tables.ensureInitialized rt runId) = _) ∨ _
      cases hresult : tables.ensureInitialized rt runId with
      | error e => exact .inl ⟨tables.business, rfl⟩
      | ok result =>
          obtain ⟨tables', s⟩ := result
          rcases ensureInitialized_cases hresult with
            hsame | ⟨hnone, hstore, hinitial⟩
          · exact .inl ⟨tables.business, hsame⟩
          · refine .inr (.inl ⟨runId, s, hnone, hinitial, ?_⟩)
            show tables.left (tables.ensureInitialized rt runId) = _
            rw [hresult]
            exact hstore
  | synchronize runId nodeName workerTaskId patchId =>
      show (∃ business, tables.left
        (tables.synchronize rt runId nodeName workerTaskId patchId) = _) ∨ _
      cases hresult :
          tables.synchronize rt runId nodeName workerTaskId patchId with
      | error e => exact .inl ⟨tables.business, rfl⟩
      | ok result =>
          obtain ⟨tables', s'⟩ := result
          obtain ⟨snapshot, row, patch, hsnapshot, -, -, -, hpatch, happly, -,
            happend⟩ := synchronize_ok_iff.mp hresult
          refine .inr (.inr ⟨runId, nodeName, snapshot, patch, s', hsnapshot,
            (projectedPatch_spec hpatch).2.2.projected, happly, ?_⟩)
          show tables.left
            (tables.synchronize rt runId nodeName workerTaskId patchId) = _
          rw [hresult]
          exact happend

-- ============================================================= the invariant

/-- A snapshot that is found after a write is the one written or was there
before. -/
theorem store_cases {row snapshot : ResearchStateSnapshotRow} {other : UUID}
    (h : (tables.store runId row).snapshots other = some snapshot) :
    other = runId ∧ snapshot = row
      ∨ other ≠ runId ∧ tables.snapshots other = some snapshot := by
  by_cases hother : other = runId
  · subst hother
    have hself : (tables.store other row).snapshots other = some row :=
      Function.update_self ..
    rw [hself] at h
    exact .inl ⟨rfl, (Option.some.inj h).symm⟩
  · have hold : (tables.store runId row).snapshots other
        = tables.snapshots other := Function.update_of_ne hother ..
    rw [hold] at h
    exact .inr ⟨hother, h⟩

/-- A run without a snapshot after a write had none before, and is another
one. -/
theorem store_none {row : ResearchStateSnapshotRow} {other : UUID}
    (h : (tables.store runId row).snapshots other = none) :
    other ≠ runId ∧ tables.snapshots other = none := by
  have hother : other ≠ runId := by
    intro heq
    subst heq
    have hself : (tables.store other row).snapshots other = some row :=
      Function.update_self ..
    rw [hself] at h
    cases h
  have hold : (tables.store runId row).snapshots other
      = tables.snapshots other := Function.update_of_ne hother ..
  exact ⟨hother, hold.symm.trans h⟩

/-- The journal of the run gets the row at its end. -/
theorem journal_append_self {row : ResearchStatePatchRow} {other : UUID}
    (h : row.runId = other) :
    (tables.append rt runId row s').journal other
      = tables.journal other ++ [row] := by
  unfold StateTables.journal StateTables.append
  rw [List.filter_append, List.filter_cons_of_pos (by simpa using h),
    List.filter_nil]

/-- The other journals stay as they are. -/
theorem journal_append_of_ne {row : ResearchStatePatchRow} {other : UUID}
    (h : row.runId ≠ other) :
    (tables.append rt runId row s').journal other
      = tables.journal other := by
  unfold StateTables.journal StateTables.append
  rw [List.filter_append, List.filter_cons_of_neg (by simpa using h),
    List.filter_nil, List.append_nil]

/-- A snapshot and its journal. -/
structure Recorded (rt : StateRuntime) (runId : UUID)
    (journal : List ResearchStatePatchRow)
    (snapshot : ResearchStateSnapshotRow) : Prop where
  replayed : ∃ first, Initial runId first
    ∧ (stateJournal rt).replay first journal = some snapshot.stateJson
  stored : snapshot = rt.snapshotRow snapshot.stateJson
  projected : ∀ row ∈ journal, Projected row.patchJson

/-- The invariant of the tables. -/
structure StateTables.Sound (rt : StateRuntime) (tables : StateTables) :
    Prop where
  recorded : ∀ runId snapshot, tables.snapshots runId = some snapshot →
    Recorded rt runId (tables.journal runId) snapshot
  unopened : ∀ runId, tables.snapshots runId = none →
    tables.journal runId = []

/-- The first snapshot is recorded by an empty journal. -/
theorem recorded_first (h : Initial runId s) :
    Recorded rt runId [] (rt.snapshotRow s) where
  replayed := ⟨s, h, rfl⟩
  stored := rfl
  projected _ hrow := absurd hrow List.not_mem_nil

/-- A synchronisation adds what the audit passes. -/
theorem Recorded.append {journal : List ResearchStatePatchRow}
    {snapshot : ResearchStateSnapshotRow} {nodeName : String}
    {patch : StatePatch} (h : Recorded rt runId journal snapshot)
    (hpatch : Projected patch)
    (happly : applyPatch snapshot.stateJson patch = .ok s') :
    Recorded rt runId
      (journal ++ [StateTables.patchRow rt runId nodeName patch s'])
      (rt.snapshotRow s') where
  replayed := by
    obtain ⟨first, hfirst, hreplay⟩ := h.replayed
    refine ⟨first, hfirst, Journal.replay_concat hreplay ?_⟩
    exact audited_eq_some_iff.mpr ⟨happly, rfl, rfl, rfl⟩
  stored := rfl
  projected row hrow := by
    rcases List.mem_append.mp hrow with hold | hnew
    · exact h.projected row hold
    · rw [List.mem_singleton.mp hnew]
      exact hpatch

/-- Every transaction keeps the tables sound. -/
theorem StateTables.Sound.step (h : tables.Sound rt) (a : StateTransaction) :
    (tables.step rt a).Sound rt := by
  obtain ⟨business, hstep⟩ | ⟨runId, s, hnone, hinitial, hstep⟩
    | ⟨runId, nodeName, snapshot, patch, s', hsnapshot, hpatch, happly,
        hstep⟩ := step_cases rt tables a
  · rw [hstep]
    exact ⟨h.recorded, h.unopened⟩
  · rw [hstep]
    constructor
    · intro other snapshot hsnapshot
      show Recorded rt other (tables.journal other) snapshot
      rcases store_cases hsnapshot with ⟨hother, hnew⟩ | ⟨-, hold⟩
      · rw [hother, hnew, h.unopened runId hnone]
        exact recorded_first hinitial
      · exact h.recorded other snapshot hold
    · intro other hother
      exact h.unopened other (store_none hother).2
  · rw [hstep]
    constructor
    · intro other snapshot' hsnapshot'
      rcases store_cases hsnapshot' with ⟨hother, hnew⟩ | ⟨hother, hold⟩
      · rw [journal_append_self hother.symm, hother, hnew]
        exact (h.recorded runId snapshot hsnapshot).append hpatch happly
      · rw [journal_append_of_ne (Ne.symm hother)]
        exact h.recorded other snapshot' hold
    · intro other hother
      obtain ⟨hne, hnone⟩ := store_none hother
      rw [journal_append_of_ne (Ne.symm hne)]
      exact h.unopened other hnone

/-- The tables are sound in every state that is reached. -/
theorem sound_reachable (h : Reachable (stateTableSystem rt) tables) :
    tables.Sound rt := by
  refine h.invariant ?_ fun _ a hs => hs.step a
  intro tables ⟨hnone, hempty⟩
  constructor
  · intro runId snapshot hsnapshot
    rw [hnone] at hsnapshot
    cases hsnapshot
  · intro runId _
    unfold StateTables.journal
    rw [hempty]
    rfl

/-- An audited row leaves a valid state. -/
theorem audited_valid {row : ResearchStatePatchRow}
    (h : audited rt s row = some s') : s'.Valid :=
  (applyPatch_ok_iff.mp (audited_eq_some_iff.mp h).1).2.2

/-- A replay passes through valid states only. -/
theorem replay_valid {rows : List ResearchStatePatchRow} (hs : s.Valid)
    (h : (stateJournal rt).replay s rows = some s') : s'.Valid :=
  Journal.replay_invariant (fun _ _ _ _ _ hrow => audited_valid hrow) hs h

/-- In every reachable state of the tables the journal of a run numbers
the versions of its state without a gap, and applying it to the state at
initialisation gives, version by version, valid states with the hashes
that were recorded, and at last the stored state. -/
theorem journal_audits (h : Reachable (stateTableSystem rt) tables)
    {snapshot : ResearchStateSnapshotRow}
    (hsnapshot : tables.snapshots runId = some snapshot) :
    let journal := tables.journal runId
    journal.map ResearchStatePatchRow.baseVersion = List.range journal.length
      ∧ journal.map ResearchStatePatchRow.resultVersion
        = List.range' 1 journal.length
      ∧ snapshot.stateVersion = journal.length
      ∧ snapshot.stateHash = rt.stateHash snapshot.stateJson
      ∧ ∃ first, Initial runId first
        ∧ (stateJournal rt).replay first journal = some snapshot.stateJson
        ∧ ∀ n ≤ journal.length, ∃ s,
          (stateJournal rt).replay first (journal.take n) = some s
            ∧ s.Valid ∧ s.stateVersion = n := by
  intro journal
  have hrecorded := (sound_reachable h).recorded runId snapshot hsnapshot
  obtain ⟨first, hfirst, hreplay⟩ := hrecorded.replayed
  have hversion : snapshot.stateJson.stateVersion
      = first.stateVersion + journal.length := Journal.version_replay hreplay
  have hbase : journal.map ResearchStatePatchRow.baseVersion
      = List.range' first.stateVersion journal.length :=
    Journal.base_replay hreplay
  have hresult := resultVersion_replay hreplay
  -- The first state has version 0.
  rw [hfirst.version] at hversion hbase hresult
  refine ⟨?_, hresult, ?_, ?_, first, hfirst, hreplay, ?_⟩
  · rw [hbase, List.range_eq_range']
  · rw [hrecorded.stored]
    show snapshot.stateJson.stateVersion = journal.length
    rw [hversion, Nat.zero_add]
  · rw [hrecorded.stored]
    rfl
  · intro n hn
    obtain ⟨s, hs, -⟩ := Journal.replay_take hreplay n
    refine ⟨s, hs, replay_valid hfirst.valid hs, ?_⟩
    have hn' : s.stateVersion
        = first.stateVersion + (journal.take n).length :=
      Journal.version_replay hs
    rw [hn', hfirst.version, List.length_take, Nat.zero_add]
    exact Nat.min_eq_left hn

/-- Functions to evaluate the model with. -/
def sampleRuntime : StateRuntime := ⟨fun name _ => name, fun _ => ""⟩

/-- A run with accepted evidence of a question, whose gap is resolved. -/
def sampleBusiness : BusinessTables where
  runs runId :=
    if runId = 1 then some { run := Run.ResearchRunRow.created {} 0 }
    else none
  evidence := [⟨2, 1, "q1", 3, .finite 1, true, 0⟩]
  sources := [⟨3, "example.org"⟩]
  gaps := [⟨4, 1, "q1", "missing", "why", "one source", .finite 1, 0,
    "resolved", 0⟩]
  evidence_ids := List.nodup_singleton _
  source_ids := List.nodup_singleton _
  gap_ids := List.nodup_singleton _

/-- The tables at first. -/
def sampleTables : StateTables where
  business := ⟨fun _ => none, [], [], [], List.nodup_nil, List.nodup_nil,
    List.nodup_nil⟩

/-- The run gets its state, and the planner synchronises it. -/
def sampleRun : StateTables :=
  (stateTableSystem sampleRuntime).exec sampleTables
    [.write sampleBusiness, .ensureInitialized 1,
      .synchronize 1 "planner" none 5]

theorem sampleRun_reachable :
    Reachable (stateTableSystem sampleRuntime) sampleRun := by
  have hinit : (stateTableSystem sampleRuntime).init sampleTables :=
    ⟨rfl, rfl⟩
  exact (Reachable.init hinit).exec _

theorem exists_sampleSnapshot :
    ∃ snapshot, sampleRun.snapshots 1 = some snapshot :=
  Option.isSome_iff_exists.mp (by decide +kernel)

theorem journal_audits_first :
    ∃ snapshot, sampleRun.snapshots 1 = some snapshot
      ∧ snapshot.stateVersion = 1 := by
  obtain ⟨snapshot, hsnapshot⟩ := exists_sampleSnapshot
  have hversion := (journal_audits sampleRun_reachable hsnapshot).2.2.1
  have hlength : (sampleRun.journal 1).length = 1 := by decide +kernel
  exact ⟨snapshot, hsnapshot, hversion.trans hlength⟩

-- ================================================================ the claims

/-- A state that shows what the rows showed. -/
structure Sourced (s : ResearchState) : Prop where
  valid : s.Valid
  action : s.nextAction = none
  claims : ∀ claim ∈ s.known, Grounded claim
  gaps : ∀ gap ∈ s.gaps, Cites (s.known.map KnownClaimRef.claimId) gap

/-- An initial state has neither claims nor gaps. -/
theorem Initial.sourced (h : Initial runId s) : Sourced s where
  valid := h.valid
  action := h.action
  claims claim hclaim := by
    rw [h.known] at hclaim
    cases hclaim
  gaps gap hgap := by
    rw [h.gaps] at hgap
    cases hgap

/-- A patch of the rows keeps the citations. -/
theorem Sourced.applyPatch {p : StatePatch} (h : Sourced s)
    (hp : Projected p) (happly : applyPatch s p = .ok s') : Sourced s' := by
  obtain ⟨-, hpayload, hvalid⟩ := applyPatch_ok_iff.mp happly
  have hpatched : Patched s p s' := by
    rw [hpayload]
    exact payload_patched h.valid p
  refine ⟨hvalid, ?_, ?_, ?_⟩
  · rw [hpatched.nextAction.kept (by rw [hp.action]; rfl)]
    exact h.action
  · intro claim hclaim
    rcases hpatched.known.mem_or_mem hvalid.claims_unique hclaim with
      hnew | hold
    · exact hp.claims claim hnew
    · exact h.claims claim hold
  · intro gap hgap
    rcases hpatched.gaps.mem_or_mem hvalid.gaps_unique hgap with hnew | hold
    · obtain ⟨hresolved, hids⟩ := hp.gaps gap hnew
      exact ⟨hresolved, fun id hid =>
        hpatched.known.mem_key_iff.mpr (.inr (hids id hid))⟩
    · obtain ⟨hresolved, hids⟩ := h.gaps gap hold
      exact ⟨hresolved, fun id hid =>
        hpatched.known.mem_key_iff.mpr (.inl (hids id hid))⟩

/-- A snapshot is replayed from patches of the rows, each of which keeps
the citations. -/
theorem Recorded.sourced {journal : List ResearchStatePatchRow}
    {snapshot : ResearchStateSnapshotRow}
    (h : Recorded rt runId journal snapshot) :
    Sourced snapshot.stateJson := by
  obtain ⟨first, hfirst, hreplay⟩ := h.replayed
  refine Journal.replay_invariant ?_ hfirst.sourced hreplay
  intro row hrow s s' hs hstep
  exact hs.applyPatch (h.projected row hrow) (audited_eq_some_iff.mp hstep).1

/-- In every reachable state of the tables, every claim of a stored state
is supported, by itself, and a gap is resolved exactly if it cites claims,
all of which the state knows. -/
theorem cited_claims_known (h : Reachable (stateTableSystem rt) tables)
    {snapshot : ResearchStateSnapshotRow}
    (hsnapshot : tables.snapshots runId = some snapshot) :
    (∀ claim ∈ snapshot.stateJson.known,
      claim.status = .supported ∧ claim.evidenceIds = [claim.claimId])
    ∧ ∀ gap ∈ snapshot.stateJson.gaps,
      (gap.status = .resolved ↔ gap.resolvedByClaimIds ≠ [])
      ∧ ∀ id ∈ gap.resolvedByClaimIds,
        ∃ claim ∈ snapshot.stateJson.known, claim.claimId = id := by
  have hsourced :=
    ((sound_reachable h).recorded runId snapshot hsnapshot).sourced
  constructor
  · intro claim hclaim
    obtain ⟨hsupported, hevidence⟩ := hsourced.claims claim hclaim
    exact ⟨hsupported, hevidence⟩
  · intro gap hgap
    obtain ⟨hresolved, hids⟩ := hsourced.gaps gap hgap
    exact ⟨hresolved, fun id hid => List.mem_map.mp (hids id hid)⟩

theorem cited_claims_known_first :
    ∃ snapshot, sampleRun.snapshots 1 = some snapshot
      ∧ ∀ gap ∈ snapshot.stateJson.gaps, ∀ id ∈ gap.resolvedByClaimIds,
        ∃ claim ∈ snapshot.stateJson.known, claim.claimId = id := by
  obtain ⟨snapshot, hsnapshot⟩ := exists_sampleSnapshot
  have hgaps := (cited_claims_known sampleRun_reachable hsnapshot).2
  exact ⟨snapshot, hsnapshot, fun gap hgap => (hgaps gap hgap).2⟩

-- ================================================================ the growth

/-- What later states of a run keep. -/
structure Grown (s s' : ResearchState) : Prop where
  version : s.stateVersion ≤ s'.stateVersion
  run : s'.runId = s.runId
  limits : s'.budgetLimits = s.budgetLimits
  known : s.known.map KnownClaimRef.claimId
    <+: s'.known.map KnownClaimRef.claimId
  gaps : s.gaps.map ResearchGap.gapId <+: s'.gaps.map ResearchGap.gapId

theorem Grown.refl (s : ResearchState) : Grown s s where
  version := le_refl _
  run := rfl
  limits := rfl
  known := List.prefix_refl _
  gaps := List.prefix_refl _

theorem Grown.trans {s₁ s₂ s₃ : ResearchState} (h : Grown s₁ s₂)
    (h' : Grown s₂ s₃) : Grown s₁ s₃ where
  version := h.version.trans h'.version
  run := h'.run.trans h.run
  limits := h'.limits.trans h.limits
  known := h.known.trans h'.known
  gaps := h.gaps.trans h'.gaps

/-- A patch adds claims and raises the version; it takes no claim away. -/
theorem grown_applyPatch {p : StatePatch} (hs : s.Valid)
    (h : applyPatch s p = .ok s') : Grown s s' := by
  obtain ⟨-, hpayload, -⟩ := applyPatch_ok_iff.mp h
  have hpatched : Patched s p s' := by
    rw [hpayload]
    exact payload_patched hs p
  constructor
  case version =>
    rw [hpatched.stateVersion]
    omega
  case run => exact hpatched.runId
  case limits => exact hpatched.budgetLimits
  case known => exact ⟨_, hpatched.known.keys.symm⟩
  case gaps => exact ⟨_, hpatched.gaps.keys.symm⟩

/-- One transaction. -/
theorem grown_step (hsound : tables.Sound rt) (a : StateTransaction)
    {snapshot : ResearchStateSnapshotRow}
    (hsnapshot : tables.snapshots runId = some snapshot) :
    ∃ snapshot', (tables.step rt a).snapshots runId = some snapshot'
      ∧ Grown snapshot.stateJson snapshot'.stateJson
      ∧ tables.journal runId <+: (tables.step rt a).journal runId := by
  obtain ⟨business, hstep⟩ | ⟨other, s, hnone, -, hstep⟩
    | ⟨other, nodeName, old, patch, s', hold, -, happly, hstep⟩ :=
      step_cases rt tables a
  · rw [hstep]
    exact ⟨snapshot, hsnapshot, .refl _, List.prefix_refl _⟩
  · have hne : runId ≠ other := by
      intro heq
      rw [heq, hnone] at hsnapshot
      cases hsnapshot
    rw [hstep]
    refine ⟨snapshot, ?_, .refl _, List.prefix_refl _⟩
    rw [← hsnapshot]
    exact Function.update_of_ne hne ..
  · rw [hstep]
    by_cases heq : runId = other
    · subst heq
      rw [hold] at hsnapshot
      cases hsnapshot
      refine ⟨rt.snapshotRow s', Function.update_self .., ?_, ?_⟩
      · exact grown_applyPatch
          (hsound.recorded runId snapshot hold).sourced.valid happly
      · have hrun : (StateTables.patchRow rt runId nodeName patch s').runId
            = runId := rfl
        exact ⟨_, (journal_append_self hrun).symm⟩
    · refine ⟨snapshot, ?_, .refl _, ?_⟩
      · rw [← hsnapshot]
        exact Function.update_of_ne heq ..
      · exact ⟨[], by
          rw [journal_append_of_ne (Ne.symm heq), List.append_nil]⟩

/-- Over any run a stored state stays, its version only grows, its limits
are those of its initialisation, the claims and the gaps it knows keep
their places before those that are new, and its journal is only
continued. -/
theorem snapshot_grows (h : Reachable (stateTableSystem rt) tables)
    {snapshot : ResearchStateSnapshotRow}
    (hsnapshot : tables.snapshots runId = some snapshot)
    (actions : List StateTransaction) :
    ∃ snapshot', ((stateTableSystem rt).exec tables actions).snapshots runId
        = some snapshot'
      ∧ Grown snapshot.stateJson snapshot'.stateJson
      ∧ tables.journal runId
        <+: ((stateTableSystem rt).exec tables actions).journal runId := by
  induction actions generalizing tables snapshot with
  | nil => exact ⟨snapshot, hsnapshot, .refl _, List.prefix_refl _⟩
  | cons a actions ih =>
      obtain ⟨next, hnext, hgrown, hjournal⟩ :=
        grown_step (sound_reachable h) a hsnapshot
      obtain ⟨last, hlast, hgrown', hjournal'⟩ := ih (.step a h) hnext
      exact ⟨last, hlast, hgrown.trans hgrown', hjournal.trans hjournal'⟩

theorem snapshot_grows_twice :
    ∃ snapshot snapshot', sampleRun.snapshots 1 = some snapshot
      ∧ ((stateTableSystem sampleRuntime).exec sampleRun
        [.synchronize 1 "report_writer" none 6]).snapshots 1 = some snapshot'
      ∧ snapshot.stateJson.stateVersion
        ≤ snapshot'.stateJson.stateVersion := by
  obtain ⟨snapshot, hsnapshot⟩ := exists_sampleSnapshot
  obtain ⟨snapshot', hsnapshot', hgrown, -⟩ :=
    snapshot_grows sampleRun_reachable hsnapshot
      [.synchronize 1 "report_writer" none 6]
  exact ⟨snapshot, snapshot', hsnapshot, hsnapshot', hgrown.version⟩

end DeepResearch.State
