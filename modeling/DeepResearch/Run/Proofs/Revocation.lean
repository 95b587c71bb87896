/-
When a revoked dispatch stays revoked.

`cancel` and `pause` mark a run's unpublished dispatches cancelled, and
no `claim_batch` takes a cancelled row. But a dispatcher that claimed the
row before still holds it: `mark_published` and `mark_retry` write their
status whatever the row's status is by then. The first is harmless — a
published row is never claimed again. The second is not: a send that
fails after the cancellation puts the row back to `retry`, and a later
batch hands it out.

`revoked_stays_iff` makes this exact: from any reachable state in which
the row is cancelled, the runs on which it stays revoked are those in
which no failed send of it is reported.
-/
import DeepResearch.Run.Proofs.Wakeup

namespace DeepResearch.Run

variable {s : Cluster} {db : Database} {now : Nat} {outboxId claims : Nat}

-- ======================================================= rows after a step

/-- Revocation never makes a row publishable. -/
theorem TaskDispatchOutboxRow.revoke_isUnpublished
    {row : TaskDispatchOutboxRow} {runId : RunId} {lastError : String}
    (h : row.status.isUnpublished = false) :
    (row.revoke runId lastError).status.isUnpublished = false := by
  unfold TaskDispatchOutboxRow.revoke
  split
  case isTrue => rfl
  case isFalse => exact h

/-- Where a row after a commit comes from: an old row, perhaps revoked,
or the new row under the next id. -/
theorem Database.commit_rows {runId : RunId} {w : RunWrite}
    {row' : TaskDispatchOutboxRow}
    (h : row' ∈ (db.commit runId now w).outbox) :
    (∃ row ∈ db.outbox, row' = row ∨ ∃ e, row' = row.revoke runId e)
      ∨ row'.id = db.outbox.length := by
  have hrevoked : ∀ r ∈ ({ w with dispatch := none } : RunWrite).outbox
      runId now db.outbox,
      ∃ row ∈ db.outbox, r = row ∨ ∃ e, r = row.revoke runId e := by
    intro r hr
    simp only [RunWrite.outbox] at hr
    split at hr
    case h_1 => exact ⟨r, hr, .inl rfl⟩
    case h_2 e _ =>
      obtain ⟨row, hrow, rfl⟩ := List.mem_map.mp hr
      exact ⟨row, hrow, .inr ⟨e, rfl⟩⟩
  simp only [Database.commit, RunWrite.outbox] at h
  split at h
  case h_1 => exact .inl (hrevoked row' h)
  case h_2 d _ =>
    rcases List.mem_append.mp h with hold | hnew
    · exact .inl (hrevoked row' hold)
    · rw [List.mem_singleton] at hnew
      exact .inr (by rw [hnew]; rfl)

/-- A commit only adds rows. -/
theorem Database.commit_length (db : Database) (runId : RunId) (now : Nat)
    (w : RunWrite) :
    db.outbox.length ≤ (db.commit runId now w).outbox.length := by
  simp only [Database.commit, RunWrite.outbox]
  cases w.revoke <;> cases w.dispatch <;> simp

/-- Where a row comes from after one row of the table is written. -/
theorem mem_updateOutboxRow
    {f : TaskDispatchOutboxRow → TaskDispatchOutboxRow}
    (hf : KeepsIdentity f) {target : Nat}
    {outbox : List TaskDispatchOutboxRow} {row' : TaskDispatchOutboxRow}
    (h : row' ∈ updateOutboxRow target f outbox) :
    ∃ row ∈ outbox, row'.id = row.id
      ∧ (row.id = target ∧ row' = f row ∨ row.id ≠ target ∧ row' = row) := by
  obtain ⟨row, hrow, rfl⟩ := List.mem_map.mp h
  by_cases hid : row.id = target
  · rw [if_pos hid]
    exact ⟨row, hrow, hf.id_eq row, .inl ⟨hid, rfl⟩⟩
  · rw [if_neg hid]
    exact ⟨row, hrow, rfl, .inr ⟨hid, rfl⟩⟩

-- ========================================================== staying revoked

/-- The row is not publishable again, and the only dispatchers that
still hold it claimed it before the claim numbered `claims`. -/
structure StaysRevoked (outboxId claims : Nat) (s : Cluster) : Prop where
  status : ∀ row ∈ s.db.outbox, row.id = outboxId →
    row.status.isUnpublished = false
  holders : ∀ p ∈ s.publishing, p.dispatch.outboxId = outboxId →
    p.claim < claims

/-- The action is the report of a failed send of the row. -/
def Cluster.MarksRetry (s : Cluster) (outboxId : Nat) : Action → Prop
  | .mark claim _ =>
      (s.publishing.find? (·.claim = claim)).any fun p =>
        p.state = .sendFailed ∧ p.dispatch.outboxId = outboxId
  | _ => False

instance (s : Cluster) (outboxId : Nat) :
    ∀ a, Decidable (s.MarksRetry outboxId a)
  | .mark _ _ => inferInstanceAs (Decidable (_ = true))
  | .tick _ | .create _ _ | .cancel _ | .pause _ | .resume _
  | .reconcile _ | .claimBatch _ _ _ | .send _ _ | .deliver _ _
  | .work _ _ | .finish _ => inferInstanceAs (Decidable False)

theorem marksRetry_mark {claim : Nat} {code : String} :
    s.MarksRetry outboxId (.mark claim code) ↔
      ∃ p, s.publishing.find? (·.claim = claim) = some p
        ∧ p.state = .sendFailed ∧ p.dispatch.outboxId = outboxId := by
  simp only [Cluster.MarksRetry, Option.any_eq_true, decide_eq_true_eq]

/-- What carries the induction: the row exists, it stays revoked, and
every later claim has a larger number. -/
structure RevokedInv (outboxId claims : Nat) (s : Cluster) : Prop where
  dispatch : DispatchInv s
  exists_row : outboxId < s.db.outbox.length
  stays : StaysRevoked outboxId claims s
  later : claims ≤ s.claims

/-- Claims in the hands of dispatchers are numbered below the next. -/
theorem publishing_claim_lt (h : Transition.Reachable clusterSystem s) :
    ∀ p ∈ s.publishing, p.claim < s.claims := by
  induction h with
  | init h0 =>
      obtain ⟨now, rfl⟩ := h0
      intro p hp
      cases hp
  | @step s a _ ih =>
      cases a with
      | claimBatch limit stale locked =>
          intro p hp
          rcases List.mem_append.mp hp with hold | hnew
          · exact (ih p hold).trans_le (Nat.le_add_right _ _)
          · obtain ⟨i, hi, rfl⟩ := List.mem_mapIdx.mp hnew
            exact Nat.add_lt_add_left hi _
      | send claim result =>
          simp only [clusterSystem, Cluster.step, Cluster.send]
          split
          case h_1 => exact ih
          case h_2 p₀ hp₀ =>
            intro p hp
            obtain ⟨q, hq, rfl⟩ := List.mem_map.mp hp
            by_cases hqp : q = p₀
            · rw [if_pos hqp]
              exact ih p₀ (List.mem_of_find?_eq_some hp₀)
            · rw [if_neg hqp]
              exact ih q hq
      | mark claim code =>
          simp only [clusterSystem, Cluster.step, Cluster.mark]
          split
          case h_1 => exact ih
          case h_2 =>
            split
            case h_1 => exact ih
            all_goals
              intro p hp
              exact ih p (List.mem_filter.mp hp).1
      | deliver key lease =>
          simp only [clusterSystem, Cluster.step, Cluster.deliver]
          split <;> exact ih
      | work e op =>
          simp only [clusterSystem, Cluster.step]
          split <;> exact ih
      | _ => exact ih

-- ============================================================ preservation

/-- A commit leaves a revoked row revoked. -/
theorem RevokedInv.commit (hinv : RevokedInv outboxId claims s)
    {runId : RunId} {w : RunWrite}
    (hdispatch : DispatchInv (s.withDb (s.db.commit runId s.now w))) :
    RevokedInv outboxId claims
      (s.withDb (s.db.commit runId s.now w)) where
  dispatch := hdispatch
  exists_row :=
    hinv.exists_row.trans_le (s.db.commit_length runId s.now w)
  stays :=
    { status := fun row' h hid => by
        rcases Database.commit_rows h with
          ⟨row, hrow, rfl | ⟨e, rfl⟩⟩ | hfresh
        · exact hinv.stays.status _ hrow hid
        · rw [(keepsIdentity_revoke runId e).id_eq] at hid
          exact TaskDispatchOutboxRow.revoke_isUnpublished
            (hinv.stays.status row hrow hid)
        · have := hinv.exists_row
          omega
      holders := hinv.stays.holders }
  later := hinv.later

/-- An operation on a run leaves a revoked row revoked. -/
theorem RevokedInv.runOp (hinv : RevokedInv outboxId claims s)
    (runId : RunId) (op : RunOp) :
    RevokedInv outboxId claims
      (s.withDb (s.db.step s.now (.run runId op))) := by
  have hdispatch := hinv.dispatch.runOp runId op
  simp only [Database.step] at hdispatch ⊢
  rcases s.db.runOp_cases runId s.now op with
    heq | ⟨run, w, hrun, hw, heq⟩
  · rw [heq, Cluster.withDb_self]
    exact hinv
  · rw [heq] at hdispatch ⊢
    exact hinv.commit hdispatch

theorem RevokedInv.create (hinv : RevokedInv outboxId claims s)
    (runId : RunId) (budget : BudgetSnapshot) :
    RevokedInv outboxId claims
      (s.withDb (s.db.step s.now (.create runId budget))) := by
  have hdispatch := hinv.dispatch.create runId budget
  simp only [Database.step] at hdispatch ⊢
  rcases s.db.create_cases runId budget s.now with heq | ⟨-, heq⟩
  · rw [heq, Cluster.withDb_self]
    exact hinv
  · rw [heq] at hdispatch ⊢
    exact hinv.commit hdispatch

/-- A claimable row is unpublished. -/
theorem isUnpublished_of_isClaimable {stale : Nat}
    {row : TaskDispatchOutboxRow} (h : isClaimable stale now row = true) :
    row.status.isUnpublished = true := by
  unfold isClaimable at h
  cases hst : row.status <;> rw [hst] at h <;> first | rfl | cases h

/-- No batch takes a revoked row. -/
theorem StaysRevoked.not_claimed (hstays : StaysRevoked outboxId claims s)
    {limit stale : Nat} {locked : List Nat} {row : TaskDispatchOutboxRow}
    (hrow : row ∈ claimedRows limit stale locked s.now s.db.outbox) :
    row.id ≠ outboxId := by
  obtain ⟨hmem, hclaimable⟩ := mem_claimedRows hrow
  intro hid
  have hun := isUnpublished_of_isClaimable hclaimable
  rw [hstays.status row hmem hid] at hun
  cases hun

theorem RevokedInv.claimBatch (hinv : RevokedInv outboxId claims s)
    (limit stale : Nat) (locked : List Nat) :
    RevokedInv outboxId claims (s.claimBatch limit stale locked) where
  dispatch := hinv.dispatch.claimBatch limit stale locked
  exists_row := by
    simp only [Cluster.claimBatch, Cluster.withDb, Database.step,
      Run.claimBatch, List.length_map]
    exact hinv.exists_row
  stays :=
    { status := fun row' h hid => by
        obtain ⟨row, hrow, rfl⟩ := List.mem_map.mp h
        rw [((keepsIdentity_claim s.now).ite _).id_eq] at hid
        rw [if_neg fun hc => hinv.stays.not_claimed hc hid]
        exact hinv.stays.status row hrow hid
      holders := fun p hp hid => by
        rcases List.mem_append.mp hp with hold | hnew
        · exact hinv.stays.holders p hold hid
        · obtain ⟨i, hi, rfl⟩ := List.mem_mapIdx.mp hnew
          obtain ⟨row, hrow, hd⟩ := List.mem_map.mp (List.getElem_mem hi)
          rw [← hd] at hid
          exact absurd hid (hinv.stays.not_claimed hrow) }
  later := hinv.later.trans (Nat.le_add_right _ _)

theorem RevokedInv.send (hinv : RevokedInv outboxId claims s)
    (claim : Nat) (result : SendResult) :
    RevokedInv outboxId claims (s.send claim result) := by
  have hdispatch := hinv.dispatch.send claim result
  unfold Cluster.send at hdispatch ⊢
  split at hdispatch
  case h_1 => exact hinv
  case h_2 p₀ hp₀ =>
    refine ⟨hdispatch, hinv.exists_row, ⟨hinv.stays.status, ?_⟩,
      hinv.later⟩
    intro p hp hid
    obtain ⟨q, hq, rfl⟩ := List.mem_map.mp hp
    by_cases hqp : q = p₀
    · rw [if_pos hqp] at hid ⊢
      exact hinv.stays.holders p₀ (List.mem_of_find?_eq_some hp₀) hid
    · rw [if_neg hqp] at hid ⊢
      exact hinv.stays.holders q hq hid

theorem RevokedInv.mark (hinv : RevokedInv outboxId claims s)
    {claim : Nat} {code : String}
    (hguard : ¬ s.MarksRetry outboxId (.mark claim code)) :
    RevokedInv outboxId claims (s.mark claim code) := by
  have hdispatch := hinv.dispatch.mark claim code
  unfold Cluster.mark at hdispatch ⊢
  split at hdispatch
  case h_1 => exact hinv
  case h_2 p hp =>
    simp only at hdispatch ⊢
    split at hdispatch
    case h_1 => exact hinv
    case h_2 =>
      refine ⟨hdispatch, ?_, ⟨?_, ?_⟩, hinv.later⟩
      · simp only [Cluster.withDb, Database.step, markPublished,
          updateOutboxRow, List.length_map]
        exact hinv.exists_row
      · intro row' h hid
        obtain ⟨row, hrow, hsame, ⟨-, rfl⟩ | ⟨-, rfl⟩⟩ :=
          mem_updateOutboxRow (keepsIdentity_published s.now) h
        · rfl
        · exact hinv.stays.status _ hrow hid
      · intro q hq hid
        exact hinv.stays.holders q (List.mem_filter.mp hq).1 hid
    case h_3 hstate =>
      -- The guard: the row retried is another one.
      have hother : p.dispatch.outboxId ≠ outboxId := fun hid =>
        hguard (marksRetry_mark.mpr ⟨p, hp, hstate, hid⟩)
      refine ⟨hdispatch, ?_, ⟨?_, ?_⟩, hinv.later⟩
      · simp only [Cluster.withDb, Database.step, markRetry,
          updateOutboxRow, List.length_map]
        exact hinv.exists_row
      · intro row' h hid
        obtain ⟨row, hrow, hsame, ⟨htarget, rfl⟩ | ⟨-, rfl⟩⟩ :=
          mem_updateOutboxRow (keepsIdentity_retried code s.now) h
        · exact absurd (htarget.symm.trans (hsame.symm.trans hid)) hother
        · exact hinv.stays.status _ hrow hid
      · intro q hq hid
        exact hinv.stays.holders q (List.mem_filter.mp hq).1 hid

theorem RevokedInv.deliver (hinv : RevokedInv outboxId claims s)
    (key : DispatchKey) (lease : Nat) :
    RevokedInv outboxId claims (s.deliver key lease) := by
  have hdispatch := hinv.dispatch.deliver key lease
  have hdb := hinv.runOp key.runId (.acquireForExecution key lease)
  unfold Cluster.deliver at hdispatch ⊢
  by_cases hbroker : key ∈ s.broker
  · rw [if_pos hbroker] at hdispatch ⊢
    exact ⟨hdispatch, hdb.exists_row,
      ⟨hdb.stays.status, hdb.stays.holders⟩, hdb.later⟩
  · rw [if_neg hbroker]
    exact hinv

/-- Any action but the report of a failed send of the row keeps the row
revoked. -/
theorem RevokedInv.step (hinv : RevokedInv outboxId claims s) (a : Action)
    (hguard : ¬ s.MarksRetry outboxId a) :
    RevokedInv outboxId claims (s.step a) := by
  cases a with
  | tick seconds =>
      exact ⟨hinv.dispatch.step (.tick seconds), hinv.exists_row,
        ⟨hinv.stays.status, hinv.stays.holders⟩, hinv.later⟩
  | create id budget => exact hinv.create id budget
  | cancel id => exact hinv.runOp id .cancel
  | pause id => exact hinv.runOp id .pause
  | resume id => exact hinv.runOp id .resume
  | reconcile id => exact hinv.runOp id .reconcileExpiredLease
  | claimBatch limit stale locked =>
      exact hinv.claimBatch limit stale locked
  | send claim result => exact hinv.send claim result
  | mark claim code => exact hinv.mark hguard
  | deliver key lease => exact hinv.deliver key lease
  | work e op =>
      simp only [Cluster.step]
      split
      case isTrue => exact hinv.runOp e.runId (.worker e.taskId op)
      case isFalse => exact hinv
  | finish e =>
      exact ⟨hinv.dispatch.step (.finish e), hinv.exists_row,
        ⟨hinv.stays.status, hinv.stays.holders⟩, hinv.later⟩

/-- The report of a failed send makes the row publishable again. -/
theorem not_staysRevoked_of_marksRetry
    (hinv : RevokedInv outboxId claims s) {a : Action}
    (hmark : s.MarksRetry outboxId a) :
    ¬ StaysRevoked outboxId claims (s.step a) := by
  intro hstays
  cases a with
  | mark claim code =>
      obtain ⟨p, hp, hstate, hid⟩ := marksRetry_mark.mp hmark
      obtain ⟨⟨row, hrow, hrid, -⟩, -⟩ :=
        hinv.dispatch.publishing p (List.mem_of_find?_eq_some hp)
      have hstep : (s.step (.mark claim code)).db.outbox
          = markRetry p.dispatch.outboxId code s.now s.db.outbox := by
        simp only [Cluster.step, Cluster.mark, hp, hstate]
        rfl
      have hretried : row.retried code s.now
          ∈ (s.step (.mark claim code)).db.outbox := by
        rw [hstep]
        refine List.mem_map.mpr ⟨row, hrow, ?_⟩
        rw [if_pos hrid]
      have hst := hstays.status _ hretried (hrid.trans hid)
      cases hst
  | _ => exact hmark.elim

/-- A revoked dispatch stays revoked — its status never becomes pending,
retry or publishing again, no batch hands it out, and whoever still
holds it claimed it before — on exactly those runs in which no failed
send of it is reported by `mark_retry`. -/
theorem revoked_stays_iff (h : Transition.Reachable clusterSystem s)
    {row : TaskDispatchOutboxRow} (hrow : row ∈ s.db.outbox)
    (hcancelled : row.status = .cancelled) (as : List Action) :
    clusterSystem.Throughout (StaysRevoked row.id s.claims) s as
      ↔ clusterSystem.Along (fun s a => ¬ s.MarksRetry row.id a) s as := by
  have hdispatch := dispatchInv_reachable h
  have hlt : row.id < s.db.outbox.length := by
    rw [← List.mem_range, ← hdispatch.ids]
    exact List.mem_map_of_mem hrow
  have hinv : RevokedInv row.id s.claims s :=
    ⟨hdispatch, hlt,
      ⟨fun row' hrow' hid => by
        rw [hdispatch.row_unique hrow' hrow hid, hcancelled]
        rfl,
        fun p hp _ => publishing_claim_lt h p hp⟩,
      Nat.le_refl _⟩
  have hkeep : ∀ s' a, RevokedInv row.id s.claims s' →
      ¬ s'.MarksRetry row.id a →
      RevokedInv row.id s.claims (clusterSystem.step s' a) :=
    fun _ a hi hg => hi.step a hg
  exact Transition.throughout_iff_along (fun _ hi => hi.stays) hkeep
    (fun _ a hi hg => not_staysRevoked_of_marksRetry hi
      (Classical.not_not.mp hg)) hinv as

-- ============================================== a revocation that is undone

/-- A run cancelled while a dispatcher holds its start dispatch. -/
def cancelledWhileClaimed : Cluster :=
  clusterSystem.exec {}
    [.create sampleRunId {}, .claimBatch 20 30 [], .cancel sampleRunId]

/-- Its outbox row. -/
def cancelledStartRow : TaskDispatchOutboxRow :=
  { id := 0
    dispatchType := .start
    dispatchKey := ⟨sampleRunId, .start, 1⟩
    status := .cancelled
    attemptCount := 1
    nextAttemptAt := 0
    claimedAt := some 0
    lastError := some "run_cancelled_by_user"
    createdAt := 0 }

/-- When the send succeeds, the cancelled start dispatch ends published
and no later batch takes it. -/
theorem revoked_stays_after_send :
    clusterSystem.Throughout (StaysRevoked 0 1) cancelledWhileClaimed
      [.send 0 .ok, .mark 0 "", .tick 60, .claimBatch 20 30 []] :=
  (revoked_stays_iff (clusterSystem_reachable _)
    (show cancelledStartRow ∈ cancelledWhileClaimed.db.outbox by decide)
    rfl _).mpr (by decide)

/-- A revoked dispatch does not always stay revoked: when the send that
was under way fails, the report puts the row back to `retry`, and the
next batch hands it out again. -/
theorem revoked_dispatch_claimed_again :
    ¬ ∀ s, Transition.Reachable clusterSystem s →
      ∀ row ∈ s.db.outbox, row.status = .cancelled → ∀ as,
        clusterSystem.Throughout (StaysRevoked row.id s.claims) s as := by
  intro hforever
  have hstays := (hforever cancelledWhileClaimed
    (clusterSystem_reachable _) cancelledStartRow
    (by decide) rfl
    ([.send 0 .failed, .mark 0 "OperationalError", .tick 1,
      .claimBatch 20 30 []] ++ [])).after_run
  have hclaimed := hstays.holders
    { claim := 1, dispatch := ⟨0, ⟨sampleRunId, .start, 1⟩⟩
      state := .claimed } (by decide) rfl
  exact absurd hclaimed (by decide)

end DeepResearch.Run
