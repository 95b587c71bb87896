/-
No lost wake-up: a QUEUED run always has a dispatch that will still
reach a worker.

`DispatchInv` ties the outbox to the runs and to the broker. Its heart
is `waiting`: a QUEUED run has an uncancelled row under its current state
version, no older than its last transition to QUEUED. Two more fields
turn that into a wake-up: a published row's message is in the broker,
and a consumed key is older than the state version of its run whenever
that run is QUEUED — a delivery to a QUEUED run acquires it, and the run
only comes back to QUEUED under a larger version.

The field `versions` is what the uniqueness of dispatch keys rests on:
no row's number exceeds its run's state version, and every insertion
comes with a version just increased.
-/
import DeepResearch.Run.Cluster
import DeepResearch.Run.Proofs.Commit
import DeepResearch.Run.Proofs.Effects
import Mathlib.Data.List.Range

namespace DeepResearch.Run

-- ============================================================= key texts

/-- A text is cut at its first separator in one way only. -/
theorem separated_inj {α : Type} {sep : α} {x y : List α} (u v : List α)
    (hx : sep ∉ x) (hy : sep ∉ y) (h : x ++ sep :: u = y ++ sep :: v) :
    x = y ∧ u = v := by
  induction x generalizing y with
  | nil =>
      cases y with
      | nil => exact ⟨rfl, List.tail_eq_of_cons_eq h⟩
      | cons b y =>
          have hb : sep = b := List.head_eq_of_cons_eq h
          exact absurd (hb ▸ List.mem_cons_self) hy
  | cons a x ih =>
      cases y with
      | nil =>
          have ha : a = sep := List.head_eq_of_cons_eq h
          exact absurd (ha ▸ List.mem_cons_self) hx
      | cons b y =>
          obtain ⟨hab, hrest⟩ := List.cons.inj h
          obtain ⟨hxy, huv⟩ := ih (fun hm => hx (List.mem_cons_of_mem a hm))
            (fun hm => hy (List.mem_cons_of_mem b hm)) hrest
          exact ⟨by rw [hab, hxy], huv⟩

theorem DispatchKind.no_colon (kind : DispatchKind) :
    ':' ∉ kind.text.toList := by
  cases kind <;> decide

/-- Different kinds have different texts. -/
theorem DispatchKind.text_injective : Function.Injective DispatchKind.text := by
  intro a b h
  cases a <;> cases b <;> first | rfl | exact absurd h (by decide)

/-- Different keys are different texts: no run id and no kind contains
the separator. -/
theorem DispatchKey.text_injective :
    Function.Injective DispatchKey.text := by
  intro a b h
  obtain ⟨⟨aid, hacolon⟩, akind, anumber⟩ := a
  obtain ⟨⟨bid, hbcolon⟩, bkind, bnumber⟩ := b
  simp only [DispatchKey.text, ← String.toList_inj, String.toList_append,
    List.append_assoc] at h
  obtain ⟨hid, hrest⟩ := separated_inj _ _ hacolon hbcolon h
  obtain ⟨hkind, hnumber⟩ := separated_inj _ _ akind.no_colon
    bkind.no_colon hrest
  have hid : aid = bid := String.toList_inj.mp hid
  have hkind : akind = bkind :=
    DispatchKind.text_injective (String.toList_inj.mp hkind)
  have hdigits : Nat.toDigits 10 anumber = Nat.toDigits 10 bnumber := by
    rw [Nat.toList_repr, Nat.toList_repr] at hnumber
    exact hnumber
  have hnumber : anumber = bnumber := calc
    anumber = Nat.ofDigitChars 10 (Nat.toDigits 10 anumber) 0 :=
      Nat.ofDigitChars_ten_toDigits.symm
    _ = Nat.ofDigitChars 10 (Nat.toDigits 10 bnumber) 0 := by rw [hdigits]
    _ = bnumber := Nat.ofDigitChars_ten_toDigits
  subst hid hkind hnumber
  rfl

-- ========================================================= the invariant

/-- Outbox, runs, broker and dispatchers fit together. -/
structure DispatchInv (s : Cluster) : Prop where
  ids : s.db.outbox.map (·.id) = List.range s.db.outbox.length
  keys : (s.db.outbox.map (·.dispatchKey)).Nodup
  versions : ∀ row ∈ s.db.outbox, ∃ run,
    s.db.runs row.runId = some run
      ∧ row.dispatchKey.number ≤ run.stateVersion
  published : ∀ row ∈ s.db.outbox, row.status = .published →
    row.dispatchKey ∈ s.broker
  broker : ∀ key ∈ s.broker, ∃ row ∈ s.db.outbox, row.dispatchKey = key
  publishing : ∀ p ∈ s.publishing,
    (∃ row ∈ s.db.outbox, row.id = p.dispatch.outboxId
      ∧ row.dispatchKey = p.dispatch.dispatchKey)
    ∧ (p.state = .sent → p.dispatch.dispatchKey ∈ s.broker)
  consumed : ∀ key ∈ s.consumed, key ∈ s.broker
    ∧ ∀ run, s.db.runs key.runId = some run → run.status = .queued →
      key.number < run.stateVersion
  waiting : ∀ runId run, s.db.runs runId = some run →
    run.status = .queued → ∃ row ∈ s.db.outbox, row.runId = runId
      ∧ row.dispatchKey.number = run.stateVersion
      ∧ s.queuedAt runId ≤ row.createdAt ∧ row.status ≠ .cancelled

/-- The empty system satisfies the invariant. -/
theorem DispatchInv.init (now : Nat) : DispatchInv { now } where
  ids := rfl
  keys := List.nodup_nil
  versions _ h := by cases h
  published _ h := by cases h
  broker _ h := by cases h
  publishing _ h := by cases h
  consumed _ h := by cases h
  waiting _ _ h := by cases h

-- ================================================== rows keep their identity

/-- A rewriting of outbox rows that keeps what identifies them. -/
structure KeepsIdentity (f : TaskDispatchOutboxRow → TaskDispatchOutboxRow) :
    Prop where
  id_eq : ∀ row, (f row).id = row.id
  key_eq : ∀ row, (f row).dispatchKey = row.dispatchKey
  created_eq : ∀ row, (f row).createdAt = row.createdAt

theorem KeepsIdentity.runId_eq
    {f : TaskDispatchOutboxRow → TaskDispatchOutboxRow}
    (hf : KeepsIdentity f) (row : TaskDispatchOutboxRow) :
    (f row).runId = row.runId :=
  congrArg DispatchKey.runId (hf.key_eq row)

/-- A conditional rewriting keeps the identity when its branch does. -/
theorem KeepsIdentity.ite
    {f : TaskDispatchOutboxRow → TaskDispatchOutboxRow}
    (hf : KeepsIdentity f) (c : TaskDispatchOutboxRow → Prop)
    [DecidablePred c] :
    KeepsIdentity fun row => if c row then f row else row := by
  refine ⟨fun row => ?_, fun row => ?_, fun row => ?_⟩ <;>
    by_cases hc : c row <;>
    simp only [hc, if_true, if_false, hf.id_eq, hf.key_eq, hf.created_eq]

/-- A claim changes the status of a row and not its identity. -/
theorem keepsIdentity_claim (now : Nat) : KeepsIdentity (·.claim now) :=
  ⟨fun _ => rfl, fun _ => rfl, fun _ => rfl⟩

theorem keepsIdentity_published (now : Nat) :
    KeepsIdentity (·.published now) :=
  ⟨fun _ => rfl, fun _ => rfl, fun _ => rfl⟩

theorem keepsIdentity_retried (code : String) (now : Nat) :
    KeepsIdentity (·.retried code now) :=
  ⟨fun _ => rfl, fun _ => rfl, fun _ => rfl⟩

theorem keepsIdentity_revoke (runId : RunId) (lastError : String) :
    KeepsIdentity (·.revoke runId lastError) := by
  have h : KeepsIdentity fun row =>
      { row with
        status := .cancelled
        lastError := some lastError } :=
    ⟨fun _ => rfl, fun _ => rfl, fun _ => rfl⟩
  exact h.ite fun row => row.runId = runId ∧ row.status.isUnpublished

/-- Revocation touches only the rows of its run. -/
theorem TaskDispatchOutboxRow.revoke_other {row : TaskDispatchOutboxRow}
    {runId : RunId} (hne : row.runId ≠ runId) (lastError : String) :
    row.revoke runId lastError = row :=
  if_neg fun h => hne h.1

/-- Revocation never publishes. -/
theorem TaskDispatchOutboxRow.revoke_published
    {row : TaskDispatchOutboxRow} {runId : RunId} {lastError : String}
    (h : (row.revoke runId lastError).status = .published) :
    row.status = .published := by
  unfold TaskDispatchOutboxRow.revoke at h
  split at h
  case isTrue => cases h
  case isFalse => exact h

-- ============================================================ queue times

variable {s : Cluster} {db : Database} {runId : RunId}

/-- Whether a run that is there is queued. -/
theorem isQueued_iff {run : ResearchRunRow}
    (hrun : db.runs runId = some run) :
    db.isQueued runId = true ↔ run.status = .queued := by
  simp [Database.isQueued, hrun]

/-- A run that was queued already keeps its time. -/
theorem withDb_queuedAt_same {run : ResearchRunRow}
    (hrun : s.db.runs runId = some run) (hq : run.status = .queued) :
    (s.withDb db).queuedAt runId = s.queuedAt runId :=
  if_neg fun h => h.2 ((isQueued_iff hrun).mpr hq)

-- ======================================================= database changes

/-- Rewriting outbox rows in place keeps the invariant, as long as no
row is cancelled anew and none is called published without its message. -/
theorem DispatchInv.mapOutbox (hinv : DispatchInv s)
    {f : TaskDispatchOutboxRow → TaskDispatchOutboxRow}
    (hf : KeepsIdentity f)
    (hcancel : ∀ row ∈ s.db.outbox, (f row).status = .cancelled →
      row.status = .cancelled)
    (hpublish : ∀ row ∈ s.db.outbox, (f row).status = .published →
      row.status = .published ∨ row.dispatchKey ∈ s.broker) :
    DispatchInv (s.withDb { s.db with outbox := s.db.outbox.map f }) where
  ids := by
    simp only [Cluster.withDb, List.map_map, Function.comp_def, hf.id_eq,
      List.length_map]
    exact hinv.ids
  keys := by
    simp only [Cluster.withDb, List.map_map, Function.comp_def, hf.key_eq]
    exact hinv.keys
  versions row' h := by
    obtain ⟨row, hrow, rfl⟩ := List.mem_map.mp h
    rw [hf.runId_eq, hf.key_eq]
    exact hinv.versions row hrow
  published row' h hpub := by
    obtain ⟨row, hrow, rfl⟩ := List.mem_map.mp h
    rw [hf.key_eq]
    rcases hpublish row hrow hpub with hp | hb
    · exact hinv.published row hrow hp
    · exact hb
  broker key h := by
    obtain ⟨row, hrow, hkey⟩ := hinv.broker key h
    exact ⟨f row, List.mem_map_of_mem hrow, (hf.key_eq row).trans hkey⟩
  publishing p h := by
    obtain ⟨⟨row, hrow, hid, hkey⟩, hsent⟩ := hinv.publishing p h
    exact ⟨⟨f row, List.mem_map_of_mem hrow, (hf.id_eq row).trans hid,
      (hf.key_eq row).trans hkey⟩, hsent⟩
  consumed := hinv.consumed
  waiting id run hrun hq := by
    have hrun : s.db.runs id = some run := hrun
    obtain ⟨row, hrow, hid, hnum, htime, hst⟩ :=
      hinv.waiting id run hrun hq
    refine ⟨f row, List.mem_map_of_mem hrow, (hf.runId_eq row).trans hid,
      by rw [hf.key_eq]; exact hnum, ?_,
      fun hc => hst (hcancel row hrow hc)⟩
    rw [withDb_queuedAt_same hrun hq, hf.created_eq]
    exact htime

/-- A commit that leaves its run anything but queued keeps the
invariant: it may revoke the run's own rows. -/
theorem DispatchInv.commit_unqueued (hinv : DispatchInv s)
    {run : ResearchRunRow} {w : RunWrite}
    (hrun : s.db.runs runId = some run)
    (hstatus : w.run.status ≠ .queued)
    (hversion : run.stateVersion ≤ w.run.stateVersion)
    (hdispatch : w.dispatch = none) :
    DispatchInv (s.withDb (s.db.commit runId s.now w)) := by
  -- The outbox changes by a revocation of rows of this run, or not.
  obtain ⟨f, houtbox, hf, hother, hpub⟩ :
      ∃ f : TaskDispatchOutboxRow → TaskDispatchOutboxRow,
        (s.db.commit runId s.now w).outbox = s.db.outbox.map f
        ∧ KeepsIdentity f ∧ (∀ row, row.runId ≠ runId → f row = row)
        ∧ ∀ row, (f row).status = .published →
          row.status = .published := by
    cases hrevoke : w.revoke with
    | none =>
        refine ⟨id, ?_, ⟨fun _ => rfl, fun _ => rfl, fun _ => rfl⟩,
          fun _ _ => rfl, fun _ h => h⟩
        simp only [Database.commit, RunWrite.outbox, hrevoke, hdispatch,
          List.map_id]
    | some lastError =>
        refine ⟨(·.revoke runId lastError), ?_,
          keepsIdentity_revoke runId lastError,
          fun row hne => TaskDispatchOutboxRow.revoke_other hne lastError,
          fun _ h => TaskDispatchOutboxRow.revoke_published h⟩
        simp only [Database.commit, RunWrite.outbox, hrevoke, hdispatch]
  refine
    { ids := ?_, keys := ?_, versions := ?_, published := ?_, broker := ?_
      publishing := ?_, consumed := ?_, waiting := ?_ } <;>
    simp only [Cluster.withDb, houtbox]
  · simp only [List.map_map, Function.comp_def, hf.id_eq, List.length_map]
    exact hinv.ids
  · simp only [List.map_map, Function.comp_def, hf.key_eq]
    exact hinv.keys
  · intro row' h
    obtain ⟨row, hrow, rfl⟩ := List.mem_map.mp h
    obtain ⟨run₀, hrun₀, hle⟩ := hinv.versions row hrow
    rw [hf.runId_eq, hf.key_eq]
    by_cases hid : row.runId = runId
    · rw [hid, hrun] at hrun₀
      injection hrun₀ with hrun₀
      subst hrun₀
      exact ⟨w.run, by rw [hid]; exact Database.commit_run w,
        hle.trans hversion⟩
    · exact ⟨run₀, by rw [Database.commit_other hid]; exact hrun₀, hle⟩
  · intro row' h hst
    obtain ⟨row, hrow, rfl⟩ := List.mem_map.mp h
    rw [hf.key_eq]
    exact hinv.published row hrow (hpub row hst)
  · intro key h
    obtain ⟨row, hrow, hkey⟩ := hinv.broker key h
    exact ⟨f row, List.mem_map_of_mem hrow, (hf.key_eq row).trans hkey⟩
  · intro p h
    obtain ⟨⟨row, hrow, hid, hkey⟩, hsent⟩ := hinv.publishing p h
    exact ⟨⟨f row, List.mem_map_of_mem hrow, (hf.id_eq row).trans hid,
      (hf.key_eq row).trans hkey⟩, hsent⟩
  · intro key h
    obtain ⟨hbroker, hlt⟩ := hinv.consumed key h
    refine ⟨hbroker, fun run' hrun' hq => ?_⟩
    by_cases hid : key.runId = runId
    · rw [hid, Database.commit_run] at hrun'
      injection hrun' with hrun'
      rw [← hrun'] at hq
      exact absurd hq hstatus
    · rw [Database.commit_other hid] at hrun'
      exact hlt run' hrun' hq
  · intro id run' hrun' hq
    by_cases hid : id = runId
    · rw [hid, Database.commit_run] at hrun'
      injection hrun' with hrun'
      rw [← hrun'] at hq
      exact absurd hq hstatus
    · rw [Database.commit_other hid] at hrun'
      obtain ⟨row, hrow, hrid, hnum, htime, hst⟩ :=
        hinv.waiting id run' hrun' hq
      have hkeep : f row = row :=
        hother row (by rw [hrid]; exact hid)
      refine ⟨row, by rw [← hkeep]; exact List.mem_map_of_mem hrow, hrid,
        hnum, ?_, hst⟩
      have hqueued : s.db.isQueued id = true := (isQueued_iff hrun').mpr hq
      rw [if_neg (fun h => h.2 hqueued)]
      exact htime

/-- The outbox after a commit that revokes nothing and dispatches. -/
theorem Database.commit_dispatch_outbox {w : RunWrite} {d : NewDispatch}
    {now : Nat} (hrevoke : w.revoke = none) (hd : w.dispatch = some d) :
    (db.commit runId now w).outbox
      = db.outbox ++ [d.row runId db.outbox.length now] := by
  simp only [Database.commit, RunWrite.outbox, hrevoke, hd]

/-- A commit that queues its run under a new version, with a dispatch
under that version, keeps the invariant. -/
theorem DispatchInv.commit_queued (hinv : DispatchInv s) {w : RunWrite}
    {d : NewDispatch}
    (hwas : ∀ run, s.db.runs runId = some run →
      run.status ≠ .queued ∧ run.stateVersion < w.run.stateVersion)
    (hstatus : w.run.status = .queued)
    (hrevoke : w.revoke = none) (hd : w.dispatch = some d)
    (hnumber : d.number = w.run.stateVersion) :
    DispatchInv (s.withDb (s.db.commit runId s.now w)) := by
  have houtbox : (s.db.commit runId s.now w).outbox
      = s.db.outbox ++ [d.row runId s.db.outbox.length s.now] :=
    Database.commit_dispatch_outbox hrevoke hd
  -- The rows of the run are of older versions than the new one.
  have hold : ∀ row ∈ s.db.outbox, row.runId = runId →
      row.dispatchKey.number < w.run.stateVersion := by
    intro row hrow hid
    obtain ⟨run, hrun, hle⟩ := hinv.versions row hrow
    rw [hid] at hrun
    exact hle.trans_lt (hwas run hrun).2
  -- The run was not QUEUED, so the commit sets its `queuedAt`.
  have hfresh : ¬ s.db.isQueued runId = true := by
    cases hrun : s.db.runs runId with
    | none => simp [Database.isQueued, hrun]
    | some run =>
        rw [isQueued_iff hrun]
        exact (hwas run hrun).1
  refine
    { ids := ?_, keys := ?_, versions := ?_, published := ?_, broker := ?_
      publishing := ?_, consumed := ?_, waiting := ?_ } <;>
    simp only [Cluster.withDb, houtbox]
  · simp only [List.map_append, List.map_cons, List.map_nil, hinv.ids,
      List.length_append, List.length_singleton, List.range_succ]
    rfl
  -- A new key: its number is that of the new version.
  · rw [List.map_append, List.nodup_append]
    refine ⟨hinv.keys, List.nodup_singleton _, ?_⟩
    intro key hkey key' hkey'
    obtain ⟨row, hrow, rfl⟩ := List.mem_map.mp hkey
    rw [List.map_singleton, List.mem_singleton] at hkey'
    rintro rfl
    have hlt := hold row hrow (congrArg DispatchKey.runId hkey')
    have hnum : row.dispatchKey.number = d.number :=
      congrArg DispatchKey.number hkey'
    omega
  · intro row h
    rcases List.mem_append.mp h with hrow | hrow
    · obtain ⟨run₀, hrun₀, hle⟩ := hinv.versions row hrow
      by_cases hid : row.runId = runId
      · exact ⟨w.run, by rw [hid]; exact Database.commit_run w,
          (hold row hrow hid).le⟩
      · exact ⟨run₀, by rw [Database.commit_other hid]; exact hrun₀, hle⟩
    · rw [List.mem_singleton] at hrow
      subst hrow
      exact ⟨w.run, Database.commit_run w, hnumber.le⟩
  · intro row h hst
    rcases List.mem_append.mp h with hrow | hrow
    · exact hinv.published row hrow hst
    · rw [List.mem_singleton] at hrow
      subst hrow
      cases hst
  · intro key h
    obtain ⟨row, hrow, hkey⟩ := hinv.broker key h
    exact ⟨row, List.mem_append_left _ hrow, hkey⟩
  · intro p h
    obtain ⟨⟨row, hrow, hid, hkey⟩, hsent⟩ := hinv.publishing p h
    exact ⟨⟨row, List.mem_append_left _ hrow, hid, hkey⟩, hsent⟩
  · intro key h
    obtain ⟨hbroker, hlt⟩ := hinv.consumed key h
    refine ⟨hbroker, fun run' hrun' hq => ?_⟩
    by_cases hid : key.runId = runId
    · rw [hid, Database.commit_run] at hrun'
      injection hrun' with hrun'
      obtain ⟨row, hrow, hkey⟩ := hinv.broker key hbroker
      have hlt := hold row hrow
        (by rw [TaskDispatchOutboxRow.runId, hkey]; exact hid)
      rw [hkey, hrun'] at hlt
      exact hlt
    · rw [Database.commit_other hid] at hrun'
      exact hlt run' hrun' hq
  · intro id run' hrun' hq
    by_cases hid : id = runId
    · subst hid
      rw [Database.commit_run] at hrun'
      injection hrun' with hrun'
      -- The run waits on the row that was committed with it.
      refine ⟨d.row id s.db.outbox.length s.now,
        List.mem_append_right _ (List.mem_singleton_self _), rfl,
        by rw [← hrun']; exact hnumber, ?_, fun h => by cases h⟩
      have hnow : (s.db.commit id s.now w).isQueued id = true :=
        (isQueued_iff (Database.commit_run w)).mpr hstatus
      rw [if_pos ⟨hnow, hfresh⟩]
      exact Nat.le_refl _
    · rw [Database.commit_other hid] at hrun'
      obtain ⟨row, hrow, hrid, hnum, htime, hst⟩ :=
        hinv.waiting id run' hrun' hq
      refine ⟨row, List.mem_append_left _ hrow, hrid, hnum, ?_, hst⟩
      have hqueued : s.db.isQueued id = true := (isQueued_iff hrun').mpr hq
      rw [if_neg (fun h => h.2 hqueued)]
      exact htime

/-- A database that stays the same notes nothing. -/
theorem Cluster.withDb_self (s : Cluster) : s.withDb s.db = s := by
  have h : (fun runId => if s.db.isQueued runId ∧ ¬ s.db.isQueued runId
      then s.now else s.queuedAt runId) = s.queuedAt := by
    funext runId
    exact if_neg fun h => h.2 h.1
  simp only [Cluster.withDb, h]

/-- Every operation on a run keeps the invariant. -/
theorem DispatchInv.runOp (hinv : DispatchInv s) (runId : RunId)
    (op : RunOp) :
    DispatchInv (s.withDb (s.db.step s.now (.run runId op))) := by
  simp only [Database.step]
  rcases s.db.runOp_cases runId s.now op with
    heq | ⟨run, w, hrun, hw, heq⟩
  · rw [heq, Cluster.withDb_self]
    exact hinv
  · rw [heq]
    cases op.write_effect hw with
    | keeps h =>
        exact hinv.commit_unqueued hrun (by rw [h.running]; decide)
          h.version h.dispatch
    | acquires h =>
        exact hinv.commit_unqueued hrun (by rw [h.running]; decide)
          (by rw [h.version]; exact Nat.le_succ _) h.dispatch
    | interrupts h =>
        exact hinv.commit_unqueued hrun (by rw [h.interrupted]; decide)
          (by rw [h.version]; exact Nat.le_succ _) h.dispatch
    | stops h =>
        refine hinv.commit_unqueued hrun (fun hq => ?_)
          (by rw [h.version]; exact Nat.le_succ _) h.dispatch
        have ht := h.terminal
        rw [hq] at ht
        cases ht
    | requeues h =>
        obtain ⟨d, hd, hnumber⟩ := h.dispatch
        refine hinv.commit_queued (fun run' hrun' => ?_) h.queued h.revoke
          hd hnumber
        rw [hrun] at hrun'
        injection hrun' with hrun'
        subst hrun'
        refine ⟨fun hq => ?_, by rw [h.version]; exact Nat.lt_succ_self _⟩
        rcases h.source with hs | ⟨-, hs | hs | hs⟩ <;>
          rw [hq] at hs <;> cases hs

/-- Creating a run keeps the invariant. -/
theorem DispatchInv.create (hinv : DispatchInv s) (runId : RunId)
    (budget : BudgetSnapshot) :
    DispatchInv (s.withDb (s.db.step s.now (.create runId budget))) := by
  simp only [Database.step]
  rcases s.db.create_cases runId budget s.now with heq | ⟨hnone, heq⟩
  · rw [heq, Cluster.withDb_self]
    exact hinv
  · rw [heq]
    refine hinv.commit_queued (fun run hrun => ?_) rfl rfl rfl rfl
    rw [hnone] at hrun
    cases hrun

-- ================================================================= actions

/-- A row `claim_batch` takes is in the table and was claimable. -/
theorem mem_claimedRows {limit stale now : Nat} {locked : List Nat}
    {outbox : List TaskDispatchOutboxRow} {row : TaskDispatchOutboxRow}
    (h : row ∈ claimedRows limit stale locked now outbox) :
    row ∈ outbox ∧ isClaimable stale now row = true := by
  have hsorted := List.mem_of_mem_take h
  rw [List.mem_insertionSort, List.mem_filter] at hsorted
  exact ⟨hsorted.1, (Bool.and_eq_true_iff.mp hsorted.2).1⟩

/-- Claiming changes no row into a cancelled or published one. -/
theorem DispatchInv.claimBatch_db (hinv : DispatchInv s)
    (limit stale : Nat) (locked : List Nat) :
    DispatchInv
      (s.withDb (s.db.step s.now (.claimBatch limit stale locked))) := by
  refine hinv.mapOutbox ((keepsIdentity_claim s.now).ite _) ?_ ?_ <;>
  · intro row _ hst
    simp only [TaskDispatchOutboxRow.claim] at hst
    split at hst
    case isTrue => cases hst
    case isFalse => first | exact hst | exact .inl hst

/-- A claim takes rows into the hands of the dispatcher, as they are. -/
theorem DispatchInv.claimBatch (hinv : DispatchInv s) (limit stale : Nat)
    (locked : List Nat) :
    DispatchInv (s.claimBatch limit stale locked) := by
  have hdb := hinv.claimBatch_db limit stale locked
  refine { hdb with publishing := fun p hp => ?_ }
  rcases List.mem_append.mp hp with hold | hnew
  · exact hdb.publishing p hold
  · obtain ⟨i, hi, rfl⟩ := List.mem_mapIdx.mp hnew
    refine ⟨?_, fun h => by cases h⟩
    have hmem := List.getElem_mem hi
    obtain ⟨row, hrow, hd⟩ := List.mem_map.mp hmem
    have hclaim := (keepsIdentity_claim s.now).ite
      (· ∈ claimedRows limit stale locked s.now s.db.outbox)
    refine ⟨_, List.mem_map_of_mem (mem_claimedRows hrow).1, ?_, ?_⟩
    · rw [hclaim.id_eq, ← hd]
    · rw [hclaim.key_eq, ← hd]

/-- A message that is sent is in flight, whatever the sender hears. -/
theorem DispatchInv.send (hinv : DispatchInv s) (claim : Nat)
    (result : SendResult) : DispatchInv (s.send claim result) := by
  unfold Cluster.send
  split
  case h_1 => exact hinv
  case h_2 p hp =>
    obtain ⟨hrow, -⟩ := hinv.publishing p (List.mem_of_find?_eq_some hp)
    have hgrow : ∀ key ∈ s.broker, key ∈ (if result = .failed then s.broker
        else s.broker ++ [p.dispatch.dispatchKey]) := by
      intro key hkey
      split
      · exact hkey
      · exact List.mem_append_left _ hkey
    refine { hinv with
      published := fun row hrow hst => hgrow _ (hinv.published row hrow hst)
      broker := fun key hkey => ?_
      publishing := fun q hq => ?_
      consumed := fun key hkey =>
        ⟨hgrow key (hinv.consumed key hkey).1, (hinv.consumed key hkey).2⟩ }
    · simp only at hkey
      split at hkey
      case isTrue => exact hinv.broker key hkey
      case isFalse =>
        rcases List.mem_append.mp hkey with hkey | hkey
        · exact hinv.broker key hkey
        · obtain ⟨row, hrow, -, hrk⟩ := hrow
          exact ⟨row, hrow, hrk.trans (List.mem_singleton.mp hkey).symm⟩
    · obtain ⟨q₀, hq₀, rfl⟩ := List.mem_map.mp hq
      by_cases hqp : q₀ = p
      · rw [if_pos hqp]
        refine ⟨hrow, fun hsent => ?_⟩
        have hok : result = .ok := by
          by_contra hne
          simp only [if_neg hne] at hsent
          cases hsent
        simp only [hok]
        exact List.mem_append_right _ (List.mem_singleton_self _)
      · rw [if_neg hqp]
        obtain ⟨hr, hs⟩ := hinv.publishing q₀ hq₀
        exact ⟨hr, fun h => hgrow _ (hs h)⟩

/-- Two rows under one id are one row. -/
theorem DispatchInv.row_unique (hinv : DispatchInv s)
    {row row' : TaskDispatchOutboxRow} (h : row ∈ s.db.outbox)
    (h' : row' ∈ s.db.outbox) (hid : row.id = row'.id) : row = row' := by
  have hnodup : (s.db.outbox.map (·.id)).Nodup := by
    rw [hinv.ids]
    exact List.nodup_range
  exact List.inj_on_of_nodup_map hnodup h h' hid

/-- A row is marked as published only if it was sent. -/
theorem DispatchInv.mark (hinv : DispatchInv s) (claim : Nat)
    (errorCode : String) : DispatchInv (s.mark claim errorCode) := by
  unfold Cluster.mark
  split
  case h_1 => exact hinv
  case h_2 p hp =>
    obtain ⟨⟨row, hrow, hid, hkey⟩, hsent⟩ :=
      hinv.publishing p (List.mem_of_find?_eq_some hp)
    simp only
    split
    case h_1 => exact hinv
    case h_2 hstate =>
      have hdb : DispatchInv (s.withDb
          (s.db.step s.now (.markPublished p.dispatch.outboxId))) := by
        refine hinv.mapOutbox ((keepsIdentity_published s.now).ite _) ?_ ?_
        · intro row' _ hst
          simp only [TaskDispatchOutboxRow.published] at hst
          split at hst
          case isTrue => cases hst
          case isFalse => exact hst
        · intro row' hrow' hst
          by_cases hid' : row'.id = p.dispatch.outboxId
          · -- The row marked is the one claimed, and it was sent.
            have hsame := hinv.row_unique hrow' hrow (hid'.trans hid.symm)
            rw [hsame, hkey]
            exact .inr (hsent hstate)
          · simp only [if_neg hid'] at hst
            exact .inl hst
      exact { hdb with
        publishing := fun q hq => hdb.publishing q (List.mem_filter.mp hq).1 }
    case h_3 =>
      have hdb : DispatchInv (s.withDb (s.db.step s.now
          (.markRetry p.dispatch.outboxId errorCode))) := by
        refine hinv.mapOutbox
          ((keepsIdentity_retried errorCode s.now).ite _) ?_ ?_ <;>
        · intro row' _ hst
          simp only [TaskDispatchOutboxRow.retried] at hst
          split at hst
          case isTrue => cases hst
          case isFalse => first | exact hst | exact .inl hst
      exact { hdb with
        publishing := fun q hq => hdb.publishing q (List.mem_filter.mp hq).1 }

/-- A queued run is acquired by whoever asks. -/
theorem acquireForExecution_of_queued {run : ResearchRunRow}
    (hq : run.status = .queued) (task : TaskId) (lease now : Nat) :
    ∃ w, acquireForExecution task lease now run = .ok w :=
  ⟨_, if_neg fun h => h.1 hq⟩

/-- After an attempt to acquire it no run is queued. -/
theorem not_queued_after_acquire {task : TaskId} {lease now : Nat}
    {run : ResearchRunRow}
    (h : (db.step now (.run runId (.acquireForExecution task lease))).runs
      runId = some run) : run.status ≠ .queued := by
  rcases Database.step_run h with
    hsame | ⟨-, budget, ha, -⟩ | ⟨run₀, op, w, ha, -, hw, rfl⟩
  · intro hq
    obtain ⟨w, hw⟩ := acquireForExecution_of_queued hq task lease now
    have hcommit : (db.step now
        (.run runId (.acquireForExecution task lease))).runs runId
        = some w.run := by
      have hop : RunOp.write now run (.acquireForExecution task lease)
          = .ok w := hw
      simp only [Database.step]
      rw [Database.runOp_ok hsame hop]
      exact Database.commit_run w
    rw [h] at hcommit
    injection hcommit with hrun
    rw [hrun, (acquireForExecution_acquires hw).running] at hq
    cases hq
  · cases ha
  · injection ha with _ hop
    subst hop
    rw [(acquireForExecution_acquires hw).running]
    decide

/-- A delivery leaves the message in flight. -/
theorem DispatchInv.deliver (hinv : DispatchInv s) (key : DispatchKey)
    (lease : Nat) : DispatchInv (s.deliver key lease) := by
  unfold Cluster.deliver
  split
  case isFalse => exact hinv
  case isTrue hbroker =>
    have hdb := hinv.runOp key.runId (.acquireForExecution key lease)
    refine { hdb with consumed := fun k hk => ?_ }
    rcases List.mem_append.mp hk with hold | hnew
    · exact hdb.consumed k hold
    · rw [List.mem_singleton] at hnew
      subst hnew
      exact ⟨hbroker, fun run hrun hq =>
        absurd hq (not_queued_after_acquire hrun)⟩

/-- Every action keeps the invariant. -/
theorem DispatchInv.step (hinv : DispatchInv s) (a : Action) :
    DispatchInv (s.step a) := by
  cases a with
  | tick seconds => exact { hinv with }
  | create id budget => exact hinv.create id budget
  | cancel id => exact hinv.runOp id .cancel
  | pause id => exact hinv.runOp id .pause
  | resume id => exact hinv.runOp id .resume
  | reconcile id => exact hinv.runOp id .reconcileExpiredLease
  | claimBatch limit stale locked =>
      exact hinv.claimBatch limit stale locked
  | send claim result => exact hinv.send claim result
  | mark claim code => exact hinv.mark claim code
  | deliver key lease => exact hinv.deliver key lease
  | work e op =>
      simp only [Cluster.step]
      split
      case isTrue => exact hinv.runOp e.runId (.worker e.taskId op)
      case isFalse => exact hinv
  | finish e => exact { hinv with }

/-- The invariant holds in every reachable cluster. -/
theorem dispatchInv_reachable
    (h : Transition.Reachable clusterSystem s) : DispatchInv s :=
  h.invariant (fun _ ⟨now, hs⟩ => hs ▸ DispatchInv.init now)
    (fun _ a hinv => hinv.step a)

/-- A dispatch that will still wake its run up: to be published, or
published with its message in the broker and not yet consumed. -/
def Cluster.WillWake (s : Cluster) (row : TaskDispatchOutboxRow) : Prop :=
  row.status.isUnpublished = true
    ∨ row.status = .published ∧ row.dispatchKey ∈ s.broker
      ∧ row.dispatchKey ∉ s.consumed

/-- In every reachable state a QUEUED run has a dispatch, created at or
after its last transition to QUEUED, that will still wake it up; and no
two dispatches share a key. -/
theorem no_lost_wakeup (h : Transition.Reachable clusterSystem s) :
    (∀ runId run, s.db.runs runId = some run → run.status = .queued →
      ∃ row ∈ s.db.outbox, row.runId = runId
        ∧ s.queuedAt runId ≤ row.createdAt ∧ s.WillWake row)
    ∧ (s.db.outbox.map (·.dispatchKey.text)).Nodup := by
  have hinv := dispatchInv_reachable h
  refine ⟨fun id run hrun hq => ?_, ?_⟩
  · obtain ⟨row, hrow, hid, hnumber, htime, hst⟩ :=
      hinv.waiting id run hrun hq
    refine ⟨row, hrow, hid, htime, ?_⟩
    cases hstatus : row.status with
    | pending => exact .inl (by rw [hstatus]; rfl)
    | retry => exact .inl (by rw [hstatus]; rfl)
    | publishing => exact .inl (by rw [hstatus]; rfl)
    | cancelled => exact absurd hstatus hst
    | published =>
        refine .inr ⟨hstatus, hinv.published row hrow hstatus, fun hc => ?_⟩
        have hlt := (hinv.consumed _ hc).2 run
          (by rw [← hrun, ← hid]; rfl) hq
        omega
  · have hmap : s.db.outbox.map (·.dispatchKey.text)
        = (s.db.outbox.map (·.dispatchKey)).map DispatchKey.text := by
      rw [List.map_map]
      rfl
    rw [hmap]
    exact hinv.keys.map DispatchKey.text_injective

/-- A fresh run is queued, and its start dispatch will wake it up. -/
theorem no_lost_wakeup_created :
    ∃ row ∈ (clusterSystem.exec {} [.create sampleRunId {}]).db.outbox,
      row.runId = sampleRunId ∧ 0 ≤ row.createdAt
        ∧ (clusterSystem.exec {} [.create sampleRunId {}]).WillWake row :=
  (no_lost_wakeup (clusterSystem_reachable [.create sampleRunId {}])).1
    sampleRunId _ rfl rfl

end DeepResearch.Run
