/-
What one transaction of the database does to a run row and to the rows
of the outbox.

`Database.step_run` inverts a step for one run: the row is the one
before, the row of a fresh run, or what an operation wrote.
`runs_invariant` packages the induction this gives: a property of run
rows that creation establishes and every committed operation keeps holds
of every row of every reachable database.
-/
import DeepResearch.Run.Outbox

namespace DeepResearch.Run

variable {db : Database} {now : Nat} {runId : RunId}
  {run : ResearchRunRow}

-- ============================================================== one run

/-- The row committed for the run of the transaction. -/
theorem Database.commit_run (w : RunWrite) :
    (db.commit runId now w).runs runId = some w.run :=
  Function.update_self ..

/-- A commit leaves every other run as it is. -/
theorem Database.commit_other {other : RunId} (hne : other ≠ runId)
    (w : RunWrite) : (db.commit runId now w).runs other = db.runs other :=
  Function.update_of_ne hne ..

/-- Running an operation either changes nothing or commits what the
operation writes on the run it finds. -/
theorem Database.runOp_cases (db : Database) (runId : RunId) (now : Nat)
    (op : RunOp) :
    db.runOp runId now op = db
      ∨ ∃ run w, db.runs runId = some run ∧ op.write now run = .ok w
        ∧ db.runOp runId now op = db.commit runId now w := by
  unfold Database.runOp
  cases hrun : db.runs runId with
  | none => exact .inl rfl
  | some run =>
      cases hw : op.write now run with
      | error r => exact .inl (by simp only [hw])
      | ok w => exact .inr ⟨run, w, rfl, hw, by simp only [hw]⟩

/-- A committed operation, seen from the run and the write it finds. -/
theorem Database.runOp_ok {op : RunOp} {w : RunWrite}
    (hrun : db.runs runId = some run) (hw : op.write now run = .ok w) :
    db.runOp runId now op = db.commit runId now w := by
  simp only [Database.runOp, hrun, hw]

/-- Creation either finds the run or commits its first row. -/
theorem Database.create_cases (db : Database) (runId : RunId)
    (budget : BudgetSnapshot) (now : Nat) :
    db.create runId budget now = db
      ∨ db.runs runId = none
        ∧ db.create runId budget now
          = db.commit runId now (createWrite budget now) := by
  unfold Database.create
  cases hrun : db.runs runId with
  | some run => exact .inl rfl
  | none => exact .inr ⟨rfl, rfl⟩

/-- Where a run row after a step comes from. -/
theorem Database.step_run {a : DatabaseOp} {run' : ResearchRunRow}
    (h : (db.step now a).runs runId = some run') :
    db.runs runId = some run'
      ∨ db.runs runId = none
        ∧ (∃ budget, a = .create runId budget
          ∧ run' = (createWrite budget now).run)
      ∨ ∃ run op w, a = .run runId op ∧ db.runs runId = some run
        ∧ op.write now run = .ok w ∧ run' = w.run := by
  cases a with
  | create id budget =>
      simp only [Database.step] at h
      rcases db.create_cases id budget now with heq | ⟨hnone, heq⟩
      · rw [heq] at h
        exact .inl h
      · rw [heq] at h
        by_cases hid : runId = id
        · subst hid
          rw [Database.commit_run] at h
          injection h with h
          exact .inr (.inl ⟨hnone, budget, rfl, h.symm⟩)
        · rw [Database.commit_other hid] at h
          exact .inl h
  | run id op =>
      simp only [Database.step] at h
      rcases db.runOp_cases id now op with heq | ⟨run, w, hrun, hw, heq⟩
      · rw [heq] at h
        exact .inl h
      · rw [heq] at h
        by_cases hid : runId = id
        · subst hid
          rw [Database.commit_run] at h
          injection h with h
          exact .inr (.inr ⟨run, op, w, rfl, hrun, hw, h.symm⟩)
        · rw [Database.commit_other hid] at h
          exact .inl h
  | claimBatch limit stale locked => exact .inl h
  | markPublished id => exact .inl h
  | markRetry id code => exact .inl h

/-- Every run row of the database has the property. -/
def Database.AllRuns (Inv : ResearchRunRow → Prop) (db : Database) : Prop :=
  ∀ runId run, db.runs runId = some run → Inv run

/-- The invariant rule for run rows. -/
theorem runs_invariant {Inv : ResearchRunRow → Prop}
    (hcreate : ∀ budget now, Inv (createWrite budget now).run)
    (hwrite : ∀ now op run w, Inv run → RunOp.write now run op = .ok w →
      Inv w.run)
    (h : Transition.Reachable databaseSystem db) : db.AllRuns Inv := by
  refine h.invariant ?_ ?_
  · intro db hinit runId run hrun
    rw [hinit.1] at hrun
    cases hrun
  · intro db a hdb runId run hrun
    rcases Database.step_run hrun with
      hold | ⟨-, budget, -, rfl⟩ | ⟨run, op, w, -, hold, hw, rfl⟩
    · exact hdb runId run hold
    · exact hcreate budget a.1
    · exact hwrite a.1 op run w (hdb runId run hold) hw

end DeepResearch.Run
