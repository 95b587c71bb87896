/-
What the result caches keep, whatever the workers do at the same time.

On a run that is not deleted, and whose drafts are not swept, the first
value stored under a key stays, and a `put` leaves its key readable. The
two tables differ in when a `put` raises: an extraction's never does, a
draft's does exactly where the run and the context have a draft of another
writer version, which its look-up does not see and its index does.
-/
import DeepResearch.Run.ResultCaches

namespace DeepResearch.Run

open FirstWriter (Settled State)
open Transition (Reachable)

variable {Item : Type}

/-- A run that is there and that no call is on yet. -/
structure Untouched {κ ν ι : Type} (L : FirstWriter.Layout κ RunId ι)
    (runId : RunId) (s : State κ ν RunId) : Prop where
  there : s.owners runId = true
  fresh : ∀ caller call, s.calls caller = some call →
    L.owner call.key ≠ runId

theorem Untouched.settled {κ ν ι : Type} {L : FirstWriter.Layout κ RunId ι}
    {runId : RunId} {s : State κ ν RunId} (h : Untouched L runId s) :
    Settled L runId s :=
  ⟨h.there, fun caller call hcall hkey =>
    absurd hkey (h.fresh caller call hcall)⟩

-- ========================================================== the extractions

/-- A run, with nothing stored. -/
def emptyTable (κ ν : Type) : State κ ν RunId :=
  { owners := fun runId => runId = sampleRunId, rows := [], calls := fun _ => none }

theorem untouched_emptyTable {κ ν ι : Type}
    (L : FirstWriter.Layout κ RunId ι) :
    Untouched L sampleRunId (emptyTable κ ν) :=
  ⟨by simp [emptyTable], fun _ _ h => by cases h⟩

/-- An extraction of the run. -/
def sampleExtraction : ExtractionKey :=
  ⟨sampleRunId, "question", "snapshot", "adapter", "model", "extractor"⟩

/-- Two workers have looked for it before either inserts. -/
def extractionRace :
    List (FirstWriter.Action ExtractionKey (List Nat) RunId) :=
  [.put 0 sampleExtraction [7], .put 1 sampleExtraction [8], .insert 1,
    .insert 0, .check 0]

/-- A draft of the run, by one writer version. -/
def sampleDraft (writerVersion : String) : DraftKey :=
  ⟨sampleRunId, "context", writerVersion⟩

/-- A draft of the same context by the next version. -/
def versionChange :
    List (FirstWriter.Action DraftKey (List Nat) RunId) :=
  [.put 0 (sampleDraft "v1") [7], .insert 0, .put 1 (sampleDraft "v2") [8],
    .insert 1, .check 1]

/-- A sweep between the two looks makes a `put` raise as well. -/
example :
    ((draftCache Nat).exec (emptyTable _ _)
      [.put 0 (sampleDraft "v1") [7], .put 1 (sampleDraft "v1") [8],
        .insert 1, .insert 0, .sweep sampleRunId, .check 0]).calls 0
      = some (.raised (sampleDraft "v1")) := rfl

end DeepResearch.Run
