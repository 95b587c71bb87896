/-
The caches of finished model work: extracted evidence
(`db/extraction_cache.py`) and report drafts (`db/report_draft_cache.py`).

`put` looks its key up, inserts, and where the insert raises an
`IntegrityError` looks again; each is a transaction of its own, and any
number of workers are inside a `put`. Both tables refer to the run and
lose its rows with it. The unique index of the first is on the key, that of
the second leaves `writer_version` out of it. The items of an extraction
and the entries of a draft (`Item`) are stored as they are.
-/
import DeepResearch.Lib.FirstWriter
import DeepResearch.Run.Basic

namespace DeepResearch.Run

open FirstWriter (Layout State cacheSystem)
open Transition (System)

-- ================================================================ the tables

/-- The key of `extraction_cache`. -/
structure ExtractionKey where
  runId : RunId
  questionHash : String
  snapshotHash : String
  adapter : String
  model : String
  extractorVersion : String
  deriving DecidableEq

/-- `uq_extraction_cache_key`. -/
def extractionLayout : Layout ExtractionKey RunId ExtractionKey where
  owner key := key.runId
  index key := key
  owner_of_index h := congrArg ExtractionKey.runId h

/-- The key of `report_draft_cache`. -/
structure DraftKey where
  runId : RunId
  contextHash : String
  writerVersion : String
  deriving DecidableEq

/-- `uq_report_draft_cache_context`. -/
def draftLayout : Layout DraftKey RunId (RunId × String) where
  owner key := key.runId
  index key := (key.runId, key.contextHash)
  owner_of_index h := congrArg Prod.fst h

/-- `ExtractionCacheRepository` and the runs. Nothing sweeps this table. -/
def extractionCache (Item : Type) :
    System (State ExtractionKey (List Item) RunId)
      (FirstWriter.Action ExtractionKey (List Item) RunId) :=
  cacheSystem extractionLayout List.isEmpty

/-- `ReportDraftCacheRepository` and the runs. `invalidate_run` is the
sweep. -/
def draftCache (Item : Type) :
    System (State DraftKey (List Item) RunId)
      (FirstWriter.Action DraftKey (List Item) RunId) :=
  cacheSystem draftLayout List.isEmpty

end DeepResearch.Run
