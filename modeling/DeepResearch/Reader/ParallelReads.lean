/-
Concurrent page reads (`services/parallel_reads.py`).

`gather` makes one task per URL, and the event loop runs the tasks one at
a time, each up to its next `await`. A step of `readSystem` is one such
turn (`run`), the end of a `reader.read` (`finish`), or the cancellation of
a task where it waits (`cancel`); which task is next, what the reader
answers and when the deadline has passed is for the run to say.

# The phases of a task

`admitted` and `ready` are inside one turn: the slot of the host, and then
the one of the pool, is held, and the task has not come to its next
`await`.
-/
import DeepResearch.Lib.Semaphore
import DeepResearch.Lib.Transition
import DeepResearch.Source.SourcePolicy
import Mathlib.Data.List.Dedup

namespace DeepResearch.Reader

open DeepResearch.Source (UrlText)
open Transition (System)

-- ================================================================ one call

/-- `ConcurrentReadOutcome`. -/
structure ConcurrentReadOutcome (Page : Type) where
  page : Option Page
  errorCode : Option String
  latencyMs : Nat

/-- `list(dict.fromkeys(urls))`. -/
def fromKeys (urls : List UrlText) : List UrlText :=
  urls.reverse.dedup.reverse

theorem nodup_fromKeys (urls : List UrlText) : (fromKeys urls).Nodup :=
  List.nodup_reverse.mpr (List.nodup_dedup _)

theorem mem_fromKeys {urls : List UrlText} {url : UrlText} :
    url ∈ fromKeys urls ↔ url ∈ urls := by
  rw [fromKeys, List.mem_reverse, List.mem_dedup, List.mem_reverse]

/-- `(urlsplit(url).hostname or "unknown").lower()`. -/
def hostKey (final : UrlText → UrlText → Bool) (url : UrlText) :
    Option UrlText :=
  (UrlSplit.urlsplit url).map fun parsed =>
    let hostname := UrlSplit.hostname final parsed.netloc
    CaseFolding.lower final
      (if hostname = [] then "unknown".toList else hostname)

/-- What the tasks of one call share. -/
structure ReadBatch where
  uniqueUrls : List UrlText
  nodup : uniqueUrls.Nodup
  host : UrlText → UrlText
  maxConcurrency : Nat
  maxSameHost : Nat
  concurrency_pos : 0 < maxConcurrency
  sameHost_pos : 0 < maxSameHost
  /-- `deadline_at is not None`. -/
  hasDeadline : Bool

/-- `read_page_attempts_concurrently` up to `gather`; `none` is a
`ValueError`. The call that names no URL gathers nothing. -/
def readBatch (final : UrlText → UrlText → Bool) (urls : List UrlText)
    (maxConcurrency maxSameHost : Int) (hasDeadline : Bool) :
    Option ReadBatch :=
  if h : 0 < maxConcurrency.toNat ∧ 0 < maxSameHost.toNat then
    if (fromKeys urls).all (fun url => (hostKey final url).isSome) then
      some
        { uniqueUrls := fromKeys urls
          nodup := nodup_fromKeys urls
          host := fun url => (hostKey final url).getD []
          maxConcurrency := maxConcurrency.toNat
          maxSameHost := maxSameHost.toNat
          concurrency_pos := h.1
          sameHost_pos := h.2
          hasDeadline }
    else none
  else none

-- =============================================================== the tasks

/-- How far `read_one` has come with a URL. -/
inductive Phase (Page : Type)
  | created
  | atHost
  | admitted
  | atPool
  | ready
  | reading
  | done (outcome : ConcurrentReadOutcome Page)
  /-- Any other exception. -/
  | raised
  | cancelled

/-- How a `reader.read` ends. -/
inductive ReadResult (Page : Type)
  | read (page : Page) (latencyMs : Nat)
  | toolError (code : String) (latencyMs : Nat)
  | timeout (latencyMs : Nat)
  | raises

/-- What `read_one` makes of it. -/
def ReadResult.phase {Page : Type} : ReadResult Page → Phase Page
  | .read page latencyMs => .done ⟨some page, none, latencyMs⟩
  | .toolError code latencyMs => .done ⟨none, some code, latencyMs⟩
  | .timeout latencyMs =>
      .done ⟨none, some "DEADLINE_EXHAUSTED", latencyMs⟩
  | .raises => .raised

/-- The tasks of a call, its semaphores and the calls of `reader.read` so
far. -/
structure ReadState (Page : Type) where
  phase : UrlText → Phase Page
  hosts : UrlText → Semaphore UrlText
  pool : Semaphore UrlText
  reads : List UrlText

variable {Page : Type}

namespace ReadState

/-- A task moves on: its phase, and the two semaphores it deals with. -/
def move (b : ReadBatch) (s : ReadState Page) (url : UrlText)
    (phase : Phase Page) (host pool : Semaphore UrlText) :
    ReadState Page :=
  { s with
    phase := Function.update s.phase url phase
    hosts := Function.update s.hosts (b.host url) host
    pool }

/-- The start of a task, or its wake-up in the queue of its host. -/
def enterHost (b : ReadBatch) (url : UrlText) (s : ReadState Page) :
    ReadState Page :=
  let host := s.hosts (b.host url)
  match s.phase url with
  | .created =>
      if host.locked = true then
        s.move b url .atHost (host.enqueue url) s.pool
      else s.move b url .admitted host.take s.pool
  | .atHost =>
      if url ∈ host.woken then
        s.move b url .admitted (host.resume url) s.pool
      else s
  | _ => s

/-- The pool's slot, asked for behind the host's or handed over in the
queue. -/
def enter (b : ReadBatch) (url : UrlText) (s : ReadState Page) :
    ReadState Page :=
  let host := s.hosts (b.host url)
  match s.phase url with
  | .admitted =>
      if s.pool.locked = true then
        s.move b url .atPool host (s.pool.enqueue url)
      else s.move b url .ready host s.pool.take
  | .atPool =>
      if url ∈ s.pool.woken then
        s.move b url .ready host (s.pool.resume url)
      else s
  | _ => s

/-- The exit of both context managers. -/
def settle (b : ReadBatch) (url : UrlText) (phase : Phase Page)
    (s : ReadState Page) : ReadState Page :=
  s.move b url phase (s.hosts (b.host url)).release s.pool.release

/-- With both slots: the deadline has `expired`, or the read begins. -/
def begin (b : ReadBatch) (expired : Bool) (url : UrlText)
    (s : ReadState Page) : ReadState Page :=
  match s.phase url with
  | .ready =>
      if (b.hasDeadline && expired) = true then
        s.settle b url (.done ⟨none, some "DEADLINE_EXHAUSTED", 0⟩)
      else
        { s.move b url .reading (s.hosts (b.host url)) s.pool with
          reads := s.reads ++ [url] }
  | _ => s

/-- One turn of a task. -/
def run (b : ReadBatch) (url : UrlText) (expired : Bool)
    (s : ReadState Page) : ReadState Page :=
  ((s.enterHost b url).enter b url).begin b expired url

/-- The end of the read of a URL. -/
def finish (b : ReadBatch) (url : UrlText) (result : ReadResult Page)
    (s : ReadState Page) : ReadState Page :=
  match s.phase url with
  | .reading => s.settle b url result.phase
  | _ => s

/-- `CancelledError`, where the task waits. -/
def cancel (b : ReadBatch) (url : UrlText) (s : ReadState Page) :
    ReadState Page :=
  let host := s.hosts (b.host url)
  match s.phase url with
  | .created => s.move b url .cancelled host s.pool
  | .atHost => s.move b url .cancelled (host.leave url) s.pool
  | .atPool => s.move b url .cancelled host.release (s.pool.leave url)
  | .reading => s.settle b url .cancelled
  | _ => s

end ReadState

-- ============================================================== the system

/-- What can happen next. -/
inductive ReadAction (Page : Type)
  | run (url : UrlText) (expired : Bool)
  | finish (url : UrlText) (result : ReadResult Page)
  | cancel (url : UrlText)

/-- The task it happens to. -/
def ReadAction.url : ReadAction Page → UrlText
  | .run url _ => url
  | .finish url _ => url
  | .cancel url => url

/-- The task is not stopped from outside. -/
def ReadAction.isCancel : ReadAction Page → Bool
  | .cancel _ => true
  | _ => false

/-- One action. Only a task that was made can act. -/
def ReadState.step (b : ReadBatch) (s : ReadState Page)
    (action : ReadAction Page) : ReadState Page :=
  if action.url ∈ b.uniqueUrls then
    match action with
    | .run url expired => s.run b url expired
    | .finish url result => s.finish b url result
    | .cancel url => s.cancel b url
  else s

/-- The state `gather` starts from. -/
def ReadBatch.start (b : ReadBatch) : ReadState Page :=
  { phase := fun _ => .created
    hosts := fun _ => .new b.maxSameHost
    pool := .new b.maxConcurrency
    reads := [] }

/-- The tasks of a call, under any schedule. -/
def readSystem (Page : Type) (b : ReadBatch) :
    System (ReadState Page) (ReadAction Page) where
  init s := s = b.start
  step s action := s.step b action

-- ============================================================= what it says

/-- `reader.read` was called and has not ended. -/
def Phase.isReading : Phase Page → Bool
  | .reading => true
  | _ => false

/-- The task has passed the queue of its host and has not ended. -/
def Phase.isAdmitted : Phase Page → Bool
  | .admitted => true
  | .atPool => true
  | .ready => true
  | .reading => true
  | _ => false

/-- The task has ended. -/
def Phase.isOver : Phase Page → Bool
  | .done _ => true
  | .raised => true
  | .cancelled => true
  | _ => false

/-- The task has ended without a result; then `gather` raises. -/
def Phase.isFailed : Phase Page → Bool
  | .raised => true
  | .cancelled => true
  | _ => false

/-- What the task returned. -/
def Phase.outcome? : Phase Page → Option (ConcurrentReadOutcome Page)
  | .done outcome => some outcome
  | _ => none

/-- The reads in flight. -/
def ReadState.inFlight (b : ReadBatch) (s : ReadState Page) : Nat :=
  b.uniqueUrls.countP fun url => (s.phase url).isReading

/-- The reads in flight at one host. -/
def ReadState.inFlightAt (b : ReadBatch) (host : UrlText)
    (s : ReadState Page) : Nat :=
  b.uniqueUrls.countP fun url =>
    b.host url = host && (s.phase url).isReading

/-- The tasks past the queue of one host. -/
def ReadState.admittedAt (b : ReadBatch) (host : UrlText)
    (s : ReadState Page) : Nat :=
  b.uniqueUrls.countP fun url =>
    b.host url = host && (s.phase url).isAdmitted

/-- No turn of a task changes anything. -/
def ReadState.Idle (b : ReadBatch) (s : ReadState Page) : Prop :=
  ∀ url ∈ b.uniqueUrls, ∀ expired, s.run b url expired = s

/-- Neither a turn nor the end of a read changes anything. -/
def ReadState.Stuck (b : ReadBatch) (s : ReadState Page) : Prop :=
  ∀ action, action.isCancel = false → s.step b action = s

/-- `dict(results)`, once every task has returned; `none` where `gather`
has raised or is not through. -/
def ReadState.results (b : ReadBatch) (s : ReadState Page) :
    Option (List (UrlText × ConcurrentReadOutcome Page)) :=
  b.uniqueUrls.mapM fun url =>
    (s.phase url).outcome?.map fun outcome => (url, outcome)

/-- `read_pages_concurrently`. -/
def ReadState.pages (b : ReadBatch) (s : ReadState Page) :
    Option (List (UrlText × Option Page)) :=
  (s.results b).map fun results =>
    results.map fun result => (result.1, result.2.page)

end DeepResearch.Reader
