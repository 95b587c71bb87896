/-
When the handoff of a feedback query succeeds.

# One step

`handover` is the query a call takes: the first that waits, if its
question is in the plan and its query not empty. Without one the call
does nothing, whatever waits behind the first. With one it inserts a tool
call, and it is the only writer of the table that does not look for the
row first: a key that is taken aborts the transaction, and the query
keeps waiting.

# Runs

The keys of the web searches in the table are those of the queries the
run has executed (`exec_keyTaken_iff`), so a handoff succeeds exactly
when its query has none of their keys. Which queries these are the
inputs say without the table (`QueryQueue`): what was dispatched, what
the scheduler selected, and the plan. A run and its queue agree up to
the first handoff that fails (`Agrees.exec`), and that is the first one
that asks a question what it was asked before. The consumed events of a
run grow, and a target is built from no execution they name
(`handedOut_fresh`).
-/
import DeepResearch.Run.FeedbackHandoff

namespace DeepResearch.Run

-- ============================================================== the table

theorem insertToolCall_of_not_mem {new : ToolCallRow}
    {rows : List ToolCallRow}
    (h : new.dedupeKey ∉ rows.map (·.dedupeKey)) :
    insertToolCall new rows = .ok (rows ++ [new]) := by
  unfold insertToolCall
  rw [if_neg]
  intro hany
  apply h
  simpa using hany

/-- The unique index refuses a key that is there, however its call ended.
-/
theorem insertToolCall_of_mem {new : ToolCallRow} {rows : List ToolCallRow}
    (h : new.dedupeKey ∈ rows.map (·.dedupeKey)) :
    insertToolCall new rows = .error .researchToolCallDedupe := by
  unfold insertToolCall
  rw [if_pos]
  simpa using h

/-- A caller that looks for the row first is never refused. -/
theorem upsertToolCall_ok {reuse : ToolCallRow → ToolCallRow}
    (hreuse : ∀ row, (reuse row).dedupeKey = row.dedupeKey)
    (new : ToolCallRow) (rows : List ToolCallRow) :
    ∃ rows', upsertToolCall reuse new rows = .ok rows'
      ∧ ∀ key, key ∈ rows'.map (·.dedupeKey)
        ↔ key ∈ rows.map (·.dedupeKey) ∨ key = new.dedupeKey := by
  unfold upsertToolCall
  by_cases h : new.dedupeKey ∈ rows.map (·.dedupeKey)
  · rw [if_pos (by simpa using h)]
    refine ⟨_, rfl, fun key => ?_⟩
    have hkeys : (rows.map fun row =>
        if row.dedupeKey = new.dedupeKey then reuse row else row).map
          (·.dedupeKey) = rows.map (·.dedupeKey) := by
      rw [List.map_map]
      apply List.map_congr_left
      intro row _
      show (if row.dedupeKey = new.dedupeKey then reuse row
        else row).dedupeKey = row.dedupeKey
      split
      · exact hreuse row
      · rfl
    rw [hkeys]
    refine ⟨.inl, ?_⟩
    rintro (hkey | rfl)
    · exact hkey
    · exact h
  · rw [if_neg (by simpa using h), insertToolCall_of_not_mem h]
    refine ⟨_, rfl, fun key => ?_⟩
    rw [List.map_append, List.mem_append, List.map_singleton,
      List.mem_singleton]

namespace FeedbackState

-- ============================================================== one call

/-- The question is in the plan and the query not empty. -/
def Usable (s : FeedbackState) (refs : FeedbackExecutionRefs) : Prop :=
  refs.questionId ≠ "" ∧ queryOf refs ≠ ""
    ∧ (s.planItem refs.questionId).isSome

instance decidableUsable (s : FeedbackState)
    (refs : FeedbackExecutionRefs) : Decidable (s.Usable refs) :=
  inferInstanceAs (Decidable (_ ∧ _ ∧ _))

/-- The query a call of `_prepare_feedback_target` hands over. -/
def handover (s : FeedbackState) : Option FeedbackExecutionRefs :=
  s.pending.filter (s.Usable ·)

variable (text : TextFunctions)

/-- The duplicate key of a feedback query. -/
def feedbackKey (refs : FeedbackExecutionRefs) : String :=
  searchQueryDuplicateKey text refs.questionId (queryOf refs)

/-- A web search of the run has the duplicate key. -/
def KeyTaken (s : FeedbackState) (key : String) : Prop :=
  (.webSearch, key) ∈ s.toolCalls.map (·.dedupeKey)

/-- The target asks for the query of a feedback execution. -/
structure BuiltFrom (target : FeedbackTarget)
    (refs : FeedbackExecutionRefs) : Prop where
  questionId : target.questionId = refs.questionId
  query : target.query = queryOf refs
  feedbackId : target.feedbackId = refs.feedbackId
  feedbackExecutionId : target.feedbackExecutionId = refs.feedbackExecutionId
  queryExecutionId : target.queryExecutionId = refs.executionId

/-- What a handoff does. -/
structure HandsOver (s s' : FeedbackState) (target : FeedbackTarget)
    (refs : FeedbackExecutionRefs) : Prop where
  built : BuiltFrom target refs
  run : s'.run = s.run
  planItems : s'.planItems = s.planItems
  count : s'.feedbackExecutionCount = s.feedbackExecutionCount
  started : s'.events.filterMap (·.startedRefs)
    = s.events.filterMap (·.startedRefs)
  consumed : s'.consumed = s.consumed ++ [refs.feedbackExecutionId]
  toolCalls : s'.toolCalls.map (·.dedupeKey)
    = s.toolCalls.map (·.dedupeKey) ++ [(.webSearch, feedbackKey text refs)]

/-- A handover consumes its execution. -/
theorem consumed_handedOver (gaps : List LegacyGapRow)
    (toolCalls : List ToolCallRow) (refs : FeedbackExecutionRefs)
    (s : FeedbackState) :
    (s.handedOver gaps toolCalls refs).consumed
      = s.consumed ++ [refs.feedbackExecutionId] := by
  simp [handedOver, consumed, List.filterMap_append, FeedbackEvent.consumedId]

/-- It starts none. -/
theorem started_handedOver (gaps : List LegacyGapRow)
    (toolCalls : List ToolCallRow) (refs : FeedbackExecutionRefs)
    (s : FeedbackState) :
    (s.handedOver gaps toolCalls refs).events.filterMap (·.startedRefs)
      = s.events.filterMap (·.startedRefs) := by
  simp [handedOver, List.filterMap_append, FeedbackEvent.startedRefs]

variable {text} {s : FeedbackState} {ids : HandoffIds}

/-- Without a query to hand over a call does nothing. -/
theorem prepareFeedbackTarget_of_none (h : s.handover = none) :
    s.prepareFeedbackTarget text ids = .ok (s, none) := by
  unfold prepareFeedbackTarget
  cases hpending : s.pending with
  | none => rfl
  | some refs =>
      have hunusable : ¬ s.Usable refs := by
        intro husable
        rw [handover, hpending, Option.filter_some, if_pos] at h
        · cases h
        · simpa using husable
      dsimp only
      split
      case isTrue => rfl
      case isFalse hempty =>
        rw [not_or] at hempty
        cases hitem : s.planItem refs.questionId with
        | none => rfl
        | some question =>
            exact absurd ⟨hempty.1, hempty.2, by rw [hitem]; rfl⟩ hunusable

/-- A pending execution is handed over if its question is in the plan and
its query has text. -/
theorem handover_eq_some {refs : FeedbackExecutionRefs} :
    s.handover = some refs ↔ s.pending = some refs ∧ s.Usable refs := by
  unfold handover
  rw [Option.filter_eq_some_iff]
  simp

/-- With one, the key of its query decides. -/
theorem prepareFeedbackTarget_of_some {refs : FeedbackExecutionRefs}
    (h : s.handover = some refs) :
    (s.KeyTaken (feedbackKey text refs) →
      s.prepareFeedbackTarget text ids = .error .researchToolCallDedupe)
      ∧ (¬ s.KeyTaken (feedbackKey text refs) →
        ∃ s' target, s.prepareFeedbackTarget text ids = .ok (s', some target)
          ∧ HandsOver text s s' target refs) := by
  obtain ⟨hpending, hquestion, hquery, hitem⟩ := handover_eq_some.mp h
  obtain ⟨question, hquestionItem⟩ := Option.isSome_iff_exists.mp hitem
  rcases hgap : s.openLegacyGap refs.questionId with ⟨gap, gaps⟩
  -- All that can still fail is the insert of the tool call.
  have hprepare : s.prepareFeedbackTarget text ids
      = (do
          let toolCalls ← insertToolCall
            (feedbackToolCall text ids gap refs (queryOf refs)) s.toolCalls
          .ok (s.handedOver gaps toolCalls refs,
            some (s.feedbackTarget ids gap question refs
              (queryOf refs)))) := by
    unfold prepareFeedbackTarget
    rw [hpending]
    dsimp only
    rw [if_neg (by rw [not_or]; exact ⟨hquestion, hquery⟩), hquestionItem]
    dsimp only
    rw [hgap]
  let call := feedbackToolCall text ids gap refs (queryOf refs)
  have hkey : call.dedupeKey = (.webSearch, feedbackKey text refs) := rfl
  constructor
  · intro htaken
    rw [hprepare]
    rw [insertToolCall_of_mem (by rw [hkey]; exact htaken)]
    rfl
  · intro hfree
    refine ⟨s.handedOver gaps (s.toolCalls ++ [call]) refs,
      s.feedbackTarget ids gap question refs (queryOf refs), ?_, ?_⟩
    · rw [hprepare]
      rw [insertToolCall_of_not_mem (by rw [hkey]; exact hfree)]
      rfl
    · exact
        { built := ⟨rfl, rfl, rfl, rfl, rfl⟩
          run := rfl
          planItems := rfl
          count := rfl
          started := started_handedOver _ _ _ _
          consumed := consumed_handedOver _ _ _ _
          toolCalls := by
            show (s.toolCalls ++ [call]).map (·.dedupeKey) = _
            rw [List.map_append, List.map_singleton, hkey] }

-- ========================================================= prepare_target

variable {selected : Option ScheduledSearch}

/-- The call of a query whose key is taken raises. -/
theorem prepareTarget_of_taken {refs : FeedbackExecutionRefs}
    (h : s.handover = some refs) (htaken : s.KeyTaken (feedbackKey text refs)) :
    s.prepareTarget text ids selected = .error .researchToolCallDedupe := by
  unfold prepareTarget
  rw [(prepareFeedbackTarget_of_some h).1 htaken]
  rfl

/-- A query with a free key is handed out. -/
theorem prepareTarget_of_free {refs : FeedbackExecutionRefs}
    (h : s.handover = some refs)
    (hfree : ¬ s.KeyTaken (feedbackKey text refs)) :
    ∃ s' target, s.prepareTarget text ids selected = .ok (s', some target)
      ∧ HandsOver text s s' target refs := by
  obtain ⟨s', target, hprepare, hhands⟩ :=
    (prepareFeedbackTarget_of_some h).2 hfree
  refine ⟨s', target, ?_, hhands⟩
  unfold prepareTarget
  rw [hprepare]
  cases selected <;> rfl

/-- The scheduler is never refused its tool call. -/
theorem callScheduled_ok (text : TextFunctions) (ids : HandoffIds)
    (search : ScheduledSearch) (s : FeedbackState) :
    ∃ toolCalls, s.callScheduled text ids search = .ok { s with toolCalls }
      ∧ ∀ key, (.webSearch, key) ∈ toolCalls.map (·.dedupeKey)
        ↔ s.KeyTaken key ∨ scheduledKey text search = key := by
  obtain ⟨toolCalls, hupsert, hkeys⟩ := @upsertToolCall_ok search.runAgain
    (fun _ => rfl) (scheduledToolCall text ids search) s.toolCalls
  rw [callScheduled, hupsert]
  refine ⟨toolCalls, rfl, fun key => ?_⟩
  rw [hkeys]
  simp [KeyTaken, scheduledToolCall, ToolCallRow.dedupeKey, eq_comm]

/-- Without feedback the call looks its keys up before it inserts them. -/
theorem prepareTarget_of_none (h : s.handover = none) :
    ∃ toolCalls, s.prepareTarget text ids selected
        = .ok ({ s with toolCalls }, none)
      ∧ ∀ key, (.webSearch, key) ∈ toolCalls.map (·.dedupeKey)
        ↔ s.KeyTaken key ∨ selected.map (scheduledKey text) = some key := by
  unfold prepareTarget
  rw [prepareFeedbackTarget_of_none h]
  cases selected with
  | none => exact ⟨s.toolCalls, rfl, fun key => by simp [KeyTaken]⟩
  | some search =>
      obtain ⟨toolCalls, hcall, hkeys⟩ := s.callScheduled_ok text ids search
      refine ⟨toolCalls, ?_, fun key => ?_⟩
      · show (s.callScheduled text ids search >>= fun s => .ok (s, none)) = _
        rw [hcall]
        rfl
      · rw [hkeys, Option.map_some, Option.some.injEq]

-- =============================================================== one step

variable (text)

/-- The duplicate key of the web search an action executes. -/
def searchedKey (s : FeedbackState) : FeedbackAction → Option String
  | .prepareTarget _ selected =>
      match s.handover with
      | some refs => some (feedbackKey text refs)
      | none => selected.map (scheduledKey text)
  | _ => none

/-- The feedback execution an action turns into a target. -/
def handedBy (s : FeedbackState) : FeedbackAction → List String
  | .prepareTarget ids selected =>
      match s.prepareTarget text ids selected with
      | .ok (_, some target) => [target.feedbackExecutionId]
      | _ => []
  | _ => []

/-- A step adds the key of the query it executes, and no other. -/
theorem step_keyTaken_iff (s : FeedbackState) (a : FeedbackAction)
    (key : String) :
    (s.step text a).KeyTaken key
      ↔ s.KeyTaken key ∨ s.searchedKey text a = some key := by
  -- Most actions write no key.
  have hsame : ∀ {s' : FeedbackState},
      s'.toolCalls.map (·.dedupeKey) = s.toolCalls.map (·.dedupeKey) →
      (s'.KeyTaken key
        ↔ s.KeyTaken key ∨ (none : Option String) = some key) := by
    intro s' hkeys
    simp [KeyTaken, hkeys]
  cases a with
  | prepareTarget ids selected =>
      unfold step searchedKey
      dsimp only
      cases hhandover : s.handover with
      | none =>
          obtain ⟨toolCalls, hprepare, hkeys⟩ :=
            @prepareTarget_of_none text s ids selected hhandover
          rw [hprepare]
          exact hkeys key
      | some refs =>
          -- A key that is taken makes the call raise; it is then no new
          -- one.
          by_cases htaken : s.KeyTaken (feedbackKey text refs)
          · rw [prepareTarget_of_taken hhandover htaken]
            refine ⟨.inl, ?_⟩
            rintro (hkey | hkey)
            · exact hkey
            · rw [← Option.some.inj hkey]
              exact htaken
          · obtain ⟨s', target, hprepare, hhands⟩ :=
              @prepareTarget_of_free text s ids selected refs hhandover htaken
            rw [hprepare]
            show (.webSearch, key) ∈ s'.toolCalls.map (·.dedupeKey) ↔ _
            rw [hhands.toolCalls, List.mem_append, List.mem_singleton]
            simp [KeyTaken, eq_comm]
  | dispatch refs =>
      apply hsame
      show (s.dispatch refs).toolCalls.map (·.dedupeKey) = _
      unfold dispatch
      split
      · rfl
      · split <;> rfl
  | callTool row hrow =>
      obtain ⟨toolCalls, hupsert, hkeys⟩ :=
        @upsertToolCall_ok id (fun _ => rfl) row s.toolCalls
      unfold step
      dsimp only
      rw [hupsert]
      show (.webSearch, key) ∈ toolCalls.map (·.dedupeKey) ↔ _
      rw [hkeys]
      -- The other tools have keys of their own.
      have hne : (.webSearch, key) ≠ row.dedupeKey := fun h =>
        hrow (congrArg Prod.fst h).symm
      simp [hne, KeyTaken, searchedKey]
  | endToolCall id status errorCode retryable =>
      apply hsame
      unfold step
      dsimp only
      rw [List.map_map]
      apply List.map_congr_left
      intro row _
      rw [Function.comp_apply]
      split <;> rfl
  | recordSearch | replan | openGap | writeRun | appendEvent =>
      exact hsame rfl

/-- A step records the execution it hands over as consumed, and it hands
over none that was. -/
theorem step_consumed (s : FeedbackState) (a : FeedbackAction) :
    (s.step text a).consumed = s.consumed ++ s.handedBy text a
      ∧ ∀ id ∈ s.handedBy text a, id ∉ s.consumed := by
  have hsame : ∀ {s' : FeedbackState}, s'.events = s.events →
      s'.consumed = s.consumed ++ []
        ∧ ∀ id ∈ ([] : List String), id ∉ s.consumed := by
    intro s' hevents
    rw [consumed, hevents, List.append_nil]
    exact ⟨rfl, fun id hid => absurd hid List.not_mem_nil⟩
  -- An event that is not consumed at the end of the log.
  have hlogged : ∀ {s' : FeedbackState} {event : FeedbackEvent},
      event.consumedId = none → s'.events = s.events ++ [event] →
      s'.consumed = s.consumed ++ []
        ∧ ∀ id ∈ ([] : List String), id ∉ s.consumed := by
    intro s' event hevent hevents
    rw [consumed, hevents, List.filterMap_append,
      List.filterMap_cons_none hevent]
    exact ⟨rfl, fun id hid => absurd hid List.not_mem_nil⟩
  cases a with
  | prepareTarget ids selected =>
      unfold handedBy step
      dsimp only
      cases hhandover : s.handover with
      | none =>
          obtain ⟨toolCalls, hprepare, -⟩ :=
            @prepareTarget_of_none text s ids selected hhandover
          rw [hprepare]
          exact hsame rfl
      | some refs =>
          by_cases htaken : s.KeyTaken (feedbackKey text refs)
          · rw [prepareTarget_of_taken hhandover htaken]
            exact hsame rfl
          · obtain ⟨s', target, hprepare, hhands⟩ :=
              @prepareTarget_of_free text s ids selected refs hhandover htaken
            rw [hprepare]
            dsimp only
            rw [hhands.built.feedbackExecutionId]
            refine ⟨hhands.consumed, fun id hid => ?_⟩
            rw [List.mem_singleton.mp hid]
            have hmem : refs ∈ s.unconsumed :=
              List.mem_of_mem_head? (handover_eq_some.mp hhandover).1
            simpa using (List.mem_filter.mp hmem).2
  | dispatch refs =>
      show (s.dispatch refs).consumed = _ ∧ _
      unfold dispatch
      split
      · exact hsame rfl
      · split
        · exact @hlogged _ (.executionStarted (some refs)) rfl rfl
        · exact hsame rfl
  | callTool row hrow =>
      unfold step
      dsimp only
      split <;> exact hsame rfl
  | appendEvent eventType => exact @hlogged _ (.other eventType) rfl rfl
  | endToolCall | recordSearch | replan | openGap | writeRun =>
      exact hsame rfl

-- ==================================================================== runs

/-- The duplicate keys of the web searches a run executes. -/
def executedKeys (s : FeedbackState) : List FeedbackAction → List String
  | [] => []
  | a :: as => (s.searchedKey text a).toList ++ (s.step text a).executedKeys as

/-- The feedback executions a run turns into targets. -/
def handedOut (s : FeedbackState) : List FeedbackAction → List String
  | [] => []
  | a :: as => s.handedBy text a ++ (s.step text a).handedOut as

/-- The table has the keys of the queries the run has executed. -/
theorem exec_keyTaken_iff (s : FeedbackState) (as : List FeedbackAction)
    (key : String) :
    ((feedbackSystem text).exec s as).KeyTaken key
      ↔ s.KeyTaken key ∨ key ∈ s.executedKeys text as := by
  induction as generalizing s with
  | nil => simp [executedKeys]
  | cons a as ih =>
      rw [Transition.System.exec_cons, ih, executedKeys, List.mem_append,
        Option.mem_toList, ← or_assoc]
      exact or_congr_left (step_keyTaken_iff text s a key)

/-- A run hands out every execution once, and none that had been consumed
before. -/
theorem handedOut_fresh (s : FeedbackState) (as : List FeedbackAction) :
    (s.handedOut text as).Nodup
      ∧ ∀ id ∈ s.handedOut text as, id ∉ s.consumed := by
  induction as generalizing s with
  | nil => exact ⟨List.nodup_nil, fun id hid => absurd hid List.not_mem_nil⟩
  | cons a as ih =>
      obtain ⟨hconsumed, hnew⟩ := step_consumed text s a
      obtain ⟨hnodup, hfresh⟩ := ih (s.step text a)
      rw [hconsumed] at hfresh
      rw [handedOut]
      constructor
      · rw [List.nodup_append]
        refine ⟨?_, hnodup, ?_⟩
        · unfold handedBy
          repeat' split
          all_goals simp
        · rintro id hid _ hid' rfl
          exact hfresh id hid' (List.mem_append_right _ hid)
      · intro id hid
        rcases List.mem_append.mp hid with hid | hid
        · exact hnew id hid
        · exact fun hmem => hfresh id hid (List.mem_append_left _ hmem)

-- ============================================================== uniqueness

/-- A query the call hands over has a key no web search of the run has;
the handoff goes through and is recorded. -/
def HandsOverUniquely (s : FeedbackState) (ids : HandoffIds) : Prop :=
  ∀ refs, s.handover = some refs →
    (∀ row ∈ s.toolCalls,
      row.dedupeKey ≠ (.webSearch, feedbackKey text refs))
      ∧ ∃ s' target, s.prepareFeedbackTarget text ids = .ok (s', some target)
        ∧ refs.feedbackExecutionId ∈ s'.consumed

/-- A call hands over uniquely unless the key of its feedback query is
taken. -/
theorem handsOverUniquely_iff (s : FeedbackState) (ids : HandoffIds) :
    s.HandsOverUniquely text ids
      ↔ ∀ refs, s.handover = some refs →
        ¬ s.KeyTaken (feedbackKey text refs) := by
  apply forall₂_congr
  intro refs hhandover
  constructor
  · rintro ⟨hfree, -⟩ htaken
    obtain ⟨row, hrow, hkey⟩ := List.mem_map.mp htaken
    exact hfree row hrow hkey
  · intro hfree
    refine ⟨fun row hrow hkey => hfree ?_, ?_⟩
    · rw [KeyTaken, ← hkey]
      exact List.mem_map_of_mem hrow
    · obtain ⟨s', target, hprepare, hhands⟩ :=
        (@prepareFeedbackTarget_of_some text s ids refs hhandover).2 hfree
      refine ⟨s', target, hprepare, ?_⟩
      rw [hhands.consumed]
      exact List.mem_append_right _ (List.mem_singleton_self _)

end FeedbackState

/-- What the inputs of a run say about its queries: the plan, the requests
that were dispatched, and the executions whose turn has been. -/
structure QueryQueue where
  planVersion : Nat
  planItems : List FeedbackPlanItem
  dispatched : List FeedbackExecutionRefs := []
  taken : List String := []

namespace QueryQueue

open FeedbackState (queryOf feedbackExecutionLimit ScheduledSearch)

/-- The question is in the plan and the query not empty. -/
def InPlan (q : QueryQueue) (refs : FeedbackExecutionRefs) : Prop :=
  refs.questionId ≠ "" ∧ queryOf refs ≠ ""
    ∧ ∃ item ∈ q.planItems,
      item.planVersion = q.planVersion ∧ item.questionId = refs.questionId

instance (q : QueryQueue) (refs : FeedbackExecutionRefs) :
    Decidable (q.InPlan refs) :=
  inferInstanceAs (Decidable (_ ∧ _ ∧ ∃ item ∈ q.planItems, _))

/-- The request whose turn it is. -/
def next (q : QueryQueue) : Option FeedbackExecutionRefs :=
  ((q.dispatched.filter (·.feedbackExecutionId ∉ q.taken)).head?).filter
    (q.InPlan ·)

/-- What an action does to the queue. -/
def step (q : QueryQueue) : FeedbackAction → QueryQueue
  | .prepareTarget _ _ =>
      match q.next with
      | none => q
      | some refs => { q with taken := q.taken ++ [refs.feedbackExecutionId] }
  | .dispatch refs =>
      if queryOf refs ≠ "" ∧ q.dispatched.length < feedbackExecutionLimit then
        { q with dispatched := q.dispatched ++ [refs] }
      else q
  | .replan items =>
      { q with
        planItems := q.planItems ++ items
        planVersion := q.planVersion + 1 }
  | .writeRun run => { q with planVersion := run.planVersion }
  | _ => q

def exec (q : QueryQueue) (as : List FeedbackAction) : QueryQueue :=
  as.foldl step q

variable (text : TextFunctions)

/-- A question and the normalized text it is asked. -/
abbrev Asking := String × String

/-- What a request asks. -/
def asking (refs : FeedbackExecutionRefs) : Asking :=
  (refs.questionId, normalizeSearchQuery text (queryOf refs))

/-- What the scheduler's query asks, normalized once more. -/
def scheduledAsking (search : ScheduledSearch) : Asking :=
  (search.questionId,
    normalizeSearchQuery text (normalizeSearchQuery text search.query))

/-- What an action asks. -/
def asks (q : QueryQueue) : FeedbackAction → Option Asking
  | .prepareTarget _ selected =>
      match q.next with
      | some refs => some (asking text refs)
      | none => selected.map (scheduledAsking text)
  | _ => none

/-- What a run asks. -/
def asked (q : QueryQueue) : List FeedbackAction → List Asking
  | [] => []
  | a :: as => (q.asks text a).toList ++ (q.step a).asked as

def digest (asking : Asking) : String :=
  text.sha256 (asking.1 ++ ":" ++ asking.2)

/-- Two askings that differ, with one digest. -/
def Collide (first second : Asking) : Prop :=
  first ≠ second ∧ digest text first = digest text second

/-- Every request whose turn comes asks its question something new: no
earlier query of that question, of the scheduler or of a request, has the
same normalized text, and its digest collides with none. -/
def AsksNew (q : QueryQueue) (as : List FeedbackAction) : Prop :=
  ∀ xs ids selected ys, as = xs ++ .prepareTarget ids selected :: ys →
    ∀ refs, (q.exec xs).next = some refs →
      ∀ earlier ∈ q.asked text xs, earlier ≠ asking text refs
        ∧ ¬ Collide text earlier (asking text refs)

end QueryQueue

namespace FeedbackState

/-- A state and a queue tell the same of the queries. -/
structure Agrees (s : FeedbackState) (q : QueryQueue) : Prop where
  planVersion : s.run.planVersion = q.planVersion
  planItems : s.planItems = q.planItems
  dispatched : s.events.filterMap (·.startedRefs) = q.dispatched
  taken : s.consumed = q.taken
  count : s.feedbackExecutionCount = q.dispatched.length

section

variable {text : TextFunctions} {s : FeedbackState} {q : QueryQueue}

/-- Whether a request can be served is told from the plan. -/
theorem Agrees.inPlan_iff (h : s.Agrees q) (refs : FeedbackExecutionRefs) :
    s.Usable refs ↔ q.InPlan refs := by
  unfold Usable QueryQueue.InPlan planItem
  rw [List.find?_isSome, h.planItems, h.planVersion]
  simp only [decide_eq_true_eq]

/-- The queue knows whose turn it is. -/
theorem Agrees.next (h : s.Agrees q) : s.handover = q.next := by
  unfold handover QueryQueue.next pending unconsumed
  rw [h.dispatched, h.taken]
  congr 1
  funext refs
  exact decide_eq_decide.mpr (h.inPlan_iff refs)

/-- The keys that are inserted are digests of what is asked. -/
theorem Agrees.searchedKey (h : s.Agrees q) (a : FeedbackAction) :
    s.searchedKey text a = (q.asks text a).map (QueryQueue.digest text) := by
  cases a with
  | prepareTarget ids selected =>
      unfold FeedbackState.searchedKey QueryQueue.asks
      dsimp only
      rw [h.next]
      cases q.next with
      | some refs => rfl
      | none => cases selected <;> rfl
  | dispatch | callTool | endToolCall | recordSearch | replan | openGap
  | writeRun | appendEvent => rfl

/-- A step whose handoff goes through keeps state and queue together. -/
theorem Agrees.step (h : s.Agrees q) {a : FeedbackAction}
    (hfree : ∀ ids selected, a = .prepareTarget ids selected →
      ∀ refs, s.handover = some refs → ¬ s.KeyTaken (feedbackKey text refs)) :
    (s.step text a).Agrees (q.step a) := by
  cases a with
  | prepareTarget ids selected =>
      unfold FeedbackState.step QueryQueue.step
      dsimp only
      cases hhandover : s.handover with
      | none =>
          obtain ⟨toolCalls, hprepare, -⟩ :=
            @prepareTarget_of_none text s ids selected hhandover
          rw [hprepare, ← h.next, hhandover]
          exact { h with }
      -- The key is free, so the query is handed over and consumed.
      | some refs =>
          obtain ⟨s', target, hprepare, hhands⟩ :=
            @prepareTarget_of_free text s ids selected refs hhandover
              (hfree ids selected rfl refs hhandover)
          rw [hprepare, ← h.next, hhandover]
          exact
            { planVersion := (congrArg _ hhands.run).trans h.planVersion
              planItems := hhands.planItems.trans h.planItems
              dispatched := hhands.started.trans h.dispatched
              taken := by rw [hhands.consumed, h.taken]
              count := hhands.count.trans h.count }
  | dispatch refs =>
      show (s.dispatch refs).Agrees _
      unfold dispatch QueryQueue.step
      dsimp only
      by_cases hempty : queryOf refs = ""
      · rw [if_pos hempty, if_neg fun hboth => hboth.1 hempty]
        exact h
      · rw [if_neg hempty, h.count]
        -- Both count the dispatched requests up to the same limit.
        by_cases hroom : q.dispatched.length < feedbackExecutionLimit
        · rw [if_pos hroom, if_pos ⟨hempty, hroom⟩]
          exact
            { h with
              dispatched := by
                rw [List.filterMap_append, h.dispatched]
                rfl
              taken := by
                rw [consumed, List.filterMap_append]
                exact (List.append_nil _).trans h.taken
              count := by
                rw [List.length_append]
                rfl }
        · rw [if_neg hroom, if_neg fun hboth => hroom hboth.2]
          exact h
  | callTool row hrow =>
      unfold FeedbackState.step QueryQueue.step
      dsimp only
      split
      · exact { h with }
      · exact h
  | replan items =>
      exact
        { h with
          planVersion := congrArg (· + 1) h.planVersion
          planItems := congrArg (· ++ items) h.planItems }
  | writeRun run => exact { h with planVersion := rfl }
  | appendEvent eventType =>
      exact
        { h with
          dispatched := by
            show (s.events ++ [FeedbackEvent.other eventType]).filterMap _ = _
            rw [List.filterMap_append]
            exact (List.append_nil _).trans h.dispatched
          taken := by
            show (s.events ++ [FeedbackEvent.other eventType]).filterMap _ = _
            rw [List.filterMap_append]
            exact (List.append_nil _).trans h.taken }
  | endToolCall | recordSearch | openGap => exact { h with }

/-- As long as handoffs go through, the run executes what its inputs
ask. -/
theorem Agrees.exec (h : s.Agrees q) {as : List FeedbackAction}
    (hfree : ∀ xs ids selected ys, as = xs ++ .prepareTarget ids selected :: ys →
      ∀ refs, ((feedbackSystem text).exec s xs).handover = some refs →
        ¬ ((feedbackSystem text).exec s xs).KeyTaken
          (feedbackKey text refs)) :
    ((feedbackSystem text).exec s as).Agrees (q.exec as)
      ∧ s.executedKeys text as
        = (q.asked text as).map (QueryQueue.digest text) := by
  induction as generalizing s q with
  | nil => exact ⟨h, rfl⟩
  | cons a as ih =>
      have hstep : (s.step text a).Agrees (q.step a) :=
        h.step fun ids selected ha => hfree [] ids selected as (by rw [ha]; rfl)
      obtain ⟨hagrees, hkeys⟩ := ih hstep fun xs ids selected ys has =>
        hfree (a :: xs) ids selected ys (by rw [has]; rfl)
      refine ⟨hagrees, ?_⟩
      rw [executedKeys, QueryQueue.asked, hkeys, h.searchedKey a,
        List.map_append]
      cases q.asks text a <;> rfl

end

/-- A new run agrees with an empty queue. -/
theorem agrees_created (runId : RunId) (run : ResearchRunRow)
    (planItems : List FeedbackPlanItem) :
    (created runId run planItems).Agrees ⟨run.planVersion, planItems, [], []⟩
    where
  planVersion := rfl
  planItems := rfl
  dispatched := rfl
  taken := rfl
  count := rfl

variable (text : TextFunctions)

/-- A handoff of a run succeeds exactly when its query has none of the
keys the run has executed. -/
theorem handsOverUniquely_created_iff (runId : RunId) (run : ResearchRunRow)
    (planItems : List FeedbackPlanItem) (xs : List FeedbackAction)
    (ids : HandoffIds) :
    ((feedbackSystem text).exec (created runId run planItems)
        xs).HandsOverUniquely text ids
      ↔ ∀ refs, ((feedbackSystem text).exec (created runId run planItems)
          xs).handover = some refs →
        feedbackKey text refs
          ∉ (created runId run planItems).executedKeys text xs := by
  have hstart : ∀ key, ¬ (created runId run planItems).KeyTaken key :=
    fun key => List.not_mem_nil
  rw [handsOverUniquely_iff]
  apply forall₂_congr
  intro refs _
  rw [exec_keyTaken_iff]
  simp only [hstart, false_or]

/-- The handoffs of a run keep the tool calls unique exactly when every
request whose turn comes asks its question something new. Whether it does
is told by the plan, the dispatched requests and the queries that the
scheduler selected, without the table. -/
theorem handoffs_unique_iff (runId : RunId) (run : ResearchRunRow)
    (planItems : List FeedbackPlanItem) (as : List FeedbackAction) :
    (∀ xs ids selected ys, as = xs ++ .prepareTarget ids selected :: ys →
        ((feedbackSystem text).exec (created runId run planItems)
          xs).HandsOverUniquely text ids)
      ↔ QueryQueue.AsksNew text ⟨run.planVersion, planItems, [], []⟩ as := by
  have hagrees := agrees_created runId run planItems
  constructor
  · intro hunique xs ids selected ys has refs hnext earlier hearlier
    obtain ⟨htogether, hkeys⟩ := @Agrees.exec text _ _ hagrees xs
      fun zs ids' selected' ws hxs => (handsOverUniquely_iff text _ ids').mp
        (hunique zs ids' selected' (ws ++ .prepareTarget ids selected :: ys)
          (by rw [has, hxs]; simp))
    have hnew := (handsOverUniquely_created_iff text runId run planItems xs
      ids).mp (hunique xs ids selected ys has) refs
      (htogether.next.trans hnext)
    rw [hkeys] at hnew
    have hdigest : QueryQueue.digest text earlier
        ≠ QueryQueue.digest text (QueryQueue.asking text refs) := by
      intro heq
      apply hnew
      rw [show feedbackKey text refs
        = QueryQueue.digest text (QueryQueue.asking text refs) from rfl, ← heq]
      exact List.mem_map_of_mem hearlier
    exact ⟨fun heq => hdigest (congrArg _ heq), fun h => hdigest h.2⟩
  · -- The handoffs before a given one go through by induction.
    intro hnew xs
    induction hlength : xs.length using Nat.strong_induction_on
      generalizing xs with
    | h n ih =>
        intro ids selected ys has
        obtain ⟨htogether, hkeys⟩ := @Agrees.exec text _ _ hagrees xs
          fun zs ids' selected' ws hxs =>
            (handsOverUniquely_iff text _ ids').mp
              (ih zs.length
                (by rw [← hlength, hxs, List.length_append, List.length_cons]
                    omega) zs rfl ids'
                selected' (ws ++ .prepareTarget ids selected :: ys)
                (by rw [has, hxs]; simp))
        rw [handsOverUniquely_created_iff]
        intro refs hhandover htaken
        rw [hkeys] at htaken
        obtain ⟨earlier, hearlier, hdigest⟩ := List.mem_map.mp htaken
        obtain ⟨hne, hfree⟩ := hnew xs ids selected ys has refs
          (htogether.next.symm.trans hhandover) earlier hearlier
        exact hfree ⟨hne, hdigest⟩

/-- A gap that stays open is dispatched once for each of its state
versions, every time with the same query. -/
def sampleFeedback (version : String) : FeedbackExecutionRefs where
  feedbackId := "feedback-" ++ version
  feedbackExecutionId := "execution-" ++ version
  executionId := "query-execution"
  queryCandidateId := "candidate"
  gapId := "gap"
  questionId := "q1"
  queryText := "q1:d1 primary source official report authoritative evidence"
  triggerReason := some "evidence_quality_low"

def sampleFeedbackRun : ResearchRunRow where
  status := .running
  phase := .researching
  budgetSnapshot := {}
  createdAt := 0
  updatedAt := 0

def sampleHandoffIds : HandoffIds := ⟨"call", "action", "seed"⟩

/-- The second feedback of the gap is refused its tool call. -/
theorem handoffs_not_unique :
    ¬ ∃ text, ∀ runId run planItems as xs ids selected ys,
      as = xs ++ .prepareTarget ids selected :: ys →
      ((feedbackSystem text).exec (created runId run planItems)
        xs).HandsOverUniquely text ids := by
  rintro ⟨text, h⟩
  have hunique := h sampleRunId sampleFeedbackRun [⟨0, "q1", "", 2, []⟩] _
    [.dispatch (sampleFeedback "2"),
      .prepareTarget sampleHandoffIds none, .dispatch (sampleFeedback "3")]
    sampleHandoffIds none [] rfl (sampleFeedback "3") rfl
  exact hunique.1 _ (List.mem_singleton_self _) rfl

-- ================================================================== waiting

/-- A query that waits and can be handed over gets its call: the call
returns a target that is built from such a query. -/
def ServesWaiting (s : FeedbackState) : Prop :=
  ∀ ids, (∃ refs ∈ s.unconsumed, s.Usable refs) →
    ∃ s' target, s.prepareFeedbackTarget text ids = .ok (s', some target)
      ∧ ∃ refs ∈ s.unconsumed, s.Usable refs ∧ BuiltFrom target refs

/-- Whatever follows, no feedback execution becomes a target twice. -/
def HandsOutOnce (s : FeedbackState) : Prop :=
  ∀ as, (s.handedOut text as).Nodup
    ∧ ∀ id ∈ s.handedOut text as, id ∉ s.consumed

/-- Waiting queries are served exactly when the first of them can be:
it is not stale, it has a query, and nothing with its key was searched
before. -/
theorem waiting_served_iff (s : FeedbackState) :
    s.ServesWaiting text ∧ s.HandsOutOnce text
      ↔ ∀ first, s.pending = some first →
        (∃ refs ∈ s.unconsumed, s.Usable refs) →
        s.Usable first ∧ ¬ s.KeyTaken (feedbackKey text first) := by
  have honce : s.HandsOutOnce text := handedOut_fresh text s
  rw [and_iff_left honce]
  constructor
  · intro hserves first hfirst hwaiting
    obtain ⟨s', target, hprepare, -⟩ :=
      hserves ⟨"call", "action", "seed"⟩ hwaiting
    cases hhandover : s.handover with
    | none =>
        rw [prepareFeedbackTarget_of_none hhandover] at hprepare
        cases hprepare
    | some refs =>
        obtain ⟨hpending, husable⟩ := handover_eq_some.mp hhandover
        rw [hfirst] at hpending
        cases hpending
        refine ⟨husable, fun htaken => ?_⟩
        rw [(prepareFeedbackTarget_of_some hhandover).1 htaken] at hprepare
        cases hprepare
  · rintro hfirst ids ⟨refs, hrefs, husable⟩
    obtain ⟨first, hpending⟩ : ∃ first, s.pending = some first := by
      cases hlist : s.unconsumed with
      | nil =>
          rw [hlist] at hrefs
          exact absurd hrefs List.not_mem_nil
      | cons first rest => exact ⟨first, by rw [pending, hlist]; rfl⟩
    obtain ⟨hfirstUsable, hfree⟩ :=
      hfirst first hpending ⟨refs, hrefs, husable⟩
    obtain ⟨s', target, hprepare, hhands⟩ :=
      (@prepareFeedbackTarget_of_some text s ids first
        (handover_eq_some.mpr ⟨hpending, hfirstUsable⟩)).2 hfree
    exact ⟨s', target, hprepare, first,
      List.mem_of_mem_head? hpending, hfirstUsable, hhands.built⟩

/-- A stale query at the head: its question is not in the plan any
more. -/
def staleHead : FeedbackState :=
  { created sampleRunId sampleFeedbackRun [⟨0, "q1", "", 2, []⟩] with
    events :=
      [.executionStarted (some
          { sampleFeedback "1" with questionId := "q0" }),
        .executionStarted (some (sampleFeedback "2"))] }

/-- It hides the query behind it. -/
theorem stale_head_blocks :
    ¬ ∃ text, ∀ s : FeedbackState,
      s.ServesWaiting text ∧ s.HandsOutOnce text := by
  rintro ⟨text, h⟩
  have husable : ∃ refs ∈ staleHead.unconsumed, staleHead.Usable refs :=
    ⟨sampleFeedback "2", by decide +kernel, by decide +kernel⟩
  obtain ⟨s', target, hprepare, -⟩ :=
    (h staleHead).1 sampleHandoffIds husable
  have hnone : staleHead.handover = none := by decide +kernel
  rw [prepareFeedbackTarget_of_none hnone] at hprepare
  cases hprepare

end FeedbackState

end DeepResearch.Run
