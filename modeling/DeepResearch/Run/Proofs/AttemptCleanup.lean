/-
What a research attempt leaves behind.

Every normal way out of the method gives back what was taken, and so does
every handler that goes through `cleanup_attempt`. An exception that no
handler cleans up after leaves whatever the method has in hand at that
call: the page slots not yet settled, and from the extraction slot on that
slot and the token reservation. `attempt_cleans_up_iff` says that nothing
else is ever left.
-/
import DeepResearch.Run.Proofs.ResearchAttempt

namespace DeepResearch.Run

/-- The method holds an extraction slot during the call. -/
def AttemptCall.holdsExtraction : AttemptCall → Bool
  | .evidenceModelBudget | .reserveModelTokens _ | .recovery _
  | .extractionSetup _ | .extract _ | .recordPage _ _ _ _ => true
  | _ => false

namespace AttemptState

/-- By its own variables the method has nothing to give back: every slot
it was granted is settled, and no extraction is under way. -/
def EmptyHanded (s : AttemptState) : Prop :=
  s.granted ≤ s.settledSlots ∧ s.call.holdsExtraction = false

instance decidableEmptyHanded (s : AttemptState) :
    Decidable s.EmptyHanded :=
  inferInstanceAs
    (Decidable (s.granted ≤ s.settledSlots
      ∧ s.call.holdsExtraction = false))

/-- An exception that escapes finds the method with nothing in hand. -/
def EscapesEmptyHanded (s : AttemptState) (a : AttemptAction) : Prop :=
  s.escapes a = true → s.EmptyHanded

instance decidableEscapesEmptyHanded (s : AttemptState)
    (a : AttemptAction) : Decidable (s.EscapesEmptyHanded a) :=
  inferInstanceAs (Decidable (s.escapes a = true → s.EmptyHanded))

/-- Once the method is left, nothing it took is held. -/
def CleansUp (start : TokenLedger) (task : TaskId) (s : AttemptState) :
    Prop :=
  ∀ exit, s.call = .exited exit → LeavesNothing start task s

/-- The method runs in balance or is left with nothing held. -/
def Accounted (start : TokenLedger) (task : TaskId) (s : AttemptState) :
    Prop :=
  Running start task s
    ∨ (∃ exit, s.call = .exited exit) ∧ LeavesNothing start task s

end AttemptState

section

variable {start : TokenLedger} {task : TaskId} {target : AttemptTarget}
  {s : AttemptState} {a : AttemptAction}

-- ============================================================ what is in hand

/-- The slot counters while the method runs. -/
theorem Running.counters (h : Running start task s) :
    ownedPageSlots s.usage task
        = ownedPageSlots start.run.usageSnapshot task + s.granted
          - s.settledSlots
      ∧ s.usage.extractionSlotsReserved
        = start.run.usageSnapshot.extractionSlotsReserved
          + if s.call.holdsExtraction then 1 else 0 := by
  unfold Running at h
  cases hcall : s.call <;> rw [hcall] at h
  case initialBudget =>
    rw [h]
    exact ⟨rfl, rfl⟩
  case exited => exact h.elim
  case search | reservePageSlots | reserveModelTokens =>
    exact ⟨h.1.pages, h.1.extraction⟩
  all_goals exact ⟨h.pages, h.extraction⟩

/-- Without an extraction under way every reservation is closed. -/
theorem Running.closed (h : Running start task s)
    (hcall : s.call.holdsExtraction = false) :
    ∀ attemptId ∈ s.attempts, s.ledger.NotReserved attemptId := by
  unfold Running at h
  have hclosed : ∀ {extra}, Balanced start task extra none s →
      ∀ attemptId ∈ s.attempts, s.ledger.NotReserved attemptId :=
    fun hbalanced attemptId hmem =>
      hbalanced.closed attemptId hmem fun hnone => by cases hnone
  split at h
  case h_1 =>
    rw [h]
    intro attemptId hmem
    cases hmem
  case h_2 | h_3 => exact hclosed h.1
  case h_4 => exact hclosed h
  case h_5 => exact hclosed h.1
  case h_6 heq | h_7 heq | h_8 heq | h_9 heq =>
    rw [heq] at hcall
    cases hcall
  case h_10 => exact h.elim
  case h_11 => exact hclosed h

theorem Running.leavesNothing (h : Running start task s)
    (hempty : s.EmptyHanded) : LeavesNothing start task s := by
  obtain ⟨hpages, hextraction⟩ := h.counters
  obtain ⟨hsettled, hcall⟩ := hempty
  rw [hcall] at hextraction
  exact ⟨by omega, hextraction, h.closed hcall⟩

/-- What is in hand when an exception escapes stays held. -/
theorem Running.leaks (h : Running start task s) (hheld : ¬ s.EmptyHanded) :
    ¬ LeavesNothing start task s := by
  intro hnothing
  obtain ⟨hpages, hextraction⟩ := h.counters
  have hleft := hnothing.pages
  have hslots := hnothing.extraction
  apply hheld
  refine ⟨by omega, ?_⟩
  by_contra hcall
  have htrue : s.call.holdsExtraction = true := by simpa using hcall
  rw [htrue] at hextraction
  simp only [if_true] at hextraction
  omega

-- ================================================================== a step

theorem step_eq_called (hcall : ∀ exit, s.call ≠ .exited exit)
    (houtcome : a.outcome ≠ .cancelled) :
    AttemptState.step task target s a = AttemptState.called task target s a :=
    by
  unfold AttemptState.step
  split
  case h_1 exit heq => exact absurd heq (hcall exit)
  case h_2 heq _ => exact absurd heq houtcome
  case h_3 => rfl

/-- A call without a handler passes its exception on. -/
theorem called_of_raises (houtcome : a.outcome = .raises)
    (hexited : ∀ exit, s.call ≠ .exited exit)
    (hsetup : ∀ attemptId, s.call ≠ .extractionSetup attemptId)
    (hrecord : ∀ attemptId usage cacheHit usageEstimated,
      s.call ≠ .recordPage attemptId usage cacheHit usageEstimated)
    (hextract : ∀ attemptId, s.call ≠ .extract attemptId) :
    AttemptState.called task target s a = s.raised := by
  unfold AttemptState.called
  cases hcall : s.call
  case exited exit => exact absurd hcall (hexited exit)
  case extractionSetup attemptId => exact absurd hcall (hsetup attemptId)
  case extract attemptId => exact absurd hcall (hextract attemptId)
  case recordPage => exact absurd hcall (hrecord _ _ _ _)
  case recordPrefetched urls pages =>
    rw [houtcome]
    cases urls <;> rfl
  case read url =>
    unfold AttemptState.pageRead
    rw [houtcome]
  all_goals rw [houtcome]

/-- An exception that escapes leaves the method as it is. -/
theorem step_of_escapes (h : s.escapes a = true) :
    AttemptState.step task target s a = s.raised := by
  unfold AttemptState.escapes at h
  split at h
  case h_2 hcancelled hcall =>
    unfold AttemptState.step
    split
    case h_1 exit heq => exact (hcall exit heq).elim
    case h_2 => rfl
    case h_3 hother => exact (hother hcancelled).elim
  case h_5 url recorded hcall houtcome =>
    have hraised : recorded = false := by simpa using h
    rw [step_eq_called (by rw [hcall]; nofun) (by rw [houtcome]; nofun)]
    unfold AttemptState.called
    rw [hcall, houtcome, hraised]
    rfl
  case h_6 attemptId recorded hcall houtcome =>
    have hraised : recorded = false := by simpa using h
    rw [step_eq_called (by rw [hcall]; nofun) (by rw [houtcome]; nofun)]
    unfold AttemptState.called
    rw [hcall, houtcome, hraised]
    rfl
  case h_7 attemptId code usage usageEstimated recorded hcall houtcome =>
    have hother : code ∉ isolatedExtractionErrors := of_decide_eq_true h
    rw [step_eq_called (by rw [hcall]; nofun) (by rw [houtcome]; nofun)]
    unfold AttemptState.called
    rw [hcall, houtcome]
    exact if_pos hother
  case h_9 houtcome hexited hsetup hrecord hextract =>
    rw [step_eq_called hexited (by rw [houtcome]; nofun)]
    exact called_of_raises houtcome hexited hsetup hrecord hextract
  all_goals cases h

-- ============================================================ the invariant

theorem AttemptState.Accounted.cleansUp
    (h : AttemptState.Accounted start task s) :
    AttemptState.CleansUp start task s := by
  intro exit hcall
  rcases h with hrunning | ⟨-, hnothing⟩
  · unfold Running at hrunning
    rw [hcall] at hrunning
    exact hrunning.elim
  · exact hnothing

/-- A step whose exception, if one escapes, finds nothing in hand. -/
theorem AttemptState.Accounted.step
    (h : AttemptState.Accounted start task s)
    (hguard : s.EscapesEmptyHanded a) :
    AttemptState.Accounted start task
      (AttemptState.step task target s a) := by
  rcases h with hrunning | ⟨⟨exit, hcall⟩, hnothing⟩
  · have heffect : StepEffect start task s a
        (AttemptState.step task target s a) := step_effect hrunning
    cases heffect with
    | runs h => exact .inl h
    | leaves exit hcall h => exact .inr ⟨⟨exit, hcall⟩, h⟩
    | escapes hescapes h =>
        rw [h]
        exact .inr ⟨⟨.raised, rfl⟩,
          (hrunning.leavesNothing (hguard hescapes)).goto _⟩
  · have hstays : AttemptState.step task target s a = s := by
      unfold AttemptState.step
      rw [hcall]
    rw [hstays]
    exact .inr ⟨⟨exit, hcall⟩, hnothing⟩

/-- Any other exception leaves something held. -/
theorem AttemptState.Accounted.breaks
    (h : AttemptState.Accounted start task s)
    (hguard : ¬ s.EscapesEmptyHanded a) :
    ¬ AttemptState.CleansUp start task
      (AttemptState.step task target s a) := by
  obtain ⟨hescapes, hheld⟩ := Classical.not_imp.mp hguard
  rw [step_of_escapes hescapes]
  rcases h with hrunning | ⟨⟨exit, hcall⟩, -⟩
  · intro hclean
    have hnothing := hclean .raised rfl
    exact hrunning.leaks hheld
      ⟨hnothing.pages, hnothing.extraction, hnothing.closed⟩
  · unfold AttemptState.escapes at hescapes
    rw [hcall] at hescapes
    cases hescapes

end

-- ======================================================== the main result

/-- An attempt cleans up on every run on which an escaping exception
finds it with nothing in hand, and on no other. -/
theorem attempt_cleans_up_iff (task : TaskId) (target : AttemptTarget)
    (start : TokenLedger) (as : List AttemptAction) :
    (attemptSystem task target).Throughout
        (AttemptState.CleansUp start task) { ledger := start } as
      ↔ (attemptSystem task target).Along AttemptState.EscapesEmptyHanded
        { ledger := start } as := by
  have hkeep : ∀ (s : AttemptState) (a : AttemptAction),
      AttemptState.Accounted start task s → s.EscapesEmptyHanded a →
      AttemptState.Accounted start task
        ((attemptSystem task target).step s a) :=
    fun _ _ h hguard => h.step hguard
  have hbreak : ∀ (s : AttemptState) (a : AttemptAction),
      AttemptState.Accounted start task s → ¬ s.EscapesEmptyHanded a →
      ¬ AttemptState.CleansUp start task
        ((attemptSystem task target).step s a) :=
    fun _ _ h hguard => h.breaks hguard
  have hstart : Running start task { ledger := start } := by
    unfold Running
    rfl
  exact Transition.throughout_iff_along (fun _ h => h.cleansUp) hkeep hbreak
    (.inl hstart) as

-- ================================================================= a sample

/-- The question of the samples: its smallest call needs 4 000 tokens. -/
def sampleTarget : AttemptTarget where
  questionId := "q"
  firstPass := true
  minimumCall := 4000

/-- A run that may read one page. -/
def onePageRun : TokenLedger where
  run :=
    { status := .running
      phase := .researching
      budgetSnapshot :=
        { maxTokens := some 100000, maxPagesFetched := some 1 }
      usageSnapshot := { pagesFetched := some 0 }
      workerTaskId := some sampleLoopTask
      createdAt := 0
      updatedAt := 0 }

/-- The calls up to the first read. -/
def upToFirstRead (results : List String) : List AttemptAction :=
  [⟨.answered { eligible := [("q", 0)] }, 1, 0⟩,
    ⟨.searched (.succeeded 1) results, 1, 0⟩, ⟨.returns, 1, 0⟩,
    ⟨.ordered results, 1, 0⟩, ⟨.returns, 1, 0⟩]

/-- The reader raises what no handler knows: the method is left with the
page slot of the page it did not read. -/
theorem unexpected_read_error_keeps_slot :
    let raised := (attemptSystem sampleLoopTask sampleTarget).exec
      { ledger := onePageRun }
      (upToFirstRead ["a"] ++ [⟨.raises, 1, 0⟩])
    raised.call = .exited .raised
      ∧ ¬ AttemptState.CleansUp onePageRun sampleLoopTask raised := by
  refine ⟨by decide, fun hclean => ?_⟩
  have hpages := (hclean .raised (by decide)).pages
  revert hpages
  decide

end DeepResearch.Run
