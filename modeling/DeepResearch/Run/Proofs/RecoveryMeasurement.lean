/-
What a recovery attempt is measured against.

The two counts taken at the reservation reach the evaluation only if
nobody writes the recovery context in between, and the event that
announces the attempt does: it stores a context without them, which reads
as zero. `lastUnannounced` follows the writes of a run; the evaluation
reads the counts of the attempt it names, or zero
(`exec_measuredBefore`).
-/
import DeepResearch.Run.RecoveryMeasurement

namespace DeepResearch.Run

-- ============================================================ the outcome

/-- Without any gain an attempt is no success. -/
theorem RecoveryFigures.outcomeType_ne_successful
    {figures : RecoveryFigures} (h : figures.usefulResult = false) :
    figures.outcomeType ≠ .successful := by
  unfold outcomeType
  rw [h]
  split
  · decide
  · split
    · split <;> decide
    · contradiction

theorem RecoveryFigures.coverageDelta_eq_zero {figures : RecoveryFigures}
    (h : figures.coverageAfter ≤ figures.coverageBefore) :
    figures.coverageDelta = 0 :=
  max_eq_left (Binary64.nearest_nonpos (sub_nonpos.mpr h))

namespace RecoveryState

-- ============================================================== the counts

/-- The counts `reserve_model_tokens` measures for a question: evidence
candidates and independent sources. -/
def measured (s : RecoveryState) (questionId : String) : Nat × Nat :=
  (s.candidateEvidence questionId, s.independentSources questionId)

/-- The counts the evaluation takes for those before the attempt. -/
def measuredBefore (s : RecoveryState) : Nat × Nat :=
  (s.candidateBefore, s.independentBefore)

/-- An authorised attempt and the counts measured for it. -/
abbrev Authorisation := AttemptId × Nat × Nat

/-- The attempt authorised last, if since then no attempt has been
announced and it has not ended. -/
def lastUnannounced (s : RecoveryState) (last : Option Authorisation) :
    RecoveryAction → Option Authorisation
  | .reserveModelTokens request =>
      if s.isReserved request.attemptId then last
      else some (request.attemptId, s.measured request.questionId)
  | .recordStarted _ => none
  | .recordTerminal terminal => last.filter (·.1 ≠ terminal.attemptId)
  | _ => last

/-- The same, at the end of a run. -/
def unannouncedAfter (s : RecoveryState) (last : Option Authorisation) :
    List RecoveryAction → Option Authorisation
  | [] => last
  | a :: as => (s.step a).unannouncedAfter (s.lastUnannounced last a) as

/-- The counts an evaluation reads: those of an unannounced attempt, and
zero without one. -/
def countsOf (last : Option Authorisation) : Nat × Nat :=
  last.elim (0, 0) (·.2)

/-- The usage snapshot carries an unannounced attempt and its counts. -/
structure Carries (s : RecoveryState) (last : Option Authorisation) :
    Prop where
  counts : s.measuredBefore = countsOf last
  owner : ∀ attempt, last = some attempt →
    s.usage.recoveryAttemptId = some attempt.1

theorem carries_of_usage_eq {s s' : RecoveryState}
    {last : Option Authorisation} (h : s.usage = s'.usage)
    (hcarries : s.Carries last) : s'.Carries last where
  counts := by
    rw [← hcarries.counts, measuredBefore, candidateBefore,
      independentBefore, ← h]
    rfl
  owner := by
    rw [← h]
    exact hcarries.owner

theorem reserveModelTokens_carries {s : RecoveryState}
    {request : RecoveryRequest} (h : s.isReserved request.attemptId = false) :
    (s.reserveModelTokens request).Carries
      (some (request.attemptId, s.measured request.questionId)) := by
  rw [reserveModelTokens, if_neg (by rw [h]; exact Bool.false_ne_true)]
  exact
    { counts := rfl
      owner := by rintro _ ⟨⟩; rfl }

/-- One step: the announcement of an attempt drops the counts. -/
theorem step_carries {s : RecoveryState} {last : Option Authorisation}
    (a : RecoveryAction) (h : s.Carries last) :
    (s.step a).Carries (s.lastUnannounced last a) := by
  cases a with
  | reserveModelTokens request =>
      unfold step lastUnannounced
      dsimp only
      cases hreserved : s.isReserved request.attemptId with
      | true =>
          rw [reserveModelTokens, hreserved]
          exact h
      | false => exact reserveModelTokens_carries hreserved
  | recordStarted started =>
      exact
        { counts := rfl
          owner := by rintro _ ⟨⟩ }
  | recordTerminal terminal =>
      have husage : (s.step (.recordTerminal terminal)).usage
          = clearRecoveryContext s.usage terminal.attemptId := rfl
      unfold clearRecoveryContext at husage
      cases last with
      | none =>
          -- No counts are carried, and none are once they are cleared.
          refine ⟨?_, by rintro _ ⟨⟩⟩
          rw [measuredBefore, candidateBefore, independentBefore, husage]
          split
          · exact h.counts
          · rfl
      | some attempt =>
          rw [h.owner attempt rfl] at husage
          by_cases hown : attempt.1 = terminal.attemptId
          · rw [if_neg (by simpa using hown)] at husage
            have hlast : s.lastUnannounced (some attempt)
                (.recordTerminal terminal) = none := by
              simp [lastUnannounced, hown]
            rw [hlast]
            refine ⟨?_, by rintro _ ⟨⟩⟩
            rw [measuredBefore, candidateBefore, independentBefore, husage]
            rfl
          · rw [if_pos (by simpa using hown)] at husage
            have hlast : s.lastUnannounced (some attempt)
                (.recordTerminal terminal) = some attempt := by
              simp [lastUnannounced, hown]
            rw [hlast]
            exact carries_of_usage_eq husage.symm h
  | attachRecoveryContext | appendEvent | writeEvidence | settle | replan =>
      exact @carries_of_usage_eq s _ last rfl h

/-- The evaluation reads the counts of the last attempt that has not been
announced. -/
theorem exec_carries {s : RecoveryState} {last : Option Authorisation}
    (h : s.Carries last) (as : List RecoveryAction) :
    (recoverySystem.exec s as).Carries (s.unannouncedAfter last as) := by
  induction as generalizing s last with
  | nil => exact h
  | cons a as ih => exact ih (step_carries a h)

-- ============================================================= an attempt

/-- Nothing was gained since the counts were measured: no evidence, no
source, no coverage, and as many gaps are left. -/
structure NoGain (before : Nat × Nat) (terminal : RecoveryTerminal)
    (s : RecoveryState) : Prop where
  candidate : s.candidateEvidence terminal.questionId ≤ before.1
  independent : s.independentSources terminal.questionId ≤ before.2
  accepted : (s.recoveryFigures terminal).acceptedEvidenceAfter
    ≤ (s.recoveryFigures terminal).acceptedEvidenceBefore
  newSources : s.newSources terminal.attemptId = []
  coverage : (s.recoveryFigures terminal).coverageAfter
    ≤ (s.recoveryFigures terminal).coverageBefore
  gaps : (s.recoveryFigures terminal).gapCountBefore
    ≤ (s.recoveryFigures terminal).gapCountAfter

/-- The attempt is measured against the counts of its reservation, and
without any gain it is no success. -/
def MeasuredAgainst (before : Nat × Nat) (terminal : RecoveryTerminal)
    (s : RecoveryState) : Prop :=
  s.measuredBefore = before
    ∧ (NoGain before terminal s →
      (s.evaluateRecoveryOutcome terminal).outcomeType ≠ .successful)

theorem measuredAgainst_iff {before : Nat × Nat}
    {terminal : RecoveryTerminal} {s : RecoveryState} :
    MeasuredAgainst before terminal s ↔ s.measuredBefore = before := by
  refine ⟨And.left, fun hbefore => ⟨hbefore, fun hnone => ?_⟩⟩
  subst hbefore
  apply RecoveryFigures.outcomeType_ne_successful
  have hcoverage : (s.recoveryFigures terminal).coverageDelta = 0 :=
    RecoveryFigures.coverageDelta_eq_zero hnone.coverage
  have hgaps : (s.recoveryFigures terminal).gapReduction = 0 :=
    Nat.sub_eq_zero_of_le hnone.gaps
  have haccepted : (s.recoveryFigures terminal).acceptedDelta = 0 :=
    Nat.sub_eq_zero_of_le hnone.accepted
  have hcandidate : (s.recoveryFigures terminal).candidateDelta = 0 :=
    Nat.sub_eq_zero_of_le hnone.candidate
  have hindependent : (s.recoveryFigures terminal).independentDelta = 0 :=
    Nat.sub_eq_zero_of_le hnone.independent
  have hsources : (s.recoveryFigures terminal).newSourcesCount = 0 :=
    congrArg List.length hnone.newSources
  rw [RecoveryFigures.usefulResult, hcoverage, hgaps, haccepted, hcandidate,
    hindependent, hsources]
  simp

/-- A run without authorisations after the announcement of an attempt
carries no counts. -/
theorem unannouncedAfter_eq_none {as : List RecoveryAction}
    (h : ∀ request, .reserveModelTokens request ∉ as) (s : RecoveryState) :
    s.unannouncedAfter none as = none := by
  induction as generalizing s with
  | nil => rfl
  | cons a as ih =>
      rw [unannouncedAfter]
      have hrest : ∀ request, .reserveModelTokens request ∉ as :=
        fun request hmem => h request (List.mem_cons_of_mem _ hmem)
      have hnone : s.lastUnannounced none a = none := by
        cases a with
        | reserveModelTokens request =>
            exact absurd (List.mem_cons_self ..) (h request)
        | _ => rfl
      rw [hnone]
      exact ih hrest _

theorem unannouncedAfter_append (s : RecoveryState)
    (last : Option Authorisation) (as bs : List RecoveryAction) :
    s.unannouncedAfter last (as ++ bs)
      = (recoverySystem.exec s as).unannouncedAfter
        (s.unannouncedAfter last as) bs := by
  induction as generalizing s last with
  | nil => rfl
  | cons a as ih => exact ih (s.step a) (s.lastUnannounced last a)

/-- However a run goes on after an attempt is authorised, the attempt is
measured against the counts of its reservation exactly when these are the
counts of the last authorised attempt, if that is still unannounced, and
zero otherwise. In a run that announces it and authorises no attempt
after, they have to be zero. -/
theorem recovery_measured_iff (s : RecoveryState)
    (request : RecoveryRequest) (as : List RecoveryAction)
    (terminal : RecoveryTerminal)
    (hnew : s.isReserved request.attemptId = false) :
    let before := s.measured request.questionId
    let authorised := s.step (.reserveModelTokens request)
    let ended := recoverySystem.exec authorised as
    (MeasuredAgainst before terminal ended
      ↔ countsOf (authorised.unannouncedAfter
          (some (request.attemptId, before)) as) = before)
      ∧ ∀ started xs ys, as = xs ++ .recordStarted started :: ys →
        (∀ later, .reserveModelTokens later ∉ ys) →
        (MeasuredAgainst before terminal ended ↔ before = (0, 0)) := by
  intro before authorised ended
  have hcarries : ended.Carries (authorised.unannouncedAfter
      (some (request.attemptId, before)) as) :=
    exec_carries (reserveModelTokens_carries hnew) as
  have hiff : MeasuredAgainst before terminal ended
      ↔ countsOf (authorised.unannouncedAfter
          (some (request.attemptId, before)) as) = before := by
    rw [measuredAgainst_iff, hcarries.counts]
  refine ⟨hiff, ?_⟩
  rintro started xs ys rfl hlater
  rw [hiff, unannouncedAfter_append]
  have hnone : (recoverySystem.exec authorised xs).unannouncedAfter
      (authorised.unannouncedAfter (some (request.attemptId, before)) xs)
      (.recordStarted started :: ys) = none :=
    unannouncedAfter_eq_none hlater _
  rw [hnone]
  exact eq_comm

/-- A question with one accepted row of evidence. -/
def sampleMeasured : RecoveryState where
  evidence := [⟨"q1", true, some "owner"⟩]

def sampleRecoveryRequest : RecoveryRequest where
  attemptId := 7
  questionId := "q1"
  requested := 1000
  reason := "high_risk_high_utility_borrow"
  coverage := 1 / 2
  openDimensionKeys := ["q1:d1"]

def sampleRecoveryStarted : RecoveryStarted where
  attemptId := 7
  questionId := "q1"
  planVersion := 1
  coverageBefore := 1 / 2
  gapBefore := ["q1:d1"]
  reason := some "borrow_allowed"

def sampleRecoveryTerminal : RecoveryTerminal where
  attemptId := 7
  questionId := "q1"
  coverageBefore := 1 / 2
  coverageAfter := some (1 / 2)
  gapBefore := ["q1:d1"]
  gapAfter := ["q1:d1"]
  acceptedEvidenceBefore := 1
  acceptedEvidenceAfter := 1
  tokensReserved := 1000

theorem recovery_measured_iff_sample :
    MeasuredAgainst (1, 1) sampleRecoveryTerminal
        (recoverySystem.exec
          (sampleMeasured.step (.reserveModelTokens sampleRecoveryRequest))
          [.recordStarted sampleRecoveryStarted])
      ↔ (1, 1) = (0, 0) :=
  (recovery_measured_iff sampleMeasured sampleRecoveryRequest
    [.recordStarted sampleRecoveryStarted] sampleRecoveryTerminal
    (by decide +kernel)).2 sampleRecoveryStarted [] [] rfl
    fun _ => List.not_mem_nil

/-- Announced, an attempt is measured against zero. -/
theorem announced_attempt_mismeasured :
    ¬ ∀ (s : RecoveryState) request as terminal,
      s.isReserved request.attemptId = false →
      terminal.attemptId = request.attemptId →
      (∃ started, .recordStarted started ∈ as
        ∧ started.attemptId = request.attemptId) →
      MeasuredAgainst (s.measured request.questionId) terminal
        (recoverySystem.exec (s.step (.reserveModelTokens request)) as) := by
  intro h
  have hmeasured := h sampleMeasured sampleRecoveryRequest
    [.recordStarted sampleRecoveryStarted] sampleRecoveryTerminal
    (by decide +kernel) rfl
    ⟨sampleRecoveryStarted, List.mem_singleton_self _, rfl⟩
  exact absurd hmeasured.1 (by decide +kernel)

-- It gained nothing, and what the question had before makes it a success.
example : ((recoverySystem.exec
      (sampleMeasured.step (.reserveModelTokens sampleRecoveryRequest))
      [.recordStarted sampleRecoveryStarted]).evaluateRecoveryOutcome
        sampleRecoveryTerminal).outcomeType = .successful := by
  decide +kernel

end RecoveryState

end DeepResearch.Run
