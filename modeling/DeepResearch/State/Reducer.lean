/-
Patches of the public state (`domain/state.py`: `StatePatch`;
`state_reducer.py`: `apply_patch`).

The payload is rebuilt from the dump of the state and validated again. A
record that was valid is read back from its dump unchanged, so of the
second validation only `validate_state_invariants` can fail.
-/
import DeepResearch.Lib.Dict
import DeepResearch.State.Basic

namespace DeepResearch.State

open DeepResearch.Run (StateStatus StopReason)

/-- `StatePatch`. -/
structure StatePatch where
  patchId : UUID
  baseVersion : Nat
  knownUpserts : List KnownClaimRef := []
  gapUpserts : List ResearchGap := []
  nextAction : Option NextAction := none
  budgetUsage : Option BudgetUsage := none
  quality : Option QualitySnapshot := none
  coverageMap : Option (List CoverageDimensionSnapshot) := none
  phase : Option ResearchPhase := none
  status : Option StateStatus := none
  stopReason : Option StopReason := none
  clearStopReason : Bool := false

/-- What `apply_patch` raises. -/
inductive ReducerError
  | stateVersionConflict (message : String)
  | validationError (message : String)
  deriving DecidableEq, Repr

/-- The text of a `StateVersionConflict`. -/
def conflictMessage (base version : Nat) : String :=
  s!"patch base_version={base} does not match state_version={version}"

/-- `payload`, after its update with `changes`. -/
def ResearchState.payload (state : ResearchState) (patch : StatePatch) :
    ResearchState :=
  { state with
    stateVersion := state.stateVersion + 1
    known := Dict.update KnownClaimRef.claimId
      (Dict.ofRows KnownClaimRef.claimId state.known)
      (Dict.ofRows KnownClaimRef.claimId patch.knownUpserts)
    gaps := Dict.update ResearchGap.gapId
      (Dict.ofRows ResearchGap.gapId state.gaps)
      (Dict.ofRows ResearchGap.gapId patch.gapUpserts)
    nextAction := patch.nextAction.or state.nextAction
    budgetUsage := patch.budgetUsage.getD state.budgetUsage
    quality := patch.quality.getD state.quality
    coverageMap := patch.coverageMap.getD state.coverageMap
    phase := patch.phase.getD state.phase
    status := patch.status.getD state.status
    stopReason :=
      if patch.clearStopReason then none
      else patch.stopReason.or state.stopReason }

/-- `ResearchState.model_validate`. -/
def ResearchState.modelValidate (payload : ResearchState) :
    Except ReducerError ResearchState :=
  match payload.validate with
  | .ok () => .ok payload
  | .error message => .error (.validationError message)

/-- `apply_patch`. -/
def applyPatch (state : ResearchState) (patch : StatePatch) :
    Except ReducerError ResearchState :=
  if patch.baseVersion ≠ state.stateVersion then
    .error (.stateVersionConflict
      (conflictMessage patch.baseVersion state.stateVersion))
  else
    (state.payload patch).modelValidate

/-- The state of a caller that applies a patch: the old one if the
application raises. -/
def ResearchState.patched (state : ResearchState) (patch : StatePatch) :
    ResearchState :=
  match applyPatch state patch with
  | .ok updated => updated
  | .error _ => state

end DeepResearch.State
