/-
Selecting the context of a prompt under a token budget
(`context/manager.py`: `estimate_tokens`, `ContextBudgetManager.build`).

The allocation and the policy are arguments: any of them will do. The
manifest's id and `sha256` are parameters, and the rows that are written
from the selection are left out.
-/
import Mathlib.Data.Rat.Floor
import DeepResearch.Context.Compressor
import DeepResearch.Lib.Dict

namespace DeepResearch.Context

open DeepResearch.Report (Text)

/-- `estimate_tokens`. `math.ceil` of the quotient, which is a double, is
the ceiling of the exact quotient for any length below `2 ^ 52`. -/
def estimateTokens (content : Text) : Nat :=
  if content.isEmpty then 0 else max 1 ⌈(content.length : ℚ) / 3⌉₊

/-- `ContextBudgetAllocation`. -/
structure ContextBudgetAllocation where
  contextWindow : Int
  inputBudget : Int
  outputReserve : Int
  safetyMargin : Int
  deriving DecidableEq, Repr

/-- `ContextEnvelope`. -/
structure ContextEnvelope (F H : Type) where
  manifestId : Nat
  allocation : ContextBudgetAllocation
  selected : List (ContextCandidate F)
  rejected : List (ContextCandidate F)
  tokenBefore : Nat
  tokenAfter : Nat
  renderedPromptHash : H

/-- `ContextBudgetInsufficientError`. -/
structure ContextBudgetInsufficientError where
  message : String
  deriving DecidableEq, Repr

section

variable {F H : Type} (sha256 : Text → H)

/-- The dictionaries of the loop, and `used`. -/
structure BuildState (F H : Type) where
  selectedByIndex : List (Nat × ContextCandidate F) := []
  tokenByIndex : List (Nat × Nat) := []
  compressionByIndex : List (Nat × CompressionResult F H) := []
  used : Nat := 0

/-- A candidate as it is, with its estimate. -/
def BuildState.select (s : BuildState F H) (index : Nat)
    (candidate : ContextCandidate F) (tokens : Nat) : BuildState F H :=
  { s with
    selectedByIndex :=
      Dict.assign Prod.fst s.selectedByIndex (index, candidate)
    tokenByIndex := Dict.assign Prod.fst s.tokenByIndex (index, tokens)
    used := s.used + tokens }

/-- A compressed candidate. -/
def BuildState.selectCompressed (s : BuildState F H) (index : Nat)
    (compressed : CompressionResult F H) : BuildState F H :=
  { s.select index compressed.candidate compressed.tokenAfter with
    compressionByIndex :=
      Dict.assign Prod.fst s.compressionByIndex (index, compressed) }

/-- One round of the loop over `ordered_indices`. -/
def buildStep (policy : ContextPolicy F) (inputBudget : Int)
    (policyPruned : List Nat) (s : BuildState F H) (entry : Entry F) :
    BuildState F H :=
  let (candidate, index) := entry
  let tokens := estimateTokens candidate.content
  if index ∈ policyPruned then s
  else if ((s.used + tokens : Nat) : Int) ≤ inputBudget then
    s.select index candidate tokens
  else if candidate.isProtected
      ∨ candidate.itemType ∉ policy.compressibleTypes then s
  else
    match compressCandidate sha256 candidate (inputBudget - s.used) with
    | none => s
    | some compressed => s.selectCompressed index compressed

variable [ScoreFloat F]

/-- The loop over `ordered_indices`. -/
def buildLoop (policy : ContextPolicy F) (inputBudget : Int)
    (candidates : List (ContextCandidate F)) : BuildState F H :=
  let (ordered, policyPruned) := mmrOrder candidates policy
  ordered.foldl (buildStep sha256 policy inputBudget policyPruned) {}

/-- `protected_tokens`. -/
def protectedTokens (candidates : List (ContextCandidate F)) : Nat :=
  ((candidates.filter (·.isProtected)).map fun candidate =>
    estimateTokens candidate.content).sum

/-- `ContextBudgetManager.build`, once the budget is allocated. -/
def build (policy : ContextPolicy F) (allocation : ContextBudgetAllocation)
    (manifestId : Nat) (candidates : List (ContextCandidate F)) :
    Except ContextBudgetInsufficientError (ContextEnvelope F H) :=
  if (protectedTokens candidates : Int) > allocation.inputBudget then
    .error ⟨"protected context exceeds input budget"⟩
  else
    let s := buildLoop sha256 policy allocation.inputBudget candidates
    let selected := (List.range candidates.length).filterMap fun index =>
      (Table.lookup Prod.fst index s.selectedByIndex).map Prod.snd
    let rejected := candidates.zipIdx.filterMap fun (candidate, index) =>
      if (Table.lookup Prod.fst index s.selectedByIndex).isSome then none
      else some candidate
    .ok {
      manifestId
      allocation
      selected
      rejected
      tokenBefore := (candidates.map fun candidate =>
        estimateTokens candidate.content).sum
      tokenAfter := s.used
      renderedPromptHash := sha256 (['\n', '\n'].intercalate
        (selected.map (·.content))) }

end

end DeepResearch.Context
