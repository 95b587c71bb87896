/-
Candidates for a prompt's context, and their order (`domain/context.py`,
`context/policy.py`, `context/ranker.py`).

Scores and similarities are floats. Their operations are a parameter of
which nothing is assumed, so NaN, infinities and rounding are allowed
for: how two scores compare decides the order, and nothing else.

A candidate goes with its index (`Entry`), where the source looks it up
by the index. The `while` loop has fuel for every eligible candidate, of
which each round removes one.
-/
import Mathlib.Data.List.Dedup
import DeepResearch.Lib.Json
import DeepResearch.Report.Markers

namespace DeepResearch.Context

open DeepResearch.Report (Text)

-- ================================================================ domain

/-- `ContextItemType`. -/
inductive ContextItemType
  | instruction
  | taskBrief
  | stateSummary
  | gap
  | evidenceCard
  | sourceChunk
  | recentAction
  | conflict
  | memory
  | outputSchema
  deriving DecidableEq, Repr

/-- `CompressionLevel`. -/
inductive CompressionLevel
  | raw
  | extractive
  | summarized
  deriving DecidableEq, Repr

/-- The operations of floats that the ranking uses. -/
class ScoreFloat (F : Type) extends PyFloat F, Sub F, Mul F, LE F, BEq F where
  decidableLE : DecidableLE F

attribute [reducible, instance] ScoreFloat.decidableLE

instance ScoreFloat.int : ScoreFloat Int where
  decidableLE := inferInstance

/-- `ContextCandidate`. -/
structure ContextCandidate (F : Type) where
  itemType : ContextItemType
  content : Text
  rankScore : F
  sourceRefType : Option Text := none
  sourceRefId : Option Text := none
  isProtected : Bool := false
  compressionLevel : CompressionLevel := .raw
  selectedReasonCode : String := "ranked_for_node"
  provenanceRefs : List Text := []
  deriving DecidableEq

/-- A candidate with its index. -/
abbrev Entry (F : Type) := ContextCandidate F × Nat

/-- `ContextPolicy`. -/
structure ContextPolicy (F : Type) where
  nodeName : String
  mmrLambda : F
  redundancyThreshold : F
  maxItemsByType : ContextItemType → Option Int
  compressibleTypes : List ContextItemType

-- ============================================================== similarity

/-- `[A-Za-z0-9_.%+-]`. -/
def isTokenChar (c : Char) : Bool :=
  c.isAlphanum || c ∈ ['_', '.', '%', '+', '-']

/-- `[\u3400-\u9fff]`. -/
def isCjk (c : Char) : Bool :=
  0x3400 ≤ c.toNat && c.toNat ≤ 0x9fff

/-- `_TOKEN_PATTERN.findall`; `pending` is the run of token characters
that is being read. -/
def findTokens : Text → Text → List Text
  | pending, [] => if pending.isEmpty then [] else [pending]
  | pending, c :: rest =>
      if isTokenChar c then findTokens (pending ++ [c]) rest
      else
        (if pending.isEmpty then [] else [pending])
          ++ (if isCjk c then [[c]] else []) ++ findTokens [] rest

/-- A token of one CJK character. -/
def isCjkToken : Text → Bool
  | [c] => isCjk c
  | _ => false

/-- `lexical_features`, without repetitions. -/
def lexicalFeatures (content : Text) : List Text :=
  let raw := (findTokens [] content).map fun token => token.map Char.toLower
  let cjk := raw.filter isCjkToken
  let bigrams := List.zipWith (· ++ ·) cjk cjk.tail
  (raw ++ bigrams).dedup

section

variable {F : Type} [ScoreFloat F]

/-- `similarity`. -/
def similarity (left right : Text) : F :=
  let leftFeatures := lexicalFeatures left
  let rightFeatures := lexicalFeatures right
  if leftFeatures.isEmpty ∨ rightFeatures.isEmpty then 0
  else
    (((leftFeatures.filter (· ∈ rightFeatures)).length : Int) : F)
      / (((leftFeatures ++ rightFeatures.filter (· ∉ leftFeatures)).length
        : Int) : F)

/-- `max(values, default=0.0)`. -/
def maxFloat : List F → F
  | [] => 0
  | x :: xs => xs.foldl (fun best y => if best < y then y else best) x

-- ================================================================= ranking

/-- `a > b`, of tuples. -/
def scoreGreater (a b : F × F × Int) : Bool :=
  if a.1 == b.1 then
    if a.2.1 == b.2.1 then b.2.2 < a.2.2 else b.2.1 < a.2.1
  else b.1 < a.1

/-- `max(eligible, key=score)`: the first of the greatest. -/
def maxEntry (score : Entry F → F × F × Int) : List (Entry F) →
    Option (Entry F)
  | [] => none
  | entry :: entries =>
      some (entries.foldl (fun best other =>
        if scoreGreater (score other) (score best) then other else best)
        entry)

/-- The similarities of a candidate to the selected ones. -/
def similarities (selected : List (Entry F)) (candidate : ContextCandidate F) :
    List F :=
  selected.map fun chosen => similarity candidate.content chosen.1.content

/-- `score`. -/
def mmrScore (policy : ContextPolicy F) (selected : List (Entry F))
    (entry : Entry F) : F × F × Int :=
  let noveltyPenalty := maxFloat (similarities selected entry.1)
  (policy.mmrLambda * entry.1.rankScore
      - (((1 : Int) : F) - policy.mmrLambda) * noveltyPenalty,
    entry.1.rankScore, -(entry.2 : Int))

/-- The candidate says too much of what is selected. -/
def isRedundant (policy : ContextPolicy F) (selected : List (Entry F))
    (best : Entry F) : Prop :=
  selected ≠ []
    ∧ policy.redundancyThreshold ≤ maxFloat (similarities selected best.1)

instance (policy : ContextPolicy F) (selected : List (Entry F))
    (best : Entry F) : Decidable (isRedundant policy selected best) :=
  decidable_of_iff (selected.isEmpty = false ∧ policy.redundancyThreshold
      ≤ maxFloat (similarities selected best.1))
    (and_congr_left' (by simp))

/-- `eligible.remove(best)`. -/
def removeEntry (eligible : List (Entry F)) (best : Entry F) :
    List (Entry F) :=
  eligible.eraseP fun entry => entry.2 = best.2

/-- The `while` loop of `mmr_order`. -/
def mmrLoop (policy : ContextPolicy F) : Nat → List (Entry F) →
    List (Entry F) → List Nat → List (Entry F) × List Nat
  | 0, _, selected, pruned => (selected, pruned)
  | fuel + 1, eligible, selected, pruned =>
      match maxEntry (mmrScore policy selected) eligible with
      | none => (selected, pruned)
      | some best =>
          if isRedundant policy selected best then
            mmrLoop policy fuel (removeEntry eligible best) selected
              (best.2 :: pruned)
          else
            mmrLoop policy fuel (removeEntry eligible best)
              (selected ++ [best]) pruned

/-- What the loop over `remaining` keeps track of. -/
structure CapState (F : Type) where
  pruned : List Nat := []
  counts : ContextItemType → Int := fun _ => 0
  eligible : List (Entry F) := []

/-- One round of the loop over `remaining`. -/
def capStep (policy : ContextPolicy F) (s : CapState F) (entry : Entry F) :
    CapState F :=
  let itemType := entry.1.itemType
  if (policy.maxItemsByType itemType).any (· ≤ s.counts itemType) then
    { s with pruned := entry.2 :: s.pruned }
  else
    { s with
      counts := fun t => if t = itemType then s.counts t + 1 else s.counts t
      eligible := s.eligible ++ [entry] }

/-- `mmr_order`. -/
def mmrOrder (candidates : List (ContextCandidate F))
    (policy : ContextPolicy F) : List (Entry F) × List Nat :=
  let protectedEntries := candidates.zipIdx.filter (·.1.isProtected)
  let remaining := candidates.zipIdx.filter (!·.1.isProtected)
  let capped := remaining.foldl (capStep policy) {}
  let (selected, pruned) := mmrLoop policy capped.eligible.length
    capped.eligible [] capped.pruned
  (protectedEntries ++ selected, pruned)

end

end DeepResearch.Context
