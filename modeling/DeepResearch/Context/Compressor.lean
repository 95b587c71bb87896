/-
Extractive compression of a candidate (`context/compressor.py`).

`sha256` is a parameter. `re.IGNORECASE` lets a dotted capital or a
dotless small i stand for an i; of the other letters in the pattern no
character outside ASCII is a variant.
-/
import Mathlib.Data.List.Sort
import Mathlib.Data.List.Infix
import DeepResearch.Context.Ranker

namespace DeepResearch.Context

open DecimalDigits (isDecimal)
open DeepResearch.Report (Text)
open DeepResearch.Run (isSpace strip)

/-- `_estimate_tokens`. -/
def compressorEstimateTokens (content : Text) : Nat :=
  if content.isEmpty then 0 else max 1 ((content.length + 2) / 3)

-- ============================================================== sentences

/-- The class of the lookbehind in `_SENTENCE_SPLIT`. -/
def endsSentence (c : Char) : Bool :=
  c ∈ ['\u3002', '\uFF01', '\uFF1F', '.', '!', '?']

/-- Where the split stands: in a sentence, with the end of one just
before or not, or in a separator. -/
inductive SplitMode
  | sentence (ended : Bool)
  | spaces
  | newlines
  deriving DecidableEq

/-- A separator goes on with this character. -/
def SplitMode.goesOn (mode : SplitMode) (c : Char) : Bool :=
  match mode with
  | .sentence _ => false
  | .spaces => isSpace c
  | .newlines => c = '\n'

/-- `_SENTENCE_SPLIT.split`; `pending` is the piece that is being read. -/
def splitSentences : SplitMode → Text → Text → List Text
  | _, pending, [] => [pending]
  | mode, pending, c :: rest =>
      if mode.goesOn c then splitSentences mode pending rest
      else if mode = .sentence true ∧ isSpace c = true then
        pending :: splitSentences .spaces [] rest
      else if c = '\n' then pending :: splitSentences .newlines [] rest
      else splitSentences (.sentence (endsSentence c)) (pending ++ [c]) rest

/-- A character, as the case-insensitive pattern sees it. -/
def ignoreCase (c : Char) : Char :=
  if c = '\u0130' ∨ c = '\u0131' then 'i' else c.toLower

/-- The words of `_IMPORTANT`, in lower case. -/
def importantWords : List Text :=
  ["%", "年", "月", "日", "亿元", "美元", "cagr", "id", "citation",
    "evidence"].map String.toList

/-- `_IMPORTANT.search`. -/
def isImportant (sentence : Text) : Bool :=
  sentence.any isDecimal
    || importantWords.any (· <:+: sentence.map ignoreCase)

/-- `sentences`. -/
def sentencesOf (content : Text) : List Text :=
  ((splitSentences (.sentence false) [] content).map strip).filter
    (!·.isEmpty)

/-- `ranked`: the important sentences before the others. -/
def rankSentences (sentences : List Text) : List (Text × Nat) :=
  sentences.zipIdx.filter (isImportant ·.1)
    ++ sentences.zipIdx.filter (!isImportant ·.1)

/-- What the loop over `ranked` keeps track of. -/
structure ChosenState where
  chosen : List (Text × Nat) := []
  used : Nat := 0

/-- One round of the loop over `ranked`. -/
def chooseStep (targetChars : Nat) (s : ChosenState)
    (sentence : Text × Nat) : ChosenState :=
  let cost := sentence.1.length + if s.chosen.isEmpty then 0 else 1
  if s.used + cost > targetChars then s
  else { chosen := s.chosen ++ [sentence], used := s.used + cost }

/-- `chosen`, after the fallback to the beginning of the first sentence.
`none` stands for the early return. -/
def chooseSentences (targetChars : Nat) (sentences : List Text) :
    Option (List (Text × Nat)) :=
  let chosen := ((rankSentences sentences).foldl (chooseStep targetChars)
    {}).chosen
  if chosen.isEmpty then
    let first := strip ((sentences.headD []).take targetChars)
    if first.isEmpty then none else some [(first, 0)]
  else some chosen

/-- `output`. -/
def joinSentences (chosen : List (Text × Nat)) : Text :=
  [' '].intercalate
    ((chosen.insertionSort fun a b => a.2 ≤ b.2).map Prod.fst)

-- ============================================================ compression

/-- `CompressionResult`. -/
structure CompressionResult (F H : Type) where
  candidate : ContextCandidate F
  inputHash : H
  outputHash : H
  tokenBefore : Nat
  tokenAfter : Nat
  validationStatus : String

section

variable {F H : Type} (sha256 : Text → H)

/-- `compressed`. -/
def compressedCandidate (candidate : ContextCandidate F) (output : Text)
    (before after : Nat) : ContextCandidate F :=
  { itemType := candidate.itemType
    content := output
    rankScore := candidate.rankScore
    sourceRefType := candidate.sourceRefType
    sourceRefId := candidate.sourceRefId
    isProtected := candidate.isProtected
    compressionLevel :=
      if after ≥ max 1 (before / 2) then .extractive else .summarized
    selectedReasonCode := "compressed_to_fit_budget"
    provenanceRefs :=
      if candidate.provenanceRefs.isEmpty then
        [candidate.sourceRefType, candidate.sourceRefId].reduceOption
      else candidate.provenanceRefs }

/-- `compress_candidate`. -/
def compressCandidate (candidate : ContextCandidate F)
    (targetTokens : Int) : Option (CompressionResult F H) :=
  let before := compressorEstimateTokens candidate.content
  if targetTokens ≤ 0 ∨ (before : Int) ≤ targetTokens then none
  else
    let targetChars := max 96 (targetTokens.toNat * 3)
    let sentences := sentencesOf candidate.content
    if sentences.isEmpty then none
    else do
      let chosen ← chooseSentences targetChars sentences
      let output := joinSentences chosen
      let after := compressorEstimateTokens output
      if output.isEmpty ∨ after ≥ before ∨ (after : Int) > targetTokens then
        none
      else
        return {
          candidate := compressedCandidate candidate output before after
          inputHash := sha256 candidate.content
          outputHash := sha256 output
          tokenBefore := before
          tokenAfter := after
          validationStatus := "provenance_preserved" }

end

end DeepResearch.Context
