/-
Windows and blocks of a source text (`context/source_selector.py`).

Scores are floats, of which nothing is assumed (`ScoreFloat`): they decide
which windows come first and nothing about what the windows are. The two
`while` loops have fuel and say when it runs out. A set of terms is a list
without repetitions, and a set of indices a list in order.
-/
import Mathlib.Data.List.Infix
import DeepResearch.Context.Ranker
import DeepResearch.Lib.CaseFolding
import DeepResearch.Lib.Scan

namespace DeepResearch.Context

open DeepResearch.Report (Text)
open DeepResearch.Run (isSpace strip)
open CaseFolding (casefold)

/-- `SourceWindow`; `stop` is its `end`. -/
structure SourceWindow (F : Type) where
  start : Nat
  stop : Nat
  content : Text
  score : F
  heading : Option Text := none
  charStart : Int := -1
  charEnd : Int := -1
  deriving DecidableEq

/-- Why nothing is returned. -/
inductive SelectorFailure
  | valueError (message : String)
  | outOfFuel
  deriving DecidableEq, Repr

-- ================================================================== terms

/-- `[a-z0-9]`. -/
def isWordStart (c : Char) : Bool := c.isLower || c.isDigit

/-- `[a-z0-9_.-]`. -/
def isWordChar (c : Char) : Bool :=
  isWordStart c || c ∈ ['_', '.', '-']

/-- A word has two characters or more. -/
def wordOf (pending : Text) : List Text :=
  if 2 ≤ pending.length then [pending] else []

/-- `re.findall(r"[a-z0-9][a-z0-9_.-]+", text)`; `pending` is the word
that is being read. -/
def findWords : Text → Text → List Text
  | pending, [] => wordOf pending
  | pending, c :: text =>
      if (if pending = [] then isWordStart c else isWordChar c) then
        findWords (pending ++ [c]) text
      else wordOf pending ++ findWords [] text

/-- `re.findall(r"[\u3400-\u9fff]+", text)`. -/
def findPhrases (text : Text) : List Text :=
  (text.splitOnP fun c => !isCjk c).filter (!·.isEmpty)

/-- `phrase[i : i + 2] for i in range(max(1, len(phrase) - 1))`. -/
def bigrams (phrase : Text) : List Text :=
  (List.range (max 1 (phrase.length - 1))).map fun i =>
    Substring.slice phrase i (i + 2)

/-- `terms`. -/
def terms (text : Text) : List Text :=
  (findWords [] (casefold text)
    ++ (findPhrases text).flatMap bigrams).dedup

section

variable {F : Type} [ScoreFloat F]

/-- `n / m`, of integers. -/
def quotient (n m : Nat) : F := ((n : Int) : F) / ((m : Int) : F)

/-- `max((len(words & q) / max(1, len(q)) for q in queries), default=0)`. -/
def relevanceOf (queries : List (List Text)) (words : List Text) : F :=
  maxFloat (queries.map fun q =>
    quotient (words.filter (· ∈ q)).length (max 1 q.length))

/-- `[terms(q) for q in objectives if q.strip()]`. -/
def queriesOf (objectives : List Text) : List (List Text) :=
  (objectives.filter fun q => strip q ≠ []).map terms

-- ============================================================== selection

/-- How much of the words is in what is selected. -/
def overlapOf (words : List (List Text)) (selected : List Nat) (i : Nat) :
    F :=
  maxFloat (selected.map fun j =>
    let left := words.getD i []
    let right := words.getD j []
    quotient (left.filter (· ∈ right)).length
      (max 1 (left ++ right.filter (· ∉ left)).length))

/-- `score`: `0.7 * relevance[i] - 0.3 * overlap, -i`. -/
def windowScore (words : List (List Text)) (relevance : List F)
    (selected : List Nat) (i : Nat) : F × Int :=
  (quotient 7 10 * relevance.getD i 0
      - quotient 3 10 * overlapOf words selected i, -(i : Int))

/-- `a > b`, of pairs. -/
def pairGreater (a b : F × Int) : Bool :=
  if a.1 == b.1 then b.2 < a.2 else b.1 < a.1

/-- `max(remaining, key=score)`. -/
def maxIndex (score : Nat → F × Int) : List Nat → Option Nat
  | [] => none
  | i :: remaining =>
      some (remaining.foldl (fun best j =>
        if pairGreater (score j) (score best) then j else best) i)

/-- The `while` loop that selects indices. -/
def selectLoop (score : List Nat → Nat → F × Int) (limit : Int) :
    Nat → List Nat → List Nat → Option (List Nat)
  | 0, remaining, selected =>
      if remaining = [] ∨ limit ≤ selected.length then some selected
      else none
  | fuel + 1, remaining, selected =>
      if remaining = [] ∨ limit ≤ selected.length then some selected
      else
        match maxIndex (score selected) remaining with
        | none => some selected
        | some winner =>
            selectLoop score limit fuel (remaining.erase winner)
              (selected ++ [winner])

/-- The selected indices, in the order of selection. -/
def selectIndices (words : List (List Text)) (relevance : List F)
    (limit : Int) : Option (List Nat) :=
  selectLoop (windowScore words relevance) limit words.length
    (List.range words.length) []

-- ================================================================ windows

/-- Where the window that begins at `start` ends. -/
def windowEnd (text : Text) (windowChars start : Nat) : Nat :=
  let stop := min text.length (start + windowChars)
  match Substring.rfind ['\n', '\n'] text (start + windowChars / 2) stop with
  | none => stop
  | some boundary =>
      if start < boundary ∧ stop < text.length then boundary + 2 else stop

/-- The `while` loop that cuts the windows. -/
def windowLoop (text : Text) (windowChars : Nat) :
    Nat → Nat → Option (List (Nat × Nat))
  | 0, start => if start < text.length then none else some []
  | fuel + 1, start =>
      if start < text.length then
        let stop := windowEnd text windowChars start
        (windowLoop text windowChars fuel stop).map ((start, stop) :: ·)
      else some []

/-- The windows of a text. -/
def windowSpans (text : Text) (windowChars : Nat) :
    Option (List (Nat × Nat)) :=
  windowLoop text windowChars text.length 0

/-- `rank_source_windows`. -/
def rankSourceWindows (text : Text) (objectives : List Text)
    (windowChars limit : Int) :
    Except SelectorFailure (List (SourceWindow F)) :=
  if windowChars ≤ 0 ∨ limit ≤ 0 then
    .error (.valueError "positive window size and limit required")
  else
    match windowSpans text windowChars.toNat with
    | none => .error .outOfFuel
    | some windows =>
        let words := windows.map fun w => terms (Substring.slice text w.1 w.2)
        let relevance : List F := words.map (relevanceOf (queriesOf objectives))
        match selectIndices words relevance limit with
        | none => .error .outOfFuel
        | some selected =>
            .ok (selected.zipIdx.map fun (i, rank) =>
              let w := windows.getD i (0, 0)
              { start := w.1
                stop := w.2
                content := Substring.slice text w.1 w.2
                score := quotient 1 1
                  - quotient rank (max 1 selected.length) })

-- ================================================================= blocks

/-- `(?:\n\s*\n)`, at the beginning of the text. -/
def blankLineAt : Text → Option Nat
  | '\n' :: text =>
      let run := text.takeWhile isSpace
      (Substring.rfind ['\n'] run 0 run.length).map (· + 2)
  | _ => none

/-- `(?=\r?\n#{1,6}\s)`, at the beginning of the text. -/
def headingAhead (text : Text) : Bool :=
  let text := match text with
    | '\r' :: rest => rest
    | text => text
  match text with
  | '\n' :: rest =>
      let hashes := (rest.takeWhile (· = '#')).length
      1 ≤ hashes && hashes ≤ 6 && (rest.drop hashes).head?.any isSpace
  | _ => false

/-- `_BLOCK_BOUNDARY_RE`, at the beginning of the text: how much it
matches. -/
def blockBoundary (mustAdvance : Bool) (text : Text) : Option Nat :=
  match blankLineAt text with
  | some n => some n
  | none =>
      if ['\r', '\n', '\r', '\n'] <+: text then some 4
      else if mustAdvance = false ∧ headingAhead text = true then some 0
      else none

/-- `start`, `end` and `text[start:end]`. -/
structure Block where
  start : Nat
  stop : Nat
  content : Text
  deriving DecidableEq

/-- The loop of `_split_blocks` over the matches. -/
def splitFrom (text : Text) : Nat → List (Nat × Nat) → List Block
  | start, [] =>
      if start < text.length then
        [⟨start, text.length, Substring.slice text start text.length⟩]
      else []
  | start, (first, last) :: boundaries =>
      (if start < first then
        [⟨start, first, Substring.slice text start first⟩]
      else [])
      ++ splitFrom text last boundaries

/-- `_split_blocks`. -/
def splitBlocks (text : Text) : List Block :=
  if text = [] then []
  else splitFrom text 0 (Scan.finditer blockBoundary 0 0 text)

-- =============================================================== headings

/-- The characters `str.splitlines` splits at. -/
def isLineBreak (c : Char) : Bool :=
  let n := c.toNat
  (10 ≤ n && n ≤ 13) || (28 ≤ n && n ≤ 30) || n == 0x85 || n == 0x2028
    || n == 0x2029

/-- `text.splitlines()[0]`, or the empty text. -/
def firstLineOf (text : Text) : Text :=
  text.takeWhile fun c => !isLineBreak c

/-- `(?:=+|:+|-+)\s*$`, at the beginning of the text. -/
def isRule : Text → Bool
  | [] => false
  | c :: text =>
      c ∈ ['=', ':', '-']
        && ((text.dropWhile (· = c)).dropWhile fun d =>
          isSpace d && d ≠ '\n').head?.all (· = '\n')

/-- The signs that a title does not contain. -/
def sentenceEnd : List Text :=
  [['\u3002'], ['.', ' '], ['\uff1b'], [';'], ['\uff1a'], [':']]

/-- `_is_heading`. -/
def isHeading (text : Text) : Bool :=
  let stripped := strip text
  match stripped with
  | [] => false
  | c :: rest =>
      (c = '#' && rest.head?.any isSpace) || isRule stripped
        || (stripped.length ≤ 60
          && !sentenceEnd.any fun p => p <:+: stripped)

/-- `text.strip()[:80]`. -/
def headingOf (text : Text) : Text := (strip text).take 80

/-- The loop of `_block_heading`, from the block before `i` down. -/
def headingBefore (blocks : List Block) (index : Nat) : Nat → Option Text
  | 0 => none
  | i + 1 =>
      let content := (blocks.getD i ⟨0, 0, []⟩).content
      if isHeading content then some (headingOf content)
      else if i + 2 < index then none
      else headingBefore blocks index i

/-- `_block_heading`. -/
def blockHeading (blocks : List Block) (index : Nat) : Option Text :=
  let firstLine := firstLineOf (blocks.getD index ⟨0, 0, []⟩).content
  if isHeading firstLine then some (headingOf firstLine)
  else headingBefore blocks index index

-- ======================================================== relevant blocks

/-- The neighbours of the selected indices, and these. -/
def expandIndices (n : Nat) (expandNeighbors : Int) (selected : List Nat) :
    List Nat :=
  (selected ++ selected.flatMap fun i =>
    (List.range' 1 expandNeighbors.toNat).flatMap fun distance =>
      (if distance ≤ i then [i - distance] else [])
        ++ (if i + distance < n then [i + distance] else [])).dedup

/-- The window of a block. -/
def blockWindow (blocks : List Block) (i : Nat) (score : F) :
    SourceWindow F :=
  let block := blocks.getD i ⟨0, 0, []⟩
  { start := block.start
    stop := block.stop
    content := block.content
    score := score
    heading := blockHeading blocks i
    charStart := block.start
    charEnd := block.stop }

/-- `select_relevant_blocks`. -/
def selectRelevantBlocks (text : Text) (objectives : List Text)
    (limit expandNeighbors : Int) :
    Except SelectorFailure (List (SourceWindow F)) :=
  if limit ≤ 0 then .error (.valueError "positive limit required")
  else
    let blocks := splitBlocks text
    let queries := queriesOf objectives
    if blocks = [] then .ok []
    else if queries = [] then
      .ok ((List.range (min limit.toNat blocks.length)).map fun i =>
        blockWindow blocks i (quotient 1 1))
    else
      let words := blocks.map fun block => terms block.content
      let relevance : List F := words.map (relevanceOf queries)
      match selectIndices words relevance limit with
      | none => .error .outOfFuel
      | some selected =>
          let indices :=
            if 0 < expandNeighbors then
              expandIndices blocks.length expandNeighbors selected
            else selected
          .ok ((indices.mergeSort (· ≤ ·)).map fun i =>
            blockWindow blocks i (relevance.getD i 0))

end

end DeepResearch.Context
