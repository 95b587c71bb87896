/-
Where a quote stands in its source (`domain/evidence_graph.py`:
`normalize_graph_text`, `locate_quote`, `_normalize_with_positions`).

Texts are lists of characters. What `\s` matches is what `str.isspace`
holds of, and what `str.strip` removes.
-/
import DeepResearch.Lib.Substring
import DeepResearch.Run.TokenLedger

namespace DeepResearch.Evidence

open DeepResearch.Run (isSpace strip)

/-- A text, by its characters. -/
abbrev GraphText := List Char

/-- `_WHITESPACE.sub(" ", value)`; `matching` tells that the character
before was white space. -/
def subWhitespace (matching : Bool) : GraphText → GraphText
  | [] => []
  | c :: value =>
      if isSpace c then
        if matching then subWhitespace true value
        else ' ' :: subWhitespace true value
      else c :: subWhitespace false value

/-- `normalize_graph_text`. -/
def normalizeGraphText (value : GraphText) : GraphText :=
  strip (subWhitespace false value)

/-- What the loop of `_normalize_with_positions` keeps track of. -/
structure Normalization where
  normalized : GraphText := []
  positions : List Nat := []
  inWhitespace : Bool := false

/-- One round of the loop. -/
def Normalization.read (s : Normalization) (character : Char × Nat) :
    Normalization :=
  if isSpace character.1 then
    if s.normalized ≠ [] ∧ s.inWhitespace = false then
      { normalized := s.normalized ++ [' ']
        positions := s.positions ++ [character.2]
        inWhitespace := true }
    else { s with inWhitespace := true }
  else
    { normalized := s.normalized ++ [character.1]
      positions := s.positions ++ [character.2]
      inWhitespace := false }

/-- `_normalize_with_positions`. -/
def normalizeWithPositions (value : GraphText) : GraphText × List Nat :=
  let s := value.zipIdx.foldl Normalization.read {}
  if s.normalized.getLast? = some ' ' then
    (s.normalized.dropLast, s.positions.dropLast)
  else (s.normalized, s.positions)

/-- `locate_quote`. -/
def locateQuote (sourceText exactQuote : GraphText) : Option (Nat × Nat) :=
  match Substring.find exactQuote sourceText with
  | some directStart => some (directStart, directStart + exactQuote.length)
  | none =>
      let (normalizedSource, sourcePositions) :=
        normalizeWithPositions sourceText
      let normalizedQuote := normalizeGraphText exactQuote
      match Substring.find normalizedQuote normalizedSource with
      | none => none
      | some normalizedStart =>
          if normalizedQuote = [] then none
          else
            let normalizedEnd := normalizedStart + normalizedQuote.length - 1
            if sourcePositions.length ≤ normalizedEnd then none
            else
              some (sourcePositions.getD normalizedStart 0,
                sourcePositions.getD normalizedEnd 0 + 1)

end DeepResearch.Evidence
