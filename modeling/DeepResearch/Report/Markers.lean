/-
Citation markers in text (`_CITATION_PATTERN` and `_clean_paragraph` of
`report_writer.py`, the marker reading of `report_verifier.py`).

The pattern is an opening bracket, one or more decimal digits and a
closing bracket. `scan` reads a text once, from the left: it keeps the
digits read since the last opening bracket, and what cannot become a
marker any more is read as the characters it is. Substituting the empty
text for every marker keeps the characters, and finding the numbers
keeps the markers; both are one pass, so a marker that only comes about
by the substitution is not removed by it.

`\d` is any character of the Unicode category Nd; `int` reads them all.
-/
import DeepResearch.Lib.DecimalDigits
import DeepResearch.Run.TokenLedger

namespace DeepResearch.Report

open DecimalDigits (intOf isDecimal)
open DeepResearch.Run (isSpace strip)

abbrev Text := List Char

-- =============================================================== markers

/-- What a text is read as. -/
inductive Token
  | char (c : Char)
  | marker (digits : Text)
  deriving DecidableEq

/-- An opening bracket and digits that did not become a marker. -/
def unread (digits : Text) : List Token := ('[' :: digits).map .char

/-- `_CITATION_PATTERN`, applied over a text; `pending` holds the digits
since an opening bracket. -/
def scan : Option Text → Text → List Token
  | none, [] => []
  | some digits, [] => unread digits
  | none, c :: rest =>
      if c = '[' then scan (some []) rest else .char c :: scan none rest
  | some digits, c :: rest =>
      if isDecimal c then scan (some (digits ++ [c])) rest
      else if c = ']' ∧ digits ≠ [] then .marker digits :: scan none rest
      else unread digits
        ++ if c = '[' then scan (some []) rest
          else .char c :: scan none rest

/-- `_CITATION_PATTERN.sub("", value)`. -/
def removeMarkers (value : Text) : Text :=
  (scan none value).filterMap fun
    | .char c => some c
    | .marker _ => none

/-- The numbers of `_CITATION_PATTERN.findall(line)`. -/
def markerNumbers (line : Text) : List Nat :=
  (scan none line).filterMap fun
    | .char _ => none
    | .marker digits => some (intOf digits)

/-- The marker of a citation number. -/
def marker (number : Nat) : Text :=
  '[' :: (number.repr.toList ++ [']'])

-- ============================================================== cleaning

/-- `value.split()`. -/
def words (value : Text) : List Text :=
  (value.splitOnP isSpace).filter (· ≠ [])

/-- `_clean_paragraph`. -/
def cleanParagraph (value : Text) : Text :=
  strip ([' '].intercalate (words (removeMarkers value)))

/-- `markdown.split("\n\n")`; `line` is what has been read of the current
line. -/
def splitParagraphs (line : Text) : Text → List Text
  | '\n' :: '\n' :: rest => line :: splitParagraphs [] rest
  | c :: rest => splitParagraphs (line ++ [c]) rest
  | [] => [line]

end DeepResearch.Report
