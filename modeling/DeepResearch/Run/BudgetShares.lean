/-
The token pools a run starts with (`research_management.py`:
`allocate_budget_shares`).

The shares are percentages taken in floating point and cut to integers.
`floatShare` is that computation: the total becomes a double, is
multiplied by the double nearest to the percentage, the product is
rounded to a double again, and `int` drops its fraction.
-/
import Mathlib.Algebra.Group.Nat.Defs
import DeepResearch.Run.Basic

namespace DeepResearch.Run

/-- The double nearest to a natural number, ties to even: 53 significant
bits are kept. -/
def roundToDouble (n : Nat) : Nat :=
  let unit := 2 ^ (n.log2 + 1 - 53)
  let kept := n / unit
  let rest := n % unit
  if unit < 2 * rest ∨ 2 * rest = unit ∧ kept % 2 = 1 then (kept + 1) * unit
  else kept * unit

/-- `int(total * percentage)`, the percentage as the double
`mantissa / 2 ^ exponent`. -/
def floatShare (mantissa exponent total : Nat) : Nat :=
  roundToDouble (roundToDouble total * mantissa) / 2 ^ exponent

/-- `int(total * 0.05)`. -/
def fivePercent : Nat → Nat := floatShare 7205759403792794 57

/-- `int(total * 0.10)`. -/
def tenPercent : Nat → Nat := floatShare 7205759403792794 56

/-- `int(total * 0.15)`. -/
def fifteenPercent : Nat → Nat := floatShare 5404319552844595 55

/-- The token pools of `allocate_budget_shares`. The limits it also
derives for the other resources are read by no token decision. -/
def allocateBudgetShares (maxTokens : Nat) : Allocation :=
  let plannerTokens :=
    if maxTokens = 0 then 0
    else min maxTokens (max 5500 (fivePercent maxTokens))
  let remaining := maxTokens - plannerTokens
  let writerTokensInitial :=
    if maxTokens = 0 then 0
    else min (min remaining 15000) (max 3000 (fifteenPercent maxTokens))
  let remaining := remaining - writerTokensInitial
  let verificationTokens := min remaining (fifteenPercent maxTokens)
  let remaining := remaining - verificationTokens
  let safetyTokens := min remaining (tenPercent maxTokens)
  { plannerTokens := some plannerTokens
    researchTokens := some (remaining - safetyTokens)
    verificationTokens := some verificationTokens
    writerTokensInitial := some writerTokensInitial
    safetyTokens := some safetyTokens }

end DeepResearch.Run
