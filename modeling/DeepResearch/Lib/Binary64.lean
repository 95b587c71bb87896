/-
Doubles as the rational numbers they are.

A double is the rational number it stands for, `nearest x` the double a
decimal literal or the result of an operation is rounded to (ties to
even; results too large for a double are not treated). `pyRound` is
Python's `round(x, digits)`: the decimal nearest to the exact value, and
the double nearest to that. On non-negative numbers both are monotone,
which is all a comparison of rounded figures with a threshold needs.
-/
import Mathlib.Algebra.Order.Field.Power
import Mathlib.Data.Int.Log
import Mathlib.Data.Rat.Floor
import Mathlib.Tactic.FieldSimp
import Mathlib.Tactic.Linarith
import Mathlib.Tactic.Positivity

namespace Binary64

-- ========================================================= to the nearest int

/-- The nearest integer, ties to even. -/
def roundHalfEven (x : ℚ) : ℤ :=
  if Int.fract x < 1 / 2 then ⌊x⌋
  else if 1 / 2 < Int.fract x then ⌊x⌋ + 1
  else if ⌊x⌋ % 2 = 0 then ⌊x⌋ else ⌊x⌋ + 1

/-- Rounding goes to the floor at least. -/
theorem floor_le_roundHalfEven (x : ℚ) : ⌊x⌋ ≤ roundHalfEven x := by
  unfold roundHalfEven
  split
  · exact le_refl _
  · split
    · omega
    · split <;> omega

/-- And to the next integer at most. -/
theorem roundHalfEven_le_floor_add_one (x : ℚ) :
    roundHalfEven x ≤ ⌊x⌋ + 1 := by
  unfold roundHalfEven
  split
  · omega
  · split
    · exact le_refl _
    · split <;> omega

theorem roundHalfEven_intCast (n : ℤ) : roundHalfEven (n : ℚ) = n := by
  unfold roundHalfEven
  rw [Int.fract_intCast, if_pos (by norm_num), Int.floor_intCast]

/-- Rounding keeps the order. -/
theorem roundHalfEven_mono {x y : ℚ} (h : x ≤ y) :
    roundHalfEven x ≤ roundHalfEven y := by
  rcases lt_or_eq_of_le (Int.floor_mono h) with hlt | heq
  · have hx := roundHalfEven_le_floor_add_one x
    have hy := floor_le_roundHalfEven y
    omega
  · have hfract : Int.fract x ≤ Int.fract y := by
      unfold Int.fract
      rw [heq]
      linarith
    unfold roundHalfEven
    rw [heq]
    by_cases hx : Int.fract x < 1 / 2
    · rw [if_pos hx]
      exact floor_le_roundHalfEven y
    · have hy : ¬ Int.fract y < 1 / 2 := fun hlt =>
        hx (lt_of_le_of_lt hfract hlt)
      rw [if_neg hx, if_neg hy]
      by_cases hxup : 1 / 2 < Int.fract x
      · rw [if_pos hxup, if_pos (lt_of_lt_of_le hxup hfract)]
      · rw [if_neg hxup]
        by_cases hyup : 1 / 2 < Int.fract y
        · rw [if_pos hyup]
          split <;> omega
        · rw [if_neg hyup]

-- =================================================================== doubles

/-- The exponent of the last place of the doubles around a number. -/
def lastPlace (x : ℚ) : ℤ := max (Int.log 2 |x| - 52) (-1074)

/-- The nearest double. -/
def nearest (x : ℚ) : ℚ :=
  roundHalfEven (x / 2 ^ lastPlace x) * 2 ^ lastPlace x

theorem nearest_zero : nearest 0 = 0 := by
  have hround : roundHalfEven 0 = 0 := roundHalfEven_intCast 0
  unfold nearest
  rw [zero_div, hround, Int.cast_zero, zero_mul]

/-- A power of two that is representable is not rounded across from below.
-/
theorem nearest_le_of_le_zpow {x : ℚ} {k : ℤ} (hplace : lastPlace x ≤ k)
    (h : x ≤ 2 ^ k) : nearest x ≤ 2 ^ k := by
  have hpos : (0 : ℚ) < 2 ^ lastPlace x := zpow_pos (by norm_num) _
  obtain ⟨n, hn⟩ := Int.eq_ofNat_of_zero_le (sub_nonneg.mpr hplace)
  have hsplit : (2 : ℚ) ^ k = ((2 ^ n : ℤ) : ℚ) * 2 ^ lastPlace x := by
    have hk : k = (n : ℤ) + lastPlace x := by omega
    rw [hk, zpow_add₀ (by norm_num)]
    norm_num
  have hdiv : x / 2 ^ lastPlace x ≤ ((2 ^ n : ℤ) : ℚ) := by
    rw [div_le_iff₀ hpos, ← hsplit]
    exact h
  have hround := roundHalfEven_mono hdiv
  rw [roundHalfEven_intCast] at hround
  unfold nearest
  rw [hsplit]
  exact mul_le_mul_of_nonneg_right (by exact_mod_cast hround) hpos.le

/-- Nor from above. -/
theorem zpow_le_nearest {y : ℚ} {k : ℤ} (hplace : lastPlace y ≤ k)
    (h : 2 ^ k ≤ y) : 2 ^ k ≤ nearest y := by
  have hpos : (0 : ℚ) < 2 ^ lastPlace y := zpow_pos (by norm_num) _
  obtain ⟨n, hn⟩ := Int.eq_ofNat_of_zero_le (sub_nonneg.mpr hplace)
  have hsplit : (2 : ℚ) ^ k = ((2 ^ n : ℤ) : ℚ) * 2 ^ lastPlace y := by
    have hk : k = (n : ℤ) + lastPlace y := by omega
    rw [hk, zpow_add₀ (by norm_num)]
    norm_num
  have hdiv : ((2 ^ n : ℤ) : ℚ) ≤ y / 2 ^ lastPlace y := by
    rw [le_div_iff₀ hpos, ← hsplit]
    exact h
  have hround := roundHalfEven_mono hdiv
  rw [roundHalfEven_intCast] at hround
  unfold nearest
  rw [hsplit]
  exact mul_le_mul_of_nonneg_right (by exact_mod_cast hround) hpos.le

/-- Rounding keeps the sign. -/
theorem nearest_nonneg {x : ℚ} (h : 0 ≤ x) : 0 ≤ nearest x := by
  have hpos : (0 : ℚ) < 2 ^ lastPlace x := zpow_pos (by norm_num) _
  have hround : roundHalfEven 0 ≤ roundHalfEven (x / 2 ^ lastPlace x) :=
    roundHalfEven_mono (div_nonneg h hpos.le)
  have hzero : roundHalfEven 0 = 0 := roundHalfEven_intCast 0
  rw [hzero] at hround
  exact mul_nonneg (by exact_mod_cast hround) hpos.le

theorem nearest_nonpos {x : ℚ} (h : x ≤ 0) : nearest x ≤ 0 := by
  have hpos : (0 : ℚ) < 2 ^ lastPlace x := zpow_pos (by norm_num) _
  have hround : roundHalfEven (x / 2 ^ lastPlace x) ≤ roundHalfEven 0 :=
    roundHalfEven_mono (div_nonpos_of_nonpos_of_nonneg h hpos.le)
  have hzero : roundHalfEven 0 = 0 := roundHalfEven_intCast 0
  rw [hzero] at hround
  exact mul_nonpos_of_nonpos_of_nonneg (by exact_mod_cast hround) hpos.le

/-- Numbers with the same last place are rounded in order; between two
last places there is a power of two that both sides respect. -/
theorem nearest_mono {x y : ℚ} (hx : 0 ≤ x) (h : x ≤ y) :
    nearest x ≤ nearest y := by
  rcases eq_or_lt_of_le hx with rfl | hxpos
  · rw [nearest_zero]
    exact nearest_nonneg h
  have hypos : 0 < y := lt_of_lt_of_le hxpos h
  have hlog : Int.log 2 x ≤ Int.log 2 y := Int.log_mono_right hxpos h
  by_cases hplace : lastPlace x = lastPlace y
  · have hpos : (0 : ℚ) < 2 ^ lastPlace y := zpow_pos (by norm_num) _
    unfold nearest
    rw [hplace]
    refine mul_le_mul_of_nonneg_right ?_ hpos.le
    exact_mod_cast roundHalfEven_mono (div_le_div_of_nonneg_right h hpos.le)
  · have hx' : lastPlace x = max (Int.log 2 x - 52) (-1074) := by
      rw [lastPlace, abs_of_pos hxpos]
    have hy' : lastPlace y = max (Int.log 2 y - 52) (-1074) := by
      rw [lastPlace, abs_of_pos hypos]
    have hlt : Int.log 2 x < Int.log 2 y := by omega
    have hbelow : x ≤ 2 ^ Int.log 2 y :=
      le_of_lt ((Int.lt_zpow_iff_log_lt Nat.one_lt_two hxpos).mpr hlt)
    have habove : (2 : ℚ) ^ Int.log 2 y ≤ y :=
      Int.zpow_log_le_self Nat.one_lt_two hypos
    exact le_trans (nearest_le_of_le_zpow (by omega) hbelow)
      (zpow_le_nearest (by omega) habove)

-- ================================================================== decimals

/-- Python's `round(x, digits)`. -/
def pyRound (digits : ℕ) (x : ℚ) : ℚ :=
  nearest (roundHalfEven (x * 10 ^ digits) / 10 ^ digits)

theorem le_roundHalfEven {z : ℚ} {n : ℤ} (h : (n : ℚ) - 1 / 2 < z) :
    n ≤ roundHalfEven z := by
  by_cases hfloor : n ≤ ⌊z⌋
  · exact le_trans hfloor (floor_le_roundHalfEven z)
  · have hz : (⌊z⌋ : ℚ) + Int.fract z = z := Int.floor_add_fract z
    have hlt : Int.fract z < 1 := Int.fract_lt_one z
    have hfloor' : ⌊z⌋ + 1 ≤ n := by omega
    have hcast : (⌊z⌋ : ℚ) + 1 ≤ n := by exact_mod_cast hfloor'
    have hhalf : 1 / 2 < Int.fract z := by linarith
    have hn : (n : ℚ) < ⌊z⌋ + 2 := by linarith
    have hn' : n < ⌊z⌋ + 2 := by exact_mod_cast hn
    unfold roundHalfEven
    rw [if_neg (not_lt.mpr hhalf.le), if_pos hhalf]
    omega

/-- Rounding to some digits keeps a number above the double of a decimal
with as many digits, when that double is closer to the decimal than to
the half below it. -/
theorem nearest_le_pyRound {digits n : ℕ} {x : ℚ}
    (hclose : (n : ℚ) - 1 / 2 < nearest (n / 10 ^ digits) * 10 ^ digits)
    (h : nearest (n / 10 ^ digits) ≤ x) :
    nearest (n / 10 ^ digits) ≤ pyRound digits x := by
  have hten : (0 : ℚ) < 10 ^ digits := by positivity
  have hround : (n : ℤ) ≤ roundHalfEven (x * 10 ^ digits) := by
    apply le_roundHalfEven
    exact lt_of_lt_of_le (by exact_mod_cast hclose)
      (mul_le_mul_of_nonneg_right h hten.le)
  have hcast : (n : ℚ) ≤ roundHalfEven (x * 10 ^ digits) := by
    exact_mod_cast hround
  exact nearest_mono (by positivity) (div_le_div_of_nonneg_right hcast
    hten.le)

example : nearest (8000 / 10 ^ 4) = 3602879701896397 / 2 ^ 52 := by
  decide +kernel

end Binary64
