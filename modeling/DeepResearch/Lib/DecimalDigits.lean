/-
The decimal digits of Unicode, which are the characters of the category
Nd, and the numbers that they write.
-/
import Mathlib.Algebra.Order.Group.Nat
import Mathlib.Data.List.Basic

namespace DecimalDigits

/-- The zeros of the decimal digits of Unicode 15.0; the nine other
digits follow each. -/
def decimalZeros : List Nat :=
  [0x30, 0x660, 0x6F0, 0x7C0, 0x966, 0x9E6, 0xA66, 0xAE6, 0xB66, 0xBE6,
    0xC66, 0xCE6, 0xD66, 0xDE6, 0xE50, 0xED0, 0xF20, 0x1040, 0x1090,
    0x17E0, 0x1810, 0x1946, 0x19D0, 0x1A80, 0x1A90, 0x1B50, 0x1BB0,
    0x1C40, 0x1C50, 0xA620, 0xA8D0, 0xA900, 0xA9D0, 0xA9F0, 0xAA50,
    0xABF0, 0xFF10, 0x104A0, 0x10D30, 0x11066, 0x110F0, 0x11136, 0x111D0,
    0x112F0, 0x11450, 0x114D0, 0x11650, 0x116C0, 0x11730, 0x118E0,
    0x11950, 0x11C50, 0x11D50, 0x11DA0, 0x11F50, 0x16A60, 0x16AC0,
    0x16B50, 0x1D7CE, 0x1D7D8, 0x1D7E2, 0x1D7EC, 0x1D7F6, 0x1E140,
    0x1E2F0, 0x1E4F0, 0x1E950, 0x1FBF0]

/-- The value of a decimal digit. -/
def decimalValue (c : Char) : Option Nat :=
  (decimalZeros.find? fun first =>
    first ≤ c.toNat && c.toNat < first + 10).map (c.toNat - ·)

/-- `\d`. -/
def isDecimal (c : Char) : Bool := (decimalValue c).isSome

/-- `int`, of decimal digits. -/
def intOf (digits : List Char) : Nat :=
  digits.foldl (fun value c => 10 * value + (decimalValue c).getD 0) 0

/-- A decimal digit is one of the ten that begin with a zero. -/
theorem exists_of_isDecimal {c : Char} (h : isDecimal c = true) :
    ∃ first ∈ decimalZeros, ∃ value < 10, c = Char.ofNat (first + value) := by
  unfold isDecimal decimalValue at h
  rw [Option.isSome_map, List.find?_isSome] at h
  obtain ⟨first, hfirst, hrange⟩ := h
  rw [Bool.and_eq_true, decide_eq_true_eq, decide_eq_true_eq] at hrange
  refine ⟨first, hfirst, c.toNat - first, by omega, ?_⟩
  rw [Nat.add_sub_cancel' hrange.1, Char.ofNat_toNat]

/-- What holds of the ten digits behind every zero holds of every decimal
digit. -/
theorem isDecimal_induction {p : Char → Prop}
    (hall : ∀ first ∈ decimalZeros, ∀ value < 10, p (Char.ofNat (first + value)))
    {c : Char} (h : isDecimal c = true) : p c := by
  obtain ⟨first, hfirst, value, hvalue, rfl⟩ := exists_of_isDecimal h
  exact hall first hfirst value hvalue

/-- An ASCII digit has its usual value. -/
theorem decimalValue_of_isDigit {c : Char} (h : c.isDigit = true) :
    decimalValue c = some (c.toNat - '0'.toNat) := by
  have hrange : 0x30 ≤ c.toNat ∧ c.toNat < 0x30 + 10 := by
    simp only [Char.isDigit, Bool.and_eq_true, decide_eq_true_eq] at h
    obtain ⟨hlow, hhigh⟩ := h
    have hlow' : (48 : Nat) ≤ c.val.toNat := hlow
    have hhigh' : c.val.toNat ≤ 57 := hhigh
    have hval : c.toNat = c.val.toNat := rfl
    omega
  unfold decimalValue decimalZeros
  rw [List.find?_cons_of_pos (by simp [hrange])]
  rfl

theorem isDecimal_of_mem_toDigits {n : Nat} {c : Char}
    (h : c ∈ Nat.toDigits 10 n) : isDecimal c = true := by
  unfold isDecimal
  rw [decimalValue_of_isDigit
    (Nat.isDigit_of_mem_toDigits (by omega) (le_refl 10) h)]
  rfl

/-- A number is read as it is written. -/
theorem intOf_toDigits (n : Nat) : intOf (Nat.toDigits 10 n) = n := by
  have hfold : ∀ (digits : List Char) (value : Nat),
      (∀ c ∈ digits, c.isDigit = true) →
      digits.foldl (fun value c => 10 * value + (decimalValue c).getD 0)
          value
        = Nat.ofDigitChars 10 digits value := by
    intro digits
    induction digits with
    | nil =>
        intro value _
        rfl
    | cons c digits ih =>
        intro value hall
        have hc := hall c (List.mem_cons_self ..)
        rw [List.foldl_cons, decimalValue_of_isDigit hc, Option.getD_some,
          Nat.ofDigitChars_cons]
        exact ih _ fun d hd => hall d (List.mem_cons_of_mem _ hd)
  unfold intOf
  rw [hfold _ 0 fun c hc => Nat.isDigit_of_mem_toDigits (by omega)
    (le_refl 10) hc]
  exact Nat.ofDigitChars_toDigits (by omega) (le_refl 10)

end DecimalDigits
