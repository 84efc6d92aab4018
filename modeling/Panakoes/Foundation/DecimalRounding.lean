import Mathlib.Algebra.Order.Floor.Semiring
import Panakoes.Foundation.PyDecimal

/-! # Rounding decimal numbers twice

A product is rounded to the precision of the context, and then half up to an integer. The two
roundings give the integer next to the exact product unless a half lies between that product and its
first rounding.
-/

/-- The integer next to a number, the greater one of two. -/
def Rounding.halfUp (value : ℚ) : ℤ := ⌊value + 1 / 2⌋

/-- Numbers have one integer next to them if no half separates them. -/
theorem Rounding.halfUp_eq_iff {first second : ℚ} :
    halfUp first = halfUp second ↔
      ∀ whole : ℤ, first < whole + 1 / 2 ↔ second < whole + 1 / 2 := by
  have below : ∀ (value : ℚ) (whole : ℤ), halfUp value ≤ whole ↔ value < whole + 1 / 2 := by
    intro value whole
    unfold halfUp
    rw [← Int.lt_add_one_iff, Int.floor_lt]
    push_cast
    constructor
    · intro less
      linarith
    · intro less
      linarith
  constructor
  · intro same whole
    rw [← below, ← below, same]
  · intro agree
    apply le_antisymm
    · rw [below, agree, ← below]
    · rw [below, ← agree, ← below]

namespace PyDecimal

/-- The product of a finite number with a factor, exactly. -/
def product (coefficient factor : ℕ) (exponent : ℤ) : ℚ :=
  coefficient * factor * 10 ^ exponent

/-- The product of a finite number with a factor, rounded to the precision. -/
def roundedProduct (coefficient factor : ℕ) (exponent : ℤ) : ℚ :=
  (roundCoefficient (coefficient * factor)).1 *
    10 ^ (exponent + (roundCoefficient (coefficient * factor)).2)

variable {coefficient factor : ℕ} {exponent : ℤ}

theorem roundedProduct_nonneg (coefficient factor : ℕ) (exponent : ℤ) :
    0 ≤ roundedProduct coefficient factor exponent :=
  mul_nonneg (Nat.cast_nonneg _) (zpow_nonneg (by norm_num) _)

theorem roundHalfUp_eq (coefficient : ℕ) (exponent : ℤ) :
    (roundHalfUp coefficient exponent : ℤ) = Rounding.halfUp (coefficient * 10 ^ exponent) := by
  unfold Rounding.halfUp
  cases exponent with
  | ofNat exponent =>
      rw [roundHalfUp, Int.ofNat_eq_natCast, zpow_natCast]
      symm
      rw [Int.floor_eq_iff]
      push_cast
      constructor
      · linarith
      · linarith
  | negSucc exponent =>
      have positive : 0 < 2 * 10 ^ (exponent + 1) := by positivity
      have whole : (coefficient : ℚ) * 10 ^ Int.negSucc exponent + 1 / 2 =
          ((2 * coefficient + 10 ^ (exponent + 1) : ℕ) : ℚ) / (2 * 10 ^ (exponent + 1) : ℕ) := by
        rw [zpow_negSucc]
        push_cast
        field_simp
      rw [roundHalfUp, whole, Rat.floor_natCast_div_natCast]
      push_cast
      rfl

/-- What the two roundings give. -/
theorem scaledToInt_eq : scaledToInt coefficient factor exponent =
    if roundedProduct coefficient factor exponent + 1 / 2 < 10 ^ precision then
      some (Rounding.halfUp (roundedProduct coefficient factor exponent)).toNat
    else none := by
  have same : ((roundHalfUp (roundCoefficient (coefficient * factor)).1
      (exponent + (roundCoefficient (coefficient * factor)).2) : ℕ) : ℤ) =
        Rounding.halfUp (roundedProduct coefficient factor exponent) := roundHalfUp_eq _ _
  have fits : roundHalfUp (roundCoefficient (coefficient * factor)).1
      (exponent + (roundCoefficient (coefficient * factor)).2) < 10 ^ precision ↔
        roundedProduct coefficient factor exponent + 1 / 2 < 10 ^ precision := by
    rw [← Nat.cast_lt (α := ℤ), same, Rounding.halfUp, Int.floor_lt]
    push_cast
    rfl
  unfold scaledToInt
  dsimp only
  rw [← same, Int.toNat_natCast]
  exact if_congr fits rfl rfl

/-- A product within the precision is exact. -/
theorem roundedProduct_of_short
    (short : (Nat.toDigits 10 (coefficient * factor)).length ≤ precision) :
    roundedProduct coefficient factor exponent = product coefficient factor exponent := by
  have kept : (Nat.toDigits 10 (coefficient * factor)).length - precision = 0 :=
    Nat.sub_eq_zero_of_le short
  have whole : Rounding.halfEven ((coefficient * factor : ℕ) : ℚ) = (coefficient * factor : ℕ) := by
    unfold Rounding.halfEven
    rw [Int.fract_natCast, if_neg (by norm_num), round_natCast]
  unfold roundedProduct roundCoefficient product
  dsimp only
  rw [kept, pow_zero, div_one, whole, Int.toNat_natCast, Nat.cast_zero, add_zero, Nat.cast_mul]

end PyDecimal
