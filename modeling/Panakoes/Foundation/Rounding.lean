import Mathlib.Algebra.Order.Ring.Rat
import Mathlib.Algebra.Order.Round
import Mathlib.Data.Rat.Floor
import Mathlib.Tactic.Linarith

/-! # Rounding and fixed-point numerals

Rounding a rational to the nearest integer with ties to even, and the text of a
natural number of units written with a fixed number of decimal places. The text
determines the number of units.
-/

namespace Rounding

/-- The nearest integer, the even one of two. -/
def halfEven (value : ℚ) : ℤ :=
  if Int.fract value = 1 / 2 ∧ Even ⌊value⌋ then ⌊value⌋ else round value

theorem abs_sub_halfEven_le (value : ℚ) : |value - halfEven value| ≤ 1 / 2 := by
  unfold halfEven
  split
  · next tie =>
      change |Int.fract value| ≤ 1 / 2
      rw [tie.1, abs_of_nonneg (by norm_num)]
  · exact abs_sub_round value

theorem halfEven_nonneg {value : ℚ} (nonneg : 0 ≤ value) : 0 ≤ halfEven value := by
  unfold halfEven
  split
  · exact Int.floor_nonneg.mpr nonneg
  · rw [round_eq]
    exact Int.floor_nonneg.mpr (by linarith)

/-- Values that round to one integer are at most one apart. -/
theorem sub_le_one_of_halfEven_eq {first second : ℚ} (same : halfEven first = halfEven second) :
    second - first ≤ 1 := by
  have below := (abs_le.mp (abs_sub_halfEven_le first)).1
  have above := (abs_le.mp (abs_sub_halfEven_le second)).2
  rw [← same] at above
  linarith

/-- The last decimal digits of a number, leading zeros included. -/
def fixedDigits : ℕ → ℕ → List Char
  | 0, _ => []
  | places + 1, value => fixedDigits places (value / 10) ++ [Nat.digitChar (value % 10)]

@[simp] theorem length_fixedDigits (places value : ℕ) :
    (fixedDigits places value).length = places := by
  induction places generalizing value with
  | zero => rfl
  | succ places ih => rw [fixedDigits, List.length_append, ih, List.length_singleton]

theorem ofDigitChars_fixedDigits (places value : ℕ) :
    Nat.ofDigitChars 10 (fixedDigits places value) 0 = value % 10 ^ places := by
  induction places generalizing value with
  | zero => rw [fixedDigits, Nat.ofDigitChars_nil, pow_zero, Nat.mod_one]
  | succ places ih =>
      have digit : value % 10 < 10 := Nat.mod_lt value (by decide)
      rw [fixedDigits, Nat.ofDigitChars_append, ih,
        Nat.ofDigitChars_cons_digitChar_of_lt_ten digit, Nat.ofDigitChars_nil, pow_succ',
        Nat.mod_mul]
      omega

/-- A number of units of `10 ^ -places`, written out. -/
def fixedText (places units : ℕ) : String :=
  String.ofList (Nat.toDigits 10 (units / 10 ^ places) ++
    '.' :: fixedDigits places (units % 10 ^ places))

theorem fixedText_inj {places first second : ℕ} :
    fixedText places first = fixedText places second ↔ first = second := by
  refine ⟨fun same => ?_, fun same => same ▸ rfl⟩
  obtain ⟨whole, rest⟩ := List.append_inj' (String.ofList_injective same) (by simp)
  have quotient : first / 10 ^ places = second / 10 ^ places := by
    rw [← Nat.ofDigitChars_ten_toDigits (n := first / 10 ^ places), whole,
      Nat.ofDigitChars_ten_toDigits]
  have remainder : first % 10 ^ places = second % 10 ^ places := by
    have digits := congrArg (Nat.ofDigitChars 10 · 0) (List.cons.inj rest).2
    simpa only [ofDigitChars_fixedDigits, Nat.mod_mod] using digits
  rw [← Nat.div_add_mod first (10 ^ places), quotient, remainder, Nat.div_add_mod]

end Rounding

/-! ## Shares as floats

The rounding of a number to a float is monotone and keeps the integers that a float can hold. A share
of a whole, in percent and rounded to two places, is then between 0 and 100.
-/

/-- The float next to a number. -/
structure FloatRounding where
  round : ℚ → ℚ
  mono : Monotone round
  round_int : ∀ value : ℤ, |value| ≤ 2 ^ 53 → round value = value

/-- A rounding that changes nothing. -/
instance : Inhabited FloatRounding := ⟨⟨id, monotone_id, fun _ _ => rfl⟩⟩

namespace FloatRounding

variable (floats : FloatRounding)

/-- `part / whole * 100.0`, and 0 of nothing. -/
def percent (part whole : ℤ) : ℚ :=
  if 0 < whole then floats.round (floats.round ((part : ℚ) / whole) * 100) else 0

/-- `round(value, 2)`. -/
def roundTwo (value : ℚ) : ℚ := floats.round ((Rounding.halfEven (value * 100) : ℚ) / 100)

variable {floats}

/-- What is between two integers is rounded to what is between them. -/
theorem round_mem {value : ℚ} {high : ℤ} (short : |high| ≤ 2 ^ 53) (nonneg : 0 ≤ value)
    (below : value ≤ high) : 0 ≤ floats.round value ∧ floats.round value ≤ high := by
  have zero : floats.round 0 = 0 := by
    have exact := floats.round_int 0 (by norm_num)
    rwa [Int.cast_zero] at exact
  have top := floats.round_int high short
  have least := floats.mono nonneg
  have most := floats.mono below
  rw [zero] at least
  rw [top] at most
  exact ⟨least, most⟩

variable (floats) in
theorem percent_mem {part whole : ℤ} (nonneg : 0 ≤ part) (within : part ≤ whole) :
    0 ≤ floats.percent part whole ∧ floats.percent part whole ≤ 100 := by
  unfold percent
  split
  · rename_i positive
    have wholePos : (0 : ℚ) < whole := Int.cast_pos.mpr positive
    have share : 0 ≤ floats.round ((part : ℚ) / whole) ∧
        floats.round ((part : ℚ) / whole) ≤ (1 : ℤ) := by
      apply round_mem (by norm_num)
      · exact div_nonneg (Int.cast_nonneg nonneg) wholePos.le
      · rw [Int.cast_one, div_le_one wholePos]
        exact Int.cast_le.mpr within
    obtain ⟨least, most⟩ := share
    have hundred : 0 ≤ floats.round (floats.round ((part : ℚ) / whole) * 100) ∧
        floats.round (floats.round ((part : ℚ) / whole) * 100) ≤ (100 : ℤ) := by
      apply round_mem (by norm_num)
      · linarith
      · push_cast at most ⊢
        linarith
    simpa using hundred
  · norm_num

/-- What is at most an integer is rounded to at most that integer. -/
theorem halfEven_le {value : ℚ} {high : ℤ} (below : value ≤ high) :
    Rounding.halfEven value ≤ high := by
  have near := (abs_le.mp (Rounding.abs_sub_halfEven_le value)).1
  have less : (Rounding.halfEven value : ℚ) < (high + 1 : ℤ) := by
    push_cast
    linarith
  exact Int.lt_add_one_iff.mp (Int.cast_lt.mp less)

theorem roundTwo_mem {value : ℚ} (nonneg : 0 ≤ value) (below : value ≤ 100) :
    0 ≤ floats.roundTwo value ∧ floats.roundTwo value ≤ 100 := by
  have least := Rounding.halfEven_nonneg (mul_nonneg nonneg (by norm_num : (0 : ℚ) ≤ 100))
  have most : Rounding.halfEven (value * 100) ≤ 10000 := by
    apply halfEven_le
    push_cast
    linarith
  have within : 0 ≤ floats.roundTwo value ∧ floats.roundTwo value ≤ (100 : ℤ) := by
    apply round_mem (by norm_num)
    · exact div_nonneg (Int.cast_nonneg least) (by norm_num)
    · rw [div_le_iff₀ (by norm_num)]
      have cast : (Rounding.halfEven (value * 100) : ℚ) ≤ (10000 : ℤ) := Int.cast_le.mpr most
      push_cast at cast ⊢
      linarith
  simpa using within

/-- The share of a whole, in percent and rounded to two places. -/
theorem roundTwo_percent_mem {part whole : ℤ} (nonneg : 0 ≤ part) (within : part ≤ whole) :
    0 ≤ floats.roundTwo (floats.percent part whole) ∧
      floats.roundTwo (floats.percent part whole) ≤ 100 := by
  obtain ⟨least, most⟩ := floats.percent_mem nonneg within
  exact roundTwo_mem least most

end FloatRounding
