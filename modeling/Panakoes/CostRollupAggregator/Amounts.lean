import Panakoes.CostRollupAggregator.Aggregator
import Panakoes.Foundation.DecimalRounding

/-! # The amounts of a day

The cents of an amount, and the days that complete whatever their amounts are. An amount that is no
finite number, or too large for the precision, raises after the part that is guarded.
-/

namespace Panakoes.CostRollupAggregator

open CostApi

/-- The exact number of hundredths of a finite number. -/
def exactCents (negative : Bool) (coefficient : ℕ) (exponent : ℤ) : ℚ :=
  (if negative then -1 else 1) * PyDecimal.product coefficient 100 exponent

/-- An amount is converted: nothing is raised, and the cents of a finite number are those next to it,
and none below zero. -/
def Converts (amount : String) : Prop :=
  (usdToCents amount).isOk = true ∧
    ∀ negative coefficient exponent,
      PyDecimal.parse amount = some (.finite negative coefficient exponent) →
        usdToCents amount =
          .ok (max 0 (Rounding.halfUp (exactCents negative coefficient exponent)))

/-- A number is finite, and its cents fit into the precision. -/
def Fits : PyDecimal → Prop
  | .finite _ coefficient exponent =>
      PyDecimal.roundedProduct coefficient 100 exponent + 1 / 2 < 10 ^ PyDecimal.precision
  | _ => False

instance : DecidablePred Fits
  | .finite _ _ _ => inferInstanceAs (Decidable (_ < _))
  | .infinity _ => inferInstanceAs (Decidable False)
  | .nan _ => inferInstanceAs (Decidable False)

/-- The amounts that raise nothing: those that are no number, and those that fit. -/
def AmountFits (amount : String) : Prop := ∀ number ∈ PyDecimal.parse amount, Fits number

/-- No half lies between the cents of a positive number and these cents rounded to the precision. -/
def Unseparated : PyDecimal → Prop
  | .finite false coefficient exponent =>
      ∀ whole : ℤ, PyDecimal.roundedProduct coefficient 100 exponent < whole + 1 / 2 ↔
        PyDecimal.product coefficient 100 exponent < whole + 1 / 2
  | _ => True

/-! ## One amount -/

variable {amount : String} {coefficient : ℕ} {exponent : ℤ} {negative : Bool}

theorem halfUp_nonpos {value : ℚ} (nonpos : value ≤ 0) : Rounding.halfUp value ≤ 0 := by
  unfold Rounding.halfUp
  rw [← Int.lt_add_one_iff, Int.floor_lt]
  push_cast
  linarith

theorem halfUp_nonneg {value : ℚ} (nonneg : 0 ≤ value) : 0 ≤ Rounding.halfUp value := by
  apply Int.floor_nonneg.mpr
  linarith

theorem product_nonneg (coefficient factor : ℕ) (exponent : ℤ) :
    0 ≤ PyDecimal.product coefficient factor exponent :=
  mul_nonneg (mul_nonneg (Nat.cast_nonneg _) (Nat.cast_nonneg _)) (zpow_nonneg (by norm_num) _)

theorem usdToCents_finite
    (read : PyDecimal.parse amount = some (.finite negative coefficient exponent)) :
    usdToCents amount =
      if Fits (.finite negative coefficient exponent) then
        .ok (if negative then 0
          else Rounding.halfUp (PyDecimal.roundedProduct coefficient 100 exponent))
      else .error .other := by
  have nonneg := halfUp_nonneg (PyDecimal.roundedProduct_nonneg coefficient 100 exponent)
  unfold usdToCents
  rw [read]
  dsimp only
  rw [PyDecimal.scaledToInt_eq]
  by_cases fits : Fits (.finite negative coefficient exponent)
  · have within : PyDecimal.roundedProduct coefficient 100 exponent + 1 / 2 <
        10 ^ PyDecimal.precision := fits
    rw [if_pos fits, if_pos within]
    dsimp only
    rw [Int.toNat_of_nonneg nonneg]
  · have large : ¬ PyDecimal.roundedProduct coefficient 100 exponent + 1 / 2 <
        10 ^ PyDecimal.precision := fits
    rw [if_neg fits, if_neg large]

/-- Nothing is raised for an amount that is no number or fits, and for no other. -/
theorem isOk_usdToCents_iff (amount : String) :
    (usdToCents amount).isOk = true ↔ AmountFits amount := by
  unfold AmountFits
  cases read : PyDecimal.parse amount with
  | none =>
      apply iff_of_true
      · unfold usdToCents
        rw [read]
        rfl
      · intro number absent
        exact absurd absent (Option.not_mem_none _)
  | some number =>
      simp only [Option.mem_some_iff, forall_eq']
      cases number with
      | finite negative coefficient exponent =>
          rw [usdToCents_finite read]
          split
          · rename_i fits
            exact iff_of_true rfl fits
          · rename_i large
            exact iff_of_false (by decide) large
      | infinity negative =>
          apply iff_of_false
          · unfold usdToCents
            rw [read]
            exact Bool.false_ne_true
          · exact id
      | nan signaling =>
          apply iff_of_false
          · unfold usdToCents
            rw [read]
            exact Bool.false_ne_true
          · exact id

theorem nonneg_of_usdToCents {cents : ℤ} (converted : usdToCents amount = .ok cents) : 0 ≤ cents := by
  unfold usdToCents at converted
  split at converted
  · cases converted
    exact le_refl 0
  · split at converted
    · cases converted
    · cases converted
      split
      · exact le_refl 0
      · exact Int.natCast_nonneg _
  · cases converted

theorem exactCents_nonpos : exactCents true coefficient exponent ≤ 0 := by
  have nonneg := product_nonneg coefficient 100 exponent
  unfold exactCents
  rw [if_pos rfl]
  linarith

/-- The cents are those next to the number unless a half lies between the two roundings. -/
theorem cents_eq_iff (negative : Bool) (coefficient : ℕ) (exponent : ℤ) :
    (if negative then 0 else Rounding.halfUp (PyDecimal.roundedProduct coefficient 100 exponent)) =
        max 0 (Rounding.halfUp (exactCents negative coefficient exponent)) ↔
      Unseparated (.finite negative coefficient exponent) := by
  cases negative with
  | true =>
      apply iff_of_true
      · rw [if_pos rfl, max_eq_left (halfUp_nonpos exactCents_nonpos)]
      · exact True.intro
  | false =>
      have exact : exactCents false coefficient exponent =
          PyDecimal.product coefficient 100 exponent := one_mul _
      rw [if_neg Bool.false_ne_true, exact,
        max_eq_right (halfUp_nonneg (product_nonneg coefficient 100 exponent)),
        Rounding.halfUp_eq_iff]
      exact Iff.rfl

/-- An amount is converted exactly when it fits and the second rounding does not see the first. -/
theorem converts_iff (amount : String) :
    Converts amount ↔ AmountFits amount ∧ ∀ number ∈ PyDecimal.parse amount, Unseparated number := by
  unfold Converts
  rw [isOk_usdToCents_iff]
  apply and_congr_right
  intro fits
  constructor
  · intro converted number read
    cases number with
    | finite negative coefficient exponent =>
        have cents := converted negative coefficient exponent read
        rw [usdToCents_finite read, if_pos (fits _ read), Except.ok.injEq] at cents
        exact (cents_eq_iff negative coefficient exponent).mp cents
    | infinity negative => exact True.intro
    | nan signaling => exact True.intro
  · intro unseparated negative coefficient exponent read
    rw [usdToCents_finite read, if_pos (fits _ read), Except.ok.injEq]
    exact (cents_eq_iff negative coefficient exponent).mpr (unseparated _ read)

/-- Numbers of at most 26 digits are not separated. -/
theorem unseparated_of_short (negative : Bool) (exponent : ℤ)
    (short : (Nat.toDigits 10 (coefficient * 100)).length ≤ PyDecimal.precision) :
    Unseparated (.finite negative coefficient exponent) := by
  cases negative with
  | true => exact True.intro
  | false =>
      intro whole
      rw [PyDecimal.roundedProduct_of_short short]

/-! ## All amounts of a day -/

/-- Some response is the last one. -/
def Ends : List Response → Prop
  | [] => False
  | response :: rest => response.nextPageToken.getD "" = "" ∨ Ends rest

/-- No group is refused for its cost or for an empty service. -/
theorem exists_putGroup_iff (day : Date) (group : Group) :
    (∃ put, putGroup day group = .ok put) ↔
      AmountFits group.amount ∧ '#' ∉ group.service.toList := by
  have named : group.service ≠ "" := by
    unfold Group.service
    dsimp only
    split
    · decide
    · assumption
  rw [← isOk_usdToCents_iff]
  unfold putGroup parseGroup
  cases converted : usdToCents group.amount with
  | error error =>
      apply iff_of_false
      · rintro ⟨put, accepted⟩
        cases accepted
      · rintro ⟨returned, -⟩
        cases returned
  | ok cents =>
      have nonneg : ¬ cents < 0 := not_lt.mpr (nonneg_of_usdToCents converted)
      change (∃ put, putRollup group.tenantId day group.service cents = .ok put) ↔ _
      unfold putRollup
      rw [if_neg nonneg, if_neg named]
      split
      · rename_i separated
        apply iff_of_false
        · rintro ⟨put, accepted⟩
          cases accepted
        · exact fun both => both.2 separated
      · rename_i plain
        exact iff_of_true ⟨_, rfl⟩ ⟨rfl, plain⟩

theorem sound_iff (day : Date) (groups : List Group) :
    Sound day groups ↔
      ∀ group ∈ groups, AmountFits group.amount ∧ '#' ∉ group.service.toList :=
  forall₂_congr fun group _ => exists_putGroup_iff day group

/-- The loop ends if some response is the last one and no group of the pages up to it raises. -/
theorem processPages_eq_none_iff (day : Date) (progress : Progress) (responses : List Response) :
    (processPages day progress responses).2 = none ↔
      Ends responses ∧ Sound day (allGroups responses) := by
  induction responses generalizing progress with
  | nil =>
      apply iff_of_false
      · exact Option.some_ne_none _
      · exact fun both => both.1
  | cons response rest ih =>
      have finished := (processGroups_eq day { progress with ceCalls := progress.ceCalls + 1 }
        (iterGroups response)).2
      have split : Sound day (allGroups (response :: rest)) ↔ Sound day (iterGroups response) ∧
          Sound day (if response.nextPageToken.getD "" = "" then [] else allGroups rest) :=
        List.forall_mem_append
      rw [split, processPages]
      cases page : processGroups day { progress with ceCalls := progress.ceCalls + 1 }
          (iterGroups response) with
      | mk after raised =>
          rw [page] at finished
          cases raised with
          | some error =>
              apply iff_of_false (Option.some_ne_none _)
              intro both
              exact Option.some_ne_none _ (finished.mpr both.2.1)
          | none =>
              dsimp only
              unfold Ends
              by_cases last : response.nextPageToken.getD "" = ""
              · rw [if_pos last, if_pos last]
                apply iff_of_true rfl
                exact ⟨Or.inl last, finished.mp rfl, fun _ member => absurd member List.not_mem_nil⟩
              · rw [if_neg last, if_neg last, ih, or_iff_right last,
                  and_iff_right (finished.mp rfl)]

theorem isOk_aggregateDay_iff (table : RollupTable) (day : Date) (responses : List Response) :
    (aggregateDay table day responses).2.isOk = true ↔
      Ends responses ∧ Sound day (allGroups responses) := by
  rw [← processPages_eq_none_iff day ⟨table, 0, [], 0, 0⟩ responses]
  unfold aggregateDay
  split
  · rename_i same
    rw [same]
    exact iff_of_false Bool.false_ne_true (Option.some_ne_none _)
  · rename_i same
    rw [same]
    exact iff_of_true rfl rfl

/-- **Amounts.** An amount is converted if and only if it is not infinite and no NaN, fits, and has no
half between its cents and their rounding to the precision; and a day completes if and only if its
answer ends, its services have no separator and its amounts fit. -/
theorem amounts_iff (amount : String) (table : RollupTable) (day : Date) (responses : List Response) :
    (Converts amount ↔
        AmountFits amount ∧ ∀ number ∈ PyDecimal.parse amount, Unseparated number) ∧
      ((aggregateDay table day responses).2.isOk = true ↔
        Ends responses ∧ ∀ group ∈ allGroups responses,
          AmountFits group.amount ∧ '#' ∉ group.service.toList) := by
  rw [isOk_aggregateDay_iff, sound_iff]
  exact ⟨converts_iff amount, Iff.rfl⟩

/-- An amount below half a cent by less than the precision can hold. -/
def nearHalfCent : String := "0.0049999999999999999999999999999999"

/-- `NaN` raises, and the amount near half a cent is rounded to a whole one. -/
theorem not_converts_nan : ¬ Converts "NaN" ∧ ¬ Converts nearHalfCent := by
  constructor
  · intro converted
    have raises : (usdToCents "NaN").isOk = false := by decide +kernel
    rw [converted.1] at raises
    cases raises
  · intro converted
    have read : PyDecimal.parse nearHalfCent =
        some (.finite false 49999999999999999999999999999999 (-34)) := by decide +kernel
    have cents : usdToCents nearHalfCent = .ok 1 := by decide +kernel
    have exact := converted.2 _ _ _ read
    rw [cents] at exact
    have none : Rounding.halfUp (exactCents false 49999999999999999999999999999999 (-34)) = 0 := by
      unfold Rounding.halfUp exactCents PyDecimal.product
      rw [Int.floor_eq_zero_iff]
      norm_num
    rw [none] at exact
    cases exact

end Panakoes.CostRollupAggregator
