import Mathlib.Order.Monotone.Defs
import Panakoes.Billing.BillingEventStore

/-! # Correlation ids

The middleware writes the clock and the random bits as one number of 128 bits, where billing writes
each of them on its own. The random bits fill sixteen digits, so both write the same id, and as
ids have a fixed length they are ordered as their numbers.
-/

namespace Panakoes.Middleware

open Billing

/-- `_CROCKFORD_ALPHABET`. -/
def crockfordAlphabet : List Char := "0123456789ABCDEFGHJKMNPQRSTVWXYZ".toList

/-- The variables of the loop of `_generate_ulid`. -/
structure Digits where
  chars : List Char
  combined : ℕ

/-- A round of the loop. -/
def Digits.next (digits : Digits) : Digits where
  chars := digits.chars ++ [crockfordAlphabet.getD (digits.combined &&& 0x1F) '0']
  combined := digits.combined >>> 5

/-- The variables after some rounds. -/
def Digits.after (digits : Digits) : ℕ → Digits
  | 0 => digits
  | rounds + 1 => digits.next.after rounds

/-- `_generate_ulid`, of the clock in milliseconds and the random bits. -/
def generateUlid (timestampMs randomBits : ℕ) : String :=
  let combined := (timestampMs <<< 80) ||| randomBits
  String.ofList (Digits.after ⟨[], combined⟩ 26).chars.reverse

/-! ## The order of encoded numbers -/

theorem strictMonoOn_encodeB32 (length : ℕ) :
    StrictMonoOn (fun value => String.ofList (encodeB32 value length)) (Set.Iio (32 ^ length)) := by
  intro lesser _ greater small less
  have precedes := precedes_encodeB32 less small
  apply String.lt_iff_toList_lt.mpr
  rw [String.toList_ofList, String.toList_ofList]
  exact precedes.lt

/-! ## The digits of both loops -/

/-- The loop appends the digits from the last to the first. -/
theorem Digits.chars_after (digits : Digits) (rounds : ℕ) :
    (digits.after rounds).chars =
      digits.chars ++ (encodeB32 digits.combined rounds).reverse := by
  induction rounds generalizing digits with
  | zero => exact (List.append_nil _).symm
  | succ rounds ih =>
      have last : encodeB32 digits.combined (rounds + 1) =
          encodeB32 (digits.combined >>> 5) rounds ++
            [crockfordAlphabet.getD (digits.combined &&& 0x1F) '0'] := rfl
      rw [Digits.after, ih, last, List.reverse_append, ← List.append_assoc]
      rfl

/-- The last digits of a number, and those before them. -/
theorem encodeB32_add (value high low : ℕ) :
    encodeB32 value (high + low) =
      encodeB32 (value >>> (5 * low)) high ++ encodeB32 value low := by
  induction low generalizing value with
  | zero => exact (List.append_nil _).symm
  | succ low ih =>
      rw [← Nat.add_assoc, encodeB32, ih, encodeB32, List.append_assoc, ← Nat.shiftRight_add,
        Nat.mul_succ, Nat.add_comm 5]

/-- So many digits tell a number up to its multiples of their power. -/
theorem encodeB32_mod (value length : ℕ) :
    encodeB32 (value % 2 ^ (5 * length)) length = encodeB32 value length := by
  induction length generalizing value with
  | zero => rfl
  | succ length ih =>
      have rest : (value % 2 ^ (5 * (length + 1))) >>> 5 = (value >>> 5) % 2 ^ (5 * length) := by
        rw [Nat.shiftRight_eq_div_pow, Nat.shiftRight_eq_div_pow, Nat.mul_succ, Nat.add_comm,
          Nat.pow_add, Nat.mod_mul_right_div_self]
      have digit : value % 2 ^ (5 * (length + 1)) &&& 0x1F = value &&& 0x1F := by
        rw [Nat.and_two_pow_sub_one_eq_mod _ 5, Nat.and_two_pow_sub_one_eq_mod _ 5]
        exact Nat.mod_mod_of_dvd _ (Nat.pow_dvd_pow 2 (by omega))
      rw [encodeB32, encodeB32, rest, digit, ih]

/-- Both generators write the same id. -/
theorem generateUlid_eq {randomBits : ℕ} (timestampMs : ℕ) (small : randomBits < 2 ^ 80) :
    generateUlid timestampMs randomBits = newUlid timestampMs randomBits := by
  have number : (timestampMs <<< 80) ||| randomBits = timestampMs * 2 ^ 80 + randomBits := by
    rw [← Nat.shiftLeft_add_eq_or_of_lt small, Nat.shiftLeft_eq]
  have time : (timestampMs * 2 ^ 80 + randomBits) >>> (5 * 16) = timestampMs := by
    rw [Nat.shiftRight_eq_div_pow]
    omega
  have bits : (timestampMs * 2 ^ 80 + randomBits) % 2 ^ (5 * 16) = randomBits := by omega
  have random : encodeB32 (timestampMs * 2 ^ 80 + randomBits) 16 = encodeB32 randomBits 16 := by
    rw [← encodeB32_mod, bits]
  unfold generateUlid newUlid
  dsimp only
  rw [number, Digits.chars_after, List.nil_append, List.reverse_reverse, encodeB32_add _ 10 16,
    time, random]

/-- **Ids are ordered as their numbers, and both generators write the same.** -/
theorem ulid_ordered_and_same :
    (∀ length, Set.InjOn (fun value => String.ofList (encodeB32 value length))
      (Set.Iio (32 ^ length))) ∧
    (∀ length, StrictMonoOn (fun value => String.ofList (encodeB32 value length))
      (Set.Iio (32 ^ length))) ∧
    ∀ timestampMs < 2 ^ 48, ∀ randomBits < 2 ^ 80,
      newUlid timestampMs randomBits = generateUlid timestampMs randomBits := by
  refine ⟨fun length => (strictMonoOn_encodeB32 length).injOn, strictMonoOn_encodeB32, ?_⟩
  intro timestampMs _ randomBits small
  exact (generateUlid_eq timestampMs small).symm

/-- The id of a millisecond with the random bits one. -/
theorem ulid_ordered_and_same_one :
    newUlid 1778457600000 1 = generateUlid 1778457600000 1 :=
  ulid_ordered_and_same.2.2 1778457600000 (by decide) 1 (by decide)

end Panakoes.Middleware
