import Mathlib.Data.Nat.Notation

/-! # Base64

The encoder of the standard alphabet with padding, and the strict decoder of
CPython: the loop over the characters that keeps the place in the group of four
and the bits left over. It refuses what is not of the alphabet, padding at the
start, and data after the padding, and it does not look at bits that are cut off.
-/

namespace Base64

/-- The character of six bits. -/
def digitChar (value : ℕ) : Char :=
  if value < 26 then Char.ofNat (65 + value)
  else if value < 52 then Char.ofNat (97 + (value - 26))
  else if value < 62 then Char.ofNat (48 + (value - 52))
  else if value = 62 then '+'
  else '/'

/-- The six bits of a character. -/
def digitValue (char : Char) : Option ℕ :=
  if 'A' ≤ char ∧ char ≤ 'Z' then some (char.toNat - 65)
  else if 'a' ≤ char ∧ char ≤ 'z' then some (char.toNat - 97 + 26)
  else if '0' ≤ char ∧ char ≤ '9' then some (char.toNat - 48 + 52)
  else if char = '+' then some 62
  else if char = '/' then some 63
  else none

/-- Base64 text of bytes. -/
def encode : List UInt8 → List Char
  | [] => []
  | [a] => [digitChar (a.toNat / 4), digitChar (a.toNat % 4 * 16), '=', '=']
  | [a, b] =>
      [digitChar (a.toNat / 4), digitChar (a.toNat % 4 * 16 + b.toNat / 16),
        digitChar (b.toNat % 16 * 4), '=']
  | a :: b :: c :: rest =>
      digitChar (a.toNat / 4) :: digitChar (a.toNat % 4 * 16 + b.toNat / 16) ::
        digitChar (b.toNat % 16 * 4 + c.toNat / 64) :: digitChar (c.toNat % 64) :: encode rest

/-- The place in a group of four characters, with the bits that are left over from
the characters before. -/
inductive Place where
  | first
  | second (left : ℕ)
  | third (left : ℕ)
  | fourth (left : ℕ)
  deriving DecidableEq

/-- `quad_pos`. -/
def Place.index : Place → ℕ
  | .first => 0
  | .second _ => 1
  | .third _ => 2
  | .fourth _ => 3

/-- The byte a character completes, and the place after it. -/
def Place.take : Place → ℕ → Option UInt8 × Place
  | .first, value => (none, .second value)
  | .second left, value => (some (UInt8.ofNat (left * 4 + value / 16)), .third (value % 16))
  | .third left, value => (some (UInt8.ofNat (left * 16 + value / 4)), .fourth (value % 4))
  | .fourth left, value => (some (UInt8.ofNat (left * 64 + value)), .first)

/-- The loop over the characters. -/
def decodeFrom (place : Place) (pads : ℕ) (padded : Bool) : List Char → Option (List UInt8)
  | [] => if place = .first then some [] else none
  | char :: rest =>
      if char = '=' then
        if 2 ≤ place.index then
          if 4 ≤ place.index + (pads + 1) then if rest = [] then some [] else none
          else decodeFrom place (pads + 1) true rest
        else decodeFrom place pads true rest
      else
        match digitValue char with
        | none => none
        | some value =>
            if padded then none
            else
              (decodeFrom (place.take value).2 0 false rest).map
                fun bytes => (place.take value).1.toList ++ bytes

/-- `binascii.a2b_base64` in strict mode. -/
def decode (text : List Char) : Option (List UInt8) :=
  if text.head? = some '=' then none else decodeFrom .first 0 false text

/-- `binascii.a2b_base64` out of strict mode, from a place in the text: what is not of the alphabet is
skipped, and what follows the padding of a group is not read. -/
def decodeLoosely (place : Place) (pads : ℕ) : List Char → Option (List UInt8)
  | [] => if place = .first then some [] else none
  | char :: rest =>
      if char = '=' then
        if 2 ≤ place.index then
          if 4 ≤ place.index + (pads + 1) then some [] else decodeLoosely place (pads + 1) rest
        else decodeLoosely place pads rest
      else
        match digitValue char with
        | none => decodeLoosely place pads rest
        | some value =>
            (decodeLoosely (place.take value).2 0 rest).map
              fun bytes => (place.take value).1.toList ++ bytes

theorem digitValue_digitChar {value : ℕ} (small : value < 64) :
    digitValue (digitChar value) = some value ∧ digitChar value ≠ '=' := by
  have all : ∀ value < 64, digitValue (digitChar value) = some value ∧ digitChar value ≠ '=' := by
    decide
  exact all value small

/-- One character of the alphabet. -/
theorem decodeFrom_digit {place : Place} {value : ℕ} (small : value < 64) (rest : List Char) :
    decodeFrom place 0 false (digitChar value :: rest) =
      (decodeFrom (place.take value).2 0 false rest).map
        fun bytes => (place.take value).1.toList ++ bytes := by
  obtain ⟨valued, noPad⟩ := digitValue_digitChar small
  rw [decodeFrom, if_neg noPad, valued]
  rfl

theorem ofNat_toNat_of_eq {byte : UInt8} {value : ℕ} (same : value = byte.toNat) :
    UInt8.ofNat value = byte := by
  rw [same, UInt8.ofNat_toNat]

/-- The loop over the text of some bytes returns them. -/
theorem decodeFrom_encode (bytes : List UInt8) :
    decodeFrom .first 0 false (encode bytes) = some bytes := by
  have toNat_lt : ∀ byte : UInt8, byte.toNat < 256 := UInt8.toNat_lt
  induction bytes using encode.induct with
  | case1 => rfl
  | case2 a =>
      have small := toNat_lt a
      have first : a.toNat / 4 * 4 + a.toNat % 4 * 16 / 16 = a.toNat := by omega
      rw [encode, decodeFrom_digit (by omega), Place.take, decodeFrom_digit (by omega),
        Place.take, ofNat_toNat_of_eq first]
      rfl
  | case3 a b =>
      have smallA := toNat_lt a
      have smallB := toNat_lt b
      have first : a.toNat / 4 * 4 + (a.toNat % 4 * 16 + b.toNat / 16) / 16 = a.toNat := by omega
      have second : (a.toNat % 4 * 16 + b.toNat / 16) % 16 * 16 + b.toNat % 16 * 4 / 4 =
          b.toNat := by
        omega
      rw [encode, decodeFrom_digit (by omega), Place.take, decodeFrom_digit (by omega),
        Place.take, decodeFrom_digit (by omega), Place.take, ofNat_toNat_of_eq first,
        ofNat_toNat_of_eq second]
      rfl
  | case4 a b c rest ih =>
      have smallA := toNat_lt a
      have smallB := toNat_lt b
      have smallC := toNat_lt c
      have first : a.toNat / 4 * 4 + (a.toNat % 4 * 16 + b.toNat / 16) / 16 = a.toNat := by omega
      have second : (a.toNat % 4 * 16 + b.toNat / 16) % 16 * 16 +
          (b.toNat % 16 * 4 + c.toNat / 64) / 4 = b.toNat := by
        omega
      have third : (b.toNat % 16 * 4 + c.toNat / 64) % 4 * 64 + c.toNat % 64 = c.toNat := by omega
      rw [encode, decodeFrom_digit (by omega), Place.take, decodeFrom_digit (by omega),
        Place.take, decodeFrom_digit (by omega), Place.take, decodeFrom_digit (by omega),
        Place.take, ih, ofNat_toNat_of_eq first, ofNat_toNat_of_eq second,
        ofNat_toNat_of_eq third]
      rfl

/-- **Round trip.** -/
theorem decode_encode (bytes : List UInt8) : decode (encode bytes) = some bytes := by
  have noPad : (encode bytes).head? ≠ some '=' := by
    have opening : ∀ byte : UInt8, digitChar (byte.toNat / 4) ≠ '=' := by
      intro byte
      have small := UInt8.toNat_lt byte
      exact (digitValue_digitChar (by omega)).2
    cases bytes using encode.induct with
    | case1 => decide
    | case2 a => simpa [encode] using opening a
    | case3 a b => simpa [encode] using opening a
    | case4 a b c rest => simpa [encode] using opening a
  rw [decode, if_neg noPad, decodeFrom_encode]

/-- What the strict loop accepts is decoded alike out of strict mode. -/
theorem decodeLoosely_of_decodeFrom {place : Place} {pads : ℕ} {padded : Bool} {text : List Char}
    {bytes : List UInt8} (decoded : decodeFrom place pads padded text = some bytes) :
    decodeLoosely place pads text = some bytes := by
  induction text generalizing place pads padded bytes with
  | nil => exact decoded
  | cons char rest ih =>
      unfold decodeFrom at decoded
      unfold decodeLoosely
      by_cases pad : char = '='
      · rw [if_pos pad] at decoded ⊢
        by_cases half : 2 ≤ place.index
        · rw [if_pos half] at decoded ⊢
          by_cases complete : 4 ≤ place.index + (pads + 1)
          · rw [if_pos complete] at decoded ⊢
            split at decoded
            · exact decoded
            · cases decoded
          · rw [if_neg complete] at decoded ⊢
            exact ih decoded
        · rw [if_neg half] at decoded ⊢
          exact ih decoded
      · rw [if_neg pad] at decoded ⊢
        cases valued : digitValue char with
        | none =>
            rw [valued] at decoded
            cases decoded
        | some value =>
            simp only [valued] at decoded
            split at decoded
            · cases decoded
            · obtain ⟨later, rest, rfl⟩ := Option.map_eq_some_iff.mp decoded
              exact Option.map_eq_some_iff.mpr ⟨later, ih rest, rfl⟩

/-- The text of some bytes decodes to them out of strict mode too. -/
theorem decodeLoosely_encode (bytes : List UInt8) :
    decodeLoosely .first 0 (encode bytes) = some bytes :=
  decodeLoosely_of_decodeFrom (decodeFrom_encode bytes)

/-- Only the empty text stands for no bytes at all. -/
theorem encode_eq_nil {bytes : List UInt8} : encode bytes = [] ↔ bytes = [] := by
  constructor
  · intro empty
    have decoded := decode_encode bytes
    rw [empty] at decoded
    exact (Option.some.inj decoded).symm
  · rintro rfl
    rfl

end Base64
