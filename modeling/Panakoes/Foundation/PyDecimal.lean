import Mathlib.Data.List.Basic
import Panakoes.Foundation.Rounding

/-! # Decimal numbers

The decimal numbers of a language with arbitrary-precision decimals: reading one from a text,
multiplying with a precision of 28 digits, and quantizing to an integer. Reading is exact; a
text that is no number, or whose exponent is out of all bounds, is refused. Arithmetic raises
where a result is no number or does not fit.
-/

/-- A decimal number. A finite one is `± coefficient · 10 ^ exponent`. -/
inductive PyDecimal where
  | finite (negative : Bool) (coefficient : ℕ) (exponent : ℤ)
  | infinity (negative : Bool)
  | nan (signaling : Bool)
  deriving DecidableEq

namespace PyDecimal

/-! ## Reading a text -/

/-- The zeros of the decimal digits of Unicode; nine digits follow each of them. -/
def zeros : List ℕ :=
  [0x30, 0x660, 0x6F0, 0x7C0, 0x966, 0x9E6, 0xA66, 0xAE6, 0xB66, 0xBE6, 0xC66, 0xCE6, 0xD66,
    0xDE6, 0xE50, 0xED0, 0xF20, 0x1040, 0x1090, 0x17E0, 0x1810, 0x1946, 0x19D0, 0x1A80, 0x1A90,
    0x1B50, 0x1BB0, 0x1C40, 0x1C50, 0xA620, 0xA8D0, 0xA900, 0xA9D0, 0xA9F0, 0xAA50, 0xABF0,
    0xFF10, 0x104A0, 0x10D30, 0x11066, 0x110F0, 0x11136, 0x111D0, 0x112F0, 0x11450, 0x114D0,
    0x11650, 0x116C0, 0x11730, 0x118E0, 0x11950, 0x11C50, 0x11D50, 0x11DA0, 0x11F50, 0x16A60,
    0x16AC0, 0x16B50, 0x1D7CE, 0x1D7D8, 0x1D7E2, 0x1D7EC, 0x1D7F6, 0x1E140, 0x1E2F0, 0x1E4F0,
    0x1E950, 0x1FBF0]

/-- The value of a decimal digit. -/
def digit? (char : Char) : Option ℕ :=
  (zeros.find? fun first => first ≤ char.toNat ∧ char.toNat < first + 10).map (char.toNat - ·)

/-- The whitespace at the ends of a number. -/
def isSpace (char : Char) : Bool :=
  let code := char.toNat
  (9 ≤ code ∧ code ≤ 13) ∨ (28 ≤ code ∧ code ≤ 32) ∨ code = 133 ∨ code = 160 ∨ code = 5760 ∨
    (8192 ≤ code ∧ code ≤ 8202) ∨ code = 8232 ∨ code = 8233 ∨ code = 8239 ∨ code = 8287 ∨
    code = 12288

/-- A text without the whitespace at its ends and without underscores. -/
def cleaned (text : String) : List Char :=
  let stripped := ((text.toList.dropWhile isSpace).reverse.dropWhile isSpace).reverse
  stripped.filter (· ≠ '_')

/-- The digits at the start of a text, and what follows them. -/
def takeDigits (chars : List Char) : List ℕ × List Char :=
  ((chars.takeWhile fun char => (digit? char).isSome).filterMap digit?,
    chars.dropWhile fun char => (digit? char).isSome)

/-- The number that digits write. -/
def ofDigits (digits : List ℕ) : ℕ := digits.foldl (fun value digit => 10 * value + digit) 0

/-- A sign, if there is one. -/
def takeSign : List Char → Bool × List Char
  | '-' :: rest => (true, rest)
  | '+' :: rest => (false, rest)
  | rest => (false, rest)

/-- The exponent at the end of a number. -/
def exponent? : List Char → Option ℤ
  | [] => some 0
  | indicator :: rest =>
      if indicator.toLower = 'e' then
        let (negative, rest) := takeSign rest
        match takeDigits rest with
        | ([], _) | (_, _ :: _) => none
        | (digits, []) => some (if negative then -ofDigits digits else ofDigits digits)
      else none

/-- `MAX_EMAX`. -/
def maxEmax : ℤ := 999999999999999999

/-- A finite number that can be held without rounding. -/
def bounded? (negative : Bool) (coefficient : ℕ) (exponent : ℤ) : Option PyDecimal :=
  if exponent + (Nat.toDigits 10 coefficient).length - 1 ≤ maxEmax ∧
      1 - 2 * maxEmax ≤ exponent then
    some (.finite negative coefficient exponent)
  else none

/-- A number without its sign. -/
def unsigned? (negative : Bool) (chars : List Char) : Option PyDecimal :=
  let (whole, rest) := takeDigits chars
  let (fraction, rest) :=
    match rest with
    | '.' :: rest => takeDigits rest
    | rest => ([], rest)
  if whole = [] ∧ fraction = [] then
    let word := chars.map Char.toLower
    if word = "inf".toList ∨ word = "infinity".toList then some (.infinity negative)
    else if word.take 3 = "nan".toList ∧ (takeDigits (chars.drop 3)).2 = [] then some (.nan false)
    else if word.take 4 = "snan".toList ∧ (takeDigits (chars.drop 4)).2 = [] then some (.nan true)
    else none
  else
    (exponent? rest).bind fun exponent =>
      bounded? negative (ofDigits (whole ++ fraction)) (exponent - fraction.length)

/-- `Decimal(text)`, or `none` where it raises. -/
def parse (text : String) : Option PyDecimal :=
  let (negative, rest) := takeSign (cleaned text)
  unsigned? negative rest

/-! ## Arithmetic -/

/-- The precision of the context. -/
def precision : ℕ := 28

/-- A coefficient rounded to the precision, ties to even, and the digits dropped from it. -/
def roundCoefficient (coefficient : ℕ) : ℕ × ℕ :=
  let dropped := (Nat.toDigits 10 coefficient).length - precision
  ((Rounding.halfEven ((coefficient : ℚ) / 10 ^ dropped)).toNat, dropped)

/-- The magnitude as an integer, ties away from zero. -/
def roundHalfUp (coefficient : ℕ) : ℤ → ℕ
  | .ofNat exponent => coefficient * 10 ^ exponent
  | .negSucc exponent => (2 * coefficient + 10 ^ (exponent + 1)) / (2 * 10 ^ (exponent + 1))

/-- The magnitude of `(value * factor).quantize(Decimal("1"), ROUND_HALF_UP)` for a finite value,
or `none` where it raises: the result has more digits than the precision. -/
def scaledToInt (coefficient factor : ℕ) (exponent : ℤ) : Option ℕ :=
  let (rounded, dropped) := roundCoefficient (coefficient * factor)
  let magnitude := roundHalfUp rounded (exponent + dropped)
  if magnitude < 10 ^ precision then some magnitude else none

end PyDecimal
