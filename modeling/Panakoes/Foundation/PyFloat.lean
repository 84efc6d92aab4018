import Mathlib.Algebra.Order.Field.Rat
import Panakoes.Foundation.PyDecimal
import Panakoes.Foundation.PyJson
import Panakoes.Foundation.PyValue

/-! # Conversions to float

`float(value)` of Python, on decoded JSON values. Texts are read as numerals with digits of Unicode,
underscores between digits and whitespace at the ends. Rounding to the nearest float is a parameter,
which gives no value where the number is too large, and a float that is not finite is `none`.
-/

namespace PyFloat

open PyDecimal (digit? takeSign takeDigits exponent? ofDigits)

/-- The whitespace at the ends of a number. -/
def isSpace (char : Char) : Bool :=
  PyDecimal.isSpace char ∧ ¬ (28 ≤ char.toNat ∧ char.toNat ≤ 31)

/-- The characters without underscores, each of which stands between two digits. -/
def ungrouped : Option Char → List Char → Option (List Char)
  | last, [] => if last = some '_' then none else some []
  | last, char :: rest =>
      if char = '_' then
        if (last.bind digit?).isSome then ungrouped (some '_') rest else none
      else if last = some '_' ∧ (digit? char).isNone then none
      else (ungrouped (some char) rest).map (char :: ·)

/-- A number without its sign; one that is not finite is `none`. -/
def unsigned? (chars : List Char) : Option (Option ℚ) :=
  let (whole, rest) := takeDigits chars
  let (fraction, rest) :=
    match rest with
    | '.' :: rest => takeDigits rest
    | rest => ([], rest)
  if whole = [] ∧ fraction = [] then
    let word := chars.map Char.toLower
    if word = "inf".toList ∨ word = "infinity".toList ∨ word = "nan".toList then some none
    else none
  else
    (exponent? rest).map fun exponent =>
      some ((ofDigits (whole ++ fraction) : ℚ) * (10 : ℚ) ^ (exponent - (fraction.length : ℤ)))

variable (round : ℚ → Option ℚ)

/-- `float(text)`, or `none` for a `ValueError`. A number that is too large is infinite. -/
def ofText (text : String) : Option (Option ℚ) := do
  let stripped := ((text.toList.dropWhile isSpace).reverse.dropWhile isSpace).reverse
  let chars ← ungrouped none stripped
  let (negative, rest) := takeSign chars
  let magnitude ← unsigned? rest
  return magnitude.bind fun value => round (if negative then -value else value)

/-- What `float` raises. -/
inductive Failure where
  | typeError
  | valueError
  | overflowError
  deriving DecidableEq

/-- `float(value)`. -/
def ofJson : PyJson → Except Failure (Option ℚ)
  | .bool value => .ok (some (if value then 1 else 0))
  | .int value =>
      match round value with
      | some rounded => .ok (some rounded)
      | none => .error .overflowError
  | .float value => .ok value
  | .str text =>
      match ofText round text with
      | some value => .ok value
      | none => .error .valueError
  | .none | .list _ | .dict _ => .error .typeError

example : ofText some " 1_0.5e1" = some (some 105) := by decide +kernel

example : ofText some "1__0" = none := by decide +kernel

end PyFloat

/-! ## Conversions to integer

`int(value)` of Python. Numbers are cut off towards zero. A text is a numeral with digits of Unicode,
underscores between digits and whitespace at the ends; it has a limit of digits.
-/

namespace PyInt

open PyDecimal (takeSign takeDigits ofDigits)

/-- The most digits of a numeral. -/
def maxStrDigits : ℕ := 4300

/-- `int(text)`, or `none` for a `ValueError`. -/
def ofText (text : String) : Option ℤ := do
  let stripped :=
    ((text.toList.dropWhile PyFloat.isSpace).reverse.dropWhile PyFloat.isSpace).reverse
  let chars ← PyFloat.ungrouped none stripped
  let (negative, rest) := takeSign chars
  match takeDigits rest with
  | ([], _) | (_, _ :: _) => none
  | (digits, []) =>
      if digits.length ≤ maxStrDigits then
        some (if negative then -(ofDigits digits : ℤ) else ofDigits digits)
      else none

/-- A number cut off towards zero. -/
def truncate (value : ℚ) : ℤ := value.num.tdiv value.den

/-- `int(value)`. -/
def ofValue : PyValue → Except PyError ℤ
  | .bool value => .ok (if value then 1 else 0)
  | .int value => .ok value
  | .float (some value) => .ok (truncate value)
  | .decimal decimal =>
      match decimal.rat with
      | some value => .ok (truncate value)
      | none => .error .other
  | .str text =>
      match ofText text with
      | some value => .ok value
      | none => .error .valueError
  | .float none | .none | .list _ | .dict _ => .error .other

example : ofText " -1_0 " = some (-10) := by decide +kernel

end PyInt
