import Mathlib.Data.List.TakeWhile
import Mathlib.Data.String.Basic
import Panakoes.Foundation.PyJson

/-! # JSON text

A writer and a reader of JSON text. The writer is parameterised by its style, so
that the same definition covers the writers of several languages. The reader is
the one of Python: integers and floats are told apart by their numerals, the last
of several members with one name counts, `NaN` and the infinities are read, and a
long integer is refused.

How a float is written and how a numeral is rounded to one are parameters. A lone
surrogate escape, which no Lean string can hold, is read as the replacement
character; nesting has no limit.
-/

namespace JsonText

/-! ## Numerals -/

/-- One or more decimal digits. -/
structure Digits where
  chars : List Char
  nonempty : chars ≠ []
  digits : ∀ char ∈ chars, char.isDigit = true

/-- The exponent of a numeral. -/
structure Exponent where
  upper : Bool
  sign : Option Bool
  digits : Digits

/-- A numeral of JSON. -/
structure Numeral where
  negative : Bool
  integer : ℕ
  fraction : Option Digits
  exponent : Option Exponent

/-- A numeral without a fraction and an exponent is an integer. -/
def Numeral.IsFloat (numeral : Numeral) : Prop :=
  numeral.fraction.isSome ∨ numeral.exponent.isSome

instance : DecidablePred Numeral.IsFloat :=
  fun numeral => inferInstanceAs (Decidable (numeral.fraction.isSome ∨ numeral.exponent.isSome))

/-- The sign of an exponent; `true` is minus. -/
def signText : Option Bool → List Char
  | none => []
  | some true => ['-']
  | some false => ['+']

/-- The text of an exponent. -/
def Exponent.text (exponent : Exponent) : List Char :=
  (if exponent.upper then 'E' else 'e') :: (signText exponent.sign ++ exponent.digits.chars)

/-- The text of a fraction, if there is one. -/
def fractionText : Option Digits → List Char
  | none => []
  | some digits => '.' :: digits.chars

/-- The text of an exponent, if there is one. -/
def exponentText : Option Exponent → List Char
  | none => []
  | some exponent => exponent.text

/-- The text of the numeral without its sign. -/
def Numeral.magnitude (numeral : Numeral) : List Char :=
  Nat.toDigits 10 numeral.integer ++
    (fractionText numeral.fraction ++ exponentText numeral.exponent)

/-- The text of a numeral. -/
def Numeral.text (numeral : Numeral) : List Char :=
  if numeral.negative then '-' :: numeral.magnitude else numeral.magnitude

/-- The numeral of an integer. -/
def intNumeral (value : ℤ) : Numeral := ⟨value < 0, value.natAbs, none, none⟩

/-! ## Writing -/

/-- How a writer lays out its text and writes floats. -/
structure Style where
  spaced : Bool
  asciiOnly : Bool
  floatNumeral : ℚ → Numeral

variable (style : Style)

/-- Four hexadecimal digits. -/
def hex4 (unit : ℕ) : List Char :=
  [Nat.digitChar (unit / 4096 % 16), Nat.digitChar (unit / 256 % 16),
    Nat.digitChar (unit / 16 % 16), Nat.digitChar (unit % 16)]

/-- The escape of a UTF-16 unit. -/
def unicodeEscape (unit : ℕ) : List Char := '\\' :: 'u' :: hex4 unit

/-- The escapes that are a single letter. -/
def shortEscapes : List (Char × Char) :=
  [('"', '"'), ('\\', '\\'), ('\n', 'n'), ('\r', 'r'), ('\t', 't'), ('\x0c', 'f'), ('\x08', 'b')]

/-- A character beyond the first plane as a pair of surrogates. -/
def surrogates (code : ℕ) : List Char :=
  unicodeEscape (0xd800 + (code - 0x10000) / 0x400) ++
    unicodeEscape (0xdc00 + (code - 0x10000) % 0x400)

/-- Whether a character without a short escape is written as its code. -/
def Style.Escapes (char : Char) : Prop :=
  char.toNat < 0x20 ∨ (style.asciiOnly = true ∧ 0x7f ≤ char.toNat)

instance : DecidablePred style.Escapes :=
  fun char => inferInstanceAs (Decidable (char.toNat < 0x20 ∨ (_ ∧ 0x7f ≤ char.toNat)))

/-- One character of a string literal. -/
def Style.charText (char : Char) : List Char :=
  match shortEscapes.lookup char with
  | some letter => ['\\', letter]
  | none =>
      if style.Escapes char then
        if char.toNat < 0x10000 then unicodeEscape char.toNat else surrogates char.toNat
      else [char]

/-- A string literal after its opening quote. -/
def Style.stringTail (text : String) : List Char := text.toList.flatMap style.charText ++ ['"']

/-- The space after a comma or a colon. -/
def Style.gap : List Char := if style.spaced then [' '] else []

/-- The text of a float; what is not finite is written as infinite. -/
def Style.floatText : Option ℚ → List Char
  | some value => (style.floatNumeral value).text
  | none => "Infinity".toList

mutual

/-- The text of a value. -/
def Style.write : PyJson → List Char
  | .none => "null".toList
  | .bool true => "true".toList
  | .bool false => "false".toList
  | .int value => (intNumeral value).text
  | .float value => style.floatText value
  | .str text => '"' :: style.stringTail text
  | .list [] => ['[', ']']
  | .list (item :: rest) => '[' :: (Style.write item ++ Style.writeItems rest)
  | .dict [] => ['{', '}']
  | .dict ((key, value) :: rest) =>
      '{' :: '"' :: (style.stringTail key ++
        (':' :: (style.gap ++ (Style.write value ++ Style.writeMembers rest))))

/-- What follows an item of a list. -/
def Style.writeItems : List PyJson → List Char
  | [] => [']']
  | item :: rest => ',' :: (style.gap ++ (Style.write item ++ Style.writeItems rest))

/-- What follows a member of an object. -/
def Style.writeMembers : List (String × PyJson) → List Char
  | [] => ['}']
  | (key, value) :: rest =>
      ',' :: (style.gap ++ ('"' :: (style.stringTail key ++
        (':' :: (style.gap ++ (Style.write value ++ Style.writeMembers rest))))))

end

/-- The text of a value, as a string. -/
def dumps (value : PyJson) : String := String.ofList (style.write value)

/-! ## Reading -/

/-- The whitespace of JSON. -/
def isSpace (char : Char) : Bool := char = ' ' ∨ char = '\t' ∨ char = '\n' ∨ char = '\r'

/-- Skip whitespace. -/
def skipSpaces (text : List Char) : List Char := text.dropWhile isSpace

/-- Read as many digits as there are. -/
def scanDigits (text : List Char) : Option (Digits × List Char) :=
  if nonempty : text.takeWhile Char.isDigit = [] then none
  else
    some (⟨text.takeWhile Char.isDigit, nonempty, fun _ => List.mem_takeWhile_imp⟩,
      text.dropWhile Char.isDigit)

/-- Read a fraction, if there is one. -/
def scanFraction : List Char → Option Digits × List Char
  | [] => (none, [])
  | head :: rest =>
      if head = '.' then
        match scanDigits rest with
        | some (digits, rest) => (some digits, rest)
        | none => (none, head :: rest)
      else (none, head :: rest)

/-- Read the sign of an exponent. -/
def scanSign : List Char → Option Bool × List Char
  | [] => (none, [])
  | head :: rest =>
      if head = '-' then (some true, rest)
      else if head = '+' then (some false, rest)
      else (none, head :: rest)

/-- Read an exponent, if there is one. -/
def scanExponent : List Char → Option Exponent × List Char
  | [] => (none, [])
  | head :: rest =>
      if head = 'e' ∨ head = 'E' then
        match scanDigits (scanSign rest).2 with
        | some (digits, after) => (some ⟨head = 'E', (scanSign rest).1, digits⟩, after)
        | none => (none, head :: rest)
      else (none, head :: rest)

/-- Read a numeral without its sign. Leading zeros are not part of a numeral. -/
def scanMagnitude (negative : Bool) (text : List Char) : Option (Numeral × List Char) :=
  match scanDigits text with
  | none => none
  | some (digits, rest) =>
      let integer := Nat.ofDigitChars 10 digits.chars 0
      if Nat.toDigits 10 integer = digits.chars then
        let (fraction, rest) := scanFraction rest
        let (exponent, rest) := scanExponent rest
        some (⟨negative, integer, fraction, exponent⟩, rest)
      else none

/-- Read a numeral. -/
def scanNumeral : List Char → Option (Numeral × List Char)
  | [] => none
  | head :: rest =>
      if head = '-' then scanMagnitude true rest else scanMagnitude false (head :: rest)

/-- The value of a hexadecimal digit. -/
def hexValue (char : Char) : Option ℕ :=
  if '0' ≤ char ∧ char ≤ '9' then some (char.toNat - 48)
  else if 'a' ≤ char ∧ char ≤ 'f' then some (char.toNat - 87)
  else if 'A' ≤ char ∧ char ≤ 'F' then some (char.toNat - 55)
  else none

/-- Read four hexadecimal digits. -/
def scanHex4 : List Char → Option (ℕ × List Char)
  | first :: second :: third :: fourth :: rest =>
      match hexValue first, hexValue second, hexValue third, hexValue fourth with
      | some a, some b, some c, some d => some (4096 * a + 256 * b + 16 * c + d, rest)
      | _, _, _, _ => none
  | _ => none

/-- The unit opens a pair of surrogates. -/
def IsHigh (unit : ℕ) : Prop := 0xd800 ≤ unit ∧ unit < 0xdc00

/-- The unit closes a pair of surrogates. -/
def IsLow (unit : ℕ) : Prop := 0xdc00 ≤ unit ∧ unit < 0xe000

instance : DecidablePred IsHigh := fun _ => inferInstanceAs (Decidable (_ ∧ _))

instance : DecidablePred IsLow := fun _ => inferInstanceAs (Decidable (_ ∧ _))

/-- The character of a unit that belongs to no pair. -/
def unitChar (unit : ℕ) : Char := if IsHigh unit ∨ IsLow unit then '\ufffd' else Char.ofNat unit

/-- Read the unit that may follow a high surrogate. -/
def scanLow (high : ℕ) : List Char → Option (Char × List Char)
  | '\\' :: 'u' :: rest =>
      match scanHex4 rest with
      | none => none
      | some (low, after) =>
          if IsLow low then
            some (Char.ofNat (0x10000 + (high - 0xd800) * 0x400 + (low - 0xdc00)), after)
          else some ('\ufffd', '\\' :: 'u' :: rest)
  | rest => some ('\ufffd', rest)

/-- Read one character of a string literal. -/
def scanChar : List Char → Option (Char × List Char)
  | [] => none
  | head :: rest =>
      if head = '\\' then
        match rest with
        | [] => none
        | letter :: rest =>
            if letter = 'u' then
              match scanHex4 rest with
              | none => none
              | some (unit, rest) =>
                  if IsHigh unit then scanLow unit rest else some (unitChar unit, rest)
            else if letter = '/' then some ('/', rest)
            else (shortEscapes.find? (·.2 = letter)).map fun escape => (escape.1, rest)
      else if head.toNat < 0x20 ∨ head = '"' then none
      else some (head, rest)

/-- Read a string literal after its opening quote. -/
def scanString : ℕ → List Char → Option (List Char × List Char)
  | 0, _ => none
  | _, [] => none
  | fuel + 1, head :: rest =>
      if head = '"' then some ([], rest)
      else
        match scanChar (head :: rest) with
        | none => none
        | some (char, rest) => (scanString fuel rest).map fun read => (char :: read.1, read.2)

/-- `sys.int_info.default_max_str_digits`. -/
def maxStrDigits : ℕ := 4300

variable (read : Numeral → Option ℚ)

/-- The value of a numeral. -/
def Numeral.value (numeral : Numeral) : Except PyError PyJson :=
  if numeral.IsFloat then .ok (.float (read numeral))
  else if (Nat.toDigits 10 numeral.integer).length ≤ maxStrDigits then
    .ok (.int (if numeral.negative then -numeral.integer else numeral.integer))
  else .error .valueError

/-- The values that are words. -/
def words : List (List Char × PyJson) :=
  [("null".toList, .none), ("true".toList, .bool true), ("false".toList, .bool false),
    ("NaN".toList, .float none), ("Infinity".toList, .float none),
    ("-Infinity".toList, .float none)]

/-- Read a word or a numeral. -/
def parseScalar (text : List Char) : Except PyError (PyJson × List Char) :=
  match words.find? fun word => word.1.isPrefixOf text with
  | some (word, value) => .ok (value, text.drop word.length)
  | none =>
      match scanNumeral text with
      | none => .error .jsonDecodeError
      | some (numeral, rest) => (numeral.value read).map fun value => (value, rest)

mutual

/-- Read a value. -/
def parseValue : ℕ → List Char → Except PyError (PyJson × List Char)
  | 0, _ => .error .jsonDecodeError
  | _, [] => .error .jsonDecodeError
  | fuel + 1, head :: rest =>
      if head = '"' then
        match scanString (rest.length + 1) rest with
        | none => .error .jsonDecodeError
        | some (chars, rest) => .ok (.str (String.ofList chars), rest)
      else if head = '[' then
        match skipSpaces rest with
        | [] => .error .jsonDecodeError
        | next :: rest =>
            if next = ']' then .ok (.list [], rest)
            else
              match parseItems fuel (next :: rest) with
              | .error error => .error error
              | .ok (items, rest) => .ok (.list items, rest)
      else if head = '{' then
        match skipSpaces rest with
        | [] => .error .jsonDecodeError
        | next :: rest =>
            if next = '}' then .ok (.dict [], rest)
            else
              match parseMembers fuel (next :: rest) with
              | .error error => .error error
              | .ok (members, rest) =>
                  .ok (.dict (members.foldl (fun entries member =>
                    PyJson.set entries member.1 member.2) []), rest)
      else parseScalar read (head :: rest)

/-- Read the items of a list up to its end. -/
def parseItems : ℕ → List Char → Except PyError (List PyJson × List Char)
  | 0, _ => .error .jsonDecodeError
  | fuel + 1, text =>
      match parseValue fuel text with
      | .error error => .error error
      | .ok (item, rest) =>
          match skipSpaces rest with
          | [] => .error .jsonDecodeError
          | next :: rest =>
              if next = ']' then .ok ([item], rest)
              else if next = ',' then
                match parseItems fuel (skipSpaces rest) with
                | .error error => .error error
                | .ok (items, rest) => .ok (item :: items, rest)
              else .error .jsonDecodeError

/-- Read the members of an object up to its end. -/
def parseMembers : ℕ → List Char → Except PyError (List (String × PyJson) × List Char)
  | 0, _ => .error .jsonDecodeError
  | _, [] => .error .jsonDecodeError
  | fuel + 1, head :: rest =>
      match if head = '"' then scanString (rest.length + 1) rest else none with
      | none => .error .jsonDecodeError
      | some (key, rest) =>
          match skipSpaces rest with
          | [] => .error .jsonDecodeError
          | next :: rest =>
              if next = ':' then
                match parseValue fuel (skipSpaces rest) with
                | .error error => .error error
                | .ok (value, rest) =>
                    match skipSpaces rest with
                    | [] => .error .jsonDecodeError
                    | next :: rest =>
                        if next = '}' then .ok ([(String.ofList key, value)], rest)
                        else if next = ',' then
                          match parseMembers fuel (skipSpaces rest) with
                          | .error error => .error error
                          | .ok (members, rest) =>
                              .ok ((String.ofList key, value) :: members, rest)
                        else .error .jsonDecodeError
              else .error .jsonDecodeError

end

/-- `json.loads`. A level takes two units of fuel and a character at least. -/
def loads (text : String) : Except PyError PyJson :=
  let chars := skipSpaces text.toList
  match parseValue read (2 * chars.length + 1) chars with
  | .error error => .error error
  | .ok (value, rest) =>
      if skipSpaces rest = [] then .ok value else .error .jsonDecodeError

theorem loads_ofList (chars : List Char) :
    loads read (String.ofList chars) =
      match parseValue read (2 * (skipSpaces chars).length + 1) (skipSpaces chars) with
      | .error error => .error error
      | .ok (value, rest) =>
          if skipSpaces rest = [] then .ok value else .error .jsonDecodeError := by
  rw [loads, String.toList_ofList]

end JsonText
