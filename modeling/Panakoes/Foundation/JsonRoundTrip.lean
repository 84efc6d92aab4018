import Panakoes.Foundation.JsonText

/-! # JSON round trips

What is written in a style is read back.
-/

namespace JsonText

variable {style : Style} {read : Numeral → Option ℚ} {rest : List Char}

/-! ## Numerals -/

/-- No character of a numeral comes next. -/
def Ends (rest : List Char) : Prop :=
  ∀ char ∈ rest.head?, char.isDigit = false ∧ char ≠ '.' ∧ char ≠ 'e' ∧ char ≠ 'E'

theorem Ends.nil : Ends [] := by
  rintro char ⟨⟩

theorem Ends.cons {head : Char} {tail : List Char}
    (ends : head.isDigit = false ∧ head ≠ '.' ∧ head ≠ 'e' ∧ head ≠ 'E') :
    Ends (head :: tail) := by
  rintro char ⟨⟩
  exact ends

theorem scanDigits_append (digits : Digits)
    (stops : ∀ char ∈ rest.head?, char.isDigit = false) :
    scanDigits (digits.chars ++ rest) = some (digits, rest) := by
  have taken : rest.takeWhile Char.isDigit = [] := by
    cases rest with
    | nil => rfl
    | cons head tail => exact List.takeWhile_cons_of_neg (by simp [stops head rfl])
  have left : rest.dropWhile Char.isDigit = rest := by
    cases rest with
    | nil => rfl
    | cons head tail => exact List.dropWhile_cons_of_neg (by simp [stops head rfl])
  have whole : (digits.chars ++ rest).takeWhile Char.isDigit = digits.chars := by
    rw [List.takeWhile_append_of_pos digits.digits, taken, List.append_nil]
  have after : (digits.chars ++ rest).dropWhile Char.isDigit = rest := by
    rw [List.dropWhile_append_of_pos digits.digits, left]
  unfold scanDigits
  rw [dif_neg (by rw [whole]; exact digits.nonempty)]
  simp only [whole, after]

theorem exponentText_head {exponent : Option Exponent} (ends : Ends rest) :
    ∀ char ∈ (exponentText exponent ++ rest).head?, char.isDigit = false ∧ char ≠ '.' := by
  cases exponent with
  | none =>
      intro char held
      exact ⟨(ends char held).1, (ends char held).2.1⟩
  | some exponent =>
      rintro char held
      rw [exponentText, Exponent.text, List.cons_append, List.head?_cons] at held
      cases held
      cases exponent.upper <;> decide

theorem fractionText_head {fraction : Option Digits} {exponent : Option Exponent}
    (ends : Ends rest) :
    ∀ char ∈ (fractionText fraction ++ (exponentText exponent ++ rest)).head?,
      char.isDigit = false := by
  cases fraction with
  | none => exact fun char held => (exponentText_head ends char held).1
  | some digits =>
      rintro char ⟨⟩
      decide

theorem scanFraction_append {fraction : Option Digits}
    (stops : ∀ char ∈ rest.head?, char.isDigit = false ∧ char ≠ '.') :
    scanFraction (fractionText fraction ++ rest) = (fraction, rest) := by
  cases fraction with
  | none =>
      cases rest with
      | nil => rfl
      | cons head tail =>
          rw [fractionText, List.nil_append, scanFraction, if_neg (stops head rfl).2]
  | some digits =>
      rw [fractionText, List.cons_append, scanFraction, if_pos rfl,
        scanDigits_append digits fun char held => (stops char held).1]

theorem scanSign_append (sign : Option Bool) (digits : Digits) :
    scanSign (signText sign ++ (digits.chars ++ rest)) = (sign, digits.chars ++ rest) := by
  cases sign with
  | some negative => cases negative <;> rfl
  | none =>
      obtain ⟨head, tail, chars⟩ := List.exists_cons_of_ne_nil digits.nonempty
      have digit : head.isDigit = true := digits.digits head (by rw [chars]; exact List.mem_cons_self)
      rw [signText, List.nil_append, chars, List.cons_append, scanSign,
        if_neg (by rintro rfl; cases digit), if_neg (by rintro rfl; cases digit)]

theorem scanExponent_append {exponent : Option Exponent} (ends : Ends rest) :
    scanExponent (exponentText exponent ++ rest) = (exponent, rest) := by
  cases exponent with
  | none =>
      cases rest with
      | nil => rfl
      | cons head tail =>
          have other : ¬ (head = 'e' ∨ head = 'E') := not_or.mpr (ends head rfl).2.2
          rw [exponentText, List.nil_append, scanExponent, if_neg other]
  | some exponent =>
      obtain ⟨upper, sign, digits⟩ := exponent
      have scanned := scanDigits_append digits fun char held => (ends char held).1
      have marker : (if upper then 'E' else 'e') = 'e' ∨ (if upper then 'E' else 'e') = 'E' := by
        cases upper
        · exact Or.inl rfl
        · exact Or.inr rfl
      rw [exponentText, Exponent.text, List.cons_append, List.append_assoc, scanExponent,
        if_pos marker, scanSign_append, scanned]
      cases upper <;> rfl

theorem scanMagnitude_append (numeral : Numeral) (ends : Ends rest) :
    scanMagnitude numeral.negative (numeral.magnitude ++ rest) = some (numeral, rest) := by
  obtain ⟨negative, integer, fraction, exponent⟩ := numeral
  have digits : ∀ char ∈ Nat.toDigits 10 integer, char.isDigit = true :=
    fun char => Nat.isDigit_of_mem_toDigits (by decide) (by decide)
  have scanned := scanDigits_append ⟨Nat.toDigits 10 integer, Nat.toDigits_ne_nil, digits⟩
    (@fractionText_head _ fraction exponent ends)
  rw [Numeral.magnitude, List.append_assoc, List.append_assoc, scanMagnitude, scanned]
  simp only [Nat.ofDigitChars_ten_toDigits, if_pos,
    scanFraction_append (exponentText_head ends), scanExponent_append ends]

/-- The text of a numeral starts with a digit or a minus and a digit. -/
theorem Numeral.text_cases (numeral : Numeral) :
    ∃ digit tail, digit.isDigit = true ∧ numeral.magnitude = digit :: tail := by
  obtain ⟨digit, tail, chars⟩ :=
    List.exists_cons_of_ne_nil (Nat.toDigits_ne_nil (n := numeral.integer) (b := 10))
  have isDigit : digit.isDigit = true :=
    Nat.isDigit_of_mem_toDigits (b := 10) (n := numeral.integer) (by decide) (by decide)
      (by rw [chars]; exact List.mem_cons_self)
  exact ⟨digit, _, isDigit, by rw [Numeral.magnitude, chars, List.cons_append]⟩

theorem scanNumeral_append (numeral : Numeral) (ends : Ends rest) :
    scanNumeral (numeral.text ++ rest) = some (numeral, rest) := by
  have scanned := scanMagnitude_append numeral ends
  unfold Numeral.text
  cases sign : numeral.negative with
  | true =>
      rw [sign] at scanned
      rw [if_pos rfl, List.cons_append, scanNumeral, if_pos rfl, scanned]
  | false =>
      obtain ⟨digit, tail, isDigit, magnitude⟩ := numeral.text_cases
      rw [sign, magnitude, List.cons_append] at scanned
      rw [if_neg Bool.false_ne_true, magnitude, List.cons_append, scanNumeral,
        if_neg (by rintro rfl; cases isDigit), scanned]

/-! ## Strings -/

theorem hexValue_digitChar {digit : ℕ} (small : digit < 16) :
    hexValue (Nat.digitChar digit) = some digit := by
  have all : ∀ digit < 16, hexValue (Nat.digitChar digit) = some digit := by decide
  exact all digit small

theorem scanHex4_append {unit : ℕ} (small : unit < 0x10000) :
    scanHex4 (hex4 unit ++ rest) = some (unit, rest) := by
  have digits : 4096 * (unit / 4096 % 16) + 256 * (unit / 256 % 16) + 16 * (unit / 16 % 16) +
      unit % 16 = unit := by
    omega
  simp only [hex4, List.cons_append, List.nil_append, scanHex4,
    hexValue_digitChar (Nat.mod_lt _ (Nat.succ_pos 15)), digits]

/-- The code of a character is no surrogate. -/
theorem toNat_valid (char : Char) :
    char.toNat < 0xd800 ∨ (0xe000 ≤ char.toNat ∧ char.toNat < 0x110000) := by
  have valid : char.toNat < 0xd800 ∨ (0xdfff < char.toNat ∧ char.toNat < 0x110000) := char.valid
  omega

theorem scanChar_unicodeEscape (char : Char) (small : char.toNat < 0x10000) :
    scanChar (unicodeEscape char.toNat ++ rest) = some (char, rest) := by
  have valid := toNat_valid char
  have high : ¬ IsHigh char.toNat := by
    unfold IsHigh
    omega
  have low : ¬ IsLow char.toNat := by
    unfold IsLow
    omega
  simp only [unicodeEscape, List.cons_append, scanChar, if_pos, scanHex4_append small,
    if_neg high, unitChar, if_neg (not_or.mpr ⟨high, low⟩), Char.ofNat_toNat]

theorem scanChar_surrogates (char : Char) (large : 0x10000 ≤ char.toNat) :
    scanChar (surrogates char.toNat ++ rest) = some (char, rest) := by
  have valid := toNat_valid char
  have high : IsHigh (0xd800 + (char.toNat - 0x10000) / 0x400) := by
    unfold IsHigh
    omega
  have low : IsLow (0xdc00 + (char.toNat - 0x10000) % 0x400) := by
    unfold IsLow
    omega
  have code : 0x10000 + (0xd800 + (char.toNat - 0x10000) / 0x400 - 0xd800) * 0x400 +
      (0xdc00 + (char.toNat - 0x10000) % 0x400 - 0xdc00) = char.toNat := by
    omega
  simp only [surrogates, unicodeEscape, List.cons_append, List.append_assoc, scanChar, if_pos,
    scanHex4_append (lt_trans high.2 (by decide)), if_pos high, scanLow,
    scanHex4_append (lt_trans low.2 (by decide)), if_pos low, code, Char.ofNat_toNat]

/-- A character of a literal is read back. -/
theorem scanChar_append (style : Style) (rest : List Char) (char : Char) :
    scanChar (style.charText char ++ rest) = some (char, rest) := by
  unfold Style.charText
  split
  · rename_i letter found
    have member : (char, letter) ∈ shortEscapes := by
      obtain ⟨before, after, split, _⟩ := List.lookup_eq_some_iff.mp found
      rw [split]
      exact List.mem_append_right _ List.mem_cons_self
    simp only [shortEscapes, List.mem_cons, Prod.mk.injEq, List.not_mem_nil, or_false] at member
    rcases member with ⟨rfl, rfl⟩ | ⟨rfl, rfl⟩ | ⟨rfl, rfl⟩ | ⟨rfl, rfl⟩ | ⟨rfl, rfl⟩ |
      ⟨rfl, rfl⟩ | ⟨rfl, rfl⟩ <;> rfl
  · rename_i missing
    split
    · split
      · rename_i small
        exact scanChar_unicodeEscape char small
      · rename_i large
        exact scanChar_surrogates char (Nat.le_of_not_lt large)
    · rename_i plain
      have noEscape : char ≠ '\\' := by
        rintro rfl
        cases missing
      have noQuote : char ≠ '"' := by
        rintro rfl
        cases missing
      have visible : ¬ char.toNat < 0x20 := fun control => plain (Or.inl control)
      unfold scanChar
      simp only [List.cons_append, List.nil_append, if_neg noEscape,
        if_neg (not_or.mpr ⟨visible, noQuote⟩)]

/-- No character is written with a quote in front. -/
theorem charText_cons (style : Style) (char : Char) :
    ∃ head tail, style.charText char = head :: tail ∧ head ≠ '"' := by
  unfold Style.charText
  split
  · exact ⟨_, _, rfl, by decide⟩
  · rename_i missing
    split
    · split
      · exact ⟨_, _, rfl, by decide⟩
      · exact ⟨_, _, rfl, by decide⟩
    · refine ⟨_, _, rfl, ?_⟩
      rintro rfl
      cases missing

theorem scanString_flatMap (chars : List Char) :
    ∀ fuel, chars.length < fuel →
      scanString fuel (chars.flatMap style.charText ++ '"' :: rest) = some (chars, rest) := by
  induction chars with
  | nil =>
      intro fuel enough
      obtain ⟨fuel, rfl⟩ := Nat.exists_eq_add_one_of_ne_zero (Nat.ne_of_gt enough)
      rfl
  | cons char chars ih =>
      intro fuel enough
      obtain ⟨fuel, rfl⟩ := Nat.exists_eq_add_one_of_ne_zero (Nat.ne_of_gt (Nat.zero_lt_of_lt enough))
      obtain ⟨head, tail, text, other⟩ := charText_cons style char
      have scanned := scanChar_append style (chars.flatMap style.charText ++ '"' :: rest) char
      rw [text, List.cons_append] at scanned
      rw [List.flatMap_cons, List.append_assoc, text, List.cons_append, scanString, if_neg other,
        scanned]
      dsimp only
      rw [ih fuel (Nat.lt_of_succ_lt_succ enough)]
      rfl

theorem length_le_flatMap (style : Style) (chars : List Char) :
    chars.length ≤ (chars.flatMap style.charText).length := by
  induction chars with
  | nil => exact Nat.zero_le _
  | cons char chars ih =>
      obtain ⟨head, tail, text, -⟩ := charText_cons style char
      rw [List.flatMap_cons, text, List.length_append, List.length_cons, List.length_cons]
      omega

/-- A string literal is read back. -/
theorem scanString_append (text : String) :
    scanString ((style.stringTail text ++ rest).length + 1) (style.stringTail text ++ rest) =
      some (text.toList, rest) := by
  have short := length_le_flatMap style text.toList
  rw [Style.stringTail, List.append_assoc, List.singleton_append]
  apply scanString_flatMap
  rw [List.length_append]
  omega

/-! ## Values -/

/-- The value can be written in the style so that it reads back. -/
inductive Written (style : Style) (read : Numeral → Option ℚ) : PyJson → Prop
  | none : Written style read .none
  | bool (value : Bool) : Written style read (.bool value)
  | int (value : ℤ) (short : (Nat.toDigits 10 value.natAbs).length ≤ maxStrDigits) :
      Written style read (.int value)
  | notFinite : Written style read (.float none)
  | float (value : ℚ) (isFloat : (style.floatNumeral value).IsFloat)
      (readBack : read (style.floatNumeral value) = some value) :
      Written style read (.float (some value))
  | str (text : String) : Written style read (.str text)
  | list {items : List PyJson} (all : ∀ item ∈ items, Written style read item) :
      Written style read (.list items)
  | dict {entries : List (String × PyJson)} (distinct : (entries.map Prod.fst).Nodup)
      (all : ∀ entry ∈ entries, Written style read entry.2) : Written style read (.dict entries)

theorem skipSpaces_cons {head : Char} {tail : List Char} (visible : isSpace head = false) :
    skipSpaces (head :: tail) = head :: tail :=
  List.dropWhile_cons_of_neg (by simp [visible])

theorem skipSpaces_gap {head : Char} {tail : List Char} (visible : isSpace head = false) :
    skipSpaces (style.gap ++ head :: tail) = head :: tail := by
  unfold Style.gap
  split
  · exact skipSpaces_cons visible
  · exact skipSpaces_cons visible

/-- How the text of a value starts. -/
def Opens (head : Char) : Prop := isSpace head = false ∧ head ≠ ']' ∧ head ≠ '}'

theorem opens_of_isDigit {head : Char} (digit : head.isDigit = true) : Opens head := by
  refine ⟨?_, ?_, ?_⟩
  · rw [isSpace, decide_eq_false_iff_not]
    rintro (rfl | rfl | rfl | rfl) <;> cases digit
  · rintro rfl
    cases digit
  · rintro rfl
    cases digit

theorem Numeral.text_opens (numeral : Numeral) :
    ∃ head tail, numeral.text = head :: tail ∧ Opens head := by
  unfold Numeral.text
  split
  · exact ⟨_, _, rfl, rfl, by decide, by decide⟩
  · obtain ⟨digit, tail, isDigit, magnitude⟩ := numeral.text_cases
    exact ⟨digit, tail, magnitude, opens_of_isDigit isDigit⟩

theorem write_opens (style : Style) (value : PyJson) :
    ∃ head tail, style.write value = head :: tail ∧ Opens head := by
  have quick : ∀ {head : Char} {tail : List Char}, Opens head →
      ∃ head' tail', head :: tail = head' :: tail' ∧ Opens head' :=
    fun opens => ⟨_, _, rfl, opens⟩
  cases value with
  | none => exact quick ⟨rfl, by decide, by decide⟩
  | bool value => cases value <;> exact quick ⟨rfl, by decide, by decide⟩
  | int value => exact (intNumeral value).text_opens
  | float value =>
      cases value with
      | none => exact quick ⟨rfl, by decide, by decide⟩
      | some value => exact (style.floatNumeral value).text_opens
  | str text => exact quick ⟨rfl, by decide, by decide⟩
  | list items => cases items <;> exact quick ⟨rfl, by decide, by decide⟩
  | dict entries => cases entries <;> exact quick ⟨rfl, by decide, by decide⟩

/-- No word starts like a numeral. -/
theorem parseScalar_numeral (numeral : Numeral) (ends : Ends rest) :
    parseScalar read (numeral.text ++ rest) =
      (numeral.value read).map fun value => (value, rest) := by
  have noWord : words.find? (fun word => word.1.isPrefixOf (numeral.text ++ rest)) = none := by
    obtain ⟨digit, tail, isDigit, magnitude⟩ := numeral.text_cases
    have other : ∀ char, char.isDigit = false → (char == digit) = false := by
      rintro char noDigit
      rw [beq_eq_false_iff_ne]
      rintro rfl
      cases noDigit.symm.trans isDigit
    have n := other 'n' rfl
    have t := other 't' rfl
    have f := other 'f' rfl
    have capitalN := other 'N' rfl
    have capitalI := other 'I' rfl
    have minus := other '-' rfl
    unfold Numeral.text
    split
    · simp [words, magnitude, List.isPrefixOf, capitalI]
    · simp [words, magnitude, List.isPrefixOf, n, t, f, capitalN, capitalI, minus]
  rw [parseScalar, noWord, scanNumeral_append numeral ends]

/-- The value is read back wherever its text stands and a numeral may end. -/
def ReadsBack (style : Style) (read : Numeral → Option ℚ) (value : PyJson) : Prop :=
  ∀ fuel rest, (style.write value).length ≤ fuel → Ends rest →
    parseValue read fuel (style.write value ++ rest) = .ok (value, rest)

/-- Values whose text opens no string, list or object. -/
theorem readsBack_of_scalar {value : PyJson} {head : Char} {tail : List Char}
    (text : style.write value = head :: tail) (plain : head ≠ '"' ∧ head ≠ '[' ∧ head ≠ '{')
    (scalar : ∀ rest, Ends rest →
      parseScalar read (style.write value ++ rest) = .ok (value, rest)) :
    ReadsBack style read value := by
  intro fuel rest enough ends
  have scanned := scalar rest ends
  rw [text] at enough scanned ⊢
  obtain ⟨fuel, rfl⟩ := Nat.exists_eq_add_one_of_ne_zero (Nat.ne_of_gt (Nat.zero_lt_of_lt enough))
  rw [List.cons_append] at scanned ⊢
  rw [parseValue, if_neg plain.1, if_neg plain.2.1, if_neg plain.2.2, scanned]

theorem readsBack_of_numeral {value : PyJson} (numeral : Numeral)
    (text : style.write value = numeral.text) (valued : numeral.value read = .ok value) :
    ReadsBack style read value := by
  have scalar : ∀ rest, Ends rest →
      parseScalar read (style.write value ++ rest) = .ok (value, rest) := by
    intro rest ends
    rw [text, parseScalar_numeral numeral ends, valued]
    rfl
  obtain ⟨digit, tail, isDigit, magnitude⟩ := numeral.text_cases
  cases sign : numeral.negative with
  | true =>
      have start : style.write value = '-' :: numeral.magnitude := by
        rw [text, Numeral.text, sign, if_pos rfl]
      exact readsBack_of_scalar start (by decide) scalar
  | false =>
      have start : style.write value = digit :: tail := by
        rw [text, Numeral.text, sign, if_neg Bool.false_ne_true, magnitude]
      refine readsBack_of_scalar start ⟨?_, ?_, ?_⟩ scalar <;>
      · rintro rfl
        cases isDigit

theorem intNumeral_value {value : ℤ}
    (short : (Nat.toDigits 10 value.natAbs).length ≤ maxStrDigits) :
    (intNumeral value).value read = .ok (.int value) := by
  have noFloat : ¬ (intNumeral value).IsFloat := by
    rintro (fraction | exponent)
    · cases fraction
    · cases exponent
  have signed : (if (intNumeral value).negative then -((intNumeral value).integer : ℤ)
      else (intNumeral value).integer) = value := by
    simp only [intNumeral, decide_eq_true_eq]
    split <;> omega
  have fits : (Nat.toDigits 10 (intNumeral value).integer).length ≤ maxStrDigits := short
  rw [Numeral.value, if_neg noFloat, if_pos fits, signed]

theorem readsBack_str (text : String) : ReadsBack style read (.str text) := by
  intro fuel rest enough ends
  rw [Style.write] at enough ⊢
  obtain ⟨fuel, rfl⟩ := Nat.exists_eq_add_one_of_ne_zero (Nat.ne_of_gt (Nat.zero_lt_of_lt enough))
  rw [List.cons_append, parseValue, if_pos rfl, scanString_append]
  simp only [String.ofList_toList]

theorem parseItems_append {item : PyJson} {items : List PyJson} :
    ∀ fuel, (∀ item' ∈ item :: items, ReadsBack style read item') →
      (style.write item ++ style.writeItems items).length ≤ fuel →
      parseItems read fuel (style.write item ++ (style.writeItems items ++ rest)) =
        .ok (item :: items, rest) := by
  induction items generalizing item with
  | nil =>
      intro fuel all enough
      rw [Style.writeItems, List.length_append, List.length_singleton] at enough
      obtain ⟨fuel, rfl⟩ := Nat.exists_eq_add_one_of_ne_zero (n := fuel) (by omega)
      have first := all item List.mem_cons_self fuel (']' :: rest) (by omega)
        (Ends.cons (by decide))
      rw [Style.writeItems, List.singleton_append, parseItems, first]
      simp only [@skipSpaces_cons ']' _ rfl, if_pos]
  | cons next items ih =>
      intro fuel all enough
      rw [Style.writeItems, List.length_append, List.length_cons, List.length_append] at enough
      obtain ⟨fuel, rfl⟩ := Nat.exists_eq_add_one_of_ne_zero (n := fuel) (by omega)
      obtain ⟨head, tail, opening, -, -⟩ := write_opens style item
      have long : 0 < (style.write item).length := by rw [opening]; exact Nat.succ_pos _
      obtain ⟨head, tail, opening, visible, -⟩ := write_opens style next
      have first := all item List.mem_cons_self fuel
        (',' :: (style.gap ++ (style.write next ++ (style.writeItems items ++ rest)))) (by omega)
        (Ends.cons (by decide))
      have later := @ih next fuel
        (fun item' member => all item' (List.mem_cons_of_mem _ member)) (by omega)
      have skipped : skipSpaces (style.gap ++ (style.write next ++
          (style.writeItems items ++ rest))) =
            style.write next ++ (style.writeItems items ++ rest) := by
        rw [opening, List.cons_append]
        exact skipSpaces_gap visible
      rw [Style.writeItems, List.cons_append, List.append_assoc, List.append_assoc, parseItems,
        first]
      simp only [@skipSpaces_cons ',' _ rfl, skipped, later]
      rfl

theorem parseMembers_append {key : String} {value : PyJson} {entries : List (String × PyJson)} :
    ∀ fuel, (∀ entry ∈ (key, value) :: entries, ReadsBack style read entry.2) →
      (style.stringTail key).length + (style.write value ++ style.writeMembers entries).length ≤
        fuel →
      parseMembers read fuel ('"' :: (style.stringTail key ++
        (':' :: (style.gap ++ (style.write value ++ (style.writeMembers entries ++ rest)))))) =
          .ok ((key, value) :: entries, rest) := by
  induction entries generalizing key value with
  | nil =>
      intro fuel all enough
      rw [Style.writeMembers, List.length_append, List.length_singleton] at enough
      obtain ⟨fuel, rfl⟩ := Nat.exists_eq_add_one_of_ne_zero (n := fuel) (by omega)
      obtain ⟨head, tail, opening, visible, -⟩ := write_opens style value
      have reads : ReadsBack style read value := all (key, value) List.mem_cons_self
      have first := reads fuel ('}' :: rest) (by omega) (Ends.cons (by decide))
      have skipped : skipSpaces (style.gap ++ (style.write value ++ '}' :: rest)) =
          style.write value ++ '}' :: rest := by
        rw [opening, List.cons_append]
        exact skipSpaces_gap visible
      rw [Style.writeMembers, List.singleton_append, parseMembers, if_pos rfl, scanString_append]
      simp only [@skipSpaces_cons ':' _ rfl, skipped, first,
        @skipSpaces_cons '}' _ rfl, if_pos, String.ofList_toList]
  | cons entry entries ih =>
      obtain ⟨nextKey, nextValue⟩ := entry
      intro fuel all enough
      rw [Style.writeMembers] at enough
      simp only [List.length_append, List.length_cons] at enough
      obtain ⟨fuel, rfl⟩ := Nat.exists_eq_add_one_of_ne_zero (n := fuel) (by omega)
      obtain ⟨head, tail, opening, visible, -⟩ := write_opens style value
      have reads : ReadsBack style read value := all (key, value) List.mem_cons_self
      have first := reads fuel
        (',' :: (style.gap ++ ('"' :: (style.stringTail nextKey ++ (':' :: (style.gap ++
          (style.write nextValue ++ (style.writeMembers entries ++ rest)))))))) (by omega)
        (Ends.cons (by decide))
      have later := @ih nextKey nextValue fuel
        (fun entry member => all entry (List.mem_cons_of_mem _ member)) (by
          rw [List.length_append]
          omega)
      have skipped : ∀ after, skipSpaces (style.gap ++ (style.write value ++ after)) =
          style.write value ++ after := by
        intro after
        rw [opening, List.cons_append]
        exact skipSpaces_gap visible
      rw [Style.writeMembers]
      simp only [List.cons_append, List.append_assoc]
      rw [parseMembers, if_pos rfl, scanString_append]
      simp only [@skipSpaces_cons ':' _ rfl, skipped, first,
        @skipSpaces_cons ',' _ rfl, @skipSpaces_gap style '"' _ rfl, later, if_pos,
        String.ofList_toList]
      rfl

theorem foldl_set_of_distinct {members entries : List (String × PyJson)}
    (distinct : ((entries ++ members).map Prod.fst).Nodup) :
    members.foldl (fun entries member => PyJson.set entries member.1 member.2) entries =
      entries ++ members := by
  induction members generalizing entries with
  | nil => rw [List.foldl_nil, List.append_nil]
  | cons member members ih =>
      obtain ⟨key, value⟩ := member
      have missing : entries.lookup key = none := by
        rw [List.lookup_eq_none_iff]
        intro entry held
        rw [List.map_append, List.map_cons] at distinct
        have apart := (List.nodup_append.mp distinct).2.2 entry.1
          (List.mem_map_of_mem held) key List.mem_cons_self
        simpa using Ne.symm apart
      have last : PyJson.set entries key value = entries ++ [(key, value)] := by
        rw [PyJson.set, missing]
        rfl
      rw [List.foldl_cons, last, ih (by rwa [List.append_assoc, List.singleton_append]),
        List.append_assoc, List.singleton_append]

/-- **Round trip.** What can be written in the style is read back. -/
theorem Written.readsBack {value : PyJson} (written : Written style read value) :
    ReadsBack style read value := by
  induction written with
  | none => exact readsBack_of_scalar rfl (by decide) fun _ _ => rfl
  | bool value =>
      cases value
      · exact readsBack_of_scalar rfl (by decide) fun _ _ => rfl
      · exact readsBack_of_scalar rfl (by decide) fun _ _ => rfl
  | int value short => exact readsBack_of_numeral (intNumeral value) rfl (intNumeral_value short)
  | notFinite => exact readsBack_of_scalar rfl (by decide) fun _ _ => rfl
  | float value isFloat readBack =>
      apply readsBack_of_numeral (style.floatNumeral value) rfl
      rw [Numeral.value, if_pos isFloat, readBack]
  | str text => exact readsBack_str text
  | list all ih =>
      rename_i items
      intro fuel rest enough ends
      cases items with
      | nil =>
          obtain ⟨fuel, rfl⟩ :=
            Nat.exists_eq_add_one_of_ne_zero (Nat.ne_of_gt (Nat.zero_lt_of_lt enough))
          rfl
      | cons item items =>
          rw [Style.write] at enough ⊢
          obtain ⟨fuel, rfl⟩ :=
            Nat.exists_eq_add_one_of_ne_zero (Nat.ne_of_gt (Nat.zero_lt_of_lt enough))
          have inner := @parseItems_append style read rest item items fuel ih (Nat.le_of_succ_le_succ enough)
          obtain ⟨head, tail, opening, visible, inside, -⟩ := write_opens style item
          rw [opening, List.cons_append] at inner
          rw [opening, List.cons_append, List.cons_append, List.cons_append, List.append_assoc,
            parseValue]
          simp only [skipSpaces_cons visible, if_neg inside, inner]
          rfl
  | dict distinct all ih =>
      rename_i entries
      intro fuel rest enough ends
      cases entries with
      | nil =>
          obtain ⟨fuel, rfl⟩ :=
            Nat.exists_eq_add_one_of_ne_zero (Nat.ne_of_gt (Nat.zero_lt_of_lt enough))
          rfl
      | cons entry entries =>
          obtain ⟨key, value⟩ := entry
          rw [Style.write] at enough ⊢
          simp only [List.length_cons, List.length_append] at enough
          obtain ⟨fuel, rfl⟩ := Nat.exists_eq_add_one_of_ne_zero (n := fuel) (by omega)
          have inner := @parseMembers_append style read rest key value entries fuel ih (by
            rw [List.length_append]
            omega)
          simp only [List.cons_append, List.append_assoc]
          rw [parseValue]
          simp only [@skipSpaces_cons '"' _ rfl, inner,
            @foldl_set_of_distinct _ [] distinct, List.nil_append]
          rfl

/-- A value that can be written is read back from its text. -/
theorem loads_dumps {value : PyJson} (written : Written style read value) :
    loads read (dumps style value) = .ok value := by
  obtain ⟨head, tail, opening, visible, -⟩ := write_opens style value
  have skipped : skipSpaces (style.write value) = style.write value := by
    rw [opening]
    exact skipSpaces_cons visible
  have parsed := written.readsBack (2 * (style.write value).length + 1) [] (by omega) Ends.nil
  rw [List.append_nil] at parsed
  simp only [loads, dumps, String.toList_ofList, skipped, parsed]
  rfl

end JsonText
