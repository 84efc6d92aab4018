import Panakoes.Foundation.JsonReading

/-! # Reading the start of a JSON text

What is read of a text is read of every longer text in the same way, when something closes it. So
where the start of a text is an object of its own, the whole text can only be the same object. The
errors of the reader are of two kinds.
-/

namespace JsonText

variable {read : Numeral → Option ℚ} {text rest : List Char}

/-! ## Numerals -/

theorem scanDigits_text {digits : Digits} (scanned : scanDigits text = some (digits, rest)) :
    text = digits.chars ++ rest := by
  unfold scanDigits at scanned
  split at scanned
  · cases scanned
  · cases scanned
    exact List.takeWhile_append_dropWhile.symm

theorem scanFraction_text (text : List Char) :
    text = fractionText (scanFraction text).1 ++ (scanFraction text).2 := by
  unfold scanFraction
  split
  · rfl
  · split
    · rename_i point
      split
      · rename_i scanned
        rw [point, fractionText, List.cons_append, ← scanDigits_text scanned]
      · rfl
    · rfl

theorem scanSign_text (text : List Char) :
    text = signText (scanSign text).1 ++ (scanSign text).2 := by
  unfold scanSign
  split
  · rfl
  · split
    · rename_i minus
      rw [minus]
      rfl
    · split
      · rename_i plus
        rw [plus]
        rfl
      · rfl

theorem scanExponent_text (text : List Char) :
    text = exponentText (scanExponent text).1 ++ (scanExponent text).2 := by
  unfold scanExponent
  split
  · rfl
  · rename_i head tail
    split
    · rename_i marker
      split
      · rename_i digits after scanned
        have sign := scanSign_text tail
        rw [scanDigits_text scanned, ← List.append_assoc] at sign
        rw [exponentText, Exponent.text, List.cons_append, ← sign]
        rcases marker with rfl | rfl <;> rfl
      · rfl
    · rfl

theorem scanMagnitude_text {negative : Bool} {numeral : Numeral}
    (scanned : scanMagnitude negative text = some (numeral, rest)) :
    numeral.negative = negative ∧ text = numeral.magnitude ++ rest := by
  unfold scanMagnitude at scanned
  split at scanned
  · cases scanned
  · rename_i digits after first
    dsimp only at scanned
    split at scanned
    · rename_i canonical
      cases scanned
      refine ⟨rfl, ?_⟩
      rw [Numeral.magnitude, canonical, List.append_assoc, List.append_assoc, ← scanExponent_text,
        ← scanFraction_text, ← scanDigits_text first]
    · cases scanned

/-- A numeral is read from its text. -/
theorem scanNumeral_text {numeral : Numeral} (scanned : scanNumeral text = some (numeral, rest)) :
    text = numeral.text ++ rest := by
  unfold scanNumeral at scanned
  split at scanned
  · cases scanned
  · split at scanned
    · rename_i minus
      obtain ⟨sign, magnitude⟩ := scanMagnitude_text scanned
      rw [minus, Numeral.text, if_pos sign, List.cons_append, ← magnitude]
    · obtain ⟨sign, magnitude⟩ := scanMagnitude_text scanned
      rw [Numeral.text, if_neg (by rw [sign]; exact Bool.false_ne_true), ← magnitude]

/-- A scalar is read in the same way where no character of a numeral comes next. -/
theorem parseScalar_more {value : PyJson} (parsed : parseScalar read text = .ok (value, rest))
    {more : List Char} (ends : Ends (rest ++ more)) :
    parseScalar read (text ++ more) = .ok (value, rest ++ more) := by
  unfold parseScalar at parsed
  split at parsed
  · rename_i word result found
    cases parsed
    have member := List.mem_of_find?_eq_some found
    have starts : word.isPrefixOf text = true := by
      have held := List.find?_some found
      exact held
    obtain ⟨after, rfl⟩ := List.isPrefixOf_iff_prefix.mp starts
    rw [List.drop_left, List.append_assoc]
    simp only [words, List.mem_cons, List.not_mem_nil, or_false, Prod.mk.injEq] at member
    rcases member with ⟨rfl, rfl⟩ | ⟨rfl, rfl⟩ | ⟨rfl, rfl⟩ | ⟨rfl, rfl⟩ | ⟨rfl, rfl⟩ |
      ⟨rfl, rfl⟩ <;> rfl
  · split at parsed
    · cases parsed
    · rename_i numeral after scanned
      obtain ⟨result, valued, same⟩ := Except.map_eq_ok.mp parsed
      cases same
      rw [scanNumeral_text scanned, List.append_assoc, parseScalar_numeral numeral ends, valued]
      rfl

/-! ## Strings -/

theorem scanHex4_more {unit : ℕ} (scanned : scanHex4 text = some (unit, rest)) (more : List Char) :
    scanHex4 (text ++ more) = some (unit, rest ++ more) := by
  unfold scanHex4 at scanned
  split at scanned
  · split at scanned
    · rename_i first second third fourth
      cases scanned
      simp only [List.cons_append, scanHex4, first, second, third, fourth]
    · cases scanned
  · cases scanned

/-- More than the start of an escape is left. -/
def Open (rest : List Char) : Prop := rest ≠ [] ∧ rest ≠ ['\\']

theorem scanLow_more {high : ℕ} {char : Char} (scanned : scanLow high text = some (char, rest))
    (goesOn : Open rest) (more : List Char) :
    scanLow high (text ++ more) = some (char, rest ++ more) := by
  unfold scanLow at scanned
  split at scanned
  · split at scanned
    · cases scanned
    · rename_i hex
      split at scanned
      · rename_i low
        obtain ⟨paired, rfl⟩ := Prod.mk.inj (Option.some.inj scanned)
        rw [List.cons_append, List.cons_append, scanLow, scanHex4_more hex, ← paired]
        exact if_pos low
      · rename_i low
        cases scanned
        rw [List.cons_append, List.cons_append, scanLow, scanHex4_more hex]
        exact if_neg low
  · rename_i other
    cases scanned
    obtain ⟨nonempty, complete⟩ := goesOn
    have same : ∀ later, text ++ more ≠ '\\' :: 'u' :: later := by
      intro later escape
      cases text with
      | nil => exact nonempty rfl
      | cons first tail =>
          rw [List.cons_append, List.cons.injEq] at escape
          cases tail with
          | nil => exact complete (by rw [escape.1])
          | cons second tail =>
              rw [List.cons_append, List.cons.injEq] at escape
              exact other tail (by rw [escape.1, escape.2.1])
    unfold scanLow
    split
    · rename_i later escape
      exact absurd escape (same later)
    · rfl

theorem scanChar_more {char : Char} (scanned : scanChar text = some (char, rest))
    (goesOn : Open rest) (more : List Char) :
    scanChar (text ++ more) = some (char, rest ++ more) := by
  unfold scanChar at scanned
  split at scanned
  · cases scanned
  · rename_i head tail
    rw [List.cons_append]
    unfold scanChar
    dsimp only
    split at scanned
    · rename_i backslash
      rw [if_pos backslash]
      split at scanned
      · cases scanned
      · rename_i letter after
        rw [List.cons_append]
        dsimp only
        split at scanned
        · rename_i unicode
          rw [if_pos unicode]
          split at scanned
          · cases scanned
          · rename_i unit later hex
            rw [scanHex4_more hex]
            dsimp only
            split at scanned
            · rename_i high
              rw [if_pos high, scanLow_more scanned goesOn]
            · rename_i high
              obtain ⟨single, rfl⟩ := Prod.mk.inj (Option.some.inj scanned)
              rw [if_neg high, single]
        · rename_i unicode
          rw [if_neg unicode]
          split at scanned
          · rename_i slash
            cases scanned
            rw [if_pos slash]
          · rename_i slash
            obtain ⟨escape, found, same⟩ := Option.map_eq_some_iff.mp scanned
            cases same
            rw [if_neg slash, found]
            rfl
    · rename_i backslash
      rw [if_neg backslash]
      split at scanned
      · cases scanned
      · rename_i plain
        cases scanned
        rw [if_neg plain]

/-- A string literal that goes on holds more than the start of an escape. -/
theorem open_of_scanString {fuel : ℕ} {chars : List Char}
    (scanned : scanString fuel text = some (chars, rest)) : Open text := by
  cases fuel with
  | zero => cases text <;> cases scanned
  | succ fuel =>
      constructor
      · rintro rfl
        cases scanned
      · rintro rfl
        cases scanned

/-- A string literal ends where it ends, whatever follows. -/
theorem scanString_more {chars : List Char} : ∀ fuel text fuel' more,
    scanString fuel text = some (chars, rest) → fuel ≤ fuel' →
      scanString fuel' (text ++ more) = some (chars, rest ++ more) := by
  intro fuel
  induction fuel generalizing chars with
  | zero =>
      intro text fuel' more scanned
      cases text <;> cases scanned
  | succ fuel ih =>
      intro text fuel' more scanned enough
      obtain ⟨fuel', rfl⟩ := Nat.exists_eq_add_one_of_ne_zero
        (Nat.ne_of_gt (Nat.lt_of_lt_of_le (Nat.succ_pos fuel) enough))
      cases text with
      | nil => cases scanned
      | cons head tail =>
          rw [List.cons_append]
          rw [scanString] at scanned ⊢
          split at scanned
          · rename_i quote
            cases scanned
            rw [if_pos quote]
          · rename_i quote
            rw [if_neg quote]
            split at scanned
            · cases scanned
            · rename_i char after one
              obtain ⟨⟨others, left⟩, inner, same⟩ := Option.map_eq_some_iff.mp scanned
              cases same
              rw [← List.cons_append, scanChar_more one (open_of_scanString inner)]
              dsimp only
              rw [ih _ fuel' more inner (Nat.le_of_succ_le_succ enough)]
              rfl

/-! ## Values -/

theorem skipSpaces_more {next : Char} (skipped : skipSpaces text = next :: rest)
    (more : List Char) : skipSpaces (text ++ more) = next :: (rest ++ more) := by
  induction text with
  | nil => cases skipped
  | cons head tail ih =>
      unfold skipSpaces at skipped ih ⊢
      rw [List.cons_append]
      by_cases space : isSpace head = true
      · rw [List.dropWhile_cons_of_pos space] at skipped ⊢
        exact ih skipped
      · rw [List.dropWhile_cons_of_neg space] at skipped ⊢
        cases skipped
        rfl

theorem skipSpaces_append {length : ℕ} (long : length < (skipSpaces text).length)
    (more : List Char) : skipSpaces (text ++ more) = skipSpaces text ++ more := by
  cases skipped : skipSpaces text with
  | nil =>
      rw [skipped] at long
      cases long
  | cons next rest => exact skipSpaces_more skipped more

/-- What follows a value in a list or an object comes next. -/
def Closed (rest : List Char) : Prop :=
  ∃ next later, skipSpaces rest = next :: later ∧ next ∈ [',', ']', '}']

theorem Closed.ends (closed : Closed rest) (more : List Char) : Ends (rest ++ more) := by
  obtain ⟨next, later, skipped, closes⟩ := closed
  cases rest with
  | nil => cases skipped
  | cons head tail =>
      refine Ends.cons ?_
      unfold skipSpaces at skipped
      by_cases space : isSpace head = true
      · unfold isSpace at space
        rw [decide_eq_true_eq] at space
        rcases space with rfl | rfl | rfl | rfl <;> decide
      · rw [List.dropWhile_cons_of_neg space] at skipped
        cases skipped
        simp only [List.mem_cons, List.not_mem_nil, or_false] at closes
        rcases closes with rfl | rfl | rfl <;> decide

/-- The value is a string, a list or an object. -/
def Enclosed (text : List Char) : Prop :=
  ∃ head tail, text = head :: tail ∧ head ∈ ['"', '[', '{']

/-- **A value is read in the same way when more text follows**, unless it is a scalar that could
go on. -/
theorem parse_more : ∀ fuel,
    (∀ text value rest, parseValue read fuel text = .ok (value, rest) →
      Enclosed text ∨ Closed rest → ∀ more,
        parseValue read fuel (text ++ more) = .ok (value, rest ++ more)) ∧
    (∀ text items rest, parseItems read fuel text = .ok (items, rest) → ∀ more,
      parseItems read fuel (text ++ more) = .ok (items, rest ++ more)) ∧
    ∀ text members rest, parseMembers read fuel text = .ok (members, rest) → ∀ more,
      parseMembers read fuel (text ++ more) = .ok (members, rest ++ more) := by
  intro fuel
  induction fuel with
  | zero =>
      refine ⟨?_, ?_, ?_⟩ <;> intro text value rest parsed
      · cases text <;> cases parsed
      · cases parsed
      · cases text <;> cases parsed
  | succ fuel ih =>
      obtain ⟨values, lists, objects⟩ := ih
      refine ⟨?_, ?_, ?_⟩
      · intro text value rest parsed ending more
        cases text with
        | nil => cases parsed
        | cons head tail =>
            rw [List.cons_append]
            rw [parseValue] at parsed ⊢
            by_cases quote : head = '"'
            · rw [if_pos quote] at parsed ⊢
              split at parsed
              · cases parsed
              · rename_i scanned
                cases parsed
                rw [scanString_more _ _ ((tail ++ more).length + 1) more scanned (by simp)]
            rw [if_neg quote] at parsed ⊢
            by_cases bracket : head = '['
            · rw [if_pos bracket] at parsed ⊢
              split at parsed
              · cases parsed
              · rename_i next later skipped
                rw [skipSpaces_more skipped]
                dsimp only
                split at parsed
                · rename_i closes
                  cases parsed
                  rw [if_pos closes]
                · rename_i closes
                  rw [if_neg closes]
                  split at parsed
                  · cases parsed
                  · rename_i inner
                    cases parsed
                    rw [← List.cons_append, lists _ _ _ inner]
            rw [if_neg bracket] at parsed ⊢
            by_cases brace : head = '{'
            · rw [if_pos brace] at parsed ⊢
              split at parsed
              · cases parsed
              · rename_i next later skipped
                rw [skipSpaces_more skipped]
                dsimp only
                split at parsed
                · rename_i closes
                  cases parsed
                  rw [if_pos closes]
                · rename_i closes
                  rw [if_neg closes]
                  split at parsed
                  · cases parsed
                  · rename_i inner
                    cases parsed
                    rw [← List.cons_append, objects _ _ _ inner]
            rw [if_neg brace] at parsed ⊢
            rcases ending with ⟨first, others, same, opens⟩ | closed
            · cases same
              simp only [List.mem_cons, List.not_mem_nil, or_false] at opens
              rcases opens with rfl | rfl | rfl
              · exact absurd rfl quote
              · exact absurd rfl bracket
              · exact absurd rfl brace
            · exact parseScalar_more parsed (closed.ends more)
      · intro text items rest parsed more
        rw [parseItems] at parsed ⊢
        split at parsed
        · cases parsed
        · rename_i item after first
          split at parsed
          · cases parsed
          · rename_i next later skipped
            split at parsed
            · rename_i closes
              cases parsed
              rw [values _ _ _ first (Or.inr ⟨next, _, skipped, by simp [closes]⟩)]
              dsimp only
              rw [skipSpaces_more skipped]
              exact if_pos closes
            · rename_i closes
              split at parsed
              · rename_i comma
                split at parsed
                · cases parsed
                · rename_i inner
                  cases parsed
                  rw [values _ _ _ first (Or.inr ⟨next, _, skipped, by simp [comma]⟩)]
                  dsimp only
                  rw [skipSpaces_more skipped]
                  dsimp only
                  rw [if_neg closes, if_pos comma,
                    skipSpaces_append ((parse_shorter fuel).2.1 _ _ _ inner),
                    lists _ _ _ inner]
              · cases parsed
      · intro text members rest parsed more
        cases text with
        | nil => cases parsed
        | cons head tail =>
            rw [List.cons_append]
            rw [parseMembers] at parsed ⊢
            split at parsed
            · cases parsed
            · rename_i key afterKey scanned
              have keyScanned : (if head = '"' then
                  scanString ((tail ++ more).length + 1) (tail ++ more) else none) =
                    some (key, afterKey ++ more) := by
                split at scanned
                · rename_i quote
                  rw [if_pos quote, scanString_more _ _ _ more scanned (by simp)]
                · cases scanned
              rw [keyScanned]
              dsimp only
              split at parsed
              · cases parsed
              · rename_i colon afterColon skippedKey
                rw [skipSpaces_more skippedKey]
                dsimp only
                split at parsed
                · rename_i isColon
                  rw [if_pos isColon]
                  split at parsed
                  · cases parsed
                  · rename_i value after first
                    rw [skipSpaces_append ((parse_shorter fuel).1 _ _ _ first)]
                    split at parsed
                    · cases parsed
                    · rename_i next later skipped
                      split at parsed
                      · rename_i closes
                        cases parsed
                        rw [values _ _ _ first (Or.inr ⟨next, _, skipped, by simp [closes]⟩)]
                        dsimp only
                        rw [skipSpaces_more skipped]
                        exact if_pos closes
                      · rename_i closes
                        split at parsed
                        · rename_i comma
                          split at parsed
                          · cases parsed
                          · rename_i inner
                            cases parsed
                            rw [values _ _ _ first (Or.inr ⟨next, _, skipped, by simp [comma]⟩)]
                            dsimp only
                            rw [skipSpaces_more skipped]
                            dsimp only
                            rw [if_neg closes, if_pos comma,
                              skipSpaces_append ((parse_shorter fuel).2.2 _ _ _ inner),
                              objects _ _ _ inner]
                        · cases parsed
                · cases parsed

/-- No scalar is an object. -/
theorem parseScalar_ne_dict {entries : List (String × PyJson)}
    (parsed : parseScalar read text = .ok (.dict entries, rest)) : False := by
  unfold parseScalar at parsed
  split at parsed
  · rename_i word value found
    have member := List.mem_of_find?_eq_some found
    cases parsed
    simp [words] at member
  · split at parsed
    · cases parsed
    · obtain ⟨value, valued, same⟩ := Except.map_eq_ok.mp parsed
      cases same
      unfold Numeral.value at valued
      split at valued
      · cases valued
      · split at valued <;> cases valued

/-- An object begins with its brace. -/
theorem enclosed_of_dict {fuel : ℕ} {entries : List (String × PyJson)}
    (parsed : parseValue read fuel text = .ok (.dict entries, rest)) : text.head? = some '{' := by
  cases fuel with
  | zero => cases text <;> cases parsed
  | succ fuel =>
      cases text with
      | nil => cases parsed
      | cons head tail =>
          rw [List.head?_cons]
          by_contra other
          have brace : head ≠ '{' := fun same => other (congrArg some same)
          rw [parseValue] at parsed
          split at parsed
          · split at parsed <;> cases parsed
          · split at parsed
            · split at parsed
              · cases parsed
              · split at parsed
                · cases parsed
                · split at parsed <;> cases parsed
            · exact parseScalar_ne_dict parsed

/-- **The start of the text of an object reads as no other value**, and only if spaces follow. -/
theorem loads_prefix {first more : List Char} {value : PyJson} {entries : List (String × PyJson)}
    (short : loads read (String.ofList first) = .ok value)
    (whole : loads read (String.ofList (first ++ more)) = .ok (.dict entries)) :
    value = .dict entries ∧ '{' ∈ first ∧ ∀ char ∈ more, isSpace char = true := by
  obtain ⟨fuel, enough, enoughWhole⟩ : ∃ fuel, 2 * (skipSpaces first).length + 1 ≤ fuel ∧
      2 * (skipSpaces (first ++ more)).length + 1 ≤ fuel :=
    ⟨_, Nat.le_add_right _ _, Nat.le_add_left _ _⟩
  rw [@loads_of_fuel read _ fuel (by rw [String.toList_ofList]; exact enough),
    String.toList_ofList] at short
  rw [@loads_of_fuel read _ fuel (by rw [String.toList_ofList]; exact enoughWhole),
    String.toList_ofList] at whole
  split at short
  · cases short
  · rename_i result rest parsed
    split at short
    · cases short
      have opened := (parse_shorter _).1 _ _ _ parsed
      rw [skipSpaces_append opened] at whole
      split at whole
      · cases whole
      · rename_i other left parsedWhole
        split at whole
        · rename_i onlySpaces
          cases whole
          have brace := enclosed_of_dict parsedWhole
          rw [List.head?_append_of_ne_nil _ (List.ne_nil_of_length_pos
            (Nat.lt_of_le_of_lt (Nat.zero_le _) opened))] at brace
          obtain ⟨tail, text⟩ := List.head?_eq_some_iff.mp brace
          have same := (parse_more _).1 _ _ _ parsed
            (Or.inl ⟨'{', tail, text, by decide⟩) more
          rw [parsedWhole] at same
          cases same
          refine ⟨rfl, (List.dropWhile_sublist isSpace).subset ?_, fun char member => ?_⟩
          · rw [← skipSpaces, text]
            exact List.mem_cons_self
          · exact List.dropWhile_eq_nil_iff.mp onlySpaces char (List.mem_append_right _ member)
        · cases whole
    · cases short

/-! ## Errors -/

/-- The errors of the reader. -/
def ReadError (error : PyError) : Prop := error = .jsonDecodeError ∨ error = .valueError

theorem parseScalar_error {error : PyError} (failed : parseScalar read text = .error error) :
    ReadError error := by
  unfold parseScalar at failed
  split at failed
  · cases failed
  · split at failed
    · cases failed
      exact Or.inl rfl
    · rename_i numeral after scanned
      cases valued : numeral.value read with
      | ok value =>
          rw [valued] at failed
          cases failed
      | error error' =>
          rw [valued] at failed
          cases failed
          unfold Numeral.value at valued
          split at valued
          · cases valued
          · split at valued
            · cases valued
            · cases valued
              exact Or.inr rfl

/-- Reading fails with one of them. -/
theorem parse_error {error : PyError} : ∀ fuel,
    (∀ text, parseValue read fuel text = .error error → ReadError error) ∧
    (∀ text, parseItems read fuel text = .error error → ReadError error) ∧
    ∀ text, parseMembers read fuel text = .error error → ReadError error := by
  intro fuel
  induction fuel with
  | zero =>
      refine ⟨?_, ?_, ?_⟩ <;> intro text failed
      · cases text <;> cases failed <;> exact Or.inl rfl
      · cases failed
        exact Or.inl rfl
      · cases text <;> cases failed <;> exact Or.inl rfl
  | succ fuel ih =>
      obtain ⟨values, lists, objects⟩ := ih
      refine ⟨?_, ?_, ?_⟩ <;> intro text failed
      · cases text with
        | nil =>
            cases failed
            exact Or.inl rfl
        | cons head tail =>
            rw [parseValue] at failed
            split at failed
            · split at failed <;> cases failed
              exact Or.inl rfl
            · split at failed
              · split at failed
                · cases failed
                  exact Or.inl rfl
                · split at failed
                  · cases failed
                  · split at failed <;> cases failed
                    exact lists _ ‹_›
              · split at failed
                · split at failed
                  · cases failed
                    exact Or.inl rfl
                  · split at failed
                    · cases failed
                    · split at failed <;> cases failed
                      exact objects _ ‹_›
                · exact parseScalar_error failed
      · rw [parseItems] at failed
        split at failed
        · cases failed
          exact values _ ‹_›
        · split at failed
          · cases failed
            exact Or.inl rfl
          · split at failed
            · cases failed
            · split at failed
              · split at failed <;> cases failed
                exact lists _ ‹_›
              · cases failed
                exact Or.inl rfl
      · cases text with
        | nil =>
            cases failed
            exact Or.inl rfl
        | cons head tail =>
            rw [parseMembers] at failed
            split at failed
            · cases failed
              exact Or.inl rfl
            · split at failed
              · cases failed
                exact Or.inl rfl
              · split at failed
                · split at failed
                  · cases failed
                    exact values _ ‹_›
                  · split at failed
                    · cases failed
                      exact Or.inl rfl
                    · split at failed
                      · cases failed
                      · split at failed
                        · split at failed <;> cases failed
                          exact objects _ ‹_›
                        · cases failed
                          exact Or.inl rfl
                · cases failed
                  exact Or.inl rfl

theorem loads_error {text : String} {error : PyError} (failed : loads read text = .error error) :
    ReadError error := by
  unfold loads at failed
  dsimp only at failed
  split at failed
  · cases failed
    exact (parse_error _).1 _ ‹_›
  · split at failed <;> cases failed
    exact Or.inl rfl

end JsonText
