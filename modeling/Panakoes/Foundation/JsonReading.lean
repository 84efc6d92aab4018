import Panakoes.Foundation.JsonRoundTrip

/-! # What the JSON reader does

A successful read in cases, from which it follows that the fuel of `loads` is
enough and that what has been read can be written.
-/

namespace JsonText

variable {style : Style} {read : Numeral → Option ℚ} {fuel : ℕ} {head : Char}
  {text tail rest : List Char}

/-! ## One level -/

/-- How a value is read. -/
theorem parseValue_ok {value : PyJson}
    (parsed : parseValue read (fuel + 1) (head :: tail) = .ok (value, rest)) :
    (∃ chars, scanString (tail.length + 1) tail = some (chars, rest) ∧
        value = .str (String.ofList chars)) ∨
      (∃ close, skipSpaces tail = close :: rest ∧ (value = .list [] ∨ value = .dict [])) ∨
      (∃ items, parseItems read fuel (skipSpaces tail) = .ok (items, rest) ∧
        value = .list items) ∨
      (∃ members, parseMembers read fuel (skipSpaces tail) = .ok (members, rest) ∧
        value = .dict (members.foldl
          (fun entries member => PyJson.set entries member.1 member.2) [])) ∨
      parseScalar read (head :: tail) = .ok (value, rest) := by
  rw [parseValue] at parsed
  split at parsed
  · split at parsed
    · cases parsed
    · rename_i scanned
      cases parsed
      exact Or.inl ⟨_, scanned, rfl⟩
  · split at parsed
    · split at parsed
      · cases parsed
      · rename_i skipped
        split at parsed
        · cases parsed
          exact Or.inr (Or.inl ⟨_, skipped, Or.inl rfl⟩)
        · split at parsed
          · cases parsed
          · rename_i inner
            cases parsed
            rw [← skipped] at inner
            exact Or.inr (Or.inr (Or.inl ⟨_, inner, rfl⟩))
    · split at parsed
      · split at parsed
        · cases parsed
        · rename_i skipped
          split at parsed
          · cases parsed
            exact Or.inr (Or.inl ⟨_, skipped, Or.inr rfl⟩)
          · split at parsed
            · cases parsed
            · rename_i inner
              cases parsed
              rw [← skipped] at inner
              exact Or.inr (Or.inr (Or.inr (Or.inl ⟨_, inner, rfl⟩)))
      · exact Or.inr (Or.inr (Or.inr (Or.inr parsed)))

/-- How the items of a list are read. -/
theorem parseItems_ok {items : List PyJson}
    (parsed : parseItems read (fuel + 1) text = .ok (items, rest)) :
    ∃ item after next later, parseValue read fuel text = .ok (item, after) ∧
      skipSpaces after = next :: later ∧
      ((items = [item] ∧ rest = later) ∨
        ∃ others, parseItems read fuel (skipSpaces later) = .ok (others, rest) ∧
          items = item :: others) := by
  rw [parseItems] at parsed
  split at parsed
  · cases parsed
  · rename_i item after first
    split at parsed
    · cases parsed
    · rename_i next later skipped
      refine ⟨item, after, next, later, first, skipped, ?_⟩
      split at parsed
      · cases parsed
        exact Or.inl ⟨rfl, rfl⟩
      · split at parsed
        · split at parsed
          · cases parsed
          · rename_i others _ inner
            cases parsed
            exact Or.inr ⟨others, inner, rfl⟩
        · cases parsed

/-- How the members of an object are read. -/
theorem parseMembers_ok {members : List (String × PyJson)}
    (parsed : parseMembers read (fuel + 1) (head :: tail) = .ok (members, rest)) :
    ∃ key afterKey colon afterColon value after next later,
      scanString (tail.length + 1) tail = some (key, afterKey) ∧
      skipSpaces afterKey = colon :: afterColon ∧
      parseValue read fuel (skipSpaces afterColon) = .ok (value, after) ∧
      skipSpaces after = next :: later ∧
      ((members = [(String.ofList key, value)] ∧ rest = later) ∨
        ∃ others, parseMembers read fuel (skipSpaces later) = .ok (others, rest) ∧
          members = (String.ofList key, value) :: others) := by
  rw [parseMembers] at parsed
  split at parsed
  · cases parsed
  · rename_i key afterKey scanned
    split at scanned
    · split at parsed
      · cases parsed
      · rename_i colon afterColon skippedKey
        split at parsed
        · split at parsed
          · cases parsed
          · rename_i value after valued
            split at parsed
            · cases parsed
            · rename_i next later skipped
              refine ⟨key, afterKey, colon, afterColon, value, after, next, later, scanned,
                skippedKey, valued, skipped, ?_⟩
              split at parsed
              · cases parsed
                exact Or.inl ⟨rfl, rfl⟩
              · split at parsed
                · split at parsed
                  · cases parsed
                  · rename_i others _ inner
                    cases parsed
                    exact Or.inr ⟨others, inner, rfl⟩
                · cases parsed
        · cases parsed
    · cases scanned

/-! ## The fuel is enough -/

theorem scanHex4_shorter {unit : ℕ} (scanned : scanHex4 text = some (unit, rest)) :
    rest.length < text.length := by
  unfold scanHex4 at scanned
  split at scanned
  · split at scanned
    · obtain ⟨-, rfl⟩ := Prod.mk.inj (Option.some.inj scanned)
      simp only [List.length_cons]
      omega
    · cases scanned
  · cases scanned

theorem scanLow_shorter {high : ℕ} {char : Char} (scanned : scanLow high text = some (char, rest)) :
    rest.length ≤ text.length := by
  unfold scanLow at scanned
  split at scanned
  · split at scanned
    · cases scanned
    · rename_i hex
      have shorter := scanHex4_shorter hex
      split at scanned
      · obtain ⟨-, rfl⟩ := Prod.mk.inj (Option.some.inj scanned)
        simp only [List.length_cons]
        omega
      · obtain ⟨-, rfl⟩ := Prod.mk.inj (Option.some.inj scanned)
        exact le_rfl
  · obtain ⟨-, rfl⟩ := Prod.mk.inj (Option.some.inj scanned)
    exact le_rfl

theorem scanChar_shorter {char : Char} (scanned : scanChar text = some (char, rest)) :
    rest.length < text.length := by
  unfold scanChar at scanned
  split at scanned
  · cases scanned
  · split at scanned
    · split at scanned
      · cases scanned
      · simp only [List.length_cons]
        split at scanned
        · split at scanned
          · cases scanned
          · rename_i hex
            have shorter := scanHex4_shorter hex
            split at scanned
            · have low := scanLow_shorter scanned
              omega
            · cases scanned
              omega
        · split at scanned
          · cases scanned
            omega
          · obtain ⟨_, _, same⟩ := Option.map_eq_some_iff.mp scanned
            cases same
            omega
    · split at scanned
      · cases scanned
      · cases scanned
        exact Nat.lt_succ_self _

theorem scanString_shorter {chars : List Char} :
    ∀ fuel text, scanString fuel text = some (chars, rest) → rest.length < text.length := by
  intro fuel
  induction fuel generalizing chars with
  | zero =>
      intro text scanned
      cases text <;> cases scanned
  | succ fuel ih =>
      intro text scanned
      cases text with
      | nil => cases scanned
      | cons head tail =>
          rw [scanString] at scanned
          split at scanned
          · cases scanned
            exact Nat.lt_succ_self _
          · split at scanned
            · cases scanned
            · rename_i char after one
              obtain ⟨⟨others, left⟩, inner, same⟩ := Option.map_eq_some_iff.mp scanned
              cases same
              exact lt_trans (ih _ inner) (scanChar_shorter one)

theorem scanDigits_shorter {digits : Digits} (scanned : scanDigits text = some (digits, rest)) :
    rest.length < text.length := by
  unfold scanDigits at scanned
  split at scanned
  · cases scanned
  · rename_i nonempty
    cases scanned
    have whole := congrArg List.length (List.takeWhile_append_dropWhile (p := Char.isDigit) (l := text))
    rw [List.length_append] at whole
    have some_digit := List.length_pos_of_ne_nil nonempty
    omega

theorem scanFraction_shorter (text : List Char) : (scanFraction text).2.length ≤ text.length := by
  unfold scanFraction
  split
  · exact le_rfl
  · split
    · split
      · rename_i scanned
        have shorter := scanDigits_shorter scanned
        simp only [List.length_cons]
        omega
      · exact le_rfl
    · exact le_rfl

theorem scanSign_shorter (text : List Char) : (scanSign text).2.length ≤ text.length := by
  unfold scanSign
  split
  · exact le_rfl
  · split
    · exact Nat.le_succ _
    · split
      · exact Nat.le_succ _
      · exact le_rfl

theorem scanExponent_shorter (text : List Char) : (scanExponent text).2.length ≤ text.length := by
  unfold scanExponent
  split
  · exact le_rfl
  · rename_i head tail
    split
    · split
      · rename_i scanned
        have shorter := scanDigits_shorter scanned
        have sign := scanSign_shorter tail
        simp only [List.length_cons]
        omega
      · exact le_rfl
    · exact le_rfl

theorem scanMagnitude_shorter {negative : Bool} {numeral : Numeral}
    (scanned : scanMagnitude negative text = some (numeral, rest)) :
    rest.length < text.length := by
  unfold scanMagnitude at scanned
  split at scanned
  · cases scanned
  · rename_i after digits
    dsimp only at scanned
    split at scanned
    · cases scanned
      have shorter := scanDigits_shorter digits
      have fraction := scanFraction_shorter after
      have exponent := scanExponent_shorter (scanFraction after).2
      omega
    · cases scanned

theorem parseScalar_shorter {value : PyJson} (parsed : parseScalar read text = .ok (value, rest)) :
    rest.length < text.length := by
  unfold parseScalar at parsed
  split at parsed
  · rename_i word result found
    cases parsed
    have member := List.mem_of_find?_eq_some found
    have longWords : ∀ word ∈ words, 0 < word.1.length := by decide
    have long : 0 < word.length := longWords _ member
    have starts : word.isPrefixOf text = true := by
      have held := List.find?_some found
      exact held
    have fits := (List.isPrefixOf_iff_prefix.mp starts).length_le
    rw [List.length_drop]
    omega
  · split at parsed
    · cases parsed
    · rename_i numeral after scanned
      have shorter : after.length < text.length := by
        unfold scanNumeral at scanned
        split at scanned
        · cases scanned
        · split at scanned
          · exact lt_trans (scanMagnitude_shorter scanned) (Nat.lt_succ_self _)
          · exact scanMagnitude_shorter scanned
      cases valued : numeral.value read with
      | error error =>
          rw [valued] at parsed
          cases parsed
      | ok result =>
          rw [valued] at parsed
          cases parsed
          exact shorter

theorem skipSpaces_shorter (text : List Char) : (skipSpaces text).length ≤ text.length :=
  List.length_dropWhile_le _ _

/-- Reading uses up text. -/
theorem parse_shorter : ∀ fuel,
    (∀ text value rest, parseValue read fuel text = .ok (value, rest) →
      rest.length < text.length) ∧
    (∀ text items rest, parseItems read fuel text = .ok (items, rest) →
      rest.length < text.length) ∧
    ∀ text members rest, parseMembers read fuel text = .ok (members, rest) →
      rest.length < text.length := by
  have skips : ∀ {text next : List Char} {head : Char},
      skipSpaces text = head :: next → next.length < text.length := by
    intro text next head skipped
    have shorter := skipSpaces_shorter text
    rw [skipped, List.length_cons] at shorter
    exact shorter
  intro fuel
  induction fuel with
  | zero =>
      refine ⟨?_, ?_, ?_⟩ <;> intro text value rest parsed
      · cases text <;> cases parsed
      · cases parsed
      · cases text <;> cases parsed
  | succ fuel ih =>
      obtain ⟨values, lists, objects⟩ := ih
      refine ⟨?_, ?_, ?_⟩ <;> intro text value rest parsed
      · cases text with
        | nil => cases parsed
        | cons head tail =>
            have skipped := skipSpaces_shorter tail
            rw [List.length_cons]
            rcases parseValue_ok parsed with ⟨chars, scanned, -⟩ | ⟨close, closed, -⟩ |
              ⟨items, inner, -⟩ | ⟨members, inner, -⟩ | scalar
            · exact lt_trans (scanString_shorter _ _ scanned) (Nat.lt_succ_self _)
            · exact lt_trans (skips closed) (Nat.lt_succ_self _)
            · exact lt_of_lt_of_le (lists _ _ _ inner) (Nat.le_succ_of_le skipped)
            · exact lt_of_lt_of_le (objects _ _ _ inner) (Nat.le_succ_of_le skipped)
            · exact parseScalar_shorter scalar
      · obtain ⟨item, after, next, later, first, closed, ends⟩ := parseItems_ok parsed
        have toLater := lt_trans (skips closed) (values _ _ _ first)
        rcases ends with ⟨-, rfl⟩ | ⟨others, inner, -⟩
        · exact toLater
        · have more := lists _ _ _ inner
          have skipped := skipSpaces_shorter later
          omega
      · cases text with
        | nil => cases parsed
        | cons head tail =>
            obtain ⟨key, afterKey, colon, afterColon, held, after, next, later, scanned, colonIs,
              first, closed, ends⟩ := parseMembers_ok parsed
            have toKey := scanString_shorter _ _ scanned
            have toColon := skips colonIs
            have toValue := values _ _ _ first
            have skippedColon := skipSpaces_shorter afterColon
            have toLater := skips closed
            rw [List.length_cons]
            rcases ends with ⟨-, rfl⟩ | ⟨others, inner, -⟩
            · omega
            · have more := objects _ _ _ inner
              have skipped := skipSpaces_shorter later
              omega

/-- **Fuel.** Two units of fuel for each character are enough: more of it reads the
same. -/
theorem parse_fuel : ∀ fuel more,
    (∀ text, 2 * text.length + 1 ≤ fuel → fuel ≤ more →
      parseValue read fuel text = parseValue read more text) ∧
    (∀ text, 2 * text.length + 2 ≤ fuel → fuel ≤ more →
      parseItems read fuel text = parseItems read more text) ∧
    ∀ text, 2 * text.length + 2 ≤ fuel → fuel ≤ more →
      parseMembers read fuel text = parseMembers read more text := by
  intro fuel
  induction fuel with
  | zero =>
      intro more
      refine ⟨?_, ?_, ?_⟩ <;> intro text enough <;> omega
  | succ fuel ih =>
      intro more
      cases more with
      | zero => refine ⟨?_, ?_, ?_⟩ <;> intro text _ most <;> cases most
      | succ more =>
      obtain ⟨values, lists, objects⟩ := ih more
      refine ⟨?_, ?_, ?_⟩ <;> intro text enough most
      · cases text with
        | nil => rfl
        | cons head tail =>
            have skipped := skipSpaces_shorter tail
            rw [List.length_cons] at enough
            have sameItems := lists (skipSpaces tail) (by omega) (by omega)
            have sameMembers := objects (skipSpaces tail) (by omega) (by omega)
            rw [parseValue, parseValue]
            cases opening : skipSpaces tail with
            | nil => rfl
            | cons next rest =>
                rw [opening] at sameItems sameMembers
                simp only [sameItems, sameMembers]
      · have same := values text (by omega) (by omega)
        rw [parseItems, parseItems, same]
        cases first : parseValue read more text with
        | error error => rfl
        | ok result =>
            obtain ⟨item, after⟩ := result
            have toAfter := (parse_shorter more).1 _ _ _ first
            dsimp only
            cases closing : skipSpaces after with
            | nil => rfl
            | cons next later =>
                have skipped := skipSpaces_shorter after
                rw [closing, List.length_cons] at skipped
                have later_skipped := skipSpaces_shorter later
                have sameItems := lists (skipSpaces later) (by omega) (by omega)
                simp only [sameItems]
      · cases text with
        | nil => rfl
        | cons head tail =>
            rw [List.length_cons] at enough
            rw [parseMembers, parseMembers]
            cases scanned : (if head = '"' then scanString (tail.length + 1) tail else none) with
            | none => rfl
            | some result =>
                obtain ⟨key, afterKey⟩ := result
                have toKey : afterKey.length < tail.length := by
                  split at scanned
                  · exact scanString_shorter _ _ scanned
                  · cases scanned
                have skippedKey := skipSpaces_shorter afterKey
                dsimp only
                cases colonIs : skipSpaces afterKey with
                | nil => rfl
                | cons colon afterColon =>
                    rw [colonIs, List.length_cons] at skippedKey
                    have skippedColon := skipSpaces_shorter afterColon
                    have same := values (skipSpaces afterColon) (by omega) (by omega)
                    dsimp only
                    rw [same]
                    cases first : parseValue read more (skipSpaces afterColon) with
                    | error error => rfl
                    | ok result =>
                        obtain ⟨value, after⟩ := result
                        have toAfter := (parse_shorter more).1 _ _ _ first
                        have skippedAfter := skipSpaces_shorter after
                        dsimp only
                        cases closing : skipSpaces after with
                        | nil => rfl
                        | cons next later =>
                            rw [closing, List.length_cons] at skippedAfter
                            have skippedLater := skipSpaces_shorter later
                            have sameMembers := objects (skipSpaces later) (by omega) (by omega)
                            simp only [sameMembers]

/-- `loads` reads the same with any fuel that is enough. -/
theorem loads_of_fuel (text : String) {fuel : ℕ}
    (enough : 2 * (skipSpaces text.toList).length + 1 ≤ fuel) :
    loads read text =
      match parseValue read fuel (skipSpaces text.toList) with
      | .error error => .error error
      | .ok (value, rest) =>
          if skipSpaces rest = [] then .ok value else .error .jsonDecodeError := by
  have same : parseValue read (2 * (skipSpaces text.toList).length + 1)
      (skipSpaces text.toList) = parseValue read fuel (skipSpaces text.toList) :=
    (parse_fuel _ _).1 _ (Nat.le_refl _) enough
  rw [← same]
  rfl

/-! ## What is read can be written -/

/-- A float that was read is written as a float that reads the same. -/
def Style.Exact (style : Style) (read : Numeral → Option ℚ) : Prop :=
  ∀ numeral value, read numeral = some value →
    (style.floatNumeral value).IsFloat ∧ read (style.floatNumeral value) = some value

theorem Written.of_numeral (exact : style.Exact read) {numeral : Numeral} {value : PyJson}
    (valued : numeral.value read = .ok value) : Written style read value := by
  unfold Numeral.value at valued
  split at valued
  · cases valued
    cases reads : read numeral with
    | none => exact .notFinite
    | some value =>
        obtain ⟨isFloat, readBack⟩ := exact numeral value reads
        exact .float value isFloat readBack
  · split at valued
    · rename_i short
      cases valued
      apply Written.int
      have size : (if numeral.negative then -(numeral.integer : ℤ) else numeral.integer).natAbs =
          numeral.integer := by
        split <;> omega
      rwa [size]
    · cases valued

theorem Written.of_scalar (exact : style.Exact read) {value : PyJson}
    (parsed : parseScalar read text = .ok (value, rest)) : Written style read value := by
  unfold parseScalar at parsed
  split at parsed
  · rename_i word result found
    cases parsed
    have member := List.mem_of_find?_eq_some found
    simp only [words, List.mem_cons, Prod.mk.injEq, List.not_mem_nil, or_false] at member
    rcases member with ⟨-, rfl⟩ | ⟨-, rfl⟩ | ⟨-, rfl⟩ | ⟨-, rfl⟩ | ⟨-, rfl⟩ | ⟨-, rfl⟩
    · exact .none
    · exact .bool true
    · exact .bool false
    · exact .notFinite
    · exact .notFinite
    · exact .notFinite
  · split at parsed
    · cases parsed
    · rename_i numeral after scanned
      cases valued : numeral.value read with
      | error error =>
          rw [valued] at parsed
          cases parsed
      | ok result =>
          rw [valued] at parsed
          cases parsed
          exact .of_numeral exact valued

/-- Setting a key keeps an object writable. -/
theorem Written.set {entries : List (String × PyJson)} {key : String} {value : PyJson}
    (object : Written style read (.dict entries)) (written : Written style read value) :
    Written style read (.dict (PyJson.set entries key value)) := by
  cases object with
  | dict distinct all =>
      unfold PyJson.set
      split
      · have keys : (entries.map fun entry =>
            if entry.1 = key then (key, value) else entry).map Prod.fst =
              entries.map Prod.fst := by
          rw [List.map_map]
          refine List.map_congr_left fun entry _ => ?_
          rw [Function.comp_apply]
          split
          · rename_i same
            exact same.symm
          · rfl
        refine .dict (by rwa [keys]) fun entry member => ?_
        obtain ⟨before, held, rfl⟩ := List.mem_map.mp member
        split
        · exact written
        · exact all before held
      · rename_i missing
        rw [Bool.not_eq_true, Option.isSome_eq_false_iff, Option.isNone_iff_eq_none,
          List.lookup_eq_none_iff] at missing
        refine .dict ?_ fun entry member => ?_
        · rw [List.map_append, List.nodup_append]
          refine ⟨distinct, List.pairwise_singleton _ _, ?_⟩
          intro other known same new
          rw [List.map_singleton, List.mem_singleton] at new
          subst new
          obtain ⟨entry, held, rfl⟩ := List.mem_map.mp known
          exact Ne.symm (bne_iff_ne.mp (missing entry held))
        · rcases List.mem_append.mp member with before | new
          · exact all entry before
          · rw [List.mem_singleton.mp new]
            exact written

theorem Written.foldl_set {members entries : List (String × PyJson)}
    (object : Written style read (.dict entries))
    (all : ∀ member ∈ members, Written style read member.2) :
    Written style read (.dict (members.foldl
      (fun entries member => PyJson.set entries member.1 member.2) entries)) := by
  induction members generalizing entries with
  | nil => exact object
  | cons member members ih =>
      exact ih (object.set (all member List.mem_cons_self)) fun other held =>
        all other (List.mem_cons_of_mem _ held)

theorem written_of_parse (exact : style.Exact read) : ∀ fuel,
    (∀ text value rest, parseValue read fuel text = .ok (value, rest) →
      Written style read value) ∧
    (∀ text items rest, parseItems read fuel text = .ok (items, rest) →
      ∀ item ∈ items, Written style read item) ∧
    ∀ text members rest, parseMembers read fuel text = .ok (members, rest) →
      ∀ member ∈ members, Written style read member.2 := by
  have empty : Written style read (.dict []) :=
    .dict List.nodup_nil fun _ member => absurd member List.not_mem_nil
  intro fuel
  induction fuel with
  | zero =>
      refine ⟨?_, ?_, ?_⟩ <;> intro text value rest parsed
      · cases text <;> cases parsed
      · cases parsed
      · cases text <;> cases parsed
  | succ fuel ih =>
      obtain ⟨values, lists, objects⟩ := ih
      refine ⟨?_, ?_, ?_⟩ <;> intro text value rest parsed
      · cases text with
        | nil => cases parsed
        | cons head tail =>
            rcases parseValue_ok parsed with ⟨chars, -, rfl⟩ | ⟨close, -, rfl | rfl⟩ |
              ⟨items, inner, rfl⟩ | ⟨members, inner, rfl⟩ | scalar
            · exact .str _
            · exact .list fun _ member => absurd member List.not_mem_nil
            · exact empty
            · exact .list (lists _ _ _ inner)
            · exact empty.foldl_set (objects _ _ _ inner)
            · exact .of_scalar exact scalar
      · obtain ⟨item, after, next, later, first, -, ends | ⟨others, inner, rfl⟩⟩ :=
          parseItems_ok parsed
        · obtain ⟨rfl, -⟩ := ends
          rw [List.forall_mem_singleton]
          exact values _ _ _ first
        · rw [List.forall_mem_cons]
          exact ⟨values _ _ _ first, lists _ _ _ inner⟩
      · cases text with
        | nil => cases parsed
        | cons head tail =>
            obtain ⟨key, afterKey, colon, afterColon, held, after, next, later, -, -, first, -,
              ends | ⟨others, inner, rfl⟩⟩ := parseMembers_ok parsed
            · obtain ⟨rfl, -⟩ := ends
              rw [List.forall_mem_singleton]
              exact values _ _ _ first
            · rw [List.forall_mem_cons]
              exact ⟨values _ _ _ first, objects _ _ _ inner⟩

/-- What has been read can be written. -/
theorem Written.of_loads (exact : style.Exact read) {text : String} {value : PyJson}
    (loaded : loads read text = .ok value) : Written style read value := by
  unfold loads at loaded
  dsimp only at loaded
  split at loaded
  · cases loaded
  · rename_i result after parsed
    split at loaded
    · cases loaded
      exact (written_of_parse exact _).1 _ _ _ parsed
    · cases loaded

/-! ## Python's codec -/

/-- The floats of Python: `float(text)` and `repr(value)`. -/
structure PyFloats where
  read : Numeral → Option ℚ
  repr : ℚ → Numeral
  isFloat : ∀ value, (repr value).IsFloat
  read_repr : ∀ numeral value, read numeral = some value → read (repr value) = some value

/-- The style of `json.dumps`. -/
def PyFloats.pyStyle (floats : PyFloats) : Style := ⟨true, true, floats.repr⟩

theorem PyFloats.exact (floats : PyFloats) : floats.pyStyle.Exact floats.read :=
  fun numeral value reads => ⟨floats.isFloat value, floats.read_repr numeral value reads⟩

end JsonText
