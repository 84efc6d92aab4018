import Mathlib.Data.List.DropRight

/-! # URLs as browsers read them

The URL parser of browsers, for URLs of the scheme `https` and up to the port: nothing that comes
later is a reason to fail. To browsers a backslash is a slash, and characters are stripped from
both ends or taken out everywhere. The host parser, which decodes percent signs, maps names to
ASCII and knows addresses, is a parameter.
-/

namespace WebUrl

/-- The control characters and the blank, which are stripped from both ends. -/
def isC0OrSpace (char : Char) : Bool := decide (char.toNat ≤ 0x20)

/-- The characters that are taken out everywhere. -/
def isTabOrNewline (char : Char) : Bool := char == '\t' || char == '\n' || char == '\r'

/-- The characters of a scheme. -/
def isSchemeChar (char : Char) : Bool :=
  char.isAlphanum || char == '+' || char == '-' || char == '.'

/-- The characters that separate the parts of a path. -/
def isSlash (char : Char) : Bool := char == '/' || char == '\\'

/-- The characters that end an authority. -/
def isDelimiter (char : Char) : Bool := isSlash char || char == '?' || char == '#'

/-- The input as the parser sees it. -/
def clean (input : List Char) : List Char :=
  ((input.dropWhile isC0OrSpace).rdropWhile isC0OrSpace).filter (!isTabOrNewline ·)

/-- A host and a port; the port is null if it is the default of the scheme. -/
structure Origin where
  host : List Char
  port : Option ℕ
  deriving DecidableEq

/-- What the digits of a port stand for. -/
def endPort (digits : List Char) : Option (Option ℕ) :=
  if digits = [] then some none
  else if 65535 < Nat.ofDigitChars 10 digits 0 then none
  else if Nat.ofDigitChars 10 digits 0 = 443 then some none
  else some (some (Nat.ofDigitChars 10 digits 0))

/-- The port state. -/
def portState (buffer : List Char) : List Char → Option (Option ℕ)
  | [] => endPort buffer
  | char :: rest =>
      if char.isDigit then portState (buffer ++ [char]) rest
      else if isDelimiter char then endPort buffer
      else none

/-- A host without a port. -/
def endHost (hostParser : List Char → Option (List Char)) (buffer : List Char) : Option Origin :=
  if buffer = [] then none else (hostParser buffer).map fun host => ⟨host, none⟩

/-- The host state: a colon is part of the host inside brackets. -/
def hostState (hostParser : List Char → Option (List Char)) (inside : Bool)
    (buffer : List Char) : List Char → Option Origin
  | [] => endHost hostParser buffer
  | char :: rest =>
      if char = ':' ∧ inside = false then
        if buffer = [] then none
        else (hostParser buffer).bind fun host => (portState [] rest).map fun port => ⟨host, port⟩
      else if isDelimiter char then endHost hostParser buffer
      else
        hostState hostParser (if char = '[' then true else if char = ']' then false else inside)
          (buffer ++ [char]) rest

/-- The authority state: what comes before an at sign are credentials. -/
def authorityState (hostParser : List Char → Option (List Char)) (seen : Bool)
    (buffer : List Char) : List Char → Option Origin
  | [] => if seen = true ∧ buffer = [] then none else hostState hostParser false [] buffer
  | char :: rest =>
      if char = '@' then authorityState hostParser true [] rest
      else if isDelimiter char then
        if seen = true ∧ buffer = [] then none
        else hostState hostParser false [] (buffer ++ char :: rest)
      else authorityState hostParser seen (buffer ++ [char]) rest

/-- The scheme state: the scheme and what follows its colon. -/
def schemeState (buffer : List Char) : List Char → Option (List Char × List Char)
  | [] => none
  | char :: rest =>
      if isSchemeChar char then schemeState (buffer ++ [char.toLower]) rest
      else if char = ':' then some (buffer, rest)
      else none

/-- The origin of a URL of the scheme `https`. All slashes before its authority are ignored, as they
are with a base URL if there are two of them. -/
def httpsOrigin (hostParser : List Char → Option (List Char)) (input : List Char) :
    Option Origin :=
  match clean input with
  | [] => none
  | char :: rest =>
      if char.isAlpha then
        (schemeState [char.toLower] rest).bind fun parts =>
          if parts.1 = "https".toList then
            authorityState hostParser false [] (parts.2.dropWhile isSlash)
          else none
      else none

/-! ## Names of hosts -/

/-- The Kelvin sign, the one character beyond ASCII whose lower case is a letter of ASCII. -/
def kelvinSign : Char := '\u212a'

/-- Characters that have a lower case in ASCII, or are in ASCII. -/
def Foldable (char : Char) : Prop := char.toNat < 128 ∨ char = kelvinSign

/-- Their lower case. -/
def foldCase (char : Char) : Char := if char = kelvinSign then 'k' else char.toLower

/-- The labels of names that are no numbers and are not encoded. -/
def isPlainLabel (label : List Char) : Bool :=
  label.head?.any Char.isLower && !"xn--".toList.isPrefixOf label &&
    label.all fun char => char.isLower || char.isDigit || char == '-'

/-- Names of hosts that a browser leaves as they are. -/
def PlainDomain (name : List Char) : Prop := (name.splitOn '.').all isPlainLabel = true

instance : DecidablePred PlainDomain := fun name =>
  inferInstanceAs (Decidable ((name.splitOn '.').all isPlainLabel = true))

/-- A browser's host parser, which puts plain names into lower case. -/
structure HostParser where
  parse : List Char → Option (List Char)
  parse_plain : ∀ text, (∀ char ∈ text, Foldable char) → PlainDomain (text.map foldCase) →
    parse text = some (text.map foldCase)

/-- The parser that knows plain names only. -/
def HostParser.ofPlain : HostParser where
  parse text := if PlainDomain (text.map foldCase) then some (text.map foldCase) else none
  parse_plain _ _ plain := if_pos plain

/-! ## Parts of an authority -/

/-- What follows the last at sign, or everything. -/
def afterAt : List Char → List Char
  | [] => []
  | char :: rest => if '@' ∈ rest then afterAt rest else if char = '@' then rest else char :: rest

/-- What comes before a port. -/
def hostText (text : List Char) : List Char := text.takeWhile (· ≠ ':')

/-- What follows the first colon. -/
def portText (text : List Char) : List Char := (text.dropWhile (· ≠ ':')).tail

variable {hostParser : List Char → Option (List Char)} {text rest buffer : List Char} {seen : Bool}

theorem afterAt_of_not_mem (absent : '@' ∉ text) : afterAt text = text := by
  cases text with
  | nil => rfl
  | cons char rest =>
      obtain ⟨here, later⟩ := not_or.mp (mt List.mem_cons.mpr absent)
      rw [afterAt, if_neg later, if_neg fun same => here same.symm]

theorem afterAt_append_of_not_mem (text : List Char) (absent : '@' ∉ rest) :
    afterAt (text ++ rest) = afterAt text ++ rest := by
  induction text with
  | nil => rw [List.nil_append, afterAt_of_not_mem absent, afterAt, List.nil_append]
  | cons char text ih =>
      have same : '@' ∈ text ++ rest ↔ '@' ∈ text := by
        rw [List.mem_append, or_iff_left absent]
      rw [List.cons_append, afterAt, afterAt]
      by_cases later : '@' ∈ text
      · rw [if_pos (same.mpr later), if_pos later, ih]
      · rw [if_neg (mt same.mp later), if_neg later]
        split <;> rfl

theorem afterAt_append_of_mem (text : List Char) (present : '@' ∈ rest) :
    afterAt (text ++ rest) = afterAt rest := by
  induction text with
  | nil => rfl
  | cons char text ih =>
      rw [List.cons_append, afterAt, if_pos (List.mem_append_right _ present), ih]

theorem afterAt_suffix (text : List Char) : afterAt text <:+ text := by
  induction text with
  | nil => exact List.suffix_rfl
  | cons char text ih =>
      rw [afterAt]
      split
      · exact ih.trans (List.suffix_cons _ _)
      · split
        · exact List.suffix_cons _ _
        · exact List.suffix_rfl

theorem parts_append (absent : ':' ∉ text) (rest : List Char) :
    hostText (text ++ ':' :: rest) = text ∧ portText (text ++ ':' :: rest) = rest := by
  have apart : ∀ char ∈ text, decide (char ≠ ':') = true := fun char member =>
    decide_eq_true fun same => absent (same ▸ member)
  rw [hostText, portText, List.takeWhile_append_of_pos apart, List.dropWhile_append_of_pos apart]
  simp

theorem parts_of_not_mem (absent : ':' ∉ text) : hostText text = text ∧ portText text = [] := by
  have apart : ∀ char ∈ text, decide (char ≠ ':') = true := fun char member =>
    decide_eq_true fun same => absent (same ▸ member)
  rw [hostText, portText, List.takeWhile_eq_self_iff.mpr apart, List.dropWhile_eq_nil_iff.mpr apart]
  exact ⟨rfl, rfl⟩

/-! ## The states on an authority -/

/-- A text that is at its end, or goes on with a delimiter. -/
def Ended (rest : List Char) : Prop := ∀ char ∈ rest.head?, isDelimiter char = true

/-- A text of an authority. -/
def Undelimited (text : List Char) : Prop := ∀ char ∈ text, isDelimiter char = false

theorem isDelimiter_iff (char : Char) :
    isDelimiter char = true ↔ char = '/' ∨ char = '\\' ∨ char = '?' ∨ char = '#' := by
  simp [isDelimiter, isSlash, or_assoc]

theorem portState_append (undelimited : Undelimited text) (ended : Ended rest) :
    portState buffer (text ++ rest) =
      if text.all Char.isDigit then endPort (buffer ++ text) else none := by
  induction text generalizing buffer with
  | nil =>
      rw [List.nil_append, List.all_nil, if_pos rfl, List.append_nil]
      cases rest with
      | nil => rfl
      | cons char rest =>
          have delimits := ended char rfl
          have noDigit : char.isDigit = false := by
            rcases (isDelimiter_iff char).mp delimits with rfl | rfl | rfl | rfl <;> rfl
          rw [portState, noDigit, if_neg Bool.false_ne_true, if_pos delimits]
  | cons char text ih =>
      obtain ⟨here, later⟩ := List.forall_mem_cons.mp undelimited
      rw [List.cons_append, portState, List.all_cons]
      cases digit : char.isDigit with
      | true => rw [if_pos rfl, ih later, Bool.true_and, List.append_assoc, List.singleton_append]
      | false =>
          rw [if_neg Bool.false_ne_true, here, if_neg Bool.false_ne_true, Bool.false_and,
            if_neg Bool.false_ne_true]

/-- The origin of a text that has no credentials. -/
def originOf (hostParser : List Char → Option (List Char)) (text : List Char) : Option Origin :=
  if hostText text = [] then none
  else
    (hostParser (hostText text)).bind fun host =>
      (if (portText text).all Char.isDigit then endPort (portText text) else none).map fun port =>
        ⟨host, port⟩

/-- The host state on a text without brackets. -/
theorem hostState_append (undelimited : Undelimited text)
    (plain : ∀ char ∈ text, char ≠ '[' ∧ char ≠ ']') (ended : Ended rest)
    (before : ':' ∉ buffer) :
    hostState hostParser false buffer (text ++ rest) = originOf hostParser (buffer ++ text) := by
  induction text generalizing buffer with
  | nil =>
      have whole := parts_of_not_mem before
      have ends : endHost hostParser buffer = originOf hostParser buffer := by
        rw [endHost, originOf, whole.1, whole.2]
        split
        · rfl
        · cases hostParser buffer <;> rfl
      rw [List.nil_append, List.append_nil, ← ends]
      cases rest with
      | nil => rfl
      | cons char rest =>
          have delimits := ended char rfl
          have noColon : ¬ (char = ':' ∧ false = false) := by
            rcases (isDelimiter_iff char).mp delimits with rfl | rfl | rfl | rfl <;> decide
          rw [hostState, if_neg noColon, if_pos delimits]
  | cons char text ih =>
      obtain ⟨here, later⟩ := List.forall_mem_cons.mp undelimited
      obtain ⟨noBracket, plain⟩ := List.forall_mem_cons.mp plain
      rw [List.cons_append, hostState]
      by_cases colon : char = ':'
      · subst colon
        have parts := parts_append before text
        rw [if_pos ⟨rfl, rfl⟩, originOf, parts.1, parts.2]
        simp only [portState_append later ended, List.nil_append]
      · rw [if_neg fun both => colon both.1, here, if_neg Bool.false_ne_true,
          if_neg noBracket.1, if_neg noBracket.2, ih later plain ?_, List.append_assoc,
          List.singleton_append]
        simp [before, Ne.symm colon]

/-- The authority state: only what follows the last at sign counts. -/
theorem authorityState_append (undelimited : Undelimited text) (ended : Ended rest) :
    authorityState hostParser seen buffer (text ++ rest) =
      if '@' ∈ text then
        if afterAt text = [] then none else hostState hostParser false [] (afterAt text ++ rest)
      else if seen = true ∧ buffer ++ text = [] then none
      else hostState hostParser false [] (buffer ++ text ++ rest) := by
  induction text generalizing seen buffer with
  | nil =>
      rw [List.nil_append, if_neg List.not_mem_nil, List.append_nil]
      cases rest with
      | nil => rw [authorityState, List.append_nil]
      | cons char rest =>
          have delimits := ended char rfl
          have noAt : char ≠ '@' := by
            rcases (isDelimiter_iff char).mp delimits with rfl | rfl | rfl | rfl <;> decide
          rw [authorityState, if_neg noAt, if_pos delimits]
  | cons char text ih =>
      obtain ⟨here, later⟩ := List.forall_mem_cons.mp undelimited
      rw [List.cons_append, authorityState]
      by_cases atSign : char = '@'
      · subst atSign
        rw [if_pos rfl, ih later, if_pos List.mem_cons_self, afterAt]
        by_cases again : '@' ∈ text
        · rw [if_pos again, if_pos again]
        · rw [if_neg again, if_neg again, if_pos rfl]
          simp
      · have same : '@' ∈ char :: text ↔ '@' ∈ text := by
          simp [Ne.symm atSign]
        rw [if_neg atSign, here, if_neg Bool.false_ne_true, ih later, afterAt, List.append_assoc,
          List.singleton_append]
        by_cases again : '@' ∈ text
        · rw [if_pos again, if_pos (same.mpr again), if_pos again]
        · rw [if_neg again, if_neg (mt same.mp again)]

/-- An authority without brackets, read as a whole. -/
theorem authorityState_eq (undelimited : Undelimited text)
    (plain : ∀ char ∈ text, char ≠ '[' ∧ char ≠ ']') (ended : Ended rest) :
    authorityState hostParser false [] (text ++ rest) = originOf hostParser (afterAt text) := by
  have inside := (afterAt_suffix text).subset
  have host : hostState hostParser false [] (afterAt text ++ rest) =
      originOf hostParser (afterAt text) :=
    hostState_append (fun char member => undelimited char (inside member))
      (fun char member => plain char (inside member)) ended List.not_mem_nil
  rw [authorityState_append undelimited ended]
  by_cases present : '@' ∈ text
  · rw [if_pos present, host]
    split
    · rename_i empty
      rw [empty]
      rfl
    · rfl
  · rw [afterAt_of_not_mem present] at host ⊢
    rw [if_neg present, if_neg fun both => Bool.false_ne_true both.1, List.nil_append, host]

/-- The digits of the default port, or none. -/
def DefaultPort (digits : List Char) : Prop :=
  digits = [] ∨ digits.all Char.isDigit = true ∧ Nat.ofDigitChars 10 digits 0 = 443

instance : DecidablePred DefaultPort := fun digits =>
  inferInstanceAs (Decidable (digits = [] ∨ _ ∧ _))

theorem endPort_eq_some_none {digits : List Char} :
    endPort digits = some none ↔ digits = [] ∨ Nat.ofDigitChars 10 digits 0 = 443 := by
  unfold endPort
  split
  · rename_i empty
    exact iff_of_true rfl (Or.inl empty)
  · rename_i nonempty
    split
    · rename_i above
      exact iff_of_false (by simp) (by simp [nonempty]; omega)
    · split
      · rename_i default
        exact iff_of_true rfl (Or.inr default)
      · rename_i other
        exact iff_of_false (by simp) (by simp [nonempty, other])

/-- An origin on the default port. -/
theorem originOf_eq_some {host : List Char} :
    originOf hostParser text = some ⟨host, none⟩ ↔
      hostText text ≠ [] ∧ hostParser (hostText text) = some host ∧
        DefaultPort (portText text) := by
  have port : (if (portText text).all Char.isDigit then endPort (portText text) else none) =
      some none ↔ DefaultPort (portText text) := by
    by_cases digits : (portText text).all Char.isDigit = true
    · rw [if_pos digits, endPort_eq_some_none, DefaultPort, digits]
      simp
    · rw [if_neg digits, DefaultPort]
      refine iff_of_false (by simp) ?_
      rintro (empty | ⟨all, -⟩)
      · exact digits (by rw [empty]; rfl)
      · exact digits all
  unfold originOf
  split
  · rename_i empty
    exact iff_of_false (by simp) fun given => given.1 empty
  · rename_i nonempty
    rw [Option.bind_eq_some_iff, ← port]
    constructor
    · rintro ⟨found, parsed, mapped⟩
      obtain ⟨number, ends, same⟩ := Option.map_eq_some_iff.mp mapped
      cases same
      exact ⟨nonempty, parsed, ends⟩
    · rintro ⟨-, parsed, ends⟩
      exact ⟨host, parsed, by rw [ends]; rfl⟩

/-! ## Whole texts -/

theorem schemeState_append {scheme : List Char} (chars : scheme.all isSchemeChar = true)
    (rest : List Char) :
    schemeState buffer (scheme ++ ':' :: rest) =
      some (buffer ++ scheme.map Char.toLower, rest) := by
  induction scheme generalizing buffer with
  | nil => simp [schemeState, isSchemeChar]
  | cons char scheme ih =>
      rw [List.all_cons, Bool.and_eq_true] at chars
      rw [List.cons_append, schemeState, if_pos chars.1, ih chars.2, List.append_assoc,
        List.singleton_append, List.map_cons]

/-- A text that begins with `https:` in any case. -/
theorem httpsOrigin_eq {input scheme : List Char} (cleaned : clean input = scheme ++ ':' :: rest)
    (letter : scheme.head?.any Char.isAlpha = true)
    (chars : scheme.all isSchemeChar = true)
    (https : scheme.map Char.toLower = "https".toList) :
    httpsOrigin hostParser input =
      authorityState hostParser false [] (rest.dropWhile isSlash) := by
  cases scheme with
  | nil => cases letter
  | cons first scheme =>
      have alpha : first.isAlpha = true := letter
      rw [List.all_cons, Bool.and_eq_true] at chars
      rw [List.map_cons] at https
      simp only [httpsOrigin, cleaned, List.cons_append, if_pos alpha, schemeState_append chars.2,
        Option.bind_some]
      exact if_pos https

end WebUrl
