import Mathlib.Data.List.TakeWhile

/-! # Words and here-documents of the shell

The shell reads a text in two ways that matter for a value which a program has put into it. As a
word, where quotes are removed and a blank or an operator ends the word, and as a here-document,
where quotes stand for themselves. In both, an expansion may be put in the place of a part of the
text. What an expansion gives depends on the state of the shell and is a parameter.
-/

namespace Shell

/-- What the shell does with an expansion that begins here: what it puts in its place, with the
number of further characters the expansion takes up, unless it fails. -/
abbrev Expander := List Char → Option (List Char × ℕ)

/-- What has been read: the text, the sources of the expansions in it, and what follows. -/
structure Reading where
  text : List Char
  expanded : List (List Char)
  rest : List Char
  deriving DecidableEq

namespace Reading

/-- Characters that stand for themselves come first. -/
def prepend (chars : List Char) (reading : Reading) : Reading :=
  { reading with text := chars ++ reading.text }

/-- An expansion comes first. -/
def expand (source value : List Char) (reading : Reading) : Reading :=
  { reading with text := value ++ reading.text, expanded := source :: reading.expanded }

theorem prepend_prepend (first second : List Char) :
    prepend first ∘ prepend second = prepend (first ++ second) := by
  funext reading
  simp only [Function.comp, prepend, List.append_assoc]

theorem prepend_nil : prepend [] = id := rfl

end Reading

/-- The expansions of a here-document and of a text in double quotes begin with one of these. -/
def expansionChars : List Char := ['$', '`']

/-! ## Here-documents -/

/-- The body of a here-document whose delimiter is not quoted; `skip` characters belong to what has
been read already. -/
def hereDocument (expander : Expander) : (skip : ℕ) → List Char → Option Reading
  | _, [] => some ⟨[], [], []⟩
  | skip + 1, _ :: rest => hereDocument expander skip rest
  | 0, char :: rest =>
      if char ∈ expansionChars then
        (expander (char :: rest)).bind fun result =>
          (hereDocument expander result.2 rest).map
            (Reading.expand (char :: rest.take result.2) result.1)
      else if char = '\\' then
        match rest.head? with
        | some '\n' => hereDocument expander 1 rest
        | some next =>
            if next ∈ '\\' :: expansionChars then
              (hereDocument expander 1 rest).map (Reading.prepend [next])
            else (hereDocument expander 0 rest).map (Reading.prepend ['\\'])
        | none => (hereDocument expander 0 rest).map (Reading.prepend ['\\'])
      else (hereDocument expander 0 rest).map (Reading.prepend [char])

/-- The lines up to the delimiter. -/
def hereDocumentBody (delimiter text : List Char) : List Char :=
  ((text.splitOn '\n').takeWhile (· ≠ delimiter)).flatMap (· ++ ['\n'])

/-- Characters without a meaning in a here-document. -/
def Literal (char : Char) : Prop := char ∉ '\\' :: expansionChars

instance : DecidablePred Literal := fun char =>
  inferInstanceAs (Decidable (char ∉ '\\' :: expansionChars))

variable {expander : Expander}

theorem hereDocument_literal {chars : List Char} (literal : ∀ char ∈ chars, Literal char)
    (rest : List Char) :
    hereDocument expander 0 (chars ++ rest) =
      (hereDocument expander 0 rest).map (Reading.prepend chars) := by
  induction chars with
  | nil => simp [Reading.prepend_nil]
  | cons char chars ih =>
      obtain ⟨here, later⟩ := List.forall_mem_cons.mp literal
      obtain ⟨backslash, expands⟩ := not_or.mp (List.mem_cons.not.mp here)
      rw [List.cons_append, hereDocument, if_neg expands, if_neg backslash, ih later,
        Option.map_map, Reading.prepend_prepend]
      rfl

theorem splitOn_line {line : List Char} (oneLine : '\n' ∉ line) (rest : List Char) :
    (line ++ '\n' :: rest).splitOn '\n' = line :: rest.splitOn '\n' := by
  rw [List.splitOn_eq_splitOnP]
  refine List.splitOnP_append_cons_of_forall_mem (fun char member => ?_) '\n' (by rfl) rest
  rw [beq_eq_false_iff_ne]
  rintro rfl
  exact oneLine member

/-- The lines before the delimiter are the body. -/
theorem hereDocumentBody_lines {lines : List (List Char)} {delimiter : List Char}
    (oneLine : ∀ line ∈ lines, '\n' ∉ line) (proper : ∀ line ∈ lines, line ≠ delimiter)
    (closed : '\n' ∉ delimiter) (rest : List Char) :
    hereDocumentBody delimiter (lines.flatMap (· ++ ['\n']) ++ (delimiter ++ '\n' :: rest)) =
      lines.flatMap (· ++ ['\n']) := by
  have apart : (lines.flatMap (· ++ ['\n']) ++ (delimiter ++ '\n' :: rest)).splitOn '\n' =
      lines ++ delimiter :: rest.splitOn '\n' := by
    induction lines with
    | nil => exact splitOn_line closed rest
    | cons line lines ih =>
        obtain ⟨here, later⟩ := List.forall_mem_cons.mp oneLine
        rw [List.flatMap_cons, List.append_assoc, List.append_assoc, List.singleton_append,
          splitOn_line here, ih later fun other member => proper other (List.mem_cons_of_mem _ member)]
        rfl
  have before : ∀ line ∈ lines, decide (line ≠ delimiter) = true := fun line member =>
    decide_eq_true (proper line member)
  rw [hereDocumentBody, apart, List.takeWhile_append_of_pos before,
    List.takeWhile_cons_of_neg (by simp), List.append_nil]

/-! ## Words -/

/-- Where in a word the shell is. -/
inductive Mode where
  | bare
  | single
  | double
  deriving DecidableEq

/-- Blanks and operators end a word that is not quoted. -/
def endChars : List Char := [' ', '\t', '\n', ';', '&', '|', '<', '>', '(', ')']

/-- Outside quotes, tildes, patterns and braces are expanded as well. -/
def bareExpansionChars : List Char := expansionChars ++ ['~', '*', '?', '[', '{']

/-- The rest of a word; `skip` characters belong to what has been read already. A word that ends
within quotes is an error. -/
def word (expander : Expander) : Mode → (skip : ℕ) → List Char → Option Reading
  | .bare, _, [] => some ⟨[], [], []⟩
  | .single, _, [] | .double, _, [] => none
  | mode, skip + 1, _ :: rest => word expander mode skip rest
  | .bare, 0, char :: rest =>
      if char ∈ endChars then some ⟨[], [], char :: rest⟩
      else if char = '\'' then word expander .single 0 rest
      else if char = '"' then word expander .double 0 rest
      else if char ∈ bareExpansionChars then
        (expander (char :: rest)).bind fun result =>
          (word expander .bare result.2 rest).map
            (Reading.expand (char :: rest.take result.2) result.1)
      else if char = '\\' then
        match rest.head? with
        | some '\n' => word expander .bare 1 rest
        | some next => (word expander .bare 1 rest).map (Reading.prepend [next])
        | none => (word expander .bare 0 rest).map (Reading.prepend ['\\'])
      else (word expander .bare 0 rest).map (Reading.prepend [char])
  | .single, 0, char :: rest =>
      if char = '\'' then word expander .bare 0 rest
      else (word expander .single 0 rest).map (Reading.prepend [char])
  | .double, 0, char :: rest =>
      if char = '"' then word expander .bare 0 rest
      else if char ∈ expansionChars then
        (expander (char :: rest)).bind fun result =>
          (word expander .double result.2 rest).map
            (Reading.expand (char :: rest.take result.2) result.1)
      else if char = '\\' then
        match rest.head? with
        | some '\n' => word expander .double 1 rest
        | some next =>
            if next ∈ '"' :: '\\' :: expansionChars then
              (word expander .double 1 rest).map (Reading.prepend [next])
            else (word expander .double 0 rest).map (Reading.prepend ['\\'])
        | none => (word expander .double 0 rest).map (Reading.prepend ['\\'])
      else (word expander .double 0 rest).map (Reading.prepend [char])

/-- Characters without a meaning outside quotes. -/
def Plain (char : Char) : Prop := char ∉ '\'' :: '"' :: '\\' :: (endChars ++ bareExpansionChars)

instance : DecidablePred Plain := fun char =>
  inferInstanceAs (Decidable (char ∉ '\'' :: '"' :: '\\' :: (endChars ++ bareExpansionChars)))

theorem word_bare_plain {chars : List Char} (plain : ∀ char ∈ chars, Plain char)
    (rest : List Char) :
    word expander .bare 0 (chars ++ rest) =
      (word expander .bare 0 rest).map (Reading.prepend chars) := by
  induction chars with
  | nil => simp [Reading.prepend_nil]
  | cons char chars ih =>
      obtain ⟨here, later⟩ := List.forall_mem_cons.mp plain
      simp only [Plain, List.mem_cons, List.mem_append, not_or] at here
      obtain ⟨single, double, backslash, ends, expands⟩ := here
      rw [List.cons_append, word, if_neg ends, if_neg single, if_neg double, if_neg expands,
        if_neg backslash, ih later, Option.map_map, Reading.prepend_prepend]
      rfl

/-! ## Quoting -/

/-- What `shlex` leaves without quotes: ASCII letters and digits, and a few signs. -/
def isSafe (char : Char) : Bool :=
  char.isAlphanum || char ∈ ['_', '@', '%', '+', '=', ':', ',', '.', '/', '-']

/-- Each single quote within single quotes. -/
def escapeQuotes (value : List Char) : List Char :=
  value.flatMap fun char => if char = '\'' then ['\'', '"', '\'', '"', '\''] else [char]

/-- `shlex.quote`. -/
def quote (value : List Char) : List Char :=
  if value = [] then ['\'', '\'']
  else if value.all isSafe then value
  else '\'' :: (escapeQuotes value ++ ['\''])

theorem mem_quote {value : List Char} {char : Char} (member : char ∈ quote value) :
    char ∈ value ∨ char = '\'' ∨ char = '"' := by
  unfold quote escapeQuotes at member
  split at member
  · simp at member
    simp [member]
  · split at member
    · exact Or.inl member
    · simp only [List.mem_cons, List.mem_append, List.mem_flatMap, List.not_mem_nil,
        or_false] at member
      rcases member with mark | ⟨source, held, member⟩ | mark
      · exact Or.inr (Or.inl mark)
      · split at member
        · simp only [List.mem_cons, List.not_mem_nil, or_false] at member
          rcases member with mark | mark | mark | mark | mark <;> simp [mark]
        · rw [List.mem_singleton.mp member]
          exact Or.inl held
      · exact Or.inr (Or.inl mark)

theorem plain_of_isSafe {char : Char} (safe : isSafe char = true) : Plain char := by
  intro special
  revert safe
  simp only [endChars, bareExpansionChars, expansionChars, List.cons_append, List.nil_append,
    List.mem_cons, List.not_mem_nil, or_false] at special
  rcases special with rfl | rfl | rfl | rfl | rfl | rfl | rfl | rfl | rfl | rfl | rfl | rfl | rfl |
    rfl | rfl | rfl | rfl | rfl | rfl | rfl <;> decide

theorem literal_of_isSafe {char : Char} (safe : isSafe char = true) : Literal char := by
  intro special
  apply plain_of_isSafe safe
  simp only [expansionChars, List.mem_cons, List.not_mem_nil, or_false] at special
  rcases special with rfl | rfl | rfl <;> decide

theorem word_single_escapeQuotes (value rest : List Char) :
    word expander .single 0 (escapeQuotes value ++ '\'' :: rest) =
      (word expander .bare 0 rest).map (Reading.prepend value) := by
  induction value with
  | nil => simp [escapeQuotes, word, Reading.prepend_nil]
  | cons char value ih =>
      rw [escapeQuotes, List.flatMap_cons, ← escapeQuotes, List.append_assoc]
      split
      · rename_i same
        subst same
        simp [word, ih, endChars, Reading.prepend_prepend, expansionChars]
      · rename_i other
        simp [word, other, ih, Reading.prepend_prepend]

/-- **A quoted value is read as itself**, wherever in a word it stands. -/
theorem word_quote (value rest : List Char) :
    word expander .bare 0 (quote value ++ rest) =
      (word expander .bare 0 rest).map (Reading.prepend value) := by
  unfold quote
  split
  · rename_i empty
    subst empty
    simp [word, endChars, Reading.prepend_nil]
  · split
    · rename_i safe
      exact word_bare_plain (fun char member => plain_of_isSafe (List.all_eq_true.mp safe char member))
        rest
    · rw [List.cons_append, List.append_assoc, List.singleton_append, word, if_neg (by decide),
        if_pos rfl, word_single_escapeQuotes]

/-! ## Quoted values in a here-document -/

/-- What `quote` leaves as it is. -/
def Bare (value : List Char) : Prop := value ≠ [] ∧ ∀ char ∈ value, isSafe char = true

instance : DecidablePred Bare := fun value =>
  decidable_of_iff (value ≠ [] ∧ value.all isSafe = true) (and_congr_right' List.all_eq_true)

theorem quote_of_bare {value : List Char} (bare : Bare value) : quote value = value := by
  rw [quote, if_neg bare.1, if_pos (List.all_eq_true.mpr bare.2)]

theorem quote_of_not_bare {value : List Char} (quoted : ¬ Bare value) :
    quote value = '\'' :: (escapeQuotes value ++ ['\'']) := by
  unfold quote
  split
  · rename_i empty
    rw [empty]
    rfl
  · rename_i nonempty
    rw [if_neg fun safe => quoted ⟨nonempty, List.all_eq_true.mp safe⟩]

theorem hereDocument_quote_of_bare {value : List Char} (bare : Bare value) (rest : List Char) :
    hereDocument expander 0 (quote value ++ rest) =
      (hereDocument expander 0 rest).map (Reading.prepend value) := by
  rw [quote_of_bare bare]
  exact hereDocument_literal (fun char member => literal_of_isSafe (bare.2 char member)) rest

/-- The characters of a line that a here-document leaves as they are. -/
def Kept (char : Char) : Prop := Literal char ∧ char ≠ '\n'

instance : DecidablePred Kept := fun char => inferInstanceAs (Decidable (Literal char ∧ char ≠ '\n'))

/-- `Kept`, as a test. -/
def isKept (char : Char) : Bool := decide (Kept char)

theorem kept_escapeQuotes {chars : List Char} (kept : ∀ char ∈ chars, Kept char) :
    ∀ char ∈ '\'' :: escapeQuotes chars, Kept char := by
  intro char member
  rcases List.mem_cons.mp member with rfl | member
  · decide
  · obtain ⟨source, held, member⟩ := List.mem_flatMap.mp member
    split at member
    · simp only [List.mem_cons, List.not_mem_nil, or_false] at member
      rcases member with rfl | rfl | rfl | rfl | rfl <;> decide
    · rw [List.mem_singleton.mp member]
      exact kept source held

theorem length_le_escapeQuotes (chars : List Char) :
    chars.length ≤ (escapeQuotes chars).length := by
  induction chars with
  | nil => exact Nat.le_refl _
  | cons char chars ih =>
      rw [escapeQuotes, List.flatMap_cons, ← escapeQuotes, List.length_append, List.length_cons]
      split
      · simp only [List.length_cons, List.length_nil]
        omega
      · rw [List.length_singleton]
        omega

/-- **A value with quotes around it does not come out of a here-document as it was**, whatever the
expansions in it give: the first quote is written as well. -/
theorem line_ne_of_not_bare {value rest : List Char} (quoted : ¬ Bare value) {reading : Reading}
    (read : hereDocument expander 0 (quote value ++ rest) = some reading) :
    reading.text.takeWhile (· ≠ '\n') ≠ value := by
  intro same
  -- the part of the value in front of the first expansion, and the quote in front of it
  have parts : value.takeWhile isKept ++ value.dropWhile isKept = value :=
    List.takeWhile_append_dropWhile
  have front : ∀ char ∈ value.takeWhile isKept, Kept char := by
    intro char member
    have kept : isKept char = true := List.mem_takeWhile_imp member
    exact of_decide_eq_true kept
  have stops : ∀ char ∈ (value.dropWhile isKept).head?, ¬ Kept char := by
    intro char member kept
    have next := List.head?_dropWhile_not isKept value
    rw [Option.mem_def.mp member] at next
    simp only [isKept, kept, decide_true, Bool.true_eq_false] at next
  generalize value.takeWhile isKept = first at parts front
  generalize value.dropWhile isKept = later at parts stops
  have written := kept_escapeQuotes front
  rw [quote_of_not_bare quoted, ← parts, escapeQuotes, List.flatMap_append, ← escapeQuotes,
    List.append_assoc, List.cons_append, List.append_assoc, ← List.cons_append,
    hereDocument_literal fun char member => (written char member).1] at read
  obtain ⟨behind, -, rfl⟩ := Option.map_eq_some_iff.mp read
  rw [Reading.prepend, List.takeWhile_append_of_pos
    fun char member => decide_eq_true (written char member).2, ← parts] at same
  have short : first.length < ('\'' :: escapeQuotes first).length :=
    Nat.lt_succ_of_le (length_le_escapeQuotes first)
  have place := congrArg (·[first.length]?) same
  rw [List.getElem?_append_left short, List.getElem?_append_right le_rfl, Nat.sub_self,
    List.getElem?_eq_getElem short, ← List.head?_eq_getElem?] at place
  exact stops _ place.symm (written _ (List.getElem_mem short))

end Shell
