import Mathlib.Data.Nat.Digits.Defs
import Panakoes.Foundation.TextLines

/-! # Escape sequences of awk

The value of a variable that is assigned on the command line is read as a string literal is: a
backslash begins an escape sequence. Which of them are read besides those of the standard is left to
the implementation, which may keep the backslash or drop it. A sequence stands for less than it is
written with, unless it stands for itself.
-/

/-- What an implementation adds to the standard: how many hexadecimal digits are read behind a
letter, and what a backslash and another character stand for. -/
structure Awk where
  hexDigits : Char → ℕ
  other : Char → List Char
  hexDigits_newline : hexDigits '\n' = 0
  other_eq : ∀ char, other char = ['\\', char] ∨ (other char).length ≤ 1

namespace Awk

/-- An implementation that drops a backslash which begins nothing it knows, and reads two hexadecimal
digits behind an `x`. -/
def dropping : Awk where
  hexDigits char := if char = 'x' then 2 else 0
  other char := [char]
  hexDigits_newline := rfl
  other_eq _ := Or.inr (le_refl 1)

/-- The characters that the standard names. -/
def simpleEscape : Char → Option Char
  | '"' => some '"'
  | '/' => some '/'
  | '\\' => some '\\'
  | 'a' => some '\x07'
  | 'b' => some '\x08'
  | 'f' => some '\x0c'
  | 'n' => some '\n'
  | 'r' => some '\r'
  | 't' => some '\t'
  | 'v' => some '\x0b'
  | _ => none

/-- `[0-7]`. -/
def isOctal (char : Char) : Bool := '0' ≤ char && char ≤ '7'

/-- `[0-9a-fA-F]`. -/
def isHex (char : Char) : Bool :=
  char.isDigit || ('a' ≤ char && char ≤ 'f') || ('A' ≤ char && char ≤ 'F')

/-- The value of a digit. -/
def digitValue (char : Char) : ℕ :=
  if char.isDigit then char.toNat - '0'.toNat else char.toLower.toNat - 'a'.toNat + 10

/-- The character that digits stand for. -/
def ofDigits (base : ℕ) (digits : List Char) : Char :=
  Char.ofNat (Nat.ofDigits base (digits.reverse.map digitValue))

/-- So many digits at most, and the rest. -/
def takeDigits (isDigit : Char → Bool) : ℕ → List Char → List Char × List Char
  | limit + 1, char :: rest =>
      if isDigit char then
        (char :: (takeDigits isDigit limit rest).1, (takeDigits isDigit limit rest).2)
      else ([], char :: rest)
  | _, text => ([], text)

variable (awk : Awk)

/-- What a backslash and the text behind it begin with, and the rest. -/
def escape : List Char → List Char × List Char
  | [] => (['\\'], [])
  | char :: rest =>
      match simpleEscape char with
      | some shown => ([shown], rest)
      | none =>
          if isOctal char then
            let (digits, rest) := takeDigits isOctal 2 rest
            ([ofDigits 8 (char :: digits)], rest)
          else
            let (digits, behind) := takeDigits isHex (awk.hexDigits char) rest
            if digits = [] then (awk.other char, rest) else ([ofDigits 16 digits], behind)

variable {awk} {text line rest : List Char} {isDigit : Char → Bool} {limit : ℕ}

/-- Digits are taken up to the line feed. -/
theorem takeDigits_append (feed : isDigit '\n' = false) (limit : ℕ) (text : List Char) :
    ∃ taken left, text = taken ++ left ∧ ∀ rest,
      takeDigits isDigit limit (text ++ '\n' :: rest) = (taken, left ++ '\n' :: rest) := by
  induction limit generalizing text with
  | zero => exact ⟨[], text, rfl, fun _ => by cases text <;> rfl⟩
  | succ limit ih =>
      cases text with
      | nil =>
          refine ⟨[], [], rfl, fun rest => ?_⟩
          rw [List.nil_append, takeDigits, if_neg (by rw [feed]; exact Bool.false_ne_true)]
      | cons char text =>
          by_cases digit : isDigit char = true
          · obtain ⟨taken, left, rfl, read⟩ := ih text
            refine ⟨char :: taken, left, rfl, fun rest => ?_⟩
            rw [List.cons_append, takeDigits, if_pos digit, read]
          · refine ⟨[], char :: text, rfl, fun rest => ?_⟩
            rw [List.cons_append, takeDigits, if_neg digit]

theorem length_takeDigits : (takeDigits isDigit limit text).2.length ≤ text.length := by
  induction limit generalizing text with
  | zero => cases text <;> exact le_refl _
  | succ limit ih =>
      cases text with
      | nil => exact le_refl _
      | cons char text =>
          rw [takeDigits]
          split
          · exact Nat.le_succ_of_le ih
          · exact le_refl _

theorem length_escape : (awk.escape text).2.length ≤ text.length := by
  cases text with
  | nil => exact le_refl _
  | cons char text =>
      rw [escape]
      split
      · exact Nat.le_succ _
      · split
        · exact Nat.le_succ_of_le length_takeDigits
        · dsimp only
          split
          · exact Nat.le_succ _
          · exact Nat.le_succ_of_le length_takeDigits

/-- An escape sequence ends before the line does, and stands for itself or for less. -/
theorem escape_append (awk : Awk) (char : Char) (text : List Char) : ∃ shown taken left,
    char :: text = taken ++ left ∧
    (∀ rest, awk.escape (char :: text ++ '\n' :: rest) = (shown, left ++ '\n' :: rest)) ∧
    (shown = '\\' :: taken ∨ shown.length ≤ taken.length) := by
  have octalFeed : isOctal '\n' = false := rfl
  have hexFeed : isHex '\n' = false := rfl
  cases simple : simpleEscape char with
  | some named =>
      refine ⟨[named], [char], text, rfl, fun rest => ?_, Or.inr (le_refl 1)⟩
      rw [List.cons_append, escape, simple]
  | none =>
      by_cases octal : isOctal char = true
      · obtain ⟨taken, left, rfl, read⟩ := takeDigits_append octalFeed 2 text
        refine ⟨[ofDigits 8 (char :: taken)], char :: taken, left, rfl, fun rest => ?_,
          Or.inr (Nat.le_add_left 1 _)⟩
        rw [List.cons_append, escape, simple]
        dsimp only
        rw [if_pos octal, read]
      · obtain ⟨taken, left, rfl, read⟩ := takeDigits_append hexFeed (awk.hexDigits char) text
        by_cases none : taken = []
        · refine ⟨awk.other char, [char], taken ++ left, rfl, fun rest => ?_, awk.other_eq char⟩
          rw [List.cons_append, escape, simple]
          dsimp only
          rw [if_neg octal, read, if_pos none]
        · refine ⟨[ofDigits 16 taken], char :: taken, left, rfl, fun rest => ?_,
            Or.inr (Nat.le_add_left 1 _)⟩
          rw [List.cons_append, escape, simple]
          dsimp only
          rw [if_neg octal, read, if_neg none]

theorem escape_newline : awk.escape ('\n' :: rest) = (awk.other '\n', rest) := by
  have simple : simpleEscape '\n' = none := rfl
  have octal : ¬ isOctal '\n' = true := Bool.false_ne_true
  rw [escape, simple]
  dsimp only
  rw [if_neg octal, awk.hexDigits_newline, takeDigits]
  · exact if_pos rfl
  · intro _ _ _ impossible
    cases impossible

/-- The value of a variable that is assigned a text. -/
def expand (awk : Awk) : List Char → List Char
  | [] => []
  | char :: rest =>
      if char = '\\' then (awk.escape rest).1 ++ expand awk (awk.escape rest).2
      else char :: expand awk rest
termination_by text => text.length
decreasing_by
  · exact Nat.lt_succ_of_le length_escape
  · exact Nat.lt_succ_self _

theorem expand_nil : awk.expand [] = [] := by
  rw [expand]

theorem expand_backslash :
    awk.expand ('\\' :: rest) = (awk.escape rest).1 ++ awk.expand (awk.escape rest).2 := by
  rw [expand, if_pos rfl]

theorem expand_cons {char : Char} (plain : char ≠ '\\') :
    awk.expand (char :: rest) = char :: awk.expand rest := by
  rw [expand, if_neg plain]

/-- A text without a backslash is kept, whatever follows. -/
theorem expand_append_of_not_mem (plain : '\\' ∉ text) :
    awk.expand (text ++ rest) = text ++ awk.expand rest := by
  induction text with
  | nil => rfl
  | cons char text ih =>
      obtain ⟨apart, later⟩ := not_or.mp (List.mem_cons.not.mp plain)
      rw [List.cons_append, expand_cons (Ne.symm apart), ih later]
      rfl

theorem expand_of_not_mem (plain : '\\' ∉ text) : awk.expand text = text := by
  have kept : awk.expand (text ++ []) = text ++ awk.expand [] := expand_append_of_not_mem plain
  rw [expand_nil, List.append_nil] at kept
  exact kept

theorem newline_ne_backslash : '\n' ≠ '\\' := by decide

/-- A text is read up to a line feed, and then on. -/
theorem expand_append (text : List Char) (rest : List Char) :
    awk.expand (text ++ '\n' :: rest) = awk.expand (text ++ ['\n']) ++ awk.expand rest := by
  induction length : text.length using Nat.strong_induction_on generalizing text with
  | _ size ih =>
      cases text with
      | nil =>
          rw [List.nil_append, List.nil_append, expand_cons newline_ne_backslash,
            expand_cons newline_ne_backslash, expand_nil]
          rfl
      | cons char text =>
          subst length
          by_cases backslash : char = '\\'
          · subst backslash
            rw [List.cons_append, List.cons_append, expand_backslash, expand_backslash]
            cases text with
            | nil =>
                rw [List.nil_append, List.nil_append, escape_newline, escape_newline, expand_nil,
                  List.append_nil]
            | cons char text =>
                obtain ⟨shown, taken, left, split, read, -⟩ := escape_append awk char text
                have shorter : left.length < ('\\' :: char :: text).length := by
                  rw [split, List.length_cons, List.length_append]
                  omega
                rw [read, read, ih left.length shorter left rfl, List.append_assoc]
          · rw [List.cons_append, List.cons_append, expand_cons backslash, expand_cons backslash,
              ih text.length (Nat.lt_succ_self _) text rfl]
            rfl

/-- A line is kept, or gets shorter. -/
theorem expand_line (awk : Awk) (line : List Char) : awk.expand (line ++ ['\n']) = line ++ ['\n'] ∨
    (awk.expand (line ++ ['\n'])).length < line.length + 1 := by
  induction length : line.length using Nat.strong_induction_on generalizing line with
  | _ size ih =>
      cases line with
      | nil =>
          left
          rw [List.nil_append, expand_cons newline_ne_backslash, expand_nil]
      | cons char line =>
          subst length
          by_cases backslash : char = '\\'
          · subst backslash
            rw [List.cons_append, expand_backslash]
            cases line with
            | nil =>
                rw [List.nil_append, escape_newline, expand_nil, List.append_nil]
                rcases awk.other_eq '\n' with same | short
                · exact Or.inl same
                · exact Or.inr (Nat.lt_succ_of_le short)
            | cons char line =>
                obtain ⟨shown, taken, left, split, read, short⟩ :=
                  escape_append awk char line
                rw [split, List.length_cons, List.length_append] at ih
                rw [read, split, List.length_append, List.length_cons, List.length_append]
                dsimp only
                rcases ih left.length (by omega) left rfl with kept | shorter
                · rw [kept, List.length_append, List.length_singleton]
                  rcases short with same | short
                  · left
                    rw [same, List.append_assoc]
                    rfl
                  · right
                    omega
                · right
                  rcases short with same | short
                  · rw [same, List.length_cons]
                    omega
                  · omega
          · rw [List.cons_append, expand_cons backslash]
            rcases ih line.length (Nat.lt_succ_self _) line rfl with kept | shorter
            · left
              rw [kept]
            · right
              exact Nat.succ_lt_succ shorter

/-- A line that is kept. -/
def Keeps (awk : Awk) (line : List Char) : Prop := awk.expand (line ++ ['\n']) = line ++ ['\n']

theorem keeps_of_not_mem (plain : '\\' ∉ line) : awk.Keeps line := by
  apply expand_of_not_mem
  intro member
  rcases List.mem_append.mp member with held | feed
  · exact plain held
  · exact newline_ne_backslash (List.mem_singleton.mp feed).symm

open TextLines

/-- Lines that are kept are kept together. -/
theorem expand_unlines {lines : List (List Char)} (keeps : ∀ line ∈ lines, awk.Keeps line) :
    awk.expand (unlines lines) = unlines lines := by
  induction lines with
  | nil => exact expand_nil
  | cons line more ih =>
      obtain ⟨here, later⟩ := List.forall_mem_cons.mp keeps
      rw [unlines_cons, expand_append, here, ih later, List.append_assoc]
      rfl

theorem length_expand_unlines (awk : Awk) (lines : List (List Char)) :
    (awk.expand (unlines lines)).length ≤ (unlines lines).length := by
  induction lines with
  | nil => exact le_of_eq (congrArg List.length expand_nil)
  | cons line more ih =>
      rw [unlines_cons, expand_append, List.length_append, List.length_append, List.length_cons]
      rcases expand_line awk line with kept | shorter
      · rw [kept, List.length_append, List.length_singleton]
        omega
      · omega

/-- A text that keeps its length keeps its lines. -/
theorem keeps_of_length {lines : List (List Char)}
    (same : (awk.expand (unlines lines)).length = (unlines lines).length) :
    ∀ line ∈ lines, awk.Keeps line := by
  induction lines with
  | nil => exact fun _ member => absurd member List.not_mem_nil
  | cons line more ih =>
      rw [unlines_cons, expand_append, List.length_append, List.length_append,
        List.length_cons] at same
      have later := length_expand_unlines awk more
      rcases expand_line awk line with kept | shorter
      · rw [kept, List.length_append, List.length_singleton] at same
        exact List.forall_mem_cons.mpr ⟨kept, ih (by omega)⟩
      · omega

end Awk
