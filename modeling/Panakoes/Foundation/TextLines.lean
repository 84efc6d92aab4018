import Mathlib.Data.List.Basic

/-! # Lines of a text

A text is read line by line, and lines are written with a line feed after each. A last line counts
without its line feed, unless it is empty.
-/

namespace TextLines

/-- The lines of a text. -/
def lines : List Char → List (List Char)
  | [] => []
  | char :: rest =>
      if char = '\n' then [] :: lines rest
      else
        match lines rest with
        | [] => [[char]]
        | line :: more => (char :: line) :: more

/-- Each line with a line feed. -/
def unlines (lines : List (List Char)) : List Char := lines.flatMap (· ++ ['\n'])

variable {line text rest : List Char} {some more : List (List Char)}

@[simp] theorem unlines_nil : unlines [] = [] := rfl

@[simp] theorem unlines_cons : unlines (line :: more) = line ++ '\n' :: unlines more := by
  unfold unlines
  rw [List.flatMap_cons, List.append_assoc]
  rfl

@[simp] theorem unlines_append : unlines (some ++ more) = unlines some ++ unlines more :=
  List.flatMap_append

/-- A line has no line feed. -/
theorem not_mem_of_mem_lines (member : line ∈ lines text) : '\n' ∉ line := by
  induction text generalizing line with
  | nil => cases member
  | cons char rest ih =>
      rw [lines] at member
      split at member
      · rcases List.mem_cons.mp member with rfl | later
        · exact List.not_mem_nil
        · exact ih later
      · rename_i inLine
        have apart : '\n' ≠ char := fun same => inLine same.symm
        split at member
        · rw [List.mem_singleton.mp member]
          exact fun held => apart (List.mem_singleton.mp held)
        · rename_i first more read
          rcases List.mem_cons.mp member with rfl | later
          · apply List.not_mem_cons_of_ne_of_not_mem apart
            apply ih
            rw [read]
            exact List.mem_cons_self ..
          · apply ih
            rw [read]
            exact List.mem_cons_of_mem _ later

theorem lines_line (oneLine : '\n' ∉ line) : lines (line ++ '\n' :: rest) = line :: lines rest := by
  induction line with
  | nil => exact if_pos rfl
  | cons char line ih =>
      obtain ⟨apart, oneLine⟩ := not_or.mp (List.mem_cons.not.mp oneLine)
      rw [List.cons_append, lines, if_neg (Ne.symm apart), ih oneLine]

/-- Lines that are written are read again. -/
theorem lines_unlines_append (oneLine : ∀ line ∈ some, '\n' ∉ line) :
    lines (unlines some ++ text) = some ++ lines text := by
  induction some with
  | nil => rfl
  | cons line more ih =>
      obtain ⟨here, later⟩ := List.forall_mem_cons.mp oneLine
      rw [unlines_cons, List.append_assoc, List.cons_append, lines_line here, ih later]
      rfl

theorem lines_unlines (oneLine : ∀ line ∈ some, '\n' ∉ line) : lines (unlines some) = some := by
  have read : lines (unlines some ++ []) = some ++ lines [] := lines_unlines_append oneLine
  rw [List.append_nil] at read
  rw [read]
  exact List.append_nil some

/-- A text that ends with a line feed is what its lines are written as. -/
theorem unlines_lines (text : List Char) : unlines (lines (text ++ ['\n'])) = text ++ ['\n'] := by
  induction text with
  | nil => rfl
  | cons char text ih =>
      rw [List.cons_append, lines]
      split
      · rename_i feed
        rw [unlines_cons, ih, feed]
        rfl
      · split
        · rename_i none
          rw [none] at ih
          exact absurd ih.symm (List.append_ne_nil_of_right_ne_nil _ (List.cons_ne_nil _ _))
        · rename_i line more read
          rw [read, unlines_cons] at ih
          rw [unlines_cons, List.cons_append, ih]

/-- A line feed parts the lines. -/
theorem lines_append : lines (text ++ '\n' :: rest) = lines (text ++ ['\n']) ++ lines rest := by
  have whole : text ++ '\n' :: rest = unlines (lines (text ++ ['\n'])) ++ rest := by
    rw [unlines_lines, List.append_assoc]
    rfl
  rw [whole]
  exact lines_unlines_append fun line => not_mem_of_mem_lines

end TextLines
