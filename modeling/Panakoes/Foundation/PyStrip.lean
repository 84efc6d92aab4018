import Mathlib.Data.List.DropRight
import Panakoes.Foundation.PyDecimal

/-! # Stripped and joined text

`str.strip` of Python, which removes the whitespace of Unicode at both ends, and `str.join`, which
is `List.intercalate`.
-/

namespace PyText

/-- `text.strip()`. -/
def strip (text : List Char) : List Char :=
  ((text.dropWhile PyDecimal.isSpace).reverse.dropWhile PyDecimal.isSpace).reverse

/-- What is stripped does not start with a space. -/
theorem isSpace_of_strip_eq_cons {text rest : List Char} {first : Char}
    (stripped : strip text = first :: rest) : PyDecimal.isSpace first = false := by
  have start : first :: rest <+: text.dropWhile PyDecimal.isSpace :=
    stripped ▸ List.rdropWhile_prefix PyDecimal.isSpace _
  obtain ⟨behind, whole⟩ := start
  have spaceless := List.head?_dropWhile_not PyDecimal.isSpace text
  rw [← whole] at spaceless
  exact spaceless

/-- A space behind a stripped text is stripped again. -/
theorem strip_strip_concat {space : Char} (isSpace : PyDecimal.isSpace space = true)
    (text : List Char) : strip (strip text ++ [space]) = strip text := by
  have again : (strip text).rdropWhile PyDecimal.isSpace = strip text :=
    List.rdropWhile_idempotent _ _
  have ends : strip (strip text ++ [space]) =
      ((strip text ++ [space]).dropWhile PyDecimal.isSpace).rdropWhile PyDecimal.isSpace := rfl
  cases stripped : strip text with
  | nil =>
      rw [stripped] at ends
      rw [ends, List.nil_append, List.dropWhile_cons_of_pos isSpace]
      rfl
  | cons first rest =>
      have spaceless := isSpace_of_strip_eq_cons stripped
      rw [stripped] at again ends
      rw [ends, List.cons_append, List.dropWhile_cons_of_neg (by rw [spaceless]; decide),
        ← List.cons_append, List.rdropWhile_concat_pos _ _ _ isSpace, again]

variable {α : Type*} {sep : List α} {inner whole : List (List α)}

theorem intercalate_isPrefix (start : inner <+: whole) :
    sep.intercalate inner <+: sep.intercalate whole := by
  obtain ⟨rest, rfl⟩ := start
  induction inner with
  | nil => exact List.nil_prefix
  | cons word inner ih =>
      cases inner with
      | nil =>
          cases rest with
          | nil => exact List.prefix_rfl
          | cons next rest =>
              rw [List.intercalate_singleton, List.singleton_append, List.intercalate_cons_cons,
                List.append_assoc]
              exact List.prefix_append _ _
      | cons next inner =>
          rw [List.cons_append, List.cons_append, List.intercalate_cons_cons,
            List.intercalate_cons_cons]
          exact (List.prefix_append_right_inj _).mpr ih

theorem intercalate_isSuffix (ending : inner <:+ whole) :
    sep.intercalate inner <:+ sep.intercalate whole := by
  obtain ⟨before, rfl⟩ := ending
  induction before with
  | nil => exact List.suffix_rfl
  | cons word before ih =>
      cases rest : before ++ inner with
      | nil =>
          rw [(List.append_eq_nil_iff.mp rest).2]
          exact List.nil_suffix
      | cons next later =>
          rw [List.cons_append, rest, List.intercalate_cons_cons]
          exact (rest ▸ ih).trans (List.suffix_append _ _)

/-- Words that follow each other are joined to a part of the text of all. -/
theorem intercalate_isInfix (within : inner <:+: whole) :
    sep.intercalate inner <:+: sep.intercalate whole := by
  obtain ⟨middle, start, ending⟩ := List.infix_iff_prefix_suffix.mp within
  exact (intercalate_isPrefix start).isInfix.trans (intercalate_isSuffix ending).isInfix

end PyText
