import Mathlib.Algebra.GroupWithZero.Nat
import Panakoes.Foundation.JsonText

/-! # The size of JSON text

The bytes of a text in UTF-8. The size of an array is the sum of the sizes of its items and of what
stands between them, and a text without spaces is no larger than one with them.
-/

namespace JsonText

/-- The bytes of characters in UTF-8. -/
def size (chars : List Char) : ℕ := (chars.map Char.utf8Size).sum

@[simp] theorem size_nil : size [] = 0 := rfl

@[simp] theorem size_cons (char : Char) (chars : List Char) :
    size (char :: chars) = char.utf8Size + size chars := by
  rw [size, List.map_cons, List.sum_cons, size]

@[simp] theorem size_append (first second : List Char) :
    size (first ++ second) = size first + size second := by
  rw [size, List.map_append, List.sum_append, size, size]

theorem utf8ByteSize_ofList (chars : List Char) :
    (String.ofList chars).utf8ByteSize = size chars := by
  induction chars with
  | nil => rfl
  | cons char chars ih =>
      rw [String.ofList_cons, String.utf8ByteSize_append, String.utf8ByteSize_singleton, ih,
        size_cons]

/-- The bytes of the text of a value. -/
theorem utf8ByteSize_dumps (style : Style) (value : PyJson) :
    (dumps style value).utf8ByteSize = size (style.write value) :=
  utf8ByteSize_ofList _

/-- The style without spaces. -/
def Style.compact (style : Style) : Style := { style with spaced := false }

variable {style : Style}

theorem stringTail_compact (text : String) :
    style.compact.stringTail text = style.stringTail text := rfl

theorem gap_compact : style.compact.gap = [] := rfl

mutual

/-- A text without spaces is no larger than one with them. -/
theorem size_write_compact_le (style : Style) :
    ∀ value, size (style.compact.write value) ≤ size (style.write value)
  | .none => le_rfl
  | .bool true => le_rfl
  | .bool false => le_rfl
  | .int _ => le_rfl
  | .float _ => le_rfl
  | .str _ => le_rfl
  | .list [] => le_rfl
  | .list (item :: rest) => by
      have first := size_write_compact_le style item
      have others := size_writeItems_compact_le style rest
      simp only [Style.write, size_cons, size_append]
      omega
  | .dict [] => le_rfl
  | .dict ((key, value) :: rest) => by
      have first := size_write_compact_le style value
      have others := size_writeMembers_compact_le style rest
      simp only [Style.write, size_cons, size_append, stringTail_compact, gap_compact, size_nil]
      omega

theorem size_writeItems_compact_le (style : Style) :
    ∀ items, size (style.compact.writeItems items) ≤ size (style.writeItems items)
  | [] => le_rfl
  | item :: rest => by
      have first := size_write_compact_le style item
      have others := size_writeItems_compact_le style rest
      simp only [Style.writeItems, size_cons, size_append, gap_compact, size_nil]
      omega

theorem size_writeMembers_compact_le (style : Style) :
    ∀ members, size (style.compact.writeMembers members) ≤ size (style.writeMembers members)
  | [] => le_rfl
  | (key, value) :: rest => by
      have first := size_write_compact_le style value
      have others := size_writeMembers_compact_le style rest
      simp only [Style.writeMembers, size_cons, size_append, stringTail_compact, gap_compact,
        size_nil]
      omega

end

/-- Each item of a compact array is followed by one byte. -/
theorem size_writeItems_compact (style : Style) (items : List PyJson) :
    size (style.compact.writeItems items) =
      (items.map fun item => size (style.compact.write item) + 1).sum + 1 := by
  induction items with
  | nil => rfl
  | cons item rest ih =>
      rw [Style.writeItems, gap_compact, List.nil_append, size_cons, size_append, ih,
        List.map_cons, List.sum_cons, show ','.utf8Size = 1 from rfl]
      omega

theorem size_write_compact_list (style : Style) {items : List PyJson} (some_item : items ≠ []) :
    size (style.compact.write (.list items)) =
      (items.map fun item => size (style.compact.write item) + 1).sum + 1 := by
  obtain ⟨item, rest, rfl⟩ := List.exists_cons_of_ne_nil some_item
  rw [Style.write, size_cons, size_append, size_writeItems_compact, List.map_cons, List.sum_cons,
    show '['.utf8Size = 1 from rfl]
  omega

end JsonText
