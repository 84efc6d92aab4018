import Mathlib.Data.List.Nodup
import Mathlib.Data.List.Perm.Subperm

/-! # Scans that are answered in pages

A store answers a scan page by page. It stops a page after any number of rows, filters what it has
read, and says where the next page starts. A client that follows these marks reads all that the
filter keeps; one that reads the first page only reads what the filter keeps of it.
-/

namespace PagedScan

variable {α : Type*}

/-- An answer: its `Items`, and its `LastEvaluatedKey`, here the row at which the page has stopped. -/
structure Page (α : Type*) where
  items : List α
  lastEvaluatedKey : Option ℕ

/-- The answers to a scan of the rows when the store stops its pages after so many rows, and the last
one at the end. -/
def pages (keep : α → Bool) (rows : List α) (read : ℕ) : List ℕ → List (Page α)
  | [] => [⟨rows.filter keep, none⟩]
  | size :: sizes =>
      ⟨(rows.take size).filter keep, some (read + size)⟩ ::
        pages keep (rows.drop size) (read + size) sizes

/-- The loop of a client that asks again as long as there is a `LastEvaluatedKey`. -/
def readAll : List (Page α) → List α
  | [] => []
  | page :: rest =>
      page.items ++ if page.lastEvaluatedKey = none then [] else readAll rest

/-- The items of the first answer. -/
def readFirst : List (Page α) → List α
  | [] => []
  | page :: _ => page.items

/-- **All pages.** The loop reads what the filter keeps, however the store stops its pages. -/
theorem readAll_pages (keep : α → Bool) (rows : List α) (read : ℕ) (sizes : List ℕ) :
    readAll (pages keep rows read sizes) = rows.filter keep := by
  induction sizes generalizing rows read with
  | nil => exact List.append_nil _
  | cons size sizes ih =>
      rw [pages, readAll, if_neg (Option.some_ne_none _), ih, ← List.filter_append,
        List.take_append_drop]

/-- The rows of the first page. -/
def firstRows (rows : List α) : List ℕ → List α
  | [] => rows
  | size :: _ => rows.take size

theorem readFirst_pages (keep : α → Bool) (rows : List α) (read : ℕ) (sizes : List ℕ) :
    readFirst (pages keep rows read sizes) = (firstRows rows sizes).filter keep := by
  cases sizes <;> rfl

theorem firstRows_subset (rows : List α) (sizes : List ℕ) : firstRows rows sizes ⊆ rows := by
  cases sizes with
  | nil => exact List.Subset.refl rows
  | cons size sizes => exact List.take_subset size rows

theorem firstRows_map {β : Type*} (read : α → β) (rows : List α) (sizes : List ℕ) :
    firstRows (rows.map read) sizes = (firstRows rows sizes).map read := by
  cases sizes with
  | nil => rfl
  | cons size sizes => exact List.map_take.symm

/-- The first page has all rows if it does not stop before the last one. -/
theorem subset_firstRows_iff {rows : List α} (distinct : rows.Nodup) (sizes : List ℕ) :
    rows ⊆ firstRows rows sizes ↔ ∀ size ∈ sizes.head?, rows.length ≤ size := by
  cases sizes with
  | nil => exact iff_of_true (List.Subset.refl rows) fun _ absent => absurd absent (Option.not_mem_none _)
  | cons size sizes =>
      rw [firstRows, List.head?_cons]
      constructor
      · intro within _ same
        cases same
        exact Nat.le_trans (distinct.subperm within).length_le (List.length_take_le size rows)
      · intro short
        rw [List.take_of_length_le (short size rfl)]
        exact List.Subset.refl rows

/-- Items that are all decoded. -/
theorem mapM_eq_map {β ε : Type} {decode : α → Except ε β} {read : α → β} {items : List α}
    (each : ∀ item ∈ items, decode item = .ok (read item)) :
    items.mapM decode = .ok (items.map read) := by
  induction items with
  | nil => rfl
  | cons item rest ih =>
      obtain ⟨head, tail⟩ := List.forall_mem_cons.mp each
      rw [List.mapM_cons, head, ih tail]
      rfl

end PagedScan
