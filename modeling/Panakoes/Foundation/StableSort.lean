import Mathlib.Data.List.Sort

/-! # The order of a stable sort

A list that is sorted by a key is in another order as well if and only if the key, or else the place
in the list, never goes against that order.
-/

namespace List

variable {α : Type*} {before : α → α → Prop} [DecidableRel before] {other : α → α → Prop}

/-- An element is inserted behind those that are strictly before it. -/
theorem pairwise_orderedInsert_iff (trans : ∀ a b c, before a b → before b c → before a c)
    {sorted : List α} (ordered : sorted.Pairwise before) (item : α) :
    (sorted.orderedInsert before item).Pairwise other ↔
      (∀ held ∈ sorted, if before item held then other item held else other held item) ∧
        sorted.Pairwise other := by
  induction sorted with
  | nil => simp
  | cons first rest ih =>
      rw [pairwise_cons] at ordered
      rw [orderedInsert_cons, forall_mem_cons]
      split
      · rename_i here
        have all : ∀ held ∈ rest, before item held :=
          fun held member => trans _ _ _ here (ordered.1 held member)
        rw [pairwise_cons, forall_mem_cons]
        refine and_congr_left fun _ => and_congr_right fun _ => ?_
        exact forall₂_congr fun held member => by rw [if_pos (all held member)]
      · rw [pairwise_cons, ih ordered.2, pairwise_cons]
        simp only [mem_orderedInsert, forall_eq_or_imp]
        tauto

/-- **A stable sort and another order.** -/
theorem pairwise_insertionSort_iff (total : ∀ a b, before a b ∨ before b a)
    (trans : ∀ a b c, before a b → before b c → before a c) {items : List α} :
    (items.insertionSort before).Pairwise other ↔
      items.Pairwise fun first second =>
        if before first second then other first second else other second first := by
  induction items with
  | nil => simp
  | cons item items ih =>
      have : Std.Total before := ⟨total⟩
      have : IsTrans α before := ⟨trans⟩
      rw [insertionSort_cons, pairwise_orderedInsert_iff trans (pairwise_insertionSort before items),
        ih, pairwise_cons]
      exact and_congr_left fun _ => by simp only [mem_insertionSort]

end List
