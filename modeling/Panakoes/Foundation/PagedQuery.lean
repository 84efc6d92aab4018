import Mathlib.Data.List.Sort

/-! # Queries that are answered in pages

Rows that an index keeps in the order of their keys. A page holds the rows after a start key, up
to the key it stops at; the next page starts there. Pages in turn hold what one page without a stop
would.
-/

namespace PagedQuery

variable {ρ κ : Type*} [LinearOrder κ] (key : ρ → κ)

/-- The rows in the order of their keys. -/
def inOrder (rows : List ρ) : List ρ := rows.insertionSort fun first second => key first ≤ key second

/-- The rows after `start`, up to `stop`. There is no bound where it is `none`. -/
def between (start stop : Option κ) (rows : List ρ) : List ρ :=
  rows.filter fun row => (∀ bound ∈ start, bound < key row) ∧ ∀ bound ∈ stop, key row ≤ bound

variable {key} {rows other : List ρ} {row : ρ} {start stop : Option κ} {middle : κ}

@[simp] theorem mem_inOrder : row ∈ inOrder key rows ↔ row ∈ rows :=
  (List.perm_insertionSort _ rows).mem_iff

theorem pairwise_inOrder :
    (inOrder key rows).Pairwise fun first second => key first ≤ key second := by
  have : Std.Total fun first second : ρ => key first ≤ key second :=
    ⟨fun first second => le_total (key first) (key second)⟩
  have : IsTrans ρ fun first second => key first ≤ key second :=
    ⟨fun _ _ _ before after => before.trans after⟩
  exact List.pairwise_insertionSort _ rows

/-- The first row of those that have a property has the least key of them. -/
theorem le_of_find?_inOrder {found : ρ → Bool} (first : (inOrder key rows).find? found = some row)
    {later : ρ} (member : later ∈ rows) (holds : found later = true) : key row ≤ key later := by
  obtain ⟨-, before, after, split, skipped⟩ := List.find?_eq_some_iff_append.mp first
  have sorted : (before ++ row :: after).Pairwise fun first second => key first ≤ key second :=
    split ▸ pairwise_inOrder
  have held : later ∈ before ++ row :: after := split ▸ mem_inOrder.mpr member
  rcases List.mem_append.mp held with early | late
  · have missed := skipped later early
    rw [holds] at missed
    cases missed
  · rcases List.mem_cons.mp late with same | after
    · exact same ▸ le_rfl
    · exact (List.pairwise_cons.mp (List.pairwise_append.mp sorted).2.1).1 later after

/-- Rows that are told apart by their keys have one order. -/
theorem inOrder_congr (nodup : rows.Nodup) (otherNodup : other.Nodup)
    (same : ∀ row, row ∈ rows ↔ row ∈ other)
    (apart : ∀ first ∈ rows, ∀ second ∈ rows, key first = key second → first = second) :
    inOrder key rows = inOrder key other := by
  have perm : rows.Perm other := (List.perm_ext_iff_of_nodup nodup otherNodup).mpr same
  have sorted : (inOrder key rows).Perm (inOrder key other) :=
    ((List.perm_insertionSort _ rows).trans perm).trans (List.perm_insertionSort _ other).symm
  refine sorted.eq_of_pairwise (fun first second member further before after => ?_)
    pairwise_inOrder pairwise_inOrder
  exact apart first (mem_inOrder.mp member) second ((same second).mpr (mem_inOrder.mp further))
    (le_antisymm before after)

theorem mem_between : row ∈ between key start stop rows ↔
    row ∈ rows ∧ (∀ bound ∈ start, bound < key row) ∧ ∀ bound ∈ stop, key row ≤ bound := by
  rw [between, List.mem_filter, decide_eq_true_iff]

@[simp] theorem between_none : between key none none rows = rows := by
  simp [between]

theorem between_cons_of_within
    (within : (∀ bound ∈ start, bound < key row) ∧ ∀ bound ∈ stop, key row ≤ bound) :
    between key start stop (row :: rows) = row :: between key start stop rows :=
  List.filter_cons_of_pos (decide_eq_true within)

theorem between_cons_of_outside
    (outside : ¬ ((∀ bound ∈ start, bound < key row) ∧ ∀ bound ∈ stop, key row ≤ bound)) :
    between key start stop (row :: rows) = between key start stop rows :=
  List.filter_cons_of_neg fun within => outside (of_decide_eq_true within)

/-- **A page and what is left after it** are what there was to read. -/
theorem between_append (sorted : rows.Pairwise fun first second => key first ≤ key second)
    (started : ∀ bound ∈ start, bound ≤ middle) (stopped : ∀ bound ∈ stop, middle ≤ bound) :
    between key start (some middle) rows ++ between key (some middle) stop rows =
      between key start stop rows := by
  induction rows with
  | nil => rfl
  | cons row rest ih =>
      obtain ⟨first, sorted⟩ := List.pairwise_cons.mp sorted
      by_cases read : key row ≤ middle
      · have upTo : ∀ bound ∈ some middle, key row ≤ bound := fun _ held => Option.some.inj held ▸ read
        have within : ∀ bound ∈ stop, key row ≤ bound :=
          fun bound member => read.trans (stopped bound member)
        rw [between_cons_of_outside fun later => not_lt.mpr read (later.1 middle rfl)]
        by_cases begun : ∀ bound ∈ start, bound < key row
        · rw [between_cons_of_within ⟨begun, upTo⟩, between_cons_of_within ⟨begun, within⟩,
            List.cons_append, ih sorted]
        · rw [between_cons_of_outside fun both => begun both.1,
            between_cons_of_outside fun both => begun both.1, ih sorted]
      · -- the page has ended before the row, and so before all rows that follow
        have beyond : ∀ other ∈ row :: rest, middle < key other := by
          intro other member
          rcases List.mem_cons.mp member with rfl | member
          · exact not_le.mp read
          · exact (not_le.mp read).trans_le (first other member)
        have page : between key start (some middle) (row :: rest) = [] := by
          refine List.filter_eq_nil_iff.mpr fun other member kept => ?_
          exact absurd (beyond other member) (not_lt.mpr ((of_decide_eq_true kept).2 middle rfl))
        rw [page, List.nil_append]
        refine List.filter_congr fun other member => ?_
        rw [decide_eq_decide]
        refine and_congr_left fun _ => iff_of_true ?_ ?_
        · intro bound held
          exact Option.some.inj held ▸ beyond other member
        · intro bound held
          exact (started bound held).trans_lt (beyond other member)

end PagedQuery
