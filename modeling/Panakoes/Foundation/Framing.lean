import Mathlib.Data.List.Basic
import Mathlib.Tactic.Common

/-! # Lists in frames of one size

The full frames of a list and the rest behind them. Where a list is extended, the rest and what is new
are framed like a list of their own; this is what a program does that keeps the rest between its calls.
-/

namespace Framing

variable {α : Type*} {size : ℕ} {first later items : List α}

variable (size items) in
/-- The full frames of a list. -/
def full : List (List α) :=
  (List.range (items.length / size)).map fun frame => (items.drop (frame * size)).take size

variable (size items) in
/-- What is behind the full frames. -/
def rest : List α := items.drop (items.length / size * size)

theorem full_of_lt (short : items.length < size) : full size items = [] := by
  rw [full, Nat.div_eq_of_lt short]
  rfl

theorem rest_of_lt (short : items.length < size) : rest size items = items := by
  rw [rest, Nat.div_eq_of_lt short, Nat.zero_mul, List.drop_zero]

/-- A frame in front. -/
theorem full_append (nonempty : 0 < size) (framed : first.length = size) :
    full size (first ++ later) = first :: full size later := by
  subst framed
  have count : (first ++ later).length / first.length = later.length / first.length + 1 := by
    rw [List.length_append, Nat.add_comm, Nat.add_div_right _ nonempty]
  rw [full, count, List.range_succ_eq_map, List.map_cons, List.map_map, Nat.zero_mul,
    List.drop_zero, List.take_left, full]
  congr 1
  refine List.map_congr_left fun frame _ => ?_
  rw [Function.comp_apply, Nat.succ_mul, Nat.add_comm, ← List.drop_drop, List.drop_left]

theorem rest_append (nonempty : 0 < size) (framed : first.length = size) :
    rest size (first ++ later) = rest size later := by
  subst framed
  have count : (first ++ later).length / first.length = later.length / first.length + 1 := by
    rw [List.length_append, Nat.add_comm, Nat.add_div_right _ nonempty]
  rw [rest, count, Nat.succ_mul, Nat.add_comm, ← List.drop_drop, List.drop_left, rest]

/-- What holds of the lists that are shorter than a frame, and of a list with a frame in front if it
holds of the list, holds of all lists. -/
theorem induction {holds : List α → Prop} (nonempty : 0 < size)
    (short : ∀ items, items.length < size → holds items)
    (step : ∀ first later, first.length = size → holds later → holds (first ++ later))
    (items : List α) : holds items := by
  induction count : items.length using Nat.strongRecOn generalizing items with
  | ind count' ih =>
      by_cases less : items.length < size
      · exact short items less
      · have framed : (items.take size).length = size := by
          rw [List.length_take]
          omega
        rw [← List.take_append_drop size items]
        refine step _ _ framed (ih (items.drop size).length ?_ _ rfl)
        rw [List.length_drop]
        omega

theorem length_rest_lt (nonempty : 0 < size) : (rest size items).length < size := by
  induction items using induction nonempty with
  | short items short => rwa [rest_of_lt short]
  | step first later framed ih => rwa [rest_append nonempty framed]

/-- The frames of an extended list. -/
theorem full_extend (nonempty : 0 < size) (more : List α) :
    full size (items ++ more) = full size items ++ full size (rest size items ++ more) := by
  induction items using induction nonempty with
  | short items short => rw [full_of_lt short, rest_of_lt short, List.nil_append]
  | step first later framed ih =>
      rw [List.append_assoc, full_append nonempty framed, full_append nonempty framed, ih,
        rest_append nonempty framed, List.cons_append]

/-- The rest of an extended list. -/
theorem rest_extend (nonempty : 0 < size) (more : List α) :
    rest size (items ++ more) = rest size (rest size items ++ more) := by
  induction items using induction nonempty with
  | short items short => rw [rest_of_lt short]
  | step first later framed ih =>
      rw [List.append_assoc, rest_append nonempty framed, ih, rest_append nonempty framed]

/-- The full frames have the size. -/
theorem length_of_mem_full (nonempty : 0 < size) :
    ∀ frame ∈ full size items, frame.length = size := by
  induction items using induction nonempty with
  | short items short =>
      rw [full_of_lt short]
      exact fun frame member => absurd member List.not_mem_nil
  | step first later framed ih =>
      rw [full_append nonempty framed]
      exact List.forall_mem_cons.mpr ⟨framed, ih⟩

/-- The full frames and the rest are the list. -/
theorem flatten_full_append_rest (nonempty : 0 < size) :
    (full size items).flatten ++ rest size items = items := by
  induction items using induction nonempty with
  | short items short => rw [full_of_lt short, rest_of_lt short, List.flatten_nil, List.nil_append]
  | step first later framed ih =>
      rw [full_append nonempty framed, rest_append nonempty framed, List.flatten_cons,
        List.append_assoc, ih]

end Framing
