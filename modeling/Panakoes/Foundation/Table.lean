import Mathlib.Algebra.Order.Ring.Rat
import Mathlib.Data.List.AList

/-! # Finite tables

A table of rows by key, as a keyed store holds them. What is asked of all its
rows, or of one of them, is decidable, and a row that is put hides no row of
another key.
-/

/-- A finite table. -/
abbrev Table (κ ν : Type*) := AList fun _ : κ => ν

namespace Table

variable {κ ν : Type*} [DecidableEq κ] {table : Table κ ν} {key other : κ} {value found : ν}

/-- Some row satisfies the predicate. -/
def Any (table : Table κ ν) (predicate : κ → ν → Prop) : Prop :=
  ∃ key value, table.lookup key = some value ∧ predicate key value

/-- Every row satisfies the predicate. -/
def All (table : Table κ ν) (predicate : κ → ν → Prop) : Prop :=
  ∀ key value, table.lookup key = some value → predicate key value

variable {predicate weaker : κ → ν → Prop}

instance [∀ key value, Decidable (predicate key value)] : Decidable (table.Any predicate) :=
  decidable_of_iff (∃ entry ∈ table.entries, predicate entry.1 entry.2) (by
    constructor
    · rintro ⟨⟨key, value⟩, member, holds⟩
      exact ⟨key, value, AList.mem_lookup_iff.mpr member, holds⟩
    · rintro ⟨key, value, held, holds⟩
      exact ⟨⟨key, value⟩, AList.mem_lookup_iff.mp held, holds⟩)

instance [∀ key value, Decidable (predicate key value)] : Decidable (table.All predicate) :=
  decidable_of_iff (∀ entry ∈ table.entries, predicate entry.1 entry.2) (by
    constructor
    · intro all key value held
      exact all ⟨key, value⟩ (AList.mem_lookup_iff.mp held)
    · rintro all ⟨key, value⟩ member
      exact all key value (AList.mem_lookup_iff.mpr member))

/-- A row found after a put is the one put or was there before. -/
theorem lookup_insert_cases (held : (table.insert key value).lookup other = some found) :
    (other = key ∧ found = value) ∨ (other ≠ key ∧ table.lookup other = some found) := by
  by_cases same : other = key
  · subst same
    rw [AList.lookup_insert, Option.some.injEq] at held
    exact Or.inl ⟨rfl, held.symm⟩
  · rw [AList.lookup_insert_ne same] at held
    exact Or.inr ⟨same, held⟩

theorem All.empty : (∅ : Table κ ν).All predicate := by
  intro key value held
  rw [AList.lookup_empty] at held
  cases held

/-- A put keeps what all rows satisfy when the new row satisfies it. -/
theorem All.insert (all : table.All predicate) (holds : predicate key value) :
    All (table.insert key value) predicate := by
  intro other found held
  rcases lookup_insert_cases held with ⟨rfl, rfl⟩ | ⟨_, before⟩
  · exact holds
  · exact all other found before

theorem All.mono (all : table.All predicate)
    (implies : ∀ key value, predicate key value → weaker key value) : table.All weaker :=
  fun key value held => implies key value (all key value held)

/-- A row satisfies a predicate after a put only if it is the new one or did before. -/
theorem Any.of_insert (any : Any (table.insert key value) predicate) :
    predicate key value ∨ table.Any predicate := by
  obtain ⟨other, found, held, holds⟩ := any
  rcases lookup_insert_cases held with ⟨rfl, rfl⟩ | ⟨_, before⟩
  · exact Or.inl holds
  · exact Or.inr ⟨other, found, before, holds⟩

end Table

/-! ## Writing rows in turn

A table after a list of puts, what is found in it, and the sum of a weight over its rows. A put
that a later put of its key overwrites is lost, and a row that no put replaces is left over;
these two are the difference between what is put and what the table holds.
-/

namespace Table

variable {κ ν : Type*} [DecidableEq κ]

/-- The table after puts in turn. -/
def putAll (table : Table κ ν) (puts : List (κ × ν)) : Table κ ν :=
  puts.foldl (fun table put => table.insert put.1 put.2) table

variable {table other : Table κ ν} {puts : List (κ × ν)} {key : κ}

@[simp] theorem putAll_nil : putAll table [] = table := rfl

theorem putAll_cons {put : κ × ν} :
    putAll table (put :: puts) = putAll (table.insert put.1 put.2) puts := rfl

theorem putAll_append {more : List (κ × ν)} :
    putAll table (puts ++ more) = putAll (putAll table puts) more :=
  List.foldl_append

/-- A key that is not put keeps its row. -/
theorem lookup_putAll_of_not_mem (absent : key ∉ puts.map Prod.fst) :
    (putAll table puts).lookup key = table.lookup key := by
  induction puts generalizing table with
  | nil => rfl
  | cons put rest ih =>
      rw [List.map_cons, List.mem_cons, not_or] at absent
      rw [putAll_cons, ih absent.2]
      exact AList.lookup_insert_ne absent.1

/-- A key that is put has the row of its last put, whatever was there. -/
theorem lookup_putAll_of_mem (put : key ∈ puts.map Prod.fst) :
    ∃ value, (key, value) ∈ puts ∧
      ∀ table : Table κ ν, (putAll table puts).lookup key = some value := by
  induction puts with
  | nil => exact absurd put List.not_mem_nil
  | cons first rest ih =>
      by_cases again : key ∈ rest.map Prod.fst
      · obtain ⟨value, member, found⟩ := ih again
        exact ⟨value, List.mem_cons_of_mem _ member, fun table => found _⟩
      · have same : key = first.1 := (List.mem_cons.mp put).resolve_right again
        refine ⟨first.2, List.mem_cons.mpr (Or.inl (Prod.ext same rfl)), fun table => ?_⟩
        rw [putAll_cons, lookup_putAll_of_not_mem again, same]
        exact AList.lookup_insert _

/-! ## Sums over the rows -/

/-- The sum of a weight over the rows. -/
def total (table : Table κ ν) (weight : κ → ν → ℤ) : ℤ :=
  (table.entries.map fun entry => weight entry.1 entry.2).sum

/-- A weight without one key. -/
def without (key : κ) (weight : κ → ν → ℤ) (other : κ) (value : ν) : ℤ :=
  if other = key then 0 else weight other value

variable {weight : κ → ν → ℤ} {value : ν}

theorem sum_kerase {entries : List (Sigma fun _ : κ => ν)} (nodup : entries.NodupKeys) :
    ((entries.kerase key).map fun entry => weight entry.1 entry.2).sum =
      (entries.map fun entry => without key weight entry.1 entry.2).sum := by
  induction entries with
  | nil => rfl
  | cons entry rest ih =>
      obtain ⟨fresh, nodup⟩ := List.nodupKeys_cons.mp nodup
      by_cases same : key = entry.1
      · subst same
        rw [List.kerase_cons_eq rfl, List.map_cons, List.sum_cons, without, if_pos rfl, Int.zero_add]
        refine congrArg List.sum (List.map_congr_left fun other member => ?_)
        have differs : other.1 ≠ entry.1 := by
          intro equal
          exact fresh (equal ▸ List.mem_keys_of_mem member)
        rw [without, if_neg differs]
      · rw [List.kerase_cons_ne same, List.map_cons, List.map_cons, List.sum_cons, List.sum_cons,
          ih nodup, without, if_neg (Ne.symm same)]

/-- A put replaces what the key weighed. -/
theorem total_insert :
    total (table.insert key value) weight = total table (without key weight) + weight key value := by
  rw [total, AList.entries_insert, List.map_cons, List.sum_cons, sum_kerase table.nodupKeys,
    total, Int.add_comm]

/-- What the puts weigh that a later put of their key overwrites. -/
def overwritten (weight : κ → ν → ℤ) : List (κ × ν) → ℤ
  | [] => 0
  | put :: rest =>
      (if put.1 ∈ rest.map Prod.fst then weight put.1 put.2 else 0) + overwritten weight rest

theorem overwritten_nonneg (nonneg : ∀ put ∈ puts, 0 ≤ weight put.1 put.2) :
    0 ≤ overwritten weight puts := by
  induction puts with
  | nil => exact Int.le_refl 0
  | cons put rest ih =>
      have first := nonneg put List.mem_cons_self
      have later := ih fun other member => nonneg other (List.mem_cons_of_mem _ member)
      rw [overwritten]
      split <;> omega

theorem overwritten_mono {heavier : κ → ν → ℤ}
    (le : ∀ put ∈ puts, weight put.1 put.2 ≤ heavier put.1 put.2) :
    overwritten weight puts ≤ overwritten heavier puts := by
  induction puts with
  | nil => exact Int.le_refl 0
  | cons put rest ih =>
      have first := le put List.mem_cons_self
      have later := ih fun other member => le other (List.mem_cons_of_mem _ member)
      rw [overwritten, overwritten]
      split <;> omega

/-- What the rows weigh that no put replaces. -/
def leftover (table : Table κ ν) (weight : κ → ν → ℤ) (puts : List (κ × ν)) : ℤ :=
  total table fun key value => if key ∈ puts.map Prod.fst then 0 else weight key value

/-- **What is put and what was left over is what the table holds and what was overwritten.** -/
theorem total_putAll (table : Table κ ν) (weight : κ → ν → ℤ) (puts : List (κ × ν)) :
    total (putAll table puts) weight + overwritten weight puts =
      leftover table weight puts + (puts.map fun put => weight put.1 put.2).sum := by
  induction puts generalizing table with
  | nil => simp [overwritten, leftover]
  | cons put rest ih =>
      have kept : leftover (table.insert put.1 put.2) weight rest =
          leftover table weight (put :: rest) +
            (if put.1 ∈ rest.map Prod.fst then 0 else weight put.1 put.2) := by
        rw [leftover, total_insert, leftover]
        congr 2
        funext key value
        simp only [without, List.map_cons, List.mem_cons]
        by_cases same : key = put.1
        · rw [if_pos same, if_pos (Or.inl same)]
        · by_cases again : key ∈ rest.map Prod.fst
          · rw [if_neg same, if_pos again, if_pos (Or.inr again)]
          · rw [if_neg same, if_neg again, if_neg (not_or.mpr ⟨same, again⟩)]
      have held := ih (table.insert put.1 put.2)
      rw [kept] at held
      rw [putAll_cons, overwritten, List.map_cons, List.sum_cons]
      by_cases again : put.1 ∈ rest.map Prod.fst
      · rw [if_pos again] at held ⊢
        omega
      · rw [if_neg again] at held ⊢
        omega

end Table
