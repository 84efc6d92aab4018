import Mathlib.Data.List.Sort
import Mathlib.Data.List.TakeWhile
import Mathlib.Order.Lattice

/-! # Sorted sets

Members with scores, kept in the order of the scores and, for one score, of the
members. No member is held twice: adding one that is held gives it the new
score.
-/

namespace SortedSet

/-- A member and its score. -/
structure Entry (σ μ : Type*) where
  score : σ
  member : μ
  deriving DecidableEq

variable {σ μ : Type*} [LinearOrder σ] [LinearOrder μ]

/-- The order of a sorted set. -/
def Entry.Le (first second : Entry σ μ) : Prop :=
  first.score < second.score ∨ first.score = second.score ∧ first.member ≤ second.member

instance : DecidableRel (Entry.Le (σ := σ) (μ := μ)) :=
  fun _ _ => inferInstanceAs (Decidable (_ ∨ _))

instance : Std.Total (Entry.Le (σ := σ) (μ := μ)) where
  total first second := by
    rcases lt_trichotomy first.score second.score with less | same | more
    · exact Or.inl (Or.inl less)
    · rcases le_total first.member second.member with le | le
      · exact Or.inl (Or.inr ⟨same, le⟩)
      · exact Or.inr (Or.inr ⟨same.symm, le⟩)
    · exact Or.inr (Or.inl more)

instance : IsTrans (Entry σ μ) Entry.Le where
  trans := by
    rintro first second third (less | ⟨same, le⟩) (less' | ⟨same', le'⟩)
    · exact Or.inl (less.trans less')
    · exact Or.inl (same' ▸ less)
    · exact Or.inl (same ▸ less')
    · exact Or.inr ⟨same.trans same', le.trans le'⟩

end SortedSet

open SortedSet

/-- A sorted set. -/
structure SortedSet (σ μ : Type*) [LinearOrder σ] [LinearOrder μ] where
  entries : List (Entry σ μ)
  sorted : entries.Pairwise Entry.Le
  nodup : (entries.map Entry.member).Nodup

namespace SortedSet

variable {σ μ : Type*} [LinearOrder σ] [LinearOrder μ]

instance : EmptyCollection (SortedSet σ μ) := ⟨[], List.Pairwise.nil, List.nodup_nil⟩

@[simp] theorem entries_empty : (∅ : SortedSet σ μ).entries = [] := rfl

@[ext] theorem ext {first second : SortedSet σ μ} (same : first.entries = second.entries) :
    first = second := by
  cases first
  cases second
  cases same
  rfl

/-- The entries that satisfy a predicate. -/
def keep (set : SortedSet σ μ) (predicate : Entry σ μ → Bool) : SortedSet σ μ where
  entries := set.entries.filter predicate
  sorted := set.sorted.filter predicate
  nodup := set.nodup.sublist (List.filter_sublist.map _)

/-- `ZREMRANGEBYSCORE`: the entries with a score in the closed range go. -/
def zremrangebyscore (set : SortedSet σ μ) (least greatest : σ) : SortedSet σ μ :=
  set.keep fun entry => !(least ≤ entry.score && entry.score ≤ greatest)

/-- `ZADD` of one member. -/
def zadd (set : SortedSet σ μ) (member : μ) (score : σ) : SortedSet σ μ where
  entries :=
    (set.keep fun entry => entry.member ≠ member).entries.orderedInsert Entry.Le ⟨score, member⟩
  sorted := (set.keep fun entry => entry.member ≠ member).sorted.orderedInsert _ _
  nodup := by
    have fresh : member ∉ (set.keep fun entry => entry.member ≠ member).entries.map Entry.member := by
      intro held
      obtain ⟨entry, kept, rfl⟩ := List.mem_map.mp held
      exact of_decide_eq_true (List.mem_filter.mp kept).2 rfl
    refine (((List.perm_orderedInsert Entry.Le _ _).map Entry.member).nodup_iff).mpr ?_
    exact List.nodup_cons.mpr ⟨fresh, (set.keep _).nodup⟩

/-- `ZRANGE 0 0`: the first entry. -/
def first? (set : SortedSet σ μ) : Option (Entry σ μ) := set.entries.head?

/-- `ZCARD`. -/
def zcard (set : SortedSet σ μ) : ℕ := set.entries.length

/-- A member that is not held and whose score is above all others comes last. -/
theorem entries_zadd_of_lt {set : SortedSet σ μ} {member : μ} {score : σ}
    (above : ∀ entry ∈ set.entries, entry.score < score)
    (fresh : ∀ entry ∈ set.entries, entry.member ≠ member) :
    (set.zadd member score).entries = set.entries ++ [⟨score, member⟩] := by
  have all : (set.keep fun entry => entry.member ≠ member).entries = set.entries :=
    List.filter_eq_self.mpr fun entry held => decide_eq_true (fresh entry held)
  have later : ∀ entry ∈ set.entries, ¬ Entry.Le ⟨score, member⟩ entry := by
    rintro entry held (less | ⟨same, _⟩)
    · exact lt_asymm less (above entry held)
    · exact (above entry held).ne' same
  have taken : set.entries.takeWhile (fun entry => ¬ Entry.Le ⟨score, member⟩ entry) =
      set.entries :=
    List.takeWhile_eq_self_iff.mpr fun entry held => decide_eq_true (later entry held)
  have dropped : set.entries.dropWhile (fun entry => ¬ Entry.Le ⟨score, member⟩ entry) = [] :=
    List.dropWhile_eq_nil_iff.mpr fun entry held => decide_eq_true (later entry held)
  change (set.keep _).entries.orderedInsert Entry.Le _ = _
  rw [all, List.orderedInsert_eq_take_drop, taken, dropped]

/-- A member that is held takes the place of its entry. -/
theorem zcard_zadd_le_of_mem {set : SortedSet σ μ} {member : μ} (score : σ)
    (held : ∃ entry ∈ set.entries, entry.member = member) :
    (set.zadd member score).zcard ≤ set.zcard := by
  obtain ⟨entry, present, rfl⟩ := held
  have fewer : (set.keep fun other => other.member ≠ entry.member).entries.length <
      set.entries.length :=
    List.length_filter_lt_length_iff_exists.mpr
      ⟨entry, present, by simp⟩
  change ((set.keep _).entries.orderedInsert Entry.Le _).length ≤ set.entries.length
  rw [List.orderedInsert_length]
  exact fewer

end SortedSet
