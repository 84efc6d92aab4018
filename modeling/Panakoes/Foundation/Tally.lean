import Mathlib.Algebra.BigOperators.Group.List.Basic
import Mathlib.Data.List.Induction
import Mathlib.Data.List.Nodup
import Mathlib.Tactic.Linarith

/-! # Sums by key

A dictionary keeps the order in which its keys were first set. A tally adds each amount to what the
dictionary holds under its key, so that a key holds the sum of its amounts and the dictionary holds
the sum of all.
-/

namespace Tally

variable {κ ν : Type*} [DecidableEq κ]

/-- `entries[key] = value`. -/
def set (key : κ) (value : ν) : List (κ × ν) → List (κ × ν)
  | [] => [(key, value)]
  | entry :: rest => if entry.1 = key then (key, value) :: rest else entry :: set key value rest

/-- `entries.get(key)`. -/
def get? (key : κ) : List (κ × ν) → Option ν
  | [] => none
  | entry :: rest => if entry.1 = key then some entry.2 else get? key rest

/-- `entries[key] = entries.get(key, 0) + amount`. -/
def add (entries : List (κ × ℤ)) (item : κ × ℤ) : List (κ × ℤ) :=
  set item.1 ((get? item.1 entries).getD 0 + item.2) entries

/-- All items added in turn. -/
def tally (items : List (κ × ℤ)) : List (κ × ℤ) := items.foldl add []

/-- The sum of the amounts of a key. -/
def sumOf (key : κ) (items : List (κ × ℤ)) : ℤ :=
  ((items.filter fun item => item.1 = key).map Prod.snd).sum

variable {key other : κ} {value : ν} {entries : List (κ × ν)} {items : List (κ × ℤ)}

theorem get?_cons (entry : κ × ν) :
    get? key (entry :: entries) = if entry.1 = key then some entry.2 else get? key entries := rfl

theorem get?_set_self : get? key (set key value entries) = some value := by
  induction entries with
  | nil => rw [set, get?_cons, if_pos rfl]
  | cons entry rest ih =>
      unfold set
      split
      · rw [get?_cons, if_pos rfl]
      · rename_i apart
        rw [get?_cons, if_neg apart, ih]

theorem get?_set_of_ne (apart : other ≠ key) :
    get? other (set key value entries) = get? other entries := by
  induction entries with
  | nil => rw [set, get?_cons, if_neg apart.symm]
  | cons entry rest ih =>
      unfold set
      split
      · rename_i same
        rw [get?_cons, get?_cons, if_neg apart.symm, same, if_neg apart.symm]
      · rw [get?_cons, get?_cons, ih]

theorem mem_keys_set :
    other ∈ (set key value entries).map Prod.fst ↔
      other = key ∨ other ∈ entries.map Prod.fst := by
  induction entries with
  | nil => simp [set]
  | cons entry rest ih =>
      unfold set
      split
      · rename_i same
        simp [same]
      · simp only [List.map_cons, List.mem_cons, ih]
        tauto

theorem nodup_keys_set (nodup : (entries.map Prod.fst).Nodup) :
    ((set key value entries).map Prod.fst).Nodup := by
  induction entries with
  | nil => exact List.nodup_singleton key
  | cons entry rest ih =>
      obtain ⟨fresh, nodup⟩ := List.nodup_cons.mp nodup
      unfold set
      split
      · rename_i same
        exact List.nodup_cons.mpr ⟨same ▸ fresh, nodup⟩
      · rename_i apart
        apply List.nodup_cons.mpr
        refine ⟨fun member => ?_, ih nodup⟩
        rcases mem_keys_set.mp member with same | held
        · exact apart same
        · exact fresh held

/-- A new key is put last. -/
theorem set_of_not_mem (fresh : key ∉ entries.map Prod.fst) :
    set key value entries = entries ++ [(key, value)] := by
  induction entries with
  | nil => rfl
  | cons entry rest ih =>
      rw [List.map_cons, List.mem_cons, not_or] at fresh
      rw [set, if_neg (Ne.symm fresh.1), ih fresh.2, List.cons_append]

/-- An entry is what its key holds. -/
theorem mem_iff_get? (nodup : (entries.map Prod.fst).Nodup) :
    (key, value) ∈ entries ↔ get? key entries = some value := by
  induction entries with
  | nil => exact iff_of_false List.not_mem_nil (Option.some_ne_none _).symm
  | cons entry rest ih =>
      obtain ⟨fresh, nodup⟩ := List.nodup_cons.mp nodup
      rw [get?_cons, List.mem_cons, ih nodup]
      split
      · rename_i same
        have absent : get? key rest ≠ some value := fun held =>
          fresh (same ▸ List.mem_map_of_mem ((ih nodup).mpr held))
        rw [or_iff_left absent, Option.some_inj]
        constructor
        · intro equal
          rw [← equal]
        · intro equal
          rw [← same, ← equal]
      · rename_i apart
        apply or_iff_right
        intro equal
        exact apart (congrArg Prod.fst equal).symm

theorem get?_eq_none_iff : get? key entries = none ↔ key ∉ entries.map Prod.fst := by
  induction entries with
  | nil => exact iff_of_true rfl List.not_mem_nil
  | cons entry rest ih =>
      rw [get?_cons, List.map_cons, List.mem_cons, not_or, ← ih]
      split
      · rename_i same
        exact iff_of_false (Option.some_ne_none _) fun both => both.1 same.symm
      · rename_i apart
        exact (and_iff_right (Ne.symm apart)).symm

/-! ## What a tally holds -/

theorem tally_concat (item : κ × ℤ) : tally (items ++ [item]) = add (tally items) item :=
  List.foldl_concat ..

theorem nodup_keys_tally (items : List (κ × ℤ)) : ((tally items).map Prod.fst).Nodup := by
  induction items using List.reverseRecOn with
  | nil => exact List.nodup_nil
  | append_singleton items item ih =>
      rw [tally_concat]
      exact nodup_keys_set ih

/-- The keys of a tally are those of the items. -/
theorem mem_keys_tally : key ∈ (tally items).map Prod.fst ↔ key ∈ items.map Prod.fst := by
  induction items using List.reverseRecOn with
  | nil => exact Iff.rfl
  | append_singleton items item ih =>
      rw [tally_concat, add, mem_keys_set, ih, List.map_append, List.mem_append, List.map_singleton,
        List.mem_singleton, or_comm]

theorem sumOf_concat (item : κ × ℤ) :
    sumOf key (items ++ [item]) = sumOf key items + if item.1 = key then item.2 else 0 := by
  unfold sumOf
  rw [List.filter_append, List.map_append, List.sum_append]
  by_cases same : item.1 = key <;> simp [same]

theorem getD_get?_tally (items : List (κ × ℤ)) (key : κ) :
    (get? key (tally items)).getD 0 = sumOf key items := by
  induction items using List.reverseRecOn generalizing key with
  | nil => rfl
  | append_singleton items item ih =>
      rw [tally_concat, add, sumOf_concat]
      by_cases same : item.1 = key
      · rw [same, get?_set_self, if_pos rfl, ← ih]
        rfl
      · rw [get?_set_of_ne (Ne.symm same), if_neg same, Int.add_zero, ih]

/-- A key holds the sum of its amounts. -/
theorem mem_tally {amount : ℤ} :
    (key, amount) ∈ tally items ↔ key ∈ items.map Prod.fst ∧ amount = sumOf key items := by
  rw [mem_iff_get? (nodup_keys_tally items), ← getD_get?_tally, ← mem_keys_tally]
  cases held : get? key (tally items) with
  | none =>
      have absent := get?_eq_none_iff.mp held
      simp [absent]
  | some found =>
      have present : key ∈ (tally items).map Prod.fst := by
        by_contra absent
        rw [get?_eq_none_iff.mpr absent] at held
        cases held
      rw [Option.some_inj, Option.getD_some, and_iff_right present]
      exact eq_comm

theorem sum_set (amount : ℤ) (entries : List (κ × ℤ)) :
    ((set key amount entries).map Prod.snd).sum =
      (entries.map Prod.snd).sum - (get? key entries).getD 0 + amount := by
  induction entries with
  | nil => simp [set, get?]
  | cons entry rest ih =>
      unfold set
      rw [get?_cons, List.map_cons, List.sum_cons]
      split
      · rw [List.map_cons, List.sum_cons, Option.getD_some]
        omega
      · rw [List.map_cons, List.sum_cons, ih]
        omega

/-- A tally holds the sum of all amounts. -/
theorem sum_tally (items : List (κ × ℤ)) :
    ((tally items).map Prod.snd).sum = (items.map Prod.snd).sum := by
  induction items using List.reverseRecOn with
  | nil => rfl
  | append_singleton items item ih =>
      rw [tally_concat, add, sum_set, ih, List.map_append, List.sum_append, List.map_singleton,
        List.sum_singleton]
      omega

/-! ## Items taken key by key -/

/-- The items of distinct keys, taken key by key, are the items that have one of the keys. -/
theorem flatMap_filter_perm {α : Type*} (keyOf : α → κ) {keys : List κ} (distinct : keys.Nodup)
    (items : List α) :
    (keys.flatMap fun key => items.filter fun item => keyOf item = key).Perm
      (items.filter fun item => keyOf item ∈ keys) := by
  induction keys with
  | nil => simp
  | cons key keys ih =>
      obtain ⟨fresh, distinct⟩ := List.nodup_cons.mp distinct
      have split := List.filter_append_perm (fun item => decide (keyOf item = key))
        (items.filter fun item => keyOf item ∈ key :: keys)
      rw [List.filter_filter, List.filter_filter] at split
      rw [List.flatMap_cons]
      refine List.Perm.trans ?_ split
      apply List.Perm.append
      · apply List.Perm.of_eq
        apply List.filter_congr
        intro item _
        by_cases same : keyOf item = key <;> simp [same]
      · refine (ih distinct).trans (List.Perm.of_eq ?_)
        apply List.filter_congr
        intro item _
        by_cases same : keyOf item = key
        · simp [same, fresh]
        · simp [same]

end Tally
