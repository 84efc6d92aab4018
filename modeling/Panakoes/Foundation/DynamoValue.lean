import Panakoes.Foundation.PyValue

/-! # Items as a client writes and reads them

The client refuses a float, and a number of more than 38 digits. What it takes it writes exactly, and
every number comes back as a decimal. The table sets no other bound to a number or an item.
-/

namespace DynamoValue

/-- An item. -/
abbrev Item := List (String × PyValue)

/-- What the client raises. -/
inductive StoreError where
  | typeError
  | inexact
  deriving DecidableEq

/-- What is stored of a leaf. -/
def serialize : PyValue → Except StoreError PyValue
  | .float _ => .error .typeError
  | .int value =>
      if (PyDecimal.ofInt value).Short 38 then .ok (.decimal (.ofInt value)) else .error .inexact
  | .decimal (.finite negative coefficient exponent) =>
      if coefficient < 10 ^ 38 then .ok (.decimal (.finite negative coefficient exponent))
      else .error .inexact
  | .decimal (.infinity _) | .decimal (.nan _) => .error .typeError
  | value => .ok value

/-- What is stored of an item. -/
def serializeItem (item : Item) : Except StoreError Item := PyValue.traverseEntries serialize item

/-- `int(value)` of a value that is a decimal. -/
def intOfDecimal : PyValue → PyValue
  | .decimal decimal =>
      match decimal.rat with
      | some value => .int (value.num.tdiv value.den)
      | none => .decimal decimal
  | value => value

/-- The attributes with integers for the decimals among them. -/
def cleaned (item : Item) : Item := item.map fun entry => (entry.1, intOfDecimal entry.2)

/-- `item[name] = value`: the attribute keeps its place if it is there. -/
def set (item : Item) (name : String) (value : PyValue) : Item :=
  if (item.lookup name).isSome then
    item.map fun entry => if entry.1 = name then (name, value) else entry
  else item ++ [(name, value)]

/-- `REMOVE` of an attribute. -/
def remove (item : Item) (name : String) : Item := item.filter fun entry => entry.1 ≠ name

variable {item : Item} {name other : String} {value : PyValue}

/-- A decimal of at most 38 digits is stored as it is. -/
theorem serialize_decimal {decimal : PyDecimal} (short : decimal.Short 38) :
    serialize (.decimal decimal) = .ok (.decimal decimal) := by
  cases decimal with
  | finite negative coefficient exponent => exact if_pos short
  | infinity _ | nan _ => cases short

theorem isOk_serialize_int {value : ℤ} :
    (serialize (.int value)).isOk = true ↔ (PyDecimal.ofInt value).Short 38 := by
  rw [serialize]
  split
  · rename_i short
    exact iff_of_true rfl short
  · rename_i long
    exact iff_of_false (fun same => nomatch same) long

@[simp] theorem intOfDecimal_ofInt (value : ℤ) :
    intOfDecimal (.decimal (.ofInt value)) = .int value := by
  rw [intOfDecimal, PyDecimal.rat_ofInt]
  simp

theorem lookup_cleaned : (cleaned item).lookup name = (item.lookup name).map intOfDecimal := by
  induction item with
  | nil => rfl
  | cons entry rest ih =>
      obtain ⟨key, value⟩ := entry
      rw [cleaned, List.map_cons, List.lookup_cons, List.lookup_cons]
      by_cases same : name = key
      · subst same
        simp
      · rw [beq_eq_false_iff_ne.mpr same]
        exact ih

theorem lookup_set : (set item name value).lookup other =
    if other = name then some value else item.lookup other := by
  rw [set, PyJson.lookup_put]

theorem lookup_remove : (remove item name).lookup other =
    if other = name then none else item.lookup other := by
  induction item with
  | nil => split <;> rfl
  | cons entry rest ih =>
      obtain ⟨key, value⟩ := entry
      by_cases here : key = name
      · subst here
        have gone : remove ((key, value) :: rest) key = remove rest key :=
          List.filter_cons_of_neg (by simp)
        rw [gone, ih]
        by_cases same : other = key
        · rw [if_pos same, if_pos same]
        · rw [if_neg same, if_neg same, List.lookup_cons, beq_false_of_ne same]
      · have kept : remove ((key, value) :: rest) name = (key, value) :: remove rest name :=
          List.filter_cons_of_pos (by simpa using here)
        rw [kept, List.lookup_cons, List.lookup_cons, ih]
        by_cases same : other = key
        · subst same
          simp [here]
        · rw [beq_false_of_ne same]

/-- What holds of the attributes after a write holds of the one written and of the others. -/
theorem forall_mem_set {holds : String × PyValue → Prop} :
    (∀ entry ∈ set item name value, holds entry) ↔
      holds (name, value) ∧ ∀ entry ∈ item, entry.1 ≠ name → holds entry := by
  rw [set]
  split
  · rename_i found
    obtain ⟨old, found⟩ := Option.isSome_iff_exists.mp found
    obtain ⟨before, after, rfl, -⟩ := List.lookup_eq_some_iff.mp found
    rw [List.forall_mem_map]
    constructor
    · intro all
      refine ⟨by simpa using all (name, old) (by simp), fun entry member different => ?_⟩
      simpa [different] using all entry member
    · rintro ⟨written, others⟩ entry member
      split
      · exact written
      · rename_i different
        exact others entry member different
  · rename_i missing
    rw [List.forall_mem_append, List.forall_mem_singleton, and_comm]
    refine and_congr_right fun _ => forall₂_congr fun entry member => ?_
    have different : entry.1 ≠ name := by
      intro same
      refine missing (Option.isSome_iff_exists.mpr ?_)
      by_contra none
      rw [not_exists, ← Option.eq_none_iff_forall_ne_some, List.lookup_eq_none_iff] at none
      exact absurd (none entry member) (by simp [same])
    exact ⟨fun held _ => held, fun held => held different⟩

theorem forall_mem_remove {holds : String × PyValue → Prop} :
    (∀ entry ∈ remove item name, holds entry) ↔ ∀ entry ∈ item, entry.1 ≠ name → holds entry := by
  simp [remove, List.mem_filter]

end DynamoValue
