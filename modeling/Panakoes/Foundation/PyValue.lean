import Mathlib.Algebra.Order.Field.Rat
import Panakoes.Foundation.PyDecimal
import Panakoes.Foundation.PyJson

/-! # Values with floats and decimals

The values of a program that tells floats from decimals, as a client of a table does that holds
decimals only. A conversion of such values treats their leaves, and keeps the lists and dictionaries
around them.
-/

namespace PyDecimal

/-- The exact value of a decimal that has one. -/
def rat : PyDecimal → Option ℚ
  | .finite negative coefficient (.ofNat exponent) =>
      some ((if negative then -(coefficient : ℚ) else coefficient) * 10 ^ exponent)
  | .finite negative coefficient (.negSucc exponent) =>
      some ((if negative then -(coefficient : ℚ) else coefficient) / 10 ^ (exponent + 1))
  | .infinity _ | .nan _ => none

/-- `Decimal(value)` of an integer. -/
def ofInt (value : ℤ) : PyDecimal := .finite (value < 0) value.natAbs 0

@[simp] theorem rat_ofInt (value : ℤ) : (ofInt value).rat = some (value : ℚ) := by
  cases value with
  | ofNat value => simp [ofInt, rat]
  | negSucc value => simp [ofInt, rat]

end PyDecimal

/-- A value. A float is its exact value, or `none` when it is not finite. The entries of a
dictionary have distinct keys. -/
inductive PyValue where
  | none
  | bool (value : Bool)
  | int (value : ℤ)
  | float (value : Option ℚ)
  | decimal (value : PyDecimal)
  | str (value : String)
  | list (items : List PyValue)
  | dict (entries : List (String × PyValue))

namespace PyValue

/-- The induction over a value: over the items of a list, and over the values of a dictionary. -/
theorem nested {holds : PyValue → Prop}
    (none : holds .none) (bool : ∀ value, holds (.bool value)) (int : ∀ value, holds (.int value))
    (float : ∀ value, holds (.float value)) (decimal : ∀ value, holds (.decimal value))
    (str : ∀ value, holds (.str value))
    (list : ∀ items, (∀ item ∈ items, holds item) → holds (.list items))
    (dict : ∀ entries, (∀ entry ∈ entries, holds entry.2) → holds (.dict entries))
    (value : PyValue) : holds value :=
  @PyValue.rec holds (fun items => ∀ item ∈ items, holds item)
    (fun entries => ∀ entry ∈ entries, holds entry.2) (fun entry => holds entry.2)
    none bool int float decimal str list dict
    (List.forall_mem_nil _) (fun _ _ head tail => List.forall_mem_cons.mpr ⟨head, tail⟩)
    (List.forall_mem_nil _) (fun _ _ head tail => List.forall_mem_cons.mpr ⟨head, tail⟩)
    (fun _ _ held => held) value

/-! ## Conversions -/

mutual

/-- The value with each leaf converted. -/
def map (leaf : PyValue → PyValue) : PyValue → PyValue
  | .list items => .list (mapItems leaf items)
  | .dict entries => .dict (mapEntries leaf entries)
  | value => leaf value

/-- The items with each leaf converted. -/
def mapItems (leaf : PyValue → PyValue) : List PyValue → List PyValue
  | [] => []
  | item :: rest => map leaf item :: mapItems leaf rest

/-- The entries with each leaf converted. -/
def mapEntries (leaf : PyValue → PyValue) : List (String × PyValue) → List (String × PyValue)
  | [] => []
  | (key, value) :: rest => (key, map leaf value) :: mapEntries leaf rest

end

mutual

/-- The value with each leaf converted, by a conversion that can fail. -/
def traverse {ε : Type} (leaf : PyValue → Except ε PyValue) : PyValue → Except ε PyValue
  | .list items => do return .list (← traverseItems leaf items)
  | .dict entries => do return .dict (← traverseEntries leaf entries)
  | value => leaf value

/-- The items with each leaf converted, by a conversion that can fail. -/
def traverseItems {ε : Type} (leaf : PyValue → Except ε PyValue) :
    List PyValue → Except ε (List PyValue)
  | [] => .ok []
  | item :: rest => do return (← traverse leaf item) :: (← traverseItems leaf rest)

/-- The entries with each leaf converted, by a conversion that can fail. -/
def traverseEntries {ε : Type} (leaf : PyValue → Except ε PyValue) :
    List (String × PyValue) → Except ε (List (String × PyValue))
  | [] => .ok []
  | (key, value) :: rest => do
      return (key, ← traverse leaf value) :: (← traverseEntries leaf rest)

end

mutual

/-- The leaves of a value. -/
def leaves : PyValue → List PyValue
  | .list items => leavesOfItems items
  | .dict entries => leavesOfEntries entries
  | value => [value]

/-- The leaves of items. -/
def leavesOfItems : List PyValue → List PyValue
  | [] => []
  | item :: rest => leaves item ++ leavesOfItems rest

/-- The leaves of entries. -/
def leavesOfEntries : List (String × PyValue) → List PyValue
  | [] => []
  | (_, value) :: rest => leaves value ++ leavesOfEntries rest

end

variable {leaf convert : PyValue → PyValue} {ε : Type} {partly : PyValue → Except ε PyValue}

@[simp] theorem map_none : map leaf .none = leaf .none := rfl

@[simp] theorem map_int (value : ℤ) : map leaf (.int value) = leaf (.int value) := rfl

@[simp] theorem map_float (value : Option ℚ) : map leaf (.float value) = leaf (.float value) := rfl

@[simp] theorem map_decimal (value : PyDecimal) :
    map leaf (.decimal value) = leaf (.decimal value) := rfl

@[simp] theorem map_str (value : String) : map leaf (.str value) = leaf (.str value) := rfl

@[simp] theorem leaves_none : leaves .none = [.none] := rfl

@[simp] theorem leaves_int (value : ℤ) : leaves (.int value) = [.int value] := rfl

@[simp] theorem leaves_float (value : Option ℚ) : leaves (.float value) = [.float value] := rfl

@[simp] theorem leaves_decimal (value : PyDecimal) : leaves (.decimal value) = [.decimal value] := rfl

@[simp] theorem leaves_str (value : String) : leaves (.str value) = [.str value] := rfl

theorem mapItems_eq (items : List PyValue) : mapItems leaf items = items.map (map leaf) := by
  induction items with
  | nil => rfl
  | cons item rest ih => rw [mapItems, ih, List.map_cons]

theorem mapEntries_eq (entries : List (String × PyValue)) :
    mapEntries leaf entries = entries.map fun entry => (entry.1, map leaf entry.2) := by
  induction entries with
  | nil => rfl
  | cons entry rest ih => rw [mapEntries, ih, List.map_cons]

theorem forall_leavesOfItems {holds : PyValue → Prop} (items : List PyValue) :
    (∀ found ∈ leavesOfItems items, holds found) ↔
      ∀ item ∈ items, ∀ found ∈ leaves item, holds found := by
  induction items with
  | nil => exact iff_of_true (List.forall_mem_nil _) (List.forall_mem_nil _)
  | cons item rest ih => rw [leavesOfItems, List.forall_mem_append, List.forall_mem_cons, ih]

theorem forall_leavesOfEntries {holds : PyValue → Prop} (entries : List (String × PyValue)) :
    (∀ found ∈ leavesOfEntries entries, holds found) ↔
      ∀ entry ∈ entries, ∀ found ∈ leaves entry.2, holds found := by
  induction entries with
  | nil => exact iff_of_true (List.forall_mem_nil _) (List.forall_mem_nil _)
  | cons entry rest ih => rw [leavesOfEntries, List.forall_mem_append, List.forall_mem_cons, ih]

/-- A conversion keeps the keys. -/
@[simp] theorem lookup_mapEntries (entries : List (String × PyValue)) (key : String) :
    (mapEntries leaf entries).lookup key = (entries.lookup key).map (map leaf) := by
  induction entries with
  | nil => rfl
  | cons entry rest ih =>
      obtain ⟨other, value⟩ := entry
      rw [mapEntries, List.lookup_cons, List.lookup_cons, ih]
      cases key == other <;> rfl

/-- The leaves after a conversion are those of the converted leaves. -/
theorem leaves_map (value : PyValue) :
    leaves (map leaf value) = (leaves value).flatMap fun found => leaves (leaf found) := by
  induction value using nested with
  | none | bool _ | int _ | float _ | decimal _ | str _ => exact (List.append_nil _).symm
  | list items ih =>
      rw [map, leaves, leaves]
      induction items with
      | nil => rfl
      | cons item rest inner =>
          obtain ⟨head, tail⟩ := List.forall_mem_cons.mp ih
          rw [mapItems, leavesOfItems, leavesOfItems, List.flatMap_append, head, inner tail]
  | dict entries ih =>
      rw [map, leaves, leaves]
      induction entries with
      | nil => rfl
      | cons entry rest inner =>
          obtain ⟨key, value⟩ := entry
          obtain ⟨head, tail⟩ := List.forall_mem_cons.mp ih
          rw [mapEntries, leavesOfEntries, leavesOfEntries, List.flatMap_append, head, inner tail]

theorem forall_leaves_map {holds : PyValue → Prop} (value : PyValue) :
    (∀ found ∈ leaves (map leaf value), holds found) ↔
      ∀ found ∈ leaves value, ∀ inner ∈ leaves (leaf found), holds inner := by
  rw [leaves_map, List.forall_mem_flatMap]

/-! ## Conversions that can fail -/

theorem traverseItems_of {items : List PyValue}
    (each : ∀ item ∈ items, traverse partly item = .ok (map convert item)) :
    traverseItems partly items = .ok (mapItems convert items) := by
  induction items with
  | nil => rfl
  | cons item rest ih =>
      obtain ⟨head, tail⟩ := List.forall_mem_cons.mp each
      rw [traverseItems, head, ih tail, mapItems]
      rfl

theorem traverseEntries_of {entries : List (String × PyValue)}
    (each : ∀ entry ∈ entries, traverse partly entry.2 = .ok (map convert entry.2)) :
    traverseEntries partly entries = .ok (mapEntries convert entries) := by
  induction entries with
  | nil => rfl
  | cons entry rest ih =>
      obtain ⟨head, tail⟩ := List.forall_mem_cons.mp each
      rw [traverseEntries, head, ih tail, mapEntries]
      rfl

/-- The leaf conversions that return make the conversion of the value. -/
theorem traverse_eq_map (value : PyValue) :
    (∀ found ∈ leaves value, partly found = .ok (convert found)) →
      traverse partly value = .ok (map convert value) := by
  induction value using nested with
  | none | bool _ | int _ | float _ | decimal _ | str _ =>
      exact fun returns => returns _ (List.mem_singleton_self _)
  | list items ih =>
      intro returns
      have each := (forall_leavesOfItems items).mp returns
      rw [traverse, traverseItems_of fun item member => ih item member (each item member), map]
      rfl
  | dict entries ih =>
      intro returns
      have each := (forall_leavesOfEntries entries).mp returns
      rw [traverse, traverseEntries_of fun entry member => ih entry member (each entry member), map]
      rfl

/-- What a leaf conversion makes of a leaf, and the leaf where it fails. -/
def orSelf (partly : PyValue → Except ε PyValue) (found : PyValue) : PyValue :=
  match partly found with
  | .ok value => value
  | .error _ => found

theorem orSelf_of_ok {found value : PyValue} (returned : partly found = .ok value) :
    orSelf partly found = value := by
  rw [orSelf, returned]

theorem ok_orSelf {found : PyValue} (returns : (partly found).isOk = true) :
    partly found = .ok (orSelf partly found) := by
  obtain ⟨value, returned⟩ := Except.exists_of_isOk returns
  rw [orSelf_of_ok returned, returned]

theorem isOk_traverseItems_iff (items : List PyValue) :
    (traverseItems partly items).isOk = true ↔
      ∀ item ∈ items, (traverse partly item).isOk = true := by
  induction items with
  | nil => exact iff_of_true rfl (List.forall_mem_nil _)
  | cons item rest ih =>
      rw [traverseItems, List.forall_mem_cons, ← ih]
      exact Except.isOk_bind_iff fun _ _ =>
        (Except.isOk_bind_iff fun _ _ => iff_true_intro rfl).trans (and_iff_left trivial)

theorem isOk_traverseEntries_iff (entries : List (String × PyValue)) :
    (traverseEntries partly entries).isOk = true ↔
      ∀ entry ∈ entries, (traverse partly entry.2).isOk = true := by
  induction entries with
  | nil => exact iff_of_true rfl (List.forall_mem_nil _)
  | cons entry rest ih =>
      obtain ⟨key, value⟩ := entry
      rw [traverseEntries, List.forall_mem_cons, ← ih]
      exact Except.isOk_bind_iff fun _ _ =>
        (Except.isOk_bind_iff fun _ _ => iff_true_intro rfl).trans (and_iff_left trivial)

/-- A conversion returns if and only if it does at each leaf. -/
theorem isOk_traverse_iff (value : PyValue) :
    (traverse partly value).isOk = true ↔ ∀ found ∈ leaves value, (partly found).isOk = true := by
  induction value using nested with
  | none | bool _ | int _ | float _ | decimal _ | str _ =>
      rw [leaves, List.forall_mem_singleton, traverse]
      all_goals exact fun _ same => nomatch same
  | list items ih =>
      rw [traverse, leaves, forall_leavesOfItems]
      refine ((Except.isOk_bind_iff fun _ _ => iff_true_intro rfl).trans (and_iff_left trivial)).trans ?_
      exact (isOk_traverseItems_iff items).trans (forall₂_congr ih)
  | dict entries ih =>
      rw [traverse, leaves, forall_leavesOfEntries]
      refine ((Except.isOk_bind_iff fun _ _ => iff_true_intro rfl).trans (and_iff_left trivial)).trans ?_
      exact (isOk_traverseEntries_iff entries).trans (forall₂_congr ih)

/-- A conversion that returns has converted the leaves. -/
theorem traverse_of_isOk {value : PyValue} (returns : (traverse partly value).isOk = true) :
    traverse partly value = .ok (map (orSelf partly) value) :=
  traverse_eq_map value fun found member =>
    ok_orSelf ((isOk_traverse_iff value).mp returns found member)

theorem traverseEntries_of_isOk {entries : List (String × PyValue)}
    (returns : (traverseEntries partly entries).isOk = true) :
    traverseEntries partly entries = .ok (mapEntries (orSelf partly) entries) :=
  traverseEntries_of fun entry member =>
    traverse_of_isOk ((isOk_traverseEntries_iff entries).mp returns entry member)

end PyValue

/-- A finite decimal with a coefficient of at most so many digits. -/
def PyDecimal.Short (digits : ℕ) : PyDecimal → Prop
  | .finite _ coefficient _ => coefficient < 10 ^ digits
  | .infinity _ | .nan _ => False

instance {digits : ℕ} : DecidablePred (PyDecimal.Short digits)
  | .finite _ coefficient _ => inferInstanceAs (Decidable (coefficient < 10 ^ digits))
  | .infinity _ | .nan _ => inferInstanceAs (Decidable False)

/-- The floats: the one that a number is read as, and the numerals that `str` and a writer of JSON
make of one. -/
structure FloatText where
  nearest : ℚ → Option ℚ
  str : ℚ → PyDecimal
  json : ℚ → PyDecimal
  str_short : ∀ value, nearest value = some value → (str value).Short 38
  json_short : ∀ value, nearest value = some value → (json value).Short 38
  str_reads : ∀ value, nearest value = some value → (str value).rat.bind nearest = some value
  json_reads : ∀ value, nearest value = some value → (json value).rat.bind nearest = some value

/-- The number is a finite float. -/
def FloatText.IsFloat (floats : FloatText) (value : ℚ) : Prop := floats.nearest value = some value
