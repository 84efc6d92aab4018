import Panakoes.Foundation.PyJson

/-! # Items of a table as a client reads them

An item is the dictionary of its attributes. Every number of it comes back as a decimal, and a
client that expects integers turns each of them into one, towards zero.
-/

namespace DynamoItem

/-- An item of a table. -/
abbrev Item := List (String × PyJson)

/-- `int(value)` of a value that is a decimal. -/
def intOfDecimal : PyJson → PyJson
  | .float (some value) => .int (value.num.tdiv value.den)
  | value => value

/-- The attributes with integers for the decimals. -/
def cleaned (item : Item) : Item := item.map fun entry => (entry.1, intOfDecimal entry.2)

/-- An attribute that is a text. -/
def str? (item : Item) (name : String) : Option String :=
  match item.lookup name with
  | some (.str text) => some text
  | _ => none

/-- An attribute that is an integer. -/
def int? (item : Item) (name : String) : Option ℤ :=
  match item.lookup name with
  | some (.int value) => some value
  | _ => none

theorem lookup_cleaned (item : Item) (name : String) :
    (cleaned item).lookup name = (item.lookup name).map intOfDecimal := by
  induction item with
  | nil => rfl
  | cons entry rest ih =>
      obtain ⟨key, value⟩ := entry
      rw [cleaned, List.map_cons, List.lookup_cons, List.lookup_cons]
      by_cases same : name = key
      · subst same
        simp
      · have different : (name == key) = false := beq_eq_false_iff_ne.mpr same
        rw [different]
        exact ih

/-- Reading an integer for each decimal leaves the texts. -/
theorem str?_cleaned (item : Item) (name : String) : str? (cleaned item) name = str? item name := by
  unfold str?
  rw [lookup_cleaned]
  cases item.lookup name with
  | none => rfl
  | some value =>
      cases value with
      | float value => cases value <;> rfl
      | none | bool _ | int _ | str _ | list _ | dict _ => rfl

end DynamoItem
