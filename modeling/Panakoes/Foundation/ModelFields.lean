import Panakoes.Foundation.PyValue

/-! # Fields of a model

What a model reads of the values of its fields: a field may be required, have a default, or be
`None`. A number is read as a float by rounding it.
-/

namespace ModelFields

/-- How values are read as floats, integers and times, and the text that is written of a time. -/
structure Formats extends FloatText where
  float : PyValue → Option ℚ
  int : PyValue → Option ℤ
  datetime : PyValue → Option ℚ
  isoformat : ℚ → String
  float_float : ∀ value, float (.float (some value)) = some value
  float_int : ∀ value : ℤ, float (.int value) = nearest value
  float_decimal : ∀ decimal, float (.decimal decimal) = decimal.rat.bind nearest
  int_int : ∀ value, int (.int value) = some value
  int_decimal : ∀ (decimal : PyDecimal) (value : ℤ), decimal.rat = some (value : ℚ) →
    int (.decimal decimal) = some value
  datetime_isoformat : ∀ time, (datetime (.str (isoformat time))).isSome

variable {α β : Type} (read : PyValue → Option α) (entries : List (String × PyValue)) (name : String)

/-- A text. -/
def str? : PyValue → Option String
  | .str text => some text
  | _ => none

/-- One of the texts of an enumeration. -/
def literal? (ofText : String → Option α) (value : PyValue) : Option α := (str? value).bind ofText

/-- A list. -/
def list? : PyValue → Option (List α)
  | .list items => items.mapM read
  | _ => none

/-- A field without a default. -/
def required : Option α := (entries.lookup name).bind read

/-- A field with a default. -/
def defaulted (default : α) : Option α :=
  match entries.lookup name with
  | none => some default
  | some value => read value

/-- A field that may be `None`, which is its default. -/
def optional : Option (Option α) :=
  match entries.lookup name with
  | none | some .none => some none
  | some value => (read value).map some

variable {read entries name}

theorem required_of_lookup {value : PyValue} (held : entries.lookup name = some value) :
    required read entries name = read value := by
  rw [required, held, Option.bind_some]

theorem defaulted_of_lookup {value : PyValue} {default : α}
    (held : entries.lookup name = some value) : defaulted read entries name default = read value := by
  rw [defaulted, held]

theorem optional_of_missing (missing : entries.lookup name = none) :
    optional read entries name = some none := by
  rw [optional, missing]

theorem optional_of_none (held : entries.lookup name = some .none) :
    optional read entries name = some none := by
  rw [optional, held]

theorem optional_of_lookup {value : PyValue} (held : entries.lookup name = some value)
    (present : value ≠ .none) : optional read entries name = (read value).map some := by
  rw [optional, held]
  cases value with
  | none => exact absurd rfl present
  | bool _ | int _ | float _ | decimal _ | str _ | list _ | dict _ => rfl

/-- A list whose items are read one by one. -/
theorem list?_map {items : List β} {write : β → PyValue} {back : β → α}
    (reads : ∀ item ∈ items, read (write item) = some (back item)) :
    list? read (.list (items.map write)) = some (items.map back) := by
  rw [list?]
  induction items with
  | nil => rfl
  | cons item rest ih =>
      obtain ⟨head, tail⟩ := List.forall_mem_cons.mp reads
      rw [List.map_cons, List.mapM_cons, head, ih tail]
      rfl

end ModelFields
