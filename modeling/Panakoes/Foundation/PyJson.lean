import Mathlib.Data.Rat.Defs

/-! # Decoded JSON values

The values a JSON decoder hands to a dynamically typed program, with the tests
such a program makes on them: `isinstance`, truthiness and dictionary lookup.
A boolean is an integer there, as in Python.
-/

/-- A decoded JSON value. A float is its exact value, or `none` when it is not
finite. The entries of a dictionary have distinct keys. -/
inductive PyJson where
  | none
  | bool (value : Bool)
  | int (value : Int)
  | float (value : Option ℚ)
  | str (value : String)
  | list (items : List PyJson)
  | dict (entries : List (String × PyJson))

/-- The kinds of exception the modelled handlers tell apart. -/
inductive PyError where
  | jsonDecodeError
  | valueError
  | attributeError
  | keyError
  | clientError
  | other
  deriving DecidableEq, Repr

/-- A computation that returns has returned from its first part. -/
theorem Except.bind_eq_ok.{u, v} {ε : Type v} {α β : Type u} {first : Except ε α}
    {next : α → Except ε β} {result : β} :
    (first >>= next) = .ok result ↔ ∃ value, first = .ok value ∧ next value = .ok result := by
  cases first with
  | error error =>
      constructor
      · intro returned
        cases returned
      · rintro ⟨_, returned, _⟩
        cases returned
  | ok value =>
      constructor
      · exact fun returned => ⟨value, rfl, returned⟩
      · rintro ⟨_, same, returned⟩
        cases same
        exact returned

theorem Except.map_eq_ok {ε α β : Type*} {computation : Except ε α} {f : α → β} {result : β} :
    computation.map f = .ok result ↔ ∃ value, computation = .ok value ∧ f value = result := by
  cases computation with
  | error error =>
      constructor
      · intro returned
        cases returned
      · intro ⟨_, returned, _⟩
        cases returned
  | ok value =>
      constructor
      · intro returned
        cases returned
        exact ⟨value, rfl, rfl⟩
      · intro ⟨_, same, applied⟩
        cases same
        exact congrArg Except.ok applied

@[simp] theorem Except.isOk_ok {ε α : Type*} {value : α} :
    (Except.ok value : Except ε α).isOk = true := rfl

@[simp] theorem Except.isOk_error {ε α : Type*} {error : ε} :
    (Except.error error : Except ε α).isOk = false := rfl

@[simp] theorem Except.isOk_map {ε α β : Type*} {computation : Except ε α} {f : α → β} :
    (computation.map f).isOk = computation.isOk := by
  cases computation <;> rfl

/-- A computation returns when its first part returns and the rest of it does. -/
theorem Except.isOk_bind_iff.{u, v} {ε : Type v} {α β : Type u} {first : Except ε α}
    {next : α → Except ε β} {returns : Prop}
    (rest : ∀ value, first = .ok value → ((next value).isOk = true ↔ returns)) :
    (first >>= next).isOk = true ↔ first.isOk = true ∧ returns := by
  cases first with
  | error error =>
      constructor
      · intro isOk
        cases isOk
      · rintro ⟨isOk, -⟩
        cases isOk
  | ok value => exact (rest value rfl).trans ⟨fun held => ⟨rfl, held⟩, And.right⟩

/-- A loop returns when each of its rounds does. -/
theorem Except.isOk_mapM_iff.{u, v, w} {ε : Type v} {α : Type w} {β : Type u} {items : List α}
    {f : α → Except ε β} :
    (items.mapM f).isOk = true ↔ ∀ item ∈ items, (f item).isOk = true := by
  induction items with
  | nil => simp [pure, Except.pure]
  | cons item rest ih =>
      rw [List.mapM_cons, List.forall_mem_cons, ← ih]
      exact Except.isOk_bind_iff fun _ _ =>
        (Except.isOk_bind_iff fun _ _ => iff_true_intro rfl).trans (and_iff_left trivial)

theorem Except.exists_of_isOk {ε α : Type*} {computation : Except ε α}
    (returns : computation.isOk = true) : ∃ value, computation = .ok value := by
  cases computation with
  | error error => cases returns
  | ok value => exact ⟨value, rfl⟩

namespace PyJson

/-- `entries.get(key, default)`. -/
def getD (entries : List (String × PyJson)) (key : String) (default : PyJson) : PyJson :=
  (entries.lookup key).getD default

/-- `entries.get(key)`. -/
def get (entries : List (String × PyJson)) (key : String) : PyJson :=
  getD entries key .none

/-- `entries[key] = value`: the key keeps its place if it is there. -/
def set (entries : List (String × PyJson)) (key : String) (value : PyJson) :
    List (String × PyJson) :=
  if (entries.lookup key).isSome then
    entries.map fun entry => if entry.1 = key then (key, value) else entry
  else entries ++ [(key, value)]

/-- The value as an integer when `isinstance(value, int)`. -/
def int? : PyJson → Option Int
  | .int value => some value
  | .bool value => some (if value then 1 else 0)
  | _ => Option.none

/-- The value when `isinstance(value, str) and value`. -/
def nonemptyStr? : PyJson → Option String
  | .str value => if value = "" then Option.none else some value
  | _ => Option.none

/-- The entries when `isinstance(value, dict)`. -/
def dict? : PyJson → Option (List (String × PyJson))
  | .dict entries => some entries
  | _ => Option.none

/-- `data[0]` when `isinstance(data, list) and data`. -/
def head? : PyJson → Option PyJson
  | .list (first :: _) => some first
  | _ => Option.none

/-- `bool(value)`. -/
def truthy : PyJson → Bool
  | .none => false
  | .bool value => value
  | .int value => value ≠ 0
  | .float value => value ≠ some 0
  | .str value => value ≠ ""
  | .list items => !items.isEmpty
  | .dict entries => !entries.isEmpty

/-- `left or right`. -/
def orElse (left right : PyJson) : PyJson := if left.truthy then left else right

section Entries

variable {κ ν : Type*} [BEq κ] [LawfulBEq κ] [DecidableEq κ] {entries : List (κ × ν)}
  {key other : κ} {value : ν}

/-- What is found after the value of a key has been replaced where it stands. -/
theorem lookup_replace :
    (entries.map fun entry => if entry.1 = key then (key, value) else entry).lookup other =
      if other = key then (entries.lookup key).map fun _ => value else entries.lookup other := by
  induction entries with
  | nil => split <;> rfl
  | cons entry rest ih =>
      obtain ⟨name, held⟩ := entry
      rw [List.map_cons]
      by_cases here : name = key
      · subst here
        by_cases same : other = name
        · simp [same]
        · simp [List.lookup_cons, beq_false_of_ne same, ih, same]
      · by_cases same : other = name
        · subst same
          simp [here]
        · simp [List.lookup_cons, here, beq_false_of_ne same, beq_false_of_ne (Ne.symm here), ih]

/-- What is found after a key has been set in its place, or behind the others. -/
theorem lookup_put :
    (if (entries.lookup key).isSome then
      entries.map fun entry => if entry.1 = key then (key, value) else entry
    else entries ++ [(key, value)]).lookup other =
      if other = key then some value else entries.lookup other := by
  split
  · rename_i found
    obtain ⟨held, found⟩ := Option.isSome_iff_exists.mp found
    rw [lookup_replace, found, Option.map_some]
  · rename_i missing
    rw [Bool.not_eq_true, Option.isSome_eq_false_iff, Option.isNone_iff_eq_none] at missing
    by_cases same : other = key
    · simp [List.lookup_append, same, missing]
    · simp [List.lookup_append, List.lookup_cons, beq_false_of_ne same, same]

omit [DecidableEq κ] in
/-- Distinct keys are found wherever they stand. -/
theorem lookup_of_mem (distinct : (entries.map Prod.fst).Nodup) (member : (key, value) ∈ entries) :
    entries.lookup key = some value := by
  obtain ⟨before, after, rfl⟩ := List.append_of_mem member
  rw [List.map_append, List.map_cons] at distinct
  refine List.lookup_eq_some_iff.mpr ⟨before, after, rfl, fun entry held => ?_⟩
  have apart := (List.nodup_append.mp distinct).2.2 entry.1 (List.mem_map_of_mem held) key
    List.mem_cons_self
  exact bne_iff_ne.mpr (Ne.symm apart)

end Entries

variable {entries : List (String × PyJson)} {key other : String} {value default : PyJson}

@[simp] theorem getD_set_self : getD (set entries key value) key default = value := by
  rw [getD, set, lookup_put, if_pos rfl, Option.getD_some]

/-- Setting a key leaves the others. -/
theorem getD_set_of_ne (different : other ≠ key) :
    getD (set entries key value) other default = getD entries other default := by
  rw [getD, set, lookup_put, if_neg different, getD]

end PyJson
