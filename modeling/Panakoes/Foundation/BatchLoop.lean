import Mathlib.Data.List.Basic
import Panakoes.Foundation.PyJson

/-! # Consumers of batches

A batch is handled in a loop of rounds, one for each of its records. A consumer isolates the records
of a batch when it handles them as if they came in batches of their own, one after another.
-/

namespace BatchLoop

variable {σ ρ β ω ε : Type}

/-- The rounds in turn, each from the state that the one before it leaves. -/
def rounds (round : σ → ρ → Except ε (σ × ω)) : σ → List ρ → Except ε (σ × List ω)
  | state, [] => .ok (state, [])
  | state, record :: records =>
      match round state record with
      | .error error => .error error
      | .ok (next, output) =>
          (rounds round next records).map fun later => (later.1, output :: later.2)

/-- A consumer of batches. `parts` are the records of a batch, in batches of their own, and
`combine` joins what is returned for them. -/
structure Consumer (σ β ω ε : Type) where
  process : σ → β → Except ε (σ × ω)
  parts : β → List β
  combine : List ω → ω

/-- A batch is handled as its records, one after another. -/
def Consumer.Isolates (consumer : Consumer σ β ω ε) (state : σ) (batch : β) : Prop :=
  ∃ after outputs, rounds consumer.process state (consumer.parts batch) = .ok (after, outputs) ∧
    consumer.process state batch = .ok (after, consumer.combine outputs)

variable {round : σ → ρ → Except ε (σ × ω)} {state after : σ} {record : ρ} {records : List ρ}
  {outputs : List ω}

/-- The first round, and the rounds behind it. -/
theorem rounds_cons_eq_ok : rounds round state (record :: records) = .ok (after, outputs) ↔
    ∃ next output rest, round state record = .ok (next, output) ∧
      rounds round next records = .ok (after, rest) ∧ outputs = output :: rest := by
  rw [rounds]
  cases first : round state record with
  | error error =>
      constructor
      · intro failed
        cases failed
      · rintro ⟨next, output, rest, first, -⟩
        cases first
  | ok result =>
      obtain ⟨next, output⟩ := result
      dsimp only
      rw [Except.map_eq_ok]
      constructor
      · rintro ⟨⟨last, rest⟩, later, returned⟩
        cases returned
        exact ⟨next, output, rest, rfl, later, rfl⟩
      · rintro ⟨_, _, rest, same, later, rfl⟩
        cases same
        exact ⟨(after, rest), later, rfl⟩

/-- Rounds over the images of records. -/
theorem rounds_map {α : Type} (image : α → ρ) (members : List α) :
    rounds round state (members.map image) =
      rounds (fun state member => round state (image member)) state members := by
  induction members generalizing state with
  | nil => rfl
  | cons member members ih =>
      rw [List.map_cons, rounds, rounds]
      cases round state (image member) with
      | error error => rfl
      | ok next => exact congrArg (Except.map _) ih

/-- The rounds return when each of them does, which is up to its record where an invariant
holds. -/
theorem isOk_rounds_iff (invariant : σ → Prop) {fine : ρ → Prop}
    (returns : ∀ state record, invariant state →
      ((round state record).isOk = true ↔ fine record))
    (keeps : ∀ state record next output, invariant state →
      round state record = .ok (next, output) → invariant next)
    (holds : invariant state) :
    (rounds round state records).isOk = true ↔ ∀ record ∈ records, fine record := by
  induction records generalizing state with
  | nil => exact iff_of_true rfl fun record member => absurd member List.not_mem_nil
  | cons record records ih =>
      rw [rounds, List.forall_mem_cons, ← returns state record holds]
      cases first : round state record with
      | error error => exact iff_of_false Bool.false_ne_true fun fine => Bool.false_ne_true fine.1
      | ok result =>
          have later := ih (keeps state record result.1 result.2 holds first)
          rw [Except.isOk_map, later]
          exact (and_iff_right rfl).symm

/-- A consumer that goes through its records in rounds isolates them when the rounds return. -/
theorem Consumer.isolates_iff_of_rounds {consumer : Consumer σ β ω ε} {batch : β}
    (parts : rounds consumer.process state (consumer.parts batch) = rounds round state records)
    (batched : consumer.process state batch =
      (rounds round state records).map fun result => (result.1, consumer.combine result.2)) :
    consumer.Isolates state batch ↔ (rounds round state records).isOk = true := by
  unfold Consumer.Isolates
  rw [parts, batched]
  constructor
  · rintro ⟨after, outputs, returned, -⟩
    rw [returned]
    rfl
  · intro returns
    obtain ⟨⟨after, outputs⟩, returned⟩ := Except.exists_of_isOk returns
    rw [returned]
    exact ⟨after, outputs, rfl, rfl⟩

end BatchLoop

/-! ## Loops that skip what they cannot use

A loop converts its items one by one. It keeps what an item is converted to, skips an item that is
converted to nothing, and stops where a conversion raises. It is isolated if an item that raises costs
no other item.
-/

namespace SkippingLoop

variable {α β ε : Type} (convert : α → Except ε (Option β))

/-- The loop. -/
def collect : List α → Except ε (List β)
  | [] => .ok []
  | item :: rest => do
      let found ← convert item
      let others ← collect rest
      return found.toList ++ others

/-- What an item is converted to, and nothing where the conversion raises. -/
def converted (item : α) : Option β :=
  match convert item with
  | .ok found => found
  | .error _ => none

/-- The loop returns what the items are converted to. -/
def Isolated (items : List α) : Prop :=
  collect convert items = .ok (items.filterMap (converted convert))

variable {convert}

theorem isOk_collect_iff {items : List α} :
    (collect convert items).isOk = true ↔ ∀ item ∈ items, (convert item).isOk = true := by
  induction items with
  | nil => exact iff_of_true rfl (List.forall_mem_nil _)
  | cons item rest ih =>
      rw [collect, List.forall_mem_cons, ← ih]
      exact Except.isOk_bind_iff fun _ _ =>
        (Except.isOk_bind_iff fun _ _ => iff_true_intro rfl).trans (and_iff_left trivial)

theorem collect_eq {items : List α} (each : ∀ item ∈ items, (convert item).isOk = true) :
    collect convert items = .ok (items.filterMap (converted convert)) := by
  induction items with
  | nil => rfl
  | cons item rest ih =>
      obtain ⟨head, tail⟩ := List.forall_mem_cons.mp each
      obtain ⟨found, returned⟩ := Except.exists_of_isOk head
      have same : converted convert item = found := by
        unfold converted
        rw [returned]
      rw [collect, returned, ih tail, List.filterMap_cons, same]
      cases found <;> rfl

/-- **Isolation.** A loop is isolated if and only if no conversion of it raises. -/
theorem isolated_iff {items : List α} :
    Isolated convert items ↔ ∀ item ∈ items, (convert item).isOk = true := by
  constructor
  · intro isolated
    apply isOk_collect_iff.mp
    rw [isolated]
    rfl
  · exact collect_eq

end SkippingLoop
