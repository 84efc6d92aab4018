import Mathlib.Data.List.Induction
import Mathlib.Data.Option.Basic
import Mathlib.Logic.Function.Basic

/-! # Exclusive ownership

Resources that calls claim for an owner and that their owner gives back. A log
of such events is exclusive when a resource is only ever claimed while nobody
owns it and only ever released by its owner. What the log says about who owns a
resource is then the same whether it is read event by event (`ownersAfter`) or
as a whole (`Holds`).
-/

namespace Ownership

variable {C R S : Type*}

/-- An event of an ownership log. -/
inductive Event (C R S : Type*) where
  | claimed (call : C) (resource : R) (owner : S)
  | released (resource : R) (owner : S)
  deriving DecidableEq

variable [DecidableEq R]

/-- The owners after one event. -/
def Event.apply (owners : R → Option S) : Event C R S → R → Option S
  | .claimed _ resource owner => Function.update owners resource (some owner)
  | .released resource _ => Function.update owners resource none

/-- The event may happen when these are the owners. -/
def Event.Allowed (owners : R → Option S) : Event C R S → Prop
  | .claimed _ resource _ => owners resource = none
  | .released resource owner => owners resource = some owner

/-- The owners after a log. -/
def ownersAfter (owners : R → Option S) (log : List (Event C R S)) : R → Option S :=
  log.foldl Event.apply owners

/-- Every event of the log may happen where it happens. -/
def Exclusive (owners : R → Option S) : List (Event C R S) → Prop
  | [] => True
  | event :: rest => event.Allowed owners ∧ Exclusive (event.apply owners) rest

variable {owners : R → Option S} {first second log : List (Event C R S)}

@[simp] theorem ownersAfter_nil : ownersAfter owners ([] : List (Event C R S)) = owners := rfl

@[simp] theorem ownersAfter_cons (event : Event C R S) :
    ownersAfter owners (event :: log) = ownersAfter (event.apply owners) log := rfl

theorem ownersAfter_append :
    ownersAfter owners (first ++ second) = ownersAfter (ownersAfter owners first) second :=
  List.foldl_append

theorem Exclusive.append :
    Exclusive owners (first ++ second) ↔
      Exclusive owners first ∧ Exclusive (ownersAfter owners first) second := by
  induction first generalizing owners with
  | nil => simp [Exclusive]
  | cons event rest ih => simp only [List.cons_append, Exclusive, ih, ownersAfter_cons, and_assoc]

/-- An owner keeps the resource until it releases it. -/
theorem Exclusive.keeps {resource : R} {owner : S} (exclusive : Exclusive owners log)
    (owned : owners resource = some owner) (unreleased : .released resource owner ∉ log) :
    ownersAfter owners log resource = some owner := by
  induction log generalizing owners with
  | nil => exact owned
  | cons event rest ih =>
      obtain ⟨allowed, exclusive⟩ := exclusive
      rw [List.mem_cons, not_or] at unreleased
      obtain ⟨notNow, notLater⟩ := unreleased
      rw [ownersAfter_cons]
      refine ih exclusive ?_ notLater
      cases event with
      | claimed call other claimant =>
          have different : resource ≠ other := by
            rintro rfl
            cases owned.symm.trans allowed
          rw [Event.apply, Function.update_of_ne different, owned]
      | released other former =>
          have different : resource ≠ other := by
            rintro rfl
            cases owned.symm.trans allowed
            exact notNow rfl
          rw [Event.apply, Function.update_of_ne different, owned]

/-- Who claims a resource owns it until it releases it. -/
theorem Exclusive.claimed_keeps {call : C} {resource : R} {owner : S}
    (exclusive : Exclusive owners (first ++ .claimed call resource owner :: second))
    (unreleased : .released resource owner ∉ second) :
    ownersAfter owners (first ++ .claimed call resource owner :: second) resource =
      some owner := by
  obtain ⟨_, _, later⟩ := Exclusive.append.mp exclusive
  rw [ownersAfter_append, ownersAfter_cons]
  apply later.keeps _ unreleased
  rw [Event.apply, Function.update_self]

/-- **Hand-over.** Between two claims of one resource its first owner releases it. -/
theorem Exclusive.released_between {call later : C} {resource : R} {owner next : S}
    {third : List (Event C R S)}
    (exclusive : Exclusive owners
      (first ++ .claimed call resource owner ::
        (second ++ .claimed later resource next :: third))) :
    .released resource owner ∈ second := by
  by_contra unreleased
  obtain ⟨_, _, tail⟩ := Exclusive.append.mp exclusive
  obtain ⟨before, free, _⟩ := Exclusive.append.mp tail
  have owned : Event.apply (ownersAfter owners first) (Event.claimed call resource owner) resource =
      some owner := by
    rw [Event.apply, Function.update_self]
  cases (before.keeps owned unreleased).symm.trans free

/-- The log leaves the resource with the owner: it had it at the start or
claimed it, and has not released it since. -/
def Holds (owners : R → Option S) (log : List (Event C R S)) (resource : R) (owner : S) : Prop :=
  (owners resource = some owner ∧ .released resource owner ∉ log) ∨
    ∃ before call after, log = before ++ .claimed call resource owner :: after ∧
      .released resource owner ∉ after

/-- The two readings of an exclusive log agree. -/
theorem Exclusive.holds_iff {resource : R} {owner : S} (exclusive : Exclusive owners log) :
    Holds owners log resource owner ↔ ownersAfter owners log resource = some owner := by
  constructor
  · rintro (⟨owned, unreleased⟩ | ⟨before, call, after, rfl, unreleased⟩)
    · exact exclusive.keeps owned unreleased
    · exact exclusive.claimed_keeps unreleased
  · intro owned
    induction log using List.reverseRecOn with
    | nil => exact Or.inl ⟨owned, List.not_mem_nil⟩
    | append_singleton rest event ih =>
        obtain ⟨earlier, allowed, _⟩ := Exclusive.append.mp exclusive
        rw [ownersAfter_append, ownersAfter_cons, ownersAfter_nil] at owned
        by_cases now : ∃ call, event = .claimed call resource owner
        · obtain ⟨call, rfl⟩ := now
          exact Or.inr ⟨rest, call, [], rfl, List.not_mem_nil⟩
        · -- The last event does not concern this ownership, so it held before.
          have unchanged : ownersAfter owners rest resource = some owner ∧
              event ≠ .released resource owner := by
            cases event with
            | claimed call other claimant =>
                by_cases same : resource = other
                · subst same
                  rw [Event.apply, Function.update_self] at owned
                  cases owned
                  exact absurd ⟨call, rfl⟩ now
                · rw [Event.apply, Function.update_of_ne same] at owned
                  exact ⟨owned, by rintro ⟨⟩⟩
            | released other former =>
                by_cases same : resource = other
                · subst same
                  rw [Event.apply, Function.update_self] at owned
                  cases owned
                · rw [Event.apply, Function.update_of_ne same] at owned
                  refine ⟨owned, ?_⟩
                  rintro ⟨⟩
                  exact same rfl
          obtain ⟨held, different⟩ := unchanged
          rcases ih earlier held with
            ⟨initially, unreleased⟩ | ⟨before, call, after, rfl, unreleased⟩
          · refine Or.inl ⟨initially, fun member => ?_⟩
            rcases List.mem_append.mp member with before | last
            · exact unreleased before
            · exact different (List.mem_singleton.mp last).symm
          · refine Or.inr ⟨before, call, after ++ [event], by simp, fun member => ?_⟩
            rcases List.mem_append.mp member with before | last
            · exact unreleased before
            · exact different (List.mem_singleton.mp last).symm

/-- **Mutual exclusion.** An exclusive log leaves a resource with one owner at most. -/
theorem Exclusive.holds_unique {resource : R} {owner other : S} (exclusive : Exclusive owners log)
    (one : Holds owners log resource owner) (two : Holds owners log resource other) :
    owner = other := by
  have held := exclusive.holds_iff.mp one
  rw [exclusive.holds_iff.mp two] at held
  exact (Option.some.inj held).symm

end Ownership
