import Mathlib.Tactic.TypeStar

/-! # Conditional writes over an unreliable connection

A store applies a conditional write atomically, when its condition holds. The
caller sees only how its request ends: the request or the answer may get lost,
and a client that repeats a request whose answer got lost is told that the
condition fails, since the write has already been applied.
-/

namespace ConditionalWrite

/-- What happens to a request on its way. -/
inductive Fault where
  | none
  | lost
  | unacked
  | retried
  deriving DecidableEq, Repr

/-- How a request ends for the caller. -/
inductive Reply where
  | ok
  | conditionalCheckFailed
  | failed
  deriving DecidableEq, Repr

/-- The outcome of a request: the table, whether the write was applied, and the
reply. -/
structure Outcome (τ : Type*) where
  table : τ
  applied : Bool
  reply : Reply

variable {τ : Type*}

/-- Send a write. `updated` is the table it leads to, or `none` when its
condition fails. -/
def send (fault : Fault) (table : τ) : Option τ → Outcome τ
  | some updated =>
      match fault with
      | .none => ⟨updated, true, .ok⟩
      | .lost => ⟨table, false, .failed⟩
      | .unacked => ⟨updated, true, .failed⟩
      | .retried => ⟨updated, true, .conditionalCheckFailed⟩
  | none =>
      match fault with
      | .none | .retried => ⟨table, false, .conditionalCheckFailed⟩
      | .lost | .unacked => ⟨table, false, .failed⟩

/-- How a write ends whose condition holds. -/
def Fault.reply : Fault → Reply
  | .none => .ok
  | .lost | .unacked => .failed
  | .retried => .conditionalCheckFailed

/-- Send a write that has no condition: repeating it does no more. -/
def put (fault : Fault) (table updated : τ) : Outcome τ :=
  match fault with
  | .none | .retried => ⟨updated, true, .ok⟩
  | .lost => ⟨table, false, .failed⟩
  | .unacked => ⟨updated, true, .failed⟩

variable {fault : Fault} {table : τ} {updated : Option τ}

/-- Either the write is applied as a whole, or nothing changes. -/
theorem send_cases (fault : Fault) (table : τ) (updated : Option τ) :
    ((send fault table updated).applied = true ∧
        updated = some (send fault table updated).table) ∨
      ((send fault table updated).applied = false ∧ (send fault table updated).table = table) := by
  cases updated <;> cases fault <;> simp [send]

/-- A request that ends well has been applied. -/
theorem applied_of_ok (ok : (send fault table updated).reply = .ok) :
    (send fault table updated).applied = true := by
  cases updated <;> cases fault <;> simp_all [send]

@[simp] theorem send_lost_table : (send .lost table updated).table = table := by
  cases updated <;> rfl

theorem send_some_reply (fault : Fault) (table updated : τ) :
    (send fault table (some updated)).reply = fault.reply := by
  cases fault <;> rfl

/-- A write that is applied did not get lost. -/
theorem arrives_of_applied (applied : (send fault table updated).applied = true) :
    fault ≠ .lost := by
  intro lost
  subst lost
  cases updated <;> cases applied

end ConditionalWrite
