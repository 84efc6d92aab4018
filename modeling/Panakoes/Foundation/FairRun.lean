import Mathlib.Order.WellFounded
import Panakoes.Foundation.Run

/-! # Runs without an end

A run that goes on for ever, and that is fair to the actions of a kind: as long as one of them is
enabled, one is taken at some time. What is worth waiting for is reached in such a run when every
action of the kind lowers a rank that no action raises.
-/

namespace Transition

variable {σ α ω : Type*} {step : σ → α → Option σ} {start : σ}

variable (step start) in
/-- A run without an end. -/
structure Endless where
  states : ℕ → σ
  actions : ℕ → α
  starts : states 0 = start
  steps : ∀ n, step (states n) (actions n) = some (states (n + 1))

/-- The run takes an action of a kind at some time, as long as one is enabled. -/
def Endless.Fair (run : Endless step start) (kind : α → Prop) : Prop :=
  ∀ n, (∃ action, kind action ∧ (step (run.states n) action).isSome = true) →
    ∃ m, n ≤ m ∧ kind (run.actions m)

variable (run : Endless step start) {kind : α → Prop} {holds goal : σ → Prop} {rank : σ → ω}

/-- What holds at the start and is kept by every step holds at all times. -/
theorem Endless.invariant (initial : holds start)
    (kept : ∀ before action after, holds before → step before action = some after → holds after) :
    ∀ n, holds (run.states n) := by
  intro n
  induction n with
  | zero =>
      rw [run.starts]
      exact initial
  | succ n ih => exact kept _ _ _ ih (run.steps n)

variable [Preorder ω]

/-- Up to the goal, the rank is not raised. -/
theorem Endless.reached_or_le
    (kept : ∀ before action after, holds before → step before action = some after → holds after)
    (lowers : ∀ before action after, holds before → ¬ goal before →
      step before action = some after → goal after ∨ rank after ≤ rank before)
    {n : ℕ} (here : holds (run.states n)) (k : ℕ) :
    (∃ m, n ≤ m ∧ goal (run.states m)) ∨
      holds (run.states (n + k)) ∧ ¬ goal (run.states (n + k)) ∧
        rank (run.states (n + k)) ≤ rank (run.states n) := by
  induction k with
  | zero =>
      by_cases reached : goal (run.states n)
      · exact Or.inl ⟨n, le_refl n, reached⟩
      · exact Or.inr ⟨here, reached, le_refl _⟩
  | succ k ih =>
      rcases ih with reached | ⟨held, unreached, below⟩
      · exact Or.inl reached
      · by_cases reached : goal (run.states (n + (k + 1)))
        · exact Or.inl ⟨_, Nat.le_add_right _ _, reached⟩
        · have taken := run.steps (n + k)
          rcases lowers _ _ _ held unreached taken with now | lower
          · exact absurd now reached
          · exact Or.inr ⟨kept _ _ _ held taken, reached, lower.trans below⟩

/-- **The rank rule.** Where an action of the kind is enabled as long as the goal is not reached, and
every one of them lowers a rank that no action raises, a fair run reaches the goal. -/
theorem Endless.eventually [WellFoundedLT ω] (fair : run.Fair kind) (rank : σ → ω)
    (kept : ∀ before action after, holds before → step before action = some after → holds after)
    (enabled : ∀ state, holds state → ¬ goal state →
      ∃ action, kind action ∧ (step state action).isSome = true)
    (lowers : ∀ before action after, holds before → ¬ goal before →
      step before action = some after → goal after ∨
        rank after ≤ rank before ∧ (kind action → rank after < rank before))
    {n : ℕ} (here : holds (run.states n)) : ∃ m, n ≤ m ∧ goal (run.states m) := by
  have weakly : ∀ before action after, holds before → ¬ goal before →
      step before action = some after → goal after ∨ rank after ≤ rank before :=
    fun before action after held unreached taken =>
      (lowers before action after held unreached taken).imp_right And.left
  induction ranked : rank (run.states n) using WellFoundedLT.induction generalizing n with
  | ind value ih =>
      by_cases reached : goal (run.states n)
      · exact ⟨n, le_refl n, reached⟩
      · obtain ⟨m, later, acts⟩ := fair n (enabled _ here reached)
        obtain ⟨k, rfl⟩ := Nat.exists_eq_add_of_le later
        rcases run.reached_or_le kept weakly here k with reached | ⟨held, unreached, below⟩
        · exact reached
        · have taken := run.steps (n + k)
          rcases lowers _ _ _ held unreached taken with now | ⟨-, lower⟩
          · exact ⟨n + k + 1, by omega, now⟩
          · have less : rank (run.states (n + k + 1)) < value :=
              ranked ▸ (lower acts).trans_le below
            obtain ⟨m, after, reached⟩ := ih _ less (kept _ _ _ held taken) rfl
            exact ⟨m, by omega, reached⟩

end Transition
