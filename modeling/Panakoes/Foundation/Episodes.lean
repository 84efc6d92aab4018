import Mathlib.Algebra.BigOperators.Group.List.Basic
import Mathlib.Algebra.GroupWithZero.Nat

/-! # Episodes of a run

A run is observed shot by shot. An episode is a stretch of it in which a condition holds, up to where
it ceases to hold. What is counted in the shots is due once in an episode that begins in the run, and
not at all in one that was going on before.
-/

namespace Episodes

variable {σ : Type*}

/-- The condition held in the shot before, or at the start. -/
def HeldBefore (holds : σ → Prop) (held : Prop) (before : List σ) : Prop :=
  match before.getLast? with
  | none => held
  | some shot => holds shot

/-- A stretch in which the condition holds, and after which it does not. -/
structure IsEpisode (holds : σ → Prop) (shots before run after : List σ) : Prop where
  split : shots = before ++ (run ++ after)
  nonempty : run ≠ []
  all : ∀ shot ∈ run, holds shot
  ended : ∀ shot ∈ after.head?, ¬ holds shot

/-- An episode that begins in the run counts for one where it is due, one from before for none. -/
structure Once (holds : σ → Prop) (held : Prop) (due : List σ → Prop) (count : σ → ℕ)
    (shots : List σ) : Prop where
  fresh : ∀ before run after, IsEpisode holds shots before run after →
    ¬ HeldBefore holds held before →
      (due run → (run.map count).sum = 1) ∧ (¬ due run → (run.map count).sum = 0)
  seeded : ∀ run after, IsEpisode holds shots [] run after → held → (run.map count).sum = 0

variable {holds : σ → Prop} {held : Prop} {count : σ → ℕ} {shots before run after : List σ}

theorem heldBefore_concat {shot : σ} : HeldBefore holds held (before ++ [shot]) ↔ holds shot := by
  unfold HeldBefore
  rw [List.getLast?_concat]

/-- Every shot counts for one where the condition begins to hold, and for none where it goes on. -/
def CountsOnsets (holds : σ → Prop) (held : Prop) (count : σ → ℕ) (shots : List σ) : Prop :=
  ∀ before shot after, shots = before ++ shot :: after → holds shot →
    (HeldBefore holds held before → count shot = 0) ∧
      (¬ HeldBefore holds held before → count shot = 1)

/-- An episode that goes on counts for nothing. -/
theorem sum_of_held (counts : CountsOnsets holds held count shots)
    (split : shots = before ++ (run ++ after)) (all : ∀ shot ∈ run, holds shot)
    (goesOn : HeldBefore holds held before) : (run.map count).sum = 0 := by
  induction run generalizing before with
  | nil => rfl
  | cons shot rest ih =>
      obtain ⟨here, later⟩ := List.forall_mem_cons.mp all
      have none : count shot = 0 := (counts before shot (rest ++ after) split here).1 goesOn
      have behind : shots = before ++ [shot] ++ (rest ++ after) := by
        rw [split, List.append_assoc]
        rfl
      have more := ih behind later (heldBefore_concat.mpr here)
      rw [List.map_cons, List.sum_cons, none, more]

/-- **Onsets count once for each episode.** -/
theorem once_of_countsOnsets (counts : CountsOnsets holds held count shots) :
    Once holds held (fun _ => True) count shots where
  fresh before run after episode begins := by
    obtain ⟨split, nonempty, all, -⟩ := episode
    refine ⟨fun _ => ?_, fun never => absurd trivial never⟩
    cases run with
    | nil => exact absurd rfl nonempty
    | cons shot rest =>
        obtain ⟨here, later⟩ := List.forall_mem_cons.mp all
        have one : count shot = 1 := (counts before shot (rest ++ after) split here).2 begins
        have behind : shots = before ++ [shot] ++ (rest ++ after) := by
          rw [split, List.append_assoc]
          rfl
        have more := sum_of_held counts behind later (heldBefore_concat.mpr here)
        rw [List.map_cons, List.sum_cons, one, more]
  seeded run after episode goesOn := sum_of_held counts episode.split episode.all goesOn

end Episodes
