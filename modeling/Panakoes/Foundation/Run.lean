import Mathlib.Data.List.Induction
import Mathlib.Data.Option.Basic

/-! # Runs of a step function

A component is a step function `step : σ → α → Option σ`: the action carries
every choice its environment makes, and `none` says that the action is not
enabled. A run is a list of actions. `execute` computes the state it ends in,
`Meets` states a condition that every step of it satisfies, and
`execute_induction` is the invariant rule for such runs.
-/

namespace Transition

variable {σ α : Type*} (step : σ → α → Option σ)

/-- The state after taking the actions in turn, if each of them is enabled
where it is taken. -/
def execute (state : σ) : List α → Option σ
  | [] => some state
  | action :: rest => (step state action).bind fun next => execute next rest

@[simp] theorem execute_nil (state : σ) : execute step state [] = some state := rfl

@[simp] theorem execute_cons (state : σ) (action : α) (rest : List α) :
    execute step state (action :: rest) =
      (step state action).bind fun next => execute step next rest := rfl

theorem execute_append (state : σ) (first second : List α) :
    execute step state (first ++ second) =
      (execute step state first).bind fun middle => execute step middle second := by
  induction first generalizing state with
  | nil => rfl
  | cons action rest ih =>
      simp only [List.cons_append, execute_cons, Option.bind_assoc]
      congr 1
      funext next
      exact ih next

/-- The last action of a run is taken in the state the actions before it reach. -/
theorem execute_concat_eq_some {state final : σ} {past : List α} {action : α} :
    execute step state (past ++ [action]) = some final ↔
      ∃ before, execute step state past = some before ∧ step before action = some final := by
  rw [execute_append, Option.bind_eq_some_iff]
  simp only [execute_cons, execute_nil, Option.bind_fun_some]

/-- What the steps of a run emit, in order. -/
def emitted {β : Type*} (emit : σ → α → List β) : σ → List α → List β
  | _, [] => []
  | state, action :: rest =>
      emit state action ++
        match step state action with
        | some next => emitted emit next rest
        | none => []

theorem emitted_concat {β : Type*} (emit : σ → α → List β) {start before : σ} {past : List α}
    {action : α} (run : execute step start past = some before) :
    emitted step emit start (past ++ [action]) =
      emitted step emit start past ++ emit before action := by
  induction past generalizing start with
  | nil =>
      cases run
      rw [List.nil_append, emitted, emitted, List.nil_append]
      cases step before action with
      | none => exact List.append_nil _
      | some next => exact List.append_nil _
  | cons head rest ih =>
      obtain ⟨next, taken, later⟩ := Option.bind_eq_some_iff.mp run
      rw [List.cons_append, emitted, emitted, taken, List.append_assoc]
      exact congrArg _ (ih later)

/-- What every step emits has a property that all that is emitted has. -/
theorem forall_mem_emitted {β : Type*} {emit : σ → α → List β} {holds : β → Prop}
    (every : ∀ state action, ∀ output ∈ emit state action, holds output) {start : σ}
    {actions : List α} : ∀ output ∈ emitted step emit start actions, holds output := by
  induction actions generalizing start with
  | nil => exact fun _ member => absurd member List.not_mem_nil
  | cons action rest ih =>
      intro output member
      rcases List.mem_append.mp member with now | later
      · exact every start action output now
      · split at later
        · exact ih output later
        · cases later

/-- Every step of a run meets `cond`, a condition on the actions before the
step, the state the step is taken in and its action. -/
def Meets (cond : List α → σ → α → Prop) : List α → σ → List α → Prop
  | _, _, [] => True
  | past, state, action :: rest =>
      cond past state action ∧
        ∀ next ∈ step state action, Meets cond (past ++ [action]) next rest

instance Meets.decidable (cond : List α → σ → α → Prop)
    [∀ past state action, Decidable (cond past state action)] :
    ∀ past state actions, Decidable (Meets step cond past state actions)
  | _, _, [] => inferInstanceAs (Decidable True)
  | past, state, action :: rest =>
      haveI : ∀ next, Decidable (Meets step cond (past ++ [action]) next rest) :=
        fun next => Meets.decidable cond (past ++ [action]) next rest
      inferInstanceAs (Decidable (_ ∧ ∀ next ∈ step state action, _))

variable {step} {cond : List α → σ → α → Prop}

theorem Meets.append {past : List α} {state : σ} {first second : List α} :
    Meets step cond past state (first ++ second) ↔
      Meets step cond past state first ∧
        ∀ middle ∈ execute step state first, Meets step cond (past ++ first) middle second := by
  induction first generalizing past state with
  | nil => simp [Meets]
  | cons action rest ih =>
      simp only [List.cons_append, Meets, ih, execute_cons, Option.mem_def,
        Option.bind_eq_some_iff, List.append_assoc]
      constructor
      · rintro ⟨now, later⟩
        refine ⟨⟨now, fun next taken => (later next taken).1⟩, ?_⟩
        rintro middle ⟨next, taken, reached⟩
        exact (later next taken).2 middle reached
      · rintro ⟨⟨now, head⟩, tail⟩
        exact ⟨now, fun next taken =>
          ⟨head next taken, fun middle reached => tail middle ⟨next, taken, reached⟩⟩⟩

/-- A condition met by a step and by what follows it. -/
theorem Meets.cons {past : List α} {state next : σ} {action : α} {rest : List α}
    (met : cond past state action) (taken : step state action = some next)
    (later : Meets step cond (past ++ [action]) next rest) :
    Meets step cond past state (action :: rest) := by
  refine ⟨met, fun other moved => ?_⟩
  have same : next = other := Option.some.inj (taken.symm.trans moved)
  exact same ▸ later

/-- Two conditions are met by every step if and only if their conjunction is. -/
theorem Meets.and_iff {other : List α → σ → α → Prop} {past : List α} {state : σ}
    {actions : List α} :
    Meets step cond past state actions ∧ Meets step other past state actions ↔
      Meets step (fun past state action => cond past state action ∧ other past state action)
        past state actions := by
  induction actions generalizing past state with
  | nil => exact and_self_iff
  | cons action rest ih =>
      constructor
      · intro ⟨first, second⟩
        exact ⟨⟨first.1, second.1⟩, fun next taken =>
          ih.mp ⟨first.2 next taken, second.2 next taken⟩⟩
      · intro ⟨now, later⟩
        exact ⟨⟨now.1, fun next taken => (ih.mpr (later next taken)).1⟩,
          ⟨now.2, fun next taken => (ih.mpr (later next taken)).2⟩⟩

theorem Meets.and {other : List α → σ → α → Prop} {past : List α} {state : σ} {actions : List α}
    (first : Meets step cond past state actions) (second : Meets step other past state actions) :
    Meets step (fun past state action => cond past state action ∧ other past state action)
      past state actions :=
  Meets.and_iff.mp ⟨first, second⟩

/-- Two conditions that agree wherever an invariant holds are met by the same runs, if the steps
that meet the second keep the invariant. -/
theorem Meets.congr_of_kept {other : List α → σ → α → Prop} {invariant : σ → Prop}
    (kept : ∀ past before action after, invariant before → other past before action →
      step before action = some after → invariant after)
    (same : ∀ past state action, invariant state →
      (cond past state action ↔ other past state action))
    {past : List α} {state : σ} {actions : List α} (holds : invariant state) :
    Meets step cond past state actions ↔ Meets step other past state actions := by
  induction actions generalizing past state with
  | nil => exact Iff.rfl
  | cons action rest ih =>
      rw [Meets, Meets, same past state action holds, and_congr_right_iff]
      intro met
      exact forall₂_congr fun next taken => ih (kept past state action next holds met taken)

/-- Two conditions that agree wherever an invariant holds are met by the same runs. -/
theorem Meets.congr {other : List α → σ → α → Prop} {invariant : σ → Prop}
    (kept : ∀ before action after, invariant before → step before action = some after →
      invariant after)
    (same : ∀ past state action, invariant state →
      (cond past state action ↔ other past state action))
    {past : List α} {state : σ} {actions : List α} (holds : invariant state) :
    Meets step cond past state actions ↔ Meets step other past state actions :=
  Meets.congr_of_kept (fun _ before action after holds _ => kept before action after holds) same
    holds

/-- Two conditions that agree wherever an invariant of the past and the state holds are met by the
same runs. -/
theorem Meets.congr_of_past {other : List α → σ → α → Prop} {invariant : List α → σ → Prop}
    (kept : ∀ past before action after, invariant past before → step before action = some after →
      invariant (past ++ [action]) after)
    (same : ∀ past state action, invariant past state →
      (cond past state action ↔ other past state action))
    {past : List α} {state : σ} {actions : List α} (holds : invariant past state) :
    Meets step cond past state actions ↔ Meets step other past state actions := by
  induction actions generalizing past state with
  | nil => exact Iff.rfl
  | cons action rest ih =>
      refine and_congr (same past state action holds) ?_
      exact forall₂_congr fun next taken => ih (kept past state action next holds taken)

/-- What an invariant and the condition of a step give is met by every run that meets the
condition. -/
theorem Meets.of_invariant {other : List α → σ → α → Prop} {invariant : σ → Prop} {state : σ}
    (initial : invariant state)
    (kept : ∀ past before action after, invariant before → cond past before action →
      step before action = some after → invariant after)
    (gives : ∀ past state action, invariant state → cond past state action →
      other past state action)
    {past : List α} {actions : List α} (meets : Meets step cond past state actions) :
    Meets step other past state actions := by
  induction actions generalizing past state with
  | nil => exact True.intro
  | cons action rest ih =>
      exact ⟨gives past state action initial meets.1, fun next taken =>
        ih (kept past state action next initial meets.1 taken) (meets.2 next taken)⟩

/-- A property of every state that a run passes through is one of the start and of what each
step leads to. -/
theorem forall_reached_iff {start : σ} {holds : σ → Prop} {past actions : List α} :
    (∀ taken, taken <+: actions → ∀ state ∈ execute step start taken, holds state) ↔
      holds start ∧ Meets step (fun _ state action => ∀ after ∈ step state action, holds after)
        past start actions := by
  induction actions generalizing past start with
  | nil =>
      constructor
      · intro every
        exact ⟨every [] List.prefix_rfl start rfl, True.intro⟩
      · intro first taken isPrefix state reached
        rw [List.prefix_nil.mp isPrefix, execute_nil, Option.mem_some_iff] at reached
        exact reached ▸ first.1
  | cons action rest ih =>
      constructor
      · intro every
        have later : ∀ next ∈ step start action, ∀ taken, taken <+: rest →
            ∀ state ∈ execute step next taken, holds state := by
          intro next moved taken isPrefix state reached
          apply every (action :: taken) (List.prefix_cons_inj action |>.mpr isPrefix)
          rw [execute_cons, Option.mem_def.mp moved]
          exact reached
        refine ⟨every [] List.nil_prefix start rfl, ?_, fun next moved => ?_⟩
        · exact fun next moved => later next moved [] List.nil_prefix next rfl
        · exact (ih.mp (later next moved)).2
      · intro meets taken isPrefix state reached
        obtain ⟨first, now, afterwards⟩ := meets
        cases taken with
        | nil =>
            rw [execute_nil, Option.mem_some_iff] at reached
            exact reached ▸ first
        | cons head taken =>
            obtain ⟨same, inner⟩ := List.cons_prefix_cons.mp isPrefix
            subst same
            obtain ⟨next, moved, later⟩ := Option.bind_eq_some_iff.mp reached
            exact ih.mpr ⟨now next moved, afterwards next moved⟩ taken inner state later

/-- The condition that asks nothing holds of every run. -/
theorem Meets.trivial {past : List α} {state : σ} {actions : List α} :
    Meets step (fun _ _ _ => True) past state actions := by
  induction actions generalizing past state with
  | nil => exact True.intro
  | cons action rest ih => exact ⟨True.intro, fun _ _ => ih⟩

/-- **The invariant rule.** What holds at the start and is kept by every step
that meets the condition holds wherever a run of such steps ends. -/
theorem execute_induction {start : σ} {motive : List α → σ → Prop}
    (initial : motive [] start)
    (kept : ∀ past before action after, execute step start past = some before →
      motive past before → cond past before action → step before action = some after →
      motive (past ++ [action]) after)
    {actions : List α} {final : σ} (meets : Meets step cond [] start actions)
    (run : execute step start actions = some final) : motive actions final := by
  induction actions using List.reverseRecOn generalizing final with
  | nil =>
      cases run
      exact initial
  | append_singleton past action ih =>
      obtain ⟨before, reached, taken⟩ := (execute_concat_eq_some step).mp run
      obtain ⟨earlier, last⟩ := Meets.append.mp meets
      exact kept past before action final reached (ih earlier reached)
        (last before reached).1 taken

/-- The invariant rule for a property of the state alone. -/
theorem execute_invariant {start : σ} {invariant : σ → Prop} (initial : invariant start)
    (kept : ∀ past before action after, invariant before → cond past before action →
      step before action = some after → invariant after)
    {actions : List α} {final : σ} (meets : Meets step cond [] start actions)
    (run : execute step start actions = some final) : invariant final :=
  execute_induction (motive := fun _ state => invariant state) initial
    (fun past before action after _ => kept past before action after) meets run

/-- The invariant rule for runs of which no condition is asked. -/
theorem execute_invariant_of_step {start : σ} {invariant : σ → Prop} (initial : invariant start)
    (kept : ∀ before action after, invariant before → step before action = some after →
      invariant after)
    {actions : List α} {final : σ} (run : execute step start actions = some final) :
    invariant final := by
  have meets : Meets step (fun _ _ _ => True) [] start actions := Meets.trivial
  exact execute_invariant initial
    (fun _ before action after holds _ => kept before action after holds) meets run

/-- The invariant rule for runs all of whose actions are of one kind. -/
theorem execute_invariant_of_actions {start : σ} {invariant : σ → Prop} {kind : α → Prop}
    (initial : invariant start)
    (kept : ∀ before action after, invariant before → kind action →
      step before action = some after → invariant after)
    {actions : List α} {final : σ} (every : ∀ action ∈ actions, kind action)
    (run : execute step start actions = some final) : invariant final := by
  induction actions using List.reverseRecOn generalizing final with
  | nil =>
      cases run
      exact initial
  | append_singleton past action ih =>
      obtain ⟨before, reached, taken⟩ := (execute_concat_eq_some step).mp run
      have earlier := ih (fun taken member => every taken (List.mem_append_left _ member)) reached
      exact kept before action final earlier
        (every action (List.mem_append_right _ (List.mem_singleton_self _))) taken

end Transition

/-! ## A register that a run writes

Each action of a run writes the register or leaves it as it is. What is kept between any two
states of the run is then read off the values that are written, in their order.
-/

namespace Transition

variable {σ α δ : Type*} {step : σ → α → Option σ} {read : σ → δ} {written : α → Option δ}

variable (step read written) in
/-- A step leaves in the register what its action writes, or else what was there. -/
def Registers : Prop :=
  ∀ before action after, step before action = some after →
    read after = (written action).getD (read before)

/-- Conditions that agree on every step are met by the same runs. -/
theorem Meets.congr_steps {cond other : List α → σ → α → Prop} {past : List α} {state : σ}
    {actions : List α}
    (same : ∀ past state action, cond past state action ↔ other past state action) :
    Meets step cond past state actions ↔ Meets step other past state actions := by
  have trivially : ∀ before action after, True → step before action = some after → True :=
    fun _ _ _ _ _ => True.intro
  exact Meets.congr trivially (fun past state action _ => same past state action) True.intro

/-- **Every step of a run relates what the register held to what it holds** if and only if all
values written, and the one at the start, are related in their order. -/
theorem Registers.meets_iff (registers : Registers step read written) (relation : δ → δ → Prop)
    (refl : ∀ value, relation value value)
    (trans : ∀ first second third, relation first second → relation second third →
      relation first third)
    {past actions : List α} {start final : σ} (run : execute step start actions = some final) :
    Meets step (fun _ state action => ∀ next ∈ step state action, relation (read state) (read next))
        past start actions ↔
      (read start :: actions.filterMap written).Pairwise relation := by
  induction actions generalizing past start with
  | nil => exact iff_of_true True.intro (List.pairwise_singleton _ _)
  | cons action rest ih =>
      obtain ⟨next, taken, run⟩ := Option.bind_eq_some_iff.mp run
      have held := registers start action next taken
      have later := @ih (past ++ [action]) next run
      have meets : Meets step
          (fun _ state action => ∀ next ∈ step state action, relation (read state) (read next))
          past start (action :: rest) ↔
            relation (read start) (read next) ∧ (read next :: rest.filterMap written).Pairwise
              relation := by
        rw [← later]
        have only : ∀ {goal : σ → Prop}, (∀ after ∈ step start action, goal after) ↔ goal next := by
          intro goal
          rw [taken]
          simp only [Option.mem_some, forall_eq']
        exact and_congr only only
      rw [meets]
      cases write : written action with
      | none =>
          rw [write, Option.getD_none] at held
          rw [List.filterMap_cons_none write, held]
          exact and_iff_right (refl _)
      | some value =>
          rw [write, Option.getD_some] at held
          rw [List.filterMap_cons_some write, held]
          constructor
          · rintro ⟨first, others⟩
            refine List.pairwise_cons.mpr ⟨fun other member => ?_, others⟩
            rcases List.mem_cons.mp member with rfl | member
            · exact first
            · exact trans _ _ _ first ((List.pairwise_cons.mp others).1 other member)
          · intro all
            obtain ⟨first, others⟩ := List.pairwise_cons.mp all
            exact ⟨first value List.mem_cons_self, others⟩

end Transition
