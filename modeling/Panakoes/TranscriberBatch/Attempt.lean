import Panakoes.Foundation.ConditionalWrite
import Panakoes.Foundation.Run

/-! # Attempts of a Batch job

An attempt marks its row, does its work, and writes how it ends. AWS Batch retries jobs and
may run two of one submission, so that any number of attempts work on one row, each with its
own calls, and no write has a condition.
-/

namespace Panakoes.TranscriberBatch

open Transition ConditionalWrite

/-- What the `try` block of a job raises, with the text of the exception. -/
inductive Failure where
  | modelLoad (text : String)
  | transcription (text : String)
  | unexpected (text : String)

/-- The message that the row gets. -/
def Failure.message : Failure → String
  | .modelLoad text => s!"model load failed: {text}"
  | .transcription text => s!"transcription failed: {text}"
  | .unexpected text => s!"unexpected failure: {text}"

/-- The calls of the `try` block before its write. -/
inductive Stage where
  | download
  | load
  | transcribe
  | upload
  deriving DecidableEq

variable {τ ρ δ : Type}

/-- A mode of the job: the calls of its work, and its writes to the table. -/
structure Job (τ ρ : Type) where
  stages : List Stage
  mark : τ → τ
  succeed : ρ → τ → τ
  fail : String → τ → τ

/-- Where an attempt is. The temporary directory is closed after the write of success. -/
inductive Phase (ρ : Type) where
  | marking
  | working (remaining : List Stage)
  | finishing (result : ρ)
  | closing
  | failing (message : String)
  | exited (code : ℕ)

/-- What an attempt does next, with how its call ends. `errorText` is the text of the exception
that a failed write raises. -/
inductive Move (ρ : Type) where
  | mark (fault : Fault)
  | advance
  | produce (result : ρ)
  | raise (failure : Failure)
  | succeed (fault : Fault) (errorText : String)
  | close
  | fail (fault : Fault)

/-- One move of an attempt: the table it leaves and where the attempt is then. -/
def Job.move (job : Job τ ρ) (table : τ) : Phase ρ → Move ρ → Option (τ × Phase ρ)
  | .marking, .mark fault =>
      let outcome := put fault table (job.mark table)
      some (outcome.table, if outcome.reply = .ok then .working job.stages else .exited 1)
  | .working (_ :: next :: rest), .advance => some (table, .working (next :: rest))
  | .working [_], .produce result => some (table, .finishing result)
  | .working _, .raise failure | .closing, .raise failure => some (table, .failing failure.message)
  | .finishing result, .succeed fault errorText =>
      let outcome := put fault table (job.succeed result table)
      some (outcome.table,
        if outcome.reply = .ok then .closing else .failing (Failure.unexpected errorText).message)
  | .closing, .close => some (table, .exited 0)
  -- The error of this write is swallowed.
  | .failing message, .fail fault => some ((put fault table (job.fail message table)).table, .exited 1)
  | _, _ => none

/-- The table, and the attempts that have been started. -/
structure State (τ ρ : Type) where
  table : τ
  attempts : List (Phase ρ)

/-- A job is started once more, or one of the attempts moves. -/
inductive Action (ρ : Type) where
  | submit
  | attempt (index : ℕ) (move : Move ρ)

/-- One step of the attempts. -/
def step (job : Job τ ρ) (state : State τ ρ) : Action ρ → Option (State τ ρ)
  | .submit => some { state with attempts := state.attempts ++ [.marking] }
  | .attempt index move => do
      let phase ← state.attempts[index]?
      let (table, moved) ← job.move state.table phase move
      some ⟨table, state.attempts.set index moved⟩

/-! ## What the attempts write -/

/-- The kinds of writes. -/
inductive Written where
  | picked
  | succeeded
  | failed
  deriving DecidableEq

/-- A write that reaches the table. -/
def Fault.reaching (fault : Fault) (written : Written) : Option Written :=
  if fault = .lost then none else some written

/-- The write of an action that reaches the table. -/
def Action.reaching : Action ρ → Option Written
  | .attempt _ (.mark fault) => Fault.reaching fault .picked
  | .attempt _ (.succeed fault _) => Fault.reaching fault .succeeded
  | .attempt _ (.fail fault) => Fault.reaching fault .failed
  | _ => none

/-- The writes that reach the table, in their order. -/
def reaching (actions : List (Action ρ)) : List Written := actions.filterMap Action.reaching

/-- What each write of a job leaves as the status of the row. -/
structure Job.Sets (job : Job τ ρ) (status : τ → δ) (value : Written → δ) : Prop where
  mark : ∀ table, status (job.mark table) = value .picked
  succeed : ∀ result table, status (job.succeed result table) = value .succeeded
  fail : ∀ message table, status (job.fail message table) = value .failed

variable {job : Job τ ρ} {status : τ → δ} {value : Written → δ}

/-- The status after a write with a fault. -/
theorem status_put {fault : Fault} {table updated : τ} {written : Written}
    (sets : status updated = value written) :
    status (put fault table updated).table =
      ((Fault.reaching fault written).map value).getD (status table) := by
  cases fault with
  | lost => rfl
  | none | unacked | retried => exact sets

/-- A move of an attempt leaves the status that it writes, or the one that was there. -/
theorem Job.Sets.move (sets : job.Sets status value) {index : ℕ} {table after : τ}
    {phase moved : Phase ρ} {move : Move ρ} (taken : job.move table phase move = some (after, moved)) :
    status after =
      (((Action.attempt index move).reaching).map value).getD (status table) := by
  unfold Job.move at taken
  split at taken
  case h_1 fault =>
    cases taken
    exact status_put (sets.mark table)
  case h_6 result fault errorText =>
    cases taken
    exact status_put (sets.succeed result table)
  case h_8 message fault =>
    cases taken
    exact status_put (sets.fail message table)
  case h_9 => cases taken
  all_goals
    cases taken
    rfl

/-- The status is a register that the attempts write. -/
theorem Job.Sets.registers (sets : job.Sets status value) :
    Registers (step job) (fun state => status state.table)
      (fun action => action.reaching.map value) := by
  intro before action after taken
  cases action with
  | submit =>
      cases taken
      rfl
  | attempt index move =>
      obtain ⟨phase, -, taken⟩ := Option.bind_eq_some_iff.mp taken
      obtain ⟨⟨table, moved⟩, made, taken⟩ := Option.bind_eq_some_iff.mp taken
      cases taken
      exact sets.move made

/-- A finished status stays if and only if no write that reaches the table takes it away from a
write before it, or from the start. -/
theorem Job.Sets.meets_finished_iff (sets : job.Sets status value) (finished : δ → Prop)
    {actions : List (Action ρ)} {start final : State τ ρ}
    (run : execute (step job) start actions = some final) :
    Meets (step job)
        (fun _ state action => ∀ next ∈ step job state action,
          finished (status state.table) → finished (status next.table)) [] start actions ↔
      (reaching actions).Pairwise (fun earlier later =>
          finished (value earlier) → finished (value later)) ∧
        (finished (status start.table) → ∀ later ∈ reaching actions, finished (value later)) := by
  have values : actions.filterMap (fun action => action.reaching.map value) =
      (reaching actions).map value := List.map_filterMap.symm
  refine (sets.registers.meets_iff (fun earlier later => finished earlier → finished later)
    (fun _ held => held) (fun _ _ _ first second held => second (first held)) run).trans ?_
  rw [values, List.pairwise_cons, List.pairwise_map, and_comm]
  refine and_congr_right fun _ => ?_
  rw [List.forall_mem_map]
  exact ⟨fun all held later member => all later member held,
    fun all later member held => all held later member⟩

end Panakoes.TranscriberBatch
