import Panakoes.TranscribeWorker.Dispatch
import Panakoes.TranscriberBatch.Regression

/-! # Transcription runs in flight

Deliveries to the worker and requests to the ingestion API both read the status of the record
and then set it pending, as two calls, before they start a run: a job of AWS Batch, or a
transcription in the process. The write of the pending mark has no condition, so that two
callers that have both read a status to run on start two runs. When each mark finds the record
not pending, and no run writes a second outcome, at most one run is in flight.
-/

namespace Panakoes.TranscribeWorker.InFlight

open Transition ConditionalWrite IngestionApi
open TranscriberBatch (runIngestionMode runIngestionMode_sets transcriptStatus)

/-- Who starts a run: a delivery of an upload message, or `request_transcription`. -/
inductive Asker where
  | delivery
  | request
  deriving DecidableEq

/-- Where a run is: in a container of AWS Batch, or in `transcribe_ingestion`, before its read
of the record and after it. -/
inductive RunPhase where
  | container (phase : TranscriberBatch.Phase Transcript)
  | fetching
  | transcribing
  | done

/-- A run, and whether it has written an outcome. -/
structure Run where
  phase : RunPhase
  wrote : Bool

/-- Where a delivery or a request is. -/
inductive Caller where
  | reading (asker : Asker)
  | marking (asker : Asker)
  | handing (asker : Asker)
  | running (run : Run)
  | ended

/-- What a run does next, with how its calls end. -/
inductive RunMove where
  | container (move : TranscriberBatch.Move Transcript)
  | fetch (recordRead : Bool)
  | conclude (calls : TranscriptionCalls)

/-- What a delivery, a request or its run does next. -/
inductive Move where
  | read (recordRead : Bool)
  | mark (fault : Fault)
  | dispatch (environment : BackendEnvironment) (submission : Submission)
  | refresh (recordRead : Bool)
  | run (move : RunMove)

/-- What `store.get` returns, when the call does not fail. -/
def fetch (ingestions : Ingestions) (key : IngestionKey) (recordRead : Bool) : Option Fetched :=
  if recordRead then some (ingestions.get key) else none

/-- The part of `transcribe_ingestion` after its read of the record. -/
def conclude (ingestions : Ingestions) (key : IngestionKey) (calls : TranscriptionCalls) :
    Ingestions × Option Raised :=
  match calls.audio with
  | some error =>
      putIngestions calls.write ingestions
        (ingestions.setTranscriptFailed key s!"audio fetch failed: {error.text}")
  | none =>
      match calls.transcribed with
      | .ok transcript =>
          putIngestions calls.write ingestions (ingestions.setTranscriptSucceeded key transcript)
      | .error error =>
          putIngestions calls.write ingestions
            (ingestions.setTranscriptFailed key
              (if error.kind = .other then s!"unexpected error: {error.text}"
              else s!"{error.typeName}: {error.text}"))

/-- A move of the container that writes an outcome to the table. -/
def containerConcludes : TranscriberBatch.Move Transcript → Bool
  | .succeed fault _ | .fail fault => fault ≠ .lost
  | _ => false

/-- The move writes an outcome to the table. -/
def RunMove.concludes : RunMove → Bool
  | .container move => containerConcludes move
  | .fetch _ => false
  | .conclude calls => calls.write ≠ .lost

/-- One move of a run. -/
def Run.move (key : IngestionKey) (ingestions : Ingestions) (run : Run) (move : RunMove) :
    Option (Ingestions × Run) :=
  match run.phase, move with
  | .container phase, .container move => do
      let (ingestions, moved) ← (runIngestionMode key).move ingestions phase move
      some (ingestions, ⟨.container moved, run.wrote || containerConcludes move⟩)
  | .fetching, .fetch recordRead =>
      match fetch ingestions key recordRead with
      | some (.record _ _) => some (ingestions, { run with phase := .transcribing })
      | _ => some (ingestions, { run with phase := .done })
  | .transcribing, .conclude calls =>
      some ((conclude ingestions key calls).1, ⟨.done, run.wrote || calls.write ≠ .lost⟩)
  | _, _ => none

/-- One move of a delivery or a request, `_dispatch` or `request_transcription`, and of the run
it has started. -/
def Caller.move (key : IngestionKey) (ingestions : Ingestions) :
    Caller → Move → Option (Ingestions × Caller)
  | .reading asker, .read recordRead =>
      match fetch ingestions key recordRead with
      | some (.record _ status) =>
          if status = some .succeeded then some (ingestions, .ended)
          else if status = some .pending then some (ingestions, .ended)
          else some (ingestions, .marking asker)
      | _ => some (ingestions, .ended)
  | .marking asker, .mark fault =>
      let (ingestions, error) := putIngestions fault ingestions (ingestions.setTranscriptPending key)
      match error with
      | some _ => some (ingestions, .ended)
      | none => some (ingestions, .handing asker)
  | .handing .delivery, .dispatch environment submission =>
      if environment.backend = "batch" then
        if submission.accepted then
          some (ingestions, .running ⟨.container .marking, false⟩)
        else some (ingestions, .ended)
      else
        match getTranscriber environment with
        | some _ => some (ingestions, .ended)
        | none => some (ingestions, .running ⟨.fetching, false⟩)
  | .handing .request, .refresh recordRead =>
      -- When this read fails, no response is sent and the background task is dropped.
      match fetch ingestions key recordRead with
      | some (.record _ _) => some (ingestions, .running ⟨.fetching, false⟩)
      | _ => some (ingestions, .ended)
  | .running run, .run move => do
      let (ingestions, moved) ← run.move key ingestions move
      some (ingestions, .running moved)
  | _, _ => none

/-- A delivery or a request comes in, or one of them moves. -/
inductive Action where
  | arrive (asker : Asker)
  | caller (index : ℕ) (move : Move)

/-- The ingestion table, and the deliveries and requests so far. -/
structure State where
  ingestions : Ingestions
  callers : List Caller

/-- One step of the callers. -/
def step (key : IngestionKey) (state : State) : Action → Option State
  | .arrive asker => some { state with callers := state.callers ++ [.reading asker] }
  | .caller index move => do
      let caller ← state.callers[index]?
      let (ingestions, moved) ← caller.move key state.ingestions move
      some ⟨ingestions, state.callers.set index moved⟩

/-- Before the first delivery and request, with any table. -/
def State.start (ingestions : Ingestions) : State := ⟨ingestions, []⟩

/-- The caller has started a run. -/
def Caller.started : Caller → Bool
  | .running _ => true
  | _ => false

/-- The caller has started a run that has not written an outcome. -/
def Caller.inFlight : Caller → Bool
  | .running run => !run.wrote
  | _ => false

/-- A step starts a run only when every run before it has written its outcome. -/
def StartsAlone (key : IngestionKey) (state : State) (action : Action) : Prop :=
  ∀ next ∈ step key state action,
    state.callers.countP Caller.started < next.callers.countP Caller.started →
      ∀ caller ∈ state.callers, caller.inFlight = false

instance (key : IngestionKey) (state : State) (action : Action) :
    Decidable (StartsAlone key state action) :=
  inferInstanceAs (Decidable (∀ next ∈ step key state action, _))

/-- A mark that is answered finds the record not pending, and an outcome is the first of its
run. -/
def Move.InTurn (key : IngestionKey) (ingestions : Ingestions) (caller : Caller) : Move → Prop
  | .mark fault => fault.reply ≠ .failed → ingestions.status key ≠ some .pending
  | .run move => move.concludes = true → caller.inFlight = true
  | _ => True

/-- Every caller moves in its turn. -/
def InTurn (key : IngestionKey) (state : State) : Action → Prop
  | .arrive _ => True
  | .caller index move =>
      ∀ caller ∈ state.callers[index]?, move.InTurn key state.ingestions caller

/-! ## What a move leaves -/

/-- The caller has marked the record and is about to start its run, or its run is in flight. -/
def Caller.live : Caller → Bool
  | .handing _ => true
  | .running run => !run.wrote
  | _ => false

theorem Caller.live_of_inFlight {caller : Caller} (inFlight : caller.inFlight = true) :
    caller.live = true := by
  cases caller with
  | running run => exact inFlight
  | reading asker | marking asker | handing asker | ended => cases inFlight

variable {key : IngestionKey} {ingestions after : Ingestions} {caller moved : Caller}

/-- What a move does to the mark: a caller becomes live by a mark, on a record that is not
pending, and only a run in flight takes the mark away. -/
structure Effect (key : IngestionKey) (ingestions : Ingestions) (caller : Caller)
    (after : Ingestions) (moved : Caller) : Prop where
  claims : moved.live = true → caller.live = false →
    ingestions.status key ≠ some .pending ∧ after.status key = some .pending
  keeps : moved.live = true ∨ caller.live = false →
    ingestions.status key = some .pending → after.status key = some .pending
  starts : moved.started = true → caller.started = false → caller.live = true

/-- A move that writes nothing, and leaves the caller no more live than it was. -/
theorem Effect.quiet (lives : moved.live = true → caller.live = true)
    (starts : moved.started = true → caller.started = false → caller.live = true) :
    Effect key ingestions caller ingestions moved where
  claims live dead := by
    rw [lives live] at dead
    cases dead
  keeps _ pending := pending
  starts := starts

/-- A mark makes its caller live when it is answered. -/
theorem Effect.mark {asker : Asker} {fault : Fault}
    (inTurn : fault.reply ≠ .failed → ingestions.status key ≠ some .pending)
    (taken : Caller.move key ingestions (.marking asker) (.mark fault) = some (after, moved)) :
    Effect key ingestions (.marking asker) after moved := by
  have marked : (ingestions.setTranscriptPending key).status key = some .pending :=
    Ingestions.status_setTranscriptPending
  cases fault with
  | lost =>
      cases taken
      exact .quiet (fun live => live) fun started _ => started
  | unacked =>
      cases taken
      exact ⟨fun live => Bool.noConfusion live, fun _ _ => marked, fun started _ => started⟩
  | none | retried =>
      cases taken
      exact ⟨fun _ _ => ⟨inTurn (by decide), marked⟩, fun _ _ => marked,
        fun started _ => Bool.noConfusion started⟩

/-- A move of a container that writes no outcome leaves the status, or marks the record. -/
theorem status_of_quiet {move : TranscriberBatch.Move Transcript}
    (quiet : containerConcludes move = false) (status : Option TranscriptStatus) :
    ((TranscriberBatch.Action.attempt 0 move).reaching.map transcriptStatus).getD status = status ∨
      ((TranscriberBatch.Action.attempt 0 move).reaching.map transcriptStatus).getD status =
        some .pending := by
  cases move with
  | mark fault =>
      cases fault with
      | lost => exact Or.inl rfl
      | none | unacked | retried => exact Or.inr rfl
  | succeed fault _ | fail fault =>
      cases fault with
      | lost => exact Or.inl rfl
      | none | unacked | retried => cases quiet
  | advance | produce _ | raise _ | close => exact Or.inl rfl

theorem conclude_of_lost {calls : TranscriptionCalls} (lost : calls.write = .lost) :
    (conclude ingestions key calls).1 = ingestions := by
  unfold conclude
  split
  · rw [putIngestions_table, if_pos lost]
  · split
    · rw [putIngestions_table, if_pos lost]
    · rw [putIngestions_table, if_pos lost]

/-- A move of a run writes an outcome, or it leaves the status or marks the record again. -/
theorem Run.move_status {run next : Run} {move : RunMove}
    (taken : run.move key ingestions move = some (after, next)) :
    next.wrote = (run.wrote || move.concludes) ∧
      (move.concludes = false →
        after.status key = ingestions.status key ∨ after.status key = some .pending) := by
  obtain ⟨phase, wrote⟩ := run
  cases phase with
  | container phase =>
      cases move with
      | container move =>
          obtain ⟨⟨written, moved⟩, made, taken⟩ := Option.bind_eq_some_iff.mp taken
          cases taken
          refine ⟨rfl, fun quiet => ?_⟩
          have status : after.status key =
              ((TranscriberBatch.Action.attempt 0 move).reaching.map transcriptStatus).getD
                (ingestions.status key) := (runIngestionMode_sets key).move made
          rw [status]
          exact status_of_quiet quiet _
      | fetch _ | conclude _ => cases taken
  | fetching =>
      cases move with
      | fetch recordRead =>
          simp only [Run.move] at taken
          split at taken
          all_goals
            cases taken
            exact ⟨(Bool.or_false _).symm, fun _ => Or.inl rfl⟩
      | container _ | conclude _ => cases taken
  | transcribing =>
      cases move with
      | conclude calls =>
          cases taken
          refine ⟨rfl, fun quiet => Or.inl ?_⟩
          have lost := of_decide_eq_false quiet
          rw [conclude_of_lost (not_not.mp lost)]
      | container _ | fetch _ => cases taken
  | done =>
      cases move with
      | container _ | fetch _ | conclude _ => cases taken

/-- What a move of a run does to the mark. -/
theorem Effect.run {run next : Run} {move : RunMove}
    (inTurn : move.concludes = true → (Caller.running run).inFlight = true)
    (taken : run.move key ingestions move = some (after, next)) :
    Effect key ingestions (.running run) after (.running next) := by
  obtain ⟨wrote, quiet⟩ := Run.move_status taken
  have keeps : move.concludes = false → ingestions.status key = some .pending →
      after.status key = some .pending := by
    intro silent pending
    rcases quiet silent with same | marked
    · rw [same, pending]
    · exact marked
  refine ⟨fun live dead => ?_, fun held => keeps ?_, fun _ unstarted => Bool.noConfusion unstarted⟩
  · simp only [Caller.live, wrote] at live dead
    simp_all
  · cases concludes : move.concludes with
    | false => rfl
    | true =>
        simp only [Caller.live, wrote, concludes] at held
        have open_ := inTurn concludes
        simp only [Caller.inFlight] at open_
        simp_all

theorem Caller.move_effect {move : Move} (inTurn : move.InTurn key ingestions caller)
    (taken : caller.move key ingestions move = some (after, moved)) :
    Effect key ingestions caller after moved := by
  have ends : Effect key ingestions caller ingestions .ended :=
    .quiet (fun live => Bool.noConfusion live) fun started => Bool.noConfusion started
  unfold Caller.move at taken
  split at taken
  · split at taken
    · split at taken
      · cases taken
        exact ends
      · split at taken
        · cases taken
          exact ends
        · cases taken
          exact .quiet (fun live => Bool.noConfusion live) fun started => Bool.noConfusion started
    · cases taken
      exact ends
  · exact .mark inTurn taken
  · have handed : ∀ run, Effect key ingestions (.handing .delivery) ingestions (.running run) :=
      fun _ => .quiet (fun _ => rfl) fun _ _ => rfl
    split at taken
    · split at taken
      · cases taken
        exact handed _
      · cases taken
        exact ends
    · split at taken
      · cases taken
        exact ends
      · cases taken
        exact handed _
  · split at taken
    · cases taken
      exact .quiet (fun _ => rfl) fun _ _ => rfl
    · cases taken
      exact ends
  · obtain ⟨⟨written, next⟩, made, taken⟩ := Option.bind_eq_some_iff.mp taken
    cases taken
    exact .run inTurn made
  · cases taken

/-! ## At most one live caller -/

/-- The caller at an index is live. -/
def State.Live (state : State) (index : ℕ) : Prop :=
  ∃ caller, state.callers[index]? = some caller ∧ caller.live = true

/-- At most one caller is live, and the record is pending while one is. -/
structure OneLive (key : IngestionKey) (state : State) : Prop where
  pending : ∀ index, state.Live index → state.ingestions.status key = some .pending
  unique : ∀ first second, state.Live first → state.Live second → first = second

variable {state next : State} {index other : ℕ}

theorem OneLive.start (ingestions : Ingestions) : OneLive key (.start ingestions) where
  pending _ live := by
    obtain ⟨_, found, _⟩ := live
    cases found
  unique _ _ live := by
    obtain ⟨_, found, _⟩ := live
    cases found

theorem OneLive.arrive (one : OneLive key state) (asker : Asker) :
    OneLive key { state with callers := state.callers ++ [.reading asker] } := by
  have before : ∀ index, State.Live { state with callers := state.callers ++ [.reading asker] }
      index → state.Live index := by
    intro index live
    obtain ⟨caller, found, live⟩ := live
    refine ⟨caller, ?_, live⟩
    rw [List.getElem?_append] at found
    split at found
    · exact found
    · rw [List.getElem?_singleton] at found
      split at found
      · cases found
        cases live
      · cases found
  exact ⟨fun index live => one.pending index (before index live),
    fun first second live alive => one.unique first second (before _ live) (before _ alive)⟩

/-- Who is live after a caller has moved. -/
theorem live_set (found : state.callers[index]? = some caller)
    (live : State.Live ⟨after, state.callers.set index moved⟩ other) :
    (other = index ∧ moved.live = true) ∨ (other ≠ index ∧ state.Live other) := by
  obtain ⟨held, at_other, alive⟩ := live
  by_cases same : other = index
  · subst same
    refine Or.inl ⟨rfl, ?_⟩
    rw [List.getElem?_set_self' , found] at at_other
    cases at_other
    exact alive
  · rw [List.getElem?_set_ne (Ne.symm same)] at at_other
    exact Or.inr ⟨same, held, at_other, alive⟩

/-- A move keeps at most one caller live. -/
theorem OneLive.set (one : OneLive key state) (found : state.callers[index]? = some caller)
    (effect : Effect key state.ingestions caller after moved) :
    OneLive key ⟨after, state.callers.set index moved⟩ := by
  -- Another caller that is live excludes that this one was, and that it becomes live.
  have alone : ∀ other, other ≠ index → state.Live other →
      caller.live = false ∧ moved.live = false := by
    intro other different live
    have dead : caller.live = false := by
      by_contra alive
      exact different (one.unique other index live ⟨caller, found, eq_true_of_ne_false alive⟩)
    refine ⟨dead, ?_⟩
    by_contra alive
    exact (effect.claims (eq_true_of_ne_false alive) dead).1 (one.pending other live)
  refine ⟨fun other live => ?_, fun first second live alive => ?_⟩
  · rcases live_set found live with ⟨rfl, alive⟩ | ⟨different, before⟩
    · cases was : caller.live with
      | true => exact effect.keeps (Or.inl alive) (one.pending other ⟨caller, found, was⟩)
      | false => exact (effect.claims alive was).2
    · exact effect.keeps (Or.inr (alone other different before).1) (one.pending other before)
  · rcases live_set found live with ⟨rfl, moves⟩ | ⟨different, before⟩
    · rcases live_set found alive with ⟨rfl, _⟩ | ⟨different, before⟩
      · rfl
      · rw [(alone second different before).2] at moves
        cases moves
    · rcases live_set found alive with ⟨rfl, moves⟩ | ⟨_, after⟩
      · rw [(alone first different before).2] at moves
        cases moves
      · exact one.unique first second before after

/-- A step of callers that move in their turn keeps at most one of them live. -/
theorem step_oneLive {action : Action} (one : OneLive key state) (inTurn : InTurn key state action)
    (taken : step key state action = some next) : OneLive key next := by
  cases action with
  | arrive asker =>
      cases taken
      exact one.arrive asker
  | caller index move =>
      obtain ⟨caller, found, taken⟩ := Option.bind_eq_some_iff.mp taken
      obtain ⟨⟨after, moved⟩, made, taken⟩ := Option.bind_eq_some_iff.mp taken
      cases taken
      exact one.set found (Caller.move_effect (inTurn caller found) made)

/-- With at most one live caller, a run is started alone. -/
theorem OneLive.startsAlone {action : Action} (one : OneLive key state)
    (inTurn : InTurn key state action) : StartsAlone key state action := by
  intro next taken starts caller member
  cases action with
  | arrive asker =>
      cases taken
      simp [Caller.started] at starts
  | caller index move =>
      obtain ⟨mover, found, taken⟩ := Option.bind_eq_some_iff.mp taken
      obtain ⟨⟨after, moved⟩, made, taken⟩ := Option.bind_eq_some_iff.mp taken
      cases taken
      have effect := Caller.move_effect (inTurn mover found) made
      obtain ⟨bound, held⟩ := List.getElem?_eq_some_iff.mp found
      simp only [List.countP_set bound, held] at starts
      have counted : mover.started = true → 0 < state.callers.countP Caller.started :=
        fun started => List.countP_pos_iff.mpr ⟨mover, List.mem_of_getElem? found, started⟩
      have unstarted : mover.started = false := by
        by_contra started
        have positive := counted (eq_true_of_ne_false started)
        rw [if_pos (eq_true_of_ne_false started)] at starts
        split at starts <;> omega
      have began : moved.started = true := by
        by_contra waits
        rw [if_neg waits] at starts
        omega
      by_contra flying
      obtain ⟨other, at_other⟩ := List.mem_iff_getElem?.mp member
      have live : state.Live other :=
        ⟨caller, at_other, Caller.live_of_inFlight (eq_true_of_ne_false flying)⟩
      have same := one.unique other index live ⟨mover, found, effect.starts began unstarted⟩
      subst same
      cases at_other.symm.trans found
      cases caller with
      | running run => cases unstarted
      | reading _ | marking _ | handing _ | ended => exact flying rfl

/-- **Runs are started one at a time when the marks are in turn.** For every ingestion table and
every interleaving of deliveries, requests and the runs they start: when each mark that is
answered finds the record not pending, and each run writes one outcome, a run is started only
after every run before it has written its outcome. -/
theorem starts_alone (key : IngestionKey) (ingestions : Ingestions) (actions : List Action)
    (inTurn : Meets (step key) (fun _ => InTurn key) [] (.start ingestions) actions) :
    Meets (step key) (fun _ => StartsAlone key) [] (.start ingestions) actions := by
  have kept : ∀ (_ : List Action) before action after, OneLive key before →
      InTurn key before action → step key before action = some after → OneLive key after :=
    fun _ _ _ _ => step_oneLive
  have gives : ∀ (_ : List Action) state action, OneLive key state → InTurn key state action →
      StartsAlone key state action := fun _ _ _ => OneLive.startsAlone
  exact Meets.of_invariant (OneLive.start ingestions) kept gives inTurn

/-! ## Two deliveries -/

def sampleKey : IngestionKey := ⟨"u", "i"⟩

/-- A record that an upload has written. -/
def sampleIngestions : Ingestions :=
  AList.insert sampleKey ⟨some ⟨"a.wav", "audio/u/i/a.wav"⟩, none, none, none⟩ ∅

/-- The hand-over of a delivery to AWS Batch. -/
def submits : Move := .dispatch ⟨"batch", "", "", false, none⟩ .returned

/-- One delivery that runs its job, and one that finds the mark. -/
def deliveriesInTurn : List Action :=
  [.arrive .delivery, .arrive .delivery, .caller 0 (.read true), .caller 0 (.mark .none),
    .caller 1 (.read true), .caller 0 submits, .caller 0 (.run (.container (.mark .none)))]

instance (key : IngestionKey) (ingestions : Ingestions) (caller : Caller) (move : Move) :
    Decidable (move.InTurn key ingestions caller) :=
  match move with
  | .mark fault => inferInstanceAs (Decidable (fault.reply ≠ .failed → _))
  | .run move => inferInstanceAs (Decidable (move.concludes = true → _))
  | .read _ | .dispatch _ _ | .refresh _ => inferInstanceAs (Decidable True)

instance (key : IngestionKey) (state : State) (action : Action) :
    Decidable (InTurn key state action) :=
  match action with
  | .arrive _ => inferInstanceAs (Decidable True)
  | .caller index move =>
      inferInstanceAs (Decidable (∀ caller ∈ state.callers[index]?, _))

theorem starts_alone_inTurn :
    Meets (step sampleKey) (fun _ => StartsAlone sampleKey) [] (.start sampleIngestions)
      deliveriesInTurn :=
  starts_alone sampleKey sampleIngestions deliveriesInTurn (by decide +kernel)

/-- Two deliveries read the record before either marks it, and both start a run. -/
theorem two_runs_in_flight :
    ¬ ∀ (key : IngestionKey) (ingestions : Ingestions) (actions : List Action),
      Meets (step key) (fun _ => StartsAlone key) [] (.start ingestions) actions := by
  intro always
  have alone := always sampleKey sampleIngestions
    [.arrive .delivery, .arrive .delivery, .caller 0 (.read true), .caller 1 (.read true),
      .caller 0 (.mark .none), .caller 1 (.mark .none), .caller 0 submits, .caller 1 submits]
  revert alone
  decide +kernel

end Panakoes.TranscribeWorker.InFlight
