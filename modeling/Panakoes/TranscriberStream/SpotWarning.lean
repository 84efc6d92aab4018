import Panakoes.Foundation.Run
import Panakoes.TranscriberStream.Finalize
import Panakoes.TranscriberStream.FrameOrder

/-! # The Spot warning

`run()` with its frame source and the tasks beside it, once the session is ready. A watcher may set
its event wherever `run()` awaits something; the bridge then stops the frame source. The check of
the consume loop looks at the warning as well, but only at the end of a turn whose pass has
returned: the frame source can end before there is such a turn.
-/

namespace Panakoes.TranscriberStream

open Transition

/-- What the container works with. -/
structure Worker where
  service : Service
  source : SQSConsumer
  drain : Drain

/-- Where `run()` is: it awaits the next frame, or the rest of the turn over a chunk. -/
inductive Await where
  | frames
  | turn (pcm : Bytes)
  | ended (exit : Exit)

/-- `run()` and its frame source. -/
structure Running where
  source : SQSConsumer.State
  session : State
  awaits : Await

/-- What happens to a run. `hangUp` is a keepalive ping that finds the connection gone. -/
inductive Event where
  | warn
  | disconnect
  | hangUp
  | bridge
  | frames (action : SQSConsumer.Action)
  | turn (turn : Turn)

namespace Running

/-- The session is ready: no stop condition has been observed, all that has left the process are
messages, and the frame source has not been asked yet. -/
def ready (row : List (String × PyJson)) (messages : List PyJson) : Running where
  source := SQSConsumer.initial
  session :=
    { gone := false
      spot := false
      disconnected := false
      lastPartialText := ""
      lastPartialSentAt := 0
      row
      passes := []
      log := messages.map .posted }
  awaits := .frames

/-- The loop has ended. -/
def leave (running : Running) (worker : Worker) (ended : TurnEnd) : Running :=
  { running with
    session := (running.session.finalize worker.service worker.drain ended).1
    awaits := .ended (running.session.finalize worker.service worker.drain ended).2 }

/-- The frame source is suspended again: at a `yield`, in a call, or for good. -/
def resumed (running : Running) (worker : Worker) : Running :=
  match running.source.pc with
  | .returned => running.leave worker .leave
  | .raised _ => running.leave worker .raised
  | .payloads _ | .flush | .skipFlush | .drain _ =>
      match running.source.yielded.getLast? with
      | some (_, pcm) => { running with awaits := .turn pcm }
      | none => running
  | .created | .receiving | .sleeping => running

/-- `sqs.stop()`. -/
def stop (running : Running) : Running :=
  { running with source := { running.source with stopped := true } }

/-- A turn of the loop. It stops the frame source if it sees a reason to leave. -/
def take (running : Running) (worker : Worker) (turn : Turn) : Running :=
  let taken := { running with session := (running.session.consumeChunk turn).1 }
  match (running.session.consumeChunk turn).2 with
  | .again => { taken with awaits := .frames }
  | .raised => taken.leave worker .raised
  | .leave => taken.stop.leave worker .leave
  | .spotDrain => taken.stop.leave worker .spotDrain

/-- One step of a run that has not ended. -/
def step (worker : Worker) (running : Running) (event : Event) : Option Running :=
  match running.awaits, event with
  | .ended _, _ => none
  | _, .warn => some { running with session := { running.session with spot := true } }
  | _, .disconnect => some { running with session := { running.session with disconnected := true } }
  | _, .hangUp => some { running with session := { running.session with gone := true } }
  | _, .bridge =>
      if running.session.spot || running.session.disconnected then some running.stop else none
  | .frames, .frames .stop => none
  | .frames, .frames action =>
      (worker.source.step running.source action).map fun source =>
        { running with source }.resumed worker
  | .turn pcm, .turn turn => if turn.pcm = pcm then some (running.take worker turn) else none
  | _, _ => none

/-- A stop condition has been observed. -/
def Stopping (running : Running) : Prop :=
  running.session.spot = true ∨ running.session.disconnected = true ∨ running.session.gone = true

end Running

/-- The finalize path has been run for the Spot interruption. -/
def State.SpotRecorded (state : State) : Prop :=
  .finalize "spot-interrupted" "interrupted" ∈ state.log

/-- The pass of the turn returns. -/
def Turn.Returns (turn : Turn) : Prop :=
  ∃ committed processedUpto, turn.pass = .returned committed processedUpto

/-- A turn that comes to its check when the warning has been observed: its pass returns, and
nothing raises in it. -/
def SeesWarning (state : State) (turn : Turn) : Prop :=
  (state.spot || turn.spot) = true ∧ turn.Returns ∧ (state.consumeChunk turn).2 ≠ .raised

/-- Among the turns of the run is one that comes to its check after the warning. -/
def WarningSeen (worker : Worker) (start : Running) (events : List Event) : Prop :=
  ∃ past turn rest before after, events = past ++ .turn turn :: rest ∧
    execute (Running.step worker) start past = some before ∧
    Running.step worker before (.turn turn) = some after ∧ SeesWarning before.session turn

variable {worker : Worker} {state : State} {start running next final : Running} {turn : Turn}
  {events : List Event}

/-! ## The check of a turn -/

theorem spot_sendPartial (state : State) (turn : Turn) :
    (state.sendPartial turn).1.spot = state.spot := by
  unfold State.sendPartial
  dsimp only
  generalize hypothesisText turn.buffer = hypothesis
  split
  · obtain ⟨_, _, told⟩ := told_send { state with
      lastPartialText := hypothesis, lastPartialSentAt := turn.nowMono }
      (.dict [("type", .str "partial"), ("text", .str hypothesis)]) turn.partialPost
    rw [told]
  · rfl

/-- After a pass that has returned, a turn ends with the check unless something raises. -/
theorem deliver_eq_spotDrain_iff (turn : Turn) (committed : List AsrToken) (processedUpto : ℚ) :
    (state.deliver turn committed processedUpto).2 = .spotDrain ↔
      state.spot = true ∧ (state.deliver turn committed processedUpto).2 ≠ .raised := by
  have kept := spot_sendPartial state turn
  unfold State.deliver
  split
  · exact ⟨fun same => (by cases same), fun both => absurd rfl both.2⟩
  · rename_i sent _ partialSent
    rw [partialSent] at kept
    have told := told_sendWhileOk (committed.map (finalMessage processedUpto)) sent turn.finalPosts
    split
    · exact ⟨fun same => (by cases same), fun both => absurd rfl both.2⟩
    · rename_i finals _ sentFinals
      rw [sentFinals] at told
      obtain ⟨_, _, rfl⟩ := told
      dsimp only [State.turnEnd] at kept ⊢
      rw [← kept]
      split
      · rename_i warned
        exact ⟨fun _ => ⟨warned, fun same => (by cases same)⟩, fun _ => rfl⟩
      · rename_i unwarned
        refine ⟨fun same => ?_, fun both => absurd both.1 unwarned⟩
        split at same <;> cases same

/-- The check of a turn finds the warning. -/
theorem consumeChunk_eq_spotDrain_iff (state : State) (turn : Turn) :
    (state.consumeChunk turn).2 = .spotDrain ↔ SeesWarning state turn := by
  unfold SeesWarning Turn.Returns State.consumeChunk
  split
  · exact ⟨fun same => (by cases same), fun all => absurd rfl all.2.2⟩
  · split
    · rename_i raised
      refine ⟨fun same => (by cases same), fun all => ?_⟩
      obtain ⟨committed, processedUpto, returned⟩ := all.2.1
      cases raised.symm.trans returned
    · rename_i committed processedUpto returned
      rw [deliver_eq_spotDrain_iff]
      exact ⟨fun both => ⟨both.1, ⟨committed, processedUpto, returned⟩, both.2⟩,
        fun all => ⟨all.1, all.2.2⟩⟩

/-! ## The end of a run -/

theorem State.SpotRecorded.ending (recorded : state.SpotRecorded) :
    .finalize "spot-interrupted" "interrupted" ∈ state.endings :=
  List.mem_filter.mpr ⟨recorded, by rfl⟩

theorem unrecorded_of_quiet (quiet : state.endings = []) : ¬ state.SpotRecorded := by
  intro recorded
  have ending := recorded.ending
  rw [quiet] at ending
  cases ending

/-- The finalize path says once what it is run for. -/
theorem spotRecorded_drainAndExit (quiet : state.endings = []) (drain : Drain)
    (reason status : String) :
    (state.drainAndExit worker.service drain reason status).1.SpotRecorded ↔
      reason = "spot-interrupted" ∧ status = "interrupted" := by
  obtain ⟨gone, messages, exit, drained, -⟩ :=
    drainAndExit_spec worker.service state drain reason status
  have before : .finalize "spot-interrupted" "interrupted" ∉ state.log := unrecorded_of_quiet quiet
  have behind : .finalize "spot-interrupted" "interrupted" ∉
      drain.effects worker.service reason messages exit := by
    unfold Drain.effects Drain.archived
    split <;> split <;> simp
  rw [State.SpotRecorded, drained, List.mem_append, List.mem_cons, or_iff_right before,
    or_iff_left behind, Effect.finalize.injEq, @eq_comm _ reason, @eq_comm _ status]

/-- The end of the loop decides what is recorded. -/
theorem spotRecorded_leave (quiet : running.session.endings = []) (ended : TurnEnd) :
    (running.leave worker ended).session.SpotRecorded ↔ ended = .spotDrain := by
  unfold Running.leave
  cases ended with
  | raised =>
      exact ⟨fun recorded => absurd recorded (unrecorded_of_quiet quiet),
        fun same => (by cases same)⟩
  | spotDrain =>
      rw [State.finalize, spotRecorded_drainAndExit quiet]
      decide
  | again | leave =>
      rw [State.finalize, spotRecorded_drainAndExit quiet]
      refine ⟨fun same => absurd same.1 ?_, fun same => (by cases same)⟩
      split <;> decide

/-- A run that goes on has not entered the finalize path. -/
def Running.Quiet (running : Running) : Prop :=
  (∃ exit, running.awaits = .ended exit) ∨ running.session.endings = []

/-- What the frame source does records no Spot interruption. -/
theorem resumed_unrecorded (quiet : running.session.endings = []) :
    ¬ (running.resumed worker).session.SpotRecorded ∧ (running.resumed worker).Quiet := by
  have unrecorded := unrecorded_of_quiet quiet
  unfold Running.resumed
  split
  · exact ⟨fun recorded => (by cases (spotRecorded_leave quiet _).mp recorded), Or.inl ⟨_, rfl⟩⟩
  · exact ⟨fun recorded => (by cases (spotRecorded_leave quiet _).mp recorded), Or.inl ⟨_, rfl⟩⟩
  all_goals first | exact ⟨unrecorded, Or.inr quiet⟩ | skip
  all_goals
    split
    · exact ⟨unrecorded, Or.inr quiet⟩
    · exact ⟨unrecorded, Or.inr quiet⟩

/-- What an event does: it is not about the loop, it lets the frame source go on, or it is a turn. -/
theorem step_cases {event : Event} (taken : running.step worker event = some next) :
    (∀ exit, running.awaits ≠ .ended exit) ∧
      ((next.session.endings = running.session.endings ∧ ∀ turn, event ≠ .turn turn) ∨
        (∃ source action, event = .frames action ∧
          next = { running with source }.resumed worker) ∨
        ∃ turn, event = .turn turn ∧ next = running.take worker turn) := by
  unfold Running.step at taken
  split at taken
  · cases taken
  · rename_i going
    cases taken
    exact ⟨going, Or.inl ⟨rfl, fun turn same => (by cases same)⟩⟩
  · rename_i going
    cases taken
    exact ⟨going, Or.inl ⟨rfl, fun turn same => (by cases same)⟩⟩
  · rename_i going
    cases taken
    exact ⟨going, Or.inl ⟨rfl, fun turn same => (by cases same)⟩⟩
  · rename_i going
    split at taken
    · cases taken
      exact ⟨going, Or.inl ⟨rfl, fun turn same => (by cases same)⟩⟩
    · cases taken
  · cases taken
  · rename_i action _ awaiting
    obtain ⟨source, -, rfl⟩ := Option.map_eq_some_iff.mp taken
    refine ⟨fun exit ended => ?_, Or.inr (Or.inl ⟨source, action, rfl, rfl⟩)⟩
    cases awaiting.symm.trans ended
  · rename_i pcm turn awaiting
    split at taken
    · cases taken
      refine ⟨fun exit ended => ?_, Or.inr (Or.inr ⟨turn, rfl, rfl⟩)⟩
      cases awaiting.symm.trans ended
    · cases taken
  · cases taken

/-- A turn records the Spot interruption if its check finds the warning. -/
theorem take_recorded (quiet : running.session.endings = []) (turn : Turn) :
    (running.take worker turn).Quiet ∧
      ((running.take worker turn).session.SpotRecorded ↔ SeesWarning running.session turn) := by
  have posted := posts_consumeChunk running.session turn
  have still : (running.session.consumeChunk turn).1.endings = [] := posted.endings.trans quiet
  rw [← consumeChunk_eq_spotDrain_iff]
  unfold Running.take
  cases (running.session.consumeChunk turn).2 with
  | again =>
      exact ⟨Or.inr still, iff_of_false (unrecorded_of_quiet still) fun same => (by cases same)⟩
  | raised | leave | spotDrain => exact ⟨Or.inl ⟨_, rfl⟩, spotRecorded_leave still _⟩

/-- A step records the Spot interruption if it is a turn whose check finds the warning. -/
theorem step_recorded {event : Event} (quiet : running.Quiet)
    (taken : running.step worker event = some next) :
    ¬ running.session.SpotRecorded ∧ next.Quiet ∧
      (next.session.SpotRecorded ↔
        ∃ turn, event = .turn turn ∧ SeesWarning running.session turn) := by
  obtain ⟨going, cases⟩ := step_cases taken
  have still : running.session.endings = [] := by
    rcases quiet with ⟨exit, ended⟩ | still
    · exact absurd ended (going exit)
    · exact still
  refine ⟨unrecorded_of_quiet still, ?_⟩
  rcases cases with ⟨same, beside⟩ | ⟨source, action, rfl, rfl⟩ | ⟨turn, rfl, rfl⟩
  · refine ⟨Or.inr (same.trans still), iff_of_false (unrecorded_of_quiet (same.trans still)) ?_⟩
    rintro ⟨turn, about, -⟩
    exact beside turn about
  · obtain ⟨unrecorded, quiet⟩ :=
      @resumed_unrecorded worker { running with source } still
    refine ⟨quiet, iff_of_false unrecorded ?_⟩
    rintro ⟨turn, about, -⟩
    cases about
  · obtain ⟨quiet, recorded⟩ := @take_recorded worker running still turn
    refine ⟨quiet, recorded.trans ⟨fun sees => ⟨turn, rfl, sees⟩, ?_⟩⟩
    rintro ⟨same, about, sees⟩
    cases about
    exact sees

/-- A run records the Spot interruption if one of its turns comes to its check after the warning. -/
theorem recorded_of_run (quiet : start.session.endings = [])
    (run : execute (Running.step worker) start events = some final) :
    final.Quiet ∧ (final.session.SpotRecorded ↔ WarningSeen worker start events) := by
  induction events using List.reverseRecOn generalizing final with
  | nil =>
      cases run
      refine ⟨Or.inr quiet, iff_of_false (unrecorded_of_quiet quiet) ?_⟩
      rintro ⟨past, turn, rest, before, after, split, -⟩
      exact absurd split.symm (by simp)
  | append_singleton past event ih =>
      obtain ⟨before, reached, taken⟩ := (execute_concat_eq_some _).mp run
      obtain ⟨still, earlier⟩ := ih reached
      obtain ⟨unrecorded, quiet, recorded⟩ := step_recorded still taken
      refine ⟨quiet, recorded.trans ⟨?_, ?_⟩⟩
      · rintro ⟨turn, rfl, sees⟩
        exact ⟨past, turn, [], before, final, rfl, reached, taken, sees⟩
      · rintro ⟨front, turn, rest, middle, after, split, held, turned, sees⟩
        rcases rest.eq_nil_or_concat with rfl | ⟨rest, last, rfl⟩
        · obtain ⟨rfl, same⟩ := List.append_inj' split rfl
          cases same
          cases held.symm.trans reached
          exact ⟨turn, rfl, sees⟩
        · -- an earlier turn that saw the warning would have ended the run
          rw [List.concat_eq_append, ← List.cons_append, ← List.append_assoc] at split
          obtain ⟨rfl, -⟩ := List.append_inj' split rfl
          exact absurd (earlier.mpr ⟨front, turn, rest, middle, after, rfl, held, turned, sees⟩)
            unrecorded

/-- **The finalize path is run for the Spot interruption if and only if a turn comes to its check
after the warning.** -/
theorem spotRecorded_iff_warningSeen (worker : Worker) (row : List (String × PyJson))
    (messages : List PyJson) (events : List Event) (final : Running)
    (run : execute (Running.step worker) (.ready row messages) events = some final) :
    final.session.SpotRecorded ↔ WarningSeen worker (.ready row messages) events :=
  (@recorded_of_run worker (.ready row messages) _ _ (filter_posted messages) run).2

/-- A turn in which nothing raises and whose pass returns comes to its check. -/
theorem seesWarning_of_sound (warned : state.spot = true) (sound : turn.Sound)
    (returns : turn.Returns) : SeesWarning state turn :=
  ⟨by rw [warned, Bool.true_or], returns, consumeChunk_sound state sound⟩

/-- The sample frames reach the sample service. -/
def sampleWorker : Worker := ⟨sampleService, SQSConsumer.sampleConsumer, (sampleScript [] "").drain⟩

/-- A frame is handed out, and the warning comes while its turn is under way. -/
def untilWarned : List Event :=
  [.frames (.next 0), .frames (SQSConsumer.receiveSamples [0] 0), .warn, .bridge]

/-- The theorem on a warning that comes during a turn. -/
theorem spotRecorded_inTurn :
    ∃ final, execute (Running.step sampleWorker) (.ready [] [])
        (untilWarned ++ [.turn (sampleTurn "word")]) = some final ∧
      final.session.SpotRecorded := by
  have warned : (execute (Running.step sampleWorker) (.ready [] []) untilWarned).map
      (fun before => (before.session.spot,
        (Running.step sampleWorker before (.turn (sampleTurn "word"))).isSome)) =
      some (true, true) := by
    decide +kernel
  obtain ⟨before, earlier, both⟩ := Option.map_eq_some_iff.mp warned
  rw [Prod.mk.injEq] at both
  obtain ⟨final, taken⟩ := Option.isSome_iff_exists.mp both.2
  have run := (execute_concat_eq_some (Running.step sampleWorker)).mpr ⟨before, earlier, taken⟩
  refine ⟨final, run, (spotRecorded_iff_warningSeen _ _ _ _ _ run).mpr ?_⟩
  exact ⟨_, _, [], before, final, rfl, earlier, taken, seesWarning_of_sound both.1
    ⟨by rfl, by rintro ⟨⟩, by rintro _ ⟨⟩⟩ ⟨_, _, rfl⟩⟩

/-- The warning is the first stop condition that is observed, and the run has ended. -/
structure WarnedFirst (worker : Worker) (start : Running) (events : List Event) (final : Running) :
    Prop where
  run : execute (Running.step worker) start events = some final
  ended : ∃ exit, final.awaits = .ended exit
  first : ∃ past rest before, events = past ++ .warn :: rest ∧
    execute (Running.step worker) start past = some before ∧ ¬ before.Stopping

/-- The warning comes while the queue is empty. -/
def warnedIdle : List Event :=
  [.frames (.next 0), .warn, .bridge, .frames (SQSConsumer.receiveSamples [] 0)]

/-- The run ends as if the client had left. -/
theorem idle_warning_unrecorded :
    ¬ ∀ worker row messages events final,
      WarnedFirst worker (.ready row messages) events final → final.session.SpotRecorded := by
  intro always
  have reached : (execute (Running.step sampleWorker) (.ready [] []) warnedIdle).map
      (fun final => (final.awaits, final.session.endings)) =
      some (.ended .returned, [.finalize "disconnected" "ended", .selfTerminate "disconnected"]) := by
    rfl
  obtain ⟨final, run, ends⟩ := Option.map_eq_some_iff.mp reached
  obtain ⟨ended, endings⟩ := Prod.mk.inj ends
  have recorded := always sampleWorker [] [] warnedIdle final
    ⟨run, ⟨_, ended⟩, [.frames (.next 0)], _, _, rfl, rfl,
      by unfold Running.Stopping; decide +kernel⟩
  have ending := recorded.ending
  rw [endings] at ending
  simp at ending

end Panakoes.TranscriberStream
