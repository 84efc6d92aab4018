import Panakoes.AdminSpa.StreamingSession

/-! # Ended and failed sessions

Whether a session that is over stays so and stays silent. The server's `ended`
and `error` change the status and leave the timers running, and neither `ready`
nor a socket that opens asks for the status. A session that ends through
`stop()` or because its socket closes clears its timers.
-/

namespace Panakoes.AdminSpa

open Transition

variable {π : Type*} {numberText : ℚ → String} {state next final : State π}
  {past actions : List (Action π)} {action : Action π}

/-- An audio frame or a ping of the session's own. -/
def Sent.isSpoken : Sent π → Bool
  | .audioFrame _ _ _ | .ping => true
  | .pingEcho _ => false

/-- The audio frames and pings sent since the last `start()`. -/
def State.spoken (state : State π) : List (Sent π) := state.sent.filter Sent.isSpoken

/-- `start()` is called. -/
def Action.IsStart : Action π → Prop
  | .start _ _ => True
  | .stop | .startRecording | .microphone _ | .worklet _ | .stopRecording | .workletStopped _
  | .captured _ _ _ | .opened _ | .message _ _ _ | .transportError _ | .closed _ | .spawnPing _
  | .catchup _ _ | .spawnStall => False

/-- Nothing runs that could send over an open socket. -/
def State.Silent (state : State π) : Prop :=
  state.WsOpen → ¬ state.spawnPingTimer.Running ∧ ¬ state.catchupTimer.Running

/-- What `ended` and `error` set the status to. -/
def MessageType.verdict : MessageType → Option StreamStatus
  | .ended => some .ended
  | .error => some .failed
  | .ready | .partialResult | .final | .finalChunk | .ping | .other => none

/-- The type of a message that is an object. -/
def typeOfData : Option PyJson → MessageType
  | some (.dict fields) => messageType fields
  | _ => .other

/-- The message changes nothing about a session that is over, and ends one that
is not only when nothing runs. -/
def CleanMessage (state : State π) (data : Option PyJson) : Prop :=
  let type := typeOfData data
  (state.status.Terminal → type = .ready → state.readyReceived = true) ∧
    (state.status.Terminal → type.verdict = none ∨ type.verdict = some state.status) ∧
    (¬ state.status.Terminal → type.verdict = none ∨ state.Silent)

/-- No socket opens when the session is over, a message is clean, `start()` does
not fail while an interval runs, and an earlier socket does not close while an
interval runs that no handle holds. -/
def CleanEnd (_past : List (Action π)) (state : State π) : Action π → Prop
  | .start opens _ => state.status.Startable → opens = true ∨ state.Silent
  | .opened _ => ¬ state.status.Terminal
  | .message _ data _ => CleanMessage state data
  | .closed (some _) =>
      state.WsOpen → state.spawnPingTimer.orphans = 0 ∧ state.catchupTimer.orphans = 0
  | .closed none | .stop | .startRecording | .microphone _ | .worklet _ | .stopRecording
  | .workletStopped _ | .captured _ _ _ | .transportError _ | .spawnPing _ | .catchup _ _
  | .spawnStall => True

/-! ## A session that is over -/

/-- The status, what has been spoken and the silence are as before. -/
structure Unmoved (state next : State π) : Prop where
  status : next.status = state.status
  spoken : next.spoken = state.spoken
  silent : next.Silent

/-- Only the socket, the timers and what has been sent matter. -/
theorem State.Silent.of_ws_none (closed : ¬ state.WsOpen) : state.Silent :=
  fun opened => absurd opened closed

theorem State.Silent.clearTimers (silent : state.Silent) : state.clearTimers.Silent := by
  intro opened
  obtain ⟨ping, catchup⟩ := silent opened
  exact ⟨fun running => ping running.of_clear, fun running => catchup running.of_clear⟩

theorem setEnded_of_terminal (terminal : state.status.Terminal) : state.setEnded = state :=
  if_pos terminal

theorem setStatus_of_same {status : StreamStatus} (same : state.status = status) :
    state.setStatus status = state :=
  if_pos same

theorem Unmoved.refl (silent : state.Silent) : Unmoved state state := ⟨rfl, rfl, silent⟩

/-- A silent session transmits nothing. -/
theorem transmitFrame_of_closed {pcm : π} {now : ℚ} {throws : Bool} (closed : ¬ state.WsOpen) :
    state.transmitFrame pcm now throws = state :=
  if_neg closed

theorem handleFrame_of_terminal (terminal : state.status.Terminal) (pcm : π) (now : ℚ)
    (throws : Bool) :
    state.handleFrame pcm now throws =
      { state with recordedPcm := state.recordedPcm ++ [pcm] } := by
  unfold State.handleFrame
  rcases terminal with ended | failed
  · simp only [ended]
  · simp only [failed]

/-- In a session that is over, a catch-up interval only takes from the queue. -/
theorem catchup_of_terminal (terminal : state.status.Terminal) (silent : state.Silent)
    (running : state.catchupTimer.Running) (now : ℚ) (throws : Bool) :
    ∃ pending timer, state.catchup now throws =
        { state with pendingFrames := pending, catchupTimer := timer } ∧ ¬ state.WsOpen := by
  have closed : ¬ state.WsOpen := fun opened => (silent opened).2 running
  unfold State.catchup
  split
  · rename_i empty
    refine ⟨state.pendingFrames, state.catchupTimer.clear, ?_, closed⟩
    refine if_neg fun catching => ?_
    rcases terminal with ended | failed
    · cases ended.symm.trans catching
    · cases failed.symm.trans catching
  · rename_i frame rest _
    refine ⟨rest, state.catchupTimer, ?_, closed⟩
    exact transmitFrame_of_closed closed

theorem resetStallWatchdog_of_terminal (terminal : state.status.Terminal) :
    state.resetStallWatchdog = state := by
  refine if_neg fun spawning => ?_
  rcases terminal with ended | failed
  · cases ended.symm.trans spawning
  · cases failed.symm.trans spawning

/-- A clean message changes neither the status nor what has been spoken. -/
theorem Unmoved.handleMessage (terminal : state.status.Terminal) (silent : state.Silent)
    {data : Option PyJson} (throws : Bool) (clean : CleanMessage state data) :
    Unmoved state (state.handleMessage numberText data throws) := by
  obtain ⟨received, verdict, -⟩ := clean
  unfold State.handleMessage
  rw [resetStallWatchdog_of_terminal terminal]
  split
  · rename_i fields
    specialize received terminal
    specialize verdict terminal
    simp only [typeOfData] at received verdict
    unfold State.dispatch
    split
    · rename_i ready
      rw [State.onReady, if_pos (received ready)]
      exact .refl silent
    · exact ⟨rfl, rfl, silent⟩
    · exact ⟨rfl, rfl, silent⟩
    · obtain ⟨buffer, expected, changed⟩ := state.bufferChunk_eq fields
      rw [changed]
      exact ⟨rfl, rfl, silent⟩
    · rename_i ended
      obtain ⟨segments, buffer, expected, changed⟩ := state.assembleFinalChunks_eq numberText
      rw [changed, setStatus_of_same]
      · exact ⟨rfl, rfl, silent⟩
      · simpa [ended, MessageType.verdict, eq_comm] using verdict
    · rename_i error
      rw [setStatus_of_same]
      · exact .refl silent
      · simpa [error, MessageType.verdict, eq_comm] using verdict
    · unfold State.sendPingEcho State.send
      split
      · split
        · exact .refl silent
        · refine ⟨rfl, ?_, silent⟩
          simp [State.spoken, Sent.isSpoken]
      · exact .refl silent
    · exact .refl silent
  · exact .refl silent

/-- A socket other than an opening one changes nothing that matters. -/
theorem setSocket_silent (silent : state.Silent) {readyState : ReadyState}
    (shut : readyState ≠ .opened) (socket : Option ℕ) :
    (state.setSocket readyState socket).Silent := by
  cases socket with
  | none =>
      intro opened
      cases Option.some.inj opened
      exact absurd rfl shut
  | some index => exact silent

/-- **A clean step of a session that is over.** Unless it is `start()`, it leaves
the status and what has been spoken as they are. -/
theorem Unmoved.step (terminal : state.status.Terminal) (silent : state.Silent)
    (clean : CleanEnd past state action) (notStart : ¬ action.IsStart)
    (taken : AdminSpa.step numberText state action = some next) : Unmoved state next := by
  unfold AdminSpa.step at taken
  cases action with
  | start opens now => exact absurd trivial notStart
  | stop =>
      cases taken
      unfold State.stop
      dsimp only
      split
      · unfold State.finishStop
        rw [setEnded_of_terminal (by exact terminal)]
        exact ⟨rfl, rfl, .of_ws_none (by rintro ⟨⟩)⟩
      · exact ⟨rfl, rfl, silent.clearTimers⟩
  | startRecording =>
      cases taken
      exact ⟨rfl, rfl, silent⟩
  | microphone stream =>
      obtain ⟨_, answered⟩ := Option.ite_none_right_eq_some.mp taken
      cases answered
      exact ⟨rfl, rfl, silent⟩
  | worklet worklet =>
      obtain ⟨_, answered⟩ := Option.ite_none_right_eq_some.mp taken
      cases answered
      exact ⟨rfl, rfl, silent⟩
  | stopRecording =>
      cases taken
      unfold State.stopRecording
      split
      · split
        · exact ⟨rfl, rfl, silent⟩
        · exact ⟨rfl, rfl, silent⟩
      · exact .refl silent
  | workletStopped index =>
      obtain ⟨pending, _, rfl⟩ := Option.map_eq_some_iff.mp taken
      cases pending with
      | session =>
          unfold State.finish State.finishStop
          dsimp only
          rw [setEnded_of_terminal (by exact terminal)]
          exact ⟨rfl, rfl, .of_ws_none (by rintro ⟨⟩)⟩
      | recording => exact ⟨rfl, rfl, silent⟩
  | captured pcm now throws =>
      cases taken
      rw [handleFrame_of_terminal terminal]
      exact ⟨rfl, rfl, silent⟩
  | opened socket => exact absurd terminal clean
  | message socket data throws =>
      obtain ⟨_, heard⟩ := Option.ite_none_right_eq_some.mp taken
      cases heard
      let heard := { state with
        serverReady := state.serverReady ∨ (socket = none ∧ SaysReady data) }
      have unmoved : Unmoved heard (heard.handleMessage numberText data throws) :=
        .handleMessage (by exact terminal) (by exact silent) throws (by exact clean)
      exact ⟨unmoved.status, unmoved.spoken, unmoved.silent⟩
  | transportError socket =>
      obtain ⟨_, same⟩ := Option.ite_none_left_eq_some.mp taken
      cases same
      exact .refl silent
  | closed socket =>
      obtain ⟨_, closed⟩ := Option.ite_none_left_eq_some.mp taken
      cases closed
      have shut : (state.setSocket .closed socket).clearTimers.Silent :=
        (setSocket_silent silent (by rintro ⟨⟩) socket).clearTimers
      obtain ⟨ws, others, changed⟩ := state.setSocket_eq .closed socket
      rw [changed] at shut ⊢
      rw [State.handleClose, setEnded_of_terminal (by exact terminal)]
      exact ⟨rfl, rfl, shut⟩
  | spawnPing throws =>
      obtain ⟨running, pinged⟩ := Option.ite_none_right_eq_some.mp taken
      cases pinged
      have closed : ¬ state.WsOpen := fun opened => (silent opened).1 running
      rw [State.sendPing, if_neg closed]
      exact .refl silent
  | catchup now throws =>
      obtain ⟨running, ticked⟩ := Option.ite_none_right_eq_some.mp taken
      cases ticked
      obtain ⟨pending, timer, changed, closed⟩ :=
        catchup_of_terminal terminal silent running now throws
      rw [changed]
      exact ⟨rfl, rfl, .of_ws_none closed⟩
  | spawnStall =>
      obtain ⟨_, fired⟩ := Option.ite_none_right_eq_some.mp taken
      cases fired
      exact ⟨rfl, rfl, silent⟩

/-! ## How a session gets over -/

/-- A session that is over is silent. -/
def Settled (state : State π) : Prop := state.status.Terminal → state.Silent

theorem Settled.of_active (active : ¬ state.status.Terminal) : Settled state :=
  fun terminal => absurd terminal active

theorem Settled.initial : Settled (State.initial : State π) :=
  .of_active (show ¬ StreamStatus.idle.Terminal by decide)

/-- A frame changes no status. -/
theorem transmitFrame_eq (state : State π) (pcm : π) (now : ℚ) (throws : Bool) :
    ∃ seq sent, state.transmitFrame pcm now throws =
      { state with seq := seq, sent := sent } := by
  unfold State.transmitFrame
  split
  · unfold State.send
    split
    · exact ⟨_, state.sent, rfl⟩
    · exact ⟨_, _, rfl⟩
  · exact ⟨state.seq, state.sent, rfl⟩

theorem handleFrame_status (state : State π) (pcm : π) (now : ℚ) (throws : Bool) :
    (state.handleFrame pcm now throws).status = state.status := by
  unfold State.handleFrame
  dsimp only
  split
  case h_4 =>
    obtain ⟨seq, sent, changed⟩ :=
      transmitFrame_eq { state with recordedPcm := state.recordedPcm ++ [pcm] } pcm now throws
    rw [changed]
  all_goals rfl

/-- A catch-up interval ends no session. -/
theorem catchup_active (active : ¬ state.status.Terminal) (now : ℚ) (throws : Bool) :
    ¬ (state.catchup now throws).status.Terminal := by
  unfold State.catchup
  split
  · dsimp only
    split
    · rw [State.setStatus_status]
      decide
    · exact active
  · rename_i frame rest _
    obtain ⟨seq, sent, changed⟩ :=
      transmitFrame_eq { state with pendingFrames := rest } frame now throws
    rw [changed]
    exact active

theorem onReady_active (active : ¬ state.status.Terminal) : ¬ state.onReady.status.Terminal := by
  unfold State.onReady
  split
  · exact active
  · dsimp only
    split
    · rw [State.setStatus_status]
      decide
    · rw [State.armCatchupTimer, State.setStatus_status]
      decide

/-- A clean message ends a session only when nothing runs. -/
theorem Settled.handleMessage (active : ¬ state.status.Terminal) {data : Option PyJson}
    (throws : Bool) (clean : CleanMessage state data) :
    Settled (state.handleMessage numberText data throws) := by
  obtain ⟨-, -, quiet⟩ := clean
  specialize quiet active
  obtain ⟨stall, reset⟩ := state.resetStallWatchdog_eq
  unfold State.handleMessage
  rw [reset]
  split
  · rename_i fields
    simp only [typeOfData] at quiet
    unfold State.dispatch
    split
    · exact .of_active (onReady_active (by exact active))
    · exact .of_active (by exact active)
    · exact .of_active (by exact active)
    · obtain ⟨buffer, expected, changed⟩ :=
        State.bufferChunk_eq { state with spawnStallTimer := stall } fields
      rw [changed]
      exact .of_active (by exact active)
    · rename_i ended
      rw [ended] at quiet
      have silent := quiet.resolve_left (by rintro ⟨⟩)
      obtain ⟨segments, buffer, expected, changed⟩ :=
        State.assembleFinalChunks_eq numberText { state with spawnStallTimer := stall }
      rw [changed]
      obtain ⟨stall', changed⟩ := State.setStatus_eq { state with
        spawnStallTimer := stall
        finalSegments := segments
        finalChunkBuffer := buffer
        expectedFinalChunks := expected } .ended
      rw [changed]
      exact fun _ => silent
    · rename_i error
      rw [error] at quiet
      have silent := quiet.resolve_left (by rintro ⟨⟩)
      obtain ⟨stall', changed⟩ :=
        State.setStatus_eq { state with spawnStallTimer := stall } .failed
      rw [changed]
      exact fun _ => silent
    · unfold State.sendPingEcho State.send
      split
      · split
        · exact .of_active (by exact active)
        · exact .of_active (by exact active)
      · exact .of_active (by exact active)
    · exact .of_active (by exact active)
  · exact .of_active (by exact active)

/-- Ending a silent session leaves it silent. -/
theorem State.Silent.setEnded (silent : state.Silent) : state.setEnded.Silent := by
  unfold State.setEnded
  split
  · exact silent
  · obtain ⟨stall, changed⟩ := state.setStatus_eq .ended
    rw [changed]
    exact silent

theorem finishStop_silent (state : State π) : state.finishStop.Silent :=
  State.Silent.setEnded (.of_ws_none (by rintro ⟨⟩))

/-- A failed `start()` leaves the timers and the socket as they are. -/
theorem start_silent (silent : state.Silent) (now : ℚ) :
    ((state.reset now).setStatus .failed).Silent := by
  obtain ⟨stall, failed⟩ := (state.reset now).setStatus_eq .failed
  obtain ⟨stall', reset⟩ := state.setStatus_eq .connecting
  rw [failed, State.reset, reset]
  exact silent

/-- Every clean step leaves a session that is over silent. -/
theorem Settled.step (settled : Settled state) (clean : CleanEnd past state action)
    (taken : AdminSpa.step numberText state action = some next) : Settled next := by
  by_cases terminal : state.status.Terminal ∧ ¬ action.IsStart
  · exact fun _ => (Unmoved.step terminal.1 (settled terminal.1) clean terminal.2 taken).silent
  unfold AdminSpa.step at taken
  cases action with
  | start opens now =>
      cases taken
      unfold State.start
      split
      · rename_i startable
        dsimp only
        split
        · refine .of_active ?_
          obtain ⟨stall, changed⟩ := state.setStatus_eq .connecting
          rw [State.reset, changed]
          show ¬ StreamStatus.connecting.Terminal
          decide
        · rename_i fails
          exact fun _ => start_silent ((clean startable).resolve_left fails) now
      · exact settled
  | stop =>
      cases taken
      unfold State.stop
      dsimp only
      split
      · exact fun _ => finishStop_silent _
      · exact fun isOver => (settled isOver).clearTimers
  | startRecording =>
      cases taken
      exact settled
  | microphone stream =>
      obtain ⟨_, answered⟩ := Option.ite_none_right_eq_some.mp taken
      cases answered
      exact settled
  | worklet worklet =>
      obtain ⟨_, answered⟩ := Option.ite_none_right_eq_some.mp taken
      cases answered
      exact settled
  | stopRecording =>
      cases taken
      unfold State.stopRecording
      split
      · split
        · exact settled
        · exact settled
      · exact settled
  | workletStopped index =>
      obtain ⟨pending, _, rfl⟩ := Option.map_eq_some_iff.mp taken
      cases pending with
      | session => exact fun _ => finishStop_silent _
      | recording => exact settled
  | captured pcm now throws =>
      cases taken
      have active : ¬ state.status.Terminal := fun isOver => terminal ⟨isOver, id⟩
      exact .of_active (by rw [handleFrame_status]; exact active)
  | opened socket =>
      obtain ⟨_, opened⟩ := Option.ite_none_right_eq_some.mp taken
      cases opened
      refine .of_active ?_
      rw [State.onOpen, State.armSpawnPing, State.setStatus_status]
      decide
  | message socket data throws =>
      obtain ⟨_, heard⟩ := Option.ite_none_right_eq_some.mp taken
      cases heard
      have active : ¬ state.status.Terminal := fun isOver => terminal ⟨isOver, id⟩
      exact Settled.handleMessage (by exact active) throws (by exact clean)
  | transportError socket =>
      obtain ⟨_, same⟩ := Option.ite_none_left_eq_some.mp taken
      cases same
      exact settled
  | closed socket =>
      obtain ⟨_, closed⟩ := Option.ite_none_left_eq_some.mp taken
      cases closed
      refine fun _ => State.Silent.setEnded ?_
      cases socket with
      | none =>
          refine .of_ws_none fun opened => ?_
          cases Option.some.inj opened
      | some index =>
          intro opened
          obtain ⟨ping, catchup⟩ := clean opened
          exact ⟨Interval.not_running_clear ping, Interval.not_running_clear catchup⟩
  | spawnPing throws =>
      obtain ⟨_, pinged⟩ := Option.ite_none_right_eq_some.mp taken
      cases pinged
      have active : ¬ state.status.Terminal := fun isOver => terminal ⟨isOver, id⟩
      unfold State.sendPing State.send
      split
      · split
        · exact settled
        · exact settled
      · exact settled
  | catchup now throws =>
      obtain ⟨_, ticked⟩ := Option.ite_none_right_eq_some.mp taken
      cases ticked
      have active : ¬ state.status.Terminal := fun isOver => terminal ⟨isOver, id⟩
      exact .of_active (catchup_active active now throws)
  | spawnStall =>
      obtain ⟨_, fired⟩ := Option.ite_none_right_eq_some.mp taken
      cases fired
      exact settled

/-- **Sessions that are over.** In every run whose steps are clean, once the
status is `ended` or `failed` it stays and no audio frame and no ping is sent,
until `start()` is called. -/
theorem over_until_start
    (clean : Meets (AdminSpa.step numberText) CleanEnd [] State.initial (past ++ actions))
    (reached : execute (AdminSpa.step numberText) State.initial past = some state)
    (terminal : state.status.Terminal)
    (notStarted : ∀ action ∈ actions, ¬ action.IsStart)
    (run : execute (AdminSpa.step numberText) state actions = some final) :
    final.status = state.status ∧ final.spoken = state.spoken := by
  obtain ⟨before, after⟩ := Meets.append.mp clean
  have silent : state.Silent := by
    have kept : ∀ (past : List (Action π)) before action after, Settled before →
        CleanEnd past before action → AdminSpa.step numberText before action = some after →
        Settled after :=
      fun _ _ _ _ settled asked taken => Settled.step settled asked taken
    have settled : Settled state := execute_invariant .initial kept before reached
    exact settled terminal
  specialize after state reached
  rw [List.nil_append] at after
  clear clean before reached
  induction actions generalizing past state with
  | nil =>
      cases run
      exact ⟨rfl, rfl⟩
  | cons action rest ih =>
      obtain ⟨next, taken, run⟩ := Option.bind_eq_some_iff.mp run
      have unmoved := Unmoved.step terminal silent after.1
        (notStarted action List.mem_cons_self) taken
      obtain ⟨status, spoken⟩ := ih (unmoved.status ▸ terminal)
        (fun later member => notStarted later (List.mem_cons_of_mem _ member)) run
        (after.2 next taken) unmoved.silent
      exact ⟨status.trans unmoved.status, spoken.trans unmoved.spoken⟩

/-! ## A session that ends, and one that is revived -/

instance : DecidablePred (Action.IsStart : Action π → Prop)
  | .start _ _ => .isTrue trivial
  | .stop | .startRecording | .microphone _ | .worklet _ | .stopRecording | .workletStopped _
  | .captured _ _ _ | .opened _ | .message _ _ _ | .transportError _ | .closed _ | .spawnPing _
  | .catchup _ _ | .spawnStall => .isFalse id

instance (state : State π) : Decidable state.Silent :=
  inferInstanceAs (Decidable (state.WsOpen → ¬ _ ∧ ¬ _))

instance (state : State π) (data : Option PyJson) : Decidable (CleanMessage state data) :=
  inferInstanceAs (Decidable ((_ → _ → _) ∧ (_ → _ ∨ _) ∧ (_ → _ ∨ _)))

instance (past : List (Action π)) (state : State π) : DecidablePred (CleanEnd past state)
  | .start opens _ => inferInstanceAs (Decidable (_ → opens = true ∨ _))
  | .opened _ => inferInstanceAs (Decidable (¬ _))
  | .message _ data _ => inferInstanceAs (Decidable (CleanMessage state data))
  | .closed (some _) => inferInstanceAs (Decidable (_ → _ ∧ _))
  | .closed none | .stop | .startRecording | .microphone _ | .worklet _ | .stopRecording
  | .workletStopped _ | .captured _ _ _ | .transportError _ | .spawnPing _ | .catchup _ _
  | .spawnStall => .isTrue trivial

/-- A session that transcribes until the server has ended it. -/
def endedSession : List (Action ℕ) :=
  [.start true 0, .opened none, .message none (plainMessage "ready") false, .captured 10 0 false,
    .message none (plainMessage "ended") false]

/-- What still happens to it. -/
def lateEvents : List (Action ℕ) :=
  [.captured 11 0 false, .message none (plainMessage "status") false, .stop, .closed (some 0)]

/-- It stays ended. -/
theorem over_until_start_sample :
    ∃ state final, execute (step sampleNumberText) State.initial endedSession = some state ∧
      execute (step sampleNumberText) state lateEvents = some final ∧
      final.status = .ended ∧ final.spoken = state.spoken := by
  obtain ⟨state, reached, goesOn⟩ := Option.map_eq_some_iff.mp
    (show (execute (step sampleNumberText) State.initial endedSession).map
      (fun state => (state.status, (execute (step sampleNumberText) state lateEvents).isSome)) =
        some (.ended, true) by decide +kernel)
  obtain ⟨ended, goesOn⟩ := Prod.mk.inj goesOn
  obtain ⟨final, run⟩ := Option.isSome_iff_exists.mp goesOn
  have clean : Meets (step sampleNumberText) CleanEnd [] State.initial (endedSession ++ lateEvents) := by
    decide +kernel
  obtain ⟨status, spoken⟩ := over_until_start clean reached (Or.inl ended) (by decide) run
  exact ⟨state, final, reached, run, status.trans ended, spoken⟩

/-- The server reports an error while it starts. -/
def failedSession : List (Action ℕ) :=
  [.start true 0, .opened none, .message none (plainMessage "error") false]

/-- The failed session goes on pinging. -/
theorem ping_after_error :
    ¬ ∀ (past actions : List (Action ℕ)) (state final : State ℕ),
      execute (step sampleNumberText) State.initial past = some state → state.status.Terminal →
      (∀ action ∈ actions, ¬ action.IsStart) →
      execute (step sampleNumberText) state actions = some final →
      final.status = state.status ∧ final.spoken = state.spoken := by
  intro always
  obtain ⟨state, reached, ends⟩ := Option.map_eq_some_iff.mp
    (show (execute (step sampleNumberText) State.initial failedSession).map
      (fun state => (state.status, state.spoken,
        (execute (step sampleNumberText) state [.spawnPing false]).map State.spoken)) =
        some (.failed, [], some [.ping]) by decide +kernel)
  simp only [Prod.mk.injEq] at ends
  obtain ⟨failed, quiet, pings⟩ := ends
  obtain ⟨final, run, pinged⟩ := Option.map_eq_some_iff.mp pings
  have same := (always _ _ state final reached (Or.inr failed) (by decide) run).2
  rw [quiet, pinged] at same
  cases same

end Panakoes.AdminSpa
