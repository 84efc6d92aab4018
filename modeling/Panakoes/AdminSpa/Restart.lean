import Panakoes.AdminSpa.StreamingSession

/-! # Starting a session over another

Whether a session that is started again behaves as a new object would. `start()`
resets most fields. What it leaves are the intervals, the watchdog's verdict, the
recorder and calls of `stop()` that still wait, and the callbacks of the earlier
sockets stay attached to the object.
-/

namespace Panakoes.AdminSpa

open Transition

variable {π : Type*} {numberText : ℚ → String} {state before fresh next final : State π}
  {later : List (Action π)} {action : Action π} {count : ℕ}

/-- In what a session that was started again may differ from a new object: the
texts, which a late message may change, and the sockets of earlier sessions. -/
structure Remnant where
  partialText : String
  finalSegments : List String
  finalChunkBuffer : List (ℚ × List PyJson)
  expectedFinalChunks : Option ℚ
  sockets : List ReadyState

/-- The session with the texts of the remnant, and its sockets behind its own. -/
def State.withRemnant (remnant : Remnant) (state : State π) : State π :=
  { state with
    partialText := remnant.partialText
    finalSegments := remnant.finalSegments
    finalChunkBuffer := remnant.finalChunkBuffer
    expectedFinalChunks := remnant.expectedFinalChunks
    others := state.others ++ remnant.sockets }

/-- The socket an event is about, among those `ws` does not refer to. -/
def Action.otherSocket : Action π → Option ℕ
  | .opened socket | .message socket _ _ | .transportError socket | .closed socket => socket
  | .start _ _ | .stop | .startRecording | .microphone _ | .worklet _ | .stopRecording
  | .workletStopped _ | .captured _ _ _ | .spawnPing _ | .catchup _ _ | .spawnStall => none

/-- The event is one of the sockets that were there first, `count` in number. -/
def Foreign (count : ℕ) (state : State π) (action : Action π) : Prop :=
  ∃ index ∈ action.otherSocket, state.others.length ≤ index + count

instance (count : ℕ) (state : State π) : DecidablePred (Foreign count state) :=
  fun action => inferInstanceAs (Decidable (∃ index ∈ action.otherSocket, _))

/-- What a message of the type does to a session that is not `spawning-gpu` is
no more than to change its texts. -/
def TextsOnly (state : State π) (throws : Bool) : MessageType → Prop
  | .ready => state.readyReceived = true
  | .ended => state.status = .ended
  | .error => state.status = .failed
  | .ping => state.WsOpen → throws = true
  | .partialResult | .final | .finalChunk | .other => True

instance (state : State π) (throws : Bool) : DecidablePred (TextsOnly state throws)
  | .ready => inferInstanceAs (Decidable (_ = true))
  | .ended | .error => inferInstanceAs (Decidable (_ = _))
  | .ping => inferInstanceAs (Decidable (_ → _))
  | .partialResult | .final | .finalChunk | .other => .isTrue trivial

/-- A message of an earlier socket that does not reach the session. In
`spawning-gpu` each message sets the watchdog back. -/
def HarmlessMessage (state : State π) (throws : Bool) : Option PyJson → Prop
  | some (.dict fields) =>
      state.status ≠ .spawningGpu ∧ TextsOnly state throws (messageType fields)
  | _ => state.status ≠ .spawningGpu

instance (state : State π) (throws : Bool) : DecidablePred (HarmlessMessage state throws)
  | some (.dict _) => inferInstanceAs (Decidable (_ ∧ TextsOnly _ _ _))
  | none | some .none | some (.bool _) | some (.int _) | some (.float _) | some (.str _)
  | some (.list _) => inferInstanceAs (Decidable (_ ≠ _))

/-- An event of an earlier socket that does not reach the session: a transport
error, a message that it only takes texts from, or a close once it is over and
its timers are cleared. -/
def Harmless (state : State π) : Action π → Prop
  | .transportError _ => True
  | .message _ data throws => HarmlessMessage state throws data
  | .closed _ =>
      state.status.Terminal ∧ state.spawnPingTimer.armed = false ∧
        state.catchupTimer.armed = false ∧ state.spawnStallTimer = false
  | .start _ _ | .stop | .startRecording | .microphone _ | .worklet _ | .stopRecording
  | .workletStopped _ | .captured _ _ _ | .opened _ | .spawnPing _ | .catchup _ _
  | .spawnStall => False

instance (state : State π) : DecidablePred (Harmless state)
  | .transportError _ => .isTrue trivial
  | .message _ data throws => inferInstanceAs (Decidable (HarmlessMessage state throws data))
  | .closed _ => inferInstanceAs (Decidable (_ ∧ _ ∧ _ ∧ _))
  | .start _ _ | .stop | .startRecording | .microphone _ | .worklet _ | .stopRecording
  | .workletStopped _ | .captured _ _ _ | .opened _ | .spawnPing _ | .catchup _ _
  | .spawnStall => .isFalse id

/-- The events of a run that are not about the sockets that were there first. -/
def ownEvents (numberText : ℚ → String) (count : ℕ) :
    State π → List (Action π) → List (Action π)
  | _, [] => []
  | state, action :: rest =>
      let own :=
        match step numberText state action with
        | none => rest
        | some next => ownEvents numberText count next rest
      if Foreign count state action then own else action :: own

/-- Nothing is left of what `start()` does not reset. -/
structure Pristine (state : State π) : Prop where
  spawnPing : ¬ state.spawnPingTimer.Running
  catchup : ¬ state.catchupTimer.Running
  unstuck : state.spawnStuck = false
  stops : state.stops = []
  recorder : state.recorder = .idle

instance : DecidablePred (Pristine (π := π)) := fun state =>
  decidable_of_iff (¬ state.spawnPingTimer.Running ∧ ¬ state.catchupTimer.Running ∧
      state.spawnStuck = false ∧ state.stops = [] ∧ state.recorder = .idle)
    ⟨fun ⟨spawnPing, catchup, unstuck, stops, recorder⟩ =>
        ⟨spawnPing, catchup, unstuck, stops, recorder⟩,
      fun ⟨spawnPing, catchup, unstuck, stops, recorder⟩ =>
        ⟨spawnPing, catchup, unstuck, stops, recorder⟩⟩

/-- No event of a socket that was there first reaches the session. -/
def Isolated (count : ℕ) (_past : List (Action π)) (state : State π) (action : Action π) :
    Prop :=
  Foreign count state action → Harmless state action

instance (count : ℕ) (past : List (Action π)) (state : State π) (action : Action π) :
    Decidable (Isolated count past state action) :=
  inferInstanceAs (Decidable (_ → _))

/-- Two sessions show the same: the status, what has been sent, the timers and
the stall flag. -/
structure Alike (state fresh : State π) : Prop where
  status : state.status = fresh.status
  sent : state.sent = fresh.sent
  spawnPingTimer : state.spawnPingTimer = fresh.spawnPingTimer
  catchupTimer : state.catchupTimer = fresh.catchupTimer
  spawnStallTimer : state.spawnStallTimer = fresh.spawnStallTimer
  spawnStuck : state.spawnStuck = fresh.spawnStuck

/-! ## A remnant makes no difference -/

section Commutation

variable {remnant : Remnant}

theorem withRemnant_setStatus (status : StreamStatus) :
    (fresh.withRemnant remnant).setStatus status =
      (fresh.setStatus status).withRemnant remnant := by
  unfold State.setStatus
  rw [apply_ite (State.withRemnant remnant)]
  rfl

theorem withRemnant_send (message : Sent π) (throws : Bool) :
    (fresh.withRemnant remnant).send message throws =
      (fresh.send message throws).withRemnant remnant := by
  unfold State.send
  rw [apply_ite (State.withRemnant remnant)]
  rfl

theorem withRemnant_transmitFrame (pcm : π) (now : ℚ) (throws : Bool) :
    (fresh.withRemnant remnant).transmitFrame pcm now throws =
      (fresh.transmitFrame pcm now throws).withRemnant remnant := by
  unfold State.transmitFrame
  rw [apply_ite (State.withRemnant remnant), ← withRemnant_send]
  rfl

theorem withRemnant_handleFrame (pcm : π) (now : ℚ) (throws : Bool) :
    (fresh.withRemnant remnant).handleFrame pcm now throws =
      (fresh.handleFrame pcm now throws).withRemnant remnant := by
  cases status : fresh.status <;>
    simp only [State.handleFrame, status, show (fresh.withRemnant remnant).status = _ from status]
  case transcribing =>
    rw [← withRemnant_transmitFrame]
    rfl
  all_goals rfl

theorem withRemnant_catchup (now : ℚ) (throws : Bool) :
    (fresh.withRemnant remnant).catchup now throws =
      (fresh.catchup now throws).withRemnant remnant := by
  cases pending : fresh.pendingFrames with
  | nil =>
      simp only [State.catchup, pending,
        show (fresh.withRemnant remnant).pendingFrames = _ from pending]
      rw [apply_ite (State.withRemnant remnant), ← withRemnant_setStatus]
      rfl
  | cons frame rest =>
      simp only [State.catchup, pending,
        show (fresh.withRemnant remnant).pendingFrames = _ from pending]
      rw [← withRemnant_transmitFrame]
      rfl

theorem withRemnant_sendPing (throws : Bool) :
    (fresh.withRemnant remnant).sendPing throws =
      (fresh.sendPing throws).withRemnant remnant := by
  unfold State.sendPing
  rw [apply_ite (State.withRemnant remnant), ← withRemnant_send]
  rfl

theorem withRemnant_sendPingEcho (seq : ℚ) (throws : Bool) :
    (fresh.withRemnant remnant).sendPingEcho seq throws =
      (fresh.sendPingEcho seq throws).withRemnant remnant := by
  unfold State.sendPingEcho
  rw [apply_ite (State.withRemnant remnant), ← withRemnant_send]
  rfl

theorem withRemnant_onReady :
    (fresh.withRemnant remnant).onReady = fresh.onReady.withRemnant remnant := by
  unfold State.onReady
  dsimp only
  rw [apply_ite (State.withRemnant remnant), apply_ite (State.withRemnant remnant),
    ← withRemnant_setStatus]
  let ready := { fresh with
    readyReceived := true
    spawnPingTimer := fresh.spawnPingTimer.clear }
  have catching : ((ready.withRemnant remnant).setStatus .catchingUp).armCatchupTimer =
      ((ready.setStatus .catchingUp).withRemnant remnant).armCatchupTimer := by
    rw [withRemnant_setStatus]
  exact if_congr Iff.rfl rfl (if_congr Iff.rfl rfl catching)

theorem withRemnant_setEnded :
    (fresh.withRemnant remnant).setEnded = fresh.setEnded.withRemnant remnant := by
  unfold State.setEnded
  rw [apply_ite (State.withRemnant remnant), ← withRemnant_setStatus]
  rfl

theorem withRemnant_finishStop :
    (fresh.withRemnant remnant).finishStop = fresh.finishStop.withRemnant remnant := by
  unfold State.finishStop
  rw [← withRemnant_setEnded]
  simp only [State.withRemnant, List.append_assoc]

theorem withRemnant_stop :
    (fresh.withRemnant remnant).stop = fresh.stop.withRemnant remnant := by
  cases worklet : fresh.recorder.worklet with
  | none =>
      simp only [State.stop, worklet,
        show (fresh.withRemnant remnant).recorder.worklet = _ from worklet]
      rw [← withRemnant_finishStop]
      rfl
  | some id =>
      simp only [State.stop, worklet,
        show (fresh.withRemnant remnant).recorder.worklet = _ from worklet]
      rfl

theorem withRemnant_stopRecording :
    (fresh.withRemnant remnant).stopRecording = fresh.stopRecording.withRemnant remnant := by
  cases worklet : fresh.recorder.worklet with
  | none =>
      simp only [State.stopRecording, worklet,
        show (fresh.withRemnant remnant).recorder.worklet = _ from worklet]
      rw [apply_ite (State.withRemnant remnant)]
      rfl
  | some id =>
      simp only [State.stopRecording, worklet,
        show (fresh.withRemnant remnant).recorder.worklet = _ from worklet]
      rw [apply_ite (State.withRemnant remnant)]
      rfl

theorem withRemnant_finish (pending : PendingStop) :
    (fresh.withRemnant remnant).finish pending =
      (fresh.finish pending).withRemnant remnant := by
  cases pending with
  | session => exact withRemnant_finishStop
  | recording => rfl

theorem withRemnant_handleClose :
    (fresh.withRemnant remnant).handleClose = fresh.handleClose.withRemnant remnant := by
  unfold State.handleClose
  rw [← withRemnant_setEnded]
  rfl

/-- A socket that is not an earlier one is found in its place. -/
theorem withRemnant_socket {socket : Option ℕ}
    (own : ∀ index ∈ socket, index < fresh.others.length) :
    (fresh.withRemnant remnant).socket socket = fresh.socket socket := by
  cases socket with
  | none => rfl
  | some index => exact List.getElem?_append_left (own index rfl)

theorem withRemnant_setSocket {socket : Option ℕ} (readyState : ReadyState)
    (own : ∀ index ∈ socket, index < fresh.others.length) :
    (fresh.withRemnant remnant).setSocket readyState socket =
      (fresh.setSocket readyState socket).withRemnant remnant := by
  cases socket with
  | none => rfl
  | some index =>
      simp only [State.setSocket, State.withRemnant, List.set_append_left _ _ (own index rfl)]

/-- The timers of a session with a remnant are its own. -/
theorem withRemnant_alike : Alike (fresh.withRemnant remnant) fresh :=
  ⟨rfl, rfl, rfl, rfl, rfl, rfl⟩

/-! ### What reads or resets the texts -/

/-- The state is the fresh one but for a remnant with that many sockets. -/
def Beside (count : ℕ) (state fresh : State π) : Prop :=
  ∃ remnant : Remnant, remnant.sockets.length = count ∧ state = fresh.withRemnant remnant

/-- Texts may be changed on either side. -/
theorem Beside.texts (beside : Beside count state fresh) (partialText partialText' : String)
    (segments segments' : List String) (buffer buffer' : List (ℚ × List PyJson))
    (expected expected' : Option ℚ) :
    Beside count
      { state with
        partialText := partialText
        finalSegments := segments
        finalChunkBuffer := buffer
        expectedFinalChunks := expected }
      { fresh with
        partialText := partialText'
        finalSegments := segments'
        finalChunkBuffer := buffer'
        expectedFinalChunks := expected' } := by
  obtain ⟨remnant, counted, rfl⟩ := beside
  exact ⟨⟨partialText, segments, buffer, expected, remnant.sockets⟩, counted, rfl⟩

theorem Beside.setStatus (beside : Beside count state fresh) (status : StreamStatus) :
    Beside count (state.setStatus status) (fresh.setStatus status) := by
  obtain ⟨remnant, counted, rfl⟩ := beside
  exact ⟨remnant, counted, withRemnant_setStatus status⟩

theorem Beside.assembleFinalChunks (beside : Beside count state fresh) :
    Beside count (state.assembleFinalChunks numberText)
      (fresh.assembleFinalChunks numberText) := by
  obtain ⟨_, _, _, assembled⟩ := state.assembleFinalChunks_eq numberText
  obtain ⟨_, _, _, assembled'⟩ := fresh.assembleFinalChunks_eq numberText
  rw [assembled, assembled']
  exact beside.texts _ _ _ _ _ _ _ _

theorem Beside.bufferChunk (beside : Beside count state fresh)
    (fields : List (String × PyJson)) :
    Beside count (state.bufferChunk fields) (fresh.bufferChunk fields) := by
  obtain ⟨_, _, buffered⟩ := state.bufferChunk_eq fields
  obtain ⟨_, _, buffered'⟩ := fresh.bufferChunk_eq fields
  rw [buffered, buffered']
  exact beside.texts _ _ _ _ _ _ _ _

theorem Beside.dispatch (beside : Beside count state fresh) (fields : List (String × PyJson))
    (throws : Bool) :
    Beside count (state.dispatch numberText fields throws)
      (fresh.dispatch numberText fields throws) := by
  unfold State.dispatch
  cases messageType fields with
  | ready =>
      obtain ⟨remnant, counted, rfl⟩ := beside
      exact ⟨remnant, counted, withRemnant_onReady⟩
  | partialResult => exact beside.texts _ _ _ _ _ _ _ _
  | final => exact beside.texts _ _ _ _ _ _ _ _
  | finalChunk => exact beside.bufferChunk fields
  | ended => exact beside.assembleFinalChunks.setStatus .ended
  | error => exact beside.setStatus .failed
  | ping =>
      obtain ⟨remnant, counted, rfl⟩ := beside
      exact ⟨remnant, counted, withRemnant_sendPingEcho _ throws⟩
  | other => exact beside

theorem Beside.handleMessage (beside : Beside count state fresh) (data : Option PyJson)
    (throws : Bool) :
    Beside count (state.handleMessage numberText data throws)
      (fresh.handleMessage numberText data throws) := by
  have reset : Beside count state.resetStallWatchdog fresh.resetStallWatchdog := by
    obtain ⟨remnant, counted, rfl⟩ := beside
    refine ⟨remnant, counted, ?_⟩
    unfold State.resetStallWatchdog
    rw [apply_ite (State.withRemnant remnant)]
    rfl
  unfold State.handleMessage
  split
  · exact reset.dispatch _ throws
  · exact reset

theorem Beside.start (beside : Beside count state fresh) (opens : Bool) (now : ℚ) :
    Beside count (state.start opens now) (fresh.start opens now) := by
  have reset : Beside count (state.reset now) (fresh.reset now) := by
    obtain ⟨remnant, counted, rfl⟩ := beside
    refine ⟨⟨"", [], [], none, remnant.sockets⟩, counted, ?_⟩
    unfold State.reset
    rw [withRemnant_setStatus]
    rfl
  have opened : Beside count
      { state.reset now with
        ws := some .connecting, others := state.ws.toList ++ state.others }
      { fresh.reset now with
        ws := some .connecting, others := fresh.ws.toList ++ fresh.others } := by
    obtain ⟨remnant, counted, rfl⟩ := beside
    refine ⟨⟨"", [], [], none, remnant.sockets⟩, counted, ?_⟩
    unfold State.reset
    rw [withRemnant_setStatus]
    simp only [State.withRemnant, List.append_assoc]
  have status : state.status = fresh.status := by
    obtain ⟨remnant, -, rfl⟩ := beside
    rfl
  unfold State.start
  rw [status]
  split
  · dsimp only
    split
    · exact opened
    · exact reset.setStatus .failed
  · exact beside

/-! ### One step -/

/-- An event that is not one of an earlier socket is about a socket of the new
object. -/
theorem withRemnant_own
    (own : ¬ Foreign remnant.sockets.length (fresh.withRemnant remnant) action) :
    ∀ index ∈ action.otherSocket, index < fresh.others.length := by
  intro index about
  by_contra beyond
  refine own ⟨index, about, ?_⟩
  rw [State.withRemnant, List.length_append]
  omega

/-- **Own step.** What is not an event of an earlier socket does the same to a
new object. -/
theorem Beside.step (beside : Beside count state fresh) (own : ¬ Foreign count state action)
    (taken : step numberText state action = some next) :
    ∃ next', AdminSpa.step numberText fresh action = some next' ∧ Beside count next next' := by
  obtain ⟨remnant, rfl, rfl⟩ := beside
  have same : Beside remnant.sockets.length (fresh.withRemnant remnant) fresh :=
    ⟨remnant, rfl, rfl⟩
  have about := withRemnant_own own
  cases action with
  | start opens now =>
      cases taken
      exact ⟨_, rfl, same.start opens now⟩
  | stop =>
      cases taken
      exact ⟨_, rfl, remnant, rfl, withRemnant_stop⟩
  | startRecording =>
      cases taken
      exact ⟨_, rfl, remnant, rfl, rfl⟩
  | microphone stream =>
      obtain ⟨starting, ⟨⟩⟩ := Option.ite_none_right_eq_some.mp taken
      exact ⟨_, if_pos starting, remnant, rfl, rfl⟩
  | worklet worklet =>
      obtain ⟨starting, ⟨⟩⟩ := Option.ite_none_right_eq_some.mp taken
      exact ⟨_, if_pos starting, remnant, rfl, rfl⟩
  | stopRecording =>
      cases taken
      exact ⟨_, rfl, remnant, rfl, withRemnant_stopRecording⟩
  | workletStopped index =>
      obtain ⟨pending, waits, rfl⟩ := Option.map_eq_some_iff.mp taken
      let waited := { fresh with stops := fresh.stops.eraseIdx index }
      have finished : (waited.withRemnant remnant).finish pending =
          (waited.finish pending).withRemnant remnant := withRemnant_finish pending
      exact ⟨_, Option.map_eq_some_iff.mpr ⟨pending, waits, rfl⟩, remnant, rfl, finished⟩
  | captured pcm now throws =>
      cases taken
      exact ⟨_, rfl, remnant, rfl, withRemnant_handleFrame pcm now throws⟩
  | opened socket =>
      obtain ⟨connecting, ⟨⟩⟩ := Option.ite_none_right_eq_some.mp taken
      have found : (fresh.withRemnant remnant).socket socket = fresh.socket socket :=
        withRemnant_socket about
      have moved : (fresh.withRemnant remnant).setSocket .opened socket =
          (fresh.setSocket .opened socket).withRemnant remnant := withRemnant_setSocket _ about
      rw [found] at connecting
      refine ⟨_, if_pos connecting, remnant, rfl, ?_⟩
      rw [moved, State.onOpen, withRemnant_setStatus]
      rfl
  | message socket data throws =>
      obtain ⟨heard, ⟨⟩⟩ := Option.ite_none_right_eq_some.mp taken
      have found : (fresh.withRemnant remnant).socket socket = fresh.socket socket :=
        withRemnant_socket about
      rw [found] at heard
      let ready := { fresh with
        serverReady := decide (fresh.serverReady ∨ (socket = none ∧ SaysReady data)) }
      have handled : Beside remnant.sockets.length
          ((ready.withRemnant remnant).handleMessage numberText data throws)
          (ready.handleMessage numberText data throws) :=
        Beside.handleMessage ⟨remnant, rfl, rfl⟩ data throws
      exact ⟨_, if_pos heard, handled⟩
  | transportError socket =>
      obtain ⟨there, ⟨⟩⟩ := Option.ite_none_left_eq_some.mp taken
      have found : (fresh.withRemnant remnant).socket socket = fresh.socket socket :=
        withRemnant_socket about
      rw [found] at there
      exact ⟨_, if_neg there, same⟩
  | closed socket =>
      obtain ⟨there, ⟨⟩⟩ := Option.ite_none_left_eq_some.mp taken
      have found : (fresh.withRemnant remnant).socket socket = fresh.socket socket :=
        withRemnant_socket about
      have moved : (fresh.withRemnant remnant).setSocket .closed socket =
          (fresh.setSocket .closed socket).withRemnant remnant := withRemnant_setSocket _ about
      rw [found] at there
      refine ⟨_, if_neg there, remnant, rfl, ?_⟩
      rw [moved, withRemnant_handleClose]
  | spawnPing throws =>
      obtain ⟨running, ⟨⟩⟩ := Option.ite_none_right_eq_some.mp taken
      exact ⟨_, if_pos running, remnant, rfl, withRemnant_sendPing throws⟩
  | catchup now throws =>
      obtain ⟨running, ⟨⟩⟩ := Option.ite_none_right_eq_some.mp taken
      exact ⟨_, if_pos running, remnant, rfl, withRemnant_catchup now throws⟩
  | spawnStall =>
      obtain ⟨armed, ⟨⟩⟩ := Option.ite_none_right_eq_some.mp taken
      exact ⟨_, if_pos armed, remnant, rfl, rfl⟩

theorem Interval.clear_of_unarmed {interval : Interval} (unarmed : interval.armed = false) :
    interval.clear = interval := by
  rw [Interval.clear, ← unarmed]

/-- A session that is over and has cleared its timers does not notice a close. -/
theorem handleClose_of_over (isOver : state.status.Terminal)
    (spawnPing : state.spawnPingTimer.armed = false)
    (catchup : state.catchupTimer.armed = false) (stall : state.spawnStallTimer = false) :
    state.handleClose = state := by
  have cleared : state.clearTimers = state := by
    rw [State.clearTimers, Interval.clear_of_unarmed spawnPing,
      Interval.clear_of_unarmed catchup, ← stall]
  rw [State.handleClose, cleared, State.setEnded, if_pos isOver]

/-- Setting the status it has does nothing. -/
theorem setStatus_self : state.setStatus state.status = state := if_pos rfl

/-- A message that is for the texts leaves the rest. -/
theorem Beside.texts_only (beside : Beside count state fresh) {fields : List (String × PyJson)}
    {throws : Bool} (quiet : TextsOnly state throws (messageType fields)) :
    Beside count (state.dispatch numberText fields throws) fresh := by
  unfold State.dispatch
  cases type : messageType fields with
  | ready =>
      rw [type] at quiet
      rw [State.onReady, if_pos (show state.readyReceived = true from quiet)]
      exact beside
  | partialResult => exact beside.texts _ fresh.partialText _ _ _ _ _ _
  | final => exact beside.texts _ fresh.partialText _ _ _ _ _ _
  | finalChunk =>
      obtain ⟨_, _, buffered⟩ := state.bufferChunk_eq fields
      dsimp only
      rw [buffered]
      exact beside.texts _ fresh.partialText _ _ _ _ _ _
  | ended =>
      rw [type] at quiet
      obtain ⟨_, _, _, assembled⟩ := state.assembleFinalChunks_eq numberText
      have isOver : (state.assembleFinalChunks numberText).status = .ended := by
        rw [assembled]
        exact quiet
      rw [← isOver, setStatus_self, assembled]
      exact beside.texts _ fresh.partialText _ _ _ _ _ _
  | error =>
      rw [type] at quiet
      rw [← show state.status = .failed from quiet, setStatus_self]
      exact beside
  | ping =>
      rw [type] at quiet
      dsimp only
      unfold State.sendPingEcho State.send
      split
      · rename_i wsOpen
        rwa [if_pos (quiet wsOpen)]
      · exact beside
  | other => exact beside

/-- A harmless message changes texts only. -/
theorem Beside.harmless_message (beside : Beside count state fresh) {data : Option PyJson}
    {throws : Bool} (harmless : HarmlessMessage state throws data) :
    Beside count (state.handleMessage numberText data throws) fresh := by
  have elsewhere : state.status ≠ .spawningGpu := by
    unfold HarmlessMessage at harmless
    split at harmless
    · exact harmless.1
    · exact harmless
  have kept : state.resetStallWatchdog = state := if_neg elsewhere
  unfold State.handleMessage
  rw [kept]
  split
  · exact beside.texts_only harmless.2
  · exact beside

/-- **Foreign step.** A harmless event of an earlier socket leaves the session
beside the new object. -/
theorem Beside.foreign (beside : Beside count state fresh) (foreign : Foreign count state action)
    (harmless : Harmless state action) (taken : AdminSpa.step numberText state action = some next) :
    Beside count next fresh := by
  obtain ⟨index, about, beyond⟩ := foreign
  cases action with
  | transportError socket =>
      obtain ⟨-, ⟨⟩⟩ := Option.ite_none_left_eq_some.mp taken
      exact beside
  | message socket data throws =>
      cases about
      obtain ⟨-, ⟨⟩⟩ := Option.ite_none_right_eq_some.mp taken
      have unheard : decide (state.serverReady = true ∨ (some index = none ∧ SaysReady data)) =
          state.serverReady := by simp
      rw [unheard]
      exact beside.harmless_message harmless
  | closed socket =>
      cases about
      obtain ⟨-, ⟨⟩⟩ := Option.ite_none_left_eq_some.mp taken
      obtain ⟨isOver, spawnPing, catchup, stall⟩ := harmless
      have unnoticed : (state.setSocket .closed (some index)).handleClose =
          state.setSocket .closed (some index) :=
        handleClose_of_over (by exact isOver) (by exact spawnPing) (by exact catchup)
          (by exact stall)
      rw [unnoticed]
      obtain ⟨remnant, rfl, rfl⟩ := beside
      have behind : fresh.others.length ≤ index := by
        rw [State.withRemnant, List.length_append] at beyond
        omega
      refine ⟨{ remnant with
        sockets := remnant.sockets.set (index - fresh.others.length) .closed },
        List.length_set, ?_⟩
      simp only [State.setSocket, State.withRemnant, List.set_append_right _ _ behind]
  | start _ _ | stop | startRecording | microphone _ | worklet _ | stopRecording
  | workletStopped _ | captured _ _ _ | opened _ | spawnPing _ | catchup _ _
  | spawnStall => exact harmless.elim

/-! ## Runs -/

/-- Along an isolated run the session stays beside the new object that has only
the events of its own. -/
theorem Beside.run {past : List (Action π)} (beside : Beside count state fresh)
    (isolated : Meets (AdminSpa.step numberText) (Isolated count) past state later)
    (reached : execute (AdminSpa.step numberText) state later = some final) :
    ∃ final', execute (AdminSpa.step numberText) fresh (ownEvents numberText count state later) =
      some final' ∧ Beside count final final' := by
  induction later generalizing past state fresh with
  | nil =>
      cases reached
      exact ⟨fresh, rfl, beside⟩
  | cons action rest ih =>
      obtain ⟨next, taken, goesOn⟩ := Option.bind_eq_some_iff.mp reached
      obtain ⟨now, further⟩ := isolated
      simp only [ownEvents, taken]
      by_cases foreign : Foreign count state action
      · rw [if_pos foreign]
        exact ih (beside.foreign foreign (now foreign) taken) (further next taken) goesOn
      · obtain ⟨next', taken', beside'⟩ := beside.step foreign taken
        obtain ⟨final', reached', ends⟩ := ih beside' (further next taken) goesOn
        refine ⟨final', ?_, ends⟩
        rw [if_neg foreign, execute_cons, taken']
        exact reached'

/-- An interval that does not run is as it was in the beginning. -/
theorem Interval.eq_none {interval : Interval} (still : ¬ interval.Running) :
    interval = .none := by
  obtain ⟨armed, orphans⟩ := interval
  simp only [Interval.Running, not_or, Bool.not_eq_true, not_lt, Nat.le_zero] at still
  obtain ⟨rfl, rfl⟩ := still
  rfl

/-- What a session starts with when nothing is left but its sockets. -/
theorem Pristine.start (pristine : Pristine before) (isOver : before.status.Terminal) (now : ℚ) :
    Beside (before.ws.toList ++ before.others).length (before.start true now)
      (State.initial.start true now) := by
  have startable : before.status.Startable := Or.inr isOver
  have changes : before.status ≠ .connecting := by
    rcases isOver with ended | failed
    · rw [ended]
      decide
    · rw [failed]
      decide
  have afresh : before.start true now = { (State.initial : State π).start true now with
      others := before.ws.toList ++ before.others } := by
    simp only [State.start, if_pos startable, State.reset, State.setStatus, if_neg changes,
      Interval.eq_none pristine.spawnPing, Interval.eq_none pristine.catchup, pristine.unstuck,
      pristine.stops, pristine.recorder]
    rfl
  exact ⟨⟨"", [], [], none, before.ws.toList ++ before.others⟩, rfl, afresh⟩

theorem Beside.alike (beside : Beside count state fresh) : Alike state fresh := by
  obtain ⟨remnant, -, rfl⟩ := beside
  exact withRemnant_alike

end Commutation

/-- **Restart.** A session that is over is started again, when nothing runs that
`start()` does not reset. While no event of an earlier socket reaches it, it
behaves as a new object that has the same events without those. -/
theorem restart_isolated {now : ℚ} (isOver : before.status.Terminal) (pristine : Pristine before)
    (isolated : Meets (step numberText) (Isolated (before.ws.toList ++ before.others).length) []
      (before.start true now) later)
    (reached : execute (step numberText) (before.start true now) later = some final) :
    ∃ fresh, execute (step numberText) (State.initial.start true now)
      (ownEvents numberText (before.ws.toList ++ before.others).length (before.start true now)
        later) = some fresh ∧ Alike final fresh := by
  obtain ⟨fresh, run, beside⟩ := (pristine.start isOver now).run isolated reached
  exact ⟨fresh, run, beside.alike⟩

/-- A session that the user has stopped. Its socket is still closing. -/
def stoppedSession : List (Action ℕ) :=
  [.start true 0, .opened none, .message none (plainMessage "ready") false, .captured 10 0 false,
    .stop]

/-- The next session, with a late text and the close of the first socket. -/
def nextSession : List (Action ℕ) :=
  [.message (some 0) (some (.dict [("type", .str "final"), ("text", .str "late")])) false,
    .opened none, .message none (plainMessage "ready") false, .captured 20 0 false,
    .message none (plainMessage "ended") false, .closed (some 0)]

/-- The next session is as a first one. -/
theorem restart_isolated_sample :
    ∃ before final fresh,
      execute (step sampleNumberText) State.initial stoppedSession = some before ∧
      execute (step sampleNumberText) (before.start true 0) nextSession = some final ∧
      execute (step sampleNumberText) (State.initial.start true 0)
        (ownEvents sampleNumberText 1 (before.start true 0) nextSession) = some fresh ∧
      Alike final fresh := by
  obtain ⟨before, stopped, rest⟩ := Option.map_eq_some_iff.mp
    (show (execute (step sampleNumberText) State.initial stoppedSession).map
      (fun before => (before.ws, before.others, before.status, decide (Pristine before),
        decide (Meets (step sampleNumberText) (Isolated 1) [] (before.start true 0) nextSession),
        (execute (step sampleNumberText) (before.start true 0) nextSession).isSome)) =
      some (none, [.closing], .ended, true, true, true) by decide +kernel)
  simp only [Prod.mk.injEq, decide_eq_true_eq] at rest
  obtain ⟨ws, others, ended, pristine, isolated, goesOn⟩ := rest
  obtain ⟨final, reached⟩ := Option.isSome_iff_exists.mp goesOn
  have count : (before.ws.toList ++ before.others).length = 1 := by
    rw [ws, others]
    rfl
  rw [← count] at isolated
  obtain ⟨fresh, run, alike⟩ := restart_isolated (Or.inl ended) pristine isolated reached
  rw [count] at run
  exact ⟨before, final, fresh, stopped, reached, run, alike⟩

/-- The server has reported an error and has not closed the socket yet. -/
def erroredSession : List (Action ℕ) :=
  [.start true 0, .opened none, .message none (plainMessage "ready") false,
    .message none (plainMessage "error") false]

/-- The close of the first socket ends the session that was started after it. -/
theorem late_close_ends_restart :
    ¬ ∀ (history later : List (Action ℕ)) (before final : State ℕ) (now : ℚ),
      execute (step sampleNumberText) State.initial history = some before →
      before.status.Terminal →
      execute (step sampleNumberText) (before.start true now) later = some final →
      ∃ fresh, execute (step sampleNumberText) (State.initial.start true now)
        (ownEvents sampleNumberText (before.ws.toList ++ before.others).length
          (before.start true now) later) = some fresh ∧ Alike final fresh := by
  intro always
  obtain ⟨before, reached, rest⟩ := Option.map_eq_some_iff.mp
    (show (execute (step sampleNumberText) State.initial erroredSession).map
      (fun before => (before.status,
        (execute (step sampleNumberText) (before.start true 0) [.closed (some 0)]).map State.status,
        (execute (step sampleNumberText) (State.initial.start true 0)
          (ownEvents sampleNumberText (before.ws.toList ++ before.others).length
            (before.start true 0) [.closed (some 0)])).map State.status)) =
      some (.failed, some .ended, some .connecting) by decide +kernel)
  simp only [Prod.mk.injEq] at rest
  obtain ⟨failed, closes, connects⟩ := rest
  obtain ⟨final, closed, ended⟩ := Option.map_eq_some_iff.mp closes
  obtain ⟨fresh, run, alike⟩ := always _ _ before final 0 reached (Or.inr failed) closed
  rw [run, Option.map_some, ← alike.status, ended] at connects
  cases connects

end Panakoes.AdminSpa
