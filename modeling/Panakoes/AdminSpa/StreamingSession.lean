import Panakoes.Foundation.PyJson
import Panakoes.Foundation.Run

/-! # The browser's streaming session

`StreamingSessionImpl` of the admin SPA: one object that may be started again
and again, each time with a new WebSocket. Its methods, socket callbacks, timer
callbacks and frame callbacks run one at a time, in an order the browser picks.
Callbacks to the page and the session log are left out. A timer that is armed
anew without being cleared goes on running although nothing refers to it.
-/

namespace Panakoes.AdminSpa

open PyJson (get)

/-! ## State -/

/-- `StreamStatus`. -/
inductive StreamStatus where
  | idle
  | connecting
  | spawningGpu
  | catchingUp
  | transcribing
  | ended
  | failed
  deriving DecidableEq, Repr

/-- The statuses in which `start()` takes effect. -/
def StreamStatus.Startable (status : StreamStatus) : Prop :=
  status = .idle ∨ status = .ended ∨ status = .failed

instance : DecidablePred StreamStatus.Startable :=
  fun status => inferInstanceAs (Decidable (status = _ ∨ status = _ ∨ status = _))

/-- The session is over. -/
def StreamStatus.Terminal (status : StreamStatus) : Prop := status = .ended ∨ status = .failed

instance : DecidablePred StreamStatus.Terminal :=
  fun status => inferInstanceAs (Decidable (status = _ ∨ status = _))

/-- `WebSocket.readyState`. -/
inductive ReadyState where
  | connecting
  | opened
  | closing
  | closed
  deriving DecidableEq, Repr

/-- The intervals of one kind: whether the handle holds one, and how many run
that the handle no longer holds. -/
structure Interval where
  armed : Bool
  orphans : ℕ
  deriving DecidableEq, Repr

namespace Interval

/-- `setInterval`, assigned to the handle. -/
def arm (interval : Interval) : Interval :=
  ⟨true, if interval.armed then interval.orphans + 1 else interval.orphans⟩

/-- `clearInterval` of the handle, if it holds one. -/
def clear (interval : Interval) : Interval := ⟨false, interval.orphans⟩

/-- Some interval runs. -/
def Running (interval : Interval) : Prop := interval.armed = true ∨ 0 < interval.orphans

instance (interval : Interval) : Decidable interval.Running :=
  inferInstanceAs (Decidable (_ ∨ _))

/-- No interval has ever been armed, or all have been cleared. -/
def none : Interval := ⟨false, 0⟩

end Interval

/-- What a `startRecording` waits for. -/
inductive RecordingStart where
  | microphone
  | worklet
  deriving DecidableEq, Repr

/-- The microphone side. `starting` is `recordingStartInFlight`, with what the
call waits for. -/
structure Recorder where
  isRecording : Bool
  starting : Option RecordingStart
  stream : Option ℕ
  worklet : Option ℕ
  deriving DecidableEq, Repr

/-- A call that waits for the worklet to stop. -/
inductive PendingStop where
  | session
  | recording
  deriving DecidableEq, Repr

/-- A message the session has sent. `pcm_b64` of an audio frame is the encoding
of `pcm`. -/
inductive Sent (π : Type*) where
  | audioFrame (seq : ℕ) (tsMsDelta : ℤ) (pcm : π)
  | ping
  | pingEcho (seq : ℚ)
  deriving DecidableEq

/-- The fields of the object, the sockets that `ws` no longer refers to, latest
first, and two ghosts, both since the last `start()`: what has been sent, and
whether the server of `ws` has said that it is ready. -/
structure State (π : Type*) where
  status : StreamStatus
  partialText : String
  finalSegments : List String
  recorder : Recorder
  stops : List PendingStop
  ws : Option ReadyState
  others : List ReadyState
  seq : ℕ
  startWallMs : ℚ
  spawnPingTimer : Interval
  catchupTimer : Interval
  spawnStallTimer : Bool
  spawnStuck : Bool
  pendingFrames : List π
  recordedPcm : List π
  readyReceived : Bool
  finalChunkBuffer : List (ℚ × List PyJson)
  expectedFinalChunks : Option ℚ
  sent : List (Sent π)
  serverReady : Bool

/-- A recorder that does nothing. -/
def Recorder.idle : Recorder := ⟨false, none, none, none⟩

variable {π : Type*}

/-- `new StreamingSessionImpl()`. -/
def State.initial : State π where
  status := .idle
  partialText := ""
  finalSegments := []
  recorder := .idle
  stops := []
  ws := none
  others := []
  seq := 0
  startWallMs := 0
  spawnPingTimer := .none
  catchupTimer := .none
  spawnStallTimer := false
  spawnStuck := false
  pendingFrames := []
  recordedPcm := []
  readyReceived := false
  finalChunkBuffer := []
  expectedFinalChunks := none
  sent := []
  serverReady := false

/-! ## Methods -/

/-- `setStatus`: entering `spawning-gpu` arms the stall watchdog, any other
change clears it. -/
def State.setStatus (state : State π) (status : StreamStatus) : State π :=
  if state.status = status then state
  else { state with status := status, spawnStallTimer := status = .spawningGpu }

/-- The socket is there and open. -/
def State.WsOpen (state : State π) : Prop := state.ws = some .opened

instance (state : State π) : Decidable state.WsOpen := inferInstanceAs (Decidable (_ = _))

/-- `ws.send`, unless it throws. -/
def State.send (state : State π) (message : Sent π) (throws : Bool) : State π :=
  if throws then state else { state with sent := state.sent ++ [message] }

/-- `transmitFrame`. -/
def State.transmitFrame (state : State π) (pcm : π) (now : ℚ) (throws : Bool) : State π :=
  if state.WsOpen then
    { state with seq := state.seq + 1 }.send
      (.audioFrame state.seq (now - state.startWallMs).floor pcm) throws
  else state

/-- `handleFrame`. -/
def State.handleFrame (state : State π) (pcm : π) (now : ℚ) (throws : Bool) : State π :=
  let recorded := { state with recordedPcm := state.recordedPcm ++ [pcm] }
  match state.status with
  | .spawningGpu | .connecting | .catchingUp =>
      { recorded with pendingFrames := recorded.pendingFrames ++ [pcm] }
  | .transcribing => recorded.transmitFrame pcm now throws
  | .idle | .ended | .failed => recorded

/-- The callback of a catch-up interval. -/
def State.catchup (state : State π) (now : ℚ) (throws : Bool) : State π :=
  match state.pendingFrames with
  | [] =>
      let cleared := { state with catchupTimer := state.catchupTimer.clear }
      if state.status = .catchingUp then cleared.setStatus .transcribing else cleared
  | frame :: rest => { state with pendingFrames := rest }.transmitFrame frame now throws

/-- `sendPing`, the callback of a ping interval. -/
def State.sendPing (state : State π) (throws : Bool) : State π :=
  if state.WsOpen then state.send .ping throws else state

/-- `sendPingEcho`. -/
def State.sendPingEcho (state : State π) (seq : ℚ) (throws : Bool) : State π :=
  if state.WsOpen then state.send (.pingEcho seq) throws else state

/-- `armCatchupTimer`. -/
def State.armCatchupTimer (state : State π) : State π :=
  { state with catchupTimer := state.catchupTimer.arm }

/-- `armSpawnPing`. -/
def State.armSpawnPing (state : State π) : State π :=
  { state with spawnPingTimer := state.spawnPingTimer.arm }

/-- `onReady`. -/
def State.onReady (state : State π) : State π :=
  if state.readyReceived then state
  else
    let ready :=
      { state with readyReceived := true, spawnPingTimer := state.spawnPingTimer.clear }
    if state.pendingFrames = [] then ready.setStatus .transcribing
    else (ready.setStatus .catchingUp).armCatchupTimer

/-! ### Messages -/

/-- The value when `typeof value === "number"`. Numbers that are not finite do
not come out of a server's `json.dumps`. -/
def number? : PyJson → Option ℚ
  | .int value => some value
  | .float (some value) => some value
  | _ => none

/-- The value when `typeof value === "string"`, else `""`. -/
def textOf : PyJson → String
  | .str text => text
  | _ => ""

mutual
/-- An element of an array as `join` writes it. `numberText` is `String` of a
number. -/
def joinText (numberText : ℚ → String) : PyJson → String
  | .none => ""
  | .bool value => if value then "true" else "false"
  | .int value => numberText value
  | .float (some value) => numberText value
  | .float none => "NaN"
  | .str text => text
  | .list items => ",".intercalate (joinTexts numberText items)
  | .dict _ => "[object Object]"

/-- The elements of an array as `join` writes them. -/
def joinTexts (numberText : ℚ → String) : List PyJson → List String
  | [] => []
  | item :: rest => joinText numberText item :: joinTexts numberText rest
end

/-- `tokens.join(" ")`. -/
def joinTokens (numberText : ℚ → String) (tokens : List PyJson) : String :=
  " ".intercalate (joinTexts numberText tokens)

/-- `Map.set`. -/
def setChunk (buffer : List (ℚ × List PyJson)) (seq : ℚ) (tokens : List PyJson) :
    List (ℚ × List PyJson) :=
  if (buffer.lookup seq).isSome then
    buffer.map fun entry => if entry.1 = seq then (seq, tokens) else entry
  else buffer ++ [(seq, tokens)]

/-- The tokens of the chunks numbered below `total`, in the order of their
numbers. -/
def chunkTokens (buffer : List (ℚ × List PyJson)) (total : ℚ) : List PyJson :=
  (List.range total.ceil.toNat).flatMap fun (index : ℕ) => (buffer.lookup (index : ℚ)).getD []

/-- `assembleFinalChunks`. -/
def State.assembleFinalChunks (numberText : ℚ → String) (state : State π) : State π :=
  match state.expectedFinalChunks with
  | none => state
  | some total =>
      if state.finalChunkBuffer = [] then state
      else
        let tokens := chunkTokens state.finalChunkBuffer total
        { state with
          finalSegments :=
            if tokens = [] then state.finalSegments
            else state.finalSegments ++ [joinTokens numberText tokens]
          finalChunkBuffer := []
          expectedFinalChunks := none }

/-- The case `final-chunk` of `handleMessage`. -/
def State.bufferChunk (state : State π) (fields : List (String × PyJson)) : State π :=
  let seq := (number? (get fields "seq")).getD (-1)
  let tokens :=
    match get fields "tokens" with
    | .list tokens => tokens
    | _ => []
  if 0 ≤ seq then
    { state with
      finalChunkBuffer := setChunk state.finalChunkBuffer seq tokens
      expectedFinalChunks := some ((number? (get fields "total")).getD 0) }
  else state

/-- The messages that `handleMessage` tells apart by their `type`. -/
inductive MessageType where
  | ready
  | partialResult
  | final
  | finalChunk
  | ended
  | error
  | ping
  | other
  deriving DecidableEq, Repr

/-- The type of a message. The cases `status`, `session-ending-soon` and the
default only write to the log. -/
def messageType (fields : List (String × PyJson)) : MessageType :=
  match get fields "type" with
  | .str "ready" => .ready
  | .str "partial" => .partialResult
  | .str "final" => .final
  | .str "final-chunk" => .finalChunk
  | .str "ended" => .ended
  | .str "error" => .error
  | .str "ping" => .ping
  | _ => .other

/-- `resetStallWatchdog`. -/
def State.resetStallWatchdog (state : State π) : State π :=
  if state.status = .spawningGpu then { state with spawnStallTimer := true } else state

/-- The `switch` of `handleMessage`. -/
def State.dispatch (numberText : ℚ → String) (state : State π)
    (fields : List (String × PyJson)) (throws : Bool) : State π :=
  match messageType fields with
  | .ready => state.onReady
  | .partialResult => { state with partialText := textOf (get fields "text") }
  | .final =>
      { state with
        finalSegments := state.finalSegments ++ [textOf (get fields "text")]
        partialText := "" }
  | .finalChunk => state.bufferChunk fields
  | .ended => (state.assembleFinalChunks numberText).setStatus .ended
  | .error => state.setStatus .failed
  | .ping => state.sendPingEcho ((number? (get fields "seq")).getD 0) throws
  | .other => state

/-- `handleMessage`, of the parsed data or of data that does not parse. An array
is an object without a `type`. -/
def State.handleMessage (numberText : ℚ → String) (state : State π) (data : Option PyJson)
    (throws : Bool) : State π :=
  match data with
  | some (.dict fields) => state.resetStallWatchdog.dispatch numberText fields throws
  | _ => state.resetStallWatchdog

/-! ### Start and stop -/

/-- What `start()` resets. The timers, the watchdog's verdict, the recorder and
the pending stops are not among it. -/
def State.reset (state : State π) (now : ℚ) : State π :=
  { state.setStatus .connecting with
    startWallMs := now
    seq := 0
    partialText := ""
    finalSegments := []
    pendingFrames := []
    recordedPcm := []
    readyReceived := false
    finalChunkBuffer := []
    expectedFinalChunks := none
    sent := []
    serverReady := false }

/-- `start()`, when the WebSocket can be constructed or not. -/
def State.start (state : State π) (opens : Bool) (now : ℚ) : State π :=
  if state.status.Startable then
    let reset := state.reset now
    if opens then
      { reset with ws := some .connecting, others := state.ws.toList ++ state.others }
    else reset.setStatus .failed
  else state

/-- `close()` of a socket that is connecting or open. -/
def ReadyState.close : ReadyState → ReadyState
  | .connecting | .opened => .closing
  | .closing => .closing
  | .closed => .closed

/-- The timers that `stop()` and `handleClose` clear. -/
def State.clearTimers (state : State π) : State π :=
  { state with
    spawnPingTimer := state.spawnPingTimer.clear
    catchupTimer := state.catchupTimer.clear
    spawnStallTimer := false }

/-- The status at the end of `stop()` and of `handleClose`. -/
def State.setEnded (state : State π) : State π :=
  if state.status.Terminal then state else state.setStatus .ended

/-- `stop()` once the worklet has stopped. -/
def State.finishStop (state : State π) : State π :=
  { state with
    recorder := { state.recorder with stream := none }
    ws := none
    others := (state.ws.map ReadyState.close).toList ++ state.others }.setEnded

/-- `stop()`, up to the point where it waits for the worklet if there is one. -/
def State.stop (state : State π) : State π :=
  let cleared := state.clearTimers
  let paused := { cleared with recorder := { state.recorder with isRecording := false } }
  match state.recorder.worklet with
  | none => paused.finishStop
  | some _ =>
      { paused with
        recorder := { paused.recorder with worklet := none }
        stops := paused.stops ++ [.session] }

/-- `stopRecording()`, up to the same point. -/
def State.stopRecording (state : State π) : State π :=
  if state.recorder.isRecording then
    match state.recorder.worklet with
    | none =>
        { state with recorder := { state.recorder with isRecording := false, stream := none } }
    | some _ =>
        { state with
          recorder := { state.recorder with isRecording := false, worklet := none }
          stops := state.stops ++ [.recording] }
  else state

/-- What waits for the worklet goes on. -/
def State.finish (state : State π) : PendingStop → State π
  | .session => state.finishStop
  | .recording => { state with recorder := { state.recorder with stream := none } }

/-- `handleClose`. -/
def State.handleClose (state : State π) : State π := state.clearTimers.setEnded

/-! ### Recording -/

/-- `startRecording()`, up to the point where it waits for the microphone. -/
def Recorder.start (recorder : Recorder) : Recorder :=
  if recorder.isRecording ∨ recorder.starting.isSome then recorder
  else { recorder with starting := some .microphone }

/-- The microphone is acquired, or refused. -/
def Recorder.acquire (recorder : Recorder) : Option ℕ → Recorder
  | some stream => { recorder with stream := some stream, starting := some .worklet }
  | none => { recorder with starting := none }

/-- The worklet is started, or fails to. -/
def Recorder.attach (recorder : Recorder) : Option ℕ → Recorder
  | some worklet =>
      { recorder with worklet := some worklet, isRecording := true, starting := none }
  | none => { recorder with stream := none, starting := none }

/-! ## The transition system -/

/-- What happens to the object. A socket is `none` for the one `ws` refers to,
else its place among the others. -/
inductive Action (π : Type*) where
  | start (opens : Bool) (now : ℚ)
  | stop
  | startRecording
  | microphone (stream : Option ℕ)
  | worklet (worklet : Option ℕ)
  | stopRecording
  | workletStopped (index : ℕ)
  | captured (pcm : π) (now : ℚ) (throws : Bool)
  | opened (socket : Option ℕ)
  | message (socket : Option ℕ) (data : Option PyJson) (throws : Bool)
  | transportError (socket : Option ℕ)
  | closed (socket : Option ℕ)
  | spawnPing (throws : Bool)
  | catchup (now : ℚ) (throws : Bool)
  | spawnStall

/-- The ready state of a socket. -/
def State.socket (state : State π) : Option ℕ → Option ReadyState
  | none => state.ws
  | some index => state.others[index]?

/-- The state with another ready state of a socket. -/
def State.setSocket (state : State π) (readyState : ReadyState) : Option ℕ → State π
  | none => { state with ws := some readyState }
  | some index => { state with others := state.others.set index readyState }

/-- `ws.onopen`. -/
def State.onOpen (state : State π) : State π := (state.setStatus .spawningGpu).armSpawnPing

/-- The watchdog's timeout. -/
def State.spawnStall (state : State π) : State π :=
  { state with
    spawnStallTimer := false
    spawnStuck := state.status = .spawningGpu ∨ state.spawnStuck }

/-- Whether a message says that the server is ready. -/
def SaysReady : Option PyJson → Prop
  | some (.dict fields) => messageType fields = .ready
  | _ => False

instance : DecidablePred SaysReady
  | some (.dict fields) => inferInstanceAs (Decidable (messageType fields = .ready))
  | none | some .none | some (.bool _) | some (.int _) | some (.float _) | some (.str _)
  | some (.list _) => .isFalse id

/-- One step of the object. -/
def step (numberText : ℚ → String) (state : State π) : Action π → Option (State π)
  | .start opens now => some (state.start opens now)
  | .stop => some state.stop
  | .startRecording => some { state with recorder := state.recorder.start }
  | .microphone stream =>
      if state.recorder.starting = some .microphone then
        some { state with recorder := state.recorder.acquire stream }
      else none
  | .worklet worklet =>
      if state.recorder.starting = some .worklet then
        some { state with recorder := state.recorder.attach worklet }
      else none
  | .stopRecording => some state.stopRecording
  | .workletStopped index =>
      state.stops[index]?.map fun pending =>
        { state with stops := state.stops.eraseIdx index }.finish pending
  | .captured pcm now throws => some (state.handleFrame pcm now throws)
  | .opened socket =>
      if state.socket socket = some .connecting then
        some (state.setSocket .opened socket).onOpen
      else none
  | .message socket data throws =>
      if state.socket socket = some .opened ∨ state.socket socket = some .closing then
        let heard := { state with
          serverReady := state.serverReady ∨ (socket = none ∧ SaysReady data) }
        some (heard.handleMessage numberText data throws)
      else none
  | .transportError socket =>
      if state.socket socket = none ∨ state.socket socket = some .closed then none
      else some state
  | .closed socket =>
      if state.socket socket = none ∨ state.socket socket = some .closed then none
      else some (state.setSocket .closed socket).handleClose
  | .spawnPing throws =>
      if state.spawnPingTimer.Running then some (state.sendPing throws) else none
  | .catchup now throws =>
      if state.catchupTimer.Running then some (state.catchup now throws) else none
  | .spawnStall => if state.spawnStallTimer then some state.spawnStall else none

/-! ## What the pieces change -/

variable {numberText : ℚ → String} {state : State π}

@[simp] theorem Interval.running_arm (interval : Interval) : interval.arm.Running := Or.inl rfl

/-- Clearing starts nothing. -/
theorem Interval.Running.of_clear {interval : Interval} (running : interval.clear.Running) :
    interval.Running := by
  rcases running with armed | orphaned
  · cases armed
  · exact Or.inr orphaned

/-- Clearing stops what the handle holds. -/
theorem Interval.not_running_clear {interval : Interval} (held : interval.orphans = 0) :
    ¬ interval.clear.Running := by
  rintro (armed | orphaned)
  · cases armed
  · exact Nat.ne_of_gt orphaned held

/-- `setStatus` changes the status and the watchdog. -/
theorem State.setStatus_eq (state : State π) (status : StreamStatus) :
    ∃ stall, state.setStatus status =
      { state with status := status, spawnStallTimer := stall } := by
  unfold State.setStatus
  split
  · rename_i same
    subst same
    exact ⟨state.spawnStallTimer, rfl⟩
  · exact ⟨_, rfl⟩

@[simp] theorem State.setStatus_status (state : State π) (status : StreamStatus) :
    (state.setStatus status).status = status := by
  obtain ⟨_, changed⟩ := state.setStatus_eq status
  rw [changed]

/-- `resetStallWatchdog` changes the watchdog. -/
theorem State.resetStallWatchdog_eq (state : State π) :
    ∃ stall, state.resetStallWatchdog = { state with spawnStallTimer := stall } := by
  unfold State.resetStallWatchdog
  split
  · exact ⟨_, rfl⟩
  · exact ⟨state.spawnStallTimer, rfl⟩

/-- `assembleFinalChunks` changes the final segments and the buffer. -/
theorem State.assembleFinalChunks_eq (numberText : ℚ → String) (state : State π) :
    ∃ segments buffer expected, state.assembleFinalChunks numberText =
      { state with
        finalSegments := segments
        finalChunkBuffer := buffer
        expectedFinalChunks := expected } := by
  unfold State.assembleFinalChunks
  split
  · exact ⟨state.finalSegments, state.finalChunkBuffer, state.expectedFinalChunks, rfl⟩
  · split
    · exact ⟨state.finalSegments, state.finalChunkBuffer, state.expectedFinalChunks, rfl⟩
    · exact ⟨_, _, _, rfl⟩

/-- A socket that changes its state changes nothing else. -/
theorem State.setSocket_eq (state : State π) (readyState : ReadyState) (socket : Option ℕ) :
    ∃ ws others, state.setSocket readyState socket =
      { state with ws := ws, others := others } := by
  cases socket with
  | none => exact ⟨some readyState, state.others, rfl⟩
  | some index => exact ⟨state.ws, state.others.set index readyState, rfl⟩

/-- A `final-chunk` changes the buffer. -/
theorem State.bufferChunk_eq (state : State π) (fields : List (String × PyJson)) :
    ∃ buffer expected, state.bufferChunk fields =
      { state with finalChunkBuffer := buffer, expectedFinalChunks := expected } := by
  unfold State.bufferChunk
  dsimp only
  split
  · exact ⟨_, _, rfl⟩
  · exact ⟨state.finalChunkBuffer, state.expectedFinalChunks, rfl⟩

/-! ## Sample messages -/

/-- A message that has nothing but a type. -/
def plainMessage (type : String) : Option PyJson := some (.dict [("type", .str type)])

/-- The samples send no numbers that need a text. -/
def sampleNumberText : ℚ → String := fun _ => ""

end Panakoes.AdminSpa
