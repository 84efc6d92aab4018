import Mathlib.Data.List.Perm.Basic
import Panakoes.AdminSpa.StreamingSession

/-! # Stopping a recording

The media streams and the worklet controllers that a session has acquired and that are still
active, beside the session's own state. `stop()` and `stopRecording()` act on what
`startRecording()` has published by then; what it publishes later stays active.
-/

namespace Panakoes.AdminSpa

open Transition

variable {π : Type*} {numberText : ℚ → String} {state : State π}

/-! ## What leaves the recorder alone -/

/-- The recorder, and the calls that wait for a worklet to stop. -/
def State.recording (state : State π) : Recorder × List PendingStop := (state.recorder, state.stops)

@[simp] theorem State.recording_setStatus (status : StreamStatus) :
    (state.setStatus status).recording = state.recording := by
  obtain ⟨_, changed⟩ := state.setStatus_eq status
  rw [changed]
  rfl

@[simp] theorem State.recording_send (message : Sent π) (throws : Bool) :
    (state.send message throws).recording = state.recording := by
  unfold State.send
  split <;> rfl

@[simp] theorem State.recording_transmitFrame (pcm : π) (now : ℚ) (throws : Bool) :
    (state.transmitFrame pcm now throws).recording = state.recording := by
  unfold State.transmitFrame
  split
  · exact State.recording_send _ _
  · rfl

@[simp] theorem State.recording_handleFrame (pcm : π) (now : ℚ) (throws : Bool) :
    (state.handleFrame pcm now throws).recording = state.recording := by
  unfold State.handleFrame
  dsimp only
  split
  case h_4 => exact State.recording_transmitFrame _ _ _
  all_goals rfl

@[simp] theorem State.recording_catchup (now : ℚ) (throws : Bool) :
    (state.catchup now throws).recording = state.recording := by
  unfold State.catchup
  split
  · dsimp only
    split
    · exact State.recording_setStatus _
    · rfl
  · exact State.recording_transmitFrame _ _ _

@[simp] theorem State.recording_onReady : state.onReady.recording = state.recording := by
  unfold State.onReady
  split
  · rfl
  · dsimp only
    split
    · exact State.recording_setStatus _
    · exact @State.recording_setStatus π _ .catchingUp

@[simp] theorem State.recording_dispatch (fields : List (String × PyJson)) (throws : Bool) :
    (state.dispatch numberText fields throws).recording = state.recording := by
  unfold State.dispatch
  split
  · exact State.recording_onReady
  · rfl
  · rfl
  · obtain ⟨_, _, changed⟩ := state.bufferChunk_eq fields
    rw [changed]
    rfl
  · rw [State.recording_setStatus]
    obtain ⟨_, _, _, changed⟩ := state.assembleFinalChunks_eq numberText
    rw [changed]
    rfl
  · exact State.recording_setStatus _
  · unfold State.sendPingEcho
    split
    · exact State.recording_send _ _
    · rfl
  · rfl

@[simp] theorem State.recording_handleMessage (data : Option PyJson) (throws : Bool) :
    (state.handleMessage numberText data throws).recording = state.recording := by
  have reset : state.resetStallWatchdog.recording = state.recording := by
    obtain ⟨_, changed⟩ := state.resetStallWatchdog_eq
    rw [changed]
    rfl
  unfold State.handleMessage
  split
  · rw [State.recording_dispatch, reset]
  · exact reset

@[simp] theorem State.recording_start (opens : Bool) (now : ℚ) :
    (state.start opens now).recording = state.recording := by
  have reset : (state.reset now).recording = state.recording := State.recording_setStatus .connecting
  unfold State.start
  split
  · dsimp only
    split
    · exact reset
    · rw [State.recording_setStatus, reset]
  · rfl

@[simp] theorem State.recording_setSocket (readyState : ReadyState) (socket : Option ℕ) :
    (state.setSocket readyState socket).recording = state.recording := by
  obtain ⟨_, _, changed⟩ := state.setSocket_eq readyState socket
  rw [changed]
  rfl

@[simp] theorem State.recording_handleClose : state.handleClose.recording = state.recording := by
  unfold State.handleClose State.setEnded
  split
  · rfl
  · exact State.recording_setStatus _

/-- `stop()` ends by releasing the stream. -/
theorem State.recording_finishStop :
    state.finishStop.recording = ({ state.recorder with stream := none }, state.stops) := by
  unfold State.finishStop State.setEnded
  split
  · rfl
  · exact State.recording_setStatus _

/-- The action is none of the recorder's own. -/
def Action.LeavesRecorder : Action π → Prop
  | .stop | .startRecording | .microphone _ | .worklet _ | .stopRecording | .workletStopped _ =>
      False
  | .start _ _ | .captured _ _ _ | .opened _ | .message _ _ _ | .transportError _ | .closed _
  | .spawnPing _ | .catchup _ _ | .spawnStall => True

theorem recording_of_leavesRecorder {action : Action π} {after : State π}
    (leaves : action.LeavesRecorder) (taken : step numberText state action = some after) :
    after.recording = state.recording := by
  cases action with
  | start opens now =>
      cases taken
      exact State.recording_start opens now
  | captured pcm now throws =>
      cases taken
      exact State.recording_handleFrame pcm now throws
  | opened socket =>
      simp only [step] at taken
      split at taken
      · cases taken
        unfold State.onOpen
        exact (State.recording_setStatus _).trans (State.recording_setSocket _ _)
      · cases taken
  | message socket data throws =>
      simp only [step] at taken
      split at taken
      · cases taken
        exact State.recording_handleMessage data throws
      · cases taken
  | transportError socket =>
      simp only [step] at taken
      split at taken
      · cases taken
      · cases taken
        rfl
  | closed socket =>
      simp only [step] at taken
      split at taken
      · cases taken
      · cases taken
        rw [State.recording_handleClose, State.recording_setSocket]
  | spawnPing throws =>
      simp only [step] at taken
      split at taken
      · cases taken
        unfold State.sendPing
        split
        · exact State.recording_send _ _
        · rfl
      · cases taken
  | catchup now throws =>
      simp only [step] at taken
      split at taken
      · cases taken
        exact State.recording_catchup now throws
      · cases taken
  | spawnStall =>
      simp only [step] at taken
      split at taken
      · cases taken
        rfl
      · cases taken
  | stop | startRecording | microphone _ | worklet _ | stopRecording | workletStopped _ =>
      exact leaves.elim

/-! ## The devices -/

/-- The devices that a session has acquired and that are active, the worklet controllers for
which the calls in `stops` wait, and whether `stop()` or `stopRecording()` has been called and
`startRecording()` has not been called since. -/
structure Devices where
  streams : List ℕ
  worklets : List ℕ
  stopping : List ℕ
  stopRequested : Bool
  deriving DecidableEq

namespace Devices

/-- `releaseStream`: the tracks of the stream that the recorder holds are stopped. -/
def releaseStream (devices : Devices) (recorder : Recorder) : Devices :=
  { devices with
    streams :=
      match recorder.stream with
      | none => devices.streams
      | some stream => devices.streams.erase stream }

/-- The worklet that the recorder holds is told to stop, and the stream is released if there is
none to wait for. -/
def stopWorklet (devices : Devices) (recorder : Recorder) : Devices :=
  match recorder.worklet with
  | none => devices.releaseStream recorder
  | some worklet => { devices with stopping := devices.stopping ++ [worklet] }

/-- What an action, taken where the recorder is as given, does to the devices. -/
def next (devices : Devices) (recorder : Recorder) : Action π → Devices
  | .startRecording => { devices with stopRequested := false }
  | .stop => { devices.stopWorklet recorder with stopRequested := true }
  | .stopRecording =>
      let stopped := if recorder.isRecording then devices.stopWorklet recorder else devices
      { stopped with stopRequested := true }
  | .microphone (some stream) => { devices with streams := stream :: devices.streams }
  | .worklet (some worklet) => { devices with worklets := worklet :: devices.worklets }
  | .worklet none => devices.releaseStream recorder
  | .workletStopped index =>
      match devices.stopping[index]? with
      | none => devices
      | some worklet =>
          { devices with
            worklets := devices.worklets.erase worklet
            stopping := devices.stopping.eraseIdx index }.releaseStream recorder
  | .microphone none | .start _ _ | .captured _ _ _ | .opened _ | .message _ _ _
  | .transportError _ | .closed _ | .spawnPing _ | .catchup _ _ | .spawnStall => devices

end Devices

/-- A session and its devices. -/
structure Tracked (π : Type*) where
  session : State π
  devices : Devices

namespace Tracked

/-- A new session has acquired nothing. -/
def initial : Tracked π := ⟨.initial, ⟨[], [], [], false⟩⟩

/-- One step of the session, with what it does to the devices. -/
def step (numberText : ℚ → String) (tracked : Tracked π) (action : Action π) :
    Option (Tracked π) :=
  (AdminSpa.step numberText tracked.session action).map fun after =>
    ⟨after, tracked.devices.next tracked.session.recorder action⟩

/-- Nothing that concerns the microphone is pending. -/
def Settled (tracked : Tracked π) : Prop :=
  tracked.session.recorder.starting = none ∧ tracked.session.stops = []

/-- Everything that was acquired has been released. -/
def Released (tracked : Tracked π) : Prop :=
  tracked.devices.streams = [] ∧ tracked.devices.worklets = [] ∧
    tracked.session.recorder.isRecording = false

/-- A stop that nothing was started after has released everything once all is settled. -/
def StopWins (tracked : Tracked π) : Prop :=
  tracked.devices.stopRequested = true → tracked.Settled → tracked.Released

/-- The worklet of a `startRecording()` does not start after a stop, and the microphone is not
acquired while the recorder still holds an earlier stream. -/
def InTime (tracked : Tracked π) : Action π → Prop
  | .worklet (some _) => tracked.devices.stopRequested = false
  | .microphone (some _) => tracked.session.recorder.stream = none
  | _ => True

end Tracked

/-! ## The invariant -/

/-- Every active device is one that the recorder holds or whose worklet is being stopped, as long
as no stream has been overwritten. -/
structure Accounted (recorder : Recorder) (stops : List PendingStop) (devices : Devices) : Prop where
  streams : devices.streams = recorder.stream.toList
  worklets : devices.worklets.Perm (recorder.worklet.toList ++ devices.stopping)
  waiting : devices.stopping.length = stops.length
  attached : recorder.worklet.isSome = recorder.isRecording
  starting : recorder.starting.isSome → recorder.isRecording = false
  held : recorder.stream.isSome →
    recorder.isRecording = true ∨ recorder.starting = some .worklet ∨ stops ≠ []
  quiet : devices.stopRequested = true → recorder.isRecording = false

namespace Accounted

variable {recorder : Recorder} {stops : List PendingStop} {devices : Devices}

theorem initial : Accounted .idle [] ⟨[], [], [], false⟩ where
  streams := rfl
  worklets := List.Perm.refl []
  waiting := rfl
  attached := rfl
  starting := fun wrong => absurd wrong Bool.false_ne_true
  held := fun wrong => absurd wrong Bool.false_ne_true
  quiet := fun _ => rfl

/-- Releasing the stream leaves none that is active. -/
theorem releaseStream_streams (streams : devices.streams = recorder.stream.toList) :
    (devices.releaseStream recorder).streams = [] := by
  simp only [Devices.releaseStream]
  split
  · rename_i released
    rw [streams, released]
    rfl
  · rename_i stream held
    rw [streams, held]
    exact List.erase_cons_head stream []

/-- The recorder once its stream has been released. -/
theorem released (accounted : Accounted recorder stops devices) :
    Accounted { recorder with stream := none } stops (devices.releaseStream recorder) where
  streams := releaseStream_streams accounted.streams
  worklets := accounted.worklets
  waiting := accounted.waiting
  attached := accounted.attached
  starting := accounted.starting
  held := fun wrong => absurd wrong Bool.false_ne_true
  quiet := accounted.quiet

end Accounted

/-- The recorder and the pending stops once the worklet has been told to stop. -/
def halted (recorder : Recorder) (stops : List PendingStop) (pending : PendingStop) :
    Recorder × List PendingStop :=
  match recorder.worklet with
  | none => ({ recorder with isRecording := false, stream := none }, stops)
  | some _ => ({ recorder with isRecording := false, worklet := none }, stops ++ [pending])

namespace Accounted

variable {recorder : Recorder} {stops : List PendingStop} {devices : Devices}

theorem halt (accounted : Accounted recorder stops devices) (pending : PendingStop) :
    Accounted (halted recorder stops pending).1 (halted recorder stops pending).2
      { devices.stopWorklet recorder with stopRequested := true } := by
  obtain ⟨isRecording, starting, stream, worklet⟩ := recorder
  cases worklet with
  | none =>
      have quiet := accounted.released
      exact ⟨quiet.streams, quiet.worklets, quiet.waiting, rfl, fun _ => rfl,
        fun wrong => absurd wrong Bool.false_ne_true, fun _ => rfl⟩
  | some worklet =>
      refine ⟨accounted.streams, ?_, ?_, rfl, fun _ => rfl, fun _ => ?_, fun _ => rfl⟩
      · refine accounted.worklets.trans ?_
        exact (List.perm_append_singleton worklet devices.stopping).symm
      · simp only [Devices.stopWorklet, halted, List.length_append, accounted.waiting]
        rfl
      · exact Or.inr (Or.inr (List.append_ne_nil_of_right_ne_nil _ (List.cons_ne_nil _ _)))

/-- A stop that finds no recording has nothing to do. -/
theorem request (accounted : Accounted recorder stops devices)
    (idle : recorder.isRecording = false) :
    Accounted recorder stops { devices with stopRequested := true } :=
  { accounted with quiet := fun _ => idle }

theorem start (accounted : Accounted recorder stops devices) :
    Accounted recorder.start stops { devices with stopRequested := false } := by
  have unasked : false = true → recorder.start.isRecording = false :=
    fun wrong => absurd wrong Bool.false_ne_true
  unfold Recorder.start at unasked ⊢
  split at unasked
  · rename_i busy
    simp only [busy, ↓reduceIte]
    exact { accounted with quiet := unasked }
  · rename_i free
    simp only [free, ↓reduceIte]
    obtain ⟨notRecording, notStarting⟩ := not_or.mp free
    refine { accounted with
      starting := fun _ => Bool.eq_false_iff.mpr notRecording
      held := ?_
      quiet := unasked }
    intro holds
    rcases accounted.held holds with recording | starting | waits
    · exact Or.inl recording
    · rw [starting] at notStarting
      exact absurd rfl notStarting
    · exact Or.inr (Or.inr waits)

/-- The microphone is acquired while the recorder holds no stream. -/
theorem acquire (accounted : Accounted recorder stops devices) (free : recorder.stream = none)
    (awaited : recorder.starting = some .microphone) (stream : ℕ) :
    Accounted (recorder.acquire (some stream)) stops
      { devices with streams := stream :: devices.streams } where
  streams := by
    rw [accounted.streams, free]
    rfl
  worklets := accounted.worklets
  waiting := accounted.waiting
  attached := accounted.attached
  starting := by
    intro _
    apply accounted.starting
    rw [awaited]
    rfl
  held := fun _ => Or.inr (Or.inl rfl)
  quiet := accounted.quiet

/-- The microphone is refused. -/
theorem refuse (accounted : Accounted recorder stops devices)
    (awaited : recorder.starting = some .microphone) :
    Accounted (recorder.acquire none) stops devices :=
  { accounted with
    starting := fun wrong => absurd wrong Bool.false_ne_true
    held := by
      intro holds
      rcases accounted.held holds with recording | starting | waits
      · exact Or.inl recording
      · cases awaited.symm.trans starting
      · exact Or.inr (Or.inr waits) }

/-- The worklet starts, and no stop has been called. -/
theorem attach (accounted : Accounted recorder stops devices)
    (awaited : recorder.starting = some .worklet) (wanted : devices.stopRequested = false)
    (worklet : ℕ) :
    Accounted (recorder.attach (some worklet)) stops
      { devices with worklets := worklet :: devices.worklets } where
  streams := accounted.streams
  worklets := by
    have idle : recorder.worklet.isSome = false := by
      rw [accounted.attached]
      apply accounted.starting
      rw [awaited]
      rfl
    have none := Option.isNone_iff_eq_none.mp (Option.isSome_eq_false_iff.mp idle)
    have before := accounted.worklets
    rw [none] at before
    exact before.cons worklet
  waiting := accounted.waiting
  attached := rfl
  starting := fun wrong => absurd wrong Bool.false_ne_true
  held := fun _ => Or.inl rfl
  quiet := fun asked => absurd (wanted.symm.trans asked) Bool.false_ne_true

/-- The worklet fails to start. -/
theorem detach (accounted : Accounted recorder stops devices) :
    Accounted (recorder.attach none) stops (devices.releaseStream recorder) :=
  { accounted.released with
    starting := fun wrong => absurd wrong Bool.false_ne_true
    held := fun wrong => absurd wrong Bool.false_ne_true }

/-- A worklet has stopped. -/
theorem workletStopped (accounted : Accounted recorder stops devices) {index worklet : ℕ}
    (waited : devices.stopping[index]? = some worklet) :
    Accounted { recorder with stream := none } (stops.eraseIdx index)
      ({ devices with
        worklets := devices.worklets.erase worklet
        stopping := devices.stopping.eraseIdx index }.releaseStream recorder) where
  streams := releaseStream_streams accounted.streams
  worklets := by
    obtain ⟨bound, found⟩ := List.getElem?_eq_some_iff.mp waited
    have front : devices.stopping.Perm (worklet :: devices.stopping.eraseIdx index) :=
      found ▸ (List.getElem_cons_eraseIdx_perm bound).symm
    have active : devices.worklets.Perm
        (worklet :: (recorder.worklet.toList ++ devices.stopping.eraseIdx index)) :=
      accounted.worklets.trans ((front.append_left _).trans List.perm_middle)
    exact (active.erase worklet).trans (List.erase_cons_head worklet _ ▸ List.Perm.refl _)
  waiting := by
    obtain ⟨bound, -⟩ := List.getElem?_eq_some_iff.mp waited
    simp only [Devices.releaseStream]
    rw [List.length_eraseIdx_of_lt bound,
      List.length_eraseIdx_of_lt (accounted.waiting ▸ bound), accounted.waiting]
  attached := accounted.attached
  starting := accounted.starting
  held := fun wrong => absurd wrong Bool.false_ne_true
  quiet := accounted.quiet

/-- Once all is settled, only a recording keeps a device. -/
theorem released_of_settled (accounted : Accounted recorder stops devices)
    (asked : devices.stopRequested = true) (notStarting : recorder.starting = none)
    (noStops : stops = []) :
    devices.streams = [] ∧ devices.worklets = [] ∧ recorder.isRecording = false := by
  have idle : recorder.isRecording = false := accounted.quiet asked
  refine ⟨?_, ?_, idle⟩
  · have released : recorder.stream = none := by
      apply Option.not_isSome_iff_eq_none.mp
      intro held
      rcases accounted.held held with recording | starting | waits
      · exact absurd (idle.symm.trans recording) Bool.false_ne_true
      · cases notStarting.symm.trans starting
      · exact waits noStops
    have streams := accounted.streams
    rw [released] at streams
    exact streams
  · have detached : recorder.worklet = none := by
      apply Option.not_isSome_iff_eq_none.mp
      intro attached
      rw [accounted.attached, idle] at attached
      cases attached
    have stopped : devices.stopping = [] := by
      apply List.eq_nil_of_length_eq_zero
      rw [accounted.waiting, noStops]
      rfl
    have worklets := accounted.worklets
    rw [detached, stopped] at worklets
    exact List.Perm.eq_nil worklets

end Accounted

theorem State.recording_stop :
    state.stop.recording = halted state.recorder state.stops .session := by
  cases attached : state.recorder.worklet with
  | none =>
      simp only [State.stop, halted, attached]
      rw [State.recording_finishStop, ← attached]
      rfl
  | some worklet =>
      simp only [State.stop, halted, attached]
      rfl

theorem State.recording_stopRecording :
    state.stopRecording.recording =
      if state.recorder.isRecording then halted state.recorder state.stops .recording
      else state.recording := by
  unfold State.stopRecording
  split
  · cases attached : state.recorder.worklet with
    | none => simp only [State.recording, halted, attached]
    | some worklet => simp only [State.recording, halted, attached]
  · rfl

/-- Whatever call has waited, the stream is released. -/
theorem State.recording_finish (pending : PendingStop) :
    (state.finish pending).recording = ({ state.recorder with stream := none }, state.stops) := by
  cases pending with
  | session => exact State.recording_finishStop
  | recording => rfl

/-- What is nothing to the recorder is nothing to the devices. -/
theorem Devices.next_of_leavesRecorder {action : Action π} (leaves : action.LeavesRecorder)
    (devices : Devices) (recorder : Recorder) : devices.next recorder action = devices := by
  cases action with
  | stop | startRecording | microphone _ | worklet _ | stopRecording | workletStopped _ =>
      exact leaves.elim
  | _ => rfl

namespace Tracked

/-- The invariant. -/
def Accounted (tracked : Tracked π) : Prop :=
  AdminSpa.Accounted tracked.session.recording.1 tracked.session.recording.2 tracked.devices

variable {tracked after : Tracked π} {action : Action π}

theorem Accounted.step (accounted : tracked.Accounted) (inTime : tracked.InTime action)
    (taken : tracked.step numberText action = some after) : after.Accounted := by
  obtain ⟨session, moved, same⟩ := Option.map_eq_some_iff.mp taken
  subst same
  unfold Accounted
  dsimp only
  cases action with
  | stop =>
      cases moved
      rw [State.recording_stop]
      exact accounted.halt .session
  | stopRecording =>
      cases moved
      rw [State.recording_stopRecording]
      simp only [Devices.next]
      split
      · exact accounted.halt .recording
      · rename_i idle
        exact accounted.request (Bool.eq_false_iff.mpr idle)
  | startRecording =>
      cases moved
      exact accounted.start
  | microphone stream =>
      simp only [AdminSpa.step] at moved
      split at moved
      · rename_i awaited
        cases moved
        cases stream with
        | none => exact accounted.refuse awaited
        | some stream => exact accounted.acquire inTime awaited stream
      · cases moved
  | worklet worklet =>
      simp only [AdminSpa.step] at moved
      split at moved
      · rename_i awaited
        cases moved
        cases worklet with
        | none => exact accounted.detach
        | some worklet => exact accounted.attach awaited inTime worklet
      · cases moved
  | workletStopped index =>
      obtain ⟨pending, waited, finished⟩ := Option.map_eq_some_iff.mp moved
      subst finished
      rw [State.recording_finish]
      obtain ⟨bound, -⟩ := List.getElem?_eq_some_iff.mp waited
      have inside : index < tracked.devices.stopping.length := accounted.waiting.symm ▸ bound
      have stopping := List.getElem?_eq_getElem inside
      simp only [Devices.next, stopping]
      exact accounted.workletStopped stopping
  | start _ _ | captured _ _ _ | opened _ | message _ _ _ | transportError _ | closed _
  | spawnPing _ | catchup _ _ | spawnStall =>
      rw [recording_of_leavesRecorder (by trivial) moved,
        Devices.next_of_leavesRecorder (by trivial)]
      exact accounted

variable {actions : List (Action π)} {final : Tracked π}

/-- **A stop wins** in every run in which no worklet starts after a stop and no microphone is
acquired over a stream that the recorder still holds. -/
theorem stop_wins
    (inTime : Meets (step numberText) (fun _ tracked action => tracked.InTime action) []
      (initial : Tracked π) actions)
    (run : execute (step numberText) (initial : Tracked π) actions = some final) :
    final.StopWins := by
  have start : (initial : Tracked π).Accounted := AdminSpa.Accounted.initial
  have kept : ∀ (_ : List (Action π)) (before : Tracked π) action after, before.Accounted →
      before.InTime action → step numberText before action = some after → after.Accounted :=
    fun _ _ _ _ accounted timely taken => accounted.step timely taken
  have accounted : final.Accounted := execute_invariant start kept inTime run
  intro asked settled
  exact accounted.released_of_settled asked settled.1 settled.2

/-! ## A recording that is stopped, and one that is stopped too early -/

/-- `stop()` while the session records. -/
def stopWhileRecording : List (Action Unit) :=
  [.startRecording, .microphone (some 0), .worklet (some 1), .stop, .workletStopped 0]

theorem stopWhileRecording_releases :
    ∃ final ∈ execute (step sampleNumberText) initial stopWhileRecording,
      final.devices.stopRequested = true ∧ final.Settled ∧ final.Released := by
  have inTime : Meets (step sampleNumberText) (fun _ tracked action => tracked.InTime action) []
      (initial : Tracked Unit) stopWhileRecording :=
    .cons trivial rfl (.cons rfl rfl (.cons rfl rfl (.cons trivial rfl (.cons trivial rfl trivial))))
  exact ⟨_, rfl, rfl, ⟨rfl, rfl⟩, stop_wins inTime rfl rfl ⟨rfl, rfl⟩⟩

/-- `stop()` while the browser asks for the microphone. -/
def stopWhileAcquiring : List (Action Unit) :=
  [.startRecording, .stop, .microphone (some 0), .worklet (some 1)]

/-- The session records although it has been stopped. -/
theorem stopWhileAcquiring_records :
    ∃ final ∈ execute (step sampleNumberText) initial stopWhileAcquiring,
      ¬ final.StopWins ∧ final.devices = ⟨[0], [1], [], true⟩ ∧
        final.session.recorder.isRecording = true := by
  refine ⟨_, rfl, ?_, rfl, rfl⟩
  intro wins
  obtain ⟨released, -⟩ := wins rfl ⟨rfl, rfl⟩
  cases released

end Tracked

end Panakoes.AdminSpa
