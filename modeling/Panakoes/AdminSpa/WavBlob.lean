import Panakoes.AdminSpa.TerminalStatus
import Panakoes.Foundation.Riff

/-! # The recording as a file

`getRecordedBlob` puts the frames that the session has kept behind a WAV header. The header is written
field by field into a buffer. The session keeps each frame that is captured, whatever the status is,
until the next `start()` that takes effect.
-/

namespace Panakoes.AdminSpa

open Transition Riff

/-! ## The file -/

/-- `PCM_SAMPLE_RATE`. -/
def pcmSampleRate : ℕ := 16000

/-- `PCM_BITS_PER_SAMPLE`. -/
def pcmBitsPerSample : ℕ := 16

/-- `PCM_CHANNELS`. -/
def pcmChannels : ℕ := 1

/-- What is written into a view from an offset on. -/
def setBytes (view : List UInt8) (offset : ℕ) (bytes : List UInt8) : List UInt8 :=
  view.take offset ++ bytes ++ view.drop (offset + bytes.length)

/-- `view.setUint16(offset, value, true)`. -/
def setUint16 (view : List UInt8) (offset value : ℕ) : List UInt8 :=
  setBytes view offset (littleEndian 2 value)

/-- `view.setUint32(offset, value, true)`. -/
def setUint32 (view : List UInt8) (offset value : ℕ) : List UInt8 :=
  setBytes view offset (littleEndian 4 value)

/-- `writeAscii`. -/
def writeAscii (view : List UInt8) (offset : ℕ) (value : String) : List UInt8 :=
  setBytes view offset (ascii value)

/-- `buildWavBlob`. -/
def buildWavBlob (pcm : List UInt8) (sampleRate channels bitsPerSample : ℕ) : List UInt8 :=
  let byteRate := sampleRate * channels * bitsPerSample / 8
  let blockAlign := channels * bitsPerSample / 8
  let dataSize := pcm.length
  let view := List.replicate 44 0
  let view := writeAscii view 0 "RIFF"
  let view := setUint32 view 4 (36 + dataSize)
  let view := writeAscii view 8 "WAVE"
  let view := writeAscii view 12 "fmt "
  let view := setUint32 view 16 16
  let view := setUint16 view 20 1
  let view := setUint16 view 22 channels
  let view := setUint32 view 24 sampleRate
  let view := setUint32 view 28 byteRate
  let view := setUint16 view 32 blockAlign
  let view := setUint16 view 34 bitsPerSample
  let view := writeAscii view 36 "data"
  let view := setUint32 view 40 dataSize
  view ++ pcm

variable {π : Type*}

/-- `getRecordedBlob`, when a frame has these bytes. -/
def State.getRecordedBlob (bytes : π → List UInt8) (state : State π) : Option (List UInt8) :=
  if state.recordedPcm = [] then none
  else
    some (buildWavBlob (state.recordedPcm.flatMap bytes) pcmSampleRate pcmChannels pcmBitsPerSample)

/-- What is told by a file of the recorder. -/
def recording (pcm : List UInt8) : Wav where
  audioFormat := 1
  channels := 1
  sampleRate := 16000
  byteRate := 32000
  blockAlign := 2
  bitsPerSample := 16
  data := pcm

/-- Writes that adjoin each other from a place on. -/
def Adjoining : ℕ → List (ℕ × List UInt8) → Prop
  | _, [] => True
  | start, (offset, bytes) :: rest => offset = start ∧ Adjoining (start + bytes.length) rest

/-- Writes that fill what is left of a view put their bytes one after the other. -/
theorem foldl_setBytes {writes : List (ℕ × List UInt8)} {written : List UInt8} {room : ℕ}
    (adjoining : Adjoining written.length writes)
    (filled : (writes.flatMap Prod.snd).length = room) :
    writes.foldl (fun view write => setBytes view write.1 write.2)
      (written ++ List.replicate room 0) = written ++ writes.flatMap Prod.snd := by
  induction writes generalizing written room with
  | nil =>
      rw [← filled]
      rfl
  | cons write rest ih =>
      obtain ⟨offset, bytes⟩ := write
      obtain ⟨rfl, next⟩ := adjoining
      rw [List.flatMap_cons, List.length_append] at filled
      subst filled
      have here : setBytes (written ++ List.replicate
          (bytes.length + (rest.flatMap Prod.snd).length) 0) written.length bytes =
          (written ++ bytes) ++ List.replicate (rest.flatMap Prod.snd).length 0 := by
        rw [setBytes, List.take_left, ← List.drop_drop, List.drop_left, List.drop_replicate,
          Nat.add_sub_cancel_left]
      rw [← List.length_append] at next
      rw [List.foldl_cons, here, ih next rfl, List.flatMap_cons, List.append_assoc]

/-- The writes of the header. -/
def headerWrites (dataSize : ℕ) : List (ℕ × List UInt8) :=
  [(0, ascii "RIFF"), (4, littleEndian 4 (36 + dataSize)), (8, ascii "WAVE"), (12, ascii "fmt "),
    (16, littleEndian 4 16), (20, littleEndian 2 1), (22, littleEndian 2 1),
    (24, littleEndian 4 16000), (28, littleEndian 4 32000), (32, littleEndian 2 2),
    (34, littleEndian 2 16), (36, ascii "data"), (40, littleEndian 4 dataSize)]

theorem length_names : (ascii "RIFF").length = 4 ∧ (ascii "WAVE").length = 4 ∧
    (ascii "fmt ").length = 4 ∧ (ascii "data").length = 4 := by
  decide

theorem adjoining_headerWrites (dataSize : ℕ) : Adjoining 0 (headerWrites dataSize) := by
  simp only [headerWrites, Adjoining, length_littleEndian, length_names, and_self, Nat.reduceAdd]

theorem length_headerWrites (dataSize : ℕ) :
    ((headerWrites dataSize).flatMap Prod.snd).length = 44 := by
  simp only [headerWrites, List.flatMap_cons, List.flatMap_nil, List.length_append,
    length_littleEndian, length_names, List.length_nil, Nat.reduceAdd]

/-- The header is the fields that are written, one after the other. -/
theorem buildWavBlob_eq_header (pcm : List UInt8) :
    buildWavBlob pcm pcmSampleRate pcmChannels pcmBitsPerSample =
      (headerWrites pcm.length).flatMap Prod.snd ++ pcm := by
  have header : (headerWrites pcm.length).foldl (fun view write => setBytes view write.1 write.2)
      (List.replicate 44 0) = (headerWrites pcm.length).flatMap Prod.snd :=
    @foldl_setBytes _ [] 44 (adjoining_headerWrites _) (length_headerWrites _)
  have byteRate : pcmSampleRate * pcmChannels * pcmBitsPerSample / 8 = 32000 := rfl
  have blockAlign : pcmChannels * pcmBitsPerSample / 8 = 2 := rfl
  rw [← header]
  simp only [buildWavBlob, headerWrites, setUint32, setUint16, writeAscii, List.foldl_cons,
    List.foldl_nil, byteRate, blockAlign]
  rw [pcmSampleRate, pcmChannels, pcmBitsPerSample]

/-- The fields stand where a file of a format chunk and a data chunk has them. -/
theorem buildWavBlob_eq (pcm : List UInt8) :
    buildWavBlob pcm pcmSampleRate pcmChannels pcmBitsPerSample = writeWav (recording pcm) := by
  have body : (ascii "WAVE" ++ (encode (ascii "fmt ") (formatBody (recording pcm)) ++
      encode (ascii "data") (recording pcm).data)).length = 36 + pcm.length := by
    simp only [List.length_append, encode, length_littleEndian, length_formatBody, recording,
      length_names]
    omega
  have format : (formatBody (recording pcm)).length = 16 := length_formatBody _
  rw [buildWavBlob_eq_header, writeWav, encode, body]
  simp only [headerWrites, encode, format]
  simp only [formatBody, recording, List.flatMap_cons, List.flatMap_nil, List.append_assoc,
    List.nil_append]

/-- The data follows 44 bytes. -/
theorem length_buildWavBlob (pcm : List UInt8) :
    (buildWavBlob pcm pcmSampleRate pcmChannels pcmBitsPerSample).length = 44 + pcm.length := by
  rw [buildWavBlob_eq_header, List.length_append, length_headerWrites]

/-- The file is read back while its size fits into its field. -/
theorem readWav_buildWavBlob {pcm : List UInt8} (fits : 36 + pcm.length < 2 ^ 32) :
    readWav (buildWavBlob pcm pcmSampleRate pcmChannels pcmBitsPerSample) = some (recording pcm) := by
  rw [buildWavBlob_eq]
  apply readWav_writeWav
  constructor
  case data => exact fits
  all_goals simp [recording]

/-! ## What is kept -/

/-- The frame of a capture. -/
def Action.frames : Action π → List π
  | .captured pcm _ _ => [pcm]
  | .start _ _ | .stop | .startRecording | .microphone _ | .worklet _ | .stopRecording
  | .workletStopped _ | .opened _ | .message _ _ _ | .transportError _ | .closed _ | .spawnPing _
  | .catchup _ _ | .spawnStall => []

/-- The step does not start the session anew. -/
def GoesOn (_past : List (Action π)) (state : State π) (action : Action π) : Prop :=
  action.IsStart → ¬ state.status.Startable

variable {numberText : ℚ → String} {state next final : State π} {action : Action π}

theorem setStatus_recordedPcm (status : StreamStatus) :
    (state.setStatus status).recordedPcm = state.recordedPcm := by
  obtain ⟨_, changed⟩ := state.setStatus_eq status
  rw [changed]

theorem setEnded_recordedPcm : state.setEnded.recordedPcm = state.recordedPcm := by
  unfold State.setEnded
  split
  · rfl
  · exact setStatus_recordedPcm _

theorem transmitFrame_recordedPcm (pcm : π) (now : ℚ) (throws : Bool) :
    (state.transmitFrame pcm now throws).recordedPcm = state.recordedPcm := by
  obtain ⟨_, _, changed⟩ := transmitFrame_eq state pcm now throws
  rw [changed]

theorem send_recordedPcm (message : Sent π) (throws : Bool) :
    (state.send message throws).recordedPcm = state.recordedPcm := by
  unfold State.send
  split
  · rfl
  · rfl

/-- A frame is kept whatever the status is. -/
theorem handleFrame_recordedPcm (pcm : π) (now : ℚ) (throws : Bool) :
    (state.handleFrame pcm now throws).recordedPcm = state.recordedPcm ++ [pcm] := by
  unfold State.handleFrame
  dsimp only
  split
  case h_4 => exact transmitFrame_recordedPcm pcm now throws
  all_goals rfl

theorem catchup_recordedPcm (now : ℚ) (throws : Bool) :
    (state.catchup now throws).recordedPcm = state.recordedPcm := by
  unfold State.catchup
  split
  · dsimp only
    split
    · exact setStatus_recordedPcm _
    · rfl
  · exact transmitFrame_recordedPcm _ now throws

theorem onReady_recordedPcm : state.onReady.recordedPcm = state.recordedPcm := by
  unfold State.onReady
  split
  · rfl
  · dsimp only
    split
    · exact setStatus_recordedPcm _
    · exact setStatus_recordedPcm _

/-- No message changes what is kept. -/
theorem handleMessage_recordedPcm (data : Option PyJson) (throws : Bool) :
    (state.handleMessage numberText data throws).recordedPcm = state.recordedPcm := by
  obtain ⟨stall, reset⟩ := state.resetStallWatchdog_eq
  unfold State.handleMessage
  rw [reset]
  split
  · rename_i fields
    unfold State.dispatch
    split
    · exact onReady_recordedPcm
    · rfl
    · rfl
    · obtain ⟨_, _, changed⟩ := State.bufferChunk_eq { state with spawnStallTimer := stall } fields
      rw [changed]
    · obtain ⟨_, _, _, changed⟩ :=
        State.assembleFinalChunks_eq numberText { state with spawnStallTimer := stall }
      rw [changed, setStatus_recordedPcm]
    · exact setStatus_recordedPcm _
    · unfold State.sendPingEcho
      split
      · exact send_recordedPcm _ throws
      · rfl
    · rfl
  · rfl

theorem finishStop_recordedPcm : state.finishStop.recordedPcm = state.recordedPcm :=
  setEnded_recordedPcm

/-- A step that does not start the session anew keeps what has been kept, with the frame that it
captures. -/
theorem step_recordedPcm {past : List (Action π)} (goesOn : GoesOn past state action)
    (taken : step numberText state action = some next) :
    next.recordedPcm = state.recordedPcm ++ action.frames := by
  unfold step at taken
  cases action with
  | start opens now =>
      cases taken
      rw [State.start, if_neg (goesOn trivial), Action.frames, List.append_nil]
  | stop =>
      cases taken
      rw [Action.frames, List.append_nil]
      unfold State.stop
      dsimp only
      split
      · exact finishStop_recordedPcm
      · rfl
  | startRecording =>
      cases taken
      exact (List.append_nil _).symm
  | microphone stream =>
      obtain ⟨_, answered⟩ := Option.ite_none_right_eq_some.mp taken
      cases answered
      exact (List.append_nil _).symm
  | worklet worklet =>
      obtain ⟨_, answered⟩ := Option.ite_none_right_eq_some.mp taken
      cases answered
      exact (List.append_nil _).symm
  | stopRecording =>
      cases taken
      rw [Action.frames, List.append_nil]
      unfold State.stopRecording
      split
      · split
        · rfl
        · rfl
      · rfl
  | workletStopped index =>
      obtain ⟨pending, _, rfl⟩ := Option.map_eq_some_iff.mp taken
      rw [Action.frames, List.append_nil]
      cases pending with
      | session => exact finishStop_recordedPcm
      | recording => rfl
  | captured pcm now throws =>
      cases taken
      exact handleFrame_recordedPcm pcm now throws
  | opened socket =>
      obtain ⟨_, opened⟩ := Option.ite_none_right_eq_some.mp taken
      cases opened
      obtain ⟨_, _, changed⟩ := state.setSocket_eq .opened socket
      rw [changed, State.onOpen, State.armSpawnPing, setStatus_recordedPcm, Action.frames,
        List.append_nil]
  | message socket data throws =>
      obtain ⟨_, heard⟩ := Option.ite_none_right_eq_some.mp taken
      cases heard
      rw [handleMessage_recordedPcm, Action.frames, List.append_nil]
  | transportError socket =>
      obtain ⟨_, same⟩ := Option.ite_none_left_eq_some.mp taken
      cases same
      exact (List.append_nil _).symm
  | closed socket =>
      obtain ⟨_, closed⟩ := Option.ite_none_left_eq_some.mp taken
      cases closed
      obtain ⟨_, _, changed⟩ := state.setSocket_eq .closed socket
      rw [changed, State.handleClose, setEnded_recordedPcm, Action.frames, List.append_nil]
      rfl
  | spawnPing throws =>
      obtain ⟨_, pinged⟩ := Option.ite_none_right_eq_some.mp taken
      cases pinged
      rw [Action.frames, List.append_nil]
      unfold State.sendPing
      split
      · exact send_recordedPcm _ throws
      · rfl
  | catchup now throws =>
      obtain ⟨_, ticked⟩ := Option.ite_none_right_eq_some.mp taken
      cases ticked
      rw [catchup_recordedPcm, Action.frames, List.append_nil]
  | spawnStall =>
      obtain ⟨_, fired⟩ := Option.ite_none_right_eq_some.mp taken
      cases fired
      exact (List.append_nil _).symm

/-- A run that does not start the session anew keeps all frames that it captures, in order. -/
theorem execute_recordedPcm {past actions : List (Action π)}
    (goesOn : Meets (step numberText) GoesOn past state actions)
    (run : execute (step numberText) state actions = some final) :
    final.recordedPcm = state.recordedPcm ++ actions.flatMap Action.frames := by
  induction actions generalizing past state with
  | nil =>
      cases run
      exact (List.append_nil _).symm
  | cons action rest ih =>
      obtain ⟨next, taken, run⟩ := Option.bind_eq_some_iff.mp run
      obtain ⟨here, later⟩ := goesOn
      rw [ih (later next taken) run, step_recordedPcm here taken, List.append_assoc,
        List.flatMap_cons]

/-- A start that takes effect keeps nothing of what was kept. -/
theorem start_recordedPcm {opens : Bool} {now : ℚ} (startable : state.status.Startable) :
    (state.start opens now).recordedPcm = [] := by
  rw [State.start, if_pos startable]
  cases opens with
  | true => rfl
  | false => exact setStatus_recordedPcm _

/-- **The file is the recording.** After a start that takes effect there is a file exactly when a
frame has been captured since. While its size fits into its field, whoever reads it finds one
channel of 16000 samples a second, and all frames that were captured since the start, in order and
whatever the socket, the server and the timers have done. -/
theorem readWav_getRecordedBlob {bytes : π → List UInt8} {opens : Bool} {now : ℚ}
    {past actions : List (Action π)} (startable : state.status.Startable)
    (goesOn : Meets (step numberText) GoesOn past (state.start opens now) actions)
    (run : execute (step numberText) state (.start opens now :: actions) = some final) :
    (final.getRecordedBlob bytes = none ↔ actions.flatMap Action.frames = []) ∧
      ∀ blob ∈ final.getRecordedBlob bytes, blob.length < 2 ^ 32 + 8 →
        readWav blob = some (recording ((actions.flatMap Action.frames).flatMap bytes)) := by
  have kept : final.recordedPcm = actions.flatMap Action.frames := by
    rw [execute_recordedPcm goesOn run, start_recordedPcm startable, List.nil_append]
  unfold State.getRecordedBlob
  rw [kept]
  constructor
  · constructor
    · intro absent
      by_contra present
      rw [if_neg present] at absent
      cases absent
    · exact fun absent => if_pos absent
  · intro blob held small
    obtain ⟨_, built⟩ := Option.ite_none_left_eq_some.mp held
    rw [← Option.some.inj built, length_buildWavBlob] at small
    rw [← Option.some.inj built]
    exact readWav_buildWavBlob (by omega)

instance (past : List (Action π)) (state : State π) : DecidablePred (GoesOn past state) :=
  fun action => inferInstanceAs (Decidable (action.IsStart → ¬ _))

/-- A frame is captured before a second start, which is ignored, and another one when the session
is over. -/
def recordedSession : List (Action (List UInt8)) :=
  [.opened none, .message none (plainMessage "ready") false, .captured [1, 0] 0 false,
    .start true 5, .stop, .captured [2, 0] 9 false]

theorem readWav_getRecordedBlob_session :
    ∃ final blob, execute (step sampleNumberText) State.initial (.start true 0 :: recordedSession) =
        some final ∧ final.getRecordedBlob id = some blob ∧
      readWav blob = some (recording [1, 0, 2, 0]) := by
  obtain ⟨final, run, length⟩ := Option.map_eq_some_iff.mp
    (show (execute (step sampleNumberText) State.initial (.start true 0 :: recordedSession)).map
      (fun final => (final.getRecordedBlob id).map List.length) = some (some 48) by decide +kernel)
  have goesOn : Meets (step sampleNumberText) GoesOn [] (State.initial.start true 0)
      recordedSession := by
    decide +kernel
  obtain ⟨-, read⟩ := readWav_getRecordedBlob (Or.inl rfl) goesOn run
  obtain ⟨blob, held, long⟩ := Option.map_eq_some_iff.mp length
  exact ⟨final, blob, run, held, read blob held (by omega)⟩

end Panakoes.AdminSpa
