import Panakoes.AdminSpa.PageOwnership

/-! # The end of a file session

The timer that ends a file session once its frames have been transcribed. The page is either
idle, as far as files go, or transcribes the file of the session that its variable holds, as
long as nothing replaces that session and no session goes on that was over.
-/

namespace Panakoes.AdminSpa.RealtimePage

open Transition

variable {π : Type*} {numberText : ℚ → String}

/-! ## The session of a file -/

/-- The source of the session does not tick. -/
def Created.Calm (session : Created π) : Prop := ∀ source ∈ session.source, source.ticking = false

/-- Every frame of the file has been passed to `transmitFrame`, in order. -/
def Created.Delivered (session : Created π) (source : Source π) : Prop :=
  source.completed = true ∧ session.transmitted = source.frames ∧ session.impl.pendingFrames = []

/-- The session of a file that has not been stopped: as long as it is not over, the frames that
its source has emitted are transmitted or pending, in order. -/
structure Created.Streaming (session : Created π) (source : Source π) : Prop where
  starting : session.impl.recorder.starting = none
  stops : session.impl.stops = []
  attached : source.ticking = true → session.impl.recorder.worklet.isSome
  started : session.impl.status ≠ .idle
  ordered : ¬ session.impl.status.Terminal →
    session.transmitted ++ session.impl.pendingFrames = source.frames.take source.index
  direct : session.impl.status = .transcribing → session.impl.pendingFrames = []
  completed : source.completed = true →
    source.ticking = false ∧ source.frames.length ≤ source.index

section

variable {session : Created π} {source : Source π}

/-- A complete file is delivered as soon as its session transcribes. -/
theorem Created.Streaming.delivered (streaming : session.Streaming source)
    (completed : source.completed = true) (transcribing : session.impl.status = .transcribing) :
    session.Delivered source := by
  have pending := streaming.direct transcribing
  have active : ¬ session.impl.status.Terminal := by
    rw [transcribing]
    decide
  have ordered := streaming.ordered active
  rw [pending, List.append_nil, List.take_of_length_le (streaming.completed completed).2] at ordered
  exact ⟨completed, ordered, pending⟩

theorem cancelled_calm (calm : session.Calm) :
    ∀ source ∈ session.cancelled, source.ticking = false := by
  unfold Created.cancelled
  split
  · exact calm
  · intro source found
    obtain ⟨before, -, rfl⟩ := Option.map_eq_some_iff.mp found
    rfl

/-- What `transmitFrame` leaves. -/
theorem transmitFrame_pendingFrames (state : State π) (pcm : π) (now : ℚ) (throws : Bool) :
    (state.transmitFrame pcm now throws).pendingFrames = state.pendingFrames := by
  obtain ⟨_, _, changed⟩ := transmitFrame_eq state pcm now throws
  rw [changed]

/-- A frame that is captured is transmitted or becomes pending. -/
theorem handleFrame_ordered (state : State π) (pcm : π) (now : ℚ) (throws : Bool)
    (started : state.status ≠ .idle) (active : ¬ state.status.Terminal)
    (direct : state.status = .transcribing → state.pendingFrames = []) :
    passes state (.captured pcm now throws) ++ (state.handleFrame pcm now throws).pendingFrames =
      state.pendingFrames ++ [pcm] := by
  unfold State.handleFrame passes
  cases status : state.status with
  | idle => exact absurd status started
  | ended => exact absurd (Or.inl status) active
  | failed => exact absurd (Or.inr status) active
  | connecting => rfl
  | spawningGpu => rfl
  | catchingUp => rfl
  | transcribing =>
      dsimp only
      rw [transmitFrame_pendingFrames, direct status]
      rfl

theorem handleFrame_direct (state : State π) (pcm : π) (now : ℚ) (throws : Bool)
    (transcribing : state.status = .transcribing) :
    (state.handleFrame pcm now throws).pendingFrames = state.pendingFrames := by
  unfold State.handleFrame
  simp only [transcribing]
  exact transmitFrame_pendingFrames _ _ _ _

/-- A tick emits the frame at the index. -/
theorem Created.Streaming.tick (streaming : session.Streaming source)
    (ticking : source.ticking = true) {pcm : π} (inside : source.frames[source.index]? = some pcm)
    (now : ℚ) (throws : Bool) :
    (session.tick source pcm now throws).Streaming source.advance := by
  have status : (session.tick source pcm now throws).impl.status = session.impl.status :=
    handleFrame_status session.impl pcm now throws
  have recording : (session.tick source pcm now throws).impl.recording = session.impl.recording :=
    State.recording_handleFrame pcm now throws
  have recorder : (session.tick source pcm now throws).impl.recorder = session.impl.recorder :=
    congrArg Prod.fst recording
  have unfinished : source.completed = false := by
    cases completed : source.completed with
    | false => rfl
    | true => exact absurd ((streaming.completed completed).1.symm.trans ticking) Bool.false_ne_true
  have advanced :
      source.advance.frames = source.frames ∧ source.advance.index = source.index + 1 := by
    unfold Source.advance
    dsimp only
    split <;> exact ⟨rfl, rfl⟩
  refine ⟨?_, ?_, ?_, ?_, ?_, ?_, ?_⟩
  · rw [recorder]
    exact streaming.starting
  · rw [stops_of_recording recording]
    exact streaming.stops
  · intro _
    rw [recorder]
    exact streaming.attached ticking
  · rw [status]
    exact streaming.started
  · intro active
    rw [status] at active
    rw [advanced.1, advanced.2]
    have emitted := handleFrame_ordered session.impl pcm now throws streaming.started active
      streaming.direct
    calc (session.transmitted ++ passes session.impl (.captured pcm now throws)) ++
          (session.impl.handleFrame pcm now throws).pendingFrames
        = (session.transmitted ++ session.impl.pendingFrames) ++ [pcm] := by
          rw [List.append_assoc, emitted, List.append_assoc]
      _ = source.frames.take source.index ++ [pcm] := by rw [streaming.ordered active]
      _ = source.frames.take (source.index + 1) := by
          rw [List.take_add_one, inside]
          rfl
  · intro transcribing
    rw [status] at transcribing
    exact (handleFrame_direct session.impl pcm now throws transcribing).trans
      (streaming.direct transcribing)
  · unfold Source.advance
    dsimp only
    split
    · rename_i past
      exact fun _ => ⟨rfl, past⟩
    · intro completed
      exact absurd (unfinished.symm.trans completed) Bool.false_ne_true

/-- What an event leaves of a session that streams: it has not become idle, and it transcribes
only if nothing is pending. -/
structure Follows (state next : State π) : Prop where
  started : state.status ≠ .idle → next.status ≠ .idle
  direct : (state.status = .transcribing → state.pendingFrames = []) →
    next.status = .transcribing → next.pendingFrames = []

theorem Follows.of_same {state next : State π} (status : next.status = state.status)
    (pending : next.pendingFrames = state.pendingFrames) : Follows state next where
  started := fun started => status ▸ started
  direct := fun direct transcribing => pending.trans (direct (status ▸ transcribing))

theorem Follows.of_status {state next : State π} (waits : next.status ≠ .idle)
    (elsewhere : next.status ≠ .transcribing) : Follows state next where
  started := fun _ => waits
  direct := fun _ transcribing => absurd transcribing elsewhere

theorem setStatus_pendingFrames (state : State π) (status : StreamStatus) :
    (state.setStatus status).pendingFrames = state.pendingFrames := by
  obtain ⟨_, changed⟩ := state.setStatus_eq status
  rw [changed]

theorem onReady_follows (state : State π) :
    state.onReady.pendingFrames = state.pendingFrames ∧ Follows state state.onReady := by
  unfold State.onReady
  split
  · exact ⟨rfl, .of_same rfl rfl⟩
  · dsimp only
    split
    · rename_i nothing
      refine ⟨setStatus_pendingFrames _ _, ?_, ?_⟩
      · intro _
        rw [State.setStatus_status]
        decide
      · intro _ _
        rw [setStatus_pendingFrames]
        exact nothing
    · refine ⟨setStatus_pendingFrames _ _, .of_status ?_ ?_⟩
      · rw [State.armCatchupTimer, State.setStatus_status]
        decide
      · rw [State.armCatchupTimer, State.setStatus_status]
        decide

theorem dispatch_follows (state : State π) (fields : List (String × PyJson)) (throws : Bool) :
    (state.dispatch numberText fields throws).pendingFrames = state.pendingFrames ∧
      Follows state (state.dispatch numberText fields throws) := by
  unfold State.dispatch
  split
  · exact onReady_follows state
  · exact ⟨rfl, .of_same rfl rfl⟩
  · exact ⟨rfl, .of_same rfl rfl⟩
  · obtain ⟨_, _, changed⟩ := state.bufferChunk_eq fields
    rw [changed]
    exact ⟨rfl, .of_same rfl rfl⟩
  · obtain ⟨_, _, _, changed⟩ := state.assembleFinalChunks_eq numberText
    rw [changed]
    refine ⟨setStatus_pendingFrames _ _, .of_status ?_ ?_⟩
    · rw [State.setStatus_status]
      decide
    · rw [State.setStatus_status]
      decide
  · refine ⟨setStatus_pendingFrames _ _, .of_status ?_ ?_⟩
    · rw [State.setStatus_status]
      decide
    · rw [State.setStatus_status]
      decide
  · unfold State.sendPingEcho State.send
    split
    · split <;> exact ⟨rfl, .of_same rfl rfl⟩
    · exact ⟨rfl, .of_same rfl rfl⟩
  · exact ⟨rfl, .of_same rfl rfl⟩

theorem handleMessage_follows (state : State π) (data : Option PyJson) (throws : Bool) :
    (state.handleMessage numberText data throws).pendingFrames = state.pendingFrames ∧
      Follows state (state.handleMessage numberText data throws) := by
  obtain ⟨_, reset⟩ := state.resetStallWatchdog_eq
  unfold State.handleMessage
  rw [reset]
  split
  · obtain ⟨pending, follows⟩ := dispatch_follows { state with spawnStallTimer := _ } _ throws
    exact ⟨pending, follows.started, follows.direct⟩
  · exact ⟨rfl, .of_same rfl rfl⟩

theorem handleClose_follows (state : State π) :
    state.handleClose.pendingFrames = state.pendingFrames ∧ Follows state state.handleClose := by
  unfold State.handleClose State.setEnded
  split
  · exact ⟨rfl, .of_same rfl rfl⟩
  · refine ⟨setStatus_pendingFrames _ _, .of_status ?_ ?_⟩
    · rw [State.setStatus_status]
      decide
    · rw [State.setStatus_status]
      decide

/-- A catch-up interval transmits the first pending frame, or ends the catching up. -/
theorem catchup_follows (state : State π) (now : ℚ) (throws : Bool) :
    passes state (.catchup now throws) ++ (state.catchup now throws).pendingFrames =
        state.pendingFrames ∧
      Follows state (state.catchup now throws) := by
  unfold State.catchup
  split
  · rename_i nothing
    have passesNone : passes state (.catchup now throws) = [] := by
      unfold passes
      rw [nothing]
      rfl
    rw [passesNone, List.nil_append]
    dsimp only
    split
    · refine ⟨setStatus_pendingFrames _ _, ?_, ?_⟩
      · intro _
        rw [State.setStatus_status]
        decide
      · intro _ _
        rw [setStatus_pendingFrames]
        exact nothing
    · exact ⟨rfl, .of_same rfl rfl⟩
  · rename_i frame rest pending
    have passesOne : passes state (.catchup now throws) = [frame] := by
      unfold passes
      rw [pending]
      rfl
    obtain ⟨_, _, changed⟩ :=
      transmitFrame_eq { state with pendingFrames := rest } frame now throws
    rw [passesOne, changed, pending]
    refine ⟨rfl, id, ?_⟩
    intro direct transcribing
    rw [pending] at direct
    exact absurd (direct transcribing) (List.cons_ne_nil frame rest)

/-- Events that leave the recorder alone keep the frames in order. -/
theorem follows_of_step {state next : State π} {event : AdminSpa.Action π}
    (fromBrowser : FromBrowser session event) (file : session.source = some source)
    (leaves : event.LeavesRecorder) (taken : AdminSpa.step numberText state event = some next) :
    passes state event ++ next.pendingFrames = state.pendingFrames ∧ Follows state next := by
  cases event with
  | start _ _ | stop | startRecording | stopRecording => exact fromBrowser.elim
  | microphone _ | worklet _ | workletStopped _ => exact leaves.elim
  | captured _ _ _ => cases fromBrowser.symm.trans file
  | opened socket =>
      simp only [AdminSpa.step] at taken
      split at taken
      · cases taken
        obtain ⟨_, _, changed⟩ := state.setSocket_eq .opened socket
        rw [changed]
        refine ⟨setStatus_pendingFrames _ _, .of_status ?_ ?_⟩
        · rw [State.onOpen, State.armSpawnPing, State.setStatus_status]
          decide
        · rw [State.onOpen, State.armSpawnPing, State.setStatus_status]
          decide
      · cases taken
  | message socket data throws =>
      simp only [AdminSpa.step] at taken
      split at taken
      · cases taken
        obtain ⟨pending, follows⟩ :=
          handleMessage_follows { state with serverReady := _ } data throws
        exact ⟨pending, follows.started, follows.direct⟩
      · cases taken
  | transportError socket =>
      simp only [AdminSpa.step] at taken
      split at taken
      · cases taken
      · cases taken
        exact ⟨rfl, .of_same rfl rfl⟩
  | closed socket =>
      simp only [AdminSpa.step] at taken
      split at taken
      · cases taken
      · cases taken
        obtain ⟨_, _, changed⟩ := state.setSocket_eq .closed socket
        rw [changed]
        obtain ⟨pending, follows⟩ := handleClose_follows { state with ws := _, others := _ }
        exact ⟨pending, follows.started, follows.direct⟩
  | spawnPing throws =>
      simp only [AdminSpa.step] at taken
      split at taken
      · cases taken
        unfold State.sendPing State.send
        split
        · split <;> exact ⟨rfl, .of_same rfl rfl⟩
        · exact ⟨rfl, .of_same rfl rfl⟩
      · cases taken
  | catchup now throws =>
      simp only [AdminSpa.step] at taken
      split at taken
      · cases taken
        exact catchup_follows state now throws
      · cases taken
  | spawnStall =>
      simp only [AdminSpa.step] at taken
      split at taken
      · cases taken
        exact ⟨rfl, .of_same rfl rfl⟩
      · cases taken

/-- The recorder of a session that streams a file waits for nothing. -/
theorem Created.Streaming.leavesRecorder (streaming : session.Streaming source)
    {event : AdminSpa.Action π} (fromBrowser : FromBrowser session event) {next : State π}
    (taken : AdminSpa.step numberText session.impl event = some next) : event.LeavesRecorder := by
  cases event with
  | start _ _ | stop | startRecording | stopRecording => exact fromBrowser.elim
  | microphone stream =>
      simp only [AdminSpa.step, streaming.starting, reduceCtorEq, ↓reduceIte] at taken
  | worklet worklet =>
      simp only [AdminSpa.step, streaming.starting, reduceCtorEq, ↓reduceIte] at taken
  | workletStopped index =>
      simp only [AdminSpa.step, streaming.stops, List.getElem?_nil, Option.map_none,
        reduceCtorEq] at taken
  | _ => trivial

/-- An event that does not make it go on once it is over keeps the frames in order. -/
theorem Created.Streaming.receive (streaming : session.Streaming source)
    (file : session.source = some source) {event : AdminSpa.Action π}
    (fromBrowser : FromBrowser session event) (unrevived : ¬ Revives session.impl event)
    {next : State π} (taken : AdminSpa.step numberText session.impl event = some next) :
    (session.receive event next).Streaming source := by
  have leaves := streaming.leavesRecorder fromBrowser taken
  have recording := recording_of_leavesRecorder leaves taken
  have recorder : next.recorder = session.impl.recorder := congrArg Prod.fst recording
  obtain ⟨frames, follows⟩ := follows_of_step fromBrowser file leaves taken
  refine ⟨?_, ?_, ?_, follows.started streaming.started, ?_, follows.direct streaming.direct,
    streaming.completed⟩
  · exact recorder ▸ streaming.starting
  · exact (stops_of_recording recording).trans streaming.stops
  · exact recorder ▸ streaming.attached
  · intro active
    have before : ¬ session.impl.status.Terminal :=
      fun finished => active ((terminal_iff_of_step fromBrowser finished taken).mpr unrevived)
    calc (session.transmitted ++ passes session.impl event) ++ next.pendingFrames
        = session.transmitted ++ session.impl.pendingFrames := by rw [List.append_assoc, frames]
      _ = source.frames.take source.index := streaming.ordered before

/-- What has been delivered stays so. -/
theorem Created.Delivered.receive (delivered : session.Delivered source)
    (file : session.source = some source) {event : AdminSpa.Action π}
    (fromBrowser : FromBrowser session event) (leaves : event.LeavesRecorder) {next : State π}
    (taken : AdminSpa.step numberText session.impl event = some next) :
    (session.receive event next).Delivered source := by
  obtain ⟨frames, -⟩ := follows_of_step fromBrowser file leaves taken
  obtain ⟨completed, transmitted, pending⟩ := delivered
  rw [pending] at frames
  obtain ⟨none, empty⟩ := List.append_eq_nil_iff.mp frames
  refine ⟨completed, ?_, empty⟩
  have same : (session.receive event next).transmitted =
      session.transmitted ++ passes session.impl event := rfl
  rw [same, none, List.append_nil]
  exact transmitted

end

/-- The session of a file as `transcribeFile` leaves it. -/
def Created.ofFile (frames : List π) (opening : Opening) : Created π :=
  ((Created.fresh (some ⟨frames, 0, false, false⟩)).start opening).startRecording

theorem start_initial (opening : Opening) :
    let state := (State.initial : State π).start opening.opens opening.now
    (state.status = .connecting ∨ state.status = .failed) ∧ state.pendingFrames = [] ∧
      state.recorder = .idle := by
  refine ⟨?_, ?_, congrArg Prod.fst (State.recording_start opening.opens opening.now)⟩
  · cases opening with
    | mk opens now =>
        cases opens with
        | true => exact Or.inl rfl
        | false => exact Or.inr rfl
  · cases opening with
    | mk opens now =>
        cases opens with
        | true => rfl
        | false => rfl

theorem Created.ofFile_eq (frames : List π) (opening : Opening) :
    Created.ofFile frames opening =
      { (Created.fresh (some ⟨frames, 0, false, false⟩)).start opening with
        impl := { State.initial.start opening.opens opening.now with
          recorder := ⟨true, none, some 0, some 0⟩ }
        source := some (Source.begin ⟨frames, 0, false, false⟩) } := by
  cases opening with
  | mk opens now =>
      cases opens with
      | true => rfl
      | false => rfl

/-- The session of a file streams it from the start. -/
theorem Created.streaming_ofFile (frames : List π) (opening : Opening) :
    (Created.ofFile frames opening).Streaming (Source.begin ⟨frames, 0, false, false⟩) := by
  obtain ⟨status, pending, -⟩ := @start_initial π opening
  rw [Created.ofFile_eq]
  refine ⟨rfl, ?_, fun _ => rfl, ?_, fun _ => ?_, fun _ => pending, ?_⟩
  · exact start_stops .initial opening.opens opening.now
  · rcases status with connecting | failed
    · exact connecting ▸ by decide
    · exact failed ▸ by decide
  · exact pending
  · intro empty
    have none : frames.isEmpty = true := empty
    refine ⟨?_, ?_⟩
    · show (!frames.isEmpty) = false
      rw [none]
      rfl
    · rw [Source.begin, List.isEmpty_iff.mp none]
      exact Nat.le_refl 0

/-! ## The page without a file -/

namespace Page

/-- The page has no file session: the timer is off, no source ticks, and the variable holds a
session of the microphone, if any. -/
structure Idle (page : Page π) : Prop where
  inactive : page.fileActive = false
  unarmed : page.fileDrainTimer = none
  calm : page.All Created.Calm
  microphone : ∀ held ∈ page.session, ∀ session ∈ page.created[held]?, session.source = none
  decoding : page.fileDecoding = true → page.fileFramesComplete = false

variable {page : Page π} {index : ℕ} {opening : Opening}

theorem update_of_found {before : Created π} (found : page.created[index]? = some before)
    (change : Created π → Created π) :
    page.update index change =
      if (change before).impl.status = before.impl.status then
        { page with created := page.created.modify index change }
      else
        { page with created := page.created.modify index change }.onStatusChange index
          (change before).impl.status := by
  unfold update
  rw [found]

theorem update_of_missing (missing : page.created[index]? = none)
    (change : Created π → Created π) : page.update index change = page := by
  unfold update
  rw [missing]

/-- A status that does not arm the timer is all that `onStatusChange` notes. -/
theorem onStatusChange_of_not {status : StreamStatus}
    (quiet : ¬ (page.fileActive = true ∧ page.fileFramesComplete = true ∧
      status = .transcribing)) :
    page.onStatusChange index status = { page with status := status } :=
  if_neg quiet

/-- Without a file session a session that changes reports its status, and nothing else happens. -/
theorem update_of_inactive (inactive : page.fileActive = false) (change : Created π → Created π) :
    ∃ created status, page.update index change =
      { page with created := created, status := status } := by
  cases found : page.created[index]? with
  | none => exact ⟨page.created, page.status, update_of_missing found change⟩
  | some before =>
      rw [update_of_found found]
      split
      · exact ⟨_, page.status, rfl⟩
      · refine ⟨_, _, onStatusChange_of_not fun active => ?_⟩
        exact absurd (inactive.symm.trans active.1) Bool.false_ne_true

theorem Idle.update (idle : page.Idle) {change : Created π → Created π}
    (calm : ∀ session ∈ page.created[index]?, session.Calm → (change session).Calm)
    (microphone : ∀ session : Created π, session.source = none → (change session).source = none) :
    (page.update index change).Idle := by
  obtain ⟨created, status, changed⟩ := @update_of_inactive π page index idle.inactive change
  have modified : created = page.created.modify index change := by
    have same := @update_created π page index change
    rwa [changed] at same
  rw [changed]
  refine ⟨idle.inactive, idle.unarmed, ?_, ?_, idle.decoding⟩
  · exact idle.calm.modify modified calm
  · intro held isHeld session found
    dsimp only at found
    rw [modified, List.getElem?_modify] at found
    obtain ⟨before, present, rfl⟩ := Option.map_eq_some_iff.mp found
    have source := idle.microphone held isHeld before present
    split
    · exact microphone before source
    · exact source

/-- The variable is cleared. -/
theorem Idle.clear (idle : page.Idle) : ({ page with session := none } : Page π).Idle where
  inactive := idle.inactive
  unarmed := idle.unarmed
  calm := idle.calm
  microphone := fun _ held => by cases held
  decoding := idle.decoding

theorem Idle.startSession (idle : page.Idle) : (page.startSession opening).Idle := by
  unfold Page.startSession
  split
  · exact idle
  · unfold Page.create
    apply Idle.update
    · refine ⟨idle.inactive, idle.unarmed, ?_, ?_, idle.decoding⟩
      · intro place session found
        rcases List.mem_append.mp (List.mem_of_getElem? found) with earlier | last
        · obtain ⟨before, present⟩ := List.getElem?_of_mem earlier
          exact idle.calm before session present
        · rw [List.mem_singleton.mp last]
          exact fun _ wrong => by cases wrong
      · intro held isHeld session found
        cases isHeld
        have last : session = Created.fresh none := by
          rw [Option.mem_def, List.getElem?_concat_length] at found
          exact (Option.some.inj found).symm
        exact last ▸ rfl
    · exact fun _ _ calm => calm
    · exact fun _ source => source

theorem Idle.startRecording (idle : page.Idle)
    (microphone : ∀ session ∈ page.created[index]?, session.source = none) :
    (page.startRecording index).Idle := by
  unfold Page.startRecording
  have atOnce : (page.created[index]?).any Created.completesAtOnce = false := by
    cases found : page.created[index]? with
    | none => rfl
    | some session =>
        rw [Option.any_some, Created.completesAtOnce, microphone session found]
  simp only [atOnce, Bool.false_eq_true, ↓reduceIte]
  have stays : ∀ session : Created π, session.source = none →
      session.startRecording.source = none := by
    intro session source
    unfold Created.startRecording
    rw [source]
  apply idle.update
  · intro session found _ source fromFile
    rw [stays session (microphone session found)] at fromFile
    cases fromFile
  · exact stays

theorem Idle.startRecordingOf (idle : page.Idle) : page.startRecordingOf.Idle := by
  unfold Page.startRecordingOf
  split
  · exact idle
  · rename_i held isHeld
    exact idle.startRecording (idle.microphone held isHeld)

theorem Idle.resume (idle : page.Idle) (after : AfterStop) : (page.resume after opening).Idle := by
  cases after with
  | nothing => exact idle
  | startSession => exact idle.startSession
  | startRecording => exact idle.startSession.startRecordingOf
  | clearFileActive =>
      exact ⟨rfl, idle.unarmed, idle.calm, idle.microphone, idle.decoding⟩

theorem Idle.stopSession (idle : page.Idle) (after : AfterStop) :
    (page.stopSession after opening).Idle := by
  unfold Page.stopSession
  split
  · exact idle.resume after
  · rename_i held _
    split
    · exact idle.update (fun _ _ calm => calm) fun _ source => source
    · have stopped : (page.update held Created.stopped).Idle := by
        apply idle.update
        · exact fun _ _ calm => cancelled_calm calm
        · intro session source
          simp only [Created.stopped, Created.cancelled]
          split
          · exact source
          · rw [source]
            rfl
      exact stopped.clear.resume after

theorem Idle.toggleSession (idle : page.Idle) : (page.toggleSession opening).Idle := by
  unfold Page.toggleSession
  split
  · exact idle.stopSession _
  · split
    · exact idle.startSession
    · exact idle.stopSession _

theorem Idle.toggleRecording (idle : page.Idle) : (page.toggleRecording opening).Idle := by
  unfold Page.toggleRecording
  split
  · exact idle.startSession.startRecordingOf
  · rename_i held isHeld
    split
    · exact idle.stopSession _
    · split
      · exact idle
      · rename_i session found
        split
        · have source := idle.microphone held isHeld session found
          apply idle.update
          · intro other present _ before fromFile
            cases found.symm.trans present
            simp only [Created.stopRecording, source] at fromFile
            cases fromFile
          · intro other none
            simp only [Created.stopRecording, none]
        · exact idle.startRecording (idle.microphone held isHeld)

theorem Idle.transcribeFile (idle : page.Idle) : page.transcribeFile.Idle := by
  unfold Page.transcribeFile
  split
  · exact idle
  · split
    · exact idle
    · exact ⟨idle.inactive, idle.unarmed, idle.calm, idle.microphone, fun _ => rfl⟩

theorem Idle.event (idle : page.Idle) {event : AdminSpa.Action π} {next : Page π}
    (taken : page.event numberText index event opening = some next) : next.Idle := by
  unfold Page.event at taken
  split at taken
  · cases taken
  · split at taken
    · obtain ⟨impl, -, rfl⟩ := Option.map_eq_some_iff.mp taken
      have received : (page.update index fun session => session.receive event impl).Idle :=
        idle.update (fun _ _ calm => calm) fun _ source => source
      dsimp only
      split
      · exact received
      · exact received.clear.resume _
    · cases taken

theorem Idle.not_tick (idle : page.Idle) (now : ℚ) (throws : Bool) :
    page.tick index now throws = none := by
  unfold Page.tick
  split
  · rfl
  · rename_i session found
    split
    · rfl
    · rename_i source fromFile
      rw [idle.calm index session found source fromFile]
      rfl

/-! ## The page with a file -/

/-- The variable holds the session of a file, which is the only one whose source may tick; the
timer, if it is armed, was armed by that session once all frames had been transmitted. -/
structure Transcribes (page : Page π) (held : ℕ) (session : Created π) (source : Source π) :
    Prop where
  isHeld : page.session = some held
  found : page.created[held]? = some session
  file : session.source = some source
  active : page.fileActive = true
  decoded : page.fileDecoding = false
  calm : ∀ index ≠ held, ∀ other ∈ page.created[index]?, other.Calm
  streaming : session.Streaming source
  status : page.status = .transcribing → session.impl.status = .transcribing
  complete : page.fileFramesComplete = true → source.completed = true
  timer : ∀ armed ∈ page.fileDrainTimer, armed = held ∧ session.Delivered source

/-- Either of the two. -/
def Filed (page : Page π) : Prop :=
  page.Idle ∨ ∃ held session source, page.Transcribes held session source

variable {held : ℕ} {session : Created π} {source : Source π}

/-- `startFileDrainGrace` for the session that the page transcribes. -/
theorem Transcribes.startFileDrainGrace (transcribes : page.Transcribes held session source)
    (delivered : session.Delivered source) :
    (page.startFileDrainGrace held).Transcribes held session source := by
  unfold Page.startFileDrainGrace
  split
  · exact transcribes
  · refine { transcribes with timer := fun armed isArmed => ?_ }
    cases isArmed
    exact ⟨rfl, delivered⟩

/-- The last frame of the file has been emitted. -/
theorem Transcribes.onFileFramesComplete (transcribes : page.Transcribes held session source)
    (completed : source.completed = true) :
    (page.onFileFramesComplete held).Transcribes held session source := by
  unfold Page.onFileFramesComplete
  split
  · exact transcribes
  · have noted : ({ page with fileFramesComplete := true } : Page π).Transcribes held session
        source :=
      { transcribes with complete := fun _ => completed }
    dsimp only
    split
    · rename_i transcribing
      exact noted.startFileDrainGrace
        (transcribes.streaming.delivered completed (transcribes.status transcribing))
    · exact noted

/-- Another session than the held one changes, and is over before and after. -/
theorem Transcribes.update_other (transcribes : page.Transcribes held session source)
    (elsewhere : index ≠ held) {change : Created π → Created π}
    (calm : ∀ other ∈ page.created[index]?, other.Calm → (change other).Calm)
    (finished : ∀ other ∈ page.created[index]?, (change other).impl.status ≠ .transcribing) :
    (page.update index change).Transcribes held session source := by
  have kept : ∀ status, (status = .transcribing → session.impl.status = .transcribing) →
      ({ page with created := page.created.modify index change, status := status } : Page π
        ).Transcribes held session source := by
    intro status told
    refine { transcribes with found := ?_, calm := ?_, status := told }
    · dsimp only
      rw [List.getElem?_modify_ne _ _ elsewhere]
      exact transcribes.found
    · intro place distinct other present
      dsimp only at present
      rw [List.getElem?_modify] at present
      obtain ⟨before, there, rfl⟩ := Option.map_eq_some_iff.mp present
      have still := transcribes.calm place distinct before there
      split
      · rename_i same
        subst same
        exact calm before there still
      · exact still
  cases found : page.created[index]? with
  | none =>
      rw [update_of_missing found]
      exact transcribes
  | some before =>
      rw [update_of_found found]
      have notTranscribing := finished before found
      split
      · exact kept page.status transcribes.status
      · rw [onStatusChange_of_not fun active => notTranscribing active.2.2]
        exact kept _ fun wrong => absurd wrong notTranscribing

/-- The held session changes and goes on streaming its file. -/
theorem Transcribes.update_held (transcribes : page.Transcribes held session source)
    {change : Created π → Created π} {next : Source π}
    (file : (change session).source = some next) (streaming : (change session).Streaming next)
    (complete : source.completed = true → next.completed = true)
    (delivered : session.Delivered source → (change session).Delivered next) :
    (page.update held change).Transcribes held (change session) next := by
  have kept : ∀ status, (status = .transcribing → (change session).impl.status = .transcribing) →
      ({ page with created := page.created.modify held change, status := status } : Page π
        ).Transcribes held (change session) next := by
    intro status told
    refine ⟨transcribes.isHeld, ?_, file, transcribes.active, transcribes.decoded, ?_, streaming,
      told, fun noted => complete (transcribes.complete noted), fun armed isArmed => ?_⟩
    · dsimp only
      rw [List.getElem?_modify_eq, transcribes.found]
      rfl
    · intro place distinct other present
      dsimp only at present
      rw [List.getElem?_modify_ne _ _ distinct.symm] at present
      exact transcribes.calm place distinct other present
    · obtain ⟨same, had⟩ := transcribes.timer armed isArmed
      exact ⟨same, delivered had⟩
  rw [update_of_found transcribes.found]
  split
  · rename_i same
    exact kept page.status fun told => same.trans (transcribes.status told)
  · have told := kept (change session).impl.status id
    by_cases arms : page.fileActive = true ∧ page.fileFramesComplete = true ∧
        (change session).impl.status = .transcribing
    · have armed : ({ page with created := page.created.modify held change } : Page π
          ).onStatusChange held (change session).impl.status =
          ({ page with
              created := page.created.modify held change
              status := (change session).impl.status } : Page π).startFileDrainGrace held :=
        if_pos arms
      rw [armed]
      apply told.startFileDrainGrace
      exact streaming.delivered (complete (transcribes.complete arms.2.1)) arms.2.2
    · have noted := @onStatusChange_of_not π
        { page with created := page.created.modify held change } held _ arms
      rw [noted]
      exact told

/-! ### What happens while a file is transcribed -/

theorem Transcribes.stopped_calm (transcribes : page.Transcribes held session source) :
    session.stopped.Calm := by
  intro other found
  simp only [Created.stopped, Created.cancelled] at found
  split at found
  · rename_i detached
    cases transcribes.file.symm.trans found
    cases ticking : source.ticking with
    | false => rfl
    | true =>
        have attached := transcribes.streaming.attached ticking
        rw [detached] at attached
        cases attached
  · obtain ⟨before, -, rfl⟩ := Option.map_eq_some_iff.mp found
    rfl

/-- The session of a file is stopped without waiting for a worklet. -/
theorem Transcribes.waits_eq_false (transcribes : page.Transcribes held session source) :
    (page.created[held]?).any Created.waits = false := by
  rw [transcribes.found, Option.any_some, Created.waits, transcribes.file]
  rfl

/-- The file session is ended at once. -/
theorem Transcribes.stopSession (transcribes : page.Transcribes held session source)
    (unarmed : page.fileDrainTimer = none) :
    (page.stopSession .clearFileActive opening).Idle := by
  have free := transcribes.waits_eq_false
  have finished : session.stopped.impl.status ≠ .transcribing := by
    have terminal : session.stopped.impl.status.Terminal := stopNow_terminal
    intro transcribing
    rw [transcribing] at terminal
    exact absurd terminal (by decide)
  have halted : ∃ status, page.update held Created.stopped =
      { page with created := page.created.modify held Created.stopped, status := status } := by
    rw [update_of_found transcribes.found]
    split
    · exact ⟨page.status, rfl⟩
    · have noted := @onStatusChange_of_not π
        { page with created := page.created.modify held Created.stopped } held
        session.stopped.impl.status fun active => finished active.2.2
      exact ⟨_, noted⟩
  obtain ⟨status, changed⟩ := halted
  simp only [Page.stopSession, transcribes.isHeld, free, Bool.false_eq_true, ↓reduceIte, changed]
  refine ⟨rfl, unarmed, ?_, fun _ wrong => (by cases wrong), ?_⟩
  · intro place other present
    by_cases same : held = place
    · subst same
      simp only [Page.stopped, Page.resume, List.getElem?_modify_eq, transcribes.found] at present
      cases present
      exact transcribes.stopped_calm
    · simp only [Page.stopped, Page.resume] at present
      rw [List.getElem?_modify_ne _ _ same] at present
      exact transcribes.calm place (fun wrong => same wrong.symm) other present
  · intro decoding
    exact absurd (transcribes.decoded.symm.trans decoding) Bool.false_ne_true

theorem Transcribes.endFileSession (transcribes : page.Transcribes held session source) :
    (page.endFileSession opening).Idle := by
  have unarmed : ({ page with fileDrainTimer := none } : Page π).Transcribes held session source :=
    { transcribes with timer := fun _ wrong => by cases wrong }
  exact unarmed.stopSession rfl

theorem Transcribes.stopSession_created (transcribes : page.Transcribes held session source) :
    (page.stopSession .clearFileActive opening).created =
      page.created.modify held Created.stopped := by
  simp only [Page.stopSession, transcribes.isHeld, transcribes.waits_eq_false, Bool.false_eq_true,
    ↓reduceIte, Page.stopped, Page.resume, update_created]

/-- No other session is stopped. -/
theorem Transcribes.endFileSession_created (transcribes : page.Transcribes held session source) :
    (page.endFileSession opening).created = page.created.modify held Created.stopped := by
  have unarmed : ({ page with fileDrainTimer := none } : Page π).Transcribes held session source :=
    { transcribes with timer := fun _ wrong => by cases wrong }
  exact unarmed.stopSession_created

/-- A tick emits a frame of the file, and the last one completes it. -/
theorem Transcribes.tick (transcribes : page.Transcribes held session source) {now : ℚ}
    {throws : Bool} {next : Page π} (taken : page.tick index now throws = some next) :
    next.Filed := by
  unfold Page.tick at taken
  split at taken
  · cases taken
  · rename_i ticked found
    split at taken
    · cases taken
    · rename_i ticker fromFile
      split at taken
      · rename_i ticking
        have here : index = held := by
          by_contra elsewhere
          have calm := transcribes.calm index elsewhere ticked found ticker fromFile
          exact absurd (calm.symm.trans ticking) Bool.false_ne_true
        subst here
        cases transcribes.found.symm.trans found
        cases transcribes.file.symm.trans fromFile
        have unfinished : source.completed = false := by
          cases completed : source.completed with
          | false => rfl
          | true =>
              have stopped := (transcribes.streaming.completed completed).1
              exact absurd (stopped.symm.trans ticking) Bool.false_ne_true
        have notYet : ∀ {holds : Prop}, source.completed = true → holds :=
          fun completed => absurd (unfinished.symm.trans completed) Bool.false_ne_true
        refine Or.inr ?_
        split at taken
        · rename_i past
          have streaming : Created.Streaming { session with source := some source.finish }
              source.finish :=
            { transcribes.streaming with
              attached := fun wrong => by cases wrong
              completed := fun _ => ⟨rfl, List.getElem?_eq_none_iff.mp past⟩ }
          have finished := @Transcribes.update_held π page index session source transcribes
            (fun session => { session with source := some source.finish }) source.finish rfl
            streaming notYet fun delivered => notYet delivered.1
          cases taken
          rw [unfinished]
          exact ⟨_, _, _, finished.onFileFramesComplete rfl⟩
        · rename_i pcm inside
          have emitted := @Transcribes.update_held π page index session source transcribes
            (fun session => session.tick source pcm now throws) source.advance rfl
            (transcribes.streaming.tick ticking inside now throws) notYet
            fun delivered => notYet delivered.1
          cases taken
          split
          · rename_i completes
            exact ⟨_, _, _, emitted.onFileFramesComplete completes.2⟩
          · exact ⟨_, _, _, emitted⟩
      · cases taken

/-- An event of a session while a file is transcribed. -/
theorem Transcribes.event (transcribes : page.Transcribes held session source)
    {event : AdminSpa.Action π} {next : Page π}
    (unrevived : ∀ other ∈ page.created[index]?, Revives other.impl event →
      page.session = some index ∧ other.source = none)
    (alone : ∀ other ∈ page.created[index]?, (other.resumed event).isSome →
      ∀ current ∈ page.session, current = index)
    (owned : page.Owned)
    (taken : page.event numberText index event opening = some next) : next.Filed := by
  unfold Page.event at taken
  split at taken
  · cases taken
  · rename_i other found
    split at taken
    · rename_i fromBrowser
      obtain ⟨impl, moved, rfl⟩ := Option.map_eq_some_iff.mp taken
      refine Or.inr ?_
      by_cases here : index = held
      · subst here
        cases transcribes.found.symm.trans found
        have goesOn : ¬ Revives session.impl event := by
          intro revives
          cases transcribes.file.symm.trans (unrevived session found revives).2
        have leaves := transcribes.streaming.leavesRecorder fromBrowser moved
        have received := @Transcribes.update_held π page index session source transcribes
          (fun session => session.receive event impl) source transcribes.file
          (transcribes.streaming.receive transcribes.file fromBrowser goesOn moved) id
          fun delivered => delivered.receive transcribes.file fromBrowser leaves moved
        have unwaited : session.resumed event = none := by
          cases event with
          | workletStopped index => exact leaves.elim
          | _ => rfl
        dsimp only
        rw [unwaited]
        exact ⟨_, _, _, received⟩
      · have finished : other.impl.status.Terminal := by
          by_contra active
          have present : page.statuses[index]? = some other.impl.status := by
            rw [getElem?_statuses, found]
            rfl
          have isIndex := owned index _ present active
          exact here (Option.some.inj (isIndex.symm.trans transcribes.isHeld))
        have silent : ¬ Revives other.impl event := by
          intro revives
          have isIndex := (unrevived other found revives).1
          exact here (Option.some.inj (isIndex.symm.trans transcribes.isHeld))
        have stillOver : impl.status.Terminal :=
          (terminal_iff_of_step fromBrowser finished moved).mpr silent
        have received := @Transcribes.update_other π page index held session source transcribes here
          (fun session => session.receive event impl) (fun _ _ calm => calm) fun _ _ transcribing =>
            absurd (transcribing ▸ stillOver) (by decide)
        cases waited : other.resumed event with
        | none => exact ⟨_, _, _, received⟩
        | some after =>
            have same := alone other found (waited ▸ rfl) held transcribes.isHeld
            exact absurd same.symm here
    · cases taken

/-- A session is created while no file is complete. -/
theorem create_eq (incomplete : page.fileFramesComplete = false) (source : Option (Source π)) :
    page.create source opening =
      { page with
        created := page.created ++ [(Created.fresh source).start opening]
        session := some page.created.length
        status := (State.initial.start opening.opens opening.now : State π).status } := by
  have changes : ((Created.fresh source).start opening).impl.status ≠
      (Created.fresh source).impl.status := by
    show (State.initial.start opening.opens opening.now : State π).status ≠ .idle
    rcases (@start_initial π opening).1 with connecting | failed
    · exact connecting ▸ by decide
    · exact failed ▸ by decide
  unfold Page.create
  rw [update_of_found List.getElem?_concat_length, if_neg changes, onStatusChange_of_not]
  · dsimp only
    rw [modify_append_length]
    rfl
  · exact fun active => absurd (incomplete.symm.trans active.2.1) Bool.false_ne_true

/-- The page with the session of a file whose frames are still to come. -/
def streams (page : Page π) (frames : List π) (opening : Opening) : Page π :=
  { page with
    created := page.created ++ [Created.ofFile frames opening]
    session := some page.created.length
    status := (State.initial.start opening.opens opening.now : State π).status
    fileActive := true
    fileDecoding := false }

theorem decoded_eq (incomplete : page.fileFramesComplete = false) (frames : List π) :
    page.decoded (some frames) opening =
      if frames.isEmpty then (page.streams frames opening).onFileFramesComplete page.created.length
      else page.streams frames opening := by
  have atOnce : ((Created.fresh (some ⟨frames, 0, false, false⟩)).start opening : Created π
      ).completesAtOnce = frames.isEmpty := by
    obtain ⟨-, -, recorder⟩ := @start_initial π opening
    simp only [Created.completesAtOnce, Created.start, Created.fresh, recorder, Recorder.idle,
      Bool.not_false, Option.isNone_none, Bool.and_true]
  have same : ((Created.fresh (some ⟨frames, 0, false, false⟩)).start opening : Created π
      ).startRecording.impl.status =
      ((Created.fresh (some ⟨frames, 0, false, false⟩)).start opening : Created π).impl.status := by
    have equal := Created.ofFile_eq frames opening
    rw [Created.ofFile] at equal
    rw [equal]
    rfl
  have created := @create_eq π { page with fileDecoding := false, fileActive := true } opening
    incomplete (some ⟨frames, 0, false, false⟩)
  unfold Page.decoded
  dsimp only at created ⊢
  rw [created]
  unfold Page.startRecordingOf Page.startRecording
  dsimp only
  rw [update_of_found List.getElem?_concat_length, List.getElem?_concat_length, Option.any_some,
    atOnce, if_pos same]
  dsimp only
  rw [modify_append_length]
  rfl

theorem Idle.streams (idle : page.Idle) (incomplete : page.fileFramesComplete = false)
    (frames : List π) :
    (page.streams frames opening).Transcribes page.created.length (Created.ofFile frames opening)
      (Source.begin ⟨frames, 0, false, false⟩) := by
  refine ⟨rfl, List.getElem?_concat_length, ?_, rfl, rfl, ?_,
    Created.streaming_ofFile frames opening, fun transcribing => ?_, fun complete => ?_, fun armed isArmed => ?_⟩
  · rw [Created.ofFile_eq]
  · intro place distinct other present
    simp only [Page.streams] at present
    rcases Nat.lt_or_ge place page.created.length with inside | beyond
    · rw [List.getElem?_append_left inside] at present
      exact idle.calm place other present
    · obtain ⟨bound, -⟩ := List.getElem?_eq_some_iff.mp present
      rw [List.length_append, List.length_singleton] at bound
      exact absurd (Nat.le_antisymm (Nat.lt_succ_iff.mp bound) beyond) distinct
  · rcases (@start_initial π opening).1 with connecting | failed
    · cases connecting.symm.trans transcribing
    · cases failed.symm.trans transcribing
  · exact absurd (incomplete.symm.trans complete) Bool.false_ne_true
  · cases idle.unarmed.symm.trans isArmed

/-- The page transcribes a file once it is decoded. -/
theorem Idle.decoded (idle : page.Idle) (decoding : page.fileDecoding = true)
    (frames : Option (List π)) : (page.decoded frames opening).Filed := by
  cases frames with
  | none =>
      refine Or.inl ⟨idle.inactive, idle.unarmed, idle.calm, idle.microphone, ?_⟩
      intro wrong
      cases wrong
  | some frames =>
      have incomplete := idle.decoding decoding
      have transcribes := @Idle.streams π page opening idle incomplete frames
      rw [decoded_eq incomplete]
      split
      · rename_i empty
        exact Or.inr ⟨_, _, _, transcribes.onFileFramesComplete empty⟩
      · exact Or.inr ⟨_, _, _, transcribes⟩

/-! ## Steps and runs -/

/-- The timer, when it fires, ends the session that has armed it and no other, and every frame of
that session's file has been passed to `transmitFrame`, in order. -/
def DrainSound (numberText : ℚ → String) (page : Page π) : Prop :=
  ∀ opening, ∀ next ∈ step numberText page (.fileDrainTimer opening),
    ∃ armed session source, page.fileDrainTimer = some armed ∧
      page.created[armed]? = some session ∧ session.source = some source ∧
      session.transmitted = source.frames ∧ next.created = page.created.modify armed Created.stopped

theorem Filed.drainSound (filed : page.Filed) : page.DrainSound numberText := by
  intro opening next fires
  simp only [step] at fires
  split at fires
  · cases fires
  · rename_i armed isArmed
    cases fires
    rcases filed with idle | ⟨held, session, source, transcribes⟩
    · cases idle.unarmed.symm.trans isArmed
    · obtain ⟨same, -, transmitted, -⟩ := transcribes.timer armed isArmed
      subst same
      exact ⟨armed, session, source, isArmed, transcribes.found, transcribes.file, transmitted,
        transcribes.endFileSession_created⟩

end Page

/-- What the page offers its user, and what its timers and the browser bring. -/
def Offered : Action π → Prop
  | .startSession _ | .stopSession _ | .toggleSession _ | .toggleRecording _ | .endFileSession _ =>
      False
  | .selectFile _ | .transcribeFile | .decoded _ _ | .sessionButton _ | .microphoneButton _
  | .fileDrainTimer _ | .tick _ _ _ | .event _ _ _ => True

/-- A decoded file's session replaces none that goes on; no session goes on that was over, unless
the variable holds it and it is one of the microphone; and no session has been stopped while the
variable holds another. -/
def Orderly (page : Page π) : Action π → Prop
  | .decoded (some _) _ =>
      ∀ held ∈ page.session, ∀ status ∈ page.statuses[held]?, status.Terminal
  | .event index event _ =>
      ∀ session ∈ page.created[index]?,
        (Revives session.impl event → page.session = some index ∧ session.source = none) ∧
        ((session.resumed event).isSome → ∀ held ∈ page.session, held = index)
  | _ => True

section

variable {page next : Page π} {action : Action π}

theorem Orderly.undisturbed (orderly : Orderly page action) : Undisturbed page action := by
  cases action with
  | decoded frames opening =>
      cases frames with
      | none => trivial
      | some frames => exact orderly
  | event index event opening =>
      intro elsewhere session found
      obtain ⟨unrevived, alone⟩ := orderly session found
      refine ⟨fun revives => elsewhere (unrevived revives).1, ?_⟩
      intro waited held isHeld
      have same := alone waited held isHeld
      exact absurd (same ▸ isHeld) elsewhere
  | _ => trivial

theorem Revives.terminal {state : State π} {event : AdminSpa.Action π}
    (revives : Revives state event) : state.status.Terminal := by
  cases event with
  | opened _ => exact revives
  | message _ _ _ => exact revives.1
  | _ => exact revives.elim

/-- An event of a session that is not over. -/
theorem orderly_of_active {index : ℕ} {event : AdminSpa.Action π} {opening : Opening}
    (active : ∀ status ∈ page.statuses[index]?, ¬ status.Terminal)
    (unwaited : ∀ session : Created π, session.resumed event = none) :
    Orderly page (.event index event opening) := by
  intro session found
  have present : page.statuses[index]? = some session.impl.status := by
    rw [Page.getElem?_statuses, found]
    rfl
  refine ⟨fun revives => absurd revives.terminal (active _ present), ?_⟩
  rw [unwaited session]
  intro wrong
  cases wrong

theorem Page.Idle.step (idle : page.Idle) (offered : Offered action)
    (taken : step numberText page action = some next) : next.Filed := by
  cases action with
  | startSession _ | stopSession _ | toggleSession _ | toggleRecording _ | endFileSession _ =>
      exact offered.elim
  | selectFile selected =>
      cases taken
      exact Or.inl ⟨idle.inactive, idle.unarmed, idle.calm, idle.microphone, idle.decoding⟩
  | transcribeFile =>
      cases taken
      exact Or.inl idle.transcribeFile
  | decoded frames opening =>
      simp only [RealtimePage.step] at taken
      split at taken
      · rename_i decoding
        cases taken
        exact idle.decoded decoding frames
      · cases taken
  | sessionButton opening =>
      simp only [RealtimePage.step, idle.inactive] at taken
      cases taken
      exact Or.inl idle.toggleSession
  | microphoneButton opening =>
      cases taken
      split
      · exact Or.inl idle
      · exact Or.inl idle.toggleRecording
  | fileDrainTimer opening =>
      simp only [RealtimePage.step, idle.unarmed] at taken
      cases taken
  | tick index now throws =>
      cases (idle.not_tick now throws).symm.trans taken
  | event index event opening => exact Or.inl (idle.event taken)

theorem Page.Transcribes.step {held : ℕ} {session : Created π} {source : Source π}
    (transcribes : page.Transcribes held session source) (owned : page.Owned)
    (offered : Offered action) (orderly : Orderly page action)
    (taken : step numberText page action = some next) : next.Filed := by
  have busy : page.fileBusy = true := by
    rw [Page.fileBusy, transcribes.active]
    rfl
  cases action with
  | startSession _ | stopSession _ | toggleSession _ | toggleRecording _ | endFileSession _ =>
      exact offered.elim
  | selectFile selected =>
      cases taken
      exact Or.inr ⟨held, session, source, { transcribes with }⟩
  | transcribeFile =>
      simp only [RealtimePage.step, Page.transcribeFile, busy, true_or, ↓reduceIte] at taken
      cases taken
      exact Or.inr ⟨held, session, source, transcribes⟩
  | decoded frames opening =>
      simp only [RealtimePage.step, transcribes.decoded] at taken
      cases taken
  | sessionButton opening =>
      simp only [RealtimePage.step, transcribes.active] at taken
      cases taken
      exact Or.inl transcribes.endFileSession
  | microphoneButton opening =>
      simp only [RealtimePage.step, busy] at taken
      cases taken
      exact Or.inr ⟨held, session, source, transcribes⟩
  | fileDrainTimer opening =>
      simp only [RealtimePage.step] at taken
      split at taken
      · cases taken
      · cases taken
        exact Or.inl transcribes.endFileSession
  | tick index now throws => exact transcribes.tick taken
  | event index event opening =>
      apply transcribes.event
      · exact fun other found => (orderly other found).1
      · exact fun other found => (orderly other found).2
      · exact owned
      · exact taken

end

variable {actions : List (Action π)} {final : Page π}

/-- **The drain timer is sound** in every run of what the page offers in which a decoded file
replaces no session that goes on, no session goes on that was over, and no stop ends too late. -/
theorem drain_sound
    (orderly : Meets (step numberText) (fun _ page action => Offered action ∧ Orderly page action)
      [] (Page.initial : Page π) actions)
    (run : execute (step numberText) (Page.initial : Page π) actions = some final) :
    final.DrainSound numberText := by
  have idle : (Page.initial : Page π).Idle := by
    refine ⟨rfl, rfl, ?_, ?_, fun wrong => by cases wrong⟩
    · intro _ _ found
      cases found
    · intro _ held
      cases held
  have owned : (Page.initial : Page π).Owned := fun _ _ found => by cases found
  have paired : (Page.initial : Page π).All Created.Paired := fun _ _ found => by cases found
  have kept : ∀ (_ : List (Action π)) (page : Page π) (action : Action π) (next : Page π),
      (page.Filed ∧ page.Owned ∧ page.All Created.Paired) → (Offered action ∧ Orderly page action) →
      step numberText page action = some next →
        next.Filed ∧ next.Owned ∧ next.All Created.Paired := by
    intro _ page action next ⟨filed, owned, paired⟩ ⟨offered, orderly⟩ taken
    refine ⟨?_, (step_owned_iff owned paired taken).mpr orderly.undisturbed, ?_⟩
    · rcases filed with idle | ⟨held, session, source, transcribes⟩
      · exact idle.step offered taken
      · exact transcribes.step owned offered orderly taken
    · exact paired.step kept_paired (fun _ _ _ _ _ _ => trivial) taken
  obtain ⟨filed, -⟩ := execute_invariant ⟨Or.inl idle, owned, paired⟩ kept orderly run
  exact filed.drainSound

/-! ## A file that is transcribed, and one whose session is ended before it starts -/

/-- A file of one frame, which is transmitted as soon as it is emitted. -/
def fileTranscribed : List (Action Unit) :=
  [.selectFile true, .transcribeFile, .decoded (some [()]) ⟨true, 0⟩,
    .event 0 (.opened none) ⟨true, 0⟩,
    .event 0 (.message none (plainMessage "ready") false) ⟨true, 0⟩, .tick 0 0 false]

theorem fileTranscribed_drains :
    ∃ final ∈ execute (step sampleNumberText) (Page.initial : Page Unit) fileTranscribed,
      final.fileDrainTimer = some 0 ∧ final.DrainSound sampleNumberText := by
  have orderly : Meets (step sampleNumberText)
      (fun _ page action => Offered action ∧ Orderly page action) []
      (Page.initial : Page Unit) fileTranscribed := by
    refine .cons ⟨trivial, trivial⟩ rfl (.cons ⟨trivial, trivial⟩ rfl (.cons ⟨trivial, ?_⟩ rfl
      (.cons ⟨trivial, ?_⟩ rfl (.cons ⟨trivial, ?_⟩ rfl (.cons ⟨trivial, trivial⟩ rfl trivial)))))
    · intro held isHeld
      cases isHeld
    · apply orderly_of_active
      · intro status found
        cases found
        decide
      · exact fun _ => rfl
    · apply orderly_of_active
      · intro status found
        cases found
        decide
      · exact fun _ => rfl
  exact ⟨_, rfl, rfl, drain_sound orderly rfl⟩

/-- The session is started while the file is decoded, and reaches `transcribing` first. -/
def startWhileDecoding : List (Action Unit) :=
  [.selectFile true, .transcribeFile, .sessionButton ⟨true, 0⟩, .decoded (some [()]) ⟨true, 0⟩,
    .tick 1 0 false, .event 0 (.opened none) ⟨true, 0⟩,
    .event 0 (.message none (plainMessage "ready") false) ⟨true, 0⟩]

/-- It arms the timer, which ends the session of the file before its frame is transmitted. -/
theorem startWhileDecoding_cut :
    (∀ action ∈ startWhileDecoding, Offered action) ∧
      ∃ page ∈ execute (step sampleNumberText) (Page.initial : Page Unit) startWhileDecoding,
        page.fileDrainTimer = some 0 ∧ page.session = some 1 ∧
          (page.created.map fun session => session.transmitted) = [[], []] ∧
          ¬ page.DrainSound sampleNumberText := by
  refine ⟨?_, _, rfl, rfl, rfl, rfl, ?_⟩
  · simp only [startWhileDecoding, List.forall_mem_cons, Offered, List.not_mem_nil, false_implies,
      implies_true, and_self]
  · intro sound
    obtain ⟨armed, session, source, isArmed, found, file, -⟩ := sound ⟨true, 0⟩ _ rfl
    cases isArmed
    cases found
    cases file

end Panakoes.AdminSpa.RealtimePage
