import Mathlib.Data.List.Basic
import Panakoes.AdminSpa.StreamingSession

/-! # The realtime page

The handlers of the page over the streaming sessions it creates, for a microphone or for a
file. A handler runs until it waits for something that other events can come before: the
decoding of a file, or a worklet that is being stopped. `start()` waits for nothing, nor
does the worklet that a file frame source stands in for, so what follows their `await` runs
before any other event.
-/

namespace Panakoes.AdminSpa.RealtimePage

variable {π : Type*}

/-! ## State -/

/-- What a caller of `stopSession` does once it has returned. -/
inductive AfterStop where
  | nothing
  | startSession
  | startRecording
  | clearFileActive
  deriving DecidableEq

/-- `createFileFrameStarter` of a file's frames, with the variables of its last call. -/
structure Source (π : Type*) where
  frames : List π
  index : ℕ
  /-- The interval runs. -/
  ticking : Bool
  completed : Bool

/-- A `StreamingSessionImpl` that the page has created; `source` is `none` for the microphone.
For each of the calls in `stops`, `waiters` has what the page does after it, `none` for a
`stopRecording()`. The frames that have been passed to `transmitFrame` are a ghost. -/
structure Created (π : Type*) where
  impl : State π
  source : Option (Source π)
  waiters : List (Option AfterStop)
  transmitted : List π

/-- The page's variables that decide what its handlers do, and the sessions in the order of their
creation. `fileDrainTimer` holds the session whose event has armed the timer. -/
structure Page (π : Type*) where
  created : List (Created π)
  session : Option ℕ
  status : StreamStatus
  fileSelected : Bool
  fileActive : Bool
  fileDecoding : Bool
  fileFramesComplete : Bool
  fileDrainTimer : Option ℕ

/-- How a session opens, should one be created: whether its WebSocket can be constructed, and the
time. -/
structure Opening where
  opens : Bool
  now : ℚ

/-! ## The sessions -/

/-- `stop()` where nothing has to be waited for. -/
def stopNow (state : State π) : State π :=
  match state.recorder.worklet with
  | none => state.stop
  | some _ => { state.stop with stops := state.stops }.finishStop

/-- `stopRecording()` where nothing has to be waited for. -/
def stopRecordingNow (state : State π) : State π :=
  match state.recorder.worklet with
  | none => state.stopRecording
  | some _ =>
      if state.recorder.isRecording then
        { state.stopRecording with stops := state.stops }.finish .recording
      else state

/-- `stop()` of the file controller. -/
def Source.cancel (source : Source π) : Source π := { source with ticking := false }

/-- The file frame starter is called. -/
def Source.begin (source : Source π) : Source π :=
  { source with
    index := 0
    ticking := !source.frames.isEmpty
    completed := source.frames.isEmpty }

/-- `finish`. -/
def Source.finish (source : Source π) : Source π :=
  { source with ticking := false, completed := true }

/-- The interval has emitted the frame at `index`. -/
def Source.advance (source : Source π) : Source π :=
  let next := { source with index := source.index + 1 }
  if next.frames.length ≤ next.index then next.finish else next

/-- What a step of a session passes to `transmitFrame`. -/
def passes (state : State π) : AdminSpa.Action π → List π
  | .captured pcm _ _ => if state.status = .transcribing then [pcm] else []
  | .catchup _ _ => state.pendingFrames.head?.toList
  | _ => []

namespace Created

/-- `new StreamingSessionImpl(…)`. -/
def fresh (source : Option (Source π)) : Created π := ⟨.initial, source, [], []⟩

/-- There is a worklet whose stop takes time. -/
def waits (session : Created π) : Bool :=
  session.source.isNone && session.impl.recorder.worklet.isSome

/-- `startRecording()` would start the source of a file without frames. -/
def completesAtOnce (session : Created π) : Bool :=
  match session.source with
  | none => false
  | some source =>
      source.frames.isEmpty && !session.impl.recorder.isRecording &&
        session.impl.recorder.starting.isNone

/-- The file controller is stopped if the session holds one. -/
def cancelled (session : Created π) : Option (Source π) :=
  match session.impl.recorder.worklet with
  | none => session.source
  | some _ => session.source.map Source.cancel

def start (session : Created π) (opening : Opening) : Created π :=
  { session with impl := session.impl.start opening.opens opening.now }

/-- `stop()` that waits for the worklet. -/
def stopping (session : Created π) (after : AfterStop) : Created π :=
  { session with impl := session.impl.stop, waiters := session.waiters ++ [some after] }

/-- `stop()` that waits for nothing. -/
def stopped (session : Created π) : Created π :=
  { session with impl := stopNow session.impl, source := session.cancelled }

/-- `stopRecording()`, up to where it waits for the worklet of a microphone. -/
def stopRecording (session : Created π) : Created π :=
  match session.source with
  | none =>
      { session with
        impl := session.impl.stopRecording
        waiters :=
          if session.impl.recorder.isRecording = true ∧ session.impl.recorder.worklet ≠ none then
            session.waiters ++ [none]
          else session.waiters }
  | some source =>
      { session with
        impl := stopRecordingNow session.impl
        source := if session.impl.recorder.isRecording then session.cancelled else some source }

/-- `startRecording()`, up to where it waits for the microphone. The stream and the worklet of a
file are there at once. -/
def startRecording (session : Created π) : Created π :=
  match session.source with
  | none => { session with impl := { session.impl with recorder := session.impl.recorder.start } }
  | some source =>
      if session.impl.recorder.isRecording = true ∨ session.impl.recorder.starting.isSome then
        session
      else
        let acquired := session.impl.recorder.start.acquire (some 0)
        { session with
          impl := { session.impl with recorder := acquired.attach (some 0) }
          source := some source.begin }

/-- An event of the browser reaches the session. -/
def receive (session : Created π) (event : AdminSpa.Action π) (impl : State π) : Created π :=
  { session with
    impl := impl
    waiters :=
      match event with
      | .workletStopped index => session.waiters.eraseIdx index
      | _ => session.waiters
    transmitted := session.transmitted ++ passes session.impl event }

/-- The page's call that the event lets go on. -/
def resumed (session : Created π) : AdminSpa.Action π → Option AfterStop
  | .workletStopped index => (session.waiters[index]?).join
  | _ => none

/-- A tick of the file frame source, which emits a frame. -/
def tick (session : Created π) (source : Source π) (pcm : π) (now : ℚ) (throws : Bool) :
    Created π :=
  { session with
    impl := session.impl.handleFrame pcm now throws
    source := some source.advance
    transmitted := session.transmitted ++ passes session.impl (.captured pcm now throws) }

end Created

/-! ## The handlers -/

/-- `isSessionLive`. -/
def live (status : StreamStatus) : Bool :=
  match status with
  | .connecting | .spawningGpu | .catchingUp | .transcribing => true
  | .idle | .ended | .failed => false

/-- `canRecord`. -/
def canRecord (status : StreamStatus) : Bool :=
  match status with
  | .spawningGpu | .catchingUp | .transcribing => true
  | .idle | .connecting | .ended | .failed => false

namespace Page

/-- The page as it is loaded. -/
def initial : Page π where
  created := []
  session := none
  status := .idle
  fileSelected := false
  fileActive := false
  fileDecoding := false
  fileFramesComplete := false
  fileDrainTimer := none

/-- `startFileDrainGrace`, on an event of a session. -/
def startFileDrainGrace (page : Page π) (session : ℕ) : Page π :=
  match page.fileDrainTimer with
  | some _ => page
  | none => { page with fileDrainTimer := some session }

/-- `onStatusChange`, called by a session. -/
def onStatusChange (page : Page π) (session : ℕ) (status : StreamStatus) : Page π :=
  if page.fileActive = true ∧ page.fileFramesComplete = true ∧ status = .transcribing then
    { page with status := status }.startFileDrainGrace session
  else { page with status := status }

/-- `onFileFramesComplete`, called by the source of a session. -/
def onFileFramesComplete (page : Page π) (session : ℕ) : Page π :=
  if page.fileFramesComplete then page
  else
    let complete := { page with fileFramesComplete := true }
    if complete.status = .transcribing then complete.startFileDrainGrace session else complete

/-- A session changes, and reports its status if that changes. -/
def update (page : Page π) (index : ℕ) (change : Created π → Created π) : Page π :=
  match page.created[index]? with
  | none => page
  | some before =>
      let changed := { page with created := page.created.modify index change }
      if (change before).impl.status = before.impl.status then changed
      else changed.onStatusChange index (change before).impl.status

/-- A session is created for the variable `session` and started. -/
def create (page : Page π) (source : Option (Source π)) (opening : Opening) : Page π :=
  { page with
    created := page.created ++ [Created.fresh source]
    session := some page.created.length }.update page.created.length fun session =>
      session.start opening

/-- `startSession`. -/
def startSession (page : Page π) (opening : Opening) : Page π :=
  if live page.status = true ∨ page.session ≠ none then page
  else { page with status := .idle }.create none opening

/-- `startRecording()` of a session. A file without frames is complete at once. -/
def startRecording (page : Page π) (index : ℕ) : Page π :=
  let started := page.update index Created.startRecording
  if (page.created[index]?).any Created.completesAtOnce then started.onFileFramesComplete index
  else started

/-- `startRecording()` of the session that the variable holds, if any. -/
def startRecordingOf (page : Page π) : Page π :=
  match page.session with
  | none => page
  | some index => page.startRecording index

/-- What a caller of `stopSession` does next. -/
def resume (page : Page π) (after : AfterStop) (opening : Opening) : Page π :=
  match after with
  | .nothing => page
  | .startSession => page.startSession opening
  | .startRecording => (page.startSession opening).startRecordingOf
  | .clearFileActive => { page with fileActive := false }

/-- `stopSession` once `stop()` has returned. -/
def stopped (page : Page π) (after : AfterStop) (opening : Opening) : Page π :=
  { page with session := none }.resume after opening

/-- `stopSession`, for a caller. -/
def stopSession (page : Page π) (after : AfterStop) (opening : Opening) : Page π :=
  match page.session with
  | none => page.resume after opening
  | some index =>
      if (page.created[index]?).any Created.waits then
        page.update index fun session => session.stopping after
      else (page.update index Created.stopped).stopped after opening

/-- `toggleSession`. -/
def toggleSession (page : Page π) (opening : Opening) : Page π :=
  if live page.status then page.stopSession .nothing opening
  else if page.session = none then page.startSession opening
  else page.stopSession .startSession opening

/-- `toggleRecording`. -/
def toggleRecording (page : Page π) (opening : Opening) : Page π :=
  match page.session with
  | none => (page.startSession opening).startRecordingOf
  | some index =>
      if canRecord page.status = false then page.stopSession .startRecording opening
      else
        match page.created[index]? with
        | none => page
        | some session =>
            if session.impl.recorder.isRecording then page.update index Created.stopRecording
            else page.startRecording index

/-- `fileBusy`. -/
def fileBusy (page : Page π) : Bool := page.fileActive || page.fileDecoding

/-- `transcribeFile`, up to where it waits for the decoded file. -/
def transcribeFile (page : Page π) : Page π :=
  if page.fileBusy = true ∨ live page.status = true ∨ page.session ≠ none then page
  else if page.fileSelected = false then page
  else { page with status := .idle, fileFramesComplete := false, fileDecoding := true }

/-- `transcribeFile` with the frames of the decoded file, or `none` where it cannot be decoded. -/
def decoded (page : Page π) (frames : Option (List π)) (opening : Opening) : Page π :=
  match frames with
  | none => { page with fileDecoding := false }
  | some frames =>
      let source := ⟨frames, 0, false, false⟩
      { page with fileDecoding := false, fileActive := true }.create (some source) opening
        |>.startRecordingOf

/-- `endFileSession`. -/
def endFileSession (page : Page π) (opening : Opening) : Page π :=
  { page with fileDrainTimer := none }.stopSession .clearFileActive opening

end Page

/-! ## The transition system -/

/-- Calls of the page's handlers, clicks on its buttons, and what the browser does. The decoding
of a file, a tick of a file frame source and an event of a session come at any time. -/
inductive Action (π : Type*) where
  | startSession (opening : Opening)
  | stopSession (opening : Opening)
  | toggleSession (opening : Opening)
  | toggleRecording (opening : Opening)
  | selectFile (selected : Bool)
  | transcribeFile
  | decoded (frames : Option (List π)) (opening : Opening)
  | endFileSession (opening : Opening)
  /-- The button "End session" or "Start session". -/
  | sessionButton (opening : Opening)
  /-- The microphone button, which is disabled while the page is busy with a file. -/
  | microphoneButton (opening : Opening)
  | fileDrainTimer (opening : Opening)
  | tick (session : ℕ) (now : ℚ) (throws : Bool)
  | event (session : ℕ) (event : AdminSpa.Action π) (opening : Opening)

/-- What is no method of a session but comes from the browser. The frames of a file come with the
ticks of its source. -/
def FromBrowser (session : Created π) : AdminSpa.Action π → Prop
  | .start _ _ | .stop | .startRecording | .stopRecording => False
  | .captured _ _ _ => session.source = none
  | .microphone _ | .worklet _ | .workletStopped _ | .opened _ | .message _ _ _
  | .transportError _ | .closed _ | .spawnPing _ | .catchup _ _ | .spawnStall => True

instance (session : Created π) : DecidablePred (FromBrowser session)
  | .start _ _ | .stop | .startRecording | .stopRecording => .isFalse id
  | .captured _ _ _ =>
      decidable_of_iff (session.source.isNone = true) Option.isNone_iff_eq_none
  | .microphone _ | .worklet _ | .workletStopped _ | .opened _ | .message _ _ _
  | .transportError _ | .closed _ | .spawnPing _ | .catchup _ _ | .spawnStall => .isTrue trivial

namespace Page

/-- An event of the browser reaches a session; a call of the page's that has waited for it goes
on. -/
def event (numberText : ℚ → String) (page : Page π) (index : ℕ) (event : AdminSpa.Action π)
    (opening : Opening) : Option (Page π) :=
  match page.created[index]? with
  | none => none
  | some session =>
      if FromBrowser session event then
        (AdminSpa.step numberText session.impl event).map fun impl =>
          let received := page.update index fun session => session.receive event impl
          match session.resumed event with
          | none => received
          | some after => received.stopped after opening
      else none

/-- The interval of a file frame source. -/
def tick (page : Page π) (index : ℕ) (now : ℚ) (throws : Bool) : Option (Page π) :=
  match page.created[index]? with
  | none => none
  | some session =>
      match session.source with
      | none => none
      | some source =>
          if source.ticking then
            match source.frames[source.index]? with
            | none =>
                let finished := page.update index fun session =>
                  { session with source := some source.finish }
                some (if source.completed then finished else finished.onFileFramesComplete index)
            | some pcm =>
                let emitted := page.update index fun session =>
                  session.tick source pcm now throws
                some (if source.completed = false ∧ source.advance.completed = true then
                    emitted.onFileFramesComplete index
                  else emitted)
          else none

end Page

/-- One step of the page. -/
def step (numberText : ℚ → String) (page : Page π) : Action π → Option (Page π)
  | .startSession opening => some (page.startSession opening)
  | .stopSession opening => some (page.stopSession .nothing opening)
  | .toggleSession opening => some (page.toggleSession opening)
  | .toggleRecording opening => some (page.toggleRecording opening)
  | .selectFile selected => some { page with fileSelected := selected }
  | .transcribeFile => some page.transcribeFile
  | .decoded frames opening =>
      if page.fileDecoding then some (page.decoded frames opening) else none
  | .endFileSession opening => some (page.endFileSession opening)
  | .sessionButton opening =>
      some (if page.fileActive then page.endFileSession opening else page.toggleSession opening)
  | .microphoneButton opening =>
      some (if page.fileBusy then page else page.toggleRecording opening)
  | .fileDrainTimer opening =>
      match page.fileDrainTimer with
      | none => none
      | some _ => some ({ page with fileDrainTimer := none }.endFileSession opening)
  | .tick session now throws => page.tick session now throws
  | .event session event opening => page.event numberText session event opening

/-! ## What the pieces change -/

theorem modify_append_length {α : Type*} (last : α) (change : α → α) :
    ∀ first : List α, (first ++ [last]).modify first.length change = first ++ [change last]
  | [] => rfl
  | head :: rest => congrArg (head :: ·) (modify_append_length last change rest)

namespace Page

variable {page : Page π} {index : ℕ}

@[simp] theorem startFileDrainGrace_created (session : ℕ) :
    (page.startFileDrainGrace session).created = page.created := by
  unfold startFileDrainGrace
  split <;> rfl

@[simp] theorem startFileDrainGrace_session (session : ℕ) :
    (page.startFileDrainGrace session).session = page.session := by
  unfold startFileDrainGrace
  split <;> rfl

@[simp] theorem onStatusChange_created (session : ℕ) (status : StreamStatus) :
    (page.onStatusChange session status).created = page.created := by
  unfold onStatusChange
  split
  · exact startFileDrainGrace_created session
  · rfl

@[simp] theorem onStatusChange_session (session : ℕ) (status : StreamStatus) :
    (page.onStatusChange session status).session = page.session := by
  unfold onStatusChange
  split
  · exact startFileDrainGrace_session session
  · rfl

@[simp] theorem onFileFramesComplete_created (session : ℕ) :
    (page.onFileFramesComplete session).created = page.created := by
  unfold onFileFramesComplete
  split
  · rfl
  · dsimp only
    split
    · exact startFileDrainGrace_created session
    · rfl

@[simp] theorem onFileFramesComplete_session (session : ℕ) :
    (page.onFileFramesComplete session).session = page.session := by
  unfold onFileFramesComplete
  split
  · rfl
  · dsimp only
    split
    · exact startFileDrainGrace_session session
    · rfl

/-- A session that changes leaves the others as they are. -/
@[simp] theorem update_created (change : Created π → Created π) :
    (page.update index change).created = page.created.modify index change := by
  unfold update
  split
  · rename_i missing
    apply List.ext_getElem?
    intro other
    rw [List.getElem?_modify]
    by_cases same : index = other
    · rw [← same, missing]
      rfl
    · simp only [same, ↓reduceIte, id_map']
  · dsimp only
    split
    · rfl
    · exact onStatusChange_created _ _

@[simp] theorem update_session (change : Created π → Created π) :
    (page.update index change).session = page.session := by
  unfold update
  split
  · rfl
  · dsimp only
    split
    · rfl
    · exact onStatusChange_session _ _

theorem startRecording_created :
    (page.startRecording index).created = page.created.modify index Created.startRecording := by
  unfold startRecording
  dsimp only
  split
  · rw [onFileFramesComplete_created, update_created]
  · exact update_created _

@[simp] theorem startRecording_session : (page.startRecording index).session = page.session := by
  unfold startRecording
  dsimp only
  split
  · rw [onFileFramesComplete_session, update_session]
  · exact update_session _

theorem create_created (source : Option (Source π)) (opening : Opening) :
    (page.create source opening).created =
      page.created ++ [(Created.fresh source).start opening] := by
  unfold create
  rw [update_created]
  exact modify_append_length _ _ _

@[simp] theorem create_session (source : Option (Source π)) (opening : Opening) :
    (page.create source opening).session = some page.created.length := by
  unfold create
  rw [update_session]

end Page

/-! ## Invariants of the sessions -/

/-- A property that every session has when it is created and started, and that the page's calls,
the ticks of its source and the events that are `allowed` keep. -/
structure Kept (numberText : ℚ → String) (allowed : Created π → AdminSpa.Action π → Prop)
    (holds : Created π → Prop) : Prop where
  microphone : ∀ opening, holds ((Created.fresh none).start opening)
  file : ∀ frames opening, holds ((Created.fresh (some ⟨frames, 0, false, false⟩)).start opening)
  stopping : ∀ session after, holds session → session.waits = true → holds (session.stopping after)
  stopped : ∀ session, holds session → session.waits = false → holds session.stopped
  startRecording : ∀ session, holds session → holds session.startRecording
  stopRecording : ∀ session, holds session → holds session.stopRecording
  receive : ∀ session event impl, holds session → FromBrowser session event → allowed session event →
    AdminSpa.step numberText session.impl event = some impl → holds (session.receive event impl)
  tick : ∀ session source pcm now throws, holds session → session.source = some source →
    source.ticking = true → source.frames[source.index]? = some pcm →
      holds (session.tick source pcm now throws)
  finish : ∀ session source, holds session → session.source = some source →
    source.ticking = true → source.frames[source.index]? = none →
      holds { session with source := some source.finish }

namespace Page

/-- Every session that the page has created has the property. -/
def All (holds : Created π → Prop) (page : Page π) : Prop :=
  ∀ index : ℕ, ∀ session ∈ page.created[index]?, holds session

variable {page : Page π} {holds : Created π → Prop} {numberText : ℚ → String}
  {allowed : Created π → AdminSpa.Action π → Prop} {opening : Opening}

theorem All.of_created {other : Page π} (all : page.All holds)
    (same : other.created = page.created) : other.All holds := by
  unfold All
  rw [same]
  exact all

theorem All.modify {other : Page π} {index : ℕ} {change : Created π → Created π}
    (all : page.All holds) (changed : other.created = page.created.modify index change)
    (kept : ∀ session ∈ page.created[index]?, holds session → holds (change session)) :
    other.All holds := by
  intro place session found
  rw [changed, List.getElem?_modify] at found
  obtain ⟨before, present, rfl⟩ := Option.map_eq_some_iff.mp found
  by_cases same : index = place
  · subst same
    simp only [↓reduceIte]
    exact kept before present (all index before present)
  · simp only [same, ↓reduceIte]
    exact all place before present

theorem All.create (all : page.All holds) {source : Option (Source π)}
    (started : holds ((Created.fresh source).start opening)) :
    (page.create source opening).All holds := by
  intro place session found
  rw [create_created] at found
  rcases List.mem_append.mp (List.mem_of_getElem? found) with earlier | last
  · obtain ⟨index, present⟩ := List.getElem?_of_mem earlier
    exact all index session present
  · rw [List.mem_singleton.mp last]
    exact started

section Kept

variable (kept : Kept numberText allowed holds)

include kept

theorem All.startSession (all : page.All holds) : (page.startSession opening).All holds := by
  unfold Page.startSession
  split
  · exact all
  · apply All.create
    · exact all
    · exact kept.microphone opening

theorem All.startRecording (all : page.All holds) (index : ℕ) :
    (page.startRecording index).All holds :=
  all.modify startRecording_created fun session _ => kept.startRecording session

theorem All.startRecordingOf (all : page.All holds) : page.startRecordingOf.All holds := by
  unfold Page.startRecordingOf
  split
  · exact all
  · exact all.startRecording kept _

theorem All.resume (all : page.All holds) (after : AfterStop) :
    (page.resume after opening).All holds := by
  cases after with
  | nothing => exact all
  | startSession => exact all.startSession kept
  | startRecording => exact (all.startSession kept).startRecordingOf kept
  | clearFileActive => exact all.of_created rfl

theorem All.stopSession (all : page.All holds) (after : AfterStop) :
    (page.stopSession after opening).All holds := by
  unfold Page.stopSession
  split
  · exact all.resume kept after
  · rename_i index _
    split
    · rename_i waits
      apply all.modify (update_created _)
      intro session found had
      rw [Option.mem_def.mp found] at waits
      exact kept.stopping session after had waits
    · rename_i free
      have halted : (page.update index Created.stopped).All holds := by
        apply all.modify (update_created _)
        intro session found had
        rw [Option.mem_def.mp found] at free
        exact kept.stopped session had (Bool.eq_false_iff.mpr free)
      apply All.resume kept
      exact halted

theorem All.toggleSession (all : page.All holds) : (page.toggleSession opening).All holds := by
  unfold Page.toggleSession
  split
  · exact all.stopSession kept _
  · split
    · exact all.startSession kept
    · exact all.stopSession kept _

theorem All.toggleRecording (all : page.All holds) : (page.toggleRecording opening).All holds := by
  unfold Page.toggleRecording
  split
  · exact (all.startSession kept).startRecordingOf kept
  · split
    · exact all.stopSession kept _
    · split
      · exact all
      · split
        · exact all.modify (update_created _) fun session _ => kept.stopRecording session
        · exact all.startRecording kept _

theorem All.endFileSession (all : page.All holds) : (page.endFileSession opening).All holds := by
  apply All.stopSession kept
  exact all

theorem All.event (all : page.All holds) {index : ℕ} {event : AdminSpa.Action π} {next : Page π}
    (may : ∀ session ∈ page.created[index]?, allowed session event)
    (taken : page.event numberText index event opening = some next) : next.All holds := by
  unfold Page.event at taken
  split at taken
  · cases taken
  · rename_i session found
    split at taken
    · rename_i fromBrowser
      obtain ⟨impl, moved, rfl⟩ := Option.map_eq_some_iff.mp taken
      have received : (page.update index fun session => session.receive event impl).All holds := by
        apply all.modify (update_created _)
        intro other present had
        cases found.symm.trans present
        exact kept.receive session event impl had fromBrowser (may session found) moved
      dsimp only
      split
      · exact received
      · apply All.resume kept
        exact received
    · cases taken

theorem All.tick (all : page.All holds) {index : ℕ} {now : ℚ} {throws : Bool} {next : Page π}
    (taken : page.tick index now throws = some next) : next.All holds := by
  unfold Page.tick at taken
  split at taken
  · cases taken
  · rename_i session found
    split at taken
    · cases taken
    · rename_i source fromFile
      split at taken
      · rename_i ticking
        split at taken
        · rename_i past
          have finished : (page.update index fun session =>
              { session with source := some source.finish }).All holds := by
            apply all.modify (update_created _)
            intro other present had
            cases found.symm.trans present
            exact kept.finish session source had fromFile ticking past
          cases taken
          split
          · exact finished
          · exact finished.of_created (onFileFramesComplete_created _)
        · rename_i pcm inside
          have emitted : (page.update index fun session =>
              session.tick source pcm now throws).All holds := by
            apply all.modify (update_created _)
            intro other present had
            cases found.symm.trans present
            exact kept.tick session source pcm now throws had fromFile ticking inside
          cases taken
          split
          · exact emitted.of_created (onFileFramesComplete_created _)
          · exact emitted
      · cases taken

/-- What every step keeps that only brings events that are allowed. -/
theorem All.step (all : page.All holds) {action : Action π} {next : Page π}
    (may : ∀ (index : ℕ) event opening, action = .event index event opening →
      ∀ session ∈ page.created[index]?, allowed session event)
    (taken : RealtimePage.step numberText page action = some next) : next.All holds := by
  cases action with
  | startSession opening =>
      cases taken
      exact all.startSession kept
  | stopSession opening =>
      cases taken
      exact all.stopSession kept _
  | toggleSession opening =>
      cases taken
      exact all.toggleSession kept
  | toggleRecording opening =>
      cases taken
      exact all.toggleRecording kept
  | selectFile selected =>
      cases taken
      exact all.of_created rfl
  | transcribeFile =>
      cases taken
      apply all.of_created
      unfold Page.transcribeFile
      split
      · rfl
      · split <;> rfl
  | decoded frames opening =>
      simp only [RealtimePage.step] at taken
      split at taken
      · cases taken
        cases frames with
        | none => exact all.of_created rfl
        | some frames =>
            apply All.startRecordingOf kept
            apply All.create
            · exact all
            · exact kept.file frames opening
      · cases taken
  | endFileSession opening =>
      cases taken
      exact all.endFileSession kept
  | sessionButton opening =>
      cases taken
      split
      · exact all.endFileSession kept
      · exact all.toggleSession kept
  | microphoneButton opening =>
      cases taken
      split
      · exact all
      · exact all.toggleRecording kept
  | fileDrainTimer opening =>
      simp only [RealtimePage.step] at taken
      split at taken
      · cases taken
      · cases taken
        apply All.endFileSession kept
        exact all
  | tick index now throws => exact all.tick kept taken
  | event index event opening => exact all.event kept (may index event opening rfl) taken

end Kept

end Page

end Panakoes.AdminSpa.RealtimePage
