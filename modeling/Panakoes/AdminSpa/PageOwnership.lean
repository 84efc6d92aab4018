import Mathlib.Data.List.InsertIdx
import Panakoes.AdminSpa.RealtimePage
import Panakoes.AdminSpa.RecordingStop
import Panakoes.AdminSpa.TerminalStatus

/-! # The page owns its session

Whether the only session that is not over is the one that the page's variable holds. A
handler asks for the variable before it waits and writes it afterwards: `stopSession` clears
it and `transcribeFile` overwrites it, whatever it holds by then.
-/

namespace Panakoes.AdminSpa.RealtimePage

open Transition

variable {π : Type*} {numberText : ℚ → String}

/-! ## Sessions that are over -/

/-- The event makes a session go on that is over. -/
def Revives (state : State π) : AdminSpa.Action π → Prop
  | .opened _ => state.status.Terminal
  | .message _ data _ => state.status.Terminal ∧ SaysReady data ∧ state.readyReceived = false
  | _ => False

section

variable {state next : State π}

theorem setEnded_terminal : state.setEnded.status.Terminal := by
  unfold State.setEnded
  split
  · rename_i terminal
    exact terminal
  · rw [State.setStatus_status]
    exact Or.inl rfl

theorem finishStop_terminal : state.finishStop.status.Terminal := setEnded_terminal

theorem stopNow_terminal : (stopNow state).status.Terminal := by
  unfold stopNow
  split
  · rename_i detached
    simp only [State.stop, detached]
    exact finishStop_terminal
  · exact finishStop_terminal

/-- A `stop()` that waits has not changed the status yet. -/
theorem stop_status (attached : state.recorder.worklet.isSome) :
    state.stop.status = state.status := by
  obtain ⟨worklet, held⟩ := Option.isSome_iff_exists.mp attached
  simp only [State.stop, held]
  rfl

theorem stopRecording_status : state.stopRecording.status = state.status := by
  unfold State.stopRecording
  split
  · split <;> rfl
  · rfl

theorem stopRecordingNow_status : (stopRecordingNow state).status = state.status := by
  unfold stopRecordingNow
  split
  · exact stopRecording_status
  · split
    · exact stopRecording_status
    · rfl

theorem onReady_terminal_iff (terminal : state.status.Terminal) :
    state.onReady.status.Terminal ↔ state.readyReceived = true := by
  unfold State.onReady
  cases state.readyReceived with
  | true => exact iff_of_true terminal rfl
  | false =>
      refine iff_of_false ?_ Bool.false_ne_true
      simp only [Bool.false_eq_true, ↓reduceIte]
      split
      · rw [State.setStatus_status]
        decide
      · simp only [State.armCatchupTimer, State.setStatus_status]
        decide

theorem dispatch_terminal_iff (terminal : state.status.Terminal) (fields : List (String × PyJson))
    (throws : Bool) :
    (state.dispatch numberText fields throws).status.Terminal ↔
      ¬ (messageType fields = .ready ∧ state.readyReceived = false) := by
  unfold State.dispatch
  cases messageType fields with
  | ready =>
      rw [onReady_terminal_iff terminal, not_and, Bool.not_eq_false]
      exact (imp_iff_right rfl).symm
  | partialResult => exact iff_of_true terminal fun wrong => by cases wrong.1
  | final => exact iff_of_true terminal fun wrong => by cases wrong.1
  | finalChunk =>
      refine iff_of_true ?_ fun wrong => by cases wrong.1
      obtain ⟨_, _, changed⟩ := state.bufferChunk_eq fields
      rw [changed]
      exact terminal
  | ended =>
      refine iff_of_true ?_ fun wrong => by cases wrong.1
      rw [State.setStatus_status]
      exact Or.inl rfl
  | error =>
      refine iff_of_true ?_ fun wrong => by cases wrong.1
      rw [State.setStatus_status]
      exact Or.inr rfl
  | ping =>
      refine iff_of_true ?_ fun wrong => by cases wrong.1
      dsimp only [State.sendPingEcho, State.send]
      split
      · split
        · exact terminal
        · exact terminal
      · exact terminal
  | other => exact iff_of_true terminal fun wrong => by cases wrong.1

theorem handleMessage_terminal_iff (terminal : state.status.Terminal) (data : Option PyJson)
    (throws : Bool) :
    (state.handleMessage numberText data throws).status.Terminal ↔
      ¬ (SaysReady data ∧ state.readyReceived = false) := by
  unfold State.handleMessage
  rw [resetStallWatchdog_of_terminal terminal]
  split
  · exact dispatch_terminal_iff terminal _ throws
  · rename_i notObject
    refine iff_of_true terminal fun ready => ?_
    match data with
    | some (.dict fields) => exact notObject fields rfl
    | none | some .none | some (.bool _) | some (.int _) | some (.float _) | some (.str _)
    | some (.list _) => exact ready.1

theorem catchup_terminal (terminal : state.status.Terminal) (now : ℚ) (throws : Bool) :
    (state.catchup now throws).status.Terminal := by
  unfold State.catchup
  split
  · dsimp only
    split
    · rename_i catching
      rw [catching] at terminal
      exact absurd terminal (by decide)
    · exact terminal
  · rename_i frame rest _
    obtain ⟨_, _, changed⟩ :=
      transmitFrame_eq { state with pendingFrames := rest } frame now throws
    rw [changed]
    exact terminal

/-- A session that is over stays so, unless an event makes it go on. -/
theorem terminal_iff_of_step {event : AdminSpa.Action π} {session : Created π}
    (fromBrowser : FromBrowser session event) (terminal : state.status.Terminal)
    (taken : AdminSpa.step numberText state event = some next) :
    next.status.Terminal ↔ ¬ Revives state event := by
  cases event with
  | start _ _ | stop | startRecording | stopRecording => exact fromBrowser.elim
  | microphone stream =>
      simp only [AdminSpa.step] at taken
      split at taken
      · cases taken
        exact iff_of_true terminal id
      · cases taken
  | worklet worklet =>
      simp only [AdminSpa.step] at taken
      split at taken
      · cases taken
        exact iff_of_true terminal id
      · cases taken
  | workletStopped index =>
      obtain ⟨pending, -, finished⟩ := Option.map_eq_some_iff.mp taken
      subst finished
      refine iff_of_true ?_ id
      cases pending with
      | session => exact finishStop_terminal
      | recording => exact terminal
  | captured pcm now throws =>
      cases taken
      rw [handleFrame_status]
      exact iff_of_true terminal id
  | opened socket =>
      simp only [AdminSpa.step] at taken
      split at taken
      · cases taken
        refine iff_of_false ?_ (not_not_intro terminal)
        simp only [State.onOpen, State.armSpawnPing, State.setStatus_status]
        decide
      · cases taken
  | message socket data throws =>
      simp only [AdminSpa.step] at taken
      split at taken
      · cases taken
        refine (handleMessage_terminal_iff ?_ data throws).trans ?_
        · exact terminal
        · exact not_congr (and_iff_right terminal).symm
      · cases taken
  | transportError socket =>
      simp only [AdminSpa.step] at taken
      split at taken
      · cases taken
      · cases taken
        exact iff_of_true terminal id
  | closed socket =>
      simp only [AdminSpa.step] at taken
      split at taken
      · cases taken
      · cases taken
        exact iff_of_true setEnded_terminal id
  | spawnPing throws =>
      simp only [AdminSpa.step] at taken
      split at taken
      · cases taken
        refine iff_of_true ?_ id
        dsimp only [State.sendPing, State.send]
        split
        · split
          · exact terminal
          · exact terminal
        · exact terminal
      · cases taken
  | catchup now throws =>
      simp only [AdminSpa.step] at taken
      split at taken
      · cases taken
        exact iff_of_true (catchup_terminal terminal now throws) id
      · cases taken
  | spawnStall =>
      simp only [AdminSpa.step] at taken
      split at taken
      · cases taken
        exact iff_of_true terminal id
      · cases taken

end

/-! ## Ownership -/

namespace Page

/-- The statuses of the sessions that the page has created. -/
def statuses (page : Page π) : List StreamStatus :=
  page.created.map fun session => session.impl.status

/-- Every session is over but the one that the page's variable holds. -/
def Owned (page : Page π) : Prop :=
  ∀ index : ℕ, ∀ status ∈ page.statuses[index]?, ¬ status.Terminal → page.session = some index

/-- Every session is over. -/
def AllOver (page : Page π) : Prop := ∀ status ∈ page.statuses, status.Terminal

variable {page other : Page π} {index : ℕ} {opening : Opening}

/-- At most one session is not over. -/
theorem Owned.unique (owned : page.Owned) {first second : ℕ} {one two : StreamStatus}
    (here : page.statuses[first]? = some one) (active : ¬ one.Terminal)
    (there : page.statuses[second]? = some two) (alsoActive : ¬ two.Terminal) : first = second :=
  Option.some.inj
    ((owned first one here active).symm.trans (owned second two there alsoActive))

theorem AllOver.owned (finished : page.AllOver) : page.Owned :=
  fun _ status found active => absurd (finished status (List.mem_of_getElem? found)) active

theorem owned_iff_allOver (empty : page.session = none) : page.Owned ↔ page.AllOver := by
  refine ⟨fun owned status member => ?_, AllOver.owned⟩
  by_contra active
  obtain ⟨index, found⟩ := List.getElem?_of_mem member
  exact absurd (empty.symm.trans (owned index status found active)) (Option.some_ne_none _).symm

theorem owned_congr (statuses : other.statuses = page.statuses)
    (session : other.session = page.session) : other.Owned ↔ page.Owned := by
  unfold Owned
  rw [statuses, session]

theorem getElem?_statuses (place : ℕ) :
    page.statuses[place]? = (page.created[place]?).map fun session => session.impl.status :=
  List.getElem?_map

/-- A session that changes without changing its status. -/
theorem statuses_of_same {change : Created π → Created π}
    (changed : other.created = page.created.modify index change)
    (same : ∀ session ∈ page.created[index]?, (change session).impl.status = session.impl.status) :
    other.statuses = page.statuses := by
  apply List.ext_getElem?
  intro place
  rw [getElem?_statuses, getElem?_statuses, changed, List.getElem?_modify]
  cases found : page.created[place]? with
  | none => rfl
  | some session =>
      by_cases here : index = place
      · subst here
        simp only [↓reduceIte, Option.map_eq_map, Option.map_some, Option.some.injEq]
        exact same session found
      · simp only [here, ↓reduceIte, Option.map_eq_map, Option.map_some]

/-- A session that changes leaves the statuses of the others. -/
theorem statuses_of_ne {change : Created π → Created π}
    (changed : other.created = page.created.modify index change) {place : ℕ}
    (elsewhere : index ≠ place) : other.statuses[place]? = page.statuses[place]? := by
  rw [getElem?_statuses, getElem?_statuses, changed, List.getElem?_modify]
  simp only [elsewhere, ↓reduceIte, Option.map_eq_map, Option.map_map]
  rfl

theorem exists_of_statuses {change : Created π → Created π}
    (changed : other.created = page.created.modify index change) {status : StreamStatus}
    (found : other.statuses[index]? = some status) :
    ∃ session ∈ page.created[index]?, (change session).impl.status = status := by
  rw [getElem?_statuses, changed, List.getElem?_modify_eq, Option.map_eq_map, Option.map_map] at found
  exact Option.map_eq_some_iff.mp found

/-- One session changes: it has to be over unless the variable holds it. -/
theorem Owned.modify_iff (owned : page.Owned) {change : Created π → Created π}
    (changed : other.created = page.created.modify index change)
    (same : other.session = page.session) {session : Created π}
    (found : page.created[index]? = some session) :
    other.Owned ↔
      (page.session ≠ some index → (change session).impl.status.Terminal) := by
  have here : other.statuses[index]? = some (change session).impl.status := by
    rw [getElem?_statuses, changed, List.getElem?_modify_eq, found]
    rfl
  constructor
  · intro after elsewhere
    by_contra active
    exact elsewhere (same.symm.trans (after index _ here active))
  · intro finished place status present active
    rw [same]
    by_cases atIndex : index = place
    · subst atIndex
      by_contra elsewhere
      cases here.symm.trans present
      exact active (finished elsewhere)
    · rw [statuses_of_ne changed atIndex] at present
      exact owned place status present active

/-- One session changes and is over: the others have to be. -/
theorem Owned.modify_allOver_iff (owned : page.Owned) {change : Created π → Created π}
    (changed : other.created = page.created.modify index change)
    (finished : ∀ session ∈ page.created[index]?, (change session).impl.status.Terminal) :
    other.AllOver ↔
      (page.session ≠ some index →
        ∀ held ∈ page.session, ∀ status ∈ page.statuses[held]?, status.Terminal) := by
  constructor
  · intro after elsewhere held isHeld status found
    have distinct : index ≠ held := fun same => elsewhere (same ▸ isHeld)
    rw [← statuses_of_ne changed distinct] at found
    exact after status (List.mem_of_getElem? found)
  · intro others status member
    obtain ⟨place, found⟩ := List.getElem?_of_mem member
    by_cases atIndex : index = place
    · subst atIndex
      obtain ⟨session, present, same⟩ := exists_of_statuses changed found
      exact same ▸ finished session present
    · rw [statuses_of_ne changed atIndex] at found
      by_contra active
      have held := owned place status found active
      have elsewhere : page.session ≠ some index :=
        fun same => atIndex (Option.some.inj (same.symm.trans held))
      exact active (others elsewhere place held status found)

/-! ### The handlers -/

theorem create_owned_iff (source : Option (Source π)) :
    (page.create source opening).Owned ↔ page.AllOver := by
  have appended : (page.create source opening).statuses =
      page.statuses ++ [((Created.fresh source).start opening).impl.status] := by
    unfold statuses
    rw [create_created, List.map_append]
    rfl
  have size : page.statuses.length = page.created.length := List.length_map _
  unfold Owned
  rw [appended, create_session, ← size]
  constructor
  · intro owned status member
    by_contra active
    obtain ⟨index, inside, found⟩ := List.mem_iff_getElem.mp member
    have present : (page.statuses ++ [((Created.fresh source).start opening).impl.status])[index]? =
        some status := by
      rw [List.getElem?_append_left inside, List.getElem?_eq_getElem inside, found]
    have last := Option.some.inj (owned index status present active)
    exact absurd inside (Nat.not_lt.mpr last.le)
  · intro finished index status found active
    rcases Nat.lt_or_ge index page.statuses.length with inside | beyond
    · rw [List.getElem?_append_left inside] at found
      exact absurd (finished status (List.mem_of_getElem? found)) active
    · obtain ⟨bound, -⟩ := List.getElem?_eq_some_iff.mp found
      rw [List.length_append, List.length_singleton] at bound
      rw [Nat.le_antisymm beyond (Nat.lt_succ_iff.mp bound)]

theorem startRecording_statuses : (page.startRecording index).statuses = page.statuses := by
  apply statuses_of_same startRecording_created
  intro session _
  unfold Created.startRecording
  split
  · rfl
  · split <;> rfl

theorem startRecordingOf_owned_iff : page.startRecordingOf.Owned ↔ page.Owned := by
  unfold startRecordingOf
  split
  · exact Iff.rfl
  · exact owned_congr startRecording_statuses startRecording_session

theorem startSession_owned_iff (empty : page.session = none) :
    (page.startSession opening).Owned ↔ page.AllOver := by
  unfold startSession
  split
  · exact owned_iff_allOver empty
  · exact create_owned_iff none

theorem Owned.startSession (owned : page.Owned) : (page.startSession opening).Owned := by
  cases held : page.session with
  | none => exact (startSession_owned_iff held).mpr ((owned_iff_allOver held).mp owned)
  | some index =>
      have blocked : live page.status = true ∨ page.session ≠ none :=
        Or.inr (held ▸ Option.some_ne_none index)
      unfold Page.startSession
      rw [if_pos blocked]
      exact owned

theorem resume_owned_iff (empty : page.session = none) (after : AfterStop) :
    (page.resume after opening).Owned ↔ page.AllOver := by
  cases after with
  | nothing => exact owned_iff_allOver empty
  | startSession => exact startSession_owned_iff empty
  | startRecording => exact startRecordingOf_owned_iff.trans (startSession_owned_iff empty)
  | clearFileActive =>
      have cleared : ({ page with fileActive := false } : Page π).session = none := empty
      exact owned_iff_allOver cleared

/-- Clearing the variable is right if every session is over. -/
theorem stopped_owned_iff (after : AfterStop) :
    (page.stopped after opening).Owned ↔ page.AllOver :=
  resume_owned_iff rfl after

theorem Owned.stopSession (owned : page.Owned) (after : AfterStop) :
    (page.stopSession after opening).Owned := by
  unfold Page.stopSession
  split
  · rename_i empty
    exact (resume_owned_iff empty after).mpr ((owned_iff_allOver empty).mp owned)
  · rename_i index held
    split
    · rename_i waits
      refine (owned_congr (statuses_of_same (update_created _) ?_) (update_session _)).mpr owned
      intro session found
      rw [Option.mem_def.mp found] at waits
      exact stop_status (Bool.and_eq_true_iff.mp waits).2
    · rw [stopped_owned_iff, owned.modify_allOver_iff (update_created _) fun _ _ => stopNow_terminal]
      exact fun elsewhere => absurd held elsewhere

theorem Owned.toggleSession (owned : page.Owned) : (page.toggleSession opening).Owned := by
  unfold Page.toggleSession
  split
  · exact owned.stopSession _
  · split
    · exact owned.startSession
    · exact owned.stopSession _

theorem stopRecording_statuses :
    (page.update index Created.stopRecording).statuses = page.statuses := by
  apply statuses_of_same (update_created _)
  intro session _
  unfold Created.stopRecording
  split
  · exact stopRecording_status
  · exact stopRecordingNow_status

theorem Owned.toggleRecording (owned : page.Owned) : (page.toggleRecording opening).Owned := by
  unfold Page.toggleRecording
  split
  · exact startRecordingOf_owned_iff.mpr owned.startSession
  · split
    · exact owned.stopSession _
    · split
      · exact owned
      · split
        · exact (owned_congr stopRecording_statuses (update_session _)).mpr owned
        · exact (owned_congr startRecording_statuses startRecording_session).mpr owned

theorem Owned.endFileSession (owned : page.Owned) : (page.endFileSession opening).Owned := by
  apply Owned.stopSession
  exact owned

theorem Owned.transcribeFile (owned : page.Owned) : page.transcribeFile.Owned := by
  unfold Page.transcribeFile
  split
  · exact owned
  · split
    · exact owned
    · exact owned

/-- A tick of a file frame source changes no status and not the variable. -/
theorem Owned.tick (owned : page.Owned) {now : ℚ} {throws : Bool} {next : Page π}
    (taken : page.tick index now throws = some next) : next.Owned := by
  unfold Page.tick at taken
  split at taken
  · cases taken
  · split at taken
    · cases taken
    · rename_i source _
      split at taken
      · split at taken
        · have finished : (page.update index fun session =>
              { session with source := some source.finish }).Owned := by
            refine (owned_congr (statuses_of_same (update_created _) ?_) (update_session _)).mpr owned
            exact fun _ _ => rfl
          cases taken
          split
          · exact finished
          · refine (owned_congr ?_ (onFileFramesComplete_session _)).mpr finished
            rw [statuses, onFileFramesComplete_created]
            rfl
        · rename_i pcm _
          have emitted : (page.update index fun session =>
              session.tick source pcm now throws).Owned :=
            (owned_congr (statuses_of_same (update_created _) fun session _ =>
              handleFrame_status session.impl pcm now throws) (update_session _)).mpr owned
          cases taken
          split
          · refine (owned_congr ?_ (onFileFramesComplete_session _)).mpr emitted
            rw [statuses, onFileFramesComplete_created]
            rfl
          · exact emitted
      · cases taken

end Page

/-- What may not happen to a session that the page's variable does not hold, and what the
variable may hold when it is written. -/
def Undisturbed (page : Page π) : Action π → Prop
  | .decoded (some _) _ =>
      ∀ index ∈ page.session, ∀ status ∈ page.statuses[index]?, status.Terminal
  | .event index event _ =>
      page.session ≠ some index →
        ∀ session ∈ page.created[index]?,
          ¬ Revives session.impl event ∧
          ((session.resumed event).isSome →
            ∀ held ∈ page.session, ∀ status ∈ page.statuses[held]?, status.Terminal)
  | _ => True

/-! ## What waits for a worklet -/

/-- The call that a waiter belongs to. -/
def waiterStop : Option AfterStop → PendingStop
  | some _ => .session
  | none => .recording

/-- Each of the pending stops has its waiter. -/
def Created.Paired (session : Created π) : Prop :=
  session.waiters.map waiterStop = session.impl.stops

/-- What changes neither the waiters nor the pending stops keeps them paired. -/
theorem Created.Paired.congr {session changed : Created π} (paired : session.Paired)
    (waiters : changed.waiters = session.waiters) (stops : changed.impl.stops = session.impl.stops) :
    changed.Paired := by
  unfold Paired
  rw [waiters, stops]
  exact paired

theorem stops_of_recording {state next : State π} (same : next.recording = state.recording) :
    next.stops = state.stops :=
  congrArg Prod.snd same

theorem finish_stops (state : State π) (pending : PendingStop) :
    (state.finish pending).stops = state.stops :=
  congrArg Prod.snd (State.recording_finish pending)

theorem start_stops (state : State π) (opens : Bool) (now : ℚ) :
    (state.start opens now).stops = state.stops :=
  stops_of_recording (State.recording_start opens now)

theorem stop_stops {state : State π} (attached : state.recorder.worklet.isSome) :
    state.stop.stops = state.stops ++ [.session] := by
  have halted : state.stop.stops = (halted state.recorder state.stops .session).2 :=
    congrArg Prod.snd State.recording_stop
  obtain ⟨worklet, held⟩ := Option.isSome_iff_exists.mp attached
  rw [halted, AdminSpa.halted, held]

theorem stopNow_stops (state : State π) : (stopNow state).stops = state.stops := by
  unfold stopNow
  split
  · rename_i detached
    have halted : state.stop.stops = (halted state.recorder state.stops .session).2 :=
      congrArg Prod.snd State.recording_stop
    rw [halted, AdminSpa.halted, detached]
  · exact congrArg Prod.snd State.recording_finishStop

theorem stopRecordingNow_stops (state : State π) : (stopRecordingNow state).stops = state.stops := by
  unfold stopRecordingNow
  split
  · rename_i detached
    unfold State.stopRecording
    rw [detached]
    split <;> rfl
  · split <;> rfl

theorem Created.paired_stopRecording {session : Created π} (paired : session.Paired) :
    session.stopRecording.Paired := by
  unfold Created.stopRecording
  split
  · unfold Created.Paired at paired ⊢
    have stops : session.impl.stopRecording.stops =
        if session.impl.recorder.isRecording = true ∧ session.impl.recorder.worklet ≠ none then
          session.impl.stops ++ [.recording]
        else session.impl.stops := by
      unfold State.stopRecording
      cases session.impl.recorder.isRecording with
      | false => rfl
      | true =>
          cases session.impl.recorder.worklet with
          | none => rfl
          | some worklet => rfl
    rw [stops]
    dsimp only
    split
    · rw [List.map_append, paired]
      rfl
    · exact paired
  · exact paired.congr rfl (stopRecordingNow_stops _)

theorem Created.paired_startRecording {session : Created π} (paired : session.Paired) :
    session.startRecording.Paired := by
  unfold Created.startRecording
  split
  · exact paired
  · split
    · exact paired
    · exact paired

theorem Created.paired_receive {session : Created π} {event : AdminSpa.Action π} {impl : State π}
    (paired : session.Paired) (fromBrowser : FromBrowser session event)
    (taken : AdminSpa.step numberText session.impl event = some impl) :
    (session.receive event impl).Paired := by
  cases event with
  | start _ _ | stop | startRecording | stopRecording => exact fromBrowser.elim
  | workletStopped index =>
      obtain ⟨pending, -, finished⟩ := Option.map_eq_some_iff.mp taken
      subst finished
      unfold Created.Paired at paired ⊢
      simp only [Created.receive]
      rw [finish_stops, ← paired]
      exact (List.eraseIdx_map _ _ _).symm
  | microphone stream =>
      simp only [AdminSpa.step] at taken
      split at taken
      · cases taken
        exact paired
      · cases taken
  | worklet worklet =>
      simp only [AdminSpa.step] at taken
      split at taken
      · cases taken
        exact paired
      · cases taken
  | captured _ _ _ | opened _ | message _ _ _ | transportError _ | closed _ | spawnPing _
  | catchup _ _ | spawnStall =>
      have same := stops_of_recording (recording_of_leavesRecorder (by trivial) taken)
      exact paired.congr rfl same

/-- Every session has its pending stops paired with their waiters. -/
theorem kept_paired : Kept numberText (fun _ _ => True) (Created.Paired (π := π)) where
  microphone opening := (start_stops .initial opening.opens opening.now).symm
  file frames opening := (start_stops .initial opening.opens opening.now).symm
  stopping session after paired waits := by
    unfold Created.Paired at paired ⊢
    simp only [Created.stopping]
    rw [List.map_append, paired, stop_stops (Bool.and_eq_true_iff.mp waits).2]
    rfl
  stopped session paired _ := paired.congr rfl (stopNow_stops session.impl)
  startRecording _ paired := Created.paired_startRecording paired
  stopRecording _ paired := Created.paired_stopRecording paired
  receive _ _ _ paired fromBrowser _ taken := Created.paired_receive paired fromBrowser taken
  tick session source pcm now throws paired _ _ _ :=
    paired.congr rfl (stops_of_recording (State.recording_handleFrame pcm now throws))
  finish _ _ paired _ _ _ := paired

/-- What waits for a `stop()` goes on once the session is over. -/
theorem terminal_of_resumed {session : Created π} {event : AdminSpa.Action π} {impl : State π}
    {after : AfterStop} (paired : session.Paired) (resumed : session.resumed event = some after)
    (taken : AdminSpa.step numberText session.impl event = some impl) : impl.status.Terminal := by
  cases event with
  | workletStopped index =>
      have waiter : session.waiters[index]? = some (some after) := Option.join_eq_some_iff.mp resumed
      have waited : session.impl.stops[index]? = some .session := by
        rw [← paired, List.getElem?_map, waiter]
        rfl
      simp only [AdminSpa.step, waited, Option.map_some, Option.some.injEq] at taken
      subst taken
      exact finishStop_terminal
  | _ => cases resumed

/-! ## Steps and runs -/

section

variable {page next : Page π} {index : ℕ} {event : AdminSpa.Action π} {opening : Opening}

/-- An event keeps the page its session's owner if and only if it leaves the others over. -/
theorem event_owned_iff (owned : page.Owned) (paired : page.All Created.Paired)
    (taken : page.event numberText index event opening = some next) :
    next.Owned ↔ Undisturbed page (.event index event opening) := by
  unfold Page.event at taken
  cases found : page.created[index]? with
  | none =>
      simp only [found] at taken
      cases taken
  | some session =>
      simp only [found] at taken
      split at taken
      · rename_i fromBrowser
        obtain ⟨impl, moved, rfl⟩ := Option.map_eq_some_iff.mp taken
        have survives : page.session ≠ some index →
            (impl.status.Terminal ↔ ¬ Revives session.impl event) := by
          intro elsewhere
          refine terminal_iff_of_step fromBrowser ?_ moved
          by_contra active
          refine elsewhere (owned index _ ?_ active)
          rw [Page.getElem?_statuses, found]
          rfl
        simp only [Undisturbed, found, Option.mem_some_iff, forall_eq']
        cases resumed : session.resumed event with
        | none =>
            dsimp only
            rw [owned.modify_iff (Page.update_created _) (Page.update_session _) found]
            refine forall_congr' fun elsewhere => (survives elsewhere).trans ?_
            exact (and_iff_left fun wrong => absurd wrong Bool.false_ne_true).symm
        | some after =>
            have finished : impl.status.Terminal :=
              terminal_of_resumed (paired index session found) resumed moved
            dsimp only
            rw [Page.stopped_owned_iff, owned.modify_allOver_iff (Page.update_created _)
              fun _ _ => finished]
            refine forall_congr' fun elsewhere => ?_
            rw [and_iff_right ((survives elsewhere).mp finished), Option.isSome_some]
            exact (imp_iff_right rfl).symm
      · cases taken

/-- The decoded file's session replaces one that is over. -/
theorem decoded_owned_iff (owned : page.Owned) (frames : Option (List π)) :
    (page.decoded frames opening).Owned ↔ Undisturbed page (.decoded frames opening) := by
  cases frames with
  | none => exact iff_of_true owned trivial
  | some frames =>
      refine Page.startRecordingOf_owned_iff.trans ((Page.create_owned_iff _).trans ?_)
      constructor
      · intro finished held _ status found
        exact finished status (List.mem_of_getElem? found)
      · intro undisturbed status member
        obtain ⟨place, found⟩ := List.getElem?_of_mem member
        by_contra active
        exact active (undisturbed place (owned place status found active) status found)

theorem step_owned_iff (owned : page.Owned) (paired : page.All Created.Paired) {action : Action π}
    (taken : step numberText page action = some next) : next.Owned ↔ Undisturbed page action := by
  cases action with
  | startSession opening =>
      cases taken
      exact iff_of_true owned.startSession trivial
  | stopSession opening =>
      cases taken
      exact iff_of_true (owned.stopSession _) trivial
  | toggleSession opening =>
      cases taken
      exact iff_of_true owned.toggleSession trivial
  | toggleRecording opening =>
      cases taken
      exact iff_of_true owned.toggleRecording trivial
  | selectFile selected =>
      cases taken
      exact iff_of_true owned trivial
  | transcribeFile =>
      cases taken
      exact iff_of_true owned.transcribeFile trivial
  | decoded frames opening =>
      simp only [step] at taken
      split at taken
      · cases taken
        exact decoded_owned_iff owned frames
      · cases taken
  | endFileSession opening =>
      cases taken
      exact iff_of_true owned.endFileSession trivial
  | sessionButton opening =>
      cases taken
      refine iff_of_true ?_ trivial
      split
      · exact owned.endFileSession
      · exact owned.toggleSession
  | microphoneButton opening =>
      cases taken
      refine iff_of_true ?_ trivial
      split
      · exact owned
      · exact owned.toggleRecording
  | fileDrainTimer opening =>
      simp only [step] at taken
      split at taken
      · cases taken
      · cases taken
        refine iff_of_true (Page.Owned.endFileSession ?_) trivial
        exact owned
  | tick index now throws => exact iff_of_true (owned.tick taken) trivial
  | event index event opening => exact event_owned_iff owned paired taken

end

variable {actions : List (Action π)}

/-- **The page owns its session** in every state of a run if and only if no step disturbs that. -/
theorem page_owned_iff :
    (∀ taken, taken <+: actions →
      ∀ page ∈ execute (step numberText) (Page.initial : Page π) taken, page.Owned) ↔
      Meets (step numberText)
        (fun _ page action => (step numberText page action).isSome → Undisturbed page action) []
        (Page.initial : Page π) actions := by
  have start : (Page.initial : Page π).Owned := fun _ _ found => by cases found
  have paired : (Page.initial : Page π).All Created.Paired := fun _ _ found => by cases found
  rw [forall_reached_iff, and_iff_right start]
  have kept : ∀ (_ : List (Action π)) (page : Page π) (action : Action π) (next : Page π),
      (page.Owned ∧ page.All Created.Paired) →
      ((step numberText page action).isSome → Undisturbed page action) →
      step numberText page action = some next → next.Owned ∧ next.All Created.Paired := by
    intro _ page action next ⟨owned, paired⟩ undisturbed taken
    have enabled : (step numberText page action).isSome := taken ▸ rfl
    refine ⟨(step_owned_iff owned paired taken).mpr (undisturbed enabled), ?_⟩
    exact paired.step kept_paired (fun _ _ _ _ _ _ => trivial) taken
  refine Meets.congr_of_kept kept ?_ ⟨start, paired⟩
  intro _ page action ⟨owned, paired⟩
  cases taken : step numberText page action with
  | none => exact iff_of_true (fun _ wrong => by cases wrong) fun wrong => by cases wrong
  | some next =>
      simp only [Option.mem_some_iff, forall_eq', Option.isSome_some, forall_const]
      exact step_owned_iff owned paired taken

/-! ## Clicks while a worklet stops -/

/-- The session button is clicked twice while the first click waits for the worklet, and then a
third time, to start another session. -/
def clicksDuringStop : List (Action Unit) :=
  [.microphoneButton ⟨true, 0⟩, .event 0 (.microphone (some 0)) ⟨true, 0⟩,
    .event 0 (.worklet (some 0)) ⟨true, 0⟩, .sessionButton ⟨true, 0⟩, .sessionButton ⟨true, 0⟩,
    .sessionButton ⟨true, 0⟩, .event 0 (.workletStopped 0) ⟨true, 0⟩]

/-- The first click clears the variable that holds the new session. -/
theorem clicksDuringStop_orphan :
    ∃ page ∈ execute (step sampleNumberText) (Page.initial : Page Unit) clicksDuringStop,
      page.statuses = [.ended, .connecting] ∧ page.session = none ∧ ¬ page.Owned := by
  refine ⟨_, rfl, rfl, rfl, ?_⟩
  intro owned
  have held := owned 1 .connecting rfl (by decide)
  exact absurd held (Option.some_ne_none 1).symm

end Panakoes.AdminSpa.RealtimePage
