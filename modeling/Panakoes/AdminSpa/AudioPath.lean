import Panakoes.AdminSpa.StreamingSession

/-! # The audio path

What the session transmits of the frames it captures. Frames go out directly or
through the queue that the catch-up timer drains, in the order they came in and
numbered in a row. That nothing goes out before the server is ready rests on
every catch-up interval having been armed by this session's `ready`.
-/

namespace Panakoes.AdminSpa

open Transition

variable {π : Type*} {numberText : ℚ → String} {state next final : State π}
  {actions : List (Action π)}

/-- The sequence number and the frame of an audio-frame message. -/
def Sent.frame : Sent π → Option (ℕ × π)
  | .audioFrame seq _ pcm => some (seq, pcm)
  | .ping | .pingEcho _ => none

/-- The audio frames sent since the last `start()`. -/
def State.frames (state : State π) : List (ℕ × π) := state.sent.filterMap Sent.frame

/-- `ws.send` does not throw in the action. -/
def Action.Delivers : Action π → Prop
  | .captured _ _ throws | .message _ _ throws | .spawnPing throws | .catchup _ throws =>
      throws = false
  | .start _ _ | .stop | .startRecording | .microphone _ | .worklet _ | .stopRecording
  | .workletStopped _ | .opened _ | .transportError _ | .closed _ | .spawnStall => True

/-- `start()` finds no catch-up interval running, and no socket but the present
one says that its server is ready while the session waits for that. -/
def CleanReady (_past : List (Action π)) (state : State π) : Action π → Prop
  | .start _ _ => state.status.Startable → ¬ state.catchupTimer.Running
  | .message (some _) data _ => SaysReady data → state.ws = none ∨ state.readyReceived = true
  | .message none _ _ | .stop | .startRecording | .microphone _ | .worklet _ | .stopRecording
  | .workletStopped _ | .captured _ _ _ | .opened _ | .transportError _ | .closed _
  | .spawnPing _ | .catchup _ _ | .spawnStall => True

/-- What the claim asks of the frames sent: numbered in a row, in capture order
and each at most once, and none before the server is ready. -/
structure InSequence (state : State π) : Prop where
  numbered : state.frames.map Prod.fst = List.range state.frames.length
  ordered : (state.frames.map Prod.snd).Sublist state.recordedPcm
  afterReady : state.frames ≠ [] → state.serverReady = true

/-! ## The invariant -/

/-- The frames sent and those queued are in capture order, and whatever can send
one has been set going by `ready`. -/
structure Sequenced (state : State π) : Prop where
  numbered : state.frames.map Prod.fst = List.range state.seq
  ordered : (state.frames.map Prod.snd ++ state.pendingFrames).Sublist state.recordedPcm
  direct : state.status = .transcribing → state.pendingFrames = []
  active : state.status = .catchingUp ∨ state.status = .transcribing →
    state.readyReceived = true
  timer : state.catchupTimer.Running → state.readyReceived = true
  server : state.readyReceived = true → state.ws = none ∨ state.serverReady = true
  afterReady : state.frames ≠ [] → state.serverReady = true

theorem Sequenced.inSequence (sequenced : Sequenced state) : InSequence state where
  numbered := by
    have length := congrArg List.length sequenced.numbered
    rw [List.length_map, List.length_range] at length
    rw [sequenced.numbered, length]
  ordered := (List.sublist_append_left _ _).trans sequenced.ordered
  afterReady := sequenced.afterReady

theorem Sequenced.initial : Sequenced (State.initial : State π) where
  numbered := rfl
  ordered := List.Sublist.slnil
  direct := by rintro ⟨⟩
  active := by
    rintro (catching | transcribing)
    · cases catching
    · cases transcribing
  timer := by
    rintro (armed | orphaned)
    · cases armed
    · exact absurd orphaned (Nat.lt_irrefl 0)
  server := by rintro ⟨⟩
  afterReady nonempty := absurd rfl nonempty

theorem Sequenced.setStatus (sequenced : Sequenced state) (status : StreamStatus)
    (direct : status = .transcribing → state.pendingFrames = [])
    (active : status = .catchingUp ∨ status = .transcribing → state.readyReceived = true) :
    Sequenced (state.setStatus status) := by
  obtain ⟨stall, changed⟩ := state.setStatus_eq status
  rw [changed]
  exact ⟨sequenced.numbered, sequenced.ordered, direct, active, sequenced.timer,
    sequenced.server, sequenced.afterReady⟩

/-- Statuses in which nothing is transmitted ask for nothing. -/
theorem Sequenced.setStatus_inactive (sequenced : Sequenced state) {status : StreamStatus}
    (inactive : status ≠ .catchingUp ∧ status ≠ .transcribing) :
    Sequenced (state.setStatus status) := by
  refine sequenced.setStatus status (fun same => absurd same inactive.2) ?_
  rintro (same | same)
  · exact absurd same inactive.1
  · exact absurd same inactive.2

/-- A frame that comes before those queued is transmitted. -/
theorem Sequenced.transmitFrame (sequenced : Sequenced state) {pcm : π} (now : ℚ)
    (next : (state.frames.map Prod.snd ++ pcm :: state.pendingFrames).Sublist
      state.recordedPcm)
    (ready : state.readyReceived = true) :
    Sequenced (state.transmitFrame pcm now false) := by
  unfold State.transmitFrame
  split
  · rename_i opened
    have served : state.serverReady = true := by
      rcases sequenced.server ready with none | served
      · cases none.symm.trans opened
      · exact served
    have frames : ({ state with seq := state.seq + 1 }.send
        (.audioFrame state.seq (now - state.startWallMs).floor pcm) false).frames =
        state.frames ++ [(state.seq, pcm)] := by
      simp [State.frames, State.send, Sent.frame]
    refine ⟨?_, ?_, sequenced.direct, sequenced.active, sequenced.timer, sequenced.server,
      fun _ => served⟩
    · rw [frames, List.map_append, sequenced.numbered]
      exact List.range_succ.symm
    · rw [frames, List.map_append, List.append_assoc]
      exact next
  · exact sequenced

/-- A frame is captured. -/
theorem Sequenced.handleFrame (sequenced : Sequenced state) (pcm : π) (now : ℚ) :
    Sequenced (state.handleFrame pcm now false) := by
  have recorded : Sequenced { state with recordedPcm := state.recordedPcm ++ [pcm] } :=
    { sequenced with ordered := sequenced.ordered.trans (List.sublist_append_left _ _) }
  have queued : state.status ≠ .transcribing →
      Sequenced { state with
        recordedPcm := state.recordedPcm ++ [pcm]
        pendingFrames := state.pendingFrames ++ [pcm] } := by
    intro indirect
    refine { recorded with
      ordered := ?_
      direct := fun same => absurd same indirect }
    rw [← List.append_assoc]
    exact sequenced.ordered.append (List.Sublist.refl _)
  unfold State.handleFrame
  split
  · rename_i status
    exact queued (by rw [status]; rintro ⟨⟩)
  · rename_i status
    exact queued (by rw [status]; rintro ⟨⟩)
  · rename_i status
    exact queued (by rw [status]; rintro ⟨⟩)
  · rename_i status
    refine recorded.transmitFrame now ?_ (sequenced.active (Or.inr status))
    have ordered := sequenced.ordered
    rw [sequenced.direct status, List.append_nil] at ordered
    rw [sequenced.direct status]
    exact ordered.append (List.Sublist.refl _)
  all_goals exact recorded

/-- A catch-up interval ticks. -/
theorem Sequenced.catchup (sequenced : Sequenced state) (running : state.catchupTimer.Running)
    (now : ℚ) : Sequenced (state.catchup now false) := by
  have ready := sequenced.timer running
  unfold State.catchup
  split
  · rename_i pending
    have cleared : Sequenced { state with catchupTimer := state.catchupTimer.clear } :=
      { sequenced with timer := fun _ => ready }
    dsimp only
    split
    · exact cleared.setStatus _ (fun _ => pending) (fun _ => ready)
    · exact cleared
  · rename_i frame rest pending
    have ordered := sequenced.ordered
    rw [pending] at ordered
    refine Sequenced.transmitFrame ?_ now ordered ready
    refine { sequenced with ordered := ?_, direct := ?_ }
    · exact ((List.Sublist.refl _).append (List.sublist_cons_self _ _)).trans ordered
    · intro transcribing
      rw [sequenced.direct transcribing] at pending
      cases pending

/-- The server is ready. -/
theorem Sequenced.onReady (sequenced : Sequenced state)
    (server : state.ws = none ∨ state.serverReady = true ∨ state.readyReceived = true) :
    Sequenced state.onReady := by
  unfold State.onReady
  split
  · exact sequenced
  · rename_i waiting
    have served : state.ws = none ∨ state.serverReady = true := by
      rcases server with absent | served | received
      · exact Or.inl absent
      · exact Or.inr served
      · exact absurd received waiting
    have ready : Sequenced { state with
        readyReceived := true
        spawnPingTimer := state.spawnPingTimer.clear } :=
      { sequenced with
        active := fun _ => rfl
        timer := fun _ => rfl
        server := fun _ => served }
    dsimp only
    split
    · rename_i empty
      exact ready.setStatus _ (fun _ => empty) (fun _ => rfl)
    · have catching := ready.setStatus .catchingUp (by rintro ⟨⟩) (fun _ => rfl)
      exact { catching with
        timer := fun _ => catching.active (Or.inl (State.setStatus_status _ _)) }

/-- `start()` begins anew. -/
theorem Sequenced.start (sequenced : Sequenced state) (opens : Bool) (now : ℚ)
    (idle : state.status.Startable → ¬ state.catchupTimer.Running) :
    Sequenced (state.start opens now) := by
  unfold State.start
  split
  · rename_i startable
    have reset : Sequenced (state.reset now) := by
      unfold State.reset
      obtain ⟨stall, changed⟩ := state.setStatus_eq .connecting
      rw [changed]
      refine ⟨rfl, List.Sublist.slnil, fun _ => rfl, ?_, ?_, ?_,
        fun nonempty => absurd rfl nonempty⟩
      · rintro (catching | transcribing)
        · cases catching
        · cases transcribing
      · exact fun running => absurd running (idle startable)
      · rintro ⟨⟩
    dsimp only
    split
    · exact { reset with server := by rintro ⟨⟩ }
    · exact reset.setStatus_inactive ⟨by rintro ⟨⟩, by rintro ⟨⟩⟩
  · exact sequenced

theorem Sequenced.clearTimers (sequenced : Sequenced state) : Sequenced state.clearTimers :=
  { sequenced with timer := fun running => sequenced.timer running.of_clear }

theorem Sequenced.setEnded (sequenced : Sequenced state) : Sequenced state.setEnded := by
  unfold State.setEnded
  split
  · exact sequenced
  · exact sequenced.setStatus_inactive ⟨by rintro ⟨⟩, by rintro ⟨⟩⟩

theorem Sequenced.finishStop (sequenced : Sequenced state) : Sequenced state.finishStop :=
  Sequenced.setEnded { sequenced with server := fun _ => Or.inl rfl }

theorem Sequenced.stop (sequenced : Sequenced state) : Sequenced state.stop := by
  have cleared := sequenced.clearTimers
  unfold State.stop
  dsimp only
  split
  · exact Sequenced.finishStop { cleared with }
  · exact { cleared with }

/-- A socket that is there changes its state. -/
theorem Sequenced.setSocket (sequenced : Sequenced state) {socket : Option ℕ}
    (present : state.socket socket ≠ none) (readyState : ReadyState) :
    Sequenced (state.setSocket readyState socket) := by
  cases socket with
  | none =>
      refine { sequenced with server := fun ready => Or.inr ?_ }
      exact (sequenced.server ready).resolve_left present
  | some index => exact { sequenced with }

theorem Sequenced.send (sequenced : Sequenced state) {message : Sent π} (throws : Bool)
    (silent : message.frame = none) : Sequenced (state.send message throws) := by
  unfold State.send
  split
  · exact sequenced
  · have frames : ({ state with sent := state.sent ++ [message] } : State π).frames =
        state.frames := by
      simp [State.frames, silent]
    refine { sequenced with numbered := ?_, ordered := ?_, afterReady := ?_ }
    · rw [frames]
      exact sequenced.numbered
    · rw [frames]
      exact sequenced.ordered
    · rw [frames]
      exact sequenced.afterReady

/-- A message is handled. One that says ready is believed only if the server of
`ws` has said it, or nothing can be sent. -/
theorem Sequenced.handleMessage (sequenced : Sequenced state) {data : Option PyJson}
    (throws : Bool)
    (server : SaysReady data →
      state.ws = none ∨ state.serverReady = true ∨ state.readyReceived = true) :
    Sequenced (state.handleMessage numberText data throws) := by
  have reset : Sequenced state.resetStallWatchdog := by
    obtain ⟨stall, changed⟩ := state.resetStallWatchdog_eq
    rw [changed]
    exact { sequenced with }
  unfold State.handleMessage
  split
  · rename_i fields
    unfold State.dispatch
    split
    · rename_i ready
      refine reset.onReady ?_
      obtain ⟨stall, changed⟩ := state.resetStallWatchdog_eq
      rw [changed]
      exact server ready
    · exact { reset with }
    · exact { reset with }
    · obtain ⟨buffer, expected, changed⟩ := state.resetStallWatchdog.bufferChunk_eq fields
      rw [changed]
      exact { reset with }
    · obtain ⟨segments, buffer, expected, changed⟩ :=
        state.resetStallWatchdog.assembleFinalChunks_eq numberText
      rw [changed]
      refine Sequenced.setStatus_inactive ?_ ⟨by rintro ⟨⟩, by rintro ⟨⟩⟩
      exact { reset with }
    · exact reset.setStatus_inactive ⟨by rintro ⟨⟩, by rintro ⟨⟩⟩
    · unfold State.sendPingEcho
      split
      · exact reset.send throws rfl
      · exact reset
    · exact reset
  · exact reset

/-- Every step that meets the condition keeps the frames in sequence. -/
theorem Sequenced.step {past : List (Action π)} {action : Action π}
    (sequenced : Sequenced state) (delivers : action.Delivers)
    (clean : CleanReady past state action)
    (taken : AdminSpa.step numberText state action = some next) : Sequenced next := by
  unfold AdminSpa.step at taken
  cases action with
  | start opens now =>
      cases taken
      exact sequenced.start opens now clean
  | stop =>
      cases taken
      exact sequenced.stop
  | startRecording =>
      cases taken
      exact { sequenced with }
  | microphone stream =>
      obtain ⟨_, answered⟩ := Option.ite_none_right_eq_some.mp taken
      cases answered
      exact { sequenced with }
  | worklet worklet =>
      obtain ⟨_, answered⟩ := Option.ite_none_right_eq_some.mp taken
      cases answered
      exact { sequenced with }
  | stopRecording =>
      cases taken
      unfold State.stopRecording
      split
      · split
        · exact { sequenced with }
        · exact { sequenced with }
      · exact sequenced
  | workletStopped index =>
      obtain ⟨pending, _, rfl⟩ := Option.map_eq_some_iff.mp taken
      cases pending with
      | session => exact Sequenced.finishStop { sequenced with }
      | recording => exact { sequenced with }
  | captured pcm now throws =>
      cases taken
      cases delivers
      exact sequenced.handleFrame pcm now
  | opened socket =>
      obtain ⟨connecting, opened⟩ := Option.ite_none_right_eq_some.mp taken
      cases opened
      have spawning : Sequenced ((state.setSocket .opened socket).setStatus .spawningGpu) := by
        refine Sequenced.setStatus_inactive ?_ ⟨by rintro ⟨⟩, by rintro ⟨⟩⟩
        exact sequenced.setSocket (by rw [connecting]; rintro ⟨⟩) .opened
      exact { spawning with }
  | message socket data throws =>
      obtain ⟨_, heard⟩ := Option.ite_none_right_eq_some.mp taken
      cases heard
      have kept : Sequenced { state with
          serverReady := state.serverReady ∨ (socket = none ∧ SaysReady data) } :=
        { sequenced with
          server := fun ready => (sequenced.server ready).imp_right fun served => by simp [served]
          afterReady := fun nonempty => by simp [sequenced.afterReady nonempty] }
      refine kept.handleMessage throws fun ready => ?_
      cases socket with
      | none => exact Or.inr (Or.inl (by simp [ready]))
      | some index => exact (clean ready).imp_right Or.inr
  | transportError socket =>
      obtain ⟨_, same⟩ := Option.ite_none_left_eq_some.mp taken
      cases same
      exact sequenced
  | closed socket =>
      obtain ⟨absent, closed⟩ := Option.ite_none_left_eq_some.mp taken
      cases closed
      exact (sequenced.setSocket (fun none => absent (Or.inl none)) .closed).clearTimers.setEnded
  | spawnPing throws =>
      obtain ⟨_, pinged⟩ := Option.ite_none_right_eq_some.mp taken
      cases pinged
      unfold State.sendPing
      split
      · exact sequenced.send throws rfl
      · exact sequenced
  | catchup now throws =>
      obtain ⟨running, ticked⟩ := Option.ite_none_right_eq_some.mp taken
      cases ticked
      cases delivers
      exact sequenced.catchup running now
  | spawnStall =>
      obtain ⟨_, fired⟩ := Option.ite_none_right_eq_some.mp taken
      cases fired
      exact { sequenced with }

/-- **The audio path.** In every run in which `start()` finds no catch-up
interval running and only the server of `ws` says that it is ready, the frames
sent since the last `start()` are in sequence. -/
theorem frames_in_sequence
    (delivers : Meets (AdminSpa.step numberText) (fun _ _ action => action.Delivers) []
      State.initial actions)
    (clean : Meets (AdminSpa.step numberText) CleanReady [] State.initial actions)
    (run : execute (AdminSpa.step numberText) State.initial actions = some final) :
    InSequence final := by
  have sequenced : Sequenced final :=
    execute_invariant .initial (fun _ _ _ _ kept asked taken => kept.step asked.1 asked.2 taken)
      (delivers.and clean) run
  exact sequenced.inSequence

/-! ## A session, and one started over another -/

instance : DecidablePred (Action.Delivers : Action π → Prop)
  | .captured _ _ throws | .message _ _ throws | .spawnPing throws | .catchup _ throws =>
      inferInstanceAs (Decidable (throws = false))
  | .start _ _ | .stop | .startRecording | .microphone _ | .worklet _ | .stopRecording
  | .workletStopped _ | .opened _ | .transportError _ | .closed _ | .spawnStall =>
      .isTrue trivial

instance (past : List (Action π)) (state : State π) : DecidablePred (CleanReady past state)
  | .start _ _ => inferInstanceAs (Decidable (_ → ¬ _))
  | .message (some _) data _ => inferInstanceAs (Decidable (SaysReady data → _ ∨ _))
  | .message none _ _ | .stop | .startRecording | .microphone _ | .worklet _ | .stopRecording
  | .workletStopped _ | .captured _ _ _ | .opened _ | .transportError _ | .closed _
  | .spawnPing _ | .catchup _ _ | .spawnStall => .isTrue trivial

/-- A session that records while the server starts and after. -/
def sampleSession : List (Action ℕ) :=
  [.start true 0, .opened none, .captured 10 0 false, .message none (plainMessage "ready") false,
    .catchup 0 false, .captured 11 0 false, .catchup 0 false, .catchup 0 false,
    .captured 12 0 false]

/-- Its frames are in sequence. -/
theorem frames_in_sequence_sample :
    ∃ final, execute (step sampleNumberText) State.initial sampleSession = some final ∧
      final.frames = [(0, 10), (1, 11), (2, 12)] ∧ InSequence final := by
  obtain ⟨final, run, frames⟩ := Option.map_eq_some_iff.mp
    (show (execute (step sampleNumberText) State.initial sampleSession).map State.frames =
      some [(0, 10), (1, 11), (2, 12)] by decide +kernel)
  exact ⟨final, run, frames, frames_in_sequence (by decide +kernel) (by decide +kernel) run⟩

/-- The server fails during catch-up, and the session is started again: the
interval is still there, and sends a frame before the new server is ready. -/
def restartedSession : List (Action ℕ) :=
  [.start true 0, .opened none, .captured 10 0 false, .message none (plainMessage "ready") false,
    .message none (plainMessage "error") false, .start true 0, .opened none,
    .captured 20 0 false, .catchup 0 false]

theorem frame_before_ready :
    ¬ ∀ (actions : List (Action ℕ)) (final : State ℕ),
      (∀ action ∈ actions, action.Delivers) →
      execute (step sampleNumberText) State.initial actions = some final →
      InSequence final := by
  intro always
  obtain ⟨final, run, ends⟩ := Option.map_eq_some_iff.mp
    (show (execute (step sampleNumberText) State.initial restartedSession).map
      (fun final => (final.frames, final.serverReady)) = some ([(0, 20)], false) by
        decide +kernel)
  obtain ⟨frames, unready⟩ := Prod.mk.inj ends
  have ready := (always restartedSession final (by decide +kernel) run).afterReady
    (by rw [frames]; exact List.cons_ne_nil _ _)
  rw [unready] at ready
  cases ready

end Panakoes.AdminSpa
