import Panakoes.TranscriberStream.Session

/-! # The finalize path

When a run comes to the finalize path, and what it has done there by its end.
A disconnect or a Spot warning that is seen before the consume loop opens ends
the run without it. Once the loop is open the path is entered when the loop
ends, for whatever reason, unless something raises: a send that fails with
another error than a 410, a chunk that is not made of whole samples, or the frame
source.
-/

namespace Panakoes.TranscriberStream

open PyJson (get set getD_set_self getD_set_of_ne)

variable {service : Service} {script : Script} {state next before middle after : State}

/-! ## Sends -/

/-- Sends may find the connection gone and leave posts in the log. They change
nothing else. -/
def Told (before after : State) : Prop :=
  ∃ (gone : Bool) (messages : List PyJson),
    after = { before with gone := gone, log := before.log ++ messages.map .posted }

theorem Told.refl (state : State) : Told state state :=
  ⟨state.gone, [], by rw [List.map_nil, List.append_nil]⟩

theorem Told.trans (first : Told before middle) (second : Told middle after) :
    Told before after := by
  obtain ⟨_, messages, rfl⟩ := first
  obtain ⟨gone, further, rfl⟩ := second
  exact ⟨gone, messages ++ further, by rw [List.map_append, ← List.append_assoc]⟩

theorem told_send (state : State) (message : PyJson) (post : Post) : Told state (state.send message post).1 := by
  have hangUp : Told state { state with gone := true } :=
    ⟨true, [], by rw [List.map_nil, List.append_nil]⟩
  unfold State.send
  split
  · exact .refl state
  · split
    · exact hangUp
    · split
      · exact ⟨state.gone, [message], rfl⟩
      · exact hangUp
      · exact .refl state

/-- A post that does not fail does not raise. -/
theorem send_ok (state : State) (message : PyJson) {post : Post} (answered : post.outcome ≠ .failed) :
    ∃ told, (state.send message post).2 = .ok told := by
  unfold State.send
  split
  · exact ⟨_, rfl⟩
  · split
    · exact ⟨_, rfl⟩
    · split
      · exact ⟨_, rfl⟩
      · exact ⟨_, rfl⟩
      · rename_i failed
        exact absurd failed answered

theorem told_sendAll (messages : List PyJson) :
    ∀ (state : State) (posts : ℕ → Post), Told state (state.sendAll posts messages).1 := by
  induction messages with
  | nil => exact fun state _ => .refl state
  | cons message rest ih =>
      intro state posts
      have first := told_send state message (posts 0)
      unfold State.sendAll
      split
      · rename_i sent _ raised
        rwa [raised] at first
      · rename_i sent _ returned
        rw [returned] at first
        exact first.trans (ih sent _)

theorem sendAll_ok (messages : List PyJson) :
    ∀ (state : State) (posts : ℕ → Post), (∀ index, (posts index).outcome ≠ .failed) →
      (state.sendAll posts messages).2 = .ok () := by
  induction messages with
  | nil => exact fun _ _ _ => rfl
  | cons message rest ih =>
      intro state posts answered
      obtain ⟨told, sent⟩ := send_ok state message (answered 0)
      unfold State.sendAll
      split
      · rename_i raised
        rw [raised] at sent
        cases sent
      · exact ih _ _ fun index => answered (index + 1)

theorem told_sendWhileOk (messages : List PyJson) :
    ∀ (state : State) (posts : ℕ → Post), Told state (state.sendWhileOk posts messages).1 := by
  induction messages with
  | nil => exact fun state _ => .refl state
  | cons message rest ih =>
      intro state posts
      have first := told_send state message (posts 0)
      unfold State.sendWhileOk
      split
      · rename_i raised
        rwa [raised] at first
      · rename_i sent returned
        rw [returned] at first
        exact first.trans (ih sent _)
      · rename_i returned
        rwa [returned] at first

theorem sendWhileOk_ok (messages : List PyJson) :
    ∀ (state : State) (posts : ℕ → Post), (∀ index, (posts index).outcome ≠ .failed) →
      (state.sendWhileOk posts messages).2 = .ok () := by
  induction messages with
  | nil => exact fun _ _ _ => rfl
  | cons message rest ih =>
      intro state posts answered
      obtain ⟨told, sent⟩ := send_ok state message (answered 0)
      unfold State.sendWhileOk
      split
      · rename_i raised
        rw [raised] at sent
        cases sent
      · exact ih _ _ fun index => answered (index + 1)
      · rfl

/-! ## The consume loop -/

/-- The log has grown by posts only. -/
def Posts (before after : State) : Prop :=
  ∃ messages : List PyJson, after.log = before.log ++ messages.map .posted

theorem Posts.of_log_eq (same : after.log = before.log) : Posts before after :=
  ⟨[], by rw [same, List.map_nil, List.append_nil]⟩

theorem Posts.trans (first : Posts before middle) (second : Posts middle after) :
    Posts before after := by
  obtain ⟨messages, grown⟩ := first
  obtain ⟨further, grown'⟩ := second
  exact ⟨messages ++ further, by rw [grown', grown, List.map_append, List.append_assoc]⟩

theorem Told.posts (told : Told before after) : Posts before after := by
  obtain ⟨_, messages, rfl⟩ := told
  exact ⟨messages, rfl⟩

theorem posts_sendPartial (state : State) (turn : Turn) : Posts state (state.sendPartial turn).1 := by
  unfold State.sendPartial
  dsimp only
  generalize hypothesisText turn.buffer = hypothesis
  split
  · have noted : Posts state { state with
        lastPartialText := hypothesis, lastPartialSentAt := turn.nowMono } := .of_log_eq rfl
    exact noted.trans (told_send _ _ _).posts
  · exact .of_log_eq rfl

theorem posts_deliver (turn : Turn) (committed : List AsrToken) (processedUpto : ℚ) :
    Posts state (state.deliver turn committed processedUpto).1 := by
  have first := posts_sendPartial state turn
  unfold State.deliver
  split
  · rename_i raised
    rwa [raised] at first
  · rename_i sent _ returned
    rw [returned] at first
    have second := (told_sendWhileOk (committed.map (finalMessage processedUpto)) sent
      turn.finalPosts).posts
    split
    · rename_i raised
      rw [raised] at second
      exact first.trans second
    · rename_i told _ returned
      rw [returned] at second
      exact (first.trans second).trans (.of_log_eq rfl)

theorem posts_consumeChunk (state : State) (turn : Turn) : Posts state (state.consumeChunk turn).1 := by
  unfold State.consumeChunk
  split
  · exact .of_log_eq rfl
  · split
    · exact .of_log_eq rfl
    · have passed : Posts state (state.afterPass turn) := .of_log_eq rfl
      exact passed.trans (posts_deliver turn _ _)

/-- What the loop does to the log is to post messages. -/
theorem posts_consume (framesRaise : Bool) (turns : List Turn) :
    ∀ state : State, Posts state (state.consume framesRaise turns).1 := by
  induction turns with
  | nil => exact fun _ => .of_log_eq rfl
  | cons turn rest ih =>
      intro state
      have first := posts_consumeChunk state turn
      unfold State.consume
      split
      · rename_i next again
        rw [again] at first
        exact first.trans (ih next)
      · exact first

/-- A turn in which nothing raises. -/
structure Turn.Sound (turn : Turn) : Prop where
  samples : turn.pcm.length % 2 = 0
  partialPost : turn.partialPost.outcome ≠ .failed
  finalPosts : ∀ index, (turn.finalPosts index).outcome ≠ .failed

theorem deliver_sound {turn : Turn} (sound : turn.Sound) (committed : List AsrToken)
    (processedUpto : ℚ) : (state.deliver turn committed processedUpto).2 ≠ .raised := by
  have partialSent : ∃ told, (state.sendPartial turn).2 = .ok told := by
    unfold State.sendPartial
    dsimp only
    split
    · exact send_ok _ _ sound.partialPost
    · exact ⟨_, rfl⟩
  obtain ⟨_, partialSent⟩ := partialSent
  unfold State.deliver
  split
  · rename_i raised
    rw [raised] at partialSent
    cases partialSent
  · rename_i sent _ _
    have finalsSent := sendWhileOk_ok (committed.map (finalMessage processedUpto)) sent
      turn.finalPosts sound.finalPosts
    split
    · rename_i raised
      rw [raised] at finalsSent
      cases finalsSent
    · unfold State.turnEnd
      dsimp only
      split
      · rintro ⟨⟩
      · split <;> rintro ⟨⟩

theorem consumeChunk_sound (state : State) {turn : Turn} (sound : turn.Sound) :
    (state.consumeChunk turn).2 ≠ .raised := by
  unfold State.consumeChunk
  rw [if_neg (by rw [sound.samples]; decide)]
  split
  · rintro ⟨⟩
  · exact deliver_sound sound _ _

theorem consume_sound {turns : List Turn} (sound : ∀ turn ∈ turns, turn.Sound) :
    ∀ state : State, (state.consume false turns).2 ≠ .raised := by
  induction turns with
  | nil =>
      rintro state ⟨⟩
  | cons turn rest ih =>
      intro state
      have first := consumeChunk_sound state (sound turn (List.mem_cons_self ..))
      unfold State.consume
      split
      · exact ih (fun other member => sound other (List.mem_cons_of_mem _ member)) _
      · exact first

/-! ## The finalize path -/

/-- The object that is put, if S3 accepts it. -/
def Drain.archived (drain : Drain) (service : Service) : List Effect :=
  if drain.s3Accepts then
    [.put (transcriptKey service.sessionId)
      (snapshot service.sessionId drain.remaining drain.audioUpto)]
  else []

/-- What the finalize path leaves in the log after it is entered. -/
def Drain.effects (drain : Drain) (service : Service) (reason : String)
    (messages : List PyJson) (exit : Exit) : List Effect :=
  drain.archived service ++ messages.map .posted ++
    if exit = .returned then [.selfTerminate reason] else []

/-- The row at the end of the finalize path. -/
def Drain.rowAfter (drain : Drain) (service : Service) (row : List (String × PyJson))
    (status : String) : List (String × PyJson) :=
  if drain.s3Accepts ∧ drain.write.accepted then
    endedRow row status (transcriptKey service.sessionId) drain.audioUpto drain.write.now
  else row

theorem writeFinalTokens_eq (drain : Drain) (status : String) :
    state.writeFinalTokens service drain.remaining drain.audioUpto status drain.s3Accepts
      drain.write =
      { state with
        log := state.log ++ drain.archived service
        row := drain.rowAfter service state.row status } := by
  unfold State.writeFinalTokens Drain.rowAfter Drain.archived
  cases drain.s3Accepts with
  | true => simp
  | false => simp

/-- After the writes, messages are posted, and the instance terminates itself
unless a send raises. -/
theorem announce_spec (service : Service) (state : State) (drain : Drain) (reason : String) :
    ∃ (gone : Bool) (messages : List PyJson) (exit : Exit),
      state.announce service drain reason =
        ({ state with
          gone := gone
          log := state.log ++ (messages.map .posted ++
            if exit = .returned then [.selfTerminate reason] else []) }, exit) ∧
      ((∀ index, (drain.posts index).outcome ≠ .failed) → exit = .returned) := by
  unfold State.announce
  dsimp only
  split
  · exact ⟨state.gone, [], .returned, rfl, fun _ => rfl⟩
  · generalize finalChunkMessages service.dumps drain.remaining ++ _ = messages
    obtain ⟨gone, posted, told⟩ := told_sendAll messages state drain.posts
    split
    · rename_i sent error raised
      rw [raised] at told
      cases told
      refine ⟨gone, posted, .raised, ?_, fun answered => ?_⟩
      · rw [if_neg Exit.noConfusion, List.append_nil]
      · have answers := sendAll_ok messages state drain.posts answered
        rw [raised] at answers
        cases answers
    · rename_i sent _ returned
      rw [returned] at told
      cases told
      refine ⟨gone, posted, .returned, ?_, fun _ => rfl⟩
      rw [if_pos rfl, ← List.append_assoc]
      rfl

/-- **The finalize path.** It is entered, the object is put, messages are posted,
and the instance terminates itself unless a send raises. -/
theorem drainAndExit_spec (service : Service) (state : State) (drain : Drain) (reason status : String) :
    ∃ gone messages exit,
      state.drainAndExit service drain reason status =
        ({ state with
          gone := gone
          row := drain.rowAfter service state.row status
          log := state.log ++
            .finalize reason status :: drain.effects service reason messages exit }, exit) ∧
      ((∀ index, (drain.posts index).outcome ≠ .failed) → exit = .returned) := by
  unfold State.drainAndExit Drain.effects
  dsimp only
  rw [writeFinalTokens_eq]
  obtain ⟨gone, messages, exit, announced, answered⟩ := announce_spec service _ drain reason
  refine ⟨gone, messages, exit, ?_, answered⟩
  rw [announced]
  simp only [List.append_assoc, List.cons_append, List.nil_append]

/-! ## Runs -/

/-- The entries of the log that the end of a run is about. -/
def Effect.IsEnding : Effect → Prop
  | .finalize _ _ | .selfTerminate _ => True
  | .posted _ | .put _ _ => False

instance : DecidablePred Effect.IsEnding
  | .finalize _ _ | .selfTerminate _ => .isTrue trivial
  | .posted _ | .put _ _ => .isFalse id

/-- What a run does about its end, in order. -/
def State.endings (state : State) : List Effect := state.log.filter Effect.IsEnding

/-- Nothing raises but what belongs to the design: the sends after the status
message are accepted or find the connection gone, each chunk consists of whole
samples, and the frame source ends without an exception. -/
structure Script.Sound (script : Script) : Prop where
  ready : script.readyPost.outcome ≠ .failed
  turns : ∀ turn ∈ script.turns, turn.Sound
  frames : script.framesRaise = false
  drain : ∀ index, (script.drain.posts index).outcome ≠ .failed

theorem filter_posted (messages : List PyJson) :
    (messages.map Effect.posted).filter Effect.IsEnding = [] := by
  rw [List.filter_eq_nil_iff]
  rintro effect member
  obtain ⟨message, -, rfl⟩ := List.mem_map.mp member
  rw [decide_eq_true_eq]
  exact id

theorem Posts.endings (posts : Posts before after) : after.endings = before.endings := by
  obtain ⟨messages, grown⟩ := posts
  rw [State.endings, grown, List.filter_append, filter_posted, List.append_nil]
  rfl

theorem endings_effects (service : Service) (drain : Drain) (reason : String) (messages : List PyJson) :
    (drain.effects service reason messages .returned).filter Effect.IsEnding =
      [.selfTerminate reason] := by
  have archived : (drain.archived service).filter Effect.IsEnding = [] := by
    unfold Drain.archived
    split <;> rfl
  rw [Drain.effects, List.filter_append, List.filter_append, archived, filter_posted]
  rfl

/-- The status is what the row is left with. -/
theorem status_rowAfter {drain : Drain} (accepted : drain.s3Accepts = true)
    (written : drain.write.accepted = true) (row : List (String × PyJson)) (status : String) :
    get (drain.rowAfter service row status) "status" = .str status := by
  rw [Drain.rowAfter, if_pos ⟨accepted, written⟩]
  simp [endedRow, PyJson.get, getD_set_of_ne]

/-- The reasons a run ends for, with the status of each. -/
def endStatuses : List (String × String) :=
  [("spot-interrupted", "interrupted"), ("disconnected", "ended"),
    ("disconnected_by_410", "disconnected_by_410")]

/-- What has been done about the end of a run that went through the finalize
path once. -/
structure FinalizedOnce (service : Service) (drain : Drain) (result : State × Exit)
    (reason status : String) : Prop where
  endings : result.1.endings = [.finalize reason status, .selfTerminate reason]
  returned : result.2 = .returned
  archived : drain.s3Accepts = true →
    .put (transcriptKey service.sessionId)
      (snapshot service.sessionId drain.remaining drain.audioUpto) ∈ result.1.log
  status : drain.s3Accepts = true → drain.write.accepted = true →
    get result.1.row "status" = .str status

theorem drainAndExit_finalizes {drain : Drain}
    (answered : ∀ index, (drain.posts index).outcome ≠ .failed) (quiet : state.endings = [])
    (reason status : String) :
    FinalizedOnce service drain (state.drainAndExit service drain reason status) reason status := by
  obtain ⟨gone, messages, exit, drained, returns⟩ :=
    drainAndExit_spec service state drain reason status
  obtain rfl := returns answered
  rw [drained]
  refine ⟨?_, rfl, fun accepted => ?_, fun accepted written => status_rowAfter accepted written _ _⟩
  rotate_left
  · simp [Drain.effects, Drain.archived, accepted]
  have earlier : state.log.filter Effect.IsEnding = [] := quiet
  have later := endings_effects service drain reason messages
  rw [State.endings, List.filter_append, earlier, List.filter_cons_of_pos (by rfl), later]
  rfl

/-- A run that is cancelled posts at most one message. -/
theorem told_cancelled (cancelled : script.Cancelled) :
    Told script.start (run service script).1 := by
  have told := told_send script.start (.dict [("type", .str "error"),
    ("code", .str "session-cancelled-during-spawn")]) script.cancelPost
  unfold run
  rw [if_pos cancelled]
  split
  · rename_i raised
    rwa [raised] at told
  · rename_i returned
    rwa [returned] at told

/-- A run that is not cancelled fails to say that it is ready, or opens the loop
and comes to what follows the loop. -/
theorem run_opened (service : Service) (opened : ¬ script.Cancelled) :
    (script.readyPost.outcome = .failed ∧
        ∃ sent, run service script = (sent, .raised) ∧ Told script.start sent) ∨
      ∃ ready, Told script.start ready ∧ run service script =
        (ready.consume script.framesRaise script.turns).1.finalize service script.drain
          (ready.consume script.framesRaise script.turns).2 := by
  have warmed : Told script.start (script.start.emitStatus "warmup-complete"
    "Warmup pass complete" script.warmupAt script.warmupPost) := told_send _ _ _
  unfold run
  rw [if_neg opened]
  generalize script.start.emitStatus _ _ _ _ = warm at warmed
  have told := warmed.trans (told_send warm (.dict [("type", .str "ready")])
    script.readyPost)
  dsimp only
  split
  · rename_i sent _ raised
    rw [raised] at told
    refine Or.inl ⟨?_, sent, rfl, told⟩
    by_contra answered
    obtain ⟨_, returned⟩ := send_ok warm (.dict [("type", .str "ready")]) answered
    rw [raised] at returned
    cases returned
  · rename_i sent _ returned
    rw [returned] at told
    exact Or.inr ⟨sent, told, rfl⟩

/-- A run in which nothing raises is finalized once the loop is open. -/
theorem run_finalizes (service : Service) (sound : script.Sound) (opened : ¬ script.Cancelled) :
    ∃ reason status, (reason, status) ∈ endStatuses ∧
      FinalizedOnce service script.drain (run service script) reason status := by
  rcases run_opened service opened with ⟨failed, -⟩ | ⟨ready, told, goesOn⟩
  · exact absurd failed sound.ready
  · have consumed := posts_consume script.framesRaise script.turns ready
    have quiet : (ready.consume script.framesRaise script.turns).1.endings = [] :=
      (told.posts.trans consumed).endings
    have ends := consume_sound sound.turns ready
    rw [goesOn]
    rw [sound.frames] at quiet ⊢
    generalize ready.consume false script.turns = result at quiet ends ⊢
    obtain ⟨state, ended⟩ := result
    cases ended with
    | raised => exact absurd rfl ends
    | spotDrain =>
        exact ⟨_, _, by decide, drainAndExit_finalizes sound.drain quiet _ _⟩
    | again | leave =>
        refine ⟨_, _, ?_, drainAndExit_finalizes sound.drain quiet _ _⟩
        cases state.gone <;> decide

/-- A post that is accepted. -/
def acceptedPost : Post := ⟨false, .accepted⟩

/-- The sample service writes no texts that are measured. -/
def sampleService : Service := ⟨"session-1", fun _ => ""⟩

/-- A word without times. -/
def sampleToken (text : String) : AsrToken := ⟨text, none, none, none⟩

/-- A turn whose pass commits a word. -/
def sampleTurn (text : String) : Turn where
  pcm := [0, 0]
  pass := .returned [sampleToken text] 1
  buffer := []
  goneDuring := false
  nowMono := 1
  partialPost := acceptedPost
  finalPosts := fun _ => acceptedPost
  write := ⟨true, "t1"⟩
  spot := false
  disconnected := false

/-- A run whose passes commit a word each, with one word left at its end. -/
def sampleScript (words : List String) (last : String) : Script where
  gone := false
  spot := false
  disconnected := false
  row := []
  cancelPost := acceptedPost
  warmupPost := acceptedPost
  warmupAt := "t0"
  readyPost := acceptedPost
  turns := words.map sampleTurn
  framesRaise := false
  drain :=
    { finish := some ([sampleToken last], 2)
      goneDuring := false
      s3Accepts := true
      write := ⟨true, "t2"⟩
      posts := fun _ => acceptedPost }

theorem sampleScript_sound (words : List String) (last : String) :
    (sampleScript words last).Sound where
  ready := by rintro ⟨⟩
  turns := by
    intro turn member
    obtain ⟨word, -, rfl⟩ := List.mem_map.mp member
    exact ⟨Nat.mod_self 2, by rintro ⟨⟩, by rintro _ ⟨⟩⟩
  frames := rfl
  drain := by rintro _ ⟨⟩

end Panakoes.TranscriberStream
