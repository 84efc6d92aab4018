import Panakoes.TranscriberStream.Finalize

/-! # The archived transcript

What the transcript object holds, beside what the ASR has committed in the
session. The finalize path hands `write_final_tokens` only what `online.finish()`
returns, so the object is complete when no token was committed before.
-/

namespace Panakoes.TranscriberStream

open PyJson (get)

variable {service : Service} {script : Script} {state before after : State} {key : String}
  {object : PyJson}

/-- The tokens of a transcript object. -/
def archivedTokens : PyJson → List PyJson
  | .dict fields =>
      match get fields "tokens" with
      | .list tokens => tokens
      | _ => []
  | _ => []

/-- The tokens the ASR has committed, also in passes that raised afterwards. -/
def State.committedTokens (state : State) : List AsrToken := state.passes.flatMap Pass.committed

/-- The transcript has all committed tokens, followed by those that
`online.finish()` returned. -/
def Complete (drain : Drain) (final : State) (object : PyJson) : Prop :=
  archivedTokens object = (final.committedTokens ++ drain.remaining).map AsrToken.entry

theorem Posts.put_mem (posts : Posts before after) (put : .put key object ∈ after.log) :
    .put key object ∈ before.log := by
  obtain ⟨messages, grown⟩ := posts
  rw [grown, List.mem_append] at put
  rcases put with earlier | later
  · exact earlier
  · obtain ⟨_, -, ⟨⟩⟩ := List.mem_map.mp later

/-- The finalize path puts the remaining tokens. -/
theorem put_mem_effects {drain : Drain} {reason : String} {messages : List PyJson} {exit : Exit}
    (put : .put key object ∈ drain.effects service reason messages exit) :
    object = snapshot service.sessionId drain.remaining drain.audioUpto := by
  rw [Drain.effects, List.mem_append, List.mem_append] at put
  rcases put with (archived | posted) | terminates
  · unfold Drain.archived at archived
    split at archived
    · obtain ⟨⟩ := List.mem_singleton.mp archived
      rfl
    · cases archived
  · obtain ⟨_, -, ⟨⟩⟩ := List.mem_map.mp posted
  · split at terminates
    · obtain ⟨⟩ := List.mem_singleton.mp terminates
    · cases terminates

theorem put_mem_drainAndExit {drain : Drain} {reason status : String}
    (unarchived : .put key object ∉ state.log)
    (put : .put key object ∈ (state.drainAndExit service drain reason status).1.log) :
    object = snapshot service.sessionId drain.remaining drain.audioUpto := by
  obtain ⟨_, messages, exit, drained, -⟩ :=
    drainAndExit_spec service state drain reason status
  rw [drained, List.mem_append, List.mem_cons] at put
  rcases put with earlier | ⟨⟨⟩⟩ | later
  · exact absurd earlier unarchived
  · exact put_mem_effects later

/-- The object a run puts is the snapshot of the remaining tokens. -/
theorem put_mem_run (put : .put key object ∈ (run service script).1.log) :
    object = snapshot service.sessionId script.drain.remaining script.drain.audioUpto := by
  have unarchived : ∀ {after}, Posts script.start after → .put key object ∉ after.log := by
    intro after posts present
    cases posts.put_mem present
  by_cases cancelled : script.Cancelled
  · exact absurd put (unarchived (told_cancelled cancelled).posts)
  · rcases run_opened service cancelled with ⟨-, sent, raised, told⟩ | ⟨ready, told, goesOn⟩
    · rw [raised] at put
      exact absurd put (unarchived told.posts)
    · have quiet := unarchived
        (told.posts.trans (posts_consume script.framesRaise script.turns ready))
      rw [goesOn] at put
      generalize ready.consume script.framesRaise script.turns = result at put quiet
      obtain ⟨state, ended⟩ := result
      cases ended with
      | raised => exact absurd put quiet
      | spotDrain => exact put_mem_drainAndExit quiet put
      | again | leave => exact put_mem_drainAndExit quiet put

/-! ## The passes of a run -/

theorem Told.passes (told : Told before after) : after.passes = before.passes := by
  obtain ⟨_, _, rfl⟩ := told
  rfl

theorem passes_deliver (turn : Turn) (committed : List AsrToken) (processedUpto : ℚ) :
    (state.deliver turn committed processedUpto).1.passes = state.passes := by
  have partialSent : (state.sendPartial turn).1.passes = state.passes := by
    unfold State.sendPartial
    dsimp only
    split
    · exact (told_send _ _ _).passes
    · rfl
  unfold State.deliver
  split
  · rename_i raised
    rwa [raised] at partialSent
  · rename_i sent _ returned
    rw [returned] at partialSent
    have finalsSent := (told_sendWhileOk (committed.map (finalMessage processedUpto)) sent
      turn.finalPosts).passes
    split
    · rename_i raised
      rw [raised] at finalsSent
      exact finalsSent.trans partialSent
    · rename_i returned
      rw [returned] at finalsSent
      exact finalsSent.trans partialSent

/-- A turn makes its pass, unless the chunk is not one of samples. -/
theorem passes_consumeChunk (state : State) (turn : Turn) :
    (state.consumeChunk turn).1.passes = state.passes ++ [turn.pass] ∨
      (state.consumeChunk turn).1.passes = state.passes ∧
        (state.consumeChunk turn).2 = .raised := by
  unfold State.consumeChunk
  split
  · exact Or.inr ⟨rfl, rfl⟩
  · split
    · exact Or.inl rfl
    · exact Or.inl (passes_deliver turn _ _)

/-- The passes the loop makes are those of its first turns. -/
theorem passes_consume (framesRaise : Bool) (turns : List Turn) :
    ∀ state : State, ∃ made, made <+: turns.map Turn.pass ∧
      (state.consume framesRaise turns).1.passes = state.passes ++ made := by
  induction turns with
  | nil => exact fun state => ⟨[], List.nil_prefix, (List.append_nil _).symm⟩
  | cons turn rest ih =>
      intro state
      have first := passes_consumeChunk state turn
      unfold State.consume
      split
      · rename_i next again
        rw [again] at first
        obtain ⟨made, early, further⟩ := ih next
        rcases first with made_now | ⟨-, ⟨⟩⟩
        refine ⟨turn.pass :: made, List.cons_prefix_cons.mpr ⟨rfl, early⟩, ?_⟩
        rw [further, made_now, List.append_assoc]
        rfl
      · rcases first with made_now | ⟨unmade, -⟩
        · exact ⟨[turn.pass], List.cons_prefix_cons.mpr ⟨rfl, List.nil_prefix⟩, made_now⟩
        · exact ⟨[], List.nil_prefix, by rw [unmade, List.append_nil]⟩

theorem passes_finalize (drain : Drain) (ended : TurnEnd) :
    (state.finalize service drain ended).1.passes = state.passes := by
  have drained : ∀ reason status,
      (state.drainAndExit service drain reason status).1.passes = state.passes := by
    intro reason status
    obtain ⟨_, _, _, drained, -⟩ :=
      drainAndExit_spec service state drain reason status
    rw [drained]
  cases ended with
  | raised => rfl
  | spotDrain => exact drained _ _
  | again | leave => exact drained _ _

/-- A run makes passes of the script's turns, in their order. -/
theorem passes_run : (run service script).1.passes <+: script.turns.map Turn.pass := by
  have none_yet : ∀ {after}, Told script.start after → after.passes = [] := fun told => told.passes
  by_cases cancelled : script.Cancelled
  · rw [none_yet (told_cancelled cancelled)]
    exact List.nil_prefix
  · rcases run_opened service cancelled with ⟨-, sent, raised, told⟩ | ⟨ready, told, goesOn⟩
    · rw [raised]
      dsimp only
      rw [none_yet told]
      exact List.nil_prefix
    · obtain ⟨made, early, consumed⟩ := passes_consume script.framesRaise script.turns ready
      rw [goesOn, passes_finalize, consumed, none_yet told]
      exact early

/-- **Archive.** When a run has put its transcript object, the object is complete
exactly if the ASR had committed no token in any pass. -/
theorem archive_complete_iff (put : .put key object ∈ (run service script).1.log) :
    Complete script.drain (run service script).1 object ↔
      (run service script).1.committedTokens = [] := by
  have archived : archivedTokens object = script.drain.remaining.map AsrToken.entry := by
    rw [put_mem_run put]
    rfl
  rw [Complete, archived, List.map_append, List.self_eq_append_left, List.map_eq_nil_iff]

/-- A run whose passes commit nothing archives what is left. -/
theorem archive_complete_of_none :
    ∃ key object, .put key object ∈ (run sampleService (sampleScript [] " bye")).1.log ∧
      Complete (sampleScript [] " bye").drain (run sampleService (sampleScript [] " bye")).1
        object := by
  obtain ⟨_, _, -, final⟩ := run_finalizes sampleService (sampleScript_sound [] " bye") (by decide)
  have put := final.archived rfl
  exact ⟨_, _, put, (archive_complete_iff put).mpr (by decide +kernel)⟩

/-- The word that a pass has committed is not archived. -/
theorem committed_not_archived :
    ¬ ∀ (service : Service) (script : Script) (key : String) (object : PyJson),
      .put key object ∈ (run service script).1.log →
      Complete script.drain (run service script).1 object := by
  intro always
  obtain ⟨_, _, -, final⟩ :=
    run_finalizes sampleService (sampleScript_sound [" hello"] " bye") (by decide)
  have complete := always _ _ _ _ (final.archived rfl)
  have committed : (run sampleService (sampleScript [" hello"] " bye")).1.committedTokens =
      [sampleToken " hello"] := by decide +kernel
  rw [Complete, committed] at complete
  have lengths := congrArg List.length complete
  cases lengths

end Panakoes.TranscriberStream
