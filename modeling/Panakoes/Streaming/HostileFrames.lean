import Mathlib.Data.Rat.Defs
import Panakoes.Streaming.FrameCodec
import Panakoes.TranscriberStream.FrameKeeping
import Panakoes.TranscriberStream.FrameLoss

/-! # Hostile frames

The body of an `audio-frame` message is whatever the client sends. This is the
consumer with the conversion its frames meet in the main loop: the bytes are taken
for 16-bit samples, and bytes that do not divide into samples raise.
-/

namespace Panakoes.Streaming

open Transition JsonText StreamingRouter TranscriberStream SQSConsumer

/-- A little-endian 16-bit sample. -/
def int16 (low high : UInt8) : ℤ :=
  let unsigned : ℤ := low.toNat + 256 * high.toNat
  if unsigned < 32768 then unsigned else unsigned - 65536

/-- `np.frombuffer(pcm_chunk, dtype=np.int16).astype(np.float32) / 32768.0`. -/
def samples : Bytes → Option (List ℚ)
  | [] => some []
  | [_] => none
  | low :: high :: rest => (samples rest).map fun later => (int16 low high : ℚ) / 32768 :: later

/-- The bytes divide into samples. -/
def WholeSamples (pcm : Bytes) : Prop := pcm.length % 2 = 0

theorem samples_isSome {pcm : Bytes} : (samples pcm).isSome ↔ WholeSamples pcm := by
  unfold WholeSamples
  induction pcm using samples.induct with
  | case1 => exact iff_of_true rfl rfl
  | case2 byte => exact iff_of_false Bool.noConfusion Nat.one_ne_zero
  | case3 low high rest ih =>
      rw [samples, Option.isSome_map, ih, List.length_cons, List.length_cons, Nat.add_assoc,
        Nat.add_mod_right]

/-! ## The pipeline -/

/-- The consumer, what has been handed to `insert_audio_chunk`, and whether the
conversion has raised. -/
structure Pipeline where
  source : SQSConsumer.State
  fed : List (List ℚ)
  raised : Bool

namespace Pipeline

/-- The pipeline when the consume loop starts. -/
def initial : Pipeline := ⟨SQSConsumer.initial, [], false⟩

/-- The body of the consume loop up to `insert_audio_chunk`, for each frame. -/
def feed (pipeline : Pipeline) : List (Option ℕ × Bytes) → Pipeline
  | [] => pipeline
  | (_, pcm) :: rest =>
      match samples pcm with
      | some converted => feed { pipeline with fed := pipeline.fed ++ [converted] } rest
      | none => { pipeline with raised := true }

/-- One step: the consumer's, and the conversion of what it yields. -/
def step (consumer : SQSConsumer) (pipeline : Pipeline) (action : SQSConsumer.Action) :
    Option Pipeline :=
  if pipeline.raised then none
  else
    (consumer.step pipeline.source action).map fun source =>
      { pipeline with source }.feed (source.yielded.drop pipeline.source.yielded.length)

variable {consumer : SQSConsumer} {messages : List Message} {pipeline : Pipeline}

/-- Frames of whole samples are converted and fed, all of them. -/
theorem feed_eq (pipeline : Pipeline) {frames : List (Option ℕ × Bytes)}
    (whole : ∀ frame ∈ frames, WholeSamples frame.2) :
    (pipeline.feed frames).source = pipeline.source ∧
      (pipeline.feed frames).raised = pipeline.raised ∧
      (pipeline.feed frames).fed.map some =
        pipeline.fed.map some ++ frames.map fun frame => samples frame.2 := by
  induction frames generalizing pipeline with
  | nil => exact ⟨rfl, rfl, (List.append_nil _).symm⟩
  | cons frame rest ih =>
      obtain ⟨seq, pcm⟩ := frame
      obtain ⟨first, later⟩ := List.forall_mem_cons.mp whole
      obtain ⟨converted, conversion⟩ := Option.isSome_iff_exists.mp (samples_isSome.mpr first)
      simp only [feed, conversion]
      obtain ⟨source, raised, fed⟩ := ih _ later
      refine ⟨source, raised, fed.trans ?_⟩
      rw [List.map_append, List.map_singleton, List.append_assoc, List.map_cons, conversion]
      rfl

/-- The condition on one step under which what a client sends does no harm: frames
divide into samples, a `seq` that counts as taken was taken by the same frame, and the
generator does not return with frames it holds. -/
structure Tolerates (consumer : SQSConsumer) (before : Pipeline) (action : SQSConsumer.Action) :
    Prop where
  whole : ∀ seq pcm, consumer.Sourced action.messages seq pcm → WholeSamples pcm
  consistent : consumer.Consistent before.source action.messages
  empty : ∀ now, action = .next now → ReturnsEmpty before.source

/-- Nothing raises, only valid frames are fed, every message is deleted, and every
valid frame is fed or still held; once the generator has returned, all are fed. -/
structure Harmless (consumer : SQSConsumer) (messages : List Message)
    (pipeline : Pipeline) : Prop where
  calm : pipeline.raised = false ∧ ∀ error, pipeline.source.pc ≠ .raised error
  valid : ∀ frame ∈ pipeline.source.yielded, consumer.Sourced messages frame.1 frame.2
  deleted : ∀ message ∈ messages, ∀ entry ∈ deleteEntry message,
    ∃ request ∈ pipeline.source.deleteRequests, entry ∈ request
  fed : pipeline.fed.map some = pipeline.source.yielded.map fun frame => samples frame.2
  numbered : ∀ seq pcm, consumer.Sourced messages (some seq) pcm →
    (some seq, pcm) ∈ pipeline.source.yielded ∨
      (pipeline.source.pc ≠ .returned ∧ pipeline.source.pending.lookup seq = some pcm)
  unnumbered : ∃ waiting, (waiting ≠ [] → pipeline.source.pc = .payloads waiting) ∧
    pipeline.source.unnumbered ++ waiting = consumer.unnumbered messages
  goesOn : pipeline.source.pc ≠ .returned → ∃ after, consumer.GoesOn after pipeline.source
  returns : pipeline.source.stopped = true → Acc consumer.GoesOn pipeline.source

/-- A step that brings no frame is tolerable before `stop()`. -/
theorem Tolerates.of_silent {before : Pipeline} {action : SQSConsumer.Action}
    (silent : ∀ seq pcm, ¬consumer.Sourced action.messages seq pcm)
    (running : before.source.stopped = false) : Tolerates consumer before action where
  whole := fun seq pcm sourced => absurd sourced (silent seq pcm)
  consistent := ⟨fun seq pcm sourced => absurd sourced (silent (some seq) pcm),
    fun seq pcm sourced => absurd sourced (silent (some seq) pcm),
    fun seq pcm sourced => absurd sourced (silent (some seq) pcm)⟩
  empty := by
    intro _ _ stopped
    rw [running] at stopped
    cases stopped

/-- The invariant of the pipeline. -/
structure Sound (consumer : SQSConsumer) (messages : List Message) (pipeline : Pipeline) :
    Prop where
  raised : pipeline.raised = false
  keeping : pipeline.source.Keeping consumer messages
  genuine : pipeline.source.Genuine consumer messages
  whole : ∀ seq pcm, consumer.Sourced messages seq pcm → WholeSamples pcm
  fed : pipeline.fed.map some = pipeline.source.yielded.map fun frame => samples frame.2

theorem initial_sound : initial.Sound consumer [] :=
  ⟨rfl, initial_keeping, initial_genuine,
    by rintro _ _ ⟨_, member, -⟩; exact absurd member List.not_mem_nil, rfl⟩

/-- Every tolerable step of messages that decode keeps the pipeline sound. -/
theorem step_sound {before after : Pipeline} {action : SQSConsumer.Action}
    (sound : before.Sound consumer messages)
    (calm : ∀ message ∈ action.messages, ∃ decoded, consumer.decode message = .ok decoded)
    (tolerates : Tolerates consumer before action)
    (taken : step consumer before action = some after) :
    after.Sound consumer (messages ++ action.messages) := by
  unfold step at taken
  rw [if_neg (by rw [sound.raised]; exact Bool.noConfusion), Option.map_eq_some_iff] at taken
  obtain ⟨source, moved, rfl⟩ := taken
  have keeping := step_keeping sound.keeping calm tolerates.consistent tolerates.empty moved
  have genuine := step_genuine sound.genuine moved
  have whole : ∀ seq pcm, consumer.Sourced (messages ++ action.messages) seq pcm →
      WholeSamples pcm := by
    rintro seq pcm ⟨message, member, decodes⟩
    rcases List.mem_append.mp member with before | new
    · exact sound.whole seq pcm ⟨message, before, decodes⟩
    · exact tolerates.whole seq pcm ⟨message, new, decodes⟩
  obtain ⟨new, grown⟩ := step_yielded moved
  have added : source.yielded.drop before.source.yielded.length = new := by
    rw [← grown, List.drop_left]
  have newWhole : ∀ frame ∈ new, WholeSamples frame.2 := by
    intro frame member
    have yielded : frame ∈ source.yielded := by
      rw [← grown]
      exact List.mem_append_right _ member
    exact whole frame.1 frame.2 (genuine.yielded frame yielded)
  rw [added]
  obtain ⟨same, raised, fed⟩ := feed_eq { before with source } newWhole
  refine ⟨raised.trans sound.raised, by rw [same]; exact keeping, by rw [same]; exact genuine,
    whole, ?_⟩
  rw [fed, same, ← grown, List.map_append, ← sound.fed]

/-- A sound pipeline has come to no harm. -/
theorem Sound.harmless (sound : pipeline.Sound consumer messages) :
    pipeline.Harmless consumer messages := by
  obtain ⟨waiting, held, keeps⟩ := sound.keeping.keeps
  refine ⟨⟨sound.raised, sound.keeping.calm⟩, sound.genuine.yielded, keeps.deleted, sound.fed,
    fun seq pcm sourced => ?_, ⟨waiting, held, keeps.unnumbered⟩,
    exists_goesOn sound.keeping.calm, acc_of_stopped⟩
  rcases keeps.numbered seq pcm sourced with yielded | buffered
  · exact Or.inl yielded
  · by_cases returned : pipeline.source.pc = .returned
    · exact Or.inl (sound.keeping.drained returned buffered)
    · exact Or.inr ⟨returned, buffered⟩

end Pipeline

/-- The router sent the message for some `audio-frame` event of a client. -/
def Routed (floats : PyFloats) (timestamp : String → Except PyError ℚ) (message : Message) :
    Prop :=
  ∃ legacyUrl cache event now rowRead request ts,
    (routeAudioFrame (routerCodec floats) legacyUrl cache event now rowRead).1 = some request ∧
      message.body = some request.messageBody ∧
      timestamp (replaceZulu event.receivedAt) = .ok ts

/-- Whatever the client sent, decoding the queue message does not raise. -/
theorem Routed.decodes {floats : PyFloats} {timestamp : String → Except PyError ℚ} {startedAt : ℚ}
    {message : Message} (routed : Routed floats timestamp message) :
    ∃ decoded, (⟨pyDecoders floats timestamp, startedAt⟩ : SQSConsumer).decode message =
      .ok decoded := by
  obtain ⟨legacyUrl, cache, event, now, rowRead, request, ts, sent, body, parsed⟩ := routed
  obtain ⟨flattened, entries, -, -, decodes⟩ := decode_routed sent body parsed
  rw [decodes]
  split
  · exact ⟨_, rfl⟩
  · unfold decodePcm
    split
    · exact ⟨_, rfl⟩
    · simp only [pyDecoders, b64decode]
      split
      · exact ⟨_, rfl⟩
      · rename_i raised
        split at raised
        · cases raised
        · exact ⟨_, rfl⟩
      · rename_i error other raised
        split at raised
        · cases raised
        · cases raised
          exact absurd rfl other

/-- **Hostile frames.** For whatever bodies clients send through the router, in every
run whose steps are tolerable, the consume pipeline comes to no harm. -/
theorem hostileFrames_harmless (floats : PyFloats) (timestamp : String → Except PyError ℚ)
    (startedAt : ℚ) {actions : List SQSConsumer.Action} {final : Pipeline}
    (routed : Meets (Pipeline.step ⟨pyDecoders floats timestamp, startedAt⟩)
      (fun _ _ action => ∀ message ∈ action.messages, Routed floats timestamp message) []
      .initial actions)
    (tolerated : Meets (Pipeline.step ⟨pyDecoders floats timestamp, startedAt⟩)
      (fun _ => Pipeline.Tolerates ⟨pyDecoders floats timestamp, startedAt⟩) [] .initial actions)
    (run : execute (Pipeline.step ⟨pyDecoders floats timestamp, startedAt⟩) .initial actions =
      some final) :
    final.Harmless ⟨pyDecoders floats timestamp, startedAt⟩ (delivered actions) := by
  apply Pipeline.Sound.harmless
  refine execute_induction (motive := fun past state =>
    Pipeline.Sound ⟨pyDecoders floats timestamp, startedAt⟩ (delivered past) state)
    Pipeline.initial_sound ?_ (routed.and tolerated) run
  rintro past before action after - sound ⟨arrived, tolerates⟩ taken
  rw [delivered_concat]
  exact Pipeline.step_sound sound (fun message member => (arrived message member).decodes)
    tolerates taken

/-- The time of every frame of the examples. -/
def wireTime (_ : String) : Except PyError ℚ := .ok 1

/-- The consumer of the examples, started before all frames. -/
def wireConsumer : SQSConsumer := ⟨pyDecoders coarseFloats wireTime, 0⟩

/-- A queue message of the examples. -/
def wireMessage (request : SendRequest) : Message := ⟨some "m", some "r", some request.messageBody⟩

/-- What a receive does to a pipeline that has fed nothing yet. -/
theorem step_receive {consumer : SQSConsumer} {source after : SQSConsumer.State}
    {batch : List Message} (empty : source.yielded = [])
    (taken : consumer.step source (.receive (.messages batch) 0) = some after) :
    Pipeline.step consumer ⟨source, [], false⟩ (.receive (.messages batch) 0) =
      some (Pipeline.feed ⟨after, [], false⟩ after.yielded) := by
  simp only [Pipeline.step, Bool.false_eq_true, if_false, taken, Option.map_some, empty,
    List.length_nil, List.drop_zero]

/-- A body from which the router takes no keys is dropped for its missing audio. -/
theorem decode_empty {legacyUrl : String} {cache : QueueUrlCache} {event : FrameEvent} {now : ℚ}
    {rowRead : RowRead} {request : SendRequest}
    (sent : (routeAudioFrame (routerCodec coarseFloats) legacyUrl cache event now rowRead).1 =
      some request)
    (empty : flattenBody (routerCodec coarseFloats) event.body = .ok []) :
    wireConsumer.decode (wireMessage request) = .ok .malformed := by
  have parsed : wireTime (replaceZulu event.receivedAt) = .ok 1 := rfl
  have body : (wireMessage request).body = some request.messageBody := rfl
  obtain ⟨flattened, entries, decoded, kept, decodes⟩ := decode_routed sent body parsed
  rw [empty] at decoded
  cases decoded
  have silent : PyJson.getD entries "pcm_b64" (.str "") = .str "" :=
    kept _ (by decide) (by decide) (by decide) _
  refine decodes.trans ?_
  rw [if_neg (by decide +kernel), decodePcm, silent]
  rfl

/-- A body that is not JSON, and then a frame. -/
theorem hostileFrames_harmless_garbage :
    ∃ garbage request, (routeAudioFrame (routerCodec coarseFloats) "frames" []
        ⟨"c", some "x", "t"⟩ 0 .failed).1 = some garbage ∧
      (routeAudioFrame (routerCodec coarseFloats) "frames" []
        ⟨"c", some sampleFrame.text, "t"⟩ 0 .failed).1 = some request ∧
      ∃ final, execute (Pipeline.step wireConsumer) .initial
          [.next 0, .receive (.messages [wireMessage garbage]) 0,
            .receive (.messages [wireMessage request]) 0] = some final ∧
        final.Harmless wireConsumer [wireMessage garbage, wireMessage request] := by
  have resolved : nonempty (resolveFrameQueueUrl "frames" [] "c" 0 .failed).1 = some "frames" := by
    decide
  obtain ⟨request, sent, -⟩ := routeAudioFrame_sends sampleFrame "t" resolved
  have decodes : wireConsumer.decode (wireMessage request) = .ok (.frame (some 0) [1, 2]) :=
    decode_clientFrame sent rfl rfl (by decide)
  obtain ⟨garbage, sentGarbage⟩ : ∃ garbage, (routeAudioFrame (routerCodec coarseFloats) "frames" []
      ⟨"c", some "x", "t"⟩ 0 .failed).1 = some garbage := ⟨_, rfl⟩
  have malformed : wireConsumer.decode (wireMessage garbage) = .ok .malformed :=
    decode_empty sentGarbage rfl
  have first : Pipeline.step wireConsumer .initial (.next 0) = some ⟨receivingFirst, [], false⟩ :=
    rfl
  have dropped := @step_receive_malformed _ receivingFirst _ rfl rfl rfl malformed 0
  have second := step_receive rfl dropped
  set emptied : SQSConsumer.State := { receivingFirst with
    malformedDropped := receivingFirst.malformedDropped + 1
    deleteRequests := receivingFirst.deleteRequests ++
      if deleteEntry (wireMessage garbage) = [] then [] else [deleteEntry (wireMessage garbage)] }
  have awaits : Awaits emptied 0 := ⟨rfl, rfl, (awaits_receivingFirst 0).expected, rfl⟩
  obtain ⟨after, taken, yielded⟩ := step_receive_frame awaits decodes 0
  have third := @step_receive _ emptied _ _ rfl taken
  have run : execute (Pipeline.step wireConsumer) .initial
      [.next 0, .receive (.messages [wireMessage garbage]) 0,
        .receive (.messages [wireMessage request]) 0] =
      some (Pipeline.feed ⟨after, [], false⟩ after.yielded) := by
    rw [execute_cons, first, Option.bind_some, execute_cons, second, Option.bind_some]
    exact third
  refine ⟨garbage, request, sentGarbage, sent, _, run, ?_⟩
  have routed : ∀ message ∈ [wireMessage garbage, wireMessage request],
      Routed coarseFloats wireTime message := by
    intro message member
    simp only [List.mem_cons, List.not_mem_nil, or_false] at member
    rcases member with rfl | rfl
    · exact ⟨_, _, _, _, _, _, 1, sentGarbage, rfl, rfl⟩
    · exact ⟨_, _, _, _, _, _, 1, sent, rfl, rfl⟩
  have noneFrom : ∀ seq pcm, ¬wireConsumer.Sourced [wireMessage garbage] seq pcm := by
    rintro seq pcm ⟨message, member, carries⟩
    rw [List.mem_singleton.mp member, malformed] at carries
    cases carries
  have oneFrom : ∀ seq pcm, wireConsumer.Sourced [wireMessage request] seq pcm →
      seq = some 0 ∧ pcm = [1, 2] := by
    rintro seq pcm ⟨message, member, carries⟩
    rw [List.mem_singleton.mp member, decodes] at carries
    cases carries
    exact ⟨rfl, rfl⟩
  refine hostileFrames_harmless coarseFloats wireTime 0 ?_ ?_ run
  · refine .cons (fun _ member => absurd member List.not_mem_nil) first (.cons ?_ second
      (.cons ?_ third trivial))
    · intro message member
      exact routed message (List.mem_cons.mpr (Or.inl (List.mem_singleton.mp member)))
    · exact fun message member => routed message (List.mem_cons_of_mem _ member)
  · refine .cons ?_ first (.cons ?_ second (.cons ?_ third trivial))
    · exact .of_silent (by rintro _ _ ⟨_, member, -⟩; exact List.not_mem_nil member) rfl
    · exact .of_silent noneFrom rfl
    · refine ⟨fun seq pcm sourced => ?_, ⟨?_, ?_, ?_⟩,
        fun _ moved => SQSConsumer.Action.noConfusion moved⟩
      · rw [(oneFrom seq pcm sourced).2]
        exact rfl
      · intro seq pcm _ taken
        cases taken
      · intro seq pcm _ other held
        cases held
      · intro seq pcm sourced other beside
        rw [(oneFrom _ _ sourced).2, (oneFrom _ _ beside).2]

/-- A frame of half a sample. -/
def oddFrame : ClientFrame coarseFloats.repr coarseFloats.read where
  pcm := [0]
  seq := 0
  tsMsDelta := 5
  seq_lt := silentFrame.seq_lt
  tsMsDelta_lt := silentFrame.tsMsDelta_lt
  pcmB64 := "AA=="
  encoded := defaultEncodePcm_eq [0]
  extra := []
  extra_written := silentFrame.extra_written
  members := envelope 0 5 "AA=="
  members_perm := .refl _
  members_distinct := silentFrame.members_distinct

/-- Half a sample is valid base64 and raises in the main loop. -/
theorem oddFrame_raises :
    ∃ request, (routeAudioFrame (routerCodec coarseFloats) "frames" []
        ⟨"c", some oddFrame.text, "t"⟩ 0 .failed).1 = some request ∧
      ∃ final, execute (Pipeline.step wireConsumer) .initial
          [.next 0, .receive (.messages [wireMessage request]) 0] = some final ∧
        final.raised = true := by
  have resolved : nonempty (resolveFrameQueueUrl "frames" [] "c" 0 .failed).1 = some "frames" := by
    decide
  obtain ⟨request, sent, -⟩ := routeAudioFrame_sends oddFrame "t" resolved
  have decodes : wireConsumer.decode (wireMessage request) = .ok (.frame (some 0) [0]) :=
    decode_clientFrame sent rfl rfl (by decide)
  obtain ⟨after, taken, yielded⟩ := step_receive_frame (awaits_receivingFirst 0) decodes 0
  have first : Pipeline.step wireConsumer .initial (.next 0) = some ⟨receivingFirst, [], false⟩ := rfl
  have received := step_receive rfl taken
  refine ⟨request, sent, Pipeline.feed ⟨after, [], false⟩ after.yielded, ?_, ?_⟩
  · rw [execute_cons, first, Option.bind_some, execute_cons, received]
    rfl
  · rw [yielded]
    rfl

end Panakoes.Streaming
