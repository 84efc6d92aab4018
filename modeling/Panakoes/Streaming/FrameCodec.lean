import Panakoes.Streaming.FrameWire

/-! # A frame's way from the browser to the transcriber

The queue message keeps the router's own values, whatever the client sends, and a
frame with audio arrives with its bytes and its `seq`. A frame without audio is
dropped by the consumer's test for a missing `pcm_b64`.
-/

namespace Panakoes.Streaming

open Transition JsonText StreamingRouter TranscriberStream SQSConsumer

/-- What a message with the frame decodes to: no text stands for no audio. -/
def arrival (seq : ℕ) (pcm : Bytes) : Decoded :=
  if pcm = [] then .malformed else .frame (some seq) pcm

section Decode

variable {numeral : ℚ → Numeral} {floats : PyFloats} {timestamp : String → Except PyError ℚ}
  {startedAt ts : ℚ} {frame : ClientFrame numeral floats.read} {entries : List (String × PyJson)}

theorem flattenBody_text (frame : ClientFrame numeral floats.read) :
    flattenBody (routerCodec floats) (some frame.text) = .ok frame.members := by
  have loaded : (routerCodec floats).loads frame.text = .ok (.dict frame.members) :=
    loads_dumps frame.written
  have visible : frame.text ≠ "" := by
    intro empty
    rw [empty] at loaded
    cases loaded
  simp only [flattenBody, nonempty, Option.filter, visible, ne_eq, not_false_eq_true, decide_true,
    if_true, loaded]

/-- The envelope of the SPA is decoded to its bytes and its `seq`. -/
theorem decodePcm_members (kept : Kept frame.members entries) :
    (⟨pyDecoders floats timestamp, startedAt⟩ : SQSConsumer).decodePcm entries =
      .ok (arrival frame.seq frame.pcm) := by
  have encoded : frame.pcmB64 = String.ofList (Base64.encode frame.pcm) :=
    Option.some.inj (frame.encoded.symm.trans (defaultEncodePcm_eq frame.pcm))
  have audioHeld : frame.members.lookup "pcm_b64" = some (.str frame.pcmB64) :=
    frame.lookup_envelope (by simp [envelope])
  have seqHeld : frame.members.lookup "seq" = some (.int frame.seq) :=
    frame.lookup_envelope (by simp [envelope])
  have audio : PyJson.getD entries "pcm_b64" (.str "") = .str frame.pcmB64 := by
    rw [kept _ (by decide) (by decide) (by decide), PyJson.getD, audioHeld, Option.getD_some]
  have seq : PyJson.get entries "seq" = .int frame.seq := by
    rw [PyJson.get, kept _ (by decide) (by decide) (by decide), PyJson.getD, seqHeld,
      Option.getD_some]
  have usable : usableSeq (.int frame.seq) = some frame.seq := by
    simp [usableSeq, PyJson.int?]
  unfold decodePcm arrival
  rw [audio, seq, usable, encoded]
  by_cases silent : frame.pcm = []
  · rw [if_pos silent, silent]
    rfl
  · have visible : String.ofList (Base64.encode frame.pcm) ≠ "" := by
      intro empty
      refine silent (Base64.encode_eq_nil.mp ?_)
      rw [← String.toList_ofList (l := Base64.encode frame.pcm), empty]
      rfl
    simp only [PyJson.nonemptyStr?, if_neg visible, pyDecoders, b64decode_encode, if_neg silent]

/-- **Decoding what the router sent for a frame.** -/
theorem decode_clientFrame {legacyUrl : String} {cache : QueueUrlCache} {connectionId : String}
    {receivedAt : String} {now : ℚ} {rowRead : RowRead} {request : SendRequest} {message : Message}
    (sent : (routeAudioFrame (routerCodec floats) legacyUrl cache
      ⟨connectionId, some frame.text, receivedAt⟩ now rowRead).1 = some request)
    (body : message.body = some request.messageBody)
    (parsed : timestamp (replaceZulu receivedAt) = .ok ts) (started : startedAt ≤ ts) :
    (⟨pyDecoders floats timestamp, startedAt⟩ : SQSConsumer).decode message =
      .ok (arrival frame.seq frame.pcm) := by
  obtain ⟨flattened, entries, decoded, kept, decodes⟩ :=
    decode_routed sent body parsed
  rw [flattenBody_text] at decoded
  cases decoded
  have late : ¬ts < startedAt - staleFrameCutoffSeconds := by
    have cutoff : (0 : ℚ) ≤ staleFrameCutoffSeconds := by decide
    exact not_lt.mpr ((sub_le_self _ cutoff).trans started)
  rw [decodes, if_neg late]
  exact decodePcm_members kept

end Decode

/-- The consumer waits for messages with nothing buffered, and the frame is next. -/
structure Awaits (state : SQSConsumer.State) (seq : ℕ) : Prop where
  receiving : state.pc = .receiving
  empty : state.pending = ∅
  expected : ∀ next ∈ state.nextSeq, next = seq
  unseen : alreadyYielded state.yieldedUpTo seq = false

/-- A consumer that waits for its first messages. -/
def receivingFirst : SQSConsumer.State := { initial with pc := .receiving }

theorem awaits_receivingFirst (seq : ℕ) : Awaits receivingFirst seq where
  receiving := rfl
  empty := rfl
  expected := by
    intro next held
    cases held
  unseen := rfl

section Receive

variable {consumer : SQSConsumer} {state : SQSConsumer.State} {message : Message} {seq : ℕ}
  {pcm : Bytes}

/-- A frame that is next is yielded in the step that receives it. -/
theorem step_receive_frame (awaits : Awaits state seq)
    (decodes : consumer.decode message = .ok (.frame (some seq) pcm)) (now : ℚ) :
    ∃ after, consumer.step state (.receive (.messages [message]) now) = some after ∧
      after.yielded = state.yielded ++ [(some seq, pcm)] := by
  have next : state.nextSeq.getD seq = seq := by
    cases held : state.nextSeq with
    | none => rfl
    | some other => exact awaits.expected other held
  have lowest : (state.pending.insert seq pcm).keys.min? = some seq := by
    rw [AList.keys_insert, awaits.empty, AList.keys_empty, List.erase_nil]
    rfl
  have taken : ∀ stale malformed duplicate, consumer.takeIn state.yieldedUpTo
      ⟨state.pending, [], [], stale, malformed, duplicate⟩ [message] =
        .ok ⟨state.pending.insert seq pcm, [], deleteEntry message, stale, malformed, duplicate⟩ := by
    intro stale malformed duplicate
    have unbuffered : seq ∉ state.pending := by
      rw [awaits.empty]
      exact List.not_mem_nil
    simp [takeIn, decodes, Intake.accept, awaits.unseen, unbuffered]
  refine ⟨_, if_pos awaits.receiving, ?_⟩
  simp only [batchReceive, taken, State.emitPayloads, State.enterFlush, lowest, next]
  simp only [State.flushLoop, AList.lookup_insert]
  rfl

/-- A message without audio is counted and deleted, and nothing is yielded. -/
theorem step_receive_malformed (receiving : state.pc = .receiving) (empty : state.pending = ∅)
    (running : state.stopped = false) (decodes : consumer.decode message = .ok .malformed)
    (now : ℚ) :
    consumer.step state (.receive (.messages [message]) now) =
      some { state with
        malformedDropped := state.malformedDropped + 1
        deleteRequests := state.deleteRequests ++
          if deleteEntry message = [] then [] else [deleteEntry message] } := by
  have none : (∅ : Pending).keys.min? = none := rfl
  rw [step, if_pos receiving]
  simp only [batchReceive, takeIn, decodes, Intake.accept, empty, State.emitPayloads,
    State.enterFlush, none, State.loopHead, running, Bool.false_eq_true, if_false,
    List.nil_append, receiving]

end Receive

/-- A frame with a resolved queue is sent. -/
theorem routeAudioFrame_sends {numeral : ℚ → Numeral} {floats : PyFloats} {legacyUrl : String}
    {cache : QueueUrlCache} {connectionId queueUrl : String} {now : ℚ} {rowRead : RowRead}
    (frame : ClientFrame numeral floats.read) (receivedAt : String)
    (resolved : nonempty (resolveFrameQueueUrl legacyUrl cache connectionId now rowRead).1 =
      some queueUrl) :
    ∃ request, (routeAudioFrame (routerCodec floats) legacyUrl cache
      ⟨connectionId, some frame.text, receivedAt⟩ now rowRead).1 = some request ∧
        request.queueUrl = queueUrl := by
  simp only [routeAudioFrame, resolved, flattenBody_text]
  exact ⟨_, rfl, rfl⟩

/-- **Round trip of an audio frame.** Every queue message holds the router's own
`session_id`, `body` and `received_at`, and a frame with audio that is received
after the container has started is decoded to its bytes under its `seq`. -/
theorem audioFrame_roundTrip (floats : PyFloats) (numeral : ℚ → Numeral)
    (timestamp : String → Except PyError ℚ) (startedAt : ℚ) (legacyUrl : String)
    (cache : QueueUrlCache) (now : ℚ) (rowRead : RowRead) :
    (∀ event request,
      (routeAudioFrame (routerCodec floats) legacyUrl cache event now rowRead).1 = some request →
        ∃ entries, loads floats.read request.messageBody = .ok (.dict entries) ∧
          RouterKeys event entries) ∧
      ∀ (frame : ClientFrame numeral floats.read) connectionId receivedAt ts queueUrl,
        frame.pcm ≠ [] → timestamp (replaceZulu receivedAt) = .ok ts → startedAt ≤ ts →
        nonempty (resolveFrameQueueUrl legacyUrl cache connectionId now rowRead).1 =
          some queueUrl →
        ∃ request, (routeAudioFrame (routerCodec floats) legacyUrl cache
            ⟨connectionId, some frame.text, receivedAt⟩ now rowRead).1 = some request ∧
          request.queueUrl = queueUrl ∧
          ∀ message : Message, message.body = some request.messageBody →
            (⟨pyDecoders floats timestamp, startedAt⟩ : SQSConsumer).decode message =
              .ok (.frame (some frame.seq) frame.pcm) ∧
            ∀ state clock, Awaits state frame.seq →
              ∃ after, (⟨pyDecoders floats timestamp, startedAt⟩ : SQSConsumer).step state
                  (.receive (.messages [message]) clock) = some after ∧
                after.yielded = state.yielded ++ [(some frame.seq, frame.pcm)] := by
  constructor
  · intro event request sent
    obtain ⟨flattened, -, loaded⟩ := loads_messageBody sent
    obtain ⟨entries, payload, keys, -⟩ := framePayload_keys flattened event
    rw [payload] at loaded
    exact ⟨entries, loaded, keys⟩
  · intro frame connectionId receivedAt ts queueUrl audio parsed started resolved
    obtain ⟨request, sent, url⟩ := routeAudioFrame_sends frame receivedAt resolved
    refine ⟨request, sent, url, fun message body => ?_⟩
    have decodes := decode_clientFrame sent body parsed started
    rw [arrival, if_neg audio] at decodes
    exact ⟨decodes, fun state clock awaits => step_receive_frame awaits decodes clock⟩

/-- A frame of one sample, with two of the router's keys among the client's. -/
def sampleFrame : ClientFrame coarseFloats.repr coarseFloats.read where
  pcm := [1, 2]
  seq := 0
  tsMsDelta := 5
  seq_lt := by decide
  tsMsDelta_lt := by decide
  pcmB64 := "AQI="
  encoded := defaultEncodePcm_eq [1, 2]
  extra := [("session_id", .str "other"), ("received_at", .none)]
  extra_written := by
    intro entry member
    simp only [List.mem_cons, List.not_mem_nil, or_false] at member
    rcases member with rfl | rfl
    · exact .str _
    · exact .none
  members := envelope 0 5 "AQI=" ++ [("session_id", .str "other"), ("received_at", .none)]
  members_perm := .refl _
  members_distinct := by decide

theorem sampleFrame_roundTrip :
    ∃ request, (routeAudioFrame (routerCodec coarseFloats) "frames" []
        ⟨"c", some sampleFrame.text, "t"⟩ 0 .failed).1 = some request ∧
      request.queueUrl = "frames" ∧
      ∀ message : Message, message.body = some request.messageBody →
        (⟨pyDecoders coarseFloats fun _ => .ok 1, 0⟩ : SQSConsumer).decode message =
          .ok (.frame (some 0) [1, 2]) ∧
        ∀ state clock, Awaits state 0 →
          ∃ after, (⟨pyDecoders coarseFloats fun _ => .ok 1, 0⟩ : SQSConsumer).step state
              (.receive (.messages [message]) clock) = some after ∧
            after.yielded = state.yielded ++ [(some 0, [1, 2])] :=
  (audioFrame_roundTrip coarseFloats coarseFloats.repr (fun _ => .ok 1) 0 "frames" [] 0
    .failed).2 sampleFrame "c" "t" 1 "frames" (by decide) rfl (by decide) rfl

/-- A frame without samples. -/
def silentFrame : ClientFrame coarseFloats.repr coarseFloats.read where
  pcm := []
  seq := 0
  tsMsDelta := 5
  seq_lt := by decide
  tsMsDelta_lt := by decide
  pcmB64 := ""
  encoded := defaultEncodePcm_eq []
  extra := []
  extra_written := fun _ member => absurd member List.not_mem_nil
  members := envelope 0 5 ""
  members_perm := .refl _
  members_distinct := by decide

/-- The frame without samples is counted as malformed and never yielded. -/
theorem silentFrame_dropped :
    ∃ request, (routeAudioFrame (routerCodec coarseFloats) "frames" []
        ⟨"c", some silentFrame.text, "t"⟩ 0 .failed).1 = some request ∧
      ∃ final, (⟨pyDecoders coarseFloats fun _ => .ok 1, 0⟩ : SQSConsumer).frames
          [.next 0, .receive (.messages [⟨some "m", some "r", some request.messageBody⟩]) 0] =
            some final ∧
        final.yielded = [] ∧ final.malformedDropped = 1 := by
  have resolved : nonempty (resolveFrameQueueUrl "frames" [] "c" 0 .failed).1 = some "frames" := by
    decide
  obtain ⟨request, sent, -⟩ := routeAudioFrame_sends silentFrame "t" resolved
  have decodes : (⟨pyDecoders coarseFloats fun _ => .ok 1, 0⟩ : SQSConsumer).decode
      ⟨some "m", some "r", some request.messageBody⟩ = .ok .malformed :=
    decode_clientFrame sent rfl rfl (by decide)
  have taken := @step_receive_malformed _ receivingFirst _ rfl rfl rfl decodes 0
  exact ⟨request, sent, _, taken, rfl, rfl⟩

end Panakoes.Streaming
