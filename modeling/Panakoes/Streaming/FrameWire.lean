import Panakoes.Foundation.Base64
import Panakoes.Foundation.JsonReading
import Panakoes.StreamingRouter.FrameRouting
import Panakoes.TranscriberStream.SqsConsumer

/-! # The audio frame on the wire

A frame passes three codecs: the SPA writes it with `btoa` and `JSON.stringify`,
the streaming-router flattens it into a queue message, and the transcriber reads
that message. The JSON and base64 codecs of both services are the ones of Python.
How floats are written and how timestamps are read stay parameters.
-/

namespace Panakoes.Streaming

open JsonText StreamingRouter TranscriberStream

/-! ## The SPA -/

/-- `chunkSize`. -/
def chunkSize : ℕ := 0x8000

/-- `String.fromCharCode(...codes)`. -/
def fromCharCode (codes : List UInt8) : List Char := codes.map fun code => Char.ofNat code.toNat

/-- `btoa`, which throws on a character that is not a byte. -/
def btoa (binary : List Char) : Option String :=
  if binary.all fun char => char.toNat < 256 then
    some (String.ofList (Base64.encode (binary.map fun char => UInt8.ofNat char.toNat)))
  else none

/-- The loop over the chunks. -/
def appendChunks (bytes : Bytes) (i : ℕ) (binary : List Char) : List Char :=
  if i < bytes.length then
    appendChunks bytes (i + chunkSize) (binary ++ fromCharCode ((bytes.drop i).take chunkSize))
  else binary
termination_by bytes.length - i
decreasing_by
  unfold chunkSize
  omega

/-- `defaultEncodePcm`. -/
def defaultEncodePcm (bytes : Bytes) : Option String := btoa (appendChunks bytes 0 [])

/-- The loop appends the bytes it has not seen yet. -/
theorem appendChunks_eq (bytes : Bytes) (i : ℕ) (binary : List Char) :
    appendChunks bytes i binary = binary ++ fromCharCode (bytes.drop i) := by
  fun_induction appendChunks bytes i binary with
  | case1 i binary more ih =>
      rw [ih, List.append_assoc, fromCharCode, fromCharCode, ← List.map_append, ← List.drop_drop,
        List.take_append_drop, fromCharCode]
  | case2 i binary done =>
      rw [List.drop_eq_nil_of_le (Nat.le_of_not_lt done)]
      exact (List.append_nil binary).symm

theorem toNat_ofNat_toNat (byte : UInt8) : (Char.ofNat byte.toNat).toNat = byte.toNat := by
  have small := UInt8.toNat_lt byte
  have valid : byte.toNat.isValidChar := Or.inl (by omega)
  rw [Char.ofNat, dif_pos valid]
  rfl

/-- The encoder never throws, and no chunk boundary shows in its text. -/
theorem defaultEncodePcm_eq (bytes : Bytes) :
    defaultEncodePcm bytes = some (String.ofList (Base64.encode bytes)) := by
  have all : ((fromCharCode bytes).all fun char => char.toNat < 256) = true := by
    rw [List.all_eq_true]
    intro char member
    obtain ⟨byte, -, rfl⟩ := List.mem_map.mp member
    rw [toNat_ofNat_toNat]
    exact decide_eq_true (UInt8.toNat_lt byte)
  have back : (fromCharCode bytes).map (fun char => UInt8.ofNat char.toNat) = bytes := by
    rw [fromCharCode, List.map_map]
    refine (List.map_congr_left fun byte _ => ?_).trans (List.map_id bytes)
    rw [Function.comp_apply, toNat_ofNat_toNat, UInt8.ofNat_toNat, id]
  rw [defaultEncodePcm, appendChunks_eq, List.nil_append, List.drop_zero, btoa, if_pos all, back]

/-- The style of `JSON.stringify`; `numeral` writes a number that is not an integer. -/
def stringify (numeral : ℚ → Numeral) : Style := ⟨false, false, numeral⟩

/-- `envelope` of `transmitFrame`. -/
def envelope (seq : ℕ) (tsMsDelta : ℤ) (pcmB64 : String) : List (String × PyJson) :=
  [("action", .str "audio-frame"), ("v", .int 1), ("seq", .int seq),
    ("ts_ms_delta", .int tsMsDelta), ("pcm_b64", .str pcmB64)]

/-- The object behind a frame's text: the envelope and any other keys, in any
order. `JSON.stringify` writes an integer below `10 ^ 21` by its digits, and the
counter and the clock stay far below. -/
structure ClientFrame (numeral : ℚ → Numeral) (read : Numeral → Option ℚ) where
  pcm : Bytes
  seq : ℕ
  tsMsDelta : ℤ
  seq_lt : seq < 10 ^ 21
  tsMsDelta_lt : tsMsDelta.natAbs < 10 ^ 21
  pcmB64 : String
  encoded : defaultEncodePcm pcm = some pcmB64
  extra : List (String × PyJson)
  extra_written : ∀ entry ∈ extra, Written (stringify numeral) read entry.2
  members : List (String × PyJson)
  members_perm : members.Perm (envelope seq tsMsDelta pcmB64 ++ extra)
  members_distinct : (members.map Prod.fst).Nodup

/-- A short integer has its digits read. -/
theorem short_of_lt {value : ℕ} (small : value < 10 ^ 21) :
    (Nat.toDigits 10 value).length ≤ maxStrDigits := by
  have digits : (Nat.toDigits 10 value).length ≤ 21 :=
    (Nat.length_toDigits_le_iff (by decide) (by decide)).mpr small
  exact digits.trans (by decide)

namespace ClientFrame

variable {numeral : ℚ → Numeral} {read : Numeral → Option ℚ} (frame : ClientFrame numeral read)

/-- The text sent over the WebSocket. -/
def text : String := dumps (stringify numeral) (.dict frame.members)

theorem written : Written (stringify numeral) read (.dict frame.members) := by
  refine .dict frame.members_distinct fun entry member => ?_
  rcases List.mem_append.mp (frame.members_perm.mem_iff.mp member) with own | other
  · simp only [envelope, List.mem_cons, List.not_mem_nil, or_false] at own
    rcases own with rfl | rfl | rfl | rfl | rfl
    · exact .str _
    · exact .int _ (by decide)
    · exact .int _ (short_of_lt frame.seq_lt)
    · exact .int _ (short_of_lt frame.tsMsDelta_lt)
    · exact .str _
  · exact frame.extra_written entry other

/-- The envelope's own keys are found among the members. -/
theorem lookup_envelope {key : String} {value : PyJson}
    (own : (key, value) ∈ envelope frame.seq frame.tsMsDelta frame.pcmB64) :
    frame.members.lookup key = some value :=
  PyJson.lookup_of_mem frame.members_distinct
    (frame.members_perm.mem_iff.mpr (List.mem_append_left _ own))

end ClientFrame

/-! ## The router -/

/-- A codec that reads every float as too large. -/
def coarseFloats : PyFloats where
  read := fun _ => none
  repr := fun _ => ⟨false, 0, some ⟨['0'], by decide, by simp⟩, none⟩
  isFloat := fun _ => Or.inl rfl
  read_repr := by
    intro numeral value reads
    cases reads

/-- The codec of the streaming-router. -/
def routerCodec (floats : PyFloats) : Codec := ⟨loads floats.read, dumps floats.pyStyle⟩

/-- What the client sent is an object that can be written again. -/
theorem flattenBody_written {floats : PyFloats} {body : Option String}
    {flattened : List (String × PyJson)}
    (decoded : flattenBody (routerCodec floats) body = .ok flattened) :
    Written floats.pyStyle floats.read (.dict flattened) := by
  have empty : Written floats.pyStyle floats.read (.dict []) :=
    .dict List.nodup_nil fun _ member => absurd member List.not_mem_nil
  unfold flattenBody at decoded
  split at decoded
  · cases decoded
    exact empty
  · split at decoded
    · rename_i loaded
      cases decoded
      exact .of_loads floats.exact loaded
    · cases decoded
      exact empty
    · cases decoded
      exact empty
    · cases decoded

theorem framePayload_written {floats : PyFloats} {flattened : List (String × PyJson)}
    (written : Written floats.pyStyle floats.read (.dict flattened)) (connectionId : String)
    (body : Option String) (receivedAt : String) :
    Written floats.pyStyle floats.read (framePayload flattened connectionId body receivedAt) := by
  have bodyWritten : Written floats.pyStyle floats.read (bodyValue body) := by
    cases body with
    | none => exact .none
    | some text => exact .str text
  exact ((written.set (.str connectionId)).set bodyWritten).set (.str receivedAt)

/-- A sent frame carries the client's own object below the router's keys. -/
theorem routeAudioFrame_eq_some {codec : Codec} {legacyUrl : String} {cache : QueueUrlCache}
    {event : FrameEvent} {now : ℚ} {rowRead : RowRead} {request : SendRequest}
    (sent : (routeAudioFrame codec legacyUrl cache event now rowRead).1 = some request) :
    ∃ flattened, flattenBody codec event.body = .ok flattened ∧
      request.messageBody = codec.dumps
        (framePayload flattened event.connectionId event.body event.receivedAt) := by
  unfold routeAudioFrame at sent
  split at sent
  split at sent
  · rename_i flattened _ decoded
    cases sent
    exact ⟨flattened, decoded, rfl⟩
  · cases sent

/-- What a queue message decodes to. -/
theorem loads_messageBody {floats : PyFloats} {legacyUrl : String} {cache : QueueUrlCache}
    {event : FrameEvent} {now : ℚ} {rowRead : RowRead} {request : SendRequest}
    (sent : (routeAudioFrame (routerCodec floats) legacyUrl cache event now rowRead).1 =
      some request) :
    ∃ flattened, flattenBody (routerCodec floats) event.body = .ok flattened ∧
      loads floats.read request.messageBody =
        .ok (framePayload flattened event.connectionId event.body event.receivedAt) := by
  obtain ⟨flattened, decoded, body⟩ := routeAudioFrame_eq_some sent
  refine ⟨flattened, decoded, ?_⟩
  rw [body]
  exact loads_dumps (framePayload_written (flattenBody_written decoded) _ _ _)

/-- The keys of a queue message that are the router's own. -/
structure RouterKeys (event : FrameEvent) (entries : List (String × PyJson)) : Prop where
  sessionId : PyJson.get entries "session_id" = .str event.connectionId
  body : PyJson.get entries "body" = bodyValue event.body
  receivedAt : PyJson.get entries "received_at" = .str event.receivedAt

/-- Every other key is the client's. -/
def Kept (flattened entries : List (String × PyJson)) : Prop :=
  ∀ key, key ≠ "session_id" → key ≠ "body" → key ≠ "received_at" →
    ∀ default, PyJson.getD entries key default = PyJson.getD flattened key default

/-- The router's own values stand, whatever keys the client sent. -/
theorem framePayload_keys (flattened : List (String × PyJson)) (event : FrameEvent) :
    ∃ entries, framePayload flattened event.connectionId event.body event.receivedAt =
      .dict entries ∧ RouterKeys event entries ∧ Kept flattened entries := by
  refine ⟨_, rfl, ⟨?_, ?_, ?_⟩, fun key notSession notBody notReceived default => ?_⟩
  · rw [PyJson.get, PyJson.getD_set_of_ne (by decide), PyJson.getD_set_of_ne (by decide),
      PyJson.getD_set_self]
  · rw [PyJson.get, PyJson.getD_set_of_ne (by decide), PyJson.getD_set_self]
  · rw [PyJson.get, PyJson.getD_set_self]
  · rw [PyJson.getD_set_of_ne notReceived, PyJson.getD_set_of_ne notBody,
      PyJson.getD_set_of_ne notSession]

/-! ## The transcriber -/

/-- `base64.b64decode(text, validate=True)`. -/
def b64decode (text : String) : Except PyError Bytes :=
  match Base64.decode text.toList with
  | some bytes => .ok bytes
  | none => .error .valueError

/-- The decoders of the transcriber-stream container. -/
def pyDecoders (floats : PyFloats) (timestamp : String → Except PyError ℚ) : Decoders :=
  ⟨loads floats.read, timestamp, b64decode⟩

theorem b64decode_encode (bytes : Bytes) :
    b64decode (String.ofList (Base64.encode bytes)) = .ok bytes := by
  rw [b64decode, String.toList_ofList, Base64.decode_encode]

/-- A queue message of the router is stale, or its audio is looked at. -/
theorem decode_routed {floats : PyFloats} {timestamp : String → Except PyError ℚ}
    {startedAt ts : ℚ} {legacyUrl : String} {cache : QueueUrlCache} {event : FrameEvent} {now : ℚ}
    {rowRead : RowRead} {request : SendRequest} {message : Message}
    (sent : (routeAudioFrame (routerCodec floats) legacyUrl cache event now rowRead).1 =
      some request)
    (body : message.body = some request.messageBody)
    (parsed : timestamp (SQSConsumer.replaceZulu event.receivedAt) = .ok ts) :
    ∃ flattened entries, flattenBody (routerCodec floats) event.body = .ok flattened ∧
      Kept flattened entries ∧
      (⟨pyDecoders floats timestamp, startedAt⟩ : SQSConsumer).decode message =
        if ts < startedAt - SQSConsumer.staleFrameCutoffSeconds then .ok .stale
        else (⟨pyDecoders floats timestamp, startedAt⟩ : SQSConsumer).decodePcm entries := by
  obtain ⟨flattened, decoded, loaded⟩ := loads_messageBody sent
  obtain ⟨entries, payload, keys, kept⟩ := framePayload_keys flattened event
  refine ⟨flattened, entries, decoded, kept, ?_⟩
  have staleness : (⟨pyDecoders floats timestamp, startedAt⟩ : SQSConsumer).isStale
      (PyJson.get entries "received_at") =
        .ok (ts < startedAt - SQSConsumer.staleFrameCutoffSeconds) := by
    rw [keys.receivedAt]
    simp only [SQSConsumer.isStale, pyDecoders, parsed]
  rw [payload] at loaded
  unfold SQSConsumer.decode
  rw [body, Option.getD_some]
  simp only [pyDecoders] at staleness ⊢
  rw [loaded]
  simp only [staleness]
  by_cases stale : ts < startedAt - SQSConsumer.staleFrameCutoffSeconds
  · rw [if_pos stale, decide_eq_true stale]
  · rw [if_neg stale, decide_eq_false stale]

end Panakoes.Streaming
